import Fcmr.DotNet.Casing
import Fcmr.OrderRouting.RoutePlanner

/-! The simulated order management system: the last check before a fill. -/
namespace Fcmr.OrderRouting

open DotNet

structure ExecutionAuthorization where
  approvalId : Text
  proposalId : Text
  correlationId : Text
  approvedBy : Text
  approvedAt : DateTimeOffset
  expiresAt : DateTimeOffset

inductive ExecutionRefusalReason
  | noAuthorization
  | authorizationExpired
  | authorizationForDifferentProposal
  | segregationOfDuties
  | correlationMismatch
  deriving DecidableEq

def ExecutionRefusalReason.text : ExecutionRefusalReason → Text
  | noAuthorization => lit "NoAuthorization"
  | authorizationExpired => lit "AuthorizationExpired"
  | authorizationForDifferentProposal => lit "AuthorizationForDifferentProposal"
  | segregationOfDuties => lit "SegregationOfDuties"
  | correlationMismatch => lit "CorrelationMismatch"

theorem ExecutionRefusalReason.text_injective : Function.Injective ExecutionRefusalReason.text := by
  have hnodup : ([.noAuthorization, .authorizationExpired, .authorizationForDifferentProposal,
      .segregationOfDuties, .correlationMismatch].map ExecutionRefusalReason.text).Nodup := by
    decide +kernel
  intro reason reason' h
  exact List.inj_on_of_nodup_map hnodup (by cases reason <;> decide) (by cases reason' <;> decide) h

structure SimulatedExecution where
  executionId : Text
  proposalId : Text
  orderId : Text
  correlationId : Text
  venueCode : Text
  quantity : Int32
  price : Decimal
  executedAt : DateTimeOffset
  approvalId : Text

def SimulatedExecution.executionMode (_ : SimulatedExecution) : Text := lit "SIMULATED"

inductive ExecutionResult
  | executed (execution : SimulatedExecution) (explanation : Text)
  | refused (reason : ExecutionRefusalReason) (explanation : Text)

namespace SimulatedOms

def fill (proposal : RouteProposal) (authorization : ExecutionAuthorization)
    (now : DateTimeOffset) (executionId : Option Text) : SimulatedExecution where
  executionId := executionId.getD (lit "exec-" ++ proposal.proposalId)
  proposalId := proposal.proposalId
  orderId := proposal.orderId
  correlationId := proposal.correlationId
  venueCode := proposal.venueCode
  quantity := proposal.quantity
  price := proposal.cost.projectedPrice
  executedAt := now
  approvalId := authorization.approvalId

def execute (proposal : RouteProposal) (authorization : Option ExecutionAuthorization)
    (now : DateTimeOffset) (executionId : Option Text) : ExecutionResult :=
  match authorization with
  | none =>
    .refused .noAuthorization (lit "No approval was presented. A proposal is not an instruction.")
  | some authorization =>
    if authorization.proposalId ≠ proposal.proposalId then
      .refused .authorizationForDifferentProposal <|
        lit "Approval " ++ authorization.approvalId ++ lit " authorises proposal " ++
          authorization.proposalId ++ lit ", not " ++ proposal.proposalId ++ lit "."
    else if authorization.correlationId ≠ proposal.correlationId then
      .refused .correlationMismatch <|
        lit "Approval belongs to correlation " ++ authorization.correlationId ++
          lit ", proposal to " ++ proposal.correlationId ++ lit "."
    else if authorization.expiresAt ≤ now then
      .refused .authorizationExpired <|
        lit "Approval " ++ authorization.approvalId ++ lit " expired at " ++
          sortableText authorization.expiresAt ++ lit ". Expiry is not approval."
    else if equalsOrdinalIgnoreCase (some authorization.approvedBy) (some proposal.proposedBy) then
      .refused .segregationOfDuties <|
        lit "Identity " ++ authorization.approvedBy ++ lit " both proposed and approved this route."
    else
      .executed (fill proposal authorization now executionId)
        (lit "Filled at " ++ proposal.venueCode ++ lit " against the simulated OMS.")

structure Executable (proposal : RouteProposal) (authorization : ExecutionAuthorization)
    (now : DateTimeOffset) : Prop where
  sameProposal : authorization.proposalId = proposal.proposalId
  correlation : authorization.correlationId = proposal.correlationId
  inTime : now < authorization.expiresAt
  segregated : equalsOrdinalIgnoreCase (some authorization.approvedBy) (some proposal.proposedBy) =
    false

structure Authorised (proposal : RouteProposal) (authorization : ExecutionAuthorization)
    (now : DateTimeOffset) : Prop where
  sameProposal : authorization.proposalId = proposal.proposalId
  correlation : authorization.correlationId = proposal.correlationId
  inTime : now < authorization.expiresAt

theorem execute_of_authorised {proposal : RouteProposal} {authorization : ExecutionAuthorization}
    {now : DateTimeOffset} (h : Authorised proposal authorization now) (executionId : Option Text) :
    execute proposal (some authorization) now executionId =
      if equalsOrdinalIgnoreCase (some authorization.approvedBy) (some proposal.proposedBy) then
        .refused .segregationOfDuties <|
          lit "Identity " ++ authorization.approvedBy ++
            lit " both proposed and approved this route."
      else
        .executed (fill proposal authorization now executionId)
          (lit "Filled at " ++ proposal.venueCode ++ lit " against the simulated OMS.") := by
  have htime : ¬authorization.expiresAt ≤ now := Nat.not_le_of_lt h.inTime
  simp [execute, h.sameProposal, h.correlation, htime]

theorem refused_of_not_authorised {proposal : RouteProposal}
    {authorization : ExecutionAuthorization} {now : DateTimeOffset}
    (h : ¬Authorised proposal authorization now) (executionId : Option Text) :
    ∃ reason explanation, reason ≠ .noAuthorization ∧
      execute proposal (some authorization) now executionId = .refused reason explanation := by
  by_cases hproposal : authorization.proposalId = proposal.proposalId
  case neg => exact ⟨.authorizationForDifferentProposal, _, nofun, if_pos hproposal⟩
  by_cases hcorrelation : authorization.correlationId = proposal.correlationId
  case neg =>
    exact ⟨.correlationMismatch, _, nofun,
      (if_neg (not_not.mpr hproposal)).trans (if_pos hcorrelation)⟩
  by_cases htime : authorization.expiresAt ≤ now
  case neg => exact absurd ⟨hproposal, hcorrelation, Nat.lt_of_not_le htime⟩ h
  exact ⟨.authorizationExpired, _, nofun, (if_neg (not_not.mpr hproposal)).trans
    ((if_neg (not_not.mpr hcorrelation)).trans (if_pos htime))⟩

theorem execute_approver_of_not_authorised {proposal : RouteProposal}
    {authorization : ExecutionAuthorization} {now : DateTimeOffset}
    (h : ¬Authorised proposal authorization now) (executionId : Option Text) (approvedBy : Text) :
    execute proposal (some { authorization with approvedBy }) now executionId =
      execute proposal (some authorization) now executionId := by
  unfold execute
  by_cases hproposal : authorization.proposalId = proposal.proposalId
  case neg => simp [hproposal]
  by_cases hcorrelation : authorization.correlationId = proposal.correlationId
  case neg => simp [hproposal, hcorrelation]
  by_cases htime : authorization.expiresAt ≤ now
  case neg => exact absurd ⟨hproposal, hcorrelation, Nat.lt_of_not_le htime⟩ h
  simp [hproposal, hcorrelation, htime]

theorem execute_of_executable {proposal : RouteProposal} {authorization : ExecutionAuthorization}
    {now : DateTimeOffset} (h : Executable proposal authorization now) (executionId : Option Text) :
    execute proposal (some authorization) now executionId =
      .executed (fill proposal authorization now executionId)
        (lit "Filled at " ++ proposal.venueCode ++ lit " against the simulated OMS.") := by
  rw [execute_of_authorised ⟨h.sameProposal, h.correlation, h.inTime⟩, h.segregated]
  rfl

theorem executable_of_execute {proposal : RouteProposal}
    {authorization : Option ExecutionAuthorization} {now : DateTimeOffset}
    {executionId : Option Text} {execution : SimulatedExecution} {explanation : Text}
    (h : execute proposal authorization now executionId = .executed execution explanation) :
    ∃ presented, authorization = some presented ∧ Executable proposal presented now ∧
      execution = fill proposal presented now executionId := by
  unfold execute at h
  split at h
  · cases h
  rename_i presented
  split at h
  · cases h
  split at h
  · cases h
  split at h
  · cases h
  split at h
  · cases h
  rename_i hproposal hcorrelation htime hsegregated
  cases h
  refine ⟨presented, rfl, ?_, rfl⟩
  exact {
    sameProposal := not_not.mp hproposal
    correlation := not_not.mp hcorrelation
    inTime := Nat.lt_of_not_le htime
    segregated := Bool.eq_false_of_not_eq_true hsegregated }

end SimulatedOms

end Fcmr.OrderRouting
