import Fcmr.OrderRoutingService.Identity
import Fcmr.WebUi.WireContract

/-! An approval record on its way through the page: as the approvals service shows it, as the
panel copies it, and as the order routing service reads the copy. -/
namespace Fcmr.WebUi

open DotNet OrderRouting OrderRoutingService ServiceDefaults Programs Exchanges ApiClient
open ApprovalsService (ClaimsPrincipal ApprovalResponse)

/-! What the service makes of the body of `POST /v1/executions`. -/

def readText : Value → Option Text
  | .string text => some text
  | _ => none

def readInstant : Value → Option DateTimeOffset
  | .instant instant => some instant
  | _ => none

@[simp] theorem readText_string (text : Text) : readText (.string text) = some text := rfl

@[simp] theorem readInstant_instant (instant : DateTimeOffset) :
    readInstant (.instant instant) = some instant := rfl

def readApproval (approval : Value) : Option ApprovalDto := do
  let approvalId ← readText (← approval.read "approvalId")
  let approvedBy ← readText (← approval.read "approvedBy")
  let approvedAt ← readInstant (← approval.read "approvedAt")
  let expiresAt ← readInstant (← approval.read "expiresAt")
  return { approvalId, approvedBy, approvedAt, expiresAt }

def readExecuteRequest (body : Value) : Option ExecuteRouteRequest := do
  let proposalId ← readText (← body.read "proposalId")
  let correlationId ← readText (← body.read "correlationId")
  match ← body.read "approval" with
  | .undefined | .null => return { proposalId, correlationId, approval := none }
  | approval => return { proposalId, correlationId, approval := some (← readApproval approval) }

/-- An approval as the approvals service writes it. The packet and the action are taken as they
come; this page reads neither. -/
def approvalValue (record : ApprovalResponse) (evidencePacket proposedAction : Value) : Value :=
  .object [
    ("id", .string record.id),
    ("correlationId", .string record.correlationId),
    ("lane", .string record.lane.text),
    ("state", .string record.state.text),
    ("evidencePacketHash", .string record.evidencePacketHash),
    ("proposedByObjectId", .string record.proposedByObjectId),
    ("decidedByObjectId", nullable record.decidedByObjectId),
    ("decisionReason", nullable record.decisionReason),
    ("expiresAt", .instant record.expiresAt),
    ("createdAt", .instant record.createdAt),
    ("decidedAt", (record.decidedAt.map .instant).getD .null),
    ("evidencePacket", evidencePacket),
    ("proposedAction", proposedAction),
    ("evidenceIntegrityVerified", .boolean record.evidenceIntegrityVerified)]

def copyOf (record : ApprovalResponse) : ApprovalDto where
  approvalId := record.id
  approvedBy := record.decidedByObjectId.getD []
  approvedAt := record.decidedAt.getD record.createdAt
  expiresAt := record.expiresAt

variable {proposal : ProposalDescription} {venues : List ConsideredVenue} {correlationId : Text}

theorem read_forwarded (record : ApprovalResponse) (evidencePacket proposedAction : Value) :
    readExecuteRequest (executeRequest (bodyValue (.proposed proposal venues correlationId))
      (some (approvalValue record evidencePacket proposedAction))) =
        some ⟨proposal.proposalId, correlationId, some (copyOf record)⟩ := by
  have hdecider : readText ((nullable record.decidedByObjectId).orElse (.string [])) =
      some (record.decidedByObjectId.getD []) := by
    cases record.decidedByObjectId <;> rfl
  have hdecided : readInstant (((record.decidedAt.map Value.instant).getD .null).orElse
      (.instant record.createdAt)) = some (record.decidedAt.getD record.createdAt) := by
    cases record.decidedAt <;> rfl
  simp [readExecuteRequest, executeRequest, bodyValue, proposalValue, approvalValue, readApproval,
    Value.read, List.lookup_cons, hdecider, hdecided, copyOf]

section

variable {request : ExecuteRouteRequest} {stored : RouteProposal} {user : Option ClaimsPrincipal}
  {correlation : CorrelationIdAccessor} {moments : Nat → DateTimeOffset}
  {store : InMemoryProposalStore}

theorem conclude_filled_iff {outcome : ExecutionResult} {proposalId : Text} :
    (∃ execution, (conclude outcome proposalId correlation store).1 =
        some (filled execution correlation)) ↔
      (∃ execution explanation, outcome = .executed execution explanation) ∧
        proposalId ∉ store.executed := by
  cases outcome with
  | refused reason explanation =>
    refine iff_of_false ?_ nofun
    rintro ⟨execution, h⟩
    cases congrArg (·.map (·.statusCode)) h
  | executed execution explanation =>
    by_cases hexecuted : proposalId ∈ store.executed
    · refine iff_of_false ?_ (fun h => h.2 hexecuted)
      rintro ⟨execution', h⟩
      rw [conclude, InMemoryProposalStore.tryMarkExecuted_marked hexecuted] at h
      cases congrArg (·.map (·.statusCode)) h
    · refine iff_of_true ⟨execution, ?_⟩ ⟨⟨execution, explanation, rfl⟩, hexecuted⟩
      rw [conclude, InMemoryProposalStore.tryMarkExecuted_fresh hexecuted]
      rfl

theorem execute_executed_iff {authorization : Option ExecutionAuthorization}
    {now : DateTimeOffset} :
    (∃ execution explanation, SimulatedOms.execute stored authorization now none =
        .executed execution explanation) ↔
      ∃ presented, authorization = some presented ∧
        SimulatedOms.Executable stored presented now := by
  constructor
  · rintro ⟨execution, explanation, h⟩
    obtain ⟨presented, hpresented, hexecutable, _⟩ := SimulatedOms.executable_of_execute h
    exact ⟨presented, hpresented, hexecutable⟩
  · rintro ⟨presented, rfl, hexecutable⟩
    exact ⟨_, _, SimulatedOms.execute_of_executable hexecutable none⟩

/-- Who is compared with the proposer: the caller itself, and only without an object id the
decider on the record. -/
def comparedApprover (user : Option ClaimsPrincipal) (record : ApprovalResponse) : Text :=
  (FcmrAuthorization.objectId user).getD (record.decidedByObjectId.getD [])

theorem authorizationOf_copy (user : Option ClaimsPrincipal) (proposalId : Text)
    (record : ApprovalResponse) :
    authorizationOf ⟨proposalId, correlationId, some (copyOf record)⟩ user =
      if isNullOrWhiteSpace (some (comparedApprover user record)) then none
      else some {
        approvalId := record.id
        proposalId
        correlationId
        approvedBy := comparedApprover user record
        approvedAt := record.decidedAt.getD record.createdAt
        expiresAt := record.expiresAt } := by
  cases hidentity : FcmrAuthorization.objectId user <;>
    simp [authorizationOf, approverOf, hidentity, comparedApprover, copyOf]

/-- The service fills what the page forwards of a record without asking whether it was ever
approved: the record's state, its decision and its proposal are nowhere read. -/
theorem forwarded_filled_iff
    (hexecutor : FcmrAuthorization.hasRole user OrderRoutingRoles.executor = true)
    (hstored : store.find stored.proposalId = some stored) (correlation : CorrelationIdAccessor)
    (moments : Nat → DateTimeOffset) (venues : List ConsideredVenue) (correlationId : Text)
    (record : ApprovalResponse) (evidencePacket proposedAction : Value) :
    ∃ request, readExecuteRequest
        (executeRequest (bodyValue (.proposed (describe stored) venues correlationId))
          (some (approvalValue record evidencePacket proposedAction))) = some request ∧
      ((∃ execution, (postExecution request user correlation moments store).1 =
          some (filled execution correlation)) ↔
        isNullOrWhiteSpace (some (comparedApprover user record)) = false ∧
        equalsOrdinalIgnoreCase (some (comparedApprover user record))
          (some stored.proposedBy) = false ∧
        correlationId = stored.correlationId ∧ moments 1 < record.expiresAt ∧
        stored.proposalId ∉ store.executed) := by
  refine ⟨_, read_forwarded record evidencePacket proposedAction, ?_⟩
  rw [postExecution_found hexecutor hstored, conclude_filled_iff, execute_executed_iff,
    authorizationOf_copy]
  cases hblank : isNullOrWhiteSpace (some (comparedApprover user record)) with
  | true =>
    refine iff_of_false ?_ nofun
    rintro ⟨⟨presented, hpresented, _⟩, _⟩
    cases hpresented
  | false =>
    constructor
    · rintro ⟨⟨presented, hpresented, hexecutable⟩, hunexecuted⟩
      cases hpresented
      exact ⟨rfl, hexecutable.segregated, hexecutable.correlation, hexecutable.inTime, hunexecuted⟩
    · rintro ⟨_, hsegregated, hcorrelation, htime, hunexecuted⟩
      exact ⟨⟨_, rfl, rfl, hcorrelation, htime, hsegregated⟩, hunexecuted⟩

end

namespace Samples

open OrderRoutingService.Samples (routeRequest_handling userAlice header bob)

def undecided : ApprovalResponse where
  id := lit "APR-1"
  correlationId := lit "corr-1"
  lane := .orderRouting
  state := .pendingApproval
  evidencePacketHash := []
  proposedByObjectId := lit "alice"
  decidedByObjectId := none
  decisionReason := none
  expiresAt := 5000
  createdAt := 1000
  decidedAt := none
  evidencePacket := none
  proposedAction := ⟨lit "RouteOrder", lit "Route 100 ACME", ∅⟩
  evidenceIntegrityVerified := true

theorem undecided_filled : ∃ stored request execution, stored.proposedBy = lit "alice" ∧
    readExecuteRequest
      (executeRequest (bodyValue (.proposed (describe stored) [] (lit "corr-1")))
        (some (approvalValue undecided .null .null))) = some request ∧
    (postExecution request bob header (fun _ => 2000) (InMemoryProposalStore.empty.save stored)).1 =
      some (filled execution header) := by
  obtain ⟨stored, _, _, hproposalId, _, hcorrelation, hproposer⟩ :=
    routeRequest_handling (lit "o-1") 100 userAlice (by decide +kernel) (by decide +kernel)
  have hproposer : stored.proposedBy = lit "alice" := hproposer
  have hstored : (InMemoryProposalStore.empty.save stored).find stored.proposalId = some stored := by
    simp
  have hexecutor : FcmrAuthorization.hasRole bob OrderRoutingRoles.executor = true := rfl
  have hsegregated : equalsOrdinalIgnoreCase (some (comparedApprover bob undecided))
      (some stored.proposedBy) = false := by
    rw [hproposer]
    decide
  obtain ⟨request, hrequest, hfilled⟩ := forwarded_filled_iff hexecutor hstored header
    (fun _ => 2000) [] (lit "corr-1") undecided .null .null
  obtain ⟨execution, hexecution⟩ := hfilled.mpr
    ⟨by decide, hsegregated, hcorrelation.symm, by decide, Finset.notMem_empty _⟩
  exact ⟨stored, request, execution, hproposer, hrequest, hexecution⟩

end Samples

end Fcmr.WebUi
