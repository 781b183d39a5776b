import Fcmr.Approvals.ExecutionGate
import Fcmr.DotNet.Trimming
import Fcmr.OrderRouting.SimulatedOms
import Fcmr.Surveillance.EscalationGate

/-! The four checks that an approver is not the proposer, each past its earlier guards.
Two of them compare the identities as they are given, two without surrounding whitespace. -/
namespace Fcmr.Segregation

open DotNet Approvals

/-- A decision that reaches the check of the state machine. -/
structure PendingCase (approver proposer : Text) where
  approval : Approval
  command : ApprovalCommand
  decision : Decision
  now : DateTimeOffset
  pending : approval.state = .pendingApproval
  human : command.decision = some decision
  decider : decision.decidedBy = approver
  raised : approval.proposedByObjectId = proposer
  named : isNullOrWhiteSpace (some approver) = false
  inTime : now < approval.expiresAt

/-- A record that reaches the check of the execution gate. -/
structure RecordCase (approver proposer : Text) where
  approval : Approval
  now : DateTimeOffset
  approved : approval.state = .approved
  decider : approval.decidedByObjectId = some approver
  raised : approval.proposedByObjectId = proposer
  named : isNullOrWhiteSpace (some approver) = false

/-- An execution that reaches the check of the order management system. -/
structure RouteCase (approver proposer : Text) where
  proposal : OrderRouting.RouteProposal
  authorization : OrderRouting.ExecutionAuthorization
  now : DateTimeOffset
  executionId : Option Text
  decider : authorization.approvedBy = approver
  raised : proposal.proposedBy = proposer
  authorised : OrderRouting.SimulatedOms.Authorised proposal authorization now

/-- An escalation that reaches the check of its gate. -/
structure EscalationCase (approver proposer : Text) where
  memo : Surveillance.EscalationMemo
  authorization : Surveillance.EscalationAuthorization
  now : DateTimeOffset
  decider : authorization.approvedBy = approver
  raised : memo.proposedBy = proposer
  authorised : Surveillance.EscalationGate.Authorised memo authorization now

section

variable {approver proposer : Text}

def RouteCase.Refuses (input : RouteCase approver proposer) : Prop :=
  ∃ explanation, OrderRouting.SimulatedOms.execute input.proposal (some input.authorization)
    input.now input.executionId = .refused .segregationOfDuties explanation

def EscalationCase.Refuses (input : EscalationCase approver proposer) : Prop :=
  ∃ explanation, Surveillance.EscalationGate.apply input.memo input.authorization input.now =
    .refused .segregationOfDuties explanation

theorem RouteCase.refuses_iff (input : RouteCase approver proposer) :
    input.Refuses ↔ equalsOrdinalIgnoreCase (some approver) (some proposer) = true := by
  obtain ⟨proposal, authorization, now, executionId, rfl, rfl, authorised⟩ := input
  simp only [Refuses, OrderRouting.SimulatedOms.execute_of_authorised authorised]
  split
  · rename_i hsame
    exact ⟨fun _ => hsame, fun _ => ⟨_, rfl⟩⟩
  · rename_i hother
    refine ⟨?_, fun hsame => absurd hsame hother⟩
    rintro ⟨explanation, hrefused⟩
    cases hrefused

theorem EscalationCase.refuses_iff (input : EscalationCase approver proposer) :
    input.Refuses ↔ equalsOrdinalIgnoreCase (some approver) (some proposer) = true := by
  obtain ⟨memo, authorization, now, rfl, rfl, authorised⟩ := input
  rw [equalsOrdinalIgnoreCase_comm]
  simp only [Refuses, Surveillance.EscalationGate.apply_of_authorised authorised]
  split
  · rename_i hsame
    exact ⟨fun _ => hsame, fun _ => ⟨_, rfl⟩⟩
  · rename_i hother
    refine ⟨?_, fun hsame => absurd hsame hother⟩
    rintro ⟨explanation, hrefused⟩
    cases hrefused

variable [RoundTripFormat]

def PendingCase.Refuses (input : PendingCase approver proposer) : Prop :=
  ∃ refusal event, ApprovalStateMachine.apply input.approval input.command input.now =
    .refused refusal event ∧ refusal.kind = .segregationOfDuties

def RecordCase.Refuses (input : RecordCase approver proposer) : Prop :=
  ∃ refusal event, ExecutionGate.authorize input.approval input.now = .refused refusal event ∧
    refusal.kind = .segregationOfDuties

theorem PendingCase.refuses_iff (input : PendingCase approver proposer) :
    input.Refuses ↔ ApprovalStateMachine.isSameIdentity approver proposer = true := by
  obtain ⟨approval, command, decision, now, pending, human, rfl, rfl, named, inTime⟩ := input
  have happly : ApprovalStateMachine.apply approval command now =
      ApprovalStateMachine.decideFromPending approval command decision now := by
    simp [ApprovalStateMachine.apply, ApprovalStateMachine.fromPending, pending, human]
  simp only [Refuses, happly]
  unfold ApprovalStateMachine.decideFromPending
  rw [dif_neg (by simp [named]), if_neg (Nat.not_le_of_lt inTime)]
  split
  · rename_i hsame
    exact ⟨fun _ => hsame, fun _ => ⟨_, _, rfl, rfl⟩⟩
  rename_i hother
  refine ⟨?_, fun hsame => absurd hsame hother⟩
  rintro ⟨refusal, event, hrefused, hkind⟩
  split at hrefused
  · cases hrefused
    cases hkind
  split at hrefused
  · cases hrefused
    cases hkind
  split at hrefused
  · cases hrefused
    cases hkind
  cases hrefused

theorem RecordCase.refuses_iff (input : RecordCase approver proposer) :
    input.Refuses ↔ ApprovalStateMachine.isSameIdentity approver proposer = true := by
  obtain ⟨approval, now, approved, decider, rfl, named⟩ := input
  simp only [Refuses, ExecutionGate.authorize, approved, decider, named]
  simp only [reduceCtorEq, if_false, ne_eq, not_true_eq_false, Bool.false_eq_true]
  split
  · rename_i hsame
    exact ⟨fun _ => hsame, fun _ => ⟨_, _, rfl, rfl⟩⟩
  rename_i hother
  refine ⟨?_, fun hsame => absurd hsame hother⟩
  rintro ⟨refusal, event, hrefused, hkind⟩
  split at hrefused
  · cases hrefused
    cases hkind
  · cases hrefused

/-- All four refuse, or none does. -/
def Agree (pending : PendingCase approver proposer) (record : RecordCase approver proposer)
    (route : RouteCase approver proposer) (escalation : EscalationCase approver proposer) : Prop :=
  pending.Refuses ∧ record.Refuses ∧ route.Refuses ∧ escalation.Refuses ∨
    ¬pending.Refuses ∧ ¬record.Refuses ∧ ¬route.Refuses ∧ ¬escalation.Refuses

/-- The checks agree on two identities unless these are the same without surrounding
whitespace only. -/
theorem agree_iff (pending : PendingCase approver proposer) (record : RecordCase approver proposer)
    (route : RouteCase approver proposer) (escalation : EscalationCase approver proposer) :
    Agree pending record route escalation ↔
      (equalsOrdinalIgnoreCase (some (trim approver)) (some (trim proposer)) = true →
        equalsOrdinalIgnoreCase (some approver) (some proposer) = true) := by
  have hpending := pending.refuses_iff
  have hrecord := record.refuses_iff
  have hroute := route.refuses_iff
  have hescalation := escalation.refuses_iff
  unfold ApprovalStateMachine.isSameIdentity at hpending hrecord
  constructor
  · rintro (⟨_, _, hrefused, _⟩ | ⟨haccepted, _⟩) hsame
    · exact hroute.mp hrefused
    · exact absurd (hpending.mpr hsame) haccepted
  · intro h
    by_cases hsame : equalsOrdinalIgnoreCase (some approver) (some proposer) = true
    · have htrimmed := equalsOrdinalIgnoreCase_trim hsame
      exact .inl ⟨hpending.mpr htrimmed, hrecord.mpr htrimmed, hroute.mpr hsame,
        hescalation.mpr hsame⟩
    · have htrimmed := mt h hsame
      exact .inr ⟨mt hpending.mp htrimmed, mt hrecord.mp htrimmed, mt hroute.mp hsame,
        mt hescalation.mp hsame⟩

end

namespace Samples

open Approvals.Samples

/-! Every pair of identities that are not blank reaches all four checks. -/

def pendingCase (approver proposer : Text) (happrover : isNullOrWhiteSpace (some approver) = false)
    (hproposer : isNullOrWhiteSpace (some proposer) = false) : PendingCase approver proposer where
  approval := {
    pendingApproval .orderRouting with
    proposedByObjectId := proposer
    proposer_present := hproposer }
  command := .approve approver none none
  decision := ⟨approver, none, none, .approved⟩
  now := 1500
  pending := rfl
  human := rfl
  decider := rfl
  raised := rfl
  named := happrover
  inTime := show 1500 < 2000 by decide

def recordCase (approver proposer : Text) (happrover : isNullOrWhiteSpace (some approver) = false)
    (hproposer : isNullOrWhiteSpace (some proposer) = false) : RecordCase approver proposer where
  approval := {
    pendingApproval .orderRouting with
    state := .approved
    proposedByObjectId := proposer
    decidedByObjectId := some approver
    decidedAt := some 1500
    proposer_present := hproposer
    consistent := inconsistency_approved.mpr ⟨happrover, by simp⟩ }
  now := 1600
  approved := rfl
  decider := rfl
  raised := rfl
  named := happrover

def routeCase (approver proposer : Text) : RouteCase approver proposer where
  proposal := {
    proposalId := lit "prop-o-1"
    correlationId := lit "corr-1"
    orderId := lit "o-1"
    quantity := 100
    venueCode := lit "XLIT"
    cost := ⟨.zero, .zero, .zero, .zero, .zero, .literal 100 0, .zero, rfl⟩
    liquidityRationale := []
    bestExecutionJustification := []
    proposedBy := proposer
    considered := [] }
  authorization := ⟨lit "ap-1", lit "prop-o-1", lit "corr-1", approver, 1000, 5000⟩
  now := 2000
  executionId := none
  decider := rfl
  raised := rfl
  authorised := ⟨rfl, rfl, show 2000 < 5000 by decide⟩

def escalationCase (approver proposer : Text) : EscalationCase approver proposer where
  memo := ⟨lit "A-1", lit "corr-1", 1, .literal 91 0, lit "ACME", lit "T-7", lit "Layering",
    lit "Layered orders.", [], proposer, 1000⟩
  authorization := ⟨lit "A-1", lit "corr-1", approver, 1000, .ofUtc 5000, .escalated⟩
  now := 2000
  decider := rfl
  raised := rfl
  authorised := ⟨rfl, rfl, show 2000 < 5000 by decide⟩

/-- A trailing blank divides the checks. -/
theorem trailingBlank_divides : ¬Agree
    (pendingCase (lit "alice ") (lit "alice") (by decide) (by decide))
    (recordCase (lit "alice ") (lit "alice") (by decide) (by decide))
    (routeCase (lit "alice ") (lit "alice")) (escalationCase (lit "alice ") (lit "alice")) := by
  rintro (⟨_, _, hroute, _⟩ | ⟨hpending, _⟩)
  · exact absurd ((RouteCase.refuses_iff _).mp hroute) (by decide)
  · exact hpending ((PendingCase.refuses_iff _).mpr (by decide))

end Samples

end Fcmr.Segregation
