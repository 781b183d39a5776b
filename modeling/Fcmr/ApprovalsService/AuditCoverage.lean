import Fcmr.ApprovalsService.Handlers

/-! Which calls of `DecideAsync` on a stored proposal leave an audit event behind. -/
namespace Fcmr.ApprovalsService

open DotNet Approvals ApprovalStateMachine Programs ApprovalsAuthorization

/-- An audit event for the approval id is among those appended. -/
def Recorded (id : Text) (store store' : InMemoryApprovalStore) : Prop :=
  ∃ events, store'.audit = store.audit ++ events ∧ ∃ event ∈ events, event.approvalId = id

theorem not_recorded_self (id : Text) (store : InMemoryApprovalStore) :
    ¬Recorded id store store := by
  rintro ⟨events, happended, event, hevent, _⟩
  rw [List.self_eq_append_right.mp happended] at hevent
  cases hevent

/-- The two decision words, compared ignoring case. -/
def namesDecision (request : Option DecisionRequest) : Bool :=
  equalsOrdinalIgnoreCase (request.bind (·.decision)) (some (lit "Rejected")) ||
    equalsOrdinalIgnoreCase (request.bind (·.decision)) (some (lit "Approved"))

theorem requestedCommand_eq_none {request : Option DecisionRequest} {decidedBy : Text} :
    requestedCommand request decidedBy = none ↔ namesDecision request = false := by
  unfold requestedCommand namesDecision
  dsimp only
  split
  · rename_i hrejected
    simp [hrejected]
  split
  · rename_i happroved
    simp [happroved]
  · rename_i hrejected happroved
    simp [hrejected, happroved]

section

variable [RoundTripFormat]

theorem auditEvent_approvalId (approval : Approval) (command : ApprovalCommand)
    (now : DateTimeOffset) : (apply approval command now).auditEvent.approvalId = approval.id := by
  cases h : apply approval command now with
  | accepted next event => exact (accepted_event h).2.1
  | refused refusal event => exact (refused_event h).2

theorem recorded_recordExpiry (approval : Approval) (correlation : Option Text)
    (moments : Nat → Moment) (store : InMemoryApprovalStore) :
    Recorded approval.id store
      (eval serve (recordExpiry approval correlation) moments store).2 := by
  have hid := auditEvent_approvalId approval .expire (moments 0).now
  refine ⟨[(apply approval .expire (moments 0).now).auditEvent], ?_, _, List.mem_singleton_self _,
    hid⟩
  rw [(eval_recordExpiry ..).2]
  cases apply approval .expire (moments 0).now <;> rfl

theorem recorded_recordDecision (approval : Approval) (command : ApprovalCommand)
    (correlation : Option Text) (moments : Nat → Moment) (store : InMemoryApprovalStore) :
    Recorded approval.id store
      (eval serve (recordDecision approval command correlation) moments store).2 := by
  have hid := auditEvent_approvalId approval command (moments 0).now
  refine ⟨[(apply approval command (moments 0).now).auditEvent], ?_, _, List.mem_singleton_self _,
    hid⟩
  rw [(eval_recordDecision ..).2]
  cases apply approval command (moments 0).now <;> rfl

/-- A call on a stored proposal is recorded exactly when the request supplies no identity,
the token does, and either the proposal is found pending past its expiry or the request
names one of the two decisions. -/
theorem decideAsync_recorded_iff {store : InMemoryApprovalStore} {id : Text} {approval : Approval}
    (hstored : store.getAsync id = some approval) (request : Option DecisionRequest)
    (user : Option ClaimsPrincipal) (correlation : Option Text) (moments : Nat → Moment) :
    Recorded id store (eval serve (decideAsync id request user correlation) moments store).2 ↔
      RejectedIdentityMembers.find (request.bind (·.extra)) = none ∧ objectId user ≠ none ∧
        (approval.hasPassedExpiry (moments 1).now = true ∧ approval.state = .pendingApproval ∨
          namesDecision request = true) := by
  by_cases hadmitted : ∃ decidedBy, Admitted store id request user approval decidedBy
  · obtain ⟨decidedBy, hadmitted⟩ := hadmitted
    have hid : approval.id = id := store.keyed id approval hstored
    rw [eval_decideAsync_admitted hadmitted]
    simp only [hadmitted.anonymous, hadmitted.decider, ne_eq, reduceCtorEq, not_false_iff, true_and]
    split
    · rename_i hexpiry
      exact iff_of_true (hid ▸ recorded_recordExpiry ..) (.inl hexpiry)
    · rename_i hexpiry
      cases hcommand : requestedCommand request decidedBy with
      | none =>
        refine iff_of_false (not_recorded_self id store) ?_
        rintro (hlate | hnamed)
        · exact hexpiry hlate
        · rw [requestedCommand_eq_none.mp hcommand] at hnamed
          cases hnamed
      | some command =>
        refine iff_of_true (hid ▸ recorded_recordDecision ..) (.inr ?_)
        by_contra hunnamed
        rw [requestedCommand_eq_none.mpr (Bool.eq_false_of_not_eq_true hunnamed)] at hcommand
        cases hcommand
  · have hturned : ∀ approval decidedBy, ¬Admitted store id request user approval decidedBy := by
      intro other decidedBy hother
      cases hstored.symm.trans hother.stored
      exact hadmitted ⟨decidedBy, hother⟩
    rw [(eval_decideAsync_turnedAway hturned correlation moments).1]
    refine iff_of_false (not_recorded_self id store) ?_
    rintro ⟨hanonymous, hdecider, _⟩
    obtain ⟨decidedBy, hdecider⟩ := Option.ne_none_iff_exists'.mp hdecider
    exact hadmitted ⟨decidedBy, hstored, hanonymous, hdecider⟩

end

namespace Samples

open Approvals.Samples

theorem decisionOfBob_recorded : Recorded (lit "a-1") storeOfAlice
    (eval serve (decideAsync (lit "a-1") decisionOfBob userBob none) (fun _ => ⟨1000, []⟩)
      storeOfAlice).2 := by
  apply (decideAsync_recorded_iff storeOfAlice_getAsync decisionOfBob userBob none _).mpr
  exact ⟨rfl, show some (lit "bob") ≠ none by decide, .inr (by decide)⟩

def undecidedOfBob : Option DecisionRequest := some ⟨some (lit "Maybe"), none, none⟩

/-- Neither word of the contract: answered 400, and nobody learns of it. -/
theorem undecidedOfBob_unrecorded :
    storeOfAlice.getAsync (lit "a-1") = some (pendingApproval .orderRouting) ∧
    ¬Recorded (lit "a-1") storeOfAlice
      (eval serve (decideAsync (lit "a-1") undecidedOfBob userBob none) (fun _ => ⟨1000, []⟩)
        storeOfAlice).2 := by
  have hsame : (eval serve (decideAsync (lit "a-1") undecidedOfBob userBob none)
      (fun _ => ⟨1000, []⟩) storeOfAlice).2 = storeOfAlice := rfl
  refine ⟨storeOfAlice_getAsync, ?_⟩
  rw [hsame]
  exact not_recorded_self _ _

end Samples

end Fcmr.ApprovalsService
