import Fcmr.Approvals.Transitions
import Fcmr.ApprovalsService.ApprovalEndpoints

/-! The handlers run to their end: what they answer and what they leave in the store. -/
namespace Fcmr.ApprovalsService

open DotNet Approvals ApprovalStateMachine Programs ApprovalsAuthorization

theorem objectId_present {user : Option ClaimsPrincipal} {value : Text}
    (h : objectId user = some value) : isNullOrWhiteSpace (some value) = false := by
  unfold objectId at h
  split at h
  · cases h
  split at h
  · obtain ⟨_, _, hfilter⟩ := List.exists_of_findSome?_eq_some h
    simpa using (Option.filter_eq_some_iff.mp hfilter).2
  · cases h

theorem objectId_filter {user : Option ClaimsPrincipal} {value : Text}
    (h : objectId user = some value) :
    (objectId user).filter (fun value => !isNullOrWhiteSpace (some value)) = some value := by
  rw [h, Option.filter_some_pos]
  simp [objectId_present h]

theorem requestedCommand_decision {request : Option DecisionRequest} {decidedBy : Text}
    {command : ApprovalCommand} (h : requestedCommand request decidedBy = some command) :
    ∃ decision, command.decision = some decision ∧ decision.decidedBy = decidedBy ∧
      decision.acknowledgedHash = none := by
  unfold requestedCommand at h
  dsimp only at h
  split at h
  · cases h
    exact ⟨_, rfl, rfl, rfl⟩
  split at h
  · cases h
    exact ⟨_, rfl, rfl, rfl⟩
  · cases h

theorem statusFor_gone {kind : ApprovalRefusalKind} : statusFor kind = 410 ↔ kind = .expired := by
  cases kind <;> simp [statusFor]

structure Admitted (store : InMemoryApprovalStore) (id : Text) (request : Option DecisionRequest)
    (user : Option ClaimsPrincipal) (approval : Approval) (decidedBy : Text) : Prop where
  stored : store.getAsync id = some approval
  anonymous : RejectedIdentityMembers.find (request.bind (·.extra)) = none
  decider : objectId user = some decidedBy

theorem Admitted.unique {store : InMemoryApprovalStore} {id : Text}
    {request : Option DecisionRequest} {user : Option ClaimsPrincipal} {approval other : Approval}
    {decidedBy otherDecider : Text} (h : Admitted store id request user approval decidedBy)
    (h' : Admitted store id request user other otherDecider) :
    approval = other ∧ decidedBy = otherDecider :=
  ⟨Option.some.inj (h.stored.symm.trans h'.stored), Option.some.inj (h.decider.symm.trans h'.decider)⟩

section

variable [RoundTripFormat]

theorem eval_recordExpiry (approval : Approval) (correlation : Option Text)
    (moments : Nat → Moment) (store : InMemoryApprovalStore) :
    (eval serve (recordExpiry approval correlation) moments store).1.statusCode = 410 ∧
    (eval serve (recordExpiry approval correlation) moments store).2 =
      match apply approval .expire (moments 0).now with
      | .accepted next event => (store.updateAsync next).appendAuditAsync event
      | .refused _ event => store.appendAuditAsync event := by
  unfold recordExpiry
  simp only [perform_bind, eval, serve]
  cases apply approval .expire (moments 0).now <;> exact ⟨rfl, rfl⟩

theorem eval_recordDecision (approval : Approval) (command : ApprovalCommand)
    (correlation : Option Text) (moments : Nat → Moment) (store : InMemoryApprovalStore) :
    (eval serve (recordDecision approval command correlation) moments store).1.statusCode =
      (match apply approval command (moments 0).now with
      | .accepted .. => 200
      | .refused refusal _ => statusFor refusal.kind) ∧
    (eval serve (recordDecision approval command correlation) moments store).2 =
      match apply approval command (moments 0).now with
      | .accepted next event => (store.appendAuditAsync event).updateAsync next
      | .refused _ event => store.appendAuditAsync event := by
  unfold recordDecision
  simp only [perform_bind, eval, serve, ApprovalTransitionResult.auditEvent]
  cases apply approval command (moments 0).now <;> exact ⟨rfl, rfl⟩

theorem eval_decideAsync_admitted {store : InMemoryApprovalStore} {id : Text}
    {request : Option DecisionRequest} {user : Option ClaimsPrincipal} {approval : Approval}
    {decidedBy : Text} (h : Admitted store id request user approval decidedBy)
    (correlation : Option Text) (moments : Nat → Moment) :
    eval serve (decideAsync id request user correlation) moments store =
      eval serve
        (if approval.hasPassedExpiry (moments 1).now ∧ approval.state = .pendingApproval then
          recordExpiry approval correlation
        else
          match requestedCommand request decidedBy with
          | none =>
            return error correlation 400 (lit "InvalidDecision") <|
              lit "Decision must be 'Approved' or 'Rejected'. Received '" ++
                ((request.bind (·.decision)).getD []) ++ lit "'."
          | some command => recordDecision approval command correlation)
        (fun n => moments (n + 2)) store := by
  unfold decideAsync
  simp only [perform_bind, eval, serve, h.stored, h.anonymous, objectId_filter h.decider]
  rfl

theorem eval_decideAsync_turnedAway {store : InMemoryApprovalStore} {id : Text}
    {request : Option DecisionRequest} {user : Option ClaimsPrincipal}
    (h : ∀ approval decidedBy, ¬Admitted store id request user approval decidedBy)
    (correlation : Option Text) (moments : Nat → Moment) :
    (eval serve (decideAsync id request user correlation) moments store).2 = store ∧
    (eval serve (decideAsync id request user correlation) moments store).1.statusCode ≠ 200 ∧
    (eval serve (decideAsync id request user correlation) moments store).1.statusCode ≠ 410 := by
  unfold decideAsync
  simp only [perform_bind, eval, serve]
  cases hstored : store.getAsync id with
  | none => exact ⟨rfl, show 404 ≠ 200 by decide, show 404 ≠ 410 by decide⟩
  | some approval =>
    cases hanonymous : RejectedIdentityMembers.find (request.bind (·.extra)) with
    | some offending => exact ⟨rfl, show 400 ≠ 200 by decide, show 400 ≠ 410 by decide⟩
    | none =>
      cases hdecider : objectId user with
      | none => exact ⟨rfl, show 403 ≠ 200 by decide, show 403 ≠ 410 by decide⟩
      | some decidedBy => exact absurd ⟨hstored, hanonymous, hdecider⟩ (h approval decidedBy)

inductive Effect (store : InMemoryApprovalStore) : InMemoryApprovalStore → Prop
  | none : Effect store store
  | refused {approval : Approval} {command : ApprovalCommand} {now : DateTimeOffset}
      {refusal : ApprovalRefusal} {event : ApprovalAuditEvent}
      (stored : store.getAsync approval.id = some approval)
      (outcome : apply approval command now = .refused refusal event) :
      Effect store (store.appendAuditAsync event)
  | accepted {approval next : Approval} {command : ApprovalCommand} {now : DateTimeOffset}
      {event : ApprovalAuditEvent} (stored : store.getAsync approval.id = some approval)
      (outcome : apply approval command now = .accepted next event) :
      Effect store ((store.appendAuditAsync event).updateAsync next)
  | created {id : Text} {lane : Lane} {evidencePacket : EvidencePacket} {proposedBy : Text}
      {expiresAt now : DateTimeOffset} {approval : Approval} {event : ApprovalAuditEvent}
      (fresh : store.getAsync id = .none)
      (outcome : Approval.propose id lane evidencePacket proposedBy expiresAt now =
        .accepted approval (some event)) :
      Effect store ((store.updateAsync approval).appendAuditAsync event)

theorem effect_decideAsync (store : InMemoryApprovalStore) (id : Text)
    (request : Option DecisionRequest) (user : Option ClaimsPrincipal)
    (correlation : Option Text) (moments : Nat → Moment) :
    Effect store (eval serve (decideAsync id request user correlation) moments store).2 := by
  by_cases hadmitted : ∃ approval decidedBy, Admitted store id request user approval decidedBy
  · obtain ⟨approval, decidedBy, h⟩ := hadmitted
    have hstored : store.getAsync approval.id = some approval := by
      rw [store.keyed id approval h.stored]
      exact h.stored
    rw [eval_decideAsync_admitted h]
    split
    · rw [(eval_recordExpiry ..).2]
      cases houtcome : apply approval .expire (moments 2).now with
      | accepted next event => exact .accepted hstored houtcome
      | refused refusal event => exact .refused hstored houtcome
    · cases requestedCommand request decidedBy with
      | none => exact .none
      | some command =>
        simp only [(eval_recordDecision ..).2]
        cases houtcome : apply approval command (moments 2).now with
        | accepted next event => exact .accepted hstored houtcome
        | refused refusal event => exact .refused hstored houtcome
  · rw [(eval_decideAsync_turnedAway (by simpa using hadmitted) correlation moments).1]
    exact .none

theorem effect_createAsync {store : InMemoryApprovalStore} {moments : Nat → Moment}
    (hfresh : store.getAsync (moments 0).guid = none) (request : Option CreateApprovalRequest)
    (user : Option ClaimsPrincipal) (correlation : Option Text) :
    Effect store (eval serve (createAsync request user correlation) moments store).2 := by
  unfold createAsync
  split
  · exact .none
  split
  · exact .none
  split
  · exact .none
  split
  · exact .none
  split
  · exact .none
  simp only [perform_bind, eval, serve]
  split
  · exact .none
  · rename_i approval event houtcome
    obtain ⟨requested, rfl, _⟩ := propose_event houtcome
    have hid : store.getAsync approval.id = none := by
      rw [(propose_accepted houtcome).id]
      exact hfresh
    simp only [eval, serve, InMemoryApprovalStore.createAsync_fresh hid]
    exact .created hfresh houtcome

end

namespace Samples

open Approvals.Samples

def storeOfAlice : InMemoryApprovalStore := .updateAsync .empty (pendingApproval .orderRouting)

theorem storeOfAlice_getAsync :
    storeOfAlice.getAsync (lit "a-1") = some (pendingApproval .orderRouting) := rfl

def decisionOfBob : Option DecisionRequest := some ⟨some (lit "Approved"), none, none⟩
def userBob : Option ClaimsPrincipal := some ⟨true, [⟨lit "oid", lit "bob"⟩]⟩

end Samples

end Fcmr.ApprovalsService
