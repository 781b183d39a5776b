import Fcmr.ApprovalsService.Agreement

/-! Finality over requests served one after another, and the answer 410. -/
namespace Fcmr.ApprovalsService

open DotNet Approvals ApprovalStateMachine Programs ApprovalsAuthorization

/-- Programs that do not replace the record of `id` once they have read it as final. -/
def leavesFinal (id : Text) : Protocol Op Op.Ret Result Unit where
  allows _ op := match op with
    | .updateAsync approval => approval.id ≠ id
    | _ => True
  next _ _ := ()
  answers op r := match op, r with
    | .getAsync id', r => ∀ approval, r = some approval →
      approval.id = id' ∧ (id' = id → approval.state ≠ .pendingApproval)
    | _, _ => True
  finishes _ _ := True

theorem serve_final {id : Text} {final : Approval} (hfinal : final.state ≠ .pendingApproval)
    (phase : Unit) (op : Op) (moment : Moment) (store : InMemoryApprovalStore)
    (hstored : store.getAsync id = some final) (hallows : (leavesFinal id).allows phase op) :
    (leavesFinal id).answers op (serve op moment store).1 ∧
      (serve op moment store).2.getAsync id = some final := by
  cases op with
  | getUtcNow => exact ⟨trivial, hstored⟩
  | newGuid => exact ⟨trivial, hstored⟩
  | getAsync id' =>
    refine ⟨?_, hstored⟩
    intro approval happroval
    refine ⟨store.keyed id' approval happroval, ?_⟩
    rintro rfl
    cases hstored.symm.trans happroval
    exact hfinal
  | createAsync approval =>
    refine ⟨trivial, ?_⟩
    cases htaken : store.getAsync approval.id with
    | some taken =>
      have hrefused := congrArg (·.2.getAsync id) (InMemoryApprovalStore.createAsync_taken htaken)
      exact hrefused.trans hstored
    | none =>
      have hne : id ≠ approval.id := by
        rintro rfl
        cases hstored.symm.trans htaken
      have hcreated := congrArg (·.2.getAsync id) (InMemoryApprovalStore.createAsync_fresh htaken)
      exact hcreated.trans (by simpa [hne] using hstored)
  | updateAsync approval =>
    refine ⟨trivial, ?_⟩
    have hne : id ≠ approval.id := Ne.symm hallows
    simpa [serve, hne] using hstored
  | appendAuditAsync event => exact ⟨trivial, hstored⟩

section

variable [RoundTripFormat]

theorem createAsync_leavesFinal (id : Text) (request : Option CreateApprovalRequest)
    (user : Option ClaimsPrincipal) (correlation : Option Text) :
    (leavesFinal id).Follows (createAsync request user correlation) () := by
  unfold createAsync
  split
  · trivial
  split
  · trivial
  split
  · trivial
  split
  · trivial
  split
  · trivial
  simp only [perform_bind]
  refine ⟨trivial, fun guid _ => ⟨trivial, fun now _ => ?_⟩⟩
  dsimp only
  split
  · trivial
  · refine ⟨trivial, fun _ _ => ?_⟩
    split
    · exact ⟨trivial, fun _ _ => trivial⟩
    · trivial

theorem recordExpiry_leavesFinal {id : Text} {approval : Approval} (h : approval.id ≠ id)
    (correlation : Option Text) :
    (leavesFinal id).Follows (recordExpiry approval correlation) () := by
  unfold recordExpiry
  simp only [perform_bind]
  refine ⟨trivial, fun now _ => ?_⟩
  dsimp only
  split
  · rename_i expired event houtcome
    have hid : expired.id ≠ id := (accepted_sameProposal houtcome).id ▸ h
    exact ⟨hid, fun _ _ => ⟨trivial, fun _ _ => trivial⟩⟩
  · exact ⟨trivial, fun _ _ => trivial⟩

theorem recordDecision_leavesFinal {id : Text} {approval : Approval}
    (h : approval.state = .pendingApproval → approval.id ≠ id) (command : ApprovalCommand)
    (correlation : Option Text) :
    (leavesFinal id).Follows (recordDecision approval command correlation) () := by
  unfold recordDecision
  simp only [perform_bind]
  refine ⟨trivial, fun now _ => ⟨trivial, fun _ _ => ?_⟩⟩
  split
  · trivial
  · rename_i decided event houtcome
    have hid : decided.id ≠ id :=
      (accepted_sameProposal houtcome).id ▸ h (accepted_cases houtcome).1
    exact ⟨hid, fun _ _ => trivial⟩

theorem decideAsync_leavesFinal (id id' : Text) (request : Option DecisionRequest)
    (user : Option ClaimsPrincipal) (correlation : Option Text) :
    (leavesFinal id).Follows (decideAsync id' request user correlation) () := by
  unfold decideAsync
  simp only [perform_bind]
  refine ⟨trivial, fun found hfound => ?_⟩
  dsimp only
  split
  · trivial
  rename_i approval
  have happroval : approval.state = .pendingApproval → approval.id ≠ id := by
    obtain ⟨hid, hfinal⟩ := hfound approval rfl
    rintro hpending rfl
    exact hfinal hid.symm hpending
  split
  · trivial
  split
  · trivial
  refine ⟨trivial, fun now _ => ?_⟩
  dsimp only
  split
  · rename_i hexpiry
    exact recordExpiry_leavesFinal (happroval hexpiry.2) correlation
  split
  · trivial
  · exact recordDecision_leavesFinal happroval _ correlation

theorem handleAll_final {store : InMemoryApprovalStore} {id : Text} {final : Approval}
    (hstored : store.getAsync id = some final) (hfinal : final.state ≠ .pendingApproval)
    (arrivals : List Arrival) : (handleAll store arrivals).getAsync id = some final := by
  induction arrivals generalizing store with
  | nil => exact hstored
  | cons arrival arrivals ih =>
    apply ih
    have hfollows : (leavesFinal id).Follows arrival.request.handler () := by
      cases arrival.request with
      | create => exact createAsync_leavesFinal ..
      | decide => exact decideAsync_leavesFinal ..
    exact (leavesFinal id).advance_invariant (serve_final hfinal) hfollows hstored arrival.moments

/-- An answer 410 for a proposal means that its expiry is on record, for good. -/
def GoneIsRecorded (store : InMemoryApprovalStore) (id : Text) (request : Option DecisionRequest)
    (user : Option ClaimsPrincipal) (correlation : Option Text) (moments : Nat → Moment) : Prop :=
  (eval serve (decideAsync id request user correlation) moments store).1.statusCode = 410 →
  (∃ approval, (eval serve (decideAsync id request user correlation) moments store).2.getAsync id =
    some approval ∧ approval.state = .expired) ∧
  ∀ arrivals approval, (handleAll
    (eval serve (decideAsync id request user correlation) moments store).2 arrivals).getAsync id =
      some approval → approval.state ≠ .approved

/-- The clock passes the expiry between the two readings of a call that would decide the
proposal. -/
structure CrossesExpiry (approval : Approval) (request : Option DecisionRequest)
    (user : Option ClaimsPrincipal) (moments : Nat → Moment) : Prop where
  pending : approval.state = .pendingApproval
  anonymous : RejectedIdentityMembers.find (request.bind (·.extra)) = none
  decision : ∃ decidedBy, objectId user = some decidedBy ∧ requestedCommand request decidedBy ≠ none
  before : (moments 1).now < approval.expiresAt
  after : approval.expiresAt ≤ (moments 2).now

theorem crossesExpiry_outcome {store : InMemoryApprovalStore} {id : Text} {approval : Approval}
    (hstored : store.getAsync id = some approval) {request : Option DecisionRequest}
    {user : Option ClaimsPrincipal} {moments : Nat → Moment}
    (h : CrossesExpiry approval request user moments) (correlation : Option Text) :
    (eval serve (decideAsync id request user correlation) moments store).1.statusCode = 410 ∧
    (eval serve (decideAsync id request user correlation) moments store).2.getAsync id =
      some approval := by
  obtain ⟨decidedBy, hdecider, hcommand⟩ := h.decision
  obtain ⟨command, hcommand⟩ := Option.ne_none_iff_exists'.mp hcommand
  obtain ⟨decision, hdecision, rfl, _⟩ := requestedCommand_decision hcommand
  obtain ⟨reason, hlate⟩ := apply_late h.pending hdecision (objectId_present hdecider) h.after
  have hnotPassed : ¬(approval.hasPassedExpiry (moments 1).now = true ∧
      approval.state = .pendingApproval) := by
    rintro ⟨hpassed, _⟩
    exact absurd (of_decide_eq_true hpassed) (Nat.not_le_of_lt h.before)
  rw [eval_decideAsync_admitted ⟨hstored, h.anonymous, hdecider⟩, if_neg hnotPassed, hcommand]
  simp only [(eval_recordDecision ..).1, (eval_recordDecision ..).2, hlate]
  exact ⟨rfl, hstored⟩

theorem gone_expired {store : InMemoryApprovalStore} {id : Text} {approval : Approval}
    (hstored : store.getAsync id = some approval) {request : Option DecisionRequest}
    {user : Option ClaimsPrincipal} {correlation : Option Text} {moments : Nat → Moment}
    (hclock : Monotone fun n => (moments n).now)
    (hcrosses : ¬CrossesExpiry approval request user moments)
    (hstatus : (eval serve (decideAsync id request user correlation) moments store).1.statusCode =
      410) :
    ∃ approval', (eval serve (decideAsync id request user correlation) moments store).2.getAsync id =
      some approval' ∧ approval'.state = .expired := by
  by_cases hadmitted : ∃ approval decidedBy, Admitted store id request user approval decidedBy
  · obtain ⟨_, decidedBy, hadmitted⟩ := hadmitted
    cases hstored.symm.trans hadmitted.stored
    rw [eval_decideAsync_admitted hadmitted] at hstatus ⊢
    split at hstatus
    · rename_i hexpiry
      have hdue : approval.expiresAt ≤ (moments (0 + 2)).now :=
        (of_decide_eq_true hexpiry.1).trans (hclock (by decide))
      refine ⟨expired approval (moments (0 + 2)).now, ?_, rfl⟩
      rw [if_pos hexpiry, (eval_recordExpiry ..).2, apply_expire hexpiry.2 hdue]
      have hid : id = (expired approval (moments (0 + 2)).now).id :=
        (store.keyed id approval hstored).symm
      simp [← hid]
    · rename_i hexpiry
      rw [if_neg hexpiry]
      cases hcommand : requestedCommand request decidedBy with
      | none =>
        rw [hcommand] at hstatus
        cases hstatus
      | some command =>
        rw [hcommand] at hstatus
        dsimp only at hstatus ⊢
        rw [(eval_recordDecision ..).1] at hstatus
        rw [(eval_recordDecision ..).2]
        cases houtcome : apply approval command (moments (0 + 2)).now with
        | accepted next event =>
          rw [houtcome] at hstatus
          cases hstatus
        | refused refusal event =>
          rw [houtcome] at hstatus
          refine ⟨approval, hstored, ?_⟩
          rcases refused_expired houtcome (statusFor_gone.mp hstatus) with
            hexpired | ⟨hpending, hlate⟩
          · exact hexpired
          · have hnotPassed : ¬approval.expiresAt ≤ (moments 1).now := fun hpassed =>
              hexpiry ⟨decide_eq_true hpassed, hpending⟩
            refine absurd ⟨hpending, hadmitted.anonymous, ?_, Nat.lt_of_not_le hnotPassed,
              hlate⟩ hcrosses
            exact ⟨decidedBy, hadmitted.decider, by simp [hcommand]⟩
  · exact absurd hstatus (eval_decideAsync_turnedAway (by simpa using hadmitted) ..).2.2

/-- 410 is an expiry on record unless the clock passes the expiry between the check of the
handler and the decision of the state machine. -/
theorem goneIsRecorded_iff {store : InMemoryApprovalStore} {id : Text} {approval : Approval}
    (hstored : store.getAsync id = some approval) (request : Option DecisionRequest)
    (user : Option ClaimsPrincipal) (correlation : Option Text) {moments : Nat → Moment}
    (hclock : Monotone fun n => (moments n).now) :
    GoneIsRecorded store id request user correlation moments ↔
      ¬CrossesExpiry approval request user moments := by
  constructor
  · intro hgone hcrosses
    obtain ⟨hstatus, hsame⟩ := crossesExpiry_outcome hstored hcrosses correlation
    obtain ⟨⟨approval', happroval', hexpired⟩, _⟩ := hgone hstatus
    cases hsame.symm.trans happroval'
    rw [hcrosses.pending] at hexpired
    cases hexpired
  · intro hcrosses hstatus
    have hrecorded := gone_expired hstored hclock hcrosses hstatus
    refine ⟨hrecorded, ?_⟩
    obtain ⟨final, hfinal, hexpired⟩ := hrecorded
    intro arrivals approval' happroval'
    have hclosed : final.state ≠ .pendingApproval := by
      rw [hexpired]
      exact nofun
    cases (handleAll_final hfinal hclosed arrivals).symm.trans happroval'
    rw [hexpired]
    exact nofun

end

namespace Samples

open Approvals.Samples

/-- The proposal expires at 2000, after the first reading of the clock. -/
theorem crossing_notRecorded : ¬GoneIsRecorded storeOfAlice (lit "a-1") decisionOfBob userBob none
    fun n => ⟨if n ≤ 1 then 1999 else 2000, []⟩ := by
  intro h
  obtain ⟨⟨approval, happroval, hexpired⟩, _⟩ := h rfl
  cases happroval
  cases hexpired

theorem late_recorded : GoneIsRecorded storeOfAlice (lit "a-1") decisionOfBob userBob none
    fun _ => ⟨2000, []⟩ := by
  apply (goneIsRecorded_iff storeOfAlice_getAsync _ _ _ monotone_const).mpr
  intro hcrosses
  exact absurd hcrosses.before (show ¬2000 < 2000 by decide)

end Samples

end Fcmr.ApprovalsService
