import Fcmr.ApprovalsService.Handlers

/-! The statuses of refusals: what the domain publishes, and what the handlers answer. -/
namespace Fcmr.ApprovalsService

open DotNet Approvals ApprovalStateMachine Programs ApprovalsAuthorization

/-- A domain refusal is answered with the status that the domain publishes for it. -/
def Published (result : Result) : Prop :=
  ∀ (refusal : ApprovalRefusal) (correlationId : Text),
    result.body = .error ⟨refusal.kind.text, refusal.reason, correlationId⟩ →
      result.statusCode = refusal.statusCode

def refusalKinds : List ApprovalRefusalKind :=
  [.segregationOfDuties, .invalidTransition, .expired, .notYetExpired, .reasonRequired,
    .approverIdentityRequired, .proposerIdentityRequired, .correlationIdRequired,
    .expiryNotInFuture, .evidencePacketMismatch, .notApproved, .inconsistentRecord]

theorem mem_refusalKinds (kind : ApprovalRefusalKind) : kind ∈ refusalKinds := by
  cases kind <;> decide

theorem kind_text_nodup : (refusalKinds.map ApprovalRefusalKind.text).Nodup := by decide +kernel

theorem kind_text_injective : Function.Injective ApprovalRefusalKind.text := by
  intro left right h
  exact List.inj_on_of_nodup_map kind_text_nodup (mem_refusalKinds left) (mem_refusalKinds right) h

/-- The words of the handlers' own errors. -/
def handlerErrors : List Text :=
  [lit "EvidenceRequired", lit "IdentityNotAccepted", lit "Forbidden", lit "ExpiryRequired",
    lit "NotFound", lit "InvalidDecision"]

theorem kind_text_not_handlerError (kind : ApprovalRefusalKind) : kind.text ∉ handlerErrors := by
  have hall : ∀ kind ∈ refusalKinds, kind.text ∉ handlerErrors := by decide +kernel
  exact hall kind (mem_refusalKinds kind)

theorem published_handlerError {word : Text} (h : word ∈ handlerErrors)
    (correlation : Option Text) (status : Nat) (detail : Text) :
    Published (error correlation status word detail) := by
  rintro refusal correlationId hbody
  cases hbody
  exact absurd h (kind_text_not_handlerError refusal.kind)

theorem published_kind (kind : ApprovalRefusalKind) {status : Nat}
    (h : ∀ refusal : ApprovalRefusal, refusal.kind = kind → status = refusal.statusCode)
    (correlation : Option Text) (detail : Text) :
    Published (error correlation status kind.text detail) := by
  intro refusal correlationId hbody
  generalize hkind : refusal.kind.text = word at hbody
  cases hbody
  exact h refusal (kind_text_injective hkind)

theorem statusFor_eq_iff (refusal : ApprovalRefusal) :
    statusFor refusal.kind = refusal.statusCode ↔ refusal.kind ≠ .evidencePacketMismatch ∧
      refusal.kind ≠ .notApproved ∧ refusal.kind ≠ .inconsistentRecord := by
  unfold ApprovalRefusal.statusCode
  cases refusal.kind <;> simp [statusFor]

theorem published_refusal (refusal : ApprovalRefusal) (correlation : Option Text) :
    Published (error correlation (statusFor refusal.kind) refusal.kind.text refusal.reason) ↔
      statusFor refusal.kind = refusal.statusCode := by
  constructor
  · intro h
    exact h refusal _ rfl
  · intro h
    refine published_kind refusal.kind ?_ correlation refusal.reason
    intro other hkind
    rw [h, ApprovalRefusal.statusCode, ApprovalRefusal.statusCode, hkind]

theorem published_approval (status : Nat) (response : ApprovalResponse) :
    Published ⟨status, .approval response⟩ := by
  intro refusal correlationId hbody
  cases hbody

section

variable [RoundTripFormat]

theorem propose_refused {id : Text} {lane : Lane} {evidencePacket : EvidencePacket}
    {proposedByObjectId : Text} {expiresAt now : DateTimeOffset} {refusal : ApprovalRefusal}
    (h : Approval.propose id lane evidencePacket proposedByObjectId expiresAt now =
      .refused refusal) : statusFor refusal.kind = refusal.statusCode := by
  unfold Approval.propose at h
  dsimp only at h
  split at h
  · cases h
    rfl
  split at h
  · cases h
    rfl
  split at h
  · cases h
    rfl
  · cases h

theorem published_createAsync (request : Option CreateApprovalRequest)
    (user : Option ClaimsPrincipal) (correlation : Option Text) (moments : Nat → Moment)
    (store : InMemoryApprovalStore) :
    Published (eval serve (createAsync request user correlation) moments store).1 := by
  unfold createAsync
  split
  · apply published_handlerError
    decide
  split
  · apply published_handlerError
    decide
  split
  · apply published_handlerError
    decide
  split
  · apply published_handlerError
    decide
  split
  · apply published_handlerError
    decide
  simp only [perform_bind, eval, serve]
  split
  · rename_i refusal hrefused
    exact (published_refusal refusal correlation).mpr (propose_refused hrefused)
  · rename_i approval event _
    cases event with
    | none => exact published_approval 201 (.from approval true)
    | some event => exact published_approval 201 (.from approval true)

theorem published_recordExpiry (approval : Approval) (correlation : Option Text)
    (moments : Nat → Moment) (store : InMemoryApprovalStore) :
    Published (eval serve (recordExpiry approval correlation) moments store).1 := by
  have hexpired (detail : Text) : Published (error correlation 410 (lit "Expired") detail) := by
    refine published_kind .expired ?_ correlation detail
    intro refusal hkind
    rw [ApprovalRefusal.statusCode, hkind]
  unfold recordExpiry
  simp only [perform_bind, eval, serve]
  cases apply approval .expire (moments 0).now <;> exact hexpired _

theorem recordDecision_result (approval : Approval) (command : ApprovalCommand)
    (correlation : Option Text) (moments : Nat → Moment) (store : InMemoryApprovalStore) :
    (eval serve (recordDecision approval command correlation) moments store).1 =
      match apply approval command (moments 0).now with
      | .accepted decided _ => ⟨200, .approval (.from decided false)⟩
      | .refused refusal _ =>
        error correlation (statusFor refusal.kind) refusal.kind.text refusal.reason := by
  unfold recordDecision
  simp only [perform_bind, eval, serve]
  cases apply approval command (moments 0).now <;> rfl

theorem published_recordDecision (approval : Approval) (command : ApprovalCommand)
    (correlation : Option Text) (moments : Nat → Moment) (store : InMemoryApprovalStore) :
    Published (eval serve (recordDecision approval command correlation) moments store).1 ↔
      ∀ refusal event, apply approval command (moments 0).now = .refused refusal event →
        statusFor refusal.kind = refusal.statusCode := by
  rw [recordDecision_result]
  cases apply approval command (moments 0).now with
  | accepted next event =>
    constructor
    · intro _ _ _ hrefused
      cases hrefused
    · intro _
      exact published_approval 200 (.from next false)
  | refused refusal event =>
    dsimp only
    rw [published_refusal]
    constructor
    · rintro h _ _ ⟨⟩
      exact h
    · intro h
      exact h refusal event rfl

structure OnlyAltered (approval : Approval) (decision : Decision) (now : DateTimeOffset) :
    Prop where
  pending : approval.state = .pendingApproval
  inTime : now < approval.expiresAt
  segregated : isSameIdentity decision.decidedBy approval.proposedByObjectId = false
  reasoned : decision.targetState = .rejected → isNullOrWhiteSpace decision.reason = false
  altered : approval.verifyEvidenceIntegrity = false

theorem refused_status_iff {approval : Approval} {command : ApprovalCommand} {decision : Decision}
    (now : DateTimeOffset) (hdecision : command.decision = some decision)
    (hnamed : isNullOrWhiteSpace (some decision.decidedBy) = false)
    (hhash : decision.acknowledgedHash = none) :
    (∀ refusal event, apply approval command now = .refused refusal event →
        statusFor refusal.kind = refusal.statusCode) ↔ ¬OnlyAltered approval decision now := by
  constructor
  · intro hstatus haltered
    cases hresult : apply approval command now with
    | accepted next event =>
      obtain ⟨_, ⟨hexpire, _⟩ | ⟨other, hallowed, hother, _⟩⟩ := accepted_cases hresult
      · subst hexpire
        cases hdecision
      · cases hdecision.symm.trans hother
        cases haltered.altered.symm.trans hallowed.intact
    | refused refusal event =>
      have hobstacle := refused_obstacle haltered.pending hdecision hresult
      obtain ⟨hmismatch, _⟩ := (statusFor_eq_iff refusal).mp (hstatus refusal event hresult)
      generalize refusal.kind = kind at hobstacle hmismatch
      cases hobstacle with
      | unnamed blank => cases blank.symm.trans hnamed
      | late due => exact absurd haltered.inTime (Nat.not_lt_of_le due)
      | self _ _ same => cases same.symm.trans haltered.segregated
      | unreasoned _ _ rejecting blank => cases blank.symm.trans (haltered.reasoned rejecting)
      | mismatch => exact hmismatch rfl
  · intro haltered refusal event hrefused
    apply (statusFor_eq_iff refusal).mpr
    by_cases hpending : approval.state = .pendingApproval
    · have hobstacle := refused_obstacle hpending hdecision hrefused
      generalize refusal.kind = kind at hobstacle
      cases hobstacle with
      | unnamed => exact ⟨nofun, nofun, nofun⟩
      | late => exact ⟨nofun, nofun, nofun⟩
      | self => exact ⟨nofun, nofun, nofun⟩
      | unreasoned => exact ⟨nofun, nofun, nofun⟩
      | mismatch inTime segregated reasoned unverified =>
        rcases unverified with hintact | ⟨hash, hsome, _⟩
        · exact absurd ⟨hpending, inTime, segregated, reasoned, hintact⟩ haltered
        · cases hhash.symm.trans hsome
    · rcases refused_closed hpending hrefused with hkind | hkind <;> rw [hkind] <;>
        exact ⟨nofun, nofun, nofun⟩

/-- A decision that the handler brings to a proposal, all of whose other guards it passes. -/
structure EvidenceAltered (store : InMemoryApprovalStore) (id : Text)
    (request : Option DecisionRequest) (user : Option ClaimsPrincipal)
    (checked applied : DateTimeOffset) (approval : Approval) (command : ApprovalCommand)
    (decision : Decision) : Prop where
  admitted : Admitted store id request user approval decision.decidedBy
  inTime : checked < approval.expiresAt
  requested : requestedCommand request decision.decidedBy = some command
  human : command.decision = some decision
  onlyAltered : OnlyAltered approval decision applied

section

variable {store : InMemoryApprovalStore} {id : Text} {request : Option DecisionRequest}
  {user : Option ClaimsPrincipal}

theorem published_turnedAway
    (h : ∀ approval decidedBy, ¬Admitted store id request user approval decidedBy)
    (correlation : Option Text) (moments : Nat → Moment) :
    Published (eval serve (decideAsync id request user correlation) moments store).1 := by
  unfold decideAsync
  simp only [perform_bind, eval, serve]
  cases hstored : store.getAsync id with
  | none =>
    apply published_handlerError
    decide
  | some approval =>
    cases hanonymous : RejectedIdentityMembers.find (request.bind (·.extra)) with
    | some offending =>
      apply published_handlerError
      decide
    | none =>
      cases hdecider : objectId user with
      | none =>
        apply published_handlerError
        decide
      | some decidedBy => exact absurd ⟨hstored, hanonymous, hdecider⟩ (h approval decidedBy)

variable (store id request user)

theorem published_decideAsync_iff (correlation : Option Text) (moments : Nat → Moment) :
    Published (eval serve (decideAsync id request user correlation) moments store).1 ↔
      ∀ approval command decision, ¬EvidenceAltered store id request user (moments 1).now
        (moments 2).now approval command decision := by
  by_cases hadmitted : ∃ approval decidedBy, Admitted store id request user approval decidedBy
  · obtain ⟨approval, decidedBy, h⟩ := hadmitted
    rw [eval_decideAsync_admitted h]
    split
    · rename_i hexpiry
      refine ⟨fun _ => ?_, fun _ => published_recordExpiry _ _ _ _⟩
      intro other command decision haltered
      obtain ⟨rfl, rfl⟩ := h.unique haltered.admitted
      exact absurd haltered.inTime (Nat.not_lt_of_le (of_decide_eq_true hexpiry.1))
    · rename_i hopen
      cases hcommand : requestedCommand request decidedBy with
      | none =>
        constructor
        · intro _ other command decision haltered
          obtain ⟨rfl, rfl⟩ := h.unique haltered.admitted
          cases hcommand.symm.trans haltered.requested
        · intro _
          apply published_handlerError
          decide
      | some command =>
        obtain ⟨decision, hdecision, rfl, hhash⟩ := requestedCommand_decision hcommand
        refine (published_recordDecision _ _ _ _ _).trans ((refused_status_iff _ hdecision
          (objectId_present h.decider) hhash).trans ?_)
        constructor
        · intro hstatus other command' decision' haltered
          obtain ⟨rfl, hdecider⟩ := h.unique haltered.admitted
          have hrequested := haltered.requested
          rw [← hdecider, hcommand] at hrequested
          cases hrequested
          cases hdecision.symm.trans haltered.human
          exact hstatus haltered.onlyAltered
        · intro hstatus haltered
          refine hstatus approval command decision ⟨h, ?_, hcommand, hdecision, haltered⟩
          apply Nat.lt_of_not_le
          intro hpassed
          exact hopen ⟨decide_eq_true hpassed, haltered.pending⟩
  · refine ⟨fun _ => ?_, fun _ => published_turnedAway (by simpa using hadmitted) _ _⟩
    intro approval command decision haltered
    exact hadmitted ⟨approval, decision.decidedBy, haltered.admitted⟩

end

/-- The status of every refusal is the one published, but for evidence that was altered. -/
theorem refusal_status_iff (store : InMemoryApprovalStore) (id : Text)
    (create : Option CreateApprovalRequest) (request : Option DecisionRequest)
    (user : Option ClaimsPrincipal) (correlation : Option Text) (moments : Nat → Moment) :
    (Published (eval serve (createAsync create user correlation) moments store).1 ∧
      Published (eval serve (decideAsync id request user correlation) moments store).1) ↔
    ∀ approval command decision, ¬EvidenceAltered store id request user (moments 1).now
      (moments 2).now approval command decision := by
  rw [published_decideAsync_iff]
  exact and_iff_right (published_createAsync create user correlation moments store)

end

namespace Samples

open Approvals.Samples

def alteredProposal : Approval := { pendingApproval .orderRouting with evidencePacketHash := [] }

def alteredStore : InMemoryApprovalStore := .updateAsync .empty alteredProposal

theorem toUpperOrdinal_eq_nil {value : Text} (h : toUpperOrdinal value = []) : value = [] := by
  unfold toUpperOrdinal at h
  split at h
  · rfl
  · cases h
  · split at h <;> cases h

theorem alteredProposal_altered : alteredProposal.verifyEvidenceIntegrity = false := by
  by_contra hverified
  have hequal := Bool.eq_true_of_not_eq_false hverified
  simp only [Approval.verifyEvidenceIntegrity, equalsOrdinalIgnoreCase, Option.map_some,
    beq_iff_eq, Option.some.injEq] at hequal
  cases toUpperOrdinal_eq_nil hequal

theorem bob_altered : EvidenceAltered alteredStore (lit "a-1") decisionOfBob userBob 1500 1500
    alteredProposal (.approve (lit "bob") none none) ⟨lit "bob", none, none, .approved⟩ where
  admitted := ⟨rfl, rfl, by decide⟩
  inTime := show 1500 < 2000 by decide
  requested := by decide
  human := rfl
  onlyAltered := {
    pending := rfl
    inTime := show 1500 < 2000 by decide
    segregated := show isSameIdentity (lit "bob") (lit "alice") = false by decide
    reasoned := nofun
    altered := alteredProposal_altered }

/-- Bob is answered 400 where the domain publishes 409. -/
theorem altered_bad_request : ¬Published (eval serve
    (decideAsync (lit "a-1") decisionOfBob userBob none) (fun _ => ⟨1500, []⟩) alteredStore).1 :=
  fun h => (published_decideAsync_iff ..).mp h _ _ _ bob_altered

end Samples

end Fcmr.ApprovalsService
