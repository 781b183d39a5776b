import Fcmr.Approvals.ApprovalStateMachine
import Fcmr.Library.Machines

/-! What one command can do to an approval, and what any sequence of them can. -/
namespace Fcmr.Approvals

open DotNet ApprovalStateMachine

/-- The eight facts that are fixed when a proposal is raised. -/
structure SameProposal (left right : Approval) : Prop where
  id : right.id = left.id
  correlationId : right.correlationId = left.correlationId
  lane : right.lane = left.lane
  evidencePacket : right.evidencePacket = left.evidencePacket
  evidencePacketHash : right.evidencePacketHash = left.evidencePacketHash
  proposedByObjectId : right.proposedByObjectId = left.proposedByObjectId
  expiresAt : right.expiresAt = left.expiresAt
  createdAt : right.createdAt = left.createdAt

theorem SameProposal.rfl {approval : Approval} : SameProposal approval approval := by
  constructor <;> exact Eq.refl _

theorem SameProposal.trans {a b c : Approval} (h : SameProposal a b) (h' : SameProposal b c) :
    SameProposal a c where
  id := h'.id.trans h.id
  correlationId := h'.correlationId.trans h.correlationId
  lane := h'.lane.trans h.lane
  evidencePacket := h'.evidencePacket.trans h.evidencePacket
  evidencePacketHash := h'.evidencePacketHash.trans h.evidencePacketHash
  proposedByObjectId := h'.proposedByObjectId.trans h.proposedByObjectId
  expiresAt := h'.expiresAt.trans h.expiresAt
  createdAt := h'.createdAt.trans h.createdAt

section

variable [RoundTripFormat]

structure DecisionAllowed (approval : Approval) (decision : Decision) (now : DateTimeOffset) :
    Prop where
  identity : isNullOrWhiteSpace (some decision.decidedBy) = false
  inTime : now < approval.expiresAt
  segregated : isSameIdentity decision.decidedBy approval.proposedByObjectId = false
  reasoned : decision.targetState = .rejected → isNullOrWhiteSpace decision.reason = false
  intact : approval.verifyEvidenceIntegrity = true
  acknowledged : ∀ hash, decision.acknowledgedHash = some hash →
    equalsOrdinalIgnoreCase (some hash) (some approval.evidencePacketHash) = true

def decided (approval : Approval) (decision : Decision) (now : DateTimeOffset)
    (h : DecisionAllowed approval decision now) : Approval :=
  approval.withDecision decision.targetState.state (some decision.decidedBy)
    (trimmedReason decision) now (decided_consistent now h.identity h.reasoned)

inductive Transition (approval : Approval) (command : ApprovalCommand) (now : DateTimeOffset) :
    ApprovalTransitionResult → Prop
  | expired (pending : approval.state = .pendingApproval) (job : command.decision = none)
      (due : approval.expiresAt ≤ now) :
      Transition approval command now (.accepted (expired approval now) (expiredEvent approval now))
  | decided {decision : Decision} (pending : approval.state = .pendingApproval)
      (human : command.decision = some decision) (allowed : DecisionAllowed approval decision now) :
      Transition approval command now
        (.accepted (decided approval decision now allowed) (decidedEvent approval decision now))
  | refused (kind : ApprovalRefusalKind) (reason : Text) :
      Transition approval command now (refuse approval command now kind reason)

theorem decideFromPending_allowed {approval : Approval} {decision : Decision}
    {now : DateTimeOffset} (h : DecisionAllowed approval decision now) (command : ApprovalCommand) :
    decideFromPending approval command decision now =
      .accepted (decided approval decision now h) (decidedEvent approval decision now) := by
  have htime : ¬approval.expiresAt ≤ now := Nat.not_le_of_lt h.inTime
  have hreason : ¬(decision.targetState = .rejected ∧ isNullOrWhiteSpace decision.reason = true) := by
    rintro ⟨htarget, hblank⟩
    simp [h.reasoned htarget] at hblank
  have hack : (decision.acknowledgedHash.any fun hash =>
      !equalsOrdinalIgnoreCase (some hash) (some approval.evidencePacketHash)) = false := by
    cases hhash : decision.acknowledgedHash with
    | none => rfl
    | some hash => simp [h.acknowledged hash hhash]
  unfold decideFromPending
  rw [dif_neg (by simp [h.identity]), if_neg htime, if_neg (by simp [h.segregated]),
    dif_neg hreason, if_neg (by simp [h.intact]), if_neg (by simp [hack])]
  rfl

inductive Obstacle (approval : Approval) (decision : Decision) (now : DateTimeOffset) :
    ApprovalRefusalKind → Prop
  | unnamed (blank : isNullOrWhiteSpace (some decision.decidedBy) = true) :
      Obstacle approval decision now .approverIdentityRequired
  | late (due : approval.expiresAt ≤ now) : Obstacle approval decision now .expired
  | self (named : isNullOrWhiteSpace (some decision.decidedBy) = false)
      (inTime : now < approval.expiresAt)
      (same : isSameIdentity decision.decidedBy approval.proposedByObjectId = true) :
      Obstacle approval decision now .segregationOfDuties
  | unreasoned (inTime : now < approval.expiresAt)
      (segregated : isSameIdentity decision.decidedBy approval.proposedByObjectId = false)
      (rejecting : decision.targetState = .rejected)
      (blank : isNullOrWhiteSpace decision.reason = true) :
      Obstacle approval decision now .reasonRequired
  | mismatch (inTime : now < approval.expiresAt)
      (segregated : isSameIdentity decision.decidedBy approval.proposedByObjectId = false)
      (reasoned : decision.targetState = .rejected → isNullOrWhiteSpace decision.reason = false)
      (unverified : approval.verifyEvidenceIntegrity = false ∨ ∃ hash,
        decision.acknowledgedHash = some hash ∧
          equalsOrdinalIgnoreCase (some hash) (some approval.evidencePacketHash) = false) :
      Obstacle approval decision now .evidencePacketMismatch

theorem decideFromPending_cases (approval : Approval) (command : ApprovalCommand)
    (decision : Decision) (now : DateTimeOffset) :
    DecisionAllowed approval decision now ∨ ∃ kind reason, Obstacle approval decision now kind ∧
      decideFromPending approval command decision now = refuse approval command now kind reason := by
  unfold decideFromPending
  split
  · rename_i hblank
    exact .inr ⟨_, _, .unnamed hblank, rfl⟩
  split
  · rename_i hdue
    exact .inr ⟨_, _, .late hdue, rfl⟩
  rename_i hidentity htime
  replace hidentity := Bool.eq_false_of_not_eq_true hidentity
  replace htime := Nat.lt_of_not_le htime
  split
  · rename_i hsame
    exact .inr ⟨_, _, .self hidentity htime hsame, rfl⟩
  rename_i hsame
  replace hsame := Bool.eq_false_of_not_eq_true hsame
  split
  · rename_i hreason
    exact .inr ⟨_, _, .unreasoned htime hsame hreason.1 hreason.2, rfl⟩
  rename_i hreason
  have hreasoned (htarget : decision.targetState = .rejected) :
      isNullOrWhiteSpace decision.reason = false :=
    Bool.eq_false_of_not_eq_true fun hblank => hreason ⟨htarget, hblank⟩
  split
  · rename_i haltered
    exact .inr ⟨_, _, .mismatch htime hsame hreasoned (.inl haltered), rfl⟩
  split
  · rename_i hack
    obtain ⟨hash, hhash, hother⟩ := (Option.any_eq_true _ _).mp hack
    replace hother := Bool.eq_false_of_not_eq_true (by simpa using hother)
    exact .inr ⟨_, _, .mismatch htime hsame hreasoned (.inr ⟨hash, hhash, hother⟩), rfl⟩
  rename_i hintact hack
  left
  exact {
    identity := hidentity
    inTime := htime
    segregated := hsame
    reasoned := hreasoned
    intact := Bool.eq_true_of_not_eq_false hintact
    acknowledged := by
      intro hash hhash
      simpa [hhash] using hack }

theorem apply_transition (approval : Approval) (command : ApprovalCommand) (now : DateTimeOffset) :
    Transition approval command now (apply approval command now) := by
  unfold apply
  split
  · rename_i hpending
    unfold fromPending
    split
    · rename_i hjob
      split
      · exact .refused ..
      · rename_i hdue
        exact .expired hpending hjob (Nat.le_of_not_lt hdue)
    · rename_i decision hhuman
      rcases decideFromPending_cases approval command decision now with
        hallowed | ⟨_, _, _, hrefused⟩
      · rw [decideFromPending_allowed hallowed]
        exact .decided hpending hhuman hallowed
      · rw [hrefused]
        exact .refused ..
  · split <;> exact .refused ..
  · exact .refused ..
  · exact .refused ..

theorem apply_allowed {approval : Approval} {command : ApprovalCommand} {decision : Decision}
    {now : DateTimeOffset} (hpending : approval.state = .pendingApproval)
    (hdecision : command.decision = some decision) (h : DecisionAllowed approval decision now) :
    apply approval command now =
      .accepted (decided approval decision now h) (decidedEvent approval decision now) := by
  unfold apply fromPending
  rw [hpending, hdecision]
  exact decideFromPending_allowed h command

theorem accepted_cases {approval next : Approval} {command : ApprovalCommand}
    {now : DateTimeOffset} {event : ApprovalAuditEvent}
    (h : apply approval command now = .accepted next event) :
    approval.state = .pendingApproval ∧
    ((command = .expire ∧ approval.expiresAt ≤ now ∧ next = expired approval now ∧
        event = expiredEvent approval now) ∨
      ∃ decision, ∃ allowed : DecisionAllowed approval decision now,
        command.decision = some decision ∧ next = decided approval decision now allowed ∧
        event = decidedEvent approval decision now) := by
  have htransition := h ▸ apply_transition approval command now
  cases htransition with
  | expired pending job due =>
    have hcommand : command = .expire := by
      cases command with
      | expire => rfl
      | approve => cases job
      | reject => cases job
    exact ⟨pending, .inl ⟨hcommand, due, rfl, rfl⟩⟩
  | decided pending human allowed => exact ⟨pending, .inr ⟨_, allowed, human, rfl, rfl⟩⟩

theorem refused_cases {approval : Approval} {command : ApprovalCommand} {now : DateTimeOffset}
    {refusal : ApprovalRefusal} {event : ApprovalAuditEvent}
    (h : apply approval command now = .refused refusal event) :
    ∃ kind reason, apply approval command now = refuse approval command now kind reason := by
  have htransition := apply_transition approval command now
  generalize apply approval command now = result at h htransition
  cases htransition with
  | expired => cases h
  | decided => cases h
  | refused kind reason => exact ⟨kind, reason, rfl⟩

theorem refused_event {approval : Approval} {command : ApprovalCommand} {now : DateTimeOffset}
    {refusal : ApprovalRefusal} {event : ApprovalAuditEvent}
    (h : apply approval command now = .refused refusal event) :
    event.eventType = .approvalRefused ∧ event.approvalId = approval.id := by
  obtain ⟨kind, reason, hrefused⟩ := refused_cases h
  cases h.symm.trans hrefused
  exact ⟨rfl, rfl⟩

theorem accepted_event {approval next : Approval} {command : ApprovalCommand}
    {now : DateTimeOffset} {event : ApprovalAuditEvent}
    (h : apply approval command now = .accepted next event) :
    event.eventType = (if command = .expire then .approvalExpired else .approvalDecided) ∧
      event.approvalId = approval.id ∧ event.resultingState = next.state := by
  obtain ⟨_, ⟨hcommand, _, rfl, rfl⟩ | ⟨decision, _, hdecision, rfl, rfl⟩⟩ := accepted_cases h
  · rw [if_pos hcommand]
    exact ⟨rfl, rfl, rfl⟩
  · rw [if_neg]
    · exact ⟨rfl, rfl, rfl⟩
    · rintro rfl
      cases hdecision

theorem apply_expire {approval : Approval} {now : DateTimeOffset}
    (hpending : approval.state = .pendingApproval) (hdue : approval.expiresAt ≤ now) :
    apply approval .expire now = .accepted (expired approval now) (expiredEvent approval now) := by
  unfold apply fromPending
  rw [hpending]
  exact if_neg (Nat.not_lt_of_le hdue)

theorem apply_late {approval : Approval} {command : ApprovalCommand} {decision : Decision}
    {now : DateTimeOffset} (hpending : approval.state = .pendingApproval)
    (hdecision : command.decision = some decision)
    (hidentity : isNullOrWhiteSpace (some decision.decidedBy) = false)
    (hlate : approval.expiresAt ≤ now) :
    ∃ reason, apply approval command now = refuse approval command now .expired reason := by
  unfold apply fromPending
  rw [hpending, hdecision]
  dsimp only
  unfold decideFromPending
  rw [dif_neg (by simp [hidentity]), if_pos hlate]
  exact ⟨_, rfl⟩

theorem refused_obstacle {approval : Approval} {command : ApprovalCommand} {decision : Decision}
    {now : DateTimeOffset} {refusal : ApprovalRefusal} {event : ApprovalAuditEvent}
    (hpending : approval.state = .pendingApproval) (hdecision : command.decision = some decision)
    (h : apply approval command now = .refused refusal event) :
    Obstacle approval decision now refusal.kind := by
  unfold apply fromPending at h
  rw [hpending, hdecision] at h
  rcases decideFromPending_cases approval command decision now with
    hallowed | ⟨kind, reason, hobstacle, hrefused⟩
  · cases (decideFromPending_allowed hallowed command).symm.trans h
  · cases hrefused.symm.trans h
    exact hobstacle

theorem refused_closed {approval : Approval} {command : ApprovalCommand} {now : DateTimeOffset}
    {refusal : ApprovalRefusal} {event : ApprovalAuditEvent}
    (hclosed : approval.state ≠ .pendingApproval)
    (h : apply approval command now = .refused refusal event) :
    refusal.kind = .expired ∨ refusal.kind = .invalidTransition := by
  unfold apply at h
  split at h
  · rename_i hpending
    exact absurd hpending hclosed
  · split at h
    · cases h
      exact .inr rfl
    · cases h
      exact .inl rfl
  · cases h
    exact .inr rfl
  · cases h
    exact .inr rfl

theorem refused_expired {approval : Approval} {command : ApprovalCommand} {now : DateTimeOffset}
    {refusal : ApprovalRefusal} {event : ApprovalAuditEvent}
    (h : apply approval command now = .refused refusal event) (hkind : refusal.kind = .expired) :
    approval.state = .expired ∨
      approval.state = .pendingApproval ∧ approval.expiresAt ≤ now := by
  cases hstate : approval.state with
  | pendingApproval =>
    right
    refine ⟨rfl, ?_⟩
    cases hdecision : command.decision with
    | none =>
      unfold apply fromPending at h
      rw [hstate, hdecision] at h
      dsimp only at h
      split at h
      · cases h
        cases hkind
      · cases h
    | some decision =>
      have hobstacle := refused_obstacle hstate hdecision h
      rw [hkind] at hobstacle
      cases hobstacle with
      | late due => exact due
  | expired => exact .inl rfl
  | approved =>
    unfold apply at h
    rw [hstate] at h
    cases h
    cases hkind
  | rejected =>
    unfold apply at h
    rw [hstate] at h
    cases h
    cases hkind

theorem accepted_sameProposal {approval next : Approval} {command : ApprovalCommand}
    {now : DateTimeOffset} {event : ApprovalAuditEvent}
    (h : apply approval command now = .accepted next event) : SameProposal approval next := by
  obtain ⟨_, ⟨_, _, rfl, _⟩ | ⟨_, _, _, rfl, _⟩⟩ := accepted_cases h <;> constructor <;> rfl

theorem accepted_closes {approval next : Approval} {command : ApprovalCommand}
    {now : DateTimeOffset} {event : ApprovalAuditEvent}
    (h : apply approval command now = .accepted next event) : next.state ≠ .pendingApproval := by
  obtain ⟨_, ⟨_, _, rfl, _⟩ | ⟨decision, _, _, rfl, _⟩⟩ := accepted_cases h
  · exact nofun
  · change decision.targetState.state ≠ .pendingApproval
    cases decision.targetState <;> exact nofun

/-- One command attempted at one reading of the clock. -/
abbrev Attempt := ApprovalCommand × DateTimeOffset

def attempt (approval : Approval) (input : Attempt) : ApprovalTransitionResult :=
  apply approval input.1 input.2

/-- The machine whose states are approvals: the prior instance stays on refusal. -/
def step : Machines.Machine Approval Attempt := fun approval input =>
  match attempt approval input with
  | .accepted next _ => some next
  | .refused _ _ => none

def run (approval : Approval) (inputs : List Attempt) : Approval :=
  Machines.run step approval inputs

/-- The audit events of a run, one for each attempt. -/
def auditTrail (approval : Approval) : List Attempt → List ApprovalAuditEvent
  | [] => []
  | input :: inputs =>
    (attempt approval input).auditEvent :: auditTrail (Machines.next step approval input) inputs

theorem step_eq_some {approval next : Approval} {input : Attempt} :
    step approval input = some next ↔ ∃ event, attempt approval input = .accepted next event := by
  unfold step
  split
  · rename_i h
    simp [h]
  · rename_i h
    simp [h]

theorem step_isSome {approval : Approval} {input : Attempt} :
    (step approval input).isSome = (attempt approval input).isAccepted := by
  unfold step
  split <;> rename_i h <;> simp [h, ApprovalTransitionResult.isAccepted]

theorem step_writeOnce : Machines.WriteOnce step fun approval => approval.state ≠ .pendingApproval where
  refused := by
    intro approval input hclosed
    by_contra hsome
    obtain ⟨next, hnext⟩ := Option.ne_none_iff_exists'.mp hsome
    obtain ⟨_, haccepted⟩ := step_eq_some.mp hnext
    exact hclosed (accepted_cases haccepted).1
  closes := by
    intro approval input next hnext
    obtain ⟨_, haccepted⟩ := step_eq_some.mp hnext
    exact accepted_closes haccepted

theorem run_append (approval : Approval) (before after : List Attempt) :
    run approval (before ++ after) = run (run approval before) after :=
  Machines.run_append ..

theorem run_of_closed {approval : Approval} (h : approval.state ≠ .pendingApproval)
    (inputs : List Attempt) : run approval inputs = approval :=
  step_writeOnce.run_of_closed h inputs

theorem run_sameProposal (approval : Approval) (inputs : List Attempt) :
    SameProposal approval (run approval inputs) := by
  apply Machines.run_invariant (P := SameProposal approval) _ SameProposal.rfl
  intro current input next hcurrent hnext
  obtain ⟨_, haccepted⟩ := step_eq_some.mp hnext
  exact hcurrent.trans (accepted_sameProposal haccepted)

end

namespace Samples

theorem approval_allowed (lane : Lane) {now : DateTimeOffset} (h : now < 2000) :
    DecisionAllowed (pendingApproval lane) ⟨lit "bob", none, none, .approved⟩ now := by
  obtain ⟨_, hproposed⟩ := pendingApproval_proposed lane
  exact {
    identity := by decide
    inTime := h
    segregated := show isSameIdentity (lit "bob") (lit "alice") = false by decide
    reasoned := nofun
    intact := (propose_accepted hproposed).intact
    acknowledged := nofun }

end Samples

end Fcmr.Approvals
