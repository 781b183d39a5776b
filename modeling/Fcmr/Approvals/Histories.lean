import Fcmr.Approvals.ExecutionGate
import Fcmr.Approvals.Transitions

/-! Whole histories of a proposal: finality, the audit trail, and what the gate can
conclude from a record that the state machine wrote. -/
namespace Fcmr.Approvals

open DotNet ApprovalStateMachine

section
variable [RoundTripFormat]

/-- The audit event of one attempt against the state it leaves. -/
structure Recorded (approval : Approval) (input : Attempt) : Prop where
  resultingState : (attempt approval input).auditEvent.resultingState =
    (Machines.next step approval input).state
  refusalKind : (attempt approval input).auditEvent.refusalKind ≠ none ↔
    (attempt approval input).isAccepted = false
  actor : (attempt approval input).auditEvent.actorObjectId = none ↔ input.1 = .expire

theorem attempt_recorded (approval : Approval) (input : Attempt) : Recorded approval input := by
  have hactor : input.1.actorObjectId = none ↔ input.1 = .expire := by
    cases input.1 <;> simp [ApprovalCommand.actorObjectId]
  cases h : attempt approval input with
  | accepted next event =>
    have hnext := Machines.next_of_accepted (step_eq_some.mpr ⟨event, h⟩)
    obtain ⟨_, ⟨hcommand, _, rfl, rfl⟩ | ⟨decision, _, hcommand, rfl, rfl⟩⟩ := accepted_cases h
    · constructor
      · rw [h, hnext]
        rfl
      · rw [h]
        exact ⟨fun hne => absurd rfl hne, nofun⟩
      · rw [h]
        exact iff_of_true rfl hcommand
    · constructor
      · rw [h, hnext]
        rfl
      · rw [h]
        exact ⟨fun hne => absurd rfl hne, nofun⟩
      · rw [h]
        refine iff_of_false nofun fun hexpire => ?_
        rw [hexpire] at hcommand
        cases hcommand
  | refused refusal event =>
    have hnext : Machines.next step approval input = approval :=
      Machines.next_of_refused (by simp [step, h])
    obtain ⟨kind, reason, hrefused⟩ := refused_cases h
    have hattempt : attempt approval input = refuse approval input.1 input.2 kind reason := hrefused
    constructor
    · rw [hattempt, hnext]
      rfl
    · rw [hattempt]
      exact iff_of_true nofun rfl
    · rw [hattempt]
      exact hactor

theorem auditTrail_length (approval : Approval) (inputs : List Attempt) :
    (auditTrail approval inputs).length = inputs.length := by
  induction inputs generalizing approval with
  | nil => rfl
  | cons input inputs ih => simp [auditTrail, ih]

theorem auditTrail_getElem? (approval : Approval) (before after : List Attempt) (input : Attempt) :
    (auditTrail approval (before ++ input :: after))[before.length]? =
      some (attempt (run approval before) input).auditEvent := by
  induction before generalizing approval with
  | nil => rfl
  | cons first before ih => exact ih _

theorem run_snoc (approval : Approval) (before : List Attempt) (input : Attempt) :
    run approval (before ++ [input]) = Machines.next step (run approval before) input :=
  Machines.run_append ..

/-- No command changes what was proposed; one command at most is accepted, and the
record stands from then on; expiry is never followed by approval; and the trail holds
one event for every command, which says what the command did. -/
theorem history_final (approval : Approval) (inputs : List Attempt) :
    SameProposal approval (run approval inputs) ∧
    (∀ before input after before' input' after', inputs = before ++ input :: after →
      inputs = before' ++ input' :: after' →
      (attempt (run approval before) input).isAccepted = true →
      (attempt (run approval before') input').isAccepted = true →
      before = before' ∧ input = input' ∧ after = after') ∧
    (∀ before input after next event, inputs = before ++ input :: after →
      attempt (run approval before) input = .accepted next event → run approval inputs = next) ∧
    (∀ before after, inputs = before ++ after → (run approval before).state = .expired →
      (run approval inputs).state ≠ .approved) ∧
    (auditTrail approval inputs).length = inputs.length ∧
    ∀ before input after, inputs = before ++ input :: after →
      (auditTrail approval inputs)[before.length]? =
        some (attempt (run approval before) input).auditEvent ∧
      (attempt (run approval before) input).auditEvent.resultingState =
        (run approval (before ++ [input])).state ∧
      ((attempt (run approval before) input).auditEvent.refusalKind ≠ none ↔
        (attempt (run approval before) input).isAccepted = false) ∧
      ((attempt (run approval before) input).auditEvent.actorObjectId = none ↔
        input.1 = .expire) := by
  refine ⟨run_sameProposal .., ?_, ?_, ?_, auditTrail_length .., ?_⟩
  · intro before input after before' input' after' hinputs hinputs' haccepted haccepted'
    exact step_writeOnce.accepted_unique (hinputs.symm.trans hinputs') (step_isSome.trans haccepted)
      (step_isSome.trans haccepted')
  · rintro before input after next event rfl haccepted
    exact (step_writeOnce.run_of_accepted (step_eq_some.mpr ⟨event, haccepted⟩)).2
  · rintro before after rfl hexpired
    have hclosed : (run approval before).state ≠ .pendingApproval := by
      rw [hexpired]
      exact nofun
    rw [run_append, run_of_closed hclosed, hexpired]
    exact nofun
  · rintro before input after rfl
    have hrecorded := attempt_recorded (run approval before) input
    rw [run_snoc]
    exact ⟨auditTrail_getElem? .., hrecorded.resultingState, hrecorded.refusalKind, hrecorded.actor⟩

/-- A run contains an accepted `Approve` by `decidedBy` at `now`. -/
def ApprovedIn (approval : Approval) (inputs before : List Attempt) (decidedBy : Text)
    (now : DateTimeOffset) : Prop :=
  ∃ reason acknowledgedHash after,
    inputs = before ++ (.approve decidedBy reason acknowledgedHash, now) :: after ∧
    (attempt (run approval before) (.approve decidedBy reason acknowledgedHash, now)).isAccepted = true

theorem approvedIn_allowed {approval : Approval} {inputs before : List Attempt} {decidedBy : Text}
    {now : DateTimeOffset} (h : ApprovedIn approval inputs before decidedBy now) :
    ∃ decision, ∃ allowed : DecisionAllowed (run approval before) decision now,
      decision.decidedBy = decidedBy ∧ decision.targetState = .approved ∧
      run approval inputs = decided (run approval before) decision now allowed := by
  obtain ⟨reason, acknowledgedHash, after, rfl, haccepted⟩ := h
  obtain ⟨next, event, hnext⟩ := ApprovalTransitionResult.isAccepted_iff.mp haccepted
  have hrun : run approval (before ++ _ :: after) = next :=
    (step_writeOnce.run_of_accepted (step_eq_some.mpr ⟨event, hnext⟩)).2
  obtain ⟨_, ⟨hcommand, _⟩ | ⟨decision, allowed, hdecision, rfl, _⟩⟩ := accepted_cases hnext
  · cases hcommand
  · cases hdecision
    exact ⟨_, allowed, rfl, rfl, hrun⟩

theorem authorizable_of_approvedIn {approval : Approval} {inputs before : List Attempt}
    {decidedBy : Text} {now : DateTimeOffset} (h : ApprovedIn approval inputs before decidedBy now) :
    Authorizable (run approval inputs) decidedBy := by
  obtain ⟨decision, allowed, rfl, htarget, hrun⟩ := approvedIn_allowed h
  rw [hrun]
  exact {
    approved := congrArg TargetState.state htarget
    decider := rfl
    identity := allowed.identity
    segregated := allowed.segregated
    intact := allowed.intact }

theorem approvedIn_of_approved {approval : Approval} (hpending : approval.state = .pendingApproval)
    {inputs : List Attempt} (h : (run approval inputs).state = .approved) :
    ∃ before decidedBy now, ApprovedIn approval inputs before decidedBy now := by
  rcases step_writeOnce.run_cases approval inputs with
    ⟨hrun, _⟩ | ⟨before, input, after, next, rfl, hbefore, hnext, hrun⟩
  · rw [run, hrun, hpending] at h
    cases h
  · obtain ⟨event, haccepted⟩ := step_eq_some.mp hnext
    rw [run, hrun] at h
    have hstart : run approval before = approval := hbefore
    obtain ⟨command, now⟩ := input
    obtain ⟨_, ⟨_, _, rfl, _⟩ | ⟨decision, allowed, hdecision, rfl, _⟩⟩ := accepted_cases haccepted
    · cases h
    · cases command with
      | approve decidedBy reason acknowledgedHash =>
        refine ⟨before, decidedBy, now, reason, acknowledgedHash, after, rfl, ?_⟩
        rw [hstart]
        exact ApprovalTransitionResult.isAccepted_iff.mpr ⟨_, _, haccepted⟩
      | reject =>
        cases hdecision
        cases h
      | expire => cases hdecision

/-- The gate opens for a proposal exactly when its history contains an accepted
`Approve`, which is then the only accepted command. -/
theorem authorizes_iff_approved {id : Text} {lane : Lane} {evidencePacket : EvidencePacket}
    {proposedByObjectId : Text} {expiresAt proposedAt : DateTimeOffset} {approval : Approval}
    {event : Option ApprovalAuditEvent}
    (h : Approval.propose id lane evidencePacket proposedByObjectId expiresAt proposedAt =
      .accepted approval event) (inputs : List Attempt) (later : DateTimeOffset) :
    ((∃ auth event, ExecutionGate.authorize (run approval inputs) later = .authorized auth event) ↔
      ∃ before decidedBy now, ApprovedIn approval inputs before decidedBy now) ∧
    ∀ before decidedBy now, ApprovedIn approval inputs before decidedBy now →
      (∀ before' input' after', inputs = before' ++ input' :: after' →
        (attempt (run approval before') input').isAccepted = true →
        before' = before ∧ input'.1.trigger = .approve ∧ input'.1.actorObjectId = some decidedBy) ∧
      isNullOrWhiteSpace (some decidedBy) = false ∧
      isSameIdentity decidedBy proposedByObjectId = false ∧
      now < expiresAt ∧
      ∀ auth event, ExecutionGate.authorize (run approval inputs) later = .authorized auth event →
        auth.approvedByObjectId = decidedBy ∧
        auth.evidencePacketHash = approval.evidencePacketHash ∧
        auth.evidencePacketHash = EvidencePacketHasher.computeHash evidencePacket := by
  have hproposed := propose_accepted h
  refine ⟨authorize_iff.trans ⟨?_, ?_⟩, ?_⟩
  · rintro ⟨decidedBy, hauthorizable⟩
    exact approvedIn_of_approved hproposed.state hauthorizable.approved
  · rintro ⟨before, decidedBy, now, happroved⟩
    exact ⟨decidedBy, authorizable_of_approvedIn happroved⟩
  · intro before decidedBy now happroved
    obtain ⟨decision, allowed, rfl, _, _⟩ := approvedIn_allowed happroved
    have hsame := run_sameProposal approval before
    have hauthorizable := authorizable_of_approvedIn happroved
    obtain ⟨reason, acknowledgedHash, after, hinputs, haccepted⟩ := happroved
    refine ⟨?_, allowed.identity, ?_, ?_, ?_⟩
    · intro before' input' after' hinputs' haccepted'
      obtain ⟨hbefore, hinput, _⟩ := step_writeOnce.accepted_unique (hinputs'.symm.trans hinputs)
        (step_isSome.trans haccepted') (step_isSome.trans haccepted)
      rw [hinput]
      exact ⟨hbefore, rfl, rfl⟩
    · rw [← hproposed.proposedByObjectId, ← hsame.proposedByObjectId]
      exact allowed.segregated
    · rw [← hproposed.expiresAt, ← hsame.expiresAt]
      exact allowed.inTime
    · intro auth event hauth
      obtain ⟨decidedBy, hgate, rfl⟩ := authorizable_of_authorize hauth
      have hdecider : decidedBy = decision.decidedBy :=
        Option.some.inj (hgate.decider.symm.trans hauthorizable.decider)
      have hhash := (run_sameProposal approval inputs).evidencePacketHash
      exact ⟨hdecider, hhash, hhash.trans hproposed.evidencePacketHash⟩

end

namespace Samples

def approveByBob : Attempt := (.approve (lit "bob") none none, 1500)

theorem pendingApproval_approvedIn (lane : Lane) :
    ApprovedIn (pendingApproval lane) [approveByBob] [] (lit "bob") 1500 := by
  have hallowed := @approval_allowed lane 1500 (by decide)
  exact ⟨none, none, [], rfl,
    ApprovalTransitionResult.isAccepted_iff.mpr ⟨_, _, apply_allowed rfl rfl hallowed⟩⟩

theorem authorizes_sample : ∃ auth event, ExecutionGate.authorize
    (run (pendingApproval .research) [approveByBob]) 3000 = .authorized auth event := by
  obtain ⟨_, hproposed⟩ := pendingApproval_proposed .research
  exact ((authorizes_iff_approved hproposed _ _).1).mpr
    ⟨_, _, _, pendingApproval_approvedIn .research⟩

end Samples

end Fcmr.Approvals
