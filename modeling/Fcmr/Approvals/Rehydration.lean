import Fcmr.Approvals.ExecutionGate
import Fcmr.Approvals.Transitions

/-! Stored records that are built again. What the state machine writes always passes the
checks of `Rehydrate` and comes back as it was. The checks themselves pass more. -/
namespace Fcmr.Approvals

open DotNet ApprovalStateMachine EvidencePacketHasher

/-- What a state that `Propose` or `Apply` has written says of the fields of the decision. -/
def Settled (approval : Approval) : Prop :=
  match approval.state with
  | .pendingApproval =>
    approval.decidedByObjectId = none ∧ approval.decisionReason = none ∧ approval.decidedAt = none
  | .expired => approval.decidedByObjectId = none ∧ approval.decisionReason = none
  | .approved =>
    isNullOrWhiteSpace approval.decidedByObjectId = false ∧ approval.decidedAt ≠ none
  | .rejected =>
    isNullOrWhiteSpace approval.decidedByObjectId = false ∧
      isNullOrWhiteSpace approval.decisionReason = false ∧ approval.decidedAt ≠ none

/-- Parts of a decision in a state that has none. -/
def Leftover (state : ApprovalState) (decidedByObjectId decisionReason : Option Text)
    (decidedAt : Option DateTimeOffset) : Prop :=
  state = .pendingApproval ∧
      (decidedByObjectId ≠ none ∨ decisionReason ≠ none ∨ decidedAt ≠ none) ∨
    state = .expired ∧ (decidedByObjectId ≠ none ∨ decisionReason ≠ none)

theorem settled_iff (approval : Approval) :
    Settled approval ↔ ¬Leftover approval.state approval.decidedByObjectId
      approval.decisionReason approval.decidedAt := by
  have hconsistent := approval.consistent
  unfold Settled Leftover
  cases hstate : approval.state with
  | pendingApproval => simp
  | expired => simp
  | approved =>
    rw [hstate, inconsistency_approved] at hconsistent
    simp [hconsistent]
  | rejected =>
    rw [hstate, inconsistency_rejected] at hconsistent
    simp [hconsistent]

section

variable [RoundTripFormat]

theorem propose_settled {id : Text} {lane : Lane} {evidencePacket : EvidencePacket}
    {proposedByObjectId : Text} {expiresAt now : DateTimeOffset} {approval : Approval}
    {event : Option ApprovalAuditEvent}
    (h : Approval.propose id lane evidencePacket proposedByObjectId expiresAt now =
      .accepted approval event) : Settled approval := by
  unfold Approval.propose at h
  dsimp only at h
  split at h
  · cases h
  split at h
  · cases h
  split at h
  · cases h
  cases h
  exact ⟨rfl, rfl, rfl⟩

theorem accepted_settled {approval next : Approval} {command : ApprovalCommand}
    {now : DateTimeOffset} {event : ApprovalAuditEvent}
    (h : apply approval command now = .accepted next event) : Settled next := by
  apply (settled_iff next).mpr
  obtain ⟨_, ⟨_, _, rfl, _⟩ | ⟨decision, _, _, rfl, _⟩⟩ := accepted_cases h
  · rintro (⟨hpending, _⟩ | ⟨_, hdecider | hreason⟩)
    · cases hpending
    · exact hdecider rfl
    · exact hreason rfl
  · change ¬Leftover decision.targetState.state _ _ _
    rintro (⟨hpending, _⟩ | ⟨hexpired, _⟩)
    · cases htarget : decision.targetState <;> rw [htarget] at hpending <;> cases hpending
    · cases htarget : decision.targetState <;> rw [htarget] at hexpired <;> cases hexpired

theorem run_settled {approval : Approval} (h : Settled approval) (inputs : List Attempt) :
    Settled (run approval inputs) := by
  apply Machines.run_invariant (P := Settled) _ h
  intro current input next _ hnext
  obtain ⟨_, haccepted⟩ := step_eq_some.mp hnext
  exact accepted_settled haccepted

/-- Whatever the state machine writes is settled; a record that `Rehydrate` accepts is
settled exactly when it holds no part of a decision in a state that has none. -/
theorem rehydrated_settled_iff :
    (∀ id lane evidencePacket proposedByObjectId expiresAt now approval event inputs,
      Approval.propose id lane evidencePacket proposedByObjectId expiresAt now =
        .accepted approval event → Settled (run approval inputs)) ∧
    ∀ id correlationId lane evidencePacket evidencePacketHash state proposedByObjectId
      decidedByObjectId decisionReason expiresAt createdAt decidedAt approval event,
      Approval.rehydrate id correlationId lane evidencePacket evidencePacketHash state
        proposedByObjectId decidedByObjectId decisionReason expiresAt createdAt decidedAt =
          .accepted approval event →
      (Settled approval ↔ ¬Leftover state decidedByObjectId decisionReason decidedAt) := by
  constructor
  · intro id lane evidencePacket proposedByObjectId expiresAt now approval event inputs hproposed
    exact run_settled (propose_settled hproposed) inputs
  · rintro _ _ _ _ _ _ _ _ _ _ _ _ approval event haccepted
    obtain ⟨rfl, rfl, rfl, rfl, rfl, rfl, rfl, rfl, rfl, rfl, rfl, rfl⟩ :=
      (rehydrate_accepted_iff approval).mp ⟨event, haccepted⟩
    exact settled_iff approval

end

/-- A record built again from its own stored fields. -/
def Approval.reread (approval : Approval) : ApprovalProposalResult :=
  rehydrate approval.id approval.correlationId approval.lane approval.evidencePacket
    approval.evidencePacketHash approval.state approval.proposedByObjectId
    approval.decidedByObjectId approval.decisionReason approval.expiresAt approval.createdAt
    approval.decidedAt

theorem reread_accepted (approval : Approval) :
    ∃ event, approval.reread = .accepted approval event :=
  (rehydrate_accepted_iff approval).mpr ⟨rfl, rfl, rfl, rfl, rfl, rfl, rfl, rfl, rfl, rfl, rfl, rfl⟩

/-- Storing loses nothing: at any point of its life a record that is read back is
accepted, is the record that was stored, and goes on as that record does. -/
theorem reread_run [RoundTripFormat] (approval : Approval) (inputs : List Attempt) :
    ∃ stored event, (run approval inputs).reread = .accepted stored event ∧
      stored = run approval inputs ∧
      ∀ later now, run stored later = run (run approval inputs) later ∧
        auditTrail stored later = auditTrail (run approval inputs) later ∧
        ExecutionGate.authorize (run stored later) now =
          ExecutionGate.authorize (run (run approval inputs) later) now := by
  obtain ⟨event, hreread⟩ := reread_accepted (run approval inputs)
  exact ⟨_, event, hreread, rfl, fun _ _ => ⟨rfl, rfl, rfl⟩⟩

namespace Samples

/-- Pending, and yet it carries the reason of a decision. -/
theorem pendingWithReason_accepted : ∃ approval event,
    Approval.rehydrate (lit "a-1") (lit "corr-1") .orderRouting samplePacket
      (computeHash samplePacket) .pendingApproval (lit "alice") none (some (lit "Approved by phone."))
      2000 1000 none = .accepted approval event ∧ ¬Settled approval := by
  let approval : Approval := {
    pendingApproval .orderRouting with
    decisionReason := some (lit "Approved by phone.")
    consistent := by decide }
  obtain ⟨event, haccepted⟩ := (rehydrate_accepted_iff approval).mpr
    ⟨rfl, rfl, rfl, rfl, rfl, rfl, rfl, rfl, rfl, rfl, rfl, rfl⟩
  refine ⟨approval, event, haccepted, ?_⟩
  rintro ⟨_, hreason, _⟩
  cases hreason

end Samples

end Fcmr.Approvals
