import Fcmr.Approvals.Histories

/-! Records that the state machine did not write, and facts that travel outside the
hashed packet. The gate compares neither a decision time with the expiry nor the two
copies of the lane and of the correlation id. -/
namespace Fcmr.Approvals

open DotNet ApprovalStateMachine EvidencePacketHasher

section
variable [RoundTripFormat]

/-- Every check of an `Approve` decision, made on the decision that a record states. -/
def ApproveChecks (approval : Approval) : Prop :=
  ∃ decidedBy decidedAt, approval.decidedByObjectId = some decidedBy ∧
    approval.decidedAt = some decidedAt ∧
    DecisionAllowed approval ⟨decidedBy, approval.decisionReason, none, .approved⟩ decidedAt

/-- A stored record that is authorised has passed the checks of its decision exactly
when one thing more holds of it: the decision time precedes the expiry. -/
theorem rehydrated_approveChecks_iff (id correlationId : Text) (lane : Lane)
    (evidencePacket : EvidencePacket) (evidencePacketHash : Text) (state : ApprovalState)
    (proposedByObjectId : Text) (decidedByObjectId decisionReason : Option Text)
    (expiresAt createdAt : DateTimeOffset) (decidedAt : Option DateTimeOffset)
    (now : DateTimeOffset) :
    (∀ approval event auth event', Approval.rehydrate id correlationId lane evidencePacket
        evidencePacketHash state proposedByObjectId decidedByObjectId decisionReason expiresAt
        createdAt decidedAt = .accepted approval event →
      ExecutionGate.authorize approval now = .authorized auth event' → ApproveChecks approval) ↔
    ∀ decidedBy instant, isNullOrWhiteSpace (some correlationId) = false →
      isNullOrWhiteSpace (some proposedByObjectId) = false → state = .approved →
      decidedByObjectId = some decidedBy → isNullOrWhiteSpace (some decidedBy) = false →
      isSameIdentity decidedBy proposedByObjectId = false →
      equalsOrdinalIgnoreCase (some (computeHash evidencePacket)) (some evidencePacketHash) = true →
      decidedAt = some instant → instant < expiresAt := by
  constructor
  · rintro h decidedBy instant hcorrelation hproposer rfl rfl hidentity hsegregated hintact rfl
    let approval : Approval := {
      id, correlationId, lane, evidencePacket, evidencePacketHash
      state := .approved
      proposedByObjectId
      decidedByObjectId := some decidedBy
      decisionReason, expiresAt, createdAt
      decidedAt := some instant
      correlationId_present := hcorrelation
      proposer_present := hproposer
      consistent := inconsistency_approved.mpr ⟨hidentity, nofun⟩ }
    obtain ⟨event, haccepted⟩ := (rehydrate_accepted_iff approval).mpr
      ⟨rfl, rfl, rfl, rfl, rfl, rfl, rfl, rfl, rfl, rfl, rfl, rfl⟩
    have hauthorizable : Authorizable approval decidedBy :=
      ⟨rfl, rfl, hidentity, hsegregated, hintact⟩
    obtain ⟨_, _, _, htime, hallowed⟩ :=
      h approval event _ _ haccepted (authorize_of_authorizable hauthorizable now)
    exact Option.some.inj htime ▸ hallowed.inTime
  · intro h approval event auth event' haccepted hauth
    obtain ⟨rfl, rfl, rfl, rfl, rfl, rfl, rfl, rfl, rfl, rfl, rfl, rfl⟩ :=
      (rehydrate_accepted_iff _).mp ⟨event, haccepted⟩
    obtain ⟨decidedBy, hgate, _⟩ := authorizable_of_authorize hauth
    have hconsistent := approval.consistent
    rw [hgate.approved, inconsistency_approved] at hconsistent
    obtain ⟨instant, hinstant⟩ := Option.ne_none_iff_exists'.mp hconsistent.2
    refine ⟨decidedBy, instant, hgate.decider, hinstant, ?_⟩
    exact {
      identity := hgate.identity
      inTime := h decidedBy instant approval.correlationId_present approval.proposer_present
        hgate.approved hgate.decider hgate.identity hgate.segregated hgate.intact hinstant
      segregated := hgate.segregated
      reasoned := nofun
      intact := hgate.intact
      acknowledged := nofun }

/-- The lane and the correlation id with which an approval and its packet came in. -/
inductive Obtained (lane : Lane) (correlationId : Text) (evidencePacket : EvidencePacket)
    (approval : Approval) : Prop
  | proposed (id proposedByObjectId : Text) (expiresAt now : DateTimeOffset)
      (event : Option ApprovalAuditEvent) (own : correlationId = evidencePacket.correlationId)
      (accepted : Approval.propose id lane evidencePacket proposedByObjectId expiresAt now =
        .accepted approval event)
  | rehydrated (id evidencePacketHash : Text) (state : ApprovalState) (proposedByObjectId : Text)
      (decidedByObjectId decisionReason : Option Text) (expiresAt createdAt : DateTimeOffset)
      (decidedAt : Option DateTimeOffset) (event : Option ApprovalAuditEvent)
      (accepted : Approval.rehydrate id correlationId lane evidencePacket evidencePacketHash state
        proposedByObjectId decidedByObjectId decisionReason expiresAt createdAt decidedAt =
          .accepted approval event)

theorem Obtained.fields {lane : Lane} {correlationId : Text} {evidencePacket : EvidencePacket}
    {approval : Approval} (h : Obtained lane correlationId evidencePacket approval) :
    approval.lane = lane ∧ approval.correlationId = correlationId ∧
      approval.evidencePacket = evidencePacket := by
  cases h with
  | proposed _ _ _ _ _ own accepted =>
    have hproposed := propose_accepted accepted
    exact ⟨hproposed.lane, hproposed.correlationId.trans own.symm, hproposed.evidencePacket⟩
  | rehydrated _ _ _ _ _ _ _ _ _ event accepted =>
    obtain ⟨_, hcorrelation, hlane, hpacket, _⟩ := (rehydrate_accepted_iff _).mp ⟨event, accepted⟩
    exact ⟨hlane, hcorrelation, hpacket⟩

/-- An authorisation repeats the facts of the packet whose hash was verified exactly when
the record came in with the lane and the correlation id of its packet. -/
theorem authorization_matches_iff {lane : Lane} {correlationId : Text}
    {evidencePacket : EvidencePacket} {approval : Approval}
    (h : Obtained lane correlationId evidencePacket approval) {inputs : List Attempt}
    {now : DateTimeOffset} {auth : ExecutionAuthorization} {event : ApprovalAuditEvent}
    (hauth : ExecutionGate.authorize (run approval inputs) now = .authorized auth event) :
    equalsOrdinalIgnoreCase (some (computeHash evidencePacket))
      (some auth.evidencePacketHash) = true ∧
    ((auth.lane = evidencePacket.lane ∧ auth.correlationId = evidencePacket.correlationId ∧
        auth.proposedAction = evidencePacket.proposedAction) ↔
      lane = evidencePacket.lane ∧ correlationId = evidencePacket.correlationId) := by
  obtain ⟨rfl, rfl, rfl⟩ := h.fields
  have hsame := run_sameProposal approval inputs
  obtain ⟨hlane, hcorrelation, haction, hhash⟩ := authorize_fields hauth
  obtain ⟨decidedBy, hgate, _⟩ := authorizable_of_authorize hauth
  refine ⟨?_, ?_⟩
  · have hintact := hgate.intact
    rwa [Approval.verifyEvidenceIntegrity, hsame.evidencePacket, ← hhash] at hintact
  · have hpacket : auth.proposedAction = approval.evidencePacket.proposedAction :=
      haction.trans (congrArg EvidencePacket.proposedAction hsame.evidencePacket)
    simp only [hlane, hcorrelation, hpacket, hsame.lane, hsame.correlationId, and_true]

end

namespace Samples

/-- Approved an hour after it expired, by whatever wrote the store. -/
theorem lateApproval_authorized : ∃ approval event auth event',
    Approval.rehydrate (lit "a-1") (lit "corr-1") .orderRouting samplePacket
      (computeHash samplePacket) .approved (lit "alice") (some (lit "bob")) none 2000 1000
      (some 5000) = .accepted approval event ∧
    ExecutionGate.authorize approval 6000 = .authorized auth event' ∧ ¬ApproveChecks approval := by
  let approval : Approval := {
    pendingApproval .orderRouting with
    state := .approved
    decidedByObjectId := some (lit "bob")
    decidedAt := some 5000
    consistent := by decide }
  obtain ⟨event, haccepted⟩ := (rehydrate_accepted_iff approval).mpr
    ⟨rfl, rfl, rfl, rfl, rfl, rfl, rfl, rfl, rfl, rfl, rfl, rfl⟩
  have hauthorizable : Authorizable approval (lit "bob") := {
    approved := rfl
    decider := rfl
    identity := by decide
    segregated := by decide
    intact := equalsOrdinalIgnoreCase_self _ }
  refine ⟨approval, event, _, _, haccepted, authorize_of_authorizable hauthorizable 6000, ?_⟩
  rintro ⟨decidedBy, decidedAt, _, htime, hallowed⟩
  have hlate : decidedAt = 5000 := (Option.some.inj htime).symm
  have hintime : decidedAt < 2000 := hallowed.inTime
  rw [hlate] at hintime
  exact absurd hintime (by decide)

/-- A request for the research lane with a packet of the order routing lane. -/
theorem otherLane_authorized : ∃ approval event auth event',
    Approval.propose (lit "a-1") .research samplePacket (lit "alice") 2000 1000 =
      .accepted approval event ∧
    ExecutionGate.authorize (run approval [approveByBob]) 3000 = .authorized auth event' ∧
    auth.lane ≠ samplePacket.lane := by
  obtain ⟨event, hproposed⟩ := pendingApproval_proposed .research
  have hgate := authorizable_of_approvedIn (pendingApproval_approvedIn .research)
  obtain ⟨auth, event', hauth⟩ := (@authorize_iff _ _ 3000).mpr ⟨_, hgate⟩
  refine ⟨_, event, auth, event', hproposed, hauth, ?_⟩
  rw [(authorize_fields hauth).1, (run_sameProposal ..).lane]
  exact show Lane.research ≠ .orderRouting by decide

theorem authorization_matches_sample : ∃ auth event, ExecutionGate.authorize
      (run (pendingApproval .orderRouting) [approveByBob]) 3000 = .authorized auth event ∧
    auth.lane = samplePacket.lane ∧ auth.correlationId = samplePacket.correlationId ∧
    auth.proposedAction = samplePacket.proposedAction := by
  obtain ⟨event, hproposed⟩ := pendingApproval_proposed .orderRouting
  have hgate := authorizable_of_approvedIn (pendingApproval_approvedIn .orderRouting)
  obtain ⟨auth, event', hauth⟩ := (@authorize_iff _ _ 3000).mpr ⟨_, hgate⟩
  have hobtained : Obtained .orderRouting samplePacket.correlationId samplePacket
      (pendingApproval .orderRouting) := .proposed _ _ _ _ event rfl hproposed
  exact ⟨auth, event', hauth, (authorization_matches_iff hobtained hauth).2.mpr ⟨rfl, rfl⟩⟩

end Samples

end Fcmr.Approvals
