import Fcmr.Approvals.EvidencePacket
import Fcmr.DotNet.Casing
import Fcmr.DotNet.Time

/-! The approval record, with the two ways in which one comes into existence. -/
namespace Fcmr.Approvals

open DotNet EvidencePacketHasher

inductive ApprovalState
  | pendingApproval
  | approved
  | rejected
  | expired
  deriving DecidableEq

def ApprovalState.text : ApprovalState → Text
  | pendingApproval => lit "PendingApproval"
  | approved => lit "Approved"
  | rejected => lit "Rejected"
  | expired => lit "Expired"

inductive ApprovalRefusalKind
  | segregationOfDuties
  | invalidTransition
  | expired
  | notYetExpired
  | reasonRequired
  | approverIdentityRequired
  | proposerIdentityRequired
  | correlationIdRequired
  | expiryNotInFuture
  | evidencePacketMismatch
  | notApproved
  | inconsistentRecord
  deriving DecidableEq

def ApprovalRefusalKind.text : ApprovalRefusalKind → Text
  | segregationOfDuties => lit "SegregationOfDuties"
  | invalidTransition => lit "InvalidTransition"
  | expired => lit "Expired"
  | notYetExpired => lit "NotYetExpired"
  | reasonRequired => lit "ReasonRequired"
  | approverIdentityRequired => lit "ApproverIdentityRequired"
  | proposerIdentityRequired => lit "ProposerIdentityRequired"
  | correlationIdRequired => lit "CorrelationIdRequired"
  | expiryNotInFuture => lit "ExpiryNotInFuture"
  | evidencePacketMismatch => lit "EvidencePacketMismatch"
  | notApproved => lit "NotApproved"
  | inconsistentRecord => lit "InconsistentRecord"

structure ApprovalRefusal where
  kind : ApprovalRefusalKind
  reason : Text
  correlationId : Text
  approvalId : Option Text
  currentState : Option ApprovalState
  deriving DecidableEq

def ApprovalRefusal.statusCode (refusal : ApprovalRefusal) : Nat :=
  match refusal.kind with
  | .expired => 410
  | .segregationOfDuties | .invalidTransition | .notYetExpired => 409
  | .evidencePacketMismatch | .notApproved | .inconsistentRecord => 409
  | _ => 400

inductive ApprovalAuditEventType
  | approvalRequested
  | approvalDecided
  | approvalExpired
  | approvalRefused
  | executionAuthorized
  deriving DecidableEq

structure ApprovalAuditEvent where
  eventType : ApprovalAuditEventType
  correlationId : Text
  approvalId : Text
  actorObjectId : Option Text
  resultingState : ApprovalState
  occurredAt : DateTimeOffset
  evidencePacketHash : Text
  refusalKind : Option ApprovalRefusalKind
  detail : Text
  deriving DecidableEq

/-- The contradiction that `Rehydrate` finds between a state and the fields of its
decision, in the order of the source. -/
def inconsistency (state : ApprovalState) (decidedByObjectId decisionReason : Option Text)
    (decidedAt : Option DateTimeOffset) : Option Text :=
  if state = .approved ∧ isNullOrWhiteSpace decidedByObjectId then
    some (lit "an Approved record names no approver")
  else if state = .rejected ∧ isNullOrWhiteSpace decidedByObjectId then
    some (lit "a Rejected record names no decider")
  else if state = .rejected ∧ isNullOrWhiteSpace decisionReason then
    some (lit "a Rejected record carries no reason, which the contract requires")
  else if state = .expired ∧ !isNullOrWhiteSpace decidedByObjectId then
    some (lit "an Expired record names a decider, but expiry is the absence of a decision")
  else if state = .pendingApproval ∧ !isNullOrWhiteSpace decidedByObjectId then
    some (lit "a PendingApproval record already names a decider")
  else if state ≠ .pendingApproval ∧ decidedAt = none then
    some (lit "a terminal record carries no decision time")
  else none

/-- The constructor is private in the source: every instance has passed the checks of
`Propose` or `Rehydrate`, and `WithDecision` preserves them. -/
structure Approval where
  id : Text
  correlationId : Text
  lane : Lane
  evidencePacket : EvidencePacket
  evidencePacketHash : Text
  state : ApprovalState
  proposedByObjectId : Text
  decidedByObjectId : Option Text
  decisionReason : Option Text
  expiresAt : DateTimeOffset
  createdAt : DateTimeOffset
  decidedAt : Option DateTimeOffset
  correlationId_present : isNullOrWhiteSpace (some correlationId) = false
  proposer_present : isNullOrWhiteSpace (some proposedByObjectId) = false
  consistent : inconsistency state decidedByObjectId decisionReason decidedAt = none

inductive ApprovalProposalResult
  | accepted (approval : Approval) (auditEvent : Option ApprovalAuditEvent)
  | refused (refusal : ApprovalRefusal)

namespace Approval

def proposedAction (approval : Approval) : ProposedAction := approval.evidencePacket.proposedAction

def hasPassedExpiry (approval : Approval) (now : DateTimeOffset) : Bool := approval.expiresAt ≤ now

def verifyEvidenceIntegrity [RoundTripFormat] (approval : Approval) : Bool :=
  equalsOrdinalIgnoreCase (some (computeHash approval.evidencePacket))
    (some approval.evidencePacketHash)

/-- `Propose`, with the one reading of the clock that it takes. -/
def propose [RoundTripFormat] (id : Text) (lane : Lane) (evidencePacket : EvidencePacket)
    (proposedByObjectId : Text) (expiresAt now : DateTimeOffset) : ApprovalProposalResult :=
  let correlationId := evidencePacket.correlationId
  if hcorrelation : isNullOrWhiteSpace (some correlationId) = true then
    .refused {
      kind := .correlationIdRequired
      correlationId := []
      approvalId := some id
      currentState := none
      reason := lit "The evidence packet carries no correlationId. The audit trail is keyed by it, " ++
        lit "so a proposal without one could not be reconstructed and is refused at creation." }
  else if hproposer : isNullOrWhiteSpace (some proposedByObjectId) = true then
    .refused {
      kind := .proposerIdentityRequired
      correlationId
      approvalId := some id
      currentState := none
      reason := lit "The proposal names no proposing identity. Segregation of duties compares the " ++
        lit "approver against the proposer, and that comparison is meaningless without one." }
  else if expiresAt ≤ now then
    .refused {
      kind := .expiryNotInFuture
      correlationId
      approvalId := some id
      currentState := none
      reason := lit "expiresAt is not later than the creation time, so the proposal would be " ++
        lit "unapprovable from the moment it existed. That is a trap for the approver, not a control." }
  else
    let evidencePacketHash := computeHash evidencePacket
    .accepted {
      id
      correlationId
      lane
      evidencePacket
      evidencePacketHash
      state := .pendingApproval
      proposedByObjectId
      decidedByObjectId := none
      decisionReason := none
      expiresAt
      createdAt := now
      decidedAt := none
      correlationId_present := Bool.eq_false_of_not_eq_true hcorrelation
      proposer_present := Bool.eq_false_of_not_eq_true hproposer
      consistent := by simp [inconsistency, isNullOrWhiteSpace] }
    (some {
      eventType := .approvalRequested
      correlationId
      approvalId := id
      actorObjectId := some proposedByObjectId
      resultingState := .pendingApproval
      occurredAt := now
      evidencePacketHash
      refusalKind := none
      detail := lit "Proposal '" ++ evidencePacket.proposedAction.kind ++
        lit "' recorded for human approval. It does not execute until approved." })

def rehydrate (id correlationId : Text) (lane : Lane) (evidencePacket : EvidencePacket)
    (evidencePacketHash : Text) (state : ApprovalState) (proposedByObjectId : Text)
    (decidedByObjectId decisionReason : Option Text) (expiresAt createdAt : DateTimeOffset)
    (decidedAt : Option DateTimeOffset) : ApprovalProposalResult :=
  if hcorrelation : isNullOrWhiteSpace (some correlationId) = true then
    .refused {
      kind := .correlationIdRequired
      correlationId := []
      approvalId := some id
      currentState := some state
      reason := lit "The stored record carries no correlationId and so cannot be tied to its " ++
        lit "audit trail." }
  else if hproposer : isNullOrWhiteSpace (some proposedByObjectId) = true then
    .refused {
      kind := .proposerIdentityRequired
      correlationId
      approvalId := some id
      currentState := some state
      reason := lit "The stored record names no proposing identity, so segregation of duties " ++
        lit "cannot be evaluated." }
  else
    match hconsistent : inconsistency state decidedByObjectId decisionReason decidedAt with
    | some contradiction =>
      .refused {
        kind := .inconsistentRecord
        correlationId
        approvalId := some id
        currentState := some state
        reason := lit "The stored approval contradicts itself: " ++ contradiction ++
          lit ". It was refused rather than acted on." }
    | none =>
      .accepted {
        id
        correlationId
        lane
        evidencePacket
        evidencePacketHash
        state
        proposedByObjectId
        decidedByObjectId
        decisionReason
        expiresAt
        createdAt
        decidedAt
        correlationId_present := Bool.eq_false_of_not_eq_true hcorrelation
        proposer_present := Bool.eq_false_of_not_eq_true hproposer
        consistent := hconsistent } none

def withDecision (approval : Approval) (state : ApprovalState)
    (decidedByObjectId decisionReason : Option Text) (decidedAt : DateTimeOffset)
    (consistent : inconsistency state decidedByObjectId decisionReason (some decidedAt) = none) :
    Approval :=
  { approval with state, decidedByObjectId, decisionReason, decidedAt := some decidedAt, consistent }

end Approval

structure Proposed [RoundTripFormat] (id' : Text) (lane' : Lane) (packet : EvidencePacket)
    (proposer : Text) (expiry now : DateTimeOffset) (approval : Approval) : Prop where
  id : approval.id = id'
  correlationId : approval.correlationId = packet.correlationId
  lane : approval.lane = lane'
  evidencePacket : approval.evidencePacket = packet
  evidencePacketHash : approval.evidencePacketHash = computeHash packet
  state : approval.state = .pendingApproval
  proposedByObjectId : approval.proposedByObjectId = proposer
  expiresAt : approval.expiresAt = expiry
  createdAt : approval.createdAt = now
  inFuture : now < expiry

theorem Proposed.intact [RoundTripFormat] {id : Text} {lane : Lane} {packet : EvidencePacket}
    {proposer : Text} {expiry now : DateTimeOffset} {approval : Approval}
    (h : Proposed id lane packet proposer expiry now approval) :
    approval.verifyEvidenceIntegrity = true := by
  rw [Approval.verifyEvidenceIntegrity, h.evidencePacketHash, h.evidencePacket,
    equalsOrdinalIgnoreCase_self]

theorem propose_accepted [RoundTripFormat] {id : Text} {lane : Lane}
    {evidencePacket : EvidencePacket} {proposedByObjectId : Text} {expiresAt now : DateTimeOffset}
    {approval : Approval} {event : Option ApprovalAuditEvent}
    (h : Approval.propose id lane evidencePacket proposedByObjectId expiresAt now =
      .accepted approval event) :
    Proposed id lane evidencePacket proposedByObjectId expiresAt now approval := by
  unfold Approval.propose at h
  dsimp only at h
  split at h
  · cases h
  split at h
  · cases h
  split at h
  · cases h
  rename_i hexpiry
  cases h
  constructor <;> first | rfl | exact Nat.lt_of_not_le hexpiry

theorem propose_event [RoundTripFormat] {id : Text} {lane : Lane}
    {evidencePacket : EvidencePacket} {proposedByObjectId : Text} {expiresAt now : DateTimeOffset}
    {approval : Approval} {event : Option ApprovalAuditEvent}
    (h : Approval.propose id lane evidencePacket proposedByObjectId expiresAt now =
      .accepted approval event) :
    ∃ requested, event = some requested ∧ requested.eventType = .approvalRequested ∧
      requested.approvalId = id ∧ requested.resultingState = .pendingApproval := by
  unfold Approval.propose at h
  dsimp only at h
  split at h
  · cases h
  split at h
  · cases h
  split at h
  · cases h
  cases h
  exact ⟨_, rfl, rfl, rfl, rfl⟩

theorem rehydrate_accepted_iff {id correlationId : Text} {lane : Lane}
    {evidencePacket : EvidencePacket} {evidencePacketHash : Text} {state : ApprovalState}
    {proposedByObjectId : Text} {decidedByObjectId decisionReason : Option Text}
    {expiresAt createdAt : DateTimeOffset} {decidedAt : Option DateTimeOffset}
    (approval : Approval) :
    (∃ event, Approval.rehydrate id correlationId lane evidencePacket evidencePacketHash state
      proposedByObjectId decidedByObjectId decisionReason expiresAt createdAt decidedAt =
        .accepted approval event) ↔
    approval.id = id ∧ approval.correlationId = correlationId ∧ approval.lane = lane ∧
      approval.evidencePacket = evidencePacket ∧ approval.evidencePacketHash = evidencePacketHash ∧
      approval.state = state ∧ approval.proposedByObjectId = proposedByObjectId ∧
      approval.decidedByObjectId = decidedByObjectId ∧ approval.decisionReason = decisionReason ∧
      approval.expiresAt = expiresAt ∧ approval.createdAt = createdAt ∧
      approval.decidedAt = decidedAt := by
  unfold Approval.rehydrate
  constructor
  · rintro ⟨event, h⟩
    split at h
    · cases h
    split at h
    · cases h
    split at h
    · cases h
    cases h
    simp
  · rintro ⟨rfl, rfl, rfl, rfl, rfl, rfl, rfl, rfl, rfl, rfl, rfl, rfl⟩
    refine ⟨none, ?_⟩
    rw [dif_neg (by simp [approval.correlationId_present]),
      dif_neg (by simp [approval.proposer_present])]
    split
    · rename_i contradiction hsome
      simp [approval.consistent] at hsome
    · rfl

theorem inconsistency_approved {decidedBy reason : Option Text} {decidedAt : Option DateTimeOffset} :
    inconsistency .approved decidedBy reason decidedAt = none ↔
      isNullOrWhiteSpace decidedBy = false ∧ decidedAt ≠ none := by
  cases h : isNullOrWhiteSpace decidedBy <;> cases decidedAt <;> simp [inconsistency, h]

theorem inconsistency_rejected {decidedBy reason : Option Text} {decidedAt : Option DateTimeOffset} :
    inconsistency .rejected decidedBy reason decidedAt = none ↔
      isNullOrWhiteSpace decidedBy = false ∧ isNullOrWhiteSpace reason = false ∧
        decidedAt ≠ none := by
  cases h : isNullOrWhiteSpace decidedBy <;> cases h' : isNullOrWhiteSpace reason <;>
    cases decidedAt <;> simp [inconsistency, h, h']

theorem inconsistency_expired (reason : Option Text) (decidedAt : DateTimeOffset) :
    inconsistency .expired none reason (some decidedAt) = none := by
  simp [inconsistency, isNullOrWhiteSpace]

namespace Samples

def pendingApproval (lane : Lane) : Approval where
  id := lit "a-1"
  correlationId := lit "corr-1"
  lane
  evidencePacket := samplePacket
  evidencePacketHash := computeHash samplePacket
  state := .pendingApproval
  proposedByObjectId := lit "alice"
  decidedByObjectId := none
  decisionReason := none
  expiresAt := 2000
  createdAt := 1000
  decidedAt := none
  correlationId_present := by decide
  proposer_present := by decide
  consistent := by decide

theorem pendingApproval_proposed (lane : Lane) : ∃ event, Approval.propose (lit "a-1") lane
    samplePacket (lit "alice") 2000 1000 = .accepted (pendingApproval lane) event := ⟨_, rfl⟩

end Samples

end Fcmr.Approvals
