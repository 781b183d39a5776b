import Fcmr.Approvals.Approval

/-! The approval state machine: total over states and commands, every pair either
accepted or refused for a named reason, with one audit event in both cases. -/
namespace Fcmr.Approvals

open DotNet

inductive ApprovalTrigger
  | approve
  | reject
  | expire
  deriving DecidableEq

def ApprovalTrigger.text : ApprovalTrigger → Text
  | approve => lit "Approve"
  | reject => lit "Reject"
  | expire => lit "Expire"

inductive ApprovalCommand
  | approve (decidedByObjectId : Text) (reason acknowledgedEvidencePacketHash : Option Text)
  | reject (decidedByObjectId reason : Text) (acknowledgedEvidencePacketHash : Option Text)
  | expire
  deriving DecidableEq

inductive TargetState
  | approved
  | rejected
  deriving DecidableEq

def TargetState.state : TargetState → ApprovalState
  | approved => .approved
  | rejected => .rejected

structure Decision where
  decidedBy : Text
  reason : Option Text
  acknowledgedHash : Option Text
  targetState : TargetState

namespace ApprovalCommand

def trigger : ApprovalCommand → ApprovalTrigger
  | approve .. => .approve
  | reject .. => .reject
  | expire => .expire

def actorObjectId : ApprovalCommand → Option Text
  | approve decidedByObjectId _ _ => some decidedByObjectId
  | reject decidedByObjectId _ _ => some decidedByObjectId
  | expire => none

def decision : ApprovalCommand → Option Decision
  | approve decidedBy reason acknowledgedHash =>
    some { decidedBy, reason, acknowledgedHash, targetState := .approved }
  | reject decidedBy reason acknowledgedHash =>
    some { decidedBy, reason := some reason, acknowledgedHash, targetState := .rejected }
  | expire => none

end ApprovalCommand

inductive ApprovalTransitionResult
  | accepted (approval : Approval) (auditEvent : ApprovalAuditEvent)
  | refused (refusal : ApprovalRefusal) (auditEvent : ApprovalAuditEvent)

def ApprovalTransitionResult.auditEvent : ApprovalTransitionResult → ApprovalAuditEvent
  | accepted _ auditEvent => auditEvent
  | refused _ auditEvent => auditEvent

def ApprovalTransitionResult.isAccepted : ApprovalTransitionResult → Bool
  | accepted .. => true
  | refused .. => false

theorem ApprovalTransitionResult.isAccepted_iff {result : ApprovalTransitionResult} :
    result.isAccepted = true ↔ ∃ approval event, result = .accepted approval event := by
  cases result <;> simp [isAccepted]

namespace ApprovalStateMachine

def iso : Option DateTimeOffset → Text
  | some instant => utcText instant
  | none => lit "an unrecorded time"

def isSameIdentity (left right : Text) : Bool :=
  equalsOrdinalIgnoreCase (some (trim left)) (some (trim right))

def refuse (approval : Approval) (command : ApprovalCommand) (now : DateTimeOffset)
    (kind : ApprovalRefusalKind) (reason : Text) : ApprovalTransitionResult :=
  .refused {
    kind
    reason
    correlationId := approval.correlationId
    approvalId := some approval.id
    currentState := some approval.state }
  {
    eventType := .approvalRefused
    correlationId := approval.correlationId
    approvalId := approval.id
    actorObjectId := command.actorObjectId
    resultingState := approval.state
    occurredAt := now
    evidencePacketHash := approval.evidencePacketHash
    refusalKind := some kind
    detail := command.trigger.text ++ lit " refused (" ++ kind.text ++ lit "): " ++ reason }

def expired (approval : Approval) (now : DateTimeOffset) : Approval :=
  approval.withDecision .expired none none now (inconsistency_expired none now)

def expiredEvent (approval : Approval) (now : DateTimeOffset) : ApprovalAuditEvent where
  eventType := .approvalExpired
  correlationId := approval.correlationId
  approvalId := approval.id
  actorObjectId := none
  resultingState := .expired
  occurredAt := now
  evidencePacketHash := approval.evidencePacketHash
  refusalKind := none
  detail := lit "Expired at " ++ iso (some approval.expiresAt) ++ lit " with no decision recorded. " ++
    lit "The proposed action was not approved and will not execute."

def trimmedReason (decision : Decision) : Option Text :=
  if isNullOrWhiteSpace decision.reason then none else decision.reason

theorem decided_consistent {decision : Decision} (now : DateTimeOffset)
    (hdecider : isNullOrWhiteSpace (some decision.decidedBy) = false)
    (hreason : decision.targetState = .rejected → isNullOrWhiteSpace decision.reason = false) :
    inconsistency decision.targetState.state (some decision.decidedBy) (trimmedReason decision)
      (some now) = none := by
  cases htarget : decision.targetState with
  | approved => exact inconsistency_approved.mpr ⟨hdecider, by simp⟩
  | rejected =>
    have hpresent := hreason htarget
    exact inconsistency_rejected.mpr ⟨hdecider, by simp [trimmedReason, hpresent], by simp⟩

def decidedEvent (approval : Approval) (decision : Decision) (now : DateTimeOffset) :
    ApprovalAuditEvent where
  eventType := .approvalDecided
  correlationId := approval.correlationId
  approvalId := approval.id
  actorObjectId := some decision.decidedBy
  resultingState := decision.targetState.state
  occurredAt := now
  evidencePacketHash := approval.evidencePacketHash
  refusalKind := none
  detail := lit "Decision " ++ decision.targetState.state.text ++
    lit " recorded against evidence packet " ++ approval.evidencePacketHash ++
    match trimmedReason decision with
    | none => lit "."
    | some reason => lit ": " ++ reason

variable [RoundTripFormat]

def decideFromPending (approval : Approval) (command : ApprovalCommand) (decision : Decision)
    (now : DateTimeOffset) : ApprovalTransitionResult :=
  if hdecider : isNullOrWhiteSpace (some decision.decidedBy) = true then
    refuse approval command now .approverIdentityRequired <|
      lit "The decision names no deciding identity. An approval whose approver cannot be named is " ++
        lit "not an approval."
  else if approval.expiresAt ≤ now then
    refuse approval command now .expired <|
      lit "This proposal expired at " ++ iso (some approval.expiresAt) ++
        lit " and can no longer be decided. It will never execute."
  else if isSameIdentity decision.decidedBy approval.proposedByObjectId then
    refuse approval command now .segregationOfDuties <|
      lit "The identity deciding this proposal is the identity that raised it. Segregation of " ++
        lit "duties requires a second person, so the decision was not recorded and the proposal " ++
        lit "remains pending."
  else if hreason : decision.targetState = .rejected ∧ isNullOrWhiteSpace decision.reason = true then
    refuse approval command now .reasonRequired <|
      lit "A rejection must carry a reason. A refusal nobody can account for is not reviewable."
  else if approval.verifyEvidenceIntegrity = false then
    refuse approval command now .evidencePacketMismatch <|
      lit "The stored evidence no longer matches the hash recorded when this proposal was raised, " ++
        lit "so the evidence presented for decision cannot be shown to be the evidence originally " ++
        lit "assembled. The decision was refused rather than recorded against unverifiable evidence."
  else if decision.acknowledgedHash.any fun hash =>
      !equalsOrdinalIgnoreCase (some hash) (some approval.evidencePacketHash) then
    refuse approval command now .evidencePacketMismatch <|
      lit "The evidence hash acknowledged by the approver differs from the hash on this proposal. " ++
        lit "The approver was looking at a different version of the evidence, so the decision was not " ++
        lit "recorded."
  else
    .accepted (approval.withDecision decision.targetState.state (some decision.decidedBy)
        (trimmedReason decision) now
        (decided_consistent now (Bool.eq_false_of_not_eq_true hdecider) fun htarget =>
          Bool.eq_false_of_not_eq_true fun hblank => hreason ⟨htarget, hblank⟩))
      (decidedEvent approval decision now)

def fromPending (approval : Approval) (command : ApprovalCommand) (now : DateTimeOffset) :
    ApprovalTransitionResult :=
  match command.decision with
  | none =>
    if now < approval.expiresAt then
      refuse approval command now .notYetExpired <|
        lit "This proposal does not expire until " ++ iso (some approval.expiresAt) ++
          lit " and is still awaiting a decision."
    else .accepted (expired approval now) (expiredEvent approval now)
  | some decision => decideFromPending approval command decision now

/-- `Apply`, with the one reading of the clock that it takes. -/
def apply (approval : Approval) (command : ApprovalCommand) (now : DateTimeOffset) :
    ApprovalTransitionResult :=
  match approval.state with
  | .pendingApproval => fromPending approval command now
  | .expired =>
    if command.trigger = .expire then
      refuse approval command now .invalidTransition <|
        lit "This proposal is already recorded as Expired. The expiry was written once and is not " ++
          lit "rewritten."
    else
      refuse approval command now .expired <|
        lit "This proposal expired at " ++ iso (some approval.expiresAt) ++
          lit " without a decision and can never execute. Expiry is not approval, and there is no " ++
            lit "path from an expired proposal to an approved one."
  | .approved | .rejected =>
    refuse approval command now .invalidTransition <|
      lit "This proposal is already in the terminal state " ++ approval.state.text ++
        lit ", decided at " ++ iso approval.decidedAt ++ lit ". A recorded decision is final and " ++
          lit "cannot be revisited; a new proposal must be raised instead."

end ApprovalStateMachine

end Fcmr.Approvals
