import Fcmr.Approvals.ApprovalStateMachine

/-! The last gate before a consequential action. It repeats checks of the state machine
on whatever record it is handed. -/
namespace Fcmr.Approvals

open DotNet

structure ExecutionAuthorization where
  approvalId : Text
  correlationId : Text
  lane : Lane
  proposedAction : ProposedAction
  evidencePacketHash : Text
  approvedByObjectId : Text
  proposedByObjectId : Text
  approvedAt : DateTimeOffset
  authorizedAt : DateTimeOffset

inductive ExecutionAuthorizationResult
  | authorized (authorization : ExecutionAuthorization) (auditEvent : ApprovalAuditEvent)
  | refused (refusal : ApprovalRefusal) (auditEvent : ApprovalAuditEvent)

namespace ExecutionGate

def refuse (approval : Approval) (now : DateTimeOffset) (kind : ApprovalRefusalKind)
    (reason : Text) : ExecutionAuthorizationResult :=
  .refused {
    kind
    reason
    correlationId := approval.correlationId
    approvalId := some approval.id
    currentState := some approval.state }
  {
    eventType := .approvalRefused
    correlationId := approval.correlationId
    approvalId := approval.id
    actorObjectId := approval.decidedByObjectId
    resultingState := approval.state
    occurredAt := now
    evidencePacketHash := approval.evidencePacketHash
    refusalKind := some kind
    detail := lit "Execution refused (" ++ kind.text ++ lit "): " ++ reason }

def authorization (approval : Approval) (decidedBy : Text) (now : DateTimeOffset) :
    ExecutionAuthorization where
  approvalId := approval.id
  correlationId := approval.correlationId
  lane := approval.lane
  proposedAction := approval.proposedAction
  evidencePacketHash := approval.evidencePacketHash
  approvedByObjectId := decidedBy
  proposedByObjectId := approval.proposedByObjectId
  approvedAt := approval.decidedAt.getD approval.createdAt
  authorizedAt := now

def authorizedEvent (approval : Approval) (decidedBy : Text) (now : DateTimeOffset) :
    ApprovalAuditEvent where
  eventType := .executionAuthorized
  correlationId := approval.correlationId
  approvalId := approval.id
  actorObjectId := some decidedBy
  resultingState := approval.state
  occurredAt := now
  evidencePacketHash := approval.evidencePacketHash
  refusalKind := none
  detail := lit "Execution of '" ++ approval.proposedAction.kind ++
    lit "' authorised under the approval recorded by " ++ decidedBy ++
    lit " against evidence packet " ++ approval.evidencePacketHash ++ lit "."

def anonymous (approval : Approval) (now : DateTimeOffset) : ExecutionAuthorizationResult :=
  refuse approval now .approverIdentityRequired <|
    lit "The approval records no approver identity, so the approval cannot be attributed to " ++
      lit "anyone. Execution was refused rather than performed on an unattributable authorisation."

/-- `Authorize`, with the one reading of the clock that it takes. -/
def authorize [RoundTripFormat] (approval : Approval) (now : DateTimeOffset) :
    ExecutionAuthorizationResult :=
  if approval.state = .expired then
    refuse approval now .expired <|
      lit "This proposal expired without a decision. Expiry is not approval, so there is nothing to " ++
        lit "execute."
  else if approval.state ≠ .approved then
    refuse approval now .notApproved <|
      lit "This proposal is " ++ approval.state.text ++ lit ", not Approved. No consequential action " ++
        lit "executes without a recorded human approval."
  else
    match approval.decidedByObjectId with
    | none => anonymous approval now
    | some decidedBy =>
      if isNullOrWhiteSpace (some decidedBy) then anonymous approval now
      else if equalsOrdinalIgnoreCase (some (trim decidedBy))
          (some (trim approval.proposedByObjectId)) then
        refuse approval now .segregationOfDuties <|
          lit "The recorded approver is the identity that raised this proposal. Segregation of " ++
            lit "duties requires a second person, so execution was refused."
      else if approval.verifyEvidenceIntegrity = false then
        refuse approval now .evidencePacketMismatch <|
          lit "The stored evidence does not match the hash approved, so the evidence about to be " ++
            lit "acted on cannot be shown to be the evidence that was approved. Execution was refused."
      else
        .authorized (authorization approval decidedBy now) (authorizedEvent approval decidedBy now)

end ExecutionGate

open ExecutionGate ApprovalStateMachine

variable [RoundTripFormat]

structure Authorizable (approval : Approval) (decidedBy : Text) : Prop where
  approved : approval.state = .approved
  decider : approval.decidedByObjectId = some decidedBy
  identity : isNullOrWhiteSpace (some decidedBy) = false
  segregated : isSameIdentity decidedBy approval.proposedByObjectId = false
  intact : approval.verifyEvidenceIntegrity = true

theorem authorize_of_authorizable {approval : Approval} {decidedBy : Text}
    (h : Authorizable approval decidedBy) (now : DateTimeOffset) : authorize approval now =
      .authorized (authorization approval decidedBy now) (authorizedEvent approval decidedBy now) := by
  have hsegregated := h.segregated
  unfold isSameIdentity at hsegregated
  simp [authorize, h.approved, h.decider, h.identity, hsegregated, h.intact]

theorem authorizable_of_authorize {approval : Approval} {now : DateTimeOffset}
    {auth : ExecutionAuthorization} {event : ApprovalAuditEvent}
    (h : authorize approval now = .authorized auth event) :
    ∃ decidedBy, Authorizable approval decidedBy ∧ auth = authorization approval decidedBy now := by
  unfold authorize at h
  split at h
  · cases h
  split at h
  · cases h
  split at h
  · cases h
  split at h
  · cases h
  split at h
  · cases h
  split at h
  · cases h
  rename_i hexpired happroved _ decidedBy hdecider hidentity hsame hintact
  cases h
  refine ⟨decidedBy, ?_, rfl⟩
  exact {
    approved := by simpa using happroved
    decider := hdecider
    identity := Bool.eq_false_of_not_eq_true hidentity
    segregated := Bool.eq_false_of_not_eq_true hsame
    intact := Bool.eq_true_of_not_eq_false hintact }

theorem authorize_fields {approval : Approval} {now : DateTimeOffset}
    {auth : ExecutionAuthorization} {event : ApprovalAuditEvent}
    (h : authorize approval now = .authorized auth event) :
    auth.lane = approval.lane ∧ auth.correlationId = approval.correlationId ∧
      auth.proposedAction = approval.proposedAction ∧
      auth.evidencePacketHash = approval.evidencePacketHash := by
  obtain ⟨_, _, rfl⟩ := authorizable_of_authorize h
  exact ⟨rfl, rfl, rfl, rfl⟩

theorem authorize_iff {approval : Approval} {now : DateTimeOffset} :
    (∃ auth event, authorize approval now = .authorized auth event) ↔
      ∃ decidedBy, Authorizable approval decidedBy := by
  constructor
  · rintro ⟨auth, event, h⟩
    obtain ⟨decidedBy, hauthorizable, _⟩ := authorizable_of_authorize h
    exact ⟨decidedBy, hauthorizable⟩
  · rintro ⟨decidedBy, h⟩
    exact ⟨_, _, authorize_of_authorizable h now⟩

end Fcmr.Approvals
