import Fcmr.Approvals.ApprovalStateMachine
import Fcmr.ApprovalsService.ApprovalStore
import Fcmr.ApprovalsService.Contracts

/-! The handlers of `POST /v1/approvals` and `POST /v1/approvals/{id}/decision`, call by
call in the order of the source. -/
namespace Fcmr.ApprovalsService

open DotNet Approvals ApprovalStateMachine Programs ApprovalsAuthorization

def error (correlation : Option Text) (status : Nat) (error detail : Text) : Result where
  statusCode := status
  body := .error { error, detail, correlationId := correlation.getD [] }

def statusFor : ApprovalRefusalKind → Nat
  | .segregationOfDuties => 409
  | .invalidTransition => 409
  | .notYetExpired => 409
  | .expired => 410
  | _ => 400

variable [RoundTripFormat]

def createAsync (request : Option CreateApprovalRequest) (user : Option ClaimsPrincipal)
    (correlation : Option Text) : Handling Result :=
  match request with
  | none => return error correlation 400 (lit "EvidenceRequired") (lit "No request body was supplied.")
  | some request =>
    match RejectedIdentityMembers.find request.extra with
    | some offending =>
      return error correlation 400 (lit "IdentityNotAccepted") <|
        lit "The request supplied '" ++ offending ++ lit "'. The proposing identity is read from " ++
          lit "the validated token and is never accepted from a request, so that segregation of " ++
          lit "duties compares two values the caller cannot choose. See ADR-011."
    | none =>
      match (objectId user).filter fun value => !isNullOrWhiteSpace (some value) with
      | none =>
        return error correlation 403 (lit "Forbidden") <|
          lit "The token carries no object id, so the proposing identity cannot be established. " ++
            lit "Segregation of duties compares the approver against the proposer, and that " ++
            lit "comparison is meaningless without one."
      | some proposedBy =>
        match request.evidencePacket with
        | none =>
          return error correlation 400 (lit "EvidenceRequired") <|
            lit "No evidence packet was supplied. Evidence that does not exist is reported as " ++
              lit "missing, never manufactured to make a record well-formed. See ADR-007."
        | some evidencePacket =>
          match request.expiresAt with
          | none =>
            return error correlation 400 (lit "ExpiryRequired") <|
              lit "No expiresAt was supplied. A proposal that never expires is a standing " ++
                lit "authorisation."
          | some expiresAt => do
            let id ← perform Op.newGuid
            -- Propose reads the clock last, after two checks; reading it first changes nothing.
            let now ← perform Op.getUtcNow
            match Approval.propose id request.lane evidencePacket proposedBy expiresAt now with
            | .refused refusal =>
              return error correlation (statusFor refusal.kind) refusal.kind.text refusal.reason
            | .accepted approval auditEvent =>
              -- The answer of CreateAsync, false for a taken id, is not looked at.
              let _ ← perform (Op.createAsync approval)
              match auditEvent with
              | some auditEvent => perform (Op.appendAuditAsync auditEvent)
              | none => pure ()
              return { statusCode := 201, body := .approval (.from approval true) }

/-- The decision word of a request, compared ignoring case; rejection is looked for first. -/
def requestedCommand (request : Option DecisionRequest) (decidedBy : Text) :
    Option ApprovalCommand :=
  let decision := request.bind (·.decision)
  let reason := request.bind (·.reason)
  if equalsOrdinalIgnoreCase decision (some (lit "Rejected")) then
    some (.reject decidedBy (reason.getD []) none)
  else if equalsOrdinalIgnoreCase decision (some (lit "Approved")) then
    some (.approve decidedBy reason none)
  else none

def recordExpiry (approval : Approval) (correlation : Option Text) : Handling Result := do
  let now ← perform Op.getUtcNow
  let expiry := apply approval .expire now
  match expiry with
  | .accepted expired _ => perform (Op.updateAsync expired)
  | .refused .. => pure ()
  perform (Op.appendAuditAsync expiry.auditEvent)
  return error correlation 410 (lit "Expired") <|
    lit "The proposal passed expiresAt. It will never execute, and expiry is not approval."

def recordDecision (approval : Approval) (command : ApprovalCommand) (correlation : Option Text) :
    Handling Result := do
  let now ← perform Op.getUtcNow
  let result := apply approval command now
  perform (Op.appendAuditAsync result.auditEvent)
  match result with
  | .refused refusal _ =>
    return error correlation (statusFor refusal.kind) refusal.kind.text refusal.reason
  | .accepted decided _ =>
    perform (Op.updateAsync decided)
    return { statusCode := 200, body := .approval (.from decided false) }

def decideAsync (id : Text) (request : Option DecisionRequest) (user : Option ClaimsPrincipal)
    (correlation : Option Text) : Handling Result := do
  match (← perform (Op.getAsync id)) with
  | none =>
    return error correlation 404 (lit "NotFound") (lit "No proposal with id '" ++ id ++ lit "'.")
  | some approval =>
    match RejectedIdentityMembers.find (request.bind (·.extra)) with
    | some offending =>
      return error correlation 400 (lit "IdentityNotAccepted") <|
        lit "The request supplied '" ++ offending ++ lit "'. The deciding identity is read from " ++
          lit "the validated token and is never accepted from a request. See ADR-011."
    | none =>
      match (objectId user).filter fun value => !isNullOrWhiteSpace (some value) with
      | none =>
        return error correlation 403 (lit "Forbidden") <|
          lit "The token carries no object id, so the deciding identity cannot be established."
      | some decidedBy =>
        let now ← perform Op.getUtcNow
        if approval.hasPassedExpiry now ∧ approval.state = .pendingApproval then
          recordExpiry approval correlation
        else
          match requestedCommand request decidedBy with
          | none =>
            return error correlation 400 (lit "InvalidDecision") <|
              lit "Decision must be 'Approved' or 'Rejected'. Received '" ++
                ((request.bind (·.decision)).getD []) ++ lit "'."
          | some command => recordDecision approval command correlation

end Fcmr.ApprovalsService
