import Fcmr.ServiceDefaults.Correlation
import Fcmr.SurveillanceService.Contracts

/-! The handlers of `POST /v1/escalations/drafts` and `POST /v1/escalations`. They keep no
state: a memo comes back with the caller. A handler that returns `none` has thrown. -/
namespace Fcmr.SurveillanceService

open DotNet ServiceDefaults Surveillance
open ApprovalsService (ClaimsPrincipal)

namespace SurveillanceRoles

def analyst : Text := lit "Surveillance.Triage"
def reviewer : Text := lit "Surveillance.Review"

end SurveillanceRoles

def error (correlation : CorrelationIdAccessor) (status : Nat) (error detail : Text) : Result where
  statusCode := status
  body := .error error detail correlation.value

def anonymousCaller : Text := lit "anonymous-development-caller"

def answerDraft (outcome : DraftOutcome) (correlation : CorrelationIdAccessor) : Result :=
  match outcome with
  | .refused reason explanation => {
      statusCode := 422
      body := .notDrafted reason.text explanation correlation.value }
  | .drafted memo => { statusCode := 201, body := .drafted (describe memo) correlation.value }

def draftEscalation (request : Option DraftEscalationRequest) (user : Option ClaimsPrincipal)
    (correlation : CorrelationIdAccessor) (now : DateTimeOffset) : Option Result :=
  match request with
  | none =>
    some <| error correlation 400 (lit "InvalidRequest") (lit "No request body was supplied.")
  | some request =>
    let proposedBy := (FcmrAuthorization.objectId user).getD anonymousCaller
    match request.assessment.toDomain with
    | .error message => some <| error correlation 400 (lit "InvalidRiskScore") message
    | .ok assessment =>
      let ranked := { rank := request.queueRank, alert := request.alert.toDomain, assessment }
      (EscalationGate.draft ranked .default correlation.value proposedBy now).map
        (answerDraft · correlation)

def approvalRequired (correlation : CorrelationIdAccessor) : Result :=
  error correlation 403 (lit "ApprovalRequired")
    (lit "No approval was presented. An alert's state does not change without one.")

def authorizationOf (approval : EscalationApprovalDto) (approvedBy : Text) :
    EscalationAuthorization where
  alertId := approval.alertId
  correlationId := approval.correlationId
  approvedBy := approvedBy
  approvedAt := approval.approvedAt
  expiresAt := approval.expiresAt
  authorisedState := approval.authorisedState

def answerApply (outcome : EscalationOutcome) (correlation : CorrelationIdAccessor) : Result :=
  match outcome with
  | .refused reason explanation => {
      statusCode := 403
      body := .notApplied reason.text explanation correlation.value }
  | .applied change => {
      statusCode := 201
      body := .applied (describeChange change) correlation.value }

def applyEscalation (request : Option ApplyEscalationRequest) (user : Option ClaimsPrincipal)
    (correlation : CorrelationIdAccessor) (now : DateTimeOffset) : Result :=
  match request with
  | none => error correlation 400 (lit "InvalidRequest") (lit "No request body was supplied.")
  | some request =>
    match request.approval with
    | none => approvalRequired correlation
    | some approval =>
      let approvedBy := (FcmrAuthorization.objectId user).getD approval.approvedBy
      if isNullOrWhiteSpace (some approvedBy) then approvalRequired correlation
      else
        answerApply
          (EscalationGate.apply request.memo.toDomain (authorizationOf approval approvedBy) now)
          correlation

/-- An endpoint behind its role filter. -/
def filtered (enforced : Bool) (role : Text) (user : Option ClaimsPrincipal) (next : Option Result) :
    Option Result :=
  match requireAppRole enforced role user with
  | some refusal => some { statusCode := 403, body := .forbidden refusal }
  | none => next

end Fcmr.SurveillanceService
