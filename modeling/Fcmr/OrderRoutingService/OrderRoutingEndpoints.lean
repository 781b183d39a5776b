import Fcmr.OrderRoutingService.Contracts
import Fcmr.OrderRoutingService.ProposalStore
import Fcmr.ServiceDefaults.Correlation

/-! The handlers of `POST /v1/route-proposals` and `POST /v1/executions`, call by call in
the order of the source. A handler that returns `none` has thrown. -/
namespace Fcmr.OrderRoutingService

open DotNet OrderRouting ServiceDefaults Programs
open ApprovalsService (ClaimsPrincipal)

namespace OrderRoutingRoles

def proposer : Text := lit "OrderRouting.Propose"
def executor : Text := lit "OrderRouting.Execute"

end OrderRoutingRoles

def error (correlation : CorrelationIdAccessor) (status : Nat) (error detail : Text)
    (details : Option (List Text)) : Result where
  statusCode := status
  body := .error { error, detail, correlationId := correlation.value, details }

def validate (request : RouteProposalRequest) : List Text :=
  (if isNullOrWhiteSpace request.orderId then [lit "orderId is required."] else []) ++
  (if isNullOrWhiteSpace request.symbol then [lit "symbol is required."] else []) ++
  (if request.quantity ≤ 0 then [lit "quantity must be greater than zero."] else []) ++
  (if request.arrivalMidPrice.value ≤ 0 then
    [lit "arrivalMidPrice must be greater than zero."] else []) ++
  (if (request.quotes.getD []).isEmpty then
    [lit "at least one venue quote is required; the router does not invent liquidity."] else [])

def orderOf (request : RouteProposalRequest) (correlationId : Text) : OrderIntent where
  orderId := request.orderId.getD []
  correlationId := correlationId
  symbol := request.symbol.getD []
  side := request.side
  quantity := request.quantity
  limitPrice := request.limitPrice.getD .zero
  arrivalMidPrice := request.arrivalMidPrice

def quotesOf (request : RouteProposalRequest) : List VenueQuote :=
  (request.quotes.getD []).map fun quote => {
    venueCode := quote.venueCode
    type := quote.type
    midPrice := quote.midPrice
    spread := quote.spread
    displayedLiquidity := quote.displayedLiquidity
    feeBps := quote.feeBps }

def anonymousCaller : Text := lit "anonymous-development-caller"

/-- The outcome that `ProposeAsync` comes to for a request that is not refused. -/
def outcomeOf (request : RouteProposalRequest) (user : Option ClaimsPrincipal)
    (correlation : CorrelationIdAccessor) : Option RoutingOutcome :=
  RoutePlanner.plan (orderOf request correlation.value) (quotesOf request) .default
    ((FcmrAuthorization.objectId user).getD anonymousCaller) none

def answerOutcome (outcome : RoutingOutcome) (correlation : CorrelationIdAccessor) :
    Handling (Option Result) :=
  match outcome with
  | .halted breaches _ =>
    return some {
      statusCode := 422
      body := .halted outcome.haltSummary (breaches.map describeBreach) (considered outcome)
        correlation.value }
  | .proposed proposal _ => do
    perform (Op.save proposal)
    return some {
      statusCode := 201
      body := .proposed (describe proposal) (considered outcome) correlation.value }

def proposeAsync (request : Option RouteProposalRequest) (user : Option ClaimsPrincipal)
    (correlation : CorrelationIdAccessor) : Handling (Option Result) :=
  match request with
  | none =>
    return some <| error correlation 400 (lit "InvalidRequest")
      (lit "No request body was supplied.") none
  | some request =>
    match correlation.tryAdoptFromBody request.correlationId with
    | (false, correlation) =>
      return some <| error correlation 400 (lit "CorrelationIdConflict")
        (lit "The correlationId in the request body does not match the one supplied in the " ++
          CorrelationIdFormat.headerName ++
          lit " header. Send one or the other, or send them equal.") none
    | (true, correlation) =>
      let errors := validate request
      if errors ≠ [] then
        return some <| error correlation 400 (lit "InvalidRequest")
          (lit "The order could not be routed as submitted.") (some errors)
      else
        match outcomeOf request user correlation with
        | none => return none
        | some outcome => answerOutcome outcome correlation

def refused (reason : ExecutionRefusalReason) (explanation : Text)
    (correlation : CorrelationIdAccessor) : Result where
  statusCode := 403
  body := .notExecuted reason.text explanation correlation.value

def alreadyExecuted (proposalId : Text) (correlation : CorrelationIdAccessor) : Result where
  statusCode := 409
  body := .notExecuted (lit "AlreadyExecuted")
    (lit "Proposal " ++ proposalId ++ lit " has already been executed. An approval is " ++
      lit "single-use; replaying one would double an order without a second human " ++
      lit "seeing it.") correlation.value

def filled (execution : SimulatedExecution) (correlation : CorrelationIdAccessor) : Result where
  statusCode := 201
  body := .executed execution execution.executionMode correlation.value

/-- The token's object id, or without one the name in the approval. -/
def approverOf (request : ExecuteRouteRequest) (user : Option ClaimsPrincipal) : Option Text :=
  (FcmrAuthorization.objectId user).or (request.approval.map (·.approvedBy))

def authorizationOf (request : ExecuteRouteRequest) (user : Option ClaimsPrincipal) :
    Option ExecutionAuthorization :=
  match request.approval, approverOf request user with
  | some approval, some approvedBy =>
    if isNullOrWhiteSpace (some approvedBy) then none
    else some {
      approvalId := approval.approvalId
      proposalId := request.proposalId
      correlationId := request.correlationId
      approvedBy
      approvedAt := approval.approvedAt
      expiresAt := approval.expiresAt }
  | _, _ => none

/-- Replay protection, after the domain has approved. -/
def markExecuted (proposalId : Text) (execution : SimulatedExecution)
    (correlation : CorrelationIdAccessor) : Handling (Option Result) := do
  match (← perform (Op.tryMarkExecuted proposalId)) with
  | true => return some (filled execution correlation)
  | false => return some (alreadyExecuted proposalId correlation)

def attemptExecution (proposal : RouteProposal) (request : ExecuteRouteRequest)
    (user : Option ClaimsPrincipal) (correlation : CorrelationIdAccessor) :
    Handling (Option Result) := do
  let now ← perform Op.getUtcNow
  match SimulatedOms.execute proposal (authorizationOf request user) now none with
  | .refused reason explanation => return some (refused reason explanation correlation)
  | .executed execution _ => markExecuted request.proposalId execution correlation

def executeAsync (request : Option ExecuteRouteRequest) (user : Option ClaimsPrincipal)
    (correlation : CorrelationIdAccessor) : Handling (Option Result) :=
  match request with
  | none =>
    return some <| error correlation 400 (lit "InvalidRequest")
      (lit "No request body was supplied.") none
  | some request => do
    match (← perform (Op.find request.proposalId)) with
    | none =>
      return some <| error correlation 404 (lit "ProposalNotFound")
        (lit "No proposal " ++ request.proposalId ++ lit " is held by this service. Executions " ++
          lit "are checked against the stored proposal, never against one supplied at execution " ++
          lit "time.") none
    | some proposal => attemptExecution proposal request user correlation

/-- An endpoint behind its role filter. -/
def filtered (enforced : Bool) (role : Text) (user : Option ClaimsPrincipal)
    (next : Handling (Option Result)) : Handling (Option Result) :=
  match requireAppRole enforced role user with
  | some refusal => return some { statusCode := 403, body := .forbidden refusal }
  | none => next

end Fcmr.OrderRoutingService
