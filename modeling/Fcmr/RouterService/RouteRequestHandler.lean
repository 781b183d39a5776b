import Fcmr.Library.Traces
import Fcmr.RouterDecisions.PolicySetRepository
import Fcmr.RouterService.ModelCatalog
import Fcmr.RouterService.RouteStatusMapper
import Fcmr.RouterService.RoutingDecisionStore
import Fcmr.ServiceDefaults.Security

/-! `POST /v1/route`, call by call in the order of the source: what the service is configured
with, what it answers, and the two stores it works on. -/
namespace Fcmr.RouterService

open DotNet RouterDecisions ServiceDefaults ApprovalsService Programs

structure RouterPolicyOptions where
  businessUnit : Text := lit "CapitalMarkets"
  setId : Text := lit "CapitalMarkets-US"

/-- `enabled` is the setting as `IsEnforced` reads it, missing or not. -/
structure RouterAuthorizationOptions where
  enabled : Option Bool := none
  requiredRole : Text := lit "Router.Invoke"

structure RouterOptions where
  catalog : List ModelCatalogEntryOptions := []
  policy : RouterPolicyOptions := {}
  authorization : RouterAuthorizationOptions := {}

/-- The whole of a `RouteRequest`: with what is not validated, the region and the flags of the
hints, which are false where there are no hints. -/
structure InboundRouteRequest extends RouteRequest where
  executionRegion : Option Text
  requiresMultiStep : Bool
  requiresRetrieval : Bool
  requiresToolCalls : Bool

structure QualitySignalDto where
  method : Text
  score : Double

/-- What depends on a model call is null until one happens. -/
structure RouteMetricsDto where
  latencyMs : Int32
  promptTokens : Option Int32 := none
  completionTokens : Option Int32 := none
  actualCostUsd : Option Decimal := none
  baselineCostUsd : Option Decimal := none
  qualitySignal : Option QualitySignalDto := none

inductive InferenceState
  | notInvoked
  | notReached
  deriving DecidableEq

structure InferenceStatusDto where
  state : InferenceState
  detail : Text

structure RouteResponse where
  correlationId : Text
  decision : RoutingDecision
  result : Option JsonElement
  metrics : RouteMetricsDto
  inference : InferenceStatusDto

structure RouteErrorResponse where
  correlationId : Text
  error : Text
  message : Text
  decision : Option RoutingDecision := none
  details : Option (List Text) := none

inductive RouteBody
  | response (response : RouteResponse)
  | error (response : RouteErrorResponse)

structure RouteHttpResult where
  statusCode : Nat
  body : RouteBody

def RouteBody.correlationId : RouteBody → Text
  | response body => body.correlationId
  | error body => body.correlationId

/-- The decision that an answer shows, if it shows one. -/
def RouteBody.decision : RouteBody → Option RoutingDecision
  | response body => some body.decision
  | error body => body.decision

namespace RouteStatusMapper

def costCeilingExceeded : Text := lit "CostCeilingExceeded"
def noTierAvailable : Text := lit "NoTierAvailable"

def errorCodeFor (statusCode : Nat) : Text :=
  match statusCode with
  | 402 => costCeilingExceeded
  | 503 => noTierAvailable
  | _ => lit "RouterError"

end RouteStatusMapper

/-- The stores of the service, singletons that all requests share, and the environment of its
host, which never changes. -/
structure RouterState where
  isDevelopment : Bool
  policySets : InMemoryPolicySetRepository
  decisions : InMemoryRoutingDecisionStore

/-- Everything outside itself that the handler calls. Timestamps and spans are in ticks of
100 ns. -/
inductive Op
  | isEnforced
  | requiredRole
  | getTimestamp
  | current
  | currentValue
  | getPolicySet (businessUnit setId : Text)
  | getElapsedTime (started : Nat)
  | newGuid
  | getUtcNow
  | saveAsync (record : RoutingDecisionRecord)

@[reducible] def Op.Ret : Op → Type
  | isEnforced => Bool
  | requiredRole => Text
  | getTimestamp => Nat
  | current => List TierPricing
  | currentValue => RouterPolicyOptions
  | getPolicySet .. => Option PolicySet
  | getElapsedTime _ => Int
  | newGuid => Text
  | getUtcNow => DateTimeOffset
  | saveAsync _ => Unit

def Op.saved : Op → Option RoutingDecisionRecord
  | saveAsync record => some record
  | _ => none

/-- What a call finds: the configuration of that moment, both clocks, the guid that would be
drawn, and the updates of policy sets that others have made since the call before. -/
structure Moment where
  options : RouterOptions
  timestamp : Nat
  now : DateTimeOffset
  guid : Text
  updates : List PolicySetCall

namespace RouterAuthorization

/-- True unless enforcement is switched off and the host is Development. -/
def isEnforced (enabled : Option Bool) (isDevelopment : Bool) : Bool :=
  enabled.getD true || !isDevelopment

/-- `HasRole`, line for line that of the lane services. -/
def hasRole : Option ClaimsPrincipal → Text → Bool := FcmrAuthorization.hasRole

end RouterAuthorization

def serve : Handler Op Op.Ret RouterState Moment := fun op moment state =>
  let state := { state with policySets := state.policySets.run moment.updates }
  match op with
  | .isEnforced =>
    (RouterAuthorization.isEnforced moment.options.authorization.enabled state.isDevelopment, state)
  | .requiredRole => (moment.options.authorization.requiredRole, state)
  | .getTimestamp => (moment.timestamp, state)
  | .current => (ConfiguredModelCatalog.current moment.options.catalog, state)
  | .currentValue => (moment.options.policy, state)
  | .getPolicySet businessUnit setId => (state.policySets.getAsync businessUnit setId, state)
  | .getElapsedTime started => (moment.timestamp - started, state)
  | .newGuid => (moment.guid, state)
  | .getUtcNow => (moment.now, state)
  | .saveAsync record => ((), { state with decisions := state.decisions.saveAsync record })

/-- `none` is an exception. -/
abbrev Handling := Program Op Op.Ret (Option RouteHttpResult)

namespace RouteRequestHandler

def problem (correlation : CorrelationIdAccessor) (status : Nat) (error message : Text)
    (details : Option (List Text) := none) : RouteHttpResult where
  statusCode := status
  body := .error { correlationId := correlation.value, error, message, details }

def conflict (correlation : CorrelationIdAccessor) : RouteHttpResult :=
  problem correlation 400 (lit "CorrelationIdConflict") <|
    lit "The correlationId in the request body does not match the one supplied in the " ++
      CorrelationIdFormat.headerName ++
      lit " header. Send one or the other, or send them equal."

def invalid (correlation : CorrelationIdAccessor) (errors : List Text) : RouteHttpResult :=
  problem correlation 400 (lit "InvalidRequest")
    (lit "The request could not be routed as submitted.") (some errors)

def unconfigured (correlation : CorrelationIdAccessor) : RouteHttpResult :=
  problem correlation 503 RouteStatusMapper.noTierAvailable <|
    lit "No model deployments are configured. The router does not fall back to an unrouted " ++
      lit "direct call."

def ungoverned (correlation : CorrelationIdAccessor) (policyOptions : RouterPolicyOptions) :
    RouteHttpResult :=
  problem correlation 503 (lit "GovernanceUnavailable") <|
    lit "Policy set '" ++ policyOptions.setId ++ lit "' for business unit '" ++
      policyOptions.businessUnit ++ lit "' could not be resolved. The request was refused " ++
      lit "rather than routed ungoverned."

def inferenceFor (decision : RoutingDecision) : InferenceStatusDto :=
  if decision.outcome = .refusedByPolicy then {
    state := .notReached
    detail := lit "Governance policy left no eligible deployment, so no model call was attempted." }
  else {
    state := .notInvoked
    detail := lit "The routing decision is live and recorded. Model invocation through the AI " ++
      lit "gateway is not yet wired, and no result has been produced for this request." }

/-- The answer once the decision is recorded. -/
def answer (correlation : CorrelationIdAccessor) (decision : RoutingDecision)
    (models : List TierPricing) (latencyMs : Int32) : RouteHttpResult :=
  let status := RouteStatusMapper.statusFor decision models
  if status = 200 then {
    statusCode := status
    body := .response {
      correlationId := correlation.value
      decision
      result := none
      metrics := { latencyMs }
      inference := inferenceFor decision } }
  else {
    statusCode := status
    body := .error {
      correlationId := correlation.value
      error := RouteStatusMapper.errorCodeFor status
      message := decision.rationale
      decision := some decision } }

def hints (request : InboundRouteRequest) (dto : ComplexityHintsDto) : ComplexityHints where
  inputTokenEstimate := dto.inputTokenEstimate
  requiresMultiStep := request.requiresMultiStep
  requiresRetrieval := request.requiresRetrieval
  requiresToolCalls := request.requiresToolCalls

structure Routable where
  request : RoutingRequest
  lane : Lane
  taskKind : Text

/-- `none` is the exception for a member that is null. -/
def routable (request : InboundRouteRequest) : Option Routable := do
  let dto ← request.complexityHints
  let costCeilingUsd ← request.costCeilingUsd
  let dataClassification ← request.dataClassification
  let lane ← request.lane
  let taskKind ← request.taskKind
  return {
    request := {
      hints := hints request dto
      costCeilingUsd
      dataClassification
      executionRegion := request.executionRegion }
    lane
    taskKind }

/-- A span in milliseconds. The conversion from a floating-point number saturates. -/
def milliseconds (ticks : Int) : Int32 :=
  Int32.ofInt (max (-2 ^ 31) (min (ticks.tdiv 10000) (2 ^ 31 - 1)))

/-- A decision is recorded before it is answered. -/
def record (routed : Routable) (correlation : CorrelationIdAccessor) (models : List TierPricing)
    (decision : RoutingDecision) (started : Nat) : Handling := do
  let elapsed ← perform (Op.getElapsedTime started)
  let id ← perform Op.newGuid
  let createdAt ← perform Op.getUtcNow
  perform (Op.saveAsync {
    id
    correlationId := correlation.value
    lane := routed.lane
    taskKind := routed.taskKind
    decision
    complexityInputs := routed.request.hints
    createdAt
    latencyMs := some (milliseconds elapsed) })
  return some (answer correlation decision models (milliseconds elapsed))

def govern (request : InboundRouteRequest) (correlation : CorrelationIdAccessor) (started : Nat) :
    Handling := do
  let models ← perform Op.current
  if models = [] then return some (unconfigured correlation)
  else
    let policyOptions ← perform Op.currentValue
    match (← perform (Op.getPolicySet policyOptions.businessUnit policyOptions.setId)) with
    | none => return some (ungoverned correlation policyOptions)
    | some policy =>
      match routable request with
      | none => return none
      | some routed =>
        match RoutingPlanner.plan routed.request models policy with
        | none => return none
        | some decision => record routed correlation models decision started

def handleAsync (request : InboundRouteRequest) (correlation : CorrelationIdAccessor) :
    Handling := do
  let started ← perform Op.getTimestamp
  match correlation.tryAdoptFromBody request.correlationId with
  | (false, correlation) => return some (conflict correlation)
  | (true, correlation) =>
    match RouteRequestValidator.validate request.toRouteRequest with
    | [] => govern request correlation started
    | error :: errors => return some (invalid correlation (error :: errors))

end RouteRequestHandler

def forbidden (correlation : CorrelationIdAccessor) (requiredRole : Text) : RouteHttpResult :=
  RouteRequestHandler.problem correlation 403 (lit "Forbidden") <|
    lit "The caller does not carry the " ++ requiredRole ++ lit " app role."

/-- `RequireAppRoleFilter` around the handler, as the route is mapped. -/
def invokeAsync (user : Option ClaimsPrincipal) (request : InboundRouteRequest)
    (correlation : CorrelationIdAccessor) : Handling := do
  if (← perform Op.isEnforced) = false then RouteRequestHandler.handleAsync request correlation
  else
    let requiredRole ← perform Op.requiredRole
    if RouterAuthorization.hasRole user requiredRole then
      RouteRequestHandler.handleAsync request correlation
    else return some (forbidden correlation requiredRole)

end Fcmr.RouterService
