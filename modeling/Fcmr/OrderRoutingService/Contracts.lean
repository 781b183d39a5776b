import Fcmr.OrderRouting.SimulatedOms
import Fcmr.ServiceDefaults.Security

/-! Wire shapes of the order routing lane. Strings that the handlers check for null may
be null here. -/
namespace Fcmr.OrderRoutingService

open DotNet OrderRouting ServiceDefaults

structure VenueQuoteDto where
  venueCode : Text
  type : VenueType
  midPrice : Decimal
  spread : Decimal
  displayedLiquidity : Int32
  feeBps : Decimal := .zero

structure RouteProposalRequest where
  correlationId : Option Text
  orderId : Option Text
  symbol : Option Text
  side : OrderSide
  quantity : Int32
  arrivalMidPrice : Decimal
  limitPrice : Option Decimal
  quotes : Option (List VenueQuoteDto)

structure ApprovalDto where
  approvalId : Text
  approvedBy : Text
  approvedAt : DateTimeOffset
  expiresAt : DateTimeOffset

structure ExecuteRouteRequest where
  proposalId : Text
  correlationId : Text
  approval : Option ApprovalDto

structure OrderRoutingError where
  error : Text
  detail : Text
  correlationId : Text
  details : Option (List Text)

structure ProposalDescription where
  proposalId : Text
  orderId : Text
  correlationId : Text
  venueCode : Text
  quantity : Int32
  proposedBy : Text
  cost : CostBreakdown
  liquidityRationale : Text
  bestExecutionJustification : Text

def describe (proposal : RouteProposal) : ProposalDescription where
  proposalId := proposal.proposalId
  orderId := proposal.orderId
  correlationId := proposal.correlationId
  venueCode := proposal.venueCode
  quantity := proposal.quantity
  proposedBy := proposal.proposedBy
  cost := proposal.cost
  liquidityRationale := proposal.liquidityRationale
  bestExecutionJustification := proposal.bestExecutionJustification

structure ConsideredVenue where
  venueCode : Text
  venueType : Text
  totalCostBps : Decimal
  projectedCostUsd : Decimal
  eligible : Bool
  breaches : List Text

def considered (outcome : RoutingOutcome) : List ConsideredVenue :=
  outcome.considered.map fun evaluation => {
    venueCode := evaluation.quote.venueCode
    venueType := evaluation.quote.type.text
    totalCostBps := evaluation.cost.totalCostBps
    projectedCostUsd := evaluation.cost.projectedCostUsd
    eligible := evaluation.isEligible
    breaches := evaluation.breaches.map (·.boundary.text) }

structure BreachDescription where
  boundary : Text
  venueCode : Option Text
  permitted : Text
  observed : Text
  explanation : Text

def describeBreach (breach : PolicyBreach) : BreachDescription where
  boundary := breach.boundary.text
  venueCode := breach.venueCode
  permitted := breach.permitted
  observed := breach.observed
  explanation := breach.explanation

inductive Body
  | error (response : OrderRoutingError)
  | forbidden (refusal : FilterRefusal)
  | halted (haltSummary : Text) (breaches : List BreachDescription)
    (considered : List ConsideredVenue) (correlationId : Text)
  | proposed (proposal : ProposalDescription) (considered : List ConsideredVenue)
    (correlationId : Text)
  | notExecuted (refusal detail correlationId : Text)
  | executed (execution : SimulatedExecution) (executionMode correlationId : Text)

/-- `IResult` as the handlers build it. -/
structure Result where
  statusCode : Nat
  body : Body

end Fcmr.OrderRoutingService
