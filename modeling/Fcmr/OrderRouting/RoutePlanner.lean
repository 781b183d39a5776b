import Fcmr.OrderRouting.BestExecution
import Mathlib.Data.Prod.Lex

/-! Selection of a venue by lowest projected cost, or a halt that names why. -/
namespace Fcmr.OrderRouting

open DotNet BestExecutionEvaluator

structure RouteProposal where
  proposalId : Text
  correlationId : Text
  orderId : Text
  quantity : Int32
  venueCode : Text
  cost : CostBreakdown
  liquidityRationale : Text
  bestExecutionJustification : Text
  proposedBy : Text
  considered : List VenueEvaluation

inductive RoutingOutcome
  | proposed (proposal : RouteProposal) (considered : List VenueEvaluation)
  | halted (breaches : List PolicyBreach) (considered : List VenueEvaluation)

namespace RoutingOutcome

def considered : RoutingOutcome → List VenueEvaluation
  | proposed _ considered => considered
  | halted _ considered => considered

def haltSummary : RoutingOutcome → Text
  | proposed .. => []
  | halted breaches _ =>
    lit "Halted on " ++
      join (lit ", ") (StableSort.sortBy id (breaches.map (·.boundary.text)).dedup) ++ lit "."

end RoutingOutcome

namespace RoutePlanner

def costKey (evaluation : VenueEvaluation) : ℚ ×ₗ Text :=
  toLex (evaluation.cost.totalCostBps.value, evaluation.quote.venueCode)

def justify (winner : VenueEvaluation) (eligible all : List VenueEvaluation) : Text :=
  let selected :=
    winner.quote.venueCode ++ lit " selected on lowest projected total cost (" ++
      winner.cost.totalCostBps.toText ++ lit " bps = " ++ winner.cost.spreadCostBps.toText ++
      lit " spread + " ++ winner.cost.impactBps.toText ++ lit " impact + " ++
      winner.cost.feeBps.toText ++ lit " fee) among " ++ natText eligible.length ++
      lit " eligible venue" ++ (if eligible.length = 1 then [] else lit "s") ++ lit "."
  let next :=
    match eligible with
    | _ :: runnerUp :: _ =>
      [lit "Next best " ++ runnerUp.quote.venueCode ++ lit " at " ++
        runnerUp.cost.totalCostBps.toText ++ lit " bps."]
    | _ => []
  let rejected := all.filter fun evaluation => !evaluation.isEligible
  let named := rejected.map fun evaluation =>
    evaluation.quote.venueCode ++ lit " (" ++
      join (lit "/") (evaluation.breaches.map (·.boundary.text)) ++ lit ")"
  let excluded :=
    if rejected = [] then [] else [lit "Excluded: " ++ join (lit "; ") named ++ lit "."]
  join (lit " ") (selected :: next ++ excluded)

/-- `Plan`. `none` is an exception, as of the arithmetic or for a blank identity. -/
def plan (order : OrderIntent) (quotes : List VenueQuote) (policy : BestExecutionPolicy)
    (proposedBy : Text) (proposalId : Option Text) : Option RoutingOutcome := do
  if isNullOrWhiteSpace (some proposedBy) then none
  else
    let evaluated ← quotes.mapM fun quote => evaluateVenue order quote policy
    let evaluations := StableSort.sortBy costKey evaluated
    let orderBreaches ← evaluateOrder order policy
    if orderBreaches ≠ [] then return .halted orderBreaches evaluations
    else
      match evaluations.filter (·.isEligible) with
      | [] => return .halted (evaluations.flatMap (·.breaches)) evaluations
      | winner :: others => do
        let liquidityRationale ← winner.liquidityRationale
        return .proposed {
          proposalId := proposalId.getD (lit "prop-" ++ order.orderId)
          correlationId := order.correlationId
          orderId := order.orderId
          quantity := order.quantity
          venueCode := winner.quote.venueCode
          cost := winner.cost
          liquidityRationale
          bestExecutionJustification := justify winner (winner :: others) evaluations
          proposedBy
          considered := evaluations } evaluations

structure Planned (order : OrderIntent) (proposedBy : Text) (proposalId : Option Text)
    (proposal : RouteProposal) : Prop where
  proposalId : proposal.proposalId = proposalId.getD (lit "prop-" ++ order.orderId)
  correlationId : proposal.correlationId = order.correlationId
  orderId : proposal.orderId = order.orderId
  quantity : proposal.quantity = order.quantity
  proposer : proposal.proposedBy = proposedBy
  identity : isNullOrWhiteSpace (some proposedBy) = false

theorem plan_proposed {order : OrderIntent} {quotes : List VenueQuote}
    {policy : BestExecutionPolicy} {proposedBy : Text} {proposalId : Option Text}
    {proposal : RouteProposal} {considered : List VenueEvaluation}
    (h : plan order quotes policy proposedBy proposalId = some (.proposed proposal considered)) :
    Planned order proposedBy proposalId proposal := by
  unfold plan at h
  split at h
  · cases h
  rename_i hidentity
  obtain ⟨evaluated, _, h⟩ := Option.bind_eq_some_iff.mp h
  obtain ⟨orderBreaches, _, h⟩ := Option.bind_eq_some_iff.mp h
  split at h
  · cases h
  split at h
  · cases h
  obtain ⟨liquidityRationale, _, h⟩ := Option.bind_eq_some_iff.mp h
  cases h
  exact ⟨rfl, rfl, rfl, rfl, rfl, Bool.eq_false_of_not_eq_true hidentity⟩

end RoutePlanner

end Fcmr.OrderRouting
