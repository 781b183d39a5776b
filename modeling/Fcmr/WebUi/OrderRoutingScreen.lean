import Fcmr.WebUi.ApiClient

/-! What the order routing screen puts on the page, as captions with the values beside them.
Rendering that throws is `none`. -/
namespace Fcmr.WebUi

open DotNet

abbrev Lines := List (String × Value)

/-- The lines of a screen that cannot be rendered are those of the error boundary. -/
abbrev View := Option Lines

def banner (title : String) (detail : Value) : View := do
  return [(title, ← detail.child)]

def whyOf (venue : Value) (isEligible : Bool) : Option Value :=
  if isEligible then do
    (← venue.read "liquidityRationale").child
  else do
    return .array (← (← venue.read "breaches").map (·.read "boundary"))

def consideredRow (venue : Value) : View := do
  let quote ← venue.read "quote"
  let venueCode ← (← quote.read "venueCode").child
  let type ← (← quote.read "type").child
  let cost ← venue.read "cost"
  let totalCostBps ← (← cost.read "totalCostBps").toFixed
  let projectedCostUsd ← cost.read "projectedCostUsd"
  let isEligible := (← venue.read "isEligible").truthy
  let why ← whyOf venue isEligible
  return [("Venue", venueCode), ("Type", type), ("Total cost", totalCostBps),
    ("Projected cost", projectedCostUsd), ("Eligible", .boolean isEligible), ("Why", why)]

def consideredTable (considered : Value) : View := do
  return (← considered.map consideredRow).flatten

def breachRow (breach : Value) : View := do
  let boundary ← (← breach.read "boundary").child
  let venueCode ← ((← breach.read "venueCode").orElse (.string (lit "Order-level"))).child
  let permitted ← (← breach.read "permitted").child
  let observed ← (← breach.read "observed").child
  let explanation ← (← breach.read "explanation").child
  return [("Boundary", boundary), ("Venue", venueCode), ("Permitted", permitted),
    ("Observed", observed), ("Explanation", explanation)]

def breachTable (breaches : Value) : View := do
  return (← breaches.map breachRow).flatten

def haltView (halt : Value) : View := do
  let summary ← banner "Routing halted by policy" (← halt.read "haltSummary")
  let breaches ← breachTable (← halt.read "breaches")
  let considered ← consideredTable (← halt.read "considered")
  let correlationId ← (← halt.read "correlationId").child
  return summary ++ breaches ++ considered ++ [("Correlation id", correlationId)]

def proposalView (response : Value) : View := do
  let proposal ← response.read "proposal"
  let quantity ← (← proposal.read "quantity").toLocaleString
  let venueCode ← (← proposal.read "venueCode").child
  let justification ← (← proposal.read "bestExecutionJustification").child
  let liquidity ← (← proposal.read "liquidityRationale").child
  let cost ← proposal.read "cost"
  let totalCostBps ← (← cost.read "totalCostBps").toFixed
  let spreadCostBps ← (← cost.read "spreadCostBps").toFixed
  let impactBps ← (← cost.read "impactBps").toFixed
  let feeBps ← (← cost.read "feeBps").toFixed
  let participationRate ← cost.read "participationRate"
  let projectedPrice ← (← cost.read "projectedPrice").toFixed
  let proposedBy ← (← proposal.read "proposedBy").child
  let considered ← consideredTable (← response.read "considered")
  let correlationId ← (← response.read "correlationId").child
  return [("Route", quantity), ("to", venueCode), ("", justification), ("", liquidity),
    ("Total cost", totalCostBps), ("Spread", spreadCostBps), ("Impact", impactBps),
    ("Fee", feeBps), ("Participation", participationRate), ("Projected price", projectedPrice),
    ("Proposed by", proposedBy)] ++ considered ++ [("Correlation id", correlationId)]

def executionRefusalView (refusal : Value) : View := do
  let reason ← refusal.read "refusal"
  let detail ← (← refusal.read "detail").child
  return [("Execution refused", reason), ("", detail)]

def executionView (execution : Value) : View := do
  let mode ← (← execution.read "executionMode").child
  let executionId ← (← execution.read "executionId").child
  let venueCode ← (← execution.read "venueCode").child
  let quantity ← (← execution.read "quantity").toLocaleString
  let price ← (← execution.read "price").toFixed
  let approvalId ← (← execution.read "approvalId").child
  let correlationId ← (← execution.read "correlationId").child
  return [("Executed", mode), ("Execution id", executionId), ("Venue", venueCode),
    ("Quantity", quantity), ("Price", price), ("Approval", approvalId),
    ("Correlation id", correlationId)]

def resultView : Value → View
  | .undefined => some [("No order routed yet", .undefined)]
  | result => do
    if (← isHalt result) then haltView result else proposalView result

def outcomeView : Value → View
  | .undefined => some []
  | execution => do
    if (← execution.has "executed") then executionRefusalView execution
    else executionView execution

def orderRoutingScreen (result execution : Value) : View := do
  return (← resultView result) ++ (← outcomeView execution)

end Fcmr.WebUi
