import Fcmr.DotNet.Formats
import Fcmr.Library.StableSort

/-! Orders, quotes, the best-execution policy, and the evaluation of one venue for one
order. `none` is an `OverflowException` or a `DivideByZeroException`. -/
namespace Fcmr.OrderRouting

open DotNet

inductive OrderSide
  | buy
  | sell
  deriving DecidableEq

structure OrderIntent where
  orderId : Text
  correlationId : Text
  symbol : Text
  side : OrderSide
  quantity : Int32
  limitPrice : Decimal
  arrivalMidPrice : Decimal

def OrderIntent.notionalUsd (order : OrderIntent) : Option Decimal :=
  (Decimal.ofInt32 order.quantity).mul order.limitPrice

inductive VenueType
  | lit
  | dark
  deriving DecidableEq

def VenueType.text : VenueType → Text
  | .lit => DotNet.lit "Lit"
  | .dark => DotNet.lit "Dark"

structure VenueQuote where
  venueCode : Text
  type : VenueType
  midPrice : Decimal
  spread : Decimal
  displayedLiquidity : Int32
  feeBps : Decimal

def VenueQuote.isDark (quote : VenueQuote) : Bool := quote.type = .dark

inductive PolicyBoundary
  | venueNotApproved
  | darkPoolMinimumSize
  | participationRateExceeded
  | spreadToleranceExceeded
  | limitPriceBreached
  | notionalCeilingExceeded
  deriving DecidableEq

def PolicyBoundary.text : PolicyBoundary → Text
  | venueNotApproved => lit "VenueNotApproved"
  | darkPoolMinimumSize => lit "DarkPoolMinimumSize"
  | participationRateExceeded => lit "ParticipationRateExceeded"
  | spreadToleranceExceeded => lit "SpreadToleranceExceeded"
  | limitPriceBreached => lit "LimitPriceBreached"
  | notionalCeilingExceeded => lit "NotionalCeilingExceeded"

structure PolicyBreach where
  boundary : PolicyBoundary
  venueCode : Option Text
  permitted : Text
  observed : Text

def PolicyBreach.explanation (breach : PolicyBreach) : Text :=
  match breach.venueCode with
  | none =>
    breach.boundary.text ++ lit ": permitted " ++ breach.permitted ++ lit ", order presents " ++
      breach.observed ++ lit "."
  | some venueCode =>
    breach.boundary.text ++ lit " at " ++ venueCode ++ lit ": permitted " ++ breach.permitted ++
      lit ", venue presents " ++ breach.observed ++ lit "."

structure BestExecutionPolicy where
  approvedVenues : List Text
  maxParticipationRate : Decimal := .literal 20 2
  maxSpreadBps : Decimal := .literal 25 0
  darkPoolMinimumQuantity : Int32 := 10000
  maxNotionalUsd : Decimal := .literal 25000000 0
  impactCoefficientBps : Decimal := .literal 50 0
  approvedVenues_nodup : approvedVenues.Nodup

def BestExecutionPolicy.default : BestExecutionPolicy where
  approvedVenues := [lit "XLIT", lit "XMER", lit "XNOR", lit "XPAC", lit "DARK-1"]
  approvedVenues_nodup := by decide

def sumBps (spreadCostBps impactBps feeBps : Decimal) : Option Decimal := do
  (← spreadCostBps.add impactBps).add feeBps

structure CostBreakdown where
  participationRate : Decimal
  spreadCostBps : Decimal
  impactBps : Decimal
  feeBps : Decimal
  totalCostBps : Decimal
  projectedPrice : Decimal
  projectedCostUsd : Decimal
  total : sumBps spreadCostBps impactBps feeBps = some totalCostBps

structure VenueEvaluation where
  quote : VenueQuote
  cost : CostBreakdown
  breaches : List PolicyBreach

def VenueEvaluation.isEligible (evaluation : VenueEvaluation) : Bool := evaluation.breaches.isEmpty

def percentText (rate : Decimal) : Option Text := do
  return (← rate.mul (.literal 100 0)).numberText 1 ++ lit "%"

def VenueEvaluation.liquidityRationale (evaluation : VenueEvaluation) : Option Text := do
  let share ← percentText evaluation.cost.participationRate
  return evaluation.quote.venueCode ++ lit " shows " ++
    groupedIntText evaluation.quote.displayedLiquidity ++
    lit " shares at the touch; this order takes " ++ share ++
    lit " of displayed liquidity at a " ++ evaluation.quote.spread.numberText 4 ++ lit " spread."

namespace BestExecutionEvaluator

def evaluateOrder (order : OrderIntent) (policy : BestExecutionPolicy) :
    Option (List PolicyBreach) := do
  let notionalUsd ← order.notionalUsd
  if policy.maxNotionalUsd.value < notionalUsd.value then
    return [{
      boundary := .notionalCeilingExceeded
      venueCode := none
      permitted := policy.maxNotionalUsd.currencyText 0
      observed := notionalUsd.currencyText 0 }]
  else return []

def one : Decimal := .literal 1 0
def minusOne : Decimal := { one with negative := true }
def tenThousand : Decimal := .literal 10000 0

def participation (order : OrderIntent) (quote : VenueQuote) : Option Decimal :=
  if quote.displayedLiquidity ≤ 0 then Decimal.maxValue.div (.literal 1000000 0)
  else do return (← (Decimal.ofInt32 order.quantity).div (.ofInt32 quote.displayedLiquidity)).round 6

def halfSpreadBps (quote : VenueQuote) : Option Decimal :=
  if quote.midPrice.value = 0 then some .zero
  else do
    let half ← quote.spread.div (.literal 2 0)
    return (← (← half.div quote.midPrice).mul tenThousand).round 2

def computeCost (order : OrderIntent) (quote : VenueQuote) (policy : BestExecutionPolicy) :
    Option CostBreakdown := do
  let participationRate ← participation order quote
  let crossing ← halfSpreadBps quote
  -- A dark venue executes at the midpoint: there is no spread to cross.
  let spreadCostBps := if quote.isDark then .zero else crossing
  let impactBps := (← policy.impactCoefficientBps.mul (participationRate.min one)).round 2
  match total : sumBps spreadCostBps impactBps quote.feeBps with
  | none => none
  | some totalCostBps => do
    let signed := if order.side = .buy then one else minusOne
    let move ← (← signed.mul totalCostBps).div tenThousand
    let projectedPrice := (← quote.midPrice.mul (← one.add move)).round 4
    let perShare ← (← totalCostBps.div tenThousand).mul order.arrivalMidPrice
    let projectedCostUsd := (← perShare.mul (.ofInt32 order.quantity)).round 2
    return {
      participationRate, spreadCostBps, impactBps
      feeBps := quote.feeBps
      totalCostBps, projectedPrice, projectedCostUsd, total }

def breach (boundary : PolicyBoundary) (quote : VenueQuote) (permitted observed : Text) :
    PolicyBreach where
  boundary := boundary
  venueCode := some quote.venueCode
  permitted := permitted
  observed := observed

def venueBreaches (quote : VenueQuote) (policy : BestExecutionPolicy) : List PolicyBreach :=
  if quote.venueCode ∈ policy.approvedVenues then []
  else [breach .venueNotApproved quote
    (join (lit ", ") (StableSort.sortBy id policy.approvedVenues)) quote.venueCode]

def darkPoolBreaches (order : OrderIntent) (quote : VenueQuote) (policy : BestExecutionPolicy) :
    List PolicyBreach :=
  if quote.isDark ∧ order.quantity < policy.darkPoolMinimumQuantity then
    [breach .darkPoolMinimumSize quote
      (groupedIntText policy.darkPoolMinimumQuantity ++ lit " shares minimum")
      (groupedIntText order.quantity ++ lit " shares")]
  else []

def participationBreaches (cost : CostBreakdown) (quote : VenueQuote)
    (policy : BestExecutionPolicy) : Option (List PolicyBreach) :=
  if policy.maxParticipationRate.value < cost.participationRate.value then do
    return [breach .participationRateExceeded quote (← percentText policy.maxParticipationRate)
      (← percentText cost.participationRate)]
  else return []

def spreadBps (quote : VenueQuote) : Option Decimal :=
  if quote.midPrice.value = 0 then some .zero
  else do return (← (← quote.spread.div quote.midPrice).mul tenThousand).round 2

def spreadBreaches (quote : VenueQuote) (policy : BestExecutionPolicy) :
    Option (List PolicyBreach) := do
  let spreadBps ← spreadBps quote
  if policy.maxSpreadBps.value < spreadBps.value then
    return [breach .spreadToleranceExceeded quote (policy.maxSpreadBps.toText ++ lit " bps")
      (spreadBps.toText ++ lit " bps")]
  else return []

def throughLimit (order : OrderIntent) (cost : CostBreakdown) : Bool :=
  if order.side = .buy then order.limitPrice.value < cost.projectedPrice.value
  else cost.projectedPrice.value < order.limitPrice.value

def limitBreaches (order : OrderIntent) (cost : CostBreakdown) (quote : VenueQuote) :
    List PolicyBreach :=
  if throughLimit order cost then
    [breach .limitPriceBreached quote
      ((if order.side = .buy then lit "at or below" else lit "at or above") ++ lit " " ++
        order.limitPrice.numberText 4)
      (lit "projected " ++ cost.projectedPrice.numberText 4)]
  else []

def evaluateVenue (order : OrderIntent) (quote : VenueQuote) (policy : BestExecutionPolicy) :
    Option VenueEvaluation := do
  let cost ← computeCost order quote policy
  let participation ← participationBreaches cost quote policy
  let spread ← spreadBreaches quote policy
  return {
    quote, cost
    breaches := venueBreaches quote policy ++ darkPoolBreaches order quote policy ++
      participation ++ spread ++ limitBreaches order cost quote }

end BestExecutionEvaluator

end Fcmr.OrderRouting
