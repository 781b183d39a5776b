import Fcmr.OrderRouting.MalformedQuotes
import Fcmr.OrderRouting.NotionalCeiling
import Fcmr.OrderRouting.Totality
import Fcmr.OrderRoutingService.OrderRoutingEndpoints

/-! What a proposal for a valid request is bounded by, and what it is not: the side of the
order and the numbers of the quotes matter. -/
namespace Fcmr.OrderRoutingService

open DotNet OrderRouting ServiceDefaults
open ApprovalsService (ClaimsPrincipal)

theorem quantity_pos {request : RouteProposalRequest} (h : validate request = []) :
    0 < request.quantity.toInt := by
  unfold validate at h
  simp only [List.append_eq_nil_iff] at h
  have hquantity := h.1.1.2
  by_contra hnot
  have hle : request.quantity ≤ 0 := Int32.le_iff_toInt_le.mpr (Int.not_lt.mp hnot)
  rw [if_pos hle] at hquantity
  cases hquantity

theorem value_maxNotionalUsd :
    BestExecutionPolicy.default.maxNotionalUsd.value = (25000000 : ℕ) := by
  simp [BestExecutionPolicy.default, Decimal.literal, Decimal.value]

/-- The product with the limit is below the ceiling, and for a buy that with the price too. -/
theorem proposed_notional {request : RouteProposalRequest} {user : Option ClaimsPrincipal}
    {correlation : CorrelationIdAccessor} {proposal : RouteProposal}
    {considered : List VenueEvaluation} (hvalid : validate request = [])
    (hproposed : outcomeOf request user correlation = some (.proposed proposal considered)) :
    (∀ limit, request.limitPrice = some limit →
      ∃ notional, (Decimal.ofInt32 request.quantity).mul limit = some notional ∧
        notional.value ≤ BestExecutionPolicy.default.maxNotionalUsd.value) ∧
    (request.side = .buy → request.quantity.toInt * proposal.cost.projectedPrice.value ≤
      BestExecutionPolicy.default.maxNotionalUsd.value) := by
  obtain ⟨hpassed, winner, _, hwinner⟩ := RoutePlanner.plan_winner hproposed
  constructor
  · intro limit hlimit
    obtain ⟨notional, hnotional, hle⟩ := notional_le hpassed
    refine ⟨notional, ?_, hle⟩
    rw [← hnotional]
    simp only [OrderIntent.notionalUsd, orderOf, hlimit, Option.getD_some]
  · intro hside
    have hquantity : 0 ≤ (orderOf request correlation.value).quantity.toInt :=
      (quantity_pos hvalid).le
    have hbound := hwinner.buy_notional_le value_maxNotionalUsd (by norm_num) hpassed hside hquantity
    exact hbound

/-- Validation leaves open whether the evaluation is total: prices, spreads, fees and limits
decide it by their magnitude. -/
theorem request_total_iff {request : RouteProposalRequest} (h : validate request = [])
    (correlationId : Text) :
    Total (orderOf request correlationId) (quotesOf request) .default ↔
      OrderInRange (orderOf request correlationId) (quotesOf request) .default :=
  total_iff (quantity_pos h)

namespace Samples

def signedIn : Option ClaimsPrincipal := some ⟨true, [⟨lit "oid", lit "alice"⟩]⟩
def supplied : CorrelationIdAccessor := ⟨lit "corr-1", .header⟩

def venue (venueCode : Text) (midPrice spread : Decimal) : VenueQuoteDto where
  venueCode := venueCode
  type := .lit
  midPrice := midPrice
  spread := spread
  displayedLiquidity := 10000000

def fairVenue : VenueQuoteDto := venue (lit "XLIT") (.literal 100 0) (.literal 2 2)

def orderFor (side : OrderSide) (quantity : Int32) (limitPrice : Decimal)
    (quotes : List VenueQuoteDto) : RouteProposalRequest where
  correlationId := none
  orderId := some (lit "ORD-1")
  symbol := some (lit "ACME")
  side := side
  quantity := quantity
  arrivalMidPrice := .literal 100 0
  limitPrice := some limitPrice
  quotes := some quotes

def proposes (test : RouteProposal → VenueEvaluation → Bool) (outcome : Option RoutingOutcome) :
    Bool :=
  match outcome with
  | some (.proposed proposal considered) =>
    (considered.find? (·.isEligible)).any (test proposal)
  | _ => false

theorem proposed_of_proposes {test : RouteProposal → VenueEvaluation → Bool}
    {outcome : Option RoutingOutcome} (h : proposes test outcome = true) :
    ∃ proposal considered winner, outcome = some (.proposed proposal considered) ∧
      considered.find? (·.isEligible) = some winner ∧ test proposal winner = true := by
  unfold proposes at h
  split at h
  · rename_i proposal considered
    obtain ⟨winner, hfound, htest⟩ := (Option.any_eq_true ..).mp h
    exact ⟨proposal, considered, winner, rfl, hfound, htest⟩
  · cases h

def buyRequest : RouteProposalRequest := orderFor .buy 1000 (.literal 101 0) [fairVenue]

theorem buyRequest_bounded : ∃ proposal considered,
    outcomeOf buyRequest signedIn supplied = some (.proposed proposal considered) ∧
      buyRequest.quantity.toInt * proposal.cost.projectedPrice.value ≤
        BestExecutionPolicy.default.maxNotionalUsd.value := by
  have hproposes : proposes (fun _ _ => true) (outcomeOf buyRequest signedIn supplied) = true := by
    decide +kernel
  obtain ⟨proposal, considered, _, hproposed, _⟩ := proposed_of_proposes hproposes
  exact ⟨proposal, considered, hproposed, (proposed_notional (by decide +kernel) hproposed).2 rfl⟩

def sellRequest : RouteProposalRequest := orderFor .sell 300000 (.literal 1 0) [fairVenue]

theorem sellRequest_exceeds : validate sellRequest = [] ∧ ∃ proposal considered,
    outcomeOf sellRequest signedIn supplied = some (.proposed proposal considered) ∧
      BestExecutionPolicy.default.maxNotionalUsd.value <
        sellRequest.quantity.toInt * proposal.cost.projectedPrice.value := by
  have hproposes : proposes (fun proposal _ => BestExecutionPolicy.default.maxNotionalUsd.value <
      sellRequest.quantity.toInt * proposal.cost.projectedPrice.value)
      (outcomeOf sellRequest signedIn supplied) = true := by
    decide +kernel
  obtain ⟨proposal, considered, _, hproposed, _, hexceeds⟩ := proposed_of_proposes hproposes
  exact ⟨by decide +kernel, proposal, considered, hproposed, of_decide_eq_true hexceeds⟩

def crossedRequest : RouteProposalRequest :=
  orderFor .buy 1000 (.literal 101 0) [fairVenue,
    venue (lit "XNOR") (.literal 100 0) { Decimal.literal 50 2 with negative := true }]

def pricelessRequest : RouteProposalRequest :=
  orderFor .buy 1000 (.literal 101 0) [fairVenue, venue (lit "XPAC") .zero .zero]

/-- Each is the cheaper one: it wins with a negative spread, or with a fill for nothing. -/
theorem malformed_wins :
    (validate crossedRequest = [] ∧
      ¬WinsWellFormed (outcomeOf crossedRequest signedIn supplied)) ∧
    (validate pricelessRequest = [] ∧
      ¬WinsWellFormed (outcomeOf pricelessRequest signedIn supplied)) := by
  refine ⟨⟨by decide +kernel, fun h => ?_⟩, by decide +kernel, fun h => ?_⟩
  · have hproposes : proposes (fun _ winner => winner.quote.spread.value < 0)
        (outcomeOf crossedRequest signedIn supplied) = true := by
      decide +kernel
    obtain ⟨_, _, winner, hproposed, hfound, hspread⟩ := proposed_of_proposes hproposes
    exact absurd (h _ _ winner hproposed hfound).spread (not_le.mpr (of_decide_eq_true hspread))
  · have hproposes : proposes (fun _ winner => winner.quote.midPrice.value ≤ 0)
        (outcomeOf pricelessRequest signedIn supplied) = true := by
      decide +kernel
    obtain ⟨_, _, winner, hproposed, hfound, hmid⟩ := proposed_of_proposes hproposes
    exact absurd (h _ _ winner hproposed hfound).mid (not_lt.mpr (of_decide_eq_true hmid))

theorem buyRequest_total : Total (orderOf buyRequest supplied.value) (quotesOf buyRequest) .default := by
  have hvalid : validate buyRequest = [] := by decide +kernel
  apply (request_total_iff hvalid supplied.value).mpr
  exact (evaluable_iff (quantity_pos hvalid)).mp ⟨by decide +kernel, by decide +kernel⟩

def feeRequest : RouteProposalRequest :=
  orderFor .buy 1000 (.literal 101 0) [{ fairVenue with feeBps := .maxValue }]

theorem feeRequest_overflows : validate feeRequest = [] ∧
    ¬Total (orderOf feeRequest supplied.value) (quotesOf feeRequest) .default := by
  refine ⟨by decide +kernel, fun htotal => ?_⟩
  have hnone : (quotesOf feeRequest).all (fun quote =>
      (BestExecutionEvaluator.evaluateVenue (orderOf feeRequest supplied.value) quote
        .default).isNone) = true := by
    decide +kernel
  obtain ⟨quote, hquote⟩ := List.exists_mem_of_ne_nil (quotesOf feeRequest) (by decide)
  obtain ⟨evaluation, hevaluation, _⟩ := htotal.venues quote hquote
  have hisNone := List.all_eq_true.mp hnone quote hquote
  rw [hevaluation] at hisNone
  cases hisNone

end Samples

end Fcmr.OrderRoutingService
