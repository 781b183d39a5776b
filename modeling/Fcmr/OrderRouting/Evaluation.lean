import Fcmr.DotNet.DecimalRounding
import Fcmr.OrderRouting.BestExecution

/-! What the evaluation of a venue consists of when no operation overflows, and what a
venue without a breach complies with. -/
namespace Fcmr.OrderRouting

open DotNet

namespace BestExecutionEvaluator

structure Computed (order : OrderIntent) (quote : VenueQuote) (policy : BestExecutionPolicy)
    (cost : CostBreakdown) : Prop where
  participation : participation order quote = some cost.participationRate
  spread : ∃ crossing, halfSpreadBps quote = some crossing ∧
    cost.spreadCostBps = if quote.isDark then .zero else crossing
  impact : ∃ impact, policy.impactCoefficientBps.mul (cost.participationRate.min one) =
    some impact ∧ cost.impactBps = impact.round 2
  fee : cost.feeBps = quote.feeBps
  price : ∃ total move factor exact,
    (if order.side = .buy then one else minusOne).mul cost.totalCostBps = some total ∧
      total.div tenThousand = some move ∧ one.add move = some factor ∧
      quote.midPrice.mul factor = some exact ∧ cost.projectedPrice = exact.round 4
  shortfall : ∃ fraction perShare exact, cost.totalCostBps.div tenThousand = some fraction ∧
    fraction.mul order.arrivalMidPrice = some perShare ∧
      perShare.mul (.ofInt32 order.quantity) = some exact ∧ cost.projectedCostUsd = exact.round 2

theorem computeCost_eq_some {order : OrderIntent} {quote : VenueQuote}
    {policy : BestExecutionPolicy} {cost : CostBreakdown}
    (h : computeCost order quote policy = some cost) : Computed order quote policy cost := by
  unfold computeCost at h
  obtain ⟨participationRate, hparticipation, h⟩ := Option.bind_eq_some_iff.mp h
  obtain ⟨crossing, hcrossing, h⟩ := Option.bind_eq_some_iff.mp h
  obtain ⟨impact, himpact, h⟩ := Option.bind_eq_some_iff.mp h
  dsimp only at h
  generalize hspread : (if quote.isDark then Decimal.zero else crossing) = spreadCostBps at h
  split at h
  · cases h
  obtain ⟨total, htotal, h⟩ := Option.bind_eq_some_iff.mp h
  obtain ⟨move, hmove, h⟩ := Option.bind_eq_some_iff.mp h
  obtain ⟨factor, hfactor, h⟩ := Option.bind_eq_some_iff.mp h
  obtain ⟨price, hprice, h⟩ := Option.bind_eq_some_iff.mp h
  obtain ⟨fraction, hfraction, h⟩ := Option.bind_eq_some_iff.mp h
  obtain ⟨perShare, hperShare, h⟩ := Option.bind_eq_some_iff.mp h
  obtain ⟨usd, husd, h⟩ := Option.bind_eq_some_iff.mp h
  cases h
  exact {
    participation := hparticipation
    spread := ⟨crossing, hcrossing, hspread.symm⟩
    impact := ⟨impact, himpact, rfl⟩
    fee := rfl
    price := ⟨total, move, factor, price, htotal, hmove, hfactor, hprice, rfl⟩
    shortfall := ⟨fraction, perShare, usd, hfraction, hperShare, husd, rfl⟩ }

/-- What the price and the cost are computed from: half the spread, impact and fee. -/
def totalBps (order : OrderIntent) (quote : VenueQuote) (policy : BestExecutionPolicy) :
    Option Decimal := do
  let participationRate ← participation order quote
  let crossing ← halfSpreadBps quote
  let impact ← policy.impactCoefficientBps.mul (participationRate.min one)
  sumBps (if quote.isDark then .zero else crossing) (impact.round 2) quote.feeBps

theorem Computed.totalBps {order : OrderIntent} {quote : VenueQuote} {policy : BestExecutionPolicy}
    {cost : CostBreakdown} (h : Computed order quote policy cost) :
    BestExecutionEvaluator.totalBps order quote policy = some cost.totalCostBps := by
  obtain ⟨crossing, hcrossing, hspread⟩ := h.spread
  obtain ⟨impact, himpact, hrounded⟩ := h.impact
  unfold BestExecutionEvaluator.totalBps
  simp only [h.participation, hcrossing, himpact, Option.bind_eq_bind, Option.bind_some,
    ← hspread, ← hrounded, ← h.fee, cost.total]

/-- The policy permits the venue for the order. -/
structure Permitted (order : OrderIntent) (quote : VenueQuote) (policy : BestExecutionPolicy)
    (cost : CostBreakdown) : Prop where
  approved : quote.venueCode ∈ policy.approvedVenues
  size : ¬(quote.isDark ∧ order.quantity < policy.darkPoolMinimumQuantity)
  participation : cost.participationRate.value ≤ policy.maxParticipationRate.value
  spread : ∀ bps, spreadBps quote = some bps → bps.value ≤ policy.maxSpreadBps.value
  limit : throughLimit order cost = false

structure Evaluated (order : OrderIntent) (quote : VenueQuote) (policy : BestExecutionPolicy)
    (evaluation : VenueEvaluation) : Prop where
  quote_eq : evaluation.quote = quote
  cost : Computed order quote policy evaluation.cost
  permitted : evaluation.breaches = [] → Permitted order quote policy evaluation.cost

theorem evaluateVenue_eq_some {order : OrderIntent} {quote : VenueQuote}
    {policy : BestExecutionPolicy} {evaluation : VenueEvaluation}
    (h : evaluateVenue order quote policy = some evaluation) :
    Evaluated order quote policy evaluation := by
  unfold evaluateVenue at h
  obtain ⟨cost, hcost, h⟩ := Option.bind_eq_some_iff.mp h
  obtain ⟨participation, hparticipation, h⟩ := Option.bind_eq_some_iff.mp h
  obtain ⟨spread, hspread, h⟩ := Option.bind_eq_some_iff.mp h
  cases h
  refine ⟨rfl, computeCost_eq_some hcost, fun hnone => ?_⟩
  simp only [List.append_eq_nil_iff] at hnone
  obtain ⟨⟨⟨⟨hvenue, hdark⟩, hrate⟩, hbps⟩, hlimit⟩ := hnone
  subst hrate hbps
  constructor
  · by_contra hmem
    rw [venueBreaches, if_neg hmem] at hvenue
    cases hvenue
  · intro hsmall
    rw [darkPoolBreaches, if_pos hsmall] at hdark
    cases hdark
  · by_contra hmore
    rw [participationBreaches, if_pos (not_le.mp hmore)] at hparticipation
    simp [Option.bind_eq_some_iff] at hparticipation
  · intro bps hspreadBps
    by_contra hmore
    rw [spreadBreaches, hspreadBps, Option.bind_eq_bind, Option.bind_some,
      if_pos (not_le.mp hmore)] at hspread
    cases hspread
  · by_contra hthrough
    rw [limitBreaches, if_pos (Bool.eq_true_of_not_eq_false hthrough)] at hlimit
    cases hlimit

theorem projectedCostUsd_mono {order : OrderIntent} {quote quote' : VenueQuote}
    {policy : BestExecutionPolicy} {cost cost' : CostBreakdown}
    (h : Computed order quote policy cost) (h' : Computed order quote' policy cost')
    (hquantity : 0 ≤ order.quantity.toInt) (hmid : 0 ≤ order.arrivalMidPrice.value)
    (hle : cost.totalCostBps.value ≤ cost'.totalCostBps.value) :
    cost.projectedCostUsd.value ≤ cost'.projectedCostUsd.value := by
  obtain ⟨fraction, perShare, usd, hfraction, hperShare, husd, hcost⟩ := h.shortfall
  obtain ⟨fraction', perShare', usd', hfraction', hperShare', husd', hcost'⟩ := h'.shortfall
  have htenThousand : 0 ≤ tenThousand.value := by
    simp [tenThousand, Decimal.literal, Decimal.value]
  have hquantity' : 0 ≤ (Decimal.ofInt32 order.quantity).value := by
    rw [Decimal.value_ofInt32]
    exact_mod_cast hquantity
  have hfractions : fraction.value ≤ fraction'.value :=
    (Decimal.div_rounded hfraction).mono (Decimal.div_rounded hfraction')
      (div_le_div_of_nonneg_right hle htenThousand)
  have hperShares : perShare.value ≤ perShare'.value :=
    (Decimal.mul_rounded hperShare).mono (Decimal.mul_rounded hperShare')
      (mul_le_mul_of_nonneg_right hfractions hmid)
  have husds : usd.value ≤ usd'.value :=
    (Decimal.mul_rounded husd).mono (Decimal.mul_rounded husd')
      (mul_le_mul_of_nonneg_right hperShares hquantity')
  rw [hcost, hcost']
  exact Decimal.round_mono 2 husds

theorem abs_participation_le {order : OrderIntent} {quote : VenueQuote} {rate : Decimal}
    (h : participation order quote = some rate) : |rate.value| ≤ (10 ^ 23 : ℕ) := by
  unfold participation at h
  split at h
  · apply (Decimal.div_rounded h).abs_le_nat (by decide)
    simp only [Decimal.maxValue, Decimal.literal, Decimal.value]
    norm_num
  · rename_i hliquidity
    obtain ⟨ratio, hratio, h⟩ := Option.bind_eq_some_iff.mp h
    cases h
    have hpos : (1 : ℚ) ≤ |(quote.displayedLiquidity.toInt : ℚ)| := by
      have hlt := Int32.lt_iff_toInt_lt.mp (Int32.not_le.mp hliquidity)
      exact_mod_cast Int.one_le_abs (ne_of_gt hlt)
    have hquantity : |(order.quantity.toInt : ℚ)| ≤ 10 ^ 23 := by
      have hlow := order.quantity.le_toInt
      have hhigh := order.quantity.toInt_lt
      rw [abs_le]
      constructor
      · exact_mod_cast (by omega : -(10 ^ 23 : ℤ) ≤ order.quantity.toInt)
      · exact_mod_cast (by omega : order.quantity.toInt ≤ (10 ^ 23 : ℤ))
    apply Decimal.abs_round_le
    apply (Decimal.div_rounded hratio).abs_le_nat (by decide)
    rw [Decimal.value_ofInt32, Decimal.value_ofInt32, abs_div, div_le_iff₀ (by linarith)]
    push_cast
    nlinarith

theorem percentText_isSome {rate : Decimal} (h : |rate.value| ≤ (10 ^ 23 : ℕ)) :
    (percentText rate).isSome := by
  have hpercent : (rate.mul (.literal 100 0)).isSome := by
    apply Decimal.mul_isSome (show 10 ^ 25 < 2 ^ 96 by decide)
    have hhundred : (Decimal.literal 100 0).value = 100 := by
      simp [Decimal.literal, Decimal.value]
    rw [hhundred, abs_mul, abs_of_pos (show (0 : ℚ) < 100 by norm_num)]
    push_cast at h ⊢
    linarith
  obtain ⟨percent, hpercent⟩ := Option.isSome_iff_exists.mp hpercent
  unfold percentText
  rw [hpercent]
  rfl

theorem liquidityRationale_isSome {order : OrderIntent} {quote : VenueQuote}
    {policy : BestExecutionPolicy} {evaluation : VenueEvaluation}
    (h : Evaluated order quote policy evaluation) : evaluation.liquidityRationale.isSome := by
  obtain ⟨share, hshare⟩ := Option.isSome_iff_exists.mp
    (percentText_isSome (abs_participation_le h.cost.participation))
  unfold VenueEvaluation.liquidityRationale
  rw [hshare]
  rfl

end BestExecutionEvaluator

end Fcmr.OrderRouting
