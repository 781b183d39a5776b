import Fcmr.DotNet.DecimalRange
import Fcmr.OrderRouting.Selection
import Mathlib.Tactic.LinearCombination

/-! The projected cost as implementation shortfall. The projected price is computed from the
mid of the venue and the projected cost from the mid at arrival, so that they describe one
fill only where the two mids agree. -/
namespace Fcmr.OrderRouting

open DotNet BestExecutionEvaluator

/-- 1 for a buy. -/
def OrderSide.sign : OrderSide → ℚ
  | buy => 1
  | sell => -1

@[simp] theorem OrderSide.sign_mul_self (side : OrderSide) : side.sign * side.sign = 1 := by
  cases side <;> norm_num [sign]

@[simp] theorem OrderSide.abs_sign (side : OrderSide) : |side.sign| = 1 := by
  cases side <;> norm_num [sign]

def unroundedPrice (order : OrderIntent) (quote : VenueQuote) (totalBps : ℚ) : ℚ :=
  (1 + order.side.sign * (totalBps / 10000)) * quote.midPrice.value

def unroundedCost (order : OrderIntent) (totalBps : ℚ) : ℚ :=
  totalBps / 10000 * order.arrivalMidPrice.value * order.quantity.toInt

/-- The recorded figures are those of one fill, whose cost is its distance from the arrival mid,
but for their last places and the last digits of the arithmetic. -/
structure ShortfallUpToRounding (order : OrderIntent) (quote : VenueQuote)
    (cost : CostBreakdown) : Prop where
  price : |cost.projectedPrice.value - unroundedPrice order quote cost.totalCostBps.value| ≤
    1 / 20000 +
      6 * ((1 + |cost.totalCostBps.value / 10000|) * (1 + |quote.midPrice.value|)) / 10 ^ 28
  usd : |cost.projectedCostUsd.value - unroundedCost order cost.totalCostBps.value| ≤
    1 / 200 + 5 * ((1 + |cost.totalCostBps.value / 10000|) * (1 + |order.arrivalMidPrice.value|) *
      (1 + |(order.quantity.toInt : ℚ)|)) / 10 ^ 28
  shortfall : unroundedCost order cost.totalCostBps.value =
    order.side.sign * (unroundedPrice order quote cost.totalCostBps.value -
      order.arrivalMidPrice.value) * order.quantity.toInt

namespace BestExecutionEvaluator

variable {order : OrderIntent} {quote : VenueQuote} {policy : BestExecutionPolicy}
  {cost : CostBreakdown}

theorem value_one : one.value = 1 := by simp [one, Decimal.literal, Decimal.value]

theorem value_minusOne : minusOne.value = -1 := by
  simp [minusOne, one, Decimal.literal, Decimal.value]

theorem value_tenThousand : tenThousand.value = 10000 := by
  simp [tenThousand, Decimal.literal, Decimal.value]

theorem value_signed {d signed : Decimal}
    (h : (if order.side = .buy then one else minusOne).mul d = some signed) :
    signed.value = order.side.sign * d.value := by
  have hvalue := Decimal.mul_rounded h
  cases hside : order.side with
  | buy =>
    rw [hside, if_pos rfl, value_one, one_mul] at hvalue
    rw [OrderSide.sign, one_mul]
    exact hvalue.unique (Decimal.rounded_self d)
  | sell =>
    rw [hside, if_neg (by decide), value_minusOne, neg_one_mul] at hvalue
    rw [OrderSide.sign, neg_one_mul]
    exact hvalue.unique (Decimal.rounded_self d).neg

theorem abs_add_within {x y z e e' : ℚ} (h : |y - x| ≤ e) (h' : |z - y| ≤ e') :
    |z - x| ≤ e' + e := by
  have htri := abs_add_le (z - y) (y - x)
  rw [sub_add_sub_cancel] at htri
  linarith

theorem projectedPrice_close (h : Computed order quote policy cost) :
    |cost.projectedPrice.value - unroundedPrice order quote cost.totalCostBps.value| ≤
      1 / 20000 +
        6 * ((1 + |cost.totalCostBps.value / 10000|) * (1 + |quote.midPrice.value|)) / 10 ^ 28 := by
  obtain ⟨total, move, factor, exact, htotal, hmove, hfactor, hexact, hprice⟩ := h.price
  have hmoved := Decimal.within_rounded (Decimal.div_rounded hmove)
  rw [value_tenThousand, value_signed htotal, mul_div_assoc, abs_mul, OrderSide.abs_sign,
    one_mul] at hmoved
  have hsize : |one.value + order.side.sign * (cost.totalCostBps.value / 10000)| ≤
      1 + |cost.totalCostBps.value / 10000| := by
    have htri := abs_add_le 1 (order.side.sign * (cost.totalCostBps.value / 10000))
    rw [abs_mul, OrderSide.abs_sign, one_mul, abs_one] at htri
    rwa [value_one]
  have hfactored := hmoved.add (by decide) hsize (Decimal.add_rounded hfactor)
  have hproduct := Decimal.mul_rounded hexact
  rw [mul_comm] at hproduct
  have hmultiplied := hfactored.mul (by decide) quote.midPrice.value hproduct
  rw [hprice]
  unfold unroundedPrice
  rw [value_one] at hmultiplied
  have hclose := abs_add_within hmultiplied.error (Decimal.abs_round_sub_le exact 4)
  norm_num at hclose ⊢
  exact hclose

theorem projectedCostUsd_close (h : Computed order quote policy cost) :
    |cost.projectedCostUsd.value - unroundedCost order cost.totalCostBps.value| ≤
      1 / 200 + 5 * ((1 + |cost.totalCostBps.value / 10000|) *
        (1 + |order.arrivalMidPrice.value|) * (1 + |(order.quantity.toInt : ℚ)|)) / 10 ^ 28 := by
  obtain ⟨fraction, perShare, exact, hfraction, hperShare, hexact, husd⟩ := h.shortfall
  have hfractioned := Decimal.within_rounded (Decimal.div_rounded hfraction)
  rw [value_tenThousand] at hfractioned
  have hperShared := hfractioned.mul (by decide) order.arrivalMidPrice.value
    (Decimal.mul_rounded hperShare)
  have hproduct := Decimal.mul_rounded hexact
  rw [Decimal.value_ofInt32] at hproduct
  have hmultiplied := hperShared.mul (by decide) (order.quantity.toInt : ℚ) hproduct
  rw [husd]
  unfold unroundedCost
  have hclose := abs_add_within hmultiplied.error (Decimal.abs_round_sub_le exact 2)
  norm_num at hclose ⊢
  exact hclose

theorem shortfall_gap (order : OrderIntent) (quote : VenueQuote) (totalBps : ℚ) :
    order.side.sign * (unroundedPrice order quote totalBps - order.arrivalMidPrice.value) *
        order.quantity.toInt - unroundedCost order totalBps =
      (quote.midPrice.value - order.arrivalMidPrice.value) *
        (order.side.sign + totalBps / 10000) * order.quantity.toInt := by
  have hsign := order.side.sign_mul_self
  unfold unroundedPrice unroundedCost
  linear_combination (quote.midPrice.value * (totalBps / 10000) * order.quantity.toInt) * hsign

/-- The cost is shortfall against the arrival mid exactly where the venue's mid is the arrival
mid, or the costs come to the whole price. -/
theorem shortfall_iff (h : computeCost order quote policy = some cost)
    (hquantity : 0 < order.quantity.toInt) :
    ShortfallUpToRounding order quote cost ↔
      quote.midPrice.value = order.arrivalMidPrice.value ∨
        ∃ total, totalBps order quote policy = some total ∧
          total.value = -order.side.sign * 10000 := by
  have hcomputed := computeCost_eq_some h
  have hgap := shortfall_gap order quote cost.totalCostBps.value
  have hnonzero : (order.quantity.toInt : ℚ) ≠ 0 := by exact_mod_cast hquantity.ne'
  have hidentity : ShortfallUpToRounding order quote cost ↔
      (quote.midPrice.value - order.arrivalMidPrice.value) *
        (order.side.sign + cost.totalCostBps.value / 10000) = 0 := by
    constructor
    · intro hshortfall
      rw [← hshortfall.shortfall, sub_self] at hgap
      exact (mul_eq_zero.mp hgap.symm).resolve_right hnonzero
    · intro hzero
      rw [hzero, zero_mul, sub_eq_zero] at hgap
      exact ⟨projectedPrice_close hcomputed, projectedCostUsd_close hcomputed, hgap.symm⟩
  have htotal : (∃ total, totalBps order quote policy = some total ∧
      total.value = -order.side.sign * 10000) ↔
        order.side.sign + cost.totalCostBps.value / 10000 = 0 := by
    rw [hcomputed.totalBps]
    simp only [Option.some.injEq, exists_eq_left']
    constructor <;> intro heq <;> linarith
  rw [hidentity, htotal, mul_eq_zero, sub_eq_zero]

end BestExecutionEvaluator

namespace Samples

def movedQuote : VenueQuote := litQuote (.literal 101 0)

theorem fairQuote_shortfall : ∃ cost, computeCost buyOrder fairQuote .default = some cost ∧
    ShortfallUpToRounding buyOrder fairQuote cost := by
  have hsome : (computeCost buyOrder fairQuote .default).isSome = true := by decide +kernel
  obtain ⟨cost, hcost⟩ := Option.isSome_iff_exists.mp hsome
  exact ⟨cost, hcost, (shortfall_iff hcost (by decide)).mpr (.inl rfl)⟩

/-- The price is 101.0150 and the recorded cost of the thousand shares 14.90, not 1,015. -/
theorem movedQuote_no_shortfall : ∃ cost, computeCost buyOrder movedQuote .default = some cost ∧
    (buyOrder.quantity.toInt : ℚ) / 20000 + 1 / 200 < |cost.projectedCostUsd.value -
      buyOrder.side.sign * (cost.projectedPrice.value - buyOrder.arrivalMidPrice.value) *
        buyOrder.quantity.toInt| ∧
    ¬ShortfallUpToRounding buyOrder movedQuote cost := by
  have hfigures : (computeCost buyOrder movedQuote .default).map (fun cost =>
      (cost.projectedPrice.value, cost.projectedCostUsd.value, cost.totalCostBps.value)) =
        some (101 + 15 / 1000, 149 / 10, 149 / 100) := by
    decide +kernel
  obtain ⟨cost, hcost, hvalues⟩ := Option.map_eq_some_iff.mp hfigures
  obtain ⟨hprice, husd, htotal⟩ : cost.projectedPrice.value = 101 + 15 / 1000 ∧
      cost.projectedCostUsd.value = 149 / 10 ∧ cost.totalCostBps.value = 149 / 100 := by
    simpa only [Prod.mk.injEq] using hvalues
  have harrival : buyOrder.arrivalMidPrice.value = 100 := by decide +kernel
  have hquantity : (buyOrder.quantity.toInt : ℚ) = 1000 := by decide +kernel
  have hmid : movedQuote.midPrice.value = 101 := by decide +kernel
  refine ⟨cost, hcost, ?_, fun hshortfall => ?_⟩
  · rw [hprice, husd, harrival, hquantity]
    norm_num [buyOrder, OrderSide.sign]
  · have hgap := shortfall_gap buyOrder movedQuote cost.totalCostBps.value
    rw [← hshortfall.shortfall, sub_self, hmid, harrival, hquantity, htotal] at hgap
    norm_num [buyOrder, OrderSide.sign] at hgap

end Samples

end Fcmr.OrderRouting
