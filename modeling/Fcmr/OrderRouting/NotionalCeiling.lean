import Fcmr.OrderRouting.Selection

/-! The notional ceiling. It is tested on the limit price, which bounds the price of a buy
from above. -/
namespace Fcmr.OrderRouting

open DotNet BestExecutionEvaluator RoutePlanner

theorem notional_le {order : OrderIntent} {policy : BestExecutionPolicy}
    (h : evaluateOrder order policy = some []) : ∃ notional, order.notionalUsd = some notional ∧
      notional.value ≤ policy.maxNotionalUsd.value := by
  unfold evaluateOrder at h
  obtain ⟨notional, hnotional, h⟩ := Option.bind_eq_some_iff.mp h
  refine ⟨notional, hnotional, ?_⟩
  by_contra hmore
  rw [if_pos (not_le.mp hmore)] at h
  cases h

/-- A price has four places, so that its product with a quantity cannot hide above a whole
ceiling in what the product with the limit has lost by rounding. -/
theorem quantity_mul_price_le {quantity : Int32} {limit notional exact : Decimal} {ceiling : ℕ}
    (hceiling : ceiling * 10 ^ 4 + 1 < 2 ^ 96) (hquantity : 0 ≤ quantity.toInt)
    (hnotional : (Decimal.ofInt32 quantity).mul limit = some notional)
    (hle : notional.value ≤ ceiling) (hprice : (exact.round 4).value ≤ limit.value) :
    quantity.toInt * (exact.round 4).value ≤ (ceiling : ℚ) := by
  have hpow : (0 : ℚ) < 10 ^ 4 := by norm_num
  by_contra hmore
  rw [not_le, Decimal.value_round, ← mul_div_assoc, lt_div_iff₀ hpow] at hmore
  have hunits : ((ceiling * 10 ^ 4 + 1 : ℕ) : ℤ) ≤
      quantity.toInt * Rounding.halfEven (exact.value * 10 ^ 4) := by
    have hlt : (ceiling * 10 ^ 4 : ℤ) <
        quantity.toInt * Rounding.halfEven (exact.value * 10 ^ 4) := by exact_mod_cast hmore
    push_cast
    omega
  have habove : Decimal.format.Rounded (((ceiling * 10 ^ 4 + 1 : ℕ) : ℤ) / 10 ^ 4 : ℚ)
      (((ceiling * 10 ^ 4 + 1 : ℕ) : ℤ) / 10 ^ 4) := by
    apply Rounding.Format.rounded_of_exact (p := 4)
    · rfl
    · rw [Nat.abs_cast]
      exact_mod_cast hceiling
    · decide
  have hexact : (((ceiling * 10 ^ 4 + 1 : ℕ) : ℤ) / 10 ^ 4 : ℚ) ≤
      (Decimal.ofInt32 quantity).value * limit.value := by
    rw [Decimal.value_ofInt32]
    calc
      (((ceiling * 10 ^ 4 + 1 : ℕ) : ℤ) / 10 ^ 4 : ℚ) ≤
          (quantity.toInt * Rounding.halfEven (exact.value * 10 ^ 4) : ℤ) / 10 ^ 4 :=
        div_le_div_of_nonneg_right (by exact_mod_cast hunits) hpow.le
      _ = quantity.toInt * (exact.round 4).value := by
        rw [Decimal.value_round, ← mul_div_assoc]
        push_cast
        rfl
      _ ≤ quantity.toInt * limit.value :=
        mul_le_mul_of_nonneg_left hprice (by exact_mod_cast hquantity)
  have hrounded := (habove.mono (Decimal.mul_rounded hnotional) hexact).trans hle
  rw [div_le_iff₀ hpow] at hrounded
  have hcast : ((ceiling * 10 ^ 4 + 1 : ℕ) : ℤ) ≤ ceiling * 10 ^ 4 := by exact_mod_cast hrounded
  omega

theorem Winner.buy_notional_le {order : OrderIntent} {quotes : List VenueQuote}
    {policy : BestExecutionPolicy} {proposal : RouteProposal} {winner : VenueEvaluation}
    {ceiling : ℕ} (hceiling : policy.maxNotionalUsd.value = ceiling)
    (hsmall : ceiling * 10 ^ 4 + 1 < 2 ^ 96) (h : Winner order quotes policy proposal winner)
    (hpassed : evaluateOrder order policy = some []) (hside : order.side = .buy)
    (hquantity : 0 ≤ order.quantity.toInt) :
    order.quantity.toInt * proposal.cost.projectedPrice.value ≤ policy.maxNotionalUsd.value := by
  obtain ⟨quote, _, hquote⟩ := h.eligible.1
  have hevaluated := evaluateVenue_eq_some hquote
  obtain ⟨_, _, _, exact, _, _, _, _, hprice⟩ := hevaluated.cost.price
  obtain ⟨notional, hnotional, hle⟩ := notional_le hpassed
  have hlimit := (hevaluated.permitted h.eligible.2).limit
  unfold throughLimit at hlimit
  rw [if_pos hside, decide_eq_false_iff_not, not_lt, hprice] at hlimit
  rw [hceiling] at hle ⊢
  rw [h.cost, hprice]
  exact quantity_mul_price_le hsmall hquantity hnotional hle hlimit

end Fcmr.OrderRouting
