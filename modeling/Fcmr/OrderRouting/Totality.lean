import Fcmr.OrderRouting.Shortfall

/-! When the evaluation of an order is total: which of its operations can overflow at all, and
on what numbers they do. -/
namespace Fcmr.OrderRouting

open DotNet BestExecutionEvaluator Decimal

/-- Every operation has a result, and `Plan` an outcome for whoever proposes. -/
structure Total (order : OrderIntent) (quotes : List VenueQuote) (policy : BestExecutionPolicy) :
    Prop where
  ceiling : (evaluateOrder order policy).isSome
  venues : ∀ quote ∈ quotes, ∃ evaluation, evaluateVenue order quote policy = some evaluation ∧
    evaluation.liquidityRationale.isSome
  outcome : ∀ proposedBy proposalId, isNullOrWhiteSpace (some proposedBy) = false →
    (RoutePlanner.plan order quotes policy proposedBy proposalId).isSome

def rateValue (order : OrderIntent) (quote : VenueQuote) : ℚ :=
  if quote.displayedLiquidity ≤ 0 then nearest (maxValue.value / 1000000)
  else roundTo 6 (nearest (order.quantity.toInt / quote.displayedLiquidity.toInt))

def crossingValue (quote : VenueQuote) : ℚ :=
  if quote.midPrice.value = 0 then 0
  else roundTo 2 (nearest (nearest (nearest (quote.spread.value / 2) / quote.midPrice.value) *
    10000))

def impactValue (order : OrderIntent) (quote : VenueQuote) (policy : BestExecutionPolicy) : ℚ :=
  roundTo 2 (nearest (policy.impactCoefficientBps.value * min (rateValue order quote) 1))

def executionValue (order : OrderIntent) (quote : VenueQuote) (policy : BestExecutionPolicy) : ℚ :=
  nearest ((if quote.isDark then 0 else crossingValue quote) + impactValue order quote policy)

def moveValue (order : OrderIntent) (quote : VenueQuote) (policy : BestExecutionPolicy) : ℚ :=
  nearest (nearest (executionValue order quote policy + quote.feeBps.value) / 10000)

structure QuoteInRange (order : OrderIntent) (quote : VenueQuote) (policy : BestExecutionPolicy) :
    Prop where
  spread : quote.midPrice.value ≠ 0 →
    InRange (quote.spread.value / quote.midPrice.value * 10000)
  total : InRange (executionValue order quote policy + quote.feeBps.value)
  price : InRange (quote.midPrice.value *
    nearest (1 + order.side.sign * moveValue order quote policy))
  shortfall : InRange (nearest (moveValue order quote policy * order.arrivalMidPrice.value) *
    order.quantity.toInt)

namespace BestExecutionEvaluator

variable {order : OrderIntent} {quote : VenueQuote} {policy : BestExecutionPolicy}

theorem value_two : (Decimal.literal 2 0).value = 2 := by simp [Decimal.literal, Decimal.value]

theorem value_million : (Decimal.literal 1000000 0).value = 1000000 := by
  simp [Decimal.literal, Decimal.value]

theorem inRange_of_scaled {x : ℚ} (h : InRange (x * 10000)) : InRange x := by
  apply h.of_abs_le
  rw [abs_mul]
  exact le_mul_of_one_le_right (abs_nonneg x) (by norm_num)

theorem bps_isSome_iff {left right : Decimal} (h : right.value ≠ 0) :
    ((left.div right).bind (·.mul tenThousand)).isSome ↔
      InRange (left.value / right.value * 10000) := by
  have hplaces := inRange_nearest_mul (x := left.value / right.value) (show 4 ≤ 28 by decide)
  have hten : (10 : ℚ) ^ 4 = 10000 := by norm_num
  rw [hten] at hplaces
  constructor
  · intro hsome
    obtain ⟨product, hproduct⟩ := Option.isSome_iff_exists.mp hsome
    obtain ⟨ratio, hratio, hproduct⟩ := Option.bind_eq_some_iff.mp hproduct
    have hrange := mul_isSome_iff.mp (Option.isSome_of_eq_some hproduct)
    rw [value_of_div hratio, value_tenThousand] at hrange
    exact hplaces.mp hrange
  · intro hrange
    obtain ⟨ratio, hratio, hvalue⟩ := div_of_inRange h (inRange_of_scaled hrange)
    rw [hratio, Option.bind_some, mul_isSome_iff, hvalue, value_tenThousand]
    exact hplaces.mpr hrange

theorem spreadBps_isSome_iff : (spreadBps quote).isSome ↔ (quote.midPrice.value ≠ 0 →
    InRange (quote.spread.value / quote.midPrice.value * 10000)) := by
  unfold spreadBps
  by_cases hmid : quote.midPrice.value = 0
  · simp [hmid]
  · rw [if_neg hmid, ← bps_isSome_iff hmid]
    cases quote.spread.div quote.midPrice with
    | none => simp [hmid]
    | some ratio => cases hmul : ratio.mul tenThousand <;> simp [hmid, hmul]

theorem inRange_half (quote : VenueQuote) : InRange (quote.spread.value / 2) := by
  apply (inRange_value quote.spread).of_abs_le
  rw [abs_div, abs_two]
  exact half_le_self (abs_nonneg _)

theorem half_ratio_le (hmid : quote.midPrice.value ≠ 0)
    (h : InRange (quote.spread.value / quote.midPrice.value * 10000)) :
    |nearest (quote.spread.value / 2) / quote.midPrice.value| ≤ (5 * 10 ^ 24 : ℕ) := by
  have hleast := le_abs_value hmid
  have hpos : 0 < |quote.midPrice.value| := abs_pos.mpr hmid
  unfold InRange at h
  rw [abs_mul, abs_div, abs_of_pos (show (0 : ℚ) < 10000 by norm_num), div_mul_eq_mul_div,
    div_lt_iff₀ hpos] at h
  have hround := abs_rounded_sub_le (rounded_nearest (inRange_half quote))
  rw [abs_div, abs_two] at hround
  have htri := abs_sub_abs_le_abs_sub (nearest (quote.spread.value / 2)) (quote.spread.value / 2)
  rw [abs_div, abs_two] at htri
  rw [abs_div, div_le_iff₀ hpos]
  push_cast
  linarith

theorem halfSpreadBps_eq_some (h : quote.midPrice.value ≠ 0 →
    InRange (quote.spread.value / quote.midPrice.value * 10000)) :
    ∃ crossing, halfSpreadBps quote = some crossing ∧ crossing.value = crossingValue quote ∧
      |crossing.value| ≤ (5 * 10 ^ 28 : ℕ) := by
  unfold halfSpreadBps crossingValue
  by_cases hmid : quote.midPrice.value = 0
  · rw [if_pos hmid, if_pos hmid]
    refine ⟨_, rfl, Decimal.value_zero, ?_⟩
    rw [Decimal.value_zero, abs_zero]
    positivity
  rw [if_neg hmid, if_neg hmid]
  have hhalfRange := inRange_half quote
  rw [← value_two] at hhalfRange
  obtain ⟨half, hhalf, hhalfValue⟩ := div_of_inRange (value_two ▸ two_ne_zero) hhalfRange
  have hratio := half_ratio_le hmid (h hmid)
  rw [← value_two, ← hhalfValue] at hratio
  obtain ⟨ratio, hratioSome, hratioValue, hratioLe⟩ := div_of_le_nat (by norm_num) hmid hratio
  have hproduct : |ratio.value * tenThousand.value| ≤ (5 * 10 ^ 28 : ℕ) := by
    rw [abs_mul, value_tenThousand, abs_of_pos (show (0 : ℚ) < 10000 by norm_num)]
    push_cast at hratioLe ⊢
    linarith
  obtain ⟨product, hmul, hvalue, hproductLe⟩ := mul_of_le_nat (by norm_num) hproduct
  refine ⟨product.round 2, ?_, ?_, ?_⟩
  · simp only [hhalf, hratioSome, hmul, Option.bind_eq_bind, Option.bind_some]
    rfl
  · rw [value_roundTo, hvalue, hratioValue, hhalfValue, value_two, value_tenThousand]
  · exact abs_round_le _ hproductLe

theorem value_maxValue : maxValue.value = 79228162514264337593543950335 := by
  simp [maxValue, Decimal.literal, Decimal.value]

theorem participation_eq_some (order : OrderIntent) (quote : VenueQuote) :
    ∃ rate, participation order quote = some rate ∧ rate.value = rateValue order quote := by
  unfold participation rateValue
  split
  · have hrange : InRange (maxValue.value / (Decimal.literal 1000000 0).value) := by
      apply inRange_of_le_nat (show 10 ^ 24 < 2 ^ 96 by norm_num)
      rw [value_maxValue, value_million]
      norm_num
    have hmillion : (Decimal.literal 1000000 0).value ≠ 0 := by
      rw [value_million]
      norm_num
    obtain ⟨rate, hrate, hvalue⟩ := div_of_inRange hmillion hrange
    rw [value_million] at hvalue
    exact ⟨rate, hrate, hvalue⟩
  · rename_i hliquidity
    have hpos : (1 : ℚ) ≤ quote.displayedLiquidity.toInt := by
      have hlt := Int32.lt_iff_toInt_lt.mp (Int32.not_le.mp hliquidity)
      exact_mod_cast hlt
    rw [← value_ofInt32] at hpos
    have hrange : InRange ((Decimal.ofInt32 order.quantity).value /
        (Decimal.ofInt32 quote.displayedLiquidity).value) := by
      apply (inRange_value (.ofInt32 order.quantity)).of_abs_le
      rw [abs_div, abs_of_pos (zero_lt_one.trans_le hpos)]
      exact div_le_self (abs_nonneg _) hpos
    obtain ⟨rate, hrate, hvalue⟩ := div_of_inRange (by linarith) hrange
    rw [value_ofInt32, value_ofInt32] at hvalue
    refine ⟨rate.round 6, ?_, ?_⟩
    · rw [hrate]
      rfl
    · rw [value_roundTo, hvalue]

theorem rateValue_nonneg (hquantity : 0 < order.quantity.toInt) : 0 ≤ rateValue order quote := by
  have hquantity' : (0 : ℚ) ≤ order.quantity.toInt := by exact_mod_cast hquantity.le
  unfold rateValue
  split
  · apply nearest_nonneg
    rw [value_maxValue]
    norm_num
  · rename_i hliquidity
    have hliquidity' : (0 : ℚ) ≤ quote.displayedLiquidity.toInt := by
      exact_mod_cast (Int32.lt_iff_toInt_lt.mp (Int32.not_le.mp hliquidity)).le
    exact roundTo_nonneg 6 (nearest_nonneg (div_nonneg hquantity' hliquidity'))

theorem value_impactCoefficientBps :
    BestExecutionPolicy.default.impactCoefficientBps.value = 50 := by
  simp [BestExecutionPolicy.default, Decimal.literal, Decimal.value]

theorem impact_eq_some (quote : VenueQuote) (hquantity : 0 < order.quantity.toInt) {rate : Decimal}
    (hrate : rate.value = rateValue order quote) :
    ∃ impact, BestExecutionPolicy.default.impactCoefficientBps.mul (rate.min one) = some impact ∧
      (impact.round 2).value = impactValue order quote .default ∧
      |(impact.round 2).value| ≤ (50 : ℕ) := by
  have hmin : (rate.min one).value = min (rateValue order quote) 1 := by
    rw [Decimal.value_min, hrate, value_one]
  have hbound : |(50 : ℚ) * min (rateValue order quote) 1| ≤ (50 : ℕ) := by
    have hnonneg : 0 ≤ min (rateValue order quote) 1 :=
      le_min (rateValue_nonneg hquantity) zero_le_one
    rw [abs_of_nonneg (by linarith)]
    have hle := min_le_right (rateValue order quote) 1
    push_cast
    linarith
  rw [← hmin, ← value_impactCoefficientBps] at hbound
  obtain ⟨impact, himpact, hvalue, himpactLe⟩ := mul_of_le_nat (by norm_num) hbound
  refine ⟨impact, himpact, ?_, ?_⟩
  · unfold impactValue
    rw [value_roundTo, hvalue, hmin]
  · exact abs_round_le _ himpactLe

theorem totalBps_eq (hquantity : 0 < order.quantity.toInt)
    (h : quote.midPrice.value ≠ 0 → InRange (quote.spread.value / quote.midPrice.value * 10000)) :
    ∃ execution : Decimal, execution.value = executionValue order quote .default ∧
      totalBps order quote .default = execution.add quote.feeBps := by
  obtain ⟨rate, hrate, hrateValue⟩ := participation_eq_some order quote
  obtain ⟨crossing, hcrossing, hcrossingValue, hcrossingLe⟩ := halfSpreadBps_eq_some h
  obtain ⟨impact, himpact, himpactValue, himpactLe⟩ := impact_eq_some quote hquantity hrateValue
  have hspread : (if quote.isDark then Decimal.zero else crossing).value =
      if quote.isDark then 0 else crossingValue quote := by
    split
    · exact Decimal.value_zero
    · exact hcrossingValue
  have hsum : |(if quote.isDark then Decimal.zero else crossing).value +
      (impact.round 2).value| ≤ (6 * 10 ^ 28 : ℕ) := by
    have hspreadLe : |(if quote.isDark then Decimal.zero else crossing).value| ≤
        (5 * 10 ^ 28 : ℕ) := by
      split
      · rw [Decimal.value_zero, abs_zero]
        positivity
      · exact hcrossingLe
    have htri := abs_add_le (if quote.isDark then Decimal.zero else crossing).value
      (impact.round 2).value
    push_cast at himpactLe hspreadLe ⊢
    linarith
  obtain ⟨execution, hexecution, hvalue, _⟩ := add_of_le_nat (by norm_num) hsum
  rw [hspread, himpactValue] at hvalue
  refine ⟨execution, hvalue, ?_⟩
  unfold totalBps sumBps
  simp only [hrate, hcrossing, himpact, hexecution, Option.bind_eq_bind, Option.bind_some]

structure Priced (order : OrderIntent) (quote : VenueQuote) (total : Decimal) : Prop where
  price : ∃ signed move factor exact,
    (if order.side = .buy then one else minusOne).mul total = some signed ∧
      signed.div tenThousand = some move ∧ one.add move = some factor ∧
      quote.midPrice.mul factor = some exact
  shortfall : ∃ fraction perShare exact, total.div tenThousand = some fraction ∧
    fraction.mul order.arrivalMidPrice = some perShare ∧
      perShare.mul (.ofInt32 order.quantity) = some exact

theorem computeCost_isSome_iff : (computeCost order quote policy).isSome ↔
    ∃ total, totalBps order quote policy = some total ∧ Priced order quote total := by
  constructor
  · intro h
    obtain ⟨cost, hcost⟩ := Option.isSome_iff_exists.mp h
    have hcomputed := computeCost_eq_some hcost
    obtain ⟨signed, move, factor, exact, hsigned, hmove, hfactor, hexact, _⟩ := hcomputed.price
    obtain ⟨fraction, perShare, usd, hfraction, hperShare, husd, _⟩ := hcomputed.shortfall
    exact ⟨cost.totalCostBps, hcomputed.totalBps,
      ⟨signed, move, factor, exact, hsigned, hmove, hfactor, hexact⟩,
      ⟨fraction, perShare, usd, hfraction, hperShare, husd⟩⟩
  · rintro ⟨total, htotal, ⟨signed, move, factor, exact, hsigned, hmove, hfactor, hexact⟩,
      ⟨fraction, perShare, usd, hfraction, hperShare, husd⟩⟩
    unfold totalBps at htotal
    obtain ⟨rate, hrate, htotal⟩ := Option.bind_eq_some_iff.mp htotal
    obtain ⟨crossing, hcrossing, htotal⟩ := Option.bind_eq_some_iff.mp htotal
    obtain ⟨impact, himpact, htotal⟩ := Option.bind_eq_some_iff.mp htotal
    unfold computeCost
    simp only [hrate, hcrossing, himpact, Option.bind_eq_bind, Option.bind_some]
    split
    · rename_i hnone
      cases hnone.symm.trans htotal
    · rename_i total' htotal'
      obtain rfl := Option.some.inj (htotal'.symm.trans htotal)
      simp only [hsigned, hmove, hfactor, hexact, hfraction, hperShare, husd, Option.bind_some]
      rfl

theorem fraction_eq_some (total : Decimal) : ∃ fraction, total.div tenThousand = some fraction ∧
    fraction.value = nearest (total.value / 10000) ∧ |fraction.value| ≤ (10 ^ 25 : ℕ) := by
  have hle : |total.value / 10000| ≤ (10 ^ 25 : ℕ) := by
    have htotal := inRange_value total
    unfold InRange at htotal
    rw [abs_div, abs_of_pos (show (0 : ℚ) < 10000 by norm_num), div_le_iff₀ (by norm_num)]
    push_cast
    linarith
  have hnonzero : tenThousand.value ≠ 0 := by
    rw [value_tenThousand]
    norm_num
  rw [← value_tenThousand] at hle ⊢
  exact div_of_le_nat (by norm_num) hnonzero hle

theorem factor_eq_some (order : OrderIntent) (total : Decimal) : ∃ signed move factor,
    (if order.side = .buy then one else minusOne).mul total = some signed ∧
      signed.div tenThousand = some move ∧ one.add move = some factor ∧
      factor.value = nearest (1 + order.side.sign * nearest (total.value / 10000)) := by
  have hsign : (if order.side = .buy then one else minusOne).value = order.side.sign := by
    cases order.side with
    | buy => exact value_one
    | sell => exact value_minusOne
  have hrange : InRange ((if order.side = .buy then one else minusOne).value * total.value) := by
    apply (inRange_value total).of_abs_le
    rw [hsign, abs_mul, OrderSide.abs_sign, one_mul]
  obtain ⟨signed, hsigned, _⟩ := mul_of_inRange hrange
  obtain ⟨move, hmove, hmoveValue, hmoveLe⟩ := fraction_eq_some signed
  have hmoved : move.value = order.side.sign * nearest (total.value / 10000) := by
    rw [hmoveValue, value_signed hsigned, mul_div_assoc]
    cases order.side with
    | buy => rw [OrderSide.sign, one_mul, one_mul]
    | sell =>
      obtain ⟨fraction, hfraction, _⟩ := fraction_eq_some total
      have hrange := (div_isSome_iff.mp (Option.isSome_of_eq_some hfraction)).2
      rw [value_tenThousand] at hrange
      rw [OrderSide.sign, neg_one_mul, neg_one_mul, nearest_neg hrange]
  have hsum : |one.value + move.value| ≤ (10 ^ 26 : ℕ) := by
    have htri := abs_add_le one.value move.value
    rw [value_one, abs_one] at htri
    rw [value_one]
    push_cast at hmoveLe ⊢
    linarith
  obtain ⟨factor, hfactor, hvalue, _⟩ := add_of_le_nat (by norm_num) hsum
  rw [value_one, hmoved] at hvalue
  exact ⟨signed, move, factor, hsigned, hmove, hfactor, hvalue⟩

theorem priced_iff (hquantity : 0 < order.quantity.toInt) (total : Decimal) :
    Priced order quote total ↔
      InRange (quote.midPrice.value *
        nearest (1 + order.side.sign * nearest (total.value / 10000))) ∧
      InRange (nearest (nearest (total.value / 10000) * order.arrivalMidPrice.value) *
        order.quantity.toInt) := by
  obtain ⟨signed, move, factor, hsigned, hmove, hfactor, hfactorValue⟩ :=
    factor_eq_some order total
  obtain ⟨fraction, hfraction, hfractionValue, _⟩ := fraction_eq_some total
  rw [← hfactorValue, ← hfractionValue]
  constructor
  · rintro ⟨⟨signed', move', factor', exact, hsigned', hmove', hfactor', hexact⟩,
      ⟨fraction', perShare, usd, hfraction', hperShare, husd⟩⟩
    obtain rfl := Option.some.inj (hsigned.symm.trans hsigned')
    obtain rfl := Option.some.inj (hmove.symm.trans hmove')
    obtain rfl := Option.some.inj (hfactor.symm.trans hfactor')
    obtain rfl := Option.some.inj (hfraction.symm.trans hfraction')
    refine ⟨mul_isSome_iff.mp (Option.isSome_of_eq_some hexact), ?_⟩
    have hrange := mul_isSome_iff.mp (Option.isSome_of_eq_some husd)
    rwa [value_of_mul hperShare, value_ofInt32] at hrange
  · rintro ⟨hprice, husd⟩
    have hone : (1 : ℚ) ≤ |(order.quantity.toInt : ℚ)| := by
      rw [abs_of_pos (by exact_mod_cast hquantity)]
      exact_mod_cast hquantity
    obtain ⟨exact, hexact, _⟩ := mul_of_inRange hprice
    obtain ⟨perShare, hperShare, hvalue⟩ := mul_of_inRange (husd.of_nearest_mul hone)
    rw [← hvalue, ← value_ofInt32] at husd
    obtain ⟨usd, husd, _⟩ := mul_of_inRange husd
    exact ⟨⟨signed, move, factor, exact, hsigned, hmove, hfactor, hexact⟩,
      ⟨fraction, perShare, usd, hfraction, hperShare, husd⟩⟩

theorem participationBreaches_isSome {cost : CostBreakdown}
    (h : Computed order quote .default cost) :
    (participationBreaches cost quote .default).isSome := by
  have htolerated : (percentText BestExecutionPolicy.default.maxParticipationRate).isSome := by
    apply percentText_isSome
    simp only [BestExecutionPolicy.default, Decimal.literal, Decimal.value]
    norm_num
  obtain ⟨permitted, hpermitted⟩ := Option.isSome_iff_exists.mp htolerated
  obtain ⟨observed, hobserved⟩ := Option.isSome_iff_exists.mp
    (percentText_isSome (abs_participation_le h.participation))
  unfold participationBreaches
  split
  · rw [hpermitted, hobserved]
    rfl
  · rfl

theorem evaluateVenue_isSome_iff (hquantity : 0 < order.quantity.toInt) :
    (evaluateVenue order quote .default).isSome ↔ QuoteInRange order quote .default := by
  constructor
  · intro h
    obtain ⟨evaluation, hevaluation⟩ := Option.isSome_iff_exists.mp h
    unfold evaluateVenue at hevaluation
    obtain ⟨cost, hcost, hevaluation⟩ := Option.bind_eq_some_iff.mp hevaluation
    obtain ⟨participation, _, hevaluation⟩ := Option.bind_eq_some_iff.mp hevaluation
    obtain ⟨spread, hspread, _⟩ := Option.bind_eq_some_iff.mp hevaluation
    unfold spreadBreaches at hspread
    obtain ⟨bps, hbps, _⟩ := Option.bind_eq_some_iff.mp hspread
    have hrange := spreadBps_isSome_iff.mp (Option.isSome_of_eq_some hbps)
    obtain ⟨total, htotal, hpriced⟩ :=
      computeCost_isSome_iff.mp (Option.isSome_of_eq_some hcost)
    obtain ⟨execution, hexecution, heq⟩ := totalBps_eq hquantity hrange
    rw [heq] at htotal
    have htotalValue := value_of_add htotal
    have htotalRange := add_isSome_iff.mp (Option.isSome_of_eq_some htotal)
    rw [hexecution] at htotalValue htotalRange
    obtain ⟨hprice, husd⟩ := (priced_iff hquantity total).mp hpriced
    rw [htotalValue] at hprice husd
    exact ⟨hrange, htotalRange, hprice, husd⟩
  · intro h
    obtain ⟨execution, hexecution, heq⟩ := totalBps_eq hquantity h.spread
    obtain ⟨total, htotal, htotalValue⟩ := add_of_inRange (hexecution ▸ h.total)
    rw [hexecution] at htotalValue
    have hpriced : Priced order quote total := by
      rw [priced_iff hquantity, htotalValue]
      exact ⟨h.price, h.shortfall⟩
    obtain ⟨cost, hcost⟩ := Option.isSome_iff_exists.mp
      (computeCost_isSome_iff.mpr ⟨total, heq.trans htotal, hpriced⟩)
    obtain ⟨breaches, hbreaches⟩ := Option.isSome_iff_exists.mp
      (participationBreaches_isSome (computeCost_eq_some hcost))
    obtain ⟨bps, hbps⟩ := Option.isSome_iff_exists.mp (spreadBps_isSome_iff.mpr h.spread)
    have hspreadSome : (spreadBreaches quote .default).isSome := by
      unfold spreadBreaches
      rw [hbps, Option.bind_eq_bind, Option.bind_some]
      split <;> rfl
    obtain ⟨spread, hspread⟩ := Option.isSome_iff_exists.mp hspreadSome
    unfold evaluateVenue
    rw [hcost]
    simp only [hbreaches, hspread, Option.bind_eq_bind, Option.bind_some]
    rfl

end BestExecutionEvaluator

/-- The notional is in range, and so is every quote. -/
structure OrderInRange (order : OrderIntent) (quotes : List VenueQuote)
    (policy : BestExecutionPolicy) : Prop where
  notional : InRange (order.quantity.toInt * order.limitPrice.value)
  quotes : ∀ quote ∈ quotes, QuoteInRange order quote policy

theorem evaluateOrder_isSome_iff {order : OrderIntent} {policy : BestExecutionPolicy} :
    (evaluateOrder order policy).isSome ↔
      InRange (order.quantity.toInt * order.limitPrice.value) := by
  have hnotional : ((Decimal.ofInt32 order.quantity).mul order.limitPrice).isSome ↔
      InRange ((Decimal.ofInt32 order.quantity).value * order.limitPrice.value) :=
    mul_isSome_iff
  rw [value_ofInt32] at hnotional
  rw [← hnotional]
  unfold evaluateOrder OrderIntent.notionalUsd
  cases (Decimal.ofInt32 order.quantity).mul order.limitPrice with
  | none => simp
  | some notional =>
    simp only [Option.bind_eq_bind, Option.bind_some, Option.isSome_some, iff_true]
    split <;> rfl

theorem evaluable_iff {order : OrderIntent} {quotes : List VenueQuote}
    (hquantity : 0 < order.quantity.toInt) :
    Evaluable order quotes .default ↔ OrderInRange order quotes .default := by
  unfold Evaluable
  simp only [evaluateOrder_isSome_iff, evaluateVenue_isSome_iff hquantity]
  exact ⟨fun h => ⟨h.1, h.2⟩, fun h => ⟨h.notional, h.quotes⟩⟩

theorem total_iff {order : OrderIntent} {quotes : List VenueQuote}
    (hquantity : 0 < order.quantity.toInt) :
    Total order quotes .default ↔ OrderInRange order quotes .default := by
  rw [← evaluable_iff hquantity]
  constructor
  · intro h
    refine ⟨h.ceiling, fun quote hquote => ?_⟩
    obtain ⟨evaluation, hevaluation, _⟩ := h.venues quote hquote
    exact Option.isSome_of_eq_some hevaluation
  · intro h
    refine ⟨h.1, fun quote hquote => ?_, fun proposedBy proposalId hidentity => ?_⟩
    · obtain ⟨evaluation, hevaluation⟩ := Option.isSome_iff_exists.mp (h.2 quote hquote)
      exact ⟨evaluation, hevaluation, liquidityRationale_isSome (evaluateVenue_eq_some hevaluation)⟩
    · obtain ⟨outcome, hplan, _⟩ := RoutePlanner.plan_ended proposalId hidentity h
      exact Option.isSome_of_eq_some hplan

end Fcmr.OrderRouting
