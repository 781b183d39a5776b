import Fcmr.OrderRouting.Shortfall

/-! Quotes with numbers that no market shows. Displayed liquidity is the only one of them
that the policy always catches. -/
namespace Fcmr.OrderRouting

open DotNet BestExecutionEvaluator RoutePlanner

structure WellFormed (evaluation : VenueEvaluation) : Prop where
  mid : 0 < evaluation.quote.midPrice.value
  spread : 0 ≤ evaluation.quote.spread.value
  liquidity : 0 < evaluation.quote.displayedLiquidity
  price : 0 < evaluation.cost.projectedPrice.value

/-- The numbers that the policy may let through. -/
def Malformed (evaluation : VenueEvaluation) : Prop :=
  evaluation.quote.midPrice.value ≤ 0 ∨ evaluation.quote.spread.value < 0 ∨
    evaluation.cost.projectedPrice.value ≤ 0

/-- Behind every malformed quote that breaches nothing there is a proper one that is
preferred to it, by cost, by venue code or else by its place. -/
def Outdone (order : OrderIntent) (quotes : List VenueQuote) (policy : BestExecutionPolicy) :
    Prop :=
  ∀ before evaluation after,
    quotes.map (evaluateVenue order · policy) = before ++ some evaluation :: after →
    evaluation.breaches = [] → Malformed evaluation →
    ∃ other, other.breaches = [] ∧ ¬Malformed other ∧
      (some other ∈ before ∧ Preferred other evaluation ∨
        some other ∈ after ∧ ¬Preferred evaluation other)

/-- The winner is well-formed, if there is one. -/
def WinsWellFormed (outcome : Option RoutingOutcome) : Prop :=
  ∀ proposal considered winner, outcome = some (.proposed proposal considered) →
    considered.find? (·.isEligible) = some winner → WellFormed winner

variable {order : OrderIntent} {quotes : List VenueQuote} {proposedBy : Text}
  {proposalId : Option Text}

theorem liquidity_pos {quote : VenueQuote} {evaluation : VenueEvaluation}
    (h : Evaluated order quote .default evaluation) (hnone : evaluation.breaches = []) :
    0 < evaluation.quote.displayedLiquidity := by
  rw [h.quote_eq]
  by_contra hliquidity
  have hparticipation := h.cost.participation
  unfold participation at hparticipation
  rw [if_pos (Int32.not_lt.mp hliquidity)] at hparticipation
  have hone : one.value ≤ evaluation.cost.participationRate.value := by
    apply (Decimal.rounded_self one).mono (Decimal.div_rounded hparticipation)
    simp only [one, Decimal.maxValue, Decimal.literal, Decimal.value]
    norm_num
  have hmax := hone.trans (h.permitted hnone).participation
  simp only [one, BestExecutionPolicy.default, Decimal.literal, Decimal.value] at hmax
  norm_num at hmax

theorem wellFormed_iff {quote : VenueQuote} {evaluation : VenueEvaluation}
    (h : Evaluated order quote .default evaluation) (hnone : evaluation.breaches = []) :
    WellFormed evaluation ↔ ¬Malformed evaluation := by
  unfold Malformed
  simp only [not_or, not_le, not_lt]
  exact ⟨fun hwell => ⟨hwell.mid, hwell.spread, hwell.price⟩,
    fun hproper => ⟨hproper.1, hproper.2.1, liquidity_pos h hnone, hproper.2.2⟩⟩

theorem Winner.wellFormed_iff {proposal : RouteProposal} {winner : VenueEvaluation}
    (h : Winner order quotes .default proposal winner) : WellFormed winner ↔ ¬Malformed winner := by
  obtain ⟨quote, _, hquote⟩ := h.eligible.1
  exact OrderRouting.wellFormed_iff (evaluateVenue_eq_some hquote) h.eligible.2

theorem breachFree_of_mem {policy : BestExecutionPolicy} {evaluation : VenueEvaluation}
    (h : some evaluation ∈ quotes.map (evaluateVenue order · policy))
    (hnone : evaluation.breaches = []) : BreachFree order quotes policy evaluation :=
  ⟨List.mem_map.mp h, hnone⟩

theorem Winner.outdone {proposal : RouteProposal} {winner : VenueEvaluation}
    (h : Winner order quotes .default proposal winner) (hwinner : ¬Malformed winner) :
    Outdone order quotes .default := by
  intro before evaluation after hsplit hnone hmalformed
  have hevaluation : BreachFree order quotes .default evaluation :=
    breachFree_of_mem (by rw [hsplit]; simp) hnone
  refine ⟨winner, h.eligible.2, hwinner, ?_⟩
  have hne : evaluation ≠ winner := by
    rintro rfl
    exact hwinner hmalformed
  obtain ⟨before', after', hsplit', hfirst⟩ := h.first
  rw [hsplit'] at hsplit
  rcases List.append_eq_append_iff.mp hsplit with ⟨between, rfl, hrest⟩ | ⟨between, rfl, hrest⟩
  · left
    cases between with
    | nil => exact absurd (Option.some.inj (List.cons.inj hrest).1).symm hne
    | cons _ between =>
      obtain ⟨rfl, _⟩ := List.cons.inj hrest
      exact ⟨by simp, h.preferred evaluation hevaluation⟩
  · right
    cases between with
    | nil => exact absurd (Option.some.inj (List.cons.inj hrest).1) hne
    | cons _ between =>
      obtain ⟨rfl, hafter⟩ := List.cons.inj hrest
      exact ⟨by rw [hafter]; simp, hfirst evaluation (by simp) hnone⟩

theorem Winner.not_malformed {proposal : RouteProposal} {winner : VenueEvaluation}
    (h : Winner order quotes .default proposal winner) (houtdone : Outdone order quotes .default) :
    ¬Malformed winner := by
  intro hmalformed
  obtain ⟨before, after, hsplit, hfirst⟩ := h.first
  obtain ⟨other, hnone, _, ⟨hmem, hpreferred⟩ | ⟨hmem, hpreferred⟩⟩ :=
    houtdone before winner after hsplit h.eligible.2 hmalformed
  · exact hfirst other hmem hnone hpreferred
  · exact hpreferred (h.preferred other (breachFree_of_mem (by rw [hsplit]; simp [hmem]) hnone))

structure Admitted (order : OrderIntent) (quote : VenueQuote) (policy : BestExecutionPolicy)
    (cost : CostBreakdown) : Prop where
  approved : quote.venueCode ∈ policy.approvedVenues
  size : ¬(quote.isDark ∧ order.quantity < policy.darkPoolMinimumQuantity)
  participation : cost.participationRate.value ≤ policy.maxParticipationRate.value

def Tolerated (quote : VenueQuote) (policy : BestExecutionPolicy) : Prop :=
  ∀ bps, spreadBps quote = some bps → bps.value ≤ policy.maxSpreadBps.value

/-- What the policy asks besides of a malformed quote, by the signs of its mid and its spread. -/
inductive Escapes (order : OrderIntent) (quote : VenueQuote) (policy : BestExecutionPolicy)
    (cost : CostBreakdown) : Prop
  | priceless (mid : quote.midPrice.value = 0)
      (limit : 0 ≤ order.side.sign * order.limitPrice.value)
  | crossed (mid : 0 < quote.midPrice.value) (spread : quote.spread.value < 0)
      (limit : throughLimit order cost = false)
  | negative (mid : quote.midPrice.value < 0)
      (tolerated : quote.spread.value < 0 → Tolerated quote policy)
      (limit : throughLimit order cost = false)
  | givenAway (mid : 0 < quote.midPrice.value) (spread : 0 ≤ quote.spread.value)
      (tolerated : Tolerated quote policy) (price : cost.projectedPrice.value ≤ 0)
      (limit : throughLimit order cost = false)

theorem rounded_zero : Decimal.format.Rounded (0 : ℚ) 0 := by
  have hzero := Decimal.rounded_self .zero
  rwa [Decimal.value_zero] at hzero

theorem nonpos_of_rounded {x y : ℚ} (h : Decimal.format.Rounded x y) (hx : x ≤ 0) : y ≤ 0 :=
  h.mono rounded_zero hx

theorem nonneg_of_rounded {x y : ℚ} (h : Decimal.format.Rounded x y) (hx : 0 ≤ x) : 0 ≤ y :=
  rounded_zero.mono h hx

theorem round_nonpos {d : Decimal} (places : Nat) (h : d.value ≤ 0) : (d.round places).value ≤ 0 := by
  have hmono := Decimal.round_mono places (h.trans_eq Decimal.value_zero.symm)
  rwa [Decimal.value_round .zero, Decimal.value_zero, zero_mul, Rounding.halfEven_zero,
    Int.cast_zero, zero_div] at hmono

theorem throughLimit_iff {cost : CostBreakdown} : throughLimit order cost = false ↔
    order.side.sign * cost.projectedPrice.value ≤ order.side.sign * order.limitPrice.value := by
  unfold throughLimit
  cases order.side <;> simp [OrderSide.sign]

theorem tolerated_of_signs {quote : VenueQuote} {policy : BestExecutionPolicy}
    (hmax : 0 ≤ policy.maxSpreadBps.value) (h : quote.spread.value / quote.midPrice.value ≤ 0) :
    Tolerated quote policy := by
  intro bps hbps
  refine le_trans ?_ hmax
  unfold spreadBps at hbps
  split at hbps
  · cases hbps
    exact Decimal.value_zero.le
  · obtain ⟨ratio, hratio, hbps⟩ := Option.bind_eq_some_iff.mp hbps
    obtain ⟨scaled, hscaled, hbps⟩ := Option.bind_eq_some_iff.mp hbps
    cases hbps
    have hratio' := nonpos_of_rounded (Decimal.div_rounded hratio) h
    apply round_nonpos
    apply nonpos_of_rounded (Decimal.mul_rounded hscaled)
    rw [value_tenThousand]
    linarith

theorem tolerated_of_no_mid {quote : VenueQuote} {policy : BestExecutionPolicy}
    (hmax : 0 ≤ policy.maxSpreadBps.value) (h : quote.midPrice.value = 0) :
    Tolerated quote policy :=
  tolerated_of_signs hmax (by rw [h, div_zero])

theorem price_of_no_mid {quote : VenueQuote} {policy : BestExecutionPolicy} {cost : CostBreakdown}
    (h : Computed order quote policy cost) (hmid : quote.midPrice.value = 0) :
    cost.projectedPrice.value = 0 := by
  obtain ⟨_, _, _, exact, _, _, _, hexact, hprice⟩ := h.price
  have hrounded := Decimal.mul_rounded hexact
  rw [hmid, zero_mul] at hrounded
  rw [hprice, Decimal.value_round, hrounded.unique rounded_zero, zero_mul, Rounding.halfEven_zero,
    Int.cast_zero, zero_div]

theorem price_nonpos {quote : VenueQuote} {policy : BestExecutionPolicy} {cost : CostBreakdown}
    (h : Computed order quote policy cost)
    (hsigns : quote.midPrice.value ≤ 0 ∧ -10000 ≤ order.side.sign * cost.totalCostBps.value ∨
      0 ≤ quote.midPrice.value ∧ order.side.sign * cost.totalCostBps.value ≤ -10000) :
    cost.projectedPrice.value ≤ 0 := by
  obtain ⟨signed, move, factor, exact, hsigned, hmove, hfactor, hexact, hprice⟩ := h.price
  have hmoved := Decimal.div_rounded hmove
  rw [value_tenThousand, value_signed hsigned] at hmoved
  have hminus := Decimal.rounded_self minusOne
  rw [value_minusOne] at hminus
  have hfactored := Decimal.add_rounded hfactor
  rw [value_one] at hfactored
  rw [hprice]
  apply round_nonpos
  apply nonpos_of_rounded (Decimal.mul_rounded hexact)
  rcases hsigns with ⟨hmid, htotal⟩ | ⟨hmid, htotal⟩
  · have hleast : -1 ≤ move.value := hminus.mono hmoved (by linarith)
    exact mul_nonpos_of_nonpos_of_nonneg hmid (nonneg_of_rounded hfactored (by linarith))
  · have hmost : move.value ≤ -1 := hmoved.mono hminus (by linarith)
    exact mul_nonpos_of_nonneg_of_nonpos hmid (nonpos_of_rounded hfactored (by linarith))

theorem breachFree_iff {quote : VenueQuote} {policy : BestExecutionPolicy}
    {evaluation : VenueEvaluation} (h : evaluateVenue order quote policy = some evaluation) :
    evaluation.breaches = [] ↔ Admitted order quote policy evaluation.cost ∧
      Tolerated quote policy ∧ throughLimit order evaluation.cost = false := by
  constructor
  · intro hnone
    have hpermitted := (evaluateVenue_eq_some h).permitted hnone
    exact ⟨⟨hpermitted.approved, hpermitted.size, hpermitted.participation⟩, hpermitted.spread,
      hpermitted.limit⟩
  · rintro ⟨hadmitted, htolerated, hlimit⟩
    unfold evaluateVenue at h
    obtain ⟨cost, _, h⟩ := Option.bind_eq_some_iff.mp h
    obtain ⟨participation, hparticipation, h⟩ := Option.bind_eq_some_iff.mp h
    obtain ⟨spread, hspread, h⟩ := Option.bind_eq_some_iff.mp h
    cases h
    obtain ⟨bps, hbps, hspread⟩ := Option.bind_eq_some_iff.mp hspread
    rw [if_neg (not_lt.mpr (htolerated bps hbps))] at hspread
    rw [participationBreaches, if_neg (not_lt.mpr hadmitted.participation)] at hparticipation
    cases hspread
    cases hparticipation
    simp [venueBreaches, hadmitted.approved, darkPoolBreaches, hadmitted.size, limitBreaches, hlimit]

theorem malformed_breachFree_iff {quote : VenueQuote} {policy : BestExecutionPolicy}
    {evaluation : VenueEvaluation} (h : evaluateVenue order quote policy = some evaluation)
    (hmax : 0 ≤ policy.maxSpreadBps.value) :
    evaluation.breaches = [] ∧ Malformed evaluation ↔
      Admitted order quote policy evaluation.cost ∧ Escapes order quote policy evaluation.cost := by
  have hevaluated := evaluateVenue_eq_some h
  unfold Malformed
  rw [breachFree_iff h, hevaluated.quote_eq, and_assoc, and_congr_right_iff]
  intro _
  constructor
  · rintro ⟨⟨htolerated, hlimit⟩, hmalformed⟩
    rcases lt_trichotomy quote.midPrice.value 0 with hmid | hmid | hmid
    · exact .negative hmid (fun _ => htolerated) hlimit
    · rw [throughLimit_iff, price_of_no_mid hevaluated.cost hmid, mul_zero] at hlimit
      exact .priceless hmid hlimit
    · rcases lt_or_ge quote.spread.value 0 with hspread | hspread
      · exact .crossed hmid hspread hlimit
      · refine .givenAway hmid hspread htolerated ?_ hlimit
        rcases hmalformed with hnot | hnot | hprice
        · exact absurd hmid (not_lt.mpr hnot)
        · exact absurd hnot (not_lt.mpr hspread)
        · exact hprice
  · rintro (⟨hmid, hlimit⟩ | ⟨hmid, hspread, hlimit⟩ | ⟨hmid, htolerated, hlimit⟩ |
      ⟨hmid, hspread, htolerated, hprice, hlimit⟩)
    · have hprice := price_of_no_mid hevaluated.cost hmid
      refine ⟨⟨tolerated_of_no_mid hmax hmid, throughLimit_iff.mpr ?_⟩, .inl hmid.le⟩
      rwa [hprice, mul_zero]
    · exact ⟨⟨tolerated_of_signs hmax (div_nonpos_of_nonpos_of_nonneg hspread.le hmid.le), hlimit⟩,
        .inr (.inl hspread)⟩
    · refine ⟨⟨?_, hlimit⟩, .inl hmid.le⟩
      rcases lt_or_ge quote.spread.value 0 with hspread | hspread
      · exact htolerated hspread
      · exact tolerated_of_signs hmax (div_nonpos_of_nonneg_of_nonpos hspread hmid.le)
    · exact ⟨⟨htolerated, hlimit⟩, .inr (.inr hprice)⟩

theorem limit_of_nonpos {cost : CostBreakdown} (hprice : cost.projectedPrice.value ≤ 0)
    (hlimit : 0 < order.limitPrice.value) :
    throughLimit order cost = false ↔ order.side = .buy := by
  rw [throughLimit_iff]
  cases order.side with
  | buy =>
    simp only [OrderSide.sign, one_mul, iff_true]
    exact hprice.trans hlimit.le
  | sell =>
    simp only [OrderSide.sign, neg_one_mul, neg_le_neg_iff, reduceCtorEq, iff_false, not_le]
    exact hprice.trans_lt hlimit

/-- A malformed quote wins exactly where none is preferred to it that is proper. -/
theorem plan_wellFormed_iff :
    WinsWellFormed (plan order quotes .default proposedBy proposalId) ↔
      (isNullOrWhiteSpace (some proposedBy) = false → Evaluable order quotes .default →
        evaluateOrder order .default = some [] → Outdone order quotes .default) := by
  constructor
  · intro h hidentity hevaluable hpassed
    obtain ⟨outcome, hplan, hended, _⟩ := plan_ended proposalId hidentity hevaluable
    cases hended with
    | orderBreached hbreached hsome =>
      exact absurd (Option.some.inj (hbreached.symm.trans hpassed)) hsome
    | noVenue _ hnone =>
      intro before evaluation after hsplit hbreaches _
      exact absurd ⟨evaluation, breachFree_of_mem (by rw [hsplit]; simp) hbreaches⟩ hnone
    | selected _ hfound hwinner =>
      exact hwinner.outdone (hwinner.wellFormed_iff.mp (h _ _ _ hplan hfound))
  · intro h proposal considered winner hplan hfound
    obtain ⟨hidentity, hevaluable⟩ := evaluable_of_plan hplan
    obtain ⟨hpassed, winner', hfound', hwinner⟩ := plan_winner hplan
    obtain rfl := Option.some.inj (hfound.symm.trans hfound')
    exact hwinner.wellFormed_iff.mpr (hwinner.not_malformed (h hidentity hevaluable hpassed))

end Fcmr.OrderRouting
