import Fcmr.RouterDecisions.RoutingPlanner

/-! The preference behind a choice as one order: the indicated tier, then the tiers below
from the highest down, then those above from the lowest up, and the cheapest within a tier. -/
namespace Fcmr.RouterDecisions

open DotNet

namespace TierSelector

theorem value_inj {tier tier' : ModelTier} : tier.value = tier'.value ↔ tier = tier' := by
  cases tier <;> cases tier' <;> decide

/-- How far down the order of preference a tier stands. -/
def rank (indicated tier : ModelTier) : Nat :=
  if tier.value ≤ indicated.value then indicated.value - tier.value else 2 + tier.value

def preferenceKey (indicated : ModelTier) (entry : TierPricing) : ℕ ×ₗ ℚ ×ₗ Text :=
  toLex (rank indicated entry.tier, costKey entry)

def reachable (ceiling : Decimal) (pricing : List TierPricing) : List TierPricing :=
  (pricing.filter (·.available)).filter fun entry => entry.costPerRequestUsd.value ≤ ceiling.value

theorem mem_reachable {ceiling : Decimal} {pricing : List TierPricing} {entry : TierPricing} :
    entry ∈ reachable ceiling pricing ↔ entry ∈ pricing ∧ Reachable ceiling entry :=
  mem_affordable

theorem rank_eq_zero {indicated tier : ModelTier} : rank indicated tier = 0 ↔ tier = indicated := by
  cases indicated <;> cases tier <;> decide

theorem rank_inj {indicated tier tier' : ModelTier} :
    rank indicated tier = rank indicated tier' ↔ tier = tier' := by
  cases indicated <;> cases tier <;> cases tier' <;> decide

theorem rank_below {indicated tier tier' : ModelTier} (h : tier.value < indicated.value)
    (h' : tier'.value < indicated.value) :
    rank indicated tier < rank indicated tier' ↔ tier'.value < tier.value := by
  unfold rank
  rw [if_pos h.le, if_pos h'.le]
  omega

theorem rank_above {indicated tier tier' : ModelTier} (h : indicated.value < tier.value)
    (h' : indicated.value < tier'.value) :
    rank indicated tier < rank indicated tier' ↔ tier.value < tier'.value := by
  unfold rank
  rw [if_neg (Nat.not_le_of_lt h), if_neg (Nat.not_le_of_lt h')]
  omega

theorem rank_lt_of_below {indicated tier tier' : ModelTier} (h : tier.value < indicated.value)
    (h' : indicated.value < tier'.value) : rank indicated tier < rank indicated tier' := by
  unfold rank
  rw [if_pos h.le, if_neg (Nat.not_le_of_lt h')]
  omega

theorem preferenceKey_lt {indicated : ModelTier} {entry entry' : TierPricing} :
    preferenceKey indicated entry < preferenceKey indicated entry' ↔
      rank indicated entry.tier < rank indicated entry'.tier ∨
        entry.tier = entry'.tier ∧ costKey entry < costKey entry' := by
  unfold preferenceKey
  rw [Prod.Lex.toLex_lt_toLex, rank_inj]

theorem pricingKey_lt {entry entry' : TierPricing} :
    pricingKey entry < pricingKey entry' ↔ entry.tier.value < entry'.tier.value ∨
      entry.tier = entry'.tier ∧ costKey entry < costKey entry' := by
  unfold pricingKey
  rw [Prod.Lex.toLex_lt_toLex, value_inj]

theorem belowKey_lt {entry entry' : TierPricing} :
    belowKey entry < belowKey entry' ↔ entry'.tier.value < entry.tier.value ∨
      entry.tier = entry'.tier ∧ costKey entry < costKey entry' := by
  unfold belowKey
  rw [Prod.Lex.toLex_lt_toLex]
  simp only [OrderDual.toDual_lt_toDual, OrderDual.toDual_inj, value_inj]

theorem preferenceKey_lt_of_tier {indicated : ModelTier} {entry entry' : TierPricing}
    (h : entry.tier = entry'.tier) :
    preferenceKey indicated entry < preferenceKey indicated entry' ↔ costKey entry < costKey entry' := by
  rw [preferenceKey_lt, h]
  simp

theorem argmin_indicated {affordable : List TierPricing} {indicated : ModelTier}
    {entry : TierPricing}
    (h : (affordable.filter fun entry => entry.tier = indicated).argmin costKey = some entry) :
    affordable.argmin (preferenceKey indicated) = some entry := by
  have htier : entry.tier = indicated := by simpa using (List.mem_filter.mp (List.argmin_mem h)).2
  rw [StableSort.argmin_congr costKey (preferenceKey indicated)] at h
  · refine StableSort.argmin_of_filter h fun other _ hother => ?_
    rw [preferenceKey_lt, rank_eq_zero.mpr htier]
    exact .inl (Nat.pos_of_ne_zero (mt rank_eq_zero.mp (by simpa using hother)))
  · intro a ha b hb
    simp only [List.mem_filter, decide_eq_true_eq] at ha hb
    exact (preferenceKey_lt_of_tier (ha.2.trans hb.2.symm)).symm

theorem argmin_below {affordable : List TierPricing} {indicated : ModelTier} {entry : TierPricing}
    (hnone : ∀ entry ∈ affordable, entry.tier ≠ indicated)
    (h : (affordable.filter fun entry => entry.tier.value < indicated.value).argmin belowKey =
      some entry) : affordable.argmin (preferenceKey indicated) = some entry := by
  have hbelow : entry.tier.value < indicated.value := by
    simpa using (List.mem_filter.mp (List.argmin_mem h)).2
  rw [StableSort.argmin_congr belowKey (preferenceKey indicated)] at h
  · refine StableSort.argmin_of_filter h fun other hmem hother => ?_
    have hne : other.tier.value ≠ indicated.value := fun h => hnone other hmem (value_inj.mp h)
    have hnot : ¬other.tier.value < indicated.value := by simpa using hother
    rw [preferenceKey_lt]
    exact .inl (rank_lt_of_below hbelow (by omega))
  · intro a ha b hb
    simp only [List.mem_filter, decide_eq_true_eq] at ha hb
    rw [belowKey_lt, preferenceKey_lt, rank_below ha.2 hb.2]

theorem argmin_above {affordable : List TierPricing} {indicated : ModelTier}
    (h : ∀ entry ∈ affordable, indicated.value < entry.tier.value) :
    affordable.argmin pricingKey = affordable.argmin (preferenceKey indicated) := by
  apply StableSort.argmin_congr
  intro a ha b hb
  rw [pricingKey_lt, preferenceKey_lt, rank_above (h a ha) (h b hb)]

theorem choose_eq (affordable : List TierPricing) (indicated : ModelTier) :
    choose affordable indicated = affordable.argmin (preferenceKey indicated) := by
  unfold choose
  simp only [StableSort.head?_sortBy]
  cases hat : (affordable.filter fun entry => entry.tier = indicated).argmin costKey with
  | some entry => exact (argmin_indicated hat).symm
  | none =>
    have hnone : ∀ entry ∈ affordable, entry.tier ≠ indicated := by
      simpa [List.filter_eq_nil_iff] using List.argmin_eq_none.mp hat
    cases hbelow : (affordable.filter fun entry =>
        entry.tier.value < indicated.value).argmin belowKey with
    | some entry => exact (argmin_below hnone hbelow).symm
    | none =>
      refine argmin_above fun entry hentry => ?_
      have hnot : ∀ entry ∈ affordable, indicated.value ≤ entry.tier.value := by
        simpa [List.filter_eq_nil_iff] using List.argmin_eq_none.mp hbelow
      have hne : entry.tier.value ≠ indicated.value :=
        fun h => hnone entry hentry (value_inj.mp h)
      have hle := hnot entry hentry
      omega

theorem select_chosen (complexityScore : Double) (ceiling : Decimal) {pricing : List TierPricing}
    (h : pricing ≠ []) :
    (∃ chosen, choose (reachable ceiling pricing) (ComplexityScorer.indicatedTier complexityScore) =
        some chosen ∧ select complexityScore ceiling pricing =
          some (routed complexityScore ceiling pricing chosen
            (ComplexityScorer.indicatedTier complexityScore))) ∨
    choose (reachable ceiling pricing) (ComplexityScorer.indicatedTier complexityScore) = none ∧
      ∃ rationale, select complexityScore ceiling pricing =
        some (denied complexityScore ceiling pricing rationale) := by
  unfold select
  rw [if_neg h]
  dsimp only
  split
  · rename_i hnone
    right
    refine ⟨?_, _, rfl⟩
    rw [choose_eq_none, reachable, sortBy_head_eq_none.mp hnone]
    rfl
  split
  · rename_i hnone
    exact .inr ⟨hnone, _, rfl⟩
  · rename_i chosen hchosen
    exact .inl ⟨chosen, hchosen, rfl⟩

end TierSelector

namespace RoutingPlanner

def chosen (request : RoutingRequest) (catalog : List TierPricing) (policy : PolicySet) :
    Option TierPricing :=
  TierSelector.choose (TierSelector.reachable (effectiveCeiling request policy)
      (evaluation request catalog policy).eligible)
    (ComplexityScorer.indicatedTier (ComplexityScorer.score request.hints))

theorem chosen_mem {request : RoutingRequest} {catalog : List TierPricing} {policy : PolicySet}
    {entry : TierPricing} (h : chosen request catalog policy = some entry) :
    entry ∈ (evaluation request catalog policy).eligible ∧
      TierSelector.Reachable (effectiveCeiling request policy) entry :=
  TierSelector.mem_reachable.mp (TierSelector.choose_mem h)

theorem chosen_eq_none {request : RoutingRequest} {catalog : List TierPricing}
    {policy : PolicySet} : chosen request catalog policy = none ↔
      ∀ entry ∈ (evaluation request catalog policy).eligible,
        ¬TierSelector.Reachable (effectiveCeiling request policy) entry := by
  unfold chosen
  rw [TierSelector.choose_eq_none, List.eq_nil_iff_forall_not_mem]
  simp only [TierSelector.mem_reachable, not_and]

/-- The tier in which complexity places a request. -/
def indicatedTier (request : RoutingRequest) : ModelTier :=
  ComplexityScorer.indicatedTier (ComplexityScorer.score request.hints)

/-- An entry that comes first in the order of preference, among those within reach. -/
structure Preferred (request : RoutingRequest) (catalog : List TierPricing) (policy : PolicySet)
    (entry : TierPricing) : Prop where
  mem : entry ∈ (evaluation request catalog policy).eligible
  reachable : TierSelector.Reachable (effectiveCeiling request policy) entry
  first : ∀ other ∈ (evaluation request catalog policy).eligible,
    TierSelector.Reachable (effectiveCeiling request policy) other →
      TierSelector.preferenceKey (indicatedTier request) entry ≤
        TierSelector.preferenceKey (indicatedTier request) other

theorem preferred_of_chosen {request : RoutingRequest} {catalog : List TierPricing}
    {policy : PolicySet} {entry : TierPricing} (h : chosen request catalog policy = some entry) :
    Preferred request catalog policy entry := by
  obtain ⟨hmem, hreachable⟩ := chosen_mem h
  refine ⟨hmem, hreachable, fun other hother hwithin => ?_⟩
  unfold chosen at h
  rw [TierSelector.choose_eq] at h
  exact List.le_of_mem_argmin (TierSelector.mem_reachable.mpr ⟨hother, hwithin⟩) h

theorem Preferred.deployment_eq {request : RoutingRequest} {catalog : List TierPricing}
    {policy : PolicySet} {entry other : TierPricing} (h : Preferred request catalog policy entry)
    (h' : Preferred request catalog policy other) : entry.deployment = other.deployment := by
  have hkey := (h.first other h'.mem h'.reachable).antisymm (h'.first entry h.mem h.reachable)
  have hcost : costKey entry = costKey other := congrArg (·.2) (toLex_inj.mp hkey)
  exact congrArg (·.2) (toLex_inj.mp hcost)

theorem plan_chosen (request : RoutingRequest) {catalog : List TierPricing} (h : catalog ≠ [])
    (policy : PolicySet) :
    ((evaluation request catalog policy).eligible = [] ∧ chosen request catalog policy = none ∧
      plan request catalog policy = some (refused (ComplexityScorer.score request.hints) request
        (evaluation request catalog policy) catalog)) ∨
    ((evaluation request catalog policy).eligible ≠ [] ∧ chosen request catalog policy = none ∧
      ∃ rationale, plan request catalog policy = some (governed (TierSelector.denied
        (ComplexityScorer.score request.hints) (effectiveCeiling request policy)
        (evaluation request catalog policy).eligible rationale) request
        (evaluation request catalog policy))) ∨
    ∃ entry, chosen request catalog policy = some entry ∧
      plan request catalog policy = some (governed (TierSelector.routed
        (ComplexityScorer.score request.hints) (effectiveCeiling request policy)
        (evaluation request catalog policy).eligible entry
        (ComplexityScorer.indicatedTier (ComplexityScorer.score request.hints))) request
        (evaluation request catalog policy)) := by
  unfold plan
  rw [if_neg h]
  dsimp only
  by_cases heligible : (evaluation request catalog policy).eligible = []
  · rw [if_pos (by simp [PolicyEvaluation.noEligibleModels, heligible])]
    refine .inl ⟨heligible, ?_, rfl⟩
    rw [chosen_eq_none, heligible]
    simp
  · rw [if_neg (by simp [PolicyEvaluation.noEligibleModels, heligible])]
    right
    rcases TierSelector.select_chosen _ _ heligible with
      ⟨entry, hchosen, hselect⟩ | ⟨hchosen, rationale, hselect⟩
    · rw [hselect]
      exact .inr ⟨entry, hchosen, rfl⟩
    · rw [hselect]
      exact .inl ⟨heligible, hchosen, rationale, rfl⟩

theorem catalog_ne_nil {request : RoutingRequest} {catalog : List TierPricing} {policy : PolicySet}
    {decision : RoutingDecision} (h : plan request catalog policy = some decision) :
    catalog ≠ [] := by
  rintro rfl
  cases h

theorem plan_planned (request : RoutingRequest) {catalog : List TierPricing} (h : catalog ≠ [])
    (policy : PolicySet) :
    ∃ decision, plan request catalog policy = some decision ∧
      Planned request catalog policy decision := by
  rcases plan_chosen request h policy with
    ⟨heligible, _, hplan⟩ | ⟨heligible, hnone, rationale, hplan⟩ | ⟨entry, hchosen, hplan⟩
  · exact ⟨_, hplan, .refused heligible⟩
  · exact ⟨_, hplan, .denied heligible (chosen_eq_none.mp hnone) rationale⟩
  · obtain ⟨hmem, hreachable⟩ := chosen_mem hchosen
    exact ⟨_, hplan, .chosen hmem hreachable⟩

end RoutingPlanner

end Fcmr.RouterDecisions
