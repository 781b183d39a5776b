import Fcmr.RouterDecisions.Soundness

/-! Two plans for one request under two ceilings. What is within the lower one is within the
higher one, so the first choice among the latter is at least as preferred. At the end, which
ceiling a decision records: a refusal records that of the request. -/
namespace Fcmr.RouterDecisions

open DotNet RoutingPlanner

structure Serves (request : RoutingRequest) (catalog : List TierPricing) (policy : PolicySet)
    (decision : RoutingDecision) (entry : TierPricing) : Prop where
  served : decision.outcome = .routed ∨ decision.outcome = .downgraded
  deployment : decision.selectedDeployment = some entry.deployment
  tier : decision.selectedTier = some entry.tier
  vendor : decision.selectedVendor = some entry.vendor
  eligible : entry ∈ (evaluation request catalog policy).eligible
  available : entry.available = true
  affordable : entry.costPerRequestUsd.value ≤ request.costCeilingUsd.value
  cheapest : ∀ other ∈ (evaluation request catalog policy).eligible, other.available = true →
    other.costPerRequestUsd.value ≤ request.costCeilingUsd.value → other.tier = entry.tier →
    entry.costPerRequestUsd.value ≤ other.costPerRequestUsd.value

variable {request : RoutingRequest} {catalog : List TierPricing} {policy : PolicySet}
  {entry : TierPricing}

theorem reachable_iff (h : entry ∈ (evaluation request catalog policy).eligible) :
    TierSelector.Reachable (effectiveCeiling request policy) entry ↔
      entry.available = true ∧ entry.costPerRequestUsd.value ≤ request.costCeilingUsd.value := by
  have hpolicy := (PolicyGate.mem_eligible.mp h).2.affordable
  constructor
  · intro hreachable
    refine ⟨hreachable.available, hreachable.affordable.trans ?_⟩
    unfold effectiveCeiling
    rw [Decimal.value_min]
    exact min_le_left _ _
  · rintro ⟨havailable, haffordable⟩
    refine ⟨havailable, ?_⟩
    unfold effectiveCeiling
    rw [Decimal.value_min]
    exact le_min haffordable hpolicy

theorem chosen_preferred (hchosen : chosen request catalog policy = some entry)
    {other : TierPricing} (hother : other ∈ (evaluation request catalog policy).eligible)
    (havailable : other.available = true)
    (haffordable : other.costPerRequestUsd.value ≤ request.costCeilingUsd.value) :
    TierSelector.preferenceKey (ComplexityScorer.indicatedTier
        (ComplexityScorer.score request.hints)) entry ≤
      TierSelector.preferenceKey (ComplexityScorer.indicatedTier
        (ComplexityScorer.score request.hints)) other := by
  have hreachable := (reachable_iff hother).mpr ⟨havailable, haffordable⟩
  unfold chosen at hchosen
  rw [TierSelector.choose_eq] at hchosen
  exact List.le_of_mem_argmin (TierSelector.mem_reachable.mpr ⟨hother, hreachable⟩) hchosen

theorem rank_le_of_preferenceKey_le {indicated : ModelTier} {entry other : TierPricing}
    (h : TierSelector.preferenceKey indicated entry ≤ TierSelector.preferenceKey indicated other) :
    TierSelector.rank indicated entry.tier ≤ TierSelector.rank indicated other.tier := by
  by_contra hlt
  exact not_lt_of_ge h (TierSelector.preferenceKey_lt.mpr (.inl (lt_of_not_ge hlt)))

theorem cost_le_of_preferenceKey_le {indicated : ModelTier} {entry other : TierPricing}
    (h : TierSelector.preferenceKey indicated entry ≤ TierSelector.preferenceKey indicated other)
    (htier : other.tier = entry.tier) :
    entry.costPerRequestUsd.value ≤ other.costPerRequestUsd.value := by
  by_contra hlt
  apply not_lt_of_ge h
  rw [TierSelector.preferenceKey_lt_of_tier htier]
  exact Prod.Lex.toLex_lt_toLex.mpr (.inl (lt_of_not_ge hlt))

theorem serves_of_chosen (hchosen : chosen request catalog policy = some entry) :
    ∃ decision, plan request catalog policy = some decision ∧
      Serves request catalog policy decision entry := by
  obtain ⟨heligible, hreachable⟩ := chosen_mem hchosen
  have hcatalog : catalog ≠ [] :=
    List.ne_nil_of_mem (PolicyGate.mem_eligible.mp heligible).1
  obtain ⟨havailable, haffordable⟩ := (reachable_iff heligible).mp hreachable
  rcases plan_chosen request hcatalog policy with
    ⟨_, hnone, _⟩ | ⟨_, hnone, _⟩ | ⟨entry', hentry', hplan⟩
  · cases hchosen.symm.trans hnone
  · cases hchosen.symm.trans hnone
  cases hchosen.symm.trans hentry'
  exact ⟨_, hplan, {
    served := governed_outcome
    deployment := rfl
    tier := rfl
    vendor := rfl
    eligible := heligible
    available := havailable
    affordable := haffordable
    cheapest := fun other hother hother_available hother_affordable htier =>
      cost_le_of_preferenceKey_le
        (chosen_preferred hchosen hother hother_available hother_affordable) htier }⟩

theorem chosen_of_served {decision : RoutingDecision}
    (hplan : plan request catalog policy = some decision)
    (hserved : decision.outcome = .routed ∨ decision.outcome = .downgraded) :
    ∃ entry, chosen request catalog policy = some entry := by
  rcases plan_chosen request (catalog_ne_nil hplan) policy with
    ⟨_, _, hrefused⟩ | ⟨_, _, rationale, hdenied⟩ | ⟨entry, hchosen, _⟩
  · cases hplan.symm.trans hrefused
    rcases hserved with houtcome | houtcome <;> cases houtcome
  · cases hplan.symm.trans hdenied
    rcases hserved with houtcome | houtcome <;> cases houtcome
  · exact ⟨entry, hchosen⟩

/-- Whatever the catalog, the policy set and the hints: a request that is served is served
under a higher ceiling as well, from a tier that is at least as preferred. -/
theorem plan_ceiling_mono (request : RoutingRequest) (catalog : List TierPricing)
    (policy : PolicySet) {ceiling : Decimal}
    (hceiling : request.costCeilingUsd.value ≤ ceiling.value) {decision : RoutingDecision}
    (hplan : plan request catalog policy = some decision)
    (hserved : decision.outcome = .routed ∨ decision.outcome = .downgraded) :
    ∃ decision' entry entry',
      plan { request with costCeilingUsd := ceiling } catalog policy = some decision' ∧
      Serves request catalog policy decision entry ∧
      Serves { request with costCeilingUsd := ceiling } catalog policy decision' entry' ∧
      TierSelector.rank (ComplexityScorer.indicatedTier (ComplexityScorer.score request.hints))
          entry'.tier ≤
        TierSelector.rank (ComplexityScorer.indicatedTier (ComplexityScorer.score request.hints))
          entry.tier := by
  obtain ⟨entry, hchosen⟩ := chosen_of_served hplan hserved
  obtain ⟨_, hplan', hserves⟩ := serves_of_chosen hchosen
  cases hplan.symm.trans hplan'
  have heligible :
      entry ∈ (evaluation { request with costCeilingUsd := ceiling } catalog policy).eligible :=
    hserves.eligible
  -- The old choice is still in reach, so there is a new one.
  have hstill := (reachable_iff heligible).mpr
    ⟨hserves.available, hserves.affordable.trans hceiling⟩
  cases hchosen' : chosen { request with costCeilingUsd := ceiling } catalog policy with
  | none => exact absurd hstill (chosen_eq_none.mp hchosen' entry heligible)
  | some entry' =>
    obtain ⟨decision', hplan', hserves'⟩ := serves_of_chosen hchosen'
    exact ⟨decision', entry, entry', hplan', hserves, hserves',
      rank_le_of_preferenceKey_le (chosen_preferred hchosen' heligible hserves.available
        (hserves.affordable.trans hceiling))⟩

/-- The ceiling that applies: the lower of the request's and the policy set's. -/
def RecordsCeiling (request : RoutingRequest) (policy : PolicySet) (decision : RoutingDecision) :
    Prop :=
  decision.costCeilingUsd.value =
    min request.costCeilingUsd.value policy.maxCostPerRequestUsd.value

instance (request : RoutingRequest) (policy : PolicySet) (decision : RoutingDecision) :
    Decidable (RecordsCeiling request policy decision) := inferInstanceAs (Decidable (_ = _))

theorem records_effectiveCeiling {decision : RoutingDecision}
    (h : decision.costCeilingUsd = effectiveCeiling request policy) :
    RecordsCeiling request policy decision := by
  unfold RecordsCeiling effectiveCeiling at *
  rw [h, Decimal.value_min]

/-- A decision that is made about permitted entries records the ceiling that applies; a
refusal does when the request's ceiling is that. -/
theorem recordsCeiling_iff (request : RoutingRequest) {catalog : List TierPricing}
    (h : catalog ≠ []) (policy : PolicySet) :
    (∃ decision, plan request catalog policy = some decision ∧
      RecordsCeiling request policy decision) ↔
    (∃ entry ∈ catalog, Permitted policy request.dataClassification request.executionRegion entry) ∨
      request.costCeilingUsd.value ≤ policy.maxCostPerRequestUsd.value := by
  have hpermitted : (∃ entry ∈ catalog,
      Permitted policy request.dataClassification request.executionRegion entry) ↔
      (evaluation request catalog policy).eligible ≠ [] := by
    constructor
    · rintro ⟨entry, hentry⟩
      exact List.ne_nil_of_mem (PolicyGate.mem_eligible.mpr hentry)
    · intro hne
      obtain ⟨entry, hentry⟩ := List.exists_mem_of_ne_nil _ hne
      exact ⟨entry, PolicyGate.mem_eligible.mp hentry⟩
  rw [hpermitted]
  rcases plan_chosen request h policy with
    ⟨heligible, _, hplan⟩ | ⟨heligible, _, rationale, hplan⟩ | ⟨entry, hchosen, hplan⟩
  · simp only [hplan, Option.some.injEq, exists_eq_left', heligible, ne_eq, not_true_eq_false,
      false_or]
    exact left_eq_inf
  · exact iff_of_true ⟨_, hplan, records_effectiveCeiling rfl⟩ (.inl heligible)
  · exact iff_of_true ⟨_, hplan, records_effectiveCeiling rfl⟩
      (.inl (List.ne_nil_of_mem (chosen_mem hchosen).1))

namespace Samples

theorem summary_ceiling_raised : ∃ decision decision' entry entry',
    plan summary [haiku, opus] capitalMarkets = some decision ∧
    plan { summary with costCeilingUsd := .literal 1 1 } [haiku, opus] capitalMarkets =
      some decision' ∧
    Serves summary [haiku, opus] capitalMarkets decision entry ∧
    Serves { summary with costCeilingUsd := .literal 1 1 } [haiku, opus] capitalMarkets decision'
      entry' ∧
    TierSelector.rank (ComplexityScorer.indicatedTier (ComplexityScorer.score summary.hints))
        entry'.tier ≤
      TierSelector.rank (ComplexityScorer.indicatedTier (ComplexityScorer.score summary.hints))
        entry.tier := by
  have houtcome : (plan summary [haiku, opus] capitalMarkets).map (·.outcome) = some .routed := by
    decide +kernel
  obtain ⟨decision, hplan, hrouted⟩ := Option.map_eq_some_iff.mp houtcome
  have hceiling : summary.costCeilingUsd.value ≤ (Decimal.literal 1 1).value := by decide +kernel
  obtain ⟨decision', entry, entry', hplan', hserves, hserves', hrank⟩ :=
    plan_ceiling_mono summary [haiku, opus] capitalMarkets hceiling hplan (.inl hrouted)
  exact ⟨decision, decision', entry, entry', hplan, hplan', hserves, hserves', hrank⟩

theorem summary_records_ceiling : ∃ decision,
    plan summary [haiku, opus] capitalMarkets = some decision ∧
      RecordsCeiling summary capitalMarkets decision :=
  (recordsCeiling_iff summary (List.cons_ne_nil _ _) capitalMarkets).mpr
    (.inr (by decide +kernel))

def cappedMarkets : PolicySet := { capitalMarkets with maxCostPerRequestUsd := .literal 1 3 }

/-- The request allows 0.05 USD and the policy set 0.001 USD, which is what rules out both
entries; the refusal records 0.05 USD. -/
theorem refusal_records_request : ∃ decision,
    plan summary [haiku, opus] cappedMarkets = some decision ∧
      decision.outcome = .refusedByPolicy ∧ ¬RecordsCeiling summary cappedMarkets decision := by
  have hplan : (plan summary [haiku, opus] cappedMarkets).map (fun decision =>
      (decision.outcome, decide (RecordsCeiling summary cappedMarkets decision))) =
        some (.refusedByPolicy, false) := by decide +kernel
  obtain ⟨decision, hdecision, hfields⟩ := Option.map_eq_some_iff.mp hplan
  obtain ⟨houtcome, hrecords⟩ := Prod.mk.inj hfields
  exact ⟨decision, hdecision, houtcome, of_decide_eq_false hrecords⟩

end Samples

end Fcmr.RouterDecisions
