import Fcmr.RouterDecisions.Candidates

/-! The catalog that configuration supplies. Nothing on the way in makes its deployment
names unique, and a decision marks the entry it selects by that name. -/
namespace Fcmr.RouterService

open DotNet RouterDecisions RouterDecisions.TierSelector RouterDecisions.RoutingPlanner

structure ModelCatalogEntryOptions where
  tier : ModelTier := .economy
  deployment : Text := []
  costPerRequestUsd : Decimal := .zero
  vendor : ModelVendor := .azureOpenAI
  serving : ServingMode := .serverless
  available : Bool := true

namespace ConfiguredModelCatalog

def pricing (entry : ModelCatalogEntryOptions) : TierPricing where
  tier := entry.tier
  deployment := entry.deployment
  costPerRequestUsd := entry.costPerRequestUsd
  available := entry.available
  vendor := entry.vendor
  serving := entry.serving

def current (catalog : List ModelCatalogEntryOptions) : List TierPricing :=
  (catalog.filter fun entry => !isNullOrWhiteSpace (some entry.deployment)).map pricing

end ConfiguredModelCatalog

/-- The marks of a decision: one on what was chosen, and none when nothing was. -/
structure MarksSelection (request : RoutingRequest) (catalog : List TierPricing)
    (policy : PolicySet) (decision : RoutingDecision) : Prop where
  selected : decision.outcome = .routed ∨ decision.outcome = .downgraded →
    ∃ entry, chosen request catalog policy = some entry ∧ MarkedOnce decision.candidateTiers entry
  unselected : decision.outcome = .denied ∨ decision.outcome = .refusedByPolicy →
    decision.candidateTiers.filter (·.selected) = []

variable {request : RoutingRequest} {catalog : List TierPricing} {policy : PolicySet}
  {entry other : TierPricing}

theorem not_preferred (h : chosen request catalog policy = none) :
    ¬Preferred request catalog policy entry :=
  fun hpreferred => chosen_eq_none.mp h entry hpreferred.mem hpreferred.reachable

theorem marksSelection_unselected {decision : RoutingDecision}
    (houtcome : decision.outcome = .denied ∨ decision.outcome = .refusedByPolicy)
    (h : decision.candidateTiers.filter (·.selected) = []) :
    MarksSelection request catalog policy decision where
  selected := by
    rcases houtcome with houtcome | houtcome <;> rw [houtcome] <;> rintro (hne | hne) <;> cases hne
  unselected := fun _ => h

theorem marksSelection_routed (h : chosen request catalog policy = some entry) :
    MarksSelection request catalog policy (governed (routed (ComplexityScorer.score request.hints)
        (effectiveCeiling request policy) (evaluation request catalog policy).eligible entry
        (ComplexityScorer.indicatedTier (ComplexityScorer.score request.hints))) request
        (evaluation request catalog policy)) ↔
      ((evaluation request catalog policy).eligible.map (·.deployment)).count entry.deployment =
        1 := by
  rw [← markedOnce_iff (chosen_mem h).1]
  constructor
  · intro hmarks
    obtain ⟨other, hother, hmarked⟩ := hmarks.selected governed_outcome
    cases h.symm.trans hother
    exact hmarked
  · intro hmarked
    refine ⟨fun _ => ⟨entry, h, hmarked⟩, ?_⟩
    rintro (hdenied | hrefused)
    · exact absurd hdenied governed_outcome_ne.1
    · exact absurd hrefused governed_outcome_ne.2

/-- Exactly when a decision marks what it selects: the deployment that is preferred
occurs once among the entries that governance permits. -/
theorem marksSelection_iff (catalog : List ModelCatalogEntryOptions) (request : RoutingRequest)
    (policy : PolicySet) :
    (∀ decision, plan request (ConfiguredModelCatalog.current catalog) policy = some decision →
      MarksSelection request (ConfiguredModelCatalog.current catalog) policy decision) ↔
    ∀ entry, Preferred request (ConfiguredModelCatalog.current catalog) policy entry →
      ((evaluation request (ConfiguredModelCatalog.current catalog) policy).eligible.map
        (·.deployment)).count entry.deployment = 1 := by
  generalize ConfiguredModelCatalog.current catalog = catalog
  by_cases hempty : catalog = []
  · subst hempty
    refine ⟨fun _ entry hpreferred => ?_, fun _ _ h => ?_⟩
    · cases (PolicyGate.mem_eligible.mp hpreferred.mem).1
    · cases h
  rcases plan_chosen request hempty policy with
    ⟨_, hnone, hplan⟩ | ⟨_, hnone, rationale, hplan⟩ | ⟨entry, hchosen, hplan⟩
  · simp only [hplan, Option.some.injEq, forall_eq']
    refine ⟨fun _ entry hpreferred => absurd hpreferred (not_preferred hnone), fun _ => ?_⟩
    apply marksSelection_unselected (.inr rfl)
    rw [List.filter_eq_nil_iff]
    intro candidate hcandidate
    obtain ⟨entry, _, rfl⟩ := List.mem_map.mp hcandidate
    exact Bool.false_ne_true
  · simp only [hplan, Option.some.injEq, forall_eq']
    refine ⟨fun _ entry hpreferred => absurd hpreferred (not_preferred hnone), fun _ => ?_⟩
    exact marksSelection_unselected (.inl rfl) (buildCandidates_unmarked ..)
  · have hpreferred := preferred_of_chosen hchosen
    simp only [hplan, Option.some.injEq, forall_eq', marksSelection_routed hchosen]
    constructor
    · intro hcount other hother
      rw [hother.deployment_eq hpreferred]
      exact hcount
    · intro hcount
      exact hcount entry hpreferred

namespace Samples

def twoTiers : List ModelCatalogEntryOptions :=
  [{ tier := .economy, deployment := lit "claude", costPerRequestUsd := .literal 4 3,
      vendor := .anthropic },
    { tier := .premium, deployment := lit "claude", costPerRequestUsd := .literal 45 3,
      vendor := .anthropic }]

theorem twoTiers_marked_twice :
    ∃ decision, plan RouterDecisions.Samples.summary (ConfiguredModelCatalog.current twoTiers)
        RouterDecisions.Samples.capitalMarkets = some decision ∧ decision.outcome = .routed ∧
      (decision.candidateTiers.filter (·.selected)).length = 2 ∧
      ¬MarksSelection RouterDecisions.Samples.summary (ConfiguredModelCatalog.current twoTiers)
        RouterDecisions.Samples.capitalMarkets decision := by
  have hplan : (plan RouterDecisions.Samples.summary (ConfiguredModelCatalog.current twoTiers)
      RouterDecisions.Samples.capitalMarkets).map (fun decision =>
        (decision.outcome, (decision.candidateTiers.filter (·.selected)).length)) =
      some (.routed, 2) := by decide +kernel
  obtain ⟨decision, hdecision, hfields⟩ := Option.map_eq_some_iff.mp hplan
  obtain ⟨houtcome, hlength⟩ := Prod.mk.inj hfields
  refine ⟨decision, hdecision, houtcome, hlength, fun hmarks => ?_⟩
  obtain ⟨_, _, candidate, hone, _⟩ := hmarks.selected (.inl houtcome)
  rw [hone] at hlength
  cases hlength

end Samples

end Fcmr.RouterService
