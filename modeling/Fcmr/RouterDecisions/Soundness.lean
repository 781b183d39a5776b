import Fcmr.RouterDecisions.Preference

/-! What a decision selects is permitted and within reach, and what it does not select
it accounts for. -/
namespace Fcmr.RouterDecisions

open DotNet RoutingPlanner

/-- An entry that a request may be sent to. -/
structure Admissible (request : RoutingRequest) (policy : PolicySet) (entry : TierPricing) : Prop where
  available : entry.available = true
  approved : entry.vendor ∈ policy.approvedVendors
  classified : ∃ permitted, policy.maxClassification.lookup entry.vendor = some permitted ∧
    request.dataClassification.value ≤ permitted.value
  requestCeiling : entry.costPerRequestUsd.value ≤ request.costCeilingUsd.value
  policyCeiling : entry.costPerRequestUsd.value ≤ policy.maxCostPerRequestUsd.value
  region : ∀ region, request.executionRegion = some region →
    policy.allowedRegions = ∅ ∨ region ∈ policy.allowedRegions

def WithinReach (request : RoutingRequest) (catalog : List TierPricing) (policy : PolicySet)
    (entry : TierPricing) : Prop :=
  entry ∈ (evaluation request catalog policy).eligible ∧ entry.available = true ∧
    entry.costPerRequestUsd.value ≤ (effectiveCeiling request policy).value

structure Sound (request : RoutingRequest) (catalog : List TierPricing) (policy : PolicySet)
    (decision : RoutingDecision) : Prop where
  selected : ∀ deployment, decision.selectedDeployment = some deployment →
    ∃ entry ∈ catalog, entry.deployment = deployment ∧ decision.selectedTier = some entry.tier ∧
      decision.selectedVendor = some entry.vendor ∧ Admissible request policy entry
  unselected : decision.selectedDeployment = none →
    decision.selectedTier = none ∧ decision.selectedVendor = none ∧
      (decision.outcome = .denied ∨ decision.outcome = .refusedByPolicy)
  refused : decision.outcome = .refusedByPolicy ↔ (evaluation request catalog policy).eligible = []
  denied : decision.outcome = .denied ↔ (evaluation request catalog policy).eligible ≠ [] ∧
    ∀ entry, ¬WithinReach request catalog policy entry

theorem effectiveCeiling_le (request : RoutingRequest) (policy : PolicySet) :
    (effectiveCeiling request policy).value ≤ request.costCeilingUsd.value ∧
      (effectiveCeiling request policy).value ≤ policy.maxCostPerRequestUsd.value := by
  unfold effectiveCeiling Decimal.min
  split
  · rename_i hlt
    exact ⟨le_refl _, hlt.le⟩
  · rename_i hge
    exact ⟨le_of_not_gt hge, le_refl _⟩

theorem admissible_of_reachable {request : RoutingRequest} {catalog : List TierPricing}
    {policy : PolicySet} {entry : TierPricing}
    (hmem : entry ∈ (evaluation request catalog policy).eligible)
    (hreachable : TierSelector.Reachable (effectiveCeiling request policy) entry) :
    entry ∈ catalog ∧ Admissible request policy entry := by
  obtain ⟨hcatalog, hpermitted⟩ := PolicyGate.mem_eligible.mp hmem
  obtain ⟨hrequest, _⟩ := effectiveCeiling_le request policy
  exact ⟨hcatalog, {
    available := hreachable.available
    approved := hpermitted.approved
    classified := hpermitted.classified
    requestCeiling := hreachable.affordable.trans hrequest
    policyCeiling := hpermitted.affordable
    region := hpermitted.region }⟩

theorem sound_of_planned {request : RoutingRequest} {catalog : List TierPricing}
    {policy : PolicySet} {decision : RoutingDecision} (h : Planned request catalog policy decision) :
    Sound request catalog policy decision := by
  cases h with
  | refused heligible =>
    exact {
      selected := nofun
      unselected := fun _ => ⟨rfl, rfl, .inr rfl⟩
      refused := ⟨fun _ => heligible, fun _ => rfl⟩
      denied := ⟨nofun, fun h => absurd heligible h.1⟩ }
  | denied heligible hunreachable rationale =>
    exact {
      selected := nofun
      unselected := fun _ => ⟨rfl, rfl, .inl rfl⟩
      refused := ⟨nofun, fun h => absurd h heligible⟩
      denied := ⟨fun _ => ⟨heligible, fun entry hreach =>
        hunreachable entry hreach.1 ⟨hreach.2.1, hreach.2.2⟩⟩, fun _ => rfl⟩ }
  | @chosen entry hmem hreachable =>
    exact {
      selected := by
        rintro deployment hdeployment
        obtain ⟨hcatalog, hadmissible⟩ := admissible_of_reachable hmem hreachable
        exact ⟨entry, hcatalog, Option.some.inj hdeployment, rfl, rfl, hadmissible⟩
      unselected := nofun
      refused := ⟨fun h => absurd h governed_outcome_ne.2, fun h =>
        absurd hmem (h ▸ List.not_mem_nil)⟩
      denied := ⟨fun h => absurd h governed_outcome_ne.1, fun h =>
        absurd ⟨hmem, hreachable.available, hreachable.affordable⟩ (h.2 entry)⟩ }

/-- Whatever the catalog, the policy set and the request. -/
theorem plan_sound (request : RoutingRequest) {catalog : List TierPricing} (h : catalog ≠ [])
    (policy : PolicySet) :
    ∃ decision, plan request catalog policy = some decision ∧
      Sound request catalog policy decision := by
  obtain ⟨decision, hplan, hplanned⟩ := plan_planned request h policy
  exact ⟨decision, hplan, sound_of_planned hplanned⟩

namespace Samples

def haiku : TierPricing where
  tier := .economy
  deployment := lit "claude-haiku"
  costPerRequestUsd := .literal 4 3
  vendor := .anthropic

def opus : TierPricing where
  tier := .premium
  deployment := lit "claude-opus"
  costPerRequestUsd := .literal 90 3
  vendor := .anthropic

def capitalMarkets : PolicySet where
  id := lit "CapitalMarkets-US"
  businessUnit := lit "capital-markets"
  approvedVendors := {.anthropic}
  maxClassification := AList.singleton .anthropic .confidential
  allowedRegions := {lit "eastus2"}

def summary : RoutingRequest where
  hints := { inputTokenEstimate := 1000 }
  costCeilingUsd := .literal 5 2
  dataClassification := .internal
  executionRegion := some (lit "eastus2")

theorem summary_sound :
    ∃ decision, plan summary [haiku, opus] capitalMarkets = some decision ∧
      Sound summary [haiku, opus] capitalMarkets decision :=
  plan_sound summary (List.cons_ne_nil _ _) capitalMarkets

end Samples

end Fcmr.RouterDecisions
