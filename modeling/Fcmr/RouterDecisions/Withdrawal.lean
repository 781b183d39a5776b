import Fcmr.RouterDecisions.Soundness

/-! Two plans for one request under two policy sets. What is not selected may be withdrawn
without a change of the selection, and a vendor that is removed is never selected. -/
namespace Fcmr.RouterDecisions

open DotNet RoutingPlanner

def permits (request : RoutingRequest) (policy : PolicySet) (entry : TierPricing) : Bool :=
  PolicyGate.regionPermitted policy request.executionRegion &&
    (PolicyGate.exclusion policy request.dataClassification entry).isNone

theorem eligible_eq (request : RoutingRequest) (catalog : List TierPricing) (policy : PolicySet) :
    (evaluation request catalog policy).eligible = catalog.filter (permits request policy) := by
  unfold evaluation PolicyGate.evaluate permits
  cases PolicyGate.regionPermitted policy request.executionRegion with
  | false => simp [PolicyGate.result]
  | true => simp [PolicyGate.result]

def selection (decision : RoutingDecision) : Option Text × Option ModelTier × Option ModelVendor :=
  (decision.selectedDeployment, decision.selectedTier, decision.selectedVendor)

theorem plan_selection (request : RoutingRequest) {catalog : List TierPricing} (h : catalog ≠ [])
    (policy : PolicySet) : ∃ decision, plan request catalog policy = some decision ∧
      selection decision = ((chosen request catalog policy).map (·.deployment),
        (chosen request catalog policy).map (·.tier),
        (chosen request catalog policy).map (·.vendor)) := by
  rcases plan_chosen request h policy with
    ⟨_, hnone, hplan⟩ | ⟨_, hnone, rationale, hplan⟩ | ⟨entry, hchosen, hplan⟩
  · exact ⟨_, hplan, by rw [hnone]; rfl⟩
  · exact ⟨_, hplan, by rw [hnone]; rfl⟩
  · exact ⟨_, hplan, by rw [hchosen]; rfl⟩

/-- Under the same ceiling, the second policy set permits a part of what the first one
does, and what is selected remains in it. -/
structure Withdrawn (request : RoutingRequest) (catalog : List TierPricing)
    (policy policy' : PolicySet) : Prop where
  ceiling : policy'.maxCostPerRequestUsd.value = policy.maxCostPerRequestUsd.value
  fewer : ∀ entry ∈ (evaluation request catalog policy').eligible,
    entry ∈ (evaluation request catalog policy).eligible
  kept : ∀ entry, chosen request catalog policy = some entry →
    entry ∈ (evaluation request catalog policy').eligible

/-- The vendor is no longer approved, whatever becomes of its own limit. -/
structure RemovesVendor (vendor : ModelVendor) (policy policy' : PolicySet) : Prop where
  approved : policy'.approvedVendors = policy.approvedVendors.erase vendor
  classified : ∀ other, other ≠ vendor →
    policy'.maxClassification.lookup other = policy.maxClassification.lookup other
  regions : policy'.allowedRegions = policy.allowedRegions
  ceiling : policy'.maxCostPerRequestUsd = policy.maxCostPerRequestUsd

variable {request : RoutingRequest} {catalog : List TierPricing} {policy policy' : PolicySet}

theorem effectiveCeiling_value (h : policy'.maxCostPerRequestUsd.value =
    policy.maxCostPerRequestUsd.value) :
    (effectiveCeiling request policy').value = (effectiveCeiling request policy).value := by
  unfold effectiveCeiling Decimal.min
  rw [h]
  split
  · rfl
  · exact h

theorem Withdrawn.reachable_eq (h : Withdrawn request catalog policy policy') :
    TierSelector.reachable (effectiveCeiling request policy')
        (evaluation request catalog policy').eligible =
      (TierSelector.reachable (effectiveCeiling request policy)
        (evaluation request catalog policy).eligible).filter (permits request policy') := by
  have hfewer := h.fewer
  rw [eligible_eq, eligible_eq] at hfewer
  unfold TierSelector.reachable
  rw [eligible_eq, eligible_eq, effectiveCeiling_value h.ceiling]
  simp only [List.filter_filter]
  apply List.filter_congr
  intro entry hentry
  have himp : permits request policy' entry = true → permits request policy entry = true := by
    intro hpermits
    exact (List.mem_filter.mp (hfewer entry (List.mem_filter.mpr ⟨hentry, hpermits⟩))).2
  cases hpermits : permits request policy' entry with
  | false => simp
  | true => simp [himp hpermits]

theorem Withdrawn.chosen_eq (h : Withdrawn request catalog policy policy') :
    chosen request catalog policy' = chosen request catalog policy := by
  cases hchosen : chosen request catalog policy with
  | none =>
    unfold chosen at hchosen ⊢
    rw [TierSelector.choose_eq_none] at hchosen ⊢
    rw [h.reachable_eq, hchosen, List.filter_nil]
  | some entry =>
    have hkept := h.kept entry hchosen
    rw [eligible_eq] at hkept
    unfold chosen at hchosen ⊢
    rw [TierSelector.choose_eq] at hchosen ⊢
    rw [h.reachable_eq]
    exact StableSort.argmin_filter hchosen (List.mem_filter.mp hkept).2

theorem Withdrawn.selection_eq (h : Withdrawn request catalog policy policy') :
    (plan request catalog policy').map selection = (plan request catalog policy).map selection := by
  by_cases hempty : catalog = []
  · subst hempty
    rfl
  obtain ⟨decision, hplan, hselection⟩ := plan_selection request hempty policy
  obtain ⟨decision', hplan', hselection'⟩ := plan_selection request hempty policy'
  rw [hplan, hplan', Option.map_some, Option.map_some, hselection, hselection', h.chosen_eq]

theorem RemovesVendor.permitted {vendor : ModelVendor} (h : RemovesVendor vendor policy policy')
    {entry : TierPricing}
    (hpermitted : Permitted policy' request.dataClassification request.executionRegion entry) :
    entry.vendor ≠ vendor ∧
      Permitted policy request.dataClassification request.executionRegion entry := by
  have happroved := hpermitted.approved
  rw [h.approved] at happroved
  obtain ⟨hne, hmem⟩ := Finset.mem_erase.mp happroved
  exact ⟨hne, {
    region := h.regions ▸ hpermitted.region
    approved := hmem
    classified := h.classified entry.vendor hne ▸ hpermitted.classified
    affordable := h.ceiling ▸ hpermitted.affordable }⟩

theorem RemovesVendor.eligible_subset {vendor : ModelVendor}
    (h : RemovesVendor vendor policy policy') {entry : TierPricing}
    (hentry : entry ∈ (evaluation request catalog policy').eligible) :
    entry.vendor ≠ vendor ∧ entry ∈ (evaluation request catalog policy).eligible := by
  obtain ⟨hmem, hpermitted⟩ := PolicyGate.mem_eligible.mp hentry
  obtain ⟨hne, hbefore⟩ := h.permitted hpermitted
  exact ⟨hne, PolicyGate.mem_eligible.mpr ⟨hmem, hbefore⟩⟩

theorem RemovesVendor.not_selected {vendor : ModelVendor} (h : RemovesVendor vendor policy policy')
    {decision : RoutingDecision} (hplan : plan request catalog policy' = some decision) :
    decision.selectedVendor ≠ some vendor := by
  obtain ⟨decision', hplan', hselection⟩ := plan_selection request (catalog_ne_nil hplan) policy'
  cases hplan.symm.trans hplan'
  have hvendor : decision.selectedVendor = (chosen request catalog policy').map (·.vendor) :=
    congrArg (·.2.2) hselection
  rw [hvendor]
  intro hsome
  obtain ⟨entry, hchosen, heq⟩ := Option.map_eq_some_iff.mp hsome
  exact (h.eligible_subset (chosen_mem hchosen).1).1 heq

/-- Whatever else is withdrawn, the selection stays, and a removed vendor is out of it. -/
theorem plan_withdrawal (request : RoutingRequest) (catalog : List TierPricing)
    (policy policy' : PolicySet) :
    (Withdrawn request catalog policy policy' →
      (plan request catalog policy').map selection =
        (plan request catalog policy).map selection) ∧
    ∀ vendor, RemovesVendor vendor policy policy' →
      (∀ entry ∈ (evaluation request catalog policy').eligible,
        entry ∈ (evaluation request catalog policy).eligible) ∧
      ∀ decision, plan request catalog policy' = some decision →
        decision.selectedVendor ≠ some vendor :=
  ⟨Withdrawn.selection_eq, fun _ hremoves =>
    ⟨fun _ hentry => (hremoves.eligible_subset hentry).2, fun _ => hremoves.not_selected⟩⟩

namespace Samples

def twoVendors : PolicySet where
  id := lit "CapitalMarkets-US"
  businessUnit := lit "capital-markets"
  approvedVendors := {.anthropic, .xai}
  maxClassification := (AList.singleton .anthropic .confidential).insert .xai .confidential
  allowedRegions := {lit "eastus2"}

def grok : TierPricing where
  tier := .premium
  deployment := lit "grok"
  costPerRequestUsd := .literal 30 3
  vendor := .xai

theorem haiku_permitted : Permitted capitalMarkets summary.dataClassification
    summary.executionRegion haiku where
  region := by
    rintro region ⟨⟩
    exact .inr (by decide)
  approved := by decide
  classified := ⟨.confidential, rfl, by decide⟩
  affordable := by decide +kernel

theorem xai_removed : RemovesVendor .xai twoVendors capitalMarkets where
  approved := by decide
  classified := by
    intro other hne
    cases other with
    | azureOpenAI => rfl
    | anthropic => rfl
    | xai => exact absurd rfl hne
    | openWeight => rfl
  regions := rfl
  ceiling := rfl

theorem xai_withdrawn : Withdrawn summary [haiku, grok] twoVendors capitalMarkets where
  ceiling := rfl
  fewer := fun _ hentry => (xai_removed.eligible_subset hentry).2
  kept := by
    have hvendor : (chosen summary [haiku, grok] twoVendors).map (·.vendor) = some .anthropic := by
      decide +kernel
    intro entry hchosen
    rw [hchosen] at hvendor
    rcases List.mem_pair.mp (PolicyGate.mem_eligible.mp (chosen_mem hchosen).1).1 with rfl | rfl
    · exact PolicyGate.mem_eligible.mpr ⟨List.mem_cons_self, haiku_permitted⟩
    · cases hvendor

theorem xai_withdrawal :
    (plan summary [haiku, grok] capitalMarkets).map selection =
      (plan summary [haiku, grok] twoVendors).map selection ∧
    ∀ decision, plan summary [haiku, grok] capitalMarkets = some decision →
      decision.selectedVendor ≠ some .xai :=
  ⟨(plan_withdrawal summary [haiku, grok] twoVendors capitalMarkets).1 xai_withdrawn,
    ((plan_withdrawal summary [haiku, grok] twoVendors capitalMarkets).2 .xai xai_removed).2⟩

end Samples

end Fcmr.RouterDecisions
