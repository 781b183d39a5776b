import Fcmr.RouterDecisions.Restricted

/-! What the validation of a policy set is worth at the gate, for a catalog that offers an
entry of every approved vendor within the ceiling of the policy set. -/
namespace Fcmr.RouterDecisions

open DotNet RoutingPlanner

/-- Every approved vendor has an entry within the ceiling of the policy set. -/
def Stocked (catalog : List TierPricing) (policy : PolicySet) : Prop :=
  ∀ vendor ∈ policy.approvedVendors, ∃ entry ∈ catalog, entry.vendor = vendor ∧
    entry.costPerRequestUsd.value ≤ policy.maxCostPerRequestUsd.value

/-- The region is omitted, or one that the policy set allows. -/
def RegionAllowed (policy : PolicySet) (executionRegion : Option Text) : Prop :=
  ∀ region, executionRegion = some region →
    policy.allowedRegions = ∅ ∨ region ∈ policy.allowedRegions

/-- What a validated policy set promises of a request. -/
structure PromiseKept (catalog : List TierPricing) (policy : PolicySet)
    (executionRegion : Option Text) : Prop where
  vendors : ∀ vendor ∈ policy.approvedVendors, ∃ classification, ∃ entry ∈
    (PolicyGate.evaluate catalog policy classification executionRegion).eligible,
      entry.vendor = vendor
  restricted : policy.permitsRestrictedData = true → ∀ request : RoutingRequest,
    request.dataClassification = .restricted → request.executionRegion = executionRegion →
    ∃ decision, plan request catalog policy = some decision ∧ decision.outcome ≠ .refusedByPolicy

variable {catalog : List TierPricing} {policy : PolicySet} {executionRegion : Option Text}

theorem exists_eligible (hstocked : Stocked catalog policy)
    (hregion : RegionAllowed policy executionRegion) {vendor : ModelVendor}
    (happroved : vendor ∈ policy.approvedVendors) {classification limit : DataClassification}
    (hlimit : policy.maxClassification.lookup vendor = some limit)
    (hle : classification.value ≤ limit.value) :
    ∃ entry ∈ (PolicyGate.evaluate catalog policy classification executionRegion).eligible,
      entry.vendor = vendor := by
  obtain ⟨entry, hmem, rfl, haffordable⟩ := hstocked vendor happroved
  refine ⟨entry, PolicyGate.mem_eligible.mpr ⟨hmem, ?_⟩, rfl⟩
  exact {
    region := hregion
    approved := happroved
    classified := ⟨limit, hlimit, hle⟩
    affordable := haffordable }

theorem outcome_of_eligible (request : RoutingRequest)
    (h : (evaluation request catalog policy).eligible ≠ []) :
    ∃ decision, plan request catalog policy = some decision ∧
      decision.outcome ≠ .refusedByPolicy := by
  obtain ⟨entry, hentry⟩ := List.exists_mem_of_ne_nil _ h
  have hcatalog : catalog ≠ [] := List.ne_nil_of_mem (PolicyGate.mem_eligible.mp hentry).1
  obtain ⟨decision, hplan, hsound⟩ := plan_sound request hcatalog policy
  exact ⟨decision, hplan, mt hsound.refused.mp h⟩

/-- The gate keeps what validation promises. -/
theorem validated_promise (hvalid : PolicySetValidator.validate policy = none)
    (hstocked : Stocked catalog policy) (hregion : RegionAllowed policy executionRegion) :
    PromiseKept catalog policy executionRegion := by
  have hpromise := PolicySetValidator.validate_eq_none.mp hvalid
  constructor
  · intro vendor happroved
    have hlimited := (hpromise.limits vendor).mp happroved
    obtain ⟨limit, hlimit⟩ := Option.isSome_iff_exists.mp (AList.lookup_isSome.mpr hlimited)
    exact ⟨limit, exists_eligible hstocked hregion happroved hlimit le_rfl⟩
  · rintro hpermits request hrestricted rfl
    obtain ⟨vendor, happroved, hlimit⟩ := hpromise.servable hpermits
    obtain ⟨entry, hentry, _⟩ := exists_eligible hstocked hregion happroved hlimit le_rfl
    apply outcome_of_eligible
    unfold evaluation
    rw [hrestricted]
    exact List.ne_nil_of_mem hentry

namespace Samples

theorem restrictedTo_promise :
    PromiseKept [gpt, llama] (restrictedTo .openWeight) (some (lit "eastus2")) := by
  apply validated_promise
  · exact Option.isNone_iff_eq_none.mp (by decide +kernel)
  · intro vendor hvendor
    obtain rfl := Finset.mem_singleton.mp hvendor
    exact ⟨llama, by simp, rfl, by decide +kernel⟩
  · exact fun _ _ => .inl rfl

end Samples

end Fcmr.RouterDecisions
