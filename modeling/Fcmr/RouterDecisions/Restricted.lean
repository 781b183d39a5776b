import Fcmr.RouterDecisions.PolicySetValidation
import Fcmr.RouterDecisions.Soundness

/-! Where Restricted data may go. The limits are on vendors, and how a model is served is never
looked at: an open-weight model on managed compute is what a policy set and a catalog may
make of it. -/
namespace Fcmr.RouterDecisions

open DotNet RoutingPlanner

/-- The entry that serves a Restricted request. -/
structure RestrictedEntry (catalog : List TierPricing) (policy : PolicySet) (entry : TierPricing) :
    Prop where
  mem : entry ∈ catalog
  approved : entry.vendor ∈ policy.approvedVendors
  cleared : policy.maxClassification.lookup entry.vendor = some .restricted
  openWeight : (∀ vendor, policy.maxClassification.lookup vendor = some .restricted →
    vendor = .openWeight) → entry.vendor = .openWeight
  managedCompute : (∀ vendor, policy.maxClassification.lookup vendor = some .restricted →
    vendor = .openWeight) →
    (∀ other ∈ catalog, other.vendor = .openWeight → other.serving = .managedCompute) →
    entry.serving = .managedCompute

theorem restrictedEntry_of_admissible {request : RoutingRequest} {catalog : List TierPricing}
    {policy : PolicySet} {entry : TierPricing} (hrequest : request.dataClassification = .restricted)
    (hmem : entry ∈ catalog) (h : Admissible request policy entry) :
    RestrictedEntry catalog policy entry := by
  have hcleared : policy.maxClassification.lookup entry.vendor = some .restricted := by
    obtain ⟨permitted, hlookup, hle⟩ := h.classified
    rw [hrequest] at hle
    rw [hlookup]
    cases permitted with
    | restricted => rfl
    | publicData => exact absurd hle (by decide)
    | internal => exact absurd hle (by decide)
    | confidential => exact absurd hle (by decide)
  exact {
    mem := hmem
    approved := h.approved
    cleared := hcleared
    openWeight := fun honly => honly _ hcleared
    managedCompute := fun honly hserving => hserving entry hmem (honly _ hcleared) }

/-- Whatever the catalog and the policy set. -/
theorem restricted_selection (request : RoutingRequest) (catalog : List TierPricing)
    (policy : PolicySet) (hrequest : request.dataClassification = .restricted)
    {decision : RoutingDecision} (hplan : plan request catalog policy = some decision)
    {deployment : Text} (hselected : decision.selectedDeployment = some deployment) :
    ∃ entry, entry.deployment = deployment ∧ decision.selectedTier = some entry.tier ∧
      decision.selectedVendor = some entry.vendor ∧ RestrictedEntry catalog policy entry := by
  obtain ⟨decision', hplan', hplanned⟩ := plan_planned request (catalog_ne_nil hplan) policy
  cases hplan.symm.trans hplan'
  obtain ⟨entry, hmem, hdeployment, htier, hvendor, hadmissible⟩ :=
    (sound_of_planned hplanned).selected deployment hselected
  exact ⟨entry, hdeployment, htier, hvendor,
    restrictedEntry_of_admissible hrequest hmem hadmissible⟩

namespace Samples

def filing : RoutingRequest where
  hints := { inputTokenEstimate := 1000 }
  costCeilingUsd := .literal 5 2
  dataClassification := .restricted
  executionRegion := some (lit "eastus2")

def restrictedTo (vendor : ModelVendor) : PolicySet where
  id := lit "CapitalMarkets-US"
  businessUnit := lit "capital-markets"
  approvedVendors := {vendor}
  maxClassification := AList.singleton vendor .restricted
  permitsRestrictedData := true

def llama : TierPricing where
  tier := .economy
  deployment := lit "llama"
  costPerRequestUsd := .literal 6 3
  vendor := .openWeight
  serving := .managedCompute

def gpt : TierPricing where
  tier := .economy
  deployment := lit "gpt"
  costPerRequestUsd := .literal 3 3

theorem llama_selected : ∃ entry, entry.deployment = lit "llama" ∧
    RestrictedEntry [gpt, llama] (restrictedTo .openWeight) entry := by
  have hplan : (plan filing [gpt, llama] (restrictedTo .openWeight)).map (·.selectedDeployment) =
      some (some (lit "llama")) := by decide +kernel
  obtain ⟨decision, hdecision, hselected⟩ := Option.map_eq_some_iff.mp hplan
  obtain ⟨entry, hdeployment, _, _, hentry⟩ :=
    restricted_selection filing [gpt, llama] (restrictedTo .openWeight) rfl hdecision hselected
  exact ⟨entry, hdeployment, hentry⟩

/-- A valid policy set sends a Restricted request to a serverless endpoint. -/
theorem gpt_selected : PolicySetValidator.validate (restrictedTo .azureOpenAI) = none ∧
    filing.dataClassification = .restricted ∧
    ∃ decision, plan filing [gpt] (restrictedTo .azureOpenAI) = some decision ∧
      decision.selectedDeployment = some gpt.deployment ∧
      decision.selectedVendor = some .azureOpenAI ∧ gpt.serving = .serverless := by
  have hvalid : (PolicySetValidator.validate (restrictedTo .azureOpenAI)).isNone = true := by
    decide +kernel
  have hplan : (plan filing [gpt] (restrictedTo .azureOpenAI)).map
      (fun decision => (decision.selectedDeployment, decision.selectedVendor)) =
        some (some gpt.deployment, some .azureOpenAI) := by decide +kernel
  obtain ⟨decision, hdecision, hfields⟩ := Option.map_eq_some_iff.mp hplan
  obtain ⟨hdeployment, hvendor⟩ := Prod.mk.inj hfields
  exact ⟨Option.isNone_iff_eq_none.mp hvalid, rfl, decision, hdecision, hdeployment, hvendor, rfl⟩

end Samples

end Fcmr.RouterDecisions
