import Fcmr.DotNet.Formats
import Fcmr.RouterDecisions.Catalog

/-! The governance gate: which catalog entries a policy set permits, and why it rules
out the others. -/
namespace Fcmr.RouterDecisions

open DotNet

structure PolicyEvaluation where
  eligible : List TierPricing
  excluded : List PolicyExclusion
  policySetId : Text
  policySetVersion : Int32

def PolicyEvaluation.noEligibleModels (evaluation : PolicyEvaluation) : Bool :=
  evaluation.eligible.isEmpty

namespace PolicyGate

def regionPermitted (policy : PolicySet) (executionRegion : Option Text) : Bool :=
  match executionRegion with
  | none => true
  | some region => policy.allowedRegions.card = 0 || region ∈ policy.allowedRegions

def exclude (candidate : TierPricing) (kind : PolicyExclusionKind) (reason : Text) :
    PolicyExclusion where
  deployment := candidate.deployment
  vendor := candidate.vendor
  kind := kind
  reason := reason

def withinClassification (policy : PolicySet) (classification : DataClassification)
    (vendor : ModelVendor) : Bool :=
  match policy.maxClassification.lookup vendor with
  | none => false
  | some permitted => classification.value ≤ permitted.value

/-- The checks of one candidate: `none` is eligible. -/
def exclusion (policy : PolicySet) (classification : DataClassification)
    (candidate : TierPricing) : Option PolicyExclusion :=
  if candidate.vendor ∉ policy.approvedVendors then
    some <| exclude candidate .vendorNotApproved <|
      lit "Vendor " ++ candidate.vendor.text ++ lit " is not approved under policy set '" ++
        policy.id ++ lit "'."
  else if withinClassification policy classification candidate.vendor = false then
    some <| exclude candidate .classificationExceeded <|
      lit "Data classification " ++ classification.text ++
        lit " exceeds the maximum permitted for vendor " ++ candidate.vendor.text ++ lit "."
  else if policy.maxCostPerRequestUsd.value < candidate.costPerRequestUsd.value then
    some <| exclude candidate .policyCostCeiling <|
      lit "Projected " ++ candidate.costPerRequestUsd.placesText 3 ++
        lit " USD exceeds the policy ceiling of " ++ policy.maxCostPerRequestUsd.placesText 3 ++
        lit " USD."
  else none

def result (eligible : List TierPricing) (excluded : List PolicyExclusion) (policy : PolicySet) :
    PolicyEvaluation where
  eligible := eligible
  excluded := excluded
  policySetId := policy.id
  policySetVersion := policy.version

def evaluate (catalog : List TierPricing) (policy : PolicySet) (classification : DataClassification)
    (executionRegion : Option Text) : PolicyEvaluation :=
  if regionPermitted policy executionRegion = false then
    result [] (catalog.map fun candidate => exclude candidate .regionNotPermitted <|
      lit "Execution region '" ++ executionRegion.getD [] ++
        lit "' is not permitted by policy set '" ++ policy.id ++ lit "'.") policy
  else
    result (catalog.filter fun candidate => (exclusion policy classification candidate).isNone)
      (catalog.filterMap (exclusion policy classification)) policy

end PolicyGate

/-- What governance asks of an entry, for data of a classification in a region. -/
structure Permitted (policy : PolicySet) (classification : DataClassification)
    (executionRegion : Option Text) (entry : TierPricing) : Prop where
  region : ∀ region, executionRegion = some region →
    policy.allowedRegions = ∅ ∨ region ∈ policy.allowedRegions
  approved : entry.vendor ∈ policy.approvedVendors
  classified : ∃ permitted, policy.maxClassification.lookup entry.vendor = some permitted ∧
    classification.value ≤ permitted.value
  affordable : entry.costPerRequestUsd.value ≤ policy.maxCostPerRequestUsd.value

namespace PolicyGate

theorem regionPermitted_iff {policy : PolicySet} {executionRegion : Option Text} :
    regionPermitted policy executionRegion = true ↔ ∀ region, executionRegion = some region →
      policy.allowedRegions = ∅ ∨ region ∈ policy.allowedRegions := by
  cases executionRegion with
  | none => simp [regionPermitted]
  | some region => simp [regionPermitted]

theorem withinClassification_iff {policy : PolicySet} {classification : DataClassification}
    {vendor : ModelVendor} : withinClassification policy classification vendor = true ↔
      ∃ permitted, policy.maxClassification.lookup vendor = some permitted ∧
        classification.value ≤ permitted.value := by
  unfold withinClassification
  split
  · rename_i hnone
    simp [hnone]
  · rename_i permitted hsome
    simp [hsome]

theorem exclusion_eq_none {policy : PolicySet} {classification : DataClassification}
    {candidate : TierPricing} : exclusion policy classification candidate = none ↔
      candidate.vendor ∈ policy.approvedVendors ∧
      withinClassification policy classification candidate.vendor = true ∧
      candidate.costPerRequestUsd.value ≤ policy.maxCostPerRequestUsd.value := by
  unfold exclusion
  split
  · rename_i hvendor
    exact ⟨nofun, fun h => absurd h.1 hvendor⟩
  split
  · rename_i hclassification
    exact ⟨nofun, fun h => nomatch h.2.1.symm.trans hclassification⟩
  split
  · rename_i hcost
    exact ⟨nofun, fun h => absurd h.2.2 (not_le_of_gt hcost)⟩
  rename_i hvendor hclassification hcost
  exact ⟨fun _ => ⟨not_not.mp hvendor, Bool.eq_true_of_not_eq_false hclassification,
    le_of_not_gt hcost⟩, fun _ => rfl⟩

theorem mem_eligible {catalog : List TierPricing} {policy : PolicySet}
    {classification : DataClassification} {executionRegion : Option Text} {entry : TierPricing} :
    entry ∈ (evaluate catalog policy classification executionRegion).eligible ↔
      entry ∈ catalog ∧ Permitted policy classification executionRegion entry := by
  unfold evaluate
  split
  · rename_i hregion
    constructor
    · nofun
    · rintro ⟨_, h⟩
      cases hregion.symm.trans (regionPermitted_iff.mpr h.region)
  · rename_i hregion
    have hpermitted := regionPermitted_iff.mp (Bool.eq_true_of_not_eq_false hregion)
    simp only [result, List.mem_filter, Option.isNone_iff_eq_none, exclusion_eq_none,
      withinClassification_iff]
    constructor
    · rintro ⟨hmem, hvendor, hclassification, hcost⟩
      exact ⟨hmem, hpermitted, hvendor, hclassification, hcost⟩
    · rintro ⟨hmem, h⟩
      exact ⟨hmem, h.approved, h.classified, h.affordable⟩

end PolicyGate

end Fcmr.RouterDecisions
