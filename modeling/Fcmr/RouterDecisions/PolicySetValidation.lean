import Fcmr.RouterDecisions.Catalog

/-! Which policy sets may be stored: the limits are those of the approved vendors, and a set
that is declared to permit Restricted data can serve it. -/
namespace Fcmr.RouterDecisions

open DotNet

def ModelVendor.all : List ModelVendor := [azureOpenAI, anthropic, xai, openWeight]

inductive PolicyValidationFailure
  | classificationNamesUnapprovedVendor
  | approvedVendorHasNoClassification
  | restrictedDataUnservable
  deriving DecidableEq

structure PolicyValidationError where
  failure : PolicyValidationFailure
  message : Text

def PolicyValidationError.statusCode (error : PolicyValidationError) : Nat :=
  match error.failure with
  | .restrictedDataUnservable => 422
  | _ => 400

namespace PolicySetValidator

def servesRestricted (candidate : PolicySet) (vendor : ModelVendor) : Bool :=
  match candidate.maxClassification.lookup vendor with
  | none => false
  | some max => DataClassification.restricted.value ≤ max.value

def canServeRestricted (candidate : PolicySet) : Bool :=
  ModelVendor.all.any fun vendor =>
    vendor ∈ candidate.approvedVendors && servesRestricted candidate vendor

/-- The first failure; `none` accepts. The vendors are looked at in the order in which the
set lists its limits, and then in the order of the enumeration. -/
def validate (candidate : PolicySet) : Option PolicyValidationError :=
  match candidate.maxClassification.keys.find? fun vendor => vendor ∉ candidate.approvedVendors with
  | some vendor => some {
      failure := .classificationNamesUnapprovedVendor
      message := lit "maxClassification names vendor " ++ vendor.text ++
        lit ", which is not in approvedVendors. " ++
        lit "A classification limit for an unapproved vendor has no effect and hides intent." }
  | none =>
    match ModelVendor.all.find? fun vendor => vendor ∈ candidate.approvedVendors &&
        (candidate.maxClassification.lookup vendor).isNone with
    | some vendor => some {
        failure := .approvedVendorHasNoClassification
        message := lit "Vendor " ++ vendor.text ++
          lit " is approved but has no maxClassification entry, so the gate would " ++
          lit "exclude it from every request. Approving a vendor that can never be selected is " ++
          lit "almost certainly not what the approver meant." }
    | none =>
      if candidate.permitsRestrictedData && !canServeRestricted candidate then some {
        failure := .restrictedDataUnservable
        message := lit "Policy set '" ++ candidate.id ++
          lit "' is declared to permit Restricted data, but no approved " ++
          lit "vendor may process it. Every restricted request would be refused." }
      else none

end PolicySetValidator

structure PolicySet.Valid (candidate : PolicySet) : Prop where
  limits : ∀ vendor, vendor ∈ candidate.approvedVendors ↔ vendor ∈ candidate.maxClassification
  servable : candidate.permitsRestrictedData = true → ∃ vendor ∈ candidate.approvedVendors,
    candidate.maxClassification.lookup vendor = some .restricted

theorem ModelVendor.mem_all (vendor : ModelVendor) : vendor ∈ all := by
  cases vendor <;> decide

namespace PolicySetValidator

theorem servesRestricted_iff {candidate : PolicySet} {vendor : ModelVendor} :
    servesRestricted candidate vendor = true ↔
      candidate.maxClassification.lookup vendor = some .restricted := by
  unfold servesRestricted
  cases candidate.maxClassification.lookup vendor with
  | none => simp
  | some max => cases max <;> decide

theorem canServeRestricted_iff {candidate : PolicySet} : canServeRestricted candidate = true ↔
    ∃ vendor ∈ candidate.approvedVendors,
      candidate.maxClassification.lookup vendor = some .restricted := by
  simp only [canServeRestricted, List.any_eq_true, Bool.and_eq_true, decide_eq_true_eq,
    servesRestricted_iff, ModelVendor.mem_all, true_and]

theorem find_unapproved {candidate : PolicySet} :
    (candidate.maxClassification.keys.find? fun vendor => vendor ∉ candidate.approvedVendors) =
        none ↔
      ∀ vendor ∈ candidate.maxClassification, vendor ∈ candidate.approvedVendors := by
  rw [List.find?_eq_none]
  simp only [decide_eq_true_eq, not_not]
  exact Iff.rfl

theorem find_unlimited {candidate : PolicySet} :
    (ModelVendor.all.find? fun vendor => vendor ∈ candidate.approvedVendors &&
        (candidate.maxClassification.lookup vendor).isNone) = none ↔
      ∀ vendor ∈ candidate.approvedVendors, vendor ∈ candidate.maxClassification := by
  simp only [List.find?_eq_none, ModelVendor.mem_all, forall_const, Bool.and_eq_true,
    decide_eq_true_eq, Option.isNone_iff_eq_none, AList.lookup_eq_none, not_and, not_not]

theorem validate_cases (candidate : PolicySet) :
    (∃ error, validate candidate = some error ∧ error.statusCode = 400 ∧
      ¬∀ vendor, vendor ∈ candidate.approvedVendors ↔ vendor ∈ candidate.maxClassification) ∨
    (∃ error, validate candidate = some error ∧ error.statusCode = 422 ∧
      (∀ vendor, vendor ∈ candidate.approvedVendors ↔ vendor ∈ candidate.maxClassification) ∧
      candidate.permitsRestrictedData = true ∧ canServeRestricted candidate = false) ∨
    (validate candidate = none ∧ candidate.Valid) := by
  unfold validate
  split
  case h_1 hfind =>
    refine .inl ⟨_, rfl, rfl, fun hlimits => ?_⟩
    rw [find_unapproved.mpr fun vendor => (hlimits vendor).mpr] at hfind
    cases hfind
  case h_2 hfind =>
    have happroved := find_unapproved.mp hfind
    split
    case h_1 hfind' =>
      refine .inl ⟨_, rfl, rfl, fun hlimits => ?_⟩
      rw [find_unlimited.mpr fun vendor => (hlimits vendor).mp] at hfind'
      cases hfind'
    case h_2 hfind' =>
      have hlimits : ∀ vendor, vendor ∈ candidate.approvedVendors ↔
          vendor ∈ candidate.maxClassification :=
        fun vendor => ⟨find_unlimited.mp hfind' vendor, happroved vendor⟩
      split
      case isTrue hrestricted =>
        obtain ⟨hpermits, hcannot⟩ := Bool.and_eq_true_iff.mp hrestricted
        exact .inr (.inl ⟨_, rfl, rfl, hlimits, hpermits, by simpa using hcannot⟩)
      case isFalse hrestricted =>
        refine .inr (.inr ⟨rfl, hlimits, fun hpermits => canServeRestricted_iff.mp ?_⟩)
        simpa [hpermits] using hrestricted

theorem validate_eq_none {candidate : PolicySet} :
    validate candidate = none ↔ candidate.Valid := by
  rcases validate_cases candidate with
    ⟨error, hsome, _, hlimits⟩ | ⟨error, hsome, _, _, hpermits, hcannot⟩ | ⟨hnone, hvalid⟩
  · rw [hsome]
    exact ⟨nofun, fun h => absurd h.limits hlimits⟩
  · rw [hsome]
    refine ⟨nofun, fun h => ?_⟩
    rw [canServeRestricted_iff.mpr (h.servable hpermits)] at hcannot
    cases hcannot
  · exact ⟨fun _ => hvalid, fun _ => hnone⟩

end PolicySetValidator

end Fcmr.RouterDecisions
