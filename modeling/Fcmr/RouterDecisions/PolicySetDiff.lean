import Fcmr.DotNet.Formats
import Fcmr.Library.StableSort
import Fcmr.RouterDecisions.PolicySetValidation
import Mathlib.Data.Finset.Sort

/-! What a change of a policy set is recorded as: for every governed field that moved, how it
read before and after. Vendors and limits are read back from their rendering; regions are
arbitrary strings between commas, and an amount has three decimal places. -/
namespace Fcmr.RouterDecisions

open DotNet

structure PolicySetFieldChange where
  field : Text
  fromText : Text
  toText : Text

namespace InMemoryPolicySetRepository

def renderVendors (vendors : Finset ModelVendor) : Text :=
  join (lit ", ") <| StableSort.sortBy id <|
    (ModelVendor.all.filter fun vendor => vendor ∈ vendors).map (·.text)

def sortedRegions (regions : Finset Text) : List Text := regions.sort

def renderRegions (regions : Finset Text) : Text := join (lit ", ") (sortedRegions regions)

def renderClassification (entry : Σ _ : ModelVendor, DataClassification) : Text :=
  entry.1.text ++ lit "=" ++ entry.2.text

def renderClassifications (map : AList fun _ : ModelVendor => DataClassification) : Text :=
  join (lit ", ") <|
    (StableSort.sortBy (fun entry => entry.1.text) map.entries).map renderClassification

def boolText (value : Bool) : Text := if value then lit "True" else lit "False"

def renderedChange (field fromText toText : Text) : List PolicySetFieldChange :=
  if fromText = toText then [] else [{ field, fromText, toText }]

def diff (before after : PolicySet) : List PolicySetFieldChange :=
  renderedChange (lit "approvedVendors") (renderVendors before.approvedVendors)
      (renderVendors after.approvedVendors) ++
    renderedChange (lit "maxClassification") (renderClassifications before.maxClassification)
      (renderClassifications after.maxClassification) ++
    renderedChange (lit "allowedRegions") (renderRegions before.allowedRegions)
      (renderRegions after.allowedRegions) ++
    (if before.maxCostPerRequestUsd.value = after.maxCostPerRequestUsd.value then []
    else
      [{ field := lit "maxCostPerRequestUsd"
         fromText := before.maxCostPerRequestUsd.placesText 3
         toText := after.maxCostPerRequestUsd.placesText 3 }]) ++
    if before.permitsRestrictedData = after.permitsRestrictedData then []
    else
      [{ field := lit "permitsRestrictedData"
         fromText := boolText before.permitsRestrictedData
         toText := boolText after.permitsRestrictedData }]

theorem text_ne_nil (vendor : ModelVendor) : vendor.text ≠ [] := by
  cases vendor <;> decide

theorem comma_not_mem_text (vendor : ModelVendor) : digit ',' ∉ vendor.text := by
  cases vendor <;> decide

theorem classificationText_injective : Function.Injective DataClassification.text := by
  intro classification classification' h
  cases classification <;> cases classification' <;> first | rfl | exact absurd h (by decide)

theorem mem_vendorTexts {vendors : Finset ModelVendor} {vendor : ModelVendor} :
    vendor.text ∈ StableSort.sortBy id
      ((ModelVendor.all.filter fun vendor => vendor ∈ vendors).map (·.text)) ↔ vendor ∈ vendors := by
  rw [(StableSort.sortBy_perm _).mem_iff, List.mem_map_of_injective ModelVendor.text_injective]
  simp [ModelVendor.mem_all]

theorem renderVendors_injective : Function.Injective renderVendors := by
  have hwords {vendors : Finset ModelVendor} : ∀ word ∈ StableSort.sortBy id
      ((ModelVendor.all.filter fun vendor => vendor ∈ vendors).map (·.text)),
      word ≠ [] ∧ digit ',' ∉ word := by
    intro word hword
    obtain ⟨vendor, _, rfl⟩ := List.mem_map.mp ((StableSort.sortBy_perm _).mem_iff.mp hword)
    exact ⟨text_ne_nil vendor, comma_not_mem_text vendor⟩
  intro vendors vendors' h
  have hlists := Codes.intercalate_injective hwords hwords h
  ext vendor
  rw [← mem_vendorTexts, hlists, mem_vendorTexts]

theorem renderClassification_injective : Function.Injective renderClassification := by
  have hmark (vendor : ModelVendor) : digit '=' ∉ vendor.text := by cases vendor <;> decide
  rintro ⟨vendor, classification⟩ ⟨vendor', classification'⟩ h
  simp only [renderClassification, List.append_assoc] at h
  obtain ⟨hvendor, hclassification⟩ := Codes.split_unique (hmark vendor) (hmark vendor') h
  obtain rfl := ModelVendor.text_injective hvendor
  obtain rfl := classificationText_injective hclassification
  rfl

theorem renderClassifications_eq {map map' : AList fun _ : ModelVendor => DataClassification} :
    renderClassifications map = renderClassifications map' ↔
      ∀ vendor, map.lookup vendor = map'.lookup vendor := by
  have hwords {entries : List (Σ _ : ModelVendor, DataClassification)} :
      ∀ word ∈ entries.map renderClassification, word ≠ [] ∧ digit ',' ∉ word := by
    intro word hword
    obtain ⟨⟨vendor, classification⟩, _, rfl⟩ := List.mem_map.mp hword
    cases vendor <;> cases classification <;> decide
  constructor
  · intro h
    have hlists := Codes.intercalate_injective hwords hwords h
    have hentries := (List.map_inj_right renderClassification_injective).mp hlists
    have hperm : map.entries.Perm map'.entries :=
      ((StableSort.sortBy_perm _).symm.trans (.of_eq hentries)).trans (StableSort.sortBy_perm _)
    exact fun vendor => List.perm_dlookup vendor map.nodupKeys hperm
  · intro h
    have hperm : map.entries.Perm map'.entries :=
      List.lookup_ext map.nodupKeys map'.nodupKeys fun vendor classification => by
        rw [show map.entries.dlookup vendor = map'.entries.dlookup vendor from h vendor]
    unfold renderClassifications
    rw [StableSort.map_sortBy_eq_of_perm _ hperm]
    intro entry hentry other hother htext
    rw [map.nodupKeys.eq_of_fst_eq hentry hother (ModelVendor.text_injective htext)]

theorem boolText_injective : Function.Injective boolText := by
  intro value value' h
  cases value <;> cases value' <;> first | rfl | exact absurd h (by decide)

end InMemoryPolicySetRepository

open InMemoryPolicySetRepository

def Reported (before after : PolicySet) (field : Text) : Prop :=
  ∃ change ∈ diff before after, change.field = field

/-- The fields that are reported are those that differ, and what is reported shows it. -/
structure Faithful (before after : PolicySet) : Prop where
  vendors : Reported before after (lit "approvedVendors") ↔
    before.approvedVendors ≠ after.approvedVendors
  classifications : Reported before after (lit "maxClassification") ↔
    ∃ vendor, before.maxClassification.lookup vendor ≠ after.maxClassification.lookup vendor
  regions : Reported before after (lit "allowedRegions") ↔
    before.allowedRegions ≠ after.allowedRegions
  ceiling : Reported before after (lit "maxCostPerRequestUsd") ↔
    before.maxCostPerRequestUsd.value ≠ after.maxCostPerRequestUsd.value
  restricted : Reported before after (lit "permitsRestrictedData") ↔
    before.permitsRestrictedData ≠ after.permitsRestrictedData
  visible : ∀ change ∈ diff before after, change.fromText ≠ change.toText

variable {before after : PolicySet}

theorem mem_diff {change : PolicySetFieldChange} : change ∈ diff before after ↔
    (renderVendors before.approvedVendors ≠ renderVendors after.approvedVendors ∧
      change = { field := lit "approvedVendors", fromText := renderVendors before.approvedVendors,
                 toText := renderVendors after.approvedVendors }) ∨
    (renderClassifications before.maxClassification ≠
        renderClassifications after.maxClassification ∧
      change = { field := lit "maxClassification",
                 fromText := renderClassifications before.maxClassification,
                 toText := renderClassifications after.maxClassification }) ∨
    (renderRegions before.allowedRegions ≠ renderRegions after.allowedRegions ∧
      change = { field := lit "allowedRegions", fromText := renderRegions before.allowedRegions,
                 toText := renderRegions after.allowedRegions }) ∨
    (before.maxCostPerRequestUsd.value ≠ after.maxCostPerRequestUsd.value ∧
      change = { field := lit "maxCostPerRequestUsd",
                 fromText := before.maxCostPerRequestUsd.placesText 3,
                 toText := after.maxCostPerRequestUsd.placesText 3 }) ∨
    (before.permitsRestrictedData ≠ after.permitsRestrictedData ∧
      change = { field := lit "permitsRestrictedData",
                 fromText := boolText before.permitsRestrictedData,
                 toText := boolText after.permitsRestrictedData }) := by
  have hentry {p : Prop} [Decidable p] {entry : PolicySetFieldChange} :
      change ∈ (if p then [] else [entry]) ↔ ¬p ∧ change = entry := by
    split
    · rename_i hp
      simp [hp]
    · rename_i hp
      simp [hp]
  simp only [diff, renderedChange, List.mem_append, hentry, or_assoc, ne_eq]

theorem reported_iff {field : Text} : Reported before after field ↔
    (renderVendors before.approvedVendors ≠ renderVendors after.approvedVendors ∧
      lit "approvedVendors" = field) ∨
    (renderClassifications before.maxClassification ≠
        renderClassifications after.maxClassification ∧ lit "maxClassification" = field) ∨
    (renderRegions before.allowedRegions ≠ renderRegions after.allowedRegions ∧
      lit "allowedRegions" = field) ∨
    (before.maxCostPerRequestUsd.value ≠ after.maxCostPerRequestUsd.value ∧
      lit "maxCostPerRequestUsd" = field) ∨
    (before.permitsRestrictedData ≠ after.permitsRestrictedData ∧
      lit "permitsRestrictedData" = field) := by
  unfold Reported
  simp only [mem_diff, or_and_right, exists_or, and_assoc, exists_and_left, exists_eq_left]

theorem reported_vendors : Reported before after (lit "approvedVendors") ↔
    before.approvedVendors ≠ after.approvedVendors := by
  rw [reported_iff]
  simp +decide only [and_true, and_false, or_false]
  exact renderVendors_injective.ne_iff

theorem reported_classifications : Reported before after (lit "maxClassification") ↔
    ∃ vendor, before.maxClassification.lookup vendor ≠ after.maxClassification.lookup vendor := by
  rw [reported_iff, ← not_forall, ← renderClassifications_eq]
  simp +decide only [and_true, and_false, or_false, false_or]

theorem reported_regions : Reported before after (lit "allowedRegions") ↔
    renderRegions before.allowedRegions ≠ renderRegions after.allowedRegions := by
  rw [reported_iff]
  simp +decide only [and_true, and_false, or_false, false_or]

theorem reported_ceiling : Reported before after (lit "maxCostPerRequestUsd") ↔
    before.maxCostPerRequestUsd.value ≠ after.maxCostPerRequestUsd.value := by
  rw [reported_iff]
  simp +decide only [and_true, and_false, or_false, false_or]

theorem reported_restricted : Reported before after (lit "permitsRestrictedData") ↔
    before.permitsRestrictedData ≠ after.permitsRestrictedData := by
  rw [reported_iff]
  simp +decide only [and_true, and_false, false_or]

theorem visible_iff : (∀ change ∈ diff before after, change.fromText ≠ change.toText) ↔
    before.maxCostPerRequestUsd.value = after.maxCostPerRequestUsd.value ∨
      before.maxCostPerRequestUsd.rounded 3 ≠ after.maxCostPerRequestUsd.rounded 3 := by
  constructor
  · intro hvisible
    by_cases hvalue : before.maxCostPerRequestUsd.value = after.maxCostPerRequestUsd.value
    · exact .inl hvalue
    · right
      rw [ne_eq, ← Decimal.placesText_inj]
      exact hvisible _ (mem_diff.mpr (.inr (.inr (.inr (.inl ⟨hvalue, rfl⟩)))))
  · intro hceiling change hchange
    rcases mem_diff.mp hchange with ⟨hne, rfl⟩ | ⟨hne, rfl⟩ | ⟨hne, rfl⟩ | ⟨hne, rfl⟩ | ⟨hne, rfl⟩
    · exact hne
    · exact hne
    · exact hne
    · exact mt Decimal.placesText_inj.mp (hceiling.resolve_left hne)
    · exact boolText_injective.ne hne

/-- Exactly when the record of a change is complete and faithful: the region sets are not
joined to one text, and the ceilings are not rounded to one amount. -/
theorem faithful_iff (before after : PolicySet) : Faithful before after ↔
    (before.allowedRegions = after.allowedRegions ∨
      join (lit ", ") (sortedRegions before.allowedRegions) ≠
        join (lit ", ") (sortedRegions after.allowedRegions)) ∧
    (before.maxCostPerRequestUsd.value = after.maxCostPerRequestUsd.value ∨
      before.maxCostPerRequestUsd.rounded 3 ≠ after.maxCostPerRequestUsd.rounded 3) := by
  constructor
  · intro h
    refine ⟨?_, visible_iff.mp h.visible⟩
    by_cases hregions : before.allowedRegions = after.allowedRegions
    · exact .inl hregions
    · exact .inr (reported_regions.mp (h.regions.mpr hregions))
  · rintro ⟨hregions, hceiling⟩
    exact {
      vendors := reported_vendors
      classifications := reported_classifications
      regions := reported_regions.trans
        ⟨fun hne heq => hne (congrArg renderRegions heq), hregions.resolve_left⟩
      ceiling := reported_ceiling
      restricted := reported_restricted
      visible := visible_iff.mpr hceiling }

theorem renderRegions_injOn {regions regions' : Finset Text}
    (h : ∀ region ∈ regions, region ≠ [] ∧ digit ',' ∉ region)
    (h' : ∀ region ∈ regions', region ≠ [] ∧ digit ',' ∉ region) :
    renderRegions regions = renderRegions regions' ↔ regions = regions' := by
  refine ⟨fun heq => ?_, fun heq => heq ▸ rfl⟩
  have hlists : sortedRegions regions = sortedRegions regions' :=
    Codes.intercalate_injective (fun region hregion => h region ((Finset.mem_sort _).mp hregion))
      (fun region hregion => h' region ((Finset.mem_sort _).mp hregion)) heq
  ext region
  have hmem : region ∈ sortedRegions regions ↔ region ∈ sortedRegions regions' := by rw [hlists]
  simpa only [sortedRegions, Finset.mem_sort] using hmem

namespace Samples

def regional (allowedRegions : Finset Text) (maxCostPerRequestUsd : Decimal) : PolicySet where
  id := lit "CapitalMarkets-US"
  businessUnit := lit "capital-markets"
  approvedVendors := {.anthropic}
  maxClassification := AList.singleton .anthropic .confidential
  allowedRegions := allowedRegions
  maxCostPerRequestUsd := maxCostPerRequestUsd

theorem regions_joined : renderRegions {lit "eastus2, westus3"} =
    renderRegions {lit "eastus2", lit "westus3"} := by
  have hsorted : sortedRegions {lit "eastus2", lit "westus3"} =
      [lit "eastus2", lit "westus3"] := by
    unfold sortedRegions
    rw [Finset.sort_insert, Finset.sort_singleton]
    · decide
    · decide
  unfold renderRegions
  rw [hsorted, sortedRegions, Finset.sort_singleton]
  decide

/-- One region becomes two, and a ceiling moves by less than a thousandth. -/
theorem changes_hidden :
    (diff (regional {lit "eastus2, westus3"} (.literal 4 3))
        (regional {lit "eastus2", lit "westus3"} (.literal 4 3)) = [] ∧
      ¬Faithful (regional {lit "eastus2, westus3"} (.literal 4 3))
        (regional {lit "eastus2", lit "westus3"} (.literal 4 3))) ∧
    diff (regional ∅ (.literal 41 4)) (regional ∅ (.literal 42 4)) =
        [⟨lit "maxCostPerRequestUsd", lit "0.004", lit "0.004"⟩] ∧
      ¬Faithful (regional ∅ (.literal 41 4)) (regional ∅ (.literal 42 4)) := by
  have hnone : diff (regional {lit "eastus2, westus3"} (.literal 4 3))
      (regional {lit "eastus2", lit "westus3"} (.literal 4 3)) = [] := by
    simp [diff, renderedChange, regional, regions_joined]
  have hone : diff (regional ∅ (.literal 41 4)) (regional ∅ (.literal 42 4)) =
      [⟨lit "maxCostPerRequestUsd", lit "0.004", lit "0.004"⟩] := by
    have hvalue : (Decimal.literal 41 4).value ≠ (Decimal.literal 42 4).value := by decide +kernel
    have htext : (Decimal.literal 41 4).placesText 3 = lit "0.004" := by decide +kernel
    have htext' : (Decimal.literal 42 4).placesText 3 = lit "0.004" := by decide +kernel
    simp [diff, renderedChange, regional, hvalue, htext, htext']
  refine ⟨⟨hnone, fun h => ?_⟩, hone, fun h => ?_⟩
  · obtain ⟨change, hchange, _⟩ := h.regions.mpr (by decide)
    rw [hnone] at hchange
    cases hchange
  · exact h.visible _ (hone ▸ List.mem_cons_self) rfl

end Samples

end Fcmr.RouterDecisions
