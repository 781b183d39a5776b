import Fcmr.DotNet.Text
import Mathlib.Data.List.Infix

/-! The screen for payload keys that name a model. Fragments are looked for anywhere in the
normalised key; a permitted word anywhere in it lifts the screen. -/
namespace Fcmr.RouterService

open DotNet

namespace RouteRequestValidator

def forbiddenPayloadKeyFragments : List Text :=
  [lit "model", lit "deployment", lit "vendor", lit "provider", lit "tier", lit "engine", lit "llm"]

def permittedDespiteFragment : List Text :=
  [lit "modelling", lit "modeling", lit "modelled", lit "modeled", lit "remodel"]

def toLower (c : CodeUnit) : CodeUnit := if 0x41 ≤ c && c ≤ 0x5A then c + 0x20 else c

def normalise (key : Text) : Text := (key.filter isAsciiLetterOrDigit).map toLower

def containsAny (normalised : Text) (fragments : List Text) : Bool :=
  fragments.any fun fragment => fragment <:+: normalised

def namesAModel (key : Text) : Bool :=
  if containsAny (normalise key) permittedDespiteFragment then false
  else containsAny (normalise key) forbiddenPayloadKeyFragments

theorem normalise_append (key key' : Text) :
    normalise (key ++ key') = normalise key ++ normalise key' := by
  unfold normalise
  rw [List.filter_append, List.map_append]

theorem containsAny_iff {normalised : Text} {fragments : List Text} :
    containsAny normalised fragments = true ↔ ∃ fragment ∈ fragments, fragment <:+: normalised := by
  simp [containsAny]

theorem containsAny_append {normalised : Text} {fragments : List Text} (before after : Text)
    (h : containsAny normalised fragments = true) :
    containsAny (before ++ normalised ++ after) fragments = true := by
  rw [containsAny_iff] at h ⊢
  obtain ⟨fragment, hfragment, hinfix⟩ := h
  exact ⟨fragment, hfragment, hinfix.trans (List.infix_append before normalised after)⟩

/-- What lifts the screen can only be a permitted word. -/
theorem namesAModel_append {key : Text} (h : namesAModel key = true) (before after : Text)
    (hword : ∀ word ∈ permittedDespiteFragment, ¬word <:+: normalise (before ++ key ++ after)) :
    namesAModel (before ++ key ++ after) = true := by
  have hforbidden : containsAny (normalise key) forbiddenPayloadKeyFragments = true := by
    unfold namesAModel at h
    split at h
    · cases h
    · exact h
  unfold namesAModel
  rw [if_neg]
  · rw [normalise_append, normalise_append]
    exact containsAny_append _ _ hforbidden
  · intro hpermitted
    obtain ⟨word, hmem, hinfix⟩ := containsAny_iff.mp hpermitted
    exact hword word hmem hinfix

theorem model_name_rejected : namesAModel (lit "target-" ++ lit "Model" ++ lit "_name") = true :=
  namesAModel_append (by decide) (lit "target-") (lit "_name") (by decide)

/-- The ending makes a permitted word of a key that is rejected. -/
theorem modelling_accepted :
    namesAModel (lit "model") = true ∧ namesAModel (lit "" ++ lit "model" ++ lit "ling") = false := by
  decide

end RouteRequestValidator

end Fcmr.RouterService
