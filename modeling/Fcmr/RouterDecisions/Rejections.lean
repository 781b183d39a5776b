import Fcmr.RouterDecisions.Candidates
import Fcmr.RouterDecisions.Outcomes

/-! Whether the reason recorded with a candidate is true of it. The reason for the selected
tier says that the candidate costs more, which the code never compares. -/
namespace Fcmr.RouterDecisions

open DotNet

namespace TierSelector

inductive Rejected (chosen : Option TierPricing) (ceiling : Decimal)
    (indicated : Option ModelTier) (entry : TierPricing) : Text → Prop
  | unavailable (h : entry.available = false) :
      Rejected chosen ceiling indicated entry (lit "Model unavailable.")
  | overCeiling (h : ceiling.value < entry.costPerRequestUsd.value) (rest : Text) :
      Rejected chosen ceiling indicated entry (lit "Projected " ++ rest)
  | sameTier (reachable : Reachable ceiling entry) {selected : TierPricing}
      (hchosen : chosen = some selected) (tier : entry.tier = selected.tier) (rest : Text) :
      Rejected chosen ceiling indicated entry
        (lit "Same tier as the selected model at a higher projected cost (" ++ rest)
  | above (reachable : Reachable ceiling entry) {tier : ModelTier}
      (hindicated : indicated = some tier) (h : tier.value < entry.tier.value) :
      Rejected chosen ceiling indicated entry <| lit <|
        "Above the tier indicated by task complexity; no measured quality gain for this task kind."
  | below (reachable : Reachable ceiling entry)
      (otherTier : ∀ selected, chosen = some selected → entry.tier ≠ selected.tier)
      (notAbove : ∀ tier, indicated = some tier → entry.tier.value ≤ tier.value) :
      Rejected chosen ceiling indicated entry (lit "Below the tier indicated by task complexity.")

theorem rejection_rejected (chosen : Option TierPricing) (ceiling : Decimal)
    (indicated : Option ModelTier) (entry : TierPricing) :
    Rejected chosen ceiling indicated entry (rejection chosen ceiling indicated entry) := by
  unfold rejection
  split
  case isTrue hunavailable => exact .unavailable hunavailable
  case isFalse havailable =>
    split
    case isTrue hover =>
      simp only [List.append_assoc]
      exact .overCeiling hover _
    case isFalse hwithin =>
      have hreachable : Reachable ceiling entry :=
        ⟨Bool.eq_true_of_not_eq_false havailable, not_lt.mp hwithin⟩
      split
      case h_1 selected hselected =>
        obtain ⟨hchosen, htier⟩ := Option.filter_eq_some_iff.mp hselected
        simp only [List.append_assoc]
        exact .sameTier hreachable hchosen (of_decide_eq_true htier) _
      case h_2 hnone =>
        have hother : ∀ selected, chosen = some selected → entry.tier ≠ selected.tier := by
          rintro selected rfl htier
          rw [Option.filter_some, if_pos (decide_eq_true htier)] at hnone
          cases hnone
        split
        case isTrue habove =>
          obtain ⟨tier, hindicated, hlt⟩ := (Option.any_eq_true ..).mp habove
          exact .above hreachable hindicated (of_decide_eq_true hlt)
        case isFalse hnot =>
          refine .below hreachable hother fun tier hindicated => ?_
          subst hindicated
          simpa using hnot

structure TrueOf (chosen : Option TierPricing) (ceiling : Decimal) (indicated : ModelTier)
    (entry : TierPricing) (reason : Text) : Prop where
  unavailable : lit "Model unavailable." <+: reason → entry.available = false
  overCeiling : lit "Projected " <+: reason → ceiling.value < entry.costPerRequestUsd.value
  sameTier : lit "Same tier as the selected model at a higher projected cost" <+: reason →
    ∃ selected, chosen = some selected ∧ entry.tier = selected.tier ∧
      selected.costPerRequestUsd.value < entry.costPerRequestUsd.value
  above : lit "Above the tier indicated by task complexity" <+: reason →
    indicated.value < entry.tier.value
  below : lit "Below the tier indicated by task complexity" <+: reason →
    entry.tier.value < indicated.value

/-- The candidates stand for the entries, and every reason is true of the entry it is
attached to. -/
def ReasonsTrue (complexityScore : Double) (ceiling : Decimal) (pricing : List TierPricing)
    (decision : RoutingDecision) : Prop :=
  List.Forall₂ (fun entry candidate => Describes candidate entry ∧
      ∀ reason, candidate.rejectedReason = some reason →
        TrueOf (choose (reachable ceiling pricing) (ComplexityScorer.indicatedTier complexityScore))
          ceiling (ComplexityScorer.indicatedTier complexityScore) entry reason)
    (StableSort.sortBy pricingKey pricing) decision.candidateTiers

/-- Nothing within reach is of a preferred tier, or cheaper in its own. -/
structure Cheapest (indicated : ModelTier) (ceiling : Decimal) (pricing : List TierPricing)
    (entry : TierPricing) : Prop where
  mem : entry ∈ pricing
  reachable : Reachable ceiling entry
  first : ∀ other ∈ pricing, Reachable ceiling other →
    rank indicated entry.tier < rank indicated other.tier ∨
      entry.tier = other.tier ∧ entry.costPerRequestUsd.value ≤ other.costPerRequestUsd.value

variable {ceiling : Decimal} {pricing : List TierPricing} {indicated : ModelTier}
  {chosen entry : TierPricing} {reason : Text}

theorem cheapest_of_choose (h : choose (reachable ceiling pricing) indicated = some chosen) :
    Cheapest indicated ceiling pricing chosen := by
  obtain ⟨hmem, hreachable⟩ := mem_reachable.mp (choose_mem h)
  refine ⟨hmem, hreachable, fun other hother hwithin => ?_⟩
  rw [choose_eq] at h
  have hle : preferenceKey indicated chosen ≤ preferenceKey indicated other :=
    List.le_of_mem_argmin (mem_reachable.mpr ⟨hother, hwithin⟩) h
  rcases Prod.Lex.toLex_le_toLex.mp hle with hlt | ⟨hrank, hcost⟩
  · exact .inl hlt
  · refine .inr ⟨rank_inj.mp hrank, ?_⟩
    rcases Prod.Lex.toLex_le_toLex.mp hcost with hlt | ⟨heq, _⟩
    · exact hlt.le
    · exact heq.le

theorem Cheapest.same (h : Cheapest indicated ceiling pricing chosen)
    (h' : Cheapest indicated ceiling pricing entry) : chosen.tier = entry.tier ∧
      chosen.costPerRequestUsd.value = entry.costPerRequestUsd.value := by
  rcases h.first entry h'.mem h'.reachable with hlt | ⟨htier, hle⟩ <;>
    rcases h'.first chosen h.mem h.reachable with hlt' | ⟨htier', hle'⟩
  · omega
  · rw [htier'] at hlt
    exact absurd hlt (lt_irrefl _)
  · rw [htier] at hlt'
    exact absurd hlt' (lt_irrefl _)
  · exact ⟨htier, le_antisymm hle hle'⟩

theorem Cheapest.of_same (h : Cheapest indicated ceiling pricing chosen) (hmem : entry ∈ pricing)
    (hreachable : Reachable ceiling entry) (htier : entry.tier = chosen.tier)
    (hcost : entry.costPerRequestUsd.value ≤ chosen.costPerRequestUsd.value) :
    Cheapest indicated ceiling pricing entry := by
  refine ⟨hmem, hreachable, fun other hother hwithin => ?_⟩
  rcases h.first other hother hwithin with hlt | ⟨hsame, hle⟩
  · exact .inl (htier ▸ hlt)
  · exact .inr ⟨htier.trans hsame, hcost.trans hle⟩

theorem TrueOf.of_head {chosen : Option TierPricing} {c : CodeUnit} (h : reason.head? = some c)
    (hunavailable : c = digit 'M' → entry.available = false)
    (hover : c = digit 'P' → ceiling.value < entry.costPerRequestUsd.value)
    (hsame : c = digit 'S' → ∃ selected, chosen = some selected ∧ entry.tier = selected.tier ∧
      selected.costPerRequestUsd.value < entry.costPerRequestUsd.value)
    (habove : c = digit 'A' → indicated.value < entry.tier.value)
    (hbelow : c = digit 'B' → entry.tier.value < indicated.value) :
    TrueOf chosen ceiling indicated entry reason where
  unavailable hopening := hunavailable (head_of_opening (by decide +kernel) h hopening)
  overCeiling hopening := hover (head_of_opening (by decide +kernel) h hopening)
  sameTier hopening := hsame (head_of_opening (by decide +kernel) h hopening)
  above hopening := habove (head_of_opening (by decide +kernel) h hopening)
  below hopening := hbelow (head_of_opening (by decide +kernel) h hopening)

theorem trueOf_unavailable {chosen : Option TierPricing} (h : entry.available = false) :
    TrueOf chosen ceiling indicated entry (lit "Model unavailable.") :=
  .of_head (show _ = some (digit 'M') by decide +kernel) (fun _ => h) (fun hc => absurd hc (by decide))
    (fun hc => absurd hc (by decide)) (fun hc => absurd hc (by decide))
    (fun hc => absurd hc (by decide))

theorem trueOf_overCeiling {chosen : Option TierPricing}
    (h : ceiling.value < entry.costPerRequestUsd.value) (rest : Text) :
    TrueOf chosen ceiling indicated entry (lit "Projected " ++ rest) :=
  .of_head (c := digit 'P') rfl (fun hc => absurd hc (by decide)) (fun _ => h)
    (fun hc => absurd hc (by decide)) (fun hc => absurd hc (by decide))
    (fun hc => absurd hc (by decide))

theorem Rejected.trueOf_unreachable {chosen chosen' : Option TierPricing}
    {indicated' : Option ModelTier} (h : Rejected chosen' ceiling indicated' entry reason)
    (hunreachable : ¬Reachable ceiling entry) : TrueOf chosen ceiling indicated entry reason := by
  cases h with
  | unavailable h => exact trueOf_unavailable h
  | overCeiling h rest => exact trueOf_overCeiling h rest
  | sameTier hreachable => exact absurd hreachable hunreachable
  | above hreachable => exact absurd hreachable hunreachable
  | below hreachable => exact absurd hreachable hunreachable

theorem Rejected.trueOf (h : Rejected (some chosen) ceiling (some indicated) entry reason)
    (hcost : Reachable ceiling entry → entry.tier = chosen.tier →
      chosen.costPerRequestUsd.value < entry.costPerRequestUsd.value)
    (htier : Reachable ceiling entry → entry.tier ≠ chosen.tier → entry.tier ≠ indicated) :
    TrueOf (some chosen) ceiling indicated entry reason := by
  cases h with
  | unavailable h => exact trueOf_unavailable h
  | overCeiling h rest => exact trueOf_overCeiling h rest
  | @sameTier hreachable selected hchosen hsame rest =>
    obtain rfl := Option.some.inj hchosen
    exact .of_head (c := digit 'S') rfl (fun hc => absurd hc (by decide))
      (fun hc => absurd hc (by decide)) (fun _ => ⟨_, rfl, hsame, hcost hreachable hsame⟩)
      (fun hc => absurd hc (by decide)) (fun hc => absurd hc (by decide))
  | above _ hindicated hlt =>
    obtain rfl := Option.some.inj hindicated
    exact .of_head (show _ = some (digit 'A') by decide +kernel) (fun hc => absurd hc (by decide))
      (fun hc => absurd hc (by decide)) (fun hc => absurd hc (by decide)) (fun _ => hlt)
      (fun hc => absurd hc (by decide))
  | below hreachable hother hnot =>
    have hne := htier hreachable (hother chosen rfl)
    have hle := hnot indicated rfl
    exact .of_head (show _ = some (digit 'B') by decide +kernel) (fun hc => absurd hc (by decide))
      (fun hc => absurd hc (by decide)) (fun hc => absurd hc (by decide))
      (fun hc => absurd hc (by decide)) (fun _ => lt_of_le_of_ne hle (mt value_inj.mp hne))

theorem sameTier_prefix_rejection (indicated : Option ModelTier)
    (hreachable : Reachable ceiling entry) (htier : entry.tier = chosen.tier) :
    lit "Same tier as the selected model at a higher projected cost" <+:
      rejection (some chosen) ceiling indicated entry := by
  unfold rejection
  rw [if_neg (by rw [hreachable.available]; decide), if_neg (not_lt.mpr hreachable.affordable),
    Option.filter_some, if_pos (decide_eq_true htier)]
  simp only [List.append_assoc]
  exact List.IsPrefix.trans (by decide +kernel) (List.prefix_append ..)

theorem buildCandidates_reasons {chosen : Option TierPricing} {indicated' : Option ModelTier}
    {Holds : TierPricing → Text → Prop} :
    List.Forall₂ (fun entry candidate => Describes candidate entry ∧
        ∀ reason, candidate.rejectedReason = some reason → Holds entry reason)
      (StableSort.sortBy pricingKey pricing) (buildCandidates pricing chosen ceiling indicated') ↔
    ∀ entry ∈ pricing, (chosen.any fun chosen => entry.deployment = chosen.deployment) = false →
      Holds entry (rejection chosen ceiling indicated' entry) := by
  unfold buildCandidates
  rw [List.forall₂_map_right_iff, List.forall₂_same]
  constructor
  · intro h entry hmem hselected
    obtain ⟨_, hholds⟩ := h entry ((StableSort.sortBy_perm pricing).mem_iff.mpr hmem)
    exact hholds _ (by rw [hselected]; rfl)
  · intro h entry hmem
    refine ⟨⟨rfl, rfl, rfl, rfl⟩, fun reason hreason => ?_⟩
    dsimp only at hreason
    split at hreason
    · cases hreason
    · rename_i hselected
      cases hreason
      exact h entry ((StableSort.sortBy_perm pricing).mem_iff.mp hmem)
        (Bool.eq_false_of_not_eq_true hselected)

theorem reasonsTrue_routed {complexityScore : Double}
    (h : choose (reachable ceiling pricing) (ComplexityScorer.indicatedTier complexityScore) =
      some chosen) :
    ReasonsTrue complexityScore ceiling pricing (routed complexityScore ceiling pricing chosen
        (ComplexityScorer.indicatedTier complexityScore)) ↔
      ∀ entry, Cheapest (ComplexityScorer.indicatedTier complexityScore) ceiling pricing entry →
        entry.deployment = chosen.deployment := by
  have hcheapest := cheapest_of_choose h
  unfold ReasonsTrue routed
  rw [h]
  refine buildCandidates_reasons.trans ?_
  constructor
  · intro htrue entry hentry
    by_contra hother
    obtain ⟨htier, hcost⟩ := hcheapest.same hentry
    -- The entry is given the reason of the selected tier, and does not cost more.
    have hreason := htrue entry hentry.mem (by simpa using hother)
    obtain ⟨selected, hselected, _, hlt⟩ :=
      hreason.sameTier (sameTier_prefix_rejection _ hentry.reachable htier.symm)
    obtain rfl := Option.some.inj hselected
    exact absurd hcost (ne_of_lt hlt)
  · intro hsame entry hmem hselected
    have hother : entry.deployment ≠ chosen.deployment := by simpa using hselected
    apply (rejection_rejected ..).trueOf
    · intro hreachable htier
      by_contra hle
      exact hother (hsame entry (hcheapest.of_same hmem hreachable htier (not_lt.mp hle)))
    · intro hreachable hne htier
      apply hne
      rw [htier, (choose_tier_eq h).mpr ⟨entry, mem_reachable.mpr ⟨hmem, hreachable⟩, htier⟩]

theorem reasonsTrue_denied {complexityScore : Double} (rationale : Text)
    (h : choose (reachable ceiling pricing) (ComplexityScorer.indicatedTier complexityScore) =
      none) :
    ReasonsTrue complexityScore ceiling pricing
      (denied complexityScore ceiling pricing rationale) := by
  unfold ReasonsTrue denied
  refine buildCandidates_reasons.mpr fun entry hmem _ => ?_
  apply (rejection_rejected ..).trueOf_unreachable
  intro hreachable
  have hnone := choose_eq_none.mp h
  exact absurd (mem_reachable.mpr ⟨hmem, hreachable⟩) (hnone ▸ List.not_mem_nil)

/-- Every reason is true exactly when the cheapest entries in the tier that is chosen have
one deployment. -/
theorem reasonsTrue_iff (complexityScore : Double) (ceiling : Decimal)
    (pricing : List TierPricing) :
    (∀ decision, select complexityScore ceiling pricing = some decision →
      ReasonsTrue complexityScore ceiling pricing decision) ↔
    ∀ entry other,
      Cheapest (ComplexityScorer.indicatedTier complexityScore) ceiling pricing entry →
      Cheapest (ComplexityScorer.indicatedTier complexityScore) ceiling pricing other →
        entry.deployment = other.deployment := by
  by_cases hempty : pricing = []
  · subst hempty
    exact ⟨fun _ entry _ hentry => absurd hentry.mem List.not_mem_nil, fun _ _ h => by cases h⟩
  rcases select_chosen complexityScore ceiling hempty with
    ⟨chosen, hchosen, hselect⟩ | ⟨hnone, rationale, hselect⟩
  · have hcheapest := cheapest_of_choose hchosen
    simp only [hselect, Option.some.injEq, forall_eq', reasonsTrue_routed hchosen]
    constructor
    · intro hsame entry other hentry hother
      rw [hsame entry hentry, hsame other hother]
    · intro hsame entry hentry
      exact hsame entry chosen hentry hcheapest
  · constructor
    · intro _ entry _ hentry
      have hmem := mem_reachable.mpr ⟨hentry.mem, hentry.reachable⟩
      exact absurd hmem (choose_eq_none.mp hnone ▸ List.not_mem_nil)
    · intro _ decision hdecision
      cases hselect.symm.trans hdecision
      exact reasonsTrue_denied rationale hnone

end TierSelector

namespace Samples

open TierSelector

def standard (deployment : Text) (vendor : ModelVendor) : TierPricing where
  tier := .standard
  deployment := deployment
  costPerRequestUsd := .literal 30 3
  vendor := vendor

def rivals : List TierPricing := [standard (lit "a") .azureOpenAI, standard (lit "b") .anthropic]

theorem rivals_cheapest (indicated : ModelTier) {entry : TierPricing} (h : entry ∈ rivals) :
    Cheapest indicated (.literal 1 0) rivals entry := by
  have hsame {entry : TierPricing} (h : entry ∈ rivals) : entry.available = true ∧
      entry.tier = .standard ∧ entry.costPerRequestUsd = .literal 30 3 := by
    rcases List.mem_pair.mp h with rfl | rfl <;> exact ⟨rfl, rfl, rfl⟩
  obtain ⟨havailable, htier, hcost⟩ := hsame h
  refine ⟨h, ⟨havailable, hcost ▸ by decide +kernel⟩, fun other hother _ => .inr ?_⟩
  obtain ⟨_, htier', hcost'⟩ := hsame hother
  rw [htier, htier', hcost, hcost']
  exact ⟨rfl, le_rfl⟩

/-- Two models at one price: one of them is said to cost more, "0.03 against 0.03 USD". -/
theorem reason_untrue : ∃ decision, select (.ofRat 0.5) (.literal 1 0) rivals = some decision ∧
    ¬ReasonsTrue (.ofRat 0.5) (.literal 1 0) rivals decision := by
  have hfirst : standard (lit "a") .azureOpenAI ∈ rivals := List.mem_cons_self
  have hsecond : standard (lit "b") .anthropic ∈ rivals := List.mem_cons_of_mem _ List.mem_cons_self
  rcases select_chosen (.ofRat 0.5) (.literal 1 0) (List.ne_nil_of_mem hfirst) with
    ⟨chosen, hchosen, hselect⟩ | ⟨hnone, _, _⟩
  · refine ⟨_, hselect, fun htrue => ?_⟩
    have hsame := (reasonsTrue_routed hchosen).mp htrue
    have heq := (hsame _ (rivals_cheapest _ hfirst)).trans (hsame _ (rivals_cheapest _ hsecond)).symm
    exact absurd heq (by decide)
  · have hreachable := mem_reachable.mpr ⟨hfirst, (rivals_cheapest .standard hfirst).reachable⟩
    exact absurd hreachable (choose_eq_none.mp hnone ▸ List.not_mem_nil)

end Samples

end Fcmr.RouterDecisions
