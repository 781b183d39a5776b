import Fcmr.RouterDecisions.Rejections

/-! What the order of the catalog reaches in the gate and in the selection. The sorts break
ties by deployment, but the cheapest entry that a denial names is the first of several, and
entries of one deployment are told apart by nothing. -/
namespace Fcmr.RouterDecisions

open DotNet

/-- A candidate as records compare: an amount is its value. -/
def TierCandidate.shown (candidate : TierCandidate) :
    ModelTier × Text × ℚ × ModelVendor × Bool × Option Text :=
  (candidate.tier, candidate.deployment, candidate.projectedCostUsd.value, candidate.vendor,
    candidate.selected, candidate.rejectedReason)

namespace PolicyGate

def ruledOut (policy : PolicySet) (classification : DataClassification)
    (executionRegion : Option Text) (candidate : TierPricing) : Option PolicyExclusion :=
  (evaluate [candidate] policy classification executionRegion).excluded.head?

variable {policy : PolicySet} {classification : DataClassification}
  {executionRegion : Option Text}

theorem evaluate_eq (catalog : List TierPricing) :
    evaluate catalog policy classification executionRegion = result
      (catalog.filter fun candidate =>
        (ruledOut policy classification executionRegion candidate).isNone)
      (catalog.filterMap (ruledOut policy classification executionRegion)) policy := by
  unfold ruledOut evaluate
  split
  · simp [result]
  · have hhead (candidate : TierPricing) :
        ([candidate].filterMap (exclusion policy classification)).head? =
          exclusion policy classification candidate := by
      rw [List.filterMap_cons, List.filterMap_nil]
      cases exclusion policy classification candidate <;> rfl
    simp only [result, hhead]

theorem ruledOut_deployment {candidate : TierPricing} {excluded : PolicyExclusion}
    (h : ruledOut policy classification executionRegion candidate = some excluded) :
    excluded.deployment = candidate.deployment := by
  unfold ruledOut evaluate at h
  split at h
  · cases h
    rfl
  · have hmem := List.mem_of_mem_head? h
    obtain ⟨other, hother, hexclusion⟩ := List.mem_filterMap.mp hmem
    rw [List.mem_singleton.mp hother] at hexclusion
    exact congrArg Prod.fst (identity_of_exclusion hexclusion)

theorem mem_eligible_iff {catalog : List TierPricing} {candidate : TierPricing} :
    candidate ∈ (evaluate catalog policy classification executionRegion).eligible ↔
      candidate ∈ catalog ∧ ruledOut policy classification executionRegion candidate = none := by
  rw [evaluate_eq]
  simp [result]

theorem evaluate_perm {catalog catalog' : List TierPricing} (h : catalog.Perm catalog') :
    (evaluate catalog policy classification executionRegion).eligible.Perm
        (evaluate catalog' policy classification executionRegion).eligible ∧
      (evaluate catalog policy classification executionRegion).excluded.Perm
        (evaluate catalog' policy classification executionRegion).excluded := by
  rw [evaluate_eq, evaluate_eq]
  exact ⟨h.filter _, h.filterMap _⟩

theorem exists_catalog {catalog eligible : List TierPricing}
    (h : (evaluate catalog policy classification executionRegion).eligible.Perm eligible) :
    ∃ catalog', catalog.Perm catalog' ∧
      (evaluate catalog' policy classification executionRegion).eligible = eligible := by
  let permits (candidate : TierPricing) : Bool :=
    (ruledOut policy classification executionRegion candidate).isNone
  have heligible : ∀ candidate ∈ eligible, permits candidate = true := by
    intro candidate hmem
    simp [permits, (mem_eligible_iff.mp (h.mem_iff.mpr hmem)).2]
  refine ⟨eligible ++ catalog.filter fun candidate => !permits candidate, ?_, ?_⟩
  · rw [evaluate_eq] at h
    exact (List.filter_append_perm permits catalog).symm.trans (h.append_right _)
  · rw [evaluate_eq]
    change (eligible ++ catalog.filter fun candidate => !permits candidate).filter permits = eligible
    rw [List.filter_append, List.filter_eq_self.mpr heligible, List.filter_filter]
    simp

end PolicyGate

namespace TierSelector

variable {ceiling : Decimal} {pricing : List TierPricing} {indicated : ModelTier}
  {entry entry' : TierPricing}

theorem pricingKey_eq : pricingKey entry = pricingKey entry' ↔ entry.tier = entry'.tier ∧
    entry.costPerRequestUsd.value = entry'.costPerRequestUsd.value ∧
      entry.deployment = entry'.deployment := by
  unfold pricingKey costKey
  simp only [EmbeddingLike.apply_eq_iff_eq, Prod.mk.injEq, value_inj]

theorem preferenceKey_eq : preferenceKey indicated entry = preferenceKey indicated entry' ↔
    pricingKey entry = pricingKey entry' := by
  rw [pricingKey_eq]
  unfold preferenceKey costKey
  simp only [EmbeddingLike.apply_eq_iff_eq, Prod.mk.injEq, rank_inj]

theorem costText_congr {cost cost' : Decimal} (h : cost.value = cost'.value) :
    costText cost = costText cost' :=
  Decimal.placesText_congr 3 h

theorem rejection_congr {chosen : Option TierPricing} {indicated : Option ModelTier}
    (htier : entry.tier = entry'.tier)
    (hcost : entry.costPerRequestUsd.value = entry'.costPerRequestUsd.value)
    (havailable : entry.available = entry'.available) :
    rejection chosen ceiling indicated entry = rejection chosen ceiling indicated entry' := by
  unfold rejection
  rw [htier, hcost, havailable, costText_congr hcost]

theorem rejection_head {chosen : Option TierPricing} {indicated : Option ModelTier} :
    (rejection chosen ceiling indicated entry).head? = some (digit 'M') ↔
      entry.available = false := by
  constructor
  · intro hhead
    have hrejected := rejection_rejected chosen ceiling indicated entry
    generalize rejection chosen ceiling indicated entry = reason at hhead hrejected
    cases hrejected with
    | unavailable h => exact h
    | overCeiling _ rest =>
      have hfirst : some (digit 'P') = some (digit 'M') := hhead
      exact absurd hfirst (by decide)
    | sameTier _ _ _ rest =>
      have hfirst : some (digit 'S') = some (digit 'M') := hhead
      exact absurd hfirst (by decide)
    | above => exact absurd hhead (by decide +kernel)
    | below => exact absurd hhead (by decide +kernel)
  · intro hunavailable
    unfold rejection
    rw [if_pos hunavailable]
    decide +kernel

theorem rejection_eq {chosen : Option TierPricing} {indicated : Option ModelTier}
    (htier : entry.tier = entry'.tier)
    (hcost : entry.costPerRequestUsd.value = entry'.costPerRequestUsd.value) :
    rejection chosen ceiling indicated entry = rejection chosen ceiling indicated entry' ↔
      entry.available = entry'.available := by
  refine ⟨fun h => ?_, rejection_congr htier hcost⟩
  have hhead := congrArg (fun reason => reason.head? = some (digit 'M')) h
  simp only [rejection_head, eq_iff_iff] at hhead
  cases havailable : entry.available <;> cases havailable' : entry'.available <;>
    simp [havailable, havailable'] at hhead ⊢

def candidateOf (chosen : Option TierPricing) (ceiling : Decimal) (indicated : Option ModelTier)
    (entry : TierPricing) : TierCandidate :=
  let selected := chosen.any fun chosen => entry.deployment = chosen.deployment
  { tier := entry.tier
    deployment := entry.deployment
    projectedCostUsd := entry.costPerRequestUsd
    vendor := entry.vendor
    selected
    rejectedReason := if selected then none else some (rejection chosen ceiling indicated entry) }

theorem buildCandidates_eq (pricing : List TierPricing) (chosen : Option TierPricing)
    (ceiling : Decimal) (indicated : Option ModelTier) :
    buildCandidates pricing chosen ceiling indicated =
      (StableSort.sortBy pricingKey pricing).map (candidateOf chosen ceiling indicated) :=
  rfl

theorem candidateOf_congr (indicated' : Option ModelTier) (h : pricingKey entry = pricingKey entry') :
    candidateOf (some entry) ceiling indicated' = candidateOf (some entry') ceiling indicated' := by
  obtain ⟨htier, hcost, hdeployment⟩ := pricingKey_eq.mp h
  funext other
  unfold candidateOf rejection
  simp only [Option.any_some, Option.filter_some, hdeployment, htier]
  by_cases hsame : other.tier = entry'.tier
  · simp only [hsame, decide_true, if_true, costText_congr hcost]
  · simp only [hsame, decide_false, Bool.false_eq_true, if_false]

theorem buildCandidates_congr (pricing : List TierPricing) (ceiling : Decimal)
    (indicated : Option ModelTier) (h : pricingKey entry = pricingKey entry') :
    buildCandidates pricing (some entry) ceiling indicated =
      buildCandidates pricing (some entry') ceiling indicated := by
  rw [buildCandidates_eq, buildCandidates_eq, candidateOf_congr indicated h]

theorem routed_congr (complexityScore : Double) (ceiling : Decimal)
    (pricing pricing' : List TierPricing) (indicated : ModelTier)
    (h : pricingKey entry = pricingKey entry') :
    (routed complexityScore ceiling pricing entry indicated).outcome =
        (routed complexityScore ceiling pricing' entry' indicated).outcome ∧
      (routed complexityScore ceiling pricing entry indicated).rationale =
        (routed complexityScore ceiling pricing' entry' indicated).rationale := by
  obtain ⟨htier, hcost, hdeployment⟩ := pricingKey_eq.mp h
  unfold routed
  simp only [htier, hdeployment, costText_congr hcost, and_self]

theorem shown_candidateOf {chosen : Option TierPricing} {indicated : Option ModelTier}
    (h : pricingKey entry = pricingKey entry') :
    (candidateOf chosen ceiling indicated entry).shown =
        (candidateOf chosen ceiling indicated entry').shown ↔
      entry.vendor = entry'.vendor ∧ (entry.available = entry'.available ∨
        ∃ selected, chosen = some selected ∧ entry.deployment = selected.deployment) := by
  obtain ⟨htier, hcost, hdeployment⟩ := pricingKey_eq.mp h
  have hselected : (chosen.any fun chosen => entry.deployment = chosen.deployment) = true ↔
      ∃ selected, chosen = some selected ∧ entry.deployment = selected.deployment := by
    rw [Option.any_eq_true]
    simp only [decide_eq_true_eq]
  unfold candidateOf TierCandidate.shown
  dsimp only
  rw [← hdeployment]
  by_cases hmarked : (chosen.any fun chosen => entry.deployment = chosen.deployment) = true
  · simp only [htier, hcost, hmarked, if_true, Prod.mk.injEq, true_and, and_true,
      hselected.mp hmarked, or_true]
  · simp only [htier, hcost, hmarked, Bool.false_eq_true, if_false, Prod.mk.injEq, true_and,
      Option.some.injEq, mt hselected.mpr hmarked, or_false, rejection_eq htier hcost]

theorem candidates_invariant_iff (pricing : List TierPricing) (chosen : Option TierPricing)
    (ceiling : Decimal) (indicated : Option ModelTier) :
    (∀ pricing', pricing.Perm pricing' →
      (buildCandidates pricing' chosen ceiling indicated).map (·.shown) =
        (buildCandidates pricing chosen ceiling indicated).map (·.shown)) ↔
    ∀ entry ∈ pricing, ∀ entry' ∈ pricing, pricingKey entry = pricingKey entry' →
      entry.vendor = entry'.vendor ∧ (entry.available = entry'.available ∨
        ∃ selected, chosen = some selected ∧ entry.deployment = selected.deployment) := by
  simp only [buildCandidates_eq, List.map_map]
  refine (StableSort.map_sortBy_invariant_iff
    (fun shown : ModelTier × Text × ℚ × ModelVendor × Bool × Option Text =>
      toLex (shown.1.value, toLex (shown.2.2.1, shown.2.1))) (fun entry => rfl) pricing).trans ?_
  refine forall₂_congr fun entry _ => forall₂_congr fun entry' _ => ?_
  exact imp_congr_right shown_candidateOf

/-- The sentence of a denial. Complexity does not enter. -/
def denialRationale (ceiling : Decimal) (pricing : List TierPricing) : Text :=
  ((select (.ofRat 0) ceiling pricing).map (·.rationale)).getD []

theorem select_denied (complexityScore : Double) (hpricing : pricing ≠ [])
    (h : reachable ceiling pricing = []) : select complexityScore ceiling pricing =
      some (denied complexityScore ceiling pricing (denialRationale ceiling pricing)) := by
  have hnone (indicated : ModelTier) : choose ((pricing.filter (·.available)).filter
      fun entry => entry.costPerRequestUsd.value ≤ ceiling.value) indicated = none :=
    choose_eq_none.mpr h
  unfold denialRationale select
  simp only [if_neg hpricing, hnone]
  cases (StableSort.sortBy (·.costPerRequestUsd.value) (pricing.filter (·.available))).head? <;> rfl

structure LeastAvailable (pricing : List TierPricing) (entry : TierPricing) : Prop where
  mem : entry ∈ pricing
  available : entry.available = true
  least : ∀ other ∈ pricing, other.available = true →
    entry.costPerRequestUsd.value ≤ other.costPerRequestUsd.value

def cheapest (pricing : List TierPricing) : Option TierPricing :=
  (pricing.filter (·.available)).argmin (·.costPerRequestUsd.value)

theorem leastAvailable_of_cheapest (h : cheapest pricing = some entry) :
    LeastAvailable pricing entry := by
  obtain ⟨hmem, havailable⟩ := List.mem_filter.mp (List.argmin_mem h)
  refine ⟨hmem, havailable, fun other hother hwithin => ?_⟩
  have hmem' : other ∈ pricing.filter (·.available) := List.mem_filter.mpr ⟨hother, hwithin⟩
  have hle := List.le_of_mem_argmin hmem' h
  exact hle

theorem cheapest_cons (h : LeastAvailable pricing entry) {rest : List TierPricing}
    (hperm : pricing.Perm (entry :: rest)) : cheapest (entry :: rest) = some entry := by
  unfold cheapest
  rw [List.filter_cons_of_pos h.available]
  apply StableSort.argmin_cons_of_le
  intro other hother
  obtain ⟨hmem, havailable⟩ := List.mem_filter.mp hother
  exact h.least other (hperm.mem_iff.mpr (List.mem_cons_of_mem _ hmem)) havailable

theorem denialRationale_eq {pricing pricing' : List TierPricing}
    (hpricing : pricing ≠ []) (hpricing' : pricing' ≠ []) (h : reachable ceiling pricing = [])
    (h' : reachable ceiling pricing' = []) (hcheapest : cheapest pricing = some entry)
    (hcheapest' : cheapest pricing' = some entry')
    (hcost : entry.costPerRequestUsd.value = entry'.costPerRequestUsd.value) :
    denialRationale ceiling pricing = denialRationale ceiling pricing' ↔
      entry.deployment = entry'.deployment := by
  have hnone {pricing : List TierPricing} (h : reachable ceiling pricing = [])
      (indicated : ModelTier) : choose ((pricing.filter (·.available)).filter
        fun entry => entry.costPerRequestUsd.value ≤ ceiling.value) indicated = none :=
    choose_eq_none.mpr h
  unfold cheapest at hcheapest hcheapest'
  rw [← StableSort.head?_sortBy] at hcheapest hcheapest'
  unfold denialRationale select
  simp only [if_neg hpricing, if_neg hpricing', hnone h, hnone h', hcheapest, hcheapest',
    Option.map_some, Option.getD_some, denied, costText_congr hcost, List.append_left_inj,
    List.append_right_inj]

theorem denialRationale_none {pricing pricing' : List TierPricing}
    (hpricing : pricing ≠ []) (hpricing' : pricing' ≠ []) (hcheapest : cheapest pricing = none)
    (hcheapest' : cheapest pricing' = none) :
    denialRationale ceiling pricing = denialRationale ceiling pricing' := by
  unfold cheapest at hcheapest hcheapest'
  rw [← StableSort.head?_sortBy] at hcheapest hcheapest'
  unfold denialRationale select
  simp only [if_neg hpricing, if_neg hpricing', hcheapest, hcheapest']
  rfl

theorem reachable_perm {pricing' : List TierPricing} (h : pricing.Perm pricing') :
    (reachable ceiling pricing).Perm (reachable ceiling pricing') :=
  (h.filter _).filter _

theorem choose_perm {affordable affordable' : List TierPricing} (h : affordable.Perm affordable') :
    (choose affordable indicated).map pricingKey = (choose affordable' indicated).map pricingKey := by
  have hleast : (choose affordable indicated).map (preferenceKey indicated) =
      (choose affordable' indicated).map (preferenceKey indicated) := by
    rw [choose_eq, choose_eq]
    exact StableSort.argmin_perm h
  cases hchosen : choose affordable indicated with
  | none =>
    rw [hchosen] at hleast
    rw [Option.map_eq_none_iff.mp hleast.symm]
  | some entry =>
    rw [hchosen] at hleast
    obtain ⟨entry', hchosen', hkey⟩ := Option.map_eq_some_iff.mp hleast.symm
    rw [hchosen']
    exact congrArg some (preferenceKey_eq.mp hkey).symm

theorem denialRationale_invariant_iff (hpricing : pricing ≠ [])
    (h : reachable ceiling pricing = []) :
    (∀ pricing', pricing.Perm pricing' →
      denialRationale ceiling pricing' = denialRationale ceiling pricing) ↔
    ∀ entry entry', LeastAvailable pricing entry → LeastAvailable pricing entry' →
      entry.deployment = entry'.deployment := by
  have hpermuted {pricing' : List TierPricing} (hperm : pricing.Perm pricing') :
      pricing' ≠ [] ∧ reachable ceiling pricing' = [] :=
    ⟨fun hempty => hpricing (List.perm_nil.mp (hempty ▸ hperm)),
      List.nil_perm.mp (h ▸ reachable_perm hperm)⟩
  constructor
  · intro hsame entry entry' hentry hentry'
    obtain ⟨before, after, hsplit⟩ := List.append_of_mem hentry.mem
    obtain ⟨before', after', hsplit'⟩ := List.append_of_mem hentry'.mem
    have hperm : pricing.Perm (entry :: (before ++ after)) := hsplit ▸ List.perm_middle
    have hperm' : pricing.Perm (entry' :: (before' ++ after')) := hsplit' ▸ List.perm_middle
    have hcost := le_antisymm (hentry.least entry' hentry'.mem hentry'.available)
      (hentry'.least entry hentry.mem hentry.available)
    exact (denialRationale_eq (hpermuted hperm).1 (hpermuted hperm').1 (hpermuted hperm).2
      (hpermuted hperm').2 (cheapest_cons hentry hperm) (cheapest_cons hentry' hperm') hcost).mp
        ((hsame _ hperm).trans (hsame _ hperm').symm)
  · intro hsame pricing' hperm
    obtain ⟨hpricing', h'⟩ := hpermuted hperm
    have hleast : (cheapest pricing).map (·.costPerRequestUsd.value) =
        (cheapest pricing').map (·.costPerRequestUsd.value) :=
      StableSort.argmin_perm (hperm.filter (·.available))
    cases hcheapest : cheapest pricing with
    | none =>
      rw [hcheapest] at hleast
      exact denialRationale_none hpricing' hpricing (Option.map_eq_none_iff.mp hleast.symm) hcheapest
    | some entry =>
      rw [hcheapest] at hleast
      obtain ⟨entry', hcheapest', hcost⟩ := Option.map_eq_some_iff.mp hleast.symm
      have hentry' := leastAvailable_of_cheapest hcheapest'
      refine (denialRationale_eq hpricing' hpricing h' h hcheapest' hcheapest hcost).mpr
        (hsame entry' entry ⟨hperm.mem_iff.mpr hentry'.mem, hentry'.available, ?_⟩
          (leastAvailable_of_cheapest hcheapest))
      exact fun other hother => hentry'.least other (hperm.mem_iff.mp hother)

end TierSelector

end Fcmr.RouterDecisions
