import Fcmr.RouterDecisions.Preference

/-! Whether the recorded outcome gives the cause of a selection: the tier that complexity
indicates, or a lower one because the ceiling required it. -/
namespace Fcmr.RouterDecisions

open DotNet

namespace TierSelector

/-- What the outcomes `Routed` and `Downgraded`, and their rationale, say. -/
structure Truthful (complexityScore : Double) (costCeilingUsd : Decimal)
    (pricing : List TierPricing) (decision : RoutingDecision) : Prop where
  routed : decision.outcome = .routed →
    decision.selectedTier = some (ComplexityScorer.indicatedTier complexityScore)
  downgraded : decision.outcome = .downgraded →
    (∃ tier, decision.selectedTier = some tier ∧
      tier.value < (ComplexityScorer.indicatedTier complexityScore).value) ∧
    ∃ entry ∈ pricing, entry.tier = ComplexityScorer.indicatedTier complexityScore ∧
      entry.available = true ∧ costCeilingUsd.value < entry.costPerRequestUsd.value

variable {complexityScore : Double} {ceiling : Decimal} {pricing : List TierPricing}
  {affordable : List TierPricing} {indicated : ModelTier} {chosen entry : TierPricing}

theorem rank_le_two {tier : ModelTier} : rank indicated tier ≤ 2 ↔ tier.value ≤ indicated.value := by
  cases indicated <;> cases tier <;> decide

theorem choose_rank_le (h : choose affordable indicated = some chosen) (hmem : entry ∈ affordable) :
    rank indicated chosen.tier ≤ rank indicated entry.tier := by
  rw [choose_eq] at h
  have hle : preferenceKey indicated chosen ≤ preferenceKey indicated entry :=
    List.le_of_mem_argmin hmem h
  rcases Prod.Lex.toLex_le_toLex.mp hle with hlt | ⟨heq, _⟩
  · exact hlt.le
  · exact heq.le

theorem choose_tier_eq (h : choose affordable indicated = some chosen) :
    chosen.tier = indicated ↔ ∃ entry ∈ affordable, entry.tier = indicated := by
  constructor
  · intro htier
    exact ⟨chosen, choose_mem h, htier⟩
  · rintro ⟨entry, hmem, htier⟩
    have hle := choose_rank_le h hmem
    rw [rank_eq_zero.mpr htier] at hle
    exact rank_eq_zero.mp (Nat.le_zero.mp hle)

theorem choose_tier_le (h : choose affordable indicated = some chosen) :
    chosen.tier.value ≤ indicated.value ↔
      ∃ entry ∈ affordable, entry.tier.value ≤ indicated.value := by
  constructor
  · intro htier
    exact ⟨chosen, choose_mem h, htier⟩
  · rintro ⟨entry, hmem, htier⟩
    exact rank_le_two.mp ((choose_rank_le h hmem).trans (rank_le_two.mpr htier))

theorem routed_outcome_eq_routed : (routed complexityScore ceiling pricing chosen indicated).outcome =
    .routed ↔ indicated.value ≤ chosen.tier.value := by
  unfold routed
  dsimp only
  split
  · rename_i hlt
    exact ⟨nofun, fun hle => absurd hlt (not_lt_of_ge hle)⟩
  · rename_i hle
    exact ⟨fun _ => le_of_not_gt hle, fun _ => rfl⟩

theorem routed_outcome_eq_downgraded :
    (routed complexityScore ceiling pricing chosen indicated).outcome = .downgraded ↔
      chosen.tier.value < indicated.value := by
  unfold routed
  dsimp only
  split
  · rename_i hlt
    exact ⟨fun _ => hlt, fun _ => rfl⟩
  · rename_i hle
    exact ⟨nofun, fun hlt => absurd hlt hle⟩

/-- The two ways out of the indicated tier that have no outcome of their own: it is not
available, or only higher tiers are within reach. -/
theorem truthful_routed
    (h : choose (reachable ceiling pricing) (ComplexityScorer.indicatedTier complexityScore) =
      some chosen) :
    Truthful complexityScore ceiling pricing (routed complexityScore ceiling pricing chosen
        (ComplexityScorer.indicatedTier complexityScore)) ↔
      (∃ entry ∈ pricing, entry.tier = ComplexityScorer.indicatedTier complexityScore ∧
        entry.available = true) ∧
      ∃ entry ∈ pricing, Reachable ceiling entry ∧
        entry.tier.value ≤ (ComplexityScorer.indicatedTier complexityScore).value := by
  obtain ⟨hmem, hreachable⟩ := mem_reachable.mp (choose_mem h)
  constructor
  · intro htruthful
    rcases Nat.lt_or_ge chosen.tier.value
      (ComplexityScorer.indicatedTier complexityScore).value with hlt | hge
    · obtain ⟨_, entry, hentry, htier, havailable, _⟩ :=
        htruthful.downgraded (routed_outcome_eq_downgraded.mpr hlt)
      exact ⟨⟨entry, hentry, htier, havailable⟩, chosen, hmem, hreachable, hlt.le⟩
    · have htier : chosen.tier = ComplexityScorer.indicatedTier complexityScore :=
        Option.some.inj (htruthful.routed (routed_outcome_eq_routed.mpr hge))
      exact ⟨⟨chosen, hmem, htier, hreachable.available⟩, chosen, hmem, hreachable, htier ▸ le_rfl⟩
  · rintro ⟨⟨entry, hentry, htier, havailable⟩, other, hother, hwithin, hle⟩
    have hchosen := (choose_tier_le h).mpr ⟨other, mem_reachable.mpr ⟨hother, hwithin⟩, hle⟩
    constructor
    · intro hrouted
      have hge := routed_outcome_eq_routed.mp hrouted
      exact congrArg some (value_inj.mp (hchosen.antisymm hge))
    · intro hdowngraded
      have hlt := routed_outcome_eq_downgraded.mp hdowngraded
      refine ⟨⟨chosen.tier, rfl, hlt⟩, entry, hentry, htier, havailable, ?_⟩
      by_contra haffordable
      have hreach : entry ∈ reachable ceiling pricing :=
        mem_reachable.mpr ⟨hentry, havailable, le_of_not_gt haffordable⟩
      have heq := (choose_tier_eq h).mpr ⟨entry, hreach, htier⟩
      exact absurd (heq ▸ hlt) (lt_irrefl _)

/-- Exactly when the outcome and the rationale give the real cause. -/
theorem truthful_iff (complexityScore : Double) (ceiling : Decimal) (pricing : List TierPricing) :
    (∀ decision, select complexityScore ceiling pricing = some decision →
      Truthful complexityScore ceiling pricing decision) ↔
    (∀ entry ∈ pricing, ¬Reachable ceiling entry) ∨
      (∃ entry ∈ pricing, entry.tier = ComplexityScorer.indicatedTier complexityScore ∧
        entry.available = true) ∧
      ∃ entry ∈ pricing, Reachable ceiling entry ∧
        entry.tier.value ≤ (ComplexityScorer.indicatedTier complexityScore).value := by
  by_cases hempty : pricing = []
  · subst hempty
    simp [select]
  rcases select_chosen complexityScore ceiling hempty with
    ⟨chosen, hchosen, hselect⟩ | ⟨hnone, rationale, hselect⟩
  · obtain ⟨hmem, hreachable⟩ := mem_reachable.mp (choose_mem hchosen)
    have hsome : ¬∀ entry ∈ pricing, ¬Reachable ceiling entry := fun h => h chosen hmem hreachable
    simp only [hselect, Option.some.injEq, forall_eq', truthful_routed hchosen, hsome, false_or]
  · have hunreachable : ∀ entry ∈ pricing, ¬Reachable ceiling entry := by
      intro entry hentry hreachable
      have hreach := mem_reachable.mpr ⟨hentry, hreachable⟩
      rw [choose_eq_none.mp hnone] at hreach
      cases hreach
    refine ⟨fun _ => .inl hunreachable, fun _ decision hdecision => ?_⟩
    rw [hselect] at hdecision
    cases hdecision
    exact ⟨nofun, nofun⟩

end TierSelector

namespace Samples

open TierSelector

def economy : TierPricing where
  tier := .economy
  deployment := lit "economy-dep"
  costPerRequestUsd := .literal 4 3

def premium (available : Bool) : TierPricing where
  tier := .premium
  deployment := lit "premium-dep"
  costPerRequestUsd := .literal 180 3
  available := available

/-- A ceiling of 1 USD is far above every price here. -/
theorem causes_misreported :
    (∃ decision, select (.ofRat 0.95) (.literal 1 0) [economy, premium false] =
        some decision ∧ decision.outcome = .downgraded ∧
        ¬Truthful (.ofRat 0.95) (.literal 1 0) [economy, premium false] decision) ∧
      ∃ decision, select (.ofRat 0.1) (.literal 1 0) [premium true] = some decision ∧
        decision.outcome = .routed ∧ decision.selectedTier = some .premium ∧
        ¬Truthful (.ofRat 0.1) (.literal 1 0) [premium true] decision := by
  have hpremium : ComplexityScorer.indicatedTier (.ofRat 0.95) = .premium := by decide +kernel
  have heconomy : ComplexityScorer.indicatedTier (.ofRat 0.1) = .economy := by decide +kernel
  constructor
  · have hselect : (select (.ofRat 0.95) (.literal 1 0) [economy, premium false]).map
        (·.outcome) = some .downgraded := by decide +kernel
    obtain ⟨decision, hdecision, houtcome⟩ := Option.map_eq_some_iff.mp hselect
    refine ⟨decision, hdecision, houtcome, fun htruthful => ?_⟩
    obtain ⟨_, entry, hmem, htier, havailable, _⟩ := htruthful.downgraded houtcome
    rw [hpremium] at htier
    rcases List.mem_pair.mp hmem with rfl | rfl
    · cases htier
    · cases havailable
  · have hselect : (select (.ofRat 0.1) (.literal 1 0) [premium true]).map
        (fun decision => (decision.outcome, decision.selectedTier)) =
          some (.routed, some .premium) := by decide +kernel
    obtain ⟨decision, hdecision, hfields⟩ := Option.map_eq_some_iff.mp hselect
    obtain ⟨houtcome, htier⟩ := Prod.mk.inj hfields
    refine ⟨decision, hdecision, houtcome, htier, fun htruthful => ?_⟩
    have hrouted := htruthful.routed houtcome
    rw [htier, heconomy] at hrouted
    cases hrouted

end Samples

end Fcmr.RouterDecisions
