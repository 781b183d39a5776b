import Fcmr.RouterDecisions.Soundness

/-! What a decision lists: every entry of the catalog once, as a candidate or as an
exclusion, and a reason for each that does not run. Which candidates are marked as the one
that runs is decided by their deployment. -/
namespace Fcmr.RouterDecisions

open DotNet

/-- How an entry is recognized in a record. -/
def TierPricing.identity (entry : TierPricing) : Text × ModelVendor :=
  (entry.deployment, entry.vendor)

def TierCandidate.identity (candidate : TierCandidate) : Text × ModelVendor :=
  (candidate.deployment, candidate.vendor)

def PolicyExclusion.identity (exclusion : PolicyExclusion) : Text × ModelVendor :=
  (exclusion.deployment, exclusion.vendor)

namespace PolicyGate

theorem exclusion_eq_exclude {policy : PolicySet} {classification : DataClassification}
    {candidate : TierPricing} {excluded : PolicyExclusion}
    (h : exclusion policy classification candidate = some excluded) :
    ∃ kind reason, excluded = exclude candidate kind reason ∧ reason ≠ [] := by
  unfold exclusion at h
  split at h
  · cases h
    exact ⟨_, _, rfl, List.append_ne_nil_of_right_ne_nil _ (by decide)⟩
  split at h
  · cases h
    exact ⟨_, _, rfl, List.append_ne_nil_of_right_ne_nil _ (by decide)⟩
  split at h
  · cases h
    exact ⟨_, _, rfl, List.append_ne_nil_of_right_ne_nil _ (by decide)⟩
  · cases h

theorem identity_of_exclusion {policy : PolicySet} {classification : DataClassification}
    {candidate : TierPricing} {excluded : PolicyExclusion}
    (h : exclusion policy classification candidate = some excluded) :
    excluded.identity = candidate.identity := by
  obtain ⟨kind, reason, rfl, _⟩ := exclusion_eq_exclude h
  rfl

theorem exclusion_split (policy : PolicySet) (classification : DataClassification)
    (catalog : List TierPricing) :
    ((catalog.filter fun candidate => (exclusion policy classification candidate).isNone).map
        (·.identity) ++
      (catalog.filterMap (exclusion policy classification)).map (·.identity)).Perm
        (catalog.map (·.identity)) := by
  induction catalog with
  | nil => exact .refl _
  | cons candidate catalog ih =>
    cases h : exclusion policy classification candidate with
    | none =>
      rw [List.filter_cons_of_pos (by simp [h]), List.filterMap_cons_none h]
      exact ih.cons _
    | some excluded =>
      rw [List.filter_cons_of_neg (by simp [h]), List.filterMap_cons_some h, List.map_cons,
        identity_of_exclusion h]
      exact List.perm_middle.trans (ih.cons _)

theorem evaluate_split (catalog : List TierPricing) (policy : PolicySet)
    (classification : DataClassification) (executionRegion : Option Text) :
    ((evaluate catalog policy classification executionRegion).eligible.map (·.identity) ++
      (evaluate catalog policy classification executionRegion).excluded.map (·.identity)).Perm
        (catalog.map (·.identity)) := by
  unfold evaluate
  split
  · simp only [result, List.map_nil, List.nil_append, List.map_map]
    exact .refl _
  · exact exclusion_split policy classification catalog

theorem eligible_or_excluded {catalog : List TierPricing} {policy : PolicySet}
    {classification : DataClassification} {executionRegion : Option Text} {entry : TierPricing}
    (h : entry ∈ catalog) :
    entry ∈ (evaluate catalog policy classification executionRegion).eligible ∨
      ∃ excluded ∈ (evaluate catalog policy classification executionRegion).excluded,
        excluded.identity = entry.identity := by
  unfold evaluate
  split
  · exact .inr ⟨_, List.mem_map_of_mem h, rfl⟩
  · cases hexclusion : exclusion policy classification entry with
    | none => exact .inl (List.mem_filter.mpr ⟨h, by simp [hexclusion]⟩)
    | some excluded =>
      exact .inr ⟨excluded, List.mem_filterMap.mpr ⟨entry, h, hexclusion⟩,
        identity_of_exclusion hexclusion⟩

theorem reason_of_mem_excluded {catalog : List TierPricing} {policy : PolicySet}
    {classification : DataClassification} {executionRegion : Option Text}
    {excluded : PolicyExclusion}
    (h : excluded ∈ (evaluate catalog policy classification executionRegion).excluded) :
    excluded.reason ≠ [] := by
  unfold evaluate at h
  split at h
  · obtain ⟨candidate, _, rfl⟩ := List.mem_map.mp h
    exact List.append_ne_nil_of_right_ne_nil _ (by decide)
  · obtain ⟨candidate, _, hexclusion⟩ := List.mem_filterMap.mp h
    obtain ⟨kind, reason, rfl, hreason⟩ := exclusion_eq_exclude hexclusion
    exact hreason

end PolicyGate

namespace TierSelector

theorem rejection_ne_nil (chosen : Option TierPricing) (ceiling : Decimal)
    (indicated : Option ModelTier) (candidate : TierPricing) :
    rejection chosen ceiling indicated candidate ≠ [] := by
  unfold rejection
  split
  · decide
  split
  · exact List.append_ne_nil_of_right_ne_nil _ (by decide)
  split
  · exact List.append_ne_nil_of_right_ne_nil _ (by decide)
  split <;> decide

theorem buildCandidates_identity (pricing : List TierPricing) (chosen : Option TierPricing)
    (ceiling : Decimal) (indicated : Option ModelTier) :
    ((buildCandidates pricing chosen ceiling indicated).map (·.identity)).Perm
      (pricing.map (·.identity)) := by
  unfold buildCandidates
  rw [List.map_map]
  exact (StableSort.sortBy_perm pricing).map _

theorem reason_of_mem_buildCandidates {pricing : List TierPricing} {chosen : Option TierPricing}
    {ceiling : Decimal} {indicated : Option ModelTier} {candidate : TierCandidate}
    (hmem : candidate ∈ buildCandidates pricing chosen ceiling indicated)
    (hselected : candidate.selected = false) :
    ∃ reason, candidate.rejectedReason = some reason ∧ reason ≠ [] := by
  obtain ⟨entry, _, rfl⟩ := List.mem_map.mp hmem
  refine ⟨rejection chosen ceiling indicated entry, ?_, rejection_ne_nil chosen ceiling indicated entry⟩
  exact if_neg (by simpa using hselected)

structure Describes (candidate : TierCandidate) (entry : TierPricing) : Prop where
  tier : candidate.tier = entry.tier
  deployment : candidate.deployment = entry.deployment
  vendor : candidate.vendor = entry.vendor
  cost : candidate.projectedCostUsd = entry.costPerRequestUsd

def MarkedOnce (candidates : List TierCandidate) (entry : TierPricing) : Prop :=
  ∃ candidate, candidates.filter (·.selected) = [candidate] ∧ Describes candidate entry

theorem buildCandidates_unmarked (pricing : List TierPricing) (ceiling : Decimal)
    (indicated : Option ModelTier) :
    (buildCandidates pricing none ceiling indicated).filter (·.selected) = [] := by
  rw [List.filter_eq_nil_iff]
  intro candidate hcandidate
  obtain ⟨entry, _, rfl⟩ := List.mem_map.mp hcandidate
  simp

theorem markedOnce_iff {pricing : List TierPricing} {chosen : TierPricing} {ceiling : Decimal}
    {indicated : Option ModelTier} (hmem : chosen ∈ pricing) :
    MarkedOnce (buildCandidates pricing (some chosen) ceiling indicated) chosen ↔
      (pricing.map (·.deployment)).count chosen.deployment = 1 := by
  have hcount : (pricing.map (·.deployment)).count chosen.deployment =
      ((StableSort.sortBy pricingKey pricing).filter
        fun entry => entry.deployment = chosen.deployment).length := by
    rw [((StableSort.sortBy_perm pricing).filter _).length_eq, List.count, List.countP_map,
      List.countP_eq_length_filter]
    exact congrArg List.length (List.filter_congr fun entry _ => beq_eq_decide _ _)
  have hmarked : chosen ∈ (StableSort.sortBy pricingKey pricing).filter
      fun entry => entry.deployment = chosen.deployment :=
    List.mem_filter.mpr ⟨(StableSort.sortBy_perm pricing).mem_iff.mpr hmem, by simp⟩
  unfold MarkedOnce buildCandidates
  rw [hcount, List.length_eq_one_iff, List.filter_map]
  simp only [Function.comp_def, Option.any_some]
  constructor
  · rintro ⟨candidate, hone, _⟩
    obtain ⟨entry, hentry, _⟩ := List.map_eq_singleton_iff.mp hone
    exact ⟨entry, hentry⟩
  · rintro ⟨entry, hentry⟩
    rw [hentry] at hmarked ⊢
    obtain rfl := List.mem_singleton.mp hmarked
    exact ⟨_, rfl, rfl, rfl, rfl, rfl⟩

end TierSelector

namespace RoutingPlanner

/-- No entry of the catalog is lost, none is invented, and none is left out unexplained. -/
structure Accounted (catalog : List TierPricing) (evaluation : PolicyEvaluation)
    (decision : RoutingDecision) : Prop where
  gate : (evaluation.eligible.map (·.identity) ++ evaluation.excluded.map (·.identity)).Perm
    (catalog.map (·.identity))
  split : decision.outcome ≠ .refusedByPolicy →
    (decision.candidateTiers.map (·.identity) ++ decision.policyExclusions.map (·.identity)).Perm
      (catalog.map (·.identity))
  refused : decision.outcome = .refusedByPolicy →
    (decision.candidateTiers.map (·.identity)).Perm (catalog.map (·.identity)) ∧
      (decision.policyExclusions.map (·.identity)).Perm (catalog.map (·.identity))
  rejected : ∀ candidate ∈ decision.candidateTiers, candidate.selected = false →
    ∃ reason, candidate.rejectedReason = some reason ∧ reason ≠ []
  excluded : ∀ exclusion ∈ decision.policyExclusions, exclusion.reason ≠ []

theorem accounted_refused {request : RoutingRequest} {catalog : List TierPricing}
    {policy : PolicySet} (h : (evaluation request catalog policy).eligible = []) :
    Accounted catalog (evaluation request catalog policy)
      (refused (ComplexityScorer.score request.hints) request
        (evaluation request catalog policy) catalog) := by
  have hgate := PolicyGate.evaluate_split catalog policy request.dataClassification
    request.executionRegion
  refine ⟨hgate, fun hne => absurd rfl hne, fun _ => ⟨?_, ?_⟩, ?_, fun exclusion hexclusion => ?_⟩
  · unfold refused
    dsimp only
    rw [List.map_map]
    exact (StableSort.sortBy_perm catalog).map _
  · have heligible : (PolicyGate.evaluate catalog policy request.dataClassification
        request.executionRegion).eligible = [] := h
    rw [heligible] at hgate
    exact hgate
  · intro candidate hmem _
    obtain ⟨entry, _, rfl⟩ := List.mem_map.mp hmem
    refine ⟨_, rfl, ?_⟩
    split
    · rename_i exclusion hfind
      exact PolicyGate.reason_of_mem_excluded (List.mem_of_find?_eq_some hfind)
    · decide
  · exact PolicyGate.reason_of_mem_excluded hexclusion

theorem accounted_governed {request : RoutingRequest} {catalog : List TierPricing}
    {policy : PolicySet} {decision : RoutingDecision} {chosen : Option TierPricing}
    {ceiling : Decimal} {indicated : Option ModelTier}
    (houtcome : (governed decision request (evaluation request catalog policy)).outcome ≠
      .refusedByPolicy)
    (hcandidates : decision.candidateTiers = TierSelector.buildCandidates
      (evaluation request catalog policy).eligible chosen ceiling indicated) :
    Accounted catalog (evaluation request catalog policy)
      (governed decision request (evaluation request catalog policy)) := by
  have hgate := PolicyGate.evaluate_split catalog policy request.dataClassification
    request.executionRegion
  refine ⟨hgate, fun _ => ?_, fun h => absurd h houtcome, ?_, fun exclusion hexclusion => ?_⟩
  · unfold governed
    dsimp only
    rw [hcandidates]
    exact ((TierSelector.buildCandidates_identity ..).append_right _).trans hgate
  · intro candidate hmem
    exact TierSelector.reason_of_mem_buildCandidates (hcandidates ▸ hmem)
  · exact PolicyGate.reason_of_mem_excluded hexclusion

/-- Whatever the catalog, the policy set and the request. -/
theorem plan_accounted (request : RoutingRequest) {catalog : List TierPricing} (h : catalog ≠ [])
    (policy : PolicySet) :
    ∃ decision, plan request catalog policy = some decision ∧
      Accounted catalog (evaluation request catalog policy) decision := by
  rcases plan_chosen request h policy with
    ⟨heligible, _, hplan⟩ | ⟨_, _, rationale, hplan⟩ | ⟨entry, _, hplan⟩
  · exact ⟨_, hplan, accounted_refused heligible⟩
  · exact ⟨_, hplan, accounted_governed nofun rfl⟩
  · exact ⟨_, hplan, accounted_governed governed_outcome_ne.2 rfl⟩

theorem summary_accounted :
    ∃ decision, plan Samples.summary [Samples.haiku, Samples.opus] Samples.capitalMarkets =
      some decision ∧ Accounted [Samples.haiku, Samples.opus]
        (evaluation Samples.summary [Samples.haiku, Samples.opus] Samples.capitalMarkets) decision :=
  plan_accounted Samples.summary (List.cons_ne_nil _ _) Samples.capitalMarkets

end RoutingPlanner

end Fcmr.RouterDecisions
