import Fcmr.RouterDecisions.CatalogOrder
import Mathlib.Data.List.Find

/-! Whether a decision depends on the order in which the catalog is configured: what a refusal,
a denial and a choice record of entries that are alike. -/
namespace Fcmr.RouterDecisions

open DotNet

structure SameDecision (decision decision' : RoutingDecision) : Prop where
  outcome : decision.outcome = decision'.outcome
  selectedTier : decision.selectedTier = decision'.selectedTier
  selectedDeployment : decision.selectedDeployment = decision'.selectedDeployment
  selectedVendor : decision.selectedVendor = decision'.selectedVendor
  candidateTiers : decision.candidateTiers.map (·.shown) = decision'.candidateTiers.map (·.shown)
  rationale : decision.rationale = decision'.rationale
  policyExclusions : decision.policyExclusions.Perm decision'.policyExclusions

namespace RoutingPlanner

/-- Whatever the order of the catalog, the decision is the same. -/
def OrderFree (request : RoutingRequest) (catalog : List TierPricing) (policy : PolicySet) : Prop :=
  ∀ catalog', catalog.Perm catalog' → ∀ decision decision',
    plan request catalog policy = some decision → plan request catalog' policy = some decision' →
      SameDecision decision decision'

variable {request : RoutingRequest} {catalog catalog' : List TierPricing} {policy : PolicySet}
  {entry : TierPricing}

theorem plan_refused (h : catalog ≠ []) (heligible : (evaluation request catalog policy).eligible = []) :
    plan request catalog policy = some (refused (ComplexityScorer.score request.hints) request
      (evaluation request catalog policy) catalog) := by
  rcases plan_chosen request h policy with ⟨_, _, hplan⟩ | ⟨hsome, _, _⟩ | ⟨entry, hchosen, _⟩
  · exact hplan
  · exact absurd heligible hsome
  · exact absurd (chosen_mem hchosen).1 (heligible ▸ List.not_mem_nil)

theorem plan_denied (heligible : (evaluation request catalog policy).eligible ≠ [])
    (hnone : chosen request catalog policy = none) :
    plan request catalog policy = some (governed (TierSelector.denied
      (ComplexityScorer.score request.hints) (effectiveCeiling request policy)
      (evaluation request catalog policy).eligible
      (TierSelector.denialRationale (effectiveCeiling request policy)
        (evaluation request catalog policy).eligible)) request
      (evaluation request catalog policy)) := by
  obtain ⟨entry, hentry⟩ := List.exists_mem_of_ne_nil _ heligible
  have hcatalog : catalog ≠ [] := List.ne_nil_of_mem (PolicyGate.mem_eligible.mp hentry).1
  have hreachable := TierSelector.choose_eq_none.mp hnone
  unfold plan
  rw [if_neg hcatalog]
  dsimp only
  rw [if_neg (by simp [PolicyEvaluation.noEligibleModels, heligible]),
    TierSelector.select_denied _ heligible hreachable]
  rfl

theorem plan_routed (h : chosen request catalog policy = some entry) :
    plan request catalog policy = some (governed (TierSelector.routed
      (ComplexityScorer.score request.hints) (effectiveCeiling request policy)
      (evaluation request catalog policy).eligible entry
      (ComplexityScorer.indicatedTier (ComplexityScorer.score request.hints))) request
      (evaluation request catalog policy)) := by
  have hcatalog : catalog ≠ [] :=
    List.ne_nil_of_mem (PolicyGate.mem_eligible.mp (chosen_mem h).1).1
  rcases plan_chosen request hcatalog policy with ⟨_, hnone, _⟩ | ⟨_, hnone, _⟩ | ⟨_, hsome, hplan⟩
  · cases h.symm.trans hnone
  · cases h.symm.trans hnone
  · cases h.symm.trans hsome
    exact hplan

theorem evaluation_perm (request : RoutingRequest) (policy : PolicySet)
    (h : catalog.Perm catalog') :
    (evaluation request catalog policy).eligible.Perm (evaluation request catalog' policy).eligible ∧
      (evaluation request catalog policy).excluded.Perm
        (evaluation request catalog' policy).excluded :=
  PolicyGate.evaluate_perm h

theorem chosen_perm (request : RoutingRequest) (policy : PolicySet) (h : catalog.Perm catalog') :
    (chosen request catalog policy).map pricingKey = (chosen request catalog' policy).map pricingKey :=
  TierSelector.choose_perm (TierSelector.reachable_perm (evaluation_perm request policy h).1)

/-- Of the entries in a tie the record shows the vendor, and the reason for which they were
not selected. -/
def TiesAlike (entries : List TierPricing) (deployment : Option Text) : Prop :=
  ∀ entry ∈ entries, ∀ entry' ∈ entries, pricingKey entry = pricingKey entry' →
    entry.vendor = entry'.vendor ∧
      (entry.available = entry'.available ∨ deployment = some entry.deployment)

theorem tiesAlike_iff (entries : List TierPricing) (chosen : Option TierPricing)
    (ceiling : Decimal) (indicated : Option ModelTier) :
    TiesAlike entries (chosen.map (·.deployment)) ↔ ∀ entries', entries.Perm entries' →
      (TierSelector.buildCandidates entries' chosen ceiling indicated).map (·.shown) =
        (TierSelector.buildCandidates entries chosen ceiling indicated).map (·.shown) := by
  have hselected (entry : TierPricing) : (∃ selected, chosen = some selected ∧
      entry.deployment = selected.deployment) ↔
        chosen.map (·.deployment) = some entry.deployment := by
    rw [Option.map_eq_some_iff]
    exact exists_congr fun selected => and_congr_right fun _ => eq_comm
  rw [TierSelector.candidates_invariant_iff]
  simp only [hselected]
  exact Iff.rfl

theorem orderFree_routed (h : chosen request catalog policy = some entry) :
    OrderFree request catalog policy ↔
      TiesAlike (evaluation request catalog policy).eligible (some entry.deployment) := by
  have hchosen {catalog' : List TierPricing} (hperm : catalog.Perm catalog') :
      ∃ entry', chosen request catalog' policy = some entry' ∧
        pricingKey entry' = pricingKey entry := by
    have hkey := chosen_perm request policy hperm
    rw [h] at hkey
    exact Option.map_eq_some_iff.mp hkey.symm
  have hcandidates := tiesAlike_iff (evaluation request catalog policy).eligible (some entry)
    (effectiveCeiling request policy)
    (some (ComplexityScorer.indicatedTier (ComplexityScorer.score request.hints)))
  constructor
  · intro hfree
    refine hcandidates.mpr fun eligible hperm => ?_
    obtain ⟨catalog', hcatalog, rfl⟩ := PolicyGate.exists_catalog hperm
    obtain ⟨entry', hchosen', hkey⟩ := hchosen hcatalog
    have hsame := hfree catalog' hcatalog _ _ (plan_routed h) (plan_routed hchosen')
    rw [← TierSelector.buildCandidates_congr _ _ _ hkey]
    exact hsame.candidateTiers.symm
  · intro hties catalog' hcatalog decision decision' hplan hplan'
    obtain ⟨entry', hchosen', hkey⟩ := hchosen hcatalog
    obtain ⟨heligible, hexcluded⟩ := evaluation_perm request policy hcatalog
    obtain ⟨htier, _, hdeployment⟩ := TierSelector.pricingKey_eq.mp hkey
    have hvendor := (hties entry (chosen_mem h).1 entry'
      (heligible.mem_iff.mpr (chosen_mem hchosen').1) hkey.symm).1
    obtain ⟨houtcome, hrationale⟩ := TierSelector.routed_congr
      (ComplexityScorer.score request.hints) (effectiveCeiling request policy)
      (evaluation request catalog policy).eligible (evaluation request catalog' policy).eligible
      (ComplexityScorer.indicatedTier (ComplexityScorer.score request.hints)) hkey.symm
    have hbuilt := hcandidates.mp hties _ heligible
    rw [← TierSelector.buildCandidates_congr (evaluation request catalog' policy).eligible _ _ hkey]
      at hbuilt
    cases (plan_routed h).symm.trans hplan
    cases (plan_routed hchosen').symm.trans hplan'
    exact {
      outcome := houtcome
      selectedTier := congrArg some htier.symm
      selectedDeployment := congrArg some hdeployment.symm
      selectedVendor := congrArg some hvendor
      candidateTiers := hbuilt.symm
      rationale := hrationale
      policyExclusions := hexcluded }

theorem orderFree_denied (heligible : (evaluation request catalog policy).eligible ≠ [])
    (hnone : chosen request catalog policy = none) :
    OrderFree request catalog policy ↔
      TiesAlike (evaluation request catalog policy).eligible none ∧
      ∀ entry entry', TierSelector.LeastAvailable (evaluation request catalog policy).eligible entry →
        TierSelector.LeastAvailable (evaluation request catalog policy).eligible entry' →
          entry.deployment = entry'.deployment := by
  have hcandidates := tiesAlike_iff (evaluation request catalog policy).eligible none
    (effectiveCeiling request policy) none
  have hrationale := TierSelector.denialRationale_invariant_iff heligible
    (TierSelector.choose_eq_none.mp hnone)
  have hdenied {catalog' : List TierPricing} (hperm : catalog.Perm catalog') :
      (evaluation request catalog' policy).eligible ≠ [] ∧
        chosen request catalog' policy = none := by
    have hkey := chosen_perm request policy hperm
    rw [hnone] at hkey
    refine ⟨fun hempty => heligible ?_, Option.map_eq_none_iff.mp hkey.symm⟩
    exact List.perm_nil.mp (hempty ▸ (evaluation_perm request policy hperm).1)
  constructor
  · intro hfree
    refine ⟨hcandidates.mpr fun eligible hperm => ?_, hrationale.mp fun eligible hperm => ?_⟩
    all_goals
      obtain ⟨catalog', hcatalog, rfl⟩ := PolicyGate.exists_catalog hperm
      obtain ⟨heligible', hnone'⟩ := hdenied hcatalog
      have hsame := hfree catalog' hcatalog _ _ (plan_denied heligible hnone)
        (plan_denied heligible' hnone')
    · exact hsame.candidateTiers.symm
    · exact hsame.rationale.symm
  · rintro ⟨hties, hleast⟩ catalog' hcatalog decision decision' hplan hplan'
    obtain ⟨heligible', hnone'⟩ := hdenied hcatalog
    obtain ⟨hperm, hexcluded⟩ := evaluation_perm request policy hcatalog
    cases (plan_denied heligible hnone).symm.trans hplan
    cases (plan_denied heligible' hnone').symm.trans hplan'
    exact {
      outcome := rfl
      selectedTier := rfl
      selectedDeployment := rfl
      selectedVendor := rfl
      candidateTiers := (hcandidates.mp hties _ hperm).symm
      rationale := (hrationale.mpr hleast _ hperm).symm
      policyExclusions := hexcluded }

def ruledOutReason (request : RoutingRequest) (policy : PolicySet) (entry : TierPricing) :
    Option Text :=
  (PolicyGate.ruledOut policy request.dataClassification request.executionRegion entry).map
    (·.reason)

theorem ruledOut_of_refused (heligible : (evaluation request catalog policy).eligible = [])
    (hmem : entry ∈ catalog) : ∃ excluded, PolicyGate.ruledOut policy request.dataClassification
      request.executionRegion entry = some excluded ∧ excluded.deployment = entry.deployment := by
  have hnot : entry ∉ (evaluation request catalog policy).eligible :=
    heligible ▸ List.not_mem_nil
  unfold evaluation at hnot
  rw [PolicyGate.mem_eligible_iff, not_and] at hnot
  obtain ⟨excluded, hexcluded⟩ := Option.ne_none_iff_exists'.mp (hnot hmem)
  exact ⟨excluded, hexcluded, PolicyGate.ruledOut_deployment hexcluded⟩

theorem find_excluded (heligible : (evaluation request catalog policy).eligible = [])
    (hmem : entry ∈ catalog) : ∃ first ∈ catalog, first.deployment = entry.deployment ∧
      catalog.find? (·.deployment = entry.deployment) = some first ∧
      ∃ excluded, (evaluation request catalog policy).excluded.find?
          (·.deployment = entry.deployment) = some excluded ∧
        ruledOutReason request policy first = some excluded.reason := by
  have hsome : (catalog.find? (·.deployment = entry.deployment)).isSome :=
    List.find?_isSome.mpr ⟨entry, hmem, decide_eq_true rfl⟩
  obtain ⟨first, hfirst⟩ := Option.isSome_iff_exists.mp hsome
  have hfirstMem := List.mem_of_find?_eq_some hfirst
  have hfound := List.find?_some hfirst
  have hdeployment : first.deployment = entry.deployment := of_decide_eq_true hfound
  refine ⟨first, hfirstMem, hdeployment, hfirst, ?_⟩
  obtain ⟨excluded, hexcluded, _⟩ := ruledOut_of_refused heligible hfirstMem
  refine ⟨excluded, ?_, by rw [ruledOutReason, hexcluded, Option.map_some]⟩
  have hfound : catalog.find? (fun other => (PolicyGate.ruledOut policy request.dataClassification
      request.executionRegion other).any (·.deployment = entry.deployment)) = some first := by
    rw [← hfirst]
    apply List.find?_congr
    intro other hother
    obtain ⟨excluded, hexcluded, hsame⟩ := ruledOut_of_refused heligible hother
    rw [hexcluded, Option.any_some, hsame]
  unfold evaluation
  rw [PolicyGate.evaluate_eq]
  change (catalog.filterMap _).find? _ = _
  rw [List.find?_filterMap, hfound, Option.bind_some, hexcluded]

def refusedRow (entry : TierPricing) (reason : Option Text) :
    ModelTier × Text × ℚ × ModelVendor × Bool × Option Text :=
  (entry.tier, entry.deployment, entry.costPerRequestUsd.value, entry.vendor, false, reason)

theorem refused_rows (heligible : (evaluation request catalog policy).eligible = []) :
    (refused (ComplexityScorer.score request.hints) request (evaluation request catalog policy)
        catalog).candidateTiers.map (·.shown) =
      (StableSort.sortBy pricingKey catalog).map fun entry => refusedRow entry
        ((catalog.find? (·.deployment = entry.deployment)).bind (ruledOutReason request policy)) := by
  unfold refused
  rw [List.map_map]
  apply List.map_congr_left
  intro entry hentry
  obtain ⟨first, _, _, hfirst, excluded, hexcluded, hreason⟩ :=
    find_excluded heligible ((StableSort.sortBy_perm catalog).mem_iff.mp hentry)
  simp only [Function.comp_apply, TierCandidate.shown, refusedRow, hexcluded, hfirst,
    Option.bind_some, hreason]

theorem refusalRationale_perm {evaluation evaluation' : PolicyEvaluation}
    (hid : evaluation.policySetId = evaluation'.policySetId)
    (hversion : evaluation.policySetVersion = evaluation'.policySetVersion)
    (h : evaluation.excluded.Perm evaluation'.excluded) :
    refusalRationale request evaluation = refusalRationale request evaluation' := by
  have hvendors : StableSort.sortBy ModelVendor.text (evaluation.excluded.map (·.vendor)).dedup =
      StableSort.sortBy ModelVendor.text (evaluation'.excluded.map (·.vendor)).dedup :=
    StableSort.sortBy_eq_of_perm (fun _ _ _ _ htext => ModelVendor.text_injective htext)
      (h.map (·.vendor)).dedup
  have hempty : evaluation.excluded.isEmpty = evaluation'.excluded.isEmpty := h.isEmpty_eq
  have hall : (evaluation.excluded.all fun exclusion => exclusion.kind = .policyCostCeiling) =
      evaluation'.excluded.all fun exclusion => exclusion.kind = .policyCostCeiling :=
    h.all_eq
  unfold refusalRationale
  simp only [hvendors, hempty, hall, hid, hversion, h.length_eq]

/-- Of a refusal the record shows the vendor of every entry, and one reason for a deployment. -/
structure RefusedAlike (request : RoutingRequest) (policy : PolicySet)
    (catalog : List TierPricing) : Prop where
  vendor : ∀ entry ∈ catalog, ∀ entry' ∈ catalog, pricingKey entry = pricingKey entry' →
    entry.vendor = entry'.vendor
  reason : ∀ entry ∈ catalog, ∀ entry' ∈ catalog, entry.deployment = entry'.deployment →
    ruledOutReason request policy entry = ruledOutReason request policy entry'

theorem refused_rows_of_alike (heligible : (evaluation request catalog policy).eligible = [])
    (h : RefusedAlike request policy catalog) (hperm : catalog.Perm catalog') :
    (StableSort.sortBy pricingKey catalog').map (fun entry => refusedRow entry
        ((catalog'.find? (·.deployment = entry.deployment)).bind (ruledOutReason request policy))) =
      (StableSort.sortBy pricingKey catalog).map fun entry =>
        refusedRow entry (ruledOutReason request policy entry) := by
  have hties : ∀ entry ∈ catalog, ∀ entry' ∈ catalog, pricingKey entry = pricingKey entry' →
      refusedRow entry (ruledOutReason request policy entry) =
        refusedRow entry' (ruledOutReason request policy entry') := by
    intro entry hentry entry' hentry' hkey
    obtain ⟨htier, hcost, hdeployment⟩ := TierSelector.pricingKey_eq.mp hkey
    unfold refusedRow
    rw [htier, hcost, h.vendor entry hentry entry' hentry' hkey,
      h.reason entry hentry entry' hentry' hdeployment, hdeployment]
  rw [StableSort.map_sortBy_eq_of_perm hties hperm]
  apply List.map_congr_left
  intro entry hentry
  have hmem' := (StableSort.sortBy_perm catalog').mem_iff.mp hentry
  have heligible' : (evaluation request catalog' policy).eligible = [] :=
    List.nil_perm.mp (heligible ▸ (evaluation_perm request policy hperm).1)
  obtain ⟨first, hfirstMem, hdeployment, hfirst, _⟩ := find_excluded heligible' hmem'
  rw [hfirst, Option.bind_some, h.reason first (hperm.mem_iff.mpr hfirstMem) entry
    (hperm.mem_iff.mpr hmem') hdeployment]

theorem refusedAlike_of_rows (h : ∀ catalog', catalog.Perm catalog' →
    (StableSort.sortBy pricingKey catalog).map (fun entry => refusedRow entry
        ((catalog.find? (·.deployment = entry.deployment)).bind (ruledOutReason request policy))) =
      (StableSort.sortBy pricingKey catalog').map fun entry => refusedRow entry
        ((catalog'.find? (·.deployment = entry.deployment)).bind
          (ruledOutReason request policy))) :
    RefusedAlike request policy catalog where
  vendor entry hentry entry' hentry' := by
    apply StableSort.ties_of_map_sortBy pricingKey (·.vendor) _ hentry hentry'
    intro catalog' hperm
    have hprojected := congrArg (List.map
      fun row : ModelTier × Text × ℚ × ModelVendor × Bool × Option Text =>
        (toLex (row.1.value, toLex (row.2.2.1, row.2.1)), row.2.2.2.1)) (h catalog' hperm)
    rw [List.map_map, List.map_map] at hprojected
    exact hprojected
  reason entry hentry entry' hentry' hdeployment := by
    -- The row of an entry that is moved to the front shows its own reason.
    obtain ⟨before, after, hsplit⟩ := List.append_of_mem hentry
    obtain ⟨before', after', hsplit'⟩ := List.append_of_mem hentry'
    have hperm : catalog.Perm (entry :: (before ++ after)) := hsplit ▸ List.perm_middle
    have hperm' : catalog.Perm (entry' :: (before' ++ after')) := hsplit' ▸ List.perm_middle
    have hrows := (h _ hperm).symm.trans (h _ hperm')
    have hrow : refusedRow entry (ruledOutReason request policy entry) ∈
        (StableSort.sortBy pricingKey (entry :: (before ++ after))).map fun other =>
          refusedRow other (((entry :: (before ++ after)).find?
            (·.deployment = other.deployment)).bind (ruledOutReason request policy)) := by
      refine List.mem_map.mpr
        ⟨entry, (StableSort.sortBy_perm _).mem_iff.mpr List.mem_cons_self, ?_⟩
      rw [List.find?_cons_of_pos (by simp), Option.bind_some]
    rw [hrows] at hrow
    obtain ⟨other, _, hother⟩ := List.mem_map.mp hrow
    unfold refusedRow at hother
    simp only [Prod.mk.injEq] at hother
    obtain ⟨_, hsame, _, _, _, hreason⟩ := hother
    rw [hsame, List.find?_cons_of_pos (by simp [hdeployment]), Option.bind_some] at hreason
    exact hreason.symm

theorem orderFree_refused (h : catalog ≠ [])
    (heligible : (evaluation request catalog policy).eligible = []) :
    OrderFree request catalog policy ↔ RefusedAlike request policy catalog := by
  have hrefused {catalog' : List TierPricing} (hperm : catalog.Perm catalog') : catalog' ≠ [] ∧
      (evaluation request catalog' policy).eligible = [] :=
    ⟨fun hempty => h (List.perm_nil.mp (hempty ▸ hperm)),
      List.nil_perm.mp (heligible ▸ (evaluation_perm request policy hperm).1)⟩
  constructor
  · intro hfree
    apply refusedAlike_of_rows
    intro catalog' hperm
    obtain ⟨h', heligible'⟩ := hrefused hperm
    have hsame := hfree catalog' hperm _ _ (plan_refused h heligible) (plan_refused h' heligible')
    rw [← refused_rows heligible, ← refused_rows heligible']
    exact hsame.candidateTiers
  · intro halike catalog' hperm decision decision' hplan hplan'
    obtain ⟨h', heligible'⟩ := hrefused hperm
    obtain ⟨_, hexcluded⟩ := evaluation_perm request policy hperm
    cases (plan_refused h heligible).symm.trans hplan
    cases (plan_refused h' heligible').symm.trans hplan'
    exact {
      outcome := rfl
      selectedTier := rfl
      selectedDeployment := rfl
      selectedVendor := rfl
      candidateTiers := by
        rw [refused_rows heligible, refused_rows heligible',
          refused_rows_of_alike heligible halike (List.Perm.refl catalog),
          refused_rows_of_alike heligible halike hperm]
      rationale := by
        apply refusalRationale_perm _ _ hexcluded
        · unfold evaluation
          rw [PolicyGate.evaluate_eq, PolicyGate.evaluate_eq]
          rfl
        · unfold evaluation
          rw [PolicyGate.evaluate_eq, PolicyGate.evaluate_eq]
          rfl
      policyExclusions := hexcluded }

/-- Wherever the first of several like entries is recorded, they are alike in what is recorded. -/
structure OrderSettled (request : RoutingRequest) (catalog : List TierPricing)
    (policy : PolicySet) : Prop where
  refused : (evaluation request catalog policy).eligible = [] → RefusedAlike request policy catalog
  tied : ∀ entry ∈ (evaluation request catalog policy).eligible,
    ∀ entry' ∈ (evaluation request catalog policy).eligible, pricingKey entry = pricingKey entry' →
      entry.vendor = entry'.vendor ∧ (entry.available = entry'.available ∨
        ∃ preferred, Preferred request catalog policy preferred ∧
          preferred.deployment = entry.deployment)
  cheapest : (∀ entry ∈ (evaluation request catalog policy).eligible,
      ¬TierSelector.Reachable (effectiveCeiling request policy) entry) →
    ∀ entry entry', TierSelector.LeastAvailable (evaluation request catalog policy).eligible entry →
      TierSelector.LeastAvailable (evaluation request catalog policy).eligible entry' →
        entry.deployment = entry'.deployment

theorem preferred_iff (h : chosen request catalog policy = some entry) {deployment : Text} :
    (∃ preferred, Preferred request catalog policy preferred ∧
      preferred.deployment = deployment) ↔ some entry.deployment = some deployment := by
  have hentry := preferred_of_chosen h
  rw [Option.some.injEq]
  constructor
  · rintro ⟨preferred, hpreferred, rfl⟩
    exact hentry.deployment_eq hpreferred
  · exact fun hdeployment => ⟨entry, hentry, hdeployment⟩

/-- The order of the catalog leaves the decision alone exactly when like entries are settled. -/
theorem orderFree_iff (request : RoutingRequest) (catalog : List TierPricing)
    (policy : PolicySet) :
    OrderFree request catalog policy ↔ OrderSettled request catalog policy := by
  by_cases hempty : catalog = []
  · subst hempty
    have hnone {entry : TierPricing} (h : entry ∈ (evaluation request [] policy).eligible) : False :=
      List.not_mem_nil (PolicyGate.mem_eligible.mp h).1
    refine iff_of_true (fun _ _ decision _ hplan _ => by cases hplan) ?_
    exact {
      refused := fun _ => ⟨nofun, nofun⟩
      tied := fun entry hentry => (hnone hentry).elim
      cheapest := fun _ entry _ hentry => (hnone hentry.mem).elim }
  rcases plan_chosen request hempty policy with
    ⟨heligible, _, _⟩ | ⟨heligible, hnone, _⟩ | ⟨entry, hchosen, _⟩
  · rw [orderFree_refused hempty heligible]
    refine ⟨fun halike => ⟨fun _ => halike, ?_, ?_⟩, fun h => h.refused heligible⟩
    · intro entry hentry
      exact absurd hentry (heligible ▸ List.not_mem_nil)
    · intro _ entry _ hentry
      exact absurd hentry.mem (heligible ▸ List.not_mem_nil)
  · have hunreachable : ∀ entry ∈ (evaluation request catalog policy).eligible,
        ¬TierSelector.Reachable (effectiveCeiling request policy) entry := by
      intro entry hentry hwithin
      have hmem := TierSelector.mem_reachable.mpr ⟨hentry, hwithin⟩
      exact absurd hmem (TierSelector.choose_eq_none.mp hnone ▸ List.not_mem_nil)
    rw [orderFree_denied heligible hnone]
    constructor
    · rintro ⟨hties, hleast⟩
      refine ⟨fun h => absurd h heligible, fun entry hentry entry' hentry' hkey => ?_,
        fun _ => hleast⟩
      exact (hties entry hentry entry' hentry' hkey).imp_right fun h =>
        h.elim .inl fun h => nomatch h
    · intro h
      refine ⟨fun entry hentry entry' hentry' hkey => ?_, h.cheapest hunreachable⟩
      refine (h.tied entry hentry entry' hentry' hkey).imp_right fun h => h.elim .inl ?_
      rintro ⟨preferred, hpreferred, _⟩
      exact absurd hpreferred.reachable (hunreachable preferred hpreferred.mem)
  · obtain ⟨hmem, hreachable⟩ := chosen_mem hchosen
    rw [orderFree_routed hchosen]
    unfold TiesAlike
    simp only [← preferred_iff hchosen]
    exact ⟨fun hties => ⟨fun h => absurd hmem (h ▸ List.not_mem_nil), hties,
      fun hnone => absurd hreachable (hnone entry hmem)⟩, fun h => h.tied⟩

end RoutingPlanner

namespace Samples

open RoutingPlanner

def twins : List TierPricing := [standard (lit "a") .anthropic, standard (lit "b") .anthropic]

def frugal : RoutingRequest := { summary with costCeilingUsd := .literal 1 3 }

theorem twins_leastAvailable {entry : TierPricing} (h : entry ∈ twins) :
    TierSelector.LeastAvailable (evaluation frugal twins capitalMarkets).eligible entry := by
  have hsame {entry : TierPricing} (h : entry ∈ twins) : entry.available = true ∧
      entry.vendor = .anthropic ∧ entry.costPerRequestUsd = .literal 30 3 := by
    rcases List.mem_pair.mp h with rfl | rfl <;> exact ⟨rfl, rfl, rfl⟩
  obtain ⟨havailable, hvendor, hcost⟩ := hsame h
  have hpermitted : Permitted capitalMarkets frugal.dataClassification frugal.executionRegion entry :=
    { region := PolicyGate.regionPermitted_iff.mp (by decide +kernel)
      approved := by rw [hvendor]; decide
      classified := by
        rw [hvendor]
        exact PolicyGate.withinClassification_iff.mp (by decide +kernel)
      affordable := by rw [hcost]; decide +kernel }
  refine ⟨PolicyGate.mem_eligible.mpr ⟨h, hpermitted⟩, havailable, fun other hother _ => ?_⟩
  rw [hcost, (hsame (PolicyGate.mem_eligible.mp hother).1).2.2]

/-- Two entries at one price above the ceiling of the request: the denial names the one that
is configured first. -/
theorem denial_ordered : ¬OrderFree frugal twins capitalMarkets := by
  intro hfree
  have hchosen : chosen frugal twins capitalMarkets = none := by decide +kernel
  have hfirst := twins_leastAvailable List.mem_cons_self
  have hsecond := twins_leastAvailable (List.mem_cons_of_mem _ List.mem_cons_self)
  obtain ⟨_, hsame⟩ := (orderFree_denied (List.ne_nil_of_mem hfirst.mem) hchosen).mp hfree
  have heq := hsame _ _ hfirst hsecond
  exact absurd heq (by decide)

end Samples

end Fcmr.RouterDecisions
