import Fcmr.RouterDecisions.Candidates

/-! The status of a routing outcome. Whether a denial is a matter of cost or of
availability is read off the catalog again, by the deployments that governance left. -/
namespace Fcmr.RouterService

open DotNet RouterDecisions RouterDecisions.RoutingPlanner

namespace RouteStatusMapper

def permitted (decision : RoutingDecision) (catalog : List TierPricing) : List TierPricing :=
  let excluded := decision.policyExclusions.map (·.deployment)
  catalog.filter fun entry => !excluded.contains entry.deployment

def noPermittedModelAvailable (decision : RoutingDecision) (catalog : List TierPricing) : Bool :=
  !(permitted decision catalog).isEmpty &&
    (permitted decision catalog).all fun entry => !entry.available

def statusFor (decision : RoutingDecision) (catalog : List TierPricing) : Nat :=
  match decision.outcome with
  | .routed => 200
  | .downgraded => 200
  | .refusedByPolicy => 200
  | .denied => if noPermittedModelAvailable decision catalog then 503 else 402

end RouteStatusMapper

open RouteStatusMapper

/-- The status of a denial names the planner's reason for it. -/
structure AgreesOnDenial (request : RoutingRequest) (catalog : List TierPricing)
    (policy : PolicySet) (decision : RoutingDecision) : Prop where
  unavailable : (∀ entry ∈ (evaluation request catalog policy).eligible, entry.available = false) →
    statusFor decision catalog = 503
  unaffordable : (∃ entry ∈ (evaluation request catalog policy).eligible, entry.available = true) →
    (∀ entry ∈ (evaluation request catalog policy).eligible,
      ¬TierSelector.Reachable (effectiveCeiling request policy) entry) →
    statusFor decision catalog = 402

/-- The eligible entry behind the reason can be told from the excluded ones by its
deployment; for the lack of money it also does when none can be. -/
structure NamesTellApart (evaluation : PolicyEvaluation) : Prop where
  unavailable : (∀ entry ∈ evaluation.eligible, entry.available = false) →
    ∃ entry ∈ evaluation.eligible, entry.deployment ∉ evaluation.excluded.map (·.deployment)
  unaffordable : (∃ entry ∈ evaluation.eligible, entry.available = true) →
    (∃ entry ∈ evaluation.eligible, entry.available = true ∧
      entry.deployment ∉ evaluation.excluded.map (·.deployment)) ∨
    ∀ entry ∈ evaluation.eligible, entry.deployment ∈ evaluation.excluded.map (·.deployment)

variable {request : RoutingRequest} {catalog : List TierPricing} {policy : PolicySet}
  {decision : RoutingDecision}

theorem plan_denied (h : plan request catalog policy = some decision)
    (houtcome : decision.outcome = .denied) :
    (∀ entry ∈ (evaluation request catalog policy).eligible,
      ¬TierSelector.Reachable (effectiveCeiling request policy) entry) ∧
    decision.policyExclusions = (evaluation request catalog policy).excluded := by
  rcases plan_chosen request (catalog_ne_nil h) policy with
    ⟨_, _, hplan⟩ | ⟨_, hnone, rationale, hplan⟩ | ⟨entry, _, hplan⟩
  · cases h.symm.trans hplan
    cases houtcome
  · cases h.symm.trans hplan
    exact ⟨chosen_eq_none.mp hnone, rfl⟩
  · cases h.symm.trans hplan
    exact absurd houtcome governed_outcome_ne.1

theorem mem_permitted {entry : TierPricing}
    (h : decision.policyExclusions = (evaluation request catalog policy).excluded) :
    entry ∈ permitted decision catalog ↔ entry ∈ (evaluation request catalog policy).eligible ∧
      entry.deployment ∉ (evaluation request catalog policy).excluded.map (·.deployment) := by
  unfold permitted
  rw [h]
  simp only [List.mem_filter, Bool.not_eq_true', List.contains_eq_mem, decide_eq_false_iff_not]
  constructor
  · rintro ⟨hmem, hname⟩
    rcases PolicyGate.eligible_or_excluded hmem with heligible | ⟨excluded, hexcluded, hsame⟩
    · exact ⟨heligible, hname⟩
    · exact absurd (List.mem_map.mpr ⟨excluded, hexcluded, congrArg Prod.fst hsame⟩) hname
  · rintro ⟨hmem, hname⟩
    exact ⟨(PolicyGate.mem_eligible.mp hmem).1, hname⟩

theorem noPermittedModelAvailable_iff
    (h : decision.policyExclusions = (evaluation request catalog policy).excluded) :
    noPermittedModelAvailable decision catalog = true ↔
      (∃ entry ∈ (evaluation request catalog policy).eligible,
        entry.deployment ∉ (evaluation request catalog policy).excluded.map (·.deployment)) ∧
      ∀ entry ∈ (evaluation request catalog policy).eligible,
        entry.deployment ∉ (evaluation request catalog policy).excluded.map (·.deployment) →
          entry.available = false := by
  unfold noPermittedModelAvailable
  simp only [Bool.and_eq_true, Bool.not_eq_true', List.isEmpty_eq_false_iff_exists_mem,
    List.all_eq_true, mem_permitted h, and_imp]

theorem statusFor_denied (catalog : List TierPricing) (houtcome : decision.outcome = .denied) :
    statusFor decision catalog =
      if noPermittedModelAvailable decision catalog then 503 else 402 := by
  unfold statusFor
  rw [houtcome]

/-- Exactly when the transport reads a denial as the planner meant it. -/
theorem agreesOnDenial_iff (hplan : plan request catalog policy = some decision)
    (houtcome : decision.outcome = .denied) :
    AgreesOnDenial request catalog policy decision ↔
      NamesTellApart (evaluation request catalog policy) := by
  obtain ⟨hunreachable, hexclusions⟩ := plan_denied hplan houtcome
  have hiff := noPermittedModelAvailable_iff hexclusions
  have hstatus := statusFor_denied catalog houtcome
  constructor
  · intro hagrees
    constructor
    · intro hall
      by_contra hnone
      rw [hagrees.unavailable hall, if_neg fun h => hnone (hiff.mp h).1] at hstatus
      cases hstatus
    · intro hsome
      by_contra hneither
      obtain ⟨hnone, hnamed⟩ := not_or.mp hneither
      have htrue : noPermittedModelAvailable decision catalog = true := by
        refine hiff.mpr ⟨by simpa using hnamed, fun entry hmem hname => ?_⟩
        exact Bool.eq_false_of_not_eq_true fun havailable => hnone ⟨entry, hmem, havailable, hname⟩
      rw [hagrees.unaffordable hsome hunreachable, if_pos htrue] at hstatus
      cases hstatus
  · intro hnames
    constructor
    · intro hall
      rw [hstatus, if_pos (hiff.mpr ⟨hnames.unavailable hall, fun entry hmem _ => hall entry hmem⟩)]
    · intro hsome _
      rw [hstatus, if_neg]
      intro htrue
      obtain ⟨⟨entry, hmem, hname⟩, hall⟩ := hiff.mp htrue
      rcases hnames.unaffordable hsome with ⟨other, hother, havailable, hother'⟩ | hnamed
      · cases havailable.symm.trans (hall other hother hother')
      · exact hname (hnamed entry hmem)

namespace Samples

open RouterDecisions.Samples

def mixed (deployment : Text) : List TierPricing :=
  [{ tier := .economy, deployment := lit "claude", costPerRequestUsd := .literal 4 3,
      vendor := .anthropic, available := false },
    { tier := .standard, deployment, costPerRequestUsd := .literal 31 3, vendor := .xai }]

theorem mixed_names : NamesTellApart (evaluation summary (mixed (lit "grok")) capitalMarkets) where
  unavailable := by decide +kernel
  unaffordable := by decide +kernel

theorem mixed_agrees : ∃ decision,
    plan summary (mixed (lit "grok")) capitalMarkets = some decision ∧
      AgreesOnDenial summary (mixed (lit "grok")) capitalMarkets decision := by
  have hplan : (plan summary (mixed (lit "grok")) capitalMarkets).map (·.outcome) =
      some .denied := by decide +kernel
  obtain ⟨decision, hdecision, houtcome⟩ := Option.map_eq_some_iff.mp hplan
  exact ⟨decision, hdecision, (agreesOnDenial_iff hdecision houtcome).mpr mixed_names⟩

/-- Under one name, the entry that is up hides that the other one is down. -/
theorem mixed_disagrees : ∃ decision,
    plan summary (mixed (lit "claude")) capitalMarkets = some decision ∧
      decision.outcome = .denied ∧ statusFor decision (mixed (lit "claude")) = 402 ∧
      ¬AgreesOnDenial summary (mixed (lit "claude")) capitalMarkets decision := by
  have hplan : (plan summary (mixed (lit "claude")) capitalMarkets).map (fun decision =>
      (decision.outcome, statusFor decision (mixed (lit "claude")))) = some (.denied, 402) := by
    decide +kernel
  have hdown : ∀ entry ∈ (evaluation summary (mixed (lit "claude")) capitalMarkets).eligible,
      entry.available = false := by
    decide +kernel
  obtain ⟨decision, hdecision, hfields⟩ := Option.map_eq_some_iff.mp hplan
  obtain ⟨houtcome, hstatus⟩ := Prod.mk.inj hfields
  refine ⟨decision, hdecision, houtcome, hstatus, fun hagrees => ?_⟩
  cases hstatus.symm.trans (hagrees.unavailable hdown)

end Samples

end Fcmr.RouterService
