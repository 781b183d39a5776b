import Fcmr.DotNet.Formats
import Fcmr.Library.StableSort
import Fcmr.RouterDecisions.ComplexityScorer

/-! Selection of an entry under a cost ceiling: by tier first, then by price. -/
namespace Fcmr.RouterDecisions

open DotNet

namespace TierSelector

def costText (cost : Decimal) : Text := cost.placesText 3

def belowKey (entry : TierPricing) : ℕᵒᵈ ×ₗ ℚ ×ₗ Text :=
  toLex (OrderDual.toDual entry.tier.value, costKey entry)

def choose (affordable : List TierPricing) (indicated : ModelTier) : Option TierPricing :=
  let atIndicated :=
    StableSort.sortBy costKey (affordable.filter fun entry => entry.tier = indicated)
  let below :=
    StableSort.sortBy belowKey (affordable.filter fun entry => entry.tier.value < indicated.value)
  (atIndicated.head?.or below.head?).or (StableSort.sortBy pricingKey affordable).head?

def rejection (chosen : Option TierPricing) (ceiling : Decimal) (indicated : Option ModelTier)
    (candidate : TierPricing) : Text :=
  if candidate.available = false then lit "Model unavailable."
  else if ceiling.value < candidate.costPerRequestUsd.value then
    lit "Projected " ++ costText candidate.costPerRequestUsd ++ lit " USD exceeds the " ++
      costText ceiling ++ lit " USD ceiling."
  else
    match chosen.filter fun chosen => candidate.tier = chosen.tier with
    | some chosen =>
      lit "Same tier as the selected model at a higher projected cost (" ++
        costText candidate.costPerRequestUsd ++ lit " against " ++
        costText chosen.costPerRequestUsd ++ lit " USD)."
    | none =>
      if indicated.any fun indicated => indicated.value < candidate.tier.value then
        lit "Above the tier indicated by task complexity; no measured quality gain for this task kind."
      else lit "Below the tier indicated by task complexity."

def buildCandidates (pricing : List TierPricing) (chosen : Option TierPricing) (ceiling : Decimal)
    (indicated : Option ModelTier) : List TierCandidate :=
  (StableSort.sortBy pricingKey pricing).map fun candidate =>
    let selected := chosen.any fun chosen => candidate.deployment = chosen.deployment
    { tier := candidate.tier
      deployment := candidate.deployment
      projectedCostUsd := candidate.costPerRequestUsd
      vendor := candidate.vendor
      selected
      rejectedReason :=
        if selected then none else some (rejection chosen ceiling indicated candidate) }

def denied (complexityScore : Double) (ceiling : Decimal) (pricing : List TierPricing)
    (rationale : Text) : RoutingDecision where
  complexityScore := complexityScore
  costCeilingUsd := ceiling
  outcome := .denied
  selectedTier := none
  selectedDeployment := none
  selectedVendor := none
  candidateTiers := buildCandidates pricing none ceiling none
  rationale := rationale

/-- The decision for an entry that is chosen. -/
def routed (complexityScore : Double) (costCeilingUsd : Decimal) (pricing : List TierPricing)
    (chosen : TierPricing) (indicated : ModelTier) : RoutingDecision where
  complexityScore := complexityScore
  costCeilingUsd := costCeilingUsd
  outcome := if chosen.tier.value < indicated.value then .downgraded else .routed
  selectedTier := some chosen.tier
  selectedDeployment := some chosen.deployment
  selectedVendor := some chosen.vendor
  candidateTiers := buildCandidates pricing (some chosen) costCeilingUsd (some indicated)
  rationale :=
    if chosen.tier.value < indicated.value then
      lit "Complexity " ++ complexityScore.placesText 2 ++ lit " indicated " ++ indicated.text ++
        lit ", but its projected cost exceeds the " ++ costText costCeilingUsd ++
        lit " USD ceiling. Downgraded to " ++ chosen.tier.text ++ lit " (" ++ chosen.deployment ++
        lit ") at " ++ costText chosen.costPerRequestUsd ++ lit " USD."
    else
      lit "Complexity " ++ complexityScore.placesText 2 ++ lit " indicated " ++ chosen.tier.text ++
        lit ", served by " ++ chosen.deployment ++ lit " at " ++ costText chosen.costPerRequestUsd ++
        lit " USD within the " ++ costText costCeilingUsd ++ lit " USD ceiling."

/-- `Select`. `none` is the exception for an empty list of prices. -/
def select (complexityScore : Double) (costCeilingUsd : Decimal) (pricing : List TierPricing) :
    Option RoutingDecision :=
  if pricing = [] then none
  else
    let indicated := ComplexityScorer.indicatedTier complexityScore
    let available := pricing.filter (·.available)
    -- the cheapest, and of several the first
    match (StableSort.sortBy (·.costPerRequestUsd.value) available).head? with
    | none =>
      some <| denied complexityScore costCeilingUsd pricing <|
        lit "No model tier is currently available. The router does not fall back to an unrouted " ++
          lit "direct call."
    | some cheapest =>
      let affordable :=
        available.filter fun entry => entry.costPerRequestUsd.value ≤ costCeilingUsd.value
      match choose affordable indicated with
      | none =>
        some <| denied complexityScore costCeilingUsd pricing <|
          lit "Cheapest available model " ++ cheapest.deployment ++ lit " projects " ++
            costText cheapest.costPerRequestUsd ++ lit " USD against a ceiling of " ++
            costText costCeilingUsd ++ lit " USD."
      | some chosen => some (routed complexityScore costCeilingUsd pricing chosen indicated)

theorem mem_of_mem_sortBy_head {κ : Type} [LinearOrder κ] {key : TierPricing → κ}
    {entries : List TierPricing} {entry : TierPricing}
    (h : (StableSort.sortBy key entries).head? = some entry) : entry ∈ entries :=
  (StableSort.sortBy_perm entries).mem_iff.mp (List.mem_of_mem_head? h)

theorem choose_mem {affordable : List TierPricing} {indicated : ModelTier} {chosen : TierPricing}
    (h : choose affordable indicated = some chosen) : chosen ∈ affordable := by
  unfold choose at h
  rcases Option.or_eq_some_iff.mp h with hpreferred | ⟨_, hlast⟩
  · rcases Option.or_eq_some_iff.mp hpreferred with hat | ⟨_, hbelow⟩
    · exact (List.mem_filter.mp (mem_of_mem_sortBy_head hat)).1
    · exact (List.mem_filter.mp (mem_of_mem_sortBy_head hbelow)).1
  · exact mem_of_mem_sortBy_head hlast

theorem sortBy_head_eq_none {κ : Type} [LinearOrder κ] {key : TierPricing → κ}
    {entries : List TierPricing} :
    (StableSort.sortBy key entries).head? = none ↔ entries = [] := by
  rw [List.head?_eq_none_iff]
  constructor
  · intro h
    exact (h ▸ StableSort.sortBy_perm entries).nil_eq.symm
  · rintro rfl
    rfl

theorem choose_eq_none {affordable : List TierPricing} {indicated : ModelTier} :
    choose affordable indicated = none ↔ affordable = [] := by
  constructor
  · intro h
    exact sortBy_head_eq_none.mp (Option.or_eq_none_iff.mp h).2
  · rintro rfl
    rfl

/-- An available entry within the ceiling. -/
structure Reachable (ceiling : Decimal) (entry : TierPricing) : Prop where
  available : entry.available = true
  affordable : entry.costPerRequestUsd.value ≤ ceiling.value

theorem mem_affordable {pricing : List TierPricing} {ceiling : Decimal} {entry : TierPricing} :
    entry ∈ (pricing.filter (·.available)).filter
        (fun entry => entry.costPerRequestUsd.value ≤ ceiling.value) ↔
      entry ∈ pricing ∧ Reachable ceiling entry := by
  simp only [List.mem_filter, decide_eq_true_eq]
  exact ⟨fun h => ⟨h.1.1, h.1.2, h.2⟩, fun h => ⟨⟨h.1, h.2.available⟩, h.2.affordable⟩⟩

end TierSelector

end Fcmr.RouterDecisions
