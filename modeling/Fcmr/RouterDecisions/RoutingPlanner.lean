import Fcmr.RouterDecisions.PolicyGate
import Fcmr.RouterDecisions.TierSelector

/-! The entry point for routing: governance first, then price and complexity among what
governance permits. -/
namespace Fcmr.RouterDecisions

open DotNet

structure RoutingRequest where
  hints : ComplexityHints
  costCeilingUsd : Decimal
  dataClassification : DataClassification
  executionRegion : Option Text

namespace RoutingPlanner

def refusalRationale (request : RoutingRequest) (evaluation : PolicyEvaluation) : Text :=
  let vendors := StableSort.sortBy ModelVendor.text (evaluation.excluded.map (·.vendor)).dedup
  let allCostDriven := !evaluation.excluded.isEmpty &&
    evaluation.excluded.all fun exclusion => exclusion.kind = .policyCostCeiling
  let cause :=
    if allCostDriven then
      lit "every candidate exceeded the policy cost ceiling, so this is a cost outcome rather than " ++
        lit "a governance one"
    else
      lit "they were excluded on governance grounds for " ++ request.dataClassification.text ++
        lit " data"
  lit "Policy set '" ++ evaluation.policySetId ++ lit "' version " ++
    intText evaluation.policySetVersion.toInt ++ lit " left no eligible model. All " ++
    natText evaluation.excluded.length ++ lit " candidate(s) across " ++ natText vendors.length ++
    lit " vendor(s) (" ++ join (lit ", ") (vendors.map (·.text)) ++ lit ") were ruled out: " ++
    cause ++ lit ". The request was refused, not downgraded."

def refused (score : Double) (request : RoutingRequest) (evaluation : PolicyEvaluation)
    (catalog : List TierPricing) : RoutingDecision where
  complexityScore := score
  costCeilingUsd := request.costCeilingUsd
  outcome := .refusedByPolicy
  selectedTier := none
  selectedDeployment := none
  selectedVendor := none
  candidateTiers := (StableSort.sortBy pricingKey catalog).map fun entry => {
    tier := entry.tier
    deployment := entry.deployment
    projectedCostUsd := entry.costPerRequestUsd
    vendor := entry.vendor
    selected := false
    rejectedReason := some <|
      match evaluation.excluded.find? fun exclusion => exclusion.deployment = entry.deployment with
      | some exclusion => exclusion.reason
      | none => lit "Excluded by governance policy." }
  rationale := refusalRationale request evaluation
  policySetId := some evaluation.policySetId
  policySetVersion := some evaluation.policySetVersion
  dataClassification := some request.dataClassification
  policyExclusions := evaluation.excluded

def evaluation (request : RoutingRequest) (catalog : List TierPricing) (policy : PolicySet) :
    PolicyEvaluation :=
  PolicyGate.evaluate catalog policy request.dataClassification request.executionRegion

def effectiveCeiling (request : RoutingRequest) (policy : PolicySet) : Decimal :=
  request.costCeilingUsd.min policy.maxCostPerRequestUsd

def governed (decision : RoutingDecision) (request : RoutingRequest)
    (evaluation : PolicyEvaluation) : RoutingDecision :=
  { decision with
    policySetId := some evaluation.policySetId
    policySetVersion := some evaluation.policySetVersion
    dataClassification := some request.dataClassification
    policyExclusions := evaluation.excluded }

theorem governed_outcome {complexityScore : Double} {ceiling : Decimal}
    {pricing : List TierPricing} {chosen : TierPricing} {indicated : ModelTier}
    {request : RoutingRequest} {evaluation : PolicyEvaluation} :
    (governed (TierSelector.routed complexityScore ceiling pricing chosen indicated) request
        evaluation).outcome = .routed ∨
      (governed (TierSelector.routed complexityScore ceiling pricing chosen indicated) request
        evaluation).outcome = .downgraded := by
  unfold governed TierSelector.routed
  dsimp only
  split
  · exact .inr rfl
  · exact .inl rfl

theorem governed_outcome_ne {complexityScore : Double} {ceiling : Decimal}
    {pricing : List TierPricing} {chosen : TierPricing} {indicated : ModelTier}
    {request : RoutingRequest} {evaluation : PolicyEvaluation} :
    (governed (TierSelector.routed complexityScore ceiling pricing chosen indicated) request
        evaluation).outcome ≠ .denied ∧
      (governed (TierSelector.routed complexityScore ceiling pricing chosen indicated) request
        evaluation).outcome ≠ .refusedByPolicy := by
  rcases governed_outcome with houtcome | houtcome <;> rw [houtcome] <;> exact ⟨nofun, nofun⟩

/-- `Plan`. `none` is the exception for an empty catalog. -/
def plan (request : RoutingRequest) (catalog : List TierPricing) (policy : PolicySet) :
    Option RoutingDecision :=
  if catalog = [] then none
  else
    let score := ComplexityScorer.score request.hints
    let evaluation := evaluation request catalog policy
    if evaluation.noEligibleModels then some (refused score request evaluation catalog)
    else
      (TierSelector.select score (effectiveCeiling request policy) evaluation.eligible).map
        (governed · request evaluation)

/-- Every entry of the catalog may be ruled out, out of reach, or chosen. -/
inductive Planned (request : RoutingRequest) (catalog : List TierPricing) (policy : PolicySet) :
    RoutingDecision → Prop
  | refused (h : (evaluation request catalog policy).eligible = []) :
      Planned request catalog policy (refused (ComplexityScorer.score request.hints) request
        (evaluation request catalog policy) catalog)
  | denied (eligible : (evaluation request catalog policy).eligible ≠ [])
      (unreachable : ∀ entry ∈ (evaluation request catalog policy).eligible,
        ¬TierSelector.Reachable (effectiveCeiling request policy) entry) (rationale : Text) :
      Planned request catalog policy (governed (TierSelector.denied
        (ComplexityScorer.score request.hints) (effectiveCeiling request policy)
        (evaluation request catalog policy).eligible rationale) request
        (evaluation request catalog policy))
  | chosen {entry : TierPricing} (mem : entry ∈ (evaluation request catalog policy).eligible)
      (reachable : TierSelector.Reachable (effectiveCeiling request policy) entry) :
      Planned request catalog policy (governed (TierSelector.routed
        (ComplexityScorer.score request.hints) (effectiveCeiling request policy)
        (evaluation request catalog policy).eligible entry
        (ComplexityScorer.indicatedTier (ComplexityScorer.score request.hints))) request
        (evaluation request catalog policy))

end RoutingPlanner

end Fcmr.RouterDecisions
