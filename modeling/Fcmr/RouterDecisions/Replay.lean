import Fcmr.RouterDecisions.Preference

/-! A decision made again from what is recorded of it: the hints, the ceiling and the
classification. The region is recorded only in the reasons of a refusal, and matters only there. -/
namespace Fcmr.RouterDecisions

open DotNet RoutingPlanner

def RoutingDecision.regionRefused (decision : RoutingDecision) : Bool :=
  decision.policyExclusions.any fun exclusion => exclusion.kind = .regionNotPermitted

def RoutingDecision.replayed (decision : RoutingDecision) (hints : ComplexityHints)
    (region : Option Text) : Option RoutingRequest :=
  decision.dataClassification.map fun dataClassification => {
    hints
    costCeilingUsd := decision.costCeilingUsd
    dataClassification
    executionRegion := if decision.regionRefused then region else none }

namespace RoutingPlanner

variable {request replayed : RoutingRequest} {catalog : List TierPricing} {policy : PolicySet}
  {decision : RoutingDecision}

theorem exclusion_kind {classification : DataClassification} {candidate : TierPricing}
    {exclusion : PolicyExclusion}
    (h : PolicyGate.exclusion policy classification candidate = some exclusion) :
    exclusion.kind ≠ .regionNotPermitted := by
  unfold PolicyGate.exclusion at h
  split at h
  · cases h
    exact nofun
  split at h
  · cases h
    exact nofun
  split at h
  · cases h
    exact nofun
  · cases h

theorem regionRefused_iff (hcatalog : catalog ≠ [])
    (h : decision.policyExclusions = (evaluation request catalog policy).excluded) :
    decision.regionRefused = true ↔
      PolicyGate.regionPermitted policy request.executionRegion = false := by
  unfold RoutingDecision.regionRefused evaluation PolicyGate.evaluate at *
  rw [h, List.any_eq_true]
  split
  · rename_i hrefused
    obtain ⟨first, rest, rfl⟩ := List.exists_cons_of_ne_nil hcatalog
    exact iff_of_true ⟨_, List.mem_cons_self, decide_eq_true rfl⟩ hrefused
  · rename_i hpermitted
    refine iff_of_false ?_ hpermitted
    rintro ⟨exclusion, hmem, hkind⟩
    obtain ⟨candidate, _, hexclusion⟩ := List.mem_filterMap.mp hmem
    exact exclusion_kind hexclusion (of_decide_eq_true hkind)

/-- What every decision records of its request. -/
structure Recorded (request : RoutingRequest) (catalog : List TierPricing) (policy : PolicySet)
    (decision : RoutingDecision) : Prop where
  score : decision.complexityScore = ComplexityScorer.score request.hints
  ceiling : decision.costCeilingUsd =
    if (evaluation request catalog policy).eligible = [] then request.costCeilingUsd
    else effectiveCeiling request policy
  classification : decision.dataClassification = some request.dataClassification
  policySetId : decision.policySetId = some policy.id
  policySetVersion : decision.policySetVersion = some policy.version
  exclusions : decision.policyExclusions = (evaluation request catalog policy).excluded

theorem evaluation_policy (request : RoutingRequest) (catalog : List TierPricing)
    (policy : PolicySet) : (evaluation request catalog policy).policySetId = policy.id ∧
      (evaluation request catalog policy).policySetVersion = policy.version := by
  unfold evaluation PolicyGate.evaluate
  split <;> exact ⟨rfl, rfl⟩

theorem catalog_ne_nil_of_plan (h : plan request catalog policy = some decision) :
    catalog ≠ [] := by
  rintro rfl
  cases h

theorem plan_recorded (h : plan request catalog policy = some decision) :
    Recorded request catalog policy decision := by
  obtain ⟨hid, hversion⟩ := evaluation_policy request catalog policy
  rcases plan_chosen request (catalog_ne_nil_of_plan h) policy with
    ⟨heligible, _, hplan⟩ | ⟨heligible, _, rationale, hplan⟩ | ⟨entry, hchosen, hplan⟩
  · cases h.symm.trans hplan
    exact ⟨rfl, by rw [if_pos heligible]; rfl, rfl, congrArg some hid, congrArg some hversion, rfl⟩
  · cases h.symm.trans hplan
    exact ⟨rfl, by rw [if_neg heligible]; rfl, rfl, congrArg some hid, congrArg some hversion, rfl⟩
  · cases h.symm.trans hplan
    have heligible : (evaluation request catalog policy).eligible ≠ [] :=
      List.ne_nil_of_mem (chosen_mem hchosen).1
    exact ⟨rfl, by rw [if_neg heligible]; rfl, rfl, congrArg some hid, congrArg some hversion, rfl⟩

structure Alike (request replayed : RoutingRequest) (catalog : List TierPricing)
    (policy : PolicySet) : Prop where
  hints : replayed.hints = request.hints
  classification : replayed.dataClassification = request.dataClassification
  judged : evaluation replayed catalog policy = evaluation request catalog policy
  asked : (evaluation request catalog policy).eligible = [] →
    replayed.costCeilingUsd = request.costCeilingUsd
  enforced : (evaluation request catalog policy).eligible ≠ [] →
    effectiveCeiling replayed policy = effectiveCeiling request policy

theorem Alike.plan_eq (h : Alike request replayed catalog policy) :
    plan replayed catalog policy = plan request catalog policy := by
  unfold plan
  dsimp only
  rw [h.judged, h.hints]
  by_cases heligible : (evaluation request catalog policy).eligible = []
  · have hnone : (evaluation request catalog policy).noEligibleModels = true := by
      rw [PolicyEvaluation.noEligibleModels, heligible]
      rfl
    rw [if_pos hnone, if_pos hnone]
    unfold refused refusalRationale
    rw [h.asked heligible, h.classification]
  · have hsome : (evaluation request catalog policy).noEligibleModels ≠ true := by
      rw [PolicyEvaluation.noEligibleModels, Ne, List.isEmpty_iff]
      exact heligible
    rw [if_neg hsome, if_neg hsome, h.enforced heligible]
    unfold governed
    rw [h.classification]

theorem min_min (left right : Decimal) : (left.min right).min right = left.min right := by
  unfold Decimal.min
  by_cases hlt : left.value < right.value
  · rw [if_pos hlt, if_pos hlt]
  · rw [if_neg hlt, if_neg (lt_irrefl _)]

theorem evaluation_region (hhints : replayed.dataClassification = request.dataClassification)
    (hregion : replayed.executionRegion = request.executionRegion ∨
      PolicyGate.regionPermitted policy request.executionRegion = true ∧
        replayed.executionRegion = none) :
    evaluation replayed catalog policy = evaluation request catalog policy := by
  unfold evaluation
  rw [hhints]
  rcases hregion with hsame | ⟨hpermitted, hnone⟩
  · rw [hsame]
  · unfold PolicyGate.evaluate
    rw [hnone, hpermitted, if_neg Bool.true_eq_false.mp]
    exact if_neg Bool.true_eq_false.mp

end RoutingPlanner

open RoutingPlanner

/-- Planning again what a decision records gives the decision, whatever was recorded: the
enforced ceiling stands for the one that was asked for, and no region for any that was
permitted. -/
theorem plan_replayed {request : RoutingRequest} {catalog : List TierPricing} {policy : PolicySet}
    {decision : RoutingDecision} (h : plan request catalog policy = some decision) :
    (decision.replayed request.hints request.executionRegion).bind (plan · catalog policy) =
      some decision := by
  have hrecorded := plan_recorded h
  have hregion := regionRefused_iff (catalog_ne_nil_of_plan h) hrecorded.exclusions
  unfold RoutingDecision.replayed
  rw [hrecorded.classification, Option.map_some, Option.bind_some]
  refine Eq.trans (Alike.plan_eq ?_) h
  refine ⟨rfl, rfl, evaluation_region rfl ?_, fun heligible => ?_, fun heligible => ?_⟩
  · dsimp only
    by_cases hrefused : decision.regionRefused = true
    · exact .inl (if_pos hrefused)
    · refine .inr ⟨?_, if_neg hrefused⟩
      exact Bool.eq_true_of_not_eq_false fun hnot => hrefused (hregion.mpr hnot)
  · exact hrecorded.ceiling.trans (if_pos heligible)
  · unfold effectiveCeiling
    dsimp only
    rw [hrecorded.ceiling, if_neg heligible, effectiveCeiling, min_min]

end Fcmr.RouterDecisions
