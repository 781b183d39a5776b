import Fcmr.RouterDecisions.PolicyVersions
import Fcmr.RouterDecisions.Soundness
import Fcmr.RouterService.RecordedRuns

/-! What can be said of a recorded decision long after: the policy set it names is found by its
version, the decision can be made again, and what it selects was permitted. At the end, the
service as it is shipped. -/
namespace Fcmr.RouterService

open DotNet RouterDecisions RouterDecisions.InMemoryPolicySetRepository ServiceDefaults
open ApprovalsService Programs

structure Rederived (record : RoutingDecisionRecord) (region : Option Text)
    (models : List TierPricing) (set : PolicySet) : Prop where
  policySetId : record.decision.policySetId = some set.id
  policySetVersion : record.decision.policySetVersion = some set.version
  score : record.decision.complexityScore = ComplexityScorer.score record.complexityInputs
  replayed : (record.decision.replayed record.complexityInputs region).bind
    (RoutingPlanner.plan · models set) = some record.decision

/-- Among the sets that the seeds and the history show under a key that was asked for, the pinned
version names the one that gives the decision again, on a catalog of the run and in the region
that was requested. -/
structure Reconstructed (seed : List PolicySet) (policySets : InMemoryPolicySetRepository)
    (arrivals : List Arrival) (turns : List Turn) (record : RoutingDecisionRecord) (k : Text)
    (models : List TierPricing) (set : PolicySet) : Prop where
  asked : ∃ turn ∈ turns,
    k = key turn.2.options.policy.businessUnit turn.2.options.policy.setId
  configured : ∃ turn ∈ turns, ConfiguredModelCatalog.current turn.2.options.catalog = models
  held : set ∈ held seed policySets k
  rederived : ∃ arrival ∈ arrivals, Rederived record arrival.request.executionRegion models set
  unique : ((policySets.history.lookup k).getD []).length < 2 ^ 32 →
    ∀ other ∈ InMemoryPolicySetRepository.held seed policySets k,
      record.decision.policySetVersion = some other.version → other = set

variable {arrivals : List Arrival} {policySets : InMemoryPolicySetRepository}
  {isDevelopment : Bool} {turns : List Turn} {record : RoutingDecisionRecord}

theorem origin_of_mem
    (h : record ∈ ((serving arrivals policySets isDevelopment).run serve
      turns).state.decisions.ordered) : ∃ arrival ∈ arrivals, ∃ models policy,
      Origin (serving arrivals policySets isDevelopment) turns arrival.request record models
        policy := by
  have hevidenced := evidenced arrivals policySets isDevelopment turns
  rw [hevidenced.stored] at h
  obtain ⟨⟨i, _⟩, hwrite, rfl⟩ := List.mem_map.mp h
  obtain ⟨arrival, _, models, policy, harrival, _, _, _, horigin, _⟩ :=
    hevidenced.answered i _ hwrite
  exact ⟨arrival, List.mem_of_getElem? harrival, models, policy, horigin⟩

theorem routable_region {request : InboundRouteRequest} {routed : RouteRequestHandler.Routable}
    (h : RouteRequestHandler.routable request = some routed) :
    routed.request.executionRegion = request.executionRegion := by
  simp only [RouteRequestHandler.routable, Option.bind_eq_bind, Option.bind_eq_some_iff] at h
  obtain ⟨_, _, _, _, _, _, _, _, _, _, hrouted⟩ := h
  exact Option.some.inj hrouted ▸ rfl

theorem Origin.rederived {pool : Serving} {request : InboundRouteRequest}
    {models : List TierPricing} {policy : PolicySet}
    (h : Origin pool turns request record models policy) :
    Rederived record request.executionRegion models policy := by
  obtain ⟨routed, hrouted, hhints, hplan⟩ := h.planned
  have hrecorded := RoutingPlanner.plan_recorded hplan
  refine ⟨hrecorded.policySetId, hrecorded.policySetVersion, ?_, ?_⟩
  · rw [hrecorded.score, hhints]
  · rw [← hhints, ← routable_region hrouted]
    exact plan_replayed hplan

/-- In any run, with whatever edits of policy sets and whatever configuration, a recorded
decision stays open to reconstruction: policy sets are added to and never replaced. -/
theorem reconstructed {seed : List PolicySet} (hcreate : create seed = .ok policySets)
    (arrivals : List Arrival) (isDevelopment : Bool) (turns : List Turn) :
    ∀ record ∈ ((serving arrivals policySets isDevelopment).run serve
        turns).state.decisions.ordered,
      ∃ k models set, Reconstructed seed ((serving arrivals policySets isDevelopment).run serve
        turns).state.policySets arrivals turns record k models set := by
  intro record hrecord
  have hcreated := created_of_create hcreate
  obtain ⟨arrival, harrival, models, policy, horigin⟩ := origin_of_mem hrecord
  obtain ⟨turn, hturn, moment, ⟨later, hlater⟩, hinForce⟩ := horigin.inForce
  obtain ⟨before, hbefore⟩ := policySets_run (serving arrivals policySets isDevelopment) moment
  obtain ⟨after, hafter⟩ := policySets_run
    ((serving arrivals policySets isDevelopment).run serve moment) later
  rw [← Pool.run_append, hlater, hbefore] at hafter
  have hend : ((serving arrivals policySets isDevelopment).run serve turns).state.policySets =
      policySets.run (before ++ after) := hafter.trans List.foldl_append.symm
  have hheld : policy ∈ InMemoryPolicySetRepository.held seed (policySets.run before)
      (key turn.2.options.policy.businessUnit turn.2.options.policy.setId) := by
    rw [hbefore] at hinForce
    exact hcreated.lookup_mem_held hinForce
  have hpinned := horigin.rederived.policySetVersion
  refine ⟨key turn.2.options.policy.businessUnit turn.2.options.policy.setId, models, policy,
    ⟨turn, hturn, rfl⟩, horigin.configured, ?_, ⟨arrival, harrival, horigin.rederived⟩,
    fun hlength other hother hversion => ?_⟩
  · rw [hafter]
    exact held_grows seed _ after hheld
  · rw [hend] at hlength hother
    refine hcreated.version_inj (before ++ after) hlength hother ?_
      (Option.some.inj (hversion.symm.trans hpinned))
    rw [← hend, hafter]
    exact held_grows seed _ after hheld

/-- A recorded selection was permitted by a policy set in force while its request was served. -/
theorem recorded_sound (arrivals : List Arrival) (policySets : InMemoryPolicySetRepository)
    (isDevelopment : Bool) (turns : List Turn) :
    ∀ record ∈ ((serving arrivals policySets isDevelopment).run serve
        turns).state.decisions.ordered,
      ∃ arrival ∈ arrivals, ∃ models policy routed,
        Origin (serving arrivals policySets isDevelopment) turns arrival.request record models
          policy ∧ RouteRequestHandler.routable arrival.request = some routed ∧
        Sound routed.request models policy record.decision := by
  intro record hrecord
  obtain ⟨arrival, harrival, models, policy, horigin⟩ := origin_of_mem hrecord
  obtain ⟨routed, hrouted, _, hplan⟩ := horigin.planned
  obtain ⟨decision, hdecision, hplanned⟩ := RoutingPlanner.plan_planned routed.request
    (RoutingPlanner.catalog_ne_nil_of_plan hplan) policy
  cases hplan.symm.trans hdecision
  exact ⟨arrival, harrival, models, policy, routed, horigin, hrouted, sound_of_planned hplanned⟩

/-- The governance baseline, when no policy set has been written yet. -/
def DefaultPolicySet.from (options : RouterPolicyOptions) : PolicySet where
  id := options.setId
  businessUnit := options.businessUnit
  displayName := options.setId
  approvedVendors := {.azureOpenAI}
  maxClassification := AList.singleton .azureOpenAI .confidential
  maxCostPerRequestUsd := .literal 10 1
  permitsRestrictedData := false

theorem defaultPolicySet_valid (options : RouterPolicyOptions) :
    PolicySetValidator.validate (DefaultPolicySet.from options) = none := by
  rw [PolicySetValidator.validate_eq_none]
  refine ⟨fun vendor => ?_, nofun⟩
  have hlimits : ∀ vendor : ModelVendor, vendor ∈ ({.azureOpenAI} : Finset ModelVendor) ↔
      vendor ∈ AList.singleton (β := fun _ => DataClassification) ModelVendor.azureOpenAI
        .confidential := by
    intro vendor
    cases vendor <;> decide
  exact hlimits vendor

/-- What a decision can say as long as the baseline governs. -/
structure Baseline (options : RouterPolicyOptions) (decision : RoutingDecision) : Prop where
  set : decision.policySetId = some options.setId ∧ decision.policySetVersion = some 1
  selected : ∀ vendor, decision.selectedVendor = some vendor →
    vendor = .azureOpenAI ∧ decision.dataClassification ≠ some .restricted
  candidates : decision.outcome ≠ .refusedByPolicy → ∀ candidate ∈ decision.candidateTiers,
    candidate.vendor = .azureOpenAI ∧ candidate.projectedCostUsd.value ≤ 1
  restricted : decision.dataClassification = some .restricted → decision.outcome = .refusedByPolicy

section

variable {request : RoutingRequest} {models : List TierPricing} {options : RouterPolicyOptions}
  {decision : RoutingDecision} {entry : TierPricing}

theorem eligible_default
    (h : entry ∈ (RoutingPlanner.evaluation request models
      (DefaultPolicySet.from options)).eligible) :
    entry.vendor = .azureOpenAI ∧ request.dataClassification ≠ .restricted ∧
      entry.costPerRequestUsd.value ≤ 1 := by
  obtain ⟨_, hpermitted⟩ := PolicyGate.mem_eligible.mp h
  have hvendor : entry.vendor = .azureOpenAI := Finset.mem_singleton.mp hpermitted.approved
  refine ⟨hvendor, ?_, ?_⟩
  · intro hrestricted
    obtain ⟨limit, hlimit, hle⟩ := hpermitted.classified
    rw [hvendor] at hlimit
    cases hlimit.symm.trans (show _ = some DataClassification.confidential from rfl)
    rw [hrestricted] at hle
    exact absurd hle (by decide)
  · have hone : (Decimal.literal 10 1).value = 1 := by decide +kernel
    exact hone ▸ hpermitted.affordable

theorem mem_candidateTiers {chosen : Option TierPricing} {ceiling : Decimal}
    {indicated : Option ModelTier} {candidate : TierCandidate} {pricing : List TierPricing}
    (h : candidate ∈ TierSelector.buildCandidates pricing chosen ceiling indicated) :
    ∃ entry ∈ pricing, candidate.vendor = entry.vendor ∧
      candidate.projectedCostUsd = entry.costPerRequestUsd := by
  obtain ⟨entry, hentry, rfl⟩ := List.mem_map.mp h
  exact ⟨entry, (StableSort.sortBy_perm _).mem_iff.mp hentry, rfl, rfl⟩

theorem baseline_of_plan
    (h : RoutingPlanner.plan request models (DefaultPolicySet.from options) = some decision) :
    Baseline options decision := by
  have hrecorded := RoutingPlanner.plan_recorded h
  obtain ⟨planned, hdecision, hplanned⟩ := RoutingPlanner.plan_planned request
    (RoutingPlanner.catalog_ne_nil_of_plan h) (DefaultPolicySet.from options)
  cases h.symm.trans hdecision
  have hclassification := hrecorded.classification
  refine ⟨⟨hrecorded.policySetId, hrecorded.policySetVersion⟩, ?_, ?_, fun hrestricted => ?_⟩
  · intro vendor hvendor
    cases hplanned with
    | refused => cases hvendor
    | denied => cases hvendor
    | @chosen entry hmem _ =>
      obtain ⟨hazure, hopen, _⟩ := eligible_default hmem
      refine ⟨(Option.some.inj hvendor).symm.trans hazure, fun hrestricted => hopen ?_⟩
      exact Option.some.inj (hclassification.symm.trans hrestricted)
  · intro houtcome candidate hcandidate
    have heligible : ∃ entry ∈ (RoutingPlanner.evaluation request models
        (DefaultPolicySet.from options)).eligible, candidate.vendor = entry.vendor ∧
          candidate.projectedCostUsd = entry.costPerRequestUsd := by
      cases hplanned with
      | refused => exact absurd rfl houtcome
      | denied => exact mem_candidateTiers hcandidate
      | chosen => exact mem_candidateTiers hcandidate
    obtain ⟨entry, hentry, hvendor, hcost⟩ := heligible
    obtain ⟨hazure, _, hle⟩ := eligible_default hentry
    exact ⟨hvendor.trans hazure, hcost ▸ hle⟩
  · have hnone : (RoutingPlanner.evaluation request models
        (DefaultPolicySet.from options)).eligible = [] := by
      refine List.eq_nil_iff_forall_not_mem.mpr fun entry hentry => ?_
      exact (eligible_default hentry).2.1
        (Option.some.inj (hclassification.symm.trans hrestricted))
    exact (sound_of_planned hplanned).refused.mpr hnone

end

/-- The service as it is composed: nobody edits the baseline, and whatever arrives, no record
selects another vendor, or a model for restricted data or above the ceiling. -/
theorem shipped_baseline (options : RouterPolicyOptions) :
    ∃ policySets, create [DefaultPolicySet.from options] = .ok policySets ∧
      ∀ (arrivals : List Arrival) (isDevelopment : Bool) (turns : List Turn),
        (∀ turn ∈ turns, turn.2.updates = []) →
        ∀ record ∈ ((serving arrivals policySets isDevelopment).run serve
          turns).state.decisions.ordered, Baseline options record.decision := by
  obtain ⟨policySets, hcreate⟩ := create_of_valid
    (List.forall_mem_singleton.mpr (defaultPolicySet_valid options))
  refine ⟨policySets, hcreate, fun arrivals isDevelopment turns hunedited record hrecord => ?_⟩
  obtain ⟨arrival, _, models, policy, horigin⟩ := origin_of_mem hrecord
  obtain ⟨turn, _, moment, hmoment, hinForce⟩ := horigin.inForce
  rw [policySets_unedited _ fun turn hturn => hunedited turn (hmoment.subset hturn)] at hinForce
  have hseeded : [DefaultPolicySet.from options].reverse.find? (fun set =>
      key set.businessUnit set.id = key turn.2.options.policy.businessUnit
        turn.2.options.policy.setId) = some policy :=
    ((created_of_create hcreate).sets _).symm.trans hinForce
  have hpolicy : policy = DefaultPolicySet.from options :=
    List.mem_singleton.mp (List.mem_reverse.mp (List.mem_of_find?_eq_some hseeded))
  obtain ⟨routed, _, _, hplan⟩ := horigin.planned
  rw [hpolicy] at hplan
  exact baseline_of_plan hplan

namespace Samples

def asked : Arrival where
  user := none
  request := {
    correlationId := none
    lane := some .research
    taskKind := some (lit "summary")
    payload := some (.object [])
    costCeilingUsd := some (.literal 5 1)
    latencyBudgetMs := none
    dataClassification := some .internal
    complexityHints := some ⟨500⟩
    executionRegion := none
    requiresMultiStep := false
    requiresRetrieval := false
    requiresToolCalls := false }
  correlation := .establish (lit "corr-1") .header

def configured : RouterOptions where
  catalog := [{ deployment := lit "gpt-mini", costPerRequestUsd := .literal 4 3 }]
  authorization := { enabled := some false }

def nineCalls : List Turn := List.replicate 9 (0, ⟨configured, 0, 0, lit "guid-1", []⟩)

theorem asked_recorded : ∃ policySets record, create [DefaultPolicySet.from {}] = .ok policySets ∧
    record ∈ ((serving [asked] policySets true).run serve nineCalls).state.decisions.ordered := by
  have hlength : (create [DefaultPolicySet.from {}]).toOption.map (fun policySets =>
      ((serving [asked] policySets true).run serve nineCalls).state.decisions.ordered.length) =
        some 1 := by decide +kernel
  obtain ⟨policySets, hcreate⟩ := create_of_valid
    (List.forall_mem_singleton.mpr (defaultPolicySet_valid {}))
  rw [hcreate] at hlength
  obtain ⟨record, hrecord⟩ := List.length_eq_one_iff.mp (Option.some.inj hlength)
  exact ⟨policySets, record, hcreate, hrecord ▸ List.mem_singleton_self record⟩

def lowered : PolicySetCall :=
  ({ id := lit "CapitalMarkets-US", businessUnit := lit "CapitalMarkets", expectedVersion := 1,
     updatedBy := lit "carol", maxCostPerRequestUsd := some (.literal 1 3) }, 10)

def editedCalls : List Turn :=
  List.replicate 8 (0, ⟨configured, 0, 0, lit "guid-1", []⟩) ++
    [(0, ⟨configured, 0, 0, lit "guid-1", [lowered]⟩)]

theorem asked_edited : ∃ policySets record current, create [DefaultPolicySet.from {}] = .ok policySets ∧
    record ∈ ((serving [asked] policySets true).run serve editedCalls).state.decisions.ordered ∧
    ((serving [asked] policySets true).run serve editedCalls).state.policySets.getAsync
      (lit "CapitalMarkets") (lit "CapitalMarkets-US") = some current ∧
    record.decision.policySetVersion = some 1 ∧ current.version = 2 := by
  have hrecorded : (create [DefaultPolicySet.from {}]).toOption.map (fun policySets =>
      ((serving [asked] policySets true).run serve editedCalls).state.decisions.ordered.map
        (·.decision.policySetVersion)) = some [some 1] := by decide +kernel
  have hcurrent : (create [DefaultPolicySet.from {}]).toOption.map (fun policySets =>
      (((serving [asked] policySets true).run serve editedCalls).state.policySets.getAsync
        (lit "CapitalMarkets") (lit "CapitalMarkets-US")).map (·.version)) = some (some 2) := by
    decide +kernel
  obtain ⟨policySets, hcreate⟩ := create_of_valid
    (List.forall_mem_singleton.mpr (defaultPolicySet_valid {}))
  rw [hcreate] at hrecorded hcurrent
  obtain ⟨record, hrecord, hversion⟩ := List.map_eq_singleton_iff.mp (Option.some.inj hrecorded)
  obtain ⟨current, hget, hnext⟩ := Option.map_eq_some_iff.mp (Option.some.inj hcurrent)
  exact ⟨policySets, record, current, hcreate, hrecord ▸ List.mem_singleton_self record, hget,
    hversion, hnext⟩

theorem asked_reconstructed : ∃ policySets record current,
    create [DefaultPolicySet.from {}] = .ok policySets ∧ current.version = 2 ∧
      let final := ((serving [asked] policySets true).run serve editedCalls).state
      final.policySets.getAsync (lit "CapitalMarkets") (lit "CapitalMarkets-US") = some current ∧
      ∃ k models set, set.version = 1 ∧ Reconstructed [DefaultPolicySet.from {}] final.policySets
        [asked] editedCalls record k models set := by
  obtain ⟨policySets, record, current, hcreate, hmem, hget, hversion, hnext⟩ := asked_edited
  obtain ⟨k, models, set, h⟩ := reconstructed hcreate [asked] true editedCalls record hmem
  obtain ⟨_, _, hrederived⟩ := h.rederived
  exact ⟨policySets, record, current, hcreate, hnext, hget, k, models, set,
    Option.some.inj (hrederived.policySetVersion.symm.trans hversion), h⟩

theorem asked_sound : ∃ policySets record routed models policy,
    create [DefaultPolicySet.from {}] = .ok policySets ∧
      record ∈ ((serving [asked] policySets true).run serve nineCalls).state.decisions.ordered ∧
      RouteRequestHandler.routable asked.request = some routed ∧
      Sound routed.request models policy record.decision := by
  obtain ⟨policySets, record, hcreate, hmem⟩ := asked_recorded
  obtain ⟨arrival, harrival, models, policy, routed, _, hrouted, hsound⟩ :=
    recorded_sound [asked] policySets true nineCalls record hmem
  cases List.mem_singleton.mp harrival
  exact ⟨policySets, record, routed, models, policy, hcreate, hmem, hrouted, hsound⟩

theorem asked_baseline : ∃ policySets record,
    create [DefaultPolicySet.from {}] = .ok policySets ∧
      record ∈ ((serving [asked] policySets true).run serve nineCalls).state.decisions.ordered ∧
      Baseline {} record.decision := by
  obtain ⟨policySets, record, hcreate, hmem⟩ := asked_recorded
  obtain ⟨others, hothers, hbaseline⟩ := shipped_baseline {}
  cases hcreate.symm.trans hothers
  refine ⟨policySets, record, hcreate, hmem, hbaseline [asked] true nineCalls ?_ record hmem⟩
  exact fun turn hturn => congrArg (·.2.updates) (List.eq_of_mem_replicate hturn)

end Samples

end Fcmr.RouterService
