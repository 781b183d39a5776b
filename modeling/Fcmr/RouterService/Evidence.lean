import Fcmr.RouterDecisions.Replay
import Fcmr.RouterService.RouteRequestHandler
import Fcmr.ServiceDefaults.Adoption

/-! How far a route request has come, by the calls it has made: it has recorded nothing, or it has
recorded one decision and answered with it. -/
namespace Fcmr.RouterService

open DotNet RouterDecisions ServiceDefaults ApprovalsService Programs RouteRequestHandler

abbrev Calls := List (Call Op Op.Ret)

def Unsaved (calls : Calls) : Prop := ∀ call ∈ calls, call.op.saved = none

structure Derived (request : InboundRouteRequest) (calls : Calls) (models : List TierPricing)
    (options : RouterPolicyOptions) (policy : PolicySet) (record : RoutingDecisionRecord) :
    Prop where
  configured : ⟨.current, models⟩ ∈ calls
  selected : ⟨.currentValue, options⟩ ∈ calls
  governed : ⟨.getPolicySet options.businessUnit options.setId, some policy⟩ ∈ calls
  valid : RouteRequestValidator.validate request.toRouteRequest = []
  lane : request.lane = some record.lane
  taskKind : request.taskKind = some record.taskKind
  hints : request.complexityHints.map (hints request) = some record.complexityInputs
  decision : ∃ routed, routable request = some routed ∧
    routed.request.hints = record.complexityInputs ∧
    RoutingPlanner.plan routed.request models policy = some record.decision

structure Admitted (request : InboundRouteRequest) (accessor : CorrelationIdAccessor) : Prop where
  adopted : (accessor.tryAdoptFromBody request.correlationId).1 = true
  valid : RouteRequestValidator.validate request.toRouteRequest = []

inductive TurnedAway (request : InboundRouteRequest) (accessor : CorrelationIdAccessor)
    (user : Option ClaimsPrincipal) (calls : Calls) : RouteHttpResult → Prop
  | conflict (h : (accessor.tryAdoptFromBody request.correlationId).1 = false) :
      TurnedAway request accessor user calls (conflict accessor)
  | invalid (h : RouteRequestValidator.validate request.toRouteRequest ≠ []) :
      TurnedAway request accessor user calls
        (invalid (accessor.tryAdoptFromBody request.correlationId).2
          (RouteRequestValidator.validate request.toRouteRequest))
  | unconfigured (admitted : Admitted request accessor) (h : ⟨.current, []⟩ ∈ calls) :
      TurnedAway request accessor user calls
        (unconfigured (accessor.tryAdoptFromBody request.correlationId).2)
  | ungoverned (admitted : Admitted request accessor) (options : RouterPolicyOptions)
      (h : ⟨.getPolicySet options.businessUnit options.setId, none⟩ ∈ calls) :
      TurnedAway request accessor user calls
        (ungoverned (accessor.tryAdoptFromBody request.correlationId).2 options)
  | forbidden (requiredRole : Text) (enforced : ⟨.isEnforced, true⟩ ∈ calls)
      (required : ⟨.requiredRole, requiredRole⟩ ∈ calls)
      (h : RouterAuthorization.hasRole user requiredRole = false) :
      TurnedAway request accessor user calls (forbidden accessor requiredRole)

inductive Progress (request : InboundRouteRequest) (accessor : CorrelationIdAccessor)
    (user : Option ClaimsPrincipal) : Calls → Handling → Prop
  | serving {calls : Calls} {op : Op} {rest : op.Ret → Handling} (unsaved : Unsaved calls) :
      Progress request accessor user calls (.call op rest)
  | turnedAway {calls : Calls} {result : RouteHttpResult} (unsaved : Unsaved calls)
      (reason : TurnedAway request accessor user calls result) :
      Progress request accessor user calls (.done (some result))
  | recorded {calls : Calls} {record : RoutingDecisionRecord} {models : List TierPricing}
      {options : RouterPolicyOptions} {policy : PolicySet} {latencyMs : Int32}
      (unsaved : Unsaved calls) (admitted : Admitted request accessor)
      (derived : Derived request calls models options policy record)
      (latency : record.latencyMs = some latencyMs)
      (correlation : record.correlationId =
        (accessor.tryAdoptFromBody request.correlationId).2.value) :
      Progress request accessor user (calls ++ [⟨.saveAsync record, ()⟩])
        (.done (some (answer (accessor.tryAdoptFromBody request.correlationId).2 record.decision
          models latencyMs)))

theorem unsaved_nil : Unsaved [] := List.forall_mem_nil _

theorem Unsaved.concat {calls : Calls} (h : Unsaved calls) {call : Call Op Op.Ret}
    (hcall : call.op.saved = none) : Unsaved (calls ++ [call]) := by
  intro other hother
  rcases List.mem_append.mp hother with hother | hother
  · exact h other hother
  · rwa [List.mem_singleton.mp hother]

theorem routable_of_valid {request : InboundRouteRequest}
    (h : RouteRequestValidator.validate request.toRouteRequest = []) :
    ∃ routed, routable request = some routed ∧ request.lane = some routed.lane ∧
      request.taskKind = some routed.taskKind ∧
      request.complexityHints.map (hints request) = some routed.request.hints := by
  obtain ⟨hfields, _⟩ := (RouteRequestValidator.validate_eq_nil _).mp h
  unfold RouteRequestValidator.fieldErrors at hfields
  simp only [List.append_eq_nil_iff] at hfields
  obtain ⟨⟨⟨⟨⟨⟨hlane, htask⟩, hceiling⟩, hclassification⟩, _⟩, hhints⟩, _⟩ := hfields
  unfold routable
  cases hdto : request.complexityHints with
  | none => simp [hdto, RouteRequestValidator.complexityHintsErrors] at hhints
  | some dto =>
  cases hcost : request.costCeilingUsd with
  | none => simp [hcost, RouteRequestValidator.costCeilingErrors] at hceiling
  | some costCeilingUsd =>
  cases hclass : request.dataClassification with
  | none => simp [hclass, RouteRequestValidator.dataClassificationErrors] at hclassification
  | some dataClassification =>
  cases hlane' : request.lane with
  | none => simp [hlane', RouteRequestValidator.laneErrors] at hlane
  | some lane =>
  cases htask' : request.taskKind with
  | none => simp [htask', RouteRequestValidator.taskKindErrors, isNullOrWhiteSpace] at htask
  | some taskKind => exact ⟨_, rfl, rfl, rfl, rfl⟩

variable {request : InboundRouteRequest} {accessor : CorrelationIdAccessor}
  {user : Option ClaimsPrincipal} {earlier calls : Calls} {p : Handling}

theorem tryAdoptFromBody_conflict (accessor : CorrelationIdAccessor) (candidate : Option Text)
    (h : (accessor.tryAdoptFromBody candidate).1 = false) :
    (accessor.tryAdoptFromBody candidate).2 = accessor := by
  cases CorrelationIdAccessor.tryAdoptFromBody_exit accessor candidate with
  | kept _ result => rw [result]
  | disagreed _ _ _ _ _ result => rw [result]
  | adopted _ _ _ _ result =>
    rw [result] at h
    cases h

theorem Progress.of_call {op : Op} {rest : op.Ret → Handling} (hearlier : Unsaved earlier)
    (hop : op.saved = none) (h : Trace (.call op rest) calls p)
    (next : ∀ r later, Unsaved (earlier ++ [⟨op, r⟩]) → Trace (rest r) later p →
      Progress request accessor user ((earlier ++ [⟨op, r⟩]) ++ later) p) :
    Progress request accessor user (earlier ++ calls) p := by
  rcases h.of_call with ⟨rfl, rfl⟩ | ⟨r, later, rfl, hlater⟩
  · rw [List.append_nil]
    exact .serving hearlier
  · rw [List.append_cons]
    exact next r later (hearlier.concat hop) hlater

theorem Progress.of_done {result : RouteHttpResult} (hearlier : Unsaved earlier)
    (reason : TurnedAway request accessor user earlier result)
    (h : Trace (.done (some result)) calls p) : Progress request accessor user (earlier ++ calls) p := by
  obtain ⟨rfl, rfl⟩ := h.of_done
  rw [List.append_nil]
  exact .turnedAway hearlier reason

theorem progress_record {routed : Routable} {models : List TierPricing}
    {options : RouterPolicyOptions} {policy : PolicySet} {decision : RoutingDecision} {started : Nat}
    (hearlier : Unsaved earlier) (configured : ⟨.current, models⟩ ∈ earlier)
    (selected : ⟨.currentValue, options⟩ ∈ earlier)
    (governed : ⟨.getPolicySet options.businessUnit options.setId, some policy⟩ ∈ earlier)
    (admitted : Admitted request accessor)
    (hrouted : routable request = some routed)
    (hplan : RoutingPlanner.plan routed.request models policy = some decision)
    (h : Trace (record routed (accessor.tryAdoptFromBody request.correlationId).2 models decision
      started) calls p) : Progress request accessor user (earlier ++ calls) p := by
  obtain ⟨supplied, hsupplied, hlane, htaskKind, hhints⟩ := routable_of_valid admitted.valid
  cases hrouted.symm.trans hsupplied
  unfold record at h
  simp only [perform_bind] at h
  refine Progress.of_call hearlier rfl h fun elapsed later hearlier h => ?_
  refine Progress.of_call hearlier rfl h fun id later hearlier h => ?_
  refine Progress.of_call hearlier rfl h fun createdAt later hearlier h => ?_
  rcases h.of_call with ⟨rfl, rfl⟩ | ⟨_, _, rfl, hlater⟩
  · rw [List.append_nil]
    exact .serving hearlier
  · obtain ⟨rfl, rfl⟩ := hlater.of_done
    refine .recorded hearlier admitted (show Derived request _ models options policy _ from ?_) rfl rfl
    refine ⟨?_, ?_, ?_, admitted.valid, hlane, htaskKind, hhints, routed, hrouted, rfl, hplan⟩ <;>
      simp only [List.mem_append] <;> tauto

theorem progress_govern {started : Nat} (hearlier : Unsaved earlier)
    (admitted : Admitted request accessor)
    (h : Trace (govern request (accessor.tryAdoptFromBody request.correlationId).2 started)
      calls p) : Progress request accessor user (earlier ++ calls) p := by
  unfold govern at h
  simp only [perform_bind] at h
  refine Progress.of_call hearlier rfl h fun models later hearlier h => ?_
  have configured : (⟨.current, models⟩ : Call Op Op.Ret) ∈ earlier ++ [⟨.current, models⟩] :=
    List.mem_append_right _ (List.mem_singleton_self _)
  split at h
  · rename_i hnone
    subst hnone
    exact .of_done hearlier (.unconfigured admitted configured) h
  rename_i hmodels
  refine Progress.of_call hearlier rfl h fun options later hearlier h => ?_
  refine Progress.of_call hearlier rfl h fun found later hearlier h => ?_
  have governed : (⟨.getPolicySet options.businessUnit options.setId, found⟩ : Call Op Op.Ret) ∈
      earlier ++ [⟨.current, models⟩] ++ [⟨.currentValue, options⟩] ++
        [⟨.getPolicySet options.businessUnit options.setId, found⟩] :=
    List.mem_append_right _ (List.mem_singleton_self _)
  split at h
  · exact .of_done hearlier (.ungoverned admitted options governed) h
  rename_i policy
  obtain ⟨routed, hrouted, _⟩ := routable_of_valid admitted.valid
  obtain ⟨decision, hplan, _⟩ := RoutingPlanner.plan_planned routed.request hmodels policy
  rw [hrouted] at h
  dsimp only at h
  rw [hplan] at h
  refine progress_record hearlier ?_ ?_ governed admitted hrouted hplan h <;>
    simp only [List.mem_append] <;> tauto

theorem progress_handleAsync (hearlier : Unsaved earlier)
    (h : Trace (handleAsync request accessor) calls p) :
    Progress request accessor user (earlier ++ calls) p := by
  unfold handleAsync at h
  simp only [perform_bind] at h
  refine Progress.of_call hearlier rfl h fun started later hearlier hserved => ?_
  have hkept := tryAdoptFromBody_conflict accessor request.correlationId
  rcases hadopt : accessor.tryAdoptFromBody request.correlationId with ⟨_ | _, correlation⟩
  · rw [hadopt] at hserved hkept
    obtain rfl := hkept rfl
    exact .of_done hearlier (.conflict (by rw [hadopt])) hserved
  · have hadopted : (accessor.tryAdoptFromBody request.correlationId).1 = true := by rw [hadopt]
    have hsame : correlation = (accessor.tryAdoptFromBody request.correlationId).2 := by rw [hadopt]
    rw [hadopt, hsame] at hserved
    dsimp only at hserved
    split at hserved
    · rename_i hvalid
      exact progress_govern hearlier ⟨hadopted, hvalid⟩ hserved
    · rename_i error errors hinvalid
      rw [← hinvalid] at hserved
      refine .of_done hearlier (.invalid ?_) hserved
      rw [hinvalid]
      exact List.cons_ne_nil _ _

theorem progress_invokeAsync
    (h : Trace (invokeAsync user request accessor) calls p) :
    Progress request accessor user calls p := by
  unfold invokeAsync at h
  simp only [perform_bind] at h
  rw [← List.nil_append calls]
  refine Progress.of_call unsaved_nil rfl h fun enforced later hearlier hserved => ?_
  split at hserved
  · exact progress_handleAsync hearlier hserved
  rename_i henforced
  have henforced : enforced = true := Bool.eq_true_of_not_eq_false henforced
  subst henforced
  refine Progress.of_call hearlier rfl hserved fun requiredRole later hearlier hserved => ?_
  split at hserved
  · exact progress_handleAsync hearlier hserved
  · rename_i hrole
    refine .of_done hearlier (.forbidden requiredRole ?_ ?_
      (Bool.eq_false_of_not_eq_true hrole)) hserved <;> simp

end Fcmr.RouterService
