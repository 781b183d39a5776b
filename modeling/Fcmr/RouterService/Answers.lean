import Fcmr.RouterService.Reconstruction

/-! What a caller can conclude from an answer: who may get one, under which correlation id it is
given, and what its status says about the decision. -/
namespace Fcmr.RouterService

open DotNet RouterDecisions ServiceDefaults ApprovalsService Programs

def Authorized (user : Option ClaimsPrincipal) (calls : Calls) : Prop :=
  ⟨.isEnforced, false⟩ ∈ calls ∨ ∃ requiredRole, ⟨.requiredRole, requiredRole⟩ ∈ calls ∧
    RouterAuthorization.hasRole user requiredRole = true

theorem invokeAsync_authorized {user : Option ClaimsPrincipal} {request : InboundRouteRequest}
    {accessor : CorrelationIdAccessor} {calls : Calls} {result : RouteHttpResult}
    (h : Trace (invokeAsync user request accessor) calls (.done (some result))) :
    Authorized user calls ∨ ∃ requiredRole, result = forbidden accessor requiredRole := by
  unfold invokeAsync at h
  simp only [perform_bind] at h
  rcases h.of_call with ⟨_, hdone⟩ | ⟨enforced, later, rfl, hfilter⟩
  · cases hdone
  split at hfilter
  · rename_i hoff
    subst hoff
    exact .inl (.inl List.mem_cons_self)
  rcases hfilter.of_call with ⟨_, hdone⟩ | ⟨requiredRole, rest, rfl, hserved⟩
  · cases hdone
  split at hserved
  · rename_i hrole
    exact .inl (.inr ⟨requiredRole, List.mem_cons_of_mem _ List.mem_cons_self, hrole⟩)
  · cases hserved
    exact .inr ⟨requiredRole, rfl⟩

/-- The correlation id of an answer: that of the header if one was supplied, else an acceptable
one in the body once the filter let the request through, else the generated one. -/
structure Correlated (arrival : Arrival) (result : RouteHttpResult) : Prop where
  acceptable : CorrelationIdFormat.Acceptable result.body.correlationId
  supplied : arrival.correlation.source ≠ .generated →
    result.body.correlationId = arrival.correlation.value
  adopted : arrival.correlation.source = .generated → result.statusCode ≠ 403 →
    ∀ id, arrival.request.correlationId = some id → CorrelationIdFormat.Acceptable id →
      result.body.correlationId = id
  generated : (result.statusCode = 403 ∨ ∀ id, arrival.request.correlationId = some id →
    ¬CorrelationIdFormat.Acceptable id) → result.body.correlationId = arrival.correlation.value

structure Told (arrival : Arrival) (result : RouteHttpResult) : Prop
    extends Correlated arrival result where
  decided : ∀ decision, result.body.decision = some decision →
    (result.statusCode = 200 ∧ decision.outcome ≠ .denied) ∨
      ((result.statusCode = 402 ∨ result.statusCode = 503) ∧ decision.outcome = .denied)
  undecided : result.body.decision = none →
    result.statusCode = 400 ∨ result.statusCode = 403 ∨ result.statusCode = 503
  badRequest : result.statusCode ≠ 403 →
    (result.statusCode = 400 ↔ ¬Admitted arrival.request arrival.correlation)

/-- Outside Development whoever is told more than 403 carries the role that some moment of the
run required, and whoever is told 403 lacks one that was required. -/
structure Guarded (arrival : Arrival) (isDevelopment : Bool) (turns : List Turn)
    (result : RouteHttpResult) : Prop where
  through : isDevelopment = false → result.statusCode ≠ 403 → ∃ turn ∈ turns,
    RouterAuthorization.hasRole arrival.user turn.2.options.authorization.requiredRole = true
  forbidden : result.statusCode = 403 → ∃ turn ∈ turns,
    RouterAuthorization.hasRole arrival.user turn.2.options.authorization.requiredRole = false

theorem statusFor_cases (decision : RoutingDecision) (models : List TierPricing) :
    (RouteStatusMapper.statusFor decision models = 200 ∧ decision.outcome ≠ .denied) ∨
      ((RouteStatusMapper.statusFor decision models = 402 ∨
        RouteStatusMapper.statusFor decision models = 503) ∧ decision.outcome = .denied) := by
  unfold RouteStatusMapper.statusFor
  cases decision.outcome with
  | denied =>
    right
    dsimp only
    split
    · exact ⟨.inr rfl, rfl⟩
    · exact ⟨.inl rfl, rfl⟩
  | _ => exact .inl ⟨rfl, nofun⟩

theorem adopted_value (accessor : CorrelationIdAccessor) (candidate : Option Text) :
    (accessor.source ≠ .generated →
      (accessor.tryAdoptFromBody candidate).2.value = accessor.value) ∧
    (accessor.source = .generated → ∀ id, candidate = some id →
      CorrelationIdFormat.Acceptable id → (accessor.tryAdoptFromBody candidate).2.value = id) ∧
    ((∀ id, candidate = some id → ¬CorrelationIdFormat.Acceptable id) →
      (accessor.tryAdoptFromBody candidate).2.value = accessor.value) := by
  cases CorrelationIdAccessor.tryAdoptFromBody_exit accessor candidate with
  | kept agreed result =>
    rw [result]
    exact ⟨fun _ => rfl, fun _ id hid hacceptable => (agreed id hid hacceptable).symm, fun _ => rfl⟩
  | disagreed id offered acceptable other supplied result =>
    rw [result]
    exact ⟨fun _ => rfl, fun hgenerated => absurd hgenerated supplied, fun _ => rfl⟩
  | adopted id offered acceptable generated result =>
    rw [result]
    refine ⟨absurd generated, ?_, fun hnone => absurd acceptable (hnone id offered)⟩
    rintro _ _ hid _
    exact Option.some.inj (offered.symm.trans hid)

section

variable {arrival : Arrival} {result : RouteHttpResult}

theorem correlated_of_forbidden
    (hacceptable : CorrelationIdFormat.Acceptable arrival.correlation.value)
    (hvalue : result.body.correlationId = arrival.correlation.value)
    (hstatus : result.statusCode = 403) : Correlated arrival result where
  acceptable := hvalue ▸ hacceptable
  supplied _ := hvalue
  adopted _ hother := absurd hstatus hother
  generated _ := hvalue

theorem correlated_of_adopted
    (hacceptable : CorrelationIdFormat.Acceptable arrival.correlation.value)
    (hvalue : result.body.correlationId =
      (arrival.correlation.tryAdoptFromBody arrival.request.correlationId).2.value)
    (hstatus : result.statusCode ≠ 403) : Correlated arrival result := by
  obtain ⟨hsupplied, hadopted, hkept⟩ := adopted_value arrival.correlation
    arrival.request.correlationId
  refine ⟨?_, ?_, ?_, ?_⟩ <;> rw [hvalue]
  · exact CorrelationIdAccessor.adoptAll_acceptable hacceptable [arrival.request.correlationId]
  · exact hsupplied
  · exact fun hgenerated _ => hadopted hgenerated
  · rintro (hforbidden | hnone)
    · exact absurd hforbidden hstatus
    · exact hkept hnone

theorem told_of_turnedAway
    (hacceptable : CorrelationIdFormat.Acceptable arrival.correlation.value) {calls : Calls}
    (h : TurnedAway arrival.request arrival.correlation arrival.user calls result) :
    Told arrival result := by
  have hnone := turnedAway_decision h
  have hdecided (decision : RoutingDecision) (hsome : result.body.decision = some decision) :
      (result.statusCode = 200 ∧ decision.outcome ≠ .denied) ∨
        ((result.statusCode = 402 ∨ result.statusCode = 503) ∧ decision.outcome = .denied) := by
    cases hnone.symm.trans hsome
  cases h with
  | conflict hconflict =>
    refine ⟨correlated_of_adopted hacceptable ?_ nofun, hdecided, fun _ => .inl rfl, fun _ => ?_⟩
    · rw [tryAdoptFromBody_conflict _ _ hconflict]
      rfl
    · refine iff_of_true rfl fun admitted => ?_
      cases hconflict.symm.trans admitted.adopted
  | invalid hinvalid =>
    exact ⟨correlated_of_adopted hacceptable rfl nofun, hdecided, fun _ => .inl rfl,
      fun _ => iff_of_true rfl fun admitted => hinvalid admitted.valid⟩
  | unconfigured admitted =>
    exact ⟨correlated_of_adopted hacceptable rfl nofun, hdecided, fun _ => .inr (.inr rfl),
      fun _ => iff_of_false nofun (not_not.mpr admitted)⟩
  | ungoverned admitted =>
    exact ⟨correlated_of_adopted hacceptable rfl nofun, hdecided, fun _ => .inr (.inr rfl),
      fun _ => iff_of_false nofun (not_not.mpr admitted)⟩
  | forbidden =>
    exact ⟨correlated_of_forbidden hacceptable rfl rfl, hdecided, fun _ => .inr (.inl rfl),
      absurd rfl⟩

theorem told_of_answer
    (hacceptable : CorrelationIdFormat.Acceptable arrival.correlation.value)
    (admitted : Admitted arrival.request arrival.correlation) (decision : RoutingDecision)
    (models : List TierPricing) (latencyMs : Int32) : Told arrival
      (RouteRequestHandler.answer
        (arrival.correlation.tryAdoptFromBody arrival.request.correlationId).2 decision models
        latencyMs) := by
  obtain ⟨hshown, hcorrelation, hstatus⟩ := answer_decision
    (arrival.correlation.tryAdoptFromBody arrival.request.correlationId).2 decision models latencyMs
  have hcases := statusFor_cases decision models
  rw [← hstatus] at hcases
  refine ⟨correlated_of_adopted hacceptable hcorrelation ?_, fun shown hsome => ?_,
    fun hnone => ?_, fun _ => iff_of_false ?_ (not_not.mpr admitted)⟩
  · omega
  · cases hshown.symm.trans hsome
    exact hcases
  · cases hshown.symm.trans hnone
  · omega

theorem told_of_progress
    (hacceptable : CorrelationIdFormat.Acceptable arrival.correlation.value) {calls : Calls}
    (h : Progress arrival.request arrival.correlation arrival.user calls (.done (some result))) :
    Told arrival result ∧ (result.statusCode = 403 → ∃ requiredRole,
      ⟨.requiredRole, requiredRole⟩ ∈ calls ∧
        RouterAuthorization.hasRole arrival.user requiredRole = false) := by
  cases h with
  | turnedAway _ reason =>
    refine ⟨told_of_turnedAway hacceptable reason, fun hstatus => ?_⟩
    cases reason with
    | forbidden requiredRole _ required hrole => exact ⟨requiredRole, required, hrole⟩
    | _ => cases hstatus
  | @recorded _ record models _ _ latencyMs _ admitted =>
    have htold := told_of_answer hacceptable admitted record.decision models latencyMs
    refine ⟨htold, fun hstatus => ?_⟩
    have hshown := (answer_decision
      (arrival.correlation.tryAdoptFromBody arrival.request.correlationId).2 record.decision models
      latencyMs).1
    have hcases := htold.decided record.decision hshown
    omega

end

theorem serve_isDevelopment (op : Op) (moment : Moment) (state : RouterState) :
    (serve op moment state).2.isDevelopment = state.isDevelopment := by
  cases op <;> rfl

theorem isDevelopment_run (pool : Serving) (turns : List Turn) :
    (pool.run serve turns).state.isDevelopment = pool.state.isDevelopment := by
  have hview := Pool.view_run (fun state : RouterState => state.isDevelopment)
    (fun isDevelopment (_ : Op) => isDevelopment) serve_isDevelopment pool turns
  exact hview.trans (List.foldl_fixed ..)

theorem isDevelopment_of_off {arrivals : List Arrival} {policySets : InMemoryPolicySetRepository}
    {isDevelopment : Bool} {turns : List Turn} {i : Nat}
    (h : (i, ⟨.isEnforced, false⟩) ∈
      (serving arrivals policySets isDevelopment).events serve turns) :
    ¬isDevelopment = false := by
  obtain ⟨before, moment, _, hserve⟩ := Pool.event_state _ h
  have hoff : RouterAuthorization.isEnforced moment.options.authorization.enabled
      ((serving arrivals policySets isDevelopment).run serve before).state.isDevelopment = false :=
    congrArg Prod.fst hserve
  rw [isDevelopment_run] at hoff
  intro hproduction
  have hhost : (serving arrivals policySets isDevelopment).state.isDevelopment = false :=
    hproduction
  rw [hhost, RouterAuthorization.isEnforced, Bool.not_false, Bool.or_true] at hoff
  cases hoff

theorem requiredRole_turn {arrivals : List Arrival} {policySets : InMemoryPolicySetRepository}
    {isDevelopment : Bool} {turns : List Turn} {i : Nat} {requiredRole : Text}
    (h : ⟨.requiredRole, requiredRole⟩ ∈
      own i ((serving arrivals policySets isDevelopment).events serve turns)) :
    ∃ turn ∈ turns, turn.2.options.authorization.requiredRole = requiredRole := by
  obtain ⟨turn, hturn, _, _, _, hserve⟩ := events_turn (mem_own.mp h)
  exact ⟨turn, hturn, congrArg Prod.fst hserve⟩

/-- Every finished request of a run is told what is so, whatever is edited or reloaded meanwhile,
and the filter stands before it. -/
theorem told_and_guarded {arrivals : List Arrival}
    (hacceptable : ∀ arrival ∈ arrivals,
      CorrelationIdFormat.Acceptable arrival.correlation.value)
    (policySets : InMemoryPolicySetRepository) (isDevelopment : Bool) (turns : List Turn) :
    ∀ (i : Nat) result, ((serving arrivals policySets isDevelopment).run serve turns).threads[i]? =
      some (.done (some result)) → ∃ arrival, arrivals[i]? = some arrival ∧
        Told arrival result ∧ Guarded arrival isDevelopment turns result := by
  intro i result hdone
  obtain ⟨arrival, harrival, htrace⟩ := serving_thread hdone
  obtain ⟨htold, hforbidden⟩ := told_of_progress
    (hacceptable arrival (List.mem_of_getElem? harrival)) (progress_invokeAsync htrace)
  refine ⟨arrival, harrival, htold, fun hproduction hstatus => ?_, fun hstatus => ?_⟩
  · rcases invokeAsync_authorized htrace with (hoff | ⟨requiredRole, hrequired, hrole⟩) |
      ⟨requiredRole, rfl⟩
    · exact absurd hproduction (isDevelopment_of_off (mem_own.mp hoff))
    · obtain ⟨turn, hturn, rfl⟩ := requiredRole_turn hrequired
      exact ⟨turn, hturn, hrole⟩
    · exact absurd rfl hstatus
  · obtain ⟨requiredRole, hrequired, hrole⟩ := hforbidden hstatus
    obtain ⟨turn, hturn, rfl⟩ := requiredRole_turn hrequired
    exact ⟨turn, hturn, hrole⟩

namespace Samples

theorem asked_told : ∃ policySets result,
    ((serving [asked] policySets true).run serve nineCalls).threads[0]? = some (.done (some result)) ∧
      ∃ arrival, [asked][0]? = some arrival ∧ Told arrival result ∧
        Guarded arrival true nineCalls result := by
  obtain ⟨policySets, record, _, hmem⟩ := asked_recorded
  have hevidenced := evidenced [asked] policySets true nineCalls
  obtain ⟨⟨i, _⟩, hwrite, rfl⟩ := List.mem_map.mp (hevidenced.stored ▸ hmem)
  obtain ⟨arrival, result, _, _, harrival, hdone, _⟩ := hevidenced.answered i _ hwrite
  obtain rfl : i = 0 := Nat.lt_one_iff.mp (List.getElem?_eq_some_iff.mp harrival).1
  refine ⟨policySets, result, hdone, told_and_guarded ?_ policySets true nineCalls 0 result hdone⟩
  exact List.forall_mem_singleton.mpr ((CorrelationIdFormat.isAcceptable_iff _).mp (by decide))

end Samples

end Fcmr.RouterService
