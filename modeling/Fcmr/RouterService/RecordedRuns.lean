import Fcmr.RouterDecisions.PolicyHistory
import Fcmr.RouterService.Evidence

/-! Runs of the router service: any number of requests, one call at a time in any order, while
policy sets are edited and the configuration is reloaded. The store of decisions is exactly what
the answers show. -/
namespace Fcmr.RouterService

open DotNet RouterDecisions ServiceDefaults ApprovalsService Programs

abbrev Serving := Pool Op Op.Ret (Option RouteHttpResult) RouterState

/-- A schedule: the request that makes the next call, and what the call finds. -/
abbrev Turn := Nat × Moment

/-- A request with its caller and the correlation id that the middleware established. -/
structure Arrival where
  user : Option ClaimsPrincipal
  request : InboundRouteRequest
  correlation : CorrelationIdAccessor

/-- The service as it starts, with no decision recorded. -/
def serving (arrivals : List Arrival) (policySets : InMemoryPolicySetRepository)
    (isDevelopment : Bool) : Serving where
  threads := arrivals.map fun arrival =>
    invokeAsync arrival.user arrival.request arrival.correlation
  state := ⟨isDevelopment, policySets, .empty⟩

/-- Who saved what, in the order of the saves. -/
def saves (events : List (Nat × Call Op Op.Ret)) : List (Nat × RoutingDecisionRecord) :=
  events.filterMap fun event => event.2.op.saved.map (event.1, ·)

/-- Where a recorded decision comes from: a catalog configured at one moment of the run, and a
policy set in force at another. -/
structure Origin (pool : Serving) (turns : List Turn) (request : InboundRouteRequest)
    (record : RoutingDecisionRecord) (models : List TierPricing) (policy : PolicySet) : Prop where
  valid : RouteRequestValidator.validate request.toRouteRequest = []
  lane : request.lane = some record.lane
  taskKind : request.taskKind = some record.taskKind
  configured : ∃ turn ∈ turns, ConfiguredModelCatalog.current turn.2.options.catalog = models
  inForce : ∃ turn ∈ turns, ∃ moment, moment <+: turns ∧
    (pool.run serve moment).state.policySets.getAsync turn.2.options.policy.businessUnit
      turn.2.options.policy.setId = some policy
  planned : ∃ routed, RouteRequestHandler.routable request = some routed ∧
    routed.request.hints = record.complexityInputs ∧
    RoutingPlanner.plan routed.request models policy = some record.decision

/-- The evidence after a run, by whom it was written. -/
structure Evidenced (arrivals : List Arrival) (pool : Serving) (turns : List Turn)
    (writes : List (Nat × RoutingDecisionRecord)) : Prop where
  stored : (pool.run serve turns).state.decisions.ordered = writes.map (·.2)
  once : (writes.map (·.1)).Nodup
  answered : ∀ i record, (i, record) ∈ writes → ∃ arrival result models policy,
    arrivals[i]? = some arrival ∧
    (pool.run serve turns).threads[i]? = some (.done (some result)) ∧
    result.body.decision = some record.decision ∧
    result.body.correlationId = record.correlationId ∧
    Origin pool turns arrival.request record models policy ∧
    result.statusCode = RouteStatusMapper.statusFor record.decision models
  recorded : ∀ (i : Nat) result decision,
    (pool.run serve turns).threads[i]? = some (.done (some result)) →
    result.body.decision = some decision → ∃ record, (i, record) ∈ writes ∧
      record.decision = decision ∧ record.correlationId = result.body.correlationId
  unexceptional : ∀ i : Nat, (pool.run serve turns).threads[i]? ≠ some (.done none)

theorem mem_saves {events : List (Nat × Call Op Op.Ret)} {i : Nat}
    {record : RoutingDecisionRecord} : (i, record) ∈ saves events ↔
      ∃ call ∈ own i events, call.op.saved = some record := by
  unfold saves
  simp only [List.mem_filterMap, Option.map_eq_some_iff, Prod.mk.injEq, mem_own, Prod.exists]
  constructor
  · rintro ⟨_, call, hmem, _, hsaved, rfl, rfl⟩
    exact ⟨call, hmem, hsaved⟩
  · rintro ⟨call, hmem, hsaved⟩
    exact ⟨i, call, hmem, record, hsaved, rfl, rfl⟩

theorem serve_decisions (op : Op) (moment : Moment) (state : RouterState) :
    (serve op moment state).2.decisions = op.saved.elim state.decisions state.decisions.saveAsync := by
  cases op <;> rfl

theorem ordered_run (pool : Serving) (turns : List Turn) :
    (pool.run serve turns).state.decisions.ordered =
      pool.state.decisions.ordered ++ (saves (pool.events serve turns)).map (·.2) := by
  have hview := Pool.view_run (fun state : RouterState => state.decisions)
    (fun store (op : Op) => op.saved.elim store store.saveAsync) serve_decisions pool turns
  refine (congrArg (·.ordered) hview).trans ?_
  induction pool.events serve turns using List.reverseRecOn with
  | nil => simp [saves]
  | append_singleton events event ih =>
    rw [List.map_append, List.foldl_append, saves, List.filterMap_append, List.map_append,
      ← List.append_assoc, ← saves, ← ih]
    cases hsaved : event.2.op.saved with
    | none => simp [hsaved]
    | some record => simp [hsaved]

theorem count_saves (events : List (Nat × Call Op Op.Ret)) (i : Nat) :
    ((saves events).map (·.1)).count i = ((own i events).filterMap (·.op.saved)).length := by
  induction events with
  | nil => rfl
  | cons event events ih =>
    have hown : own i (event :: events) =
        (if event.1 = i then [event.2] else []) ++ own i events := by
      unfold own
      by_cases hi : event.1 = i <;> simp [hi]
    have hsaves : saves (event :: events) =
        (event.2.op.saved.map (event.1, ·)).toList ++ saves events := by
      unfold saves
      cases hsaved : event.2.op.saved <;> simp [hsaved]
    rw [hown, hsaves, List.map_append, List.count_append, ih, List.filterMap_append,
      List.length_append]
    congr 1
    cases hsaved : event.2.op.saved with
    | none => by_cases hi : event.1 = i <;> simp [hi, hsaved]
    | some record => by_cases hi : event.1 = i <;> simp [hi, hsaved]

theorem serve_policySets (op : Op) (moment : Moment) (state : RouterState) :
    (serve op moment state).2.policySets = state.policySets.run moment.updates := by
  cases op <;> rfl

theorem policySets_step (pool : Serving) (turn : Turn) :
    ∃ updates, (pool.step serve turn).state.policySets = pool.state.policySets.run updates ∧
      (updates = [] ∨ updates = turn.2.updates) := by
  rcases pool.event_cases serve turn with ⟨_, hidle⟩ | ⟨op, rest, _, _, hstep⟩
  · exact ⟨[], by rw [hidle]; rfl, .inl rfl⟩
  · exact ⟨turn.2.updates, by rw [hstep]; exact serve_policySets op turn.2 pool.state, .inr rfl⟩

theorem policySets_run (pool : Serving) (turns : List Turn) :
    ∃ updates, (pool.run serve turns).state.policySets = pool.state.policySets.run updates := by
  induction turns generalizing pool with
  | nil => exact ⟨[], rfl⟩
  | cons turn turns ih =>
    obtain ⟨first, hfirst, _⟩ := policySets_step pool turn
    obtain ⟨rest, hrest⟩ := ih (pool.step serve turn)
    refine ⟨first ++ rest, hrest.trans ?_⟩
    rw [hfirst]
    exact List.foldl_append.symm

theorem policySets_unedited (pool : Serving) {turns : List Turn}
    (h : ∀ turn ∈ turns, turn.2.updates = []) :
    (pool.run serve turns).state.policySets = pool.state.policySets := by
  induction turns generalizing pool with
  | nil => rfl
  | cons turn turns ih =>
    obtain ⟨hfirst, hrest⟩ := List.forall_mem_cons.mp h
    obtain ⟨updates, hupdates, hnone⟩ := policySets_step pool turn
    have hempty : updates = [] := hnone.elim id fun hsame => hsame.trans hfirst
    refine (ih (pool.step serve turn) hrest).trans ?_
    rw [hupdates, hempty]
    rfl

section

variable {arrivals : List Arrival} {policySets : InMemoryPolicySetRepository} {isDevelopment : Bool}
  {turns : List Turn}

theorem serving_trace {i : Nat} (h : i < arrivals.length) : ∃ arrival p,
    arrivals[i]? = some arrival ∧
    ((serving arrivals policySets isDevelopment).run serve turns).threads[i]? = some p ∧
    Trace (invokeAsync arrival.user arrival.request arrival.correlation)
      (own i ((serving arrivals policySets isDevelopment).events serve turns)) p := by
  have hstart : (serving arrivals policySets isDevelopment).threads[i]? = some
      (invokeAsync arrivals[i].user arrivals[i].request arrivals[i].correlation) := by
    unfold serving
    rw [List.getElem?_map, List.getElem?_eq_getElem h]
    rfl
  obtain ⟨p, hp, htrace⟩ := Pool.trace _ turns hstart
  exact ⟨arrivals[i], p, List.getElem?_eq_getElem h, hp, htrace⟩

theorem serving_thread {i : Nat} {p : Handling}
    (h : ((serving arrivals policySets isDevelopment).run serve turns).threads[i]? = some p) :
    ∃ arrival, arrivals[i]? = some arrival ∧
      Trace (invokeAsync arrival.user arrival.request arrival.correlation)
        (own i ((serving arrivals policySets isDevelopment).events serve turns)) p := by
  obtain ⟨hlt, _⟩ := List.getElem?_eq_some_iff.mp h
  rw [Pool.run_threads_length, serving, List.length_map] at hlt
  obtain ⟨arrival, p', harrival, hp', htrace⟩ := serving_trace hlt
  cases h.symm.trans hp'
  exact ⟨arrival, harrival, htrace⟩

theorem serving_event {i : Nat} {call : Call Op Op.Ret}
    (h : (i, call) ∈ (serving arrivals policySets isDevelopment).events serve turns) :
    i < arrivals.length := by
  have hlt := Pool.events_lt _ h
  rwa [serving, List.length_map] at hlt

theorem events_turn {pool : Serving} {i : Nat} {call : Call Op Op.Ret}
    (h : (i, call) ∈ pool.events serve turns) : ∃ turn ∈ turns, ∃ moment state,
      moment <+: turns ∧ serve call.op turn.2 state =
        (call.ret, (pool.run serve moment).state) := by
  obtain ⟨before, input, hprefix, hserve⟩ := pool.event_state h
  refine ⟨(i, input), hprefix.subset ?_, _, _, hprefix, hserve⟩
  exact List.mem_append_right _ (List.mem_singleton_self _)

theorem origin_of_derived {pool : Serving} {i : Nat} {request : InboundRouteRequest}
    {calls : Calls} (hcalls : ∀ call ∈ calls, (i, call) ∈ pool.events serve turns)
    {models : List TierPricing} {options : RouterPolicyOptions} {policy : PolicySet}
    {record : RoutingDecisionRecord} (h : Derived request calls models options policy record) :
    Origin pool turns request record models policy where
  valid := h.valid
  lane := h.lane
  taskKind := h.taskKind
  configured := by
    obtain ⟨turn, hturn, _, _, _, hserve⟩ := events_turn (hcalls _ h.configured)
    exact ⟨turn, hturn, congrArg Prod.fst hserve⟩
  inForce := by
    obtain ⟨turn, hturn, _, _, _, hoptions⟩ := events_turn (hcalls _ h.selected)
    obtain ⟨_, _, moment, state, hmoment, hserve⟩ := events_turn (hcalls _ h.governed)
    obtain ⟨hpolicy, hstate⟩ := Prod.mk.inj hserve
    have hselected : turn.2.options.policy = options := congrArg Prod.fst hoptions
    refine ⟨turn, hturn, moment, hmoment, ?_⟩
    rw [← hstate, hselected]
    exact hpolicy
  planned := h.decision

theorem filterMap_saved_of_unsaved {calls : Calls} (h : Unsaved calls) :
    calls.filterMap (·.op.saved) = [] :=
  List.filterMap_eq_nil_iff.mpr h

theorem answer_decision (correlation : CorrelationIdAccessor) (decision : RoutingDecision)
    (models : List TierPricing) (latencyMs : Int32) :
    (RouteRequestHandler.answer correlation decision models latencyMs).body.decision =
        some decision ∧
      (RouteRequestHandler.answer correlation decision models latencyMs).body.correlationId =
        correlation.value ∧
      (RouteRequestHandler.answer correlation decision models latencyMs).statusCode =
        RouteStatusMapper.statusFor decision models := by
  unfold RouteRequestHandler.answer
  dsimp only
  split <;> exact ⟨rfl, rfl, rfl⟩

theorem turnedAway_decision {request : InboundRouteRequest} {accessor : CorrelationIdAccessor}
    {user : Option ClaimsPrincipal} {calls : Calls} {result : RouteHttpResult}
    (h : TurnedAway request accessor user calls result) :
    result.body.decision = none := by
  cases h <;> rfl

theorem Progress.saved_length {request : InboundRouteRequest} {accessor : CorrelationIdAccessor}
    {user : Option ClaimsPrincipal} {calls : Calls} {p : Handling}
    (h : Progress request accessor user calls p) :
    (calls.filterMap (·.op.saved)).length ≤ 1 := by
  cases h with
  | serving unsaved => simp [filterMap_saved_of_unsaved unsaved]
  | turnedAway unsaved => simp [filterMap_saved_of_unsaved unsaved]
  | recorded unsaved =>
    rw [List.filterMap_append, filterMap_saved_of_unsaved unsaved]
    exact Nat.le_refl 1

/-- Every decision that is answered is recorded, once and under the correlation id of the
answer, and nothing else is: each record is the plan of a request that arrived. -/
theorem evidenced (arrivals : List Arrival) (policySets : InMemoryPolicySetRepository)
    (isDevelopment : Bool) (turns : List Turn) :
    Evidenced arrivals (serving arrivals policySets isDevelopment) turns
      (saves ((serving arrivals policySets isDevelopment).events serve turns)) where
  stored := ordered_run _ turns
  once := by
    rw [List.nodup_iff_count_le_one]
    intro i
    rw [count_saves]
    cases hown : own i ((serving arrivals policySets isDevelopment).events serve turns) with
    | nil => exact Nat.zero_le _
    | cons call calls =>
      have hcall : call ∈ own i ((serving arrivals policySets isDevelopment).events serve turns) :=
        hown ▸ List.mem_cons_self
      obtain ⟨_, _, _, _, htrace⟩ := serving_trace (serving_event (mem_own.mp hcall))
      exact hown ▸ (progress_invokeAsync htrace).saved_length
  answered := by
    intro i record hmem
    obtain ⟨call, hcall, hsaved⟩ := mem_saves.mp hmem
    obtain ⟨arrival, p, harrival, hp, htrace⟩ := serving_trace (serving_event (mem_own.mp hcall))
    have hprogress := progress_invokeAsync htrace
    have hown : ∀ other ∈ own i ((serving arrivals policySets isDevelopment).events serve turns),
        (i, other) ∈ (serving arrivals policySets isDevelopment).events serve turns :=
      fun other hother => mem_own.mp hother
    generalize own i ((serving arrivals policySets isDevelopment).events serve turns) = calls
      at hcall hprogress hown htrace
    cases hprogress with
    | serving unsaved => cases hsaved.symm.trans (unsaved call hcall)
    | turnedAway unsaved => cases hsaved.symm.trans (unsaved call hcall)
    | @recorded calls saved models options policy latencyMs unsaved _ derived latency correlation =>
      obtain rfl : saved = record := by
        rcases List.mem_append.mp hcall with hcall | hcall
        · cases hsaved.symm.trans (unsaved call hcall)
        · rw [List.mem_singleton.mp hcall] at hsaved
          exact Option.some.inj hsaved
      obtain ⟨hdecision, hcorrelation, hstatus⟩ := answer_decision
        (arrival.correlation.tryAdoptFromBody arrival.request.correlationId).2 saved.decision
        models latencyMs
      refine ⟨arrival, _, models, policy, harrival, hp, hdecision,
        hcorrelation.trans correlation.symm, ?_, hstatus⟩
      exact origin_of_derived (fun other hother => hown other (List.mem_append_left _ hother))
        derived
  recorded := by
    intro i result decision hdone hdecision
    obtain ⟨arrival, _, htrace⟩ := serving_thread hdone
    have hprogress := progress_invokeAsync htrace
    have hown : ∀ call,
        call ∈ own i ((serving arrivals policySets isDevelopment).events serve turns) ↔
          (i, call) ∈ (serving arrivals policySets isDevelopment).events serve turns :=
      fun call => mem_own
    generalize own i ((serving arrivals policySets isDevelopment).events serve turns) = calls
      at hprogress hown
    generalize hthread : Program.done (some result) = p at hprogress
    cases hprogress with
    | serving => cases hthread
    | turnedAway unsaved reason =>
      cases hthread
      cases hdecision.symm.trans (turnedAway_decision reason)
    | @recorded calls record models options policy latencyMs unsaved _ derived latency correlation =>
      cases hthread
      obtain ⟨hshown, hcorrelation, _⟩ := answer_decision
        (arrival.correlation.tryAdoptFromBody arrival.request.correlationId).2 record.decision
        models latencyMs
      refine ⟨record, mem_saves.mpr ⟨⟨.saveAsync record, ()⟩, mem_own.mpr ((hown _).mp ?_), rfl⟩,
        ?_, ?_⟩
      · exact List.mem_append_right _ (List.mem_singleton_self _)
      · exact Option.some.inj (hshown.symm.trans hdecision)
      · exact correlation.trans hcorrelation.symm
  unexceptional := by
    intro i hdone
    obtain ⟨arrival, _, htrace⟩ := serving_thread hdone
    have hprogress := progress_invokeAsync htrace
    generalize own i ((serving arrivals policySets isDevelopment).events serve turns) = calls
      at hprogress
    generalize hthread : Program.done none = p at hprogress
    cases hprogress <;> cases hthread

end

def showsDecision : Handling → Bool
  | .done (some result) => result.body.decision.isSome
  | _ => false

theorem showsDecision_iff {p : Handling} : showsDecision p = true ↔
    ∃ result decision, p = .done (some result) ∧ result.body.decision = some decision := by
  constructor
  · intro h
    unfold showsDecision at h
    split at h
    · rename_i result
      obtain ⟨decision, hdecision⟩ := Option.isSome_iff_exists.mp h
      exact ⟨result, decision, rfl, hdecision⟩
    · cases h
  · rintro ⟨result, decision, rfl, hdecision⟩
    exact Option.isSome_iff_exists.mpr ⟨decision, hdecision⟩

end Fcmr.RouterService
