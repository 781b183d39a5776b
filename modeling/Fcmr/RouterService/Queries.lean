import Fcmr.RouterService.RecordedRuns

/-! What the store of decisions returns at any moment of a run. One query by correlation id gives
the whole story of a request, and what a query has once returned it goes on returning. -/
namespace Fcmr.RouterService

open DotNet RouterDecisions Programs

/-- The two queries, after some turns of a run. -/
structure ReadBack (pool : Serving) (turns : List Turn) : Prop where
  story : ∀ (i : Nat) result decision,
    (pool.run serve turns).threads[i]? = some (.done (some result)) →
    result.body.decision = some decision → ∃ record ∈
      (pool.run serve turns).state.decisions.getAsync result.body.correlationId,
      record.decision = decision
  partitioned : ∀ correlationId, (pool.run serve turns).state.decisions.getAsync correlationId =
    (pool.run serve turns).state.decisions.ordered.filter
      fun record => record.correlationId = correlationId
  grows : ∀ earlier, earlier <+: turns → ∀ correlationId,
    (pool.run serve earlier).state.decisions.getAsync correlationId <+:
      (pool.run serve turns).state.decisions.getAsync correlationId
  window : ∀ since, ((pool.run serve turns).state.decisions.listSinceAsync since).Pairwise
      (fun a b => b.createdAt ≤ a.createdAt) ∧
    ((pool.run serve turns).state.decisions.listSinceAsync since).Perm
      ((pool.run serve turns).state.decisions.ordered.filter
        fun record => since ≤ record.createdAt)
  instant : ∀ since instant, since ≤ instant →
    (((pool.run serve turns).state.decisions.listSinceAsync since).filter
        fun record => record.createdAt = instant) =
      (pool.run serve turns).state.decisions.ordered.filter
        fun record => record.createdAt = instant

theorem ordered_grows (pool : Serving) {earlier turns : List Turn} (h : earlier <+: turns) :
    (pool.run serve earlier).state.decisions.ordered <+:
      (pool.run serve turns).state.decisions.ordered := by
  obtain ⟨later, rfl⟩ := h
  rw [Pool.run_append, ordered_run (pool.run serve earlier) later]
  exact List.prefix_append _ _

theorem read_back (arrivals : List Arrival) (policySets : InMemoryPolicySetRepository)
    (isDevelopment : Bool) (turns : List Turn) :
    ReadBack (serving arrivals policySets isDevelopment) turns where
  story := by
    intro i result decision hdone hdecision
    have hevidenced := evidenced arrivals policySets isDevelopment turns
    obtain ⟨record, hwrite, hsame, hcorrelation⟩ :=
      hevidenced.recorded i result decision hdone hdecision
    refine ⟨record, ?_, hsame⟩
    rw [InMemoryRoutingDecisionStore.getAsync_eq, hevidenced.stored]
    exact List.mem_filter.mpr ⟨List.mem_map_of_mem hwrite, decide_eq_true hcorrelation⟩
  partitioned := InMemoryRoutingDecisionStore.getAsync_eq _
  grows := by
    intro earlier hearlier correlationId
    rw [InMemoryRoutingDecisionStore.getAsync_eq, InMemoryRoutingDecisionStore.getAsync_eq]
    exact (ordered_grows _ hearlier).filter _
  window := InMemoryRoutingDecisionStore.listSinceAsync_window _
  instant := fun _ _ => InMemoryRoutingDecisionStore.listSinceAsync_instant _

end Fcmr.RouterService
