import Fcmr.Library.Programs

/-! The calls of an interleaving, with their answers. Each thread makes its own calls as if it
ran alone; what a part of the state becomes is decided by the calls that touch it. -/
namespace Programs

variable {Op : Type} {Ret : Op → Type} {α σ ε τ : Type}

structure Call (Op : Type) (Ret : Op → Type) where
  op : Op
  ret : Ret op

/-- The calls by which one program becomes another. -/
inductive Trace : Program Op Ret α → List (Call Op Ret) → Program Op Ret α → Prop
  | nil (p : Program Op Ret α) : Trace p [] p
  | cons {op : Op} {rest : Ret op → Program Op Ret α} {r : Ret op} {calls : List (Call Op Ret)}
      {p : Program Op Ret α} (h : Trace (rest r) calls p) :
      Trace (.call op rest) (⟨op, r⟩ :: calls) p

theorem Trace.of_done {a : α} {calls : List (Call Op Ret)} {p : Program Op Ret α}
    (h : Trace (.done a) calls p) : calls = [] ∧ p = .done a := by
  cases h
  exact ⟨rfl, rfl⟩

theorem Trace.of_call {op : Op} {rest : Ret op → Program Op Ret α} {calls : List (Call Op Ret)}
    {p : Program Op Ret α} (h : Trace (.call op rest) calls p) :
    calls = [] ∧ p = .call op rest ∨
      ∃ r later, calls = ⟨op, r⟩ :: later ∧ Trace (rest r) later p := by
  cases h with
  | nil => exact .inl ⟨rfl, rfl⟩
  | cons h => exact .inr ⟨_, _, rfl, h⟩

/-- The call of one turn. -/
def Pool.event (handle : Handler Op Ret σ ε) (pool : Pool Op Ret α σ) (turn : Nat × ε) :
    Option (Nat × Call Op Ret) :=
  match pool.threads[turn.1]? with
  | some (.call op _) => some (turn.1, ⟨op, (handle op turn.2 pool.state).1⟩)
  | _ => none

def Pool.events (handle : Handler Op Ret σ ε) :
    Pool Op Ret α σ → List (Nat × ε) → List (Nat × Call Op Ret)
  | _, [] => []
  | pool, turn :: turns =>
    (pool.event handle turn).toList ++ Pool.events handle (pool.step handle turn) turns

def own (i : Nat) (events : List (Nat × Call Op Ret)) : List (Call Op Ret) :=
  (events.filter fun event => event.1 = i).map (·.2)

variable {handle : Handler Op Ret σ ε}

theorem mem_own {i : Nat} {call : Call Op Ret} {events : List (Nat × Call Op Ret)} :
    call ∈ own i events ↔ (i, call) ∈ events := by
  simp [own]

theorem own_append (i : Nat) (events events' : List (Nat × Call Op Ret)) :
    own i (events ++ events') = own i events ++ own i events' := by
  rw [own, List.filter_append, List.map_append, own, own]

theorem Pool.event_cases (handle : Handler Op Ret σ ε) (pool : Pool Op Ret α σ) (turn : Nat × ε) :
    (pool.event handle turn = none ∧ pool.step handle turn = pool) ∨
    ∃ op rest, pool.threads[turn.1]? = some (.call op rest) ∧
      pool.event handle turn = some (turn.1, ⟨op, (handle op turn.2 pool.state).1⟩) ∧
      pool.step handle turn = ⟨pool.threads.set turn.1 (rest (handle op turn.2 pool.state).1),
        (handle op turn.2 pool.state).2⟩ := by
  unfold Pool.event Pool.step
  cases hthread : pool.threads[turn.1]? with
  | none => exact .inl ⟨rfl, rfl⟩
  | some p =>
    cases p with
    | done a =>
      obtain ⟨hlt, hget⟩ := List.getElem?_eq_some_iff.mp hthread
      left
      refine ⟨rfl, ?_⟩
      have hsame : pool.threads.set turn.1 (.done a) = pool.threads := by
        rw [← hget, List.set_getElem_self]
      exact congrArg (Pool.mk · pool.state) hsame
    | call op rest => exact .inr ⟨op, rest, rfl, rfl, rfl⟩

theorem Pool.run_threads_length (pool : Pool Op Ret α σ) (turns : List (Nat × ε)) :
    (pool.run handle turns).threads.length = pool.threads.length := by
  induction turns generalizing pool with
  | nil => rfl
  | cons turn turns ih =>
    refine (ih (pool.step handle turn)).trans ?_
    rcases pool.event_cases handle turn with ⟨_, hidle⟩ | ⟨op, rest, _, _, hstep⟩
    · rw [hidle]
    · rw [hstep]
      exact List.length_set

theorem Pool.events_lt (pool : Pool Op Ret α σ) {turns : List (Nat × ε)} {i : Nat}
    {call : Call Op Ret} (h : (i, call) ∈ pool.events handle turns) : i < pool.threads.length := by
  induction turns generalizing pool with
  | nil => cases h
  | cons turn turns ih =>
    rw [Pool.events, List.mem_append, Option.mem_toList] at h
    rcases h with hevent | hlater
    · rcases pool.event_cases handle turn with ⟨hnone, _⟩ | ⟨op, rest, hthread, hsome, _⟩
      · cases hnone.symm.trans hevent
      · cases hsome.symm.trans hevent
        exact (List.getElem?_eq_some_iff.mp hthread).1
    · have hlt := ih (pool.step handle turn) hlater
      rwa [← Pool.run_threads_length pool [turn]]

theorem Pool.events_append (pool : Pool Op Ret α σ) (turns turns' : List (Nat × ε)) :
    pool.events handle (turns ++ turns') =
      pool.events handle turns ++ (pool.run handle turns).events handle turns' := by
  induction turns generalizing pool with
  | nil => rfl
  | cons turn turns ih =>
    rw [List.cons_append, Pool.events, Pool.events, ih, List.append_assoc]
    rfl

theorem Pool.run_snoc_cases (handle : Handler Op Ret σ ε) (pool : Pool Op Ret α σ)
    (turns : List (Nat × ε)) (turn : Nat × ε) :
    (pool.run handle (turns ++ [turn])).state = (pool.run handle turns).state ∨
    ∃ op, (turn.1, ⟨op, (handle op turn.2 (pool.run handle turns).state).1⟩) ∈
        pool.events handle (turns ++ [turn]) ∧
      (pool.run handle (turns ++ [turn])).state =
        (handle op turn.2 (pool.run handle turns).state).2 := by
  have hrun : pool.run handle (turns ++ [turn]) = (pool.run handle turns).step handle turn :=
    List.foldl_concat ..
  rw [hrun]
  rcases (pool.run handle turns).event_cases handle turn with
    ⟨_, hidle⟩ | ⟨op, rest, _, hevent, hstep⟩
  · exact .inl (congrArg Pool.state hidle)
  · refine .inr ⟨op, ?_, congrArg Pool.state hstep⟩
    rw [Pool.events_append, Pool.events, hevent]
    exact List.mem_append_right _ List.mem_cons_self

theorem Pool.trace (pool : Pool Op Ret α σ) (turns : List (Nat × ε)) {i : Nat}
    {p : Program Op Ret α} (h : pool.threads[i]? = some p) :
    ∃ p', (pool.run handle turns).threads[i]? = some p' ∧
      Trace p (own i (pool.events handle turns)) p' := by
  induction turns generalizing pool p with
  | nil => exact ⟨p, h, .nil p⟩
  | cons turn turns ih =>
    rw [Pool.events, own_append]
    rcases pool.event_cases handle turn with ⟨hnone, hidle⟩ | ⟨op, rest, hthread, hevent, hstep⟩
    · rw [hnone, hidle]
      obtain ⟨p', hp', htrace⟩ := ih pool h
      refine ⟨p', ?_, htrace⟩
      rw [← hp']
      exact congrArg (fun next : Pool Op Ret α σ => (next.run handle turns).threads[i]?) hidle
    · rw [hevent]
      by_cases hi : turn.1 = i
      · subst hi
        cases h.symm.trans hthread
        obtain ⟨hlt, _⟩ := List.getElem?_eq_some_iff.mp hthread
        have hnext : (pool.step handle turn).threads[turn.1]? =
            some (rest (handle op turn.2 pool.state).1) := by
          rw [hstep]
          exact List.getElem?_set_self hlt
        obtain ⟨p', hp', htrace⟩ := ih _ hnext
        refine ⟨p', hp', ?_⟩
        simpa [own] using Trace.cons htrace
      · have hnext : (pool.step handle turn).threads[i]? = some p := by
          rw [hstep, ← h]
          exact List.getElem?_set_ne hi
        obtain ⟨p', hp', htrace⟩ := ih _ hnext
        refine ⟨p', hp', ?_⟩
        simpa [own, hi] using htrace

theorem Pool.event_state (pool : Pool Op Ret α σ) {turns : List (Nat × ε)} {i : Nat}
    {call : Call Op Ret} (h : (i, call) ∈ pool.events handle turns) :
    ∃ before input, before ++ [(i, input)] <+: turns ∧
      handle call.op input (pool.run handle before).state =
        (call.ret, (pool.run handle (before ++ [(i, input)])).state) := by
  induction turns generalizing pool with
  | nil => cases h
  | cons turn turns ih =>
    rw [Pool.events, List.mem_append, Option.mem_toList] at h
    rcases h with hevent | hlater
    · rcases pool.event_cases handle turn with ⟨hnone, _⟩ | ⟨op, rest, _, hsome, hstep⟩
      · cases hnone.symm.trans hevent
      · cases hsome.symm.trans hevent
        refine ⟨[], turn.2, ⟨turns, rfl⟩, ?_⟩
        have hnext := congrArg Pool.state hstep
        exact Prod.ext rfl hnext.symm
    · obtain ⟨before, input, ⟨after, hturns⟩, hret⟩ := ih _ hlater
      exact ⟨turn :: before, input, ⟨after, congrArg (turn :: ·) hturns⟩, hret⟩

theorem Pool.run_related {R : σ → σ → Prop} (hrefl : ∀ s, R s s)
    (htrans : ∀ {a b c}, R a b → R b c → R a c)
    (hcall : ∀ op input s, R s (handle op input s).2) (pool : Pool Op Ret α σ)
    {before turns : List (Nat × ε)} (h : before <+: turns) :
    R (pool.run handle before).state (pool.run handle turns).state := by
  obtain ⟨later, rfl⟩ := h
  induction later generalizing before with
  | nil =>
    rw [List.append_nil]
    exact hrefl _
  | cons turn later ih =>
    rw [List.append_cons]
    refine htrans ?_ ih
    rcases pool.run_snoc_cases handle before turn with hidle | ⟨op, _, hstate⟩
    · rw [hidle]
      exact hrefl _
    · rw [hstate]
      exact hcall op turn.2 _

theorem Pool.view_run (view : σ → τ) (effect : τ → Op → τ)
    (hview : ∀ op input s, view (handle op input s).2 = effect (view s) op)
    (pool : Pool Op Ret α σ) (turns : List (Nat × ε)) :
    view (pool.run handle turns).state =
      ((pool.events handle turns).map (·.2.op)).foldl effect (view pool.state) := by
  induction turns generalizing pool with
  | nil => rfl
  | cons turn turns ih =>
    rw [Pool.events, List.map_append, List.foldl_append]
    refine (ih (pool.step handle turn)).trans ?_
    rcases pool.event_cases handle turn with ⟨hnone, hidle⟩ | ⟨op, rest, _, hevent, hstep⟩
    · rw [hnone, hidle]
      rfl
    · rw [hevent]
      congr 1
      rw [hstep]
      exact hview op turn.2 pool.state

theorem countP_eq_length {γ : Type*} {l : List γ} {p : γ → Bool} {places : List Nat}
    (hnodup : places.Nodup) (h : ∀ i, i ∈ places ↔ ∃ a, l[i]? = some a ∧ p a = true) :
    l.countP p = places.length := by
  have hplaces : ((l.zipIdx.filter fun entry => p entry.1).map (·.2)).Perm places := by
    refine (List.perm_ext_iff_of_nodup ?_ hnodup).mpr fun i => ?_
    · refine List.Nodup.sublist (List.filter_sublist.map _) ?_
      rw [List.zipIdx_map_snd]
      exact List.nodup_range'
    · simp only [h, List.mem_map, List.mem_filter, List.mem_zipIdx_iff_getElem?, Prod.exists,
        exists_eq_right]
  rw [← hplaces.length_eq, List.length_map, ← List.countP_eq_length_filter]
  conv_lhs => rw [← List.zipIdx_map_fst 0 l, List.countP_map]
  rfl

end Programs
