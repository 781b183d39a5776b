import Fcmr.Library.Machines
import Fcmr.Library.Programs
import Mathlib.Data.List.Induction

/-! Threads among others: what one thread knows at each moment of an interleaving, and
the turn at which something comes about. -/
namespace Machines

variable {σ ι : Type*}

theorem Throughout.at_step {step : σ → ι → σ} {condition : σ → ι → Prop} {s : σ} {inputs : List ι}
    (h : Throughout step condition s inputs) {before : List ι} {i : ι}
    (hbefore : before ++ [i] <+: inputs) : condition (before.foldl step s) i := by
  obtain ⟨after, rfl⟩ := hbefore
  exact (throughout_append.mp (throughout_append.mp h).1).2.1

theorem throughout_of_steps {step : σ → ι → σ} {condition : σ → ι → Prop} {s : σ} {inputs : List ι}
    (h : ∀ before i, before ++ [i] <+: inputs → condition (before.foldl step s) i) :
    Throughout step condition s inputs := by
  induction inputs generalizing s with
  | nil => trivial
  | cons i inputs ih =>
    refine ⟨h [] i (List.prefix_append [i] inputs), ih fun before j hbefore => ?_⟩
    exact h (i :: before) j (List.cons_prefix_cons.mpr ⟨rfl, hbefore⟩)

theorem exists_step_of_change {step : σ → ι → σ} {s : σ} (P : σ → Prop) {before later : List ι}
    (hextends : before <+: later) (hbefore : ¬P (before.foldl step s))
    (hlater : P (later.foldl step s)) : ∃ middle i, before <+: middle ∧ middle ++ [i] <+: later ∧
      ¬P (middle.foldl step s) ∧ P (step (middle.foldl step s) i) := by
  obtain ⟨gap, rfl⟩ := hextends
  induction gap using List.reverseRecOn with
  | nil =>
    rw [List.append_nil] at hlater
    exact absurd hlater hbefore
  | append_singleton gap i ih =>
    by_cases hgap : P ((before ++ gap).foldl step s)
    · obtain ⟨middle, j, hmiddle, hstep, hnot, hyes⟩ := ih hgap
      refine ⟨middle, j, hmiddle, hstep.trans ?_, hnot, hyes⟩
      rw [← List.append_assoc]
      exact List.prefix_append _ _
    · refine ⟨before ++ gap, i, List.prefix_append _ _, ?_, hgap, ?_⟩
      · simp only [List.append_assoc, List.prefix_rfl]
      · rwa [← List.append_assoc, List.foldl_concat] at hlater

end Machines

namespace Programs

variable {Op : Type} {Ret : Op → Type} {α σ ε : Type} {handle : Handler Op Ret σ ε}

theorem Pool.run_concat (pool : Pool Op Ret α σ) (turns : List (Nat × ε)) (turn : Nat × ε) :
    pool.run handle (turns ++ [turn]) = (pool.run handle turns).step handle turn :=
  List.foldl_concat ..

theorem Pool.exists_turn_of_change {pool : Pool Op Ret α σ} (P : Pool Op Ret α σ → Prop)
    {before later : List (Nat × ε)} (hextends : before <+: later)
    (hbefore : ¬P (pool.run handle before)) (hlater : P (pool.run handle later)) :
    ∃ middle turn, before <+: middle ∧ middle ++ [turn] <+: later ∧
      ¬P (pool.run handle middle) ∧ P ((pool.run handle middle).step handle turn) :=
  Machines.exists_step_of_change P hextends hbefore hlater

theorem Pool.step_cases (pool : Pool Op Ret α σ) (handle : Handler Op Ret σ ε) (turn : Nat × ε) :
    pool.step handle turn = pool ∨
    ∃ op rest, pool.threads[turn.1]? = some (.call op rest) ∧
      pool.step handle turn = ⟨pool.threads.set turn.1 (rest (handle op turn.2 pool.state).1),
        (handle op turn.2 pool.state).2⟩ := by
  cases hthread : pool.threads[turn.1]? with
  | none =>
    left
    rw [Pool.step, hthread]
  | some p =>
    have hstep : pool.step handle turn =
        ⟨pool.threads.set turn.1 (Programs.step handle turn.2 (p, pool.state)).1,
          (Programs.step handle turn.2 (p, pool.state)).2⟩ := by
      rw [Pool.step, hthread]
    cases p with
    | done a =>
      left
      obtain ⟨hlt, hget⟩ := List.getElem?_eq_some_iff.mp hthread
      rw [hstep, Programs.step, ← hget, List.set_getElem_self]
    | call op rest => exact .inr ⟨op, rest, rfl, hstep⟩

theorem Pool.step_other {pool : Pool Op Ret α σ} {turn : Nat × ε} {i : Nat} (h : i ≠ turn.1) :
    (pool.step handle turn).threads[i]? = pool.threads[i]? := by
  rcases pool.step_cases handle turn with hidle | ⟨op, rest, _, hstep⟩
  · rw [hidle]
  · rw [hstep]
    exact List.getElem?_set_ne h.symm

theorem Pool.step_own {pool : Pool Op Ret α σ} {turn : Nat × ε} {op : Op}
    {rest : Ret op → Program Op Ret α} (h : pool.threads[turn.1]? = some (.call op rest)) :
    (pool.step handle turn).threads[turn.1]? = some (rest (handle op turn.2 pool.state).1) ∧
      (pool.step handle turn).state = (handle op turn.2 pool.state).2 := by
  have hstep : pool.step handle turn = ⟨pool.threads.set turn.1 (rest (handle op turn.2 pool.state).1),
      (handle op turn.2 pool.state).2⟩ := by
    rw [Pool.step, h]
    rfl
  obtain ⟨hlt, _⟩ := List.getElem?_eq_some_iff.mp h
  rw [hstep]
  exact ⟨List.getElem?_set_self hlt, rfl⟩

theorem Pool.step_done {pool : Pool Op Ret α σ} {i : Nat} {a : α}
    (h : pool.threads[i]? = some (.done a)) (turn : Nat × ε) :
    (pool.step handle turn).threads[i]? = some (.done a) := by
  by_cases hi : i = turn.1
  · subst hi
    rcases pool.step_cases handle turn with hidle | ⟨op, rest, hthread, _⟩
    · rwa [hidle]
    · cases hthread.symm.trans h
  · rwa [Pool.step_other hi]

theorem Pool.run_done {pool : Pool Op Ret α σ} {before later : List (Nat × ε)}
    (hextends : before <+: later) {i : Nat} {a : α}
    (h : (pool.run handle before).threads[i]? = some (.done a)) :
    (pool.run handle later).threads[i]? = some (.done a) := by
  obtain ⟨gap, rfl⟩ := hextends
  induction gap using List.reverseRecOn with
  | nil => rwa [List.append_nil]
  | append_singleton gap turn ih =>
    rw [← List.append_assoc, Pool.run_concat]
    exact Pool.step_done ih turn

/-- What every thread knows at every moment of a run: it knows it at the start, its own
calls keep it informed, and the turns of others leave its knowledge true. -/
theorem Pool.run_knows {pool : Pool Op Ret α σ} {turns : List (Nat × ε)}
    (knows : List (Nat × ε) → Nat → Program Op Ret α → Prop)
    (start : ∀ i p, pool.threads[i]? = some p → knows [] i p)
    (own : ∀ before turn op rest, before ++ [turn] <+: turns →
      (pool.run handle before).threads[turn.1]? = some (.call op rest) →
      knows before turn.1 (.call op rest) →
      knows (before ++ [turn]) turn.1 (rest (handle op turn.2 (pool.run handle before).state).1))
    (stable : ∀ before turn i p, before ++ [turn] <+: turns → knows before i p →
      knows (before ++ [turn]) i p)
    {before : List (Nat × ε)} (hbefore : before <+: turns) {i : Nat} {p : Program Op Ret α}
    (h : (pool.run handle before).threads[i]? = some p) : knows before i p := by
  induction before using List.reverseRecOn generalizing i p with
  | nil => exact start i p h
  | append_singleton before turn ih =>
    have hearlier : before <+: turns := (List.prefix_append before [turn]).trans hbefore
    rw [Pool.run_concat] at h
    by_cases hi : i = turn.1
    · subst hi
      rcases (pool.run handle before).step_cases handle turn with
        hidle | ⟨op, rest, hthread, _⟩
      · rw [hidle] at h
        exact stable before turn _ p hbefore (ih hearlier h)
      · rw [(Pool.step_own hthread).1] at h
        cases h
        exact own before turn op rest hbefore hthread (ih hearlier hthread)
    · rw [Pool.step_other hi] at h
      exact stable before turn i p hbefore (ih hearlier h)

end Programs
