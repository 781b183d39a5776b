import Mathlib.Data.List.Basic

/-! Machines that answer every input, accepting or refusing it: a refused input leaves
the state as it is. At the end, runs of a step function under a condition on each step. -/
namespace Machines

variable {σ ι : Type*}

/-- `none` is a refusal. -/
abbrev Machine (σ ι : Type*) := σ → ι → Option σ

def next (step : Machine σ ι) (s : σ) (i : ι) : σ := (step s i).getD s

def run (step : Machine σ ι) : σ → List ι → σ := List.foldl (next step)

variable {step : Machine σ ι}

@[simp] theorem run_cons (s : σ) (i : ι) (inputs : List ι) :
    run step s (i :: inputs) = run step (next step s i) inputs := rfl

theorem run_append (s : σ) (inputs inputs' : List ι) :
    run step s (inputs ++ inputs') = run step (run step s inputs) inputs' := List.foldl_append

theorem next_of_refused {s : σ} {i : ι} (h : step s i = none) : next step s i = s := by
  rw [next, h, Option.getD_none]

theorem next_of_accepted {s s' : σ} {i : ι} (h : step s i = some s') : next step s i = s' := by
  rw [next, h, Option.getD_some]

theorem run_invariant {P : σ → Prop} (hstep : ∀ s i s', P s → step s i = some s' → P s')
    {s : σ} (hs : P s) (inputs : List ι) : P (run step s inputs) := by
  induction inputs generalizing s with
  | nil => exact hs
  | cons i inputs ih =>
    apply ih
    cases h : step s i with
    | none => rwa [next_of_refused h]
    | some s' =>
      rw [next_of_accepted h]
      exact hstep s i s' hs h

/-- A cell that is written once: an input is accepted only while the cell is open, and
closes it. -/
structure WriteOnce (step : Machine σ ι) (closed : σ → Prop) : Prop where
  refused : ∀ s i, closed s → step s i = none
  closes : ∀ s i s', step s i = some s' → closed s'

variable {closed : σ → Prop}

theorem WriteOnce.run_of_closed (h : WriteOnce step closed) {s : σ} (hs : closed s)
    (inputs : List ι) : run step s inputs = s := by
  induction inputs with
  | nil => rfl
  | cons i inputs ih => rw [run_cons, next_of_refused (h.refused s i hs), ih]

/-- Either every input of a run is refused, or exactly one is accepted and decides the
state in which the run ends. -/
theorem WriteOnce.run_cases (h : WriteOnce step closed) (s : σ) (inputs : List ι) :
    (run step s inputs = s ∧ ∀ i ∈ inputs, step s i = none) ∨
    ∃ before i after s', inputs = before ++ i :: after ∧ run step s before = s ∧
      step s i = some s' ∧ run step s inputs = s' := by
  induction inputs with
  | nil => exact .inl ⟨rfl, by simp⟩
  | cons i inputs ih =>
    cases hi : step s i with
    | some s' =>
      right
      refine ⟨[], i, inputs, s', rfl, rfl, hi, ?_⟩
      rw [run_cons, next_of_accepted hi, h.run_of_closed (h.closes s i s' hi)]
    | none =>
      rw [run_cons, next_of_refused hi]
      rcases ih with ⟨hrun, hall⟩ | ⟨before, j, after, s', rfl, hbefore, hj, hrun⟩
      · left
        exact ⟨hrun, List.forall_mem_cons.mpr ⟨hi, hall⟩⟩
      · right
        refine ⟨i :: before, j, after, s', rfl, ?_, hj, hrun⟩
        rw [run_cons, next_of_refused hi, hbefore]

theorem WriteOnce.run_of_accepted (h : WriteOnce step closed) {s s' : σ} {before after : List ι}
    {i : ι} (hi : step (run step s before) i = some s') :
    run step s before = s ∧ run step s (before ++ i :: after) = s' := by
  have hopen : ¬closed (run step s before) := by
    intro hclosed
    rw [h.refused _ i hclosed] at hi
    cases hi
  refine ⟨?_, ?_⟩
  · rcases h.run_cases s before with ⟨hrun, _⟩ | ⟨_, j, _, s'', _, _, hj, hrun⟩
    · exact hrun
    · exact absurd (hrun ▸ h.closes s j s'' hj) hopen
  · rw [run_append, run_cons, next_of_accepted hi, h.run_of_closed (h.closes _ i s' hi)]

theorem WriteOnce.refused_after (h : WriteOnce step closed) {s : σ} {before middle : List ι} {i : ι}
    (hi : (step (run step s before) i).isSome) (j : ι) :
    step (run step s (before ++ i :: middle)) j = none := by
  obtain ⟨s', hs'⟩ := Option.isSome_iff_exists.mp hi
  rw [(h.run_of_accepted hs').2]
  exact h.refused s' j (h.closes _ i s' hs')

theorem WriteOnce.accepted_unique (h : WriteOnce step closed) {s : σ} {before before' : List ι}
    {after after' : List ι} {i i' : ι} (hsplit : before ++ i :: after = before' ++ i' :: after')
    (hi : (step (run step s before) i).isSome) (hi' : (step (run step s before') i').isSome) :
    before = before' ∧ i = i' ∧ after = after' := by
  have hlater {b b' a : List ι} {j j' : ι} (hb : b' = b ++ j :: a)
      (hj : (step (run step s b) j).isSome) (hj' : (step (run step s b') j').isSome) : False := by
    rw [hb, h.refused_after hj] at hj'
    cases hj'
  rcases List.append_eq_append_iff.mp hsplit with ⟨gap, hbefore, htail⟩ | ⟨gap, hbefore, htail⟩
  · cases gap with
    | nil =>
      obtain ⟨rfl, rfl⟩ := List.cons.inj htail
      exact ⟨by simpa using hbefore.symm, rfl, rfl⟩
    | cons j gap =>
      obtain ⟨rfl, _⟩ := List.cons.inj htail
      exact (hlater hbefore hi hi').elim
  · cases gap with
    | nil =>
      obtain ⟨rfl, rfl⟩ := List.cons.inj htail
      exact ⟨by simpa using hbefore, rfl, rfl⟩
    | cons j gap =>
      obtain ⟨rfl, _⟩ := List.cons.inj htail
      exact (hlater hbefore hi' hi).elim

/-- Every step of a run meets a condition on the state before it. -/
def Throughout (step : σ → ι → σ) (condition : σ → ι → Prop) : σ → List ι → Prop
  | _, [] => True
  | s, i :: inputs => condition s i ∧ Throughout step condition (step s i) inputs

theorem throughout_append {step : σ → ι → σ} {condition : σ → ι → Prop} {s : σ}
    {before after : List ι} : Throughout step condition s (before ++ after) ↔
      Throughout step condition s before ∧
        Throughout step condition (before.foldl step s) after := by
  induction before generalizing s with
  | nil => exact (iff_of_eq (true_and _)).symm
  | cons i before ih => rw [List.cons_append, Throughout, Throughout, ih, and_assoc, List.foldl_cons]

theorem Throughout.invariant {step : σ → ι → σ} {condition : σ → ι → Prop} {P : σ → Prop}
    (hstep : ∀ s i, P s → condition s i → P (step s i)) {s : σ} (hs : P s) {inputs : List ι}
    (h : Throughout step condition s inputs) : P (inputs.foldl step s) := by
  induction inputs generalizing s with
  | nil => exact hs
  | cons i inputs ih => exact ih (hstep s i hs h.1) h.2

end Machines
