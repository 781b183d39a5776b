import Fcmr.Library.Machines
import Mathlib.Data.Nat.ModEq
import Mathlib.Logic.Function.Basic

/-! A family of cells, each with a log. An input is for one cell; it is refused, or what it
results in is logged and decides what the cell holds next. No cell depends on another one,
and each log is a chain of changes from what its cell held at first. -/
namespace Journals

open Machines

variable {κ σ ι ρ : Type*} [DecidableEq κ]

structure Journal (κ σ ρ : Type*) where
  cell : κ → Option σ
  log : κ → List ρ

/-- What an input results in, and what a result leaves in the cell. -/
structure Rule (σ ι ρ : Type*) where
  accept : σ → ι → Option ρ
  content : ρ → σ

def Journal.record (rule : Rule σ ι ρ) (journal : Journal κ σ ρ) (k : κ) (r : ρ) :
    Journal κ σ ρ where
  cell := Function.update journal.cell k (some (rule.content r))
  log := Function.update journal.log k (journal.log k ++ [r])

def answer (rule : Rule σ ι ρ) (journal : Journal κ σ ρ) (input : κ × ι) : Option ρ :=
  (journal.cell input.1).bind (rule.accept · input.2)

def step (rule : Rule σ ι ρ) : Machine (Journal κ σ ρ) (κ × ι) := fun journal input =>
  (answer rule journal input).map (journal.record rule input.1)

/-- What a run accepts for one cell. -/
def accepted (rule : Rule σ ι ρ) : Journal κ σ ρ → κ → List (κ × ι) → List (ι × ρ)
  | _, _, [] => []
  | journal, k, input :: inputs =>
    ((answer rule journal input).toList.filter fun _ => input.1 = k).map (input.2, ·) ++
      accepted rule (next (step rule) journal input) k inputs

inductive Chain (related : σ → ι → ρ → Prop) (content : ρ → σ) : σ → List (ι × ρ) → Prop
  | nil (s : σ) : Chain related content s []
  | cons {s : σ} {i : ι} {r : ρ} {changes : List (ι × ρ)} (change : related s i r)
      (rest : Chain related content (content r) changes) :
      Chain related content s ((i, r) :: changes)

def final (content : ρ → σ) (s : σ) (changes : List (ι × ρ)) : σ :=
  (changes.getLast?.map fun change => content change.2).getD s

theorem final_cons {content : ρ → σ} (s : σ) (change : ι × ρ) (changes : List (ι × ρ)) :
    final content s (change :: changes) = final content (content change.2) changes := by
  unfold final
  rw [List.getLast?_cons]
  cases changes.getLast? with
  | none => rfl
  | some last => rfl

theorem Chain.imp {related related' : σ → ι → ρ → Prop} {content : ρ → σ}
    (himp : ∀ s i r, related s i r → related' s i r) {s : σ} {changes : List (ι × ρ)}
    (h : Chain related content s changes) : Chain related' content s changes := by
  induction h with
  | nil s => exact .nil s
  | cons change _ ih => exact .cons (himp _ _ _ change) ih

theorem Chain.final_invariant {related : σ → ι → ρ → Prop} {content : ρ → σ} {P : σ → Prop}
    (hrelated : ∀ s i r, P s → related s i r → P (content r)) {s : σ} (hs : P s)
    {changes : List (ι × ρ)} (h : Chain related content s changes) :
    P (final content s changes) := by
  induction h with
  | nil s => exact hs
  | cons change _ ih =>
    rw [final_cons]
    exact ih (hrelated _ _ _ hs change)

def held (content : ρ → σ) (s : σ) (changes : List (ι × ρ)) : List σ :=
  s :: changes.map fun change => content change.2

theorem final_mem_held (content : ρ → σ) (s : σ) (changes : List (ι × ρ)) :
    final content s changes ∈ held content s changes := by
  unfold final held
  cases hlast : changes.getLast? with
  | none => exact List.mem_cons_self
  | some change =>
    exact List.mem_cons_of_mem _ (List.mem_map_of_mem (List.mem_of_getLast? hlast))

theorem Chain.stamp_eq {related : σ → ι → ρ → Prop} {content : ρ → σ} {stamp : σ → ℕ} {n : ℕ}
    (hstamp : ∀ s i r, related s i r → stamp (content r) = (stamp s + 1) % n) {s : σ}
    {changes : List (ι × ρ)} (h : Chain related content s changes) (hs : stamp s < n) {i : ℕ}
    {held_i : σ} (hi : (held content s changes)[i]? = some held_i) :
    stamp held_i = (stamp s + i) % n := by
  induction h generalizing i with
  | nil s =>
    cases i with
    | zero =>
      cases hi
      rw [Nat.add_zero, Nat.mod_eq_of_lt hs]
    | succ i => simp [held] at hi
  | @cons s _ r changes change rest ih =>
    cases i with
    | zero =>
      cases hi
      rw [Nat.add_zero, Nat.mod_eq_of_lt hs]
    | succ i =>
      have hnext := hstamp _ _ _ change
      have hlt : stamp (content r) < n := hnext ▸ Nat.mod_lt _ (Nat.zero_lt_of_lt hs)
      rw [ih hlt hi, hnext, Nat.mod_add_mod, Nat.add_right_comm, Nat.add_assoc]

theorem Chain.stamp_inj {related : σ → ι → ρ → Prop} {content : ρ → σ} {stamp : σ → ℕ} {n : ℕ}
    (hstamp : ∀ s i r, related s i r → stamp (content r) = (stamp s + 1) % n) {s : σ}
    {changes : List (ι × ρ)} (h : Chain related content s changes) (hs : stamp s < n)
    (hlength : changes.length < n) {a b : σ} (ha : a ∈ held content s changes)
    (hb : b ∈ held content s changes) (hsame : stamp a = stamp b) : a = b := by
  obtain ⟨i, hi⟩ := List.mem_iff_getElem?.mp ha
  obtain ⟨j, hj⟩ := List.mem_iff_getElem?.mp hb
  have hilt : i < n := by
    have hlt := (List.getElem?_eq_some_iff.mp hi).1
    rw [held, List.length_cons, List.length_map] at hlt
    omega
  have hjlt : j < n := by
    have hlt := (List.getElem?_eq_some_iff.mp hj).1
    rw [held, List.length_cons, List.length_map] at hlt
    omega
  rw [h.stamp_eq hstamp hs hi, h.stamp_eq hstamp hs hj] at hsame
  have hij : i = j := by
    have hmod : i % n = j % n := Nat.ModEq.add_left_cancel' (stamp s) hsame
    rwa [Nat.mod_eq_of_lt hilt, Nat.mod_eq_of_lt hjlt] at hmod
  subst hij
  exact Option.some.inj (hi.symm.trans hj)

variable {rule : Rule σ ι ρ} {journal : Journal κ σ ρ} {k : κ}

theorem next_of_refused {input : κ × ι} (h : answer rule journal input = none) :
    next (step rule) journal input = journal :=
  Machines.next_of_refused (by rw [step, h, Option.map_none])

theorem next_of_answer {input : κ × ι} {r : ρ} (h : answer rule journal input = some r) :
    next (step rule) journal input = journal.record rule input.1 r :=
  Machines.next_of_accepted (by rw [step, h, Option.map_some])

theorem next_other (rule : Rule σ ι ρ) (journal : Journal κ σ ρ) {input : κ × ι}
    (h : input.1 ≠ k) :
    (next (step rule) journal input).cell k = journal.cell k ∧
      (next (step rule) journal input).log k = journal.log k := by
  cases hanswer : answer rule journal input with
  | none =>
    rw [next_of_refused hanswer]
    exact ⟨rfl, rfl⟩
  | some r =>
    rw [next_of_answer hanswer]
    exact ⟨Function.update_of_ne h.symm _ _, Function.update_of_ne h.symm _ _⟩

theorem next_self {input : κ × ι} {r : ρ} (hk : input.1 = k)
    (h : answer rule journal input = some r) :
    (next (step rule) journal input).cell k = some (rule.content r) ∧
      (next (step rule) journal input).log k = journal.log k ++ [r] := by
  subst hk
  rw [next_of_answer h]
  exact ⟨Function.update_self .., Function.update_self ..⟩

theorem accepted_cons_other {input : κ × ι} {inputs : List (κ × ι)} (h : input.1 ≠ k) :
    accepted rule journal k (input :: inputs) =
      accepted rule (next (step rule) journal input) k inputs := by
  rw [accepted]
  simp [h]

theorem accepted_cons_refused {input : κ × ι} {inputs : List (κ × ι)}
    (h : answer rule journal input = none) :
    accepted rule journal k (input :: inputs) = accepted rule journal k inputs := by
  rw [accepted, h, next_of_refused h]
  rfl

theorem accepted_cons_self {input : κ × ι} {inputs : List (κ × ι)} {r : ρ} (hk : input.1 = k)
    (h : answer rule journal input = some r) :
    accepted rule journal k (input :: inputs) =
      (input.2, r) :: accepted rule (next (step rule) journal input) k inputs := by
  rw [accepted, h]
  simp [hk]

/-- A cell at the end of a run holds what its last accepted change left, its log has
grown by the accepted changes, and these form a chain. -/
theorem run_cell (rule : Rule σ ι ρ) {s : σ} (h : journal.cell k = some s) (inputs : List (κ × ι)) :
    (run (step rule) journal inputs).cell k =
        some (final rule.content s (accepted rule journal k inputs)) ∧
      (run (step rule) journal inputs).log k =
        journal.log k ++ (accepted rule journal k inputs).map (·.2) ∧
      Chain (fun s i r => rule.accept s i = some r) rule.content s
        (accepted rule journal k inputs) := by
  induction inputs generalizing journal s with
  | nil => exact ⟨h, (List.append_nil _).symm, .nil s⟩
  | cons input inputs ih =>
    rw [run_cons]
    by_cases hk : input.1 = k
    · cases hanswer : answer rule journal input with
      | none =>
        rw [accepted_cons_refused hanswer, next_of_refused hanswer]
        exact ih h
      | some r =>
        obtain ⟨hcell, hlog⟩ := next_self hk hanswer
        obtain ⟨hfinal, hgrown, hchain⟩ := ih hcell
        have haccept : rule.accept s input.2 = some r := by
          rw [answer, hk, h] at hanswer
          exact hanswer
        rw [accepted_cons_self hk hanswer, final_cons]
        refine ⟨hfinal, ?_, .cons haccept hchain⟩
        rw [hgrown, hlog, List.append_assoc]
        rfl
    · obtain ⟨hcell, hlog⟩ := next_other rule journal hk
      rw [accepted_cons_other hk, ← hlog]
      exact ih (hcell.trans h)

theorem run_empty (rule : Rule σ ι ρ) (h : journal.cell k = none) (inputs : List (κ × ι)) :
    (run (step rule) journal inputs).cell k = none ∧
      (run (step rule) journal inputs).log k = journal.log k ∧
      accepted rule journal k inputs = [] := by
  induction inputs generalizing journal with
  | nil => exact ⟨h, rfl, rfl⟩
  | cons input inputs ih =>
    rw [run_cons]
    by_cases hk : input.1 = k
    · have hanswer : answer rule journal input = none := by
        rw [answer, hk, h]
        rfl
      rw [accepted_cons_refused hanswer, next_of_refused hanswer]
      exact ih h
    · obtain ⟨hcell, hlog⟩ := next_other rule journal hk
      rw [accepted_cons_other hk, ← hlog]
      exact ih (hcell.trans h)

end Journals
