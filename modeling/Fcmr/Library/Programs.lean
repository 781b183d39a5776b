import Mathlib.Data.List.Forall2

/-! Programs as trees of calls to a stateful component. A call is the unit of
interleaving: between two calls of a program anything may happen to the state, and a
program may be abandoned there. -/
namespace Programs

inductive Program (Op : Type) (Ret : Op → Type) (α : Type) : Type
  | done (a : α)
  | call (op : Op) (rest : Ret op → Program Op Ret α)

variable {Op : Type} {Ret : Op → Type} {α β σ ε Φ : Type}

def Program.bind : Program Op Ret α → (α → Program Op Ret β) → Program Op Ret β
  | .done a, f => f a
  | .call op rest, f => .call op fun r => (rest r).bind f

instance instMonadProgram : Monad (Program Op Ret) where
  pure := .done
  bind := .bind

def perform (op : Op) : Program Op Ret (Ret op) := .call op .done

@[simp] theorem perform_bind (op : Op) (f : Ret op → Program Op Ret β) :
    perform op >>= f = .call op f := rfl

@[simp] theorem pure_eq_done (a : α) : (pure a : Program Op Ret α) = .done a := rfl

def Program.isDone : Program Op Ret α → Bool
  | .done _ => true
  | .call .. => false

/-- What a call returns and does to the state, given what the environment supplies at
that moment. -/
abbrev Handler (Op : Type) (Ret : Op → Type) (σ ε : Type) := (op : Op) → ε → σ → Ret op × σ

/-- A program on its own, to its end. -/
def eval (handle : Handler Op Ret σ ε) : Program Op Ret α → (Nat → ε) → σ → α × σ
  | .done a, _, s => (a, s)
  | .call op rest, inputs, s =>
    eval handle (rest (handle op (inputs 0) s).1) (fun n => inputs (n + 1))
      (handle op (inputs 0) s).2

def step (handle : Handler Op Ret σ ε) (input : ε) :
    Program Op Ret α × σ → Program Op Ret α × σ
  | (.done a, s) => (.done a, s)
  | (.call op rest, s) => (rest (handle op input s).1, (handle op input s).2)

def advance (handle : Handler Op Ret σ ε) :
    List ε → Program Op Ret α × σ → Program Op Ret α × σ
  | [], current => current
  | input :: inputs, current => advance handle inputs (step handle input current)

/-- The calls that `advance` makes. -/
def calls (handle : Handler Op Ret σ ε) : List ε → Program Op Ret α × σ → List Op
  | [], _ => []
  | _, (.done _, _) => []
  | input :: inputs, (.call op rest, s) =>
    op :: calls handle inputs (step handle input (.call op rest, s))

variable {handle : Handler Op Ret σ ε}

@[simp] theorem advance_done (inputs : List ε) (a : α) (s : σ) :
    advance handle inputs (.done a, s) = (.done a, s) := by
  induction inputs with
  | nil => rfl
  | cons input inputs ih => exact ih

theorem eval_of_advance [Inhabited ε] {inputs : List ε} {p : Program Op Ret α} {s s' : σ} {a : α}
    (h : advance handle inputs (p, s) = (.done a, s')) :
    eval handle p (fun n => inputs.getD n default) s = (a, s') := by
  induction inputs generalizing p s with
  | nil =>
    obtain ⟨rfl, rfl⟩ := Prod.mk.inj h
    rfl
  | cons input inputs ih =>
    cases p with
    | done b =>
      rw [advance_done] at h
      obtain ⟨hb, rfl⟩ := Prod.mk.inj h
      cases hb
      rfl
    | call op rest => exact ih h

theorem advance_untouched (writes : Op → Prop)
    (hread : ∀ op input s, ¬writes op → (handle op input s).2 = s) {inputs : List ε}
    {p : Program Op Ret α} {s : σ} (h : ∀ op ∈ calls handle inputs (p, s), ¬writes op) :
    (advance handle inputs (p, s)).2 = s := by
  induction inputs generalizing p s with
  | nil => rfl
  | cons input inputs ih =>
    cases p with
    | done a => rw [advance_done]
    | call op rest =>
      obtain ⟨hop, hrest⟩ := List.forall_mem_cons.mp h
      have hsame := hread op input s hop
      rw [step, hsame] at hrest
      rw [advance, step, hsame]
      exact ih hrest

structure Pool (Op : Type) (Ret : Op → Type) (α σ : Type) where
  threads : List (Program Op Ret α)
  state : σ

/-- The next call of one thread. -/
def Pool.step (handle : Handler Op Ret σ ε) (pool : Pool Op Ret α σ) (turn : Nat × ε) :
    Pool Op Ret α σ :=
  match pool.threads[turn.1]? with
  | none => pool
  | some p =>
    ⟨pool.threads.set turn.1 (Programs.step handle turn.2 (p, pool.state)).1,
      (Programs.step handle turn.2 (p, pool.state)).2⟩

/-- Any interleaving: each turn names the thread that makes the next call. -/
def Pool.run (handle : Handler Op Ret σ ε) : Pool Op Ret α σ → List (Nat × ε) → Pool Op Ret α σ :=
  List.foldl (Pool.step handle)

theorem Pool.run_append (pool : Pool Op Ret α σ) (turns turns' : List (Nat × ε)) :
    pool.run handle (turns ++ turns') = (pool.run handle turns).run handle turns' :=
  List.foldl_append

/-- An order of calls that a program keeps to, as an automaton. `answers` is what the
program may rely on about the results. -/
structure Protocol (Op : Type) (Ret : Op → Type) (α Φ : Type) where
  allows : Φ → Op → Prop
  next : Φ → Op → Φ
  answers : (op : Op) → Ret op → Prop
  finishes : Φ → α → Prop

def Protocol.Follows (protocol : Protocol Op Ret α Φ) : Program Op Ret α → Φ → Prop
  | .done a, phase => protocol.finishes phase a
  | .call op rest, phase => protocol.allows phase op ∧
    ∀ r, protocol.answers op r → protocol.Follows (rest r) (protocol.next phase op)

theorem Protocol.advance_invariant (protocol : Protocol Op Ret α Φ) {I : σ → Prop}
    (hcall : ∀ phase op input s, I s → protocol.allows phase op →
      protocol.answers op (handle op input s).1 ∧ I (handle op input s).2)
    {p : Program Op Ret α} {phase : Φ} (hfollows : protocol.Follows p phase) {s : σ} (hs : I s)
    (inputs : List ε) : I (advance handle inputs (p, s)).2 := by
  induction inputs generalizing p phase s with
  | nil => exact hs
  | cons input inputs ih =>
    cases p with
    | done a => rwa [advance_done]
    | call op rest =>
      obtain ⟨hallows, hrest⟩ := hfollows
      obtain ⟨hanswers, hs'⟩ := hcall phase op input s hs hallows
      exact ih (hrest _ hanswers) hs'

theorem forall₂_getElem? {γ δ : Type*} {R : γ → δ → Prop} {l : List γ} {l' : List δ}
    (h : List.Forall₂ R l l') {i : Nat} {a : γ} (ha : l[i]? = some a) :
    ∃ b, l'[i]? = some b ∧ R a b := by
  induction h generalizing i with
  | nil => simp at ha
  | cons hhead _ ih =>
    cases i with
    | zero =>
      cases ha
      exact ⟨_, rfl, hhead⟩
    | succ i => exact ih ha

theorem forall₂_set {γ δ : Type*} {R : γ → δ → Prop} {l : List γ} {l' : List δ}
    (h : List.Forall₂ R l l') (i : Nat) {a : γ} {b : δ} (hab : R a b) :
    List.Forall₂ R (l.set i a) (l'.set i b) := by
  induction h generalizing i with
  | nil => exact .nil
  | cons hhead htail ih =>
    cases i with
    | zero => exact .cons hab htail
    | succ i => exact .cons hhead (ih i)

theorem count_set_add {γ : Type*} [DecidableEq γ] {l : List γ} {i : Nat} {a : γ}
    (h : l[i]? = some a) (b c : γ) :
    (l.set i b).count c + (if a = c then 1 else 0) = l.count c + if b = c then 1 else 0 := by
  obtain ⟨hlt, hget⟩ := List.getElem?_eq_some_iff.mp h
  have hpos : a = c → 0 < l.count c := by
    rintro rfl
    exact List.count_pos_iff.mpr (hget ▸ List.getElem_mem hlt)
  rw [List.count_set hlt, hget]
  simp only [beq_iff_eq]
  by_cases hac : a = c
  · have hone := hpos hac
    rw [if_pos hac]
    omega
  · rw [if_neg hac]
    omega

theorem countP_le_count {γ δ : Type*} [DecidableEq δ] {R : γ → δ → Prop} {l : List γ} {l' : List δ}
    (h : List.Forall₂ R l l') {p : γ → Bool} {b : δ} (hp : ∀ a c, R a c → p a = true → c = b) :
    l.countP p ≤ l'.count b := by
  induction h with
  | nil => exact Nat.le_refl 0
  | cons hhead _ ih =>
    rename_i a c l l' _
    rw [List.countP_cons, List.count_cons]
    cases hpa : p a with
    | false => exact Nat.le_trans ih (Nat.le_add_right _ _)
    | true =>
      rw [hp a c hhead hpa]
      simpa using ih

/-- One turn of a pool whose threads follow a protocol: either nothing happens, or one
thread makes a call that its phase allows and moves on to the next phase. -/
theorem Protocol.pool_step (protocol : Protocol Op Ret α Φ)
    {pool : Pool Op Ret α σ} {phases : List Φ}
    (hfollows : List.Forall₂ protocol.Follows pool.threads phases)
    (hanswers : ∀ op input, protocol.answers op (handle op input pool.state).1)
    (turn : Nat × ε) :
    pool.step handle turn = pool ∨
    ∃ op rest phase, pool.threads[turn.1]? = some (.call op rest) ∧
      phases[turn.1]? = some phase ∧ protocol.allows phase op ∧
      (pool.step handle turn).state = (handle op turn.2 pool.state).2 ∧
      List.Forall₂ protocol.Follows (pool.step handle turn).threads
        (phases.set turn.1 (protocol.next phase op)) := by
  cases hthread : pool.threads[turn.1]? with
  | none =>
    left
    rw [Pool.step, hthread]
  | some p =>
    have hstep : pool.step handle turn =
        ⟨pool.threads.set turn.1 (Programs.step handle turn.2 (p, pool.state)).1,
          (Programs.step handle turn.2 (p, pool.state)).2⟩ := by
      rw [Pool.step, hthread]
    cases p with
    | done a =>
      left
      obtain ⟨hlt, hget⟩ := List.getElem?_eq_some_iff.mp hthread
      rw [hstep, Programs.step, ← hget, List.set_getElem_self]
    | call op rest =>
      right
      obtain ⟨phase, hphase, hallows, hrest⟩ := forall₂_getElem? hfollows hthread
      refine ⟨op, rest, phase, rfl, hphase, hallows, ?_, ?_⟩
      · rw [hstep, Programs.step]
      · rw [hstep, Programs.step]
        exact forall₂_set hfollows _ (hrest _ (hanswers op turn.2))

end Programs
