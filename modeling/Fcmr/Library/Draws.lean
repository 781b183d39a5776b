import Mathlib.Data.List.Nodup
import Mathlib.Data.List.Perm.Basic

/-! Draws from a state that may fail: one element after the other, and the exchange of
elements that are drawn. -/
namespace Draws

/-- `none` is a failure, after which nothing is drawn. -/
abbrev Draw (σ α : Type) := StateT σ Option α

variable {σ α β κ : Type}

theorem run_bind_eq_some {draw : Draw σ α} {rest : α → Draw σ β} {s : σ} {result : β × σ} :
    (draw >>= rest).run s = some result ↔
      ∃ a s', draw.run s = some (a, s') ∧ (rest a).run s' = some result := by
  rw [StateT.run_bind, Option.bind_eq_bind, Option.bind_eq_some_iff, Prod.exists]

theorem run_bind_of_run {draw : Draw σ α} {rest : α → Draw σ β} {s s' : σ} {a : α}
    (h : draw.run s = some (a, s')) : (draw >>= rest).run s = (rest a).run s' := by
  rw [StateT.run_bind, h]
  rfl

theorem run_pure_eq_some {a : α} {s : σ} {result : α × σ} :
    (pure a : Draw σ α).run s = some result ↔ (a, s) = result := by
  rw [StateT.run_pure, Option.pure_def, Option.some.injEq]

def ofOption (a : Option α) : Draw σ α := StateT.lift a

@[simp] theorem run_ofOption_bind {a : Option α} {rest : α → Draw σ β} {s : σ} :
    (ofOption a >>= rest).run s = a.bind fun a => (rest a).run s := by
  cases a with
  | none => rfl
  | some a => rfl

theorem run_ofOption_eq_some {a : Option α} {s : σ} {result : α × σ} :
    (ofOption a).run s = some result ↔ a = some result.1 ∧ s = result.2 := by
  cases a with
  | none => simp [ofOption]
  | some a =>
    simp [ofOption, Prod.ext_iff]

def Ensures (draw : Draw σ α) (P : α → Prop) : Prop :=
  ∀ s a s', draw.run s = some (a, s') → P a

def Total (draw : Draw σ α) : Prop := ∀ s, ∃ a s', draw.run s = some (a, s')

section

variable {draw : Draw σ α} {rest : α → Draw σ β} {P : β → Prop} {Q : α → Prop}

theorem ensures_pure {b : β} (h : P b) : Ensures (pure b : Draw σ β) P := by
  intro s a s' hrun
  cases run_pure_eq_some.mp hrun
  exact h

theorem ensures_bind (hdraw : Ensures draw Q) (hrest : ∀ a, Q a → Ensures (rest a) P) :
    Ensures (draw >>= rest) P := by
  intro s b s' hrun
  obtain ⟨a, middle, ha, hb⟩ := run_bind_eq_some.mp hrun
  exact hrest a (hdraw s a middle ha) middle b s' hb

theorem ensures_then (hrest : ∀ a, Ensures (rest a) P) : Ensures (draw >>= rest) P :=
  ensures_bind (Q := fun _ => True) (fun _ _ _ _ => trivial) fun a _ => hrest a

theorem total_pure (a : α) : Total (pure a : Draw σ α) := fun s => ⟨a, s, rfl⟩

theorem total_bind (hdraw : Total draw) (hrest : ∀ a, Total (rest a)) : Total (draw >>= rest) := by
  intro s
  obtain ⟨a, middle, ha⟩ := hdraw s
  obtain ⟨b, s', hb⟩ := hrest a middle
  exact ⟨b, s', run_bind_eq_some.mpr ⟨a, middle, ha, hb⟩⟩

end

def collect (draw : Nat → Draw σ α) : (count first : Nat) → Draw σ (List α)
  | 0, _ => pure []
  | count + 1, first => do
    let a ← draw first
    let rest ← collect draw count (first + 1)
    return a :: rest

section

variable {draw : Nat → Draw σ α}

theorem run_collect_zero {first : Nat} {s : σ} {result : List α × σ} :
    (collect draw 0 first).run s = some result ↔ ([], s) = result :=
  run_pure_eq_some

theorem run_collect_succ {count first : Nat} {s s' : σ} {items : List α} :
    (collect draw (count + 1) first).run s = some (items, s') ↔
      ∃ a middle rest, (draw first).run s = some (a, middle) ∧
        (collect draw count (first + 1)).run middle = some (rest, s') ∧ a :: rest = items := by
  simp only [collect, run_bind_eq_some, run_pure_eq_some, Prod.mk.injEq]
  constructor
  · rintro ⟨a, middle, ha, rest, last, hrest, hitems, rfl⟩
    exact ⟨a, middle, rest, ha, hrest, hitems⟩
  · rintro ⟨a, middle, rest, ha, hrest, hitems⟩
    exact ⟨a, middle, ha, rest, s', hrest, hitems, rfl⟩

theorem length_of_collect {count first : Nat} {s s' : σ} {items : List α}
    (h : (collect draw count first).run s = some (items, s')) : items.length = count := by
  induction count generalizing first s items with
  | zero =>
    cases run_collect_zero.mp h
    rfl
  | succ count ih =>
    obtain ⟨_, _, _, _, hrest, rfl⟩ := run_collect_succ.mp h
    rw [List.length_cons, ih hrest]

theorem collect_spec {I : σ → Prop} {P : Nat → α → Prop}
    (hdraw : ∀ i s a s', I s → (draw i).run s = some (a, s') → P i a ∧ I s') {count first : Nat}
    {s s' : σ} {items : List α} (hs : I s)
    (h : (collect draw count first).run s = some (items, s')) :
    (∀ i a, items[i]? = some a → P (first + i) a) ∧ I s' := by
  induction count generalizing first s items with
  | zero =>
    cases run_collect_zero.mp h
    exact ⟨nofun, hs⟩
  | succ count ih =>
    obtain ⟨b, middle, rest, hb, hrest, rfl⟩ := run_collect_succ.mp h
    obtain ⟨hfirst, hmiddle⟩ := hdraw first s b middle hs hb
    obtain ⟨hitems, hs'⟩ := ih hmiddle hrest
    refine ⟨?_, hs'⟩
    intro i a hi
    cases i with
    | zero =>
      cases hi
      exact hfirst
    | succ i =>
      rw [show first + (i + 1) = first + 1 + i by omega]
      exact hitems i a hi

theorem ensures_collect {P : Nat → α → Prop} (hdraw : ∀ i, Ensures (draw i) (P i)) {count : Nat}
    {s s' : σ} {items : List α} (h : (collect draw count 0).run s = some (items, s')) (i : Nat) (a : α)
    (ha : items[i]? = some a) : P i a := by
  have hspec := (collect_spec (I := fun _ => True)
    (fun i s a s' _ hrun => ⟨hdraw i s a s' hrun, trivial⟩) trivial h).1 i a ha
  rwa [Nat.zero_add] at hspec

theorem collect_fewer {count more first : Nat} {s s' : σ} {items : List α} (hle : count ≤ more)
    (h : (collect draw more first).run s = some (items, s')) :
    ∃ before middle, (collect draw count first).run s = some (before, middle) ∧ before <+: items := by
  induction count generalizing more first s items with
  | zero => exact ⟨[], s, rfl, List.nil_prefix⟩
  | succ count ih =>
    obtain ⟨more, rfl⟩ := Nat.exists_eq_add_of_le' (Nat.le_trans (Nat.succ_le_succ count.zero_le) hle)
    obtain ⟨a, next, rest, ha, hrest, rfl⟩ := run_collect_succ.mp h
    obtain ⟨before, middle, hbefore, hprefix⟩ := ih (Nat.le_of_succ_le_succ hle) hrest
    exact ⟨a :: before, middle, run_collect_succ.mpr ⟨a, next, before, ha, hbefore, rfl⟩,
      List.cons_prefix_cons.mpr ⟨rfl, hprefix⟩⟩

theorem collect_total {I : σ → Prop}
    (hdraw : ∀ i s, I s → ∃ a s', (draw i).run s = some (a, s') ∧ I s') (count first : Nat) {s : σ}
    (hs : I s) : ∃ items s', (collect draw count first).run s = some (items, s') ∧ I s' := by
  induction count generalizing first s with
  | zero => exact ⟨[], s, rfl, hs⟩
  | succ count ih =>
    obtain ⟨a, middle, ha, hmiddle⟩ := hdraw first s hs
    obtain ⟨rest, s', hrest, hs'⟩ := ih (first + 1) hmiddle
    exact ⟨a :: rest, s', run_collect_succ.mpr ⟨a, middle, rest, ha, hrest, rfl⟩, hs'⟩

theorem total_collect (hdraw : ∀ i, Total (draw i)) (count first : Nat) :
    Total (collect draw count first) := by
  intro s
  obtain ⟨items, s', hitems, _⟩ := collect_total (I := fun _ => True)
    (fun i s _ => (hdraw i s).imp fun _ => .imp fun _ h => ⟨h, trivial⟩) count first (s := s) trivial
  exact ⟨items, s', hitems⟩

/-- Two collections from one state are equal just when each draw of the one is what the other
would have drawn there, if equal elements leave equal states. -/
theorem collect_eq_iff {draw' : Nat → Draw σ α} {Alike : Nat → σ → Prop}
    (hdraw : ∀ i s a a' next next', (draw i).run s = some (a, next) →
      (draw' i).run s = some (a', next') → (a = a' ↔ Alike i s) ∧ (a = a' → next = next'))
    {count first : Nat} {s last last' : σ} {items items' : List α}
    (h : (collect draw count first).run s = some (items, last))
    (h' : (collect draw' count first).run s = some (items', last')) :
    (items = items' ↔ ∀ k < count, ∀ before middle,
      (collect draw k first).run s = some (before, middle) → Alike (first + k) middle) ∧
    (items = items' → last = last') := by
  induction count generalizing first s items items' with
  | zero =>
    cases run_collect_zero.mp h
    cases run_collect_zero.mp h'
    exact ⟨⟨fun _ _ hk => absurd hk (Nat.not_lt_zero _), fun _ => rfl⟩, fun _ => rfl⟩
  | succ count ih =>
    obtain ⟨a, next, rest, ha, hrest, rfl⟩ := run_collect_succ.mp h
    obtain ⟨a', next', rest', ha', hrest', rfl⟩ := run_collect_succ.mp h'
    obtain ⟨halike, hnext⟩ := hdraw first s a a' next next' ha ha'
    rw [List.cons.injEq]
    refine ⟨⟨?_, ?_⟩, ?_⟩
    · rintro ⟨rfl, hitems⟩ k hk before middle hbefore
      cases hnext rfl
      cases k with
      | zero =>
        cases run_collect_zero.mp hbefore
        exact halike.mp rfl
      | succ k =>
        obtain ⟨_, _, before, hfirst, hbefore, rfl⟩ := run_collect_succ.mp hbefore
        cases ha.symm.trans hfirst
        rw [show first + (k + 1) = first + 1 + k by omega]
        exact (ih hrest hrest').1.mp hitems k (Nat.lt_of_succ_lt_succ hk) before middle hbefore
    · intro hall
      obtain rfl := halike.mpr (hall 0 (Nat.succ_pos count) [] s rfl)
      cases hnext rfl
      refine ⟨rfl, (ih hrest hrest').1.mpr ?_⟩
      intro k hk before middle hbefore
      rw [show first + 1 + k = first + (k + 1) by omega]
      exact hall (k + 1) (Nat.succ_lt_succ hk) (a :: before) middle
        (run_collect_succ.mpr ⟨a, next, before, ha, hbefore, rfl⟩)
    · rintro ⟨rfl, hitems⟩
      cases hnext rfl
      exact (ih hrest hrest').2 hitems

end

def exchange (items : Array α) (i j : Nat) : Option (Array α) :=
  if h : i < items.size ∧ j < items.size then some (items.swap i j h.1 h.2) else none

theorem exchange_perm {items swapped : Array α} {i j : Nat} (h : exchange items i j = some swapped) :
    swapped.Perm items := by
  unfold exchange at h
  split at h
  · cases h
    exact Array.swap_perm ..
  · cases h

def shuffle (choose : Nat → Draw σ Nat) : (last : Nat) → Array α → Draw σ (Array α)
  | 0, items => pure items
  | last + 1, items => do
    let j ← choose (last + 2)
    let items ← ofOption (exchange items (last + 1) j)
    shuffle choose last items

theorem shuffle_perm {choose : Nat → Draw σ Nat} {last : Nat} {items shuffled : Array α} {s s' : σ}
    (h : (shuffle choose last items).run s = some (shuffled, s')) : shuffled.Perm items := by
  induction last generalizing items s with
  | zero =>
    cases run_pure_eq_some.mp h
    exact .refl _
  | succ last ih =>
    obtain ⟨j, middle, _, h⟩ := run_bind_eq_some.mp h
    obtain ⟨swapped, _, hswapped, h⟩ := run_bind_eq_some.mp h
    exact (ih h).trans (exchange_perm (run_ofOption_eq_some.mp hswapped).1)

theorem shuffle_total {choose : Nat → Draw σ Nat}
    (hchoose : ∀ n s, 0 < n → ∃ j s', (choose n).run s = some (j, s') ∧ j < n) {last : Nat}
    {items : Array α} (hlast : last < items.size ∨ last = 0) (s : σ) :
    ∃ result, (shuffle choose last items).run s = some result := by
  induction last generalizing items s with
  | zero => exact ⟨(items, s), rfl⟩
  | succ last ih =>
    have hsize : last + 1 < items.size := hlast.resolve_right (Nat.succ_ne_zero last)
    obtain ⟨j, middle, hj, hlt⟩ := hchoose (last + 2) s (Nat.succ_pos _)
    have hbounds : last + 1 < items.size ∧ j < items.size := ⟨hsize, by omega⟩
    have hswapped : exchange items (last + 1) j = some (items.swap (last + 1) j hbounds.1 hbounds.2) :=
      dif_pos hbounds
    have hrest : last < (items.swap (last + 1) j hbounds.1 hbounds.2).size := by
      rw [Array.size_swap]
      omega
    obtain ⟨result, hresult⟩ := ih (.inl hrest) middle
    refine ⟨result, run_bind_eq_some.mpr ⟨j, middle, hj, run_bind_eq_some.mpr ?_⟩⟩
    exact ⟨_, middle, run_ofOption_eq_some.mpr ⟨hswapped, rfl⟩, hresult⟩

theorem eq_of_perm {key : α → κ} {l l' : List α} (h : l.Perm l') (hkeys : l.map key = l'.map key)
    (hnodup : (l.map key).Nodup) : l = l' := by
  apply List.ext_getElem h.length_eq
  intro i hi hi'
  have hkey : key l[i] = key l'[i] := by
    have hmap := congrArg (·[i]?) hkeys
    simpa [hi, hi'] using hmap
  have hmem : l'[i] ∈ l := h.mem_iff.mpr (List.getElem_mem hi')
  exact List.inj_on_of_nodup_map hnodup (List.getElem_mem hi) hmem hkey

end Draws
