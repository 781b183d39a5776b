import Mathlib.Data.List.MinMax
import Mathlib.Data.List.Sort

/-! Sorting by a key with a stable sort. The result of a rendering of the sorted
list is independent of the order of the input exactly when elements with one key
are rendered alike. At the end, the element that comes first. -/
namespace StableSort

open List

variable {α β κ : Type*} [LinearOrder κ]

def sortBy (key : α → κ) (l : List α) : List α :=
  l.insertionSort fun a b => key a ≤ key b

variable {key : α → κ}

instance isTrans_key : IsTrans α fun a b => key a ≤ key b := ⟨fun _ _ _ => le_trans⟩
instance total_key : Std.Total fun a b : α => key a ≤ key b := ⟨fun a b => le_total (key a) (key b)⟩

theorem sortBy_perm (l : List α) : sortBy key l ~ l := perm_insertionSort _ l

theorem sortBy_pairwise (l : List α) : (sortBy key l).Pairwise fun a b => key a ≤ key b :=
  pairwise_insertionSort _ l

theorem filter_sortBy (l : List α) (k : κ) :
    (sortBy key l).filter (key · = k) = l.filter (key · = k) := by
  have hkeys : (l.filter (key · = k)).Pairwise fun a b => key a ≤ key b := by
    apply pairwise_of_forall_mem_list
    intro a ha b hb
    simp only [mem_filter, decide_eq_true_eq] at ha hb
    exact (ha.2.trans hb.2.symm).le
  have hsub : l.filter (key · = k) <+ sortBy key l :=
    sublist_insertionSort hkeys filter_sublist
  have hfilter := hsub.filter (key · = k)
  rw [filter_filter] at hfilter
  simp only [Bool.and_self] at hfilter
  exact (hfilter.eq_of_length ((sortBy_perm l).filter _).length_eq.symm).symm

theorem map_sortBy_eq_of_perm {f : α → β} {l l' : List α}
    (ties : ∀ a ∈ l, ∀ b ∈ l, key a = key b → f a = f b) (h : l ~ l') :
    (sortBy key l).map f = (sortBy key l').map f := by
  have hmem {a : α} {m : List α} (hm : l ~ m) (ha : a ∈ sortBy key m) : a ∈ l :=
    (hm.trans (sortBy_perm m).symm).mem_iff.mpr ha
  have hpairs : (sortBy key l).map (fun a => (key a, f a)) =
      (sortBy key l').map fun a => (key a, f a) := by
    apply @Perm.eq_of_pairwise _ fun p q : κ × β => p.1 ≤ q.1
    · simp only [mem_map]
      rintro _ _ ⟨a, ha, rfl⟩ ⟨b, hb, rfl⟩ hab hba
      have hkey : key a = key b := le_antisymm hab hba
      exact Prod.ext hkey (ties a (hmem (Perm.refl l) ha) b (hmem h hb) hkey)
    · exact (sortBy_pairwise l).map _ fun _ _ hle => hle
    · exact (sortBy_pairwise l').map _ fun _ _ hle => hle
    · exact (((sortBy_perm l).trans h).trans (sortBy_perm l').symm).map _
  simpa only [map_map, Function.comp_def] using congrArg (map Prod.snd) hpairs

theorem sortBy_eq_of_perm {l l' : List α} (ties : ∀ a ∈ l, ∀ b ∈ l, key a = key b → a = b)
    (h : l ~ l') : sortBy key l = sortBy key l' := by
  have hmap := map_sortBy_eq_of_perm (f := id) ties h
  rwa [map_id, map_id] at hmap

/-- Conversely, a tie that is rendered in two ways shows the order of the input:
either element, moved to the front, is rendered first in its class. -/
theorem ties_of_map_sortBy (key : α → κ) (f : α → β) {l : List α}
    (h : ∀ l', l ~ l' → (sortBy key l).map (fun a => (key a, f a)) =
      (sortBy key l').map fun a => (key a, f a))
    {a b : α} (ha : a ∈ l) (hb : b ∈ l) (hkey : key a = key b) : f a = f b := by
  have hfirst {c : α} (hc : c ∈ l) : ∃ rest, ((sortBy key l).map fun a => (key a, f a)).filter
      (·.1 = key c) = (key c, f c) :: rest := by
    obtain ⟨before, after, hl⟩ := append_of_mem hc
    have hperm : l ~ c :: (before ++ after) := hl ▸ perm_middle
    rw [h _ hperm, filter_map]
    simp only [Function.comp_def]
    rw [filter_sortBy, filter_cons_of_pos (by simp), map_cons]
    exact ⟨_, rfl⟩
  obtain ⟨rest, hrest⟩ := hfirst ha
  obtain ⟨rest', hrest'⟩ := hfirst hb
  rw [hkey, hrest'] at hrest
  exact (congrArg Prod.snd (cons.inj hrest).1).symm

/-- A rendering that shows the key is the same for every order of the input exactly when
elements with one key are rendered alike. -/
theorem map_sortBy_invariant_iff {f : α → β} (shownKey : β → κ)
    (hkey : ∀ a, shownKey (f a) = key a) (l : List α) :
    (∀ l', l ~ l' → (sortBy key l').map f = (sortBy key l).map f) ↔
      ∀ a ∈ l, ∀ b ∈ l, key a = key b → f a = f b := by
  constructor
  · intro h a ha b hb
    apply ties_of_map_sortBy key f _ ha hb
    intro l' hperm
    have hpairs := congrArg (map fun b => (shownKey b, b)) (h l' hperm).symm
    simpa only [map_map, Function.comp_def, hkey] using hpairs
  · intro ties l' hperm
    exact (map_sortBy_eq_of_perm ties hperm).symm

/-- The first element that is kept, as it stands in the list that was sorted: nothing that
is kept comes before it with the same key. -/
theorem head?_filter_sortBy {keep : α → Bool} {l : List α} {a : α}
    (h : ((sortBy key l).filter keep).head? = some a) :
    ∃ before after, l = before ++ a :: after ∧ keep a = true ∧
      (∀ b ∈ before, keep b = true → key a < key b) ∧
      ∀ b ∈ after, keep b = true → key a ≤ key b := by
  obtain ⟨rest, hrest⟩ := head?_eq_some_iff.mp h
  have hsorted : (a :: rest).Pairwise fun b c => key b ≤ key c :=
    hrest ▸ (sortBy_pairwise l).filter keep
  have hleast {b : α} (hb : b ∈ l) (hkeep : keep b = true) : key a ≤ key b := by
    have hmem : b ∈ a :: rest :=
      hrest ▸ mem_filter.mpr ⟨(sortBy_perm l).mem_iff.mpr hb, hkeep⟩
    rcases mem_cons.mp hmem with rfl | hmem
    · exact le_rfl
    · exact (pairwise_cons.mp hsorted).1 b hmem
  -- Among the elements with its key, the order is that of the list.
  have hclass : (l.filter (key · = key a)).filter keep =
      a :: rest.filter (key · = key a) := by
    have hsame : (a :: rest).filter (key · = key a) = a :: rest.filter (key · = key a) :=
      filter_cons_of_pos (by simp)
    rw [← filter_sortBy, ← hsame, ← hrest, filter_filter, filter_filter]
    simp only [Bool.and_comm]
  rw [filter_filter, filter_eq_cons_iff] at hclass
  obtain ⟨before, after, rfl, hbefore, hkeep, _⟩ := hclass
  refine ⟨before, after, rfl, (Bool.and_eq_true_iff.mp hkeep).1, ?_, ?_⟩
  · intro b hb hkept
    apply lt_of_le_of_ne (hleast (mem_append_left _ hb) hkept)
    intro hkey
    exact hbefore b hb (by simp [hkept, hkey])
  · intro b hb
    exact hleast (mem_append_right _ (mem_cons_of_mem a hb))

theorem head?_sortBy (l : List α) : (sortBy key l).head? = l.argmin key := by
  induction l with
  | nil => rfl
  | cons a l ih =>
    rw [argmin_cons, ← ih]
    unfold sortBy
    rw [insertionSort_cons]
    cases insertionSort (fun a b => key a ≤ key b) l with
    | nil => rfl
    | cons b rest =>
      rw [orderedInsert_cons]
      by_cases hle : key a ≤ key b
      · simp [hle, not_lt_of_ge hle]
      · simp [hle, lt_of_not_ge hle]

theorem argmin_perm {l l' : List α} (h : l ~ l') :
    (l.argmin key).map key = (l'.argmin key).map key := by
  cases hl : l.argmin key with
  | none =>
    rw [argmin_eq_none] at hl
    subst hl
    rw [nil_perm.mp h]
    rfl
  | some a =>
    cases hl' : l'.argmin key with
    | none =>
      rw [argmin_eq_none] at hl'
      subst hl'
      rw [perm_nil.mp h] at hl
      cases hl
    | some b =>
      have hab : key a ≤ key b := le_of_mem_argmin (h.mem_iff.mpr (argmin_mem hl')) hl
      have hba : key b ≤ key a := le_of_mem_argmin (h.mem_iff.mp (argmin_mem hl)) hl'
      exact congrArg some (le_antisymm hab hba)

theorem argmin_cons_of_le {a : α} {l : List α} (h : ∀ b ∈ l, key a ≤ key b) :
    (a :: l).argmin key = some a := by
  rw [argmin_cons]
  cases hl : l.argmin key with
  | none => rfl
  | some b => exact if_neg (not_lt_of_ge (h b (argmin_mem hl)))

theorem argmin_filter {keep : α → Bool} {l : List α} {a : α} (h : l.argmin key = some a)
    (hkeep : keep a = true) : (l.filter keep).argmin key = some a := by
  induction l generalizing a with
  | nil => cases h
  | cons b l ih =>
    rw [argmin_cons] at h
    cases hl : l.argmin key with
    | none =>
      rw [hl] at h
      cases h
      rw [argmin_eq_none.mp hl, filter_singleton, hkeep]
      rfl
    | some c =>
      rw [hl] at h
      dsimp only at h
      split at h
      · rename_i hlt
        cases h
        have hrest := ih hl hkeep
        rw [filter_cons]
        split
        · rw [argmin_cons, hrest]
          exact if_pos hlt
        · exact hrest
      · rename_i hle
        cases h
        rw [filter_cons_of_pos hkeep, argmin_cons]
        cases hfilter : (l.filter keep).argmin key with
        | none => rfl
        | some d =>
          have hd : d ∈ l := (mem_filter.mp (argmin_mem hfilter)).1
          have hcd : key c ≤ key d := le_of_mem_argmin hd hl
          exact if_neg fun hlt => hle (hcd.trans_lt hlt)

theorem argmin_congr {κ' : Type*} [LinearOrder κ'] (key : α → κ) (key' : α → κ') {l : List α}
    (h : ∀ a ∈ l, ∀ b ∈ l, key a < key b ↔ key' a < key' b) : l.argmin key = l.argmin key' := by
  induction l with
  | nil => rfl
  | cons a l ih =>
    have hrest := ih fun b hb c hc => h b (mem_cons_of_mem a hb) c (mem_cons_of_mem a hc)
    rw [argmin_cons, argmin_cons, hrest]
    cases hl : l.argmin key' with
    | none => rfl
    | some c =>
      dsimp only
      simp only [h c (mem_cons_of_mem a (argmin_mem hl)) a mem_cons_self]

theorem argmin_of_filter {keep : α → Bool} {l : List α} {a : α}
    (h : (l.filter keep).argmin key = some a) (hlt : ∀ b ∈ l, keep b = false → key a < key b) :
    l.argmin key = some a := by
  cases hl : l.argmin key with
  | none =>
    rw [argmin_eq_none.mp hl] at h
    cases h
  | some b =>
    have hle : key b ≤ key a := le_of_mem_argmin (mem_filter.mp (argmin_mem h)).1 hl
    have hkeep : keep b = true := by
      by_contra hkeep
      exact absurd (hlt b (argmin_mem hl) (Bool.eq_false_of_not_eq_true hkeep)) (not_lt_of_ge hle)
    rw [← h, argmin_filter hl hkeep]

end StableSort
