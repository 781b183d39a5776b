import Mathlib.Data.List.Nodup
import Mathlib.Logic.Relation

/-! Lists of which one is the beginning of the other, as a list and what it grows to. Where no
two elements have one key, it tells their places in both. -/

def Comparable {α : Type} (l l' : List α) : Prop := Relation.SymmGen (· <+: ·) l l'

namespace Comparable

variable {α : Type} {l l' : List α} {a b : α} {i : Nat}

theorem refl (l : List α) : Comparable l l := Relation.SymmGen.of_rel (List.prefix_refl l)

theorem symm (h : Comparable l l') : Comparable l' l := Relation.SymmGen.symm h

theorem filter (h : Comparable l l') (p : α → Bool) : Comparable (l.filter p) (l'.filter p) :=
  Or.imp (fun h => h.filter p) (fun h => h.filter p) h

theorem take (h : Comparable l l') (n : Nat) : Comparable (l.take n) (l'.take n) := by
  have htake {l l' : List α} (h : l <+: l') : l.take n <+: l'.take n := by
    obtain ⟨rest, rfl⟩ := h
    rw [List.take_append]
    exact List.prefix_append ..
  exact Or.imp htake htake h

theorem eq_of_length (h : Comparable l l') (hlength : l.length = l'.length) : l = l' :=
  Or.elim h (fun h => h.eq_of_length hlength) fun h => (h.eq_of_length hlength.symm).symm

theorem eq_of_index (h : Comparable l l') (ha : l[i]? = some a) (hb : l'[i]? = some b) : a = b := by
  rcases h with ⟨rest, rfl⟩ | ⟨rest, rfl⟩
  · rw [List.getElem?_append_left (List.getElem?_eq_some_iff.mp ha).1, ha] at hb
    exact Option.some.inj hb
  · rw [List.getElem?_append_left (List.getElem?_eq_some_iff.mp hb).1, hb] at ha
    exact (Option.some.inj ha).symm

end Comparable

structure Keyed {α κ : Type} (key : α → κ) (l l' : List α) : Prop where
  comparable : Comparable l l'
  nodup : (l.map key).Nodup
  nodup' : (l'.map key).Nodup

namespace Keyed

variable {α κ : Type} {l l' : List α} {key : α → κ} {a b : α} {i j : Nat}

theorem symm (h : Keyed key l l') : Keyed key l' l := ⟨h.comparable.symm, h.nodup', h.nodup⟩

theorem filter (h : Keyed key l l') (p : α → Bool) : Keyed key (l.filter p) (l'.filter p) where
  comparable := h.comparable.filter p
  nodup := h.nodup.sublist (List.filter_sublist.map key)
  nodup' := h.nodup'.sublist (List.filter_sublist.map key)

theorem key_eq_iff (h : Keyed key l l') (ha : l[i]? = some a) (hb : l'[j]? = some b) :
    key a = key b ↔ i = j := by
  have hindex {l : List α} {i j : Nat} {a b : α} (hnodup : (l.map key).Nodup) (ha : l[i]? = some a)
      (hb : l[j]? = some b) (hkey : key a = key b) : i = j := by
    have hlt := (List.getElem?_eq_some_iff.mp ha).1
    apply (List.getElem?_inj (by rwa [List.length_map]) hnodup).mp
    rw [List.getElem?_map, List.getElem?_map, ha, hb]
    exact congrArg some hkey
  constructor
  · intro hkey
    obtain ⟨hcomparable, hnodup, hnodup'⟩ := h
    rcases hcomparable with ⟨rest, rfl⟩ | ⟨rest, rfl⟩
    · have hgrown : (l ++ rest)[i]? = some a :=
        (List.getElem?_append_left (List.getElem?_eq_some_iff.mp ha).1).trans ha
      exact hindex hnodup' hgrown hb hkey
    · have hgrown : (l' ++ rest)[j]? = some b :=
        (List.getElem?_append_left (List.getElem?_eq_some_iff.mp hb).1).trans hb
      exact hindex hnodup ha hgrown hkey
  · rintro rfl
    rw [h.comparable.eq_of_index ha hb]

theorem eq_iff (h : Keyed key l l') (ha : l[i]? = some a) (hb : l'[j]? = some b) :
    a = b ↔ i = j := by
  constructor
  · intro heq
    exact (h.key_eq_iff ha hb).mp (congrArg key heq)
  · rintro rfl
    exact h.comparable.eq_of_index ha hb

theorem eq_of_key (h : Keyed key l l') (ha : a ∈ l) (hb : b ∈ l') (hkey : key a = key b) : a = b := by
  obtain ⟨i, hi⟩ := List.mem_iff_getElem?.mp ha
  obtain ⟨j, hj⟩ := List.mem_iff_getElem?.mp hb
  exact (h.eq_iff hi hj).mpr ((h.key_eq_iff hi hj).mp hkey)

end Keyed
