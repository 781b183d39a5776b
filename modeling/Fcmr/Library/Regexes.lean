import Mathlib.Data.List.Chain
import Mathlib.Data.List.Induction

/-! Regular expressions as a backtracking engine runs them: a match has its priority among all
matches at a position, and a scan goes from match to match. What occurs at all does not depend
on priorities, and is kept by whatever the classes and the assertions do not see. -/
namespace Regexes

variable {α : Type*}

/-- Of two alternatives the first is preferred. A repetition is of one class; it prefers to be
long, or, if it is reluctant, short. A look is an assertion on the characters around a position. -/
inductive Regex (α : Type*)
  | empty
  | one (p : α → Bool)
  | seq (first second : Regex α)
  | alt (preferred other : Regex α)
  | rep (reluctant : Bool) (least : Nat) (most : Option Nat) (p : α → Bool)
  | look (p : Option α → Option α → Bool)

namespace Regex

def chain : List (Regex α) → Regex α
  | [] => empty
  | r :: rs => seq r (chain rs)

def anyOf : List (Regex α) → Regex α
  | [] => one fun _ => false
  | r :: rs => alt r (anyOf rs)

def opt (r : Regex α) : Regex α := alt r empty

def All (P : (α → Bool) → Prop) (Q : (Option α → Option α → Bool) → Prop) : Regex α → Prop
  | empty => True
  | one p => P p
  | seq r s => All P Q r ∧ All P Q s
  | alt r s => All P Q r ∧ All P Q s
  | rep _ _ _ p => P p
  | look q => Q q

variable {P : (α → Bool) → Prop} {Q : (Option α → Option α → Bool) → Prop}

theorem all_chain {rs : List (Regex α)} : (chain rs).All P Q ↔ ∀ r ∈ rs, r.All P Q := by
  induction rs with
  | nil => exact ⟨fun _ => List.forall_mem_nil _, fun _ => trivial⟩
  | cons r rs ih => rw [List.forall_mem_cons, ← ih]; rfl

theorem all_anyOf (hnone : P fun _ => false) {rs : List (Regex α)} :
    (anyOf rs).All P Q ↔ ∀ r ∈ rs, r.All P Q := by
  induction rs with
  | nil => exact ⟨fun _ => List.forall_mem_nil _, fun _ => hnone⟩
  | cons r rs ih => rw [List.forall_mem_cons, ← ih]; rfl

theorem all_opt {r : Regex α} : r.opt.All P Q ↔ r.All P Q := and_iff_left trivial

end Regex

def charBefore (text : List α) : Nat → Option α
  | 0 => none
  | i + 1 => text[i]?

def runLength (p : α → Bool) (text : List α) (i : Nat) : Nat :=
  ((text.drop i).takeWhile p).length

/-- Where the matches from a position end, by priority. -/
def ends (text : List α) : Regex α → Nat → List Nat
  | .empty, i => [i]
  | .one p, i => if (text[i]?).any p then [i + 1] else []
  | .seq r s, i => (ends text r i).flatMap (ends text s)
  | .alt r s, i => ends text r i ++ ends text s i
  | .rep reluctant least most p, i =>
    let longest := most.elim (runLength p text i) (min (runLength p text i))
    let found := List.range' (i + least) (longest + 1 - least)
    if reluctant then found else found.reverse
  | .look q, i => if q (charBefore text i) text[i]? then [i] else []

inductive Matches (text : List α) : Regex α → Nat → Nat → Prop
  | empty {i : Nat} : Matches text .empty i i
  | one {i : Nat} {p : α → Bool} {c : α} (hc : text[i]? = some c) (hp : p c = true) :
      Matches text (.one p) i (i + 1)
  | seq {i j k : Nat} {r s : Regex α} (hr : Matches text r i j) (hs : Matches text s j k) :
      Matches text (.seq r s) i k
  | preferred {i j : Nat} {r s : Regex α} (h : Matches text r i j) : Matches text (.alt r s) i j
  | other {i j : Nat} {r s : Regex α} (h : Matches text s i j) : Matches text (.alt r s) i j
  | rep {i n : Nat} {reluctant : Bool} {least : Nat} {most : Option Nat} {p : α → Bool}
      (hleast : least ≤ n) (hmost : ∀ m, most = some m → n ≤ m)
      (h : ∀ k < n, ∃ c, text[i + k]? = some c ∧ p c = true) :
      Matches text (.rep reluctant least most p) i (i + n)
  | look {i : Nat} {q : Option α → Option α → Bool} (h : q (charBefore text i) text[i]? = true) :
      Matches text (.look q) i i

theorem le_runLength_iff {p : α → Bool} {text : List α} {i n : Nat} :
    n ≤ runLength p text i ↔ ∀ k < n, ∃ c, text[i + k]? = some c ∧ p c = true := by
  have hdrop (k : Nat) : text[i + k]? = (text.drop i)[k]? := List.getElem?_drop.symm
  unfold runLength
  simp only [hdrop]
  generalize text.drop i = rest
  induction rest generalizing n with
  | nil =>
    cases n with
    | zero => simp
    | succ n => exact ⟨fun h => absurd h (by simp), fun h => by simpa using h 0 (Nat.succ_pos n)⟩
  | cons c rest ih =>
    cases n with
    | zero => simp
    | succ n =>
      rw [Nat.forall_lt_succ_left]
      cases hp : p c with
      | false => simp [hp]
      | true =>
        rw [List.takeWhile_cons_of_pos hp, List.length_cons, Nat.succ_le_succ_iff]
        simpa [hp] using ih

variable {text : List α} {r : Regex α} {i j : Nat}

theorem mem_ends_rep {reluctant : Bool} {least : Nat} {most : Option Nat} {p : α → Bool} :
    j ∈ ends text (.rep reluctant least most p) i ↔
      Matches text (.rep reluctant least most p) i j := by
  have hlongest (n : Nat) : n ≤ most.elim (runLength p text i) (min (runLength p text i)) ↔
      n ≤ runLength p text i ∧ ∀ m, most = some m → n ≤ m := by
    cases most with
    | none => simp
    | some most => simp only [Option.elim_some, Option.some.injEq, forall_eq', Nat.le_min]
  have hmem : j ∈ ends text (.rep reluctant least most p) i ↔ ∃ n, j = i + n ∧ least ≤ n ∧
      n ≤ most.elim (runLength p text i) (min (runLength p text i)) := by
    unfold ends
    have hfound : j ∈ List.range' (i + least)
        (most.elim (runLength p text i) (min (runLength p text i)) + 1 - least) ↔ ∃ n, j = i + n ∧
          least ≤ n ∧ n ≤ most.elim (runLength p text i) (min (runLength p text i)) := by
      rw [List.mem_range'_1]
      constructor
      · rintro ⟨hlow, hhigh⟩
        exact ⟨j - i, by omega, by omega, by omega⟩
      · rintro ⟨n, rfl, hlow, hhigh⟩
        exact ⟨by omega, by omega⟩
    cases reluctant <;> simpa using hfound
  rw [hmem]
  constructor
  · rintro ⟨n, rfl, hleast, hmost⟩
    obtain ⟨hrun, hmost⟩ := (hlongest n).mp hmost
    exact .rep hleast hmost (le_runLength_iff.mp hrun)
  · intro h
    cases h with
    | @rep _ n _ _ _ _ hleast hmost h =>
      exact ⟨n, rfl, hleast, (hlongest n).mpr ⟨le_runLength_iff.mpr h, hmost⟩⟩

theorem mem_ends : j ∈ ends text r i ↔ Matches text r i j := by
  induction r generalizing i j with
  | empty =>
    constructor
    · intro h
      rw [List.mem_singleton.mp h]
      exact .empty
    · rintro ⟨⟩
      exact List.mem_singleton_self _
  | one p =>
    unfold ends
    constructor
    · intro h
      split at h
      · rename_i hany
        obtain ⟨c, hc, hp⟩ := (Option.any_eq_true ..).mp hany
        rw [List.mem_singleton.mp h]
        exact .one hc hp
      · cases h
    · intro h
      cases h with
      | one hc hp =>
        rw [hc, Option.any_some, if_pos hp]
        exact List.mem_singleton_self _
  | seq r s ihr ihs =>
    unfold ends
    rw [List.mem_flatMap]
    constructor
    · rintro ⟨k, hk, hj⟩
      exact .seq (ihr.mp hk) (ihs.mp hj)
    · intro h
      cases h with
      | seq hr hs => exact ⟨_, ihr.mpr hr, ihs.mpr hs⟩
  | alt r s ihr ihs =>
    unfold ends
    rw [List.mem_append]
    constructor
    · rintro (h | h)
      · exact .preferred (ihr.mp h)
      · exact .other (ihs.mp h)
    · intro h
      cases h with
      | preferred h => exact .inl (ihr.mpr h)
      | other h => exact .inr (ihs.mpr h)
  | rep => exact mem_ends_rep
  | look q =>
    unfold ends
    constructor
    · intro h
      split at h
      · rename_i hq
        rw [List.mem_singleton.mp h]
        exact .look hq
      · cases h
    · intro h
      cases h with
      | look hq =>
        rw [if_pos hq]
        exact List.mem_singleton_self _

theorem Matches.le (h : Matches text r i j) : i ≤ j := by
  induction h with
  | empty => exact Nat.le_refl _
  | one => exact Nat.le_succ _
  | seq _ _ ihr ihs => exact Nat.le_trans ihr ihs
  | preferred _ ih => exact ih
  | other _ ih => exact ih
  | rep => exact Nat.le_add_right _ _
  | look => exact Nat.le_refl _

theorem Matches.le_length (h : Matches text r i j) (hi : i ≤ text.length) : j ≤ text.length := by
  induction h with
  | empty => exact hi
  | one hc => exact (List.getElem?_eq_some_iff.mp hc).1
  | seq _ _ ihr ihs => exact ihs (ihr hi)
  | preferred _ ih => exact ih hi
  | other _ ih => exact ih hi
  | @rep i n _ _ _ _ _ _ h =>
    cases n with
    | zero => exact hi
    | succ n =>
      obtain ⟨c, hc, _⟩ := h n (Nat.lt_succ_self n)
      have hlt := (List.getElem?_eq_some_iff.mp hc).1
      omega
  | look => exact hi

def matchAt (r : Regex α) (text : List α) (i : Nat) : Option Nat := (ends text r i).head?

theorem Matches.of_matchAt (h : matchAt r text i = some j) : Matches text r i j :=
  mem_ends.mp (List.mem_of_mem_head? h)

theorem Matches.matchAt_ne_none (h : Matches text r i j) : matchAt r text i ≠ none := by
  intro hnone
  rw [matchAt, List.head?_eq_none_iff] at hnone
  exact List.not_mem_nil (hnone ▸ mem_ends.mpr h)

/-- The scan over the positions from `free` on. After an empty match it moves on by one. -/
def walk (r : Regex α) (text : List α) : Nat → List Nat → List (Nat × Nat)
  | _, [] => []
  | free, i :: positions =>
    if i < free then walk r text free positions
    else match matchAt r text i with
      | none => walk r text free positions
      | some j => (i, j) :: walk r text (max j (i + 1)) positions

def spans (r : Regex α) (text : List α) : List (Nat × Nat) :=
  walk r text 0 (List.range' 0 (text.length + 1))

/-- A position that a match starts at or takes up. -/
def Covers (span : Nat × Nat) (i : Nat) : Prop := span.1 ≤ i ∧ (i < span.2 ∨ i = span.1)

structure Scanned (r : Regex α) (text : List α) (start stop free : Nat)
    (found : List (Nat × Nat)) : Prop where
  sound : ∀ span ∈ found, start ≤ span.1 ∧ span.1 < stop ∧ free ≤ span.1 ∧
    matchAt r text span.1 = some span.2
  disjoint : found.Pairwise fun a b => a.1 < b.1 ∧ a.2 ≤ b.1
  covering : ∀ i, start ≤ i → i < stop → free ≤ i → matchAt r text i ≠ none →
    ∃ span ∈ found, Covers span i

theorem walk_scanned (r : Regex α) (text : List α) (start n free : Nat) :
    Scanned r text start (start + n) free (walk r text free (List.range' start n)) := by
  induction n generalizing start free with
  | zero => exact ⟨List.forall_mem_nil _, List.Pairwise.nil, fun i hlow hhigh => by omega⟩
  | succ n ih =>
    rw [List.range'_succ, show start + (n + 1) = start + 1 + n by omega]
    unfold walk
    split
    · rename_i hskip
      have hrest := ih (start + 1) free
      refine ⟨fun span hspan => ?_, hrest.disjoint, fun i _ hhigh hfree => ?_⟩
      · obtain ⟨hlow, hhigh, hrest⟩ := hrest.sound span hspan
        exact ⟨by omega, hhigh, hrest⟩
      · exact hrest.covering i (by omega) hhigh hfree
    rename_i hfree
    split
    · rename_i hnone
      have hrest := ih (start + 1) free
      refine ⟨fun span hspan => ?_, hrest.disjoint, fun i hlow hhigh hfree hmatch => ?_⟩
      · obtain ⟨hlow, hhigh, hrest⟩ := hrest.sound span hspan
        exact ⟨by omega, hhigh, hrest⟩
      · have hne : i ≠ start := fun hsame => hmatch (hsame ▸ hnone)
        exact hrest.covering i (by omega) hhigh hfree hmatch
    · rename_i j hj
      have hle := (Matches.of_matchAt hj).le
      have hrest := ih (start + 1) (max j (start + 1))
      refine ⟨?_, ?_, fun i hlow hhigh _ hmatch => ?_⟩
      · rw [List.forall_mem_cons]
        refine ⟨⟨Nat.le_refl _, by omega, by omega, hj⟩, fun span hspan => ?_⟩
        obtain ⟨hlow, hhigh, hnext, hspan⟩ := hrest.sound span hspan
        exact ⟨by omega, hhigh, by omega, hspan⟩
      · rw [List.pairwise_cons]
        refine ⟨fun span hspan => ?_, hrest.disjoint⟩
        obtain ⟨_, _, hnext, _⟩ := hrest.sound span hspan
        exact ⟨by omega, by omega⟩
      · by_cases hwithin : i < max j (start + 1)
        · exact ⟨(start, j), List.mem_cons_self, hlow, by omega⟩
        · obtain ⟨span, hspan, hcovers⟩ := hrest.covering i (by omega) hhigh (by omega) hmatch
          exact ⟨span, List.mem_cons_of_mem _ hspan, hcovers⟩

def Occurs (r : Regex α) (text : List α) : Prop := ∃ i j, i ≤ text.length ∧ Matches text r i j

theorem spans_sound {span : Nat × Nat} (h : span ∈ spans r text) :
    span.1 ≤ text.length ∧ Matches text r span.1 span.2 := by
  obtain ⟨_, hlt, _, hmatch⟩ := (walk_scanned r text 0 (text.length + 1) 0).sound span h
  exact ⟨by omega, .of_matchAt hmatch⟩

theorem spans_preferred {span : Nat × Nat} (h : span ∈ spans r text) :
    matchAt r text span.1 = some span.2 := by
  obtain ⟨_, _, _, hmatch⟩ := (walk_scanned r text 0 (text.length + 1) 0).sound span h
  exact hmatch

theorem spans_disjoint (r : Regex α) (text : List α) :
    (spans r text).Pairwise fun a b => a.1 < b.1 ∧ a.2 ≤ b.1 :=
  (walk_scanned r text 0 (text.length + 1) 0).disjoint

theorem spans_covering (h : Matches text r i j) (hi : i ≤ text.length) :
    ∃ span ∈ spans r text, Covers span i :=
  (walk_scanned r text 0 (text.length + 1) 0).covering i (Nat.zero_le _) (by omega)
    (Nat.zero_le _) h.matchAt_ne_none

theorem spans_ne_nil : spans r text ≠ [] ↔ Occurs r text := by
  constructor
  · intro h
    obtain ⟨span, hspan⟩ := List.exists_mem_of_ne_nil _ h
    exact ⟨span.1, span.2, spans_sound hspan⟩
  · rintro ⟨i, j, hi, h⟩
    obtain ⟨span, hspan, _⟩ := spans_covering h hi
    exact List.ne_nil_of_mem hspan

def splice (replacement text : List α) : Nat → List (Nat × Nat) → List α
  | free, [] => text.drop free
  | free, span :: found =>
    (text.take span.1).drop free ++ replacement ++ splice replacement text span.2 found

def replace (r : Regex α) (replacement text : List α) : List α :=
  splice replacement text 0 (spans r text)

theorem mem_splice {replacement : List α} {found : List (Nat × Nat)} {free : Nat} {c : α}
    (hdisjoint : found.Pairwise fun a b => a.1 < b.1 ∧ a.2 ≤ b.1)
    (hfree : ∀ span ∈ found, free ≤ span.1 ∧ span.1 ≤ span.2)
    (h : c ∈ splice replacement text free found) :
    c ∈ replacement ∨ ∃ k, free ≤ k ∧ text[k]? = some c ∧
      ∀ span ∈ found, ¬(span.1 ≤ k ∧ k < span.2) := by
  induction found generalizing free with
  | nil =>
    obtain ⟨k, hk⟩ := List.mem_iff_getElem?.mp (show c ∈ text.drop free from h)
    rw [List.getElem?_drop] at hk
    exact .inr ⟨free + k, Nat.le_add_right _ _, hk, List.forall_mem_nil _⟩
  | cons span found ih =>
    obtain ⟨hfirst, hrest⟩ := List.pairwise_cons.mp hdisjoint
    unfold splice at h
    rcases List.mem_append.mp h with h | h
    · rcases List.mem_append.mp h with h | h
      · obtain ⟨k, hk⟩ := List.mem_iff_getElem?.mp h
        rw [List.getElem?_drop, List.getElem?_take] at hk
        split at hk
        · rename_i hlt
          refine .inr ⟨free + k, Nat.le_add_right _ _, hk, ?_⟩
          rw [List.forall_mem_cons]
          refine ⟨by omega, fun later hlater => ?_⟩
          have hbefore := (hfirst later hlater).1
          omega
        · cases hk
      · exact .inl h
    · obtain ⟨hspan, hother⟩ := List.forall_mem_cons.mp hfree
      have hnext : ∀ later ∈ found, span.2 ≤ later.1 ∧ later.1 ≤ later.2 :=
        fun later hlater => ⟨(hfirst later hlater).2, (hother later hlater).2⟩
      rcases ih hrest hnext h with h | ⟨k, hk, hc, houtside⟩
      · exact .inl h
      · refine .inr ⟨k, by omega, hc, ?_⟩
        rw [List.forall_mem_cons]
        exact ⟨by omega, houtside⟩

theorem mem_replace {replacement : List α} {c : α} (h : c ∈ replace r replacement text) :
    c ∈ replacement ∨ ∃ k, text[k]? = some c ∧
      ∀ span ∈ spans r text, ¬(span.1 ≤ k ∧ k < span.2) := by
  have hle : ∀ span ∈ spans r text, 0 ≤ span.1 ∧ span.1 ≤ span.2 :=
    fun span hspan => ⟨Nat.zero_le _, (spans_sound hspan).2.le⟩
  rcases mem_splice (spans_disjoint r text) hle h with h | ⟨k, _, hc, houtside⟩
  · exact .inl h
  · exact .inr ⟨k, hc, houtside⟩

section Runs

variable {p : α → Bool} {least : Nat}

theorem matchAt_rep (h : matchAt (.rep false least none p) text i = some j) {c : α}
    (hc : text[j]? = some c) : p c = false := by
  cases hp : p c with
  | false => rfl
  | true =>
  unfold matchAt ends at h
  dsimp only [Option.elim_none] at h
  rw [if_neg nofun, List.head?_reverse, List.getLast?_range'] at h
  split at h
  · cases h
  rename_i hsome
  have hlast : i + least + (runLength p text i + 1 - least) - 1 = j := Option.some.inj h
  have hj : j = i + runLength p text i := by omega
  have hlonger : runLength p text i + 1 ≤ runLength p text i := by
    refine le_runLength_iff.mpr fun k hk => ?_
    rcases Nat.lt_succ_iff_lt_or_eq.mp hk with hlt | rfl
    · exact le_runLength_iff.mp (Nat.le_refl _) k hlt
    · exact ⟨c, hj ▸ hc, hp⟩
  exact absurd hlonger (Nat.not_succ_le_self _)

/-- Where the spans are the runs of a class, and all of them, no two characters of the class are
left side by side. -/
theorem isChain_splice (b : α) {found : List (Nat × Nat)} {free : Nat}
    (hdisjoint : found.Pairwise fun a b => a.1 < b.1 ∧ a.2 ≤ b.1)
    (hrun : ∀ span ∈ found, free ≤ span.1 ∧ span.1 < span.2 ∧
      (∃ c, text[span.1]? = some c ∧ p c = true) ∧ ∀ c, text[span.2]? = some c → p c = false)
    (hall : ∀ k c, free ≤ k → text[k]? = some c → p c = true →
      ∃ span ∈ found, span.1 ≤ k ∧ k < span.2) :
    (splice [b] text free found).IsChain (fun a c => p a = true → p c = false) ∧
      ((∀ c, text[free]? = some c → p c = false) →
        ∀ c ∈ (splice [b] text free found).head?, p c = false) := by
  induction found generalizing free with
  | nil =>
    have hnone : ∀ c ∈ text.drop free, p c = false := by
      intro c hc
      obtain ⟨k, hk⟩ := List.mem_iff_getElem?.mp hc
      rw [List.getElem?_drop] at hk
      refine eq_false_of_ne_true fun hp => ?_
      obtain ⟨_, hspan, _⟩ := hall _ c (Nat.le_add_right _ _) hk hp
      cases hspan
    exact ⟨List.Pairwise.isChain (List.pairwise_of_forall_mem_list
      fun _ _ c hc _ => hnone c hc), fun _ c hc => hnone c (List.mem_of_mem_head? hc)⟩
  | cons span found ih =>
    obtain ⟨hfirst, hrest⟩ := List.pairwise_cons.mp hdisjoint
    obtain ⟨⟨hfree, hspan, ⟨first, hat, hp⟩, hend⟩, hother⟩ := List.forall_mem_cons.mp hrun
    obtain ⟨hchain, hhead⟩ := ih hrest
      (fun later hlater => ⟨(hfirst later hlater).2, (hother later hlater).2⟩)
      (fun k c hk hc hpc => by
        obtain ⟨covering, hmem, hcovers⟩ := hall k c (by omega) hc hpc
        rcases List.mem_cons.mp hmem with rfl | hmem
        · omega
        · exact ⟨covering, hmem, hcovers⟩)
    have hbefore : ∀ c ∈ (text.take span.1).drop free, p c = false := by
      intro c hc
      obtain ⟨k, hk⟩ := List.mem_iff_getElem?.mp hc
      rw [List.getElem?_drop, List.getElem?_take] at hk
      split at hk
      case isFalse => cases hk
      rename_i hlt
      refine eq_false_of_ne_true fun hpc => ?_
      obtain ⟨covering, hmem, hcovers⟩ := hall _ c (Nat.le_add_right _ _) hk hpc
      rcases List.mem_cons.mp hmem with rfl | hmem
      · omega
      · have hlater := (hfirst covering hmem).1
        omega
    have hreplaced : (b :: splice [b] text span.2 found).IsChain
        (fun a c => p a = true → p c = false) :=
      List.IsChain.cons hchain fun c hc _ => hhead hend c hc
    unfold splice
    rw [List.append_assoc, List.singleton_append]
    refine ⟨List.IsChain.append (List.Pairwise.isChain (List.pairwise_of_forall_mem_list
      fun _ _ c hc _ => hbefore c hc)) hreplaced fun a ha _ _ hpa => ?_, fun hstart c hc => ?_⟩
    · rw [hbefore a (List.mem_of_mem_getLast? ha)] at hpa
      cases hpa
    · have hlt : free < span.1 := by
        refine Nat.lt_of_le_of_ne hfree fun hsame => ?_
        rw [hstart first (hsame ▸ hat)] at hp
        cases hp
      have hlength : free < ((text.take span.1)).length := by
        rw [List.length_take]
        exact Nat.lt_min.mpr ⟨hlt, Nat.lt_trans hlt (List.getElem?_eq_some_iff.mp hat).1⟩
      rw [List.drop_eq_getElem_cons hlength, List.cons_append, List.head?_cons] at hc
      refine hbefore c ?_
      rw [← Option.some.inj hc, List.drop_eq_getElem_cons hlength]
      exact List.mem_cons_self

theorem isChain_replace_rep (b : α) (text : List α) :
    (replace (.rep false 1 none p) [b] text).IsChain fun a c => p a = true → p c = false := by
  have hrun : ∀ span ∈ spans (.rep false 1 none p) text, 0 ≤ span.1 ∧ span.1 < span.2 ∧
      (∃ c, text[span.1]? = some c ∧ p c = true) ∧ ∀ c, text[span.2]? = some c → p c = false := by
    intro span hspan
    have hmatch := (spans_sound hspan).2
    have hend (c : α) := matchAt_rep (spans_preferred hspan) (c := c)
    refine ⟨Nat.zero_le _, ?_⟩
    generalize span.2 = stop at hmatch hend
    cases hmatch with
    | rep hleast _ h => exact ⟨Nat.lt_add_of_pos_right hleast, h 0 hleast, hend⟩
  refine (isChain_splice b (spans_disjoint _ text) hrun fun k c _ hc hp => ?_).1
  have hmatch : Matches text (.rep false 1 none p) k (k + 1) := by
    refine .rep (Nat.le_refl 1) nofun fun i hi => ⟨c, ?_, hp⟩
    rwa [Nat.lt_one_iff.mp hi, Nat.add_zero]
  obtain ⟨span, hspan, hlow, hcovers⟩ :=
    spans_covering hmatch (Nat.le_of_lt (List.getElem?_eq_some_iff.mp hc).1)
  have hnonempty := (hrun span hspan).2.1
  exact ⟨span, hspan, hlow, by omega⟩

end Runs

section Folding

variable {f : α → α}

def Regex.Blind (f : α → α) : Regex α → Prop :=
  All (fun p => ∀ c, p (f c) = p c) fun q => ∀ a b, q (a.map f) (b.map f) = q a b

theorem charBefore_map (text : List α) (i : Nat) :
    charBefore (text.map f) i = (charBefore text i).map f := by
  cases i with
  | zero => rfl
  | succ i => exact List.getElem?_map

theorem runLength_map {p : α → Bool} (hp : ∀ c, p (f c) = p c) (text : List α) (i : Nat) :
    runLength p (text.map f) i = runLength p text i := by
  unfold runLength
  rw [← List.map_drop, List.takeWhile_map, List.length_map]
  exact congrArg (fun q => ((text.drop i).takeWhile q).length) (funext hp)

theorem ends_map (h : r.Blind f) (text : List α) (i : Nat) :
    ends (text.map f) r i = ends text r i := by
  induction r generalizing i with
  | empty => rfl
  | one p =>
    have hp : ∀ c, p (f c) = p c := h
    simp only [ends, List.getElem?_map, Option.any_map, hp]
  | seq r s ihr ihs =>
    have hs : ends (text.map f) s = ends text s := funext fun k => ihs h.2 k
    rw [ends, ends, ihr h.1, hs]
  | alt r s ihr ihs => rw [ends, ends, ihr h.1, ihs h.2]
  | rep reluctant least most p => simp only [ends, runLength_map h]
  | look q => rw [ends, ends, charBefore_map, List.getElem?_map, h]

theorem spans_map (h : r.Blind f) (text : List α) : spans r (text.map f) = spans r text := by
  have hmatch (i : Nat) : matchAt r (text.map f) i = matchAt r text i :=
    congrArg List.head? (ends_map h text i)
  unfold spans
  rw [List.length_map]
  generalize List.range' 0 (text.length + 1) = positions
  generalize 0 = free
  induction positions generalizing free with
  | nil => rfl
  | cons i positions ih => simp only [walk, hmatch, ih]

end Folding

section Framing

variable {pre post : List α}

def Regex.Framed (before after : Option α) : Regex α → Prop :=
  All (fun _ => True) fun q => ∀ a b, q a b = true → q (a.or before) (b.or after) = true

theorem charBefore_frame (hi : i ≤ text.length) :
    charBefore (pre ++ text ++ post) (pre.length + i) = (charBefore text i).or pre.getLast? := by
  cases i with
  | zero =>
    cases pre using List.reverseRecOn with
    | nil => rfl
    | append_singleton pre c => simp [charBefore]
  | succ i =>
    have hlt : i < text.length := hi
    rw [charBefore, List.getElem?_eq_getElem hlt]
    show (pre ++ text ++ post)[pre.length + i]? = some text[i]
    rw [List.append_assoc, List.getElem?_append_right (Nat.le_add_right _ _),
      Nat.add_sub_cancel_left, List.getElem?_append_left hlt, List.getElem?_eq_getElem hlt]

theorem getElem?_frame (hi : i ≤ text.length) :
    (pre ++ text ++ post)[pre.length + i]? = text[i]?.or post.head? := by
  rw [List.append_assoc, List.getElem?_append_right (Nat.le_add_right _ _), Nat.add_sub_cancel_left]
  rcases Nat.lt_or_eq_of_le hi with hlt | rfl
  · rw [List.getElem?_append_left hlt, List.getElem?_eq_getElem hlt]
    rfl
  · rw [List.getElem?_append_right (Nat.le_refl _), Nat.sub_self,
      List.getElem?_eq_none (Nat.le_refl _), ← List.head?_eq_getElem?]
    rfl

theorem Matches.frame (h : Matches text r i j) (hi : i ≤ text.length)
    (hr : r.Framed pre.getLast? post.head?) :
    Matches (pre ++ text ++ post) r (pre.length + i) (pre.length + j) := by
  have hkept (k : Nat) (c : α) (hc : text[k]? = some c) :
      (pre ++ text ++ post)[pre.length + k]? = some c := by
    rw [getElem?_frame (Nat.le_of_lt (List.getElem?_eq_some_iff.mp hc).1), hc]
    rfl
  induction h with
  | empty => exact .empty
  | one hc hp => exact .one (hkept _ _ hc) hp
  | seq hfirst _ ihr ihs => exact .seq (ihr hi hr.1) (ihs (hfirst.le_length hi) hr.2)
  | preferred _ ih => exact .preferred (ih hi hr.1)
  | other _ ih => exact .other (ih hi hr.2)
  | rep hleast hmost h =>
    rw [← Nat.add_assoc]
    refine .rep hleast hmost fun k hk => ?_
    obtain ⟨c, hc, hp⟩ := h k hk
    exact ⟨c, by rw [Nat.add_assoc]; exact hkept _ _ hc, hp⟩
  | look h =>
    refine .look ?_
    rw [charBefore_frame hi, getElem?_frame hi]
    exact hr _ _ h

end Framing

end Regexes
