import Mathlib.Data.List.Basic

/-! Codes whose words show where they end. A concatenation of such words is
read back in one way only, whatever symbols the words contain. -/
namespace Codes

variable {α α' β : Type*}

/-- Two words followed by arbitrary text agree only if their values do, as far as
`same` looks, and the same text follows. -/
def Delimits (same : α → α → Prop) (code : α → List β) : Prop :=
  ∀ ⦃a b : α⦄ ⦃x y : List β⦄, code a ++ x = code b ++ y → same a b ∧ x = y

abbrev SelfDelimiting (code : α → List β) : Prop := Delimits Eq code

theorem SelfDelimiting.prod {code : α → List β} {code' : α' → List β}
    (h : SelfDelimiting code) (h' : SelfDelimiting code') :
    SelfDelimiting fun p : α × α' => code p.1 ++ code' p.2 := by
  intro p q x y heq
  simp only [List.append_assoc] at heq
  obtain ⟨hfirst, hrest⟩ := h heq
  obtain ⟨hsecond, htail⟩ := h' hrest
  exact ⟨Prod.ext hfirst hsecond, htail⟩

theorem SelfDelimiting.append_mark {code : α → List β} (h : SelfDelimiting code)
    (mark : List β) : SelfDelimiting fun a => code a ++ mark := by
  intro a b x y heq
  simp only [List.append_assoc] at heq
  obtain ⟨hword, hrest⟩ := h heq
  exact ⟨hword, List.append_cancel_left hrest⟩

theorem SelfDelimiting.flatMap_injective {code : α → List β} (h : SelfDelimiting code)
    (hne : ∀ a, code a ≠ []) : Function.Injective fun words : List α => words.flatMap code := by
  intro words
  induction words with
  | nil =>
    intro words' heq
    cases words' with
    | nil => rfl
    | cons word rest => simp [hne] at heq
  | cons word rest ih =>
    intro words' heq
    cases words' with
    | nil => simp [hne] at heq
    | cons word' rest' =>
      simp only [List.flatMap_cons] at heq
      obtain ⟨hword, hrest⟩ := h heq
      rw [hword, ih hrest]

theorem zipIdx_delimits {same : α → α → Prop} {code : α × Nat → List β}
    (h : ∀ i, Delimits same fun a => code (a, i)) {l l' : List α}
    (hlength : l.length = l'.length) {start : Nat} {x y : List β}
    (heq : (l.zipIdx start).flatMap code ++ x = (l'.zipIdx start).flatMap code ++ y) :
    List.Forall₂ same l l' ∧ x = y := by
  induction l generalizing l' start with
  | nil =>
    cases l' with
    | nil => exact ⟨.nil, by simpa using heq⟩
    | cons b l' => simp at hlength
  | cons a l ih =>
    cases l' with
    | nil => simp at hlength
    | cons b l' =>
      simp only [List.zipIdx_cons, List.flatMap_cons, List.append_assoc] at heq
      obtain ⟨hhead, hrest⟩ := h start heq
      obtain ⟨htail, hend⟩ := ih (Nat.succ.inj hlength) hrest
      exact ⟨.cons hhead htail, hend⟩

theorem split_unique {mark : β} {l l' x y : List β} (hl : mark ∉ l) (hl' : mark ∉ l')
    (h : l ++ mark :: x = l' ++ mark :: y) : l = l' ∧ x = y := by
  induction l generalizing l' with
  | nil =>
    cases l' with
    | nil => exact ⟨rfl, (List.cons.inj h).2⟩
    | cons c l' =>
      have hmark : mark = c := (List.cons.inj h).1
      simp [hmark] at hl'
  | cons c l ih =>
    cases l' with
    | nil =>
      have hmark : c = mark := (List.cons.inj h).1
      simp [hmark] at hl
    | cons c' l' =>
      obtain ⟨hhead, htail⟩ := List.cons.inj h
      obtain ⟨hrest, hend⟩ := ih (fun hm => hl (List.mem_cons_of_mem _ hm))
        (fun hm => hl' (List.mem_cons_of_mem _ hm)) htail
      exact ⟨by rw [hhead, hrest], hend⟩

theorem terminated_injective {mark : β} {rest : List β} {l l' : List (List β)}
    (hl : ∀ word ∈ l, mark ∉ word) (hl' : ∀ word ∈ l', mark ∉ word)
    (h : l.flatMap (· ++ mark :: rest) = l'.flatMap (· ++ mark :: rest)) : l = l' := by
  induction l generalizing l' with
  | nil =>
    cases l' with
    | nil => rfl
    | cons word l' => simp at h
  | cons word l ih =>
    cases l' with
    | nil => simp at h
    | cons word' l' =>
      simp only [List.flatMap_cons, List.append_assoc, List.cons_append] at h
      obtain ⟨hword, hrest⟩ := split_unique (hl word List.mem_cons_self)
        (hl' word' List.mem_cons_self) h
      have htail := ih (fun w hw => hl w (List.mem_cons_of_mem _ hw))
        (fun w hw => hl' w (List.mem_cons_of_mem _ hw)) (List.append_cancel_left hrest)
      rw [hword, htail]

theorem intercalate_append {separator : List β} {l : List (List β)} (h : l ≠ []) :
    separator.intercalate l ++ separator = l.flatMap (· ++ separator) := by
  induction l with
  | nil => exact absurd rfl h
  | cons word l ih =>
    cases l with
    | nil => simp [List.intercalate]
    | cons word' l =>
      rw [List.flatMap_cons, ← ih (List.cons_ne_nil word' l)]
      simp [List.intercalate]

theorem intercalate_ne_nil {separator : List β} {l : List (List β)} (h : l ≠ [])
    (hl : ∀ word ∈ l, word ≠ []) : separator.intercalate l ≠ [] := by
  cases l with
  | nil => exact absurd rfl h
  | cons word l =>
    have hword := hl word List.mem_cons_self
    cases l with
    | nil => simpa [List.intercalate] using hword
    | cons word' l => simp [List.intercalate, hword]

/-- A list is read back from its words with a separator between them, when no word is
empty or contains the first symbol of the separator. -/
theorem intercalate_injective {mark : β} {rest : List β} {l l' : List (List β)}
    (hl : ∀ word ∈ l, word ≠ [] ∧ mark ∉ word) (hl' : ∀ word ∈ l', word ≠ [] ∧ mark ∉ word)
    (h : (mark :: rest).intercalate l = (mark :: rest).intercalate l') : l = l' := by
  by_cases hempty : l = [] ∨ l' = []
  · rcases hempty with rfl | rfl
    · by_contra hne
      exact intercalate_ne_nil (Ne.symm hne) (fun word hword => (hl' word hword).1) h.symm
    · by_contra hne
      exact intercalate_ne_nil hne (fun word hword => (hl word hword).1) h
  · obtain ⟨hne, hne'⟩ := not_or.mp hempty
    apply terminated_injective (fun word hword => (hl word hword).2)
      (fun word hword => (hl' word hword).2)
    rw [← intercalate_append hne, ← intercalate_append hne', h]

def frame (number : Nat → List β) (separator : β) (word : List β) : List β :=
  number word.length ++ separator :: word

/-- The length ends at the first separator and says how much of what follows
belongs to the word; separators inside the word are never looked for. -/
theorem frame_selfDelimiting {number : Nat → List β} {separator : β}
    (hinj : Function.Injective number) (hsep : ∀ n, separator ∉ number n) :
    SelfDelimiting (frame number separator) := by
  intro word word' x y heq
  unfold frame at heq
  rw [List.append_assoc, List.append_assoc, List.cons_append, List.cons_append] at heq
  obtain ⟨hnumber, hbody⟩ := split_unique (hsep _) (hsep _) heq
  exact List.append_inj hbody (hinj hnumber)

end Codes
