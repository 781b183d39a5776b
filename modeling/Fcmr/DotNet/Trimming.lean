import Fcmr.DotNet.Casing

/-! Trimming and the ordinal upper case commute: the case mapping neither moves a
whitespace character nor makes one. -/
namespace Fcmr.DotNet

def whiteRanges : List (Nat × Nat) :=
  [(0x09, 0x0D), (0x20, 0x20), (0x85, 0x85), (0xA0, 0xA0), (0x1680, 0x1680), (0x2000, 0x200A),
    (0x2028, 0x2029), (0x202F, 0x202F), (0x205F, 0x205F), (0x3000, 0x3000)]

theorem isWhiteSpace_iff {c : CodeUnit} :
    isWhiteSpace c = true ↔ ∃ white ∈ whiteRanges, white.1 ≤ c.toNat ∧ c.toNat ≤ white.2 := by
  simp only [isWhiteSpace, whiteRanges, Bool.or_eq_true, Bool.and_eq_true, decide_eq_true_eq,
    beq_iff_eq, UInt16.le_iff_toNat_le, ← UInt16.toNat_inj, UInt16.reduceToNat,
    List.exists_mem_cons_iff, List.not_mem_nil, false_and, exists_false, or_false]
  omega

structure CaseRange.Apart (range : CaseRange) : Prop where
  source : ∀ white ∈ whiteRanges, range.last < white.1 ∨ white.2 < range.first
  target : ∀ white ∈ whiteRanges, (range.last + range.offset : Int) < white.1 ∨
    (white.2 : Int) < range.first + range.offset
  unit : range.last < 0x10000 → 0 ≤ range.first + range.offset ∧ range.last + range.offset < 0x10000
  pair : 0x10000 ≤ range.last → 0x10000 ≤ range.first ∧ range.offset ≤ 0

theorem upperRanges_apart {range : CaseRange} (h : range ∈ upperRanges) : range.Apart := by
  have hall : ∀ range ∈ upperRanges,
      (∀ white ∈ whiteRanges, range.last < white.1 ∨ white.2 < range.first) ∧
      (∀ white ∈ whiteRanges, (range.last + range.offset : Int) < white.1 ∨
        (white.2 : Int) < range.first + range.offset) ∧
      (range.last < 0x10000 →
        0 ≤ range.first + range.offset ∧ range.last + range.offset < 0x10000) ∧
      (0x10000 ≤ range.last → 0x10000 ≤ range.first ∧ range.offset ≤ 0) := by
    decide +kernel
  obtain ⟨source, target, unit, pair⟩ := hall range h
  exact ⟨source, target, unit, pair⟩

theorem CaseRange.mem_of_covers {range : CaseRange} {c : Nat} (h : range.covers c = true) :
    range.first ≤ c ∧ c ≤ range.last := by
  simp only [covers, Bool.and_eq_true, decide_eq_true_eq] at h
  exact h.1

theorem upperValue_cases (c : Nat) : upperValue c = c ∨
    (0x61 ≤ c ∧ c ≤ 0x7A ∧ upperValue c = c - 0x20) ∨
    ∃ range ∈ upperRanges, range.first ≤ c ∧ c ≤ range.last ∧
      upperValue c = (c + range.offset).toNat := by
  unfold upperValue
  split
  · split
    · rename_i hletter
      exact .inr (.inl ⟨hletter.1, hletter.2, rfl⟩)
    · exact .inl rfl
  · split
    · rename_i range hfind
      obtain ⟨hfirst, hlast⟩ := CaseRange.mem_of_covers (List.find?_eq_some_iff_append.mp hfind).1
      exact .inr (.inr ⟨range, List.mem_of_find?_eq_some hfind, hfirst, hlast, rfl⟩)
    · exact .inl rfl

theorem toNat_upperUnit (c : CodeUnit) : (upperUnit c).toNat = upperValue c.toNat := by
  have hlt : upperValue c.toNat < 0x10000 := by
    have hc := c.toNat_lt
    rcases upperValue_cases c.toNat with hsame | ⟨_, _, hascii⟩ | ⟨range, hmem, hfirst, hlast, hvalue⟩
    · omega
    · omega
    · have hapart := upperRanges_apart hmem
      have hunit : range.last < 0x10000 := by
        have hpair := hapart.pair
        omega
      have hbounds := hapart.unit hunit
      omega
  rw [upperUnit, UInt16.toNat_ofNat']
  exact Nat.mod_eq_of_lt hlt

theorem isWhiteSpace_upperUnit (c : CodeUnit) : isWhiteSpace (upperUnit c) = isWhiteSpace c := by
  rw [Bool.eq_iff_iff, isWhiteSpace_iff, isWhiteSpace_iff, toNat_upperUnit]
  rcases upperValue_cases c.toNat with hsame | ⟨hfirst, hlast, hascii⟩ |
    ⟨range, hmem, hfirst, hlast, hvalue⟩
  · rw [hsame]
  · rw [hascii]
    simp only [whiteRanges, List.exists_mem_cons_iff, List.not_mem_nil, false_and, exists_false,
      or_false]
    omega
  · have hapart := upperRanges_apart hmem
    constructor
    · rintro ⟨white, hwhite, hlow, hhigh⟩
      have hc := c.toNat_lt
      have htarget := hapart.target white hwhite
      rw [hvalue] at hlow hhigh
      have hunit : range.last < 0x10000 := by
        have hpair := hapart.pair
        omega
      have hbounds := hapart.unit hunit
      omega
    · rintro ⟨white, hwhite, hlow, hhigh⟩
      have hsource := hapart.source white hwhite
      omega

theorem isWhiteSpace_surrogate {c : CodeUnit} (h : 0xD800 ≤ c.toNat ∧ c.toNat ≤ 0xDFFF) :
    isWhiteSpace c = false := by
  rw [Bool.eq_false_iff, ne_eq, isWhiteSpace_iff]
  simp only [whiteRanges, List.exists_mem_cons_iff, List.not_mem_nil, false_and, exists_false,
    or_false]
  omega

theorem isWhiteSpace_highSurrogate {c : CodeUnit} (h : isHighSurrogate c = true) :
    isWhiteSpace c = false := by
  have hrange := isHighSurrogate_iff.mp h
  exact isWhiteSpace_surrogate (by omega)

theorem isWhiteSpace_lowSurrogate {c : CodeUnit} (h : isLowSurrogate c = true) :
    isWhiteSpace c = false := by
  have hrange := isLowSurrogate_iff.mp h
  exact isWhiteSpace_surrogate (by omega)

theorem upperPair_eq {high low : CodeUnit} (hhigh : isHighSurrogate high = true)
    (hlow : isLowSurrogate low = true) :
    ∃ high' low', upperPair high low = [high', low'] ∧ isHighSurrogate high' = true ∧
      isLowSurrogate low' = true := by
  have hlt : upperValue (pairValue high low) - 0x10000 < 0x100000 := by
    rw [isHighSurrogate_iff] at hhigh
    rw [isLowSurrogate_iff] at hlow
    have hpair : pairValue high low < 0x110000 ∧ 0x10000 ≤ pairValue high low := by
      unfold pairValue
      omega
    rcases upperValue_cases (pairValue high low) with hsame | ⟨_, _, hascii⟩ |
      ⟨range, hmem, hfirst, hlast, hvalue⟩
    · omega
    · omega
    · have hoffset := (upperRanges_apart hmem).pair (by omega)
      omega
  refine ⟨_, _, rfl, ?_, ?_⟩
  · rw [isHighSurrogate_iff, UInt16.toNat_ofNat']
    omega
  · rw [isLowSurrogate_iff, UInt16.toNat_ofNat']
    omega

theorem toUpperOrdinal_trimStart (value : Text) :
    toUpperOrdinal (value.dropWhile isWhiteSpace) =
      (toUpperOrdinal value).dropWhile isWhiteSpace := by
  induction value using toUpperOrdinal.induct with
  | case1 => rfl
  | case2 c =>
    cases h : isWhiteSpace c <;> simp [toUpperOrdinal, isWhiteSpace_upperUnit, h]
  | case3 high low rest hpair ih =>
    obtain ⟨hhigh, hlow⟩ := Bool.and_eq_true_iff.mp hpair
    obtain ⟨high', low', heq, hhigh', _⟩ := upperPair_eq hhigh hlow
    simp [toUpperOrdinal, hpair, heq, isWhiteSpace_highSurrogate hhigh,
      isWhiteSpace_highSurrogate hhigh']
  | case4 high low rest hpair ih =>
    have hstep : toUpperOrdinal (high :: low :: rest) =
        upperUnit high :: toUpperOrdinal (low :: rest) := by
      rw [toUpperOrdinal, if_neg hpair]
    cases h : isWhiteSpace high with
    | true => rw [List.dropWhile_cons_of_pos h, ih, hstep,
        List.dropWhile_cons_of_pos (by rwa [isWhiteSpace_upperUnit])]
    | false =>
      rw [List.dropWhile_cons_of_neg (by simp [h]), hstep,
        List.dropWhile_cons_of_neg (by simp [isWhiteSpace_upperUnit, h])]

theorem toUpperOrdinal_concat {c : CodeUnit} (h : isWhiteSpace c = true) (value : Text) :
    toUpperOrdinal (value ++ [c]) = toUpperOrdinal value ++ [upperUnit c] := by
  have hlow : isLowSurrogate c = false := by
    rw [Bool.eq_false_iff]
    intro hlow
    rw [isWhiteSpace_lowSurrogate hlow] at h
    cases h
  induction value using toUpperOrdinal.induct with
  | case1 => rfl
  | case2 high => simp [toUpperOrdinal, hlow]
  | case3 high low rest hpair ih => simp [toUpperOrdinal, hpair, ih]
  | case4 high low rest hpair ih =>
    rw [List.cons_append] at ih
    simp [toUpperOrdinal, hpair, ih]

theorem toUpperOrdinal_getLast (value : Text) :
    (toUpperOrdinal value).getLast?.map isWhiteSpace = value.getLast?.map isWhiteSpace := by
  have happend (front front' : Text) {back back' : Text}
      (hfront : front.getLast?.map isWhiteSpace = front'.getLast?.map isWhiteSpace)
      (hback : back.getLast?.map isWhiteSpace = back'.getLast?.map isWhiteSpace) :
      (front ++ back).getLast?.map isWhiteSpace = (front' ++ back').getLast?.map isWhiteSpace := by
    rw [List.getLast?_append, List.getLast?_append, Option.map_or, Option.map_or, hfront, hback]
  induction value using toUpperOrdinal.induct with
  | case1 => rfl
  | case2 c => simp [toUpperOrdinal, isWhiteSpace_upperUnit]
  | case3 high low rest hpair ih =>
    obtain ⟨_, hlow⟩ := Bool.and_eq_true_iff.mp hpair
    obtain ⟨high', low', heq, _, hlow'⟩ := upperPair_eq (Bool.and_eq_true_iff.mp hpair).1 hlow
    rw [toUpperOrdinal, if_pos hpair, heq]
    refine happend [high', low'] [high, low] ?_ ih
    simp [isWhiteSpace_lowSurrogate hlow, isWhiteSpace_lowSurrogate hlow']
  | case4 high low rest hpair ih =>
    rw [toUpperOrdinal, if_neg hpair]
    refine happend [upperUnit high] [high] ?_ ih
    simp [isWhiteSpace_upperUnit]

theorem toUpperOrdinal_trimEnd (value : Text) :
    toUpperOrdinal (value.rdropWhile isWhiteSpace) =
      (toUpperOrdinal value).rdropWhile isWhiteSpace := by
  induction value using List.reverseRecOn with
  | nil => rfl
  | append_singleton value c ih =>
    cases h : isWhiteSpace c with
    | true =>
      rw [List.rdropWhile_concat_pos _ _ _ h, ih, toUpperOrdinal_concat h,
        List.rdropWhile_concat_pos _ _ _ (by rwa [isWhiteSpace_upperUnit])]
    | false =>
      rw [List.rdropWhile_concat_neg _ _ _ (by simp [h])]
      symm
      apply List.rdropWhile_eq_self_iff.mpr
      intro hne hlast
      have hsame := toUpperOrdinal_getLast (value ++ [c])
      rw [List.getLast?_eq_some_getLast hne] at hsame
      simp [hlast, h] at hsame

theorem toUpperOrdinal_trim (value : Text) :
    toUpperOrdinal (trim value) = trim (toUpperOrdinal value) := by
  rw [trim, toUpperOrdinal_trimEnd, toUpperOrdinal_trimStart, ← trim]

theorem equalsOrdinalIgnoreCase_trim {left right : Text}
    (h : equalsOrdinalIgnoreCase (some left) (some right) = true) :
    equalsOrdinalIgnoreCase (some (trim left)) (some (trim right)) = true := by
  simp only [equalsOrdinalIgnoreCase, Option.map_some, beq_iff_eq, Option.some.injEq] at h ⊢
  rw [toUpperOrdinal_trim, toUpperOrdinal_trim, h]

theorem equalsOrdinalIgnoreCase_comm (left right : Option Text) :
    equalsOrdinalIgnoreCase left right = equalsOrdinalIgnoreCase right left :=
  BEq.comm

end Fcmr.DotNet
