import Fcmr.DotNet.Text

/-! `new UTF8Encoding(false).GetBytes`. The encoder reads code points off the
UTF-16 code units and writes U+FFFD for every surrogate without its partner, so
two strings have the same bytes exactly when they differ in such places only. -/
namespace Fcmr.DotNet

def isSurrogate (c : CodeUnit) : Bool := isHighSurrogate c || isLowSurrogate c

def replacement : CodeUnit := 0xFFFD

def unitChar (c : CodeUnit) : Char :=
  Char.ofNat (if isSurrogate c then replacement else c).toNat

def runes : Text → List Char
  | [] => []
  | [c] => [unitChar c]
  | c :: d :: rest =>
    if isHighSurrogate c && isLowSurrogate d then Char.ofNat (pairValue c d) :: runes rest
    else unitChar c :: runes (d :: rest)

def getBytes (value : Text) : List UInt8 := (runes value).flatMap String.utf8EncodeChar

/-- A surrogate at position `i` whose partner is not beside it. -/
def unpairedAt (value : Text) (i : Nat) : Bool :=
  match value[i]? with
  | none => false
  | some c => (isHighSurrogate c && !value[i + 1]?.any isLowSurrogate) ||
    (isLowSurrogate c && !(decide (0 < i) && value[i - 1]?.any isHighSurrogate))

/-- The encoder writes U+FFFD for position `i`. -/
def replacedAt (value : Text) (i : Nat) : Bool :=
  value[i]? == some replacement || unpairedAt value i

/-- The string with its unpaired surrogates replaced; `afterHigh` says that a high
surrogate stands before it. -/
def scrub : (afterHigh : Bool) → Text → Text
  | _, [] => []
  | afterHigh, c :: rest =>
    (if (isHighSurrogate c && !rest.head?.any isLowSurrogate) || (isLowSurrogate c && !afterHigh)
      then replacement else c) :: scrub (isHighSurrogate c) rest

theorem isSurrogate_eq_false_iff {c : CodeUnit} :
    isSurrogate c = false ↔ c.toNat < 0xD800 ∨ 0xDFFF < c.toNat := by
  simp only [← Bool.not_eq_true, isSurrogate, Bool.or_eq_true, isHighSurrogate_iff,
    isLowSurrogate_iff]
  omega

theorem not_high_of_low {c : CodeUnit} (h : isLowSurrogate c = true) :
    isHighSurrogate c = false := by
  have hlow := isLowSurrogate_iff.mp h
  by_contra hhigh
  have hbound := isHighSurrogate_iff.mp (by simpa using hhigh)
  omega

theorem toNat_charOfNat {n : Nat} (h : n.isValidChar) : (Char.ofNat n).toNat = n := by
  rw [Char.ofNat, dif_pos h]
  rfl

theorem toNat_unit {c : CodeUnit} (h : isSurrogate c = false) : c.toNat.isValidChar := by
  have hbound := c.toNat_lt
  have hplace := isSurrogate_eq_false_iff.mp h
  simp only [Nat.isValidChar]
  omega

theorem utf16_unitChar (c : CodeUnit) :
    utf16 (unitChar c) = [if isSurrogate c then replacement else c] := by
  have hunit : isSurrogate (if isSurrogate c then replacement else c) = false := by
    split
    · decide
    · simp_all
  generalize hd : (if isSurrogate c then replacement else c) = d at hunit
  have hsmall : d.toNat < 0x10000 := d.toNat_lt
  rw [unitChar, hd, utf16, toNat_charOfNat (toNat_unit hunit), if_pos hsmall, UInt16.ofNat_toNat]

theorem pairValue_eq {c d : CodeUnit} {x y : Nat} (hc : c.toNat = 0xD800 + x)
    (hd : d.toNat = 0xDC00 + y) : pairValue c d = 0x10000 + x * 0x400 + y := by
  unfold pairValue
  omega

theorem utf16_pair {c d : CodeUnit} (hc : isHighSurrogate c = true) (hd : isLowSurrogate d = true) :
    utf16 (Char.ofNat (pairValue c d)) = [c, d] := by
  obtain ⟨hc, hc'⟩ := isHighSurrogate_iff.mp hc
  obtain ⟨hd, hd'⟩ := isLowSurrogate_iff.mp hd
  obtain ⟨x, hx⟩ := Nat.exists_eq_add_of_le hc
  obtain ⟨y, hy⟩ := Nat.exists_eq_add_of_le hd
  have hvalue := pairValue_eq hx hy
  have hvalid : (pairValue c d).isValidChar := by
    simp only [Nat.isValidChar]
    omega
  have hhigh : 0xD800 + (pairValue c d - 0x10000) / 0x400 = c.toNat := by omega
  have hlow : 0xDC00 + (pairValue c d - 0x10000) % 0x400 = d.toNat := by omega
  rw [utf16, toNat_charOfNat hvalid, if_neg (by omega), hhigh, hlow, UInt16.ofNat_toNat,
    UInt16.ofNat_toNat]

theorem runes_cons {c : CodeUnit} {rest : Text}
    (h : isHighSurrogate c = true → rest.head?.any isLowSurrogate = false) :
    runes (c :: rest) = unitChar c :: runes rest := by
  cases rest with
  | nil => rfl
  | cons d rest =>
    rw [runes, if_neg]
    intro hpair
    simp only [Bool.and_eq_true] at hpair
    simp [hpair.2] at h
    simp [h] at hpair

theorem runes_flatMap_utf16 (chars : List Char) : runes (chars.flatMap utf16) = chars := by
  induction chars with
  | nil => rfl
  | cons c chars ih =>
    have hvalid : c.toNat.isValidChar := c.valid
    simp only [Nat.isValidChar] at hvalid
    rw [List.flatMap_cons, utf16]
    split
    · rename_i hsmall
      have hc : (UInt16.ofNat c.toNat).toNat = c.toNat := UInt16.toNat_ofNat_of_lt hsmall
      have hsurrogate : isSurrogate (UInt16.ofNat c.toNat) = false := by
        rw [isSurrogate_eq_false_iff, hc]
        omega
      have hhigh : isHighSurrogate (UInt16.ofNat c.toNat) = false :=
        (Bool.or_eq_false_iff.mp hsurrogate).1
      rw [List.singleton_append, runes_cons (by simp [hhigh]), ih, unitChar, hsurrogate]
      simp [hc]
    · rename_i hlarge
      generalize hx : (c.toNat - 0x10000) / 0x400 = x
      generalize hy : (c.toNat - 0x10000) % 0x400 = y
      have hc : (UInt16.ofNat (0xD800 + x)).toNat = 0xD800 + x :=
        UInt16.toNat_ofNat_of_lt (by simp only [UInt16.size]; omega)
      have hd : (UInt16.ofNat (0xDC00 + y)).toNat = 0xDC00 + y :=
        UInt16.toNat_ofNat_of_lt (by simp only [UInt16.size]; omega)
      have hhigh : isHighSurrogate (UInt16.ofNat (0xD800 + x)) = true := by
        rw [isHighSurrogate_iff, hc]
        omega
      have hlow : isLowSurrogate (UInt16.ofNat (0xDC00 + y)) = true := by
        rw [isLowSurrogate_iff, hd]
        omega
      have hvalue := pairValue_eq hc hd
      have hsum : 0x10000 + x * 0x400 + y = c.toNat := by omega
      rw [List.cons_append, List.cons_append, List.nil_append, runes,
        if_pos (by rw [hhigh, hlow]; rfl), ih, hvalue, hsum, Char.ofNat_toNat]

theorem flatMap_runes (value : Text) (afterHigh : Bool)
    (h : afterHigh = true → value.head?.any isLowSurrogate = false) :
    (runes value).flatMap utf16 = scrub afterHigh value := by
  induction value using runes.induct generalizing afterHigh with
  | case1 => rfl
  | case2 c =>
    cases hlow : isLowSurrogate c <;> simp_all [runes, scrub, utf16_unitChar, isSurrogate]
  | case3 c d rest hpair ih =>
    simp only [Bool.and_eq_true] at hpair
    have hd := not_high_of_low hpair.2
    have hlow : isLowSurrogate c = false := by
      by_contra hl
      simp [not_high_of_low (by simpa using hl)] at hpair
    rw [runes, if_pos (by simp [hpair]), List.flatMap_cons, utf16_pair hpair.1 hpair.2, ih false
      (by simp)]
    simp [scrub, hpair.1, hpair.2, hd, hlow]
  | case4 c d rest hpair ih =>
    have htail : isHighSurrogate c = true → (d :: rest).head?.any isLowSurrogate = false := by
      intro hc
      simpa [hc] using hpair
    rw [runes_cons htail, List.flatMap_cons, utf16_unitChar, ih _ htail, List.singleton_append]
    conv_rhs => rw [scrub]
    congr 1
    cases hc : isHighSurrogate c <;> cases hl : isLowSurrogate c <;> simp_all [isSurrogate]

theorem runes_inj {value value' : Text} :
    runes value = runes value' ↔ scrub false value = scrub false value' := by
  rw [← flatMap_runes value false (by simp), ← flatMap_runes value' false (by simp)]
  constructor
  · intro h
    rw [h]
  · intro h
    rw [← runes_flatMap_utf16 (runes value), h, runes_flatMap_utf16]

theorem utf8_injective :
    Function.Injective fun chars : List Char => chars.flatMap String.utf8EncodeChar := by
  intro chars chars' h
  have hbytes : chars.utf8Encode = chars'.utf8Encode := by
    simp only [List.utf8Encode]
    exact congrArg List.toByteArray h
  exact String.ofList_injective (String.toByteArray_inj.mp (by simpa using hbytes))

theorem getBytes_inj {value value' : Text} :
    getBytes value = getBytes value' ↔ scrub false value = scrub false value' :=
  utf8_injective.eq_iff.trans runes_inj

theorem getElem?_scrub (value : Text) (afterHigh : Bool) (i : Nat) :
    (scrub afterHigh value)[i]? = value[i]?.map fun c =>
      if (isHighSurrogate c && !value[i + 1]?.any isLowSurrogate) ||
        (isLowSurrogate c && !(if i = 0 then afterHigh else value[i - 1]?.any isHighSurrogate))
      then replacement else c := by
  induction value generalizing afterHigh i with
  | nil => rfl
  | cons c rest ih =>
    cases i with
    | zero => simp [scrub, List.head?_eq_getElem?]
    | succ i =>
      rw [scrub, List.getElem?_cons_succ, ih]
      cases i with
      | zero => simp
      | succ i => simp

theorem getElem?_scrub_false (value : Text) (i : Nat) : (scrub false value)[i]? =
    value[i]?.map fun c => if unpairedAt value i then replacement else c := by
  rw [getElem?_scrub]
  cases h : value[i]? with
  | none => rfl
  | some c =>
    cases i with
    | zero => simp [unpairedAt, h]
    | succ i => simp [unpairedAt, h]

/-- Where one string pairs a code unit that the other leaves alone, the partner of
the pair is a readable difference. -/
theorem exists_partner {value value' : Text} {i : Nat} (hi : value[i]? = value'[i]?)
    (h : unpairedAt value i = true) (h' : unpairedAt value' i = false) :
    ∃ j, value[j]? ≠ value'[j]? ∧ replacedAt value' j = false := by
  cases hc : value'[i]? with
  | none => simp [unpairedAt, hi, hc] at h
  | some c =>
    rw [unpairedAt, hi, hc] at h
    rw [unpairedAt, hc] at h'
    simp only [Bool.or_eq_true, Bool.and_eq_true, Bool.not_eq_true', Bool.or_eq_false_iff] at h h'
    rcases h with ⟨hhigh, hnext⟩ | ⟨hlow, hbefore⟩
    · have hnext' : value'[i + 1]?.any isLowSurrogate = true := by simpa [hhigh] using h'.1
      obtain ⟨d, hd, hdlow⟩ := (Option.any_eq_true _ _).mp hnext'
      refine ⟨i + 1, fun heq => by simp [heq, hnext'] at hnext, ?_⟩
      have hne : d ≠ replacement := by
        rintro rfl
        exact absurd hdlow (by decide)
      simp [replacedAt, unpairedAt, hd, hc, hhigh, not_high_of_low hdlow, hne]
    · have hbefore' : 0 < i ∧ value'[i - 1]?.any isHighSurrogate = true := by
        simpa [hlow] using h'.2
      obtain ⟨hpos, hany⟩ := hbefore'
      obtain ⟨d, hd, hdhigh⟩ := (Option.any_eq_true _ _).mp hany
      refine ⟨i - 1, fun heq => by simp [heq, hany, hpos] at hbefore, ?_⟩
      have hne : d ≠ replacement := by
        rintro rfl
        exact absurd hdhigh (by decide)
      have hdlow : isLowSurrogate d = false := by
        by_contra hl
        simp [not_high_of_low (by simpa using hl)] at hdhigh
      simp [replacedAt, unpairedAt, hd, Nat.sub_add_cancel hpos, hc, hlow, hdlow, hne]

theorem getBytes_eq_iff {value value' : Text} : getBytes value = getBytes value' ↔
    ∀ i, value[i]? = value'[i]? ∨ (replacedAt value i = true ∧ replacedAt value' i = true) := by
  rw [getBytes_inj]
  constructor
  · intro h i
    have hi := congrArg (·[i]?) h
    simp only [getElem?_scrub_false] at hi
    cases hc : value[i]? with
    | none =>
      rw [hc] at hi
      exact .inl (Option.map_eq_none_iff.mp hi.symm).symm
    | some c =>
      cases hc' : value'[i]? with
      | none => simp_all
      | some c' =>
        cases hu : unpairedAt value i <;> cases hu' : unpairedAt value' i <;>
          simp_all [replacedAt]
  · intro h
    apply List.ext_getElem?
    intro i
    rw [getElem?_scrub_false, getElem?_scrub_false]
    rcases h i with hi | ⟨hr, hr'⟩
    · rw [hi]
      congr 2
      funext c
      cases hu : unpairedAt value i <;> cases hu' : unpairedAt value' i
      · rfl
      · obtain ⟨j, hne, hread⟩ := exists_partner hi.symm hu' hu
        rcases h j with hj | ⟨hj, _⟩
        · exact absurd hj.symm hne
        · simp [hread] at hj
      · obtain ⟨j, hne, hread⟩ := exists_partner hi hu hu'
        rcases h j with hj | ⟨_, hj⟩
        · exact absurd hj hne
        · simp [hread] at hj
      · rfl
    · have hscrub {t : Text} (ht : replacedAt t i = true) :
          (t[i]?.map fun c => if unpairedAt t i then replacement else c) = some replacement := by
        cases hc : t[i]? with
        | none => simp [replacedAt, unpairedAt, hc] at ht
        | some c =>
          cases hu : unpairedAt t i <;> simp_all [replacedAt]
      rw [hscrub hr, hscrub hr']

end Fcmr.DotNet
