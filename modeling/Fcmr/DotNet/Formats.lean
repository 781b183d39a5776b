import Fcmr.DotNet.Floating
import Fcmr.DotNet.Time
import Mathlib.Data.Rat.Floor

/-! Format strings under the invariant culture. Unlike the arithmetic, they
round a tie away from zero. -/
namespace Fcmr.DotNet

def groupedReverse : Text → Text
  | a :: b :: c :: d :: rest => a :: b :: c :: digit ',' :: groupedReverse (d :: rest)
  | digits => digits

def groupedText (n : Nat) : Text := (groupedReverse (natText n).reverse).reverse

def Decimal.unitsAwayFromZero (d : Decimal) (places : Nat) : Nat :=
  if d.scale ≤ places then d.coefficient * 10 ^ (places - d.scale)
  else (2 * d.coefficient + 10 ^ (d.scale - places)) / (2 * 10 ^ (d.scale - places))

def groupedFixedText (units places : Nat) : Text :=
  groupedText (units / 10 ^ places) ++
    if places = 0 then [] else lit "." ++ fixedText places (units % 10 ^ places)

/-- `ToString("N<places>")`. What rounds to zero has no sign. -/
def Decimal.numberText (d : Decimal) (places : Nat) : Text :=
  let units := d.unitsAwayFromZero places
  (if d.negative ∧ units ≠ 0 then lit "-" else []) ++ groupedFixedText units places

/-- `ToString("C<places>")`: the invariant currency sign, parentheses for a negative amount. -/
def Decimal.currencyText (d : Decimal) (places : Nat) : Text :=
  let units := d.unitsAwayFromZero places
  if d.negative ∧ units ≠ 0 then lit "(¤" ++ groupedFixedText units places ++ lit ")"
  else lit "¤" ++ groupedFixedText units places

def groupedIntText (n : Int32) : Text := (Decimal.ofInt32 n).numberText 0

/-- An integer part, and the decimal places up to the last digit that is not zero. -/
def placesText (units places : Nat) : Text :=
  let digits := (fixedText places (units % 10 ^ places)).rdropWhile (· == digit '0')
  natText (units / 10 ^ places) ++ if digits = [] then [] else lit "." ++ digits

/-- `ToString("0.###")`, for as many places as the format has. -/
def Decimal.placesText (d : Decimal) (places : Nat) : Text :=
  let units := d.unitsAwayFromZero places
  (if d.negative ∧ units ≠ 0 then lit "-" else []) ++ DotNet.placesText units places

/-- `ToString("0.00")`, for as many places as the format has. -/
def Decimal.fixedText (d : Decimal) (places : Nat) : Text :=
  let units := d.unitsAwayFromZero places
  (if d.negative ∧ units ≠ 0 then lit "-" else []) ++ natText (units / 10 ^ places) ++ lit "." ++
    DotNet.fixedText places (units % 10 ^ places)

/-- The amount in units of the last place, a tie away from zero. -/
def Decimal.rounded (d : Decimal) (places : Nat) : Int :=
  if d.negative then -(d.unitsAwayFromZero places : Int) else d.unitsAwayFromZero places

/-- `ToString("0.##")`, from the first fifteen significant digits. -/
def Double.placesText (x : Double) (places : Nat) : Text :=
  if x.isNaN then lit "NaN"
  else if x.exponent = 0x7FF then if x.isNegative then lit "-Infinity" else lit "Infinity"
  else
    let n := x.toRat.num.natAbs
    let last := leadingPower 10 n x.toRat.den (fun n => (natText n).length - 1) - 14
    let digits := scaledDiv 10 n x.toRat.den last
    let units :=
      (2 * digits * 10 ^ (last + places).toNat + 10 ^ (-(last + places)).toNat) /
        (2 * 10 ^ (-(last + places)).toNat)
    (if x.isNegative ∧ units ≠ 0 then lit "-" else []) ++ DotNet.placesText units places

def sortableText (instant : DateTimeOffset) : Text :=
  let seconds := instant / 10000000
  let date := dateOfDays (seconds / 86400)
  fixedText 4 date.year ++ lit "-" ++ fixedText 2 date.month ++ lit "-" ++ fixedText 2 date.day ++
    lit " " ++ fixedText 2 (seconds / 3600 % 24) ++ lit ":" ++ fixedText 2 (seconds / 60 % 60) ++
    lit ":" ++ fixedText 2 (seconds % 60) ++ lit "Z"

def roundTripText (instant : OffsetDateTime) : Text :=
  let ticks := (instant.utc + instant.offset * 600000000).toNat
  let seconds := ticks / 10000000
  let date := dateOfDays (seconds / 86400)
  fixedText 4 date.year ++ lit "-" ++ fixedText 2 date.month ++ lit "-" ++ fixedText 2 date.day ++
    lit "T" ++ fixedText 2 (seconds / 3600 % 24) ++ lit ":" ++ fixedText 2 (seconds / 60 % 60) ++
    lit ":" ++ fixedText 2 (seconds % 60) ++ lit "." ++ fixedText 7 (ticks % 10000000) ++
    (if instant.offset < 0 then lit "-" else lit "+") ++
    fixedText 2 (instant.offset.natAbs / 60) ++ lit ":" ++ fixedText 2 (instant.offset.natAbs % 60)

/-- `ToString("D<width>")` of a non-negative integer. -/
def paddedText (width n : Nat) : Text :=
  (List.replicate (width - (Nat.toDigits 10 n).length) '0' ++ Nat.toDigits 10 n).map digit

theorem paddedText_injective (width : Nat) : Function.Injective (paddedText width) := by
  have hvalue (n : Nat) : Nat.ofDigitChars 10
      (List.replicate (width - (Nat.toDigits 10 n).length) '0' ++ Nat.toDigits 10 n) 0 = n := by
    rw [Nat.ofDigitChars_append, Nat.ofDigitChars_replicate_zero, Nat.mul_zero,
      Nat.ofDigitChars_toDigits (by decide) (by decide)]
  have hdigit (n : Nat) : ∀ c ∈ List.replicate (width - (Nat.toDigits 10 n).length) '0' ++
      Nat.toDigits 10 n, c.isDigit = true := by
    intro c hc
    rcases List.mem_append.mp hc with hzero | hmem
    · rw [List.eq_of_mem_replicate hzero]
      rfl
    · exact isDigit_of_mem hmem
  intro n m h
  rw [← hvalue n, ← hvalue m, eq_of_map_digit (hdigit n) (hdigit m) h]

def join (separator : Text) (values : List Text) : Text := separator.intercalate values

theorem eq_of_rdropWhile {c : CodeUnit} {l l' : Text} (hlength : l.length = l'.length)
    (h : l.rdropWhile (· == c) = l'.rdropWhile (· == c)) : l = l' := by
  have hdropped (l : Text) : ∃ n, l = l.rdropWhile (· == c) ++ List.replicate n c := by
    refine ⟨(l.rtakeWhile (· == c)).length, ?_⟩
    have hall : l.rtakeWhile (· == c) = List.replicate (l.rtakeWhile (· == c)).length c := by
      refine List.eq_replicate_of_mem fun b hb => ?_
      simpa using List.mem_rtakeWhile_imp hb
    rw [← hall, List.rdropWhile_append_rtakeWhile]
  obtain ⟨n, hn⟩ := hdropped l
  obtain ⟨n', hn'⟩ := hdropped l'
  rw [hn, hn', h] at hlength
  simp only [List.length_append, List.length_replicate] at hlength
  rw [hn, hn', h, Nat.add_left_cancel hlength]

theorem natText_ne_fraction {n n' : Nat} {digits : Text} :
    natText n ≠ natText n' ++ (lit "." ++ digits) := by
  intro h
  apply mark_not_mem_natText n
  rw [h]
  exact List.mem_append_right _ List.mem_cons_self

theorem fraction_injective {n n' : Nat} {digits digits' : Text}
    (h : natText n ++ (if digits = [] then [] else lit "." ++ digits) =
      natText n' ++ if digits' = [] then [] else lit "." ++ digits') : n = n' ∧ digits = digits' := by
  split at h <;> split at h
  · rename_i hempty hempty'
    simp only [List.append_nil] at h
    exact ⟨natText_injective h, hempty.trans hempty'.symm⟩
  · simp only [List.append_nil] at h
    exact absurd h natText_ne_fraction
  · simp only [List.append_nil] at h
    exact absurd h.symm natText_ne_fraction
  · obtain ⟨hinteger, hdigits⟩ := Codes.split_unique (mark_not_mem_natText n)
      (mark_not_mem_natText n') h
    exact ⟨natText_injective hinteger, hdigits⟩

theorem placesText_injective (places : Nat) : Function.Injective (placesText · places) := by
  intro units units' h
  have hpos : 0 < 10 ^ places := Nat.pow_pos (by decide)
  obtain ⟨hinteger, hdigits⟩ := fraction_injective h
  have hmod := fixedText_injective (Nat.mod_lt _ hpos) (Nat.mod_lt _ hpos)
    (eq_of_rdropWhile (by simp) hdigits)
  rw [← Nat.div_add_mod units (10 ^ places), hinteger, hmod, Nat.div_add_mod]

theorem Decimal.placesText_eq (d : Decimal) (places : Nat) : d.placesText places =
    (if d.rounded places < 0 then lit "-" else []) ++
      DotNet.placesText (d.rounded places).natAbs places := by
  unfold placesText rounded
  cases d.negative with
  | false => simp
  | true => simp [Nat.pos_iff_ne_zero]

theorem Decimal.placesText_inj {d d' : Decimal} {places : Nat} :
    d.placesText places = d'.placesText places ↔ d.rounded places = d'.rounded places := by
  rw [placesText_eq, placesText_eq]
  refine ⟨fun h => ?_, fun h => by rw [h]⟩
  have habs (h : DotNet.placesText (d.rounded places).natAbs places =
      DotNet.placesText (d'.rounded places).natAbs places) :
      (d.rounded places).natAbs = (d'.rounded places).natAbs := placesText_injective places h
  by_cases hneg : d.rounded places < 0 <;> by_cases hneg' : d'.rounded places < 0
  · rw [if_pos hneg, if_pos hneg'] at h
    have heq := habs (List.append_cancel_left h)
    omega
  · rw [if_pos hneg, if_neg hneg'] at h
    exact absurd h sign_ne_natText
  · rw [if_neg hneg, if_pos hneg'] at h
    exact absurd h.symm sign_ne_natText
  · rw [if_neg hneg, if_neg hneg'] at h
    have heq := habs h
    omega

theorem Decimal.unitsAwayFromZero_eq (d : Decimal) (places : Nat) :
    (d.unitsAwayFromZero places : ℤ) = ⌊|d.value| * 10 ^ places + 1 / 2⌋ := by
  unfold unitsAwayFromZero
  rw [abs_value]
  split
  · rename_i hscale
    obtain ⟨more, rfl⟩ := Nat.exists_eq_add_of_le hscale
    have hexact : (d.coefficient : ℚ) / 10 ^ d.scale * 10 ^ (d.scale + more) + 1 / 2 =
        ((d.coefficient * 10 ^ more : ℕ) : ℚ) + 1 / 2 := by
      rw [pow_add]
      push_cast
      field_simp
    rw [hexact, Int.floor_natCast_add, Nat.add_sub_cancel_left]
    norm_num
  · rename_i hscale
    obtain ⟨less, hless⟩ := Nat.exists_eq_add_of_le (Nat.le_of_not_le hscale)
    have hquotient : (d.coefficient : ℚ) / 10 ^ d.scale * 10 ^ places + 1 / 2 =
        ((2 * d.coefficient + 10 ^ less : ℕ) : ℚ) / (2 * 10 ^ less : ℕ) := by
      rw [hless, pow_add]
      push_cast
      field_simp
    rw [hquotient, Rat.floor_natCast_div_natCast, hless, Nat.add_sub_cancel_left]
    norm_cast

theorem Decimal.placesText_congr {d d' : Decimal} (places : Nat) (h : d.value = d'.value) :
    d.placesText places = d'.placesText places := by
  have hrounded (d : Decimal) : d.rounded places =
      if d.value < 0 then -⌊|d.value| * 10 ^ places + 1 / 2⌋
      else ⌊|d.value| * 10 ^ places + 1 / 2⌋ := by
    have hunits := d.unitsAwayFromZero_eq places
    have hmagnitude : (0 : ℚ) ≤ d.coefficient / 10 ^ d.scale := by positivity
    unfold rounded
    cases hnegative : d.negative with
    | false =>
      have hvalue : ¬d.value < 0 := by
        rw [value, hnegative, if_neg Bool.false_ne_true, one_mul, not_lt]
        exact hmagnitude
      rw [if_neg hvalue, ← hunits, if_neg Bool.false_ne_true]
    | true =>
      have hvalue : d.value = -(d.coefficient / 10 ^ d.scale) := by
        rw [value, hnegative, if_pos rfl, neg_one_mul, neg_div]
      rw [if_pos rfl, ← hunits]
      split
      · rfl
      · rename_i hnonneg
        have hzero : d.value = 0 := by linarith
        rw [hunits, hzero]
        norm_num
  rw [placesText_inj, hrounded, hrounded, h]

example : (Decimal.mk true 12345675 3 (by decide) (by decide)).numberText 2 = lit "-12,345.68" := by
  decide

example : roundTripText ⟨638448479980000001, -90, by decide, by decide⟩ =
    lit "2024-02-29T22:29:58.0000001-01:30" := by
  decide

example : (Double.ofRat (3525 / 10000)).placesText 2 = lit "0.35" ∧
    (Decimal.literal 30 2).placesText 3 = lit "0.3" := by
  decide +kernel

end Fcmr.DotNet
