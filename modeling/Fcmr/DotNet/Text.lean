import Mathlib.Algebra.Group.Nat.Defs
import Mathlib.Data.List.Lex
import Mathlib.Data.List.DropRight
import Mathlib.Tactic.Common

/-! Strings as the runtime stores them, sequences of UTF-16 code units. Ordinal
comparison, the whitespace class and the invariant rendering of integers follow
`System.String`, `System.Char` and `System.Int32`. -/
namespace Fcmr.DotNet

abbrev CodeUnit := UInt16
abbrev Text := List CodeUnit

instance linearOrderUInt16 : LinearOrder UInt16 where
  le_refl := UInt16.le_refl
  le_trans := fun _ _ _ => UInt16.le_trans
  le_antisymm := fun _ _ => UInt16.le_antisymm
  le_total := UInt16.le_total
  lt_iff_le_not_ge := fun a b => by
    simp only [UInt16.lt_iff_toNat_lt, UInt16.le_iff_toNat_le]
    omega
  toDecidableLE := inferInstance
  toDecidableEq := inferInstance
  toDecidableLT := inferInstance

def utf16 (c : Char) : Text :=
  if c.toNat < 0x10000 then [UInt16.ofNat c.toNat]
  else
    [UInt16.ofNat (0xD800 + (c.toNat - 0x10000) / 0x400),
      UInt16.ofNat (0xDC00 + (c.toNat - 0x10000) % 0x400)]

def lit (literal : String) : Text := literal.toList.flatMap utf16

def isHighSurrogate (c : CodeUnit) : Bool := 0xD800 ≤ c && c ≤ 0xDBFF
def isLowSurrogate (c : CodeUnit) : Bool := 0xDC00 ≤ c && c ≤ 0xDFFF

theorem isHighSurrogate_iff {c : CodeUnit} :
    isHighSurrogate c = true ↔ 0xD800 ≤ c.toNat ∧ c.toNat ≤ 0xDBFF := by
  simp [isHighSurrogate, UInt16.le_iff_toNat_le]

theorem isLowSurrogate_iff {c : CodeUnit} :
    isLowSurrogate c = true ↔ 0xDC00 ≤ c.toNat ∧ c.toNat ≤ 0xDFFF := by
  simp [isLowSurrogate, UInt16.le_iff_toNat_le]

def pairValue (high low : CodeUnit) : Nat :=
  0x10000 + (high.toNat - 0xD800) * 0x400 + (low.toNat - 0xDC00)

def isWhiteSpace (c : CodeUnit) : Bool :=
  (0x09 ≤ c && c ≤ 0x0D) || c == 0x20 || c == 0x85 || c == 0xA0 || c == 0x1680 ||
    (0x2000 ≤ c && c ≤ 0x200A) || c == 0x2028 || c == 0x2029 || c == 0x202F ||
    c == 0x205F || c == 0x3000

def isAsciiLetterOrDigit (c : CodeUnit) : Bool :=
  (0x30 ≤ c && c ≤ 0x39) || (0x41 ≤ c && c ≤ 0x5A) || (0x61 ≤ c && c ≤ 0x7A)

def isNullOrWhiteSpace : Option Text → Bool
  | none => true
  | some value => value.all isWhiteSpace

def trim (value : Text) : Text :=
  (value.dropWhile isWhiteSpace).rdropWhile isWhiteSpace

def digit (c : Char) : CodeUnit := UInt16.ofNat c.toNat

def natText (n : Nat) : Text := (Nat.toDigits 10 n).map digit

def intText : Int → Text
  | .ofNat n => natText n
  | .negSucc n => lit "-" ++ natText (n + 1)

def fixedText : (width : Nat) → Nat → Text
  | 0, _ => []
  | width + 1, n => fixedText width (n / 10) ++ [digit (Nat.digitChar (n % 10))]

theorem toNat_of_isDigit {c : Char} (h : c.isDigit = true) : 48 ≤ c.toNat ∧ c.toNat ≤ 57 := by
  simp only [Char.isDigit, Bool.and_eq_true, decide_eq_true_eq, ge_iff_le,
    UInt32.le_iff_toNat_le] at h
  exact h

@[simp] theorem toNat_digit {c : Char} (h : c.isDigit = true) : (digit c).toNat = c.toNat := by
  have hbound := toNat_of_isDigit h
  simp only [digit, UInt16.toNat_ofNat']
  omega

theorem isDigit_of_mem {n : Nat} {c : Char} (h : c ∈ Nat.toDigits 10 n) : c.isDigit = true :=
  Nat.isDigit_of_mem_toDigits (by decide) (by decide) h

theorem natText_digits {n : Nat} {c : CodeUnit} (h : c ∈ natText n) : 48 ≤ c ∧ c ≤ 57 := by
  obtain ⟨d, hd, rfl⟩ := List.mem_map.mp h
  have hdigit := isDigit_of_mem hd
  simp only [UInt16.le_iff_toNat_le, toNat_digit hdigit]
  exact toNat_of_isDigit hdigit

theorem map_digit_toNat {l : List Char} (h : ∀ c ∈ l, c.isDigit = true) :
    (l.map digit).map UInt16.toNat = l.map Char.toNat := by
  rw [List.map_map]
  apply List.map_congr_left
  intro c hc
  exact toNat_digit (h c hc)

theorem eq_of_map_digit {l l' : List Char} (h : ∀ c ∈ l, c.isDigit = true)
    (h' : ∀ c ∈ l', c.isDigit = true) (heq : l.map digit = l'.map digit) : l = l' := by
  have hvalues : l.map Char.toNat = l'.map Char.toNat := by
    rw [← map_digit_toNat h, ← map_digit_toNat h', heq]
  exact (List.map_inj_right fun _ _ => Char.toNat_inj.mp).mp hvalues

theorem natText_injective : Function.Injective natText := by
  intro n m h
  have hdigits := eq_of_map_digit (fun _ => isDigit_of_mem) (fun _ => isDigit_of_mem) h
  rw [← Nat.ofDigitChars_toDigits (b := 10) (n := n) (by decide) (by decide), hdigits,
    Nat.ofDigitChars_toDigits (by decide) (by decide)]

theorem intText_injective : Function.Injective intText := by
  have hminus (n m : Nat) : natText n ≠ lit "-" ++ natText m := by
    intro h
    have hmem : (45 : CodeUnit) ∈ natText n := by
      rw [h]
      exact List.mem_append_left _ (by decide)
    exact absurd (natText_digits hmem).1 (by decide)
  intro a b h
  cases a with
  | ofNat n =>
    cases b with
    | ofNat m => exact congrArg Int.ofNat (natText_injective h)
    | negSucc m => exact absurd h (hminus n (m + 1))
  | negSucc n =>
    cases b with
    | ofNat m => exact absurd h.symm (hminus m (n + 1))
    | negSucc m =>
      have hsucc := natText_injective (List.append_cancel_left h)
      exact congrArg Int.negSucc (Nat.succ.inj hsucc)

@[simp] theorem fixedText_length (width n : Nat) : (fixedText width n).length = width := by
  induction width generalizing n with
  | zero => rfl
  | succ width ih => simp [fixedText, ih]

theorem toNat_digit_digitChar {n : Nat} (h : n < 10) :
    (digit (Nat.digitChar n)).toNat = 48 + n := by
  rw [toNat_digit (by simpa [Nat.isDigit_digitChar] using h),
    Nat.toNat_digitChar_of_lt_ten h]

theorem fixedText_injective {width n m : Nat} (hn : n < 10 ^ width) (hm : m < 10 ^ width)
    (h : fixedText width n = fixedText width m) : n = m := by
  induction width generalizing n m with
  | zero => omega
  | succ width ih =>
    rw [Nat.pow_succ] at hn hm
    obtain ⟨hinit, hlast⟩ := List.append_inj' h rfl
    have hdiv := ih (by omega) (by omega) hinit
    have hmod : n % 10 = m % 10 := by
      have hunits := congrArg UInt16.toNat (List.cons.inj hlast).1
      rw [toNat_digit_digitChar (by omega), toNat_digit_digitChar (by omega)] at hunits
      omega
    omega

theorem head_of_opening {opening text : Text} {c d : CodeUnit} (hopening : opening.head? = some d)
    (htext : text.head? = some c) (h : opening <+: text) : c = d := by
  obtain ⟨tail, rfl⟩ := h
  rw [List.head?_append, hopening] at htext
  exact (Option.some.inj htext).symm

end Fcmr.DotNet
