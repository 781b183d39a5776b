import Fcmr.DotNet.Text
import Fcmr.Library.Codes
import Mathlib.Algebra.Order.Field.Rat
import Mathlib.Tactic.FieldSimp
import Mathlib.Tactic.NormNum
import Mathlib.Tactic.Positivity

/-! `System.Double` and `System.Decimal` as far as the service uses them. A decimal is
a 96-bit coefficient with a sign and up to 28 decimal places: one amount of money has
many such forms and one normalised rendering. -/
namespace Fcmr.DotNet

structure Double where
  bits : UInt64
  deriving DecidableEq

/-- `ToString("R", CultureInfo.InvariantCulture)`, which the runtime supplies. -/
class RoundTripFormat where
  format : Double → Text

structure Decimal where
  negative : Bool
  coefficient : Nat
  scale : Nat
  coefficient_lt : coefficient < 2 ^ 96
  scale_le : scale ≤ 28

def Decimal.value (d : Decimal) : ℚ :=
  (if d.negative then -1 else 1) * d.coefficient / 10 ^ d.scale

def unscale : (coefficient scale : Nat) → Nat × Nat
  | coefficient, 0 => (coefficient, 0)
  | coefficient, scale + 1 =>
    if coefficient % 10 = 0 then unscale (coefficient / 10) scale else (coefficient, scale + 1)

theorem unscale_spec (coefficient scale : Nat) :
    ∃ dropped, scale = (unscale coefficient scale).2 + dropped ∧
      coefficient = (unscale coefficient scale).1 * 10 ^ dropped := by
  induction scale generalizing coefficient with
  | zero => exact ⟨0, rfl, (Nat.mul_one _).symm⟩
  | succ scale ih =>
    unfold unscale
    split
    · rename_i hzero
      obtain ⟨dropped, hscale, hcoefficient⟩ := ih (coefficient / 10)
      refine ⟨dropped + 1, by omega, ?_⟩
      calc
        coefficient = coefficient / 10 * 10 := by omega
        _ = (unscale (coefficient / 10) scale).1 * 10 ^ dropped * 10 := by rw [← hcoefficient]
        _ = _ := by rw [Nat.pow_succ, Nat.mul_assoc]
    · exact ⟨0, rfl, (Nat.mul_one _).symm⟩

/-- `value / 1.000000000000000000000000000000000m`. The quotient is exact, and decimal
division returns it without the trailing zeros. -/
def Decimal.normalise (d : Decimal) : Decimal where
  negative := d.negative
  coefficient := (unscale d.coefficient d.scale).1
  scale := (unscale d.coefficient d.scale).2
  coefficient_lt := by
    obtain ⟨dropped, _, hcoefficient⟩ := unscale_spec d.coefficient d.scale
    have hle := Nat.le_mul_of_pos_right (unscale d.coefficient d.scale).1
      (Nat.pow_pos (n := dropped) (show 0 < 10 by decide))
    have hlt := d.coefficient_lt
    omega
  scale_le := by
    obtain ⟨dropped, hscale, _⟩ := unscale_spec d.coefficient d.scale
    have hle := d.scale_le
    omega

/-- Zero is never written with a sign. -/
def Decimal.signed (d : Decimal) : Bool := d.negative && d.coefficient != 0

def Decimal.toText (d : Decimal) : Text :=
  (if d.signed then lit "-" else []) ++ natText (d.coefficient / 10 ^ d.scale) ++
    (if d.scale = 0 then [] else lit "." ++ fixedText d.scale (d.coefficient % 10 ^ d.scale))

theorem Decimal.value_normalise (d : Decimal) : d.normalise.value = d.value := by
  obtain ⟨dropped, hscale, hcoefficient⟩ := unscale_spec d.coefficient d.scale
  have hc : (d.coefficient : ℚ) = d.normalise.coefficient * 10 ^ dropped := by
    exact_mod_cast hcoefficient
  have hs : d.scale = d.normalise.scale + dropped := hscale
  rw [value, value, hc, hs, pow_add]
  change (if d.negative then (-1 : ℚ) else 1) * _ / _ = _
  field_simp

theorem mark_not_mem_natText (n : Nat) : digit '.' ∉ natText n := by
  intro h
  exact absurd (natText_digits h).1 (by decide)

theorem sign_ne_natText {n : Nat} {x y : Text} : lit "-" ++ x ≠ natText n ++ y := by
  intro h
  cases hn : natText n with
  | nil =>
    have hlength := congrArg List.length hn
    simp [natText] at hlength
  | cons c rest =>
    rw [hn] at h
    have hc : digit '-' = c := (List.cons.inj h).1
    have hdigit : c ∈ natText n := by simp [hn]
    rw [← hc] at hdigit
    exact absurd (natText_digits hdigit).1 (by decide)

private theorem fraction_inj {n n' scale scale' c c' : Nat}
    (h : natText n ++ (if scale = 0 then [] else lit "." ++ fixedText scale (c % 10 ^ scale)) =
      natText n' ++ if scale' = 0 then [] else lit "." ++ fixedText scale' (c' % 10 ^ scale')) :
    n = n' ∧ scale = scale' ∧ c % 10 ^ scale = c' % 10 ^ scale' := by
  have hmark {n n' : Nat} {rest : Text} : natText n ≠ natText n' ++ (lit "." ++ rest) := by
    intro h
    apply mark_not_mem_natText n
    rw [h]
    exact List.mem_append_right _ List.mem_cons_self
  split at h <;> split at h
  · rename_i hs hs'
    simp only [List.append_nil] at h
    subst hs hs'
    exact ⟨natText_injective h, rfl, by omega⟩
  · simp only [List.append_nil] at h
    exact absurd h hmark
  · simp only [List.append_nil] at h
    exact absurd h.symm hmark
  · obtain ⟨hinteger, hfraction⟩ := Codes.split_unique (mark_not_mem_natText n)
      (mark_not_mem_natText n') h
    have hscale : scale = scale' := by simpa using congrArg List.length hfraction
    subst hscale
    have hpos : 0 < 10 ^ scale := Nat.pow_pos (by decide)
    exact ⟨natText_injective hinteger, rfl,
      fixedText_injective (Nat.mod_lt _ hpos) (Nat.mod_lt _ hpos) hfraction⟩

theorem Decimal.toText_inj {d d' : Decimal} (h : d.toText = d'.toText) :
    d.signed = d'.signed ∧ d.coefficient = d'.coefficient ∧ d.scale = d'.scale := by
  have hdigits {c c' scale scale' : Nat} (hdiv : c / 10 ^ scale = c' / 10 ^ scale')
      (hscale : scale = scale') (hmod : c % 10 ^ scale = c' % 10 ^ scale') : c = c' := by
    subst hscale
    rw [← Nat.div_add_mod c (10 ^ scale), hdiv, hmod, Nat.div_add_mod]
  rw [toText, toText, List.append_assoc, List.append_assoc] at h
  cases hsign : d.signed <;> cases hsign' : d'.signed <;>
    simp only [hsign, hsign', if_true, Bool.false_eq_true, if_false, List.nil_append] at h
  · obtain ⟨hdiv, hscale, hmod⟩ := fraction_inj h
    exact ⟨rfl, hdigits hdiv hscale hmod, hscale⟩
  · exact absurd h.symm sign_ne_natText
  · exact absurd h sign_ne_natText
  · obtain ⟨hdiv, hscale, hmod⟩ := fraction_inj (List.append_cancel_left h)
    exact ⟨rfl, hdigits hdiv hscale hmod, hscale⟩

theorem Decimal.value_eq_signed (d : Decimal) :
    d.value = (if d.signed then -1 else 1) * d.coefficient / 10 ^ d.scale := by
  unfold value signed
  by_cases hzero : d.coefficient = 0
  · simp [hzero]
  · simp [hzero]

theorem Decimal.value_eq_of_toText_normalise {d d' : Decimal}
    (h : d.normalise.toText = d'.normalise.toText) : d.value = d'.value := by
  obtain ⟨hsign, hcoefficient, hscale⟩ := toText_inj h
  rw [← value_normalise d, ← value_normalise d', value_eq_signed, value_eq_signed, hsign,
    hcoefficient, hscale]

theorem Decimal.abs_value (d : Decimal) : |d.value| = d.coefficient / 10 ^ d.scale := by
  have hpos : (0 : ℚ) ≤ d.coefficient / 10 ^ d.scale := by positivity
  unfold value
  split
  · rw [neg_one_mul, neg_div, abs_neg, abs_of_nonneg hpos]
  · rw [one_mul, abs_of_nonneg hpos]

example : (Decimal.mk true 1500 3 (by decide) (by decide)).normalise.toText = lit "-1.5" := by
  decide

end Fcmr.DotNet
