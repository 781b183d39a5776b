import Fcmr.DotNet.Numbers
import Mathlib.Data.Rat.Defs

/-! Arithmetic of `System.Decimal`. A result that needs more than 28 decimal places or a
larger coefficient is rounded to as many places as fit, a tie to the even neighbour; one
that does not fit without any place is an overflow, which the runtime throws. -/
namespace Fcmr.DotNet

def divEven (n d : Nat) : Nat :=
  if 2 * (n % d) < d ∨ 2 * (n % d) = d ∧ n / d % 2 = 0 then n / d else n / d + 1

theorem divEven_le (n d : Nat) : divEven n d ≤ n / d + 1 := by
  unfold divEven
  split
  · exact Nat.le_succ _
  · exact Nat.le_refl _

theorem divEven_le_of_le_mul {n d m : Nat} (hd : 0 < d) (h : n ≤ m * d) : divEven n d ≤ m := by
  have hdiv : n / d ≤ m := Nat.div_le_of_le_mul (Nat.mul_comm m d ▸ h)
  unfold divEven
  split
  · exact hdiv
  · rename_i hround
    apply Nat.lt_of_le_of_ne hdiv
    rintro rfl
    have hmod : n % d = 0 := by
      have hsum := Nat.div_add_mod n d
      rw [Nat.mul_comm] at h
      omega
    simp [hmod, hd] at hround

namespace Decimal

def zero : Decimal := ⟨false, 0, 0, by decide, by decide⟩

/-- A literal of the source. One out of range does not compile. -/
def literal (coefficient scale : Nat) : Decimal :=
  if h : coefficient < 2 ^ 96 ∧ scale ≤ 28 then ⟨false, coefficient, scale, h.1, h.2⟩ else zero

def maxValue : Decimal := literal 79228162514264337593543950335 0

def ofInt32 (n : Int32) : Decimal where
  negative := n.toInt < 0
  coefficient := n.toInt.natAbs
  scale := 0
  coefficient_lt := by
    have hlow := n.le_toInt
    have hhigh := n.toInt_lt
    omega
  scale_le := Nat.zero_le _

/-- `n / d` with at most `places` decimal places, where `d` is scaled for all of them. -/
def reduce (negative : Bool) (n : Nat) : (d places : Nat) → Option Decimal
  | d, 0 =>
    if h : divEven n d < 2 ^ 96 then some ⟨negative, divEven n d, 0, h, Nat.zero_le _⟩ else none
  | d, places + 1 =>
    if h : divEven n d < 2 ^ 96 ∧ places + 1 ≤ 28 then
      some ⟨negative, divEven n d, places + 1, h.1, h.2⟩
    else reduce negative n (d * 10) places

/-- The coefficient with its sign, at a scale that is not smaller. -/
def units (d : Decimal) (scale : Nat) : Int :=
  (if d.negative then -1 else 1) * (d.coefficient * 10 ^ (scale - d.scale) : Nat)

def add (left right : Decimal) : Option Decimal :=
  let scale := max left.scale right.scale
  let sum := left.units scale + right.units scale
  reduce (sum < 0) sum.natAbs 1 scale

def neg (d : Decimal) : Decimal := { d with negative := !d.negative }

def sub (left right : Decimal) : Option Decimal := left.add right.neg

def mul (left right : Decimal) : Option Decimal :=
  let scale := left.scale + right.scale
  let product := left.coefficient * right.coefficient
  -- A product of two 32-bit coefficients that would keep no digit is zero without places,
  -- as is a zero that comes from a larger coefficient.
  if left.coefficient < 2 ^ 32 ∧ right.coefficient < 2 ^ 32 then
    if 47 < scale then some zero else reduce (left.negative != right.negative) product 1 scale
  else if product = 0 then some zero
  else reduce (left.negative != right.negative) product 1 scale

/-- `none` also stands for `DivideByZeroException`. A quotient that is exact at the
difference of the scales keeps its trailing zeros, any other loses them. -/
def div (left right : Decimal) : Option Decimal :=
  if right.coefficient = 0 then none
  else if right.scale ≤ left.scale ∧ right.coefficient ∣ left.coefficient then
    some {
      negative := left.negative != right.negative
      coefficient := left.coefficient / right.coefficient
      scale := left.scale - right.scale
      coefficient_lt := Nat.lt_of_le_of_lt (Nat.div_le_self _ _) left.coefficient_lt
      scale_le := Nat.le_trans (Nat.sub_le _ _) left.scale_le }
  else
    (reduce (left.negative != right.negative) (left.coefficient * 10 ^ (28 + right.scale))
      (right.coefficient * 10 ^ left.scale) 28).map normalise

/-- `Math.Round(value, places, MidpointRounding.ToEven)`. -/
def round (d : Decimal) (places : Nat) : Decimal :=
  if h : d.scale ≤ places then d
  else {
    negative := d.negative
    coefficient := divEven d.coefficient (10 ^ (d.scale - places))
    scale := places
    coefficient_lt := by
      have hlt := d.coefficient_lt
      have hle := divEven_le d.coefficient (10 ^ (d.scale - places))
      have hpow : 2 ≤ 10 ^ (d.scale - places) :=
        Nat.le_trans (by decide) (Nat.pow_le_pow_right (n := 10) (by decide)
          (show 1 ≤ d.scale - places by omega))
      have hdiv : d.coefficient / 10 ^ (d.scale - places) ≤ d.coefficient / 2 :=
        Nat.div_le_div_left hpow (by decide)
      omega
    scale_le := Nat.le_trans (Nat.le_of_not_le h) d.scale_le }

/-- `Math.Round(value, places, MidpointRounding.ToZero)`. -/
def truncate (d : Decimal) (places : Nat) : Decimal :=
  if h : d.scale ≤ places then d
  else {
    negative := d.negative
    coefficient := d.coefficient / 10 ^ (d.scale - places)
    scale := places
    coefficient_lt := Nat.lt_of_le_of_lt (Nat.div_le_self _ _) d.coefficient_lt
    scale_le := Nat.le_trans (Nat.le_of_not_le h) d.scale_le }

theorem value_between {d : Decimal} {m : Nat} :
    (0 ≤ d.value ∧ d.value ≤ m) ↔ d.signed = false ∧ d.coefficient ≤ m * 10 ^ d.scale := by
  have hpow : (0 : ℚ) < 10 ^ d.scale := by positivity
  rw [value_eq_signed]
  cases hsigned : d.signed with
  | false =>
    rw [if_neg Bool.false_ne_true, one_mul, div_le_iff₀ hpow]
    constructor
    · rintro ⟨_, hle⟩
      exact ⟨rfl, by exact_mod_cast hle⟩
    · rintro ⟨_, hle⟩
      exact ⟨by positivity, by exact_mod_cast hle⟩
  | true =>
    have hpos : 0 < d.coefficient := by
      simp only [signed, Bool.and_eq_true, bne_iff_ne] at hsigned
      exact Nat.pos_of_ne_zero hsigned.2
    have hneg : (-1 : ℚ) * d.coefficient / 10 ^ d.scale < 0 := by
      rw [neg_one_mul, neg_div, neg_lt_zero]
      positivity
    rw [if_pos rfl]
    constructor
    · rintro ⟨hle, _⟩
      exact absurd hle (not_le_of_gt hneg)
    · rintro ⟨hfalse, _⟩
      cases hfalse

theorem round_between {d : Decimal} {m : Nat} (places : Nat) (h : 0 ≤ d.value ∧ d.value ≤ m) :
    0 ≤ (d.round places).value ∧ (d.round places).value ≤ m := by
  obtain ⟨hsigned, hle⟩ := value_between.mp h
  unfold round
  split
  · exact h
  rename_i hscale
  apply value_between.mpr
  have hpow : 0 < 10 ^ (d.scale - places) := Nat.pow_pos (by decide)
  constructor
  · cases hnegative : d.negative with
    | false => rfl
    | true =>
      have hzero : d.coefficient = 0 := by simpa [signed, hnegative] using hsigned
      simp [signed, hzero, divEven]
  · apply divEven_le_of_le_mul hpow
    rw [Nat.mul_assoc, ← Nat.pow_add, Nat.add_sub_cancel' (Nat.le_of_not_le hscale)]
    exact hle

theorem round_scale_le (d : Decimal) (places : Nat) : (d.round places).scale ≤ places := by
  unfold round
  split
  · assumption
  · exact Nat.le_refl _

def min (left right : Decimal) : Decimal := if left.value < right.value then left else right

theorem value_min (left right : Decimal) :
    (left.min right).value = Min.min left.value right.value := by
  unfold min
  split
  · rename_i hlt
    exact (min_eq_left hlt.le).symm
  · rename_i hge
    exact (min_eq_right (le_of_not_gt hge)).symm

end Decimal

example : (((Decimal.literal 1 0).div (.literal 3 0)).bind (·.mul (.literal 100 0))).map
    (fun d => (d.round 2).toText) = some (lit "33.33") := by decide

end Fcmr.DotNet
