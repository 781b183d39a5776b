import Fcmr.DotNet.DecimalRounding

/-! Which results of the arithmetic of `System.Decimal` are in range, in the terms of the
exact result: the others are what the runtime throws for. -/
namespace Fcmr.DotNet

open Rounding

namespace Decimal

/-- What is nearer to the largest value than to the next that there would be. -/
def InRange (x : ℚ) : Prop := |x| < 2 ^ 96 - 1 / 2

instance (x : ℚ) : Decidable (InRange x) :=
  inferInstanceAs (Decidable (|x| < 2 ^ 96 - 1 / 2))

def nearest (x : ℚ) : ℚ := format.nearest x

variable {left right r : Decimal} {x y : ℚ}

theorem inRange_iff : InRange x ↔ format.Fits x 0 := by
  have heven : Even format.bound := by decide
  rw [Format.fits_iff heven, pow_zero, mul_one]
  unfold InRange format
  norm_num

theorem InRange.of_abs_le (h : InRange y) (hle : |x| ≤ |y|) : InRange x := hle.trans_lt h

theorem inRange_value (d : Decimal) : InRange d.value :=
  inRange_iff.mpr (rounded_self d).fits

theorem rounded_nearest (h : InRange x) : format.Rounded x (nearest x) :=
  Format.rounded_nearest (inRange_iff.mp h)

theorem nearest_nonneg (h : 0 ≤ x) : 0 ≤ nearest x := by
  have hscale (p : ℕ) : (0 : ℚ) ≤ (format.base : ℚ) ^ p := by positivity
  unfold nearest Format.nearest Format.coefficient
  apply div_nonneg _ (hscale _)
  exact_mod_cast halfEven_nonneg (mul_nonneg h (hscale _))

theorem nearest_neg (h : InRange x) : nearest (-x) = -nearest x :=
  (rounded_nearest h).neg.eq_nearest.symm

theorem abs_rounded_sub_le (h : format.Rounded x y) : |y - x| ≤ (1 + |x|) / 10 ^ 28 := by
  have hle := h.abs_sub_le
  have hplaces : (1 : ℚ) / (2 * (format.base : ℚ) ^ format.places) ≤ 1 / 10 ^ 28 := by
    unfold format
    norm_num
  have hdigits : (format.base : ℚ) * |x| / (2 * format.bound - 1) ≤ |x| / 10 ^ 28 := by
    have hx := abs_nonneg x
    unfold format
    rw [div_le_div_iff₀ (by norm_num) (by norm_num)]
    push_cast
    linarith
  rw [add_div]
  linarith

theorem abs_round_sub_le (d : Decimal) (places : Nat) :
    |(d.round places).value - d.value| ≤ 1 / (2 * 10 ^ places) := by
  have hpow : (0 : ℚ) < 10 ^ places := by positivity
  have hround := abs_halfEven_sub_le (d.value * 10 ^ places)
  rw [value_round, div_sub' hpow.ne', abs_div, abs_of_pos hpow, mul_comm (_ ^ places) d.value,
    div_le_iff₀ hpow, one_div, mul_inv, mul_assoc, inv_mul_cancel₀ hpow.ne', mul_one, ← one_div]
  exact hround

structure Within (units : ℕ) (size x u : ℚ) : Prop where
  one_le : 1 ≤ size
  abs_le : |x| ≤ size
  error : |u - x| ≤ units * size / 10 ^ 28

theorem within_rounded (h : format.Rounded x y) : Within 1 (1 + |x|) x y where
  one_le := le_add_of_nonneg_right (abs_nonneg x)
  abs_le := le_add_of_nonneg_left zero_le_one
  error := by
    rw [Nat.cast_one, one_mul]
    exact abs_rounded_sub_le h

theorem Within.abs_computed_le {units : ℕ} {size u : ℚ} (h : Within units size x u)
    (hunits : units ≤ 10 ^ 28) (b : ℚ) : |b + u| ≤ |b + x| + size := by
  have hsize : 0 ≤ size := zero_le_one.trans h.one_le
  have herror : (units : ℚ) * size / 10 ^ 28 ≤ size := by
    rw [div_le_iff₀ (by positivity), mul_comm]
    exact mul_le_mul_of_nonneg_left (by exact_mod_cast hunits) hsize
  have htri := abs_sub_abs_le_abs_sub (b + u) (b + x)
  rw [add_sub_add_left_eq_sub] at htri
  linarith [h.error]

theorem Within.add {units : ℕ} {size b u : ℚ} (h : Within units size x u)
    (hunits : units ≤ 10 ^ 28) (hsum : |b + x| ≤ size) (hy : format.Rounded (b + u) y) :
    Within (units + 3) size (b + x) y where
  one_le := h.one_le
  abs_le := hsum
  error := by
    have hround := abs_rounded_sub_le hy
    have hsize := h.abs_computed_le hunits b
    have hstep : (1 + |b + u|) / 10 ^ 28 ≤ 3 * size / 10 ^ 28 :=
      div_le_div_of_nonneg_right (by linarith [h.one_le]) (by positivity)
    calc
      |y - (b + x)| = |(u - x) + (y - (b + u))| := by ring_nf
      _ ≤ |u - x| + |y - (b + u)| := abs_add_le _ _
      _ ≤ units * size / 10 ^ 28 + 3 * size / 10 ^ 28 := add_le_add h.error (hround.trans hstep)
      _ = (units + 3 : ℕ) * size / 10 ^ 28 := by
        push_cast
        ring

theorem Within.mul {units : ℕ} {size u : ℚ} (h : Within units size x u)
    (hunits : units ≤ 10 ^ 28) (b : ℚ) (hy : format.Rounded (u * b) y) :
    Within (units + 2) (size * (1 + |b|)) (x * b) y where
  one_le := by
    have hb := abs_nonneg b
    nlinarith [h.one_le]
  abs_le := by
    rw [abs_mul]
    have hx := mul_le_mul_of_nonneg_right h.abs_le (abs_nonneg b)
    linarith [h.one_le]
  error := by
    have hb := abs_nonneg b
    have hround := abs_rounded_sub_le hy
    have hsize := h.abs_computed_le hunits 0
    rw [zero_add, zero_add] at hsize
    have hexact : |u * b - x * b| ≤ units * size / 10 ^ 28 * |b| := by
      rw [← sub_mul, abs_mul]
      exact mul_le_mul_of_nonneg_right h.error hb
    have hproduct : |u * b| ≤ 2 * size * |b| := by
      rw [abs_mul]
      exact mul_le_mul_of_nonneg_right (by linarith [h.abs_le]) hb
    have hstep : (1 + |u * b|) / 10 ^ 28 ≤ (size + 2 * size * |b|) / 10 ^ 28 :=
      div_le_div_of_nonneg_right (by linarith [h.one_le]) (by positivity)
    have hcount : (0 : ℚ) ≤ units * size := by
      have hone := h.one_le
      positivity
    calc
      |y - x * b| = |(u * b - x * b) + (y - u * b)| := by ring_nf
      _ ≤ |u * b - x * b| + |y - u * b| := abs_add_le _ _
      _ ≤ units * size / 10 ^ 28 * |b| + (size + 2 * size * |b|) / 10 ^ 28 :=
        add_le_add hexact (hround.trans hstep)
      _ ≤ (units + 2 : ℕ) * (size * (1 + |b|)) / 10 ^ 28 := by
        rw [div_mul_eq_mul_div, ← add_div]
        apply div_le_div_of_nonneg_right _ (by positivity)
        push_cast
        nlinarith [h.one_le]

theorem inRange_nearest_mul {places : Nat} (h : places ≤ 28) :
    InRange (nearest x * 10 ^ places) ↔ InRange (x * 10 ^ places) := by
  have hten : (10 : ℚ) = format.base := rfl
  have hshift : format.Fits (x * (format.base : ℚ) ^ places) 0 ↔ format.Fits x places := by
    unfold Format.Fits Format.coefficient
    rw [pow_zero, mul_one]
  rw [inRange_iff, inRange_iff, hten, hshift]
  exact Format.fits_nearest_mul h

theorem reduce_isSome_iff {negative : Bool} {n d places : Nat} (hd : 0 < d) :
    (reduce negative n d places).isSome ↔ format.Fits ((n : ℚ) / (d * 10 ^ places)) 0 := by
  have hfits {p : Nat} (hp : p ≤ places) : format.Fits ((n : ℚ) / (d * 10 ^ places)) p ↔
      divEven n (d * 10 ^ (places - p)) < 2 ^ 96 := by
    unfold Format.Fits
    rw [coefficient_eq hd hp, Nat.abs_cast]
    exact_mod_cast Iff.rfl
  constructor
  · intro h
    obtain ⟨r, hr⟩ := Option.isSome_iff_exists.mp h
    obtain ⟨_, hscale, hcoefficient, _⟩ := reduce_spec hr
    have hlt := r.coefficient_lt
    rw [hcoefficient] at hlt
    exact ((hfits hscale).mpr hlt).of_places_le (Nat.zero_le _)
  · intro h
    exact reduce_isSome ((hfits (Nat.zero_le places)).mp h)

theorem fits_sign {negative : Bool} : format.Fits (sign negative * x) 0 ↔ format.Fits x 0 := by
  cases negative with
  | false => simp [sign]
  | true => simp [sign]

theorem mul_isSome_iff : (left.mul right).isSome ↔ InRange (left.value * right.value) := by
  rw [inRange_iff]
  constructor
  · intro h
    obtain ⟨r, hr⟩ := Option.isSome_iff_exists.mp h
    exact (mul_rounded hr).fits
  · intro h
    rw [value_mul, fits_sign] at h
    have hreduce : (reduce (left.negative != right.negative) (left.coefficient * right.coefficient)
        1 (left.scale + right.scale)).isSome :=
      (reduce_isSome_iff Nat.one_pos).mpr (by exact_mod_cast h)
    unfold mul
    dsimp only
    split
    · split
      · rfl
      · exact hreduce
    · split
      · rfl
      · exact hreduce

theorem value_eq_zero : right.value = 0 ↔ right.coefficient = 0 := by
  rw [value_eq_sign]
  cases right.negative <;> simp [sign]

theorem div_isSome_iff : (left.div right).isSome ↔
    right.value ≠ 0 ∧ InRange (left.value / right.value) := by
  rw [inRange_iff, Ne, value_eq_zero]
  constructor
  · intro h
    obtain ⟨r, hr⟩ := Option.isSome_iff_exists.mp h
    refine ⟨fun hzero => ?_, (div_rounded hr).fits⟩
    unfold div at hr
    rw [if_pos hzero] at hr
    cases hr
  · rintro ⟨hnonzero, h⟩
    have hpos : 0 < right.coefficient * 10 ^ left.scale :=
      Nat.mul_pos (Nat.pos_of_ne_zero hnonzero) (Nat.pow_pos (by decide))
    have hvalue : left.value / right.value = sign (left.negative != right.negative) *
        ((left.coefficient * 10 ^ (28 + right.scale) : ℕ) /
          ((right.coefficient * 10 ^ left.scale : ℕ) * 10 ^ 28)) := by
      have hright : (right.coefficient : ℚ) ≠ 0 := by exact_mod_cast hnonzero
      rw [value_div, Nat.pow_add]
      push_cast
      field_simp
      norm_num
    rw [hvalue, fits_sign] at h
    unfold div
    rw [if_neg hnonzero]
    split
    · rfl
    · rw [Option.isSome_map]
      exact (reduce_isSome_iff hpos).mpr h

theorem units_eq (d : Decimal) {scale : Nat} (h : d.scale ≤ scale) :
    (d.units scale : ℚ) = d.value * 10 ^ scale := by
  obtain ⟨more, rfl⟩ := Nat.exists_eq_add_of_le h
  unfold units value
  rw [Nat.add_sub_cancel_left, pow_add]
  push_cast
  field_simp

theorem value_add (left right : Decimal) : left.value + right.value =
    sign (left.units (max left.scale right.scale) + right.units (max left.scale right.scale) < 0) *
      ((left.units (max left.scale right.scale) +
        right.units (max left.scale right.scale)).natAbs /
          ((1 : ℕ) * 10 ^ max left.scale right.scale)) := by
  have hleft := units_eq left (le_max_left left.scale right.scale)
  have hright := units_eq right (le_max_right left.scale right.scale)
  have hpow : (10 : ℚ) ^ max left.scale right.scale ≠ 0 := by positivity
  have hsum : left.value + right.value = ((left.units (max left.scale right.scale) +
      right.units (max left.scale right.scale) : ℤ) : ℚ) / 10 ^ max left.scale right.scale := by
    rw [Int.cast_add, hleft, hright, ← add_mul, mul_div_cancel_right₀ _ hpow]
  generalize left.units (max left.scale right.scale) + right.units (max left.scale right.scale) =
    sum at hsum ⊢
  rw [hsum, Nat.cast_one, one_mul, Nat.cast_natAbs]
  rcases lt_or_ge sum 0 with hneg | hnonneg
  · simp [sign, hneg, abs_of_neg hneg, neg_div]
  · simp [sign, not_lt.mpr hnonneg, abs_of_nonneg hnonneg]

theorem add_rounded (h : left.add right = some r) :
    format.Rounded (left.value + right.value) r.value := by
  have hrounded := reduce_rounded Nat.one_pos (.inr rfl) h
  rwa [value_add]

theorem add_isSome_iff : (left.add right).isSome ↔ InRange (left.value + right.value) := by
  rw [inRange_iff, value_add, fits_sign]
  exact reduce_isSome_iff Nat.one_pos

theorem value_of_mul (h : left.mul right = some r) : r.value = nearest (left.value * right.value) :=
  (mul_rounded h).eq_nearest

theorem value_of_div (h : left.div right = some r) : r.value = nearest (left.value / right.value) :=
  (div_rounded h).eq_nearest

theorem value_of_add (h : left.add right = some r) : r.value = nearest (left.value + right.value) :=
  (add_rounded h).eq_nearest

theorem mul_of_inRange (h : InRange (left.value * right.value)) :
    ∃ r, left.mul right = some r ∧ r.value = nearest (left.value * right.value) := by
  obtain ⟨r, hr⟩ := Option.isSome_iff_exists.mp (mul_isSome_iff.mpr h)
  exact ⟨r, hr, value_of_mul hr⟩

theorem div_of_inRange (hnonzero : right.value ≠ 0) (h : InRange (left.value / right.value)) :
    ∃ r, left.div right = some r ∧ r.value = nearest (left.value / right.value) := by
  obtain ⟨r, hr⟩ := Option.isSome_iff_exists.mp (div_isSome_iff.mpr ⟨hnonzero, h⟩)
  exact ⟨r, hr, value_of_div hr⟩

theorem add_of_inRange (h : InRange (left.value + right.value)) :
    ∃ r, left.add right = some r ∧ r.value = nearest (left.value + right.value) := by
  obtain ⟨r, hr⟩ := Option.isSome_iff_exists.mp (add_isSome_iff.mpr h)
  exact ⟨r, hr, value_of_add hr⟩

theorem inRange_of_le_nat {n : ℕ} (hn : n < 2 ^ 96) (h : |x| ≤ n) : InRange x := by
  have hlast : (n : ℚ) + 1 ≤ 2 ^ 96 := by exact_mod_cast hn
  unfold InRange
  linarith

theorem abs_nearest_le_nat {n : ℕ} (hn : n < 2 ^ 96) (h : |x| ≤ n) : |nearest x| ≤ n :=
  (rounded_nearest (inRange_of_le_nat hn h)).abs_le_nat hn h

theorem mul_of_le_nat {n : ℕ} (hn : n < 2 ^ 96) (h : |left.value * right.value| ≤ n) :
    ∃ r, left.mul right = some r ∧ r.value = nearest (left.value * right.value) ∧ |r.value| ≤ n := by
  obtain ⟨r, hr, hvalue⟩ := mul_of_inRange (inRange_of_le_nat hn h)
  exact ⟨r, hr, hvalue, hvalue ▸ abs_nearest_le_nat hn h⟩

theorem div_of_le_nat {n : ℕ} (hn : n < 2 ^ 96) (hnonzero : right.value ≠ 0)
    (h : |left.value / right.value| ≤ n) :
    ∃ r, left.div right = some r ∧ r.value = nearest (left.value / right.value) ∧ |r.value| ≤ n := by
  obtain ⟨r, hr, hvalue⟩ := div_of_inRange hnonzero (inRange_of_le_nat hn h)
  exact ⟨r, hr, hvalue, hvalue ▸ abs_nearest_le_nat hn h⟩

theorem add_of_le_nat {n : ℕ} (hn : n < 2 ^ 96) (h : |left.value + right.value| ≤ n) :
    ∃ r, left.add right = some r ∧ r.value = nearest (left.value + right.value) ∧ |r.value| ≤ n := by
  obtain ⟨r, hr, hvalue⟩ := add_of_inRange (inRange_of_le_nat hn h)
  exact ⟨r, hr, hvalue, hvalue ▸ abs_nearest_le_nat hn h⟩

theorem le_abs_value {d : Decimal} (h : d.value ≠ 0) : 1 / 10 ^ 28 ≤ |d.value| := by
  have hpos : (1 : ℚ) ≤ d.coefficient := by
    exact_mod_cast Nat.one_le_iff_ne_zero.mpr (mt value_eq_zero.mpr h)
  rw [abs_value]
  apply div_le_div₀ (Nat.cast_nonneg _) hpos (by positivity)
  exact pow_le_pow_right₀ (by norm_num) d.scale_le

theorem InRange.of_nearest_mul {b : ℚ} (hb : 1 ≤ |b|) (h : InRange (nearest x * b)) :
    InRange x := by
  have hnearest : InRange (nearest x * 10 ^ 0) := by
    apply h.of_abs_le
    rw [pow_zero, mul_one, abs_mul]
    exact le_mul_of_one_le_right (abs_nonneg _) hb
  simpa using (inRange_nearest_mul (Nat.zero_le 28)).mp hnearest

def roundTo (places : Nat) (x : ℚ) : ℚ := halfEven (x * 10 ^ places) / 10 ^ places

theorem roundTo_nonneg (places : Nat) (h : 0 ≤ x) : 0 ≤ roundTo places x := by
  unfold roundTo
  apply div_nonneg _ (by positivity)
  exact_mod_cast halfEven_nonneg (mul_nonneg h (by positivity))

theorem value_roundTo (d : Decimal) (places : Nat) :
    (d.round places).value = roundTo places d.value :=
  value_round d places

end Decimal

end Fcmr.DotNet
