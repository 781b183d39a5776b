import Fcmr.DotNet.DecimalArithmetic
import Fcmr.Library.Rounding
import Mathlib.Data.Rat.Floor

/-! The arithmetic of `System.Decimal` rounds the exact result. What follows for the order
of results is in the terms of their values. -/
namespace Fcmr.DotNet

open Rounding

theorem divEven_eq (n : Nat) {d : Nat} (hd : 0 < d) :
    (divEven n d : ℤ) = halfEven ((n : ℚ) / d) := by
  have hd' : (0 : ℚ) < d := by exact_mod_cast hd
  have hbelow : 2 * ((n % d : ℕ) / d : ℚ) < 1 ↔ 2 * (n % d) < d := by
    rw [← mul_div_assoc, div_lt_one hd']
    exact_mod_cast Iff.rfl
  have htie : 2 * ((n % d : ℕ) / d : ℚ) = 1 ↔ 2 * (n % d) = d := by
    rw [← mul_div_assoc, div_eq_one_iff_eq hd'.ne']
    exact_mod_cast Iff.rfl
  have heven : Even ((n : ℤ) / d) ↔ n / d % 2 = 0 := by
    rw [← Int.natCast_div, Int.even_coe_nat, Nat.even_iff]
  unfold divEven halfEven
  simp only [Int.fract_div_natCast_eq_div_natCast_mod, Rat.floor_natCast_div_natCast, hbelow, htie,
    heven]
  split <;> rfl

namespace Decimal

def format : Format where
  base := 10
  bound := 2 ^ 96
  places := 28
  one_lt_base := by decide
  carry := by decide

/-- A sign in front of a magnitude. -/
def sign (negative : Bool) : ℚ := if negative then -1 else 1

theorem value_eq_sign (d : Decimal) : d.value = sign d.negative * (d.coefficient / 10 ^ d.scale) :=
  mul_div_assoc ..

theorem reduce_spec {negative : Bool} {n d places : Nat} {r : Decimal}
    (h : reduce negative n d places = some r) :
    r.negative = negative ∧ r.scale ≤ places ∧
      r.coefficient = divEven n (d * 10 ^ (places - r.scale)) ∧
      (r.scale < places → r.scale < 28 →
        2 ^ 96 ≤ divEven n (d * 10 ^ (places - (r.scale + 1)))) := by
  induction places generalizing d with
  | zero =>
    unfold reduce at h
    split at h
    · cases h
      exact ⟨rfl, le_rfl, by simp, fun hlt => absurd hlt (lt_irrefl _)⟩
    · cases h
  | succ places ih =>
    unfold reduce at h
    split at h
    · cases h
      exact ⟨rfl, le_rfl, by simp, fun hlt => absurd hlt (lt_irrefl _)⟩
    rename_i hfits
    obtain ⟨hnegative, hscale, hcoefficient, hmax⟩ := ih h
    have hshift {p : Nat} (hp : p ≤ places) :
        d * 10 * 10 ^ (places - p) = d * 10 ^ (places + 1 - p) := by
      rw [Nat.succ_sub hp, Nat.pow_succ', Nat.mul_assoc]
    refine ⟨hnegative, Nat.le_succ_of_le hscale, ?_, ?_⟩
    · rw [hcoefficient, hshift hscale]
    · intro _ hplaces
      rcases hscale.lt_or_eq with hlt | heq
      · rw [← hshift hlt]
        exact hmax hlt hplaces
      · rw [heq, Nat.sub_self, Nat.pow_zero, Nat.mul_one]
        by_contra hlt
        exact hfits ⟨not_le.mp hlt, by omega⟩

theorem coefficient_eq {n d places p : Nat} (hd : 0 < d) (hp : p ≤ places) :
    format.coefficient ((n : ℚ) / (d * 10 ^ places)) p = divEven n (d * 10 ^ (places - p)) := by
  have hpos : 0 < d * 10 ^ (places - p) := Nat.mul_pos hd (Nat.pow_pos (by decide))
  rw [divEven_eq n hpos]
  unfold Format.coefficient
  obtain ⟨q, rfl⟩ := Nat.exists_eq_add_of_le hp
  have hten : ((format.base : ℕ) : ℚ) = 10 := rfl
  rw [hten, Nat.add_sub_cancel_left, pow_add]
  push_cast
  congr 1
  field_simp

theorem reduce_rounded {negative : Bool} {n d places : Nat} {r : Decimal} (hd : 0 < d)
    (hplaces : 28 ≤ places ∨ d = 1) (h : reduce negative n d places = some r) :
    format.Rounded (sign negative * ((n : ℚ) / (d * 10 ^ places))) r.value := by
  obtain ⟨hnegative, hscale, hcoefficient, hmax⟩ := reduce_spec h
  have hvalue : (r.coefficient : ℤ) =
      format.coefficient ((n : ℚ) / (d * 10 ^ places)) r.scale := by
    rw [coefficient_eq hd hscale, hcoefficient]
  have hlt : (r.coefficient : ℤ) < format.bound := by
    exact_mod_cast r.coefficient_lt
  have hmagnitude : format.Rounded ((n : ℚ) / (d * 10 ^ places))
      (r.coefficient / 10 ^ r.scale) := by
    by_cases hexact : r.scale = places ∧ r.scale < 28
    · have hone : d = 1 := hplaces.resolve_left (by omega)
      subst hone
      have hn : r.coefficient = n := by
        rw [hcoefficient, hexact.1, Nat.sub_self]
        simp [divEven, Nat.mod_one]
      rw [hn, hexact.1, Nat.cast_one, one_mul]
      apply Format.rounded_of_exact (k := n) (p := places)
      · rfl
      · rw [← hn, Nat.abs_cast]
        exact hlt
      · exact hexact.1 ▸ r.scale_le
    · refine ⟨r.scale, r.scale_le, ?_, ?_, ?_⟩
      · unfold Format.Fits
        rw [← hvalue, Nat.abs_cast]
        exact hlt
      · intro hmore
        have hmore' : r.scale < 28 := hmore
        have hless : r.scale < places := by omega
        unfold Format.Fits
        rw [coefficient_eq hd hless, Nat.abs_cast, not_lt]
        exact_mod_cast hmax hless hmore'
      · rw [← hvalue]
        rfl
  rw [value_eq_sign, hnegative]
  cases negative with
  | false => simpa [sign] using hmagnitude
  | true => simpa [sign] using hmagnitude.neg

theorem rounded_sign {x y : ℚ} (negative : Bool) (h : format.Rounded x y) :
    format.Rounded (sign negative * x) (sign negative * y) := by
  cases negative with
  | false => simpa [sign] using h
  | true => simpa [sign] using h.neg

theorem rounded_self (d : Decimal) : format.Rounded d.value d.value := by
  rw [value_eq_sign]
  apply rounded_sign
  apply Format.rounded_of_exact (k := d.coefficient) (p := d.scale)
  · rfl
  · rw [Nat.abs_cast]
    exact_mod_cast d.coefficient_lt
  · exact d.scale_le

theorem sign_bne (negative negative' : Bool) :
    sign (negative != negative') = sign negative * sign negative' := by
  cases negative <;> cases negative' <;> simp [sign]

theorem value_mul (left right : Decimal) :
    left.value * right.value = sign (left.negative != right.negative) *
      ((left.coefficient * right.coefficient : ℕ) / (1 * 10 ^ (left.scale + right.scale))) := by
  rw [value_eq_sign, value_eq_sign, sign_bne, pow_add]
  push_cast
  field_simp

@[simp] theorem value_zero : zero.value = 0 := by simp [value, zero]

theorem coefficient_mul_eq_zero {left right : Decimal} (hleft : left.coefficient < 2 ^ 32)
    (hright : right.coefficient < 2 ^ 32) (hscale : 47 < left.scale + right.scale) :
    format.coefficient (left.value * right.value) 28 = 0 := by
  have hproduct : (left.coefficient * right.coefficient : ℚ) ≤ 2 ^ 64 := by
    exact_mod_cast Nat.mul_le_mul hleft.le hright.le
  have hpow : (10 : ℚ) ^ 48 ≤ 10 ^ (left.scale + right.scale) :=
    pow_le_pow_right₀ (by norm_num) hscale
  apply halfEven_eq_zero
  calc
    |left.value * right.value * (format.base : ℚ) ^ 28| =
        left.coefficient * right.coefficient / 10 ^ (left.scale + right.scale) * 10 ^ 28 := by
      have hten : (format.base : ℚ) = 10 := rfl
      rw [abs_mul, abs_mul, abs_value, abs_value, hten, abs_of_pos (by positivity), pow_add,
        div_mul_div_comm]
    _ ≤ 2 ^ 64 / 10 ^ 48 * 10 ^ 28 := by gcongr
    _ < 1 / 2 := by norm_num

theorem mul_rounded {left right r : Decimal} (h : left.mul right = some r) :
    format.Rounded (left.value * right.value) r.value := by
  have hreduce (h : reduce (left.negative != right.negative)
      (left.coefficient * right.coefficient) 1 (left.scale + right.scale) = some r) :
      format.Rounded (left.value * right.value) r.value := by
    have hrounded := reduce_rounded Nat.one_pos (.inr rfl) h
    rwa [Nat.cast_one, ← value_mul] at hrounded
  unfold mul at h
  dsimp only at h
  split at h
  · rename_i hsmall
    split at h
    · rename_i hscale
      cases h
      have hlost := coefficient_mul_eq_zero hsmall.1 hsmall.2 hscale
      refine ⟨28, le_rfl, ?_, fun hlt => absurd hlt (lt_irrefl _), ?_⟩
      · unfold Format.Fits
        rw [hlost]
        decide
      · rw [hlost]
        simp
    · exact hreduce h
  · split at h
    · rename_i hzero
      cases h
      rw [value_mul, hzero, value_zero]
      simpa using Format.rounded_zero (by decide)
    · exact hreduce h

theorem value_div (left right : Decimal) :
    left.value / right.value = sign (left.negative != right.negative) *
      (left.coefficient * 10 ^ right.scale / (right.coefficient * 10 ^ left.scale)) := by
  have hsign : sign left.negative / sign right.negative =
      sign (left.negative != right.negative) := by
    cases left.negative <;> cases right.negative <;> simp [sign]
  rw [value_eq_sign, value_eq_sign, mul_div_mul_comm, hsign, div_div_div_eq]
  ring

theorem div_rounded {left right r : Decimal} (h : left.div right = some r) :
    format.Rounded (left.value / right.value) r.value := by
  unfold div at h
  split at h
  · cases h
  rename_i hnonzero
  have hpos : 0 < right.coefficient := Nat.pos_of_ne_zero hnonzero
  have hright : (right.coefficient : ℚ) ≠ 0 := by exact_mod_cast hnonzero
  split at h
  · rename_i hexact
    have hvalue : left.value / right.value = r.value := by
      cases h
      obtain ⟨⟨scale, hscale⟩, k, hk⟩ := hexact.imp_left Nat.exists_eq_add_of_le
      rw [value_div, value_eq_sign]
      dsimp only
      rw [hk, hscale, Nat.mul_div_cancel_left _ hpos, Nat.add_sub_cancel_left, pow_add]
      push_cast
      field_simp
    rw [hvalue]
    exact rounded_self r
  · obtain ⟨q, hq, rfl⟩ := Option.map_eq_some_iff.mp h
    have hrounded := reduce_rounded (Nat.mul_pos hpos (Nat.pow_pos (by decide))) (.inl le_rfl) hq
    rw [value_normalise]
    have hvalue : left.value / right.value = sign (left.negative != right.negative) *
        ((left.coefficient * 10 ^ (28 + right.scale) : ℕ) /
          ((right.coefficient * 10 ^ left.scale : ℕ) * 10 ^ 28)) := by
      rw [value_div, Nat.pow_add]
      push_cast
      field_simp
      norm_num
    rwa [hvalue]

theorem value_round (d : Decimal) (places : Nat) :
    (d.round places).value = halfEven (d.value * 10 ^ places) / 10 ^ places := by
  have hpow (n : Nat) : (10 : ℚ) ^ n ≠ 0 := by positivity
  unfold round
  split
  · rename_i hscale
    obtain ⟨more, rfl⟩ := Nat.exists_eq_add_of_le hscale
    have hexact : d.value * 10 ^ (d.scale + more) =
        (((if d.negative then -1 else 1) * (d.coefficient * 10 ^ more : ℕ) : ℤ) : ℚ) := by
      unfold value
      rw [pow_add]
      push_cast
      field_simp
    rw [halfEven_of_eq hexact, ← hexact, mul_div_cancel_right₀ _ (hpow _)]
  · rename_i hscale
    obtain ⟨less, hless⟩ := Nat.exists_eq_add_of_le (Nat.le_of_not_le hscale)
    have hpos : 0 < 10 ^ less := Nat.pow_pos (by decide)
    have hquotient : d.value * 10 ^ places =
        sign d.negative * (d.coefficient / (10 ^ less : ℕ)) := by
      rw [value_eq_sign, hless, pow_add]
      push_cast
      field_simp
    rw [value_eq_sign, hquotient]
    dsimp only
    rw [hless, Nat.add_sub_cancel_left]
    have hdiv := divEven_eq d.coefficient hpos
    cases d.negative with
    | false =>
      simp only [sign, Bool.false_eq_true, if_false, one_mul]
      rw [← hdiv, Int.cast_natCast]
    | true =>
      simp only [sign, if_true, neg_one_mul]
      rw [halfEven_neg, ← hdiv, Int.cast_neg, Int.cast_natCast, neg_div]

theorem signed_of_nonneg {d : Decimal} (h : 0 ≤ d.value) : d.signed = false := by
  have hbound : d.value ≤ (⌈d.value⌉.toNat : ℕ) := by
    have hceil : ((⌈d.value⌉.toNat : ℕ) : ℚ) = ⌈d.value⌉ := by
      exact_mod_cast Int.toNat_of_nonneg (Int.ceil_nonneg h)
    rw [hceil]
    exact Int.le_ceil d.value
  exact (value_between.mp ⟨h, hbound⟩).1

theorem value_of_signed {d : Decimal} (h : d.signed = false) :
    d.value = d.coefficient / 10 ^ d.scale := by
  rw [value_eq_signed, h, if_neg Bool.false_ne_true, one_mul]

theorem value_truncate {d : Decimal} (places : Nat) (h : 0 ≤ d.value) :
    (d.truncate places).value = ⌊d.value * 10 ^ places⌋ / 10 ^ places := by
  have hpow (n : Nat) : (10 : ℚ) ^ n ≠ 0 := by positivity
  have hsigned := signed_of_nonneg h
  unfold truncate
  split
  · rename_i hscale
    obtain ⟨more, rfl⟩ := Nat.exists_eq_add_of_le hscale
    have hexact : d.value * 10 ^ (d.scale + more) = ((d.coefficient * 10 ^ more : ℕ) : ℤ) := by
      rw [value_of_signed hsigned, pow_add]
      push_cast
      field_simp
    rw [hexact, Int.floor_intCast, ← hexact, mul_div_cancel_right₀ _ (hpow _)]
  · rename_i hscale
    obtain ⟨less, hless⟩ := Nat.exists_eq_add_of_le (Nat.le_of_not_le hscale)
    have hquotient : d.value * 10 ^ places = (d.coefficient : ℚ) / (10 ^ less : ℕ) := by
      rw [value_of_signed hsigned, hless, pow_add]
      push_cast
      field_simp
    rw [hquotient, Rat.floor_natCast_div_natCast, value_of_signed]
    · dsimp only
      rw [hless, Nat.add_sub_cancel_left, ← Int.natCast_div, Int.cast_natCast]
    -- A quotient of zero has no sign either.
    · cases hnegative : d.negative with
      | false => simp [signed]
      | true =>
        have hzero : d.coefficient = 0 := by simpa [signed, hnegative] using hsigned
        simp [signed, hzero]

theorem round_mono {d d' : Decimal} (places : Nat) (h : d.value ≤ d'.value) :
    (d.round places).value ≤ (d'.round places).value := by
  rw [value_round, value_round]
  apply div_le_div_of_nonneg_right _ (by positivity)
  exact_mod_cast halfEven_mono (mul_le_mul_of_nonneg_right h (by positivity))

theorem abs_round_le {d : Decimal} {m : Nat} (places : Nat) (h : |d.value| ≤ m) :
    |(d.round places).value| ≤ m := by
  have hpow : (0 : ℚ) < 10 ^ places := by positivity
  rw [value_round, abs_div, abs_of_pos hpow, div_le_iff₀ hpow]
  have hscaled : |d.value * 10 ^ places| ≤ (m * 10 ^ places : ℕ) := by
    rw [abs_mul, abs_of_pos hpow]
    push_cast
    exact mul_le_mul_of_nonneg_right h hpow.le
  exact_mod_cast abs_halfEven_le_nat hscaled

theorem reduce_isSome {negative : Bool} {n d places : Nat}
    (h : divEven n (d * 10 ^ places) < 2 ^ 96) : (reduce negative n d places).isSome := by
  induction places generalizing d with
  | zero =>
    unfold reduce
    rw [Nat.pow_zero, Nat.mul_one] at h
    rw [dif_pos h]
    rfl
  | succ places ih =>
    unfold reduce
    split
    · rfl
    · apply ih
      rwa [Nat.mul_assoc, ← Nat.pow_succ']

theorem mul_isSome {left right : Decimal} {m : Nat} (hm : m < 2 ^ 96)
    (h : |left.value * right.value| ≤ m) : (left.mul right).isSome := by
  have hpos : 0 < 10 ^ (left.scale + right.scale) := Nat.pow_pos (by decide)
  have hle : left.coefficient * right.coefficient ≤ m * (1 * 10 ^ (left.scale + right.scale)) := by
    rw [abs_mul, abs_value, abs_value, div_mul_div_comm, ← pow_add,
      div_le_iff₀ (by positivity)] at h
    rw [Nat.one_mul]
    exact_mod_cast h
  have hreduce : (reduce (left.negative != right.negative)
      (left.coefficient * right.coefficient) 1 (left.scale + right.scale)).isSome := by
    apply reduce_isSome
    apply Nat.lt_of_le_of_lt _ hm
    exact divEven_le_of_le_mul (by rwa [Nat.one_mul]) hle
  unfold mul
  dsimp only
  split
  · split
    · rfl
    · exact hreduce
  · split
    · rfl
    · exact hreduce

@[simp] theorem value_ofInt32 (n : Int32) : (ofInt32 n).value = n.toInt := by
  unfold value ofInt32
  rcases lt_or_ge n.toInt 0 with hneg | hnonneg
  · simp [hneg, Nat.cast_natAbs, abs_of_neg hneg]
  · simp [not_lt.mpr hnonneg, Nat.cast_natAbs, abs_of_nonneg hnonneg]

end Decimal

end Fcmr.DotNet
