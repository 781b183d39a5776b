import Fcmr.DotNet.DecimalRange
import Fcmr.DotNet.Floating

/-! How large the results of double arithmetic are, and the conversion to a decimal, which keeps
the size. -/
namespace Fcmr.DotNet

theorem zpow_toNat {base : ℕ} (hbase : 0 < base) (e : ℤ) :
    (base : ℚ) ^ e = (base ^ e.toNat : ℕ) / (base ^ (-e).toNat : ℕ) := by
  have hne : (base : ℚ) ≠ 0 := by exact_mod_cast hbase.ne'
  rcases le_total 0 e with h | h
  · obtain ⟨n, rfl⟩ := Int.eq_ofNat_of_zero_le h
    simp
  · obtain ⟨n, hn⟩ := Int.eq_ofNat_of_zero_le (Int.neg_nonneg.mpr h)
    obtain rfl : e = -n := by omega
    simp

section

variable {base n d : ℕ} (hbase : 1 < base) (hd : 0 < d)

include hbase hd

theorem scaledDiv_le {m : ℕ} {e : ℤ} (h : (n : ℚ) / d ≤ m * (base : ℚ) ^ e) :
    scaledDiv base n d e ≤ m := by
  have hpos (k : ℕ) : 0 < base ^ k := Nat.pow_pos (by omega)
  apply divEven_le_of_le_mul (Nat.mul_pos hd (hpos _))
  have hd' : (0 : ℚ) < d := by exact_mod_cast hd
  have hscale : (0 : ℚ) < (base ^ (-e).toNat : ℕ) := by exact_mod_cast hpos _
  rw [zpow_toNat (by omega), ← mul_div_assoc, div_le_div_iff₀ hd' hscale] at h
  have hcast : n * base ^ (-e).toNat ≤ m * base ^ e.toNat * d := by exact_mod_cast h
  rwa [Nat.mul_comm d, ← Nat.mul_assoc]

theorem leadingPower_spec (hn : 0 < n) {log : ℕ → ℕ}
    (hlog : ∀ n, 0 < n → base ^ log n ≤ n ∧ n < base ^ (log n + 1)) :
    (base : ℚ) ^ leadingPower base n d log ≤ n / d ∧
      (n : ℚ) / d < (base : ℚ) ^ (leadingPower base n d log + 1) := by
  have hbase' : (0 : ℚ) < base := by exact_mod_cast (by omega : 0 < base)
  have hd' : (0 : ℚ) < d := by exact_mod_cast hd
  obtain ⟨hnlow, hnhigh⟩ := hlog n hn
  obtain ⟨hdlow, hdhigh⟩ := hlog d hd
  have hlow : (base : ℚ) ^ ((log n : ℤ) - log d - 1) ≤ n / d := by
    calc
      (base : ℚ) ^ ((log n : ℤ) - log d - 1) = base ^ log n / base ^ (log d + 1) := by
        rw [sub_sub, zpow_sub₀ hbase'.ne', zpow_natCast]
        exact_mod_cast rfl
      _ ≤ n / d := by
        apply div_le_div₀ (Nat.cast_nonneg n) _ hd' _
        · exact_mod_cast hnlow
        · exact_mod_cast hdhigh.le
  have hhigh : (n : ℚ) / d < (base : ℚ) ^ ((log n : ℤ) - log d + 1) := by
    calc
      (n : ℚ) / d < base ^ (log n + 1) / base ^ log d := by
        apply div_lt_div₀ _ _ (by positivity) (by positivity)
        · exact_mod_cast hnhigh
        · exact_mod_cast hdlow
      _ = (base : ℚ) ^ ((log n : ℤ) - log d + 1) := by
        rw [sub_add_eq_add_sub, zpow_sub₀ hbase'.ne', zpow_natCast]
        exact_mod_cast rfl
  have hcompare (e : ℤ) :
      n * base ^ (-e).toNat < d * base ^ e.toNat ↔ (n : ℚ) / d < (base : ℚ) ^ e := by
    have hscale : (0 : ℚ) < (base ^ (-e).toNat : ℕ) := by positivity
    rw [zpow_toNat (by omega), div_lt_div_iff₀ hd' hscale, Nat.mul_comm d]
    exact_mod_cast Iff.rfl
  unfold leadingPower
  dsimp only
  split
  · rename_i hless
    rw [sub_add_cancel]
    exact ⟨hlow, (hcompare _).mp hless⟩
  · rename_i hless
    exact ⟨le_of_not_gt fun h => hless ((hcompare _).mpr h), hhigh⟩

end

theorem natAbs_num_div_den {q : ℚ} (hq : 0 ≤ q) : (q.num.natAbs : ℚ) / q.den = q := by
  rw [← Int.cast_natCast, Int.natAbs_of_nonneg (Rat.num_nonneg.mpr hq), Rat.num_div_den]

theorem leadingPower_rat {base : ℕ} (hbase : 1 < base) {log : ℕ → ℕ}
    (hlog : ∀ n, 0 < n → base ^ log n ≤ n ∧ n < base ^ (log n + 1)) {q : ℚ} (hq : 0 < q) :
    (base : ℚ) ^ leadingPower base q.num.natAbs q.den log ≤ q ∧
      q < (base : ℚ) ^ (leadingPower base q.num.natAbs q.den log + 1) := by
  have hn : 0 < q.num.natAbs := Int.natAbs_pos.mpr (Rat.num_ne_zero.mpr hq.ne')
  have hleading := leadingPower_spec hbase q.den_pos hn hlog
  rwa [natAbs_num_div_den hq.le] at hleading

theorem log2_spec (n : ℕ) (hn : 0 < n) : 2 ^ Nat.log2 n ≤ n ∧ n < 2 ^ (Nat.log2 n + 1) :=
  ⟨Nat.log2_self_le hn.ne', Nat.lt_log2_self⟩

namespace Double

theorem bits_ofRat_le {q : ℚ} {k : ℕ} (hk : k ≤ 1000) (hq : 0 ≤ q) (hle : q ≤ 2 ^ k) :
    (ofRat q).bits.toNat ≤ (k + 1023) * 2 ^ 52 := by
  unfold ofRat
  rw [if_neg (not_lt.mpr hq)]
  split
  · exact Nat.zero_le _
  rename_i hne
  have hquotient := natAbs_num_div_den hq
  have hleading := leadingPower_rat (by decide) log2_spec (lt_of_le_of_ne hq (Ne.symm hne))
  generalize hlead : leadingPower 2 q.num.natAbs q.den Nat.log2 = lead at hleading
  obtain ⟨hlow, hhigh⟩ := hleading
  push_cast at hlow hhigh
  have hlead_le : lead ≤ k := by
    rw [← zpow_natCast] at hle
    exact (zpow_le_zpow_iff_right₀ one_lt_two).mp (hlow.trans hle)
  have hmagnitude : (max lead (-1022) + 1022).toNat * 2 ^ 52 +
      scaledDiv 2 q.num.natAbs q.den (max lead (-1022) - 52) ≤ (k + 1023) * 2 ^ 52 := by
    by_cases htop : lead = k
    · have hdigits : scaledDiv 2 q.num.natAbs q.den (max lead (-1022) - 52) ≤ 2 ^ 52 := by
        apply scaledDiv_le (by decide) q.den_pos
        rw [hquotient, max_eq_left (by omega), htop, zpow_sub₀ (by norm_num), zpow_natCast]
        push_cast
        linarith
      omega
    · have hdigits : scaledDiv 2 q.num.natAbs q.den (max lead (-1022) - 52) ≤ 2 ^ 53 := by
        apply scaledDiv_le (by decide) q.den_pos
        have hmono : (2 : ℚ) ^ (lead + 1) ≤ 2 ^ (max lead (-1022) + 1) :=
          zpow_le_zpow_right₀ one_le_two (by omega)
        rw [hquotient, zpow_sub₀ (by norm_num)]
        rw [zpow_add₀ (by norm_num) (max lead (-1022))] at hmono
        push_cast
        norm_num at hmono ⊢
        linarith
      omega
  dsimp only
  rw [hlead]
  generalize (max lead (-1022) + 1022).toNat * 2 ^ 52 + _ = magnitude at hmagnitude ⊢
  rw [UInt64.toNat_ofNat']
  omega

theorem toRat_le {x : Double} {k : ℕ} (hk : k ≤ 1000)
    (h : x.bits.toNat ≤ (k + 1023) * 2 ^ 52) : 0 ≤ x.toRat ∧ x.toRat ≤ 2 ^ k := by
  have hnegative : x.isNegative = false := decide_eq_false (by omega)
  have hexponent : x.exponent = x.bits.toNat / 2 ^ 52 := Nat.mod_eq_of_lt (by omega)
  have hfraction : x.fraction < 2 ^ 52 := Nat.mod_lt _ (by decide)
  have hbits : x.exponent * 2 ^ 52 + x.fraction = x.bits.toNat := by
    rw [hexponent, fraction]
    omega
  generalize hsignificand : (if x.exponent = 0 then x.fraction else 2 ^ 52 + x.fraction) = significand
  have hvalue : x.toRat = significand * (2 : ℚ) ^ ((max x.exponent 1 : ℕ) - 1075 : ℤ) := by
    have hpower := zpow_toNat (by decide : 0 < 2) (max x.exponent 1 - 1075)
    unfold toRat
    dsimp only
    rw [hsignificand, hnegative, if_neg Bool.false_ne_true, one_mul]
    push_cast at hpower ⊢
    rw [hpower, mul_div_assoc]
  rw [hvalue]
  refine ⟨mul_nonneg (Nat.cast_nonneg _) (zpow_nonneg (by norm_num) _), ?_⟩
  by_cases htop : x.exponent = k + 1023
  · have hsize : significand = 2 ^ 52 := by
      rw [← hsignificand, if_neg (by omega)]
      omega
    rw [hsize, htop, max_eq_left (by omega), show ((k + 1023 : ℕ) : ℤ) - 1075 = k - 52 by omega,
      zpow_sub₀ (by norm_num), zpow_natCast]
    push_cast
    linarith
  · have hsize : significand ≤ 2 ^ 53 := by
      rw [← hsignificand]
      split <;> omega
    have hcast : (significand : ℚ) ≤ 2 ^ 53 := by exact_mod_cast hsize
    have hlast : ((max x.exponent 1 : ℕ) - 1075 : ℤ) ≤ k - 53 := by omega
    generalize ((max x.exponent 1 : ℕ) - 1075 : ℤ) = e at hlast
    calc
      (significand : ℚ) * 2 ^ e ≤ 2 ^ 53 * 2 ^ ((k : ℤ) - 53) := by
        have hpower : (2 : ℚ) ^ e ≤ 2 ^ ((k : ℤ) - 53) := zpow_le_zpow_right₀ one_le_two hlast
        exact mul_le_mul hcast hpower (zpow_nonneg (by norm_num) e) (by norm_num)
      _ = 2 ^ k := by
        rw [← zpow_natCast, ← zpow_natCast, ← zpow_add₀ (by norm_num)]
        norm_num

theorem toRat_ofRat_le {q : ℚ} {k : ℕ} (hk : k ≤ 1000) (hq : 0 ≤ q) (hle : q ≤ 2 ^ k) :
    0 ≤ (ofRat q).toRat ∧ (ofRat q).toRat ≤ 2 ^ k :=
  toRat_le hk (bits_ofRat_le hk hq hle)

end Double

namespace Decimal

theorem abs_value_neg (d : Decimal) : |d.neg.value| = |d.value| := by
  rw [abs_value, abs_value]
  rfl

def ofDigits (negative : Bool) (coefficient places : Nat) : Option Decimal :=
  let reduced := unscale coefficient places
  if h : reduced.1 < 2 ^ 96 ∧ reduced.2 ≤ 28 then some ⟨negative, reduced.1, reduced.2, h.1, h.2⟩
  else none

/-- `(decimal)value` of a finite number: fifteen significant digits, as far as there are decimal
places for them. -/
def ofDouble (x : Double) : Option Decimal :=
  let n := x.toRat.num.natAbs
  let d := x.toRat.den
  if n = 0 then some zero
  else
    let places := Min.min (14 - leadingPower 10 n d fun n => (natText n).length - 1) 28
    let digits := scaledDiv 10 n d (-places)
    ofDigits (x.isNegative && digits != 0) (digits * 10 ^ (-places).toNat) places.toNat

theorem ofDigits_value {coefficient places : ℕ} (hcoefficient : coefficient < 2 ^ 96)
    (hplaces : places ≤ 28) :
    ∃ r, ofDigits false coefficient places = some r ∧ r.value = coefficient / 10 ^ places := by
  obtain ⟨dropped, hscale, hvalue⟩ := unscale_spec coefficient places
  have hle := Nat.le_mul_of_pos_right (unscale coefficient places).1
    (Nat.pow_pos (n := dropped) (show 0 < 10 by decide))
  refine ⟨_, dif_pos ⟨by omega, by omega⟩, ?_⟩
  have hvalue' : (coefficient : ℚ) = (unscale coefficient places).1 * 10 ^ dropped := by
    exact_mod_cast hvalue
  rw [value, if_neg Bool.false_ne_true, one_mul, hvalue']
  have hpow : (10 : ℚ) ^ places = 10 ^ (unscale coefficient places).2 * 10 ^ dropped := by
    rw [← pow_add, ← hscale]
  rw [hpow]
  field_simp

theorem length_natText_spec (n : ℕ) (hn : 0 < n) :
    10 ^ ((natText n).length - 1) ≤ n ∧ n < 10 ^ ((natText n).length - 1 + 1) := by
  have hlength : (natText n).length = (Nat.toDigits 10 n).length := List.length_map _
  have hpos : 0 < (Nat.toDigits 10 n).length := Nat.length_toDigits_pos
  rw [hlength]
  constructor
  · by_contra hlow
    rcases Nat.eq_zero_or_pos ((Nat.toDigits 10 n).length - 1) with hzero | hmore
    · rw [hzero, Nat.pow_zero] at hlow
      omega
    · have hle := (Nat.length_toDigits_le_iff (by decide) hmore).mpr (Nat.lt_of_not_le hlow)
      omega
  · rw [Nat.sub_add_cancel hpos]
    exact (Nat.length_toDigits_le_iff (by decide) hpos).mp le_rfl

theorem isNegative_of_pos {x : Double} (h : 0 < x.toRat) : x.isNegative = false := by
  by_contra hnegative
  refine absurd h (not_lt.mpr ?_)
  unfold Double.toRat
  dsimp only
  rw [if_pos (by simpa using hnegative), neg_one_mul, neg_div]
  exact neg_nonpos.mpr (by positivity)

theorem leadingPower_nonpos {q : ℚ} (hq : 0 < q) (h : q ≤ 9) :
    leadingPower 10 q.num.natAbs q.den (fun n => (natText n).length - 1) ≤ 0 := by
  have hleading := (leadingPower_rat (by decide) length_natText_spec hq).1
  by_contra hlarge
  have hpower : (10 : ℚ) ^ (1 : ℤ) ≤ 10 ^ leadingPower 10 q.num.natAbs q.den
      (fun n => (natText n).length - 1) := zpow_le_zpow_right₀ (by norm_num) (by omega)
  rw [zpow_one] at hpower
  push_cast at hleading
  linarith

theorem ofDouble_between {x : Double} {m : ℕ} (hm : m ≤ 7) (h : 0 ≤ x.toRat ∧ x.toRat ≤ m) :
    ∃ r, ofDouble x = some r ∧ 0 ≤ r.value ∧ r.value ≤ m := by
  by_cases hzero : x.toRat.num.natAbs = 0
  · refine ⟨zero, if_pos hzero, ?_, ?_⟩ <;> norm_num [zero, value]
  have hpos : 0 < x.toRat := by
    apply lt_of_le_of_ne h.1
    intro heq
    rw [← heq] at hzero
    exact hzero rfl
  have hsmall : (m : ℚ) ≤ 7 := by exact_mod_cast hm
  have hlead := leadingPower_nonpos hpos (by linarith [h.2])
  obtain ⟨p, hp⟩ := Int.eq_ofNat_of_zero_le
    (show 0 ≤ Min.min (14 - leadingPower 10 x.toRat.num.natAbs x.toRat.den
      fun n => (natText n).length - 1) 28 by omega)
  have hdouble : ofDouble x =
      ofDigits false (scaledDiv 10 x.toRat.num.natAbs x.toRat.den (-p)) p := by
    unfold ofDouble
    dsimp only
    rw [if_neg hzero, hp, isNegative_of_pos hpos, Bool.false_and, Int.toNat_natCast,
      Int.toNat_eq_zero.mpr (by omega), Nat.pow_zero, Nat.mul_one]
  have hdigits : scaledDiv 10 x.toRat.num.natAbs x.toRat.den (-p) ≤ m * 10 ^ p := by
    apply scaledDiv_le (by decide) x.toRat.den_pos
    rw [natAbs_num_div_den h.1, zpow_neg, zpow_natCast]
    push_cast
    rw [mul_assoc, mul_inv_cancel₀ (by positivity), mul_one]
    exact h.2
  have hplaces : p ≤ 28 := by omega
  have hfits : m * 10 ^ p < 2 ^ 96 := by
    calc
      m * 10 ^ p ≤ 7 * 10 ^ 28 :=
        Nat.mul_le_mul hm (Nat.pow_le_pow_right (by decide) hplaces)
      _ < 2 ^ 96 := by decide
  obtain ⟨r, hr, hvalue⟩ := ofDigits_value (Nat.lt_of_le_of_lt hdigits hfits) hplaces
  refine ⟨r, hdouble.trans hr, ?_, ?_⟩
  · rw [hvalue]
    positivity
  · rw [hvalue, div_le_iff₀ (by positivity)]
    exact_mod_cast hdigits

end Decimal

example : ((Decimal.ofDouble (.ofRat (1 / 3))).map (·.toText)) = some (lit "0.333333333333333") := by
  decide +kernel

end Fcmr.DotNet
