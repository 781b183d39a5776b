import Fcmr.DotNet.DecimalRange

/-! The share of one count in another as a percentage that is cut off after one decimal
place, and so is not above the exact one. -/
namespace Fcmr.DotNet

namespace Decimal

def percentage (part whole : Int32) : Option Decimal :=
  if whole = 0 then none
  else do
    let scaled ← (ofInt32 part).mul (literal 100 0)
    let percent ← scaled.div (ofInt32 whole)
    return percent.truncate 1

def shareValue (part whole : ℤ) : ℚ := ⌊nearest (part * 100 / whole) * 10⌋ / 10

theorem abs_toInt_le (n : Int32) : |(n.toInt : ℚ)| ≤ 2 ^ 31 := by
  have hlow := n.le_toInt
  have hhigh := n.toInt_lt
  have habs : |n.toInt| ≤ 2 ^ 31 := abs_le.mpr ⟨by omega, by omega⟩
  exact_mod_cast habs

theorem mul_hundred (part : Int32) : ∃ scaled,
    (ofInt32 part).mul (literal 100 0) = some scaled ∧ scaled.value = part.toInt * 100 := by
  have hhundred : (literal 100 0).value = 100 := by norm_num [literal, value]
  have hle := abs_toInt_le part
  have hrange : InRange ((ofInt32 part).value * (literal 100 0).value) := by
    apply inRange_of_le_nat (n := 2 ^ 31 * 100) (by decide)
    rw [value_ofInt32, hhundred, abs_mul]
    norm_num
    linarith
  obtain ⟨scaled, hscaled, hvalue⟩ := mul_of_inRange hrange
  refine ⟨scaled, hscaled, ?_⟩
  have hexact : format.Rounded ((part.toInt : ℚ) * 100) (part.toInt * 100) := by
    apply Rounding.Format.rounded_of_exact (k := part.toInt * 100) (p := 0)
    · norm_num
    · have hint : |part.toInt * 100| ≤ 2 ^ 31 * 100 := by
        have hint : |part.toInt| ≤ 2 ^ 31 := by exact_mod_cast hle
        rw [abs_mul]
        norm_num
        omega
      exact lt_of_le_of_lt hint (by decide)
    · exact Nat.zero_le _
  rw [hvalue, value_ofInt32, hhundred]
  exact hexact.eq_nearest.symm

theorem abs_share_le {part whole : Int32} (h : 0 < whole.toInt) :
    |(part.toInt : ℚ) * 100 / whole.toInt| ≤ (2 ^ 31 * 100 : ℕ) := by
  have hle := abs_toInt_le part
  have hwhole : (1 : ℚ) ≤ |(whole.toInt : ℚ)| := by
    rw [abs_of_pos (by exact_mod_cast h)]
    exact_mod_cast h
  rw [abs_div, abs_mul]
  apply (div_le_self (by positivity) hwhole).trans
  norm_num
  linarith

theorem inRange_share {part whole : Int32} (h : 0 < whole.toInt) :
    InRange ((part.toInt : ℚ) * 100 / whole.toInt) :=
  inRange_of_le_nat (by decide) (abs_share_le h)

theorem percentage_spec {part whole : Int32} (hpart : 0 ≤ part.toInt) (hwhole : 0 < whole.toInt) :
    ∃ percent, percentage part whole = some percent ∧
      percent.value = shareValue part.toInt whole.toInt := by
  obtain ⟨scaled, hscaled, hvalue⟩ := mul_hundred part
  have hrange : InRange ((part.toInt : ℚ) * 100 / whole.toInt) := inRange_share hwhole
  have hnonzero : (ofInt32 whole).value ≠ 0 := by
    rw [value_ofInt32]
    exact_mod_cast hwhole.ne'
  rw [← hvalue, ← value_ofInt32] at hrange
  obtain ⟨percent, hpercent, hnearest⟩ := div_of_inRange hnonzero hrange
  rw [hvalue, value_ofInt32] at hnearest
  have hnonneg : 0 ≤ percent.value := by
    have hpart : (0 : ℚ) ≤ part.toInt := by exact_mod_cast hpart
    have hwhole : (0 : ℚ) < whole.toInt := by exact_mod_cast hwhole
    rw [hnearest]
    exact nearest_nonneg (by positivity)
  have hne : whole ≠ 0 := by
    rintro rfl
    exact absurd hwhole (by decide)
  refine ⟨percent.truncate 1, ?_, ?_⟩
  · unfold percentage
    rw [if_neg hne, hscaled, Option.bind_eq_bind, Option.bind_some, hpercent]
    rfl
  · rw [value_truncate 1 hnonneg, hnearest, pow_one]
    rfl

theorem percentage_value {part whole : Int32} {percent : Decimal} (hpart : 0 ≤ part.toInt)
    (hwhole : 0 ≤ whole.toInt) (h : percentage part whole = some percent) :
    0 < whole.toInt ∧ percent.value = shareValue part.toInt whole.toInt := by
  have hpos : 0 < whole.toInt := by
    apply hwhole.lt_of_ne
    intro hzero
    have hwhole : whole = 0 := Int32.toInt_inj.mp hzero.symm
    rw [percentage, if_pos hwhole] at h
    cases h
  obtain ⟨percent', hpercent, hvalue⟩ := percentage_spec hpart hpos
  rw [hpercent] at h
  cases h
  exact ⟨hpos, hvalue⟩

theorem floor_share {part whole : Int32} (hwhole : 0 < whole.toInt) :
    ⌊nearest ((part.toInt : ℚ) * 100 / whole.toInt) * 10⌋ = part.toInt * 1000 / whole.toInt := by
  have hrange : InRange ((part.toInt : ℚ) * 100 / whole.toInt) := inRange_share hwhole
  have hpos : (0 : ℚ) < whole.toInt := by exact_mod_cast hwhole
  have hpart := abs_toInt_le part
  have hlow : (part.toInt * 1000 / whole.toInt : ℤ) * (whole.toInt : ℚ) ≤ part.toInt * 1000 := by
    exact_mod_cast Int.ediv_mul_le (part.toInt * 1000) hwhole.ne'
  have hhigh : (part.toInt : ℚ) * 1000 + 1 ≤
      ((part.toInt * 1000 / whole.toInt : ℤ) + 1) * whole.toInt := by
    exact_mod_cast Int.lt_ediv_add_one_mul_self (part.toInt * 1000) hwhole
  have hquotient : |part.toInt * 1000 / whole.toInt| ≤ 2 ^ 31 * 1000 := by
    apply (Int.abs_ediv_le_abs _ _).trans
    rw [abs_mul]
    exact mul_le_mul_of_nonneg_right (by exact_mod_cast hpart) (abs_nonneg 1000)
  generalize part.toInt * 1000 / whole.toInt = quotient at hlow hhigh hquotient ⊢
  apply Int.floor_eq_iff.mpr
  constructor
  · have hexact : format.Rounded ((quotient : ℚ) / 10) (quotient / 10) := by
      apply Rounding.Format.rounded_of_exact (k := quotient) (p := 1)
      · norm_num [format]
      · exact lt_of_le_of_lt hquotient (by decide)
      · decide
    have hle : (quotient : ℚ) / 10 ≤ part.toInt * 100 / whole.toInt := by
      rw [div_le_div_iff₀ (by norm_num) hpos]
      linarith
    have hmono := hexact.mono (rounded_nearest hrange) hle
    linarith
  · have herror := (abs_le.mp (abs_rounded_sub_le (rounded_nearest hrange))).2
    have hsize : |(part.toInt : ℚ) * 100 / whole.toInt| ≤ (2 ^ 31 * 100 : ℕ) :=
      abs_share_le hwhole
    push_cast at hsize
    have hgap : (part.toInt : ℚ) * 100 / whole.toInt ≤ (quotient + 1) / 10 - 1 / 10 ^ 11 := by
      have hle := (abs_le.mp (abs_toInt_le whole)).2
      rw [div_le_iff₀ hpos]
      linarith
    linarith

theorem shareValue_eq (part : Int32) {whole : Int32} (hwhole : 0 < whole.toInt) :
    shareValue part.toInt whole.toInt = (part.toInt * 1000 / whole.toInt : ℤ) / 10 := by
  unfold shareValue
  rw [floor_share hwhole]

section

variable {part part' whole : Int32} (hwhole : 0 < whole.toInt)

include hwhole

theorem shareValue_nonneg (hpart : 0 ≤ part.toInt) : 0 ≤ shareValue part.toInt whole.toInt := by
  have hquotient : (0 : ℚ) ≤ (part.toInt * 1000 / whole.toInt : ℤ) := by
    exact_mod_cast Int.ediv_nonneg (by omega) hwhole.le
  rw [shareValue_eq part hwhole]
  positivity

theorem shareValue_mono (h : part.toInt ≤ part'.toInt) :
    shareValue part.toInt whole.toInt ≤ shareValue part'.toInt whole.toInt := by
  have hquotient : ((part.toInt * 1000 / whole.toInt : ℤ) : ℚ) ≤
      (part'.toInt * 1000 / whole.toInt : ℤ) := by
    exact_mod_cast Int.ediv_le_ediv hwhole (by omega)
  rw [shareValue_eq part hwhole, shareValue_eq part' hwhole]
  linarith

theorem shareValue_le_exact :
    shareValue part.toInt whole.toInt ≤ 100 * part.toInt / whole.toInt := by
  have hpos : (0 : ℚ) < whole.toInt := by exact_mod_cast hwhole
  have hlow : (part.toInt * 1000 / whole.toInt : ℤ) * (whole.toInt : ℚ) ≤ part.toInt * 1000 := by
    exact_mod_cast Int.ediv_mul_le (part.toInt * 1000) hwhole.ne'
  rw [shareValue_eq part hwhole, div_le_div_iff₀ (by norm_num) hpos]
  linarith

theorem exact_lt_shareValue :
    100 * (part.toInt : ℚ) / whole.toInt - 1 / 10 < shareValue part.toInt whole.toInt := by
  have hpos : (0 : ℚ) < whole.toInt := by exact_mod_cast hwhole
  have hhigh : (part.toInt : ℚ) * 1000 <
      ((part.toInt * 1000 / whole.toInt : ℤ) + 1) * whole.toInt := by
    exact_mod_cast Int.lt_ediv_add_one_mul_self (part.toInt * 1000) hwhole
  rw [shareValue_eq part hwhole, sub_lt_iff_lt_add, ← add_div,
    div_lt_div_iff₀ hpos (by norm_num)]
  linarith

theorem shareValue_le (hle : part.toInt ≤ whole.toInt) :
    shareValue part.toInt whole.toInt ≤ 100 := by
  have hpos : (0 : ℚ) < whole.toInt := by exact_mod_cast hwhole
  have hcast : (part.toInt : ℚ) ≤ whole.toInt := by exact_mod_cast hle
  apply (shareValue_le_exact hwhole).trans
  rw [div_le_iff₀ hpos]
  linarith

theorem shareValue_eq_hundred (hle : part.toInt ≤ whole.toInt) :
    shareValue part.toInt whole.toInt = 100 ↔ part = whole := by
  have hpos : (0 : ℚ) < whole.toInt := by exact_mod_cast hwhole
  constructor
  · intro h
    have hexact : shareValue part.toInt whole.toInt ≤ _ := shareValue_le_exact hwhole
    rw [h, le_div_iff₀ hpos] at hexact
    have hge : whole.toInt ≤ part.toInt := by
      have hcast : (whole.toInt : ℚ) ≤ part.toInt := by linarith
      exact_mod_cast hcast
    exact Int32.toInt_inj.mp (le_antisymm hle hge)
  · rintro rfl
    rw [shareValue_eq part hwhole, Int.mul_ediv_cancel_left _ hwhole.ne']
    norm_num

end

example : (percentage 2 3).map (·.toText) = some (lit "66.6") := by decide

end Decimal

end Fcmr.DotNet
