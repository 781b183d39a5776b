import Fcmr.Research.AttributionGate
import Fcmr.Surveillance.ArrivalOrder
import Fcmr.Surveillance.TriageQuality

/-! The percentages that two services report, against the exact ones. -/
namespace Fcmr

open DotNet Research Surveillance

abbrev Reporting := Int32 → Int32 → Option Decimal → Prop

def coverageReports : Reporting := fun part whole reported =>
  ∃ coverage : AttributionCoverage, (coverage.attributedClaims : Int) = part.toInt ∧
    (coverage.totalClaims : Int) = whole.toInt ∧ coverage.percent = reported

def precisionReports : Reporting := fun part whole reported =>
  ∃ report : TriageQualityReport, report.truePositives = part ∧ report.examined = whole ∧
    report.precisionPercent = reported

def recallReports : Reporting := fun part whole reported =>
  ∃ report : TriageQualityReport, report.truePositives = part ∧
    report.concerningInBatch = whole ∧ report.recallPercent = reported

structure NeverFlatters (Reports : Reporting) : Prop where
  reported (part whole : Int32) : 0 ≤ part → part ≤ whole → ∃ reported, Reports part whole reported
  exact {part whole : Int32} {reported : Option Decimal} : 0 ≤ part → part ≤ whole → 0 < whole →
    Reports part whole reported → ∃ percent, reported = some percent ∧
      percent.value ≤ 100 * part.toInt / whole.toInt ∧
      100 * (part.toInt : ℚ) / whole.toInt - 1 / 10 < percent.value ∧
      (percent.value = 100 ↔ part = whole)
  monotone {part part' whole : Int32} {percent percent' : Decimal} : 0 ≤ part → part ≤ part' →
    part' ≤ whole → Reports part whole (some percent) → Reports part' whole (some percent') →
      percent.value ≤ percent'.value

theorem neverFlatters_of {Reports : Reporting}
    (hreported : ∀ part whole, 0 ≤ part → part ≤ whole → ∃ reported, Reports part whole reported)
    (hpercentage : ∀ part whole reported, Reports part whole reported →
      reported = Decimal.percentage part whole) : NeverFlatters Reports where
  reported := hreported
  exact {part whole reported} hpart hle hwhole hreports := by
    rw [Int32.le_iff_toInt_le] at hpart hle
    have hpos : 0 < whole.toInt := Int32.lt_iff_toInt_lt.mp hwhole
    obtain ⟨percent, hpercent, hvalue⟩ := Decimal.percentage_spec hpart hpos
    refine ⟨percent, (hpercentage _ _ _ hreports).trans hpercent, ?_⟩
    rw [hvalue]
    exact ⟨Decimal.shareValue_le_exact hpos, Decimal.exact_lt_shareValue hpos,
      Decimal.shareValue_eq_hundred hpos hle⟩
  monotone {part part' whole percent percent'} hpart hle hle' hreports hreports' := by
    rw [Int32.le_iff_toInt_le] at hpart hle hle'
    have hzero : (0 : Int32).toInt = 0 := rfl
    obtain ⟨hpos, hvalue⟩ := Decimal.percentage_value (by omega) (by omega)
      (hpercentage _ _ _ hreports).symm
    obtain ⟨_, hvalue'⟩ := Decimal.percentage_value (by omega) (by omega)
      (hpercentage _ _ _ hreports').symm
    rw [hvalue, hvalue']
    exact Decimal.shareValue_mono hpos hle

theorem ofNat_eq {n : Nat} {m : Int32} (h : (n : Int) = m.toInt) : Int32.ofNat n = m := by
  have hlt := m.toInt_lt
  apply Int32.toInt_inj.mp
  rw [Int32.toInt_ofNat_of_lt (by omega), h]

theorem coverage_neverFlatters : NeverFlatters coverageReports := by
  apply neverFlatters_of
  · intro part whole hpart hle
    rw [Int32.le_iff_toInt_le] at hpart hle
    have hnonneg : 0 ≤ part.toInt := hpart
    exact ⟨_, ⟨whole.toInt.toNat, part.toInt.toNat, by omega⟩, Int.toNat_of_nonneg hnonneg,
      Int.toNat_of_nonneg (hnonneg.trans hle), rfl⟩
  · rintro part whole _ ⟨coverage, hattributed, htotal, rfl⟩
    unfold AttributionCoverage.percent
    rw [ofNat_eq hattributed, ofNat_eq htotal]

theorem precision_neverFlatters : NeverFlatters precisionReports := by
  apply neverFlatters_of
  · exact fun part whole _ _ => ⟨_, ⟨whole, whole, part, whole⟩, rfl, rfl, rfl⟩
  · rintro part whole _ ⟨report, rfl, rfl, rfl⟩
    rfl

theorem recall_neverFlatters : NeverFlatters recallReports := by
  apply neverFlatters_of
  · exact fun part whole _ _ => ⟨_, ⟨whole, whole, part, whole⟩, rfl, rfl, rfl⟩
  · rintro part whole _ ⟨report, rfl, rfl, rfl⟩
    rfl

theorem meetsBar_exact {coverage : AttributionCoverage} {policy : ResearchPolicy}
    (htotal : coverage.totalClaims < 2 ^ 31) (h : coverage.meetsBar policy = true) :
    policy.minimumCoveragePercent.value ≤
      100 * coverage.attributedClaims / coverage.totalClaims := by
  have hle := coverage.attributed_le
  have hwhole := Int32.toInt_ofNat_of_lt htotal
  have hpart := Int32.toInt_ofNat_of_lt (hle.trans_lt htotal)
  obtain ⟨percent, hpercent, hbar⟩ := (Option.any_eq_true _ _).mp h
  obtain ⟨hpos, hvalue⟩ := Decimal.percentage_value (by omega) (by omega) hpercent
  have hexact : Decimal.shareValue (Int32.ofNat coverage.attributedClaims).toInt
      (Int32.ofNat coverage.totalClaims).toInt ≤ _ := Decimal.shareValue_le_exact hpos
  rw [← hvalue, hpart, hwhole] at hexact
  exact (of_decide_eq_true hbar).trans hexact

/-- No percentage is above the exact one, nor a tenth below it. -/
theorem percentages_never_flatter :
    NeverFlatters coverageReports ∧ NeverFlatters precisionReports ∧ NeverFlatters recallReports ∧
    ∀ (coverage : AttributionCoverage) (policy : ResearchPolicy), coverage.totalClaims < 2 ^ 31 →
      coverage.meetsBar policy = true → policy.minimumCoveragePercent.value ≤
        100 * coverage.attributedClaims / coverage.totalClaims :=
  ⟨coverage_neverFlatters, precision_neverFlatters, recall_neverFlatters,
    fun _ _ => meetsBar_exact⟩

namespace Samples

def twoOfThree : AttributionCoverage := ⟨3, 2, by decide⟩

def twoThirds : ResearchPolicy := { minimumCoveragePercent := .literal 666 1 }

theorem two_of_three : twoThirds.minimumCoveragePercent.value ≤ 100 * (2 : ℕ) / (3 : ℕ) :=
  percentages_never_flatter.2.2.2 twoOfThree twoThirds (by decide) (by decide +kernel)

end Samples

end Fcmr
