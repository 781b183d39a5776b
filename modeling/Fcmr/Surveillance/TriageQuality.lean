import Fcmr.DotNet.Percentages
import Fcmr.Surveillance.ArrivalOrder
import Fcmr.Surveillance.TriageAccount

/-! How good a queue is at a review depth, by an answer key that the ranker does not see. -/
namespace Fcmr.Surveillance

open DotNet TriageRanker

structure TriageQualityReport where
  reviewDepth : Int32
  examined : Int32
  truePositives : Int32
  concerningInBatch : Int32

namespace TriageQualityReport

def precisionPercent (report : TriageQualityReport) : Option Decimal :=
  Decimal.percentage report.truePositives report.examined

def recallPercent (report : TriageQualityReport) : Option Decimal :=
  Decimal.percentage report.truePositives report.concerningInBatch

end TriageQualityReport

namespace TriageQuality

def submitted (batch : TriageBatch) : Finset Text :=
  (batch.ranked.map (·.alert.alertId)).toFinset ∪ (batch.gaps.map (·.alertId)).toFinset

def concerning (batch : TriageBatch) (concerningAlertIds : List Text) : Finset Text :=
  concerningAlertIds.toFinset ∩ submitted batch

def truePositives (batch : TriageBatch) (concerningAlertIds : List Text) (examined : Nat) : Nat :=
  (batch.ranked.take examined).countP fun row =>
    decide (row.alert.alertId ∈ concerning batch concerningAlertIds)

/-- `none` stands for the exception for a negative depth. -/
def measure (batch : TriageBatch) (concerningAlertIds : List Text) (reviewDepth : Int32) :
    Option TriageQualityReport :=
  if reviewDepth < 0 then none
  else
    let examined := min reviewDepth (Int32.ofNat batch.ranked.length)
    some {
      reviewDepth
      examined
      truePositives :=
        Int32.ofNat (truePositives batch concerningAlertIds examined.toNatClampNeg)
      concerningInBatch := Int32.ofNat (concerning batch concerningAlertIds).card }

/-- What the measure of a batch says at every depth. -/
structure Bounded (batch : TriageBatch) (concerningAlertIds : List Text) : Prop where
  measured {depth : Int32} : 0 ≤ depth → (measure batch concerningAlertIds depth).isSome
  positives {depth : Int32} {report : TriageQualityReport} :
    measure batch concerningAlertIds depth = some report →
      report.truePositives ≤ report.examined ∧ report.truePositives ≤ report.concerningInBatch
  precisionBetween {depth : Int32} {report : TriageQualityReport} {percent : Decimal} :
    measure batch concerningAlertIds depth = some report →
      report.precisionPercent = some percent → 0 ≤ percent.value ∧ percent.value ≤ 100
  recallBetween {depth : Int32} {report : TriageQualityReport} {percent : Decimal} :
    measure batch concerningAlertIds depth = some report →
      report.recallPercent = some percent → 0 ≤ percent.value ∧ percent.value ≤ 100
  monotone {depth depth' : Int32} {report report' : TriageQualityReport} : depth ≤ depth' →
    measure batch concerningAlertIds depth = some report →
    measure batch concerningAlertIds depth' = some report' →
      report.truePositives ≤ report'.truePositives ∧
        ∀ percent, report.recallPercent = some percent →
          ∃ percent', report'.recallPercent = some percent' ∧ percent.value ≤ percent'.value

/-- The submissions of concerning alerts among some. -/
def concerningIds (concerningAlertIds : List Text) (alerts : List AlertUnderTriage) : List Text :=
  (alerts.map (·.alertId)).filter concerningAlertIds.contains

/-- How often a list repeats what it has. -/
def repeats (ids : List Text) : Nat := ids.length - ids.toFinset.card

variable {batch : TriageBatch} {alerts : List AlertUnderTriage}
  {assessments : List AlertAssessment} {ids : List Text} {depth : Int32}
  {report : TriageQualityReport}

theorem truePositives_mono (batch : TriageBatch) (ids : List Text) {n n' : Nat} (h : n ≤ n') :
    truePositives batch ids n ≤ truePositives batch ids n' :=
  (List.take_sublist_take_left h).countP_le

theorem truePositives_le (batch : TriageBatch) (ids : List Text) (n : Nat) :
    truePositives batch ids n ≤ min n batch.ranked.length := by
  rw [← List.length_take]
  exact List.countP_le_length

theorem truePositives_min (batch : TriageBatch) (ids : List Text) (n : Nat) :
    truePositives batch ids (min n batch.ranked.length) = truePositives batch ids n := by
  unfold truePositives
  rw [← List.take_eq_take_min]

structure Counted (batch : TriageBatch) (ids : List Text) (depth : Int32)
    (report : TriageQualityReport) : Prop where
  nonneg : 0 ≤ depth.toInt
  examined : report.examined.toInt = min depth.toInt batch.ranked.length
  positives : report.truePositives.toInt = truePositives batch ids depth.toInt.toNat
  concerning : report.concerningInBatch.toInt = (concerning batch ids).card

theorem measure_isSome : (measure batch ids depth).isSome ↔ 0 ≤ depth := by
  unfold measure
  rw [Int32.le_iff_toInt_le]
  split
  · rename_i hneg
    rw [Int32.lt_iff_toInt_lt] at hneg
    simpa using hneg
  · rename_i hnonneg
    rw [Int32.lt_iff_toInt_lt] at hnonneg
    simpa using hnonneg

theorem toInt_min (m n : Int32) : (min m n).toInt = min m.toInt n.toInt := by
  change (if m ≤ n then m else n).toInt = _
  split
  · rename_i hle
    exact (min_eq_left (Int32.le_iff_toInt_le.mp hle)).symm
  · rename_i hlt
    rw [Int32.le_iff_toInt_le] at hlt
    exact (min_eq_right (le_of_not_ge hlt)).symm

theorem measure_counted (hranked : batch.ranked.length < 2 ^ 31)
    (hconcerning : (concerning batch ids).card < 2 ^ 31)
    (h : measure batch ids depth = some report) : Counted batch ids depth report := by
  have hdepth : (0 : Int32) ≤ depth := measure_isSome.mp (by rw [h]; rfl)
  have hnonneg : 0 ≤ depth.toInt := Int32.le_iff_toInt_le.mp hdepth
  have hexamined : (min depth (Int32.ofNat batch.ranked.length)).toInt =
      min depth.toInt batch.ranked.length := by
    rw [toInt_min, Int32.toInt_ofNat_of_lt hranked]
  have hclamped : (min depth (Int32.ofNat batch.ranked.length)).toNatClampNeg =
      min depth.toInt.toNat batch.ranked.length := by
    rw [Int32.toNatClampNeg, hexamined]
    omega
  have hle := truePositives_le batch ids depth.toInt.toNat
  unfold measure at h
  rw [if_neg (by rwa [Int32.not_lt])] at h
  cases h
  refine ⟨hnonneg, hexamined, ?_, Int32.toInt_ofNat_of_lt hconcerning⟩
  dsimp only
  rw [hclamped, truePositives_min]
  exact Int32.toInt_ofNat_of_lt (by omega)

theorem le_examined (h : Counted batch ids depth report) :
    report.truePositives ≤ report.examined := by
  have hle := truePositives_le batch ids depth.toInt.toNat
  have hnonneg := h.nonneg
  rw [Int32.le_iff_toInt_le, h.positives, h.examined]
  omega

theorem le_all (h : Counted batch ids depth report) :
    report.truePositives.toInt ≤ truePositives batch ids batch.ranked.length := by
  rw [h.positives, ← truePositives_min]
  exact_mod_cast truePositives_mono batch ids (Nat.min_le_right _ _)

theorem precision_between (h : Counted batch ids depth report) {percent : Decimal}
    (hpercent : report.precisionPercent = some percent) :
    0 ≤ percent.value ∧ percent.value ≤ 100 := by
  have hle := Int32.le_iff_toInt_le.mp (le_examined h)
  have hpositives := h.positives
  obtain ⟨hpos, hvalue⟩ := Decimal.percentage_value (by omega) (by omega) hpercent
  rw [hvalue]
  exact ⟨Decimal.shareValue_nonneg hpos (by omega), Decimal.shareValue_le hpos (by omega)⟩

theorem recall_between (h : Counted batch ids depth report)
    (hle : report.truePositives ≤ report.concerningInBatch) {percent : Decimal}
    (hpercent : report.recallPercent = some percent) : 0 ≤ percent.value ∧ percent.value ≤ 100 := by
  have hpositives := h.positives
  have hconcerning := h.concerning
  rw [Int32.le_iff_toInt_le] at hle
  obtain ⟨hpos, hvalue⟩ := Decimal.percentage_value (by omega) (by omega) hpercent
  rw [hvalue]
  exact ⟨Decimal.shareValue_nonneg hpos (by omega), Decimal.shareValue_le hpos hle⟩

theorem counted_mono {depth' : Int32} {report' : TriageQualityReport} (hdepth : depth ≤ depth')
    (h : Counted batch ids depth report) (h' : Counted batch ids depth' report') :
    report.truePositives ≤ report'.truePositives ∧
      ∀ percent, report.recallPercent = some percent →
        ∃ percent', report'.recallPercent = some percent' ∧ percent.value ≤ percent'.value := by
  have hpositives := h.positives
  have hpositives' := h'.positives
  have hconcerning := h.concerning
  have hsame : report'.concerningInBatch.toInt = report.concerningInBatch.toInt :=
    h'.concerning.trans hconcerning.symm
  have hle : report.truePositives.toInt ≤ report'.truePositives.toInt := by
    rw [Int32.le_iff_toInt_le] at hdepth
    rw [hpositives, hpositives']
    exact_mod_cast truePositives_mono batch ids (Int.toNat_le_toNat hdepth)
  refine ⟨Int32.le_iff_toInt_le.mpr hle, fun percent hpercent => ?_⟩
  obtain ⟨hpos, hvalue⟩ := Decimal.percentage_value (by omega) (by omega) hpercent
  have hspec : ∃ percent', report'.recallPercent = some percent' ∧ percent'.value =
      Decimal.shareValue report'.truePositives.toInt report'.concerningInBatch.toInt :=
    Decimal.percentage_spec (by omega) (by omega)
  obtain ⟨percent', hpercent', hvalue'⟩ := hspec
  refine ⟨percent', hpercent', ?_⟩
  rw [hvalue, hvalue', hsame]
  exact Decimal.shareValue_mono hpos hle

theorem gapsOf_alertId {alert : AlertUnderTriage} {gap : TriageGap}
    (h : gap ∈ gapsOf assessments alert) : gap.alertId = alert.alertId := by
  unfold gapsOf at h
  split at h
  · rw [List.mem_singleton.mp h]
  · rcases List.mem_append.mp h with h | h
    · split at h
      · cases h
      · rw [List.mem_singleton.mp h]
    · split at h
      · cases h
      · rw [List.mem_singleton.mp h]

/-- The alerts that have an assessment. -/
abbrev scoredAlerts (alerts : List AlertUnderTriage) (assessments : List AlertAssessment) :
    List AlertUnderTriage := alerts.filter (!unscored assessments ·)

abbrev missedAlerts (alerts : List AlertUnderTriage) (assessments : List AlertAssessment) :
    List AlertUnderTriage := alerts.filter (unscored assessments)

theorem rankedIds_perm (alerts : List AlertUnderTriage) (assessments : List AlertAssessment) :
    ((rank alerts assessments).ranked.map (·.alert.alertId)).Perm
      ((scoredAlerts alerts assessments).map (·.alertId)) := by
  have hperm := ((ranked_perm alerts assessments).map Prod.fst).map (·.alertId)
  rwa [scored_alerts, List.map_map, List.map_map] at hperm

theorem submitted_rank (alerts : List AlertUnderTriage) (assessments : List AlertAssessment) :
    submitted (rank alerts assessments) = (alerts.map (·.alertId)).toFinset := by
  ext id
  unfold submitted
  rw [Finset.mem_union, List.mem_toFinset, List.mem_toFinset, List.mem_toFinset,
    (rankedIds_perm alerts assessments).mem_iff]
  constructor
  · rintro (h | h)
    · exact List.map_subset _ (List.filter_subset_self alerts) h
    · obtain ⟨gap, hgap, rfl⟩ := List.mem_map.mp h
      rw [rank_eq, (StableSort.sortBy_perm _).mem_iff] at hgap
      obtain ⟨alert, halert, hgap⟩ := List.mem_flatMap.mp hgap
      exact gapsOf_alertId hgap ▸ List.mem_map_of_mem halert
  · intro h
    obtain ⟨alert, halert, rfl⟩ := List.mem_map.mp h
    cases hunscored : unscored assessments alert with
    | false =>
      exact .inl (List.mem_map_of_mem (List.mem_filter.mpr ⟨halert, by simp [hunscored]⟩))
    | true =>
      refine .inr (List.mem_map.mpr ⟨⟨alert.alertId, .notScored⟩, ?_, rfl⟩)
      rw [rank_eq, (StableSort.sortBy_perm _).mem_iff]
      apply List.mem_flatMap_of_mem halert
      rw [gapsOf_unscored (lastFor_eq_none.mpr hunscored)]
      exact List.mem_singleton_self _

theorem mem_concerningIds {id : Text} :
    id ∈ concerningIds ids alerts ↔ id ∈ ids ∧ ∃ alert ∈ alerts, alert.alertId = id := by
  unfold concerningIds
  rw [List.mem_filter, List.contains_iff_mem, List.mem_map, and_comm]

theorem concerning_disjoint (alerts : List AlertUnderTriage) (assessments : List AlertAssessment)
    (ids : List Text) : Disjoint (concerningIds ids (scoredAlerts alerts assessments)).toFinset
      (concerningIds ids (missedAlerts alerts assessments)).toFinset := by
  rw [List.disjoint_toFinset_iff_disjoint]
  intro id hscored hmissed
  obtain ⟨_, alert, halert, rfl⟩ := mem_concerningIds.mp hscored
  obtain ⟨_, alert', halert', hid⟩ := mem_concerningIds.mp hmissed
  have hscored : (!unscored assessments alert) = true := (List.mem_filter.mp halert).2
  have hmissed : unscored assessments alert' = true := (List.mem_filter.mp halert').2
  unfold unscored at hscored hmissed
  rw [hid] at hmissed
  rw [hmissed] at hscored
  cases hscored

theorem card_concerning (alerts : List AlertUnderTriage) (assessments : List AlertAssessment)
    (ids : List Text) : (concerning (rank alerts assessments) ids).card =
      (concerningIds ids (scoredAlerts alerts assessments)).toFinset.card +
        (concerningIds ids (missedAlerts alerts assessments)).toFinset.card := by
  rw [← Finset.card_union_of_disjoint (concerning_disjoint alerts assessments ids)]
  congr 1
  ext id
  have hsplit (alert : AlertUnderTriage) : alert ∈ alerts ↔
      alert ∈ scoredAlerts alerts assessments ∨ alert ∈ missedAlerts alerts assessments := by
    rw [List.mem_filter, List.mem_filter]
    cases unscored assessments alert <;> simp
  unfold concerning
  rw [Finset.mem_inter, submitted_rank, List.mem_toFinset, List.mem_toFinset, List.mem_map,
    Finset.mem_union, List.mem_toFinset, List.mem_toFinset, mem_concerningIds, mem_concerningIds,
    ← and_or_left, ← exists_or]
  simp only [hsplit, or_and_right]

theorem truePositives_all (alerts : List AlertUnderTriage) (assessments : List AlertAssessment)
    (ids : List Text) :
    truePositives (rank alerts assessments) ids (rank alerts assessments).ranked.length =
      (concerningIds ids (scoredAlerts alerts assessments)).length := by
  have hmap : (rank alerts assessments).ranked.countP (fun row =>
        decide (row.alert.alertId ∈ concerning (rank alerts assessments) ids)) =
      ((rank alerts assessments).ranked.map (·.alert.alertId)).countP
        (fun id => decide (id ∈ concerning (rank alerts assessments) ids)) := by
    rw [List.countP_map]
    rfl
  unfold truePositives concerningIds
  rw [List.take_length, hmap, (rankedIds_perm alerts assessments).countP_eq,
    ← List.countP_eq_length_filter]
  apply List.countP_congr
  intro id hid
  have hsubmitted : id ∈ (alerts.map (·.alertId)).toFinset :=
    List.mem_toFinset.mpr (List.map_subset _ (List.filter_subset_self alerts) hid)
  unfold concerning
  rw [decide_eq_true_iff, Finset.mem_inter, List.mem_toFinset, submitted_rank,
    and_iff_left hsubmitted, List.contains_iff_mem]

theorem rank_counted (hlength : alerts.length < 2 ^ 31)
    (h : measure (rank alerts assessments) ids depth = some report) :
    Counted (rank alerts assessments) ids depth report := by
  apply measure_counted _ _ h
  · rw [ranked_length]
    exact (List.length_filterMap_le ..).trans_lt hlength
  · have hcard : (concerning (rank alerts assessments) ids).card ≤
        (submitted (rank alerts assessments)).card := Finset.card_le_card Finset.inter_subset_right
    rw [submitted_rank] at hcard
    have hle := List.toFinset_card_le (alerts.map (·.alertId))
    rw [List.length_map] at hle
    omega

theorem rank_bounded (hlength : alerts.length < 2 ^ 31)
    (h : repeats (concerningIds ids (scoredAlerts alerts assessments)) ≤
      (concerningIds ids (missedAlerts alerts assessments)).toFinset.card) :
    Bounded (rank alerts assessments) ids := by
  have hcard := card_concerning alerts assessments ids
  have hall := truePositives_all alerts assessments ids
  unfold repeats at h
  have hpositives {depth : Int32} {report : TriageQualityReport}
      (hreport : measure (rank alerts assessments) ids depth = some report) :
      report.truePositives ≤ report.concerningInBatch := by
    have hcounted := rank_counted hlength hreport
    have hle := le_all hcounted
    rw [Int32.le_iff_toInt_le, hcounted.concerning, hcard]
    omega
  exact {
    measured := measure_isSome.mpr
    positives := fun hreport => ⟨le_examined (rank_counted hlength hreport), hpositives hreport⟩
    precisionBetween := fun hreport => precision_between (rank_counted hlength hreport)
    recallBetween := fun hreport => recall_between (rank_counted hlength hreport) (hpositives hreport)
    monotone := fun hdepth hreport hreport' =>
      counted_mono hdepth (rank_counted hlength hreport) (rank_counted hlength hreport') }

theorem repeats_of_nodup {ids : List Text} (h : ids.Nodup) : repeats ids = 0 := by
  unfold repeats
  rw [List.toFinset_card_of_nodup h, Nat.sub_self]

theorem bounded_of_nodup (hlength : alerts.length < 2 ^ 31) (h : (alerts.map (·.alertId)).Nodup) :
    Bounded (rank alerts assessments) ids := by
  have hscored : (concerningIds ids (scoredAlerts alerts assessments)).Nodup :=
    (h.sublist (List.filter_sublist.map _)).filter _
  apply rank_bounded hlength
  rw [repeats_of_nodup hscored]
  exact Nat.zero_le _

/-- The counts stay within bounds just when concerning alerts that were scored are not repeated
more often than there are others that were not scored. -/
theorem bounded_iff (alerts : List AlertUnderTriage) (assessments : List AlertAssessment)
    (ids : List Text) (hlength : alerts.length < 2 ^ 31) :
    Bounded (rank alerts assessments) ids ↔
      repeats (concerningIds ids (scoredAlerts alerts assessments)) ≤
        (concerningIds ids (missedAlerts alerts assessments)).toFinset.card := by
  refine ⟨fun h => ?_, rank_bounded hlength⟩
  have hcard := card_concerning alerts assessments ids
  have hall := truePositives_all alerts assessments ids
  have hranked : (rank alerts assessments).ranked.length < 2 ^ 31 := by
    rw [ranked_length]
    exact (List.length_filterMap_le ..).trans_lt hlength
  have hdepth := Int32.toInt_ofNat_of_lt hranked
  have hnonneg : 0 ≤ Int32.ofNat (rank alerts assessments).ranked.length := by
    rw [Int32.le_iff_toInt_le, hdepth]
    exact Int.natCast_nonneg _
  obtain ⟨report, hreport⟩ := Option.isSome_iff_exists.mp (h.measured hnonneg)
  have hcounted := rank_counted hlength hreport
  -- At a depth that takes in all of the queue, nothing that is repeated is left out.
  have hle := Int32.le_iff_toInt_le.mp (h.positives hreport).2
  rw [hcounted.positives, hcounted.concerning, hdepth, Int.toNat_natCast, hall, hcard] at hle
  unfold repeats
  omega

end TriageQuality

namespace Samples

open TriageQuality

def mixed : List AlertUnderTriage :=
  [acme, initech, triageAlert (lit "A-2") (lit "ACME"), triageAlert (lit "A-3") (lit "ACME")]

theorem mixed_bounded :
    Bounded (rank mixed [retry, scoredZero (lit "A-3") (lit "Quiet.")]) [lit "A-1", lit "A-2"] :=
  (bounded_iff mixed [retry, scoredZero (lit "A-3") (lit "Quiet.")] [lit "A-1", lit "A-2"]
    (by decide)).mpr (by decide +kernel)

theorem acme_recalled :
    (measure (rank [acme, initech] [retry]) [lit "A-1"] 2).map (fun report =>
        (report.truePositives, report.concerningInBatch, report.recallPercent.map (·.toText))) =
      some (2, 1, some (lit "200")) := by
  decide +kernel

theorem repeats_unbounded : ¬Bounded (rank [acme, initech] [retry]) [lit "A-1"] := by
  intro h
  obtain ⟨report, hreport, hcounts⟩ := Option.map_eq_some_iff.mp acme_recalled
  obtain ⟨hpositives, hothers⟩ := Prod.mk.inj hcounts
  have hle := (h.positives hreport).2
  rw [hpositives, (Prod.mk.inj hothers).1] at hle
  exact absurd hle (by decide)

end Samples

end Fcmr.Surveillance
