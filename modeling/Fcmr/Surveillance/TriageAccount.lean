import Fcmr.Surveillance.TriageRanker

/-! Every submitted alert is accounted for once: by a row of the queue or by the gap that
says it was not scored. -/
namespace Fcmr.Surveillance

open DotNet TriageRanker

def TriageBatch.gapIds (batch : TriageBatch) (deficiency : TriageDeficiency) : List Text :=
  (batch.gaps.filter (·.deficiency = deficiency)).map (·.alertId)

def unscored (assessments : List AlertAssessment) (alert : AlertUnderTriage) : Bool :=
  assessments.all (·.alertId ≠ alert.alertId)

def Precedes (row row' : RankedAlert) : Prop :=
  row'.assessment.riskScore.value < row.assessment.riskScore.value ∨
    row.assessment.riskScore.value = row'.assessment.riskScore.value ∧
      row.alert.alertId ≤ row'.alert.alertId

/-- What a batch says of the alerts and the assessments it was made from. -/
structure Accounted (alerts : List AlertUnderTriage) (assessments : List AlertAssessment)
    (batch : TriageBatch) : Prop where
  -- A list of the source is counted by an `int`.
  ranks : alerts.length < 2 ^ 31 → batch.ranked.map (·.rank.toInt) =
    (List.range batch.ranked.length).map fun index : Nat => (index : Int) + 1
  ordered : batch.ranked.Pairwise Precedes
  conserved : alerts.Perm (batch.ranked.map (·.alert) ++ alerts.filter (unscored assessments))
  notScored : (batch.gapIds .notScored).Perm
    ((alerts.filter (unscored assessments)).map (·.alertId))
  last : ∀ row ∈ batch.ranked, lastFor assessments row.alert.alertId = some row.assessment
  rationales : (batch.gapIds .missingRationale).Perm
    ((batch.ranked.filter (!·.assessment.explained)).map (·.alert.alertId))
  evidence : (batch.gapIds .missingEvidence).Perm
    ((batch.ranked.filter (!·.assessment.evidenced)).map (·.alert.alertId))
  complete : batch.isComplete = true ↔ ∀ alert ∈ alerts, ∃ assessment,
    lastFor assessments alert.alertId = some assessment ∧
      assessment.explained = true ∧ assessment.evidenced = true

namespace TriageRanker

theorem lastFor_eq_none {assessments : List AlertAssessment} {alert : AlertUnderTriage} :
    lastFor assessments alert.alertId = none ↔ unscored assessments alert = true := by
  unfold lastFor unscored
  rw [List.getLast?_eq_none_iff, List.filter_eq_nil_iff]
  simp

theorem unscored_eq_false {assessments : List AlertAssessment} {alert : AlertUnderTriage}
    {assessment : AlertAssessment} (h : lastFor assessments alert.alertId = some assessment) :
    unscored assessments alert = false := by
  rw [Bool.eq_false_iff, ne_eq, ← lastFor_eq_none, h]
  exact Option.some_ne_none assessment

theorem mem_scored {alerts : List AlertUnderTriage} {assessments : List AlertAssessment}
    {scored : ScoredAlert} (h : scored ∈ TriageRanker.scored alerts assessments) :
    lastFor assessments scored.1.alertId = some scored.2 := by
  obtain ⟨alert, _, halert⟩ := List.mem_filterMap.mp h
  obtain ⟨assessment, hassessment, rfl⟩ := Option.map_eq_some_iff.mp halert
  exact hassessment

theorem scored_alerts (alerts : List AlertUnderTriage) (assessments : List AlertAssessment) :
    (scored alerts assessments).map Prod.fst = alerts.filter (!unscored assessments ·) := by
  unfold scored
  induction alerts with
  | nil => rfl
  | cons alert alerts ih =>
    rw [List.filterMap_cons, List.filter_cons]
    cases hlast : lastFor assessments alert.alertId with
    | none =>
      rw [lastFor_eq_none.mp hlast]
      simpa [scoredOf, hlast] using ih
    | some assessment => simpa [scoredOf, hlast, unscored_eq_false hlast] using ih

def lacks (deficiency : TriageDeficiency) (assessment : AlertAssessment) : Bool :=
  match deficiency with
  | .notScored => false
  | .missingRationale => !assessment.explained
  | .missingEvidence => !assessment.evidenced

theorem gapsOf_scored {assessments : List AlertAssessment} {alert : AlertUnderTriage}
    {assessment : AlertAssessment} (h : lastFor assessments alert.alertId = some assessment)
    (deficiency : TriageDeficiency) :
    ((gapsOf assessments alert).filter (·.deficiency = deficiency)).map (·.alertId) =
      if lacks deficiency assessment then [alert.alertId] else [] := by
  unfold gapsOf
  rw [h]
  by_cases hexplained : assessment.explained = true <;>
    by_cases hevidenced : assessment.evidenced = true <;>
    cases deficiency <;> simp [lacks, hexplained, hevidenced]

theorem gapsOf_unscored {assessments : List AlertAssessment} {alert : AlertUnderTriage}
    (h : lastFor assessments alert.alertId = none) :
    gapsOf assessments alert = [⟨alert.alertId, .notScored⟩] := by
  unfold gapsOf
  rw [h]

theorem gapIds_perm (alerts : List AlertUnderTriage) (assessments : List AlertAssessment)
    (deficiency : TriageDeficiency) :
    ((rank alerts assessments).gapIds deficiency).Perm (alerts.flatMap fun alert =>
      ((gapsOf assessments alert).filter (·.deficiency = deficiency)).map (·.alertId)) := by
  rw [← List.map_flatMap, ← List.filter_flatMap]
  unfold TriageBatch.gapIds
  rw [rank_eq]
  exact ((StableSort.sortBy_perm _).filter _).map _

theorem notScored_gaps (alerts : List AlertUnderTriage) (assessments : List AlertAssessment) :
    (alerts.flatMap fun alert =>
      ((gapsOf assessments alert).filter (·.deficiency = .notScored)).map (·.alertId)) =
      (alerts.filter (unscored assessments)).map (·.alertId) := by
  induction alerts with
  | nil => rfl
  | cons alert alerts ih =>
    rw [List.flatMap_cons, ih, List.filter_cons]
    cases hlast : lastFor assessments alert.alertId with
    | none =>
      rw [gapsOf_unscored hlast, lastFor_eq_none.mp hlast]
      simp
    | some assessment =>
      rw [gapsOf_scored hlast, unscored_eq_false hlast]
      simp [lacks]

theorem missing_gaps (alerts : List AlertUnderTriage) (assessments : List AlertAssessment)
    (deficiency : TriageDeficiency) (h : deficiency ≠ .notScored) :
    (alerts.flatMap fun alert =>
      ((gapsOf assessments alert).filter (·.deficiency = deficiency)).map (·.alertId)) =
      ((scored alerts assessments).filter (lacks deficiency ·.2)).map (·.1.alertId) := by
  unfold scored
  induction alerts with
  | nil => rfl
  | cons alert alerts ih =>
    rw [List.flatMap_cons, ih, List.filterMap_cons]
    cases hlast : lastFor assessments alert.alertId with
    | none =>
      rw [gapsOf_unscored hlast]
      simp [scoredOf, hlast, Ne.symm h]
    | some assessment =>
      rw [gapsOf_scored hlast]
      cases hlacks : lacks deficiency assessment <;> simp [scoredOf, hlast, hlacks]

theorem ranked_perm (alerts : List AlertUnderTriage) (assessments : List AlertAssessment) :
    ((rank alerts assessments).ranked.map fun row => (row.alert, row.assessment)).Perm
      (scored alerts assessments) := by
  rw [ranked_rows]
  exact StableSort.sortBy_perm _

theorem ranked_length (alerts : List AlertUnderTriage) (assessments : List AlertAssessment) :
    (rank alerts assessments).ranked.length = (scored alerts assessments).length := by
  rw [← (ranked_perm alerts assessments).length_eq, List.length_map]

theorem ranked_lacking (alerts : List AlertUnderTriage) (assessments : List AlertAssessment)
    (deficiency : TriageDeficiency) :
    ((scored alerts assessments).filter (lacks deficiency ·.2)).map (·.1.alertId) |>.Perm
      (((rank alerts assessments).ranked.filter (lacks deficiency ·.assessment)).map
        (·.alert.alertId)) := by
  have hfilter :=
    ((ranked_perm alerts assessments).symm.filter (lacks deficiency ·.2)).map (·.1.alertId)
  rwa [List.filter_map, List.map_map] at hfilter

theorem missing_perm (alerts : List AlertUnderTriage) (assessments : List AlertAssessment)
    (deficiency : TriageDeficiency) (h : deficiency ≠ .notScored) :
    ((rank alerts assessments).gapIds deficiency).Perm
      (((rank alerts assessments).ranked.filter (lacks deficiency ·.assessment)).map
        (·.alert.alertId)) := by
  have hgaps := gapIds_perm alerts assessments deficiency
  rw [missing_gaps alerts assessments deficiency h] at hgaps
  exact hgaps.trans (ranked_lacking alerts assessments deficiency)

theorem rank_ranks (alerts : List AlertUnderTriage) (assessments : List AlertAssessment)
    (h : alerts.length < 2 ^ 31) :
    (rank alerts assessments).ranked.map (·.rank.toInt) =
      (List.range (rank alerts assessments).ranked.length).map fun index : Nat => (index : Int) + 1 := by
  have hlength : (rank alerts assessments).ranked.length ≤ alerts.length := by
    rw [ranked_length]
    exact List.length_filterMap_le ..
  apply List.ext_getElem
  · simp
  intro index hindex hindex'
  rw [List.length_map] at hindex
  rw [List.getElem_map, List.getElem_map, List.getElem_range]
  simp only [rank_eq, List.getElem_map, row, List.getElem_zipIdx]
  rw [Int32.toInt_ofNat_of_lt (by omega)]
  omega

theorem rank_ordered (alerts : List AlertUnderTriage) (assessments : List AlertAssessment) :
    (rank alerts assessments).ranked.Pairwise Precedes := by
  have hsorted : (StableSort.sortBy queueKey (scored alerts assessments)).Pairwise
      fun s s' => queueKey s ≤ queueKey s' := StableSort.sortBy_pairwise _
  rw [← ranked_rows, List.pairwise_map] at hsorted
  apply hsorted.imp
  intro row row' hle
  exact Prod.Lex.le_iff.mp hle

theorem rank_conserved (alerts : List AlertUnderTriage) (assessments : List AlertAssessment) :
    alerts.Perm
      ((rank alerts assessments).ranked.map (·.alert) ++ alerts.filter (unscored assessments)) := by
  have hperm := (ranked_perm alerts assessments).map Prod.fst
  rw [List.map_map, scored_alerts] at hperm
  have hsplit := List.filter_append_perm (unscored assessments) alerts
  exact hsplit.symm.trans (List.perm_append_comm.trans (hperm.symm.append_right _))

theorem rank_last (alerts : List AlertUnderTriage) (assessments : List AlertAssessment) :
    ∀ row ∈ (rank alerts assessments).ranked,
      lastFor assessments row.alert.alertId = some row.assessment := by
  intro row hrow
  have hmem := List.mem_map_of_mem (f := fun row : RankedAlert => (row.alert, row.assessment)) hrow
  exact mem_scored ((ranked_perm alerts assessments).mem_iff.mp hmem)

theorem gapsOf_eq_nil {assessments : List AlertAssessment} {alert : AlertUnderTriage} :
    gapsOf assessments alert = [] ↔ ∃ assessment,
      lastFor assessments alert.alertId = some assessment ∧
        assessment.explained = true ∧ assessment.evidenced = true := by
  unfold gapsOf
  cases lastFor assessments alert.alertId <;> simp

theorem rank_complete (alerts : List AlertUnderTriage) (assessments : List AlertAssessment) :
    (rank alerts assessments).isComplete = true ↔ ∀ alert ∈ alerts, ∃ assessment,
      lastFor assessments alert.alertId = some assessment ∧
        assessment.explained = true ∧ assessment.evidenced = true := by
  have hgaps : (rank alerts assessments).gaps = [] ↔
      ∀ alert ∈ alerts, gapsOf assessments alert = [] := by
    rw [rank_eq, ← List.flatMap_eq_nil_iff]
    exact ⟨fun h => List.Perm.nil_eq (h ▸ StableSort.sortBy_perm _) |>.symm, fun h => by rw [h]; rfl⟩
  unfold TriageBatch.isComplete
  rw [Bool.and_eq_true, List.isEmpty_iff, hgaps, beq_iff_eq]
  simp only [gapsOf_eq_nil]
  constructor
  · exact fun h => h.1
  intro h
  refine ⟨h, ?_⟩
  -- An alert without gaps is ranked, so the counts agree.
  rw [ranked_length]
  apply List.filterMap_length_eq_length.mpr
  intro alert halert
  obtain ⟨assessment, hlast, _⟩ := h alert halert
  simp [scoredOf, hlast]

/-- No alert is lost and none is invented. -/
theorem rank_accounted (alerts : List AlertUnderTriage) (assessments : List AlertAssessment) :
    Accounted alerts assessments (rank alerts assessments) where
  ranks := rank_ranks alerts assessments
  ordered := rank_ordered alerts assessments
  conserved := rank_conserved alerts assessments
  notScored := by
    rw [← notScored_gaps]
    exact gapIds_perm alerts assessments .notScored
  last := rank_last alerts assessments
  rationales := missing_perm alerts assessments .missingRationale (by decide)
  evidence := missing_perm alerts assessments .missingEvidence (by decide)
  complete := rank_complete alerts assessments

end TriageRanker

end Fcmr.Surveillance
