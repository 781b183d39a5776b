import Fcmr.Library.StableSort
import Fcmr.Surveillance.Alerts
import Mathlib.Data.List.AList
import Mathlib.Data.Prod.Lex
import Mathlib.Order.OrderDual

/-! The queue that is built from the scores of a model, with an account of what is
missing from it. -/
namespace Fcmr.Surveillance

open DotNet

inductive TriageDeficiency
  | notScored
  | missingRationale
  | missingEvidence
  deriving DecidableEq

def TriageDeficiency.value : TriageDeficiency → Nat
  | notScored => 0
  | missingRationale => 1
  | missingEvidence => 2

structure TriageGap where
  alertId : Text
  deficiency : TriageDeficiency

def TriageGap.explanation (gap : TriageGap) : Text :=
  match gap.deficiency with
  | .notScored =>
    lit "Alert " ++ gap.alertId ++
      lit " was not scored; it has no risk rank, rationale, or evidence."
  | .missingRationale =>
    lit "Alert " ++ gap.alertId ++
      lit " was scored but no rationale was returned; the rank is unexplained."
  | .missingEvidence =>
    lit "Alert " ++ gap.alertId ++
      lit " was scored but cites no evidence; the rationale cannot be checked."

def AlertAssessment.explained (assessment : AlertAssessment) : Bool :=
  !isNullOrWhiteSpace (some assessment.rationale)

def AlertAssessment.evidenced (assessment : AlertAssessment) : Bool :=
  !assessment.evidence.isEmpty

def RankedAlert.isComplete (row : RankedAlert) : Bool :=
  row.assessment.explained && row.assessment.evidenced

structure TriageBatch where
  ranked : List RankedAlert
  gaps : List TriageGap
  submittedCount : Nat

def TriageBatch.isComplete (batch : TriageBatch) : Bool :=
  batch.gaps.isEmpty && batch.ranked.length == batch.submittedCount

namespace TriageRanker

abbrev AssessmentMap := AList fun _ : Text => AlertAssessment

/-- Last write wins. -/
def byAlertId (assessments : List AlertAssessment) : AssessmentMap :=
  assessments.foldl (fun map assessment => map.insert assessment.alertId assessment) ∅

abbrev ScoredAlert := AlertUnderTriage × AlertAssessment

structure Progress where
  gaps : List TriageGap := []
  scored : List ScoredAlert := []

def triage (byAlertId : AssessmentMap) (progress : Progress) (alert : AlertUnderTriage) :
    Progress :=
  match byAlertId.lookup alert.alertId with
  | none => { progress with gaps := progress.gaps ++ [⟨alert.alertId, .notScored⟩] }
  | some assessment =>
    let gaps :=
      if assessment.explained then progress.gaps
      else progress.gaps ++ [⟨alert.alertId, .missingRationale⟩]
    { scored := progress.scored ++ [(alert, assessment)]
      gaps :=
        if assessment.evidenced then gaps else gaps ++ [⟨alert.alertId, .missingEvidence⟩] }

def queueKey (scored : ScoredAlert) : ℚᵒᵈ ×ₗ Text :=
  toLex (OrderDual.toDual scored.2.riskScore.value, scored.1.alertId)

def gapKey (gap : TriageGap) : Text ×ₗ Nat := toLex (gap.alertId, gap.deficiency.value)

def row (scored : ScoredAlert × Nat) : RankedAlert where
  rank := Int32.ofNat (scored.2 + 1)
  alert := scored.1.1
  assessment := scored.1.2

def rank (alerts : List AlertUnderTriage) (assessments : List AlertAssessment) : TriageBatch :=
  let progress := alerts.foldl (triage (byAlertId assessments)) {}
  { ranked := (StableSort.sortBy queueKey progress.scored).zipIdx.map row
    gaps := StableSort.sortBy gapKey progress.gaps
    submittedCount := alerts.length }

/-- The assessment that supersedes the others for its alert. -/
def lastFor (assessments : List AlertAssessment) (alertId : Text) : Option AlertAssessment :=
  (assessments.filter (·.alertId = alertId)).getLast?

theorem byAlertId_append (assessments : List AlertAssessment) (assessment : AlertAssessment) :
    byAlertId (assessments ++ [assessment]) =
      (byAlertId assessments).insert assessment.alertId assessment := by
  unfold byAlertId
  rw [List.foldl_append]
  rfl

@[simp] theorem lookup_byAlertId (assessments : List AlertAssessment) (alertId : Text) :
    (byAlertId assessments).lookup alertId = lastFor assessments alertId := by
  induction assessments using List.reverseRecOn with
  | nil => rfl
  | append_singleton assessments assessment ih =>
    rw [byAlertId_append]
    unfold lastFor
    rw [List.filter_append]
    by_cases hid : assessment.alertId = alertId
    · subst hid
      rw [AList.lookup_insert, List.filter_cons_of_pos (by simp), List.filter_nil,
        List.getLast?_concat]
    · rw [AList.lookup_insert_ne (Ne.symm hid), ih, List.filter_cons_of_neg (by simpa using hid),
        List.filter_nil, List.append_nil]
      rfl

def gapsOf (assessments : List AlertAssessment) (alert : AlertUnderTriage) : List TriageGap :=
  match lastFor assessments alert.alertId with
  | none => [⟨alert.alertId, .notScored⟩]
  | some assessment =>
    (if assessment.explained then [] else [⟨alert.alertId, .missingRationale⟩]) ++
      if assessment.evidenced then [] else [⟨alert.alertId, .missingEvidence⟩]

def scoredOf (assessments : List AlertAssessment) (alert : AlertUnderTriage) :
    Option ScoredAlert :=
  (lastFor assessments alert.alertId).map fun assessment => (alert, assessment)

theorem triage_eq (assessments : List AlertAssessment) (progress : Progress)
    (alert : AlertUnderTriage) :
    triage (byAlertId assessments) progress alert = {
      gaps := progress.gaps ++ gapsOf assessments alert
      scored := progress.scored ++ (scoredOf assessments alert).toList } := by
  unfold triage gapsOf scoredOf
  rw [lookup_byAlertId]
  cases lastFor assessments alert.alertId with
  | none => simp
  | some assessment =>
    by_cases hexplained : assessment.explained = true <;>
      by_cases hevidenced : assessment.evidenced = true <;>
      simp [hexplained, hevidenced]

theorem foldl_triage (assessments : List AlertAssessment) (progress : Progress)
    (alerts : List AlertUnderTriage) :
    alerts.foldl (triage (byAlertId assessments)) progress = {
      gaps := progress.gaps ++ alerts.flatMap (gapsOf assessments)
      scored := progress.scored ++ alerts.filterMap (scoredOf assessments) } := by
  induction alerts generalizing progress with
  | nil => simp
  | cons alert alerts ih =>
    rw [List.foldl_cons, triage_eq, ih, List.flatMap_cons, List.append_assoc, List.append_assoc,
      List.filterMap_cons]
    cases scoredOf assessments alert <;> rfl

def scored (alerts : List AlertUnderTriage) (assessments : List AlertAssessment) :
    List ScoredAlert :=
  alerts.filterMap (scoredOf assessments)

theorem rank_eq (alerts : List AlertUnderTriage) (assessments : List AlertAssessment) :
    rank alerts assessments = {
      ranked := (StableSort.sortBy queueKey (scored alerts assessments)).zipIdx.map row
      gaps := StableSort.sortBy gapKey (alerts.flatMap (gapsOf assessments))
      submittedCount := alerts.length } := by
  unfold rank scored
  rw [foldl_triage]
  rfl

theorem ranked_rows (alerts : List AlertUnderTriage) (assessments : List AlertAssessment) :
    (rank alerts assessments).ranked.map (fun row => (row.alert, row.assessment)) =
      StableSort.sortBy queueKey (scored alerts assessments) := by
  rw [rank_eq, List.map_map]
  exact List.zipIdx_map_fst ..

end TriageRanker

end Fcmr.Surveillance
