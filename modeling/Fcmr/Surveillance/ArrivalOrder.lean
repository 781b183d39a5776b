import Fcmr.Surveillance.TriageRanker

/-! The queue and the order in which alerts and assessments arrive. -/
namespace Fcmr.Surveillance

open DotNet TriageRanker

namespace TriageRanker

/-- The same assessments supersede the others. -/
def SameLast (assessments assessments' : List AlertAssessment) : Prop :=
  ∀ alertId, lastFor assessments alertId = lastFor assessments' alertId

theorem scoredOf_congr {assessments assessments' : List AlertAssessment}
    (h : SameLast assessments assessments') : scoredOf assessments = scoredOf assessments' := by
  funext alert
  unfold scoredOf
  rw [h]

theorem gapsOf_congr {assessments assessments' : List AlertAssessment}
    (h : SameLast assessments assessments') : gapsOf assessments = gapsOf assessments' := by
  funext alert
  unfold gapsOf
  rw [h]

theorem rank_congr {alerts : List AlertUnderTriage} {assessments assessments' : List AlertAssessment}
    (h : SameLast assessments assessments') :
    rank alerts assessments = rank alerts assessments' := by
  rw [rank_eq, rank_eq]
  unfold scored
  rw [scoredOf_congr h, gapsOf_congr h]

theorem value_injective : Function.Injective TriageDeficiency.value := by
  intro deficiency deficiency' h
  cases deficiency <;> cases deficiency' <;> first | rfl | exact absurd h (by decide)

theorem gapKey_injective : Function.Injective gapKey := by
  rintro ⟨alertId, deficiency⟩ ⟨alertId', deficiency'⟩ h
  have hpair := Prod.ext_iff.mp (toLex.injective h)
  have hid : alertId = alertId' := hpair.1
  have hdeficiency : deficiency = deficiency' := value_injective hpair.2
  rw [hid, hdeficiency]

theorem ties {alerts : List AlertUnderTriage} {assessments : List AlertAssessment}
    (same : ∀ alert ∈ alerts, ∀ alert' ∈ alerts, alert.alertId = alert'.alertId →
      (lastFor assessments alert.alertId).isSome → alert = alert') :
    ∀ s ∈ scored alerts assessments, ∀ s' ∈ scored alerts assessments,
      queueKey s = queueKey s' → s = s' := by
  intro s hs s' hs' hkey
  obtain ⟨alert, halert, hscored⟩ := List.mem_filterMap.mp hs
  obtain ⟨assessment, hlast, rfl⟩ := Option.map_eq_some_iff.mp hscored
  obtain ⟨alert', halert', hscored'⟩ := List.mem_filterMap.mp hs'
  obtain ⟨assessment', hlast', rfl⟩ := Option.map_eq_some_iff.mp hscored'
  have hid : alert.alertId = alert'.alertId := (Prod.ext_iff.mp (toLex.injective hkey)).2
  have hassessment : assessment = assessment' := by
    rw [hid, hlast'] at hlast
    exact (Option.some.inj hlast).symm
  rw [same alert halert alert' halert' hid (by rw [hlast]; rfl), hassessment]

/-- The queue does not depend on the order of arrival, where a retry still comes after
what it supersedes and the ranked alerts with one id are one alert. -/
theorem rank_arrival {alerts alerts' : List AlertUnderTriage}
    {assessments assessments' : List AlertAssessment} (halerts : alerts.Perm alerts')
    (hlast : SameLast assessments assessments')
    (same : ∀ alert ∈ alerts, ∀ alert' ∈ alerts, alert.alertId = alert'.alertId →
      (lastFor assessments alert.alertId).isSome → alert = alert') :
    (rank alerts assessments).ranked = (rank alerts' assessments').ranked ∧
      (rank alerts assessments).gaps = (rank alerts' assessments').gaps := by
  have hsorted : StableSort.sortBy queueKey (scored alerts assessments) =
      StableSort.sortBy queueKey (scored alerts' assessments) :=
    StableSort.sortBy_eq_of_perm (ties same) (halerts.filterMap _)
  have hgaps : StableSort.sortBy gapKey (alerts.flatMap (gapsOf assessments)) =
      StableSort.sortBy gapKey (alerts'.flatMap (gapsOf assessments)) :=
    StableSort.sortBy_eq_of_perm (fun _ _ _ _ hkey => gapKey_injective hkey)
      (halerts.flatMap_right _)
  rw [← rank_congr hlast, rank_eq, rank_eq]
  exact ⟨congrArg (fun rows : List ScoredAlert => rows.zipIdx.map row) hsorted, hgaps⟩

end TriageRanker

namespace Samples

def triageAlert (alertId symbol : Text) : AlertUnderTriage where
  alertId := alertId
  timestamp := 0
  symbol := symbol
  traderId := lit "TRD-001"
  alertType := lit "LayeringPattern"
  communicationIds := [lit "COMM-1"]
  orderIds := [lit "ORD-1"]

def scoredZero (alertId rationale : Text) : AlertAssessment where
  alertId := alertId
  riskScore := .zero
  rationale := rationale
  evidence := [⟨.communication, lit "COMM-1", lit "hold off until I clear the book"⟩]
  bounded := Decimal.value_between.mpr ⟨rfl, Nat.zero_le _⟩
  quantised := Nat.zero_le 1

def firstLook : AlertAssessment := scoredZero (lit "A-1") (lit "First look.")
def retry : AlertAssessment := scoredZero (lit "A-1") (lit "Retry.")
def acme : AlertUnderTriage := triageAlert (lit "A-1") (lit "ACME")
def initech : AlertUnderTriage := triageAlert (lit "A-1") (lit "INIT")

/-- A retry before what it should supersede is superseded; of two alerts with one id the
one that arrives first is ranked first. -/
theorem arrival_matters :
    ([firstLook, retry].Perm [retry, firstLook] ∧
      (rank [acme] [firstLook, retry]).ranked ≠ (rank [acme] [retry, firstLook]).ranked) ∧
    ([acme, initech].Perm [initech, acme] ∧
      (rank [acme, initech] [retry]).ranked ≠ (rank [initech, acme] [retry]).ranked) := by
  refine ⟨⟨List.Perm.swap .., fun h => ?_⟩, List.Perm.swap .., fun h => ?_⟩
  · have hrationales := congrArg (List.map (·.assessment.rationale)) h
    revert hrationales
    decide +kernel
  · have hsymbols := congrArg (List.map (·.alert.symbol)) h
    revert hsymbols
    decide +kernel

def other : AlertUnderTriage := triageAlert (lit "A-2") (lit "INIT")
def otherLook : AlertAssessment := scoredZero (lit "A-2") (lit "Nothing found.")

theorem shuffled_arrival :
    (rank [acme, other, acme] [firstLook, otherLook, retry]).ranked =
        (rank [acme, acme, other] [firstLook, retry, otherLook]).ranked ∧
      (rank [acme, other, acme] [firstLook, otherLook, retry]).gaps =
        (rank [acme, acme, other] [firstLook, retry, otherLook]).gaps := by
  apply rank_arrival
  · exact .cons _ (.swap ..)
  · intro alertId
    unfold lastFor
    have hne : lit "A-1" ≠ lit "A-2" := by decide
    by_cases hacme : lit "A-1" = alertId
    · simp [firstLook, retry, otherLook, scoredZero, ← hacme, hne.symm]
    · by_cases hother : lit "A-2" = alertId <;>
        simp [firstLook, retry, otherLook, scoredZero, hacme, hother]
  · intro alert halert alert' halert' hid _
    have hne : acme.alertId ≠ other.alertId := by decide
    simp only [List.mem_cons, List.not_mem_nil, or_false] at halert halert'
    rcases halert with rfl | rfl | rfl <;> rcases halert' with rfl | rfl | rfl <;>
      first | rfl | exact absurd hid hne | exact absurd hid hne.symm

end Samples

end Fcmr.Surveillance
