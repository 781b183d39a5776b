import Fcmr.ServiceDefaults.Correlation
import Fcmr.Surveillance.TriageRanker
import Fcmr.SurveillanceService.Contracts

/-! The handler of `POST /v1/triage/rankings`. It hands every non-empty list of alerts to
the ranker, with any assessments that are in range. -/
namespace Fcmr.SurveillanceService

open DotNet ServiceDefaults Surveillance

/-- The handler checks the alerts for null. -/
structure RankBatchRequest where
  correlationId : Option Text
  alerts : Option (List AlertDto)
  assessments : Option (List AssessmentDto)

structure RankedDescription where
  rank : Int32
  alertId : Text
  symbol : Text
  traderId : Text
  alertType : Text
  riskScore : Decimal
  rationale : Text
  evidence : List EvidenceDescription
  isComplete : Bool

structure GapDescription where
  alertId : Text
  deficiency : Text
  explanation : Text

structure BatchDescription where
  submittedCount : Nat
  isComplete : Bool
  ranked : List RankedDescription
  gaps : List GapDescription
  correlationId : Text

inductive RankingResult
  | badRequest (error detail correlationId : Text)
  | ok (batch : BatchDescription)

def describeRow (row : RankedAlert) : RankedDescription where
  rank := row.rank
  alertId := row.alert.alertId
  symbol := row.alert.symbol
  traderId := row.alert.traderId
  alertType := row.alert.alertType
  riskScore := row.assessment.riskScore
  rationale := row.assessment.rationale
  evidence := row.assessment.evidence.map fun item => {
    kind := item.kind.text
    artefactId := item.artefactId
    excerpt := item.excerpt }
  isComplete := row.isComplete

def deficiencyText : TriageDeficiency → Text
  | .notScored => lit "NotScored"
  | .missingRationale => lit "MissingRationale"
  | .missingEvidence => lit "MissingEvidence"

def describeBatch (batch : TriageBatch) (correlationId : Text) : BatchDescription where
  submittedCount := batch.submittedCount
  isComplete := batch.isComplete
  ranked := batch.ranked.map describeRow
  gaps := batch.gaps.map fun gap => {
    alertId := gap.alertId
    deficiency := deficiencyText gap.deficiency
    explanation := gap.explanation }
  correlationId := correlationId

abbrev Submitted := List AlertUnderTriage × List AlertAssessment

/-- What the handler submits to the ranker, or the error and its detail. -/
def submitted (request : RankBatchRequest) : Except (Text × Text) Submitted :=
  let alerts := request.alerts.getD []
  if alerts.isEmpty then .error (lit "InvalidRequest", lit "At least one alert is required.")
  else
    match (request.assessments.getD []).mapM (·.toDomain) with
    | .error message => .error (lit "InvalidRiskScore", message)
    | .ok assessments => .ok (alerts.map (·.toDomain), assessments)

def rank (request : Option RankBatchRequest) (correlation : CorrelationIdAccessor) :
    RankingResult :=
  match request with
  | none =>
    .badRequest (lit "InvalidRequest") (lit "No request body was supplied.") correlation.value
  | some request =>
    match correlation.tryAdoptFromBody request.correlationId with
    | (false, correlation) =>
      .badRequest (lit "CorrelationIdConflict")
        (lit "The correlationId in the request body does not match the one supplied in the " ++
          CorrelationIdFormat.headerName ++
          lit " header. Send one or the other, or send them equal.") correlation.value
    | (true, correlation) =>
      match submitted request with
      | .error (error, detail) => .badRequest error detail correlation.value
      | .ok (alerts, assessments) =>
        .ok (describeBatch (TriageRanker.rank alerts assessments) correlation.value)

def alertDto (alert : AlertUnderTriage) : AlertDto where
  alertId := alert.alertId
  timestamp := alert.timestamp
  symbol := alert.symbol
  traderId := alert.traderId
  alertType := alert.alertType
  communicationIds := alert.communicationIds
  orderIds := alert.orderIds

def assessmentDto (assessment : AlertAssessment) : AssessmentDto where
  alertId := assessment.alertId
  riskScore := assessment.riskScore
  rationale := assessment.rationale
  evidence := assessment.evidence.map fun item => {
    kind := item.kind
    artefactId := item.artefactId
    excerpt := item.excerpt }

theorem toDomain_assessmentDto (assessment : AlertAssessment) :
    (assessmentDto assessment).toDomain = .ok assessment := by
  have hround : assessment.riskScore.round 1 = assessment.riskScore := by
    unfold Decimal.round
    exact dif_pos assessment.quantised
  have hevidence : ((assessmentDto assessment).evidence.map (·.toDomain)) = assessment.evidence := by
    unfold assessmentDto
    rw [List.map_map]
    exact List.map_id _
  unfold AssessmentDto.toDomain AlertAssessment.init
  rw [hevidence]
  unfold assessmentDto
  rw [dif_pos assessment.bounded]
  simp only [hround]

theorem mapM_assessmentDto (assessments : List AlertAssessment) :
    (assessments.map assessmentDto).mapM (·.toDomain) = .ok assessments := by
  induction assessments with
  | nil => rfl
  | cons assessment assessments ih =>
    rw [List.map_cons, List.mapM_cons, toDomain_assessmentDto, ih]
    rfl

theorem submitted_iff (alerts : List AlertUnderTriage) (assessments : List AlertAssessment) :
    (∃ request, submitted request = .ok (alerts, assessments)) ↔ alerts ≠ [] := by
  constructor
  · rintro ⟨request, h⟩
    unfold submitted at h
    dsimp only at h
    split at h
    · cases h
    rename_i hsome
    split at h
    · cases h
    cases h
    simpa using hsome
  · intro h
    refine ⟨⟨none, some (alerts.map alertDto), some (assessments.map assessmentDto)⟩, ?_⟩
    have hsome : ¬(alerts.map alertDto).isEmpty := by simpa using h
    have halerts : (alerts.map alertDto).map (·.toDomain) = alerts := by
      rw [List.map_map]
      exact List.map_id _
    unfold submitted
    dsimp only [Option.getD_some]
    rw [if_neg hsome, mapM_assessmentDto, halerts]

end Fcmr.SurveillanceService
