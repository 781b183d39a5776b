import Fcmr.ServiceDefaults.Security
import Fcmr.Surveillance.EscalationGate

/-! Wire shapes of the surveillance lane. -/
namespace Fcmr.SurveillanceService

open DotNet ServiceDefaults Surveillance

structure AlertDto where
  alertId : Text
  timestamp : DateTimeOffset
  symbol : Text
  traderId : Text
  alertType : Text
  communicationIds : List Text := []
  orderIds : List Text := []

def AlertDto.toDomain (alert : AlertDto) : AlertUnderTriage where
  alertId := alert.alertId
  timestamp := alert.timestamp
  symbol := alert.symbol
  traderId := alert.traderId
  alertType := alert.alertType
  communicationIds := alert.communicationIds
  orderIds := alert.orderIds

structure EvidenceDto where
  kind : EvidenceKind
  artefactId : Text
  excerpt : Text

def EvidenceDto.toDomain (evidence : EvidenceDto) : EvidenceItem where
  kind := evidence.kind
  artefactId := evidence.artefactId
  excerpt := evidence.excerpt

structure AssessmentDto where
  alertId : Text
  riskScore : Decimal
  rationale : Text := []
  evidence : List EvidenceDto := []

def AssessmentDto.toDomain (assessment : AssessmentDto) : Except Text AlertAssessment :=
  AlertAssessment.init assessment.alertId assessment.riskScore assessment.rationale
    (assessment.evidence.map (·.toDomain))

structure DraftEscalationRequest where
  queueRank : Int32
  alert : AlertDto
  assessment : AssessmentDto

structure MemoDto where
  alertId : Text
  correlationId : Text
  queueRank : Int32
  riskScore : Decimal
  symbol : Text
  traderId : Text
  alertType : Text
  rationale : Text
  evidence : List EvidenceDto := []
  proposedBy : Text
  draftedAt : DateTimeOffset

def MemoDto.toDomain (memo : MemoDto) : EscalationMemo where
  alertId := memo.alertId
  correlationId := memo.correlationId
  queueRank := memo.queueRank
  riskScore := memo.riskScore
  symbol := memo.symbol
  traderId := memo.traderId
  alertType := memo.alertType
  rationale := memo.rationale
  evidence := memo.evidence.map (·.toDomain)
  proposedBy := memo.proposedBy
  draftedAt := memo.draftedAt

structure EscalationApprovalDto where
  alertId : Text
  correlationId : Text
  approvedBy : Text
  approvedAt : DateTimeOffset
  expiresAt : OffsetDateTime
  authorisedState : AlertState

/-- The handler checks the approval for null. -/
structure ApplyEscalationRequest where
  memo : MemoDto
  approval : Option EscalationApprovalDto

structure EvidenceDescription where
  kind : Text
  artefactId : Text
  excerpt : Text

structure MemoDescription where
  alertId : Text
  correlationId : Text
  queueRank : Int32
  riskScore : Decimal
  symbol : Text
  traderId : Text
  alertType : Text
  rationale : Text
  evidence : List EvidenceDescription
  proposedBy : Text
  draftedAt : DateTimeOffset
  summary : Text
  status : Text

def describe (memo : EscalationMemo) : MemoDescription where
  alertId := memo.alertId
  correlationId := memo.correlationId
  queueRank := memo.queueRank
  riskScore := memo.riskScore
  symbol := memo.symbol
  traderId := memo.traderId
  alertType := memo.alertType
  rationale := memo.rationale
  evidence := memo.evidence.map fun item => {
    kind := item.kind.text
    artefactId := item.artefactId
    excerpt := item.excerpt }
  proposedBy := memo.proposedBy
  draftedAt := memo.draftedAt
  summary := memo.summary
  status := memo.status

structure ChangeDescription where
  alertId : Text
  correlationId : Text
  previousState : Text
  newState : Text
  approvedBy : Text
  proposedBy : Text
  changedAt : DateTimeOffset

def describeChange (change : AlertStateChange) : ChangeDescription where
  alertId := change.alertId
  correlationId := change.correlationId
  previousState := change.previousState.text
  newState := change.newState.text
  approvedBy := change.approvedBy
  proposedBy := change.proposedBy
  changedAt := change.changedAt

inductive Body
  | error (error detail correlationId : Text)
  | forbidden (refusal : FilterRefusal)
  | notDrafted (refusal detail correlationId : Text)
  | drafted (memo : MemoDescription) (correlationId : Text)
  | notApplied (refusal detail correlationId : Text)
  | applied (change : ChangeDescription) (correlationId : Text)

/-- `IResult` as the handlers build it. -/
structure Result where
  statusCode : Nat
  body : Body

end Fcmr.SurveillanceService
