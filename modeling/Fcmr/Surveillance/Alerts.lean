import Fcmr.DotNet.DecimalArithmetic
import Fcmr.DotNet.Time

/-! Alerts under triage and the assessments that a model makes of them. -/
namespace Fcmr.Surveillance

open DotNet

inductive EvidenceKind
  | communication
  | order
  | tradeContext
  deriving DecidableEq

def EvidenceKind.text : EvidenceKind → Text
  | communication => lit "Communication"
  | order => lit "Order"
  | tradeContext => lit "TradeContext"

structure EvidenceItem where
  kind : EvidenceKind
  artefactId : Text
  excerpt : Text

structure AlertUnderTriage where
  alertId : Text
  timestamp : DateTimeOffset
  symbol : Text
  traderId : Text
  alertType : Text
  communicationIds : List Text
  orderIds : List Text

/-- The score lies between 0 and 100, with at most one decimal place. -/
structure AlertAssessment where
  alertId : Text
  riskScore : Decimal
  rationale : Text
  evidence : List EvidenceItem
  bounded : 0 ≤ riskScore.value ∧ riskScore.value ≤ 100
  quantised : riskScore.scale ≤ 1

/-- The message of the `ArgumentOutOfRangeException` for a score. -/
def outOfRangeText (value : Decimal) : Text :=
  lit "Risk score must be between 0 and 100 inclusive. (Parameter 'value')\nActual value was " ++
    value.toText ++ lit "."

/-- The initialisers of `AlertAssessment`: they quantise the score, or throw. -/
def AlertAssessment.init (alertId : Text) (riskScore : Decimal) (rationale : Text)
    (evidence : List EvidenceItem) : Except Text AlertAssessment :=
  if h : 0 ≤ riskScore.value ∧ riskScore.value ≤ 100 then
    .ok {
      alertId
      riskScore := riskScore.round 1
      rationale
      evidence
      bounded := riskScore.round_between 1 h
      quantised := riskScore.round_scale_le 1 }
  else .error (outOfRangeText riskScore)

structure RankedAlert where
  rank : Int32
  alert : AlertUnderTriage
  assessment : AlertAssessment

end Fcmr.Surveillance
