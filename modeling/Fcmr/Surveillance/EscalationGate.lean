import Fcmr.DotNet.Casing
import Fcmr.DotNet.Formats
import Fcmr.Surveillance.Alerts

/-! The approval boundary of the surveillance lane. -/
namespace Fcmr.Surveillance

open DotNet

inductive AlertState
  | opened
  | escalated
  | dismissed
  deriving DecidableEq

def AlertState.text : AlertState → Text
  | opened => lit "Open"
  | escalated => lit "Escalated"
  | dismissed => lit "Dismissed"

structure EscalationPolicy where
  minimumRiskScore : Decimal
  minimumEvidenceItems : Int32

def EscalationPolicy.default : EscalationPolicy where
  minimumRiskScore := .literal 70 0
  minimumEvidenceItems := 1

inductive DraftRefusalReason
  | belowRiskThreshold
  | insufficientEvidence
  | missingRationale
  deriving DecidableEq

def DraftRefusalReason.text : DraftRefusalReason → Text
  | belowRiskThreshold => lit "BelowRiskThreshold"
  | insufficientEvidence => lit "InsufficientEvidence"
  | missingRationale => lit "MissingRationale"

structure EscalationMemo where
  alertId : Text
  correlationId : Text
  queueRank : Int32
  riskScore : Decimal
  symbol : Text
  traderId : Text
  alertType : Text
  rationale : Text
  evidence : List EvidenceItem
  proposedBy : Text
  draftedAt : DateTimeOffset

namespace EscalationMemo

def status (_ : EscalationMemo) : Text := lit "DRAFT"

def summary (memo : EscalationMemo) : Text :=
  lit "Alert " ++ memo.alertId ++ lit " (" ++ memo.alertType ++ lit ") on " ++ memo.symbol ++
    lit " for trader " ++ memo.traderId ++ lit ", queue rank " ++ intText memo.queueRank.toInt ++
    lit ", risk score " ++ memo.riskScore.numberText 1 ++ lit ", " ++
    natText memo.evidence.length ++ lit " evidence item" ++
    (if memo.evidence.length = 1 then [] else lit "s") ++ lit "."

end EscalationMemo

inductive DraftOutcome
  | drafted (memo : EscalationMemo)
  | refused (reason : DraftRefusalReason) (explanation : Text)

inductive EscalationRefusalReason
  | alertMismatch
  | correlationMismatch
  | approvalExpired
  | segregationOfDuties
  deriving DecidableEq

def EscalationRefusalReason.text : EscalationRefusalReason → Text
  | alertMismatch => lit "AlertMismatch"
  | correlationMismatch => lit "CorrelationMismatch"
  | approvalExpired => lit "ApprovalExpired"
  | segregationOfDuties => lit "SegregationOfDuties"

structure EscalationAuthorization where
  alertId : Text
  correlationId : Text
  approvedBy : Text
  approvedAt : DateTimeOffset
  expiresAt : OffsetDateTime
  authorisedState : AlertState

structure AlertStateChange where
  alertId : Text
  correlationId : Text
  previousState : AlertState
  newState : AlertState
  approvedBy : Text
  proposedBy : Text
  changedAt : DateTimeOffset

inductive EscalationOutcome
  | applied (change : AlertStateChange)
  | refused (reason : EscalationRefusalReason) (explanation : Text)

namespace EscalationGate

def memoOf (ranked : RankedAlert) (correlationId proposedBy : Text) (draftedAt : DateTimeOffset) :
    EscalationMemo where
  alertId := ranked.alert.alertId
  correlationId := correlationId
  queueRank := ranked.rank
  riskScore := ranked.assessment.riskScore
  symbol := ranked.alert.symbol
  traderId := ranked.alert.traderId
  alertType := ranked.alert.alertType
  rationale := ranked.assessment.rationale
  evidence := ranked.assessment.evidence
  proposedBy := proposedBy
  draftedAt := draftedAt

/-- `Draft`. `none` is the exception for a blank correlation id or identity. -/
def draft (ranked : RankedAlert) (policy : EscalationPolicy) (correlationId proposedBy : Text)
    (draftedAt : DateTimeOffset) : Option DraftOutcome :=
  if isNullOrWhiteSpace (some correlationId) || isNullOrWhiteSpace (some proposedBy) then none
  else if ranked.assessment.riskScore.value < policy.minimumRiskScore.value then
    some <| .refused .belowRiskThreshold <|
      lit "Alert " ++ ranked.alert.alertId ++ lit " scored " ++
        ranked.assessment.riskScore.numberText 1 ++ lit ", below the " ++
        policy.minimumRiskScore.numberText 1 ++ lit " escalation threshold."
  else if isNullOrWhiteSpace (some ranked.assessment.rationale) then
    some <| .refused .missingRationale <|
      lit "Alert " ++ ranked.alert.alertId ++
        lit " has no rationale; an approver would have nothing to review but the score."
  else if (ranked.assessment.evidence.length : Int) < policy.minimumEvidenceItems.toInt then
    some <| .refused .insufficientEvidence <|
      lit "Alert " ++ ranked.alert.alertId ++ lit " cites " ++
        natText ranked.assessment.evidence.length ++ lit " evidence item(s); " ++
        intText policy.minimumEvidenceItems.toInt ++ lit " required."
  else some (.drafted (memoOf ranked correlationId proposedBy draftedAt))

theorem draft_drafted {ranked : RankedAlert} {policy : EscalationPolicy}
    {correlationId proposedBy : Text} {draftedAt : DateTimeOffset} {memo : EscalationMemo}
    (h : draft ranked policy correlationId proposedBy draftedAt = some (.drafted memo)) :
    memo = memoOf ranked correlationId proposedBy draftedAt := by
  unfold draft at h
  split at h
  · cases h
  split at h
  · cases h
  split at h
  · cases h
  split at h
  · cases h
  cases h
  rfl

def change (memo : EscalationMemo) (authorization : EscalationAuthorization)
    (now : DateTimeOffset) : AlertStateChange where
  alertId := memo.alertId
  correlationId := memo.correlationId
  previousState := .opened
  newState := authorization.authorisedState
  approvedBy := authorization.approvedBy
  proposedBy := memo.proposedBy
  changedAt := now

def apply (memo : EscalationMemo) (authorization : EscalationAuthorization)
    (now : DateTimeOffset) : EscalationOutcome :=
  if memo.alertId ≠ authorization.alertId then
    .refused .alertMismatch <|
      lit "Approval references alert " ++ authorization.alertId ++ lit " but the memo is for " ++
        memo.alertId ++ lit "."
  else if memo.correlationId ≠ authorization.correlationId then
    .refused .correlationMismatch <|
      lit "Approval carries correlationId " ++ authorization.correlationId ++
        lit " but the memo was drafted under " ++ memo.correlationId ++ lit "."
  else if authorization.expiresAt.utc ≤ now then
    .refused .approvalExpired <|
      lit "Approval for alert " ++ memo.alertId ++ lit " expired at " ++
        roundTripText authorization.expiresAt ++ lit ". Expiry is not approval."
  else if equalsOrdinalIgnoreCase (some memo.proposedBy) (some authorization.approvedBy) then
    .refused .segregationOfDuties <|
      lit "Identity " ++ authorization.approvedBy ++
        lit " both proposed and approved the escalation of alert " ++ memo.alertId ++ lit "."
  else .applied (change memo authorization now)

structure Authorised (memo : EscalationMemo) (authorization : EscalationAuthorization)
    (now : DateTimeOffset) : Prop where
  alert : memo.alertId = authorization.alertId
  correlation : memo.correlationId = authorization.correlationId
  inTime : now < authorization.expiresAt.utc

theorem apply_of_authorised {memo : EscalationMemo} {authorization : EscalationAuthorization}
    {now : DateTimeOffset} (h : Authorised memo authorization now) :
    apply memo authorization now =
      if equalsOrdinalIgnoreCase (some memo.proposedBy) (some authorization.approvedBy) then
        .refused .segregationOfDuties <|
          lit "Identity " ++ authorization.approvedBy ++
            lit " both proposed and approved the escalation of alert " ++ memo.alertId ++ lit "."
      else .applied (change memo authorization now) := by
  have htime : ¬authorization.expiresAt.utc ≤ now := Nat.not_le_of_lt h.inTime
  simp [apply, h.alert, h.correlation, htime]

theorem refused_of_not_authorised {memo : EscalationMemo} {authorization : EscalationAuthorization}
    {now : DateTimeOffset} (h : ¬Authorised memo authorization now) :
    ∃ reason explanation, apply memo authorization now = .refused reason explanation := by
  by_cases halert : memo.alertId = authorization.alertId
  case neg => exact ⟨_, _, if_pos halert⟩
  by_cases hcorrelation : memo.correlationId = authorization.correlationId
  case neg => exact ⟨_, _, (if_neg (not_not.mpr halert)).trans (if_pos hcorrelation)⟩
  by_cases htime : authorization.expiresAt.utc ≤ now
  case neg => exact absurd ⟨halert, hcorrelation, Nat.lt_of_not_le htime⟩ h
  exact ⟨_, _, (if_neg (not_not.mpr halert)).trans
    ((if_neg (not_not.mpr hcorrelation)).trans (if_pos htime))⟩

theorem apply_identities_of_not_authorised {memo : EscalationMemo}
    {authorization : EscalationAuthorization} {now : DateTimeOffset}
    (h : ¬Authorised memo authorization now) (proposedBy approvedBy : Text) :
    apply { memo with proposedBy } { authorization with approvedBy } now =
      apply memo authorization now := by
  unfold apply
  by_cases halert : memo.alertId = authorization.alertId
  case neg => simp [halert]
  by_cases hcorrelation : memo.correlationId = authorization.correlationId
  case neg => simp [halert, hcorrelation]
  by_cases htime : authorization.expiresAt.utc ≤ now
  case neg => exact absurd ⟨halert, hcorrelation, Nat.lt_of_not_le htime⟩ h
  simp [halert, hcorrelation, htime]

end EscalationGate

end Fcmr.Surveillance
