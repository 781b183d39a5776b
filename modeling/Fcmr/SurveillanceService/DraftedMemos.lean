import Fcmr.Surveillance.TriageAccount
import Fcmr.SurveillanceService.Identity

/-! Whose assessment a memo carries. The queue joins alerts and assessments by their ids; a
request for a draft brings both, and nobody compares them. -/
namespace Fcmr.Surveillance

open DotNet

structure EscalationMemo.Carries (memo : EscalationMemo) (assessment : AlertAssessment) : Prop where
  riskScore : memo.riskScore = assessment.riskScore
  rationale : memo.rationale = assessment.rationale
  evidence : memo.evidence = assessment.evidence

theorem EscalationGate.memoOf_carries (ranked : RankedAlert) (correlationId proposedBy : Text)
    (draftedAt : DateTimeOffset) :
    (memoOf ranked correlationId proposedBy draftedAt).Carries ranked.assessment :=
  ⟨rfl, rfl, rfl⟩

namespace TriageRanker

theorem mem_of_lastFor {assessments : List AlertAssessment} {alertId : Text}
    {assessment : AlertAssessment} (h : lastFor assessments alertId = some assessment) :
    assessment ∈ assessments ∧ assessment.alertId = alertId := by
  obtain ⟨hmem, hid⟩ := List.mem_filter.mp (List.mem_of_getLast? h)
  exact ⟨hmem, of_decide_eq_true hid⟩

theorem ranked_own {alerts : List AlertUnderTriage} {assessments : List AlertAssessment}
    {row : RankedAlert} (h : row ∈ (rank alerts assessments).ranked) :
    row.alert ∈ alerts ∧ row.assessment ∈ assessments ∧
      row.assessment.alertId = row.alert.alertId := by
  have hrow : (row.alert, row.assessment) ∈
      (rank alerts assessments).ranked.map fun row => (row.alert, row.assessment) :=
    List.mem_map_of_mem h
  rw [ranked_rows, (StableSort.sortBy_perm _).mem_iff] at hrow
  obtain ⟨alert, hmem, hscored⟩ := List.mem_filterMap.mp hrow
  obtain ⟨assessment, hlast, hpair⟩ := Option.map_eq_some_iff.mp hscored
  obtain ⟨halert, hassessment⟩ := Prod.mk.inj hpair
  rw [← halert, ← hassessment]
  exact ⟨hmem, mem_of_lastFor hlast⟩

/-- A memo that is drafted for a row carries an assessment of its own alert. -/
def RowsOwn (alerts : List AlertUnderTriage) (assessments : List AlertAssessment) : Prop :=
  ∀ row ∈ (rank alerts assessments).ranked, ∀ policy correlationId proposedBy draftedAt memo,
    EscalationGate.draft row policy correlationId proposedBy draftedAt = some (.drafted memo) →
      ∃ assessment ∈ assessments, memo.Carries assessment ∧ assessment.alertId = memo.alertId

theorem rows_own (alerts : List AlertUnderTriage) (assessments : List AlertAssessment) :
    RowsOwn alerts assessments := by
  intro row hrow policy correlationId proposedBy draftedAt memo hdraft
  obtain ⟨_, hassessment, hown⟩ := ranked_own hrow
  rw [EscalationGate.draft_drafted hdraft]
  exact ⟨row.assessment, hassessment, EscalationGate.memoOf_carries .., hown⟩

end TriageRanker

end Fcmr.Surveillance

namespace Fcmr.SurveillanceService

open DotNet ServiceDefaults Surveillance
open ApprovalsService (ClaimsPrincipal)

structure MemoDescription.Carries (memo : MemoDescription) (assessment : AssessmentDto) : Prop where
  riskScore : memo.riskScore = assessment.riskScore.round 1
  rationale : memo.rationale = assessment.rationale
  evidence : memo.evidence = assessment.evidence.map fun item =>
    ⟨item.kind.text, item.artefactId, item.excerpt⟩

/-- A memo that is drafted for the request carries an assessment of its own alert. -/
def RequestOwns (request : DraftEscalationRequest) (user : Option ClaimsPrincipal)
    (correlation : CorrelationIdAccessor) (now : DateTimeOffset) : Prop :=
  ∀ statusCode memo shown,
    draftEscalation (some request) user correlation now = some ⟨statusCode, .drafted memo shown⟩ →
      memo.Carries request.assessment ∧ request.assessment.alertId = memo.alertId

/-- A request that comes to a memo. -/
structure Draftable (request : DraftEscalationRequest) (correlation : CorrelationIdAccessor) :
    Prop where
  correlation : isNullOrWhiteSpace (some correlation.value) = false
  inRange : 0 ≤ request.assessment.riskScore.value ∧ request.assessment.riskScore.value ≤ 100
  threshold : 70 ≤ (request.assessment.riskScore.round 1).value
  rationale : isNullOrWhiteSpace (some request.assessment.rationale) = false
  evidence : request.assessment.evidence ≠ []

variable {request : DraftEscalationRequest} {user : Option ClaimsPrincipal}
  {correlation : CorrelationIdAccessor} {now : DateTimeOffset}

theorem proposer_named (user : Option ClaimsPrincipal) :
    isNullOrWhiteSpace (some ((FcmrAuthorization.objectId user).getD anonymousCaller)) = false := by
  cases hid : FcmrAuthorization.objectId user with
  | none => decide +kernel
  | some identity =>
    unfold FcmrAuthorization.objectId at hid
    split at hid
    · cases hid
    split at hid
    · obtain ⟨claimType, _, hclaim⟩ := List.exists_of_findSome?_eq_some hid
      obtain ⟨_, hvalue⟩ := Option.filter_eq_some_iff.mp hclaim
      exact Bool.not_eq_true' _ ▸ hvalue
    · cases hid

theorem value_minimumRiskScore : EscalationPolicy.default.minimumRiskScore.value = 70 := by
  simp [EscalationPolicy.default, Decimal.literal, Decimal.value]

def rankedOf (request : DraftEscalationRequest) (assessment : AlertAssessment) : RankedAlert where
  rank := request.queueRank
  alert := request.alert.toDomain
  assessment := assessment

theorem draft_iff {ranked : RankedAlert} {correlationId proposedBy : Text}
    (hproposedBy : isNullOrWhiteSpace (some proposedBy) = false) :
    (∃ memo, EscalationGate.draft ranked .default correlationId proposedBy now =
      some (.drafted memo)) ↔ isNullOrWhiteSpace (some correlationId) = false ∧
        70 ≤ ranked.assessment.riskScore.value ∧
        isNullOrWhiteSpace (some ranked.assessment.rationale) = false ∧
        ranked.assessment.evidence ≠ [] := by
  have hone : EscalationPolicy.default.minimumEvidenceItems.toInt = 1 := rfl
  unfold EscalationGate.draft
  rw [hproposedBy, Bool.or_false, value_minimumRiskScore, hone]
  by_cases hcorrelation : isNullOrWhiteSpace (some correlationId) = true
  · simp [hcorrelation]
  by_cases hscore : ranked.assessment.riskScore.value < 70
  · simp [hcorrelation, hscore]
  by_cases hrationale : isNullOrWhiteSpace (some ranked.assessment.rationale) = true
  · simp [hcorrelation, hscore, hrationale]
  by_cases hevidence : ranked.assessment.evidence = []
  · simp [hcorrelation, hscore, hrationale, hevidence]
  · have hlength : ¬(ranked.assessment.evidence.length : Int) < 1 := by
      have hpos := List.length_pos_iff.mpr hevidence
      omega
    simp [hcorrelation, hscore, hrationale, hevidence, hlength, not_lt.mp hscore]

theorem toDomain_ok {assessment : AssessmentDto} {assessed : AlertAssessment} :
    assessment.toDomain = .ok assessed ↔
      (0 ≤ assessment.riskScore.value ∧ assessment.riskScore.value ≤ 100) ∧
      assessed.alertId = assessment.alertId ∧
      assessed.riskScore = assessment.riskScore.round 1 ∧
      assessed.rationale = assessment.rationale ∧
      assessed.evidence = assessment.evidence.map (·.toDomain) := by
  unfold AssessmentDto.toDomain AlertAssessment.init
  constructor
  · intro h
    split at h
    · rename_i hrange
      cases h
      exact ⟨hrange, rfl, rfl, rfl, rfl⟩
    · cases h
  · rintro ⟨hrange, hid, hscore, hrationale, hevidence⟩
    rw [dif_pos hrange]
    congr 1
    cases assessed
    simp_all

theorem drafted_of_answer {statusCode : Nat} {memo : MemoDescription} {shown : Text}
    (h : draftEscalation (some request) user correlation now =
      some ⟨statusCode, .drafted memo shown⟩) :
    ∃ assessed, request.assessment.toDomain = .ok assessed ∧
      EscalationGate.draft (rankedOf request assessed) .default correlation.value
          ((FcmrAuthorization.objectId user).getD anonymousCaller) now =
        some (.drafted (EscalationGate.memoOf (rankedOf request assessed) correlation.value
          ((FcmrAuthorization.objectId user).getD anonymousCaller) now)) ∧
      memo = describe (EscalationGate.memoOf (rankedOf request assessed) correlation.value
        ((FcmrAuthorization.objectId user).getD anonymousCaller) now) := by
  simp only [draftEscalation] at h
  split at h
  · cases h
  rename_i assessed hassessed
  obtain ⟨outcome, houtcome, hanswer⟩ := Option.map_eq_some_iff.mp h
  cases outcome with
  | refused reason explanation => cases hanswer
  | drafted drafted =>
    have hmemo := EscalationGate.draft_drafted houtcome
    subst hmemo
    cases hanswer
    exact ⟨assessed, hassessed, houtcome, rfl⟩

theorem draftable_of_answer {statusCode : Nat} {memo : MemoDescription} {shown : Text}
    (h : draftEscalation (some request) user correlation now =
      some ⟨statusCode, .drafted memo shown⟩) :
    Draftable request correlation ∧ memo.Carries request.assessment ∧
      memo.alertId = request.alert.alertId := by
  obtain ⟨assessed, hassessed, hdraft, rfl⟩ := drafted_of_answer h
  obtain ⟨hrange, _, hscore, hrationale, hevidence⟩ := toDomain_ok.mp hassessed
  obtain ⟨hcorrelation, hthreshold, hexplained, hevidenced⟩ :=
    (draft_iff (proposer_named user)).mp ⟨_, hdraft⟩
  dsimp only [rankedOf] at hthreshold hexplained hevidenced
  rw [hscore] at hthreshold
  rw [hrationale] at hexplained
  rw [hevidence, ne_eq, List.map_eq_nil_iff] at hevidenced
  refine ⟨⟨hcorrelation, hrange, hthreshold, hexplained, hevidenced⟩, ⟨hscore, hrationale, ?_⟩, rfl⟩
  unfold describe EscalationGate.memoOf rankedOf
  rw [hevidence, List.map_map]
  rfl

theorem answer_of_draftable (user : Option ClaimsPrincipal) (now : DateTimeOffset)
    (h : Draftable request correlation) :
    ∃ memo shown, draftEscalation (some request) user correlation now =
      some ⟨201, .drafted memo shown⟩ := by
  have hassessed : ∃ assessed, request.assessment.toDomain = .ok assessed := by
    unfold AssessmentDto.toDomain AlertAssessment.init
    rw [dif_pos h.inRange]
    exact ⟨_, rfl⟩
  obtain ⟨assessed, hassessed⟩ := hassessed
  obtain ⟨_, _, hscore, hrationale, hevidence⟩ := toDomain_ok.mp hassessed
  have hdrafted : ∃ memo, EscalationGate.draft (rankedOf request assessed) .default
      correlation.value ((FcmrAuthorization.objectId user).getD anonymousCaller) now =
        some (.drafted memo) := by
    refine (draft_iff (proposer_named user)).mpr ⟨h.correlation, ?_, ?_, ?_⟩
    · exact hscore ▸ h.threshold
    · exact hrationale ▸ h.rationale
    · dsimp only [rankedOf]
      rw [hevidence, ne_eq, List.map_eq_nil_iff]
      exact h.evidence
  obtain ⟨memo, hdraft⟩ := hdrafted
  unfold rankedOf at hdraft
  simp only [draftEscalation, hassessed, hdraft, Option.map_some, answerDraft]
  exact ⟨_, _, rfl⟩

/-- On the way through the queue a memo never mixes two alerts; a request that comes to a memo
must name one alert twice. -/
theorem memos_own_alert_iff (alerts : List AlertUnderTriage) (assessments : List AlertAssessment)
    (request : DraftEscalationRequest) (user : Option ClaimsPrincipal)
    (correlation : CorrelationIdAccessor) (now : DateTimeOffset) :
    TriageRanker.RowsOwn alerts assessments ∧
      (RequestOwns request user correlation now ↔
        (Draftable request correlation →
          request.assessment.alertId = request.alert.alertId)) := by
  refine ⟨TriageRanker.rows_own alerts assessments, ?_, ?_⟩
  · intro howns hdraftable
    obtain ⟨memo, shown, hanswer⟩ := answer_of_draftable user now hdraftable
    obtain ⟨_, _, halert⟩ := draftable_of_answer hanswer
    rw [(howns 201 memo shown hanswer).2, halert]
  · intro hsame statusCode memo shown hanswer
    obtain ⟨hdraftable, hcarries, halert⟩ := draftable_of_answer hanswer
    exact ⟨hcarries, (hsame hdraftable).trans halert.symm⟩

namespace Samples

def mixedRequest : DraftEscalationRequest :=
  { draftRequest with assessment := { draftRequest.assessment with alertId := lit "A-2" } }

theorem mixedRequest_drafted : ¬RequestOwns mixedRequest alice header 1000 := by
  intro howns
  have hdraftable : Draftable mixedRequest header :=
    ⟨by decide, by decide +kernel, by decide +kernel, by decide +kernel, by decide⟩
  obtain ⟨memo, shown, hanswer⟩ := answer_of_draftable alice 1000 hdraftable
  obtain ⟨_, _, halert⟩ := draftable_of_answer hanswer
  have hsame := (howns 201 memo shown hanswer).2.trans halert
  exact absurd hsame (by decide)

end Samples

end Fcmr.SurveillanceService
