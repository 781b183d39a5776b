import Fcmr.SurveillanceService.SurveillanceEndpoints

/-! Who drafts and who applies. The memo comes back with the caller, so that the proposer
that the approver is compared with is whom the body names. -/
namespace Fcmr.SurveillanceService

open DotNet ServiceDefaults Surveillance
open ApprovalsService (ClaimsPrincipal)

/-- The request with other identities in its body. -/
def ApplyEscalationRequest.withIdentities (request : ApplyEscalationRequest)
    (proposedBy approvedBy : Text) : ApplyEscalationRequest where
  memo := { request.memo with proposedBy }
  approval := request.approval.map fun approval => { approval with approvedBy }

def approverOf (user : Option ClaimsPrincipal) (approvedBy : Text) : Text :=
  (FcmrAuthorization.objectId user).getD approvedBy

/-- `POST /v1/escalations` with authorisation enforced. -/
def postEscalation (request : ApplyEscalationRequest) (user : Option ClaimsPrincipal)
    (correlation : CorrelationIdAccessor) (now : DateTimeOffset) : Option Result :=
  filtered true SurveillanceRoles.reviewer user
    (some (applyEscalation (some request) user correlation now))

/-- `POST /v1/escalations/drafts` with authorisation enforced. -/
def postDraft (request : DraftEscalationRequest) (user : Option ClaimsPrincipal)
    (correlation : CorrelationIdAccessor) (now : DateTimeOffset) : Option Result :=
  filtered true SurveillanceRoles.analyst user
    (draftEscalation (some request) user correlation now)

def Refused (answer : Option Result) : Prop :=
  ∃ body, answer = some ⟨403, body⟩

structure Segregated (user : Option ClaimsPrincipal) : Prop where
  bodyIgnored : ∀ request proposedBy approvedBy correlation now,
    postEscalation request user correlation now =
      postEscalation (request.withIdentities proposedBy approvedBy) user correlation now
  ownRefused : ∀ draft drafter draftedUnder draftedAt memo shown,
    FcmrAuthorization.objectId drafter = FcmrAuthorization.objectId user →
    postDraft draft drafter draftedUnder draftedAt = some ⟨201, .drafted memo shown⟩ →
    ∀ request correlation now, request.memo.alertId = memo.alertId →
      request.memo.correlationId = memo.correlationId →
      Refused (postEscalation request user correlation now)

def Authorises (approval : EscalationApprovalDto) (memo : MemoDto) (now : DateTimeOffset) : Prop :=
  memo.alertId = approval.alertId ∧ memo.correlationId = approval.correlationId ∧
    now < approval.expiresAt.utc

/-- The identities that two bodies name are not compared, or compare alike. -/
inductive SameRuling (user : Option ClaimsPrincipal) (request : ApplyEscalationRequest)
    (proposedBy approvedBy : Text) (now : DateTimeOffset) : Prop
  | unapproved (h : request.approval = none)
  | unnamed {approval : EscalationApprovalDto} (h : request.approval = some approval)
      (first : isNullOrWhiteSpace (some (approverOf user approval.approvedBy)) = true)
      (second : isNullOrWhiteSpace (some (approverOf user approvedBy)) = true)
  | unauthorised {approval : EscalationApprovalDto} (h : request.approval = some approval)
      (first : isNullOrWhiteSpace (some (approverOf user approval.approvedBy)) = false)
      (second : isNullOrWhiteSpace (some (approverOf user approvedBy)) = false)
      (lapsed : ¬Authorises approval request.memo now)
  | segregated {approval : EscalationApprovalDto} (h : request.approval = some approval)
      (same : approverOf user approval.approvedBy = approverOf user approvedBy)
      (first : equalsOrdinalIgnoreCase (some request.memo.proposedBy)
        (some (approverOf user approvedBy)) = true)
      (second : equalsOrdinalIgnoreCase (some proposedBy)
        (some (approverOf user approvedBy)) = true)
  | repeated {approval : EscalationApprovalDto} (h : request.approval = some approval)
      (same : approverOf user approval.approvedBy = approverOf user approvedBy)
      (proposer : request.memo.proposedBy = proposedBy)

/-- Whom the proposer in the body is compared with: the identity that drafted the memo, or
without an object id the approver that the body names. -/
def opponent (user : Option ClaimsPrincipal) (memo : MemoDescription)
    (approval : EscalationApprovalDto) : Text :=
  match FcmrAuthorization.objectId user with
  | some _ => memo.proposedBy
  | none => approval.approvedBy

/-- A request that fails a check, that of the identities included. -/
inductive Refusable (user : Option ClaimsPrincipal) (memo : MemoDescription)
    (request : ApplyEscalationRequest) (now : DateTimeOffset) : Prop
  | unapproved (h : request.approval = none)
  | unnamed {approval : EscalationApprovalDto} (h : request.approval = some approval)
      (blank : isNullOrWhiteSpace (some (approverOf user approval.approvedBy)) = true)
  | unauthorised {approval : EscalationApprovalDto} (h : request.approval = some approval)
      (lapsed : ¬Authorises approval request.memo now)
  | recognised {approval : EscalationApprovalDto} (h : request.approval = some approval)
      (same : equalsOrdinalIgnoreCase (some request.memo.proposedBy)
        (some (opponent user memo approval)) = true)

section

variable {user : Option ClaimsPrincipal} {request : ApplyEscalationRequest}
  {approval : EscalationApprovalDto} {correlation : CorrelationIdAccessor} {now : DateTimeOffset}

theorem applyEscalation_unnamed (h : request.approval = some approval)
    (hblank : isNullOrWhiteSpace (some (approverOf user approval.approvedBy)) = true) :
    applyEscalation (some request) user correlation now = approvalRequired correlation := by
  simp only [applyEscalation, h]
  exact if_pos hblank

theorem applyEscalation_named (h : request.approval = some approval)
    (hnamed : isNullOrWhiteSpace (some (approverOf user approval.approvedBy)) = false) :
    applyEscalation (some request) user correlation now =
      answerApply (EscalationGate.apply request.memo.toDomain
        (authorizationOf approval (approverOf user approval.approvedBy)) now) correlation := by
  simp only [applyEscalation, h]
  exact if_neg (by simpa [approverOf] using hnamed)

theorem withIdentities_approval (proposedBy approvedBy : Text) (h : request.approval = some approval) :
    (request.withIdentities proposedBy approvedBy).approval = some { approval with approvedBy } := by
  simp [ApplyEscalationRequest.withIdentities, h]

theorem applyEscalation_withIdentities (proposedBy : Text) {approvedBy : Text}
    (h : request.approval = some approval)
    (hnamed : isNullOrWhiteSpace (some (approverOf user approvedBy)) = false) :
    applyEscalation (some (request.withIdentities proposedBy approvedBy)) user correlation now =
      answerApply (EscalationGate.apply (MemoDto.toDomain { request.memo with proposedBy })
        (authorizationOf approval (approverOf user approvedBy)) now) correlation :=
  applyEscalation_named (withIdentities_approval proposedBy approvedBy h) hnamed

theorem answerApply_ne_approvalRequired (outcome : EscalationOutcome) :
    answerApply outcome correlation ≠ approvalRequired correlation := by
  cases outcome <;> exact nofun

theorem Authorises.domain {memo : MemoDto} (h : Authorises approval memo now) (approvedBy : Text) :
    EscalationGate.Authorised memo.toDomain (authorizationOf approval approvedBy) now :=
  ⟨h.1, h.2.1, h.2.2⟩

theorem not_authorised {approvedBy : Text} (h : ¬Authorises approval request.memo now) :
    ¬EscalationGate.Authorised request.memo.toDomain (authorizationOf approval approvedBy) now :=
  fun h' => h ⟨h'.alert, h'.correlation, h'.inTime⟩

theorem sameRuling_of_eq {proposedBy approvedBy : Text}
    (hsame : applyEscalation (some request) user correlation now =
      applyEscalation (some (request.withIdentities proposedBy approvedBy)) user correlation now) :
    SameRuling user request proposedBy approvedBy now := by
  cases h : request.approval with
  | none => exact .unapproved h
  | some approval =>
    cases hfirst : isNullOrWhiteSpace (some (approverOf user approval.approvedBy)) <;>
      cases hsecond : isNullOrWhiteSpace (some (approverOf user approvedBy))
    · by_cases hauthorises : Authorises approval request.memo now
      case neg => exact .unauthorised h hfirst hsecond hauthorises
      have hother : Authorises approval { request.memo with proposedBy } now := hauthorises
      rw [applyEscalation_named h hfirst, applyEscalation_withIdentities proposedBy h hsecond,
        EscalationGate.apply_of_authorised (hauthorises.domain _),
        EscalationGate.apply_of_authorised (hother.domain _)] at hsame
      split at hsame <;> split at hsame
      · rename_i hown hforeign
        simp only [answerApply, Result.mk.injEq, Body.notApplied.injEq] at hsame
        -- the refusal names the approver
        have happrover : approverOf user approval.approvedBy = approverOf user approvedBy :=
          List.append_cancel_left (List.append_cancel_right
            (List.append_cancel_right (List.append_cancel_right hsame.2.2.1)))
        exact .segregated h happrover (happrover ▸ hown) hforeign
      · simp [answerApply] at hsame
      · simp [answerApply] at hsame
      · simp only [answerApply, Result.mk.injEq, Body.applied.injEq, describeChange,
          ChangeDescription.mk.injEq] at hsame
        obtain ⟨_, ⟨_, _, _, _, happrover, hproposer, _⟩, _⟩ := hsame
        exact .repeated h happrover hproposer
    · rw [applyEscalation_named h hfirst,
        applyEscalation_unnamed (withIdentities_approval proposedBy approvedBy h) hsecond] at hsame
      exact absurd hsame (answerApply_ne_approvalRequired _)
    · rw [applyEscalation_unnamed h hfirst,
        applyEscalation_withIdentities proposedBy h hsecond] at hsame
      exact absurd hsame.symm (answerApply_ne_approvalRequired _)
    · exact .unnamed h hfirst hsecond

theorem eq_of_sameRuling {proposedBy approvedBy : Text}
    (h : SameRuling user request proposedBy approvedBy now) :
    applyEscalation (some request) user correlation now =
      applyEscalation (some (request.withIdentities proposedBy approvedBy)) user correlation now := by
  have hunnamed {approval : EscalationApprovalDto} (h : request.approval = some approval)
      (hfirst : isNullOrWhiteSpace (some (approverOf user approval.approvedBy)) = true)
      (hsecond : isNullOrWhiteSpace (some (approverOf user approvedBy)) = true) :
      applyEscalation (some request) user correlation now =
        applyEscalation (some (request.withIdentities proposedBy approvedBy)) user correlation now := by
    rw [applyEscalation_unnamed h hfirst,
      applyEscalation_unnamed (withIdentities_approval proposedBy approvedBy h) hsecond]
  have hunauthorised {approval : EscalationApprovalDto} (h : request.approval = some approval)
      (hfirst : isNullOrWhiteSpace (some (approverOf user approval.approvedBy)) = false)
      (hsecond : isNullOrWhiteSpace (some (approverOf user approvedBy)) = false)
      (hlapsed : ¬Authorises approval request.memo now) :
      applyEscalation (some request) user correlation now =
        applyEscalation (some (request.withIdentities proposedBy approvedBy)) user correlation now := by
    rw [applyEscalation_named h hfirst, applyEscalation_withIdentities proposedBy h hsecond]
    exact congrArg (answerApply · correlation) (EscalationGate.apply_identities_of_not_authorised
      (not_authorised hlapsed) proposedBy (approverOf user approvedBy)).symm
  cases h with
  | unapproved h => simp [applyEscalation, ApplyEscalationRequest.withIdentities, h]
  | unnamed h first second => exact hunnamed h first second
  | unauthorised h first second lapsed => exact hunauthorised h first second lapsed
  | @segregated approval h same first second =>
    cases hblank : isNullOrWhiteSpace (some (approverOf user approvedBy)) with
    | true => exact hunnamed h (same ▸ hblank) hblank
    | false =>
      by_cases hauthorises : Authorises approval request.memo now
      case neg => exact hunauthorised h (same ▸ hblank) hblank hauthorises
      have hother : Authorises approval { request.memo with proposedBy } now := hauthorises
      rw [applyEscalation_named h (same ▸ hblank), applyEscalation_withIdentities proposedBy h hblank,
        same, EscalationGate.apply_of_authorised (hauthorises.domain _),
        EscalationGate.apply_of_authorised (hother.domain _)]
      exact congrArg (answerApply · correlation) ((if_pos first).trans (if_pos second).symm)
  | @repeated approval h same proposer =>
    cases hblank : isNullOrWhiteSpace (some (approverOf user approvedBy)) with
    | true => exact hunnamed h (same ▸ hblank) hblank
    | false =>
      rw [applyEscalation_named h (same ▸ hblank), applyEscalation_withIdentities proposedBy h hblank,
        same, ← proposer]

theorem postDraft_proposedBy {draft : DraftEscalationRequest} {drafter : Option ClaimsPrincipal}
    {memo : MemoDescription} {shown : Text}
    (h : postDraft draft drafter correlation now = some ⟨201, .drafted memo shown⟩) :
    memo.proposedBy = (FcmrAuthorization.objectId drafter).getD anonymousCaller := by
  unfold postDraft filtered at h
  split at h
  · cases h
  simp only [draftEscalation] at h
  split at h
  · cases h
  obtain ⟨outcome, houtcome, hanswer⟩ := Option.map_eq_some_iff.mp h
  cases outcome with
  | refused reason explanation => cases hanswer
  | drafted drafted =>
    rw [EscalationGate.draft_drafted houtcome] at hanswer
    cases hanswer
    rfl

theorem opponent_eq {memo : MemoDescription} {drafter : Option ClaimsPrincipal}
    (hmemo : memo.proposedBy = (FcmrAuthorization.objectId drafter).getD anonymousCaller)
    (hsame : FcmrAuthorization.objectId drafter = FcmrAuthorization.objectId user) :
    opponent user memo approval = approverOf user approval.approvedBy := by
  unfold opponent approverOf
  rw [hsame] at hmemo
  cases hid : FcmrAuthorization.objectId user with
  | none => rfl
  | some identity => rw [hmemo, hid]; rfl

theorem refused_iff {memo : MemoDescription}
    (hopponent : ∀ approval, opponent user memo approval = approverOf user approval.approvedBy) :
    (∃ body, applyEscalation (some request) user correlation now = ⟨403, body⟩) ↔
      Refusable user memo request now := by
  cases h : request.approval with
  | none =>
    have hanswer : applyEscalation (some request) user correlation now =
        approvalRequired correlation := by
      simp [applyEscalation, h]
    exact ⟨fun _ => .unapproved h, fun _ => ⟨_, hanswer⟩⟩
  | some approval =>
    cases hblank : isNullOrWhiteSpace (some (approverOf user approval.approvedBy)) with
    | true => exact ⟨fun _ => .unnamed h hblank, fun _ => ⟨_, applyEscalation_unnamed h hblank⟩⟩
    | false =>
      rw [applyEscalation_named h hblank]
      by_cases hauthorises : Authorises approval request.memo now
      case neg =>
        obtain ⟨reason, explanation, hrefused⟩ :=
          EscalationGate.refused_of_not_authorised (not_authorised hauthorises)
        rw [hrefused]
        exact ⟨fun _ => .unauthorised h hauthorises, fun _ => ⟨_, rfl⟩⟩
      rw [EscalationGate.apply_of_authorised (hauthorises.domain _)]
      split
      · rename_i hsame
        exact ⟨fun _ => .recognised h (hopponent approval ▸ hsame), fun _ => ⟨_, rfl⟩⟩
      · rename_i hother
        constructor
        · rintro ⟨body, hbody⟩
          simp [answerApply] at hbody
        · intro hrefusable
          cases hrefusable with
          | unapproved h' => cases h.symm.trans h'
          | unnamed h' blank =>
            cases h.symm.trans h'
            exact absurd (hblank.symm.trans blank) Bool.false_ne_true
          | unauthorised h' lapsed =>
            cases h.symm.trans h'
            exact absurd hauthorises lapsed
          | recognised h' same =>
            cases h.symm.trans h'
            rw [hopponent] at same
            exact absurd same hother

/-- Exactly when the outcome does not depend on the identities in the body, and exactly
when somebody's own escalation is refused. -/
theorem segregated_iff {user : Option ClaimsPrincipal}
    (hreviewer : FcmrAuthorization.hasRole user SurveillanceRoles.reviewer = true) :
    (∀ request proposedBy approvedBy correlation now,
      postEscalation request user correlation now =
          postEscalation (request.withIdentities proposedBy approvedBy) user correlation now ↔
        SameRuling user request proposedBy approvedBy now) ∧
    ∀ draft drafter draftedUnder draftedAt memo shown,
      FcmrAuthorization.objectId drafter = FcmrAuthorization.objectId user →
      postDraft draft drafter draftedUnder draftedAt = some ⟨201, .drafted memo shown⟩ →
      ∀ request correlation now, request.memo.alertId = memo.alertId →
        request.memo.correlationId = memo.correlationId →
        (Refused (postEscalation request user correlation now) ↔
          Refusable user memo request now) := by
  have hpost (request : ApplyEscalationRequest) (correlation : CorrelationIdAccessor)
      (now : DateTimeOffset) : postEscalation request user correlation now =
        some (applyEscalation (some request) user correlation now) := by
    simp [postEscalation, filtered, requireAppRole_of_hasRole hreviewer]
  constructor
  · intro request proposedBy approvedBy correlation now
    rw [hpost, hpost, Option.some.injEq]
    exact ⟨sameRuling_of_eq, eq_of_sameRuling⟩
  · intro draft drafter draftedUnder draftedAt memo shown hsame hdraft request correlation now _ _
    rw [hpost]
    have hopponent (approval : EscalationApprovalDto) :
        opponent user memo approval = approverOf user approval.approvedBy :=
      opponent_eq (postDraft_proposedBy hdraft) hsame
    simp only [Refused, Option.some.injEq]
    exact refused_iff hopponent

end

namespace Samples

def alice : Option ClaimsPrincipal :=
  some ⟨true, [⟨lit "oid", lit "alice"⟩, ⟨lit "roles", SurveillanceRoles.analyst⟩,
    ⟨lit "roles", SurveillanceRoles.reviewer⟩]⟩

def header : CorrelationIdAccessor := ⟨lit "corr-1", .header⟩

def draftRequest : DraftEscalationRequest where
  queueRank := 1
  alert := ⟨lit "A-1", 0, lit "ACME", lit "T-7", lit "Layering", [], []⟩
  assessment := ⟨lit "A-1", .literal 91 0, lit "Layered orders.",
    [⟨.order, lit "O-1", lit "Cancelled."⟩]⟩

def applyRequest (proposedBy : Text) : ApplyEscalationRequest where
  memo := ⟨lit "A-1", lit "corr-1", 1, .literal 91 0, lit "ACME", lit "T-7", lit "Layering",
    lit "Layered orders.", [], proposedBy, 1000⟩
  approval := some ⟨lit "A-1", lit "corr-1", lit "bob", 1000, .ofUtc 5000, .escalated⟩

def isDrafted (alertId correlationId : Text) : Option Result → Bool
  | some ⟨201, .drafted memo _⟩ => memo.alertId == alertId && memo.correlationId == correlationId
  | _ => false

theorem draftRequest_drafted : ∃ memo shown,
    postDraft draftRequest alice header 1000 = some ⟨201, .drafted memo shown⟩ ∧
      memo.alertId = lit "A-1" ∧ memo.correlationId = lit "corr-1" := by
  have hdrafted : isDrafted (lit "A-1") (lit "corr-1") (postDraft draftRequest alice header 1000) =
      true := by
    decide +kernel
  unfold isDrafted at hdrafted
  split at hdrafted
  · rename_i memo shown hdraft
    simp only [Bool.and_eq_true, beq_iff_eq] at hdrafted
    exact ⟨memo, shown, hdraft, hdrafted⟩
  · cases hdrafted

/-- Alice applies her own escalation under another proposer. -/
theorem alice_unsegregated : ¬Segregated alice := by
  intro h
  obtain ⟨memo, shown, hdraft, halert, hcorrelation⟩ := draftRequest_drafted
  obtain ⟨body, hrefused⟩ := h.ownRefused draftRequest alice header 1000 memo shown rfl hdraft
    (applyRequest (lit "mallory")) header 2000 halert.symm hcorrelation.symm
  have happlied : postEscalation (applyRequest (lit "mallory")) alice header 2000 = some ⟨201, _⟩ :=
    rfl
  rw [happlied] at hrefused
  simp at hrefused

theorem alice_refused :
    Refused (postEscalation (applyRequest (lit "Alice")) alice header 2000) := by
  obtain ⟨memo, shown, hdraft, halert, hcorrelation⟩ := draftRequest_drafted
  have hreviewer : FcmrAuthorization.hasRole alice SurveillanceRoles.reviewer = true := by
    decide +kernel
  have hiff := (segregated_iff hreviewer).2 draftRequest alice header 1000 memo shown rfl hdraft
    (applyRequest (lit "Alice")) header 2000 halert.symm hcorrelation.symm
  apply hiff.mpr
  exact .recognised rfl (by rw [opponent_eq (postDraft_proposedBy hdraft) rfl]; rfl)

end Samples

end Fcmr.SurveillanceService
