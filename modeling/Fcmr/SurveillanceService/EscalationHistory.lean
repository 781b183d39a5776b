import Fcmr.SurveillanceService.Identity

/-! The changes that a whole sequence of submissions has applied. The handler decides each
from its own request, so that a history is as legal as the requests are. -/
namespace Fcmr.SurveillanceService

open DotNet ServiceDefaults Surveillance
open ApprovalsService (ClaimsPrincipal)

/-- One call of `ApplyEscalation`. -/
structure Submission where
  request : Option ApplyEscalationRequest
  user : Option ClaimsPrincipal
  correlation : CorrelationIdAccessor
  now : DateTimeOffset

def Submission.answer (submission : Submission) : Result :=
  applyEscalation submission.request submission.user submission.correlation submission.now

def Submission.approval (submission : Submission) : Option EscalationApprovalDto :=
  submission.request.bind (·.approval)

structure AppliedChange where
  change : ChangeDescription
  approval : EscalationApprovalDto

def Submission.applied (submission : Submission) : Option AppliedChange :=
  match submission.answer.body, submission.approval with
  | .applied change _, some approval => some ⟨change, approval⟩
  | _, _ => none

def history (submissions : List Submission) : List AppliedChange :=
  submissions.filterMap (·.applied)

def changesOf (history : List AppliedChange) (alertId : Text) : List ChangeDescription :=
  (history.map (·.change)).filter (·.alertId = alertId)

/-- An alert starts open, each change starts where the last one ended and leads elsewhere,
and no change follows one that escalates or dismisses. -/
structure LegalHistory (changes : List ChangeDescription) : Prop where
  first : ∀ change ∈ changes.head?, change.previousState = AlertState.opened.text
  chained : changes.IsChain fun change next => next.previousState = change.newState
  moves : ∀ change ∈ changes, change.newState ≠ change.previousState
  final : changes.Pairwise fun change _ =>
    change.newState ≠ AlertState.escalated.text ∧ change.newState ≠ AlertState.dismissed.text

structure Legal (history : List AppliedChange) : Prop where
  histories : ∀ alertId, LegalHistory (changesOf history alertId)
  singleUse : (history.map (·.approval)).Nodup

structure Passes (submission : Submission) (request : ApplyEscalationRequest)
    (approval : EscalationApprovalDto) : Prop where
  sent : submission.request = some request
  presented : request.approval = some approval
  named : isNullOrWhiteSpace (some (approverOf submission.user approval.approvedBy)) = false
  authorises : Authorises approval request.memo submission.now
  segregated : equalsOrdinalIgnoreCase (some request.memo.proposedBy)
    (some (approverOf submission.user approval.approvedBy)) = false

/-- Of the submissions that pass, no two are for one alert and none would leave it open. -/
structure OncePerAlert (submissions : List Submission) : Prop where
  closing : ∀ submission ∈ submissions, ∀ request approval,
    Passes submission request approval → approval.authorisedState ≠ .opened
  once : submissions.Pairwise fun submission submission' =>
    ∀ request approval request' approval', Passes submission request approval →
      Passes submission' request' approval' → approval.alertId ≠ approval'.alertId

def changeFor (submission : Submission) (request : ApplyEscalationRequest)
    (approval : EscalationApprovalDto) : ChangeDescription :=
  describeChange (EscalationGate.change request.memo.toDomain
    (authorizationOf approval (approverOf submission.user approval.approvedBy)) submission.now)

theorem applied_of_passes {submission : Submission} {request : ApplyEscalationRequest}
    {approval : EscalationApprovalDto} (h : Passes submission request approval) :
    submission.applied = some ⟨changeFor submission request approval, approval⟩ := by
  have hauthorised : EscalationGate.Authorised request.memo.toDomain
      (authorizationOf approval (approverOf submission.user approval.approvedBy)) submission.now :=
    ⟨h.authorises.1, h.authorises.2.1, h.authorises.2.2⟩
  have hsegregated : ¬equalsOrdinalIgnoreCase (some request.memo.toDomain.proposedBy) (some
      (authorizationOf approval (approverOf submission.user approval.approvedBy)).approvedBy) :=
    Bool.eq_false_iff.mp h.segregated
  unfold Submission.applied Submission.answer Submission.approval
  rw [h.sent, applyEscalation_named h.presented h.named,
    EscalationGate.apply_of_authorised hauthorised, if_neg hsegregated, Option.bind_some, h.presented]
  rfl

theorem passes_of_applied {submission : Submission} {applied : AppliedChange}
    (h : submission.applied = some applied) : ∃ request approval,
      Passes submission request approval ∧
        applied = ⟨changeFor submission request approval, approval⟩ := by
  have happlied := h
  unfold Submission.applied at h
  split at h
  case h_2 => cases h
  rename_i change shown approval hbody happroval
  cases h
  obtain ⟨request, hrequest, hpresented⟩ := Option.bind_eq_some_iff.mp happroval
  unfold Submission.answer at hbody
  rw [hrequest] at hbody
  have hnamed : isNullOrWhiteSpace
      (some (approverOf submission.user approval.approvedBy)) = false := by
    by_contra hblank
    rw [applyEscalation_unnamed hpresented (Bool.eq_true_of_not_eq_false hblank)] at hbody
    cases hbody
  rw [applyEscalation_named hpresented hnamed] at hbody
  have hauthorised : EscalationGate.Authorised request.memo.toDomain
      (authorizationOf approval (approverOf submission.user approval.approvedBy))
      submission.now := by
    by_contra hlapsed
    obtain ⟨reason, explanation, hrefused⟩ := EscalationGate.refused_of_not_authorised hlapsed
    rw [hrefused] at hbody
    cases hbody
  rw [EscalationGate.apply_of_authorised hauthorised] at hbody
  split at hbody
  · cases hbody
  rename_i hsegregated
  have hpasses : Passes submission request approval := {
    sent := hrequest
    presented := hpresented
    named := hnamed
    authorises := ⟨hauthorised.alert, hauthorised.correlation, hauthorised.inTime⟩
    segregated := Bool.eq_false_iff.mpr hsegregated }
  rw [applied_of_passes hpasses] at happlied
  exact ⟨request, approval, hpasses, (Option.some.inj happlied).symm⟩

structure Stateless (applied : AppliedChange) : Prop where
  alert : applied.change.alertId = applied.approval.alertId
  previous : applied.change.previousState = AlertState.opened.text
  new : applied.change.newState = applied.approval.authorisedState.text

theorem history_stateless {submissions : List Submission} {applied : AppliedChange}
    (h : applied ∈ history submissions) : Stateless applied := by
  obtain ⟨submission, _, happlied⟩ := List.mem_filterMap.mp h
  obtain ⟨request, approval, hpasses, rfl⟩ := passes_of_applied happlied
  exact ⟨hpasses.authorises.1, rfl, rfl⟩

theorem text_injective : Function.Injective AlertState.text := by
  intro state state' h
  cases state <;> cases state' <;> first | rfl | exact absurd h (by decide)

theorem oncePerAlert_iff (submissions : List Submission) :
    OncePerAlert submissions ↔
      (∀ applied ∈ history submissions, applied.approval.authorisedState ≠ .opened) ∧
        (history submissions).Pairwise fun applied applied' =>
          applied.approval.alertId ≠ applied'.approval.alertId := by
  unfold history
  rw [List.pairwise_filterMap]
  constructor
  · intro h
    constructor
    · intro applied happlied
      obtain ⟨submission, hsubmission, happlied⟩ := List.mem_filterMap.mp happlied
      obtain ⟨request, approval, hpasses, rfl⟩ := passes_of_applied happlied
      exact h.closing submission hsubmission request approval hpasses
    · apply h.once.imp
      intro submission submission' honce applied happlied applied' happlied'
      obtain ⟨request, approval, hpasses, rfl⟩ := passes_of_applied happlied
      obtain ⟨request', approval', hpasses', rfl⟩ := passes_of_applied happlied'
      exact honce request approval request' approval' hpasses hpasses'
  · rintro ⟨hclosing, honce⟩
    constructor
    · intro submission hsubmission request approval hpasses
      exact hclosing _ (List.mem_filterMap.mpr ⟨submission, hsubmission, applied_of_passes hpasses⟩)
    · apply honce.imp
      intro submission submission' honce request approval request' approval' hpasses hpasses'
      exact honce _ (applied_of_passes hpasses) _ (applied_of_passes hpasses')

theorem alone_of_legal {changes : List ChangeDescription} (h : LegalHistory changes)
    (stateless : ∀ change ∈ changes, change.previousState = AlertState.opened.text ∧
      ∃ state : AlertState, change.newState = state.text) :
    changes.Pairwise fun _ _ => False := by
  apply h.final.imp_of_mem
  intro change _ hchange _ hopen
  obtain ⟨hprevious, state, hnew⟩ := stateless change hchange
  have hmoves := h.moves change hchange
  rw [hprevious, hnew] at hmoves
  rw [hnew] at hopen
  cases state with
  | opened => exact hmoves rfl
  | escalated => exact hopen.1 rfl
  | dismissed => exact hopen.2 rfl

theorem legal_of_alone {changes : List ChangeDescription}
    (alone : changes.Pairwise fun _ _ => False)
    (stateless : ∀ change ∈ changes, change.previousState = AlertState.opened.text ∧
      change.newState ≠ AlertState.opened.text) : LegalHistory changes := by
  match changes, alone with
  | [], _ => exact ⟨nofun, .nil, nofun, .nil⟩
  | [change], _ =>
    have hchange := stateless change (List.mem_singleton_self change)
    refine ⟨?_, .singleton change, ?_, List.pairwise_singleton ..⟩
    · rintro _ ⟨⟩
      exact hchange.1
    · intro change' hmem
      rw [List.mem_singleton.mp hmem, hchange.1]
      exact hchange.2
  | change :: next :: _, alone => exact ((List.pairwise_cons.mp alone).1 next (by simp)).elim

theorem mem_changesOf {history : List AppliedChange} {alertId : Text} {change : ChangeDescription} :
    change ∈ changesOf history alertId ↔
      ∃ applied ∈ history, applied.change = change ∧ change.alertId = alertId := by
  simp only [changesOf, List.mem_filter, List.mem_map, decide_eq_true_eq, ← exists_and_right,
    and_assoc]

theorem changesOf_alone {history : List AppliedChange} :
    (∀ alertId, (changesOf history alertId).Pairwise fun _ _ => False) ↔
      history.Pairwise fun applied applied' => applied.change.alertId ≠ applied'.change.alertId := by
  unfold changesOf
  simp only [List.pairwise_filter, List.pairwise_map, decide_eq_true_eq]
  constructor
  · intro h
    apply List.pairwise_iff_forall_sublist.mpr
    intro applied applied' hsub hsame
    exact List.pairwise_iff_forall_sublist.mp (h applied.change.alertId) hsub rfl hsame.symm
  · intro h alertId
    apply h.imp
    intro applied applied' hne hid hid'
    exact hne (hid.trans hid'.symm)

theorem changesOf_stateless {submissions : List Submission} {alertId : Text}
    {change : ChangeDescription} (h : change ∈ changesOf (history submissions) alertId) :
    ∃ applied ∈ history submissions, change.previousState = AlertState.opened.text ∧
      change.newState = applied.approval.authorisedState.text := by
  obtain ⟨applied, happlied, rfl, _⟩ := mem_changesOf.mp h
  have hstateless := history_stateless happlied
  exact ⟨applied, happlied, hstateless.previous, hstateless.new⟩

theorem distinct_alerts_iff (submissions : List Submission) :
    ((history submissions).Pairwise fun applied applied' =>
      applied.change.alertId ≠ applied'.change.alertId) ↔
    (history submissions).Pairwise fun applied applied' =>
      applied.approval.alertId ≠ applied'.approval.alertId := by
  apply List.Pairwise.iff_of_mem
  intro applied applied' happlied happlied'
  rw [(history_stateless happlied).alert, (history_stateless happlied').alert]

/-- The history is legal exactly when the submissions that pass are for different alerts
and none authorises the open state. -/
theorem history_legal_iff (submissions : List Submission) :
    Legal (history submissions) ↔ OncePerAlert submissions := by
  rw [oncePerAlert_iff, ← distinct_alerts_iff, ← changesOf_alone]
  constructor
  · intro h
    constructor
    · intro applied happlied hopen
      have hstateless := history_stateless happlied
      have hchange := mem_changesOf.mpr ⟨applied, happlied, rfl, rfl⟩
      apply (h.histories applied.change.alertId).moves _ hchange
      rw [hstateless.new, hstateless.previous, hopen]
    · intro alertId
      apply alone_of_legal (h.histories alertId)
      intro change hchange
      obtain ⟨applied, _, hprevious, hnew⟩ := changesOf_stateless hchange
      exact ⟨hprevious, _, hnew⟩
  · rintro ⟨hclosing, halone⟩
    constructor
    · intro alertId
      apply legal_of_alone (halone alertId)
      intro change hchange
      obtain ⟨applied, happlied, hprevious, hnew⟩ := changesOf_stateless hchange
      refine ⟨hprevious, ?_⟩
      rw [hnew]
      exact text_injective.ne (hclosing applied happlied)
    · rw [changesOf_alone, distinct_alerts_iff] at halone
      apply List.pairwise_map.mpr
      apply halone.imp
      intro applied applied' hne hsame
      exact hne (congrArg (·.alertId) hsame)

namespace Samples

def replayed : Submission where
  request := some (applyRequest (lit "mallory"))
  user := alice
  correlation := header
  now := 2000

theorem replayed_passes :
    ∃ request approval, Passes replayed request approval ∧ approval.alertId = lit "A-1" :=
  ⟨_, _, ⟨rfl, rfl, by decide +kernel, ⟨rfl, rfl, by decide⟩, by decide +kernel⟩, rfl⟩

/-- Both are applied, each to an open alert. -/
theorem replay_illegal : ¬Legal (history [replayed, replayed]) := by
  intro h
  obtain ⟨request, approval, hpasses, _⟩ := replayed_passes
  have hhistory : history [replayed, replayed] =
      [⟨changeFor replayed request approval, approval⟩,
        ⟨changeFor replayed request approval, approval⟩] := by
    simp [history, applied_of_passes hpasses]
  have hnodup := h.singleUse
  rw [hhistory] at hnodup
  simp at hnodup

end Samples

end Fcmr.SurveillanceService
