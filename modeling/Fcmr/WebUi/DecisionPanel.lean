import Fcmr.ApprovalsService.ServiceRuns
import Fcmr.WebUi.ApprovalRules
import Fcmr.WebUi.OrderRoutingRoute

/-! A decision that is made on the page of a proposal: the controls of the panel, the body that
a click sends, and what the service makes of it. -/
namespace Fcmr.WebUi

open DotNet Approvals ApprovalsService ApprovalStateMachine Programs ApprovalsAuthorization

inductive Control
  | approve
  | reject

def Control.decision : Control → Text
  | approve => lit "Approved"
  | reject => lit "Rejected"

def Control.targetState : Control → TargetState
  | approve => .approved
  | reject => .rejected

/-- Whether `DecisionPanel` has the control to be clicked. It does not ask whether there is an
evidence packet on the page. -/
def Control.enabled (control : Control) (approval : ApprovalResponse) (context : ApprovalContext)
    (clock : Date) (submitting : Bool) (reason : Text) : Bool :=
  let blocked := (evaluateApproval approval context clock).isSome
  let rejectionNeedsReason := (jsTrim reason).isEmpty
  match control with
  | approve => !(blocked || submitting)
  | reject => !(blocked || submitting || rejectionNeedsReason)

/-- The body that `onDecide` sends. -/
def decisionValue (control : Control) (reason : Text) : Value :=
  .object <| ("decision", .string control.decision) ::
    if (jsTrim reason).isEmpty then [] else [("reason", .string (jsTrim reason))]

/-- A nullable member of a body; anything but a string is refused. -/
def readNullable : Value → Option (Option Text)
  | .undefined | .null => some none
  | .string text => some (some text)
  | _ => none

def readDecisionRequest : Value → Option DecisionRequest
  | .object members => do
    let decision ← readNullable ((members.lookup "decision").getD .undefined)
    let reason ← readNullable ((members.lookup "reason").getD .undefined)
    let extra := members.filter fun member => member.1 != "decision" && member.1 != "reason"
    return {
      decision
      reason
      extra := if extra.isEmpty then none else some (extra.map fun member => lit member.1) }
  | _ => none

def sentReason (reason : Text) : Option Text :=
  if (jsTrim reason).isEmpty then none else some (jsTrim reason)

theorem readDecisionRequest_sent (control : Control) (reason : Text) :
    readDecisionRequest (decisionValue control reason) =
      some ⟨some control.decision, sentReason reason, none⟩ := by
  unfold decisionValue sentReason
  split
  · rfl
  · rfl

/-- The command that a click comes to. -/
def Control.command (control : Control) (objectId : Text) (reason : Text) : ApprovalCommand :=
  match control with
  | approve => .approve objectId (sentReason reason) none
  | reject => .reject objectId ((sentReason reason).getD []) none

theorem requestedCommand_sent (control : Control) (objectId reason : Text) :
    requestedCommand (some ⟨some control.decision, sentReason reason, none⟩) objectId =
      some (control.command objectId reason) := by
  cases control with
  | approve =>
    have hrejected : equalsOrdinalIgnoreCase (some (lit "Approved")) (some (lit "Rejected")) = false := by
      decide
    simp [requestedCommand, Control.decision, hrejected, Control.command]
  | reject => simp [requestedCommand, Control.decision, Control.command]

def Control.asks (control : Control) (objectId : Text) (reason : Text) : Decision where
  decidedBy := objectId
  reason :=
    match control with
    | approve => sentReason reason
    | reject => some ((sentReason reason).getD [])
  acknowledgedHash := none
  targetState := control.targetState

theorem command_decision (control : Control) (objectId reason : Text) :
    (control.command objectId reason).decision = some (control.asks objectId reason) := by
  cases control <;> rfl

theorem asks_reason (control : Control) (objectId reason : Text) :
    isNullOrWhiteSpace (control.asks objectId reason).reason =
      isNullOrWhiteSpace (some (jsTrim reason)) ∧
    trimmedReason (control.asks objectId reason) =
      if isNullOrWhiteSpace (some (jsTrim reason)) then none else some (jsTrim reason) := by
  unfold trimmedReason
  by_cases hblank : jsTrim reason = []
  · cases control <;> simp [Control.asks, sentReason, hblank, isNullOrWhiteSpace]
  · cases control <;> simp [Control.asks, sentReason, hblank]

theorem next_line_of_blank {reason : Text} (hnonempty : jsTrim reason ≠ [])
    (hblank : isNullOrWhiteSpace (some (jsTrim reason)) = true) :
    (jsTrim reason).head? = some 0x85 := by
  obtain ⟨c, rest, htrim⟩ := List.exists_cons_of_ne_nil hnonempty
  have hwhite : isWhiteSpace c = true := by
    rw [htrim] at hblank
    exact List.all_eq_true.mp hblank c List.mem_cons_self
  have hkept : isJsWhiteSpace c = false := by
    obtain ⟨dropped, hdropped⟩ := List.rdropWhile_prefix isJsWhiteSpace
      (l := reason.dropWhile isJsWhiteSpace)
    have hfirst := List.head?_dropWhile_not isJsWhiteSpace reason
    rw [← hdropped, show (reason.dropWhile isJsWhiteSpace).rdropWhile isJsWhiteSpace = c :: rest
      from htrim] at hfirst
    exact hfirst
  have hnext : c ≠ 0xFEFF ∧ c = 0x85 := by
    simpa [isJsWhiteSpace, hwhite] using hkept
  rw [htrim, hnext.2, List.head?_cons]

structure Recordable [RoundTripFormat] (approval : Approval) (control : Control) (objectId : Text)
    (reason : Text) (checked now : DateTimeOffset) : Prop where
  unexpired : checked < approval.expiresAt
  inTime : now < approval.expiresAt
  segregated : isSameIdentity objectId approval.proposedByObjectId = false
  reasoned : control = .reject → isNullOrWhiteSpace (some (jsTrim reason)) = false
  intact : approval.verifyEvidenceIntegrity = true

section

variable [RoundTripFormat] {approval : Approval} {control : Control} {objectId reason : Text}
  {checked now : DateTimeOffset}

theorem Recordable.allowed (h : Recordable approval control objectId reason checked now)
    (hnamed : isNullOrWhiteSpace (some objectId) = false) :
    DecisionAllowed approval (control.asks objectId reason) now where
  identity := hnamed
  inTime := h.inTime
  segregated := h.segregated
  reasoned htarget := by
    rw [(asks_reason control objectId reason).1]
    refine h.reasoned ?_
    cases control with
    | approve => cases htarget
    | reject => rfl
  intact := h.intact
  acknowledged := by
    intro hash hhash
    cases hhash

theorem recordable_of_allowed (hchecked : checked < approval.expiresAt)
    (h : DecisionAllowed approval (control.asks objectId reason) now) :
    Recordable approval control objectId reason checked now where
  unexpired := hchecked
  inTime := h.inTime
  segregated := h.segregated
  reasoned hreject := by
    rw [← (asks_reason control objectId reason).1]
    refine h.reasoned ?_
    rw [hreject]
    rfl
  intact := h.intact

theorem eval_command (control : Control) (objectId reason : Text) (store : InMemoryApprovalStore)
    (hpending : approval.state = .pendingApproval) (correlation : Option Text)
    (moments : Nat → Moment) :
    let handled := eval serve
      (recordDecision approval (control.command objectId reason) correlation) moments store
    (handled.1.statusCode = 200 ↔
      DecisionAllowed approval (control.asks objectId reason) (moments 0).now) ∧
    (handled.1.statusCode = 200 → ∃ next, handled.2.getAsync approval.id = some next ∧
      next.state = control.targetState.state ∧ next.decidedByObjectId = some objectId ∧
      next.decisionReason = trimmedReason (control.asks objectId reason)) := by
  intro handled
  obtain ⟨hstatus, hstore⟩ := eval_recordDecision approval (control.command objectId reason)
    correlation moments store
  have hdecision := command_decision control objectId reason
  cases houtcome : apply approval (control.command objectId reason) (moments 0).now with
  | refused refusal event =>
    rw [houtcome] at hstatus
    have hfailed : handled.1.statusCode ≠ 200 := by
      rw [hstatus]
      exact statusFor_ne_ok _
    refine ⟨iff_of_false hfailed fun hallowed => ?_, fun hok => absurd hok hfailed⟩
    cases houtcome.symm.trans (apply_allowed hpending hdecision hallowed)
  | accepted next event =>
    rw [houtcome] at hstatus hstore
    obtain ⟨_, ⟨hexpire, _⟩ | ⟨decision, hallowed, hcommand, hnext, _⟩⟩ := accepted_cases houtcome
    · rw [hexpire] at hdecision
      cases hdecision
    cases hdecision.symm.trans hcommand
    refine ⟨iff_of_true hstatus hallowed, fun _ => ⟨next, ?_, ?_⟩⟩
    · have hkept : approval.id = next.id := by
        rw [hnext]
        rfl
      rw [hstore, InMemoryApprovalStore.getAsync_updateAsync, if_pos hkept]
    · rw [hnext]
      exact ⟨rfl, rfl, rfl⟩

end

theorem pending_of_offered {approval : ApprovalResponse} {context : ApprovalContext} {clock : Date}
    (h : evaluateApproval approval context clock = none) : approval.state = .pendingApproval := by
  unfold evaluateApproval at h
  dsimp only at h
  split at h
  · cases h
  split at h
  · cases h
  · cases h
  split at h
  · cases h
  rename_i hpending
  exact not_not.mp hpending

theorem offered_of_enabled {control : Control} {approval : ApprovalResponse}
    {context : ApprovalContext} {clock : Date} {submitting : Bool} {reason : Text}
    (h : control.enabled approval context clock submitting reason = true) :
    evaluateApproval approval context clock = none ∧ (control = .reject → jsTrim reason ≠ []) := by
  cases control with
  | approve =>
    have hopen : evaluateApproval approval context clock = none ∧ submitting = false := by
      simpa [Control.enabled] using h
    exact ⟨hopen.1, nofun⟩
  | reject =>
    have hopen : (evaluateApproval approval context clock = none ∧ submitting = false) ∧
        jsTrim reason ≠ [] := by
      simpa [Control.enabled] using h
    exact ⟨hopen.1.1, fun _ => hopen.2⟩

namespace Samples

open Approvals.Samples

def storeOfAlice : InMemoryApprovalStore := .updateAsync .empty proposalOfAlice

def approverBob : Option ClaimsPrincipal :=
  some ⟨true, [⟨lit "oid", lit "bob"⟩, ⟨lit "roles", ApprovalRoles.approver⟩]⟩

def answerTo (request : DecisionRequest) : ApprovalsService.Result :=
  let inbound : Inbound := ⟨.decide (lit "a-1") (some request) approverBob none, none⟩
  (eval serve (inbound.invokeAsync false) (fun _ => ⟨1000, []⟩) storeOfAlice).1

end Samples

end Fcmr.WebUi
