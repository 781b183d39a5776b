import Fcmr.ApprovalsService.ServiceRuns
import Fcmr.WebUi.ForwardedApprovals

/-! What an approver is told when a decision fails, beside what the approvals service has
written for the request. -/
namespace Fcmr.WebUi

open DotNet Approvals ApprovalStateMachine ApprovalsService Programs ApiClient
open ApprovalsService.ApprovalsAuthorization

def nothingRecorded : Value :=
  .string (lit " The service refused the decision; nothing was recorded.")

def neverExecutes : Value :=
  .string (lit " The proposal expired before a decision reached the service, so it " ++
    lit "will never execute.")

def roleMissing : Value :=
  .string (lit "Your token does not carry the Approver app role, so the service refused the " ++
    lit "decision.")

def describeDecisionFailure : Failure → List Value
  | .other => [.string (lit "The decision could not be recorded.")]
  | .error message => [message]
  | .api status message =>
    if status = 409 then [message, nothingRecorded]
    else if status = 410 then [message, neverExecutes]
    else if status = 403 then [roleMissing]
    else [message, .string (lit " (HTTP "), .number status, .string (lit ")")]

theorem neverExecutes_ne : neverExecutes ≠ nothingRecorded := by
  have htexts : lit " The proposal expired before a decision reached the service, so it " ++
      lit "will never execute." ≠
        lit " The service refused the decision; nothing was recorded." := by decide +kernel
  exact fun h => htexts (Value.string.inj h)

theorem describe_endings (status : Nat) (message : Value) :
    ((∃ detail, describeDecisionFailure (.api status message) = [detail, nothingRecorded]) ↔
        status = 409) ∧
      ((∃ detail, describeDecisionFailure (.api status message) = [detail, neverExecutes]) ↔
        status = 410) ∧
      (describeDecisionFailure (.api status message) = [roleMissing] ↔ status = 403) := by
  have hne := neverExecutes_ne
  unfold describeDecisionFailure
  dsimp only
  split
  · rename_i hconflict
    simp [hconflict, hne.symm]
  split
  · rename_i hgone
    simp [hgone, hne]
  split
  · rename_i hforbidden
    simp [hforbidden]
  · rename_i hconflict hgone hforbidden
    simp [hconflict, hgone, hforbidden]

theorem statusFor_cases (kind : ApprovalRefusalKind) :
    statusFor kind = 409 ∨ statusFor kind = 410 ∨ statusFor kind = 400 := by
  cases kind <;> decide

/-- The bodies of the approvals service, the packet and the action of an approval as they come. -/
def approvalsBodyValue (evidencePacket proposedAction : Value) : ApprovalsService.Body → Value
  | .error response => .object [
      ("error", .string response.error),
      ("detail", .string response.detail),
      ("correlationId", .string response.correlationId)]
  | .approval record => approvalValue record evidencePacket proposedAction

/-- The writes among the calls of a request. -/
def writes (calls : Calls) : List ApprovalsService.Op :=
  (calls.map (·.op)).filter (·.isWrite)

section

variable [RoundTripFormat]

inductive Ended (user : Option ClaimsPrincipal) :
    List ApprovalsService.Op → ApprovalsService.Result → Prop
  | turnedAway {status : Nat} (h : status = 400 ∨ status = 404) (correlation : Option Text)
      (code detail : Text) : Ended user [] (error correlation status code detail)
  | forbidden (h : objectId user = none ∨ hasRole user ApprovalRoles.approver = false)
      (correlation : Option Text) (code detail : Text) :
      Ended user [] (error correlation 403 code detail)
  | expired {approval next : Approval} {now : DateTimeOffset} {event : ApprovalAuditEvent}
      (outcome : apply approval .expire now = .accepted next event) (correlation : Option Text)
      (code detail : Text) :
      Ended user [.updateAsync next, .appendAuditAsync event] (error correlation 410 code detail)
  | unexpired {approval : Approval} {now : DateTimeOffset} {refusal : ApprovalRefusal}
      {event : ApprovalAuditEvent} (outcome : apply approval .expire now = .refused refusal event)
      (correlation : Option Text) (code detail : Text) :
      Ended user [.appendAuditAsync event] (error correlation 410 code detail)
  | refused {approval : Approval} {command : ApprovalCommand} {now : DateTimeOffset}
      {refusal : ApprovalRefusal} {event : ApprovalAuditEvent}
      (actor : command.actorObjectId = objectId user)
      (outcome : apply approval command now = .refused refusal event) (correlation : Option Text) :
      Ended user [.appendAuditAsync event]
        (error correlation (statusFor refusal.kind) refusal.kind.text refusal.reason)
  | decided {approval next : Approval} {command : ApprovalCommand} {decision : Decision}
      {now : DateTimeOffset} {event : ApprovalAuditEvent}
      (human : command.decision = some decision) (actor : objectId user = some decision.decidedBy)
      (outcome : apply approval command now = .accepted next event) :
      Ended user [.appendAuditAsync event, .updateAsync next] ⟨200, .approval (.from next false)⟩

variable {calls : Calls} {result : ApprovalsService.Result} {user : Option ClaimsPrincipal}
  {correlation : Option Text}

theorem ended_recordExpiry {approval : Approval}
    (h : Trace (recordExpiry approval correlation) calls (.done result)) :
    Ended user (writes calls) result := by
  rcases h.of_call with ⟨_, hdone⟩ | ⟨now, later, rfl, hresult⟩
  · cases hdone
  dsimp only [Program.bind] at hresult
  cases houtcome : apply approval .expire now with
  | refused refusal event =>
    rw [houtcome] at hresult
    rcases hresult.of_call with ⟨_, hdone⟩ | ⟨_, later, rfl, hdone⟩
    · cases hdone
    · obtain ⟨rfl, hdone⟩ := hdone.of_done
      cases hdone
      exact .unexpired houtcome _ _ _
  | accepted next event =>
    rw [houtcome] at hresult
    rcases hresult.of_call with ⟨_, hdone⟩ | ⟨_, later, rfl, htell⟩
    · cases hdone
    rcases htell.of_call with ⟨_, hdone⟩ | ⟨_, later, rfl, hdone⟩
    · cases hdone
    · obtain ⟨rfl, hdone⟩ := hdone.of_done
      cases hdone
      exact .expired houtcome _ _ _

theorem ended_recordDecision {approval : Approval} {command : ApprovalCommand}
    {decision : Decision} (hhuman : command.decision = some decision)
    (hidentity : objectId user = some decision.decidedBy)
    (h : Trace (recordDecision approval command correlation) calls (.done result)) :
    Ended user (writes calls) result := by
  have hactor : command.actorObjectId = objectId user := by
    rw [hidentity]
    cases command <;> cases hhuman <;> rfl
  rcases h.of_call with ⟨_, hdone⟩ | ⟨now, later, rfl, htell⟩
  · cases hdone
  rcases htell.of_call with ⟨_, hdone⟩ | ⟨_, later, rfl, hresult⟩
  · cases hdone
  dsimp only [Program.bind] at hresult
  cases houtcome : apply approval command now with
  | refused refusal event =>
    rw [houtcome] at hresult
    obtain ⟨rfl, hdone⟩ := hresult.of_done
    cases hdone
    simpa only [houtcome] using .refused hactor houtcome _
  | accepted next event =>
    rw [houtcome] at hresult
    rcases hresult.of_call with ⟨_, hdone⟩ | ⟨_, later, rfl, hdone⟩
    · cases hdone
    · obtain ⟨rfl, hdone⟩ := hdone.of_done
      cases hdone
      simpa only [houtcome] using .decided hhuman hidentity houtcome

theorem ended_decideAsync {id : Text} {request : Option DecisionRequest}
    (h : Trace (decideAsync id request user correlation) calls (.done result)) :
    Ended user (writes calls) result := by
  unfold decideAsync at h
  simp only [perform_bind] at h
  rcases h.of_call with ⟨_, hdone⟩ | ⟨found, later, rfl, hread⟩
  · cases hdone
  cases found with
  | none =>
    obtain ⟨rfl, hdone⟩ := hread.of_done
    cases hdone
    exact .turnedAway (.inr rfl) _ _ _
  | some approval =>
  dsimp only at hread
  split at hread
  · obtain ⟨rfl, hdone⟩ := hread.of_done
    cases hdone
    exact .turnedAway (.inl rfl) _ _ _
  split at hread
  · rename_i hnobody
    obtain ⟨rfl, hdone⟩ := hread.of_done
    cases hdone
    refine .forbidden (.inl ?_) _ _ _
    cases hidentity : objectId user with
    | none => rfl
    | some value => cases hnobody.symm.trans (objectId_filter hidentity)
  rename_i decidedBy hdecider
  have hdecider : objectId user = some decidedBy := (Option.filter_eq_some_iff.mp hdecider).1
  rcases hread.of_call with ⟨_, hdone⟩ | ⟨now, later, rfl, hserved⟩
  · cases hdone
  change Ended user (writes later) result
  split at hserved
  · exact ended_recordExpiry hserved
  split at hserved
  · obtain ⟨rfl, hdone⟩ := hserved.of_done
    cases hdone
    exact .turnedAway (.inl rfl) _ _ _
  · rename_i command hcommand
    obtain ⟨decision, hdecision, hby, _⟩ := requestedCommand_decision hcommand
    exact ended_recordDecision hdecision (hby ▸ hdecider) hserved

theorem ended_invokeAsync {inbound : Inbound} {isDevelopment : Bool} {id : Text}
    {request : Option DecisionRequest} (hrequest : inbound.request = .decide id request user correlation)
    (h : Trace (inbound.invokeAsync isDevelopment) calls (.done result)) :
    Ended user (writes calls) result := by
  have hdecide : inbound.request.handler = decideAsync id request user correlation := by
    rw [hrequest]
    rfl
  have huser : inbound.request.user = user := by rw [hrequest]; rfl
  unfold Inbound.invokeAsync at h
  split at h
  · exact ended_decideAsync (hdecide ▸ h)
  split at h
  · exact ended_decideAsync (hdecide ▸ h)
  · rename_i hlacking
    obtain ⟨rfl, hdone⟩ := h.of_done
    cases hdone
    refine .forbidden (.inr ?_) _ _ _
    rw [hrequest] at hlacking
    exact Bool.eq_false_of_not_eq_true hlacking

/-- What the page says of a failure, and what has been written. -/
structure Told (user : Option ClaimsPrincipal) (written : List ApprovalsService.Op) (status : Nat)
    (sentence : List Value) : Prop where
  unrecorded : (∃ detail, sentence = [detail, nothingRecorded]) ↔ status = 409
  recorded : status = 409 → ∃ event, written = [.appendAuditAsync event] ∧
    event.eventType = .approvalRefused ∧ event.actorObjectId = objectId user
  expired : (∃ detail, sentence = [detail, neverExecutes]) ↔ status = 410
  gone : status = 410 → ∀ next, .updateAsync next ∈ written → next.state = .expired
  missing : sentence = [roleMissing] ↔ status = 403
  forbidden : status = 403 → written = [] ∧
    (objectId user = none ∨ hasRole user ApprovalRoles.approver = false)

structure Taken (user : Option ClaimsPrincipal) (written : List ApprovalsService.Op)
    (result : ApprovalsService.Result) (next : Approval) : Prop where
  written : ∃ event, written = [.appendAuditAsync event, .updateAsync next]
  state : next.state = .approved ∨ next.state = .rejected
  decider : next.decidedByObjectId.isSome ∧ next.decidedByObjectId = objectId user
  answered : result = ⟨200, .approval (.from next false)⟩

theorem taken_of_ended {written : List ApprovalsService.Op} (h : Ended user written result)
    (hstatus : result.statusCode = 200) : ∃ next, Taken user written result next := by
  cases h with
  | turnedAway hother => rcases hother with rfl | rfl <;> cases hstatus
  | forbidden | expired | unexpired => cases hstatus
  | @refused _ _ _ refusal =>
    rcases statusFor_cases refusal.kind with hkind | hkind | hkind <;>
      cases hkind.symm.trans hstatus
  | @decided approval next command decision now event human actor outcome =>
    refine ⟨next, ⟨event, rfl⟩, ?_, ?_, rfl⟩
    all_goals
      obtain ⟨_, ⟨rfl, _⟩ | ⟨decision', allowed, hdecision, rfl, _⟩⟩ := accepted_cases outcome
      · cases human
      cases human.symm.trans hdecision
    · rw [show (decided approval decision now allowed).state = decision.targetState.state from rfl]
      cases decision.targetState with
      | approved => exact .inl rfl
      | rejected => exact .inr rfl
    · exact ⟨rfl, actor.symm⟩

theorem state_of_expired {approval next : Approval} {now : DateTimeOffset}
    {event : ApprovalAuditEvent} (h : apply approval .expire now = .accepted next event) :
    next.state = .expired := by
  obtain ⟨_, ⟨_, _, rfl, _⟩ | ⟨decision, _, hdecision, _⟩⟩ := accepted_cases h
  · rfl
  · cases hdecision

theorem told_of_ended {written : List ApprovalsService.Op} (h : Ended user written result)
    (hfailed : result.statusCode ≠ 200) (message : Value) :
    Told user written result.statusCode
      (describeDecisionFailure (.api result.statusCode message)) := by
  obtain ⟨hunrecorded, hexpired, hmissing⟩ := describe_endings result.statusCode message
  refine ⟨hunrecorded, ?_, hexpired, ?_, hmissing, ?_⟩
  all_goals intro hstatus
  · cases h with
    | turnedAway hother => rcases hother with rfl | rfl <;> cases hstatus
    | forbidden => cases hstatus
    | expired => cases hstatus
    | unexpired => cases hstatus
    | refused actor outcome =>
      obtain ⟨kind, reason, hrefused⟩ := refused_cases outcome
      cases outcome.symm.trans hrefused
      exact ⟨_, rfl, rfl, actor⟩
    | decided => exact absurd rfl hfailed
  · cases h with
    | turnedAway => exact fun next hnext => absurd hnext List.not_mem_nil
    | forbidden => exact fun next hnext => absurd hnext List.not_mem_nil
    | expired outcome =>
      intro next hnext
      rcases List.mem_cons.mp hnext with hupdate | hother
      · cases hupdate
        exact state_of_expired outcome
      · cases List.mem_singleton.mp hother
    | unexpired => exact fun next hnext => nomatch List.mem_singleton.mp hnext
    | refused => exact fun next hnext => nomatch List.mem_singleton.mp hnext
    | decided => exact absurd rfl hfailed
  · cases h with
    | turnedAway hother => rcases hother with rfl | rfl <;> cases hstatus
    | forbidden hlacking => exact ⟨rfl, hlacking⟩
    | expired => cases hstatus
    | unexpired => cases hstatus
    | @refused _ _ _ refusal =>
      rcases statusFor_cases refusal.kind with hkind | hkind | hkind <;>
        cases hkind.symm.trans hstatus
    | decided => exact absurd rfl hfailed

theorem failed_of_ended {written : List ApprovalsService.Op} (h : Ended user written result) :
    result.statusCode = 200 ∨
      ok result.statusCode = false ∧ ∃ response, result.body = .error response := by
  cases h with
  | turnedAway hother => exact .inr ⟨by rcases hother with rfl | rfl <;> rfl, _, rfl⟩
  | forbidden | expired | unexpired => exact .inr ⟨rfl, _, rfl⟩
  | @refused _ _ _ refusal =>
    refine .inr ⟨?_, _, rfl⟩
    change ok (statusFor refusal.kind) = false
    rcases statusFor_cases refusal.kind with hkind | hkind | hkind <;> rw [hkind] <;> rfl
  | decided => exact .inl rfl

omit [RoundTripFormat] in
theorem detailOf_approvals (statusText : Text) (evidencePacket proposedAction : Value)
    (response : ApprovalErrorResponse) :
    detailOf statusText (.ok (approvalsBodyValue evidencePacket proposedAction (.error response))) =
      .string response.detail := by
  simp [detailOf, Except.toOption, approvalsBodyValue, Value.read, List.lookup_cons, Value.orElse]

end

namespace Samples

open Approvals.Samples

def nobodys : Inbound := ⟨.decide (lit "a-1") none none none, some false⟩

end Samples

end Fcmr.WebUi
