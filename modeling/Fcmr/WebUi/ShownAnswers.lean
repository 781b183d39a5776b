import Fcmr.WebUi.WireContract

/-! What the page shows of an answer to an execution request. A fill, a refusal of the gate and
a failure are all shown; a caller without the role is shown nothing. -/
namespace Fcmr.WebUi

open DotNet OrderRouting OrderRoutingService ServiceDefaults Programs ApiClient
open ApprovalsService (ClaimsPrincipal)

inductive ExecutionAnswer : OrderRoutingService.Result → Prop
  | failed {status : Nat} (h : status = 400 ∨ status = 404) (response : OrderRoutingError) :
      ExecutionAnswer ⟨status, .error response⟩
  | forbidden (refusal : FilterRefusal) : ExecutionAnswer ⟨403, .forbidden refusal⟩
  | refused {status : Nat} (h : status = 403 ∨ status = 409) (refusal detail correlationId : Text) :
      ExecutionAnswer ⟨status, .notExecuted refusal detail correlationId⟩
  | filled (execution : SimulatedExecution) (executionMode correlationId : Text) :
      ExecutionAnswer ⟨201, .executed execution executionMode correlationId⟩

section

variable {user : Option ClaimsPrincipal} {correlation : CorrelationIdAccessor}
  {result : OrderRoutingService.Result} {calls : List (Call Op Op.Ret)}

theorem answer_of_markExecuted {proposalId : Text} {execution : SimulatedExecution}
    (h : Trace (markExecuted proposalId execution correlation) calls (.done (some result))) :
    ExecutionAnswer result := by
  rcases h.of_call with ⟨_, hdone⟩ | ⟨marked, later, _, hdone⟩
  · cases hdone
  cases marked with
  | true =>
    cases hdone.of_done.2
    exact .filled _ _ _
  | false =>
    cases hdone.of_done.2
    exact .refused (.inr rfl) _ _ _

theorem answer_of_attemptExecution {proposal : RouteProposal} {request : ExecuteRouteRequest}
    (h : Trace (attemptExecution proposal request user correlation) calls (.done (some result))) :
    ExecutionAnswer result := by
  rcases h.of_call with ⟨_, hdone⟩ | ⟨now, later, _, hdecided⟩
  · cases hdone
  dsimp only [Program.bind] at hdecided
  split at hdecided
  · cases hdecided.of_done.2
    exact .refused (.inl rfl) _ _ _
  · exact answer_of_markExecuted hdecided

theorem answer_of_executeAsync {request : Option ExecuteRouteRequest}
    (h : Trace (executeAsync request user correlation) calls (.done (some result))) :
    ExecutionAnswer result := by
  cases request with
  | none =>
    cases h.of_done.2
    exact .failed (.inl rfl) _
  | some request =>
    rcases h.of_call with ⟨_, hdone⟩ | ⟨found, later, _, hfound⟩
    · cases hdone
    cases found with
    | none =>
      cases hfound.of_done.2
      exact .failed (.inr rfl) _
    | some proposal => exact answer_of_attemptExecution hfound

theorem answer_of_filteredExecution {enforced : Bool} {request : Option ExecuteRouteRequest}
    (h : Trace (filtered enforced OrderRoutingRoles.executor user
      (executeAsync request user correlation)) calls (.done (some result))) :
    ExecutionAnswer result := by
  unfold filtered at h
  split at h
  · cases h.of_done.2
    exact .forbidden _
  · exact answer_of_executeAsync h

end

def shownOf : Body → Lines × Option Value
  | .executed execution executionMode _ =>
    ([("Executed", .string executionMode), ("Execution id", .string execution.executionId),
      ("Venue", .string execution.venueCode), ("Quantity", int32 execution.quantity),
      ("Price", decimal execution.price), ("Approval", .string execution.approvalId),
      ("Correlation id", .string execution.correlationId)], none)
  | .notExecuted refusal detail _ =>
    ([("Execution refused", .string refusal), ("", .string detail)], none)
  | .error response => ([], some (.string response.detail))
  | _ => ([], none)

theorem outcomeView_filled (execution : SimulatedExecution) (executionMode correlationId : Text) :
    outcomeView (executionValue execution executionMode) =
      some (shownOf (.executed execution executionMode correlationId)).1 := by
  simp [outcomeView, executionValue, executionView, Value.has, Value.read, List.lookup_cons,
    Value.child, Value.isChild, Value.toLocaleString, Value.toFixed, int32, decimal, shownOf]

theorem outcomeView_refused (refusal detail correlationId : Text) :
    outcomeView (bodyValue (.notExecuted refusal detail correlationId)) =
      some (shownOf (.notExecuted refusal detail correlationId)).1 := by
  simp [outcomeView, bodyValue, executionRefusalView, Value.has, Value.read, List.lookup_cons,
    Value.child, Value.isChild, shownOf]

theorem executed_filled (execution : SimulatedExecution) (executionMode correlationId : Text) :
    executed (.ok (bodyValue (.executed execution executionMode correlationId))) =
      (executionValue execution executionMode, none) := by
  simp [executed, isExecutionRefusal, bodyValue, Value.read, List.lookup_cons]

theorem executed_refused (refusal detail correlationId : Text) :
    executed (.ok (bodyValue (.notExecuted refusal detail correlationId))) =
      (bodyValue (.notExecuted refusal detail correlationId), none) := by
  simp [executed, isExecutionRefusal, bodyValue, Value.read]

theorem executed_forbidden (refusal : FilterRefusal) :
    executed (.ok (bodyValue (.forbidden refusal))) = (.undefined, none) := by
  simp [executed, isExecutionRefusal, bodyValue, Value.read, List.lookup_cons]

theorem detailOf_error (statusText : Text) (response : OrderRoutingError) :
    detailOf statusText (.ok (bodyValue (.error response))) = .string response.detail := by
  simp [detailOf, Except.toOption, bodyValue, Value.read, List.lookup_cons, Value.orElse]

namespace Samples

open OrderRoutingService.Samples (userAlice header)

end Samples

end Fcmr.WebUi
