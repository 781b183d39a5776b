import Fcmr.Library.Traces
import Fcmr.OrderRouting.Selection
import Fcmr.OrderRoutingService.Executions
import Fcmr.WebUi.ExecutionRequests

/-! The answers of the order routing service as the page reads them. The table of the venues
considered reads members that the service does not write, so that no route that was planned can
be rendered, and nothing is ever executed from this page. -/
namespace Fcmr.WebUi

open DotNet OrderRouting OrderRoutingService ServiceDefaults Programs Exchanges Machines ApiClient
open ApprovalsService (ClaimsPrincipal)

/-! The bodies as `Results.Json` writes them. -/

def nullable : Option Text → Value := fun text => (text.map .string).getD .null

def decimal (d : Decimal) : Value := .number d.value

def int32 (n : Int32) : Value := .number n.toInt

def costValue (cost : CostBreakdown) : Value := .object [
  ("spreadCostBps", decimal cost.spreadCostBps),
  ("impactBps", decimal cost.impactBps),
  ("feeBps", decimal cost.feeBps),
  ("totalCostBps", decimal cost.totalCostBps),
  ("projectedPrice", decimal cost.projectedPrice),
  ("projectedCostUsd", decimal cost.projectedCostUsd),
  ("participationRate", decimal cost.participationRate)]

def proposalValue (proposal : ProposalDescription) : Value := .object [
  ("proposalId", .string proposal.proposalId),
  ("orderId", .string proposal.orderId),
  ("correlationId", .string proposal.correlationId),
  ("venueCode", .string proposal.venueCode),
  ("quantity", int32 proposal.quantity),
  ("proposedBy", .string proposal.proposedBy),
  ("cost", costValue proposal.cost),
  ("liquidityRationale", .string proposal.liquidityRationale),
  ("bestExecutionJustification", .string proposal.bestExecutionJustification)]

def consideredValue (venue : ConsideredVenue) : Value := .object [
  ("venueCode", .string venue.venueCode),
  ("venueType", .string venue.venueType),
  ("totalCostBps", decimal venue.totalCostBps),
  ("projectedCostUsd", decimal venue.projectedCostUsd),
  ("eligible", .boolean venue.eligible),
  ("breaches", .array (venue.breaches.map .string))]

def breachValue (breach : BreachDescription) : Value := .object [
  ("boundary", .string breach.boundary),
  ("venueCode", nullable breach.venueCode),
  ("permitted", .string breach.permitted),
  ("observed", .string breach.observed),
  ("explanation", .string breach.explanation)]

def executionValue (execution : SimulatedExecution) (executionMode : Text) : Value := .object [
  ("executionId", .string execution.executionId),
  ("proposalId", .string execution.proposalId),
  ("orderId", .string execution.orderId),
  ("correlationId", .string execution.correlationId),
  ("venueCode", .string execution.venueCode),
  ("quantity", int32 execution.quantity),
  ("price", decimal execution.price),
  ("executedAt", .instant execution.executedAt),
  ("approvalId", .string execution.approvalId),
  ("executionMode", .string executionMode)]

def bodyValue : Body → Value
  | .error response => .object [
      ("error", .string response.error),
      ("detail", .string response.detail),
      ("correlationId", .string response.correlationId),
      ("details", (response.details.map fun details =>
        Value.array (details.map .string)).getD .null)]
  | .forbidden refusal => .object [
      ("error", .string refusal.error),
      ("detail", .string refusal.detail)]
  | .halted haltSummary breaches considered correlationId => .object [
      ("status", .string (lit "Halted")),
      ("haltSummary", .string haltSummary),
      ("breaches", .array (breaches.map breachValue)),
      ("considered", .array (considered.map consideredValue)),
      ("correlationId", .string correlationId)]
  | .proposed proposal considered correlationId => .object [
      ("status", .string (lit "Proposed")),
      ("proposal", proposalValue proposal),
      ("considered", .array (considered.map consideredValue)),
      ("correlationId", .string correlationId)]
  | .notExecuted refusal detail correlationId => .object [
      ("executed", .boolean false),
      ("refusal", .string refusal),
      ("detail", .string detail),
      ("correlationId", .string correlationId)]
  | .executed execution executionMode correlationId => .object [
      ("executed", .boolean true),
      ("execution", executionValue execution executionMode),
      ("correlationId", .string correlationId)]

def responseOf (result : OrderRoutingService.Result) (statusText : Text) : Response :=
  .received result.statusCode statusText (.ok (bodyValue result.body))

section

variable {venues : List ConsideredVenue}

theorem consideredRow_thrown (venue : ConsideredVenue) :
    consideredRow (consideredValue venue) = none := by
  simp [consideredRow, consideredValue, Value.read, List.lookup_cons]

theorem consideredTable_thrown (h : venues ≠ []) :
    consideredTable (.array (venues.map consideredValue)) = none := by
  obtain ⟨venue, rest, rfl⟩ := List.exists_cons_of_ne_nil h
  simp [consideredTable, Value.map, consideredRow_thrown]

theorem resultView_halted (h : venues ≠ []) (haltSummary : Text)
    (breaches : List BreachDescription) (correlationId : Text) :
    resultView (bodyValue (.halted haltSummary breaches venues correlationId)) = none := by
  simp [resultView, bodyValue, isHalt, haltView, Value.read, List.lookup_cons, Value.equals,
    consideredTable_thrown h]

theorem resultView_proposed (h : venues ≠ []) (proposal : ProposalDescription)
    (correlationId : Text) :
    resultView (bodyValue (.proposed proposal venues correlationId)) = none := by
  have hstatus : lit "Proposed" ≠ lit "Halted" := by decide
  simp [resultView, bodyValue, isHalt, proposalView, Value.read, List.lookup_cons, Value.equals, hstatus,
    consideredTable_thrown h]

end

section

variable {request : RouteProposalRequest} {user : Option ClaimsPrincipal}
  {correlation : CorrelationIdAccessor} {outcome : RoutingOutcome}
  {result : OrderRoutingService.Result}

theorem considered_ne_nil (hvalid : validate request = [])
    (h : outcomeOf request user correlation = some outcome) : considered outcome ≠ [] := by
  have hquotes : request.quotes.getD [] ≠ [] := by
    intro hnone
    simp [validate, hnone] at hvalid
  obtain ⟨hidentity, hevaluable⟩ := RoutePlanner.evaluable_of_plan h
  obtain ⟨planned, hplan, _, hperm⟩ := RoutePlanner.plan_ended none hidentity hevaluable
  cases h.symm.trans hplan
  intro hempty
  have hlength := hperm.length_eq
  rw [List.map_eq_nil_iff.mp hempty] at hlength
  simp only [List.map_nil, List.length_nil, List.length_map, quotesOf] at hlength
  exact hquotes (List.eq_nil_of_length_eq_zero hlength.symm)

/-- What is answered to a route proposal: a refusal, or a decision with the venues that it
considered. -/
inductive ProposalAnswer : OrderRoutingService.Result → Prop
  | refused {result : OrderRoutingService.Result}
      (h : result.statusCode = 400 ∨ result.statusCode = 403) : ProposalAnswer result
  | halted {venues : List ConsideredVenue} (h : venues ≠ []) (haltSummary : Text)
      (breaches : List BreachDescription) (correlationId : Text) :
      ProposalAnswer ⟨422, .halted haltSummary breaches venues correlationId⟩
  | proposed {venues : List ConsideredVenue} (h : venues ≠ []) (proposal : ProposalDescription)
      (correlationId : Text) :
      ProposalAnswer ⟨201, .proposed proposal venues correlationId⟩

theorem answer_of_outcome {calls : List (Call Op Op.Ret)} (hconsidered : considered outcome ≠ [])
    (h : Trace (answerOutcome outcome correlation) calls (.done (some result))) :
    ProposalAnswer result := by
  cases outcome with
  | halted breaches venues =>
    obtain ⟨_, hdone⟩ := h.of_done
    cases hdone
    exact .halted hconsidered _ _ _
  | proposed proposal venues =>
    rcases h.of_call with ⟨_, hdone⟩ | ⟨_, later, _, hdone⟩
    · cases hdone
    · obtain ⟨_, hdone⟩ := hdone.of_done
      cases hdone
      exact .proposed hconsidered _ _

theorem answer_of_proposeAsync {request : Option RouteProposalRequest}
    {calls : List (Call Op Op.Ret)}
    (h : Trace (proposeAsync request user correlation) calls (.done (some result))) :
    ProposalAnswer result := by
  unfold proposeAsync at h
  split at h
  · cases h.of_done.2
    exact .refused (.inl rfl)
  split at h
  · cases h.of_done.2
    exact .refused (.inl rfl)
  dsimp only at h
  split at h
  · cases h.of_done.2
    exact .refused (.inl rfl)
  rename_i hvalid
  split at h
  · cases h.of_done.2
  rename_i outcome houtcome
  exact answer_of_outcome (considered_ne_nil (not_not.mp hvalid) houtcome) h

theorem answer_of_filtered {request : Option RouteProposalRequest} {enforced : Bool}
    {calls : List (Call Op Op.Ret)}
    (h : Trace (filtered enforced OrderRoutingRoles.proposer user
      (proposeAsync request user correlation)) calls (.done (some result))) :
    ProposalAnswer result := by
  unfold filtered at h
  split at h
  · cases h.of_done.2
    exact .refused (.inr rfl)
  · exact answer_of_proposeAsync h

end

/-- What can come of a route proposal: the call fails, something on the way refuses it, or the
service answers it, whatever its store holds. -/
inductive Served : Response → Prop
  | rejected (message : Option Text) : Served (.rejected message)
  | failed {status : Nat} (hfailed : ok status = false) (hother : status ≠ 422)
      (statusText : Text) (body : Except Text Value) : Served (.received status statusText body)
  | answered {enforced : Bool} {request : Option RouteProposalRequest}
      {user : Option ClaimsPrincipal} {correlation : CorrelationIdAccessor}
      {calls : List (Call Op Op.Ret)} {result : OrderRoutingService.Result}
      (h : Trace (filtered enforced OrderRoutingRoles.proposer user
        (proposeAsync request user correlation)) calls (.done (some result)))
      (statusText : Text) : Served (responseOf result statusText)

theorem served_cases {response : Response} (h : Served response) (request : Value) :
    (∃ failure, answer (.proposeRoute request) response = .error failure) ∨
    ∃ result, answer (.proposeRoute request) response = .ok result ∧ resultView result = none := by
  cases h with
  | rejected message => cases message <;> exact .inl ⟨_, rfl⟩
  | failed hfailed hother statusText body =>
    exact .inl ⟨_, sendAllowing_failed hfailed (by simpa [Request.refusalStatuses]) statusText body⟩
  | @answered _ _ _ _ _ result hanswered statusText =>
    cases answer_of_filtered hanswered with
    | refused hstatus =>
      have hfailed : ok result.statusCode = false ∧ result.statusCode ∉ [422] := by
        rcases hstatus with hstatus | hstatus <;> rw [hstatus] <;> decide
      exact .inl ⟨_, sendAllowing_failed hfailed.1 hfailed.2 statusText _⟩
    | halted hvenues haltSummary breaches correlationId =>
      exact .inr ⟨_, sendAllowing_taken (.inr List.mem_cons_self) statusText _,
        resultView_halted hvenues haltSummary breaches correlationId⟩
    | proposed hvenues proposal correlationId =>
      exact .inr ⟨_, sendAllowing_taken (.inl rfl) statusText _,
        resultView_proposed hvenues proposal correlationId⟩

/-- Route proposals are answered by the order routing service, or not at all. -/
def FromService (page : Page) : Event → Prop
  | .answer i response => ∀ sender request,
      page.network.Pending i sender (.proposeRoute request) → Served response
  | _ => True

/-- Nothing was proposed that is still on the page, and nothing was executed. -/
structure Idle (page : Page) : Prop where
  result : ∀ route, page.route = some route → route.result = .undefined
  execution : ∀ route, page.route = some route → route.execution = .undefined
  panel : ∀ route, page.route = some route → route.panel = none
  unsent : ∀ sender request, ¬page.network.Sent sender (.executeRoute request)

variable {page page' : Page} {route : OrderRoutingRoute}

theorem Idle.commit (hunsent : ∀ sender request, ¬page.network.Sent sender (.executeRoute request))
    (hresult : route.result = .undefined) (hexecution : route.execution = .undefined) :
    Idle (page.commit route) := by
  refine ⟨?_, ?_, ?_, hunsent⟩
  all_goals
    intro route' hroute'
    obtain rfl := route_of_commit hroute'
  · exact hresult
  · exact hexecution
  · exact if_neg (by rw [hresult]; decide)

theorem Idle.closed (hunsent : ∀ sender request, ¬page.network.Sent sender (.executeRoute request))
    (hclosed : page.route = none) : Idle page := by
  refine ⟨?_, ?_, ?_, hunsent⟩
  all_goals
    intro route hroute
    cases hclosed.symm.trans hroute

theorem Idle.thrown (hunsent : ∀ sender request, ¬page.network.Sent sender (.executeRoute request))
    (hresult : resultView route.result = none) : Idle (page.commit route) := by
  have hview : (route.mounted page.mounts).view = none := by
    have hscreen : resultView (route.mounted page.mounts).result = none := hresult
    simp [OrderRoutingRoute.view, orderRoutingScreen, hscreen]
  exact .closed hunsent (by simp [Page.commit, hview])

theorem Idle.moved {event : Event} (h : Idle page) (hserved : FromService page event)
    (hmoved : Moved page event page') : Idle page' := by
  cases hmoved with
  | reopened => exact .commit h.unsent rfl rfl
  | unheard closed pending response =>
    refine .closed (fun sender request hsent => ?_) closed
    exact h.unsent sender request ((sent_resolve pending).mp hsent)
  | @answered route i sender request shown pending response =>
    have hunsent : ∀ sender request,
        ¬(page.network.resolve i response).Sent sender (.executeRoute request) :=
      fun sender request hsent => h.unsent sender request ((sent_resolve pending).mp hsent)
    have hresult := h.result route shown
    have hexecution := h.execution route shown
    cases request with
    | proposeRoute proposal =>
      unfold OrderRoutingRoute.settled
      dsimp only
      split
      case isFalse => exact .commit hunsent hresult hexecution
      rcases served_cases (hserved sender proposal pending) proposal with
        ⟨failure, hanswer⟩ | ⟨result, hanswer, hthrown⟩
      · rw [hanswer]
        exact .commit hunsent rfl hexecution
      · rw [hanswer]
        exact .thrown hunsent hthrown
    | getApproval id => exact .commit hunsent hresult hexecution
    | executeRoute request => exact absurd pending.sent (h.unsent sender request)
  | @submitted route shown idle request =>
    refine .commit (fun sender request hsent => ?_) (h.result route shown) rfl
    rcases sent_send.mp hsent with hearlier | ⟨_, hother⟩
    · exact h.unsent sender request hearlier
    · cases hother
  | typed shown mounted => cases (h.panel _ shown).symm.trans mounted
  | unsendable shown mounted => cases (h.panel _ shown).symm.trans mounted
  | lookedUp shown mounted => cases (h.panel _ shown).symm.trans mounted
  | executed shown mounted => cases (h.panel _ shown).symm.trans mounted

/-- With the order routing service behind it, whatever is clicked and answered: the page shows
no proposal, no halt and no execution, and no execution is ever asked for. -/
theorem never_executes (events : List Event)
    (h : Throughout (next step) FromService (Page.open 0 []) events) : Idle (visited events) := by
  refine h.invariant (P := Idle) ?_ (.commit ?_ rfl rfl)
  · intro page event hidle hserved
    cases hstep : step page event with
    | none => rwa [next_of_refused hstep]
    | some page' =>
      rw [next_of_accepted hstep]
      exact hidle.moved hserved (moved_of_step hstep)
  · rintro sender request ⟨answer, hmem⟩
    cases hmem

namespace Samples

open OrderRoutingService.Samples (routeRequest_handling userAlice header routeRequest)

theorem proposed_idle : ∃ calls result, Trace (filtered false OrderRoutingRoles.proposer userAlice
      (proposeAsync (some (routeRequest (lit "o-1") 100)) userAlice header)) calls
        (.done (some result)) ∧ result.statusCode = 201 ∧
      Idle (visited [.submit (.object []), .answer 0 (responseOf result [])]) := by
  obtain ⟨proposal, venues, hproposed, _⟩ :=
    routeRequest_handling (lit "o-1") 100 userAlice (by decide +kernel) (by decide +kernel)
  have htrace : Trace (filtered false OrderRoutingRoles.proposer userAlice
      (proposeAsync (some (routeRequest (lit "o-1") 100)) userAlice header)) [⟨.save proposal, ()⟩]
        (.done (some ⟨201, .proposed (describe proposal) (considered (.proposed proposal venues))
          header.value⟩)) := by
    rw [hproposed]
    exact .cons (.nil _)
  refine ⟨_, _, htrace, rfl, never_executes _ ⟨trivial, ?_, trivial⟩⟩
  exact fun _ _ _ => .answered htrace []

end Samples

end Fcmr.WebUi
