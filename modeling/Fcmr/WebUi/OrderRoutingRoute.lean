import Fcmr.DotNet.Utf8
import Fcmr.Library.Exchanges
import Fcmr.Library.Machines
import Fcmr.WebUi.OrderRoutingScreen

/-! The order routing page: the route, its execution panel and the calls that wait for an
answer. Whoever is at the screen and whatever is answered takes the page from state to state. -/
namespace Fcmr.WebUi

open DotNet Exchanges Machines ApiClient

/-- The white space of ECMAScript, which is that of .NET but for two characters. -/
def isJsWhiteSpace (c : CodeUnit) : Bool := c == 0xFEFF || (isWhiteSpace c && c != 0x85)

def jsTrim (value : Text) : Text :=
  (value.dropWhile isJsWhiteSpace).rdropWhile isJsWhiteSpace

/-- `encodeURIComponent` throws for a surrogate without its partner. -/
def isEncodable (value : Text) : Bool :=
  (List.range value.length).all fun i => !unpairedAt value i

/-- The state of `ExecutionPanel`, and which of the mounted components it is. -/
structure ExecutionPanel where
  mount : Nat
  approvalId : Text := []
  lookup : Value := .undefined
  lookupFailure : Option Value := none
  busy : Bool := false

structure OrderRoutingRoute where
  mount : Nat
  result : Value := .undefined
  execution : Value := .undefined
  failure : Option Value := none
  submitting : Bool := false
  panel : Option ExecutionPanel := none

structure Sender where
  route : Nat
  panel : Option Nat

abbrev Network := Log Sender Request Response

/-- The page of one browser. Without a route it says that the screen failed to render. -/
structure Page where
  route : Option OrderRoutingRoute
  mounts : Nat
  network : Network

def failureBanner (title : String) (message : Option Value) : Lines :=
  match message with
  | none | some (.string []) => []
  | some message => [(title, message)]

def ExecutionPanel.view (panel : ExecutionPanel) (result : Value) : View := do
  let proposal ← result.read "proposal"
  let proposalId ← proposal.read "proposalId"
  let failure := failureBanner "Approval not retrieved" panel.lookupFailure
  if !panel.lookup.truthy then return ("Execute this proposal", proposalId) :: failure
  let state ← (← panel.lookup.read "state").child
  let proposedBy ← (← panel.lookup.read "proposedByObjectId").child
  let decidedBy ← ((← panel.lookup.read "decidedByObjectId").orElse
    (.string (lit "Not yet decided"))).child
  let expiresAt ← (← panel.lookup.read "expiresAt").child
  return ("Execute this proposal", proposalId) :: failure ++ [("State", state),
    ("Proposed by", proposedBy), ("Decided by", decidedBy), ("Expires", expiresAt)] ++
    if state.equals (lit "Approved") then [] else [("This approval is", state)]

def OrderRoutingRoute.view (route : OrderRoutingRoute) : View := do
  let screen ← orderRoutingScreen route.result route.execution
  let panel ← (route.panel.map (·.view route.result)).getD (some [])
  return failureBanner "The request failed" route.failure ++ screen ++ panel

def isExecutable (result : Value) : Bool := result.truthy && isHalt result == some false

/-- Only a proposal has a panel; it keeps its state for as long as there is one. -/
def OrderRoutingRoute.mounted (route : OrderRoutingRoute) (mount : Nat) : OrderRoutingRoute :=
  { route with
    panel := if isExecutable route.result then some (route.panel.getD { mount }) else none }

/-- React renders a changed state. When that throws, the error boundary unmounts the route. -/
def Page.commit (page : Page) (route : OrderRoutingRoute) : Page :=
  let route := route.mounted page.mounts
  { page with
    route := if route.view.isSome then some route else none
    mounts := page.mounts + 1 }

def Page.send (page : Page) (sender : Sender) (request : Request) : Page :=
  { page with network := page.network.send sender request }

/-- The page when it is first opened, and again after `Try again`. -/
def Page.open (mounts : Nat) (network : Network) : Page :=
  Page.commit ⟨none, mounts + 1, network⟩ { mount := mounts }

/-- What `execute` sends. A member that is `undefined` is left out of the text. -/
def executeRequest (result : Value) (approval : Option Value) : Value :=
  let proposalId := ((result.read "proposal").bind (·.read "proposalId")).getD .undefined
  let base := [("proposalId", proposalId),
    ("correlationId", (result.read "correlationId").getD .undefined)]
  match approval with
  | none => .object base
  | some approval =>
    let field name := (approval.read name).getD .undefined
    .object <| base ++ [("approval", .object [
      ("approvalId", field "id"),
      ("approvedBy", (field "decidedByObjectId").orElse (.string [])),
      ("approvedAt", (field "decidedAt").orElse (field "createdAt")),
      ("expiresAt", field "expiresAt")])]

/-- How `propose` ends. -/
def OrderRoutingRoute.proposed (route : OrderRoutingRoute) : Answer → OrderRoutingRoute
  | .ok result => { route with result, submitting := false }
  | .error failure =>
    { route with
      result := .undefined
      failure := some (failure.message.getD (.string (lit "The proposal request failed.")))
      submitting := false }

/-- The message of the `TypeError`, as V8 words it. -/
def nullResponse : Value :=
  .string (lit "Cannot read properties of null (reading 'executed')")

/-- What `run` puts on the screen: an execution, and the message of a failure. -/
def executed : Answer → Value × Option Value
  | .error failure =>
    (.undefined, some (failure.message.getD (.string (lit "The execution request failed."))))
  | .ok response =>
    match isExecutionRefusal response with
    | none => (.undefined, some nullResponse)
    | some true => (response, none)
    | some false => ((response.read "execution").getD .undefined, none)

def ExecutionPanel.looking (panel : ExecutionPanel) : ExecutionPanel :=
  { panel with lookup := .undefined, lookupFailure := none, busy := true }

def ExecutionPanel.looked (panel : ExecutionPanel) : Answer → ExecutionPanel
  | .ok record => { panel with lookup := record, busy := false }
  | .error failure =>
    { panel with
      lookupFailure := some (failure.message.getD
        (.string (lit "That approval could not be retrieved.")))
      busy := false }

/-- The `URIError`, as V8 words it. -/
def malformed : Answer := .error (.error (.string (lit "URI malformed")))

def ExecutionPanel.idle (panel : ExecutionPanel) : ExecutionPanel := { panel with busy := false }

/-- A component that is no longer mounted is not told. -/
def OrderRoutingRoute.onPanel (route : OrderRoutingRoute) (sender : Sender)
    (f : ExecutionPanel → ExecutionPanel) : OrderRoutingRoute :=
  { route with panel := route.panel.map fun panel =>
      if sender.panel = some panel.mount then f panel else panel }

def OrderRoutingRoute.settled (route : OrderRoutingRoute) (sender : Sender) (request : Request)
    (answer : Answer) : OrderRoutingRoute :=
  match request with
  | .proposeRoute _ => if sender.route = route.mount then route.proposed answer else route
  | .getApproval _ => route.onPanel sender (·.looked answer)
  | .executeRoute _ =>
    if sender.route = route.mount then
      { route.onPanel sender (·.idle) with
        execution := (executed answer).1
        failure := (executed answer).2.or route.failure }
    else route

inductive Event
  | submit (request : Value)
  | type (approvalId : Text)
  | lookUp
  | execute
  | attempt
  | answer (i : Nat) (response : Response)
  | tryAgain

def Page.click (page : Page) (event : Event) (route : OrderRoutingRoute) : Option Page :=
  match event, route.panel with
  | .submit request, _ =>
    if route.submitting then none
    else some <| (page.send ⟨route.mount, none⟩ (.proposeRoute request)).commit
      { route with execution := .undefined, failure := none, submitting := true }
  | .type approvalId, some panel =>
    some <| page.commit { route with panel := some { panel with approvalId } }
  | .lookUp, some panel =>
    let id := jsTrim panel.approvalId
    if panel.busy || id.isEmpty then none
    else if isEncodable id = false then
      some <| page.commit { route with panel := some (panel.looking.looked malformed) }
    else some <| (page.send ⟨route.mount, some panel.mount⟩ (.getApproval id)).commit
      { route with panel := some panel.looking }
  | .execute, some panel =>
    if panel.busy || !panel.lookup.truthy then none
    else some <| (page.send ⟨route.mount, some panel.mount⟩
      (.executeRoute (executeRequest route.result (some panel.lookup)))).commit
      { route with failure := none, panel := some { panel with busy := true } }
  | .attempt, some panel =>
    if panel.busy then none
    else some <| (page.send ⟨route.mount, some panel.mount⟩
      (.executeRoute (executeRequest route.result none))).commit
      { route with failure := none, panel := some { panel with busy := true } }
  | _, _ => none

/-- A control that is disabled or not on the page does nothing, and no call is answered twice. -/
def step : Machine Page Event := fun page event =>
  match event, page.route with
  | .answer i response, route => do
    let exchange ← page.network[i]?
    if exchange.answer.isSome then none
    else
      let page := { page with network := page.network.resolve i response }
      match route with
      | none => some page
      | some route =>
        some <| page.commit
          (route.settled exchange.sender exchange.request (answer exchange.request response))
  | .tryAgain, none => some (Page.open page.mounts page.network)
  | event, some route => page.click event route
  | _, none => none

/-- A page after any events, from when it was opened. -/
def visited (events : List Event) : Page := run step (Page.open 0 []) events

end Fcmr.WebUi
