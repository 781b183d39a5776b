import Fcmr.WebUi.ExecutionRequests

/-! The execution beside a proposal. The panel can be used while a new proposal is on its way,
and an execution that arrives then, or later, stays beside that new proposal. -/
namespace Fcmr.WebUi

open DotNet Exchanges Machines ApiClient

/-- The execution on the page, and those it waits for, answer requests that name the proposal
on the page. -/
structure Own (network : Network) (route : OrderRoutingRoute) : Prop where
  waiting : ∀ i sender request, network.Pending i sender (.executeRoute request) →
    sender.route = route.mount → ∃ approval, request = executeRequest route.result approval
  shown : route.execution = .undefined ∨ ∃ sender request response approval,
    network.Answered sender (.executeRoute request) response ∧ sender.route = route.mount ∧
    request = executeRequest route.result approval ∧
    route.execution = (executed (answer (.executeRoute request) response)).1

/-- No proposal is answered beside an execution, or while one is waited for. -/
def Undisturbed (page : Page) : Event → Prop
  | .answer i _ => ∀ sender request route, page.network.Pending i sender (.proposeRoute request) →
      page.route = some route → sender.route = route.mount → route.execution = .undefined ∧
        ∀ j sender' request', page.network.Pending j sender' (.executeRoute request') →
          sender'.route ≠ route.mount
  | _ => True

variable {page page' : Page} {network : Network} {route : OrderRoutingRoute}

theorem Own.congr {route' : OrderRoutingRoute} (h : Own network route)
    (hmount : route'.mount = route.mount) (hresult : route'.result = route.result)
    (hexecution : route'.execution = route.execution) : Own network route' := by
  refine ⟨?_, ?_⟩
  · rw [hmount, hresult]
    exact h.waiting
  · rw [hmount, hresult, hexecution]
    exact h.shown

theorem Own.send_other (h : Own network route) {sender : Sender} {request : Request}
    (hother : ∀ sent, request ≠ .executeRoute sent) : Own (network.send sender request) route := by
  refine ⟨fun i sender' request' hi hmount => ?_, ?_⟩
  · rcases pending_send.mp hi with hearlier | ⟨_, _, hsame⟩
    · exact h.waiting i sender' request' hearlier hmount
    · exact absurd hsame.symm (hother request')
  · refine h.shown.imp_right ?_
    rintro ⟨sender', request', response, approval, hanswered, hrest⟩
    exact ⟨sender', request', response, approval, answered_send.mpr hanswered, hrest⟩

theorem Own.send_execute (h : Own network route) (sender : Sender) (approval : Option Value) :
    Own (network.send sender (.executeRoute (executeRequest route.result approval))) route := by
  refine ⟨fun i sender' request' hi hmount => ?_, ?_⟩
  · rcases pending_send.mp hi with hearlier | ⟨_, _, hsame⟩
    · exact h.waiting i sender' request' hearlier hmount
    · exact ⟨approval, Request.executeRoute.inj hsame⟩
  · refine h.shown.imp_right ?_
    rintro ⟨sender', request', response, approval', hanswered, hrest⟩
    exact ⟨sender', request', response, approval', answered_send.mpr hanswered, hrest⟩

theorem Own.resolve (h : Own network route) {i : Nat} {sender : Sender} {request : Request}
    (hi : network.Pending i sender request) (response : Response) :
    Own (network.resolve i response) route := by
  refine ⟨fun j sender' request' hj hmount => ?_, ?_⟩
  · exact h.waiting j sender' request' ((pending_resolve hi).mp hj).2 hmount
  · refine h.shown.imp_right ?_
    rintro ⟨sender', request', response', approval, hanswered, hrest⟩
    exact ⟨sender', request', response', approval, extends_resolve hi response _ _ _ hanswered, hrest⟩

theorem Own.settled (h : Own network route) {i : Nat} {sender : Sender} {request : Request}
    (hi : network.Pending i sender request) (response : Response)
    (hundisturbed : ∀ proposal, request = .proposeRoute proposal → sender.route = route.mount →
      route.execution = .undefined ∧ ∀ j sender' request',
        network.Pending j sender' (.executeRoute request') → sender'.route ≠ route.mount) :
    Own (network.resolve i response)
      (route.settled sender request (answer request response)) := by
  have hkept := h.resolve hi response
  cases request with
  | proposeRoute proposal =>
    unfold OrderRoutingRoute.settled
    dsimp only
    split
    case isFalse => exact hkept
    rename_i hroute
    obtain ⟨hnone, hunsent⟩ := hundisturbed proposal rfl hroute
    have hproposed (answered : Answer) : (route.proposed answered).mount = route.mount ∧
        (route.proposed answered).execution = .undefined := by
      cases answered <;> exact ⟨rfl, hnone⟩
    refine ⟨fun j sender' request' hj hmount => ?_, .inl (hproposed _).2⟩
    rw [(hproposed _).1] at hmount
    exact absurd hmount (hunsent j sender' request' ((pending_resolve hi).mp hj).2)
  | getApproval id => exact hkept.congr rfl rfl rfl
  | executeRoute request =>
    unfold OrderRoutingRoute.settled
    dsimp only
    split
    case isFalse => exact hkept
    rename_i hroute
    obtain ⟨approval, hrequest⟩ := h.waiting i sender request hi hroute
    exact ⟨hkept.waiting, .inr ⟨sender, request, response, approval,
      (answered_resolve hi).mpr (.inr ⟨rfl, rfl, rfl⟩), hroute, hrequest, rfl⟩⟩

theorem own_mounted {mounts : Nat} (h : Kept network mounts) :
    Own network { mount := mounts } where
  waiting _ sender _ hi hmount := by
    have hlt := h.route sender _ hi.sent
    rw [hmount] at hlt
    exact absurd hlt (Nat.lt_irrefl mounts)
  shown := .inl rfl

theorem own_commit (h : Own page.network route) :
    ∀ route', (page.commit route).route = some route' → Own page.network route' := by
  intro route' hroute'
  obtain rfl := route_of_commit hroute'
  exact h.congr rfl rfl rfl

theorem own_step {event : Event} (horderly : Orderly page)
    (h : ∀ route, page.route = some route → Own page.network route)
    (hundisturbed : Undisturbed page event) (hmoved : Moved page event page') :
    ∀ route, page'.route = some route → Own page'.network route := by
  cases hmoved with
  | reopened => exact own_commit (own_mounted horderly.kept)
  | unheard closed => exact fun route hroute => nomatch closed.symm.trans hroute
  | @answered route i sender request shown pending response =>
    refine own_commit ((h route shown).settled pending response ?_)
    rintro proposal rfl
    exact hundisturbed sender proposal route pending shown
  | @submitted route shown _ request =>
    have hsent : Own (page.network.send ⟨route.mount, none⟩ (.proposeRoute request)) route :=
      (h route shown).send_other nofun
    exact own_commit ⟨hsent.waiting, .inl rfl⟩
  | typed shown _ _ => exact own_commit ((h _ shown).congr rfl rfl rfl)
  | @lookedUp route panel shown _ _ id =>
    have hsent : Own (page.network.send ⟨route.mount, some panel.mount⟩ (.getApproval id)) route :=
      (h route shown).send_other nofun
    exact own_commit (hsent.congr rfl rfl rfl)
  | unsendable shown _ _ => exact own_commit ((h _ shown).congr rfl rfl rfl)
  | executed shown _ _ approval _ =>
    exact own_commit (((h _ shown).send_execute _ approval).congr rfl rfl rfl)

/-- Where no proposal is answered beside an execution, the execution on the page answers a
request for the proposal on the page. -/
theorem execution_own (events : List Event)
    (h : Throughout (next step) Undisturbed (Page.open 0 []) events) :
    ∀ route, (visited events).route = some route → Own (visited events).network route := by
  have hinvariant : Orderly (visited events) ∧
      ∀ route, (visited events).route = some route → Own (visited events).network route := by
    refine h.invariant (P := fun page => Orderly page ∧
      ∀ route, page.route = some route → Own page.network route) ?_
      ⟨orderly_open (kept_nil 0), own_commit (own_mounted (kept_nil 0))⟩
    rintro page event ⟨horderly, hown⟩ hundisturbed
    cases hstep : step page event with
    | none => rw [next_of_refused hstep]; exact ⟨horderly, hown⟩
    | some page' =>
      rw [next_of_accepted hstep]
      exact ⟨horderly.moved (moved_of_step hstep),
        own_step horderly hown hundisturbed (moved_of_step hstep)⟩
  exact hinvariant.2

def calm (page : Page) : Bool :=
  (page.network.all fun exchange =>
    match exchange.request with
    | .proposeRoute _ => exchange.answer.isSome
    | _ => true) ||
  (page.route.all fun route => route.execution matches .undefined) &&
    page.network.all fun exchange =>
      match exchange.request with
      | .executeRoute _ => exchange.answer.isSome
      | _ => true

theorem undisturbed_of_calm (h : calm page = true) (event : Event) : Undisturbed page event := by
  cases event with
  | answer i response =>
    intro sender request route hi hroute _
    unfold calm at h
    rw [Bool.or_eq_true, Bool.and_eq_true, List.all_eq_true, List.all_eq_true] at h
    rcases h with hproposed | ⟨hexecution, hexecuted⟩
    · cases hproposed _ (List.mem_of_getElem? hi)
    · refine ⟨?_, fun j sender' request' hj => ?_⟩
      · rw [hroute] at hexecution
        cases hshown : route.execution <;> simp [hshown] at hexecution ⊢
      · cases hexecuted _ (List.mem_of_getElem? hj)
  | _ => trivial

namespace Samples

def proposalBody (proposalId : Text) : Value := .object [
  ("status", .string (lit "Proposed")),
  ("proposal", .object [
    ("proposalId", .string proposalId), ("quantity", .number 100),
    ("cost", .object [("totalCostBps", .number 5), ("spreadCostBps", .number 3),
      ("impactBps", .number 1), ("feeBps", .number 1), ("projectedPrice", .number 100)])]),
  ("considered", .array []),
  ("correlationId", .string (lit "corr-1"))]

def fillBody (proposalId : Text) : Value := .object [
  ("executed", .boolean true),
  ("execution", .object [
    ("proposalId", .string proposalId), ("quantity", .number 100), ("price", .number 100)])]

def ok (body : Value) : Response := .received 201 [] (.ok body)

def shownIds (page : Page) : Option (Value × Value) := do
  let route ← page.route
  let proposal ← route.result.read "proposal"
  return (← proposal.read "proposalId", ← route.execution.read "proposalId")

def executedOnce : List Event :=
  [.submit .null, .answer 0 (ok (proposalBody (lit "prop-1"))), .attempt,
    .answer 1 (ok (fillBody (lit "prop-1")))]

def overlapping : List Event :=
  [.submit .null, .answer 0 (ok (proposalBody (lit "prop-1"))), .submit .null, .attempt,
    .answer 2 (ok (fillBody (lit "prop-1"))), .answer 1 (ok (proposalBody (lit "prop-2")))]

theorem executedOnce_own : ∃ route, (visited executedOnce).route = some route ∧
    (route.execution matches .object _) ∧ Own (visited executedOnce).network route := by
  have hshown : (visited executedOnce).route.any (fun route =>
      route.execution matches .object _) = true := by decide +kernel
  obtain ⟨route, hroute, hexecution⟩ := (Option.any_eq_true ..).mp hshown
  refine ⟨route, hroute, hexecution, execution_own executedOnce ⟨?_, ?_, ?_, ?_, trivial⟩ route hroute⟩
  all_goals
    refine undisturbed_of_calm ?_ _
    decide +kernel

example : (shownIds (visited overlapping)).map (fun ids =>
    (ids.1.equals (lit "prop-2"), ids.2.equals (lit "prop-1"))) = some (true, true) := by
  decide +kernel

end Samples

end Fcmr.WebUi
