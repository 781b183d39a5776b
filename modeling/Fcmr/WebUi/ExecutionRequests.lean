import Fcmr.WebUi.OrderRoutingRoute

/-! What the order routing page sends, whatever is clicked and answered. It executes nothing
but a proposal that it was given, with an approval that was looked up or with none. -/
namespace Fcmr.WebUi

open DotNet Exchanges Machines ApiClient

def Proposed (network : Network) (mount : Nat) (result : Value) : Prop :=
  ∃ sender request response, network.Answered sender (.proposeRoute request) response ∧
    sender.route = mount ∧ answer (.proposeRoute request) response = .ok result

def LookedUp (network : Network) (mount : Nat) (record : Value) : Prop :=
  ∃ sender id response, network.Answered sender (.getApproval id) response ∧
    sender.panel = some mount ∧ answer (.getApproval id) response = .ok record

/-- The request names a proposal that the route was given, and carries no approval or the copy
of a record that the panel was given. -/
def Genuine (network : Network) (sender : Sender) (request : Value) : Prop :=
  ∃ result approval, Proposed network sender.route result ∧ isExecutable result = true ∧
    request = executeRequest result approval ∧ ∀ record, approval = some record →
      record.truthy = true ∧ ∃ mount, sender.panel = some mount ∧ LookedUp network mount record

/-- The proposals that a route waits for. -/
def Proposes (mount : Nat) (sender : Sender) (request : Request) : Prop :=
  sender.route = mount ∧ ∃ proposal, request = .proposeRoute proposal

def FromPanel (mount : Nat) (sender : Sender) (_ : Request) : Prop := sender.panel = some mount

structure SoundPanel (network : Network) (mounts owner : Nat) (panel : ExecutionPanel) : Prop where
  mount : panel.mount < mounts
  lookup : panel.lookup = .undefined ∨ LookedUp network panel.mount panel.lookup
  within : ∀ sender request, network.Sent sender request → sender.panel = some panel.mount →
    sender.route = owner
  single : Single network (FromPanel panel.mount) (panel.busy = true)

structure Sound (network : Network) (mounts : Nat) (route : OrderRoutingRoute) : Prop where
  mount : route.mount < mounts
  result : route.result = .undefined ∨ Proposed network route.mount route.result
  single : Single network (Proposes route.mount) (route.submitting = true)
  panel : ∀ panel, route.panel = some panel → SoundPanel network mounts route.mount panel

/-- What holds of the calls of a page. -/
structure Kept (network : Network) (mounts : Nat) : Prop where
  route : ∀ sender request, network.Sent sender request → sender.route < mounts
  panel : ∀ sender request, network.Sent sender request → ∀ mount, sender.panel = some mount →
    mount < mounts
  proposes : ∀ sender proposal, network.Sent sender (.proposeRoute proposal) → sender.panel = none
  genuine : ∀ sender request, network.Sent sender (.executeRoute request) →
    Genuine network sender request

structure Orderly (page : Page) : Prop where
  kept : Kept page.network page.mounts
  sound : ∀ route, page.route = some route → Sound page.network page.mounts route
  executable : ∀ route panel, page.route = some route → route.panel = some panel →
    isExecutable route.result = true

inductive Moved (page : Page) : Event → Page → Prop
  | reopened (closed : page.route = none) :
      Moved page .tryAgain (Page.open page.mounts page.network)
  | unheard {i : Nat} {sender : Sender} {request : Request} (closed : page.route = none)
      (pending : page.network.Pending i sender request) (response : Response) :
      Moved page (.answer i response) { page with network := page.network.resolve i response }
  | answered {route : OrderRoutingRoute} {i : Nat} {sender : Sender} {request : Request}
      (shown : page.route = some route) (pending : page.network.Pending i sender request)
      (response : Response) :
      Moved page (.answer i response)
        (Page.commit { page with network := page.network.resolve i response }
          (route.settled sender request (answer request response)))
  | submitted {route : OrderRoutingRoute} (shown : page.route = some route)
      (idle : route.submitting = false) (request : Value) :
      Moved page (.submit request)
        ((page.send ⟨route.mount, none⟩ (.proposeRoute request)).commit
          { route with execution := .undefined, failure := none, submitting := true })
  | typed {route : OrderRoutingRoute} {panel : ExecutionPanel} (shown : page.route = some route)
      (mounted : route.panel = some panel) (approvalId : Text) :
      Moved page (.type approvalId)
        (page.commit { route with panel := some { panel with approvalId } })
  | lookedUp {route : OrderRoutingRoute} {panel : ExecutionPanel}
      (shown : page.route = some route) (mounted : route.panel = some panel)
      (idle : panel.busy = false) (id : Text) :
      Moved page .lookUp
        ((page.send ⟨route.mount, some panel.mount⟩ (.getApproval id)).commit
          { route with panel := some panel.looking })
  | unsendable {route : OrderRoutingRoute} {panel : ExecutionPanel}
      (shown : page.route = some route) (mounted : route.panel = some panel)
      (idle : panel.busy = false) :
      Moved page .lookUp
        (page.commit { route with panel := some (panel.looking.looked malformed) })
  | executed {event : Event} {route : OrderRoutingRoute} {panel : ExecutionPanel}
      (shown : page.route = some route) (mounted : route.panel = some panel)
      (idle : panel.busy = false) (approval : Option Value)
      (found : ∀ record, approval = some record →
        record = panel.lookup ∧ panel.lookup.truthy = true) :
      Moved page event ((page.send ⟨route.mount, some panel.mount⟩
        (.executeRoute (executeRequest route.result approval))).commit
          { route with failure := none, panel := some { panel with busy := true } })

theorem moved_of_click {page page' : Page} {event : Event} {route : OrderRoutingRoute}
    (hroute : page.route = some route) (h : page.click event route = some page') :
    Moved page event page' := by
  unfold Page.click at h
  split at h
  · split at h
    · cases h
    · rename_i hidle
      cases h
      exact .submitted hroute (Bool.eq_false_iff.mpr hidle) _
  · rename_i hpanel
    cases h
    exact .typed hroute hpanel _
  · rename_i hpanel
    dsimp only at h
    split at h
    · cases h
    rename_i hidle
    rw [Bool.or_eq_true, not_or] at hidle
    split at h
    · cases h
      exact .unsendable hroute hpanel (Bool.eq_false_iff.mpr hidle.1)
    · cases h
      exact .lookedUp hroute hpanel (Bool.eq_false_iff.mpr hidle.1) _
  · rename_i panel hpanel
    split at h
    · cases h
    · rename_i hidle
      cases h
      rw [Bool.or_eq_true, not_or, Bool.not_eq_true, Bool.not_eq_true', Bool.not_eq_false] at hidle
      refine .executed hroute hpanel hidle.1 (some panel.lookup) fun record hrecord => ?_
      exact ⟨(Option.some.inj hrecord).symm, hidle.2⟩
  · rename_i hpanel
    split at h
    · cases h
    · rename_i hidle
      cases h
      exact .executed hroute hpanel (Bool.eq_false_iff.mpr hidle) none nofun
  · cases h

theorem moved_of_step {page page' : Page} {event : Event} (h : step page event = some page') :
    Moved page event page' := by
  unfold step at h
  split at h
  · rename_i i response
    obtain ⟨⟨sender, request, earlier⟩, hget, h⟩ := Option.bind_eq_some_iff.mp h
    split at h
    · cases h
    rename_i hwaiting
    obtain rfl : earlier = none := by simpa using hwaiting
    dsimp only at h
    split at h
    · rename_i hroute
      cases h
      exact .unheard hroute hget response
    · rename_i route hroute
      cases h
      exact .answered hroute hget response
  · rename_i hroute
    cases h
    exact .reopened hroute
  · rename_i hroute
    exact moved_of_click hroute h
  · cases h

section

variable {page page' : Page} {network network' : Network} {mounts mounts' : Nat}
  {route : OrderRoutingRoute} {panel : ExecutionPanel}

theorem route_of_commit {route' : OrderRoutingRoute}
    (h : (page.commit route).route = some route') : route' = route.mounted page.mounts := by
  unfold Page.commit at h
  dsimp only at h
  split at h
  · exact (Option.some.inj h).symm
  · cases h

def Extends (network network' : Network) : Prop :=
  ∀ sender request response, network.Answered sender request response →
    network'.Answered sender request response

theorem extends_send (sender : Sender) (request : Request) :
    Extends network (network.send sender request) :=
  fun _ _ _ h => answered_send.mpr h

theorem extends_resolve {i : Nat} {sender : Sender} {request : Request}
    (h : network.Pending i sender request) (response : Response) :
    Extends network (network.resolve i response) :=
  fun _ _ _ hanswered => (answered_resolve h).mpr (.inl hanswered)

theorem Proposed.mono {mount : Nat} {result : Value} (h : Proposed network mount result)
    (hextends : Extends network network') : Proposed network' mount result := by
  obtain ⟨sender, request, response, hanswered, hok⟩ := h
  exact ⟨sender, request, response, hextends _ _ _ hanswered, hok⟩

theorem LookedUp.mono {mount : Nat} {record : Value} (h : LookedUp network mount record)
    (hextends : Extends network network') : LookedUp network' mount record := by
  obtain ⟨sender, id, response, hanswered, hok⟩ := h
  exact ⟨sender, id, response, hextends _ _ _ hanswered, hok⟩

theorem Genuine.mono {sender : Sender} {request : Value} (h : Genuine network sender request)
    (hextends : Extends network network') : Genuine network' sender request := by
  obtain ⟨result, approval, hproposed, hexecutable, hrequest, happroval⟩ := h
  refine ⟨result, approval, hproposed.mono hextends, hexecutable, hrequest, fun record hrecord => ?_⟩
  obtain ⟨htruthy, mount, hmount, hlooked⟩ := happroval record hrecord
  exact ⟨htruthy, mount, hmount, hlooked.mono hextends⟩

theorem Kept.send {sender : Sender} {request : Request} (h : Kept network mounts)
    (hroute : sender.route < mounts) (hpanel : ∀ mount, sender.panel = some mount → mount < mounts)
    (hproposes : ∀ proposal, request = .proposeRoute proposal → sender.panel = none)
    (hgenuine : ∀ sent, request = .executeRoute sent → Genuine network sender sent) :
    Kept (network.send sender request) mounts where
  route sender' request' hsent := by
    rcases sent_send.mp hsent with hearlier | ⟨rfl, _⟩
    · exact h.route _ _ hearlier
    · exact hroute
  panel sender' request' hsent := by
    rcases sent_send.mp hsent with hearlier | ⟨rfl, _⟩
    · exact h.panel _ _ hearlier
    · exact hpanel
  proposes sender' proposal hsent := by
    rcases sent_send.mp hsent with hearlier | ⟨rfl, hrequest⟩
    · exact h.proposes _ _ hearlier
    · exact hproposes _ hrequest.symm
  genuine sender' request' hsent := by
    have hextends : Extends network (network.send sender request) := extends_send _ _
    rcases sent_send.mp hsent with hearlier | ⟨rfl, hrequest⟩
    · exact (h.genuine _ _ hearlier).mono hextends
    · exact (hgenuine _ hrequest.symm).mono hextends

theorem Kept.resolve {i : Nat} {sender : Sender} {request : Request} (h : Kept network mounts)
    (hi : network.Pending i sender request) (response : Response) :
    Kept (network.resolve i response) mounts where
  route _ _ hsent := h.route _ _ ((sent_resolve hi).mp hsent)
  panel _ _ hsent := h.panel _ _ ((sent_resolve hi).mp hsent)
  proposes _ _ hsent := h.proposes _ _ ((sent_resolve hi).mp hsent)
  genuine _ _ hsent :=
    (h.genuine _ _ ((sent_resolve hi).mp hsent)).mono (extends_resolve hi response)

theorem Kept.later (h : Kept network mounts) (hle : mounts ≤ mounts') : Kept network mounts' where
  route _ _ hsent := (h.route _ _ hsent).trans_le hle
  panel _ _ hsent mount hmount := (h.panel _ _ hsent mount hmount).trans_le hle
  proposes := h.proposes
  genuine := h.genuine

theorem SoundPanel.later {owner : Nat} (h : SoundPanel network mounts owner panel)
    (hle : mounts ≤ mounts') : SoundPanel network mounts' owner panel :=
  ⟨h.mount.trans_le hle, h.lookup, h.within, h.single⟩

theorem SoundPanel.resolve {owner i : Nat} {sender : Sender} {request : Request}
    (h : SoundPanel network mounts owner panel) (hi : network.Pending i sender request)
    (response : Response) (hother : sender.panel ≠ some panel.mount) :
    SoundPanel (network.resolve i response) mounts owner panel where
  mount := h.mount
  lookup := h.lookup.imp_right (·.mono (extends_resolve hi response))
  within _ _ hsent := h.within _ _ ((sent_resolve hi).mp hsent)
  single := h.single.resolve_other hi hother

theorem SoundPanel.settle {owner i : Nat} {sender : Sender} {request : Request}
    {panel' : ExecutionPanel} (h : SoundPanel network mounts owner panel)
    (hi : network.Pending i sender request) (response : Response)
    (hfrom : sender.panel = some panel.mount) (hmount : panel'.mount = panel.mount)
    (hbusy : panel'.busy = false)
    (hlookup : panel'.lookup = panel.lookup ∨
      LookedUp (network.resolve i response) panel.mount panel'.lookup) :
    SoundPanel (network.resolve i response) mounts owner panel' where
  mount := hmount ▸ h.mount
  lookup := by
    rw [hmount]
    rcases hlookup with hsame | hlooked
    · rw [hsame]
      exact h.lookup.imp_right (·.mono (extends_resolve hi response))
    · exact .inr hlooked
  within _ _ hsent hpanel := h.within _ _ ((sent_resolve hi).mp hsent) (hmount ▸ hpanel)
  single := by
    rw [hmount]
    exact h.single.resolve_own hi hfrom (by rw [hbusy]; decide)

theorem soundPanel_mounted (h : Kept network mounts) (owner : Nat) :
    SoundPanel network (mounts + 1) owner { mount := mounts } := by
  have hunsent (sender : Sender) (request : Request) (hsent : network.Sent sender request) :
      sender.panel ≠ some mounts :=
    fun hfrom => Nat.lt_irrefl mounts (h.panel sender request hsent mounts hfrom)
  exact ⟨Nat.lt_succ_self mounts, .inl rfl,
    fun sender request hsent hfrom => absurd hfrom (hunsent sender request hsent),
    .of_unsent hunsent nofun⟩

theorem Orderly.commit (hkept : Kept page.network page.mounts)
    (hsound : Sound page.network page.mounts route) : Orderly (page.commit route) where
  kept := hkept.later (Nat.le_succ _)
  sound route' hroute' := by
    obtain rfl := route_of_commit hroute'
    refine ⟨hsound.mount.trans (Nat.lt_succ_self _), hsound.result, hsound.single, ?_⟩
    intro panel hpanel
    unfold OrderRoutingRoute.mounted at hpanel
    dsimp only at hpanel
    split at hpanel
    · obtain rfl := Option.some.inj hpanel
      cases hmounted : route.panel with
      | none => exact soundPanel_mounted hkept _
      | some panel => exact (hsound.panel panel hmounted).later (Nat.le_succ _)
    · cases hpanel
  executable route' panel hroute' hpanel := by
    obtain rfl := route_of_commit hroute'
    unfold OrderRoutingRoute.mounted at hpanel
    dsimp only at hpanel
    split at hpanel
    · assumption
    · cases hpanel

theorem orderly_open (h : Kept network mounts) : Orderly (Page.open mounts network) := by
  show Orderly (Page.commit ⟨none, mounts + 1, network⟩ _)
  refine .commit (h.later (Nat.le_succ _)) ?_
  refine ⟨Nat.lt_succ_self mounts, .inl rfl, .of_unsent ?_ nofun, nofun⟩
  rintro sender request hsent ⟨hroute, _⟩
  have hlt := h.route sender request hsent
  rw [hroute] at hlt
  exact Nat.lt_irrefl mounts hlt

theorem Sound.settled {i : Nat} {sender : Sender} {request : Request}
    (h : Sound network mounts route) (hkept : Kept network mounts)
    (hi : network.Pending i sender request) (response : Response) :
    Sound (network.resolve i response) mounts
      (route.settled sender request (answer request response)) := by
  have hresult : route.result = .undefined ∨
      Proposed (network.resolve i response) route.mount route.result :=
    h.result.imp_right (·.mono (extends_resolve hi response))
  have hanswered : (network.resolve i response).Answered sender request response :=
    (answered_resolve hi).mpr (.inr ⟨rfl, rfl, rfl⟩)
  have hsingle (hother : ∀ proposal, request ≠ .proposeRoute proposal) :
      Single (network.resolve i response) (Proposes route.mount) (route.submitting = true) := by
    refine h.single.resolve_other hi ?_
    rintro ⟨_, proposal, hproposal⟩
    exact hother proposal hproposal
  cases request with
  | proposeRoute proposal =>
    have hpanel (panel : ExecutionPanel) (hpanel : route.panel = some panel) :
        SoundPanel (network.resolve i response) mounts route.mount panel := by
      refine (h.panel panel hpanel).resolve hi response ?_
      rw [hkept.proposes sender proposal hi.sent]
      exact nofun
    unfold OrderRoutingRoute.settled
    dsimp only
    split
    case isFalse hroute =>
      exact ⟨h.mount, hresult, h.single.resolve_other hi fun howns => hroute howns.1, hpanel⟩
    rename_i hroute
    have hidle : Single (network.resolve i response) (Proposes route.mount) (false = true) :=
      h.single.resolve_own hi ⟨hroute, proposal, rfl⟩ nofun
    cases hanswer : answer (.proposeRoute proposal) response with
    | error failure => exact ⟨h.mount, .inl rfl, hidle, hpanel⟩
    | ok result => exact ⟨h.mount, .inr ⟨_, _, _, hanswered, hroute, hanswer⟩, hidle, hpanel⟩
  | getApproval id =>
    refine ⟨h.mount, hresult, hsingle nofun, fun panel' hpanel' => ?_⟩
    obtain ⟨panel, hpanel, rfl⟩ := Option.map_eq_some_iff.mp hpanel'
    split
    case isFalse hother => exact (h.panel panel hpanel).resolve hi response hother
    rename_i hmount
    cases hanswer : answer (.getApproval id) response with
    | error failure =>
      exact (h.panel panel hpanel).settle hi response hmount rfl rfl (.inl rfl)
    | ok record =>
      exact (h.panel panel hpanel).settle hi response hmount rfl rfl
        (.inr ⟨_, _, _, hanswered, hmount, hanswer⟩)
  | executeRoute request =>
    unfold OrderRoutingRoute.settled
    dsimp only
    split
    case isFalse hroute =>
      refine ⟨h.mount, hresult, hsingle nofun, fun panel hpanel => ?_⟩
      have hsound := h.panel panel hpanel
      exact hsound.resolve hi response fun hfrom => hroute (hsound.within sender _ hi.sent hfrom)
    refine ⟨h.mount, hresult, hsingle nofun, fun panel' hpanel' => ?_⟩
    obtain ⟨panel, hpanel, rfl⟩ := Option.map_eq_some_iff.mp hpanel'
    split
    case isFalse hother => exact (h.panel panel hpanel).resolve hi response hother
    rename_i hmount
    exact (h.panel panel hpanel).settle hi response hmount rfl rfl (.inl rfl)

theorem Sound.ask {panel' : ExecutionPanel} (h : Sound network mounts route)
    (hpanel : route.panel = some panel) (hidle : panel.busy = false) {request : Request}
    (hother : ∀ proposal, request ≠ .proposeRoute proposal) (failure : Option Value)
    (hmount : panel'.mount = panel.mount) (hbusy : panel'.busy = true)
    (hlookup : panel'.lookup = .undefined ∨ panel'.lookup = panel.lookup) :
    Sound (network.send ⟨route.mount, some panel.mount⟩ request) mounts
      { route with failure, panel := some panel' } := by
  have hextends : Extends network (network.send ⟨route.mount, some panel.mount⟩ request) :=
    extends_send _ _
  have hsound := h.panel panel hpanel
  refine ⟨h.mount, h.result.imp_right (·.mono hextends), ?_, ?_⟩
  · refine h.single.send_other ?_
    rintro ⟨_, proposal, hproposal⟩
    exact hother proposal hproposal
  · intro mounted hmounted
    obtain rfl := Option.some.inj hmounted
    refine ⟨hmount ▸ hsound.mount, ?_, ?_, ?_⟩
    · rcases hlookup with hnone | hsame
      · exact .inl hnone
      · rw [hmount, hsame]
        exact hsound.lookup.imp_right (·.mono hextends)
    · intro sender request' hsent hfrom
      rcases sent_send.mp hsent with hearlier | ⟨rfl, _⟩
      · exact hsound.within _ _ hearlier (hmount ▸ hfrom)
      · rfl
    · rw [hmount]
      exact hsound.single.send_own (Bool.eq_false_iff.mp hidle) rfl hbusy

theorem Orderly.moved {event : Event} (h : Orderly page) (hmoved : Moved page event page') :
    Orderly page' := by
  cases hmoved with
  | reopened => exact orderly_open h.kept
  | unheard closed pending response =>
    refine ⟨h.kept.resolve pending response, fun route hroute => ?_, fun route _ hroute => ?_⟩
    · cases closed.symm.trans hroute
    · cases closed.symm.trans hroute
  | @answered route _ sender request shown pending response =>
    exact .commit (h.kept.resolve pending response)
      ((h.sound route shown).settled h.kept pending response)
  | @submitted route shown idle request =>
    have hsound := h.sound route shown
    have hextends : Extends page.network
      (page.network.send ⟨route.mount, none⟩ (.proposeRoute request)) := extends_send _ _
    refine .commit (h.kept.send hsound.mount nofun (fun _ _ => rfl) nofun)
      ⟨hsound.mount, ?_, ?_, ?_⟩
    · exact hsound.result.imp_right (·.mono hextends)
    · exact hsound.single.send_own (Bool.eq_false_iff.mp idle) ⟨rfl, request, rfl⟩ rfl
    · intro panel hpanel
      have hkept := hsound.panel panel hpanel
      refine ⟨hkept.mount, hkept.lookup.imp_right (·.mono hextends), ?_,
        hkept.single.send_other nofun⟩
      intro sender request' hsent hfrom
      rcases sent_send.mp hsent with hearlier | ⟨rfl, _⟩
      · exact hkept.within _ _ hearlier hfrom
      · cases hfrom
  | @typed route panel shown mounted approvalId =>
    have hsound := h.sound route shown
    refine .commit h.kept ⟨hsound.mount, hsound.result, hsound.single, ?_⟩
    intro panel' hpanel'
    obtain rfl := Option.some.inj hpanel'
    have hkept := hsound.panel panel mounted
    exact ⟨hkept.mount, hkept.lookup, hkept.within, hkept.single⟩
  | @unsendable route panel shown mounted idle =>
    have hsound := h.sound route shown
    refine .commit h.kept ⟨hsound.mount, hsound.result, hsound.single, ?_⟩
    intro panel' hpanel'
    obtain rfl := Option.some.inj hpanel'
    have hkept := hsound.panel panel mounted
    have hsingle : Single page.network (FromPanel panel.mount) (false = true) :=
      idle ▸ hkept.single
    exact ⟨hkept.mount, .inl rfl, hkept.within, hsingle⟩
  | @lookedUp route panel shown mounted idle id =>
    have hsound := h.sound route shown
    refine .commit (h.kept.send hsound.mount ?_ nofun nofun)
      (hsound.ask mounted idle ?_ _ rfl rfl (.inl rfl))
    · rintro _ ⟨⟩
      exact (hsound.panel panel mounted).mount
    · exact nofun
  | @executed _ route panel shown mounted idle approval found =>
    have hsound := h.sound route shown
    have hexecutable := h.executable route panel shown mounted
    refine .commit (h.kept.send hsound.mount ?_ nofun ?_)
      (hsound.ask mounted idle ?_ _ rfl rfl (.inr rfl))
    · rintro _ ⟨⟩
      exact (hsound.panel panel mounted).mount
    · rintro sent ⟨⟩
      refine ⟨route.result, approval, ?_, hexecutable, rfl, fun record hrecord => ?_⟩
      · refine hsound.result.resolve_left fun hnone => ?_
        rw [hnone] at hexecutable
        cases hexecutable
      · obtain ⟨rfl, htruthy⟩ := found record hrecord
        refine ⟨htruthy, panel.mount, rfl, ?_⟩
        refine (hsound.panel panel mounted).lookup.resolve_left fun hnone => ?_
        rw [hnone] at htruthy
        cases htruthy
    · exact nofun

end

theorem kept_nil (mounts : Nat) : Kept [] mounts := by
  refine ⟨?_, ?_, ?_, ?_⟩
  all_goals
    rintro sender request ⟨answer, hmem⟩
    cases hmem

theorem orderly_visited (events : List Event) : Orderly (visited events) :=
  run_invariant (fun _ _ _ h hstep => h.moved (moved_of_step hstep))
    (orderly_open (kept_nil 0)) events

/-- Whatever is clicked and answered, in any order: what is executed is a proposal that was
answered, with the copy of an approval that was looked up or with none; a route says that it
submits, and a panel that it is busy, exactly while it waits for an answer, and only for one. -/
theorem requests_genuine (events : List Event) :
    (∀ sender request, (visited events).network.Sent sender (.executeRoute request) →
      Genuine (visited events).network sender request) ∧
    ∀ route, (visited events).route = some route →
      Single (visited events).network (Proposes route.mount) (route.submitting = true) ∧
      ∀ panel, route.panel = some panel →
        Single (visited events).network (FromPanel panel.mount) (panel.busy = true) := by
  have h := orderly_visited events
  refine ⟨h.kept.genuine, fun route hroute => ⟨(h.sound route hroute).single, ?_⟩⟩
  exact fun panel hpanel => ((h.sound route hroute).panel panel hpanel).single

end Fcmr.WebUi
