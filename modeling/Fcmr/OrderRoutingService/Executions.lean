import Fcmr.Library.Interference
import Fcmr.OrderRoutingService.OrderRoutingEndpoints

/-! Requests to the order routing service that overlap, one store call at a time: how far
the handling of each has come, and what a fill rests on. -/
namespace Fcmr.OrderRoutingService

open DotNet OrderRouting ServiceDefaults Programs
open ApprovalsService (ClaimsPrincipal)

inductive Arrival
  | propose (request : Option RouteProposalRequest) (user : Option ClaimsPrincipal)
    (correlation : CorrelationIdAccessor)
  | execute (request : Option ExecuteRouteRequest) (user : Option ClaimsPrincipal)
    (correlation : CorrelationIdAccessor)

def Arrival.handling : Arrival → Handling (Option Result)
  | propose request user correlation => proposeAsync request user correlation
  | execute request user correlation => executeAsync request user correlation

abbrev Serving := Pool Op Op.Ret (Option Result) InMemoryProposalStore

/-- A schedule: the request that makes the next call, and when. -/
abbrev Turn := Nat × DateTimeOffset

/-- Requests none of which has begun. -/
def serving (arrivals : List Arrival) (store : InMemoryProposalStore) : Serving :=
  ⟨arrivals.map (·.handling), store⟩

def fillOf : Handling (Option Result) → Option SimulatedExecution
  | .done (some ⟨201, .executed execution _ _⟩) => some execution
  | _ => none

def proposalOf : Handling (Option Result) → Option ProposalDescription
  | .done (some ⟨201, .proposed proposal _ _⟩) => some proposal
  | _ => none

theorem unfilled_of_status {result : Result} (h : result.statusCode ≠ 201) :
    fillOf (.done (some result)) = none := by
  unfold fillOf
  split
  · rename_i hresult
    cases hresult
    exact absurd rfl h
  · rfl

theorem unproposed_of_status {result : Result} (h : result.statusCode ≠ 201) :
    proposalOf (.done (some result)) = none := by
  unfold proposalOf
  split
  · rename_i hresult
    cases hresult
    exact absurd rfl h
  · rfl

def fillAt (pool : Serving) (i : Nat) : Option SimulatedExecution :=
  pool.threads[i]?.bind fillOf

def proposalAt (pool : Serving) (i : Nat) : Option ProposalDescription :=
  pool.threads[i]?.bind proposalOf

/-- What the order management system has let through: the fill of a proposal that was held
under the requested id, on the authorisation presented. -/
inductive Granted (Held : RouteProposal → Prop) (request : ExecuteRouteRequest)
    (user : Option ClaimsPrincipal) : SimulatedExecution → Prop
  | mk {proposal : RouteProposal} {authorization : ExecutionAuthorization} {now : DateTimeOffset}
      (held : Held proposal) (keyed : proposal.proposalId = request.proposalId)
      (presented : authorizationOf request user = some authorization)
      (executable : SimulatedOms.Executable proposal authorization now) :
      Granted Held request user (SimulatedOms.fill proposal authorization now none)

theorem Granted.mono {Held Held' : RouteProposal → Prop} {request : ExecuteRouteRequest}
    {user : Option ClaimsPrincipal} {execution : SimulatedExecution}
    (h : Granted Held request user execution) (hheld : ∀ proposal, Held proposal → Held' proposal) :
    Granted Held' request user execution := by
  obtain ⟨held, keyed, presented, executable⟩ := h
  exact .mk (hheld _ held) keyed presented executable

theorem Granted.proposalId {Held : RouteProposal → Prop} {request : ExecuteRouteRequest}
    {user : Option ClaimsPrincipal} {execution : SimulatedExecution}
    (h : Granted Held request user execution) : execution.proposalId = request.proposalId := by
  obtain ⟨_, keyed, _, _⟩ := h
  exact keyed

/-- How far a request has come. `Held` is what is known of a stored proposal from the
moment it is read or written. -/
inductive Stage (Held : RouteProposal → Prop) : Arrival → Handling (Option Result) → Prop
  | fresh (arrival : Arrival) : Stage Held arrival arrival.handling
  | proposed {request : Option RouteProposalRequest} {user : Option ClaimsPrincipal}
      {correlation : CorrelationIdAccessor} {proposal : RouteProposal} (held : Held proposal)
      (considered : List ConsideredVenue) (correlationId : Text) :
      Stage Held (.propose request user correlation)
        (.done (some ⟨201, .proposed (describe proposal) considered correlationId⟩))
  | held {request : ExecuteRouteRequest} {user : Option ClaimsPrincipal}
      {correlation : CorrelationIdAccessor} {proposal : RouteProposal} (held : Held proposal)
      (keyed : proposal.proposalId = request.proposalId) :
      Stage Held (.execute (some request) user correlation)
        (attemptExecution proposal request user correlation)
  | granted {request : ExecuteRouteRequest} {user : Option ClaimsPrincipal}
      {correlation : CorrelationIdAccessor} {execution : SimulatedExecution}
      (granted : Granted Held request user execution) :
      Stage Held (.execute (some request) user correlation)
        (markExecuted request.proposalId execution correlation)
  | filled {request : ExecuteRouteRequest} {user : Option ClaimsPrincipal}
      {correlation : CorrelationIdAccessor} {execution : SimulatedExecution}
      (granted : Granted Held request user execution) :
      Stage Held (.execute (some request) user correlation)
        (.done (some (filled execution correlation)))
  | other {arrival : Arrival} {answer : Option Result} (unfilled : fillOf (.done answer) = none)
      (unproposed : proposalOf (.done answer) = none) : Stage Held arrival (.done answer)

theorem Stage.mono {Held Held' : RouteProposal → Prop} {arrival : Arrival}
    {thread : Handling (Option Result)} (h : Stage Held arrival thread)
    (hheld : ∀ proposal, Held proposal → Held' proposal) : Stage Held' arrival thread := by
  cases h with
  | fresh => exact .fresh arrival
  | proposed held => exact .proposed (hheld _ held) _ _
  | held held keyed => exact .held (hheld _ held) keyed
  | granted granted => exact .granted (granted.mono hheld)
  | filled granted => exact .filled (granted.mono hheld)
  | other unfilled unproposed => exact .other unfilled unproposed

theorem proposeAsync_cases (request : Option RouteProposalRequest) (user : Option ClaimsPrincipal)
    (correlation : CorrelationIdAccessor) :
    (∃ answer, proposeAsync request user correlation = .done answer ∧
      fillOf (.done answer) = none ∧ proposalOf (.done answer) = none) ∨
    ∃ proposal considered correlation', proposeAsync request user correlation =
      answerOutcome (.proposed proposal considered) correlation' ∧
      proposal.proposedBy = (FcmrAuthorization.objectId user).getD anonymousCaller := by
  unfold proposeAsync
  split
  · exact .inl ⟨_, rfl, rfl, rfl⟩
  split
  · exact .inl ⟨_, rfl, rfl, rfl⟩
  dsimp only
  split
  · exact .inl ⟨_, rfl, rfl, rfl⟩
  split
  · exact .inl ⟨_, rfl, rfl, rfl⟩
  rename_i outcome houtcome
  cases outcome with
  | halted breaches considered => exact .inl ⟨_, rfl, rfl, rfl⟩
  | proposed proposal considered =>
    exact .inr ⟨proposal, considered, _, rfl, (RoutePlanner.plan_proposed houtcome).proposer⟩

theorem Arrival.handling_cases (arrival : Arrival) :
    (∃ answer, arrival.handling = .done answer ∧ fillOf (.done answer) = none ∧
      proposalOf (.done answer) = none) ∨
    ∃ op rest, arrival.handling = .call op rest ∧ ∀ id, op ≠ .tryMarkExecuted id := by
  cases arrival with
  | propose request user correlation =>
    rcases proposeAsync_cases request user correlation with
      hanswered | ⟨proposal, considered, correlation', hcall, _⟩
    · exact .inl hanswered
    · exact .inr ⟨.save proposal, _, hcall, nofun⟩
  | execute request user correlation =>
    cases request with
    | none => exact .inl ⟨_, rfl, rfl, rfl⟩
    | some request => exact .inr ⟨.find request.proposalId, _, rfl, nofun⟩

inductive Pending (Held : RouteProposal → Prop) :
    Arrival → (op : Op) → (op.Ret → Handling (Option Result)) → Prop
  | saves {request : Option RouteProposalRequest} {user : Option ClaimsPrincipal}
      {correlation : CorrelationIdAccessor} (proposal : RouteProposal)
      (considered : List ConsideredVenue) (correlationId : Text) :
      Pending Held (.propose request user correlation) (.save proposal) fun _ =>
        .done (some ⟨201, .proposed (describe proposal) considered correlationId⟩)
  | finds {request : ExecuteRouteRequest} {user : Option ClaimsPrincipal}
      {correlation : CorrelationIdAccessor} (missing : Result) (absent : missing.statusCode = 404) :
      Pending Held (.execute (some request) user correlation) (.find request.proposalId)
        fun found => match found with
          | none => .done (some missing)
          | some proposal => attemptExecution proposal request user correlation
  | asks {request : ExecuteRouteRequest} {user : Option ClaimsPrincipal}
      {correlation : CorrelationIdAccessor} {proposal : RouteProposal} (held : Held proposal)
      (keyed : proposal.proposalId = request.proposalId) :
      Pending Held (.execute (some request) user correlation) .getUtcNow fun now =>
        match SimulatedOms.execute proposal (authorizationOf request user) now none with
        | .refused reason explanation => .done (some (refused reason explanation correlation))
        | .executed execution _ => markExecuted request.proposalId execution correlation
  | marks {request : ExecuteRouteRequest} {user : Option ClaimsPrincipal}
      {correlation : CorrelationIdAccessor} {execution : SimulatedExecution}
      (granted : Granted Held request user execution) {rest : Bool → Handling (Option Result)}
      (first : rest true = .done (some (filled execution correlation)))
      (replayed : rest false = .done (some (alreadyExecuted request.proposalId correlation))) :
      Pending Held (.execute (some request) user correlation) (.tryMarkExecuted request.proposalId)
        rest

theorem Stage.pending {Held : RouteProposal → Prop} {arrival : Arrival} {op : Op}
    {rest : op.Ret → Handling (Option Result)} (h : Stage Held arrival (.call op rest)) :
    Pending Held arrival op rest := by
  generalize hthread : Program.call op rest = thread at h
  cases h with
  | fresh =>
    cases arrival with
    | propose request user correlation =>
      change _ = proposeAsync request user correlation at hthread
      rcases proposeAsync_cases request user correlation with
        ⟨answer, hanswer, _, _⟩ | ⟨proposal, considered, correlation', hanswer, _⟩
      · cases hthread.trans hanswer
      · cases hthread.trans hanswer
        exact .saves proposal _ _
    | execute request user correlation =>
      cases request with
      | none => cases hthread
      | some request =>
        cases hthread
        exact .finds _ rfl
  | proposed => cases hthread
  | held held keyed =>
    cases hthread
    exact .asks held keyed
  | granted granted =>
    cases hthread
    exact .marks granted rfl rfl
  | filled => cases hthread
  | other => cases hthread

theorem proposeAsync_planned {request : RouteProposalRequest} {user : Option ClaimsPrincipal}
    {correlation correlation' : CorrelationIdAccessor} {proposal : RouteProposal}
    {considered : List VenueEvaluation}
    (hadopted : correlation.tryAdoptFromBody request.correlationId = (true, correlation'))
    (hvalid : validate request = [])
    (houtcome : outcomeOf request user correlation' = some (.proposed proposal considered)) :
    proposeAsync (some request) user correlation =
      answerOutcome (.proposed proposal considered) correlation' := by
  unfold proposeAsync
  simp [hadopted, hvalid, houtcome]

theorem Stage.next {Held Held' : RouteProposal → Prop} {arrival : Arrival} {op : Op}
    {rest : op.Ret → Handling (Option Result)} (h : Stage Held arrival (.call op rest))
    {now : DateTimeOffset} {store : InMemoryProposalStore}
    (hheld : ∀ proposal, Held proposal → Held' proposal)
    (hsave : ∀ proposal, op = .save proposal → Held' proposal)
    (hfind : ∀ id proposal, op = .find id → store.find id = some proposal → Held' proposal) :
    Stage Held' arrival (rest (serve op now store).1) := by
  cases h.pending with
  | saves proposal => exact .proposed (hsave proposal rfl) _ _
  | @finds request _ _ missing absent =>
    simp only [serve]
    split
    · exact .other (unfilled_of_status (by simp [absent])) (unproposed_of_status (by simp [absent]))
    · rename_i proposal hfound
      exact .held (hfind _ proposal rfl hfound) (store.keyed _ proposal hfound)
  | asks held keyed =>
    simp only [serve]
    split
    · exact .other rfl rfl
    · rename_i execution explanation houtcome
      obtain ⟨authorization, hpresented, hexecutable, rfl⟩ :=
        SimulatedOms.executable_of_execute houtcome
      exact .granted (.mk (hheld _ held) keyed hpresented hexecutable)
  | @marks request _ _ _ granted _ first replayed =>
    simp only [serve]
    cases (store.tryMarkExecuted request.proposalId).1 with
    | true => exact first ▸ .filled (granted.mono hheld)
    | false => exact replayed ▸ .other rfl rfl

section

variable {arrivals : List Arrival} {store : InMemoryProposalStore} {turns : List Turn}

theorem run_stage (Held : List Turn → RouteProposal → Prop)
    (kept : ∀ before turn proposal, before ++ [turn] <+: turns → Held before proposal →
      Held (before ++ [turn]) proposal)
    (saved : ∀ before turn proposal rest, before ++ [turn] <+: turns →
      ((serving arrivals store).run serve before).threads[turn.1]? =
        some (.call (.save proposal) rest) → Held (before ++ [turn]) proposal)
    (found : ∀ before turn id proposal, before ++ [turn] <+: turns →
      ((serving arrivals store).run serve before).state.find id = some proposal →
        Held (before ++ [turn]) proposal)
    {before : List Turn} (hbefore : before <+: turns) {i : Nat} {thread : Handling (Option Result)}
    (h : ((serving arrivals store).run serve before).threads[i]? = some thread) :
    ∃ arrival, arrivals[i]? = some arrival ∧ Stage (Held before) arrival thread := by
  refine Pool.run_knows
    (fun before i thread =>
      ∃ arrival, arrivals[i]? = some arrival ∧ Stage (Held before) arrival thread)
    ?_ ?_ ?_ hbefore h
  · intro i thread hthread
    obtain ⟨arrival, harrival, rfl⟩ := List.getElem?_map .. ▸ hthread |> Option.map_eq_some_iff.mp
    exact ⟨arrival, harrival, .fresh arrival⟩
  · rintro before turn op rest hturn hthread ⟨arrival, harrival, hstage⟩
    refine ⟨arrival, harrival, hstage.next (fun proposal => kept before turn proposal hturn) ?_ ?_⟩
    · rintro proposal rfl
      exact saved before turn proposal rest hturn hthread
    · rintro id proposal rfl hfound
      exact found before turn id proposal hturn hfound
  · rintro before turn i thread hturn ⟨arrival, harrival, hstage⟩
    exact ⟨arrival, harrival, hstage.mono fun proposal => kept before turn proposal hturn⟩

/-- What one turn does to the executed ids and to the fills: nothing, or it marks an id for
the first time and answers the request with its fill. -/
theorem turn_cases {Held : RouteProposal → Prop} {pool : Serving} {turn : Turn}
    (hstage : ∀ thread, pool.threads[turn.1]? = some thread →
      ∃ arrival, arrivals[turn.1]? = some arrival ∧ Stage Held arrival thread) :
    ((pool.step serve turn).state.executed = pool.state.executed ∧
      ∀ i, fillAt (pool.step serve turn) i = fillAt pool i) ∨
    ∃ request user correlation execution,
      arrivals[turn.1]? = some (.execute (some request) user correlation) ∧
      Granted Held request user execution ∧ request.proposalId ∉ pool.state.executed ∧
      (pool.step serve turn).state.executed = insert request.proposalId pool.state.executed ∧
      (pool.step serve turn).state.find = pool.state.find ∧
      (pool.step serve turn).threads[turn.1]? =
        some (.done (some (filled execution correlation))) := by
  rcases pool.step_cases serve turn with hidle | ⟨op, rest, hthread, _⟩
  · left
    rw [hidle]
    exact ⟨rfl, fun _ => rfl⟩
  obtain ⟨hnext, hstate⟩ :
      (pool.step serve turn).threads[turn.1]? = some (rest (serve op turn.2 pool.state).1) ∧
        (pool.step serve turn).state = (serve op turn.2 pool.state).2 := Pool.step_own hthread
  obtain ⟨arrival, harrival, hstage⟩ := hstage _ hthread
  have hquiet (hanswer : fillOf (rest (serve op turn.2 pool.state).1) = none) (i : Nat) :
      fillAt (pool.step serve turn) i = fillAt pool i := by
    by_cases hi : i = turn.1
    · subst hi
      rw [fillAt, fillAt, hnext, hthread]
      exact hanswer
    · rw [fillAt, fillAt, Pool.step_other hi]
  cases hstage.pending with
  | saves proposal =>
    left
    rw [hstate]
    exact ⟨rfl, hquiet rfl⟩
  | finds missing absent =>
    left
    rw [hstate]
    refine ⟨rfl, hquiet ?_⟩
    simp only [serve]
    split
    · exact unfilled_of_status (by simp [absent])
    · rfl
  | asks =>
    left
    rw [hstate]
    refine ⟨rfl, hquiet ?_⟩
    simp only [serve]
    split <;> rfl
  | @marks request user correlation execution granted rest first replayed =>
    by_cases hmarked : request.proposalId ∈ pool.state.executed
    · have hserve : serve (.tryMarkExecuted request.proposalId) turn.2 pool.state =
          (false, pool.state) := InMemoryProposalStore.tryMarkExecuted_marked hmarked
      left
      rw [hstate, hserve]
      refine ⟨rfl, hquiet ?_⟩
      rw [hserve]
      exact replayed ▸ rfl
    · have hserve := InMemoryProposalStore.tryMarkExecuted_fresh hmarked
      right
      refine ⟨request, user, correlation, execution, harrival, granted, hmarked, ?_, ?_, ?_⟩
      · rw [hstate]
        exact congrArg (·.2.executed) hserve
      · rw [hstate]
        exact congrArg (·.2.find) hserve
      · rw [hnext, ← first]
        exact congrArg (fun answer => some (rest answer.1)) hserve

def StoredIn (pool : Serving) (before : List Turn) (proposal : RouteProposal) : Prop :=
  ∃ earlier, earlier <+: before ∧
    (pool.run serve earlier).state.find proposal.proposalId = some proposal

theorem StoredIn.mono {pool : Serving} {before later : List Turn} {proposal : RouteProposal}
    (h : StoredIn pool before proposal) (hextends : before <+: later) :
    StoredIn pool later proposal := by
  obtain ⟨earlier, hearlier, hfind⟩ := h
  exact ⟨earlier, hearlier.trans hextends, hfind⟩

/-- The requests of a run are at their stages, with knowledge that may vary in time. -/
def Staged (arrivals : List Arrival) (store : InMemoryProposalStore)
    (Held : List Turn → RouteProposal → Prop) (turns : List Turn) : Prop :=
  ∀ before, before <+: turns → ∀ (i : Nat) thread,
    ((serving arrivals store).run serve before).threads[i]? = some thread →
      ∃ arrival, arrivals[i]? = some arrival ∧ Stage (Held before) arrival thread

theorem staged_stored : Staged arrivals store (StoredIn (serving arrivals store)) turns := by
  intro before hbefore i thread h
  refine run_stage (StoredIn (serving arrivals store)) ?_ ?_ ?_ hbefore h
  · intro before turn proposal _ hstored
    exact hstored.mono (List.prefix_append before [turn])
  · intro before turn proposal rest _ hthread
    refine ⟨before ++ [turn], List.prefix_rfl, ?_⟩
    rw [Pool.run_concat, (Pool.step_own hthread).2]
    simp [serve]
  · intro before turn id proposal _ hfind
    refine ⟨before, List.prefix_append before [turn], ?_⟩
    rwa [InMemoryProposalStore.keyed _ id proposal hfind]

theorem executed_mono {before later : List Turn} (hextends : before <+: later) {id : Text}
    (h : id ∈ ((serving arrivals store).run serve before).state.executed) :
    id ∈ ((serving arrivals store).run serve later).state.executed := by
  obtain ⟨gap, rfl⟩ := hextends
  induction gap using List.reverseRecOn with
  | nil => rwa [List.append_nil]
  | append_singleton gap turn ih =>
    rw [← List.append_assoc, Pool.run_concat]
    have hstaged : Staged arrivals store (StoredIn (serving arrivals store)) (before ++ gap) :=
      staged_stored
    rcases turn_cases (hstaged _ List.prefix_rfl turn.1) with
      ⟨hsame, _⟩ | ⟨_, _, _, _, _, _, _, hinsert, _⟩
    · rw [hsame]
      exact ih
    · rw [hinsert]
      exact Finset.mem_insert_of_mem ih

theorem fillOf_handling (arrival : Arrival) : fillOf arrival.handling = none := by
  rcases arrival.handling_cases with ⟨answer, hanswer, hunfilled, _⟩ | ⟨op, rest, hcall, _⟩
  · rw [hanswer]
    exact hunfilled
  · rw [hcall]
    rfl

theorem fillAt_serving (i : Nat) : fillAt (serving arrivals store) i = none := by
  simp [fillAt, serving, List.getElem?_map, Option.bind_map, fillOf_handling]

theorem fill_turn {Held : List Turn → RouteProposal → Prop}
    {before later : List Turn} (hstaged : Staged arrivals store Held later)
    (hextends : before <+: later) {i : Nat} {execution : SimulatedExecution}
    (hbefore : fillAt ((serving arrivals store).run serve before) i = none)
    (hlater : fillAt ((serving arrivals store).run serve later) i = some execution) :
    ∃ middle now request user correlation, before <+: middle ∧ middle ++ [(i, now)] <+: later ∧
      arrivals[i]? = some (.execute (some request) user correlation) ∧
      Granted (Held middle) request user execution ∧
      execution.proposalId ∉ ((serving arrivals store).run serve middle).state.executed ∧
      execution.proposalId ∈
        ((serving arrivals store).run serve (middle ++ [(i, now)])).state.executed := by
  obtain ⟨middle, turn, hmiddle, hturn, hnot, hyes⟩ := Pool.exists_turn_of_change
    (fun pool => fillAt pool i = some execution) hextends (by simp [hbefore]) hlater
  have hearlier := (List.prefix_append middle [turn]).trans hturn
  rcases turn_cases (hstaged middle hearlier turn.1) with
    ⟨_, hsame⟩ | ⟨request, user, correlation, granted, harrival, hgranted, hnew, hinsert, _, hdone⟩
  · exact absurd ((hsame i).symm.trans hyes) hnot
  · have hi : i = turn.1 := by
      by_contra hne
      apply hnot
      rw [← hyes, fillAt, fillAt, Pool.step_other hne]
    subst hi
    have hexecution : granted = execution := by
      have hfill : fillAt (((serving arrivals store).run serve middle).step serve turn) turn.1 =
          some granted := by
        rw [fillAt, hdone]
        rfl
      exact Option.some.inj (hfill.symm.trans hyes)
    subst hexecution
    refine ⟨middle, turn.2, request, user, correlation, hmiddle, hturn, harrival, hgranted, ?_, ?_⟩
    · rwa [hgranted.proposalId]
    · rw [Pool.run_concat, hinsert, hgranted.proposalId]
      exact Finset.mem_insert_self _ _

theorem marked_once {middle middle' : List Turn} {turn turn' : Turn} {id : Text}
    (hextends : middle ++ [turn] <+: middle' ++ [turn'])
    (hmarked : id ∈ ((serving arrivals store).run serve (middle ++ [turn])).state.executed)
    (hnew : id ∉ ((serving arrivals store).run serve middle').state.executed) : turn = turn' := by
  rcases List.prefix_concat_iff.mp hextends with hsame | hearlier
  · exact (List.append_singleton_inj.mp hsame).2
  · exact absurd (executed_mono hearlier hmarked) hnew

/-- The three promises of `ExecuteAsync` at the end of a run. -/
structure ExecutesOnce (arrivals : List Arrival) (store : InMemoryProposalStore)
    (turns : List Turn) : Prop where
  one_fill : ∀ i j execution execution',
    fillAt ((serving arrivals store).run serve turns) i = some execution →
    fillAt ((serving arrivals store).run serve turns) j = some execution' →
    execution.proposalId = execution'.proposalId → i = j
  authorised : ∀ i execution,
    fillAt ((serving arrivals store).run serve turns) i = some execution →
    ∃ request user correlation authorization proposal now explanation,
      arrivals[i]? = some (.execute (some request) user correlation) ∧
      authorizationOf request user = some authorization ∧
      proposal.proposalId = request.proposalId ∧
      StoredIn (serving arrivals store) turns proposal ∧
      SimulatedOms.execute proposal (some authorization) now none = .executed execution explanation
  refused : ∀ before turn reason explanation correlation, before ++ [turn] <+: turns →
    ((serving arrivals store).run serve turns).threads[turn.1]? =
      some (.done (some (refused reason explanation correlation))) →
    ((serving arrivals store).run serve (before ++ [turn])).state.executed =
      ((serving arrivals store).run serve before).state.executed

/-- Whatever the order of the calls. -/
theorem executes_once (arrivals : List Arrival) (store : InMemoryProposalStore)
    (turns : List Turn) : ExecutesOnce arrivals store turns := by
  have hstart (i : Nat) : fillAt ((serving arrivals store).run serve []) i = none :=
    fillAt_serving i
  constructor
  · intro i j execution execution' hi hj hsame
    obtain ⟨middle, now, _, _, _, _, hturn, _, _, hnew, hmarked⟩ :=
      fill_turn staged_stored (List.nil_prefix) (hstart i) hi
    obtain ⟨middle', now', _, _, _, _, hturn', _, _, hnew', hmarked'⟩ :=
      fill_turn staged_stored (List.nil_prefix) (hstart j) hj
    rcases List.prefix_or_prefix_of_prefix hturn hturn' with hextends | hextends
    · exact congrArg Prod.fst (marked_once hextends (hsame ▸ hmarked) hnew')
    · exact congrArg Prod.fst (marked_once hextends hmarked' (hsame ▸ hnew)).symm
  · intro i execution hi
    obtain ⟨middle, now, request, user, correlation, _, hturn, harrival, hgranted, _⟩ :=
      fill_turn staged_stored (List.nil_prefix) (hstart i) hi
    obtain ⟨held, keyed, presented, executable⟩ := hgranted
    have hearlier := (List.prefix_append middle [(i, now)]).trans hturn
    exact ⟨request, user, correlation, _, _, _, _, harrival, presented, keyed, held.mono hearlier,
      SimulatedOms.execute_of_executable executable none⟩
  · intro before turn reason explanation correlation hturn hrefused
    rw [Pool.run_concat]
    have hearlier := (List.prefix_append before [turn]).trans hturn
    rcases turn_cases (staged_stored before hearlier turn.1) with
      ⟨hsame, _⟩ | ⟨_, _, _, _, _, _, _, _, _, hdone⟩
    · exact hsame
    · rw [← Pool.run_concat] at hdone
      cases (Pool.run_done hturn hdone).symm.trans hrefused

end

theorem run_executeAsync {pool : Serving} {i : Nat} {now : DateTimeOffset}
    {request : ExecuteRouteRequest} {user : Option ClaimsPrincipal}
    {correlation : CorrelationIdAccessor} {proposal : RouteProposal}
    {authorization : ExecutionAuthorization}
    (h : pool.threads[i]? = some (executeAsync (some request) user correlation))
    (hfind : pool.state.find request.proposalId = some proposal)
    (hpresented : authorizationOf request user = some authorization)
    (hexecutable : SimulatedOms.Executable proposal authorization now)
    (hnew : request.proposalId ∉ pool.state.executed) :
    pool.run serve [(i, now), (i, now), (i, now)] =
      ⟨pool.threads.set i (.done (some
          (filled (SimulatedOms.fill proposal authorization now none) correlation))),
        (pool.state.tryMarkExecuted request.proposalId).2⟩ := by
  obtain ⟨hlt, hget⟩ := List.getElem?_eq_some_iff.mp h
  simp [Pool.run, Pool.step, hlt, hget, executeAsync, Programs.step, serve, hfind, attemptExecution,
    hpresented, SimulatedOms.execute_of_executable hexecutable, markExecuted,
    InMemoryProposalStore.tryMarkExecuted_fresh hnew]

theorem run_replayed {pool : Serving} {i : Nat} {now : DateTimeOffset}
    {request : ExecuteRouteRequest} {user : Option ClaimsPrincipal}
    {correlation : CorrelationIdAccessor} {proposal : RouteProposal}
    {authorization : ExecutionAuthorization}
    (h : pool.threads[i]? = some (executeAsync (some request) user correlation))
    (hfind : pool.state.find request.proposalId = some proposal)
    (hpresented : authorizationOf request user = some authorization)
    (hexecutable : SimulatedOms.Executable proposal authorization now)
    (hold : request.proposalId ∈ pool.state.executed) :
    pool.run serve [(i, now), (i, now), (i, now)] =
      ⟨pool.threads.set i (.done (some (alreadyExecuted request.proposalId correlation))),
        pool.state⟩ := by
  obtain ⟨hlt, hget⟩ := List.getElem?_eq_some_iff.mp h
  simp [Pool.run, Pool.step, hlt, hget, executeAsync, Programs.step, serve, hfind, attemptExecution,
    hpresented, SimulatedOms.execute_of_executable hexecutable, markExecuted,
    InMemoryProposalStore.tryMarkExecuted_marked hold]

namespace Samples

def quote : VenueQuoteDto where
  venueCode := lit "XLIT"
  type := .lit
  midPrice := .literal 100 0
  spread := .literal 2 2
  displayedLiquidity := 100000

def routeRequest (orderId : Text) (quantity : Int32) : RouteProposalRequest where
  correlationId := none
  orderId := some orderId
  symbol := some (lit "ACME")
  side := .buy
  quantity
  arrivalMidPrice := .literal 100 0
  limitPrice := some (.literal 101 0)
  quotes := some [quote]

def userAlice : Option ClaimsPrincipal := some ⟨true, [⟨lit "oid", lit "alice"⟩]⟩
def userBob : Option ClaimsPrincipal := some ⟨true, [⟨lit "oid", lit "bob"⟩]⟩
def header : CorrelationIdAccessor := ⟨lit "corr-1", .header⟩

def isProposed : Option RoutingOutcome → Bool
  | some (.proposed ..) => true
  | _ => false

theorem routeRequest_handling (orderId : Text) (quantity : Int32) (user : Option ClaimsPrincipal)
    (hvalid : validate (routeRequest orderId quantity) = [])
    (hproposed : isProposed (outcomeOf (routeRequest orderId quantity) user header) = true) :
    ∃ proposal considered,
      proposeAsync (some (routeRequest orderId quantity)) user header =
        answerOutcome (.proposed proposal considered) header ∧
      proposal.proposalId = lit "prop-" ++ orderId ∧ proposal.quantity = quantity ∧
      proposal.correlationId = lit "corr-1" ∧
      proposal.proposedBy = (FcmrAuthorization.objectId user).getD anonymousCaller := by
  unfold isProposed at hproposed
  split at hproposed
  · rename_i proposal considered houtcome
    have hplanned := RoutePlanner.plan_proposed houtcome
    exact ⟨proposal, considered, proposeAsync_planned rfl hvalid houtcome, hplanned.proposalId,
      hplanned.quantity, hplanned.correlationId, hplanned.proposer⟩
  · cases hproposed

def approval : ApprovalDto := ⟨lit "ap-1", lit "bob", 1000, 5000⟩

def executeRequest (proposalId : Text) : ExecuteRouteRequest :=
  ⟨proposalId, lit "corr-1", some approval⟩

def authorization (proposalId : Text) : ExecutionAuthorization :=
  ⟨lit "ap-1", proposalId, lit "corr-1", lit "bob", 1000, 5000⟩

theorem executeRequest_presents (proposalId : Text) :
    authorizationOf (executeRequest proposalId) userBob = some (authorization proposalId) := rfl

theorem authorization_executable {proposal : RouteProposal}
    (hcorrelation : proposal.correlationId = lit "corr-1")
    (hproposer : proposal.proposedBy = lit "alice") :
    SimulatedOms.Executable proposal (authorization proposal.proposalId) 2000 where
  sameProposal := rfl
  correlation := hcorrelation.symm
  inTime := show 2000 < 5000 by decide
  segregated := by
    rw [hproposer]
    exact show equalsOrdinalIgnoreCase (some (lit "bob")) (some (lit "alice")) = false by decide

def turn (thread : Nat) : Turn := (thread, 2000)

end Samples

end Fcmr.OrderRoutingService
