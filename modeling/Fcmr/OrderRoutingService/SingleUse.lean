import Fcmr.OrderRoutingService.Executions

/-! One approval, one proposal. The order management system compares the proposal of an
authorisation with the proposal executed, but both come from the same request. -/
namespace Fcmr.OrderRoutingService

open DotNet OrderRouting ServiceDefaults Programs
open ApprovalsService (ClaimsPrincipal)

def hasBegun : Handling (Option Result) → Bool
  | .call (.find _) _ => false
  | _ => true

/-- A request that has begun has presented its approval, for the proposal that it names. -/
structure Presented (arrivals : List Arrival) (pool : Serving) (i : Nat)
    (request : ExecuteRouteRequest) (approval : ApprovalDto) : Prop where
  arrived : ∃ user correlation, arrivals[i]? = some (.execute (some request) user correlation)
  approval : request.approval = some approval
  begun : ∃ thread, pool.threads[i]? = some thread ∧ hasBegun thread = true

/-- An approval is single-use and bound to its proposal, in every state of a run. -/
structure ApprovalsBound (arrivals : List Arrival) (pool : Serving) (turns : List Turn) : Prop where
  one_fill : ∀ before i j execution execution', before <+: turns →
    fillAt (pool.run serve before) i = some execution →
    fillAt (pool.run serve before) j = some execution' →
    execution.approvalId = execution'.approvalId → i = j
  foreign : ∀ before later (i j : Nat) request request' approval approval' user correlation thread
    answer, before <+: later → later <+: turns →
    Presented arrivals (pool.run serve before) i request approval →
    arrivals[j]? = some (.execute (some request') user correlation) →
    request'.approval = some approval' → approval'.approvalId = approval.approvalId →
    request'.proposalId ≠ request.proposalId →
    (pool.run serve before).threads[j]? = some thread → hasBegun thread = false →
    (pool.run serve later).threads[j]? = some (.done answer) →
    ∃ explanation, answer =
      some (refused .authorizationForDifferentProposal explanation correlation)

/-- When a request begins, its approval has been presented for no other proposal. -/
def FirstUse (arrivals : List Arrival) (pool : Serving) (turn : Turn) : Prop :=
  ∀ thread i request request' approval approval' user correlation,
    pool.threads[turn.1]? = some thread → hasBegun thread = false →
    arrivals[turn.1]? = some (.execute (some request) user correlation) →
    request.approval = some approval → Presented arrivals pool i request' approval' →
    approval'.approvalId = approval.approvalId → request'.proposalId = request.proposalId

theorem approval_of_presented {request : ExecuteRouteRequest} {user : Option ClaimsPrincipal}
    {authorization : ExecutionAuthorization}
    (h : authorizationOf request user = some authorization) :
    ∃ approval, request.approval = some approval ∧
      authorization.approvalId = approval.approvalId ∧
      authorization.proposalId = request.proposalId := by
  unfold authorizationOf at h
  split at h
  · rename_i approval _ happroval _
    split at h
    · cases h
    · cases h
      exact ⟨approval, happroval, rfl, rfl⟩
  · cases h

section

variable {arrivals : List Arrival} {store : InMemoryProposalStore} {turns : List Turn}
  {pool : Serving} {turn : Turn} {i : Nat} {request : ExecuteRouteRequest} {approval : ApprovalDto}

theorem presented_turn (h : Presented arrivals (pool.step serve turn) i request approval) :
    Presented arrivals pool i request approval ∨
      i = turn.1 ∧ ∃ thread, pool.threads[turn.1]? = some thread ∧ hasBegun thread = false := by
  obtain ⟨harrived, happroval, thread, hthread, hbegun⟩ := h
  by_cases hi : i = turn.1
  case neg =>
    rw [Pool.step_other hi] at hthread
    exact .inl ⟨harrived, happroval, thread, hthread, hbegun⟩
  subst hi
  rcases pool.step_cases serve turn with hidle | ⟨op, rest, hcall, _⟩
  · rw [hidle] at hthread
    exact .inl ⟨harrived, happroval, thread, hthread, hbegun⟩
  cases hearlier : hasBegun (.call op rest) with
  | true => exact .inl ⟨harrived, happroval, _, hcall, hearlier⟩
  | false => exact .inr ⟨rfl, _, hcall, hearlier⟩

theorem not_presented_serving : ¬Presented arrivals (serving arrivals store) i request approval := by
  rintro ⟨⟨user, correlation, harrival⟩, _, thread, hthread, hbegun⟩
  rw [serving, List.getElem?_map, harrival] at hthread
  cases hthread
  cases hbegun

theorem Stage.begun {Held : RouteProposal → Prop} {arrival : Arrival} {op : Op}
    {rest : op.Ret → Handling (Option Result)} (h : Stage Held arrival (.call op rest))
    (now : DateTimeOffset) (store : InMemoryProposalStore) :
    hasBegun (rest (serve op now store).1) = true := by
  cases h.pending with
  | saves => rfl
  | finds missing absent =>
    dsimp only
    split <;> rfl
  | asks held keyed =>
    dsimp only
    split <;> rfl
  | @marks request _ _ _ _ _ first replayed =>
    simp only [serve]
    cases (store.tryMarkExecuted request.proposalId).1 with
    | true => rw [first]; rfl
    | false => rw [replayed]; rfl

theorem Presented.later {before later : List Turn} (hextends : before <+: later)
    (h : Presented arrivals ((serving arrivals store).run serve before) i request approval) :
    Presented arrivals ((serving arrivals store).run serve later) i request approval := by
  obtain ⟨gap, rfl⟩ := hextends
  induction gap using List.reverseRecOn with
  | nil => rwa [List.append_nil]
  | append_singleton gap turn ih =>
    obtain ⟨harrived, happroval, thread, hthread, hbegun⟩ := ih
    rw [← List.append_assoc, Pool.run_concat]
    refine ⟨harrived, happroval, ?_⟩
    by_cases hi : i = turn.1
    case neg => exact ⟨thread, (Pool.step_other hi).trans hthread, hbegun⟩
    subst hi
    rcases Pool.step_cases _ serve turn with hidle | ⟨op, rest, hcall, _⟩
    · rw [hidle]
      exact ⟨thread, hthread, hbegun⟩
    · obtain ⟨_, _, hstage⟩ :=
        staged_stored (before ++ gap) List.prefix_rfl turn.1 _ hcall
      exact ⟨_, (Pool.step_own hcall).1, hstage.begun _ _⟩

theorem same_proposal_of_firstUse
    (h : Machines.Throughout (Pool.step serve) (FirstUse arrivals) (serving arrivals store) turns)
    {before : List Turn} (hbefore : before <+: turns) {j : Nat} {request' : ExecuteRouteRequest}
    {approval' : ApprovalDto}
    (hi : Presented arrivals ((serving arrivals store).run serve before) i request approval)
    (hj : Presented arrivals ((serving arrivals store).run serve before) j request' approval')
    (hsame : approval.approvalId = approval'.approvalId) :
    request.proposalId = request'.proposalId := by
  induction before using List.reverseRecOn with
  | nil => exact absurd hi not_presented_serving
  | append_singleton before turn ih =>
    have hearlier := (List.prefix_append before [turn]).trans hbefore
    have hfirst := h.at_step hbefore
    rw [Pool.run_concat] at hi hj
    obtain ⟨_, _, harrival⟩ := hi.arrived
    obtain ⟨_, _, harrival'⟩ := hj.arrived
    rcases presented_turn hi with hi' | ⟨rfl, thread, hthread, hnew⟩
    · rcases presented_turn hj with hj' | ⟨rfl, thread, hthread, hnew⟩
      · exact ih hearlier hi' hj'
      · exact hfirst thread i request' request approval' approval _ _ hthread hnew harrival'
          hj.approval hi' hsame
    · rcases presented_turn hj with hj' | ⟨rfl, _⟩
      · exact (hfirst thread j request request' approval approval' _ _ hthread hnew harrival
          hi.approval hj' hsame.symm).symm
      · cases harrival.symm.trans harrival'
        rfl

theorem presented_of_fill {before : List Turn} {execution : SimulatedExecution}
    (h : fillAt ((serving arrivals store).run serve before) i = some execution) :
    ∃ request approval,
      Presented arrivals ((serving arrivals store).run serve before) i request approval ∧
      execution.approvalId = approval.approvalId ∧ execution.proposalId = request.proposalId := by
  obtain ⟨request, user, correlation, authorization, proposal, now, explanation, harrival,
    hpresented, hkeyed, _, hexecuted⟩ := (executes_once arrivals store before).authorised i execution h
  obtain ⟨approval, happroval, hid, _⟩ := approval_of_presented hpresented
  obtain ⟨_, hsame, _, rfl⟩ := SimulatedOms.executable_of_execute hexecuted
  cases hsame
  obtain ⟨thread, hthread, hfill⟩ := Option.bind_eq_some_iff.mp h
  refine ⟨request, approval, ⟨⟨user, correlation, harrival⟩, happroval, thread, hthread, ?_⟩, hid,
    hkeyed⟩
  cases thread with
  | done answer => rfl
  | call op rest => cases hfill

/-- Approvals are bound in every run in which none is presented for a second proposal. -/
theorem approvalsBound_of_firstUse
    (h : Machines.Throughout (Pool.step serve) (FirstUse arrivals) (serving arrivals store) turns) :
    ApprovalsBound arrivals (serving arrivals store) turns where
  one_fill before i j execution execution' hbefore hi hj hsame := by
    obtain ⟨request, approval, hpresented, hid, hproposal⟩ := presented_of_fill hi
    obtain ⟨request', approval', hpresented', hid', hproposal'⟩ := presented_of_fill hj
    refine (executes_once arrivals store before).one_fill i j execution execution' hi hj ?_
    rw [hproposal, hproposal']
    exact same_proposal_of_firstUse h hbefore hpresented hpresented' (hid.symm.trans (hsame.trans hid'))
  foreign before later i j request request' approval approval' user correlation thread answer
      hextends hlater hpresented harrival happroval hsame hother _ _ hdone := by
    have hpresented' : Presented arrivals ((serving arrivals store).run serve later) j request'
        approval' := ⟨⟨user, correlation, harrival⟩, happroval, _, hdone, rfl⟩
    exact absurd (same_proposal_of_firstUse h hlater hpresented' (hpresented.later hextends) hsame)
      hother

theorem execute_ne_foreign {proposal : RouteProposal} {user : Option ClaimsPrincipal}
    (hkeyed : proposal.proposalId = request.proposalId) (now : DateTimeOffset)
    (explanation : Text) : SimulatedOms.execute proposal (authorizationOf request user) now none ≠
      .refused .authorizationForDifferentProposal explanation := by
  cases hpresented : authorizationOf request user with
  | none => exact nofun
  | some authorization =>
    obtain ⟨_, _, _, hsame⟩ := approval_of_presented hpresented
    unfold SimulatedOms.execute
    dsimp only
    rw [if_neg (not_not.mpr (hsame.trans hkeyed.symm))]
    split
    · exact nofun
    split
    · exact nofun
    split <;> exact nofun

theorem never_foreign {before : List Turn} {user : Option ClaimsPrincipal}
    {correlation : CorrelationIdAccessor}
    (harrival : arrivals[i]? = some (.execute (some request) user correlation))
    (explanation : Text) :
    ((serving arrivals store).run serve before).threads[i]? ≠
      some (.done (some (refused .authorizationForDifferentProposal explanation correlation))) := by
  intro hdone
  obtain ⟨middle, turn, _, hturn, hnot, hyes⟩ := Pool.exists_turn_of_change
    (fun pool => pool.threads[i]? = some (.done (some
      (refused .authorizationForDifferentProposal explanation correlation))))
    List.nil_prefix (by
      rw [Pool.run, List.foldl_nil, serving, List.getElem?_map, harrival]
      intro hbegun
      cases hbegun) hdone
  have hi : i = turn.1 := by
    by_contra hne
    rw [Pool.step_other hne] at hyes
    exact hnot hyes
  subst hi
  rcases Pool.step_cases _ serve turn with hidle | ⟨op, rest, hcall, _⟩
  · rw [hidle] at hyes
    exact hnot hyes
  rw [(Pool.step_own hcall).1, Option.some.injEq] at hyes
  obtain ⟨_, harrival', hstage⟩ := staged_stored middle ((List.prefix_append _ _).trans hturn) _ _ hcall
  cases harrival.symm.trans harrival'
  cases hstage.pending with
  | finds missing absent =>
    simp only [serve] at hyes
    split at hyes
    · cases hyes
      cases absent
    · cases hyes
  | asks held keyed =>
    simp only [serve] at hyes
    split at hyes
    · rename_i reason explanation' houtcome
      simp only [Program.done.injEq, Option.some.injEq, refused, Result.mk.injEq, true_and,
        Body.notExecuted.injEq] at hyes
      obtain rfl := ExecutionRefusalReason.text_injective hyes.1
      exact execute_ne_foreign keyed _ explanation' houtcome
    · cases hyes
  | @marks _ _ _ _ _ rest first replayed =>
    simp only [serve] at hyes
    cases hmarked : (Pool.run serve (serving arrivals store) middle).state.tryMarkExecuted
        request.proposalId |>.1 with
    | true =>
      rw [hmarked, first] at hyes
      cases hyes
    | false =>
      rw [hmarked, replayed] at hyes
      cases hyes

theorem firstUse_of_approvalsBound
    (hanswered : ∀ (i : Nat) thread,
      ((serving arrivals store).run serve turns).threads[i]? = some thread →
      hasBegun thread = true → ∃ answer, thread = .done answer)
    (h : ApprovalsBound arrivals (serving arrivals store) turns) :
    Machines.Throughout (Pool.step serve) (FirstUse arrivals) (serving arrivals store) turns := by
  refine Machines.throughout_of_steps fun before turn hturn => ?_
  intro thread i request request' approval approval' user correlation hthread hnew harrival
    happroval hpresented hsame
  by_contra hother
  have hbegins : Presented arrivals ((serving arrivals store).run serve (before ++ [turn])) turn.1
      request approval := by
    refine ⟨⟨user, correlation, harrival⟩, happroval, ?_⟩
    rw [Pool.run_concat]
    cases thread with
    | done answer => cases hnew
    | call op rest =>
      obtain ⟨_, _, hstage⟩ :=
        staged_stored before ((List.prefix_append _ _).trans hturn) turn.1 _ hthread
      exact ⟨_, (Pool.step_own hthread).1, hstage.begun _ _⟩
  obtain ⟨last, hlast, hbegun⟩ := (hbegins.later hturn).begun
  obtain ⟨answer, rfl⟩ := hanswered turn.1 last hlast hbegun
  obtain ⟨explanation, rfl⟩ := h.foreign before turns i turn.1 request' request approval' approval
    user correlation thread answer ((List.prefix_append _ _).trans hturn) List.prefix_rfl hpresented
    harrival happroval hsame.symm (Ne.symm hother) hthread hnew hlast
  exact never_foreign harrival explanation hlast

end

namespace Samples

def twoProposals : List Arrival :=
  [.propose (some (routeRequest (lit "o-1") 100)) userAlice header,
    .propose (some (routeRequest (lit "o-2") 100)) userAlice header,
    .execute (some (executeRequest (lit "prop-o-1"))) userBob header,
    .execute (some (executeRequest (lit "prop-o-2"))) userBob header]

theorem both_filled {first second : RouteProposal} (answer answer' : Option Result)
    {request request' : ExecuteRouteRequest} {user : Option ClaimsPrincipal}
    {authorization authorization' : ExecutionAuthorization} (correlation : CorrelationIdAccessor)
    (hfirst : first.proposalId = request.proposalId)
    (hsecond : second.proposalId = request'.proposalId)
    (hother : request'.proposalId ≠ request.proposalId)
    (hpresented : authorizationOf request user = some authorization)
    (hpresented' : authorizationOf request' user = some authorization')
    (hexecutable : SimulatedOms.Executable first authorization 2000)
    (hexecutable' : SimulatedOms.Executable second authorization' 2000) :
    let saved : Serving := ⟨[.done answer, .done answer',
      executeAsync (some request) user correlation, executeAsync (some request') user correlation],
      (InMemoryProposalStore.empty.save first).save second⟩
    let final := saved.run serve ([turn 2, turn 2, turn 2] ++ [turn 3, turn 3, turn 3])
    fillAt final 2 = some (SimulatedOms.fill first authorization 2000 none) ∧
      fillAt final 3 = some (SimulatedOms.fill second authorization' 2000 none) := by
  intro saved
  have hthread : saved.threads[2]? = some (executeAsync (some request) user correlation) := rfl
  have hthread' : saved.threads[3]? = some (executeAsync (some request') user correlation) := rfl
  have hfind : saved.state.find request.proposalId = some first := by
    simp [saved, hfirst, hsecond, hother.symm]
  have hfind' : saved.state.find request'.proposalId = some second := by simp [saved, hsecond]
  have hnone : saved.state.executed = ∅ := rfl
  have hnew : request.proposalId ∉ saved.state.executed := by simp [hnone]
  have hnew' : request'.proposalId ∉ (saved.state.tryMarkExecuted request.proposalId).2.executed := by
    simp [InMemoryProposalStore.mem_tryMarkExecuted, hother, hnone]
  rw [Pool.run_append, turn, turn,
    run_executeAsync hthread hfind hpresented hexecutable hnew,
    run_executeAsync (by simpa using hthread') (by simpa using hfind') hpresented' hexecutable' hnew']
  simp [saved, fillAt, fillOf, filled]

theorem both_saved (arrivals : List Arrival) : ∃ first second answer answer',
    (serving (.propose (some (routeRequest (lit "o-1") 100)) userAlice header ::
        .propose (some (routeRequest (lit "o-2") 100)) userAlice header :: arrivals) .empty).run
        serve [turn 0, turn 1] =
      ⟨.done answer :: .done answer' :: arrivals.map (·.handling),
        (InMemoryProposalStore.empty.save first).save second⟩ ∧
    first.proposalId = lit "prop-o-1" ∧ second.proposalId = lit "prop-o-2" ∧
    SimulatedOms.Executable first (authorization (lit "prop-o-1")) 2000 ∧
    SimulatedOms.Executable second (authorization (lit "prop-o-2")) 2000 := by
  obtain ⟨first, considered, hfirst, hid, _, hcorrelation, hproposer⟩ :=
    routeRequest_handling (lit "o-1") 100 userAlice (by decide +kernel) (by decide +kernel)
  obtain ⟨second, considered', hsecond, hid', _, hcorrelation', hproposer'⟩ :=
    routeRequest_handling (lit "o-2") 100 userAlice (by decide +kernel) (by decide +kernel)
  have hexecutable := authorization_executable hcorrelation hproposer
  have hexecutable' := authorization_executable hcorrelation' hproposer'
  rw [hid] at hexecutable
  rw [hid'] at hexecutable'
  have hserving : serving (.propose (some (routeRequest (lit "o-1") 100)) userAlice header ::
      .propose (some (routeRequest (lit "o-2") 100)) userAlice header :: arrivals) .empty =
      ⟨answerOutcome (.proposed first considered) header ::
        answerOutcome (.proposed second considered') header :: arrivals.map (·.handling),
        .empty⟩ := by
    rw [← hfirst, ← hsecond]
    rfl
  rw [hserving]
  exact ⟨first, second, _, _, rfl, hid, hid', hexecutable, hexecutable'⟩

/-- One approval, two fills. -/
theorem twoProposals_unbound : ¬ApprovalsBound twoProposals (serving twoProposals .empty)
    ([turn 0, turn 1] ++ ([turn 2, turn 2, turn 2] ++ [turn 3, turn 3, turn 3])) := by
  obtain ⟨first, second, answer, answer', hsaved, hid, hid', hexecutable, hexecutable'⟩ :=
    both_saved [.execute (some (executeRequest (lit "prop-o-1"))) userBob header,
      .execute (some (executeRequest (lit "prop-o-2"))) userBob header]
  change (serving twoProposals .empty).run serve [turn 0, turn 1] = _ at hsaved
  intro h
  have hone := h.one_fill _ 2 3
    (SimulatedOms.fill first (authorization (lit "prop-o-1")) 2000 none)
    (SimulatedOms.fill second (authorization (lit "prop-o-2")) 2000 none) List.prefix_rfl
  rw [Pool.run_append, hsaved] at hone
  obtain ⟨hfill, hfill'⟩ := both_filled answer answer' header hid hid'
    (show lit "prop-o-2" ≠ lit "prop-o-1" by decide)
    (executeRequest_presents _) (executeRequest_presents _) hexecutable hexecutable'
  have hsame : (SimulatedOms.fill first (authorization (lit "prop-o-1")) 2000 none).approvalId =
      (SimulatedOms.fill second (authorization (lit "prop-o-2")) 2000 none).approvalId := by
    simp only [SimulatedOms.fill, authorization]
  exact absurd (hone hfill hfill' hsame) (by decide)

def secondRequest : ExecuteRouteRequest :=
  ⟨lit "prop-o-2", lit "corr-1", some ⟨lit "ap-2", lit "bob", 1000, 5000⟩⟩

def presents : Arrival → Option (Text × Text)
  | .execute (some request) _ _ =>
    request.approval.map fun approval => (approval.approvalId, request.proposalId)
  | _ => none

def replayed : List Arrival :=
  [.propose (some (routeRequest (lit "o-1") 100)) userAlice header,
    .propose (some (routeRequest (lit "o-2") 100)) userAlice header,
    .execute (some (executeRequest (lit "prop-o-1"))) userBob header,
    .execute (some (executeRequest (lit "prop-o-1"))) userBob header,
    .execute (some secondRequest) userBob header]

theorem firstUse_of_distinct {arrivals : List Arrival}
    (h : ∀ first ∈ arrivals.filterMap presents, ∀ second ∈ arrivals.filterMap presents,
      first.1 = second.1 → first.2 = second.2) (pool : Serving) (turn : Turn) :
    FirstUse arrivals pool turn := by
  intro thread i request request' approval approval' user correlation _ _ harrival happroval
    hpresented hsame
  obtain ⟨user', correlation', harrival'⟩ := hpresented.arrived
  refine h (approval'.approvalId, request'.proposalId) (List.mem_filterMap.mpr ⟨_,
    List.mem_of_getElem? harrival', ?_⟩) (approval.approvalId, request.proposalId)
    (List.mem_filterMap.mpr ⟨_, List.mem_of_getElem? harrival, ?_⟩) hsame
  · simp [presents, hpresented.approval]
  · simp [presents, happroval]

theorem replayed_run {first second : RouteProposal} (answer answer' : Option Result)
    {request request' : ExecuteRouteRequest} {user : Option ClaimsPrincipal}
    {authorization authorization' : ExecutionAuthorization} (correlation : CorrelationIdAccessor)
    (hfirst : first.proposalId = request.proposalId)
    (hsecond : second.proposalId = request'.proposalId)
    (hother : request'.proposalId ≠ request.proposalId)
    (hpresented : authorizationOf request user = some authorization)
    (hpresented' : authorizationOf request' user = some authorization')
    (hexecutable : SimulatedOms.Executable first authorization 2000)
    (hexecutable' : SimulatedOms.Executable second authorization' 2000) :
    let saved : Serving := ⟨[.done answer, .done answer',
      executeAsync (some request) user correlation, executeAsync (some request) user correlation,
      executeAsync (some request') user correlation],
      (InMemoryProposalStore.empty.save first).save second⟩
    (saved.run serve ([turn 2, turn 2, turn 2] ++ [turn 3, turn 3, turn 3] ++
      [turn 4, turn 4, turn 4])).threads = [.done answer, .done answer',
        .done (some (filled (SimulatedOms.fill first authorization 2000 none) correlation)),
        .done (some (alreadyExecuted request.proposalId correlation)),
        .done (some (filled (SimulatedOms.fill second authorization' 2000 none) correlation))] := by
  intro saved
  have hthread : saved.threads[2]? = some (executeAsync (some request) user correlation) := rfl
  have hthread' : saved.threads[3]? = some (executeAsync (some request) user correlation) := rfl
  have hthread'' : saved.threads[4]? = some (executeAsync (some request') user correlation) := rfl
  have hfind : saved.state.find request.proposalId = some first := by
    simp [saved, hfirst, hsecond, hother.symm]
  have hfind' : saved.state.find request'.proposalId = some second := by simp [saved, hsecond]
  have hnone : saved.state.executed = ∅ := rfl
  have hnew : request.proposalId ∉ saved.state.executed := by simp [hnone]
  have hold : request.proposalId ∈ (saved.state.tryMarkExecuted request.proposalId).2.executed :=
    InMemoryProposalStore.mem_tryMarkExecuted.mpr (.inl rfl)
  have hnew' : request'.proposalId ∉ (saved.state.tryMarkExecuted request.proposalId).2.executed := by
    simp [InMemoryProposalStore.mem_tryMarkExecuted, hother, hnone]
  let afterFill : Serving := ⟨saved.threads.set 2 (.done (some
    (filled (SimulatedOms.fill first authorization 2000 none) correlation))),
    (saved.state.tryMarkExecuted request.proposalId).2⟩
  let afterReplay : Serving := ⟨afterFill.threads.set 3
    (.done (some (alreadyExecuted request.proposalId correlation))), afterFill.state⟩
  have hfill : saved.run serve [turn 2, turn 2, turn 2] = afterFill :=
    run_executeAsync hthread hfind hpresented hexecutable hnew
  have hreplay : afterFill.run serve [turn 3, turn 3, turn 3] = afterReplay :=
    run_replayed hthread' (by simpa [afterFill] using hfind) hpresented hexecutable hold
  have hfill' : afterReplay.run serve [turn 4, turn 4, turn 4] = _ :=
    run_executeAsync hthread'' (by simpa [afterReplay, afterFill] using hfind') hpresented'
      hexecutable' hnew'
  rw [Pool.run_append, Pool.run_append, hfill, hreplay, hfill']
  rfl

theorem replayed_bound : ∃ turns first second,
    ApprovalsBound replayed (serving replayed .empty) turns ∧
    let final := (serving replayed .empty).run serve turns
    fillAt final 2 = some first ∧ first.approvalId = lit "ap-1" ∧
      final.threads[3]? = some (.done (some (alreadyExecuted (lit "prop-o-1") header))) ∧
      fillAt final 4 = some second ∧ second.approvalId = lit "ap-2" := by
  obtain ⟨first, second, answer, answer', hsaved, hid, hid', hexecutable, hsecond⟩ :=
    both_saved [.execute (some (executeRequest (lit "prop-o-1"))) userBob header,
      .execute (some (executeRequest (lit "prop-o-1"))) userBob header,
      .execute (some secondRequest) userBob header]
  change (serving replayed .empty).run serve [turn 0, turn 1] = _ at hsaved
  have hexecutable' : SimulatedOms.Executable second
      { authorization (lit "prop-o-2") with approvalId := lit "ap-2" } 2000 :=
    ⟨hsecond.sameProposal, hsecond.correlation, hsecond.inTime, hsecond.segregated⟩
  have hthreads := replayed_run answer answer' header hid hid'
    (show lit "prop-o-2" ≠ lit "prop-o-1" by decide) (executeRequest_presents _)
    (show authorizationOf secondRequest userBob = some _ from rfl) hexecutable hexecutable'
  refine ⟨[turn 0, turn 1] ++ ([turn 2, turn 2, turn 2] ++ [turn 3, turn 3, turn 3] ++
    [turn 4, turn 4, turn 4]), SimulatedOms.fill first (authorization (lit "prop-o-1")) 2000 none,
    SimulatedOms.fill second { authorization (lit "prop-o-2") with approvalId := lit "ap-2" } 2000
      none, approvalsBound_of_firstUse ?_, ?_⟩
  · exact Machines.throughout_of_steps fun _ _ _ =>
      firstUse_of_distinct (by decide +kernel) _ _
  · rw [Pool.run_append, hsaved]
    intro final
    have hfinal : final.threads = _ := hthreads
    refine ⟨?_, rfl, ?_, ?_, rfl⟩
    · rw [fillAt, hfinal]
      rfl
    · rw [hfinal]
      rfl
    · rw [fillAt, hfinal]
      rfl

end Samples

end Fcmr.OrderRoutingService
