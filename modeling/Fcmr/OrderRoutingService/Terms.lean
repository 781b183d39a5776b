import Fcmr.OrderRoutingService.Executions

/-! The terms behind a proposal id between the answer that describes them and the fill. -/
namespace Fcmr.OrderRoutingService

open DotNet OrderRouting ServiceDefaults Programs
open ApprovalsService (ClaimsPrincipal)

structure Terms where
  venueCode : Text
  quantity : Int32
  price : Decimal
  orderId : Text
  correlationId : Text

def termsOf (proposal : RouteProposal) : Terms :=
  ⟨proposal.venueCode, proposal.quantity, proposal.cost.projectedPrice, proposal.orderId,
    proposal.correlationId⟩

def ProposalDescription.terms (proposal : ProposalDescription) : Terms :=
  ⟨proposal.venueCode, proposal.quantity, proposal.cost.projectedPrice, proposal.orderId,
    proposal.correlationId⟩

def executedTerms (execution : SimulatedExecution) : Terms :=
  ⟨execution.venueCode, execution.quantity, execution.price, execution.orderId,
    execution.correlationId⟩

/-- Every fill answered after a proposal was described has the terms that were described. -/
def TermsFixed (pool : Serving) (turns : List Turn) : Prop :=
  ∀ before later, before <+: later → later <+: turns → ∀ i j proposal execution,
    proposalAt (pool.run serve before) i = some proposal →
    fillAt (pool.run serve before) j = none →
    fillAt (pool.run serve later) j = some execution →
    execution.proposalId = proposal.proposalId → executedTerms execution = proposal.terms

/-- A proposal that is saved over another one repeats its terms, unless that one has been
executed. -/
def KeepsTerms (pool : Serving) (turn : Turn) : Prop :=
  ∀ proposal rest stored, pool.threads[turn.1]? = some (.call (.save proposal) rest) →
    pool.state.find proposal.proposalId = some stored →
    proposal.proposalId ∈ pool.state.executed ∨ termsOf stored = termsOf proposal

/-- While its id is not executed, the store holds the terms of the proposal. -/
def Current (store : InMemoryProposalStore) (proposal : RouteProposal) : Prop :=
  proposal.proposalId ∈ store.executed ∨
    ∃ stored, store.find proposal.proposalId = some stored ∧ termsOf stored = termsOf proposal

theorem current_step {pool : Serving} {turn : Turn} (hkeeps : KeepsTerms pool turn)
    {proposal : RouteProposal} (h : Current pool.state proposal) :
    Current (pool.step serve turn).state proposal := by
  rcases pool.step_cases serve turn with hidle | ⟨op, rest, hthread, _⟩
  · rwa [hidle]
  rw [(Pool.step_own hthread).2]
  cases op with
  | getUtcNow => exact h
  | find id => exact h
  | save written =>
    rcases h with hexecuted | ⟨stored, hfind, hterms⟩
    · exact .inl hexecuted
    by_cases hid : proposal.proposalId = written.proposalId
    · rw [hid] at hfind
      rcases hkeeps written rest stored hthread hfind with hexecuted | hsame
      · exact .inl (hid ▸ hexecuted)
      · exact .inr ⟨written, by simp [serve, hid], hsame.symm.trans hterms⟩
    · exact .inr ⟨stored, by simpa [serve, hid] using hfind, hterms⟩
  | tryMarkExecuted id =>
    rcases h with hexecuted | ⟨stored, hfind, hterms⟩
    · exact .inl (InMemoryProposalStore.mem_tryMarkExecuted.mpr (.inr hexecuted))
    · exact .inr ⟨stored, by simpa [serve] using hfind, hterms⟩

theorem current_of_find {store : InMemoryProposalStore} {id : Text} {proposal : RouteProposal}
    (h : store.find id = some proposal) : Current store proposal := by
  have hkeyed := store.keyed id proposal h
  exact .inr ⟨proposal, hkeyed ▸ h, rfl⟩

theorem proposalOf_eq_some {thread : Handling (Option Result)} {proposal : ProposalDescription}
    (h : proposalOf thread = some proposal) : ∃ considered correlationId,
      thread = .done (some ⟨201, .proposed proposal considered correlationId⟩) := by
  unfold proposalOf at h
  split at h
  · cases h
    exact ⟨_, _, rfl⟩
  · cases h

theorem Stage.described {Held : RouteProposal → Prop} {arrival : Arrival}
    {thread : Handling (Option Result)} (h : Stage Held arrival thread)
    {description : ProposalDescription} (hthread : proposalOf thread = some description) :
    ∃ proposal, Held proposal ∧ description = describe proposal := by
  cases h with
  | fresh =>
    rcases arrival.handling_cases with ⟨answer, hanswer, _, hunproposed⟩ | ⟨op, rest, hcall, _⟩
    · rw [hanswer, hunproposed] at hthread
      cases hthread
    · rw [hcall] at hthread
      cases hthread
  | proposed held =>
    cases hthread
    exact ⟨_, held, rfl⟩
  | held => cases hthread
  | granted => cases hthread
  | filled => cases hthread
  | other _ unproposed =>
    rw [unproposed] at hthread
    cases hthread

section

variable {arrivals : List Arrival} {store : InMemoryProposalStore} {turns : List Turn}

theorem staged_current
    (h : Machines.Throughout (Pool.step serve) KeepsTerms (serving arrivals store) turns) :
    Staged arrivals store
      (fun before => Current ((serving arrivals store).run serve before).state) turns := by
  have hkept (before : List Turn) (turn : Turn) (proposal : RouteProposal)
      (hturn : before ++ [turn] <+: turns)
      (hcurrent : Current ((serving arrivals store).run serve before).state proposal) :
      Current ((serving arrivals store).run serve (before ++ [turn])).state proposal := by
    rw [Pool.run_concat]
    exact current_step (h.at_step hturn) hcurrent
  intro before hbefore i thread hthread
  refine run_stage (fun before => Current ((serving arrivals store).run serve before).state)
    hkept ?_ ?_ hbefore hthread
  · intro before turn proposal rest _ hsave
    rw [Pool.run_concat, (Pool.step_own hsave).2]
    have hfind : (serve (.save proposal) turn.2
        ((serving arrivals store).run serve before).state).2.find proposal.proposalId =
          some proposal := by
      simp [serve]
    exact current_of_find hfind
  · intro before turn id proposal hturn hfind
    exact hkept before turn proposal hturn (current_of_find hfind)

theorem current_terms {store : InMemoryProposalStore} {proposal proposal' : RouteProposal}
    (h : Current store proposal) (h' : Current store proposal')
    (hid : proposal'.proposalId = proposal.proposalId) (hnew : proposal.proposalId ∉ store.executed) :
    termsOf proposal = termsOf proposal' := by
  obtain ⟨stored, hfind, hterms⟩ := h.resolve_left hnew
  obtain ⟨stored', hfind', hterms'⟩ := h'.resolve_left (hid ▸ hnew)
  rw [hid, hfind] at hfind'
  cases hfind'
  exact hterms.symm.trans hterms'

/-- Terms are fixed in every run that saves no other terms over a proposal that is still to
be executed. -/
theorem termsFixed_of_keepsTerms
    (h : Machines.Throughout (Pool.step serve) KeepsTerms (serving arrivals store) turns) :
    TermsFixed (serving arrivals store) turns := by
  intro before later hextends hlater i j description execution hproposal hunfilled hfill hid
  have hstaged := staged_current h
  have hstagedLater : Staged arrivals store
      (fun before => Current ((serving arrivals store).run serve before).state) later :=
    fun earlier hearlier => hstaged earlier (hearlier.trans hlater)
  obtain ⟨middle, now, request, user, correlation, hmiddle, hturn, _, hgranted, hnew, _⟩ :=
    fill_turn hstagedLater hextends hunfilled hfill
  have hearlier := ((List.prefix_append middle [(j, now)]).trans hturn).trans hlater
  obtain ⟨thread, hthread, hdescribed⟩ := Option.bind_eq_some_iff.mp hproposal
  obtain ⟨considered, correlationId, rfl⟩ := proposalOf_eq_some hdescribed
  obtain ⟨_, _, hstage⟩ := hstaged middle hearlier i _ (Pool.run_done hmiddle hthread)
  obtain ⟨proposal, hcurrent, rfl⟩ := hstage.described rfl
  obtain ⟨hheld, _, _, _⟩ := hgranted
  exact current_terms hheld hcurrent hid.symm hnew

end

namespace Samples

def proposedTwice : Serving :=
  serving [.propose (some (routeRequest (lit "o-1") 100)) userAlice header,
    .propose (some (routeRequest (lit "o-1") 200)) userAlice header,
    .execute (some (executeRequest (lit "prop-o-1"))) userBob header] .empty

theorem replaced_fill {first second : RouteProposal} {considered considered' : List VenueEvaluation}
    (request : ExecuteRouteRequest) {user : Option ClaimsPrincipal}
    {authorization : ExecutionAuthorization} (hsecond : second.proposalId = request.proposalId)
    (hpresented : authorizationOf request user = some authorization)
    (hexecutable : SimulatedOms.Executable second authorization 2000)
    (correlation : CorrelationIdAccessor) :
    fillAt (Pool.run serve
      ⟨[answerOutcome (.proposed first considered) correlation,
        answerOutcome (.proposed second considered') correlation,
        executeAsync (some request) user correlation], .empty⟩
      [turn 0, turn 1, turn 2, turn 2, turn 2]) 2 =
        some (SimulatedOms.fill second authorization 2000 none) := by
  simp [Pool.run, Pool.step, turn, answerOutcome, executeAsync, Programs.step, serve, hsecond,
    attemptExecution, hpresented, SimulatedOms.execute_of_executable hexecutable, markExecuted,
    InMemoryProposalStore.tryMarkExecuted, InMemoryProposalStore.empty, fillAt, fillOf, filled]

/-- Somebody who was shown 100 shares has 200 executed. -/
theorem proposedTwice_termsChange :
    ¬TermsFixed proposedTwice [turn 0, turn 1, turn 2, turn 2, turn 2] := by
  obtain ⟨first, considered, hfirst, hid, hquantity, _⟩ :=
    routeRequest_handling (lit "o-1") 100 userAlice (by decide +kernel) (by decide +kernel)
  obtain ⟨second, considered', hsecond, hid', hquantity', hcorrelation', hproposer'⟩ :=
    routeRequest_handling (lit "o-1") 200 userAlice (by decide +kernel) (by decide +kernel)
  have hpool : proposedTwice = ⟨[answerOutcome (.proposed first considered) header,
      answerOutcome (.proposed second considered') header,
      executeAsync (some (executeRequest (lit "prop-o-1"))) userBob header], .empty⟩ := by
    rw [← hfirst, ← hsecond]
    rfl
  have hexecutable := authorization_executable hcorrelation' hproposer'
  rw [hid'] at hexecutable
  intro h
  rw [hpool] at h
  have hterms := h [turn 0] _ ⟨_, rfl⟩ List.prefix_rfl 0 2 (describe first) _ rfl rfl
    (replaced_fill (executeRequest (lit "prop-o-1")) hid' (executeRequest_presents _)
      hexecutable header) (hid'.trans hid.symm)
  have hsame : second.quantity = first.quantity := congrArg Terms.quantity hterms
  rw [hquantity, hquantity'] at hsame
  exact absurd hsame (by decide)

theorem executedFirst_keepsTerms {first second : RouteProposal}
    (considered considered' : List VenueEvaluation) (request : ExecuteRouteRequest)
    {user : Option ClaimsPrincipal} {authorization : ExecutionAuthorization}
    (hfirst : first.proposalId = request.proposalId)
    (hsecond : second.proposalId = request.proposalId)
    (hpresented : authorizationOf request user = some authorization)
    (hexecutable : SimulatedOms.Executable first authorization 2000)
    (correlation : CorrelationIdAccessor) :
    Machines.Throughout (Pool.step serve) KeepsTerms
      ⟨[answerOutcome (.proposed first considered) correlation,
        answerOutcome (.proposed second considered') correlation,
        executeAsync (some request) user correlation], .empty⟩
      [turn 0, turn 2, turn 2, turn 2, turn 1] := by
  refine ⟨?_, ?_, ?_, ?_, ?_, trivial⟩
  · rintro proposal rest stored hcall hfind
    cases hcall
    cases hfind
  · rintro proposal rest stored hcall
    cases hcall
  · rintro proposal rest stored hcall
    simp [Pool.step, turn, answerOutcome, executeAsync, Programs.step, serve, hfirst,
      attemptExecution] at hcall
  · rintro proposal rest stored hcall
    simp [Pool.step, turn, answerOutcome, executeAsync, Programs.step, serve, hfirst,
      attemptExecution, hpresented, SimulatedOms.execute_of_executable hexecutable,
      markExecuted] at hcall
  · rintro proposal rest stored hcall _
    left
    simp [Pool.step, turn, answerOutcome, executeAsync, Programs.step, serve, hfirst,
      attemptExecution, hpresented, SimulatedOms.execute_of_executable hexecutable,
      markExecuted, InMemoryProposalStore.tryMarkExecuted, InMemoryProposalStore.empty] at hcall ⊢
    rw [← hcall.1, hsecond]

theorem executedFirst_termsFixed :
    TermsFixed proposedTwice [turn 0, turn 2, turn 2, turn 2, turn 1] := by
  obtain ⟨first, considered, hfirst, hid, _, hcorrelation, hproposer⟩ :=
    routeRequest_handling (lit "o-1") 100 userAlice (by decide +kernel) (by decide +kernel)
  obtain ⟨second, considered', hsecond, hid', _⟩ :=
    routeRequest_handling (lit "o-1") 200 userAlice (by decide +kernel) (by decide +kernel)
  have hexecutable := authorization_executable hcorrelation hproposer
  rw [hid] at hexecutable
  apply termsFixed_of_keepsTerms
  have hkeeps := executedFirst_keepsTerms considered considered' (executeRequest (lit "prop-o-1"))
    hid hid' (executeRequest_presents _) hexecutable header
  rw [← hfirst, ← hsecond] at hkeeps
  exact hkeeps

end Samples

end Fcmr.OrderRoutingService
