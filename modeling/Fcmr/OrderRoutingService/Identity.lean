import Fcmr.OrderRoutingService.Executions

/-! Who proposes and who approves. A principal may hold the role of an endpoint and no
object id; the handlers then fall back on a stand-in and on the body. -/
namespace Fcmr.OrderRoutingService

open DotNet OrderRouting ServiceDefaults Programs
open ApprovalsService (ClaimsPrincipal)

/-- The request with another approver in its body. -/
def ExecuteRouteRequest.approvedAs (request : ExecuteRouteRequest) (approvedBy : Text) :
    ExecuteRouteRequest :=
  { request with approval := request.approval.map fun approval => { approval with approvedBy } }

/-- `POST /v1/executions` with authorisation enforced, on its own. -/
def postExecution (request : ExecuteRouteRequest) (user : Option ClaimsPrincipal)
    (correlation : CorrelationIdAccessor) (moments : Nat → DateTimeOffset)
    (store : InMemoryProposalStore) : Option Result × InMemoryProposalStore :=
  eval serve (filtered true OrderRoutingRoles.executor user
    (executeAsync (some request) user correlation)) moments store

def postProposal (request : RouteProposalRequest) (user : Option ClaimsPrincipal)
    (correlation : CorrelationIdAccessor) (moments : Nat → DateTimeOffset)
    (store : InMemoryProposalStore) : Option Result × InMemoryProposalStore :=
  eval serve (filtered true OrderRoutingRoles.proposer user
    (proposeAsync (some request) user correlation)) moments store

/-- Every proposal that a principal stores is under the object id of its token; without
one it is refused. -/
def ProposesAsItself (user : Option ClaimsPrincipal) : Prop :=
  ∀ request correlation moments store,
    (∀ id proposal,
      (postProposal request user correlation moments store).2.find id = some proposal →
      store.find id = some proposal ∨
        FcmrAuthorization.objectId user = some proposal.proposedBy) ∧
    (FcmrAuthorization.objectId user = none → ∀ result,
      (postProposal request user correlation moments store).1 = some result →
      result.statusCode ≠ 201)

/-- The approvers that two bodies name are not read, or make no difference. -/
inductive SameExecution (user : Option ClaimsPrincipal) (request : ExecuteRouteRequest)
    (approvedBy : Text) (store : InMemoryProposalStore) (now : DateTimeOffset) : Prop
  | identified {identity : Text} (h : FcmrAuthorization.objectId user = some identity)
  | unapproved (h : request.approval = none)
  | missing (h : store.find request.proposalId = none)
  | unnamed {approval : ApprovalDto} (h : request.approval = some approval)
      (first : isNullOrWhiteSpace (some approval.approvedBy) = true)
      (second : isNullOrWhiteSpace (some approvedBy) = true)
  | repeated {approval : ApprovalDto} (h : request.approval = some approval)
      (same : approval.approvedBy = approvedBy)
  | unauthorised {approval : ApprovalDto} {proposal : RouteProposal}
      (h : request.approval = some approval) (found : store.find request.proposalId = some proposal)
      (first : isNullOrWhiteSpace (some approval.approvedBy) = false)
      (second : isNullOrWhiteSpace (some approvedBy) = false)
      (lapsed : ¬(request.correlationId = proposal.correlationId ∧ now < approval.expiresAt))
  | others {approval : ApprovalDto} {proposal : RouteProposal}
      (h : request.approval = some approval) (found : store.find request.proposalId = some proposal)
      (first : isNullOrWhiteSpace (some approval.approvedBy) = false)
      (second : isNullOrWhiteSpace (some approvedBy) = false)
      (own : equalsOrdinalIgnoreCase (some approval.approvedBy) (some proposal.proposedBy) = false)
      (other : equalsOrdinalIgnoreCase (some approvedBy) (some proposal.proposedBy) = false)

section

variable {user : Option ClaimsPrincipal} {request : ExecuteRouteRequest}
  {approval : ApprovalDto} {proposal : RouteProposal} {correlation : CorrelationIdAccessor}
  {moments : Nat → DateTimeOffset} {store : InMemoryProposalStore}

def conclude (outcome : ExecutionResult) (proposalId : Text) (correlation : CorrelationIdAccessor)
    (store : InMemoryProposalStore) : Option Result × InMemoryProposalStore :=
  match outcome with
  | .refused reason explanation => (some (refused reason explanation correlation), store)
  | .executed execution _ =>
    (some (if (store.tryMarkExecuted proposalId).1 then filled execution correlation
      else alreadyExecuted proposalId correlation), (store.tryMarkExecuted proposalId).2)

theorem postExecution_found (hexecutor : FcmrAuthorization.hasRole user OrderRoutingRoles.executor = true)
    (hfind : store.find request.proposalId = some proposal) :
    postExecution request user correlation moments store =
      conclude (SimulatedOms.execute proposal (authorizationOf request user) (moments 1) none)
        request.proposalId correlation store := by
  unfold postExecution filtered
  rw [requireAppRole_of_hasRole hexecutor]
  simp only [executeAsync, perform_bind, eval, serve, hfind, attemptExecution]
  cases SimulatedOms.execute proposal (authorizationOf request user) (moments 1) none with
  | refused reason explanation => rfl
  | executed execution explanation =>
    simp only [markExecuted, perform_bind, eval, serve, conclude]
    cases (store.tryMarkExecuted request.proposalId).1 <;> rfl

theorem postExecution_approvedAs
    (hexecutor : FcmrAuthorization.hasRole user OrderRoutingRoles.executor = true)
    (hfind : store.find request.proposalId = some proposal) (approvedBy : Text) :
    postExecution (request.approvedAs approvedBy) user correlation moments store =
      conclude (SimulatedOms.execute proposal (authorizationOf (request.approvedAs approvedBy) user)
        (moments 1) none) request.proposalId correlation store :=
  postExecution_found hexecutor hfind

theorem postExecution_missing
    (hexecutor : FcmrAuthorization.hasRole user OrderRoutingRoles.executor = true)
    (hfind : store.find request.proposalId = none) (approvedBy : Text) :
    postExecution request user correlation moments store =
      postExecution (request.approvedAs approvedBy) user correlation moments store := by
  unfold postExecution filtered
  rw [requireAppRole_of_hasRole hexecutor]
  simp only [executeAsync, perform_bind, eval, serve, ExecuteRouteRequest.approvedAs, hfind]

def presented (request : ExecuteRouteRequest) (approval : ApprovalDto) (approvedBy : Text) :
    ExecutionAuthorization where
  approvalId := approval.approvalId
  proposalId := request.proposalId
  correlationId := request.correlationId
  approvedBy := approvedBy
  approvedAt := approval.approvedAt
  expiresAt := approval.expiresAt

theorem authorizationOf_named (h : request.approval = some approval)
    (hid : FcmrAuthorization.objectId user = none)
    (hnamed : isNullOrWhiteSpace (some approval.approvedBy) = false) :
    authorizationOf request user = some (presented request approval approval.approvedBy) := by
  simp [authorizationOf, approverOf, h, hid, hnamed, presented]

theorem authorizationOf_unnamed (h : request.approval = some approval)
    (hid : FcmrAuthorization.objectId user = none)
    (hblank : isNullOrWhiteSpace (some approval.approvedBy) = true) :
    authorizationOf request user = none := by
  simp [authorizationOf, approverOf, h, hid, hblank]

theorem authorizationOf_approvedAs {identity : Text}
    (hid : FcmrAuthorization.objectId user = some identity) (approvedBy : Text) :
    authorizationOf (request.approvedAs approvedBy) user = authorizationOf request user := by
  cases h : request.approval with
  | none => simp [authorizationOf, ExecuteRouteRequest.approvedAs, h]
  | some approval => simp [authorizationOf, approverOf, ExecuteRouteRequest.approvedAs, h, hid]

theorem approvedAs_approval (h : request.approval = some approval) (approvedBy : Text) :
    (request.approvedAs approvedBy).approval = some { approval with approvedBy } := by
  simp [ExecuteRouteRequest.approvedAs, h]

theorem approvedAs_unapproved (h : request.approval = none) (approvedBy : Text) :
    request.approvedAs approvedBy = request := by
  obtain ⟨_, _, _⟩ := request
  cases h
  rfl

theorem approvedAs_own (h : request.approval = some approval) :
    request.approvedAs approval.approvedBy = request := by
  obtain ⟨_, _, _⟩ := request
  cases h
  rfl

theorem authorizationOf_approvedAs_named {approvedBy : Text} (h : request.approval = some approval)
    (hid : FcmrAuthorization.objectId user = none)
    (hnamed : isNullOrWhiteSpace (some approvedBy) = false) :
    authorizationOf (request.approvedAs approvedBy) user =
      some (presented request approval approvedBy) :=
  authorizationOf_named (approvedAs_approval h approvedBy) hid hnamed

theorem authorizationOf_approvedAs_unnamed {approvedBy : Text}
    (h : request.approval = some approval) (hid : FcmrAuthorization.objectId user = none)
    (hblank : isNullOrWhiteSpace (some approvedBy) = true) :
    authorizationOf (request.approvedAs approvedBy) user = none :=
  authorizationOf_unnamed (approvedAs_approval h approvedBy) hid hblank

theorem presented_authorised {now : DateTimeOffset}
    (hfind : store.find request.proposalId = some proposal) (approvedBy : Text) :
    SimulatedOms.Authorised proposal (presented request approval approvedBy) now ↔
      request.correlationId = proposal.correlationId ∧ now < approval.expiresAt :=
  ⟨fun h => ⟨h.correlation, h.inTime⟩, fun h => ⟨(store.keyed _ proposal hfind).symm, h.1, h.2⟩⟩

theorem refusal_of_conclude {reason reason' : ExecutionRefusalReason} {explanation explanation' : Text}
    {proposalId : Text}
    (h : conclude (.refused reason explanation) proposalId correlation store =
      conclude (.refused reason' explanation') proposalId correlation store) :
    reason = reason' ∧ explanation = explanation' := by
  simp only [conclude, refused, Prod.mk.injEq, Option.some.injEq, Result.mk.injEq,
    Body.notExecuted.injEq] at h
  exact ⟨ExecutionRefusalReason.text_injective h.1.2.1, h.1.2.2.1⟩

theorem conclude_refused_ne_executed {reason : ExecutionRefusalReason} {explanation text : Text}
    {proposalId : Text} {execution : SimulatedExecution} :
    conclude (.refused reason explanation) proposalId correlation store ≠
      conclude (.executed execution text) proposalId correlation store := by
  intro h
  have hstatus := congrArg (fun answer => answer.1.map (·.statusCode)) h
  simp only [conclude] at hstatus
  split at hstatus <;> cases hstatus

theorem conclude_unnamed_ne (authorization : ExecutionAuthorization) (now : DateTimeOffset)
    (proposalId : Text) :
    conclude (SimulatedOms.execute proposal none now none) proposalId correlation store ≠
      conclude (SimulatedOms.execute proposal (some authorization) now none) proposalId correlation
        store := by
  intro h
  by_cases hauthorised : SimulatedOms.Authorised proposal authorization now
  · rw [SimulatedOms.execute_of_authorised hauthorised] at h
    split at h
    · cases (refusal_of_conclude h).1
    · exact absurd h conclude_refused_ne_executed
  · obtain ⟨reason, explanation, hreason, hrefused⟩ :=
      SimulatedOms.refused_of_not_authorised hauthorised none
    rw [hrefused] at h
    exact absurd (refusal_of_conclude h).1.symm hreason

theorem sameExecution_of_eq
    (hexecutor : FcmrAuthorization.hasRole user OrderRoutingRoles.executor = true) {approvedBy : Text}
    (hsame : postExecution request user correlation moments store =
      postExecution (request.approvedAs approvedBy) user correlation moments store) :
    SameExecution user request approvedBy store (moments 1) := by
  cases hid : FcmrAuthorization.objectId user with
  | some identity => exact .identified hid
  | none =>
    cases h : request.approval with
    | none => exact .unapproved h
    | some approval =>
      cases hfind : store.find request.proposalId with
      | none => exact .missing hfind
      | some proposal =>
        rw [postExecution_found hexecutor hfind, postExecution_approvedAs hexecutor hfind] at hsame
        cases hfirst : isNullOrWhiteSpace (some approval.approvedBy) <;>
          cases hsecond : isNullOrWhiteSpace (some approvedBy)
        · rw [authorizationOf_named h hid hfirst,
            authorizationOf_approvedAs_named h hid hsecond] at hsame
          by_cases hauthorised :
              request.correlationId = proposal.correlationId ∧ moments 1 < approval.expiresAt
          case neg => exact .unauthorised h hfind hfirst hsecond hauthorised
          have hpresented (name : Text) := (presented_authorised hfind name).mpr hauthorised
          rw [SimulatedOms.execute_of_authorised (hpresented _),
            SimulatedOms.execute_of_authorised (hpresented _)] at hsame
          split at hsame <;> split at hsame
          · -- the refusal names the approver
            have htext := (refusal_of_conclude hsame).2
            exact .repeated h (List.append_cancel_left (List.append_cancel_right htext))
          · exact absurd hsame conclude_refused_ne_executed
          · exact absurd hsame.symm conclude_refused_ne_executed
          · rename_i hown hother
            exact .others h hfind hfirst hsecond (Bool.eq_false_of_not_eq_true hown)
              (Bool.eq_false_of_not_eq_true hother)
        · rw [authorizationOf_named h hid hfirst,
            authorizationOf_approvedAs_unnamed h hid hsecond] at hsame
          exact absurd hsame.symm (conclude_unnamed_ne _ _ _)
        · rw [authorizationOf_unnamed h hid hfirst,
            authorizationOf_approvedAs_named h hid hsecond] at hsame
          exact absurd hsame (conclude_unnamed_ne _ _ _)
        · exact .unnamed h hfirst hsecond

theorem eq_of_sameExecution
    (hexecutor : FcmrAuthorization.hasRole user OrderRoutingRoles.executor = true) {approvedBy : Text}
    (h : SameExecution user request approvedBy store (moments 1)) :
    postExecution request user correlation moments store =
      postExecution (request.approvedAs approvedBy) user correlation moments store := by
  have hsame (hpresented : ∀ proposal, store.find request.proposalId = some proposal →
      SimulatedOms.execute proposal (authorizationOf request user) (moments 1) none =
        SimulatedOms.execute proposal (authorizationOf (request.approvedAs approvedBy) user)
          (moments 1) none) :
      postExecution request user correlation moments store =
        postExecution (request.approvedAs approvedBy) user correlation moments store := by
    cases hfind : store.find request.proposalId with
    | none => exact postExecution_missing hexecutor hfind approvedBy
    | some proposal =>
      rw [postExecution_found hexecutor hfind, postExecution_approvedAs hexecutor hfind,
        hpresented proposal hfind]
  have hidentified {identity : Text} (hid : FcmrAuthorization.objectId user = some identity) :
      postExecution request user correlation moments store =
        postExecution (request.approvedAs approvedBy) user correlation moments store :=
    hsame fun proposal _ => by rw [authorizationOf_approvedAs hid]
  cases hid : FcmrAuthorization.objectId user with
  | some identity => exact hidentified hid
  | none =>
    cases h with
    | identified h => exact hidentified h
    | unapproved h => rw [approvedAs_unapproved h]
    | missing h => exact postExecution_missing hexecutor h approvedBy
    | unnamed h first second =>
      refine hsame fun proposal _ => ?_
      rw [authorizationOf_unnamed h hid first, authorizationOf_approvedAs_unnamed h hid second]
    | repeated h same =>
      subst same
      rw [approvedAs_own h]
    | @unauthorised approval proposal h found first second lapsed =>
      refine hsame fun proposal' found' => ?_
      cases found.symm.trans found'
      rw [authorizationOf_named h hid first, authorizationOf_approvedAs_named h hid second]
      have hlapsed := mt (presented_authorised found approval.approvedBy).mp lapsed
      exact (SimulatedOms.execute_approver_of_not_authorised hlapsed none approvedBy).symm
    | @others approval proposal h found first second own other =>
      refine hsame fun proposal' found' => ?_
      cases found.symm.trans found'
      rw [authorizationOf_named h hid first, authorizationOf_approvedAs_named h hid second]
      by_cases hauthorised :
          request.correlationId = proposal.correlationId ∧ moments 1 < approval.expiresAt
      · have hpresented (name : Text) := (presented_authorised found name).mpr hauthorised
        rw [SimulatedOms.execute_of_authorised (hpresented _),
          SimulatedOms.execute_of_authorised (hpresented _)]
        exact (if_neg (Bool.eq_false_iff.mp own)).trans (if_neg (Bool.eq_false_iff.mp other)).symm
      · have hlapsed := mt (presented_authorised found approval.approvedBy).mp hauthorised
        exact (SimulatedOms.execute_approver_of_not_authorised hlapsed none approvedBy).symm

theorem postProposal_cases
    (hproposer : FcmrAuthorization.hasRole user OrderRoutingRoles.proposer = true)
    (request : RouteProposalRequest) (correlation : CorrelationIdAccessor)
    (moments : Nat → DateTimeOffset) (store : InMemoryProposalStore) :
    (postProposal request user correlation moments store).2 = store ∨
    ∃ proposal, (postProposal request user correlation moments store).2 = store.save proposal ∧
      proposal.proposedBy = (FcmrAuthorization.objectId user).getD anonymousCaller := by
  unfold postProposal filtered
  rw [requireAppRole_of_hasRole hproposer]
  rcases proposeAsync_cases (some request) user correlation with
    ⟨answer, hanswer, _⟩ | ⟨proposal, considered, correlation', hanswer, hproposedBy⟩
  · simp only [hanswer]
    exact .inl rfl
  · simp only [hanswer]
    exact .inr ⟨proposal, rfl, hproposedBy⟩

theorem postProposal_answer
    (hproposer : FcmrAuthorization.hasRole user OrderRoutingRoles.proposer = true)
    {request : RouteProposalRequest} {considered : List VenueEvaluation}
    (h : proposeAsync (some request) user correlation =
      answerOutcome (.proposed proposal considered) correlation) :
    ∃ answer, (postProposal request user correlation moments store).1 = some answer ∧
      answer.statusCode = 201 := by
  unfold postProposal filtered
  rw [requireAppRole_of_hasRole hproposer, h]
  exact ⟨_, rfl, rfl⟩

theorem anonymous_proposes (hid : FcmrAuthorization.objectId user = none) :
    ∃ proposal considered,
      proposeAsync (some (Samples.routeRequest (lit "o-1") 100)) user Samples.header =
        answerOutcome (.proposed proposal considered) Samples.header ∧
      proposal.proposalId = lit "prop-o-1" ∧ proposal.correlationId = lit "corr-1" ∧
      proposal.proposedBy = anonymousCaller := by
  have hplanned : Samples.isProposed (outcomeOf (Samples.routeRequest (lit "o-1") 100) user
      Samples.header) = true := by
    unfold outcomeOf
    rw [hid]
    decide +kernel
  obtain ⟨proposal, considered, hpropose, hproposalId, _, hcorrelation, hproposedBy⟩ :=
    Samples.routeRequest_handling (lit "o-1") 100 user (by decide +kernel) hplanned
  rw [hid] at hproposedBy
  exact ⟨proposal, considered, hpropose, hproposalId, hcorrelation, hproposedBy⟩

theorem proposesAsItself_iff
    (hproposer : FcmrAuthorization.hasRole user OrderRoutingRoles.proposer = true) :
    ProposesAsItself user ↔ ∃ identity, FcmrAuthorization.objectId user = some identity := by
  constructor
  · intro h
    cases hid : FcmrAuthorization.objectId user with
    | some identity => exact ⟨identity, rfl⟩
    | none =>
      obtain ⟨proposal, considered, hpropose, _⟩ := anonymous_proposes hid
      obtain ⟨answer, hanswer, hstatus⟩ := postProposal_answer hproposer hpropose
      exact absurd hstatus ((h _ _ (fun _ => 0) .empty).2 hid answer hanswer)
  · rintro ⟨identity, hid⟩ request correlation moments store
    refine ⟨fun id proposal hfind => ?_, fun hnone => ?_⟩
    · rcases postProposal_cases hproposer request correlation moments store with
        hsame | ⟨saved, hsaved, hproposedBy⟩
      · rw [hsame] at hfind
        exact .inl hfind
      · rw [hsaved, InMemoryProposalStore.find_save] at hfind
        split at hfind
        · cases hfind
          right
          rw [hproposedBy, hid]
          rfl
        · exact .inl hfind
    · cases hid.symm.trans hnone

/-- Exactly when the approver in the body makes no difference, and exactly whose proposals
are stored under an object id. -/
theorem tokenIdentity_iff (user : Option ClaimsPrincipal) :
    (FcmrAuthorization.hasRole user OrderRoutingRoles.executor = true →
      ∀ request approvedBy correlation moments store,
        postExecution request user correlation moments store =
            postExecution (request.approvedAs approvedBy) user correlation moments store ↔
          SameExecution user request approvedBy store (moments 1)) ∧
    (FcmrAuthorization.hasRole user OrderRoutingRoles.proposer = true →
      (ProposesAsItself user ↔ ∃ identity, FcmrAuthorization.objectId user = some identity)) :=
  ⟨fun hexecutor _ _ _ _ _ =>
      ⟨sameExecution_of_eq hexecutor, eq_of_sameExecution hexecutor⟩,
    proposesAsItself_iff⟩

end

namespace Samples

def nobody : Option ClaimsPrincipal :=
  some ⟨true, [⟨lit "roles", OrderRoutingRoles.proposer⟩, ⟨lit "roles", OrderRoutingRoles.executor⟩]⟩

/-- Bob's approval is filled and that of the stand-in refused; and a proposal is stored. -/
theorem nobody_unidentified :
    ¬(∀ request approvedBy correlation moments store,
      postExecution request nobody correlation moments store =
        postExecution (request.approvedAs approvedBy) nobody correlation moments store) ∧
    ¬ProposesAsItself nobody := by
  have hid : FcmrAuthorization.objectId nobody = none := rfl
  constructor
  · intro h
    obtain ⟨proposal, _, _, hproposalId, hcorrelation, hproposedBy⟩ := anonymous_proposes hid
    have hfind : (InMemoryProposalStore.empty.save proposal).find (lit "prop-o-1") =
        some proposal := by
      simp [hproposalId]
    have hsame := h (executeRequest (lit "prop-o-1")) anonymousCaller header (fun _ => 2000)
      (InMemoryProposalStore.empty.save proposal)
    cases sameExecution_of_eq rfl hsame with
    | identified hidentified => cases hid.symm.trans hidentified
    | unapproved hnone => cases hnone
    | missing hmissing => cases hfind.symm.trans hmissing
    | unnamed happroval first =>
      cases happroval
      exact absurd first (by decide)
    | repeated happroval same =>
      cases happroval
      exact absurd same (by decide)
    | unauthorised happroval found _ _ lapsed =>
      cases happroval
      cases hfind.symm.trans found
      exact lapsed ⟨hcorrelation.symm, show 2000 < 5000 by decide⟩
    | others _ found _ _ _ other =>
      cases hfind.symm.trans found
      rw [hproposedBy, equalsOrdinalIgnoreCase_self] at other
      cases other
  · intro h
    obtain ⟨identity, hidentity⟩ := (proposesAsItself_iff rfl).mp h
    cases hid.symm.trans hidentity

def bob : Option ClaimsPrincipal :=
  some ⟨true, [⟨lit "oid", lit "bob"⟩, ⟨lit "roles", OrderRoutingRoles.proposer⟩,
    ⟨lit "roles", OrderRoutingRoles.executor⟩]⟩

def fillByBob (proposal : RouteProposal) : Result :=
  filled (SimulatedOms.fill proposal (authorization (lit "prop-o-1")) 2000 none) header

theorem bob_filled {proposal : RouteProposal} (hid : proposal.proposalId = lit "prop-o-1")
    (hexecutable : SimulatedOms.Executable proposal (authorization (lit "prop-o-1")) 2000) :
    (postExecution (executeRequest (lit "prop-o-1")) bob header (fun _ => 2000)
      (InMemoryProposalStore.empty.save proposal)).1 = some (fillByBob proposal) := by
  have hfind : (InMemoryProposalStore.empty.save proposal).find (lit "prop-o-1") =
      some proposal := by
    simp [hid]
  have hnew : lit "prop-o-1" ∉ (InMemoryProposalStore.empty.save proposal).executed := by
    simp [InMemoryProposalStore.empty]
  have hpresented : authorizationOf (executeRequest (lit "prop-o-1")) bob =
      some (authorization (lit "prop-o-1")) := rfl
  rw [postExecution_found rfl hfind, hpresented, SimulatedOms.execute_of_executable hexecutable]
  simp [conclude, executeRequest, InMemoryProposalStore.tryMarkExecuted_fresh hnew, fillByBob]

theorem bob_identified : ∃ proposal, proposal.proposedBy = lit "alice" ∧
    (postExecution (executeRequest (lit "prop-o-1")) bob header (fun _ => 2000)
      (InMemoryProposalStore.empty.save proposal)).1 = some (fillByBob proposal) ∧
    postExecution (executeRequest (lit "prop-o-1")) bob header (fun _ => 2000)
        (InMemoryProposalStore.empty.save proposal) =
      postExecution ((executeRequest (lit "prop-o-1")).approvedAs (lit "alice")) bob header
        (fun _ => 2000) (InMemoryProposalStore.empty.save proposal) ∧
    ProposesAsItself bob := by
  obtain ⟨proposal, _, _, hid, _, hcorrelation, hproposer⟩ :=
    routeRequest_handling (lit "o-1") 100 userAlice (by decide +kernel) (by decide +kernel)
  have hexecutable := authorization_executable hcorrelation hproposer
  rw [hid] at hexecutable
  have hsame := ((tokenIdentity_iff bob).1 rfl (executeRequest (lit "prop-o-1")) (lit "alice")
    header (fun _ => 2000) (InMemoryProposalStore.empty.save proposal)).mpr (.identified rfl)
  exact ⟨proposal, hproposer, bob_filled hid hexecutable, hsame,
    ((tokenIdentity_iff bob).2 rfl).mpr ⟨_, rfl⟩⟩

end Samples

end Fcmr.OrderRoutingService
