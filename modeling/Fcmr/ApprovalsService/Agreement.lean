import Fcmr.ApprovalsService.Handlers

/-! Agreement of the store with its audit trail, over requests served one after another.
A request is abandoned when it makes no further call, be it cancelled or its store call
thrown. -/
namespace Fcmr.ApprovalsService

open DotNet Approvals ApprovalStateMachine Programs

def outcomes (store : InMemoryApprovalStore) (id : Text) : List ApprovalAuditEvent :=
  store.audit.filter fun event => event.approvalId = id ∧ event.eventType ≠ .approvalRefused

structure AgreesAt (store : InMemoryApprovalStore) (id : Text) : Prop where
  requested : (store.getAsync id).isSome ↔ ∃ event ∈ store.audit,
    event.approvalId = id ∧ event.eventType = .approvalRequested
  latest : ∀ approval, store.getAsync id = some approval →
    (outcomes store id).getLast?.map (·.resultingState) = some approval.state

def Agreement (store : InMemoryApprovalStore) : Prop := ∀ id, AgreesAt store id

theorem agreement_empty : Agreement .empty := by
  intro id
  constructor <;> simp [InMemoryApprovalStore.empty, InMemoryApprovalStore.getAsync]

theorem outcomes_append (store : InMemoryApprovalStore) (event : ApprovalAuditEvent) (id : Text) :
    outcomes (store.appendAuditAsync event) id = outcomes store id ++
      if event.approvalId = id ∧ event.eventType ≠ .approvalRefused then [event] else [] := by
  simp only [outcomes, InMemoryApprovalStore.appendAuditAsync_audit, List.filter_append,
    List.filter_singleton, Bool.cond_decide]

theorem agreement_write {store : InMemoryApprovalStore} (h : Agreement store)
    {written : Approval} {event : ApprovalAuditEvent} (hid : event.approvalId = written.id)
    (hstate : event.resultingState = written.state) (hrefused : event.eventType ≠ .approvalRefused)
    (hnew : event.eventType = .approvalRequested ∨ (store.getAsync written.id).isSome) :
    Agreement ((store.updateAsync written).appendAuditAsync event) := by
  intro id
  have hold := h id
  by_cases hsame : id = written.id
  · subst hsame
    constructor
    · simp only [InMemoryApprovalStore.getAsync_appendAuditAsync,
        InMemoryApprovalStore.getAsync_updateAsync, if_true, Option.isSome_some, true_iff,
        InMemoryApprovalStore.appendAuditAsync_audit, InMemoryApprovalStore.updateAsync_audit]
      rcases hnew with hrequested | hstored
      · exact ⟨event, by simp, hid, hrequested⟩
      · obtain ⟨earlier, hmem, hearlier⟩ := hold.requested.mp hstored
        exact ⟨earlier, List.mem_append_left _ hmem, hearlier⟩
    · intro approval happroval
      simp only [InMemoryApprovalStore.getAsync_appendAuditAsync,
        InMemoryApprovalStore.getAsync_updateAsync, if_true, Option.some.injEq] at happroval
      rw [outcomes_append, if_pos ⟨hid, hrefused⟩, List.getLast?_append]
      simp [hstate, happroval]
  · have hother : event.approvalId ≠ id := fun heq => hsame (heq.symm.trans hid)
    constructor
    · simp only [InMemoryApprovalStore.getAsync_appendAuditAsync,
        InMemoryApprovalStore.getAsync_updateAsync, if_neg hsame,
        InMemoryApprovalStore.appendAuditAsync_audit, InMemoryApprovalStore.updateAsync_audit]
      simp [hold.requested, hother]
    · intro approval happroval
      simp only [InMemoryApprovalStore.getAsync_appendAuditAsync,
        InMemoryApprovalStore.getAsync_updateAsync, if_neg hsame] at happroval
      rw [outcomes_append, if_neg (fun hevent => hother hevent.1), List.append_nil]
      exact hold.latest approval happroval

theorem agreement_refused {store : InMemoryApprovalStore} (h : Agreement store)
    {event : ApprovalAuditEvent} (hrefused : event.eventType = .approvalRefused) :
    Agreement (store.appendAuditAsync event) := by
  intro id
  constructor
  · simp [(h id).requested, hrefused]
  · intro approval happroval
    rw [outcomes_append, if_neg (fun hevent => hevent.2 hrefused), List.append_nil]
    exact (h id).latest approval happroval

inductive Request
  | create (request : Option CreateApprovalRequest) (user : Option ClaimsPrincipal)
      (correlation : Option Text)
  | decide (id : Text) (request : Option DecisionRequest) (user : Option ClaimsPrincipal)
      (correlation : Option Text)

/-- A request with the moments of the calls that it gets to make. -/
structure Arrival where
  request : Request
  moments : List Moment

section

variable [RoundTripFormat]

theorem agreement_effect {store store' : InMemoryApprovalStore} (h : Agreement store)
    (heffect : Effect store store') : Agreement store' := by
  cases heffect with
  | none => exact h
  | refused _ outcome => exact agreement_refused h (refused_event outcome).1
  | accepted stored outcome =>
    obtain ⟨htype, hid, hstate⟩ := accepted_event outcome
    have hsame := (accepted_sameProposal outcome).id
    apply agreement_write h (hid.trans hsame.symm) hstate
    · rw [htype]
      split <;> exact nofun
    · right
      rw [hsame, stored, Option.isSome_some]
  | created _ outcome =>
    obtain ⟨requested, hevent, htype, hid, hstate⟩ := propose_event outcome
    cases hevent
    have hproposed := propose_accepted outcome
    apply agreement_write h (hid.trans hproposed.id.symm) (hstate.trans hproposed.state.symm)
    · rw [htype]
      exact nofun
    · exact .inl htype

def Request.handler : Request → Handling Result
  | create request user correlation => createAsync request user correlation
  | decide id request user correlation => decideAsync id request user correlation

def Arrival.handled (store : InMemoryApprovalStore) (arrival : Arrival) :
    Handling Result × InMemoryApprovalStore :=
  advance serve arrival.moments (arrival.request.handler, store)

/-- Requests one after another, each to its end or to where it was abandoned. -/
def handleAll : InMemoryApprovalStore → List Arrival → InMemoryApprovalStore :=
  List.foldl fun store arrival => (arrival.handled store).2

def Undivided (store : InMemoryApprovalStore) (arrival : Arrival) : Prop :=
  (arrival.handled store).1.isDone = true ∨
    ∀ op ∈ calls serve arrival.moments (arrival.request.handler, store), ¬op.isWrite = true

/-- The guid drawn for a new proposal, by the first call of `CreateAsync`, is not taken. -/
def DrawsFresh (store : InMemoryApprovalStore) (arrival : Arrival) : Prop :=
  match arrival.request with
  | .create .. => ∀ moment, arrival.moments.head? = some moment → store.getAsync moment.guid = none
  | .decide .. => True

def Orderly : InMemoryApprovalStore → List Arrival → Prop :=
  Machines.Throughout (fun store arrival => (arrival.handled store).2) fun store arrival =>
    Undivided store arrival ∧ DrawsFresh store arrival

theorem effect_handled {store : InMemoryApprovalStore} {arrival : Arrival}
    (hundivided : Undivided store arrival) (hfresh : DrawsFresh store arrival) :
    Effect store (arrival.handled store).2 := by
  obtain ⟨request, moments⟩ := arrival
  rcases hundivided with hdone | hreads
  · cases moments with
    | nil => exact .none
    | cons first moments =>
      unfold Arrival.handled at hdone ⊢
      generalize hresult : advance serve (first :: moments) (request.handler, store) = result at *
      obtain ⟨_ | _, store'⟩ := result
      · have heval := eval_of_advance hresult
        rw [← congrArg Prod.snd heval]
        cases request with
        | create => exact effect_createAsync (hfresh first rfl) ..
        | decide => exact effect_decideAsync ..
      · cases hdone
  · have hsame : (Arrival.handled store ⟨request, moments⟩).2 = store :=
      advance_untouched (fun op => op.isWrite = true) serve_read hreads
    rw [hsame]
    exact .none

theorem agreement_handled {store : InMemoryApprovalStore} {arrival : Arrival}
    (h : Agreement store) (horderly : Undivided store arrival ∧ DrawsFresh store arrival) :
    Agreement (arrival.handled store).2 :=
  agreement_effect h (effect_handled horderly.1 horderly.2)

/-- Store and audit trail agree after every request of a run in which no request is
abandoned between its two writes and no guid is drawn twice. -/
theorem agreement_after_every_request {arrivals : List Arrival} (h : Orderly .empty arrivals)
    {before after : List Arrival} (hsplit : arrivals = before ++ after) :
    Agreement (handleAll .empty before) := by
  subst hsplit
  have hbefore : Orderly .empty before := (Machines.throughout_append.mp h).1
  exact hbefore.invariant (P := Agreement) (fun _ _ => agreement_handled) agreement_empty

end

namespace Samples

open Approvals.Samples

def createByAlice : Request :=
  .create (some ⟨.orderRouting, some samplePacket, some 2000, none⟩)
    (some ⟨true, [⟨lit "oid", lit "alice"⟩]⟩) none

def approveByBob : Request :=
  .decide (lit "a-1") decisionOfBob userBob none

def cancelledEarly : List Arrival :=
  [⟨createByAlice, List.replicate 4 ⟨1000, lit "a-1"⟩⟩, ⟨approveByBob, [⟨1500, []⟩]⟩]

theorem cancelledEarly_agreement : Agreement (handleAll .empty cancelledEarly) := by
  refine agreement_after_every_request ?_ (List.append_nil cancelledEarly).symm
  refine ⟨⟨.inl rfl, ?_⟩, ⟨.inr ?_, trivial⟩, trivial⟩
  · intro moment _
    rfl
  · exact List.forall_mem_singleton.mpr nofun

/-- The request is cancelled between the two writes of `CreateAsync`. -/
theorem cancelledCreate_disagreement :
    ¬Agreement (handleAll .empty [⟨createByAlice, List.replicate 3 ⟨1000, lit "a-1"⟩⟩]) := by
  intro h
  obtain ⟨event, hmem, _⟩ := (h (lit "a-1")).requested.mp rfl
  exact List.not_mem_nil hmem

end Samples

end Fcmr.ApprovalsService
