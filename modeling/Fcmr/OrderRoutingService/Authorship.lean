import Fcmr.Library.Traces
import Fcmr.OrderRoutingService.Executions
import Fcmr.ServiceDefaults.ManagedPlatform

/-! The order routing service behind its role filters, with requests that overlap in any way: who
stands behind each proposal that it stores and each execution that it marks. -/
namespace Fcmr.OrderRoutingService

open DotNet OrderRouting ServiceDefaults Programs
open ApprovalsService (ClaimsPrincipal)

def Arrival.user : Arrival → Option ClaimsPrincipal
  | propose _ user _ => user
  | execute _ user _ => user

def Arrival.requiredRole : Arrival → Text
  | propose .. => OrderRoutingRoles.proposer
  | execute .. => OrderRoutingRoles.executor

def Arrival.invokeAsync (enforced : Bool) (arrival : Arrival) : Handling (Option Result) :=
  filtered enforced arrival.requiredRole arrival.user arrival.handling

def hosting (enforced : Bool) (arrivals : List Arrival) : Serving where
  threads := arrivals.map (·.invokeAsync enforced)
  state := .empty

inductive Wrote (arrival : Arrival) : Op → Prop
  | saved {request : Option RouteProposalRequest} {user : Option ClaimsPrincipal}
      {correlation : CorrelationIdAccessor} {proposal : RouteProposal}
      (arrived : arrival = .propose request user correlation)
      (proposer : proposal.proposedBy = (FcmrAuthorization.objectId user).getD anonymousCaller) :
      Wrote arrival (.save proposal)
  | marked {request : ExecuteRouteRequest} {user : Option ClaimsPrincipal}
      {correlation : CorrelationIdAccessor}
      (arrived : arrival = .execute (some request) user correlation) :
      Wrote arrival (.tryMarkExecuted request.proposalId)

def Op.isWrite : Op → Bool
  | save _ => true
  | tryMarkExecuted _ => true
  | _ => false

theorem serve_read (op : Op) (now : DateTimeOffset) (store : InMemoryProposalStore)
    (h : ¬op.isWrite = true) : (serve op now store).2 = store := by
  cases op <;> first | rfl | exact absurd rfl h

variable {calls : List (Call Op Op.Ret)} {p : Handling (Option Result)}

theorem wrote_proposeAsync {request : Option RouteProposalRequest} {user : Option ClaimsPrincipal}
    {correlation : CorrelationIdAccessor}
    (h : Trace (proposeAsync request user correlation) calls p) :
    ∀ call ∈ calls, Wrote (.propose request user correlation) call.op := by
  rcases proposeAsync_cases request user correlation with
    ⟨answer, hanswer, _⟩ | ⟨proposal, considered, correlation', hanswer, hproposer⟩
  · rw [hanswer] at h
    obtain ⟨rfl, _⟩ := h.of_done
    exact List.forall_mem_nil _
  · rw [hanswer] at h
    rcases h.of_call with ⟨rfl, _⟩ | ⟨_, later, rfl, hdone⟩
    · exact List.forall_mem_nil _
    · obtain ⟨rfl, _⟩ := hdone.of_done
      exact List.forall_mem_singleton.mpr (.saved rfl hproposer)

theorem wrote_executeAsync {request : Option ExecuteRouteRequest} {user : Option ClaimsPrincipal}
    {correlation : CorrelationIdAccessor}
    (h : Trace (executeAsync request user correlation) calls p) :
    ∀ call ∈ calls, call.op.isWrite = true → Wrote (.execute request user correlation) call.op := by
  cases request with
  | none =>
    obtain ⟨rfl, _⟩ := h.of_done
    exact List.forall_mem_nil _
  | some request =>
  unfold executeAsync at h
  simp only [perform_bind] at h
  rcases h.of_call with ⟨rfl, _⟩ | ⟨found, later, rfl, hattempt⟩
  · exact List.forall_mem_nil _
  rw [List.forall_mem_cons]
  refine ⟨nofun, ?_⟩
  cases found with
  | none =>
    obtain ⟨rfl, _⟩ := hattempt.of_done
    exact List.forall_mem_nil _
  | some proposal =>
  unfold attemptExecution at hattempt
  simp only [perform_bind] at hattempt
  rcases hattempt.of_call with ⟨rfl, _⟩ | ⟨now, later, rfl, hmark⟩
  · exact List.forall_mem_nil _
  rw [List.forall_mem_cons]
  refine ⟨nofun, ?_⟩
  split at hmark
  · obtain ⟨rfl, _⟩ := hmark.of_done
    exact List.forall_mem_nil _
  rcases hmark.of_call with ⟨rfl, _⟩ | ⟨marked, later, rfl, hdone⟩
  · exact List.forall_mem_nil _
  cases marked <;>
  · obtain ⟨rfl, _⟩ := hdone.of_done
    exact List.forall_mem_singleton.mpr fun _ => .marked rfl

theorem wrote_invokeAsync {arrival : Arrival} (h : Trace (arrival.invokeAsync true) calls p) :
    ∀ call ∈ calls, call.op.isWrite = true → Wrote arrival call.op ∧
      FcmrAuthorization.hasRole arrival.user arrival.requiredRole = true := by
  unfold Arrival.invokeAsync filtered at h
  split at h
  · obtain ⟨rfl, _⟩ := h.of_done
    exact List.forall_mem_nil _
  rename_i hrole
  refine fun call hcall hwrite => ⟨?_, requireAppRole_eq_none hrole⟩
  cases arrival with
  | propose request user correlation => exact wrote_proposeAsync h call hcall
  | execute request user correlation => exact wrote_executeAsync h call hcall hwrite

structure Authored (arrivals : List Arrival) (store : InMemoryProposalStore) : Prop where
  proposed : ∀ id proposal, store.find id = some proposal → ∃ request user correlation,
    .propose request user correlation ∈ arrivals ∧
      FcmrAuthorization.hasRole user OrderRoutingRoles.proposer = true ∧
      proposal.proposedBy = (FcmrAuthorization.objectId user).getD anonymousCaller
  executed : ∀ id ∈ store.executed, ∃ request user correlation,
    .execute (some request) user correlation ∈ arrivals ∧ request.proposalId = id ∧
      FcmrAuthorization.hasRole user OrderRoutingRoles.executor = true

theorem authored_empty (arrivals : List Arrival) : Authored arrivals .empty := by
  refine ⟨fun id proposal hfound => ?_, fun id hid => ?_⟩
  · have hnone : InMemoryProposalStore.empty.find id = none := AList.lookup_empty id
    cases hnone.symm.trans hfound
  · exact absurd hid (Finset.notMem_empty id)

theorem authored_write {arrivals : List Arrival} {arrival : Arrival} (harrival : arrival ∈ arrivals)
    {store : InMemoryProposalStore} (h : Authored arrivals store) {op : Op}
    (hwrote : Wrote arrival op)
    (hrole : FcmrAuthorization.hasRole arrival.user arrival.requiredRole = true)
    (now : DateTimeOffset) : Authored arrivals (serve op now store).2 := by
  cases hwrote with
  | saved arrived proposer =>
    subst arrived
    refine ⟨fun id found hfound => ?_, h.executed⟩
    simp only [serve, InMemoryProposalStore.find_save] at hfound
    split at hfound
    · cases hfound
      exact ⟨_, _, _, harrival, hrole, proposer⟩
    · exact h.proposed id found hfound
  | marked arrived =>
    subst arrived
    refine ⟨fun id found hfound => ?_, fun id hid => ?_⟩
    · simp only [serve, InMemoryProposalStore.find_tryMarkExecuted] at hfound
      exact h.proposed id found hfound
    · rcases InMemoryProposalStore.mem_tryMarkExecuted.mp hid with rfl | hearlier
      · exact ⟨_, _, _, harrival, rfl, hrole⟩
      · exact h.executed id hearlier

theorem authored_run (arrivals : List Arrival) (turns : List Turn) :
    Authored arrivals ((hosting true arrivals).run serve turns).state := by
  induction turns using List.reverseRecOn with
  | nil => exact authored_empty arrivals
  | append_singleton turns turn ih =>
    rcases (hosting true arrivals).run_snoc_cases serve turns turn with
      hidle | ⟨op, hevent, hstate⟩
    · exact hidle ▸ ih
    by_cases hwrite : op.isWrite = true
    swap
    · rw [hstate, serve_read op _ _ hwrite]
      exact ih
    have hlt := Pool.events_lt _ hevent
    rw [hosting, List.length_map] at hlt
    have hstart : (hosting true arrivals).threads[turn.1]? =
        some (arrivals[turn.1].invokeAsync true) := by
      unfold hosting
      rw [List.getElem?_map, List.getElem?_eq_getElem hlt]
      rfl
    obtain ⟨p, _, htrace⟩ := Pool.trace _ (turns ++ [turn]) hstart
    obtain ⟨hwrote, hrole⟩ := wrote_invokeAsync htrace _ (mem_own.mpr hevent) hwrite
    rw [hstate]
    exact authored_write (List.getElem_mem hlt) ih hwrote hrole turn.2

end Fcmr.OrderRoutingService
