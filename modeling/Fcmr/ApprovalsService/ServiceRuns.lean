import Fcmr.ApprovalsService.Agreement
import Fcmr.ApprovalsService.Interleavings
import Fcmr.Library.Traces
import Fcmr.ServiceDefaults.Security

/-! The approvals service behind its role filter, with requests that overlap in any way. What a
request writes follows from the calls that it has made. -/
namespace Fcmr.ApprovalsService

open DotNet Approvals ApprovalStateMachine Programs ApprovalsAuthorization ServiceDefaults

namespace ApprovalRoles

def proposer : Text := lit "Proposer"
def approver : Text := lit "Approver"

end ApprovalRoles

/-- True unless enforcement is switched off and the host is Development. -/
def ApprovalsAuthorization.isEnforced (enabled : Option Bool) (isDevelopment : Bool) : Bool :=
  enabled.getD true || !isDevelopment

/-- Line for line that of the lane services. -/
def ApprovalsAuthorization.hasRole : Option ClaimsPrincipal → Text → Bool :=
  FcmrAuthorization.hasRole

def Request.user : Request → Option ClaimsPrincipal
  | create _ user _ => user
  | decide _ _ user _ => user

def Request.correlation : Request → Option Text
  | create _ _ correlation => correlation
  | decide _ _ _ correlation => correlation

def Request.requiredRole : Request → Text
  | create .. => ApprovalRoles.proposer
  | decide .. => ApprovalRoles.approver

/-- A request, and the setting of enforcement as the filter finds it. -/
structure Inbound where
  request : Request
  enabled : Option Bool

abbrev Calls := List (Call Op Op.Ret)

section

variable [RoundTripFormat]

/-- `RequireAppRoleFilter` around the handlers. -/
def Inbound.invokeAsync (isDevelopment : Bool) (inbound : Inbound) : Handling Result :=
  if ApprovalsAuthorization.isEnforced inbound.enabled isDevelopment = false then
    inbound.request.handler
  else if ApprovalsAuthorization.hasRole inbound.request.user inbound.request.requiredRole then
    inbound.request.handler
  else
    return error inbound.request.correlation 403 (lit "Forbidden") <|
      lit "The caller does not carry the " ++ inbound.request.requiredRole ++ lit " app role."

def serving (isDevelopment : Bool) (arrivals : List Inbound) : Serving where
  threads := arrivals.map (·.invokeAsync isDevelopment)
  state := .empty

inductive Wrote (request : Request) (calls : Calls) : Op → Prop
  | created {body : CreateApprovalRequest} {user : Option ClaimsPrincipal}
      {correlation : Option Text} {id proposedBy : Text} {evidencePacket : EvidencePacket}
      {expiresAt now : DateTimeOffset} {approval : Approval} {event : Option ApprovalAuditEvent}
      (arrived : request = .create (some body) user correlation)
      (proposer : objectId user = some proposedBy)
      (evidence : body.evidencePacket = some evidencePacket) (expiry : body.expiresAt = some expiresAt)
      (outcome : Approval.propose id body.lane evidencePacket proposedBy expiresAt now =
        .accepted approval event) : Wrote request calls (.createAsync approval)
  | expired {id : Text} {body : Option DecisionRequest} {user : Option ClaimsPrincipal}
      {correlation : Option Text} {approval next : Approval} {now : DateTimeOffset}
      {event : ApprovalAuditEvent} (arrived : request = .decide id body user correlation)
      (read : ⟨.getAsync id, some approval⟩ ∈ calls)
      (outcome : apply approval .expire now = .accepted next event) :
      Wrote request calls (.updateAsync next)
  | decided {id decidedBy : Text} {body : Option DecisionRequest} {user : Option ClaimsPrincipal}
      {correlation : Option Text} {approval next : Approval} {command : ApprovalCommand}
      {now : DateTimeOffset} {event : ApprovalAuditEvent}
      (arrived : request = .decide id body user correlation)
      (read : ⟨.getAsync id, some approval⟩ ∈ calls) (decider : objectId user = some decidedBy)
      (requested : requestedCommand body decidedBy = some command)
      (outcome : apply approval command now = .accepted next event)
      (told : ⟨.appendAuditAsync event, ()⟩ ∈ calls) : Wrote request calls (.updateAsync next)
  | told (event : ApprovalAuditEvent) : Wrote request calls (.appendAuditAsync event)

theorem Wrote.mono {request : Request} {calls calls' : Calls} {op : Op}
    (h : Wrote request calls op) (hsub : calls ⊆ calls') : Wrote request calls' op := by
  cases h with
  | created arrived proposer evidence expiry outcome =>
    exact .created arrived proposer evidence expiry outcome
  | expired arrived read outcome => exact .expired arrived (hsub read) outcome
  | decided arrived read decider requested outcome told =>
    exact .decided arrived (hsub read) decider requested outcome (hsub told)
  | told event => exact .told event

variable {calls : Calls} {p : Handling Result}

theorem recordDecision_wrote {approval : Approval} {command : ApprovalCommand}
    {correlation : Option Text} (h : Trace (recordDecision approval command correlation) calls p) :
    ∀ call ∈ calls, call.op.isWrite = true → (∃ event, call.op = .appendAuditAsync event) ∨
      ∃ next now event, call.op = .updateAsync next ∧
        apply approval command now = .accepted next event ∧
        ⟨.appendAuditAsync event, ()⟩ ∈ calls := by
  unfold recordDecision at h
  simp only [perform_bind] at h
  rcases h.of_call with ⟨rfl, _⟩ | ⟨now, later, rfl, htell⟩
  · exact List.forall_mem_nil _
  rcases htell.of_call with ⟨rfl, _⟩ | ⟨_, later, rfl, hresult⟩
  · exact List.forall_mem_singleton.mpr nofun
  simp only [List.forall_mem_cons]
  refine ⟨nofun, fun _ => .inl ⟨_, rfl⟩, ?_⟩
  cases houtcome : apply approval command now with
  | refused refusal event =>
    rw [houtcome] at hresult
    obtain ⟨rfl, _⟩ := hresult.of_done
    exact List.forall_mem_nil _
  | accepted next event =>
    rw [houtcome] at hresult
    rcases hresult.of_call with ⟨rfl, _⟩ | ⟨_, later, rfl, hdone⟩
    · exact List.forall_mem_nil _
    · obtain ⟨rfl, _⟩ := hdone.of_done
      refine List.forall_mem_singleton.mpr fun _ => .inr ⟨next, now, event, rfl, houtcome, ?_⟩
      exact List.mem_cons_of_mem _ List.mem_cons_self

theorem recordExpiry_wrote {approval : Approval} {correlation : Option Text}
    (h : Trace (recordExpiry approval correlation) calls p) :
    ∀ call ∈ calls, call.op.isWrite = true → (∃ event, call.op = .appendAuditAsync event) ∨
      ∃ next now event, call.op = .updateAsync next ∧
        apply approval .expire now = .accepted next event := by
  unfold recordExpiry at h
  simp only [perform_bind] at h
  rcases h.of_call with ⟨rfl, _⟩ | ⟨now, later, rfl, hresult⟩
  · exact List.forall_mem_nil _
  rw [List.forall_mem_cons]
  refine ⟨nofun, ?_⟩
  cases houtcome : apply approval .expire now with
  | refused refusal event =>
    rw [houtcome] at hresult
    rcases hresult.of_call with ⟨rfl, _⟩ | ⟨_, later, rfl, hdone⟩
    · exact List.forall_mem_nil _
    · obtain ⟨rfl, _⟩ := hdone.of_done
      exact List.forall_mem_singleton.mpr fun _ => .inl ⟨_, rfl⟩
  | accepted next event =>
    rw [houtcome] at hresult
    rcases hresult.of_call with ⟨rfl, _⟩ | ⟨_, later, rfl, htell⟩
    · exact List.forall_mem_nil _
    rw [List.forall_mem_cons]
    refine ⟨fun _ => .inr ⟨next, now, event, rfl, houtcome⟩, ?_⟩
    rcases htell.of_call with ⟨rfl, _⟩ | ⟨_, later, rfl, hdone⟩
    · exact List.forall_mem_nil _
    · obtain ⟨rfl, _⟩ := hdone.of_done
      exact List.forall_mem_singleton.mpr fun _ => .inl ⟨_, rfl⟩

theorem wrote_decideAsync {id : Text} {body : Option DecisionRequest}
    {user : Option ClaimsPrincipal} {correlation : Option Text}
    (h : Trace (decideAsync id body user correlation) calls p) :
    ∀ call ∈ calls, call.op.isWrite = true →
      Wrote (.decide id body user correlation) calls call.op := by
  unfold decideAsync at h
  simp only [perform_bind] at h
  rcases h.of_call with ⟨rfl, _⟩ | ⟨found, later, rfl, hread⟩
  · exact List.forall_mem_nil _
  rw [List.forall_mem_cons]
  refine ⟨(absurd · Bool.false_ne_true), ?_⟩
  cases found with
  | none =>
    obtain ⟨rfl, _⟩ := hread.of_done
    exact List.forall_mem_nil _
  | some approval =>
  dsimp only at hread
  split at hread
  · obtain ⟨rfl, _⟩ := hread.of_done
    exact List.forall_mem_nil _
  split at hread
  · obtain ⟨rfl, _⟩ := hread.of_done
    exact List.forall_mem_nil _
  rename_i decidedBy hdecider
  have hdecider : objectId user = some decidedBy := (Option.filter_eq_some_iff.mp hdecider).1
  rcases hread.of_call with ⟨rfl, _⟩ | ⟨now, later, rfl, hserved⟩
  · exact List.forall_mem_nil _
  rw [List.forall_mem_cons]
  refine ⟨(absurd · Bool.false_ne_true), fun call hcall hwrite => ?_⟩
  have hwithin : ∀ other ∈ later, other ∈ (⟨.getAsync id, some approval⟩ : Call Op Op.Ret) ::
      ⟨.getUtcNow, now⟩ :: later :=
    fun other hother => List.mem_cons_of_mem _ (List.mem_cons_of_mem _ hother)
  split at hserved
  · rcases recordExpiry_wrote hserved call hcall hwrite with
      ⟨event, hop⟩ | ⟨next, then', event, hop, houtcome⟩
    · exact hop ▸ .told event
    · exact hop ▸ .expired rfl List.mem_cons_self houtcome
  split at hserved
  · obtain ⟨rfl, _⟩ := hserved.of_done
    cases hcall
  · rename_i command hcommand
    rcases recordDecision_wrote hserved call hcall hwrite with
      ⟨event, hop⟩ | ⟨next, then', event, hop, houtcome, htold⟩
    · exact hop ▸ .told event
    · exact hop ▸ .decided rfl List.mem_cons_self hdecider hcommand houtcome (hwithin _ htold)

theorem wrote_createAsync {body : Option CreateApprovalRequest} {user : Option ClaimsPrincipal}
    {correlation : Option Text} (h : Trace (createAsync body user correlation) calls p) :
    ∀ call ∈ calls, call.op.isWrite = true →
      Wrote (.create body user correlation) calls call.op := by
  unfold createAsync at h
  split at h
  · obtain ⟨rfl, _⟩ := h.of_done
    exact List.forall_mem_nil _
  rename_i body
  split at h
  · obtain ⟨rfl, _⟩ := h.of_done
    exact List.forall_mem_nil _
  split at h
  · obtain ⟨rfl, _⟩ := h.of_done
    exact List.forall_mem_nil _
  rename_i proposedBy hproposer
  have hproposer : objectId user = some proposedBy := (Option.filter_eq_some_iff.mp hproposer).1
  split at h
  · obtain ⟨rfl, _⟩ := h.of_done
    exact List.forall_mem_nil _
  rename_i evidencePacket hevidence
  split at h
  · obtain ⟨rfl, _⟩ := h.of_done
    exact List.forall_mem_nil _
  rename_i expiresAt hexpiry
  simp only [perform_bind] at h
  rcases h.of_call with ⟨rfl, _⟩ | ⟨id, later, rfl, hclock⟩
  · exact List.forall_mem_nil _
  rcases hclock.of_call with ⟨rfl, _⟩ | ⟨now, later, rfl, hresult⟩
  · exact List.forall_mem_singleton.mpr (absurd · Bool.false_ne_true)
  simp only [List.forall_mem_cons]
  refine ⟨(absurd · Bool.false_ne_true), (absurd · Bool.false_ne_true), ?_⟩
  split at hresult
  · obtain ⟨rfl, _⟩ := hresult.of_done
    exact List.forall_mem_nil _
  rename_i approval event houtcome
  rcases hresult.of_call with ⟨rfl, _⟩ | ⟨_, later, rfl, htell⟩
  · exact List.forall_mem_nil _
  rw [List.forall_mem_cons]
  refine ⟨fun _ => .created rfl hproposer hevidence hexpiry houtcome, ?_⟩
  obtain ⟨requested, rfl, _⟩ := propose_event houtcome
  rcases htell.of_call with ⟨rfl, _⟩ | ⟨_, later, rfl, hdone⟩
  · exact List.forall_mem_nil _
  · obtain ⟨rfl, _⟩ := hdone.of_done
    exact List.forall_mem_singleton.mpr fun _ => .told requested

theorem wrote_invokeAsync {isDevelopment : Bool} {inbound : Inbound}
    (h : Trace (inbound.invokeAsync isDevelopment) calls p) :
    ∀ call ∈ calls, call.op.isWrite = true → Wrote inbound.request calls call.op ∧
      (ApprovalsAuthorization.isEnforced inbound.enabled isDevelopment = true →
        ApprovalsAuthorization.hasRole inbound.request.user inbound.request.requiredRole = true) := by
  have hhandler (hserved : Trace inbound.request.handler calls p) :
      ∀ call ∈ calls, call.op.isWrite = true → Wrote inbound.request calls call.op := by
    cases hrequest : inbound.request with
    | create body user correlation => exact wrote_createAsync (hrequest ▸ hserved)
    | decide id body user correlation => exact wrote_decideAsync (hrequest ▸ hserved)
  unfold Inbound.invokeAsync at h
  split at h
  · rename_i hoff
    refine fun call hcall hwrite => ⟨hhandler h call hcall hwrite, fun hon => ?_⟩
    cases hoff.symm.trans hon
  split at h
  · rename_i hrole
    exact fun call hcall hwrite => ⟨hhandler h call hcall hwrite, fun _ => hrole⟩
  · obtain ⟨rfl, _⟩ := h.of_done
    exact List.forall_mem_nil _

end

end Fcmr.ApprovalsService
