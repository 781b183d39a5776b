import Fcmr.ApprovalsService.ServiceRuns

/-! What holds of every stored proposal however requests overlap, even where two decisions collide:
who raised it, who concluded it and what the audit trail tells of that. -/
namespace Fcmr.ApprovalsService

open DotNet Approvals ApprovalStateMachine Programs ApprovalsAuthorization

/-- What is never undone: nothing leaves the audit trail, a proposal stays the one that was raised,
and once it is closed it is never pending again. -/
structure Kept (store store' : InMemoryApprovalStore) : Prop where
  audit : store.audit <+: store'.audit
  proposals : ∀ id approval, store.getAsync id = some approval → ∃ later,
    store'.getAsync id = some later ∧ SameProposal approval later ∧
      (approval.state ≠ .pendingApproval → later.state ≠ .pendingApproval)

theorem Kept.rfl {store : InMemoryApprovalStore} : Kept store store where
  audit := List.prefix_rfl
  proposals _ approval h := ⟨approval, h, .rfl, id⟩

theorem Kept.trans {a b c : InMemoryApprovalStore} (h : Kept a b) (h' : Kept b c) : Kept a c where
  audit := h.audit.trans h'.audit
  proposals id approval hstored := by
    obtain ⟨middle, hmiddle, hsame, hclosed⟩ := h.proposals id approval hstored
    obtain ⟨later, hlater, hsame', hclosed'⟩ := h'.proposals id middle hmiddle
    exact ⟨later, hlater, hsame.trans hsame', fun hstate => hclosed' (hclosed hstate)⟩

theorem sameProposal_symm {left right : Approval} (h : SameProposal left right) :
    SameProposal right left where
  id := h.id.symm
  correlationId := h.correlationId.symm
  lane := h.lane.symm
  evidencePacket := h.evidencePacket.symm
  evidencePacketHash := h.evidencePacketHash.symm
  proposedByObjectId := h.proposedByObjectId.symm
  expiresAt := h.expiresAt.symm
  createdAt := h.createdAt.symm

theorem kept_createAsync (store : InMemoryApprovalStore) (approval : Approval) :
    Kept store (store.createAsync approval).2 := by
  cases hstored : store.getAsync approval.id with
  | some taken =>
    rw [InMemoryApprovalStore.createAsync_taken hstored]
    exact .rfl
  | none =>
    rw [InMemoryApprovalStore.createAsync_fresh hstored]
    refine ⟨List.prefix_rfl, fun id earlier hearlier => ⟨earlier, ?_, .rfl, fun hclosed => hclosed⟩⟩
    rw [InMemoryApprovalStore.getAsync_updateAsync, if_neg]
    · exact hearlier
    · rintro rfl
      cases hstored.symm.trans hearlier

theorem kept_updateAsync {store : InMemoryApprovalStore} {current next : Approval}
    (hcurrent : store.getAsync next.id = some current) (hsame : SameProposal current next)
    (hclosed : next.state ≠ .pendingApproval) : Kept store (store.updateAsync next) := by
  refine ⟨List.prefix_rfl, fun id earlier hearlier => ?_⟩
  rw [InMemoryApprovalStore.getAsync_updateAsync]
  split
  · rename_i hid
    subst hid
    cases hcurrent.symm.trans hearlier
    exact ⟨next, Eq.refl _, hsame, fun _ => hclosed⟩
  · exact ⟨earlier, hearlier, .rfl, fun hclosed => hclosed⟩

section

variable [RoundTripFormat] (isDevelopment : Bool) (arrivals : List Inbound)

structure Raised (approval : Approval) : Prop where
  source : ∃ inbound ∈ arrivals, ∃ body user correlation,
    inbound.request = .create (some body) user correlation ∧
      objectId user = some approval.proposedByObjectId ∧ approval.lane = body.lane ∧
      body.evidencePacket = some approval.evidencePacket ∧
      body.expiresAt = some approval.expiresAt ∧
      (ApprovalsAuthorization.isEnforced inbound.enabled isDevelopment = true →
        ApprovalsAuthorization.hasRole user ApprovalRoles.proposer = true)
  intact : approval.verifyEvidenceIntegrity = true
  inFuture : approval.createdAt < approval.expiresAt

structure Decided (approval : Approval) (decidedBy : Text) (decidedAt : DateTimeOffset) : Prop where
  source : ∃ inbound ∈ arrivals, ∃ body user correlation command decision,
    inbound.request = .decide approval.id body user correlation ∧
      objectId user = some decidedBy ∧ requestedCommand body decidedBy = some command ∧
      command.decision = some decision ∧ approval.state = decision.targetState.state ∧
      (ApprovalsAuthorization.isEnforced inbound.enabled isDevelopment = true →
        ApprovalsAuthorization.hasRole user ApprovalRoles.approver = true)
  decider : approval.decidedByObjectId = some decidedBy
  dated : approval.decidedAt = some decidedAt
  segregated : isSameIdentity decidedBy approval.proposedByObjectId = false
  inTime : decidedAt < approval.expiresAt

def Announced (store : InMemoryApprovalStore) (approval : Approval) (decidedBy : Text)
    (decidedAt : DateTimeOffset) : Prop :=
  ∃ event ∈ store.audit, event.eventType = .approvalDecided ∧ event.approvalId = approval.id ∧
    event.correlationId = approval.correlationId ∧ event.actorObjectId = some decidedBy ∧
    event.resultingState = approval.state ∧ event.occurredAt = decidedAt ∧
    event.evidencePacketHash = approval.evidencePacketHash

inductive Concluded (store : InMemoryApprovalStore) (approval : Approval) : Prop
  | pending (state : approval.state = .pendingApproval)
    (undecided : approval.decidedByObjectId = none ∧ approval.decidedAt = none)
  | expired (state : approval.state = .expired) (decider : approval.decidedByObjectId = none)
      (due : ∃ instant, approval.decidedAt = some instant ∧ approval.expiresAt ≤ instant)
  | decided (decidedBy : Text) (instant : DateTimeOffset)
      (byOther : Decided isDevelopment arrivals approval decidedBy instant)
      (announced : Announced store approval decidedBy instant)

structure Accounted (store : InMemoryApprovalStore) : Prop where
  raised : ∀ id approval, store.getAsync id = some approval → Raised isDevelopment arrivals approval
  concluded : ∀ id approval, store.getAsync id = some approval →
    Concluded isDevelopment arrivals store approval

variable {isDevelopment arrivals}

theorem Raised.of_same {approval next : Approval} (h : Raised isDevelopment arrivals approval)
    (hsame : SameProposal approval next) : Raised isDevelopment arrivals next where
  source := by
    rw [hsame.proposedByObjectId, hsame.lane, hsame.evidencePacket, hsame.expiresAt]
    exact h.source
  intact := by
    rw [Approval.verifyEvidenceIntegrity, hsame.evidencePacket, hsame.evidencePacketHash]
    exact h.intact
  inFuture := by
    rw [hsame.createdAt, hsame.expiresAt]
    exact h.inFuture

omit [RoundTripFormat] in
theorem Concluded.mono {store store' : InMemoryApprovalStore} {approval : Approval}
    (h : Concluded isDevelopment arrivals store approval) (haudit : store.audit <+: store'.audit) :
    Concluded isDevelopment arrivals store' approval := by
  cases h with
  | pending state undecided => exact .pending state undecided
  | expired state decider due => exact .expired state decider due
  | decided decidedBy instant byOther announced =>
    obtain ⟨event, hevent, htells⟩ := announced
    exact .decided decidedBy instant byOther ⟨event, haudit.subset hevent, htells⟩

theorem accounted_empty : Accounted isDevelopment arrivals .empty := by
  have hnone (id : Text) : InMemoryApprovalStore.empty.getAsync id = none := AList.lookup_empty id
  constructor <;>
  · intro id approval hstored
    cases (hnone id).symm.trans hstored

theorem accounted_createAsync {store : InMemoryApprovalStore} {approval : Approval}
    (h : Accounted isDevelopment arrivals store) (hraised : Raised isDevelopment arrivals approval)
    (hconcluded : Concluded isDevelopment arrivals store approval) :
    Accounted isDevelopment arrivals (store.createAsync approval).2 := by
  cases hstored : store.getAsync approval.id with
  | some taken =>
    rw [InMemoryApprovalStore.createAsync_taken hstored]
    exact h
  | none =>
    rw [InMemoryApprovalStore.createAsync_fresh hstored]
    constructor
    · intro id other hother
      rw [InMemoryApprovalStore.getAsync_updateAsync] at hother
      split at hother
      · cases hother
        exact hraised
      · exact h.raised id other hother
    · intro id other hother
      rw [InMemoryApprovalStore.getAsync_updateAsync] at hother
      split at hother
      · cases hother
        exact hconcluded.mono List.prefix_rfl
      · exact (h.concluded id other hother).mono List.prefix_rfl

theorem accounted_updateAsync {store : InMemoryApprovalStore} {next : Approval}
    (h : Accounted isDevelopment arrivals store) (hraised : Raised isDevelopment arrivals next)
    (hconcluded : Concluded isDevelopment arrivals store next) :
    Accounted isDevelopment arrivals (store.updateAsync next) where
  raised id other hother := by
    rw [InMemoryApprovalStore.getAsync_updateAsync] at hother
    split at hother
    · cases hother
      exact hraised
    · exact h.raised id other hother
  concluded id other hother := by
    rw [InMemoryApprovalStore.getAsync_updateAsync] at hother
    split at hother
    · cases hother
      exact hconcluded.mono List.prefix_rfl
    · exact (h.concluded id other hother).mono List.prefix_rfl

theorem accounted_appendAuditAsync {store : InMemoryApprovalStore}
    (h : Accounted isDevelopment arrivals store) (event : ApprovalAuditEvent) :
    Accounted isDevelopment arrivals (store.appendAuditAsync event) where
  raised := h.raised
  concluded id approval hstored := (h.concluded id approval hstored).mono (List.prefix_append _ _)

theorem concluded_of_expired {store : InMemoryApprovalStore} {approval next : Approval}
    {now : DateTimeOffset} {event : ApprovalAuditEvent}
    (h : apply approval .expire now = .accepted next event) :
    Concluded isDevelopment arrivals store next := by
  obtain ⟨_, ⟨_, hdue, rfl, _⟩ | ⟨_, _, hdecision, _⟩⟩ := accepted_cases h
  · exact .expired (Eq.refl _) (Eq.refl _) ⟨now, Eq.refl _, hdue⟩
  · cases hdecision

theorem concluded_of_decided {store : InMemoryApprovalStore} {inbound : Inbound}
    (hinbound : inbound ∈ arrivals) {body : Option DecisionRequest} {user : Option ClaimsPrincipal}
    {correlation : Option Text} {approval next : Approval} {decidedBy : Text}
    {command : ApprovalCommand} {now : DateTimeOffset} {event : ApprovalAuditEvent}
    (harrived : inbound.request = .decide approval.id body user correlation)
    (hrole : ApprovalsAuthorization.isEnforced inbound.enabled isDevelopment = true →
      ApprovalsAuthorization.hasRole user ApprovalRoles.approver = true)
    (hdecider : objectId user = some decidedBy)
    (hrequested : requestedCommand body decidedBy = some command)
    (houtcome : apply approval command now = .accepted next event) (htold : event ∈ store.audit) :
    Concluded isDevelopment arrivals store next := by
  obtain ⟨requested, hrequested', hby, _⟩ := requestedCommand_decision hrequested
  obtain ⟨_, ⟨rfl, _⟩ | ⟨decision, hallowed, hdecision, rfl, rfl⟩⟩ := accepted_cases houtcome
  · cases hrequested'
  cases hrequested'.symm.trans hdecision
  subst hby
  refine .decided _ now ⟨?_, Eq.refl _, Eq.refl _, hallowed.segregated, hallowed.inTime⟩ ?_
  · exact ⟨inbound, hinbound, body, user, correlation, command, requested, harrived, hdecider,
      hrequested, hdecision, Eq.refl _, hrole⟩
  · exact ⟨_, htold, Eq.refl _, Eq.refl _, Eq.refl _, Eq.refl _, Eq.refl _, Eq.refl _, Eq.refl _⟩

theorem raised_of_created {inbound : Inbound} (hinbound : inbound ∈ arrivals)
    {body : CreateApprovalRequest} {user : Option ClaimsPrincipal} {correlation : Option Text}
    {id proposedBy : Text} {evidencePacket : EvidencePacket} {expiresAt now : DateTimeOffset}
    {approval : Approval} {event : Option ApprovalAuditEvent}
    (harrived : inbound.request = .create (some body) user correlation)
    (hrole : ApprovalsAuthorization.isEnforced inbound.enabled isDevelopment = true →
      ApprovalsAuthorization.hasRole user ApprovalRoles.proposer = true)
    (hproposer : objectId user = some proposedBy)
    (hevidence : body.evidencePacket = some evidencePacket)
    (hexpiry : body.expiresAt = some expiresAt)
    (houtcome : Approval.propose id body.lane evidencePacket proposedBy expiresAt now =
      .accepted approval event) : Raised isDevelopment arrivals approval := by
  have hproposed := propose_accepted houtcome
  refine ⟨?_, hproposed.intact, ?_⟩
  · rw [hproposed.proposedByObjectId, hproposed.evidencePacket, hproposed.expiresAt]
    exact ⟨inbound, hinbound, body, user, correlation, harrived, hproposer, hproposed.lane,
      hevidence, hexpiry, hrole⟩
  · rw [hproposed.createdAt, hproposed.expiresAt]
    exact hproposed.inFuture

theorem concluded_of_created {store : InMemoryApprovalStore} {id proposedBy : Text} {lane : Lane}
    {evidencePacket : EvidencePacket} {expiresAt now : DateTimeOffset} {approval : Approval}
    {event : Option ApprovalAuditEvent}
    (h : Approval.propose id lane evidencePacket proposedBy expiresAt now =
      .accepted approval event) : Concluded isDevelopment arrivals store approval := by
  refine .pending (propose_accepted h).state ?_
  unfold Approval.propose at h
  dsimp only at h
  split at h
  · cases h
  split at h
  · cases h
  split at h
  · cases h
  cases h
  exact ⟨Eq.refl _, Eq.refl _⟩

variable (isDevelopment arrivals) in
/-- The store after a schedule, from an empty one. -/
abbrev reached (turns : List Turn) : InMemoryApprovalStore :=
  ((serving isDevelopment arrivals).run serve turns).state

variable {turns : List Turn} {i : Nat} {call : Call Op Op.Ret}

theorem serving_trace (h : (i, call) ∈ (serving isDevelopment arrivals).events serve turns) :
    ∃ inbound ∈ arrivals, ∃ p, Trace (inbound.invokeAsync isDevelopment)
      (own i ((serving isDevelopment arrivals).events serve turns)) p := by
  have hlt := Pool.events_lt _ h
  rw [serving, List.length_map] at hlt
  have hstart : (serving isDevelopment arrivals).threads[i]? =
      some (arrivals[i].invokeAsync isDevelopment) := by
    unfold serving
    rw [List.getElem?_map, List.getElem?_eq_getElem hlt]
    rfl
  obtain ⟨p, _, htrace⟩ := Pool.trace _ turns hstart
  exact ⟨arrivals[i], List.getElem_mem hlt, p, htrace⟩

theorem read_before {turn : Turn} {id : Text} {approval : Approval}
    (h : ⟨.getAsync id, some approval⟩ ∈
      own i ((serving isDevelopment arrivals).events serve (turns ++ [turn]))) :
    ∃ before, before <+: turns ∧
      (reached isDevelopment arrivals before).getAsync id = some approval := by
  obtain ⟨before, input, hprefix, hserve⟩ := Pool.event_state _ (mem_own.mp h)
  refine ⟨before, ?_, congrArg Prod.fst hserve⟩
  refine List.prefix_of_prefix_length_le ((List.prefix_append _ _).trans hprefix)
    (List.prefix_append _ _) ?_
  have hlength := hprefix.length_le
  rw [List.length_append, List.length_append, List.length_singleton, List.length_singleton]
    at hlength
  exact Nat.le_of_add_le_add_right hlength

omit [RoundTripFormat] in
theorem serve_audit (op : Op) (moment : Moment) (store : InMemoryApprovalStore) :
    store.audit <+: (serve op moment store).2.audit := by
  cases op with
  | createAsync approval => exact (kept_createAsync store approval).audit
  | appendAuditAsync event => exact List.prefix_append _ _
  | _ => exact List.prefix_rfl

theorem audit_run {before : List Turn} (h : before <+: turns) :
    (reached isDevelopment arrivals before).audit <+: (reached isDevelopment arrivals turns).audit :=
  Pool.run_related (R := fun store store' : InMemoryApprovalStore => store.audit <+: store'.audit)
    (fun _ => List.prefix_rfl) List.IsPrefix.trans serve_audit _ h

theorem told_after {event : ApprovalAuditEvent}
    (h : ⟨.appendAuditAsync event, ()⟩ ∈
      own i ((serving isDevelopment arrivals).events serve turns)) :
    event ∈ (reached isDevelopment arrivals turns).audit := by
  obtain ⟨before, input, hprefix, hserve⟩ := Pool.event_state _ (mem_own.mp h)
  have hthen : (reached isDevelopment arrivals (before ++ [(i, input)])) =
      (reached isDevelopment arrivals before).appendAuditAsync event :=
    (congrArg Prod.snd hserve).symm
  refine List.IsPrefix.subset (audit_run hprefix) ?_
  rw [hthen]
  exact List.mem_append_right _ (List.mem_singleton_self event)

variable (isDevelopment arrivals) in
/-- The invariant of a run: what its earlier states are to its present one, and that one. -/
structure Upheld (turns : List Turn) : Prop where
  kept : ∀ before, before <+: turns →
    Kept (reached isDevelopment arrivals before) (reached isDevelopment arrivals turns)
  accounted : Accounted isDevelopment arrivals (reached isDevelopment arrivals turns)

theorem Upheld.overwritten (h : Upheld isDevelopment arrivals turns) {before : List Turn}
    (hbefore : before <+: turns) {id : Text} {approval next : Approval} {command : ApprovalCommand}
    {now : DateTimeOffset} {event : ApprovalAuditEvent}
    (hread : (reached isDevelopment arrivals before).getAsync id = some approval)
    (houtcome : apply approval command now = .accepted next event) :
    Kept (reached isDevelopment arrivals turns)
        ((reached isDevelopment arrivals turns).updateAsync next) ∧
      Raised isDevelopment arrivals next := by
  obtain ⟨current, hcurrent, hsame, _⟩ := (h.kept before hbefore).proposals id approval hread
  have hproposal := accepted_sameProposal houtcome
  have hnext : SameProposal current next := (sameProposal_symm hsame).trans hproposal
  have hid : next.id = id := hproposal.id.trans (InMemoryApprovalStore.keyed _ id approval hread)
  exact ⟨kept_updateAsync (hid ▸ hcurrent) hnext (accepted_closes houtcome),
    (h.accounted.raised id current hcurrent).of_same hnext⟩

theorem Upheld.next (h : Upheld isDevelopment arrivals turns) (turn : Turn) :
    Kept (reached isDevelopment arrivals turns) (reached isDevelopment arrivals (turns ++ [turn])) ∧
      Accounted isDevelopment arrivals (reached isDevelopment arrivals (turns ++ [turn])) := by
  rcases (serving isDevelopment arrivals).run_snoc_cases serve turns turn with
    hidle | ⟨op, hevent, hstate⟩
  · rw [reached, reached, hidle]
    exact ⟨.rfl, h.accounted⟩
  by_cases hwrite : op.isWrite = true
  swap
  · rw [reached, reached, hstate, serve_read op _ _ hwrite]
    exact ⟨.rfl, h.accounted⟩
  obtain ⟨inbound, hinbound, p, htrace⟩ := serving_trace hevent
  obtain ⟨hwrote, hrole⟩ := wrote_invokeAsync htrace _ (mem_own.mpr hevent) hwrite
  rw [reached, reached, hstate]
  cases hwrote with
  | created arrived proposer evidence expiry outcome =>
    rw [arrived] at hrole
    have hraised := raised_of_created hinbound arrived hrole proposer evidence expiry outcome
    exact ⟨kept_createAsync _ _,
      accounted_createAsync h.accounted hraised (concluded_of_created outcome)⟩
  | expired arrived read outcome =>
    obtain ⟨before, hbefore, hread⟩ := read_before read
    obtain ⟨hkept, hraised⟩ := h.overwritten hbefore hread outcome
    exact ⟨hkept, accounted_updateAsync h.accounted hraised (concluded_of_expired outcome)⟩
  | decided arrived read decider requested outcome told =>
    obtain ⟨before, hbefore, hread⟩ := read_before read
    obtain ⟨hkept, hraised⟩ := h.overwritten hbefore hread outcome
    have hid := InMemoryApprovalStore.keyed _ _ _ hread
    rw [arrived] at hrole
    have htold := told_after told
    rw [reached, hstate] at htold
    rw [← hid] at arrived
    exact ⟨hkept, accounted_updateAsync h.accounted hraised
      (concluded_of_decided hinbound arrived hrole decider requested outcome htold)⟩
  | told event =>
    exact ⟨⟨List.prefix_append _ _, fun id approval hstored => ⟨approval, hstored, .rfl, fun h => h⟩⟩,
      accounted_appendAuditAsync h.accounted event⟩

theorem upheld (turns : List Turn) : Upheld isDevelopment arrivals turns := by
  induction turns using List.reverseRecOn with
  | nil =>
    refine ⟨fun before hbefore => ?_, accounted_empty⟩
    rw [List.prefix_nil.mp hbefore]
    exact .rfl
  | append_singleton turns turn ih =>
    obtain ⟨hkept, haccounted⟩ := ih.next turn
    refine ⟨fun before hbefore => ?_, haccounted⟩
    rcases List.prefix_concat_iff.mp hbefore with rfl | hearlier
    · exact .rfl
    · exact (ih.kept before hearlier).trans hkept

/-- However requests overlap, every proposal of every state was raised by a proposer, and is
pending, expired when due, or decided by another approver whom the audit trail names. -/
theorem always_accounted (isDevelopment : Bool) (arrivals : List Inbound) (turns : List Turn) :
    Accounted isDevelopment arrivals (reached isDevelopment arrivals turns) :=
  (upheld turns).accounted

/-- However requests overlap, nothing later undoes what an earlier state holds. -/
theorem never_undone (isDevelopment : Bool) (arrivals : List Inbound) (before later : List Turn) :
    Kept (reached isDevelopment arrivals before)
      (reached isDevelopment arrivals (before ++ later)) :=
  (upheld (before ++ later)).kept before (List.prefix_append before later)

end

end Fcmr.ApprovalsService
