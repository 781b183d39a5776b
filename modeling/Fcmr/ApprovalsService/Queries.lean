import Fcmr.ApprovalsService.Accountability
import Fcmr.Library.StableSort

/-! The two endpoints of reading and the audit trail, at any moment of a run: each listing is the
store, nothing closed returns to the queue, and every decision on show can be traced. -/
namespace Fcmr.ApprovalsService

open DotNet Approvals ApprovalStateMachine

/-- The value of the enumeration, by which a filter is compared: a query may name any number. -/
def ApprovalState.value : ApprovalState → Int
  | .pendingApproval => 0
  | .approved => 1
  | .rejected => 2
  | .expired => 3

namespace InMemoryApprovalStore

def values (store : InMemoryApprovalStore) : List Approval := store.approvals.entries.map (·.2)

def listAsync (values : List Approval) (state : Option Int) : List Approval :=
  StableSort.sortBy (·.createdAt) <|
    values.filter fun approval => state.all fun value => ApprovalState.value approval.state = value

def auditTrailAsync (store : InMemoryApprovalStore) (correlationId : Text) :
    List ApprovalAuditEvent :=
  store.audit.filter fun event => event.correlationId = correlationId

variable {store : InMemoryApprovalStore}

theorem mem_values {approval : Approval} :
    approval ∈ store.values ↔ store.getAsync approval.id = some approval := by
  unfold values
  rw [List.mem_map]
  constructor
  · rintro ⟨⟨id, other⟩, hentry, rfl⟩
    have hstored : store.approvals.lookup id = some other :=
      List.mem_dlookup store.approvals.nodupKeys hentry
    rw [getAsync, store.keyed id other hstored, hstored]
  · exact fun hstored => ⟨⟨approval.id, approval⟩, List.of_mem_dlookup hstored, rfl⟩

theorem values_nodup : (store.values.map (·.id)).Nodup := by
  have hkeys : store.values.map (·.id) = store.approvals.keys := by
    rw [values, List.map_map]
    refine List.map_congr_left fun entry hentry => ?_
    exact store.keyed entry.1 entry.2 (List.mem_dlookup store.approvals.nodupKeys hentry)
  rw [hkeys]
  exact store.approvals.keys_nodup

theorem mem_listAsync {values : List Approval} (h : values.Perm store.values) {state : Option Int}
    {approval : Approval} : approval ∈ listAsync values state ↔
      store.getAsync approval.id = some approval ∧
        ∀ value ∈ state, ApprovalState.value approval.state = value := by
  rw [listAsync, (StableSort.sortBy_perm _).mem_iff, List.mem_filter, h.mem_iff, mem_values,
    Option.all_eq_true]
  simp only [decide_eq_true_eq]
  rfl

theorem listAsync_nodup {values : List Approval} (h : values.Perm store.values)
    (state : Option Int) : ((listAsync values state).map (·.id)).Nodup := by
  have hlisted : (listAsync values state).Perm
      (values.filter fun approval => state.all fun value =>
        ApprovalState.value approval.state = value) := StableSort.sortBy_perm _
  refine (hlisted.map (·.id)).nodup_iff.mpr ?_
  exact ((h.map (·.id)).nodup_iff.mpr values_nodup).sublist (List.filter_sublist.map _)

end InMemoryApprovalStore

section

variable [RoundTripFormat]

def listAsync (values : List Approval) (filter : Option Int) : List ApprovalResponse :=
  (InMemoryApprovalStore.listAsync values filter).map (ApprovalResponse.from · false)

/-- The handler of `GET /v1/approvals/{id}`. -/
def getAsync (store : InMemoryApprovalStore) (id : Text) (correlation : Option Text) : Result :=
  match store.getAsync id with
  | none => error correlation 404 (lit "NotFound") (lit "No proposal with id '" ++ id ++ lit "'.")
  | some approval => { statusCode := 200, body := .approval (.from approval true) }

structure Listing (store : InMemoryApprovalStore) (filter : Option Int)
    (responses : List ApprovalResponse) : Prop where
  ordered : responses.Pairwise fun response later => response.createdAt ≤ later.createdAt
  distinct : (responses.map (·.id)).Nodup
  exact_rows : ∀ response, response ∈ responses ↔ ∃ approval,
    store.getAsync approval.id = some approval ∧
      (∀ value ∈ filter, ApprovalState.value approval.state = value) ∧
      response = .from approval false

def Found (store : InMemoryApprovalStore) (id : Text) (correlation : Option Text)
    (responses : List ApprovalResponse) : Prop :=
  (∃ approval, store.getAsync id = some approval ∧
    getAsync store id correlation = ⟨200, .approval (.from approval true)⟩ ∧
    { ApprovalResponse.from approval true with evidencePacket := none } ∈ responses) ∨
  ((∀ response ∈ responses, response.id ≠ id) ∧ (getAsync store id correlation).statusCode = 404)

structure Traced (store : InMemoryApprovalStore) (response : ApprovalResponse) : Prop where
  verified : response.evidenceIntegrityVerified = true
  inFuture : response.createdAt < response.expiresAt
  decided : ∀ decidedBy, response.decidedByObjectId = some decidedBy →
    isSameIdentity decidedBy response.proposedByObjectId = false ∧
    ∃ event ∈ store.auditTrailAsync response.correlationId, event.eventType = .approvalDecided ∧
      event.approvalId = response.id ∧ event.actorObjectId = some decidedBy ∧
      event.resultingState = response.state ∧ some event.occurredAt = response.decidedAt ∧
      event.evidencePacketHash = response.evidencePacketHash

structure Same (earlier now : ApprovalResponse) : Prop where
  id : now.id = earlier.id
  correlationId : now.correlationId = earlier.correlationId
  lane : now.lane = earlier.lane
  evidencePacketHash : now.evidencePacketHash = earlier.evidencePacketHash
  proposedByObjectId : now.proposedByObjectId = earlier.proposedByObjectId
  proposedAction : now.proposedAction = earlier.proposedAction
  expiresAt : now.expiresAt = earlier.expiresAt
  createdAt : now.createdAt = earlier.createdAt
  closed : earlier.state ≠ .pendingApproval → now.state ≠ .pendingApproval

theorem listing_listAsync {store : InMemoryApprovalStore} {values : List Approval}
    (h : values.Perm store.values) (filter : Option Int) :
    Listing store filter (listAsync values filter) where
  ordered := by
    have hsorted : (InMemoryApprovalStore.listAsync values filter).Pairwise
        fun a b => a.createdAt ≤ b.createdAt := StableSort.sortBy_pairwise _
    exact List.pairwise_map.mpr hsorted
  distinct := by
    rw [listAsync, List.map_map]
    exact InMemoryApprovalStore.listAsync_nodup h filter
  exact_rows := by
    intro response
    rw [listAsync, List.mem_map]
    constructor
    · rintro ⟨approval, hlisted, rfl⟩
      obtain ⟨hstored, hstate⟩ := (InMemoryApprovalStore.mem_listAsync h).mp hlisted
      exact ⟨approval, hstored, hstate, rfl⟩
    · rintro ⟨approval, hstored, hstate, rfl⟩
      exact ⟨approval, (InMemoryApprovalStore.mem_listAsync h).mpr ⟨hstored, hstate⟩, rfl⟩

theorem found_getAsync {store : InMemoryApprovalStore} {responses : List ApprovalResponse}
    (h : Listing store none responses) (id : Text) (correlation : Option Text) :
    Found store id correlation responses := by
  cases hstored : store.getAsync id with
  | some approval =>
    refine .inl ⟨approval, hstored, ?_, (h.exact_rows _).mpr ⟨approval, ?_, nofun, rfl⟩⟩
    · rw [getAsync, hstored]
    · rw [store.keyed id approval hstored, hstored]
  | none =>
    refine .inr ⟨fun response hlisted hid => ?_, ?_⟩
    · obtain ⟨approval, hthere, _, rfl⟩ := (h.exact_rows response).mp hlisted
      have hid : approval.id = id := hid
      rw [hid, hstored] at hthere
      cases hthere
    · rw [getAsync, hstored]
      rfl

theorem same_of_kept {store store' : InMemoryApprovalStore} (h : Kept store store')
    {responses responses' : List ApprovalResponse} {filter : Option Int}
    (hearlier : Listing store filter responses) (hnow : Listing store' none responses')
    {earlier : ApprovalResponse} (hlisted : earlier ∈ responses) :
    ∃ now ∈ responses', Same earlier now := by
  obtain ⟨approval, hstored, _, rfl⟩ := (hearlier.exact_rows earlier).mp hlisted
  obtain ⟨later, hlater, hsame, hclosed⟩ := h.proposals _ approval hstored
  refine ⟨.from later false, (hnow.exact_rows _).mpr ⟨later, ?_, nofun, rfl⟩, ?_⟩
  · rw [hsame.id, hlater]
  · exact ⟨hsame.id, hsame.correlationId, hsame.lane, hsame.evidencePacketHash,
      hsame.proposedByObjectId, congrArg EvidencePacket.proposedAction hsame.evidencePacket,
      hsame.expiresAt, hsame.createdAt, hclosed⟩

theorem traced_of_accounted {isDevelopment : Bool} {arrivals : List Inbound}
    {store : InMemoryApprovalStore} (h : Accounted isDevelopment arrivals store)
    {filter : Option Int} {responses : List ApprovalResponse}
    (hlisting : Listing store filter responses) {response : ApprovalResponse}
    (hlisted : response ∈ responses) : Traced store response := by
  obtain ⟨approval, hstored, _, rfl⟩ := (hlisting.exact_rows response).mp hlisted
  have hraised := h.raised _ approval hstored
  refine ⟨hraised.intact, hraised.inFuture, fun decidedBy hdecided => ?_⟩
  have hdecided : approval.decidedByObjectId = some decidedBy := hdecided
  cases h.concluded _ approval hstored with
  | pending _ undecided => cases undecided.1.symm.trans hdecided
  | expired _ decider _ => cases decider.symm.trans hdecided
  | decided decider instant byOther announced =>
    cases byOther.decider.symm.trans hdecided
    obtain ⟨event, hevent, htype, hid, hcorrelation, hactor, hstate, hinstant, hhash⟩ := announced
    refine ⟨byOther.segregated, event, ?_, htype, hid, hactor, hstate, ?_, hhash⟩
    · exact List.mem_filter.mpr ⟨hevent, decide_eq_true hcorrelation⟩
    · rw [hinstant]
      exact byOther.dated.symm

/-- The reading endpoints after some turns of a run, however the dictionary is enumerated. -/
structure Queried (isDevelopment : Bool) (arrivals : List Inbound) (turns : List Turn) : Prop where
  listing : ∀ values filter, values.Perm (reached isDevelopment arrivals turns).values →
    Listing (reached isDevelopment arrivals turns) filter (listAsync values filter) ∧
      ∀ response ∈ listAsync values filter,
        Traced (reached isDevelopment arrivals turns) response
  found : ∀ values id correlation, values.Perm (reached isDevelopment arrivals turns).values →
    Found (reached isDevelopment arrivals turns) id correlation (listAsync values none)
  persists : ∀ before values earlier filter, before <+: turns →
    values.Perm (reached isDevelopment arrivals turns).values →
    earlier.Perm (reached isDevelopment arrivals before).values →
    ∀ response ∈ listAsync earlier filter, ∃ now ∈ listAsync values none, Same response now
  trail : ∀ before correlationId, before <+: turns →
    (reached isDevelopment arrivals before).auditTrailAsync correlationId <+:
      (reached isDevelopment arrivals turns).auditTrailAsync correlationId

theorem queries_answered (isDevelopment : Bool) (arrivals : List Inbound) (turns : List Turn) :
    Queried isDevelopment arrivals turns where
  listing values filter h := by
    have hlisting := listing_listAsync h filter
    exact ⟨hlisting, fun response => traced_of_accounted (upheld turns).accounted hlisting⟩
  found values id correlation h := found_getAsync (listing_listAsync h none) id correlation
  persists before values earlier filter hbefore h hearlier response hlisted :=
    same_of_kept ((upheld turns).kept before hbefore) (listing_listAsync hearlier filter)
      (listing_listAsync h none) hlisted
  trail before correlationId hbefore := (audit_run hbefore).filter _

end

end Fcmr.ApprovalsService
