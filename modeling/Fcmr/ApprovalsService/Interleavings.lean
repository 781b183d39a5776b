import Fcmr.ApprovalsService.Handlers
import Fcmr.Library.Interference

/-! Finality over decisions that overlap, one store call at a time. -/
namespace Fcmr.ApprovalsService

open DotNet Approvals ApprovalStateMachine Programs ApprovalsAuthorization

abbrev Serving := Pool Op Op.Ret Result InMemoryApprovalStore

/-- A schedule: the request that makes the next call, and when. -/
abbrev Turn := Nat × Moment

/-- The events by which the audit trail tells of a decision or an expiry. -/
def conclusions (store : InMemoryApprovalStore) (id : Text) : List ApprovalAuditEvent :=
  store.audit.filter fun event => event.approvalId = id ∧
    (event.eventType = .approvalDecided ∨ event.eventType = .approvalExpired)

def isClosed (store : InMemoryApprovalStore) (id : Text) : Bool :=
  (store.getAsync id).any fun approval => approval.state ≠ .pendingApproval

def isAnsweredOk : Handling Result → Bool
  | .done result => result.statusCode = 200
  | .call .. => false

/-- A recorded decision is final, in every state of a run. -/
structure DecisionIsFinal (id : Text) (pool : Serving) (turns : List Turn) : Prop where
  one_answer : ∀ before, before <+: turns →
    (pool.run serve before).threads.countP isAnsweredOk ≤ 1
  one_conclusion : ∀ before, before <+: turns →
    (conclusions (pool.run serve before).state id).length ≤ 1
  unchanged : ∀ before later final, before <+: later → later <+: turns →
    (pool.run serve before).state.getAsync id = some final → final.state ≠ .pendingApproval →
    (pool.run serve later).state.getAsync id = some final

def Op.concludes : Op → Bool
  | appendAuditAsync event => event.eventType = .approvalDecided
  | updateAsync approval => approval.state = .expired
  | _ => false

/-- If the turn begins to conclude the proposal, it is the first to do so. -/
def ConcludesFirst (id : Text) (pool : Serving) (turn : Turn) : Prop :=
  ∀ op rest, pool.threads[turn.1]? = some (.call op rest) → op.concludes = true →
    isClosed pool.state id = false ∧ conclusions pool.state id = []

theorem isClosed_iff {store : InMemoryApprovalStore} {id : Text} : isClosed store id = true ↔
    ∃ approval, store.getAsync id = some approval ∧ approval.state ≠ .pendingApproval := by
  simp [isClosed, Option.any_eq_true]

theorem isClosed_updateAsync {store : InMemoryApprovalStore} {id : Text} {approval : Approval}
    (hid : approval.id = id) (hclosed : approval.state ≠ .pendingApproval) :
    isClosed (store.updateAsync approval) id = true :=
  isClosed_iff.mpr ⟨approval, by simp [hid], hclosed⟩

theorem conclusions_append (store : InMemoryApprovalStore) (event : ApprovalAuditEvent)
    (id : Text) : conclusions (store.appendAuditAsync event) id = conclusions store id ++
      if event.approvalId = id ∧
        (event.eventType = .approvalDecided ∨ event.eventType = .approvalExpired) then [event]
      else [] := by
  simp only [conclusions, InMemoryApprovalStore.appendAuditAsync_audit, List.filter_append,
    List.filter_singleton, Bool.cond_decide]

/-- How far a request has come: its decision is announced in the audit trail and then
decided in the record; an expiry is expired in the record first. -/
inductive Phase
  | undecided
  | announced
  | decided
  | expired
  deriving DecidableEq

def deciding (id : Text) : Protocol Op Op.Ret Result Phase where
  allows phase op := match phase, op with
    | .undecided, .getUtcNow => True
    | .undecided, .getAsync _ => True
    | .undecided, .appendAuditAsync event => event.eventType = .approvalRefused ∨
      event.eventType = .approvalDecided ∧ event.approvalId = id
    | .undecided, .updateAsync approval => approval.state = .expired ∧ approval.id = id
    | .announced, .updateAsync approval => approval.state ≠ .pendingApproval ∧ approval.id = id
    | .expired, .appendAuditAsync event =>
      event.eventType = .approvalExpired ∧ event.approvalId = id
    | _, _ => False
  next phase op := match phase, op with
    | .undecided, .appendAuditAsync event =>
      if event.eventType = .approvalDecided then .announced else .undecided
    | .undecided, .updateAsync _ => .expired
    | .announced, .updateAsync _ => .decided
    | .expired, .appendAuditAsync _ => .undecided
    | phase, _ => phase
  answers op r := match op, r with
    | .getAsync id', r => ∀ approval, r = some approval → approval.id = id'
    | _, _ => True
  finishes phase result := match phase with
    | .undecided => result.statusCode ≠ 200
    | .decided => True
    | _ => False

theorem statusFor_ne_ok (kind : ApprovalRefusalKind) : statusFor kind ≠ 200 := by
  cases kind <;> exact nofun

section

variable [RoundTripFormat]

theorem recordExpiry_follows {id : Text} {approval : Approval} (hid : approval.id = id)
    (correlation : Option Text) :
    (deciding id).Follows (recordExpiry approval correlation) .undecided := by
  unfold recordExpiry
  simp only [perform_bind]
  refine ⟨trivial, fun now _ => ?_⟩
  dsimp only
  cases houtcome : apply approval .expire now with
  | accepted next event =>
    obtain ⟨htype, hevent, _⟩ := accepted_event houtcome
    have hstate : next.state = .expired := by
      obtain ⟨_, ⟨_, _, rfl, _⟩ | ⟨_, _, hdecision, _⟩⟩ := accepted_cases houtcome
      · rfl
      · cases hdecision
    have hnext : next.id = id := (accepted_sameProposal houtcome).id.trans hid
    exact ⟨⟨hstate, hnext⟩, fun _ _ => ⟨⟨htype, hevent.trans hid⟩, fun _ _ => nofun⟩⟩
  | refused refusal event =>
    have htype := (refused_event houtcome).1
    refine ⟨.inl htype, fun _ _ => ?_⟩
    simp only [deciding, ApprovalTransitionResult.auditEvent, htype]
    exact nofun

theorem recordDecision_follows {id : Text} {approval : Approval} (hid : approval.id = id)
    {command : ApprovalCommand} (hcommand : command ≠ .expire) (correlation : Option Text) :
    (deciding id).Follows (recordDecision approval command correlation) .undecided := by
  unfold recordDecision
  simp only [perform_bind]
  refine ⟨trivial, fun now _ => ?_⟩
  dsimp only
  cases houtcome : apply approval command now with
  | accepted next event =>
    obtain ⟨htype, hevent, _⟩ := accepted_event houtcome
    rw [if_neg hcommand] at htype
    have hnext : next.id = id := (accepted_sameProposal houtcome).id.trans hid
    refine ⟨.inr ⟨htype, hevent.trans hid⟩, fun _ _ => ?_⟩
    simp only [deciding, ApprovalTransitionResult.auditEvent, htype]
    exact ⟨⟨accepted_closes houtcome, hnext⟩, fun _ _ => trivial⟩
  | refused refusal event =>
    have htype := (refused_event houtcome).1
    refine ⟨.inl htype, fun _ _ => ?_⟩
    simp only [deciding, ApprovalTransitionResult.auditEvent, htype]
    exact statusFor_ne_ok refusal.kind

theorem decideAsync_follows (id : Text) (request : Option DecisionRequest)
    (user : Option ClaimsPrincipal) (correlation : Option Text) :
    (deciding id).Follows (decideAsync id request user correlation) .undecided := by
  unfold decideAsync
  simp only [perform_bind]
  refine ⟨trivial, fun found hfound => ?_⟩
  dsimp only
  split
  · exact show 404 ≠ 200 by decide
  rename_i approval
  have hid : approval.id = id := hfound approval rfl
  split
  · exact show 400 ≠ 200 by decide
  split
  · exact show 403 ≠ 200 by decide
  refine ⟨trivial, fun now _ => ?_⟩
  dsimp only
  split
  · exact recordExpiry_follows hid correlation
  split
  · exact show 400 ≠ 200 by decide
  · rename_i command hcommand
    refine recordDecision_follows hid ?_ correlation
    rintro rfl
    obtain ⟨_, hdecision, _⟩ := requestedCommand_decision hcommand
    cases hdecision

end

inductive Move (id : Text) (store store' : InMemoryApprovalStore) (op : Op) : Phase → Phase → Prop
  | idle (record : store'.getAsync id = store.getAsync id)
      (trail : (conclusions store' id).length = (conclusions store id).length) :
      Move id store store' op .undecided .undecided
  | announce (first : op.concludes = true) (record : store'.getAsync id = store.getAsync id)
      (trail : (conclusions store' id).length = (conclusions store id).length + 1) :
      Move id store store' op .undecided .announced
  | decide (record : isClosed store' id = true)
      (trail : (conclusions store' id).length = (conclusions store id).length) :
      Move id store store' op .announced .decided
  | expire (first : op.concludes = true) (record : isClosed store' id = true)
      (trail : (conclusions store' id).length = (conclusions store id).length) :
      Move id store store' op .undecided .expired
  | tell (record : store'.getAsync id = store.getAsync id)
      (trail : (conclusions store' id).length = (conclusions store id).length + 1) :
      Move id store store' op .expired .undecided

theorem move_of_allowed {id : Text} {phase : Phase} {op : Op}
    (hallows : (deciding id).allows phase op) (moment : Moment) (store : InMemoryApprovalStore) :
    Move id store (serve op moment store).2 op phase ((deciding id).next phase op) := by
  cases phase with
  | undecided =>
    cases op with
    | getUtcNow => exact .idle rfl rfl
    | getAsync => exact .idle rfl rfl
    | appendAuditAsync event =>
      rcases hallows with hrefused | ⟨hdecided, hid⟩
      · simp only [deciding, hrefused, reduceCtorEq, if_false]
        exact .idle rfl (by simp [serve, conclusions_append, hrefused])
      · simp only [deciding, hdecided, if_true]
        exact .announce (decide_eq_true hdecided) rfl
          (by simp [serve, conclusions_append, hdecided, hid])
    | updateAsync approval =>
      obtain ⟨hstate, hid⟩ := hallows
      have hclosed : approval.state ≠ .pendingApproval := by simp [hstate]
      exact .expire (decide_eq_true hstate) (isClosed_updateAsync hid hclosed) rfl
    | _ => cases hallows
  | announced =>
    cases op with
    | updateAsync approval => exact .decide (isClosed_updateAsync hallows.2 hallows.1) rfl
    | _ => cases hallows
  | decided => cases op <;> cases hallows
  | expired =>
    cases op with
    | appendAuditAsync event =>
      exact .tell rfl (by simp [serve, conclusions_append, hallows.1, hallows.2])
    | _ => cases hallows

/-- The count that any interleaving keeps: an announced decision still has to close the
record, an expired record still has to be told of. -/
structure Tally (id : Text) (phases : List Phase) (store : InMemoryApprovalStore) : Prop where
  record : phases.count .announced + (isClosed store id).toNat ≤ 1
  trail : phases.count .expired + (conclusions store id).length ≤ 1
  decided : phases.count .announced + phases.count .decided ≤ (conclusions store id).length
  expired : phases.count .expired ≤ (isClosed store id).toNat

theorem isClosed_congr {store store' : InMemoryApprovalStore} {id : Text}
    (h : store'.getAsync id = store.getAsync id) : isClosed store' id = isClosed store id := by
  rw [isClosed, isClosed, h]

theorem tally_move {id : Text} {phases : List Phase} {store store' : InMemoryApprovalStore}
    (h : Tally id phases store) {i : Nat} {phase phase' : Phase} (hphase : phases[i]? = some phase)
    {op : Op} (hmove : Move id store store' op phase phase')
    (hfirst : op.concludes = true → isClosed store id = false ∧ conclusions store id = []) :
    Tally id (phases.set i phase') store' := by
  obtain ⟨hrecord, htrail, hdecided, hexpired⟩ := h
  have hannounced := count_set_add hphase phase' .announced
  have hdone := count_set_add hphase phase' .decided
  have hlapsed := count_set_add hphase phase' .expired
  cases hmove with
  | idle record trail =>
    have hclosed := congrArg Bool.toNat (isClosed_congr record)
    simp only [reduceCtorEq, if_false] at hannounced hdone hlapsed
    constructor <;> omega
  | announce first record trail =>
    have hclosed := congrArg Bool.toNat (isClosed_congr record)
    have hopen := congrArg Bool.toNat (hfirst first).1
    have hnone := congrArg List.length (hfirst first).2
    simp only [reduceCtorEq, if_false, if_true, Bool.toNat_false, List.length_nil] at *
    constructor <;> omega
  | decide record trail =>
    have hclosed := congrArg Bool.toNat record
    simp only [reduceCtorEq, if_false, if_true, Bool.toNat_true] at *
    constructor <;> omega
  | expire first record trail =>
    have hclosed := congrArg Bool.toNat record
    have hopen := congrArg Bool.toNat (hfirst first).1
    have hnone := congrArg List.length (hfirst first).2
    simp only [reduceCtorEq, if_false, if_true, Bool.toNat_false, Bool.toNat_true,
      List.length_nil] at *
    constructor <;> omega
  | tell record trail =>
    have hclosed := congrArg Bool.toNat (isClosed_congr record)
    simp only [reduceCtorEq, if_false, if_true] at *
    constructor <;> omega

theorem move_keeps {id : Text} {phases : List Phase} {store store' : InMemoryApprovalStore}
    (h : Tally id phases store) {i : Nat} {phase phase' : Phase} (hphase : phases[i]? = some phase)
    {op : Op} (hmove : Move id store store' op phase phase')
    (hfirst : op.concludes = true → isClosed store id = false) {final : Approval}
    (hstored : store.getAsync id = some final) (hfinal : final.state ≠ .pendingApproval) :
    store'.getAsync id = some final := by
  have hclosed : isClosed store id = true := isClosed_iff.mpr ⟨final, hstored, hfinal⟩
  cases hmove with
  | idle record => exact record.trans hstored
  | announce _ record => exact record.trans hstored
  | tell record => exact record.trans hstored
  | expire first => cases hclosed.symm.trans (hfirst first)
  | decide =>
    have hrecord := h.record
    have hpos : 0 < phases.count .announced :=
      List.count_pos_iff.mpr (List.mem_of_getElem? hphase)
    rw [hclosed, Bool.toNat_true] at hrecord
    omega

def Overlapping (id : Text) (pool : Serving) : Prop :=
  ∃ phases, List.Forall₂ (deciding id).Follows pool.threads phases ∧ Tally id phases pool.state

theorem serve_answers (id : Text) (store : InMemoryApprovalStore) (op : Op) (moment : Moment) :
    (deciding id).answers op (serve op moment store).1 := by
  cases op with
  | getAsync id' => exact store.keyed id'
  | _ => trivial

theorem overlapping_step {id : Text} {pool : Serving} (h : Overlapping id pool) {turn : Turn}
    (hfirst : ConcludesFirst id pool turn) :
    Overlapping id (pool.step serve turn) ∧
      ∀ final, pool.state.getAsync id = some final → final.state ≠ .pendingApproval →
        (pool.step serve turn).state.getAsync id = some final := by
  obtain ⟨phases, hfollows, htally⟩ := h
  rcases (deciding id).pool_step hfollows (serve_answers id pool.state) turn with
    hidle | ⟨op, rest, phase, hthread, hphase, hallows, hstate, hfollows'⟩
  · rw [hidle]
    exact ⟨⟨phases, hfollows, htally⟩, fun final hstored _ => hstored⟩
  · have hmove := move_of_allowed hallows turn.2 pool.state
    rw [hstate]
    refine ⟨⟨_, hfollows', ?_⟩, fun final hstored hfinal => ?_⟩
    · rw [hstate]
      exact tally_move htally hphase hmove (hfirst op rest hthread)
    · exact move_keeps htally hphase hmove (fun hop => (hfirst op rest hthread hop).1)
        hstored hfinal

theorem overlapping_bounds {id : Text} {pool : Serving} (h : Overlapping id pool) :
    pool.threads.countP isAnsweredOk ≤ 1 ∧ (conclusions pool.state id).length ≤ 1 := by
  obtain ⟨phases, hfollows, htally⟩ := h
  have hanswered : pool.threads.countP isAnsweredOk ≤ phases.count .decided := by
    apply countP_le_count hfollows
    intro thread phase hthread hok
    cases thread with
    | call op rest => cases hok
    | done result =>
      cases phase with
      | undecided => exact absurd (of_decide_eq_true hok) hthread
      | decided => rfl
      | announced => exact hthread.elim
      | expired => exact hthread.elim
  have hdecided := htally.decided
  have htrail := htally.trail
  omega

section

variable [RoundTripFormat]

/-- Requests to decide one proposal, none of which has begun. -/
def requests (id : Text)
    (arrivals : List (Option DecisionRequest × Option ClaimsPrincipal × Option Text)) :
    List (Handling Result) :=
  arrivals.map fun (request, user, correlation) => decideAsync id request user correlation

theorem overlapping_requests {id : Text} {store : InMemoryApprovalStore}
    (htrail : (conclusions store id).length ≤ 1)
    (arrivals : List (Option DecisionRequest × Option ClaimsPrincipal × Option Text)) :
    Overlapping id ⟨requests id arrivals, store⟩ := by
  refine ⟨List.replicate arrivals.length .undecided, ?_, ?_⟩
  · induction arrivals with
    | nil => exact .nil
    | cons arrival arrivals ih => exact .cons (decideAsync_follows ..) ih
  · constructor <;> simp [List.count_replicate, Bool.toNat_le, htrail]

/-- Decisions are final in every interleaving in which a request begins to conclude the
proposal only while nobody has. -/
theorem decisionIsFinal_of_concludesFirst {id : Text} {store : InMemoryApprovalStore}
    (htrail : (conclusions store id).length ≤ 1)
    (arrivals : List (Option DecisionRequest × Option ClaimsPrincipal × Option Text))
    {turns : List Turn}
    (hfirst : Machines.Throughout (Pool.step serve) (ConcludesFirst id)
      ⟨requests id arrivals, store⟩ turns) :
    DecisionIsFinal id ⟨requests id arrivals, store⟩ turns := by
  have hreach : ∀ before, before <+: turns →
      Overlapping id (Pool.run serve ⟨requests id arrivals, store⟩ before) := by
    rintro before ⟨after, rfl⟩
    exact (Machines.throughout_append.mp hfirst).1.invariant (P := Overlapping id)
      (fun _ _ h hturn => (overlapping_step h hturn).1) (overlapping_requests htrail arrivals)
  constructor
  · exact fun before hbefore => (overlapping_bounds (hreach before hbefore)).1
  · exact fun before hbefore => (overlapping_bounds (hreach before hbefore)).2
  · rintro before _ final ⟨middle, rfl⟩ hlater hstored hfinal
    have hoverlapping := hreach before ((List.prefix_append before middle).trans hlater)
    obtain ⟨after, rfl⟩ := hlater
    have hmiddle := (Machines.throughout_append.mp (Machines.throughout_append.mp hfirst).1).2
    rw [Pool.run_append]
    refine (hmiddle.invariant (P := fun pool => Overlapping id pool ∧
      pool.state.getAsync id = some final) ?_ ⟨hoverlapping, hstored⟩).2
    rintro pool turn ⟨h, hkept⟩ hturn
    obtain ⟨h', hkeeps⟩ := overlapping_step h hturn
    exact ⟨h', hkeeps final hkept hfinal⟩

def underWay : Handling Result → Bool
  | .done _ => false
  | .call (.getAsync _) _ => false
  | .call .. => true

def Alone (pool : Serving) (turn : Turn) : Prop :=
  ∀ (i : Nat) thread, i ≠ turn.1 → pool.threads[i]? = some thread → underWay thread = false

def Consistent (id : Text) (store : InMemoryApprovalStore) : Prop :=
  isClosed store id = false → conclusions store id = []

/-- Left to itself, the request concludes the proposal only while nobody has. -/
def Concluding (id : Text) : Handling Result → InMemoryApprovalStore → Prop
  | .done _, store => Consistent id store
  | .call op rest, store => underWay (.call op rest) = true ∧
    (op.concludes = true → isClosed store id = false ∧ conclusions store id = []) ∧
    ∀ moment, Concluding id (rest (serve op moment store).1) (serve op moment store).2

omit [RoundTripFormat] in
theorem Consistent.append {id : Text} {store : InMemoryApprovalStore} (h : Consistent id store)
    {event : ApprovalAuditEvent} (hrefused : event.eventType = .approvalRefused) :
    Consistent id (store.appendAuditAsync event) := by
  intro hopen
  rw [conclusions_append, h hopen, List.nil_append, if_neg]
  rw [hrefused]
  simp

omit [RoundTripFormat] in
theorem consistent_of_closed {id : Text} {store : InMemoryApprovalStore}
    (h : isClosed store id = true) : Consistent id store :=
  fun hopen => nomatch h.symm.trans hopen

theorem Consistent.open {id : Text} {store : InMemoryApprovalStore} (h : Consistent id store)
    {approval next : Approval} (hstored : store.getAsync id = some approval)
    {command : ApprovalCommand} {now : DateTimeOffset} {event : ApprovalAuditEvent}
    (haccepted : apply approval command now = .accepted next event) :
    isClosed store id = false ∧ conclusions store id = [] := by
  have hopen : isClosed store id = false := by
    rw [isClosed, hstored, Option.any_some, (accepted_cases haccepted).1]
    rfl
  exact ⟨hopen, h hopen⟩

omit [RoundTripFormat] in
theorem concluding_refused {id : Text} {store : InMemoryApprovalStore}
    (hconsistent : Consistent id store) {event : ApprovalAuditEvent}
    (hrefused : event.eventType = .approvalRefused) (result : Result) :
    Concluding id (.call (.appendAuditAsync event) fun _ => .done result) store := by
  refine ⟨rfl, fun hfirst => ?_, fun _ => hconsistent.append hrefused⟩
  simp [Op.concludes, hrefused] at hfirst

section

variable {id : Text} {store : InMemoryApprovalStore} {approval : Approval}
  (hstored : store.getAsync id = some approval) (hconsistent : Consistent id store)

include hstored hconsistent

theorem concluding_recordExpiry (correlation : Option Text) :
    Concluding id (recordExpiry approval correlation) store := by
  have hid : approval.id = id := store.keyed id approval hstored
  unfold recordExpiry
  simp only [perform_bind]
  refine ⟨rfl, nofun, fun moment => ?_⟩
  simp only [serve]
  cases houtcome : apply approval .expire moment.now with
  | accepted next event =>
    refine ⟨rfl, fun _ => hconsistent.open hstored houtcome, fun _ => ⟨rfl, fun hfirst => ?_,
      fun _ => consistent_of_closed ?_⟩⟩
    · have htype := (accepted_event houtcome).1
      rw [if_pos rfl] at htype
      simp [Op.concludes, ApprovalTransitionResult.auditEvent, htype] at hfirst
    · have hnext : next.id = id := (accepted_sameProposal houtcome).id.trans hid
      exact isClosed_updateAsync hnext (accepted_closes houtcome)
  | refused refusal event => exact concluding_refused hconsistent (refused_event houtcome).1 _

theorem concluding_recordDecision {command : ApprovalCommand} (hcommand : command ≠ .expire)
    (correlation : Option Text) :
    Concluding id (recordDecision approval command correlation) store := by
  have hid : approval.id = id := store.keyed id approval hstored
  unfold recordDecision
  simp only [perform_bind]
  refine ⟨rfl, nofun, fun moment => ?_⟩
  simp only [serve]
  cases houtcome : apply approval command moment.now with
  | accepted next event =>
    refine ⟨rfl, fun _ => hconsistent.open hstored houtcome, fun _ => ⟨rfl, fun hfirst => ?_,
      fun _ => consistent_of_closed ?_⟩⟩
    · obtain ⟨_, ⟨hexpire, _⟩ | ⟨decision, _, _, rfl, _⟩⟩ := accepted_cases houtcome
      · exact absurd hexpire hcommand
      · have hstate : decision.targetState.state = .expired := of_decide_eq_true hfirst
        cases htarget : decision.targetState <;> rw [htarget] at hstate <;> cases hstate
    · have hnext : next.id = id := (accepted_sameProposal houtcome).id.trans hid
      exact isClosed_updateAsync hnext (accepted_closes houtcome)
  | refused refusal event => exact concluding_refused hconsistent (refused_event houtcome).1 _

end

theorem concluding_decideAsync {id : Text} {store : InMemoryApprovalStore}
    (hconsistent : Consistent id store) (request : Option DecisionRequest)
    (user : Option ClaimsPrincipal) (correlation : Option Text) {op : Op}
    {rest : op.Ret → Handling Result}
    (h : decideAsync id request user correlation = .call op rest) :
    op.concludes = false ∧ ∀ moment,
      Concluding id (rest (serve op moment store).1) (serve op moment store).2 := by
  unfold decideAsync at h
  simp only [perform_bind] at h
  cases h
  refine ⟨rfl, fun moment => ?_⟩
  simp only [serve]
  cases hstored : store.getAsync id with
  | none => exact hconsistent
  | some approval =>
  dsimp only
  split
  · exact hconsistent
  split
  · exact hconsistent
  refine ⟨rfl, fun hconcludes => ?_, fun moment => ?_⟩
  · cases hconcludes
  change Concluding id (ite _ _ _) store
  split
  · exact concluding_recordExpiry hstored hconsistent correlation
  split
  · exact hconsistent
  · rename_i command hcommand
    refine concluding_recordDecision hstored hconsistent ?_ correlation
    rintro rfl
    obtain ⟨_, hdecision, _⟩ := requestedCommand_decision hcommand
    cases hdecision

def Resting (id : Text) (thread : Handling Result) : Prop :=
  (∃ request user correlation, thread = decideAsync id request user correlation) ∨
    thread.isDone = true

/-- Between the turns: every request rests, or one is under way. -/
def Serial (id : Text) (pool : Serving) : Prop :=
  (Consistent id pool.state ∧
    ∀ (i : Nat) thread, pool.threads[i]? = some thread → Resting id thread) ∨
  ∃ (current : Nat) (thread : Handling Result), pool.threads[current]? = some thread ∧
    Concluding id thread pool.state ∧
    ∀ (i : Nat) other, i ≠ current → pool.threads[i]? = some other → Resting id other

theorem Serial.at_turn {id : Text} {pool : Serving} (h : Serial id pool) {turn : Turn}
    (halone : Alone pool turn) : (Consistent id pool.state ∧
      ∀ (i : Nat) thread, pool.threads[i]? = some thread → Resting id thread) ∨
    ∃ thread, pool.threads[turn.1]? = some thread ∧ Concluding id thread pool.state ∧
      ∀ (i : Nat) other, i ≠ turn.1 → pool.threads[i]? = some other → Resting id other := by
  rcases h with hresting | ⟨current, thread, hthread, hconcluding, hothers⟩
  · exact .inl hresting
  by_cases hturn : current = turn.1
  · exact .inr ⟨thread, hturn ▸ hthread, hconcluding, hturn ▸ hothers⟩
  have hidle := halone current thread hturn hthread
  cases thread with
  | call op rest => cases hconcluding.1.symm.trans hidle
  | done result =>
    refine .inl ⟨hconcluding, fun i other hother => ?_⟩
    by_cases hi : i = current
    · subst hi
      cases hthread.symm.trans hother
      exact .inr rfl
    · exact hothers i other hi hother

theorem Serial.step {id : Text} {pool : Serving} (h : Serial id pool) {turn : Turn}
    (halone : Alone pool turn) : ConcludesFirst id pool turn ∧ Serial id (pool.step serve turn) := by
  -- The request makes its first call, or a later one.
  have hcalls : ∀ op rest, pool.threads[turn.1]? = some (.call op rest) →
      (op.concludes = true → isClosed pool.state id = false ∧ conclusions pool.state id = []) ∧
      (∀ moment, Concluding id (rest (serve op moment pool.state).1)
        (serve op moment pool.state).2) ∧
      ∀ (i : Nat) other, i ≠ turn.1 → pool.threads[i]? = some other → Resting id other := by
    intro op rest hcall
    rcases h.at_turn halone with ⟨hconsistent, hresting⟩ | ⟨_, hthread, hconcluding, hothers⟩
    · rcases hresting turn.1 _ hcall with ⟨request, user, correlation, hbegins⟩ | hdone
      · obtain ⟨hfirst, hrest⟩ :=
          concluding_decideAsync hconsistent request user correlation hbegins.symm
        exact ⟨fun hconcludes => absurd (hfirst.symm.trans hconcludes) nofun, hrest,
          fun i other _ hother => hresting i other hother⟩
      · cases hdone
    · cases hthread.symm.trans hcall
      exact ⟨hconcluding.2.1, hconcluding.2.2, hothers⟩
  refine ⟨fun op rest hcall => (hcalls op rest hcall).1, ?_⟩
  rcases pool.step_cases serve turn with hidle | ⟨op, rest, hcall, _⟩
  · rwa [hidle]
  · obtain ⟨_, hrest, hothers⟩ := hcalls op rest hcall
    obtain ⟨hown, hstate⟩ :
        (pool.step serve turn).threads[turn.1]? = some (rest (serve op turn.2 pool.state).1) ∧
          (pool.step serve turn).state = (serve op turn.2 pool.state).2 := Pool.step_own hcall
    refine .inr ⟨turn.1, _, hown, hstate ▸ hrest turn.2, fun i other hi hother => ?_⟩
    rw [Pool.step_other hi] at hother
    exact hothers i other hi hother

/-- Requests that do not overlap meet the condition: one that comes after a conclusion reads the
closed proposal, and the state machine refuses it. -/
theorem concludesFirst_of_alone {id : Text} {store : InMemoryApprovalStore}
    (hconsistent : Consistent id store)
    (arrivals : List (Option DecisionRequest × Option ClaimsPrincipal × Option Text))
    {turns : List Turn} (h : Machines.Throughout (Pool.step serve) Alone
      ⟨requests id arrivals, store⟩ turns) :
    Machines.Throughout (Pool.step serve) (ConcludesFirst id) ⟨requests id arrivals, store⟩
      turns := by
  have hstart : Serial id ⟨requests id arrivals, store⟩ := by
    refine .inl ⟨hconsistent, fun i thread hthread => .inl ?_⟩
    obtain ⟨⟨request, user, correlation⟩, _, rfl⟩ :=
      List.mem_map.mp (List.mem_of_getElem? hthread)
    exact ⟨request, user, correlation, rfl⟩
  generalize (⟨requests id arrivals, store⟩ : Serving) = pool at h hstart ⊢
  induction turns generalizing pool with
  | nil => trivial
  | cons turn turns ih =>
    obtain ⟨hfirst, hserial⟩ := hstart.step h.1
    exact ⟨hfirst, ih _ h.2 hserial⟩

omit [RoundTripFormat] in
theorem Concluding.concludesFirst {id : Text} {pool : Serving} {i : Nat}
    {thread : Handling Result} (hthread : pool.threads[i]? = some thread)
    (h : Concluding id thread pool.state) (moments : List Moment) :
    Machines.Throughout (Pool.step serve) (ConcludesFirst id) pool (moments.map (i, ·)) := by
  induction moments generalizing pool thread with
  | nil => trivial
  | cons moment moments ih =>
    cases thread with
    | done result =>
      have hidle : pool.step serve (i, moment) = pool := by
        rcases pool.step_cases serve (i, moment) with hidle | ⟨op, rest, hcall, _⟩
        · exact hidle
        · cases hthread.symm.trans hcall
      simp only [List.map_cons, Machines.Throughout, hidle]
      refine ⟨fun op rest hcall => ?_, ih hthread h⟩
      cases hthread.symm.trans hcall
    | call op rest =>
      obtain ⟨hown, hstate⟩ :
          (pool.step serve (i, moment)).threads[i]? = some (rest (serve op moment pool.state).1) ∧
            (pool.step serve (i, moment)).state = (serve op moment pool.state).2 :=
        Pool.step_own hthread
      refine ⟨fun op' rest' hcall => ?_, ih hown (hstate ▸ h.2.2 moment)⟩
      cases hthread.symm.trans hcall
      exact h.2.1

theorem concludesFirst_of_request {id : Text} {pool : Serving}
    (hconsistent : Consistent id pool.state) {i : Nat} {request : Option DecisionRequest}
    {user : Option ClaimsPrincipal} {correlation : Option Text}
    (hthread : pool.threads[i]? = some (decideAsync id request user correlation))
    (moments : List Moment) :
    Machines.Throughout (Pool.step serve) (ConcludesFirst id) pool (moments.map (i, ·)) := by
  obtain ⟨op, rest, hbegins⟩ : ∃ op rest, decideAsync id request user correlation = .call op rest :=
    ⟨_, _, rfl⟩
  rw [hbegins] at hthread
  obtain ⟨hreads, hrest⟩ := concluding_decideAsync hconsistent request user correlation hbegins
  cases moments with
  | nil => trivial
  | cons moment moments =>
    obtain ⟨hown, hstate⟩ :
        (pool.step serve (i, moment)).threads[i]? = some (rest (serve op moment pool.state).1) ∧
          (pool.step serve (i, moment)).state = (serve op moment pool.state).2 :=
      Pool.step_own hthread
    refine ⟨fun op' rest' hcall hconcludes => ?_, ?_⟩
    · cases hthread.symm.trans hcall
      cases hreads.symm.trans hconcludes
    · exact Concluding.concludesFirst hown (hstate ▸ hrest moment) moments

theorem recordDecision_run {approval next : Approval} {command : ApprovalCommand}
    {event : ApprovalAuditEvent} (moment : Moment)
    (h : apply approval command moment.now = .accepted next event) (correlation : Option Text)
    (threads : List (Handling Result)) (store : InMemoryApprovalStore) :
    Pool.run serve ⟨recordDecision approval command correlation :: threads, store⟩
      (List.map (0, ·) (List.replicate 3 moment)) =
      ⟨.done { statusCode := 200, body := .approval (.from next false) } :: threads,
        (store.appendAuditAsync event).updateAsync next⟩ := by
  simp [Pool.run, Pool.step, recordDecision, Programs.step, serve, h,
    ApprovalTransitionResult.auditEvent]

theorem overlapping_answers {approval next next' : Approval} {command command' : ApprovalCommand}
    {event event' : ApprovalAuditEvent} (moment : Moment)
    (h : apply approval command moment.now = .accepted next event)
    (h' : apply approval command' moment.now = .accepted next' event')
    (correlation correlation' : Option Text) (store : InMemoryApprovalStore) :
    (Pool.run serve
      ⟨[recordDecision approval command correlation, recordDecision approval command' correlation'],
        store⟩
      [(0, moment), (1, moment), (0, moment), (1, moment), (0, moment), (1, moment)]).threads.countP
        isAnsweredOk = 2 := by
  simp [Pool.run, Pool.step, recordDecision, Programs.step, serve, h, h', isAnsweredOk]

end

namespace Samples

open Approvals.Samples

def decisionOfCarol : Option DecisionRequest :=
  some ⟨some (lit "Rejected"), some (lit "Too large."), none⟩
def userCarol : Option ClaimsPrincipal := some ⟨true, [⟨lit "oid", lit "carol"⟩]⟩

def bobAndCarol : Serving :=
  ⟨requests (lit "a-1") [(decisionOfBob, userBob, none), (decisionOfCarol, userCarol, none)],
    storeOfAlice⟩

def approvedByBob : Approval :=
  decided (pendingApproval .orderRouting) ⟨lit "bob", none, none, .approved⟩ 1000
    (approval_allowed .orderRouting (by decide))

theorem approvedByBob_accepted : ∃ event, apply (pendingApproval .orderRouting)
    (.approve (lit "bob") none none) 1000 = .accepted approvedByBob event :=
  ⟨_, apply_allowed rfl rfl (approval_allowed .orderRouting (by decide))⟩

theorem rejection_accepted : ∃ next event, apply (pendingApproval .orderRouting)
    (.reject (lit "carol") (lit "Too large.") none) 1000 = .accepted next event := by
  obtain ⟨_, hproposed⟩ := pendingApproval_proposed .orderRouting
  have hallowed : DecisionAllowed (pendingApproval .orderRouting)
      ⟨lit "carol", some (lit "Too large."), none, .rejected⟩ 1000 := {
    identity := by decide
    inTime := show 1000 < 2000 by decide
    segregated := show isSameIdentity (lit "carol") (lit "alice") = false by decide
    reasoned := fun _ => show isNullOrWhiteSpace (some (lit "Too large.")) = false by decide
    intact := (propose_accepted hproposed).intact
    acknowledged := nofun }
  exact ⟨_, _, apply_allowed rfl rfl hallowed⟩

def turn (thread : Nat) : Turn := (thread, ⟨1000, []⟩)

def reading : List Turn := [turn 0, turn 1, turn 0, turn 1]

def writing : List Turn := [turn 0, turn 1, turn 0, turn 1, turn 0, turn 1]

theorem bobAndCarol_read : bobAndCarol.run serve reading =
    ⟨[recordDecision (pendingApproval .orderRouting) (.approve (lit "bob") none none) none,
      recordDecision (pendingApproval .orderRouting)
        (.reject (lit "carol") (lit "Too large.") none) none], storeOfAlice⟩ := rfl

/-- Each reads the proposal as Pending before the other writes, and both are answered 200. -/
theorem bobAndCarol_bothAnswered :
    ¬DecisionIsFinal (lit "a-1") bobAndCarol (reading ++ writing) := by
  intro h
  have hone := h.one_answer (reading ++ writing) List.prefix_rfl
  obtain ⟨_, happroval⟩ := approvedByBob_accepted
  obtain ⟨_, _, hrejection⟩ := rejection_accepted
  have hboth := overlapping_answers ⟨1000, []⟩ happroval hrejection none none storeOfAlice
  rw [Pool.run_append, bobAndCarol_read] at hone
  exact absurd (hboth.symm.trans_le hone) (by decide)

def carolAgain : Serving :=
  ⟨requests (lit "a-1") [(decisionOfBob, userBob, none), (decisionOfCarol, userCarol, none),
    (decisionOfCarol, userCarol, none)], storeOfAlice⟩

def bobDecides : List Turn := List.map (0, ·) (List.replicate 3 ⟨1000, []⟩)
def carolAsks : List Turn := List.map (2, ·) (List.replicate 4 ⟨1000, []⟩)

def answer : Handling Result → Option Nat
  | .done result => some result.statusCode
  | .call .. => none

theorem carolAgain_read : carolAgain.run serve reading =
    ⟨[recordDecision (pendingApproval .orderRouting) (.approve (lit "bob") none none) none,
      recordDecision (pendingApproval .orderRouting)
        (.reject (lit "carol") (lit "Too large.") none) none,
      decideAsync (lit "a-1") decisionOfCarol userCarol none], storeOfAlice⟩ := rfl

theorem carolAgain_decided : ∃ event, carolAgain.run serve (reading ++ bobDecides) =
    ⟨[.done { statusCode := 200, body := .approval (.from approvedByBob false) },
      recordDecision (pendingApproval .orderRouting)
        (.reject (lit "carol") (lit "Too large.") none) none,
      decideAsync (lit "a-1") decisionOfCarol userCarol none],
      (storeOfAlice.appendAuditAsync event).updateAsync approvedByBob⟩ := by
  obtain ⟨event, happroval⟩ := approvedByBob_accepted
  refine ⟨event, ?_⟩
  rw [Pool.run_append, carolAgain_read, bobDecides, recordDecision_run ⟨1000, []⟩ happroval]

theorem carolAgain_answers :
    (carolAgain.run serve (reading ++ bobDecides ++ carolAsks)).threads.map answer =
      [some 200, none, some 409] := by
  obtain ⟨_, hdecided⟩ := carolAgain_decided
  rw [Pool.run_append, hdecided]
  rfl

theorem carolAgain_final :
    DecisionIsFinal (lit "a-1") carolAgain (reading ++ bobDecides ++ carolAsks) ∧
      (carolAgain.run serve (reading ++ bobDecides ++ carolAsks)).threads.map answer =
        [some 200, none, some 409] := by
  have htrail : (conclusions storeOfAlice (lit "a-1")).length ≤ 1 := Nat.zero_le 1
  refine ⟨decisionIsFinal_of_concludesFirst htrail _ ?_, carolAgain_answers⟩
  have hcommand : ApprovalCommand.approve (lit "bob") none none ≠ .expire := nofun
  have hopen : Consistent (lit "a-1") storeOfAlice := fun _ => rfl
  have hbob : (carolAgain.run serve reading).threads[0]? = some (recordDecision
      (pendingApproval .orderRouting) (.approve (lit "bob") none none) none) := by
    rw [carolAgain_read]
    rfl
  have hdecides := Concluding.concludesFirst hbob
    (concluding_recordDecision rfl hopen hcommand none) (List.replicate 3 ⟨1000, []⟩)
  obtain ⟨_, hdecided⟩ := carolAgain_decided
  have hclosed : Consistent (lit "a-1")
      (carolAgain.run serve (reading ++ bobDecides)).state := by
    rw [hdecided]
    exact consistent_of_closed (isClosed_updateAsync rfl nofun)
  have hcarol : (carolAgain.run serve (reading ++ bobDecides)).threads[2]? =
      some (decideAsync (lit "a-1") decisionOfCarol userCarol none) := by
    rw [hdecided]
    rfl
  refine Machines.throughout_append.mpr ⟨Machines.throughout_append.mpr ⟨?_, hdecides⟩, ?_⟩
  · refine ⟨?_, ?_, ?_, ?_, trivial⟩ <;>
    · intro op rest hcall hconcludes
      cases hcall
      cases hconcludes
  · exact concludesFirst_of_request hclosed hcarol (List.replicate 4 ⟨1000, []⟩)

end Samples

end Fcmr.ApprovalsService
