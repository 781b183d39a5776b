import Fcmr.Approvals.Transitions
import Fcmr.ApprovalsService.Contracts

/-! Whether the approval screen offers a decision, beside what the state machine does with the
decision that it offers. -/
namespace Fcmr.WebUi

open DotNet Approvals ApprovalsService ApprovalStateMachine

inductive AppRole
  | routerInvoke
  | routerRead
  | approver
  deriving DecidableEq

/-- A `Date` keeps whole milliseconds. -/
abbrev Date := Nat

/-- `new Date(text)` of a serialised instant: what is finer than a millisecond is dropped. -/
def Date.of (instant : DateTimeOffset) : Date := instant / 10000

inductive ApprovalBlockCode
  | missingRole
  | unknownIdentity
  | segregationOfDuties
  | expired
  | alreadyDecided
  deriving DecidableEq

structure ApprovalBlock where
  code : ApprovalBlockCode
  reason : Text

structure ApprovalContext where
  roles : List AppRole
  currentUserObjectId : Option Text
  now : Option Date

def toLowerCase (value : Text) : Text :=
  value.map fun c => if 0x41 ≤ c && c ≤ 0x5A then c + 0x20 else c

/-- `evaluateApproval`: no block is `blocked: false`. The clock is read where the context has
no time. -/
def evaluateApproval (approval : ApprovalResponse) (context : ApprovalContext) (clock : Date) :
    Option ApprovalBlock :=
  let now := context.now.getD clock
  if !context.roles.contains .approver then
    some {
      code := .missingRole
      reason := lit "Approving requires the Approver app role. Your account does not hold it, so " ++
        lit "this proposal can be read but not decided." }
  else
    match context.currentUserObjectId with
    | none | some [] =>
      some {
        code := .unknownIdentity
        reason := lit "Your identity could not be established from the signed-in token, so this " ++
          lit "proposal cannot be checked against its proposer. ApprovalResponse is refused " ++
          lit "rather than assumed." }
    | some currentUserObjectId =>
      if approval.state ≠ .pendingApproval then
        some {
          code := .alreadyDecided
          reason := lit "This proposal is already " ++ toLowerCase approval.state.text ++
            lit ". A decision is made once." }
      else if approval.proposedByObjectId = currentUserObjectId then
        some {
          code := .segregationOfDuties
          reason := lit "You proposed this action. The identity that proposes cannot be the " ++
            lit "identity that approves, so this decision has to be made by someone else." }
      else if Date.of approval.expiresAt ≤ now then
        some {
          code := .expired
          reason := lit "This proposal expired before a decision was recorded. An elapsed window " ++
            lit "is the absence of a decision, not a quiet approval, so it will never execute." }
      else none

theorem evaluateApproval_code (approval : ApprovalResponse) (objectId : Text)
    {roles : List AppRole} (hrole : .approver ∈ roles) (now : Option Date) (clock : Date) :
    (evaluateApproval approval ⟨roles, some objectId, now⟩ clock).map (·.code) =
      if objectId = [] then some .unknownIdentity
      else if approval.state ≠ .pendingApproval then some .alreadyDecided
      else if approval.proposedByObjectId = objectId then some .segregationOfDuties
      else if Date.of approval.expiresAt ≤ now.getD clock then some .expired
      else none := by
  unfold evaluateApproval
  rw [if_neg (by simpa using hrole)]
  cases objectId with
  | nil => rfl
  | cons c rest =>
    dsimp only
    rw [if_neg (List.cons_ne_nil c rest)]
    split
    · rfl
    split
    · rfl
    split <;> rfl

theorem nonempty_of_named {objectId : Text} (h : isNullOrWhiteSpace (some objectId) = false) :
    objectId ≠ [] := by
  rintro rfl
  cases h

theorem date_mono {earlier later : DateTimeOffset} (h : earlier ≤ later) :
    Date.of earlier ≤ Date.of later :=
  Nat.div_le_div_right h

section

variable [RoundTripFormat]

def screen (approval : Approval) (objectId : Text) (now : DateTimeOffset) (roles : List AppRole)
    (includePacket : Bool) : Option ApprovalBlock :=
  evaluateApproval (ApprovalResponse.from approval includePacket)
    { roles, currentUserObjectId := some objectId, now := some (Date.of now) } (Date.of now)

/-- The approval screen and the service agree on a proposal. -/
structure Agrees (approval : Approval) (objectId : Text) (now : DateTimeOffset) : Prop where
  approvable (roles : List AppRole) (includePacket : Bool) (reason hash : Option Text)
    (refusal : ApprovalRefusal) (event : ApprovalAuditEvent) : .approver ∈ roles →
    screen approval objectId now roles includePacket = none →
    apply approval (.approve objectId reason hash) now = .refused refusal event →
    refusal.kind ≠ .segregationOfDuties ∧ refusal.kind ≠ .expired ∧
      refusal.kind ≠ .invalidTransition
  reported (roles : List AppRole) (includePacket : Bool) (reason hash : Option Text)
    (block : ApprovalBlock) : .approver ∈ roles →
    screen approval objectId now roles includePacket = some block →
    block.code = .segregationOfDuties ∨ block.code = .expired ∨ block.code = .alreadyDecided →
    (apply approval (.approve objectId reason hash) now).isAccepted = false

/-- One spelling of the proposer, and no decision in the last millisecond of the window. -/
structure Unambiguous (approval : Approval) (objectId : Text) (now : DateTimeOffset) : Prop where
  spelling : approval.state = .pendingApproval → isNullOrWhiteSpace (some objectId) = false →
    Date.of now < Date.of approval.expiresAt →
    isSameIdentity objectId approval.proposedByObjectId = true →
    objectId = approval.proposedByObjectId
  instant : approval.state = .pendingApproval → isNullOrWhiteSpace (some objectId) = false →
    Date.of approval.expiresAt ≤ Date.of now → now < approval.expiresAt →
    isSameIdentity objectId approval.proposedByObjectId = true ∨
      approval.verifyEvidenceIntegrity = false

section

variable {approval : Approval} {objectId : Text} {now : DateTimeOffset} {roles : List AppRole}
  {includePacket : Bool} (hrole : .approver ∈ roles)

include hrole

theorem screen_code : (screen approval objectId now roles includePacket).map (·.code) =
    if objectId = [] then some .unknownIdentity
    else if approval.state ≠ .pendingApproval then some .alreadyDecided
    else if approval.proposedByObjectId = objectId then some .segregationOfDuties
    else if Date.of approval.expiresAt ≤ Date.of now then some .expired
    else none :=
  evaluateApproval_code (.from approval includePacket) objectId hrole (some (Date.of now))
    (Date.of now)

theorem screen_open : screen approval objectId now roles includePacket = none ↔
    objectId ≠ [] ∧ approval.state = .pendingApproval ∧ approval.proposedByObjectId ≠ objectId ∧
      Date.of now < Date.of approval.expiresAt := by
  rw [← Option.map_eq_none_iff (f := (·.code)), screen_code hrole]
  simp [ite_eq_iff]

theorem screen_expired (hnonempty : objectId ≠ []) (hpending : approval.state = .pendingApproval)
    (hother : approval.proposedByObjectId ≠ objectId)
    (hclosed : Date.of approval.expiresAt ≤ Date.of now) :
    ∃ block, screen approval objectId now roles includePacket = some block ∧
      block.code = .expired := by
  apply Option.map_eq_some_iff.mp
  rw [screen_code hrole, if_neg hnonempty, if_neg (not_not.mpr hpending), if_neg hother,
    if_pos hclosed]

theorem shown_expired {block : ApprovalBlock} (hnonempty : objectId ≠ [])
    (hpending : approval.state = .pendingApproval) (hother : approval.proposedByObjectId ≠ objectId)
    (h : screen approval objectId now roles includePacket = some block) :
    Date.of approval.expiresAt ≤ Date.of now := by
  by_contra hopen
  rw [screen_open hrole |>.mpr ⟨hnonempty, hpending, hother, Nat.lt_of_not_le hopen⟩] at h
  cases h

end

theorem accepted_allowed {approval : Approval} {objectId : Text} {reason hash : Option Text}
    {now : DateTimeOffset} (h : (apply approval (.approve objectId reason hash) now).isAccepted = true) :
    approval.state = .pendingApproval ∧
      DecisionAllowed approval ⟨objectId, reason, hash, .approved⟩ now := by
  obtain ⟨next, event, haccepted⟩ := ApprovalTransitionResult.isAccepted_iff.mp h
  obtain ⟨hpending, ⟨hcommand, _⟩ | ⟨decision, hallowed, hdecision, _⟩⟩ := accepted_cases haccepted
  · cases hcommand
  · cases hdecision
    exact ⟨hpending, hallowed⟩

section

variable {approval : Approval} {objectId : Text} {now : DateTimeOffset}

theorem Agrees.spelling (hagrees : Agrees approval objectId now)
    (hpending : approval.state = .pendingApproval)
    (hnamed : isNullOrWhiteSpace (some objectId) = false)
    (hopen : Date.of now < Date.of approval.expiresAt)
    (hsame : isSameIdentity objectId approval.proposedByObjectId = true) :
    objectId = approval.proposedByObjectId := by
  by_contra hother
  have hrole : AppRole.approver ∈ [AppRole.approver] := List.mem_singleton.mpr rfl
  have hscreen : screen approval objectId now [.approver] true = none :=
    (screen_open hrole).mpr ⟨nonempty_of_named hnamed, hpending, Ne.symm hother, hopen⟩
  cases hresult : apply approval (.approve objectId none none) now with
  | accepted next event =>
    have hallowed := (accepted_allowed (by rw [hresult]; rfl)).2
    cases hsame.symm.trans hallowed.segregated
  | refused refusal event =>
    obtain ⟨hself, hexpired, _⟩ := hagrees.approvable _ _ _ _ _ _ hrole hscreen hresult
    have hobstacle := refused_obstacle hpending rfl hresult
    generalize refusal.kind = kind at hobstacle hself hexpired
    cases hobstacle with
    | unnamed blank => cases blank.symm.trans hnamed
    | late => exact hexpired rfl
    | self => exact hself rfl
    | unreasoned _ segregated => cases hsame.symm.trans segregated
    | mismatch _ segregated => cases hsame.symm.trans segregated

theorem Agrees.instant (hagrees : Agrees approval objectId now)
    (hpending : approval.state = .pendingApproval)
    (hnamed : isNullOrWhiteSpace (some objectId) = false)
    (hclosed : Date.of approval.expiresAt ≤ Date.of now) (htime : now < approval.expiresAt) :
    isSameIdentity objectId approval.proposedByObjectId = true ∨
      approval.verifyEvidenceIntegrity = false := by
  by_contra hobstacle
  obtain ⟨hsegregated, hintact⟩ := not_or.mp hobstacle
  have hother : approval.proposedByObjectId ≠ objectId := by
    rintro rfl
    exact hsegregated (equalsOrdinalIgnoreCase_self _)
  obtain ⟨block, hscreen, hcode⟩ : ∃ block, screen approval objectId now [.approver] true =
      some block ∧ block.code = .expired :=
    screen_expired (List.mem_singleton.mpr rfl) (nonempty_of_named hnamed) hpending hother hclosed
  have hrefused := hagrees.reported [.approver] true none none block
    (List.mem_singleton.mpr rfl) hscreen (.inr (.inl hcode))
  have hallowed : DecisionAllowed approval ⟨objectId, none, none, .approved⟩ now := {
    identity := hnamed
    inTime := htime
    segregated := Bool.eq_false_of_not_eq_true hsegregated
    reasoned := nofun
    intact := Bool.eq_true_of_not_eq_false hintact
    acknowledged := nofun }
  rw [apply_allowed hpending rfl hallowed] at hrefused
  cases hrefused

theorem Unambiguous.agrees (hunambiguous : Unambiguous approval objectId now) :
    Agrees approval objectId now where
  approvable roles includePacket reason hash refusal event hrole hscreen hrefused := by
    obtain ⟨hnonempty, hpending, hother, hopen⟩ := (screen_open hrole).mp hscreen
    have hobstacle := refused_obstacle hpending rfl hrefused
    generalize refusal.kind = kind at hobstacle
    cases hobstacle with
    | unnamed blank => exact ⟨nofun, nofun, nofun⟩
    | late due => exact absurd (date_mono due) (Nat.not_le_of_lt hopen)
    | self named _ same => exact absurd (hunambiguous.spelling hpending named hopen same).symm hother
    | unreasoned => exact ⟨nofun, nofun, nofun⟩
    | mismatch => exact ⟨nofun, nofun, nofun⟩
  reported roles includePacket reason hash block hrole hscreen _ := by
    by_contra haccepted
    obtain ⟨hpending, hallowed⟩ := accepted_allowed (Bool.eq_true_of_not_eq_false haccepted)
    have hother : approval.proposedByObjectId ≠ objectId := by
      rintro rfl
      cases hallowed.segregated.symm.trans (equalsOrdinalIgnoreCase_self _)
    have hclosed := shown_expired hrole (nonempty_of_named hallowed.identity) hpending hother hscreen
    rcases hunambiguous.instant hpending hallowed.identity hclosed hallowed.inTime with
      hsame | haltered
    · cases hsame.symm.trans hallowed.segregated
    · cases haltered.symm.trans hallowed.intact

end

/-- Screen and service agree on all but another spelling of the proposer and the last
millisecond of the window. -/
theorem agrees_iff (approval : Approval) (objectId : Text) (now : DateTimeOffset) :
    Agrees approval objectId now ↔ Unambiguous approval objectId now :=
  ⟨fun h => ⟨h.spelling, h.instant⟩, Unambiguous.agrees⟩

end

namespace Samples

open Approvals.Samples

def proposalOfAlice : Approval := { pendingApproval .orderRouting with expiresAt := 20000000 }

/-- It is offered to her as ALICE, and refused when she takes the offer. -/
theorem alice_offered : ¬Agrees proposalOfAlice (lit "ALICE") 1000 := by
  intro h
  have hspelling : lit "ALICE" = lit "alice" :=
    h.spelling rfl (by decide) (show 0 < 2000 by decide)
      (show isSameIdentity (lit "ALICE") (lit "alice") = true by decide)
  exact absurd hspelling (by decide)

end Samples

end Fcmr.WebUi
