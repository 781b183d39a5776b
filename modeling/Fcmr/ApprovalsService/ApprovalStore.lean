import Fcmr.Approvals.Approval
import Fcmr.Library.Programs

/-! The in-memory store behind the endpoints, one atomic call at a time. -/
namespace Fcmr.ApprovalsService

open DotNet Approvals Programs

/-- Approvals by id, compared ordinally, and the audit events in append order. Every
write goes to the id of the approval written. -/
structure InMemoryApprovalStore where
  approvals : AList fun _ : Text => Approval
  audit : List ApprovalAuditEvent
  keyed : ∀ id approval, approvals.lookup id = some approval → approval.id = id

namespace InMemoryApprovalStore

def empty : InMemoryApprovalStore where
  approvals := ∅
  audit := []
  keyed := by simp

theorem keyed_insert (store : InMemoryApprovalStore) (written : Approval) :
    ∀ id approval, (store.approvals.insert written.id written).lookup id = some approval →
      approval.id = id := by
  intro id approval h
  by_cases hid : id = written.id
  · subst hid
    rw [AList.lookup_insert] at h
    rw [Option.some.inj h]
  · rw [AList.lookup_insert_ne hid] at h
    exact store.keyed id approval h

def getAsync (store : InMemoryApprovalStore) (id : Text) : Option Approval :=
  store.approvals.lookup id

/-- `TryAdd`: false, and no change, if the id is already taken. -/
def createAsync (store : InMemoryApprovalStore) (approval : Approval) :
    Bool × InMemoryApprovalStore :=
  if approval.id ∈ store.approvals then (false, store)
  else (true, { store with
    approvals := store.approvals.insert approval.id approval
    keyed := store.keyed_insert approval })

def updateAsync (store : InMemoryApprovalStore) (approval : Approval) : InMemoryApprovalStore :=
  { store with
    approvals := store.approvals.insert approval.id approval
    keyed := store.keyed_insert approval }

def appendAuditAsync (store : InMemoryApprovalStore) (auditEvent : ApprovalAuditEvent) :
    InMemoryApprovalStore :=
  { store with audit := store.audit ++ [auditEvent] }

@[simp] theorem updateAsync_audit (store : InMemoryApprovalStore) (approval : Approval) :
    (store.updateAsync approval).audit = store.audit := rfl

@[simp] theorem appendAuditAsync_audit (store : InMemoryApprovalStore)
    (auditEvent : ApprovalAuditEvent) :
    (store.appendAuditAsync auditEvent).audit = store.audit ++ [auditEvent] := rfl

@[simp] theorem getAsync_appendAuditAsync (store : InMemoryApprovalStore)
    (auditEvent : ApprovalAuditEvent) (id : Text) :
    (store.appendAuditAsync auditEvent).getAsync id = store.getAsync id := rfl

@[simp] theorem getAsync_updateAsync (store : InMemoryApprovalStore) (approval : Approval)
    (id : Text) : (store.updateAsync approval).getAsync id =
      if id = approval.id then some approval else store.getAsync id := by
  unfold getAsync updateAsync
  split
  · rename_i h
    rw [h, AList.lookup_insert]
  · rename_i h
    rw [AList.lookup_insert_ne h]

theorem createAsync_taken {store : InMemoryApprovalStore} {approval taken : Approval}
    (h : store.getAsync approval.id = some taken) :
    store.createAsync approval = (false, store) := by
  have hmem : approval.id ∈ store.approvals := by
    apply AList.lookup_isSome.mp
    rw [show store.approvals.lookup approval.id = some taken from h, Option.isSome_some]
  rw [createAsync, if_pos hmem]

theorem createAsync_fresh {store : InMemoryApprovalStore} {approval : Approval}
    (h : store.getAsync approval.id = none) :
    store.createAsync approval = (true, store.updateAsync approval) := by
  rw [createAsync, if_neg (AList.lookup_eq_none.mp h)]
  rfl

end InMemoryApprovalStore

/-- Everything outside itself that a handler calls, its clock and `Guid.NewGuid` included. -/
inductive Op
  | getUtcNow
  | newGuid
  | getAsync (id : Text)
  | createAsync (approval : Approval)
  | updateAsync (approval : Approval)
  | appendAuditAsync (auditEvent : ApprovalAuditEvent)

@[reducible] def Op.Ret : Op → Type
  | getUtcNow => DateTimeOffset
  | newGuid => Text
  | getAsync _ => Option Approval
  | createAsync _ => Bool
  | updateAsync _ => Unit
  | appendAuditAsync _ => Unit

def Op.isWrite : Op → Bool
  | createAsync _ => true
  | updateAsync _ => true
  | appendAuditAsync _ => true
  | _ => false

/-- When a call takes place, and the text of the guid that would be drawn then. -/
structure Moment where
  now : DateTimeOffset
  guid : Text
  deriving Inhabited

/-- One call. A store call that throws on a cancelled token has no effect: it is a call
that is never made. -/
def serve : Handler Op Op.Ret InMemoryApprovalStore Moment
  | .getUtcNow, moment, store => (moment.now, store)
  | .newGuid, moment, store => (moment.guid, store)
  | .getAsync id, _, store => (store.getAsync id, store)
  | .createAsync approval, _, store => store.createAsync approval
  | .updateAsync approval, _, store => ((), store.updateAsync approval)
  | .appendAuditAsync auditEvent, _, store => ((), store.appendAuditAsync auditEvent)

theorem serve_read (op : Op) (moment : Moment) (store : InMemoryApprovalStore)
    (h : ¬op.isWrite = true) : (serve op moment store).2 = store := by
  cases op <;> first | rfl | exact absurd rfl h

abbrev Handling (α : Type) := Program Op Op.Ret α

end Fcmr.ApprovalsService
