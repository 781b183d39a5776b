import Fcmr.Library.Programs
import Fcmr.OrderRouting.RoutePlanner
import Mathlib.Data.Finset.Insert
import Mathlib.Data.List.AList

/-! The in-memory store of the order routing service, one atomic call at a time. -/
namespace Fcmr.OrderRoutingService

open DotNet OrderRouting Programs

/-- Proposals by id and the ids executed, compared ordinally. Every write goes to the id
of the proposal written. -/
structure InMemoryProposalStore where
  proposals : AList fun _ : Text => RouteProposal
  executed : Finset Text
  keyed : ∀ id proposal, proposals.lookup id = some proposal → proposal.proposalId = id

namespace InMemoryProposalStore

def empty : InMemoryProposalStore where
  proposals := ∅
  executed := ∅
  keyed := by simp

def save (store : InMemoryProposalStore) (proposal : RouteProposal) : InMemoryProposalStore where
  proposals := store.proposals.insert proposal.proposalId proposal
  executed := store.executed
  keyed := by
    intro id found h
    by_cases hid : id = proposal.proposalId
    · subst hid
      rw [AList.lookup_insert] at h
      rw [Option.some.inj h]
    · rw [AList.lookup_insert_ne hid] at h
      exact store.keyed id found h

def find (store : InMemoryProposalStore) (proposalId : Text) : Option RouteProposal :=
  store.proposals.lookup proposalId

/-- `TryAdd`: false, and no change, if the id was marked before. -/
def tryMarkExecuted (store : InMemoryProposalStore) (proposalId : Text) :
    Bool × InMemoryProposalStore :=
  if proposalId ∈ store.executed then (false, store)
  else (true, { store with executed := insert proposalId store.executed })

@[simp] theorem save_executed (store : InMemoryProposalStore) (proposal : RouteProposal) :
    (store.save proposal).executed = store.executed := rfl

@[simp] theorem find_save (store : InMemoryProposalStore) (proposal : RouteProposal) (id : Text) :
    (store.save proposal).find id = if id = proposal.proposalId then some proposal else store.find id := by
  unfold find save
  split
  · rename_i h
    rw [h, AList.lookup_insert]
  · rename_i h
    rw [AList.lookup_insert_ne h]

theorem tryMarkExecuted_marked {store : InMemoryProposalStore} {id : Text}
    (h : id ∈ store.executed) : store.tryMarkExecuted id = (false, store) := if_pos h

theorem tryMarkExecuted_fresh {store : InMemoryProposalStore} {id : Text}
    (h : id ∉ store.executed) : store.tryMarkExecuted id =
      (true, { store with executed := insert id store.executed }) := if_neg h

@[simp] theorem find_tryMarkExecuted (store : InMemoryProposalStore) (id id' : Text) :
    (store.tryMarkExecuted id).2.find id' = store.find id' := by
  unfold tryMarkExecuted
  split <;> rfl

theorem mem_tryMarkExecuted {store : InMemoryProposalStore} {id id' : Text} :
    id' ∈ (store.tryMarkExecuted id).2.executed ↔ id' = id ∨ id' ∈ store.executed := by
  unfold tryMarkExecuted
  split
  · rename_i h
    constructor
    · exact .inr
    · rintro (rfl | h')
      · exact h
      · exact h'
  · exact Finset.mem_insert

end InMemoryProposalStore

/-- Everything outside itself that a handler calls, its clock included. -/
inductive Op
  | getUtcNow
  | save (proposal : RouteProposal)
  | find (proposalId : Text)
  | tryMarkExecuted (proposalId : Text)

@[reducible] def Op.Ret : Op → Type
  | getUtcNow => DateTimeOffset
  | save _ => Unit
  | find _ => Option RouteProposal
  | tryMarkExecuted _ => Bool

/-- One call, made at an instant. -/
def serve : Handler Op Op.Ret InMemoryProposalStore DateTimeOffset
  | .getUtcNow, now, store => (now, store)
  | .save proposal, _, store => ((), store.save proposal)
  | .find proposalId, _, store => (store.find proposalId, store)
  | .tryMarkExecuted proposalId, _, store => store.tryMarkExecuted proposalId

abbrev Handling (α : Type) := Program Op Op.Ret α

end Fcmr.OrderRoutingService
