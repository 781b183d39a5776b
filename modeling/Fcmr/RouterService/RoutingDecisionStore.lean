import Fcmr.Library.StableSort
import Fcmr.RouterDecisions.ComplexityScorer
import Fcmr.RouterService.PayloadScreen

/-! The store of routing decisions: partitioned by correlation id for the reconstruction of one
request, and in order of arrival for a window of time. It only ever grows. -/
namespace Fcmr.RouterService

open DotNet RouterDecisions

/-- The hints are kept so that a decision can be derived again, not just read again. -/
structure RoutingDecisionRecord where
  id : Text
  correlationId : Text
  lane : Lane
  taskKind : Text
  decision : RoutingDecision
  complexityInputs : ComplexityHints
  createdAt : DateTimeOffset
  latencyMs : Option Int32

/-- Both collections are filled by every save, so each partition is the part of the whole that
has its correlation id. -/
structure InMemoryRoutingDecisionStore where
  byCorrelation : AList fun _ : Text => List RoutingDecisionRecord
  ordered : List RoutingDecisionRecord
  partitioned : ∀ correlationId, (byCorrelation.lookup correlationId).getD [] =
    ordered.filter fun record => record.correlationId = correlationId

namespace InMemoryRoutingDecisionStore

def empty : InMemoryRoutingDecisionStore where
  byCorrelation := ∅
  ordered := []
  partitioned _ := rfl

def saveAsync (store : InMemoryRoutingDecisionStore) (record : RoutingDecisionRecord) :
    InMemoryRoutingDecisionStore where
  byCorrelation := store.byCorrelation.insert record.correlationId
    ((store.byCorrelation.lookup record.correlationId).getD [] ++ [record])
  ordered := store.ordered ++ [record]
  partitioned correlationId := by
    rw [List.filter_append]
    by_cases hsame : correlationId = record.correlationId
    · subst hsame
      simp [AList.lookup_insert, store.partitioned]
    · rw [AList.lookup_insert_ne hsame, store.partitioned]
      simp [Ne.symm hsame]

def getAsync (store : InMemoryRoutingDecisionStore) (correlationId : Text) :
    List RoutingDecisionRecord :=
  (store.byCorrelation.lookup correlationId).getD []

def recencyKey (record : RoutingDecisionRecord) : ℕᵒᵈ := OrderDual.toDual record.createdAt

/-- Of several at one instant, those saved earlier come first. -/
def listSinceAsync (store : InMemoryRoutingDecisionStore) (since : DateTimeOffset) :
    List RoutingDecisionRecord :=
  StableSort.sortBy recencyKey (store.ordered.filter fun record => since ≤ record.createdAt)

variable (store : InMemoryRoutingDecisionStore)

@[simp] theorem saveAsync_ordered (record : RoutingDecisionRecord) :
    (store.saveAsync record).ordered = store.ordered ++ [record] := rfl

theorem getAsync_eq (correlationId : Text) : store.getAsync correlationId =
    store.ordered.filter fun record => record.correlationId = correlationId :=
  store.partitioned correlationId

theorem listSinceAsync_window (since : DateTimeOffset) :
    (store.listSinceAsync since).Pairwise (fun a b => b.createdAt ≤ a.createdAt) ∧
      (store.listSinceAsync since).Perm
        (store.ordered.filter fun record => since ≤ record.createdAt) := by
  have hsorted : (store.listSinceAsync since).Pairwise fun a b => recencyKey a ≤ recencyKey b :=
    StableSort.sortBy_pairwise _
  exact ⟨hsorted.imp OrderDual.toDual_le_toDual.mp, StableSort.sortBy_perm _⟩

theorem listSinceAsync_instant {since instant : DateTimeOffset} (h : since ≤ instant) :
    ((store.listSinceAsync since).filter fun record => record.createdAt = instant) =
      store.ordered.filter fun record => record.createdAt = instant := by
  have hstable : ((store.listSinceAsync since).filter fun record =>
      recencyKey record = OrderDual.toDual instant) =
        (store.ordered.filter fun record => since ≤ record.createdAt).filter fun record =>
          recencyKey record = OrderDual.toDual instant :=
    StableSort.filter_sortBy _ _
  rw [List.filter_filter] at hstable
  refine hstable.trans (List.filter_congr fun record _ => ?_)
  by_cases hinstant : record.createdAt = instant
  · subst hinstant
    simp [recencyKey, h]
  · simp [recencyKey, hinstant]

end InMemoryRoutingDecisionStore

end Fcmr.RouterService
