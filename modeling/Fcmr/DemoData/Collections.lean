import Fcmr.DemoData.DemoDataGenerator
import Fcmr.Library.Comparable

/-! What each collection of its own stream is: its identifiers, its beginning, and that it is
always drawn. -/
namespace Fcmr.DemoData

open DotNet Draws DeterministicRandom DemoDataGenerator

namespace DeterministicRandom

theorem run_nextDecimal {minInclusive maxExclusive : Decimal} (hmin : |minInclusive.value| ≤ 1000)
    (hmax : |maxExclusive.value| ≤ 1000) (rng : DeterministicRandom) :
    ∃ d, (nextDecimal minInclusive maxExclusive).run rng = some (d, advanced rng) ∧
      |d.value| ≤ 2 ^ 94 := by
  obtain ⟨x, hx, hbetween⟩ := run_nextDouble rng
  obtain ⟨share, hshare, hnonneg, hle⟩ := Decimal.ofDouble_between (m := 1) (by decide)
    (by exact_mod_cast hbetween)
  rw [Nat.cast_one] at hle
  have hneg : |maxExclusive.value + minInclusive.neg.value| ≤ (2000 : ℕ) := by
    have htriangle := abs_add_le maxExclusive.value minInclusive.neg.value
    rw [Decimal.abs_value_neg] at htriangle
    push_cast
    linarith
  obtain ⟨width, hwidth, _, hsize⟩ := Decimal.add_of_le_nat (by decide) hneg
  have hproduct : |share.value * width.value| ≤ (2000 : ℕ) := by
    rw [abs_mul, abs_of_nonneg hnonneg]
    exact (mul_le_of_le_one_left (abs_nonneg _) hle).trans hsize
  obtain ⟨offset, hoffset, _, hsize⟩ := Decimal.mul_of_le_nat (by decide) hproduct
  have hsum : |minInclusive.value + offset.value| ≤ (3000 : ℕ) := by
    have htriangle := abs_add_le minInclusive.value offset.value
    push_cast at hsize ⊢
    linarith
  obtain ⟨sum, hadd, _, hsize⟩ := Decimal.add_of_le_nat (by decide) hsum
  refine ⟨sum.round 4, ?_, ?_⟩
  · unfold nextDecimal
    rw [run_bind_of_run hx]
    simp only [Decimal.sub, run_ofOption_bind, hshare, hwidth, hoffset, hadd, Option.bind_some]
    rfl
  · have hround := abs_sub_le_iff.mp (Decimal.abs_round_sub_le sum 4)
    have hsides := abs_le.mp hsize
    push_cast at hsides
    apply abs_le.mpr
    constructor <;> norm_num at hround ⊢ <;> linarith [hround.1, hround.2, hsides.1, hsides.2]

theorem nextDecimal_total {minInclusive maxExclusive : Decimal} (hmin : |minInclusive.value| ≤ 1000)
    (hmax : |maxExclusive.value| ≤ 1000) : Total (nextDecimal minInclusive maxExclusive) := by
  intro rng
  obtain ⟨d, hrun, _⟩ := run_nextDecimal hmin hmax rng
  exact ⟨d, _, hrun⟩

theorem nextDecimal_ensures {minInclusive maxExclusive : Decimal}
    (hmin : |minInclusive.value| ≤ 1000) (hmax : |maxExclusive.value| ≤ 1000) :
    Ensures (nextDecimal minInclusive maxExclusive) fun d => |d.value| ≤ 2 ^ 94 := by
  intro rng d rng' hrun
  obtain ⟨_, hdrawn, hsize⟩ := run_nextDecimal hmin hmax rng
  cases hrun.symm.trans hdrawn
  exact hsize

end DeterministicRandom

def Order.Priced (order : Order) : Prop := |order.limitPrice.value| ≤ 2 ^ 94

namespace DemoDataGenerator

theorem symbols_ne_nil : DemoUniverse.symbols ≠ [] := nofun
theorem venues_ne_nil : DemoUniverse.venues ≠ [] := nofun
theorem traders_ne_nil : DemoUniverse.traders ≠ [] := nofun
theorem alertTypes_ne_nil : DemoUniverse.alertTypes ≠ [] := nofun

theorem limits_small :
    |(Decimal.literal 80 1).value| ≤ 1000 ∧ |(Decimal.literal 4200 1).value| ≤ 1000 := by
  decide +kernel

theorem limit_total : Total (nextDecimal (.literal 80 1) (.literal 4200 1)) :=
  nextDecimal_total limits_small.1 limits_small.2

theorem limit_ensures : Ensures (nextDecimal (.literal 80 1) (.literal 4200 1)) fun limit =>
    |limit.value| ≤ 2 ^ 94 :=
  nextDecimal_ensures limits_small.1 limits_small.2

theorem order_total (i : Nat) : Total (order i) :=
  total_bind (nextBetween_total (by decide)) fun _ =>
  total_bind (pick_total symbols_ne_nil) fun _ =>
  total_bind (nextBool_total _) fun _ =>
  total_bind (nextBetween_total (by decide)) fun _ =>
  total_bind limit_total fun _ =>
  total_bind (pick_total venues_ne_nil) fun _ =>
  total_bind (pick_total traders_ne_nil) fun _ =>
  total_pure _

theorem order_ensures (i : Nat) : Ensures (order i) fun o =>
    o.id = lit "ord-" ++ paddedText 5 i ∧ 1 ≤ o.quantity ∧ o.Priced := by
  refine ensures_then fun minutes => ensures_then fun symbol => ensures_then fun isBuy => ?_
  refine ensures_bind (nextBetween_ensures (by decide)) fun lots hlots => ?_
  refine ensures_bind limit_ensures fun limitPrice hlimitPrice => ?_
  refine ensures_then fun venue => ensures_then fun traderId => ensures_pure ⟨rfl, ?_, hlimitPrice⟩
  change 1 ≤ lots * 100
  omega

theorem communication_total (opts : DemoDataOptions) (i : Nat) : Total (communication opts i) := by
  refine total_bind (nextBool_total _) fun isConcerning => ?_
  refine total_bind (nextBool_total _) fun named => ?_
  refine total_bind ?_ fun symbol => total_bind (nextBetween_total (by decide)) fun minutes => ?_
  · cases named with
    | true => exact total_bind (pick_total symbols_ne_nil) fun _ => total_pure _
    | false => exact total_pure none
  refine total_bind (nextBetween_total (by decide)) fun channel => ?_
  refine total_bind (pick_total traders_ne_nil) fun fromParty => ?_
  refine total_bind (nextBool_total _) fun inside => total_bind ?_ fun toParty => ?_
  · cases inside with
    | true => exact pick_total traders_ne_nil
    | false => exact pick_total nofun
  refine total_bind ?_ fun body => total_pure _
  cases isConcerning with
  | true => exact pick_total nofun
  | false => exact pick_total nofun

theorem communication_ensures (opts : DemoDataOptions) (i : Nat) :
    Ensures (communication opts i) fun c => c.id = lit "comm-" ++ paddedText 5 i := by
  refine ensures_then fun isConcerning => ensures_then fun named => ensures_then fun symbol => ?_
  refine ensures_then fun minutes => ensures_then fun channel => ensures_then fun fromParty => ?_
  refine ensures_then fun inside => ensures_then fun toParty => ensures_then fun body => ?_
  exact ensures_pure rfl

theorem ofStream_collect {α : Type} {seed : UInt64} {streamName : Text} {count : Int}
    {draw : Nat → Drawing α} {items : List α} :
    ofStream seed streamName count (collect draw count.toNat 0) = some items ↔
      0 ≤ count ∧ ∃ rng, (collect draw count.toNat 0).run (forStream seed streamName) =
        some (items, rng) := by
  unfold ofStream
  split
  · rename_i hneg
    exact ⟨nofun, fun h => absurd h.1 (not_le_of_gt hneg)⟩
  · rename_i hnonneg
    rw [Option.map_eq_some_iff, Prod.exists]
    constructor
    · rintro ⟨_, rng, hrun, rfl⟩
      exact ⟨not_lt.mp hnonneg, rng, hrun⟩
    · rintro ⟨_, rng, hrun⟩
      exact ⟨items, rng, hrun, rfl⟩

theorem ofStream_isSome {α : Type} {seed : UInt64} {streamName : Text} {count : Int}
    {draw : Nat → Drawing α} (h : ∀ i, Total (draw i)) :
    (ofStream seed streamName count (collect draw count.toNat 0)).isSome ↔ 0 ≤ count := by
  rw [Option.isSome_iff_exists]
  constructor
  · rintro ⟨items, hitems⟩
    exact (ofStream_collect.mp hitems).1
  · intro hcount
    obtain ⟨items, rng, hrun⟩ := total_collect h count.toNat 0 (forStream seed streamName)
    exact ⟨items, ofStream_collect.mpr ⟨hcount, rng, hrun⟩⟩

theorem ofStream_comparable {α : Type} {seed : UInt64} {streamName : Text} {count count' : Int}
    {draw : Nat → Drawing α} {items items' : List α}
    (h : ofStream seed streamName count (collect draw count.toNat 0) = some items)
    (h' : ofStream seed streamName count' (collect draw count'.toNat 0) = some items') :
    Comparable items items' := by
  obtain ⟨_, _, hrun⟩ := ofStream_collect.mp h
  obtain ⟨_, _, hrun'⟩ := ofStream_collect.mp h'
  rcases Nat.le_total count.toNat count'.toNat with hle | hle
  · obtain ⟨before, _, hbefore, hprefix⟩ := collect_fewer hle hrun'
    cases hrun.symm.trans hbefore
    exact .inl hprefix
  · obtain ⟨before, _, hbefore, hprefix⟩ := collect_fewer hle hrun
    cases hrun'.symm.trans hbefore
    exact .inr hprefix

section

variable {α : Type} {id : α → Text} {before : Text} {width : Nat} {items : List α}
  (h : ∀ i a, items[i]? = some a → id a = before ++ paddedText width i)

include h

theorem map_numbered :
    items.map id = (List.range items.length).map fun i => before ++ paddedText width i := by
  apply List.ext_getElem (by simp)
  intro i hi hi'
  rw [List.getElem_map, List.getElem_map, List.getElem_range]
  exact h i _ (List.getElem?_eq_getElem _)

theorem nodup_numbered : (items.map id).Nodup := by
  rw [map_numbered h]
  apply List.nodup_range.map
  intro i j hij
  exact paddedText_injective width (List.append_cancel_left hij)

end

variable {opts : DemoDataOptions}

theorem order_spec {orders : List Order} (h : generateOrders opts = some orders) (i : Nat) (o : Order)
    (ho : orders[i]? = some o) :
    o.id = lit "ord-" ++ paddedText 5 i ∧ 1 ≤ o.quantity ∧ o.Priced := by
  obtain ⟨_, _, hrun⟩ := ofStream_collect.mp h
  exact ensures_collect order_ensures hrun i o ho

theorem communications_id {communications : List Communication}
    (h : generateCommunications opts = some communications) (i : Nat) (c : Communication)
    (hc : communications[i]? = some c) : c.id = lit "comm-" ++ paddedText 5 i := by
  obtain ⟨_, _, hrun⟩ := ofStream_collect.mp h
  exact ensures_collect (communication_ensures opts) hrun i c hc

theorem generateOrders_isSome (opts : DemoDataOptions) :
    (generateOrders opts).isSome ↔ 0 ≤ opts.orderCount :=
  ofStream_isSome order_total

theorem orders_nodup {orders : List Order} (h : generateOrders opts = some orders) :
    (orders.map (·.id)).Nodup :=
  nodup_numbered fun i o ho => (order_spec h i o ho).1

theorem generateCommunications_isSome (opts : DemoDataOptions) :
    (generateCommunications opts).isSome ↔ 0 ≤ opts.communicationCount :=
  ofStream_isSome (communication_total opts)

theorem communications_nodup {communications : List Communication}
    (h : generateCommunications opts = some communications) : (communications.map (·.id)).Nodup :=
  nodup_numbered (communications_id h)

end DemoDataGenerator

end Fcmr.DemoData
