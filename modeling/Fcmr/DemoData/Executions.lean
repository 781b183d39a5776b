import Fcmr.DemoData.Collections

/-! The fills of an order: whatever is drawn, they are the order, no more and no less. -/
namespace Fcmr.DemoData

open DotNet Draws DeterministicRandom DemoDataGenerator

def slice (left : Nat) (remaining : Int) : Int :=
  min (if left = 0 then remaining else max 100 (remaining.tdiv (left + 1))) remaining

theorem slice_pos (left : Nat) {remaining : Int} (h : 0 < remaining) : 0 < slice left remaining := by
  unfold slice
  apply lt_min _ h
  split
  · exact h
  · exact lt_max_of_lt_left (by decide)

theorem slice_le (left : Nat) (remaining : Int) : slice left remaining ≤ remaining := min_le_right _ _

theorem slice_last (remaining : Int) : slice 0 remaining = remaining := by
  unfold slice
  rw [if_pos rfl, min_self]

section

variable {order : Order}

theorem run_fillOrder_filled {left : Nat} {remaining : Int} (h : remaining ≤ 0) (count : Nat)
    (rng : DeterministicRandom) : (fillOrder order left remaining count).run rng = some ([], rng) := by
  cases left with
  | zero => rfl
  | succ left =>
    unfold fillOrder
    rw [if_pos h]
    rfl

theorem fillOrder_step {left count : Nat} {remaining : Int} {rng rng' : DeterministicRandom}
    {executions : List Execution} (hpos : 0 < remaining)
    (h : (fillOrder order (left + 1) remaining count).run rng = some (executions, rng')) :
    ∃ execution rest middle, executions = execution :: rest ∧
      execution.quantity = slice left remaining ∧ execution.orderId = order.id ∧
      (fillOrder order left (remaining - slice left remaining) (count + 1)).run middle =
        some (rest, rng') := by
  unfold fillOrder at h
  rw [if_neg (not_le_of_gt hpos)] at h
  simp only [run_bind_eq_some, run_pure_eq_some, Prod.mk.injEq] at h
  obtain ⟨_, _, _, _, _, _, _, _, _, _, middle, _, rest, _, hrest, rfl, rfl⟩ := h
  exact ⟨_, rest, middle, rfl, rfl, rfl, hrest⟩

theorem executionPrice_total (h : order.Priced) : Total (executionPrice order.limitPrice) := by
  intro rng
  obtain ⟨x, hx, hnonneg, hle⟩ := run_nextDouble rng
  have hscale : 0 ≤ (Double.ofRat (1 / 100)).toRat ∧ (Double.ofRat (1 / 100)).toRat ≤ 1 := by
    decide +kernel
  have hbase : 0 ≤ (Double.ofRat (995 / 1000)).toRat ∧ (Double.ofRat (995 / 1000)).toRat ≤ 1 := by
    decide +kernel
  have hproduct := Double.toRat_ofRat_le (k := 0) (by decide) (mul_nonneg hnonneg hscale.1)
    (by rw [pow_zero]; exact mul_le_one₀ hle hscale.1 hscale.2)
  have hsum := Double.toRat_ofRat_le (k := 1) (by decide) (add_nonneg hbase.1 hproduct.1)
    (by linarith [hbase.2, hproduct.2])
  obtain ⟨factor, hfactor, hfactorNonneg, hfactorLe⟩ :=
    Decimal.ofDouble_between (m := 2) (by decide) (by exact_mod_cast hsum)
  have hsize : |order.limitPrice.value * factor.value| ≤ (2 ^ 95 : ℕ) := by
    rw [abs_mul, abs_of_nonneg hfactorNonneg]
    calc
      |order.limitPrice.value| * factor.value ≤ 2 ^ 94 * (2 : ℕ) :=
        mul_le_mul h hfactorLe hfactorNonneg (by positivity)
      _ = (2 ^ 95 : ℕ) := by norm_num
  obtain ⟨price, hprice, _⟩ := Decimal.mul_of_le_nat (by decide) hsize
  refine ⟨price.round 4, advanced rng, ?_⟩
  unfold executionPrice
  rw [run_bind_of_run hx]
  simp only [Double.add, Double.mul, run_ofOption_bind, hfactor, hprice, Option.bind_some]
  rfl

theorem fillOrder_total (hprice : order.Priced) (fills : Nat) (quantity : Int) (count : Nat) :
    Total (fillOrder order fills quantity count) := by
  induction fills generalizing quantity count with
  | zero => exact total_pure []
  | succ left ih =>
    unfold fillOrder
    split
    · exact total_pure []
    refine total_bind (nextBetween_total (by decide)) fun seconds => ?_
    refine total_bind (executionPrice_total hprice) fun price => ?_
    refine total_bind (nextBool_total _) fun sameVenue => total_bind ?_ fun venue => ?_
    · cases sameVenue with
      | true => exact total_pure order.venue
      | false => exact pick_total venues_ne_nil
    · exact total_bind (ih _ _) fun rest => total_pure _

/-- The fills of an order are the order. -/
structure Fills (order : Order) (fills : Nat) (quantity : Int) (executions : List Execution) :
    Prop where
  some_emitted : 1 ≤ executions.length
  length_le : executions.length ≤ fills
  positive : ∀ execution ∈ executions, 0 < execution.quantity
  of_order : ∀ execution ∈ executions, execution.orderId = order.id
  sum_eq : (executions.map (·.quantity)).sum = quantity

theorem fills_of_run {fills count : Nat} {quantity : Int} {rng rng' : DeterministicRandom}
    {executions : List Execution} (hfills : 1 ≤ fills) (hquantity : 1 ≤ quantity)
    (h : (fillOrder order fills quantity count).run rng = some (executions, rng')) :
    Fills order fills quantity executions := by
  induction fills generalizing quantity count rng executions with
  | zero => exact absurd hfills (by decide)
  | succ left ih =>
    obtain ⟨execution, rest, middle, rfl, hslice, horder, hrest⟩ := fillOrder_step hquantity h
    have hpos := slice_pos left hquantity
    have hle := slice_le left quantity
    rcases hle.eq_or_lt with hall | hless
    · -- Nothing remains, and the loop ends early.
      rw [run_fillOrder_filled (by omega)] at hrest
      cases hrest
      exact {
        some_emitted := Nat.le_refl 1
        length_le := Nat.succ_le_succ left.zero_le
        positive := by simpa [hslice] using hpos
        of_order := by simpa using horder
        sum_eq := by simpa [hslice] using hall }
    · have hleft : 1 ≤ left := by
        rcases left.eq_zero_or_pos with rfl | hleft
        · exact absurd (slice_last quantity) hless.ne
        · exact hleft
      have hfilled := ih hleft (by omega) hrest
      exact {
        some_emitted := Nat.succ_le_succ rest.length.zero_le
        length_le := Nat.succ_le_succ hfilled.length_le
        positive := List.forall_mem_cons.mpr ⟨hslice ▸ hpos, hfilled.positive⟩
        of_order := List.forall_mem_cons.mpr ⟨horder, hfilled.of_order⟩
        sum_eq := by
          rw [List.map_cons, List.sum_cons, hslice, hfilled.sum_eq]
          omega }

end

theorem run_fillOrders {orders : List Order} (h : ∀ order ∈ orders, order.Priced ∧ 1 ≤ order.quantity)
    (count : Nat) (rng : DeterministicRandom) :
    ∃ emitted rng', (fillOrders orders count).run rng = some (emitted.flatten, rng') ∧
      List.Forall₂ (fun order executions =>
        ∃ fills < 4, Fills order fills order.quantity executions) orders emitted := by
  induction orders generalizing count rng with
  | nil => exact ⟨[], rng, rfl, .nil⟩
  | cons order orders ih =>
    obtain ⟨⟨hprice, hquantity⟩, hrest⟩ := List.forall_mem_cons.mp h
    obtain ⟨fills, hdrawn, hlow, hhigh⟩ := run_nextBetween (by decide : (1 : Int) < 4) rng
    obtain ⟨executions, middle, hrun⟩ :=
      fillOrder_total hprice fills.toNat order.quantity count (advanced rng)
    obtain ⟨emitted, rng', hemitted, hall⟩ := ih hrest (count + executions.length) middle
    refine ⟨executions :: emitted, rng', ?_, .cons ⟨fills.toNat, by omega, ?_⟩ hall⟩
    · unfold fillOrders
      rw [run_bind_of_run hdrawn, run_bind_of_run hrun, run_bind_of_run hemitted]
      rfl
    · exact fills_of_run (by omega) hquantity hrun

/-- No order is overfilled or left open: not by the loop over any number of fills, and not by the
executions that are generated for the orders. -/
theorem filled_exactly :
    (∀ order fills quantity count rng executions rng', 1 ≤ fills → 1 ≤ quantity →
      (fillOrder order fills quantity count).run rng = some (executions, rng') →
        Fills order fills quantity executions) ∧
    ∀ opts orders, generateOrders opts = some orders →
      (∀ order ∈ orders, ∀ fills quantity count, Total (fillOrder order fills quantity count)) ∧
      ∃ emitted : List (List Execution), generateExecutions opts orders = some emitted.flatten ∧
        List.Forall₂ (fun order executions =>
          ∃ fills < 4, Fills order fills order.quantity executions) orders emitted := by
  refine ⟨fun _ _ _ _ _ _ _ hfills hquantity h => fills_of_run hfills hquantity h, ?_⟩
  intro opts orders horders
  have hspec : ∀ order ∈ orders, order.Priced ∧ 1 ≤ order.quantity := by
    intro order horder
    obtain ⟨i, hi⟩ := List.mem_iff_getElem?.mp horder
    obtain ⟨_, hquantity, hprice⟩ := order_spec horders i order hi
    exact ⟨hprice, hquantity⟩
  refine ⟨fun order horder => fillOrder_total (hspec order horder).1, ?_⟩
  obtain ⟨emitted, rng', hrun, hall⟩ :=
    run_fillOrders hspec 0 (forStream opts.seed (lit "executions"))
  refine ⟨emitted, ?_, hall⟩
  unfold generateExecutions ofStream
  rw [if_neg (lt_irrefl 0), hrun]
  rfl

namespace Samples

def limitOrder : Order where
  id := lit "ord-00000"
  timestamp := DemoUniverse.epoch
  symbol := lit "ATLN"
  side := .buy
  quantity := 250
  limitPrice := .literal 1005 1
  venue := lit "XLIT"
  traderId := lit "TRD-1041"

def oneOrder : DemoDataOptions := { orderCount := 1 }

theorem orders_filled :
    (∃ executions rng', (fillOrder limitOrder 3 250 0).run (new 7) = some (executions, rng') ∧
      executions.map (·.quantity) = [100, 100, 50] ∧ Fills limitOrder 3 250 executions) ∧
    ∃ (order : Order) (executions : List Execution), generateOrders oneOrder = some [order] ∧
      generateExecutions oneOrder [order] = some executions ∧
      (executions.map (·.quantity)).sum = order.quantity := by
  constructor
  · have hdrawn : ((fillOrder limitOrder 3 250 0).run (new 7)).map
        (fun result => result.1.map (·.quantity)) = some [100, 100, 50] := by decide +kernel
    obtain ⟨⟨executions, rng'⟩, hrun, hquantities⟩ := Option.map_eq_some_iff.mp hdrawn
    exact ⟨executions, rng', hrun, hquantities,
      filled_exactly.1 limitOrder 3 250 0 (new 7) executions rng' (by decide) (by decide) hrun⟩
  · have hlength : (generateOrders oneOrder).map (·.length) = some 1 := by decide +kernel
    obtain ⟨orders, horders, hone⟩ := Option.map_eq_some_iff.mp hlength
    obtain ⟨order, rfl⟩ := List.length_eq_one_iff.mp hone
    obtain ⟨_, emitted, hemitted, hfilled⟩ := filled_exactly.2 oneOrder [order] horders
    cases hfilled with
    | cons hfills hrest =>
      cases hrest
      obtain ⟨_, _, hfills⟩ := hfills
      rw [List.flatten_singleton] at hemitted
      exact ⟨order, _, horders, hemitted, hfills.sum_eq⟩

end Samples

end Fcmr.DemoData
