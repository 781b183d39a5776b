import Fcmr.DemoData.Collections

/-! The alerts that are drawn from communications and orders: as many are marked as there should
be, and what they cite exists. -/
namespace Fcmr.DemoData

open DotNet Draws DeterministicRandom DemoDataGenerator

namespace DemoDataGenerator

variable {communications : List Communication} {orders : List Order} {target i : Nat}
variable {rng rng' : DeterministicRandom}

theorem mem_concerningComms {c : Communication} : c ∈ concerningComms communications ↔
    c ∈ communications ∧ c.groundTruthConcerning = true :=
  List.mem_filter

theorem mem_benignComms {c : Communication} : c ∈ benignComms communications ↔
    c ∈ communications ∧ c.groundTruthConcerning = false := by
  unfold benignComms
  rw [List.mem_filter, Bool.not_eq_true']

theorem run_concerning {c : Communication} (h : i < target) :
    (seedCommunication communications target i).run rng = some (c, rng') ↔
      (concerningComms communications)[i % (concerningComms communications).length]? = some c ∧
        rng' = rng := by
  unfold seedCommunication
  rw [if_pos h, run_ofOption_eq_some]
  exact and_congr_right fun _ => eq_comm

theorem run_benign {c : Communication} (h : target ≤ i) :
    (seedCommunication communications target i).run rng = some (c, rng') ↔
      (benignComms communications)[(output rng).toNat % (benignComms communications).length]? =
        some c ∧ rng' = advanced rng := by
  unfold seedCommunication
  rw [if_neg (not_lt_of_ge h), run_pick_eq_some]

theorem run_ordersOf {symbol : Text} {ids : List Text} (h : ordersOf orders symbol ≠ []) :
    (relatedOrders orders symbol).run rng = some (ids, rng') ↔
      ids = ((ordersOf orders symbol).take 3).map (·.id) ∧ rng' = rng := by
  have hlength : (((ordersOf orders symbol).take 3).map (·.id)).length ≠ 0 := by
    rw [List.length_map, List.length_take]
    have hpos := List.length_pos_iff.mpr h
    omega
  unfold relatedOrders
  dsimp only
  rw [if_neg hlength, run_pure_eq_some, Prod.mk.injEq, eq_comm, @eq_comm _ rng]

theorem run_anyOrder {symbol : Text} {ids : List Text} (h : ordersOf orders symbol = []) :
    (relatedOrders orders symbol).run rng = some (ids, rng') ↔
      ∃ order, orders[(output rng).toNat % orders.length]? = some order ∧ ids = [order.id] ∧
        rng' = advanced rng := by
  unfold relatedOrders
  dsimp only
  rw [if_pos (by rw [h]; rfl)]
  simp only [run_bind_eq_some, run_pick_eq_some, run_pure_eq_some, Prod.mk.injEq]
  constructor
  · rintro ⟨order, _, ⟨horder, rfl⟩, rfl, rfl⟩
    exact ⟨order, horder, rfl, rfl⟩
  · rintro ⟨order, horder, rfl, rfl⟩
    exact ⟨order, _, ⟨horder, rfl⟩, rfl, rfl⟩

theorem seedCommunication_ensures (communications : List Communication) (target i : Nat) :
    Ensures (seedCommunication communications target i) fun c =>
      c ∈ communications ∧ (i < target → c.groundTruthConcerning = true) := by
  intro rng c rng' h
  rcases Nat.lt_or_ge i target with hi | hi
  · have hmem := List.mem_of_getElem? ((run_concerning hi).mp h).1
    obtain ⟨hmem, hmarked⟩ := mem_concerningComms.mp hmem
    exact ⟨hmem, fun _ => hmarked⟩
  · have hmem := List.mem_of_getElem? ((run_benign hi).mp h).1
    exact ⟨(mem_benignComms.mp hmem).1, fun hlt => absurd hlt (Nat.not_lt_of_ge hi)⟩

theorem relatedOrders_ensures (orders : List Order) (symbol : Text) :
    Ensures (relatedOrders orders symbol) fun ids => ∀ id ∈ ids, id ∈ orders.map (·.id) := by
  intro rng ids rng' h
  by_cases hnone : ordersOf orders symbol = []
  · obtain ⟨order, horder, rfl, _⟩ := (run_anyOrder hnone).mp h
    intro id hid
    rw [List.mem_singleton.mp hid]
    exact List.mem_map_of_mem (List.mem_of_getElem? horder)
  · obtain ⟨rfl, _⟩ := (run_ordersOf hnone).mp h
    have hsublist := (List.take_sublist 3 (ordersOf orders symbol)).trans List.filter_sublist
    exact fun id hid => (hsublist.map _).subset hid

theorem extraCommunications_ensures (communications : List Communication) :
    Ensures (extraCommunications communications) fun ids =>
      ∀ id ∈ ids, id ∈ communications.map (·.id) := by
  refine ensures_then fun extra => ensures_bind (Q := fun comms => ∀ c ∈ comms, c ∈ communications)
    ?_ fun comms hcomms => ensures_pure ?_
  · intro rng comms rng' hrun c hc
    obtain ⟨j, hj⟩ := List.mem_iff_getElem?.mp hc
    exact ensures_collect (fun _ => pick_ensures communications) hrun j c hj
  · intro id hid
    obtain ⟨c, hc, rfl⟩ := List.mem_map.mp hid
    exact List.mem_map_of_mem (hcomms c hc)

end DemoDataGenerator

structure Resolves (communications : List Communication) (orders : List Order)
    (a : SurveillanceAlert) : Prop where
  communications_exist : ∀ id ∈ a.communicationIds, id ∈ communications.map (·.id)
  orders_exist : ∀ id ∈ a.orderIds, id ∈ orders.map (·.id)
  cites_concerning : a.groundTruthConcerning = true →
    ∃ c ∈ communications, c.groundTruthConcerning = true ∧ c.id ∈ a.communicationIds

namespace DemoDataGenerator

variable {communications : List Communication} {orders : List Order} {target : Nat}

theorem alert_ensures (communications : List Communication) (orders : List Order) (target i : Nat) :
    Ensures (alert communications orders target i) fun a =>
      a.id = lit "alert-" ++ paddedText 4 i ∧ a.groundTruthConcerning = decide (i < target) ∧
        Resolves communications orders a := by
  refine ensures_bind (seedCommunication_ensures communications target i) fun c hc => ?_
  refine ensures_then fun symbol => ?_
  refine ensures_bind (relatedOrders_ensures orders symbol) fun orderIds horders => ?_
  refine ensures_bind (extraCommunications_ensures communications) fun extra hextra => ?_
  refine ensures_then fun minutes => ensures_then fun alertType => ensures_pure ⟨rfl, rfl, ?_⟩
  exact {
    communications_exist := List.forall_mem_cons.mpr ⟨List.mem_map_of_mem hc.1, hextra⟩
    orders_exist := horders
    cites_concerning := fun hconcerning =>
      ⟨c, hc.1, hc.2 (of_decide_eq_true hconcerning), List.mem_cons_self⟩ }

theorem alerts_spec {count : Nat} {rng rng' : DeterministicRandom} {alerts : List SurveillanceAlert}
    (h : (collect (alert communications orders target) count 0).run rng = some (alerts, rng'))
    (i : Nat) (a : SurveillanceAlert) (ha : alerts[i]? = some a) :
    a.id = lit "alert-" ++ paddedText 4 i ∧ a.groundTruthConcerning = decide (i < target) ∧
      Resolves communications orders a :=
  ensures_collect (alert_ensures communications orders target) h i a ha

theorem count_marked {alerts : List SurveillanceAlert} (hle : target ≤ alerts.length)
    (h : ∀ i a, alerts[i]? = some a → a.groundTruthConcerning = decide (i < target)) :
    alerts.countP (·.groundTruthConcerning) = target := by
  have hfirst : (alerts.take target).countP (·.groundTruthConcerning) =
      (alerts.take target).length := by
    apply List.countP_eq_length.mpr
    intro a ha
    obtain ⟨i, hi⟩ := List.mem_iff_getElem?.mp ha
    have hlt : i < target := (List.getElem?_eq_some_iff.mp hi).1.trans_le (by simp)
    rw [List.getElem?_take_of_lt hlt] at hi
    rw [h i a hi]
    exact decide_eq_true hlt
  have hrest : (alerts.drop target).countP (·.groundTruthConcerning) = 0 := by
    apply List.countP_eq_zero.mpr
    intro a ha
    obtain ⟨i, hi⟩ := List.mem_iff_getElem?.mp ha
    rw [List.getElem?_drop] at hi
    rw [h _ a hi]
    simp
  rw [← List.take_append_drop target alerts, List.countP_append, hfirst, hrest,
    List.length_take_of_le hle]
  rfl

theorem concerningTarget_le (opts : DemoDataOptions) (communications : List Communication) :
    concerningTarget opts communications ≤ opts.alertCount.toNat :=
  (Nat.min_le_left _ _).trans (Nat.div_le_self _ _)

theorem seedCommunication_total (hconcerning : concerningComms communications ≠ [])
    (hbenign : benignComms communications ≠ []) (target i : Nat) :
    Total (seedCommunication communications target i) := by
  intro rng
  rcases Nat.lt_or_ge i target with hi | hi
  · have hlt := Nat.mod_lt i (List.length_pos_iff.mpr hconcerning)
    exact ⟨_, rng, (run_concerning hi).mpr ⟨List.getElem?_eq_getElem hlt, rfl⟩⟩
  · obtain ⟨c, _, hc⟩ := run_pick hbenign rng
    exact ⟨c, _, (run_benign hi).mpr ⟨hc, rfl⟩⟩

theorem alertSymbol_total (c : Communication) : Total (alertSymbol c) := by
  unfold alertSymbol
  split
  · exact total_pure _
  · exact pick_total symbols_ne_nil

theorem relatedOrders_total (horders : orders ≠ []) (symbol : Text) :
    Total (relatedOrders orders symbol) := by
  unfold relatedOrders
  dsimp only
  split
  · exact total_bind (pick_total horders) fun _ => total_pure _
  · exact total_pure _

theorem extraCommunications_total (hcommunications : communications ≠ []) :
    Total (extraCommunications communications) :=
  total_bind (nextBetween_total (by decide)) fun extra =>
  total_bind (total_collect (fun _ => pick_total hcommunications) extra.toNat 0) fun _ =>
  total_pure _

theorem alert_total (horders : orders ≠ []) (hconcerning : concerningComms communications ≠ [])
    (hbenign : benignComms communications ≠ []) (target i : Nat) :
    Total (alert communications orders target i) := by
  have hcommunications : communications ≠ [] := by
    rintro rfl
    exact hbenign rfl
  exact
    total_bind (seedCommunication_total hconcerning hbenign target i) fun seedComm =>
    total_bind (alertSymbol_total seedComm) fun symbol =>
    total_bind (relatedOrders_total horders symbol) fun _ =>
    total_bind (extraCommunications_total hcommunications) fun _ =>
    total_bind (nextBetween_total (by decide)) fun _ =>
    total_bind (pick_total alertTypes_ne_nil) fun _ =>
    total_pure _

theorem generateAlerts_eq_some {opts : DemoDataOptions} {alerts : List SurveillanceAlert} :
    generateAlerts opts communications orders = some alerts ↔
      0 ≤ opts.alertCount ∧ ∃ drawn rng shuffled rng',
        (collect (alert communications orders (concerningTarget opts communications))
          opts.alertCount.toNat 0).run (forStream opts.seed (lit "alerts")) = some (drawn, rng) ∧
        (shuffle (fun n => next n) (drawn.length - 1) drawn.toArray).run rng =
          some (shuffled, rng') ∧
        alerts = shuffled.toList := by
  unfold generateAlerts ofStream
  split
  · rename_i hneg
    exact ⟨nofun, fun h => absurd h.1 (not_le_of_gt hneg)⟩
  · rename_i hnonneg
    simp only [Option.map_eq_some_iff, Prod.exists, run_bind_eq_some, run_pure_eq_some,
      Prod.mk.injEq]
    constructor
    · rintro ⟨_, _, ⟨drawn, rng, hdrawn, shuffled, rng', hshuffled, rfl, rfl⟩, rfl⟩
      exact ⟨not_lt.mp hnonneg, drawn, rng, shuffled, rng', hdrawn, hshuffled, rfl⟩
    · rintro ⟨_, drawn, rng, shuffled, rng', hdrawn, hshuffled, rfl⟩
      exact ⟨_, rng', ⟨drawn, rng, hdrawn, shuffled, rng', hshuffled, rfl, rfl⟩, rfl⟩

end DemoDataGenerator

/-- The alerts that a generator should return. -/
structure AlertBatch (opts : DemoDataOptions) (communications : List Communication)
    (orders : List Order) (alerts : List SurveillanceAlert) : Prop where
  length_eq : (alerts.length : Int) = opts.alertCount
  distinct : (alerts.map (·.id)).Nodup
  marked : (alerts.countP (·.groundTruthConcerning) : Int) =
    min (opts.alertCount / 5) (concerningComms communications).length
  resolves : ∀ a ∈ alerts, Resolves communications orders a
  shuffled : ∃ drawn rng, (collect (alert communications orders
    (concerningTarget opts communications)) opts.alertCount.toNat 0).run
      (forStream opts.seed (lit "alerts")) = some (drawn, rng) ∧ alerts.Perm drawn

theorem alertBatch {opts : DemoDataOptions} {communications : List Communication}
    {orders : List Order} {alerts : List SurveillanceAlert}
    (h : generateAlerts opts communications orders = some alerts) :
    AlertBatch opts communications orders alerts := by
  obtain ⟨hcount, drawn, rng, shuffled, _, hdrawn, hshuffled, rfl⟩ := generateAlerts_eq_some.mp h
  have hperm : shuffled.toList.Perm drawn := Array.perm_iff_toList_perm.mp (shuffle_perm hshuffled)
  have hlength := length_of_collect hdrawn
  have hspec := alerts_spec hdrawn
  have htarget := concerningTarget_le opts communications
  exact {
    length_eq := by
      rw [hperm.length_eq, hlength]
      exact Int.toNat_of_nonneg hcount
    distinct := (hperm.map _).nodup_iff.mpr (nodup_numbered fun i a ha => (hspec i a ha).1)
    marked := by
      rw [hperm.countP_eq, count_marked (hlength ▸ htarget) fun i a ha => (hspec i a ha).2.1]
      unfold concerningTarget
      omega
    resolves := by
      intro a ha
      obtain ⟨i, hi⟩ := List.mem_iff_getElem?.mp (hperm.subset ha)
      exact (hspec i a hi).2.2
    shuffled := ⟨drawn, rng, hdrawn, hperm⟩ }

theorem generateAlerts_total {opts : DemoDataOptions} {communications : List Communication}
    {orders : List Order} (hcount : 0 ≤ opts.alertCount) (horders : orders ≠ [])
    (hconcerning : concerningComms communications ≠ []) (hbenign : benignComms communications ≠ []) :
    ∃ alerts, generateAlerts opts communications orders = some alerts := by
  have hchoose (n : Nat) (rng : DeterministicRandom) (hn : 0 < n) :
      ∃ j rng', (next n).run rng = some (j, rng') ∧ j < n :=
    ⟨_, _, run_next (Int.natCast_pos.mpr hn) rng, Nat.mod_lt _ hn⟩
  obtain ⟨drawn, rng, hdrawn⟩ := total_collect
    (alert_total horders hconcerning hbenign (concerningTarget opts communications))
    opts.alertCount.toNat 0 (forStream opts.seed (lit "alerts"))
  have hlast : drawn.length - 1 < drawn.toArray.size ∨ drawn.length - 1 = 0 := by
    rw [List.size_toArray]
    omega
  obtain ⟨⟨shuffled, rng'⟩, hshuffled⟩ := shuffle_total hchoose hlast rng
  exact ⟨_, generateAlerts_eq_some.mpr ⟨hcount, drawn, rng, shuffled, rng', hdrawn, hshuffled, rfl⟩⟩

/-- With something to pick from, the alerts are returned for every count that is not negative,
and are the batch that they should be. -/
theorem alerts_resolve (opts : DemoDataOptions) (communications : List Communication)
    (orders : List Order) (horders : orders ≠ [])
    (hconcerning : ∃ c ∈ communications, c.groundTruthConcerning = true)
    (hbenign : ∃ c ∈ communications, c.groundTruthConcerning = false) :
    ((generateAlerts opts communications orders).isSome ↔ 0 ≤ opts.alertCount) ∧
    ∀ alerts, generateAlerts opts communications orders = some alerts →
      AlertBatch opts communications orders alerts := by
  refine ⟨?_, fun alerts => alertBatch⟩
  rw [Option.isSome_iff_exists]
  constructor
  · rintro ⟨alerts, halerts⟩
    exact (generateAlerts_eq_some.mp halerts).1
  · intro hcount
    obtain ⟨c, hc⟩ := hconcerning
    obtain ⟨b, hb⟩ := hbenign
    exact generateAlerts_total hcount horders (List.ne_nil_of_mem (mem_concerningComms.mpr hc))
      (List.ne_nil_of_mem (mem_benignComms.mpr hb))

namespace Samples

def fiveAlerts : DemoDataOptions where
  communicationCount := 4
  orderCount := 2
  alertCount := 5
  concerningCommunicationRate := .ofRat (1 / 2)

theorem one_of_five_marked : ∃ communications orders alerts,
    generateCommunications fiveAlerts = some communications ∧
      generateOrders fiveAlerts = some orders ∧
      generateAlerts fiveAlerts communications orders = some alerts ∧ alerts.length = 5 ∧
      alerts.countP (·.groundTruthConcerning) = 1 := by
  have hkinds : (generateCommunications fiveAlerts).map (fun communications =>
      (communications.any (·.groundTruthConcerning), communications.all (·.groundTruthConcerning))) =
        some (true, false) := by decide +kernel
  obtain ⟨communications, hcommunications, hkinds⟩ := Option.map_eq_some_iff.mp hkinds
  obtain ⟨hany, hall⟩ := Prod.mk.inj hkinds
  have hconcerning := List.any_eq_true.mp hany
  have hbenign : ∃ c ∈ communications, c.groundTruthConcerning = false := by
    simpa using hall
  have horders : (generateOrders fiveAlerts).map (·.length) = some 2 := by decide +kernel
  obtain ⟨orders, horders, htwo⟩ := Option.map_eq_some_iff.mp horders
  have hne : orders ≠ [] := by
    rintro rfl
    cases htwo
  obtain ⟨hsome, hbatch⟩ := alerts_resolve fiveAlerts communications orders hne hconcerning hbenign
  obtain ⟨alerts, halerts⟩ := Option.isSome_iff_exists.mp (hsome.mpr (by decide))
  obtain ⟨c, hc⟩ := hconcerning
  have hpos := List.length_pos_of_mem (mem_concerningComms.mpr hc)
  have hlength : (alerts.length : Int) = 5 := (hbatch alerts halerts).length_eq
  have hmarked := (hbatch alerts halerts).marked
  change (_ : Int) = min (5 / 5) _ at hmarked
  exact ⟨communications, orders, alerts, hcommunications, horders, halerts,
    by exact_mod_cast hlength, by omega⟩

end Samples

end Fcmr.DemoData
