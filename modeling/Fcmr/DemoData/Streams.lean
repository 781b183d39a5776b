import Fcmr.DemoData.Alerts

/-! What the size of one collection changes in the others: nothing but the alerts, and these just
where a draw from a resized list comes to another place. -/
namespace Fcmr.DemoData

open DotNet Draws DeterministicRandom DemoDataGenerator

def SamePlace {α : Type} (items items' : List α) (rng : DeterministicRandom) : Prop :=
  (output rng).toNat % items.length = (output rng).toNat % items'.length

def SameOrders (orders orders' : List Order) (symbol : Text) (rng : DeterministicRandom) : Prop :=
  min 3 (ordersOf orders symbol).length = min 3 (ordersOf orders' symbol).length ∧
    (ordersOf orders symbol = [] → SamePlace orders orders' rng)

def SameExtra (communications communications' : List Communication) (rng : DeterministicRandom) :
    Prop :=
  ∀ k < (output rng).toNat % 3, SamePlace communications communications' (advanced^[k + 1] rng)

namespace DemoDataGenerator

variable {communications communications' : List Communication} {orders orders' : List Order}
variable {target target' i : Nat} {rng next next' : DeterministicRandom}

theorem seed_eq_iff (hcommunications : Keyed (·.id) communications communications')
    {c c' : Communication} (hmarked : i < target ↔ i < target')
    (htarget : target ≤ (concerningComms communications).length)
    (htarget' : target' ≤ (concerningComms communications').length)
    (h : (seedCommunication communications target i).run rng = some (c, next))
    (h' : (seedCommunication communications' target' i).run rng = some (c', next')) :
    (c = c' ↔ (target ≤ i →
      SamePlace (benignComms communications) (benignComms communications') rng)) ∧ next = next' := by
  rcases Nat.lt_or_ge i target with hi | hi
  · have hi' := hmarked.mp hi
    obtain ⟨hc, rfl⟩ := (run_concerning hi).mp h
    obtain ⟨hc', rfl⟩ := (run_concerning hi').mp h'
    rw [Nat.mod_eq_of_lt (hi.trans_le htarget)] at hc
    rw [Nat.mod_eq_of_lt (hi'.trans_le htarget')] at hc'
    have hsame := (hcommunications.filter _).comparable.eq_of_index hc hc'
    exact ⟨⟨fun _ hle => absurd hi (Nat.not_lt_of_ge hle), fun _ => hsame⟩, rfl⟩
  · have hi' : target' ≤ i := Nat.le_of_not_lt (mt hmarked.mpr (Nat.not_lt_of_ge hi))
    obtain ⟨hc, rfl⟩ := (run_benign hi).mp h
    obtain ⟨hc', rfl⟩ := (run_benign hi').mp h'
    have hplace := (hcommunications.filter _).eq_iff hc hc'
    exact ⟨hplace.trans ⟨fun h _ => h, fun h => h hi⟩, rfl⟩

theorem anyOrder_ne (horders : Keyed (·.id) orders orders') {symbol : Text} {order : Order}
    (hmem : order ∈ orders) (hnone : ordersOf orders symbol = []) :
    [order.id] ≠ ((ordersOf orders' symbol).take 3).map (·.id) := by
  intro heq
  have hid : order.id ∈ ((ordersOf orders' symbol).take 3).map (·.id) := heq ▸ List.mem_singleton_self _
  obtain ⟨order', horder', hid⟩ := List.mem_map.mp hid
  obtain ⟨hmem', hsymbol⟩ := List.mem_filter.mp (List.mem_of_mem_take horder')
  obtain rfl := horders.eq_of_key hmem hmem' hid.symm
  have hfound : order ∈ ordersOf orders symbol := List.mem_filter.mpr ⟨hmem, hsymbol⟩
  rw [hnone] at hfound
  cases hfound

theorem orders_eq_iff (horders : Keyed (·.id) orders orders') {symbol : Text} {ids ids' : List Text}
    (h : (relatedOrders orders symbol).run rng = some (ids, next))
    (h' : (relatedOrders orders' symbol).run rng = some (ids', next')) :
    (ids = ids' ↔ SameOrders orders orders' symbol rng) ∧ (ids = ids' → next = next') := by
  unfold SameOrders
  by_cases hnone : ordersOf orders symbol = []
  · obtain ⟨order, horder, rfl, rfl⟩ := (run_anyOrder hnone).mp h
    by_cases hnone' : ordersOf orders' symbol = []
    · obtain ⟨order', horder', rfl, rfl⟩ := (run_anyOrder hnone').mp h'
      rw [List.singleton_inj, horders.key_eq_iff horder horder', hnone, hnone']
      exact ⟨⟨fun hplace => ⟨rfl, fun _ => hplace⟩, fun hsame => hsame.2 rfl⟩, fun _ => rfl⟩
    · obtain ⟨rfl, rfl⟩ := (run_ordersOf hnone').mp h'
      have hne := anyOrder_ne horders (List.mem_of_getElem? horder) hnone
      have hpos := List.length_pos_iff.mpr hnone'
      refine ⟨⟨fun heq => absurd heq hne, ?_⟩, fun heq => absurd heq hne⟩
      rintro ⟨hlength, _⟩
      rw [hnone, List.length_nil] at hlength
      omega
  · obtain ⟨rfl, rfl⟩ := (run_ordersOf hnone).mp h
    by_cases hnone' : ordersOf orders' symbol = []
    · obtain ⟨order', horder', rfl, rfl⟩ := (run_anyOrder hnone').mp h'
      have hne := anyOrder_ne horders.symm (List.mem_of_getElem? horder') hnone'
      have hpos := List.length_pos_iff.mpr hnone
      refine ⟨⟨fun heq => absurd heq.symm hne, ?_⟩, fun heq => absurd heq.symm hne⟩
      rintro ⟨hlength, _⟩
      rw [hnone', List.length_nil] at hlength
      omega
    · obtain ⟨rfl, rfl⟩ := (run_ordersOf hnone').mp h'
      refine ⟨⟨?_, ?_⟩, fun _ => rfl⟩
      · intro heq
        have hlength := congrArg List.length heq
        rw [List.length_map, List.length_map, List.length_take, List.length_take] at hlength
        exact ⟨hlength, fun h => absurd h hnone⟩
      · rintro ⟨hlength, _⟩
        have hfirst : (ordersOf orders symbol).take 3 = (ordersOf orders' symbol).take 3 := by
          apply ((horders.filter _).comparable.take 3).eq_of_length
          rw [List.length_take, List.length_take]
          exact hlength
        rw [hfirst]

theorem run_collect_pick {α : Type} {items : List α} {count first : Nat} {drawn : List α}
    (h : (collect (fun _ => pick items) count first).run rng = some (drawn, next)) :
    next = advanced^[count] rng ∧ ∀ k < count,
      drawn[k]? = items[(output (advanced^[k] rng)).toNat % items.length]? := by
  induction count generalizing first rng drawn with
  | zero =>
    cases run_collect_zero.mp h
    exact ⟨rfl, fun _ hk => absurd hk (Nat.not_lt_zero _)⟩
  | succ count ih =>
    obtain ⟨a, middle, rest, ha, hrest, rfl⟩ := run_collect_succ.mp h
    obtain ⟨hplace, rfl⟩ := run_pick_eq_some.mp ha
    obtain ⟨hnext, hall⟩ := ih hrest
    rw [← Function.iterate_succ_apply] at hnext
    refine ⟨hnext, ?_⟩
    intro k hk
    cases k with
    | zero => exact hplace.symm
    | succ k =>
      rw [Function.iterate_succ_apply]
      exact hall k (Nat.lt_of_succ_lt_succ hk)

theorem run_extraCommunications {ids : List Text} {extra : Nat}
    (hextra : (output rng).toNat % 3 = extra)
    (h : (extraCommunications communications).run rng = some (ids, next)) :
    ∃ drawn : List Communication, ids = drawn.map (·.id) ∧ drawn.length = extra ∧
      next = advanced^[extra + 1] rng ∧ ∀ k < extra, drawn[k]? =
        communications[(output (advanced^[k + 1] rng)).toNat % communications.length]? := by
  have hrun := run_nextBetween_eq (by decide : (0 : Int) < 3) rng
  rw [Int.zero_add] at hrun
  have hrun : (nextBetween 0 3).run rng = some ((extra : Int), advanced rng) := by
    rw [← hextra]
    exact hrun
  clear hextra
  unfold extraCommunications at h
  rw [run_bind_of_run hrun, Int.toNat_natCast] at h
  simp only [run_bind_eq_some, run_pure_eq_some, Prod.mk.injEq] at h
  obtain ⟨drawn, _, hdrawn, rfl, rfl⟩ := h
  obtain ⟨hnext, hall⟩ := run_collect_pick hdrawn
  refine ⟨drawn, rfl, length_of_collect hdrawn, hnext, ?_⟩
  intro k hk
  rw [hall k hk, Function.iterate_succ_apply]

theorem extra_eq_iff (hcommunications : Keyed (·.id) communications communications')
    {ids ids' : List Text}
    (h : (extraCommunications communications).run rng = some (ids, next))
    (h' : (extraCommunications communications').run rng = some (ids', next')) :
    (ids = ids' ↔ SameExtra communications communications' rng) ∧ next = next' := by
  obtain ⟨drawn, rfl, hlength, rfl, hplaces⟩ := run_extraCommunications rfl h
  obtain ⟨drawn', rfl, hlength', rfl, hplaces'⟩ := run_extraCommunications rfl h'
  have hplace {k : Nat} {c c' : Communication} (hk : drawn[k]? = some c) (hk' : drawn'[k]? = some c') :
      c.id = c'.id ↔ SamePlace communications communications' (advanced^[k + 1] rng) := by
    have hlt := (List.getElem?_eq_some_iff.mp hk).1
    rw [hlength] at hlt
    rw [hplaces k hlt] at hk
    rw [hplaces' k hlt] at hk'
    exact hcommunications.key_eq_iff hk hk'
  refine ⟨⟨?_, ?_⟩, rfl⟩
  · intro heq k hk
    have hc := List.getElem?_eq_getElem (hlength ▸ hk : k < drawn.length)
    have hc' := List.getElem?_eq_getElem (hlength' ▸ hk : k < drawn'.length)
    apply (hplace hc hc').mp
    have hids := congrArg (·[k]?) heq
    simpa [hc, hc'] using hids
  · intro hsame
    apply List.ext_getElem (by rw [List.length_map, List.length_map, hlength, hlength'])
    intro k hk hk'
    rw [List.getElem_map, List.getElem_map]
    rw [List.length_map] at hk hk'
    exact (hplace (List.getElem?_eq_getElem hk) (List.getElem?_eq_getElem hk')).mpr
      (hsame k (hlength ▸ hk))

end DemoDataGenerator

structure Alike (communications communications' : List Communication) (orders orders' : List Order)
    (target target' i : Nat) (rng : DeterministicRandom) : Prop where
  marked : i < target ↔ i < target'
  seeded : target ≤ i → SamePlace (benignComms communications) (benignComms communications') rng
  ordered : ∀ c seeded symbol named,
    (seedCommunication communications target i).run rng = some (c, seeded) →
    (alertSymbol c).run seeded = some (symbol, named) → SameOrders orders orders' symbol named
  cited : ∀ c seeded symbol named ids related,
    (seedCommunication communications target i).run rng = some (c, seeded) →
    (alertSymbol c).run seeded = some (symbol, named) →
    (relatedOrders orders symbol).run named = some (ids, related) →
      SameExtra communications communications' related

namespace DemoDataGenerator

variable {communications communications' : List Communication} {orders orders' : List Order}
variable {target target' i : Nat} {rng next next' : DeterministicRandom}

theorem alert_draws {a : SurveillanceAlert}
    (h : (alert communications orders target i).run rng = some (a, next)) :
    ∃ seedComm seeded symbol named orderIds related extra cited minutes timed alertType,
      (seedCommunication communications target i).run rng = some (seedComm, seeded) ∧
      (alertSymbol seedComm).run seeded = some (symbol, named) ∧
      (relatedOrders orders symbol).run named = some (orderIds, related) ∧
      (extraCommunications communications).run related = some (extra, cited) ∧
      (nextBetween 5 120).run cited = some (minutes, timed) ∧
      (pick DemoUniverse.alertTypes).run timed = some (alertType, next) ∧
      a = {
        id := lit "alert-" ++ paddedText 4 i
        timestamp := addMinutes seedComm.timestamp minutes
        symbol
        traderId := seedComm.fromParty
        alertType
        communicationIds := seedComm.id :: extra
        orderIds
        groundTruthConcerning := i < target } := by
  simp only [alert, run_bind_eq_some, run_pure_eq_some, Prod.mk.injEq] at h
  obtain ⟨seedComm, seeded, hseed, symbol, named, hsymbol, orderIds, related, horders, extra, cited,
    hextra, minutes, timed, hminutes, alertType, _, htype, rfl, rfl⟩ := h
  exact ⟨seedComm, seeded, symbol, named, orderIds, related, extra, cited, minutes, timed, alertType,
    hseed, hsymbol, horders, hextra, hminutes, htype, rfl⟩

section

variable (hcommunications : Keyed (·.id) communications communications')
  (horders : Keyed (·.id) orders orders')
  (htarget : target ≤ (concerningComms communications).length)
  (htarget' : target' ≤ (concerningComms communications').length)

include hcommunications horders htarget htarget'

theorem alike_of_run {a : SurveillanceAlert}
    (h : (alert communications orders target i).run rng = some (a, next))
    (h' : (alert communications' orders' target' i).run rng = some (a, next')) :
    Alike communications communications' orders orders' target target' i rng ∧ next = next' := by
  obtain ⟨c, seeded, symbol, named, ids, related, extra, cited, minutes, timed, alertType, hseed,
    hsymbol, hrelated, hextra, hminutes, htype, ha⟩ := alert_draws h
  obtain ⟨c', seeded', symbol', named', ids', related', extra', cited', minutes', timed', alertType',
    hseed', hsymbol', hrelated', hextra', hminutes', htype', ha'⟩ := alert_draws h'
  obtain ⟨_, _, rfl, _, _, hids, rfl, hmarked⟩ := SurveillanceAlert.mk.inj (ha.symm.trans ha')
  obtain ⟨hid, rfl⟩ := List.cons.inj hids
  have hmarked := decide_eq_decide.mp hmarked
  obtain ⟨hseeded, rfl⟩ := seed_eq_iff hcommunications hmarked htarget htarget' hseed hseed'
  have hc := (seedCommunication_ensures communications target i _ _ _ hseed).1
  have hc' := (seedCommunication_ensures communications' target' i _ _ _ hseed').1
  obtain rfl := hcommunications.eq_of_key hc hc' hid
  cases hsymbol.symm.trans hsymbol'
  obtain ⟨hordered, hnext⟩ := orders_eq_iff horders hrelated hrelated'
  obtain rfl := hnext rfl
  obtain ⟨hcited, rfl⟩ := extra_eq_iff hcommunications hextra hextra'
  cases hminutes.symm.trans hminutes'
  cases htype.symm.trans htype'
  refine ⟨{ marked := hmarked, seeded := hseeded.mp rfl, ordered := ?_, cited := ?_ }, rfl⟩
  · intro _ _ _ _ hseed₁ hsymbol₁
    cases hseed.symm.trans hseed₁
    cases hsymbol.symm.trans hsymbol₁
    exact hordered.mp rfl
  · intro _ _ _ _ _ _ hseed₁ hsymbol₁ hrelated₁
    cases hseed.symm.trans hseed₁
    cases hsymbol.symm.trans hsymbol₁
    cases hrelated.symm.trans hrelated₁
    exact hcited.mp rfl

theorem eq_of_alike
    (halike : Alike communications communications' orders orders' target target' i rng)
    {a a' : SurveillanceAlert}
    (h : (alert communications orders target i).run rng = some (a, next))
    (h' : (alert communications' orders' target' i).run rng = some (a', next')) : a = a' := by
  obtain ⟨c, seeded, symbol, named, ids, related, extra, cited, minutes, timed, alertType, hseed,
    hsymbol, hrelated, hextra, hminutes, htype, rfl⟩ := alert_draws h
  obtain ⟨c', seeded', symbol', named', ids', related', extra', cited', minutes', timed', alertType',
    hseed', hsymbol', hrelated', hextra', hminutes', htype', rfl⟩ := alert_draws h'
  obtain ⟨hseeded, rfl⟩ := seed_eq_iff hcommunications halike.marked htarget htarget' hseed hseed'
  obtain rfl := hseeded.mpr halike.seeded
  cases hsymbol.symm.trans hsymbol'
  obtain ⟨hordered, hnext⟩ := orders_eq_iff horders hrelated hrelated'
  obtain rfl := hordered.mpr (halike.ordered _ _ _ _ hseed hsymbol)
  obtain rfl := hnext rfl
  obtain ⟨hcited, rfl⟩ := extra_eq_iff hcommunications hextra hextra'
  obtain rfl := hcited.mpr (halike.cited _ _ _ _ _ _ hseed hsymbol hrelated)
  cases hminutes.symm.trans hminutes'
  cases htype.symm.trans htype'
  rw [decide_eq_decide.mpr halike.marked]

theorem alert_eq_iff {a a' : SurveillanceAlert}
    (h : (alert communications orders target i).run rng = some (a, next))
    (h' : (alert communications' orders' target' i).run rng = some (a', next')) :
    (a = a' ↔ Alike communications communications' orders orders' target target' i rng) ∧
      (a = a' → next = next') := by
  have hforward (heq : a = a') := alike_of_run hcommunications horders htarget htarget' h (heq ▸ h')
  refine ⟨⟨fun heq => (hforward heq).1, ?_⟩, fun heq => (hforward heq).2⟩
  intro halike
  exact eq_of_alike hcommunications horders htarget htarget' halike h h'

end

theorem alerts_eq_iff (hcommunications : Keyed (·.id) communications communications')
    (horders : Keyed (·.id) orders orders') {opts : DemoDataOptions}
    {alerts alerts' : List SurveillanceAlert}
    (h : generateAlerts opts communications orders = some alerts)
    (h' : generateAlerts opts communications' orders' = some alerts') :
    alerts = alerts' ↔ ∀ i < opts.alertCount.toNat, ∀ before rng,
      (collect (alert communications orders (concerningTarget opts communications)) i 0).run
        (forStream opts.seed (lit "alerts")) = some (before, rng) →
      Alike communications communications' orders orders' (concerningTarget opts communications)
        (concerningTarget opts communications') i rng := by
  obtain ⟨_, drawn, rng, shuffled, last, hdrawn, hshuffled, rfl⟩ := generateAlerts_eq_some.mp h
  obtain ⟨_, drawn', rng', shuffled', last', hdrawn', hshuffled', rfl⟩ :=
    generateAlerts_eq_some.mp h'
  have hdraw (i : Nat) (rng : DeterministicRandom) (a a' : SurveillanceAlert)
      (next next' : DeterministicRandom)
      (ha : (alert communications orders (concerningTarget opts communications) i).run rng =
        some (a, next))
      (ha' : (alert communications' orders' (concerningTarget opts communications') i).run rng =
        some (a', next')) :=
    alert_eq_iff hcommunications horders (Nat.min_le_right _ _) (Nat.min_le_right _ _) ha ha'
  obtain ⟨halike, hrng⟩ := collect_eq_iff hdraw hdrawn hdrawn'
  simp only [Nat.zero_add] at halike
  refine Iff.trans ?_ halike
  constructor
  · intro heq
    have hperm : drawn.Perm drawn' := by
      have hperm := Array.perm_iff_toList_perm.mp (shuffle_perm hshuffled)
      have hperm' := Array.perm_iff_toList_perm.mp (shuffle_perm hshuffled')
      exact hperm.symm.trans (heq ▸ hperm')
    have hids := fun i a ha => (alerts_spec hdrawn i a ha).1
    have hids' := fun i a ha => (alerts_spec hdrawn' i a ha).1
    apply eq_of_perm hperm _ (nodup_numbered hids)
    rw [map_numbered hids, map_numbered hids', hperm.length_eq]
  · rintro rfl
    cases hrng rfl
    cases hshuffled.symm.trans hshuffled'
    rfl

end DemoDataGenerator

/-- The collections whose sizes an option sets apart from the alerts. -/
inductive Collection
  | documents
  | communications
  | orders
  deriving DecidableEq

def DemoDataOptions.resized (opts : DemoDataOptions) (collection : Collection) (count : Int) :
    DemoDataOptions :=
  match collection with
  | .documents => { opts with researchDocumentCount := count }
  | .communications => { opts with communicationCount := count }
  | .orders => { opts with orderCount := count }

def SameAt {α : Type} (items items' : List α) : Prop :=
  ∀ (i : Nat) (a a' : α), items[i]? = some a → items'[i]? = some a' → a = a'

theorem SameAt.refl {α : Type} (items : List α) : SameAt items items := by
  intro i a a' ha ha'
  rw [ha] at ha'
  exact Option.some.inj ha'

theorem sameAt_iff_eq {α : Type} {items items' : List α} (hlength : items.length = items'.length) :
    SameAt items items' ↔ items = items' := by
  constructor
  · intro hsame
    apply List.ext_getElem hlength
    intro i hi hi'
    exact hsame i _ _ (List.getElem?_eq_getElem hi) (List.getElem?_eq_getElem hi')
  · rintro rfl
    exact .refl items

theorem sameAt_of_eq {α : Type} {made made' : Option (List α)} {items items' : List α}
    (heq : made' = made) (h : made = some items) (h' : made' = some items') : SameAt items items' := by
  rw [heq, h] at h'
  obtain rfl := Option.some.inj h'
  exact .refl items

/-- What a resized collection leaves as it is. -/
structure Independent (collection : Collection) (data data' : DemoDataSet) : Prop where
  documents : collection ≠ .documents → SameAt data.researchDocuments data'.researchDocuments
  communications : collection ≠ .communications → SameAt data.communications data'.communications
  orders : collection ≠ .orders → SameAt data.orders data'.orders
  alerts : SameAt data.alerts data'.alerts

/-- From each state that the alerts are drawn from, the draws are alike. -/
def Undisturbed (opts opts' : DemoDataOptions) : Prop :=
  ∀ communications communications' orders orders',
    generateCommunications opts = some communications →
    generateCommunications opts' = some communications' →
    generateOrders opts = some orders → generateOrders opts' = some orders' →
    ∀ i < opts.alertCount.toNat, ∀ before rng,
      (collect (alert communications orders (concerningTarget opts communications)) i 0).run
        (forStream opts.seed (lit "alerts")) = some (before, rng) →
      Alike communications communications' orders orders' (concerningTarget opts communications)
        (concerningTarget opts' communications') i rng

section

variable {opts : DemoDataOptions} {collection : Collection} {count : Int}

theorem generateResearch_resized (h : collection ≠ .documents) :
    generateResearch (opts.resized collection count) = generateResearch opts := by
  cases collection with
  | documents => exact absurd rfl h
  | communications => rfl
  | orders => rfl

theorem generateCommunications_resized (h : collection ≠ .communications) :
    generateCommunications (opts.resized collection count) = generateCommunications opts := by
  cases collection with
  | documents => rfl
  | communications => exact absurd rfl h
  | orders => rfl

theorem generateOrders_resized (h : collection ≠ .orders) :
    generateOrders (opts.resized collection count) = generateOrders opts := by
  cases collection with
  | documents => rfl
  | communications => rfl
  | orders => exact absurd rfl h

@[simp] theorem generateAlerts_resized :
    generateAlerts (opts.resized collection count) = generateAlerts opts := by
  cases collection <;> rfl

@[simp] theorem concerningTarget_resized :
    concerningTarget (opts.resized collection count) = concerningTarget opts := by
  cases collection <;> rfl

theorem communications_keyed {communications communications' : List Communication}
    (h : generateCommunications opts = some communications)
    (h' : generateCommunications (opts.resized collection count) = some communications') :
    Keyed (·.id) communications communications' where
  comparable := by
    cases collection <;> exact ofStream_comparable h h'
  nodup := communications_nodup h
  nodup' := communications_nodup h'

theorem orders_keyed {orders orders' : List Order} (h : generateOrders opts = some orders)
    (h' : generateOrders (opts.resized collection count) = some orders') :
    Keyed (·.id) orders orders' where
  comparable := by
    cases collection <;> exact ofStream_comparable h h'
  nodup := orders_nodup h
  nodup' := orders_nodup h'

structure Generated (opts : DemoDataOptions) (data : DemoDataSet) : Prop where
  documents : generateResearch opts = some data.researchDocuments
  communications : generateCommunications opts = some data.communications
  orders : generateOrders opts = some data.orders
  alerts : generateAlerts opts data.communications data.orders = some data.alerts

theorem generated {data : DemoDataSet} (h : generate (some opts) = some data) :
    Generated opts data := by
  simp only [generate, Option.getD_some, Option.bind_eq_bind, Option.bind_eq_some_iff,
    Option.pure_def, Option.some.injEq] at h
  obtain ⟨documents, hdocuments, communications, hcommunications, orders, horders, _, _, alerts,
    halerts, rfl⟩ := h
  exact ⟨hdocuments, hcommunications, horders, halerts⟩

end

theorem Alike.refl (communications : List Communication) (orders : List Order) (target i : Nat)
    (rng : DeterministicRandom) :
    Alike communications communications orders orders target target i rng where
  marked := Iff.rfl
  seeded _ := rfl
  ordered _ _ _ _ _ _ := ⟨rfl, fun _ => rfl⟩
  cited _ _ _ _ _ _ _ _ _ _ _ := rfl

theorem documents_undisturbed (opts : DemoDataOptions) (count : Int) :
    Undisturbed opts (opts.resized .documents count) := by
  intro communications _ orders _ hc hc' ho ho' i _ _ rng _
  cases hc.symm.trans hc'
  cases ho.symm.trans ho'
  exact .refl communications orders _ i rng

/-- A resized collection leaves the others as they are just when the alerts are drawn alike. -/
theorem independent_iff (opts : DemoDataOptions) (collection : Collection) (count : Int)
    (data data' : DemoDataSet) (h : generate (some opts) = some data)
    (h' : generate (some (opts.resized collection count)) = some data') :
    Independent collection data data' ↔ Undisturbed opts (opts.resized collection count) := by
  have hdata := generated h
  have hdata' := generated h'
  have halerts' := hdata'.alerts
  rw [generateAlerts_resized] at halerts'
  have hlength : data.alerts.length = data'.alerts.length := by
    have hcount := (alertBatch hdata.alerts).length_eq
    have hcount' := (alertBatch halerts').length_eq
    omega
  have halerts := alerts_eq_iff (communications_keyed hdata.communications hdata'.communications)
    (orders_keyed hdata.orders hdata'.orders) hdata.alerts halerts'
  constructor
  · intro hindependent communications communications' orders orders' hc hc' ho ho'
    cases hc.symm.trans hdata.communications
    cases hc'.symm.trans hdata'.communications
    cases ho.symm.trans hdata.orders
    cases ho'.symm.trans hdata'.orders
    rw [concerningTarget_resized]
    exact halerts.mp ((sameAt_iff_eq hlength).mp hindependent.alerts)
  · intro hundisturbed
    have halike := hundisturbed _ _ _ _ hdata.communications hdata'.communications hdata.orders
      hdata'.orders
    rw [concerningTarget_resized] at halike
    exact {
      documents := fun hother =>
        sameAt_of_eq (generateResearch_resized hother) hdata.documents hdata'.documents
      communications := fun hother =>
        sameAt_of_eq (generateCommunications_resized hother) hdata.communications
          hdata'.communications
      orders := fun hother =>
        sameAt_of_eq (generateOrders_resized hother) hdata.orders hdata'.orders
      alerts := (sameAt_iff_eq hlength).mpr (halerts.mpr halike) }

namespace Samples

def single (seed : UInt64) : DemoDataOptions where
  seed := seed
  researchDocumentCount := 0
  communicationCount := 1
  orderCount := 1
  alertCount := 1

def alertsOf (opts : DemoDataOptions) : Option (List SurveillanceAlert) :=
  (generate (some opts)).map (·.alerts)

theorem alertsOf_eq_some (opts : DemoDataOptions) (h : (alertsOf opts).map (·.length) = some 1) :
    ∃ data, generate (some opts) = some data ∧ alertsOf opts = some data.alerts ∧
      data.alerts.length = 1 := by
  obtain ⟨alerts, halerts, hlength⟩ := Option.map_eq_some_iff.mp h
  obtain ⟨data, hdata, rfl⟩ := Option.map_eq_some_iff.mp halerts
  exact ⟨data, hdata, halerts, hlength⟩

/-- A second communication is cited instead of the first. -/
theorem alerts_shifted : ∃ data data', generate (some (single 7)) = some data ∧
    generate (some ((single 7).resized .communications 2)) = some data' ∧
      ¬Independent .communications data data' := by
  have hshifted : alertsOf (single 7) ≠ alertsOf ((single 7).resized .communications 2) := by
    decide +kernel
  obtain ⟨data, hdata, halerts, hone⟩ := alertsOf_eq_some (single 7) (by decide +kernel)
  obtain ⟨data', hdata', halerts', hone'⟩ :=
    alertsOf_eq_some ((single 7).resized .communications 2) (by decide +kernel)
  refine ⟨data, data', hdata, hdata', fun hindependent => hshifted ?_⟩
  rw [halerts, halerts', (sameAt_iff_eq (hone.trans hone'.symm)).mp hindependent.alerts]

theorem second_undisturbed : Undisturbed (single 1) ((single 1).resized .orders 2) := by
  have hkept : alertsOf (single 1) = alertsOf ((single 1).resized .orders 2) := by decide +kernel
  obtain ⟨data, hdata, halerts, _⟩ := alertsOf_eq_some (single 1) (by decide +kernel)
  obtain ⟨data', hdata', halerts', _⟩ :=
    alertsOf_eq_some ((single 1).resized .orders 2) (by decide +kernel)
  have hsame : data.alerts = data'.alerts :=
    Option.some.inj (halerts.symm.trans (hkept.trans halerts'))
  apply (independent_iff (single 1) .orders 2 data data' hdata hdata').mp
  have hgenerated := generated hdata
  have hgenerated' := generated hdata'
  exact {
    documents := fun _ => sameAt_of_eq rfl hgenerated.documents hgenerated'.documents
    communications := fun _ => sameAt_of_eq rfl hgenerated.communications hgenerated'.communications
    orders := fun hother => absurd rfl hother
    alerts := hsame ▸ .refl data.alerts }

end Samples

end Fcmr.DemoData
