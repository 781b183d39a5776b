import Fcmr.OrderRouting.Evaluation
import Fcmr.OrderRouting.RoutePlanner

/-! What `Plan` selects, and when it halts. Where an operation overflows on one venue there
is no outcome at all, whatever the other venues are. -/
namespace Fcmr.OrderRouting

open DotNet BestExecutionEvaluator

/-- The cheapest venue first, then the lesser code. -/
def Preferred (winner other : VenueEvaluation) : Prop :=
  winner.cost.totalCostBps.value < other.cost.totalCostBps.value ∨
    winner.cost.totalCostBps.value = other.cost.totalCostBps.value ∧
      winner.quote.venueCode ≤ other.quote.venueCode

def BreachFree (order : OrderIntent) (quotes : List VenueQuote) (policy : BestExecutionPolicy)
    (evaluation : VenueEvaluation) : Prop :=
  (∃ quote ∈ quotes, evaluateVenue order quote policy = some evaluation) ∧
    evaluation.breaches = []

structure Winner (order : OrderIntent) (quotes : List VenueQuote) (policy : BestExecutionPolicy)
    (proposal : RouteProposal) (winner : VenueEvaluation) : Prop where
  eligible : BreachFree order quotes policy winner
  venueCode : proposal.venueCode = winner.quote.venueCode
  cost : proposal.cost = winner.cost
  preferred : ∀ other, BreachFree order quotes policy other → Preferred winner other
  first : ∃ before after,
    quotes.map (evaluateVenue order · policy) = before ++ some winner :: after ∧
      ∀ other, some other ∈ before → other.breaches = [] → ¬Preferred other winner

/-- The outcome for an order, read off its own breaches and those of the venues. -/
structure Settled (order : OrderIntent) (quotes : List VenueQuote) (policy : BestExecutionPolicy)
    (outcome : RoutingOutcome) : Prop where
  proposes : (∃ proposal considered, outcome = .proposed proposal considered) ↔
    evaluateOrder order policy = some [] ∧ ∃ evaluation, BreachFree order quotes policy evaluation
  winner : ∀ proposal considered, outcome = .proposed proposal considered →
    ∃ winner, Winner order quotes policy proposal winner
  cheapest : ∀ proposal considered, outcome = .proposed proposal considered →
    0 < order.quantity.toInt → 0 < order.arrivalMidPrice.value →
    ∀ evaluation, BreachFree order quotes policy evaluation →
      proposal.cost.projectedCostUsd.value ≤ evaluation.cost.projectedCostUsd.value
  considered : (outcome.considered.map some).Perm (quotes.map (evaluateVenue order · policy))
  halts : ∀ breaches considered, outcome = .halted breaches considered → breaches ≠ [] ∧
    ∀ orderBreaches, evaluateOrder order policy = some orderBreaches → orderBreaches ≠ [] →
      breaches = orderBreaches

/-- No operation overflows, neither on the order nor on any of the quotes. -/
def Evaluable (order : OrderIntent) (quotes : List VenueQuote) (policy : BestExecutionPolicy) :
    Prop :=
  (evaluateOrder order policy).isSome ∧ ∀ quote ∈ quotes, (evaluateVenue order quote policy).isSome

namespace RoutePlanner

theorem mapM_eq_some {α β : Type} {f : α → Option β} {l : List α} {l' : List β} :
    l.mapM f = some l' ↔ l.map f = l'.map some := by
  induction l generalizing l' with
  | nil => cases l' <;> simp
  | cons a l ih =>
    rw [List.mapM_cons]
    cases l' with
    | nil => cases f a <;> cases l.mapM f <;> simp
    | cons b rest =>
      rw [List.map_cons, List.map_cons, List.cons.injEq, ← ih]
      cases f a <;> cases l.mapM f <;> simp

theorem mapM_eq_filterMap {α β : Type} {f : α → Option β} {l : List α}
    (h : ∀ a ∈ l, (f a).isSome) : l.mapM f = some (l.filterMap f) := by
  rw [mapM_eq_some, List.map_filterMap_some_eq_filter_map_isSome, eq_comm, List.filter_eq_self]
  intro b hmem
  obtain ⟨a, ha, rfl⟩ := List.mem_map.mp hmem
  exact h a ha

variable {order : OrderIntent} {quotes : List VenueQuote} {policy : BestExecutionPolicy}
  {proposedBy : Text} {proposalId : Option Text} {evaluated : List VenueEvaluation}
  {orderBreaches : List PolicyBreach}

theorem mem_evaluated {evaluation : VenueEvaluation}
    (h : quotes.mapM (evaluateVenue order · policy) = some evaluated) :
    evaluation ∈ evaluated ↔
      ∃ quote ∈ quotes, evaluateVenue order quote policy = some evaluation := by
  have hsome : some evaluation ∈ evaluated.map some ↔ evaluation ∈ evaluated := by simp
  rw [← hsome, ← mapM_eq_some.mp h, List.mem_map]

theorem evaluation_of_mem {quote : VenueQuote}
    (h : quotes.mapM (evaluateVenue order · policy) = some evaluated) (hquote : quote ∈ quotes) :
    ∃ evaluation ∈ evaluated, evaluateVenue order quote policy = some evaluation := by
  have hmem := List.mem_map_of_mem (f := (evaluateVenue order · policy)) hquote
  rw [mapM_eq_some.mp h, List.mem_map] at hmem
  obtain ⟨evaluation, hevaluation, hsome⟩ := hmem
  exact ⟨evaluation, hevaluation, hsome.symm⟩

theorem evaluated_of_evaluable (h : Evaluable order quotes policy) :
    ∃ orderBreaches evaluated, evaluateOrder order policy = some orderBreaches ∧
      quotes.mapM (evaluateVenue order · policy) = some evaluated := by
  obtain ⟨orderBreaches, horder⟩ := Option.isSome_iff_exists.mp h.1
  exact ⟨orderBreaches, _, horder, mapM_eq_filterMap h.2⟩

theorem evaluable_of_plan {outcome : RoutingOutcome}
    (h : plan order quotes policy proposedBy proposalId = some outcome) :
    isNullOrWhiteSpace (some proposedBy) = false ∧ Evaluable order quotes policy := by
  unfold plan at h
  split at h
  · cases h
  rename_i hidentity
  obtain ⟨evaluated, hevaluated, h⟩ := Option.bind_eq_some_iff.mp h
  obtain ⟨orderBreaches, horder, h⟩ := Option.bind_eq_some_iff.mp h
  refine ⟨Bool.eq_false_iff.mpr hidentity, by rw [horder]; rfl, ?_⟩
  intro quote hquote
  obtain ⟨evaluation, _, hevaluation⟩ := evaluation_of_mem hevaluated hquote
  rw [hevaluation]
  rfl

theorem plan_order_breached (hidentity : isNullOrWhiteSpace (some proposedBy) = false)
    (hevaluated : quotes.mapM (evaluateVenue order · policy) = some evaluated)
    (horder : evaluateOrder order policy = some orderBreaches) (hbreached : orderBreaches ≠ []) :
    plan order quotes policy proposedBy proposalId =
      some (.halted orderBreaches (StableSort.sortBy costKey evaluated)) := by
  unfold plan
  rw [if_neg (Bool.eq_false_iff.mp hidentity), hevaluated, horder]
  exact if_pos hbreached

theorem plan_no_venue (hidentity : isNullOrWhiteSpace (some proposedBy) = false)
    (hevaluated : quotes.mapM (evaluateVenue order · policy) = some evaluated)
    (horder : evaluateOrder order policy = some [])
    (hnone : ∀ evaluation ∈ evaluated, evaluation.breaches ≠ []) :
    plan order quotes policy proposedBy proposalId =
      some (.halted ((StableSort.sortBy costKey evaluated).flatMap (·.breaches))
        (StableSort.sortBy costKey evaluated)) := by
  have heligible : (StableSort.sortBy costKey evaluated).filter (·.isEligible) = [] := by
    rw [List.filter_eq_nil_iff]
    intro evaluation hmem
    have hbreached := hnone evaluation ((StableSort.sortBy_perm _).mem_iff.mp hmem)
    simpa [VenueEvaluation.isEligible] using hbreached
  unfold plan
  rw [if_neg (Bool.eq_false_iff.mp hidentity), hevaluated, horder]
  simp only [Option.bind_eq_bind, Option.bind_some, heligible]
  rfl

theorem preferred_iff {winner other : VenueEvaluation} :
    Preferred winner other ↔ costKey winner ≤ costKey other := by
  rw [Prod.Lex.le_iff]
  rfl

theorem plan_selected (proposalId : Option Text)
    (hidentity : isNullOrWhiteSpace (some proposedBy) = false)
    (hevaluated : quotes.mapM (evaluateVenue order · policy) = some evaluated)
    (horder : evaluateOrder order policy = some [])
    (hsome : ∃ evaluation ∈ evaluated, evaluation.breaches = []) :
    ∃ proposal winner, plan order quotes policy proposedBy proposalId =
        some (.proposed proposal (StableSort.sortBy costKey evaluated)) ∧
      (StableSort.sortBy costKey evaluated).find? (·.isEligible) = some winner ∧
      Winner order quotes policy proposal winner := by
  have heligible {evaluation : VenueEvaluation} : evaluation.isEligible = true ↔
      evaluation.breaches = [] := List.isEmpty_iff
  obtain ⟨evaluation, hevaluation, hbreaches⟩ := hsome
  cases hlist : (StableSort.sortBy costKey evaluated).filter (·.isEligible) with
  | nil =>
    have hmem : evaluation ∈ StableSort.sortBy costKey evaluated :=
      (StableSort.sortBy_perm evaluated).mem_iff.mpr hevaluation
    exact absurd (heligible.mpr hbreaches) (List.filter_eq_nil_iff.mp hlist evaluation hmem)
  | cons winner others =>
    have hhead : ((StableSort.sortBy costKey evaluated).filter (·.isEligible)).head? =
        some winner := by rw [hlist]; rfl
    obtain ⟨before, after, hsplit, hkeep, hbefore, hafter⟩ := StableSort.head?_filter_sortBy hhead
    have hwinner : BreachFree order quotes policy winner :=
      ⟨(mem_evaluated hevaluated).mp (by rw [hsplit]; simp), heligible.mp hkeep⟩
    obtain ⟨quote, _, hquote⟩ := hwinner.1
    obtain ⟨rationale, hrationale⟩ :=
      Option.isSome_iff_exists.mp (liquidityRationale_isSome (evaluateVenue_eq_some hquote))
    unfold plan
    rw [if_neg (Bool.eq_false_iff.mp hidentity), hevaluated, horder]
    simp only [Option.bind_eq_bind, Option.bind_some, hlist, hrationale]
    rw [List.head?_filter] at hhead
    refine ⟨_, winner, rfl, hhead, hwinner, rfl, rfl, ?_, before.map some, after.map some, ?_, ?_⟩
    · rintro other ⟨hother, hnone⟩
      have hmem := (mem_evaluated hevaluated).mpr hother
      rw [hsplit, List.mem_append, List.mem_cons] at hmem
      rw [preferred_iff]
      rcases hmem with hmem | rfl | hmem
      · exact (hbefore other hmem (heligible.mpr hnone)).le
      · exact le_rfl
      · exact hafter other hmem (heligible.mpr hnone)
    · rw [mapM_eq_some.mp hevaluated, hsplit, List.map_append, List.map_cons]
    · intro other hmem hnone
      obtain ⟨_, hother, ⟨⟩⟩ := List.mem_map.mp hmem
      rw [preferred_iff]
      exact not_le_of_gt (hbefore other hother (heligible.mpr hnone))

inductive Ended (order : OrderIntent) (quotes : List VenueQuote) (policy : BestExecutionPolicy) :
    RoutingOutcome → Prop
  | orderBreached {breaches : List PolicyBreach} {considered : List VenueEvaluation}
      (breached : evaluateOrder order policy = some breaches) (some : breaches ≠ []) :
      Ended order quotes policy (.halted breaches considered)
  | noVenue {considered : List VenueEvaluation} (passed : evaluateOrder order policy = some [])
      (none : ¬∃ evaluation, BreachFree order quotes policy evaluation) :
      Ended order quotes policy (.halted (considered.flatMap (·.breaches)) considered)
  | selected {proposal : RouteProposal} {considered : List VenueEvaluation}
      {winner : VenueEvaluation} (passed : evaluateOrder order policy = some [])
      (found : considered.find? (·.isEligible) = some winner)
      (won : Winner order quotes policy proposal winner) :
      Ended order quotes policy (.proposed proposal considered)

theorem plan_ended (proposalId : Option Text)
    (hidentity : isNullOrWhiteSpace (some proposedBy) = false)
    (hevaluable : Evaluable order quotes policy) :
    ∃ outcome, plan order quotes policy proposedBy proposalId = some outcome ∧
      Ended order quotes policy outcome ∧
      (outcome.considered.map some).Perm (quotes.map (evaluateVenue order · policy)) := by
  obtain ⟨orderBreaches, evaluated, horder, hevaluated⟩ := evaluated_of_evaluable hevaluable
  have hperm : ((StableSort.sortBy costKey evaluated).map some).Perm
      (quotes.map (evaluateVenue order · policy)) := by
    rw [mapM_eq_some.mp hevaluated]
    exact (StableSort.sortBy_perm _).map _
  by_cases hbreached : orderBreaches = []
  · subst hbreached
    by_cases hsome : ∃ evaluation ∈ evaluated, evaluation.breaches = []
    · obtain ⟨proposal, winner, hplan, hfound, hwinner⟩ :=
        plan_selected proposalId hidentity hevaluated horder hsome
      exact ⟨_, hplan, .selected horder hfound hwinner, hperm⟩
    · refine ⟨_, plan_no_venue hidentity hevaluated horder ?_, .noVenue horder ?_, hperm⟩
      · intro evaluation hmem hbreaches
        exact hsome ⟨evaluation, hmem, hbreaches⟩
      · rintro ⟨evaluation, hquote, hbreaches⟩
        exact hsome ⟨evaluation, (mem_evaluated hevaluated).mpr hquote, hbreaches⟩
  · exact ⟨_, plan_order_breached hidentity hevaluated horder hbreached,
      .orderBreached horder hbreached, hperm⟩

theorem plan_winner {proposal : RouteProposal} {considered : List VenueEvaluation}
    (h : plan order quotes policy proposedBy proposalId = some (.proposed proposal considered)) :
    evaluateOrder order policy = some [] ∧ ∃ winner,
      considered.find? (·.isEligible) = some winner ∧
        Winner order quotes policy proposal winner := by
  obtain ⟨hidentity, hevaluable⟩ := evaluable_of_plan h
  obtain ⟨outcome, hplan, hended, _⟩ := plan_ended proposalId hidentity hevaluable
  rw [h] at hplan
  cases hplan
  cases hended with
  | selected hpassed hfound hwinner => exact ⟨hpassed, _, hfound, hwinner⟩

theorem projectedCostUsd_le {proposal : RouteProposal} {winner : VenueEvaluation}
    (h : Winner order quotes policy proposal winner) (hquantity : 0 < order.quantity.toInt)
    (hmid : 0 < order.arrivalMidPrice.value) {evaluation : VenueEvaluation}
    (hevaluation : BreachFree order quotes policy evaluation) :
    proposal.cost.projectedCostUsd.value ≤ evaluation.cost.projectedCostUsd.value := by
  obtain ⟨quote, _, hwinner⟩ := h.eligible.1
  obtain ⟨quote', _, hother⟩ := hevaluation.1
  have htotal : winner.cost.totalCostBps.value ≤ evaluation.cost.totalCostBps.value := by
    rcases h.preferred evaluation hevaluation with hlt | ⟨heq, _⟩
    · exact hlt.le
    · exact heq.le
  rw [h.cost]
  exact projectedCostUsd_mono (evaluateVenue_eq_some hwinner).cost
    (evaluateVenue_eq_some hother).cost hquantity.le hmid.le htotal

theorem not_proposed {breaches : List PolicyBreach} {considered : List VenueEvaluation} :
    ¬∃ proposal considered',
      RoutingOutcome.halted breaches considered = .proposed proposal considered' := by
  rintro ⟨proposal, considered', h⟩
  cases h

theorem Ended.settled {outcome : RoutingOutcome} (hquotes : quotes ≠ [])
    (h : Ended order quotes policy outcome)
    (hconsidered : (outcome.considered.map some).Perm
      (quotes.map (evaluateVenue order · policy))) : Settled order quotes policy outcome := by
  cases h with
  | @orderBreached breaches considered hbreached hsome =>
    refine ⟨?_, fun _ _ h => (not_proposed ⟨_, _, h⟩).elim,
      fun _ _ h => (not_proposed ⟨_, _, h⟩).elim, hconsidered, ?_⟩
    · refine iff_of_false not_proposed fun hpassed => hsome ?_
      exact Option.some.inj (hbreached.symm.trans hpassed.1)
    · rintro _ _ ⟨⟩
      refine ⟨hsome, fun orderBreaches horder _ => ?_⟩
      exact Option.some.inj (hbreached.symm.trans horder)
  | @noVenue considered hpassed hnone =>
    refine ⟨iff_of_false not_proposed fun h => hnone h.2,
      fun _ _ h => (not_proposed ⟨_, _, h⟩).elim, fun _ _ h => (not_proposed ⟨_, _, h⟩).elim,
      hconsidered, ?_⟩
    rintro _ _ ⟨⟩
    refine ⟨?_, fun orderBreaches horder hbreached => ?_⟩
    · intro hempty
      -- Some quote was considered, and its evaluation is not without a breach.
      obtain ⟨quote, hquote⟩ := List.exists_mem_of_ne_nil quotes hquotes
      have hmem := hconsidered.mem_iff.mpr (List.mem_map_of_mem hquote)
      obtain ⟨evaluation, hevaluation, hsome⟩ := List.mem_map.mp hmem
      apply hnone ⟨evaluation, ⟨quote, hquote, hsome.symm⟩, ?_⟩
      exact List.flatMap_eq_nil_iff.mp hempty evaluation hevaluation
    · rw [hpassed] at horder
      exact absurd (Option.some.inj horder).symm hbreached
  | @selected proposal considered winner hpassed _ hwinner =>
    refine ⟨?_, ?_, ?_, hconsidered, nofun⟩
    · exact iff_of_true ⟨proposal, considered, rfl⟩ ⟨hpassed, winner, hwinner.eligible⟩
    · rintro _ _ ⟨⟩
      exact ⟨winner, hwinner⟩
    · rintro _ _ ⟨⟩ hquantity hmid evaluation hevaluation
      exact projectedCostUsd_le hwinner hquantity hmid hevaluation

/-- `Plan` comes to an outcome, and to the one that the breaches call for. -/
def Settles (order : OrderIntent) (quotes : List VenueQuote) (policy : BestExecutionPolicy)
    (proposedBy : Text) (proposalId : Option Text) : Prop :=
  ∃ outcome, plan order quotes policy proposedBy proposalId = some outcome ∧
    Settled order quotes policy outcome

/-- An order is settled as it should be exactly when no operation overflows. -/
theorem plan_settles_iff (proposalId : Option Text) (hquotes : quotes ≠ [])
    (hidentity : isNullOrWhiteSpace (some proposedBy) = false) :
    Settles order quotes policy proposedBy proposalId ↔ Evaluable order quotes policy := by
  constructor
  · rintro ⟨outcome, hplan, _⟩
    exact (evaluable_of_plan hplan).2
  · intro hevaluable
    obtain ⟨outcome, hplan, hended, hconsidered⟩ := plan_ended proposalId hidentity hevaluable
    exact ⟨outcome, hplan, hended.settled hquotes hconsidered⟩

end RoutePlanner

namespace Samples

open RoutePlanner

def buyOrder : OrderIntent where
  orderId := lit "ORD-1"
  correlationId := lit "corr-1"
  symbol := lit "ACME"
  side := .buy
  quantity := 1000
  limitPrice := .literal 101 0
  arrivalMidPrice := .literal 100 0

def litQuote (midPrice : Decimal) : VenueQuote where
  venueCode := lit "XLIT"
  type := .lit
  midPrice := midPrice
  spread := .literal 2 2
  displayedLiquidity := 100000
  feeBps := .zero

def fairQuote : VenueQuote := litQuote (.literal 100 0)

def hugeQuote : VenueQuote := litQuote .maxValue

theorem fairQuote_eligible : ∃ evaluation,
    evaluateVenue buyOrder fairQuote .default = some evaluation ∧ evaluation.breaches = [] := by
  have heligible : (evaluateVenue buyOrder fairQuote .default).map (·.isEligible) = some true := by
    decide +kernel
  obtain ⟨evaluation, hevaluation, hbreaches⟩ := Option.map_eq_some_iff.mp heligible
  exact ⟨evaluation, hevaluation, List.isEmpty_iff.mp hbreaches⟩

theorem buyOrder_passes : evaluateOrder buyOrder .default = some [] := by
  have hlength : (evaluateOrder buyOrder .default).map (·.length) = some 0 := by decide +kernel
  obtain ⟨breaches, hbreaches, hnone⟩ := Option.map_eq_some_iff.mp hlength
  rw [hbreaches, List.length_eq_zero_iff.mp hnone]

theorem hugeQuote_overflows : evaluateVenue buyOrder hugeQuote .default = none := by
  have hnone : (evaluateVenue buyOrder hugeQuote .default).isNone = true := by decide +kernel
  exact Option.isNone_iff_eq_none.mp hnone

def dearQuote : VenueQuote := { litQuote (.literal 103 0) with venueCode := lit "XPAC" }

def thinQuote : VenueQuote :=
  { litQuote (.literal 99 0) with venueCode := lit "XNOR", displayedLiquidity := 100 }

theorem fairQuote_settles :
    Settles buyOrder [dearQuote, thinQuote, fairQuote] .default (lit "alice") none := by
  apply (plan_settles_iff none (by simp) (by decide)).mpr
  refine ⟨by rw [buyOrder_passes]; rfl, ?_⟩
  have hall : [dearQuote, thinQuote, fairQuote].all
      (fun quote => (evaluateVenue buyOrder quote .default).isSome) = true := by decide +kernel
  exact fun quote hquote => List.all_eq_true.mp hall quote hquote

/-- The order passes and the first venue would do, but the second one makes `Plan` throw. -/
theorem hugeQuote_unsettled :
    evaluateOrder buyOrder .default = some [] ∧
      (∃ evaluation, BreachFree buyOrder [fairQuote, hugeQuote] .default evaluation) ∧
      plan buyOrder [fairQuote, hugeQuote] .default (lit "alice") none = none ∧
      ¬Settles buyOrder [fairQuote, hugeQuote] .default (lit "alice") none := by
  have hnone : plan buyOrder [fairQuote, hugeQuote] .default (lit "alice") none = none := by
    cases hplan : plan buyOrder [fairQuote, hugeQuote] .default (lit "alice") none with
    | none => rfl
    | some outcome =>
      have hsome := (evaluable_of_plan hplan).2.2 hugeQuote (by simp)
      rw [hugeQuote_overflows] at hsome
      cases hsome
  refine ⟨buyOrder_passes, ?_, hnone, ?_⟩
  · obtain ⟨evaluation, hevaluation, hbreaches⟩ := fairQuote_eligible
    exact ⟨evaluation, ⟨fairQuote, by simp, hevaluation⟩, hbreaches⟩
  · rintro ⟨outcome, hplan, _⟩
    rw [hnone] at hplan
    cases hplan

end Samples

end Fcmr.OrderRouting
