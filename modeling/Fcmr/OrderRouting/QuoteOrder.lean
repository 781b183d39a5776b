import Fcmr.OrderRouting.Selection

/-! Whether the outcome depends on the order in which quotes arrive. The venue code breaks a
tie between venues; between two quotes of one venue nothing does. -/
namespace Fcmr.OrderRouting

open DotNet BestExecutionEvaluator

namespace RoutePlanner

variable {order : OrderIntent} {quotes quotes' : List VenueQuote} {policy : BestExecutionPolicy}
  {proposedBy : Text} {proposalId : Option Text} {evaluated evaluated' : List VenueEvaluation}

/-- Whatever the order of the quotes, the outcome is the same. -/
def QuoteOrderFree (order : OrderIntent) (quotes : List VenueQuote) (policy : BestExecutionPolicy)
    (proposedBy : Text) (proposalId : Option Text) : Prop :=
  ∀ quotes', quotes.Perm quotes' →
    plan order quotes' policy proposedBy proposalId = plan order quotes policy proposedBy proposalId

/-- Two quotes of one venue at one total cost are the same quote. -/
def TiesSettled (order : OrderIntent) (quotes : List VenueQuote) (policy : BestExecutionPolicy) :
    Prop :=
  ∀ quote ∈ quotes, ∀ quote' ∈ quotes, quote.venueCode = quote'.venueCode →
    (totalBps order quote policy).map (·.value) = (totalBps order quote' policy).map (·.value) →
      quote = quote'

theorem plan_congr (h : quotes.mapM (evaluateVenue order · policy) = some evaluated)
    (h' : quotes'.mapM (evaluateVenue order · policy) = some evaluated')
    (hsorted : StableSort.sortBy costKey evaluated' = StableSort.sortBy costKey evaluated) :
    plan order quotes' policy proposedBy proposalId =
      plan order quotes policy proposedBy proposalId := by
  unfold plan
  simp only [h, h', hsorted, Option.bind_eq_bind, Option.bind_some]

theorem plan_considered (h : quotes.mapM (evaluateVenue order · policy) = some evaluated)
    {outcome : RoutingOutcome}
    (hplan : plan order quotes policy proposedBy proposalId = some outcome) :
    outcome.considered = StableSort.sortBy costKey evaluated := by
  unfold plan at hplan
  split at hplan
  · cases hplan
  obtain ⟨evaluated', hevaluated, hplan⟩ := Option.bind_eq_some_iff.mp hplan
  obtain rfl := Option.some.inj (h.symm.trans hevaluated)
  obtain ⟨orderBreaches, _, hplan⟩ := Option.bind_eq_some_iff.mp hplan
  split at hplan
  · cases hplan
    rfl
  split at hplan
  · cases hplan
    rfl
  obtain ⟨liquidityRationale, _, hplan⟩ := Option.bind_eq_some_iff.mp hplan
  cases hplan
  rfl

theorem quotes_of_evaluated (h : quotes.mapM (evaluateVenue order · policy) = some evaluated) :
    evaluated.map (·.quote) = quotes ∧
      ∀ evaluation ∈ evaluated, evaluateVenue order evaluation.quote policy = some evaluation := by
  have hquote : ∀ evaluation ∈ evaluated,
      evaluateVenue order evaluation.quote policy = some evaluation := by
    intro evaluation hmem
    obtain ⟨quote, _, hquote⟩ := (mem_evaluated h).mp hmem
    rwa [(evaluateVenue_eq_some hquote).quote_eq]
  refine ⟨?_, hquote⟩
  have hmap := congrArg (List.map (Option.map (·.quote))) (mapM_eq_some.mp h)
  rw [List.map_map, List.map_map] at hmap
  apply List.map_injective_iff.mpr (Option.some_injective VenueQuote)
  rw [List.map_map]
  refine hmap.symm.trans (List.map_congr_left fun quote hmem => ?_)
  obtain ⟨evaluation, _, hsome⟩ := evaluation_of_mem h hmem
  rw [Function.comp_apply, hsome, Option.map_some, (evaluateVenue_eq_some hsome).quote_eq]

theorem evaluated_perm (h : quotes.mapM (evaluateVenue order · policy) = some evaluated)
    (hperm : quotes.Perm quotes') :
    ∃ evaluated', quotes'.mapM (evaluateVenue order · policy) = some evaluated' ∧
      evaluated.Perm evaluated' := by
  have hsome : ∀ quote ∈ quotes, (evaluateVenue order quote policy).isSome := by
    intro quote hquote
    obtain ⟨evaluation, _, hevaluation⟩ := evaluation_of_mem h hquote
    exact Option.isSome_of_eq_some hevaluation
  obtain rfl := Option.some.inj (h.symm.trans (mapM_eq_filterMap hsome))
  refine ⟨_, mapM_eq_filterMap fun quote hquote => ?_, hperm.filterMap _⟩
  exact hsome quote (hperm.mem_iff.mpr hquote)

theorem exists_quotes (h : quotes.mapM (evaluateVenue order · policy) = some evaluated)
    (hperm : evaluated.Perm evaluated') :
    ∃ quotes', quotes.Perm quotes' ∧
      quotes'.mapM (evaluateVenue order · policy) = some evaluated' := by
  obtain ⟨hquotes, heach⟩ := quotes_of_evaluated h
  refine ⟨evaluated'.map (·.quote), hquotes ▸ hperm.map _, ?_⟩
  rw [mapM_eq_some, List.map_map]
  apply List.map_congr_left
  intro evaluation hmem
  exact heach evaluation (hperm.mem_iff.mpr hmem)

theorem sorted_invariant_iff (evaluated : List VenueEvaluation) :
    (∀ evaluated', evaluated.Perm evaluated' →
      StableSort.sortBy costKey evaluated' = StableSort.sortBy costKey evaluated) ↔
    ∀ evaluation ∈ evaluated, ∀ evaluation' ∈ evaluated,
      costKey evaluation = costKey evaluation' → evaluation = evaluation' := by
  have hkey (evaluation : VenueEvaluation) : costKey (id evaluation) = costKey evaluation := rfl
  have hinvariant := StableSort.map_sortBy_invariant_iff costKey hkey evaluated
  simpa only [List.map_id, id_eq] using hinvariant

theorem tiesSettled_iff (h : quotes.mapM (evaluateVenue order · policy) = some evaluated) :
    TiesSettled order quotes policy ↔ ∀ evaluation ∈ evaluated, ∀ evaluation' ∈ evaluated,
      costKey evaluation = costKey evaluation' → evaluation = evaluation' := by
  obtain ⟨hquotes, heach⟩ := quotes_of_evaluated h
  have htotal {evaluation : VenueEvaluation} (hmem : evaluation ∈ evaluated) :
      totalBps order evaluation.quote policy = some evaluation.cost.totalCostBps :=
    (evaluateVenue_eq_some (heach evaluation hmem)).cost.totalBps
  have hkey (evaluation evaluation' : VenueEvaluation) : costKey evaluation = costKey evaluation' ↔
      evaluation.cost.totalCostBps.value = evaluation'.cost.totalCostBps.value ∧
        evaluation.quote.venueCode = evaluation'.quote.venueCode := by
    unfold costKey
    rw [EmbeddingLike.apply_eq_iff_eq, Prod.mk.injEq]
  constructor
  · intro hsettled evaluation hmem evaluation' hmem' hsame
    obtain ⟨hvalue, hvenue⟩ := (hkey evaluation evaluation').mp hsame
    have hquote := hsettled evaluation.quote (hquotes ▸ List.mem_map_of_mem hmem) evaluation'.quote
      (hquotes ▸ List.mem_map_of_mem hmem') hvenue
      (by rw [htotal hmem, htotal hmem', Option.map_some, Option.map_some, hvalue])
    have heq := heach evaluation hmem
    rw [hquote, heach evaluation' hmem'] at heq
    exact (Option.some.inj heq).symm
  · intro hties quote hquote quote' hquote' hvenue hsame
    obtain ⟨evaluation, hmem, rfl⟩ := List.mem_map.mp (hquotes ▸ hquote)
    obtain ⟨evaluation', hmem', rfl⟩ := List.mem_map.mp (hquotes ▸ hquote')
    rw [htotal hmem, htotal hmem', Option.map_some, Option.map_some] at hsame
    rw [hties evaluation hmem evaluation' hmem'
      ((hkey evaluation evaluation').mpr ⟨Option.some.inj hsame, hvenue⟩)]

theorem evaluable_perm (hperm : quotes.Perm quotes') (h : Evaluable order quotes' policy) :
    Evaluable order quotes policy :=
  ⟨h.1, fun quote hquote => h.2 quote (hperm.mem_iff.mp hquote)⟩

/-- Where there is an outcome, quotes may arrive in any order exactly when all ties are between
copies of one quote. -/
theorem quoteOrderFree_iff (order : OrderIntent) (quotes : List VenueQuote)
    (policy : BestExecutionPolicy) (proposedBy : Text) (proposalId : Option Text) :
    QuoteOrderFree order quotes policy proposedBy proposalId ↔
      (isNullOrWhiteSpace (some proposedBy) = false → Evaluable order quotes policy →
        TiesSettled order quotes policy) := by
  constructor
  · intro hfree hidentity hevaluable
    obtain ⟨_, evaluated, _, hevaluated⟩ := evaluated_of_evaluable hevaluable
    obtain ⟨outcome, hplan, _⟩ := plan_ended proposalId hidentity hevaluable
    rw [tiesSettled_iff hevaluated, ← sorted_invariant_iff]
    intro evaluated' hperm
    obtain ⟨quotes', hquotes, hevaluated'⟩ := exists_quotes hevaluated hperm
    rw [← plan_considered hevaluated hplan, ← plan_considered hevaluated'
      ((hfree quotes' hquotes).trans hplan)]
  · intro hsettled quotes' hperm
    by_cases houtcome : isNullOrWhiteSpace (some proposedBy) = false ∧
        Evaluable order quotes policy
    · obtain ⟨_, evaluated, _, hevaluated⟩ := evaluated_of_evaluable houtcome.2
      obtain ⟨evaluated', hevaluated', hperm'⟩ := evaluated_perm hevaluated hperm
      have hties := (tiesSettled_iff hevaluated).mp (hsettled houtcome.1 houtcome.2)
      exact plan_congr hevaluated hevaluated' ((sorted_invariant_iff evaluated).mpr hties _ hperm')
    · -- Nothing is planned for either order.
      have hnone {quotes' : List VenueQuote} (hperm : quotes.Perm quotes') :
          plan order quotes' policy proposedBy proposalId = none := by
        rw [Option.eq_none_iff_forall_ne_some]
        intro outcome hplan
        obtain ⟨hidentity, hevaluable⟩ := evaluable_of_plan hplan
        exact houtcome ⟨hidentity, evaluable_perm hperm hevaluable⟩
      rw [hnone hperm, hnone (List.Perm.refl quotes)]

end RoutePlanner

namespace Samples

open RoutePlanner

def deepQuote : VenueQuote := fairQuote

def shallowQuote : VenueQuote :=
  { fairQuote with spread := .literal 1 2, displayedLiquidity := 50000 }

/-- The first one wins, and with it its liquidity and its costs. -/
theorem quotes_ordered :
    ¬QuoteOrderFree buyOrder [deepQuote, shallowQuote] .default (lit "alice") none := by
  intro hfree
  have hsame := hfree [shallowQuote, deepQuote] (List.Perm.swap ..)
  have hdeep : (plan buyOrder [deepQuote, shallowQuote] .default (lit "alice") none).map
      (fun outcome => outcome.considered.map (·.quote.displayedLiquidity)) =
        some [100000, 50000] := by
    decide +kernel
  have hshallow : (plan buyOrder [shallowQuote, deepQuote] .default (lit "alice") none).map
      (fun outcome => outcome.considered.map (·.quote.displayedLiquidity)) =
        some [50000, 100000] := by
    decide +kernel
  rw [hsame, hdeep] at hshallow
  exact absurd hshallow (by decide)

end Samples

end Fcmr.OrderRouting
