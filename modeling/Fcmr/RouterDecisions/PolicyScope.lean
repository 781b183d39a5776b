import Fcmr.RouterDecisions.PolicyHistory

/-! Whether the sets of one business unit are out of reach of another. A key is the business
unit and the id with a slash between them, so it depends on where else a slash occurs. -/
namespace Fcmr.RouterDecisions

open DotNet InMemoryPolicySetRepository

/-- What is asked for under one pair is that pair's own, and an update for another pair never
changes it. Of the listing of a shared business unit this is the part with the pair's id. -/
structure Scoped (repository : InMemoryPolicySetRepository) : Prop where
  own : ∀ businessUnit id set, getAsync repository businessUnit id = some set →
    set.businessUnit = businessUnit ∧ set.id = id
  get : ∀ update now businessUnit id, (update.businessUnit, update.id) ≠ (businessUnit, id) →
    getAsync (updateAsync repository update now).2 businessUnit id =
      getAsync repository businessUnit id
  history : ∀ update now businessUnit id take,
    (update.businessUnit, update.id) ≠ (businessUnit, id) →
      historyAsync (updateAsync repository update now).2 businessUnit id take =
        historyAsync repository businessUnit id take
  list : ∀ update now businessUnit id, (update.businessUnit, update.id) ≠ (businessUnit, id) →
    (listAsync (updateAsync repository update now).2 businessUnit).filter (·.id = id) =
      (listAsync repository businessUnit).filter (·.id = id)
  otherUnit : ∀ update now businessUnit, update.businessUnit ≠ businessUnit →
    listAsync (updateAsync repository update now).2 businessUnit =
      listAsync repository businessUnit

/-- The slash between business unit and id is the only one. -/
structure Unslashed (set : PolicySet) : Prop where
  businessUnit : digit '/' ∉ set.businessUnit
  id : digit '/' ∉ set.id

namespace InMemoryPolicySetRepository

theorem key_eq (businessUnit id : Text) : key businessUnit id = businessUnit ++ digit '/' :: id := by
  rw [key, List.append_assoc]
  rfl

theorem key_unique {set : PolicySet} (h : Unslashed set) {businessUnit id : Text}
    (heq : key businessUnit id = key set.businessUnit set.id) :
    set.businessUnit = businessUnit ∧ set.id = id := by
  rw [key_eq, key_eq] at heq
  have hcount := congrArg (List.count (digit '/')) heq
  simp only [List.count_append, List.count_cons_self, List.count_eq_zero_of_not_mem h.businessUnit,
    List.count_eq_zero_of_not_mem h.id] at hcount
  have hnot : digit '/' ∉ businessUnit := List.count_eq_zero.mp (by omega)
  obtain ⟨hunit, hid⟩ := Codes.split_unique hnot h.businessUnit heq
  exact ⟨hunit.symm, hid.symm⟩

def Keyed (repository : InMemoryPolicySetRepository) : Prop :=
  ∀ k set, repository.sets.lookup k = some set →
    key set.businessUnit set.id = k ∧ Unslashed set

variable {seed : List PolicySet} {repository : InMemoryPolicySetRepository}

theorem Created.run_keyed (h : Created seed repository) (hseed : ∀ set ∈ seed, Unslashed set)
    (calls : List PolicySetCall) : Keyed (run repository calls) := by
  intro k set hset
  rw [h.current_eq] at hset
  obtain ⟨prior, hprior, rfl⟩ := Option.map_eq_some_iff.mp hset
  have hchain := (h.run_lookup hprior calls).2.2
  refine hchain.final_invariant (P := fun set => key set.businessUnit set.id = k ∧ Unslashed set)
    ?_ ?_
  · rintro current call result ⟨hkey, hunslashed⟩ happlied
    rw [happlied.businessUnit, happlied.id]
    exact ⟨hkey, happlied.businessUnit ▸ hunslashed.businessUnit, happlied.id ▸ hunslashed.id⟩
  · rw [h.sets] at hprior
    refine ⟨by simpa using List.find?_some hprior, ?_⟩
    exact hseed prior (List.mem_reverse.mp (List.mem_of_find?_eq_some hprior))

theorem Keyed.own (h : Keyed repository) {businessUnit id : Text} {set : PolicySet}
    (hset : getAsync repository businessUnit id = some set) :
    set.businessUnit = businessUnit ∧ set.id = id := by
  obtain ⟨hkey, hunslashed⟩ := h _ _ hset
  exact key_unique hunslashed hkey.symm

theorem lookup_of_answer {call : PolicySetCall} {result : PolicySetChangeResult}
    (h : Journals.answer rule (journal repository) (address call) = some result) :
    ∃ current, getAsync repository call.1.businessUnit call.1.id = some current ∧
      Applied current call result := by
  obtain ⟨current, hlookup, haccept⟩ := Option.bind_eq_some_iff.mp h
  exact ⟨current, hlookup, applied_of_accept haccept⟩

theorem Keyed.lookup_other (h : Keyed repository) (call : PolicySetCall) {businessUnit id : Text}
    (hne : (call.1.businessUnit, call.1.id) ≠ (businessUnit, id)) :
    (updateAsync repository call.1 call.2).2.sets.lookup (key businessUnit id) =
        repository.sets.lookup (key businessUnit id) ∧
      (updateAsync repository call.1 call.2).2.history.lookup (key businessUnit id) =
        repository.history.lookup (key businessUnit id) := by
  rcases updateAsync_cases repository call with ⟨error, hupdate, _⟩ | ⟨result, hupdate, hanswer⟩
  · rw [hupdate]
    exact ⟨rfl, rfl⟩
  · obtain ⟨current, hcurrent, _⟩ := lookup_of_answer hanswer
    have hkey : key businessUnit id ≠ (address call).1 := by
      intro heq
      obtain ⟨hunit, hid⟩ := h.own hcurrent
      have hother : getAsync repository businessUnit id = some current := by
        unfold getAsync
        rw [heq]
        exact hcurrent
      obtain ⟨hunit', hid'⟩ := h.own hother
      exact hne (Prod.ext (hunit.symm.trans hunit') (hid.symm.trans hid'))
    rw [hupdate]
    exact ⟨AList.lookup_insert_ne hkey, AList.lookup_insert_ne hkey⟩

theorem filter_listAsync (repository : InMemoryPolicySetRepository) (businessUnit id : Text) :
    (listAsync repository businessUnit).filter (·.id = id) =
      (repository.sets.entries.map (·.2)).filter fun set =>
        set.id = id && set.businessUnit = businessUnit := by
  unfold listAsync
  rw [← List.filter_filter]
  convert StableSort.filter_sortBy _ id

theorem filter_kerase {k : Text} {current : PolicySet} {p : PolicySet → Bool}
    {entries : List (Σ _ : Text, PolicySet)} (hlookup : entries.dlookup k = some current)
    (hcurrent : p current = false) :
    ((entries.kerase k).map (·.2)).filter p = (entries.map (·.2)).filter p := by
  induction entries with
  | nil => rfl
  | cons entry entries ih =>
    by_cases hk : k = entry.1
    · subst hk
      rw [List.dlookup_cons_eq] at hlookup
      cases hlookup
      rw [List.kerase_cons_eq rfl, List.map_cons, List.filter_cons_of_neg (by simp [hcurrent])]
    · rw [List.dlookup_cons_ne _ _ hk] at hlookup
      rw [List.kerase_cons_ne hk, List.map_cons, List.map_cons, List.filter_cons, List.filter_cons,
        ih hlookup]

theorem listed_other (call : PolicySetCall) {p : PolicySet → Bool}
    (hp : ∀ current, getAsync repository call.1.businessUnit call.1.id = some current →
      ∀ set, set.businessUnit = current.businessUnit → set.id = current.id → p set = false) :
    ((updateAsync repository call.1 call.2).2.sets.entries.map (·.2)).filter p =
      (repository.sets.entries.map (·.2)).filter p := by
  rcases updateAsync_cases repository call with ⟨error, hupdate, _⟩ | ⟨result, hupdate, hanswer⟩
  · rw [hupdate]
  · obtain ⟨current, hcurrent, happlied⟩ := lookup_of_answer hanswer
    have hresult := hp current hcurrent result.policySet happlied.businessUnit happlied.id
    rw [hupdate]
    dsimp only
    rw [AList.entries_insert, List.map_cons, List.filter_cons_of_neg (by simp [hresult])]
    exact filter_kerase hcurrent (hp current hcurrent current rfl rfl)

theorem Keyed.scoped (h : Keyed repository) : Scoped repository where
  own := fun _ _ _ => h.own
  get := fun update now _ _ hne => (h.lookup_other (update, now) hne).1
  history := by
    intro update now businessUnit id take hne
    unfold historyAsync
    rw [(h.lookup_other (update, now) hne).2]
  list := by
    intro update now businessUnit id hne
    rw [filter_listAsync, filter_listAsync]
    apply listed_other (update, now)
    intro current hcurrent set hunit hid
    obtain ⟨hunit', hid'⟩ := h.own hcurrent
    by_contra htrue
    simp only [Bool.not_eq_false, Bool.and_eq_true, decide_eq_true_eq] at htrue
    exact hne (Prod.ext (hunit'.symm.trans (hunit.symm.trans htrue.2))
      (hid'.symm.trans (hid.symm.trans htrue.1)))
  otherUnit := by
    intro update now businessUnit hne
    unfold listAsync
    rw [listed_other (update, now)]
    intro current hcurrent set hunit _
    obtain ⟨hunit', _⟩ := h.own hcurrent
    rw [hunit, hunit']
    exact decide_eq_false hne

theorem key_shared {set : PolicySet} (h : ¬Unslashed set) : ∃ businessUnit id,
    key businessUnit id = key set.businessUnit set.id ∧ businessUnit ≠ set.businessUnit := by
  by_cases hunit : digit '/' ∈ set.businessUnit
  · obtain ⟨before, after, hsplit⟩ := List.append_of_mem hunit
    refine ⟨before, after ++ digit '/' :: set.id, ?_, ?_⟩
    · rw [key_eq, key_eq, hsplit, List.append_assoc, List.cons_append]
    · rw [hsplit]
      simp
  · have hid : digit '/' ∈ set.id := by
      by_contra hid
      exact h ⟨hunit, hid⟩
    obtain ⟨before, after, hsplit⟩ := List.append_of_mem hid
    refine ⟨set.businessUnit ++ digit '/' :: before, after, ?_, ?_⟩
    · rw [key_eq, key_eq, hsplit, List.append_assoc, List.cons_append]
    · simp

theorem Created.unslashed_of_scoped (h : Created seed repository) (hscoped : Scoped repository)
    {set : PolicySet} (hset : set ∈ seed) : Unslashed set := by
  by_contra hslashed
  obtain ⟨businessUnit, id, hkey, hne⟩ := key_shared hslashed
  have hfound : (seed.reverse.find? fun other =>
      key other.businessUnit other.id = key set.businessUnit set.id).isSome = true := by
    rw [List.find?_isSome]
    exact ⟨set, List.mem_reverse.mpr hset, by simp⟩
  obtain ⟨stored, hstored⟩ := Option.isSome_iff_exists.mp hfound
  rw [← h.sets] at hstored
  obtain ⟨hunit, _⟩ := hscoped.own set.businessUnit set.id stored hstored
  rw [← hkey] at hstored
  obtain ⟨hunit', _⟩ := hscoped.own businessUnit id stored hstored
  exact hne (hunit'.symm.trans hunit)

end InMemoryPolicySetRepository

/-- Exactly when governance is scoped throughout: no seed has a slash of its own. -/
theorem scoped_iff {seed : List PolicySet} {repository : InMemoryPolicySetRepository}
    (h : create seed = .ok repository) :
    (∀ calls, Scoped (run repository calls)) ↔ ∀ set ∈ seed, Unslashed set := by
  have hcreated := created_of_create h
  constructor
  · intro hscoped set hset
    exact hcreated.unslashed_of_scoped (hscoped []) hset
  · intro hseed calls
    exact (hcreated.run_keyed hseed calls).scoped

namespace Samples

def desk (businessUnit id : Text) : PolicySet where
  id := id
  businessUnit := businessUnit
  approvedVendors := {.anthropic}
  maxClassification := AList.singleton .anthropic .confidential

theorem rates_scoped : ∃ repository, create [desk (lit "rates") (lit "eu")] = .ok repository ∧
    ∀ calls, Scoped (run repository calls) := by
  have hvalid : ∀ set ∈ [desk (lit "rates") (lit "eu")], PolicySetValidator.validate set = none :=
    List.forall_mem_singleton.mpr (validate_of_one_vendor rfl rfl rfl)
  obtain ⟨repository, hcreate⟩ := create_of_valid hvalid
  refine ⟨repository, hcreate, (scoped_iff hcreate).mpr (List.forall_mem_singleton.mpr ?_)⟩
  exact ⟨by decide, by decide⟩

/-- The set of business unit `rates/eu` is handed out to `rates`. -/
theorem rates_not_scoped : ∃ repository,
    create [desk (lit "rates/eu") (lit "swaps")] = .ok repository ∧
      getAsync repository (lit "rates") (lit "eu/swaps") =
        some (desk (lit "rates/eu") (lit "swaps")) ∧ ¬Scoped repository := by
  have hvalid : ∀ set ∈ [desk (lit "rates/eu") (lit "swaps")],
      PolicySetValidator.validate set = none :=
    List.forall_mem_singleton.mpr (validate_of_one_vendor rfl rfl rfl)
  obtain ⟨repository, hcreate⟩ := create_of_valid hvalid
  have hget : getAsync repository (lit "rates") (lit "eu/swaps") =
      some (desk (lit "rates/eu") (lit "swaps")) := by
    unfold getAsync
    rw [(created_of_create hcreate).sets]
    exact List.find?_cons_of_pos (by decide)
  refine ⟨repository, hcreate, hget, fun hscoped => ?_⟩
  exact absurd (hscoped.own _ _ _ hget).1 (by decide)

end Samples

end Fcmr.RouterDecisions
