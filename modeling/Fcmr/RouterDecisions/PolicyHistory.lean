import Fcmr.RouterDecisions.PolicySetRepository

/-! No update is lost: the store is a journal with one cell for each key, and what it accepts
under a key is a chain of changes from the seed. -/
namespace Fcmr.RouterDecisions

open DotNet InMemoryPolicySetRepository

/-- What calls accept for the sets under one key, as the store answers them. -/
def accepted : InMemoryPolicySetRepository → Text → List PolicySetCall →
    List (PolicySetCall × PolicySetChangeResult)
  | _, _, [] => []
  | repository, k, call :: calls =>
    ((updateAsync repository call.1 call.2).1.toOption.toList.filter
        fun _ => key call.1.businessUnit call.1.id = k).map (call, ·) ++
      accepted (updateAsync repository call.1 call.2).2 k calls

namespace InMemoryPolicySetRepository

def journal (repository : InMemoryPolicySetRepository) :
    Journals.Journal Text PolicySet PolicySetChangeResult where
  cell := fun k => repository.sets.lookup k
  log := fun k => (repository.history.lookup k).getD []

def address (call : PolicySetCall) : Text × PolicySetCall :=
  (key call.1.businessUnit call.1.id, call)

variable {repository : InMemoryPolicySetRepository}

theorem updateAsync_cases (repository : InMemoryPolicySetRepository) (call : PolicySetCall) :
    (∃ error, updateAsync repository call.1 call.2 = (.error error, repository) ∧
      Journals.answer rule (journal repository) (address call) = none) ∨
    ∃ result, updateAsync repository call.1 call.2 = (.ok result,
        { sets := repository.sets.insert (address call).1 result.policySet
          history := repository.history.insert (address call).1
            ((repository.history.lookup (address call).1).getD [] ++ [result]) }) ∧
      Journals.answer rule (journal repository) (address call) = some result := by
  unfold updateAsync Journals.answer
  dsimp only [journal, address, rule]
  cases repository.sets.lookup (key call.1.businessUnit call.1.id) with
  | none => exact .inl ⟨_, rfl, rfl⟩
  | some current =>
    dsimp only [Option.bind_some]
    by_cases hversion : current.version = call.1.expectedVersion
    · rw [if_neg (not_not.mpr hversion)]
      cases hvalidate : PolicySetValidator.validate (proposed current call.1 call.2) with
      | some error => exact .inl ⟨_, rfl, if_neg fun h => absurd h.2 (Option.some_ne_none _)⟩
      | none => exact .inr ⟨_, rfl, if_pos ⟨hversion, rfl⟩⟩
    · rw [if_pos hversion]
      exact .inl ⟨_, rfl, if_neg fun h => hversion h.1⟩

theorem journal_next (repository : InMemoryPolicySetRepository) (call : PolicySetCall) :
    journal (updateAsync repository call.1 call.2).2 =
      Machines.next (Journals.step rule) (journal repository) (address call) := by
  rcases updateAsync_cases repository call with ⟨error, hupdate, hanswer⟩ | ⟨result, hupdate, hanswer⟩
  · rw [hupdate, Journals.next_of_refused hanswer]
  · rw [hupdate, Journals.next_of_answer hanswer]
    unfold journal Journals.Journal.record
    congr 1
    · funext k
      by_cases hk : k = (address call).1
      · subst hk
        rw [AList.lookup_insert, Function.update_self]
        rfl
      · rw [AList.lookup_insert_ne hk, Function.update_of_ne hk]
    · funext k
      by_cases hk : k = (address call).1
      · subst hk
        rw [AList.lookup_insert, Function.update_self]
        rfl
      · rw [AList.lookup_insert_ne hk, Function.update_of_ne hk]

theorem answer_eq (repository : InMemoryPolicySetRepository) (call : PolicySetCall) :
    Journals.answer rule (journal repository) (address call) =
      (updateAsync repository call.1 call.2).1.toOption := by
  rcases updateAsync_cases repository call with ⟨error, hupdate, hanswer⟩ | ⟨result, hupdate, hanswer⟩
  · rw [hupdate, hanswer]
    rfl
  · rw [hupdate, hanswer]
    rfl

theorem journal_run (repository : InMemoryPolicySetRepository) (calls : List PolicySetCall) :
    journal (run repository calls) =
      Machines.run (Journals.step rule) (journal repository) (calls.map address) := by
  induction calls generalizing repository with
  | nil => rfl
  | cons call calls ih =>
    rw [List.map_cons, Machines.run_cons, ← journal_next]
    exact ih _

theorem accepted_eq (repository : InMemoryPolicySetRepository) (k : Text)
    (calls : List PolicySetCall) : accepted repository k calls =
      Journals.accepted rule (journal repository) k (calls.map address) := by
  induction calls generalizing repository with
  | nil => rfl
  | cons call calls ih =>
    rw [accepted, ih, List.map_cons, Journals.accepted, answer_eq, journal_next]
    rfl

theorem version_succ {version : Int32} (h : version.toInt < 2 ^ 31 - 1) :
    (version + 1).toInt = version.toInt + 1 := by
  have hlow := version.le_toInt
  have hone : (1 : Int32).toInt = 1 := rfl
  rw [Int32.toInt_add, hone]
  exact Int.bmod_eq_of_le (by omega) (by omega)

theorem applied_of_accept {current : PolicySet} {call : PolicySetCall}
    {result : PolicySetChangeResult} (h : rule.accept current call = some result) :
    Applied current call result := by
  simp only [rule] at h
  split at h
  · rename_i haccept
    cases h
    exact {
      expected := haccept.1
      id := rfl
      businessUnit := rfl
      displayName := rfl
      approvedVendors := rfl
      maxClassification := rfl
      allowedRegions := rfl
      maxCostPerRequestUsd := rfl
      permitsRestrictedData := rfl
      version := rfl
      consecutive := version_succ
      updatedBy := rfl
      updatedAt := rfl
      changed := rfl
      effectiveFrom := rfl
      valid := PolicySetValidator.validate_eq_none.mp haccept.2 }
  · cases h

theorem lookup_seeds (seed : List PolicySet) (repository : InMemoryPolicySetRepository) (k : Text) :
    (seed.foldl seedSet repository).sets.lookup k =
      (seed.reverse.find? fun set => key set.businessUnit set.id = k).or
        (repository.sets.lookup k) := by
  induction seed generalizing repository with
  | nil => rfl
  | cons set seed ih =>
    rw [List.foldl_cons, ih, List.reverse_cons, List.find?_append, Option.or_assoc]
    congr 1
    by_cases hk : key set.businessUnit set.id = k
    · subst hk
      simp [seedSet, AList.lookup_insert]
    · simp [seedSet, AList.lookup_insert_ne (Ne.symm hk), hk]

theorem history_seeds (seed : List PolicySet) (repository : InMemoryPolicySetRepository) :
    (seed.foldl seedSet repository).history = repository.history := by
  induction seed generalizing repository with
  | nil => rfl
  | cons set seed ih => exact ih _

structure Created (seed : List PolicySet) (repository : InMemoryPolicySetRepository) : Prop where
  sets : ∀ k, repository.sets.lookup k =
    seed.reverse.find? fun set => key set.businessUnit set.id = k
  history : ∀ k, repository.history.lookup k = none
  valid : ∀ set ∈ seed, set.Valid

variable {seed : List PolicySet}

theorem create_of_valid (h : ∀ set ∈ seed, PolicySetValidator.validate set = none) :
    ∃ repository, create seed = .ok repository := by
  unfold create
  rw [List.findSome?_eq_none_iff.mpr h]
  exact ⟨_, rfl⟩

theorem created_of_create (h : create seed = .ok repository) : Created seed repository := by
  unfold create at h
  split at h
  · cases h
  · rename_i hvalid
    cases h
    refine ⟨fun k => ?_, fun k => ?_, fun set hset => ?_⟩
    · rw [lookup_seeds, AList.lookup_empty, Option.or_none]
    · rw [history_seeds]
      exact AList.lookup_empty k
    · exact PolicySetValidator.validate_eq_none.mp (List.findSome?_eq_none_iff.mp hvalid set hset)

theorem Created.cell_valid (h : Created seed repository) {k : Text} {set : PolicySet}
    (hset : repository.sets.lookup k = some set) : set.Valid := by
  rw [h.sets] at hset
  exact h.valid set (List.mem_reverse.mp (List.mem_of_find?_eq_some hset))

theorem Created.run_lookup (h : Created seed repository) {k : Text} {prior : PolicySet}
    (hprior : repository.sets.lookup k = some prior) (calls : List PolicySetCall) :
    (run repository calls).sets.lookup k =
        some (Journals.final (·.policySet) prior (accepted repository k calls)) ∧
      ((run repository calls).history.lookup k).getD [] =
        (accepted repository k calls).map (·.2) ∧
      Journals.Chain Applied (·.policySet) prior (accepted repository k calls) := by
  have hcell : (journal repository).cell k = some prior := hprior
  have hlog : (journal repository).log k = [] := by
    change (repository.history.lookup k).getD [] = []
    rw [h.history]
    rfl
  obtain ⟨hfinal, hgrown, hchain⟩ := Journals.run_cell rule hcell (calls.map address)
  rw [← journal_run, ← accepted_eq] at hfinal hgrown
  rw [← accepted_eq] at hchain
  rw [hlog, List.nil_append] at hgrown
  exact ⟨hfinal, hgrown, hchain.imp fun _ _ _ => applied_of_accept⟩

theorem Created.run_lookup_none (h : Created seed repository) {k : Text}
    (hnone : repository.sets.lookup k = none) (calls : List PolicySetCall) :
    (run repository calls).sets.lookup k = none ∧
      ((run repository calls).history.lookup k).getD [] = [] ∧
      accepted repository k calls = [] := by
  have hcell : (journal repository).cell k = none := hnone
  obtain ⟨hempty, hlog, haccepted⟩ := Journals.run_empty rule hcell (calls.map address)
  rw [← journal_run] at hempty hlog
  rw [← accepted_eq] at haccepted
  refine ⟨hempty, ?_, haccepted⟩
  change (journal (run repository calls)).log k = []
  rw [hlog]
  change (repository.history.lookup k).getD [] = []
  rw [h.history]
  rfl

end InMemoryPolicySetRepository

/-- What holds of the store after any calls, in whatever order the approvers make them. -/
structure NoLostUpdate (seed : List PolicySet) (repository : InMemoryPolicySetRepository)
    (calls : List PolicySetCall) : Prop where
  seeded : ∀ businessUnit id, getAsync repository businessUnit id =
    seed.reverse.find? fun set => key set.businessUnit set.id = key businessUnit id
  chain : ∀ businessUnit id prior, getAsync repository businessUnit id = some prior →
    Journals.Chain Applied (·.policySet) prior (accepted repository (key businessUnit id) calls)
  unknown : ∀ businessUnit id, getAsync repository businessUnit id = none →
    accepted repository (key businessUnit id) calls = []
  current : ∀ businessUnit id, getAsync (run repository calls) businessUnit id =
    (getAsync repository businessUnit id).map fun prior =>
      Journals.final (·.policySet) prior (accepted repository (key businessUnit id) calls)
  history : ∀ businessUnit id take, historyAsync (run repository calls) businessUnit id take =
    ((accepted repository (key businessUnit id) calls).map (·.2)).reverse.take take.toInt.toNat
  head : ∀ businessUnit id take result,
    (historyAsync (run repository calls) businessUnit id take).head? = some result →
      getAsync (run repository calls) businessUnit id = some result.policySet
  rejected : ∀ update now error,
    (updateAsync (run repository calls) update now).1 = .error error →
      (updateAsync (run repository calls) update now).2 = run repository calls
  valid : ∀ k set, (run repository calls).sets.lookup k = some set →
    PolicySetValidator.validate set = none

theorem updateAsync_rejected (repository : InMemoryPolicySetRepository) {update : PolicySetUpdate}
    {now : DateTimeOffset} {error : PolicySetUpdateError}
    (h : (updateAsync repository update now).1 = .error error) :
    (updateAsync repository update now).2 = repository := by
  rcases updateAsync_cases repository (update, now) with ⟨_, hupdate, _⟩ | ⟨result, hupdate, _⟩
  · rw [hupdate]
  · rw [hupdate] at h
    cases h

theorem final_of_head {content : PolicySetChangeResult → PolicySet} {prior : PolicySet}
    {changes : List (PolicySetCall × PolicySetChangeResult)} {n : Nat}
    {result : PolicySetChangeResult}
    (h : ((changes.map (·.2)).reverse.take n).head? = some result) :
    Journals.final content prior changes = content result := by
  rw [List.head?_take] at h
  split at h
  · cases h
  · rw [List.head?_reverse, List.getLast?_map] at h
    obtain ⟨change, hlast, rfl⟩ := Option.map_eq_some_iff.mp h
    rw [Journals.final, hlast]
    rfl

namespace InMemoryPolicySetRepository

variable {seed : List PolicySet} {repository : InMemoryPolicySetRepository}

theorem Created.current_eq (h : Created seed repository) (k : Text) (calls : List PolicySetCall) :
    (run repository calls).sets.lookup k = (repository.sets.lookup k).map fun prior =>
      Journals.final (·.policySet) prior (accepted repository k calls) := by
  cases hprior : repository.sets.lookup k with
  | none => exact (h.run_lookup_none hprior calls).1
  | some prior => exact (h.run_lookup hprior calls).1

theorem Created.log_eq (h : Created seed repository) (k : Text) (calls : List PolicySetCall) :
    ((run repository calls).history.lookup k).getD [] = (accepted repository k calls).map (·.2) := by
  cases hprior : repository.sets.lookup k with
  | none =>
    obtain ⟨_, hlog, haccepted⟩ := h.run_lookup_none hprior calls
    rw [hlog, haccepted, List.map_nil]
  | some prior => exact (h.run_lookup hprior calls).2.1

theorem Created.head_current (h : Created seed repository) {k : Text} {calls : List PolicySetCall}
    {n : Nat} {result : PolicySetChangeResult}
    (hhead : (((accepted repository k calls).map (·.2)).reverse.take n).head? = some result) :
    (run repository calls).sets.lookup k = some result.policySet := by
  rw [h.current_eq]
  cases hprior : repository.sets.lookup k with
  | none =>
    rw [(h.run_lookup_none hprior calls).2.2] at hhead
    simp at hhead
  | some prior => exact congrArg some (final_of_head hhead)

theorem Created.run_valid (h : Created seed repository) {k : Text} {calls : List PolicySetCall}
    {set : PolicySet} (hset : (run repository calls).sets.lookup k = some set) : set.Valid := by
  rw [h.current_eq] at hset
  obtain ⟨prior, hprior, rfl⟩ := Option.map_eq_some_iff.mp hset
  exact (h.run_lookup hprior calls).2.2.final_invariant
    (fun _ _ _ _ happlied => happlied.valid) (h.cell_valid hprior)

end InMemoryPolicySetRepository

theorem no_lost_update {seed : List PolicySet}
    (h : ∀ set ∈ seed, PolicySetValidator.validate set = none) :
    ∃ repository, create seed = .ok repository ∧
      ∀ calls, NoLostUpdate seed repository calls := by
  obtain ⟨repository, hcreate⟩ := create_of_valid h
  have hcreated := created_of_create hcreate
  refine ⟨repository, hcreate, fun calls => ?_⟩
  exact {
    seeded := fun _ _ => hcreated.sets _
    chain := fun _ _ _ hprior => (hcreated.run_lookup hprior calls).2.2
    unknown := fun _ _ hnone => (hcreated.run_lookup_none hnone calls).2.2
    current := fun _ _ => hcreated.current_eq _ calls
    history := fun _ _ take =>
      congrArg (fun log => log.reverse.take take.toInt.toNat) (hcreated.log_eq _ calls)
    head := by
      intro businessUnit id take result hhead
      unfold historyAsync at hhead
      rw [hcreated.log_eq] at hhead
      exact hcreated.head_current hhead
    rejected := fun _ _ _ => updateAsync_rejected _
    valid := fun _ _ hset => PolicySetValidator.validate_eq_none.mpr (hcreated.run_valid hset) }

namespace Samples

theorem validate_of_one_vendor {set : PolicySet} (happroved : set.approvedVendors = {.anthropic})
    (hlimit : set.maxClassification = AList.singleton .anthropic .confidential)
    (hpermits : set.permitsRestrictedData = false) : PolicySetValidator.validate set = none := by
  rw [PolicySetValidator.validate_eq_none]
  refine ⟨fun vendor => ?_, fun h => nomatch hpermits.symm.trans h⟩
  rw [happroved, hlimit]
  cases vendor <;> decide

theorem regional_no_lost_update : ∃ repository,
    create [regional ∅ (.literal 4 3)] = .ok repository ∧
      ∀ calls, NoLostUpdate [regional ∅ (.literal 4 3)] repository calls :=
  no_lost_update (List.forall_mem_singleton.mpr (validate_of_one_vendor rfl rfl rfl))

end Samples

end Fcmr.RouterDecisions
