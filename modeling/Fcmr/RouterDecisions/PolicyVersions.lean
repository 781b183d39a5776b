import Fcmr.RouterDecisions.PolicyHistory

/-! What the store of policy sets has held under a key: the seed, and what its history tells.
A version tells which of them it was, until the counter comes round. -/
namespace Fcmr.RouterDecisions

open DotNet InMemoryPolicySetRepository

namespace InMemoryPolicySetRepository

def held (seed : List PolicySet) (repository : InMemoryPolicySetRepository) (k : Text) :
    List PolicySet :=
  (seed.reverse.find? fun set => key set.businessUnit set.id = k).toList ++
    ((repository.history.lookup k).getD []).map (·.policySet)

variable {seed : List PolicySet} {repository : InMemoryPolicySetRepository} {k : Text}

def versionBits (set : PolicySet) : ℕ := set.version.toBitVec.toNat

theorem versionBits_lt (set : PolicySet) : versionBits set < 2 ^ 32 := set.version.toBitVec.isLt

theorem versionBits_inj {set other : PolicySet} (h : set.version = other.version) :
    versionBits set = versionBits other := by
  rw [versionBits, h, versionBits]

theorem versionBits_applied {prior : PolicySet} {call : PolicySetCall}
    {result : PolicySetChangeResult} (h : Applied prior call result) :
    versionBits result.policySet = (versionBits prior + 1) % 2 ^ 32 := by
  rw [versionBits, h.version, Int32.toBitVec_add, BitVec.toNat_add]
  rfl

theorem Created.held_eq (h : Created seed repository) {prior : PolicySet}
    (hprior : repository.sets.lookup k = some prior) (calls : List PolicySetCall) :
    held seed (run repository calls) k =
      Journals.held (·.policySet) prior (accepted repository k calls) := by
  obtain ⟨_, hlog, _⟩ := h.run_lookup hprior calls
  unfold held Journals.held
  rw [hlog, ← h.sets, hprior, List.map_map]
  rfl

theorem Created.lookup_mem_held (h : Created seed repository) {calls : List PolicySetCall}
    {set : PolicySet} (hset : (run repository calls).sets.lookup k = some set) :
    set ∈ held seed (run repository calls) k := by
  rw [h.current_eq] at hset
  obtain ⟨prior, hprior, rfl⟩ := Option.map_eq_some_iff.mp hset
  rw [h.held_eq hprior]
  exact Journals.final_mem_held _ _ _

theorem Created.version_inj (h : Created seed repository) (calls : List PolicySetCall)
    (hlength : (((run repository calls).history.lookup k).getD []).length < 2 ^ 32)
    {set other : PolicySet} (hset : set ∈ held seed (run repository calls) k)
    (hother : other ∈ held seed (run repository calls) k) (hsame : set.version = other.version) :
    set = other := by
  cases hprior : repository.sets.lookup k with
  | none =>
    obtain ⟨_, hlog, _⟩ := h.run_lookup_none hprior calls
    rw [held, hlog, ← h.sets, hprior] at hset
    cases hset
  | some prior =>
    obtain ⟨_, hlog, hchain⟩ := h.run_lookup hprior calls
    rw [hlog, List.length_map] at hlength
    rw [h.held_eq hprior] at hset hother
    have hstamp (prior : PolicySet) (call : PolicySetCall) (result : PolicySetChangeResult)
        (happlied : Applied prior call result) :
        versionBits result.policySet = (versionBits prior + 1) % 2 ^ 32 :=
      versionBits_applied happlied
    exact hchain.stamp_inj hstamp (versionBits_lt prior) hlength hset hother
      (versionBits_inj hsame)

theorem history_grows (repository : InMemoryPolicySetRepository) (calls : List PolicySetCall) :
    (repository.history.lookup k).getD [] <+: ((run repository calls).history.lookup k).getD [] := by
  induction calls generalizing repository with
  | nil => exact List.prefix_rfl
  | cons call calls ih =>
    refine List.IsPrefix.trans ?_ (ih (updateAsync repository call.1 call.2).2)
    rcases updateAsync_cases repository call with ⟨_, hupdate, _⟩ | ⟨result, hupdate, _⟩
    · rw [hupdate]
    · rw [hupdate]
      by_cases hk : k = (address call).1
      · subst hk
        simp [AList.lookup_insert]
      · simp [AList.lookup_insert_ne hk]

theorem held_grows (seed : List PolicySet) (repository : InMemoryPolicySetRepository)
    (calls : List PolicySetCall) {set : PolicySet} (h : set ∈ held seed repository k) :
    set ∈ held seed (run repository calls) k := by
  unfold held at h ⊢
  rcases List.mem_append.mp h with hseed | hlog
  · exact List.mem_append_left _ hseed
  · exact List.mem_append_right _
      (List.map_subset _ (history_grows repository calls).subset hlog)

end InMemoryPolicySetRepository

end Fcmr.RouterDecisions
