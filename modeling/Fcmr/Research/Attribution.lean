import Fcmr.Research.AttributionGate

/-! Attribution or refusal: what the gate publishes, on which chunks, and why it withholds
the rest. -/
namespace Fcmr.Research

open DotNet AttributionGate

def ResearchClaim.cited (claim : ResearchClaim) : List Text := claim.citations.map (·.chunkId)

/-- The usable chunks among those cited, each once, in the order of their first citations. -/
structure Supports (retrieval : RetrievalResult) (quarantined cited : List Text)
    (supporting : List RetrievedChunk) : Prop where
  mem : ∀ chunk, chunk ∈ supporting ↔
    chunk ∈ retrieval.chunks ∧ chunk.chunkId ∉ quarantined ∧ chunk.chunkId ∈ cited
  order : supporting.Pairwise fun a b => cited.idxOf a.chunkId < cited.idxOf b.chunkId

/-- The reason is that of the first case that applies: nothing is cited, something cited is
not retrieved, everything cited is quarantined. -/
structure Explained (retrieval : RetrievalResult) (withheld : UnattributableClaim) : Prop where
  noCitation : withheld.reason = .noCitation ↔ withheld.claim.cited = []
  unresolvable : withheld.reason = .unresolvableCitation ↔
    ∃ chunkId ∈ withheld.claim.cited, retrieval.contains chunkId = false
  quarantined : withheld.reason = .quarantinedSource ↔ withheld.claim.cited ≠ [] ∧
    ∀ chunkId ∈ withheld.claim.cited, retrieval.contains chunkId = true
  ids : withheld.unresolvedChunkIds =
    withheld.claim.cited.filter fun chunkId => !retrieval.contains chunkId

/-- Some citation names a retrieved chunk that is not quarantined. -/
def grounded (retrieval : RetrievalResult) (quarantined : List Text) (claim : ResearchClaim) : Bool :=
  claim.cited.any fun chunkId => retrieval.contains chunkId && !quarantined.contains chunkId

/-- Every claim is published on its evidence or withheld with its reason. -/
structure Attributed (scan : RetrievedChunk → List InjectionDetection)
    (claims : List ResearchClaim) (retrieval : RetrievalResult) (policy : ResearchPolicy)
    (synthesis : AttributedSynthesis) : Prop where
  published : synthesis.claims.map (·.claim) =
    claims.filter (grounded retrieval synthesis.quarantinedChunkIds)
  withheld : synthesis.unattributableClaims.map (·.claim) =
    claims.filter fun claim => !grounded retrieval synthesis.quarantinedChunkIds claim
  supporting : ∀ attributed ∈ synthesis.claims, Supports retrieval synthesis.quarantinedChunkIds
    attributed.claim.cited attributed.supportingChunks
  explained : ∀ withheld ∈ synthesis.unattributableClaims, Explained retrieval withheld
  once : (synthesis.claims.map (·.claim) ++ synthesis.unattributableClaims.map (·.claim)).Perm claims
  quarantined : ∀ chunkId, chunkId ∈ synthesis.quarantinedChunkIds ↔
    policy.quarantineInjectedChunks = true ∧
      ∃ chunk ∈ retrieval.chunks, ∃ detection ∈ scan chunk, detection.chunkId = chunkId
  coverage : synthesis.coverage.totalClaims = claims.length ∧
    synthesis.coverage.attributedClaims = synthesis.claims.length

variable {retrieval : RetrievalResult} {quarantined : List Text}

theorem Supports.concat {cited : List Text} {supporting : List RetrievedChunk}
    (h : Supports retrieval quarantined cited supporting) {chunkId : Text}
    (hold : ∀ chunk ∈ retrieval.chunks, chunk.chunkId ∉ quarantined →
      chunk.chunkId = chunkId → chunkId ∈ cited) :
    Supports retrieval quarantined (cited ++ [chunkId]) supporting where
  mem chunk := by
    rw [h.mem]
    constructor
    · rintro ⟨hchunk, hclean, hcited⟩
      exact ⟨hchunk, hclean, List.mem_append_left _ hcited⟩
    · rintro ⟨hchunk, hclean, hcited⟩
      refine ⟨hchunk, hclean, ?_⟩
      rcases List.mem_append.mp hcited with hcited | hcited
      · exact hcited
      · have hsame := List.mem_singleton.mp hcited
        exact hsame ▸ hold chunk hchunk hclean hsame
  order := by
    refine h.order.imp_of_mem fun ha hb hlt => ?_
    rwa [List.idxOf_append_of_mem ((h.mem _).mp ha).2.2,
      List.idxOf_append_of_mem ((h.mem _).mp hb).2.2]

theorem Supports.concat_chunk {cited : List Text} {supporting : List RetrievedChunk}
    (h : Supports retrieval quarantined cited supporting) {chunk : RetrievedChunk}
    (hchunk : chunk ∈ retrieval.chunks) (hclean : chunk.chunkId ∉ quarantined)
    (hnew : chunk ∉ supporting) :
    Supports retrieval quarantined (cited ++ [chunk.chunkId]) (supporting ++ [chunk]) := by
  have hfresh : chunk.chunkId ∉ cited := fun hcited =>
    hnew ((h.mem chunk).mpr ⟨hchunk, hclean, hcited⟩)
  constructor
  · intro other
    rw [List.mem_append, List.mem_append, List.mem_singleton, List.mem_singleton, h.mem]
    constructor
    · rintro (⟨hother, hclean', hcited⟩ | rfl)
      · exact ⟨hother, hclean', .inl hcited⟩
      · exact ⟨hchunk, hclean, .inr rfl⟩
    · rintro ⟨hother, hclean', hcited | hsame⟩
      · exact .inl ⟨hother, hclean', hcited⟩
      · exact .inr (List.inj_on_of_nodup_map retrieval.distinct hother hchunk hsame)
  · rw [List.pairwise_append]
    refine ⟨h.order.imp_of_mem fun ha hb hlt => ?_, List.pairwise_singleton _ _, ?_⟩
    · rwa [List.idxOf_append_of_mem ((h.mem _).mp ha).2.2,
        List.idxOf_append_of_mem ((h.mem _).mp hb).2.2]
    · intro other hother last hlast
      rw [List.mem_singleton.mp hlast, List.idxOf_append_of_notMem hfresh,
        List.idxOf_append_of_mem ((h.mem _).mp hother).2.2]
      exact Nat.lt_add_right _ (List.idxOf_lt_length_iff.mpr ((h.mem _).mp hother).2.2)

namespace AttributionGate

structure Resolved (retrieval : RetrievalResult) (quarantined cited : List Text)
    (resolution : Resolution) : Prop where
  supporting : Supports retrieval quarantined cited resolution.supporting
  unresolved : resolution.unresolved = cited.filter fun chunkId => !retrieval.contains chunkId
  blocked : resolution.blockedByQuarantine = cited.any fun chunkId =>
    retrieval.contains chunkId && quarantined.contains chunkId

theorem Resolved.step {cited : List Text} {resolution : Resolution}
    (h : Resolved retrieval quarantined cited resolution) (citation : Citation) :
    Resolved retrieval quarantined (cited ++ [citation.chunkId])
      (resolveCitation retrieval quarantined resolution citation) := by
  unfold resolveCitation
  have hcontains := retrieval.contains_eq_isSome citation.chunkId
  cases hresolve : retrieval.resolve citation.chunkId with
  | none =>
    rw [hresolve] at hcontains
    refine ⟨h.supporting.concat ?_, ?_, ?_⟩
    · intro chunk hchunk _ hsame
      have hsome := RetrievalResult.resolve_eq_some.mpr ⟨hchunk, hsame⟩
      cases hresolve.symm.trans hsome
    · simp [h.unresolved, hcontains]
    · simp [h.blocked, hcontains]
  | some chunk =>
    obtain ⟨hchunk, hid⟩ := RetrievalResult.resolve_eq_some.mp hresolve
    rw [hresolve] at hcontains
    dsimp only
    split
    · rename_i hquarantined
      refine ⟨h.supporting.concat ?_, ?_, ?_⟩
      · intro other _ hclean hsame
        exact absurd (List.contains_iff_mem.mp hquarantined) (hsame ▸ hclean)
      · simp [h.unresolved, hcontains]
      · simp [hcontains, List.contains_iff_mem.mp hquarantined]
    rename_i hclean
    have hclean' : citation.chunkId ∉ quarantined := fun hmem =>
      hclean (List.contains_iff_mem.mpr hmem)
    split
    · rename_i hknown
      refine ⟨h.supporting.concat ?_, ?_, ?_⟩
      · intro other _ _ _
        obtain ⟨known, hknown, hsame⟩ := List.any_eq_true.mp hknown
        have hcited := ((h.supporting.mem known).mp hknown).2.2
        rwa [of_decide_eq_true hsame, hid] at hcited
      · simp [h.unresolved, hcontains]
      · simp [h.blocked, hclean']
    · rename_i hnew
      have hnew' : chunk ∉ resolution.supporting := fun hmem =>
        hnew (List.any_eq_true.mpr ⟨chunk, hmem, decide_eq_true rfl⟩)
      refine ⟨?_, ?_, ?_⟩
      · have hsupports := h.supporting.concat_chunk hchunk (hid ▸ hclean') hnew'
        rwa [hid] at hsupports
      · simp [h.unresolved, hcontains]
      · simp [h.blocked, hclean']

theorem resolveCitations_resolved (retrieval : RetrievalResult) (quarantined : List Text)
    (citations : List Citation) : Resolved retrieval quarantined (citations.map (·.chunkId))
      (resolveCitations retrieval quarantined citations) := by
  induction citations using List.reverseRecOn with
  | nil =>
    refine ⟨⟨?_, List.Pairwise.nil⟩, rfl, rfl⟩
    intro chunk
    simp [resolveCitations]
  | append_singleton citations citation ih =>
    rw [List.map_append, List.map_singleton]
    unfold resolveCitations
    rw [List.foldl_concat]
    exact ih.step citation

theorem grounded_iff {claim : ResearchClaim} {supporting : List RetrievedChunk}
    (h : Supports retrieval quarantined claim.cited supporting) :
    grounded retrieval quarantined claim = true ↔ supporting ≠ [] := by
  unfold grounded
  simp only [List.any_eq_true, Bool.and_eq_true, Bool.not_eq_true', List.contains_eq_mem,
    decide_eq_false_iff_not, RetrievalResult.contains_iff]
  constructor
  · rintro ⟨chunkId, hcited, ⟨chunk, hchunk, rfl⟩, hclean⟩
    exact List.ne_nil_of_mem ((h.mem chunk).mpr ⟨hchunk, hclean, hcited⟩)
  · intro hne
    obtain ⟨chunk, hmem⟩ := List.exists_mem_of_ne_nil _ hne
    obtain ⟨hchunk, hclean, hcited⟩ := (h.mem chunk).mp hmem
    exact ⟨chunk.chunkId, hcited, ⟨chunk, hchunk, rfl⟩, hclean⟩

theorem judge_cases (retrieval : RetrievalResult) (quarantined : List Text)
    (claim : ResearchClaim) :
    (∃ attributed, judge retrieval quarantined claim = .inl attributed ∧
      attributed.claim = claim ∧ grounded retrieval quarantined claim = true ∧
      Supports retrieval quarantined claim.cited attributed.supportingChunks) ∨
    ∃ withheld, judge retrieval quarantined claim = .inr withheld ∧
      withheld.claim = claim ∧ grounded retrieval quarantined claim = false ∧
      Explained retrieval withheld := by
  have hresolved := resolveCitations_resolved retrieval quarantined claim.citations
  have hgrounded := grounded_iff hresolved.supporting
  unfold judge
  split
  · rename_i hempty
    have hcited : claim.cited = [] := by
      rw [ResearchClaim.cited, List.isEmpty_iff.mp hempty, List.map_nil]
    refine .inr ⟨_, rfl, rfl, by simp [grounded, hcited], ?_⟩
    constructor <;> simp [hcited]
  rename_i hcitations
  have hcited : claim.cited ≠ [] := by
    simpa [ResearchClaim.cited, List.isEmpty_iff] using hcitations
  dsimp only
  split
  · rename_i hsupporting
    exact .inl ⟨_, rfl, rfl, hgrounded.mpr hsupporting, hresolved.supporting⟩
  rename_i hsupporting
  have hnot : grounded retrieval quarantined claim = false :=
    Bool.eq_false_of_not_eq_true (mt hgrounded.mp hsupporting)
  have hids := hresolved.unresolved
  split
  · rename_i hunresolved
    obtain ⟨chunkId, hmem⟩ := List.exists_mem_of_ne_nil _ hunresolved
    rw [hids, List.mem_filter, Bool.not_eq_true'] at hmem
    refine .inr ⟨_, rfl, rfl, hnot, ?_⟩
    constructor
    · simp [hcited]
    · simpa using ⟨chunkId, hmem⟩
    · simpa [hcited] using ⟨chunkId, hmem⟩
    · exact hids
  · rename_i hunresolved
    have hall : ∀ chunkId ∈ claim.cited, retrieval.contains chunkId = true := by
      rw [not_not.mp hunresolved] at hids
      intro chunkId hmem
      simpa using List.filter_eq_nil_iff.mp hids.symm chunkId hmem
    have hblocked : (resolveCitations retrieval quarantined
        claim.citations).blockedByQuarantine = true := by
      obtain ⟨chunkId, hmem⟩ := List.exists_mem_of_ne_nil _ hcited
      have hclean := List.any_eq_false.mp hnot chunkId hmem
      rw [hall chunkId hmem] at hclean
      rw [hresolved.blocked]
      exact List.any_eq_true.mpr ⟨chunkId, hmem, by simpa [hall chunkId hmem] using hclean⟩
    rw [if_pos hblocked]
    refine .inr ⟨_, rfl, rfl, hnot, ?_⟩
    constructor
    · simp [hcited]
    · simpa using hall
    · simpa [hcited] using hall
    · exact (List.filter_eq_nil_iff.mpr (by simpa using hall)).symm

theorem foldl_applyClaim (claims : List ResearchClaim) (published : List AttributedClaim)
    (withheld : List UnattributableClaim) :
    claims.foldl (applyClaim retrieval quarantined) (published, withheld) =
      (published ++ claims.filterMap fun claim => (judge retrieval quarantined claim).getLeft?,
        withheld ++ claims.filterMap fun claim =>
          (judge retrieval quarantined claim).getRight?) := by
  induction claims generalizing published withheld with
  | nil => simp
  | cons claim claims ih =>
    rw [List.foldl_cons]
    cases hjudge : judge retrieval quarantined claim with
    | inl attributed =>
      have hstep : applyClaim retrieval quarantined (published, withheld) claim =
          (published ++ [attributed], withheld) := by
        rw [applyClaim, hjudge]
      rw [hstep, ih]
      simp [hjudge]
    | inr refused =>
      have hstep : applyClaim retrieval quarantined (published, withheld) claim =
          (published, withheld ++ [refused]) := by
        rw [applyClaim, hjudge]
      rw [hstep, ih]
      simp [hjudge]

theorem published_claims (claims : List ResearchClaim) :
    (claims.filterMap fun claim => (judge retrieval quarantined claim).getLeft?).map (·.claim) =
      claims.filter (grounded retrieval quarantined) := by
  rw [List.map_filterMap, ← List.filterMap_eq_filter]
  apply List.filterMap_congr
  intro claim _
  rcases judge_cases retrieval quarantined claim with
    ⟨attributed, hjudge, hclaim, hgrounded, _⟩ | ⟨withheld, hjudge, _, hgrounded, _⟩
  · simp [hjudge, hclaim, hgrounded, Option.guard]
  · simp [hjudge, hgrounded, Option.guard]

theorem withheld_claims (claims : List ResearchClaim) :
    (claims.filterMap fun claim => (judge retrieval quarantined claim).getRight?).map (·.claim) =
      claims.filter fun claim => !grounded retrieval quarantined claim := by
  rw [List.map_filterMap, ← List.filterMap_eq_filter]
  apply List.filterMap_congr
  intro claim _
  rcases judge_cases retrieval quarantined claim with
    ⟨attributed, hjudge, _, hgrounded, _⟩ | ⟨withheld, hjudge, hclaim, hgrounded, _⟩
  · simp [hjudge, hgrounded, Option.guard]
  · simp [hjudge, hclaim, hgrounded, Option.guard]

theorem published_supports {claims : List ResearchClaim} {attributed : AttributedClaim}
    (h : attributed ∈ claims.filterMap fun claim =>
      (judge retrieval quarantined claim).getLeft?) :
    Supports retrieval quarantined attributed.claim.cited attributed.supportingChunks := by
  obtain ⟨claim, _, hleft⟩ := List.mem_filterMap.mp h
  rcases judge_cases retrieval quarantined claim with
    ⟨_, hjudge, hclaim, _, hsupports⟩ | ⟨_, hjudge, _⟩
  · rw [hjudge] at hleft
    cases hleft
    rwa [hclaim]
  · rw [hjudge] at hleft
    cases hleft

theorem withheld_explained {claims : List ResearchClaim} {withheld : UnattributableClaim}
    (h : withheld ∈ claims.filterMap fun claim =>
      (judge retrieval quarantined claim).getRight?) : Explained retrieval withheld := by
  obtain ⟨claim, _, hright⟩ := List.mem_filterMap.mp h
  rcases judge_cases retrieval quarantined claim with
    ⟨_, hjudge, _⟩ | ⟨_, hjudge, _, _, hexplained⟩
  · rw [hjudge] at hright
    cases hright
  · rw [hjudge] at hright
    cases hright
    exact hexplained

theorem mem_quarantinedIds {scan : RetrievedChunk → List InjectionDetection}
    {policy : ResearchPolicy} {chunkId : Text} :
    chunkId ∈ quarantinedIds (InjectionDetector.scanAll scan retrieval) policy ↔
      policy.quarantineInjectedChunks = true ∧
        ∃ chunk ∈ retrieval.chunks, ∃ detection ∈ scan chunk, detection.chunkId = chunkId := by
  unfold quarantinedIds
  split
  · rename_i hquarantine
    rw [(StableSort.sortBy_perm _).mem_iff, List.mem_dedup]
    simp only [InjectionDetector.scanAll, List.mem_map, List.mem_flatMap, hquarantine, true_and]
    constructor
    · rintro ⟨detection, ⟨chunk, hchunk, hdetection⟩, hid⟩
      exact ⟨chunk, hchunk, detection, hdetection, hid⟩
    · rintro ⟨chunk, hchunk, detection, hdetection, hid⟩
      exact ⟨detection, ⟨chunk, hchunk, hdetection⟩, hid⟩
  · rename_i hquarantine
    simp [hquarantine]

theorem apply_eq (scan : RetrievedChunk → List InjectionDetection) (claims : List ResearchClaim)
    (retrieval : RetrievalResult) (policy : Option ResearchPolicy) :
    (apply scan claims retrieval policy).claims = claims.filterMap (fun claim =>
      (judge retrieval (apply scan claims retrieval policy).quarantinedChunkIds claim).getLeft?) ∧
    (apply scan claims retrieval policy).unattributableClaims = claims.filterMap (fun claim =>
      (judge retrieval (apply scan claims retrieval policy).quarantinedChunkIds claim).getRight?) := by
  unfold apply
  dsimp only
  rw [foldl_applyClaim]
  exact ⟨List.nil_append _, List.nil_append _⟩

/-- For every detector, every list of claims, every retrieval and every policy. -/
theorem apply_attributed (scan : RetrievedChunk → List InjectionDetection)
    (claims : List ResearchClaim) (retrieval : RetrievalResult) (policy : Option ResearchPolicy) :
    Attributed scan claims retrieval (policy.getD {}) (apply scan claims retrieval policy) := by
  obtain ⟨hpublished, hwithheld⟩ := apply_eq scan claims retrieval policy
  have hclaims : (apply scan claims retrieval policy).claims.map (·.claim) = claims.filter
      (grounded retrieval (apply scan claims retrieval policy).quarantinedChunkIds) := by
    rw [hpublished]
    exact published_claims claims
  have hothers : (apply scan claims retrieval policy).unattributableClaims.map (·.claim) =
      claims.filter fun claim =>
        !grounded retrieval (apply scan claims retrieval policy).quarantinedChunkIds claim := by
    rw [hwithheld]
    exact withheld_claims claims
  have honce : ((apply scan claims retrieval policy).claims.map (·.claim) ++
      (apply scan claims retrieval policy).unattributableClaims.map (·.claim)).Perm claims := by
    rw [hclaims, hothers]
    exact List.filter_append_perm _ _
  have htotal : (apply scan claims retrieval policy).coverage.totalClaims = claims.length := by
    have hlength := honce.length_eq
    simpa [apply] using hlength
  exact {
    published := hclaims
    withheld := hothers
    supporting := fun attributed hmem => published_supports (hpublished ▸ hmem)
    explained := fun withheld hmem => withheld_explained (hwithheld ▸ hmem)
    once := honce
    quarantined := fun _ => mem_quarantinedIds
    coverage := ⟨htotal, rfl⟩ }

end AttributionGate

end Fcmr.Research
