import Fcmr.Research.Attribution
import Fcmr.Research.Detections
import Fcmr.ServiceDefaults.Correlation

/-! `POST /v1/research/attribution`, from the body of the request to that of the answer, with the
detector that the service is built with. -/
namespace Fcmr.ResearchService

open DotNet Research ServiceDefaults

structure ChunkDto where
  chunkId : Text
  sourceId : Text
  sourceTitle : Text := []
  text : Text

structure CitationDto where
  chunkId : Text
  quote : Option Text := none

structure ClaimDto where
  claimId : Text
  text : Text
  citations : List CitationDto := []

/-- The handler checks both lists for null. -/
structure AttributionRequest where
  correlationId : Option Text := none
  claims : Option (List ClaimDto)
  retrieval : Option (List ChunkDto)
  minimumCoveragePercent : Option Decimal := none

def ChunkDto.toDomain (dto : ChunkDto) : RetrievedChunk where
  chunkId := dto.chunkId
  sourceId := dto.sourceId
  sourceTitle := dto.sourceTitle
  text := dto.text

def CitationDto.toDomain (dto : CitationDto) : Citation where
  chunkId := dto.chunkId
  quote := dto.quote

def ClaimDto.toDomain (dto : ClaimDto) : ResearchClaim where
  claimId := dto.claimId
  text := dto.text
  citations := dto.citations.map (·.toDomain)

structure CoverageDescription where
  totalClaims : Nat
  attributedClaims : Nat
  withheldClaims : Nat
  percent : Option Decimal
  meetsBar : Bool
  barPercent : Decimal

structure SourceDescription where
  chunkId : Text
  sourceId : Text
  sourceTitle : Text

structure PublishedDescription where
  claimId : Text
  text : Text
  citations : List CitationDto
  supporting : List SourceDescription

structure WithheldDescription where
  claimId : Text
  text : Text
  reason : Text
  explanation : Text
  unresolvedChunkIds : List Text

structure DetectionDescription where
  chunkId : Text
  sourceId : Text
  category : Text
  matched : Text
  offset : Nat

structure AttributionDescription where
  coverage : CoverageDescription
  published : List PublishedDescription
  withheld : List WithheldDescription
  injectionDetections : List DetectionDescription
  quarantinedChunkIds : List Text
  correlationId : Text

inductive AttributionResult
  | badRequest (error detail correlationId : Text)
  | ok (synthesis : AttributionDescription)

def reasonText : UnattributableReason → Text
  | .noCitation => lit "NoCitation"
  | .unresolvableCitation => lit "UnresolvableCitation"
  | .quarantinedSource => lit "QuarantinedSource"

def categoryText : InjectionCategory → Text
  | .instructionOverride => lit "InstructionOverride"
  | .roleReassignment => lit "RoleReassignment"
  | .systemPromptSpoof => lit "SystemPromptSpoof"
  | .toolInvocation => lit "ToolInvocation"
  | .approvalBypass => lit "ApprovalBypass"
  | .exfiltration => lit "Exfiltration"

def describePublished (attributed : AttributedClaim) : PublishedDescription where
  claimId := attributed.claim.claimId
  text := attributed.claim.text
  citations := attributed.claim.citations.map fun citation => ⟨citation.chunkId, citation.quote⟩
  supporting := attributed.supportingChunks.map fun chunk =>
    ⟨chunk.chunkId, chunk.sourceId, chunk.sourceTitle⟩

def describeWithheld (withheld : UnattributableClaim) : WithheldDescription where
  claimId := withheld.claim.claimId
  text := withheld.claim.text
  reason := reasonText withheld.reason
  explanation := withheld.explanation
  unresolvedChunkIds := withheld.unresolvedChunkIds

def describeDetection (detection : InjectionDetection) : DetectionDescription where
  chunkId := detection.chunkId
  sourceId := detection.sourceId
  category := categoryText detection.category
  matched := detection.matched
  offset := detection.offset

def describe (synthesis : AttributedSynthesis) (policy : ResearchPolicy) (correlationId : Text) :
    AttributionDescription where
  coverage := {
    totalClaims := synthesis.coverage.totalClaims
    attributedClaims := synthesis.coverage.attributedClaims
    withheldClaims := synthesis.coverage.withheldClaims
    percent := synthesis.coverage.percent
    meetsBar := synthesis.coverage.meetsBar policy
    barPercent := policy.minimumCoveragePercent }
  published := synthesis.claims.map describePublished
  withheld := synthesis.unattributableClaims.map describeWithheld
  injectionDetections := synthesis.injectionDetections.map describeDetection
  quarantinedChunkIds := synthesis.quarantinedChunkIds
  correlationId

def policyFor (minimumCoveragePercent : Option Decimal) : ResearchPolicy :=
  match minimumCoveragePercent with
  | some bar => { minimumCoveragePercent := bar }
  | none => {}

def postAttribution (characters : WordCharacters) (offsets : OffsetSort)
    (request : Option AttributionRequest) (correlation : CorrelationIdAccessor) :
    AttributionResult :=
  match request with
  | none =>
    .badRequest (lit "InvalidRequest") (lit "No request body was supplied.") correlation.value
  | some request =>
    match correlation.tryAdoptFromBody request.correlationId with
    | (false, correlation) =>
      .badRequest (lit "CorrelationIdConflict")
        (lit "The correlationId in the request body does not match the one supplied in the " ++
          CorrelationIdFormat.headerName ++
          lit " header. Send one or the other, or send them equal.") correlation.value
    | (true, correlation) =>
      match request.claims, request.retrieval with
      | some claims, some retrieval =>
        match RetrievalResult.init (retrieval.map (·.toDomain)) with
        | .error message => .badRequest (lit "InvalidRetrieval") message correlation.value
        | .ok retrieval =>
          let policy := policyFor request.minimumCoveragePercent
          let synthesis := AttributionGate.apply (InjectionDetector.detect characters offsets)
            (claims.map (·.toDomain)) retrieval (some policy)
          .ok (describe synthesis policy correlation.value)
      | _, _ =>
        .badRequest (lit "InvalidRequest") (lit "Both claims and retrieval are required.")
          correlation.value

def Clean (characters : WordCharacters) (chunk : ChunkDto) : Prop :=
  ∀ category, ¬Attempted characters category chunk.text

def Grounded (characters : WordCharacters) (retrieval : List ChunkDto) (claim : ClaimDto) : Prop :=
  ∃ citation ∈ claim.citations, ∃ chunk ∈ retrieval, chunk.chunkId = citation.chunkId ∧
    Clean characters chunk

structure Publishes (characters : WordCharacters) (retrieval : List ChunkDto) (claim : ClaimDto)
    (description : PublishedDescription) : Prop where
  grounded : Grounded characters retrieval claim
  whole : description.claimId = claim.claimId ∧ description.text = claim.text ∧
    description.citations = claim.citations
  supporting : ∀ source, source ∈ description.supporting ↔
    ∃ chunk ∈ retrieval, source = ⟨chunk.chunkId, chunk.sourceId, chunk.sourceTitle⟩ ∧
      Clean characters chunk ∧ ∃ citation ∈ claim.citations, citation.chunkId = chunk.chunkId
  once : (description.supporting.map (·.chunkId)).Nodup

structure Withholds (characters : WordCharacters) (retrieval : List ChunkDto) (claim : ClaimDto)
    (description : WithheldDescription) : Prop where
  ungrounded : ¬Grounded characters retrieval claim
  whole : description.claimId = claim.claimId ∧ description.text = claim.text
  noCitation : description.reason = lit "NoCitation" ↔ claim.citations = []
  unresolvable : description.reason = lit "UnresolvableCitation" ↔
    ∃ citation ∈ claim.citations, ∀ chunk ∈ retrieval, chunk.chunkId ≠ citation.chunkId
  quarantined : description.reason = lit "QuarantinedSource" ↔ claim.citations ≠ [] ∧
    ∀ citation ∈ claim.citations, ∃ chunk ∈ retrieval, chunk.chunkId = citation.chunkId
  unresolved : description.unresolvedChunkIds = (claim.citations.map (·.chunkId)).filter
    fun chunkId => !retrieval.any fun chunk => chunk.chunkId = chunkId

/-- What the answer owes to the claims and the evidence that were submitted. -/
structure Answered (characters : WordCharacters) (claims : List ClaimDto)
    (retrieval : List ChunkDto) (bar : Option Decimal) (answer : AttributionDescription) :
    Prop where
  divided : ∃ published withheld, (published ++ withheld).Perm claims ∧
    published.Sublist claims ∧ withheld.Sublist claims ∧
    List.Forall₂ (Publishes characters retrieval) published answer.published ∧
    List.Forall₂ (Withholds characters retrieval) withheld answer.withheld
  detected : ∀ chunk ∈ retrieval, ∀ category, Attempted characters category chunk.text ↔
    ∃ description ∈ answer.injectionDetections, description.chunkId = chunk.chunkId ∧
      description.category = categoryText category
  detection : ∀ description ∈ answer.injectionDetections, Legible description.matched ∧
    ∃ chunk ∈ retrieval, description.chunkId = chunk.chunkId ∧
      description.sourceId = chunk.sourceId ∧
      ∃ category, description.category = categoryText category
  quarantined : ∀ chunkId, chunkId ∈ answer.quarantinedChunkIds ↔
    ∃ chunk ∈ retrieval, chunk.chunkId = chunkId ∧ ¬Clean characters chunk
  quarantinedOnce : answer.quarantinedChunkIds.Nodup
  coverage : answer.coverage.totalClaims = claims.length ∧
    answer.coverage.attributedClaims = answer.published.length ∧
    answer.coverage.withheldClaims = answer.withheld.length
  barred : answer.coverage.meetsBar = true ↔ ∃ percent, answer.coverage.percent = some percent ∧
    (bar.getD (.literal 80 0)).value ≤ percent.value

/-- A request that the gate is applied to, with its lists. -/
structure Acceptable (request : AttributionRequest) (correlation : CorrelationIdAccessor)
    (claims : List ClaimDto) (retrieval : List ChunkDto) : Prop where
  adopted : (correlation.tryAdoptFromBody request.correlationId).1 = true
  hasClaims : request.claims = some claims
  hasRetrieval : request.retrieval = some retrieval
  distinct : (retrieval.map (·.chunkId)).Nodup

theorem init_eq_ok {chunks : List RetrievedChunk} {retrieval : RetrievalResult} :
    RetrievalResult.init chunks = .ok retrieval ↔ retrieval.chunks = chunks := by
  unfold RetrievalResult.init
  split
  · rename_i chunkId hduplicate
    refine ⟨nofun, ?_⟩
    rintro rfl
    have hnone := RetrievalResult.duplicate_eq_none.mpr
      ⟨retrieval.distinct, fun _ _ => List.not_mem_nil⟩
    cases hduplicate.symm.trans hnone
  · constructor
    · rintro ⟨⟩
      rfl
    · rintro rfl
      rfl

section

variable {characters : WordCharacters} {offsets : OffsetSort} {request : AttributionRequest}
  {correlation : CorrelationIdAccessor} {claims : List ClaimDto} {retrieval : List ChunkDto}
  {result : RetrievalResult}

theorem result_of_distinct (h : (retrieval.map (·.chunkId)).Nodup) :
    ∃ result : RetrievalResult, result.chunks = retrieval.map (·.toDomain) := by
  refine ⟨⟨retrieval.map (·.toDomain), ?_⟩, rfl⟩
  rw [List.map_map]
  exact h

theorem distinct_of_result (h : result.chunks = retrieval.map (·.toDomain)) :
    (retrieval.map (·.chunkId)).Nodup := by
  have hdistinct := result.distinct
  rw [h, List.map_map] at hdistinct
  exact hdistinct

def synthesised (characters : WordCharacters) (offsets : OffsetSort) (claims : List ClaimDto)
    (result : RetrievalResult) (bar : Option Decimal) : AttributedSynthesis :=
  AttributionGate.apply (InjectionDetector.detect characters offsets) (claims.map (·.toDomain))
    result (some (policyFor bar))

theorem postAttribution_ok {answer : AttributionDescription} :
    postAttribution characters offsets (some request) correlation = .ok answer ↔
      ∃ claims retrieval result, Acceptable request correlation claims retrieval ∧
        result.chunks = retrieval.map (·.toDomain) ∧
        answer = describe (synthesised characters offsets claims result
          request.minimumCoveragePercent) (policyFor request.minimumCoveragePercent)
          (correlation.tryAdoptFromBody request.correlationId).2.value := by
  unfold postAttribution
  dsimp only
  rcases hadopt : correlation.tryAdoptFromBody request.correlationId with ⟨_ | _, adopted⟩
  · refine ⟨nofun, ?_⟩
    rintro ⟨_, _, _, hacceptable, _⟩
    cases (congrArg Prod.fst hadopt).symm.trans hacceptable.adopted
  dsimp only
  split
  · rename_i claims retrieval hclaims hretrieval
    cases hinit : RetrievalResult.init (retrieval.map (·.toDomain)) with
    | error message =>
      refine ⟨nofun, ?_⟩
      rintro ⟨claims', retrieval', result, hacceptable, hchunks, _⟩
      cases hretrieval.symm.trans hacceptable.hasRetrieval
      cases hinit.symm.trans (init_eq_ok.mpr hchunks)
    | ok result =>
      have hchunks := init_eq_ok.mp hinit
      constructor
      · rintro ⟨⟩
        refine ⟨claims, retrieval, result, ⟨?_, hclaims, hretrieval, ?_⟩, hchunks, rfl⟩
        · rw [hadopt]
        · exact distinct_of_result hchunks
      · rintro ⟨claims', retrieval', result', hacceptable, hchunks', rfl⟩
        cases hclaims.symm.trans hacceptable.hasClaims
        cases hretrieval.symm.trans hacceptable.hasRetrieval
        cases hinit.symm.trans (init_eq_ok.mpr hchunks')
        rfl
  · rename_i hnone
    refine ⟨nofun, ?_⟩
    rintro ⟨claims, retrieval, _, hacceptable, _⟩
    exact absurd hacceptable.hasRetrieval (hnone claims retrieval hacceptable.hasClaims)

theorem eq_of_detected (hchunks : result.chunks = retrieval.map (·.toDomain)) {chunk : ChunkDto}
    (hchunk : chunk ∈ retrieval) {other : RetrievedChunk} (hother : other ∈ result.chunks)
    {found : InjectionDetection} (hfound : found ∈ InjectionDetector.detect characters offsets other)
    (hid : found.chunkId = chunk.chunkId) : other = chunk.toDomain := by
  obtain ⟨_, _, hreports⟩ := InjectionDetector.detect_sound hfound
  have hmem : chunk.toDomain ∈ result.chunks := hchunks ▸ List.mem_map_of_mem hchunk
  exact List.inj_on_of_nodup_map result.distinct hother hmem (hreports.ids.1.symm.trans hid)

theorem exists_detection_iff (characters : WordCharacters) (offsets : OffsetSort)
    (chunk : ChunkDto) :
    (∃ found, found ∈ InjectionDetector.detect characters offsets chunk.toDomain) ↔
      ¬Clean characters chunk := by
  unfold Clean
  simp only [not_forall, not_not]
  constructor
  · rintro ⟨found, hfound⟩
    exact ⟨found.category, InjectionDetector.mem_detect_category.mp ⟨found, hfound, rfl⟩⟩
  · rintro ⟨category, hattempted⟩
    have hdetected : ∃ found ∈ InjectionDetector.detect characters offsets chunk.toDomain,
        found.category = category := InjectionDetector.mem_detect_category.mpr hattempted
    obtain ⟨found, hfound, _⟩ := hdetected
    exact ⟨found, hfound⟩

theorem mem_quarantined (characters : WordCharacters) (offsets : OffsetSort)
    (claims : List ClaimDto) (hchunks : result.chunks = retrieval.map (·.toDomain))
    (bar : Option Decimal) (chunkId : Text) :
    chunkId ∈ (synthesised characters offsets claims result bar).quarantinedChunkIds ↔
      ∃ chunk ∈ retrieval, chunk.chunkId = chunkId ∧ ¬Clean characters chunk := by
  have hstrict : (policyFor bar).quarantineInjectedChunks = true := by
    cases bar <;> rfl
  unfold synthesised
  rw [show (AttributionGate.apply (InjectionDetector.detect characters offsets)
    (claims.map (·.toDomain)) result (some (policyFor bar))).quarantinedChunkIds =
      AttributionGate.quarantinedIds (InjectionDetector.scanAll
        (InjectionDetector.detect characters offsets) result) (policyFor bar) from rfl,
    AttributionGate.mem_quarantinedIds, and_iff_right hstrict, hchunks]
  constructor
  · rintro ⟨other, hother, found, hfound, rfl⟩
    obtain ⟨chunk, hchunk, rfl⟩ := List.mem_map.mp hother
    obtain ⟨_, _, hreports⟩ := InjectionDetector.detect_sound hfound
    have hmatched := (exists_detection_iff characters offsets chunk).mp ⟨found, hfound⟩
    exact ⟨chunk, hchunk, hreports.ids.1.symm, hmatched⟩
  · rintro ⟨chunk, hchunk, rfl, hunclean⟩
    obtain ⟨found, hfound⟩ := (exists_detection_iff characters offsets chunk).mpr hunclean
    obtain ⟨_, _, hreports⟩ := InjectionDetector.detect_sound hfound
    exact ⟨chunk.toDomain, List.mem_map_of_mem hchunk, found, hfound, hreports.ids.1⟩

theorem mem_quarantined_chunk (characters : WordCharacters) (offsets : OffsetSort)
    (claims : List ClaimDto) (hchunks : result.chunks = retrieval.map (·.toDomain))
    (bar : Option Decimal) {chunk : ChunkDto} (hchunk : chunk ∈ retrieval) :
    chunk.chunkId ∈ (synthesised characters offsets claims result bar).quarantinedChunkIds ↔
      ¬Clean characters chunk := by
  rw [mem_quarantined characters offsets claims hchunks]
  constructor
  · rintro ⟨other, hother, hid, hunclean⟩
    rwa [← List.inj_on_of_nodup_map (distinct_of_result hchunks) hother hchunk hid]
  · exact fun hunclean => ⟨chunk, hchunk, rfl, hunclean⟩

theorem quarantined_nodup (claims : List ClaimDto) (bar : Option Decimal) :
    (synthesised characters offsets claims result bar).quarantinedChunkIds.Nodup := by
  unfold synthesised AttributionGate.apply AttributionGate.quarantinedIds
  dsimp only
  split
  · exact (StableSort.sortBy_perm _).nodup_iff.mpr (List.nodup_dedup _)
  · exact List.nodup_nil

theorem grounded_iff (hchunks : result.chunks = retrieval.map (·.toDomain)) (bar : Option Decimal)
    (claim : ClaimDto) : Research.grounded result
        (synthesised characters offsets claims result bar).quarantinedChunkIds claim.toDomain =
      true ↔ Grounded characters retrieval claim := by
  unfold Research.grounded Grounded ResearchClaim.cited ClaimDto.toDomain
  simp only [List.map_map, List.any_map, List.any_eq_true, Function.comp_apply, Bool.and_eq_true,
    Bool.not_eq_true', List.contains_eq_mem, decide_eq_false_iff_not,
    RetrievalResult.contains_iff, hchunks]
  refine exists_congr fun citation => and_congr_right fun _ => ?_
  constructor
  · rintro ⟨⟨_, hmem, hid⟩, hclean⟩
    obtain ⟨chunk, hchunk, rfl⟩ := List.mem_map.mp hmem
    refine ⟨chunk, hchunk, hid, not_not.mp fun hnot => hclean ?_⟩
    have hquarantined := (mem_quarantined_chunk characters offsets claims hchunks bar hchunk).mpr hnot
    rwa [show chunk.chunkId = citation.chunkId from hid] at hquarantined
  · rintro ⟨chunk, hchunk, hid, hclean⟩
    refine ⟨⟨chunk.toDomain, List.mem_map_of_mem hchunk, hid⟩, fun hquarantined => ?_⟩
    have hnot := mem_quarantined_chunk characters offsets claims hchunks bar hchunk
    rw [hid] at hnot
    exact hnot.mp hquarantined hclean

variable (characters offsets claims) in
theorem synthesised_claims (result : RetrievalResult) (bar : Option Decimal) :
    (synthesised characters offsets claims result bar).claims.map (·.claim) =
        (claims.map (·.toDomain)).filter (Research.grounded result
          (synthesised characters offsets claims result bar).quarantinedChunkIds) ∧
      (synthesised characters offsets claims result bar).unattributableClaims.map (·.claim) =
        (claims.map (·.toDomain)).filter fun claim => !Research.grounded result
          (synthesised characters offsets claims result bar).quarantinedChunkIds claim := by
  obtain ⟨hpublished, hwithheld⟩ := AttributionGate.apply_eq
    (InjectionDetector.detect characters offsets) (claims.map (·.toDomain)) result
    (some (policyFor bar))
  unfold synthesised
  rw [hpublished, hwithheld]
  exact ⟨AttributionGate.published_claims _, AttributionGate.withheld_claims _⟩

theorem synthesised_supports {bar : Option Decimal} {attributed : AttributedClaim}
    (h : attributed ∈ (synthesised characters offsets claims result bar).claims) :
    Supports result (synthesised characters offsets claims result bar).quarantinedChunkIds
      attributed.claim.cited attributed.supportingChunks := by
  obtain ⟨hpublished, _⟩ := AttributionGate.apply_eq
    (InjectionDetector.detect characters offsets) (claims.map (·.toDomain)) result
    (some (policyFor bar))
  exact AttributionGate.published_supports (hpublished ▸ h)

theorem cited_toDomain (claim : ClaimDto) :
    claim.toDomain.cited = claim.citations.map (·.chunkId) := by
  unfold ClaimDto.toDomain ResearchClaim.cited
  rw [List.map_map]
  rfl

theorem reasonText_injective : Function.Injective reasonText := by
  intro a b h
  cases a <;> cases b <;> first | rfl | exact absurd h (by decide +kernel)

theorem toDomain_citations (claim : ClaimDto) :
    claim.toDomain.citations.map (fun citation => (⟨citation.chunkId, citation.quote⟩ : CitationDto)) =
      claim.citations := by
  unfold ClaimDto.toDomain
  rw [List.map_map]
  exact List.map_id _

theorem mem_supporting (hchunks : result.chunks = retrieval.map (·.toDomain))
    {bar : Option Decimal} {attributed : AttributedClaim}
    (h : attributed ∈ (synthesised characters offsets claims result bar).claims)
    (source : SourceDescription) : source ∈ (describePublished attributed).supporting ↔
      ∃ chunk ∈ retrieval, source = ⟨chunk.chunkId, chunk.sourceId, chunk.sourceTitle⟩ ∧
        Clean characters chunk ∧ chunk.chunkId ∈ attributed.claim.cited := by
  have hsupports := (synthesised_supports h).mem
  unfold describePublished
  rw [List.mem_map]
  constructor
  · rintro ⟨_, hsupporting, rfl⟩
    obtain ⟨hmem, hclean, hcited⟩ := (hsupports _).mp hsupporting
    rw [hchunks] at hmem
    obtain ⟨chunk, hchunk, rfl⟩ := List.mem_map.mp hmem
    refine ⟨chunk, hchunk, rfl, not_not.mp fun hnot => hclean ?_, hcited⟩
    exact (mem_quarantined_chunk characters offsets claims hchunks bar hchunk).mpr hnot
  · rintro ⟨chunk, hchunk, rfl, hclean, hcited⟩
    refine ⟨chunk.toDomain, (hsupports _).mpr ⟨?_, fun hquarantined => ?_, hcited⟩, rfl⟩
    · rw [hchunks]
      exact List.mem_map_of_mem hchunk
    · exact (mem_quarantined_chunk characters offsets claims hchunks bar hchunk).mp hquarantined hclean

theorem attempted_iff_described (hchunks : result.chunks = retrieval.map (·.toDomain))
    (claims : List ClaimDto) (bar : Option Decimal) {chunk : ChunkDto} (hchunk : chunk ∈ retrieval)
    (category : InjectionCategory) : Attempted characters category chunk.text ↔
      ∃ description ∈ (synthesised characters offsets claims result bar).injectionDetections.map
        describeDetection, description.chunkId = chunk.chunkId ∧
          description.category = categoryText category := by
  have hnames : Function.Injective categoryText := by
    intro a b h
    cases a <;> cases b <;> first | rfl | exact absurd h (by decide +kernel)
  have hdetections : (synthesised characters offsets claims result bar).injectionDetections =
      result.chunks.flatMap (InjectionDetector.detect characters offsets) := rfl
  have hdetected : (∃ found ∈ InjectionDetector.detect characters offsets chunk.toDomain,
      found.category = category) ↔ Attempted characters category chunk.text :=
    InjectionDetector.mem_detect_category
  rw [hdetections, ← hdetected]
  constructor
  · rintro ⟨found, hfound, rfl⟩
    obtain ⟨_, _, hreports⟩ := InjectionDetector.detect_sound hfound
    refine ⟨describeDetection found, List.mem_map_of_mem ?_, hreports.ids.1, rfl⟩
    exact List.mem_flatMap.mpr ⟨chunk.toDomain, hchunks ▸ List.mem_map_of_mem hchunk, hfound⟩
  · rintro ⟨_, hmem, hid, hcategory⟩
    obtain ⟨found, hfound, rfl⟩ := List.mem_map.mp hmem
    obtain ⟨other, hother, hfound⟩ := List.mem_flatMap.mp hfound
    obtain rfl := eq_of_detected hchunks hchunk hother hfound hid
    exact ⟨found, hfound, hnames hcategory⟩

theorem forall₂_of_map_eq {α β γ : Type} {f : α → γ} {g : β → γ} {R : α → β → Prop} {l : List α}
    {u : List β} (h : u.map g = l.map f) (hR : ∀ a ∈ l, ∀ b ∈ u, g b = f a → R a b) :
    List.Forall₂ R l u := by
  induction l generalizing u with
  | nil =>
    rw [List.map_eq_nil_iff.mp h]
    exact .nil
  | cons a l ih =>
    obtain ⟨b, rest, rfl, hb, hrest⟩ := List.map_eq_cons_iff.mp h
    refine .cons (hR a List.mem_cons_self b List.mem_cons_self hb) (ih hrest ?_)
    exact fun a ha b hb => hR a (List.mem_cons_of_mem _ ha) b (List.mem_cons_of_mem _ hb)

theorem publishes_of_mem (hchunks : result.chunks = retrieval.map (·.toDomain))
    {bar : Option Decimal} {attributed : AttributedClaim}
    (h : attributed ∈ (synthesised characters offsets claims result bar).claims) {claim : ClaimDto}
    (hgrounded : Grounded characters retrieval claim) (hsame : attributed.claim = claim.toDomain) :
    Publishes characters retrieval claim (describePublished attributed) where
  grounded := hgrounded
  whole := by
    unfold describePublished
    rw [hsame]
    exact ⟨rfl, rfl, toDomain_citations claim⟩
  supporting source := by
    rw [mem_supporting hchunks h, hsame, cited_toDomain]
    simp only [List.mem_map]
  once := by
    have horder := (synthesised_supports h).order
    unfold describePublished
    rw [List.map_map]
    refine List.pairwise_map.mpr (horder.imp fun hlt hid => ?_)
    exact absurd (congrArg attributed.claim.cited.idxOf hid) (Nat.ne_of_lt hlt)

theorem synthesised_explained {bar : Option Decimal} {withheld : UnattributableClaim}
    (h : withheld ∈ (synthesised characters offsets claims result bar).unattributableClaims) :
    Explained result withheld := by
  obtain ⟨_, hwithheld⟩ := AttributionGate.apply_eq
    (InjectionDetector.detect characters offsets) (claims.map (·.toDomain)) result
    (some (policyFor bar))
  exact AttributionGate.withheld_explained (hwithheld ▸ h)

theorem contains_toDomain (hchunks : result.chunks = retrieval.map (·.toDomain)) (chunkId : Text) :
    result.contains chunkId = retrieval.any fun chunk => chunk.chunkId = chunkId := by
  unfold RetrievalResult.contains
  rw [hchunks, List.any_map]
  rfl

theorem withholds_of_mem (hchunks : result.chunks = retrieval.map (·.toDomain))
    {bar : Option Decimal} {withheld : UnattributableClaim}
    (h : withheld ∈ (synthesised characters offsets claims result bar).unattributableClaims)
    {claim : ClaimDto} (hungrounded : ¬Grounded characters retrieval claim)
    (hsame : withheld.claim = claim.toDomain) :
    Withholds characters retrieval claim (describeWithheld withheld) := by
  have hexplained := synthesised_explained h
  have hcited : withheld.claim.cited = claim.citations.map (·.chunkId) := by
    rw [hsame, cited_toDomain]
  have hreason (reason : UnattributableReason) :
      (describeWithheld withheld).reason = reasonText reason ↔ withheld.reason = reason :=
    reasonText_injective.eq_iff
  have hcontains := contains_toDomain hchunks
  refine ⟨hungrounded, ?_, ?_, ?_, ?_, ?_⟩
  · unfold describeWithheld
    rw [hsame]
    exact ⟨rfl, rfl⟩
  · refine (hreason .noCitation).trans (hexplained.noCitation.trans ?_)
    rw [hcited, List.map_eq_nil_iff]
  · refine (hreason .unresolvableCitation).trans (hexplained.unresolvable.trans ?_)
    simp [hcited, hcontains]
  · refine (hreason .quarantinedSource).trans (hexplained.quarantined.trans ?_)
    simp [hcited, hcontains]
  · rw [show (describeWithheld withheld).unresolvedChunkIds = withheld.unresolvedChunkIds from rfl,
      hexplained.ids, hcited]
    simp only [hcontains]

theorem synthesised_divided (characters : WordCharacters) (offsets : OffsetSort)
    (claims : List ClaimDto) (hchunks : result.chunks = retrieval.map (·.toDomain))
    (bar : Option Decimal) : ∃ published withheld, (published ++ withheld).Perm claims ∧
      published.Sublist claims ∧ withheld.Sublist claims ∧
      List.Forall₂ (Publishes characters retrieval) published
        ((synthesised characters offsets claims result bar).claims.map describePublished) ∧
      List.Forall₂ (Withholds characters retrieval) withheld
        ((synthesised characters offsets claims result bar).unattributableClaims.map
          describeWithheld) := by
  let test (claim : ClaimDto) : Bool := Research.grounded result
    (synthesised characters offsets claims result bar).quarantinedChunkIds claim.toDomain
  have htest (claim : ClaimDto) : test claim = true ↔ Grounded characters retrieval claim :=
    grounded_iff hchunks bar claim
  obtain ⟨hpublished, hwithheld⟩ := synthesised_claims characters offsets claims result bar
  rw [List.filter_map] at hpublished hwithheld
  refine ⟨claims.filter test, claims.filter (fun claim => !test claim),
    List.filter_append_perm test claims, List.filter_sublist, List.filter_sublist, ?_, ?_⟩
  · refine List.forall₂_map_right_iff.mpr
      (forall₂_of_map_eq hpublished fun claim hclaim attributed hmem hsame => ?_)
    exact publishes_of_mem hchunks hmem ((htest claim).mp (List.mem_filter.mp hclaim).2) hsame
  · refine List.forall₂_map_right_iff.mpr
      (forall₂_of_map_eq hwithheld fun claim hclaim withheld hmem hsame => ?_)
    refine withholds_of_mem hchunks hmem (fun hgrounded => ?_) hsame
    have hnot := (List.mem_filter.mp hclaim).2
    rw [(htest claim).mpr hgrounded] at hnot
    cases hnot

theorem meetsBar_iff (coverage : AttributionCoverage) (bar : Option Decimal) :
    coverage.meetsBar (policyFor bar) = true ↔ ∃ percent, coverage.percent = some percent ∧
      (bar.getD (.literal 80 0)).value ≤ percent.value := by
  have hbar : (policyFor bar).minimumCoveragePercent = bar.getD (.literal 80 0) := by
    cases bar <;> rfl
  unfold AttributionCoverage.meetsBar
  rw [hbar]
  cases coverage.percent with
  | none => simp
  | some percent => simp

theorem synthesised_answered (hchunks : result.chunks = retrieval.map (·.toDomain))
    (bar : Option Decimal) (correlationId : Text) : Answered characters claims retrieval bar
      (describe (synthesised characters offsets claims result bar) (policyFor bar)
        correlationId) where
  divided := synthesised_divided characters offsets claims hchunks bar
  detected := fun chunk hchunk => attempted_iff_described hchunks claims bar hchunk
  detection := by
    intro description hdescription
    obtain ⟨found, hmem, rfl⟩ := List.mem_map.mp hdescription
    obtain ⟨other, hother, hfound⟩ := List.mem_flatMap.mp hmem
    rw [hchunks] at hother
    obtain ⟨chunk, hchunk, rfl⟩ := List.mem_map.mp hother
    obtain ⟨_, _, hreports⟩ := InjectionDetector.detect_sound hfound
    exact ⟨InjectionDetector.detect_legible hfound, chunk, hchunk, hreports.ids.1, hreports.ids.2,
      found.category, rfl⟩
  quarantined := mem_quarantined characters offsets claims hchunks bar
  quarantinedOnce := quarantined_nodup claims bar
  coverage := by
    obtain ⟨published, withheld, hperm, _, _, hpublished, hwithheld⟩ :=
      synthesised_divided characters offsets claims hchunks bar
    have hlength := hperm.length_eq
    rw [List.length_append, hpublished.length_eq, hwithheld.length_eq, List.length_map,
      List.length_map] at hlength
    unfold describe
    rw [List.length_map, List.length_map]
    exact ⟨hlength, rfl, Nat.add_sub_cancel_left ..⟩
  barred := meetsBar_iff _ bar

end

end Fcmr.ResearchService
