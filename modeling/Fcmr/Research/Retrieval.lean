import Fcmr.DotNet.DecimalArithmetic
import Fcmr.Library.StableSort

/-! Claims, the evidence retrieved for them, and the scan of that evidence for injected
instructions. -/
namespace Fcmr.Research

open DotNet

structure Citation where
  chunkId : Text
  quote : Option Text := none

structure ResearchClaim where
  claimId : Text
  text : Text
  citations : List Citation := []

structure RetrievedChunk where
  chunkId : Text
  sourceId : Text
  sourceTitle : Text := []
  text : Text
  score : Double := ⟨0⟩
  deriving DecidableEq

/-- No two chunks answer to one id. -/
structure RetrievalResult where
  chunks : List RetrievedChunk
  distinct : (chunks.map (·.chunkId)).Nodup

namespace RetrievalResult

def duplicate (seen : List Text) : List RetrievedChunk → Option Text
  | [] => none
  | chunk :: chunks =>
    if seen.contains chunk.chunkId then some chunk.chunkId
    else duplicate (chunk.chunkId :: seen) chunks

theorem duplicate_eq_none {seen : List Text} {chunks : List RetrievedChunk} :
    duplicate seen chunks = none ↔
      (chunks.map (·.chunkId)).Nodup ∧ ∀ chunk ∈ chunks, chunk.chunkId ∉ seen := by
  induction chunks generalizing seen with
  | nil => simp [duplicate]
  | cons chunk chunks ih =>
    unfold duplicate
    split
    · rename_i hseen
      exact ⟨nofun, fun h =>
        absurd (List.contains_iff_mem.mp hseen) (h.2 chunk List.mem_cons_self)⟩
    · rename_i hseen
      rw [List.contains_iff_mem] at hseen
      rw [ih, List.map_cons, List.nodup_cons]
      simp only [List.mem_cons, not_or, List.mem_map, not_exists, not_and, forall_eq_or_imp]
      constructor
      · rintro ⟨hnodup, hrest⟩
        exact ⟨⟨fun other hother => (hrest other hother).1, hnodup⟩, hseen,
          fun other hother => (hrest other hother).2⟩
      · rintro ⟨⟨hfresh, hnodup⟩, _, hrest⟩
        exact ⟨hnodup, fun other hother => ⟨hfresh other hother, hrest other hother⟩⟩

/-- The constructor. The error is the message of the `ArgumentException`. -/
def init (chunks : List RetrievedChunk) : Except Text RetrievalResult :=
  match h : duplicate [] chunks with
  | some chunkId => .error <|
      lit "Duplicate chunk id '" ++ chunkId ++ lit "' in retrieval result. Citations to it " ++
        lit "would be ambiguous, so the retrieval is rejected rather than deduplicated. " ++
        lit "(Parameter 'chunks')"
  | none => .ok ⟨chunks, (duplicate_eq_none.mp h).1⟩

def resolve (retrieval : RetrievalResult) (chunkId : Text) : Option RetrievedChunk :=
  retrieval.chunks.find? fun chunk => chunk.chunkId = chunkId

theorem resolve_eq_some {retrieval : RetrievalResult} {chunkId : Text} {chunk : RetrievedChunk} :
    retrieval.resolve chunkId = some chunk ↔
      chunk ∈ retrieval.chunks ∧ chunk.chunkId = chunkId := by
  unfold resolve
  constructor
  · intro h
    exact ⟨List.mem_of_find?_eq_some h, by simpa using List.find?_some h⟩
  · rintro ⟨hmem, rfl⟩
    cases hfind : retrieval.chunks.find? fun other => other.chunkId = chunk.chunkId with
    | none =>
      have hnot := List.find?_eq_none.mp hfind chunk hmem
      simp at hnot
    | some other =>
      have hsame : other.chunkId = chunk.chunkId := by simpa using List.find?_some hfind
      rw [List.inj_on_of_nodup_map retrieval.distinct (List.mem_of_find?_eq_some hfind) hmem hsame]

def contains (retrieval : RetrievalResult) (chunkId : Text) : Bool :=
  retrieval.chunks.any fun chunk => chunk.chunkId = chunkId

theorem contains_eq_isSome (retrieval : RetrievalResult) (chunkId : Text) :
    retrieval.contains chunkId = (retrieval.resolve chunkId).isSome :=
  List.isSome_find?.symm

theorem contains_iff {retrieval : RetrievalResult} {chunkId : Text} :
    retrieval.contains chunkId = true ↔ ∃ chunk ∈ retrieval.chunks, chunk.chunkId = chunkId := by
  simp [contains]

end RetrievalResult

inductive InjectionCategory
  | instructionOverride
  | roleReassignment
  | systemPromptSpoof
  | toolInvocation
  | approvalBypass
  | exfiltration
  deriving DecidableEq

structure InjectionDetection where
  chunkId : Text
  sourceId : Text
  category : InjectionCategory
  matched : Text
  offset : Nat

/-- What the patterns find in a chunk, in the order of the offsets. -/
structure PatternMatch where
  category : InjectionCategory
  matched : Text
  offset : Nat

namespace InjectionDetector

/-- `Scan`, for any patterns. -/
def scan (patterns : RetrievedChunk → List PatternMatch) (chunk : RetrievedChunk) :
    List InjectionDetection :=
  (patterns chunk).map fun found => {
    chunkId := chunk.chunkId
    sourceId := chunk.sourceId
    category := found.category
    matched := found.matched
    offset := found.offset }

def scanAll (scan : RetrievedChunk → List InjectionDetection) (retrieval : RetrievalResult) :
    List InjectionDetection :=
  retrieval.chunks.flatMap scan

end InjectionDetector

/-- The default is the strict setting. -/
structure ResearchPolicy where
  quarantineInjectedChunks : Bool := true
  minimumCoveragePercent : Decimal := .literal 80 0

end Fcmr.Research
