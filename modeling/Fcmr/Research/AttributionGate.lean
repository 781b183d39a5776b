import Fcmr.DotNet.Formats
import Fcmr.DotNet.Percentages
import Fcmr.Research.Retrieval

/-! The decision which claims may be published: a fold over the claims, with a fold over the
citations of each. The detector is a parameter, and so are the ids in its detections. -/
namespace Fcmr.Research

open DotNet

inductive UnattributableReason
  | noCitation
  | unresolvableCitation
  | quarantinedSource
  deriving DecidableEq

structure UnattributableClaim where
  claim : ResearchClaim
  reason : UnattributableReason
  unresolvedChunkIds : List Text := []

def describe (ids : List Text) : Text :=
  match ids with
  | [id] => lit "source '" ++ id ++ lit "' was"
  | ids => lit "sources " ++ join (lit ", ") ids ++ lit " were"

def UnattributableClaim.explanation (withheld : UnattributableClaim) : Text :=
  match withheld.reason with
  | .noCitation => lit "Withheld: no source was cited."
  | .unresolvableCitation =>
    lit "Withheld: cited " ++ describe withheld.unresolvedChunkIds ++
      lit " not present in the retrieved evidence."
  | .quarantinedSource =>
    lit "Withheld: every supporting source was quarantined for suspected prompt injection."

structure AttributedClaim where
  claim : ResearchClaim
  supportingChunks : List RetrievedChunk
  supported : supportingChunks ≠ []

structure AttributionCoverage where
  totalClaims : Nat
  attributedClaims : Nat
  attributed_le : attributedClaims ≤ totalClaims

def AttributionCoverage.withheldClaims (coverage : AttributionCoverage) : Nat :=
  coverage.totalClaims - coverage.attributedClaims

def AttributionCoverage.percent (coverage : AttributionCoverage) : Option Decimal :=
  Decimal.percentage (Int32.ofNat coverage.attributedClaims) (Int32.ofNat coverage.totalClaims)

def AttributionCoverage.meetsBar (coverage : AttributionCoverage) (policy : ResearchPolicy) : Bool :=
  coverage.percent.any fun percent => decide (policy.minimumCoveragePercent.value ≤ percent.value)

structure AttributedSynthesis where
  claims : List AttributedClaim
  unattributableClaims : List UnattributableClaim
  injectionDetections : List InjectionDetection
  quarantinedChunkIds : List Text
  coverage : AttributionCoverage

namespace AttributionGate

structure Resolution where
  supporting : List RetrievedChunk := []
  unresolved : List Text := []
  blockedByQuarantine : Bool := false

def resolveCitation (retrieval : RetrievalResult) (quarantined : List Text)
    (resolution : Resolution) (citation : Citation) : Resolution :=
  match retrieval.resolve citation.chunkId with
  | none => { resolution with unresolved := resolution.unresolved ++ [citation.chunkId] }
  | some chunk =>
    if quarantined.contains citation.chunkId then { resolution with blockedByQuarantine := true }
    else if resolution.supporting.any fun other => other.chunkId = chunk.chunkId then resolution
    else { resolution with supporting := resolution.supporting ++ [chunk] }

def resolveCitations (retrieval : RetrievalResult) (quarantined : List Text)
    (citations : List Citation) : Resolution :=
  citations.foldl (resolveCitation retrieval quarantined) {}

def judge (retrieval : RetrievalResult) (quarantined : List Text) (claim : ResearchClaim) :
    AttributedClaim ⊕ UnattributableClaim :=
  if claim.citations.isEmpty then .inr { claim, reason := .noCitation }
  else
    let resolution := resolveCitations retrieval quarantined claim.citations
    if h : resolution.supporting ≠ [] then
      .inl { claim, supportingChunks := resolution.supporting, supported := h }
    else if resolution.unresolved ≠ [] then
      .inr {
        claim
        reason := .unresolvableCitation
        unresolvedChunkIds := resolution.unresolved }
    else if resolution.blockedByQuarantine then .inr { claim, reason := .quarantinedSource }
    -- The branch that the source holds to be unreachable.
    else .inr { claim, reason := .noCitation }

def applyClaim (retrieval : RetrievalResult) (quarantined : List Text)
    (results : List AttributedClaim × List UnattributableClaim) (claim : ResearchClaim) :
    List AttributedClaim × List UnattributableClaim :=
  match judge retrieval quarantined claim with
  | .inl attributed => (results.1 ++ [attributed], results.2)
  | .inr withheld => (results.1, results.2 ++ [withheld])

def quarantinedIds (detections : List InjectionDetection) (policy : ResearchPolicy) : List Text :=
  if policy.quarantineInjectedChunks then
    StableSort.sortBy id (detections.map (·.chunkId)).dedup
  else []

def apply (scan : RetrievedChunk → List InjectionDetection) (claims : List ResearchClaim)
    (retrieval : RetrievalResult) (policy : Option ResearchPolicy) : AttributedSynthesis :=
  let policy := policy.getD {}
  let detections := InjectionDetector.scanAll scan retrieval
  let quarantined := quarantinedIds detections policy
  let results := claims.foldl (applyClaim retrieval quarantined) ([], [])
  { claims := results.1
    unattributableClaims := results.2
    injectionDetections := detections
    quarantinedChunkIds := quarantined
    coverage := {
      totalClaims := results.1.length + results.2.length
      attributedClaims := results.1.length
      attributed_le := Nat.le_add_right _ _ } }

end AttributionGate

end Fcmr.Research
