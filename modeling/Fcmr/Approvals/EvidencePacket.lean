import Fcmr.DotNet.Numbers
import Fcmr.DotNet.Utf8
import Fcmr.Library.Codes
import Fcmr.Library.Sha256
import Fcmr.Library.StableSort
import Mathlib.Data.List.AList
import Mathlib.Data.Prod.Lex

/-! The evidence packet, its canonical text and its hash. -/
namespace Fcmr.Approvals

open DotNet

inductive Lane
  | research
  | surveillance
  | orderRouting
  deriving DecidableEq

def Lane.text : Lane → Text
  | research => lit "Research"
  | surveillance => lit "Surveillance"
  | orderRouting => lit "OrderRouting"

structure EvidenceSource where
  documentId : Text
  chunkId : Text
  excerpt : Text
  score : Double
  deriving DecidableEq

structure RoutingDecisionSummary where
  outcome : Text
  complexityScore : Double
  costCeilingUsd : Decimal
  selectedTier : Option Text
  selectedDeployment : Option Text
  selectedVendor : Option Text
  policySetId : Option Text
  policySetVersion : Option Int32
  rationale : Text

/-- `IReadOnlyDictionary<string, string>` in enumeration order. A null value is possible:
the deserialiser does not check the annotation. -/
abbrev StringMap := AList fun _ : Text => Option Text

structure ProposedAction where
  kind : Text
  summary : Text
  fields : StringMap

structure EvidencePacket where
  correlationId : Text
  lane : Lane
  inputs : StringMap
  retrievedSources : List EvidenceSource
  routingDecision : RoutingDecisionSummary
  proposedAction : ProposedAction
  unattributableClaims : List Text

namespace EvidencePacketHasher

def canonicalFormVersion : Text := lit "fcmr-evidence-canonical-v1"

abbrev Record := Text × Text

def emit (record : Record) : Text :=
  Codes.frame natText (digit ':') record.1 ++ lit "=" ++
    Codes.frame natText (digit ':') record.2 ++ lit "\n"

/-- The calls of `CanonicalWriter`, as the records that each of them emits. -/
def text (label : Text) (value : Option Text) : List Record :=
  [(label, match value with
    | none => lit "null:"
    | some value => lit "str:" ++ value)]

def number [RoundTripFormat] (label : Text) (value : Double) : List Record :=
  [(label, lit "num:" ++ RoundTripFormat.format value)]

def integer (label : Text) (value : Option Int32) : List Record :=
  [(label, match value with
    | none => lit "null:"
    | some value => lit "int:" ++ intText value.toInt)]

def money (label : Text) (value : Decimal) : List Record :=
  [(label, lit "dec:" ++ value.normalise.toText)]

def count (label : Text) (value : Nat) : List Record :=
  [(label, lit "cnt:" ++ natText value)]

/-- `map[key]` for a key that is present; concatenation renders null as nothing. -/
def valueText (entries : StringMap) (key : Text) : Text :=
  ((entries.lookup key).getD none).getD []

def map (label : Text) (entries : StringMap) : List Record :=
  count label entries.keys.length ++
    (StableSort.sortBy id entries.keys).map fun key =>
      (label ++ lit "\x7b" ++ key ++ lit "\x7d", lit "str:" ++ valueText entries key)

/-- The keys of `OrderBy` and the two `ThenBy`, compared ordinally. -/
def sourceKey (source : EvidenceSource) : Lex (Text × Lex (Text × Text)) :=
  toLex (source.documentId, toLex (source.chunkId, source.excerpt))

def sourceRecords [RoundTripFormat] (source : EvidenceSource × Nat) : List Record :=
  let label (member : String) := lit "retrievedSources[" ++ natText source.2 ++ lit "]" ++ lit member
  text (label ".documentId") (some source.1.documentId) ++
    text (label ".chunkId") (some source.1.chunkId) ++
    text (label ".excerpt") (some source.1.excerpt) ++
    number (label ".score") source.1.score

def claimRecords (claim : Text × Nat) : List Record :=
  text (lit "unattributableClaims[" ++ natText claim.2 ++ lit "]") (some claim.1)

def records [RoundTripFormat] (packet : EvidencePacket) : List Record :=
  let sources := StableSort.sortBy sourceKey packet.retrievedSources
  let d := packet.routingDecision
  text (lit "form") (some canonicalFormVersion) ++
    text (lit "correlationId") (some packet.correlationId) ++
    text (lit "lane") (some packet.lane.text) ++
    map (lit "inputs") packet.inputs ++
    count (lit "retrievedSources") sources.length ++
    sources.zipIdx.flatMap sourceRecords ++
    text (lit "routingDecision.outcome") (some d.outcome) ++
    number (lit "routingDecision.complexityScore") d.complexityScore ++
    money (lit "routingDecision.costCeilingUsd") d.costCeilingUsd ++
    text (lit "routingDecision.selectedTier") d.selectedTier ++
    text (lit "routingDecision.selectedDeployment") d.selectedDeployment ++
    text (lit "routingDecision.selectedVendor") d.selectedVendor ++
    text (lit "routingDecision.policySetId") d.policySetId ++
    integer (lit "routingDecision.policySetVersion") d.policySetVersion ++
    text (lit "routingDecision.rationale") (some d.rationale) ++
    text (lit "proposedAction.kind") (some packet.proposedAction.kind) ++
    text (lit "proposedAction.summary") (some packet.proposedAction.summary) ++
    map (lit "proposedAction.fields") packet.proposedAction.fields ++
    count (lit "unattributableClaims") packet.unattributableClaims.length ++
    packet.unattributableClaims.zipIdx.flatMap claimRecords

def canonicalize [RoundTripFormat] (packet : EvidencePacket) : Text :=
  (records packet).flatMap emit

/-- The bytes that `ComputeHash` hands to SHA-256. -/
def hashInput [RoundTripFormat] (packet : EvidencePacket) : List UInt8 :=
  getBytes (canonicalize packet)

def toHexStringLower (bytes : List UInt8) : Text :=
  bytes.flatMap fun b => [digit (Nat.digitChar (b.toNat / 16)), digit (Nat.digitChar (b.toNat % 16))]

def computeHash [RoundTripFormat] (packet : EvidencePacket) : Text :=
  toHexStringLower (Sha256.hashData (hashInput packet))

end EvidencePacketHasher

namespace Samples

/-- Scores as the runtime prints them, on 0, 0.25 and 0.5. -/
scoped instance sampleFormat : RoundTripFormat where
  format d :=
    if d.bits = 0x3FE0000000000000 then lit "0.5"
    else if d.bits = 0x3FD0000000000000 then lit "0.25"
    else lit "0"

def samplePacket : EvidencePacket where
  correlationId := lit "corr-1"
  lane := .orderRouting
  inputs := ∅
  retrievedSources := []
  routingDecision := {
    outcome := lit "Routed"
    complexityScore := ⟨0x3FE0000000000000⟩
    costCeilingUsd := ⟨false, 150, 2, by decide, by decide⟩
    selectedTier := some (lit "standard")
    selectedDeployment := none
    selectedVendor := none
    policySetId := none
    policySetVersion := some 3
    rationale := lit "Within the ceiling." }
  proposedAction := { kind := lit "RouteOrder", summary := lit "Buy 100", fields := ∅ }
  unattributableClaims := []

end Samples

end Fcmr.Approvals
