import Fcmr.Approvals.CanonicalForm

/-! The hash and the packet: material changes, immaterial ones, and the two places
where the text or its bytes do not follow the packet. -/
namespace Fcmr.Approvals

open DotNet

namespace Samples

def source (excerpt : String) (score : UInt64) : EvidenceSource where
  documentId := lit "doc-1"
  chunkId := lit "chunk-1"
  excerpt := lit excerpt
  score := ⟨score⟩

def citedPacket : EvidencePacket where
  __ := samplePacket
  inputs := ((∅ : StringMap).insert (lit "symbol") (some (lit "MSFT"))).insert (lit "side")
    (some (lit "buy"))
  retrievedSources := [source "first" 0x3FE0000000000000, source "second" 0x3FD0000000000000]

def recitedPacket : EvidencePacket where
  __ := samplePacket
  inputs := ((∅ : StringMap).insert (lit "side") (some (lit "buy"))).insert (lit "symbol")
    (some (lit "MSFT"))
  retrievedSources := [source "second" 0x3FD0000000000000, source "first" 0x3FE0000000000000]
  routingDecision := { samplePacket.routingDecision with
    costCeilingUsd := ⟨false, 15, 1, by decide, by decide⟩ }

def tiedPacket (scores : List UInt64) : EvidencePacket where
  __ := samplePacket
  retrievedSources := scores.map (source "excerpt")

def rationalePacket (rationale : Text) : EvidencePacket where
  __ := samplePacket
  routingDecision := { samplePacket.routingDecision with rationale }

end Samples

namespace EvidencePacketHasher

private theorem eq_of_map_eq {α β : Type*} {f : α → β} {l l' : List α}
    (hinj : ∀ a ∈ l, ∀ b ∈ l', f a = f b → a = b) (h : l.map f = l'.map f) : l = l' := by
  induction l generalizing l' with
  | nil => exact (List.map_eq_nil_iff.mp h.symm).symm
  | cons a l ih =>
    cases l' with
    | nil => simp at h
    | cons b l' =>
      obtain ⟨hhead, htail⟩ := List.cons.inj h
      rw [hinj a List.mem_cons_self b List.mem_cons_self hhead, ih (fun c hc d hd =>
        hinj c (List.mem_cons_of_mem _ hc) d (List.mem_cons_of_mem _ hd)) htail]

private theorem sameMap_of_shown {left right : StringMap} (hl : ValuesPresent left)
    (hr : ValuesPresent right) (h : ∀ key, (left.lookup key).map (·.getD []) =
      (right.lookup key).map (·.getD [])) : SameMap left right := by
  intro key
  have hkey := h key
  rcases hleft : left.lookup key with _ | _ | value
  · rw [hleft] at hkey
    exact (Option.map_eq_none_iff.mp hkey.symm).symm
  · exact absurd hleft (hl key)
  · rcases hright : right.lookup key with _ | _ | value'
    · simp [hleft, hright] at hkey
    · exact absurd hright (hr key)
    · simpa [hleft, hright] using hkey

/-- Packets with one canonical text hold the same evidence. -/
theorem canonicalize_injective [RoundTripFormat] {left right : EvidencePacket}
    (hinputs : ValuesPresent left.inputs) (hinputs' : ValuesPresent right.inputs)
    (hfields : ValuesPresent left.proposedAction.fields)
    (hfields' : ValuesPresent right.proposedAction.fields)
    (hformat : ∀ a ∈ scores left, ∀ b ∈ scores right,
      RoundTripFormat.format a = RoundTripFormat.format b → a = b)
    (h : canonicalize left = canonicalize right) : SameEvidence left right := by
  have hshown := shown_of_canonicalize_eq h
  have hsorted : StableSort.sortBy sourceKey left.retrievedSources =
      StableSort.sortBy sourceKey right.retrievedSources := by
    apply eq_of_map_eq _ hshown.retrievedSources
    intro a ha b hb hab
    have hscore : a.score = b.score := by
      apply hformat _ _ _ _ (congrArg Prod.snd hab)
      · have hmem := (StableSort.sortBy_perm _).mem_iff.mp ha
        exact List.mem_cons_of_mem _ (List.mem_map_of_mem hmem)
      · have hmem := (StableSort.sortBy_perm _).mem_iff.mp hb
        exact List.mem_cons_of_mem _ (List.mem_map_of_mem hmem)
    have hkey : sourceKey a = sourceKey b := congrArg Prod.fst hab
    have hdocument : a.documentId = b.documentId := congrArg (·.1) hkey
    have hchunk : a.chunkId = b.chunkId := congrArg (·.2.1) hkey
    have hexcerpt : a.excerpt = b.excerpt := congrArg (·.2.2) hkey
    cases a
    cases b
    simp_all
  exact {
    correlationId := hshown.correlationId
    lane := hshown.lane
    inputs := sameMap_of_shown hinputs hinputs' hshown.inputs
    retrievedSources := (StableSort.sortBy_perm _).symm.trans
      (hsorted ▸ StableSort.sortBy_perm right.retrievedSources)
    outcome := hshown.outcome
    complexityScore := hformat _ List.mem_cons_self _ List.mem_cons_self hshown.complexityScore
    costCeilingUsd := hshown.costCeilingUsd
    selectedTier := hshown.selectedTier
    selectedDeployment := hshown.selectedDeployment
    selectedVendor := hshown.selectedVendor
    policySetId := hshown.policySetId
    policySetVersion := hshown.policySetVersion
    rationale := hshown.rationale
    kind := hshown.kind
    summary := hshown.summary
    fields := sameMap_of_shown hfields hfields' hshown.fields
    unattributableClaims := hshown.unattributableClaims }

section
open Samples

theorem canonicalize_injective_sample : SameEvidence citedPacket recitedPacket :=
  canonicalize_injective
    ((valuesPresent_empty.insert _ _).insert _ _) ((valuesPresent_empty.insert _ _).insert _ _)
    valuesPresent_empty valuesPresent_empty (by decide)
    (canonicalize_eq_iff.mpr (by decide +kernel))

end

theorem map_of_texts {left right : StringMap} (hkeys : left.keys.Perm right.keys)
    (hvalues : valueText left = valueText right) (label : Text) : map label left = map label right := by
  unfold map
  rw [hkeys.length_eq, hvalues]
  congr 1
  apply StableSort.map_sortBy_eq_of_perm _ hkeys
  intro a _ b _ hab
  rw [show a = b from hab]

theorem map_perm {left right : StringMap} (h : left.entries.Perm right.entries) (label : Text) :
    map label left = map label right := by
  apply map_of_texts (h.map Sigma.fst)
  funext key
  rw [valueText, valueText, AList.perm_lookup h]

theorem sourceRecords_congr [RoundTripFormat] {l l' : List EvidenceSource}
    (h : l.map rendering = l'.map rendering) (start : Nat) :
    (l.zipIdx start).flatMap sourceRecords = (l'.zipIdx start).flatMap sourceRecords := by
  induction l generalizing l' start with
  | nil => rw [List.map_eq_nil_iff.mp h.symm]
  | cons a l ih =>
    cases l' with
    | nil => simp at h
    | cons b l' =>
      obtain ⟨hhead, htail⟩ := List.cons.inj h
      have hdocument : a.documentId = b.documentId := congrArg (·.1.1) hhead
      have hchunk : a.chunkId = b.chunkId := congrArg (·.1.2.1) hhead
      have hexcerpt : a.excerpt = b.excerpt := congrArg (·.1.2.2) hhead
      have hscore : RoundTripFormat.format a.score = RoundTripFormat.format b.score :=
        congrArg (·.2) hhead
      rw [List.zipIdx_cons, List.zipIdx_cons, List.flatMap_cons, List.flatMap_cons, ih htail]
      simp only [sourceRecords, number, hdocument, hchunk, hexcerpt, hscore]

theorem records_reordered [RoundTripFormat] {packet packet' : EvidencePacket}
    (h : Reordered packet packet')
    (hsources : (StableSort.sortBy sourceKey packet.retrievedSources).map rendering =
      (StableSort.sortBy sourceKey packet'.retrievedSources).map rendering) :
    records packet' = records packet := by
  have hlength : (StableSort.sortBy sourceKey packet.retrievedSources).length =
      (StableSort.sortBy sourceKey packet'.retrievedSources).length := by
    simpa using congrArg List.length hsources
  unfold records
  dsimp only
  rw [map_perm h.inputs, map_perm h.fields, sourceRecords_congr hsources, hlength,
    h.correlationId, h.lane, h.routingDecision, h.kind, h.summary, h.unattributableClaims]

/-- The order in which a packet's sources and map entries are enumerated is immaterial
exactly when sources that the sort cannot tell apart have scores rendered alike. -/
theorem canonicalize_reordered_iff [RoundTripFormat] (packet : EvidencePacket) :
    (∀ packet', Reordered packet packet' → canonicalize packet' = canonicalize packet ∧
      computeHash packet' = computeHash packet) ↔
    ∀ a ∈ packet.retrievedSources, ∀ b ∈ packet.retrievedSources,
      a.documentId = b.documentId → a.chunkId = b.chunkId → a.excerpt = b.excerpt →
        RoundTripFormat.format a.score = RoundTripFormat.format b.score := by
  constructor
  · intro h a ha b hb hdocument hchunk hexcerpt
    apply StableSort.ties_of_map_sortBy sourceKey
      (fun source => RoundTripFormat.format source.score) _ ha hb
      (by rw [sourceKey, sourceKey, hdocument, hchunk, hexcerpt])
    intro l' hperm
    have hreordered : Reordered packet { packet with retrievedSources := l' } := by
      constructor <;> first | rfl | exact List.Perm.refl _ | exact hperm
    exact (shown_of_canonicalize_eq (h _ hreordered).1).retrievedSources.symm
  · intro hties packet' h
    have hrendered : (StableSort.sortBy sourceKey packet.retrievedSources).map rendering =
        (StableSort.sortBy sourceKey packet'.retrievedSources).map rendering := by
      apply StableSort.map_sortBy_eq_of_perm _ h.retrievedSources
      intro a ha b hb hkey
      have hscore := hties a ha b hb (congrArg (·.1) hkey) (congrArg (·.2.1) hkey)
        (congrArg (·.2.2) hkey)
      rw [rendering, rendering, hkey, hscore]
    have hcanonical : canonicalize packet' = canonicalize packet :=
      canonicalize_eq_iff.mpr (records_reordered h hrendered)
    exact ⟨hcanonical, by rw [computeHash, computeHash, hashInput, hashInput, hcanonical]⟩

section
open Samples

/-- Two chunks of one excerpt, scored differently. -/
theorem canonicalize_tied : Reordered (tiedPacket [0x3FE0000000000000, 0x3FD0000000000000])
      (tiedPacket [0x3FD0000000000000, 0x3FE0000000000000]) ∧
    canonicalize (tiedPacket [0x3FE0000000000000, 0x3FD0000000000000]) ≠
      canonicalize (tiedPacket [0x3FD0000000000000, 0x3FE0000000000000]) := by
  refine ⟨?_, canonicalize_eq_iff.not.mpr (by decide +kernel)⟩
  constructor <;> first | rfl | exact List.Perm.refl _ | exact List.Perm.swap ..

end

/-- The bytes hashed differ exactly when the texts differ at a place where one of them
holds a code unit that UTF-8 keeps. -/
theorem hashInput_ne_iff [RoundTripFormat] (left right : EvidencePacket) :
    hashInput left ≠ hashInput right ↔
    ∃ i, (canonicalize left)[i]? ≠ (canonicalize right)[i]? ∧
      ¬(replacedAt (canonicalize left) i = true ∧ replacedAt (canonicalize right) i = true) := by
  rw [hashInput, hashInput, ne_eq, getBytes_eq_iff]
  simp only [not_forall, not_or, ne_eq]

section
open Samples

/-- Lone surrogates U+D800 and U+D801 in the rationale. -/
theorem hashInput_loneSurrogates :
    canonicalize (rationalePacket [0xD800]) ≠ canonicalize (rationalePacket [0xD801]) ∧
    hashInput (rationalePacket [0xD800]) = hashInput (rationalePacket [0xD801]) := by
  constructor
  · exact canonicalize_eq_iff.not.mpr (by decide +kernel)
  · decide +kernel

end

end EvidencePacketHasher

end Fcmr.Approvals
