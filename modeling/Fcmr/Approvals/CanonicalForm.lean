import Fcmr.Approvals.EvidencePacket

/-! What the canonical text shows of a packet, and what it leaves out. -/
namespace Fcmr.Approvals

open DotNet Codes

/-- Maps that agree at every key; the order of enumeration is not compared. -/
def SameMap (left right : StringMap) : Prop := ∀ key, left.lookup key = right.lookup key

def ValuesPresent (entries : StringMap) : Prop := ∀ key, entries.lookup key ≠ some none

theorem valuesPresent_empty : ValuesPresent ∅ := by
  intro key
  simp

theorem ValuesPresent.insert {entries : StringMap} (h : ValuesPresent entries) (key value : Text) :
    ValuesPresent (entries.insert key (some value)) := by
  intro key'
  by_cases hkey : key' = key
  · rw [hkey, AList.lookup_insert]
    simp
  · simpa [AList.lookup_insert_ne hkey] using h key'

/-- Everything in a packet that is declared material. -/
structure SameEvidence (left right : EvidencePacket) : Prop where
  correlationId : left.correlationId = right.correlationId
  lane : left.lane = right.lane
  inputs : SameMap left.inputs right.inputs
  retrievedSources : left.retrievedSources.Perm right.retrievedSources
  outcome : left.routingDecision.outcome = right.routingDecision.outcome
  complexityScore : left.routingDecision.complexityScore = right.routingDecision.complexityScore
  costCeilingUsd : left.routingDecision.costCeilingUsd.value =
    right.routingDecision.costCeilingUsd.value
  selectedTier : left.routingDecision.selectedTier = right.routingDecision.selectedTier
  selectedDeployment : left.routingDecision.selectedDeployment =
    right.routingDecision.selectedDeployment
  selectedVendor : left.routingDecision.selectedVendor = right.routingDecision.selectedVendor
  policySetId : left.routingDecision.policySetId = right.routingDecision.policySetId
  policySetVersion : left.routingDecision.policySetVersion = right.routingDecision.policySetVersion
  rationale : left.routingDecision.rationale = right.routingDecision.rationale
  kind : left.proposedAction.kind = right.proposedAction.kind
  summary : left.proposedAction.summary = right.proposedAction.summary
  fields : SameMap left.proposedAction.fields right.proposedAction.fields
  unattributableClaims : left.unattributableClaims = right.unattributableClaims

/-- One packet with its sources and the entries of its maps enumerated in another order. -/
structure Reordered (left right : EvidencePacket) : Prop where
  correlationId : left.correlationId = right.correlationId
  lane : left.lane = right.lane
  inputs : left.inputs.entries.Perm right.inputs.entries
  retrievedSources : left.retrievedSources.Perm right.retrievedSources
  routingDecision : left.routingDecision = right.routingDecision
  kind : left.proposedAction.kind = right.proposedAction.kind
  summary : left.proposedAction.summary = right.proposedAction.summary
  fields : left.proposedAction.fields.entries.Perm right.proposedAction.fields.entries
  unattributableClaims : left.unattributableClaims = right.unattributableClaims

/-- Every double of a packet. -/
def scores (packet : EvidencePacket) : List Double :=
  packet.routingDecision.complexityScore :: packet.retrievedSources.map (·.score)

namespace EvidencePacketHasher

theorem frame_natText_selfDelimiting : SelfDelimiting (frame natText (digit ':')) :=
  frame_selfDelimiting natText_injective fun _ h => absurd (natText_digits h).2 (by decide)

theorem emit_selfDelimiting : SelfDelimiting emit :=
  ((frame_natText_selfDelimiting.append_mark (lit "=")).prod
    frame_natText_selfDelimiting).append_mark (lit "\n")

theorem emit_ne_nil (record : Record) : emit record ≠ [] := by
  simp [emit, frame]

theorem canonicalize_eq_iff [RoundTripFormat] {left right : EvidencePacket} :
    canonicalize left = canonicalize right ↔ records left = records right :=
  (emit_selfDelimiting.flatMap_injective emit_ne_nil).eq_iff

theorem singleton_delimits {α : Type*} {same : α → α → Prop} {value : α → Text} {label : Text}
    (h : ∀ a b, value a = value b → same a b) :
    Delimits same fun a => [((label, value a) : Record)] := by
  intro a b x y heq
  obtain ⟨hrecord, hrest⟩ := List.cons.inj heq
  exact ⟨h a b (congrArg Prod.snd hrecord), hrest⟩

theorem text_delimits (label : Text) : SelfDelimiting (text label) := by
  apply singleton_delimits
  intro a b h
  cases a with
  | none =>
    cases b with
    | none => rfl
    | some b => exact absurd (List.cons.inj h).1 (by decide)
  | some a =>
    cases b with
    | none => exact absurd (List.cons.inj h).1 (by decide)
    | some b => exact congrArg some (List.append_cancel_left h)

theorem integer_delimits (label : Text) : SelfDelimiting (integer label) := by
  apply singleton_delimits
  intro a b h
  cases a with
  | none =>
    cases b with
    | none => rfl
    | some b => exact absurd (List.cons.inj h).1 (by decide)
  | some a =>
    cases b with
    | none => exact absurd (List.cons.inj h).1 (by decide)
    | some b =>
      exact congrArg some (Int32.toInt_inj.mp (intText_injective (List.append_cancel_left h)))

theorem number_delimits [RoundTripFormat] (label : Text) :
    Delimits (fun a b => RoundTripFormat.format a = RoundTripFormat.format b) (number label) :=
  singleton_delimits fun _ _ => List.append_cancel_left

theorem money_delimits (label : Text) :
    Delimits (fun a b => a.value = b.value) (money label) :=
  singleton_delimits fun _ _ h =>
    Decimal.value_eq_of_toText_normalise (List.append_cancel_left h)

theorem count_delimits (label : Text) : SelfDelimiting (count label) :=
  singleton_delimits fun _ _ h => natText_injective (List.append_cancel_left h)

theorem mem_sortedKeys {entries : StringMap} {key : Text} :
    key ∈ StableSort.sortBy id entries.keys ↔ key ∈ entries :=
  (StableSort.sortBy_perm _).mem_iff.trans AList.mem_keys.symm

theorem lookup_eq_valueText {entries : StringMap} {key : Text} (h : key ∈ entries) :
    (entries.lookup key).map (·.getD []) = some (valueText entries key) := by
  obtain ⟨value, hvalue⟩ := Option.isSome_iff_exists.mp (AList.lookup_isSome.mpr h)
  simp [valueText, hvalue]

theorem map_delimits (label : Text) :
    Delimits (fun left right => ∀ key, (left.lookup key).map (·.getD []) =
      (right.lookup key).map (·.getD [])) (map label) := by
  intro left right x y heq
  unfold map at heq
  rw [List.append_assoc, List.append_assoc] at heq
  obtain ⟨hcount, heq⟩ := count_delimits label heq
  have hlength : (StableSort.sortBy id left.keys).length =
      (StableSort.sortBy id right.keys).length := by
    rw [(StableSort.sortBy_perm _).length_eq, (StableSort.sortBy_perm _).length_eq, hcount]
  obtain ⟨hentries, hrest⟩ := List.append_inj heq (by simpa using hlength)
  refine ⟨fun key => ?_, hrest⟩
  have hkeys : StableSort.sortBy id left.keys = StableSort.sortBy id right.keys := by
    have hlabels := congrArg (List.map Prod.fst) hentries
    simp only [List.map_map, Function.comp_def] at hlabels
    apply (List.map_inj_right fun a b h => ?_).mp hlabels
    exact List.append_cancel_left (List.append_cancel_right h)
  rw [hkeys] at hentries
  have hmem : key ∈ left ↔ key ∈ right := by
    rw [← mem_sortedKeys, hkeys, mem_sortedKeys]
  by_cases hkey : key ∈ right
  · have hvalue := congrArg Prod.snd (List.map_inj_left.mp hentries key (mem_sortedKeys.mpr hkey))
    rw [lookup_eq_valueText hkey, lookup_eq_valueText (hmem.mpr hkey),
      List.append_cancel_left hvalue]
  · rw [AList.lookup_eq_none.mpr hkey, AList.lookup_eq_none.mpr (mt hmem.mp hkey)]

theorem claimRecords_delimits (i : Nat) : SelfDelimiting fun claim => claimRecords (claim, i) := by
  intro a b x y heq
  obtain ⟨hclaim, hrest⟩ := text_delimits _ heq
  exact ⟨Option.some.inj hclaim, hrest⟩

theorem lane_text_injective : Function.Injective Lane.text := by
  intro a b h
  cases a <;> cases b <;> first | rfl | exact absurd h (by decide)

variable [RoundTripFormat]

def rendering (source : EvidenceSource) : Lex (Text × Lex (Text × Text)) × Text :=
  (sourceKey source, RoundTripFormat.format source.score)

theorem sourceRecords_delimits (i : Nat) :
    Delimits (fun a b => rendering a = rendering b) fun source => sourceRecords (source, i) := by
  intro a b x y heq
  simp only [sourceRecords, List.append_assoc] at heq
  obtain ⟨hdocument, heq⟩ := text_delimits _ heq
  obtain ⟨hchunk, heq⟩ := text_delimits _ heq
  obtain ⟨hexcerpt, heq⟩ := text_delimits _ heq
  obtain ⟨hscore, hrest⟩ := number_delimits _ heq
  refine ⟨?_, hrest⟩
  dsimp only
  unfold rendering sourceKey
  rw [Option.some.inj hdocument, Option.some.inj hchunk, Option.some.inj hexcerpt, hscore]

structure Shown (left right : EvidencePacket) : Prop where
  correlationId : left.correlationId = right.correlationId
  lane : left.lane = right.lane
  inputs : ∀ key, (left.inputs.lookup key).map (·.getD []) =
    (right.inputs.lookup key).map (·.getD [])
  retrievedSources : (StableSort.sortBy sourceKey left.retrievedSources).map rendering =
    (StableSort.sortBy sourceKey right.retrievedSources).map rendering
  outcome : left.routingDecision.outcome = right.routingDecision.outcome
  complexityScore : RoundTripFormat.format left.routingDecision.complexityScore =
    RoundTripFormat.format right.routingDecision.complexityScore
  costCeilingUsd : left.routingDecision.costCeilingUsd.value =
    right.routingDecision.costCeilingUsd.value
  selectedTier : left.routingDecision.selectedTier = right.routingDecision.selectedTier
  selectedDeployment : left.routingDecision.selectedDeployment =
    right.routingDecision.selectedDeployment
  selectedVendor : left.routingDecision.selectedVendor = right.routingDecision.selectedVendor
  policySetId : left.routingDecision.policySetId = right.routingDecision.policySetId
  policySetVersion : left.routingDecision.policySetVersion = right.routingDecision.policySetVersion
  rationale : left.routingDecision.rationale = right.routingDecision.rationale
  kind : left.proposedAction.kind = right.proposedAction.kind
  summary : left.proposedAction.summary = right.proposedAction.summary
  fields : ∀ key, (left.proposedAction.fields.lookup key).map (·.getD []) =
    (right.proposedAction.fields.lookup key).map (·.getD [])
  unattributableClaims : left.unattributableClaims = right.unattributableClaims

theorem shown_of_canonicalize_eq {left right : EvidencePacket}
    (h : canonicalize left = canonicalize right) : Shown left right := by
  have h := canonicalize_eq_iff.mp h
  unfold records at h
  dsimp only at h
  simp only [List.append_assoc] at h
  obtain ⟨_, h⟩ := text_delimits _ h
  obtain ⟨hcorrelationId, h⟩ := text_delimits _ h
  obtain ⟨hlane, h⟩ := text_delimits _ h
  obtain ⟨hinputs, h⟩ := map_delimits _ h
  obtain ⟨hlength, h⟩ := count_delimits _ h
  obtain ⟨hsources, h⟩ := zipIdx_delimits sourceRecords_delimits hlength h
  obtain ⟨houtcome, h⟩ := text_delimits _ h
  obtain ⟨hcomplexity, h⟩ := number_delimits _ h
  obtain ⟨hcost, h⟩ := money_delimits _ h
  obtain ⟨htier, h⟩ := text_delimits _ h
  obtain ⟨hdeployment, h⟩ := text_delimits _ h
  obtain ⟨hvendor, h⟩ := text_delimits _ h
  obtain ⟨hpolicy, h⟩ := text_delimits _ h
  obtain ⟨hversion, h⟩ := integer_delimits _ h
  obtain ⟨hrationale, h⟩ := text_delimits _ h
  obtain ⟨hkind, h⟩ := text_delimits _ h
  obtain ⟨hsummary, h⟩ := text_delimits _ h
  obtain ⟨hfields, h⟩ := map_delimits _ h
  obtain ⟨hclaimCount, h⟩ := count_delimits _ h
  obtain ⟨hclaims, _⟩ := zipIdx_delimits claimRecords_delimits hclaimCount
    (congrArg (· ++ []) h)
  rw [List.forall₂_eq_eq_eq] at hclaims
  have hrendered := List.forall₂_map_left_iff.mpr (List.forall₂_map_right_iff.mpr hsources)
  rw [List.forall₂_eq_eq_eq] at hrendered
  exact {
    correlationId := Option.some.inj hcorrelationId
    lane := lane_text_injective (Option.some.inj hlane)
    inputs := hinputs
    retrievedSources := hrendered
    outcome := Option.some.inj houtcome
    complexityScore := hcomplexity
    costCeilingUsd := hcost
    selectedTier := htier
    selectedDeployment := hdeployment
    selectedVendor := hvendor
    policySetId := hpolicy
    policySetVersion := hversion
    rationale := Option.some.inj hrationale
    kind := Option.some.inj hkind
    summary := Option.some.inj hsummary
    fields := hfields
    unattributableClaims := hclaims }

end EvidencePacketHasher

end Fcmr.Approvals
