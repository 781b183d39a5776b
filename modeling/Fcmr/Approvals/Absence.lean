import Fcmr.Approvals.EvidenceHash

/-! Where a string of a packet may be null at run time. The writer of a member tags null and
text apart; the writer of a map tags every value as text. -/
namespace Fcmr.Approvals

open DotNet EvidencePacketHasher

inductive TextPosition
  | selectedTier
  | selectedDeployment
  | selectedVendor
  | policySetId
  | input (key : Text)
  | field (key : Text)

namespace TextPosition

def isMapValue : TextPosition → Bool
  | input _ => true
  | field _ => true
  | _ => false

/-- `none` is a key that is absent. -/
def read (packet : EvidencePacket) : TextPosition → Option (Option Text)
  | selectedTier => some packet.routingDecision.selectedTier
  | selectedDeployment => some packet.routingDecision.selectedDeployment
  | selectedVendor => some packet.routingDecision.selectedVendor
  | policySetId => some packet.routingDecision.policySetId
  | input key => packet.inputs.lookup key
  | field key => packet.proposedAction.fields.lookup key

def write (packet : EvidencePacket) (value : Option Text) : TextPosition → EvidencePacket
  | selectedTier => { packet with routingDecision.selectedTier := value }
  | selectedDeployment => { packet with routingDecision.selectedDeployment := value }
  | selectedVendor => { packet with routingDecision.selectedVendor := value }
  | policySetId => { packet with routingDecision.policySetId := value }
  | input key => { packet with inputs := packet.inputs.insert key value }
  | field key => { packet with proposedAction.fields := packet.proposedAction.fields.insert key value }

@[simp] theorem read_write (packet : EvidencePacket) (value : Option Text)
    (position : TextPosition) : position.read (position.write packet value) = some value := by
  cases position with
  | selectedTier => rfl
  | selectedDeployment => rfl
  | selectedVendor => rfl
  | policySetId => rfl
  | input key => exact AList.lookup_insert packet.inputs
  | field key => exact AList.lookup_insert packet.proposedAction.fields

end TextPosition

/-- A null at the position and the empty string in its place have different texts. -/
structure Distinguished [RoundTripFormat] (packet : EvidencePacket) (position : TextPosition) :
    Prop where
  ofNull : position.read packet = some none →
    canonicalize (position.write packet (some [])) ≠ canonicalize packet
  ofEmpty : position.read packet = some (some []) →
    canonicalize (position.write packet none) ≠ canonicalize packet

section

variable [RoundTripFormat]

theorem read_eq_of_canonicalize_eq {left right : EvidencePacket} {position : TextPosition}
    (hmember : position.isMapValue = false) (h : canonicalize left = canonicalize right) :
    position.read left = position.read right := by
  have hshown := shown_of_canonicalize_eq h
  cases position with
  | selectedTier => exact congrArg some hshown.selectedTier
  | selectedDeployment => exact congrArg some hshown.selectedDeployment
  | selectedVendor => exact congrArg some hshown.selectedVendor
  | policySetId => exact congrArg some hshown.policySetId
  | input key => cases hmember
  | field key => cases hmember

omit [RoundTripFormat] in
theorem map_insert {entries : StringMap} {key : Text} {current value : Option Text}
    (hcurrent : entries.lookup key = some current) (htext : value.getD [] = current.getD [])
    (label : Text) : map label (entries.insert key value) = map label entries := by
  apply map_of_texts
  · rw [AList.keys_insert]
    have hkey : key ∈ entries := by
      rw [← AList.lookup_isSome, hcurrent]
      rfl
    exact (@List.perm_cons_erase _ instBEqOfDecidableEq _ _ _ (AList.mem_keys.mp hkey)).symm
  · funext other
    unfold valueText
    by_cases hother : other = key
    · rw [hother, AList.lookup_insert, hcurrent, Option.getD_some, Option.getD_some, htext]
    · rw [AList.lookup_insert_ne hother]

theorem canonicalize_write {packet : EvidencePacket} {position : TextPosition}
    {current value : Option Text} (hmap : position.isMapValue = true)
    (hcurrent : position.read packet = some current) (htext : value.getD [] = current.getD []) :
    canonicalize (position.write packet value) = canonicalize packet := by
  apply canonicalize_eq_iff.mpr
  cases position with
  | input key =>
    unfold TextPosition.write records
    dsimp only
    rw [map_insert hcurrent htext]
  | field key =>
    unfold TextPosition.write records
    dsimp only
    rw [map_insert hcurrent htext]
  | selectedTier => cases hmap
  | selectedDeployment => cases hmap
  | selectedVendor => cases hmap
  | policySetId => cases hmap

/-- Exactly where null and the empty string are told apart: at the members, and at the values
of a map that are neither. -/
theorem distinguished_iff (packet : EvidencePacket) (position : TextPosition) :
    Distinguished packet position ↔ (position.isMapValue = true →
      position.read packet ≠ some none ∧ position.read packet ≠ some (some [])) := by
  constructor
  · intro h hmap
    exact ⟨fun hnull => h.ofNull hnull (canonicalize_write hmap hnull rfl),
      fun hempty => h.ofEmpty hempty (canonicalize_write hmap hempty rfl)⟩
  · intro h
    cases hmap : position.isMapValue with
    | true => exact ⟨fun hnull => absurd hnull (h hmap).1, fun hempty => absurd hempty (h hmap).2⟩
    | false =>
      constructor
      · intro hnull htexts
        have hread := read_eq_of_canonicalize_eq hmap htexts
        rw [TextPosition.read_write, hnull] at hread
        cases hread
      · intro hempty htexts
        have hread := read_eq_of_canonicalize_eq hmap htexts
        rw [TextPosition.read_write, hempty] at hread
        cases hread

end

namespace Samples

def symbolPacket (value : Option Text) : EvidencePacket where
  __ := samplePacket
  inputs := (∅ : StringMap).insert (lit "symbol") value

/-- `{"symbol": null}` and `{"symbol": ""}`. -/
theorem nullInput_hidden :
    canonicalize (symbolPacket none) = canonicalize (symbolPacket (some [])) ∧
      ¬Distinguished (symbolPacket none) (.input (lit "symbol")) := by
  have htexts : canonicalize (symbolPacket none) = canonicalize (symbolPacket (some [])) :=
    canonicalize_eq_iff.mpr (by decide +kernel)
  refine ⟨htexts, fun h => h.ofNull rfl ?_⟩
  exact canonicalize_eq_iff.mpr (by decide +kernel)

end Samples

end Fcmr.Approvals
