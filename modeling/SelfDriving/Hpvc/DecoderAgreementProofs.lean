import SelfDriving.Foundations.Ieee754Widening
import SelfDriving.Hpvc.DecodeProofs

/-! The two decoders of perception packets side by side. They take the same bytes and
read the same numbers, except where a well-formed packet counts its persons with a
value that is not finite: the model's decoder clamps it, while the host's converts
it to an integer first, and the conversion raises an exception. -/
namespace SelfDriving.Hpvc
open Ieee754 Bytes Python

/-- The fields of a packet are the same for both decoders. The numbers of the host are
doubles, those of the model singles; the persons are compared where the version has them. -/
structure SameFields (data : List UInt8) (packet : Middle.PerceptionPacket) (decoded : MiddlePacket) : Prop where
  flags : packet.flags = decoded.flags.toNat
  sequence : packet.sequence = decoded.sequence.toNat
  frameTimestampUs : packet.frameTimestampUs = decoded.frameTimestampUs.toNat
  ultrasonicTimestampUs : packet.ultrasonicTimestampUs = decoded.ultrasonicTimestampUs.toNat
  lanes : packet.left.values ++ packet.right.values = decoded.laneFeatures.map unpackSingle
  sides : [packet.sideLeftDistanceM, packet.sideRightDistanceM] = decoded.sideDistances.map unpackSingle
  personCount : packet.personCount = decoded.personCount.toNat
  persons : leField data 4 1 = Middle.version →
    packet.persons.map Middle.PersonDetection.values = decoded.personDetections.map (List.map unpackSingle)

/-- Both decoders take a packet or neither does, and they read the same in it. -/
def DecodersAgree (data : List UInt8) : Prop :=
  ((∃ packet, Middle.unpackPacket data = .ok packet) ↔ (middleDecodePacket data true).packetValid = true) ∧
    ∀ packet, Middle.unpackPacket data = .ok packet → SameFields data packet (middleDecodePacket data true)

/-- A version 2 packet, well formed but for a count of persons that is no finite number. -/
def UncountedPersons (data : List UInt8) : Prop :=
  Middle.WellFormed data Middle.version ∧ (Middle.countValue data).isFinite = false

/-! ### Numbers -/

theorem readU64_toNat {data : List UInt8} {offset : Nat} (within : offset + 8 ≤ data.length) :
    (readU64 data (offset + 1)).toNat = leField data offset 8 := by
  have halves : leField data offset 8 = leField data offset 4 + 256 ^ 4 * leField data (offset + 4) 4 :=
    leField_add (by omega : offset + 4 + 4 ≤ data.length)
  have low : (readU32 data (offset + 1)).toNat = leField data offset 4 := readU32_toNat (by omega)
  have high : (readU32 data (offset + 1 + 4)).toNat = leField data (offset + 4) 4 := by
    rw [Nat.add_right_comm]
    exact readU32_toNat (by omega)
  have small := (readU32 data (offset + 1)).toNat_lt
  have small' := (readU32 data (offset + 1 + 4)).toNat_lt
  have shifted : ((readU32 data (offset + 1 + 4)).toUInt64 <<< 32).toNat =
      (readU32 data (offset + 1 + 4)).toNat <<< 32 := by
    rw [UInt64.toNat_shiftLeft, UInt32.toNat_toUInt64]
    change _ <<< 32 % 2 ^ 64 = _
    rw [Nat.mod_eq_of_lt (by rw [Nat.shiftLeft_eq]; omega)]
  rw [readU64, UInt64.toNat_or, shifted, UInt32.toNat_toUInt64, Nat.or_comm,
    ← Nat.shiftLeft_add_eq_or_of_lt small, Nat.shiftLeft_eq, low, high]
  omega

/-- A value of the payload is the same single for both. -/
theorem unpackSingle_payloadAt (data : List UInt8) (index : Nat)
    (within : Middle.headerSize + 4 * index + 4 ≤ data.length) :
    unpackSingle (payloadAt data (index + 1)) = Middle.payloadValue data index := by
  have place : 29 + (index + 1 - 1) * 4 = Middle.headerSize + 4 * index + 1 := by
    rw [Middle.headerSize, Nat.add_sub_cancel]
    omega
  rw [payloadAt, readSingle, place, readU32_toNat within]
  rfl

/-- A row of values is the same for both. -/
theorem map_payloadAt (data : List UInt8) (start count : Nat)
    (within : Middle.headerSize + 4 * (start + count) ≤ data.length) :
    ((List.range count).map fun k => payloadAt data (start + k + 1)).map unpackSingle =
      (List.range count).map fun k => Middle.payloadValue data (start + k) := by
  rw [List.map_map]
  apply List.map_congr_left
  intro k member
  have small := List.mem_range.mp member
  exact unpackSingle_payloadAt data (start + k) (by omega)

/-- A finite count of persons is clamped to the same number by both. -/
theorem countPersons_eq {count : F32} (finite : count.isFinite = true) :
    Max.max 0 (Min.min (Middle.maxPersonDetections : Int) (unpackSingle count).trunc) =
      (countPersons count).toNat := by
  have value := (Ieee.convert_of_isFinite widens_binary finite).2
  have small : Min.min ⌊count.absVal⌋₊ 3 < 256 := by omega
  rw [countPersons, Ieee.isNaN_of_isFinite finite, Bool.false_or, Ieee.trunc, unpackSingle, Ieee.neg_convert, value]
  cases count.neg
  · simp only [Bool.false_eq_true, if_false, Middle.maxPersonDetections, UInt8.toNat_ofNat',
      Nat.mod_eq_of_lt small]
    omega
  · simp only [if_true, Middle.maxPersonDetections, UInt8.toNat_zero]
    omega

/-! ### Packets -/

/-- The persons of a version 2 packet are the same for both. -/
theorem persons_eq {data : List UInt8} (long : 156 ≤ data.length) :
    ((List.range Middle.maxPersonDetections).map (Middle.personDetection data)).map Middle.PersonDetection.values =
      ((List.range 3).map fun index =>
        (List.range 6).map fun field => payloadAt data (14 + index * 6 + field)).map (List.map unpackSingle) := by
  rw [List.map_map, List.map_map]
  apply List.map_congr_left
  intro index member
  have small := List.mem_range.mp member
  have row := map_payloadAt data (13 + index * 6) 6
    (by simp only [Middle.headerSize, Middle.maxPersonDetections] at *; omega)
  have places (field : Nat) : 14 + index * 6 + field = 13 + index * 6 + field + 1 := by omega
  simp only [Function.comp, places, row]
  rfl

/-- A packet that both take, with the count of persons that its version has. -/
theorem sameFields {data : List UInt8} {personCount : Int} {persons : List Middle.PersonDetection}
    (long : 80 ≤ data.length) (counted : personCount = (readPacket data).personCount.toNat)
    (detected : leField data 4 1 = Middle.version →
      persons.map Middle.PersonDetection.values = (readPacket data).personDetections.map (List.map unpackSingle)) :
    SameFields data (Middle.packetFields data personCount persons) (readPacket data) where
  flags := congrArg Int.ofNat (byteAt_toNat (by omega)).symm
  sequence := congrArg Int.ofNat (readU32_toNat (by omega)).symm
  frameTimestampUs := congrArg Int.ofNat (readU64_toNat (by omega)).symm
  ultrasonicTimestampUs := congrArg Int.ofNat (readU64_toNat (by omega)).symm
  lanes := by
    have row := map_payloadAt data 0 10 (by simp only [Middle.headerSize]; omega)
    simp only [Nat.zero_add] at row
    rw [readPacket, row]
    rfl
  sides := by
    have left := unpackSingle_payloadAt data 10 (by simp only [Middle.headerSize]; omega)
    have right := unpackSingle_payloadAt data 11 (by simp only [Middle.headerSize]; omega)
    rw [readPacket, List.map_cons, List.map_cons, List.map_nil, left, right]
    rfl
  personCount := counted
  persons := detected

/-- A datagram that both decoders take, with one reading. -/
theorem DecodersAgree.of_ok {data : List UInt8} {packet : Middle.PerceptionPacket}
    (unpacked : Middle.unpackPacket data = .ok packet) (decoded : middleDecodePacket data true = readPacket data)
    (same : SameFields data packet (readPacket data)) : DecodersAgree data := by
  rw [DecodersAgree, unpacked, decoded]
  refine ⟨⟨fun _ => rfl, fun _ => ⟨packet, rfl⟩⟩, ?_⟩
  rintro _ ⟨⟩
  exact same

/-- A datagram that only the model's decoder takes. -/
theorem not_decodersAgree {data : List UInt8} {error : PyError} (raised : Middle.unpackPacket data = .error error)
    (decoded : middleDecodePacket data true = readPacket data) : ¬ DecodersAgree data := by
  intro agree
  obtain ⟨packet, taken⟩ := agree.1.mpr (by rw [decoded]; rfl)
  rw [raised] at taken
  cases taken

/-- On a version 2 packet the count of persons decides. -/
theorem decodersAgree_of_version {data : List UInt8} (whole : Middle.WellFormed data Middle.version)
    (decoded : middleDecodePacket data true = readPacket data) :
    DecodersAgree data ↔ (Middle.countValue data).isFinite = true := by
  have long : 156 ≤ data.length := whole.size.ge
  have versioned : (byteAt data 5).toNat = 2 := (byteAt_toNat (by omega)).trans whole.versioned
  have current : byteAt data 5 = 2 := UInt8.toNat_inj.mp versioned
  have count : unpackSingle (payloadAt data 13) = Middle.countValue data :=
    unpackSingle_payloadAt data 12 (by simp only [Middle.headerSize]; omega)
  have unpacked := Middle.unpackPacket_of_version whole
  rcases int_cases (Middle.countValue data) with ⟨finite, converted⟩ | ⟨nan, raised⟩ | ⟨inf, raised⟩
  · rw [converted] at unpacked
    have finite' := finite
    rw [← count, unpackSingle, Ieee.isFinite_convert widens_binary] at finite'
    refine iff_of_true (DecodersAgree.of_ok unpacked decoded (sameFields (by omega) ?_ fun _ => ?_)) finite
    · simp only [← count, countPersons_eq finite', readPacket, if_pos current]
    · simp only [readPacket, if_pos current]
      exact persons_eq long
  · rw [raised] at unpacked
    refine iff_of_false (not_decodersAgree unpacked decoded) ?_
    rw [Ieee.not_isFinite_of_isNaN nan]
    exact Bool.false_ne_true
  · rw [raised] at unpacked
    refine iff_of_false (not_decodersAgree unpacked decoded) ?_
    rw [Ieee.not_isFinite_of_isInf inf]
    exact Bool.false_ne_true

/-- The decoders agree on every byte string but on a version 2 packet, well formed
otherwise, whose count of persons is not finite. -/
theorem decodersAgree_iff (data : List UInt8) : DecodersAgree data ↔ ¬ UncountedPersons data := by
  rcases middleDecodePacket_cases data with ⟨⟨version, whole⟩, decoded⟩ | ⟨malformed, decoded⟩
  · have lengths := length_of_wellFormed whole
    have long : 80 ≤ data.length := by omega
    have versioned : (byteAt data 5).toNat = version := (byteAt_toNat (by omega)).trans whole.versioned
    rcases whole.known with rfl | rfl
    · rw [decodersAgree_of_version whole decoded, UncountedPersons, and_iff_right whole, Bool.not_eq_false]
    · have legacy : byteAt data 5 ≠ 2 := by
        intro current
        rw [current] at versioned
        cases versioned
      refine iff_of_true (DecodersAgree.of_ok (Middle.unpackPacket_of_legacy whole) decoded
        (sameFields long ?_ fun current => ?_)) ?_
      · simp only [readPacket, if_neg legacy]
        rfl
      · exact absurd (whole.versioned.symm.trans current) (by decide)
      · rintro ⟨current, -⟩
        exact absurd (whole.versioned.symm.trans current.versioned) (by decide)
  · obtain ⟨error, raised⟩ := Middle.unpackPacket_of_malformed malformed
    rw [DecodersAgree, decoded, raised]
    refine iff_of_true ⟨⟨?_, fun valid => absurd valid Bool.false_ne_true⟩, ?_⟩ fun uncounted =>
      malformed ⟨_, uncounted.1⟩
    · rintro ⟨packet, taken⟩
      cases taken
    · intro packet taken
      cases taken

/-- A packet whose count of persons is NaN. -/
theorem nan_count_splits_decoders : ¬ DecodersAgree (Middle.sealed (Middle.countedBody Ieee.nan)) := by
  have whole := Middle.wellFormed_countedBody Ieee.nan
  have unpacked := Middle.unpackPacket_of_version whole
  have nan : (Middle.countValue (Middle.sealed (Middle.countedBody Ieee.nan))).isNaN = true := by
    rw [Middle.countValue_countedBody, unpackSingle, Ieee.isNaN_convert, Ieee.isNaN_nan]
  rw [int, if_pos nan] at unpacked
  rcases middleDecodePacket_cases (Middle.sealed (Middle.countedBody Ieee.nan)) with ⟨_, decoded⟩ | ⟨malformed, _⟩
  · exact not_decodersAgree unpacked decoded
  · exact absurd ⟨_, whole⟩ malformed

end SelfDriving.Hpvc
