import SelfDriving.Hpvc.ReceiveFrontend
import SelfDriving.Middle.ProtocolProofs

/-! The HPVC model's decoder against the well-formed packets of the MIDDLE
controller: it takes exactly these, and reads the same numbers in them. -/
namespace SelfDriving.Hpvc
open Bytes Ieee754

/-! ### Numbers in a packet -/

/-- A byte above the low bits adds its value. -/
theorem or_shiftLeft_toNat {low : UInt32} (byte : UInt8) (shift : UInt32) (within : shift.toNat ≤ 24)
    (fits : low.toNat < 2 ^ shift.toNat) :
    (low ||| byte.toUInt32 <<< shift).toNat = low.toNat + byte.toNat * 2 ^ shift.toNat := by
  have small : byte.toNat * 2 ^ shift.toNat < 2 ^ 32 :=
    calc byte.toNat * 2 ^ shift.toNat
        < 2 ^ 8 * 2 ^ shift.toNat := Nat.mul_lt_mul_of_pos_right byte.toNat_lt (by positivity)
      _ ≤ 2 ^ 8 * 2 ^ 24 := Nat.mul_le_mul_left _ (Nat.pow_le_pow_right (by decide) within)
  have shifted : (byte.toUInt32 <<< shift).toNat = byte.toNat <<< shift.toNat := by
    rw [UInt32.toNat_shiftLeft, UInt8.toNat_toUInt32, Nat.mod_eq_of_lt (by omega : shift.toNat < 32),
      Nat.mod_eq_of_lt (by rwa [Nat.shiftLeft_eq])]
  rw [UInt32.toNat_or, shifted, Nat.or_comm, ← Nat.shiftLeft_add_eq_or_of_lt fits, Nat.shiftLeft_eq,
    Nat.add_comm]

/-- A field is the bytes at its places, counted from one. -/
theorem field_eq_byteAt {data : List UInt8} {offset width : Nat} (within : offset + width ≤ data.length) :
    field data offset width = (List.range width).map fun place => byteAt data (offset + 1 + place) := by
  rw [field_eq_map within]
  apply List.map_congr_left
  intro place _
  rw [byteAt, show offset + 1 + place - 1 = offset + place by omega]

theorem byteAt_toNat {data : List UInt8} {offset : Nat} (within : offset + 1 ≤ data.length) :
    (byteAt data (offset + 1)).toNat = leField data offset 1 := by
  rw [leField, field_eq_byteAt within]
  rfl

theorem readU16_toNat {data : List UInt8} {offset : Nat} (within : offset + 2 ≤ data.length) :
    (readU16 data (offset + 1)).toNat = leField data offset 2 := by
  have low := (byteAt data (offset + 1)).toNat_lt
  have high := (byteAt data (offset + 1 + 1)).toNat_lt
  have shifted : (byteAt data (offset + 1 + 1)).toNat <<< 8 < 2 ^ 16 := by
    rw [Nat.shiftLeft_eq]
    omega
  rw [leField, field_eq_byteAt within, readU16, UInt16.toNat_or, UInt16.toNat_shiftLeft,
    UInt8.toNat_toUInt16, UInt8.toNat_toUInt16]
  change _ ||| (byteAt data (offset + 1 + 1)).toNat <<< 8 % 2 ^ 16 =
    leNat [byteAt data (offset + 1), byteAt data (offset + 1 + 1)]
  rw [Nat.mod_eq_of_lt shifted, Nat.or_comm, ← Nat.shiftLeft_add_eq_or_of_lt low, Nat.shiftLeft_eq]
  simp only [leNat]
  omega

theorem readU32_toNat {data : List UInt8} {offset : Nat} (within : offset + 4 ≤ data.length) :
    (readU32 data (offset + 1)).toNat = leField data offset 4 := by
  have first := (byteAt data (offset + 1)).toNat_lt
  have second := (byteAt data (offset + 1 + 1)).toNat_lt
  have third := (byteAt data (offset + 1 + 2)).toNat_lt
  have zero : (byteAt data (offset + 1)).toUInt32.toNat = (byteAt data (offset + 1)).toNat :=
    UInt8.toNat_toUInt32 _
  have one := or_shiftLeft_toNat (byteAt data (offset + 1 + 1)) 8 (by decide) (by rwa [zero])
  rw [zero, show (8 : UInt32).toNat = 8 from rfl] at one
  have two := or_shiftLeft_toNat (byteAt data (offset + 1 + 2)) 16 (by decide) (by
    rw [one, show (16 : UInt32).toNat = 16 from rfl]
    omega)
  rw [one, show (16 : UInt32).toNat = 16 from rfl] at two
  have three := or_shiftLeft_toNat (byteAt data (offset + 1 + 3)) 24 (by decide) (by
    rw [two, show (24 : UInt32).toNat = 24 from rfl]
    omega)
  rw [two, show (24 : UInt32).toNat = 24 from rfl] at three
  rw [leField, field_eq_byteAt within, readU32, three]
  change _ = leNat [byteAt data (offset + 1), byteAt data (offset + 1 + 1), byteAt data (offset + 1 + 2),
    byteAt data (offset + 1 + 3)]
  simp only [leNat]
  omega

/-! ### Packets -/

/-- The layout of a version is that of the sender. -/
theorem expectedLayout_iff {version : UInt8} {length : Nat} {count : UInt16} :
    expectedLayout version = some (length, count) ↔
      (version.toNat = Middle.version ∨ version.toNat = Middle.legacyVersion) ∧
        length = Middle.headerSize + 4 * Middle.floatCount version.toNat + 4 ∧
        count.toNat = Middle.floatCount version.toNat := by
  have legacy : version.toNat = Middle.legacyVersion ↔ version = 1 := UInt8.toNat_inj (b := 1)
  have current : version.toNat = Middle.version ↔ version = 2 := UInt8.toNat_inj (b := 2)
  have twelve : count.toNat = 12 ↔ count = 12 := UInt16.toNat_inj (b := 12)
  have thirtyOne : count.toNat = 31 ↔ count = 31 := UInt16.toNat_inj (b := 31)
  rw [legacy, current, expectedLayout, Middle.floatCount]
  simp only [current]
  by_cases one : version = 1
  · subst one
    simp [Middle.headerSize, Middle.basePayloadFloatCount, twelve, eq_comm]
  by_cases two : version = 2
  · subst two
    simp [Middle.headerSize, Middle.payloadFloatCount, Middle.basePayloadFloatCount,
      Middle.maxPersonDetections, Middle.personDetectionFloatCount, thirtyOne, eq_comm]
  · simp [one, two]

/-- The magic number, byte by byte. -/
theorem magic_iff {data : List UInt8} (within : 4 ≤ data.length) :
    field data 0 4 = Middle.magic ↔
      byteAt data 1 = 77 ∧ byteAt data 2 = 73 ∧ byteAt data 3 = 68 ∧ byteAt data 4 = 50 := by
  rw [field_eq_byteAt (by omega)]
  change [byteAt data 1, byteAt data 2, byteAt data 3, byteAt data 4] = [77, 73, 68, 50] ↔ _
  simp

/-- The checks of this decoder pass for a packet that is well formed. -/
theorem wellFormed_iff {data : List UInt8} {length : Nat} {count : UInt16}
    (layout : expectedLayout (byteAt data 5) = some (length, count)) (long : 80 ≤ data.length) :
    (∃ version, Middle.WellFormed data version) ↔
      data.length = length ∧
        (byteAt data 1 = 77 ∧ byteAt data 2 = 73 ∧ byteAt data 3 = 68 ∧ byteAt data 4 = 50) ∧
        readU16 data 7 = count ∧ readU32 data (data.length - 3) = calculateCrc32 (data.take (data.length - 4)) := by
  obtain ⟨known, size, values⟩ := expectedLayout_iff.mp layout
  have versioned : (byteAt data 5).toNat = leField data 4 1 := byteAt_toNat (by omega)
  have counted : (readU16 data 7).toNat = leField data 6 2 := readU16_toNat (by omega)
  have crc : (readU32 data (data.length - 3)).toNat = leField data (data.length - 4) 4 := by
    rw [show data.length - 3 = data.length - 4 + 1 by omega]
    exact readU32_toNat (by omega)
  rw [versioned] at known size values
  constructor
  · rintro ⟨version, whole⟩
    obtain rfl := whole.versioned
    refine ⟨whole.size.trans size.symm, (magic_iff (by omega)).mp whole.start, ?_, ?_⟩
    · exact UInt16.toNat_inj.mp (counted.trans (whole.counted.trans values.symm))
    · exact UInt32.toNat_inj.mp (crc.trans whole.crc)
  · rintro ⟨exact, start, sameCount, sameCrc⟩
    refine ⟨leField data 4 1, known, exact.trans size, ?_, (magic_iff (by omega)).mpr start, rfl, ?_⟩
    · rw [← crc, sameCrc, calculateCrc32]
    · rw [← counted, sameCount, values]

/-- A well-formed packet has one of the two lengths. -/
theorem length_of_wellFormed {data : List UInt8} {version : Nat} (whole : Middle.WellFormed data version) :
    data.length = 80 ∨ data.length = 156 := by
  rcases whole.known with rfl | rfl
  · exact .inr whole.size
  · exact .inl whole.size

/-- The version of a well-formed packet has a layout here. -/
theorem expectedLayout_ne_none {data : List UInt8} {version : Nat} (whole : Middle.WellFormed data version) :
    expectedLayout (byteAt data 5) ≠ none := by
  have long := length_of_wellFormed whole
  have versioned : (byteAt data 5).toNat = version :=
    (byteAt_toNat (by omega)).trans whole.versioned
  have counted : (UInt16.ofNat (Middle.floatCount version)).toNat = Middle.floatCount version := by
    rcases whole.known with rfl | rfl <;> rfl
  have layout := expectedLayout_iff.mpr ⟨versioned ▸ whole.known, rfl, versioned ▸ counted⟩
  rw [layout]
  exact Option.some_ne_none _

/-- A value of the payload, counted from one. -/
def payloadAt (data : List UInt8) (k : Nat) : F32 := readSingle data (29 + (k - 1) * 4)

/-- What the decoder reads in a packet that passes its checks. -/
def readPacket (data : List UInt8) : MiddlePacket where
  laneFeatures := (List.range 10).map fun k => payloadAt data (k + 1)
  sideDistances := [payloadAt data 11, payloadAt data 12]
  flags := byteAt data 6
  sequence := readU32 data 9
  frameTimestampUs := readU64 data 13
  ultrasonicTimestampUs := readU64 data 21
  packetValid := true
  personDetections :=
    if byteAt data 5 = 2 then
      (List.range 3).map fun index => (List.range 6).map fun field => payloadAt data (14 + index * 6 + field)
    else noPacket.personDetections
  personCount := if byteAt data 5 = 2 then countPersons (payloadAt data 13) else 0

/-- The decoder takes exactly the well-formed packets, and reads their fields. -/
theorem middleDecodePacket_cases (data : List UInt8) :
    ((∃ version, Middle.WellFormed data version) ∧ middleDecodePacket data true = readPacket data) ∨
    ((¬ ∃ version, Middle.WellFormed data version) ∧ middleDecodePacket data true = noPacket) := by
  generalize decoded : middleDecodePacket data true = packet
  simp only [middleDecodePacket] at decoded
  split at decoded
  · rename_i lengths
    refine .inr ⟨?_, decoded.symm⟩
    rintro ⟨version, whole⟩
    rcases length_of_wellFormed whole with short | long
    · simp [short] at lengths
    · simp [long] at lengths
  rename_i lengths
  have long : 80 ≤ data.length := by
    by_contra short
    exact lengths (by simp; omega)
  split at decoded
  · rename_i layout
    refine .inr ⟨?_, decoded.symm⟩
    rintro ⟨version, whole⟩
    exact expectedLayout_ne_none whole layout
  rename_i expectedLength expectedFloatCount layout
  rw [wellFormed_iff layout long]
  split at decoded
  · rename_i other
    exact .inr ⟨fun passes => other passes.1, decoded.symm⟩
  rename_i exact
  split at decoded
  · rename_i fails
    refine .inr ⟨fun passes => ?_, decoded.symm⟩
    simp [passes.2.1, passes.2.2] at fails
  · rename_i passes
    refine .inl ⟨⟨not_not.mp exact, ?_⟩, decoded.symm⟩
    simpa [and_assoc] using passes

end SelfDriving.Hpvc
