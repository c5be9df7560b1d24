import SelfDriving.Middle.Protocol

/-! Well-formed packets: the decoder accepts exactly these, and a body that is
sealed with its own CRC is one of them once its header fits its length. -/
namespace SelfDriving.Middle
open Ieee754 Bytes Python

/-- The count of values that a version has. -/
def floatCount (packetVersion : Nat) : Nat :=
  if packetVersion = version then payloadFloatCount else basePayloadFloatCount

/-- A packet of a version, with everything in it that a decoder checks. -/
structure WellFormed (data : List UInt8) (packetVersion : Nat) : Prop where
  known : packetVersion = version ∨ packetVersion = legacyVersion
  size : data.length = headerSize + 4 * floatCount packetVersion + 4
  crc : leField data (data.length - 4) 4 = (Crc32.crc32 (data.take (data.length - 4))).toNat
  start : field data 0 4 = magic
  versioned : leField data 4 1 = packetVersion
  counted : leField data 6 2 = floatCount packetVersion

theorem checkPacket_eq_ok_iff {data : List UInt8} {packetVersion : Nat} :
    checkPacket data = .ok packetVersion ↔ WellFormed data packetVersion := by
  constructor
  · intro checked
    simp only [checkPacket, raise_if_eq_ok] at checked
    obtain ⟨-, crc, start, known, long, count, ⟨⟩⟩ := checked
    have versions : leField data 4 1 = version ∨ leField data 4 1 = legacyVersion := by
      by_contra neither
      rw [not_or] at neither
      exact known (by simp [neither.1, neither.2])
    refine ⟨versions, ?_, not_not.mp crc, not_not.mp start, rfl, not_not.mp count⟩
    rw [not_not.mp long, floatCount]
    split <;> rfl
  · rintro ⟨known, size, crc, start, versioned, counted⟩
    rw [size] at crc
    simp only [checkPacket, raise_if_eq_ok, start, versioned, counted, size, crc]
    rcases known with rfl | rfl
    · exact ⟨by decide, not_not.mpr rfl, not_not.mpr rfl, by decide, by decide, by decide, trivial⟩
    · exact ⟨by decide, not_not.mpr rfl, not_not.mpr rfl, by decide, by decide, by decide, trivial⟩

/-- The count of persons as the packet carries it. -/
def countValue (data : List UInt8) : F64 := payloadValue data basePayloadFloatCount

theorem unpackPacket_of_legacy {data : List UInt8} (whole : WellFormed data legacyVersion) :
    unpackPacket data = .ok (packetFields data 0 []) := by
  rw [unpackPacket, checkPacket_eq_ok_iff.mpr whole]
  exact if_neg (by decide)

theorem unpackPacket_of_version {data : List UInt8} (whole : WellFormed data version) :
    unpackPacket data = match int (countValue data) with
      | .error error => .error error
      | .ok count => .ok (packetFields data (Max.max 0 (Min.min (maxPersonDetections : Int) count))
          ((List.range maxPersonDetections).map (personDetection data))) := by
  rw [unpackPacket, checkPacket_eq_ok_iff.mpr whole]
  exact if_pos rfl

/-- The checks raise nothing but value errors. -/
theorem checkPacket_cases (data : List UInt8) :
    (∃ packetVersion, checkPacket data = .ok packetVersion) ∨ ∃ text, checkPacket data = .error (.valueError text) := by
  unfold checkPacket
  dsimp only
  split_ifs <;> first | exact .inr ⟨_, rfl⟩ | exact .inl ⟨_, rfl⟩

theorem unpackPacket_of_malformed {data : List UInt8} (malformed : ¬ ∃ version, WellFormed data version) :
    ∃ text, unpackPacket data = .error (.valueError text) := by
  rcases checkPacket_cases data with ⟨packetVersion, checked⟩ | ⟨text, checked⟩
  · exact absurd ⟨packetVersion, checkPacket_eq_ok_iff.mp checked⟩ malformed
  · exact ⟨text, by rw [unpackPacket, checked]⟩

/-- A packet body with its CRC. -/
def sealed (body : List UInt8) : List UInt8 := body ++ leBytes 4 (Crc32.crc32 body).toNat

@[simp] theorem length_sealed (body : List UInt8) : (sealed body).length = body.length + 4 := by
  rw [sealed, List.length_append, length_leBytes]

/-- The fields of a sealed packet are those of its body. -/
theorem field_sealed {body : List UInt8} {offset width : Nat} (within : offset + width ≤ body.length) :
    field (sealed body) offset width = field body offset width := field_append_left within

theorem leField_sealed {body : List UInt8} {offset width : Nat} (within : offset + width ≤ body.length) :
    leField (sealed body) offset width = leField body offset width :=
  congrArg leNat (field_sealed within)

theorem payloadValue_sealed {body : List UInt8} {index : Nat}
    (within : headerSize + 4 * index + 4 ≤ body.length) :
    payloadValue (sealed body) index = payloadValue body index := by
  rw [payloadValue, singleAt, leField_sealed within, payloadValue, singleAt]

/-- A sealed body with a header that fits it is well formed. -/
theorem wellFormed_sealed {body : List UInt8} {packetVersion : Nat}
    (known : packetVersion = version ∨ packetVersion = legacyVersion)
    (size : body.length = headerSize + 4 * floatCount packetVersion) (start : field body 0 4 = magic)
    (versioned : leField body 4 1 = packetVersion) (counted : leField body 6 2 = floatCount packetVersion) :
    WellFormed (sealed body) packetVersion := by
  have header {offset width : Nat} (within : offset + width ≤ headerSize) : offset + width ≤ body.length := by
    omega
  have kept : (sealed body).take body.length = body := List.take_left
  refine ⟨known, by rw [length_sealed, size], ?_, ?_, ?_, ?_⟩
  · rw [length_sealed, Nat.add_sub_cancel, kept]
    exact leField_append_leBytes body (Crc32.crc32 body).toNat_lt
  · rw [field_sealed (header (by decide)), start]
  · rw [leField_sealed (header (by decide)), versioned]
  · rw [leField_sealed (header (by decide)), counted]

/-- A version 1 body of zeros but for its flags and its sequence. -/
def legacyBody (flags : UInt8) (sequence : Nat) : List UInt8 :=
  magic ++ [1, flags, 12, 0] ++ leBytes 4 sequence ++ List.replicate 64 0

theorem wellFormed_legacyBody (flags : UInt8) (sequence : Nat) :
    WellFormed (sealed (legacyBody flags sequence)) legacyVersion :=
  wellFormed_sealed (.inr rfl) rfl rfl rfl rfl

theorem flags_legacyBody (flags : UInt8) (sequence : Nat) :
    leField (sealed (legacyBody flags sequence)) 5 1 = flags.toNat :=
  leField_sealed (by change 5 + 1 ≤ 76; decide)

theorem sequence_legacyBody (flags : UInt8) {sequence : Nat} (fits : sequence < 256 ^ 4) :
    leField (sealed (legacyBody flags sequence)) 8 4 = sequence :=
  (leField_sealed (by change 8 + 4 ≤ 76; decide)).trans (leNat_leBytes fits)

/-- A version 2 body of zeros but for its count of persons. -/
def countedBody (count : F32) : List UInt8 :=
  magic ++ [2, 0, 31, 0] ++ List.replicate 68 0 ++ singleBytes count ++ List.replicate 72 0

theorem wellFormed_countedBody (count : F32) : WellFormed (sealed (countedBody count)) version :=
  wellFormed_sealed (.inl rfl) rfl rfl rfl rfl

theorem countValue_countedBody (count : F32) : countValue (sealed (countedBody count)) = unpackSingle count := by
  have within : headerSize + 4 * basePayloadFloatCount + 4 ≤ (countedBody count).length := by
    change 80 ≤ 152
    decide
  have place : field (countedBody count) (headerSize + 4 * basePayloadFloatCount) 4 = singleBytes count := rfl
  rw [countValue, payloadValue_sealed within, payloadValue, singleAt, leField, place, ofBits_singleBytes]

end SelfDriving.Middle
