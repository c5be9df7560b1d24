import SelfDriving.Front.SensorPacket
import SelfDriving.Hpvc.AebRuntime
import SelfDriving.Hpvc.DecodeProofs
import SelfDriving.Hpvc.FrontAebDecode
import SelfDriving.Hpvc.FrontSnapshotProofs

/-! The sensor packets between FRONT and the HPVC: the one encoder agrees with the three
decoders, byte for byte. -/
namespace SelfDriving.Hpvc
open Ieee754 Python Bytes Front

/-- A distance of the wire in metres, rounded once. -/
def metres (cmX10 : UInt16) : F64 := Ieee.ofInt cmX10.toNat / (1000.0 : F64)

/-- The frame that `hpvc_aeb` makes of a sensor frame. -/
def decodedFrame (frame : Frame) (arrivalTime : F64) : FrontSensorFrame where
  sequence := frame.sequence.toNat
  timestampMs := frame.timestampMs.toNat
  arrivalTime := arrivalTime
  validMask := frame.validMask.toNat
  tofDiag := frame.tofDiag.toNat
  tofFrontM := metres frame.tofFrontCmX10
  ultrasonicLeftM := metres frame.ultrasonicLeftCmX10
  ultrasonicRightM := metres frame.ultrasonicRightCmX10

theorem sensorPayload_head (frame : Frame) :
    field (sensorPayload frame) 0 4 = frontMagic ∧ leField (sensorPayload frame) 4 1 = 1 ∧
      leField (sensorPayload frame) 5 1 = frame.validMask.toNat := ⟨rfl, rfl, rfl⟩

theorem decodeFrontPacket_sensorPayload (frame : Frame) (arrivalTime : F64) :
    decodeFrontPacket (sensorPayload frame) arrivalTime = .ok (decodedFrame frame arrivalTime) := by
  obtain ⟨magic, version, validMask⟩ := sensorPayload_head frame
  obtain ⟨tofDiag, sequence, timestampMs, tof, left, right⟩ := sensorPayload_fields frame
  have long := length_sensorPayload frame
  simp only [decodeFrontPacket, decodeFrontAeb1, long, magic, version, validMask, tofDiag, sequence, timestampMs, tof,
    left, right]
  rfl

/-- What the runtime store makes of a sensor frame. -/
theorem decodeFrontAeb_sensorPayload (frame : Frame) :
    ∃ snapshot, decodeFrontAeb (sensorPayload frame) = some snapshot ∧
      snapshot.sensorValid = frame.validMask.toNat ∧ snapshot.sensorFault = frame.tofDiag.toNat ∧
      snapshot.sequence = some frame.sequence.toNat ∧ snapshot.timestampMs = some frame.timestampMs.toNat ∧
      snapshot.tofM = metres frame.tofFrontCmX10 ∧ snapshot.leftDiagDistanceM = metres frame.ultrasonicLeftCmX10 ∧
      snapshot.rightDiagDistanceM = metres frame.ultrasonicRightCmX10 := by
  obtain ⟨magic, version, validMask⟩ := sensorPayload_head frame
  obtain ⟨tofDiag, sequence, timestampMs, tof, left, right⟩ := sensorPayload_fields frame
  have long : frontAeb1Bytes ≤ (sensorPayload frame).length := (length_sensorPayload frame).ge
  rcases decodeFrontAeb_aeb1 long magic with ⟨other, -⟩ | ⟨-, snapshot, decoded, carries⟩
  · exact absurd version other
  · refine ⟨snapshot, decoded, ?_, ?_, ?_, ?_, ?_, ?_, ?_⟩
    · rw [carries.validMask, validMask]
    · rw [carries.fault, tofDiag]
    · rw [carries.sequence, sequence]
    · rw [carries.timestampMs, timestampMs]
    · rw [carries.tof, tof, metres]
    · rw [carries.left, left, metres]
    · rw [carries.right, right, metres]

theorem readU16_sensorPayload (frame : Frame) (value : UInt16) (offset : Nat) (within : offset + 2 ≤ 22)
    (there : leField (sensorPayload frame) offset 2 = value.toNat) :
    readU16 (sensorPayload frame) (offset + 1) = value := by
  rw [← UInt16.toNat_inj, readU16_toNat within, there]

theorem readU32_sensorPayload (frame : Frame) (value : UInt32) (offset : Nat) (within : offset + 4 ≤ 22)
    (there : leField (sensorPayload frame) offset 4 = value.toNat) :
    readU32 (sensorPayload frame) (offset + 1) = value := by
  rw [← UInt32.toNat_inj, readU32_toNat within, there]

/-- What the HPVC model makes of a sensor frame. -/
theorem frontAebDecodePacket_sensorPayload (frame : Frame) :
    frontAebDecodePacket (sensorPayload frame) true =
      { distancesM := [metres frame.ultrasonicLeftCmX10, metres frame.ultrasonicRightCmX10,
          metres frame.tofFrontCmX10].map (Ieee.convert binary32)
        validMask := frame.validMask
        sequence := frame.sequence
        timestampMs := frame.timestampMs
        tofDiag := frame.tofDiag
        packetValid := true } := by
  obtain ⟨tofDiag, sequence, timestampMs, tof, left, right⟩ := sensorPayload_fields frame
  have fields := And.intro (readU16_sensorPayload frame _ 6 (by decide) tofDiag)
    (And.intro (readU32_sensorPayload frame _ 8 (by decide) sequence)
      (readU32_sensorPayload frame _ 12 (by decide) timestampMs))
  have distances := And.intro (readU16_sensorPayload frame _ 16 (by decide) tof)
    (And.intro (readU16_sensorPayload frame _ 18 (by decide) left)
      (readU16_sensorPayload frame _ 20 (by decide) right))
  have magic : byteAt (sensorPayload frame) 1 = 65 ∧ byteAt (sensorPayload frame) 2 = 69 ∧
      byteAt (sensorPayload frame) 3 = 66 ∧ byteAt (sensorPayload frame) 4 = 49 := ⟨rfl, rfl, rfl, rfl⟩
  have version : byteAt (sensorPayload frame) 5 = 1 := rfl
  have validMask : byteAt (sensorPayload frame) 6 = frame.validMask := rfl
  simp only [frontAebDecodePacket, length_sensorPayload, magic, version, validMask, fields, distances]
  rfl

/-- Every sensor frame leaves as one well-formed UDP datagram, and each decoder of the HPVC
takes the frame's own values out of it. -/
theorem sensor_frame_wire_correct (frame : Frame) (arrivalTime : F64) :
    let packet := buildPacket frame
    WellFormedUdp packet ∧ beField16 packet 16 = 50 ∧ beField16 packet 38 = 30 ∧
    (udpPayload packet).length = 22 ∧
    decodeFrontPacket (udpPayload packet) arrivalTime = .ok
      { sequence := frame.sequence.toNat
        timestampMs := frame.timestampMs.toNat
        arrivalTime := arrivalTime
        validMask := frame.validMask.toNat
        tofDiag := frame.tofDiag.toNat
        tofFrontM := metres frame.tofFrontCmX10
        ultrasonicLeftM := metres frame.ultrasonicLeftCmX10
        ultrasonicRightM := metres frame.ultrasonicRightCmX10 } ∧
    (∃ snapshot, decodeFrontAeb (udpPayload packet) = some snapshot ∧
      snapshot.sensorValid = frame.validMask.toNat ∧ snapshot.sensorFault = frame.tofDiag.toNat ∧
      snapshot.sequence = some frame.sequence.toNat ∧ snapshot.timestampMs = some frame.timestampMs.toNat ∧
      snapshot.tofM = metres frame.tofFrontCmX10 ∧ snapshot.leftDiagDistanceM = metres frame.ultrasonicLeftCmX10 ∧
      snapshot.rightDiagDistanceM = metres frame.ultrasonicRightCmX10) ∧
    frontAebDecodePacket (udpPayload packet) true =
      { distancesM := [metres frame.ultrasonicLeftCmX10, metres frame.ultrasonicRightCmX10,
          metres frame.tofFrontCmX10].map (Ieee.convert binary32)
        validMask := frame.validMask
        sequence := frame.sequence
        timestampMs := frame.timestampMs
        tofDiag := frame.tofDiag
        packetValid := true } := by
  intro packet
  have formed : WellFormedUdp packet := buildPacket_wellFormed frame
  have total : beField16 packet 16 = 50 := by
    have length := formed.totalLength
    rw [length_buildPacket] at length
    omega
  have udp : beField16 packet 38 = 30 := by
    have length := formed.udpLength
    omega
  rw [udpPayload_buildPacket]
  exact ⟨formed, total, udp, length_sensorPayload frame, decodeFrontPacket_sensorPayload frame arrivalTime,
    decodeFrontAeb_sensorPayload frame, frontAebDecodePacket_sensorPayload frame⟩

/-! ### The two decoders in Python -/

/-- The runtime store's values are those of the frame. -/
structure SameReadings (frame : FrontSensorFrame) (snapshot : FrontSnapshot) : Prop where
  left : frame.ultrasonicLeftM = snapshot.leftDiagDistanceM
  right : frame.ultrasonicRightM = snapshot.rightDiagDistanceM
  tof : frame.tofFrontM = snapshot.tofM
  validMask : frame.validMask = snapshot.sensorValid
  fault : frame.tofDiag = snapshot.sensorFault

/-- Both decode the byte string and to the same readings, or neither does. -/
structure FrontDecodersAgree (data : List UInt8) (arrivalTime : F64) : Prop where
  refused : (∃ error, decodeFrontPacket data arrivalTime = .error error) ↔ decodeFrontAeb data = none
  decoded : ∀ frame snapshot, decodeFrontPacket data arrivalTime = .ok frame → decodeFrontAeb data = some snapshot →
    SameReadings frame snapshot

/-- A sensor packet of the present kind that lost its end, but is as long as one of the oldest kind. -/
def TruncatedAeb1 (data : List UInt8) : Prop :=
  field data 0 4 = frontMagic ∧ 15 ≤ data.length ∧ data.length < 22

theorem FrontDecodersAgree.of_ok {data : List UInt8} {arrivalTime : F64} {frame : FrontSensorFrame}
    {snapshot : FrontSnapshot} (ok : decodeFrontPacket data arrivalTime = .ok frame)
    (some : decodeFrontAeb data = some snapshot) (same : SameReadings frame snapshot) :
    FrontDecodersAgree data arrivalTime := by
  constructor
  · rw [ok, some]
    constructor
    · rintro ⟨error, raised⟩
      cases raised
    · intro none
      cases none
  · intro frame' snapshot' ok' some'
    rw [ok] at ok'
    rw [some] at some'
    cases ok'
    cases some'
    exact same

theorem FrontDecodersAgree.of_error {data : List UInt8} {arrivalTime : F64} {error : PyError}
    (raised : decodeFrontPacket data arrivalTime = .error error) (none : decodeFrontAeb data = none) :
    FrontDecodersAgree data arrivalTime := by
  constructor
  · rw [raised, none]
    exact ⟨fun _ => rfl, fun _ => ⟨error, rfl⟩⟩
  · intro frame snapshot ok
    rw [raised] at ok
    cases ok

/-- Where the packet is not of the present kind, both go by its length alone. -/
theorem frontDecodersAgree_legacy {data : List UInt8} (other : field data 0 4 ≠ frontMagic) (arrivalTime : F64) :
    FrontDecodersAgree data arrivalTime := by
  have legacy : decodeFrontPacket data arrivalTime = decodeFrontLegacy data arrivalTime := by
    rw [decodeFrontPacket, if_neg (by simp [other])]
  have notAeb1 : ¬(data.length ≥ frontAeb1Bytes && field data 0 4 = frontAebMagic) = true := by
    have : field data 0 4 ≠ frontAebMagic := other
    simp [this]
  rw [decodeFrontLegacy] at legacy
  rcases decodeFrontAeb_legacy notAeb1 with
    ⟨v2, snapshot, decoded, carries⟩ | ⟨notV2, v1, snapshot, decoded, carries⟩ | ⟨short, skipped⟩
  · have isV2 : data.length ≥ frontLegacyV2Size := v2
    rw [if_pos isV2] at legacy
    exact .of_ok legacy decoded ⟨carries.left.symm, carries.right.symm, carries.tof.symm,
      congrArg Nat.cast carries.validMask.symm, congrArg Nat.cast carries.fault.symm⟩
  · have isNotV2 : ¬data.length ≥ frontLegacyV2Size := Nat.not_le.mpr notV2
    have isV1 : data.length ≥ frontLegacyV1Size := v1
    rw [if_neg isNotV2, if_pos isV1] at legacy
    exact .of_ok legacy decoded ⟨carries.left.symm, carries.right.symm, carries.tof.symm,
      congrArg Nat.cast carries.validMask.symm, congrArg Nat.cast carries.fault.symm⟩
  · have isNotV1 : ¬data.length ≥ frontLegacyV1Size := Nat.not_le.mpr short
    have isNotV2 : ¬data.length ≥ frontLegacyV2Size := Nat.not_le.mpr (short.trans (by decide))
    rw [if_neg isNotV2, if_neg isNotV1] at legacy
    exact .of_error legacy skipped

/-- A whole packet of the present kind. -/
theorem frontDecodersAgree_aeb1 {data : List UInt8} (aeb1 : field data 0 4 = frontMagic) (long : 22 ≤ data.length)
    (arrivalTime : F64) : FrontDecodersAgree data arrivalTime := by
  have notShort : ¬data.length < frontAeb1Size := Nat.not_lt.mpr long
  have isAeb1 : decodeFrontPacket data arrivalTime = decodeFrontAeb1 data arrivalTime := by
    rw [decodeFrontPacket, if_pos (by simp [aeb1]; omega)]
  rw [decodeFrontAeb1, if_neg notShort] at isAeb1
  rcases decodeFrontAeb_aeb1 long aeb1 with ⟨other, skipped⟩ | ⟨versioned, snapshot, decoded, carries⟩
  · rw [if_pos (by simp [other])] at isAeb1
    exact .of_error isAeb1 skipped
  · rw [if_neg (by simp [aeb1, versioned])] at isAeb1
    exact .of_ok isAeb1 decoded ⟨carries.left.symm, carries.right.symm, carries.tof.symm,
      congrArg Nat.cast carries.validMask.symm, congrArg Nat.cast carries.fault.symm⟩

/-- Where the packet lost its end: the one decoder raises, the other reads it as a packet of the
oldest kind as soon as it is long enough for that. -/
theorem frontDecodersAgree_short {data : List UInt8} (aeb1 : field data 0 4 = frontMagic) (short : data.length < 22)
    (arrivalTime : F64) : FrontDecodersAgree data arrivalTime ↔ data.length < 15 := by
  have raised : ∃ error, decodeFrontPacket data arrivalTime = .error error := by
    have isShort : data.length < frontAeb1Size := short
    have four : data.length ≥ 4 := by
      have length := congrArg List.length aeb1
      rw [field, List.length_take, List.length_drop] at length
      have : frontMagic.length = 4 := rfl
      omega
    rw [decodeFrontPacket, if_pos (by simp [aeb1, four]), decodeFrontAeb1, if_pos isShort]
    exact ⟨_, rfl⟩
  have notAeb1 : ¬(data.length ≥ frontAeb1Bytes && field data 0 4 = frontAebMagic) = true := by
    have : ¬data.length ≥ frontAeb1Bytes := Nat.not_le.mpr short
    simp [this]
  obtain ⟨error, raised⟩ := raised
  have refuted {snapshot : FrontSnapshot} (decoded : decodeFrontAeb data = some snapshot) :
      ¬ FrontDecodersAgree data arrivalTime := by
    intro agree
    have refused := agree.refused.mp ⟨error, raised⟩
    rw [decoded] at refused
    cases refused
  rcases decodeFrontAeb_legacy notAeb1 with ⟨v2, -⟩ | ⟨-, v1, snapshot, decoded, -⟩ | ⟨tooShort, skipped⟩
  · have : 24 ≤ data.length := v2
    omega
  · have : 15 ≤ data.length := v1
    exact iff_of_false (refuted decoded) (by omega)
  · exact iff_of_true (.of_error raised skipped) tooShort

/-- The decoders agree on a byte string unless it is a packet of the present kind that was cut to
between 15 and 21 bytes. -/
theorem frontDecodersAgree_iff (data : List UInt8) (arrivalTime : F64) :
    FrontDecodersAgree data arrivalTime ↔ ¬ TruncatedAeb1 data := by
  by_cases aeb1 : field data 0 4 = frontMagic
  · rcases Nat.lt_or_ge data.length 22 with short | long
    · rw [frontDecodersAgree_short aeb1 short, TruncatedAeb1]
      constructor
      · rintro below ⟨-, fifteen, -⟩
        omega
      · intro whole
        by_contra fifteen
        exact whole ⟨aeb1, Nat.not_lt.mp fifteen, short⟩
    · exact iff_of_true (frontDecodersAgree_aeb1 aeb1 long arrivalTime) fun cut => by
        have := cut.2.2
        omega
  · exact iff_of_true (frontDecodersAgree_legacy aeb1 arrivalTime) fun cut => aeb1 cut.1

/-- A sensor packet whose last seven bytes are lost is a fault for the one and a frame for the other. -/
theorem truncated_decoders_disagree :
    let cut : List UInt8 := [0x41, 0x45, 0x42, 0x31, 1, 0, 0, 0, 0, 0, 0, 0, 0, 0, 0]
    ¬ FrontDecodersAgree cut (0.0 : F64) ∧
    decodeFrontPacket cut (0.0 : F64) = .error (.valueError "short AEB1 front packet: 15 bytes") ∧
    decodeFrontAeb cut ≠ none := by
  intro cut
  have raised : decodeFrontPacket cut (0.0 : F64) = .error (.valueError "short AEB1 front packet: 15 bytes") := by
    rw [decodeFrontPacket, if_pos (by decide), decodeFrontAeb1, if_pos (by decide)]
    decide
  have taken : decodeFrontAeb cut ≠ none := by
    have notAeb1 : ¬(cut.length ≥ frontAeb1Bytes && field cut 0 4 = frontAebMagic) = true := by decide
    rcases decodeFrontAeb_legacy notAeb1 with ⟨v2, -⟩ | ⟨-, -, snapshot, decoded, -⟩ | ⟨short, -⟩
    · exact absurd v2 (by decide)
    · rw [decoded]
      exact Option.some_ne_none snapshot
    · exact absurd short (by decide)
  exact ⟨fun agree => taken (agree.refused.mp ⟨_, raised⟩), raised, taken⟩

end SelfDriving.Hpvc
