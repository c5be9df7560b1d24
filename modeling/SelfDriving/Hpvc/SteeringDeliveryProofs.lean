import SelfDriving.Foundations.Ieee754Widening
import SelfDriving.Front.DeliveryProofs
import SelfDriving.Hpvc.DecodeProofs
import SelfDriving.Hpvc.SteeringPacket

/-! The steering packets of the host programs in the memory of the FRONT controller:
they pass its integrity checks, carry the values they were made of, and are obeyed
when they center the wheels or steer within its limits. -/
namespace SelfDriving.Hpvc
open Ieee754 Bytes Python

/-- The buffer starts with the packet. -/
def Holds (memory : Memory) (packet : List UInt8) : Prop := memory.bytes Front.hpscPacketSize = packet

/-- The values of a packet steer: its marks are set and the controller's limits are kept. -/
structure Steers (controlMode flags : UInt8) (angleRad maxRateRadS : F32) : Prop where
  controlMode : controlMode = Front.hpscControlSteeringAngle
  steeringValid : flags &&& Front.hpscFlagSteeringValid ≠ 0
  upstreamValid : flags &&& Front.hpscFlagUpstreamValid ≠ 0
  emergencyClear : flags &&& Front.hpscFlagEmergencyCenter = 0
  angleFinite : Front.isFiniteFloat angleRad = true
  rateFinite : Front.isFiniteFloat maxRateRadS = true
  angleBound : Front.absFloat angleRad ≤ Front.steeringMaxAbsRad
  ratePositive : maxRateRadS > 0.0

/-! ### Reading the buffer -/

theorem Holds.apply {memory : Memory} {packet : List UInt8} (holds : Holds memory packet) {index : Nat}
    (inside : index < Front.hpscPacketSize) : memory index = packet.getD index 0 := by
  rw [← holds, Memory.getD_bytes inside]

theorem Holds.length {memory : Memory} {packet : List UInt8} (holds : Holds memory packet) :
    packet.length = Front.hpscPacketSize := by
  rw [← holds, Memory.length_bytes]

theorem Holds.readU32 {memory : Memory} {packet : List UInt8} (holds : Holds memory packet) {offset : Nat}
    (inside : offset + 4 ≤ Front.hpscPacketSize) :
    (Front.readU32Le memory offset).toNat = leField packet offset 4 := by
  have read : Front.readU32Le memory offset = Hpvc.readU32 packet (offset + 1) := by
    unfold Front.readU32Le Hpvc.readU32 byteAt
    rw [holds.apply (by omega), holds.apply (by omega), holds.apply (by omega), holds.apply (by omega)]
    rfl
  rw [read]
  exact readU32_toNat (by rwa [holds.length])

theorem Holds.readFloat32 {memory : Memory} {packet : List UInt8} (holds : Holds memory packet) {offset : Nat}
    (inside : offset + 4 ≤ Front.hpscPacketSize) :
    (Front.readFloat32Le memory offset : F32) = Ieee.ofBits (leField packet offset 4) := by
  rw [← holds.readU32 inside]
  rfl

theorem Holds.bytes {memory : Memory} {packet : List UInt8} (holds : Holds memory packet) {count : Nat}
    (inside : count ≤ Front.hpscPacketSize) : memory.bytes count = packet.take count := by
  rw [← holds, Memory.take_bytes inside]

section
variable {memory : Memory} {controlMode flags : UInt8} {sequence : UInt32} {timestampUs : UInt64}
  {angleRad maxRateRadS : F32} {aliveCount : UInt16}

/-- The packet starts with what its CRC is of. -/
theorem crc_hpscPacket :
    leField (hpscPacket controlMode flags sequence timestampUs angleRad maxRateRadS aliveCount) 36 4 =
      (Crc32.crc32 ((hpscPacket controlMode flags sequence timestampUs angleRad maxRateRadS aliveCount).take 36)).toNat := by
  have read : leField (hpscPacket controlMode flags sequence timestampUs angleRad maxRateRadS aliveCount) 36 4 =
      leNat (leBytes 4 (Crc32.crc32
        ((hpscPacket controlMode flags sequence timestampUs angleRad maxRateRadS aliveCount).take 36)).toNat) := rfl
  rw [read, leNat_leBytes (Crc32.crc32 _).toNat_lt]

/-- What a packet has in every place that FRONT checks, whatever it carries. -/
theorem hpscPacket_constants (controlMode flags : UInt8) (sequence : UInt32) (timestampUs : UInt64)
    (angleRad maxRateRadS : F32) (aliveCount : UInt16) :
    let packet := hpscPacket controlMode flags sequence timestampUs angleRad maxRateRadS aliveCount
    (packet.getD 0 0 = 0x48 ∧ packet.getD 1 0 = 0x50 ∧ packet.getD 2 0 = 0x53 ∧ packet.getD 3 0 = 0x43) ∧
      packet.getD 4 0 = hpscVersion ∧ packet.getD 7 0 = hpscHeaderSize ∧
      (packet.getD 30 0 = 0 ∧ packet.getD 31 0 = 0) ∧ leField packet 32 4 = 0 := by
  -- The bytes are laid out first; a field of them is then read off.
  simp only [hpscPacket, singleBytes, leBytes, List.cons_append, List.nil_append, hpscMagic]
  exact ⟨⟨rfl, rfl, rfl, rfl⟩, rfl, rfl, ⟨rfl, rfl⟩, rfl⟩

theorem intact_of_holds
    (holds : Holds memory (hpscPacket controlMode flags sequence timestampUs angleRad maxRateRadS aliveCount)) :
    Front.Intact memory := by
  obtain ⟨⟨first, second, third, fourth⟩, version, headerSize, ⟨low, high⟩, reserved⟩ :=
    hpscPacket_constants controlMode flags sequence timestampUs angleRad maxRateRadS aliveCount
  constructor
  case magic =>
    rw [← holds.apply (by decide)] at first second third fourth
    rw [Front.hasMagic, first, second, third, fourth]
    decide
  case version => rw [holds.apply (by decide), version]; rfl
  case headerSize => rw [holds.apply (by decide), headerSize]; rfl
  case reserved16 =>
    rw [← holds.apply (by decide)] at low high
    rw [Front.readU16Le, low, high]
    decide
  case reserved32 => exact UInt32.toNat_inj.mp ((holds.readU32 (by decide)).trans reserved)
  case crc =>
    rw [Front.crc32Ieee, holds.bytes (by decide), ← UInt32.toNat_inj, holds.readU32 (by decide)]
    exact crc_hpscPacket

theorem sequenceOf_holds
    (holds : Holds memory (hpscPacket controlMode flags sequence timestampUs angleRad maxRateRadS aliveCount)) :
    Front.sequenceOf memory = sequence := by
  obtain ⟨-, -, carried, -, -⟩ :=
    hpscPacket_values controlMode flags sequence timestampUs angleRad maxRateRadS aliveCount
  rw [Front.sequenceOf, ← UInt32.toNat_inj, holds.readU32 (by decide), leField, carried,
    leNat_leBytes sequence.toNat_lt]

theorem controlMode_of_holds
    (holds : Holds memory (hpscPacket controlMode flags sequence timestampUs angleRad maxRateRadS aliveCount)) :
    memory 5 = controlMode :=
  (holds.apply (by decide)).trans (hpscPacket_values ..).1

theorem flags_of_holds
    (holds : Holds memory (hpscPacket controlMode flags sequence timestampUs angleRad maxRateRadS aliveCount)) :
    memory 6 = flags :=
  (holds.apply (by decide)).trans (hpscPacket_values ..).2.1

theorem angle_of_holds
    (holds : Holds memory (hpscPacket controlMode flags sequence timestampUs angleRad maxRateRadS aliveCount)) :
    (Front.readFloat32Le memory 20 : F32) = angleRad := by
  obtain ⟨-, -, -, carried, -⟩ :=
    hpscPacket_values controlMode flags sequence timestampUs angleRad maxRateRadS aliveCount
  rw [holds.readFloat32 (by decide), leField, carried, ofBits_singleBytes]

theorem rate_of_holds
    (holds : Holds memory (hpscPacket controlMode flags sequence timestampUs angleRad maxRateRadS aliveCount)) :
    (Front.readFloat32Le memory 24 : F32) = maxRateRadS := by
  obtain ⟨-, -, -, -, carried⟩ :=
    hpscPacket_values controlMode flags sequence timestampUs angleRad maxRateRadS aliveCount
  rw [holds.readFloat32 (by decide), leField, carried, ofBits_singleBytes]

theorem authorizes_of_holds
    (holds : Holds memory (hpscPacket controlMode flags sequence timestampUs angleRad maxRateRadS aliveCount))
    (steers : Steers controlMode flags angleRad maxRateRadS) : Front.Authorizes F32 memory := by
  have mode := controlMode_of_holds holds
  have rate := rate_of_holds holds
  refine ⟨?_, ?_, ?_, ?_, ?_, ?_, ?_, ?_⟩
  · rw [mode, steers.controlMode]
  · rw [flags_of_holds holds]
    exact steers.steeringValid
  · rw [flags_of_holds holds]
    exact steers.upstreamValid
  · rw [flags_of_holds holds]
    exact steers.emergencyClear
  · rw [angle_of_holds holds]
    exact steers.angleFinite
  · rw [rate]
    exact steers.rateFinite
  · rw [angle_of_holds holds]
    exact steers.angleBound
  · rw [rate]
    exact steers.ratePositive

/-- A packet that centers or steers is obeyed. -/
theorem obeyed_of_holds
    (holds : Holds memory (hpscPacket controlMode flags sequence timestampUs angleRad maxRateRadS aliveCount))
    (command : flags &&& Front.hpscFlagEmergencyCenter ≠ 0 ∨ Steers controlMode flags angleRad maxRateRadS) :
    Front.Obeyed F32 memory := by
  refine ⟨intact_of_holds holds, ?_⟩
  rcases command with center | steers
  · exact .inl (by rwa [flags_of_holds holds])
  · exact .inr (authorizes_of_holds holds steers)

end

/-! ### Angles -/

/-- A number far from the ends of its range is finite for the controller. -/
theorem isFiniteFloat_of_absVal_le {value : F32} (number : value.isNaN = false) (small : value.absVal ≤ 100) :
    Front.isFiniteFloat value = true := by
  have range : (100 : ℚ) < (3.402823466e38 : F32).toRat := by decide +kernel
  obtain ⟨low, high⟩ := abs_le.mp ((Ieee.abs_toRat value).le.trans small)
  simp only [Front.isFiniteFloat, Bool.and_eq_true, decide_eq_true_eq, Ieee.beq_iff]
  refine ⟨⟨⟨number, number, trivial⟩, number, Ieee.isNaN_literal .., high.trans_lt range⟩, ?_⟩
  refine ⟨Ieee.isNaN_literal .., number, ?_⟩
  rw [Ieee.toRat_neg]
  linarith

/-- An angle of at most half a radian is within the controller's limits. -/
theorem angle_within {angle : F32} (number : angle.isNaN = false) (small : angle.absVal ≤ 1 / 2) :
    Front.isFiniteFloat angle = true ∧ Front.absFloat angle ≤ Front.steeringMaxAbsRad := by
  have limit : (Front.steeringMaxAbsRad : F32).toRat = 1 / 2 := by decide +kernel
  obtain ⟨low, high⟩ := abs_le.mp ((Ieee.abs_toRat angle).le.trans small)
  refine ⟨isFiniteFloat_of_absVal_le number (by linarith), ?_⟩
  unfold Front.absFloat
  split
  · refine ⟨number, Ieee.isNaN_literal .., ?_⟩
    rw [limit, Ieee.toRat_neg]
    linarith
  · refine ⟨number, Ieee.isNaN_literal .., ?_⟩
    rw [limit]
    exact high

/-- An angle that FRONT obeys once it is packed. -/
def AngleWithin (angle : F64) : Prop := angle.isFinite = true ∧ angle.absVal ≤ 1 / 2

theorem angleWithin_zero : AngleWithin 0.0 := ⟨by decide +kernel, by decide +kernel⟩

/-- A double of at most half a radian is packed to a single of at most half a radian. -/
theorem AngleWithin.packed {angle : F64} (within : AngleWithin angle) :
    packSingle angle = .ok (angle.convert binary32) ∧ (angle.convert binary32).isNaN = false ∧
      (angle.convert binary32).absVal ≤ 1 / 2 := by
  obtain ⟨finite, small⟩ := within
  have half : (0.5 : F32).absVal = 1 / 2 := by decide +kernel
  have below : (1 / 2 : ℚ) < Ieee.limit binary32 := by decide +kernel
  have bound : (angle.convert binary32).absVal ≤ 1 / 2 := by
    rw [← half]
    exact Ieee.absVal_convert_le finite (Ieee.isNaN_literal ..) (by rw [half]; exact small)
  have finite' : (angle.convert binary32).isFinite = true := Ieee.isFinite_iff.mpr (bound.trans_lt below)
  refine ⟨?_, Ieee.isNaN_of_isFinite finite', bound⟩
  rw [packSingle, Ieee.not_isInf_of_isFinite finite', Bool.and_false, if_neg Bool.false_ne_true]

/-- A greatest rate and the single that it is packed to, which FRONT accepts. -/
structure RateWithin (maxRateRadS : F64) (rate : F32) : Prop where
  packed : packSingle maxRateRadS = .ok rate
  finite : Front.isFiniteFloat rate = true
  positive : rate > 0.0

/-! ### Deliveries -/

/-- A packet of a host program that is obeyed wherever it is delivered, under the number that it carries. -/
def Obeyable (packet : List UInt8) : Prop :=
  packet.length = Front.hpscPacketSize ∧
    ∀ memory, Holds memory packet → Front.Obeyed F32 memory ∧ Front.sequenceOf memory = hpscSequence packet

theorem obeyable_hpscPacket {controlMode flags : UInt8} {angleRad maxRateRadS : F32}
    (command : flags &&& Front.hpscFlagEmergencyCenter ≠ 0 ∨ Steers controlMode flags angleRad maxRateRadS)
    (sequence : UInt32) (timestampUs : UInt64) (aliveCount : UInt16) :
    Obeyable (hpscPacket controlMode flags sequence timestampUs angleRad maxRateRadS aliveCount) := by
  refine ⟨rfl, fun memory holds => ⟨obeyed_of_holds holds command, ?_⟩⟩
  rw [sequenceOf_holds holds, hpscSequence_packet]

/-- The marks of a packet steer and do not center. -/
structure MarkedSteering (controlMode flags : UInt8) : Prop where
  controlMode : controlMode = Front.hpscControlSteeringAngle
  steeringValid : flags &&& Front.hpscFlagSteeringValid ≠ 0
  upstreamValid : flags &&& Front.hpscFlagUpstreamValid ≠ 0
  emergencyClear : flags &&& Front.hpscFlagEmergencyCenter = 0

theorem packHpsc_of_within {angleRad maxRateRadS : F64} (within : AngleWithin angleRad) {rate : F32}
    (rateWithin : RateWithin maxRateRadS rate) (controlMode flags : UInt8) (sequence : UInt32) (timestampUs : UInt64)
    (aliveCount : UInt16) :
    packHpsc controlMode flags sequence timestampUs angleRad maxRateRadS aliveCount =
      .ok (hpscPacket controlMode flags sequence timestampUs (angleRad.convert binary32) rate aliveCount) := by
  rw [packHpsc, within.packed.1, rateWithin.packed]

/-- Marks that steer and an angle within the limits steer. -/
theorem MarkedSteering.steers {controlMode flags : UInt8} (marks : MarkedSteering controlMode flags)
    {angleRad maxRateRadS : F64} (within : AngleWithin angleRad) {rate : F32} (rateWithin : RateWithin maxRateRadS rate) :
    Steers controlMode flags (angleRad.convert binary32) rate := by
  obtain ⟨-, number, bound⟩ := within.packed
  obtain ⟨angleFinite, angleBound⟩ := angle_within number bound
  exact ⟨marks.controlMode, marks.steeringValid, marks.upstreamValid, marks.emergencyClear, angleFinite,
    rateWithin.finite, angleBound, rateWithin.positive⟩

/-- A packet of the host programs is obeyed when its angle and its rate are within the limits. -/
theorem obeyable_packHpsc {controlMode flags : UInt8} {sequence : UInt32} {timestampUs : UInt64}
    {angleRad maxRateRadS : F64} {aliveCount : UInt16} {packet : List UInt8}
    (packed : packHpsc controlMode flags sequence timestampUs angleRad maxRateRadS aliveCount = .ok packet)
    (marks : flags &&& Front.hpscFlagEmergencyCenter ≠ 0 ∨ MarkedSteering controlMode flags)
    (within : AngleWithin angleRad) {rate : F32} (rateWithin : RateWithin maxRateRadS rate) :
    Obeyable packet ∧ hpscSequence packet = sequence := by
  rw [packHpsc_of_within within rateWithin] at packed
  cases packed
  refine ⟨obeyable_hpscPacket ?_ _ _ _, hpscSequence_packet ..⟩
  exact marks.imp_right fun marks => marks.steers within rateWithin

/-- The packets arrive one after another, each in a buffer of its own. -/
def Delivered (deliveries : List Front.Delivery) (packets : List (List UInt8)) : Prop :=
  List.Forall₂ (fun delivery packet => Holds delivery.packet packet) deliveries packets

theorem Delivered.obeyed {deliveries : List Front.Delivery} {packets : List (List UInt8)}
    (delivered : Delivered deliveries packets) (obeyable : ∀ packet ∈ packets, Obeyable packet) :
    (∀ delivery ∈ deliveries, Front.Obeyed F32 delivery.packet) ∧
      (deliveries.map fun delivery => Front.sequenceOf delivery.packet) = packets.map hpscSequence := by
  induction delivered with
  | nil => exact ⟨nofun, rfl⟩
  | cons holds _ ih =>
    obtain ⟨obeyed, same⟩ := (obeyable _ List.mem_cons_self).2 _ holds
    obtain ⟨later, numbers⟩ := ih fun packet member => obeyable packet (List.mem_cons_of_mem _ member)
    refine ⟨?_, by rw [List.map_cons, List.map_cons, same, numbers]⟩
    intro delivery member
    rcases List.mem_cons.mp member with rfl | member
    · exact obeyed
    · exact later delivery member

/-- A packet in a buffer of zeros, once. -/
def deliveryOf (packet : List UInt8) : Front.Delivery := ⟨fun index => packet.getD index 0, 0, []⟩

theorem delivered_deliveryOf {packets : List (List UInt8)} (obeyable : ∀ packet ∈ packets, Obeyable packet) :
    Delivered (packets.map deliveryOf) packets := by
  rw [Delivered, List.forall₂_map_left_iff, List.forall₂_same]
  intro packet member
  have size := (obeyable packet member).1
  rw [Holds, deliveryOf, Memory.bytes_eq_map, ← size]
  apply List.ext_getElem
  · simp
  · intro index inside inside'
    simp [inside']

end SelfDriving.Hpvc
