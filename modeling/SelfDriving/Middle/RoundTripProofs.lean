import SelfDriving.Foundations.Ieee754Widening
import SelfDriving.Middle.Packing
import SelfDriving.Middle.ProtocolProofs

/-! What comes back out of a packet. The encoder masks, rounds, sanitizes and pads, so a
packet comes back in a canonical form, which a second trip leaves as it is. -/
namespace SelfDriving.Middle
open Ieee754 Python Bytes

/-! ### The canonical form -/

/-- A value rounded to single precision. -/
def toSingle (x : F64) : F64 := unpackSingle (x.convert binary32)

def LaneBoundary.rounded (lane : LaneBoundary) : LaneBoundary where
  curvature1pm := toSingle lane.curvature1pm
  curvatureDerivative1pm2 := toSingle lane.curvatureDerivative1pm2
  headingRad := toSingle lane.headingRad
  lateralOffsetM := toSingle lane.lateralOffsetM
  strength := toSingle lane.strength

def PersonDetection.rounded (person : PersonDetection) : PersonDetection where
  valid := toSingle person.valid
  confidence := toSingle person.confidence
  centerXNorm := toSingle person.centerXNorm
  centerYNorm := toSingle person.centerYNorm
  widthNorm := toSingle person.widthNorm
  heightNorm := toSingle person.heightNorm

/-- How many of the persons that are sent count as valid. -/
def detectedCount (packet : PerceptionPacket) : Nat :=
  (packet.persons.take maxPersonDetections).countP fun person => (0.5 : F64) ≤ person.valid

/-- The count of persons that is sent. -/
def sentCount (packet : PerceptionPacket) : Int :=
  Max.max 0 (Min.min (maxPersonDetections : Int)
    (if packet.personCount ≠ 0 then packet.personCount else detectedCount packet))

/-- What a packet comes back as. -/
def canonical (packet : PerceptionPacket) : PerceptionPacket where
  sequence := packet.sequence % 2 ^ 32
  frameTimestampUs := packet.frameTimestampUs % 2 ^ 64
  ultrasonicTimestampUs := packet.ultrasonicTimestampUs % 2 ^ 64
  flags := packet.flags % 2 ^ 8
  left := packet.left.rounded
  right := packet.right.rounded
  sideLeftDistanceM := toSingle packet.sideLeftDistanceM
  sideRightDistanceM := toSingle packet.sideRightDistanceM
  personCount := sentCount packet
  persons := (packet.persons.take maxPersonDetections).map (fun person => (sanitizePerson person).rounded) ++
    List.replicate (maxPersonDetections - packet.persons.length) noPerson

/-- The values of the lanes and the sides can be packed. -/
def Packable (packet : PerceptionPacket) : Prop :=
  ∀ value ∈ packet.left.values ++ packet.right.values ++ [packet.sideLeftDistanceM, packet.sideRightDistanceM],
    ∃ single, packSingle value = .ok single

/-! ### Values from 0 to 1 -/

/-- A value from 0 to 1, and not the negative zero. -/
structure UnitValue (x : F64) : Prop where
  nonneg : x.neg = false
  finite : x.isFinite = true
  le_one : x.absVal ≤ 1

theorem absVal_one_literal : (1.0 : F64).absVal = 1 := by decide +kernel

theorem unitValue_zero : UnitValue 0.0 := ⟨by decide +kernel, by decide +kernel, by decide +kernel⟩

theorem unitValue_one : UnitValue 1.0 := ⟨by decide +kernel, by decide +kernel, by decide +kernel⟩

theorem UnitValue.toRat {x : F64} (unit : UnitValue x) : x.toRat = x.absVal := by
  rw [Ieee.toRat, if_neg (by rw [unit.nonneg]; decide)]

theorem UnitValue.between {x : F64} (unit : UnitValue x) : (0.0 : F64) ≤ x ∧ x ≤ (1.0 : F64) := by
  have number := Ieee.isNaN_of_isFinite unit.finite
  refine ⟨⟨Ieee.isNaN_literal .., number, ?_⟩, number, Ieee.isNaN_literal .., ?_⟩
  · rw [Ieee.toRat_zero_literal, unit.toRat]
    exact x.absVal_nonneg
  · rw [unitValue_one.toRat, absVal_one_literal, unit.toRat]
    exact unit.le_one

/-- A clamp from 0 to 1 in Python's terms takes a NaN to 1. -/
theorem unitValue_clamp (x : F64) : UnitValue (Python.max 0.0 (Python.min 1.0 x)) := by
  unfold Python.min
  split
  · rename_i below
    unfold Python.max
    split
    · rename_i above
      have finite : x.isFinite = true :=
        Ieee.isFinite_of_between (Ieee.le_of_lt above) (Ieee.le_of_lt below) unitValue_zero.finite unitValue_one.finite
      have positive : 0 < x.toRat := by simpa using above.2.2
      have up := Ieee.neg_of_pos positive
      have less := below.2.2
      rw [unitValue_one.toRat, absVal_one_literal, Ieee.toRat, if_neg (by rw [up]; decide)] at less
      exact ⟨up, finite, less.le⟩
    · exact unitValue_zero
  · have one : Python.max (0.0 : F64) 1.0 = 1.0 := by decide +kernel
    rw [one]
    exact unitValue_one

theorem unitValue_finiteClamp (x : F64) : UnitValue (finiteClamp x 0.0 1.0) := by
  unfold finiteClamp
  split
  · exact unitValue_zero
  · exact unitValue_clamp x

/-- The clamp keeps what is from 0 to 1. -/
theorem UnitValue.finiteClamp_eq {x : F64} (unit : UnitValue x) : finiteClamp x 0.0 1.0 = x := by
  have number := Ieee.isNaN_of_isFinite unit.finite
  rw [finiteClamp, unit.finite, Bool.not_true, if_neg Bool.false_ne_true]
  have inner : Python.min 1.0 x = x := by
    unfold Python.min
    split
    · rfl
    · rename_i no
      have above := (Ieee.le_of_not_lt number (Ieee.isNaN_literal ..) no).2.2
      rw [unitValue_one.toRat, absVal_one_literal, unit.toRat] at above
      refine Ieee.eq_of_absVal_eq (Ieee.isNaN_literal ..) number (unitValue_one.nonneg.trans unit.nonneg.symm) ?_
      rw [absVal_one_literal]
      exact le_antisymm above unit.le_one
  rw [inner]
  unfold Python.max
  split
  · rfl
  · rename_i no
    have below := (Ieee.le_of_not_lt (Ieee.isNaN_literal ..) number no).2.2
    rw [Ieee.toRat_zero_literal, unit.toRat] at below
    refine Ieee.eq_of_absVal_eq (Ieee.isNaN_literal ..) number (unitValue_zero.nonneg.trans unit.nonneg.symm) ?_
    have zero : (0.0 : F64).absVal = 0 := by decide +kernel
    rw [zero]
    exact le_antisymm x.absVal_nonneg below

theorem UnitValue.packable {x : F64} (unit : UnitValue x) :
    packSingle x = .ok (x.convert binary32) ∧ UnitValue (toSingle x) := by
  have one : (1.0 : F32).absVal = 1 := by decide +kernel
  have below : (1 : ℚ) < Ieee.limit binary32 := by decide +kernel
  have bound : (x.convert binary32).absVal ≤ 1 := by
    rw [← one]
    exact Ieee.absVal_convert_le unit.finite (Ieee.isNaN_literal ..) (by rw [one]; exact unit.le_one)
  have finite : (x.convert binary32).isFinite = true := Ieee.isFinite_iff.mpr (bound.trans_lt below)
  obtain ⟨finite', value⟩ := Ieee.convert_of_isFinite widens_binary finite
  constructor
  · rw [packSingle, Ieee.not_isInf_of_isFinite finite, Bool.and_false, if_neg Bool.false_ne_true]
  · refine ⟨?_, finite', value.le.trans bound⟩
    rw [toSingle, unpackSingle, Ieee.neg_convert, Ieee.neg_convert, unit.nonneg]

theorem toSingle_zero : toSingle 0.0 = 0.0 := by decide +kernel
theorem toSingle_one : toSingle 1.0 = 1.0 := by decide +kernel

/-- What is packed is the rounded value. -/
theorem convert_toSingle (x : F64) : (toSingle x).convert binary32 = x.convert binary32 :=
  Ieee.convert_convert_convert widens_binary x

/-- A rounded value can be packed. -/
theorem packSingle_toSingle (x : F64) : ∃ single, packSingle (toSingle x) = .ok single := by
  refine ⟨(toSingle x).convert binary32, if_neg ?_⟩
  rw [Bool.and_eq_true, convert_toSingle, toSingle, unpackSingle, Ieee.isFinite_convert widens_binary]
  rintro ⟨finite, inf⟩
  rw [Ieee.not_isInf_of_isFinite finite] at inf
  cases inf

/-! ### Persons -/

theorem valid_sanitizePerson (person : PersonDetection) :
    (sanitizePerson person).valid = 1.0 ∧ (0.5 : F64) ≤ person.valid ∨
      (sanitizePerson person).valid = 0.0 ∧ ¬ (0.5 : F64) ≤ person.valid := by
  by_cases detected : (0.5 : F64) ≤ person.valid
  · exact .inl ⟨by rw [sanitizePerson, if_pos detected], detected⟩
  · exact .inr ⟨by rw [sanitizePerson, if_neg detected], detected⟩

theorem unitValue_sanitizePerson (person : PersonDetection) : ∀ value ∈ (sanitizePerson person).values, UnitValue value := by
  have valid : UnitValue (sanitizePerson person).valid := by
    rcases valid_sanitizePerson person with ⟨valid, _⟩ | ⟨valid, _⟩
    · rw [valid]
      exact unitValue_one
    · rw [valid]
      exact unitValue_zero
  simp only [PersonDetection.values, List.forall_mem_cons]
  exact ⟨valid, unitValue_finiteClamp _, unitValue_finiteClamp _, unitValue_finiteClamp _, unitValue_finiteClamp _,
    unitValue_finiteClamp _, nofun⟩

theorem unitValue_noPerson : ∀ value ∈ noPerson.values, UnitValue value := by
  intro value member
  simp only [PersonDetection.values, noPerson, List.mem_cons, List.not_mem_nil, or_false, or_self] at member
  rw [member]
  exact unitValue_zero

/-- Sanitizing keeps a person whose values are sanitized. -/
theorem sanitizePerson_eq {person : PersonDetection} (valid : person.valid = 1.0 ∨ person.valid = 0.0)
    (unit : ∀ value ∈ person.values, UnitValue value) : sanitizePerson person = person := by
  have kept : (if (0.5 : F64) ≤ person.valid then (1.0 : F64) else 0.0) = person.valid := by
    have half : (0.5 : F64) ≤ 1.0 := by decide +kernel
    have none : ¬ (0.5 : F64) ≤ 0.0 := by decide +kernel
    rcases valid with one | zero
    · rw [one, if_pos half]
    · rw [zero, if_neg none]
  simp only [PersonDetection.values, List.forall_mem_cons] at unit
  obtain ⟨-, confidence, centerX, centerY, width, height, -⟩ := unit
  rw [sanitizePerson, kept, confidence.finiteClamp_eq, centerX.finiteClamp_eq, centerY.finiteClamp_eq,
    width.finiteClamp_eq, height.finiteClamp_eq]

theorem valid_rounded_sanitizePerson (person : PersonDetection) :
    (sanitizePerson person).rounded.valid = (sanitizePerson person).valid := by
  rw [PersonDetection.rounded]
  rcases valid_sanitizePerson person with ⟨one, _⟩ | ⟨zero, _⟩
  · rw [one, toSingle_one]
  · rw [zero, toSingle_zero]

theorem PersonDetection.values_rounded (person : PersonDetection) : person.rounded.values = person.values.map toSingle :=
  rfl

theorem unitValue_rounded {person : PersonDetection} (unit : ∀ value ∈ person.values, UnitValue value) :
    ∀ value ∈ person.rounded.values, UnitValue value := by
  rw [PersonDetection.values_rounded]
  intro value member
  obtain ⟨x, own, rfl⟩ := List.mem_map.mp member
  exact (unit x own).packable.2

/-- A sanitized person, rounded, is sanitized. -/
theorem sanitizePerson_rounded (person : PersonDetection) :
    sanitizePerson (sanitizePerson person).rounded = (sanitizePerson person).rounded := by
  refine sanitizePerson_eq ?_ (unitValue_rounded (unitValue_sanitizePerson person))
  rw [valid_rounded_sanitizePerson]
  rcases valid_sanitizePerson person with ⟨one, _⟩ | ⟨zero, _⟩
  · exact .inl one
  · exact .inr zero

theorem rounded_noPerson : noPerson.rounded = noPerson := by
  rw [PersonDetection.rounded, noPerson, toSingle_zero]

theorem sanitizePerson_noPerson : sanitizePerson noPerson = noPerson := by decide +kernel

/-- The persons as they are packed. -/
def slots (packet : PerceptionPacket) : List PersonDetection :=
  (packet.persons.take maxPersonDetections).map sanitizePerson ++
    List.replicate (maxPersonDetections - packet.persons.length) noPerson

theorem length_slots (packet : PerceptionPacket) : (slots packet).length = maxPersonDetections := by
  rw [slots, List.length_append, List.length_map, List.length_take, List.length_replicate]
  omega

theorem payloadValues_eq (packet : PerceptionPacket) :
    payloadValues packet = packet.left.values ++ packet.right.values ++
      [packet.sideLeftDistanceM, packet.sideRightDistanceM] ++
        Ieee.ofInt (sentCount packet) :: (slots packet).flatMap PersonDetection.values := by
  have same : ((List.range maxPersonDetections).map fun index =>
      ((packet.persons.take maxPersonDetections)[index]?.map sanitizePerson).getD noPerson) = slots packet := by
    rw [slots]
    rcases packet.persons with _ | ⟨first, _ | ⟨second, _ | ⟨third, rest⟩⟩⟩
    · rfl
    · rfl
    · rfl
    · simp [List.range_succ, maxPersonDetections]
  rw [← same]
  rfl

/-- A slot holds a sanitized person: one that was sent, or nobody. -/
theorem slots_cases {packet : PerceptionPacket} {slot : PersonDetection} (member : slot ∈ slots packet) :
    (∃ person, slot = sanitizePerson person) ∨ slot = noPerson := by
  rw [slots, List.mem_append] at member
  rcases member with sent | padded
  · obtain ⟨person, -, rfl⟩ := List.mem_map.mp sent
    exact .inl ⟨person, rfl⟩
  · exact .inr (List.eq_of_mem_replicate padded)

theorem unitValue_slots {packet : PerceptionPacket} {slot : PersonDetection} (member : slot ∈ slots packet) :
    ∀ value ∈ slot.values, UnitValue value := by
  rcases slots_cases member with ⟨person, rfl⟩ | rfl
  · exact unitValue_sanitizePerson person
  · exact unitValue_noPerson

theorem persons_canonical (packet : PerceptionPacket) :
    (canonical packet).persons = (slots packet).map PersonDetection.rounded := by
  rw [canonical, slots, List.map_append, List.map_map, List.map_replicate, rounded_noPerson]
  rfl

/-- The slots of a packet that came back are its persons. -/
theorem slots_canonical (packet : PerceptionPacket) :
    slots (canonical packet) = (slots packet).map PersonDetection.rounded := by
  have whole : (canonical packet).persons.length = maxPersonDetections := by
    rw [persons_canonical, List.length_map, length_slots]
  rw [slots, whole, Nat.sub_self, List.replicate_zero, List.append_nil, List.take_of_length_le whole.le,
    persons_canonical, List.map_map]
  refine List.map_congr_left fun slot member => ?_
  rcases slots_cases member with ⟨person, rfl⟩ | rfl
  · exact sanitizePerson_rounded person
  · rw [Function.comp_apply, rounded_noPerson, sanitizePerson_noPerson]

/-! ### The count of persons -/

theorem sentCount_bounds (packet : PerceptionPacket) : 0 ≤ sentCount packet ∧ sentCount packet ≤ 3 := by
  rw [sentCount, maxPersonDetections]
  omega

theorem detectedCount_le (packet : PerceptionPacket) : detectedCount packet ≤ maxPersonDetections :=
  List.countP_le_length.trans ((List.length_take ..).trans_le (Nat.min_le_left ..))

/-- What was detected is still detected in a packet that came back. -/
theorem detectedCount_canonical (packet : PerceptionPacket) :
    detectedCount (canonical packet) = detectedCount packet := by
  have whole : (canonical packet).persons.length = maxPersonDetections := by
    rw [persons_canonical, List.length_map, length_slots]
  have half : (0.5 : F64) ≤ 1.0 := by decide +kernel
  have none : ¬ (0.5 : F64) ≤ 0.0 := by decide +kernel
  have nobody : ¬ (0.5 : F64) ≤ noPerson.valid := by
    rw [noPerson]
    exact none
  rw [detectedCount, List.take_of_length_le whole.le, canonical, List.countP_append, List.countP_map,
    List.countP_replicate, if_neg (by simpa using nobody), Nat.add_zero, detectedCount]
  refine List.countP_congr fun person _ => ?_
  rw [Function.comp_apply, valid_rounded_sanitizePerson]
  rcases valid_sanitizePerson person with ⟨valid, detected⟩ | ⟨valid, missing⟩
  · rw [valid]
    simp [half, detected]
  · rw [valid]
    simp [none, missing]

/-- The count that was sent is sent again. -/
theorem sentCount_canonical {packet : PerceptionPacket} (counted : 0 ≤ packet.personCount) :
    sentCount (canonical packet) = sentCount packet := by
  have bounds := sentCount_bounds packet
  have few := detectedCount_le packet
  rw [sentCount, detectedCount_canonical]
  change Max.max 0 (Min.min (maxPersonDetections : Int)
    (if sentCount packet ≠ 0 then sentCount packet else detectedCount packet)) = sentCount packet
  rw [maxPersonDetections] at few ⊢
  by_cases none : sentCount packet = 0
  · -- Nobody was counted, so nobody was detected.
    rw [if_neg (not_not.mpr none), none]
    rw [sentCount, maxPersonDetections] at none
    split at none <;> omega
  · rw [if_pos none]
    omega

/-! ### Bytes -/

/-- Values in single precision, one after another. -/
def packedValues (values : List F64) : List UInt8 :=
  values.flatMap fun value => singleBytes (value.convert binary32)

theorem packValues_eq {values : List F64} (packable : ∀ value ∈ values, ∃ single, packSingle value = .ok single) :
    packValues values = .ok (packedValues values) := by
  induction values with
  | nil => rfl
  | cons value rest ih =>
    obtain ⟨single, packed⟩ := packable value (by simp)
    rw [packValues, packed, ih fun other member => packable other (by simp [member]), packSingle_eq_ok packed]
    rfl

theorem length_packedValues (values : List F64) : (packedValues values).length = 4 * values.length := by
  induction values with
  | nil => rfl
  | cons value rest ih =>
    rw [packedValues, List.flatMap_cons, List.length_append, singleBytes, length_leBytes]
    rw [packedValues] at ih
    rw [ih, List.length_cons]
    omega

/-- The field at the place of a value. -/
theorem field_packedValues {values : List F64} {index : Nat} (within : index < values.length) :
    field (packedValues values) (4 * index) 4 = singleBytes ((values.getD index 0.0).convert binary32) := by
  induction values generalizing index with
  | nil => cases within
  | cons value rest ih =>
    have long : (singleBytes (value.convert binary32)).length = 4 := length_leBytes ..
    rw [packedValues, List.flatMap_cons, ← packedValues]
    cases index with
    | zero =>
      rw [Nat.mul_zero, field_append_left long.ge, field, List.drop_zero, List.take_of_length_le long.le]
      rfl
    | succ index =>
      have later : 4 * (index + 1) = (singleBytes (value.convert binary32)).length + 4 * index := by omega
      rw [later, field, List.drop_length_add_append, ← field, ih (by simpa using within)]
      rfl

/-- The bytes of a packet before its CRC. -/
def packedBody (packet : PerceptionPacket) : List UInt8 :=
  packHeader magic packet ++ packedValues (payloadValues packet)

theorem length_packHeader (packet : PerceptionPacket) : (packHeader magic packet).length = headerSize := rfl

theorem length_payloadValues (packet : PerceptionPacket) : (payloadValues packet).length = payloadFloatCount := by
  have six : ∀ slot ∈ slots packet, slot.values.length = 6 := fun _ _ => rfl
  rw [payloadValues_eq, List.length_append, List.length_cons, List.length_flatMap, List.map_congr_left six,
    List.map_const', length_slots]
  rfl

theorem length_packedBody (packet : PerceptionPacket) :
    (packedBody packet).length = headerSize + 4 * payloadFloatCount := by
  rw [packedBody, List.length_append, length_packHeader, length_packedValues, length_payloadValues]

/-- The values of a packet are read back as rounded. -/
theorem payloadValue_packedBody {packet : PerceptionPacket} {index : Nat} (within : index < payloadFloatCount) :
    payloadValue (sealed (packedBody packet)) index = toSingle ((payloadValues packet).getD index 0.0) := by
  have inside : headerSize + 4 * index + 4 ≤ (packedBody packet).length := by
    rw [length_packedBody]
    omega
  rw [payloadValue_sealed inside, payloadValue, singleAt, leField, packedBody, ← length_packHeader packet, field,
    List.drop_length_add_append, ← field, field_packedValues (by rwa [length_payloadValues]), ofBits_singleBytes]
  rfl

/-- A masked number is read back as its remainder. -/
theorem leNat_maskedBytes (width : Nat) (value : Int) :
    (leNat (maskedBytes width value) : Int) = value % 256 ^ width := by
  have positive : (0 : Int) < 256 ^ width := by positivity
  have nonneg := Int.emod_nonneg value positive.ne'
  have below := Int.emod_lt_of_pos value positive
  have fits : (value % 256 ^ width).toNat < 256 ^ width := by
    rw [← Int.ofNat_lt, Int.toNat_of_nonneg nonneg]
    exact_mod_cast below
  rw [maskedBytes, leNat_leBytes fits, Int.toNat_of_nonneg nonneg]

theorem leNat_maskedBytes_toNat (width : Nat) (value : Int) :
    leNat (maskedBytes width value) = (value % 256 ^ width).toNat := by
  rw [← leNat_maskedBytes, Int.toNat_natCast]

theorem maskedBytes_emod (width : Nat) (value : Int) :
    maskedBytes width (value % 256 ^ width) = maskedBytes width value := by
  rw [maskedBytes, Int.emod_emod, maskedBytes]

theorem wellFormed_packedBody (packet : PerceptionPacket) : WellFormed (sealed (packedBody packet)) version :=
  wellFormed_sealed (.inl rfl) (length_packedBody packet) rfl rfl rfl

/-- The count of persons is a small number, which single precision holds. -/
theorem count_packed {count : Int} (low : 0 ≤ count) (high : count ≤ 3) :
    (∃ single, packSingle (Ieee.ofInt count) = .ok single) ∧ int (toSingle (Ieee.ofInt count)) = .ok count := by
  have cases : count = 0 ∨ count = 1 ∨ count = 2 ∨ count = 3 := by omega
  rcases cases with rfl | rfl | rfl | rfl
  · exact ⟨⟨(Ieee.ofInt 0 : F64).convert binary32, by decide +kernel⟩, by decide +kernel⟩
  · exact ⟨⟨(Ieee.ofInt 1 : F64).convert binary32, by decide +kernel⟩, by decide +kernel⟩
  · exact ⟨⟨(Ieee.ofInt 2 : F64).convert binary32, by decide +kernel⟩, by decide +kernel⟩
  · exact ⟨⟨(Ieee.ofInt 3 : F64).convert binary32, by decide +kernel⟩, by decide +kernel⟩

/-! ### There and back -/

theorem packable_payloadValues {packet : PerceptionPacket} (packable : Packable packet) :
    ∀ value ∈ payloadValues packet, ∃ single, packSingle value = .ok single := by
  have bounds := sentCount_bounds packet
  intro value member
  rw [payloadValues_eq, List.mem_append] at member
  rcases member with lanes | member
  · exact packable value lanes
  rcases List.mem_cons.mp member with rfl | persons
  · exact (count_packed bounds.1 bounds.2).1
  · obtain ⟨slot, taken, own⟩ := List.mem_flatMap.mp persons
    exact ⟨_, (unitValue_slots taken value own).packable.1⟩

theorem packPacket_eq {packet : PerceptionPacket} (packable : Packable packet) :
    packPacket packet = .ok (sealed (packedBody packet)) := by
  rw [packPacket, packWith, packValues_eq (packable_payloadValues packable)]
  rfl

/-- The values of a packet that came back are packed to the same bytes. -/
theorem packedValues_canonical {packet : PerceptionPacket} (counted : 0 ≤ packet.personCount) :
    packedValues (payloadValues (canonical packet)) = packedValues (payloadValues packet) := by
  have rounded (values : List F64) : packedValues (values.map toSingle) = packedValues values := by
    rw [packedValues, List.flatMap_map, packedValues]
    simp only [convert_toSingle]
  have split (first rest : List F64) (value : F64) : packedValues (first ++ value :: rest) =
      packedValues first ++ (singleBytes (value.convert binary32) ++ packedValues rest) := by
    rw [packedValues, List.flatMap_append, List.flatMap_cons]
    rfl
  have lanes : (canonical packet).left.values ++ (canonical packet).right.values ++
      [(canonical packet).sideLeftDistanceM, (canonical packet).sideRightDistanceM] =
        (packet.left.values ++ packet.right.values ++
          [packet.sideLeftDistanceM, packet.sideRightDistanceM]).map toSingle := rfl
  have persons : (slots (canonical packet)).flatMap PersonDetection.values =
      ((slots packet).flatMap PersonDetection.values).map toSingle := by
    rw [slots_canonical, List.flatMap_map, List.map_flatMap]
    rfl
  rw [payloadValues_eq, payloadValues_eq, lanes, persons, sentCount_canonical counted,
    split _ _ (Ieee.ofInt (sentCount packet)), rounded, rounded, split _ _ (Ieee.ofInt (sentCount packet))]

theorem packHeader_canonical (packet : PerceptionPacket) :
    packHeader magic (canonical packet) = packHeader magic packet := by
  have flags : maskedBytes 1 (packet.flags % 2 ^ 8) = maskedBytes 1 packet.flags := maskedBytes_emod ..
  have sequence : maskedBytes 4 (packet.sequence % 2 ^ 32) = maskedBytes 4 packet.sequence := maskedBytes_emod ..
  have frame : maskedBytes 8 (packet.frameTimestampUs % 2 ^ 64) = maskedBytes 8 packet.frameTimestampUs :=
    maskedBytes_emod ..
  have ultrasonic : maskedBytes 8 (packet.ultrasonicTimestampUs % 2 ^ 64) = maskedBytes 8 packet.ultrasonicTimestampUs :=
    maskedBytes_emod ..
  rw [packHeader, packHeader, ← flags, ← sequence, ← frame, ← ultrasonic]
  rfl

/-- The fields of the header are read back masked. -/
theorem header_unpacked (packet : PerceptionPacket) :
    (leField (sealed (packedBody packet)) 5 1 : Int) = packet.flags % 2 ^ 8 ∧
      (leField (sealed (packedBody packet)) 8 4 : Int) = packet.sequence % 2 ^ 32 ∧
      (leField (sealed (packedBody packet)) 12 8 : Int) = packet.frameTimestampUs % 2 ^ 64 ∧
      (leField (sealed (packedBody packet)) 20 8 : Int) = packet.ultrasonicTimestampUs % 2 ^ 64 := by
  have long := length_packedBody packet
  have header {offset width : Nat} (within : offset + width ≤ headerSize) :
      offset + width ≤ (packedBody packet).length := by omega
  refine ⟨?_, ?_, ?_, ?_⟩
  · rw [leField_sealed (header (by decide))]
    exact leNat_maskedBytes 1 packet.flags
  · rw [leField_sealed (header (by decide))]
    exact leNat_maskedBytes 4 packet.sequence
  · rw [leField_sealed (header (by decide))]
    exact leNat_maskedBytes 8 packet.frameTimestampUs
  · rw [leField_sealed (header (by decide))]
    exact leNat_maskedBytes 8 packet.ultrasonicTimestampUs

/-- The lanes, the sides and the count are read back rounded. -/
theorem lanes_unpacked (packet : PerceptionPacket) :
    let data := sealed (packedBody packet)
    laneBoundary data 0 = packet.left.rounded ∧ laneBoundary data 5 = packet.right.rounded ∧
      payloadValue data 10 = toSingle packet.sideLeftDistanceM ∧
      payloadValue data 11 = toSingle packet.sideRightDistanceM ∧
      payloadValue data 12 = toSingle (Ieee.ofInt (sentCount packet)) := by
  intro data
  have read {index : Nat} (within : index < payloadFloatCount) :
      payloadValue data index = toSingle ((payloadValues packet).getD index 0.0) := payloadValue_packedBody within
  simp only [payloadValues_eq] at read
  refine ⟨?_, ?_, read (by decide), read (by decide), read (by decide)⟩
  · rw [laneBoundary, read (by decide), read (by decide), read (by decide), read (by decide), read (by decide)]
    rfl
  · rw [laneBoundary, read (by decide), read (by decide), read (by decide), read (by decide), read (by decide)]
    rfl

/-- The persons are read back out of the slots, rounded. -/
theorem persons_unpacked (packet : PerceptionPacket) :
    (List.range maxPersonDetections).map (personDetection (sealed (packedBody packet))) =
      (slots packet).map PersonDetection.rounded := by
  have read {index : Nat} (within : index < payloadFloatCount) :
      payloadValue (sealed (packedBody packet)) index = toSingle ((payloadValues packet).getD index 0.0) :=
    payloadValue_packedBody within
  simp only [payloadValues_eq] at read
  generalize sealed (packedBody packet) = data at read ⊢
  match taken : slots packet, length_slots packet with
  | [first, second, third], _ =>
    rw [taken] at read
    have slot0 : personDetection data 0 = first.rounded := by
      rw [personDetection, read (by decide), read (by decide), read (by decide), read (by decide), read (by decide),
        read (by decide)]
      rfl
    have slot1 : personDetection data 1 = second.rounded := by
      rw [personDetection, read (by decide), read (by decide), read (by decide), read (by decide), read (by decide),
        read (by decide)]
      rfl
    have slot2 : personDetection data 2 = third.rounded := by
      rw [personDetection, read (by decide), read (by decide), read (by decide), read (by decide), read (by decide),
        read (by decide)]
      rfl
    change [personDetection data 0, personDetection data 1, personDetection data 2] = _
    rw [slot0, slot1, slot2]
    rfl

/-- A packet whose lanes and sides can be packed comes back in its canonical form, with
at most three persons of values from 0 to 1, and a second trip gives the same bytes. -/
theorem unpackPacket_packPacket (packet : PerceptionPacket) (counted : 0 ≤ packet.personCount)
    (packable : Packable packet) :
    ∃ bytes, packPacket packet = .ok bytes ∧ unpackPacket bytes = .ok (canonical packet) ∧
      packPacket (canonical packet) = .ok bytes ∧
      (0 ≤ (canonical packet).personCount ∧ (canonical packet).personCount ≤ 3) ∧
      (canonical packet).persons.length = 3 ∧
      ∀ person ∈ (canonical packet).persons, (person.valid = 0.0 ∨ person.valid = 1.0) ∧
        ∀ value ∈ person.values, (0.0 : F64) ≤ value ∧ value ≤ (1.0 : F64) := by
  have bounds := sentCount_bounds packet
  obtain ⟨flags, sequence, frame, ultrasonic⟩ := header_unpacked packet
  obtain ⟨left, right, sideLeft, sideRight, count⟩ := lanes_unpacked packet
  refine ⟨sealed (packedBody packet), packPacket_eq packable, ?_, ?_, bounds, ?_, ?_⟩
  · rw [unpackPacket_of_version (wellFormed_packedBody packet), countValue, basePayloadFloatCount, count,
      (count_packed bounds.1 bounds.2).2]
    have kept : Max.max 0 (Min.min (maxPersonDetections : Int) (sentCount packet)) = sentCount packet := by
      rw [maxPersonDetections]
      omega
    dsimp only
    rw [kept, persons_unpacked, packetFields, flags, sequence, frame, ultrasonic, left, right, sideLeft, sideRight,
      ← persons_canonical]
    rfl
  · have packed : packedBody (canonical packet) = packedBody packet := by
      rw [packedBody, packHeader_canonical, packedValues_canonical counted]
      rfl
    rw [packPacket_eq, packed]
    intro value member
    obtain ⟨x, -, rfl⟩ : ∃ x ∈ packet.left.values ++ packet.right.values ++
        [packet.sideLeftDistanceM, packet.sideRightDistanceM], toSingle x = value := List.mem_map.mp member
    exact packSingle_toSingle x
  · rw [persons_canonical, List.length_map, length_slots]
    rfl
  · intro person member
    rw [persons_canonical] at member
    obtain ⟨slot, taken, rfl⟩ := List.mem_map.mp member
    constructor
    · rcases slots_cases taken with ⟨sent, rfl⟩ | rfl
      · rw [valid_rounded_sanitizePerson]
        rcases valid_sanitizePerson sent with ⟨one, _⟩ | ⟨zero, _⟩
        · exact .inr one
        · exact .inl zero
      · rw [rounded_noPerson]
        exact .inl rfl
    · intro value own
      exact (unitValue_rounded (unitValue_slots taken) value own).between

/-- A packet with a person that needs sanitizing, no count, and numbers past their widths. -/
def onePersonPacket : PerceptionPacket where
  sequence := 2 ^ 32 + 5
  frameTimestampUs := -1
  ultrasonicTimestampUs := 789
  flags := 275
  left := ⟨0.2, 0.0, 0.1, 0.18, 0.9⟩
  right := ⟨0.2, 0.0, 0.1, -0.22, 0.8⟩
  sideLeftDistanceM := Ieee.nan
  sideRightDistanceM := 0.8
  personCount := 0
  persons := [⟨0.7, 0.91, Ieee.nan, 0.45, 2.0, 0.4⟩]

/-- What it is when it comes back. -/
def onePersonUnpacked : PerceptionPacket where
  sequence := 5
  frameTimestampUs := 18446744073709551615
  ultrasonicTimestampUs := 789
  flags := 19
  left := ⟨0.20000000298023224, 0.0, 0.10000000149011612, 0.18000000715255737, 0.8999999761581421⟩
  right := ⟨0.20000000298023224, 0.0, 0.10000000149011612, -0.2199999988079071, 0.800000011920929⟩
  sideLeftDistanceM := Ieee.nan
  sideRightDistanceM := 0.800000011920929
  personCount := 1
  persons := [⟨1.0, 0.9100000262260437, 0.0, 0.44999998807907104, 1.0, 0.4000000059604645⟩, noPerson, noPerson]

theorem onePersonPacket_comes_back :
    ∃ bytes, packPacket onePersonPacket = .ok bytes ∧ unpackPacket bytes = .ok onePersonUnpacked := by
  have singles : ∀ value ∈ onePersonPacket.left.values ++ onePersonPacket.right.values ++
      [onePersonPacket.sideLeftDistanceM, onePersonPacket.sideRightDistanceM],
        packSingle value = .ok (value.convert binary32) := by decide +kernel
  have back : canonical onePersonPacket = onePersonUnpacked := by decide +kernel
  obtain ⟨bytes, packs, unpacks, -⟩ :=
    unpackPacket_packPacket onePersonPacket (by decide) fun value member => ⟨_, singles value member⟩
  rw [back] at unpacks
  exact ⟨bytes, packs, unpacks⟩

end SelfDriving.Middle
