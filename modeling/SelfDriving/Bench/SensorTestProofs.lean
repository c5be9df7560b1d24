import SelfDriving.Bench.SensorTest
import SelfDriving.Front.TofDiagProofs
import SelfDriving.Hpvc.SensorDecisionProofs

/-! What the bench tool shows of the frames that the FRONT controller sends: every fault has a name, a
distance is only shown where one was measured, and the gaps in the sequence numbers are the frames
that were lost. -/
namespace SelfDriving.Bench
open Ieee754 Python Bytes Front

/-! ### One frame -/

/-- The packet that the tool makes of a frame, with the distances in metres. -/
def packetWith (frame : Frame) (leftM rightM tofM : F64) : Packet where
  version := "AEB1"
  valid := frame.validMask.toNat
  fault := frame.tofDiag.toNat &&& 0xFF
  diag := some frame.tofDiag.toNat
  modelId := some (frame.tofDiag.toNat >>> 8 &&& 0xFF)
  sequence := some frame.sequence.toNat
  alive := none
  timestampMs := some frame.timestampMs.toNat
  distanceValid := none
  leftRawCmX10 := some frame.ultrasonicLeftCmX10.toNat
  rightRawCmX10 := some frame.ultrasonicRightCmX10.toNat
  tofRawCmX10 := some frame.tofFrontCmX10.toNat
  leftM := leftM
  rightM := rightM
  tofM := tofM
  filteredTofM := tofM
  frontObstacleM := tofM

def packetOf (frame : Frame) : Packet :=
  packetWith frame (cmX10ToM frame.ultrasonicLeftCmX10.toNat) (cmX10ToM frame.ultrasonicRightCmX10.toNat)
    (cmX10ToM frame.tofFrontCmX10.toNat)

theorem decodeSensorPacket_sensorPayload (frame : Frame) :
    decodeSensorPacket (sensorPayload frame) = .ok (packetOf frame) := by
  obtain ⟨tofDiag, sequence, timestampMs, tof, left, right⟩ := sensorPayload_fields frame
  have long := length_sensorPayload frame
  have head : field (sensorPayload frame) 0 4 = aeb1Magic ∧ leField (sensorPayload frame) 4 1 = 1 ∧
      leField (sensorPayload frame) 5 1 = frame.validMask.toNat := ⟨rfl, rfl, rfl⟩
  simp only [decodeSensorPacket, decodeAeb1, long, head, tofDiag, sequence, timestampMs, tof, left, right]
  rfl

/-- The distance field of a sensor. -/
def Place.field (frame : Frame) : Place → UInt16
  | left => frame.ultrasonicLeftCmX10
  | right => frame.ultrasonicRightCmX10
  | tof => frame.tofFrontCmX10

theorem value_packetWith (frame : Frame) (leftM rightM tofM : F64) :
    Place.left.value (packetWith frame leftM rightM tofM) = leftM ∧
      Place.right.value (packetWith frame leftM rightM tofM) = rightM ∧
      Place.tof.value (packetWith frame leftM rightM tofM) = tofM := ⟨rfl, rfl, rfl⟩

theorem value_packetOf (frame : Frame) (place : Place) :
    place.value (packetOf frame) = cmX10ToM (place.field frame).toNat := by
  obtain ⟨left, right, tof⟩ := value_packetWith frame (cmX10ToM frame.ultrasonicLeftCmX10.toNat)
    (cmX10ToM frame.ultrasonicRightCmX10.toNat) (cmX10ToM frame.tofFrontCmX10.toNat)
  cases place with
  | left => exact left
  | right => exact right
  | tof => exact tof

theorem raw_packetOf (frame : Frame) (place : Place) : place.raw (packetOf frame) = (place.field frame).toNat := by
  cases place <;> rfl

theorem isFinite_cmX10ToM (cmX10 : UInt16) : (cmX10ToM cmX10.toNat).isFinite = true := by
  have above : Hpvc.metres 0 ≤ Hpvc.metres cmX10 := Hpvc.metres_mono (Nat.zero_le _)
  have below : Hpvc.metres cmX10 ≤ Hpvc.metres 65535 := Hpvc.metres_mono (Nat.le_of_lt_succ cmX10.toNat_lt)
  exact Ieee.isFinite_of_between above below (by decide +kernel) (by decide +kernel)

theorem abs_cmX10ToM_zero : abs (cmX10ToM 0) < (1.0e-6 : F64) := by decide +kernel

/-- A mark of a frame, as the controller sets it and as the tool tests it. -/
theorem valid_mark (frame : Frame) (bit : UInt8) : (packetOf frame).valid &&& bit.toNat = 0 ↔ frame.validMask &&& bit = 0 := by
  rw [← UInt8.toNat_inj, UInt8.toNat_and]
  exact Iff.rfl

/-- The distance of a sensor. -/
def measuredText (cmX10 : UInt16) : String := padLeft 6 (formatFixed 1 (cm (cmX10ToM cmX10.toNat)))

/-- The text of an ultrasonic sensor. -/
def ultraText (valid : Bool) (cmX10 : UInt16) : String :=
  if valid then measuredText cmX10 else if cmX10 = ultraDiagOk then "    --" else "  diag"

/-- How the tool shows a frame. -/
structure ShownAs (frame : Frame) (packet : Packet) : Prop where
  sequence : packet.sequence = some frame.sequence.toNat
  fault : ∃ name, lookup tofFaultNames packet.fault = some name
  left : distanceText packet .left = ultraText (Sensor.left.valid frame) frame.ultrasonicLeftCmX10
  right : distanceText packet .right = ultraText (Sensor.right.valid frame) frame.ultrasonicRightCmX10
  tof : Sensor.tof.valid frame = true →
    distanceText packet .tof = measuredText frame.tofFrontCmX10 ∧ packet.modelId = some 0xEE
  quiet : packetNotes packet = [] ↔ Sensor.left.valid frame = true ∧ Sensor.right.valid frame = true ∧
    Sensor.tof.valid frame = true ∧ frame.tofDiag = 0xEE03 ∧ frame.validMask &&& 0xE0 = 0

section
variable {frame : Frame}

theorem distanceText_of_valid {place : Place} (set : (packetOf frame).valid &&& place.validBit ≠ 0) :
    distanceText (packetOf frame) place = measuredText (place.field frame) := by
  have finite := isFinite_cmX10ToM (place.field frame)
  rw [distanceText, value_packetOf, if_neg set, finite]
  rfl

theorem distanceText_of_clear {place : Place} (clear : (packetOf frame).valid &&& place.validBit = 0)
    (diag : place.field frame ∈ ultraDiags) :
    distanceText (packetOf frame) place = if place.field frame = ultraDiagOk then "    --" else "  diag" := by
  rw [distanceText, value_packetOf, raw_packetOf, if_pos clear]
  generalize place.field frame = cmX10 at diag ⊢
  simp only [ultraDiags, List.mem_cons, List.not_mem_nil, or_false] at diag
  rcases diag with rfl | rfl | rfl | rfl
  · have unnamed : ¬ (lookup ultraDiagNames ultraDiagOk.toNat).isSome = true := by decide
    have small : abs (cmX10ToM ultraDiagOk.toNat) < (1.0e-6 : F64) := abs_cmX10ToM_zero
    rw [if_neg unnamed, if_pos (by simp [small]), if_pos rfl]
  · rfl
  · rfl
  · rfl

/-- The low byte of a diagnosis has a name. -/
theorem lookup_fault (diagnosed : DiagnosedFrame frame) : ∃ name, lookup tofFaultNames (packetOf frame).fault = some name := by
  change ∃ name, lookup tofFaultNames (frame.tofDiag.toNat &&& 0xFF) = some name
  rcases diagnosed.known with none | init | inUse
  · rw [none]
    exact ⟨_, rfl⟩
  · rcases init with same | same | same | ⟨modelId, -, same⟩
    · rw [same]
      exact ⟨_, rfl⟩
    · rw [same]
      exact ⟨_, rfl⟩
    · rw [same]
      exact ⟨_, rfl⟩
    · have low : ∀ n < 256, ((UInt8.ofNat n).toUInt16 <<< 8 ||| 0xA2).toNat &&& 0xFF = 0xA2 := by decide +kernel
      have this := low modelId.toNat modelId.toNat_lt
      rw [UInt8.ofNat_toNat] at this
      rw [same, this]
      exact ⟨_, rfl⟩
  · have each : ∀ diag ∈ measureDiags, ∃ name ∈ tofFaultNames, lookup tofFaultNames (diag.toNat &&& 0xFF) = some name.2 := by
      simp only [measureDiags, List.forall_mem_cons, List.not_mem_nil, false_implies, implies_true]
      decide +kernel
    obtain ⟨name, -, found⟩ := each _ inUse
    exact ⟨name.2, found⟩

theorem modelId_of_inUse (inUse : frame.tofDiag ∈ measureDiags) :
    (packetOf frame).modelId = some 0xEE ∧
      ((packetOf frame).fault = 0 ∨ (packetOf frame).fault = 3 ↔ frame.tofDiag = 0xEE03) := by
  have each : ∀ diag ∈ measureDiags, diag.toNat >>> 8 &&& 0xFF = 0xEE ∧
      (diag.toNat &&& 0xFF = 0 ∨ diag.toNat &&& 0xFF = 3 ↔ diag = 0xEE03) := by
    simp only [measureDiags, List.forall_mem_cons, List.not_mem_nil, false_implies, implies_true]
    decide +kernel
  obtain ⟨model, good⟩ := each _ inUse
  exact ⟨congrArg some model, good⟩

theorem missing_eq_nil (packet : Packet) :
    missing packet = [] ↔ ∀ place : Place, packet.valid &&& place.validBit ≠ 0 := by
  have places : (∀ place : Place, packet.valid &&& place.validBit ≠ 0) ↔ packet.valid &&& aebValidLeft ≠ 0 ∧
      packet.valid &&& aebValidRight ≠ 0 ∧ packet.valid &&& aebValidTof ≠ 0 := by
    refine ⟨fun all => ⟨all .left, all .right, all .tof⟩, ?_⟩
    rintro ⟨left, right, tof⟩ (_ | _ | _)
    · exact left
    · exact right
    · exact tof
  rw [places, missing, List.append_eq_nil_iff, List.append_eq_nil_iff, and_assoc]
  simp only [ite_eq_right_iff, List.cons_ne_nil, imp_false, ne_eq]

theorem steeringNotes_eq_nil (packet : Packet) :
    steeringNotes packet = [] ↔ packet.valid &&& aebValidSteeringCommand = 0 ∧ packet.valid &&& aebValidSteeringRx = 0 ∧
      packet.valid &&& aebValidSteeringCenter = 0 := by
  unfold steeringNotes
  split
  · exact iff_of_false (List.cons_ne_nil _ _) fun none => absurd none.1 ‹_›
  split
  · exact iff_of_false (List.cons_ne_nil _ _) fun none => absurd none.2.1 ‹_›
  split
  · exact iff_of_false (List.cons_ne_nil _ _) fun none => absurd none.2.2 ‹_›
  · exact iff_of_true rfl ⟨not_not.mp ‹_›, not_not.mp ‹_›, not_not.mp ‹_›⟩

/-- Nothing is noted of a packet of the present kind with all sensors, no steering and no fault. -/
theorem packetNotes_eq_nil_iff (packet : Packet) :
    packetNotes packet = [] ↔ packet.version.startsWith "legacy" = false ∧
      (∀ place : Place, packet.valid &&& place.validBit ≠ 0) ∧ steeringNotes packet = [] ∧
      (packet.fault = 0 ∨ packet.fault = 3) := by
  have sides (all : ∀ place : Place, packet.valid &&& place.validBit ≠ 0) (name : String) (place : Place) :
      sideNotes packet name place = [] := if_neg (all place)
  have places := missing_eq_nil packet
  simp only [packetNotes, List.append_eq_nil_iff]
  constructor
  · rintro ⟨⟨⟨⟨⟨legacy, invalid⟩, steering⟩, -⟩, -⟩, fault⟩
    refine ⟨by simpa using legacy, places.mp ?_, steering, or_iff_not_imp_left.mpr (by simpa using fault)⟩
    by_contra some
    exact absurd invalid (by rw [if_neg some]; exact List.cons_ne_nil _ _)
  · rintro ⟨legacy, all, steering, fault⟩
    have known : (if packet.version.startsWith "legacy" = true then ["LEGACY_FW"] else []) = [] := by simp [legacy]
    exact ⟨⟨⟨⟨⟨known, if_pos (places.mpr all)⟩, steering⟩, sides all _ _⟩, sides all _ _⟩, if_pos (by simpa using fault)⟩

theorem valid_eq_true {place : Place} {sensor : Sensor} (same : place.validBit = sensor.bit.toNat) :
    sensor.valid frame = true ↔ (packetOf frame).valid &&& place.validBit ≠ 0 := by
  rw [same, Sensor.valid, decide_eq_true_eq, ne_eq, ne_eq, valid_mark]

theorem packetNotes_packetOf (diagnosed : DiagnosedFrame frame) :
    packetNotes (packetOf frame) = [] ↔ Sensor.left.valid frame = true ∧ Sensor.right.valid frame = true ∧
      Sensor.tof.valid frame = true ∧ frame.tofDiag = 0xEE03 ∧ frame.validMask &&& 0xE0 = 0 := by
  have present : "AEB1".startsWith "legacy" = false := by decide +kernel
  have steering : steeringNotes (packetOf frame) = [] ↔ frame.validMask &&& 0xE0 = 0 := by
    have marks : ∀ n < 256, UInt8.ofNat n &&& 0xE0 = 0 ↔ UInt8.ofNat n &&& validSteeringCommand = 0 ∧
        UInt8.ofNat n &&& validSteeringRx = 0 ∧ UInt8.ofNat n &&& validSteeringCenter = 0 := by decide +kernel
    have mask := marks frame.validMask.toNat frame.validMask.toNat_lt
    rw [UInt8.ofNat_toNat, ← valid_mark frame validSteeringCommand, ← valid_mark frame validSteeringRx,
      ← valid_mark frame validSteeringCenter] at mask
    exact (steeringNotes_eq_nil _).trans mask.symm
  have places : (∀ place : Place, (packetOf frame).valid &&& place.validBit ≠ 0) ↔ Sensor.left.valid frame = true ∧
      Sensor.right.valid frame = true ∧ Sensor.tof.valid frame = true := by
    have left : Sensor.left.valid frame = true ↔ (packetOf frame).valid &&& Place.left.validBit ≠ 0 := valid_eq_true rfl
    have right : Sensor.right.valid frame = true ↔ (packetOf frame).valid &&& Place.right.validBit ≠ 0 := valid_eq_true rfl
    have tof : Sensor.tof.valid frame = true ↔ (packetOf frame).valid &&& Place.tof.validBit ≠ 0 := valid_eq_true rfl
    rw [left, right, tof]
    refine ⟨fun all => ⟨all .left, all .right, all .tof⟩, ?_⟩
    rintro ⟨left, right, tof⟩ (_ | _ | _)
    · exact left
    · exact right
    · exact tof
  have version : (packetOf frame).version.startsWith "legacy" = false := present
  rw [packetNotes_eq_nil_iff, places, steering]
  constructor
  · rintro ⟨-, ⟨left, right, tof⟩, centered, fault⟩
    exact ⟨left, right, tof, (modelId_of_inUse (diagnosed.valid tof)).2.mp fault, centered⟩
  · rintro ⟨left, right, tof, good, centered⟩
    exact ⟨version, ⟨left, right, tof⟩, centered, (modelId_of_inUse (diagnosed.valid tof)).2.mpr good⟩

theorem distanceText_side {place : Place} {sensor : Sensor} (same : place.validBit = sensor.bit.toNat)
    (diag : sensor.valid frame = false → place.field frame ∈ ultraDiags) :
    distanceText (packetOf frame) place = ultraText (sensor.valid frame) (place.field frame) := by
  cases valid : sensor.valid frame with
  | true => exact distanceText_of_valid ((valid_eq_true same).mp valid)
  | false =>
    refine distanceText_of_clear (not_not.mp fun set => ?_) (diag valid)
    exact absurd (valid.symm.trans ((valid_eq_true same).mpr set)) Bool.false_ne_true

theorem shownAs_packetOf (sound : SoundFrame frame) (diagnosed : DiagnosedFrame frame) : ShownAs frame (packetOf frame) where
  sequence := rfl
  fault := lookup_fault diagnosed
  left := distanceText_side rfl sound.leftClear
  right := distanceText_side rfl sound.rightClear
  tof valid := ⟨distanceText_of_valid ((valid_eq_true rfl).mp valid), (modelId_of_inUse (diagnosed.valid valid)).1⟩
  quiet := packetNotes_packetOf diagnosed

end

/-- Whatever the sensors and their buses do, the tool decodes every frame that the controller sends and
shows a named fault; a distance of a side sensor is shown only if it is valid, and nothing is noted
exactly if the three distances are valid, the last measurement went well and nobody steers. -/
theorem sensor_test_shows {ℓ : Type} (link : Link ℓ) (stmFrequency : F32) (sensor : ℓ) (bootTicks : Nat)
    (loops : List (DriverLoop ℓ)) {frame : Frame}
    (sent : frame ∈ (driverNode link stmFrequency).outputs (driverInit sensor bootTicks) loops) :
    ∃ packet, decodeSensorPacket (udpPayload (buildPacket frame)) = .ok packet ∧ ShownAs frame packet := by
  have sound := soundFrame_of_driver link stmFrequency sent
  have diagnosed := diagnosedFrame_of_sent link stmFrequency sent
  rw [udpPayload_buildPacket]
  exact ⟨packetOf frame, decodeSensorPacket_sensorPayload frame, shownAs_packetOf sound diagnosed⟩

/-- A time-of-flight sensor that answers everything and measures 500 mm. -/
def wellSensor : PoweredSensor where
  device _ :=
    { acknowledges := fun _ _ _ => true
      answer := fun _ register size =>
        let bytes : List UInt8 :=
          if register = modelIdRegister then [0xEE] else if register = resultRangeMm then [0x01, 0xF4] else [7]
        some ⟨(List.range size).map fun index => bytes.getD index 7, by simp⟩ }
  runs := 0
  history := []

/-- A loop with half a meter on both sides, and that sensor if one is reset. -/
def wellLoop : DriverLoop PoweredSensor :=
  ⟨⟨.pulse 290000, 5, 6⟩, ⟨.pulse 290000, 5, 6⟩, 5, 6, 2, 6,
    ⟨false, false, false, (0.0 : F32), (0.0 : F32), 0, 0, 0, 0⟩, 7, wellSensor, ⟨2, 2, 2⟩⟩

/-- The twelfth frame, the first with a distance from all three sensors. -/
theorem sensor_test_shows_measured :
    let node := driverNode registerLink (100000000.0 : F32)
    let frame := node.output (node.run (driverInit wellSensor 0) (List.replicate 11 wellLoop)) wellLoop
    (frame.validMask, frame.ultrasonicLeftCmX10, frame.ultrasonicRightCmX10, frame.tofFrontCmX10) = (7, 497, 497, 250) ∧
      ∃ packet, decodeSensorPacket (udpPayload (buildPacket frame)) = .ok packet ∧ ShownAs frame packet := by
  intro node frame
  have sent : frame ∈ node.outputs (driverInit wellSensor 0) (List.replicate 12 wellLoop) :=
    List.mem_of_getElem? (node.getElem?_outputs _ (List.replicate 12 wellLoop) 11)
  exact ⟨by decide +kernel, sensor_test_shows registerLink (100000000.0 : F32) wellSensor 0 _ sent⟩

/-! ### Lost frames -/

def Shown.note : Shown → String
  | .row _ note _ => note
  | .rejected _ => "rejected"

/-- The note of a frame before which some were lost. -/
def lossNote (sequence lost : Nat) : String :=
  if lost = 0 then "seq=" ++ toString sequence else "seq=" ++ toString sequence ++ " GAP+" ++ toString lost

/-- The notes of the frames at some places of a run, after the one at another place. -/
def lossNotes : Option Nat → List Nat → List String
  | _, [] => []
  | none, place :: rest => lossNote ((place + 1) % 2 ^ 32) 0 :: lossNotes (some place) rest
  | some last, place :: rest =>
    lossNote ((place + 1) % 2 ^ 32) ((place - last - 1) % 2 ^ 32) :: lossNotes (some place) rest

theorem note_of_frame (frame : Frame) (state : SensorState) (now : F64) {last : Option Nat} {place : Nat}
    (knows : state.lastSequence = last.map fun last => (last + 1) % 2 ^ 32) (later : ∀ last' ∈ last, last' < place)
    (number : frame.sequence = UInt32.ofNat (place + 1)) :
    (updateSequenceNote (packetOf frame) state now).2.1 =
        lossNote ((place + 1) % 2 ^ 32) (last.elim 0 fun last => (place - last - 1) % 2 ^ 32) ∧
      (updateSequenceNote (packetOf frame) state now).1.lastSequence = some ((place + 1) % 2 ^ 32) := by
  have carried : (packetOf frame).sequence = some ((place + 1) % 2 ^ 32) := by
    rw [← UInt32.toNat_ofNat' (n := place + 1), ← number]
    rfl
  rw [updateSequenceNote, carried]
  dsimp only
  rw [knows]
  refine ⟨?_, rfl⟩
  cases last with
  | none => rfl
  | some last =>
    have lt := later last rfl
    have gap : (((place + 1) % 2 ^ 32 : Nat) - (((last + 1) % 2 ^ 32 + 1) % 2 ^ 32 : Nat) : Int) % 2 ^ 32 =
        ((place - last - 1) % 2 ^ 32 : Nat) := by omega
    simp only [Option.map_some, Option.elim_some, lossNote, gap, Int.natCast_eq_zero]
    rfl

/-- The frame at a place of a run has its number. -/
theorem sequence_of_frame {ℓ : Type} (link : Link ℓ) (stmFrequency : F32) (sensor : ℓ) (bootTicks : Nat)
    {loops : List (DriverLoop ℓ)} {place : Nat} {frame : Frame}
    (there : ((driverNode link stmFrequency).outputs (driverInit sensor bootTicks) loops)[place]? = some frame) :
    frame.sequence = UInt32.ofNat (place + 1) := by
  rw [Machine.getElem?_outputs, Option.map_eq_some_iff] at there
  obtain ⟨loop, found, rfl⟩ := there
  have short : (loops.take place).length = place :=
    List.length_take_of_le (Nat.le_of_lt (List.getElem?_eq_some_iff.mp found).1)
  have before := sequence_run link stmFrequency sensor bootTicks (loops.take place)
  rw [short] at before
  rw [UInt32.ofNat_add, ← before]
  rfl

theorem notes_of_frames {ℓ : Type} (link : Link ℓ) (stmFrequency : F32) (sensor : ℓ) (bootTicks : Nat)
    (loops : List (DriverLoop ℓ)) {places : List Nat} {packets : List (List UInt8 × F64)}
    (received : List.Forall₂ (fun place packet =>
      (((driverNode link stmFrequency).outputs (driverInit sensor bootTicks) loops)[place]?).map
        (fun frame => udpPayload (buildPacket frame)) = some packet.1) places packets)
    (increasing : places.Pairwise (· < ·)) {state : SensorState} {last : Option Nat}
    (knows : state.lastSequence = last.map fun last => (last + 1) % 2 ^ 32)
    (later : ∀ last' ∈ last, ∀ place ∈ places, last' < place) :
    (runSensor.outputs state packets).map Shown.note = lossNotes last places := by
  induction received generalizing state last with
  | nil => cases last <;> rfl
  | @cons place packet places packets first rest ih =>
    obtain ⟨data, now⟩ := packet
    obtain ⟨frame, there, rfl⟩ := Option.map_eq_some_iff.mp first
    have number := sequence_of_frame link stmFrequency sensor bootTicks there
    obtain ⟨note, next⟩ := note_of_frame frame state now knows
      (fun last' now => later last' now place (List.mem_cons_self ..)) number
    have decoded : decodeSensorPacket (udpPayload (buildPacket frame)) = .ok (packetOf frame) :=
      decodeSensorPacket_sensorPayload frame
    have step : runSensor.step state (udpPayload (buildPacket frame), now) =
        ((updateSequenceNote (packetOf frame) state now).1,
          .row (packetOf frame) (updateSequenceNote (packetOf frame) state now).2.1
            (updateSequenceNote (packetOf frame) state now).2.2) := by
      simp only [runSensor, decoded]
    have above : ∀ last' ∈ some place, ∀ place ∈ places, last' < place := by
      intro last' now
      cases now
      exact (List.pairwise_cons.mp increasing).1
    have after := ih (List.pairwise_cons.mp increasing).2 next above
    rw [Machine.outputs, Machine.output, Machine.next, step, List.map_cons, after]
    cases last with
    | none => exact congrArg (· :: _) note
    | some last => exact congrArg (· :: _) note

/-- Of whatever frames of a run reach the tool in their order, it shows each with its number and with
the count of those that were lost since the one before it, both modulo the width of the number. -/
theorem sensor_test_counts_losses {ℓ : Type} (link : Link ℓ) (stmFrequency : F32) (sensor : ℓ) (bootTicks : Nat)
    (loops : List (DriverLoop ℓ)) {places : List Nat} {packets : List (List UInt8 × F64)}
    (received : List.Forall₂ (fun place packet =>
      (((driverNode link stmFrequency).outputs (driverInit sensor bootTicks) loops)[place]?).map
        (fun frame => udpPayload (buildPacket frame)) = some packet.1) places packets)
    (increasing : places.Pairwise (· < ·)) :
    (runSensor.outputs sensorStart packets).map Shown.note = lossNotes none places :=
  notes_of_frames link stmFrequency sensor bootTicks loops received increasing rfl (by simp)

/-- A controller without a time-of-flight sensor, of whose first three frames the second is lost. -/
theorem sensor_test_counts_losses_one :
    let node := driverNode deadLink (100000000.0 : F32)
    let start := driverInit () 0
    (runSensor.outputs sensorStart
      [(udpPayload (buildPacket (node.output start (deadLoop 1))), 0.0),
        (udpPayload (buildPacket (node.output (node.run start [deadLoop 1, deadLoop 2]) (deadLoop 3))), 0.5)]).map
      Shown.note = ["seq=1", "seq=3 GAP+1"] := by
  intro node start
  have second : lossNotes none [0, 2] = ["seq=1", "seq=3 GAP+1"] := by decide +kernel
  rw [← second]
  exact sensor_test_counts_losses deadLink (100000000.0 : F32) () 0 [deadLoop 1, deadLoop 2, deadLoop 3]
    (.cons rfl (.cons rfl .nil)) (by decide)

end SelfDriving.Bench
