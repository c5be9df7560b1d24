import SelfDriving.Foundations.Ieee754Widening
import SelfDriving.Hpvc.RuntimeApi
import SelfDriving.Rear.BoardProofs
import SelfDriving.Rear.UltrasonicProofs

/-! What a status tells that the REAR controller sends: the distances of one frame that the third core
measured, with a bit for each that holds, and the speed of one period of the second core. -/
namespace SelfDriving.Rear
open Ieee754 DoubleBuffer
open Front (Echo Reading UltraRange)

/-! ### Frames of the sensors -/

/-- A distance in metres that a sensor has measured. -/
def Ranged (metres : F32) : Prop := ∃ cmX10, UltraRange cmX10 ∧ metres = Ieee.ofUInt32 cmX10.toUInt32 * (0.001 : F32)

/-- A distance is measured where the mask has its bit, and zero elsewhere. -/
structure Honest (frame : AebUltraLmuFrame) : Prop where
  mask : frame.validMask.toNat ≤ 3
  left : frame.validMask &&& aebValidUltraLeft ≠ 0 → Ranged frame.left
  noLeft : frame.validMask &&& aebValidUltraLeft = 0 → frame.left = 0.0
  right : frame.validMask &&& aebValidUltraRight ≠ 0 → Ranged frame.right
  noRight : frame.validMask &&& aebValidUltraRight = 0 → frame.right = 0.0

/-- The sensor after some readings. -/
def Sensed (stmFrequency : F32) (sensor : UltrasonicSensor) : Prop :=
  ∃ readings, sensor = (ultrasonic stmFrequency).run ultrasonicStart readings

section
variable {stmFrequency : F32}

theorem Sensed.update {sensor : UltrasonicSensor} (sensed : Sensed stmFrequency sensor) (reading : Reading Echo) :
    Sensed stmFrequency
      (ultrasonicUpdate stmFrequency reading.outcome reading.readTicks reading.checkTicks sensor).1 := by
  obtain ⟨readings, rfl⟩ := sensed
  refine ⟨readings ++ [reading], ?_⟩
  rw [Machine.run_concat]
  rfl

/-- A sensor that has measured nothing is as it was. -/
theorem run_ultrasonic_of_failed {readings : List (Reading Echo)} (failed : readings.flatMap (measured stmFrequency) = [])
    (sensor : UltrasonicSensor) : (ultrasonic stmFrequency).run sensor readings = sensor := by
  induction readings generalizing sensor with
  | nil => rfl
  | cons reading rest ih =>
    rw [List.flatMap_cons, List.append_eq_nil_iff] at failed
    rw [Machine.run_cons, ultrasonic_next_failed failed.1, ih failed.2]

/-- What counts as fresh has been measured. -/
theorem Sensed.ranged {sensor : UltrasonicSensor} (sensed : Sensed stmFrequency sensor) {now : UInt32}
    (fresh : Front.isFresh now sensor.lastValidTick ultraStaleMs = true) : Ranged (ultraMetres sensor) := by
  obtain ⟨readings, rfl⟩ := sensed
  refine ⟨_, (filtersOf_run stmFrequency readings).filters.range ultraRange_of_measured ?_, rfl⟩
  intro failed
  rw [run_ultrasonic_of_failed failed] at fresh
  simp [Front.isFresh, ultrasonicStart] at fresh

theorem honest_of_ranged {leftValid rightValid : Bool} {left right : F32} (leftRanged : leftValid = true → Ranged left)
    (rightRanged : rightValid = true → Ranged right) :
    Honest
      { left := if leftValid then left else 0.0
        right := if rightValid then right else 0.0
        validMask := (if leftValid then aebValidUltraLeft else 0) ||| (if rightValid then aebValidUltraRight else 0) } := by
  have small : ∀ l r : Bool, ((if l then aebValidUltraLeft else 0) ||| (if r then aebValidUltraRight else 0)).toNat ≤ 3 := by
    decide
  have leftBit : ∀ l r : Bool, ((if l then aebValidUltraLeft else 0) ||| (if r then aebValidUltraRight else 0)) &&&
      aebValidUltraLeft = 0 ↔ l = false := by decide
  have rightBit : ∀ l r : Bool, ((if l then aebValidUltraLeft else 0) ||| (if r then aebValidUltraRight else 0)) &&&
      aebValidUltraRight = 0 ↔ r = false := by decide
  constructor
  · exact small leftValid rightValid
  · intro marked
    rw [ne_eq, leftBit, Bool.not_eq_false] at marked
    simp only [marked, if_true, leftRanged marked]
  · intro unmarked
    rw [leftBit] at unmarked
    simp only [unmarked, Bool.false_eq_true, if_false]
  · intro marked
    rw [ne_eq, rightBit, Bool.not_eq_false] at marked
    simp only [marked, if_true, rightRanged marked]
  · intro unmarked
    rw [rightBit] at unmarked
    simp only [unmarked, Bool.false_eq_true, if_false]

theorem ultraRunOnce_honest {s : UltraSensors} (left : Sensed stmFrequency s.left) (right : Sensed stmFrequency s.right)
    (loop : UltraLoop) :
    Honest (ultraRunOnce stmFrequency loop s).2 ∧ Sensed stmFrequency (ultraRunOnce stmFrequency loop s).1.left ∧
      Sensed stmFrequency (ultraRunOnce stmFrequency loop s).1.right := by
  have sensedLeft := left.update loop.left
  have sensedRight := right.update loop.right
  exact ⟨honest_of_ranged sensedLeft.ranged sensedRight.ranged, sensedLeft, sensedRight⟩

/-! ### The second core's speeds and the third core's frames -/

/-- The speeds of the periods so far. -/
def speeds (events : List BoardEvent) : List F32 :=
  events.filterMap fun
    | .controlled _ output => some output.speed
    | _ => none

/-- The frames of the sensors so far. -/
def frames (events : List BoardEvent) : List AebUltraLmuFrame :=
  events.filterMap fun
    | .measured frame => some frame
    | _ => none

/-- The addresses that commands came from. -/
def addresses (events : List BoardEvent) : List UInt32 :=
  events.filterMap fun
    | .received addr _ => addr
    | _ => none

/-- The statuses so far. -/
def statuses (events : List BoardEvent) : List (List UInt8) :=
  events.filterMap fun
    | .status _ packet => some packet
    | _ => none

@[simp] theorem speeds_append (first second : List BoardEvent) :
    speeds (first ++ second) = speeds first ++ speeds second := List.filterMap_append

@[simp] theorem frames_append (first second : List BoardEvent) :
    frames (first ++ second) = frames first ++ frames second := List.filterMap_append

@[simp] theorem addresses_append (first second : List BoardEvent) :
    addresses (first ++ second) = addresses first ++ addresses second := List.filterMap_append

@[simp] theorem statuses_append (first second : List BoardEvent) :
    statuses (first ++ second) = statuses first ++ statuses second := List.filterMap_append

theorem controlLoop_speed (speed : F32) (cmd : DriveCmd F32) (s : LoopState F32) :
    (controlLoop speed cmd s).2.telem.vMeas = (controlLoop speed cmd s).2.speed ∧
      (controlLoop speed cmd s).2.speed.isFinite = true := by
  have finite : (measuredSpeed speed : F32).isFinite = true := by
    by_cases number : FloatingMath.isFinite (speed * (encSpeedToMps : F32)) = true
    · rw [measuredSpeed, if_pos number]
      exact number
    · rw [measuredSpeed, if_neg number]
      decide +kernel
  rcases controlLoop_cases speed cmd s with ⟨-, same⟩ | ⟨-, -, same⟩ | ⟨-, -, -, same⟩
  · rw [same]
    exact ⟨rfl, finite⟩
  · rw [same, manualStep]
    dsimp only
    split
    · exact ⟨rfl, finite⟩
    · exact ⟨rfl, finite⟩
  · rw [same, accStep_eq, following]
    exact ⟨rfl, finite⟩

/-- The telemetry between the second core and the first. -/
structure TelemKept (past : List BoardEvent) (b : BoardState) : Prop where
  writes : b.telem.writer = .idle ↔ b.core1 ≠ .writingTelem
  shared : ∃ records floor, Shared telemLayout b.telem records floor ∧
    ∀ tf ∈ records, tf.vMeas ∈ (0.0 : F32) :: speeds past
  held : ∀ tf, b.core0 = .readingUltra tf → tf.vMeas ∈ (0.0 : F32) :: speeds past

/-- The frames between the third core and the first. -/
structure UltraKept (stmFrequency : F32) (past : List BoardEvent) (b : BoardState) : Prop where
  shared : ∃ floor, Shared ultraLayout b.ultra (ultraZero :: frames past) floor
  left : Sensed stmFrequency b.sensors.left
  right : Sensed stmFrequency b.sensors.right

/-- What the first core remembers. -/
structure SentKept (past : List BoardEvent) (b : BoardState) : Prop where
  pcip : b.pcip = (addresses past).getLastD pcipInit
  ultraAlive : b.ultraAlive = UInt8.ofNat (statuses past).length

theorem SentKept.next {past : List BoardEvent} {b b' : BoardState} {event : Option BoardEvent} (kept : SentKept past b)
    (does : Does stmFrequency b b' event) : SentKept (past ++ event.toList) b' := by
  obtain ⟨pcip, ultraAlive⟩ := kept
  cases does with
  | receives addr cmd polling =>
    refine ⟨?_, ?_⟩
    · cases addr with
      | none => simpa [addresses] using pcip
      | some addr => simp [addresses]
    · simpa [statuses] using ultraAlive
  | sendsStatus tf into u ultra reading reads =>
    refine ⟨by simpa [addresses] using pcip, ?_⟩
    simp [statuses, ultraAlive]
  | _ => exact ⟨by simpa [addresses] using pcip, by simpa [statuses] using ultraAlive⟩

theorem UltraKept.next {past : List BoardEvent} {b b' : BoardState} {event : Option BoardEvent}
    (kept : UltraKept stmFrequency past b) (does : Does stmFrequency b b' event) :
    UltraKept stmFrequency (past ++ event.toList) b' := by
  obtain ⟨⟨floor, shared⟩, left, right⟩ := kept
  cases does with
  | readsUltra tf u ultra reading reads =>
    obtain ⟨floor', -, shared', -⟩ := shared.read reads
    exact ⟨⟨floor', by simpa [frames] using shared'⟩, left, right⟩
  | sendsStatus tf into u ultra reading reads =>
    obtain ⟨floor', -, shared', -⟩ := shared.read reads
    exact ⟨⟨floor', by simpa [frames] using shared'⟩, left, right⟩
  | measures loop idle =>
    obtain ⟨-, left', right'⟩ := ultraRunOnce_honest left right loop
    refine ⟨⟨floor, ?_⟩, left', right'⟩
    rw [frames_append, ← List.cons_append]
    exact shared.begin idle _
  | writesUltra writing clear =>
    obtain ⟨floor', -, shared'⟩ := shared.go_on writing clear
    exact ⟨⟨floor', by simpa [frames] using shared'⟩, left, right⟩
  | _ => exact ⟨⟨floor, by simpa [frames] using shared⟩, left, right⟩

theorem TelemKept.next {past : List BoardEvent} {b b' : BoardState} {event : Option BoardEvent}
    (kept : TelemKept past b) (does : Does stmFrequency b b' event) : TelemKept (past ++ event.toList) b' := by
  obtain ⟨writes, ⟨records, floor, shared, known⟩, held⟩ := kept
  have more {speed : F32} {events : List BoardEvent} (member : speed ∈ (0.0 : F32) :: speeds past) :
      speed ∈ (0.0 : F32) :: speeds (past ++ events) := by
    rw [speeds_append, ← List.cons_append]
    exact List.mem_append_left _ member
  cases does with
  | readsTelem into telem returned idle reads =>
    obtain ⟨floor', -, shared', same, -⟩ := shared.read reads
    exact ⟨same ▸ writes, ⟨records, floor', shared', fun tf member => more (known tf member)⟩, by simp⟩
  | sendsTelem into tf telem reading reads =>
    obtain ⟨floor', -, shared', same, there⟩ := shared.read reads
    refine ⟨same ▸ writes, ⟨records, floor', shared', fun tf member => more (known tf member)⟩, ?_⟩
    rintro _ ⟨⟩
    exact more (known tf (List.mem_of_getElem? (there tf rfl)))
  | controls into cmd driveCmd speed reading reads =>
    have idle : b.telem.writer = .idle := writes.mpr (by simp [reading])
    obtain ⟨vMeas, -⟩ := controlLoop_speed speed cmd b.loop
    refine ⟨by simp [step, idle], ⟨_, floor, shared.begin idle _, ?_⟩, fun tf holds => more (held tf holds)⟩
    intro tf member
    rcases List.mem_append.mp member with before | now
    · exact more (known tf before)
    · rw [List.mem_singleton.mp now, vMeas, speeds_append, ← List.cons_append]
      exact List.mem_append_right _ (List.mem_singleton_self _)
  | writesTelem writing clear =>
    have storing : b.telem.writer ≠ .idle := fun idle => writes.mp idle writing
    obtain ⟨floor', -, shared'⟩ := shared.go_on storing clear
    refine ⟨?_, ⟨records, floor', shared', fun tf member => more (known tf member)⟩, fun tf holds => more (held tf holds)⟩
    cases (step telemLayout b.telem (.writer telemZero)).1.writer <;> simp
  | readsUltra tf u ultra reading reads =>
    refine ⟨writes, ⟨records, floor, shared, fun tf member => more (known tf member)⟩, ?_⟩
    rintro _ ⟨⟩
    exact more (held tf reading)
  | beginsDriveCmd cmd driveCmd speed returned waiting reads =>
    exact ⟨by simpa [waiting] using writes, ⟨records, floor, shared, fun tf member => more (known tf member)⟩,
      fun tf holds => more (held tf holds)⟩
  | readsDriveCmd cmd driveCmd speed reading reads =>
    exact ⟨by simpa [reading] using writes, ⟨records, floor, shared, fun tf member => more (known tf member)⟩,
      fun tf holds => more (held tf holds)⟩
  | writesDriveCmd writing clear =>
    refine ⟨writes, ⟨records, floor, shared, fun tf member => more (known tf member)⟩, fun tf holds => ?_⟩
    exfalso
    revert holds
    cases (step driveCmdLayout b.driveCmd (.writer driveCmdBoot)).1.writer <;> simp
  | receives addr cmd polling =>
    exact ⟨writes, ⟨records, floor, shared, fun tf member => more (known tf member)⟩, by simp⟩
  | sendsStatus tf into u ultra reading reads =>
    exact ⟨writes, ⟨records, floor, shared, fun tf member => more (known tf member)⟩, by simp⟩
  | _ => exact ⟨writes, ⟨records, floor, shared, fun tf member => more (known tf member)⟩, fun tf holds => more (held tf holds)⟩

/-- All that the status of the board rests on. -/
structure StatusKept (stmFrequency : F32) (past : List BoardEvent) (b : BoardState) : Prop where
  telem : TelemKept past b
  ultra : UltraKept stmFrequency past b
  sent : SentKept past b
  honest : ∀ frame ∈ frames past, Honest frame
  finite : ∀ speed ∈ speeds past, speed.isFinite = true

theorem StatusKept.next {past : List BoardEvent} {b b' : BoardState} {event : Option BoardEvent}
    (kept : StatusKept stmFrequency past b) (does : Does stmFrequency b b' event) :
    StatusKept stmFrequency (past ++ event.toList) b' := by
  refine ⟨kept.telem.next does, kept.ultra.next does, kept.sent.next does, ?_, ?_⟩
  · rw [frames_append]
    intro frame member
    rcases List.mem_append.mp member with before | now
    · exact kept.honest frame before
    · cases does with
      | measures loop idle =>
        rw [List.mem_singleton.mp now]
        exact (ultraRunOnce_honest kept.ultra.left kept.ultra.right loop).1
      | _ => cases now
  · rw [speeds_append]
    intro speed member
    rcases List.mem_append.mp member with before | now
    · exact kept.finite speed before
    · cases does with
      | controls into cmd driveCmd speed' reading reads =>
        rw [List.mem_singleton.mp now]
        exact (controlLoop_speed speed' cmd b.loop).2
      | _ => cases now

/-- The third core has written a whole frame before the others go on. -/
theorem ultra_start (slots : Fin 2 → AebUltraLmuFrame) (index : Fin 2) :
    (boardStart slots index).ultra.writer = .idle ∧ (boardStart slots index).ultra.reader = .idle ∧
      (boardStart slots index).ultra.slots (boardStart slots index).ultra.index = ultraZero := by
  refine ⟨rfl, rfl, ?_⟩
  simp only [boardStart, List.replicate, Machine.run_cons, Machine.run_nil, Machine.next, machine, step, ultraLayout,
    Function.update_self]

theorem statusKept_start (slots : Fin 2 → AebUltraLmuFrame) (index : Fin 2) :
    StatusKept stmFrequency [] (boardStart slots index) where
  telem := ⟨by simp [boardStart, start], ⟨[telemZero], 0, shared_of_idle rfl rfl, by simp [telemZero]⟩, by simp [boardStart]⟩
  ultra := by
    obtain ⟨writer, reader, zero⟩ := ultra_start slots index
    refine ⟨⟨0, ?_⟩, ⟨[], rfl⟩, ⟨[], rfl⟩⟩
    have shared : Shared ultraLayout (boardStart slots index).ultra [_] 0 := shared_of_idle writer reader
    rwa [zero] at shared
  sent := ⟨rfl, rfl⟩
  honest := by simp [frames]
  finite := by simp [speeds]

theorem honest_zero : Honest ultraZero :=
  ⟨by decide, fun marked => absurd rfl marked, fun _ => rfl, fun marked => absurd rfl marked, fun _ => rfl⟩

/-! ### The status at the other end -/

/-- A status is decoded as it was laid out. -/
theorem decodeRearStatus_bytes (frame : RearHpvcStatusFrame) :
    Hpvc.decodeRearStatus frame.bytes =
      some
        { leftDiagDistanceM := Python.unpackSingle frame.rearLeftM
          rightDiagDistanceM := Python.unpackSingle frame.rearRightM
          vehicleSpeedMps := some (Python.unpackSingle frame.vehicleSpeedMps)
          sensorValid := frame.validMask.toNat
          motorState := frame.motorState.toNat
          aliveCount := frame.aliveCount.toNat
          reserved := some frame.reserved.toNat
          speedValid := (Python.unpackSingle frame.vehicleSpeedMps).isFinite
          packetSizeBytes := 16
          packetFormat := "v2" } := by
  have single (offset : Nat) (x : F32) (there : Bytes.field frame.bytes offset 4 = Python.singleBytes x) :
      Python.singleAt frame.bytes offset = Python.unpackSingle x := by
    rw [Python.singleAt, Bytes.leField, there, Python.ofBits_singleBytes]
  have byte (offset : Nat) (x : UInt8) (there : Bytes.field frame.bytes offset 1 = [x]) :
      Bytes.leField frame.bytes offset 1 = x.toNat := by
    rw [Bytes.leField, there]
    simp [Bytes.leNat]
  have size : frame.bytes.length = 16 := rfl
  rw [Hpvc.decodeRearStatus, if_pos (by rw [size]; decide), single 0 frame.rearLeftM rfl, single 4 frame.rearRightM rfl,
    single 8 frame.vehicleSpeedMps rfl, byte 12 frame.validMask rfl, byte 13 frame.motorState rfl,
    byte 14 frame.aliveCount rfl, byte 15 frame.reserved rfl, size]

/-- A status tells the distances of one frame that was measured, and whether they hold, with the speed of one
period, and it counts the statuses before it. -/
structure StatusTells (past : List BoardEvent) (address : UInt32) (packet : List UInt8) : Prop where
  address : address = (addresses past).getLastD pcipInit
  tells : ∃ frame ∈ ultraZero :: frames past, ∃ speed ∈ (0.0 : F32) :: speeds past, Honest frame ∧
    Hpvc.decodeRearStatus packet =
      some
        { leftDiagDistanceM := Python.unpackSingle frame.left
          rightDiagDistanceM := Python.unpackSingle frame.right
          vehicleSpeedMps := some (Python.unpackSingle speed)
          sensorValid := frame.validMask.toNat
          motorState := 2
          aliveCount := (statuses past).length % 16
          reserved := some 0
          speedValid := true
          packetSizeBytes := 16
          packetFormat := "v2" }

theorem statusTells_of_does {past : List BoardEvent} {b b' : BoardState} {address : UInt32} {packet : List UInt8}
    (kept : StatusKept stmFrequency past b) (does : Does stmFrequency b b' (some (.status address packet))) :
    StatusTells past address packet := by
  obtain ⟨⟨-, -, held⟩, ⟨⟨floor, shared⟩, -, -⟩, ⟨pcip, alive⟩, honest, finite⟩ := kept
  cases does with
  | sendsStatus tf into u ultra reading reads =>
    obtain ⟨floor', -, -, -, there⟩ := shared.read reads
    have measured := List.mem_of_getElem? (there u rfl)
    have speed := held tf reading
    refine ⟨pcip, u, measured, tf.vMeas, speed, ?_, ?_⟩
    · rcases List.mem_cons.mp measured with rfl | later
      · exact honest_zero
      · exact honest u later
    · have real : (Python.unpackSingle tf.vMeas).isFinite = true := by
        rw [Python.unpackSingle, Ieee.isFinite_convert widens_binary]
        rcases List.mem_cons.mp speed with zero | later
        · rw [zero]
          decide +kernel
        · exact finite _ later
      have count : (b.ultraAlive &&& 0x0F).toNat = (statuses past).length % 16 := by
        rw [alive, UInt8.toNat_and, UInt8.toNat_ofNat']
        exact (Nat.and_two_pow_sub_one_eq_mod _ 4).trans (Nat.mod_mod_of_dvd _ (by decide))
      rw [decodeRearStatus_bytes]
      simp only [rearStatus, real, count]
      rfl

/-- In whatever order the cores go on, every status that is sent tells what was measured, to whoever sent
the last command. -/
theorem rear_status_tells (slots : Fin 2 → AebUltraLmuFrame) (index : Fin 2) (steps : List BoardStep)
    (clear : boardUndisturbed stmFrequency (boardStart slots index) steps = true) {before after : List BoardEvent}
    {address : UInt32} {packet : List UInt8}
    (sent : boardEvents stmFrequency (boardStart slots index) steps = before ++ .status address packet :: after) :
    StatusTells before address packet := by
  have single (b : BoardState) (step : BoardStep) : (boardRecord stmFrequency b step).length ≤ 1 := by
    rw [boardRecord]
    cases (board stmFrequency).output b step <;> simp
  obtain ⟨first, step, rest, rfl, rfl, now⟩ := (board stmFrequency).collect_split single sent
  rw [boardUndisturbed, Machine.always_append, Machine.always, Bool.and_eq_true, Bool.and_eq_true,
    Bool.not_eq_true'] at clear
  have kept : StatusKept stmFrequency (boardEvents stmFrequency (boardStart slots index) first)
      ((board stmFrequency).run (boardStart slots index) first) := by
    refine (board stmFrequency).collect_invariant (boardRecord stmFrequency) (StatusKept stmFrequency) _ ?_
      (statusKept_start slots index) clear.1
    intro past b step undisturbed kept
    rw [Bool.not_eq_true'] at undisturbed
    exact kept.next (board_does stmFrequency undisturbed)
  have does := board_does stmFrequency clear.2.1
  have sends : (board stmFrequency).output ((board stmFrequency).run (boardStart slots index) first) step =
      some (.status address packet) := by
    rwa [boardRecord, Option.toList_eq_singleton_iff] at now
  rw [sends] at does
  exact statusTells_of_does kept does

end

/-- Half a meter to the left, and nothing to the right. -/
def leftLoop : UltraLoop := ⟨⟨.pulse 290000, 5, 6⟩, ⟨.noRise, 5, 6⟩⟩

/-- A frame is measured and written, then a period is, and then it is time to send. -/
def sendsOnce : List BoardStep :=
  List.replicate 5 (.core2 leftLoop) ++ List.replicate 13 (.core1 10.0 driveCmdBoot) ++
    .core0 .due telemZero ultraZero :: List.replicate 11 core0Goes

/-- 0.497 m to the left, at 0.325 m/s. -/
def leftStatus : List UInt8 := [0xC9, 0x76, 0xFE, 0x3E, 0, 0, 0, 0, 0x66, 0x66, 0xA6, 0x3E, 1, 2, 0, 0]

theorem rear_status_tells_left :
    let events := boardEvents (100000000.0 : F32) handBoard sendsOnce
    statuses events = [leftStatus] ∧
      ∃ before address after, events = before ++ .status address leftStatus :: after ∧
        StatusTells before address leftStatus := by
  intro events
  have sent : statuses events = [leftStatus] := by decide +kernel
  have member : leftStatus ∈ statuses events := by
    rw [sent]
    exact List.mem_singleton_self leftStatus
  obtain ⟨event, within, same⟩ := List.mem_filterMap.mp member
  cases event with
  | status address packet =>
    cases same
    obtain ⟨before, after, split⟩ := List.append_of_mem within
    exact ⟨sent, before, address, after, split, rear_status_tells _ _ sendsOnce (by decide +kernel) split⟩
  | _ => cases same

end SelfDriving.Rear
