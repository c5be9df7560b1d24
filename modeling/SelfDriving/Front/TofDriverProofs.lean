import SelfDriving.Front.TofDriver
import SelfDriving.Front.SensorRangeProofs

/-! The sensor loop with the driver in it does what the loop does to which the outcome of each
measurement and of each setup is given: the driver has no outcome of its own. Over any link this
makes what is known of the frames of that loop known of the frames of this one. -/
namespace SelfDriving.Front
open Ieee754 RegisterBus

section
variable {ℓ : Type} (link : Link ℓ)

/-! ### Finding the sensor and setting it up -/

/-- A probe reads the model a number of times. -/
theorem probeSensor_reads (attempts : Nat) (sensor : ℓ) (diag : UInt16) :
    ∃ reads, reads.length ≤ attempts ∧
      tofProbe reads diag = ((probeSensor link attempts sensor diag).2.2, (probeSensor link attempts sensor diag).2.1) := by
  induction attempts generalizing sensor diag with
  | zero => exact ⟨[], le_rfl, rfl⟩
  | succ attempts ih =>
    rw [probeSensor]
    cases answer : link.run (vl53l0xRead8 modelIdRegister) sensor with
    | mk sensor' result =>
      cases result with
      | none =>
        obtain ⟨reads, length, same⟩ := ih sensor' tofDiagModelReadFail
        exact ⟨none :: reads, Nat.succ_le_succ length, same⟩
      | some modelId =>
        by_cases found : modelId = 0xEE
        · refine ⟨[some modelId], Nat.succ_le_succ (Nat.zero_le _), ?_⟩
          simp [tofProbe, found]
        · obtain ⟨reads, length, same⟩ := ih sensor' (modelId.toUInt16 <<< 8 ||| tofDiagUnexpectedModel)
          refine ⟨some modelId :: reads, Nat.succ_le_succ length, ?_⟩
          simp only [tofProbe, if_neg found]
          exact same

theorem diag_of_probe (attempts : Nat) (sensor : ℓ) (diag : UInt16)
    (found : (probeSensor link attempts sensor diag).2.2 = true) :
    (probeSensor link attempts sensor diag).2.1 = 0xEE03 := by
  induction attempts generalizing sensor diag with
  | zero => cases found
  | succ attempts ih =>
    rw [probeSensor] at found ⊢
    cases answer : link.run (vl53l0xRead8 modelIdRegister) sensor with
    | mk sensor' result =>
      rw [answer] at found
      cases result with
      | none => exact ih _ _ found
      | some modelId =>
        dsimp only at found ⊢
        split at found
        · rename_i same
          rw [if_pos same, same]
          rfl
        · rename_i other
          rw [if_neg other]
          exact ih _ _ found

/-- How a setup ends: the diagnosis tells a failed calibration. -/
def TofSetup.ending (diag : UInt16) : TofSetup → UInt16 × Bool
  | .ready => (diag, true)
  | .calibrationFail => (diag &&& 0xFF00 ||| tofDiagCalibrationFail, false)
  | .writeFail => (diag, false)

theorem vl53l0xInitSensor_setup (polls : SetupPolls) (sensor : ℓ) (diag : UInt16) :
    ∃ setup : TofSetup, (vl53l0xInitSensor link polls sensor diag).2 = setup.ending diag := by
  rw [vl53l0xInitSensor]
  cases link.run setupPads sensor with
  | mk sensor padded =>
    dsimp only
    cases link.run (setupRegisters polls) sensor with
    | mk sensor written =>
      cases written with
      | none => exact ⟨.writeFail, rfl⟩
      | some done =>
        dsimp only
        cases link.run (calibrate polls) sensor with
        | mk sensor calibrated =>
          cases calibrated with
          | none => exact ⟨.calibrationFail, rfl⟩
          | some done =>
            dsimp only
            cases finished : (link.run (vl53l0xWrite8 systemSequenceConfig 0xE8) sensor).2 with
            | none => exact ⟨.writeFail, rfl⟩
            | some done => exact ⟨.ready, rfl⟩

theorem initSensor_tof (polls : SetupPolls) (sensor : ℓ) (tof : Tof) :
    ∃ reads setup, (initSensor link polls sensor tof).2 = tofInit reads setup tof := by
  obtain ⟨reads, length, probe⟩ := probeSensor_reads link 5 sensor tof.diag
  have found := diag_of_probe link 5 sensor tof.diag
  rw [initSensor]
  cases result : probeSensor link 5 sensor tof.diag with
  | mk sensor' rest =>
    obtain ⟨diag, ok⟩ := rest
    rw [result] at probe found
    cases ok with
    | false =>
      refine ⟨reads, .ready, ?_⟩
      rw [tofInit, List.take_of_length_le length, probe]
    | true =>
      obtain rfl : diag = 0xEE03 := found rfl
      obtain ⟨setup, ends⟩ := vl53l0xInitSensor_setup link polls sensor' 0xEE03
      refine ⟨reads, setup, ?_⟩
      rw [tofInit, List.take_of_length_le length, probe]
      dsimp only
      cases init : vl53l0xInitSensor link polls sensor' 0xEE03 with
      | mk sensor'' outcome =>
        rw [init] at ends
        subst ends
        cases setup <;> rfl

/-! ### Measuring -/

theorem updateSensor_tof (polls readTicks checkTicks : Nat) (sensor : ℓ) (tof : Tof) :
    ∃ measurement, (updateSensor link polls readTicks checkTicks sensor tof).2 =
      tofUpdate measurement readTicks checkTicks tof := by
  obtain ⟨present, initAttempted, cmX10, lastValidTick, nextInitTick, diag⟩ := tof
  rw [updateSensor]
  cases present with
  | false => exact ⟨.startFail, rfl⟩
  | true =>
    simp only [Bool.not_true, Bool.false_eq_true, if_false, tofUpdate]
    cases link.run startMeasurement sensor with
    | mk sensor started =>
      cases started with
      | none => exact ⟨.startFail, rfl⟩
      | some done =>
        dsimp only
        cases link.run (awaitInterruptStatus polls) sensor with
        | mk sensor waited =>
          cases waited with
          | none => exact ⟨.statusFail, rfl⟩
          | some status =>
            dsimp only
            split
            · exact ⟨.timeout, rfl⟩
            · cases link.run (vl53l0xRead16 resultRangeMm) sensor with
              | mk sensor got =>
                cases got with
                | none => exact ⟨.rangeReadFail, rfl⟩
                | some rawMm =>
                  refine ⟨.range rawMm, ?_⟩
                  simp only [tofMeasure]
                  split <;> rfl

/-! ### The loop -/

theorem retrySensor_tof (sequence : UInt32) (loop : DriverLoop ℓ) (sensor : ℓ) (tof : Tof) :
    ∃ reads setup, ∀ loop' : Loop, loop'.initTicks = loop.initTicks → loop'.modelReads = reads → loop'.setup = setup →
      (retrySensor link sequence loop sensor tof).2 = retryTof sequence loop' tof := by
  obtain ⟨reads, setup, init⟩ := initSensor_tof link loop.setupPolls loop.reset
    { tof with initAttempted := true, nextInitTick := nowTicks loop.initTicks + ticksFromMs tofRetryIntervalMs }
  refine ⟨reads, setup, fun loop' ticks read set => ?_⟩
  unfold retrySensor retryTof
  rw [ticks, read, set]
  dsimp only
  split
  · exact init
  · rfl

end

/-- What a loop with the driver shares with one to which the outcomes are given. -/
structure Meets {ℓ : Type} (loop : DriverLoop ℓ) (given : Loop) : Prop where
  left : given.left = loop.left
  right : given.right = loop.right
  readTicks : given.tof.readTicks = loop.tofReadTicks
  checkTicks : given.tof.checkTicks = loop.tofCheckTicks
  stampTicks : given.stampTicks = loop.stampTicks
  steering : given.steering = loop.steering
  initTicks : given.initTicks = loop.initTicks

/-- The state without the sensor. -/
def DriverState.node {ℓ : Type} (s : DriverState ℓ) : SensorState := ⟨s.left, s.right, s.tof, s.frame⟩

section
variable {ℓ : Type} (link : Link ℓ) (stmFrequency : F32)

theorem driverNode_step (s : DriverState ℓ) (loop : DriverLoop ℓ) :
    ∃ given, Meets loop given ∧ (sensorNode stmFrequency).step s.node given =
      (((driverNode link stmFrequency).next s loop).node, (driverNode link stmFrequency).output s loop) := by
  obtain ⟨measurement, measured⟩ :=
    updateSensor_tof link loop.polls loop.tofReadTicks loop.tofCheckTicks s.sensor s.tof
  cases update : updateSensor link loop.polls loop.tofReadTicks loop.tofCheckTicks s.sensor s.tof with
  | mk sensor rest =>
    obtain ⟨tof, valid⟩ := rest
    rw [update] at measured
    obtain ⟨reads, setup, retried⟩ := retrySensor_tof link (s.frame.sequence + 1) loop sensor tof
    let given : Loop := ⟨loop.left, loop.right, ⟨measurement, loop.tofReadTicks, loop.tofCheckTicks⟩, loop.stampTicks,
      loop.steering, 0, loop.initTicks, reads, setup⟩
    have retry := retried given rfl rfl rfl
    refine ⟨given, ⟨rfl, rfl, rfl, rfl, rfl, rfl, rfl⟩, ?_⟩
    simp only [sensorNode, driverNode, Machine.next, Machine.output, DriverState.node, update, given, ← measured]
    exact Prod.ext (SensorState.mk.injEq .. |>.mpr ⟨rfl, rfl, retry.symm, rfl⟩) rfl

theorem exists_given (sensor : ℓ) (bootTicks : Nat) (loops : List (DriverLoop ℓ)) :
    ∃ given, List.Forall₂ Meets loops given ∧
      (sensorNode stmFrequency).outputs (sensorInit bootTicks) given =
        (driverNode link stmFrequency).outputs (driverInit sensor bootTicks) loops ∧
      (sensorNode stmFrequency).run (sensorInit bootTicks) given =
        ((driverNode link stmFrequency).run (driverInit sensor bootTicks) loops).node :=
  Machine.exists_run_of_refines DriverState.node Meets (driverNode_step link stmFrequency) (driverInit sensor bootTicks)
    loops

theorem soundFrame_of_driver {sensor : ℓ} {bootTicks : Nat} {loops : List (DriverLoop ℓ)} {frame : Frame}
    (sent : frame ∈ (driverNode link stmFrequency).outputs (driverInit sensor bootTicks) loops) : SoundFrame frame := by
  obtain ⟨given, -, answers, -⟩ := exists_given link stmFrequency sensor bootTicks loops
  rw [← answers] at sent
  exact soundFrame_of_sent stmFrequency sent

/-- Every run of the node with its driver sends the frames of a run of the loop in which the same
times are met and some outcomes are given, and these are sound: whatever the link does, a set bit
comes with a distance. -/
theorem driverNode_refines (sensor : ℓ) (bootTicks : Nat) (loops : List (DriverLoop ℓ)) :
    ∃ given, List.Forall₂ Meets loops given ∧
      (sensorNode stmFrequency).outputs (sensorInit bootTicks) given =
        (driverNode link stmFrequency).outputs (driverInit sensor bootTicks) loops ∧
      (sensorNode stmFrequency).run (sensorInit bootTicks) given =
        ((driverNode link stmFrequency).run (driverInit sensor bootTicks) loops).node ∧
      ∀ frame ∈ (driverNode link stmFrequency).outputs (driverInit sensor bootTicks) loops, SoundFrame frame := by
  obtain ⟨given, met, answers, reached⟩ := exists_given link stmFrequency sensor bootTicks loops
  exact ⟨given, met, answers, reached, fun frame sent => soundFrame_of_driver link stmFrequency sent⟩

end

end SelfDriving.Front
