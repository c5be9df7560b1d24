import SelfDriving.Front.TofDriverProofs

/-! The sensor loop over two links to the sensor. Where every program of register transfers ends the
same on both, so does every run; the two pins and the whole transfers that they stand for are two
such links, as long as the sensor yields the clock in time. -/
namespace SelfDriving.Front
open Ieee754 RegisterBus TwoWireBus

/-- Programs end the same from states that belong together. -/
def Agree {ℓ ℓ' : Type} (R : ℓ → ℓ' → Prop) (link : Link ℓ) (link' : Link ℓ') : Prop :=
  ∀ {α : Type} (program : SensorProgram α), ReadsSome program → ∀ sensor sensor', R sensor sensor' →
    R (link.run program sensor).1 (link'.run program sensor').1 ∧
      (link.run program sensor).2 = (link'.run program sensor').2

/-! ### The programs of the driver -/

theorem readsSome_read8 (register : UInt8) : ReadsSome (vl53l0xRead8 register) := ⟨Nat.one_pos, fun _ => trivial⟩

theorem readsSome_write8 (register value : UInt8) : ReadsSome (vl53l0xWrite8 register value) := trivial

theorem readsSome_awaitInterruptStatus (polls : Nat) : ReadsSome (awaitInterruptStatus polls) := by
  induction polls with
  | zero => exact readsSome_read8 _
  | succ polls ih =>
    refine (readsSome_read8 _).bind fun status => ?_
    split
    · exact ih
    · trivial

theorem readsSome_awaitSpadInfo (polls : Nat) : ReadsSome (awaitSpadInfo polls) := by
  induction polls with
  | zero => exact readsSome_read8 _
  | succ polls ih =>
    refine (readsSome_read8 _).bind fun value => ?_
    split
    · exact ih
    · trivial

theorem readsSome_applyTuning (pairs : List (UInt8 × UInt8)) : ReadsSome (vl53l0xApplyTuning pairs) := by
  induction pairs with
  | nil => trivial
  | cons pair rest ih => exact ih

theorem readsSome_calibration (polls : Nat) (vhvInitByte : UInt8) :
    ReadsSome (vl53l0xPerformSingleRefCalibration polls vhvInitByte) := by
  refine ReadsSome.bind (readsSome_write8 _ _) fun _ => (readsSome_awaitInterruptStatus polls).bind fun status => ?_
  split <;> trivial

theorem readsSome_calibrate (polls : SetupPolls) : ReadsSome (calibrate polls) :=
  ReadsSome.bind (readsSome_write8 _ _) fun _ => (readsSome_calibration _ _).bind fun _ =>
    ReadsSome.bind (readsSome_write8 _ _) fun _ => readsSome_calibration _ _

theorem readsSome_getSpadInfo (polls : Nat) : ReadsSome (vl53l0xGetSpadInfo polls) := by
  have request : ReadsSome requestSpadInfo := ⟨Nat.one_pos, fun _ => trivial⟩
  refine request.bind fun _ => (readsSome_awaitSpadInfo polls).bind fun value => ?_
  split
  · trivial
  · exact ⟨Nat.one_pos, fun _ => ⟨Nat.one_pos, fun _ => trivial⟩⟩

theorem readsSome_configureSpads (polls : Nat) : ReadsSome (vl53l0xConfigureSpads polls) := by
  refine (readsSome_getSpadInfo polls).bind fun info => ?_
  exact ⟨by decide, fun _ => trivial⟩

theorem readsSome_setupRegisters (polls : SetupPolls) : ReadsSome (setupRegisters polls) := by
  have read (register : UInt8) {rest : UInt8 → SensorProgram Unit} (later : ∀ value, ReadsSome (rest value)) :
      ReadsSome (vl53l0xRead8 register >>= rest) := (readsSome_read8 register).bind later
  unfold setupRegisters
  iterate 4 refine ReadsSome.bind (readsSome_write8 _ _) fun _ => ?_
  refine read _ fun _ => ?_
  iterate 3 refine ReadsSome.bind (readsSome_write8 _ _) fun _ => ?_
  refine read _ fun _ => ?_
  refine ReadsSome.bind (readsSome_write8 _ _) fun _ => ReadsSome.bind (by trivial) fun _ => ?_
  refine ReadsSome.bind (readsSome_write8 _ _) fun _ => (readsSome_configureSpads _).bind fun _ => ?_
  refine ReadsSome.bind (readsSome_applyTuning _) fun _ => ReadsSome.bind (readsSome_write8 _ _) fun _ => ?_
  exact read _ fun _ => by trivial

/-! ### The node over two links -/

section
variable {ℓ ℓ' : Type} {R : ℓ → ℓ' → Prop} {link : Link ℓ} {link' : Link ℓ'} (agree : Agree R link link')
include agree

theorem Agree.ends {α : Type} {program : SensorProgram α} (reads : ReadsSome program) {sensor : ℓ} {sensor' : ℓ'}
    (related : R sensor sensor') :
    ∃ after after' result, link.run program sensor = (after, result) ∧ link'.run program sensor' = (after', result) ∧
      R after after' := by
  obtain ⟨after, same⟩ := agree program reads sensor sensor' related
  exact ⟨_, _, _, rfl, Prod.ext rfl same.symm, after⟩

theorem Agree.probeSensor (attempts : Nat) {sensor : ℓ} {sensor' : ℓ'} (related : R sensor sensor') (diag : UInt16) :
    ∃ after after' result, Front.probeSensor link attempts sensor diag = (after, result) ∧
      Front.probeSensor link' attempts sensor' diag = (after', result) ∧ R after after' := by
  induction attempts generalizing sensor sensor' diag with
  | zero => exact ⟨sensor, sensor', (diag, false), rfl, rfl, related⟩
  | succ attempts ih =>
    obtain ⟨after, after', result, run, run', related⟩ := agree.ends (readsSome_read8 modelIdRegister) related
    rw [Front.probeSensor, Front.probeSensor, run, run']
    cases result with
    | none => exact ih related _
    | some modelId =>
      dsimp only
      split
      · exact ⟨after, after', _, rfl, rfl, related⟩
      · exact ih related _

theorem Agree.vl53l0xInitSensor (polls : SetupPolls) {sensor : ℓ} {sensor' : ℓ'} (related : R sensor sensor')
    (diag : UInt16) :
    ∃ after after' result, Front.vl53l0xInitSensor link polls sensor diag = (after, result) ∧
      Front.vl53l0xInitSensor link' polls sensor' diag = (after', result) ∧ R after after' := by
  have pads : ReadsSome setupPads := (readsSome_read8 _).bind fun _ => readsSome_write8 _ _
  obtain ⟨sensor₁, sensor₁', padded, run₁, run₁', related⟩ := agree.ends pads related
  obtain ⟨sensor₂, sensor₂', written, run₂, run₂', related⟩ := agree.ends (readsSome_setupRegisters polls) related
  rw [Front.vl53l0xInitSensor, Front.vl53l0xInitSensor, run₁, run₁']
  dsimp only
  rw [run₂, run₂']
  cases written with
  | none => exact ⟨sensor₂, sensor₂', _, rfl, rfl, related⟩
  | some _ =>
    obtain ⟨sensor₃, sensor₃', calibrated, run₃, run₃', related⟩ := agree.ends (readsSome_calibrate polls) related
    dsimp only
    rw [run₃, run₃']
    cases calibrated with
    | none => exact ⟨sensor₃, sensor₃', _, rfl, rfl, related⟩
    | some _ =>
      obtain ⟨after, same⟩ := agree (vl53l0xWrite8 systemSequenceConfig 0xE8) trivial sensor₃ sensor₃' related
      exact ⟨_, _, _, rfl, congrArg (fun done => (_, diag, Option.isSome done)) same.symm, after⟩

theorem Agree.initSensor (polls : SetupPolls) {sensor : ℓ} {sensor' : ℓ'} (related : R sensor sensor') (tof : Tof) :
    ∃ after after' result, Front.initSensor link polls sensor tof = (after, result) ∧
      Front.initSensor link' polls sensor' tof = (after', result) ∧ R after after' := by
  obtain ⟨sensor₁, sensor₁', ⟨diag, found⟩, run₁, run₁', related⟩ := agree.probeSensor 5 related tof.diag
  rw [Front.initSensor, Front.initSensor, run₁, run₁']
  cases found with
  | false => exact ⟨sensor₁, sensor₁', _, rfl, rfl, related⟩
  | true =>
    obtain ⟨sensor₂, sensor₂', ⟨diag, done⟩, run₂, run₂', related⟩ := agree.vl53l0xInitSensor polls related diag
    dsimp only
    rw [run₂, run₂']
    cases done with
    | false => exact ⟨sensor₂, sensor₂', _, rfl, rfl, related⟩
    | true => exact ⟨sensor₂, sensor₂', _, rfl, rfl, related⟩

theorem Agree.updateSensor (polls readTicks checkTicks : Nat) {sensor : ℓ} {sensor' : ℓ'} (related : R sensor sensor')
    (tof : Tof) :
    ∃ after after' result, Front.updateSensor link polls readTicks checkTicks sensor tof = (after, result) ∧
      Front.updateSensor link' polls readTicks checkTicks sensor' tof = (after', result) ∧ R after after' := by
  rw [Front.updateSensor, Front.updateSensor]
  split
  · exact ⟨sensor, sensor', _, rfl, rfl, related⟩
  obtain ⟨sensor₁, sensor₁', started, run₁, run₁', related⟩ := agree.ends (readsSome_write8 sysrangeStart 0x01) related
  rw [startMeasurement, run₁, run₁']
  cases started with
  | none => exact ⟨sensor₁, sensor₁', _, rfl, rfl, related⟩
  | some _ =>
    obtain ⟨sensor₂, sensor₂', status, run₂, run₂', related⟩ :=
      agree.ends (readsSome_awaitInterruptStatus polls) related
    dsimp only
    rw [run₂, run₂']
    cases status with
    | none => exact ⟨sensor₂, sensor₂', _, rfl, rfl, related⟩
    | some status =>
      have range : ReadsSome (vl53l0xRead16 resultRangeMm) := ⟨by decide, fun _ => trivial⟩
      obtain ⟨sensor₃, sensor₃', rawMm, run₃, run₃', ranged⟩ := agree.ends range related
      dsimp only
      split
      · exact ⟨sensor₂, sensor₂', _, rfl, rfl, related⟩
      rw [run₃, run₃']
      cases rawMm with
      | none => exact ⟨sensor₃, sensor₃', _, rfl, rfl, ranged⟩
      | some rawMm =>
        have after := (agree (vl53l0xWrite8 systemInterruptClear 0x01) trivial sensor₃ sensor₃' ranged).1
        dsimp only
        split
        · exact ⟨_, _, _, rfl, rfl, after⟩
        · exact ⟨_, _, _, rfl, rfl, after⟩

theorem Agree.retrySensor (sequence : UInt32) (loop : DriverLoop ℓ) {reset : ℓ'} (resets : R loop.reset reset)
    {sensor : ℓ} {sensor' : ℓ'} (related : R sensor sensor') (tof : Tof) :
    ∃ after after' result, Front.retrySensor link sequence loop sensor tof = (after, result) ∧
      Front.retrySensor link' sequence (loop.withReset reset) sensor' tof = (after', result) ∧ R after after' := by
  unfold Front.retrySensor
  dsimp only [DriverLoop.withReset]
  split
  · exact agree.initSensor loop.setupPolls resets _
  · exact ⟨sensor, sensor', _, rfl, rfl, related⟩

/-- States that differ in the sensor at most. -/
def Alike (R : ℓ → ℓ' → Prop) (s : DriverState ℓ) (s' : DriverState ℓ') : Prop := R s.sensor s'.sensor ∧ s.node = s'.node

/-- Loops that differ in the sensor at most. -/
def SameLoop (R : ℓ → ℓ' → Prop) (loop : DriverLoop ℓ) (loop' : DriverLoop ℓ') : Prop :=
  ∃ reset, R loop.reset reset ∧ loop' = loop.withReset reset

theorem Agree.driverNode (stmFrequency : F32) (s : DriverState ℓ) (s' : DriverState ℓ') (loop : DriverLoop ℓ)
    (loop' : DriverLoop ℓ') (alike : Alike R s s') (same : SameLoop R loop loop') :
    Alike R ((Front.driverNode link stmFrequency).next s loop) ((Front.driverNode link' stmFrequency).next s' loop') ∧
      (Front.driverNode link stmFrequency).output s loop = (Front.driverNode link' stmFrequency).output s' loop' := by
  obtain ⟨left, right, sensor, tof, frame⟩ := s
  obtain ⟨left', right', sensor', tof', frame'⟩ := s'
  obtain ⟨related, rest⟩ := alike
  obtain ⟨rfl, rfl, rfl, rfl⟩ := SensorState.mk.injEq .. |>.mp rest
  obtain ⟨reset, resets, rfl⟩ := same
  obtain ⟨sensor₁, sensor₁', ⟨tof₁, valid⟩, run₁, run₁', related⟩ :=
    agree.updateSensor loop.polls loop.tofReadTicks loop.tofCheckTicks related tof
  obtain ⟨sensor₂, sensor₂', tof₂, run₂, run₂', related⟩ :=
    agree.retrySensor (frame.sequence + 1) loop resets related tof₁
  dsimp only [Machine.next, Machine.output, Front.driverNode, DriverLoop.withReset]
  rw [run₁, run₁']
  refine ⟨⟨?_, SensorState.mk.injEq .. |>.mpr ⟨rfl, rfl, ?_, rfl⟩⟩, rfl⟩
  · change R (Front.retrySensor link (frame.sequence + 1) loop sensor₁ tof₁).1
      (Front.retrySensor link' (frame.sequence + 1) (loop.withReset reset) sensor₁' tof₁).1
    rw [run₂, run₂']
    exact related
  · change (Front.retrySensor link (frame.sequence + 1) loop sensor₁ tof₁).2 =
      (Front.retrySensor link' (frame.sequence + 1) (loop.withReset reset) sensor₁' tof₁).2
    rw [run₂, run₂']

end

/-! ### The pins -/

section
variable {σ : Type} (partner : Partner σ) (polls : Nat)

/-- Free wires with a sensor at the other end, and that sensor. -/
def Idle (wires : Wires σ) (s : σ) : Prop := Free ⟨s, .idle⟩ wires

theorem agree_pinLink (yields : partner.Yields polls) :
    Agree Idle (pinLink partner polls) (targetLink partner.target) := by
  intro α program reads wires s free
  obtain ⟨result, idle⟩ := onPins_ensures partner polls yields program reads s wires free
  exact ⟨idle, result⟩

/-- With a sensor that never holds the clock for longer than the wait, the node whose driver drives
the two pins sends in every run the frames of the node whose driver exchanges whole transfers. -/
theorem driver_on_pins (yields : partner.Yields polls) (stmFrequency : F32) (wires : Wires σ) (s : σ)
    (free : Free ⟨s, .idle⟩ wires) (bootTicks : Nat) (loops : List (DriverLoop (Wires σ))) (loops' : List (DriverLoop σ))
    (same : List.Forall₂ (SameLoop Idle) loops loops') :
    (driverNode (pinLink partner polls) stmFrequency).outputs (driverInit wires bootTicks) loops =
      (driverNode (targetLink partner.target) stmFrequency).outputs (driverInit s bootTicks) loops' := by
  have start : Alike Idle (driverInit wires bootTicks) (driverInit s bootTicks) := ⟨free, rfl⟩
  have step := Agree.driverNode (agree_pinLink partner polls yields) stmFrequency
  exact List.forall₂_eq_eq_eq ▸ Machine.outputs_forall₂ (Alike Idle) (SameLoop Idle) Eq step start same

end

/-- A loop without echoes, in which a file of registers comes out of reset. -/
def silentLoop : DriverLoop RegisterFile :=
  ⟨⟨.noRise, 0, 0⟩, ⟨.noRise, 0, 0⟩, 0, 0, 2, 0, ⟨false, false, false, (0.0 : F32), (0.0 : F32), 0, 0, 0, 0⟩, 0,
    ⟨0, false, fun _ => 0⟩, ⟨2, 2, 2⟩⟩

theorem driver_on_pins_slowFile :
    (driverNode (pinLink slowFile 3) (100000000.0 : F32)).outputs
        (driverInit (untouched ⟨⟨0, false, fun _ => 0⟩, .idle⟩) 0)
        (List.replicate 2 (silentLoop.withReset (untouched ⟨⟨0, false, fun _ => 0⟩, .idle⟩))) =
      (driverNode (targetLink slowFile.target) (100000000.0 : F32)).outputs
        (driverInit ⟨0, false, fun _ => 0⟩ 0) (List.replicate 2 silentLoop) := by
  have one : SameLoop Idle (silentLoop.withReset (untouched ⟨⟨0, false, fun _ => 0⟩, .idle⟩)) silentLoop :=
    ⟨⟨0, false, fun _ => 0⟩, free_untouched rfl, rfl⟩
  exact driver_on_pins slowFile 3 slowFile_yields _ _ _ (free_untouched rfl) 0 _ _ (.cons one (.cons one .nil))

end SelfDriving.Front
