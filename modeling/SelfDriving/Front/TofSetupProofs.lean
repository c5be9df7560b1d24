import SelfDriving.Front.TofDriverProofs

/-! What the node leaves in the registers of the time-of-flight sensor. The sensor shows its
registers in pages; a setup ends on the first page, with the sequence of a measurement and its
interrupt selected, and nothing after it turns the page, so every measurement starts there. -/
namespace SelfDriving.Front
open Ieee754 RegisterBus

/-- The registers that select what the others mean, and how a measurement runs. -/
def preparation : List (UInt8 × UInt8) :=
  [(0xFF, 0x00), (0x80, 0x00), (systemSequenceConfig, 0xE8), (systemInterruptConfigGpio, 0x04)]

/-- Each of them was last written as a measurement needs it. -/
def Prepared (history : List (Transfer UInt8 UInt8)) : Prop :=
  ∀ register value, (register, value) ∈ preparation → lastWritten register history = some [value]

/-! ### Programs that set a register -/

theorem write8_sets (register value : UInt8) : (vl53l0xWrite8 register value).Sets register [value] := by
  intro history
  simp

theorem applyTuning_avoids {register : UInt8} {pairs : List (UInt8 × UInt8)} (other : ∀ pair ∈ pairs, pair.1 ≠ register) :
    (vl53l0xApplyTuning pairs).Avoids register := by
  induction pairs with
  | nil => trivial
  | cons pair rest ih =>
    exact ⟨other _ (List.mem_cons_self ..), ih fun pair member => other pair (List.mem_cons_of_mem _ member)⟩

/-- A register has what the last pair for it says. -/
theorem applyTuning_sets {register value : UInt8} {pairs : List (UInt8 × UInt8)}
    (last : (pairs.filter fun pair => pair.1 = register).getLast? = some (register, value)) :
    (vl53l0xApplyTuning pairs).Sets register [value] := by
  induction pairs with
  | nil => cases last
  | cons pair rest ih =>
    by_cases later : rest.filter (fun pair => pair.1 = register) = []
    · have others : ∀ pair ∈ rest, pair.1 ≠ register := by simpa [List.filter_eq_nil_iff] using later
      have this : pair = (register, value) := by
        by_cases same : pair.1 = register <;> simp_all
      rw [this]
      exact (write8_sets register value).before fun _ => applyTuning_avoids others
    · refine Program.Sets.then fun _ => ih ?_
      by_cases same : pair.1 = register
      · rw [List.filter_cons_of_pos (by simpa using same), List.getLast?_cons_of_ne_nil later] at last
        exact last
      · rwa [List.filter_cons_of_neg (by simpa using same)] at last

theorem awaitInterruptStatus_avoids {register : UInt8} (other : resultInterruptStatus ≠ register) (polls : Nat) :
    (awaitInterruptStatus polls).Avoids register := by
  induction polls with
  | zero => exact ⟨other, fun _ => trivial⟩
  | succ polls ih =>
    rw [awaitInterruptStatus]
    refine Program.Avoids.bind ⟨other, fun _ => trivial⟩ fun status => ?_
    split
    · exact ih
    · trivial

/-- The registers that a measurement and a calibration touch. -/
def measuringRegisters : List UInt8 := [sysrangeStart, systemInterruptClear, resultInterruptStatus, resultRangeMm]

theorem calibration_avoids {register : UInt8} (other : register ∉ measuringRegisters) (polls : Nat) (vhvInitByte : UInt8) :
    (vl53l0xPerformSingleRefCalibration polls vhvInitByte).Avoids register := by
  simp only [measuringRegisters, List.mem_cons, List.not_mem_nil, or_false, not_or] at other
  obtain ⟨start, clear, status, -⟩ := other
  refine Program.Avoids.bind ⟨Ne.symm start, trivial⟩ fun _ =>
    (awaitInterruptStatus_avoids (Ne.symm status) polls).bind fun _ => ?_
  split
  · trivial
  · exact ⟨Ne.symm clear, Ne.symm start, trivial⟩

theorem calibrate_avoids {register : UInt8} (other : register ∉ systemSequenceConfig :: measuringRegisters)
    (polls : SetupPolls) : (calibrate polls).Avoids register := by
  obtain ⟨sequence, measuring⟩ := List.mem_cons.not.mp other |> not_or.mp
  exact Program.Avoids.bind ⟨Ne.symm sequence, trivial⟩ fun _ => (calibration_avoids measuring _ _).bind fun _ =>
    Program.Avoids.bind ⟨Ne.symm sequence, trivial⟩ fun _ => calibration_avoids measuring _ _

/-- What follows the tuning in a setup. -/
def finishRegisters : SensorProgram Unit := do
  let value ← vl53l0xRead8 gpioHvMuxActiveHigh
  vl53l0xWrite8 gpioHvMuxActiveHigh (value &&& ~~~0x10)
  vl53l0xWrite8 systemInterruptClear 0x01
  vl53l0xWrite8 systemSequenceConfig 0xE8

theorem finishRegisters_avoids {register : UInt8} (set : register = 0xFF ∨ register = 0x80 ∨ register = 0x0A) :
    finishRegisters.Avoids register := by
  rcases set with rfl | rfl | rfl <;>
    simp [finishRegisters, vl53l0xWrite8, vl53l0xRead8, bind, Program.bind, Program.Avoids, gpioHvMuxActiveHigh,
      systemInterruptClear, systemSequenceConfig]

/-- A setup ends with what the tuning and the lines after it leave. -/
theorem setupRegisters_sets_of {register value : UInt8} (polls : SetupPolls)
    (ends : (vl53l0xApplyDefaultTuning >>= fun _ =>
      vl53l0xWrite8 systemInterruptConfigGpio 0x04 >>= fun _ => finishRegisters).Sets register [value]) :
    (setupRegisters polls).Sets register [value] := by
  unfold setupRegisters
  iterate 13 refine Program.Sets.then fun _ => ?_
  exact ends

theorem tuning_sets {register value : UInt8} (polls : SetupPolls)
    (page : (register, value) = (0xFF, 0x00) ∨ (register, value) = (0x80, 0x00)) :
    (setupRegisters polls).Sets register [value] := by
  have last : (vl53l0xDefaultTuning.filter fun pair => pair.1 = register).getLast? = some (register, value) := by
    rcases page with page | page <;> cases page <;> decide +kernel
  refine setupRegisters_sets_of polls ((applyTuning_sets last).before fun _ => ?_)
  have other : register = 0xFF ∨ register = 0x80 ∨ register = 0x0A := by
    rcases page with page | page <;> cases page <;> decide
  refine Program.Avoids.bind ⟨?_, trivial⟩ fun _ => finishRegisters_avoids other
  rcases page with page | page <;> cases page <;> decide

theorem interrupt_sets (polls : SetupPolls) : (setupRegisters polls).Sets systemInterruptConfigGpio [0x04] :=
  setupRegisters_sets_of polls (Program.Sets.then fun _ =>
    (write8_sets _ _).before fun _ => finishRegisters_avoids (.inr (.inr rfl)))

/-! ### A sensor on a register bus -/

section
variable {α : Type} (sensor : PoweredSensor)

@[simp] theorem run_registerLink (program : SensorProgram α) :
    registerLink.run program sensor =
      (⟨sensor.device, sensor.runs + 1, (program.run (sensor.device sensor.runs) sensor.history).1⟩,
        (program.run (sensor.device sensor.runs) sensor.history).2) := rfl

/-- What is known after a program of a register that it sets. -/
theorem lastWritten_of_sets {register : UInt8} {data : List UInt8} {program : SensorProgram α}
    (sets : program.Sets register data) (through : (registerLink.run program sensor).2.isSome) :
    lastWritten register (registerLink.run program sensor).1.history = some data :=
  Program.run_of_ensures _ (sets _) through

theorem lastWritten_of_avoids {register : UInt8} {program : SensorProgram α} (avoids : program.Avoids register) :
    lastWritten register (registerLink.run program sensor).1.history = lastWritten register sensor.history :=
  Program.run_of_ensures _ (avoids.lastWritten _)

theorem prepared_of_registers {history : List (Transfer UInt8 UInt8)} (page : lastWritten 0xFF history = some [0x00])
    (access : lastWritten 0x80 history = some [0x00]) (sequence : lastWritten systemSequenceConfig history = some [0xE8])
    (interrupt : lastWritten systemInterruptConfigGpio history = some [0x04]) : Prepared history := by
  intro register value member
  simp only [preparation, List.mem_cons, List.not_mem_nil, or_false, Prod.mk.injEq] at member
  rcases member with ⟨rfl, rfl⟩ | ⟨rfl, rfl⟩ | ⟨rfl, rfl⟩ | ⟨rfl, rfl⟩
  · exact page
  · exact access
  · exact sequence
  · exact interrupt

/-- A setup that goes through leaves the sensor prepared. -/
theorem vl53l0xInitSensor_prepares (polls : SetupPolls) (diag : UInt16)
    (done : (vl53l0xInitSensor registerLink polls sensor diag).2.2 = true) :
    Prepared (vl53l0xInitSensor registerLink polls sensor diag).1.history := by
  rw [vl53l0xInitSensor] at done ⊢
  dsimp only at done ⊢
  generalize (registerLink.run setupPads sensor).1 = sensor at done ⊢
  cases registers : registerLink.run (setupRegisters polls) sensor with
  | mk sensor₁ written =>
    rw [registers] at done
    cases written with
    | none => cases done
    | some _ =>
      dsimp only at done ⊢
      cases calibration : registerLink.run (calibrate polls) sensor₁ with
      | mk sensor₂ calibrated =>
        rw [calibration] at done
        cases calibrated with
        | none => cases done
        | some _ =>
          dsimp only at done ⊢
          have set {register value : UInt8} (sets : (setupRegisters polls).Sets register [value])
              (other : register ∉ systemSequenceConfig :: measuringRegisters) :
              lastWritten register (registerLink.run (vl53l0xWrite8 systemSequenceConfig 0xE8) sensor₂).1.history =
                some [value] := by
            have first := lastWritten_of_sets sensor sets (by rw [registers]; rfl)
            have second := lastWritten_of_avoids sensor₁ (calibrate_avoids other polls)
            have avoids : (vl53l0xWrite8 systemSequenceConfig 0xE8).Avoids register :=
              ⟨fun same => other (same ▸ List.mem_cons_self ..), trivial⟩
            rw [registers] at first
            rw [calibration] at second
            exact (lastWritten_of_avoids sensor₂ avoids).trans (second.trans first)
          exact prepared_of_registers (set (tuning_sets polls (.inl rfl)) (by decide))
            (set (tuning_sets polls (.inr rfl)) (by decide)) (lastWritten_of_sets sensor₂ (write8_sets _ _) done)
            (set (interrupt_sets polls) (by decide))

theorem initSensor_prepares (polls : SetupPolls) (tof : Tof)
    (present : (initSensor registerLink polls sensor tof).2.present = true) :
    Prepared (initSensor registerLink polls sensor tof).1.history := by
  rw [initSensor] at present ⊢
  cases probe : probeSensor registerLink 5 sensor tof.diag with
  | mk sensor' rest =>
    obtain ⟨diag, ok⟩ := rest
    rw [probe] at present
    cases ok with
    | false => cases present
    | true =>
      dsimp only at present ⊢
      have prepares := vl53l0xInitSensor_prepares sensor' polls diag
      cases init : vl53l0xInitSensor registerLink polls sensor' diag with
      | mk sensor'' rest =>
        obtain ⟨diag', done⟩ := rest
        rw [init] at present prepares
        cases done with
        | false => cases present
        | true => exact prepares rfl

/-! ### Measuring -/

/-- A step of a measurement: what it does not touch stays as it is. -/
def MeasuresOnly (before after : PoweredSensor) : Prop :=
  ∀ register ∉ measuringRegisters, transfersAt register after.history = transfersAt register before.history

theorem measuresOnly_of_avoids (program : SensorProgram α)
    (avoids : ∀ register ∉ measuringRegisters, program.Avoids register) :
    MeasuresOnly sensor (registerLink.run program sensor).1 :=
  fun register other => Program.run_of_ensures _ ((avoids register other).ensures rfl)

theorem MeasuresOnly.trans {first second third : PoweredSensor} (one : MeasuresOnly first second)
    (two : MeasuresOnly second third) : MeasuresOnly first third :=
  fun register other => (two register other).trans (one register other)

theorem MeasuresOnly.prepared {before after : PoweredSensor} (only : MeasuresOnly before after)
    (prepared : Prepared before.history) : Prepared after.history := by
  intro register value member
  have other : register ∉ measuringRegisters := by
    have apart : ∀ pair ∈ preparation, pair.1 ∉ measuringRegisters := by
      simp only [preparation, List.forall_mem_cons, List.not_mem_nil, false_implies, implies_true]
      decide
    exact apart _ member
  rw [lastWritten, only register other]
  exact prepared register value member

theorem write8_avoids {register other : UInt8} (differs : other ≠ register) (value : UInt8) :
    (vl53l0xWrite8 other value).Avoids register := ⟨differs, trivial⟩

/-- A measurement touches the registers of a measurement. -/
theorem updateSensor_measuresOnly (polls readTicks checkTicks : Nat) (tof : Tof) :
    MeasuresOnly sensor (updateSensor registerLink polls readTicks checkTicks sensor tof).1 := by
  have apart {register other : UInt8} (measuring : other ∈ measuringRegisters) (out : register ∉ measuringRegisters) :
      other ≠ register := fun same => out (same ▸ measuring)
  have start (sensor : PoweredSensor) := measuresOnly_of_avoids sensor startMeasurement fun _ out =>
    write8_avoids (apart (by decide) out) _
  have wait (sensor : PoweredSensor) := measuresOnly_of_avoids sensor (awaitInterruptStatus polls) fun _ out =>
    awaitInterruptStatus_avoids (apart (by decide) out) polls
  have range (sensor : PoweredSensor) := measuresOnly_of_avoids sensor (vl53l0xRead16 resultRangeMm) fun _ out =>
    ⟨apart (by decide) out, fun _ => trivial⟩
  have clear (sensor : PoweredSensor) := measuresOnly_of_avoids sensor (vl53l0xWrite8 systemInterruptClear 0x01)
    fun _ out => write8_avoids (apart (by decide) out) _
  rw [updateSensor]
  split
  · exact fun _ _ => rfl
  have started := start sensor
  cases starting : registerLink.run startMeasurement sensor with
  | mk sensor₁ result =>
    rw [starting] at started
    cases result with
    | none => exact started
    | some _ =>
      have waited := started.trans (wait sensor₁)
      dsimp only
      cases waiting : registerLink.run (awaitInterruptStatus polls) sensor₁ with
      | mk sensor₂ result =>
        rw [waiting] at waited
        cases result with
        | none => exact waited
        | some status =>
          dsimp only
          split
          · exact waited
          · have ranged := waited.trans (range sensor₂)
            cases ranging : registerLink.run (vl53l0xRead16 resultRangeMm) sensor₂ with
            | mk sensor₃ result =>
              rw [ranging] at ranged
              cases result with
              | none => exact ranged
              | some rawMm =>
                dsimp only
                split <;> exact ranged.trans (clear sensor₃)

/-! ### Runs -/

/-- A sensor in use is prepared. -/
def DriverState.Prepared (s : DriverState PoweredSensor) : Prop :=
  s.tof.present = true → Front.Prepared s.sensor.history

theorem retrySensor_prepares (sequence : UInt32) (loop : DriverLoop PoweredSensor) (tof : Tof)
    (prepared : tof.present = true → Prepared sensor.history)
    (present : (retrySensor registerLink sequence loop sensor tof).2.present = true) :
    Prepared (retrySensor registerLink sequence loop sensor tof).1.history := by
  unfold retrySensor at present ⊢
  dsimp only at present ⊢
  split
  · rw [if_pos ‹_›] at present
    exact initSensor_prepares _ _ _ present
  · rw [if_neg ‹_›] at present
    exact prepared present

theorem present_updateSensor {ℓ : Type} (link : Link ℓ) (polls readTicks checkTicks : Nat) (sensor : ℓ) (tof : Tof) :
    (updateSensor link polls readTicks checkTicks sensor tof).2.1.present = tof.present := by
  obtain ⟨measurement, same⟩ := updateSensor_tof link polls readTicks checkTicks sensor tof
  rw [same, tofUpdate]
  split
  · rfl
  · exact (tofMeasure_spec ..).1

theorem DriverState.Prepared.next {s : DriverState PoweredSensor} (prepared : s.Prepared) (stmFrequency : F32)
    (loop : DriverLoop PoweredSensor) : ((driverNode registerLink stmFrequency).next s loop).Prepared := by
  have measured := updateSensor_measuresOnly s.sensor loop.polls loop.tofReadTicks loop.tofCheckTicks s.tof
  have present := present_updateSensor registerLink loop.polls loop.tofReadTicks loop.tofCheckTicks s.sensor s.tof
  exact retrySensor_prepares _ _ loop _ fun still => measured.prepared (prepared (present ▸ still))

/-- Whatever the sensor answers and however often it is set up anew: when a measurement starts, the
setup that went through last left the page, the access, the sequence and the interrupt as a
measurement needs them, and the measurement touches none of them. -/
theorem measurement_starts_prepared (stmFrequency : F32) (sensor : PoweredSensor) (bootTicks : Nat)
    (loops : List (DriverLoop PoweredSensor)) (loop : DriverLoop PoweredSensor) :
    let s := (driverNode registerLink stmFrequency).run (driverInit sensor bootTicks) loops
    (s.tof.present = true → Prepared s.sensor.history) ∧
      MeasuresOnly s.sensor
        (updateSensor registerLink loop.polls loop.tofReadTicks loop.tofCheckTicks s.sensor s.tof).1 := by
  intro s
  refine ⟨?_, updateSensor_measuresOnly s.sensor _ _ _ s.tof⟩
  exact (driverNode registerLink stmFrequency).run_invariant DriverState.Prepared
    (fun _ loop prepared => prepared.next stmFrequency loop) (fun present => Bool.noConfusion present) loops

end

end SelfDriving.Front
