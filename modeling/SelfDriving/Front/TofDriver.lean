import SelfDriving.Front.I2cRegisters
import SelfDriving.Front.SensorNode

/-! The driver of the time-of-flight sensor: what the node sends to its registers to find it, to set
it up and to measure, and the sensor loop with the driver in it. A link to the sensor is whatever
runs register transfers: a device that may answer anything, or the two pins with a target at the
other end. How often a wait may look at a register before its time is up is a parameter. -/
namespace SelfDriving.Front
open Ieee754 RegisterBus

/-- The registers that the driver has names for. -/
def sysrangeStart : UInt8 := 0x00
def systemSequenceConfig : UInt8 := 0x01
def systemInterruptConfigGpio : UInt8 := 0x0A
def systemInterruptClear : UInt8 := 0x0B
def resultInterruptStatus : UInt8 := 0x13
def resultRangeMm : UInt8 := 0x1E
def msrcConfigControl : UInt8 := 0x60
def gpioHvMuxActiveHigh : UInt8 := 0x84
def vhvConfigPadSclSdaExtsup : UInt8 := 0x89
def modelIdRegister : UInt8 := 0xC0

/-- The default tuning: registers and what is written to them. -/
def vl53l0xDefaultTuning : List (UInt8 × UInt8) := [
  (0xFF, 0x01), (0x00, 0x00), (0xFF, 0x00), (0x09, 0x00),
  (0x10, 0x00), (0x11, 0x00), (0x24, 0x01), (0x25, 0xFF),
  (0x75, 0x00), (0xFF, 0x01), (0x4E, 0x2C), (0x48, 0x00),
  (0x30, 0x20), (0xFF, 0x00), (0x30, 0x09), (0x54, 0x00),
  (0x31, 0x04), (0x32, 0x03), (0x40, 0x83), (0x46, 0x25),
  (0x60, 0x00), (0x27, 0x00), (0x50, 0x06), (0x51, 0x00),
  (0x52, 0x96), (0x56, 0x08), (0x57, 0x30), (0x61, 0x00),
  (0x62, 0x00), (0x64, 0x00), (0x65, 0x00), (0x66, 0xA0),
  (0xFF, 0x01), (0x22, 0x32), (0x47, 0x14), (0x49, 0xFF),
  (0x4A, 0x00), (0xFF, 0x00), (0x7A, 0x0A), (0x7B, 0x00),
  (0x78, 0x21), (0xFF, 0x01), (0x23, 0x34), (0x42, 0x00),
  (0x44, 0xFF), (0x45, 0x26), (0x46, 0x05), (0x40, 0x40),
  (0x0E, 0x06), (0x20, 0x1A), (0x43, 0x40), (0xFF, 0x00),
  (0x34, 0x03), (0x35, 0x44), (0xFF, 0x01), (0x31, 0x04),
  (0x4B, 0x09), (0x4C, 0x05), (0x4D, 0x04), (0xFF, 0x00),
  (0x44, 0x00), (0x45, 0x20), (0x47, 0x08), (0x48, 0x28),
  (0x67, 0x00), (0x70, 0x04), (0x71, 0x01), (0x72, 0xFE),
  (0x76, 0x00), (0x77, 0x00), (0xFF, 0x01), (0x0D, 0x01),
  (0xFF, 0x00), (0x80, 0x01), (0x01, 0xF8), (0xFF, 0x01),
  (0x8E, 0x01), (0x00, 0x01), (0xFF, 0x00), (0x80, 0x00)]

/-- Two bytes, the high one first. -/
def vl53l0xRead16 (register : UInt8) : SensorProgram UInt16 :=
  .read register 2 fun data => .done ((data.getD 0 0).toUInt16 <<< 8 ||| (data.getD 1 0).toUInt16)

def vl53l0xWrite16 (register : UInt8) (value : UInt16) : SensorProgram Unit :=
  .write register [(value >>> 8).toUInt8, value.toUInt8] (.done ())

/-! ### Setting the sensor up -/

/-- The first pair that cannot be written ends it. -/
def vl53l0xApplyTuning : List (UInt8 × UInt8) → SensorProgram Unit
  | [] => pure ()
  | (register, value) :: rest => do
    vl53l0xWrite8 register value
    vl53l0xApplyTuning rest

def vl53l0xApplyDefaultTuning : SensorProgram Unit := vl53l0xApplyTuning vl53l0xDefaultTuning

/-- The wait for a measurement: one read of the status, and as many more as the time allows. -/
def awaitInterruptStatus : Nat → SensorProgram UInt8
  | 0 => vl53l0xRead8 resultInterruptStatus
  | polls + 1 => do
    let status ← vl53l0xRead8 resultInterruptStatus
    if status &&& 0x07 = 0 then awaitInterruptStatus polls else pure status

/-- A calibration is a measurement whose result is not read. -/
def vl53l0xPerformSingleRefCalibration (polls : Nat) (vhvInitByte : UInt8) : SensorProgram Unit := do
  vl53l0xWrite8 sysrangeStart (0x01 ||| vhvInitByte)
  let status ← awaitInterruptStatus polls
  if status &&& 0x07 = 0 then .failed
  else do
    vl53l0xWrite8 systemInterruptClear 0x01
    vl53l0xWrite8 sysrangeStart 0x00

/-- How often the waits of a setup may look. -/
structure SetupPolls where
  spadInfo : Nat
  vhvCalibration : Nat
  phaseCalibration : Nat

/-- The pads of the bus; nobody looks at whether this worked. -/
def setupPads : SensorProgram Unit := do
  let value ← vl53l0xRead8 vhvConfigPadSclSdaExtsup
  vl53l0xWrite8 vhvConfigPadSclSdaExtsup (value ||| 0x01)

/-- The registers up to the calibrations; the SPADs are chosen in between. -/
def setupRegisters (polls : SetupPolls) : SensorProgram Unit := do
  vl53l0xWrite8 0x88 0x00
  vl53l0xWrite8 0x80 0x01
  vl53l0xWrite8 0xFF 0x01
  vl53l0xWrite8 0x00 0x00
  let _ ← vl53l0xRead8 0x91
  vl53l0xWrite8 0x00 0x01
  vl53l0xWrite8 0xFF 0x00
  vl53l0xWrite8 0x80 0x00
  let value ← vl53l0xRead8 msrcConfigControl
  vl53l0xWrite8 msrcConfigControl (value ||| 0x12)
  vl53l0xWrite16 0x44 0x0020
  vl53l0xWrite8 systemSequenceConfig 0xFF
  vl53l0xConfigureSpads polls.spadInfo
  vl53l0xApplyDefaultTuning
  vl53l0xWrite8 systemInterruptConfigGpio 0x04
  let value ← vl53l0xRead8 gpioHvMuxActiveHigh
  vl53l0xWrite8 gpioHvMuxActiveHigh (value &&& ~~~0x10)
  vl53l0xWrite8 systemInterruptClear 0x01
  vl53l0xWrite8 systemSequenceConfig 0xE8

/-- The two calibrations, with the sequence that each needs. -/
def calibrate (polls : SetupPolls) : SensorProgram Unit := do
  vl53l0xWrite8 systemSequenceConfig 0x01
  vl53l0xPerformSingleRefCalibration polls.vhvCalibration 0x40
  vl53l0xWrite8 systemSequenceConfig 0x02
  vl53l0xPerformSingleRefCalibration polls.phaseCalibration 0x00

/-- What runs the transfers of a program, up to the first that fails. -/
structure Link (ℓ : Type) where
  run : {α : Type} → SensorProgram α → ℓ → ℓ × Option α

section
variable {ℓ : Type} (link : Link ℓ)

/-- The sensor, the diagnosis and whether all went well. -/
def vl53l0xInitSensor (polls : SetupPolls) (sensor : ℓ) (diag : UInt16) : ℓ × UInt16 × Bool :=
  let (sensor, _) := link.run setupPads sensor
  match link.run (setupRegisters polls) sensor with
  | (sensor, none) => (sensor, diag, false)
  | (sensor, some ()) =>
    match link.run (calibrate polls) sensor with
    | (sensor, none) => (sensor, diag &&& 0xFF00 ||| tofDiagCalibrationFail, false)
    | (sensor, some ()) =>
      let (sensor, done) := link.run (vl53l0xWrite8 systemSequenceConfig 0xE8) sensor
      (sensor, diag, done.isSome)

/-- The attempts to read the model. -/
def probeSensor : Nat → ℓ → UInt16 → ℓ × UInt16 × Bool
  | 0, sensor, diag => (sensor, diag, false)
  | attempts + 1, sensor, _ =>
    match link.run (vl53l0xRead8 modelIdRegister) sensor with
    | (sensor, none) => probeSensor attempts sensor tofDiagModelReadFail
    | (sensor, some modelId) =>
      if modelId = 0xEE then (sensor, modelId.toUInt16 <<< 8 ||| tofDiagPresent, true)
      else probeSensor attempts sensor (modelId.toUInt16 <<< 8 ||| tofDiagUnexpectedModel)

/-- The sensor as it comes out of reset is found and set up. -/
def initSensor (polls : SetupPolls) (sensor : ℓ) (tof : Tof) : ℓ × Tof :=
  match probeSensor link 5 sensor tof.diag with
  | (sensor, diag, false) => (sensor, { tof with present := false, diag := diag })
  | (sensor, diag, true) =>
    match vl53l0xInitSensor link polls sensor diag with
    | (sensor, diag, false) =>
      let diag := if diag &&& 0x00FF ≠ tofDiagCalibrationFail then diag &&& 0xFF00 ||| tofDiagInitFail else diag
      (sensor, { tof with present := false, diag := diag })
    | (sensor, diag, true) => (sensor, { tof with present := true, diag := diag &&& 0xFF00 ||| tofDiagPresent })

/-! ### Measuring -/

/-- Asks for one measurement. -/
def startMeasurement : SensorProgram Unit := vl53l0xWrite8 sysrangeStart 0x01

/-- One measurement; that its interrupt was cleared is not looked at. -/
def updateSensor (polls : Nat) (readTicks checkTicks : Nat) (sensor : ℓ) (tof : Tof) :
    ℓ × Tof × Bool :=
  let fresh := fun tof : Tof => isFresh (nowTicks checkTicks) tof.lastValidTick tofStaleMs
  let diagnosed := fun (sensor : ℓ) (code : UInt16) =>
    let tof := { tof with diag := tof.diag &&& 0xFF00 ||| code }
    (sensor, tof, fresh tof)
  if !tof.present then (sensor, tof, false)
  else
    match link.run startMeasurement sensor with
    | (sensor, none) => diagnosed sensor tofDiagMeasureStartFail
    | (sensor, some ()) =>
      match link.run (awaitInterruptStatus polls) sensor with
      | (sensor, none) => diagnosed sensor tofDiagMeasureStatusFail
      | (sensor, some status) =>
        if status &&& 0x07 = 0 then diagnosed sensor tofDiagMeasureTimeout
        else
          match link.run (vl53l0xRead16 resultRangeMm) sensor with
          | (sensor, none) => diagnosed sensor tofDiagRangeReadFail
          | (sensor, some rawMm) =>
            let (sensor, _) := link.run (vl53l0xWrite8 systemInterruptClear 0x01) sensor
            let cmX10 := scaledTofCmX10 rawMm
            if cmX10 ≥ tofMinCmX10 && cmX10 ≤ tofMaxCmX10 then
              let tof := { tof with
                cmX10 := cmX10.toUInt16
                lastValidTick := nowTicks readTicks
                diag := tof.diag &&& 0xFF00 ||| tofDiagPresent }
              (sensor, tof, fresh tof)
            else diagnosed sensor tofDiagRangeOutOfLimit

/-! ### The loop -/

/-- Everything one loop of the node meets: the echoes, the time, and the sensor that comes out of
reset if there is one. -/
structure DriverLoop (ℓ : Type) where
  left : Reading Echo
  right : Reading Echo
  tofReadTicks : Nat
  tofCheckTicks : Nat
  polls : Nat
  stampTicks : Nat
  steering : Status F32
  initTicks : Nat
  reset : ℓ
  setupPolls : SetupPolls

/-- The same loop over another link. -/
def DriverLoop.withReset {ℓ ℓ' : Type} (loop : DriverLoop ℓ) (reset : ℓ') : DriverLoop ℓ' :=
  ⟨loop.left, loop.right, loop.tofReadTicks, loop.tofCheckTicks, loop.polls, loop.stampTicks, loop.steering,
    loop.initTicks, reset, loop.setupPolls⟩

/-- The node with a driver in place of what a measurement ends with. -/
structure DriverState (ℓ : Type) where
  left : UltrasonicSensor
  right : UltrasonicSensor
  sensor : ℓ
  tof : Tof
  frame : Frame

/-- The node at boot. -/
def driverInit (sensor : ℓ) (ticks : Nat) : DriverState ℓ where
  left := ultrasonicStart
  right := ultrasonicStart
  sensor := sensor
  tof := ⟨false, false, 0, 0, nowTicks ticks + ticksFromMs tofRetryIntervalMs, 0⟩
  frame := ⟨0, 0, 0, 0, 0, 0, 0⟩

/-- An absent sensor is reset and tried again once its retry time has come. -/
def retrySensor (sequence : UInt32) (loop : DriverLoop ℓ) (sensor : ℓ) (tof : Tof) : ℓ × Tof :=
  let now := nowTicks loop.initTicks
  if !tof.present && sequence ≥ tofInitDelayFrames && (!tof.initAttempted || now - tof.nextInitTick < 0x80000000)
  then
    initSensor link loop.setupPolls loop.reset
      { tof with initAttempted := true, nextInitTick := now + ticksFromMs tofRetryIntervalMs }
  else (sensor, tof)

/-- One loop of the node, the transfers of its sensor included. -/
def driverNode (stmFrequency : F32) : Machine (DriverState ℓ) (DriverLoop ℓ) Frame where
  step s loop :=
    let (left, leftValid) :=
      ultrasonicUpdate stmFrequency loop.left.outcome loop.left.readTicks loop.left.checkTicks s.left
    let (right, rightValid) :=
      ultrasonicUpdate stmFrequency loop.right.outcome loop.right.readTicks loop.right.checkTicks s.right
    let (sensor, tof, tofValid) := updateSensor link loop.polls loop.tofReadTicks loop.tofCheckTicks s.sensor s.tof
    let frame := buildFrame s.frame left right tof leftValid rightValid tofValid loop.steering
      (nowMs stmFrequency (nowTicks loop.stampTicks))
    let (sensor, tof) := retrySensor link frame.sequence loop sensor tof
    (⟨left, right, sensor, tof, frame⟩, frame)

end

/-! ### Three links -/

/-- A sensor since its last reset: how it answers each program, how many were run, and what went
over the bus. -/
structure PoweredSensor where
  device : Nat → Device UInt8 UInt8
  runs : Nat
  history : List (Transfer UInt8 UInt8)

/-- A sensor that answers from its registers; every program goes on in its history. -/
def registerLink : Link PoweredSensor where
  run program sensor :=
    let (history, result) := program.run (sensor.device sensor.runs) sensor.history
    (⟨sensor.device, sensor.runs + 1, history⟩, result)

section
open TwoWireBus
variable {σ : Type}

/-- Whole transfers with a sensor. -/
def targetLink (target : Target σ) : Link σ where
  run := onTarget target

/-- The same transfers on the two pins. -/
def pinLink (partner : Partner σ) (polls : Nat) : Link (Wires σ) where
  run program wires :=
    let (result, wires) := onPins partner polls program wires
    (wires, result)

end

end SelfDriving.Front
