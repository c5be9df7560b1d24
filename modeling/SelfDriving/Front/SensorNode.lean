import SelfDriving.Front.SteeringNode

/-! The range sensors of the FRONT controller and the frame it sends about them.
Pins and buses are inputs: what the echo line, the ToF bus and the timer do in
one loop is given, and the code's decisions follow. A time is a true count of
timer ticks, of which the code sees the lower word. -/
namespace SelfDriving.Front
open Ieee754

/-- The ranges of the distances, and how long they hold. -/
def ultraMinCmX10 : UInt32 := 20
def ultraMaxCmX10 : UInt32 := 5000
def ultraStaleMs : UInt32 := 500
def tofMinCmX10 : UInt32 := 30
def tofMaxCmX10 : UInt32 := 4000
def tofStaleMs : UInt32 := 400
def tofInitDelayFrames : UInt32 := 10
def tofRetryIntervalMs : UInt32 := 1000
def tofDistanceScale : F32 := 0.5

/-- The bits of the valid mask. -/
def validUltraLeft : UInt8 := 1
def validUltraRight : UInt8 := 2
def validTof : UInt8 := 4
def validSteeringRx : UInt8 := 32
def validSteeringCommand : UInt8 := 64
def validSteeringCenter : UInt8 := 128

/-- The diagnoses of an ultrasonic sensor. -/
def ultraDiagOk : UInt16 := 0x0000
def ultraDiagNoEchoRise : UInt16 := 0xF001
def ultraDiagNoEchoFall : UInt16 := 0xF002
def ultraDiagRangeOutOfLimit : UInt16 := 0xF003

/-- The diagnoses of the time-of-flight sensor. -/
def tofDiagModelReadFail : UInt16 := 0xA1
def tofDiagUnexpectedModel : UInt16 := 0xA2
def tofDiagInitFail : UInt16 := 0xA3
def tofDiagCalibrationFail : UInt16 := 0xA4
def tofDiagPresent : UInt16 := 0x03
def tofDiagMeasureStartFail : UInt16 := 0xB1
def tofDiagMeasureStatusFail : UInt16 := 0xB2
def tofDiagMeasureTimeout : UInt16 := 0xB3
def tofDiagRangeReadFail : UInt16 := 0xB4
def tofDiagRangeOutOfLimit : UInt16 := 0xB5

/-! ### Ticks -/

/-- The lower word of the timer. -/
def nowTicks (ticks : Nat) : UInt32 := UInt32.ofNat ticks

/-- The timer counts at 100 MHz. -/
def ticksFromMs (ms : UInt32) : UInt32 := ms * 100000

/-- Ticks in microseconds, in single precision. -/
def ticksToUs (stmFrequency : F32) (ticks : UInt32) : UInt32 :=
  Ieee.toUInt32 (Ieee.ofUInt32 ticks * (1000000.0 : F32) / stmFrequency)

/-- A measurement is recent; a tick of zero stands for none. -/
def isFresh (now lastValidTick staleMs : UInt32) : Bool :=
  lastValidTick ≠ 0 && now - lastValidTick ≤ ticksFromMs staleMs

/-! ### Ultrasonic sensors -/

/-- The last three distances of a side sensor, their median, and the last diagnosis. -/
structure UltrasonicSensor where
  samples : List UInt16
  sampleCount : UInt8
  sampleIndex : UInt8
  filteredCmX10 : UInt16
  lastValidTick : UInt32
  lastRawCmX10 : UInt16
  lastDiag : UInt16
  deriving DecidableEq

/-- A sensor before its first measurement. -/
def ultrasonicStart : UltrasonicSensor := ⟨[0, 0, 0], 0, 0, 0, 0, 0, 0⟩

/-- The median of three samples, or of as many as there are. -/
def median3 (samples : List UInt16) (count : UInt8) : UInt16 :=
  let sample := fun index => samples.getD index 0
  if count = 0 then 0
  else if count = 1 then sample 0
  else if count = 2 then UInt16.ofNat (((sample 0).toNat + (sample 1).toNat) / 2)
  else
    let (a, b, c) := (sample 0, sample 1, sample 2)
    let (a, b) := if a > b then (b, a) else (a, b)
    let b := if b > c then c else b
    if a > b then a else b

/-- What the echo line does after a trigger. -/
inductive Echo where
  | noRise
  | noFall
  | pulse (pulseTicks : UInt32)

/-- The distance an echo of some length stands for. -/
def pulseCmX10 (stmFrequency : F32) (pulseTicks : UInt32) : UInt32 :=
  (ticksToUs stmFrequency pulseTicks * 1715 + 5000) / 10000

/-- One measurement: the sensor with its diagnosis, and the distance when it is in range. -/
def ultrasonicReadCmX10 (stmFrequency : F32) (echo : Echo) (sensor : UltrasonicSensor) :
    UltrasonicSensor × Option UInt16 :=
  let sensor := { sensor with lastRawCmX10 := 0, lastDiag := ultraDiagOk }
  match echo with
  | .noRise => ({ sensor with lastDiag := ultraDiagNoEchoRise }, none)
  | .noFall => ({ sensor with lastDiag := ultraDiagNoEchoFall }, none)
  | .pulse pulseTicks =>
    let distanceCmX10 := pulseCmX10 stmFrequency pulseTicks
    let sensor := { sensor with
      lastRawCmX10 := if distanceCmX10 > 0xFFFF then 0xFFFF else distanceCmX10.toUInt16 }
    if distanceCmX10 < ultraMinCmX10 || distanceCmX10 > ultraMaxCmX10 then
      ({ sensor with lastDiag := ultraDiagRangeOutOfLimit }, none)
    else (sensor, some distanceCmX10.toUInt16)

/-- A measurement whose result, if any, is stamped at `readTicks`. -/
def ultrasonicSample (stmFrequency : F32) (echo : Echo) (readTicks : Nat) (sensor : UltrasonicSensor) :
    UltrasonicSensor :=
  match ultrasonicReadCmX10 stmFrequency echo sensor with
  | (sensor, none) => sensor
  | (sensor, some rawCmX10) =>
    let samples := sensor.samples.set sensor.sampleIndex.toNat rawCmX10
    let sampleCount := if sensor.sampleCount < 3 then sensor.sampleCount + 1 else sensor.sampleCount
    { sensor with
      samples := samples
      sampleIndex := (sensor.sampleIndex + 1) % 3
      sampleCount := sampleCount
      filteredCmX10 := median3 samples sampleCount
      lastValidTick := nowTicks readTicks }

/-- The sensor after a measurement, and whether its distance counts as fresh at `checkTicks`. -/
def ultrasonicUpdate (stmFrequency : F32) (echo : Echo) (readTicks checkTicks : Nat)
    (sensor : UltrasonicSensor) : UltrasonicSensor × Bool :=
  let sensor := ultrasonicSample stmFrequency echo readTicks sensor
  (sensor, isFresh (nowTicks checkTicks) sensor.lastValidTick ultraStaleMs)

/-! ### The ToF sensor -/

/-- What the node knows of the time-of-flight sensor. -/
structure Tof where
  present : Bool
  initAttempted : Bool
  cmX10 : UInt16
  lastValidTick : UInt32
  nextInitTick : UInt32
  diag : UInt16
  deriving DecidableEq

/-- What the ToF bus answers to a measurement. -/
inductive TofMeasurement where
  | startFail
  | statusFail
  | timeout
  | rangeReadFail
  | range (rawMm : UInt16)

/-- The low byte of the diagnosis; the high byte keeps the model. -/
def Tof.diagnose (tof : Tof) (code : UInt16) : Tof := { tof with diag := tof.diag &&& 0xFF00 ||| code }

/-- Millimeters in the unit of the frame, rounded. -/
def scaledTofCmX10 (rawMm : UInt16) : UInt32 :=
  Ieee.toUInt32 (Ieee.ofUInt32 rawMm.toUInt32 * tofDistanceScale + (0.5 : F32))

/-- What one measurement leaves. -/
def tofMeasure (measurement : TofMeasurement) (readTicks : Nat) (tof : Tof) : Tof :=
  match measurement with
  | .startFail => tof.diagnose tofDiagMeasureStartFail
  | .statusFail => tof.diagnose tofDiagMeasureStatusFail
  | .timeout => tof.diagnose tofDiagMeasureTimeout
  | .rangeReadFail => tof.diagnose tofDiagRangeReadFail
  | .range rawMm =>
    let cmX10 := scaledTofCmX10 rawMm
    if cmX10 ≥ tofMinCmX10 && cmX10 ≤ tofMaxCmX10 then
      { tof with cmX10 := cmX10.toUInt16, lastValidTick := nowTicks readTicks }.diagnose tofDiagPresent
    else tof.diagnose tofDiagRangeOutOfLimit

/-- A measurement of a present sensor, and whether its distance counts as fresh. -/
def tofUpdate (measurement : TofMeasurement) (readTicks checkTicks : Nat) (tof : Tof) : Tof × Bool :=
  if !tof.present then (tof, false)
  else
    let tof := tofMeasure measurement readTicks tof
    (tof, isFresh (nowTicks checkTicks) tof.lastValidTick tofStaleMs)

/-- The model reads of a probe, at most five. -/
def tofProbe : List (Option UInt8) → UInt16 → Bool × UInt16
  | [], diag => (false, diag)
  | none :: rest, _ => tofProbe rest tofDiagModelReadFail
  | some modelId :: rest, _ =>
    if modelId = 0xEE then (true, modelId.toUInt16 <<< 8 ||| tofDiagPresent)
    else tofProbe rest (modelId.toUInt16 <<< 8 ||| tofDiagUnexpectedModel)

/-- How far the register setup of a probed sensor gets. -/
inductive TofSetup where
  | writeFail
  | calibrationFail
  | ready
  deriving DecidableEq

/-- The probe and the setup of the sensor. -/
def tofInit (modelReads : List (Option UInt8)) (setup : TofSetup) (tof : Tof) : Tof :=
  match tofProbe (modelReads.take 5) tof.diag with
  | (false, diag) => { tof with present := false, diag := diag }
  | (true, diag) =>
    let tof := { tof with diag := diag }
    match setup with
    | .calibrationFail => { tof.diagnose tofDiagCalibrationFail with present := false }
    | .writeFail => { tof.diagnose tofDiagInitFail with present := false }
    | .ready => { tof.diagnose tofDiagPresent with present := true }

/-! ### The sensor loop -/

/-- The fields of a frame that is sent. -/
structure Frame where
  sequence : UInt32
  timestampMs : UInt32
  tofFrontCmX10 : UInt16
  ultrasonicLeftCmX10 : UInt16
  ultrasonicRightCmX10 : UInt16
  tofDiag : UInt16
  validMask : UInt8
  deriving DecidableEq

/-- The three sensors and the last frame. -/
structure SensorState where
  left : UltrasonicSensor
  right : UltrasonicSensor
  tof : Tof
  frame : Frame
  deriving DecidableEq

/-- When one sensor is read and when its freshness is checked. -/
structure Reading (μ : Type) where
  outcome : μ
  readTicks : Nat
  checkTicks : Nat

/-- Everything one loop meets. -/
structure Loop where
  left : Reading Echo
  right : Reading Echo
  tof : Reading TofMeasurement
  stampTicks : Nat
  steering : Status F32
  sentTicks : Nat
  initTicks : Nat
  modelReads : List (Option UInt8)
  setup : TofSetup

/-- The node when it starts. -/
def sensorInit (ticks : Nat) : SensorState where
  left := ultrasonicStart
  right := ultrasonicStart
  tof := ⟨false, false, 0, 0, nowTicks ticks + ticksFromMs tofRetryIntervalMs, 0⟩
  frame := ⟨0, 0, 0, 0, 0, 0, 0⟩

/-- A bit of the valid mask. -/
def maskBit (set : Bool) (bit : UInt8) : UInt8 := if set then bit else 0

/-- The frame of a loop; a side distance that is not valid gives its place to the diagnosis. -/
def buildFrame (previous : Frame) (left right : UltrasonicSensor) (tof : Tof)
    (leftValid rightValid tofValid : Bool) (steering : Status F32) (timestampMs : UInt32) : Frame where
  sequence := previous.sequence + 1
  timestampMs := timestampMs
  tofFrontCmX10 := tof.cmX10
  ultrasonicLeftCmX10 := if leftValid then left.filteredCmX10 else left.lastDiag
  ultrasonicRightCmX10 := if rightValid then right.filteredCmX10 else right.lastDiag
  tofDiag := tof.diag
  validMask := maskBit tofValid validTof ||| maskBit leftValid validUltraLeft |||
    maskBit rightValid validUltraRight ||| maskBit steering.linkValid validSteeringRx |||
    maskBit steering.commandValid validSteeringCommand ||| maskBit steering.emergencyCenter validSteeringCenter

/-- An absent ToF sensor is tried again once its retry time has come. -/
def retryTof (sequence : UInt32) (loop : Loop) (tof : Tof) : Tof :=
  let now := nowTicks loop.initTicks
  if !tof.present && sequence ≥ tofInitDelayFrames && (!tof.initAttempted || now - tof.nextInitTick < 0x80000000)
  then
    tofInit loop.modelReads loop.setup
      { tof with initAttempted := true, nextInitTick := now + ticksFromMs tofRetryIntervalMs }
  else tof

/-- One loop; the output is the frame it sends. -/
def sensorNode (stmFrequency : F32) : Machine SensorState Loop Frame where
  step s loop :=
    let (left, leftValid) :=
      ultrasonicUpdate stmFrequency loop.left.outcome loop.left.readTicks loop.left.checkTicks s.left
    let (right, rightValid) :=
      ultrasonicUpdate stmFrequency loop.right.outcome loop.right.readTicks loop.right.checkTicks s.right
    let (tof, tofValid) := tofUpdate loop.tof.outcome loop.tof.readTicks loop.tof.checkTicks s.tof
    let frame := buildFrame s.frame left right tof leftValid rightValid tofValid loop.steering
      (nowMs stmFrequency (nowTicks loop.stampTicks))
    (⟨left, right, retryTof frame.sequence loop tof, frame⟩, frame)

end SelfDriving.Front
