import SelfDriving.Front.SensorNode

/-! The ultrasonic sensors of the REAR controller. They are read and filtered as the FRONT
controller's are, without a diagnosis. -/
namespace SelfDriving.Rear
open Ieee754
open Front (Echo Reading)

/-- The range of a distance, and how long one holds. -/
def ultraMinCmX10 : UInt32 := 20
def ultraMaxCmX10 : UInt32 := 5000
def ultraStaleMs : UInt32 := 150

/-- A sensor: its last distances, how many there are, and the filtered one with its time. -/
structure UltrasonicSensor where
  samples : List UInt16
  sampleCount : UInt8
  sampleIndex : UInt8
  filteredCmX10 : UInt16
  lastValidTick : UInt32
  deriving DecidableEq

/-- A sensor that has measured nothing. -/
def ultrasonicStart : UltrasonicSensor := ⟨[0, 0, 0], 0, 0, 0, 0⟩

/-- The same three exchanges. -/
def median3 (s : List UInt16) (count : UInt8) : UInt16 := Front.median3 s count

/-- The distance of an echo, unless it is out of range. -/
def ultrasonicReadCmX10 (stmFrequency : F32) (echo : Echo) : Option UInt16 :=
  match echo with
  | .noRise => none
  | .noFall => none
  | .pulse pulseTicks =>
    let distanceCmX10 := Front.pulseCmX10 stmFrequency pulseTicks
    if distanceCmX10 < ultraMinCmX10 || distanceCmX10 > ultraMaxCmX10 then none else some distanceCmX10.toUInt16

/-- The sensor after a measurement, and whether its distance counts as fresh at `checkTicks`. -/
def ultrasonicUpdate (stmFrequency : F32) (echo : Echo) (readTicks checkTicks : Nat)
    (sensor : UltrasonicSensor) : UltrasonicSensor × Bool :=
  let sensor :=
    match ultrasonicReadCmX10 stmFrequency echo with
    | none => sensor
    | some raw =>
      let samples := sensor.samples.set sensor.sampleIndex.toNat raw
      let sampleCount := if sensor.sampleCount < 3 then sensor.sampleCount + 1 else sensor.sampleCount
      { samples := samples
        sampleIndex := (sensor.sampleIndex + 1) % 3
        sampleCount := sampleCount
        filteredCmX10 := median3 samples sampleCount
        lastValidTick := Front.nowTicks readTicks }
  (sensor, Front.isFresh (Front.nowTicks checkTicks) sensor.lastValidTick ultraStaleMs)

/-- An ultrasonic sensor, updated time after time. -/
def ultrasonic (stmFrequency : F32) : Machine UltrasonicSensor (Reading Echo) Bool where
  step sensor reading :=
    ultrasonicUpdate stmFrequency reading.outcome reading.readTicks reading.checkTicks sensor

end SelfDriving.Rear
