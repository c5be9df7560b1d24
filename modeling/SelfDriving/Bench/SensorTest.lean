import SelfDriving.Foundations.Machine
import SelfDriving.Foundations.Python

/-! The bench tool for the sensors of the FRONT controller: what it makes of a datagram, what it shows
of it, and what it says about the sequence numbers. -/
namespace SelfDriving.Bench
open Ieee754 Python Bytes

/-- The current format is of one size; the older ones are told apart by theirs. -/
def aeb1Size : Nat := 22
def legacyV1Size : Nat := 15
def legacyV2Size : Nat := 24
def aeb1Magic : List UInt8 := [0x41, 0x45, 0x42, 0x31]

def aebValidLeft : Nat := 1
def aebValidRight : Nat := 2
def aebValidTof : Nat := 4
def aebValidSteeringRx : Nat := 32
def aebValidSteeringCommand : Nat := 64
def aebValidSteeringCenter : Nat := 128

/-- The low byte of the diagnosis of the time-of-flight sensor. -/
def tofFaultNames : List (Nat × String) := [
  (0x00, "TOF_NOT_TRIED"),
  (0x03, "TOF_OK"),
  (0xA1, "TOF_MODEL_READ_FAIL"),
  (0xA2, "TOF_UNEXPECTED_MODEL"),
  (0xA3, "TOF_INIT_FAIL"),
  (0xA4, "TOF_CALIBRATION_FAIL"),
  (0xB1, "TOF_MEASURE_START_FAIL"),
  (0xB2, "TOF_MEASURE_STATUS_FAIL"),
  (0xB3, "TOF_MEASURE_TIMEOUT"),
  (0xB4, "TOF_RANGE_READ_FAIL"),
  (0xB5, "TOF_RANGE_OUT_OF_LIMIT")]

/-- What stands in the place of a distance that is not valid. -/
def ultraDiagNames : List (Nat × String) := [
  (0xF001, "NO_ECHO_RISE"),
  (0xF002, "NO_ECHO_FALL"),
  (0xF003, "RANGE_OUT_OF_LIMIT")]

/-- A packet with the fields that its version has. -/
structure Packet where
  version : String
  valid : Nat
  fault : Nat
  diag : Option Nat
  modelId : Option Nat
  sequence : Option Nat
  alive : Option Nat
  timestampMs : Option Nat
  distanceValid : Option Nat
  leftRawCmX10 : Option Nat
  rightRawCmX10 : Option Nat
  tofRawCmX10 : Option Nat
  leftM : F64
  rightM : F64
  tofM : F64
  filteredTofM : F64
  frontObstacleM : F64

/-! ### Datagrams -/

/-- Meters in centimeters. -/
def cm (valueM : F64) : F64 := valueM * (100.0 : F64)

/-- Tenths of a centimeter in meters. -/
def cmX10ToM (value : Nat) : F64 := Ieee.ofInt value / (1000.0 : F64)

/-- A datagram of the current format. -/
def decodeAeb1 (data : List UInt8) : Except PyError Packet :=
  if data.length ≠ aeb1Size then
    .error (.valueError ("AEB1 length must be " ++ toString aeb1Size ++ ", got " ++ toString data.length))
  else
    let tofDiag := leField data 6 2
    let tofCmX10 := leField data 16 2
    let leftCmX10 := leField data 18 2
    let rightCmX10 := leField data 20 2
    if field data 0 4 ≠ aeb1Magic || leField data 4 1 ≠ 1 then .error (.valueError "not an AEB1 v1 packet")
    else .ok
      { version := "AEB1"
        valid := leField data 5 1
        fault := tofDiag &&& 0xFF
        diag := some tofDiag
        modelId := some (tofDiag >>> 8 &&& 0xFF)
        sequence := some (leField data 8 4)
        alive := none
        timestampMs := some (leField data 12 4)
        distanceValid := none
        leftRawCmX10 := some leftCmX10
        rightRawCmX10 := some rightCmX10
        tofRawCmX10 := some tofCmX10
        leftM := cmX10ToM leftCmX10
        rightM := cmX10ToM rightCmX10
        tofM := cmX10ToM tofCmX10
        filteredTofM := cmX10ToM tofCmX10
        frontObstacleM := cmX10ToM tofCmX10 }

/-- A datagram without a magic number; the longer format has a filtered distance as well. -/
def decodeLegacy (data : List UInt8) : Except PyError Packet :=
  let packet : Packet :=
    { version := "legacy-v1", valid := leField data 12 1, fault := leField data 13 1, diag := none, modelId := none
      sequence := none, alive := some (leField data 14 1), timestampMs := none, distanceValid := none
      leftRawCmX10 := none, rightRawCmX10 := none, tofRawCmX10 := none
      leftM := singleAt data 0, rightM := singleAt data 4, tofM := singleAt data 8
      filteredTofM := singleAt data 8, frontObstacleM := singleAt data 8 }
  if data.length ≥ legacyV2Size then .ok
    { packet with
      version := "legacy-v2"
      valid := leField data 21 1
      fault := leField data 22 1
      alive := some (leField data 23 1)
      distanceValid := some (leField data 20 1)
      filteredTofM := singleAt data 12
      frontObstacleM := singleAt data 16 }
  else if data.length ≥ legacyV1Size then .ok packet
  else .error (.valueError ("short packet: " ++ toString data.length ++ " bytes"))

/-- What the tool makes of a datagram, or why it rejects it. -/
def decodeSensorPacket (data : List UInt8) : Except PyError Packet :=
  if data.length ≥ 4 && field data 0 4 = aeb1Magic then decodeAeb1 data else decodeLegacy data

/-! ### What is shown -/

/-- The name of a code, if it has one. -/
def lookup (names : List (Nat × String)) (code : Nat) : Option String :=
  (names.find? fun name => name.1 = code).map (·.2)

/-- A number in hexadecimal, with leading zeros. -/
def hex (width n : Nat) : String :=
  let digits := (Nat.toDigits 16 n).map Char.toUpper
  String.ofList (List.replicate (width - digits.length) '0' ++ digits)

/-- Blanks on the left. -/
def padLeft (width : Nat) (text : String) : String :=
  String.ofList (List.replicate (width - text.length) ' ') ++ text

/-- The name of a fault, or its number. -/
def faultText (fault : Nat) : String := (lookup tofFaultNames fault).getD ("FAULT_0x" ++ hex 2 fault)

/-- The three sensors. -/
inductive Place where
  | left
  | right
  | tof

namespace Place

/-- The distance of a sensor in meters. -/
def value (packet : Packet) : Place → F64
  | left => packet.leftM
  | right => packet.rightM
  | tof => packet.tofM

/-- The distance of a sensor as it was sent; older formats send none. -/
def raw (packet : Packet) : Place → Nat
  | left => packet.leftRawCmX10.getD 0
  | right => packet.rightRawCmX10.getD 0
  | tof => packet.tofRawCmX10.getD 0

/-- The bit of a sensor in the mask. -/
def validBit : Place → Nat
  | left => aebValidLeft
  | right => aebValidRight
  | tof => aebValidTof

end Place

/-- The value without its sign. -/
def abs (x : F64) : F64 := { x with neg := false }

/-- The column of a sensor: a distance, one that is marked as not valid, or that there is none. -/
def distanceText (packet : Packet) (place : Place) : String :=
  let value := place.value packet
  if packet.valid &&& place.validBit = 0 then
    if (lookup ultraDiagNames (place.raw packet)).isSome then "  diag"
    else if !value.isFinite || abs value < (1.0e-6 : F64) then "    --"
    else "!" ++ padLeft 5 (formatFixed 1 (cm value))
  else if !value.isFinite then "    NaN"
  else padLeft 6 (formatFixed 1 (cm value))

/-- The sensors whose bits are clear. -/
def missing (packet : Packet) : List String :=
  (if packet.valid &&& aebValidLeft = 0 then ["L"] else []) ++
    (if packet.valid &&& aebValidRight = 0 then ["R"] else []) ++
    (if packet.valid &&& aebValidTof = 0 then ["ToF"] else [])

/-- What the mask says about the steering. -/
def steeringNotes (packet : Packet) : List String :=
  if packet.valid &&& aebValidSteeringCommand ≠ 0 then ["STEER_CMD"]
  else if packet.valid &&& aebValidSteeringRx ≠ 0 then ["STEER_RX_CENTER"]
  else if packet.valid &&& aebValidSteeringCenter ≠ 0 then ["STEER_WATCHDOG_CENTER"]
  else []

/-- The diagnosis of a side sensor whose bit is clear. -/
def sideNotes (packet : Packet) (name : String) (place : Place) : List String :=
  if packet.valid &&& place.validBit = 0 then
    (lookup ultraDiagNames (place.raw packet)).toList.map fun diag => name ++ "_" ++ diag
  else []

/-- What a packet has to say beside its numbers. -/
def packetNotes (packet : Packet) : List String :=
  (if packet.version.startsWith "legacy" then ["LEGACY_FW"] else []) ++
    (if missing packet = [] then [] else ["INVALID_" ++ ",".intercalate (missing packet)]) ++
    steeringNotes packet ++ sideNotes packet "LEFT" .left ++ sideNotes packet "RIGHT" .right ++
    (if packet.fault = 0 || packet.fault = 0x03 then [] else [faultText packet.fault])

/-- The notes on one line. -/
def packetNote (packet : Packet) : String :=
  if (packetNotes packet).isEmpty then "OK" else " ".intercalate (packetNotes packet)

/-! ### Sequence numbers -/

/-- What the tool remembers between datagrams. -/
structure SensorState where
  lastSequence : Option Nat
  lastAlive : Option Nat
  lastTime : Option F64
  received : Nat

def sensorStart : SensorState := ⟨none, none, none, 0⟩

/-- Two decimals at least. -/
def twoDigits (n : Nat) : String := (if n < 10 then "0" else "") ++ toString n

/-- The note about the number of a packet, with the time since the last one. -/
def updateSequenceNote (packet : Packet) (state : SensorState) (now : F64) : SensorState × String × F64 :=
  let dtMs := match state.lastTime with
    | none => (0.0 : F64)
    | some lastTime => (now - lastTime) * (1000.0 : F64)
  let state := { state with lastTime := some now, received := state.received + 1 }
  match packet.sequence with
  | some sequence =>
    let note := match state.lastSequence with
      | none => "seq=" ++ toString sequence
      | some lastSequence =>
        let expected : Nat := (lastSequence + 1) % 2 ^ 32
        let gap := ((sequence : Int) - expected) % 2 ^ 32
        if gap = 0 then "seq=" ++ toString sequence else "seq=" ++ toString sequence ++ " GAP+" ++ toString gap
    ({ state with lastSequence := some sequence }, note, dtMs)
  | none =>
    match packet.alive with
    | some alive =>
      let note := match state.lastAlive with
        | none => "alive=" ++ twoDigits alive
        | some lastAlive =>
          if alive = (lastAlive + 1) % 16 then "alive=" ++ twoDigits alive else "alive=" ++ twoDigits alive ++ " GAP"
      ({ state with lastAlive := some alive }, note, dtMs)
    | none => (state, "seq=-", dtMs)

/-- What the monitor shows of a datagram: a note and the distances, or why it was rejected. -/
inductive Shown where
  | row (packet : Packet) (note : String) (dtMs : F64)
  | rejected (error : PyError)

/-- The monitor: a datagram and the time it came at, and what is shown of it. -/
def runSensor : Machine SensorState (List UInt8 × F64) Shown where
  step state input :=
    match decodeSensorPacket input.1 with
    | .error error => (state, .rejected error)
    | .ok packet =>
      let (state, note, dtMs) := updateSequenceNote packet state input.2
      (state, .row packet note dtMs)

end SelfDriving.Bench
