import SelfDriving.Foundations.Floating
import SelfDriving.Foundations.Machine
import SelfDriving.Foundations.PythonText
import SelfDriving.Hpvc.SteeringPacket

/-! The runtime control store of the HPVC: what the operator requested, what the
two controllers reported last, the flags and the acceleration derived from them,
and the packets it publishes. A datagram or a request is one step under the lock. -/
namespace SelfDriving.Hpvc
open Ieee754 Python Bytes

def turnSignalOff : Int := 0
def turnSignalLeft : Int := 1
def turnSignalRight : Int := 2

/-- What the FRONT controller reported last. -/
structure FrontSnapshot where
  leftDiagDistanceM : F64
  rightDiagDistanceM : F64
  tofM : F64
  filteredTofM : Option F64
  obstacleDistanceM : Option F64
  distanceValid : Option Nat
  sensorValid : Nat
  sensorFault : Nat
  aliveCount : Nat
  sequence : Option Nat
  timestampMs : Option Nat
  speedValid : Bool
  packetSizeBytes : Nat
  packetFormat : String

/-- What the REAR controller reported last. -/
structure RearSnapshot where
  leftDiagDistanceM : F64
  rightDiagDistanceM : F64
  vehicleSpeedMps : Option F64
  sensorValid : Nat
  motorState : Nat
  aliveCount : Nat
  reserved : Option Nat
  speedValid : Bool
  packetSizeBytes : Nat
  packetFormat : String

/-- The requests of the operator, what is in effect of them and why, and the last reports. -/
structure RuntimeControlState where
  requestedLkasEnabled : Bool
  requestedTurnSignal : Int
  requestedLcaEnabled : Bool
  requestedAccEnabled : Bool
  requestedAebEnabled : Bool
  requestedDriveCommand : String
  requestedSteeringCommand : String
  requestedTargetSpeed : F64
  effectiveLkasActive : Bool
  effectiveLcaActive : Bool
  effectiveAccActive : Bool
  effectiveAebActive : Bool
  lkasReason : String
  lcaReason : String
  aebReason : String
  accReason : String
  accEstimateMps2 : Option F64
  frontAeb : Option FrontSnapshot
  rearStatus : Option RearSnapshot

/-- The state with the two counters of the packets. -/
structure RuntimeControlStore where
  state : RuntimeControlState
  sequence : UInt32
  alive : UInt16

/-- The store before any request or report. -/
def storeStart : RuntimeControlStore where
  state :=
    { requestedLkasEnabled := false
      requestedTurnSignal := turnSignalOff
      requestedLcaEnabled := false
      requestedAccEnabled := false
      requestedAebEnabled := false
      requestedDriveCommand := "STOP"
      requestedSteeringCommand := "STRAIGHT"
      requestedTargetSpeed := 0.0
      effectiveLkasActive := false
      effectiveLcaActive := false
      effectiveAccActive := false
      effectiveAebActive := false
      lkasReason := "boot default"
      lcaReason := "boot default"
      aebReason := "boot default"
      accReason := "boot default"
      accEstimateMps2 := none
      frontAeb := none
      rearStatus := none }
  sequence := 0
  alive := 0

/-! ### Deriving -/

section
variable {α : Type} [Floating α]

/-- The acceleration that keeps the gap, once both inputs are usable. -/
def gapAcceleration (requestedAebEnabled requestedAccEnabled : Bool) (tofM vehicleSpeed : α) : α × String :=
  let rearSpeed := Python.max (0.0 : α) vehicleSpeed
  let desiredGap := Python.max (0.35 : α) ((0.45 : α) + (0.90 : α) * rearSpeed)
  let gapError := tofM - desiredGap
  let acc := (1.40 : α) * gapError - (0.35 : α) * rearSpeed
  let (acc, reason) :=
    if requestedAebEnabled || tofM ≤ (0.18 : α) then (Python.min acc (-(1.50 : α)), "AEB guard from front ToF")
    else if requestedAccEnabled then (acc, "ACC gap control")
    else (acc, "ACC disabled")
  (Python.max (-(2.50 : α)) (Python.min (1.50 : α) acc), reason)

end

/-- The acceleration for the gap ahead, or why there is none. -/
def estimateAcceleration (s : RuntimeControlState) (front : Option FrontSnapshot) (rear : Option RearSnapshot) :
    Option F64 × String :=
  match front, rear with
  | some front, some rear =>
    if !front.tofM.isFinite || front.tofM ≤ (0.0 : F64) then (none, "front ToF invalid")
    else
      match rear.vehicleSpeedMps with
      | none => (none, "rear speed invalid")
      | some vehicleSpeed =>
        if !vehicleSpeed.isFinite then (none, "rear speed invalid")
        else
          let (acc, reason) :=
            gapAcceleration s.requestedAebEnabled s.requestedAccEnabled front.tofM vehicleSpeed
          (some acc, reason)
  | _, _ => (none, "waiting for front/rear inputs")

/-- The guard that the front range puts on the request for emergency braking. -/
def aebGuard (requestedAebEnabled effectiveAccActive : Bool) (front : Option FrontSnapshot) : Bool × String :=
  match front with
  | none => (requestedAebEnabled, "waiting for front AEB packet")
  | some front =>
    if front.tofM.isFinite && (0.0 : F64) < front.tofM then
      if front.tofM ≤ (0.18 : F64) then (true, "front ToF emergency guard")
      else if front.tofM ≤ (0.30 : F64) && effectiveAccActive then (requestedAebEnabled, "front ToF caution")
      else (requestedAebEnabled, if requestedAebEnabled then "operator enabled AEB" else "front range nominal")
    else (requestedAebEnabled, "front ToF invalid")

/-- What follows from the requests and the reports. -/
def recomputeEffective (s : RuntimeControlState) : RuntimeControlState :=
  let effectiveLcaActive := s.requestedLkasEnabled && s.requestedLcaEnabled &&
    (s.requestedTurnSignal = turnSignalLeft || s.requestedTurnSignal = turnSignalRight)
  let lcaReason :=
    if effectiveLcaActive then "turn signal and LKAS request accepted"
    else if s.requestedLcaEnabled && !s.requestedLkasEnabled then "LKAS must be enabled first"
    else if s.requestedTurnSignal = turnSignalOff then "turn signal off"
    else "waiting for lane-change preconditions"
  let estimate := estimateAcceleration s s.frontAeb s.rearStatus
  let guard := aebGuard s.requestedAebEnabled s.requestedAccEnabled s.frontAeb
  { s with
    effectiveLkasActive := s.requestedLkasEnabled
    effectiveLcaActive := effectiveLcaActive
    lcaReason := lcaReason
    lkasReason := if s.requestedLkasEnabled then "operator enabled LKAS" else "operator disabled LKAS"
    effectiveAccActive := s.requestedAccEnabled
    accEstimateMps2 := estimate.1
    accReason := estimate.2
    effectiveAebActive := guard.1
    aebReason := guard.2 }

/-! ### Decoding -/

def frontAebMagic : List UInt8 := [0x41, 0x45, 0x42, 0x31]
def frontAeb1Bytes : Nat := 22
def frontAebV1Bytes : Nat := 15
def frontAebV2Bytes : Nat := 24
def rearStatusV1Bytes : Nat := 11
def rearStatusV2Bytes : Nat := 16

/-- A datagram of the FRONT controller, in the format that its magic number or its length says. -/
def decodeFrontAeb (data : List UInt8) : Option FrontSnapshot :=
  if data.length ≥ frontAeb1Bytes && field data 0 4 = frontAebMagic then
    if leField data 4 1 ≠ 1 then none
    else
      let validMask := leField data 5 1
      let sequence := leField data 8 4
      some
        { leftDiagDistanceM := Ieee.ofInt (leField data 18 2) / (1000.0 : F64)
          rightDiagDistanceM := Ieee.ofInt (leField data 20 2) / (1000.0 : F64)
          tofM := Ieee.ofInt (leField data 16 2) / (1000.0 : F64)
          filteredTofM := none
          obstacleDistanceM := none
          distanceValid := none
          sensorValid := validMask
          sensorFault := leField data 6 2
          aliveCount := sequence % 16
          sequence := some sequence
          timestampMs := some (leField data 12 4)
          speedValid := validMask &&& 0x04 ≠ 0
          packetSizeBytes := data.length
          packetFormat := "AEB1" }
  else if data.length ≥ frontAebV2Bytes then
    let distanceValid := leField data 20 1
    some
      { leftDiagDistanceM := singleAt data 0
        rightDiagDistanceM := singleAt data 4
        tofM := singleAt data 8
        filteredTofM := some (singleAt data 12)
        obstacleDistanceM := some (singleAt data 16)
        distanceValid := some distanceValid
        sensorValid := leField data 21 1
        sensorFault := leField data 22 1
        aliveCount := leField data 23 1
        sequence := none
        timestampMs := none
        speedValid := distanceValid ≠ 0
        packetSizeBytes := data.length
        packetFormat := "legacy-v2" }
  else if data.length ≥ frontAebV1Bytes then
    some
      { leftDiagDistanceM := singleAt data 0
        rightDiagDistanceM := singleAt data 4
        tofM := singleAt data 8
        filteredTofM := none
        obstacleDistanceM := none
        distanceValid := none
        sensorValid := leField data 12 1
        sensorFault := leField data 13 1
        aliveCount := leField data 14 1
        sequence := none
        timestampMs := none
        speedValid := true
        packetSizeBytes := data.length
        packetFormat := "legacy-v1" }
  else none

/-- A datagram of the REAR controller, in the format that its length says. -/
def decodeRearStatus (data : List UInt8) : Option RearSnapshot :=
  if data.length ≥ rearStatusV2Bytes then
    let vehicleSpeedMps := singleAt data 8
    some
      { leftDiagDistanceM := singleAt data 0
        rightDiagDistanceM := singleAt data 4
        vehicleSpeedMps := some vehicleSpeedMps
        sensorValid := leField data 12 1
        motorState := leField data 13 1
        aliveCount := leField data 14 1
        reserved := some (leField data 15 1)
        speedValid := vehicleSpeedMps.isFinite
        packetSizeBytes := data.length
        packetFormat := "v2" }
  else if data.length ≥ rearStatusV1Bytes then
    some
      { leftDiagDistanceM := singleAt data 0
        rightDiagDistanceM := singleAt data 4
        vehicleSpeedMps := none
        sensorValid := leField data 8 1
        motorState := leField data 9 1
        aliveCount := leField data 10 1
        reserved := none
        speedValid := false
        packetSizeBytes := data.length
        packetFormat := "v1" }
  else none

/-- A report of the FRONT controller is stored. -/
def setFrontAeb (s : RuntimeControlState) (snapshot : FrontSnapshot) : RuntimeControlState :=
  recomputeEffective { s with frontAeb := some snapshot }

/-- A report of the REAR controller is stored. -/
def setRearStatus (s : RuntimeControlState) (snapshot : RearSnapshot) : RuntimeControlState :=
  recomputeEffective { s with rearStatus := some snapshot }

/-- A datagram on the FRONT port; one that does not decode is skipped. -/
def receiveFront (s : RuntimeControlState) (data : List UInt8) : RuntimeControlState :=
  match decodeFrontAeb data with
  | none => s
  | some snapshot => setFrontAeb s snapshot

/-- A datagram on the REAR port. -/
def receiveRear (s : RuntimeControlState) (data : List UInt8) : RuntimeControlState :=
  match decodeRearStatus data with
  | none => s
  | some snapshot => setRearStatus s snapshot

/-! ### Publishing -/

/-- The angle of a steering command in radians. -/
def requestedSteeringAngle (s : RuntimeControlState) : F64 :=
  if word s.requestedSteeringCommand = "LEFT" then 0.25
  else if word s.requestedSteeringCommand = "RIGHT" then -(0.25 : F64)
  else 0.0

/-- The direction of a drive command in the packet. -/
def requestedDriveDirection (s : RuntimeControlState) : UInt8 :=
  if word s.requestedDriveCommand = "FORWARD" then 1
  else if word s.requestedDriveCommand = "REVERSE" then 2
  else 0

/-- The mode in the packet; emergency braking comes before following. -/
def rearControlMode (s : RuntimeControlState) : UInt8 :=
  if s.effectiveAebActive then 2 else if s.effectiveAccActive then 1 else 0

/-- The CRC of the packets to REAR, bit by bit. -/
def crc16Ccitt (data : List UInt8) : UInt16 :=
  let shift := fun crc : UInt16 => if crc &&& 0x8000 ≠ 0 then (crc <<< 1) ^^^ 0x1021 else crc <<< 1
  let update := fun (crc : UInt16) (byte : UInt8) =>
    (List.range 8).foldl (fun crc _ => shift crc) (crc ^^^ byte.toUInt16 <<< 8)
  data.foldl update 0xFFFF

def rearProtocolVersion : UInt8 := 1
def rearMsgRearDriveV2 : UInt8 := 0x43
def rearBodySize : Nat := 16
def rearFlagUpstreamValid : UInt8 := 1

/-- The speed that the REAR packet is to carry. -/
def commandedSpeed (s : RuntimeControlState) : F64 := Python.max (0.0 : F64) s.requestedTargetSpeed

/-- The brake bit of the packet. -/
def brakeCommand (s : RuntimeControlState) : UInt8 := if s.effectiveAebActive then 1 else 0

/-- The acceleration that the REAR packet is to carry. -/
def commandedAcceleration (s : RuntimeControlState) : F64 :=
  let acceleration :=
    match s.accEstimateMps2 with
    | none => 0.0
    | some acceleration => if acceleration.isFinite then acceleration else 0.0
  if brakeCommand s ≠ 0 then 0.0 else acceleration

def emergencyStop : UInt8 := 0

/-- The command packet of 32 bytes, once its floats are packed. -/
def rearCommandPacket (store : RuntimeControlStore) (clock : Clock) (targetSpeed acceleration : F32) : List UInt8 :=
  let header := leBytes 2 0x4850 ++ [rearProtocolVersion, rearMsgRearDriveV2] ++ leBytes 2 rearBodySize ++
    leBytes 2 store.sequence.toNat ++ leBytes 4 clock.ms ++ [0x01, rearFlagUpstreamValid]
  let body := [rearControlMode store.state, requestedDriveDirection store.state] ++ singleBytes targetSpeed ++
    singleBytes acceleration ++
    [emergencyStop, UInt8.ofInt store.state.requestedTurnSignal, 1, store.alive.toUInt8, 0, brakeCommand store.state]
  header ++ leBytes 2 (crc16Ccitt (header ++ [0, 0] ++ body)).toNat ++ body

/-- The packet to REAR, or the error of packing its floats. -/
def buildRearCommandPacket (store : RuntimeControlStore) (clock : Clock) : Except PyError (List UInt8) :=
  match packSingle (commandedSpeed store.state), packSingle (commandedAcceleration store.state) with
  | .ok targetSpeed, .ok acceleration => .ok (rearCommandPacket store clock targetSpeed acceleration)
  | .error error, _ | .ok _, .error error => .error error

/-- The packet to FRONT, or the error of packing its floats. -/
def buildFrontPacket (store : RuntimeControlStore) (clock : Clock) : Except PyError (List UInt8) :=
  let steeringValid := store.state.effectiveLkasActive
  let flags := (if steeringValid then hpscFlagSteeringValid else hpscFlagEmergencyCenter) ||| hpscFlagUpstreamValid
  let angle := if steeringValid then requestedSteeringAngle store.state else 0.0
  packHpsc hpscControlSteeringAngle flags store.sequence clock.us angle 0.5 store.alive

/-- Which sends of one publish the sockets take; the others raise an OS error. -/
structure Sends where
  runtimeControl : Bool
  front : Bool
  rear : Bool

/-- What one publish put on the wire, and the exception that left it. -/
structure Published where
  runtimeControl : List (List UInt8)
  front : List (List UInt8)
  rear : List (List UInt8)
  error : Option PyError

/-- One publish; the counters advance only when everything was sent. -/
def publishRuntimeControl (store : RuntimeControlStore) (clock : Clock) (sends : Sends) :
    RuntimeControlStore × Published :=
  let runtimePayload : List UInt8 := [if store.state.effectiveLkasActive then 1 else 0]
  let runtimeControl := if sends.runtimeControl then [runtimePayload] else []
  match buildFrontPacket store clock with
  | .error error => (store, ⟨runtimeControl, [], [], some error⟩)
  | .ok packet =>
    if !sends.front then (store, ⟨runtimeControl, [], [], none⟩)
    else
      match buildRearCommandPacket store clock with
      | .error error => (store, ⟨runtimeControl, [packet], [], some error⟩)
      | .ok rearPacket =>
        if !sends.rear then (store, ⟨runtimeControl, [packet], [], none⟩)
        else
          ({ store with sequence := store.sequence + 1, alive := store.alive + 1 },
            ⟨runtimeControl, [packet], [rearPacket], none⟩)

/-! ### The store as a machine -/

/-- One field that a request changes. -/
inductive Change where
  | requestedLkasEnabled (enabled : Bool)
  | requestedLcaEnabled (enabled : Bool)
  | requestedAccEnabled (enabled : Bool)
  | requestedAebEnabled (enabled : Bool)
  | requestedTurnSignal (turnSignal : Int)
  | requestedDriveCommand (command : String)
  | requestedSteeringCommand (command : String)
  | requestedTargetSpeed (speed : F64)

/-- A request writes one field. -/
def setField (s : RuntimeControlState) : Change → RuntimeControlState
  | .requestedLkasEnabled enabled => { s with requestedLkasEnabled := enabled }
  | .requestedLcaEnabled enabled => { s with requestedLcaEnabled := enabled }
  | .requestedAccEnabled enabled => { s with requestedAccEnabled := enabled }
  | .requestedAebEnabled enabled => { s with requestedAebEnabled := enabled }
  | .requestedTurnSignal turnSignal => { s with requestedTurnSignal := turnSignal }
  | .requestedDriveCommand command => { s with requestedDriveCommand := command }
  | .requestedSteeringCommand command => { s with requestedSteeringCommand := command }
  | .requestedTargetSpeed speed => { s with requestedTargetSpeed := speed }

/-- A request writes its fields and publishes. -/
def update (store : RuntimeControlStore) (changes : List Change) (clock : Clock) (sends : Sends) :
    RuntimeControlStore × Published :=
  publishRuntimeControl { store with state := recomputeEffective (changes.foldl setField store.state) } clock sends

/-- What the threads of the server do with the store. -/
inductive StoreEvent where
  | update (changes : List Change) (clock : Clock) (sends : Sends)
  | publish (clock : Clock) (sends : Sends)
  | front (data : List UInt8)
  | rear (data : List UInt8)

def nothingPublished : Published := ⟨[], [], [], none⟩

/-- The store under its lock, one event after another. -/
def runtimeStore : Machine RuntimeControlStore StoreEvent Published where
  step store
    | .update changes clock sends => update store changes clock sends
    | .publish clock sends => publishRuntimeControl store clock sends
    | .front data => ({ store with state := receiveFront store.state data }, nothingPublished)
    | .rear data => ({ store with state := receiveRear store.state data }, nothingPublished)

end SelfDriving.Hpvc
