import SelfDriving.Foundations.Crc32
import SelfDriving.Foundations.Floating
import SelfDriving.Foundations.Machine
import SelfDriving.Foundations.Memory
import SelfDriving.Foundations.SerialNumber

/-! The steering command receiver of the FRONT controller: it checks HPSC
packets, follows the newest accepted target at a limited rate and returns to
center when the link goes quiet. The number type is a parameter, so that one
text serves the float32 the controller computes with and any exact reading. -/
namespace SelfDriving.Front
open Ieee754

def hpscPacketSize : Nat := 40
def hpscHeaderSize : UInt8 := 32
def hpscVersion : UInt8 := 1
def hpscControlDisabled : UInt8 := 0
def hpscControlSteeringAngle : UInt8 := 1
def hpscFlagSteeringValid : UInt8 := 1
def hpscFlagEmergencyCenter : UInt8 := 2
def hpscFlagUpstreamValid : UInt8 := 4

def steeringUdpPort : UInt16 := 5100
def steeringWatchdogMs : UInt32 := 200
def servoLeftPulseUs : UInt32 := 1150
def servoCenterPulseUs : UInt32 := 1650
def servoRightPulseUs : UInt32 := 2000
def servoMinPulseUs : UInt32 := servoLeftPulseUs
def servoMaxPulseUs : UInt32 := servoRightPulseUs
def servoPeriodUs : UInt32 := 20000

section
variable {α : Type} [Floating α]

/-- The greatest angle to either side. -/
def steeringMaxAbsRad : α := 0.50
def steeringDefaultMaxRateRadS : α := 1.00

/-- What the node knows: the target and how it got it, the angle it stands at, and its counts. -/
structure State (α : Type) where
  initialized : Bool
  linkValid : Bool
  commandValid : Bool
  emergencyCenter : Bool
  targetAngleRad : α
  appliedAngleRad : α
  maxRateRadS : α
  lastSequence : UInt32
  lastPacketMs : UInt32
  lastApplyMs : UInt32
  acceptedPackets : UInt32
  rejectedPackets : UInt32

/-- Milliseconds from the lower word of the system timer. -/
def nowMs (stmFrequency : α) (ticks : UInt32) : UInt32 :=
  Floating.toUInt32 (Floating.ofUInt32 ticks * (1000.0 : α) / stmFrequency)

/-! ### Reading packet bytes -/

/-- Two bytes, the lower one first. -/
def readU16Le (bytes : Memory) (offset : Nat) : UInt16 :=
  (bytes (offset + 1)).toUInt16 <<< 8 ||| (bytes offset).toUInt16

/-- Two bytes, the higher one first. -/
def readU16Be (bytes : Memory) (offset : Nat) : UInt16 :=
  (bytes offset).toUInt16 <<< 8 ||| (bytes (offset + 1)).toUInt16

/-- Four bytes, the lowest one first. -/
def readU32Le (bytes : Memory) (offset : Nat) : UInt32 :=
  (bytes offset).toUInt32 ||| (bytes (offset + 1)).toUInt32 <<< 8 |||
    (bytes (offset + 2)).toUInt32 <<< 16 ||| (bytes (offset + 3)).toUInt32 <<< 24

/-- Four bytes as a single-precision number. -/
def readFloat32Le (bytes : Memory) (offset : Nat) : α :=
  Floating.ofSingle (Ieee.ofBits (readU32Le bytes offset).toNat)

/-- Between the largest finite numbers, which are left out themselves. -/
def isFiniteFloat (value : α) : Bool :=
  value == value && value < (3.402823466e38 : α) && value > -(3.402823466e38 : α)

def absFloat (value : α) : α := if value < (0.0 : α) then -value else value

/-- The value between two bounds; a NaN stays one. -/
def clampFloat (value minValue maxValue : α) : α :=
  if value < minValue then minValue else if value > maxValue then maxValue else value

/-- The order of the numbers around their turn. -/
def sequenceNewer (candidate reference : UInt32) : Bool := SerialNumber.newer candidate reference

/-- The CRC of the first bytes of a memory. -/
def crc32Ieee (data : Memory) (length : Nat) : UInt32 := Crc32.crc32 (data.bytes length)

/-! ### The servo -/

/-- One period of the servo signal. -/
structure Pulse where
  highUs : UInt32
  lowUs : UInt32
  deriving DecidableEq

/-- The pulse of an angle; the two sides have spans of their own. -/
def angleToPulseUs (angleRad : α) : UInt32 :=
  let normalized := clampFloat (angleRad / steeringMaxAbsRad) (-(1.0 : α)) 1.0
  if normalized ≥ (0.0 : α) then
    let span : α := Floating.ofUInt32 (servoCenterPulseUs - servoLeftPulseUs)
    servoCenterPulseUs - Floating.toUInt32 (normalized * span + (0.5 : α))
  else
    let span : α := Floating.ofUInt32 (servoRightPulseUs - servoCenterPulseUs)
    servoCenterPulseUs + Floating.toUInt32 (-normalized * span + (0.5 : α))

variable (α) in
/-- A pulse within the limits of the servo. -/
def sendServoPulseUs (pulseUs : UInt32) : Pulse :=
  let pulseUs := Floating.toUInt32 (clampFloat (Floating.ofUInt32 pulseUs : α)
    (Floating.ofUInt32 servoMinPulseUs) (Floating.ofUInt32 servoMaxPulseUs))
  ⟨pulseUs, servoPeriodUs - pulseUs⟩

/-- The pulse that drives the servo to an angle. -/
def applyServoAngle (angleRad : α) : Pulse := sendServoPulseUs α (angleToPulseUs angleRad)

/-- The pulses that hold the present angle, one at least. -/
def holdCurrentForMs (s : State α) (holdMs : UInt32) : List Pulse :=
  let pulseCount := (holdMs * 1000 + servoPeriodUs - 1) / servoPeriodUs
  let pulseCount := if pulseCount = 0 then 1 else pulseCount
  List.replicate pulseCount.toNat (applyServoAngle s.appliedAngleRad)

/-! ### Accepting packets -/

/-- A refusal that is counted. -/
def rejectPacket (s : State α) : State α := { s with rejectedPackets := s.rejectedPackets + 1 }

/-- An accepted packet sets the target, or the center without a valid command. -/
def acceptTarget (sequence : UInt32) (angleRad maxRateRadS : α) (commandValid emergencyCenter : Bool)
    (nowMs : UInt32) (s : State α) : State α :=
  let commandValid := commandValid && !emergencyCenter
  { s with
    initialized := true
    lastSequence := sequence
    lastPacketMs := nowMs
    maxRateRadS := clampFloat maxRateRadS (0.05 : α) (10.0 : α)
    emergencyCenter := emergencyCenter
    commandValid := commandValid
    linkValid := true
    targetAngleRad :=
      if commandValid then clampFloat angleRad (-(steeringMaxAbsRad : α)) steeringMaxAbsRad else (0.0 : α)
    acceptedPackets := s.acceptedPackets + 1 }

/-- The four bytes that start a packet. -/
def hasMagic (bytes : Memory) : Bool :=
  bytes 0 = 0x48 && bytes 1 = 0x50 && bytes 2 = 0x53 && bytes 3 = 0x43

/-- The packet check and what an accepted packet does; false is a refusal. A
packet that is not newer is refused without being counted. -/
def acceptHpscPacket (payload : Option Memory) (length : Nat) (nowMs : UInt32) (s : State α) :
    Bool × State α :=
  match payload with
  | none => (false, rejectPacket s)
  | some payload =>
    if length ≠ hpscPacketSize then (false, rejectPacket s)
    else if !hasMagic payload then (false, rejectPacket s)
    else
      let version := payload 4
      let controlMode := payload 5
      let flags := payload 6
      let headerSize := payload 7
      let sequence := readU32Le payload 8
      let angleRad : α := readFloat32Le payload 20
      let maxRateRadS : α := readFloat32Le payload 24
      let reserved16 := readU16Le payload 30
      let reserved32 := readU32Le payload 32
      let receivedCrc := readU32Le payload 36
      let calculatedCrc := crc32Ieee payload 36
      if version ≠ hpscVersion || headerSize ≠ hpscHeaderSize || reserved16 ≠ 0 || reserved32 ≠ 0 ||
          receivedCrc ≠ calculatedCrc then (false, rejectPacket s)
      else if s.initialized && !sequenceNewer sequence s.lastSequence then (false, s)
      else
        let emergencyCenter : Bool := flags &&& hpscFlagEmergencyCenter ≠ 0
        let steeringValid : Bool := flags &&& hpscFlagSteeringValid ≠ 0
        let upstreamValid : Bool := flags &&& hpscFlagUpstreamValid ≠ 0
        let commandValid := steeringValid && upstreamValid && controlMode = hpscControlSteeringAngle &&
          isFiniteFloat angleRad && isFiniteFloat maxRateRadS &&
          absFloat angleRad ≤ (steeringMaxAbsRad : α) && maxRateRadS > (0.0 : α)
        if emergencyCenter then
          (true, acceptTarget sequence 0.0 steeringDefaultMaxRateRadS false true nowMs s)
        else if !commandValid then
          if controlMode = hpscControlDisabled then
            (true, acceptTarget sequence 0.0 steeringDefaultMaxRateRadS false false nowMs s)
          else (false, rejectPacket s)
        else (true, acceptTarget sequence angleRad maxRateRadS true false nowMs s)

/-- The packet behind a UDP header, when the header is addressed to the node. -/
def acceptUdpPayload (udp : Memory) (nowMs : UInt32) (s : State α) : Bool × State α :=
  if readU16Be udp 2 = steeringUdpPort && (readU16Be udp 4).toNat ≥ 8 + hpscPacketSize then
    acceptHpscPacket (some (udp.drop 8)) hpscPacketSize nowMs s
  else (false, s)

/-- The length of the IPv4 header. -/
def ihlBytes (ip : Memory) : Nat := ((ip 0 &&& 0x0F) * 4).toNat

/-- The first path: an IPv4 datagram behind an Ethernet header. -/
def acceptEthernetIpv4 (frame : Memory) (length : Nat) (nowMs : UInt32) (s : State α) : Bool × State α :=
  let ip := frame.drop 14
  let totalLength := (readU16Be ip 2).toNat
  if readU16Be frame 12 = 0x0800 && ip 0 >>> 4 = 4 && ihlBytes ip ≥ 20 && ip 9 = 17 &&
      totalLength ≥ ihlBytes ip + 8 + hpscPacketSize && 14 + totalLength ≤ length then
    acceptUdpPayload (ip.drop (ihlBytes ip)) nowMs s
  else (false, s)

/-- The second path: an IPv4 datagram at the start of the buffer. -/
def acceptBareIpv4 (frame : Memory) (length : Nat) (nowMs : UInt32) (s : State α) : Bool × State α :=
  if length ≥ 20 + 8 + hpscPacketSize && frame 0 >>> 4 = 4 && frame 9 = 17 && ihlBytes frame ≥ 20 then
    acceptUdpPayload (frame.drop (ihlBytes frame)) nowMs s
  else (false, s)

/-- The third path: the first acceptable packet at any of the offsets. -/
def scanFrame (frame : Memory) (nowMs : UInt32) : List Nat → State α → Bool × State α
  | [], s => (false, s)
  | offset :: rest, s =>
    if hasMagic (frame.drop offset) then
      match acceptHpscPacket (some (frame.drop offset)) hpscPacketSize nowMs s with
      | (true, s) => (true, s)
      | (false, s) => scanFrame frame nowMs rest s
    else scanFrame frame nowMs rest s

/-- A path, and another one when it accepts nothing. -/
def orElse (first second : State α → Bool × State α) (s : State α) : Bool × State α :=
  match first s with
  | (true, s) => (true, s)
  | (false, s) => second s

/-- A received frame through the three paths. -/
def acceptEthernetFrame (frame : Option Memory) (length : UInt16) (nowMs : UInt32) (s : State α) :
    Bool × State α :=
  match frame with
  | none => (false, s)
  | some frame =>
    let length := length.toNat
    if length < hpscPacketSize then (false, s)
    else
      let headers : State α → Bool × State α :=
        if length ≥ 14 + 20 + 8 + hpscPacketSize then
          orElse (acceptEthernetIpv4 frame length nowMs) (acceptBareIpv4 frame length nowMs)
        else fun s => (false, s)
      orElse headers (scanFrame frame nowMs (List.range (length - hpscPacketSize + 1))) s

/-! ### Start and control loop -/

/-- The node when it starts. -/
def init (nowMs : UInt32) : State α where
  initialized := false
  linkValid := false
  commandValid := false
  emergencyCenter := false
  targetAngleRad := (0.0 : α)
  appliedAngleRad := (0.0 : α)
  maxRateRadS := steeringDefaultMaxRateRadS
  lastSequence := 0
  lastPacketMs := 0
  lastApplyMs := nowMs
  acceptedPackets := 0
  rejectedPackets := 0

/-- The watchdog of the control loop. -/
def watchdog (nowMs : UInt32) (s : State α) : State α :=
  let ageMs := nowMs - s.lastPacketMs
  if !s.initialized || ageMs > steeringWatchdogMs then
    { s with linkValid := false, commandValid := false, emergencyCenter := true, targetAngleRad := (0.0 : α) }
  else s

/-- The rate-limited step toward the target. -/
def slew (nowMs : UInt32) (s : State α) : State α :=
  let dtMs := nowMs - s.lastApplyMs
  let maxStep := s.maxRateRadS * (Floating.ofUInt32 dtMs / (1000.0 : α))
  let maxStep := if maxStep < (0.001 : α) then (0.001 : α) else maxStep
  let error := s.targetAngleRad - s.appliedAngleRad
  let error := if error > maxStep then maxStep else if error < -maxStep then -maxStep else error
  { s with
    lastApplyMs := nowMs
    appliedAngleRad := clampFloat (s.appliedAngleRad + error) (-(steeringMaxAbsRad : α)) steeringMaxAbsRad }

/-- A control cycle: the watchdog, a step toward the target, and the pulse. -/
def runOnce (nowMs : UInt32) (s : State α) : State α × Pulse :=
  let s := slew nowMs (watchdog nowMs s)
  (s, applyServoAngle s.appliedAngleRad)

/-- What the node tells the rest of the controller. -/
structure Status (α : Type) where
  linkValid : Bool
  commandValid : Bool
  emergencyCenter : Bool
  targetAngleRad : α
  appliedAngleRad : α
  lastSequence : UInt32
  acceptedPackets : UInt32
  rejectedPackets : UInt32
  lastPacketAgeMs : UInt32

/-- The status at a time. -/
def getStatus (nowMs : UInt32) (s : State α) : Status α where
  linkValid := s.linkValid
  commandValid := s.commandValid
  emergencyCenter := s.emergencyCenter
  targetAngleRad := s.targetAngleRad
  appliedAngleRad := s.appliedAngleRad
  lastSequence := s.lastSequence
  acceptedPackets := s.acceptedPackets
  rejectedPackets := s.rejectedPackets
  lastPacketAgeMs := if s.initialized then nowMs - s.lastPacketMs else 0xFFFFFFFF

/-! ### The node as a component -/

/-- The calls the rest of the controller makes. -/
inductive Call where
  | acceptHpscPacket (payload : Option Memory) (length : UInt16) (nowMs : UInt32)
  | acceptEthernetFrame (frame : Option Memory) (length : UInt16) (nowMs : UInt32)
  | runOnce (nowMs : UInt32)
  | holdCurrentForMs (holdMs : UInt32)

/-- What a call returns or drives. -/
inductive Reply where
  | verdict (accepted : Bool)
  | pulses (pulses : List Pulse)

variable (α) in
/-- The node as a component. -/
def node : Machine (State α) Call Reply where
  step s
    | .acceptHpscPacket payload length nowMs =>
      let (accepted, s) := acceptHpscPacket payload length.toNat nowMs s
      (s, .verdict accepted)
    | .acceptEthernetFrame frame length nowMs =>
      let (accepted, s) := acceptEthernetFrame frame length nowMs s
      (s, .verdict accepted)
    | .runOnce nowMs =>
      let (s, pulse) := runOnce nowMs s
      (s, .pulses [pulse])
    | .holdCurrentForMs holdMs => (s, .pulses (holdCurrentForMs s holdMs))

end
end SelfDriving.Front
