import SelfDriving.Foundations.Machine
import SelfDriving.Foundations.PythonText
import SelfDriving.Hpvc.SteeringPacket

/-! The remote controller of the bench: HTTP requests change the drive state, and
each of them, like the periodic publisher, sends a steering packet to FRONT and a
drive packet to REAR. Requests and publishes take one lock, so each is one step. -/
namespace SelfDriving.Hpvc.Remote
open Ieee754 Python Bytes

/-- What is asked of the drive. -/
inductive DriveCommand where
  | stop
  | forward
  | reverse
  deriving DecidableEq

/-- What is asked of the steering. -/
inductive SteeringCommand where
  | straight
  | left
  | right
  deriving DecidableEq

/-- What was commanded last, with the counters of the packets. -/
structure RemoteControlState where
  driveCommand : DriveCommand
  steeringCommand : SteeringCommand
  targetSpeedMps : F64
  emergencyStop : Bool
  sequence : UInt32
  aliveCount : UInt16
  sentFrontPackets : Nat
  sentRearPackets : Nat
  lastError : Option String

/-- What the controller is started with. -/
structure Config where
  steerRad : F64
  maxSpeedMps : F64
  /-- There is a broadcast address that steering packets go to as well. -/
  broadcast : Bool

/-- The limits as the constructor takes them: their sign and too small a speed are corrected. -/
def configure (steerRad maxSpeedMps : F64) (broadcast : Bool) : Config where
  steerRad := { steerRad with neg := false }
  maxSpeedMps := Python.max (0.01 : F64) maxSpeedMps
  broadcast := broadcast

/-- The state before the first packets; `monotonicMs` is the clock. -/
def start (monotonicMs : Nat) : RemoteControlState where
  driveCommand := .stop
  steeringCommand := .straight
  targetSpeedMps := 0.30
  emergencyStop := false
  sequence := UInt32.ofNat monotonicMs
  aliveCount := 0
  sentFrontPackets := 0
  sentRearPackets := 0
  lastError := none

/-- `str(value)` of a value that is not a string is never a command word. -/
def commandWord : Json → Option String
  | .str value => some (word value)
  | _ => none

/-- Any word that is not known stops. -/
def normalizeDrive (value : Json) : DriveCommand :=
  match commandWord value with
  | none => .stop
  | some normalized =>
    if normalized ∈ ["FWD", "FORWARD", "W"] then .forward
    else if normalized ∈ ["REV", "REVERSE", "BACKWARD", "BACK", "S"] then .reverse
    else .stop

/-- Any word that is not known goes straight. -/
def normalizeSteering (value : Json) : SteeringCommand :=
  match commandWord value with
  | none => .straight
  | some normalized =>
    if normalized ∈ ["LEFT", "L", "A"] then .left
    else if normalized ∈ ["RIGHT", "R", "D"] then .right
    else .straight

/-- A value that is no number counts as zero; an integer past every float raises. -/
def clampSpeed (config : Config) (value : Json) : Except PyError F64 :=
  let clamp := fun speed => Python.max (0.0 : F64) (Python.min config.maxSpeedMps speed)
  match value.toFloat with
  | .ok speed => .ok (clamp speed)
  | .error (.typeError _) | .error (.valueError _) => .ok (clamp 0.0)
  | .error error => .error error

/-! ### Packets -/

/-- An emergency stop steers straight. -/
def steeringAngle (config : Config) (s : RemoteControlState) : F64 :=
  if s.emergencyStop then 0.0
  else
    match s.steeringCommand with
    | .left => config.steerRad
    | .right => -config.steerRad
    | .straight => 0.0

/-- The packet for FRONT; under an emergency stop it centers. -/
def packFrontSteering (config : Config) (s : RemoteControlState) (clock : Clock)
    (emergencyCenter : Bool) : Except PyError (List UInt8) :=
  if emergencyCenter then
    packHpsc hpscControlDisabled hpscFlagEmergencyCenter s.sequence clock.us 0.0 2.0 s.aliveCount
  else
    let steeringValid := !s.emergencyStop
    let controlMode := if steeringValid then hpscControlSteeringAngle else hpscControlDisabled
    let flags :=
      hpscFlagUpstreamValid ||| (if steeringValid then hpscFlagSteeringValid else hpscFlagEmergencyCenter)
    packHpsc controlMode flags s.sequence clock.us (steeringAngle config s) 2.0 s.aliveCount

/-- The directions as REAR numbers them. -/
def driveDirection : DriveCommand → UInt8
  | .stop => 0
  | .forward => 1
  | .reverse => 2

/-- The drive packet, once its speed is packed; bytes that are not written are zero. -/
def rearDrivePacket (s : RemoteControlState) (clock : Clock) (speed : F32) : List UInt8 :=
  leBytes 2 0x4850 ++ [1, 0x43] ++ leBytes 2 12 ++ leBytes 2 s.sequence.toNat ++ leBytes 4 clock.ms ++
    [0, 0, 0, 0] ++ [0, driveDirection s.driveCommand, 0, 0] ++ singleBytes speed ++
    singleBytes (0.0 : F32) ++ [if s.emergencyStop then 1 else 0, 0, 0, 0]

/-- The packet for REAR; without a direction there is no speed. -/
def packRearDrive (s : RemoteControlState) (clock : Clock) : Except PyError (List UInt8) :=
  let speed := if s.driveCommand = .stop then 0.0 else s.targetSpeedMps
  match packSingle speed with
  | .ok speed => .ok (rearDrivePacket s clock speed)
  | .error error => .error error

/-- The sends of one publish that raise an OS error, with its text. -/
structure Sends where
  front : Option String
  broadcast : Option String
  rear : Option String

/-- What went out to each address, and the exception that left the publish. -/
structure Published where
  front : List (List UInt8)
  broadcast : List (List UInt8)
  rear : List (List UInt8)
  error : Option PyError

/-- Before a publish has sent anything. -/
def nothingSent : Published := ⟨[], [], [], none⟩

/-- A publish sends to FRONT and then to REAR. What fails leaves the rest out, the counters included. -/
def publish (config : Config) (s : RemoteControlState) (clock : Clock) (sends : Sends) :
    RemoteControlState × Published :=
  match packFrontSteering config s clock false with
  | .error error => (s, ⟨[], [], [], some error⟩)
  | .ok packet =>
    match sends.front with
    | some text => ({ s with lastError := some text }, nothingSent)
    | none =>
      match if config.broadcast then sends.broadcast else none with
      | some text => ({ s with lastError := some text }, ⟨[packet], [], [], none⟩)
      | none =>
        let broadcast := if config.broadcast then [packet] else []
        match packRearDrive s clock with
        | .error error => (s, ⟨[packet], broadcast, [], some error⟩)
        | .ok rearPacket =>
          match sends.rear with
          | some text => ({ s with lastError := some text }, ⟨[packet], broadcast, [], none⟩)
          | none =>
            ({ s with
                sentFrontPackets := s.sentFrontPackets + 1
                sentRearPackets := s.sentRearPackets + 1
                sequence := s.sequence + 1
                aliveCount := s.aliveCount + 1
                lastError := none },
              ⟨[packet], broadcast, [rearPacket], none⟩)

/-! ### Resynchronisation -/

/-- Four steps of this width go once around the sequence numbers. -/
def frontSequenceResyncStep : UInt32 := 0x40000000

/-- The sends from one index on, each with its clock: the state they leave, what goes out,
and whether the loop came to its end. -/
def resyncLoop (config : Config) (baseSequence : UInt32) (s : RemoteControlState) (index : UInt32) :
    List (Clock × Sends) → RemoteControlState × Published × Bool
  | [] => (s, nothingSent, true)
  | (clock, sends) :: rest =>
    let s := { s with sequence := baseSequence + frontSequenceResyncStep * index }
    match packFrontSteering config s clock false with
    | .error error => (s, ⟨[], [], [], some error⟩, false)
    | .ok packet =>
      match sends.front with
      | some text => ({ s with lastError := some text }, nothingSent, false)
      | none =>
        match if config.broadcast then sends.broadcast else none with
        | some text => ({ s with lastError := some text }, ⟨[packet], [], [], none⟩, false)
        | none =>
          let broadcast := if config.broadcast then [packet] else []
          let s := { s with
            aliveCount := s.aliveCount + 1
            sentFrontPackets := s.sentFrontPackets + 1 }
          let (s, later, ended) := resyncLoop config baseSequence s (index + 1) rest
          (s, ⟨packet :: later.front, broadcast ++ later.broadcast, [], later.error⟩, ended)

/-- Four packets a quarter of the number range apart, sent with the vehicle stopped and
the wheels straight; the commands are as before when it is over. -/
def resyncFrontSequence (config : Config) (s : RemoteControlState) (first second third fourth : Clock × Sends) :
    RemoteControlState × Published :=
  let baseSequence := s.sequence &&& (frontSequenceResyncStep - 1)
  let stopped := { s with driveCommand := .stop, steeringCommand := .straight, emergencyStop := false }
  let (t, published, ended) := resyncLoop config baseSequence stopped 0 [first, second, third, fourth]
  let t := if ended then { t with sequence := baseSequence + frontSequenceResyncStep * 3 + 1 } else t
  ({ t with
      driveCommand := s.driveCommand
      steeringCommand := s.steeringCommand
      emergencyStop := s.emergencyStop }, published)

/-! ### Commands -/

/-! A command writes the fields that it has a value for, in this order. -/

/-- What a request leaves out stays as it is. -/
def setDrive (value : Json) (s : RemoteControlState) : RemoteControlState :=
  if value.isNone then s else { s with driveCommand := normalizeDrive value }

def setSteering (value : Json) (s : RemoteControlState) : RemoteControlState :=
  if value.isNone then s else { s with steeringCommand := normalizeSteering value }

def setSpeed (config : Config) (value : Json) (s : RemoteControlState) : Except PyError RemoteControlState :=
  if value.isNone then .ok s
  else
    match clampSpeed config value with
    | .error error => .error error
    | .ok speed => .ok { s with targetSpeedMps := speed }

def setEmergency (value : Option Bool) (s : RemoteControlState) : RemoteControlState :=
  match value with
  | none => s
  | some false => { s with emergencyStop := false }
  | some true => { s with emergencyStop := true, driveCommand := .stop, steeringCommand := .straight }

/-- The state that a command leaves; an exception keeps what was written before it. -/
def setCommand (config : Config) (s : RemoteControlState) (drive steering speed : Json)
    (emergencyStop : Option Bool) : RemoteControlState × Option PyError :=
  let s := setSteering steering (setDrive drive s)
  match setSpeed config speed s with
  | .error error => (s, some error)
  | .ok s => (setEmergency emergencyStop s, none)

/-- A command: the fields in their order, of which only the speed can raise, and then a publish. -/
def command (config : Config) (s : RemoteControlState) (drive steering speed : Json)
    (emergencyStop : Option Bool) (clock : Clock) (sends : Sends) :
    RemoteControlState × Published :=
  match setCommand config s drive steering speed emergencyStop with
  | (s, some error) => (s, ⟨[], [], [], some error⟩)
  | (s, none) => publish config s clock sends

/-- A stop, which may clear the emergency stop, and a publish. -/
def stop (config : Config) (s : RemoteControlState) (clearEmergency : Bool) (clock : Clock)
    (sends : Sends) : RemoteControlState × Published :=
  let s := { s with driveCommand := .stop, steeringCommand := .straight }
  let s := if clearEmergency then { s with emergencyStop := false } else s
  publish config s clock sends

/-! ### Requests -/

/-- The two servers that can stand before the controller. -/
inductive HttpApp where
  | flask
  | fallback
  deriving DecidableEq

/-- The paths of the requests; any other changes nothing. -/
inductive Route where
  | control
  | stop
  | estop
  | reset
  | other
  deriving DecidableEq

/-- The fields of a body; one that cannot be parsed has none. -/
def readPayload (app : HttpApp) (body : Option Json) : Except PyError (List (String × Json)) :=
  match app, body with
  | _, none => .ok []
  | _, some (.object fields) => .ok fields
  | .fallback, some _ => .ok []
  | .flask, some value =>
    if value.truthy then .error (.attributeError ("'" ++ value.typeName ++ "' object has no attribute 'get'"))
    else .ok []

/-- What a request does to the controller: its body may not be readable. -/
def post (app : HttpApp) (config : Config) (s : RemoteControlState) (route : Route) (body : Option Json)
    (clock : Clock) (sends : Sends) : RemoteControlState × Published :=
  match route with
  | .control =>
    match readPayload app body with
    | .error error => (s, ⟨[], [], [], some error⟩)
    | .ok payload =>
      command config s (Json.get payload "drive_command") (Json.get payload "steering_command")
        (Json.get payload "target_speed_mps") (some false) clock sends
  | .stop => stop config s true clock sends
  | .estop => command config s .null .null .null (some true) clock sends
  | .reset => stop config s true clock sends
  | .other => (s, nothingSent)

/-- A request, or the turn of the periodic publisher. -/
inductive Event where
  | post (route : Route) (body : Option Json) (clock : Clock) (sends : Sends)
  | publish (clock : Clock) (sends : Sends)

/-- Requests and publishes one after another, under the lock. -/
def controller (app : HttpApp) (config : Config) : Machine RemoteControlState Event Published where
  step s
    | .post route body clock sends => post app config s route body clock sends
    | .publish clock sends => publish config s clock sends

end SelfDriving.Hpvc.Remote
