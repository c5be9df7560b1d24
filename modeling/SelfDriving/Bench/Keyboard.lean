import SelfDriving.Hpvc.SteeringPacket

/-! The two bench tools that steer the FRONT controller from the keyboard. They differ in their keys and
in how they close a session; the packets, their numbers and when they are sent are the same. A session
is what happens in one turn of the loop after another: it ends with a key, with an exception, or when
it is interrupted, and then the closing packets are sent. -/
namespace SelfDriving.Bench
open Ieee754 Python Hpvc

/-- What a tool steers, with the counters of its packets. -/
structure SteeringState where
  angleRad : F64
  sequence : UInt32
  alive : UInt16
  armed : Bool

/-- The one tool clamps whatever it has, the other refuses what is not finite. -/
def clamp (value minValue maxValue : F64) : F64 := Python.max minValue (Python.min maxValue value)

def clampAngle (angleRad maxAbsRad : F64) : Except PyError F64 :=
  if !angleRad.isFinite then .error (.valueError "angle must be finite")
  else .ok (Python.max (-maxAbsRad) (Python.min maxAbsRad angleRad))

/-- The packet of either tool; an emergency center asks for no angle. -/
def packSteering (sequence : UInt32) (timestampUs : UInt64) (angleRad maxRateRadS : F64) (aliveCount : UInt16)
    (steeringValid emergencyCenter : Bool) : Except PyError (List UInt8) :=
  let flags := if steeringValid then hpscFlagSteeringValid ||| hpscFlagUpstreamValid else 0
  let controlMode := if steeringValid then hpscControlSteeringAngle else hpscControlDisabled
  if emergencyCenter then
    packHpsc hpscControlDisabled (flags ||| hpscFlagEmergencyCenter) sequence timestampUs 0.0 maxRateRadS aliveCount
  else packHpsc controlMode flags sequence timestampUs angleRad maxRateRadS aliveCount

/-- A packet that went out, with the state that it was made of. -/
structure Sent where
  state : SteeringState
  emergencyCenter : Bool
  packet : List UInt8

/-- The clock when a packet is made, and whether the socket then refuses it. -/
structure Sending where
  us : UInt64
  refused : Bool

/-- A packet counts only when the socket has taken it. -/
def sendPacket (maxRateRadS : F64) (emergencyCenter : Bool) (sending : Sending) (state : SteeringState) :
    Except PyError (SteeringState × Sent) := do
  let angle := if state.armed then state.angleRad else 0.0
  let packet ← packSteering state.sequence sending.us angle maxRateRadS state.alive
    (state.armed && !emergencyCenter) emergencyCenter
  if sending.refused then .error .osError
  else
    return ({ state with sequence := state.sequence + 1, alive := state.alive + 1 }, ⟨state, emergencyCenter, packet⟩)

/-- What a tool does with a key, how it closes a session, and its rates. -/
structure Tool where
  react : String → SteeringState → Except PyError SteeringState
  close : SteeringState → SteeringState
  closing : List Bool
  rateRadS : F64
  periodS : F64

/-- One turn of the loop: the time, the key if one is down, and the sending if one is due. -/
structure Turn where
  now : F64
  key : Option String
  sending : Sending

/-- The keys that end a session. -/
def isQuit (key : Option String) : Bool := key = some "q" || key = some "\x03"

/-- The state and the packets of a loop; it is interrupted when the turns are used up. -/
def runLoop (tool : Tool) : F64 → SteeringState → List Turn → SteeringState × List Sent
  | _, state, [] => (state, [])
  | nextSend, state, turn :: rest =>
    if isQuit turn.key then (state, [])
    else
      match turn.key.elim (.ok state) fun key => tool.react key state with
      | .error _ => (state, [])
      | .ok state =>
        if turn.now ≥ nextSend then
          match sendPacket tool.rateRadS false turn.sending state with
          | .error _ => (state, [])
          | .ok (state, sent) =>
            let (state, later) := runLoop tool (turn.now + tool.periodS) state rest
            (state, sent :: later)
        else runLoop tool nextSend state rest

/-- The closing packets, up to the first that cannot be sent or an interruption. -/
def sendClosing (maxRateRadS : F64) : SteeringState → List (Bool × Sending) → List Sent
  | _, [] => []
  | state, (emergencyCenter, sending) :: rest =>
    match sendPacket maxRateRadS emergencyCenter sending state with
    | .error _ => []
    | .ok (state, sent) => sent :: sendClosing maxRateRadS state rest

/-- All that a session sends. -/
def session (tool : Tool) (start : SteeringState) (turns : List Turn) (closing : List Sending) : List Sent :=
  let (state, sent) := runLoop tool 0.0 start turns
  sent ++ sendClosing tool.rateRadS (tool.close state) (tool.closing.zip closing)

/-! ### The tool for the servo -/

/-- The options of the servo tool. -/
structure ServoArgs where
  hz : F64
  stepRad : F64
  maxAngleRad : F64
  rateRadS : F64
  disarmed : Bool

/-- The arguments that the tool does not refuse. -/
def ServoArgs.accepted (args : ServoArgs) : Bool :=
  !decide (args.hz ≤ (0.0 : F64)) && !decide (args.stepRad ≤ (0.0 : F64)) && !decide (args.maxAngleRad ≤ (0.0 : F64)) &&
    !(!args.rateRadS.isFinite || decide (args.rateRadS ≤ (0.0 : F64)))

/-- What a key does to the state. -/
def servoReact (args : ServoArgs) (key : String) (state : SteeringState) : SteeringState :=
  if key = " " then { state with armed := !state.armed }
  else if key = "a" || key = "left" then
    { state with angleRad := clamp (state.angleRad + args.stepRad) (-args.maxAngleRad) args.maxAngleRad }
  else if key = "d" || key = "right" then
    { state with angleRad := clamp (state.angleRad - args.stepRad) (-args.maxAngleRad) args.maxAngleRad }
  else if key = "s" || key = "down" || key = "2" then { state with angleRad := 0.0 }
  else if key = "1" then { state with angleRad := args.maxAngleRad }
  else if key = "3" then { state with angleRad := -args.maxAngleRad }
  else state

/-- It closes with armed packets to the center before the emergency ones. -/
def servoTool (args : ServoArgs) : Tool where
  react key state := .ok (servoReact args key state)
  close state := { state with angleRad := 0.0, armed := true }
  closing := List.replicate 5 false ++ List.replicate 3 true
  rateRadS := args.rateRadS
  periodS := (1.0 : F64) / args.hz

def servoStart (args : ServoArgs) (sequence : UInt32) : SteeringState := ⟨0.0, sequence, 0, !args.disarmed⟩

/-! ### The interactive tool for sensors and steering -/

/-- The options of the interactive tool. -/
structure InteractiveArgs where
  hz : F64
  angleStepRad : F64
  maxAngleRad : F64
  rateRadS : F64
  arm : Bool

def InteractiveArgs.accepted (args : InteractiveArgs) : Bool :=
  !decide (args.hz ≤ (0.0 : F64)) && !decide (args.angleStepRad ≤ (0.0 : F64))

def interactiveReact (args : InteractiveArgs) (key : String) (state : SteeringState) : Except PyError SteeringState := do
  if key = " " then return { state with armed := !state.armed }
  else if key = "a" || key = "left" then
    return { state with angleRad := ← clampAngle (state.angleRad + args.angleStepRad) args.maxAngleRad }
  else if key = "d" || key = "right" then
    return { state with angleRad := ← clampAngle (state.angleRad - args.angleStepRad) args.maxAngleRad }
  else if key = "s" || key = "down" then return { state with angleRad := 0.0 }
  else return state

/-- It closes with emergency packets alone. -/
def interactiveTool (args : InteractiveArgs) : Tool where
  react := interactiveReact args
  close state := { state with angleRad := 0.0 }
  closing := List.replicate 5 true
  rateRadS := args.rateRadS
  periodS := (1.0 : F64) / args.hz

def interactiveStart (args : InteractiveArgs) (sequence : UInt32) : SteeringState := ⟨0.0, sequence, 0, args.arm⟩

end SelfDriving.Bench
