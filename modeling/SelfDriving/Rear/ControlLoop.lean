import SelfDriving.Foundations.Machine
import SelfDriving.Rear.DriveCommand

/-! The control loop of the REAR controller. Emergency braking comes before everything
else, remote driving sets the duty from the speed alone, and what is neither follows an
acceleration with a feed-forward and a PI controller. -/
namespace SelfDriving.Rear

/-- The modes and directions of a command. -/
def modeManual : UInt8 := 0
def modeAcc : UInt8 := 1
def modeAeb : UInt8 := 2

def dirStop : UInt8 := 0
def dirRev : UInt8 := 2

/-- The direction bits of the two channels when the vehicle goes forward. -/
def chaFwdBit : Int := 1
def chbFwdBit : Int := 0

/-- What a motor channel is told. -/
inductive Channel where
  | mov (duty dir : Int)
  | coast
  | brake (duty : Int)
  deriving DecidableEq

/-- The two channels of the motor driver. -/
structure Motors where
  chA : Channel
  chB : Channel
  deriving DecidableEq

/-- What the loop tells the first core about a period. -/
structure TelemFrame (α : Type) where
  vRef : α
  vMeas : α
  u : α
  aCmd : α
  iTerm : α

/-- What the loop keeps from one period to the next. -/
structure LoopState (α : Type) where
  vRef : α
  iTerm : α
  brakeMode : UInt8
  prevMode : UInt8

/-- What one period puts out: the measured speed, the motors and the telemetry. -/
structure LoopOutput (α : Type) where
  speed : α
  motors : Motors
  telem : TelemFrame α

section
variable {α : Type} [FloatingMath α]

/-- The period in seconds. -/
def dt : α := (5.0 : α) * 0.001
def aCmdMax : α := 4.0
def wheelRadius : α := 0.0325
def encSpeedToMps : α := wheelRadius
/-- The duty in percent for a meter per second. -/
def ffSpeedSlope : α := 74.94
/-- The duty in percent below which the motor stands. -/
def ffDeadzone : α := 15.0
def uEps : α := 0.01
def vehMass : α := 3.0
def gearRatio : α := 31.0
def ktMotor : α := 0.012
def rMotor : α := 1.4
def vBatt : α := 11.0
def rhoCda : α := 0.0
def vMax : α := 1.1
def dutyMax : α := 1.0
def dutyMin : α := -(1.0 : α)
def brakeTh : α := 0.30
def modeHyst : α := 0.05
def vBrakeMin : α := 0.05
def pwmDutyFull : α := 100.0
def kp : α := 0.5
def ki : α := 2.0
def kaw : α := 10.0

/-- The static variables at boot. -/
def loopStart : LoopState α := ⟨0.0, 0.0, 0, modeAcc⟩

/-- The feed-forward: the duty for a speed and for the force of an acceleration. -/
def inverseModel (aCmd vRef : α) : α :=
  let uSpeed := ffSpeedSlope * vRef / (100.0 : α)
  let F := vehMass * aCmd + rhoCda * vRef * vRef
  let tMotor := F * wheelRadius / gearRatio
  let i := tMotor / ktMotor
  let uAccel := i * rMotor / vBatt
  uSpeed + uAccel

/-- The value between two bounds; a NaN stays one. -/
def clampf (x lo hi : α) : α := if x < lo then lo else if x > hi then hi else x

/-! ### Outputs -/

/-- Both channels at a duty, forward or back. -/
def drivePwm (duty : Int) (fwd : Bool) : Motors where
  chA := .mov duty (if fwd then chaFwdBit else 1 - chaFwdBit)
  chB := .mov duty (if fwd then chbFwdBit else 1 - chbFwdBit)

/-- Both channels without drive, or braked in full. -/
def coastBoth : Motors := ⟨.coast, .coast⟩

def brakeBoth : Motors := ⟨.brake 100, .brake 100⟩

/-- The duty of a speed that the remote control asks for. -/
def manualSpeedToDuty (vCmd : α) : α :=
  let vCmd := clampf vCmd 0.0 vMax
  let u := ffSpeedSlope * vCmd / (100.0 : α)
  clampf u 0.0 dutyMax

/-- The duty in percent, with what the motor needs to start at all. -/
def compensatedDuty (u : α) : Int :=
  let uComp := if u > uEps then u + ffDeadzone / (100.0 : α) else u
  FloatingMath.toInt (clampf uComp 0.0 1.0 * pwmDutyFull)

/-- The brake mode and the motors. -/
def applyOutput (u vMeas : α) (brakeMode : UInt8) : UInt8 × Motors :=
  if u ≥ (0.0 : α) then (brakeMode, drivePwm (compensatedDuty u) true)
  else
    let mag := -u
    if vMeas < vBrakeMin then (brakeMode, coastBoth)
    else
      let brakeMode : UInt8 :=
        if mag > brakeTh + modeHyst then 1 else if mag < brakeTh - modeHyst then 0 else brakeMode
      (brakeMode, if brakeMode = 1 then brakeBoth else coastBoth)

/-! ### The loop -/

/-- The start of an acceleration; the brake mode stays. -/
def accResetState (s : LoopState α) : LoopState α := { s with vRef := 0.0, iTerm := 0.0 }

/-- The part of the loop that brakes, whatever the mode. -/
def brakeStep (cmd : DriveCmd α) (vMeas : α) (s : LoopState α) : LoopState α × LoopOutput α :=
  ({ accResetState s with brakeMode := 1, prevMode := cmd.controlMode },
    ⟨vMeas, brakeBoth, ⟨0.0, vMeas, 0.0, 0.0, 0.0⟩⟩)

/-- A period under the remote control. -/
def manualStep (cmd : DriveCmd α) (vMeas : α) (s : LoopState α) : LoopState α × LoopOutput α :=
  let s := if s.prevMode ≠ modeManual then accResetState s else s
  let s := { s with prevMode := modeManual }
  let vCmd := if FloatingMath.isFinite cmd.targetSpeed then cmd.targetSpeed else 0.0
  if cmd.driveDirection = dirStop then (s, ⟨vMeas, coastBoth, ⟨0.0, vMeas, 0.0, 0.0, 0.0⟩⟩)
  else
    let u := manualSpeedToDuty vCmd
    let fwd := !(cmd.driveDirection = dirRev)
    let vShow := if cmd.driveDirection = dirRev then -(clampf vCmd 0.0 vMax) else clampf vCmd 0.0 vMax
    (s, ⟨vMeas, drivePwm (compensatedDuty u) fwd, ⟨vShow, vMeas, u, 0.0, 0.0⟩⟩)

/-- A period that follows an acceleration. -/
def accStep (cmd : DriveCmd α) (vMeas : α) (s : LoopState α) : LoopState α × LoopOutput α :=
  let s := if s.prevMode ≠ modeAcc then accResetState s else s
  let aCmd := if FloatingMath.isFinite cmd.accelCmd then cmd.accelCmd else 0.0
  let aCmd := clampf aCmd (-aCmdMax) aCmdMax
  let vRef := clampf (s.vRef + aCmd * dt) 0.0 vMax
  let freezeI := vRef ≤ (0.0 : α)
  let e := vRef - vMeas
  let uFf := inverseModel aCmd vRef
  let uUnsat := uFf + kp * e + s.iTerm
  let u := clampf uUnsat dutyMin dutyMax
  let iTerm := if freezeI then (0.0 : α) else s.iTerm + (ki * e + kaw * (u - uUnsat)) * dt
  let (brakeMode, motors) := applyOutput u vMeas s.brakeMode
  (⟨vRef, iTerm, brakeMode, modeAcc⟩, ⟨vMeas, motors, ⟨vRef, vMeas, u, aCmd, iTerm⟩⟩)

/-- The encoder's speed along the road. -/
def measuredSpeed (speed : α) : α :=
  let vMeas := speed * encSpeedToMps
  if FloatingMath.isFinite vMeas then vMeas else 0.0

/-- One period; `speed` is the encoder's. -/
def controlLoop (speed : α) (cmd : DriveCmd α) (s : LoopState α) : LoopState α × LoopOutput α :=
  let vMeas := measuredSpeed speed
  if cmd.controlMode = modeAeb || cmd.emergencyStop ≠ 0 then brakeStep cmd vMeas s
  else if cmd.controlMode = modeManual then manualStep cmd vMeas s
  else accStep cmd vMeas s

/-- What one period takes: the encoder's speed and the command. -/
structure LoopInput (α : Type) where
  speed : α
  cmd : DriveCmd α

variable (α) in
/-- The second core, one period after another. -/
def cpu1 : Machine (LoopState α) (LoopInput α) (LoopOutput α) where
  step s input := controlLoop input.speed input.cmd s

end
end SelfDriving.Rear
