import SelfDriving.Rear.ControlLoop
import SelfDriving.Rear.DriveCommandSharing
import SelfDriving.Rear.Ultrasonic

/-! The three cores of the REAR controller. The first takes datagrams and sends what the others measure,
the second runs the control loop, the third the ultrasonic sensors; each pair of them shares a record in
two slots. A step is one access of one core to what is shared, and the steps come in any order. -/
namespace SelfDriving.Rear
open Ieee754 DoubleBuffer
open Front (Echo Reading)

/-! ### The ultrasonic sensors -/

/-- What the third core leaves for the first. -/
structure AebUltraLmuFrame where
  left : F32
  right : F32
  validMask : UInt8
  deriving DecidableEq

def aebValidUltraLeft : UInt8 := 1
def aebValidUltraRight : UInt8 := 2

/-- The two sensors of the third core. -/
structure UltraSensors where
  left : UltrasonicSensor
  right : UltrasonicSensor

/-- What one loop over the two sensors meets. -/
structure UltraLoop where
  left : Reading Echo
  right : Reading Echo

/-- Distances are kept in millimetres. -/
def ultraMetres (sensor : UltrasonicSensor) : F32 := Ieee.ofUInt32 sensor.filteredCmX10.toUInt32 * (0.001 : F32)

/-- One loop over the sensors, and the frame that it writes. -/
def ultraRunOnce (stmFrequency : F32) (loop : UltraLoop) (s : UltraSensors) : UltraSensors × AebUltraLmuFrame :=
  let (left, leftValid) :=
    ultrasonicUpdate stmFrequency loop.left.outcome loop.left.readTicks loop.left.checkTicks s.left
  let (right, rightValid) :=
    ultrasonicUpdate stmFrequency loop.right.outcome loop.right.readTicks loop.right.checkTicks s.right
  (⟨left, right⟩,
    { left := if leftValid then ultraMetres left else 0.0
      right := if rightValid then ultraMetres right else 0.0
      validMask :=
        (if leftValid then aebValidUltraLeft else 0) ||| (if rightValid then aebValidUltraRight else 0) })

/-! ### What the cores share -/

/-- The fields that are copied one by one. -/
inductive UltraField where
  | left
  | right
  | validMask

inductive TelemField where
  | vRef
  | vMeas
  | u
  | aCmd
  | iTerm

/-- Both cores copy a frame of the sensors in this order. -/
def ultraLayout : Layout AebUltraLmuFrame UltraField where
  fields := [.left, .right, .validMask]
  copy
    | .left, frame, out => { out with left := frame.left }
    | .right, frame, out => { out with right := frame.right }
    | .validMask, frame, out => { out with validMask := frame.validMask }
  complete _ _ := rfl

/-- Both cores copy the telemetry in this order. -/
def telemLayout : Layout (TelemFrame F32) TelemField where
  fields := [.vRef, .vMeas, .u, .aCmd, .iTerm]
  copy
    | .vRef, frame, out => { out with vRef := frame.vRef }
    | .vMeas, frame, out => { out with vMeas := frame.vMeas }
    | .u, frame, out => { out with u := frame.u }
    | .aCmd, frame, out => { out with aCmd := frame.aCmd }
    | .iTerm, frame, out => { out with iTerm := frame.iTerm }
  complete _ _ := rfl

/-- What is read before anything is measured. -/
def ultraZero : AebUltraLmuFrame := ⟨0.0, 0.0, 0⟩

def telemZero : TelemFrame F32 := ⟨0.0, 0.0, 0.0, 0.0, 0.0⟩

/-- What the first core is doing; the rest of it is in what is shared. -/
inductive Core0 where
  | polling
  | writingDriveCmd
  | readingTelem
  | readingUltra (telem : TelemFrame F32)

/-- The second core between its periods, reading the command for one, or writing what it measured. -/
inductive Core1 where
  | waiting
  | readingDriveCmd (speed : F32)
  | writingTelem

/-- The three shared records, what each core is at, and the data that only one core uses. -/
structure BoardState where
  driveCmd : State (DriveCmd F32) DriveCmdField
  telem : State (TelemFrame F32) TelemField
  ultra : State AebUltraLmuFrame UltraField
  core0 : Core0
  core1 : Core1
  pcip : UInt32
  ultraAlive : UInt8
  loop : LoopState F32
  sensors : UltraSensors

/-! ### Packets -/

/-- The status, laid out as it is sent. -/
structure RearHpvcStatusFrame where
  rearLeftM : F32
  rearRightM : F32
  vehicleSpeedMps : F32
  validMask : UInt8
  motorState : UInt8
  aliveCount : UInt8
  reserved : UInt8

def RearHpvcStatusFrame.bytes (frame : RearHpvcStatusFrame) : List UInt8 :=
  Bytes.leBytes 4 frame.rearLeftM.toBits ++ Bytes.leBytes 4 frame.rearRightM.toBits ++
    Bytes.leBytes 4 frame.vehicleSpeedMps.toBits ++
    [frame.validMask, frame.motorState, frame.aliveCount, frame.reserved]

def telemBytes (frame : TelemFrame F32) : List UInt8 :=
  Bytes.leBytes 4 frame.vRef.toBits ++ Bytes.leBytes 4 frame.vMeas.toBits ++ Bytes.leBytes 4 frame.u.toBits ++
    Bytes.leBytes 4 frame.aCmd.toBits ++ Bytes.leBytes 4 frame.iTerm.toBits

/-- The status is made of the telemetry and of the frame read last. -/
def rearStatus (telem : TelemFrame F32) (u : AebUltraLmuFrame) (ultraAlive : UInt8) : RearHpvcStatusFrame where
  rearLeftM := u.left
  rearRightM := u.right
  vehicleSpeedMps := telem.vMeas
  validMask := u.validMask
  motorState := 2
  aliveCount := ultraAlive &&& 0x0F
  reserved := 0

/-! ### The cores -/

/-- What a core does that can be seen from outside, or that another core will read. -/
inductive BoardEvent where
  | received (addr : Option UInt32) (cmd : DriveCmd F32)
  | telemetry (address : UInt32) (packet : List UInt8)
  | status (address : UInt32) (packet : List UInt8)
  | controlled (cmd : DriveCmd F32) (output : LoopOutput F32)
  | measured (frame : AebUltraLmuFrame)

/-- What the polling core finds: nothing, a datagram in a buffer from an address, or that it is time
to send. -/
inductive Poll where
  | nothing
  | datagram (addr : Option UInt32) (payload : Option (List UInt8)) (buffer : Memory)
  | due

/-- Who goes on: with what it finds, and with what its stack holds where it will copy. -/
inductive BoardStep where
  | core0 (poll : Poll) (tf : TelemFrame F32) (u : AebUltraLmuFrame)
  | core1 (speed : F32) (cmd : DriveCmd F32)
  | core2 (loop : UltraLoop)

/-- The first core: it writes the command that it finds, or reads the two records and sends what they hold. -/
def core0Step (poll : Poll) (tf : TelemFrame F32) (u : AebUltraLmuFrame) (b : BoardState) :
    BoardState × Option BoardEvent :=
  match b.core0 with
  | .polling =>
    match poll with
    | .nothing => (b, none)
    | .datagram addr payload buffer =>
      match udpReceiveAccRecv payload buffer with
      | none => (b, none)
      | some cmd =>
        ({ b with
            pcip := addr.getD b.pcip
            driveCmd := (step driveCmdLayout b.driveCmd (.writer cmd)).1
            core0 := .writingDriveCmd }, some (.received addr cmd))
    | .due => ({ b with telem := (step telemLayout b.telem (.reader tf)).1, core0 := .readingTelem }, none)
  | .writingDriveCmd =>
    -- A write goes on with its own record, whatever is given here.
    let driveCmd := (step driveCmdLayout b.driveCmd (.writer driveCmdBoot)).1
    ({ b with
        driveCmd := driveCmd
        core0 := match driveCmd.writer with
          | .idle => .polling
          | .storing .. => .writingDriveCmd }, none)
  | .readingTelem =>
    match step telemLayout b.telem (.reader tf) with
    | (telem, none) => ({ b with telem := telem }, none)
    | (telem, some tf) =>
      ({ b with telem := telem, core0 := .readingUltra tf }, some (.telemetry b.pcip (telemBytes tf)))
  | .readingUltra tf =>
    match step ultraLayout b.ultra (.reader u) with
    | (ultra, none) => ({ b with ultra := ultra }, none)
    | (ultra, some u) =>
      ({ b with ultra := ultra, core0 := .polling, ultraAlive := b.ultraAlive + 1 },
        some (.status b.pcip (rearStatus tf u b.ultraAlive).bytes))

/-- The second core: it reads the command, runs one period and writes the telemetry. -/
def core1Step (speed : F32) (cmd : DriveCmd F32) (b : BoardState) : BoardState × Option BoardEvent :=
  match b.core1 with
  | .waiting =>
    ({ b with
        driveCmd := (step driveCmdLayout b.driveCmd (.reader cmd)).1
        core1 := .readingDriveCmd speed }, none)
  | .readingDriveCmd speed =>
    match step driveCmdLayout b.driveCmd (.reader cmd) with
    | (driveCmd, none) => ({ b with driveCmd := driveCmd }, none)
    | (driveCmd, some cmd) =>
      let (loop, output) := controlLoop speed cmd b.loop
      ({ b with
          driveCmd := driveCmd
          loop := loop
          telem := (step telemLayout b.telem (.writer output.telem)).1
          core1 := .writingTelem }, some (.controlled cmd output))
  | .writingTelem =>
    let telem := (step telemLayout b.telem (.writer telemZero)).1
    ({ b with
        telem := telem
        core1 := match telem.writer with
          | .idle => .waiting
          | .storing .. => .writingTelem }, none)

/-- The third core: it measures between two writes. -/
def core2Step (stmFrequency : F32) (loop : UltraLoop) (b : BoardState) : BoardState × Option BoardEvent :=
  match b.ultra.writer with
  | .idle =>
    let (sensors, frame) := ultraRunOnce stmFrequency loop b.sensors
    ({ b with sensors := sensors, ultra := (step ultraLayout b.ultra (.writer frame)).1 }, some (.measured frame))
  | .storing .. => ({ b with ultra := (step ultraLayout b.ultra (.writer ultraZero)).1 }, none)

/-- The board goes on one access at a time. -/
def board (stmFrequency : F32) : Machine BoardState BoardStep (Option BoardEvent) where
  step b
    | .core0 poll tf u => core0Step poll tf u b
    | .core1 speed cmd => core1Step speed cmd b
    | .core2 loop => core2Step stmFrequency loop b

/-- 192.168.10.1 -/
def pcipInit : UInt32 := 0xC0A80A01

/-- The board when the cores have met: the third has written a frame over one of the two slots, which hold
anything, and points at it. -/
def boardStart (slots : Fin 2 → AebUltraLmuFrame) (index : Fin 2) : BoardState where
  driveCmd := start driveCmdBoot
  telem := start telemZero
  ultra := (machine ultraLayout).run ⟨slots, index, .idle, .idle⟩ (List.replicate 5 (.writer ultraZero))
  core0 := .polling
  core1 := .waiting
  pcip := pcipInit
  ultraAlive := 0
  loop := loopStart
  sensors := ⟨ultrasonicStart, ultrasonicStart⟩

end SelfDriving.Rear
