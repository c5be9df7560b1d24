import SelfDriving.Foundations.Ieee754Widening
import SelfDriving.Hpvc.EmergencyStopProofs
import SelfDriving.Rear.ControlLoopProofs

/-! Remote driving from one end to the other: whatever the remote controller has come to,
its drive packet is received as it was meant, and in the next period the motors do it. -/
namespace SelfDriving.Hpvc.Remote
open Ieee754 Python

/-- The states that a controller comes to: it resynchronises with FRONT at the start, and
its methods are called with any arguments. -/
inductive Reachable (config : Config) : RemoteControlState → Prop
  | start (monotonicMs : Nat) (first second third fourth : Clock × Sends) :
    Reachable config (resyncFrontSequence config (start monotonicMs) first second third fourth).1
  | command {s : RemoteControlState} (reached : Reachable config s) (drive steering speed : Json)
      (emergencyStop : Option Bool) (clock : Clock) (sends : Sends) :
    Reachable config (command config s drive steering speed emergencyStop clock sends).1
  | stop {s : RemoteControlState} (reached : Reachable config s) (clearEmergency : Bool) (clock : Clock) (sends : Sends) :
    Reachable config (stop config s clearEmergency clock sends).1
  | publish {s : RemoteControlState} (reached : Reachable config s) (clock : Clock) (sends : Sends) :
    Reachable config (publish config s clock sends).1
  | close {s : RemoteControlState} (reached : Reachable config s) :
    Reachable config { s with driveCommand := .stop, steeringCommand := .straight }

/-- The servers only call these methods. -/
theorem reachable_next (app : HttpApp) {config : Config} {s : RemoteControlState} (reached : Reachable config s)
    (event : Event) : Reachable config ((controller app config).next s event) := by
  cases event with
  | publish clock sends => exact .publish reached clock sends
  | post route body clock sends =>
    change Reachable config (post app config s route body clock sends).1
    cases route with
    | control =>
      simp only [post]
      cases readPayload app body with
      | error error => exact reached
      | ok payload => exact .command reached ..
    | stop =>
      simp only [post]
      exact .stop reached ..
    | estop =>
      simp only [post]
      exact .command reached ..
    | reset =>
      simp only [post]
      exact .stop reached ..
    | other => exact reached

/-! ### The target speed -/

/-- A speed that no command and no start exceeds. -/
structure SpeedWithin (config : Config) (s : RemoteControlState) : Prop where
  nonneg : (0.0 : F64) ≤ s.targetSpeedMps
  bounded : s.targetSpeedMps ≤ (0.30 : F64) ∨ s.targetSpeedMps ≤ config.maxSpeedMps

theorem SpeedWithin.of_eq {config : Config} {s t : RemoteControlState} (within : SpeedWithin config s)
    (same : t.targetSpeedMps = s.targetSpeedMps) : SpeedWithin config t := by
  refine ⟨?_, ?_⟩
  · rw [same]
    exact within.nonneg
  · rw [same]
    exact within.bounded

theorem clampSpeed_within {config : Config} (number : config.maxSpeedMps.isNaN = false) {value : Json} {speed : F64}
    (clamped : clampSpeed config value = .ok speed) :
    (0.0 : F64) ≤ speed ∧ (speed ≤ (0.30 : F64) ∨ speed ≤ config.maxSpeedMps) := by
  have zero : (0.0 : F64).isNaN = false := Ieee.isNaN_literal ..
  have low : (0.0 : F64) ≤ 0.30 := by decide +kernel
  unfold clampSpeed at clamped
  generalize (0.0 : F64) = least at *
  generalize (0.30 : F64) = idle at *
  have within (given : F64) : least ≤ Python.max least (Python.min config.maxSpeedMps given) ∧
      (Python.max least (Python.min config.maxSpeedMps given) ≤ idle ∨
        Python.max least (Python.min config.maxSpeedMps given) ≤ config.maxSpeedMps) := by
    refine ⟨le_max_left zero, ?_⟩
    unfold Python.max
    split
    · exact .inr (min_le_left number)
    · exact .inl low
  split at clamped
  · rw [← Except.ok.inj clamped]
    exact within _
  · rw [← Except.ok.inj clamped]
    exact within _
  · rw [← Except.ok.inj clamped]
    exact within _
  · cases clamped

theorem speedWithin_setCommand {config : Config} (number : config.maxSpeedMps.isNaN = false) {s : RemoteControlState}
    (within : SpeedWithin config s) (drive steering speed : Json) (emergencyStop : Option Bool) :
    SpeedWithin config (setCommand config s drive steering speed emergencyStop).1 := by
  have before : (setSteering steering (setDrive drive s)).targetSpeedMps = s.targetSpeedMps := by
    unfold setSteering setDrive
    split <;> split <;> rfl
  have stopped (t : RemoteControlState) : (setEmergency emergencyStop t).targetSpeedMps = t.targetSpeedMps := by
    unfold setEmergency
    split <;> rfl
  simp only [setCommand, setSpeed]
  split
  · rename_i raised
    exact within.of_eq before
  · rename_i t written
    refine SpeedWithin.of_eq ?_ (stopped t)
    split at written
    · cases written
      exact within.of_eq before
    · split at written
      · cases written
      · rename_i clamped
        cases written
        obtain ⟨nonneg, bounded⟩ := clampSpeed_within number clamped
        exact ⟨nonneg, bounded⟩

/-- A publish keeps the speed. -/
theorem SpeedWithin.publish {config : Config} {s : RemoteControlState} (within : SpeedWithin config s) (clock : Clock)
    (sends : Sends) : SpeedWithin config (publish config s clock sends).1 := by
  obtain ⟨-, -, -, -, same⟩ := publish_sent config s clock sends
  exact within.of_eq same

theorem resyncLoop_targetSpeedMps (config : Config) (baseSequence : UInt32) (s : RemoteControlState) (index : UInt32)
    (sends : List (Clock × Sends)) :
    (resyncLoop config baseSequence s index sends).1.targetSpeedMps = s.targetSpeedMps := by
  induction sends generalizing s index with
  | nil => rfl
  | cons step rest ih =>
    simp only [resyncLoop]
    split
    · rfl
    split
    · rfl
    split
    · rfl
    · exact ih ..

theorem resyncFrontSequence_targetSpeedMps (config : Config) (s : RemoteControlState)
    (first second third fourth : Clock × Sends) :
    (resyncFrontSequence config s first second third fourth).1.targetSpeedMps = s.targetSpeedMps := by
  have kept := resyncLoop_targetSpeedMps config (s.sequence &&& (frontSequenceResyncStep - 1))
    { s with driveCommand := .stop, steeringCommand := .straight, emergencyStop := false } 0
    [first, second, third, fourth]
  simp only [resyncFrontSequence]
  generalize resyncLoop config _ _ _ _ = result at *
  split
  · exact kept
  · exact kept

/-- The target speed stays within its bounds. -/
theorem speedWithin_of_reachable {config : Config} (number : config.maxSpeedMps.isNaN = false) {s : RemoteControlState}
    (reached : Reachable config s) : SpeedWithin config s := by
  induction reached with
  | start monotonicMs first second third fourth =>
    have low : (0.0 : F64) ≤ 0.30 := by decide +kernel
    have self : (0.30 : F64) ≤ 0.30 := by decide +kernel
    have within : SpeedWithin config (start monotonicMs) := ⟨low, .inl self⟩
    exact within.of_eq (resyncFrontSequence_targetSpeedMps config _ first second third fourth)
  | @command s reached drive steering speed emergencyStop clock sends ih =>
    have commanded := speedWithin_setCommand number ih drive steering speed emergencyStop
    simp only [Remote.command]
    split
    · rename_i written
      rw [written] at commanded
      exact commanded
    · rename_i written
      rw [written] at commanded
      exact commanded.publish clock sends
  | @stop s reached clearEmergency clock sends ih =>
    simp only [Remote.stop]
    refine SpeedWithin.publish (ih.of_eq ?_) clock sends
    split
    · rfl
    · rfl
  | publish reached clock sends ih => exact ih.publish clock sends
  | close reached ih => exact ih.of_eq rfl

/-! ### One packet -/

/-- The greatest speed is a number that fits a float. -/
def SpeedFits (config : Config) : Prop := (config.maxSpeedMps.convert binary32).isFinite = true

theorem SpeedFits.number {config : Config} (fits : SpeedFits config) : config.maxSpeedMps.isNaN = false := by
  rw [← Ieee.isNaN_convert (g := binary32)]
  exact Ieee.isNaN_of_isFinite fits

theorem SpeedWithin.fits {config : Config} (fits : SpeedFits config) {s : RemoteControlState}
    (within : SpeedWithin config s) : (s.targetSpeedMps.convert binary32).isFinite = true := by
  have low : ((0.0 : F64).convert binary32).isFinite = true := by decide +kernel
  have high : ((0.30 : F64).convert binary32).isFinite = true := by decide +kernel
  have above := Ieee.convert_mono (g := binary32) Ieee.limit_binary64_pos within.nonneg
  rcases within.bounded with slow | limited
  · exact Ieee.isFinite_of_between above (Ieee.convert_mono Ieee.limit_binary64_pos slow) low high
  · exact Ieee.isFinite_of_between above (Ieee.convert_mono Ieee.limit_binary64_pos limited) low fits

theorem packRearDrive_of_fits {s : RemoteControlState} (fits : (s.targetSpeedMps.convert binary32).isFinite = true)
    (clock : Clock) :
    packRearDrive s clock = .ok (rearDrivePacket s clock
      (if s.driveCommand = .stop then 0.0 else s.targetSpeedMps.convert binary32)) := by
  have zero : packSingle (0.0 : F64) = .ok 0.0 := by decide +kernel
  have speed : packSingle s.targetSpeedMps = .ok (s.targetSpeedMps.convert binary32) := by
    rw [packSingle, Ieee.not_isInf_of_isFinite fits, Bool.and_false, if_neg Bool.false_ne_true]
  unfold packRearDrive
  by_cases stopped : s.driveCommand = .stop
  · simp only [stopped, if_true, zero]
  · simp only [stopped, if_false, speed]

/-! ### At REAR -/

/-- What the other core reads after a drive packet, with its floats as exact numbers. -/
theorem read_rearDrivePacket (s : RemoteControlState) (clock : Clock) (speed : F32) (buffer : Memory)
    (g : Rear.DriveCmdBuffer ℚ) :
    Rear.cpu1ReadDriveCmd (Rear.receiveDriveCmd (some (rearDrivePacket s clock speed)) buffer g) =
      { controlMode := Rear.modeManual
        driveDirection := driveDirection s.driveCommand
        targetSpeed := speed.toRat
        accelCmd := 0
        emergencyStop := if s.emergencyStop then 1 else 0 } := by
  have zero : (0.0 : F32).toRat = 0 := Ieee.toRat_zero_literal
  rw [Rear.receiveDriveCmd, Rear.udpReceiveAccRecv_eq_map, received_rearDrivePacket, Option.map_some,
    Rear.cpu1ReadDriveCmd_write, ← zero]
  rfl

/-- What the motors are to do in a state, with the duty for its speed. -/
def motorsFor (s : RemoteControlState) (duty : Int) : Rear.Motors :=
  if s.emergencyStop then ⟨.brake 100, .brake 100⟩
  else
    match s.driveCommand with
    | .stop => ⟨.coast, .coast⟩
    | .forward => ⟨.mov duty 1, .mov duty 0⟩
    | .reverse => ⟨.mov duty 0, .mov duty 1⟩

/-- The duty for a speed that is packed as a float. -/
def dutyFor (speed : F64) : Int := Rear.manualDuty (speed.convert binary32).toRat

theorem isFinite_toRat {x : F32} (finite : x.isFinite = true) : FloatingMath.isFinite x.toRat = true := by
  have inside := abs_lt.mp ((Ieee.abs_toRat x).trans_lt (Ieee.isFinite_iff.mp finite))
  exact Bool.and_eq_true_iff.mpr ⟨decide_eq_true inside.1, decide_eq_true inside.2⟩

theorem dutyFor_mono {v w : F64} (fits : (v.convert binary32).isFinite = true)
    (fits' : (w.convert binary32).isFinite = true) (le : v ≤ w) : dutyFor v ≤ dutyFor w :=
  Rear.manualDuty_mono (isFinite_toRat fits) (isFinite_toRat fits') (Ieee.convert_mono Ieee.limit_binary64_pos le).2.2

/-- In the period after the packet the motors do what the state says. -/
theorem motors_of_packet (s : RemoteControlState) (clock : Clock) (buffer : Memory) (g : Rear.DriveCmdBuffer ℚ)
    (speed : ℚ) (loop : Rear.LoopState ℚ) :
    (Rear.controlLoop speed (Rear.cpu1ReadDriveCmd (Rear.receiveDriveCmd (some (rearDrivePacket s clock
      (if s.driveCommand = .stop then 0.0 else s.targetSpeedMps.convert binary32))) buffer g)) loop).2.motors =
      motorsFor s (dutyFor s.targetSpeedMps) := by
  rw [read_rearDrivePacket, Rear.controlLoop_manual rfl, motorsFor]
  cases s.emergencyStop with
  | true => rfl
  | false =>
    cases s.driveCommand with
    | stop => rfl
    | forward => rfl
    | reverse => rfl

/-- Remote driving from one end to the other: one function of the target speed gives the
duty, and it never falls when the speed rises. -/
theorem remote_drive_end_to_end :
    (∀ v, 0 ≤ dutyFor v ∧ dutyFor v ≤ 100) ∧
    ∀ (steerRad maxSpeedMps : F64) (broadcast : Bool),
      let config := configure steerRad maxSpeedMps broadcast
      (config.maxSpeedMps.convert binary32).isFinite = true →
        (∀ s t, Reachable config s → Reachable config t → s.targetSpeedMps ≤ t.targetSpeedMps →
          dutyFor s.targetSpeedMps ≤ dutyFor t.targetSpeedMps) ∧
        ∀ s, Reachable config s → ∀ (clock : Clock) (buffer : Memory) (g : Rear.DriveCmdBuffer ℚ) (speed : ℚ)
          (loop : Rear.LoopState ℚ), ∃ packet, packRearDrive s clock = .ok packet ∧
            let command := Rear.cpu1ReadDriveCmd (Rear.receiveDriveCmd (some packet) buffer g)
            command =
              { controlMode := Rear.modeManual
                driveDirection := driveDirection s.driveCommand
                targetSpeed := if s.driveCommand = .stop then 0 else (s.targetSpeedMps.convert binary32).toRat
                accelCmd := 0
                emergencyStop := if s.emergencyStop then 1 else 0 } ∧
            (Rear.controlLoop speed command loop).2.motors = motorsFor s (dutyFor s.targetSpeedMps) := by
  refine ⟨fun v => Rear.manualDuty_within _, fun steerRad maxSpeedMps broadcast fits => ?_⟩
  have speeds (s : RemoteControlState) (reached : Reachable (configure steerRad maxSpeedMps broadcast) s) :
      (s.targetSpeedMps.convert binary32).isFinite = true :=
    (speedWithin_of_reachable (SpeedFits.number fits) reached).fits fits
  refine ⟨fun s t reached reached' le => dutyFor_mono (speeds s reached) (speeds t reached') le, ?_⟩
  intro s reached clock buffer g speed loop
  refine ⟨_, packRearDrive_of_fits (speeds s reached) clock, ?_, motors_of_packet s clock buffer g speed loop⟩
  rw [read_rearDrivePacket, apply_ite Ieee.toRat, Ieee.toRat_zero_literal]

/-- A controller that has just started and is told to drive forward. -/
def forwardFromStart : RemoteControlState :=
  let idle : Clock × Sends := (⟨0, 0⟩, ⟨none, none, none⟩)
  (command (configure 0.25 1.0 false) (resyncFrontSequence (configure 0.25 1.0 false) (start 0) idle idle idle idle).1
    (.str "forward") .null .null none idle.1 idle.2).1

/-- The idle speed of 0.30 m/s is a duty of 37. -/
theorem forwardFromStart_drives :
    ∃ packet, packRearDrive forwardFromStart ⟨10, 10000⟩ = .ok packet ∧
      (Rear.controlLoop (0 : ℚ) (Rear.cpu1ReadDriveCmd (Rear.receiveDriveCmd (some packet) (fun _ => 0)
        ⟨fun _ => ⟨1, 0, 0, 0, 1⟩, 0⟩)) Rear.loopStart).2.motors = ⟨.mov 37 1, .mov 37 0⟩ := by
  have fits : ((configure 0.25 1.0 false).maxSpeedMps.convert binary32).isFinite = true := by decide +kernel
  have reached : Reachable (configure 0.25 1.0 false) forwardFromStart := .command (.start 0 _ _ _ _) ..
  have driven : motorsFor forwardFromStart (dutyFor forwardFromStart.targetSpeedMps) = ⟨.mov 37 1, .mov 37 0⟩ := by
    decide +kernel
  obtain ⟨packet, packed, -, motors⟩ := (remote_drive_end_to_end.2 0.25 1.0 false fits).2 forwardFromStart reached
    ⟨10, 10000⟩ (fun _ => 0) ⟨fun _ => ⟨1, 0, 0, 0, 1⟩, 0⟩ 0 Rear.loopStart
  exact ⟨packet, packed, motors.trans driven⟩

end SelfDriving.Hpvc.Remote
