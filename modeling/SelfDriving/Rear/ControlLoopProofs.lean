import Mathlib.Algebra.Order.Floor.Ring
import SelfDriving.Rear.ControlLoop

/-! One period of the control loop under remote driving: the emergency stop comes first,
then the direction, and the duty is a function of the speed that never falls when the
speed rises. -/
namespace SelfDriving.Rear
open Ieee754

section
variable {α : Type} [FloatingMath α]

/-- The duty that remote driving sets for a speed. -/
def manualDuty (targetSpeed : α) : Int :=
  compensatedDuty (manualSpeedToDuty (if FloatingMath.isFinite targetSpeed then targetSpeed else 0.0))

/-- The command decides which part of the loop runs. -/
theorem controlLoop_cases (speed : α) (cmd : DriveCmd α) (s : LoopState α) :
    ((cmd.controlMode = modeAeb ∨ cmd.emergencyStop ≠ 0) ∧
      controlLoop speed cmd s = brakeStep cmd (measuredSpeed speed) s) ∨
    (cmd.controlMode = modeManual ∧ cmd.emergencyStop = 0 ∧
      controlLoop speed cmd s = manualStep cmd (measuredSpeed speed) s) ∨
    (cmd.controlMode ≠ modeAeb ∧ cmd.controlMode ≠ modeManual ∧ cmd.emergencyStop = 0 ∧
      controlLoop speed cmd s = accStep cmd (measuredSpeed speed) s) := by
  unfold controlLoop
  by_cases braked : cmd.controlMode = modeAeb ∨ cmd.emergencyStop ≠ 0
  · exact .inl ⟨braked, if_pos (by simpa using braked)⟩
  refine .inr ?_
  have free := braked
  rw [not_or, not_not] at free
  have passes : ¬ (decide (cmd.controlMode = modeAeb) || decide (cmd.emergencyStop ≠ 0)) = true := by simpa using braked
  rw [if_neg passes]
  by_cases manual : cmd.controlMode = modeManual
  · exact .inl ⟨manual, free.2, if_pos manual⟩
  · exact .inr ⟨free.1, manual, free.2, if_neg manual⟩

theorem manualStep_motors (cmd : DriveCmd α) (vMeas : α) (s : LoopState α) :
    (manualStep cmd vMeas s).2.motors =
      if cmd.driveDirection = dirStop then coastBoth
      else drivePwm (manualDuty cmd.targetSpeed) (!(cmd.driveDirection = dirRev)) := by
  by_cases stop : cmd.driveDirection = dirStop
  · simp only [manualStep, stop, if_true]
  · simp only [manualStep, stop, if_false]
    rfl

/-- Whatever the loop was doing, under remote driving the motors follow the command. -/
theorem controlLoop_manual {cmd : DriveCmd α} (manual : cmd.controlMode = modeManual) (speed : α) (s : LoopState α) :
    (controlLoop speed cmd s).2.motors =
      if cmd.emergencyStop ≠ 0 then brakeBoth
      else if cmd.driveDirection = dirStop then coastBoth
      else drivePwm (manualDuty cmd.targetSpeed) (!(cmd.driveDirection = dirRev)) := by
  have mode : cmd.controlMode ≠ modeAeb := by
    rw [manual]
    decide
  rcases controlLoop_cases speed cmd s with ⟨braked, step⟩ | ⟨-, free, step⟩ | ⟨-, other, -⟩
  · rw [step, if_pos (braked.resolve_left mode)]
    rfl
  · rw [step, if_neg (not_not_intro free), manualStep_motors]
  · exact absurd manual other

/-! ### Following an acceleration -/

/-- The state when a mode begins: cleared, if another one was before. -/
def entered (mode : UInt8) (s : LoopState α) : LoopState α := if s.prevMode ≠ mode then accResetState s else s

/-- The acceleration that is followed for the one commanded. -/
def accDemand (accelCmd : α) : α :=
  clampf (if FloatingMath.isFinite accelCmd then accelCmd else 0.0) (-aCmdMax) aCmdMax

/-- The speed after a period of following an acceleration. -/
def referred (s : LoopState α) (aCmd : α) : α := clampf (s.vRef + aCmd * dt) 0.0 vMax

/-- The duty for it before the limits. -/
def unlimited (vMeas : α) (s : LoopState α) (aCmd : α) : α :=
  inverseModel aCmd (referred s aCmd) + kp * (referred s aCmd - vMeas) + s.iTerm

/-- One period of following an acceleration. -/
def following (vMeas : α) (s : LoopState α) (aCmd : α) : LoopState α × LoopOutput α :=
  let vRef := referred s aCmd
  let uUnsat := unlimited vMeas s aCmd
  let u := clampf uUnsat dutyMin dutyMax
  let iTerm := if vRef ≤ (0.0 : α) then (0.0 : α)
    else s.iTerm + (ki * (vRef - vMeas) + kaw * (u - uUnsat)) * dt
  let driven := applyOutput u vMeas s.brakeMode
  (⟨vRef, iTerm, driven.1, modeAcc⟩, ⟨vMeas, driven.2, ⟨vRef, vMeas, u, aCmd, iTerm⟩⟩)

variable (cmd : DriveCmd α) (vMeas : α) (s : LoopState α)

theorem accStep_eq : accStep cmd vMeas s = following vMeas (entered modeAcc s) (accDemand cmd.accelCmd) := rfl

theorem manualStep_state : (manualStep cmd vMeas s).1 = { entered modeManual s with prevMode := modeManual } := by
  unfold manualStep
  by_cases stop : cmd.driveDirection = dirStop
  · simp only [if_pos stop]
    rfl
  · simp only [if_neg stop]
    rfl

end

/-! ### The duty in exact numbers -/

theorem clampf_eq {lo hi : ℚ} (ordered : lo ≤ hi) (x : ℚ) : clampf x lo hi = max lo (min x hi) := by
  unfold clampf
  split
  · rename_i below
    rw [min_eq_left (below.le.trans ordered), max_eq_left below.le]
  rename_i notBelow
  split
  · rename_i above
    rw [min_eq_right (le_of_lt above), max_eq_right ordered]
  · rename_i notAbove
    rw [min_eq_left (not_lt.mp notAbove), max_eq_right (not_lt.mp notBelow)]

theorem clampf_mono {lo hi : ℚ} (ordered : lo ≤ hi) {x y : ℚ} (le : x ≤ y) : clampf x lo hi ≤ clampf y lo hi := by
  rw [clampf_eq ordered, clampf_eq ordered]
  gcongr

theorem clampf_within {lo hi : ℚ} (ordered : lo ≤ hi) (x : ℚ) : lo ≤ clampf x lo hi ∧ clampf x lo hi ≤ hi := by
  rw [clampf_eq ordered]
  exact ⟨le_max_left .., max_le ordered (min_le_right ..)⟩

theorem manualSpeedToDuty_mono {v w : ℚ} (le : v ≤ w) : manualSpeedToDuty v ≤ manualSpeedToDuty w := by
  have speeds : (0.0 : ℚ) ≤ vMax := by
    unfold vMax
    norm_num
  have duties : (0.0 : ℚ) ≤ dutyMax := by
    unfold dutyMax
    norm_num
  have slope : (0 : ℚ) ≤ ffSpeedSlope := by
    unfold ffSpeedSlope
    norm_num
  apply clampf_mono duties
  have scaled := mul_le_mul_of_nonneg_left (clampf_mono speeds le) slope
  exact div_le_div_of_nonneg_right scaled (by norm_num)

theorem toInt_of_nonneg {x : ℚ} (nonneg : 0 ≤ x) : FloatingMath.toInt x = ⌊x⌋ := if_neg (not_lt.mpr nonneg)

/-- The deadzone is jumped over, upwards. -/
theorem compensated_mono {u w : ℚ} (le : u ≤ w) :
    (if u > uEps then u + ffDeadzone / (100.0 : ℚ) else u) ≤ (if w > uEps then w + ffDeadzone / (100.0 : ℚ) else w) := by
  have jump : (0 : ℚ) ≤ ffDeadzone / (100.0 : ℚ) := by
    unfold ffDeadzone
    norm_num
  split
  · rename_i above
    rw [if_pos (lt_of_lt_of_le above le)]
    linarith
  · split
    · linarith
    · exact le

/-- A part of the full duty, in percent. -/
theorem percent_within (u : ℚ) : 0 ≤ clampf u 0.0 1.0 * pwmDutyFull ∧ clampf u 0.0 1.0 * pwmDutyFull ≤ 100 := by
  have full : (pwmDutyFull : ℚ) = 100 := by
    unfold pwmDutyFull
    norm_num
  obtain ⟨low, high⟩ := clampf_within (by norm_num : (0.0 : ℚ) ≤ 1.0) u
  rw [full]
  constructor
  · linarith
  · linarith

theorem compensatedDuty_mono {u w : ℚ} (le : u ≤ w) : compensatedDuty u ≤ compensatedDuty w := by
  have full : (0 : ℚ) ≤ pwmDutyFull := by
    unfold pwmDutyFull
    norm_num
  unfold compensatedDuty
  rw [toInt_of_nonneg (percent_within _).1, toInt_of_nonneg (percent_within _).1]
  apply Int.floor_mono
  exact mul_le_mul_of_nonneg_right (clampf_mono (by norm_num) (compensated_mono le)) full

theorem compensatedDuty_within (u : ℚ) : 0 ≤ compensatedDuty u ∧ compensatedDuty u ≤ 100 := by
  unfold compensatedDuty
  rw [toInt_of_nonneg (percent_within _).1]
  constructor
  · exact Int.floor_nonneg.mpr (percent_within _).1
  · exact Int.floor_le_iff.mpr (by linarith [(percent_within (if u > uEps then u + ffDeadzone / (100.0 : ℚ) else u)).2])

theorem manualDuty_within (v : ℚ) : 0 ≤ manualDuty v ∧ manualDuty v ≤ 100 := compensatedDuty_within _

/-- Among speeds that are finite floats, a higher one never has a lower duty. -/
theorem manualDuty_mono {v w : ℚ} (finite : FloatingMath.isFinite v = true) (finite' : FloatingMath.isFinite w = true)
    (le : v ≤ w) : manualDuty v ≤ manualDuty w := by
  unfold manualDuty
  rw [if_pos finite, if_pos finite']
  exact compensatedDuty_mono (manualSpeedToDuty_mono le)

end SelfDriving.Rear
