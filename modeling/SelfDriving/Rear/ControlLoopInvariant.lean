import SelfDriving.Foundations.ExactFloat
import SelfDriving.Rear.ControlLoopProofs
import SelfDriving.Rear.Motor

/-! What every run of the control loop keeps, whatever commands and speeds it takes. No
NaN and no infinity gets past the checks at the top of a period, so the loop runs as over
the rationals; there, the speed that it refers to stays between its bounds and the
integrator is bounded and cleared together with it. -/
namespace SelfDriving.Rear
open Ieee754 ExactFloat

/-- A state with its floats read in another way. -/
def LoopState.map {α β : Type} (read : α → β) (s : LoopState α) : LoopState β :=
  ⟨read s.vRef, read s.iTerm, s.brakeMode, s.prevMode⟩

/-- An input with its floats read in another way. -/
def LoopInput.map {α β : Type} (read : α → β) (input : LoopInput α) : LoopInput β :=
  ⟨read input.speed, input.cmd.map read⟩

/-! ### Without NaN and infinities -/

section
variable (x y z : ℚ)

theorem literal (mantissa exponent : Nat) (sign : Bool) :
    (OfScientific.ofScientific mantissa sign exponent : ExactFloat) =
      .finite (OfScientific.ofScientific mantissa sign exponent) := rfl

theorem clampf_finite : clampf (finite x) (finite y) (finite z) = finite (clampf x y z) := by
  simp only [clampf, finite_lt_finite, gt_iff_lt]
  split_ifs <;> rfl

theorem inverseModel_finite : inverseModel (finite x) (finite y) = finite (inverseModel x y) := by
  simp (disch := norm_num) only [inverseModel, ffSpeedSlope, vehMass, rhoCda, wheelRadius, gearRatio, ktMotor,
    rMotor, vBatt, literal, finite_div, finite_add, finite_mul]

/-- A percentage fits an `int`. -/
theorem toInt_finite {x : ℚ} (percent : 0 ≤ x ∧ x ≤ 100) :
    FloatingMath.toInt (finite x) = FloatingMath.toInt x := by
  have whole : FloatingMath.toInt x = ⌊x⌋ := toInt_of_nonneg percent.1
  have low : 0 ≤ ⌊x⌋ := Int.floor_nonneg.mpr percent.1
  have high : ⌊x⌋ ≤ 100 := Int.floor_le_iff.mpr (by push_cast; linarith [percent.2])
  change max (-2 ^ 31) (min (if x < 0 then -⌊-x⌋ else ⌊x⌋) (2 ^ 31 - 1)) = _
  rw [if_neg (not_lt.mpr percent.1), whole]
  omega

theorem compensatedDuty_finite : compensatedDuty (finite x) = compensatedDuty x := by
  have jumped : (if finite x > uEps then finite x + ffDeadzone / 100.0 else finite x) =
      finite (if x > uEps then x + ffDeadzone / 100.0 else x) := by
    simp (disch := norm_num) only [uEps, ffDeadzone, literal, finite_div, finite_add, gt_iff_lt, finite_lt_finite]
    split_ifs <;> rfl
  unfold compensatedDuty
  rw [jumped]
  simp only [literal, clampf_finite, pwmDutyFull, finite_mul]
  exact toInt_finite (percent_within _)

theorem manualSpeedToDuty_finite : manualSpeedToDuty (finite x) = finite (manualSpeedToDuty x) := by
  simp (disch := norm_num) only [manualSpeedToDuty, vMax, dutyMax, ffSpeedSlope, literal, clampf_finite, finite_mul,
    finite_div]

theorem applyOutput_finite (brakeMode : UInt8) :
    applyOutput (finite x) (finite y) brakeMode = applyOutput x y brakeMode := by
  simp only [applyOutput, brakeTh, modeHyst, vBrakeMin, literal, ge_iff_le, gt_iff_lt, finite_le_finite,
    finite_lt_finite, finite_neg, finite_add, finite_sub, compensatedDuty_finite]
  congr!

/-- What is no finite float is read as zero, before anything is computed with it. -/
theorem checked_ofIeee (x : F32) :
    (if FloatingMath.isFinite (ofIeee x) then ofIeee x else (0.0 : ExactFloat)) =
      finite (if FloatingMath.isFinite x.toRat then x.toRat else 0.0) := by
  have same : FloatingMath.isFinite x.toRat = x.isFinite := by
    apply Bool.eq_iff_iff.mpr
    rw [Ieee.isFinite_iff, ← Ieee.abs_toRat, abs_lt]
    change (decide _ && decide _) = true ↔ _
    rw [Bool.and_eq_true, decide_eq_true_eq, decide_eq_true_eq]
  rw [isFinite_ofIeee, same]
  by_cases inside : x.isFinite = true
  · rw [if_pos inside, if_pos inside, ofIeee_of_isFinite inside]
  · rw [if_neg inside, if_neg inside, literal]

/-- The encoder's speed, zero for what is no finite float. -/
def finiteSpeed (speed : F32) : ℚ := if speed.isFinite then speed.toRat else 0

theorem limit_eq : Ieee.limit binary32 = 2 ^ 128 := by decide +kernel

theorem abs_finiteSpeed (speed : F32) : |finiteSpeed speed| < 2 ^ 128 := by
  unfold finiteSpeed
  split
  · rename_i inside
    rwa [Ieee.isFinite_iff, ← Ieee.abs_toRat, limit_eq] at inside
  · norm_num

/-- The speed along the road of a finite float is one as well. -/
theorem measuredSpeed_finiteSpeed (speed : F32) :
    measuredSpeed (finiteSpeed speed) = finiteSpeed speed * encSpeedToMps := by
  have bound := abs_lt.mp (abs_finiteSpeed speed)
  apply if_pos
  change (decide _ && decide _) = true
  rw [Bool.and_eq_true, decide_eq_true_eq, decide_eq_true_eq, limit_eq, encSpeedToMps, wheelRadius]
  constructor
  · linarith
  · linarith

theorem measuredSpeed_ofIeee (speed : F32) :
    measuredSpeed (ofIeee speed) = finite (measuredSpeed (finiteSpeed speed)) := by
  rw [measuredSpeed_finiteSpeed, measuredSpeed, finiteSpeed]
  by_cases inside : speed.isFinite = true
  · rw [if_pos inside, ofIeee_of_isFinite inside, encSpeedToMps, wheelRadius, literal, finite_mul]
    exact if_pos (isFinite_finite _)
  · have outside : FloatingMath.isFinite (ofIeee speed * encSpeedToMps) = false := by
      apply isFinite_mul_left
      rw [isFinite_ofIeee]
      simpa using inside
    rw [if_neg inside, outside, zero_mul]
    exact (if_neg Bool.false_ne_true).trans (by rw [literal]; norm_num)

variable (cmd : DriveCmd F32) (s : LoopState ℚ)

theorem brakeStep_exact :
    (brakeStep (cmd.map ofIeee) (finite x) (s.map finite)).1 = (brakeStep (cmd.map Ieee.toRat) x s).1.map finite ∧
      (brakeStep (cmd.map ofIeee) (finite x) (s.map finite)).2.motors =
        (brakeStep (cmd.map Ieee.toRat) x s).2.motors := ⟨rfl, rfl⟩

theorem entered_map (mode : UInt8) : entered mode (s.map finite) = (entered mode s).map finite := by
  unfold entered
  by_cases same : s.prevMode = mode
  · rw [if_neg (not_not_intro same), if_neg (not_not_intro (show (s.map finite).prevMode = mode from same))]
  · rw [if_pos same, if_pos (show (s.map finite).prevMode ≠ mode from same)]
    rfl

theorem manualStep_exact :
    (manualStep (cmd.map ofIeee) (finite x) (s.map finite)).1 = (manualStep (cmd.map Ieee.toRat) x s).1.map finite ∧
      (manualStep (cmd.map ofIeee) (finite x) (s.map finite)).2.motors =
        (manualStep (cmd.map Ieee.toRat) x s).2.motors := by
  constructor
  · rw [manualStep_state, manualStep_state, entered_map]
    rfl
  · have duty : manualDuty (ofIeee cmd.targetSpeed) = manualDuty cmd.targetSpeed.toRat := by
      rw [manualDuty, checked_ofIeee, manualSpeedToDuty_finite, compensatedDuty_finite]
      rfl
    rw [manualStep_motors, manualStep_motors]
    change (if _ then _ else drivePwm (manualDuty (ofIeee cmd.targetSpeed)) _) = _
    rw [duty]
    rfl

theorem following_finite (aCmd : ℚ) :
    (following (finite x) (s.map finite) (finite aCmd)).1 = (following x s aCmd).1.map finite ∧
      (following (finite x) (s.map finite) (finite aCmd)).2.motors = (following x s aCmd).2.motors := by
  have dt_finite : (dt : ExactFloat) = finite dt := rfl
  have gains : (kp : ExactFloat) = finite kp ∧ (ki : ExactFloat) = finite ki ∧ (kaw : ExactFloat) = finite kaw :=
    ⟨rfl, rfl, rfl⟩
  simp only [following, unlimited, referred, LoopState.map, dt_finite, vMax, dutyMin, dutyMax, gains, literal,
    clampf_finite, finite_neg,
    inverseModel_finite, applyOutput_finite, finite_add, finite_sub, finite_mul, finite_le_finite]
  refine ⟨?_, trivial⟩
  rw [← apply_ite finite]
  congr!

theorem accStep_exact :
    (accStep (cmd.map ofIeee) (finite x) (s.map finite)).1 = (accStep (cmd.map Ieee.toRat) x s).1.map finite ∧
      (accStep (cmd.map ofIeee) (finite x) (s.map finite)).2.motors =
        (accStep (cmd.map Ieee.toRat) x s).2.motors := by
  have demand : accDemand (ofIeee cmd.accelCmd) = finite (accDemand cmd.accelCmd.toRat) := by
    rw [accDemand, checked_ofIeee, aCmdMax, literal, finite_neg, clampf_finite]
    rfl
  rw [accStep_eq, accStep_eq, entered_map]
  change (following _ _ (accDemand (ofIeee cmd.accelCmd))).1 = _ ∧
    (following _ _ (accDemand (ofIeee cmd.accelCmd))).2.motors = _
  rw [demand]
  exact following_finite x _ _

/-- The input as the numbers that the loop computes with. -/
def LoopInput.numbers (input : LoopInput F32) : LoopInput ℚ := ⟨finiteSpeed input.speed, input.cmd.map Ieee.toRat⟩

/-- One period on floats is a period on the rationals. -/
theorem controlLoop_exact (input : LoopInput F32) :
    (cpu1 ExactFloat).next (s.map finite) (input.map ofIeee) = ((cpu1 ℚ).next s input.numbers).map finite ∧
      ((cpu1 ExactFloat).output (s.map finite) (input.map ofIeee)).motors =
        ((cpu1 ℚ).output s input.numbers).motors := by
  let vMeas := measuredSpeed (finiteSpeed input.speed)
  change (controlLoop (ofIeee input.speed) (input.cmd.map ofIeee) (s.map finite)).1 =
      (controlLoop (finiteSpeed input.speed) (input.cmd.map Ieee.toRat) s).1.map finite ∧
    (controlLoop (ofIeee input.speed) (input.cmd.map ofIeee) (s.map finite)).2.motors =
      (controlLoop (finiteSpeed input.speed) (input.cmd.map Ieee.toRat) s).2.motors
  have speed : measuredSpeed (ofIeee input.speed) = finite vMeas := measuredSpeed_ofIeee input.speed
  by_cases braked : input.cmd.controlMode = modeAeb || input.cmd.emergencyStop ≠ 0
  · have onFloats : controlLoop (ofIeee input.speed) (input.cmd.map ofIeee) (s.map finite) =
        brakeStep (input.cmd.map ofIeee) (measuredSpeed (ofIeee input.speed)) (s.map finite) := if_pos braked
    have onNumbers : controlLoop (finiteSpeed input.speed) (input.cmd.map Ieee.toRat) s =
        brakeStep (input.cmd.map Ieee.toRat) vMeas s := if_pos braked
    rw [onFloats, onNumbers, speed]
    exact brakeStep_exact vMeas input.cmd s
  by_cases manual : input.cmd.controlMode = modeManual
  · have onFloats : controlLoop (ofIeee input.speed) (input.cmd.map ofIeee) (s.map finite) =
        manualStep (input.cmd.map ofIeee) (measuredSpeed (ofIeee input.speed)) (s.map finite) :=
      (if_neg braked).trans (if_pos manual)
    have onNumbers : controlLoop (finiteSpeed input.speed) (input.cmd.map Ieee.toRat) s =
        manualStep (input.cmd.map Ieee.toRat) vMeas s := (if_neg braked).trans (if_pos manual)
    rw [onFloats, onNumbers, speed]
    exact manualStep_exact vMeas input.cmd s
  · have onFloats : controlLoop (ofIeee input.speed) (input.cmd.map ofIeee) (s.map finite) =
        accStep (input.cmd.map ofIeee) (measuredSpeed (ofIeee input.speed)) (s.map finite) :=
      (if_neg braked).trans (if_neg manual)
    have onNumbers : controlLoop (finiteSpeed input.speed) (input.cmd.map Ieee.toRat) s =
        accStep (input.cmd.map Ieee.toRat) vMeas s := (if_neg braked).trans (if_neg manual)
    rw [onFloats, onNumbers, speed]
    exact accStep_exact vMeas input.cmd s

end

/-! ### The invariant -/

/-- What every reachable state of the loop keeps. -/
structure LoopKept (s : LoopState ℚ) : Prop where
  vRef : 0 ≤ s.vRef ∧ s.vRef ≤ vMax
  iTerm : |s.iTerm| ≤ 2 ^ 122
  frozen : s.vRef = 0 → s.iTerm = 0
  cleared : s.prevMode ≠ modeAcc → s.vRef = 0 ∧ s.iTerm = 0

theorem vMax_eq : (vMax : ℚ) = 11 / 10 := by
  unfold vMax
  norm_num

/-- A cleared state is kept in whatever mode. -/
theorem LoopKept.of_cleared {s : LoopState ℚ} (vRef : s.vRef = 0) (iTerm : s.iTerm = 0) : LoopKept s where
  vRef := by
    rw [vRef, vMax_eq]
    norm_num
  iTerm := by
    rw [iTerm]
    norm_num
  frozen _ := iTerm
  cleared _ := ⟨vRef, iTerm⟩

theorem zero_literal : (0.0 : ℚ) = 0 := by norm_num

theorem LoopKept.entered {s : LoopState ℚ} (kept : LoopKept s) (mode : UInt8) : LoopKept (entered mode s) := by
  unfold Rear.entered
  split
  · exact .of_cleared zero_literal zero_literal
  · exact kept

/-- The feed-forward part is a small number. -/
theorem abs_inverseModel_le {aCmd vRef : ℚ} (demand : |aCmd| ≤ 4) (speed : |vRef| ≤ 11 / 10) :
    |inverseModel aCmd vRef| ≤ 1 := by
  rw [abs_le] at *
  norm_num [inverseModel, ffSpeedSlope, vehMass, rhoCda, wheelRadius, gearRatio, ktMotor, rMotor, vBatt] at *
  constructor
  · linarith
  · linarith

/-- The integrator forgets faster than it can grow, whether the duty is at a limit or not. -/
theorem abs_integrated_le {i e u uFf bound error : ℚ} (within : |i| ≤ bound) (wrong : |e| ≤ error) (duty : |u| ≤ 1)
    (forward : |uFf| ≤ 1) (enough : 0.3 * error + 2 ≤ bound) :
    |i + (ki * e + kaw * (u - (uFf + kp * e + i))) * dt| ≤ bound := by
  rw [abs_le] at *
  norm_num [ki, kaw, kp, dt] at *
  constructor
  · linarith
  · linarith

theorem brakeStep_kept (cmd : DriveCmd ℚ) (vMeas : ℚ) (s : LoopState ℚ) : LoopKept (brakeStep cmd vMeas s).1 :=
  .of_cleared zero_literal zero_literal

theorem manualStep_kept (cmd : DriveCmd ℚ) (vMeas : ℚ) {s : LoopState ℚ} (kept : LoopKept s) :
    LoopKept (manualStep cmd vMeas s).1 := by
  rw [manualStep_state]
  by_cases manual : s.prevMode = modeManual
  · -- The mode goes on, in which nothing touches what was cleared at its begin.
    have other : s.prevMode ≠ modeAcc := by
      rw [manual]
      decide
    rw [entered, if_neg (not_not_intro manual)]
    exact .of_cleared (kept.cleared other).1 (kept.cleared other).2
  · rw [entered, if_pos manual]
    exact .of_cleared zero_literal zero_literal

theorem following_state (vMeas : ℚ) (s : LoopState ℚ) (aCmd : ℚ) :
    (following vMeas s aCmd).1.vRef = referred s aCmd ∧
    (following vMeas s aCmd).1.iTerm =
      (if referred s aCmd ≤ 0.0 then 0.0
      else s.iTerm + (ki * (referred s aCmd - vMeas) +
        kaw * (clampf (unlimited vMeas s aCmd) dutyMin dutyMax - unlimited vMeas s aCmd)) * dt) ∧
    (following vMeas s aCmd).1.prevMode = modeAcc := ⟨rfl, rfl, rfl⟩

theorem referred_within (s : LoopState ℚ) (aCmd : ℚ) : 0 ≤ referred s aCmd ∧ referred s aCmd ≤ 11 / 10 := by
  have ordered : (0.0 : ℚ) ≤ vMax := by
    rw [vMax_eq]
    norm_num
  obtain ⟨low, high⟩ : (0.0 : ℚ) ≤ referred s aCmd ∧ referred s aCmd ≤ vMax := clampf_within ordered _
  rw [zero_literal] at low
  rw [vMax_eq] at high
  exact ⟨low, high⟩

/-- A bound on the measured speed bounds the integrator. -/
theorem following_bounded {vMeas V bound : ℚ} (measured : |vMeas| ≤ V) (enough : 0.3 * (11 / 10 + V) + 2 ≤ bound)
    {s : LoopState ℚ} (within : |s.iTerm| ≤ bound) {aCmd : ℚ} (demand : |aCmd| ≤ 4) :
    |(following vMeas s aCmd).1.iTerm| ≤ bound := by
  obtain ⟨low, high⟩ := referred_within s aCmd
  obtain ⟨-, integrator, -⟩ := following_state vMeas s aCmd
  rw [integrator]
  split
  · rw [zero_literal, abs_zero]
    exact (abs_nonneg _).trans within
  · have forward := abs_inverseModel_le demand (abs_le.mpr ⟨by linarith, high⟩)
    have duty : |clampf (unlimited vMeas s aCmd) dutyMin dutyMax| ≤ 1 := by
      have limits : (dutyMin : ℚ) = -1 ∧ (dutyMax : ℚ) = 1 := by norm_num [dutyMin, dutyMax]
      rw [limits.1, limits.2, abs_le]
      exact clampf_within (by norm_num) _
    have wrong : |referred s aCmd - vMeas| ≤ 11 / 10 + V := by
      rw [abs_le] at measured ⊢
      constructor
      · linarith
      · linarith
    exact abs_integrated_le within wrong duty forward enough

theorem following_kept {vMeas : ℚ} (measured : |vMeas| ≤ 0.0325 * 2 ^ 128) {s : LoopState ℚ} (kept : LoopKept s)
    {aCmd : ℚ} (demand : |aCmd| ≤ 4) : LoopKept (following vMeas s aCmd).1 := by
  obtain ⟨reference, integrator, mode⟩ := following_state vMeas s aCmd
  constructor
  · rw [reference, vMax_eq]
    exact referred_within s aCmd
  · exact following_bounded measured (by norm_num) kept.iTerm demand
  · intro still
    rw [reference] at still
    rw [integrator, if_pos (by rw [still, zero_literal]), zero_literal]
  · intro other
    exact absurd mode other

theorem accDemand_within (accelCmd : ℚ) : |accDemand accelCmd| ≤ 4 := by
  have most : (aCmdMax : ℚ) = 4 := by
    unfold aCmdMax
    norm_num
  rw [accDemand, most, abs_le]
  exact clampf_within (by norm_num) _

theorem next_kept (input : LoopInput F32) {s : LoopState ℚ} (kept : LoopKept s) :
    LoopKept ((cpu1 ℚ).next s input.numbers) := by
  change LoopKept (controlLoop (finiteSpeed input.speed) (input.cmd.map Ieee.toRat) s).1
  rcases controlLoop_cases (finiteSpeed input.speed) (input.cmd.map Ieee.toRat) s with
    ⟨-, step⟩ | ⟨-, -, step⟩ | ⟨-, -, -, step⟩
  · rw [step]
    exact brakeStep_kept _ _ _
  · rw [step]
    exact manualStep_kept _ _ kept
  · rw [step, accStep_eq]
    apply following_kept _ (kept.entered modeAcc) (accDemand_within _)
    have radius : (encSpeedToMps : ℚ) = 0.0325 := rfl
    rw [measuredSpeed_finiteSpeed, radius, abs_mul, abs_of_nonneg (by norm_num : (0 : ℚ) ≤ 0.0325), mul_comm]
    exact mul_le_mul_of_nonneg_left (abs_finiteSpeed input.speed).le (by norm_num)

theorem loopStart_kept : LoopKept (loopStart : LoopState ℚ) := .of_cleared zero_literal zero_literal

/-! ### The motors -/

/-- Both channels are told percentages. -/
def Motors.Percent (m : Motors) : Prop := m.chA.Percent ∧ m.chB.Percent

theorem drivePwm_percent (u : ℚ) (fwd : Bool) : (drivePwm (compensatedDuty u) fwd).Percent :=
  ⟨compensatedDuty_within u, compensatedDuty_within u⟩

theorem coastBoth_percent : coastBoth.Percent := ⟨trivial, trivial⟩

theorem brakeBoth_percent : brakeBoth.Percent := by
  constructor
  · exact ⟨by decide, by decide⟩
  · exact ⟨by decide, by decide⟩

theorem braking_percent (braking : Prop) [Decidable braking] : (if braking then brakeBoth else coastBoth).Percent := by
  split
  · exact brakeBoth_percent
  · exact coastBoth_percent

theorem applyOutput_percent (u vMeas : ℚ) (brakeMode : UInt8) : (applyOutput u vMeas brakeMode).2.Percent := by
  unfold applyOutput
  by_cases drives : u ≥ (0.0 : ℚ)
  · rw [if_pos drives]
    exact drivePwm_percent u true
  rw [if_neg drives]
  by_cases slow : vMeas < vBrakeMin
  · rw [if_pos slow]
    exact coastBoth_percent
  rw [if_neg slow]
  exact braking_percent _

theorem controlLoop_percent (speed : ℚ) (cmd : DriveCmd ℚ) (s : LoopState ℚ) :
    (controlLoop speed cmd s).2.motors.Percent := by
  rcases controlLoop_cases speed cmd s with ⟨-, step⟩ | ⟨-, -, step⟩ | ⟨-, -, -, step⟩
  · rw [step]
    exact brakeBoth_percent
  · rw [step, manualStep_motors]
    split
    · exact coastBoth_percent
    · exact drivePwm_percent _ _
  · rw [step]
    exact applyOutput_percent _ _ _

/-! ### Every run -/

/-- A run on floats is a run on the rationals. -/
theorem run_numbers (inputs : List (LoopInput F32)) (s : LoopState ℚ) :
    (cpu1 ExactFloat).run (s.map finite) (inputs.map (LoopInput.map Floating.ofSingle)) =
      ((cpu1 ℚ).run s (inputs.map LoopInput.numbers)).map finite := by
  induction inputs generalizing s with
  | nil => rfl
  | cons input rest ih =>
    rw [List.map_cons, List.map_cons, Machine.run_cons, Machine.run_cons, ← ih, ← (controlLoop_exact s input).1]
    rfl

theorem run_kept (inputs : List (LoopInput F32)) {s : LoopState ℚ} (kept : LoopKept s) :
    LoopKept ((cpu1 ℚ).run s (inputs.map LoopInput.numbers)) := by
  induction inputs generalizing s with
  | nil => exact kept
  | cons input rest ih => exact ih (next_kept input kept)

theorem outputs_percent (inputs : List (LoopInput F32)) (s : LoopState ℚ) :
    ∀ out ∈ (cpu1 ExactFloat).outputs (s.map finite) (inputs.map (LoopInput.map Floating.ofSingle)),
      out.motors.Percent := by
  induction inputs generalizing s with
  | nil =>
    intro out member
    cases member
  | cons input rest ih =>
    obtain ⟨next, motors⟩ := controlLoop_exact s input
    intro out member
    rcases List.mem_cons.mp member with rfl | later
    · change ((cpu1 ExactFloat).output (s.map finite) (input.map ofIeee)).motors.Percent
      rw [motors]
      exact controlLoop_percent _ _ s
    · apply ih ((cpu1 ℚ).next s input.numbers)
      rwa [← next]

/-- Whatever commands and speeds come, the speed that the loop refers to is within its
bounds, the integrator is a finite float and cleared with it, and no channel's duty cycle
exceeds the period of the PWM. -/
theorem control_loop_invariant (inputs : List (LoopInput F32)) :
    let s := (cpu1 ExactFloat).run loopStart (inputs.map (LoopInput.map Floating.ofSingle))
    ((0.0 : ExactFloat) ≤ s.vRef ∧ s.vRef ≤ (1.1 : ExactFloat)) ∧
    (∃ i : ℚ, s.iTerm = .finite i ∧ |i| < Ieee.limit binary32) ∧
    (s.vRef = (0.0 : ExactFloat) → s.iTerm = (0.0 : ExactFloat)) ∧
    (s.prevMode ≠ modeAcc → s.vRef = (0.0 : ExactFloat) ∧ s.iTerm = (0.0 : ExactFloat)) ∧
    ∀ out ∈ (cpu1 ExactFloat).outputs loopStart (inputs.map (LoopInput.map Floating.ofSingle)),
      ∀ pins, (out.motors.chA.write pins).dutyCycle.toNat ≤ pwmPeriod ∧
        (out.motors.chB.write pins).dutyCycle.toNat ≤ pwmPeriod := by
  intro s
  have kept := run_kept inputs loopStart_kept
  have state : s = ((cpu1 ℚ).run loopStart (inputs.map LoopInput.numbers)).map finite := run_numbers inputs loopStart
  generalize (cpu1 ℚ).run loopStart (inputs.map LoopInput.numbers) = t at kept state
  have zero : (0.0 : ExactFloat) = finite 0 := by rw [literal, zero_literal]
  rw [state, zero]
  refine ⟨?_, ⟨t.iTerm, rfl, ?_⟩, ?_, ?_, ?_⟩
  · exact ⟨(finite_le_finite _ _).mpr kept.vRef.1, (finite_le_finite _ _).mpr kept.vRef.2⟩
  · rw [limit_eq]
    exact kept.iTerm.trans_lt (by norm_num)
  · intro still
    exact congrArg finite (kept.frozen (ExactFloat.finite.inj still))
  · intro other
    obtain ⟨vRef, iTerm⟩ := kept.cleared other
    exact ⟨congrArg finite vRef, congrArg finite iTerm⟩
  · intro out member pins
    obtain ⟨chA, chB⟩ := outputs_percent inputs loopStart out member
    exact ⟨chA.dutyCycle_le pins, chB.dutyCycle_le pins⟩

end SelfDriving.Rear
