import SelfDriving.Rear.ControlLoopProofs

/-! What following an acceleration takes over from the time before. The speed and the
integrator begin at zero, but the flag that separates braking from coasting is left as it
was: only a braking period sets it, and remote driving does not touch it. -/
namespace SelfDriving.Rear
open Ieee754

section
variable {α : Type} [FloatingMath α]

/-- Whether a command is followed by its acceleration. -/
def FollowsAcc (cmd : DriveCmd α) : Prop :=
  cmd.controlMode ≠ modeAeb ∧ cmd.controlMode ≠ modeManual ∧ cmd.emergencyStop = 0

instance (cmd : DriveCmd α) : Decidable (FollowsAcc cmd) := inferInstanceAs (Decidable (_ ∧ _ ∧ _))

/-- Nothing is left of an earlier speed. -/
def Cleared (s : LoopState α) : Prop := s.vRef = 0.0 ∧ s.iTerm = 0.0

/-- What every reachable state keeps, on any floats. -/
structure Separated (s : LoopState α) : Prop where
  cleared : s.prevMode ≠ modeAcc → Cleared s
  flag : s.brakeMode = 0 ∨ s.brakeMode = 1

/-- Two states between which no later output tells. -/
structure Alike (s t : LoopState α) : Prop where
  vRef : s.vRef = t.vRef
  iTerm : s.iTerm = t.iTerm
  brakeMode : s.brakeMode = t.brakeMode
  mode : s.prevMode = t.prevMode ∨ Cleared s

theorem cleared_reset (s : LoopState α) : Cleared (accResetState s) := ⟨rfl, rfl⟩

/-- A mode begins cleared, also when it has begun before and was cleared then. -/
theorem Separated.entered_manual {s : LoopState α} (kept : Separated s) : Cleared (entered modeManual s) := by
  unfold entered
  by_cases manual : s.prevMode = modeManual
  · rw [if_neg (not_not_intro manual)]
    apply kept.cleared
    rw [manual]
    decide
  · rw [if_pos manual]
    exact cleared_reset s

theorem entered_cleared (mode : UInt8) {s : LoopState α} (cleared : Cleared s) : Cleared (entered mode s) := by
  unfold entered
  split
  · exact cleared_reset s
  · exact cleared

theorem entered_brakeMode (mode : UInt8) (s : LoopState α) : (entered mode s).brakeMode = s.brakeMode := by
  unfold entered
  split <;> rfl

theorem applyOutput_brakeMode (u vMeas : α) {brakeMode : UInt8} (flag : brakeMode = 0 ∨ brakeMode = 1) :
    (applyOutput u vMeas brakeMode).1 = 0 ∨ (applyOutput u vMeas brakeMode).1 = 1 := by
  unfold applyOutput
  dsimp only
  split_ifs
  · exact flag
  · exact flag
  · exact .inr rfl
  · exact .inr rfl
  · exact .inl rfl
  · exact .inl rfl
  · exact flag
  · exact flag

theorem next_separated (input : LoopInput α) {s : LoopState α} (kept : Separated s) :
    Separated ((cpu1 α).next s input) := by
  change Separated (controlLoop input.speed input.cmd s).1
  rcases controlLoop_cases input.speed input.cmd s with ⟨-, step⟩ | ⟨-, -, step⟩ | ⟨-, -, -, step⟩
  · rw [step]
    exact ⟨fun _ => ⟨rfl, rfl⟩, .inr rfl⟩
  · rw [step, manualStep_state]
    refine ⟨fun _ => kept.entered_manual, ?_⟩
    change (entered modeManual s).brakeMode = 0 ∨ (entered modeManual s).brakeMode = 1
    rw [entered_brakeMode]
    exact kept.flag
  · rw [step, accStep_eq]
    refine ⟨fun other => absurd rfl other, ?_⟩
    apply applyOutput_brakeMode
    rw [entered_brakeMode]
    exact kept.flag

theorem run_separated (inputs : List (LoopInput α)) : Separated ((cpu1 α).run loopStart inputs) := by
  apply (cpu1 α).run_invariant Separated fun s input kept => next_separated input kept
  exact ⟨fun other => absurd rfl other, .inl rfl⟩

/-- A period that does not follow an acceleration leaves nothing of the speed. -/
theorem next_cleared {input : LoopInput α} (other : ¬ FollowsAcc input.cmd) {s : LoopState α} (kept : Separated s) :
    Cleared ((cpu1 α).next s input) := by
  change Cleared (controlLoop input.speed input.cmd s).1
  rcases controlLoop_cases input.speed input.cmd s with ⟨-, step⟩ | ⟨-, -, step⟩ | ⟨notAeb, notManual, free, -⟩
  · rw [step]
    exact ⟨rfl, rfl⟩
  · rw [step, manualStep_state]
    exact kept.entered_manual
  · exact absurd ⟨notAeb, notManual, free⟩ other

/-! ### Two runs under the same inputs -/

theorem Alike.entered {s t : LoopState α} (alike : Alike s t) (mode : UInt8) :
    (entered mode s).vRef = (entered mode t).vRef ∧ (entered mode s).iTerm = (entered mode t).iTerm := by
  rcases alike.mode with same | cleared
  · unfold Rear.entered
    rw [same]
    split
    · exact ⟨rfl, rfl⟩
    · exact ⟨alike.vRef, alike.iTerm⟩
  · have cleared' : Cleared t := ⟨alike.vRef ▸ cleared.1, alike.iTerm ▸ cleared.2⟩
    obtain ⟨vRef, iTerm⟩ := entered_cleared mode cleared
    obtain ⟨vRef', iTerm'⟩ := entered_cleared mode cleared'
    exact ⟨vRef.trans vRef'.symm, iTerm.trans iTerm'.symm⟩

theorem cpu1_output (s : LoopState α) (input : LoopInput α) :
    (cpu1 α).output s input = (controlLoop input.speed input.cmd s).2 := rfl

theorem unlimited_congr (vMeas aCmd : α) {s t : LoopState α} (vRef : s.vRef = t.vRef) (iTerm : s.iTerm = t.iTerm) :
    unlimited vMeas s aCmd = unlimited vMeas t aCmd := by
  unfold unlimited referred
  rw [vRef, iTerm]

theorem following_congr (vMeas aCmd : α) {s t : LoopState α} (vRef : s.vRef = t.vRef) (iTerm : s.iTerm = t.iTerm)
    (brakeMode : s.brakeMode = t.brakeMode) : following vMeas s aCmd = following vMeas t aCmd := by
  unfold following
  rw [unlimited_congr vMeas aCmd vRef iTerm]
  unfold referred
  rw [vRef, iTerm, brakeMode]

theorem following_motors (vMeas aCmd : α) (s : LoopState α) :
    (following vMeas s aCmd).2.motors =
      (applyOutput (clampf (unlimited vMeas s aCmd) dutyMin dutyMax) vMeas s.brakeMode).2 := rfl

/-- Emergency braking leaves the same behind of every state. -/
theorem brakeStep_alike (cmd cmd' : DriveCmd α) (vMeas vMeas' : α) (s t : LoopState α) :
    Alike (brakeStep cmd vMeas s).1 (brakeStep cmd' vMeas' t).1 := ⟨rfl, rfl, rfl, .inr ⟨rfl, rfl⟩⟩

/-- The part of the loop that runs does not depend on the state. -/
theorem controlLoop_parts (speed : α) (cmd : DriveCmd α) :
    (∀ s, controlLoop speed cmd s = brakeStep cmd (measuredSpeed speed) s) ∨
    (∀ s, controlLoop speed cmd s = manualStep cmd (measuredSpeed speed) s) ∨
    (∀ s, controlLoop speed cmd s = accStep cmd (measuredSpeed speed) s) := by
  by_cases braked : cmd.controlMode = modeAeb || cmd.emergencyStop ≠ 0
  · exact .inl fun s => if_pos braked
  by_cases manual : cmd.controlMode = modeManual
  · exact .inr (.inl fun s => (if_neg braked).trans (if_pos manual))
  · exact .inr (.inr fun s => (if_neg braked).trans (if_neg manual))

/-- One period takes states alike to states alike, and the motors do the same. -/
theorem Alike.next {s t : LoopState α} (alike : Alike s t) (input : LoopInput α) :
    Alike ((cpu1 α).next s input) ((cpu1 α).next t input) ∧
      ((cpu1 α).output s input).motors = ((cpu1 α).output t input).motors := by
  change Alike (controlLoop input.speed input.cmd s).1 (controlLoop input.speed input.cmd t).1 ∧
    (controlLoop input.speed input.cmd s).2.motors = (controlLoop input.speed input.cmd t).2.motors
  rcases controlLoop_parts input.speed input.cmd with step | step | step
  · rw [step s, step t]
    exact ⟨⟨rfl, rfl, rfl, .inl rfl⟩, rfl⟩
  · rw [step s, step t, manualStep_state, manualStep_state, manualStep_motors, manualStep_motors]
    obtain ⟨vRef, iTerm⟩ := alike.entered modeManual
    refine ⟨⟨vRef, iTerm, ?_, .inl rfl⟩, rfl⟩
    change (Rear.entered modeManual s).brakeMode = (Rear.entered modeManual t).brakeMode
    rw [entered_brakeMode, entered_brakeMode, alike.brakeMode]
  · obtain ⟨vRef, iTerm⟩ := alike.entered modeAcc
    have flag : (Rear.entered modeAcc s).brakeMode = (Rear.entered modeAcc t).brakeMode := by
      rw [entered_brakeMode, entered_brakeMode, alike.brakeMode]
    rw [step s, step t, accStep_eq, accStep_eq, following_congr _ _ vRef iTerm flag]
    exact ⟨⟨rfl, rfl, rfl, .inl rfl⟩, rfl⟩

/-- From states alike on, the motors always do the same. -/
theorem Alike.motors {s t : LoopState α} (alike : Alike s t) (future : List (LoopInput α)) :
    ((cpu1 α).outputs s future).map (·.motors) = ((cpu1 α).outputs t future).map (·.motors) := by
  induction future generalizing s t with
  | nil => rfl
  | cons input rest ih =>
    obtain ⟨later, now⟩ := alike.next input
    rw [Machine.outputs, Machine.outputs, List.map_cons, List.map_cons, now, ih later]

end

/-! ### A demand between braking and coasting -/

/-- Between the two thresholds the flag decides, and stays. -/
theorem applyOutput_band {α : Type} [FloatingMath α] {u vMeas : α} (negative : ¬ u ≥ (0.0 : α))
    (moving : ¬ vMeas < vBrakeMin) (low : ¬ -u > brakeTh + modeHyst) (high : ¬ -u < brakeTh - modeHyst)
    (brakeMode : UInt8) :
    applyOutput u vMeas brakeMode = (brakeMode, if brakeMode = 1 then brakeBoth else coastBoth) := by
  unfold applyOutput
  dsimp only
  rw [if_neg negative, if_neg moving, if_neg low, if_neg high]

/-- A deceleration at a speed where the flag decides. -/
def bandInput : LoopInput F32 := ⟨10.25, ⟨modeAcc, 1, 0.0, -4.0, 0⟩⟩

/-- The duty that the loop computes for it from the beginning. -/
def bandDuty : F32 :=
  clampf (unlimited (measuredSpeed bandInput.speed) loopStart (accDemand bandInput.cmd.accelCmd)) dutyMin dutyMax

theorem band_output {s : LoopState F32} (cleared : Cleared s) :
    ((cpu1 F32).output s bandInput).motors = if s.brakeMode = 1 then brakeBoth else coastBoth := by
  have follows : controlLoop bandInput.speed bandInput.cmd s =
      accStep bandInput.cmd (measuredSpeed bandInput.speed) s := by
    rcases controlLoop_cases bandInput.speed bandInput.cmd s with ⟨braked, -⟩ | ⟨manual, -⟩ | ⟨-, -, -, step⟩
    · exact absurd braked (by decide)
    · exact absurd manual (by decide)
    · exact step
  have vRef : (entered modeAcc s).vRef = loopStart.vRef := (entered_cleared modeAcc cleared).1
  have iTerm : (entered modeAcc s).iTerm = loopStart.iTerm := (entered_cleared modeAcc cleared).2
  have step : ((cpu1 F32).output s bandInput).motors =
      (applyOutput bandDuty (measuredSpeed bandInput.speed) (entered modeAcc s).brakeMode).2 := by
    rw [cpu1_output, follows, accStep_eq, following_motors, unlimited_congr _ _ vRef iTerm, bandDuty]
  rw [step, entered_brakeMode,
    applyOutput_band (by decide +kernel) (by decide +kernel) (by decide +kernel) (by decide +kernel)]

/-- When neither of two runs has followed an acceleration last, the motors do the same
from then on exactly when the braking flags agree. -/
theorem clean_start_iff_flags_agree (first second : List (LoopInput F32)) {last last' : LoopInput F32}
    (other : ¬ FollowsAcc last.cmd) (other' : ¬ FollowsAcc last'.cmd) :
    (∀ future,
      ((cpu1 F32).outputs ((cpu1 F32).run loopStart (first ++ [last])) future).map (·.motors) =
        ((cpu1 F32).outputs ((cpu1 F32).run loopStart (second ++ [last'])) future).map (·.motors)) ↔
      ((cpu1 F32).run loopStart (first ++ [last])).brakeMode =
        ((cpu1 F32).run loopStart (second ++ [last'])).brakeMode := by
  have cleared : Cleared ((cpu1 F32).run loopStart (first ++ [last])) := by
    rw [Machine.run_concat]
    exact next_cleared other (run_separated first)
  have cleared' : Cleared ((cpu1 F32).run loopStart (second ++ [last'])) := by
    rw [Machine.run_concat]
    exact next_cleared other' (run_separated second)
  have flag := (run_separated (first ++ [last])).flag
  have flag' := (run_separated (second ++ [last'])).flag
  generalize (cpu1 F32).run loopStart (first ++ [last]) = s at *
  generalize (cpu1 F32).run loopStart (second ++ [last']) = t at *
  constructor
  · intro same
    have told := same [bandInput]
    have now : ((cpu1 F32).output s bandInput).motors = ((cpu1 F32).output t bandInput).motors :=
      (List.cons.inj told).1
    rw [band_output cleared, band_output cleared'] at now
    rcases flag with coasts | brakes
    · rcases flag' with coasts' | brakes'
      · rw [coasts, coasts']
      · rw [coasts, brakes'] at now
        exact absurd now (by decide)
    · rcases flag' with coasts' | brakes'
      · rw [brakes, coasts'] at now
        exact absurd now (by decide)
      · rw [brakes, brakes']
  · intro flags future
    exact Alike.motors ⟨cleared.1.trans cleared'.1.symm, cleared.2.trans cleared'.2.symm, flags, .inr cleared⟩ future

/-- After emergency braking the flag is set, so nothing older can tell. -/
theorem clean_start_after_braking (first second : List (LoopInput F32)) {last last' : LoopInput F32}
    (braked : last.cmd.controlMode = modeAeb ∨ last.cmd.emergencyStop ≠ 0)
    (braked' : last'.cmd.controlMode = modeAeb ∨ last'.cmd.emergencyStop ≠ 0) (future : List (LoopInput F32)) :
    ((cpu1 F32).outputs ((cpu1 F32).run loopStart (first ++ [last])) future).map (·.motors) =
      ((cpu1 F32).outputs ((cpu1 F32).run loopStart (second ++ [last'])) future).map (·.motors) := by
  have set (s : LoopState F32) {input : LoopInput F32}
      (braked : input.cmd.controlMode = modeAeb ∨ input.cmd.emergencyStop ≠ 0) :
      (cpu1 F32).next s input = (brakeStep input.cmd (measuredSpeed input.speed) s).1 := by
    change (controlLoop input.speed input.cmd s).1 = _
    rcases controlLoop_cases input.speed input.cmd s with ⟨-, step⟩ | ⟨manual, free, -⟩ | ⟨notAeb, -, free, -⟩
    · rw [step]
    · rcases braked with aeb | stop
      · rw [manual] at aeb
        exact absurd aeb (by decide)
      · exact absurd free stop
    · exact absurd braked (not_or.mpr ⟨notAeb, not_not_intro free⟩)
  rw [Machine.run_concat, Machine.run_concat, set _ braked, set _ braked']
  exact (brakeStep_alike _ _ _ _ _ _).motors future

/-- Standing still under remote driving. -/
def standing : LoopInput F32 := ⟨0.0, ⟨modeManual, dirStop, 0.0, 0.0, 0⟩⟩

/-- Automatic emergency braking. -/
def braking : LoopInput F32 := ⟨0.0, ⟨modeAeb, dirStop, 0.0, 0.0, 0⟩⟩

/-- Remote driving after emergency braking leaves the flag set, and the same gentle
deceleration brakes that would coast without it. -/
theorem braking_outlives_manual :
    ¬ FollowsAcc standing.cmd ∧
    ((cpu1 F32).outputs ((cpu1 F32).run loopStart ([] ++ [standing])) [bandInput]).map (·.motors) ≠
      ((cpu1 F32).outputs ((cpu1 F32).run loopStart ([braking] ++ [standing])) [bandInput]).map (·.motors) := by
  constructor
  · decide
  · decide +kernel

theorem clean_start_two_stops :
    (∀ future,
      ((cpu1 F32).outputs ((cpu1 F32).run loopStart ([] ++ [standing])) future).map (·.motors) =
        ((cpu1 F32).outputs ((cpu1 F32).run loopStart ([standing] ++ [standing])) future).map (·.motors)) ↔
      ((cpu1 F32).run loopStart ([] ++ [standing])).brakeMode =
        ((cpu1 F32).run loopStart ([standing] ++ [standing])).brakeMode :=
  clean_start_iff_flags_agree [] [standing] (by decide) (by decide)

end SelfDriving.Rear
