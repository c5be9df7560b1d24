import SelfDriving.Rear.ControlLoopInvariant

/-! The integrator under any commands: what a measured speed can add to it in a period is
less than what the feedback from the duty limits takes away once it is large. -/
namespace SelfDriving.Rear
open Ieee754 ExactFloat

/-- The encoder gives a finite speed, along the road at most `V`. -/
structure Measures (V : ℚ) (input : LoopInput F32) : Prop where
  finite : input.speed.isFinite = true
  within : |input.speed.toRat * encSpeedToMps| ≤ V

/-- What bounds the integrator. -/
def integratorBound (V : ℚ) : ℚ := 0.3 * (11 / 10 + V) + 2

theorem integratorBound_pos {V : ℚ} (positive : 0 < V) : 0 < integratorBound V := by
  unfold integratorBound
  linarith

theorem entered_bounded {bound : ℚ} (nonneg : 0 ≤ bound) {s : LoopState ℚ} (within : |s.iTerm| ≤ bound) (mode : UInt8) :
    |(entered mode s).iTerm| ≤ bound := by
  unfold entered
  split
  · change |(0.0 : ℚ)| ≤ bound
    rwa [zero_literal, abs_zero]
  · exact within

/-- One period keeps the bound, whichever part of the loop runs. -/
theorem next_bounded {V : ℚ} (positive : 0 < V) {input : LoopInput F32} (measures : Measures V input)
    {s : LoopState ℚ} (within : |s.iTerm| ≤ integratorBound V) :
    |((cpu1 ℚ).next s input.numbers).iTerm| ≤ integratorBound V := by
  have nonneg := (integratorBound_pos positive).le
  change |(controlLoop (finiteSpeed input.speed) (input.cmd.map Ieee.toRat) s).1.iTerm| ≤ _
  rcases controlLoop_cases (finiteSpeed input.speed) (input.cmd.map Ieee.toRat) s with
    ⟨-, step⟩ | ⟨-, -, step⟩ | ⟨-, -, -, step⟩
  · rw [step]
    change |(0.0 : ℚ)| ≤ _
    rwa [zero_literal, abs_zero]
  · rw [step, manualStep_state]
    exact entered_bounded nonneg within modeManual
  · rw [step, accStep_eq]
    apply following_bounded _ le_rfl (entered_bounded nonneg within modeAcc) (accDemand_within _)
    rw [measuredSpeed_finiteSpeed, finiteSpeed, if_pos measures.finite]
    exact measures.within

theorem run_bounded {V : ℚ} (positive : 0 < V) {inputs : List (LoopInput F32)}
    (measures : ∀ input ∈ inputs, Measures V input) {s : LoopState ℚ} (within : |s.iTerm| ≤ integratorBound V) :
    |((cpu1 ℚ).run s (inputs.map LoopInput.numbers)).iTerm| ≤ integratorBound V := by
  induction inputs generalizing s with
  | nil => exact within
  | cons input rest ih =>
    apply ih fun later member => measures later (List.mem_cons_of_mem _ member)
    exact next_bounded positive (measures input (List.mem_cons_self ..)) within

/-- A bound on the measured speeds bounds the integrator, in every run and whatever is
commanded. -/
theorem integrator_bounded (V : ℚ) (positive : 0 < V) :
    ∃ bound : ℚ, ∀ inputs : List (LoopInput F32), (∀ input ∈ inputs, Measures V input) →
      ∃ i : ℚ, ((cpu1 ExactFloat).run loopStart (inputs.map (LoopInput.map Floating.ofSingle))).iTerm = .finite i ∧
        |i| ≤ bound := by
  refine ⟨integratorBound V, fun inputs measures => ?_⟩
  have run := run_numbers inputs (loopStart : LoopState ℚ)
  refine ⟨_, congrArg LoopState.iTerm run, run_bounded positive measures ?_⟩
  change |(0.0 : ℚ)| ≤ _
  rw [zero_literal, abs_zero]
  exact (integratorBound_pos positive).le

/-- Full acceleration at a standstill. -/
def standingStart : LoopInput F32 := ⟨0.0, ⟨modeAcc, 0, 0.0, 4.0, 0⟩⟩

theorem integrator_bounded_standing : ∃ bound : ℚ, ∀ count, ∃ i : ℚ,
    ((cpu1 ExactFloat).run loopStart
      ((List.replicate count standingStart).map (LoopInput.map Floating.ofSingle))).iTerm = .finite i ∧ |i| ≤ bound := by
  obtain ⟨bound, bounded⟩ := integrator_bounded 1 (by norm_num)
  refine ⟨bound, fun count => bounded _ fun input member => ?_⟩
  rw [List.eq_of_mem_replicate member]
  exact ⟨by decide +kernel, by decide +kernel⟩

end SelfDriving.Rear
