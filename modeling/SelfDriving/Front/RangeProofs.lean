import SelfDriving.Foundations.Ieee754Order
import SelfDriving.Front.SteeringProofs

/-! The ranges that the steering keeps with the floats of the controller, whatever
bytes arrive and whatever the clock says: the angles and the rate stay finite and
within their limits, no mark of a valid command outlives its link, and every servo
pulse fits its period. -/
namespace SelfDriving.Front
open Ieee754

/-- Within two bounds, so a number. -/
structure Within (low high value : F32) : Prop where
  low_le : low ≤ value
  le_high : value ≤ high

theorem Within.number {low high value : F32} (within : Within low high value) : value.isNaN = false :=
  within.low_le.2.1

theorem clampFloat_within {value low high : F32} (number : value.isNaN = false) (ordered : low ≤ high) :
    Within low high (clampFloat value low high) := by
  unfold clampFloat
  split
  · exact ⟨Ieee.le_refl ordered.1, ordered⟩
  rename_i notBelow
  split
  · exact ⟨ordered, Ieee.le_refl ordered.2.1⟩
  · rename_i notAbove
    exact ⟨Ieee.le_of_not_lt number ordered.1 notBelow, Ieee.le_of_not_lt ordered.2.1 number notAbove⟩

/-! ### Pulses -/

/-- A pulse that the servo takes, in a period of its own. -/
structure Pulse.Fits (pulse : Pulse) : Prop where
  min_le : 1150 ≤ pulse.highUs.toNat
  le_max : pulse.highUs.toNat ≤ 2000
  period : pulse.lowUs.toNat = 20000 - pulse.highUs.toNat

/-- Every pulse is clamped before it is sent. -/
theorem fits_sendServoPulseUs (pulseUs : UInt32) : (sendServoPulseUs F32 pulseUs).Fits := by
  have least : (Floating.ofUInt32 servoMinPulseUs : F32).toRat = 1150 := by decide +kernel
  have most : (Floating.ofUInt32 servoMaxPulseUs : F32).toRat = 2000 := by decide +kernel
  have ordered : (Floating.ofUInt32 servoMinPulseUs : F32) ≤ Floating.ofUInt32 servoMaxPulseUs :=
    ⟨Ieee.isNaN_ofRat _ _, Ieee.isNaN_ofRat _ _, by rw [least, most]; norm_num⟩
  have number : (Floating.ofUInt32 pulseUs : F32).isNaN = false := Ieee.isNaN_ofRat _ _
  obtain ⟨low, high⟩ := clampFloat_within number ordered
  have above := low.2.2
  have below := high.2.2
  unfold sendServoPulseUs
  generalize clampFloat (Floating.ofUInt32 pulseUs : F32) (Floating.ofUInt32 servoMinPulseUs)
    (Floating.ofUInt32 servoMaxPulseUs) = clamped at *
  rw [least] at above
  rw [most] at below
  have positive : 0 < clamped.toRat := by linarith
  have value := Ieee.absVal_of_pos positive
  have word : (Floating.toUInt32 clamped).toNat = ⌊clamped.absVal⌋₊ :=
    Ieee.toUInt32_toNat low.2.1 (Ieee.neg_of_pos positive) (by rw [value]; linarith)
  have min_le : 1150 ≤ (Floating.toUInt32 clamped).toNat := by
    rw [word, value]
    exact Nat.le_floor (by exact_mod_cast above)
  have le_max : (Floating.toUInt32 clamped).toNat ≤ 2000 := by
    rw [word, value]
    exact Nat.floor_le_of_le (by exact_mod_cast below)
  refine ⟨min_le, le_max, ?_⟩
  have period : servoPeriodUs.toNat = 20000 := rfl
  change (servoPeriodUs - Floating.toUInt32 clamped).toNat = 20000 - (Floating.toUInt32 clamped).toNat
  rw [UInt32.toNat_sub, period]
  omega

/-! ### One call -/

/-- What every reachable state keeps. -/
structure InRange (s : State F32) : Prop where
  target : Within (-steeringMaxAbsRad) steeringMaxAbsRad s.targetAngleRad
  applied : Within (-steeringMaxAbsRad) steeringMaxAbsRad s.appliedAngleRad
  rate : Within 0.05 10.0 s.maxRateRadS
  valid : s.commandValid = true → s.linkValid = true ∧ s.initialized = true ∧ s.emergencyCenter = false

theorem steeringMaxAbsRad_finite : (steeringMaxAbsRad : F32).isFinite = true := by decide +kernel

theorem neg_le_steeringMaxAbsRad : -(steeringMaxAbsRad : F32) ≤ steeringMaxAbsRad := by decide +kernel

theorem Within.isFinite_angle {value : F32} (within : Within (-steeringMaxAbsRad) steeringMaxAbsRad value) :
    value.isFinite = true :=
  Ieee.isFinite_of_between within.low_le within.le_high steeringMaxAbsRad_finite steeringMaxAbsRad_finite

theorem Within.isFinite_rate {value : F32} (within : Within 0.05 10.0 value) : value.isFinite = true :=
  Ieee.isFinite_of_between within.low_le within.le_high (by decide +kernel) (by decide +kernel)

theorem within_zero : Within (-steeringMaxAbsRad) steeringMaxAbsRad 0.0 :=
  ⟨by decide +kernel, by decide +kernel⟩

theorem within_defaultRate : Within 0.05 10.0 steeringDefaultMaxRateRadS :=
  ⟨by decide +kernel, by decide +kernel⟩

theorem isFiniteFloat_number {value : F32} (finite : isFiniteFloat value = true) : value.isNaN = false := by
  simp only [isFiniteFloat, Bool.and_eq_true, Ieee.beq_iff] at finite
  exact finite.1.1.1

/-- An accepted target is clamped, and so is its rate. -/
theorem inRange_acceptTarget {s : State F32} (applied : Within (-steeringMaxAbsRad) steeringMaxAbsRad s.appliedAngleRad)
    {angleRad maxRateRadS : F32} (angle : angleRad.isNaN = false) (rate : maxRateRadS.isNaN = false)
    (sequence : UInt32) (commandValid emergencyCenter : Bool) (nowMs : UInt32) :
    InRange (acceptTarget sequence angleRad maxRateRadS commandValid emergencyCenter nowMs s) := by
  refine ⟨?_, applied, clampFloat_within rate (by decide +kernel), ?_⟩
  · simp only [acceptTarget]
    split
    · exact clampFloat_within angle neg_le_steeringMaxAbsRad
    · exact within_zero
  · intro valid
    simp only [acceptTarget, Bool.and_eq_true, Bool.not_eq_true'] at valid ⊢
    exact ⟨trivial, trivial, valid.2⟩

theorem Uncounted.inRange {s next : State F32} (same : Uncounted s next) (range : InRange s) : InRange next := by
  rw [same]
  exact ⟨range.target, range.applied, range.rate, range.valid⟩

theorem inRange_takes {packet : Memory} {nowMs : UInt32} {s next : State F32} (range : InRange s)
    (takes : Takes packet nowMs s next) : InRange next := by
  rcases takes with ⟨authorizes, rfl⟩ | ⟨-, emergency, rfl⟩
  · exact inRange_acceptTarget range.applied (isFiniteFloat_number authorizes.angleFinite)
      (isFiniteFloat_number authorizes.rateFinite) ..
  · exact inRange_acceptTarget range.applied (Ieee.isNaN_literal ..) within_defaultRate.number ..

theorem inRange_watchdog {s : State F32} (range : InRange s) (nowMs : UInt32) : InRange (watchdog nowMs s) := by
  rcases watchdog_cases nowMs s with ⟨-, same⟩ | ⟨-, trips⟩
  · rw [same]
    exact range
  · rw [trips]
    exact ⟨within_zero, range.applied, range.rate, nofun⟩

/-- The limit of a step is a number, however long the step seems to be. -/
theorem stepLimit_number {rate : F32} (finite : rate.isFinite = true) (dtMs : UInt32) :
    (rate * (Floating.ofUInt32 dtMs / (1000.0 : F32))).isNaN = false := by
  have small : (dtMs.toNat : ℚ) ≤ 2 ^ 32 := by exact_mod_cast dtMs.toNat_lt.le
  have word : (Floating.ofUInt32 dtMs : F32).isFinite = true :=
    Ieee.isFinite_ofRat (Nat.cast_nonneg _) small (by decide +kernel) false
  have thousand : (1000.0 : F32).isFinite = true := by decide +kernel
  have value : (1000.0 : F32).absVal = 1000 := by decide +kernel
  have count : (Floating.ofUInt32 dtMs : F32).absVal ≤ 2 ^ 32 := by
    have whole : (Ieee.ofRat false (2 ^ 32) : F32).absVal = 2 ^ 32 := by decide +kernel
    exact (Ieee.absVal_ofRat_mono (Nat.cast_nonneg _) small false false).trans_eq whole
  have seconds : (Floating.ofUInt32 dtMs / (1000.0 : F32)).isFinite = true := by
    have quotient : (Floating.ofUInt32 dtMs : F32).absVal / 1000 ≤ 2 ^ 32 := by
      rw [div_le_iff₀ (by norm_num)]
      linarith
    have nonneg : 0 ≤ (Floating.ofUInt32 dtMs : F32).absVal / 1000 := div_nonneg (Ieee.absVal_nonneg _) (by norm_num)
    rw [Ieee.div_of_isFinite word thousand (by decide +kernel), value]
    exact Ieee.isFinite_ofRat nonneg quotient (by decide +kernel) _
  rw [Ieee.mul_of_isFinite finite seconds]
  exact Ieee.isNaN_ofRat _ _

/-- A choice among numbers is a number. -/
theorem isNaN_ite {condition : Prop} [Decidable condition] {first second : F32} (number : first.isNaN = false)
    (number' : second.isNaN = false) : (if condition then first else second).isNaN = false := by
  split
  · exact number
  · exact number'

theorem inRange_slew {s : State F32} (range : InRange s) (nowMs : UInt32) : InRange (slew nowMs s) := by
  refine ⟨range.target, ?_, range.rate, range.valid⟩
  have computed := stepLimit_number range.rate.isFinite_rate (nowMs - s.lastApplyMs)
  have least : (0.001 : F32).isNaN = false := Ieee.isNaN_literal ..
  have error : (s.targetAngleRad - s.appliedAngleRad).isNaN = false :=
    Ieee.isNaN_add range.target.isFinite_angle range.applied.number
  simp only [slew]
  refine clampFloat_within (Ieee.isNaN_add range.applied.isFinite_angle ?_) neg_le_steeringMaxAbsRad
  -- However the step is limited, it is a number.
  generalize (0.001 : F32) = minStep at *
  refine isNaN_ite (isNaN_ite least computed) (isNaN_ite ?_ error)
  rw [Ieee.isNaN_neg]
  exact isNaN_ite least computed

/-- Every call keeps the ranges. -/
theorem inRange_next {s : State F32} (range : InRange s) (call : Call) : InRange ((node F32).next s call) := by
  rcases call_cases s call with ⟨-, -, same | ⟨nowMs, rfl⟩⟩ | ⟨packet, start, -, -, -, -, same, takes⟩
  · exact same.inRange range
  · exact inRange_slew (inRange_watchdog range nowMs) nowMs
  · exact inRange_takes (same.inRange range) takes

theorem inRange_init (bootMs : UInt32) : InRange (init bootMs : State F32) :=
  ⟨within_zero, within_zero, within_defaultRate, nofun⟩

theorem inRange_run (bootMs : UInt32) (calls : List Call) : InRange ((node F32).run (init bootMs) calls) :=
  (node F32).run_invariant InRange (fun _ call range => inRange_next range call) (inRange_init bootMs) calls

/-- The pulses that a call drives fit the servo, in any state. -/
theorem fits_of_pulses {s : State F32} {call : Call} {pulses : List Pulse}
    (drives : (node F32).output s call = .pulses pulses) : ∀ pulse ∈ pulses, pulse.Fits := by
  cases call with
  | acceptHpscPacket payload length nowMs => cases drives
  | acceptEthernetFrame frame length nowMs => cases drives
  | runOnce nowMs =>
    cases drives
    intro pulse member
    rw [List.mem_singleton.mp member]
    exact fits_sendServoPulseUs _
  | holdCurrentForMs holdMs =>
    cases drives
    intro pulse member
    rw [List.eq_of_mem_replicate member]
    exact fits_sendServoPulseUs _

/-- Whatever is called in whatever order, the angles and the rate are finite and within
their limits, a valid command has its link, and the pulses fit their period. -/
theorem steering_in_range (bootMs : UInt32) (calls : List Call) :
    let s := (node F32).run (init bootMs) calls
    (s.targetAngleRad.isFinite = true ∧ -(0.50 : F32) ≤ s.targetAngleRad ∧ s.targetAngleRad ≤ (0.50 : F32)) ∧
      (s.appliedAngleRad.isFinite = true ∧ -(0.50 : F32) ≤ s.appliedAngleRad ∧ s.appliedAngleRad ≤ (0.50 : F32)) ∧
      (s.maxRateRadS.isFinite = true ∧ (0.05 : F32) ≤ s.maxRateRadS ∧ s.maxRateRadS ≤ (10.0 : F32)) ∧
      (s.commandValid = true → s.linkValid = true ∧ s.initialized = true ∧ s.emergencyCenter = false) ∧
      ∀ call pulses, (node F32).output s call = .pulses pulses → ∀ pulse ∈ pulses,
        1150 ≤ pulse.highUs.toNat ∧ pulse.highUs.toNat ≤ 2000 ∧ pulse.lowUs.toNat = 20000 - pulse.highUs.toNat := by
  intro s
  obtain ⟨target, applied, rate, valid⟩ := inRange_run bootMs calls
  refine ⟨⟨target.isFinite_angle, target.low_le, target.le_high⟩,
    ⟨applied.isFinite_angle, applied.low_le, applied.le_high⟩, ⟨rate.isFinite_rate, rate.low_le, rate.le_high⟩, valid, ?_⟩
  intro call pulses drives pulse member
  obtain ⟨least, most, period⟩ := fits_of_pulses drives pulse member
  exact ⟨least, most, period⟩

end SelfDriving.Front
