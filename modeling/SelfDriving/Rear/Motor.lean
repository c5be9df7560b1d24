import SelfDriving.Rear.ControlLoop

/-! The motor driver: what it writes to the PWM timer and the pins of a channel. -/
namespace SelfDriving.Rear

/-- One period of the PWM in ticks of its timer. -/
def pwmPeriod : Nat := 1000

/-- The duty cycle in ticks, and the pins for the direction and the brake. -/
structure ChannelPins where
  dutyCycle : UInt32
  dir : Bool
  brake : Bool
  deriving DecidableEq

/-- The duty is told in percent. Only driving sets the direction. -/
def Channel.write (pins : ChannelPins) : Channel → ChannelPins
  | .mov duty dir => ⟨UInt32.ofInt (duty * 10), dir ≠ 0, false⟩
  | .coast => { pins with dutyCycle := 0, brake := false }
  | .brake duty => { pins with dutyCycle := UInt32.ofInt (duty * 10), brake := true }

/-- Every duty is a percentage. -/
def Channel.Percent : Channel → Prop
  | .mov duty _ => 0 ≤ duty ∧ duty ≤ 100
  | .coast => True
  | .brake duty => 0 ≤ duty ∧ duty ≤ 100

theorem percent_ticks {duty : Int} (percent : 0 ≤ duty ∧ duty ≤ 100) :
    (UInt32.ofInt (duty * 10)).toNat ≤ pwmPeriod := by
  have fits : duty * 10 % 2 ^ 32 = duty * 10 := Int.emod_eq_of_lt (by omega) (by omega)
  have ticks : (duty * 10).toNat ≤ 1000 := by omega
  rw [UInt32.ofInt, UInt32.toNat_ofNat', fits]
  exact (Nat.mod_le _ _).trans ticks

/-- A percentage is at most a whole period. -/
theorem Channel.Percent.dutyCycle_le {c : Channel} (percent : c.Percent) (pins : ChannelPins) :
    (c.write pins).dutyCycle.toNat ≤ pwmPeriod := by
  cases c with
  | mov duty dir => exact percent_ticks percent
  | coast => exact Nat.zero_le _
  | brake duty => exact percent_ticks percent

end SelfDriving.Rear
