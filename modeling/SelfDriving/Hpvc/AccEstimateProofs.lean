import SelfDriving.Hpvc.RuntimeDerivedProofs

/-! The acceleration that the runtime store estimates, in exact arithmetic: nothing that
makes the situation worse, a shorter distance, a higher speed or a request for emergency
braking, makes it larger. -/
namespace SelfDriving.Hpvc
open Ieee754

/-- Snapshots that an acceleration can be estimated from. -/
structure UsableSnapshots (front : FrontSnapshot) (rear : RearSnapshot) (vehicleSpeed : F64) : Prop where
  tofFinite : front.tofM.isFinite = true
  tofPositive : (0.0 : F64) < front.tofM
  speed : rear.vehicleSpeedMps = some vehicleSpeed
  speedFinite : vehicleSpeed.isFinite = true

theorem estimateAcceleration_of_usable (s : RuntimeControlState) {front : FrontSnapshot} {rear : RearSnapshot}
    {vehicleSpeed : F64} (usable : UsableSnapshots front rear vehicleSpeed) :
    (estimateAcceleration s (some front) (some rear)).1 =
      some (gapAcceleration s.requestedAebEnabled s.requestedAccEnabled front.tofM vehicleSpeed).1 := by
  have far : ¬ front.tofM ≤ (0.0 : F64) := fun low =>
    Ieee.lt_irrefl _ (Ieee.lt_of_lt_of_le usable.tofPositive low)
  simp only [estimateAcceleration, usable.tofFinite, far, usable.speed, usable.speedFinite, Bool.not_true,
    Bool.false_or, decide_false, Bool.false_eq_true, if_false]

/-! ### The law -/

/-- The acceleration for a gap before it is limited. -/
def gapLaw (tofM vehicleSpeed : ℚ) : ℚ :=
  7 / 5 * (tofM - (9 / 20 + 9 / 10 * max 0 vehicleSpeed)) - 7 / 20 * max 0 vehicleSpeed

/-- The limit for an emergency. -/
def guarded (emergency : Prop) [Decidable emergency] (acc : ℚ) : ℚ := if emergency then min acc (-(3 / 2)) else acc

/-- The limits at the end. -/
def limited (acc : ℚ) : ℚ := max (-(5 / 2)) (min (3 / 2) acc)

/-- The gap that is wanted is above its lower limit at every speed, so that limit has no part in
the law; of the two requests only that for emergency braking has one. -/
theorem gapAcceleration_eq (requestedAebEnabled requestedAccEnabled : Bool) (tofM vehicleSpeed : ℚ) :
    (gapAcceleration requestedAebEnabled requestedAccEnabled tofM vehicleSpeed).1 =
      limited (guarded (requestedAebEnabled = true ∨ tofM ≤ 9 / 50) (gapLaw tofM vehicleSpeed)) := by
  have nonneg : 0 ≤ max 0 vehicleSpeed := le_max_left ..
  have gap : max (0.35 : ℚ) (0.45 + 0.90 * max 0.0 vehicleSpeed) = 9 / 20 + 9 / 10 * max 0 vehicleSpeed := by
    norm_num
    linarith
  have law : (1.40 : ℚ) * (tofM - (9 / 20 + 9 / 10 * max 0 vehicleSpeed)) - 0.35 * max 0.0 vehicleSpeed =
      gapLaw tofM vehicleSpeed := by
    unfold gapLaw
    norm_num
  have limits : (2.50 : ℚ) = 5 / 2 ∧ (1.50 : ℚ) = 3 / 2 ∧ (0.18 : ℚ) = 9 / 50 := by norm_num
  simp only [gapAcceleration, Python.max_eq_max, Python.min_eq_min, gap, law, limited, guarded, limits,
    Bool.or_eq_true, decide_eq_true_eq]
  by_cases emergency : requestedAebEnabled = true ∨ tofM ≤ 9 / 50
  · rw [if_pos emergency, if_pos emergency]
  · rw [if_neg emergency, if_neg emergency]
    split
    · rfl
    · rfl

/-- Closer and faster is never more. -/
theorem gapLaw_mono {tofM tofM' vehicleSpeed vehicleSpeed' : ℚ} (closer : tofM ≤ tofM')
    (faster : vehicleSpeed' ≤ vehicleSpeed) : gapLaw tofM vehicleSpeed ≤ gapLaw tofM' vehicleSpeed' := by
  have speeds : max 0 vehicleSpeed' ≤ max 0 vehicleSpeed := max_le_max_left 0 faster
  unfold gapLaw
  linarith

theorem guarded_mono {emergency emergency' : Prop} [Decidable emergency] [Decidable emergency']
    (worse : emergency' → emergency) {acc acc' : ℚ} (le : acc ≤ acc') : guarded emergency acc ≤ guarded emergency' acc' := by
  unfold guarded
  by_cases now : emergency
  · rw [if_pos now]
    split
    · exact min_le_min_right _ le
    · exact (min_le_left ..).trans le
  · rw [if_neg now, if_neg fun before => now (worse before)]
    exact le

theorem limited_mono {acc acc' : ℚ} (le : acc ≤ acc') : limited acc ≤ limited acc' :=
  max_le_max_left _ (min_le_min_left _ le)

/-- In exact arithmetic the estimate is within its limits, falls with a shorter distance, with a
higher speed and with a request for emergency braking, brakes when it is asked to or has to, and
does not accelerate towards what is near. In floats it is the same law. -/
theorem acceleration_estimate_monotone :
    (∀ (s : RuntimeControlState) (front : FrontSnapshot) (rear : RearSnapshot) (vehicleSpeed : F64),
      UsableSnapshots front rear vehicleSpeed →
      (estimateAcceleration s (some front) (some rear)).1 =
        some (gapAcceleration s.requestedAebEnabled s.requestedAccEnabled front.tofM vehicleSpeed).1) ∧
    ∀ (aeb acc : Bool) (tofM vehicleSpeed : ℚ), 0 < tofM →
      let acceleration := (gapAcceleration aeb acc tofM vehicleSpeed).1
      (∀ (aeb' acc' : Bool) (tofM' vehicleSpeed' : ℚ), tofM ≤ tofM' → vehicleSpeed' ≤ vehicleSpeed →
        (aeb' = true → aeb = true) → acceleration ≤ (gapAcceleration aeb' acc' tofM' vehicleSpeed').1) ∧
      (-2.5 ≤ acceleration ∧ acceleration ≤ 1.5) ∧
      (aeb = true ∨ tofM ≤ 0.18 → acceleration ≤ -1.5) ∧
      (tofM ≤ 0.45 → acceleration ≤ 0) := by
  refine ⟨fun s front rear vehicleSpeed => estimateAcceleration_of_usable s, ?_⟩
  intro aeb acc tofM vehicleSpeed _ acceleration
  have law : acceleration = limited (guarded (aeb = true ∨ tofM ≤ 9 / 50) (gapLaw tofM vehicleSpeed)) :=
    gapAcceleration_eq ..
  rw [law]
  refine ⟨?_, ?_, ?_, ?_⟩
  · intro aeb' acc' tofM' vehicleSpeed' closer faster request
    rw [gapAcceleration_eq]
    apply limited_mono (guarded_mono ?_ (gapLaw_mono closer faster))
    exact Or.imp request closer.trans
  · norm_num [limited]
  · intro emergency
    have limit : (0.18 : ℚ) = 9 / 50 := by norm_num
    rw [limit] at emergency
    rw [guarded, if_pos emergency]
    norm_num [limited]
  · intro near
    have nonneg : 0 ≤ max 0 vehicleSpeed := le_max_left ..
    have below : gapLaw tofM vehicleSpeed ≤ 0 := by
      unfold gapLaw
      norm_num at near
      linarith
    have under : guarded (aeb = true ∨ tofM ≤ 9 / 50) (gapLaw tofM vehicleSpeed) ≤ 0 := by
      unfold guarded
      split
      · exact (min_le_left ..).trans below
      · exact below
    exact max_le (by norm_num) ((min_le_right ..).trans under)

end SelfDriving.Hpvc
