import SelfDriving.Hpvc.AebController

/-! What the brake hold holds. A full brake moves the end of the hold to its own
time plus the hold time and nothing moves it back, so the hold itself is right.
But it is applied last: a call that finds its inputs unusable returns before it
and releases the brake. -/
namespace SelfDriving.Hpvc
open Ieee754

variable (config : AebConfig)

/-- A call gets past the early returns: the front frame is fresh, or the middle
frame is and shows no person in the path. -/
def Usable (input : AebInput) : Prop :=
  (freshFront config input).isSome ∨
    (freshMiddle config input).isSome ∧ (personInPath config (freshMiddle config input)).1 = false

/-- The controller within one call, its sequence advanced. -/
def AebController.advance (controller : AebController) : AebController :=
  { controller with sequence := controller.sequence + 1 }

/-- The result of a call whose inputs are usable, before the hold. -/
def assessed (input : AebInput) : Best :=
  assess config (freshFront config input) (personInPath config (freshMiddle config input)).1
    (personInPath config (freshMiddle config input)).2

/-- A call either returns early, without braking, or assesses its inputs and applies the hold. -/
theorem decide_cases (controller : AebController) (input : AebInput) :
    (¬ Usable config input ∧ (aeb config).next controller input = controller.advance ∧
      ((aeb config).output controller input).brakePercent = 0 ∧
      ((aeb config).output controller input).state ≠ .fullBrake) ∨
    (Usable config input ∧
      (aeb config).next controller input =
        (applyHold config input.now (assessed config input) controller.advance).1 ∧
      ((aeb config).output controller input).state =
        (applyHold config input.now (assessed config input) controller.advance).2.state ∧
      ((aeb config).output controller input).brakePercent =
        Max.max 0 (Min.min 100 (applyHold config input.now (assessed config input) controller.advance).2.brake)) := by
  simp only [Machine.next, Machine.output, aeb, decide]
  by_cases blind : ((freshFront config input).isNone && (freshMiddle config input).isNone) = true
  · left
    rw [if_pos blind]
    simp only [Bool.and_eq_true, Option.isNone_iff_eq_none] at blind
    refine ⟨?_, rfl, rfl, nofun⟩
    rintro (front | ⟨middle, _⟩)
    · simp [blind.1] at front
    · simp [blind.2] at middle
  rw [if_neg blind]
  by_cases degraded : ((freshFront config input).isNone &&
      (personInPath config (freshMiddle config input)).1) = true
  · left
    rw [if_pos degraded]
    simp only [Bool.and_eq_true, Option.isNone_iff_eq_none] at degraded
    refine ⟨?_, rfl, rfl, nofun⟩
    rintro (front | ⟨_, clear⟩)
    · simp [degraded.1] at front
    · simp [degraded.2] at clear
  · right
    rw [if_neg degraded]
    refine ⟨?_, rfl, rfl, rfl⟩
    unfold Usable
    cases front : freshFront config input with
    | some frame => exact .inl rfl
    | none =>
      simp only [front, Option.isNone_none, Bool.true_and, Option.isNone_iff_eq_none, Bool.not_eq_true] at *
      exact .inr ⟨Option.isSome_iff_ne_none.mpr blind, degraded⟩

/-! ### The end of the hold -/

theorem applyHold_cases (now : F64) (best : Best) (controller : AebController) :
    (best.state = .fullBrake ∧ (applyHold config now best controller).2 = best ∧
      (applyHold config now best controller).1 =
        { controller with holdUntil := Python.max controller.holdUntil (now + config.stopHoldS) }) ∨
    (best.state ≠ .fullBrake ∧ (applyHold config now best controller).1 = controller ∧
      (applyHold config now best controller).2.state ≠ .fullBrake ∧
      (now < controller.holdUntil → 100 ≤ (applyHold config now best controller).2.brake)) := by
  unfold applyHold
  by_cases full : best.state = .fullBrake
  · rw [if_pos full]
    exact .inl ⟨full, rfl, rfl⟩
  · right
    rw [if_neg full]
    split
    · exact ⟨full, rfl, nofun, fun _ => le_max_right _ _⟩
    · rename_i expired
      exact ⟨full, rfl, full, fun within => absurd within expired⟩

/-- The end of the hold is a number, and a call can only move it on. -/
theorem holdUntil_next (controller : AebController) (input : AebInput)
    (number : controller.holdUntil.isNaN = false) :
    ((aeb config).next controller input).holdUntil.isNaN = false ∧
      controller.holdUntil ≤ ((aeb config).next controller input).holdUntil := by
  rcases decide_cases config controller input with ⟨_, same, _⟩ | ⟨_, held, _⟩
  · rw [same]
    exact ⟨number, Ieee.le_refl number⟩
  · rw [held]
    rcases applyHold_cases config input.now (assessed config input) controller.advance with
      ⟨_, _, moved⟩ | ⟨_, same, _⟩
    · rw [moved]
      exact ⟨Python.isNaN_max number, Python.le_max_left number⟩
    · rw [same]
      exact ⟨number, Ieee.le_refl number⟩

theorem holdUntil_run (controller : AebController) (inputs : List AebInput)
    (number : controller.holdUntil.isNaN = false) :
    ((aeb config).run controller inputs).holdUntil.isNaN = false ∧
      controller.holdUntil ≤ ((aeb config).run controller inputs).holdUntil := by
  induction inputs generalizing controller with
  | nil => exact ⟨number, Ieee.le_refl number⟩
  | cons input rest ih =>
    obtain ⟨number', moved⟩ := holdUntil_next config controller input number
    obtain ⟨number'', rest_moved⟩ := ih ((aeb config).next controller input) number'
    exact ⟨number'', Ieee.le_trans moved rest_moved⟩

/-- A full brake holds until its time plus the hold time at least. -/
theorem holdUntil_of_fullBrake (controller : AebController) (input : AebInput)
    (number : controller.holdUntil.isNaN = false) (number' : (input.now + config.stopHoldS).isNaN = false)
    (full : ((aeb config).output controller input).state = .fullBrake) :
    input.now + config.stopHoldS ≤ ((aeb config).next controller input).holdUntil := by
  rcases decide_cases config controller input with ⟨_, _, _, other⟩ | ⟨_, held, state, _⟩
  · exact absurd full other
  · rw [state] at full
    rw [held]
    rcases applyHold_cases config input.now (assessed config input) controller.advance with
      ⟨_, _, moved⟩ | ⟨_, _, other, _⟩
    · rw [moved]
      exact Python.le_max_right number number'
    · exact absurd full other

/-! ### Within the hold -/

theorem zoneState_cases (distanceM fullM partialM fcwM : F64) :
    zoneState distanceM fullM partialM fcwM = (.fullBrake, 100) ∨
      zoneState distanceM fullM partialM fcwM = (.partialBrake, 65) ∨
      zoneState distanceM fullM partialM fcwM = (.fcw, 0) ∨
      zoneState distanceM fullM partialM fcwM = (.clear, 0) := by
  unfold zoneState
  split
  · exact .inl rfl
  split
  · exact .inr (.inl rfl)
  split
  · exact .inr (.inr (.inl rfl))
  · exact .inr (.inr (.inr rfl))

/-- Considering a reading keeps a full brake at 100 percent. -/
theorem consider_fullBrake (person : Bool) (best : Best) (candidate : Candidate)
    (hundred : best.state = .fullBrake → best.brake = 100) :
    (consider config person best candidate).state = .fullBrake →
      (consider config person best candidate).brake = 100 := by
  unfold consider
  split
  · exact hundred
  · dsimp only
    split
    · intro full
      rcases zoneState_cases candidate.distanceM _ _ _ with zone | zone | zone | zone
      · exact congrArg Prod.snd zone
      · cases (congrArg Prod.fst zone).symm.trans full
      · cases (congrArg Prod.fst zone).symm.trans full
      · cases (congrArg Prod.fst zone).symm.trans full
    · exact hundred

theorem foldl_consider_fullBrake (person : Bool) (readings : List Candidate) (best : Best)
    (hundred : best.state = .fullBrake → best.brake = 100) :
    (readings.foldl (consider config person) best).state = .fullBrake →
      (readings.foldl (consider config person) best).brake = 100 := by
  induction readings generalizing best with
  | nil => exact hundred
  | cons candidate rest ih => exact ih _ (consider_fullBrake config person best candidate hundred)

theorem assess_fullBrake (front : Option FrontSensorFrame) (person : Bool) (confidence : F64)
    (full : (assess config front person confidence).state = .fullBrake) :
    (assess config front person confidence).brake = 100 := by
  unfold assess warnOfPerson at full ⊢
  split at full
  · cases full
  · rename_i other
    rw [if_neg other]
    exact foldl_consider_fullBrake config person _ _ nofun full

/-- Within the hold a call with usable inputs brakes with 100 percent. -/
theorem brake_of_usable (controller : AebController) (input : AebInput)
    (within : input.now < controller.holdUntil) (usable : Usable config input) :
    ((aeb config).output controller input).brakePercent = 100 := by
  rcases decide_cases config controller input with ⟨early, _⟩ | ⟨_, _, _, brake⟩
  · exact absurd usable early
  · rw [brake]
    have hundred : 100 ≤ (applyHold config input.now (assessed config input) controller.advance).2.brake := by
      rcases applyHold_cases config input.now (assessed config input) controller.advance with
        ⟨full, same, _⟩ | ⟨_, _, _, held⟩
      · rw [same, assessed, assess_fullBrake config _ _ _ full]
      · exact held within
    omega

/-- After a full brake and before its hold time is over a call brakes with 100
percent exactly when its inputs are usable, in every run. -/
theorem hold_brakes_iff (before between : List AebInput) (braking later : AebInput)
    (full : ((aeb config).output ((aeb config).run aebStart before) braking).state = .fullBrake)
    (within : later.now < braking.now + config.stopHoldS) :
    ((aeb config).output ((aeb config).run aebStart (before ++ braking :: between)) later).brakePercent = 100 ↔
      Usable config later := by
  constructor
  · intro brakes
    rcases decide_cases config ((aeb config).run aebStart (before ++ braking :: between)) later with
      ⟨_, _, released, _⟩ | ⟨usable, _⟩
    · rw [released] at brakes
      cases brakes
    · exact usable
  · intro usable
    have start := holdUntil_run config aebStart before (Ieee.isNaN_literal ..)
    have held := holdUntil_of_fullBrake config _ braking start.1 within.2.1 full
    have started := holdUntil_next config _ braking start.1
    have kept := holdUntil_run config _ between started.1
    rw [Machine.run_append, Machine.run_cons]
    exact brake_of_usable config _ later
      (Ieee.lt_of_lt_of_le within (Ieee.le_trans held kept.2)) usable

/-- A front frame whose ToF reads 0.1 m, received at one second. -/
def closeFront : FrontSensorFrame := ⟨1, 0, 1.0, 4, 0, 0.1, 0.0, 0.0⟩

theorem hold_brakes_while_usable :
    ((aeb {}).output ((aeb {}).run aebStart [⟨some closeFront, none, 1.0⟩])
      ⟨some { closeFront with tofFrontM := 2.0 }, none, 1.25⟩).brakePercent = 100 :=
  (hold_brakes_iff {} [] [] ⟨some closeFront, none, 1.0⟩
    ⟨some { closeFront with tofFrontM := 2.0 }, none, 1.25⟩ (by decide +kernel) (by decide +kernel)).mpr
    (.inl (by decide +kernel))

/-- A full brake at one second, and no new frame until the last one is stale. -/
theorem silence_releases_brake :
    let config : AebConfig := {}
    let braking : AebInput := ⟨some closeFront, none, 1.0⟩
    let later : AebInput := ⟨some closeFront, none, 1.55⟩
    (0.0 : F64) ≤ config.stopHoldS ∧ braking.now ≤ later.now ∧
      ((aeb config).output aebStart braking).state = .fullBrake ∧
      later.now < braking.now + config.stopHoldS ∧
      ((aeb config).output ((aeb config).run aebStart [braking]) later).brakePercent ≠ 100 := by
  refine ⟨?_, ?_, ?_, ?_, ?_⟩ <;> decide +kernel

end SelfDriving.Hpvc
