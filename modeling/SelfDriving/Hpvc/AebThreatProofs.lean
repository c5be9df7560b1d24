import SelfDriving.Hpvc.AebBrakingProofs

/-! A greater threat never brakes less. Two controllers run side by side on inputs of
which the second are at least as threatening: the hold of the second never ends
before the hold of the first, and at every step the second brakes at least as hard. -/
namespace SelfDriving.Hpvc
open Ieee754

/-- A reading that is valid in the first frame is valid in the second and no farther. -/
def Nearer (valid valid' : Bool) (distanceM distanceM' : F64) : Prop :=
  valid = true → valid' = true ∧ distanceM' ≤ distanceM

variable (config : AebConfig)

/-- Two inputs at one time, both with a fresh front frame, the second at least as threatening. -/
structure Threatens (first second : AebInput) : Prop where
  now : second.now = first.now
  person : (personInPath config (freshMiddle config first)).1 = true →
    (personInPath config (freshMiddle config second)).1 = true
  readings : ∃ front front', freshFront config first = some front ∧ freshFront config second = some front' ∧
    Nearer front.tofValid front'.tofValid front.tofFrontM front'.tofFrontM ∧
    Nearer front.leftValid front'.leftValid front.ultrasonicLeftM front'.ultrasonicLeftM ∧
    Nearer front.rightValid front'.rightValid front.ultrasonicRightM front'.ultrasonicRightM

/-- A nearer reading stays within a threshold that is no smaller. -/
theorem Nearer.within {valid valid' : Bool} {distanceM distanceM' limitM limitM' : F64}
    (nearer : Nearer valid valid' distanceM distanceM')
    (wider : valid' = true → distanceM' ≤ limitM → distanceM' ≤ limitM')
    (inside : valid = true ∧ distanceM ≤ limitM) : valid' = true ∧ distanceM' ≤ limitM' := by
  obtain ⟨valid', closer⟩ := nearer inside.1
  exact ⟨valid', wider valid' (Ieee.le_trans closer inside.2)⟩

/-- A person in the path only widens the threshold of the ToF. -/
theorem centerLimit_widens (gain : (1.0 : F64) ≤ config.personRangeGain) {person person' : Bool}
    (also : person = true → person' = true) {distanceM limitM : F64} (positive : (0.0 : F64) < distanceM)
    (inside : distanceM ≤ centerLimit config person limitM) :
    distanceM ≤ centerLimit config person' limitM := by
  cases person with
  | true =>
    rw [also rfl]
    exact inside
  | false =>
    cases person' with
    | false => exact inside
    | true => exact Ieee.le_mul_of_one_le positive inside gain

theorem positive_of_tofValid {front : FrontSensorFrame} (valid : front.tofValid = true) :
    (0.0 : F64) < front.tofFrontM := by
  rw [FrontSensorFrame.tofValid, Bool.and_eq_true, finitePositive, Bool.and_eq_true, decide_eq_true_eq] at valid
  exact valid.2.2

/-- Whatever zone a reading of the first frame lies in, one of the second does too. -/
theorem within_of_threatens (gain : (1.0 : F64) ≤ config.personRangeGain) {front front' : FrontSensorFrame}
    {person person' : Bool} (also : person = true → person' = true)
    (tof : Nearer front.tofValid front'.tofValid front.tofFrontM front'.tofFrontM)
    (left : Nearer front.leftValid front'.leftValid front.ultrasonicLeftM front'.ultrasonicLeftM)
    (right : Nearer front.rightValid front'.rightValid front.ultrasonicRightM front'.ultrasonicRightM)
    {centerM sideM : F64} (inside : Within front (centerLimit config person centerM) sideM) :
    Within front' (centerLimit config person' centerM) sideM := by
  rcases inside with center | side | side
  · refine .inl (tof.within (fun valid within => ?_) center)
    exact centerLimit_widens config gain also (positive_of_tofValid valid) within
  · exact .inr (.inl (left.within (fun _ within => within) side))
  · exact .inr (.inr (right.within (fun _ within => within) side))

/-- The second hold lasts at least as long as the first. -/
def Outlasts (first second : AebController) : Prop :=
  first.holdUntil.isNaN = false ∧ second.holdUntil.isNaN = false ∧
    ∀ now : F64, now < first.holdUntil → now < second.holdUntil

theorem fullBrake_iff (controller : AebController) {input : AebInput} {front : FrontSensorFrame}
    (fresh : freshFront config input = some front) :
    ((aeb config).output controller input).state = .fullBrake ↔
      InFull config front (personInPath config (freshMiddle config input)).1 := by
  obtain ⟨state, _⟩ := braking_step config controller fresh rfl
  rw [state]
  constructor
  · intro full
    by_contra outside
    rw [if_neg outside] at full
    split at full
    · cases full
    · rw [readingState, if_neg outside] at full
      split_ifs at full
  · intro inside
    rw [if_pos inside]

/-- One step: the second controller brakes at least as hard, and its hold still outlasts the other. -/
theorem threat_step (gain : (1.0 : F64) ≤ config.personRangeGain) {controller controller' : AebController}
    {first second : AebInput} (outlasts : Outlasts controller controller')
    (threatens : Threatens config first second) :
    Outlasts ((aeb config).next controller first) ((aeb config).next controller' second) ∧
      ((aeb config).output controller first).brakePercent ≤
        ((aeb config).output controller' second).brakePercent := by
  obtain ⟨number, number', holds⟩ := outlasts
  obtain ⟨now, also, front, front', fresh, fresh', tof, left, right⟩ := threatens
  obtain ⟨_, brake⟩ := braking_step config controller fresh rfl
  obtain ⟨_, brake'⟩ := braking_step config controller' fresh' rfl
  have full := fullBrake_iff config controller fresh
  have full' := fullBrake_iff config controller' fresh'
  have carried {centerM sideM : F64}
      (inside : Within front (centerLimit config (personInPath config (freshMiddle config first)).1 centerM) sideM) :=
    within_of_threatens config gain also tof left right inside
  constructor
  · refine ⟨(holdUntil_next config controller first number).1,
      (holdUntil_next config controller' second number').1, fun later within => ?_⟩
    have kept : later < controller'.holdUntil → later < ((aeb config).next controller' second).holdUntil :=
      fun within => Ieee.lt_of_lt_of_le within (holdUntil_next config controller' second number').2
    rcases holdUntil_cases config controller first with ⟨braking, moved⟩ | ⟨_, same⟩
    · rw [moved, Python.lt_max_iff number] at within
      rcases within with earlier | extended
      · exact kept (holds later earlier)
      · -- The second brakes fully as well, and extends its hold by as much.
        have braking' := full'.mpr (carried (full.mp braking))
        rcases holdUntil_cases config controller' second with ⟨_, moved'⟩ | ⟨other, _⟩
        · rw [moved', now, Python.lt_max_iff number']
          exact .inr extended
        · exact absurd braking' other
    · rw [same] at within
      exact kept (holds later within)
  · rw [brake, brake', now]
    by_cases hard : InFull config front (personInPath config (freshMiddle config first)).1 ∨
        first.now < controller.holdUntil
    · rw [if_pos hard, if_pos (hard.imp (fun inside => carried inside) (holds first.now))]
    · rw [if_neg hard]
      by_cases moderate : InPartial config front (personInPath config (freshMiddle config first)).1
      · rw [if_pos moderate, if_pos (carried moderate)]
        split_ifs <;> decide
      · rw [if_neg moderate]
        split_ifs <;> decide

/-- Over whole runs of two new controllers at the same times, the one whose inputs
are at least as threatening brakes at least as hard at every step. -/
theorem threat_monotone (gain : (1.0 : F64) ≤ config.personRangeGain) {firsts seconds : List AebInput}
    (threatens : List.Forall₂ (Threatens config) firsts seconds) :
    List.Forall₂ (fun first second : AebDecision => first.brakePercent ≤ second.brakePercent)
      ((aeb config).outputs aebStart firsts) ((aeb config).outputs aebStart seconds) := by
  refine Machine.outputs_forall₂ Outlasts (Threatens config) _ (fun controller controller' first second outlasts
    threatens => threat_step config gain outlasts threatens) ?_ threatens
  exact ⟨Ieee.isNaN_literal .., Ieee.isNaN_literal .., fun _ within => within⟩

/-- A front frame whose ToF reads 0.25 m, within the partial threshold. -/
def nearFront : FrontSensorFrame := { closeFront with tofFrontM := 0.25 }

theorem threat_monotone_closing :
    List.Forall₂ (fun first second : AebDecision => first.brakePercent ≤ second.brakePercent)
      ((aeb {}).outputs aebStart [⟨some nearFront, none, 1.0⟩, ⟨some nearFront, none, 1.25⟩])
      ((aeb {}).outputs aebStart [⟨some closeFront, none, 1.0⟩, ⟨some nearFront, none, 1.25⟩]) := by
  have gain : (1.0 : F64) ≤ ({} : AebConfig).personRangeGain := by decide +kernel
  have blind (distanceM distanceM' : F64) : Nearer false false distanceM distanceM' := nofun
  have closer : Nearer nearFront.tofValid closeFront.tofValid nearFront.tofFrontM closeFront.tofFrontM :=
    fun _ => ⟨by decide +kernel, by decide +kernel⟩
  have equal : Nearer nearFront.tofValid nearFront.tofValid nearFront.tofFrontM nearFront.tofFrontM :=
    fun _ => ⟨by decide +kernel, by decide +kernel⟩
  have nobody (front : Option FrontSensorFrame) (now : F64) {outcome : Prop}
      (person : (personInPath {} (freshMiddle {} ⟨front, none, now⟩)).1 = true) : outcome := by
    cases person
  have first : Threatens {} ⟨some nearFront, none, 1.0⟩ ⟨some closeFront, none, 1.0⟩ :=
    ⟨rfl, nobody _ _, nearFront, closeFront, by decide +kernel, by decide +kernel, closer, blind _ _, blind _ _⟩
  have second : Threatens {} ⟨some nearFront, none, 1.25⟩ ⟨some nearFront, none, 1.25⟩ :=
    ⟨rfl, nobody _ _, nearFront, nearFront, by decide +kernel, by decide +kernel, equal, blind _ _, blind _ _⟩
  exact threat_monotone {} gain (.cons first (.cons second .nil))

end SelfDriving.Hpvc
