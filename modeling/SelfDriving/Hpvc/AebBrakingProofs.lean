import SelfDriving.Foundations.Ieee754Order
import SelfDriving.Hpvc.AebHoldProofs

/-! Exactly when the emergency braking brakes. The loop over the readings keeps the
most severe zone that any of them lies in, whatever the thresholds are, and the
end of the hold is decided by the full brakes before. A call with a fresh front
frame is settled by these two; a call without one brakes only within the hold. -/
namespace SelfDriving.Hpvc
open Ieee754

/-- Some valid reading is within its threshold, the ToF's or the sides'. -/
def Within (front : FrontSensorFrame) (centerM sideM : F64) : Prop :=
  (front.tofValid = true ∧ front.tofFrontM ≤ centerM) ∨
    (front.leftValid = true ∧ front.ultrasonicLeftM ≤ sideM) ∨
    (front.rightValid = true ∧ front.ultrasonicRightM ≤ sideM)

instance (front : FrontSensorFrame) (centerM sideM : F64) : Decidable (Within front centerM sideM) :=
  inferInstanceAs (Decidable (_ ∨ _ ∨ _))

variable (config : AebConfig)

/-- A threshold of the ToF, scaled when a person is in the path. -/
def centerLimit (person : Bool) (limitM : F64) : F64 :=
  if person then limitM * config.personRangeGain else limitM

abbrev InFull (front : FrontSensorFrame) (person : Bool) : Prop :=
  Within front (centerLimit config person config.frontFullM) config.sideFullM

abbrev InPartial (front : FrontSensorFrame) (person : Bool) : Prop :=
  Within front (centerLimit config person config.frontPartialM) config.sidePartialM

abbrev InFcw (front : FrontSensorFrame) (person : Bool) : Prop :=
  Within front (centerLimit config person config.frontFcwM) config.sideFcwM

/-- The times of the decisions of a run that were full brakes. -/
def fullBrakes (inputs : List AebInput) : List F64 :=
  (aeb config).collect (fun controller input =>
    if ((aeb config).output controller input).state = .fullBrake then [input.now] else []) aebStart inputs

/-- Some full brake of the run is less than the hold time ago. -/
abbrev Holding (inputs : List AebInput) (now : F64) : Prop :=
  ∃ time ∈ fullBrakes config inputs, now < time + config.stopHoldS

/-! ### The zone of one reading -/

theorem three_le_zone {distanceM fullM partialM fcwM : F64} :
    3 ≤ (zoneState distanceM fullM partialM fcwM).1.toNat ↔ distanceM ≤ fullM := by
  unfold zoneState
  split_ifs <;> simp_all [AebState.toNat]

theorem two_le_zone {distanceM fullM partialM fcwM : F64} :
    2 ≤ (zoneState distanceM fullM partialM fcwM).1.toNat ↔ distanceM ≤ fullM ∨ distanceM ≤ partialM := by
  unfold zoneState
  split_ifs <;> simp_all [AebState.toNat]

theorem one_le_zone {distanceM fullM partialM fcwM : F64} :
    1 ≤ (zoneState distanceM fullM partialM fcwM).1.toNat ↔
      distanceM ≤ fullM ∨ distanceM ≤ partialM ∨ distanceM ≤ fcwM := by
  unfold zoneState
  split_ifs <;> simp_all [AebState.toNat]

/-- The brake that goes with a zone. -/
def brakeOf : AebState → Int
  | .fullBrake => 100
  | .partialBrake => 65
  | _ => 0

/-- A state that a zone can have, with its brake. -/
def Graded (state : AebState) (brake : Int) : Prop := state.toNat ≤ 3 ∧ brake = brakeOf state

theorem graded_zone (distanceM fullM partialM fcwM : F64) :
    Graded (zoneState distanceM fullM partialM fcwM).1 (zoneState distanceM fullM partialM fcwM).2 := by
  rcases zoneState_cases distanceM fullM partialM fcwM with zone | zone | zone | zone
  all_goals
    rw [zone]
    exact ⟨by decide, rfl⟩

/-- The zone number of a reading. -/
def zoneLevel (distanceM : F64) (isFrontCenter person : Bool) : Nat :=
  (rangeState config distanceM isFrontCenter person).1.toNat

theorem zone_antitone {near far fullM partialM fcwM : F64} (closer : near ≤ far) :
    (zoneState far fullM partialM fcwM).1.toNat ≤ (zoneState near fullM partialM fcwM).1.toNat := by
  have reach {limitM : F64} : far ≤ limitM → near ≤ limitM := Ieee.le_trans closer
  unfold zoneState
  split_ifs <;> simp_all [AebState.toNat]

theorem brakeOf_mono {low high : AebState} (le : low.toNat ≤ high.toNat) (bound : high.toNat ≤ 3) :
    brakeOf low ≤ brakeOf high := by
  cases high <;> cases low <;> simp_all [AebState.toNat, brakeOf]

/-! ### The loop over the readings -/

/-- Considering a reading takes the more severe of the zone so far and its own. -/
theorem consider_level (person : Bool) {best : Best} (candidate : Candidate)
    (graded : Graded best.state best.brake) (positive : finitePositive candidate.distanceM = true) :
    Graded (consider config person best candidate).state (consider config person best candidate).brake ∧
      (consider config person best candidate).state.toNat =
        Max.max best.state.toNat (zoneLevel config candidate.distanceM candidate.isFrontCenter person) := by
  have zone : Graded (rangeState config candidate.distanceM candidate.isFrontCenter person).1
      (rangeState config candidate.distanceM candidate.isFrontCenter person).2 := graded_zone ..
  unfold consider zoneLevel
  rw [if_neg (by simp [positive])]
  generalize rangeState config candidate.distanceM candidate.isFrontCenter person = reading at zone ⊢
  obtain ⟨state, brake⟩ := reading
  obtain ⟨small, rfl : brake = brakeOf state⟩ := zone
  obtain ⟨small', brake'⟩ := graded
  dsimp only at small ⊢
  split
  · rename_i beyond
    have worse : best.state.toNat ≤ state.toNat := by
      by_contra less
      have weaker := brakeOf_mono (Nat.le_of_not_le less) small'
      simp only [Bool.or_eq_true, decide_eq_true_eq, gt_iff_lt] at beyond
      omega
    exact ⟨⟨small, rfl⟩, (max_eq_right worse).symm⟩
  · rename_i kept
    have mild : state.toNat ≤ best.state.toNat := by
      by_contra more
      simp only [Bool.or_eq_true, decide_eq_true_eq, gt_iff_lt] at kept
      omega
    exact ⟨⟨small', brake'⟩, (max_eq_left mild).symm⟩

/-- The loop reaches a level when it starts there or a reading is that severe. -/
theorem foldl_consider_level (person : Bool) (readings : List Candidate) (best : Best)
    (graded : Graded best.state best.brake)
    (positive : ∀ candidate ∈ readings, finitePositive candidate.distanceM = true) :
    Graded (readings.foldl (consider config person) best).state
        (readings.foldl (consider config person) best).brake ∧
      ∀ level, level ≤ (readings.foldl (consider config person) best).state.toNat ↔
        level ≤ best.state.toNat ∨ ∃ candidate ∈ readings,
          level ≤ zoneLevel config candidate.distanceM candidate.isFrontCenter person := by
  induction readings generalizing best with
  | nil => exact ⟨graded, fun level => by simp⟩
  | cons candidate rest ih =>
    obtain ⟨kept, highest⟩ := consider_level config person candidate graded (positive candidate (by simp))
    obtain ⟨result, levels⟩ := ih _ kept fun other member => positive other (by simp [member])
    refine ⟨result, fun level => ?_⟩
    rw [List.foldl_cons, levels, highest, le_max_iff, or_assoc, List.exists_mem_cons_iff]

theorem min_eq_or {α : Type*} [LT α] [DecidableLT α] (first second : α) :
    Python.min first second = first ∨ Python.min first second = second := by
  unfold Python.min
  split
  · exact .inr rfl
  · exact .inl rfl

theorem isNaN_of_finitePositive {value : F64} (positive : finitePositive value = true) : value.isNaN = false := by
  rw [finitePositive, Bool.and_eq_true] at positive
  exact Ieee.isNaN_of_isFinite positive.1

/-- The smaller of two readings is as severe as either. -/
theorem le_zoneLevel_min (person : Bool) {left right : F64} (number : left.isNaN = false)
    (number' : right.isNaN = false) (level : Nat) :
    level ≤ zoneLevel config (Python.min left right) false person ↔
      level ≤ zoneLevel config left false person ∨ level ≤ zoneLevel config right false person := by
  constructor
  · intro reached
    rcases min_eq_or left right with same | same
    · rw [same] at reached
      exact .inl reached
    · rw [same] at reached
      exact .inr reached
  · rintro (reached | reached)
    · exact reached.trans (zone_antitone (Python.min_le_left number))
    · exact reached.trans (zone_antitone (Python.min_le_right number number'))

/-- A valid reading of the frame reaches a level. -/
def Severe (front : FrontSensorFrame) (person : Bool) (level : Nat) : Prop :=
  (front.tofValid = true ∧ level ≤ zoneLevel config front.tofFrontM true person) ∨
    (front.leftValid = true ∧ level ≤ zoneLevel config front.ultrasonicLeftM false person) ∨
    (front.rightValid = true ∧ level ≤ zoneLevel config front.ultrasonicRightM false person)

/-- The readings that the loop sees reach a level exactly when a valid reading does. -/
theorem exists_candidate_iff (front : FrontSensorFrame) (person : Bool) (confidence : F64) (level : Nat) :
    (∃ candidate ∈ candidates front person confidence,
        level ≤ zoneLevel config candidate.distanceM candidate.isFrontCenter person) ↔
      Severe config front person level := by
  unfold candidates Severe
  dsimp only
  simp only [List.mem_append, or_and_right, exists_or]
  refine or_congr ?_ ?_
  · cases front.tofValid <;> simp
  · cases left : front.leftValid
    · cases right : front.rightValid <;> simp
    · cases right : front.rightValid
      · simp
      · have number := isNaN_of_finitePositive (Bool.and_eq_true_iff.mp left).2
        have number' := isNaN_of_finitePositive (Bool.and_eq_true_iff.mp right).2
        simpa using le_zoneLevel_min config person number number' level

/-- Every distance that the loop sees is a valid reading of the frame. -/
theorem candidate_distance (P : F64 → Prop) {front : FrontSensorFrame} (tof : front.tofValid = true → P front.tofFrontM)
    (left : front.leftValid = true → P front.ultrasonicLeftM) (right : front.rightValid = true → P front.ultrasonicRightM)
    (person : Bool) (confidence : F64) : ∀ candidate ∈ candidates front person confidence, P candidate.distanceM := by
  intro candidate member
  unfold candidates at member
  dsimp only at member
  rw [List.mem_append] at member
  rcases member with center | side
  · split at center
    · rename_i valid
      rw [List.mem_singleton.mp center]
      exact tof valid
    · cases center
  · cases left' : front.leftValid <;> cases right' : front.rightValid <;> simp [left', right'] at side
    · rw [side]
      exact right right'
    · rw [side]
      exact left left'
    · rw [side]
      rcases min_eq_or front.ultrasonicLeftM front.ultrasonicRightM with same | same
      · rw [same]
        exact left left'
      · rw [same]
        exact right right'

theorem finitePositive_candidate (front : FrontSensorFrame) (person : Bool) (confidence : F64) :
    ∀ candidate ∈ candidates front person confidence, finitePositive candidate.distanceM = true :=
  candidate_distance (fun distanceM => finitePositive distanceM = true) (fun valid => (Bool.and_eq_true_iff.mp valid).2)
    (fun valid => (Bool.and_eq_true_iff.mp valid).2) (fun valid => (Bool.and_eq_true_iff.mp valid).2) person confidence

theorem mostSevere_level (front : FrontSensorFrame) (person : Bool) (confidence : F64) :
    Graded (mostSevere config (some front) person confidence).state
        (mostSevere config (some front) person confidence).brake ∧
      ∀ level, 0 < level → (level ≤ (mostSevere config (some front) person confidence).state.toNat ↔
        Severe config front person level) := by
  have start : Graded .clear 0 := ⟨by decide, rfl⟩
  obtain ⟨graded, levels⟩ := foldl_consider_level config person (candidates front person confidence)
    ⟨.clear, 0, .clear, "clear", Ieee.nan, if person then confidence else 1.0⟩ start
    (finitePositive_candidate front person confidence)
  refine ⟨graded, fun level above => ?_⟩
  have clear : ¬ level ≤ AebState.clear.toNat := Nat.not_le_of_lt above
  rw [← exists_candidate_iff config front person confidence]
  exact (levels level).trans (or_iff_right clear)

/-! ### Levels and thresholds -/

/-- The ToF is compared with the threshold that a person in the path scales. -/
theorem le_gain_iff (person : Bool) {distanceM limitM : F64} :
    distanceM ≤ limitM * (if person then config.personRangeGain else (1.0 : F64)) ↔
      distanceM ≤ centerLimit config person limitM := by
  cases person
  · exact Ieee.le_mul_one_iff
  · exact Iff.rfl

theorem severe_full (front : FrontSensorFrame) (person : Bool) :
    Severe config front person 3 ↔ InFull config front person := by
  simp only [Severe, zoneLevel, rangeState, three_le_zone, if_true, le_gain_iff]
  rfl

theorem severe_partialBrake (front : FrontSensorFrame) (person : Bool) :
    Severe config front person 2 ↔ InFull config front person ∨ InPartial config front person := by
  simp only [Severe, zoneLevel, rangeState, two_le_zone, if_true, le_gain_iff, InFull, InPartial, Within,
    Bool.false_eq_true, if_false]
  grind

theorem severe_fcw (front : FrontSensorFrame) (person : Bool) :
    Severe config front person 1 ↔
      InFull config front person ∨ InPartial config front person ∨ InFcw config front person := by
  simp only [Severe, zoneLevel, rangeState, one_le_zone, if_true, le_gain_iff, InFull, InPartial, InFcw,
    Within, Bool.false_eq_true, if_false]
  grind

theorem toNat_injective {state other : AebState} (same : state.toNat = other.toNat) : state = other := by
  cases state <;> cases other <;> first | rfl | cases same

/-- The most severe reading alone. -/
theorem mostSevere_state (front : FrontSensorFrame) (person : Bool) (confidence : F64) :
    (mostSevere config (some front) person confidence).state =
      if InFull config front person then .fullBrake
      else if InPartial config front person then .partialBrake
      else if InFcw config front person then .fcw
      else .clear := by
  obtain ⟨⟨small, _⟩, levels⟩ := mostSevere_level config front person confidence
  have full := (levels 3 (by decide)).trans (severe_full config front person)
  have part := (levels 2 (by decide)).trans (severe_partialBrake config front person)
  have warn := (levels 1 (by decide)).trans (severe_fcw config front person)
  apply toNat_injective
  by_cases inFull : InFull config front person
  · rw [if_pos inFull]
    exact le_antisymm small (full.mpr inFull)
  rw [if_neg inFull]
  have below := mt full.mp inFull
  by_cases inPartial : InPartial config front person
  · rw [if_pos inPartial]
    exact le_antisymm (Nat.le_of_lt_succ (Nat.lt_of_not_le below)) (part.mpr (.inr inPartial))
  rw [if_neg inPartial]
  have lower := mt part.mp (not_or.mpr ⟨inFull, inPartial⟩)
  by_cases inFcw : InFcw config front person
  · rw [if_pos inFcw]
    exact le_antisymm (Nat.le_of_lt_succ (Nat.lt_of_not_le lower)) (warn.mpr (.inr (.inr inFcw)))
  · rw [if_neg inFcw]
    have lowest := mt warn.mp (not_or.mpr ⟨inFull, not_or.mpr ⟨inPartial, inFcw⟩⟩)
    exact Nat.lt_one_iff.mp (Nat.lt_of_not_le lowest)

/-- The most severe reading of a front frame, a person in the path alone being a warning. -/
def readingState (front : FrontSensorFrame) (person : Bool) : AebState :=
  if InFull config front person then .fullBrake
  else if InPartial config front person then .partialBrake
  else if InFcw config front person ∨ person = true then .fcw
  else .clear

theorem assess_state (front : FrontSensorFrame) (person : Bool) (confidence : F64) :
    (assess config (some front) person confidence).state = readingState config front person ∧
      (assess config (some front) person confidence).brake = brakeOf (readingState config front person) := by
  have state := mostSevere_state config front person confidence
  have brake := (mostSevere_level config front person confidence).1.2
  unfold assess warnOfPerson readingState
  generalize mostSevere config (some front) person confidence = best at state brake ⊢
  rw [state] at brake
  by_cases inFull : InFull config front person
  · simp only [inFull, if_true] at state brake ⊢
    simp [state, brake]
  by_cases inPartial : InPartial config front person
  · simp only [inFull, inPartial, if_true, if_false] at state brake ⊢
    simp [state, brake]
  by_cases inFcw : InFcw config front person
  · simp only [inFull, inPartial, inFcw, if_true, if_false, true_or] at state brake ⊢
    simp [state, brake]
  · simp only [inFull, inPartial, inFcw, if_false, false_or] at state brake ⊢
    cases person <;> simp [state, brake, brakeOf]

/-! ### One call -/

/-- A call with a fresh front frame is settled by its readings and the end of the hold. -/
theorem braking_step (controller : AebController) {input : AebInput} {front : FrontSensorFrame}
    (fresh : freshFront config input = some front) {person : Bool}
    (path : (personInPath config (freshMiddle config input)).1 = person) :
    ((aeb config).output controller input).state =
        (if InFull config front person then .fullBrake
        else if input.now < controller.holdUntil then .stopHold
        else readingState config front person) ∧
      ((aeb config).output controller input).brakePercent =
        if InFull config front person ∨ input.now < controller.holdUntil then 100
        else if InPartial config front person then 65
        else 0 := by
  obtain ⟨state, brake⟩ := assess_state config front person (personInPath config (freshMiddle config input)).2
  have assessed_eq : assessed config input =
      assess config (some front) person (personInPath config (freshMiddle config input)).2 := by
    rw [assessed, fresh, path]
  rcases decide_cases config controller input with ⟨early, _⟩ | ⟨_, _, held, braked⟩
  · exact absurd (.inl (by rw [fresh]; rfl)) early
  rw [held, braked, assessed_eq]
  generalize assess config (some front) person (personInPath config (freshMiddle config input)).2 = best at state brake
  unfold applyHold
  have start : controller.advance.holdUntil = controller.holdUntil := rfl
  by_cases inFull : InFull config front person
  · have full : best.state = .fullBrake := by rw [state, readingState, if_pos inFull]
    have hundred : best.brake = 100 := by rw [brake, readingState, if_pos inFull]; rfl
    rw [if_pos full, if_pos inFull, if_pos (.inl inFull)]
    exact ⟨full, by rw [hundred]; rfl⟩
  have other : best.state ≠ .fullBrake := by
    rw [state, readingState, if_neg inFull]
    split_ifs <;> decide
  rw [if_neg other, if_neg inFull, start]
  by_cases within : input.now < controller.holdUntil
  · rw [if_pos within, if_pos within, if_pos (.inr within)]
    have bound : best.brake ≤ 100 := by
      rw [brake]
      cases readingState config front person <;> decide
    exact ⟨rfl, by dsimp only; omega⟩
  · rw [if_neg within, if_neg within, if_neg (not_or.mpr ⟨inFull, within⟩)]
    refine ⟨state, ?_⟩
    rw [brake, readingState, if_neg inFull]
    split_ifs <;> rfl

/-! ### The hold over a run -/

/-- What a call does to the end of the hold: a full brake moves it on, anything else keeps it. -/
theorem holdUntil_cases (controller : AebController) (input : AebInput) :
    (((aeb config).output controller input).state = .fullBrake ∧
      ((aeb config).next controller input).holdUntil =
        Python.max controller.holdUntil (input.now + config.stopHoldS)) ∨
    (((aeb config).output controller input).state ≠ .fullBrake ∧
      ((aeb config).next controller input).holdUntil = controller.holdUntil) := by
  rcases decide_cases config controller input with ⟨_, same, _, other⟩ | ⟨_, next, state, _⟩
  · exact .inr ⟨other, by rw [same]; rfl⟩
  · rw [next, state]
    rcases applyHold_cases config input.now (assessed config input) controller.advance with
      ⟨full, same, moved⟩ | ⟨_, same, other, _⟩
    · exact .inl ⟨by rw [same, full], by rw [moved]; rfl⟩
    · exact .inr ⟨other, by rw [same]; rfl⟩

/-- The end of the hold is where the full brakes of the run put it. -/
theorem before_holdUntil_iff (inputs : List AebInput) (now : F64) :
    now < ((aeb config).run aebStart inputs).holdUntil ↔ now < 0.0 ∨ Holding config inputs now := by
  induction inputs using List.reverseRecOn with
  | nil =>
    have none : ¬ Holding config [] now := by
      rintro ⟨time, member, _⟩
      cases member
    exact (or_iff_left none).symm
  | append_singleton inputs input ih =>
    have number := (holdUntil_run config aebStart inputs (Ieee.isNaN_literal ..)).1
    unfold Holding fullBrakes
    rw [Machine.run_concat, Machine.collect_concat]
    rcases holdUntil_cases config ((aeb config).run aebStart inputs) input with ⟨full, moved⟩ | ⟨other, same⟩
    · rw [moved, Python.lt_max_iff number, ih, if_pos full, or_assoc]
      refine or_congr_right ?_
      constructor
      · rintro (⟨time, member, within⟩ | within)
        · exact ⟨time, List.mem_append_left _ member, within⟩
        · exact ⟨input.now, List.mem_append_right _ (List.mem_singleton.mpr rfl), within⟩
      · rintro ⟨time, member, within⟩
        rcases List.mem_append.mp member with earlier | last
        · exact .inl ⟨time, earlier, within⟩
        · rw [List.mem_singleton.mp last] at within
          exact .inr within
    · rw [same, ih, if_neg other, List.append_nil]
      exact Iff.rfl

/-- A call without a fresh front frame brakes only within the hold. -/
theorem brake_of_stale (controller : AebController) {input : AebInput} (stale : freshFront config input = none)
    (brakes : ((aeb config).output controller input).brakePercent ≠ 0) : input.now < controller.holdUntil := by
  rcases decide_cases config controller input with ⟨_, _, released, _⟩ | ⟨_, _, _, braked⟩
  · exact absurd released brakes
  by_contra expired
  apply brakes
  have zero : (assessed config input).brake = 0 := by
    unfold assessed assess warnOfPerson mostSevere
    rw [stale]
    cases (personInPath config (freshMiddle config input)).1 <;> rfl
  have start : controller.advance.holdUntil = controller.holdUntil := rfl
  rw [braked]
  unfold applyHold
  rw [start, if_neg expired]
  split <;> simp [zero]

/-- Every decision of every run brakes exactly as the readings and the full brakes
before it say, and without a fresh front frame it brakes only for the latter. -/
theorem braking_exact (inputs : List AebInput) (input : AebInput) (started : (0.0 : F64) ≤ input.now) :
    (∀ front person, freshFront config input = some front →
      (personInPath config (freshMiddle config input)).1 = person →
      ((aeb config).output ((aeb config).run aebStart inputs) input).brakePercent =
          (if InFull config front person ∨ Holding config inputs input.now then 100
          else if InPartial config front person then 65
          else 0) ∧
        ((aeb config).output ((aeb config).run aebStart inputs) input).state =
          (if InFull config front person then .fullBrake
          else if Holding config inputs input.now then .stopHold
          else if InPartial config front person then .partialBrake
          else if InFcw config front person ∨ person = true then .fcw
          else .clear)) ∧
    (freshFront config input = none →
      ((aeb config).output ((aeb config).run aebStart inputs) input).brakePercent ≠ 0 →
        Holding config inputs input.now) := by
  have held : input.now < ((aeb config).run aebStart inputs).holdUntil ↔ Holding config inputs input.now :=
    (before_holdUntil_iff config inputs input.now).trans (or_iff_right (Ieee.not_lt_of_le started))
  constructor
  · intro front person fresh path
    obtain ⟨state, brake⟩ := braking_step config ((aeb config).run aebStart inputs) fresh path
    simp only [held] at state brake
    refine ⟨brake, ?_⟩
    rw [state]
    unfold readingState
    split_ifs <;> rfl
  · intro stale brakes
    exact held.mp (brake_of_stale config _ stale brakes)

/-- A clear path a quarter of a second after the full brake of `closeFront`. -/
def clearAfter : AebInput := ⟨some { closeFront with tofFrontM := 2.0 }, none, 1.25⟩

theorem braking_exact_in_hold :
    (0.0 : F64) ≤ clearAfter.now ∧
      ((aeb {}).output ((aeb {}).run aebStart [⟨some closeFront, none, 1.0⟩]) clearAfter).brakePercent = 100 := by
  have started : (0.0 : F64) ≤ clearAfter.now := by decide +kernel
  have fresh : freshFront {} clearAfter = some { closeFront with tofFrontM := 2.0 } := by decide +kernel
  have holding : Holding {} [⟨some closeFront, none, 1.0⟩] clearAfter.now := by decide +kernel
  obtain ⟨brake, _⟩ := (braking_exact {} [⟨some closeFront, none, 1.0⟩] clearAfter started).1 _ _ fresh rfl
  exact ⟨started, brake.trans (if_pos (.inr holding))⟩

end SelfDriving.Hpvc
