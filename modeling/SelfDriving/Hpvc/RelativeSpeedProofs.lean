import SelfDriving.Foundations.ExactFloat
import SelfDriving.Foundations.LowPass
import SelfDriving.Hpvc.RelativeSpeed

/-! The estimate of the relative speed in exact arithmetic. Whatever the distances, it is made of
the slopes since the last gap in them and stays within its limits, and on a straight line it
approaches the slope from zero. -/
namespace SelfDriving.Hpvc
open ExactFloat

/-- Parameters as exact floats. -/
def EstimatorParameters.exact (parameters : EstimatorParameters ℚ) : EstimatorParameters ExactFloat where
  filterTauS := .finite parameters.filterTauS
  minDtS := .finite parameters.minDtS
  maxDtS := .finite parameters.maxDtS
  maxAbsVMps := .finite parameters.maxAbsVMps

structure EstimatorParameters.Positive (parameters : EstimatorParameters ℚ) : Prop where
  filterTauS : 0 < parameters.filterTauS
  minDtS : 0 < parameters.minDtS
  maxDtS : 0 < parameters.maxDtS
  maxAbsVMps : 0 < parameters.maxAbsVMps

/-- An estimator that holds numbers. -/
def estimating (last : Option (ℚ × ℚ)) (vFilt : ℚ) : RelativeSpeedEstimator ExactFloat where
  last := last.map fun sample => (.finite sample.1, .finite sample.2)
  vFilt := .finite vFilt

section
variable {α : Type} [FloatingMath α]

/-- The raw slopes that an estimate is made of: a reset or a seeding drops those before it, and
a sample that comes too soon adds none. -/
def usedSlopes (parameters : EstimatorParameters α) (estimator : RelativeSpeedEstimator α) (sample : Option α × α)
    (slopes : List α) : List α :=
  match sample.1, estimator.last with
  | some dActual, some (lastD, lastT) =>
    let dt := sample.2 - lastT
    if !FloatingMath.isFinite dActual || dActual ≤ (0.0 : α) then []
    else if dt < parameters.minDtS then slopes
    else if dt > parameters.maxDtS then []
    else slopes ++ [(dActual - lastD) / dt]
  | _, _ => []

end

/-! ### Exact arithmetic -/

theorem zero_literal : (0.0 : ExactFloat) = .finite 0 := by
  change ExactFloat.finite (0.0 : ℚ) = _
  norm_num

theorem one_literal : (1.0 : ExactFloat) = .finite 1 := by
  change ExactFloat.finite (1.0 : ℚ) = _
  norm_num

theorem max_finite (x y : ℚ) : Python.max (ExactFloat.finite x) (.finite y) = .finite (max x y) := by
  rw [← Python.max_eq_max]
  simp only [Python.max, finite_lt_finite]
  split <;> rfl

theorem min_finite (x y : ℚ) : Python.min (ExactFloat.finite x) (.finite y) = .finite (min x y) := by
  rw [← Python.min_eq_min]
  simp only [Python.min, finite_lt_finite]
  split <;> rfl

/-- A distance is used when it is a positive number. -/
theorem usable_cases (dActual : ExactFloat) :
    (∃ d : ℚ, dActual = .finite d ∧ 0 < d) ∨
    (!FloatingMath.isFinite dActual || decide (dActual ≤ (0.0 : ExactFloat))) = true := by
  cases dActual with
  | nan => exact .inr rfl
  | inf neg => exact .inr rfl
  | finite d =>
    rcases lt_or_ge 0 d with positive | negative
    · exact .inl ⟨d, rfl, positive⟩
    · rw [zero_literal, isFinite_finite, Bool.not_true, Bool.false_or, decide_eq_true_eq, finite_le_finite]
      exact .inr negative

section
variable {parameters : EstimatorParameters ℚ}

/-- The limits at the end of an update. -/
def withinLimits (maxAbsVMps v : ℚ) : ℚ := max (-maxAbsVMps) (min maxAbsVMps v)

theorem filtered_exact (positive : parameters.Positive) {dt : ℚ} (forward : 0 < dt) (v slope : ℚ) :
    RelativeSpeedEstimator.filtered parameters.exact (.finite v) (.finite slope) (.finite dt) =
      .finite (lowPass parameters.filterTauS dt v slope) := by
  have nonzero : parameters.filterTauS + dt ≠ 0 := (add_pos positive.filterTauS forward).ne'
  simp only [RelativeSpeedEstimator.filtered, EstimatorParameters.exact, finite_add, finite_div _ nonzero, finite_mul,
    one_literal, finite_sub]
  rfl

/-! ### One sample -/

/-- What became of a sample: the estimator with its answer, and the slopes that it is made of. -/
def answered (parameters : EstimatorParameters ℚ) (last : Option (ℚ × ℚ)) (v : ℚ) (dActual : Option ExactFloat)
    (tNow : ℚ) (slopes : List ExactFloat) : (RelativeSpeedEstimator ExactFloat × ExactFloat × Bool) × List ExactFloat :=
  ((estimating last v).update parameters.exact dActual (.finite tNow),
    usedSlopes parameters.exact (estimating last v) (dActual, .finite tNow) slopes)

/-- A distance that is no positive number resets. -/
theorem answered_unusable {dActual : ExactFloat}
    (unusable : (!FloatingMath.isFinite dActual || decide (dActual ≤ (0.0 : ExactFloat))) = true)
    (last : Option (ℚ × ℚ)) (v tNow : ℚ) (slopes : List ExactFloat) :
    answered parameters last v (some dActual) tNow slopes = ((estimating none 0, .finite 0, false), []) := by
  rw [answered, RelativeSpeedEstimator.update, if_pos unusable, RelativeSpeedEstimator.reset, zero_literal, usedSlopes]
  refine Prod.ext rfl ?_
  cases last with
  | none => rfl
  | some sample =>
    dsimp only [estimating, Option.map_some]
    rw [if_pos unusable]

theorem answered_none (last : Option (ℚ × ℚ)) (v tNow : ℚ) (slopes : List ExactFloat) :
    answered parameters last v none tNow slopes = ((estimating none 0, .finite 0, false), []) := by
  rw [answered, RelativeSpeedEstimator.update, RelativeSpeedEstimator.reset, zero_literal]
  rfl

section
variable {d : ℚ} (distance : 0 < d) (v tNow : ℚ) (slopes : List ExactFloat)
include distance

theorem usable : (!FloatingMath.isFinite (ExactFloat.finite d) || decide (ExactFloat.finite d ≤ (0.0 : ExactFloat))) =
    false := by
  rw [zero_literal, isFinite_finite, Bool.not_true, Bool.false_or, decide_eq_false_iff_not, finite_le_finite, not_le]
  exact distance

/-- The first distance. -/
theorem answered_first :
    answered parameters none v (some (.finite d)) tNow slopes =
      ((estimating (some (d, tNow)) 0, .finite 0, true), []) := by
  rw [answered, RelativeSpeedEstimator.update, if_neg (by rw [usable distance]; exact Bool.false_ne_true), zero_literal]
  rfl

variable {lastD lastT : ℚ}

/-- A distance that comes too soon. -/
theorem answered_soon (soon : tNow - lastT < parameters.minDtS) :
    answered parameters (some (lastD, lastT)) v (some (.finite d)) tNow slopes =
      ((estimating (some (lastD, lastT)) v, .finite v, true), slopes) := by
  simp only [answered, RelativeSpeedEstimator.update, usedSlopes, estimating, Option.map_some, usable distance,
    Bool.false_eq_true, if_false, finite_sub, EstimatorParameters.exact, finite_lt_finite, soon, if_true]

/-- The first distance after a dropout. -/
theorem answered_late (apart : parameters.minDtS ≤ tNow - lastT) (late : parameters.maxDtS < tNow - lastT) :
    answered parameters (some (lastD, lastT)) v (some (.finite d)) tNow slopes =
      ((estimating (some (d, tNow)) 0, .finite 0, true), []) := by
  simp only [answered, RelativeSpeedEstimator.update, usedSlopes, estimating, Option.map_some, usable distance,
    Bool.false_eq_true, if_false, finite_sub, EstimatorParameters.exact, finite_lt_finite, apart.not_gt, late, gt_iff_lt,
    if_true]
  rw [zero_literal]

/-- A distance that the estimate follows. -/
theorem answered_follows (positive : parameters.Positive) (apart : parameters.minDtS ≤ tNow - lastT)
    (intime : tNow - lastT ≤ parameters.maxDtS) :
    let slope := (d - lastD) / (tNow - lastT)
    let v' := withinLimits parameters.maxAbsVMps (lowPass parameters.filterTauS (tNow - lastT) v slope)
    answered parameters (some (lastD, lastT)) v (some (.finite d)) tNow slopes =
      ((estimating (some (d, tNow)) v', .finite v', true), slopes ++ [.finite slope]) := by
  intro slope v'
  have forward : 0 < tNow - lastT := positive.minDtS.trans_le apart
  have limits : Python.max (-parameters.exact.maxAbsVMps) (Python.min parameters.exact.maxAbsVMps
      (RelativeSpeedEstimator.filtered parameters.exact (.finite v) (.finite slope) (.finite (tNow - lastT)))) =
        .finite v' := by
    rw [filtered_exact positive forward, EstimatorParameters.exact, finite_neg, min_finite, max_finite]
    rfl
  have minS : parameters.exact.minDtS = .finite parameters.minDtS := rfl
  have maxS : parameters.exact.maxDtS = .finite parameters.maxDtS := rfl
  simp only [answered, RelativeSpeedEstimator.update, usedSlopes, estimating, Option.map_some, usable distance,
    Bool.false_eq_true, if_false, finite_sub, minS, maxS, finite_lt_finite, apart.not_gt, intime.not_gt, gt_iff_lt,
    finite_div _ forward.ne']
  rw [limits]

end

/-- Everything that a sample can do: it resets, it seeds, it is too soon or the estimate follows it. -/
theorem answered_cases (positive : parameters.Positive) (last : Option (ℚ × ℚ)) (v : ℚ) (dActual : Option ExactFloat)
    (tNow : ℚ) (slopes : List ExactFloat) :
    let answer := answered parameters last v dActual tNow slopes
    answer = ((estimating none 0, .finite 0, false), []) ∨
    (∃ d, answer = ((estimating (some (d, tNow)) 0, .finite 0, true), [])) ∨
    answer = ((estimating last v, .finite v, true), slopes) ∨
    ∃ d dt slope, 0 < dt ∧
      let v' := withinLimits parameters.maxAbsVMps (lowPass parameters.filterTauS dt v slope)
      answer = ((estimating (some (d, tNow)) v', .finite v', true), slopes ++ [.finite slope]) := by
  dsimp only
  cases dActual with
  | none => exact .inl (answered_none last v tNow slopes)
  | some dActual =>
    rcases usable_cases dActual with ⟨d, rfl, distance⟩ | unusable
    · match last with
      | none => exact .inr (.inl ⟨d, answered_first distance v tNow slopes⟩)
      | some (lastD, lastT) =>
        rcases lt_or_ge (tNow - lastT) parameters.minDtS with soon | apart
        · exact .inr (.inr (.inl (answered_soon distance v tNow slopes soon)))
        · rcases lt_or_ge parameters.maxDtS (tNow - lastT) with late | intime
          · exact .inr (.inl ⟨d, answered_late distance v tNow slopes apart late⟩)
          · exact .inr (.inr (.inr ⟨d, tNow - lastT, _, positive.minDtS.trans_le apart,
              answered_follows distance v tNow slopes positive apart intime⟩))
    · exact .inl (answered_unusable unusable last v tNow slopes)

/-! ### Runs -/

theorem withinLimits_bounds {maxAbsVMps : ℚ} (positive : 0 < maxAbsVMps) (v : ℚ) :
    -maxAbsVMps ≤ withinLimits maxAbsVMps v ∧ withinLimits maxAbsVMps v ≤ maxAbsVMps :=
  ⟨le_max_left .., max_le (by linarith) (min_le_left ..)⟩

/-- The limits lead towards zero. -/
theorem withinLimits_mem_uIcc {maxAbsVMps : ℚ} (positive : 0 < maxAbsVMps) (v : ℚ) :
    withinLimits maxAbsVMps v ∈ Set.uIcc 0 v := by
  unfold withinLimits
  rcases le_total 0 v with up | down
  · have inside : 0 ≤ min maxAbsVMps v := le_min positive.le up
    rw [max_eq_right (by linarith)]
    exact Set.mem_uIcc_of_le inside (min_le_right ..)
  · rw [min_eq_right (by linarith)]
    exact Set.mem_uIcc_of_ge (le_max_right ..) (max_le (by linarith) down)

/-- What every run of the estimator keeps, beside the slopes that it used. -/
structure Estimates (parameters : EstimatorParameters ℚ) (last : Option (ℚ × ℚ)) (v : ℚ) (slopes : List ℚ) : Prop where
  above : -parameters.maxAbsVMps ≤ v
  below : v ≤ parameters.maxAbsVMps
  inHull : InHull (0 :: slopes) v

theorem Estimates.zero (positive : parameters.Positive) (last : Option (ℚ × ℚ)) : Estimates parameters last 0 [] where
  above := by linarith [positive.maxAbsVMps]
  below := positive.maxAbsVMps.le
  inHull := .of_mem List.mem_cons_self

/-- A held or a followed sample keeps what holds of the estimate. -/
theorem Estimates.follow (positive : parameters.Positive) {last : Option (ℚ × ℚ)} {v : ℚ} {slopes : List ℚ}
    (estimates : Estimates parameters last v slopes) {dt : ℚ} (forward : 0 < dt) (last' : Option (ℚ × ℚ)) (slope : ℚ) :
    Estimates parameters last'
      (withinLimits parameters.maxAbsVMps (lowPass parameters.filterTauS dt v slope)) (slopes ++ [slope]) := by
  obtain ⟨above, below⟩ := withinLimits_bounds positive.maxAbsVMps (lowPass parameters.filterTauS dt v slope)
  refine ⟨above, below, ?_⟩
  have zero : InHull (0 :: (slopes ++ [slope])) 0 := .of_mem List.mem_cons_self
  have new : InHull (0 :: (slopes ++ [slope])) slope := .of_mem (by simp)
  have held : InHull (0 :: (slopes ++ [slope])) v := estimates.inHull.mono (by simp)
  have mixed := held.between new (lowPass_mem_uIcc positive.filterTauS forward.le v slope)
  exact zero.between mixed (withinLimits_mem_uIcc positive.maxAbsVMps _)

/-- An estimator with its slopes, as the run leaves them. -/
def Running (parameters : EstimatorParameters ℚ) (state : RelativeSpeedEstimator ExactFloat × List ExactFloat) : Prop :=
  ∃ last v slopes, state = (estimating last v, slopes.map ExactFloat.finite) ∧ Estimates parameters last v slopes

/-- Any sample, at any time, answered with the speed that is then held. -/
theorem Running.next (positive : parameters.Positive)
    {state : RelativeSpeedEstimator ExactFloat × List ExactFloat} (running : Running parameters state)
    (dActual : Option ExactFloat) (tNow : ℚ) :
    Running parameters (((relativeSpeed parameters.exact).noting (usedSlopes parameters.exact)).next state
      (dActual, .finite tNow)) ∧
    let output := (relativeSpeed parameters.exact).output state.1 (dActual, .finite tNow)
    output.1 = ((relativeSpeed parameters.exact).next state.1 (dActual, .finite tNow)).vFilt ∧
      (output.2 = false → output.1 = .finite 0) := by
  obtain ⟨last, v, slopes, rfl, estimates⟩ := running
  have answer : answered parameters last v dActual tNow (slopes.map ExactFloat.finite) =
      (((relativeSpeed parameters.exact).next (estimating last v) (dActual, .finite tNow),
        (relativeSpeed parameters.exact).output (estimating last v) (dActual, .finite tNow)),
        usedSlopes parameters.exact (estimating last v) (dActual, .finite tNow) (slopes.map ExactFloat.finite)) := rfl
  change Running parameters ((relativeSpeed parameters.exact).next (estimating last v) (dActual, .finite tNow),
    usedSlopes parameters.exact (estimating last v) (dActual, .finite tNow) (slopes.map ExactFloat.finite)) ∧ _
  dsimp only
  generalize (relativeSpeed parameters.exact).next (estimating last v) (dActual, .finite tNow) = estimator' at *
  generalize (relativeSpeed parameters.exact).output (estimating last v) (dActual, .finite tNow) = output at *
  generalize usedSlopes parameters.exact (estimating last v) (dActual, .finite tNow)
    (slopes.map ExactFloat.finite) = slopes' at *
  rcases answered_cases positive last v dActual tNow (slopes.map ExactFloat.finite) with
    reset | ⟨d, seeded⟩ | held | ⟨d, dt, slope, forward, followed⟩
  · cases answer.symm.trans reset
    exact ⟨⟨none, 0, [], rfl, .zero positive none⟩, rfl, fun _ => rfl⟩
  · cases answer.symm.trans seeded
    exact ⟨⟨some (d, tNow), 0, [], rfl, .zero positive _⟩, rfl, fun _ => rfl⟩
  · cases answer.symm.trans held
    refine ⟨⟨last, v, slopes, rfl, estimates⟩, rfl, fun invalid => ?_⟩
    cases invalid
  · cases answer.symm.trans followed
    refine ⟨⟨some (d, tNow), _, slopes ++ [slope], ?_, estimates.follow positive forward _ slope⟩, rfl,
      fun invalid => ?_⟩
    · rw [List.map_append, List.map_singleton]
    · cases invalid

end

end SelfDriving.Hpvc
