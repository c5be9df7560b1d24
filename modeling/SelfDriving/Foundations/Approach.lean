import Mathlib.Algebra.Order.Field.Basic
import Mathlib.Algebra.Order.Group.Unbundled.Abs
import Mathlib.Order.Interval.Set.UnorderedInterval
import Mathlib.Algebra.Order.Interval.Set.Group
import Mathlib.Tactic.Linarith
import Mathlib.Tactic.Ring

/-! Quantities that are led to a target by bounded steps. How far a run of steps comes is
the sum of what each comes at least, until the target is reached. -/
namespace SelfDriving

section
variable {α : Type*} [Field α] [LinearOrder α] [IsStrictOrderedRing α]

/-- From the one value to the other the quantity does not leave the way to its target, and it
comes nearer by a given length unless it arrives. -/
structure Approaches (least target first second : α) : Prop where
  between : second ∈ Set.uIcc first target
  nearer : |second - target| ≤ max 0 (|first - target| - least)

namespace Approaches
variable {least least' target first second third : α}

omit [IsStrictOrderedRing α] in
theorem refl (target first : α) : Approaches 0 target first first where
  between := Set.left_mem_uIcc
  nearer := by
    rw [sub_zero]
    exact le_max_right _ _

theorem trans (before : Approaches least target first second) (after : Approaches least' target second third)
    (positive : 0 ≤ least') : Approaches (least + least') target first third where
  between := Set.uIcc_subset_uIcc_right before.between after.between
  nearer := by
    apply after.nearer.trans
    apply max_le (le_max_left _ _)
    rcases le_max_iff.mp before.nearer with arrived | nearer
    · exact le_max_of_le_left (by linarith)
    · exact le_max_of_le_right (by linarith)

/-- Where the steps together are as long as the way, the target is reached. -/
theorem arrives (approaches : Approaches least target first second) (long : |first - target| ≤ least) :
    second = target := by
  have nearer := approaches.nearer
  rw [max_eq_left (sub_nonpos.mpr long)] at nearer
  exact sub_eq_zero.mp (abs_nonpos_iff.mp nearer)

/-- On the way to zero the size falls and the sign stays. -/
theorem toward_zero (approaches : Approaches least 0 first second) :
    |second| ≤ |first| ∧ 0 ≤ second * first := by
  have between := approaches.between
  rcases le_total first 0 with negative | positive
  · rw [Set.uIcc_of_le negative] at between
    obtain ⟨above, below⟩ := between
    rw [abs_of_nonpos below, abs_of_nonpos negative]
    exact ⟨neg_le_neg above, mul_nonneg_of_nonpos_of_nonpos below negative⟩
  · rw [Set.uIcc_of_ge positive] at between
    obtain ⟨above, below⟩ := between
    rw [abs_of_nonneg above, abs_of_nonneg positive]
    exact ⟨below, mul_nonneg above positive⟩

/-- A step by the whole way, cut to a limit. -/
theorem of_limited {limit : α} (floor : least ≤ limit) (positive : 0 ≤ least) (target first : α) :
    Approaches least target first (first +
      (if target - first > limit then limit else if target - first < -limit then -limit else target - first)) := by
  have far {step : α} (least_le : least ≤ |step|) (within : first + step ∈ Set.uIcc first target)
      (left : |first + step - target| = |first - target| - |step|) : Approaches least target first (first + step) :=
    ⟨within, left.trans_le (le_max_of_le_right (by linarith))⟩
  split_ifs with up down
  · -- The target lies above, out of reach.
    have size : |limit| = limit := abs_of_nonneg (by linarith)
    refine far (by rw [size]; exact floor) (Set.mem_uIcc_of_le (by linarith) (by linarith)) ?_
    rw [size, abs_of_nonpos (by linarith), abs_of_nonpos (by linarith)]
    ring
  · -- The target lies below, out of reach.
    have size : |-limit| = limit := by rw [abs_neg, abs_of_nonneg (by linarith)]
    refine far (by rw [size]; exact floor) (Set.mem_uIcc_of_ge (by linarith) (by linarith)) ?_
    rw [size, abs_of_nonneg (by linarith), abs_of_nonneg (by linarith)]
    ring
  · rw [add_sub_cancel]
    refine ⟨Set.right_mem_uIcc, ?_⟩
    rw [sub_self, abs_zero]
    exact le_max_left _ _

end Approaches
end
end SelfDriving
