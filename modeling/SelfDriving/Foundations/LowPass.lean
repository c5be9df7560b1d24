import Mathlib.Algebra.Order.Field.Basic
import Mathlib.Algebra.BigOperators.Group.List.Basic
import Mathlib.Data.List.Induction
import Mathlib.Order.Interval.Set.UnorderedInterval
import Mathlib.Tactic.FieldSimp
import Mathlib.Tactic.Linarith
import Mathlib.Tactic.Ring

/-! First-order low-pass filters that are sampled at irregular times. A step mixes what the
filter holds with a new value, so it stays within the hull of what it was given; for a
constant value the part that is missing shrinks by one factor a step. -/
namespace SelfDriving

section
variable {K : Type*} [Field K] [LinearOrder K] [IsStrictOrderedRing K]

omit [Field K] [IsStrictOrderedRing K] in
/-- Between the smallest and the largest of some values. -/
def InHull (values : List K) (x : K) : Prop := ∃ low ∈ values, ∃ high ∈ values, low ≤ x ∧ x ≤ high

namespace InHull
variable {values values' : List K} {x y : K}

omit [Field K] [IsStrictOrderedRing K] in
theorem of_mem (member : x ∈ values) : InHull values x := ⟨x, member, x, member, le_rfl, le_rfl⟩

omit [Field K] [IsStrictOrderedRing K] in
theorem mono (inHull : InHull values x) (more : values ⊆ values') : InHull values' x := by
  obtain ⟨low, lowHere, high, highHere, above, below⟩ := inHull
  exact ⟨low, more lowHere, high, more highHere, above, below⟩

omit [Field K] [IsStrictOrderedRing K] in
/-- What lies between two values of the hull is in it. -/
theorem between (first : InHull values x) (second : InHull values y) {z : K} (inside : z ∈ Set.uIcc x y) :
    InHull values z := by
  obtain ⟨low, lowHere, high, highHere, above, below⟩ := first
  obtain ⟨low', lowHere', high', highHere', above', below'⟩ := second
  rcases Set.mem_uIcc.mp inside with ⟨right, left⟩ | ⟨right, left⟩
  · exact ⟨low, lowHere, high', highHere', above.trans right, left.trans below'⟩
  · exact ⟨low', lowHere', high, highHere, above'.trans right, left.trans below⟩

end InHull

/-- The weight of what the filter holds, after some time. -/
def lowPassWeight (tau dt : K) : K := tau / (tau + dt)

/-- One step of the filter. -/
def lowPass (tau dt held value : K) : K := lowPassWeight tau dt * held + (1 - lowPassWeight tau dt) * value

section
variable {tau dt : K} (positive : 0 < tau) (forward : 0 ≤ dt)
include positive forward

theorem lowPassWeight_pos : 0 < lowPassWeight tau dt := div_pos positive (add_pos_of_pos_of_nonneg positive forward)

theorem lowPassWeight_le_one : lowPassWeight tau dt ≤ 1 :=
  (div_le_one (add_pos_of_pos_of_nonneg positive forward)).mpr (le_add_of_nonneg_right forward)

/-- A step ends between what was held and the new value. -/
theorem lowPass_mem_uIcc (held value : K) : lowPass tau dt held value ∈ Set.uIcc held value := by
  have weight := (lowPassWeight_pos positive forward).le
  have rest := sub_nonneg.mpr (lowPassWeight_le_one positive forward)
  unfold lowPass
  generalize lowPassWeight tau dt = alpha at *
  rcases le_total held value with up | down
  · have forth := mul_le_mul_of_nonneg_left up weight
    have back := mul_le_mul_of_nonneg_left up rest
    exact Set.mem_uIcc_of_le (by linarith) (by linarith)
  · have forth := mul_le_mul_of_nonneg_left down weight
    have back := mul_le_mul_of_nonneg_left down rest
    exact Set.mem_uIcc_of_ge (by linarith) (by linarith)

end

end
end SelfDriving
