import SelfDriving.Foundations.Ieee754Order

/-! The part of MATLAB that the models rest on: `max`, which passes over a NaN, integers
that stay at the ends of their range, and the time elapsed since a moment, which grows
with the clock. -/
namespace SelfDriving.Matlab
open Ieee754

def max (first second : F64) : F64 :=
  if first.isNaN then second else if second.isNaN then first else if first < second then second else first

def abs {f : Format} (x : Ieee f) : Ieee f := { x with neg := false }

/-- An unsigned integer of so many bits stays at its largest value. -/
def saturate (bits n : Nat) : Nat := min n (2 ^ bits - 1)

/-- `uint64(x)`: the nearest integer, a half away from zero; a NaN becomes zero. -/
def uint64 (x : F64) : UInt64 :=
  if x.isNaN || x.neg then 0 else UInt64.ofNat (saturate 64 ⌊x.absVal + 1 / 2⌋₊)

/-- A counter that saturates counts up to the largest number. -/
theorem saturate_succ (bits n : Nat) : saturate bits (saturate bits n + 1) = saturate bits (n + 1) := by
  unfold saturate
  omega

theorem saturate_lt (bits n : Nat) : saturate bits n < 2 ^ bits := by
  have positive := Nat.two_pow_pos bits
  unfold saturate
  omega

theorem le_max_left {first second : F64} (number : first.isNaN = false) : first ≤ max first second := by
  unfold max
  rw [if_neg (by rw [number]; decide)]
  split
  · exact Ieee.le_refl number
  split
  · rename_i less
    exact Ieee.le_of_lt less
  · exact Ieee.le_refl number

theorem max_le {first second bound : F64} (left : first ≤ bound)
    (right : second.isNaN = false → second ≤ bound) : max first second ≤ bound := by
  unfold max
  rw [if_neg (by rw [left.1]; decide)]
  split
  · exact left
  split
  · rename_i less
    exact right less.2.1
  · exact left

theorem le_max_right {first second : F64} (number : first.isNaN = false) (number' : second.isNaN = false) :
    second ≤ max first second := by
  unfold max
  rw [if_neg (by rw [number]; decide), if_neg (by rw [number']; decide)]
  split
  · exact Ieee.le_refl number'
  · rename_i no
    exact Ieee.le_of_not_lt number number' no

/-- Time elapsed since a moment, on a clock that may have been set back. -/
def elapsed (now past : F64) : F64 := max (0.0 : F64) (now - past)

/-- A difference from which the infinity cancels is not positive while it is defined. -/
private theorem le_zero_of_cancels {now later past : F64} (le : now ≤ later)
    (number : (now - past).isNaN = false) (undefined : (later - past).isNaN = true) : now - past ≤ (0.0 : F64) := by
  change (now + -past).isNaN = false at number
  change (later + -past).isNaN = true at undefined
  change now + -past ≤ (0.0 : F64)
  have past_number := Ieee.isNaN_right_of_add number
  rcases Ieee.isInf_or_isFinite past_number with inf | finite
  · rcases Ieee.add_of_isInf_right le.2.1 inf with same | ⟨_, later_inf, opposite⟩
    · rw [same, past_number] at undefined
      cases undefined
    rcases Ieee.add_of_isInf_right le.1 inf with same | ⟨cancels, _⟩
    · rw [same]
      refine ⟨past_number, Ieee.isNaN_literal .., ?_⟩
      rw [Ieee.toRat_zero_literal, Ieee.toRat_of_isInf inf]
      split
      · linarith [Ieee.limit_binary64_pos]
      · -- The clock would stand at the negative infinity both times.
        rename_i sign
        have down : later.neg = true := by simpa [sign] using opposite
        have below := le.2.2
        rw [Ieee.toRat_of_isInf later_inf, if_pos down] at below
        rcases Ieee.isInf_or_isFinite le.1 with now_inf | now_finite
        · rw [Ieee.toRat_of_isInf now_inf] at below
          split at below
          · rename_i now_down
            have cancels := Ieee.add_of_opposite now_inf inf (by simp [now_down, sign])
            rw [number] at cancels
            cases cancels
          · linarith [Ieee.limit_binary64_pos]
        · have inside := neg_lt_of_abs_lt ((Ieee.abs_toRat now).trans_lt (Ieee.isFinite_iff.mp now_finite))
          linarith
    · rw [number] at cancels
      cases cancels
  · have defined : (later + -past).isNaN = false := by
      rcases Ieee.isInf_or_isFinite le.2.1 with later_inf | later_finite
      · rw [Ieee.add_of_isInf_left later_inf finite]
        exact le.2.1
      · rw [Ieee.add_of_isFinite later_finite finite]
        exact Ieee.isNaN_round _ _
    rw [defined] at undefined
    cases undefined

/-- The elapsed time grows with the clock. -/
theorem elapsed_mono {now later : F64} (le : now ≤ later) (past : F64) : elapsed now past ≤ elapsed later past := by
  have zero : (0.0 : F64).isNaN = false := Ieee.isNaN_literal ..
  refine max_le (le_max_left zero) fun number => ?_
  by_cases defined : (later - past).isNaN = false
  · exact Ieee.le_trans (Ieee.add_le_add_right le number defined) (le_max_right zero defined)
  · exact Ieee.le_trans (le_zero_of_cancels le number (by simpa using defined)) (le_max_left zero)

/-! ### Time passed -/

/-- No more than the bound passes from a moment to another: none at all, or a
difference within the bound. Equal infinite readings of a clock have no difference. -/
def Within (bound now past : F64) : Prop := now = past ∨ now - past ≤ bound

instance (bound now past : F64) : Decidable (Within bound now past) :=
  inferInstanceAs (Decidable (now = past ∨ now - past ≤ bound))

theorem le_max_iff {first second bound : F64} (number : first.isNaN = false) :
    bound ≤ max first second ↔ bound ≤ first ∨ bound ≤ second := by
  constructor
  · intro le
    unfold max at le
    rw [if_neg (by rw [number]; decide)] at le
    split at le
    · exact .inl le
    split at le
    · exact .inr le
    · exact .inl le
  · rintro (le | le)
    · exact Ieee.le_trans le (le_max_left number)
    · exact Ieee.le_trans le (le_max_right number le.2.1)

/-- A positive time has passed exactly when the difference says so. -/
theorem le_elapsed_iff {bound now past : F64} (positive : (0.0 : F64) < bound) :
    bound ≤ elapsed now past ↔ bound ≤ now - past := by
  rw [elapsed, le_max_iff (Ieee.isNaN_literal ..)]
  constructor
  · rintro (none | le)
    · exact absurd positive.2.2 (not_lt_of_ge none.2.2)
    · exact le
  · exact .inr

/-- A difference of ordered moments is undefined between equal infinities only. -/
private theorem eq_of_isNaN_sub {now past : F64} (ordered : past ≤ now) (undefined : (now - past).isNaN = true) :
    now = past := by
  change (now + -past).isNaN = true at undefined
  have number : (-past).isNaN = false := ordered.1
  rcases Ieee.isInf_or_isFinite number with inf | finite
  · rcases Ieee.add_of_isInf_right ordered.2.1 inf with same | ⟨_, now_inf, opposite⟩
    · rw [same, number] at undefined
      cases undefined
    · have sign : now.neg = past.neg := by simpa [Neg.neg, Ieee.negate] using opposite
      have mag : now.mag = past.mag := by
        simp only [Ieee.isInf, decide_eq_true_eq] at now_inf inf
        exact now_inf.trans inf.symm
      cases now
      cases past
      simp_all
  · rcases Ieee.isInf_or_isFinite ordered.2.1 with now_inf | now_finite
    · rw [Ieee.add_of_isInf_left now_inf finite, ordered.2.1] at undefined
      cases undefined
    · rw [Ieee.add_of_isFinite now_finite finite, Ieee.round, Ieee.isNaN_ofRat] at undefined
      cases undefined

/-- Nothing passes from a moment to itself. -/
theorem elapsed_self_le {bound : F64} (nonneg : (0.0 : F64) ≤ bound) (now : F64) : elapsed now now ≤ bound := by
  refine max_le nonneg fun number => ?_
  change (now + -now).isNaN = false at number
  change now + -now ≤ bound
  have number' : (-now).isNaN = false := Ieee.isNaN_right_of_add number
  rw [Ieee.isNaN_neg] at number'
  rcases Ieee.isInf_or_isFinite number' with inf | finite
  · have inf' : (-now).isInf = true := inf
    rw [Ieee.add_of_opposite inf inf' (Bool.not_not now.neg).symm] at number
    cases number
  · have finite' : (-now).isFinite = true := finite
    rw [Ieee.add_of_isFinite finite finite', Ieee.toRat_neg, add_neg_cancel]
    refine ⟨Ieee.isNaN_round _ _, nonneg.2.1, ?_⟩
    have zero := nonneg.2.2
    rw [Ieee.toRat_zero_literal] at zero
    rw [Ieee.round, abs_zero, Ieee.toRat_ofRat, Ieee.absVal_ofRat_zero, neg_zero, ite_self]
    exact zero

/-- At ordered moments, no more than a bound has passed exactly when the difference says so. -/
theorem elapsed_le_iff {bound now past : F64} (nonneg : (0.0 : F64) ≤ bound) (ordered : past ≤ now ∨ now = past) :
    elapsed now past ≤ bound ↔ Within bound now past := by
  constructor
  · intro le
    cases undefined : (now - past).isNaN with
    | true => exact .inl (ordered.elim (eq_of_isNaN_sub · undefined) id)
    | false => exact .inr (Ieee.le_trans (le_max_right (Ieee.isNaN_literal ..) undefined) le)
  · rintro (rfl | le)
    · exact elapsed_self_le nonneg now
    · exact max_le nonneg fun _ => le

end SelfDriving.Matlab
