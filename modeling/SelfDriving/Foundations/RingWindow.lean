import Mathlib.Data.List.Rotate
import Mathlib.Data.Nat.ModEq

/-! A ring of cells that values are written into one after another: once it is full it holds
the last ones, in some rotation, so what does not depend on the order of values can be read
off the cells. The median is of that kind. -/
namespace SelfDriving
variable {α : Type*}

/-- The value of each of the last places of a history stands in the cell of its place, modulo
the number of cells. -/
def RingHolds (cells history : List α) : Prop :=
  ∀ place < history.length, history.length ≤ place + cells.length →
    cells[place % cells.length]? = history[place]?

theorem ringHolds_nil (cells : List α) : RingHolds cells [] := fun _ before => absurd before (Nat.not_lt_zero _)

namespace RingHolds
variable {cells history : List α}

/-- The next value goes over the oldest one. -/
theorem push (holds : RingHolds cells history) (positive : 0 < cells.length) (value : α) :
    RingHolds (cells.set (history.length % cells.length) value) (history ++ [value]) := by
  intro place before recent
  rw [List.length_append, List.length_singleton] at before recent
  rw [List.length_set] at recent ⊢
  rcases Nat.lt_or_eq_of_le (Nat.le_of_lt_succ before) with earlier | rfl
  · -- Two places of one cell are a whole turn apart.
    have apart : history.length % cells.length ≠ place % cells.length := by
      intro same
      have turn := (Nat.modEq_iff_dvd' earlier.le).mp same.symm
      have small := Nat.le_of_dvd (by omega) turn
      omega
    rw [List.getElem?_set_ne apart, holds place earlier (by omega), List.getElem?_append_left earlier]
  · rw [List.getElem?_set_self (Nat.mod_lt _ positive), List.getElem?_concat_length]

/-- A full ring is a rotation of the end of the history. -/
theorem drop_eq_rotate (holds : RingHolds cells history) (full : cells.length ≤ history.length) :
    history.drop (history.length - cells.length) = cells.rotate (history.length - cells.length) := by
  apply List.ext_getElem?
  intro place
  rw [List.getElem?_drop]
  rcases Nat.lt_or_ge place cells.length with inside | outside
  · rw [List.getElem?_rotate inside, Nat.add_comm place, holds _ (by omega) (by omega)]
  · rw [List.getElem?_eq_none (by omega), List.getElem?_eq_none (by rwa [List.length_rotate])]

/-- A full ring holds the end of the history, in some order. -/
theorem perm (holds : RingHolds cells history) (full : cells.length ≤ history.length) :
    cells.Perm (history.drop (history.length - cells.length)) := by
  rw [holds.drop_eq_rotate full]
  exact (cells.rotate_perm _).symm

end RingHolds

/-! ### Medians -/

/-- A value of the list with at most half of the list on either side of it. -/
structure IsMedian [LT α] [DecidableLT α] (values : List α) (middle : α) : Prop where
  mem : middle ∈ values
  below : 2 * values.countP (· < middle) ≤ values.length
  above : 2 * values.countP (middle < ·) ≤ values.length

/-- The middle one of three values in order. -/
theorem isMedian_of_ordered [LT α] [DecidableLT α] {low middle high : α} (irreflexive : ¬ middle < middle)
    (below : ¬ middle < low) (above : ¬ high < middle) : IsMedian [low, middle, high] middle where
  mem := by simp
  below := by
    simp only [List.countP_cons, List.countP_nil, List.length_cons, List.length_nil, irreflexive, above,
      decide_false, Bool.false_eq_true, if_false]
    split <;> simp
  above := by
    simp only [List.countP_cons, List.countP_nil, List.length_cons, List.length_nil, irreflexive, below,
      decide_false, Bool.false_eq_true, if_false]
    split <;> simp

/-- The median does not depend on the order of the values. -/
theorem IsMedian.perm [LT α] [DecidableLT α] {values values' : List α} {middle : α} (median : IsMedian values middle)
    (same : values.Perm values') : IsMedian values' middle where
  mem := same.mem_iff.mp median.mem
  below := by
    rw [← same.countP_eq, ← same.length_eq]
    exact median.below
  above := by
    rw [← same.countP_eq, ← same.length_eq]
    exact median.above

end SelfDriving
