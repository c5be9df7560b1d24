import Mathlib.Data.List.Basic
import Mathlib.Order.Lattice

/-! Memory as C code reads it, through a pointer: bytes at every distance from
it, also past the end of the object it points into. -/
namespace SelfDriving

/-- The bytes a pointer leads to. -/
def Memory := Nat → UInt8

namespace Memory

/-- The pointer `offset` bytes further on. -/
def drop (memory : Memory) (offset : Nat) : Memory := fun index => memory (offset + index)

/-- The first `length` bytes. -/
def bytes (memory : Memory) (length : Nat) : List UInt8 := (List.range length).map memory

@[simp] theorem drop_apply (memory : Memory) (offset index : Nat) :
    memory.drop offset index = memory (offset + index) := rfl

theorem drop_drop (memory : Memory) (first second : Nat) :
    (memory.drop first).drop second = memory.drop (first + second) := by
  funext index
  simp only [drop_apply, Nat.add_assoc]

theorem bytes_eq_map (memory : Memory) (length : Nat) :
    memory.bytes length = (List.range length).map fun index => memory index := rfl

@[simp] theorem length_bytes (memory : Memory) (length : Nat) : (memory.bytes length).length = length := by
  rw [bytes_eq_map, List.length_map, List.length_range]

theorem getD_bytes {memory : Memory} {length index : Nat} (inside : index < length) :
    (memory.bytes length).getD index 0 = memory index := by
  simp [bytes_eq_map, inside]

theorem take_bytes {memory : Memory} {length count : Nat} (inside : count ≤ length) :
    (memory.bytes length).take count = memory.bytes count := by
  rw [bytes_eq_map, bytes_eq_map, ← List.map_take, List.take_range, min_eq_left inside]

end Memory
end SelfDriving
