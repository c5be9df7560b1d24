import Mathlib.Data.List.Basic
import Mathlib.Tactic.Ring

/-! Byte strings and the unsigned little-endian numbers in them, as binary
formats lay them out: fields of fixed widths one after another. -/
namespace SelfDriving.Bytes

/-- The number that bytes stand for, least significant byte first. -/
def leNat : List UInt8 → Nat
  | [] => 0
  | byte :: rest => byte.toNat + 256 * leNat rest

/-- The lowest `width` bytes of a number. -/
def leBytes : (width : Nat) → Nat → List UInt8
  | 0, _ => []
  | width + 1, n => UInt8.ofNat n :: leBytes width (n / 256)

/-- The bytes of one field. -/
def field (data : List UInt8) (offset width : Nat) : List UInt8 := (data.drop offset).take width

/-- The number in one field. -/
def leField (data : List UInt8) (offset width : Nat) : Nat := leNat (field data offset width)

@[simp] theorem length_leBytes (width n : Nat) : (leBytes width n).length = width := by
  induction width generalizing n with
  | zero => rfl
  | succ width ih => rw [leBytes, List.length_cons, ih]

/-- What is read back of a number is what its bytes have room for. -/
theorem leNat_leBytes_mod (width n : Nat) : leNat (leBytes width n) = n % 256 ^ width := by
  induction width generalizing n with
  | zero => rw [leBytes, leNat, pow_zero, Nat.mod_one]
  | succ width ih =>
    rw [leBytes, leNat, ih, UInt8.toNat_ofNat', pow_succ' 256, Nat.mod_mul]

theorem leNat_leBytes {width n : Nat} (fits : n < 256 ^ width) : leNat (leBytes width n) = n := by
  rw [leNat_leBytes_mod, Nat.mod_eq_of_lt fits]

theorem leNat_lt (data : List UInt8) : leNat data < 256 ^ data.length := by
  induction data with
  | nil => exact Nat.one_pos
  | cons byte rest ih =>
    have small := byte.toNat_lt
    rw [leNat, List.length_cons, pow_succ]
    omega

theorem leField_lt (data : List UInt8) (offset width : Nat) : leField data offset width < 256 ^ width :=
  (leNat_lt _).trans_le (Nat.pow_le_pow_right (by decide) (List.length_take_le ..))

/-- A field is the bytes at its places. -/
theorem field_eq_map {data : List UInt8} {offset width : Nat} (within : offset + width ≤ data.length) :
    field data offset width = (List.range width).map fun place => data.getD (offset + place) 0 := by
  apply List.ext_getElem
  · rw [field, List.length_take, List.length_drop, List.length_map, List.length_range]
    omega
  · intro place inField inRange
    simp only [field, List.getElem_take, List.getElem_drop, List.getElem_map, List.getElem_range]
    exact List.getElem_eq_getD 0

/-- A field of the first part of a byte string. -/
theorem field_append_left {first second : List UInt8} {offset width : Nat}
    (within : offset + width ≤ first.length) : field (first ++ second) offset width = field first offset width := by
  rw [field, field, List.drop_append_of_le_length (by omega), List.take_append_of_le_length]
  rw [List.length_drop]
  omega

/-- The field that is the second part of a byte string. -/
theorem field_append_right (first second : List UInt8) :
    field (first ++ second) first.length second.length = second := by
  rw [field, List.drop_left, List.take_length]

/-- A number at the end of a byte string is read back. -/
theorem leField_append_leBytes (first : List UInt8) {width value : Nat} (fits : value < 256 ^ width) :
    leField (first ++ leBytes width value) first.length width = value := by
  have last := field_append_right first (leBytes width value)
  rw [length_leBytes] at last
  rw [leField, last, leNat_leBytes fits]

@[simp] theorem length_field {data : List UInt8} {offset width : Nat} (within : offset + width ≤ data.length) :
    (field data offset width).length = width := by
  rw [field, List.length_take, List.length_drop]
  omega

theorem leNat_append (first second : List UInt8) :
    leNat (first ++ second) = leNat first + 256 ^ first.length * leNat second := by
  induction first with
  | nil => simp [leNat]
  | cons byte rest ih =>
    rw [List.cons_append, leNat, leNat, ih, List.length_cons, pow_succ]
    ring

/-- A number in two adjacent fields. -/
theorem leField_add {data : List UInt8} {offset low high : Nat} (within : offset + low + high ≤ data.length) :
    leField data offset (low + high) = leField data offset low + 256 ^ low * leField data (offset + low) high := by
  have split : field data offset (low + high) = field data offset low ++ field data (offset + low) high := by
    rw [field, field, field, List.take_add, List.drop_drop]
  rw [leField, split, leNat_append, length_field (by omega)]
  rfl

end SelfDriving.Bytes
