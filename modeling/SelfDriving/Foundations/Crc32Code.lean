import Mathlib.Data.List.GetD
import SelfDriving.Foundations.Bytes
import SelfDriving.Foundations.Crc32
import SelfDriving.Foundations.CyclicCode

/-! The CRC-32 as a cyclic code: a message that carries its own CRC at its end leaves the same
word in the register as any other. What corrupts up to 32 bits in a row is therefore noticed,
also where it reaches into the CRC. -/
namespace SelfDriving.Crc32
open Bytes CyclicCode

/-- The bits of a byte, the lowest first. -/
def byteBits (byte : UInt8) : List Bool := (List.range 8).map byte.toNat.testBit

/-- The bits of a message in the order in which they enter the register. -/
def messageBits (data : List UInt8) : List Bool := data.flatMap byteBits

/-- A bit of a message. -/
def bitAt (data : List UInt8) (position : Nat) : Bool :=
  (data.getD (position / 8) 0).toNat.testBit (position % 8)

/-- The message with the bits of an error inverted. -/
def corrupt (data error : List UInt8) : List UInt8 := List.zipWith (· ^^^ ·) data error

/-- An error that is not empty and spans no more than a width. -/
structure Burst (width : Nat) (error : List UInt8) : Prop where
  nonzero : ∃ position, bitAt error position = true
  within : ∃ first, ∀ position, bitAt error position = true → first ≤ position ∧ position < first + width

/-- The message ends with the CRC of all before it. -/
structure Sealed (data : List UInt8) : Prop where
  long : 4 ≤ data.length
  crc : leField data (data.length - 4) 4 = (crc32 (data.take (data.length - 4))).toNat

/-! ### Bits -/

@[simp] theorem length_byteBits (byte : UInt8) : (byteBits byte).length = 8 := by
  simp [byteBits]

theorem getD_byteBits (byte : UInt8) {place : Nat} (inside : place < 8) :
    (byteBits byte).getD place false = byte.toNat.testBit place := by
  simp [byteBits, inside]

theorem length_messageBits (data : List UInt8) : (messageBits data).length = 8 * data.length := by
  induction data with
  | nil => rfl
  | cons byte rest ih =>
    rw [messageBits, List.flatMap_cons, List.length_append, length_byteBits, List.length_cons]
    change 8 + (messageBits rest).length = _
    omega

theorem getD_messageBits (data : List UInt8) (position : Nat) :
    (messageBits data).getD position false = bitAt data position := by
  induction data generalizing position with
  | nil => simp [messageBits, bitAt]
  | cons byte rest ih =>
    rw [messageBits, List.flatMap_cons]
    rcases Nat.lt_or_ge position 8 with first | later
    · rw [List.getD_append _ _ _ _ (by rwa [length_byteBits]), getD_byteBits byte first, bitAt,
        Nat.div_eq_of_lt first, Nat.mod_eq_of_lt first]
      rfl
    · rw [List.getD_append_right _ _ _ _ (by rwa [length_byteBits]), length_byteBits]
      refine (ih (position - 8)).trans ?_
      obtain ⟨back, rfl⟩ := Nat.exists_eq_add_of_le later
      rw [Nat.add_sub_cancel_left, bitAt, bitAt, Nat.add_div_left _ (by decide), Nat.add_mod_left, List.getD_cons_succ]

theorem getElem?_messageBits {data data' : List UInt8} (length : data.length = data'.length) {position : Nat}
    (same : bitAt data position = bitAt data' position) :
    (messageBits data)[position]? = (messageBits data')[position]? := by
  have lengths : (messageBits data).length = (messageBits data').length := by
    rw [length_messageBits, length_messageBits, length]
  rw [← getD_messageBits, ← getD_messageBits, List.getD_eq_getElem?_getD, List.getD_eq_getElem?_getD] at same
  rcases Nat.lt_or_ge position (messageBits data).length with inside | outside
  · rw [List.getElem?_eq_getElem inside, List.getElem?_eq_getElem (lengths ▸ inside)] at same ⊢
    exact congrArg some same
  · rw [List.getElem?_eq_none outside, List.getElem?_eq_none (lengths ▸ outside)]

theorem testBit_leNat (data : List UInt8) (position : Nat) : (leNat data).testBit position = bitAt data position := by
  induction data generalizing position with
  | nil => simp [leNat, bitAt]
  | cons byte rest ih =>
    rw [leNat, Nat.add_comm, show 256 = 2 ^ 8 from rfl, Nat.testBit_two_pow_mul_add _ byte.toNat_lt]
    split
    · rename_i first
      rw [bitAt, Nat.div_eq_of_lt first, Nat.mod_eq_of_lt first]
      rfl
    · rename_i later
      obtain ⟨back, rfl⟩ := Nat.exists_eq_add_of_le (Nat.not_lt.mp later)
      rw [Nat.add_sub_cancel_left, ih, bitAt, bitAt, Nat.add_div_left _ (by decide), Nat.add_mod_left,
        List.getD_cons_succ]

/-- Past the end there are no bits. -/
theorem lt_of_bitAt {data : List UInt8} {position : Nat} (bit : bitAt data position = true) :
    position < 8 * data.length := by
  by_contra outside
  rw [bitAt, List.getD_eq_default _ _ (by omega)] at bit
  simp at bit

theorem bitAt_corrupt {data error : List UInt8} (length : error.length = data.length) (position : Nat) :
    bitAt (corrupt data error) position = (bitAt data position ^^ bitAt error position) := by
  have byte : (corrupt data error).getD (position / 8) 0 =
      data.getD (position / 8) 0 ^^^ error.getD (position / 8) 0 := by
    simp only [corrupt, List.getD_eq_getElem?_getD, List.getElem?_zipWith]
    rcases Nat.lt_or_ge (position / 8) data.length with inside | outside
    · rw [List.getElem?_eq_getElem inside, List.getElem?_eq_getElem (length.symm ▸ inside)]
      rfl
    · rw [List.getElem?_eq_none outside, List.getElem?_eq_none (length.symm ▸ outside)]
      rfl
  rw [bitAt, byte, UInt8.toNat_xor, Nat.testBit_xor]
  rfl

/-! ### The register -/

theorem shift_toBitVec (crc : UInt32) : (shift crc).toBitVec = CyclicCode.shift polynomial.toBitVec crc.toBitVec := by
  have low : crc &&& 1 ≠ 0 ↔ crc.toBitVec.getLsbD 0 = true := by
    have word : (crc &&& 1).toNat = crc.toNat % 2 := (UInt32.toNat_and crc 1).trans (Nat.and_one_is_mod _)
    have bit : crc.toBitVec.getLsbD 0 = decide (crc.toNat % 2 = 1) := Nat.testBit_zero _
    rw [bit, ne_eq, ← UInt32.toNat_inj, word, decide_eq_true_eq]
    exact Nat.mod_two_ne_zero
  unfold shift CyclicCode.shift
  by_cases leaves : crc.toBitVec.getLsbD 0 = true
  · rw [if_pos (low.mpr leaves), if_pos leaves]
    rfl
  · rw [if_neg (mt low.mp leaves), if_neg leaves]
    rfl

theorem update_toBitVec (crc : UInt32) (byte : UInt8) :
    (update crc byte).toBitVec = remainder polynomial.toBitVec crc.toBitVec (byteBits byte) := by
  have eight (register : UInt32) :
      ((List.range 8).foldl (fun crc _ => shift crc) register).toBitVec =
        shifts polynomial.toBitVec 8 register.toBitVec := by
    simp only [shifts, ← shift_toBitVec]
    rfl
  have entered : byte.toUInt32.toBitVec = word (byteBits byte) := by
    apply BitVec.eq_of_getLsbD_eq
    intro place inside
    rw [getLsbD_word _ inside]
    change byte.toUInt32.toNat.testBit place = _
    rw [UInt8.toNat_toUInt32]
    rcases Nat.lt_or_ge place 8 with low | high
    · rw [getD_byteBits byte low]
    · rw [List.getD_eq_default _ _ (by rwa [length_byteBits])]
      exact Nat.testBit_lt_two_pow (byte.toNat_lt.trans_le (Nat.pow_le_pow_right (by decide) high))
  rw [update, eight, remainder_eq_shifts _ (by rw [length_byteBits]; decide), length_byteBits, UInt32.toBitVec_xor,
    entered]

theorem foldl_update_toBitVec (crc : UInt32) (data : List UInt8) :
    (data.foldl update crc).toBitVec = remainder polynomial.toBitVec crc.toBitVec (messageBits data) := by
  induction data generalizing crc with
  | nil => rfl
  | cons byte rest ih =>
    rw [List.foldl_cons, ih, update_toBitVec, ← remainder_append]
    rfl

/-- What a sealed message leaves in the register. -/
theorem Sealed.remainder {data : List UInt8} (whole : Sealed data) :
    remainder polynomial.toBitVec (BitVec.allOnes 32) (messageBits data) =
      shifts polynomial.toBitVec 32 (BitVec.allOnes 32) := by
  have split : messageBits data =
      messageBits (data.take (data.length - 4)) ++ messageBits (data.drop (data.length - 4)) := by
    rw [messageBits, messageBits, messageBits, ← List.flatMap_append, List.take_append_drop]
  have trailer : (messageBits (data.drop (data.length - 4))).length = 32 := by
    have long := whole.long
    rw [length_messageBits, List.length_drop]
    omega
  have body := foldl_update_toBitVec 0xFFFFFFFF (data.take (data.length - 4))
  have own : (word (messageBits (data.drop (data.length - 4))) : BitVec 32) =
      ~~~ ((data.take (data.length - 4)).foldl update 0xFFFFFFFF).toBitVec := by
    have read : leNat (data.drop (data.length - 4)) = (crc32 (data.take (data.length - 4))).toNat := by
      rw [← whole.crc, leField, field, List.take_of_length_le]
      have long := whole.long
      rw [List.length_drop]
      omega
    apply BitVec.eq_of_getLsbD_eq
    intro place inside
    rw [getLsbD_word _ inside, getD_messageBits, ← testBit_leNat, read]
    rfl
  have start : BitVec.allOnes 32 = (0xFFFFFFFF : UInt32).toBitVec := by decide
  have all (register : BitVec 32) : register ^^^ ~~~ register = BitVec.allOnes 32 := by
    apply BitVec.eq_of_getLsbD_eq
    intro place inside
    rw [BitVec.getLsbD_xor, BitVec.getLsbD_not, BitVec.getLsbD_allOnes, decide_eq_true inside]
    exact Bool.xor_not_self _
  rw [split, remainder_append, remainder_eq_shifts _ trailer.le, trailer, own, body, start, all, start]

/-- A burst of up to 32 bits breaks the seal. -/
theorem not_sealed_corrupt {data error : List UInt8} (length : error.length = data.length) (burst : Burst 32 error)
    (whole : Sealed data) : ¬ Sealed (corrupt data error) := by
  intro corrupted
  obtain ⟨first, within⟩ := burst.within
  have lengths : (corrupt data error).length = data.length := by
    rw [corrupt, List.length_zipWith, length, min_self]
  have outside (position : Nat) (out : position < first ∨ first + 32 ≤ position) :
      (messageBits (corrupt data error))[position]? = (messageBits data)[position]? := by
    apply getElem?_messageBits lengths
    rw [bitAt_corrupt length]
    cases bit : bitAt error position with
    | false => exact Bool.xor_false _
    | true =>
      have := within position bit
      omega
  have same : messageBits (corrupt data error) = messageBits data :=
    eq_of_remainder_eq (by decide) (by rw [length_messageBits, length_messageBits, lengths]) first outside
      (corrupted.remainder.trans whole.remainder.symm)
  obtain ⟨position, bit⟩ := burst.nonzero
  have inverted := bitAt_corrupt length position
  rw [← getD_messageBits, same, getD_messageBits, bit, Bool.xor_true] at inverted
  cases kept : bitAt data position with
  | false =>
    rw [kept] at inverted
    cases inverted
  | true =>
    rw [kept] at inverted
    cases inverted

end SelfDriving.Crc32
