import Mathlib.Data.List.Basic

/-! Cyclic redundancy codes, bit by bit: a register of any width that a message is shifted
through, reflected, so that the bit that leaves is the lowest one. A code whose polynomial
has its constant term tells every burst that is no longer than the register. -/
namespace SelfDriving.CyclicCode

section
variable {w : Nat}

/-- One bit leaves the register. The polynomial is reflected, without its leading term. -/
def shift (polynomial register : BitVec w) : BitVec w :=
  if register.getLsbD 0 then (register >>> 1) ^^^ polynomial else register >>> 1

def shifts (polynomial : BitVec w) : Nat → BitVec w → BitVec w
  | 0, register => register
  | count + 1, register => shifts polynomial count (shift polynomial register)

/-- A bit as the lowest one of a word. -/
def lowest (bit : Bool) : BitVec w := if bit then 1#w else 0#w

/-- One bit of the message enters. -/
def feed (polynomial register : BitVec w) (bit : Bool) : BitVec w := shift polynomial (register ^^^ lowest bit)

/-- The register after a message. -/
def remainder (polynomial register : BitVec w) (bits : List Bool) : BitVec w := bits.foldl (feed polynomial) register

/-- The word that bits stand for, lowest first. -/
def word : List Bool → BitVec w
  | [] => 0#w
  | bit :: rest => lowest bit ^^^ (word rest <<< 1)

/-! ### Words -/

theorem getLsbD_lowest (bit : Bool) {i : Nat} (inside : i < w) :
    (lowest bit : BitVec w).getLsbD i = (decide (i = 0) && bit) := by
  unfold lowest
  cases bit with
  | false => simp
  | true => simp [inside]

theorem getLsbD_word (bits : List Bool) {i : Nat} (inside : i < w) :
    (word bits : BitVec w).getLsbD i = bits.getD i false := by
  induction bits generalizing i with
  | nil => simp [word]
  | cons bit rest ih =>
    rw [word, BitVec.getLsbD_xor, getLsbD_lowest bit inside, BitVec.getLsbD_shiftLeft]
    cases i with
    | zero => simp
    | succ i => simp [inside, ih (Nat.lt_of_succ_lt inside)]

/-- Bits that fit the word are told apart by it. -/
theorem word_injective {bits bits' : List Bool} (length : bits.length = bits'.length) (fits : bits.length ≤ w)
    (same : (word bits : BitVec w) = word bits') : bits = bits' := by
  apply List.ext_getElem length
  intro i inside inside'
  have bit := congrArg (fun x : BitVec w => x.getLsbD i) same
  simp only [getLsbD_word _ (Nat.lt_of_lt_of_le inside fits)] at bit
  rwa [← List.getElem_eq_getD false, ← List.getElem_eq_getD false] at bit

/-- Bits that leave the highest place free can be shifted there and back. -/
theorem shift_back_word {rest : List Bool} (fits : rest.length < w) :
    ((word rest : BitVec w) <<< 1) >>> 1 = word rest := by
  apply BitVec.eq_of_getLsbD_eq
  intro i inside
  rw [BitVec.getLsbD_ushiftRight, BitVec.getLsbD_shiftLeft, getLsbD_word rest inside, Nat.add_comm 1 i]
  by_cases within : i + 1 < w
  · simp [within, getLsbD_word rest inside]
  · rw [List.getD_eq_getElem?_getD, List.getElem?_eq_none (by omega)]
    simp [within]

/-! ### The register -/

variable (polynomial : BitVec w)

/-- What enters above the lowest bit is not in the way of a shift. -/
theorem shift_xor_word {rest : List Bool} (fits : rest.length < w) (register : BitVec w) :
    shift polynomial register ^^^ word rest = shift polynomial (register ^^^ (word rest <<< 1)) := by
  have low : (register ^^^ (word rest <<< 1)).getLsbD 0 = register.getLsbD 0 := by simp
  unfold shift
  rw [low, BitVec.ushiftRight_xor_distrib, shift_back_word fits]
  split
  · rw [BitVec.xor_assoc, BitVec.xor_comm polynomial, BitVec.xor_assoc]
  · rfl

/-- As many bits as the register holds may enter at once. -/
theorem remainder_eq_shifts {bits : List Bool} (fits : bits.length ≤ w) (register : BitVec w) :
    remainder polynomial register bits = shifts polynomial bits.length (register ^^^ word bits) := by
  induction bits generalizing register with
  | nil => simp [remainder, shifts, word]
  | cons bit rest ih =>
    have room : rest.length < w := fits
    change remainder polynomial (feed polynomial register bit) rest = _
    rw [ih (Nat.le_of_lt room), feed, shift_xor_word polynomial room, List.length_cons, shifts, word, BitVec.xor_assoc]

theorem remainder_append (register : BitVec w) (first second : List Bool) :
    remainder polynomial register (first ++ second) =
      remainder polynomial (remainder polynomial register first) second :=
  List.foldl_append

variable {polynomial}

/-- The highest bit of the register tells which bit has left it. -/
theorem getLsbD_shift_last (constant : polynomial.msb = true) (register : BitVec w) :
    (shift polynomial register).getLsbD (w - 1) = register.getLsbD 0 := by
  have top : polynomial.getLsbD (w - 1) = true := by rwa [BitVec.msb_eq_getLsbD_last] at constant
  have free : (register >>> 1).getLsbD (w - 1) = false := by
    rw [BitVec.getLsbD_ushiftRight]
    exact BitVec.getLsbD_of_ge _ _ (by omega)
  unfold shift
  split
  · rename_i leaves
    rw [BitVec.getLsbD_xor, free, top, leaves]
    rfl
  · rename_i stays
    rw [free]
    simpa using stays

theorem shift_injective (constant : polynomial.msb = true) : Function.Injective (shift polynomial) := by
  intro first second same
  have low : first.getLsbD 0 = second.getLsbD 0 := by
    rw [← getLsbD_shift_last constant, same, getLsbD_shift_last constant]
  have high : first >>> 1 = second >>> 1 := by
    unfold shift at same
    rw [low] at same
    split at same
    · have both := congrArg (· ^^^ polynomial) same
      simpa [BitVec.xor_assoc] using both
    · exact same
  apply BitVec.eq_of_getLsbD_eq
  intro i inside
  cases i with
  | zero => exact low
  | succ i =>
    have bit := congrArg (fun x : BitVec w => x.getLsbD i) high
    simpa [Nat.add_comm] using bit

theorem shifts_injective (constant : polynomial.msb = true) (count : Nat) :
    Function.Injective (shifts polynomial count) := by
  induction count with
  | zero => exact fun _ _ same => same
  | succ count ih => exact fun _ _ same => shift_injective constant (ih same)

theorem remainder_injective (constant : polynomial.msb = true) (bits : List Bool) :
    Function.Injective fun register => remainder polynomial register bits := by
  induction bits with
  | nil => exact fun _ _ same => same
  | cons bit rest ih =>
    intro first second same
    have entered := shift_injective constant (ih same)
    have both := congrArg (· ^^^ lowest bit) entered
    simpa [BitVec.xor_assoc] using both

/-! ### Bursts -/

/-- Two messages with the same remainder that differ within one width of the register do not differ. -/
theorem eq_of_remainder_eq (constant : polynomial.msb = true) {register : BitVec w} {bits bits' : List Bool}
    (length : bits.length = bits'.length) (first : Nat)
    (outside : ∀ i, i < first ∨ first + w ≤ i → bits[i]? = bits'[i]?)
    (same : remainder polynomial register bits = remainder polynomial register bits') : bits = bits' := by
  have before : bits.take first = bits'.take first := by
    apply List.ext_getElem?
    intro i
    rw [List.getElem?_take, List.getElem?_take]
    split
    · rename_i early
      exact outside i (.inl early)
    · rfl
  have after : (bits.drop first).drop w = (bits'.drop first).drop w := by
    apply List.ext_getElem?
    intro i
    rw [List.drop_drop, List.drop_drop, List.getElem?_drop, List.getElem?_drop]
    exact outside _ (.inr (by omega))
  have split (list : List Bool) : list = list.take first ++ ((list.drop first).take w ++ (list.drop first).drop w) := by
    rw [List.take_append_drop, List.take_append_drop]
  have lengths : ((bits.drop first).take w).length = ((bits'.drop first).take w).length := by
    simp [length]
  rw [split bits, split bits', before, after, remainder_append, remainder_append, remainder_append,
    remainder_append] at same
  have middle := remainder_injective constant _ same
  rw [remainder_eq_shifts polynomial (List.length_take_le _ _),
    remainder_eq_shifts polynomial (List.length_take_le _ _), lengths] at middle
  have words := congrArg (remainder polynomial register (bits'.take first) ^^^ ·) (shifts_injective constant _ middle)
  simp only [← BitVec.xor_assoc, BitVec.xor_self, BitVec.zero_xor] at words
  rw [split bits, split bits', before, after, word_injective lengths (List.length_take_le _ _) words]

end
end SelfDriving.CyclicCode
