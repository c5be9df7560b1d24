import SelfDriving.Front.SensorPacket

/-! The checksum as the sensor node computes it, with an accumulator of 32 bits and a loop
that folds the carries back, and what a buffer sums to that carries it. -/
namespace SelfDriving.Front
open InternetChecksum

/-- The loop over the words. -/
def sumWords (sum : UInt32) : List UInt8 → UInt32
  | [] => sum
  | [high] => sum + (high.toUInt32 <<< 8)
  | high :: low :: rest => sumWords (sum + ((high.toUInt32 <<< 8) ||| low.toUInt32)) rest

/-- The body of the loop over the carries. -/
def foldOnce (sum : UInt32) : UInt32 := (sum &&& (0xffff : UInt32)) + (sum >>> 16)

theorem high_toNat32 (sum : UInt32) : (sum >>> 16).toNat = sum.toNat / 65536 := by
  rw [UInt32.toNat_shiftRight, Nat.shiftRight_eq_div_pow]
  rfl

/-- No carry is lost. -/
theorem foldOnce_toNat (sum : UInt32) : (foldOnce sum).toNat = sum.toNat % 65536 + sum.toNat / 65536 := by
  have bound := sum.toNat_lt
  have low : (sum &&& (0xffff : UInt32)).toNat = sum.toNat % 65536 := by
    rw [UInt32.toNat_and]
    exact Nat.and_two_pow_sub_one_eq_mod sum.toNat 16
  rw [foldOnce, UInt32.toNat_add, low, high_toNat32]
  omega

theorem carries_iff (sum : UInt32) : sum >>> 16 = 0 ↔ sum.toNat / 65536 = 0 := by
  rw [← UInt32.toNat_inj, high_toNat32, UInt32.toNat_zero]

/-- The loop that folds the carries back. -/
def foldCarries (sum : UInt32) : UInt32 :=
  if sum >>> 16 ≠ 0 then foldCarries (foldOnce sum) else sum
termination_by sum.toNat
decreasing_by
  rename_i carries
  rw [ne_eq, carries_iff] at carries
  rw [foldOnce_toNat]
  omega

def aebChecksum16 (data : List UInt8) : UInt16 := (~~~(foldCarries (sumWords 0 data))).toUInt16

/-- `aeb_put16be` at an offset of a buffer. -/
def aebPut16be (buffer : List UInt8) (offset : Nat) (value : UInt16) : List UInt8 :=
  (buffer.set offset (value >>> 8).toUInt8).set (offset + 1) value.toUInt8

/-! ### The accumulator -/

theorem high_shift_toNat (high : UInt8) : (high.toUInt32 <<< 8).toNat = high.toNat * 256 := by
  have bound := high.toNat_lt
  rw [UInt32.toNat_shiftLeft, UInt8.toNat_toUInt32]
  change high.toNat <<< 8 % 2 ^ 32 = _
  rw [Nat.shiftLeft_eq]
  omega

theorem word_toNat (high low : UInt8) :
    ((high.toUInt32 <<< 8) ||| low.toUInt32).toNat = high.toNat * 256 + low.toNat := by
  have apart := Nat.two_pow_add_eq_or_of_lt low.toNat_lt high.toNat
  rw [UInt32.toNat_or, high_shift_toNat, UInt8.toNat_toUInt32, Nat.mul_comm, ← apart]

/-- The accumulator is exact as long as the words fit it. -/
theorem sumWords_toNat {sum : UInt32} {data : List UInt8} (fits : sum.toNat + wordSum data < 2 ^ 32) :
    (sumWords sum data).toNat = sum.toNat + wordSum data := by
  induction sum, data using sumWords.induct with
  | case1 sum => simp [sumWords, wordSum]
  | case2 sum high =>
    rw [wordSum] at fits ⊢
    rw [sumWords, UInt32.toNat_add, high_shift_toNat]
    exact Nat.mod_eq_of_lt fits
  | case3 sum high low rest ih =>
    rw [wordSum, ← Nat.add_assoc] at fits ⊢
    have small := lt_of_le_of_lt (Nat.le_add_right _ _) fits
    have next : (sum + ((high.toUInt32 <<< 8) ||| low.toUInt32)).toNat = sum.toNat + (high.toNat * 256 + low.toNat) := by
      rw [UInt32.toNat_add, word_toNat, Nat.mod_eq_of_lt small]
    rw [next] at ih
    rw [sumWords, ih fits]

/-- No buffer that a 16-bit length can describe makes it overflow. -/
theorem wordSum_lt {data : List UInt8} (short : data.length ≤ 65535) : wordSum data < 2 ^ 32 := by
  have bound := wordSum_le data
  omega

/-! ### The loop over the carries -/

theorem foldCarries_toNat (sum : UInt32) : (foldCarries sum).toNat = fold sum.toNat := by
  induction sum using foldCarries.induct with
  | case1 sum carries ih =>
    rw [foldCarries, if_pos carries, ih, foldOnce_toNat]
    rw [ne_eq, carries_iff] at carries
    exact (show fold sum.toNat = _ by rw [fold, if_neg carries]).symm
  | case2 sum done =>
    rw [foldCarries, if_neg done]
    rw [ne_eq, not_not, carries_iff] at done
    rw [fold, if_pos done]

/-- The loop runs at most twice, whatever the sum. -/
theorem foldCarries_iterations (sum : UInt32) : ∃ iterations ≤ 2,
    (∀ earlier < iterations, foldOnce^[earlier] sum >>> 16 ≠ 0) ∧ foldOnce^[iterations] sum >>> 16 = 0 ∧
      foldCarries sum = foldOnce^[iterations] sum := by
  have bound := sum.toNat_lt
  by_cases none : sum >>> 16 = 0
  · exact ⟨0, by omega, by simp, none, by rw [foldCarries, if_neg (not_not.mpr none)]; rfl⟩
  by_cases one : foldOnce sum >>> 16 = 0
  · refine ⟨1, by omega, fun earlier less => ?_, one, ?_⟩
    · rwa [Nat.lt_one_iff.mp less]
    · rw [foldCarries, if_pos none, foldCarries, if_neg (not_not.mpr one)]
      rfl
  · -- a sum of 32 bits leaves a carry of one after the first round, on top of less than a full word
    have two : foldOnce (foldOnce sum) >>> 16 = 0 := by
      rw [carries_iff, foldOnce_toNat, foldOnce_toNat]
      omega
    refine ⟨2, le_rfl, fun earlier less => ?_, two, ?_⟩
    · obtain rfl | rfl : earlier = 0 ∨ earlier = 1 := by omega
      · exact none
      · exact one
    · rw [foldCarries, if_pos none, foldCarries, if_pos one, foldCarries, if_neg (not_not.mpr two)]
      rfl

/-! ### The stored checksum -/

theorem aebChecksum16_toNat {data : List UInt8} (short : data.length ≤ 65535) :
    (aebChecksum16 data).toNat = 65535 - onesSum data := by
  have bound := fold_lt (wordSum data)
  have sum : (sumWords 0 data).toNat = wordSum data := by
    rw [sumWords_toNat (by simpa using wordSum_lt short), UInt32.toNat_zero, Nat.zero_add]
  rw [aebChecksum16, UInt32.toNat_toUInt16, UInt32.toNat_not, foldCarries_toNat, sum, onesSum]
  change (4294967296 - 1 - fold (wordSum data)) % 65536 = _
  omega

/-- Natural numbers instead of the accumulator change nothing. -/
theorem aebChecksum16_eq {data : List UInt8} (short : data.length ≤ 65535) : aebChecksum16 data = checksum16 data := by
  rw [← UInt16.toNat_inj, aebChecksum16_toNat short, checksum16_toNat]

/-- The node takes the checksum of the IP header and stores it in the header. -/
theorem ipHeader_eq (frame : Frame) :
    ipHeader frame (checksum16 (ipHeader frame 0)) =
      aebPut16be (ipHeader frame 0) 10 (aebChecksum16 (ipHeader frame 0)) := by
  have short : (ipHeader frame 0).length ≤ 65535 := by
    change 20 ≤ 65535
    decide
  rw [aebChecksum16_eq short]
  rfl

theorem aebPut16be_eq (first second : List UInt8) (a b : UInt8) (value : UInt16) :
    aebPut16be (first ++ [a, b] ++ second) first.length value =
      first ++ [(value >>> 8).toUInt8, value.toUInt8] ++ second := by
  simp [aebPut16be]

/-- Two bytes inside a buffer, with what is before and after them. -/
theorem split_at_field {data : List UInt8} {offset : Nat} (inside : offset + 2 ≤ data.length) :
    ∃ first second, first.length = offset ∧
      data = first ++ [data.getD offset 0, data.getD (offset + 1) 0] ++ second := by
  refine ⟨data.take offset, data.drop (offset + 2), List.length_take_of_le (by omega), ?_⟩
  have held (place : Nat) (within : place < data.length) : data.getD place 0 = data[place] := by
    rw [List.getD_eq_getElem?_getD, List.getElem?_eq_getElem within, Option.getD_some]
  rw [held offset (by omega), held (offset + 1) (by omega), List.append_assoc, List.cons_append, List.cons_append,
    List.nil_append, ← List.drop_eq_getElem_cons, ← List.drop_eq_getElem_cons, List.take_append_drop]

/-- A buffer that carries its checksum in a field of its own, which was zero before, sums to all
ones. The accumulator is the exact sum after every word, and the carries are gone after two
rounds. -/
theorem aebChecksum16_stored (data : List UInt8) (offset : Nat) (short : data.length ≤ 65535) (even : offset % 2 = 0)
    (inside : offset + 2 ≤ data.length) (clear : data.getD offset 0 = 0 ∧ data.getD (offset + 1) 0 = 0) :
    onesComplementSum (aebPut16be data offset (aebChecksum16 data)) = 0xFFFF ∧
    (∀ count, (sumWords 0 (data.take count)).toNat = (words (data.take count)).sum) ∧
    ∃ iterations ≤ 2, (∀ earlier < iterations, foldOnce^[earlier] (sumWords 0 data) >>> 16 ≠ 0) ∧
      foldOnce^[iterations] (sumWords 0 data) >>> 16 = 0 ∧
      foldCarries (sumWords 0 data) = foldOnce^[iterations] (sumWords 0 data) := by
  refine ⟨?_, fun count => ?_, foldCarries_iterations _⟩
  · obtain ⟨first, second, rfl, split⟩ := split_at_field inside
    rw [clear.1, clear.2] at split
    have checksum := aebChecksum16_toNat short
    rw [split] at checksum ⊢
    rw [aebPut16be_eq, onesComplementSum_eq]
    exact onesSum_with_checksum even (by rw [put16be_toNat, checksum])
  · have shorter : (data.take count).length ≤ 65535 := (List.length_take_le' _ _).trans short
    rw [sumWords_toNat (by simpa using wordSum_lt shorter), UInt32.toNat_zero, Nat.zero_add, sum_words]

/-- The header of a packet with fifty bytes. -/
theorem aebChecksum16_stored_header :
    let header : List UInt8 := [0x45, 0, 0, 50, 0, 7, 0, 0, 64, 17, 0, 0, 192, 168, 10, 11, 192, 168, 10, 1]
    onesComplementSum (aebPut16be header 10 (aebChecksum16 header)) = 0xFFFF := by
  intro header
  exact (aebChecksum16_stored header 10 (by decide) rfl (by decide) ⟨rfl, rfl⟩).1

end SelfDriving.Front
