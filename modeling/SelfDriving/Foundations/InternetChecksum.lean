import Mathlib.Data.List.Basic
import Mathlib.Tactic.Ring

/-! The checksum of the internet headers: the ones' complement of the ones' complement
sum of the 16-bit words, most significant byte first. Carries are folded back in, so the
sum counts modulo 65535, and a header that carries its own checksum sums to all ones. -/
namespace SelfDriving.InternetChecksum

/-- The sum of the words, before the carries; an odd last byte is a high one. -/
def wordSum : List UInt8 → Nat
  | [] => 0
  | [high] => high.toNat * 256
  | high :: low :: rest => high.toNat * 256 + low.toNat + wordSum rest

/-- The carries folded back until none is left. -/
def fold (sum : Nat) : Nat :=
  if sum / 65536 = 0 then sum else fold (sum % 65536 + sum / 65536)
termination_by sum
decreasing_by omega

/-- The ones' complement sum. -/
def onesSum (data : List UInt8) : Nat := fold (wordSum data)

theorem fold_lt (sum : Nat) : fold sum < 65536 := by
  induction sum using fold.induct with
  | case1 sum done =>
    rw [fold, if_pos done]
    omega
  | case2 sum more ih => rwa [fold, if_neg more]

/-- Folding keeps the sum modulo 65535. -/
theorem fold_mod (sum : Nat) : fold sum % 65535 = sum % 65535 := by
  induction sum using fold.induct with
  | case1 sum done => rw [fold, if_pos done]
  | case2 sum more ih =>
    rw [fold, if_neg more, ih]
    omega

theorem fold_pos {sum : Nat} (pos : 0 < sum) : 0 < fold sum := by
  induction sum using fold.induct with
  | case1 sum done => rwa [fold, if_pos done]
  | case2 sum more ih =>
    rw [fold, if_neg more]
    exact ih (by omega)

@[simp] theorem fold_zero : fold 0 = 0 := by
  rw [fold, if_pos (Nat.zero_div _)]

/-- Folding looks at a sum modulo 65535, and at whether it is zero. -/
theorem fold_congr {sum sum' : Nat} (same : sum % 65535 = sum' % 65535) (zero : sum = 0 ↔ sum' = 0) :
    fold sum = fold sum' := by
  have small := fold_lt sum
  have small' := fold_lt sum'
  have folded := fold_mod sum
  have folded' := fold_mod sum'
  by_cases none : sum = 0
  · rw [none, zero.mp none]
  · have pos := fold_pos (Nat.pos_of_ne_zero none)
    have pos' := fold_pos (Nat.pos_of_ne_zero fun none' => none (zero.mpr none'))
    omega

theorem fold_of_lt {sum : Nat} (small : sum < 65536) : fold sum = sum := by
  rw [fold, if_pos (Nat.div_eq_of_lt small)]

/-- What a sum lacks to all ones makes it all ones. -/
theorem fold_add_complement (sum : Nat) : fold (sum + (65535 - fold sum)) = 65535 := by
  have folded := fold_mod sum
  have bound := fold_lt sum
  have whole : fold (sum + (65535 - fold sum)) = fold 65535 := by
    apply fold_congr
    · omega
    · have pos : 0 < sum → 0 < fold sum := fold_pos
      constructor
      · intro none
        rw [Nat.eq_zero_of_add_eq_zero_right none, fold_zero] at none
        cases none
      · intro none
        cases none
  rw [whole, fold_of_lt (by decide)]

/-! ### Ones' complement addition -/

/-- The words of a byte string; an odd last byte is a high one. -/
def words : List UInt8 → List Nat
  | [] => []
  | [high] => [high.toNat * 256]
  | high :: low :: rest => (high.toNat * 256 + low.toNat) :: words rest

/-- A carry out of the highest bit is added to the lowest. -/
def onesAdd (first second : Nat) : Nat := (first + second) % 65536 + (first + second) / 65536

/-- The words added one after the other. -/
def onesComplementSum (data : List UInt8) : Nat := (words data).foldl onesAdd 0

theorem sum_words (data : List UInt8) : (words data).sum = wordSum data := by
  induction data using wordSum.induct with
  | case1 => rfl
  | case2 high => simp [words, wordSum]
  | case3 high low rest ih => rw [words, wordSum, List.sum_cons, ih]

theorem words_lt (data : List UInt8) : ∀ word ∈ words data, word < 65536 := by
  induction data using wordSum.induct with
  | case1 => simp [words]
  | case2 high =>
    have bound := high.toNat_lt
    simp only [words, List.mem_singleton]
    omega
  | case3 high low rest ih =>
    have bound := high.toNat_lt
    have bound' := low.toNat_lt
    simp only [words, List.forall_mem_cons]
    exact ⟨by omega, ih⟩

/-- It does not matter whether the carries go round at each addition or at the end. -/
theorem foldl_onesAdd {list : List Nat} (small : ∀ word ∈ list, word < 65536) {sum : Nat} (start : sum < 65536) :
    list.foldl onesAdd sum = fold (sum + list.sum) := by
  induction list generalizing sum with
  | nil => rw [List.foldl_nil, List.sum_nil, Nat.add_zero, fold_of_lt start]
  | cons word list ih =>
    obtain ⟨first, rest⟩ := List.forall_mem_cons.mp small
    have next : onesAdd sum word < 65536 := by
      unfold onesAdd
      omega
    rw [List.foldl_cons, ih rest next, List.sum_cons]
    unfold onesAdd
    apply fold_congr
    · omega
    · omega

theorem onesComplementSum_eq (data : List UInt8) : onesComplementSum data = onesSum data := by
  rw [onesComplementSum, foldl_onesAdd (words_lt data) (by decide), sum_words, Nat.zero_add, onesSum]

/-! ### A header with its checksum -/

/-- The words of a byte string fit one half of its bytes, rounded up. -/
theorem wordSum_le (data : List UInt8) : wordSum data ≤ 65535 * ((data.length + 1) / 2) := by
  induction data using wordSum.induct with
  | case1 => simp [wordSum]
  | case2 high =>
    have bound := high.toNat_lt
    simp only [wordSum, List.length_singleton]
    omega
  | case3 high low rest ih =>
    have bound := high.toNat_lt
    have bound' := low.toNat_lt
    have half : (rest.length + 1 + 1 + 1) / 2 = (rest.length + 1) / 2 + 1 := by omega
    simp only [wordSum, List.length_cons, half]
    omega

/-- After whole words the sum goes on. -/
theorem wordSum_append {first : List UInt8} (even : first.length % 2 = 0) (second : List UInt8) :
    wordSum (first ++ second) = wordSum first + wordSum second := by
  induction first using wordSum.induct with
  | case1 => rw [List.nil_append, wordSum, Nat.zero_add]
  | case2 high => cases even
  | case3 high low rest ih =>
    have rest_even : rest.length % 2 = 0 := by
      simp only [List.length_cons] at even
      omega
    rw [List.cons_append, List.cons_append, wordSum, wordSum, ih rest_even]
    ring

/-- A header with its checksum between whole words sums to all ones. -/
theorem onesSum_with_checksum {first second : List UInt8} {high low : UInt8} (even : first.length % 2 = 0)
    (checksum : high.toNat * 256 + low.toNat = 65535 - onesSum (first ++ [0, 0] ++ second)) :
    onesSum (first ++ [high, low] ++ second) = 65535 := by
  have split (a b : UInt8) : wordSum (first ++ [a, b] ++ second) =
      wordSum first + (a.toNat * 256 + b.toNat) + wordSum second := by
    have evens : (first ++ [a, b]).length % 2 = 0 := by
      rw [List.length_append, List.length_cons, List.length_singleton]
      omega
    rw [wordSum_append evens, wordSum_append even]
    simp only [wordSum, Nat.add_zero]
  have complete : wordSum (first ++ [high, low] ++ second) =
      wordSum (first ++ [0, 0] ++ second) + (65535 - fold (wordSum (first ++ [0, 0] ++ second))) := by
    rw [← onesSum, ← checksum, split, split]
    simp only [UInt8.toNat_zero]
    ring
  rw [onesSum, complete, fold_add_complement]

end SelfDriving.InternetChecksum
