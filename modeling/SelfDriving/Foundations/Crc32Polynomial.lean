import Mathlib.Algebra.Polynomial.BigOperators
import Mathlib.Tactic.IntervalCases
import SelfDriving.Foundations.Crc32Code
import SelfDriving.Foundations.CyclicPolynomial

/-! The CRC-32 as the standard has it: the remainder of a division of polynomials. The bits of a
message enter from the lowest of each byte, the division starts with 32 ones, and the remainder is
reflected and complemented. -/
namespace SelfDriving.Crc32
open CyclicCode Polynomial

noncomputable section

def ieeeGenerator : (ZMod 2)[X] :=
  X ^ 32 + X ^ 26 + X ^ 23 + X ^ 22 + X ^ 16 + X ^ 12 + X ^ 11 + X ^ 10 + X ^ 8 + X ^ 7 + X ^ 5 + X ^ 4 + X ^ 2 + X + 1

/-- The ones that the division starts with. -/
def preset : (ZMod 2)[X] := ∑ i ∈ Finset.range 32, X ^ i

/-- What the message, 32 powers up and its first 32 bits complemented, leaves. -/
def ieeeRemainder (data : List UInt8) : (ZMod 2)[X] :=
  (X ^ (8 * data.length) * preset + X ^ 32 * messagePolynomial (messageBits data)) %ₘ ieeeGenerator

end

/-- The word is the remainder, reflected and complemented. -/
def IsIeeeCrc (data : List UInt8) (crc : UInt32) : Prop :=
  ∀ i < 32, (crc.toNat.testBit i = true ↔ (ieeeRemainder data).coeff (31 - i) = 0)

theorem preset_eq : preset = wordPolynomial (0xFFFFFFFF : UInt32).toBitVec := by
  have ones : (0xFFFFFFFF : UInt32).toBitVec = BitVec.allOnes 32 := by decide
  ext i
  rw [ones, coeff_wordPolynomial, BitVec.getMsbD_allOnes, preset, finsetSum_coeff]
  simp [coeff_X_pow, coefficient]

theorem ieeeGenerator_eq : ieeeGenerator = generator polynomial.toBitVec := by
  ext i
  rw [generator, coeff_add, coeff_wordPolynomial, ieeeGenerator]
  simp only [coeff_add, coeff_X_pow, coeff_X, coeff_one]
  rcases Nat.lt_or_ge i 33 with inside | outside
  · interval_cases i <;> decide
  · have apart : ∀ n < 33, i ≠ n := fun n below => by omega
    have first : 1 ≠ i := (apart 1 (by decide)).symm
    rw [BitVec.getMsbD_of_ge _ _ (Nat.le_of_succ_le outside)]
    simp [apart, first, coefficient]

/-- The register after a message, before it is complemented. -/
theorem wordPolynomial_register (data : List UInt8) :
    wordPolynomial (data.foldl update 0xFFFFFFFF).toBitVec = ieeeRemainder data := by
  rw [foldl_update_toBitVec, wordPolynomial_remainder _ (by decide), length_messageBits, ← preset_eq, ← ieeeGenerator_eq]
  rfl

theorem testBit_crc32 (data : List UInt8) {i : Nat} (inside : i < 32) :
    (crc32 data).toNat.testBit i = !(data.foldl update 0xFFFFFFFF).toBitVec.getLsbD i := by
  rw [crc32, ← UInt32.toNat_toBitVec, BitVec.testBit_toNat, UInt32.toBitVec_not, BitVec.getLsbD_not,
    decide_eq_true inside, Bool.true_and]

theorem isIeeeCrc_crc32 (data : List UInt8) : IsIeeeCrc data (crc32 data) := by
  intro i inside
  have place : (data.foldl update 0xFFFFFFFF).toBitVec.getMsbD (31 - i) =
      (data.foldl update 0xFFFFFFFF).toBitVec.getLsbD i := by
    rw [BitVec.getMsbD_eq_getLsbD, decide_eq_true (by omega), Bool.true_and]
    congr 1
    omega
  rw [testBit_crc32 data inside, ← wordPolynomial_register, coeff_wordPolynomial, place, coefficient_eq_zero_iff,
    Bool.not_eq_true']

/-- One word is the CRC of a message, and the loop over its bits finds it. -/
theorem isIeeeCrc_iff {data : List UInt8} {crc : UInt32} : IsIeeeCrc data crc ↔ crc = crc32 data := by
  constructor
  · intro standard
    rw [← UInt32.toBitVec_inj]
    apply BitVec.eq_of_getLsbD_eq
    intro i inside
    have bit := (standard i inside).trans (isIeeeCrc_crc32 data i inside).symm
    rw [Bool.eq_iff_iff, ← BitVec.testBit_toNat, ← BitVec.testBit_toNat]
    exact bit
  · rintro rfl
    exact isIeeeCrc_crc32 data

end SelfDriving.Crc32
