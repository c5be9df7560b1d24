import Mathlib.Algebra.CharP.Two
import Mathlib.Algebra.Field.ZMod
import Mathlib.Algebra.Polynomial.Div
import Mathlib.Algebra.Polynomial.OfFn
import SelfDriving.Foundations.CyclicCode

/-! What a cyclic code computes, in terms of polynomials over two elements: the register is the
remainder of a division by the generator. The register is reflected, so its highest bit is the
constant term; the first bit of a message has the highest power. -/
namespace SelfDriving.CyclicCode
open Polynomial

/-- A bit as an element. -/
def coefficient (bit : Bool) : ZMod 2 := if bit then 1 else 0

theorem coefficient_xor (first second : Bool) :
    coefficient (first ^^ second) = coefficient first + coefficient second := by
  cases first <;> cases second <;> decide

theorem coefficient_eq_zero_iff {bit : Bool} : coefficient bit = 0 ↔ bit = false := by
  cases bit <;> decide

section
variable {w : Nat}

noncomputable section

/-- The polynomial of a register. -/
def wordPolynomial (register : BitVec w) : (ZMod 2)[X] :=
  ofFn w fun i => coefficient (register.getMsbD i)

/-- The polynomial of a message. -/
def messagePolynomial : List Bool → (ZMod 2)[X]
  | [] => 0
  | bit :: rest => C (coefficient bit) * X ^ rest.length + messagePolynomial rest

/-- The generator, with its leading term. -/
def generator (polynomial : BitVec w) : (ZMod 2)[X] := X ^ w + wordPolynomial polynomial

end

/-! ### Registers as polynomials -/

@[simp] theorem coeff_wordPolynomial (register : BitVec w) (i : Nat) :
    (wordPolynomial register).coeff i = coefficient (register.getMsbD i) := by
  rcases Nat.lt_or_ge i w with inside | outside
  · exact ofFn_coeff_eq_val_of_lt _ inside
  · rw [wordPolynomial, ofFn_coeff_eq_zero_of_ge _ outside, BitVec.getMsbD_of_ge _ _ outside]
    rfl

theorem degree_wordPolynomial (register : BitVec w) : (wordPolynomial register).degree < w :=
  ofFn_degree_lt _

theorem wordPolynomial_xor (first second : BitVec w) :
    wordPolynomial (first ^^^ second) = wordPolynomial first + wordPolynomial second := by
  ext i
  rw [coeff_add, coeff_wordPolynomial, coeff_wordPolynomial, coeff_wordPolynomial, BitVec.getMsbD_xor, coefficient_xor]

/-- A shift multiplies, less the bit that leaves, which would be a power too high. -/
theorem wordPolynomial_ushiftRight (register : BitVec w) :
    wordPolynomial (register >>> 1) + C (coefficient (register.getLsbD 0)) * X ^ w = X * wordPolynomial register := by
  ext i
  rw [coeff_add, coeff_C_mul_X_pow, coeff_wordPolynomial, BitVec.getMsbD_ushiftRight]
  cases i with
  | zero =>
    rw [coeff_X_mul_zero]
    by_cases empty : 0 = w
    · subst empty
      simp [coefficient]
    · simp [empty, coefficient]
  | succ i =>
    rw [coeff_X_mul, coeff_wordPolynomial]
    rcases Nat.lt_trichotomy (i + 1) w with inside | last | outside
    · simp [inside, inside.ne, coefficient]
    · subst last
      simp [BitVec.getMsbD_eq_getLsbD, coefficient]
    · rw [BitVec.getMsbD_of_ge _ _ (Nat.le_of_lt_succ outside)]
      simp [Nat.ne_of_gt outside, Nat.not_lt_of_gt outside, coefficient]

theorem wordPolynomial_zero : wordPolynomial (0#w) = 0 := by
  ext i
  simp [coefficient]

/-- A bit that enters is the highest power. -/
theorem wordPolynomial_lowest (positive : 0 < w) (bit : Bool) :
    X * wordPolynomial (lowest bit : BitVec w) = C (coefficient bit) * X ^ w := by
  have gone : (lowest bit : BitVec w) >>> 1 = 0#w := by
    apply BitVec.eq_of_getLsbD_eq
    intro i inside
    rw [BitVec.getLsbD_ushiftRight]
    by_cases within : 1 + i < w
    · rw [getLsbD_lowest bit within]
      simp
    · rw [BitVec.getLsbD_of_ge _ _ (Nat.not_lt.mp within)]
      simp
  have shifted := wordPolynomial_ushiftRight (lowest bit : BitVec w)
  rw [gone, wordPolynomial_zero, zero_add, getLsbD_lowest bit positive] at shifted
  simpa using shifted.symm

/-! ### Division -/

variable (polynomial : BitVec w)

theorem monic_generator : (generator polynomial).Monic := monic_X_pow_add (degree_wordPolynomial polynomial)

theorem degree_generator : (generator polynomial).degree = w := by
  have below : (wordPolynomial polynomial).degree < (X ^ w : (ZMod 2)[X]).degree := by
    rw [degree_X_pow]
    exact degree_wordPolynomial polynomial
  rw [generator, degree_add_eq_left_of_degree_lt below, degree_X_pow]

/-- One bit that leaves is one step of the division. -/
theorem wordPolynomial_shift (register : BitVec w) :
    wordPolynomial (shift polynomial register) =
      X * wordPolynomial register + C (coefficient (register.getLsbD 0)) * generator polynomial := by
  rw [← wordPolynomial_ushiftRight, shift, generator]
  cases register.getLsbD 0 with
  | false => simp [coefficient]
  | true =>
    rw [if_pos rfl, wordPolynomial_xor, coefficient, if_pos rfl, C_1, one_mul, one_mul, add_assoc,
      ← add_assoc (X ^ w), CharTwo.add_self_eq_zero, zero_add]

/-- Up to a multiple of the generator, a bit that enters is added `w` powers above the lowest. -/
theorem dvd_wordPolynomial_feed (positive : 0 < w) (register : BitVec w) (bit : Bool) : generator polynomial ∣
    wordPolynomial (feed polynomial register bit) - (X * wordPolynomial register + C (coefficient bit) * X ^ w) := by
  rw [feed, wordPolynomial_shift, wordPolynomial_xor, mul_add, wordPolynomial_lowest positive, add_sub_cancel_left]
  exact dvd_mul_left _ _

theorem dvd_wordPolynomial_remainder (positive : 0 < w) (register : BitVec w) (bits : List Bool) :
    generator polynomial ∣ wordPolynomial (remainder polynomial register bits) -
      (X ^ bits.length * wordPolynomial register + X ^ w * messagePolynomial bits) := by
  induction bits generalizing register with
  | nil => simp [remainder, messagePolynomial]
  | cons bit rest ih =>
    have later := ih (feed polynomial register bit)
    have first := (dvd_wordPolynomial_feed polynomial positive register bit).mul_left (X ^ rest.length)
    change generator polynomial ∣ wordPolynomial (remainder polynomial (feed polynomial register bit) rest) - _
    have both := dvd_add later first
    rw [messagePolynomial, List.length_cons, pow_succ]
    convert both using 1
    ring

/-- The register is the remainder of the message, `w` powers up, on top of what was in the
register before. -/
theorem wordPolynomial_remainder (positive : 0 < w) (register : BitVec w) (bits : List Bool) :
    wordPolynomial (remainder polynomial register bits) =
      (X ^ bits.length * wordPolynomial register + X ^ w * messagePolynomial bits) %ₘ generator polynomial := by
  have small : (wordPolynomial (remainder polynomial register bits)).degree < (generator polynomial).degree := by
    rw [degree_generator]
    exact degree_wordPolynomial _
  rw [← modByMonic_eq_of_dvd_sub (monic_generator polynomial) (dvd_wordPolynomial_remainder polynomial positive register bits)]
  exact ((modByMonic_eq_self_iff (monic_generator polynomial)).mpr small).symm

end
end SelfDriving.CyclicCode
