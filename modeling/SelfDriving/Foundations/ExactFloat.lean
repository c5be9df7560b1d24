import SelfDriving.Foundations.Ieee754Order
import SelfDriving.Foundations.Floating

/-! Floating point with what is finite read as exact: a rational number, an infinity or
a NaN. The arithmetic of finite numbers is that of the rationals, that of the others is
IEEE 754's, so a NaN or an infinity spreads here as it does in the encodings. Code that
keeps them out computes as over the rationals. -/
namespace SelfDriving
open Ieee754

/-- A float without rounding. Zero has one sign only. -/
inductive ExactFloat where
  | finite (value : ℚ)
  | inf (neg : Bool)
  | nan
  deriving DecidableEq

namespace ExactFloat

def isFinite : ExactFloat → Bool
  | finite _ => true
  | _ => false

def neg : ExactFloat → ExactFloat
  | finite x => finite (-x)
  | inf sign => inf (!sign)
  | nan => nan

def add : ExactFloat → ExactFloat → ExactFloat
  | finite x, finite y => finite (x + y)
  | finite _, inf sign => inf sign
  | inf sign, finite _ => inf sign
  | inf sign, inf sign' => if sign = sign' then inf sign else nan
  | _, _ => nan

/-- The product of an infinity and a number. -/
def scale (sign : Bool) (x : ℚ) : ExactFloat := if x = 0 then nan else inf (xor sign (x < 0))

def mul : ExactFloat → ExactFloat → ExactFloat
  | finite x, finite y => finite (x * y)
  | finite x, inf sign => scale sign x
  | inf sign, finite x => scale sign x
  | inf sign, inf sign' => inf (xor sign sign')
  | _, _ => nan

def div : ExactFloat → ExactFloat → ExactFloat
  | finite x, finite y => if y = 0 then scale false x else finite (x / y)
  | finite _, inf _ => finite 0
  | inf sign, finite x => inf (xor sign (x < 0))
  | _, _ => nan

def lt : ExactFloat → ExactFloat → Bool
  | finite x, finite y => x < y
  | finite _, inf sign => !sign
  | inf sign, finite _ => sign
  | inf sign, inf sign' => sign && !sign'
  | _, _ => false

/-- Equality as C's `==`: a NaN is not equal to itself. -/
def beq : ExactFloat → ExactFloat → Bool
  | finite x, finite y => x = y
  | inf sign, inf sign' => sign = sign'
  | _, _ => false

/-- The number a float encodes. -/
def ofIeee {f : Format} (x : Ieee f) : ExactFloat :=
  if x.isNaN then nan else if x.isInf then inf x.neg else finite x.toRat

/-- Conversions saturate, and a NaN becomes zero. -/
def toInt : ExactFloat → Int
  | finite x => max (-2 ^ 31) (min (if x < 0 then -⌊-x⌋ else ⌊x⌋) (2 ^ 31 - 1))
  | inf sign => if sign then -2 ^ 31 else 2 ^ 31 - 1
  | nan => 0

def toUInt32 : ExactFloat → UInt32
  | finite x => UInt32.ofNat (min ⌊x⌋₊ (2 ^ 32 - 1))
  | inf sign => if sign then 0 else UInt32.ofNat (2 ^ 32 - 1)
  | nan => 0

instance : Floating ExactFloat where
  add := add
  sub x y := add x (neg y)
  mul := mul
  div := div
  neg := neg
  lt x y := lt x y = true
  le x y := (lt x y || beq x y) = true
  beq := beq
  ofScientific mantissa sign exponent := finite (OfScientific.ofScientific mantissa sign exponent)
  decidableLT x y := inferInstanceAs (Decidable (lt x y = true))
  decidableLE x y := inferInstanceAs (Decidable ((lt x y || beq x y) = true))
  ofUInt32 n := finite n.toNat
  toUInt32 := toUInt32
  ofSingle := ofIeee

instance : FloatingMath ExactFloat where
  isFinite := isFinite
  toInt := toInt

/-! ### Finite numbers compute as rationals -/

section
variable (x y : ℚ)

@[simp] theorem finite_add : (finite x + finite y : ExactFloat) = finite (x + y) := rfl

@[simp] theorem finite_sub : (finite x - finite y : ExactFloat) = finite (x - y) := by
  rw [sub_eq_add_neg]
  rfl

@[simp] theorem finite_mul : (finite x * finite y : ExactFloat) = finite (x * y) := rfl

@[simp] theorem finite_neg : -finite x = finite (-x) := rfl

theorem finite_div {y : ℚ} (nonzero : y ≠ 0) : (finite x / finite y : ExactFloat) = finite (x / y) := if_neg nonzero

@[simp] theorem finite_lt_finite : (finite x < finite y) ↔ x < y := by
  change (decide (x < y) = true) ↔ _
  rw [decide_eq_true_eq]

@[simp] theorem finite_le_finite : (finite x ≤ finite y) ↔ x ≤ y := by
  change ((decide (x < y) || decide (x = y)) = true) ↔ _
  rw [Bool.or_eq_true, decide_eq_true_eq, decide_eq_true_eq, le_iff_lt_or_eq]

@[simp] theorem isFinite_finite : FloatingMath.isFinite (finite x) = true := rfl

end

/-- A product with what is not finite is not finite either. -/
theorem isFinite_mul_left {a : ExactFloat} (infinite : FloatingMath.isFinite a = false) (b : ExactFloat) :
    FloatingMath.isFinite (a * b) = false := by
  cases a with
  | finite x => cases infinite
  | nan => rfl
  | inf sign =>
    cases b with
    | finite x =>
      change isFinite (scale sign x) = false
      unfold scale
      split <;> rfl
    | inf sign' => rfl
    | nan => rfl

theorem isFinite_ofIeee {f : Format} (x : Ieee f) : FloatingMath.isFinite (ofIeee x) = x.isFinite := by
  unfold ofIeee
  rcases Bool.eq_false_or_eq_true x.isNaN with nan | number
  · rw [if_pos nan, Ieee.not_isFinite_of_isNaN nan]
    rfl
  rw [if_neg (by simp [number])]
  rcases Ieee.isInf_or_isFinite number with inf | finite
  · rw [if_pos inf, Ieee.not_isFinite_of_isInf inf]
    rfl
  · rw [if_neg (by simp [Ieee.not_isInf_of_isFinite finite]), finite]
    rfl

theorem ofIeee_of_isFinite {f : Format} {x : Ieee f} (finite : x.isFinite = true) :
    ofIeee x = .finite x.toRat := by
  rw [ofIeee, if_neg (by simp [Ieee.isNaN_of_isFinite finite]), if_neg (by simp [Ieee.not_isInf_of_isFinite finite])]

end ExactFloat
end SelfDriving
