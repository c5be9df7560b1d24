import SelfDriving.Foundations.Ieee754Arithmetic

/-! What embedded C asks of a floating-point type: arithmetic, comparison,
literals and the conversions from and to 32-bit words. Code written over this
class runs on encodings and on any other reading of `float` alike. -/
namespace SelfDriving
open Ieee754

/-- A type that can stand for C's `float` or `double`. -/
class Floating (α : Type*) extends Add α, Sub α, Mul α, Div α, Neg α, LT α, LE α, BEq α,
    OfScientific α where
  /-- Comparison decides. -/
  decidableLT : DecidableLT α
  /-- Comparison decides. -/
  decidableLE : DecidableLE α
  /-- The conversion `(float)n`. -/
  ofUInt32 : UInt32 → α
  /-- The conversion `(uint32)x`. -/
  toUInt32 : α → UInt32
  /-- The value four bytes of memory stand for. -/
  ofSingle : F32 → α

attribute [reducible, instance] Floating.decidableLT Floating.decidableLE

/-- Conversion to a word saturates, as the hardware's does: C promises a result
only for values that fit. -/
def Ieee754.Ieee.toUInt32 {f : Format} (x : Ieee f) : UInt32 :=
  UInt32.ofNat (if x.isNaN ∨ x.neg then 0 else min ⌊x.absVal⌋₊ (2 ^ 32 - 1))

def Ieee754.Ieee.ofUInt32 {f : Format} (n : UInt32) : Ieee f := .ofRat false n.toNat

instance : Floating F32 where
  decidableLT := inferInstance
  decidableLE := inferInstance
  ofUInt32 := Ieee.ofUInt32
  toUInt32 := Ieee.toUInt32
  ofSingle := id

instance : Floating F64 where
  decidableLT := inferInstance
  decidableLE := inferInstance
  ofUInt32 := Ieee.ofUInt32
  toUInt32 := Ieee.toUInt32
  ofSingle := Ieee.convert binary64

/-- The reading of floats as exact numbers. What is no finite float lies past all of them. -/
instance : Floating ℚ where
  decidableLT := inferInstance
  decidableLE := inferInstance
  ofUInt32 n := n.toNat
  toUInt32 x := UInt32.ofNat (min ⌊x⌋₊ (2 ^ 32 - 1))
  ofSingle := Ieee.toRat

/-- What a control loop asks of it besides: to know what is no finite number, and to drop
the fraction. -/
class FloatingMath (α : Type*) extends Floating α where
  /-- `isfinite(x)`. -/
  isFinite : α → Bool
  /-- The conversion `(int)x`. -/
  toInt : α → Int

instance : FloatingMath F32 where
  isFinite := Ieee.isFinite
  toInt x := if x.isNaN then 0 else max (-2 ^ 31) (min x.trunc (2 ^ 31 - 1))

/-- As exact numbers, what lies past all finite floats is not finite. -/
instance : FloatingMath ℚ where
  isFinite x := -Ieee.limit binary32 < x && x < Ieee.limit binary32
  toInt x := if x < 0 then -⌊-x⌋ else ⌊x⌋

namespace Ieee754.Ieee
variable {f : Format}

theorem toUInt32_toNat {x : Ieee f} (number : x.isNaN = false) (positive : x.neg = false)
    (fits : x.absVal < 2 ^ 32) : x.toUInt32.toNat = ⌊x.absVal⌋₊ := by
  have floor : ⌊x.absVal⌋₊ < 2 ^ 32 := (Nat.floor_lt x.absVal_nonneg).mpr (by exact_mod_cast fits)
  simp only [toUInt32, number, positive, Bool.false_eq_true, or_self, if_false]
  rw [UInt32.toNat_ofNat', min_eq_left (by omega), Nat.mod_eq_of_lt floor]

end Ieee754.Ieee
end SelfDriving
