import SelfDriving.Foundations.Bytes
import SelfDriving.Foundations.Ieee754Arithmetic

/-! The parts of Python that the host programs rest on: `max` and `min`, which
keep the first argument unless the second is strictly beyond it, conversions
between numbers, and the exceptions they raise. -/
namespace SelfDriving.Python
open Ieee754 Bytes

/-- An exception, by its class. -/
inductive PyError where
  | valueError (text : String)
  | overflowError (text : String)
  | attributeError (text : String)
  | typeError (text : String)
  | osError
  deriving DecidableEq

section
variable {α : Type*} [LT α] [DecidableLT α]

def max (first second : α) : α := if first < second then second else first

def min (first second : α) : α := if second < first then second else first

end

/-- On a linear order nothing is lost by keeping the first argument. -/
theorem max_eq_max {α : Type*} [LinearOrder α] [DecidableLT α] (first second : α) :
    max first second = Max.max first second := by
  unfold max
  split
  · rename_i less
    rw [max_eq_right less.le]
  · rename_i no
    rw [max_eq_left (not_lt.mp no)]

theorem min_eq_min {α : Type*} [LinearOrder α] [DecidableLT α] (first second : α) :
    min first second = Min.min first second := by
  unfold min
  split
  · rename_i less
    rw [min_eq_right less.le]
  · rename_i no
    rw [min_eq_left (not_lt.mp no)]

/-- `int(x)` of a float. -/
def int (x : F64) : Except PyError Int :=
  if x.isNaN then .error (.valueError "cannot convert float NaN to integer")
  else if x.isInf then .error (.overflowError "cannot convert float infinity to integer")
  else .ok x.trunc

/-- A float as the four bytes of `struct`'s format `f`. -/
def packSingle (x : F64) : Except PyError F32 :=
  if x.isFinite && (x.convert binary32).isInf then
    .error (.overflowError "float too large to pack with f format")
  else .ok (x.convert binary32)

/-- A float from the four bytes of `struct`'s format `f`. -/
def unpackSingle (x : F32) : F64 := x.convert binary64

/-- The single-precision number at an offset of a byte string. -/
def singleAt (data : List UInt8) (offset : Nat) : F64 := unpackSingle (Ieee.ofBits (leField data offset 4))

/-- The four bytes of a single-precision number. -/
def singleBytes (x : F32) : List UInt8 := leBytes 4 x.toBits

/-- `repr` of one byte of a byte string between the given quotes. -/
def reprByte (quote byte : UInt8) : String :=
  let hex := fun digit : UInt8 => String.singleton (Nat.digitChar digit.toNat)
  if byte = 0x5C || byte = quote then "\\" ++ String.singleton (Char.ofNat byte.toNat)
  else if byte = 0x09 then "\\t"
  else if byte = 0x0A then "\\n"
  else if byte = 0x0D then "\\r"
  else if byte < 0x20 || byte ≥ 0x7F then "\\x" ++ hex (byte / 16) ++ hex (byte % 16)
  else String.singleton (Char.ofNat byte.toNat)

/-- `repr` of a byte string. -/
def reprBytes (bytes : List UInt8) : String :=
  let quote : UInt8 := if bytes.contains 0x27 && !bytes.contains 0x22 then 0x22 else 0x27
  let mark := String.singleton (Char.ofNat quote.toNat)
  "b" ++ mark ++ String.join (bytes.map (reprByte quote)) ++ mark

/-- A number with a fixed count of decimals. -/
def formatFixed (decimals : Nat) (x : F64) : String :=
  if x.isNaN then "nan"
  else
    let sign := if x.neg then "-" else ""
    if x.isInf then sign ++ "inf"
    else
      let scaled := nearestEven (x.absVal * 10 ^ decimals)
      let fraction := toString (scaled % 10 ^ decimals)
      sign ++ toString (scaled / 10 ^ decimals) ++ "." ++
        String.ofList (List.replicate (decimals - fraction.length) '0') ++ fraction

example : formatFixed 3 0.1805 = "0.180" := by decide +kernel

/-- The four bytes of a number give it back. -/
theorem ofBits_singleBytes (x : F32) : (Ieee.ofBits (leNat (singleBytes x)) : F32) = x := by
  have fits : x.toBits < 256 ^ 4 := x.toBits_lt.trans_le (by decide)
  rw [singleBytes, leNat_leBytes fits, Ieee.ofBits_toBits]

theorem packSingle_eq_ok {x : F64} {single : F32} (packed : packSingle x = .ok single) :
    single = x.convert binary32 := by
  unfold packSingle at packed
  split at packed
  · cases packed
  · cases packed
    rfl

/-- A float has an integer, or it is NaN, or an infinity. -/
theorem int_cases (x : F64) :
    (x.isFinite = true ∧ int x = .ok x.trunc) ∨
    (x.isNaN = true ∧ int x = .error (.valueError "cannot convert float NaN to integer")) ∨
    (x.isInf = true ∧ int x = .error (.overflowError "cannot convert float infinity to integer")) := by
  unfold int
  by_cases nan : x.isNaN = true
  · exact .inr (.inl ⟨nan, if_pos nan⟩)
  rw [if_neg nan]
  by_cases inf : x.isInf = true
  · exact .inr (.inr ⟨inf, if_pos inf⟩)
  · refine .inl ⟨?_, if_neg inf⟩
    simp only [Ieee.isNaN, Ieee.isInf, Ieee.isFinite, decide_eq_true_eq] at *
    omega

/-- What follows a guard is reached when the guard lets it through. -/
theorem raise_if_eq_ok {α : Type*} {guard : Prop} [Decidable guard] {error : PyError} {rest : Except PyError α}
    {value : α} : (if guard then .error error else rest) = .ok value ↔ ¬ guard ∧ rest = .ok value := by
  by_cases raised : guard
  · simp [raised]
  · simp [raised]

section
variable {f : Format}

theorem isNaN_max {first second : Ieee f} (number : first.isNaN = false) :
    (max first second).isNaN = false := by
  unfold max
  split
  · rename_i less
    exact less.2.1
  · exact number

theorem le_max_left {first second : Ieee f} (number : first.isNaN = false) : first ≤ max first second := by
  unfold max
  split
  · rename_i less
    exact Ieee.le_of_lt less
  · exact Ieee.le_refl number

theorem le_max_right {first second : Ieee f} (number : first.isNaN = false) (number' : second.isNaN = false) :
    second ≤ max first second := by
  unfold max
  split
  · exact Ieee.le_refl number'
  · rename_i no
    exact Ieee.le_of_not_lt number number' no

theorem min_le_left {first second : Ieee f} (number : first.isNaN = false) : min first second ≤ first := by
  unfold min
  split
  · rename_i less
    exact Ieee.le_of_lt less
  · exact Ieee.le_refl number

theorem min_le_right {first second : Ieee f} (number : first.isNaN = false) (number' : second.isNaN = false) :
    min first second ≤ second := by
  unfold min
  split
  · exact Ieee.le_refl number'
  · rename_i no
    exact Ieee.le_of_not_lt number' number no

/-- What is below the larger of two values is below one of them. -/
theorem lt_max_iff {first second value : Ieee f} (number : first.isNaN = false) :
    value < max first second ↔ value < first ∨ value < second := by
  unfold max
  split
  · rename_i less
    exact ⟨.inr, fun either => either.elim (fun below => Ieee.lt_of_lt_of_le below (Ieee.le_of_lt less)) id⟩
  · rename_i no
    refine ⟨.inl, fun either => either.elim id fun below => ?_⟩
    exact Ieee.lt_of_lt_of_le below (Ieee.le_of_not_lt number below.2.1 no)

end

end SelfDriving.Python
