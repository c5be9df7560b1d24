import SelfDriving.Foundations.Ieee754

/-! Floating-point numbers of a format: the sign and magnitude of an encoding,
the rational it stands for, comparison and arithmetic. Comparisons are false on
NaN and see no difference between the two zeros. An operation on finite numbers
is `ofRat` of the exact result, so its error is that of one rounding. -/
namespace SelfDriving.Ieee754

/-- An encoding of a format, bit for bit: NaN payloads are kept. -/
structure Ieee (f : Format) where
  /-- The sign bit. -/
  neg : Bool
  /-- Exponent and fraction fields as one number. -/
  mag : Nat
  /-- The fields fit their widths. -/
  mag_lt : mag < f.magnitudes
  deriving DecidableEq

/-- C `float32`, MATLAB `single`. -/
abbrev F32 := Ieee binary32

/-- Python `float`, MATLAB `double`. -/
abbrev F64 := Ieee binary64

namespace Ieee
variable {f : Format}

def isNaN (x : Ieee f) : Bool := f.infMag < x.mag
def isInf (x : Ieee f) : Bool := x.mag = f.infMag
def isFinite (x : Ieee f) : Bool := x.mag < f.infMag

/-- The number whose encoding is `bits`. -/
def ofBits (bits : Nat) : Ieee f :=
  ⟨bits / f.magnitudes % 2 = 1, bits % f.magnitudes, Nat.mod_lt _ (Nat.two_pow_pos _)⟩

/-- The encoding of a number. -/
def toBits (x : Ieee f) : Nat := x.neg.toNat * f.magnitudes + x.mag

/-- A magnitude, with everything past the finite ones an infinity. -/
def ofMag (neg : Bool) (mag : Nat) : Ieee f :=
  ⟨neg, min mag f.infMag, (min_le_right _ _).trans_lt f.infMag_lt⟩

theorem quietNaN_lt (f : Format) (payload : Nat) :
    f.infMag + (2 ^ (f.fracBits - 1) + payload % 2 ^ (f.fracBits - 1)) < f.magnitudes := by
  have low := Nat.mod_lt payload (Nat.two_pow_pos (f.fracBits - 1))
  have ones : 2 ^ f.expBits - 1 + 1 = 2 ^ f.expBits := Nat.sub_add_cancel (Nat.two_pow_pos _)
  rw [Format.magnitudes, pow_add, ← ones, Nat.succ_mul]
  have half : 2 ^ f.fracBits = 2 * 2 ^ (f.fracBits - 1) := by
    rw [← pow_succ', Nat.sub_add_cancel f.frac_pos]
  exact Nat.add_lt_add_left (by omega) _

/-- A quiet NaN: the top fraction bit is set, the others carry a payload. -/
def ofPayload (neg : Bool) (payload : Nat) : Ieee f :=
  ⟨neg, f.infMag + (2 ^ (f.fracBits - 1) + payload % 2 ^ (f.fracBits - 1)), quietNaN_lt f payload⟩

/-- The default NaN an operation returns. -/
def nan : Ieee f := ofPayload false 0

/-- The absolute value an encoding stands for. -/
def absVal (x : Ieee f) : ℚ := f.units x.mag / 2 ^ f.unitExp

/-- The value an encoding stands for, an infinity being the first past the finite. -/
def toRat (x : Ieee f) : ℚ := if x.neg then -x.absVal else x.absVal

/-- The float nearest to `q ≥ 0`, with the given sign. -/
def ofRat (neg : Bool) (q : ℚ) : Ieee f := ofMag neg (roundMag f (q * 2 ^ f.unitExp))

/-- The float nearest to `q`; an exact zero takes the given sign. -/
def round (zeroSign : Bool) (q : ℚ) : Ieee f :=
  ofRat (if q = 0 then zeroSign else q < 0) |q|

/-! ### Operations -/

def add (a b : Ieee f) : Ieee f :=
  if a.isNaN || b.isNaN then nan
  else if a.isInf then if b.isInf && a.neg != b.neg then nan else a
  else if b.isInf then b
  else round (a.neg && b.neg) (a.toRat + b.toRat)

def negate (a : Ieee f) : Ieee f := { a with neg := !a.neg }

def mul (a b : Ieee f) : Ieee f :=
  if a.isNaN || b.isNaN then nan
  else if a.isInf || b.isInf then
    if a.mag = 0 ∨ b.mag = 0 then nan else ofMag (a.neg ^^ b.neg) f.infMag
  else ofRat (a.neg ^^ b.neg) (a.absVal * b.absVal)

def div (a b : Ieee f) : Ieee f :=
  if a.isNaN || b.isNaN then nan
  else if a.isInf then if b.isInf then nan else ofMag (a.neg ^^ b.neg) f.infMag
  else if b.isInf then ofMag (a.neg ^^ b.neg) 0
  else if b.mag = 0 then if a.mag = 0 then nan else ofMag (a.neg ^^ b.neg) f.infMag
  else ofRat (a.neg ^^ b.neg) (a.absVal / b.absVal)

instance : Add (Ieee f) := ⟨add⟩
instance : Neg (Ieee f) := ⟨negate⟩
instance : Sub (Ieee f) := ⟨fun a b => a + -b⟩
instance : Mul (Ieee f) := ⟨mul⟩
instance : Div (Ieee f) := ⟨div⟩

/-- A decimal literal is the float nearest to it. -/
instance : OfScientific (Ieee f) :=
  ⟨fun mantissa negExponent exponent =>
    ofRat false (OfScientific.ofScientific mantissa negExponent exponent : ℚ)⟩

instance : LT (Ieee f) := ⟨fun a b => a.isNaN = false ∧ b.isNaN = false ∧ a.toRat < b.toRat⟩
instance : LE (Ieee f) := ⟨fun a b => a.isNaN = false ∧ b.isNaN = false ∧ a.toRat ≤ b.toRat⟩

instance : DecidableLT (Ieee f) := fun a b =>
  inferInstanceAs (Decidable (a.isNaN = false ∧ b.isNaN = false ∧ a.toRat < b.toRat))

instance : DecidableLE (Ieee f) := fun a b =>
  inferInstanceAs (Decidable (a.isNaN = false ∧ b.isNaN = false ∧ a.toRat ≤ b.toRat))

/-- The language's `==`: no NaN equals anything, and the zeros are equal. -/
instance : BEq (Ieee f) := ⟨fun a b => !a.isNaN && !b.isNaN && a.toRat = b.toRat⟩

/-- Conversion to an integer, toward zero. -/
def trunc (x : Ieee f) : Int := if x.neg then -⌊x.absVal⌋₊ else ⌊x.absVal⌋₊

/-- Conversion from an integer. -/
def ofInt (n : Int) : Ieee f := round false n

/-- Conversion between formats: rounded, except that a NaN keeps the leading
bits of its payload and becomes quiet. -/
def convert (g : Format) (x : Ieee f) : Ieee g :=
  if x.isNaN then ofPayload x.neg ((x.mag - f.infMag) * 2 ^ g.fracBits / 2 ^ f.fracBits)
  else if x.isInf then ofMag x.neg g.infMag
  else ofRat x.neg x.absVal

/-! ### Encodings and values -/

@[simp] theorem ofBits_toBits (x : Ieee f) : ofBits x.toBits = x := by
  cases x with
  | mk neg mag mag_lt =>
    have field : f.magnitudes ≠ 0 := (Nat.zero_lt_of_lt mag_lt).ne'
    have quotient : (neg.toNat * f.magnitudes + mag) / f.magnitudes = neg.toNat := by
      rw [Nat.add_comm, Nat.add_mul_div_right _ _ (Nat.pos_of_ne_zero field), Nat.div_eq_of_lt mag_lt,
        Nat.zero_add]
    have remainder : (neg.toNat * f.magnitudes + mag) % f.magnitudes = mag := by
      rw [Nat.add_comm, Nat.add_mul_mod_self_right, Nat.mod_eq_of_lt mag_lt]
    simp only [ofBits, toBits, quotient, remainder]
    cases neg <;> simp

/-- A sign and a magnitude fill the word. -/
theorem toBits_lt (x : Ieee f) : x.toBits < 2 * f.magnitudes := by
  have sign := x.neg.toNat_le
  have magnitude := x.mag_lt
  calc x.toBits ≤ 1 * f.magnitudes + x.mag := Nat.add_le_add_right (Nat.mul_le_mul_right _ sign) _
    _ < 2 * f.magnitudes := by omega

theorem absVal_nonneg (x : Ieee f) : 0 ≤ x.absVal := by
  unfold absVal
  positivity

@[simp] theorem isNaN_ofMag (neg : Bool) (mag : Nat) : (ofMag neg mag : Ieee f).isNaN = false := by
  simp [isNaN, ofMag]

@[simp] theorem isNaN_ofRat (neg : Bool) (q : ℚ) : (ofRat neg q : Ieee f).isNaN = false :=
  isNaN_ofMag _ _

@[simp] theorem isNaN_round (zeroSign : Bool) (q : ℚ) : (round zeroSign q : Ieee f).isNaN = false :=
  isNaN_ofMag _ _

@[simp] theorem isNaN_nan : (nan : Ieee f).isNaN = true := by
  have := Nat.two_pow_pos (f.fracBits - 1)
  simp [isNaN, nan, ofPayload]

@[simp] theorem isNaN_neg (x : Ieee f) : (-x).isNaN = x.isNaN := rfl

@[simp] theorem isFinite_neg (x : Ieee f) : (-x).isFinite = x.isFinite := rfl

@[simp] theorem absVal_neg (x : Ieee f) : (-x).absVal = x.absVal := rfl

@[simp] theorem toRat_neg (x : Ieee f) : (-x).toRat = -x.toRat := by
  change (if !x.neg then -x.absVal else x.absVal) = _
  cases sign : x.neg <;> simp [toRat, sign]

theorem isNaN_of_isFinite {x : Ieee f} (finite : x.isFinite = true) : x.isNaN = false := by
  simp only [isFinite, isNaN, decide_eq_true_eq, decide_eq_false_iff_not] at *
  omega

theorem abs_toRat (x : Ieee f) : |x.toRat| = x.absVal := by
  unfold toRat
  split
  · rw [abs_neg, abs_of_nonneg x.absVal_nonneg]
  · exact abs_of_nonneg x.absVal_nonneg

/-- Values are ordered as magnitudes are. -/
theorem absVal_le_iff {x : Ieee f} {y : Ieee f} : x.absVal ≤ y.absVal ↔ x.mag ≤ y.mag := by
  unfold absVal
  rw [div_le_div_iff_of_pos_right (by positivity), Nat.cast_le]
  exact (units_strictMono f).le_iff_le

theorem absVal_eq_zero {x : Ieee f} : x.absVal = 0 ↔ x.mag = 0 := by
  unfold absVal
  rw [div_eq_zero_iff, Nat.cast_eq_zero]
  have scale : (2 : ℚ) ^ f.unitExp ≠ 0 := by positivity
  simp only [scale, or_false]
  conv_lhs => rw [← units_zero f]
  exact (units_strictMono f).injective.eq_iff

/-! ### Rounding to a float -/

/-- A float is its own rounding. -/
theorem ofRat_absVal {x : Ieee f} (number : x.isNaN = false) : ofRat x.neg x.absVal = x := by
  have exact : x.absVal * 2 ^ f.unitExp = (f.units x.mag : ℚ) := by
    unfold absVal
    field_simp
  have le : x.mag ≤ f.infMag := by simpa [isNaN] using number
  cases x with
  | mk neg mag mag_lt =>
    simp only [ofRat, ofMag, exact, roundMag_units, Ieee.mk.injEq, true_and]
    exact min_eq_left le

theorem absVal_ofRat_mono {p q : ℚ} (nonneg : 0 ≤ p) (le : p ≤ q) (left right : Bool) :
    (ofRat left p : Ieee f).absVal ≤ (ofRat right q : Ieee f).absVal := by
  rw [absVal_le_iff]
  have rounded : roundMag f (p * 2 ^ f.unitExp) ≤ roundMag f (q * 2 ^ f.unitExp) :=
    roundMag_mono f (by positivity) (by gcongr)
  exact min_le_min_right _ rounded

theorem toRat_ofRat (neg : Bool) (q : ℚ) :
    (ofRat neg q : Ieee f).toRat = if neg then -(ofRat false q : Ieee f).absVal
      else (ofRat false q : Ieee f).absVal := rfl

@[simp] theorem absVal_ofRat_zero (neg : Bool) : (ofRat neg 0 : Ieee f).absVal = 0 := by
  rw [absVal_eq_zero]
  have zero : roundMag f ((f.units 0 : Nat) : ℚ) = 0 := roundMag_units f 0
  rw [units_zero, Nat.cast_zero] at zero
  simp [ofRat, ofMag, zero]

/-- Rounding respects order. -/
theorem toRat_round_mono {p q : ℚ} (le : p ≤ q) (left right : Bool) :
    (round left p : Ieee f).toRat ≤ (round right q : Ieee f).toRat := by
  have value (s : Bool) (r : ℚ) : (round s r : Ieee f).toRat =
      if r < 0 then -(ofRat false |r| : Ieee f).absVal else (ofRat false |r| : Ieee f).absVal := by
    unfold round
    rw [toRat_ofRat]
    rcases lt_trichotomy r 0 with below | rfl | above
    · simp [below, below.ne]
    · simp
    · simp [above.ne', not_lt.mpr above.le]
  rw [value, value]
  split <;> split
  · rename_i below below'
    have := absVal_ofRat_mono (f := f) (abs_nonneg q)
      (by rw [abs_of_neg below, abs_of_neg below']; linarith : |q| ≤ |p|) false false
    linarith
  · have lower := (ofRat false |p| : Ieee f).absVal_nonneg
    have upper := (ofRat false |q| : Ieee f).absVal_nonneg
    linarith
  · exfalso
    linarith
  · rename_i above above'
    exact absVal_ofRat_mono (abs_nonneg p) (by
      rw [abs_of_nonneg (not_lt.mp above), abs_of_nonneg (not_lt.mp above')]
      exact le) false false

/-! ### Comparison -/

protected theorem le_iff {a b : Ieee f} : a ≤ b ↔ a.isNaN = false ∧ b.isNaN = false ∧ a.toRat ≤ b.toRat := Iff.rfl

theorem beq_iff {a b : Ieee f} : (a == b) = true ↔
    a.isNaN = false ∧ b.isNaN = false ∧ a.toRat = b.toRat := by
  change (!a.isNaN && !b.isNaN && decide (a.toRat = b.toRat)) = true ↔ _
  simp [and_assoc]

protected theorem lt_of_lt_of_le {a b c : Ieee f} (ab : a < b) (bc : b ≤ c) : a < c :=
  ⟨ab.1, bc.2.1, ab.2.2.trans_le bc.2.2⟩

protected theorem le_trans {a b c : Ieee f} (ab : a ≤ b) (bc : b ≤ c) : a ≤ c :=
  ⟨ab.1, bc.2.1, ab.2.2.trans bc.2.2⟩

protected theorem le_of_lt {a b : Ieee f} (ab : a < b) : a ≤ b := ⟨ab.1, ab.2.1, ab.2.2.le⟩

protected theorem lt_irrefl (a : Ieee f) : ¬ a < a := fun less => less.2.2.ne rfl

protected theorem not_lt_of_le {a b : Ieee f} (ab : a ≤ b) : ¬ b < a := fun ba => not_lt.mpr ab.2.2 ba.2.2

/-- Away from NaN the order is total. -/
protected theorem le_of_not_lt {a b : Ieee f} (na : a.isNaN = false) (nb : b.isNaN = false) (no : ¬ a < b) :
    b ≤ a :=
  ⟨nb, na, not_lt.mp fun less => no ⟨na, nb, less⟩⟩

protected theorem le_refl {a : Ieee f} (number : a.isNaN = false) : a ≤ a := ⟨number, number, le_rfl⟩

@[simp] theorem isNaN_literal (mantissa : Nat) (negative : Bool) (exponent : Nat) :
    (OfScientific.ofScientific mantissa negative exponent : Ieee f).isNaN = false := isNaN_ofRat _ _

@[simp] theorem toRat_zero_literal : (0.0 : Ieee f).toRat = 0 := by
  change (ofRat false (0.0 : ℚ) : Ieee f).absVal = 0
  rw [show (0.0 : ℚ) = 0 by norm_num, absVal_ofRat_zero]

/-! ### Operations on finite values -/

/-- The value past the last finite one, where an infinity stands. -/
def limit (f : Format) : ℚ := f.units f.infMag / 2 ^ f.unitExp

theorem isFinite_iff {x : Ieee f} : x.isFinite = true ↔ x.absVal < limit f := by
  unfold absVal limit isFinite
  rw [div_lt_div_iff_of_pos_right (by positivity), Nat.cast_lt, decide_eq_true_eq]
  exact (units_strictMono f).lt_iff_lt.symm

/-- Rounding a normal value moves it by half a unit in the last place at most. -/
theorem absVal_ofRat_relative {q : ℚ} (normal : 2 ^ f.fracBits ≤ q * 2 ^ f.unitExp) (bound : q ≤ limit f)
    (neg : Bool) : |(ofRat neg q : Ieee f).absVal - q| ≤ q / 2 ^ (f.fracBits + 1) := by
  have scale : (0 : ℚ) < 2 ^ f.unitExp := by positivity
  have scaled : q * 2 ^ f.unitExp ≤ f.units f.infMag := by
    rwa [limit, le_div_iff₀ scale] at bound
  have small : roundMag f (q * 2 ^ f.unitExp) ≤ f.infMag := by
    have rounded := roundMag_mono f (le_trans (by positivity) normal) scaled
    rwa [roundMag_units] at rounded
  have error := units_roundMag_relative f normal
  simp only [absVal, ofRat, ofMag, min_eq_left small]
  rw [show (f.units (roundMag f (q * 2 ^ f.unitExp)) : ℚ) / 2 ^ f.unitExp - q =
    (f.units (roundMag f (q * 2 ^ f.unitExp)) - q * 2 ^ f.unitExp) / 2 ^ f.unitExp by field_simp,
    abs_div, abs_of_pos scale, div_le_iff₀ scale]
  exact error.trans_eq (by ring)

theorem not_isInf_of_isFinite {x : Ieee f} (finite : x.isFinite = true) : x.isInf = false := by
  simp only [isFinite, isInf, decide_eq_true_eq, decide_eq_false_iff_not] at *
  omega

theorem mul_of_isFinite {a b : Ieee f} (finite : a.isFinite = true) (finite' : b.isFinite = true) :
    a * b = ofRat (a.neg ^^ b.neg) (a.absVal * b.absVal) := by
  change mul a b = _
  simp [mul, isNaN_of_isFinite finite, isNaN_of_isFinite finite', not_isInf_of_isFinite finite,
    not_isInf_of_isFinite finite']

theorem div_of_isFinite {a b : Ieee f} (finite : a.isFinite = true) (finite' : b.isFinite = true)
    (nonzero : b.mag ≠ 0) : a / b = ofRat (a.neg ^^ b.neg) (a.absVal / b.absVal) := by
  change div a b = _
  simp [div, isNaN_of_isFinite finite, isNaN_of_isFinite finite', not_isInf_of_isFinite finite,
    not_isInf_of_isFinite finite', nonzero]

end Ieee
end SelfDriving.Ieee754
