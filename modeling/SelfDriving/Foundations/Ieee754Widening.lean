import SelfDriving.Foundations.Ieee754Order

/-! Conversion to a wider format. Where the units of the target are finer and its
range is larger, a value is converted without rounding, and the special values
stay what they are. -/
namespace SelfDriving.Ieee754

/-- Every value of the first format is one of the second. -/
structure Widens (f g : Format) : Prop where
  fraction : f.fracBits ≤ g.fracBits
  unit : f.unitExp + g.fracBits ≤ g.unitExp
  range : Ieee.limit f ≤ Ieee.limit g

theorem widens_binary : Widens binary32 binary64 := ⟨by decide, by decide, by decide +kernel⟩

/-- A significand scaled by a large enough power of two is a value in units. -/
theorem exists_units (f : Format) {n k : Nat} (small : n < 2 ^ (f.fracBits + 1)) (room : f.fracBits ≤ k) :
    ∃ mag, f.units mag = n * 2 ^ k := by
  rcases Nat.eq_zero_or_pos n with zero | positive
  · exact ⟨0, by rw [zero, Nat.zero_mul, units_zero]⟩
  have bits : Nat.log2 n ≤ f.fracBits :=
    Nat.le_of_lt_succ ((Nat.log2_lt positive.ne').mpr small)
  obtain ⟨shift, shifted⟩ := Nat.exists_eq_add_of_le bits
  obtain ⟨e, exponent⟩ := Nat.exists_eq_add_of_le (by omega : shift ≤ k)
  -- Shifted until its top bit is the hidden one.
  have lower : 2 ^ f.fracBits ≤ n * 2 ^ shift := by
    rw [shifted, pow_add]
    exact Nat.mul_le_mul_right _ (Nat.log2_self_le positive.ne')
  have upper : n * 2 ^ shift ≤ 2 ^ (f.fracBits + 1) := by
    rw [shifted, Nat.add_right_comm, pow_add]
    exact Nat.mul_le_mul_right _ Nat.lt_log2_self.le
  refine ⟨e * 2 ^ f.fracBits + n * 2 ^ shift, ?_⟩
  rw [units_significand f upper (.inr lower), exponent, pow_add, Nat.mul_assoc]

namespace Ieee
variable {f g : Format}

@[simp] theorem neg_convert (x : Ieee f) : (x.convert g).neg = x.neg := by
  unfold convert
  split_ifs <;> rfl

@[simp] theorem isNaN_convert (x : Ieee f) : (x.convert g).isNaN = x.isNaN := by
  unfold convert
  split
  · rename_i nan
    rw [nan, isNaN, decide_eq_true_eq, ofPayload]
    have half := Nat.two_pow_pos (g.fracBits - 1)
    dsimp only
    omega
  · rename_i number
    rw [Bool.not_eq_true] at number
    split_ifs <;> simp [number]

/-- A finite value is the same value in the wider format. -/
theorem convert_of_isFinite (wide : Widens f g) {x : Ieee f} (finite : x.isFinite = true) :
    (x.convert g).isFinite = true ∧ (x.convert g).absVal = x.absVal := by
  obtain ⟨e, r, mag, small, full⟩ := exists_significand f x.mag
  have units : f.units x.mag = r * 2 ^ e := by rw [mag, units_significand f small.le full]
  obtain ⟨rest, units_g⟩ := Nat.exists_eq_add_of_le (le_trans (Nat.le_add_right _ _) wide.unit)
  have room : g.fracBits ≤ e + rest := by
    have finer := wide.unit
    omega
  have narrow : r < 2 ^ (g.fracBits + 1) :=
    small.trans_le (Nat.pow_le_pow_right (by decide) (Nat.succ_le_succ wide.fraction))
  obtain ⟨mag', units'⟩ := exists_units g narrow room
  have scaled : x.absVal * 2 ^ g.unitExp = (g.units mag' : ℚ) := by
    rw [absVal, units, units', units_g, pow_add, pow_add]
    push_cast
    field_simp
  have value : (g.units mag' : ℚ) / 2 ^ g.unitExp = x.absVal := by
    rw [← scaled]
    field_simp
  have below : mag' < g.infMag := by
    have bound := (isFinite_iff.mp finite).trans_le wide.range
    rw [← value, limit, div_lt_div_iff_of_pos_right (by positivity), Nat.cast_lt] at bound
    exact (units_strictMono g).lt_iff_lt.mp bound
  have converted : (x.convert g).mag = mag' := by
    rw [convert, if_neg (by rw [isNaN_of_isFinite finite]; decide),
      if_neg (by rw [not_isInf_of_isFinite finite]; decide), ofRat, scaled, roundMag_units]
    exact min_eq_left below.le
  constructor
  · rwa [isFinite, converted, decide_eq_true_eq]
  · rw [absVal, converted, value]

/-- An infinity stays one. -/
theorem isInf_convert (wide : Widens f g) (x : Ieee f) : (x.convert g).isInf = x.isInf := by
  by_cases number : x.isNaN = false
  · rcases isInf_or_isFinite number with inf | finite
    · rw [inf, convert, if_neg (by rw [number]; decide), if_pos inf, isInf, decide_eq_true_eq]
      exact min_self _
    · rw [not_isInf_of_isFinite finite, not_isInf_of_isFinite (convert_of_isFinite wide finite).1]
  · have nan := (Bool.not_eq_false _).mp number
    have other {h : Format} {y : Ieee h} (nan : y.isNaN = true) : y.isInf = false := by
      simp only [isNaN, isInf, decide_eq_true_eq, decide_eq_false_iff_not] at *
      omega
    rw [other nan, other ((isNaN_convert x).trans nan)]

theorem isFinite_convert (wide : Widens f g) (x : Ieee f) : (x.convert g).isFinite = x.isFinite := by
  cases finite : x.isFinite with
  | true => exact (convert_of_isFinite wide finite).1
  | false =>
    have nan := isNaN_convert (g := g) x
    have inf := isInf_convert wide x
    simp only [isNaN, isInf, isFinite, decide_eq_decide, decide_eq_false_iff_not] at *
    omega

/-- A finite value within a bound of the target format is converted to one within it. -/
theorem absVal_convert_le {x : Ieee f} {bound : Ieee g} (finite : x.isFinite = true) (number : bound.isNaN = false)
    (within : x.absVal ≤ bound.absVal) : (x.convert g).absVal ≤ bound.absVal := by
  have itself := congrArg absVal (ofRat_absVal number)
  rw [convert, if_neg (by rw [isNaN_of_isFinite finite]; decide),
    if_neg (by rw [not_isInf_of_isFinite finite]; decide)]
  exact (absVal_ofRat_mono x.absVal_nonneg within _ _).trans_eq itself

/-- Conversion respects the order of magnitudes. -/
theorem absVal_convert_mono {x y : Ieee f} (number : x.isNaN = false) (number' : y.isNaN = false)
    (le : x.absVal ≤ y.absVal) : (x.convert g).absVal ≤ (y.convert g).absVal := by
  rcases isInf_or_isFinite number' with inf | finite'
  · have top : (y.convert g).isInf = true := by
      rw [convert, if_neg (by rw [number']; decide), if_pos inf, isInf, decide_eq_true_eq]
      exact min_self _
    rw [absVal_of_isInf top]
    exact absVal_le_limit (by rw [isNaN_convert, number])
  · have finite : x.isFinite = true := isFinite_iff.mpr (le.trans_lt (isFinite_iff.mp finite'))
    rw [convert, convert, if_neg (by rw [number]; decide), if_neg (by rw [not_isInf_of_isFinite finite]; decide),
      if_neg (by rw [number']; decide), if_neg (by rw [not_isInf_of_isFinite finite']; decide)]
    exact absVal_ofRat_mono x.absVal_nonneg le _ _

theorem absVal_convert_of_zero (proper : 0 < limit f) {x : Ieee f} (zero : x.absVal = 0) :
    (x.convert g).absVal = 0 := by
  have finite : x.isFinite = true := isFinite_iff.mpr (zero.trans_lt proper)
  have none : (ofRat false 0 : Ieee g).absVal = 0 := absVal_ofRat_zero false
  refine le_antisymm ?_ (absVal_nonneg _)
  rw [← none]
  exact absVal_convert_le finite (isNaN_ofRat _ _) (by rw [none, zero])

/-- Conversion respects the order. -/
theorem convert_mono (proper : 0 < limit f) {x y : Ieee f} (le : x ≤ y) : x.convert g ≤ y.convert g := by
  obtain ⟨number, number', value⟩ := le
  refine ⟨by rw [isNaN_convert, number], by rw [isNaN_convert, number'], ?_⟩
  have nonneg := (x.convert g).absVal_nonneg
  have nonneg' := (y.convert g).absVal_nonneg
  rw [toRat, toRat] at value
  rw [toRat, toRat, neg_convert, neg_convert]
  cases left : x.neg with
  | false =>
    cases right : y.neg with
    | false =>
      simp only [left, right, Bool.false_eq_true, if_false] at value ⊢
      exact absVal_convert_mono number number' value
    | true =>
      -- Both are zero, with signs of their own.
      simp only [left, right, Bool.false_eq_true, if_false, if_true] at value ⊢
      have first := x.absVal_nonneg
      have second := y.absVal_nonneg
      rw [absVal_convert_of_zero proper (by linarith), absVal_convert_of_zero proper (by linarith), neg_zero]
  | true =>
    cases right : y.neg with
    | false =>
      simp only [Bool.false_eq_true, if_false, if_true]
      linarith
    | true =>
      simp only [left, right, if_true] at value ⊢
      exact neg_le_neg (absVal_convert_mono number' number (by linarith))

/-! ### There and back -/

/-- The payload of a quiet NaN is kept in the wider format. -/
theorem convert_ofPayload (wide : Widens f g) (neg : Bool) (payload : Nat) :
    ((ofPayload neg payload : Ieee f).convert g).convert f = ofPayload neg payload := by
  obtain ⟨d, finer⟩ := Nat.exists_eq_add_of_le wide.fraction
  have positive := f.frac_pos
  have half : 2 ^ (g.fracBits - 1) = 2 ^ (f.fracBits - 1) * 2 ^ d := by
    rw [← pow_add, finer]
    congr 1
    omega
  have top : 2 ^ g.fracBits = 2 ^ d * 2 ^ f.fracBits := by rw [finer, pow_add, Nat.mul_comm]
  have rest := Nat.mod_lt payload (Nat.two_pow_pos (f.fracBits - 1))
  have nan (h : Format) (n : Nat) : (ofPayload neg n : Ieee h).isNaN = true := by
    have some := Nat.two_pow_pos (h.fracBits - 1)
    rw [isNaN, decide_eq_true_eq, ofPayload]
    dsimp only
    omega
  -- Wider, the payload stands in the leading bits.
  have wider : (ofPayload neg payload : Ieee f).convert g =
      ofPayload neg ((2 ^ (f.fracBits - 1) + payload % 2 ^ (f.fracBits - 1)) * 2 ^ d) := by
    rw [convert, if_pos (nan f payload)]
    congr 1
    rw [ofPayload, Nat.add_sub_cancel_left, top, ← Nat.mul_assoc, Nat.mul_div_cancel _ (Nat.two_pow_pos _)]
  have back : (2 ^ (f.fracBits - 1) * 2 ^ d + payload % 2 ^ (f.fracBits - 1) * 2 ^ d) * 2 ^ f.fracBits / 2 ^ g.fracBits =
      2 ^ (f.fracBits - 1) + payload % 2 ^ (f.fracBits - 1) := by
    rw [top, ← Nat.add_mul, Nat.mul_assoc, Nat.mul_div_cancel _ (by positivity)]
  rw [wider, convert, if_pos (nan g _)]
  simp only [ofPayload, Nat.add_sub_cancel_left, half, Nat.mul_mod_mul_right, Nat.add_mod_left, Nat.mod_mod, back]

/-- What a conversion to the narrower format has made survives the way there and back. -/
theorem convert_convert_convert (wide : Widens f g) (x : Ieee g) :
    ((x.convert f).convert g).convert f = x.convert f := by
  cases nan : x.isNaN with
  | true =>
    have made : x.convert f = ofPayload x.neg ((x.mag - g.infMag) * 2 ^ f.fracBits / 2 ^ g.fracBits) := by
      rw [convert, if_pos nan]
    rw [made]
    exact convert_ofPayload wide _ _
  | false =>
    have number : (x.convert f).isNaN = false := (isNaN_convert x).trans nan
    have number' : ((x.convert f).convert g).isNaN = false := (isNaN_convert _).trans number
    rcases isInf_or_isFinite number with inf | finite
    · have inf' := (isInf_convert wide (x.convert f)).trans inf
      rw [convert, if_neg (by rw [number']; decide), if_pos inf', neg_convert]
      rw [isInf, decide_eq_true_eq] at inf
      cases converted : x.convert f with
      | mk neg mag mag_lt =>
        rw [converted] at inf
        simp [ofMag, ← inf]
    · obtain ⟨finite', value⟩ := convert_of_isFinite wide finite
      rw [convert, if_neg (by rw [number']; decide), if_neg (by rw [not_isInf_of_isFinite finite']; decide), value,
        neg_convert, ofRat_absVal number]

end Ieee
end SelfDriving.Ieee754
