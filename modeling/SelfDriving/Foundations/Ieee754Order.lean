import SelfDriving.Foundations.Ieee754Arithmetic

/-! Sums and products respect order. The infinities stand at the ends of the value
range, so a sum with one of them is the infinity itself, unless it is undefined; a
sum of finite values is one rounding of the exact sum. Scaling by one changes
nothing, and scaling by more never brings a bound below what it bounds. -/
namespace SelfDriving.Ieee754.Ieee
variable {f : Format}

theorem isInf_or_isFinite {x : Ieee f} (number : x.isNaN = false) : x.isInf = true ∨ x.isFinite = true := by
  simp only [isNaN, isInf, isFinite, decide_eq_false_iff_not, decide_eq_true_eq] at *
  omega

theorem isNaN_of_isInf {x : Ieee f} (inf : x.isInf = true) : x.isNaN = false := by
  simp only [isNaN, isInf, decide_eq_false_iff_not, decide_eq_true_eq] at *
  omega

theorem not_isFinite_of_isNaN {x : Ieee f} (nan : x.isNaN = true) : x.isFinite = false := by
  simp only [isNaN, isFinite, decide_eq_false_iff_not, decide_eq_true_eq] at *
  omega

theorem not_isFinite_of_isInf {x : Ieee f} (inf : x.isInf = true) : x.isFinite = false := by
  simp only [isInf, isFinite, decide_eq_false_iff_not, decide_eq_true_eq] at *
  omega

/-- A number is determined by its sign and its value. -/
theorem eq_of_absVal_eq {x y : Ieee f} (number : x.isNaN = false) (number' : y.isNaN = false) (sign : x.neg = y.neg)
    (value : x.absVal = y.absVal) : x = y := by
  rw [← ofRat_absVal number, ← ofRat_absVal number', sign, value]

theorem absVal_of_isInf {x : Ieee f} (inf : x.isInf = true) : x.absVal = limit f := by
  rw [isInf, decide_eq_true_eq] at inf
  rw [absVal, inf, limit]

theorem limit_binary64_pos : 0 < limit binary64 := by decide +kernel

theorem absVal_le_limit {x : Ieee f} (number : x.isNaN = false) : x.absVal ≤ limit f := by
  rcases isInf_or_isFinite number with inf | finite
  · exact (absVal_of_isInf inf).le
  · exact (isFinite_iff.mp finite).le

theorem toRat_le_limit {x : Ieee f} (number : x.isNaN = false) : x.toRat ≤ limit f :=
  (le_abs_self _).trans ((abs_toRat x).le.trans (absVal_le_limit number))

theorem neg_limit_le_toRat {x : Ieee f} (number : x.isNaN = false) : -limit f ≤ x.toRat :=
  neg_le_of_abs_le ((abs_toRat x).le.trans (absVal_le_limit number))

theorem add_of_isFinite {a b : Ieee f} (finite : a.isFinite = true) (finite' : b.isFinite = true) :
    a + b = round (a.neg && b.neg) (a.toRat + b.toRat) := by
  change add a b = _
  simp [add, isNaN_of_isFinite finite, isNaN_of_isFinite finite', not_isInf_of_isFinite finite,
    not_isInf_of_isFinite finite']

theorem add_of_isInf_left {a b : Ieee f} (inf : a.isInf = true) (finite : b.isFinite = true) : a + b = a := by
  change add a b = _
  simp [add, isNaN_of_isInf inf, isNaN_of_isFinite finite, inf, not_isInf_of_isFinite finite]

/-- A sum with an infinity on the right is that infinity, or it is undefined. -/
theorem add_of_isInf_right {a b : Ieee f} (number : a.isNaN = false) (inf : b.isInf = true) :
    a + b = b ∨ (a + b).isNaN = true ∧ a.isInf = true ∧ a.neg = !b.neg := by
  change add a b = b ∨ (add a b).isNaN = true ∧ _
  rcases isInf_or_isFinite number with inf' | finite
  · by_cases same : a.neg = b.neg
    · left
      have equal : a = b := by
        simp only [isInf, decide_eq_true_eq] at inf inf'
        cases a
        cases b
        simp_all
      simp [add, isNaN_of_isInf inf, inf, equal]
    · right
      have differ : (a.neg != b.neg) = true := by simpa using same
      refine ⟨?_, inf', by cases left : a.neg <;> cases right : b.neg <;> simp_all⟩
      simp [add, isNaN_of_isInf inf', isNaN_of_isInf inf, inf', inf, differ]
  · left
    simp [add, isNaN_of_isFinite finite, isNaN_of_isInf inf, not_isInf_of_isFinite finite, inf]

/-- Opposite infinities have no sum. -/
theorem add_of_opposite {a b : Ieee f} (inf : a.isInf = true) (inf' : b.isInf = true) (opposite : a.neg = !b.neg) :
    (a + b).isNaN = true := by
  change (add a b).isNaN = true
  simp [add, isNaN_of_isInf inf, isNaN_of_isInf inf', inf, inf', opposite]

theorem toRat_of_isInf {x : Ieee f} (inf : x.isInf = true) :
    x.toRat = if x.neg then -limit f else limit f := by
  rw [toRat, absVal_of_isInf inf]

theorem isNaN_right_of_add {a b : Ieee f} (number : (a + b).isNaN = false) : b.isNaN = false := by
  by_contra nan
  rw [Bool.not_eq_false] at nan
  have undefined : (add a b).isNaN = true := by simp [add, nan]
  exact absurd number (by rw [show a + b = add a b from rfl, undefined]; decide)

/-- Sums with one value on the right keep the order on the left. -/
protected theorem add_le_add_right {a b c : Ieee f} (ab : a ≤ b) (number : (a + c).isNaN = false)
    (number' : (b + c).isNaN = false) : a + c ≤ b + c := by
  refine ⟨number, number', ?_⟩
  rcases isInf_or_isFinite (isNaN_right_of_add number) with inf | finite
  · -- The sum is the infinity on both sides.
    rcases add_of_isInf_right ab.1 inf with left | ⟨undefined, _⟩
    · rcases add_of_isInf_right ab.2.1 inf with right | ⟨undefined, _⟩
      · rw [left, right]
      · rw [undefined] at number'
        cases number'
    · rw [undefined] at number
      cases number
  · rcases isInf_or_isFinite ab.1 with inf | finite_left
    · rw [add_of_isInf_left inf finite]
      rcases isInf_or_isFinite ab.2.1 with inf' | finite_right
      · rw [add_of_isInf_left inf' finite]
        exact ab.2.2
      · -- Only the negative infinity is below a finite value.
        have below : a.toRat < limit f := ab.2.2.trans_lt
          ((le_abs_self _).trans_lt ((abs_toRat b).trans_lt (isFinite_iff.mp finite_right)))
        have bottom : a.toRat = -limit f := by
          rw [toRat_of_isInf inf] at below ⊢
          split
          · rfl
          · rename_i positive
            rw [if_neg positive] at below
            exact absurd below (lt_irrefl _)
        rw [bottom]
        exact neg_limit_le_toRat number'
    · rcases isInf_or_isFinite ab.2.1 with inf' | finite_right
      · rw [add_of_isInf_left inf' finite]
        have above : -limit f < b.toRat := lt_of_lt_of_le (neg_lt_of_abs_lt
          ((abs_toRat a).trans_lt (isFinite_iff.mp finite_left))) ab.2.2
        have top : b.toRat = limit f := by
          rw [toRat_of_isInf inf'] at above ⊢
          split
          · rename_i negative
            rw [if_pos negative] at above
            exact absurd above (lt_irrefl _)
          · rfl
        rw [top]
        exact toRat_le_limit number
      · rw [add_of_isFinite finite_left finite, add_of_isFinite finite_right finite]
        exact toRat_round_mono (by have := ab.2.2; linarith) _ _

/-! ### Ranges -/

theorem neg_of_pos {a : Ieee f} (positive : 0 < a.toRat) : a.neg = false := by
  by_contra negative
  rw [Bool.not_eq_false] at negative
  have nonneg := a.absVal_nonneg
  rw [toRat, if_pos negative] at positive
  linarith

theorem absVal_of_pos {a : Ieee f} (positive : 0 < a.toRat) : a.absVal = a.toRat := by
  rw [← abs_toRat, abs_of_pos positive]

/-- What lies between finite values is finite. -/
theorem isFinite_of_between {low x high : Ieee f} (above : low ≤ x) (below : x ≤ high)
    (finite : low.isFinite = true) (finite' : high.isFinite = true) : x.isFinite = true := by
  rw [isFinite_iff, ← abs_toRat, abs_lt]
  constructor
  · exact (neg_lt_of_abs_lt ((abs_toRat low).trans_lt (isFinite_iff.mp finite))).trans_le above.2.2
  · exact below.2.2.trans_lt ((le_abs_self _).trans_lt ((abs_toRat high).trans_lt (isFinite_iff.mp finite')))

/-- A number is finite after rounding when a larger one is. -/
theorem isFinite_ofRat {q bound : ℚ} (nonneg : 0 ≤ q) (le : q ≤ bound)
    (finite : (ofRat false bound : Ieee f).isFinite = true) (neg : Bool) : (ofRat neg q : Ieee f).isFinite = true :=
  isFinite_iff.mpr ((absVal_ofRat_mono nonneg le neg false).trans_lt (isFinite_iff.mp finite))

/-- A finite value and a number have a sum. -/
theorem isNaN_add {a b : Ieee f} (finite : a.isFinite = true) (number : b.isNaN = false) : (a + b).isNaN = false := by
  rcases isInf_or_isFinite number with inf | finite'
  · rcases add_of_isInf_right (isNaN_of_isFinite finite) inf with same | ⟨_, inf', _⟩
    · rw [same, number]
    · rw [not_isInf_of_isFinite finite] at inf'
      cases inf'
  · rw [add_of_isFinite finite finite', isNaN_round]

/-! ### Scaling -/

section
variable {x g : F64}

/-- A nonzero value times an infinity is an infinity. -/
theorem mul_of_isInf {a b : F64} (inf : a.isInf = true ∨ b.isInf = true) (number : a.isNaN = false)
    (number' : b.isNaN = false) (nonzero : a.mag ≠ 0) (nonzero' : b.mag ≠ 0) :
    a * b = ofMag (a.neg ^^ b.neg) binary64.infMag := by
  change mul a b = _
  rw [mul, if_neg (by simp [number, number']), if_pos (by simpa using inf), if_neg (by simp [nonzero, nonzero'])]

theorem mul_one_literal (number : x.isNaN = false) : x * 1.0 = x := by
  have finite : (1.0 : F64).isFinite = true := by decide +kernel
  have positive : (1.0 : F64).neg = false := by decide +kernel
  have unit : (1.0 : F64).absVal = 1 := by decide +kernel
  rcases isInf_or_isFinite number with inf | finite'
  · have mag : x.mag = binary64.infMag := by simpa [isInf] using inf
    rw [mul_of_isInf (.inl inf) number (isNaN_literal ..) (by rw [mag]; decide)
      (by rw [Ne, ← absVal_eq_zero, unit]; decide), positive, Bool.xor_false]
    cases x with
    | mk neg mag' mag_lt => simp_all [ofMag]
  · rw [mul_of_isFinite finite' finite, positive, unit, Bool.xor_false, mul_one, ofRat_absVal number]

/-- A bound scaled by one is the same bound, also where it is no number. -/
theorem le_mul_one_iff {d : F64} : d ≤ x * 1.0 ↔ d ≤ x := by
  cases nan : x.isNaN
  · rw [mul_one_literal nan]
  · constructor
    · rintro ⟨_, number, _⟩
      have undefined : (mul x 1.0).isNaN = true := by simp [mul, nan]
      exact absurd number (by rw [show x * 1.0 = mul x 1.0 from rfl, undefined]; decide)
    · rintro ⟨_, number, _⟩
      rw [nan] at number
      cases number

/-- What is within a bound is within the bound scaled up. -/
theorem le_mul_of_one_le {d : F64} (positive : (0.0 : F64) < d) (within : d ≤ x) (up : (1.0 : F64) ≤ g) :
    d ≤ x * g := by
  have unit : (1.0 : F64).toRat = 1 := by decide +kernel
  have pos : 0 < d.toRat := by simpa using positive.2.2
  have pos_x : 0 < x.toRat := pos.trans_le within.2.2
  have one_le : 1 ≤ g.toRat := unit ▸ up.2.2
  have pos_g : 0 < g.toRat := zero_lt_one.trans_le one_le
  have nonzero {a : F64} (above : 0 < a.toRat) : a.mag ≠ 0 := by
    intro zero
    rw [← absVal_eq_zero, absVal_of_pos above] at zero
    exact above.ne' zero
  refine ⟨within.1, ?_⟩
  by_cases inf : x.isInf = true ∨ g.isInf = true
  · rw [mul_of_isInf inf within.2.1 up.2.1 (nonzero pos_x) (nonzero pos_g), neg_of_pos pos_x, neg_of_pos pos_g]
    refine ⟨isNaN_ofMag _ _, ?_⟩
    have infinite : (ofMag (false ^^ false) binary64.infMag : F64).isInf = true := by decide
    rw [toRat_of_isInf infinite, if_neg (by decide)]
    exact toRat_le_limit within.1
  · have finite_x := (isInf_or_isFinite within.2.1).resolve_left fun left => inf (.inl left)
    have finite_g := (isInf_or_isFinite up.2.1).resolve_left fun right => inf (.inr right)
    rw [mul_of_isFinite finite_x finite_g, neg_of_pos pos_x, neg_of_pos pos_g]
    refine ⟨isNaN_ofRat _ _, ?_⟩
    have scaled : x.absVal ≤ x.absVal * g.absVal :=
      le_mul_of_one_le_right x.absVal_nonneg (by rwa [absVal_of_pos pos_g])
    have rounded := absVal_ofRat_mono (f := binary64) x.absVal_nonneg scaled false false
    have itself := ofRat_absVal within.2.1
    rw [neg_of_pos pos_x] at itself
    rw [itself] at rounded
    rw [Bool.xor_false, toRat_ofRat, if_neg Bool.false_ne_true]
    exact within.2.2.trans ((absVal_of_pos pos_x).ge.trans rounded)

end

end SelfDriving.Ieee754.Ieee
