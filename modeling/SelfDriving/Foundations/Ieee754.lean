import Mathlib.Data.Rat.Floor
import Mathlib.Algebra.Order.Floor.Semiring
import Mathlib.Algebra.Order.Field.Basic
import Mathlib.Tactic.Linarith
import Mathlib.Tactic.NormNum
import Mathlib.Tactic.Positivity
import Mathlib.Tactic.FieldSimp
import Mathlib.Tactic.Ring

/-! IEEE 754 binary floating point, for any widths of the exponent and fraction
fields. A number is its sign and its magnitude field, kept bit for bit, so a
value that travels over a wire is unchanged by being read. Every arithmetic
operation is the exact rational result rounded once to nearest, ties to even.
Magnitudes are ordered as the values they encode (`units_strictMono`), which is
what makes rounding monotone and exact on what it can represent. -/
namespace SelfDriving.Ieee754

/-- The two field widths of a binary interchange format. -/
structure Format where
  /-- Stored fraction bits. -/
  fracBits : Nat
  /-- Exponent bits. -/
  expBits : Nat
  /-- There is a fraction bit to tell a NaN from an infinity. -/
  frac_pos : 0 < fracBits := by decide

/-- C `float`, MATLAB `single`. -/
abbrev binary32 : Format where
  fracBits := 23
  expBits := 8

/-- C `double`, Python `float`. -/
abbrev binary64 : Format where
  fracBits := 52
  expBits := 11

namespace Format

/-- How many magnitudes there are below the sign bit. -/
abbrev magnitudes (f : Format) : Nat := 2 ^ (f.expBits + f.fracBits)

/-- The magnitude of an infinity: exponent field all ones, fraction zero. -/
abbrev infMag (f : Format) : Nat := (2 ^ f.expBits - 1) * 2 ^ f.fracBits

/-- One unit, the smallest subnormal, is `2 ^ -unitExp`. -/
abbrev unitExp (f : Format) : Nat := 2 ^ (f.expBits - 1) + f.fracBits - 2

/-- What a magnitude stands for, counted in units. An infinity gets the value
the next exponent would have, past every finite one. -/
def units (f : Format) (mag : Nat) : Nat :=
  if mag < 2 ^ f.fracBits then mag
  else (2 ^ f.fracBits + mag % 2 ^ f.fracBits) * 2 ^ (mag / 2 ^ f.fracBits - 1)

theorem infMag_lt (f : Format) : f.infMag < f.magnitudes := by
  have ones : 2 ^ f.expBits - 1 < 2 ^ f.expBits := Nat.sub_lt (Nat.two_pow_pos _) (by decide)
  rw [magnitudes, pow_add]
  exact Nat.mul_lt_mul_of_pos_right ones (Nat.two_pow_pos _)

end Format

/-- The nearest natural number, ties to even. -/
def nearestEven (x : ℚ) : Nat :=
  if x - ⌊x⌋₊ < 1 / 2 then ⌊x⌋₊
  else if 1 / 2 < x - ⌊x⌋₊ then ⌊x⌋₊ + 1
  else ⌊x⌋₊ + ⌊x⌋₊ % 2

/-- The spacing of representable values around `x` units, as a power of two. -/
def quantumExp (f : Format) (x : ℚ) : Nat := Nat.log2 ⌊x⌋₊ - f.fracBits

/-- The magnitude nearest to `x` units. A fraction that rounds up to the next
power of two carries into the exponent field by itself. -/
def roundMag (f : Format) (x : ℚ) : Nat :=
  quantumExp f x * 2 ^ f.fracBits + nearestEven (x / 2 ^ quantumExp f x)

/-! ### Rounding to an integer -/

@[simp] theorem nearestEven_natCast (n : Nat) : nearestEven n = n := by
  simp [nearestEven]

theorem nearestEven_error {x : ℚ} (nonneg : 0 ≤ x) : |(nearestEven x : ℚ) - x| ≤ 1 / 2 := by
  have below := Nat.floor_le nonneg
  have above := Nat.lt_floor_add_one x
  have even : ((⌊x⌋₊ % 2 : Nat) : ℚ) ≤ 1 := by
    exact_mod_cast Nat.le_of_lt_succ (Nat.mod_lt ⌊x⌋₊ (by decide))
  have odd : (0 : ℚ) ≤ ((⌊x⌋₊ % 2 : Nat) : ℚ) := Nat.cast_nonneg _
  unfold nearestEven
  rw [abs_le]
  split
  · constructor <;> linarith
  · split <;> push_cast at * <;> constructor <;> linarith

theorem nearestEven_mono {x y : ℚ} (le : x ≤ y) :
    nearestEven x ≤ nearestEven y := by
  have floors : ⌊x⌋₊ ≤ ⌊y⌋₊ := Nat.floor_mono le
  rcases floors.eq_or_lt with same | less
  · -- One floor: the tests are made on ordered remainders.
    unfold nearestEven
    rw [← same]
    have parity := Nat.mod_lt ⌊x⌋₊ (show 0 < 2 by decide)
    split_ifs <;> first | omega | (exfalso; linarith)
  · -- A larger floor is at least the next integer, which bounds the rounding of `x`.
    have upper : nearestEven x ≤ ⌊x⌋₊ + 1 := by
      unfold nearestEven
      split_ifs <;> omega
    have lower : ⌊y⌋₊ ≤ nearestEven y := by
      unfold nearestEven
      split_ifs <;> omega
    omega

/-! ### Magnitudes in units -/

section Units
variable (f : Format)

/-- Every magnitude is a multiple `r` of some power of two, with `r` a full
significand except among the subnormals. -/
theorem exists_significand (mag : Nat) :
    ∃ e r, mag = e * 2 ^ f.fracBits + r ∧ r < 2 ^ (f.fracBits + 1) ∧ (e = 0 ∨ 2 ^ f.fracBits ≤ r) := by
  by_cases small : mag < 2 ^ f.fracBits
  · exact ⟨0, mag, by simp, by rw [pow_succ]; omega, .inl rfl⟩
  · have split := Nat.div_add_mod' mag (2 ^ f.fracBits)
    have rest := Nat.mod_lt mag (Nat.two_pow_pos f.fracBits)
    have full : 0 < mag / 2 ^ f.fracBits := Nat.div_pos (by omega) (Nat.two_pow_pos _)
    obtain ⟨e, exponent⟩ : ∃ e, mag / 2 ^ f.fracBits = e + 1 := ⟨_, (Nat.sub_add_cancel full).symm⟩
    refine ⟨e, 2 ^ f.fracBits + mag % 2 ^ f.fracBits, ?_, by rw [pow_succ]; omega, .inr (by omega)⟩
    rw [exponent, add_mul] at split
    omega

theorem units_significand {e r : Nat} (bound : r ≤ 2 ^ (f.fracBits + 1))
    (full : e = 0 ∨ 2 ^ f.fracBits ≤ r) :
    f.units (e * 2 ^ f.fracBits + r) = r * 2 ^ e := by
  have positive := Nat.two_pow_pos f.fracBits
  rw [pow_succ] at bound
  unfold Format.units
  by_cases small : r < 2 ^ f.fracBits
  · have zero : e = 0 := full.resolve_right (by omega)
    simp [zero, small]
  · have large : ¬ e * 2 ^ f.fracBits + r < 2 ^ f.fracBits := by
      have := Nat.zero_le (e * 2 ^ f.fracBits)
      omega
    rw [if_neg large]
    by_cases carry : r = 2 ^ f.fracBits * 2
    · have whole : e * 2 ^ f.fracBits + r = (e + 2) * 2 ^ f.fracBits := by rw [carry]; ring
      rw [whole, Nat.mul_mod_left, Nat.mul_div_cancel _ positive, carry]
      simp only [Nat.add_zero, show e + 2 - 1 = e + 1 by omega]
      ring
    · obtain ⟨low, rfl⟩ : ∃ low, r = 2 ^ f.fracBits + low := ⟨_, (Nat.add_sub_cancel' (by omega)).symm⟩
      have whole : e * 2 ^ f.fracBits + (2 ^ f.fracBits + low) = low + (e + 1) * 2 ^ f.fracBits := by
        ring
      rw [whole, Nat.add_mul_mod_self_right, Nat.add_mul_div_right _ _ positive,
        Nat.mod_eq_of_lt (by omega), Nat.div_eq_of_lt (by omega : low < 2 ^ f.fracBits)]
      simp

/-- A larger magnitude field stands for a larger value. -/
theorem units_strictMono : StrictMono f.units := by
  refine strictMono_nat_of_lt_succ fun mag => ?_
  obtain ⟨e, r, rfl, bound, full⟩ := exists_significand f mag
  rw [units_significand f bound.le full, Nat.add_assoc,
    units_significand f (e := e) (r := r + 1) bound (full.imp id fun le => by omega)]
  exact Nat.mul_lt_mul_of_pos_right (Nat.lt_succ_self r) (Nat.two_pow_pos e)

@[simp] theorem units_zero : f.units 0 = 0 := by
  simp [Format.units]

end Units

/-! ### Rounding to a magnitude -/

section Rounding
variable (f : Format)

theorem quantumExp_spec {x : ℚ} (nonneg : 0 ≤ x) :
    x / 2 ^ quantumExp f x < 2 ^ (f.fracBits + 1) ∧
      (quantumExp f x = 0 ∨ (2 ^ f.fracBits : ℚ) ≤ x / 2 ^ quantumExp f x) := by
  have upper : x < 2 ^ (Nat.log2 ⌊x⌋₊ + 1) := by
    exact_mod_cast (Nat.floor_lt nonneg).mp (Nat.lt_log2_self (n := ⌊x⌋₊))
  rcases Nat.eq_zero_or_pos (quantumExp f x) with zero | positive
  · have small : Nat.log2 ⌊x⌋₊ + 1 ≤ f.fracBits + 1 := by
      unfold quantumExp at zero
      omega
    refine ⟨?_, .inl zero⟩
    rw [zero, pow_zero, div_one]
    exact upper.trans_le (pow_le_pow_right₀ (by norm_num) small)
  · have log : Nat.log2 ⌊x⌋₊ = quantumExp f x + f.fracBits := by
      unfold quantumExp at positive ⊢
      omega
    have nonzero : ⌊x⌋₊ ≠ 0 := by
      intro zero
      simp only [zero, Nat.log2_zero] at log
      omega
    have lower : (2 : ℚ) ^ Nat.log2 ⌊x⌋₊ ≤ x :=
      le_trans (by exact_mod_cast Nat.log2_self_le nonzero) (Nat.floor_le nonneg)
    refine ⟨?_, .inr ?_⟩
    · rw [div_lt_iff₀ (by positivity), ← pow_add]
      rw [log] at upper
      exact upper.trans_eq (by ring)
    · rw [le_div_iff₀ (by positivity), ← pow_add]
      rw [log] at lower
      exact le_trans (le_of_eq (by ring)) lower

/-- No two powers of two scale one value to a full significand. -/
theorem quantumExp_le {x : ℚ} {e : Nat} (fits : x / 2 ^ e < 2 ^ (f.fracBits + 1))
    (nonneg : 0 ≤ x) : quantumExp f x ≤ e := by
  rcases (quantumExp_spec f nonneg).2 with zero | full
  · omega
  by_contra above
  rw [div_lt_iff₀ (by positivity), ← pow_add] at fits
  rw [le_div_iff₀ (by positivity), ← pow_add] at full
  have order : (2 : ℚ) ^ (f.fracBits + 1 + e) ≤ 2 ^ (f.fracBits + quantumExp f x) :=
    pow_le_pow_right₀ (by norm_num) (by omega)
  linarith

theorem quantumExp_mono {x y : ℚ} (nonneg : 0 ≤ x) (le : x ≤ y) :
    quantumExp f x ≤ quantumExp f y := by
  refine quantumExp_le f (lt_of_le_of_lt ?_ (quantumExp_spec f (nonneg.trans le)).1) nonneg
  gcongr

/-- The significand that rounding chooses stays within one binade, its upper
end included. -/
theorem nearestEven_significand {x : ℚ} (nonneg : 0 ≤ x) :
    nearestEven (x / 2 ^ quantumExp f x) ≤ 2 ^ (f.fracBits + 1) ∧
      (quantumExp f x = 0 ∨ 2 ^ f.fracBits ≤ nearestEven (x / 2 ^ quantumExp f x)) := by
  obtain ⟨upper, lower⟩ := quantumExp_spec f nonneg
  constructor
  · have rounded := nearestEven_mono upper.le
    rwa [show (2 : ℚ) ^ (f.fracBits + 1) = ((2 ^ (f.fracBits + 1) : Nat) : ℚ) by norm_num,
      nearestEven_natCast] at rounded
  · refine lower.imp id fun full => ?_
    have rounded := nearestEven_mono full
    rwa [show (2 : ℚ) ^ f.fracBits = ((2 ^ f.fracBits : Nat) : ℚ) by norm_num,
      nearestEven_natCast] at rounded

theorem units_roundMag {x : ℚ} (nonneg : 0 ≤ x) :
    f.units (roundMag f x) = nearestEven (x / 2 ^ quantumExp f x) * 2 ^ quantumExp f x :=
  units_significand f (nearestEven_significand f nonneg).1 (nearestEven_significand f nonneg).2

/-- What is representable is not moved by rounding. -/
theorem roundMag_units (mag : Nat) : roundMag f (f.units mag) = mag := by
  obtain ⟨e, r, rfl, bound, full⟩ := exists_significand f mag
  rw [units_significand f bound.le full]
  have scaled : (((r * 2 ^ e : Nat) : ℚ)) / 2 ^ e = (r : Nat) := by
    rw [Nat.cast_mul, Nat.cast_pow, Nat.cast_ofNat]
    field_simp
  have exponent : quantumExp f ((r * 2 ^ e : Nat) : ℚ) = e := by
    have le : quantumExp f ((r * 2 ^ e : Nat) : ℚ) ≤ e :=
      quantumExp_le f (by rw [scaled]; exact_mod_cast bound) (Nat.cast_nonneg _)
    rcases full with zero | full
    · omega
    -- A smaller quantum would leave more than a full significand.
    have fits := (quantumExp_spec f (Nat.cast_nonneg (r * 2 ^ e))).1
    by_contra other
    rw [div_lt_iff₀ (by positivity), ← pow_add] at fits
    have whole : r * 2 ^ e < 2 ^ (f.fracBits + 1 + quantumExp f ((r * 2 ^ e : Nat) : ℚ)) := by
      exact_mod_cast fits
    have wide : 2 ^ (f.fracBits + 1 + quantumExp f ((r * 2 ^ e : Nat) : ℚ)) ≤ 2 ^ f.fracBits * 2 ^ e := by
      rw [← pow_add]
      exact Nat.pow_le_pow_right (by decide) (by omega)
    have narrow := Nat.mul_le_mul_right (2 ^ e) full
    omega
  rw [roundMag, exponent, scaled, nearestEven_natCast]

/-- Rounding respects order. -/
theorem roundMag_mono {x y : ℚ} (nonneg : 0 ≤ x) (le : x ≤ y) : roundMag f x ≤ roundMag f y := by
  rcases (quantumExp_mono f nonneg le).eq_or_lt with same | less
  · unfold roundMag
    rw [same]
    gcongr
    exact nearestEven_mono (by gcongr)
  · -- The lower value carries at most to the end of its binade, below the upper one's.
    have upper := (nearestEven_significand f nonneg).1
    have lower := (nearestEven_significand f (nonneg.trans le)).2.resolve_left (by omega)
    have binades := Nat.mul_le_mul_right (2 ^ f.fracBits) (Nat.succ_le_of_lt less)
    rw [pow_succ] at upper
    rw [Nat.succ_mul] at binades
    unfold roundMag
    omega

/-- Rounding moves a value by at most half its quantum. -/
theorem units_roundMag_error {x : ℚ} (nonneg : 0 ≤ x) :
    |(f.units (roundMag f x) : ℚ) - x| ≤ 2 ^ quantumExp f x / 2 := by
  have half := nearestEven_error (x := x / 2 ^ quantumExp f x) (by positivity)
  rw [units_roundMag f nonneg, Nat.cast_mul, Nat.cast_pow, Nat.cast_ofNat]
  have scaled : (nearestEven (x / 2 ^ quantumExp f x) : ℚ) * 2 ^ quantumExp f x - x =
      (nearestEven (x / 2 ^ quantumExp f x) - x / 2 ^ quantumExp f x) * 2 ^ quantumExp f x := by
    field_simp
  rw [scaled, abs_mul, abs_of_pos (by positivity : (0 : ℚ) < 2 ^ quantumExp f x)]
  calc |(nearestEven (x / 2 ^ quantumExp f x) : ℚ) - x / 2 ^ quantumExp f x| * 2 ^ quantumExp f x
      ≤ 1 / 2 * 2 ^ quantumExp f x := by gcongr
    _ = 2 ^ quantumExp f x / 2 := by ring

/-- Above the subnormals the error is relative: half a unit in the last place. -/
theorem units_roundMag_relative {x : ℚ} (normal : 2 ^ f.fracBits ≤ x) :
    |(f.units (roundMag f x) : ℚ) - x| ≤ x / 2 ^ (f.fracBits + 1) := by
  have nonneg : 0 ≤ x := le_trans (by positivity) normal
  refine (units_roundMag_error f nonneg).trans ?_
  rw [le_div_iff₀ (by positivity)]
  rcases (quantumExp_spec f nonneg).2 with zero | full
  · rw [zero]
    calc (2 : ℚ) ^ 0 / 2 * 2 ^ (f.fracBits + 1) = 2 ^ f.fracBits := by ring
      _ ≤ x := normal
  · rw [le_div_iff₀ (by positivity)] at full
    calc (2 : ℚ) ^ quantumExp f x / 2 * 2 ^ (f.fracBits + 1) = 2 ^ f.fracBits * 2 ^ quantumExp f x := by
          ring
      _ ≤ x := full

end Rounding

end SelfDriving.Ieee754
