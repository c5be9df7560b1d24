import SelfDriving.Front.SteeringNode

/-! The millisecond clock of the node. The system timer counts at 100 MHz, and
the count is taken to milliseconds in single precision, so a reading trails the
true time by about one millisecond and leads it by less than a hundredth. The
clock starts again from zero whenever the lower word of the timer does. -/
namespace SelfDriving.Front
open Ieee754

/-- The rate of the system timer. -/
def stmFrequency : F32 := 100000000.0

/-- Ticks of one millisecond. -/
def ticksPerMs : Nat := 100000

/-- Ticks after which the lower word of the timer starts again. -/
def wrapTicks : Nat := 2 ^ 32

/-- The clock at a true time, counted in ticks without end. -/
def clock (ticks : Nat) : UInt32 := nowMs stmFrequency (UInt32.ofNat ticks)

private theorem single_error {q : ℚ} (low : 1 / 2 ^ 126 ≤ q) (high : q ≤ 2 ^ 128) (neg : Bool) :
    |(Ieee.ofRat neg q : F32).absVal - q| ≤ q / 2 ^ 24 := by
  have normal : (2 : ℚ) ^ binary32.fracBits ≤ q * 2 ^ binary32.unitExp := by
    change (2 : ℚ) ^ 23 ≤ q * 2 ^ 149
    linarith [show (2 : ℚ) ^ 149 = 2 ^ 23 * 2 ^ 126 by norm_num]
  have limit : q ≤ Ieee.limit binary32 :=
    high.trans_eq (by decide +kernel : (2 : ℚ) ^ 128 = Ieee.limit binary32)
  exact Ieee.absVal_ofRat_relative normal limit neg

private theorem single_finite {x : F32} (small : x.absVal < 2 ^ 127) : x.isFinite = true :=
  Ieee.isFinite_iff.mpr (small.trans (by decide +kernel : (2 : ℚ) ^ 127 < Ieee.limit binary32))

private theorem thousand : (1000.0 : F32).absVal = 1000 := by decide +kernel

private theorem frequency : stmFrequency.absVal = 100000000 := by decide +kernel

/-- The conversion to milliseconds before its fraction is cut off: one rounding each
for the count, the product and the quotient. -/
private def scaledMs (n : ℚ) : ℚ :=
  (Ieee.ofRat false ((Ieee.ofRat false ((Ieee.ofRat false n : F32).absVal * 1000) : F32).absVal / 100000000) : F32).absVal

private theorem scaledMs_mono {m n : ℚ} (nonneg : 0 ≤ m) (le : m ≤ n) : scaledMs m ≤ scaledMs n := by
  have count : (Ieee.ofRat false m : F32).absVal ≤ (Ieee.ofRat false n : F32).absVal :=
    Ieee.absVal_ofRat_mono nonneg le false false
  have product := Ieee.absVal_ofRat_mono (f := binary32)
    (mul_nonneg (Ieee.absVal_nonneg (Ieee.ofRat false m : F32)) (by norm_num : (0 : ℚ) ≤ 1000))
    (mul_le_mul_of_nonneg_right count (by norm_num)) false false
  exact Ieee.absVal_ofRat_mono (div_nonneg (Ieee.absVal_nonneg _) (by norm_num))
    (div_le_div_of_nonneg_right product (by norm_num)) false false

private theorem milliseconds_error {n : Nat} (positive : 0 < n) (bound : n < 2 ^ 32) :
    |scaledMs n - n / 100000| ≤ 1 / 125 ∧ 0 ≤ scaledMs n ∧
      (nowMs stmFrequency (UInt32.ofNat n)).toNat = ⌊scaledMs n⌋₊ := by
  have one : (1 : ℚ) ≤ n := by exact_mod_cast positive
  have wrap : (n : ℚ) < 2 ^ 32 := by exact_mod_cast bound
  have count : (Floating.ofUInt32 (UInt32.ofNat n) : F32) = Ieee.ofRat false n := by
    change Ieee.ofRat false ((UInt32.ofNat n).toNat : ℚ) = _
    rw [UInt32.toNat_ofNat', Nat.mod_eq_of_lt bound]
  unfold scaledMs
  have first := single_error (q := n) (by linarith [show (1 : ℚ) / 2 ^ 126 ≤ 1 by norm_num])
    (by linarith [show (2 : ℚ) ^ 32 ≤ 2 ^ 128 by norm_num]) false
  generalize a_is : (Ieee.ofRat false n : F32) = a at first count ⊢
  have a_neg : a.neg = false := by rw [← a_is]; rfl
  rw [abs_le] at first
  have product : a * (1000.0 : F32) = Ieee.ofRat false (a.absVal * 1000) := by
    rw [Ieee.mul_of_isFinite (single_finite (by linarith [show (2 : ℚ) ^ 33 ≤ 2 ^ 127 by norm_num]))
      (by decide +kernel), thousand, a_neg]
    rfl
  have second := single_error (q := a.absVal * 1000)
    (by linarith [show (1 : ℚ) / 2 ^ 126 ≤ 1 by norm_num])
    (by linarith [show (2 : ℚ) ^ 44 ≤ 2 ^ 128 by norm_num]) false
  generalize b_is : (Ieee.ofRat false (a.absVal * 1000) : F32) = b at second product ⊢
  have b_neg : b.neg = false := by rw [← b_is]; rfl
  rw [abs_le] at second
  have quotient : b / stmFrequency = Ieee.ofRat false (b.absVal / 100000000) := by
    rw [Ieee.div_of_isFinite (single_finite (by linarith [show (2 : ℚ) ^ 45 ≤ 2 ^ 127 by norm_num]))
      (by decide +kernel) (by decide +kernel), frequency, b_neg]
    rfl
  have third := single_error (q := b.absVal / 100000000)
    (by linarith [show (1 : ℚ) / 2 ^ 126 ≤ 1 / 2 ^ 40 by norm_num])
    (by linarith [show (2 : ℚ) ^ 45 ≤ 2 ^ 128 by norm_num]) false
  generalize c_is : (Ieee.ofRat false (b.absVal / 100000000) : F32) = c at third quotient ⊢
  rw [abs_le] at third
  refine ⟨?_, c.absVal_nonneg, ?_⟩
  · rw [abs_le]
    constructor <;> linarith
  · change (Ieee.toUInt32 ((Floating.ofUInt32 (UInt32.ofNat n) : F32) * (1000.0 : F32) / stmFrequency)).toNat = _
    rw [count, product, quotient]
    refine Ieee.toUInt32_toNat ?_ ?_ (by linarith [show (2 : ℚ) ^ 20 ≤ 2 ^ 32 by norm_num])
    · rw [← c_is]; exact Ieee.isNaN_ofRat _ _
    · rw [← c_is]; rfl

/-- A later count of the timer gives no earlier reading. -/
theorem nowMs_mono {m n : Nat} (le : m ≤ n) (bound : n < 2 ^ 32) :
    (nowMs stmFrequency (UInt32.ofNat m)).toNat ≤ (nowMs stmFrequency (UInt32.ofNat n)).toNat := by
  rcases Nat.eq_zero_or_pos m with rfl | positive
  · rw [show (nowMs stmFrequency (UInt32.ofNat 0)).toNat = 0 by decide +kernel]
    exact Nat.zero_le _
  · obtain ⟨-, -, early⟩ := milliseconds_error positive (le.trans_lt bound)
    obtain ⟨-, -, late⟩ := milliseconds_error (positive.trans_le le) bound
    rw [early, late]
    exact Nat.floor_mono (scaledMs_mono (Nat.cast_nonneg m) (by exact_mod_cast le))

/-- The reading trails the timer by at most 1.008 ms and leads it by at most 0.008 ms. -/
theorem nowMs_bounds {n : Nat} (bound : n < 2 ^ 32) :
    n < 100000 * (nowMs stmFrequency (UInt32.ofNat n)).toNat + 100800 ∧
      100000 * (nowMs stmFrequency (UInt32.ofNat n)).toNat ≤ n + 800 := by
  rcases Nat.eq_zero_or_pos n with rfl | positive
  · rw [show (nowMs stmFrequency (UInt32.ofNat 0)).toNat = 0 by decide +kernel]
    decide
  · obtain ⟨error, nonneg, floor⟩ := milliseconds_error positive bound
    rw [abs_le] at error
    have below := Nat.floor_le nonneg
    have above := Nat.lt_floor_add_one (scaledMs n)
    rw [← floor] at below above
    constructor
    · have late : (n : ℚ) < 100000 * (nowMs stmFrequency (UInt32.ofNat n)).toNat + 100800 := by linarith
      exact_mod_cast late
    · have early : 100000 * ((nowMs stmFrequency (UInt32.ofNat n)).toNat : ℚ) ≤ n + 800 := by linarith
      exact_mod_cast early

theorem clock_mod (ticks : Nat) :
    clock ticks = nowMs stmFrequency (UInt32.ofNat (ticks % 2 ^ 32)) := by
  rw [clock, UInt32.ofNat_mod_size]

theorem clock_bounds (ticks : Nat) :
    ticks % 2 ^ 32 < 100000 * (clock ticks).toNat + 100800 ∧
      100000 * (clock ticks).toNat ≤ ticks % 2 ^ 32 + 800 := by
  rw [clock_mod]
  exact nowMs_bounds (Nat.mod_lt _ (by decide))

theorem clock_mono {past now : Nat} (later : past ≤ now) (same : past / wrapTicks = now / wrapTicks) :
    (clock past).toNat ≤ (clock now).toNat := by
  have former := Nat.div_add_mod past wrapTicks
  have latter := Nat.div_add_mod now wrapTicks
  rw [same] at former
  rw [clock_mod, clock_mod]
  exact nowMs_mono (by simp only [wrapTicks] at *; omega) (Nat.mod_lt _ (by decide))

/-- An age measured on the clock is right about an interval of 199 ms at most, unless
the timer starts again within it; then it is seen as almost a whole period of words. -/
theorem age_le_watchdog_iff {past now : Nat} (later : past ≤ now) (recent : now ≤ past + 199 * ticksPerMs) :
    clock now - clock past ≤ steeringWatchdogMs ↔ past / wrapTicks = now / wrapTicks := by
  have recently := clock_bounds now
  have formerly := clock_bounds past
  have difference := UInt32.toNat_sub (clock now) (clock past)
  rw [UInt32.le_iff_toNat_le, difference]
  change _ ≤ 200 ↔ _
  by_cases same : past / wrapTicks = now / wrapTicks
  · have order := clock_mono later same
    refine iff_of_true ?_ same
    simp only [wrapTicks, ticksPerMs] at *
    omega
  · refine iff_of_false ?_ same
    simp only [wrapTicks, ticksPerMs] at *
    omega

/-- An age measured on the clock is right about an interval that is longer than
202 ms and leaves 0.798 s of the timer's period. -/
theorem age_gt_watchdog {past now : Nat} (long : past + 20200000 < now)
    (short : now + 79800000 < past + 2 ^ 32) : clock now - clock past > steeringWatchdogMs := by
  have recent := clock_bounds now
  have former := clock_bounds past
  change 200 < clock now - clock past
  rw [UInt32.lt_iff_toNat_lt, UInt32.toNat_sub]
  change 200 < _
  by_cases same : past % 2 ^ 32 ≤ now % 2 ^ 32
  · -- No wrap lies between the two readings.
    have interval : now % 2 ^ 32 = past % 2 ^ 32 + (now - past) := by omega
    omega
  · -- One wrap lies between them and the difference is close to a whole period of words.
    have interval : now % 2 ^ 32 + 2 ^ 32 = past % 2 ^ 32 + (now - past) := by omega
    omega

end SelfDriving.Front
