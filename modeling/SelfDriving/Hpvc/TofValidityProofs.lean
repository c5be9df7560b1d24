import Mathlib.Data.List.GetD
import SelfDriving.Hpvc.FrontSnapshotProofs

/-! Whether the runtime store ignores a ToF distance whose valid bit is clear. It
does not look at the bit, so such a distance goes into the braking guard and into
the acceleration estimate like any other. -/
namespace SelfDriving.Hpvc
open Ieee754 Python Bytes

/-- Two AEB1 datagrams alike but for the ToF distance, whose valid bit is clear. -/
structure TofVariants (first second : List UInt8) : Prop where
  long : frontAeb1Bytes ≤ first.length
  sameLength : second.length = first.length
  aeb1 : field first 0 4 = frontAebMagic
  invalid : leField first 5 1 &&& 0x04 = 0
  same : ∀ index, index < 16 ∨ 18 ≤ index → second.getD index 0 = first.getD index 0

/-- What is decided from the front range. -/
structure RangeOutcome where
  effectiveAebActive : Bool
  accEstimateMps2 : Option F64
  rearControlMode : UInt8

def rangeOutcome (s : RuntimeControlState) : RangeOutcome :=
  ⟨s.effectiveAebActive, s.accEstimateMps2, rearControlMode s⟩

/-- A ToF distance whose valid bit is clear decides nothing. -/
def IgnoresInvalidTof (s : RuntimeControlState) : Prop :=
  ∀ first second, TofVariants first second →
    rangeOutcome (receiveFront s first) = rangeOutcome (receiveFront s second)

/-- REAR has reported a speed that can be computed with. -/
def rearSpeedUsable (s : RuntimeControlState) : Bool :=
  match s.rearStatus with
  | none => false
  | some rear =>
    match rear.vehicleSpeedMps with
    | none => false
    | some vehicleSpeed => vehicleSpeed.isFinite

/-! ### One datagram -/

theorem field_eq_of_same {first second : List UInt8} (variants : TofVariants first second) {offset width : Nat}
    (before : offset + width ≤ 16) : field second offset width = field first offset width := by
  have long : 22 ≤ first.length := variants.long
  have sameLength := variants.sameLength
  rw [field_eq_map (by omega), field_eq_map (by omega)]
  apply List.map_congr_left
  intro place member
  have within := List.mem_range.mp member
  exact variants.same _ (.inl (by omega))

/-- The distance that a datagram carries. -/
def tofOf (data : List UInt8) : F64 := Ieee.ofInt (leField data 16 2) / (1000.0 : F64)

/-- The guard asks for braking when it was requested or the range is short. -/
theorem aebGuard_fst (requestedAebEnabled effectiveAccActive : Bool) (front : FrontSnapshot) :
    (aebGuard requestedAebEnabled effectiveAccActive (some front)).1 =
      (requestedAebEnabled || (front.tofM.isFinite && (0.0 : F64) < front.tofM && front.tofM ≤ (0.18 : F64))) := by
  simp only [aebGuard]
  cases usable : front.tofM.isFinite && decide ((0.0 : F64) < front.tofM) with
  | false => simp
  | true =>
    by_cases short : front.tofM ≤ (0.18 : F64)
    · simp [short]
    · simp only [short, if_true, if_false, decide_false, Bool.and_false, Bool.or_false]
      split <;> rfl

/-- There is an estimate when both the range and the speed are usable. -/
theorem estimateAcceleration_isSome (s : RuntimeControlState) (front : FrontSnapshot) :
    (estimateAcceleration s (some front) s.rearStatus).1.isSome =
      (front.tofM.isFinite && !(front.tofM ≤ (0.0 : F64)) && rearSpeedUsable s) := by
  unfold rearSpeedUsable
  generalize s.rearStatus = rear
  cases rear with
  | none => simp [estimateAcceleration]
  | some rear =>
    cases finite : front.tofM.isFinite with
    | false => simp [estimateAcceleration, finite]
    | true =>
      by_cases low : front.tofM ≤ (0.0 : F64)
      · simp [estimateAcceleration, low]
      · cases speed : rear.vehicleSpeedMps with
        | none => simp [estimateAcceleration, finite, low, speed]
        | some vehicleSpeed =>
          cases finite' : vehicleSpeed.isFinite with
          | false => simp [estimateAcceleration, finite, low, speed, finite']
          | true => simp [estimateAcceleration, finite, low, speed, finite']

/-- What a front snapshot decides. -/
theorem rangeOutcome_setFrontAeb (s : RuntimeControlState) (snapshot : FrontSnapshot) :
    (rangeOutcome (setFrontAeb s snapshot)).effectiveAebActive =
        (aebGuard s.requestedAebEnabled s.requestedAccEnabled (some snapshot)).1 ∧
      (rangeOutcome (setFrontAeb s snapshot)).accEstimateMps2 =
        (estimateAcceleration s (some snapshot) s.rearStatus).1 := ⟨rfl, rfl⟩

/-- With braking requested and no usable speed, every distance decides the same. -/
theorem rangeOutcome_of_requested {s : RuntimeControlState} (requested : s.requestedAebEnabled = true)
    (unusable : rearSpeedUsable s = false) (snapshot : FrontSnapshot) :
    rangeOutcome (setFrontAeb s snapshot) = ⟨true, none, 2⟩ := by
  obtain ⟨active, estimate⟩ := rangeOutcome_setFrontAeb s snapshot
  rw [aebGuard_fst, requested, Bool.true_or] at active
  have absent := estimateAcceleration_isSome s snapshot
  rw [unusable, Bool.and_false, ← estimate, Option.isSome_eq_false_iff, Option.isNone_iff_eq_none] at absent
  have mode : (rangeOutcome (setFrontAeb s snapshot)).rearControlMode = 2 := if_pos active
  generalize rangeOutcome (setFrontAeb s snapshot) = outcome at active absent mode
  cases outcome
  simp only at active absent mode
  rw [active, absent, mode]

theorem receiveFront_aeb1 (s : RuntimeControlState) {data : List UInt8} (long : frontAeb1Bytes ≤ data.length)
    (aeb1 : field data 0 4 = frontAebMagic) :
    (leField data 4 1 ≠ 1 ∧ receiveFront s data = s) ∨
    (leField data 4 1 = 1 ∧ ∃ snapshot : FrontSnapshot, receiveFront s data = setFrontAeb s snapshot ∧
      snapshot.tofM = tofOf data) := by
  unfold receiveFront
  rcases decodeFrontAeb_aeb1 long aeb1 with ⟨other, skipped⟩ | ⟨versioned, snapshot, decoded, carries⟩
  · rw [skipped]
    exact .inl ⟨other, rfl⟩
  · rw [decoded]
    exact .inr ⟨versioned, snapshot, rfl, carries.tof⟩

/-! ### All datagrams -/

/-- Bytes between two others do not move them. -/
theorem getD_between (head tail : List UInt8) {middle other : List UInt8} (sameLength : other.length = middle.length)
    {index : Nat} (outside : index < head.length ∨ head.length + middle.length ≤ index) :
    (head ++ other ++ tail).getD index 0 = (head ++ middle ++ tail).getD index 0 := by
  rcases outside with before | after
  · rw [List.append_assoc, List.append_assoc, List.getD_append _ _ _ _ before, List.getD_append _ _ _ _ before]
  · have whole : (head ++ other).length = (head ++ middle).length := by
      rw [List.length_append, List.length_append, sameLength]
    have long : (head ++ middle).length ≤ index := by
      rw [List.length_append]
      exact after
    rw [List.getD_append_right _ _ _ _ (whole.trans_le long), List.getD_append_right _ _ _ _ long, whole]

/-- A datagram whose valid bits are all clear. -/
def staleDatagram (tof : Nat) : List UInt8 :=
  (frontAebMagic ++ [1] ++ List.replicate 11 0) ++ leBytes 2 tof ++ List.replicate 4 0

theorem staleDatagram_variants (tof other : Nat) : TofVariants (staleDatagram tof) (staleDatagram other) where
  long := Nat.le_refl 22
  sameLength := rfl
  aeb1 := rfl
  invalid := by
    have clear : leField (staleDatagram tof) 5 1 = 0 := rfl
    rw [clear, Nat.zero_and]
  same index outside :=
    have sameLength : (leBytes 2 other).length = (leBytes 2 tof).length := rfl
    getD_between _ _ sameLength outside

/-- A distance that a store takes from a datagram whose valid bit is clear. -/
theorem receiveFront_staleDatagram (s : RuntimeControlState) {tof : Nat} (fits : tof < 256 ^ 2) :
    ∃ snapshot : FrontSnapshot, receiveFront s (staleDatagram tof) = setFrontAeb s snapshot ∧
      snapshot.tofM = Ieee.ofInt tof / (1000.0 : F64) := by
  have variants := staleDatagram_variants tof tof
  rcases receiveFront_aeb1 s variants.long variants.aeb1 with ⟨other, -⟩ | ⟨-, snapshot, received, distance⟩
  · exact absurd rfl other
  · refine ⟨snapshot, received, distance.trans ?_⟩
    have read : leField (staleDatagram tof) 16 2 = tof := leNat_leBytes fits
    rw [tofOf, read]

/-- A near distance brakes, whatever its valid bit. -/
theorem requested_of_ignores {s : RuntimeControlState} (ignores : IgnoresInvalidTof s) :
    s.requestedAebEnabled = true := by
  obtain ⟨near, received, distance⟩ := receiveFront_staleDatagram s (by decide : 100 < 256 ^ 2)
  obtain ⟨far, received', distance'⟩ := receiveFront_staleDatagram s (by decide : 1000 < 256 ^ 2)
  have same := ignores _ _ (staleDatagram_variants 100 1000)
  rw [received, received'] at same
  have active := congrArg RangeOutcome.effectiveAebActive same
  rw [(rangeOutcome_setFrontAeb s near).1, (rangeOutcome_setFrontAeb s far).1, aebGuard_fst, aebGuard_fst,
    distance, distance'] at active
  have brakes : ((Ieee.ofInt (100 : Nat) / (1000.0 : F64) : F64).isFinite &&
      decide ((0.0 : F64) < Ieee.ofInt (100 : Nat) / (1000.0 : F64)) &&
      decide (Ieee.ofInt (100 : Nat) / (1000.0 : F64) ≤ (0.18 : F64))) = true := by decide +kernel
  have nominal : ((Ieee.ofInt (1000 : Nat) / (1000.0 : F64) : F64).isFinite &&
      decide ((0.0 : F64) < Ieee.ofInt (1000 : Nat) / (1000.0 : F64)) &&
      decide (Ieee.ofInt (1000 : Nat) / (1000.0 : F64) ≤ (0.18 : F64))) = false := by decide +kernel
  rw [brakes, nominal, Bool.or_true, Bool.or_false] at active
  exact active.symm

/-- A distance makes an estimate, whatever its valid bit. -/
theorem unusable_of_ignores {s : RuntimeControlState} (ignores : IgnoresInvalidTof s) :
    rearSpeedUsable s = false := by
  obtain ⟨zero, received, distance⟩ := receiveFront_staleDatagram s (by decide : 0 < 256 ^ 2)
  obtain ⟨far, received', distance'⟩ := receiveFront_staleDatagram s (by decide : 1000 < 256 ^ 2)
  have same := ignores _ _ (staleDatagram_variants 0 1000)
  rw [received, received'] at same
  have estimates := congrArg (fun outcome => outcome.accEstimateMps2.isSome) same
  simp only [(rangeOutcome_setFrontAeb s zero).2, (rangeOutcome_setFrontAeb s far).2,
    estimateAcceleration_isSome, distance, distance'] at estimates
  have none : ((Ieee.ofInt (0 : Nat) / (1000.0 : F64) : F64).isFinite &&
      !decide (Ieee.ofInt (0 : Nat) / (1000.0 : F64) ≤ (0.0 : F64))) = false := by decide +kernel
  have some : ((Ieee.ofInt (1000 : Nat) / (1000.0 : F64) : F64).isFinite &&
      !decide (Ieee.ofInt (1000 : Nat) / (1000.0 : F64) ≤ (0.0 : F64))) = true := by decide +kernel
  rw [none, some, Bool.false_and, Bool.true_and] at estimates
  exact estimates.symm

/-- The store ignores every distance whose valid bit is clear exactly when braking
is requested and no usable speed is known. -/
theorem ignoresInvalidTof_iff (s : RuntimeControlState) :
    IgnoresInvalidTof s ↔ s.requestedAebEnabled = true ∧ rearSpeedUsable s = false := by
  constructor
  · intro ignores
    exact ⟨requested_of_ignores ignores, unusable_of_ignores ignores⟩
  · rintro ⟨requested, unusable⟩ first second variants
    have versions : leField second 4 1 = leField first 4 1 :=
      congrArg leNat (field_eq_of_same variants (by decide))
    have aeb1 : field second 0 4 = frontAebMagic := (field_eq_of_same variants (by decide)).trans variants.aeb1
    have long : frontAeb1Bytes ≤ second.length := variants.long.trans_eq variants.sameLength.symm
    rcases receiveFront_aeb1 s variants.long variants.aeb1 with ⟨other, skipped⟩ | ⟨versioned, snapshot, received, -⟩
    · rcases receiveFront_aeb1 s long aeb1 with ⟨-, skipped'⟩ | ⟨versioned', -⟩
      · rw [skipped, skipped']
      · exact absurd (versions.symm.trans versioned') other
    · rcases receiveFront_aeb1 s long aeb1 with ⟨other', -⟩ | ⟨-, snapshot', received', -⟩
      · exact absurd (versions.trans versioned) other'
      · rw [received, received', rangeOutcome_of_requested requested unusable,
          rangeOutcome_of_requested requested unusable]

/-- A store that has just started brakes for a distance that is not valid. -/
theorem stale_distance_brakes : ¬ IgnoresInvalidTof storeStart.state := by
  intro ignores
  cases requested_of_ignores ignores

end SelfDriving.Hpvc
