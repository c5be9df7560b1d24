import SelfDriving.Front.SensorRangeProofs
import SelfDriving.Hpvc.AebBrakingProofs
import SelfDriving.Hpvc.FrontWireProofs

/-! From the range sensors to the braking decision: what the HPVC takes for a distance has
been measured. -/
namespace SelfDriving.Hpvc
open Ieee754 Front

/-- A distance in metres that a range sensor measures. -/
def DistanceRange (distanceM : F64) : Prop := (0.02 : F64) ≤ distanceM ∧ distanceM ≤ (5.0 : F64)

/-! ### Metres -/

theorem metres_eq (cmX10 : UInt16) :
    metres cmX10 = .ofRat false ((Ieee.ofRat false cmX10.toNat : F64).absVal / (1000.0 : F64).absVal) := by
  have nonneg : (0 : ℚ) ≤ ((cmX10.toNat : Int) : ℚ) := by exact_mod_cast Nat.zero_le _
  have whole : (Ieee.ofInt cmX10.toNat : F64) = .ofRat false cmX10.toNat := by
    rw [Ieee.ofInt, Ieee.round, abs_of_nonneg nonneg, decide_eq_false (not_lt.mpr nonneg), ite_self, Int.cast_natCast]
  have finite : (Ieee.ofRat false cmX10.toNat : F64).isFinite = true :=
    Ieee.isFinite_ofRat (Nat.cast_nonneg _) (Nat.cast_le.mpr (Nat.le_of_lt cmX10.toNat_lt)) (by decide +kernel) false
  have positive : (1000.0 : F64).neg = false := by decide +kernel
  rw [metres, whole, Ieee.div_of_isFinite finite (by decide +kernel) (by decide +kernel), positive]
  rfl

theorem metres_mono {near far : UInt16} (le : near.toNat ≤ far.toNat) : metres near ≤ metres far := by
  have words : (Ieee.ofRat false near.toNat : F64).absVal ≤ (Ieee.ofRat false far.toNat : F64).absVal :=
    Ieee.absVal_ofRat_mono (Nat.cast_nonneg _) (Nat.cast_le.mpr le) false false
  have quotients := div_le_div_of_nonneg_right words (1000.0 : F64).absVal_nonneg
  rw [metres_eq, metres_eq]
  refine ⟨Ieee.isNaN_ofRat _ _, Ieee.isNaN_ofRat _ _, ?_⟩
  exact Ieee.absVal_ofRat_mono (div_nonneg (Ieee.absVal_nonneg _) (Ieee.absVal_nonneg _)) quotients false false

theorem distanceRange_metres {cmX10 : UInt16} (low : 20 ≤ cmX10.toNat) (high : cmX10.toNat ≤ 5000) :
    DistanceRange (metres cmX10) := by
  have nearest : (0.02 : F64) ≤ metres 20 := by decide +kernel
  have farthest : metres 5000 ≤ (5.0 : F64) := by decide +kernel
  have above : metres 20 ≤ metres cmX10 := metres_mono low
  have below : metres cmX10 ≤ metres 5000 := metres_mono high
  exact ⟨Ieee.le_trans nearest above, Ieee.le_trans below farthest⟩

/-- The diagnoses would be no distance that a sensor measures. -/
theorem not_distanceRange_diag : ∀ code ∈ ultraDiags, ¬ DistanceRange (metres code) := by
  have none : ¬ (0.02 : F64) ≤ metres ultraDiagOk := by decide +kernel
  have past : ¬ metres ultraDiagNoEchoRise ≤ (5.0 : F64) := by decide +kernel
  have far (code : UInt16) (le : ultraDiagNoEchoRise.toNat ≤ code.toNat) : ¬ DistanceRange (metres code) :=
    fun range => past (Ieee.le_trans (metres_mono le) range.2)
  intro code member
  simp only [ultraDiags, List.mem_cons, List.not_mem_nil, or_false] at member
  rcases member with rfl | rfl | rfl | rfl
  · exact fun range => none range.1
  · exact far _ (by decide)
  · exact far _ (by decide)
  · exact far _ (by decide)

/-! ### Frames -/

/-- A mark, as the C program and as the Python program test it. -/
theorem testBit_mark (mask bit : UInt8) {place : Nat} (mark : bit.toNat = 2 ^ place) :
    (mask.toNat : Int).testBit place = Decidable.decide (mask &&& bit ≠ 0) := by
  change mask.toNat.testBit place = _
  have masked : (mask &&& bit).toNat = (mask.toNat.testBit place).toNat * 2 ^ place := by
    rw [UInt8.toNat_and, mark, Nat.and_two_pow]
  have zero : mask &&& bit = 0 ↔ (mask.toNat.testBit place).toNat * 2 ^ place = 0 := by
    rw [← masked, ← UInt8.toNat_inj]
    rfl
  cases set : mask.toNat.testBit place with
  | false =>
    rw [set, Bool.toNat_false, zero_mul] at zero
    exact (decide_eq_false (not_not_intro (zero.mpr rfl))).symm
  | true =>
    rw [set, Bool.toNat_true, one_mul] at zero
    have some : mask &&& bit ≠ 0 := fun clear => absurd (zero.mp clear) (Nat.two_pow_pos place).ne'
    exact (decide_eq_true some).symm

theorem testBit_validMask (frame : Frame) :
    (frame.validMask.toNat : Int).testBit validLeft = Sensor.left.valid frame ∧
      (frame.validMask.toNat : Int).testBit validRight = Sensor.right.valid frame ∧
      (frame.validMask.toNat : Int).testBit validTofBit = Sensor.tof.valid frame :=
  ⟨testBit_mark _ validUltraLeft rfl, testBit_mark _ validUltraRight rfl, testBit_mark _ validTof rfl⟩

/-- What a valid reading of a decoded frame is. -/
theorem distanceRange_decodedFrame {frame : Frame} (sound : SoundFrame frame) (arrivalTime : F64) :
    ((decodedFrame frame arrivalTime).tofValid = true → DistanceRange (decodedFrame frame arrivalTime).tofFrontM) ∧
      ((decodedFrame frame arrivalTime).leftValid = true →
        DistanceRange (decodedFrame frame arrivalTime).ultrasonicLeftM) ∧
      ((decodedFrame frame arrivalTime).rightValid = true →
        DistanceRange (decodedFrame frame arrivalTime).ultrasonicRightM) := by
  obtain ⟨left, right, tof⟩ := testBit_validMask frame
  refine ⟨fun valid => ?_, fun valid => ?_, fun valid => ?_⟩
  · obtain ⟨low, high⟩ := sound.tofValid (tof.symm.trans (Bool.and_eq_true_iff.mp valid).1)
    exact distanceRange_metres (by omega) (by omega)
  · obtain ⟨low, high⟩ := sound.leftValid (left.symm.trans (Bool.and_eq_true_iff.mp valid).1)
    exact distanceRange_metres low high
  · obtain ⟨low, high⟩ := sound.rightValid (right.symm.trans (Bool.and_eq_true_iff.mp valid).1)
    exact distanceRange_metres low high

/-! ### Decisions -/

/-- The distance of a result is none, or one of a reading. -/
def Judged (distanceM : F64) : Prop := distanceM.isNaN = true ∨ DistanceRange distanceM

section
variable (config : AebConfig)

theorem judged_consider (person : Bool) {best : Best} (judged : Judged best.distance) {candidate : Candidate}
    (range : DistanceRange candidate.distanceM) : Judged (consider config person best candidate).distance := by
  unfold consider
  dsimp only
  split_ifs
  · exact judged
  · exact .inr range
  · exact judged

theorem judged_foldl_consider (person : Bool) {readings : List Candidate} {best : Best} (judged : Judged best.distance)
    (range : ∀ candidate ∈ readings, DistanceRange candidate.distanceM) :
    Judged (readings.foldl (consider config person) best).distance := by
  induction readings generalizing best with
  | nil => exact judged
  | cons candidate rest ih =>
    obtain ⟨first, later⟩ := List.forall_mem_cons.mp range
    exact ih (judged_consider config person judged first) later

theorem judged_mostSevere {front : Option FrontSensorFrame} {person : Bool} {confidence : F64}
    (range : ∀ frame, front = some frame → ∀ candidate ∈ candidates frame person confidence,
      DistanceRange candidate.distanceM) : Judged (mostSevere config front person confidence).distance := by
  apply judged_foldl_consider config person (.inl Ieee.isNaN_nan)
  cases front with
  | none => exact fun candidate member => nomatch member
  | some frame => exact range frame rfl

theorem distance_warnOfPerson (person : Bool) (confidence : F64) (best : Best) :
    (warnOfPerson person confidence best).distance = best.distance := by
  unfold warnOfPerson
  split <;> rfl

theorem distance_applyHold (now : F64) (best : Best) (controller : AebController) :
    (applyHold config now best controller).2.distance = best.distance := by
  unfold applyHold
  split
  · rfl
  · split <;> rfl

theorem judged_output (controller : AebController) {input : AebInput}
    (range : ∀ front, freshFront config input = some front → ∀ person confidence,
      ∀ candidate ∈ candidates front person confidence, DistanceRange candidate.distanceM) :
    Judged ((aeb config).output controller input).threatDistanceM := by
  simp only [Machine.output, aeb, decide]
  split
  · exact .inl Ieee.isNaN_nan
  split
  · exact .inl Ieee.isNaN_nan
  · change Judged (applyHold config input.now _ _).2.distance
    rw [distance_applyHold, assess, distance_warnOfPerson]
    exact judged_mostSevere config fun front fresh => range front fresh _ _

end

/-- The front frame of an input is decoded from the packet of a frame that was sent. -/
def Relayed (sent : List Frame) (input : AebInput) : Prop :=
  ∀ front, input.front = some front → ∃ frame ∈ sent, ∃ arrivalTime,
    decodeFrontPacket (udpPayload (buildPacket frame)) arrivalTime = .ok front

/-- Whatever the sensors of FRONT answer and whenever: each frame's bits tell what its fields hold, and a
controller that is fed with these frames, in any order and with any delay, looks at no diagnosis as
a distance and reports no distance that a sensor does not measure. -/
theorem sensor_to_decision_sound (stmFrequency : F32) (bootTicks : Nat) (loops : List Loop) :
    let sent := (sensorNode stmFrequency).outputs (sensorInit bootTicks) loops
    (∀ frame ∈ sent,
      (frame.validMask &&& validUltraLeft ≠ 0 →
        20 ≤ frame.ultrasonicLeftCmX10.toNat ∧ frame.ultrasonicLeftCmX10.toNat ≤ 5000) ∧
      (frame.validMask &&& validUltraRight ≠ 0 →
        20 ≤ frame.ultrasonicRightCmX10.toNat ∧ frame.ultrasonicRightCmX10.toNat ≤ 5000) ∧
      (frame.validMask &&& validTof ≠ 0 → 30 ≤ frame.tofFrontCmX10.toNat ∧ frame.tofFrontCmX10.toNat ≤ 4000) ∧
      (frame.validMask &&& validUltraLeft = 0 → frame.ultrasonicLeftCmX10 ∈ [0, 0xF001, 0xF002, 0xF003]) ∧
      (frame.validMask &&& validUltraRight = 0 → frame.ultrasonicRightCmX10 ∈ [0, 0xF001, 0xF002, 0xF003])) ∧
    ∀ (config : AebConfig) (inputs : List AebInput), (∀ input ∈ inputs, Relayed sent input) →
      (∀ decision ∈ (aeb config).outputs aebStart inputs, decision.threatDistanceM.isNaN = true ∨
        ((0.02 : F64) ≤ decision.threatDistanceM ∧ decision.threatDistanceM ≤ (5.0 : F64))) ∧
      ∀ input ∈ inputs, ∀ front, input.front = some front → ∀ person confidence,
        ∀ candidate ∈ candidates front person confidence, ∀ code ∈ [0, 0xF001, 0xF002, 0xF003],
          candidate.distanceM ≠ metres code := by
  intro sent
  have sound : ∀ frame ∈ sent, SoundFrame frame := fun frame => soundFrame_of_sent stmFrequency
  refine ⟨fun frame member => ?_, fun config inputs relayed => ?_⟩
  · have whole := sound frame member
    exact ⟨fun set => whole.leftValid (decide_eq_true set), fun set => whole.rightValid (decide_eq_true set),
      fun set => whole.tofValid (decide_eq_true set),
      fun clear => whole.leftClear (decide_eq_false (not_not_intro clear)),
      fun clear => whole.rightClear (decide_eq_false (not_not_intro clear))⟩
  -- A relayed frame is the decoded frame of one that was sent.
  have range : ∀ input ∈ inputs, ∀ front, input.front = some front → ∀ person confidence,
      ∀ candidate ∈ candidates front person confidence, DistanceRange candidate.distanceM := by
    intro input member front here person confidence
    obtain ⟨frame, from_sent, arrivalTime, decoded⟩ := relayed input member front here
    rw [udpPayload_buildPacket, decodeFrontPacket_sensorPayload] at decoded
    obtain rfl : decodedFrame frame arrivalTime = front := by
      cases decoded
      rfl
    obtain ⟨tof, left, right⟩ := distanceRange_decodedFrame (sound frame from_sent) arrivalTime
    exact candidate_distance DistanceRange tof left right person confidence
  refine ⟨fun decision member => ?_, fun input member front here person confidence candidate seen code diag same => ?_⟩
  · obtain ⟨before, input, rest, split, rfl⟩ := (aeb config).exists_of_mem_outputs member
    refine judged_output config _ fun front fresh => range input ?_ front (Option.filter_eq_some_iff.mp fresh).1
    rw [split]
    exact List.mem_append_right _ List.mem_cons_self
  · exact not_distanceRange_diag code diag (same ▸ range input member front here person confidence candidate seen)

/-- The decision from the first frame with an echo in it. -/
theorem first_echo_decided :
    let frame := (sensorNode stmFrequency).output (sensorInit 0) (dyingLoop 0)
    let decision := (aeb {}).output aebStart ⟨some (decodedFrame frame 0.0), none, 0.0⟩
    decision.threatDistanceM.isNaN = true ∨
      ((0.02 : F64) ≤ decision.threatDistanceM ∧ decision.threatDistanceM ≤ (5.0 : F64)) := by
  intro frame decision
  have relayed : Relayed ((sensorNode stmFrequency).outputs (sensorInit 0) [dyingLoop 0])
      ⟨some (decodedFrame frame 0.0), none, 0.0⟩ := by
    rintro front ⟨⟩
    refine ⟨frame, List.mem_singleton_self frame, 0.0, ?_⟩
    rw [udpPayload_buildPacket, decodeFrontPacket_sensorPayload]
  have sound := (sensor_to_decision_sound stmFrequency 0 [dyingLoop 0]).2 {}
    [⟨some (decodedFrame frame 0.0), none, 0.0⟩] fun input member => List.mem_singleton.mp member ▸ relayed
  exact sound.1 decision (List.mem_singleton_self decision)

end SelfDriving.Hpvc
