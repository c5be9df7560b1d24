import SelfDriving.Hpvc.AebBrakingProofs
import SelfDriving.Hpvc.AebRuntime
import SelfDriving.Hpvc.BrakeCommand
import SelfDriving.Middle.RoundTripProofs

/-! What comes back out of a brake request. The encoder masks every field and the decoder takes
a negative distance for none, so nothing is lost because of what a decision can be: a brake from
0 to 100, a confidence from 0 to 1, and no distance or a positive one that a float can hold. -/
namespace SelfDriving.Hpvc
open Ieee754 Python Bytes Middle

/-- A finite positive distance that a float can hold. -/
structure ThreatDistance (distanceM : F64) : Prop where
  positive : finitePositive distanceM = true
  fits : (distanceM.convert binary32).isFinite = true

/-- What the encoder relies on. -/
structure Encodable (decision : AebDecision) : Prop where
  brake : 0 ≤ decision.brakePercent ∧ decision.brakePercent ≤ 100
  confidence : UnitValue decision.confidence
  distance : decision.threatDistanceM = Ieee.nan ∨ ThreatDistance decision.threatDistanceM

/-- What a decision is to come back as. -/
def sentCommand (decision : AebDecision) (timestampUs : Int) : BrakeCommand where
  state := decision.state
  brakePercent := decision.brakePercent
  flags := decision.frontFresh.toNat + 2 * decision.middleFresh.toNat + 4 * decision.personInPath.toNat
  sequence := decision.sequence.toNat
  timestampUs := (timestampUs % 2 ^ 64).toNat
  threatDistanceM := if decision.threatDistanceM.isNaN then none else some (toSingle decision.threatDistanceM)
  confidence := toSingle decision.confidence
  reason := decision.reason

/-- The request is built, and it comes back. -/
def RoundTrips (decision : AebDecision) (timestampUs : Int) : Prop :=
  ∃ packet, encodeBrakeCommand decision timestampUs = .ok packet ∧
    decodeBrakeCommand packet = .ok (sentCommand decision timestampUs)

/-! ### The codec -/

/-- What a request carries, and where. -/
theorem brakePacket_values (decision : AebDecision) (timestampUs : Int) (distance confidence : F32) (crc : Nat) :
    let packet := brakeBody decision timestampUs distance confidence ++ leBytes 4 crc
    packet.length = brakePacketSize ∧ field packet 0 4 = brakeMagic ∧ packet.getD 4 0 = brakeVersion ∧
      field packet 5 1 = maskedBytes 1 decision.state.toNat ∧ field packet 6 1 = maskedBytes 1 decision.brakePercent ∧
      field packet 7 1 = maskedBytes 1 (brakeFlags decision) ∧ field packet 8 4 = maskedBytes 4 decision.sequence.toNat ∧
      field packet 12 8 = maskedBytes 8 timestampUs ∧ field packet 20 4 = singleBytes distance ∧
      field packet 24 4 = singleBytes confidence ∧ field packet 28 2 = maskedBytes 2 decision.reason.toNat ∧
      field packet 32 4 = leBytes 4 crc ∧ packet.take 32 = brakeBody decision timestampUs distance confidence := by
  simp only [brakeBody, maskedBytes, singleBytes, leBytes, List.cons_append, List.nil_append, brakeMagic]
  exact ⟨rfl, rfl, rfl, rfl, rfl, rfl, rfl, rfl, rfl, rfl, rfl, rfl, rfl⟩

/-- A number that fits its bytes comes back. -/
theorem leNat_maskedBytes_of_lt {width n : Nat} (fits : n < 256 ^ width) : leNat (maskedBytes width n) = n := by
  rw [leNat_maskedBytes_toNat]
  norm_cast
  exact Nat.mod_eq_of_lt fits

theorem aebState_sent (state : AebState) : aebState (leNat (maskedBytes 1 state.toNat)) = .ok state := by
  rw [leNat_maskedBytes_of_lt (by cases state <;> decide)]
  cases state <;> rfl

theorem reasonCode_sent (reason : ReasonCode) : reasonCode (leNat (maskedBytes 2 reason.toNat)) = .ok reason := by
  rw [leNat_maskedBytes_of_lt (by cases reason <;> decide)]
  cases reason <;> rfl

theorem brakePercent_sent {percent : Int} (bounds : 0 ≤ percent ∧ percent ≤ 100) :
    (leNat (maskedBytes 1 percent) : Int) = percent := by
  rw [leNat_maskedBytes]
  omega

theorem brakeFlags_sent (decision : AebDecision) : leNat (maskedBytes 1 (brakeFlags decision)) =
    decision.frontFresh.toNat + 2 * decision.middleFresh.toNat + 4 * decision.personInPath.toNat := by
  unfold brakeFlags
  cases decision.frontFresh <;> cases decision.middleFresh <;> cases decision.personInPath <;> rfl

theorem packSingle_of_fits_single {x : F64} (fits : (x.convert binary32).isFinite = true) :
    packSingle x = .ok (x.convert binary32) := by
  rw [packSingle, Ieee.not_isInf_of_isFinite fits, Bool.and_false, if_neg Bool.false_ne_true]

theorem ThreatDistance.not_toSingle_neg {distanceM : F64} (distance : ThreatDistance distanceM) :
    ¬ toSingle distanceM < (0.0 : F64) := by
  intro less
  have positive := distance.positive
  rw [finitePositive, Bool.and_eq_true, decide_eq_true_eq] at positive
  have above : 0 < distanceM.toRat := by simpa using positive.2.2.2
  have up : (toSingle distanceM).neg = false := by
    rw [toSingle, unpackSingle, Ieee.neg_convert, Ieee.neg_convert, Ieee.neg_of_pos above]
  have below := less.2.2
  rw [Ieee.toRat_zero_literal, Ieee.toRat, if_neg (by rw [up]; decide)] at below
  exact absurd (toSingle distanceM).absVal_nonneg (not_le.mpr below)

/-- The distance that is packed is read as the one that was meant. -/
theorem Encodable.distance_sent {decision : AebDecision} (encodable : Encodable decision) :
    let distance := if !decision.threatDistanceM.isFinite then -(1.0 : F64) else decision.threatDistanceM
    packSingle distance = .ok (distance.convert binary32) ∧
      (if toSingle distance < (0.0 : F64) then none else some (toSingle distance)) =
        (sentCommand decision 0).threatDistanceM := by
  intro distance
  simp only [distance, sentCommand]
  rcases encodable.distance with none | some
  · have minus : toSingle (-(1.0 : F64)) < (0.0 : F64) := by decide +kernel
    have packed : packSingle (-(1.0 : F64)) = .ok ((-(1.0 : F64)).convert binary32) := by decide +kernel
    rw [none, Ieee.not_isFinite_of_isNaN Ieee.isNaN_nan, Ieee.isNaN_nan, Bool.not_false, if_pos rfl, if_pos minus,
      if_pos rfl]
    exact ⟨packed, rfl⟩
  · have finite : decision.threatDistanceM.isFinite = true := (Bool.and_eq_true_iff.mp some.positive).1
    rw [finite, Bool.not_true, if_neg Bool.false_ne_true, if_neg some.not_toSingle_neg,
      isNaN_of_finitePositive some.positive, if_neg Bool.false_ne_true]
    exact ⟨packSingle_of_fits_single some.fits, rfl⟩

/-- Nothing of an encodable decision is lost. -/
theorem Encodable.roundTrips {decision : AebDecision} (encodable : Encodable decision) (timestampUs : Int) :
    RoundTrips decision timestampUs := by
  obtain ⟨distancePacked, distanceRead⟩ := encodable.distance_sent
  obtain ⟨confidencePacked, -⟩ := encodable.confidence.packable
  generalize distanceOf :
    (if !decision.threatDistanceM.isFinite then -(1.0 : F64) else decision.threatDistanceM) = distance at *
  refine ⟨_, by simp only [encodeBrakeCommand, distanceOf, distancePacked, confidencePacked]; rfl, ?_⟩
  generalize crcOf : (Crc32.crc32 (brakeBody decision timestampUs (distance.convert binary32)
    (decision.confidence.convert binary32))).toNat = crc
  have fits : crc < 256 ^ 4 := crcOf ▸ UInt32.toNat_lt _
  obtain ⟨size, magic, version, state, percent, flags, sequence, timestamp, distanceSent, confidenceSent, reason, sealed,
    whole⟩ := brakePacket_values decision timestampUs (distance.convert binary32) (decision.confidence.convert binary32) crc
  have sequenceOf : leNat (maskedBytes 4 decision.sequence.toNat) = decision.sequence.toNat :=
    leNat_maskedBytes_of_lt decision.sequence.toNat_lt
  have timestampOf : leNat (maskedBytes 8 timestampUs) = (timestampUs % 2 ^ 64).toNat :=
    leNat_maskedBytes_toNat 8 timestampUs
  simp only [decodeBrakeCommand, leField, singleAt, size, magic, version, state, percent, flags, sequence, timestamp,
    distanceSent, confidenceSent, reason, sealed, whole, crcOf, leNat_leBytes fits, aebState_sent, reasonCode_sent,
    brakePercent_sent encodable.brake, brakeFlags_sent, sequenceOf, timestampOf, ofBits_singleBytes]
  rw [if_neg (not_not.mpr rfl), if_neg (not_not.mpr rfl), if_neg (by decide)]
  change Except.ok { sentCommand decision timestampUs with
    threatDistanceM := if toSingle distance < (0.0 : F64) then none else some (toSingle distance) } = _
  rw [distanceRead]
  rfl

/-! ### What a decision can be -/

/-- What the result of a call can have for a distance. -/
def Reported (distanceM : F64) : Prop := distanceM = Ieee.nan ∨ ThreatDistance distanceM

/-- Every valid reading of the frame fits a float. -/
structure Holdable (front : FrontSensorFrame) : Prop where
  tof : front.tofValid = true → (front.tofFrontM.convert binary32).isFinite = true
  left : front.leftValid = true → (front.ultrasonicLeftM.convert binary32).isFinite = true
  right : front.rightValid = true → (front.ultrasonicRightM.convert binary32).isFinite = true

theorem Holdable.candidate {front : FrontSensorFrame} (holdable : Holdable front) (person : Bool) (confidence : F64) :
    ∀ candidate ∈ candidates front person confidence, ThreatDistance candidate.distanceM := by
  intro candidate member
  exact ⟨finitePositive_candidate front person confidence candidate member,
    candidate_distance (fun distanceM => (distanceM.convert binary32).isFinite = true) holdable.tof holdable.left
      holdable.right person confidence candidate member⟩

section
variable (config : AebConfig)

theorem reported_consider (person : Bool) {best : Best} {candidate : Candidate} (reported : Reported best.distance)
    (distance : ThreatDistance candidate.distanceM) : Reported (consider config person best candidate).distance := by
  unfold consider
  split
  · exact reported
  · dsimp only
    split
    · exact .inr distance
    · exact reported

theorem reported_foldl (person : Bool) {readings : List Candidate} {best : Best} (reported : Reported best.distance)
    (distances : ∀ candidate ∈ readings, ThreatDistance candidate.distanceM) :
    Reported (readings.foldl (consider config person) best).distance := by
  induction readings generalizing best with
  | nil => exact reported
  | cons candidate rest ih =>
    exact ih (reported_consider config person reported (distances candidate (by simp)))
      fun other member => distances other (by simp [member])

theorem reported_assess {front : Option FrontSensorFrame} (holdable : ∀ frame, front = some frame → Holdable frame)
    (person : Bool) (confidence : F64) : Reported (assess config front person confidence).distance := by
  have severe : Reported (mostSevere config front person confidence).distance := by
    refine reported_foldl config person (.inl rfl) ?_
    cases front with
    | none =>
      intro candidate member
      cases member
    | some front => exact (holdable front rfl).candidate person confidence
  unfold assess warnOfPerson
  split
  · exact severe
  · exact severe

theorem applyHold_distance (now : F64) (best : Best) (controller : AebController) :
    (applyHold config now best controller).2.distance = best.distance := by
  unfold applyHold
  split_ifs
  · rfl
  · rfl
  · rfl

/-- A decision is encodable when the distance that it reports is. -/
theorem encodable_decision (controller : AebController) {best : Best} (reported : Reported best.distance)
    (frontFresh middleFresh person : Bool) :
    Encodable (decision controller best frontFresh middleFresh person) := by
  unfold decision
  refine ⟨?_, ?_, reported⟩
  · dsimp only
    omega
  · dsimp only
    exact unitValue_clamp best.confidence

theorem encodable_decide (controller : AebController) {input : AebInput}
    (holdable : ∀ front, input.front = some front → Holdable front) : Encodable (decide config controller input).2 := by
  have fresh : ∀ front, freshFront config input = some front → Holdable front := by
    intro front found
    exact holdable front (Option.mem_filter_iff.mp found).1
  unfold decide
  dsimp only
  split_ifs
  · exact encodable_decision _ (.inl rfl) _ _ _
  · exact encodable_decision _ (.inl rfl) _ _ _
  · refine encodable_decision _ ?_ _ _ _
    rw [applyHold_distance]
    exact reported_assess config fresh _ _

end

/-! ### Decoded frames -/

/-- A single-precision number fits a float. -/
theorem isFinite_unpackSingle {x : F32} (finite : (unpackSingle x).isFinite = true) :
    ((unpackSingle x).convert binary32).isFinite = true := by
  have own : x.isFinite = true := (Ieee.isFinite_convert widens_binary x).symm.trans finite
  have value := (Ieee.convert_of_isFinite widens_binary own).2
  exact Ieee.isFinite_iff.mpr ((Ieee.absVal_convert_le finite (Ieee.isNaN_of_isFinite own) value.le).trans_lt
    (Ieee.isFinite_iff.mp own))

/-- So does a distance in tenths of a centimetre. -/
theorem isFinite_cmX10ToM {value : Nat} (small : value < 256 ^ 2) : ((cmX10ToM value).convert binary32).isFinite = true := by
  have top : (Ieee.ofInt (256 ^ 2) : F64).isFinite = true := by decide +kernel
  have thousand : (1000.0 : F64).isFinite = true ∧ (1000.0 : F64).mag ≠ 0 ∧ (1000.0 : F64).absVal = 1000 := by
    decide +kernel
  have whole : (Ieee.ofInt value : F64).absVal ≤ (Ieee.ofInt (256 ^ 2) : F64).absVal := by
    refine Ieee.absVal_ofRat_mono (abs_nonneg _) ?_ _ _
    rw [abs_of_nonneg (by positivity), abs_of_nonneg (by positivity)]
    exact_mod_cast small.le
  have finite : (Ieee.ofInt value : F64).isFinite = true :=
    Ieee.isFinite_iff.mpr (whole.trans_lt (Ieee.isFinite_iff.mp top))
  have bound : (66.0 : F32).isNaN = false ∧
      (Ieee.ofRat false ((Ieee.ofInt (256 ^ 2) : F64).absVal / 1000) : F64).absVal ≤ (66.0 : F32).absVal ∧
      (66.0 : F32).absVal < Ieee.limit binary32 := by
    decide +kernel
  have metres : (cmX10ToM value).isFinite = true ∧ (cmX10ToM value).absVal ≤ (66.0 : F32).absVal := by
    rw [cmX10ToM, Ieee.div_of_isFinite finite thousand.1 thousand.2.1]
    have scaled : (Ieee.ofInt value : F64).absVal / (1000.0 : F64).absVal ≤
        (Ieee.ofInt (256 ^ 2) : F64).absVal / 1000 := by
      rw [thousand.2.2]
      gcongr
    have nonneg : 0 ≤ (Ieee.ofInt value : F64).absVal / (1000.0 : F64).absVal :=
      div_nonneg (Ieee.absVal_nonneg _) (Ieee.absVal_nonneg _)
    exact ⟨Ieee.isFinite_ofRat nonneg scaled (by decide +kernel) _,
      (Ieee.absVal_ofRat_mono nonneg scaled _ false).trans bound.2.1⟩
  exact Ieee.isFinite_iff.mpr ((Ieee.absVal_convert_le metres.1 bound.1 metres.2).trans_lt bound.2.2)

/-- Whatever the datagram, its readings fit. -/
theorem holdable_of_decoded {data : List UInt8} {arrivalTime : F64} {front : FrontSensorFrame}
    (decoded : decodeFrontPacket data arrivalTime = .ok front) : Holdable front := by
  have single (offset : Nat) (positive : finitePositive (singleAt data offset) = true) :
      ((singleAt data offset).convert binary32).isFinite = true :=
    isFinite_unpackSingle (Bool.and_eq_true_iff.mp positive).1
  have tenths (offset : Nat) : ((cmX10ToM (leField data offset 2)).convert binary32).isFinite = true :=
    isFinite_cmX10ToM (leField_lt data offset 2)
  unfold decodeFrontPacket decodeFrontAeb1 decodeFrontLegacy at decoded
  split_ifs at decoded
  · obtain rfl := Except.ok.inj decoded
    exact ⟨fun _ => tenths 16, fun _ => tenths 18, fun _ => tenths 20⟩
  · obtain rfl := Except.ok.inj decoded
    exact ⟨fun valid => single 8 (Bool.and_eq_true_iff.mp valid).2,
      fun valid => single 0 (Bool.and_eq_true_iff.mp valid).2, fun valid => single 4 (Bool.and_eq_true_iff.mp valid).2⟩
  · obtain rfl := Except.ok.inj decoded
    exact ⟨fun valid => single 8 (Bool.and_eq_true_iff.mp valid).2,
      fun valid => single 0 (Bool.and_eq_true_iff.mp valid).2, fun valid => single 4 (Bool.and_eq_true_iff.mp valid).2⟩

/-! ### Runs -/

/-- The frame comes out of the decoder, if there is one. -/
def FrontDecoded (front : Option FrontSensorFrame) : Prop :=
  ∀ frame, front = some frame → ∃ data arrivalTime, decodeFrontPacket data arrivalTime = .ok frame

theorem FrontDecoded.receive {latest next : Latest} (kept : FrontDecoded latest.front) {datagram : Datagram}
    (received : receive latest datagram = .ok next) : FrontDecoded next.front := by
  cases datagram with
  | middle data now =>
    rw [Hpvc.receive] at received
    rcases taken : decodeMiddlePacket data now with error | frame
    · rw [taken] at received
      cases error <;> cases received
      exact kept
    · rw [taken] at received
      cases received
      exact kept
  | front data now =>
    rw [Hpvc.receive] at received
    rcases taken : decodeFrontPacket data now with error | frame
    · rw [taken] at received
      cases error <;> cases received
      exact kept
    · rw [taken] at received
      cases received
      rintro _ ⟨⟩
      exact ⟨data, now, taken⟩

theorem FrontDecoded.receiveAll {latest after : Latest} (kept : FrontDecoded latest.front) {datagrams : List Datagram}
    (received : receiveAll latest datagrams = .ok after) : FrontDecoded after.front := by
  induction datagrams generalizing latest with
  | nil =>
    cases received
    exact kept
  | cons datagram rest ih =>
    rw [Hpvc.receiveAll] at received
    rcases first : Hpvc.receive latest datagram with error | next
    · rw [first] at received
      cases received
    · rw [first] at received
      exact ih (kept.receive first) received

/-- The program's loop decides from decoded frames only. -/
theorem FrontDecoded.aebLoop {config : AebConfig} {state after : Latest × AebController} {datagrams : List Datagram}
    {now : F64} {decision : AebDecision} (kept : FrontDecoded state.1.front)
    (ran : aebLoop config state datagrams now = .ok (after, decision)) :
    FrontDecoded after.1.front ∧
      decision = (aeb config).output state.2 ⟨after.1.front, after.1.middle, now⟩ := by
  rw [Hpvc.aebLoop] at ran
  rcases all : Hpvc.receiveAll state.1 datagrams with error | latest
  · rw [all] at ran
    cases ran
  · rw [all] at ran
    cases ran
    exact ⟨kept.receiveAll all, rfl⟩

/-- Every front frame of a run comes out of the decoder, as the program's frames do. -/
def FramesDecoded (inputs : List AebInput) : Prop :=
  ∀ input ∈ inputs, FrontDecoded input.front

theorem encodable_of_run (config : AebConfig) {inputs : List AebInput} (decoded : FramesDecoded inputs)
    {decision : AebDecision} (made : decision ∈ (aeb config).outputs aebStart inputs) : Encodable decision := by
  obtain ⟨before, input, rest, split, rfl⟩ := (aeb config).exists_of_mem_outputs made
  refine encodable_decide config _ fun front found => ?_
  obtain ⟨data, arrivalTime, taken⟩ := decoded input (by simp [split]) front found
  exact holdable_of_decoded taken

/-- Every decision of every run comes back from its request, at any time. -/
theorem brake_request_round_trip (config : AebConfig) {inputs : List AebInput} (decoded : FramesDecoded inputs)
    {decision : AebDecision} (made : decision ∈ (aeb config).outputs aebStart inputs) (timestampUs : Int) :
    RoundTrips decision timestampUs ∧
      (sentCommand decision timestampUs).flags.testBit 0 = decision.frontFresh ∧
      (sentCommand decision timestampUs).flags.testBit 1 = decision.middleFresh ∧
      (sentCommand decision timestampUs).flags.testBit 2 = decision.personInPath ∧
      (0.0 : F64) ≤ toSingle decision.confidence ∧ toSingle decision.confidence ≤ (1.0 : F64) := by
  have encodable := encodable_of_run config decoded made
  have flags : (sentCommand decision timestampUs).flags.testBit 0 = decision.frontFresh ∧
      (sentCommand decision timestampUs).flags.testBit 1 = decision.middleFresh ∧
      (sentCommand decision timestampUs).flags.testBit 2 = decision.personInPath := by
    simp only [sentCommand]
    cases decision.frontFresh <;> cases decision.middleFresh <;> cases decision.personInPath <;> decide
  exact ⟨encodable.roundTrips timestampUs, flags.1, flags.2.1, flags.2.2, encodable.confidence.packable.2.between⟩

/-- A packet of the FRONT controller: 15 cm ahead, and nothing on the sides. -/
def closeAhead : List UInt8 :=
  [0x41, 0x45, 0x42, 0x31, 1, 4, 0, 0, 1, 0, 0, 0, 100, 0, 0, 0, 150, 0, 0, 0, 0, 0]

theorem brake_request_of_closeAhead :
    ∃ front, decodeFrontPacket closeAhead 100.0 = .ok front ∧
      RoundTrips ((aeb {}).output aebStart ⟨some front, none, 100.0⟩) 123 := by
  obtain ⟨front, decoded⟩ : ∃ front, decodeFrontPacket closeAhead 100.0 = .ok front := ⟨_, rfl⟩
  have made : (aeb {}).output aebStart ⟨some front, none, 100.0⟩ ∈
      (aeb {}).outputs aebStart [⟨some front, none, 100.0⟩] := List.mem_singleton.mpr rfl
  refine ⟨front, decoded, (brake_request_round_trip {} ?_ made 123).1⟩
  intro input member other found
  obtain rfl := List.mem_singleton.mp member
  obtain rfl := Option.some.inj found
  exact ⟨closeAhead, 100.0, decoded⟩

end SelfDriving.Hpvc
