import SelfDriving.Hpvc.AebRuntime
import SelfDriving.Middle.RoundTripProofs
import SelfDriving.Middle.Service

/-! What becomes of the detected persons on their way from the camera to the braking decision.
The packet pads them to three, counts them and rounds their values, and the decision finds the
most confident one ahead; only the rounding can be seen in the result. -/
namespace SelfDriving.Hpvc
open Ieee754 Python Middle

/-- A detection as the detector makes it. -/
structure Detected (person : PersonDetection) : Prop where
  valid : person.valid = 1.0
  within : ∀ value ∈ person.values, (0.0 : F64) ≤ value ∧ value ≤ (1.0 : F64)

/-- A detection that is confident enough and ahead, with its values as a wire carries them. -/
def InGate (config : AebConfig) (wire : F64 → F64) (person : PersonDetection) : Prop :=
  config.personConfidenceMin ≤ wire person.confidence ∧
    config.personCenterGateMin ≤ wire person.centerXNorm ∧ wire person.centerXNorm ≤ config.personCenterGateMax

/-- What the decision is to make of some detections. -/
structure FindsPerson (config : AebConfig) (wire : F64 → F64) (detections : List PersonDetection)
    (result : Bool × F64) : Prop where
  found : result.1 = true ↔ ∃ person ∈ detections, InGate config wire person
  best : result.1 = true → ∃ person ∈ detections, InGate config wire person ∧ result.2 = wire person.confidence
  largest : ∀ person ∈ detections, InGate config wire person → wire person.confidence ≤ result.2
  none : result.1 = false → result.2 = 0.0

/-- A wire that keeps values between 0 and 1. -/
structure KeepsUnit (wire : F64 → F64) : Prop where
  unit : ∀ x, UnitValue x → UnitValue (wire x)
  zero : wire 0.0 = 0.0
  negZero : wire (-(0.0 : F64)) = -(0.0 : F64)
  one : wire 1.0 = 1.0

theorem keepsUnit_id : KeepsUnit id := ⟨fun _ unit => unit, rfl, rfl, rfl⟩

theorem keepsUnit_toSingle : KeepsUnit toSingle :=
  ⟨fun _ unit => unit.packable.2, toSingle_zero, by decide +kernel, toSingle_one⟩

/-- A person on a wire. -/
def carriedPerson (wire : F64 → F64) (person : PersonDetection) : PersonDetection where
  valid := wire (sanitizePerson person).valid
  confidence := wire (sanitizePerson person).confidence
  centerXNorm := wire (sanitizePerson person).centerXNorm
  centerYNorm := wire (sanitizePerson person).centerYNorm
  widthNorm := wire (sanitizePerson person).widthNorm
  heightNorm := wire (sanitizePerson person).heightNorm

/-- The frame that a packet becomes when the wire carries its values in some way. -/
def carriedFrame (wire : F64 → F64) (packet : PerceptionPacket) (arrivalTime : F64) : MiddleFrame where
  sequence := packet.sequence % 2 ^ 32
  arrivalTime := arrivalTime
  flags := packet.flags % 2 ^ 8
  sideLeftM := wire packet.sideLeftDistanceM
  sideRightM := wire packet.sideRightDistanceM
  persons := (packet.persons.take maxPersonDetections).map (carriedPerson wire) ++
    List.replicate (maxPersonDetections - packet.persons.length) noPerson

/-! ### The wire -/

theorem packable_of_packValues {values : List F64} {bytes : List UInt8} (packed : packValues values = .ok bytes) :
    ∀ value ∈ values, ∃ single, packSingle value = .ok single := by
  induction values generalizing bytes with
  | nil =>
    intro value member
    cases member
  | cons first rest ih =>
    rw [packValues] at packed
    cases head : packSingle first with
    | error error =>
      rw [head] at packed
      cases packed
    | ok single =>
      rw [head] at packed
      cases tail : packValues rest with
      | error error =>
        rw [tail] at packed
        cases packed
      | ok bytes =>
        intro value member
        rcases List.mem_cons.mp member with rfl | later
        · exact ⟨single, head⟩
        · exact ih tail value later

/-- A packet that is built can be. -/
theorem packable_of_packPacket {packet : PerceptionPacket} {data : List UInt8} (built : packPacket packet = .ok data) :
    Packable packet := by
  unfold packPacket packWith at built
  cases packed : packValues (payloadValues packet) with
  | error error =>
    rw [packed] at built
    cases built
  | ok bytes =>
    intro value member
    refine packable_of_packValues packed value ?_
    rw [payloadValues_eq]
    exact List.mem_append_left _ member

/-- The real wire rounds. -/
theorem decodeMiddlePacket_packPacket {packet : PerceptionPacket} (counted : 0 ≤ packet.personCount) {data : List UInt8}
    (built : packPacket packet = .ok data) (arrivalTime : F64) :
    decodeMiddlePacket data arrivalTime = .ok (carriedFrame toSingle packet arrivalTime) := by
  obtain ⟨bytes, packs, unpacks, -⟩ := unpackPacket_packPacket packet counted (packable_of_packPacket built)
  obtain rfl := Except.ok.inj (packs.symm.trans built)
  rw [decodeMiddlePacket, unpacks]
  rfl

/-! ### Sanitizing -/

/-- A value from 0 to 1 is sanitized, or it is the negative zero. -/
theorem unitValue_or_negZero {x : F64} (low : (0.0 : F64) ≤ x) (high : x ≤ (1.0 : F64)) :
    UnitValue x ∨ x = -(0.0 : F64) := by
  have above := low.2.2
  have below := high.2.2
  rw [Ieee.toRat_zero_literal, Ieee.toRat] at above
  rw [unitValue_one.toRat, absVal_one_literal, Ieee.toRat] at below
  cases sign : x.neg with
  | false =>
    rw [sign, if_neg Bool.false_ne_true] at below
    exact .inl ⟨sign, Ieee.isFinite_of_between low high unitValue_zero.finite unitValue_one.finite, below⟩
  | true =>
    rw [sign, if_pos rfl] at above
    have zero : (-(0.0 : F64)).absVal = 0 ∧ (-(0.0 : F64)).neg = true := by decide +kernel
    refine .inr (Ieee.eq_of_absVal_eq low.2.1 ?_ (sign.trans zero.2.symm) ?_)
    · exact Ieee.isNaN_literal ..
    · rw [zero.1]
      exact le_antisymm (by linarith) x.absVal_nonneg

/-- What the sanitizing does to a value from 0 to 1 cannot be seen in a comparison. -/
theorem compare_sanitized {wire : F64 → F64} (keeps : KeepsUnit wire) {x : F64} (low : (0.0 : F64) ≤ x)
    (high : x ≤ (1.0 : F64)) (limit : F64) :
    (limit ≤ wire (finiteClamp x 0.0 1.0) ↔ limit ≤ wire x) ∧ (wire (finiteClamp x 0.0 1.0) ≤ limit ↔ wire x ≤ limit) := by
  rcases unitValue_or_negZero low high with unit | rfl
  · rw [unit.finiteClamp_eq]
    exact ⟨Iff.rfl, Iff.rfl⟩
  · have clamped : finiteClamp (-(0.0 : F64)) 0.0 1.0 = 0.0 := by decide +kernel
    have value : (-(0.0 : F64)).toRat = (0.0 : F64).toRat := by
      rw [Ieee.toRat_neg, Ieee.toRat_zero_literal, neg_zero]
    rw [clamped, keeps.zero, keeps.negZero, Ieee.le_iff, Ieee.le_iff, Ieee.le_iff, Ieee.le_iff, value, Ieee.isNaN_neg]
    exact ⟨Iff.rfl, Iff.rfl⟩

section
variable {config : AebConfig} {wire : F64 → F64}

theorem unitValue_carried (keeps : KeepsUnit wire) (person : PersonDetection) :
    UnitValue (carriedPerson wire person).confidence := keeps.unit _ (unitValue_finiteClamp _)

/-- A detection that counts still counts behind the wire, and no other does. -/
theorem personCounts_carried (positive : (0.0 : F64) < config.personConfidenceMin) (keeps : KeepsUnit wire)
    {person : PersonDetection} (detected : Detected person) :
    personCounts config (carriedPerson wire person) = true ↔ InGate config wire person := by
  have within := detected.within
  simp only [PersonDetection.values, List.forall_mem_cons] at within
  obtain ⟨-, confidence, centerX, -⟩ := within
  have valid : (carriedPerson wire person).valid = 1.0 := by
    have above : (0.5 : F64) ≤ (1.0 : F64) := by decide +kernel
    simp only [carriedPerson, sanitizePerson, detected.valid, above, if_true, keeps.one]
  have half : ¬ (1.0 : F64) < (0.5 : F64) := by decide +kernel
  have number : (carriedPerson wire person).confidence.isNaN = false :=
    Ieee.isNaN_of_isFinite (unitValue_carried keeps person).finite
  have enough : ¬ (carriedPerson wire person).confidence < config.personConfidenceMin ↔
      config.personConfidenceMin ≤ (carriedPerson wire person).confidence :=
    ⟨Ieee.le_of_not_lt number positive.2.1, Ieee.not_lt_of_le⟩
  simp only [personCounts, valid, half, decide_false, Bool.not_false, Bool.true_and, Bool.and_eq_true,
    Bool.not_eq_true', decide_eq_false_iff_not, decide_eq_true_eq, enough]
  exact and_congr (compare_sanitized keeps confidence.1 confidence.2 _).1
    (and_congr (compare_sanitized keeps centerX.1 centerX.2 _).1 (compare_sanitized keeps centerX.1 centerX.2 _).2)

/-- The confidence of a detection that counts is carried as it is. -/
theorem confidence_carried (positive : (0.0 : F64) < config.personConfidenceMin) (keeps : KeepsUnit wire)
    {person : PersonDetection} (detected : Detected person) (inGate : InGate config wire person) :
    (carriedPerson wire person).confidence = wire person.confidence := by
  have within := detected.within
  simp only [PersonDetection.values, List.forall_mem_cons] at within
  obtain ⟨-, confidence, -⟩ := within
  rcases unitValue_or_negZero confidence.1 confidence.2 with unit | zero
  · exact congrArg wire unit.finiteClamp_eq
  · have above := Ieee.lt_of_lt_of_le positive inGate.1
    rw [zero, keeps.negZero] at above
    exact absurd above (by decide +kernel)

theorem personCounts_noPerson : personCounts config noPerson = false := by
  have below : (0.0 : F64) < (0.5 : F64) := by decide +kernel
  simp only [personCounts, noPerson, below, decide_true, Bool.not_true, Bool.false_and]

/-! ### The most confident person -/

theorem unitValue_eq_of_le {x y : F64} (unit : UnitValue x) (unit' : UnitValue y) (le : x ≤ y) (ge : y ≤ x) : x = y := by
  have above := le.2.2
  have below := ge.2.2
  rw [unit.toRat, unit'.toRat] at above below
  exact Ieee.eq_of_absVal_eq le.1 le.2.1 (unit.nonneg.trans unit'.nonneg.symm) (le_antisymm above below)

theorem unitValue_max {best x : F64} (unit : UnitValue best) (unit' : UnitValue x) :
    UnitValue (Python.max best x) ∧ best ≤ Python.max best x ∧ x ≤ Python.max best x ∧
      (Python.max best x = best ∨ Python.max best x = x) := by
  have number := Ieee.isNaN_of_isFinite unit.finite
  have number' := Ieee.isNaN_of_isFinite unit'.finite
  unfold Python.max
  split
  · rename_i less
    exact ⟨unit', Ieee.le_of_lt less, Ieee.le_refl number', .inr rfl⟩
  · rename_i no
    exact ⟨unit, Ieee.le_refl number, Ieee.le_of_not_lt number number' no, .inl rfl⟩

/-- The loop over the persons keeps the best of those that count. -/
theorem foldl_best (persons : List PersonDetection) (units : ∀ person ∈ persons, UnitValue person.confidence) {best : F64}
    (unit : UnitValue best) :
    let result := persons.foldl
      (fun best person => if personCounts config person then Python.max best person.confidence else best) best
    best ≤ result ∧ (∀ person ∈ persons, personCounts config person = true → person.confidence ≤ result) ∧
      (result = best ∨ ∃ person ∈ persons, personCounts config person = true ∧ result = person.confidence) := by
  induction persons generalizing best with
  | nil =>
    refine ⟨Ieee.le_refl (Ieee.isNaN_of_isFinite unit.finite), fun person member => ?_, .inl rfl⟩
    cases member
  | cons first rest ih =>
    have units' : ∀ person ∈ rest, UnitValue person.confidence := fun person member => units person (by simp [member])
    rw [List.foldl_cons]
    by_cases counts : personCounts config first = true
    · obtain ⟨unit', aboveBest, aboveFirst, one⟩ := unitValue_max unit (units first (by simp))
      obtain ⟨above, largest, among⟩ := ih units' unit'
      rw [if_pos counts]
      refine ⟨Ieee.le_trans aboveBest above, ?_, ?_⟩
      · intro person member own
        rcases List.mem_cons.mp member with rfl | later
        · exact Ieee.le_trans aboveFirst above
        · exact largest person later own
      · rcases among with same | ⟨person, member, own⟩
        · rcases one with old | new
          · exact .inl (same.trans old)
          · exact .inr ⟨first, by simp, counts, same.trans new⟩
        · exact .inr ⟨person, by simp [member], own⟩
    · obtain ⟨above, largest, among⟩ := ih units' unit
      rw [if_neg counts]
      refine ⟨above, ?_, ?_⟩
      · intro person member own
        rcases List.mem_cons.mp member with rfl | later
        · exact absurd own counts
        · exact largest person later own
      · exact among.imp id fun ⟨person, member, own⟩ => ⟨person, by simp [member], own⟩

/-! ### The pipeline -/

theorem personDetectionValid_service (wire : F64 → F64) (sequence frameTimestampUs : Int)
    (result : LaneDetectionResult) (ultrasonic : UltrasonicSnapshot) (detections : List PersonDetection)
    (arrivalTime : F64) :
    (carriedFrame wire (servicePacket sequence frameTimestampUs result ultrasonic detections) arrivalTime).personDetectionValid =
      !detections.isEmpty := by
  change ((buildFlags result ultrasonic detections : Int) % 2 ^ 8).testBit flagPersonDetectionValid = _
  unfold buildFlags
  cases result.cameraValid <;> cases result.laneValid <;> cases ultrasonic.leftValid <;>
    cases ultrasonic.rightValid <;> cases detections.isEmpty <;> decide

/-- A slot that counts holds a detection that does. -/
theorem exists_of_counts (positive : (0.0 : F64) < config.personConfidenceMin) (keeps : KeepsUnit wire)
    {detections : List PersonDetection} (detected : ∀ person ∈ detections, Detected person) {padding : Nat}
    {slot : PersonDetection} (member : slot ∈ detections.map (carriedPerson wire) ++ List.replicate padding noPerson)
    (counts : personCounts config slot = true) :
    ∃ person ∈ detections, InGate config wire person ∧ slot.confidence = wire person.confidence := by
  rcases List.mem_append.mp member with sent | padded
  · obtain ⟨person, own, rfl⟩ := List.mem_map.mp sent
    have inGate := (personCounts_carried positive keeps (detected person own)).mp counts
    exact ⟨person, own, inGate, confidence_carried positive keeps (detected person own) inGate⟩
  · rw [List.eq_of_mem_replicate padded, personCounts_noPerson] at counts
    cases counts

/-- What the decision finds among the slots. -/
theorem findsPerson_foldl (positive : (0.0 : F64) < config.personConfidenceMin) (keeps : KeepsUnit wire)
    {detections : List PersonDetection} (detected : ∀ person ∈ detections, Detected person) (padding : Nat) :
    let best := (detections.map (carriedPerson wire) ++ List.replicate padding noPerson).foldl
      (fun best person => if personCounts config person then Python.max best person.confidence else best) (0.0 : F64)
    FindsPerson config wire detections ((0.0 : F64) < best, best) := by
  intro best
  have units : ∀ slot ∈ detections.map (carriedPerson wire) ++ List.replicate padding noPerson,
      UnitValue slot.confidence := by
    intro slot member
    rcases List.mem_append.mp member with sent | padded
    · obtain ⟨person, -, rfl⟩ := List.mem_map.mp sent
      exact unitValue_carried keeps person
    · rw [List.eq_of_mem_replicate padded]
      exact unitValue_zero
  obtain ⟨-, largest, among⟩ : _ ∧ (∀ slot ∈ _, personCounts config slot = true → slot.confidence ≤ best) ∧ _ :=
    foldl_best _ units unitValue_zero
  have above : ∀ person ∈ detections, InGate config wire person → wire person.confidence ≤ best := by
    intro person member inGate
    rw [← confidence_carried positive keeps (detected person member) inGate]
    exact largest _ (List.mem_append_left _ (List.mem_map_of_mem member))
      ((personCounts_carried positive keeps (detected person member)).mpr inGate)
  have some : (0.0 : F64) < best → ∃ person ∈ detections, InGate config wire person ∧ best = wire person.confidence := by
    intro positiveBest
    rcases among with zero | ⟨slot, member, counts, same⟩
    · exact absurd (zero ▸ positiveBest) (Ieee.lt_irrefl _)
    · obtain ⟨person, own, inGate, carried⟩ := exists_of_counts positive keeps detected member counts
      exact ⟨person, own, inGate, same.trans carried⟩
  refine ⟨?_, ?_, above, ?_⟩
  · rw [decide_eq_true_eq]
    constructor
    · intro positiveBest
      obtain ⟨person, own, inGate, -⟩ := some positiveBest
      exact ⟨person, own, inGate⟩
    · rintro ⟨person, own, inGate⟩
      exact Ieee.lt_of_lt_of_le (Ieee.lt_of_lt_of_le positive inGate.1) (above person own inGate)
  · rw [decide_eq_true_eq]
    exact some
  · rw [decide_eq_false_iff_not]
    intro no
    rcases among with zero | ⟨slot, member, counts, same⟩
    · exact zero
    · obtain ⟨person, own, inGate, -⟩ := exists_of_counts positive keeps detected member counts
      exact absurd (Ieee.lt_of_lt_of_le (Ieee.lt_of_lt_of_le positive inGate.1) (above person own inGate)) no

theorem findsPerson_service (positive : (0.0 : F64) < config.personConfidenceMin) (keeps : KeepsUnit wire)
    {detections : List PersonDetection} (few : detections.length ≤ 3) (detected : ∀ person ∈ detections, Detected person)
    (sequence frameTimestampUs : Int) (result : LaneDetectionResult) (ultrasonic : UltrasonicSnapshot)
    (arrivalTime : F64) :
    FindsPerson config wire detections (personInPath config (some
      (carriedFrame wire (servicePacket sequence frameTimestampUs result ultrasonic detections) arrivalTime))) := by
  have valid := personDetectionValid_service wire sequence frameTimestampUs result ultrasonic detections arrivalTime
  simp only [personInPath, valid, Bool.not_not]
  cases detections with
  | nil => exact ⟨by simp, by simp, by simp, fun _ => rfl⟩
  | cons first rest =>
    have whole : (first :: rest).take maxPersonDetections = first :: rest := List.take_of_length_le few
    have found := findsPerson_foldl positive keeps detected (maxPersonDetections - (first :: rest).length)
    simpa only [List.isEmpty_cons, Bool.false_eq_true, if_false, carriedFrame, servicePacket, whole] using found

/-- There is one result for some detections, in any order. -/
theorem FindsPerson.unique (positive : (0.0 : F64) < config.personConfidenceMin) (keeps : KeepsUnit wire)
    {detections detections' : List PersonDetection} (detected : ∀ person ∈ detections, Detected person)
    (same : detections'.Perm detections) {found found' : Bool × F64} (finds : FindsPerson config wire detections found)
    (finds' : FindsPerson config wire detections' found') : found' = found := by
  have verdict : found'.1 = found.1 := by
    rw [Bool.eq_iff_iff, finds.found, finds'.found]
    exact exists_congr fun person => and_congr_left fun _ => same.mem_iff
  refine Prod.ext verdict ?_
  cases some : found.1 with
  | false => rw [finds.none some, finds'.none (verdict.trans some)]
  | true =>
    obtain ⟨person, own, inGate, best⟩ := finds.best some
    obtain ⟨person', own', inGate', best'⟩ := finds'.best (verdict.trans some)
    have here := same.mem_iff.mp own'
    have unit : UnitValue found.2 := by
      rw [best, ← confidence_carried positive keeps (detected person own) inGate]
      exact unitValue_carried keeps person
    have unit' : UnitValue found'.2 := by
      rw [best', ← confidence_carried positive keeps (detected person' here) inGate']
      exact unitValue_carried keeps person'
    refine unitValue_eq_of_le unit' unit ?_ ?_
    · rw [best']
      exact finds.largest person' here inGate'
    · rw [best]
      exact finds'.largest person (same.mem_iff.mpr own) inGate

end

/-- On a wire that rounds, as the real one does, and on one that carries every value as it is, the
decision finds a person exactly when one of the detections is confident enough and ahead, with the
largest confidence of those, in whatever order they come. -/
theorem person_pipeline_exact (config : AebConfig) (positive : (0.0 : F64) < config.personConfidenceMin)
    {detections : List PersonDetection} (few : detections.length ≤ 3)
    (detected : ∀ person ∈ detections, Detected person) (sequence frameTimestampUs : Int)
    (result : LaneDetectionResult) (ultrasonic : UltrasonicSnapshot) {data : List UInt8}
    (built : packPacket (servicePacket sequence frameTimestampUs result ultrasonic detections) = .ok data)
    (arrivalTime : F64) :
    let frame := fun wire detections =>
      carriedFrame wire (servicePacket sequence frameTimestampUs result ultrasonic detections) arrivalTime
    decodeMiddlePacket data arrivalTime = .ok (frame toSingle detections) ∧
    ∀ wire, wire = toSingle ∨ wire = id →
      FindsPerson config wire detections (personInPath config (some (frame wire detections))) ∧
      ∀ detections' : List PersonDetection, detections'.Perm detections →
        personInPath config (some (frame wire detections')) = personInPath config (some (frame wire detections)) := by
  intro frame
  refine ⟨decodeMiddlePacket_packPacket (Int.natCast_nonneg _) built arrivalTime, ?_⟩
  intro wire wireIs
  have keeps : KeepsUnit wire := by
    rcases wireIs with rfl | rfl
    · exact keepsUnit_toSingle
    · exact keepsUnit_id
  have finds := findsPerson_service positive keeps few detected sequence frameTimestampUs result ultrasonic arrivalTime
  refine ⟨finds, fun detections' same => ?_⟩
  refine finds.unique positive keeps detected same ?_
  exact findsPerson_service positive keeps (same.length_eq.trans_le few)
    (fun person member => detected person (same.mem_iff.mp member)) sequence frameTimestampUs result ultrasonic arrivalTime

/-- Three persons: the surest one beside the road, one in the middle of the picture, and one that is
less sure in front of it. -/
def people : List PersonDetection :=
  [⟨1.0, 0.95, 0.9, 0.6, 0.1, 0.3⟩, ⟨1.0, 0.9, 0.5, 0.5, 0.25, 0.5⟩, ⟨1.0, 0.4, 0.45, 0.5, 0.1, 0.2⟩]

def noLanes : LaneDetectionResult := ⟨true, false, ⟨0.0, 0.0, 0.0, 0.0, 0.0⟩, ⟨0.0, 0.0, 0.0, 0.0, 0.0⟩⟩

def noDistances : UltrasonicSnapshot := ⟨0.0, 0.0, false, false, 3⟩

theorem packable_people : Packable (servicePacket 1 2 noLanes noDistances people) := by
  have zero : packSingle (0.0 : F64) = .ok ((0.0 : F64).convert binary32) := by decide +kernel
  intro value member
  obtain rfl : value = (0.0 : F64) := List.eq_of_mem_replicate (n := 12) member
  exact ⟨_, zero⟩

theorem detected_people : ∀ person ∈ people, Detected person := by
  simp only [people, List.forall_mem_cons, List.not_mem_nil, false_implies, implies_true, and_true]
  exact ⟨⟨rfl, by decide +kernel⟩, ⟨rfl, by decide +kernel⟩, ⟨rfl, by decide +kernel⟩⟩

/-- The person in the middle is found, and not the one beside the road. -/
theorem person_pipeline_personAhead :
    ∃ data frame, packPacket (servicePacket 1 2 noLanes noDistances people) = .ok data ∧
      decodeMiddlePacket data 1.0 = .ok frame ∧
      personInPath {} (some frame) = (true, toSingle 0.9) ∧
      FindsPerson {} toSingle people (personInPath {} (some frame)) := by
  obtain ⟨data, built, -⟩ := unpackPacket_packPacket _ (by decide) packable_people
  obtain ⟨decoded, finds⟩ :=
    person_pipeline_exact {} (by decide +kernel) (by decide) detected_people 1 2 noLanes noDistances built 1.0
  exact ⟨data, _, built, decoded, by decide +kernel, (finds toSingle (.inl rfl)).1⟩

end SelfDriving.Hpvc
