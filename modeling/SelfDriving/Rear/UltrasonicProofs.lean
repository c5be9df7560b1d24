import SelfDriving.Front.UltrasonicFilterProofs
import SelfDriving.Rear.Ultrasonic

/-! The filter of the REAR controller's ultrasonic sensors, and both controllers' filters over
any readings. A reading that fails leaves the REAR controller's sensor as it was; the FRONT
controller writes down what became of it, which no filter reads. -/
namespace SelfDriving.Rear
open Ieee754
open Front (Echo Reading UltraRange Filtering Filters)

/-- The distance that a reading measures, if it does. -/
def measured (stmFrequency : F32) (reading : Reading Echo) : List UInt16 :=
  (ultrasonicReadCmX10 stmFrequency reading.outcome).toList

/-- The sensor filters the distances of a history. -/
def UltrasonicSensor.FiltersOf (sensor : UltrasonicSensor) (history : List UInt16) : Prop :=
  Filtering history sensor.samples sensor.sampleCount sensor.sampleIndex sensor.filteredCmX10

/-- The two controllers measure the same distances. -/
theorem ultrasonicReadCmX10_front (stmFrequency : F32) (echo : Echo) (sensor : Front.UltrasonicSensor) :
    ultrasonicReadCmX10 stmFrequency echo = (Front.ultrasonicReadCmX10 stmFrequency echo sensor).2 := by
  cases echo with
  | noRise => rfl
  | noFall => rfl
  | pulse pulseTicks =>
    simp only [ultrasonicReadCmX10, Front.ultrasonicReadCmX10]
    generalize Front.pulseCmX10 stmFrequency pulseTicks = distanceCmX10
    change (if (distanceCmX10 < Front.ultraMinCmX10 || distanceCmX10 > Front.ultraMaxCmX10) = true then _ else _) = _
    split <;> rfl

theorem ultrasonic_next_failed {stmFrequency : F32} {sensor : UltrasonicSensor} {reading : Reading Echo}
    (failed : measured stmFrequency reading = []) : (ultrasonic stmFrequency).next sensor reading = sensor := by
  have unread : ultrasonicReadCmX10 stmFrequency reading.outcome = none := Option.toList_eq_nil_iff.mp failed
  change (ultrasonicUpdate stmFrequency reading.outcome reading.readTicks reading.checkTicks sensor).1 = _
  simp only [ultrasonicUpdate, unread]

/-- One reading. -/
theorem UltrasonicSensor.FiltersOf.next {sensor : UltrasonicSensor} {history : List UInt16}
    (filtering : sensor.FiltersOf history) (stmFrequency : F32) (reading : Reading Echo) :
    ((ultrasonic stmFrequency).next sensor reading).FiltersOf (history ++ measured stmFrequency reading) := by
  rcases measurement : ultrasonicReadCmX10 stmFrequency reading.outcome with _ | raw
  · have failed : measured stmFrequency reading = [] := by rw [measured, measurement, Option.toList_none]
    rw [ultrasonic_next_failed failed, failed, List.append_nil]
    exact filtering
  · change (ultrasonicUpdate stmFrequency reading.outcome reading.readTicks reading.checkTicks sensor).1.FiltersOf _
    rw [measured]
    simp only [ultrasonicUpdate, measurement]
    exact filtering.push raw

/-- Any readings. -/
theorem filtersOf_run (stmFrequency : F32) (readings : List (Reading Echo)) :
    ((ultrasonic stmFrequency).run ultrasonicStart readings).FiltersOf (readings.flatMap (measured stmFrequency)) := by
  induction readings using List.reverseRecOn with
  | nil => exact ⟨rfl, ringHolds_nil _, rfl, rfl, rfl⟩
  | append_singleton readings reading ih =>
    rw [Machine.run_concat, List.flatMap_append, List.flatMap_singleton]
    exact ih.next stmFrequency reading

theorem ultraRange_of_measured {stmFrequency : F32} {readings : List (Reading Echo)} :
    ∀ cmX10 ∈ readings.flatMap (measured stmFrequency), UltraRange cmX10 := by
  intro cmX10 here
  obtain ⟨reading, -, measured⟩ := List.mem_flatMap.mp here
  obtain ⟨-, -, -, -, range⟩ :=
    Front.ultrasonicReadCmX10_cases stmFrequency reading.outcome Front.ultrasonicStart
  apply range
  rw [← ultrasonicReadCmX10_front]
  exact Option.mem_toList.mp measured

/-- After any readings the filtered distance is the median of the last three that were measured, or what
the warm-up has in its place, on either controller. -/
theorem ultrasonic_filters_measured (stmFrequency : F32) (readings : List (Reading Echo)) :
    (let sensor := (Front.ultrasonic stmFrequency).run Front.ultrasonicStart readings
      let successes :=
        (Front.ultrasonic stmFrequency).collect (Front.measured stmFrequency) Front.ultrasonicStart readings
      Filters successes sensor.filteredCmX10 ∧ (successes ≠ [] → UltraRange sensor.filteredCmX10) ∧
        sensor.sampleIndex.toNat < 3 ∧
        ∀ reading, Front.measured stmFrequency sensor reading = [] →
          ∃ lastRawCmX10 lastDiag, (Front.ultrasonic stmFrequency).next sensor reading =
            { sensor with lastRawCmX10 := lastRawCmX10, lastDiag := lastDiag }) ∧
    (let sensor := (ultrasonic stmFrequency).run ultrasonicStart readings
      let successes := readings.flatMap (measured stmFrequency)
      Filters successes sensor.filteredCmX10 ∧ (successes ≠ [] → UltraRange sensor.filteredCmX10) ∧
        sensor.sampleIndex.toNat < 3 ∧
        ∀ reading, measured stmFrequency reading = [] → (ultrasonic stmFrequency).next sensor reading = sensor) := by
  constructor
  · have filtering := Front.filtersOf_run stmFrequency readings
    exact ⟨filtering.filters, filtering.filters.range Front.ultraRange_of_measured, filtering.index_lt,
      fun _ failed => Front.ultrasonic_next_failed failed⟩
  · have filtering := filtersOf_run stmFrequency readings
    exact ⟨filtering.filters, filtering.filters.range ultraRange_of_measured, filtering.index_lt,
      fun _ failed => ultrasonic_next_failed failed⟩

/-- On the FRONT controller a reading that fails leaves its diagnosis in the sensor. -/
theorem front_failure_written_down :
    let reading : Reading Echo := ⟨.noRise, 0, 0⟩
    Front.measured (100000000.0 : F32) Front.ultrasonicStart reading = [] ∧
      (Front.ultrasonic (100000000.0 : F32)).next Front.ultrasonicStart reading ≠ Front.ultrasonicStart := by
  decide

end SelfDriving.Rear
