import SelfDriving.Foundations.RingWindow
import SelfDriving.Front.SensorRangeProofs

/-! What the filter of an ultrasonic sensor makes of a sequence of measurements: the cells hold
the last three distances in some rotation, and the filtered distance is their median. -/
namespace SelfDriving.Front
open Ieee754

/-- The last three of some distances, or all of them. -/
def lastThree (history : List UInt16) : List UInt16 := history.drop (history.length - 3)

/-- What the filter is to make of the distances measured so far, the oldest first. -/
structure Filters (history : List UInt16) (filteredCmX10 : UInt16) : Prop where
  one : ∀ first, history = [first] → filteredCmX10 = first
  two : ∀ first second, history = [first, second] →
    filteredCmX10.toNat = (first.toNat + second.toNat) / 2
  more : 3 ≤ history.length → IsMedian (lastThree history) filteredCmX10
  between : history ≠ [] → ∃ low ∈ lastThree history, ∃ high ∈ lastThree history,
    low ≤ filteredCmX10 ∧ filteredCmX10 ≤ high

/-- The cells and the counters after the distances of a history. -/
structure Filtering (history samples : List UInt16) (sampleCount sampleIndex : UInt8) (filteredCmX10 : UInt16) :
    Prop where
  three : samples.length = 3
  holds : RingHolds samples history
  count : sampleCount.toNat = min history.length 3
  index : sampleIndex.toNat = history.length % 3
  filtered : filteredCmX10 = median3 samples sampleCount

/-! ### The median -/

/-- The exchanges after the first one. -/
theorem isMedian_exchanges {a b c : UInt16} (ordered : ¬ a > b) :
    IsMedian [a, b, c] (let b := if b > c then c else b; if a > b then a else b) := by
  by_cases second : b > c
  · simp only [second, if_true]
    by_cases third : a > c
    · rw [if_pos third]
      have median := isMedian_of_ordered (UInt16.lt_irrefl a) (UInt16.lt_asymm third) ordered
      have turned : ([c] ++ [a, b]).Perm ([a, b] ++ [c]) := List.perm_append_comm
      exact median.perm turned
    · rw [if_neg third]
      have median := isMedian_of_ordered (UInt16.lt_irrefl c) third (UInt16.lt_asymm second)
      exact median.perm (.cons a (.swap b c []))
  · simp only [second, if_false, if_neg ordered]
    exact isMedian_of_ordered (UInt16.lt_irrefl b) ordered second

/-- The three exchanges put the median in the middle. -/
theorem isMedian_median3 (a b c : UInt16) : IsMedian [a, b, c] (median3 [a, b, c] 3) := by
  have network : median3 [a, b, c] 3 =
      (let first := if a > b then (b, a) else (a, b)
        let second := if first.2 > c then c else first.2
        if first.1 > second then first.1 else second) := rfl
  rw [network]
  by_cases first : a > b
  · rw [if_pos first]
    exact (isMedian_exchanges (UInt16.lt_asymm first)).perm (.swap a b [c])
  · rw [if_neg first]
    exact isMedian_exchanges first

namespace Filtering
variable {history samples : List UInt16} {sampleCount sampleIndex : UInt8} {filteredCmX10 : UInt16}

theorem index_lt (filtering : Filtering history samples sampleCount sampleIndex filteredCmX10) :
    sampleIndex.toNat < 3 := by
  rw [filtering.index]
  exact Nat.mod_lt _ (by decide)

/-- A distance enters the ring. -/
theorem push (filtering : Filtering history samples sampleCount sampleIndex filteredCmX10) (cmX10 : UInt16) :
    let samples' := samples.set sampleIndex.toNat cmX10
    let sampleCount' := if sampleCount < 3 then sampleCount + 1 else sampleCount
    Filtering (history ++ [cmX10]) samples' sampleCount' ((sampleIndex + 1) % 3) (median3 samples' sampleCount') := by
  intro samples' sampleCount'
  refine ⟨(List.length_set ..).trans filtering.three, ?_, ?_, ?_, rfl⟩
  · have pushed := filtering.holds.push (by rw [filtering.three]; decide) cmX10
    rwa [filtering.three, ← filtering.index] at pushed
  · rw [sampleCount_next, filtering.count, List.length_append, List.length_singleton]
    split <;> omega
  · rw [sampleIndex_next filtering.index_lt, filtering.index, List.length_append, List.length_singleton]
    omega

/-- Before the ring comes round, the distances stand in it in order. -/
theorem sample (filtering : Filtering history samples sampleCount sampleIndex filteredCmX10) (warmup : history.length ≤ 3)
    {place : Nat} (before : place < history.length) : samples.getD place 0 = history.getD place 0 := by
  have cell := filtering.holds place before (by rw [filtering.three]; omega)
  rw [filtering.three, Nat.mod_eq_of_lt (by omega)] at cell
  rw [List.getD_eq_getElem?_getD, List.getD_eq_getElem?_getD, cell]

theorem count_eq (filtering : Filtering history samples sampleCount sampleIndex filteredCmX10) {count : UInt8}
    (same : min history.length 3 = count.toNat) : sampleCount = count :=
  UInt8.toNat_inj.mp (filtering.count.trans same)

theorem filtered_one {first : UInt16} (filtering : Filtering [first] samples sampleCount sampleIndex filteredCmX10) :
    filteredCmX10 = first := by
  have counted : sampleCount = 1 := filtering.count_eq rfl
  have cell : samples.getD 0 0 = first := filtering.sample (by simp) (by simp)
  rw [filtering.filtered, counted]
  exact cell

theorem filtered_two {first second : UInt16}
    (filtering : Filtering [first, second] samples sampleCount sampleIndex filteredCmX10) :
    filteredCmX10.toNat = (first.toNat + second.toNat) / 2 := by
  have counted : sampleCount = 2 := filtering.count_eq rfl
  have mean : filteredCmX10 = UInt16.ofNat (((samples.getD 0 0).toNat + (samples.getD 1 0).toNat) / 2) := by
    rw [filtering.filtered, counted]
    rfl
  have left : samples.getD 0 0 = first := filtering.sample (by simp) (by simp)
  have right : samples.getD 1 0 = second := filtering.sample (by simp) (by simp)
  have firstSmall := first.toNat_lt
  have secondSmall := second.toNat_lt
  rw [mean, left, right, UInt16.toNat_ofNat', Nat.mod_eq_of_lt (by omega)]

/-- The cells are a rotation of the last three distances, which the median does not see. -/
theorem filtered_more (filtering : Filtering history samples sampleCount sampleIndex filteredCmX10)
    (full : 3 ≤ history.length) : IsMedian (lastThree history) filteredCmX10 := by
  have same := filtering.holds.perm (filtering.three.trans_le full)
  rw [filtering.three] at same
  have counted : sampleCount = 3 := filtering.count_eq (min_eq_right full)
  rw [filtering.filtered, counted]
  match samples, filtering.three with
  | [a, b, c], _ => exact (isMedian_median3 a b c).perm same

/-- The filtered distance. -/
theorem filters (filtering : Filtering history samples sampleCount sampleIndex filteredCmX10) :
    Filters history filteredCmX10 := by
  refine ⟨?_, ?_, filtering.filtered_more, ?_⟩
  · rintro first rfl
    exact filtering.filtered_one
  · rintro first second rfl
    exact filtering.filtered_two
  · intro some
    match history, filtering with
    | [], _ => exact absurd rfl some
    | [first], filtering =>
      rw [filtering.filtered_one]
      exact ⟨first, List.mem_cons_self, first, List.mem_cons_self, UInt16.le_refl _, UInt16.le_refl _⟩
    | [first, second], filtering =>
      have mean := filtering.filtered_two
      have firstHere : first ∈ lastThree [first, second] := List.mem_cons_self
      have secondHere : second ∈ lastThree [first, second] := List.mem_cons_of_mem _ List.mem_cons_self
      rcases Nat.le_total first.toNat second.toNat with up | down
      · exact ⟨first, firstHere, second, secondHere, UInt16.le_iff_toNat_le.mpr (by omega),
          UInt16.le_iff_toNat_le.mpr (by omega)⟩
      · exact ⟨second, secondHere, first, firstHere, UInt16.le_iff_toNat_le.mpr (by omega),
          UInt16.le_iff_toNat_le.mpr (by omega)⟩
    | _ :: _ :: _ :: _, filtering =>
      have among := (filtering.filtered_more (by simp)).mem
      exact ⟨_, among, _, among, UInt16.le_refl _, UInt16.le_refl _⟩

end Filtering

/-- What lies between distances in range is in range. -/
theorem Filters.range {history : List UInt16} {filteredCmX10 : UInt16} (filters : Filters history filteredCmX10)
    (measured : ∀ cmX10 ∈ history, UltraRange cmX10) (some : history ≠ []) : UltraRange filteredCmX10 := by
  obtain ⟨low, lowHere, high, highHere, above, below⟩ := filters.between some
  have lowRange := measured low (List.mem_of_mem_drop lowHere)
  have highRange := measured high (List.mem_of_mem_drop highHere)
  rw [UInt16.le_iff_toNat_le] at above below
  exact ⟨lowRange.1.trans above, below.trans highRange.2⟩

/-! ### Runs -/

/-- An ultrasonic sensor, updated time after time. -/
def ultrasonic (stmFrequency : F32) : Machine UltrasonicSensor (Reading Echo) Bool where
  step sensor reading :=
    ultrasonicUpdate stmFrequency reading.outcome reading.readTicks reading.checkTicks sensor

/-- The distance that a reading measures, if it does. -/
def measured (stmFrequency : F32) (sensor : UltrasonicSensor) (reading : Reading Echo) : List UInt16 :=
  (ultrasonicReadCmX10 stmFrequency reading.outcome sensor).2.toList

/-- The sensor filters the distances of a history. -/
def UltrasonicSensor.FiltersOf (sensor : UltrasonicSensor) (history : List UInt16) : Prop :=
  Filtering history sensor.samples sensor.sampleCount sensor.sampleIndex sensor.filteredCmX10

/-- A reading that fails is only written down. -/
theorem ultrasonic_next_failed {stmFrequency : F32} {sensor : UltrasonicSensor} {reading : Reading Echo}
    (failed : measured stmFrequency sensor reading = []) :
    ∃ lastRawCmX10 lastDiag, (ultrasonic stmFrequency).next sensor reading =
      { sensor with lastRawCmX10 := lastRawCmX10, lastDiag := lastDiag } := by
  obtain ⟨lastRawCmX10, lastDiag, -, read, -⟩ := ultrasonicReadCmX10_cases stmFrequency reading.outcome sensor
  refine ⟨lastRawCmX10, lastDiag, ?_⟩
  change ultrasonicSample stmFrequency reading.outcome reading.readTicks sensor = _
  rw [measured] at failed
  rw [← read, ultrasonicSample]
  rcases measurement : ultrasonicReadCmX10 stmFrequency reading.outcome sensor with ⟨after, _ | cmX10⟩
  · rfl
  · rw [measurement] at failed
    cases failed

/-- One reading. -/
theorem UltrasonicSensor.FiltersOf.next {sensor : UltrasonicSensor} {history : List UInt16}
    (filtering : sensor.FiltersOf history) (stmFrequency : F32) (reading : Reading Echo) :
    ((ultrasonic stmFrequency).next sensor reading).FiltersOf (history ++ measured stmFrequency sensor reading) := by
  obtain ⟨lastRawCmX10, lastDiag, -, read, -⟩ := ultrasonicReadCmX10_cases stmFrequency reading.outcome sensor
  change (ultrasonicSample stmFrequency reading.outcome reading.readTicks sensor).FiltersOf _
  rw [ultrasonicSample, measured]
  rcases measurement : ultrasonicReadCmX10 stmFrequency reading.outcome sensor with ⟨after, _ | cmX10⟩
  · rw [measurement] at read
    obtain rfl : after = _ := read
    rw [Option.toList_none, List.append_nil]
    exact filtering
  · rw [measurement] at read
    obtain rfl : after = _ := read
    exact filtering.push cmX10

/-- Any readings. -/
theorem filtersOf_run (stmFrequency : F32) (readings : List (Reading Echo)) :
    ((ultrasonic stmFrequency).run ultrasonicStart readings).FiltersOf
      ((ultrasonic stmFrequency).collect (measured stmFrequency) ultrasonicStart readings) := by
  induction readings using List.reverseRecOn with
  | nil => exact ⟨rfl, ringHolds_nil _, rfl, rfl, rfl⟩
  | append_singleton readings reading ih =>
    rw [Machine.run_concat, Machine.collect_concat]
    exact ih.next stmFrequency reading

theorem ultraRange_of_measured {stmFrequency : F32} {readings : List (Reading Echo)} :
    ∀ cmX10 ∈ (ultrasonic stmFrequency).collect (measured stmFrequency) ultrasonicStart readings, UltraRange cmX10 := by
  refine (ultrasonic stmFrequency).forall_mem_collect ?_ ultrasonicStart readings
  intro sensor reading cmX10 here
  obtain ⟨-, -, -, -, range⟩ := ultrasonicReadCmX10_cases stmFrequency reading.outcome sensor
  exact range cmX10 (Option.mem_toList.mp here)

end SelfDriving.Front
