import SelfDriving.Front.FreshnessProofs

/-! What stands in the distance fields of a sensor frame. A set bit comes with a
measured distance, filtered or not; a clear bit of an ultrasonic sensor with the
diagnosis of its last measurement. -/
namespace SelfDriving.Front
open Ieee754

/-- A distance that an ultrasonic sensor measures. -/
def UltraRange (cmX10 : UInt16) : Prop := 20 ≤ cmX10.toNat ∧ cmX10.toNat ≤ 5000

/-- A distance that the ToF sensor measures. -/
def TofRange (cmX10 : UInt16) : Prop := 30 ≤ cmX10.toNat ∧ cmX10.toNat ≤ 4000

/-- What an ultrasonic field holds in place of a distance. -/
def ultraDiags : List UInt16 :=
  [ultraDiagOk, ultraDiagNoEchoRise, ultraDiagNoEchoFall, ultraDiagRangeOutOfLimit]

/-- The bits of a frame tell what its fields hold. -/
structure SoundFrame (frame : Frame) : Prop where
  leftValid : Sensor.left.valid frame = true → UltraRange frame.ultrasonicLeftCmX10
  rightValid : Sensor.right.valid frame = true → UltraRange frame.ultrasonicRightCmX10
  tofValid : Sensor.tof.valid frame = true → TofRange frame.tofFrontCmX10
  leftClear : Sensor.left.valid frame = false → frame.ultrasonicLeftCmX10 ∈ ultraDiags
  rightClear : Sensor.right.valid frame = false → frame.ultrasonicRightCmX10 ∈ ultraDiags

/-- The ring holds distances in as many places as it counts, and the next one goes into the first
free place, or into the oldest. -/
structure SoundRing (samples : List UInt16) (count index : Nat) : Prop where
  three : samples.length = 3
  count_le : count ≤ 3
  index_lt : index < 3
  free : count < 3 → index = count
  measured : ∀ place < count, UltraRange (samples.getD place 0)

structure UltrasonicSensor.Sound (sensor : UltrasonicSensor) : Prop where
  ring : SoundRing sensor.samples sensor.sampleCount.toNat sensor.sampleIndex.toNat
  diag : sensor.lastDiag ∈ ultraDiags
  filtered : sensor.lastValidTick ≠ 0 → UltraRange sensor.filteredCmX10

structure SensorState.Sound (s : SensorState) : Prop where
  left : s.left.Sound
  right : s.right.Sound
  tof : s.tof.lastValidTick ≠ 0 → TofRange s.tof.cmX10

/-! ### One measurement -/

/-- Between two distances there are only distances. -/
theorem UltraRange.median3 {samples : List UInt16} {count : UInt8} {index : Nat}
    (ring : SoundRing samples count.toNat index) (some : 0 < count.toNat) : UltraRange (median3 samples count) := by
  have first := ring.measured 0 some
  have zero : count ≠ 0 := by
    rintro rfl
    exact absurd some (by decide)
  unfold Front.median3
  simp only [zero, if_false]
  split
  · exact first
  rename_i notOne
  have notOne : count.toNat ≠ 1 := fun one => notOne (UInt8.toNat_inj.mp one)
  have second := ring.measured 1 (by omega)
  split
  · obtain ⟨low, high⟩ := first
    obtain ⟨low', high'⟩ := second
    rw [UltraRange, UInt16.toNat_ofNat', Nat.mod_eq_of_lt (by omega)]
    omega
  · rename_i notTwo
    have notTwo : count.toNat ≠ 2 := fun two => notTwo (UInt8.toNat_inj.mp two)
    have third := ring.measured 2 (by omega)
    split_ifs <;> assumption

/-- A distance enters the ring. -/
theorem SoundRing.set {samples : List UInt16} {count index : Nat} (ring : SoundRing samples count index)
    {cmX10 : UInt16} (range : UltraRange cmX10) :
    SoundRing (samples.set index cmX10) (if count < 3 then count + 1 else count) ((index + 1) % 3) := by
  have count_le := ring.count_le
  have index_lt := ring.index_lt
  have free := ring.free
  refine ⟨(List.length_set ..).trans ring.three, by split <;> omega, Nat.mod_lt _ (by decide), ?_, ?_⟩
  · intro below
    split at below
    · have := free ‹_›
      split <;> omega
    · omega
  · intro place below
    by_cases here : place = index
    · have inside : place < (samples.set index cmX10).length := by
        rw [List.length_set, ring.three]
        omega
      subst here
      rw [← List.getElem_eq_getD 0, List.getElem_set_self]
      · exact range
      · exact inside
    · have before : place < count := by
        split at below
        · have := free ‹_›
          omega
        · exact below
      rw [List.getD_eq_getElem?_getD, List.getElem?_set_ne (Ne.symm here), ← List.getD_eq_getElem?_getD]
      exact ring.measured place before

/-- A measurement sets the diagnosis, and has a distance only in range. -/
theorem ultrasonicReadCmX10_cases (stmFrequency : F32) (echo : Echo) (sensor : UltrasonicSensor) :
    ∃ lastRawCmX10, ∃ lastDiag ∈ ultraDiags,
      (ultrasonicReadCmX10 stmFrequency echo sensor).1 =
        { sensor with lastRawCmX10 := lastRawCmX10, lastDiag := lastDiag } ∧
      ∀ cmX10, (ultrasonicReadCmX10 stmFrequency echo sensor).2 = some cmX10 → UltraRange cmX10 := by
  cases echo with
  | noRise =>
    refine ⟨_, ultraDiagNoEchoRise, by decide, rfl, fun _ measured => ?_⟩
    cases measured
  | noFall =>
    refine ⟨_, ultraDiagNoEchoFall, by decide, rfl, fun _ measured => ?_⟩
    cases measured
  | pulse pulseTicks =>
    simp only [ultrasonicReadCmX10]
    generalize pulseCmX10 stmFrequency pulseTicks = distanceCmX10
    by_cases out : (distanceCmX10 < ultraMinCmX10 || distanceCmX10 > ultraMaxCmX10) = true
    · rw [if_pos out]
      refine ⟨_, ultraDiagRangeOutOfLimit, by decide, rfl, fun _ measured => ?_⟩
      cases measured
    · rw [if_neg out]
      refine ⟨_, ultraDiagOk, by decide, rfl, ?_⟩
      rintro _ ⟨⟩
      have low : ultraMinCmX10.toNat = 20 := rfl
      have high : ultraMaxCmX10.toNat = 5000 := rfl
      simp only [Bool.or_eq_true, decide_eq_true_eq, not_or, gt_iff_lt, UInt32.lt_iff_toNat_lt, low, high] at out
      rw [UltraRange, UInt32.toNat_toUInt16, Nat.mod_eq_of_lt (by omega)]
      omega

theorem sampleIndex_next {sampleIndex : UInt8} (small : sampleIndex.toNat < 3) :
    ((sampleIndex + 1) % 3).toNat = (sampleIndex.toNat + 1) % 3 := by
  rw [UInt8.toNat_mod, UInt8.toNat_add]
  change (sampleIndex.toNat + 1) % 256 % 3 = _
  rw [Nat.mod_eq_of_lt (by omega : sampleIndex.toNat + 1 < 256)]

theorem sampleCount_next (sampleCount : UInt8) :
    (if sampleCount < 3 then sampleCount + 1 else sampleCount).toNat =
      if sampleCount.toNat < 3 then sampleCount.toNat + 1 else sampleCount.toNat := by
  by_cases room : sampleCount.toNat < 3
  · rw [if_pos (UInt8.lt_iff_toNat_lt.mpr room), if_pos room, UInt8.toNat_add]
    change (sampleCount.toNat + 1) % 256 = _
    omega
  · rw [if_neg (fun less => room (UInt8.lt_iff_toNat_lt.mp less)), if_neg room]

theorem UltrasonicSensor.Sound.sample {sensor : UltrasonicSensor} (sound : sensor.Sound) (stmFrequency : F32)
    (echo : Echo) (readTicks : Nat) : (ultrasonicSample stmFrequency echo readTicks sensor).Sound := by
  obtain ⟨lastRawCmX10, lastDiag, diag, read, range⟩ := ultrasonicReadCmX10_cases stmFrequency echo sensor
  unfold ultrasonicSample
  rcases measurement : ultrasonicReadCmX10 stmFrequency echo sensor with ⟨after, _ | cmX10⟩
  · rw [measurement] at read
    obtain rfl : after = _ := read
    exact ⟨sound.ring, diag, sound.filtered⟩
  · rw [measurement] at read range
    obtain rfl : after = _ := read
    have entered := sound.ring.set (range cmX10 rfl)
    have index := sampleIndex_next sound.ring.index_lt
    have count := sampleCount_next sensor.sampleCount
    rw [← index, ← count] at entered
    have some : 0 < (if sensor.sampleCount < 3 then sensor.sampleCount + 1 else sensor.sampleCount).toNat := by
      rw [count]
      split <;> omega
    exact ⟨entered, diag, fun _ => UltraRange.median3 entered some⟩

/-- The update's verdict is about a distance. -/
theorem isFresh_ne_zero {now lastValidTick staleMs : UInt32} (fresh : isFresh now lastValidTick staleMs = true) :
    lastValidTick ≠ 0 := by
  simp only [isFresh, Bool.and_eq_true, decide_eq_true_eq] at fresh
  exact fresh.1

/-- A range from the ToF sensor is kept only in range. -/
theorem tofMeasure_range (measurement : TofMeasurement) (readTicks : Nat) {tof : Tof}
    (sound : tof.lastValidTick ≠ 0 → TofRange tof.cmX10) :
    (tofMeasure measurement readTicks tof).lastValidTick ≠ 0 →
      TofRange (tofMeasure measurement readTicks tof).cmX10 := by
  cases measurement with
  | range rawMm =>
    simp only [tofMeasure]
    generalize scaledTofCmX10 rawMm = cmX10
    by_cases inside : (cmX10 ≥ tofMinCmX10 && cmX10 ≤ tofMaxCmX10) = true
    · rw [if_pos inside]
      intro _
      have low : tofMinCmX10.toNat = 30 := rfl
      have high : tofMaxCmX10.toNat = 4000 := rfl
      simp only [Bool.and_eq_true, decide_eq_true_eq, ge_iff_le, UInt32.le_iff_toNat_le, low, high] at inside
      simp only [Tof.diagnose]
      rw [TofRange, UInt32.toNat_toUInt16, Nat.mod_eq_of_lt (by omega)]
      exact inside
    · rw [if_neg inside]
      exact sound
  | startFail => exact sound
  | statusFail => exact sound
  | timeout => exact sound
  | rangeReadFail => exact sound

theorem cmX10_retryTof (sequence : UInt32) (loop : Loop) (tof : Tof) :
    (retryTof sequence loop tof).cmX10 = tof.cmX10 := by
  simp only [retryTof]
  split
  · unfold tofInit
    split
    · rfl
    · cases loop.setup <;> rfl
  · rfl

theorem tofUpdate_range (measurement : TofMeasurement) (readTicks checkTicks : Nat) {tof : Tof}
    (sound : tof.lastValidTick ≠ 0 → TofRange tof.cmX10) :
    let after := tofUpdate measurement readTicks checkTicks tof
    (after.1.lastValidTick ≠ 0 → TofRange after.1.cmX10) ∧ (after.2 = true → TofRange after.1.cmX10) := by
  intro after
  simp only [after, tofUpdate]
  split
  · exact ⟨sound, fun fresh => absurd fresh Bool.false_ne_true⟩
  · have measured := tofMeasure_range measurement readTicks sound
    exact ⟨measured, fun fresh => measured (isFresh_ne_zero fresh)⟩

/-- The field of an ultrasonic sensor. -/
def ultrasonicField (valid : Bool) (sensor : UltrasonicSensor) : UInt16 :=
  if valid then sensor.filteredCmX10 else sensor.lastDiag

/-- It holds a distance only beside a set bit, and a diagnosis only beside a clear one. -/
theorem UltrasonicSensor.Sound.field {sensor : UltrasonicSensor} (sound : sensor.Sound) {now : UInt32} {valid : Bool}
    (bit : valid = isFresh now sensor.lastValidTick ultraStaleMs) :
    (valid = true → UltraRange (ultrasonicField valid sensor)) ∧
      (valid = false → ultrasonicField valid sensor ∈ ultraDiags) := by
  constructor
  · rintro rfl
    exact sound.filtered (isFresh_ne_zero bit.symm)
  · rintro rfl
    exact sound.diag

/-! ### Runs -/

section
variable (stmFrequency : F32)

theorem SensorState.Sound.next {s : SensorState} (sound : s.Sound) (loop : Loop) :
    ((sensorNode stmFrequency).next s loop).Sound := by
  refine ⟨sound.left.sample _ _ _, sound.right.sample _ _ _, ?_⟩
  obtain ⟨sequence, next⟩ := tof_next stmFrequency s loop
  rw [next, lastValidTick_retryTof, cmX10_retryTof]
  exact (tofUpdate_range _ _ _ sound.tof).1

theorem sound_sensorInit (bootTicks : Nat) : (sensorInit bootTicks).Sound := by
  have empty : ultrasonicStart.Sound := by
    refine ⟨⟨rfl, by decide, by decide, fun _ => rfl, ?_⟩, by decide, fun stamped => absurd rfl stamped⟩
    intro place below
    exact absurd below (Nat.not_lt_zero place)
  exact ⟨empty, empty, fun stamped => absurd rfl stamped⟩

/-- The frame of one loop. -/
theorem SensorState.Sound.output {s : SensorState} (sound : s.Sound) (loop : Loop) :
    SoundFrame ((sensorNode stmFrequency).output s loop) := by
  have leftBit : Sensor.left.valid ((sensorNode stmFrequency).output s loop) =
      (ultrasonicUpdate stmFrequency loop.left.outcome loop.left.readTicks loop.left.checkTicks s.left).2 :=
    (validMask_bits _ _ _ _ _ _).2.1
  have rightBit : Sensor.right.valid ((sensorNode stmFrequency).output s loop) =
      (ultrasonicUpdate stmFrequency loop.right.outcome loop.right.readTicks loop.right.checkTicks s.right).2 :=
    (validMask_bits _ _ _ _ _ _).2.2
  have tofBit : Sensor.tof.valid ((sensorNode stmFrequency).output s loop) =
      (tofUpdate loop.tof.outcome loop.tof.readTicks loop.tof.checkTicks s.tof).2 :=
    (validMask_bits _ _ _ _ _ _).1
  have leftField : ((sensorNode stmFrequency).output s loop).ultrasonicLeftCmX10 =
      ultrasonicField (Sensor.left.valid ((sensorNode stmFrequency).output s loop))
        (ultrasonicSample stmFrequency loop.left.outcome loop.left.readTicks s.left) := by
    rw [leftBit]
    rfl
  have rightField : ((sensorNode stmFrequency).output s loop).ultrasonicRightCmX10 =
      ultrasonicField (Sensor.right.valid ((sensorNode stmFrequency).output s loop))
        (ultrasonicSample stmFrequency loop.right.outcome loop.right.readTicks s.right) := by
    rw [rightBit]
    rfl
  obtain ⟨leftValid, leftClear⟩ := (sound.left.sample stmFrequency loop.left.outcome loop.left.readTicks).field leftBit
  obtain ⟨rightValid, rightClear⟩ :=
    (sound.right.sample stmFrequency loop.right.outcome loop.right.readTicks).field rightBit
  have tofValid := (tofUpdate_range loop.tof.outcome loop.tof.readTicks loop.tof.checkTicks sound.tof).2
  rw [← leftField] at leftValid leftClear
  rw [← rightField] at rightValid rightClear
  rw [← tofBit] at tofValid
  exact ⟨leftValid, rightValid, tofValid, leftClear, rightClear⟩

/-- Every frame that the node sends. -/
theorem soundFrame_of_sent {bootTicks : Nat} {loops : List Loop} {frame : Frame}
    (sent : frame ∈ (sensorNode stmFrequency).outputs (sensorInit bootTicks) loops) : SoundFrame frame := by
  obtain ⟨before, loop, rest, -, rfl⟩ := (sensorNode stmFrequency).exists_of_mem_outputs sent
  have sound := (sensorNode stmFrequency).run_invariant SensorState.Sound
    (fun _ loop sound => sound.next stmFrequency loop) (sound_sensorInit bootTicks) before
  exact sound.output stmFrequency loop

end
end SelfDriving.Front
