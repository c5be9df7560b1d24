import SelfDriving.Front.Clock
import SelfDriving.Front.SensorNode

/-! When the valid bits of a sensor frame are right. A sensor's last in-range
reading is stamped with the lower word of the timer and never cleared, so the
age that the check sees is the true age less whole periods of that word. A bit
is wrong exactly when a period has passed and the rest looks young, or when the
reading was young enough at the check and no longer when the frame left. -/
namespace SelfDriving.Front
open Ieee754

/-- The sensors with a valid bit. -/
inductive Sensor where
  | left
  | right
  | tof

namespace Sensor

def bit : Sensor → UInt8
  | left => validUltraLeft
  | right => validUltraRight
  | tof => validTof

def staleMs : Sensor → UInt32
  | left => ultraStaleMs
  | right => ultraStaleMs
  | tof => tofStaleMs

/-- The longest true age, in ticks, of a reading that is not stale. -/
def staleTicks (sensor : Sensor) : Nat := sensor.staleMs.toNat * 100000

/-- The time of an in-range reading in a loop. -/
def reading (stmFrequency : F32) (s : SensorState) (loop : Loop) : Sensor → List Nat
  | left =>
    if (ultrasonicReadCmX10 stmFrequency loop.left.outcome s.left).2.isSome then [loop.left.readTicks] else []
  | right =>
    if (ultrasonicReadCmX10 stmFrequency loop.right.outcome s.right).2.isSome then [loop.right.readTicks] else []
  | tof =>
    match loop.tof.outcome with
    | .range rawMm =>
      if s.tof.present && scaledTofCmX10 rawMm ≥ tofMinCmX10 && scaledTofCmX10 rawMm ≤ tofMaxCmX10 then
        [loop.tof.readTicks]
      else []
    | _ => []

def readTicks (loop : Loop) : Sensor → Nat
  | left => loop.left.readTicks
  | right => loop.right.readTicks
  | tof => loop.tof.readTicks

def checkTicks (loop : Loop) : Sensor → Nat
  | left => loop.left.checkTicks
  | right => loop.right.checkTicks
  | tof => loop.tof.checkTicks

def lastValidTick (s : SensorState) : Sensor → UInt32
  | left => s.left.lastValidTick
  | right => s.right.lastValidTick
  | tof => s.tof.lastValidTick

/-- The valid bit of a frame. -/
def valid (sensor : Sensor) (frame : Frame) : Bool := frame.validMask &&& sensor.bit ≠ 0

/-- The times of the in-range readings of a run. -/
def readings (sensor : Sensor) (stmFrequency : F32) (s : SensorState) (loops : List Loop) : List Nat :=
  (sensorNode stmFrequency).collect (fun s loop => sensor.reading stmFrequency s loop) s loops

end Sensor

/-- The times of a loop in the order of its code. -/
def Loop.times (loop : Loop) : List Nat :=
  [loop.left.readTicks, loop.left.checkTicks, loop.right.readTicks, loop.right.checkTicks,
    loop.tof.readTicks, loop.tof.checkTicks, loop.stampTicks, loop.sentTicks, loop.initTicks]

/-- The stamp of the last reading, zero before the first. -/
def stampOf (last : Option Nat) : UInt32 := last.elim 0 nowTicks

/-- The stamps tell the last readings, and an absent ToF sensor has never been read. -/
structure Stamped (s : SensorState) (last : Sensor → Option Nat) : Prop where
  stamp : ∀ sensor : Sensor, sensor.lastValidTick s = stampOf (last sensor)
  absent : s.tof.present = false → s.tof.lastValidTick = 0

/-! ### One loop -/

theorem lastValidTick_ultrasonicSample (stmFrequency : F32) (echo : Echo) (readTicks : Nat)
    (sensor : UltrasonicSensor) : (ultrasonicSample stmFrequency echo readTicks sensor).lastValidTick =
      if (ultrasonicReadCmX10 stmFrequency echo sensor).2.isSome then nowTicks readTicks
      else sensor.lastValidTick := by
  have kept : (ultrasonicReadCmX10 stmFrequency echo sensor).1.lastValidTick = sensor.lastValidTick := by
    cases echo with
    | noRise => rfl
    | noFall => rfl
    | pulse pulseTicks =>
      simp only [ultrasonicReadCmX10]
      generalize pulseCmX10 stmFrequency pulseTicks = distanceCmX10
      by_cases out : (distanceCmX10 < ultraMinCmX10 || distanceCmX10 > ultraMaxCmX10) = true
      · simp only [out, if_true]
      · simp only [out, if_false, Bool.false_eq_true]
  unfold ultrasonicSample
  split
  · rename_i failed
    rw [failed] at kept ⊢
    exact kept
  · rename_i taken
    rw [taken]
    rfl

/-- A sample is stamped with its time when it has a distance. -/
theorem stamped_ultrasonicSample (stmFrequency : F32) (echo : Echo) (readTicks : Nat) (sensor : UltrasonicSensor) :
    (ultrasonicSample stmFrequency echo readTicks sensor).lastValidTick =
      (((if (ultrasonicReadCmX10 stmFrequency echo sensor).2.isSome then [readTicks] else []).getLast?).map
        nowTicks).getD sensor.lastValidTick := by
  rw [lastValidTick_ultrasonicSample]
  by_cases taken : (ultrasonicReadCmX10 stmFrequency echo sensor).2.isSome = true
  · simp only [taken, if_true, List.getLast?_singleton, Option.map_some, Option.getD_some]
  · simp only [taken, if_false, Bool.false_eq_true, List.getLast?_nil, Option.map_none, Option.getD_none]

theorem lastValidTick_tofInit (modelReads : List (Option UInt8)) (setup : TofSetup) (tof : Tof) :
    (tofInit modelReads setup tof).lastValidTick = tof.lastValidTick := by
  unfold tofInit
  split
  · rfl
  · cases setup <;> rfl

theorem lastValidTick_retryTof (sequence : UInt32) (loop : Loop) (tof : Tof) :
    (retryTof sequence loop tof).lastValidTick = tof.lastValidTick := by
  simp only [retryTof]
  split
  · exact lastValidTick_tofInit ..
  · rfl

/-- A sensor that is present stays present. -/
theorem present_retryTof {sequence : UInt32} {loop : Loop} {tof : Tof} (present : tof.present = true) :
    (retryTof sequence loop tof).present = true := by
  simp [retryTof, present]

theorem tofMeasure_spec (measurement : TofMeasurement) (readTicks : Nat) (tof : Tof) :
    (tofMeasure measurement readTicks tof).present = tof.present ∧
      (tofMeasure measurement readTicks tof).lastValidTick =
        match measurement with
        | .range rawMm =>
          if scaledTofCmX10 rawMm ≥ tofMinCmX10 && scaledTofCmX10 rawMm ≤ tofMaxCmX10 then nowTicks readTicks
          else tof.lastValidTick
        | _ => tof.lastValidTick := by
  cases measurement with
  | range rawMm =>
    simp only [tofMeasure]
    generalize scaledTofCmX10 rawMm = cmX10
    by_cases inside : (cmX10 ≥ tofMinCmX10 && cmX10 ≤ tofMaxCmX10) = true
    · simp only [inside, if_true, Tof.diagnose, and_self]
    · simp only [inside, if_false, Tof.diagnose, Bool.false_eq_true, and_self]
  | startFail => exact ⟨rfl, rfl⟩
  | statusFail => exact ⟨rfl, rfl⟩
  | timeout => exact ⟨rfl, rfl⟩
  | rangeReadFail => exact ⟨rfl, rfl⟩

section
variable (stmFrequency : F32)

theorem tof_next (s : SensorState) (loop : Loop) : ∃ sequence, ((sensorNode stmFrequency).next s loop).tof =
    retryTof sequence loop (tofUpdate loop.tof.outcome loop.tof.readTicks loop.tof.checkTicks s.tof).1 :=
  ⟨_, rfl⟩

/-- A loop stamps a sensor with its in-range reading, and leaves it alone without one. -/
theorem lastValidTick_next (sensor : Sensor) (s : SensorState) (loop : Loop) :
    sensor.lastValidTick ((sensorNode stmFrequency).next s loop) =
      ((sensor.reading stmFrequency s loop).getLast?.map nowTicks).getD (sensor.lastValidTick s) := by
  cases sensor with
  | left => exact stamped_ultrasonicSample stmFrequency loop.left.outcome loop.left.readTicks s.left
  | right => exact stamped_ultrasonicSample stmFrequency loop.right.outcome loop.right.readTicks s.right
  | tof =>
    obtain ⟨sequence, next⟩ := tof_next stmFrequency s loop
    simp only [Sensor.lastValidTick, next, lastValidTick_retryTof, Sensor.reading]
    by_cases present : s.tof.present = true
    · have measured := (tofMeasure_spec loop.tof.outcome loop.tof.readTicks s.tof).2
      simp only [tofUpdate, present, Bool.not_true, Bool.false_eq_true, if_false, Bool.true_and]
      rw [measured]
      cases loop.tof.outcome with
      | range rawMm =>
        by_cases inside : (scaledTofCmX10 rawMm ≥ tofMinCmX10 && scaledTofCmX10 rawMm ≤ tofMaxCmX10) = true
        · simp only [inside, if_true, List.getLast?_singleton, Option.map_some, Option.getD_some]
        · simp only [inside, if_false, Bool.false_eq_true, List.getLast?_nil, Option.map_none, Option.getD_none]
      | startFail => rfl
      | statusFail => rfl
      | timeout => rfl
      | rangeReadFail => rfl
    · simp only [tofUpdate, present, Bool.not_false, if_true, Bool.false_and, Bool.false_eq_true, if_false]
      cases loop.tof.outcome <;> rfl

/-- The valid bits of the frame that is sent. -/
theorem validMask_bits (a b c d e g : Bool) :
    let mask := maskBit a validTof ||| maskBit b validUltraLeft ||| maskBit c validUltraRight |||
      maskBit d validSteeringRx ||| maskBit e validSteeringCommand ||| maskBit g validSteeringCenter
    (decide (mask &&& validTof ≠ 0) = a) ∧ (decide (mask &&& validUltraLeft ≠ 0) = b) ∧
      (decide (mask &&& validUltraRight ≠ 0) = c) := by
  revert a b c d e g
  decide

theorem valid_output (sensor : Sensor) (s : SensorState) (loop : Loop)
    (absent : s.tof.present = false → s.tof.lastValidTick = 0) :
    sensor.valid ((sensorNode stmFrequency).output s loop) =
      isFresh (nowTicks (sensor.checkTicks loop)) (sensor.lastValidTick ((sensorNode stmFrequency).next s loop))
        sensor.staleMs := by
  cases sensor with
  | left => exact (validMask_bits _ _ _ _ _ _).2.1
  | right => exact (validMask_bits _ _ _ _ _ _).2.2
  | tof =>
    have sent : Sensor.tof.valid ((sensorNode stmFrequency).output s loop) =
        (tofUpdate loop.tof.outcome loop.tof.readTicks loop.tof.checkTicks s.tof).2 :=
      (validMask_bits _ _ _ _ _ _).1
    rw [sent]
    obtain ⟨sequence, next⟩ := tof_next stmFrequency s loop
    simp only [Sensor.lastValidTick, next, lastValidTick_retryTof, Sensor.checkTicks]
    by_cases present : s.tof.present = true
    · simp only [tofUpdate, present, Bool.not_true, Bool.false_eq_true, if_false, Sensor.staleMs]
    · simp only [tofUpdate, present, Bool.not_false, if_true]
      rw [absent (by simpa using present)]
      rfl

/-! ### Runs -/

/-- The freshness check is right about an age that is below a period of the timer's word. -/
theorem isFresh_iff {last check : Nat} (le : last ≤ check) (sensor : Sensor) :
    isFresh (nowTicks check) (nowTicks last) sensor.staleMs = true ↔
      last % 2 ^ 32 ≠ 0 ∧ (check - last) % 2 ^ 32 ≤ sensor.staleTicks := by
  have stale : (ticksFromMs sensor.staleMs).toNat = sensor.staleTicks := by
    cases sensor <;> rfl
  have zero : nowTicks last = 0 ↔ last % 2 ^ 32 = 0 := by
    rw [← UInt32.toNat_inj, nowTicks, UInt32.toNat_ofNat']
    rfl
  have age : (nowTicks check - nowTicks last).toNat = (check - last) % 2 ^ 32 := by
    rw [nowTicks, nowTicks, ← UInt32.ofNat_sub le, UInt32.toNat_ofNat']
  simp only [isFresh, Bool.and_eq_true, decide_eq_true_eq, ne_eq, zero, UInt32.le_iff_toNat_le, age, stale]

theorem stamped_next {s : SensorState} {last : Sensor → Option Nat} (stamped : Stamped s last) (loop : Loop) :
    Stamped ((sensorNode stmFrequency).next s loop)
      (fun sensor => (sensor.reading stmFrequency s loop).getLast?.or (last sensor)) := by
  constructor
  · intro sensor
    rw [lastValidTick_next, stamped.stamp]
    cases (sensor.reading stmFrequency s loop).getLast? <;> rfl
  · obtain ⟨sequence, next⟩ := tof_next stmFrequency s loop
    rw [next, lastValidTick_retryTof]
    by_cases present : s.tof.present = true
    · intro lost
      have measured := (tofMeasure_spec loop.tof.outcome loop.tof.readTicks s.tof).1
      rw [present_retryTof] at lost
      · cases lost
      · simp only [tofUpdate, present, Bool.not_true, Bool.false_eq_true, if_false, measured]
    · intro _
      simp only [tofUpdate, present, Bool.not_false, if_true]
      exact stamped.absent (by simpa using present)

theorem stamped_run (bootTicks : Nat) (loops : List Loop) :
    Stamped ((sensorNode stmFrequency).run (sensorInit bootTicks) loops)
      (fun sensor => (sensor.readings stmFrequency (sensorInit bootTicks) loops).getLast?) := by
  induction loops using List.reverseRecOn with
  | nil => exact ⟨fun sensor => by cases sensor <;> rfl, fun _ => rfl⟩
  | append_singleton loops loop ih =>
    simp only [Sensor.readings, Machine.run_concat, Machine.collect_concat, List.getLast?_append]
    exact stamped_next stmFrequency ih loop

/-- What a valid bit says at a time: an in-range reading is not stale yet. -/
def FreshAt (sensor : Sensor) (readings : List Nat) (ticks : Nat) : Prop :=
  ∃ read ∈ readings, read ≤ ticks ∧ ticks ≤ read + sensor.staleTicks

/-- The check takes an old reading for a young one: a period or more has passed
since the reading and the rest of its age is young. -/
def Aliased (sensor : Sensor) (last check : Nat) : Prop :=
  last % 2 ^ 32 ≠ 0 ∧ 2 ^ 32 ≤ check - last ∧ (check - last) % 2 ^ 32 ≤ sensor.staleTicks

/-- The reading turns stale between the check and the sending. -/
def SentLate (sensor : Sensor) (last check sent : Nat) : Prop :=
  last % 2 ^ 32 ≠ 0 ∧ check - last ≤ sensor.staleTicks ∧ sensor.staleTicks < sent - last

theorem reading_sublist (sensor : Sensor) (s : SensorState) (loop : Loop) :
    (sensor.reading stmFrequency s loop).Sublist [sensor.readTicks loop] := by
  have taken (ticks : Nat) (inRange : Bool) : (if inRange then [ticks] else []).Sublist [ticks] := by
    cases inRange <;> simp
  cases sensor with
  | left => exact taken ..
  | right => exact taken ..
  | tof =>
    unfold Sensor.reading
    cases loop.tof.outcome with
    | range rawMm => exact taken ..
    | _ => exact List.nil_sublist _

/-- One loop reads, checks and sends in this order. -/
theorem times_sublist (sensor : Sensor) (loop : Loop) :
    [sensor.readTicks loop, sensor.checkTicks loop, loop.sentTicks].Sublist loop.times := by
  cases sensor with
  | left => exact .cons_cons _ (.cons_cons _ (.cons _ (.cons _ (.cons _ (.cons _ (.cons _ (.cons_cons _ (List.nil_sublist _))))))))
  | right => exact .cons _ (.cons _ (.cons_cons _ (.cons_cons _ (.cons _ (.cons _ (.cons _ (.cons_cons _ (List.nil_sublist _))))))))
  | tof => exact .cons _ (.cons _ (.cons _ (.cons _ (.cons_cons _ (.cons_cons _ (.cons _ (.cons_cons _ (List.nil_sublist _))))))))

/-- Over an ordered run the readings of a sensor come in order and before the
last check, and the check before the last sending. -/
theorem readings_sorted (sensor : Sensor) (s : SensorState) {loops : List Loop} {loop : Loop}
    (ordered : ((loops ++ [loop]).flatMap Loop.times).Pairwise (· ≤ ·)) :
    (sensor.readings stmFrequency s (loops ++ [loop]) ++ [sensor.checkTicks loop, loop.sentTicks]).Pairwise
      (· ≤ ·) := by
  refine List.Pairwise.sublist ?_ ordered
  have before := (sensorNode stmFrequency).collect_sublist (fun s loop => sensor.reading stmFrequency s loop)
    Loop.times (fun s loop => (reading_sublist stmFrequency sensor s loop).trans
      ((List.sublist_append_left [sensor.readTicks loop] [sensor.checkTicks loop, loop.sentTicks]).trans
        (times_sublist sensor loop))) s loops
  rw [Sensor.readings, Machine.collect_concat, List.append_assoc, List.flatMap_append]
  refine before.append ?_
  rw [List.flatMap_singleton]
  exact ((reading_sublist stmFrequency sensor _ loop).append_right _).trans (times_sublist sensor loop)

theorem freshAt_iff {sensor : Sensor} {readings : List Nat} {last ticks : Nat}
    (newest : readings.getLast? = some last) (sorted : ∀ read ∈ readings, read ≤ last) (le : last ≤ ticks) :
    FreshAt sensor readings ticks ↔ ticks ≤ last + sensor.staleTicks := by
  constructor
  · rintro ⟨read, member, -, young⟩
    have := sorted read member
    omega
  · exact fun young => ⟨last, List.mem_of_getLast? newest, le, young⟩

/-- A valid bit is the freshness check of the last in-range reading. -/
theorem valid_sent (sensor : Sensor) (bootTicks : Nat) (loops : List Loop) (loop : Loop) :
    sensor.valid ((sensorNode stmFrequency).output
        ((sensorNode stmFrequency).run (sensorInit bootTicks) loops) loop) =
      isFresh (nowTicks (sensor.checkTicks loop))
        (stampOf (sensor.readings stmFrequency (sensorInit bootTicks) (loops ++ [loop])).getLast?)
        sensor.staleMs := by
  have stamped := (stamped_run stmFrequency bootTicks (loops ++ [loop])).stamp sensor
  rw [Machine.run_concat] at stamped
  rw [← stamped]
  exact valid_output stmFrequency sensor _ loop (stamped_run stmFrequency bootTicks loops).absent

/-- A valid bit of a sent frame is right at the check unless the age is aliased,
and right at the sending unless the frame is late as well: for every run, every
frame and every sensor. -/
theorem valid_bit_right_iff (bootTicks : Nat) (loops : List Loop) (loop : Loop)
    (ordered : ((loops ++ [loop]).flatMap Loop.times).Pairwise (· ≤ ·)) (sensor : Sensor) :
    let s := (sensorNode stmFrequency).run (sensorInit bootTicks) loops
    let sent := (sensorNode stmFrequency).output s loop
    let readings := sensor.readings stmFrequency (sensorInit bootTicks) (loops ++ [loop])
    ((sensor.valid sent = true → FreshAt sensor readings (sensor.checkTicks loop)) ↔
      ∀ last, readings.getLast? = some last → ¬ Aliased sensor last (sensor.checkTicks loop)) ∧
    ((sensor.valid sent = true → FreshAt sensor readings loop.sentTicks) ↔
      ∀ last, readings.getLast? = some last → ¬ Aliased sensor last (sensor.checkTicks loop) ∧
        ¬ SentLate sensor last (sensor.checkTicks loop) loop.sentTicks) := by
  intro s sent readings
  have valid : sensor.valid sent = isFresh (nowTicks (sensor.checkTicks loop)) (stampOf readings.getLast?)
      sensor.staleMs := valid_sent stmFrequency sensor bootTicks loops loop
  have sorted := List.pairwise_append.mp (readings_sorted stmFrequency sensor (sensorInit bootTicks) ordered)
  cases newest : readings.getLast? with
  | none =>
    have invalid : sensor.valid sent = false := by
      rw [valid, newest]
      cases sensor <;> rfl
    simp [invalid]
  | some last =>
    have before := sorted.2.2 last (List.mem_of_getLast? newest)
    have checked : last ≤ sensor.checkTicks loop := before _ (by simp)
    have left : sensor.checkTicks loop ≤ loop.sentTicks := by
      simpa using sorted.2.1
    have maximal : ∀ read ∈ readings, read ≤ last := by
      obtain ⟨former, split⟩ := List.getLast?_eq_some_iff.mp newest
      intro read member
      have order := sorted.1
      change readings.Pairwise _ at order
      rw [split] at order member
      rcases List.mem_append.mp member with old | same
      · exact (List.pairwise_append.mp order).2.2 read old last (by simp)
      · exact (List.mem_singleton.mp same).le
    have bounded : sensor.staleTicks < 2 ^ 32 := by
      cases sensor <;> decide
    rw [valid, newest]
    change (isFresh _ (nowTicks last) _ = true → _ ↔ _) ∧ (isFresh _ (nowTicks last) _ = true → _ ↔ _)
    rw [isFresh_iff checked, freshAt_iff newest maximal checked, freshAt_iff newest maximal (checked.trans left)]
    simp only [Option.some.injEq, forall_eq', Aliased, SentLate]
    constructor
    · omega
    · omega

end

/-! ### A sensor that dies -/

/-- Loops of 85.9 ms of which only the first has an echo, from the left sensor. -/
def dyingLoop (index : Nat) : Loop :=
  let ticks := 1000000 + index * 8589935
  { left := ⟨if index = 0 then .pulse 100000 else .noRise, ticks + 100000, ticks + 100100⟩
    right := ⟨.noRise, ticks + 2000000, ticks + 2000100⟩
    tof := ⟨.startFail, ticks + 2000200, ticks + 2000300⟩
    stampTicks := ticks + 2000400
    steering := getStatus 0 (init 0)
    sentTicks := ticks + 2000500
    initTicks := ticks + 2000600
    modelReads := [none, none, none, none, none]
    setup := .writeFail }

theorem readings_dyingLoop (count : Nat) :
    Sensor.left.readings stmFrequency (sensorInit 0) ((List.range (count + 1)).map dyingLoop) = [1100000] := by
  rw [List.range_succ_eq_map, List.map_cons, Sensor.readings, Machine.collect, Machine.collect_eq_nil]
  · decide +kernel
  · intro s loop member
    simp only [List.map_map, List.mem_map, List.mem_range, Function.comp_apply] at member
    obtain ⟨index, -, rfl⟩ := member
    simp [Sensor.reading, dyingLoop, ultrasonicReadCmX10]

theorem dyingLoop_ordered (count : Nat) :
    (((List.range count).map dyingLoop).flatMap Loop.times).Pairwise (· ≤ ·) := by
  have bounds (index ticks : Nat) (member : ticks ∈ (dyingLoop index).times) :
      1000000 + index * 8589935 ≤ ticks ∧ ticks ≤ 1000000 + index * 8589935 + 2000600 := by
    simp only [Loop.times, dyingLoop, List.mem_cons, List.not_mem_nil, or_false] at member
    omega
  rw [List.pairwise_flatMap, List.pairwise_map]
  refine ⟨fun loop member => ?_, List.pairwise_lt_range.imp fun {first second} less x left y right => ?_⟩
  · obtain ⟨index, -, rfl⟩ := List.mem_map.mp member
    simp [Loop.times, dyingLoop]
  · have := bounds first x left
    have := bounds second y right
    omega

/-- Five hundred loops after its only reading the left sensor's bit is set again. -/
theorem dead_sensor_valid :
    let loops := (List.range 500).map dyingLoop
    ((loops ++ [dyingLoop 500]).flatMap Loop.times).Pairwise (· ≤ ·) ∧
      ¬ (Sensor.left.valid ((sensorNode stmFrequency).output
          ((sensorNode stmFrequency).run (sensorInit 0) loops) (dyingLoop 500)) = true →
        FreshAt .left (Sensor.left.readings stmFrequency (sensorInit 0) (loops ++ [dyingLoop 500]))
          (dyingLoop 500).sentTicks) := by
  intro loops
  have all : loops ++ [dyingLoop 500] = (List.range 501).map dyingLoop := by
    rw [List.range_succ, List.map_append]
    rfl
  rw [all]
  refine ⟨dyingLoop_ordered 501, fun right => ?_⟩
  rw [valid_sent, all, readings_dyingLoop 500] at right
  have past : 1100000 ≤ Sensor.left.checkTicks (dyingLoop 500) := by decide
  obtain ⟨read, member, _, young⟩ := right ((isFresh_iff past Sensor.left).mpr (by decide))
  rw [List.mem_singleton.mp member] at young
  revert young
  decide

theorem valid_bit_right_first_loop :
    FreshAt .left (Sensor.left.readings stmFrequency (sensorInit 0) [dyingLoop 0]) (dyingLoop 0).sentTicks := by
  have first := valid_bit_right_iff stmFrequency 0 [] (dyingLoop 0) (dyingLoop_ordered 1) .left
  have readings : Sensor.left.readings stmFrequency (sensorInit 0) ([] ++ [dyingLoop 0]) = [1100000] :=
    readings_dyingLoop 0
  refine first.2.mpr (fun last newest => ?_) (by decide +kernel)
  rw [readings] at newest
  cases newest
  exact ⟨fun aliased => absurd aliased.2.1 (by decide), fun late => absurd late.2.2 (by decide)⟩

end SelfDriving.Front
