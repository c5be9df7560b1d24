import SelfDriving.Front.TofDriverProofs

/-! The diagnosis of the time-of-flight sensor in a frame, and when the node tries an absent sensor
again. The high byte of the diagnosis is the model that answered, the low byte says how far the node
got with it. -/
namespace SelfDriving.Front
open Ieee754 RegisterBus

/-- The diagnoses of a sensor in use: its model, and how its last measurement ended. -/
def measureDiags : List UInt16 := [0xEE03, 0xEEB1, 0xEEB2, 0xEEB3, 0xEEB4, 0xEEB5]

/-- The diagnoses of a sensor that could not be set up: no model, another model, or the sensor's own
model with what failed. -/
def InitDiag (diag : UInt16) : Prop :=
  diag = 0x00A1 ∨ diag = 0xEEA3 ∨ diag = 0xEEA4 ∨ ∃ modelId : UInt8, modelId ≠ 0xEE ∧ diag = modelId.toUInt16 <<< 8 ||| 0xA2

/-- What the diagnosis says of the sensor. -/
structure Tof.Diagnosed (tof : Tof) : Prop where
  inUse : tof.present = true → tof.diag ∈ measureDiags
  failed : tof.present = false → tof.diag = 0 ∨ InitDiag tof.diag

/-- What a frame says of the sensor; a measurement that went well comes with its distance. -/
structure DiagnosedFrame (frame : Frame) : Prop where
  known : frame.tofDiag = 0 ∨ InitDiag frame.tofDiag ∨ frame.tofDiag ∈ measureDiags
  valid : Sensor.tof.valid frame = true → frame.tofDiag ∈ measureDiags
  measured : frame.tofDiag = 0xEE03 → TofRange frame.tofFrontCmX10

theorem initDiag_ne {diag : UInt16} (init : InitDiag diag) : diag ≠ 0xEE03 := by
  rintro rfl
  rcases init with same | same | same | ⟨modelId, -, same⟩
  · exact absurd same (by decide)
  · exact absurd same (by decide)
  · exact absurd same (by decide)
  · have bit := congrArg (fun diag : UInt16 => diag.toBitVec.getLsbD 5) same
    simp at bit

/-! ### Setting up -/

section
variable {ℓ : Type} (link : Link ℓ)

/-- A probe that fails was answered by no model or by another. -/
theorem probeSensor_failed (attempts : Nat) (sensor : ℓ) (diag : UInt16)
    (failed : (probeSensor link (attempts + 1) sensor diag).2.2 = false) :
    InitDiag (probeSensor link (attempts + 1) sensor diag).2.1 := by
  induction attempts generalizing sensor diag with
  | zero =>
    rw [probeSensor] at failed ⊢
    cases answer : link.run (vl53l0xRead8 modelIdRegister) sensor with
    | mk sensor' result =>
      rw [answer] at failed
      cases result with
      | none => exact .inl rfl
      | some modelId =>
        dsimp only at failed ⊢
        split at failed
        · cases failed
        · rw [if_neg ‹_›]
          exact .inr (.inr (.inr ⟨modelId, ‹_›, rfl⟩))
  | succ attempts ih =>
    rw [probeSensor] at failed ⊢
    cases answer : link.run (vl53l0xRead8 modelIdRegister) sensor with
    | mk sensor' result =>
      rw [answer] at failed
      cases result with
      | none => exact ih _ _ failed
      | some modelId =>
        dsimp only at failed ⊢
        split at failed
        · cases failed
        · rw [if_neg ‹_›]
          exact ih _ _ failed

theorem initSensor_diagnosed (polls : SetupPolls) (sensor : ℓ) (tof : Tof) :
    (initSensor link polls sensor tof).2.Diagnosed := by
  have found := diag_of_probe link 5 sensor tof.diag
  have failed := probeSensor_failed link 4 sensor tof.diag
  rw [initSensor]
  cases result : probeSensor link 5 sensor tof.diag with
  | mk sensor' rest =>
    obtain ⟨diag, ok⟩ := rest
    rw [result] at found failed
    cases ok with
    | false => exact ⟨fun present => Bool.noConfusion present, fun _ => .inr (failed rfl)⟩
    | true =>
      obtain rfl : diag = 0xEE03 := found rfl
      obtain ⟨setup, ends⟩ := vl53l0xInitSensor_setup link polls sensor' 0xEE03
      dsimp only
      cases init : vl53l0xInitSensor link polls sensor' 0xEE03 with
      | mk sensor'' outcome =>
        rw [init] at ends
        subst ends
        cases setup with
        | ready => exact ⟨fun _ => List.mem_cons_self .., fun absent => Bool.noConfusion absent⟩
        | calibrationFail => exact ⟨fun present => Bool.noConfusion present, fun _ => .inr (.inr (.inr (.inl rfl)))⟩
        | writeFail => exact ⟨fun present => Bool.noConfusion present, fun _ => .inr (.inr (.inl rfl))⟩

/-! ### Measuring -/

theorem model_of_inUse {diag : UInt16} (inUse : diag ∈ measureDiags) : diag &&& 0xFF00 = 0xEE00 := by
  have each : ∀ diag ∈ measureDiags, diag &&& 0xFF00 = 0xEE00 := by
    simp only [measureDiags, List.forall_mem_cons, List.not_mem_nil, false_implies, implies_true]
    decide
  exact each diag inUse

/-- The code of a measurement takes the place of the one before it. -/
theorem diagnose_mem {diag code : UInt16} (inUse : diag ∈ measureDiags) (known : 0xEE00 ||| code ∈ measureDiags) :
    diag &&& 0xFF00 ||| code ∈ measureDiags := by
  rwa [model_of_inUse inUse]

theorem Tof.Diagnosed.measure {tof : Tof} (diagnosed : tof.Diagnosed) (present : tof.present = true)
    (measurement : TofMeasurement) (readTicks : Nat) :
    (tofMeasure measurement readTicks tof).diag ∈ measureDiags ∧
      ((tofMeasure measurement readTicks tof).diag = 0xEE03 → TofRange (tofMeasure measurement readTicks tof).cmX10) := by
  have inUse := diagnosed.inUse present
  have other {code : UInt16} (known : 0xEE00 ||| code ∈ measureDiags.tail) :
      (tof.diagnose code).diag ∈ measureDiags ∧ ((tof.diagnose code).diag = 0xEE03 → TofRange tof.cmX10) := by
    refine ⟨diagnose_mem inUse (List.mem_of_mem_tail known), fun ok => ?_⟩
    rw [Tof.diagnose, model_of_inUse inUse] at ok
    rw [show (0xEE00 ||| code : UInt16) = 0xEE03 from ok] at known
    exact absurd known (by decide)
  cases measurement with
  | startFail => exact other (by decide)
  | statusFail => exact other (by decide)
  | timeout => exact other (by decide)
  | rangeReadFail => exact other (by decide)
  | range rawMm =>
    simp only [tofMeasure]
    generalize scaledTofCmX10 rawMm = cmX10
    split
    · rename_i inside
      have low : tofMinCmX10.toNat = 30 := rfl
      have high : tofMaxCmX10.toNat = 4000 := rfl
      simp only [Bool.and_eq_true, decide_eq_true_eq, ge_iff_le, UInt32.le_iff_toNat_le, low, high] at inside
      refine ⟨diagnose_mem inUse (by decide), fun _ => ?_⟩
      rw [Tof.diagnose, TofRange, UInt32.toNat_toUInt16, Nat.mod_eq_of_lt (by omega)]
      exact inside
    · exact other (by decide)

/-- What an update leaves, and what a frame may say after it. -/
theorem updateSensor_diagnosed (polls readTicks checkTicks : Nat) (sensor : ℓ) {tof : Tof} (diagnosed : tof.Diagnosed) :
    let after := (updateSensor link polls readTicks checkTicks sensor tof).2
    after.1.Diagnosed ∧ (after.2 = true → after.1.diag ∈ measureDiags) ∧
      (after.1.diag = 0xEE03 → TofRange after.1.cmX10) := by
  intro after
  obtain ⟨measurement, same⟩ := updateSensor_tof link polls readTicks checkTicks sensor tof
  simp only [after, same, tofUpdate]
  cases present : tof.present with
  | false =>
    refine ⟨diagnosed, fun valid => Bool.noConfusion valid, fun ok => ?_⟩
    rcases diagnosed.failed present with untried | init
    · exact absurd (untried.symm.trans ok) (by decide)
    · exact absurd ok (initDiag_ne init)
  | true =>
    obtain ⟨inUse, measured⟩ := diagnosed.measure present measurement readTicks
    have still := (tofMeasure_spec measurement readTicks tof).1.trans present
    refine ⟨⟨fun _ => inUse, fun absent => ?_⟩, fun _ => inUse, measured⟩
    exact absurd (absent.symm.trans still) Bool.false_ne_true

/-! ### Runs -/

section
variable (stmFrequency : F32)

theorem driverNode_diagnosed {s : DriverState ℓ} (diagnosed : s.tof.Diagnosed) (loop : DriverLoop ℓ) :
    ((driverNode link stmFrequency).next s loop).tof.Diagnosed ∧
      DiagnosedFrame ((driverNode link stmFrequency).output s loop) := by
  obtain ⟨after, valid, measured⟩ :=
    updateSensor_diagnosed link loop.polls loop.tofReadTicks loop.tofCheckTicks s.sensor diagnosed
  constructor
  · simp only [Machine.next, driverNode, retrySensor]
    split
    · exact initSensor_diagnosed ..
    · exact after
  · have bit : Sensor.tof.valid ((driverNode link stmFrequency).output s loop) =
        (updateSensor link loop.polls loop.tofReadTicks loop.tofCheckTicks s.sensor s.tof).2.2 :=
      (validMask_bits _ _ _ _ _ _).1
    refine ⟨?_, fun set => valid (bit.symm.trans set), measured⟩
    cases present : (updateSensor link loop.polls loop.tofReadTicks loop.tofCheckTicks s.sensor s.tof).2.1.present with
    | true => exact .inr (.inr (after.inUse present))
    | false =>
      rcases after.failed present with untried | init
      · exact .inl untried
      · exact .inr (.inl init)

/-- Whatever the sensor and its bus do, the diagnosis in every frame is a known one; a set bit comes
with the diagnosis of the sensor's own model in use, and the diagnosis of a good measurement only
with a distance that the sensor measures. -/
theorem diagnosedFrame_of_sent {sensor : ℓ} {bootTicks : Nat} {loops : List (DriverLoop ℓ)} {frame : Frame}
    (sent : frame ∈ (driverNode link stmFrequency).outputs (driverInit sensor bootTicks) loops) :
    DiagnosedFrame frame := by
  obtain ⟨before, loop, rest, -, rfl⟩ := (driverNode link stmFrequency).exists_of_mem_outputs sent
  have start : (driverInit sensor bootTicks).tof.Diagnosed :=
    ⟨fun present => Bool.noConfusion present, fun _ => .inl rfl⟩
  have reached := (driverNode link stmFrequency).run_invariant (fun s => s.tof.Diagnosed)
    (fun _ loop diagnosed => (driverNode_diagnosed link stmFrequency diagnosed loop).1) start before
  exact (driverNode_diagnosed link stmFrequency reached loop).2

/-! ### Trying again -/

/-- Whether a loop tries to set the sensor up. -/
def tries (s : DriverState ℓ) (loop : DriverLoop ℓ) : Bool :=
  !s.tof.present && s.frame.sequence + 1 ≥ tofInitDelayFrames &&
    (!s.tof.initAttempted || nowTicks loop.initTicks - s.tof.nextInitTick < 0x80000000)

/-- The times of the tries of a run. -/
def attempts (s : DriverState ℓ) (loops : List (DriverLoop ℓ)) : List Nat :=
  (driverNode link stmFrequency).collect (fun s loop => if tries s loop then [loop.initTicks] else []) s loops

/-- The ticks between two tries. -/
def tofRetryTicks : Nat := 100000000

/-- What the node knows of its last try. -/
structure Tried (s : DriverState ℓ) (last : Option Nat) : Prop where
  attempted : s.tof.initAttempted = last.isSome
  next : ∀ time ∈ last, s.tof.nextInitTick = nowTicks (time + tofRetryTicks)

/-- A wait after some time that the timer's word sees as over. -/
def Due (wait last now : Nat) : Prop := wait ≤ (now - last) % 2 ^ 32 ∧ (now - last) % 2 ^ 32 < wait + 2 ^ 31

theorem due_iff {wait last now : Nat} (small : wait ≤ 2 ^ 31) (le : last ≤ now) :
    nowTicks now - nowTicks (last + wait) < 0x80000000 ↔ Due wait last now := by
  have far : (nowTicks now - nowTicks (last + wait)).toNat =
      (2 ^ 32 - (last + wait) % 2 ^ 32 + now % 2 ^ 32) % 2 ^ 32 := by
    rw [UInt32.toNat_sub, nowTicks, nowTicks, UInt32.toNat_ofNat', UInt32.toNat_ofNat']
  rw [UInt32.lt_iff_toNat_lt, far, Due]
  simp only [UInt32.reduceToNat]
  omega

theorem tofMeasure_attempt (measurement : TofMeasurement) (readTicks : Nat) (tof : Tof) :
    (tofMeasure measurement readTicks tof).initAttempted = tof.initAttempted ∧
      (tofMeasure measurement readTicks tof).nextInitTick = tof.nextInitTick := by
  cases measurement with
  | range rawMm =>
    simp only [tofMeasure]
    generalize scaledTofCmX10 rawMm = cmX10
    by_cases inside : (cmX10 ≥ tofMinCmX10 && cmX10 ≤ tofMaxCmX10) = true
    · simp only [inside, if_true, Tof.diagnose, and_self]
    · simp only [inside, if_false, Tof.diagnose, Bool.false_eq_true, and_self]
  | startFail => exact ⟨rfl, rfl⟩
  | statusFail => exact ⟨rfl, rfl⟩
  | timeout => exact ⟨rfl, rfl⟩
  | rangeReadFail => exact ⟨rfl, rfl⟩

theorem tofUpdate_attempt (measurement : TofMeasurement) (readTicks checkTicks : Nat) (tof : Tof) :
    (tofUpdate measurement readTicks checkTicks tof).1.present = tof.present ∧
      (tofUpdate measurement readTicks checkTicks tof).1.initAttempted = tof.initAttempted ∧
      (tofUpdate measurement readTicks checkTicks tof).1.nextInitTick = tof.nextInitTick := by
  rw [tofUpdate]
  split
  · exact ⟨rfl, rfl, rfl⟩
  · exact ⟨(tofMeasure_spec ..).1, tofMeasure_attempt ..⟩

theorem initSensor_attempt (polls : SetupPolls) (sensor : ℓ) (tof : Tof) :
    (initSensor link polls sensor tof).2.initAttempted = tof.initAttempted ∧
      (initSensor link polls sensor tof).2.nextInitTick = tof.nextInitTick := by
  obtain ⟨reads, setup, same⟩ := initSensor_tof link polls sensor tof
  rw [same, tofInit]
  split
  · exact ⟨rfl, rfl⟩
  · cases setup <;> exact ⟨rfl, rfl⟩

/-- A loop that tries takes the time of it down; another changes nothing of it. -/
theorem Tried.next_loop {s : DriverState ℓ} {last : Option Nat} (tried : Tried s last) (loop : DriverLoop ℓ) :
    Tried ((driverNode link stmFrequency).next s loop) (if tries s loop then some loop.initTicks else last) := by
  obtain ⟨measurement, same⟩ :=
    updateSensor_tof link loop.polls loop.tofReadTicks loop.tofCheckTicks s.sensor s.tof
  obtain ⟨present, attempted, next⟩ := tofUpdate_attempt measurement loop.tofReadTicks loop.tofCheckTicks s.tof
  rw [← same] at present attempted next
  have stepped : ((driverNode link stmFrequency).next s loop).tof =
      if tries s loop then
        (initSensor link loop.setupPolls loop.reset
          { (updateSensor link loop.polls loop.tofReadTicks loop.tofCheckTicks s.sensor s.tof).2.1 with
            initAttempted := true
            nextInitTick := nowTicks loop.initTicks + ticksFromMs tofRetryIntervalMs }).2
      else (updateSensor link loop.polls loop.tofReadTicks loop.tofCheckTicks s.sensor s.tof).2.1 := by
    rw [tries, ← present, ← attempted, ← next]
    simp only [Machine.next, driverNode, retrySensor]
    exact apply_ite Prod.snd ..
  constructor
  · rw [stepped]
    split
    · rw [(initSensor_attempt ..).1]
      rfl
    · rw [attempted, tried.attempted]
  · intro time now
    rw [stepped]
    split
    · rw [if_pos ‹_›] at now
      cases now
      rw [(initSensor_attempt ..).2]
      exact (UInt32.ofNat_add loop.initTicks tofRetryTicks).symm
    · rw [if_neg ‹_›] at now
      rw [next, tried.next time now]

theorem Tried.tries_iff {s : DriverState ℓ} {last : Option Nat} (tried : Tried s last) (loop : DriverLoop ℓ)
    (later : ∀ time ∈ last, time ≤ loop.initTicks) :
    tries s loop = true ↔ s.tof.present = false ∧ s.frame.sequence + 1 ≥ tofInitDelayFrames ∧
      ∀ time ∈ last, Due tofRetryTicks time loop.initTicks := by
  have wait : (!s.tof.initAttempted || nowTicks loop.initTicks - s.tof.nextInitTick < 0x80000000) = true ↔
      ∀ time ∈ last, Due tofRetryTicks time loop.initTicks := by
    rw [tried.attempted]
    cases last with
    | none => simp
    | some time =>
      rw [tried.next time rfl]
      simp only [Option.isSome_some, Bool.not_true, Bool.false_or, decide_eq_true_eq, Option.mem_some_iff, forall_eq']
      exact due_iff (by decide) (later time rfl)
  rw [tries, Bool.and_eq_true, wait, Bool.and_eq_true, and_assoc, decide_eq_true_eq, Bool.not_eq_true']

theorem attempts_concat (s : DriverState ℓ) (loops : List (DriverLoop ℓ)) (loop : DriverLoop ℓ) :
    attempts link stmFrequency s (loops ++ [loop]) = attempts link stmFrequency s loops ++
      if tries ((driverNode link stmFrequency).run s loops) loop then [loop.initTicks] else [] :=
  Machine.collect_concat ..

theorem tried_run (sensor : ℓ) (bootTicks : Nat) (loops : List (DriverLoop ℓ)) :
    Tried ((driverNode link stmFrequency).run (driverInit sensor bootTicks) loops)
      (attempts link stmFrequency (driverInit sensor bootTicks) loops).getLast? := by
  induction loops using List.reverseRecOn with
  | nil => exact ⟨rfl, by simp [attempts, Machine.collect]⟩
  | append_singleton loops loop ih =>
    rw [Machine.run_concat, attempts_concat]
    have step := ih.next_loop link stmFrequency loop
    split
    · rw [if_pos ‹_›] at step
      rwa [List.getLast?_concat]
    · rw [if_neg ‹_›] at step
      rwa [List.append_nil]

theorem sequence_run (sensor : ℓ) (bootTicks : Nat) (loops : List (DriverLoop ℓ)) :
    ((driverNode link stmFrequency).run (driverInit sensor bootTicks) loops).frame.sequence =
      UInt32.ofNat loops.length := by
  induction loops using List.reverseRecOn with
  | nil => rfl
  | append_singleton loops loop ih =>
    rw [Machine.run_concat, List.length_append, List.length_singleton, UInt32.ofNat_add, ← ih]
    rfl

/-- A try comes from a loop. -/
theorem mem_attempts {s : DriverState ℓ} {loops : List (DriverLoop ℓ)} {time : Nat}
    (tried : time ∈ attempts link stmFrequency s loops) : ∃ loop ∈ loops, time = loop.initTicks := by
  have part := (driverNode link stmFrequency).collect_sublist
    (fun s loop => if tries s loop then [loop.initTicks] else []) (fun loop => [loop.initTicks]) ?_ s loops
  · obtain ⟨loop, member, same⟩ := List.mem_flatMap.mp (part.subset tried)
    exact ⟨loop, member, List.mem_singleton.mp same⟩
  · intro s loop
    split
    · exact .refl _
    · exact List.nil_sublist _

theorem ordered_of_attempts {s : DriverState ℓ} {loops : List (DriverLoop ℓ)} {loop : DriverLoop ℓ}
    (ordered : ((loops ++ [loop]).map DriverLoop.initTicks).Pairwise (· ≤ ·)) {time : Nat}
    (tried : time ∈ attempts link stmFrequency s loops) : time ≤ loop.initTicks := by
  obtain ⟨earlier, member, rfl⟩ := mem_attempts link stmFrequency tried
  rw [List.map_append, List.pairwise_append] at ordered
  exact ordered.2.2 _ (List.mem_map_of_mem member) _ (List.mem_singleton_self _)

theorem attempts_apart (sensor : ℓ) (bootTicks : Nat) {loops : List (DriverLoop ℓ)}
    (ordered : (loops.map DriverLoop.initTicks).Pairwise (· ≤ ·)) :
    (attempts link stmFrequency (driverInit sensor bootTicks) loops).Pairwise
      fun earlier later => earlier + tofRetryTicks ≤ later := by
  induction loops using List.reverseRecOn with
  | nil => exact .nil
  | append_singleton loops loop ih =>
    have before := ordered
    rw [List.map_append, List.pairwise_append] at before
    have apart := ih before.1
    have tried := tried_run link stmFrequency sensor bootTicks loops
    have earlier : ∀ time ∈ attempts link stmFrequency (driverInit sensor bootTicks) loops, time ≤ loop.initTicks :=
      fun _ member => ordered_of_attempts link stmFrequency ordered member
    rw [attempts_concat]
    generalize attempts link stmFrequency (driverInit sensor bootTicks) loops = times at apart tried earlier ⊢
    split
    · refine List.pairwise_append.mpr ⟨apart, List.pairwise_singleton .., fun time member now here => ?_⟩
      obtain rfl := List.mem_singleton.mp here
      obtain ⟨front, last, rfl⟩ := List.eq_nil_or_concat times |>.resolve_left (List.ne_nil_of_mem member)
      rw [List.concat_eq_append] at tried apart earlier member
      rw [List.getLast?_concat] at tried
      have lastEarlier : ∀ time ∈ some last, time ≤ loop.initTicks := by
        rintro _ ⟨⟩
        exact earlier last (List.mem_append_right _ (List.mem_singleton_self last))
      have due := ((tried.tries_iff loop lastEarlier).mp ‹_›).2.2 last rfl
      have whole := Nat.mod_le (loop.initTicks - last) (2 ^ 32)
      have wait : last + tofRetryTicks ≤ loop.initTicks := by
        have := due.1
        unfold tofRetryTicks at this ⊢
        omega
      rcases List.mem_append.mp member with old | now
      · have := (List.pairwise_append.mp apart).2.2 time old last (List.mem_singleton_self _)
        omega
      · obtain rfl := List.mem_singleton.mp now
        exact wait
    · rwa [List.append_nil]

/-- While time does not go back, an absent sensor is tried at intervals of a second at least, and
not before the tenth loop. A loop tries it exactly if the sensor is absent and the timer's word sees
the last try a second ago, and less than half a period more. -/
theorem retry_schedule (sensor : ℓ) (bootTicks : Nat) (loops : List (DriverLoop ℓ)) (loop : DriverLoop ℓ)
    (ordered : ((loops ++ [loop]).map DriverLoop.initTicks).Pairwise (· ≤ ·)) :
    let s := (driverNode link stmFrequency).run (driverInit sensor bootTicks) loops
    let tried := attempts link stmFrequency (driverInit sensor bootTicks) loops
    tried.Pairwise (fun earlier later => earlier + tofRetryTicks ≤ later) ∧
      (tries s loop = true ↔ s.tof.present = false ∧ 10 ≤ (loops.length + 1) % 2 ^ 32 ∧
        ∀ last ∈ tried.getLast?, Due tofRetryTicks last loop.initTicks) := by
  intro s tried
  have before := ordered
  rw [List.map_append, List.pairwise_append] at before
  refine ⟨attempts_apart link stmFrequency sensor bootTicks before.1, ?_⟩
  have knows : Tried s tried.getLast? := tried_run link stmFrequency sensor bootTicks loops
  have frames : s.frame.sequence + 1 ≥ tofInitDelayFrames ↔ 10 ≤ (loops.length + 1) % 2 ^ 32 := by
    have sequence : s.frame.sequence + 1 = UInt32.ofNat (loops.length + 1) := by
      rw [UInt32.ofNat_add, ← sequence_run link stmFrequency sensor bootTicks loops]
      rfl
    rw [sequence, ge_iff_le, UInt32.le_iff_toNat_le, UInt32.toNat_ofNat']
    exact Iff.rfl
  rw [knows.tries_iff loop, frames]
  exact fun _ member => ordered_of_attempts link stmFrequency ordered (List.mem_of_mem_getLast? member)

end
end

/-- A sensor that is not there. -/
def deadLink : Link Unit where
  run _ sensor := (sensor, none)

/-- A loop that ends at some time. -/
def deadLoop (initTicks : Nat) : DriverLoop Unit :=
  ⟨⟨.noRise, 0, 0⟩, ⟨.noRise, 0, 0⟩, 0, 0, 2, 0, ⟨false, false, false, (0.0 : F32), (0.0 : F32), 0, 0, 0, 0⟩,
    initTicks, (), ⟨2, 2, 2⟩⟩

theorem retry_schedule_dead :
    (attempts deadLink (100000000.0 : F32) (driverInit () 0)
      (List.replicate 11 (deadLoop 7) ++ [deadLoop 100000006, deadLoop 100000007])).Pairwise
        fun earlier later => earlier + tofRetryTicks ≤ later :=
  (retry_schedule deadLink (100000000.0 : F32) () 0 _ (deadLoop 100000008) (by decide)).1

end SelfDriving.Front
