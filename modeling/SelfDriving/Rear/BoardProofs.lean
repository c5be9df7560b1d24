import SelfDriving.Rear.Board
import SelfDriving.Rear.ControlLoopProofs

/-! What the cores of the REAR controller make of each other's records, in whatever order they go on, as
long as no store goes to a slot that a read is not yet done with. The control loop acts on commands as they
were received and never goes back to an older one; a status that is sent tells what was measured. -/
namespace SelfDriving.Rear
open Ieee754 DoubleBuffer

/-- The core stores into a slot that another is not yet done with. -/
def BoardState.disturbs (b : BoardState) : BoardStep → Bool
  | .core0 .. => DoubleBuffer.disturbs b.driveCmd (.writer driveCmdBoot)
  | .core1 .. => DoubleBuffer.disturbs b.telem (.writer telemZero)
  | .core2 _ => DoubleBuffer.disturbs b.ultra (.writer ultraZero)

section
variable (stmFrequency : F32)

/-- No step of a run disturbs a read. -/
def boardUndisturbed (b : BoardState) (steps : List BoardStep) : Bool :=
  (board stmFrequency).always (fun b step => !b.disturbs step) b steps

/-- What can be seen of a step. -/
def boardRecord (b : BoardState) (step : BoardStep) : List BoardEvent := ((board stmFrequency).output b step).toList

/-- What can be seen of a run. -/
def boardEvents (b : BoardState) (steps : List BoardStep) : List BoardEvent :=
  (board stmFrequency).collect (boardRecord stmFrequency) b steps

/-- What a step does that disturbs no read. -/
inductive Does (b : BoardState) : BoardState → Option BoardEvent → Prop
  | polls : Does b b none
  | receives (addr : Option UInt32) (cmd : DriveCmd F32) (polling : b.core0 = .polling) :
    Does b
      { b with
        pcip := addr.getD b.pcip
        driveCmd := (step driveCmdLayout b.driveCmd (.writer cmd)).1
        core0 := .writingDriveCmd } (some (.received addr cmd))
  | writesDriveCmd (writing : b.core0 = .writingDriveCmd)
    (clear : DoubleBuffer.disturbs b.driveCmd (.writer driveCmdBoot) = false) :
    Does b
      { b with
        driveCmd := (step driveCmdLayout b.driveCmd (.writer driveCmdBoot)).1
        core0 := match (step driveCmdLayout b.driveCmd (.writer driveCmdBoot)).1.writer with
          | .idle => .polling
          | .storing .. => .writingDriveCmd } none
  | readsTelem (tf : TelemFrame F32) (telem : State (TelemFrame F32) TelemField) (returned : Option (TelemFrame F32))
    (idle : b.core0 ≠ .writingDriveCmd) (reads : step telemLayout b.telem (.reader tf) = (telem, returned)) :
    Does b { b with telem := telem, core0 := .readingTelem } none
  | sendsTelem (into tf : TelemFrame F32) (telem : State (TelemFrame F32) TelemField) (reading : b.core0 = .readingTelem)
    (reads : step telemLayout b.telem (.reader into) = (telem, some tf)) :
    Does b { b with telem := telem, core0 := .readingUltra tf } (some (.telemetry b.pcip (telemBytes tf)))
  | readsUltra (tf : TelemFrame F32) (u : AebUltraLmuFrame) (ultra : State AebUltraLmuFrame UltraField)
    (reading : b.core0 = .readingUltra tf) (reads : step ultraLayout b.ultra (.reader u) = (ultra, none)) :
    Does b { b with ultra := ultra, core0 := .readingUltra tf } none
  | sendsStatus (tf : TelemFrame F32) (into u : AebUltraLmuFrame) (ultra : State AebUltraLmuFrame UltraField)
    (reading : b.core0 = .readingUltra tf) (reads : step ultraLayout b.ultra (.reader into) = (ultra, some u)) :
    Does b { b with ultra := ultra, core0 := .polling, ultraAlive := b.ultraAlive + 1 }
      (some (.status b.pcip (rearStatus tf u b.ultraAlive).bytes))
  | beginsDriveCmd (cmd : DriveCmd F32) (driveCmd : State (DriveCmd F32) DriveCmdField) (speed : F32)
    (returned : Option (DriveCmd F32)) (waiting : b.core1 = .waiting)
    (reads : step driveCmdLayout b.driveCmd (.reader cmd) = (driveCmd, returned)) :
    Does b { b with driveCmd := driveCmd, core1 := .readingDriveCmd speed } none
  | readsDriveCmd (cmd : DriveCmd F32) (driveCmd : State (DriveCmd F32) DriveCmdField) (speed : F32)
    (reading : b.core1 = .readingDriveCmd speed)
    (reads : step driveCmdLayout b.driveCmd (.reader cmd) = (driveCmd, none)) :
    Does b { b with driveCmd := driveCmd, core1 := .readingDriveCmd speed } none
  | controls (into cmd : DriveCmd F32) (driveCmd : State (DriveCmd F32) DriveCmdField) (speed : F32)
    (reading : b.core1 = .readingDriveCmd speed)
    (reads : step driveCmdLayout b.driveCmd (.reader into) = (driveCmd, some cmd)) :
    Does b
      { b with
        driveCmd := driveCmd
        loop := (controlLoop speed cmd b.loop).1
        telem := (step telemLayout b.telem (.writer (controlLoop speed cmd b.loop).2.telem)).1
        core1 := .writingTelem } (some (.controlled cmd (controlLoop speed cmd b.loop).2))
  | writesTelem (writing : b.core1 = .writingTelem)
    (clear : DoubleBuffer.disturbs b.telem (.writer telemZero) = false) :
    Does b
      { b with
        telem := (step telemLayout b.telem (.writer telemZero)).1
        core1 := match (step telemLayout b.telem (.writer telemZero)).1.writer with
          | .idle => .waiting
          | .storing .. => .writingTelem } none
  | measures (loop : UltraLoop) (idle : b.ultra.writer = .idle) :
    Does b
      { b with
        sensors := (ultraRunOnce stmFrequency loop b.sensors).1
        ultra := (step ultraLayout b.ultra (.writer (ultraRunOnce stmFrequency loop b.sensors).2)).1 }
      (some (.measured (ultraRunOnce stmFrequency loop b.sensors).2))
  | writesUltra (writing : b.ultra.writer ≠ .idle)
    (clear : DoubleBuffer.disturbs b.ultra (.writer ultraZero) = false) :
    Does b { b with ultra := (step ultraLayout b.ultra (.writer ultraZero)).1 } none

theorem core0_does {b : BoardState} (poll : Poll) (tf : TelemFrame F32) (u : AebUltraLmuFrame)
    (clear : DoubleBuffer.disturbs b.driveCmd (.writer driveCmdBoot) = false) :
    Does stmFrequency b (core0Step poll tf u b).1 (core0Step poll tf u b).2 := by
  cases phase : b.core0 with
  | polling =>
    cases poll with
    | nothing =>
      simp only [core0Step, phase]
      exact .polls
    | datagram addr payload buffer =>
      rcases received : (udpReceiveAccRecv payload buffer : Option (DriveCmd F32)) with _ | cmd
      · simp only [core0Step, phase, received]
        exact .polls
      · simp only [core0Step, phase, received]
        exact .receives addr cmd phase
    | due =>
      simp only [core0Step, phase]
      exact .readsTelem tf _ _ (by simp [phase]) rfl
  | writingDriveCmd =>
    simp only [core0Step, phase]
    exact .writesDriveCmd phase clear
  | readingTelem =>
    rcases reads : step telemLayout b.telem (.reader tf) with ⟨telem, _ | frame⟩
    · simp only [core0Step, phase, reads]
      exact .readsTelem tf telem none (by simp [phase]) reads
    · simp only [core0Step, phase, reads]
      exact .sendsTelem tf frame telem phase reads
  | readingUltra tf' =>
    rcases reads : step ultraLayout b.ultra (.reader u) with ⟨ultra, _ | frame⟩
    · simp only [core0Step, phase, reads]
      exact .readsUltra tf' u ultra phase reads
    · simp only [core0Step, phase, reads]
      exact .sendsStatus tf' u frame ultra phase reads

theorem core1_does {b : BoardState} (speed : F32) (cmd : DriveCmd F32)
    (clear : DoubleBuffer.disturbs b.telem (.writer telemZero) = false) :
    Does stmFrequency b (core1Step speed cmd b).1 (core1Step speed cmd b).2 := by
  cases phase : b.core1 with
  | waiting =>
    simp only [core1Step, phase]
    exact .beginsDriveCmd cmd _ speed _ phase rfl
  | readingDriveCmd speed' =>
    rcases reads : step driveCmdLayout b.driveCmd (.reader cmd) with ⟨driveCmd, _ | read⟩
    · simp only [core1Step, phase, reads]
      exact .readsDriveCmd cmd driveCmd speed' phase reads
    · simp only [core1Step, phase, reads]
      exact .controls cmd read driveCmd speed' phase reads
  | writingTelem =>
    simp only [core1Step, phase]
    exact .writesTelem phase clear

theorem core2_does {b : BoardState} (loop : UltraLoop)
    (clear : DoubleBuffer.disturbs b.ultra (.writer ultraZero) = false) :
    Does stmFrequency b (core2Step stmFrequency loop b).1 (core2Step stmFrequency loop b).2 := by
  cases phase : b.ultra.writer with
  | idle =>
    simp only [core2Step, phase]
    exact .measures loop phase
  | storing record slot rest =>
    simp only [core2Step, phase]
    exact .writesUltra (by simp [phase]) clear

theorem board_does {b : BoardState} {step : BoardStep} (clear : b.disturbs step = false) :
    Does stmFrequency b ((board stmFrequency).next b step) ((board stmFrequency).output b step) := by
  cases step with
  | core0 poll tf u => exact core0_does stmFrequency poll tf u clear
  | core1 speed cmd => exact core1_does stmFrequency speed cmd clear
  | core2 loop => exact core2_does stmFrequency loop clear

end

/-! ### Commands -/

/-- The commands that were received. -/
def received (events : List BoardEvent) : List (DriveCmd F32) :=
  events.filterMap fun
    | .received _ cmd => some cmd
    | _ => none

/-- The commands that the loop has acted on. -/
def obeyed (events : List BoardEvent) : List (DriveCmd F32) :=
  events.filterMap fun
    | .controlled cmd _ => some cmd
    | _ => none

@[simp] theorem received_append (first second : List BoardEvent) :
    received (first ++ second) = received first ++ received second := List.filterMap_append

@[simp] theorem obeyed_append (first second : List BoardEvent) :
    obeyed (first ++ second) = obeyed first ++ obeyed second := List.filterMap_append

/-- The commands that the loop has acted on stand in this order among those that were received, and the next
one stands at `floor` or after it. -/
def InOrder (known obeyed : List (DriveCmd F32)) (floor : Nat) : Prop :=
  ∃ places, List.Forall₂ (fun cmd place => known[place]? = some cmd) obeyed places ∧ (places ++ [floor]).Pairwise (· ≤ ·)

theorem InOrder.raise {known obeyed : List (DriveCmd F32)} {floor floor' : Nat} (ordered : InOrder known obeyed floor)
    (above : floor ≤ floor') (more : List (DriveCmd F32)) : InOrder (known ++ more) obeyed floor' := by
  obtain ⟨places, found, sorted⟩ := ordered
  refine ⟨places, found.imp fun cmd place there => getElem?_append_of_some there, ?_⟩
  rw [List.pairwise_append] at sorted ⊢
  refine ⟨sorted.1, List.pairwise_singleton .., fun place member floor'' last => ?_⟩
  rw [List.mem_singleton.mp last]
  exact (sorted.2.2 place member floor (List.mem_singleton_self floor)).trans above

theorem InOrder.obey {known obeyed : List (DriveCmd F32)} {floor : Nat} {cmd : DriveCmd F32}
    (ordered : InOrder known obeyed floor) (there : known[floor]? = some cmd) : InOrder known (obeyed ++ [cmd]) floor := by
  obtain ⟨places, found, sorted⟩ := ordered
  refine ⟨places ++ [floor], List.rel_append found (.cons there .nil), ?_⟩
  rw [List.pairwise_append]
  refine ⟨sorted, List.pairwise_singleton .., fun place member last same => ?_⟩
  rw [List.mem_singleton.mp same]
  rcases List.mem_append.mp member with before | now
  · exact (List.pairwise_append.mp sorted).2.2 place before floor (List.mem_singleton_self floor)
  · exact (List.mem_singleton.mp now).le

/-- The first core writes the commands that were received, and the second obeys them in their order. -/
structure CommandsKept (base : List (DriveCmd F32)) (past : List BoardEvent) (b : BoardState) : Prop where
  writes : b.driveCmd.writer = .idle ↔ b.core0 ≠ .writingDriveCmd
  reads : b.driveCmd.reader = .idle ↔ ∀ speed, b.core1 ≠ .readingDriveCmd speed
  ordered : ∃ floor, Shared driveCmdLayout b.driveCmd (base ++ received past) floor ∧
    InOrder (base ++ received past) (obeyed past) floor

/-- What neither receives nor obeys a command keeps this when it leaves the buffer and the access to it. -/
theorem CommandsKept.still {base : List (DriveCmd F32)} {past : List BoardEvent} {b b' : BoardState}
    (kept : CommandsKept base past b) {events : List BoardEvent} (received : received events = []) (obeyed : obeyed events = [])
    (buffer : b'.driveCmd = b.driveCmd) (writing : b'.core0 = .writingDriveCmd ↔ b.core0 = .writingDriveCmd)
    (reading : ∀ speed, b'.core1 = .readingDriveCmd speed ↔ b.core1 = .readingDriveCmd speed) :
    CommandsKept base (past ++ events) b' := by
  obtain ⟨writes, reads, ordered⟩ := kept
  refine ⟨?_, ?_, ?_⟩
  · rwa [buffer, ne_eq, writing]
  · simpa only [buffer, ne_eq, reading] using reads
  · rwa [buffer, received_append, obeyed_append, received, obeyed, List.append_nil, List.append_nil]

theorem CommandsKept.next {stmFrequency : F32} {base : List (DriveCmd F32)} {past : List BoardEvent} {b b' : BoardState}
    {event : Option BoardEvent} (kept : CommandsKept base past b) (does : Does stmFrequency b b' event) :
    CommandsKept base (past ++ event.toList) b' := by
  cases does with
  | polls => exact kept.still rfl rfl rfl Iff.rfl fun _ => Iff.rfl
  | receives addr cmd polling =>
    obtain ⟨writes, reads, floor, shared, ordered⟩ := kept
    have idle : b.driveCmd.writer = .idle := writes.mpr (by simp [polling])
    have none : obeyed (some (BoardEvent.received addr cmd)).toList = [] := rfl
    refine ⟨by simp [step, idle], ?_, floor, ?_, ?_⟩
    · simpa [step, idle] using reads
    · rw [received_append, ← List.append_assoc]
      exact shared.begin idle cmd
    · rw [received_append, obeyed_append, none, List.append_nil, ← List.append_assoc]
      exact ordered.raise le_rfl _
  | writesDriveCmd writing clear =>
    obtain ⟨writes, reads, floor, shared, ordered⟩ := kept
    have storing : b.driveCmd.writer ≠ .idle := fun idle => writes.mp idle writing
    obtain ⟨floor', above, shared'⟩ := shared.go_on storing clear
    have same : (step driveCmdLayout b.driveCmd (.writer driveCmdBoot)).1.reader = b.driveCmd.reader := reader_writer ..
    rw [Option.toList_none, List.append_nil]
    refine ⟨?_, ?_, floor', shared', ?_⟩
    · cases (step driveCmdLayout b.driveCmd (.writer driveCmdBoot)).1.writer <;> simp
    · rwa [same]
    · have raised := ordered.raise above []
      rwa [List.append_nil] at raised
  | readsTelem tf telem returned idle reads => exact kept.still rfl rfl rfl (by simp [idle]) fun _ => Iff.rfl
  | sendsTelem into tf telem reading reads => exact kept.still rfl rfl rfl (by simp [reading]) fun _ => Iff.rfl
  | readsUltra tf u ultra reading reads => exact kept.still rfl rfl rfl (by simp [reading]) fun _ => Iff.rfl
  | sendsStatus tf into u ultra reading reads => exact kept.still rfl rfl rfl (by simp [reading]) fun _ => Iff.rfl
  | beginsDriveCmd cmd driveCmd speed returned waiting reading =>
    obtain ⟨writes, reads, floor, shared, ordered⟩ := kept
    have idle : b.driveCmd.reader = .idle := reads.mpr (by simp [waiting])
    obtain rfl : returned = none := by
      simp only [step, idle] at reading
      exact (congrArg Prod.snd reading).symm
    obtain ⟨floor', above, shared', same, -⟩ := shared.read reading
    rw [Option.toList_none, List.append_nil]
    have raised := ordered.raise above []
    rw [List.append_nil] at raised
    exact ⟨same ▸ writes, by simp [reader_of_reads reading], floor', shared', raised⟩
  | readsDriveCmd cmd driveCmd speed reading reads' =>
    obtain ⟨writes, reads, floor, shared, ordered⟩ := kept
    obtain ⟨floor', above, shared', same, -⟩ := shared.read reads'
    rw [Option.toList_none, List.append_nil]
    have raised := ordered.raise above []
    rw [List.append_nil] at raised
    exact ⟨same ▸ writes, by simp [reader_of_reads reads'], floor', shared', raised⟩
  | controls into cmd driveCmd speed reading reads' =>
    obtain ⟨writes, reads, floor, shared, ordered⟩ := kept
    obtain ⟨floor', above, shared', same, there⟩ := shared.read reads'
    have raised := ordered.raise above []
    rw [List.append_nil] at raised
    refine ⟨same ▸ writes, by simp [reader_of_reads reads'], floor', ?_, ?_⟩
    · rw [received_append, ← List.append_assoc]
      exact (List.append_nil _).symm ▸ shared'
    · rw [received_append, obeyed_append, ← List.append_assoc]
      exact (List.append_nil _).symm ▸ raised.obey (there cmd rfl)
  | writesTelem writing clear =>
    refine kept.still rfl rfl rfl Iff.rfl fun speed => ?_
    rw [writing]
    cases (step telemLayout b.telem (.writer telemZero)).1.writer <;> simp
  | measures loop idle => exact kept.still rfl rfl rfl Iff.rfl fun _ => Iff.rfl
  | writesUltra writing clear => exact kept.still rfl rfl rfl Iff.rfl fun _ => Iff.rfl

section
variable {stmFrequency : F32}

theorem CommandsKept.run {base : List (DriveCmd F32)} {b : BoardState} (kept : CommandsKept base [] b)
    {steps : List BoardStep} (clear : boardUndisturbed stmFrequency b steps = true) :
    CommandsKept base (boardEvents stmFrequency b steps) ((board stmFrequency).run b steps) := by
  refine (board stmFrequency).collect_invariant (boardRecord stmFrequency) (CommandsKept base) _ ?_ kept clear
  intro past b step undisturbed kept
  rw [Bool.not_eq_true'] at undisturbed
  exact kept.next (board_does stmFrequency undisturbed)

theorem commandsKept_start (slots : Fin 2 → AebUltraLmuFrame) (index : Fin 2) :
    CommandsKept [driveCmdBoot] [] (boardStart slots index) :=
  ⟨by simp [boardStart, start], by simp [boardStart, start], 0, shared_of_idle rfl rfl, [], .nil, List.pairwise_singleton ..⟩

/-- Nobody accesses the commands: what the index names is all there is to obey. -/
theorem CommandsKept.restart {base : List (DriveCmd F32)} {past : List BoardEvent} {b : BoardState}
    (kept : CommandsKept base past b) (waiting : b.core1 = .waiting) (written : b.core0 ≠ .writingDriveCmd) :
    CommandsKept [b.driveCmd.slots b.driveCmd.index] [] b ∧
      (base ++ received past).getLast? = some (b.driveCmd.slots b.driveCmd.index) := by
  obtain ⟨writes, reads, floor, shared, -⟩ := kept
  have writer := writes.mpr written
  have reader := reads.mpr (by simp [waiting])
  exact ⟨⟨writes, reads, 0, shared_of_idle writer reader, [], .nil, List.pairwise_singleton ..⟩, shared.newest writer⟩

theorem InOrder.known {known obeyed : List (DriveCmd F32)} {floor : Nat} (ordered : InOrder known obeyed floor) :
    ∀ cmd ∈ obeyed, cmd ∈ known := by
  obtain ⟨places, found, -⟩ := ordered
  have all := found.imp fun cmd place there => And.intro (List.mem_of_getElem? there) there
  exact ((List.forall₂_and_left _ _).mp all).1

/-- Of all that can be seen of a run without a disturbed read, what steps do. -/
theorem forall_mem_boardEvents {Good : BoardEvent → Prop}
    (good : ∀ b b' event, Does stmFrequency b b' (some event) → Good event) {b : BoardState} {steps : List BoardStep}
    (clear : boardUndisturbed stmFrequency b steps = true) : ∀ event ∈ boardEvents stmFrequency b steps, Good event := by
  refine (board stmFrequency).collect_invariant (boardRecord stmFrequency)
    (fun past _ => ∀ event ∈ past, Good event) _ ?_ (fun _ none => absurd none List.not_mem_nil) clear
  intro past b step undisturbed before event member
  rw [Bool.not_eq_true'] at undisturbed
  rcases List.mem_append.mp member with early | now
  · exact before event early
  · have does := board_does stmFrequency undisturbed
    rw [Option.mem_toList.mp now] at does
    exact good b _ event does

/-- A command that brakes, whatever its mode asks for. -/
def Stops (cmd : DriveCmd F32) : Prop := cmd.controlMode = modeAeb ∨ cmd.emergencyStop ≠ 0

theorem controlLoop_of_stops {cmd : DriveCmd F32} (stops : Stops cmd) (speed : F32) (s : LoopState F32) :
    (controlLoop speed cmd s).2.motors = brakeBoth := by
  rcases controlLoop_cases speed cmd s with ⟨-, brakes⟩ | ⟨manual, free, -⟩ | ⟨other, -, free, -⟩
  · rw [brakes]
    rfl
  · rcases stops with aeb | stop
    · rw [manual] at aeb
      cases aeb
    · exact absurd free stop
  · exact absurd stops (by simp [Stops, other, free])

theorem controlled_of_does {b b' : BoardState} {cmd : DriveCmd F32} {output : LoopOutput F32}
    (does : Does stmFrequency b b' (some (.controlled cmd output))) :
    ∃ speed, output = (controlLoop speed cmd b.loop).2 := by
  cases does with
  | controls into cmd driveCmd speed reading reads => exact ⟨speed, rfl⟩

/-- In whatever order the cores go on, the control loop acts on whole commands as they were received,
and never on one that came before one it has acted on. -/
theorem rear_commands_in_order (slots : Fin 2 → AebUltraLmuFrame) (index : Fin 2) (steps : List BoardStep)
    (clear : boardUndisturbed stmFrequency (boardStart slots index) steps = true) :
    let events := boardEvents stmFrequency (boardStart slots index) steps
    ∃ places : List Nat,
      List.Forall₂ (fun cmd place => (driveCmdBoot :: received events)[place]? = some cmd) (obeyed events) places ∧
        places.Pairwise (· ≤ ·) := by
  obtain ⟨-, -, floor, -, places, found, sorted⟩ := (commandsKept_start slots index).run clear
  exact ⟨places, found, (List.pairwise_append.mp sorted).1⟩

/-- From when the last command that was received stops and is written, every period that begins brakes
as long as no command is received that does not stop. -/
theorem rear_stop_holds (slots : Fin 2 → AebUltraLmuFrame) (index : Fin 2) (first second : List BoardStep)
    (clear : boardUndisturbed stmFrequency (boardStart slots index) (first ++ second) = true) :
    let events := boardEvents stmFrequency (boardStart slots index) first
    let b := (board stmFrequency).run (boardStart slots index) first
    b.core1 = .waiting → b.core0 ≠ .writingDriveCmd →
      (∀ cmd ∈ (driveCmdBoot :: received events).getLast?, Stops cmd) →
      (∀ cmd ∈ received (boardEvents stmFrequency b second), Stops cmd) →
      ∀ cmd output, .controlled cmd output ∈ boardEvents stmFrequency b second → output.motors = brakeBoth := by
  intro events b waiting written stopped stops cmd output member
  rw [boardUndisturbed, Machine.always_append, Bool.and_eq_true] at clear
  obtain ⟨restarted, newest⟩ := ((commandsKept_start slots index).run clear.1).restart waiting written
  obtain ⟨-, -, floor, -, ordered⟩ := restarted.run clear.2
  have stops' : Stops cmd := by
    have acted : cmd ∈ obeyed (boardEvents stmFrequency b second) := List.mem_filterMap.mpr ⟨_, member, rfl⟩
    rcases List.mem_append.mp (ordered.known cmd acted) with current | later
    · rw [List.mem_singleton.mp current]
      exact stopped _ newest
    · exact stops cmd later
  have acts : ∀ event ∈ boardEvents stmFrequency b second, ∀ cmd output, event = .controlled cmd output →
      ∃ speed s, output = (controlLoop speed cmd s).2 := by
    refine forall_mem_boardEvents ?_ clear.2
    rintro b b' _ does cmd output rfl
    obtain ⟨speed, same⟩ := controlled_of_does does
    exact ⟨speed, b.loop, same⟩
  obtain ⟨speed, s, rfl⟩ := acts _ member cmd output rfl
  exact controlLoop_of_stops stops' speed s

end

/-! ### A stop by hand -/

/-- The board before anything is written, and what its cores do with nothing new. -/
def handBoard : BoardState := boardStart (fun _ => ultraZero) ⟨0, Nat.zero_lt_two⟩
def core0Goes : BoardStep := .core0 .nothing telemZero ultraZero
def core1Goes : BoardStep := .core1 0.0 driveCmdBoot

/-- A datagram that stops, from nobody the board knows. -/
def stopDatagram : BoardStep :=
  .core0 (.datagram none (some (List.replicate 28 0 ++ [1])) (fun _ => 0)) telemZero ultraZero

def emergencyCmd : DriveCmd F32 := ⟨0, 0, 0.0, 0.0, 1⟩

/-- The loop begins to read, the stop is received and written, the loop reads on, and then reads once more. -/
def stopsInBetween : List BoardStep :=
  List.replicate 3 core1Goes ++ stopDatagram :: List.replicate 6 core0Goes ++ List.replicate 17 core1Goes

/-- The first period acts on the command at boot, and the second on the stop. -/
theorem rear_commands_in_order_stop :
    let events := boardEvents (100000000.0 : F32) handBoard stopsInBetween
    obeyed events = [driveCmdBoot, emergencyCmd] ∧
      ∃ places : List Nat,
        List.Forall₂ (fun cmd place => (driveCmdBoot :: received events)[place]? = some cmd) (obeyed events) places ∧
          places.Pairwise (· ≤ ·) :=
  ⟨by decide +kernel, rear_commands_in_order _ _ stopsInBetween (by decide +kernel)⟩

theorem stops_emergencyCmd : Stops emergencyCmd := .inr (by decide)

/-- A stop that is written, and one more while the loop reads it. -/
theorem rear_stop_holds_twice :
    let first := stopDatagram :: List.replicate 6 core0Goes
    let second := List.replicate 3 core1Goes ++ stopDatagram :: List.replicate 4 core1Goes
    let events := boardEvents (100000000.0 : F32) ((board (100000000.0 : F32)).run handBoard first) second
    obeyed events = [emergencyCmd] ∧
      ∀ cmd output, .controlled cmd output ∈ events → output.motors = brakeBoth := by
  intro first second events
  have phase : ((board (100000000.0 : F32)).run handBoard first).core0 = .polling := rfl
  have last : (driveCmdBoot :: received (boardEvents (100000000.0 : F32) handBoard first)).getLast? =
      some emergencyCmd := by decide +kernel
  have again : received events = [emergencyCmd] := by decide +kernel
  refine ⟨by decide +kernel, rear_stop_holds _ _ first second (by decide +kernel) rfl ?_ ?_ ?_⟩
  · exact fun writing => nomatch phase.symm.trans writing
  · intro cmd member
    cases last.symm.trans member
    exact stops_emergencyCmd
  · intro cmd member
    change cmd ∈ received events at member
    rw [again] at member
    cases List.mem_singleton.mp member
    exact stops_emergencyCmd

end SelfDriving.Rear
