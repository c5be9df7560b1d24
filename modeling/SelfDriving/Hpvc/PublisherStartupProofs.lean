import SelfDriving.Foundations.Numbering
import SelfDriving.Hpvc.PublisherStartup
import SelfDriving.Hpvc.SequenceProofs

/-! What goes out while the store starts up. The lock keeps the publishes apart, but not the
publish thread and the constructor: the thread may come to a counter first. -/
namespace SelfDriving.Hpvc.Startup
open Ieee754 Python Bytes

/-! ### What is seen of a run -/

/-- The packet that a step sends to FRONT. -/
def sentFront : Option Effect → List (List UInt8)
  | some (.front packet) => [packet]
  | _ => []

def sentRear : Option Effect → List (List UInt8)
  | some (.rear packet) => [packet]
  | _ => []

/-- The thread that dies of a counter without a value. -/
def killed : Option Effect → List Thread
  | some (.raised thread (.attributeError _)) => [thread]
  | _ => []

/-- The sequence number in a packet to REAR, which has room for the lower half. -/
def rearSequence (packet : List UInt8) : UInt16 := UInt16.ofNat (leField packet 6 2)

def frontSequences (s : Store) (action : Action) : List UInt32 :=
  (sentFront (machine.output s action)).map hpscSequence

def rearSequences (s : Store) (action : Action) : List UInt16 :=
  (sentRear (machine.output s action)).map rearSequence

def attributeErrors (s : Store) (action : Action) : List Thread := killed (machine.output s action)

/-! ### What goes wrong -/

inductive Counter where
  | sequence
  | alive
  deriving DecidableEq

/-- The constructor is past the assignment of a counter. -/
def InitPoint.assigned : InitPoint → Counter → Bool
  | .constructed, _ | .assignAlive, .sequence => true
  | _, _ => false

/-- The counter that a thread reads next, if it does. -/
def Point.reads : Point → Option Counter
  | .readSequence | .readRearSequence _ | .loadSequence => some .sequence
  | .readAlive _ | .readRearAlive | .loadAlive => some .alive
  | _ => none

/-- A thread goes on to read a counter that the constructor has not come to. -/
def Point.premature (point : Point) (init : InitPoint) : Bool :=
  point.reads.any fun counter => !init.assigned counter

/-- A thread leaves a publish after the FRONT send and before it has counted, because the
packet for REAR cannot be packed or sent. -/
def Point.abandons (state : RuntimeControlState) (taken : Bool) : Point → Bool
  | .readRearSequence _ => commandOverflows state
  | .sendRear _ => !taken
  | _ => false

def premature (s : Store) : Action → Bool
  | .proceed _ _ => s.lock.any fun held => held.2.premature s.init
  | _ => false

def abandons (s : Store) : Action → Bool
  | .proceed _ taken => s.lock.any fun held => held.2.abandons s.state taken
  | _ => false

/-! ### The invariant -/

/-- The number of the next publish. -/
def Store.number (s : Store) : UInt32 := s.sequence.getD 0

/-- What a thread has in hand belongs to the present number. -/
def Consistent (s : Store) : Point → Prop
  | .begin _ | .sendRuntimeControl | .readSequence | .release _ => True
  | .readAlive sequence => s.sequence = some sequence
  | .sendFront packet => s.init = .constructed ∧ hpscSequence packet = s.number
  | .sendRear packet => s.init = .constructed ∧ rearSequence packet = s.number.toUInt16
  | .storeSequence sequence => s.init = .constructed ∧ sequence = s.number + 1
  | .readRearAlive | .readRearSequence _ | .loadSequence | .loadAlive | .storeAlive _ => s.init = .constructed

/-- The counters have values from their assignments on, and the thread that has the lock is
at one with the store. -/
structure Sound (s : Store) : Prop where
  sequence : s.sequence.isSome = s.init.assigned .sequence
  alive : s.alive.isSome = s.init.assigned .alive
  point : ∀ thread point, s.lock = some (thread, point) → Consistent s point

theorem sound_start : Sound start := by
  refine ⟨rfl, rfl, ?_⟩
  intro thread point held
  cases held

theorem Sound.counters {s : Store} (sound : Sound s) (constructed : s.init = .constructed) :
    s.sequence = some s.number ∧ ∃ alive, s.alive = some alive := by
  have first := sound.sequence
  have second := sound.alive
  rw [constructed] at first second
  obtain ⟨sequence, assigned⟩ := Option.isSome_iff_exists.mp first
  refine ⟨?_, Option.isSome_iff_exists.mp second⟩
  rw [Store.number, assigned]
  rfl

/-- FRONT has a packet of the present number. -/
def Point.frontPending : Point → Bool
  | .readRearAlive | .readRearSequence _ | .sendRear _ | .loadSequence | .storeSequence _ => true
  | _ => false

def Point.rearPending : Point → Bool
  | .loadSequence | .storeSequence _ => true
  | _ => false

def frontPending (s : Store) : Bool := s.lock.any fun held => held.2.frontPending

def rearPending (s : Store) : Bool := s.lock.any fun held => held.2.rearPending

/-! ### One step of the thread that has the lock -/

/-- What a step keeps, and what comes of it. -/
structure StepSound (s : Store) (result : Store × Option Effect) (pending pendingRear abandons premature : Bool) :
    Prop where
  kept : Sound result.1
  front : NumberStep (· + 1) s.number result.1.number pending (frontPending result.1)
    ((sentFront result.2).map hpscSequence) abandons
  rear : NumberStep (· + 1) s.number.toUInt16 result.1.number.toUInt16 pendingRear (rearPending result.1)
    ((sentRear result.2).map rearSequence) false
  errors : killed result.2 = [] ↔ premature = false

/-- The same of a step from a point. -/
def PointSound (s : Store) (point : Point) (taken : Bool) (result : Store × Option Effect) : Prop :=
  StepSound s result point.frontPending point.rearPending (point.abandons s.state taken) (point.premature s.init)

section
variable {s : Store} {thread : Thread} {point point' : Point} {taken : Bool}

theorem Sound.goto (sound : Sound s) {state : RuntimeControlState} (consistent : Consistent s point') :
    Sound (goto { s with state := state } thread point') := by
  refine ⟨sound.sequence, sound.alive, ?_⟩
  intro _ _ held
  cases held
  cases point' <;> exact consistent

/-- A step from a point to another that touches no counter. -/
theorem goto_sound (sound : Sound s) (state : RuntimeControlState) {effect : Option Effect}
    (consistent : Consistent s point')
    (front : NumberStep (· + 1) s.number s.number point.frontPending point'.frontPending
      ((sentFront effect).map hpscSequence) (point.abandons s.state taken))
    (rear : NumberStep (· + 1) s.number.toUInt16 s.number.toUInt16 point.rearPending point'.rearPending
      ((sentRear effect).map rearSequence) false)
    (errors : killed effect = [] ↔ point.premature s.init = false) :
    PointSound s point taken (goto { s with state := state } thread point', effect) :=
  ⟨sound.goto consistent, front, rear, errors⟩

/-- A step that reads a counter for the first time in a publish. -/
theorem withAttribute_sound (sound : Sound s) {α : Type} {value : Option α} {name : String}
    {body : α → Store × Option Effect} {counter : Counter} (reads : point.reads = some counter)
    (assigned : value.isSome = s.init.assigned counter) (front : point.frontPending = false)
    (rear : point.rearPending = false) (goesOn : point.abandons s.state taken = false)
    (after : ∀ x, value = some x → point.premature s.init = false → PointSound s point taken (body x)) :
    PointSound s point taken (withAttribute s thread name value body) := by
  have premature : point.premature s.init = !value.isSome := by rw [Point.premature, reads, Option.any, assigned]
  cases value with
  | none =>
    refine goto_sound sound s.state trivial ?_ ?_ ?_
    · rw [front, goesOn]
      exact .quiet
    · rw [rear]
      exact .quiet
    · rw [premature]
      exact iff_of_false (List.cons_ne_nil _ _) Bool.false_ne_true.symm
  | some x => exact after x rfl premature

/-- Nothing is read too early once the store is constructed. -/
theorem Point.premature_constructed (point : Point) : point.premature .constructed = false := by
  rw [Point.premature]
  cases point.reads with
  | none => rfl
  | some counter => cases counter <;> rfl

theorem rearSequence_packet (store : RuntimeControlStore) (clock : Clock) (targetSpeed acceleration : F32) :
    rearSequence (rearCommandPacket store clock targetSpeed acceleration) = store.sequence.toUInt16 := by
  have carried : field (rearCommandPacket store clock targetSpeed acceleration) 6 2 =
      leBytes 2 store.sequence.toNat := by
    unfold rearCommandPacket
    generalize crc16Ccitt _ = crc
    rfl
  rw [rearSequence, leField, carried, leNat_leBytes_mod]
  exact UInt16.ofNat_mod_size

/-- What the packet for REAR raises is no error of an attribute. -/
theorem buildRearCommandPacket_error {store : RuntimeControlStore} {clock : Clock} {error : PyError}
    (raised : buildRearCommandPacket store clock = .error error) : ∃ text, error = .overflowError text := by
  unfold buildRearCommandPacket at raised
  rcases packSingle_cases (commandedSpeed store.state) with ⟨-, speed⟩ | ⟨-, speed⟩
  · rcases packSingle_cases (commandedAcceleration store.state) with ⟨-, acc⟩ | ⟨-, acc⟩
    · rw [speed, acc] at raised
      cases raised
    · rw [speed, acc] at raised
      exact ⟨_, (Except.error.inj raised).symm⟩
  · rw [speed] at raised
    exact ⟨_, (Except.error.inj raised).symm⟩

theorem proceed_sound (sound : Sound s) (consistent : Consistent s point) (clock : Clock) :
    PointSound s point taken (proceed s thread clock taken point) := by
  have calm (constructed : s.init = .constructed) : point.premature s.init = false := by
    rw [constructed, Point.premature_constructed]
  cases point with
  | begin task =>
    cases task with
    | publish => exact goto_sound sound s.state trivial .quiet .quiet (iff_of_true rfl rfl)
    | update changes => exact goto_sound sound _ trivial .quiet .quiet (iff_of_true rfl rfl)
    | front snapshot => exact goto_sound sound _ trivial .quiet .quiet (iff_of_true rfl rfl)
    | rear snapshot => exact goto_sound sound _ trivial .quiet .quiet (iff_of_true rfl rfl)
  | sendRuntimeControl =>
    cases taken with
    | false => exact goto_sound sound s.state trivial .quiet .quiet (iff_of_true rfl rfl)
    | true => exact goto_sound sound s.state trivial .quiet .quiet (iff_of_true rfl rfl)
  | readSequence =>
    refine withAttribute_sound sound rfl sound.sequence rfl rfl rfl ?_
    intro sequence value timely
    exact goto_sound sound s.state value .quiet .quiet (iff_of_true rfl timely)
  | readAlive sequence =>
    refine withAttribute_sound sound rfl sound.alive rfl rfl rfl ?_
    intro alive value timely
    have constructed : s.init = .constructed := by
      have assigned := sound.alive
      rw [value] at assigned
      cases init : s.init with
      | constructed => rfl
      | _ => rw [init] at assigned; cases assigned
    obtain ⟨packet, built, carries⟩ := buildFrontPacket_ok ⟨s.state, sequence, alive⟩ clock
    rw [built]
    refine goto_sound sound s.state ⟨constructed, ?_⟩ .quiet .quiet (iff_of_true rfl timely)
    rw [carries, Store.number, show s.sequence = some sequence from consistent]
    rfl
  | sendFront packet =>
    obtain ⟨constructed, carries⟩ := consistent
    cases taken with
    | false => exact goto_sound sound s.state trivial .quiet .quiet (iff_of_true rfl rfl)
    | true =>
      refine goto_sound sound s.state constructed ?_ .quiet (iff_of_true rfl rfl)
      rw [sentFront, List.map_singleton, carries]
      exact .send
  | readRearAlive =>
    obtain ⟨-, alive, value⟩ := sound.counters consistent
    rw [proceed, withAlive, value]
    exact goto_sound sound s.state consistent .quiet .quiet (iff_of_true rfl (calm consistent))
  | readRearSequence alive =>
    obtain ⟨value, -⟩ := sound.counters consistent
    rw [proceed, withSequence, value]
    rcases buildRearCommandPacket_cases ⟨s.state, s.number, alive⟩ clock with ⟨fits, built⟩ | ⟨overflows, error, built⟩
    · dsimp only [withAttribute]
      rw [built]
      refine goto_sound sound s.state ⟨consistent, rearSequence_packet ..⟩ ?_ .quiet (iff_of_true rfl (calm consistent))
      rw [Point.abandons, fits]
      exact .quiet
    · obtain ⟨text, rfl⟩ := buildRearCommandPacket_error built
      dsimp only [withAttribute]
      rw [built]
      refine goto_sound sound s.state trivial ?_ .quiet (iff_of_true rfl (calm consistent))
      rw [Point.abandons, overflows]
      exact .abandon
  | sendRear packet =>
    obtain ⟨constructed, carries⟩ := consistent
    cases taken with
    | false => exact goto_sound sound s.state trivial .abandon .quiet (iff_of_true rfl rfl)
    | true =>
      refine goto_sound sound s.state constructed .quiet ?_ (iff_of_true rfl rfl)
      rw [sentRear, List.map_singleton, carries]
      exact .send
  | loadSequence =>
    obtain ⟨value, -⟩ := sound.counters consistent
    rw [proceed, withSequence, value]
    exact goto_sound sound s.state ⟨consistent, rfl⟩ .quiet .quiet (iff_of_true rfl (calm consistent))
  | storeSequence sequence =>
    obtain ⟨constructed, rfl⟩ := consistent
    refine ⟨⟨?_, sound.alive, ?_⟩, .count, ?_, iff_of_true rfl rfl⟩
    · change true = s.init.assigned .sequence
      rw [constructed]
      rfl
    · intro _ _ held
      cases held
      exact constructed
    · change NumberStep _ _ (s.number + 1).toUInt16 _ _ _ _
      rw [UInt32.toUInt16_add]
      exact .count
  | loadAlive =>
    obtain ⟨-, alive, value⟩ := sound.counters consistent
    rw [proceed, withAlive, value]
    exact goto_sound sound s.state consistent .quiet .quiet (iff_of_true rfl (calm consistent))
  | storeAlive alive =>
    refine ⟨⟨sound.sequence, ?_, ?_⟩, .quiet, .quiet, iff_of_true rfl rfl⟩
    · change true = s.init.assigned .alive
      rw [show s.init = .constructed from consistent]
      rfl
    · intro _ _ held
      cases held
      trivial
  | release raised =>
    have free : Sound { s with lock := none } := ⟨sound.sequence, sound.alive, fun _ _ held => by cases held⟩
    cases raised with
    | none => exact ⟨free, .quiet, .quiet, iff_of_true rfl rfl⟩
    | some error => exact ⟨⟨free.sequence, free.alive, free.point⟩, .quiet, .quiet, iff_of_true rfl rfl⟩

end

/-! ### Every step -/

/-- Before the store is constructed a thread has at most the sequence number in hand. -/
theorem Consistent.early {s s' : Store} {point : Point} (consistent : Consistent s point)
    (early : s.init ≠ .constructed) (kept : ∀ sequence, s.sequence = some sequence → s'.sequence = some sequence) :
    Consistent s' point := by
  cases point with
  | begin | sendRuntimeControl | readSequence | release => trivial
  | readAlive sequence => exact kept sequence consistent
  | sendFront | sendRear | storeSequence => exact absurd consistent.1 early
  | readRearAlive | readRearSequence | loadSequence | loadAlive | storeAlive => exact absurd consistent early

theorem construct_sound {s : Store} (sound : Sound s) :
    Sound (construct s) ∧ (construct s).number = s.number ∧ (construct s).lock = s.lock := by
  have first := sound.sequence
  have second := sound.alive
  unfold construct
  cases init : s.init with
  | startFront | startRear | startPublish =>
    rw [init] at first second
    refine ⟨⟨first, second, ?_⟩, rfl, rfl⟩
    intro thread point held
    exact (sound.point thread point held).early (by rw [init]; decide) fun _ value => value
  | assignSequence =>
    rw [init] at first second
    have unassigned : s.sequence = none := Option.isNone_iff_eq_none.mp (Option.isSome_eq_false_iff.mp first)
    refine ⟨⟨rfl, second, ?_⟩, ?_, rfl⟩
    · intro thread point held
      refine (sound.point thread point held).early (by rw [init]; decide) fun sequence value => ?_
      rw [unassigned] at value
      cases value
    · rw [Store.number, Store.number, unassigned]
      rfl
  | assignAlive =>
    rw [init] at first
    refine ⟨⟨first, rfl, ?_⟩, rfl, rfl⟩
    intro thread point held
    exact (sound.point thread point held).early (by rw [init]; decide) fun _ value => value
  | constructed => exact ⟨sound, rfl, rfl⟩

theorem acquire_sound {s : Store} (sound : Sound s) (thread : Thread) (task : Task) :
    Sound (acquire s thread task) ∧ (acquire s thread task).number = s.number ∧
      frontPending (acquire s thread task) = frontPending s ∧ rearPending (acquire s thread task) = rearPending s := by
  unfold acquire
  split
  · rename_i granted
    have free : s.lock = none := by
      simp only [Bool.and_eq_true, Option.isNone_iff_eq_none] at granted
      exact granted.1.1.1
    have kept : Sound (goto { s with state := s.state } thread (.begin task)) := sound.goto trivial
    refine ⟨kept, rfl, ?_, ?_⟩
    · rw [frontPending, frontPending, free]
      rfl
    · rw [rearPending, rearPending, free]
      rfl
  · exact ⟨sound, rfl, rfl, rfl⟩

theorem step_free {s : Store} (free : s.lock = none) (clock : Clock) (taken : Bool) :
    machine.step s (.proceed clock taken) = (s, none) := by
  simp only [machine, free]

theorem step_held {s : Store} {thread : Thread} {point : Point} (held : s.lock = some (thread, point)) (clock : Clock)
    (taken : Bool) : machine.step s (.proceed clock taken) = proceed s thread clock taken point := by
  simp only [machine, held]

/-- A step that leaves the number and the packets as they are. -/
theorem still_sound {s next : Store} (kept : Sound next) (number : next.number = s.number)
    (front : frontPending next = frontPending s) (rear : rearPending next = rearPending s) :
    StepSound s (next, none) (frontPending s) (rearPending s) false false := by
  refine ⟨kept, ?_, ?_, iff_of_true rfl rfl⟩
  · rw [number, front]
    exact .quiet
  · rw [number, rear]
    exact .quiet

theorem step_sound {s : Store} (sound : Sound s) (action : Action) :
    StepSound s (machine.step s action) (frontPending s) (rearPending s) (abandons s action) (premature s action) := by
  cases action with
  | construct =>
    obtain ⟨kept, number, lock⟩ := construct_sound sound
    refine still_sound kept number ?_ ?_
    · rw [frontPending, frontPending, lock]
    · rw [rearPending, rearPending, lock]
  | acquire thread task =>
    obtain ⟨kept, number, front, rear⟩ := acquire_sound sound thread task
    exact still_sound kept number front rear
  | proceed clock taken =>
    cases held : s.lock with
    | none =>
      rw [step_free held, abandons, premature, held]
      exact still_sound sound rfl rfl rfl
    | some holder =>
      obtain ⟨thread, point⟩ := holder
      rw [step_held held, abandons, premature, frontPending, rearPending, held]
      exact proceed_sound sound (sound.point thread point held) clock

/-! ### Whole runs -/

theorem front_countsLate :
    CountsLate machine (· + 1) Sound Store.number frontPending frontSequences abandons where
  kept _ action sound := (step_sound sound action).kept
  step _ action sound := (step_sound sound action).front

/-- A packet that goes out to REAR is always counted. -/
theorem rear_countsLate :
    CountsLate machine (· + 1) Sound (fun s => s.number.toUInt16) rearPending rearSequences fun _ _ => false where
  kept _ action sound := (step_sound sound action).kept
  step _ action sound := (step_sound sound action).rear

theorem sound_run (actions : List Action) : Sound (machine.run start actions) :=
  machine.run_invariant Sound (fun _ action sound => (step_sound sound action).kept) sound_start actions

/-- No thread dies of an unassigned counter exactly when none comes to one too early. -/
theorem attributeErrors_eq_nil_iff (actions : List Action) :
    machine.collect attributeErrors start actions = [] ↔
      ∀ before action after, actions = before ++ action :: after →
        premature (machine.run start before) action = false := by
  rw [Machine.collect_eq_nil_iff]
  refine forall_congr' fun before => forall_congr' fun action => forall_congr' fun after => ?_
  exact imp_congr_right fun _ => (step_sound (sound_run before) action).errors

/-- The numbers 0, 1, 2 and so on, which come round again when the field of 32 bits does. -/
structure NumberedFromZero (numbers : List UInt32) : Prop where
  counts : ∀ k (within : k < numbers.length), numbers[k] = UInt32.ofNat k
  distinct : ∀ i j (order : i < j) (within : j < numbers.length), j - i < 2 ^ 32 → numbers[i] ≠ numbers[j]

theorem iterate_successor_uint32 (k : Nat) : (· + 1)^[k] (0 : UInt32) = UInt32.ofNat k := by
  induction k with
  | zero => rfl
  | succ k ih => rw [Function.iterate_succ_apply', ih, UInt32.ofNat_add]; rfl

theorem numberedFromZero_iff (numbers : List UInt32) :
    NumberedFromZero numbers ↔ CountsFrom (· + 1) 0 numbers := by
  rw [countsFrom_iff_getElem]
  simp only [iterate_successor_uint32]
  constructor
  · intro numbered
    exact numbered.counts
  · intro counts
    refine ⟨counts, ?_⟩
    intro i j order within near same
    rw [counts i (order.trans within), counts j within] at same
    have values := congrArg UInt32.toNat same
    rw [UInt32.toNat_ofNat', UInt32.toNat_ofNat'] at values
    omega

theorem iterate_successor_uint16 (k : Nat) : (· + 1)^[k] (0 : UInt16) = UInt16.ofNat k := by
  induction k with
  | zero => rfl
  | succ k ih => rw [Function.iterate_succ_apply', ih, UInt16.ofNat_add]; rfl

theorem ne_successor_uint16 (number : UInt16) : number + 1 ≠ number := by
  intro same
  have values := congrArg UInt16.toNat same
  rw [UInt16.toNat_add, UInt16.toNat_one] at values
  have bound := number.toNat_lt
  omega

/-- However the constructor and the threads take turns, REAR gets 0, 1, 2 and so on. -/
theorem rearSequences_count (actions : List Action) (k : Nat)
    (within : k < (machine.collect rearSequences start actions).length) :
    (machine.collect rearSequences start actions)[k] = UInt16.ofNat k := by
  have counts := (rear_countsLate.countsFrom_iff ne_successor_uint16 sound_start actions).mpr (by
    intro _ _ _ _ never
    cases never)
  rw [counts.getElem k within]
  exact iterate_successor_uint16 k

/-! ### The order of the steps -/

/-- A thread that may take the lock for a publish. -/
structure MayPublish (s : Store) (thread : Thread) : Prop where
  free : s.lock = none
  started : started s.init thread = true
  performs : performs thread .publish = true
  alive : thread ∉ s.ended

/-- How often the constructor goes on in a schedule. -/
def constructSteps (actions : List Action) : Nat :=
  actions.countP fun
    | .construct => true
    | _ => false

/-- How often the thread that has the lock goes on. -/
def lockSteps (actions : List Action) : Nat :=
  actions.countP fun
    | .proceed .. => true
    | _ => false

/-- From where the publish thread takes the lock, its third step comes after the fourth step of the
constructor, and its fourth after the fifth. -/
def InTime (actions : List Action) : Prop :=
  ∀ before first clock taken rest,
    actions = before ++ .acquire .publish .publish :: (first ++ .proceed clock taken :: rest) →
      MayPublish (machine.run start before) .publish →
        (lockSteps first = 2 → 4 ≤ constructSteps (before ++ first)) ∧
          (lockSteps first = 3 → 5 ≤ constructSteps (before ++ first))

@[simp] theorem constructSteps_append (first second : List Action) :
    constructSteps (first ++ second) = constructSteps first + constructSteps second := List.countP_append

@[simp] theorem lockSteps_append (first second : List Action) :
    lockSteps (first ++ second) = lockSteps first + lockSteps second := List.countP_append

@[simp] theorem constructSteps_acquire (thread : Thread) (task : Task) (rest : List Action) :
    constructSteps (.acquire thread task :: rest) = constructSteps rest := rfl

/-- The steps of the constructor so far. -/
def InitPoint.steps : InitPoint → Nat
  | .startFront => 0
  | .startRear => 1
  | .startPublish => 2
  | .assignSequence => 3
  | .assignAlive => 4
  | .constructed => 5

theorem InitPoint.assigned_sequence (init : InitPoint) : init.assigned .sequence = true ↔ 4 ≤ init.steps := by
  cases init <;> decide

theorem InitPoint.assigned_alive (init : InitPoint) : init.assigned .alive = true ↔ 5 ≤ init.steps := by
  cases init <;> decide

theorem steps_construct (s : Store) : (construct s).init.steps = Min.min (s.init.steps + 1) 5 := by
  unfold construct
  cases init : s.init <;> simp [InitPoint.steps, init]

theorem init_acquire (s : Store) (thread : Thread) (task : Task) : (acquire s thread task).init = s.init := by
  unfold acquire
  split <;> rfl

/-- The thread that has the lock leaves the constructor where it was. -/
theorem proceed_init (s : Store) (thread : Thread) (clock : Clock) (taken : Bool) (point : Point) :
    (proceed s thread clock taken point).1.init = s.init := by
  have reading {α : Type} (name : String) (value : Option α) (body : α → Store × Option Effect)
      (kept : ∀ x, (body x).1.init = s.init) : (withAttribute s thread name value body).1.init = s.init := by
    cases value with
    | none => rfl
    | some x => exact kept x
  cases point with
  | begin task => cases task <;> rfl
  | sendRuntimeControl | storeSequence | storeAlive => rfl
  | readSequence | readRearAlive | loadSequence | loadAlive => exact reading _ _ _ fun _ => rfl
  | readAlive sequence =>
    refine reading _ _ _ fun alive => ?_
    split <;> rfl
  | readRearSequence alive =>
    refine reading _ _ _ fun sequence => ?_
    split <;> rfl
  | sendFront | sendRear => cases taken <;> rfl
  | release raised => cases raised <;> rfl

theorem init_proceed (s : Store) (clock : Clock) (taken : Bool) :
    (machine.next s (.proceed clock taken)).init = s.init := by
  cases held : s.lock with
  | none => exact congrArg (fun result => result.1.init) (step_free held clock taken)
  | some holder =>
    exact (congrArg (fun result => result.1.init) (step_held held clock taken)).trans (proceed_init ..)

theorem steps_run (actions : List Action) :
    (machine.run start actions).init.steps = Min.min (constructSteps actions) 5 := by
  induction actions using List.reverseRecOn with
  | nil => rfl
  | append_singleton before action ih =>
    rw [Machine.run_concat, constructSteps_append]
    cases action with
    | construct =>
      refine (steps_construct _).trans ?_
      rw [ih, show constructSteps [.construct] = 1 from rfl]
      omega
    | acquire thread task => exact (congrArg InitPoint.steps (init_acquire ..)).trans ih
    | proceed clock taken => exact (congrArg InitPoint.steps (init_proceed ..)).trans ih

/-- How far a publish is that has not read both counters. -/
def Point.stage : Point → Option Nat
  | .begin .publish | .begin (.update _) => some 0
  | .sendRuntimeControl => some 1
  | .readSequence => some 2
  | .readAlive _ => some 3
  | _ => none

/-- A thread comes to a counter too early in the third or the fourth step of a publish. -/
theorem premature_iff {s : Store} {point : Point} (consistent : Consistent s point) :
    point.premature s.init = true ↔
      point.stage = some 2 ∧ s.init.steps < 4 ∨ point.stage = some 3 ∧ s.init.steps < 5 := by
  have later (constructed : s.init = .constructed) (none : point.stage = none) : point.premature s.init = true ↔
      point.stage = some 2 ∧ s.init.steps < 4 ∨ point.stage = some 3 ∧ s.init.steps < 5 := by
    rw [constructed, Point.premature_constructed, none]
    simp
  cases point with
  | begin task => cases task <;> simp [Point.premature, Point.reads, Point.stage]
  | sendRuntimeControl => simp [Point.premature, Point.reads, Point.stage]
  | readSequence =>
    have assigned := s.init.assigned_sequence
    simp only [Point.premature, Point.reads, Point.stage, Option.any_some, Bool.not_eq_true']
    rw [← Bool.not_eq_true, assigned]
    simp
  | readAlive sequence =>
    have assigned := s.init.assigned_alive
    simp only [Point.premature, Point.reads, Point.stage, Option.any_some, Bool.not_eq_true']
    rw [← Bool.not_eq_true, assigned]
    simp
  | sendFront | sendRear | storeSequence => exact later consistent.1 rfl
  | readRearAlive | readRearSequence | loadSequence | loadAlive | storeAlive => exact later consistent rfl
  | release raised => simp [Point.premature, Point.reads, Point.stage]

/-- The next step of a publish, if it does not come to a counter too early. -/
theorem proceed_stage {s : Store} (sound : Sound s) {point : Point} {k : Nat} (stage : point.stage = some k)
    (more : k < 3) (timely : point.premature s.init = false) (thread : Thread) (clock : Clock) (taken : Bool) :
    ∃ point', (proceed s thread clock taken point).1.lock = some (thread, point') ∧ point'.stage = some (k + 1) := by
  cases point with
  | begin task =>
    cases task with
    | publish | update =>
      cases stage
      exact ⟨.sendRuntimeControl, rfl, rfl⟩
    | front | rear => cases stage
  | sendRuntimeControl =>
    cases stage
    exact ⟨.readSequence, rfl, rfl⟩
  | readSequence =>
    cases stage
    have assigned : s.sequence.isSome = true := by
      rw [sound.sequence]
      simpa [Point.premature, Point.reads] using timely
    obtain ⟨sequence, value⟩ := Option.isSome_iff_exists.mp assigned
    rw [proceed, withSequence, value]
    exact ⟨.readAlive sequence, rfl, rfl⟩
  | readAlive =>
    cases stage
    exact absurd more (Nat.lt_irrefl 3)
  | _ => cases stage

/-- Where a publish is after a step, it was one step before. -/
theorem stage_of_proceed {s : Store} {thread thread' : Thread} {clock : Clock} {taken : Bool} {point point' : Point}
    {k : Nat} (held : (proceed s thread clock taken point).1.lock = some (thread', point'))
    (stage : point'.stage = some k) : thread' = thread ∧ ∃ j, point.stage = some j ∧ k = j + 1 := by
  have ended {other : Point} (none : other.stage = none) {body : Store}
      (lock : (goto body thread other).lock = some (thread', point')) : False := by
    cases lock
    rw [none] at stage
    cases stage
  have reading {α : Type} {name : String} {value : Option α} {body : α → Store × Option Effect}
      (lock : (withAttribute s thread name value body).1.lock = some (thread', point')) :
      ∃ x, (body x).1.lock = some (thread', point') := by
    cases value with
    | none => exact (ended rfl lock).elim
    | some x => exact ⟨x, lock⟩
  cases point with
  | begin task =>
    cases task with
    | publish | update =>
      cases held
      cases stage
      exact ⟨rfl, 0, rfl, rfl⟩
    | front | rear => exact (ended rfl held).elim
  | sendRuntimeControl =>
    cases held
    cases stage
    exact ⟨rfl, 1, rfl, rfl⟩
  | readSequence =>
    obtain ⟨sequence, lock⟩ := reading held
    cases lock
    cases stage
    exact ⟨rfl, 2, rfl, rfl⟩
  | readAlive sequence =>
    obtain ⟨alive, lock⟩ := reading held
    split at lock
    · exact (ended rfl lock).elim
    · exact (ended rfl lock).elim
  | readRearSequence alive =>
    obtain ⟨sequence, lock⟩ := reading held
    split at lock
    · exact (ended rfl lock).elim
    · exact (ended rfl lock).elim
  | readRearAlive | loadSequence | loadAlive =>
    obtain ⟨value, lock⟩ := reading held
    exact (ended rfl lock).elim
  | sendFront | sendRear => cases taken <;> exact (ended rfl held).elim
  | storeSequence | storeAlive => exact (ended rfl held).elim
  | release raised => cases raised <;> cases held

/-- A publish that is on its way before the store is constructed is one of the publish thread. -/
theorem acquired_of_stage {history : List Action} {thread : Thread} {point : Point} {k : Nat}
    (held : (machine.run start history).lock = some (thread, point)) (stage : point.stage = some k)
    (early : constructSteps history < 5) :
    ∃ before first, history = before ++ .acquire .publish .publish :: first ∧
      MayPublish (machine.run start before) .publish ∧ lockSteps first = k := by
  induction history using List.reverseRecOn generalizing thread point k with
  | nil => cases held
  | append_singleton history action ih =>
    rw [Machine.run_concat] at held
    rw [constructSteps_append] at early
    have before : constructSteps history < 5 := (Nat.le_add_right ..).trans_lt early
    cases action with
    | construct =>
      obtain ⟨earlier, first, rfl, may, steps⟩ :=
        ih ((construct_sound (sound_run history)).2.2.symm.trans held) stage before
      exact ⟨earlier, first ++ [.construct], by simp, may, by rw [lockSteps_append, steps]; rfl⟩
    | acquire taker task =>
      change (acquire (machine.run start history) taker task).lock = _ at held
      by_cases granted : (machine.run start history).lock.isNone && started (machine.run start history).init taker &&
          performs taker task && taker ∉ (machine.run start history).ended
      · rw [acquire, if_pos granted] at held
        cases held
        simp only [Bool.and_eq_true, Option.isNone_iff_eq_none, decide_eq_true_eq] at granted
        obtain ⟨⟨⟨free, runs⟩, does⟩, alive⟩ := granted
        have unfinished : (machine.run start history).init ≠ .constructed := by
          intro constructed
          have steps := steps_run history
          rw [constructed, InitPoint.steps] at steps
          omega
        have publishes : thread = .publish ∧ task = .publish := by
          cases thread with
          | front =>
            cases task with
            | front => cases stage
            | _ => cases does
          | rear =>
            cases task with
            | rear => cases stage
            | _ => cases does
          | publish =>
            cases task with
            | publish => exact ⟨rfl, rfl⟩
            | _ => cases does
          | caller n => exact absurd (of_decide_eq_true runs) unfinished
        obtain ⟨rfl, rfl⟩ := publishes
        cases stage
        exact ⟨history, [], rfl, ⟨free, runs, rfl, alive⟩, rfl⟩
      · rw [acquire, if_neg granted] at held
        obtain ⟨earlier, first, rfl, may, steps⟩ := ih held stage before
        exact ⟨earlier, first ++ [.acquire taker task], by simp, may, by rw [lockSteps_append, steps]; rfl⟩
    | proceed clock taken =>
      rw [Machine.next] at held
      cases holder : (machine.run start history).lock with
      | none =>
        rw [step_free holder, holder] at held
        cases held
      | some had =>
        obtain ⟨thread', point'⟩ := had
        rw [step_held holder] at held
        obtain ⟨rfl, j, stage', rfl⟩ := stage_of_proceed held stage
        obtain ⟨earlier, first, rfl, may, steps⟩ := ih holder stage' before
        exact ⟨earlier, first ++ [.proceed clock taken], by simp, may, by rw [lockSteps_append, steps]; rfl⟩

/-- From where the publish thread takes the lock, its publish goes on with every step, as long as none comes to a
counter too early. -/
theorem stage_of_acquired {before first : List Action} (may : MayPublish (machine.run start before) .publish)
    (timely : ∀ earlier action later, first = earlier ++ action :: later →
      premature (machine.run start (before ++ .acquire .publish .publish :: earlier)) action = false)
    (few : lockSteps first ≤ 3) :
    ∃ point, (machine.run start (before ++ .acquire .publish .publish :: first)).lock = some (.publish, point) ∧
      point.stage = some (lockSteps first) := by
  induction first using List.reverseRecOn with
  | nil =>
    refine ⟨.begin .publish, ?_, rfl⟩
    obtain ⟨free, runs, does, alive⟩ := may
    rw [Machine.run_concat]
    change (acquire (machine.run start before) .publish .publish).lock = _
    rw [acquire, if_pos (by simp [free, runs, does, alive])]
  | append_singleton first action ih =>
    rw [lockSteps_append] at few ⊢
    obtain ⟨point, held, stage⟩ := ih
      (fun earlier middle later split => timely earlier middle (later ++ [action]) (by rw [split]; simp))
      ((Nat.le_add_right ..).trans few)
    rw [← List.cons_append, ← List.append_assoc, Machine.run_concat]
    generalize history : before ++ .acquire .publish .publish :: first = past at held
    cases action with
    | construct =>
      exact ⟨point, ((construct_sound (sound_run past)).2.2).trans held, stage⟩
    | acquire thread task =>
      refine ⟨point, ?_, stage⟩
      change (acquire (machine.run start past) thread task).lock = _
      rw [acquire, if_neg, held]
      simp [held]
    | proceed clock taken =>
      have clear : point.premature (machine.run start past).init = false := by
        have now := timely first (.proceed clock taken) [] rfl
        rw [history, premature, held] at now
        exact now
      obtain ⟨point', held', stage'⟩ :=
        proceed_stage (sound_run past) stage (Nat.lt_of_succ_le few) clear .publish clock taken
      refine ⟨point', ?_, stage'⟩
      rw [Machine.next, step_held held]
      exact held'

/-- No thread comes to a counter too early exactly when the publish thread is late enough. -/
theorem inTime_iff (actions : List Action) :
    (∀ before action after, actions = before ++ action :: after →
      premature (machine.run start before) action = false) ↔ InTime actions := by
  constructor
  · intro timely before first clock taken rest split may
    have soon (k : Nat) (steps : lockSteps first = k) (few : k ≤ 3) :
        ∃ point, Consistent (machine.run start (before ++ .acquire .publish .publish :: first)) point ∧
          point.stage = some k ∧
          point.premature (machine.run start (before ++ .acquire .publish .publish :: first)).init = false := by
      obtain ⟨point, held, stage⟩ := stage_of_acquired may
        (fun earlier action later inside => timely _ action (later ++ .proceed clock taken :: rest)
          (by rw [split, inside]; simp)) (steps.trans_le few)
      refine ⟨point, (sound_run _).point _ point held, stage.trans (congrArg some steps), ?_⟩
      have now := timely (before ++ .acquire .publish .publish :: first) (.proceed clock taken) rest (by rw [split]; simp)
      rw [premature, held] at now
      exact now
    have count := steps_run (before ++ .acquire .publish .publish :: first)
    simp only [constructSteps_append, constructSteps_acquire] at count ⊢
    constructor
    · intro two
      obtain ⟨point, consistent, stage, clear⟩ := soon 2 two (by decide)
      have late := mt (premature_iff consistent).mpr (by rw [clear]; exact Bool.false_ne_true)
      have enough : ¬ _ < 4 := fun few => late (.inl ⟨stage, few⟩)
      omega
    · intro three
      obtain ⟨point, consistent, stage, clear⟩ := soon 3 three le_rfl
      have late := mt (premature_iff consistent).mpr (by rw [clear]; exact Bool.false_ne_true)
      have enough : ¬ _ < 5 := fun few => late (.inr ⟨stage, few⟩)
      omega
  · intro inTime before action after split
    cases action with
    | construct | acquire => rfl
    | proceed clock taken =>
      cases held : (machine.run start before).lock with
      | none => rw [premature, held]; rfl
      | some holder =>
        obtain ⟨thread, point⟩ := holder
        have consistent := (sound_run before).point thread point held
        have count := steps_run before
        have now : premature (machine.run start before) (.proceed clock taken) =
            point.premature (machine.run start before).init := by rw [premature, held]; rfl
        rw [now, ← Bool.not_eq_true, premature_iff consistent]
        rintro (⟨stage, few⟩ | ⟨stage, few⟩)
        · obtain ⟨earlier, first, rfl, may, steps⟩ := acquired_of_stage held stage (by omega)
          have enough := (inTime earlier first clock taken after (by rw [split]; simp) may).1 steps
          simp only [constructSteps_append, constructSteps_acquire] at count enough
          omega
        · obtain ⟨earlier, first, rfl, may, steps⟩ := acquired_of_stage held stage (by omega)
          have enough := (inTime earlier first clock taken after (by rw [split]; simp) may).2 steps
          simp only [constructSteps_append, constructSteps_acquire] at count enough
          omega

/-! ### Start-up -/

/-- In any order of steps, no thread dies of an unassigned counter and FRONT gets 0, 1, 2
and so on exactly when the publish thread is late enough and nothing is sent to FRONT any
more after a publish that was left before it had counted. -/
theorem startup_publishes_iff (actions : List Action) :
    ((machine.collect attributeErrors start actions = [] ∧
        NumberedFromZero (machine.collect frontSequences start actions)) ↔
      InTime actions ∧ CountsLate.AbandonsLast machine frontSequences abandons start actions) ∧
    ∀ k (within : k < (machine.collect rearSequences start actions).length),
      (machine.collect rearSequences start actions)[k] = UInt16.ofNat k := by
  refine ⟨?_, rearSequences_count actions⟩
  rw [attributeErrors_eq_nil_iff, inTime_iff, numberedFromZero_iff]
  exact and_congr_right fun _ => front_countsLate.countsFrom_iff (fun _ => ne_successor.symm) sound_start actions

/-- The publish thread takes the lock at once and reads `_sequence` while the constructor
has still to assign it. -/
def earlyPublish : List Action :=
  [.construct, .construct, .construct, .acquire .publish .publish] ++ List.replicate 4 (.proceed ⟨0, 0⟩ true)

theorem early_publish_dies :
    machine.collect attributeErrors start earlyPublish = [.publish] ∧
      (machine.run start earlyPublish).ended = [.publish] := by
  exact ⟨rfl, rfl⟩

/-! ### A publish as one step -/

/-- What a thread goes through to publish once, if nothing stops it. -/
def publishSteps (thread : Thread) (clock : Clock) (sends : Sends) : List Action :=
  .acquire thread .publish ::
    [true, sends.runtimeControl, true, true, sends.front, true, true, sends.rear, true, true, true, true, true].map
      (.proceed clock)

/-- Once the store is constructed, the steps of a thread from taking the lock to giving it
back come to the one step that a publish is under the lock. -/
theorem publishSteps_eq {s : Store} {thread : Thread} (may : MayPublish s thread) {sequence : UInt32} {alive : UInt16}
    (first : s.sequence = some sequence) (second : s.alive = some alive) (clock : Clock) (sends : Sends) :
    let published := publishRuntimeControl ⟨s.state, sequence, alive⟩ clock sends
    machine.run s (publishSteps thread clock sends) =
        { s with
          sequence := some published.1.sequence
          alive := some published.1.alive
          ended := if published.2.error.isSome then thread :: s.ended else s.ended } ∧
      machine.collect (fun s action => sentFront (machine.output s action)) s (publishSteps thread clock sends) =
        published.2.front ∧
      machine.collect (fun s action => sentRear (machine.output s action)) s (publishSteps thread clock sends) =
        published.2.rear := by
  obtain ⟨init, state, _, _, _, ended⟩ := s
  obtain ⟨rfl, started, performs, awake⟩ := may
  cases first
  cases second
  have taken : acquire ⟨init, state, some sequence, some alive, none, ended⟩ thread .publish =
      ⟨init, state, some sequence, some alive, some (thread, .begin .publish), ended⟩ := by
    rw [acquire, if_pos]
    simp_all
  obtain ⟨packet, built, -⟩ := buildFrontPacket_ok ⟨state, sequence, alive⟩ clock
  obtain ⟨runtimeControl, front, rear⟩ := sends
  obtain ⟨rearPacket, rearBuilt⟩ : ∃ result, buildRearCommandPacket ⟨state, sequence, alive⟩ clock = result := ⟨_, rfl⟩
  -- The steps after the one that stops the publish find the lock free.
  cases front
  on_goal 2 => cases rearPacket
  on_goal 3 => cases rear
  all_goals
    simp [publishSteps, machine, Machine.next, Machine.output, Machine.collect, taken, proceed, goto, raise,
      withSequence, withAlive, withAttribute, built, rearBuilt, publishRuntimeControl, sentFront, sentRear]

end SelfDriving.Hpvc.Startup
