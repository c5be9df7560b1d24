import SelfDriving.Hpvc.RuntimeApi

/-! The runtime control store while it is constructed. The constructor starts the threads of
the store and only then assigns the counters of the packets, without the lock. A read or a
write of an attribute, a send and taking or giving back the lock are one step each, and the
steps of the constructor and of the threads interleave in any order. -/
namespace SelfDriving.Hpvc.Startup
open Python

/-- What the constructor does next, once the sockets are bound and the threads made. -/
inductive InitPoint where
  | startFront
  | startRear
  | startPublish
  | assignSequence
  | assignAlive
  | constructed
  deriving DecidableEq

/-- The threads that use the store: the three that the constructor starts, and those that
have it from there on, which are the main thread, the publisher of the server and one for
each request. -/
inductive Thread where
  | front
  | rear
  | publish
  | caller (n : Nat)
  deriving DecidableEq

/-- What a thread takes the lock for. -/
inductive Task where
  | publish
  | update (changes : List Change)
  | front (snapshot : FrontSnapshot)
  | rear (snapshot : RearSnapshot)

/-- What the thread that has the lock does next, with the values it has read. -/
inductive Point where
  | begin (task : Task)
  | sendRuntimeControl
  | readSequence
  | readAlive (sequence : UInt32)
  | sendFront (packet : List UInt8)
  | readRearAlive
  | readRearSequence (alive : UInt16)
  | sendRear (packet : List UInt8)
  | loadSequence
  | storeSequence (sequence : UInt32)
  | loadAlive
  | storeAlive (alive : UInt16)
  | release (raised : Option PyError)

/-- A counter has no value until the constructor assigns it. The lock is with one thread at
a time; a thread that an exception has left takes no further step. -/
structure Store where
  init : InitPoint
  state : RuntimeControlState
  sequence : Option UInt32
  alive : Option UInt16
  lock : Option (Thread × Point)
  ended : List Thread

/-- The threads are made, and none is started. -/
def start : Store := ⟨.startFront, storeStart.state, none, none, none, []⟩

/-- What a step does outside the store. -/
inductive Effect where
  | runtimeControl (payload : List UInt8)
  | front (packet : List UInt8)
  | rear (packet : List UInt8)
  | raised (thread : Thread) (error : PyError)

inductive Action where
  /-- The constructor goes on. -/
  | construct
  /-- A thread takes the lock. -/
  | acquire (thread : Thread) (task : Task)
  /-- The thread that has the lock goes on. The clock is what it reads if it builds a
  packet, and `taken` whether the socket takes what it sends. -/
  | proceed (clock : Clock) (taken : Bool)

/-! ### The constructor -/

/-- One step of the constructor. -/
def construct (s : Store) : Store :=
  match s.init with
  | .startFront => { s with init := .startRear }
  | .startRear => { s with init := .startPublish }
  | .startPublish => { s with init := .assignSequence }
  | .assignSequence => { s with init := .assignAlive, sequence := some 0 }
  | .assignAlive => { s with init := .constructed, alive := some 0 }
  | .constructed => s

/-! ### The threads -/

/-- The thread runs by then. -/
def started (init : InitPoint) : Thread → Bool
  | .front => init ≠ .startFront
  | .rear => init ≠ .startFront ∧ init ≠ .startRear
  | .publish => init ≠ .startFront ∧ init ≠ .startRear ∧ init ≠ .startPublish
  | .caller _ => init = .constructed

/-- What the code of a thread takes the lock for. -/
def performs : Thread → Task → Bool
  | .front, .front _ | .rear, .rear _ | .publish, .publish | .caller _, .publish | .caller _, .update _ => true
  | _, _ => false

/-- A thread waits while another one has the lock. -/
def acquire (s : Store) (thread : Thread) (task : Task) : Store :=
  if s.lock.isNone && started s.init thread && performs thread task && thread ∉ s.ended then
    { s with lock := some (thread, .begin task) }
  else s

def goto (s : Store) (thread : Thread) (point : Point) : Store := { s with lock := some (thread, point) }

/-- An exception leaves the body, and the lock is given back on the way. -/
def raise (s : Store) (thread : Thread) (error : PyError) : Store × Option Effect :=
  (goto s thread (.release (some error)), some (.raised thread error))

/-- What a read of an attribute raises that was never assigned. -/
def noAttribute (name : String) : PyError :=
  .attributeError ("'RuntimeControlStore' object has no attribute '" ++ name ++ "'")

/-- A read of an attribute and what is done with its value. -/
def withAttribute {α : Type} (s : Store) (thread : Thread) (name : String) (value : Option α)
    (body : α → Store × Option Effect) : Store × Option Effect :=
  match value with
  | none => raise s thread (noAttribute name)
  | some value => body value

def withSequence (s : Store) (thread : Thread) : (UInt32 → Store × Option Effect) → Store × Option Effect :=
  withAttribute s thread "_sequence" s.sequence

def withAlive (s : Store) (thread : Thread) : (UInt16 → Store × Option Effect) → Store × Option Effect :=
  withAttribute s thread "_alive" s.alive

/-- One step of the thread that holds the lock. -/
def proceed (s : Store) (thread : Thread) (clock : Clock) (taken : Bool) : Point → Store × Option Effect
  | .begin .publish => (goto s thread .sendRuntimeControl, none)
  | .begin (.update changes) =>
    (goto { s with state := recomputeEffective (changes.foldl setField s.state) } thread .sendRuntimeControl, none)
  | .begin (.front snapshot) => (goto { s with state := setFrontAeb s.state snapshot } thread (.release none), none)
  | .begin (.rear snapshot) => (goto { s with state := setRearStatus s.state snapshot } thread (.release none), none)
  | .sendRuntimeControl =>
    -- An error of this socket alone stops nothing.
    (goto s thread .readSequence,
      if taken then some (.runtimeControl [if s.state.effectiveLkasActive then 1 else 0]) else none)
  | .readSequence => withSequence s thread fun sequence => (goto s thread (.readAlive sequence), none)
  | .readAlive sequence =>
    withAlive s thread fun alive =>
      match buildFrontPacket ⟨s.state, sequence, alive⟩ clock with
      | .error error => raise s thread error
      | .ok packet => (goto s thread (.sendFront packet), none)
  | .sendFront packet =>
    if taken then (goto s thread .readRearAlive, some (.front packet)) else (goto s thread (.release none), none)
  | .readRearAlive => withAlive s thread fun alive => (goto s thread (.readRearSequence alive), none)
  | .readRearSequence alive =>
    withSequence s thread fun sequence =>
      match buildRearCommandPacket ⟨s.state, sequence, alive⟩ clock with
      | .error error => raise s thread error
      | .ok packet => (goto s thread (.sendRear packet), none)
  | .sendRear packet =>
    if taken then (goto s thread .loadSequence, some (.rear packet)) else (goto s thread (.release none), none)
  | .loadSequence => withSequence s thread fun sequence => (goto s thread (.storeSequence (sequence + 1)), none)
  | .storeSequence sequence => (goto { s with sequence := some sequence } thread .loadAlive, none)
  | .loadAlive => withAlive s thread fun alive => (goto s thread (.storeAlive (alive + 1)), none)
  | .storeAlive alive => (goto { s with alive := some alive } thread (.release none), none)
  | .release none => ({ s with lock := none }, none)
  | .release (some _) => ({ s with lock := none, ended := thread :: s.ended }, none)

/-! ### All together -/

/-- The constructor and its threads, one step at a time. -/
def machine : Machine Store Action (Option Effect) where
  step s
    | .construct => (construct s, none)
    | .acquire thread task => (acquire s thread task, none)
    | .proceed clock taken =>
      match s.lock with
      | none => (s, none)
      | some (thread, point) => proceed s thread clock taken point

end SelfDriving.Hpvc.Startup
