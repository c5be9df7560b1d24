import SelfDriving.Front.Clock
import SelfDriving.Front.SteeringProofs

/-! The watchdog in true time. A reading of the clock is right about an age only
while the age is shorter than the timer's period, so a control cycle alone does
not see that a link has been quiet for long. What makes the watchdog safe is
that an earlier cycle, close enough to the last packet, has already tripped it,
and that no control cycle undoes a trip. -/
namespace SelfDriving.Front
open Ieee754

/-- What is asked of the node at a time; the clock is read then. -/
inductive Request where
  | packet (payload : Option Memory) (length : UInt16)
  | frame (frame : Option Memory) (length : UInt16)
  | control
  | hold (holdMs : UInt32)

/-- A request and its true time in timer ticks. -/
structure Event where
  ticks : Nat
  request : Request

def Event.call (event : Event) : Call :=
  match event.request with
  | .packet payload length => .acceptHpscPacket payload length (clock event.ticks)
  | .frame frame length => .acceptEthernetFrame frame length (clock event.ticks)
  | .control => .runOnce (clock event.ticks)
  | .hold holdMs => .holdCurrentForMs holdMs

/-- The node in true time. -/
def timedNode : Machine (State F32) Event Reply where
  step s event := (node F32).step s event.call

/-- The true times at which packets are accepted over a run. -/
def acceptedTicks (s : State F32) (events : List Event) : List Nat :=
  timedNode.collect (fun s event => if (packetOf s event.call).isSome then [event.ticks] else []) s events

theorem acceptedTicks_cons (s : State F32) (event : Event) (rest : List Event) :
    acceptedTicks s (event :: rest) =
      (if (packetOf s event.call).isSome then [event.ticks] else []) ++
        acceptedTicks (timedNode.next s event) rest := rfl

/-- The true times of the control cycles. -/
def controlTicks (events : List Event) : List Nat :=
  events.filterMap fun event =>
    match event.request with
    | .control => some event.ticks
    | _ => none

/-- Control cycles follow one another within the timer's period less one second. -/
def Paced (events : List Event) : Prop :=
  (controlTicks events).IsChain fun cycle next => next + 1000 * ticksPerMs < cycle + wrapTicks

/-- The last control cycle after an event. -/
def Event.cycle (event : Event) (since : Nat) : Nat :=
  match event.request with
  | .control => event.ticks
  | _ => since

/-- The fail-safe state. -/
structure Tripped (s : State F32) : Prop where
  linkValid : s.linkValid = false
  commandValid : s.commandValid = false
  emergencyCenter : s.emergencyCenter = true
  targetAngleRad : s.targetAngleRad = 0.0

/-- The last packet's age is known to the node, and once a control cycle has seen
it stale the node is tripped; `since` is the last control cycle. -/
structure Watched (s : State F32) (since : Nat) (last : Option Nat) (now : Nat) : Prop where
  initialized : s.initialized = last.isSome
  lastPacketMs : ∀ packet, last = some packet → s.lastPacketMs = clock packet
  since_le : since ≤ now
  tripped : ∀ packet, last = some packet → packet + 202 * ticksPerMs < since → Tripped s

theorem Tripped.keeps {s next : State F32} (tripped : Tripped s) (keeps : Keeps s next) : Tripped next := by
  rcases keeps.steering with ⟨link, command, emergency, target⟩ | ⟨link, command, emergency, target⟩
  · exact ⟨link, command, emergency, target⟩
  · exact ⟨link.trans tripped.linkValid, command.trans tripped.commandValid,
      emergency.trans tripped.emergencyCenter, target.trans tripped.targetAngleRad⟩

theorem runOnce_trips {nowMs : UInt32} {s : State F32} (dead : ¬ Alive nowMs s) : Tripped (runOnce nowMs s).1 := by
  simp only [runOnce, slew]
  rcases watchdog_cases nowMs s with ⟨alive, -⟩ | ⟨-, trips⟩
  · exact absurd alive dead
  · rw [trips]
    exact ⟨rfl, rfl, rfl, rfl⟩

/-- A control cycle over a link that has been quiet for more than 202 ms. -/
theorem Watched.control_trips {s : State F32} {since now ticks : Nat} {last : Option Nat}
    (watched : Watched s since last now) (paced : ticks + 1000 * ticksPerMs < since + wrapTicks)
    (quiet : ∀ packet, last = some packet → packet + 202 * ticksPerMs < ticks) :
    Tripped (timedNode.next s ⟨ticks, .control⟩) := by
  change Tripped (runOnce (clock ticks) s).1
  cases last with
  | none =>
    refine runOnce_trips fun alive => ?_
    cases watched.initialized.symm.trans alive.1
  | some packet =>
    by_cases seen : packet + 202 * ticksPerMs < since
    · -- An earlier cycle tripped the node.
      exact (watched.tripped packet rfl seen).keeps (keeps_runOnce _ _)
    · have long := quiet packet rfl
      simp only [ticksPerMs, wrapTicks] at *
      refine runOnce_trips fun alive => ?_
      have age := alive.2
      rw [watched.lastPacketMs packet rfl] at age
      exact UInt32.not_lt.mpr age (age_gt_watchdog (by omega) (by omega))

theorem Event.cycle_of_delivery {event : Event} (delivery : event.request ≠ .control) (since : Nat) :
    event.cycle since = since := by
  rcases event with ⟨ticks, _ | _ | _ | _⟩
  · rfl
  · rfl
  · exact absurd rfl delivery
  · rfl

/-- A call without an accepted packet keeps what is known; a control cycle renews it. -/
theorem Watched.keeps {s : State F32} {since now : Nat} {last : Option Nat} {event : Event}
    (watched : Watched s since last now) (later : now ≤ event.ticks)
    (paced : event.request = .control → event.ticks + 1000 * ticksPerMs < since + wrapTicks)
    (keeps : Keeps s (timedNode.next s event)) : Watched (timedNode.next s event) (event.cycle since) last event.ticks := by
  have initialized : (timedNode.next s event).initialized = last.isSome := keeps.initialized.trans watched.initialized
  have lastPacketMs : ∀ packet, last = some packet → (timedNode.next s event).lastPacketMs = clock packet :=
    fun packet same => keeps.lastPacketMs.trans (watched.lastPacketMs packet same)
  by_cases control : event.request = .control
  · obtain ⟨ticks, request⟩ := event
    cases control
    refine ⟨initialized, lastPacketMs, le_rfl, ?_⟩
    rintro packet rfl long
    refine watched.control_trips (paced rfl) fun other same => ?_
    cases same
    exact long
  · rw [Event.cycle_of_delivery control]
    refine ⟨initialized, lastPacketMs, watched.since_le.trans later, fun packet some long => ?_⟩
    exact (watched.tripped packet some long).keeps keeps

/-- An accepted packet is the last one from now on. -/
theorem Watched.takes {s next : State F32} {since now ticks : Nat} {last : Option Nat}
    (watched : Watched s since last now) (later : now ≤ ticks) (initialized : next.initialized = true)
    (lastPacketMs : next.lastPacketMs = clock ticks) : Watched next since (some ticks) ticks := by
  have bounded := watched.since_le.trans later
  refine ⟨initialized, ?_, bounded, ?_⟩
  · rintro packet ⟨⟩
    exact lastPacketMs
  · rintro packet ⟨⟩ long
    omega

/-- One event keeps the watch. -/
theorem Watched.next {s : State F32} {since now : Nat} {last : Option Nat} {event : Event}
    (watched : Watched s since last now) (later : now ≤ event.ticks)
    (paced : event.request = .control → event.ticks + 1000 * ticksPerMs < since + wrapTicks) :
    Watched (timedNode.next s event) (event.cycle since)
      (if (packetOf s event.call).isSome then some event.ticks else last) event.ticks := by
  rcases step_cases s event.call with ⟨none, _, keeps⟩ | ⟨packet, start, taken, _, _, _, _, takes⟩
  · simp only [none, Option.isSome_none, Bool.false_eq_true, if_false]
    exact watched.keeps later paced keeps
  · simp only [taken, Option.isSome_some, if_true]
    obtain ⟨ticks, _ | _ | _ | _⟩ := event
    · exact watched.takes later takes.initialized takes.lastPacketMs
    · exact watched.takes later takes.initialized takes.lastPacketMs
    · cases taken
    · cases taken

/-- The pacing of a run after its first event. -/
theorem paced_cons {since : Nat} {event : Event} {rest : List Event}
    (paced : (since :: controlTicks (event :: rest)).IsChain fun cycle next =>
      next + 1000 * ticksPerMs < cycle + wrapTicks) :
    (event.request = .control → event.ticks + 1000 * ticksPerMs < since + wrapTicks) ∧
      (event.cycle since :: controlTicks rest).IsChain fun cycle next =>
        next + 1000 * ticksPerMs < cycle + wrapTicks := by
  rcases event with ⟨ticks, _ | _ | _ | _⟩
  · exact ⟨nofun, paced⟩
  · exact ⟨nofun, paced⟩
  · obtain ⟨first, rest⟩ := List.isChain_cons_cons.mp paced
    exact ⟨fun _ => first, rest⟩
  · exact ⟨nofun, paced⟩

/-- A control cycle at the end of any run whose last packet is more than 202 ms old. -/
theorem Watched.run_trips {s : State F32} {since now ticks : Nat} {last : Option Nat} {events : List Event}
    (watched : Watched s since last now)
    (ordered : (now :: (events.map Event.ticks ++ [ticks])).IsChain (· ≤ ·))
    (paced : (since :: controlTicks (events ++ [⟨ticks, .control⟩])).IsChain fun cycle next =>
      next + 1000 * ticksPerMs < cycle + wrapTicks)
    (quiet : ∀ packet, last = some packet ∨ packet ∈ acceptedTicks s events →
      packet + 202 * ticksPerMs < ticks) :
    Tripped (timedNode.next (timedNode.run s events) ⟨ticks, .control⟩) := by
  induction events generalizing s since last now with
  | nil => exact watched.control_trips ((paced_cons paced).1 rfl) fun packet same => quiet packet (.inl same)
  | cons event rest ih =>
    simp only [List.map_cons, List.cons_append, List.isChain_cons_cons] at ordered
    obtain ⟨first, later⟩ := paced_cons paced
    refine ih (watched.next ordered.1 first) ordered.2 later fun packet which => ?_
    refine quiet packet ?_
    rcases which with same | member
    · split at same
      · rename_i taken
        cases same
        exact .inr (by simp [acceptedTicks_cons, taken])
      · exact .inl same
    · exact .inr (by simp [acceptedTicks_cons, member])

/-- The first control cycle, when no packet has come yet. -/
theorem watched_init (bootMs : UInt32) (ticks : Nat) :
    Watched (timedNode.next (init bootMs) ⟨ticks, .control⟩) ticks none ticks :=
  ⟨(keeps_runOnce (clock ticks) (init bootMs)).initialized, nofun, le_rfl, nofun⟩

theorem acceptedTicks_subset {s : State F32} {packet : Nat} {events : List Event}
    (member : packet ∈ acceptedTicks s events) : packet ∈ events.map Event.ticks := by
  have part : (acceptedTicks s events).Sublist (events.flatMap fun event => [event.ticks]) := by
    apply Machine.collect_sublist
    intro t event
    split
    · exact .refl _
    · exact List.nil_sublist _
  rw [List.map_eq_flatMap]
  exact part.mem member

/-- Without an accepted packet nothing undoes a trip. -/
theorem Tripped.run {s : State F32} (tripped : Tripped s) {events : List Event}
    (quiet : acceptedTicks s events = []) : Tripped (timedNode.run s events) := by
  induction events generalizing s with
  | nil => exact tripped
  | cons event rest ih =>
    simp only [acceptedTicks_cons, List.append_eq_nil_iff] at quiet
    rcases step_cases s event.call with ⟨_, _, keeps⟩ | ⟨packet, start, taken, _⟩
    · exact ih (tripped.keeps keeps) quiet.2
    · simp [taken] at quiet

/-- The fail-safe in true time: after every control cycle of a paced run before
which no packet was accepted for 202 ms the node is tripped, and it stays so
until another packet is accepted. The main loop begins with a control cycle. -/
theorem quiet_link_trips (bootTicks ticks : Nat) (events more : List Event)
    (ordered : (bootTicks :: (events.map Event.ticks ++ [ticks])).IsChain (· ≤ ·))
    (begins : ∀ event ∈ events.head?, event.request = .control)
    (paced : Paced (events ++ [⟨ticks, .control⟩]))
    (quiet : ∀ packet ∈ acceptedTicks (init (clock bootTicks)) events,
      ¬ (ticks ≤ packet + 202 * ticksPerMs ∧ packet ≤ ticks))
    (after : acceptedTicks (timedNode.run (init (clock bootTicks)) (events ++ [⟨ticks, .control⟩])) more = []) :
    Tripped (timedNode.run (init (clock bootTicks)) (events ++ [⟨ticks, .control⟩])) ∧
      Tripped (timedNode.run (init (clock bootTicks)) (events ++ ⟨ticks, .control⟩ :: more)) := by
  have old : ∀ packet ∈ acceptedTicks (init (clock bootTicks)) events, packet + 202 * ticksPerMs < ticks := by
    intro packet member
    have past := (List.pairwise_append.mp (List.isChain_iff_pairwise.mp ordered).of_cons).2.2 packet
      (acceptedTicks_subset member) ticks (by simp)
    have apart := quiet packet member
    omega
  have tripped : Tripped (timedNode.run (init (clock bootTicks)) (events ++ [⟨ticks, .control⟩])) := by
    rw [Machine.run_append]
    cases events with
    | nil => exact runOnce_trips fun alive => nomatch alive.1
    | cons event rest =>
      obtain ⟨first, request⟩ := event
      cases begins _ rfl
      rw [List.map_cons, List.cons_append, List.isChain_cons_cons] at ordered
      refine (watched_init (clock bootTicks) first).run_trips ordered.2 paced fun packet which => ?_
      rcases which with none | member
      · cases none
      · exact old packet (by rw [acceptedTicks_cons]; exact List.mem_append_right _ member)
  refine ⟨tripped, ?_⟩
  rw [List.append_cons, Machine.run_append]
  exact tripped.run after

/-- A packet that authorizes an angle of 0.25. -/
def quarterPacket : Memory := fun index =>
  [0x48, 0x50, 0x53, 0x43, 1, 1, 5, 32, 7, 0, 0, 0, 0, 0, 0, 0, 0, 0, 0, 0, 0x00, 0x00, 0x80, 0x3E,
    0x00, 0x00, 0x80, 0x3F, 0, 0, 0, 0, 0, 0, 0, 0, 0x31, 0x8F, 0xF4, 0x5F].getD index 0

theorem quiet_link_trips_after_packet :
    let events : List Event := [⟨0, .control⟩, ⟨100, .packet (some quarterPacket) 40⟩]
    acceptedTicks (init (clock 0)) events = [100] ∧
      Tripped (timedNode.run (init (clock 0)) (events ++ [⟨30000000, .control⟩])) ∧
      Tripped (timedNode.run (init (clock 0)) (events ++ [⟨30000000, .control⟩, ⟨31000000, .control⟩])) := by
  refine ⟨by decide +kernel, quiet_link_trips 0 30000000 _ [⟨31000000, .control⟩] ?_ ?_ ?_ ?_ ?_⟩
  · decide
  · rintro event ⟨⟩
    rfl
  · exact .cons_cons (by decide) (.singleton _)
  · rw [show acceptedTicks (init (clock 0)) [⟨0, .control⟩, ⟨100, .packet (some quarterPacket) 40⟩] = [100] by
      decide +kernel]
    simp [ticksPerMs]
  · rfl

end SelfDriving.Front
