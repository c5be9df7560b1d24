import SelfDriving.Front.WatchdogProofs

/-! A healthy link in true time. While packets come in time the node follows the last
of them, except that the clock starts again from zero with the lower word of the timer:
a control cycle just after that sees a packet from just before it as very old, and trips. -/
namespace SelfDriving.Front
open Ieee754

/-- The packets accepted over a run with their true times, oldest first. -/
def acceptances (s : State F32) (events : List Event) : List (Nat × Memory) :=
  timedNode.collect (fun s event => (packetOf s event.call).toList.map fun packet => (event.ticks, packet)) s events

/-- The node follows a packet that authorizes its angle. -/
structure Follows (s : State F32) (packet : Memory) : Prop where
  linkValid : s.linkValid = true
  commandValid : s.commandValid = true
  targetAngleRad : s.targetAngleRad = readFloat32Le packet 20

/-- The node knows when it accepted the last packet, and follows it as long as a
control cycle would find it recent. -/
structure Tracked (s : State F32) (last : Option (Nat × Memory)) (now : Nat) : Prop where
  received : ∀ past packet, last = some (past, packet) →
    s.initialized = true ∧ s.lastPacketMs = clock past ∧ past ≤ now
  followed : ∀ past packet, last = some (past, packet) → Authorizes F32 packet →
    now ≤ past + 199 * ticksPerMs → past / wrapTicks = now / wrapTicks → Follows s packet

/-- A packet within the timer's period of a time is so at every time between. -/
theorem same_period {past now later : Nat} (first : past ≤ now) (second : now ≤ later)
    (same : past / wrapTicks = later / wrapTicks) : past / wrapTicks = now / wrapTicks := by
  have low := Nat.div_le_div_right (c := wrapTicks) first
  have high := Nat.div_le_div_right (c := wrapTicks) second
  omega

/-- A control cycle finds a recent packet recent while the clock has not started again. -/
theorem Tracked.alive_iff {s : State F32} {past now ticks : Nat} {packet : Memory}
    (tracked : Tracked s (some (past, packet)) now) (later : now ≤ ticks) (recent : ticks ≤ past + 199 * ticksPerMs) :
    Alive (clock ticks) s ↔ past / wrapTicks = ticks / wrapTicks := by
  obtain ⟨initialized, lastPacketMs, before⟩ := tracked.received past packet rfl
  rw [Alive, lastPacketMs, age_le_watchdog_iff (before.trans later) recent]
  exact and_iff_right initialized

/-- A call without an accepted packet. -/
theorem Tracked.keeps {s : State F32} {last : Option (Nat × Memory)} {now : Nat} {event : Event}
    (tracked : Tracked s last now) (later : now ≤ event.ticks)
    (quiet : Uncounted s (timedNode.next s event) ∨ ∃ nowMs, event.call = .runOnce nowMs) :
    Tracked (timedNode.next s event) last event.ticks := by
  have keeps : Keeps s (timedNode.next s event) := by
    rcases quiet with same | ⟨nowMs, control⟩
    · exact same.keeps
    · change Keeps s ((node F32).next s event.call)
      rw [control]
      exact keeps_runOnce nowMs s
  constructor
  · intro past packet some
    obtain ⟨initialized, lastPacketMs, before⟩ := tracked.received past packet some
    exact ⟨keeps.initialized.trans initialized, keeps.lastPacketMs.trans lastPacketMs, before.trans later⟩
  · intro past packet some authorizes recent same
    obtain ⟨-, -, before⟩ := tracked.received past packet some
    have follows := tracked.followed past packet some authorizes (later.trans recent) (same_period before later same)
    rcases quiet with uncounted | ⟨nowMs, control⟩
    · rw [uncounted]
      exact ⟨follows.linkValid, follows.commandValid, follows.targetAngleRad⟩
    · obtain ⟨ticks, request⟩ := event
      cases request with
      | control =>
        cases some
        have alive := (tracked.alive_iff later recent).mpr same
        change Follows (runOnce (clock ticks) s).1 packet
        simp only [runOnce, slew]
        rcases watchdog_cases (clock ticks) s with ⟨-, live⟩ | ⟨dead, -⟩
        · rw [live]
          exact ⟨follows.linkValid, follows.commandValid, follows.targetAngleRad⟩
        · exact absurd alive dead
      | packet payload length => cases control
      | frame frame length => cases control
      | hold holdMs => cases control

/-- A call that accepts a packet. -/
theorem tracked_takes {packet : Memory} {start next : State F32} {ticks : Nat}
    (takes : Takes packet (clock ticks) start next) : Tracked next (some (ticks, packet)) ticks := by
  constructor
  · rintro past other ⟨⟩
    exact ⟨takes.initialized, takes.lastPacketMs, le_rfl⟩
  · rintro past other ⟨⟩ authorizes - -
    rcases takes with ⟨-, rfl⟩ | ⟨unauthorized, -⟩
    · exact ⟨rfl, rfl, clampFloat_of_absFloat_le authorizes.angleBound⟩
    · exact absurd authorizes unauthorized

/-- One event keeps the track. -/
theorem Tracked.next {s : State F32} {last : Option (Nat × Memory)} {now : Nat} {event : Event}
    (tracked : Tracked s last now) (later : now ≤ event.ticks) :
    Tracked (timedNode.next s event)
      (((packetOf s event.call).toList.map fun packet => (event.ticks, packet)).getLast?.or last) event.ticks := by
  rcases call_cases s event.call with ⟨none, -, quiet⟩ | ⟨packet, start, taken, -, -, -, -, takes⟩
  · rw [none]
    exact tracked.keeps later quiet
  · rw [taken]
    obtain ⟨ticks, request⟩ := event
    cases request with
    | packet payload length => exact tracked_takes takes
    | frame frame length => exact tracked_takes takes
    | control => cases taken
    | hold holdMs => cases taken

theorem Tracked.run {s : State F32} {last : Option (Nat × Memory)} {now ticks : Nat} {events : List Event}
    (tracked : Tracked s last now) (ordered : (now :: (events.map Event.ticks ++ [ticks])).IsChain (· ≤ ·)) :
    ∃ later ≤ ticks, Tracked (timedNode.run s events) ((acceptances s events).getLast?.or last) later := by
  induction events generalizing s last now with
  | nil =>
    rw [List.map_nil, List.nil_append, List.isChain_cons_cons] at ordered
    exact ⟨now, ordered.1, tracked⟩
  | cons event rest ih =>
    rw [List.map_cons, List.cons_append, List.isChain_cons_cons] at ordered
    obtain ⟨later, before, rest_tracked⟩ := ih (tracked.next ordered.1) ordered.2
    refine ⟨later, before, ?_⟩
    rw [acceptances, Machine.collect, List.getLast?_append, Option.or_assoc]
    exact rest_tracked

/-- A control cycle not more than 199 ms after the last accepted packet, one that
authorizes its angle, follows it exactly when the timer's lower word has not started
again in between. -/
theorem recent_link_held_iff (bootTicks ticks past : Nat) (events : List Event) (packet : Memory)
    (ordered : (bootTicks :: (events.map Event.ticks ++ [ticks])).IsChain (· ≤ ·))
    (last : (acceptances (init (clock bootTicks)) events).getLast? = some (past, packet))
    (steering : Authorizes F32 packet) (recent : ticks ≤ past + 199 * ticksPerMs) :
    let after := timedNode.next (timedNode.run (init (clock bootTicks)) events) ⟨ticks, .control⟩
    (after.linkValid = true ∧ after.commandValid = true ∧ after.targetAngleRad = readFloat32Le packet 20) ↔
      past / wrapTicks = ticks / wrapTicks := by
  intro after
  have start : Tracked (init (clock bootTicks)) none bootTicks := ⟨nofun, nofun⟩
  obtain ⟨now, later, tracked⟩ := start.run ordered
  rw [last, Option.some_or] at tracked
  constructor
  · rintro ⟨linkValid, -⟩
    rw [← tracked.alive_iff later recent]
    by_contra dead
    have tripped : after.linkValid = false := (runOnce_trips dead).linkValid
    rw [linkValid] at tripped
    cases tripped
  · intro same
    have control : Tracked after (some (past, packet)) ticks := tracked.keeps later (.inr ⟨clock ticks, rfl⟩)
    have follows := control.followed past packet rfl steering recent same
    exact ⟨follows.linkValid, follows.commandValid, follows.targetAngleRad⟩

theorem authorizes_quarterPacket : Authorizes F32 quarterPacket := by
  constructor <;> decide +kernel

/-- A run of one packet that the node accepts. -/
theorem acceptances_packet {s : State F32} {ticks : Nat} {packet : Memory}
    (accepted : accepts s (clock ticks) packet = true) :
    acceptances s [⟨ticks, .packet (some packet) 40⟩] = [(ticks, packet)] := by
  have taken : packetOf s (Event.call ⟨ticks, .packet (some packet) 40⟩) = some packet := by
    simp [Event.call, packetOf, accepted, hpscPacketSize]
  rw [acceptances, Machine.collect, Machine.collect, taken]
  rfl

theorem recent_link_held_in_period :
    let after := timedNode.next (timedNode.run (init (clock 0)) [⟨100, .packet (some quarterPacket) 40⟩])
      ⟨19000000, .control⟩
    after.linkValid = true ∧ after.commandValid = true ∧ after.targetAngleRad = readFloat32Le quarterPacket 20 := by
  have accepted : accepts (init (clock 0) : State F32) (clock 100) quarterPacket = true := by decide +kernel
  have last : (acceptances (init (clock 0)) [⟨100, .packet (some quarterPacket) 40⟩]).getLast? =
      some (100, quarterPacket) := by rw [acceptances_packet accepted, List.getLast?_singleton]
  exact (recent_link_held_iff 0 19000000 100 _ quarterPacket (by decide) last authorizes_quarterPacket
    (by decide)).mpr rfl

/-- A packet from just before the clock starts again, and a control cycle 20 microseconds later. -/
theorem restarted_clock_trips :
    let events : List Event := [⟨2 ^ 32 - 1000, .packet (some quarterPacket) 40⟩]
    acceptances (init (clock 0)) events = [(2 ^ 32 - 1000, quarterPacket)] ∧ Authorizes F32 quarterPacket ∧
      (timedNode.next (timedNode.run (init (clock 0)) events) ⟨2 ^ 32 + 1000, .control⟩).linkValid = false := by
  have accepted : accepts (init (clock 0) : State F32) (clock (2 ^ 32 - 1000)) quarterPacket = true := by
    decide +kernel
  exact ⟨acceptances_packet accepted, authorizes_quarterPacket, by decide +kernel⟩

end SelfDriving.Front
