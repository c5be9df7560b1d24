import SelfDriving.Front.SteeringProofs

/-! Packets on their way into the node, as seen by the sequence number it holds. A
packet that the node has no other reason to refuse is taken exactly when it is
newer, so the node keeps the newest number of what is delivered to it, and
further copies, control cycles and servo holds in between do not matter. -/
namespace SelfDriving.Front
open SerialNumber

variable {α : Type}

/-- The sequence number that the node holds against what comes next. -/
def held (s : State α) : Option UInt32 := if s.initialized then some s.lastSequence else none

theorem lastSequence_of_held {s : State α} {number : UInt32} (holds : held s = some number) :
    s.lastSequence = number := by
  unfold held at holds
  split at holds
  · cases holds
    rfl
  · cases holds

theorem fresh_iff_taken (s : State α) (packet : Memory) : Fresh s packet ↔ Taken (held s) (sequenceOf packet) := by
  unfold Fresh Taken held
  cases s.initialized with
  | false => simp
  | true => simp [sequenceNewer]

theorem Uncounted.held_eq {s next : State α} (same : Uncounted s next) : held next = held s := by
  rw [same]
  rfl

variable [Floating α]

theorem Keeps.held_eq {s next : State α} (keeps : Keeps s next) : held next = held s := by
  rw [held, keeps.initialized, keeps.lastSequence]
  rfl

variable (α) in
/-- An intact packet with a command that the node obeys: center at once, or an angle it authorizes. -/
structure Obeyed (packet : Memory) : Prop where
  intact : Intact packet
  command : packet 6 &&& hpscFlagEmergencyCenter ≠ 0 ∨ Authorizes α packet

/-- The node takes a packet that it obeys exactly when it is fresh. -/
theorem accepts_iff_fresh {packet : Memory} (obeyed : Obeyed α packet) (s : State α) (nowMs : UInt32) :
    accepts s nowMs packet = true ↔ Fresh s packet := by
  constructor
  · intro accepted
    rcases acceptHpscPacket_cases (some packet) hpscPacketSize nowMs s with
      ⟨refused, _⟩ | ⟨_, located, _, _, _, fresh, _⟩
    · rw [accepts, refused] at accepted
      cases accepted
    · cases located
      exact fresh
  · intro fresh
    obtain ⟨intact, command⟩ := obeyed
    unfold accepts
    rcases acceptHpscPacket_of_fresh intact fresh nowMs with
      ⟨-, outcome⟩ | ⟨-, outcome⟩ | ⟨-, -, -, outcome⟩ | ⟨calm, unauthorized, -, -⟩
    · rw [outcome]
    · rw [outcome]
    · rw [outcome]
    · exact command.elim (fun emergency => absurd calm emergency) fun authorizes => absurd authorizes unauthorized

/-- The number held after a packet that the node obeys. -/
theorem held_acceptHpscPacket {packet : Memory} (obeyed : Obeyed α packet) (s : State α) (nowMs : UInt32) :
    held (acceptHpscPacket (some packet) hpscPacketSize nowMs s).2 = keepNewer id (held s) (sequenceOf packet) := by
  have verdict := accepts_iff_fresh obeyed s nowMs
  rw [accepts, fresh_iff_taken] at verdict
  rcases acceptHpscPacket_cases (some packet) hpscPacketSize nowMs s with
    ⟨refused, same⟩ | ⟨_, located, _, accepted, _, _, takes⟩
  · rw [refused] at verdict
    rw [same.held_eq, keepNewer_of_not_taken fun taken => absurd (verdict.mpr taken) Bool.false_ne_true]
  · cases located
    rw [keepNewer_of_taken (verdict.mp accepted), held, takes.initialized, takes.lastSequence]
    rfl

/-! ### Deliveries -/

/-- What the node does between the first copy of a packet and the next packet. -/
inductive Between where
  | again (nowMs : UInt32)
  | runOnce (nowMs : UInt32)
  | holdCurrentForMs (holdMs : UInt32)

def Between.call (packet : Memory) : Between → Call
  | again nowMs => .acceptHpscPacket (some packet) 40 nowMs
  | runOnce nowMs => .runOnce nowMs
  | holdCurrentForMs holdMs => .holdCurrentForMs holdMs

/-- A packet that arrives: its first copy, and what happens before the next packet. -/
structure Delivery where
  packet : Memory
  nowMs : UInt32
  between : List Between

def Delivery.first (delivery : Delivery) : Call := .acceptHpscPacket (some delivery.packet) 40 delivery.nowMs

def Delivery.calls (delivery : Delivery) : List Call :=
  delivery.first :: delivery.between.map (Between.call delivery.packet)

/-- The node after packets that arrive one after another. -/
def deliver (s : State α) (deliveries : List Delivery) : State α :=
  (node α).run s (deliveries.flatMap Delivery.calls)

/-- The first copy of every packet is accepted. -/
def FirstCopiesAccepted (s : State α) (deliveries : List Delivery) : Prop :=
  ∀ before delivery after, deliveries = before ++ delivery :: after →
    (node α).output (deliver s before) delivery.first = .verdict true

theorem deliver_cons (s : State α) (delivery : Delivery) (rest : List Delivery) :
    deliver s (delivery :: rest) = deliver (deliver s [delivery]) rest := by
  simp only [deliver, List.flatMap_cons, List.flatMap_nil, List.append_nil, Machine.run_append]

theorem firstCopiesAccepted_cons (s : State α) (delivery : Delivery) (rest : List Delivery) :
    FirstCopiesAccepted s (delivery :: rest) ↔
      (node α).output s delivery.first = .verdict true ∧ FirstCopiesAccepted (deliver s [delivery]) rest := by
  constructor
  · intro all
    refine ⟨all [] delivery rest rfl, fun before next after split => ?_⟩
    rw [← deliver_cons]
    exact all (delivery :: before) next after (by rw [split, List.cons_append])
  · rintro ⟨first, later⟩ before next after split
    cases before with
    | nil =>
      cases split
      exact first
    | cons head before =>
      cases split
      rw [deliver_cons]
      exact later before next after rfl

theorem held_again {packet : Memory} (obeyed : Obeyed α packet) {s : State α} {number : Option UInt32}
    (holds : held s = keepNewer id number (sequenceOf packet)) (between : List Between) :
    held ((node α).run s (between.map (Between.call packet))) = held s := by
  induction between generalizing s with
  | nil => rfl
  | cons event rest ih =>
    have same : held ((node α).next s (event.call packet)) = held s := by
      cases event with
      | again nowMs =>
        have kept := held_acceptHpscPacket obeyed s nowMs
        rwa [holds, keepNewer_again, ← holds] at kept
      | runOnce nowMs => exact (keeps_runOnce nowMs s).held_eq
      | holdCurrentForMs holdMs => rfl
    rw [List.map_cons, Machine.run_cons, ih (same.trans holds), same]

/-- The number held after one delivery. -/
theorem held_deliver_one {delivery : Delivery} (obeyed : Obeyed α delivery.packet) (s : State α) :
    held (deliver s [delivery]) = keepNewer id (held s) (sequenceOf delivery.packet) := by
  have first : held ((node α).next s delivery.first) = keepNewer id (held s) (sequenceOf delivery.packet) :=
    held_acceptHpscPacket obeyed s delivery.nowMs
  rw [deliver, List.flatMap_singleton, Delivery.calls, Machine.run_cons, held_again obeyed first, first]

/-- The node holds the newest number of what is delivered. -/
theorem held_deliver {deliveries : List Delivery} (obeyed : ∀ delivery ∈ deliveries, Obeyed α delivery.packet)
    (s : State α) :
    held (deliver s deliveries) =
      (deliveries.map fun delivery => sequenceOf delivery.packet).foldl (keepNewer id) (held s) := by
  induction deliveries generalizing s with
  | nil => rfl
  | cons delivery rest ih =>
    rw [deliver_cons, ih (fun other member => obeyed other (by simp [member])),
      held_deliver_one (obeyed delivery (by simp)), List.map_cons, List.foldl_cons]

/-- The first copies are all accepted when a receiver of bare numbers takes them all. -/
theorem firstCopiesAccepted_iff {deliveries : List Delivery}
    (obeyed : ∀ delivery ∈ deliveries, Obeyed α delivery.packet) (s : State α) :
    FirstCopiesAccepted s deliveries ↔
      AllTaken (held s) (deliveries.map fun delivery => sequenceOf delivery.packet) := by
  induction deliveries generalizing s with
  | nil => exact iff_of_true (fun before _ _ split => by simp at split) trivial
  | cons delivery rest ih =>
    have current := obeyed delivery (by simp)
    have verdict : (node α).output s delivery.first = .verdict true ↔ accepts s delivery.nowMs delivery.packet = true := by
      simp [Machine.output, node, Delivery.first, accepts, hpscPacketSize]
    rw [firstCopiesAccepted_cons, verdict, accepts_iff_fresh current, fresh_iff_taken, List.map_cons, AllTaken,
      ih (fun other member => obeyed other (by simp [member])), held_deliver_one current]

end SelfDriving.Front
