import SelfDriving.Front.SteeringNode

/-! What moves the steering target: an accepted packet, intact, newer than the
one before and authorizing its angle, or nothing at all. Every other call leaves
the sequence and the receive time alone and at most returns the target to zero. -/
namespace SelfDriving.Front
open Ieee754

/-- The integrity checks of a packet. -/
structure Intact (packet : Memory) : Prop where
  magic : hasMagic packet = true
  version : packet 4 = hpscVersion
  headerSize : packet 7 = hpscHeaderSize
  reserved16 : readU16Le packet 30 = 0
  reserved32 : readU32Le packet 32 = 0
  crc : readU32Le packet 36 = crc32Ieee packet 36

/-- A packet that authorizes the angle it carries. -/
structure Authorizes (α : Type) [Floating α] (packet : Memory) : Prop where
  controlMode : packet 5 = hpscControlSteeringAngle
  steeringValid : packet 6 &&& hpscFlagSteeringValid ≠ 0
  upstreamValid : packet 6 &&& hpscFlagUpstreamValid ≠ 0
  emergencyClear : packet 6 &&& hpscFlagEmergencyCenter = 0
  angleFinite : isFiniteFloat (readFloat32Le packet 20 : α) = true
  rateFinite : isFiniteFloat (readFloat32Le packet 24 : α) = true
  angleBound : absFloat (readFloat32Le packet 20 : α) ≤ steeringMaxAbsRad
  ratePositive : (readFloat32Le packet 24 : α) > 0.0

section
variable {α : Type}

/-- Only the count of rejected packets differs. -/
def Uncounted (s next : State α) : Prop := next = { s with rejectedPackets := next.rejectedPackets }

theorem uncounted_refl (s : State α) : Uncounted s s := rfl

theorem uncounted_rejectPacket (s : State α) : Uncounted s (rejectPacket s) := rfl

theorem Uncounted.trans {s t u : State α} (first : Uncounted s t) (second : Uncounted t u) : Uncounted s u := by
  unfold Uncounted at *
  rw [first] at second
  exact second

def sequenceOf (packet : Memory) : UInt32 := readU32Le packet 8

/-- The node would not take the packet for a duplicate or an old one. -/
def Fresh (s : State α) (packet : Memory) : Prop :=
  s.initialized = true → sequenceNewer (sequenceOf packet) s.lastSequence = true

theorem Uncounted.fresh {s t : State α} (same : Uncounted s t) {packet : Memory} (fresh : Fresh t packet) :
    Fresh s packet := by
  rw [same] at fresh
  exact fresh

theorem Fresh.not_old {s : State α} {packet : Memory} (fresh : Fresh s packet) :
    (s.initialized && !sequenceNewer (readU32Le packet 8) s.lastSequence) = false := by
  cases ready : s.initialized with
  | false => rfl
  | true => simpa [sequenceOf] using fresh ready

variable [Floating α]

/-- What the state becomes by an accepted packet. -/
def Takes (packet : Memory) (nowMs : UInt32) (s next : State α) : Prop :=
  (Authorizes α packet ∧
    next = acceptTarget (sequenceOf packet) (readFloat32Le packet 20) (readFloat32Le packet 24) true false nowMs s) ∨
  (¬ Authorizes α packet ∧ ∃ emergencyCenter, next =
    acceptTarget (sequenceOf packet) 0.0 steeringDefaultMaxRateRadS false emergencyCenter nowMs s)

theorem Takes.initialized {packet : Memory} {nowMs : UInt32} {s next : State α}
    (takes : Takes packet nowMs s next) : next.initialized = true := by
  rcases takes with ⟨-, rfl⟩ | ⟨-, emergency, rfl⟩ <;> rfl

theorem Takes.lastSequence {packet : Memory} {nowMs : UInt32} {s next : State α}
    (takes : Takes packet nowMs s next) : next.lastSequence = sequenceOf packet := by
  rcases takes with ⟨-, rfl⟩ | ⟨-, emergency, rfl⟩ <;> rfl

theorem Takes.lastPacketMs {packet : Memory} {nowMs : UInt32} {s next : State α}
    (takes : Takes packet nowMs s next) : next.lastPacketMs = nowMs := by
  rcases takes with ⟨-, rfl⟩ | ⟨-, emergency, rfl⟩ <;> rfl

/-- An intact, fresh packet is decided by its command. -/
theorem acceptHpscPacket_of_fresh {packet : Memory} {s : State α} (intact : Intact packet) (fresh : Fresh s packet)
    (nowMs : UInt32) :
    (packet 6 &&& hpscFlagEmergencyCenter ≠ 0 ∧ acceptHpscPacket (some packet) hpscPacketSize nowMs s =
      (true, acceptTarget (sequenceOf packet) 0.0 steeringDefaultMaxRateRadS false true nowMs s)) ∨
    (Authorizes α packet ∧ acceptHpscPacket (some packet) hpscPacketSize nowMs s =
      (true, acceptTarget (sequenceOf packet) (readFloat32Le packet 20) (readFloat32Le packet 24) true false nowMs s)) ∨
    (packet 6 &&& hpscFlagEmergencyCenter = 0 ∧ ¬ Authorizes α packet ∧ packet 5 = hpscControlDisabled ∧
      acceptHpscPacket (some packet) hpscPacketSize nowMs s =
        (true, acceptTarget (sequenceOf packet) 0.0 steeringDefaultMaxRateRadS false false nowMs s)) ∨
    (packet 6 &&& hpscFlagEmergencyCenter = 0 ∧ ¬ Authorizes α packet ∧ packet 5 ≠ hpscControlDisabled ∧
      acceptHpscPacket (some packet) hpscPacketSize nowMs s = (false, rejectPacket s)) := by
  obtain ⟨magic, version, headerSize, reserved16, reserved32, crc⟩ := intact
  simp only [acceptHpscPacket, magic, version, headerSize, reserved16, reserved32, crc, fresh.not_old, ne_eq,
    not_true_eq_false, if_false, Bool.not_true, Bool.false_eq_true, decide_false, Bool.or_self]
  by_cases emergency : packet 6 &&& hpscFlagEmergencyCenter = 0
  swap
  · refine .inl ⟨emergency, ?_⟩
    simp only [emergency, not_false_eq_true, decide_true, if_true]
    rfl
  simp only [emergency, not_true_eq_false, decide_false, Bool.false_eq_true, if_false, false_and, false_or]
  by_cases authorized : Authorizes α packet
  · refine .inl ⟨authorized, ?_⟩
    simp only [authorized.steeringValid, authorized.upstreamValid, authorized.controlMode, authorized.angleFinite,
      authorized.rateFinite, authorized.angleBound, authorized.ratePositive, not_false_eq_true, decide_true,
      Bool.and_true, Bool.not_true, Bool.false_eq_true, if_false]
    rfl
  refine .inr ?_
  split
  · split
    · rename_i disabled
      exact .inl ⟨trivial, authorized, disabled, rfl⟩
    · rename_i enabled
      exact .inr ⟨trivial, authorized, enabled, rfl⟩
  · rename_i valid
    simp only [Bool.not_eq_true', Bool.not_eq_false, Bool.and_eq_true, decide_eq_true_eq] at valid
    obtain ⟨⟨⟨⟨⟨⟨steering, upstream⟩, mode⟩, angle⟩, rate⟩, bound⟩, positive⟩ := valid
    exact absurd ⟨mode, steering, upstream, emergency, angle, rate, bound, positive⟩ authorized

/-- A packet that is broken or not fresh is refused. -/
theorem acceptHpscPacket_of_broken {packet : Memory} {s : State α} (broken : ¬ (Intact packet ∧ Fresh s packet))
    (nowMs : UInt32) :
    (acceptHpscPacket (some packet) hpscPacketSize nowMs s).1 = false ∧
      Uncounted s (acceptHpscPacket (some packet) hpscPacketSize nowMs s).2 := by
  simp only [acceptHpscPacket, ne_eq, not_true_eq_false, if_false]
  by_cases magic : hasMagic packet = true
  swap
  · simp [magic, uncounted_rejectPacket]
  by_cases integrity : packet 4 ≠ hpscVersion ∨ packet 7 ≠ hpscHeaderSize ∨ readU16Le packet 30 ≠ 0 ∨
      readU32Le packet 32 ≠ 0 ∨ readU32Le packet 36 ≠ crc32Ieee packet 36
  · simp only [ne_eq] at integrity
    simp only [magic, or_assoc, integrity, if_true, if_false, Bool.not_true, Bool.false_eq_true, Bool.or_eq_true,
      decide_eq_true_eq]
    exact ⟨trivial, uncounted_rejectPacket s⟩
  have intact : Intact packet := by
    simp only [not_or, not_not] at integrity
    exact ⟨magic, integrity.1, integrity.2.1, integrity.2.2.1, integrity.2.2.2.1, integrity.2.2.2.2⟩
  have old : (s.initialized && !sequenceNewer (readU32Le packet 8) s.lastSequence) = true := by
    by_contra young
    refine broken ⟨intact, fun ready => ?_⟩
    simpa [ready, sequenceOf] using young
  simp only [ne_eq] at integrity
  simp only [magic, or_assoc, integrity, old, if_true, if_false, Bool.not_true, Bool.false_eq_true, Bool.or_eq_true,
    decide_eq_true_eq]
  exact ⟨trivial, uncounted_refl s⟩

/-- Every outcome of the packet check. -/
theorem acceptHpscPacket_cases (payload : Option Memory) (length : Nat) (nowMs : UInt32) (s : State α) :
    ((acceptHpscPacket payload length nowMs s).1 = false ∧
      Uncounted s (acceptHpscPacket payload length nowMs s).2) ∨
    ∃ packet, payload = some packet ∧ length = hpscPacketSize ∧
      (acceptHpscPacket payload length nowMs s).1 = true ∧ Intact packet ∧ Fresh s packet ∧
      Takes packet nowMs s (acceptHpscPacket payload length nowMs s).2 := by
  cases payload with
  | none => exact .inl ⟨rfl, uncounted_rejectPacket s⟩
  | some packet =>
    by_cases size : length = hpscPacketSize
    swap
    · exact .inl (by simp [acceptHpscPacket, size, uncounted_rejectPacket])
    rw [size]
    by_cases checked : Intact packet ∧ Fresh s packet
    swap
    · exact .inl (acceptHpscPacket_of_broken checked nowMs)
    obtain ⟨intact, fresh⟩ := checked
    rcases acceptHpscPacket_of_fresh intact fresh nowMs with
      ⟨emergency, outcome⟩ | ⟨authorized, outcome⟩ | ⟨-, unauthorized, -, outcome⟩ | ⟨-, -, -, outcome⟩
    · rw [outcome]
      have unauthorized : ¬ Authorizes α packet := fun authorizes => emergency authorizes.emergencyClear
      exact .inr ⟨packet, rfl, rfl, rfl, intact, fresh, .inr ⟨unauthorized, true, rfl⟩⟩
    · rw [outcome]
      exact .inr ⟨packet, rfl, rfl, rfl, intact, fresh, .inl ⟨authorized, rfl⟩⟩
    · rw [outcome]
      exact .inr ⟨packet, rfl, rfl, rfl, intact, fresh, .inr ⟨unauthorized, false, rfl⟩⟩
    · rw [outcome]
      exact .inl ⟨rfl, uncounted_rejectPacket s⟩

/-! ### Accepted packets -/

/-- A packet that a call makes the node accept in a state. -/
def accepts (s : State α) (nowMs : UInt32) (packet : Memory) : Bool :=
  (acceptHpscPacket (some packet) hpscPacketSize nowMs s).1

/-- A header that leads to a packet for the node. -/
def udpOffset (frame : Memory) (udp : Nat) : List Nat :=
  if readU16Be (frame.drop udp) 2 = steeringUdpPort &&
      (readU16Be (frame.drop udp) 4).toNat ≥ 8 + hpscPacketSize then [udp + 8] else []

/-- Where the node looks for packets in a frame, in order. -/
def packetOffsets (frame : Memory) (length : Nat) : List Nat :=
  if length < hpscPacketSize then [] else
    (if length ≥ 14 + 20 + 8 + hpscPacketSize then
      (if readU16Be frame 12 = 0x0800 && (frame.drop 14) 0 >>> 4 = 4 && ihlBytes (frame.drop 14) ≥ 20 &&
          (frame.drop 14) 9 = 17 &&
          (readU16Be (frame.drop 14) 2).toNat ≥ ihlBytes (frame.drop 14) + 8 + hpscPacketSize &&
          14 + (readU16Be (frame.drop 14) 2).toNat ≤ length then
        udpOffset frame (14 + ihlBytes (frame.drop 14)) else []) ++
      (if length ≥ 20 + 8 + hpscPacketSize && frame 0 >>> 4 = 4 && frame 9 = 17 && ihlBytes frame ≥ 20 then
        udpOffset frame (ihlBytes frame) else [])
    else []) ++
    (List.range (length - hpscPacketSize + 1)).filter fun offset => hasMagic (frame.drop offset)

/-- The packets at a list of offsets, until one is accepted. -/
def tryOffsets (frame : Memory) (nowMs : UInt32) : List Nat → State α → Bool × State α
  | [], s => (false, s)
  | offset :: rest, s =>
    orElse (acceptHpscPacket (some (frame.drop offset)) hpscPacketSize nowMs) (tryOffsets frame nowMs rest) s

theorem tryOffsets_append (frame : Memory) (nowMs : UInt32) (first second : List Nat) (s : State α) :
    tryOffsets frame nowMs (first ++ second) s =
      orElse (tryOffsets frame nowMs first) (tryOffsets frame nowMs second) s := by
  induction first generalizing s with
  | nil => rfl
  | cons offset first ih =>
    simp only [List.cons_append, tryOffsets, orElse]
    rcases acceptHpscPacket (some (frame.drop offset)) hpscPacketSize nowMs s with ⟨_ | _, t⟩
    · simp only [ih, orElse]
    · rfl

theorem acceptUdpPayload_eq (frame : Memory) (udp : Nat) (nowMs : UInt32) (s : State α) :
    acceptUdpPayload (frame.drop udp) nowMs s = tryOffsets frame nowMs (udpOffset frame udp) s := by
  unfold acceptUdpPayload udpOffset
  split
  · simp only [tryOffsets, orElse, Memory.drop_drop]
    rcases acceptHpscPacket (some (frame.drop (udp + 8))) hpscPacketSize nowMs s with ⟨_ | _, t⟩ <;> rfl
  · rfl

theorem scanFrame_eq (frame : Memory) (nowMs : UInt32) (offsets : List Nat) (s : State α) :
    scanFrame frame nowMs offsets s =
      tryOffsets frame nowMs (offsets.filter fun offset => hasMagic (frame.drop offset)) s := by
  induction offsets generalizing s with
  | nil => rfl
  | cons offset rest ih =>
    by_cases magic : hasMagic (frame.drop offset) = true
    · simp only [scanFrame, magic, if_true, List.filter_cons_of_pos, tryOffsets, orElse]
      rcases acceptHpscPacket (some (frame.drop offset)) hpscPacketSize nowMs s with ⟨_ | _, t⟩
      · simp only [ih]
      · rfl
    · simp only [scanFrame, magic, Bool.false_eq_true, if_false, not_false_eq_true, List.filter_cons_of_neg, ih]

/-- The three extraction paths together try the packets at `packetOffsets`. -/
theorem acceptEthernetFrame_eq (frame : Memory) (length : UInt16) (nowMs : UInt32) (s : State α) :
    acceptEthernetFrame (some frame) length nowMs s =
      tryOffsets frame nowMs (packetOffsets frame length.toNat) s := by
  simp only [acceptEthernetFrame, packetOffsets]
  split
  · rfl
  · rw [tryOffsets_append]
    congr 1
    · split
      · funext t
        rw [tryOffsets_append]
        congr 1
        · funext u
          simp only [acceptEthernetIpv4, Memory.drop_drop]
          split
          · exact acceptUdpPayload_eq ..
          · rfl
        · funext u
          simp only [acceptBareIpv4]
          split
          · exact acceptUdpPayload_eq ..
          · rfl
      · rfl
    · funext t
      exact scanFrame_eq ..

/-- The packet a call makes the node accept. -/
def packetOf (s : State α) : Call → Option Memory
  | .acceptHpscPacket (some packet) length nowMs =>
    if length.toNat = hpscPacketSize && accepts s nowMs packet then some packet else none
  | .acceptEthernetFrame (some frame) length nowMs =>
    ((packetOffsets frame length.toNat).map frame.drop).find? (accepts s nowMs)
  | _ => none

/-- The verdict does not depend on the count of rejected packets. -/
theorem accepts_uncounted {s t : State α} (same : Uncounted s t) (nowMs : UInt32) (packet : Memory) :
    accepts t nowMs packet = accepts s nowMs packet := by
  rw [same]
  simp only [accepts, acceptHpscPacket, apply_ite Prod.fst]

theorem tryOffsets_cons_of_refused {frame : Memory} {nowMs : UInt32} {offset : Nat} (rest : List Nat) {s : State α}
    (refused : accepts s nowMs (frame.drop offset) = false) :
    tryOffsets frame nowMs (offset :: rest) s = tryOffsets frame nowMs rest
      (acceptHpscPacket (some (frame.drop offset)) hpscPacketSize nowMs s).2 := by
  rw [accepts] at refused
  simp only [tryOffsets, orElse]
  split
  · rename_i t same_verdict
    rw [same_verdict] at refused
    cases refused
  · rename_i t same_verdict
    rw [same_verdict]

theorem tryOffsets_cons_of_accepted {frame : Memory} {nowMs : UInt32} {offset : Nat} (rest : List Nat) {s : State α}
    (accepted : accepts s nowMs (frame.drop offset) = true) :
    tryOffsets frame nowMs (offset :: rest) s =
      acceptHpscPacket (some (frame.drop offset)) hpscPacketSize nowMs s := by
  rw [accepts] at accepted
  simp only [tryOffsets, orElse]
  split
  · rename_i t same_verdict
    rw [same_verdict]
  · rename_i t same_verdict
    rw [same_verdict] at accepted
    cases accepted

/-- What trying packets one after another comes to: the first acceptable one is
taken, the others change nothing but the count. -/
theorem tryOffsets_cases (frame : Memory) (nowMs : UInt32) (offsets : List Nat) (s : State α) :
    ((tryOffsets frame nowMs offsets s).1 = false ∧ Uncounted s (tryOffsets frame nowMs offsets s).2 ∧
      (offsets.map frame.drop).find? (accepts s nowMs) = none) ∨
    ∃ packet, (offsets.map frame.drop).find? (accepts s nowMs) = some packet ∧
      (tryOffsets frame nowMs offsets s).1 = true ∧ Intact packet ∧ Fresh s packet ∧
      ∃ start, Uncounted s start ∧ Takes packet nowMs start (tryOffsets frame nowMs offsets s).2 := by
  induction offsets generalizing s with
  | nil => exact .inl ⟨rfl, uncounted_refl s, rfl⟩
  | cons offset rest ih =>
    rcases acceptHpscPacket_cases (some (frame.drop offset)) hpscPacketSize nowMs s with
      ⟨refused, same⟩ | ⟨packet, located, _, accepted, intact, fresh, takes⟩
    · have first : accepts s nowMs (frame.drop offset) = false := refused
      have rest_same : (rest.map frame.drop).find? (accepts
          (acceptHpscPacket (some (frame.drop offset)) hpscPacketSize nowMs s).2 nowMs) =
          (rest.map frame.drop).find? (accepts s nowMs) := by
        congr 1
        funext packet
        exact accepts_uncounted same nowMs packet
      rw [tryOffsets_cons_of_refused rest first, List.map_cons, List.find?_cons_of_neg (by simp [first]), ← rest_same]
      rcases ih (acceptHpscPacket (some (frame.drop offset)) hpscPacketSize nowMs s).2 with
        ⟨refused', same', none⟩ | ⟨packet, found, accepted, intact, fresh, start, before, takes⟩
      · exact .inl ⟨refused', same.trans same', none⟩
      · exact .inr ⟨packet, found, accepted, intact, same.fresh fresh, start, same.trans before, takes⟩
    · cases located
      rw [tryOffsets_cons_of_accepted rest accepted]
      exact .inr ⟨frame.drop offset, List.find?_cons_of_pos accepted, accepted, intact, fresh, s,
        uncounted_refl s, takes⟩

/-! ### Calls -/

/-- What a call without an accepted packet may do to the steering. -/
structure Keeps (s next : State α) : Prop where
  initialized : next.initialized = s.initialized
  lastSequence : next.lastSequence = s.lastSequence
  lastPacketMs : next.lastPacketMs = s.lastPacketMs
  steering : (next.linkValid = false ∧ next.commandValid = false ∧ next.emergencyCenter = true ∧
      next.targetAngleRad = 0.0) ∨
    (next.linkValid = s.linkValid ∧ next.commandValid = s.commandValid ∧
      next.emergencyCenter = s.emergencyCenter ∧ next.targetAngleRad = s.targetAngleRad)

theorem Uncounted.keeps {s next : State α} (same : Uncounted s next) : Keeps s next := by
  rw [same]
  exact ⟨rfl, rfl, rfl, .inr ⟨rfl, rfl, rfl, rfl⟩⟩

/-- The last packet is not too old for the watchdog. -/
def Alive (nowMs : UInt32) (s : State α) : Prop :=
  s.initialized = true ∧ nowMs - s.lastPacketMs ≤ steeringWatchdogMs

omit [Floating α] in
theorem alive_or_trips (nowMs : UInt32) (s : State α) :
    (Alive nowMs s ∧ (!s.initialized || decide (nowMs - s.lastPacketMs > steeringWatchdogMs)) = false) ∨
    (¬ Alive nowMs s ∧ (!s.initialized || decide (nowMs - s.lastPacketMs > steeringWatchdogMs)) = true) := by
  unfold Alive
  cases s.initialized with
  | false => exact .inr ⟨nofun, rfl⟩
  | true =>
    by_cases young : nowMs - s.lastPacketMs ≤ steeringWatchdogMs
    · exact .inl ⟨⟨rfl, young⟩, by simpa using young⟩
    · exact .inr ⟨fun alive => young alive.2, by simpa using young⟩

/-- The watchdog does nothing to a live link and trips any other. -/
theorem watchdog_cases (nowMs : UInt32) (s : State α) :
    (Alive nowMs s ∧ watchdog nowMs s = s) ∨
    (¬ Alive nowMs s ∧ watchdog nowMs s =
      { s with linkValid := false, commandValid := false, emergencyCenter := true, targetAngleRad := (0.0 : α) }) := by
  unfold watchdog
  rcases alive_or_trips nowMs s with ⟨alive, passes⟩ | ⟨dead, trips⟩
  · exact .inl ⟨alive, if_neg (by simp [passes])⟩
  · exact .inr ⟨dead, if_pos trips⟩

theorem keeps_runOnce (nowMs : UInt32) (s : State α) : Keeps s (runOnce nowMs s).1 := by
  simp only [runOnce, slew]
  rcases watchdog_cases nowMs s with ⟨-, same⟩ | ⟨-, trips⟩
  · rw [same]
    exact ⟨rfl, rfl, rfl, .inr ⟨rfl, rfl, rfl, rfl⟩⟩
  · rw [trips]
    exact ⟨rfl, rfl, rfl, .inl ⟨rfl, rfl, rfl, rfl⟩⟩

/-- The clock reading a call is given. -/
def Call.nowMs : Call → UInt32
  | .acceptHpscPacket _ _ nowMs => nowMs
  | .acceptEthernetFrame _ _ nowMs => nowMs
  | .runOnce nowMs => nowMs
  | .holdCurrentForMs _ => 0

/-- Every call takes one packet, intact and fresh, or changes the count of rejected
packets at most, or it is a control cycle. -/
theorem call_cases (s : State α) (call : Call) :
    (packetOf s call = none ∧ (node α).output s call ≠ .verdict true ∧
      (Uncounted s ((node α).next s call) ∨ ∃ nowMs, call = .runOnce nowMs)) ∨
    ∃ packet start, packetOf s call = some packet ∧ (node α).output s call = .verdict true ∧
      Intact packet ∧ Fresh s packet ∧ Uncounted s start ∧
      Takes packet call.nowMs start ((node α).next s call) := by
  cases call with
  | acceptHpscPacket payload length nowMs =>
    rcases acceptHpscPacket_cases payload length.toNat nowMs s with
      ⟨refused, same⟩ | ⟨packet, rfl, size, accepted, intact, fresh, takes⟩
    · refine .inl ⟨?_, ?_, .inl same⟩
      · cases payload with
        | none => rfl
        | some packet =>
          refine if_neg fun taken => ?_
          simp only [accepts, Bool.and_eq_true, decide_eq_true_eq] at taken
          rw [taken.1, taken.2] at refused
          cases refused
      · simp [Machine.output, node, refused]
    · refine .inr ⟨packet, s, ?_, ?_, intact, fresh, uncounted_refl s, takes⟩
      · rw [size] at accepted
        simp [packetOf, accepts, size, accepted]
      · simp [Machine.output, node, accepted]
  | acceptEthernetFrame frame length nowMs =>
    cases frame with
    | none => exact .inl ⟨rfl, by simp [Machine.output, node, acceptEthernetFrame], .inl (uncounted_refl s)⟩
    | some frame =>
      have outcome := tryOffsets_cases frame nowMs (packetOffsets frame length.toNat) s
      simp only [Machine.output, Machine.next, node, acceptEthernetFrame_eq, packetOf, Call.nowMs]
      rcases outcome with ⟨refused, same, none⟩ | ⟨packet, found, accepted, intact, fresh, start, before, takes⟩
      · exact .inl ⟨none, by simp [refused], .inl same⟩
      · exact .inr ⟨packet, start, found, by simp [accepted], intact, fresh, before, takes⟩
  | runOnce nowMs => exact .inl ⟨rfl, by simp [Machine.output, node], .inr ⟨nowMs, rfl⟩⟩
  | holdCurrentForMs holdMs => exact .inl ⟨rfl, by simp [Machine.output, node], .inl (uncounted_refl s)⟩

/-- Every call either takes one packet, intact and fresh, or keeps the steering. -/
theorem step_cases (s : State α) (call : Call) :
    (packetOf s call = none ∧ (node α).output s call ≠ .verdict true ∧ Keeps s ((node α).next s call)) ∨
    ∃ packet start, packetOf s call = some packet ∧ (node α).output s call = .verdict true ∧
      Intact packet ∧ Fresh s packet ∧ Uncounted s start ∧
      Takes packet call.nowMs start ((node α).next s call) := by
  rcases call_cases s call with ⟨none, verdict, same | ⟨nowMs, rfl⟩⟩ | taken
  · exact .inl ⟨none, verdict, same.keeps⟩
  · exact .inl ⟨none, verdict, keeps_runOnce nowMs s⟩
  · exact .inr taken

/-- The last packet accepted over a run that starts in `s`. -/
def lastPacket (s : State α) (calls : List Call) : Option Memory :=
  (((node α).noting fun s call last => (packetOf s call).or last).run (s, none) calls).2

end

/-! ### The steering target over a run -/

/-- A value within the bound is not clamped. -/
theorem clampFloat_of_absFloat_le {value bound : F32} (within : absFloat value ≤ bound) :
    clampFloat value (-bound) bound = value := by
  have zero : (0.0 : F32).toRat = 0 := Ieee.toRat_zero_literal
  have order : ¬ value < -bound ∧ ¬ bound < value := by
    unfold absFloat at within
    split at within
    · rename_i negative
      have below := negative.2.2
      have above := within.2.2
      rw [zero] at below
      rw [Ieee.toRat_neg] at above
      refine ⟨fun less => ?_, fun more => ?_⟩
      · have less := less.2.2
        rw [Ieee.toRat_neg] at less
        linarith
      · have more := more.2.2
        linarith
    · rename_i nonnegative
      have above := within.2.2
      have floor := (Ieee.le_of_not_lt within.1 (Ieee.isNaN_literal ..) nonnegative).2.2
      rw [zero] at floor
      refine ⟨fun less => ?_, fun more => ?_⟩
      · have less := less.2.2
        rw [Ieee.toRat_neg] at less
        linarith
      · have more := more.2.2
        linarith
  simp only [clampFloat, order.1, order.2, if_false]

/-- The state steers by a packet: the packet authorizes its angle, and the state
carries the angle, the sequence and the marks of a valid command. -/
structure SteersBy (s : State F32) (packet : Memory) : Prop where
  intact : Intact packet
  authorizes : Authorizes F32 packet
  initialized : s.initialized = true
  linkValid : s.linkValid = true
  commandValid : s.commandValid = true
  emergencyCenter : s.emergencyCenter = false
  targetAngleRad : s.targetAngleRad = readFloat32Le packet 20
  lastSequence : s.lastSequence = sequenceOf packet

/-- The target is zero or the last accepted packet's. -/
def TargetAuthorized (s : State F32) (last : Option Memory) : Prop :=
  s.targetAngleRad = 0.0 ∨ ∃ packet, last = some packet ∧ SteersBy s packet

theorem TargetAuthorized.keeps {s next : State F32} {last : Option Memory}
    (authorized : TargetAuthorized s last) (keeps : Keeps s next) : TargetAuthorized next last := by
  rcases keeps.steering with ⟨_, _, _, zero⟩ | ⟨link, command, emergency, target⟩
  · exact .inl zero
  · rcases authorized with zero | ⟨packet, same, steers⟩
    · exact .inl (target.trans zero)
    · exact .inr ⟨packet, same, steers.intact, steers.authorizes, keeps.initialized.trans steers.initialized,
        link.trans steers.linkValid, command.trans steers.commandValid,
        emergency.trans steers.emergencyCenter, target.trans steers.targetAngleRad,
        keeps.lastSequence.trans steers.lastSequence⟩

theorem targetAuthorized_takes {packet : Memory} {nowMs : UInt32} {s next : State F32}
    (intact : Intact packet) (takes : Takes packet nowMs s next) : TargetAuthorized next (some packet) := by
  rcases takes with ⟨authorizes, rfl⟩ | ⟨-, emergency, rfl⟩
  · refine .inr ⟨packet, rfl, intact, authorizes, rfl, rfl, rfl, rfl, ?_, rfl⟩
    exact clampFloat_of_absFloat_le authorizes.angleBound
  · exact .inl rfl

/-- The target of every reachable state is zero or that of the last accepted packet. -/
theorem targetAuthorized_run (bootMs : UInt32) (calls : List Call) :
    TargetAuthorized ((node F32).run (init bootMs) calls) (lastPacket (init bootMs : State F32) calls) := by
  have kept := Machine.run_invariant ((node F32).noting fun s call last => (packetOf s call).or last)
    (fun s => TargetAuthorized s.1 s.2) ?_ (s := (init bootMs, none)) (.inl rfl) calls
  · rwa [Machine.run_noting_fst] at kept
  · intro ⟨s, last⟩ call authorized
    rcases step_cases s call with ⟨none, _, keeps⟩ | ⟨packet, start, some, _, intact, _, _, takes⟩
    · simp only [Machine.noting, Machine.next, none, Option.none_or] at *
      exact authorized.keeps keeps
    · simp only [Machine.noting, Machine.next, some, Option.some_or] at *
      exact targetAuthorized_takes intact takes

/-- In every reachable state the target is zero or exactly the angle of the last
accepted packet, a packet that is intact and authorizes it; and from there every
call takes a fresh packet or changes no sequence, no receive time, sets no mark
and no new target. -/
theorem target_from_accepted_packets (bootMs : UInt32) (calls : List Call) :
    let s := (node F32).run (init bootMs) calls
    TargetAuthorized s (lastPacket (init bootMs : State F32) calls) ∧
      ∀ call, match packetOf s call with
        | some packet => (node F32).output s call = .verdict true ∧ Intact packet ∧ Fresh s packet ∧
          ((node F32).next s call).lastSequence = sequenceOf packet ∧
          TargetAuthorized ((node F32).next s call) (some packet)
        | none => (node F32).output s call ≠ .verdict true ∧
          ((node F32).next s call).lastSequence = s.lastSequence ∧
          ((node F32).next s call).lastPacketMs = s.lastPacketMs ∧
          (((node F32).next s call).linkValid = true → s.linkValid = true) ∧
          (((node F32).next s call).commandValid = true → s.commandValid = true) ∧
          (((node F32).next s call).targetAngleRad = 0.0 ∨
            ((node F32).next s call).targetAngleRad = s.targetAngleRad) := by
  intro s
  refine ⟨targetAuthorized_run bootMs calls, fun call => ?_⟩
  rcases step_cases s call with ⟨none, verdict, keeps⟩ | ⟨packet, start, some, verdict, intact, fresh, _, takes⟩
  · rw [none]
    refine ⟨verdict, keeps.lastSequence, keeps.lastPacketMs, ?_⟩
    rcases keeps.steering with ⟨link, command, _, zero⟩ | ⟨link, command, _, target⟩
    · simp [link, command, zero]
    · simp [link, command, target]
  · rw [some]
    exact ⟨verdict, intact, fresh, takes.lastSequence, targetAuthorized_takes intact takes⟩

end SelfDriving.Front
