import SelfDriving.Front.DeliveryProofs
import SelfDriving.Front.WatchdogProofs

/-! Which frames the node takes a packet from. A packet that takes effect is looked for
behind the headers of a UDP datagram, with and without an Ethernet header, and then
at every place of the frame, so a frame is taken when such a packet starts anywhere
the node looks. -/
namespace SelfDriving.Front

open Ieee754

variable {α : Type} [Floating α]

/-! ### Packets that take effect -/

variable (α) in
/-- A command that takes effect: to center at once, to steer no more, or an angle it authorizes. -/
def Effective (packet : Memory) : Prop :=
  packet 6 &&& hpscFlagEmergencyCenter ≠ 0 ∨ packet 5 = hpscControlDisabled ∨ Authorizes α packet

/-- A packet that the node takes in a state. -/
structure Acceptable (s : State α) (packet : Memory) : Prop where
  intact : Intact packet
  fresh : Fresh s packet
  effective : Effective α packet

/-- What the packet check accepts. -/
theorem accepts_iff {s : State α} {nowMs : UInt32} {packet : Memory} :
    accepts s nowMs packet = true ↔ Acceptable s packet := by
  unfold accepts
  constructor
  · intro accepted
    by_cases checked : Intact packet ∧ Fresh s packet
    swap
    · rw [(acceptHpscPacket_of_broken checked nowMs).1] at accepted
      cases accepted
    obtain ⟨intact, fresh⟩ := checked
    refine ⟨intact, fresh, ?_⟩
    rcases acceptHpscPacket_of_fresh intact fresh nowMs with
      ⟨emergency, -⟩ | ⟨authorizes, -⟩ | ⟨-, -, disabled, -⟩ | ⟨-, -, -, outcome⟩
    · exact .inl emergency
    · exact .inr (.inr authorizes)
    · exact .inr (.inl disabled)
    · rw [outcome] at accepted
      cases accepted
  · rintro ⟨intact, fresh, effective⟩
    rcases acceptHpscPacket_of_fresh intact fresh nowMs with
      ⟨-, outcome⟩ | ⟨-, outcome⟩ | ⟨-, -, -, outcome⟩ | ⟨calm, unauthorized, enabled, -⟩
    · rw [outcome]
    · rw [outcome]
    · rw [outcome]
    · rcases effective with emergency | disabled | authorizes
      · exact absurd calm emergency
      · exact absurd disabled enabled
      · exact absurd authorizes unauthorized

/-! ### Where the node looks -/

/-- A UDP header that is addressed to the node, with room for a packet behind it. -/
structure Addressed (frame : Memory) (udp : Nat) : Prop where
  port : readU16Be (frame.drop udp) 2 = steeringUdpPort
  udpLength : 8 + hpscPacketSize ≤ (readU16Be (frame.drop udp) 4).toNat

/-- An Ethernet frame with a whole IPv4 datagram of UDP in it. -/
structure EthernetIpv4 (frame : Memory) (length : Nat) : Prop where
  long : 14 + 20 + 8 + hpscPacketSize ≤ length
  etherType : readU16Be frame 12 = 0x0800
  version : frame 14 >>> 4 = 4
  header : 20 ≤ ihlBytes (frame.drop 14)
  protocol : frame 23 = 17
  totalLength : ihlBytes (frame.drop 14) + 8 + hpscPacketSize ≤ (readU16Be (frame.drop 14) 2).toNat
  fits : 14 + (readU16Be (frame.drop 14) 2).toNat ≤ length

/-- An IPv4 header with UDP at the start of the buffer. Its lengths are not checked. -/
structure BareIpv4 (frame : Memory) (length : Nat) : Prop where
  long : 14 + 20 + 8 + hpscPacketSize ≤ length
  version : frame 0 >>> 4 = 4
  protocol : frame 9 = 17
  header : 20 ≤ ihlBytes frame

/-- The places where a packet is looked for. -/
inductive Window (frame : Memory) (length : Nat) : Nat → Prop
  | ethernet (ip : EthernetIpv4 frame length) (udp : Addressed frame (14 + ihlBytes (frame.drop 14))) :
    Window frame length (14 + ihlBytes (frame.drop 14) + 8)
  | bare (ip : BareIpv4 frame length) (udp : Addressed frame (ihlBytes frame)) :
    Window frame length (ihlBytes frame + 8)
  | embedded {offset : Nat} (inside : offset + hpscPacketSize ≤ length) (magic : hasMagic (frame.drop offset) = true) :
    Window frame length offset

theorem mem_udpOffset {frame : Memory} {udp offset : Nat} :
    offset ∈ udpOffset frame udp ↔ Addressed frame udp ∧ offset = udp + 8 := by
  unfold udpOffset
  split
  · rename_i addressed
    rw [Bool.and_eq_true, decide_eq_true_eq, decide_eq_true_eq] at addressed
    rw [List.mem_singleton]
    exact (and_iff_right ⟨addressed.1, addressed.2⟩).symm
  · rename_i other
    rw [Bool.and_eq_true, decide_eq_true_eq, decide_eq_true_eq] at other
    exact iff_of_false (List.not_mem_nil) fun both => other ⟨both.1.port, both.1.udpLength⟩

/-- The guard of the first path. -/
theorem ethernetIpv4_iff {frame : Memory} {length : Nat} (long : 14 + 20 + 8 + hpscPacketSize ≤ length) :
    (readU16Be frame 12 = 0x0800 && (frame.drop 14) 0 >>> 4 = 4 && ihlBytes (frame.drop 14) ≥ 20 &&
      (frame.drop 14) 9 = 17 &&
      (readU16Be (frame.drop 14) 2).toNat ≥ ihlBytes (frame.drop 14) + 8 + hpscPacketSize &&
      14 + (readU16Be (frame.drop 14) 2).toNat ≤ length) = true ↔ EthernetIpv4 frame length := by
  simp only [Bool.and_eq_true, decide_eq_true_eq]
  constructor
  · rintro ⟨⟨⟨⟨⟨etherType, version⟩, header⟩, protocol⟩, totalLength⟩, fits⟩
    exact ⟨long, etherType, version, header, protocol, totalLength, fits⟩
  · rintro ⟨-, etherType, version, header, protocol, totalLength, fits⟩
    exact ⟨⟨⟨⟨⟨etherType, version⟩, header⟩, protocol⟩, totalLength⟩, fits⟩

/-- The guard of the second path. -/
theorem bareIpv4_iff {frame : Memory} {length : Nat} (long : 14 + 20 + 8 + hpscPacketSize ≤ length) :
    (length ≥ 20 + 8 + hpscPacketSize && frame 0 >>> 4 = 4 && frame 9 = 17 && ihlBytes frame ≥ 20) = true ↔
      BareIpv4 frame length := by
  simp only [Bool.and_eq_true, decide_eq_true_eq]
  constructor
  · rintro ⟨⟨⟨-, version⟩, protocol⟩, header⟩
    exact ⟨long, version, protocol, header⟩
  · rintro ⟨-, version, protocol, header⟩
    exact ⟨⟨⟨by omega, version⟩, protocol⟩, header⟩

/-- The node looks at exactly these places. -/
theorem mem_packetOffsets {frame : Memory} {length offset : Nat} :
    offset ∈ packetOffsets frame length ↔ Window frame length offset := by
  unfold packetOffsets
  constructor
  · intro member
    split at member
    · cases member
    rename_i enough
    rcases List.mem_append.mp member with headers | scan
    · split at headers
      · rename_i long
        rcases List.mem_append.mp headers with ethernet | bare
        · split at ethernet
          · rename_i guard
            obtain ⟨udp, rfl⟩ := mem_udpOffset.mp ethernet
            exact .ethernet ((ethernetIpv4_iff long).mp guard) udp
          · cases ethernet
        · split at bare
          · rename_i guard
            obtain ⟨udp, rfl⟩ := mem_udpOffset.mp bare
            exact .bare ((bareIpv4_iff long).mp guard) udp
          · cases bare
      · cases headers
    · rw [List.mem_filter, List.mem_range] at scan
      exact .embedded (by omega) scan.2
  · intro window
    cases window with
    | ethernet ip udp =>
      have long := ip.long
      rw [if_neg (by omega), if_pos long, if_pos ((ethernetIpv4_iff long).mpr ip)]
      exact List.mem_append_left _ (List.mem_append_left _ (mem_udpOffset.mpr ⟨udp, rfl⟩))
    | bare ip udp =>
      have long := ip.long
      rw [if_neg (by omega), if_pos long, if_pos ((bareIpv4_iff long).mpr ip)]
      exact List.mem_append_left _ (List.mem_append_right _ (mem_udpOffset.mpr ⟨udp, rfl⟩))
    | embedded inside magic =>
      rw [if_neg (by omega)]
      refine List.mem_append_right _ (List.mem_filter.mpr ⟨List.mem_range.mpr ?_, magic⟩)
      omega

/-- A frame is taken when a packet that the node takes starts where it looks, and then
by the first such packet; otherwise at most the count of refusals changes. -/
theorem acceptEthernetFrame_windows (frame : Memory) (length : UInt16) (nowMs : UInt32) (s : State α) :
    let outcome := acceptEthernetFrame (some frame) length nowMs s
    (outcome.1 = true → ∃ offset start, Window frame length.toNat offset ∧ Acceptable s (frame.drop offset) ∧
      Uncounted s start ∧ Takes (frame.drop offset) nowMs start outcome.2) ∧
    ((∃ offset, Window frame length.toNat offset ∧ offset + hpscPacketSize ≤ length.toNat ∧
      Acceptable s (frame.drop offset)) → outcome.1 = true) ∧
    (outcome.1 = false → Uncounted s outcome.2) := by
  intro outcome
  have same : outcome = tryOffsets frame nowMs (packetOffsets frame length.toNat) s := acceptEthernetFrame_eq ..
  rcases tryOffsets_cases frame nowMs (packetOffsets frame length.toNat) s with
    ⟨refused, uncounted, none⟩ | ⟨packet, found, accepted, intact, fresh, start, before, takes⟩
  · rw [← same] at refused uncounted
    refine ⟨fun accepted => ?_, fun window => ?_, fun _ => uncounted⟩
    · rw [refused] at accepted
      cases accepted
    · obtain ⟨offset, looked, -, acceptable⟩ := window
      have member := List.mem_map_of_mem (f := frame.drop) (mem_packetOffsets.mpr looked)
      exact absurd (accepts_iff.mpr acceptable) (List.find?_eq_none.mp none _ member)
  · rw [← same] at accepted takes
    refine ⟨fun _ => ?_, fun _ => accepted, fun refused => ?_⟩
    · obtain ⟨offset, looked, rfl⟩ := List.mem_map.mp (List.mem_of_find?_eq_some found)
      exact ⟨offset, start, mem_packetOffsets.mp looked, accepts_iff.mp (List.find?_some found), before, takes⟩
    · rw [accepted] at refused
      cases refused

/-- An Ethernet frame of the wire contract: the packet is the whole payload of a UDP
datagram to the node, and it is the one that is taken. -/
structure ContractFrame (s : State F32) (frame : Memory) (length : Nat) : Prop where
  ip : EthernetIpv4 frame length
  port : readU16Be (frame.drop (14 + ihlBytes (frame.drop 14))) 2 = steeringUdpPort
  udpLength : (readU16Be (frame.drop (14 + ihlBytes (frame.drop 14))) 4).toNat = 8 + hpscPacketSize
  packet : Acceptable s (frame.drop (14 + ihlBytes (frame.drop 14) + 8))

/-- A packet without any headers is taken. -/
theorem headless_packet_taken :
    ¬ ∀ (frame : Memory) (length : UInt16) (nowMs : UInt32) (s : State F32),
      (acceptEthernetFrame (some frame) length nowMs s).1 = true → ContractFrame s frame length.toNat := by
  intro all
  have taken : (acceptEthernetFrame (some quarterPacket) 40 0 (init 0 : State F32)).1 = true := by decide +kernel
  have long := (all quarterPacket 40 0 (init 0) taken).ip.long
  exact absurd long (by decide)

end SelfDriving.Front
