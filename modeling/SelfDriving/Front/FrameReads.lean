import SelfDriving.Foundations.ByteReader
import SelfDriving.Front.FrameProofs

/-! Which bytes of a frame the node reads. The parser is written once more as a program
that reads byte by byte, in the order of the code and with its short circuits; it
computes the same, and the places that it reads are known. -/
namespace SelfDriving.Front.Reads
open Ieee754 ByteReader

section
variable {α : Type} [Floating α]

/-- The multi-byte reads, in the order in which the operands are written. -/
def readU16Le (bytes : Nat) : ByteReader UInt16 :=
  return (← read (bytes + 1)).toUInt16 <<< 8 ||| (← read bytes).toUInt16

def readU16Be (bytes : Nat) : ByteReader UInt16 :=
  return (← read bytes).toUInt16 <<< 8 ||| (← read (bytes + 1)).toUInt16

def readU32Le (bytes : Nat) : ByteReader UInt32 :=
  return (← read bytes).toUInt32 ||| (← read (bytes + 1)).toUInt32 <<< 8 |||
    (← read (bytes + 2)).toUInt32 <<< 16 ||| (← read (bytes + 3)).toUInt32 <<< 24

def readFloat32Le (bytes : Nat) : ByteReader α :=
  return Floating.ofSingle (Ieee.ofBits (← readU32Le bytes).toNat)

def crc32Ieee (data length : Nat) : ByteReader UInt32 := return Crc32.crc32 (← readMany data length)

/-- The four bytes that start a packet, up to the first that differs. -/
def hasMagic (bytes : Nat) : ByteReader Bool := do
  if (← read bytes) = 0x48 then
    if (← read (bytes + 1)) = 0x50 then
      if (← read (bytes + 2)) = 0x53 then
        return (← read (bytes + 3)) = 0x43
      else return false
    else return false
  else return false

/-- The packet check at a place; the fields are read before any of them is checked. -/
def acceptHpscPacket (payload length : Nat) (nowMs : UInt32) (s : State α) : ByteReader (Bool × State α) := do
  if length ≠ hpscPacketSize then return (false, rejectPacket s)
  else
    let magic ← hasMagic payload
    if !magic then return (false, rejectPacket s)
    else
      let version ← read (payload + 4)
      let controlMode ← read (payload + 5)
      let flags ← read (payload + 6)
      let headerSize ← read (payload + 7)
      let sequence ← readU32Le (payload + 8)
      let angleRad : α ← readFloat32Le (payload + 20)
      let maxRateRadS : α ← readFloat32Le (payload + 24)
      let reserved16 ← readU16Le (payload + 30)
      let reserved32 ← readU32Le (payload + 32)
      let receivedCrc ← readU32Le (payload + 36)
      let calculatedCrc ← crc32Ieee payload 36
      return (
        if version ≠ hpscVersion || headerSize ≠ hpscHeaderSize || reserved16 ≠ 0 || reserved32 ≠ 0 ||
            receivedCrc ≠ calculatedCrc then (false, rejectPacket s)
        else if s.initialized && !sequenceNewer sequence s.lastSequence then (false, s)
        else
          let emergencyCenter : Bool := flags &&& hpscFlagEmergencyCenter ≠ 0
          let steeringValid : Bool := flags &&& hpscFlagSteeringValid ≠ 0
          let upstreamValid : Bool := flags &&& hpscFlagUpstreamValid ≠ 0
          let commandValid := steeringValid && upstreamValid && controlMode = hpscControlSteeringAngle &&
            isFiniteFloat angleRad && isFiniteFloat maxRateRadS &&
            absFloat angleRad ≤ (steeringMaxAbsRad : α) && maxRateRadS > (0.0 : α)
          if emergencyCenter then
            (true, acceptTarget sequence 0.0 steeringDefaultMaxRateRadS false true nowMs s)
          else if !commandValid then
            if controlMode = hpscControlDisabled then
              (true, acceptTarget sequence 0.0 steeringDefaultMaxRateRadS false false nowMs s)
            else (false, rejectPacket s)
          else (true, acceptTarget sequence angleRad maxRateRadS true false nowMs s))

/-- The header of the datagram is read before its payload. -/
def acceptUdpPayload (udp : Nat) (nowMs : UInt32) (s : State α) : ByteReader (Bool × State α) := do
  let dstPort ← readU16Be (udp + 2)
  let udpLength ← readU16Be (udp + 4)
  if dstPort = steeringUdpPort && udpLength.toNat ≥ 8 + hpscPacketSize then
    acceptHpscPacket (udp + 8) hpscPacketSize nowMs s
  else return (false, s)

/-- Each field is read only when those before it are as they should be. -/
def acceptEthernetIpv4 (length : Nat) (nowMs : UInt32) (s : State α) : ByteReader (Bool × State α) := do
  let etherType ← readU16Be 12
  if etherType = 0x0800 then
    let first ← read 14
    let ihlBytes := ((first &&& 0x0F) * 4).toNat
    if first >>> 4 = 4 && ihlBytes ≥ 20 then
      let protocol ← read 23
      if protocol = 17 then
        let totalLength ← readU16Be 16
        if totalLength.toNat ≥ ihlBytes + 8 + hpscPacketSize && 14 + totalLength.toNat ≤ length then
          acceptUdpPayload (14 + ihlBytes) nowMs s
        else return (false, s)
      else return (false, s)
    else return (false, s)
  else return (false, s)

/-- The same behind no Ethernet header. -/
def acceptBareIpv4 (length : Nat) (nowMs : UInt32) (s : State α) : ByteReader (Bool × State α) := do
  if length ≥ 20 + 8 + hpscPacketSize then
    let first ← read 0
    if first >>> 4 = 4 then
      let protocol ← read 9
      let ihlBytes := ((first &&& 0x0F) * 4).toNat
      if protocol = 17 && ihlBytes ≥ 20 then acceptUdpPayload ihlBytes nowMs s
      else return (false, s)
    else return (false, s)
  else return (false, s)

/-- At every place the magic number is looked for. -/
def scanFrame (nowMs : UInt32) : List Nat → State α → ByteReader (Bool × State α)
  | [], s => return (false, s)
  | offset :: rest, s => do
    let magic ← hasMagic offset
    if magic then
      let outcome ← acceptHpscPacket offset hpscPacketSize nowMs s
      if outcome.1 then return (true, outcome.2) else scanFrame nowMs rest outcome.2
    else scanFrame nowMs rest s

/-- A path, and another one when it accepts nothing. -/
def orElse (first second : State α → ByteReader (Bool × State α)) (s : State α) : ByteReader (Bool × State α) := do
  let outcome ← first s
  if outcome.1 then return (true, outcome.2) else second outcome.2

/-- The three attempts, each only when those before it have refused. -/
def acceptEthernetFrame (length : UInt16) (nowMs : UInt32) (s : State α) : ByteReader (Bool × State α) :=
  let length := length.toNat
  if length < hpscPacketSize then return (false, s)
  else
    let headers : State α → ByteReader (Bool × State α) :=
      if length ≥ 14 + 20 + 8 + hpscPacketSize then
        orElse (acceptEthernetIpv4 length nowMs) (acceptBareIpv4 length nowMs)
      else fun s => return (false, s)
    orElse headers (scanFrame nowMs (List.range (length - hpscPacketSize + 1))) s

/-! ### The same results -/

section
variable (memory : Memory)

@[simp] theorem run_readU16Le (bytes offset : Nat) :
    (readU16Le (bytes + offset)).run memory = Front.readU16Le (memory.drop bytes) offset := rfl

@[simp] theorem run_readU16Be (bytes offset : Nat) :
    (readU16Be (bytes + offset)).run memory = Front.readU16Be (memory.drop bytes) offset := rfl

@[simp] theorem run_readU32Le (bytes offset : Nat) :
    (readU32Le (bytes + offset)).run memory = Front.readU32Le (memory.drop bytes) offset := rfl

@[simp] theorem run_readFloat32Le (bytes offset : Nat) :
    (readFloat32Le (bytes + offset) : ByteReader α).run memory = Front.readFloat32Le (memory.drop bytes) offset := rfl

@[simp] theorem run_crc32Ieee (data length : Nat) :
    (crc32Ieee data length).run memory = Front.crc32Ieee (memory.drop data) length := by
  rw [crc32Ieee, run_bind, run_readMany, run_pure, Front.crc32Ieee]

theorem run_hasMagic (bytes : Nat) : (hasMagic bytes).run memory = Front.hasMagic (memory.drop bytes) := by
  rw [hasMagic, run_bind, run_read, run_ite, run_bind, run_read, run_ite, run_bind, run_read, run_ite, run_bind,
    run_read, run_pure, run_pure, Front.hasMagic]
  simp only [Memory.drop_apply, Nat.add_zero]
  by_cases first : memory bytes = 0x48
  · by_cases second : memory (bytes + 1) = 0x50
    · by_cases third : memory (bytes + 2) = 0x53
      · rw [if_pos first, if_pos second, if_pos third]
        simp only [first, second, third, decide_true, Bool.true_and]
        rfl
      · simp [first, second, third]
    · simp [first, second]
  · simp [first]

theorem run_acceptHpscPacket (payload length : Nat) (nowMs : UInt32) (s : State α) :
    (acceptHpscPacket payload length nowMs s).run memory =
      Front.acceptHpscPacket (some (memory.drop payload)) length nowMs s := by
  simp only [acceptHpscPacket, run_bind, run_ite, run_read, run_pure, run_hasMagic, run_readU32Le, run_readU16Le,
    run_readFloat32Le, run_crc32Ieee]
  rfl

theorem run_acceptUdpPayload (udp : Nat) (nowMs : UInt32) (s : State α) :
    (acceptUdpPayload udp nowMs s).run memory = Front.acceptUdpPayload (memory.drop udp) nowMs s := by
  rw [acceptUdpPayload, run_bind, run_bind, run_ite, run_pure, run_acceptHpscPacket]
  rfl

/-- Guards that are read one after another are one guard. -/
theorem run_acceptEthernetIpv4 (length : Nat) (nowMs : UInt32) (s : State α) :
    (acceptEthernetIpv4 length nowMs s).run memory = Front.acceptEthernetIpv4 memory length nowMs s := by
  have etherType : (readU16Be 12).run memory = Front.readU16Be memory 12 := rfl
  have totalLength : (readU16Be 16).run memory = Front.readU16Be (memory.drop 14) 2 := rfl
  have headerLength : ((memory 14 &&& 0x0F) * 4).toNat = ihlBytes (memory.drop 14) := rfl
  have version : (memory.drop 14) 0 = memory 14 := rfl
  have protocol : (memory.drop 14) 9 = memory 23 := rfl
  have payload : (memory.drop 14).drop (ihlBytes (memory.drop 14)) = memory.drop (14 + ihlBytes (memory.drop 14)) :=
    Memory.drop_drop ..
  rw [acceptEthernetIpv4, run_bind, run_ite, run_bind, run_read, run_ite, run_bind, run_read, run_ite, run_bind,
    run_ite, run_acceptUdpPayload, run_pure, etherType, totalLength, headerLength, Front.acceptEthernetIpv4]
  simp only [version, protocol, payload, Bool.and_eq_true, decide_eq_true_eq, ite_and, and_assoc]

theorem run_acceptBareIpv4 (length : Nat) (nowMs : UInt32) (s : State α) :
    (acceptBareIpv4 length nowMs s).run memory = Front.acceptBareIpv4 memory length nowMs s := by
  have headerLength : ((memory 0 &&& 0x0F) * 4).toNat = ihlBytes memory := rfl
  rw [acceptBareIpv4, run_ite, run_bind, run_read, run_ite, run_bind, run_read, run_ite, run_acceptUdpPayload, run_pure,
    headerLength, Front.acceptBareIpv4]
  simp only [Bool.and_eq_true, decide_eq_true_eq, ite_and, and_assoc]

omit [Floating α] in
theorem run_orElse {first second : State α → ByteReader (Bool × State α)} {first' second' : State α → Bool × State α}
    (same_first : ∀ s, (first s).run memory = first' s) (same_second : ∀ s, (second s).run memory = second' s)
    (s : State α) : (orElse first second s).run memory = Front.orElse first' second' s := by
  rw [orElse, run_bind, run_ite, run_pure, same_first, same_second, Front.orElse]
  rcases first' s with ⟨_ | _, _⟩ <;> rfl

theorem run_scanFrame (nowMs : UInt32) (offsets : List Nat) (s : State α) :
    (scanFrame nowMs offsets s).run memory = Front.scanFrame memory nowMs offsets s := by
  induction offsets generalizing s with
  | nil => rfl
  | cons offset rest ih =>
    rw [scanFrame, run_bind, run_ite, run_bind, run_ite, run_hasMagic, run_acceptHpscPacket, run_pure, ih, ih,
      Front.scanFrame]
    split
    · rcases Front.acceptHpscPacket (some (memory.drop offset)) hpscPacketSize nowMs s with ⟨_ | _, _⟩ <;> rfl
    · rfl

theorem run_acceptEthernetFrame (length : UInt16) (nowMs : UInt32) (s : State α) :
    (acceptEthernetFrame length nowMs s).run memory = Front.acceptEthernetFrame (some memory) length nowMs s := by
  have headers (s : State α) : ((if length.toNat ≥ 14 + 20 + 8 + hpscPacketSize then
      orElse (acceptEthernetIpv4 length.toNat nowMs) (acceptBareIpv4 length.toNat nowMs)
      else fun s => return (false, s)) s).run memory =
      (if length.toNat ≥ 14 + 20 + 8 + hpscPacketSize then
        Front.orElse (Front.acceptEthernetIpv4 memory length.toNat nowMs) (Front.acceptBareIpv4 memory length.toNat nowMs)
        else fun s => (false, s)) s := by
    split
    · exact run_orElse memory (run_acceptEthernetIpv4 memory length.toNat nowMs)
        (run_acceptBareIpv4 memory length.toNat nowMs) s
    · rfl
  rw [acceptEthernetFrame, run_ite, run_pure, run_orElse memory headers (run_scanFrame memory nowMs _)]
  rfl

end

/-! ### The places -/

section
variable {bound : Nat} {memory : Memory}

theorem below_readU16Le {bytes : Nat} (inside : bytes + 2 ≤ bound) : Below bound memory (readU16Le bytes) := by
  rw [readU16Le, below_bind, below_read, below_bind, below_read]
  exact ⟨by omega, by omega, below_pure _⟩

theorem below_readU16Be {bytes : Nat} (inside : bytes + 2 ≤ bound) : Below bound memory (readU16Be bytes) := by
  rw [readU16Be, below_bind, below_read, below_bind, below_read]
  exact ⟨by omega, by omega, below_pure _⟩

theorem below_readU32Le {bytes : Nat} : Below bound memory (readU32Le bytes) ↔ bytes + 4 ≤ bound := by
  rw [readU32Le, below_bind, below_read, below_bind, below_read, below_bind, below_read, below_bind, below_read]
  constructor
  · rintro ⟨-, -, -, last, -⟩
    omega
  · intro inside
    exact ⟨by omega, by omega, by omega, by omega, below_pure _⟩

theorem below_readFloat32Le {bytes : Nat} (inside : bytes + 4 ≤ bound) :
    Below bound memory (readFloat32Le bytes : ByteReader α) := by
  rw [readFloat32Le, below_bind]
  exact ⟨below_readU32Le.mpr inside, below_pure _⟩

theorem below_crc32Ieee {data length : Nat} (inside : data + length ≤ bound) :
    Below bound memory (crc32Ieee data length) := by
  rw [crc32Ieee, below_bind]
  exact ⟨below_readMany inside, below_pure _⟩

theorem below_hasMagic {bytes : Nat} (inside : bytes + 4 ≤ bound) : Below bound memory (hasMagic bytes) := by
  rw [hasMagic, below_bind, below_read, below_ite, below_bind, below_read, below_ite, below_bind, below_read,
    below_ite, below_bind, below_read]
  refine ⟨by omega, fun _ => ⟨by omega, fun _ => ⟨by omega, fun _ => ⟨by omega, below_pure _⟩, ?_⟩, ?_⟩, ?_⟩
  all_goals exact fun _ => below_pure _

/-- A packet is read to its end as soon as it starts like one. -/
theorem below_acceptHpscPacket {payload : Nat} (start : payload + 4 ≤ bound) (nowMs : UInt32) (s : State α) :
    Below bound memory (acceptHpscPacket payload hpscPacketSize nowMs s) ↔
      (Front.hasMagic (memory.drop payload) = true → payload + hpscPacketSize ≤ bound) := by
  rw [acceptHpscPacket, if_neg (not_not_intro rfl), below_bind, below_ite, run_hasMagic, Bool.not_eq_true',
    Bool.not_eq_false]
  constructor
  · rintro ⟨-, -, body⟩ magic
    have fields := body magic
    simp only [below_bind, below_readU32Le] at fields
    obtain ⟨-, -, -, -, -, -, -, -, -, crc, -⟩ := fields
    exact crc
  · intro inside
    refine ⟨below_hasMagic start, fun _ => below_pure _, fun magic => ?_⟩
    have all : payload + 40 ≤ bound := inside magic
    simp only [below_bind, below_read, below_readU32Le]
    exact ⟨by omega, by omega, by omega, by omega, by omega, below_readFloat32Le (by omega),
      below_readFloat32Le (by omega), below_readU16Le (by omega), by omega, by omega, below_crc32Ieee (by omega),
      below_pure _⟩

/-- The packet of a datagram to the node is the only thing that may lie past the bound. -/
theorem below_acceptUdpPayload {udp : Nat} (start : udp + 12 ≤ bound) (nowMs : UInt32) (s : State α) :
    Below bound memory (acceptUdpPayload udp nowMs s) ↔
      (Addressed memory udp → Front.hasMagic (memory.drop (udp + 8)) = true → udp + 8 + hpscPacketSize ≤ bound) := by
  rw [acceptUdpPayload, below_bind, below_bind, below_ite, below_acceptHpscPacket (by omega), run_readU16Be,
    run_readU16Be, Bool.and_eq_true, decide_eq_true_eq, decide_eq_true_eq]
  constructor
  · rintro ⟨-, -, packet, -⟩ ⟨port, udpLength⟩
    exact packet ⟨port, udpLength⟩
  · intro packet
    refine ⟨below_readU16Be (by omega), below_readU16Be (by omega), ?_, fun _ => below_pure _⟩
    rintro ⟨port, udpLength⟩
    exact packet ⟨port, udpLength⟩

/-- The first path stays in the frame: the lengths of its headers are checked against it. -/
theorem below_acceptEthernetIpv4 {length : Nat} (long : 14 + 20 + 8 + hpscPacketSize ≤ length) (nowMs : UInt32)
    (s : State α) : Below length memory (acceptEthernetIpv4 length nowMs s) := by
  have large : 82 ≤ length := long
  rw [acceptEthernetIpv4, below_bind, below_ite, below_bind, below_read, below_ite, below_bind, below_read, below_ite,
    below_bind, below_ite, run_read]
  refine ⟨below_readU16Be (by omega), fun _ => ⟨by omega, fun _ => ⟨by omega, fun _ => ⟨below_readU16Be (by omega),
    fun guard => ?_, ?_⟩, ?_⟩, ?_⟩, ?_⟩
  · rw [Bool.and_eq_true, decide_eq_true_eq, decide_eq_true_eq] at guard
    obtain ⟨room, fits⟩ := guard
    have whole : 14 + ((memory 14 &&& 0x0F) * 4).toNat + 8 + hpscPacketSize ≤ length := by omega
    have size : hpscPacketSize = 40 := rfl
    exact (below_acceptUdpPayload (by omega) nowMs s).mpr fun _ _ => whole
  all_goals exact fun _ => below_pure _

theorem ihlBytes_le (ip : Memory) : ihlBytes ip ≤ 60 := by
  have nibble : (ip 0 &&& 0x0F).toNat ≤ 15 := by
    rw [UInt8.toNat_and]
    exact Nat.and_le_right
  rw [ihlBytes, UInt8.toNat_mul]
  exact (Nat.mod_le ..).trans (Nat.mul_le_mul_right 4 nibble)

/-- The second path reads what its header length says, whether it lies in the frame or not. -/
theorem below_acceptBareIpv4 {length : Nat} (long : 14 + 20 + 8 + hpscPacketSize ≤ length) (nowMs : UInt32)
    (s : State α) : Below length memory (acceptBareIpv4 length nowMs s) ↔
      (BareIpv4 memory length → Addressed memory (ihlBytes memory) →
        Front.hasMagic (memory.drop (ihlBytes memory + 8)) = true → ihlBytes memory + 8 + hpscPacketSize ≤ length) := by
  have large : 82 ≤ length := long
  have header := ihlBytes_le memory
  have headerLength : ((memory 0 &&& 0x0F) * 4).toNat = ihlBytes memory := rfl
  rw [acceptBareIpv4, below_ite, below_bind, below_read, below_ite, below_bind, below_read, below_ite, run_read,
    run_read, headerLength, below_acceptUdpPayload (by omega), Bool.and_eq_true, decide_eq_true_eq, decide_eq_true_eq]
  constructor
  · rintro ⟨path, -⟩ ip
    exact ((path (by have := ip.long; omega)).2.1 ip.version).2.1 ⟨ip.protocol, ip.header⟩
  · intro packet
    refine ⟨fun _ => ⟨by omega, fun version => ⟨by omega, fun ip => ?_, ?_⟩, ?_⟩, ?_⟩
    · exact packet ⟨long, version, ip.1, ip.2⟩
    all_goals exact fun _ => below_pure _

theorem below_scanFrame {offsets : List Nat} (inside : ∀ offset ∈ offsets, offset + hpscPacketSize ≤ bound)
    (nowMs : UInt32) (s : State α) : Below bound memory (scanFrame nowMs offsets s) := by
  induction offsets generalizing s with
  | nil => exact below_pure _
  | cons offset rest ih =>
    have first : offset + 40 ≤ bound := inside offset List.mem_cons_self
    have later (s : State α) := ih (fun other member => inside other (List.mem_cons_of_mem _ member)) s
    rw [scanFrame, below_bind, below_ite, below_bind, below_ite, below_acceptHpscPacket (by omega)]
    exact ⟨below_hasMagic (by omega), fun _ => ⟨fun _ => first, fun _ => below_pure _, fun _ => later _⟩,
      fun _ => later s⟩

omit [Floating α] in
theorem below_orElse {first second : State α → ByteReader (Bool × State α)} {s : State α} :
    Below bound memory (orElse first second s) ↔ Below bound memory (first s) ∧
      (((first s).run memory).1 = false → Below bound memory (second ((first s).run memory).2)) := by
  rw [orElse, below_bind, below_ite, Bool.not_eq_true]
  exact and_congr_right fun _ => ⟨fun both => both.2, fun next => ⟨fun _ => below_pure _, next⟩⟩

end
end
end SelfDriving.Front.Reads

namespace SelfDriving.Front
open Ieee754 ByteReader

variable {α : Type} [Floating α]

/-! ### Frames that are read past their end -/

theorem acceptUdpPayload_iff {frame : Memory} {udp : Nat} {nowMs : UInt32} {s : State α} :
    (acceptUdpPayload (frame.drop udp) nowMs s).1 = true ↔
      Addressed frame udp ∧ Acceptable s (frame.drop (udp + 8)) := by
  rw [acceptUdpPayload, Memory.drop_drop]
  split
  · rename_i addressed
    rw [Bool.and_eq_true, decide_eq_true_eq, decide_eq_true_eq] at addressed
    rw [and_iff_right (⟨addressed.1, addressed.2⟩ : Addressed frame udp)]
    exact accepts_iff
  · rename_i other
    rw [Bool.and_eq_true, decide_eq_true_eq, decide_eq_true_eq] at other
    exact iff_of_false Bool.false_ne_true fun both => other ⟨both.1.port, both.1.udpLength⟩

/-- A frame that the first path takes a packet from. -/
structure TakenBehindEthernet (s : State α) (frame : Memory) (length : Nat) : Prop where
  ip : EthernetIpv4 frame length
  udp : Addressed frame (14 + ihlBytes (frame.drop 14))
  packet : Acceptable s (frame.drop (14 + ihlBytes (frame.drop 14) + 8))

theorem acceptEthernetIpv4_iff {frame : Memory} {length : Nat} (long : 14 + 20 + 8 + hpscPacketSize ≤ length)
    {nowMs : UInt32} {s : State α} :
    (acceptEthernetIpv4 frame length nowMs s).1 = true ↔ TakenBehindEthernet s frame length := by
  rw [acceptEthernetIpv4, Memory.drop_drop]
  split
  · rename_i guard
    have ip := (ethernetIpv4_iff long).mp guard
    rw [acceptUdpPayload_iff]
    exact ⟨fun both => ⟨ip, both.1, both.2⟩, fun taken => ⟨taken.udp, taken.packet⟩⟩
  · rename_i other
    exact iff_of_false Bool.false_ne_true fun taken => other ((ethernetIpv4_iff long).mpr taken.ip)

/-- A datagram at the start of the buffer whose headers are so long that the packet behind
them ends past the frame, and that the node still gets to. -/
structure Overruns (s : State α) (frame : Memory) (length : Nat) : Prop where
  ip : BareIpv4 frame length
  udp : Addressed frame (ihlBytes frame)
  magic : hasMagic (frame.drop (ihlBytes frame + 8)) = true
  past : length < ihlBytes frame + 8 + hpscPacketSize
  untaken : ¬ TakenBehindEthernet s frame length

theorem below_acceptEthernetFrame (frame : Memory) (length : UInt16) (nowMs : UInt32) (s : State α) :
    Below length.toNat frame (Reads.acceptEthernetFrame length nowMs s) ↔ ¬ Overruns s frame length.toNat := by
  have scan (short : ¬ length.toNat < hpscPacketSize) (s : State α) :
      Below length.toNat frame (Reads.scanFrame nowMs (List.range (length.toNat - hpscPacketSize + 1)) s) := by
    refine Reads.below_scanFrame (fun offset member => ?_) nowMs s
    rw [List.mem_range] at member
    omega
  rw [Reads.acceptEthernetFrame, below_ite]
  by_cases long : 14 + 20 + 8 + hpscPacketSize ≤ length.toNat
  · have enough : ¬ length.toNat < hpscPacketSize := by omega
    rw [if_pos long, Reads.below_orElse, Reads.below_orElse, Reads.below_acceptBareIpv4 long,
      Reads.run_acceptEthernetIpv4, ← Bool.not_eq_true, acceptEthernetIpv4_iff long]
    constructor
    · rintro ⟨-, path⟩ ⟨ip, udp, magic, past, untaken⟩
      exact Nat.not_le_of_lt past ((path enough).1.2 untaken ip udp magic)
    · refine fun inside => ⟨fun _ => below_pure _, fun _ => ⟨⟨Reads.below_acceptEthernetIpv4 long nowMs s, ?_⟩,
        fun _ => scan enough _⟩⟩
      intro untaken ip udp magic
      exact Nat.le_of_not_lt fun past => inside ⟨ip, udp, magic, past, untaken⟩
  · rw [if_neg long, Reads.below_orElse]
    refine iff_of_true ⟨fun _ => below_pure _, fun enough => ⟨below_pure _, fun _ => scan enough _⟩⟩ ?_
    exact fun overruns => long overruns.ip.long

/-- The parser reads inside the frame unless it meets such a datagram, and then what lies
past the frame makes no difference. -/
theorem acceptEthernetFrame_reads_inside_iff (frame : Memory) (length : UInt16) (nowMs : UInt32) (s : State α) :
    let parser := Reads.acceptEthernetFrame length nowMs s
    parser.run frame = acceptEthernetFrame (some frame) length nowMs s ∧
    ((∀ place ∈ parser.places frame, place < length.toNat) ↔ ¬ Overruns s frame length.toNat) ∧
    (¬ Overruns s frame length.toNat → ∀ other : Memory, (∀ place < length.toNat, other place = frame place) →
      acceptEthernetFrame (some other) length nowMs s = acceptEthernetFrame (some frame) length nowMs s) := by
  intro parser
  refine ⟨Reads.run_acceptEthernetFrame frame length nowMs s, below_acceptEthernetFrame frame length nowMs s,
    fun inside other agree => ?_⟩
  have below := (below_acceptEthernetFrame frame length nowMs s).mpr inside
  rw [← Reads.run_acceptEthernetFrame, ← Reads.run_acceptEthernetFrame]
  exact below.run_eq agree

/-- A datagram with the longest header whose packet starts in the last 14 of 82 bytes; an
earlier frame has left the rest of it in the buffer. -/
def longHeaderFrame : Memory := fun index =>
  if index < 68 then ([(0, 0x4F), (9, 17), (62, 0x13), (63, 0xEC), (65, 48)].lookup index).getD 0
  else if index < 68 + hpscPacketSize then quarterPacket (index - 68) else 0

/-- What an earlier frame left in the buffer is read, and it decides what becomes of the frame. -/
theorem stale_bytes_decide :
    (¬ ∀ (frame : Memory) (length : UInt16) (nowMs : UInt32) (s : State F32),
      ∀ place ∈ (Reads.acceptEthernetFrame length nowMs s).places frame, place < length.toNat) ∧
    ¬ ∀ (frame other : Memory) (length : UInt16) (nowMs : UInt32) (s : State F32),
      (∀ place < length.toNat, other place = frame place) →
      (acceptEthernetFrame (some other) length nowMs s).1 = (acceptEthernetFrame (some frame) length nowMs s).1 := by
  constructor
  · intro inside
    have overruns : ¬ ∀ place ∈ (Reads.acceptEthernetFrame 82 0 (init 0 : State F32)).places longHeaderFrame,
        place < 82 := by
      decide +kernel
    exact overruns (inside longHeaderFrame 82 0 (init 0))
  · intro same
    let cut : Memory := fun index => if index < 82 then longHeaderFrame index else 0
    have agree (place : Nat) (inside : place < 82) : longHeaderFrame place = cut place := (if_pos inside).symm
    have taken : (acceptEthernetFrame (some longHeaderFrame) 82 0 (init 0 : State F32)).1 = true := by decide +kernel
    have refused : (acceptEthernetFrame (some cut) 82 0 (init 0 : State F32)).1 = false := by decide +kernel
    have verdict := same cut longHeaderFrame 82 0 (init 0) agree
    rw [taken, refused] at verdict
    cases verdict

end SelfDriving.Front
