import SelfDriving.Foundations.Bytes
import SelfDriving.Foundations.InternetChecksum
import SelfDriving.Front.SensorNode

/-! The Ethernet frame in which the sensor node sends its readings, byte by byte, and what
makes it a well-formed one. -/
namespace SelfDriving.Front
open Bytes InternetChecksum

/-- The sizes of the headers and of the payload, and the ports. -/
def ipv4HeaderSize : UInt16 := 20
def udpHeaderSize : UInt16 := 8
def payloadSize : UInt16 := 22
def ethSrcPort : UInt16 := 5011
def ethDstPort : UInt16 := 5011

/-- The frame goes to everybody on the link. -/
def dstMac : List UInt8 := [0xFF, 0xFF, 0xFF, 0xFF, 0xFF, 0xFF]
def srcMac : List UInt8 := [0x02, 0x37, 0x50, 0xAE, 0xB0, 0x01]
def srcIp : List UInt8 := [192, 168, 10, 11]
def dstIp : List UInt8 := [192, 168, 10, 1]

/-- Headers are written big-endian, the payload little-endian. -/
def put16be (value : UInt16) : List UInt8 := [(value >>> 8).toUInt8, value.toUInt8]

def put16le (value : UInt16) : List UInt8 := [value.toUInt8, (value >>> 8).toUInt8]

def put32le (value : UInt32) : List UInt8 :=
  [value.toUInt8, (value >>> 8).toUInt8, (value >>> 16).toUInt8, (value >>> 24).toUInt8]

/-- The sum of at most 32767 words fits 32 bits, so it is a natural number here. -/
def checksum16 (data : List UInt8) : UInt16 := ~~~(UInt16.ofNat (onesSum data))

/-- What the IP header counts: all but the Ethernet header. -/
def ipTotalLength : UInt16 := ipv4HeaderSize + udpHeaderSize + payloadSize

/-- The IP header up to its checksum. -/
def ipHeaderStart (frame : Frame) : List UInt8 :=
  [0x45, 0x00] ++ put16be ipTotalLength ++ put16be frame.sequence.toUInt16 ++ put16be 0 ++ [64, 17]

/-- The IP header with a checksum in its place. -/
def ipHeader (frame : Frame) (checksum : UInt16) : List UInt8 :=
  ipHeaderStart frame ++ put16be checksum ++ (srcIp ++ dstIp)

/-- The UDP header; its checksum is left out, which IPv4 allows. -/
def udpHeader : List UInt8 :=
  put16be ethSrcPort ++ put16be ethDstPort ++ put16be (udpHeaderSize + payloadSize) ++ put16be 0

/-- The payload: the distances in millimetres behind the magic, the mask, the diagnosis and the times. -/
def sensorPayload (frame : Frame) : List UInt8 :=
  [0x41, 0x45, 0x42, 0x31, 1, frame.validMask] ++ put16le frame.tofDiag ++ put32le frame.sequence ++
    put32le frame.timestampMs ++ put16le frame.tofFrontCmX10 ++ put16le frame.ultrasonicLeftCmX10 ++
    put16le frame.ultrasonicRightCmX10

/-- The bytes that are sent. The checksum is taken while its own field is still zero. -/
def buildPacket (frame : Frame) : List UInt8 :=
  dstMac ++ srcMac ++ [0x08, 0x00] ++ ipHeader frame (checksum16 (ipHeader frame 0)) ++ udpHeader ++
    sensorPayload frame

/-- The number in two bytes, most significant first. -/
def beField16 (data : List UInt8) (offset : Nat) : Nat :=
  (data.getD offset 0).toNat * 256 + (data.getD (offset + 1) 0).toNat

/-- An Ethernet frame that holds one UDP datagram in one IPv4 packet without options. -/
structure WellFormedUdp (data : List UInt8) : Prop where
  etherType : beField16 data 12 = 0x0800
  version : (data.getD 14 0).toNat / 16 = 4
  headerWords : (data.getD 14 0).toNat % 16 = 5
  totalLength : data.length = 14 + beField16 data 16
  unfragmented : beField16 data 20 = 0
  protocol : data.getD 23 0 = 17
  headerSum : onesSum (field data 14 20) = 0xFFFF
  udpLength : beField16 data 16 = 20 + beField16 data 38

/-- The payload of the datagram. -/
def udpPayload (data : List UInt8) : List UInt8 := data.drop 42

/-! ### What the bytes say -/

theorem high_toNat (value : UInt16) : (value >>> 8).toUInt8.toNat = value.toNat / 256 := by
  have bound := value.toNat_lt
  rw [UInt16.toNat_toUInt8, UInt16.toNat_shiftRight, Nat.shiftRight_eq_div_pow]
  change value.toNat / 256 % 256 = _
  omega

theorem put16be_toNat (value : UInt16) :
    (value >>> 8).toUInt8.toNat * 256 + value.toUInt8.toNat = value.toNat := by
  rw [high_toNat, UInt16.toNat_toUInt8]
  omega

theorem put16le_eq (value : UInt16) : put16le value = leBytes 2 value.toNat := by
  have low : value.toUInt8 = UInt8.ofNat value.toNat := by
    rw [← UInt8.toNat_inj, UInt16.toNat_toUInt8, UInt8.toNat_ofNat']
  have high : (value >>> 8).toUInt8 = UInt8.ofNat (value.toNat / 256) := by
    have bound := value.toNat_lt
    rw [← UInt8.toNat_inj, high_toNat, UInt8.toNat_ofNat']
    omega
  rw [put16le, low, high]
  rfl

theorem put32le_eq (value : UInt32) : put32le value = leBytes 4 value.toNat := by
  have byte (shift : UInt32) : (value >>> shift).toUInt8 = UInt8.ofNat (value.toNat / 2 ^ (shift.toNat % 32)) := by
    rw [← UInt8.toNat_inj, UInt32.toNat_toUInt8, UInt32.toNat_shiftRight, Nat.shiftRight_eq_div_pow,
      UInt8.toNat_ofNat']
  have low : value.toUInt8 = UInt8.ofNat value.toNat := by
    rw [← UInt8.toNat_inj, UInt32.toNat_toUInt8, UInt8.toNat_ofNat']
  rw [put32le, low, byte, byte, byte]
  simp only [leBytes, Nat.div_div_eq_div_mul]
  rfl

theorem checksum16_toNat (data : List UInt8) : (checksum16 data).toNat = 65535 - onesSum data := by
  have bound := fold_lt (wordSum data)
  rw [checksum16, UInt16.toNat_not, UInt16.toNat_ofNat', onesSum, Nat.mod_eq_of_lt bound]
  rfl

/-- The sum over the finished IP header is all ones, whatever the sequence number. -/
theorem onesSum_ipHeader (frame : Frame) :
    onesSum (ipHeader frame (checksum16 (ipHeader frame 0))) = 0xFFFF := by
  have cleared : ipHeader frame 0 = ipHeaderStart frame ++ [0, 0] ++ (srcIp ++ dstIp) := rfl
  have length : (ipHeaderStart frame).length = 10 := rfl
  apply onesSum_with_checksum (by rw [length])
  rw [put16be_toNat, checksum16_toNat, cleared]

theorem length_buildPacket (frame : Frame) : (buildPacket frame).length = 64 := rfl

/-- What the node sends is one UDP datagram over IPv4, with a right header checksum. -/
theorem buildPacket_wellFormed (frame : Frame) : WellFormedUdp (buildPacket frame) := by
  have etherType : (buildPacket frame).getD 12 0 = 8 ∧ (buildPacket frame).getD 13 0 = 0 := ⟨rfl, rfl⟩
  have first : (buildPacket frame).getD 14 0 = 0x45 := rfl
  have total : (buildPacket frame).getD 16 0 = 0 ∧ (buildPacket frame).getD 17 0 = 50 := ⟨rfl, rfl⟩
  have offset : (buildPacket frame).getD 20 0 = 0 ∧ (buildPacket frame).getD 21 0 = 0 := ⟨rfl, rfl⟩
  have udp : (buildPacket frame).getD 38 0 = 0 ∧ (buildPacket frame).getD 39 0 = 30 := ⟨rfl, rfl⟩
  constructor
  · rw [beField16, etherType.1, etherType.2]
    rfl
  · rw [first]
    rfl
  · rw [first]
    rfl
  · rw [length_buildPacket, beField16, total.1, total.2]
    rfl
  · rw [beField16, offset.1, offset.2]
    rfl
  · rfl
  · exact onesSum_ipHeader frame
  · rw [beField16, beField16, total.1, total.2, udp.1, udp.2]
    rfl

theorem udpPayload_buildPacket (frame : Frame) : udpPayload (buildPacket frame) = sensorPayload frame := rfl

/-! ### The fields of the payload -/

theorem length_sensorPayload (frame : Frame) : (sensorPayload frame).length = 22 := rfl

theorem sensorPayload_fields (frame : Frame) :
    leField (sensorPayload frame) 6 2 = frame.tofDiag.toNat ∧
    leField (sensorPayload frame) 8 4 = frame.sequence.toNat ∧
    leField (sensorPayload frame) 12 4 = frame.timestampMs.toNat ∧
    leField (sensorPayload frame) 16 2 = frame.tofFrontCmX10.toNat ∧
    leField (sensorPayload frame) 18 2 = frame.ultrasonicLeftCmX10.toNat ∧
    leField (sensorPayload frame) 20 2 = frame.ultrasonicRightCmX10.toNat := by
  have word (value : UInt16) : leNat (put16le value) = value.toNat := by
    rw [put16le_eq, leNat_leBytes value.toNat_lt]
  have long (value : UInt32) : leNat (put32le value) = value.toNat := by
    rw [put32le_eq, leNat_leBytes value.toNat_lt]
  exact ⟨word _, long _, long _, word _, word _, word _⟩

end SelfDriving.Front
