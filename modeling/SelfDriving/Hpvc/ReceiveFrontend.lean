import SelfDriving.Foundations.Crc32
import SelfDriving.Foundations.Floating
import SelfDriving.Foundations.Machine
import SelfDriving.Foundations.Matlab

/-! The receive frontend of the HPVC model: it decodes a MIDDLE packet, holds its
values, and lets the link monitor judge from local time whether the link is
alive. Time is the local clock's; the timeout is a constant of the model. -/
namespace SelfDriving.Hpvc
open Ieee754

/-! ### Decoding -/

/-- A byte at an index that counts from one. -/
def byteAt (bytes : List UInt8) (index : Nat) : UInt8 := bytes.getD (index - 1) 0

/-- The reads of the decoder, all of them little-endian. -/
def readU16 (bytes : List UInt8) (startIndex : Nat) : UInt16 :=
  (byteAt bytes startIndex).toUInt16 ||| (byteAt bytes (startIndex + 1)).toUInt16 <<< 8

def readU32 (bytes : List UInt8) (startIndex : Nat) : UInt32 :=
  (byteAt bytes startIndex).toUInt32 ||| (byteAt bytes (startIndex + 1)).toUInt32 <<< 8 |||
    (byteAt bytes (startIndex + 2)).toUInt32 <<< 16 ||| (byteAt bytes (startIndex + 3)).toUInt32 <<< 24

def readU64 (bytes : List UInt8) (startIndex : Nat) : UInt64 :=
  (readU32 bytes startIndex).toUInt64 ||| (readU32 bytes (startIndex + 4)).toUInt64 <<< 32

def readSingle (bytes : List UInt8) (startIndex : Nat) : F32 :=
  Ieee.ofBits (readU32 bytes startIndex).toNat

def calculateCrc32 (bytes : List UInt8) : UInt32 := Crc32.crc32 bytes

/-- What the decoder returns. -/
structure MiddlePacket where
  laneFeatures : List F32
  sideDistances : List F32
  flags : UInt8
  sequence : UInt32
  frameTimestampUs : UInt64
  ultrasonicTimestampUs : UInt64
  packetValid : Bool
  personDetections : List (List F32)
  personCount : UInt8
  deriving DecidableEq

/-- The outputs for a packet that is not valid. -/
def noPacket : MiddlePacket where
  laneFeatures := List.replicate 10 (0.0 : F32)
  sideDistances := [Ieee.nan, Ieee.nan]
  flags := 0
  sequence := 0
  frameTimestampUs := 0
  ultrasonicTimestampUs := 0
  packetValid := false
  personDetections := List.replicate 3 (List.replicate 6 (0.0 : F32))
  personCount := 0

/-- The length and the count of values of a packet version. -/
def expectedLayout (version : UInt8) : Option (Nat × UInt16) :=
  if version = 1 then some (80, 12) else if version = 2 then some (156, 31) else none

/-- The count of persons, rounded down and clamped to three. -/
def countPersons (payload : F32) : UInt8 :=
  if payload.isNaN || payload.neg then 0 else UInt8.ofNat (min ⌊payload.absVal⌋₊ 3)

/-- A datagram is a packet when its length, magic number, version, count of values and checksum agree. -/
def middleDecodePacket (data : List UInt8) (receiveStatus : Bool) : MiddlePacket :=
  if !receiveStatus || !(data.length = 80 || data.length = 156) then noPacket
  else
    let magicValid := byteAt data 1 = 77 && byteAt data 2 = 73 && byteAt data 3 = 68 && byteAt data 4 = 50
    let version := byteAt data 5
    match expectedLayout version with
    | none => noPacket
    | some (expectedLength, expectedFloatCount) =>
      if data.length ≠ expectedLength then noPacket
      else
        let payloadCountValid := readU16 data 7 = expectedFloatCount
        let receivedCrc := readU32 data (data.length - 3)
        let calculatedCrc := calculateCrc32 (data.take (data.length - 4))
        if !(magicValid && payloadCountValid && receivedCrc = calculatedCrc) then noPacket
        else
          let payload := fun k => readSingle data (29 + (k - 1) * 4)
          let persons := fun index => (List.range 6).map fun field => payload (14 + index * 6 + field)
          { laneFeatures := (List.range 10).map fun k => payload (k + 1)
            sideDistances := [payload 11, payload 12]
            flags := byteAt data 6
            sequence := readU32 data 9
            frameTimestampUs := readU64 data 13
            ultrasonicTimestampUs := readU64 data 21
            packetValid := true
            personDetections := if version = 2 then (List.range 3).map persons else noPacket.personDetections
            personCount := if version = 2 then countPersons (payload 13) else 0 }

/-! ### The link monitor -/

/-- The persistent variables of the monitor. -/
structure LinkMonitor where
  initialized : Bool
  lastSequence : UInt32
  lastFreshTimeS : F64
  deriving DecidableEq

/-- Newer in the half range of the numbers. -/
def isSequenceNewer (candidate reference : UInt32) : Bool :=
  let modulus : Nat := 4294967296
  let difference := (candidate.toNat + modulus - reference.toNat) % modulus
  0 < difference && difference < 2147483648

/-- The monitor at the start of a call; it is empty before the first. -/
def startMonitor (currentTimeS : F64) (reset : Bool) (monitor : Option LinkMonitor) : LinkMonitor :=
  match monitor with
  | some monitor => if reset then ⟨false, 0, currentTimeS⟩ else monitor
  | none => ⟨false, 0, currentTimeS⟩

/-- A valid packet counts as fresh: the first one, a newer one, or another one
after an outage so long that the sender must have restarted. -/
def acceptsSequence (currentTimeS timeoutS : F64) (sequence : UInt32) (monitor : LinkMonitor) : Bool :=
  let staleTimeS := Matlab.elapsed currentTimeS monitor.lastFreshTimeS
  let restartResyncS := Matlab.max (1.0 : F64) ((5.0 : F64) * timeoutS)
  let senderRestarted := monitor.initialized && sequence != monitor.lastSequence && restartResyncS ≤ staleTimeS
  !monitor.initialized || isSequenceNewer sequence monitor.lastSequence || senderRestarted

/-- The link is alive: a packet was fresh no longer ago than the timeout. -/
def linkAlive (currentTimeS timeoutS : F64) (monitor : LinkMonitor) : Bool :=
  monitor.initialized && Matlab.elapsed currentTimeS monitor.lastFreshTimeS ≤ timeoutS

/-- What the monitor tells about the link. -/
structure LinkStatus where
  linkValid : Bool
  packetAgeS : F64
  sequenceFresh : Bool

/-- One sample of the monitor. -/
def middleLinkMonitor (currentTimeS : F64) (packetValid : Bool) (sequence : UInt32) (timeoutS : F64)
    (reset : Bool) (monitor : Option LinkMonitor) : LinkMonitor × LinkStatus :=
  let monitor := startMonitor currentTimeS reset monitor
  let sequenceFresh := packetValid && acceptsSequence currentTimeS timeoutS sequence monitor
  let monitor := if sequenceFresh then ⟨true, sequence, currentTimeS⟩ else monitor
  (monitor, ⟨linkAlive currentTimeS timeoutS monitor, Matlab.elapsed currentTimeS monitor.lastFreshTimeS,
    sequenceFresh⟩)

/-! ### The frontend -/

/-- The values that are held between packets. -/
structure Held where
  lane : List F32
  side : List F32
  flags : UInt8
  sequence : UInt32
  deriving DecidableEq

/-- The persistent variables of the chart. -/
structure Frontend where
  held : Held
  monitor : Option LinkMonitor
  deriving DecidableEq

/-- What the receive block and the local clock give in one sample. -/
structure Sample where
  data : List UInt8
  receiveStatus : Bool
  localTimeS : F64

/-- The outputs of the chart. -/
structure FrontendOutput where
  lane : List F32
  ultrasonic : List F32
  controlValid : Bool
  sequence : UInt32
  ageS : F64
  flags : UInt8
  packetValid : Bool
  linkValid : Bool

/-- Nothing held, and no monitor yet. -/
def frontendStart : Frontend := ⟨⟨List.replicate 10 (0.0 : F32), [Ieee.nan, Ieee.nan], 0, 0⟩, none⟩

def MiddlePacket.held (packet : MiddlePacket) : Held :=
  ⟨packet.laneFeatures, packet.sideDistances, packet.flags, packet.sequence⟩

/-- The flags say that camera and lanes are valid. -/
def Held.controls (held : Held) : Bool := held.flags &&& 1 ≠ 0 && held.flags &&& 2 ≠ 0

/-- The frontend; the link status stands beside its outputs. -/
def frontend (timeoutS : F64) : Machine Frontend Sample (FrontendOutput × LinkStatus) where
  step s sample :=
    let packet := middleDecodePacket sample.data sample.receiveStatus
    let held := if packet.packetValid then packet.held else s.held
    let (monitor, link) :=
      middleLinkMonitor sample.localTimeS packet.packetValid packet.sequence timeoutS false s.monitor
    (⟨held, some monitor⟩,
      { lane := held.lane
        ultrasonic := [Ieee.nan, Ieee.nan, held.side.getD 0 Ieee.nan, held.side.getD 1 Ieee.nan, Ieee.nan, Ieee.nan]
        controlValid := link.linkValid && held.controls
        sequence := held.sequence
        ageS := link.packetAgeS
        flags := held.flags
        packetValid := packet.packetValid
        linkValid := link.linkValid }, link)

end SelfDriving.Hpvc
