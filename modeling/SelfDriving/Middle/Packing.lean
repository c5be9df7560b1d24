import SelfDriving.Middle.Protocol

/-! How perception packets are made. The MIDDLE controller has two copies of the
module that makes them: its own, and the one that runs on the perception computer,
which differs in its magic number only. Everything else of the two is one text. -/
namespace SelfDriving.Middle
open Ieee754 Python Bytes

/-- What is not finite counts as the minimum. -/
def finiteClamp (value minimum maximum : F64) : F64 :=
  if !value.isFinite then minimum else Python.max minimum (Python.min maximum value)

/-- A person as it is sent: there or not, and within the picture. -/
def sanitizePerson (person : PersonDetection) : PersonDetection where
  valid := if (0.5 : F64) ≤ person.valid then 1.0 else 0.0
  confidence := finiteClamp person.confidence 0.0 1.0
  centerXNorm := finiteClamp person.centerXNorm 0.0 1.0
  centerYNorm := finiteClamp person.centerYNorm 0.0 1.0
  widthNorm := finiteClamp person.widthNorm 0.0 1.0
  heightNorm := finiteClamp person.heightNorm 0.0 1.0

/-- A person slot without a detection. -/
def noPerson : PersonDetection := ⟨0.0, 0.0, 0.0, 0.0, 0.0, 0.0⟩

/-- The floats of a packet, with empty places for the persons that there are not. -/
def payloadValues (packet : PerceptionPacket) : List F64 :=
  let persons := packet.persons.take maxPersonDetections
  let detectedCount := persons.countP fun person => (0.5 : F64) ≤ person.valid
  let personCount : Int := if packet.personCount ≠ 0 then packet.personCount else detectedCount
  let personCount := Max.max 0 (Min.min (maxPersonDetections : Int) personCount)
  let slots := (List.range maxPersonDetections).map fun index => (persons[index]?.map sanitizePerson).getD noPerson
  packet.left.values ++ packet.right.values ++ [packet.sideLeftDistanceM, packet.sideRightDistanceM] ++
    Ieee.ofInt personCount :: slots.flatMap PersonDetection.values

/-- Single-precision values one after another. -/
def packValues : List F64 → Except PyError (List UInt8)
  | [] => .ok []
  | value :: rest =>
    match packSingle value with
    | .error error => .error error
    | .ok single =>
      match packValues rest with
      | .error error => .error error
      | .ok bytes => .ok (singleBytes single ++ bytes)

/-- The lowest `width` bytes of an integer. -/
def maskedBytes (width : Nat) (value : Int) : List UInt8 := leBytes width (value % 256 ^ width).toNat

/-- The header; what does not fit a field is masked. -/
def packHeader (magic : List UInt8) (packet : PerceptionPacket) : List UInt8 :=
  magic ++ leBytes 1 version ++ maskedBytes 1 packet.flags ++ leBytes 2 payloadFloatCount ++
    maskedBytes 4 packet.sequence ++ maskedBytes 8 packet.frameTimestampUs ++
    maskedBytes 8 packet.ultrasonicTimestampUs

/-- A packet under a magic number. -/
def packWith (magic : List UInt8) (packet : PerceptionPacket) : Except PyError (List UInt8) :=
  match packValues (payloadValues packet) with
  | .error error => .error error
  | .ok values =>
    let body := packHeader magic packet ++ values
    .ok (body ++ leBytes 4 (Crc32.crc32 body).toNat)

def packPacket (packet : PerceptionPacket) : Except PyError (List UInt8) := packWith magic packet

namespace Rpi2

/-- The magic number of the perception computer's copy. -/
def magic : List UInt8 := [0x52, 0x50, 0x32, 0x4C]

def packPacket (packet : PerceptionPacket) : Except PyError (List UInt8) := packWith magic packet

end Rpi2
end SelfDriving.Middle
