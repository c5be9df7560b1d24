import SelfDriving.Foundations.Bytes
import SelfDriving.Foundations.Crc32
import SelfDriving.Foundations.Python

/-! The perception packet that the MIDDLE controller sends to the HPVC, and its
decoder. A packet is a header, single-precision values and a CRC; version 2 adds
the detected persons to the values of version 1. -/
namespace SelfDriving.Middle
open Ieee754 Python Bytes

def magic : List UInt8 := [0x4D, 0x49, 0x44, 0x32]
/-- Packets of this version carry no persons. -/
def legacyVersion : Nat := 1
def version : Nat := 2
def basePayloadFloatCount : Nat := 12
def maxPersonDetections : Nat := 3
def personDetectionFloatCount : Nat := 6
/-- The values of version 2: those of version 1, the count of persons, and each person. -/
def payloadFloatCount : Nat := basePayloadFloatCount + 1 + maxPersonDetections * personDetectionFloatCount

def headerSize : Nat := 28
def legacyPacketSize : Nat := headerSize + 4 * basePayloadFloatCount + 4
/-- The header, the values and the CRC. -/
def packetSize : Nat := headerSize + 4 * payloadFloatCount + 4

/-- A lane boundary as a clothoid beside the vehicle, with how strongly it was seen. -/
structure LaneBoundary where
  curvature1pm : F64
  curvatureDerivative1pm2 : F64
  headingRad : F64
  lateralOffsetM : F64
  strength : F64
  deriving DecidableEq

/-- The values of a lane in the order of the payload. -/
def LaneBoundary.values (lane : LaneBoundary) : List F64 :=
  [lane.curvature1pm, lane.curvatureDerivative1pm2, lane.headingRad, lane.lateralOffsetM, lane.strength]

/-- A person in the picture; positions and sizes are fractions of it. -/
structure PersonDetection where
  valid : F64
  confidence : F64
  centerXNorm : F64
  centerYNorm : F64
  widthNorm : F64
  heightNorm : F64
  deriving DecidableEq

/-- The values of a person in the order of the payload. -/
def PersonDetection.values (person : PersonDetection) : List F64 :=
  [person.valid, person.confidence, person.centerXNorm, person.centerYNorm, person.widthNorm, person.heightNorm]

/-- What one packet says. The numbers are those of Python, of any size. -/
structure PerceptionPacket where
  sequence : Int
  frameTimestampUs : Int
  ultrasonicTimestampUs : Int
  flags : Int
  left : LaneBoundary
  right : LaneBoundary
  sideLeftDistanceM : F64
  sideRightDistanceM : F64
  personCount : Int
  persons : List PersonDetection
  deriving DecidableEq

/-- The single-precision value at a place of the payload. -/
def payloadValue (data : List UInt8) (index : Nat) : F64 :=
  singleAt data (headerSize + 4 * index)

/-- The lane whose values start at a place of the payload. -/
def laneBoundary (data : List UInt8) (index : Nat) : LaneBoundary where
  curvature1pm := payloadValue data index
  curvatureDerivative1pm2 := payloadValue data (index + 1)
  headingRad := payloadValue data (index + 2)
  lateralOffsetM := payloadValue data (index + 3)
  strength := payloadValue data (index + 4)

/-- The person of a slot. -/
def personDetection (data : List UInt8) (person : Nat) : PersonDetection :=
  let index := basePayloadFloatCount + 1 + person * personDetectionFloatCount
  { valid := payloadValue data index
    confidence := payloadValue data (index + 1)
    centerXNorm := payloadValue data (index + 2)
    centerYNorm := payloadValue data (index + 3)
    widthNorm := payloadValue data (index + 4)
    heightNorm := payloadValue data (index + 5) }

/-- The fields of a packet whose checks have passed. -/
def packetFields (data : List UInt8) (personCount : Int) (persons : List PersonDetection) :
    PerceptionPacket where
  sequence := leField data 8 4
  frameTimestampUs := leField data 12 8
  ultrasonicTimestampUs := leField data 20 8
  flags := leField data 5 1
  left := laneBoundary data 0
  right := laneBoundary data 5
  sideLeftDistanceM := payloadValue data 10
  sideRightDistanceM := payloadValue data 11
  personCount := personCount
  persons := persons

/-- The checks of a packet: its version, or the error they raise. -/
def checkPacket (data : List UInt8) : Except PyError Nat :=
  let body := data.take (data.length - 4)
  let receivedCrc := leField data (data.length - 4) 4
  let calculatedCrc := (Crc32.crc32 body).toNat
  let packetMagic := field data 0 4
  let packetVersion := leField data 4 1
  let count := leField data 6 2
  if data.length ≠ packetSize && data.length ≠ legacyPacketSize then
    .error (.valueError ("Expected " ++ toString packetSize ++ " bytes or legacy " ++
      toString legacyPacketSize ++ " bytes, received " ++ toString data.length))
  else if receivedCrc ≠ calculatedCrc then .error (.valueError "CRC mismatch")
  else if packetMagic ≠ magic then .error (.valueError ("Unexpected magic: " ++ reprBytes packetMagic))
  else if packetVersion ≠ version && packetVersion ≠ legacyVersion then
    .error (.valueError ("Unsupported protocol version: " ++ toString packetVersion))
  else
    let expectedCount := if packetVersion = version then payloadFloatCount else basePayloadFloatCount
    let expectedSize := if packetVersion = version then packetSize else legacyPacketSize
    if data.length ≠ expectedSize then
      .error (.valueError ("Expected " ++ toString expectedSize ++ " bytes for protocol v" ++
        toString packetVersion ++ ", received " ++ toString data.length))
    else if count ≠ expectedCount then
      .error (.valueError ("Unexpected payload float count: " ++ toString count))
    else .ok packetVersion

/-- The packet of a datagram, or the error that unpacking raises. -/
def unpackPacket (data : List UInt8) : Except PyError PerceptionPacket :=
  match checkPacket data with
  | .error error => .error error
  | .ok packetVersion =>
    if packetVersion = version then
      match int (payloadValue data basePayloadFloatCount) with
      | .error error => .error error
      | .ok count =>
        .ok (packetFields data (Max.max 0 (Min.min (maxPersonDetections : Int) count))
          ((List.range maxPersonDetections).map (personDetection data)))
    else .ok (packetFields data 0 [])

end SelfDriving.Middle
