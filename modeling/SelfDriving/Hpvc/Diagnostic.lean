import SelfDriving.Middle.Packing

/-! The diagnostic packets of the HPVC: two programs build them, a receiver decodes them and
can send them back, and a probe waits for its own packet to come back. -/
namespace SelfDriving.Hpvc.Diagnostic
open Ieee754 Python Bytes Middle

def packetSize : Nat := 40

/-- What a packet is built from. -/
structure Arguments where
  packetValid : Bool
  linkValid : Bool
  controlValid : Bool
  rpi2Flags : Int
  sequence : Int
  packetAgeS : F64
  steeringRad : F64
  rpi1TimeS : F64

/-- The three flags in one byte. -/
def status (args : Arguments) : UInt8 :=
  args.packetValid.toUInt8 ||| args.linkValid.toUInt8 <<< 1 ||| args.controlValid.toUInt8 <<< 2

/-- The eight bytes of `struct`'s format `d`. -/
def doubleBytes (x : F64) : List UInt8 := leBytes 8 x.toBits

/-- The double-precision number at an offset of a byte string. -/
def doubleAt (data : List UInt8) (offset : Nat) : F64 := Ieee.ofBits (leField data offset 8)

/-- The bytes before the CRC; those that are not written are zero. -/
def diagnosticBody (magic : List UInt8) (version headerSize : UInt8) (args : Arguments) (steering : F32) : List UInt8 :=
  magic ++ [version, status args] ++ maskedBytes 1 args.rpi2Flags ++ [headerSize] ++ maskedBytes 4 args.sequence ++
    doubleBytes args.packetAgeS ++ singleBytes steering ++ doubleBytes args.rpi1TimeS ++ [0, 0, 0, 0]

/-- The packet under a magic number, or the error of an angle that does not fit. -/
def diagnosticPacket (magic : List UInt8) (version headerSize : UInt8) (args : Arguments) : Except PyError (List UInt8) :=
  match packSingle args.steeringRad with
  | .error error => .error error
  | .ok steering =>
    let body := diagnosticBody magic version headerSize args steering
    .ok (body ++ leBytes 4 (Crc32.crc32 body).toNat)

/-! ### The receiver -/

/-- The constants of the encoder of the receiver. -/
def magic : List UInt8 := [0x52, 0x31, 0x44, 0x47]
def version : UInt8 := 1
def headerSize : UInt8 := 32

def encodePacket (args : Arguments) : Except PyError (List UInt8) := diagnosticPacket magic version headerSize args

/-- The magic number that the decoder compares with. -/
def decodedMagic : List UInt8 := [0x48, 0x50, 0x44, 0x47]

/-- What a packet is decoded to. -/
structure Values where
  packetValid : Bool
  linkValid : Bool
  controlValid : Bool
  middleFlags : Nat
  sequence : Nat
  packetAgeS : F64
  steeringRad : F64
  hpvcTimeS : F64

/-- A packet is checked from its length to its checksum. -/
def decodePacket (data : List UInt8) : Except PyError Values :=
  if data.length ≠ packetSize then
    .error (.valueError ("expected " ++ toString packetSize ++ " bytes, received " ++ toString data.length))
  else if field data 0 4 ≠ decodedMagic || data.getD 4 0 ≠ 1 then
    .error (.valueError "invalid diagnostic magic or version")
  else if leField data 36 4 ≠ (Crc32.crc32 (data.take 36)).toNat then .error (.valueError "diagnostic CRC mismatch")
  else
    let status := data.getD 5 0
    .ok
      { packetValid := status &&& 0x01 ≠ 0
        linkValid := status &&& 0x02 ≠ 0
        controlValid := status &&& 0x04 ≠ 0
        middleFlags := leField data 6 1
        sequence := leField data 8 4
        packetAgeS := doubleAt data 12
        steeringRad := singleAt data 20
        hpvcTimeS := doubleAt data 24 }

/-- What the receiver sends back for a datagram; `sends` is whether the socket takes it. -/
def echo (echoBack sends : Bool) (data : List UInt8) : Option (List UInt8) :=
  match decodePacket data with
  | .error _ => none
  | .ok _ => if echoBack && sends then some data else none

/-! ### The probe -/

/-- The constants of the encoder of the lane change test. -/
def diagMagic : List UInt8 := [0x52, 0x31, 0x44, 0x47]
def diagVersion : UInt8 := 1
def diagHeaderSize : UInt8 := 32

def packDiagnostic (args : Arguments) : Except PyError (List UInt8) :=
  diagnosticPacket diagMagic diagVersion diagHeaderSize args

/-- What the clock shows in the course of a probe; the first reading is in milliseconds. -/
structure ProbeClock where
  sequenceMs : Int
  packetS : F64
  startedS : F64
  endedS : F64

/-- A reply that the probe takes for its own packet. -/
def replyFits (sequence : Int) (reply : List UInt8) : Bool :=
  reply.length = packetSize && field reply 0 4 = diagMagic && reply.getD 4 0 = diagVersion &&
    leField reply 36 4 = (Crc32.crc32 (reply.take 36)).toNat && (leField reply 8 4 : Int) = sequence

/-- Whether the probe succeeds, with the time in milliseconds; `answer` is what comes back for a
datagram before the timeout. -/
def probeDiagnosticRoundtrip (packetValid linkValid controlValid : Bool) (rpi2Flags : Int) (steeringRad : F64)
    (clock : ProbeClock) (answer : List UInt8 → Option (List UInt8)) : Except PyError (Bool × Option F64) :=
  let sequence := clock.sequenceMs % 2 ^ 32
  match packDiagnostic
    ⟨packetValid, linkValid, controlValid, rpi2Flags, sequence, 0.0, steeringRad, clock.packetS⟩ with
  | .error error => .error error
  | .ok packet =>
    match answer packet with
    | none => .ok (false, none)
    | some reply =>
      if replyFits sequence reply then .ok (true, some ((clock.endedS - clock.startedS) * (1000.0 : F64)))
      else .ok (false, none)

end SelfDriving.Hpvc.Diagnostic
