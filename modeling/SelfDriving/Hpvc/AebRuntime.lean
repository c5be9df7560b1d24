import SelfDriving.Foundations.SerialNumber
import SelfDriving.Hpvc.AebController

/-! The receive loop of the emergency braking program: it decodes what arrives on
its two ports, keeps the latest frame of each, and decides from them. Only a
value error of a decoder is caught; any other exception ends the program. -/
namespace SelfDriving.Hpvc
open Ieee754 Middle Python Bytes

/-- The packets of FRONT: one with a magic number, and two older layouts told apart by their lengths. -/
def frontMagic : List UInt8 := [0x41, 0x45, 0x42, 0x31]
def frontAeb1Size : Nat := 22
def frontLegacyV1Size : Nat := 15
def frontLegacyV2Size : Nat := 24

/-- Distances come in millimetres. -/
def cmX10ToM (value : Nat) : F64 := Ieee.ofInt value / (1000.0 : F64)

/-- A packet with the magic number; too short a one is refused. -/
def decodeFrontAeb1 (data : List UInt8) (arrivalTime : F64) : Except PyError FrontSensorFrame :=
  if data.length < frontAeb1Size then
    .error (.valueError ("short AEB1 front packet: " ++ toString data.length ++ " bytes"))
  else if field data 0 4 ≠ frontMagic || leField data 4 1 ≠ 1 then
    .error (.valueError "invalid AEB1 front packet")
  else .ok
    { sequence := leField data 8 4
      timestampMs := leField data 12 4
      arrivalTime := arrivalTime
      validMask := leField data 5 1
      tofDiag := leField data 6 2
      tofFrontM := cmX10ToM (leField data 16 2)
      ultrasonicLeftM := cmX10ToM (leField data 18 2)
      ultrasonicRightM := cmX10ToM (leField data 20 2) }

/-- The older layouts, the longer one first. -/
def decodeFrontLegacy (data : List UInt8) (arrivalTime : F64) : Except PyError FrontSensorFrame :=
  if data.length ≥ frontLegacyV2Size then .ok
    { sequence := leField data 23 1
      timestampMs := 0
      arrivalTime := arrivalTime
      validMask := leField data 21 1
      tofDiag := leField data 22 1
      tofFrontM := singleAt data 8
      ultrasonicLeftM := singleAt data 0
      ultrasonicRightM := singleAt data 4 }
  else if data.length ≥ frontLegacyV1Size then .ok
    { sequence := leField data 14 1
      timestampMs := 0
      arrivalTime := arrivalTime
      validMask := leField data 12 1
      tofDiag := leField data 13 1
      tofFrontM := singleAt data 8
      ultrasonicLeftM := singleAt data 0
      ultrasonicRightM := singleAt data 4 }
  else .error (.valueError ("short front packet: " ++ toString data.length ++ " bytes"))

/-- The magic number decides which layout is read. -/
def decodeFrontPacket (data : List UInt8) (arrivalTime : F64) : Except PyError FrontSensorFrame :=
  if data.length ≥ 4 && field data 0 4 = frontMagic then decodeFrontAeb1 data arrivalTime
  else decodeFrontLegacy data arrivalTime

/-- What the decision needs of a perception packet. -/
def middleFromPerception (packet : PerceptionPacket) (arrivalTime : F64) : MiddleFrame where
  sequence := packet.sequence
  arrivalTime := arrivalTime
  flags := packet.flags
  sideLeftM := packet.sideLeftDistanceM
  sideRightM := packet.sideRightDistanceM
  persons := packet.persons

/-- A datagram of the perception service, with the errors of its decoder. -/
def decodeMiddlePacket (data : List UInt8) (arrivalTime : F64) : Except PyError MiddleFrame :=
  match unpackPacket data with
  | .error error => .error error
  | .ok packet => .ok (middleFromPerception packet arrivalTime)

/-- The frames the loop keeps between datagrams. -/
structure Latest where
  front : Option FrontSensorFrame
  middle : Option MiddleFrame
  deriving DecidableEq

/-- A datagram on one of the ports, and the loop's time when it is received. -/
inductive Datagram where
  | middle (data : List UInt8) (now : F64)
  | front (data : List UInt8) (now : F64)

/-- A frame that replaces the latest one; a value error is a rejected datagram. -/
def replaceBy {β : Type} (replace : β → Latest) (latest : Latest) : Except PyError β → Except PyError Latest
  | .ok frame => .ok (replace frame)
  | .error (.valueError _) => .ok latest
  | .error error => .error error

/-- One datagram: a frame replaces the one before it, and only a value error is passed over. -/
def receive (latest : Latest) : Datagram → Except PyError Latest
  | .middle data now =>
    replaceBy (fun frame => { latest with middle := some frame }) latest (decodeMiddlePacket data now)
  | .front data now =>
    replaceBy (fun frame => { latest with front := some frame }) latest (decodeFrontPacket data now)

/-- The latest frames after some datagrams, or the exception that ended the program. -/
def receiveAll (latest : Latest) : List Datagram → Except PyError Latest
  | [] => .ok latest
  | datagram :: rest =>
    match receive latest datagram with
    | .error error => .error error
    | .ok latest => receiveAll latest rest

/-- Before anything has arrived. -/
def latestStart : Latest := ⟨none, none⟩

/-- One pass of the loop: what is waiting is received, then a decision is made. -/
def aebLoop (config : AebConfig) (state : Latest × AebController) (datagrams : List Datagram) (now : F64) :
    Except PyError ((Latest × AebController) × AebDecision) :=
  match receiveAll state.1 datagrams with
  | .error error => .error error
  | .ok latest =>
    let (controller, decision) := decide config state.2 ⟨latest.front, latest.middle, now⟩
    .ok ((latest, controller), decision)

end SelfDriving.Hpvc
