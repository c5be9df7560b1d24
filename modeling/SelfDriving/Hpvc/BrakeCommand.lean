import SelfDriving.Hpvc.AebController
import SelfDriving.Middle.Packing

/-! The brake request that a decision of the emergency braking becomes, and how its receiver
reads it. -/
namespace SelfDriving.Hpvc
open Ieee754 Python Bytes Middle

/-- The constants of the brake packet. -/
def brakeMagic : List UInt8 := [0x48, 0x50, 0x41, 0x42]
def brakeVersion : UInt8 := 1
def brakePacketSize : Nat := 36

/-- The numbers of the reasons. -/
def ReasonCode.toNat : ReasonCode → Nat
  | clear => 0
  | frontTofClose => 1
  | frontUltrasonicClose => 2
  | personInPath => 3
  | personWithFrontRange => 4
  | noFreshInput => 5
  | frontStale => 6
  | middleStale => 7

/-- The state of a number. -/
def aebState (number : Nat) : Except PyError AebState :=
  match [AebState.clear, .fcw, .partialBrake, .fullBrake, .stopHold, .degraded, .sensorFault][number]? with
  | some state => .ok state
  | none => .error (.valueError (toString number ++ " is not a valid AebState"))

/-- The reason of a number. -/
def reasonCode (number : Nat) : Except PyError ReasonCode :=
  match [ReasonCode.clear, .frontTofClose, .frontUltrasonicClose, .personInPath, .personWithFrontRange, .noFreshInput,
    .frontStale, .middleStale][number]? with
  | some reason => .ok reason
  | none => .error (.valueError (toString number ++ " is not a valid ReasonCode"))

/-- What the decision rests on, a bit for each. -/
def brakeFlags (decision : AebDecision) : Nat :=
  (if decision.frontFresh then 1 else 0) ||| (if decision.middleFresh then 2 else 0) |||
    (if decision.personInPath then 4 else 0)

/-- The bytes before the CRC. -/
def brakeBody (decision : AebDecision) (timestampUs : Int) (distance confidence : F32) : List UInt8 :=
  brakeMagic ++ [brakeVersion] ++ maskedBytes 1 decision.state.toNat ++ maskedBytes 1 decision.brakePercent ++
    maskedBytes 1 (brakeFlags decision) ++ maskedBytes 4 decision.sequence.toNat ++ maskedBytes 8 timestampUs ++
    singleBytes distance ++ singleBytes confidence ++ maskedBytes 2 decision.reason.toNat ++ leBytes 2 0

/-- A distance that is not finite is sent as a negative one. -/
def encodeBrakeCommand (decision : AebDecision) (timestampUs : Int) : Except PyError (List UInt8) :=
  let distance := if !decision.threatDistanceM.isFinite then -(1.0 : F64) else decision.threatDistanceM
  match packSingle distance with
  | .error error => .error error
  | .ok distance =>
    match packSingle decision.confidence with
    | .error error => .error error
    | .ok confidence =>
      let body := brakeBody decision timestampUs distance confidence
      .ok (body ++ leBytes 4 (Crc32.crc32 body).toNat)

/-- What the receiver of a packet gets. -/
structure BrakeCommand where
  state : AebState
  brakePercent : Int
  flags : Nat
  sequence : Nat
  timestampUs : Nat
  threatDistanceM : Option F64
  confidence : F64
  reason : ReasonCode

/-- A packet is checked from its length to its checksum, and then its codes. -/
def decodeBrakeCommand (data : List UInt8) : Except PyError BrakeCommand :=
  if data.length ≠ brakePacketSize then
    .error (.valueError ("expected " ++ toString brakePacketSize ++ " bytes, received " ++ toString data.length))
  else if leField data 32 4 ≠ (Crc32.crc32 (data.take 32)).toNat then .error (.valueError "CRC mismatch")
  else if field data 0 4 ≠ brakeMagic || data.getD 4 0 ≠ brakeVersion then
    .error (.valueError "invalid AEB brake command magic or version")
  else
    match aebState (leField data 5 1) with
    | .error error => .error error
    | .ok state =>
      match reasonCode (leField data 28 2) with
      | .error error => .error error
      | .ok reason => .ok
        { state := state
          brakePercent := leField data 6 1
          flags := leField data 7 1
          sequence := leField data 8 4
          timestampUs := leField data 12 8
          threatDistanceM := if singleAt data 20 < (0.0 : F64) then none else some (singleAt data 20)
          confidence := singleAt data 24
          reason := reason }

end SelfDriving.Hpvc
