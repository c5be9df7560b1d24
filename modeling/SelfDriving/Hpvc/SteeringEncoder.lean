import SelfDriving.Foundations.Bytes
import SelfDriving.Foundations.Crc32
import SelfDriving.Foundations.Ieee754Arithmetic
import SelfDriving.Foundations.Matlab

/-! The steering encoder of the Simulink deployment: a command that is valid and within
the limit steers, and any other input centers. It counts its packets up to the largest
number and stays there. -/
namespace SelfDriving.Hpvc.Tc375
open Ieee754 Bytes

def crc32Ieee (data : List UInt8) : UInt32 := Crc32.crc32 data

/-- The packet of 40 bytes. -/
def frontEncodeSteeringPacket (sequence : UInt32) (timestampUs : UInt64) (steeringAngleRad maxSteeringRateRadS : F32)
    (controlMode flags : UInt8) (aliveCount : UInt16) : List UInt8 :=
  let packet := [72, 80, 83, 67] ++ [1, controlMode, flags, 32] ++ leBytes 4 sequence.toNat ++
    leBytes 8 timestampUs.toNat ++ leBytes 4 steeringAngleRad.toBits ++ leBytes 4 maxSteeringRateRadS.toBits ++
    leBytes 2 aliveCount.toNat ++ List.replicate 6 0
  packet ++ leBytes 4 (Crc32.crc32 packet).toNat

example : (frontEncodeSteeringPacket 0x12345678 123456789 0.25 1.0 1 5 0xABCD).drop 36 = [0x81, 0x96, 0xCB, 0xBD] := by
  decide +kernel

/-- What the encoder keeps from one sample to the next. -/
structure Counters where
  sequence : UInt32
  aliveCount : UInt16

/-- The persistent counters before the first sample. -/
def countersStart : Counters := ⟨0, 0⟩

/-- What the chart is given at a sample. -/
structure Inputs where
  steeringCommand : F32
  controlValid : Bool
  lkasEnable : Bool
  localTimeS : F64
  maxSteerRad : F32
  maxSteerRateRadS : F32

/-- Whether the command may leave: it is valid and enabled, and within the limit. -/
def steeringValid (input : Inputs) : Bool :=
  input.controlValid && input.lkasEnable && input.steeringCommand.isFinite &&
    Matlab.abs input.steeringCommand ≤ input.maxSteerRad

/-- One sample of the chart; the counters saturate as integers do there. -/
def encodeTc375 (s : Counters) (input : Inputs) : Counters × List UInt8 :=
  let steeringValid := steeringValid input
  let safeAngle := if steeringValid then input.steeringCommand else 0.0
  let emergencyCenter := !steeringValid
  let controlMode := steeringValid.toUInt8
  let flags := steeringValid.toUInt8 + emergencyCenter.toUInt8 <<< 1 + input.controlValid.toUInt8 <<< 2
  let timestampUs := Matlab.uint64 (Matlab.max input.localTimeS 0.0 * 1.0e6)
  let packet := frontEncodeSteeringPacket s.sequence timestampUs safeAngle input.maxSteerRateRadS controlMode flags
    s.aliveCount
  ({ sequence := UInt32.ofNat (Matlab.saturate 32 (s.sequence.toNat + 1))
     aliveCount := UInt16.ofNat (Matlab.saturate 16 (s.aliveCount.toNat + 1)) }, packet)

end SelfDriving.Hpvc.Tc375
