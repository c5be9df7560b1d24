import SelfDriving.Foundations.Crc32
import SelfDriving.Foundations.Python

/-! The HPSC steering packet that the host programs send to the FRONT controller. -/
namespace SelfDriving.Hpvc
open Ieee754 Python Bytes

/-- The constants of the steering protocol. -/
def hpscMagic : List UInt8 := [0x48, 0x50, 0x53, 0x43]
def hpscVersion : UInt8 := 1
def hpscHeaderSize : UInt8 := 32
def hpscControlDisabled : UInt8 := 0
def hpscControlSteeringAngle : UInt8 := 1
def hpscFlagSteeringValid : UInt8 := 1
def hpscFlagEmergencyCenter : UInt8 := 2
def hpscFlagUpstreamValid : UInt8 := 4

/-- The monotonic clock when packets are built, in milliseconds and microseconds. -/
structure Clock where
  ms : Nat
  us : UInt64

/-- The body with its CRC. -/
def hpscPacket (controlMode flags : UInt8) (sequence : UInt32) (timestampUs : UInt64) (angleRad maxRateRadS : F32)
    (aliveCount : UInt16) : List UInt8 :=
  let body := hpscMagic ++ [hpscVersion, controlMode, flags, hpscHeaderSize] ++ leBytes 4 sequence.toNat ++
    leBytes 8 timestampUs.toNat ++ singleBytes angleRad ++ singleBytes maxRateRadS ++
    leBytes 2 aliveCount.toNat ++ leBytes 2 0 ++ leBytes 4 0
  body ++ leBytes 4 (Crc32.crc32 body).toNat

/-- The packet, or the error of a float that does not fit. -/
def packHpsc (controlMode flags : UInt8) (sequence : UInt32) (timestampUs : UInt64) (angleRad maxRateRadS : F64)
    (aliveCount : UInt16) : Except PyError (List UInt8) :=
  match packSingle angleRad, packSingle maxRateRadS with
  | .ok angle, .ok rate => .ok (hpscPacket controlMode flags sequence timestampUs angle rate aliveCount)
  | .error error, _ | .ok _, .error error => .error error

/-- The sequence number that FRONT reads in a packet. -/
def hpscSequence (packet : List UInt8) : UInt32 := UInt32.ofNat (leField packet 8 4)

/-- What a packet carries, and where. -/
theorem hpscPacket_values (controlMode flags : UInt8) (sequence : UInt32) (timestampUs : UInt64)
    (angleRad maxRateRadS : F32) (aliveCount : UInt16) :
    let packet := hpscPacket controlMode flags sequence timestampUs angleRad maxRateRadS aliveCount
    packet.getD 5 0 = controlMode ∧ packet.getD 6 0 = flags ∧ field packet 8 4 = leBytes 4 sequence.toNat ∧
      field packet 20 4 = singleBytes angleRad ∧ field packet 24 4 = singleBytes maxRateRadS := by
  simp only [hpscPacket, singleBytes, leBytes, List.cons_append, List.nil_append, hpscMagic]
  exact ⟨rfl, rfl, rfl, rfl, rfl⟩

theorem hpscSequence_packet (controlMode flags : UInt8) (sequence : UInt32) (timestampUs : UInt64)
    (angleRad maxRateRadS : F32) (aliveCount : UInt16) :
    hpscSequence (hpscPacket controlMode flags sequence timestampUs angleRad maxRateRadS aliveCount) = sequence := by
  obtain ⟨-, -, carried, -, -⟩ :=
    hpscPacket_values controlMode flags sequence timestampUs angleRad maxRateRadS aliveCount
  rw [hpscSequence, leField, carried, leNat_leBytes sequence.toNat_lt, UInt32.ofNat_toNat]

/-- The alive count that a packet carries. -/
def hpscAliveCount (packet : List UInt8) : UInt16 := UInt16.ofNat (leField packet 28 2)

theorem hpscAliveCount_packet (controlMode flags : UInt8) (sequence : UInt32) (timestampUs : UInt64)
    (angleRad maxRateRadS : F32) (aliveCount : UInt16) :
    hpscAliveCount (hpscPacket controlMode flags sequence timestampUs angleRad maxRateRadS aliveCount) =
      aliveCount := by
  have carried : field (hpscPacket controlMode flags sequence timestampUs angleRad maxRateRadS aliveCount) 28 2 =
      leBytes 2 aliveCount.toNat := by
    simp only [hpscPacket, singleBytes, leBytes, List.cons_append, List.nil_append, hpscMagic]
    rfl
  rw [hpscAliveCount, leField, carried, leNat_leBytes aliveCount.toNat_lt, UInt16.ofNat_toNat]

end SelfDriving.Hpvc
