import SelfDriving.Foundations.Crc32Code
import SelfDriving.Front.WatchdogProofs
import SelfDriving.Hpvc.DecodeProofs
import SelfDriving.Hpvc.SteeringDeliveryProofs

/-! Corrupted packets: no receiver of the car takes a packet with a burst of up to 32
wrong bits in it for a sound one, wherever the burst lies. -/
namespace SelfDriving.Hpvc
open Ieee754 Bytes Python

/-- An intact steering packet in memory is sealed. -/
theorem sealed_of_intact {memory : Memory} {packet : List UInt8} (holds : Holds memory packet)
    (intact : Front.Intact memory) : Crc32.Sealed packet := by
  have length : packet.length = 40 := holds.length
  refine ⟨by omega, ?_⟩
  rw [length]
  have crc := intact.crc
  rw [Front.crc32Ieee, holds.bytes (by decide), ← UInt32.toNat_inj, holds.readU32 (by decide)] at crc
  exact crc

theorem sealed_of_wellFormed {data : List UInt8} {version : Nat} (whole : Middle.WellFormed data version) :
    Crc32.Sealed data :=
  ⟨whole.size.symm ▸ Nat.le_add_left 4 _, whole.crc⟩

/-- A burst of up to 32 wrong bits, in the order of the bytes and from the lowest bit of each, makes
any packet with a right CRC one that the steering node counts as rejected and that both decoders of
perception packets refuse. -/
theorem burst_error_rejected {α : Type} [Floating α] {packet error : List UInt8} (whole : Crc32.Sealed packet)
    (length : error.length = packet.length) (burst : Crc32.Burst 32 error) :
    (∀ received, Memory.bytes received 40 = Crc32.corrupt packet error → ∀ nowMs (s : Front.State α),
      (Front.acceptHpscPacket (some received) 40 nowMs s).1 = false ∧
      Front.Uncounted s (Front.acceptHpscPacket (some received) 40 nowMs s).2) ∧
    (∃ text, Middle.unpackPacket (Crc32.corrupt packet error) = .error (.valueError text)) ∧
    ∀ receiveStatus, (middleDecodePacket (Crc32.corrupt packet error) receiveStatus).packetValid = false := by
  have broken : ¬ Crc32.Sealed (Crc32.corrupt packet error) := Crc32.not_sealed_corrupt length burst whole
  have malformed : ¬ ∃ version, Middle.WellFormed (Crc32.corrupt packet error) version := by
    rintro ⟨version, formed⟩
    exact broken (sealed_of_wellFormed formed)
  refine ⟨fun received holds nowMs s => ?_, Middle.unpackPacket_of_malformed malformed,
    fun receiveStatus => ?_⟩
  · exact Front.acceptHpscPacket_of_broken (fun checked => broken (sealed_of_intact holds checked.1)) nowMs
  · cases receiveStatus with
    | false => rfl
    | true =>
      rcases middleDecodePacket_cases (Crc32.corrupt packet error) with ⟨formed, -⟩ | ⟨-, refused⟩
      · exact absurd formed malformed
      · rw [refused]
        rfl

/-- 32 bits in a row, from the last bit before the CRC to the last but one of the CRC. -/
def longestError : List UInt8 := List.replicate 35 0 ++ [0x80, 1, 0, 0, 0x40]

theorem burst_longestError : Crc32.Burst 32 longestError where
  nonzero := ⟨287, by decide⟩
  within := by
    refine ⟨287, fun position bit => ?_⟩
    have inside : position < 320 := Crc32.lt_of_bitAt bit
    have all : ∀ position < 320, Crc32.bitAt longestError position = true → 287 ≤ position ∧ position < 287 + 32 := by
      decide +kernel
    exact all position inside bit

theorem corrupted_quarterPacket_rejected :
    let received : Memory := fun index => Front.quarterPacket index ^^^ longestError.getD index 0
    ∀ s : Front.State F32, (Front.acceptHpscPacket (some received) 40 0 s).1 = false := by
  intro received s
  have whole : Crc32.Sealed (Front.quarterPacket.bytes 40) := ⟨by decide, by decide +kernel⟩
  have holds : received.bytes 40 = Crc32.corrupt (Front.quarterPacket.bytes 40) longestError := by decide +kernel
  have length : longestError.length = (Front.quarterPacket.bytes 40).length := rfl
  exact ((burst_error_rejected whole length burst_longestError).1 received holds 0 s).1

end SelfDriving.Hpvc
