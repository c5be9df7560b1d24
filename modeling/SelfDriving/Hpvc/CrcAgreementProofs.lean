import SelfDriving.Foundations.Crc32Polynomial
import SelfDriving.Front.SteeringNode
import SelfDriving.Hpvc.DecodeProofs
import SelfDriving.Hpvc.SteeringEncoder

/-! The three loops that compute a CRC compute the one of the standard, for every byte string.
Whoever seals packets with that of the standard is therefore understood in C and in MATLAB. -/
namespace SelfDriving.Hpvc
open Bytes

section
variable {body : List UInt8} {crc : UInt32}

theorem length_appended (body : List UInt8) (crc : UInt32) : (body ++ leBytes 4 crc.toNat).length = body.length + 4 := by
  rw [List.length_append, length_leBytes]

/-- MATLAB reads back a CRC at the end of a packet. -/
theorem readU32_appended (body : List UInt8) (crc : UInt32) :
    readU32 (body ++ leBytes 4 crc.toNat) (body.length + 1) = crc := by
  rw [← UInt32.toNat_inj, readU32_toNat (length_appended body crc).ge, leField_append_leBytes body crc.toNat_lt]

/-- So does C, from the memory that holds the packet. -/
theorem readU32Le_appended {memory : Memory} (holds : memory.bytes (body.length + 4) = body ++ leBytes 4 crc.toNat) :
    Front.readU32Le memory body.length = crc := by
  have byte {index : Nat} (inside : index < body.length + 4) :
      memory index = (body ++ leBytes 4 crc.toNat).getD index 0 := by
    rw [← holds, Memory.getD_bytes inside]
  rw [← readU32_appended body crc]
  unfold Front.readU32Le readU32 byteAt
  rw [byte (by omega), byte (by omega), byte (by omega), byte (by omega)]
  rfl

end

/-- Each loop computes the reflected and complemented remainder of the division by the generator of
the standard, and nothing else is that; a packet that anyone seals with it passes both checks. -/
theorem crc32_is_ieee :
    (∀ (memory : Memory) (length : Nat) (crc : UInt32),
      Crc32.IsIeeeCrc (memory.bytes length) crc ↔ crc = Front.crc32Ieee memory length) ∧
    (∀ (bytes : List UInt8) (crc : UInt32), Crc32.IsIeeeCrc bytes crc ↔ crc = calculateCrc32 bytes) ∧
    (∀ (data : List UInt8) (crc : UInt32), Crc32.IsIeeeCrc data crc ↔ crc = Tc375.crc32Ieee data) ∧
    ∀ zlibCrc32 : List UInt8 → UInt32, (∀ body, Crc32.IsIeeeCrc body (zlibCrc32 body)) → ∀ body : List UInt8,
      (∀ packet, packet = body ++ leBytes 4 (zlibCrc32 body).toNat →
        readU32 packet (packet.length - 3) = calculateCrc32 (packet.take (packet.length - 4))) ∧
      ∀ memory : Memory, memory.bytes (body.length + 4) = body ++ leBytes 4 (zlibCrc32 body).toNat →
        Front.readU32Le memory body.length = Front.crc32Ieee memory body.length := by
  refine ⟨fun memory length crc => Crc32.isIeeeCrc_iff, fun bytes crc => Crc32.isIeeeCrc_iff,
    fun data crc => Crc32.isIeeeCrc_iff, fun zlibCrc32 standard body => ⟨?_, fun memory holds => ?_⟩⟩
  · rintro packet rfl
    have place : body.length + 4 - 3 = body.length + 1 := rfl
    rw [length_appended, Nat.add_sub_cancel, List.take_left, place, readU32_appended]
    exact Crc32.isIeeeCrc_iff.mp (standard body)
  · have same : memory.bytes body.length = body := by
      have start := congrArg (List.take body.length) holds
      rwa [Memory.take_bytes (Nat.le_add_right _ _), List.take_left] at start
    rw [readU32Le_appended holds, Front.crc32Ieee, same]
    exact Crc32.isIeeeCrc_iff.mp (standard body)

/-- The nine digits with the CRC that the standard gives them. -/
theorem crc32_is_ieee_digits :
    readU32 [0x31, 0x32, 0x33, 0x34, 0x35, 0x36, 0x37, 0x38, 0x39, 0x26, 0x39, 0xF4, 0xCB] 10 =
      calculateCrc32 [0x31, 0x32, 0x33, 0x34, 0x35, 0x36, 0x37, 0x38, 0x39] := by
  obtain ⟨-, matlab, -, seals⟩ := crc32_is_ieee
  have standard (body : List UInt8) : Crc32.IsIeeeCrc body (calculateCrc32 body) := (matlab body _).mpr rfl
  exact (seals calculateCrc32 standard [0x31, 0x32, 0x33, 0x34, 0x35, 0x36, 0x37, 0x38, 0x39]).1
    [0x31, 0x32, 0x33, 0x34, 0x35, 0x36, 0x37, 0x38, 0x39, 0x26, 0x39, 0xF4, 0xCB] (by decide +kernel)

end SelfDriving.Hpvc
