import Mathlib.Data.List.Basic

/-! The reflected CRC-32 of IEEE 802.3, one bit at a time: preset to all ones,
least significant bit first, complemented at the end. -/
namespace SelfDriving.Crc32

/-- The generator polynomial, reflected, without its leading term. -/
def polynomial : UInt32 := 0xEDB88320

/-- One bit leaves the register. -/
def shift (crc : UInt32) : UInt32 :=
  if crc &&& 1 ≠ 0 then (crc >>> 1) ^^^ polynomial else crc >>> 1

/-- One byte enters the register. -/
def update (crc : UInt32) (byte : UInt8) : UInt32 :=
  (List.range 8).foldl (fun crc _ => shift crc) (crc ^^^ byte.toUInt32)

/-- The CRC-32 of a message. -/
def crc32 (message : List UInt8) : UInt32 := ~~~ message.foldl update 0xFFFFFFFF

example : crc32 [0x31, 0x32, 0x33, 0x34, 0x35, 0x36, 0x37, 0x38, 0x39] = 0xCBF43926 := by
  decide +kernel

end SelfDriving.Crc32
