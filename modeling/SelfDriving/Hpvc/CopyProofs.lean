import SelfDriving.Hpvc.DecodeProofs
import SelfDriving.Middle.Packing

/-! The packets that the perception computer sends, at the decoders of the HPVC. Its
copy of the packet module starts every packet with its own magic number, which
both decoders refuse, so no packet of it is ever decoded. -/
namespace SelfDriving.Hpvc
open Bytes Python

/-- A packet that the perception computer's copy makes is taken by both decoders, and
read by them like the packet that the other copy makes of the same values. -/
def ReadAlike (packet : Middle.PerceptionPacket) : Prop :=
  ∀ bytes, Middle.Rpi2.packPacket packet = .ok bytes →
    ∃ own fields, Middle.packPacket packet = .ok own ∧
      Middle.unpackPacket own = .ok fields ∧ Middle.unpackPacket bytes = .ok fields ∧
      (middleDecodePacket bytes true).packetValid = true ∧
      middleDecodePacket bytes true = middleDecodePacket own true

/-- A packet starts with the magic number it was made under. -/
theorem start_of_packWith {magic : List UInt8} (four : magic.length = 4) {packet : Middle.PerceptionPacket}
    {bytes : List UInt8} (packs : Middle.packWith magic packet = .ok bytes) : field bytes 0 4 = magic := by
  unfold Middle.packWith at packs
  split at packs
  · cases packs
  · cases packs
    rw [Middle.packHeader]
    simp only [List.append_assoc]
    rw [field_append_left (by omega), field, List.drop_zero, ← four, List.take_length]

/-- Both decoders refuse what the perception computer's copy makes. -/
theorem rpi2_refused {packet : Middle.PerceptionPacket} {bytes : List UInt8}
    (packs : Middle.Rpi2.packPacket packet = .ok bytes) :
    (∃ text, Middle.unpackPacket bytes = .error (.valueError text)) ∧ middleDecodePacket bytes true = noPacket := by
  have start := start_of_packWith rfl packs
  have malformed : ¬ ∃ version, Middle.WellFormed bytes version := by
    rintro ⟨version, whole⟩
    exact absurd (start.symm.trans whole.start) (by decide)
  refine ⟨Middle.unpackPacket_of_malformed malformed, ?_⟩
  rcases middleDecodePacket_cases bytes with ⟨formed, _⟩ | ⟨_, decoded⟩
  · exact absurd formed malformed
  · exact decoded

/-- No packet that the perception computer's copy makes is read like the other copy's. -/
theorem rpi2_never_read_alike (packet : Middle.PerceptionPacket)
    (packs : ∃ bytes, Middle.Rpi2.packPacket packet = .ok bytes) : ¬ ReadAlike packet := by
  intro alike
  obtain ⟨bytes, packs⟩ := packs
  obtain ⟨_, fields, _, _, taken, _⟩ := alike bytes packs
  obtain ⟨text, refused⟩ := (rpi2_refused packs).1
  rw [refused] at taken
  cases taken

/-- Between two lanes, with one person ahead and one that is hardly one. -/
def twoPersonPacket : Middle.PerceptionPacket where
  sequence := 10
  frameTimestampUs := 123456
  ultrasonicTimestampUs := 123789
  flags := 15
  left := ⟨0.02, 0.0, 0.05, 0.18, 0.9⟩
  right := ⟨0.02, 0.0, 0.05, -0.22, 0.8⟩
  sideLeftDistanceM := 1.2
  sideRightDistanceM := 0.8
  personCount := 2
  persons := [⟨1.0, 0.9, 0.5, 0.5, 0.25, 0.5⟩, ⟨1.0, 0.4, 0.9, 0.6, 0.1, 0.3⟩]

theorem twoPersonPacket_packs : ∃ bytes, Middle.Rpi2.packPacket twoPersonPacket = .ok bytes := by
  have values : (Middle.packValues (Middle.payloadValues twoPersonPacket)).isOk = true := by decide +kernel
  unfold Middle.Rpi2.packPacket Middle.packWith
  split
  · rename_i error raised
    rw [raised] at values
    cases values
  · exact ⟨_, rfl⟩

theorem twoPersonPacket_not_read_alike :
    (∃ bytes, Middle.Rpi2.packPacket twoPersonPacket = .ok bytes) ∧ ¬ ReadAlike twoPersonPacket :=
  ⟨twoPersonPacket_packs, rpi2_never_read_alike twoPersonPacket twoPersonPacket_packs⟩

theorem rpi2_packet_refused : ¬ ReadAlike twoPersonPacket := by
  intro alike
  obtain ⟨bytes, packs⟩ := twoPersonPacket_packs
  obtain ⟨_, _, _, _, _, valid, _⟩ := alike bytes packs
  rw [(rpi2_refused packs).2] at valid
  cases valid

end SelfDriving.Hpvc
