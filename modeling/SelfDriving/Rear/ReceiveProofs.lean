import SelfDriving.Rear.DriveCommand

/-! Which datagrams become the drive command. Nothing is checked: every datagram that
reaches the last byte that is read becomes the command, and the command is made of the
bytes at the places that are read and of nothing else. -/
namespace SelfDriving.Rear
open Ieee754 Bytes

/-- A complete rear drive message with a mode and a direction that are defined. -/
structure RearDriveMessage (payload : List UInt8) : Prop where
  length : payload.length = 32
  magic : leField payload 0 2 = 0x4850
  version : payload.getD 2 0 = 1
  message : payload.getD 3 0 = 0x43
  controlMode : payload.getD 16 0 ≤ 2
  driveDirection : payload.getD 17 0 ≤ 2

section
variable {payload : List UInt8} {buffer : Memory}

/-- Bytes that the datagram has do not depend on the buffer. -/
theorem pbufCopyPartial_apply {length index : Nat} (inside : index < length) (copied : index < payload.length) :
    pbufCopyPartial payload buffer length index = payload.getD index 0 := by
  simp only [pbufCopyPartial, inside, if_true, List.getD_eq_getElem?_getD, List.getElem?_eq_getElem copied, Option.getD_some]

theorem copyFloat_pbufCopyPartial {α : Type} [Floating α] {length offset : Nat} (inside : offset + 4 ≤ length)
    (copied : offset + 4 ≤ payload.length) :
    (copyFloat ((pbufCopyPartial payload buffer length).drop offset) : α) =
      Floating.ofSingle (Ieee.ofBits (leField payload offset 4)) := by
  have bytes : ((pbufCopyPartial payload buffer length).drop offset).bytes 4 = field payload offset 4 := by
    rw [Memory.bytes_eq_map, field_eq_map copied]
    refine List.map_congr_left fun place member => ?_
    rw [List.mem_range] at member
    exact pbufCopyPartial_apply (by omega) (by omega)
  rw [copyFloat, bytes, leField]

/-- A datagram that reaches the emergency stop is the command, whatever the stack held. -/
theorem udpReceiveAccRecv_of_long {α : Type} [Floating α] (long : 29 ≤ payload.length) :
    (udpReceiveAccRecv (some payload) buffer : Option (DriveCmd α)) =
      some
        { controlMode := payload.getD 16 0
          driveDirection := payload.getD 17 0
          targetSpeed := Floating.ofSingle (Ieee.ofBits (leField payload 20 4))
          accelCmd := Floating.ofSingle (Ieee.ofBits (leField payload 24 4))
          emergencyStop := payload.getD 28 0 } := by
  have controlMode : pbufCopyPartial payload buffer 32 16 = payload.getD 16 0 :=
    pbufCopyPartial_apply (by decide) (by omega)
  have driveDirection : pbufCopyPartial payload buffer 32 17 = payload.getD 17 0 :=
    pbufCopyPartial_apply (by decide) (by omega)
  have emergencyStop : pbufCopyPartial payload buffer 32 28 = payload.getD 28 0 :=
    pbufCopyPartial_apply (by decide) (by omega)
  simp only [udpReceiveAccRecv, Option.map_some, controlMode, driveDirection, emergencyStop]
  rw [copyFloat_pbufCopyPartial (by decide) (by omega), copyFloat_pbufCopyPartial (by decide) (by omega)]

end

/-- Every datagram of at least 29 bytes becomes the command that the other core reads: the
bytes at five places, and neither the buffer nor the command before. Without a datagram
the command stays. -/
theorem long_datagram_becomes_command {α : Type} [Floating α] (buffer : Memory) (g : DriveCmdBuffer α) :
    (∀ payload : List UInt8, 29 ≤ payload.length →
      cpu1ReadDriveCmd (receiveDriveCmd (some payload) buffer g) =
        { controlMode := payload.getD 16 0
          driveDirection := payload.getD 17 0
          targetSpeed := Floating.ofSingle (Ieee.ofBits (leField payload 20 4))
          accelCmd := Floating.ofSingle (Ieee.ofBits (leField payload 24 4))
          emergencyStop := payload.getD 28 0 }) ∧
    cpu1ReadDriveCmd (receiveDriveCmd none buffer g) = cpu1ReadDriveCmd g := by
  refine ⟨fun payload long => ?_, rfl⟩
  rw [receiveDriveCmd, udpReceiveAccRecv_of_long long, cpu1ReadDriveCmd_write]

/-- The shortest datagram that is read to its end. -/
theorem shortest_datagram_becomes_command :
    (cpu1ReadDriveCmd (receiveDriveCmd (some (List.replicate 28 0 ++ [1])) (fun _ => 7)
      ⟨fun _ => ⟨0, 0, 0.0, 0.0, 0⟩, 0⟩) : DriveCmd F32) =
      { controlMode := 0
        driveDirection := 0
        targetSpeed := Floating.ofSingle (Ieee.ofBits 0)
        accelCmd := Floating.ofSingle (Ieee.ofBits 0)
        emergencyStop := 1 } :=
  (long_datagram_becomes_command _ _).1 _ (by decide)

/-- Parked, with no emergency stop. -/
def parked : DriveCmdBuffer F32 := ⟨fun _ => ⟨0, 0, 0.0, 0.0, 0⟩, ⟨0, Nat.zero_lt_two⟩⟩

/-- A datagram of 32 bytes without the magic, with the emergency stop set. -/
def foreignDatagram : List UInt8 := List.replicate 32 1

/-- A datagram that is no drive message becomes the command, and an empty one turns what
the stack held into it. -/
theorem foreign_and_short_datagrams_command :
    (¬ ∀ (payload : List UInt8) (buffer : Memory) (g : DriveCmdBuffer F32), RearDriveMessage payload ∨
      cpu1ReadDriveCmd (receiveDriveCmd (some payload) buffer g) = cpu1ReadDriveCmd g) ∧
    ¬ ∀ (payload : List UInt8) (buffer other : Memory) (g : DriveCmdBuffer F32),
      cpu1ReadDriveCmd (receiveDriveCmd (some payload) buffer g) =
        cpu1ReadDriveCmd (receiveDriveCmd (some payload) other g) := by
  constructor
  · intro all
    rcases all foreignDatagram (fun _ => 0) parked with message | same
    · exact absurd message.magic (by decide)
    · exact absurd (congrArg DriveCmd.emergencyStop same) (by decide)
  · intro all
    have same := all [] (fun _ => 0) (fun _ => 1) parked
    exact absurd (congrArg DriveCmd.emergencyStop same) (by decide)

end SelfDriving.Rear
