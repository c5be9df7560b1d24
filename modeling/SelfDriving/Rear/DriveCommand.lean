import SelfDriving.Foundations.Bytes
import SelfDriving.Foundations.Floating
import SelfDriving.Foundations.Memory

/-! How the REAR controller takes a drive command out of a datagram: the bytes at
fixed offsets, whatever the datagram is. -/
namespace SelfDriving.Rear
open Ieee754

structure DriveCmd (α : Type) where
  controlMode : UInt8
  driveDirection : UInt8
  targetSpeed : α
  accelCmd : α
  emergencyStop : UInt8
  deriving DecidableEq

/-- The bytes of a packet over what the buffer held before. -/
def pbufCopyPartial (payload : List UInt8) (buffer : Memory) (length : Nat) : Memory :=
  fun index => if index < length then payload.getD index (buffer index) else buffer index

/-- Four bytes copied over a float. -/
def copyFloat {α : Type} [Floating α] (bytes : Memory) : α :=
  Floating.ofSingle (Ieee.ofBits (Bytes.leNat (bytes.bytes 4)))

/-- The command of a datagram; `buffer` is the stack before the copy. -/
def udpReceiveAccRecv {α : Type} [Floating α] (payload : Option (List UInt8)) (buffer : Memory) :
    Option (DriveCmd α) :=
  payload.map fun payload =>
    let buffer := pbufCopyPartial payload buffer 32
    { controlMode := buffer 16
      driveDirection := buffer 17
      targetSpeed := copyFloat (buffer.drop 20)
      accelCmd := copyFloat (buffer.drop 24)
      emergencyStop := buffer 28 }

/-- The command with its floats read in another way. -/
def DriveCmd.map {α β : Type} (read : α → β) (c : DriveCmd α) : DriveCmd β where
  controlMode := c.controlMode
  driveDirection := c.driveDirection
  targetSpeed := read c.targetSpeed
  accelCmd := read c.accelCmd
  emergencyStop := c.emergencyStop

/-- A command is received as bits, and then its floats are read. -/
theorem udpReceiveAccRecv_eq_map {α : Type} [Floating α] (payload : Option (List UInt8)) (buffer : Memory) :
    (udpReceiveAccRecv payload buffer : Option (DriveCmd α)) =
      (udpReceiveAccRecv payload buffer : Option (DriveCmd F32)).map (DriveCmd.map Floating.ofSingle) := by
  cases payload with
  | none => rfl
  | some payload => rfl

/-! ### From one core to the other -/

/-- Two commands, and which of them the other core reads. -/
structure DriveCmdBuffer (α : Type) where
  buf : Fin 2 → DriveCmd α
  idx : Fin 2

section
variable {α : Type}

def cpu0WriteDriveCmd (c : DriveCmd α) (g : DriveCmdBuffer α) : DriveCmdBuffer α :=
  let w := 1 - g.idx
  { buf := Function.update g.buf w c, idx := w }

def cpu1ReadDriveCmd (g : DriveCmdBuffer α) : DriveCmd α := g.buf g.idx

@[simp] theorem cpu1ReadDriveCmd_write (c : DriveCmd α) (g : DriveCmdBuffer α) :
    cpu1ReadDriveCmd (cpu0WriteDriveCmd c g) = c :=
  Function.update_self ..

/-- What a datagram does to the buffer; without one there is nothing to write. -/
def receiveDriveCmd [Floating α] (payload : Option (List UInt8)) (buffer : Memory) (g : DriveCmdBuffer α) :
    DriveCmdBuffer α :=
  match udpReceiveAccRecv payload buffer with
  | none => g
  | some cmd => cpu0WriteDriveCmd cmd g

end

end SelfDriving.Rear
