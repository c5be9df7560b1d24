import SelfDriving.Foundations.DoubleBuffer
import SelfDriving.Rear.DriveCommand

/-! The drive command between the cores as two processes that load and store one field
at a time. Nothing keeps the writer from coming round to the slot that the control loop
copies: a read is one command as long as it does not. -/
namespace SelfDriving.Rear
open DoubleBuffer Ieee754

inductive DriveCmdField where
  | controlMode
  | driveDirection
  | targetSpeed
  | accelCmd
  | emergencyStop

section
variable {α : Type}

/-- One field of a command over another command's. -/
def copyField : DriveCmdField → DriveCmd α → DriveCmd α → DriveCmd α
  | .controlMode, c, out => { out with controlMode := c.controlMode }
  | .driveDirection, c, out => { out with driveDirection := c.driveDirection }
  | .targetSpeed, c, out => { out with targetSpeed := c.targetSpeed }
  | .accelCmd, c, out => { out with accelCmd := c.accelCmd }
  | .emergencyStop, c, out => { out with emergencyStop := c.emergencyStop }

/-- Both cores copy the fields in this order. -/
def driveCmdLayout : Layout (DriveCmd α) DriveCmdField where
  fields := [.controlMode, .driveDirection, .targetSpeed, .accelCmd, .emergencyStop]
  copy := copyField
  complete _ _ := rfl

/-- A core writes, or the other one reads into what its stack holds. -/
abbrev Access (α : Type) := Action (DriveCmd α)

/-- The buffer in a state of the two processes. -/
def bufferOf (s : State (DriveCmd α) DriveCmdField) : DriveCmdBuffer α := ⟨s.slots, s.index⟩

/-- A write that nothing comes between is one step of the buffer. -/
theorem write_alone (s : State (DriveCmd α) DriveCmdField) (idle : s.writer = .idle) (c : DriveCmd α) :
    bufferOf ((machine driveCmdLayout).run s (List.replicate 7 (.writer c))) = cpu0WriteDriveCmd c (bufferOf s) := by
  obtain ⟨slots, index, writer, reader⟩ := s
  subst idle
  simp only [List.replicate, Machine.run_cons, Machine.run_nil, Machine.next, machine, step, driveCmdLayout, bufferOf,
    cpu0WriteDriveCmd, Function.update_self, Function.update_idem]
  rfl

/-- A read that nothing comes between returns what the index names. -/
theorem read_alone (s : State (DriveCmd α) DriveCmdField) (idle : s.reader = .idle) (out : DriveCmd α) :
    returned driveCmdLayout s (List.replicate 7 (.reader out)) = [cpu1ReadDriveCmd (bufferOf s)] := by
  obtain ⟨slots, index, writer, reader⟩ := s
  subst idle
  rfl

variable [Floating α]

/-- The command in both slots before any is written. -/
def driveCmdBoot : DriveCmd α := ⟨0, 0, 0.0, 0.0, 0⟩

/-- Whatever the cores do, and in whichever order: as long as no store goes to a slot that a
read is not yet done with, every read that ends is one command, one that was published before
or the one at boot. -/
theorem undisturbed_read_is_one_command (before after : List (Access α)) (access : Access α)
    (clear : undisturbed driveCmdLayout (start driveCmdBoot) (before ++ access :: after) = true) (cmd : DriveCmd α)
    (ends : (machine driveCmdLayout).output ((machine driveCmdLayout).run (start driveCmdBoot) before) access = some cmd) :
    cmd = driveCmdBoot ∨ cmd ∈ published driveCmdLayout (start driveCmdBoot) before :=
  reads_whole clear ends

end

/-- Three commands by hand: slowly back, stop, and forward. -/
def reverseCmd : DriveCmd F32 := ⟨0, 2, 0.2, 0.0, 0⟩
def stopCmd : DriveCmd F32 := ⟨0, 0, 0.0, 0.0, 0⟩
def forwardCmd : DriveCmd F32 := ⟨0, 1, 1.0, 0.0, 0⟩

/-- A read during which one command is published is the command before it. -/
theorem read_across_one_write :
    let before : List (Access F32) := List.replicate 7 (.writer reverseCmd) ++ List.replicate 2 (.reader stopCmd) ++
      List.replicate 7 (.writer stopCmd) ++ List.replicate 4 (.reader stopCmd)
    undisturbed driveCmdLayout (start driveCmdBoot) (before ++ [.reader stopCmd]) = true ∧
      (reverseCmd = driveCmdBoot ∨ reverseCmd ∈ published driveCmdLayout (start driveCmdBoot) before) :=
  ⟨rfl, undisturbed_read_is_one_command _ [] (.reader stopCmd) rfl reverseCmd rfl⟩

/-- Back at the speed of the forward command: the reader has the mode and the direction when
the writer passes it. -/
theorem read_across_two_writes :
    ¬ ∀ (accesses : List (Access F32)), ∀ cmd ∈ returned driveCmdLayout (start driveCmdBoot) accesses,
      cmd = driveCmdBoot ∨ Action.writer cmd ∈ accesses := by
  let overtaken : List (Access F32) := List.replicate 7 (.writer reverseCmd) ++ List.replicate 3 (.reader stopCmd) ++
    List.replicate 7 (.writer stopCmd) ++ List.replicate 6 (.writer forwardCmd) ++ List.replicate 4 (.reader stopCmd)
  have returns : returned driveCmdLayout (start driveCmdBoot) overtaken = [⟨0, 2, 1.0, 0.0, 0⟩] := rfl
  intro all
  have written := all overtaken ⟨0, 2, 1.0, 0.0, 0⟩ (by rw [returns]; exact List.mem_singleton_self _)
  revert written
  decide +kernel

end SelfDriving.Rear
