import SelfDriving.Hpvc.SequenceProofs

/-! The emergency stop of the remote controller. It is set by its own request and
cleared by a stop, by a reset and by every control request that gets as far as
publishing; until one of these comes, all packets carry it. -/
namespace SelfDriving.Hpvc.Remote
open Ieee754 Python Bytes

/-! ### Packets -/

/-- What REAR takes out of a drive packet. -/
theorem received_rearDrivePacket (s : RemoteControlState) (clock : Clock) (speed : F32) (buffer : Memory) :
    Rear.udpReceiveAccRecv (some (rearDrivePacket s clock speed)) buffer =
      some
        { controlMode := 0
          driveDirection := driveDirection s.driveCommand
          targetSpeed := speed
          accelCmd := 0.0
          emergencyStop := if s.emergencyStop then 1 else 0 } := by
  unfold rearDrivePacket
  generalize driveDirection s.driveCommand = direction
  generalize (if s.emergencyStop then (1 : UInt8) else 0) = stop
  generalize (0.0 : F32) = acceleration
  let received : Rear.DriveCmd F32 :=
    ⟨0, direction, Ieee.ofBits (leNat (singleBytes speed)), Ieee.ofBits (leNat (singleBytes acceleration)), stop⟩
  refine Eq.trans (b := some received) rfl ?_
  rw [show received = ⟨0, direction, _, _, stop⟩ from rfl, ofBits_singleBytes, ofBits_singleBytes]

/-- The steering packets of a step, the broadcast copies among them. -/
def frontPackets (app : HttpApp) (config : Config) (s : RemoteControlState) (event : Event) : List (List UInt8) :=
  ((controller app config).output s event).front ++ ((controller app config).output s event).broadcast

end SelfDriving.Hpvc.Remote
