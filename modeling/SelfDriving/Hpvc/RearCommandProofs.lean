import SelfDriving.Hpvc.RuntimeApi
import SelfDriving.Rear.DriveCommand

/-! What the REAR controller takes out of the runtime store's command packets. The
two sides agree on the mode and the direction only: REAR reads the other fields
two bytes further on than the store writes them, and so takes the byte that marks
every command as valid for the emergency stop. -/
namespace SelfDriving.Hpvc
open Ieee754 Python Bytes Rear

/-- The command that the store means, with its floats as packed. -/
def meantCommand (s : RuntimeControlState) (targetSpeed acceleration : F32) : DriveCmd F32 where
  controlMode := rearControlMode s
  driveDirection := requestedDriveDirection s
  targetSpeed := targetSpeed
  accelCmd := acceleration
  emergencyStop := emergencyStop

/-- REAR takes the command that was meant out of every packet the store builds. -/
def CommandDelivered (store : RuntimeControlStore) (clock : Clock) : Prop :=
  ∀ packet, buildRearCommandPacket store clock = .ok packet →
    ∃ targetSpeed acceleration, packSingle (commandedSpeed store.state) = .ok targetSpeed ∧
      packSingle (commandedAcceleration store.state) = .ok acceleration ∧
      ∀ buffer, udpReceiveAccRecv (some packet) buffer =
        some (meantCommand store.state targetSpeed acceleration)

/-- A finite number that no float can hold. -/
def singleOverflows (x : F64) : Bool := x.isFinite && (x.convert binary32).isInf

/-- One of the packet's floats cannot be packed. -/
def commandOverflows (s : RuntimeControlState) : Bool :=
  singleOverflows (commandedSpeed s) || singleOverflows (commandedAcceleration s)

theorem packSingle_cases (x : F64) :
    (singleOverflows x = false ∧ packSingle x = .ok (x.convert binary32)) ∨
    (singleOverflows x = true ∧ packSingle x = .error (.overflowError "float too large to pack with f format")) := by
  unfold packSingle singleOverflows
  cases overflows : x.isFinite && (x.convert binary32).isInf with
  | false => exact .inl ⟨rfl, rfl⟩
  | true => exact .inr ⟨rfl, rfl⟩

/-- A packet is built when its floats can be packed, and otherwise none is. -/
theorem buildRearCommandPacket_cases (store : RuntimeControlStore) (clock : Clock) :
    (commandOverflows store.state = false ∧ buildRearCommandPacket store clock =
      .ok (rearCommandPacket store clock ((commandedSpeed store.state).convert binary32)
        ((commandedAcceleration store.state).convert binary32))) ∨
    (commandOverflows store.state = true ∧ ∃ error, buildRearCommandPacket store clock = .error error) := by
  unfold buildRearCommandPacket commandOverflows
  rcases packSingle_cases (commandedSpeed store.state) with ⟨fits, speed⟩ | ⟨overflows, speed⟩
  · rcases packSingle_cases (commandedAcceleration store.state) with ⟨fits', acc⟩ | ⟨overflows, acc⟩
    · rw [fits, fits', speed, acc]
      exact .inl ⟨rfl, rfl⟩
    · rw [overflows, Bool.or_true, speed, acc]
      exact .inr ⟨rfl, _, rfl⟩
  · rw [overflows, Bool.true_or, speed]
    exact .inr ⟨rfl, _, rfl⟩

/-- What REAR takes out of a packet. -/
theorem received_rearCommandPacket (store : RuntimeControlStore) (clock : Clock) (targetSpeed acceleration : F32)
    (buffer : Memory) :
    udpReceiveAccRecv (some (rearCommandPacket store clock targetSpeed acceleration)) buffer =
      some
        { controlMode := rearControlMode store.state
          driveDirection := requestedDriveDirection store.state
          targetSpeed :=
            (Ieee.ofBits (leNat ((singleBytes targetSpeed).drop 2 ++ (singleBytes acceleration).take 2)) : F32)
          accelCmd := Ieee.ofBits (leNat ((singleBytes acceleration).drop 2 ++
            [emergencyStop, UInt8.ofInt store.state.requestedTurnSignal]))
          emergencyStop := 1 } := by
  unfold rearCommandPacket
  -- The checksum and the mode are bytes like any others here.
  generalize crc16Ccitt _ = crc
  generalize rearControlMode store.state = mode
  generalize requestedDriveDirection store.state = direction
  rfl

/-- A packet that is built tells REAR to stop in an emergency. -/
theorem not_commandDelivered {store : RuntimeControlStore} {clock : Clock}
    (fits : commandOverflows store.state = false) : ¬ CommandDelivered store clock := by
  intro delivered
  rcases buildRearCommandPacket_cases store clock with ⟨-, built⟩ | ⟨overflows, -⟩
  · obtain ⟨targetSpeed, acceleration, -, -, received⟩ := delivered _ built
    have command := (received_rearCommandPacket store clock _ _ fun _ => 0).symm.trans (received fun _ => 0)
    have stops := congrArg (Option.map DriveCmd.emergencyStop) command
    cases stops
  · rw [fits] at overflows
    cases overflows

/-- The command that was meant arrives only where no packet is built. -/
theorem commandDelivered_iff_overflow (store : RuntimeControlStore) (clock : Clock) :
    CommandDelivered store clock ↔ commandOverflows store.state = true := by
  constructor
  · intro delivered
    by_contra fits
    exact not_commandDelivered (by simpa using fits) delivered
  · intro overflows packet built
    rcases buildRearCommandPacket_cases store clock with ⟨fits, _⟩ | ⟨_, error, raised⟩
    · rw [fits] at overflows
      cases overflows
    · rw [raised] at built
      cases built

/-- A store whose operator drives forward by hand at one metre per second. -/
def forwardStore : RuntimeControlStore :=
  { storeStart with
    state := { storeStart.state with requestedDriveCommand := "FORWARD", requestedTargetSpeed := 1.0 } }

theorem forward_command_stops : ¬ CommandDelivered forwardStore ⟨0, 0⟩ := by
  apply not_commandDelivered
  have speed : singleOverflows (Python.max (0.0 : F64) 1.0) = false := by decide +kernel
  have acceleration : singleOverflows (0.0 : F64) = false := by decide +kernel
  exact Bool.or_eq_false_iff.mpr ⟨speed, acceleration⟩

end SelfDriving.Hpvc
