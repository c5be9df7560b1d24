import SelfDriving.Hpvc.ResyncProofs
import SelfDriving.Hpvc.RestartProofs
import SelfDriving.Hpvc.SteeringEncoder

/-! Three encoders of steering packets and the one decoder that they are for. Each of them
either authorizes an angle within FRONT's limits or asks for the center, never both, and
FRONT does what the sender meant in every state that has not come to the packet's number. -/
namespace SelfDriving.Hpvc
open Ieee754 Python

/-- A packet under a number that steers by the angle when the sender authorizes it, and
centers when the sender does not. -/
structure Carries (sequence : UInt32) (authorized : Bool) (angleRad : F32) (packet : List UInt8) : Prop where
  length : packet.length = 40
  number : hpscSequence packet = sequence
  exclusive : packet.getD 6 0 &&& hpscFlagSteeringValid = 0 ∨ packet.getD 6 0 &&& hpscFlagEmergencyCenter = 0
  taken : ∀ (memory : Memory) (nowMs : UInt32) (s : Front.State F32), Holds memory packet →
    (s.initialized = true → Front.sequenceNewer sequence s.lastSequence = true) →
      let outcome := Front.acceptHpscPacket (some memory) 40 nowMs s
      outcome.1 = true ∧
      (authorized = true → outcome.2.targetAngleRad = angleRad ∧ outcome.2.commandValid = true) ∧
      (authorized = false → outcome.2.targetAngleRad = 0.0 ∧ outcome.2.commandValid = false ∧
        outcome.2.emergencyCenter = true)

section
variable {memory : Memory} {controlMode flags : UInt8} {sequence : UInt32} {timestampUs : UInt64}
  {angleRad maxRateRadS : F32} {aliveCount : UInt16}

theorem fresh_of_holds {s : Front.State F32}
    (holds : Holds memory (hpscPacket controlMode flags sequence timestampUs angleRad maxRateRadS aliveCount))
    (newer : s.initialized = true → Front.sequenceNewer sequence s.lastSequence = true) : Front.Fresh s memory := by
  rw [Front.Fresh, sequenceOf_holds holds]
  exact newer

/-- A packet that steers moves the target to its angle. -/
theorem taken_of_steers {s : Front.State F32}
    (holds : Holds memory (hpscPacket controlMode flags sequence timestampUs angleRad maxRateRadS aliveCount))
    (steers : Steers controlMode flags angleRad maxRateRadS) (fresh : Front.Fresh s memory) (nowMs : UInt32) :
    let outcome := Front.acceptHpscPacket (some memory) Front.hpscPacketSize nowMs s
    outcome.1 = true ∧ outcome.2.targetAngleRad = angleRad ∧ outcome.2.commandValid = true := by
  intro outcome
  have authorizes := authorizes_of_holds holds steers
  rcases Front.acceptHpscPacket_of_fresh (intact_of_holds holds) fresh nowMs with
    ⟨emergency, -⟩ | ⟨-, taken⟩ | ⟨-, unauthorized, -⟩ | ⟨-, unauthorized, -⟩
  · exact absurd authorizes.emergencyClear emergency
  · have same : outcome = _ := taken
    rw [same, angle_of_holds holds]
    exact ⟨rfl, Front.clampFloat_of_absFloat_le steers.angleBound, rfl⟩
  · exact absurd authorizes unauthorized
  · exact absurd authorizes unauthorized

/-- A packet with the emergency mark moves the target to the center. -/
theorem taken_of_emergency {s : Front.State F32}
    (holds : Holds memory (hpscPacket controlMode flags sequence timestampUs angleRad maxRateRadS aliveCount))
    (emergency : flags &&& Front.hpscFlagEmergencyCenter ≠ 0) (fresh : Front.Fresh s memory) (nowMs : UInt32) :
    let outcome := Front.acceptHpscPacket (some memory) Front.hpscPacketSize nowMs s
    outcome.1 = true ∧ outcome.2.targetAngleRad = 0.0 ∧ outcome.2.commandValid = false ∧
      outcome.2.emergencyCenter = true := by
  intro outcome
  rw [← flags_of_holds holds] at emergency
  rcases Front.acceptHpscPacket_of_fresh (intact_of_holds holds) fresh nowMs with
    ⟨-, taken⟩ | ⟨authorizes, -⟩ | ⟨calm, -⟩ | ⟨calm, -⟩
  · have same : outcome = _ := taken
    rw [same]
    exact ⟨rfl, rfl, rfl, rfl⟩
  · exact absurd authorizes.emergencyClear emergency
  · exact absurd calm emergency
  · exact absurd calm emergency

theorem carries_of_steers (steers : Steers controlMode flags angleRad maxRateRadS) (sequence : UInt32)
    (timestampUs : UInt64) (aliveCount : UInt16) :
    Carries sequence true angleRad
      (hpscPacket controlMode flags sequence timestampUs angleRad maxRateRadS aliveCount) where
  length := rfl
  number := hpscSequence_packet ..
  exclusive := by
    rw [(hpscPacket_values ..).2.1]
    exact .inr steers.emergencyClear
  taken := by
    intro memory nowMs s holds newer
    obtain ⟨accepted, target, valid⟩ := taken_of_steers holds steers (fresh_of_holds holds newer) nowMs
    exact ⟨accepted, fun _ => ⟨target, valid⟩, nofun⟩

theorem carries_of_emergency (emergency : flags &&& Front.hpscFlagEmergencyCenter ≠ 0)
    (unsteered : flags &&& Front.hpscFlagSteeringValid = 0) (meant angleRad maxRateRadS : F32) (sequence : UInt32)
    (timestampUs : UInt64) (aliveCount : UInt16) :
    Carries sequence false meant
      (hpscPacket controlMode flags sequence timestampUs angleRad maxRateRadS aliveCount) where
  length := rfl
  number := hpscSequence_packet ..
  exclusive := by
    rw [(hpscPacket_values ..).2.1]
    exact .inl unsteered
  taken := by
    intro memory nowMs s holds newer
    obtain ⟨accepted, center⟩ := taken_of_emergency holds emergency (fresh_of_holds holds newer) nowMs
    exact ⟨accepted, nofun, fun _ => center⟩

end

/-! ### The Simulink deployment -/

namespace Tc375

/-- Both sides lay out the same packet. -/
theorem frontEncodeSteeringPacket_eq (sequence : UInt32) (timestampUs : UInt64) (angleRad maxRateRadS : F32)
    (controlMode flags : UInt8) (aliveCount : UInt16) :
    frontEncodeSteeringPacket sequence timestampUs angleRad maxRateRadS controlMode flags aliveCount =
      hpscPacket controlMode flags sequence timestampUs angleRad maxRateRadS aliveCount := by
  have reserved : List.replicate 6 (0 : UInt8) = Bytes.leBytes 2 0 ++ Bytes.leBytes 4 0 := rfl
  simp only [frontEncodeSteeringPacket, reserved, ← List.append_assoc]
  rfl

/-- What the encoder authorizes is within FRONT's limits. -/
theorem steers_of_steeringValid {input : Inputs} (limit : input.maxSteerRad ≤ (0.50 : F32))
    (positive : (0.0 : F32) < input.maxSteerRateRadS) (slow : input.maxSteerRateRadS ≤ (100.0 : F32))
    (valid : steeringValid input = true) :
    Steers 1 5 input.steeringCommand input.maxSteerRateRadS := by
  have half : (0.50 : F32).toRat = 1 / 2 := by decide +kernel
  have hundred : (100.0 : F32).toRat = 100 := by decide +kernel
  have zero : (0.0 : F32).toRat = 0 := Ieee.toRat_zero_literal
  simp only [steeringValid, Bool.and_eq_true, decide_eq_true_eq] at valid
  obtain ⟨⟨-, finite⟩, bound⟩ := valid
  have small : input.steeringCommand.absVal ≤ 1 / 2 := by
    have below := (Ieee.le_trans bound limit).2.2
    rwa [half] at below
  obtain ⟨angleFinite, angleBound⟩ := angle_within (Ieee.isNaN_of_isFinite finite) small
  have above := positive.2.2
  have below := slow.2.2
  rw [zero] at above
  rw [hundred, ← Ieee.absVal_of_pos above] at below
  exact ⟨rfl, by decide, by decide, by decide, angleFinite, isFiniteFloat_of_absVal_le slow.1 below, angleBound, positive⟩

theorem carries_encodeTc375 (s : Counters) {input : Inputs} (limit : input.maxSteerRad ≤ (0.50 : F32))
    (positive : (0.0 : F32) < input.maxSteerRateRadS) (slow : input.maxSteerRateRadS ≤ (100.0 : F32)) :
    Carries s.sequence (steeringValid input) input.steeringCommand (encodeTc375 s input).2 := by
  rw [encodeTc375, frontEncodeSteeringPacket_eq]
  cases valid : steeringValid input with
  | true =>
    have control : input.controlValid = true := by
      simp only [steeringValid, Bool.and_eq_true] at valid
      exact valid.1.1.1
    rw [control]
    exact carries_of_steers (steers_of_steeringValid limit positive slow valid) ..
  | false =>
    cases input.controlValid with
    | true => exact carries_of_emergency (by decide) (by decide) ..
    | false => exact carries_of_emergency (by decide) (by decide) ..

end Tc375

/-! ### The host programs -/

/-- A packet with marks that steer carries its angle. -/
theorem carries_packHpsc_of_marked {controlMode flags : UInt8} (marks : MarkedSteering controlMode flags)
    {angleRad maxRateRadS : F64} (within : AngleWithin angleRad) {rate : F32} (rateWithin : RateWithin maxRateRadS rate)
    (sequence : UInt32) (timestampUs : UInt64) (aliveCount : UInt16) :
    ∃ packet, packHpsc controlMode flags sequence timestampUs angleRad maxRateRadS aliveCount = .ok packet ∧
      Carries sequence true (angleRad.convert binary32) packet :=
  ⟨_, packHpsc_of_within within rateWithin .., carries_of_steers (marks.steers within rateWithin) ..⟩

/-- A packet with the emergency mark carries the center. -/
theorem carries_packHpsc_of_emergency {controlMode flags : UInt8} (emergency : flags &&& Front.hpscFlagEmergencyCenter ≠ 0)
    (unsteered : flags &&& Front.hpscFlagSteeringValid = 0) {angleRad maxRateRadS : F64} (within : AngleWithin angleRad)
    {rate : F32} (rateWithin : RateWithin maxRateRadS rate) (meant : F32) (sequence : UInt32) (timestampUs : UInt64)
    (aliveCount : UInt16) :
    ∃ packet, packHpsc controlMode flags sequence timestampUs angleRad maxRateRadS aliveCount = .ok packet ∧
      Carries sequence false meant packet :=
  ⟨_, packHpsc_of_within within rateWithin .., carries_of_emergency emergency unsteered ..⟩

theorem carries_buildFrontPacket (store : RuntimeControlStore) (clock : Clock) :
    ∃ packet, buildFrontPacket store clock = .ok packet ∧
      Carries store.sequence store.state.effectiveLkasActive ((requestedSteeringAngle store.state).convert binary32)
        packet := by
  have angle := angleWithin_requested store.state
  unfold buildFrontPacket
  generalize requestedSteeringAngle store.state = angleRad at *
  cases store.state.effectiveLkasActive with
  | true =>
    simp only [if_true]
    have marks : MarkedSteering hpscControlSteeringAngle 5 := ⟨rfl, by decide, by decide, by decide⟩
    exact carries_packHpsc_of_marked marks angle rateWithin_half ..
  | false =>
    simp only [Bool.false_eq_true, if_false]
    exact carries_packHpsc_of_emergency (by decide) (by decide) angleWithin_zero rateWithin_half ..

theorem Remote.carries_packFrontSteering {config : Remote.Config} (within : Remote.SteersWithin config)
    (s : Remote.RemoteControlState) (clock : Clock) (emergencyCenter : Bool) :
    ∃ packet, Remote.packFrontSteering config s clock emergencyCenter = .ok packet ∧
      Carries s.sequence (!emergencyCenter && !s.emergencyStop) ((Remote.steeringAngle config s).convert binary32)
        packet := by
  have angle := Remote.steeringAngle_within within s
  unfold Remote.packFrontSteering
  generalize Remote.steeringAngle config s = angleRad at *
  cases emergencyCenter with
  | true =>
    rw [if_pos rfl]
    exact carries_packHpsc_of_emergency (by decide) (by decide) angleWithin_zero Remote.rateWithin_two ..
  | false =>
    rw [if_neg Bool.false_ne_true]
    cases s.emergencyStop with
    | true => exact carries_packHpsc_of_emergency (by decide) (by decide) angle Remote.rateWithin_two ..
    | false =>
      have marks : MarkedSteering hpscControlSteeringAngle 5 := ⟨rfl, by decide, by decide, by decide⟩
      exact carries_packHpsc_of_marked marks angle Remote.rateWithin_two ..

/-- Whatever the sender holds and whatever it is given, its packet reaches FRONT as it is meant. -/
theorem steering_encoders_agree :
    (∀ (s : Tc375.Counters) (input : Tc375.Inputs), (0.0 : F32) < input.maxSteerRad →
      input.maxSteerRad ≤ (0.50 : F32) → (0.0 : F32) < input.maxSteerRateRadS →
      input.maxSteerRateRadS ≤ (100.0 : F32) →
        Carries s.sequence (Tc375.steeringValid input) input.steeringCommand (Tc375.encodeTc375 s input).2) ∧
    (∀ (store : RuntimeControlStore) (clock : Clock) (sends : Sends), ∃ packet,
      buildFrontPacket store clock = .ok packet ∧
      (∀ sent ∈ (publishRuntimeControl store clock sends).2.front, sent = packet) ∧
      Carries store.sequence store.state.effectiveLkasActive ((requestedSteeringAngle store.state).convert binary32)
        packet) ∧
    (∀ (steerRad maxSpeedMps : F64) (broadcast : Bool),
      let config := Remote.configure steerRad maxSpeedMps broadcast
      config.steerRad ≤ (0.50 : F64) → ∀ (s : Remote.RemoteControlState) (clock : Clock) (emergencyCenter : Bool),
        ∃ packet, Remote.packFrontSteering config s clock emergencyCenter = .ok packet ∧
          Carries s.sequence (!emergencyCenter && !s.emergencyStop)
            ((Remote.steeringAngle config s).convert binary32) packet) := by
  refine ⟨fun s input _ limit positive slow => Tc375.carries_encodeTc375 s limit positive slow,
    fun store clock sends => ?_, fun steerRad maxSpeedMps broadcast limit s clock emergencyCenter =>
      Remote.carries_packFrontSteering (Remote.steersWithin_configure limit) s clock emergencyCenter⟩
  obtain ⟨packet, built, carries⟩ := carries_buildFrontPacket store clock
  refine ⟨packet, built, fun sent member => ?_, carries⟩
  rcases front_publishRuntimeControl built sends with none | one
  · rw [none] at member
    cases member
  · rwa [one, List.mem_singleton] at member

/-- A command that the deployed encoder authorizes, and a remote controller at its limit. -/
theorem quarter_turn_carried :
    Tc375.steeringValid ⟨0.25, true, true, 1.5, 0.50, 1.0⟩ = true ∧
    Carries 7 (Tc375.steeringValid ⟨0.25, true, true, 1.5, 0.50, 1.0⟩) 0.25
      (Tc375.encodeTc375 ⟨7, 0⟩ ⟨0.25, true, true, 1.5, 0.50, 1.0⟩).2 ∧
    ∃ packet, Remote.packFrontSteering (Remote.configure 0.50 1.0 false) (Remote.start 7) ⟨0, 0⟩ false = .ok packet ∧
      Carries 7 true ((Remote.steeringAngle (Remote.configure 0.50 1.0 false) (Remote.start 7)).convert binary32)
        packet :=
  ⟨by decide +kernel,
    steering_encoders_agree.1 ⟨7, 0⟩ _ (by decide +kernel) (by decide +kernel) (by decide +kernel) (by decide +kernel),
    steering_encoders_agree.2.2 0.50 1.0 false (by decide +kernel) (Remote.start 7) ⟨0, 0⟩ false⟩

end SelfDriving.Hpvc
