import SelfDriving.Foundations.Numbering
import SelfDriving.Hpvc.RearCommandProofs
import SelfDriving.Hpvc.RemoteProofs

/-! The sequence numbers of the packets that reach FRONT. Both publishers send to
FRONT first and count at the end, so a number is used again whenever a later part
of the publish fails. -/
namespace SelfDriving.Hpvc
open Ieee754 Python Bytes

/-! ### The runtime store -/

/-- The sequence numbers that one step puts on the wire to FRONT. -/
def sentSequences (store : RuntimeControlStore) (event : StoreEvent) : List UInt32 :=
  (runtimeStore.output store event).front.map hpscSequence

/-- A publish whose FRONT send goes well. -/
def Reaches (_ : RuntimeControlStore) : StoreEvent → Prop
  | .update _ _ sends | .publish _ sends => sends.front = true
  | .front _ | .rear _ => False

/-- Everything after the FRONT send of a publish goes well. -/
def PublishCompletes (s : RuntimeControlState) (sends : Sends) : Prop :=
  sends.rear = true ∧ commandOverflows s = false

/-- The same for whatever an event publishes. -/
def Completes (store : RuntimeControlStore) : StoreEvent → Prop
  | .update changes _ sends => PublishCompletes (recomputeEffective (changes.foldl setField store.state)) sends
  | .publish _ sends => PublishCompletes store.state sends
  | .front _ | .rear _ => True

theorem packSingle_of_fits {x : F64} (fits : singleOverflows x = false) : ∃ y, packSingle x = .ok y := by
  rcases packSingle_cases x with ⟨-, packed⟩ | ⟨overflows, -⟩
  · exact ⟨_, packed⟩
  · rw [fits] at overflows
    cases overflows

theorem requestedSteeringAngle_fits (s : RuntimeControlState) :
    singleOverflows (requestedSteeringAngle s) = false := by
  unfold requestedSteeringAngle
  split
  · decide +kernel
  · split
    · decide +kernel
    · decide +kernel

/-- A steering packet is always built, under the number of the store. -/
theorem buildFrontPacket_ok (store : RuntimeControlStore) (clock : Clock) :
    ∃ packet, buildFrontPacket store clock = .ok packet ∧ hpscSequence packet = store.sequence := by
  have angle : singleOverflows (if store.state.effectiveLkasActive then requestedSteeringAngle store.state else 0.0) =
      false := by
    split
    · exact requestedSteeringAngle_fits _
    · decide +kernel
  obtain ⟨angle, packed⟩ := packSingle_of_fits angle
  obtain ⟨rate, packed'⟩ := packSingle_of_fits (by decide +kernel : singleOverflows (0.5 : F64) = false)
  simp only [buildFrontPacket, packHpsc, packed, packed']
  exact ⟨_, rfl, hpscSequence_packet ..⟩

/-- What one publish of the store does. -/
theorem publishRuntimeControl_cases (store : RuntimeControlStore) (clock : Clock) (sends : Sends) :
    let result := publishRuntimeControl store clock sends
    -- The FRONT send fails.
    (¬ sends.front = true ∧ result.2.front.map hpscSequence = [] ∧ result.1.sequence = store.sequence) ∨
    -- Everything goes well.
    (sends.front = true ∧ result.2.front.map hpscSequence = [store.sequence] ∧
      PublishCompletes store.state sends ∧ result.1.sequence = store.sequence + 1) ∨
    -- The REAR packet is not built or not sent.
    (sends.front = true ∧ result.2.front.map hpscSequence = [store.sequence] ∧
      ¬ PublishCompletes store.state sends ∧ result.1.sequence = store.sequence) := by
  obtain ⟨packet, built, sequence⟩ := buildFrontPacket_ok store clock
  have sent : [packet].map hpscSequence = [store.sequence] := by rw [List.map_singleton, sequence]
  cases front : sends.front with
  | false =>
    simp only [publishRuntimeControl, built, front]
    exact .inl ⟨Bool.false_ne_true, rfl, rfl⟩
  | true =>
    rcases buildRearCommandPacket_cases store clock with ⟨fits, rear⟩ | ⟨overflows, error, rear⟩
    · cases taken : sends.rear with
      | false =>
        simp only [publishRuntimeControl, built, front, rear, taken]
        refine .inr (.inr ⟨trivial, sent, ?_, rfl⟩)
        rintro ⟨sentRear, -⟩
        rw [taken] at sentRear
        cases sentRear
      | true =>
        simp only [publishRuntimeControl, built, front, rear, taken]
        exact .inr (.inl ⟨trivial, sent, ⟨taken, fits⟩, rfl⟩)
    · simp only [publishRuntimeControl, built, front, rear]
      refine .inr (.inr ⟨trivial, sent, ?_, rfl⟩)
      rintro ⟨-, fits⟩
      rw [overflows] at fits
      cases fits

/-- The store numbers its packets, and a publish that does not complete keeps its number. -/
theorem runtimeStore_numbers :
    Numbers runtimeStore RuntimeControlStore.sequence sentSequences Reaches Completes where
  step store event := by
    cases event with
    | update changes clock sends =>
      exact publishRuntimeControl_cases
        { store with state := recomputeEffective (changes.foldl setField store.state) } clock sends
    | publish clock sends => exact publishRuntimeControl_cases store clock sends
    | front data => exact .inl ⟨id, rfl, rfl⟩
    | rear data => exact .inl ⟨id, rfl, rfl⟩

/-! ### The remote controller -/

namespace Remote

/-- The sequence numbers that one step sends to the unicast address of FRONT. -/
def sentSequences (app : HttpApp) (config : Config) (s : RemoteControlState) (event : Event) : List UInt32 :=
  ((controller app config).output s event).front.map hpscSequence

/-- A publish whose steering packet is built and sent to the unicast address. -/
structure PublishReaches (config : Config) (s : RemoteControlState) (sends : Sends) : Prop where
  fits : singleOverflows (steeringAngle config s) = false
  front : sends.front = none

/-- Everything after the unicast FRONT send of a publish goes well. -/
structure PublishCompletes (config : Config) (s : RemoteControlState) (sends : Sends) : Prop where
  broadcast : config.broadcast = true → sends.broadcast = none
  fits : s.driveCommand ≠ .stop → singleOverflows s.targetSpeedMps = false
  rear : sends.rear = none

def Reaches (app : HttpApp) (config : Config) (s : RemoteControlState) : Event → Prop
  | .post route body _ sends =>
    publishes app config route body = true ∧ PublishReaches config (commanded app config s route body) sends
  | .publish _ sends => PublishReaches config s sends

def Completes (app : HttpApp) (config : Config) (s : RemoteControlState) : Event → Prop
  | .post route body _ sends => PublishCompletes config (commanded app config s route body) sends
  | .publish _ sends => PublishCompletes config s sends

theorem steeringAngle_fits (config : Config) (fits : singleOverflows config.steerRad = false)
    (fits' : singleOverflows (-config.steerRad) = false) (s : RemoteControlState) :
    singleOverflows (steeringAngle config s) = false := by
  unfold steeringAngle
  split
  · decide +kernel
  · split
    · exact fits
    · exact fits'
    · decide +kernel

theorem packRearDrive_cases (s : RemoteControlState) (clock : Clock) :
    ((s.driveCommand ≠ .stop → singleOverflows s.targetSpeedMps = false) ∧
      ∃ packet, packRearDrive s clock = .ok packet) ∨
    ((¬ (s.driveCommand ≠ .stop → singleOverflows s.targetSpeedMps = false)) ∧
      ∃ error, packRearDrive s clock = .error error) := by
  unfold packRearDrive
  by_cases stopped : s.driveCommand = .stop
  · obtain ⟨zero, packed⟩ := packSingle_of_fits (by decide +kernel : singleOverflows (0.0 : F64) = false)
    simp only [stopped, if_true, packed]
    exact .inl ⟨fun moving => absurd rfl moving, _, rfl⟩
  · simp only [stopped, if_false]
    rcases packSingle_cases s.targetSpeedMps with ⟨fits, packed⟩ | ⟨overflows, packed⟩
    · rw [packed]
      exact .inl ⟨fun _ => fits, _, rfl⟩
    · rw [packed]
      refine .inr ⟨fun all => ?_, _, rfl⟩
      rw [all stopped] at overflows
      cases overflows

/-- The steering packet is built when its angle can be packed. -/
theorem packFrontSteering_cases (config : Config) (s : RemoteControlState) (clock : Clock) :
    (singleOverflows (steeringAngle config s) = false ∧ ∃ packet, packFrontSteering config s clock false = .ok packet ∧
      hpscSequence packet = s.sequence) ∨
    (singleOverflows (steeringAngle config s) = true ∧ ∃ error, packFrontSteering config s clock false = .error error) := by
  obtain ⟨rate, packed'⟩ := packSingle_of_fits (by decide +kernel : singleOverflows (2.0 : F64) = false)
  rcases packSingle_cases (steeringAngle config s) with ⟨fits, packed⟩ | ⟨overflows, packed⟩
  · refine .inl ⟨fits, ?_⟩
    simp only [packFrontSteering, packHpsc, packed, packed']
    exact ⟨_, rfl, hpscSequence_packet ..⟩
  · refine .inr ⟨overflows, ?_⟩
    simp only [packFrontSteering, packHpsc, packed]
    exact ⟨_, rfl⟩

theorem fits_of_packFrontSteering {config : Config} {s : RemoteControlState} {clock : Clock} {packet : List UInt8}
    (packed : packFrontSteering config s clock false = .ok packet) :
    singleOverflows (steeringAngle config s) = false ∧ hpscSequence packet = s.sequence := by
  rcases packFrontSteering_cases config s clock with ⟨fits, same, built, sequence⟩ | ⟨-, error, raised⟩
  · rw [packed] at built
    obtain rfl := Except.ok.inj built
    exact ⟨fits, sequence⟩
  · rw [packed] at raised
    cases raised

theorem overflows_of_packFrontSteering {config : Config} {s : RemoteControlState} {clock : Clock} {error : PyError}
    (raised : packFrontSteering config s clock false = .error error) :
    singleOverflows (steeringAngle config s) = true := by
  rcases packFrontSteering_cases config s clock with ⟨-, packet, packed, -⟩ | ⟨overflows, -⟩
  · rw [raised] at packed
    cases packed
  · exact overflows

theorem fits_of_packRearDrive {s : RemoteControlState} {clock : Clock} {packet : List UInt8}
    (packed : packRearDrive s clock = .ok packet) :
    s.driveCommand ≠ .stop → singleOverflows s.targetSpeedMps = false := by
  rcases packRearDrive_cases s clock with ⟨fits, -⟩ | ⟨-, error, raised⟩
  · exact fits
  · rw [packed] at raised
    cases raised

theorem overflows_of_packRearDrive {s : RemoteControlState} {clock : Clock} {error : PyError}
    (raised : packRearDrive s clock = .error error) :
    ¬ (s.driveCommand ≠ .stop → singleOverflows s.targetSpeedMps = false) := by
  rcases packRearDrive_cases s clock with ⟨-, packet, packed⟩ | ⟨overflows, -⟩
  · rw [raised] at packed
    cases packed
  · exact overflows

/-- What one publish of the remote controller does. -/
theorem publish_cases (config : Config) (s : RemoteControlState) (clock : Clock) (sends : Sends) :
    let result := publish config s clock sends
    (¬ PublishReaches config s sends ∧ result.2.front.map hpscSequence = [] ∧ result.1.sequence = s.sequence) ∨
    (PublishReaches config s sends ∧ result.2.front.map hpscSequence = [s.sequence] ∧
      PublishCompletes config s sends ∧ result.1.sequence = s.sequence + 1) ∨
    (PublishReaches config s sends ∧ result.2.front.map hpscSequence = [s.sequence] ∧
      ¬ PublishCompletes config s sends ∧ result.1.sequence = s.sequence) := by
  have sent {packet : List UInt8} (packed : packFrontSteering config s clock false = .ok packet) :
      [packet].map hpscSequence = [s.sequence] := by
    rw [List.map_singleton, (fits_of_packFrontSteering packed).2]
  have outcome := publish_outcome config s clock sends
  generalize publish config s clock sends = result at *
  cases outcome with
  | frontUnpacked packed =>
    refine .inl ⟨fun reaches => ?_, rfl, rfl⟩
    have overflows := overflows_of_packFrontSteering packed
    rw [reaches.fits] at overflows
    cases overflows
  | frontFails packed front =>
    refine .inl ⟨fun reaches => ?_, rfl, rfl⟩
    rw [reaches.front] at front
    cases front
  | broadcastFails packed front configured broadcast =>
    refine .inr (.inr ⟨⟨(fits_of_packFrontSteering packed).1, front⟩, sent packed, fun completes => ?_, rfl⟩)
    rw [completes.broadcast configured] at broadcast
    cases broadcast
  | rearUnpacked packed front _ rear =>
    refine .inr (.inr ⟨⟨(fits_of_packFrontSteering packed).1, front⟩, sent packed, fun completes => ?_, rfl⟩)
    exact overflows_of_packRearDrive rear completes.fits
  | rearFails packed front _ _ taken =>
    refine .inr (.inr ⟨⟨(fits_of_packFrontSteering packed).1, front⟩, sent packed, fun completes => ?_, rfl⟩)
    rw [completes.rear] at taken
    cases taken
  | completes packed front broadcast rear taken =>
    exact .inr (.inl ⟨⟨(fits_of_packFrontSteering packed).1, front⟩, sent packed,
      ⟨broadcast, fits_of_packRearDrive rear, taken⟩, rfl⟩)

/-- The remote controller numbers its packets in the same way. -/
theorem controller_numbers (app : HttpApp) (config : Config) :
    Numbers (controller app config) RemoteControlState.sequence (sentSequences app config) (Reaches app config)
      (Completes app config) where
  step s event := by
    cases event with
    | publish clock sends => exact publish_cases config s clock sends
    | post route body clock sends =>
      rcases post_cases app config s route body clock sends with
        ⟨passes, sequence, -, sent⟩ | ⟨fails, after, error, silent, sequence, -⟩
      · have cases := publish_cases config (commanded app config s route body) clock sends
        rw [← sent, sequence] at cases
        rcases cases with ⟨misses, rest⟩ | ⟨reaches, rest⟩ | ⟨reaches, rest⟩
        · exact .inl ⟨fun reaches => misses reaches.2, rest⟩
        · exact .inr (.inl ⟨⟨passes, reaches⟩, rest⟩)
        · exact .inr (.inr ⟨⟨passes, reaches⟩, rest⟩)
      · refine .inl ⟨fun reaches => ?_, ?_, ?_⟩
        · have passes := reaches.1
          rw [fails] at passes
          cases passes
        · change (post app config s route body clock sends).2.front.map hpscSequence = []
          rw [silent, List.map_nil]
        · change (post app config s route body clock sends).1.sequence = s.sequence
          rw [silent, sequence]

end Remote

/-! ### Both -/

/-- FRONT gets consecutive numbers exactly in the runs in which every publish that
reaches it completes before the next one does. -/
theorem consecutive_sequences_iff (store : RuntimeControlStore) (events : List StoreEvent) (app : Remote.HttpApp)
    (config : Remote.Config) (s : Remote.RemoteControlState) (requests : List Remote.Event) :
    (Consecutive (runtimeStore.collect sentSequences store events) ↔
      Numbers.Uninterrupted runtimeStore Reaches Completes store events) ∧
    (Consecutive ((Remote.controller app config).collect (Remote.sentSequences app config) s requests) ↔
      Numbers.Uninterrupted (Remote.controller app config) (Remote.Reaches app config)
        (Remote.Completes app config) s requests) :=
  ⟨runtimeStore_numbers.consecutive_iff store events,
    (Remote.controller_numbers app config).consecutive_iff s requests⟩

/-- Two publishes, the first of which cannot send to REAR, give FRONT one number twice. -/
theorem failed_rear_send_repeats_sequence :
    ¬ Consecutive (runtimeStore.collect sentSequences storeStart
      [.publish ⟨0, 0⟩ ⟨true, true, false⟩, .publish ⟨50, 50000⟩ ⟨true, true, true⟩]) := by
  rw [runtimeStore_numbers.consecutive_iff]
  intro uninterrupted
  have completes := uninterrupted [] _ _ rfl rfl ⟨[], _, [], rfl, rfl⟩
  cases completes.1

end SelfDriving.Hpvc
