import SelfDriving.Foundations.Resynchronization
import SelfDriving.Hpvc.SequenceProofs
import SelfDriving.Hpvc.SteeringDeliveryProofs

/-! The resynchronisation of the remote controller with FRONT. Its four packets bring
FRONT to the last of them, whatever it held. After that every publish is accepted
as long as each goes on to the next number; one that reaches FRONT and then fails
repeats its number, and FRONT refuses the repetition. -/
namespace SelfDriving.Hpvc.Remote
open Ieee754 Python SerialNumber

/-- The angle of a turn is within FRONT's limits. -/
structure SteersWithin (config : Config) : Prop where
  finite : config.steerRad.isFinite = true
  small : config.steerRad.absVal ≤ 1 / 2

theorem steersWithin_configure {steerRad maxSpeedMps : F64} {broadcast : Bool}
    (limit : (configure steerRad maxSpeedMps broadcast).steerRad ≤ (0.50 : F64)) :
    SteersWithin (configure steerRad maxSpeedMps broadcast) := by
  have half : (0.50 : F64).toRat = 1 / 2 := by decide +kernel
  have small : (configure steerRad maxSpeedMps broadcast).steerRad.absVal ≤ 1 / 2 := by
    have bound := limit.2.2
    rwa [half] at bound
  have room : (1 / 2 : ℚ) < Ieee.limit binary64 := by decide +kernel
  exact ⟨Ieee.isFinite_iff.mpr (small.trans_lt room), small⟩

/-! ### Packets -/

theorem steeringAngle_within {config : Config} (within : SteersWithin config) (s : RemoteControlState) :
    AngleWithin (steeringAngle config s) := by
  unfold steeringAngle
  split
  · exact angleWithin_zero
  · split
    · exact ⟨within.finite, within.small⟩
    · exact ⟨within.finite, within.small⟩
    · exact angleWithin_zero

/-- The rate of the controller's packets. -/
theorem rateWithin_two : RateWithin 2.0 2.0 := ⟨by decide +kernel, by decide +kernel, by decide +kernel⟩

/-- A steering packet with such an angle is obeyed, under the number of the state. -/
theorem obeyable_of_packed {config : Config} {s : RemoteControlState} (within : AngleWithin (steeringAngle config s))
    {clock : Clock} {packet : List UInt8} (packed : packFrontSteering config s clock false = .ok packet) :
    Obeyable packet ∧ hpscSequence packet = s.sequence := by
  rw [packFrontSteering, if_neg Bool.false_ne_true] at packed
  refine obeyable_packHpsc packed ?_ within rateWithin_two
  cases s.emergencyStop with
  | true => exact .inl (by decide)
  | false => exact .inr ⟨rfl, by decide, by decide, by decide⟩

/-- The steering packets of a step, at the unicast address. -/
def unicastPackets (app : HttpApp) (config : Config) (s : RemoteControlState) (event : Event) : List (List UInt8) :=
  ((controller app config).output s event).front

theorem obeyable_unicastPackets {app : HttpApp} {config : Config} (within : SteersWithin config)
    (s : RemoteControlState) (event : Event) : ∀ packet ∈ unicastPackets app config s event, Obeyable packet := by
  have published (t : RemoteControlState) (clock : Clock) (sends : Sends) :
      ∀ packet ∈ (publish config t clock sends).2.front, Obeyable packet := by
    intro packet member
    have packed := (publish_sent config t clock sends).1 packet (List.mem_append_left _ member)
    exact (obeyable_of_packed (steeringAngle_within within t) packed).1
  cases event with
  | publish clock sends => exact published s clock sends
  | post route body clock sends =>
    intro packet member
    change packet ∈ (post app config s route body clock sends).2.front at member
    rcases post_cases app config s route body clock sends with ⟨_, _, _, sent⟩ | ⟨_, after, error, silent, _⟩
    · rw [sent] at member
      exact published _ clock sends packet member
    · rw [silent] at member
      cases member

/-! ### The four packets -/

/-- The wheels are straight and nothing holds the vehicle: what the loop packs from. -/
def Straight (s : RemoteControlState) : Prop := s.steeringCommand = .straight ∧ s.emergencyStop = false

/-- The broadcast copy goes out, if there is an address for it. -/
def Broadcasts (config : Config) (sends : Sends) : Prop := config.broadcast = true → sends.broadcast = none

theorem broadcasts_iff (config : Config) (sends : Sends) :
    Broadcasts config sends ↔ (if config.broadcast then sends.broadcast else none) = none := by
  unfold Broadcasts
  cases config.broadcast <;> simp

/-- The packet that the loop sends under a number. -/
def LoopPacket (sequence : UInt32) (packet : List UInt8) : Prop := Obeyable packet ∧ hpscSequence packet = sequence

theorem packFrontSteering_straight (config : Config) {s : RemoteControlState} (straight : Straight s) (clock : Clock) :
    ∃ packet, packFrontSteering config s clock false = .ok packet ∧ LoopPacket s.sequence packet := by
  have fits : singleOverflows (0.0 : F64) = false := by decide +kernel
  have ahead : steeringAngle config s = 0.0 := by
    rw [steeringAngle, straight.1, straight.2]
    rfl
  rcases packFrontSteering_cases config s clock with ⟨-, packet, packed, -⟩ | ⟨overflows, -⟩
  · refine ⟨packet, packed, obeyable_of_packed ?_ packed⟩
    rw [ahead]
    exact angleWithin_zero
  · rw [ahead, fits] at overflows
    cases overflows

/-- One turn of the loop: nothing goes out, or it ends with one packet, or it goes on. -/
theorem resyncLoop_cases (config : Config) (base : UInt32) {s : RemoteControlState} (straight : Straight s)
    (index : UInt32) (clock : Clock) (sends : Sends) (rest : List (Clock × Sends)) :
    let result := resyncLoop config base s index ((clock, sends) :: rest)
    result.2.1.front = [] ∨
    (∃ packet, LoopPacket (base + frontSequenceResyncStep * index) packet ∧ ¬ Broadcasts config sends ∧
      result.2.1.front = [packet] ∧ result.2.2 = false ∧
      result.1.sequence = base + frontSequenceResyncStep * index) ∨
    (∃ packet t, LoopPacket (base + frontSequenceResyncStep * index) packet ∧ Broadcasts config sends ∧ Straight t ∧
      result.2.1.front = packet :: (resyncLoop config base t (index + 1) rest).2.1.front ∧
      result.2.2 = (resyncLoop config base t (index + 1) rest).2.2 ∧
      result.1 = (resyncLoop config base t (index + 1) rest).1) := by
  intro result
  have straight' : Straight { s with sequence := base + frontSequenceResyncStep * index } := straight
  obtain ⟨packet, packed, sent⟩ := packFrontSteering_straight config straight' clock
  have broadcasts := broadcasts_iff config sends
  simp only [result, resyncLoop, packed]
  cases sends.front with
  | some text => exact .inl rfl
  | none =>
    cases broadcast : if config.broadcast then sends.broadcast else none with
    | some text =>
      rw [broadcast] at broadcasts
      exact .inr (.inl ⟨packet, sent, fun all => absurd (broadcasts.mp all) nofun, rfl, rfl, rfl⟩)
    | none =>
      let t := { s with
        sequence := base + frontSequenceResyncStep * index
        aliveCount := s.aliveCount + 1
        sentFrontPackets := s.sentFrontPackets + 1 }
      exact .inr (.inr ⟨packet, t, sent, broadcasts.mpr broadcast, straight, rfl, rfl, rfl⟩)

/-- With more to send, a loop that sends everything goes on past its first packet. -/
theorem resyncLoop_goes_on {config : Config} {base : UInt32} {s : RemoteControlState} (straight : Straight s)
    {index : UInt32} {step : Clock × Sends} {rest : List (Clock × Sends)} (more : rest ≠ [])
    (all : (resyncLoop config base s index (step :: rest)).2.1.front.length = rest.length + 1) :
    ∃ packet t, LoopPacket (base + frontSequenceResyncStep * index) packet ∧ Straight t ∧
      (resyncLoop config base s index (step :: rest)).2.1.front =
        packet :: (resyncLoop config base t (index + 1) rest).2.1.front ∧
      (resyncLoop config base s index (step :: rest)).2.2 = (resyncLoop config base t (index + 1) rest).2.2 ∧
      (resyncLoop config base s index (step :: rest)).1 = (resyncLoop config base t (index + 1) rest).1 ∧
      (resyncLoop config base t (index + 1) rest).2.1.front.length = rest.length := by
  rcases resyncLoop_cases config base straight index step.1 step.2 rest with
    none | ⟨packet, _, _, one, _⟩ | ⟨packet, t, sent, _, straight', sends, ends, leaves⟩
  · rw [none] at all
    cases all
  · rw [one, List.length_singleton, Nat.right_eq_add] at all
    exact absurd (List.length_eq_zero_iff.mp all) more
  · refine ⟨packet, t, sent, straight', sends, ends, leaves, ?_⟩
    rw [sends, List.length_cons] at all
    exact Nat.succ.inj all

/-- What the loop leaves when all its packets go out. -/
theorem resyncLoop_four {config : Config} {base : UInt32} {s u : RemoteControlState} (straight : Straight s)
    {first second third fourth : Clock × Sends} {published : Published} {ended : Bool}
    (loop : resyncLoop config base s 0 [first, second, third, fourth] = (u, published, ended))
    (sent : published.front.length = 4) :
    published.front.map hpscSequence = quarters base ∧ (∀ packet ∈ published.front, Obeyable packet) ∧
    (Broadcasts config fourth.2 ∧ ended = true ∨
      ¬ Broadcasts config fourth.2 ∧ ended = false ∧ u.sequence = base + frontSequenceResyncStep * 3) := by
  have all : (resyncLoop config base s 0 [first, second, third, fourth]).2.1.front.length = 4 := by rw [loop, sent]
  obtain ⟨packet₀, t₁, sent₀, straight₁, front₀, ended₀, state₀, all₁⟩ := resyncLoop_goes_on straight (by simp) all
  obtain ⟨packet₁, t₂, sent₁, straight₂, front₁, ended₁, state₁, all₂⟩ := resyncLoop_goes_on straight₁ (by simp) all₁
  obtain ⟨packet₂, t₃, sent₂, straight₃, front₂, ended₂, state₂, all₃⟩ := resyncLoop_goes_on straight₂ (by simp) all₂
  have last : ∃ packet₃, LoopPacket (base + frontSequenceResyncStep * 3) packet₃ ∧
      (resyncLoop config base t₃ (0 + 1 + 1 + 1) [fourth]).2.1.front = [packet₃] ∧
      (Broadcasts config fourth.2 ∧ (resyncLoop config base t₃ (0 + 1 + 1 + 1) [fourth]).2.2 = true ∨
        ¬ Broadcasts config fourth.2 ∧ (resyncLoop config base t₃ (0 + 1 + 1 + 1) [fourth]).2.2 = false ∧
          (resyncLoop config base t₃ (0 + 1 + 1 + 1) [fourth]).1.sequence = base + frontSequenceResyncStep * 3) := by
    rcases resyncLoop_cases config base straight₃ (0 + 1 + 1 + 1) fourth.1 fourth.2 [] with
      none | ⟨packet₃, sent₃, fails, front₃, ended₃, state₃⟩ | ⟨packet₃, t₄, sent₃, broadcasts, _, front₃, ended₃, _⟩
    · rw [none] at all₃
      cases all₃
    · exact ⟨packet₃, sent₃, front₃, .inr ⟨fails, ended₃, state₃⟩⟩
    · exact ⟨packet₃, sent₃, front₃, .inl ⟨broadcasts, ended₃⟩⟩
  obtain ⟨packet₃, sent₃, front₃, ends⟩ := last
  rw [front₁, front₂, front₃, loop] at front₀
  rw [← ended₂, ← ended₁, ← ended₀, ← state₂, ← state₁, ← state₀, loop] at ends
  change published.front = _ at front₀
  rw [front₀]
  refine ⟨?_, ?_, ends⟩
  · rw [List.map_cons, List.map_cons, List.map_cons, List.map_singleton, sent₀.2, sent₁.2, sent₂.2, sent₃.2,
      UInt32.mul_zero, UInt32.add_zero]
    rfl
  · simp [sent₀.1, sent₁.1, sent₂.1, sent₃.1]

/-- The number that the resynchronisation counts from. -/
def baseSequence (s : RemoteControlState) : UInt32 := s.sequence &&& (frontSequenceResyncStep - 1)

/-- The stopped vehicle that the loop starts from. -/
def stoppedStraight (s : RemoteControlState) : RemoteControlState :=
  { s with driveCommand := .stop, steeringCommand := .straight, emergencyStop := false }

theorem resyncFrontSequence_sequence {config : Config} {s t u : RemoteControlState} {first second third fourth : Clock × Sends}
    {published : Published} {ended : Bool}
    (loop : resyncLoop config (baseSequence s) (stoppedStraight s) 0 [first, second, third, fourth] = (u, published, ended))
    {resync : Published} (left : resyncFrontSequence config s first second third fourth = (t, resync)) :
    resync = published ∧
      t.sequence = if ended then baseSequence s + frontSequenceResyncStep * 3 + 1 else u.sequence := by
  rw [resyncFrontSequence, ← baseSequence, ← stoppedStraight, loop] at left
  cases left
  cases ended with
  | true => exact ⟨rfl, rfl⟩
  | false => exact ⟨rfl, rfl⟩

/-- Four packets a quarter apart; the controller goes on after the last of them,
or from it again when its broadcast copy could not be sent. -/
theorem resyncFrontSequence_spec {config : Config} {s t : RemoteControlState} {first second third fourth : Clock × Sends}
    {resync : Published} (left : resyncFrontSequence config s first second third fourth = (t, resync))
    (sent : resync.front.length = 4) :
    resync.front.map hpscSequence = quarters (baseSequence s) ∧ (∀ packet ∈ resync.front, Obeyable packet) ∧
    (Broadcasts config fourth.2 ∧ t.sequence = baseSequence s + quarter * 3 + 1 ∨
      ¬ Broadcasts config fourth.2 ∧ t.sequence = baseSequence s + quarter * 3) := by
  rcases loop : resyncLoop config (baseSequence s) (stoppedStraight s) 0 [first, second, third, fourth] with
    ⟨u, published, ended⟩
  obtain ⟨rfl, sequence⟩ := resyncFrontSequence_sequence loop left
  obtain ⟨numbers, obeyable, ends⟩ := resyncLoop_four ⟨rfl, rfl⟩ loop sent
  refine ⟨numbers, obeyable, ?_⟩
  rcases ends with ⟨broadcasts, rfl⟩ | ⟨fails, rfl, last⟩
  · exact .inl ⟨broadcasts, sequence⟩
  · exact .inr ⟨fails, sequence.trans last⟩

/-! ### At FRONT -/

/-- The steering packets that go out in a run. -/
def steeringPackets (app : HttpApp) (config : Config) (s : RemoteControlState) (requests : List Event) :
    List (List UInt8) :=
  (controller app config).collect (unicastPackets app config) s requests

theorem steeringPackets_sequences (app : HttpApp) (config : Config) (s : RemoteControlState) (requests : List Event) :
    (steeringPackets app config s requests).map hpscSequence =
      (controller app config).collect (sentSequences app config) s requests :=
  Machine.map_collect ..

theorem obeyable_steeringPackets (app : HttpApp) {config : Config} (within : SteersWithin config)
    (s : RemoteControlState) (requests : List Event) :
    ∀ packet ∈ steeringPackets app config s requests, Obeyable packet :=
  Machine.forall_mem_collect _ (obeyable_unicastPackets within) s requests

/-- FRONT ends at the last of the four packets, whatever it held before. -/
def Settles (f : Front.State F32) (resync : Published) : Prop :=
  ∀ resyncs, Delivered resyncs resync.front →
    (resync.front.map hpscSequence).getLast? = some (Front.deliver f resyncs).lastSequence

/-- After the four packets FRONT accepts the first copy of every packet. -/
def Follows (f : Front.State F32) (resync : Published) (packets : List (List UInt8)) : Prop :=
  ∀ resyncs deliveries, Delivered resyncs resync.front → Delivered deliveries packets →
    Front.FirstCopiesAccepted (Front.deliver f resyncs) deliveries

/-- The broadcast copy of the fourth packet goes out, if anything follows it, and after that
each publish that reaches FRONT completes before the next one does. -/
def GoesOn (app : HttpApp) (config : Config) (t : RemoteControlState) (fourth : Sends) (requests : List Event) : Prop :=
  (Numbers.Reaching (controller app config) (Reaches app config) t requests → Broadcasts config fourth) ∧
    Numbers.Uninterrupted (controller app config) (Reaches app config) (Completes app config) t requests

section
variable {config : Config} {s t : RemoteControlState} {first second third fourth : Clock × Sends} {resync : Published}
  (left : resyncFrontSequence config s first second third fourth = (t, resync)) (sent : resync.front.length = 4)
include left sent

theorem held_resynchronized (f : Front.State F32) {resyncs : List Front.Delivery}
    (delivered : Delivered resyncs resync.front) :
    Front.held (Front.deliver f resyncs) = some (baseSequence s + quarter * 3) := by
  obtain ⟨numbers, obeyable, -⟩ := resyncFrontSequence_spec left sent
  obtain ⟨obeyed, same⟩ := delivered.obeyed obeyable
  rw [Front.held_deliver obeyed, same, numbers, foldl_quarters]

theorem settles (f : Front.State F32) : Settles f resync := by
  intro resyncs delivered
  have holds := held_resynchronized left sent f delivered
  obtain ⟨numbers, -⟩ := resyncFrontSequence_spec left sent
  rw [numbers, Front.lastSequence_of_held holds]
  rfl

theorem follows_iff (within : SteersWithin config) (app : HttpApp) (f : Front.State F32) (requests : List Event) :
    Follows f resync (steeringPackets app config t requests) ↔ GoesOn app config t fourth.2 requests := by
  obtain ⟨numbers, obeyable, next⟩ := resyncFrontSequence_spec left sent
  have counts : t.sequence = baseSequence s + quarter * 3 ∨ t.sequence = baseSequence s + quarter * 3 + 1 := by
    rcases next with ⟨_, sequence⟩ | ⟨_, sequence⟩
    · exact .inr sequence
    · exact .inl sequence
  have goes : t.sequence = baseSequence s + quarter * 3 + 1 ↔ Broadcasts config fourth.2 := by
    rcases next with ⟨broadcasts, sequence⟩ | ⟨fails, sequence⟩
    · exact iff_of_true sequence broadcasts
    · refine iff_of_false (fun successor => ?_) fails
      exact ne_successor (sequence.symm.trans successor)
  have packets := obeyable_steeringPackets app within t requests
  have accepted {resyncs deliveries : List Front.Delivery} (delivered : Delivered resyncs resync.front)
      (later : Delivered deliveries (steeringPackets app config t requests)) :
      Front.FirstCopiesAccepted (Front.deliver f resyncs) deliveries ↔ GoesOn app config t fourth.2 requests := by
    obtain ⟨obeyed, same⟩ := later.obeyed packets
    rw [Front.firstCopiesAccepted_iff obeyed, same, held_resynchronized left sent f delivered, allTaken_some,
      steeringPackets_sequences, advancing_iff_consecutive ((controller_numbers app config).counting counts requests),
      (controller_numbers app config).consecutive_cons_iff, goes, GoesOn]
  constructor
  · intro follows
    exact (accepted (delivered_deliveryOf obeyable) (delivered_deliveryOf packets)).mp
      (follows _ _ (delivered_deliveryOf obeyable) (delivered_deliveryOf packets))
  · intro goesOn resyncs deliveries delivered later
    exact (accepted delivered later).mpr goesOn

end

/-- FRONT is brought to the fourth packet, and with an angle within its limits it accepts what is published after. -/
def Resynchronizes (app : HttpApp) (config : Config) (f : Front.State F32) (s : RemoteControlState)
    (first second third fourth : Clock × Sends) (requests : List Event) : Prop :=
  let resynchronized := resyncFrontSequence config s first second third fourth
  Settles f resynchronized.2 ∧
    (config.steerRad ≤ (0.50 : F64) →
      Follows f resynchronized.2 (steeringPackets app config resynchronized.1 requests))

/-- The four packets always bring FRONT to the last of them. What follows is accepted exactly when
the controller never sends a number again: no part of a publish fails after its FRONT send. -/
theorem resynchronizes_iff (app : HttpApp) (steerRad maxSpeedMps : F64) (broadcast : Bool) (f : Front.State F32)
    (s : RemoteControlState) (first second third fourth : Clock × Sends) (requests : List Event)
    (sent : (resyncFrontSequence (configure steerRad maxSpeedMps broadcast) s first second third fourth).2.front.length =
      4) :
    let config := configure steerRad maxSpeedMps broadcast
    Resynchronizes app config f s first second third fourth requests ↔
      (config.steerRad ≤ (0.50 : F64) →
        GoesOn app config (resyncFrontSequence config s first second third fourth).1 fourth.2 requests) := by
  rcases left : resyncFrontSequence (configure steerRad maxSpeedMps broadcast) s first second third fourth with
    ⟨t, resync⟩
  rw [left] at sent
  simp only [Resynchronizes, left]
  refine (and_iff_right (settles left sent f)).trans (forall_congr' fun limit => ?_)
  exact follows_iff left sent (steersWithin_configure limit) app f requests

/-- A send every ten milliseconds from the start on, none of which fails. -/
def cleanStep (index : Nat) : Clock × Sends := (⟨10 * index, .ofNat (10000 * index)⟩, ⟨none, none, none⟩)

/-- A controller with the default angle and no broadcast address sends its four packets. -/
theorem resyncFrontSequence_clean :
    (resyncFrontSequence (configure 0.25 1.0 false) (start 0) (cleanStep 0) (cleanStep 1) (cleanStep 2)
      (cleanStep 3)).2.front.length = 4 := by decide +kernel

theorem goesOn_singleton {app : HttpApp} {config : Config} (silent : config.broadcast = false) (t : RemoteControlState)
    (fourth : Sends) (request : Event) : GoesOn app config t fourth [request] := by
  refine ⟨fun _ broadcast => ?_, Numbers.uninterrupted_cons.mpr ⟨?_, ?_⟩⟩
  · rw [silent] at broadcast
    cases broadcast
  · rintro _ ⟨before, _, _, split, _⟩
    simp at split
  · intro before _ _ split
    simp at split

/-- The controller meets a FRONT that has just started, and FRONT accepts its first publish. -/
theorem resynchronizes_clean :
    Resynchronizes .flask (configure 0.25 1.0 false) (Front.init 0) (start 0) (cleanStep 0) (cleanStep 1) (cleanStep 2)
      (cleanStep 3) [.publish (cleanStep 4).1 (cleanStep 4).2] :=
  (resynchronizes_iff .flask 0.25 1.0 false (Front.init 0) (start 0) (cleanStep 0) (cleanStep 1) (cleanStep 2)
    (cleanStep 3) _ resyncFrontSequence_clean).mpr fun _ => goesOn_singleton rfl _ _ _

/-- A publish after the resynchronisation fails to send to REAR. The one after it has the same
number, and FRONT refuses it. -/
theorem failed_rear_send_after_resync :
    ¬ Resynchronizes .flask (configure 0.25 1.0 false) (Front.init 0) (start 0) (cleanStep 0) (cleanStep 1) (cleanStep 2)
      (cleanStep 3) [.publish (cleanStep 4).1 ⟨none, none, some "Network is unreachable"⟩,
        .publish (cleanStep 5).1 (cleanStep 5).2] := by
  have sent := resyncFrontSequence_clean
  have limit : (configure 0.25 1.0 false).steerRad ≤ (0.50 : F64) := by decide +kernel
  have fits := steeringAngle_fits (configure 0.25 1.0 false) (by decide +kernel) (by decide +kernel)
  rcases left : resyncFrontSequence (configure 0.25 1.0 false) (start 0) (cleanStep 0) (cleanStep 1) (cleanStep 2)
    (cleanStep 3) with ⟨t, resync⟩
  rw [left] at sent
  rw [Resynchronizes, left]
  rintro ⟨-, follows⟩
  obtain ⟨-, uninterrupted⟩ :=
    (follows_iff left sent (steersWithin_configure limit) .flask (Front.init 0) _).mp (follows limit)
  have completes := uninterrupted [] _ _ rfl ⟨fits _, rfl⟩ ⟨[], _, [], rfl, ⟨fits _, rfl⟩⟩
  cases completes.rear

end SelfDriving.Hpvc.Remote
