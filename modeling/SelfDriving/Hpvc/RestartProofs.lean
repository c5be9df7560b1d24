import SelfDriving.Foundations.Resynchronization
import SelfDriving.Hpvc.SequenceProofs
import SelfDriving.Hpvc.SteeringDeliveryProofs

/-! A restart of the runtime store while FRONT stays powered. The new store counts from
zero, and FRONT goes on from the number of an earlier session. Nothing brings the two
together, so FRONT refuses packets until the store has passed that number. -/
namespace SelfDriving.Hpvc
open Ieee754 Python SerialNumber

/-- The steering packets of one step of the store. -/
def frontPackets (store : RuntimeControlStore) (event : StoreEvent) : List (List UInt8) :=
  (runtimeStore.output store event).front

/-- The steering packets that a store sends over a run, oldest first. -/
def steeringPackets (store : RuntimeControlStore) (events : List StoreEvent) : List (List UInt8) :=
  runtimeStore.collect frontPackets store events

theorem steeringPackets_sequences (store : RuntimeControlStore) (events : List StoreEvent) :
    (steeringPackets store events).map hpscSequence = runtimeStore.collect sentSequences store events :=
  Machine.map_collect ..

/-! ### Packets -/

theorem angleWithin_requested (s : RuntimeControlState) : AngleWithin (requestedSteeringAngle s) := by
  have quarter : AngleWithin 0.25 := ⟨by decide +kernel, by decide +kernel⟩
  unfold requestedSteeringAngle
  split
  · exact quarter
  · split
    · exact quarter
    · exact angleWithin_zero

/-- The rate of the store's packets. -/
theorem rateWithin_half : RateWithin 0.5 0.5 := ⟨by decide +kernel, by decide +kernel, by decide +kernel⟩

/-- Every packet of the store is obeyed by FRONT: it steers by a quarter of a radian at most, or centers. -/
theorem obeyable_buildFrontPacket {store : RuntimeControlStore} {clock : Clock} {packet : List UInt8}
    (built : buildFrontPacket store clock = .ok packet) : Obeyable packet := by
  unfold buildFrontPacket at built
  cases active : store.state.effectiveLkasActive with
  | true =>
    simp only [active, if_true] at built
    have marks : MarkedSteering hpscControlSteeringAngle 5 := ⟨rfl, by decide, by decide, by decide⟩
    exact (obeyable_packHpsc built (.inr marks) (angleWithin_requested store.state) rateWithin_half).1
  | false =>
    simp only [active, Bool.false_eq_true, if_false] at built
    exact (obeyable_packHpsc built (.inl (by decide)) angleWithin_zero rateWithin_half).1

/-- A publish sends the steering packet that it has built, and no other. -/
theorem front_publishRuntimeControl {store : RuntimeControlStore} {clock : Clock} {packet : List UInt8}
    (built : buildFrontPacket store clock = .ok packet) (sends : Sends) :
    (publishRuntimeControl store clock sends).2.front = [] ∨
      (publishRuntimeControl store clock sends).2.front = [packet] := by
  simp only [publishRuntimeControl, built]
  split
  · exact .inl rfl
  · split
    · exact .inr rfl
    · split
      · exact .inr rfl
      · exact .inr rfl

theorem obeyable_publishRuntimeControl (store : RuntimeControlStore) (clock : Clock) (sends : Sends) :
    ∀ packet ∈ (publishRuntimeControl store clock sends).2.front, Obeyable packet := by
  obtain ⟨packet, built, -⟩ := buildFrontPacket_ok store clock
  intro other member
  rcases front_publishRuntimeControl built sends with none | one
  · rw [none] at member
    cases member
  · rw [one, List.mem_singleton] at member
    rw [member]
    exact obeyable_buildFrontPacket built

theorem obeyable_frontPackets (store : RuntimeControlStore) (event : StoreEvent) :
    ∀ packet ∈ frontPackets store event, Obeyable packet := by
  cases event with
  | update changes clock sends => exact obeyable_publishRuntimeControl _ clock sends
  | publish clock sends => exact obeyable_publishRuntimeControl store clock sends
  | front data => exact nofun
  | rear data => exact nofun

theorem obeyable_steeringPackets (store : RuntimeControlStore) (events : List StoreEvent) :
    ∀ packet ∈ steeringPackets store events, Obeyable packet :=
  Machine.forall_mem_collect _ obeyable_frontPackets store events

/-! ### At FRONT -/

/-- However the packets of a new store arrive in order, FRONT accepts each of them but the first four. -/
def Recovers (f : Front.State F32) (events : List StoreEvent) : Prop :=
  ∀ deliveries, Delivered deliveries (steeringPackets storeStart events) →
    Front.FirstCopiesAccepted (Front.deliver f (deliveries.take 4)) (deliveries.drop 4)

/-- FRONT holds no number, or one that a count from zero to this number has gone past. -/
def Passes (f : Front.State F32) (number : UInt32) : Prop :=
  f.initialized = true → 2 ^ 31 < f.lastSequence.toNat ∨ f.lastSequence.toNat < number.toNat

theorem passes_iff (f : Front.State F32) (number : UInt32) :
    Passes f number ↔ ∀ old, Front.held f = some old → 2 ^ 31 < old.toNat ∨ old.toNat < number.toNat := by
  unfold Passes Front.held
  cases f.initialized <;> simp

/-- The receiver of bare numbers decides. -/
theorem recovers_iff_allTaken (f : Front.State F32) (events : List StoreEvent) :
    Recovers f events ↔
      AllTaken (((runtimeStore.collect sentSequences storeStart events).take 4).foldl (keepNewer id) (Front.held f))
        ((runtimeStore.collect sentSequences storeStart events).drop 4) := by
  have obeyable := obeyable_steeringPackets storeStart events
  have decided {deliveries : List Front.Delivery} (delivered : Delivered deliveries (steeringPackets storeStart events)) :
      Front.FirstCopiesAccepted (Front.deliver f (deliveries.take 4)) (deliveries.drop 4) ↔
        AllTaken (((runtimeStore.collect sentSequences storeStart events).take 4).foldl (keepNewer id) (Front.held f))
          ((runtimeStore.collect sentSequences storeStart events).drop 4) := by
    obtain ⟨obeyed, same⟩ := delivered.obeyed obeyable
    rw [Front.firstCopiesAccepted_iff fun delivery member => obeyed delivery (List.mem_of_mem_drop member),
      Front.held_deliver fun delivery member => obeyed delivery (List.mem_of_mem_take member),
      List.map_take, List.map_drop, same, steeringPackets_sequences]
  constructor
  · intro recovers
    exact (decided (delivered_deliveryOf obeyable)).mp (recovers _ (delivered_deliveryOf obeyable))
  · intro taken deliveries delivered
    exact (decided delivered).mpr taken

/-- A new store recovers exactly when it has gone past what FRONT holds by its fifth packet, and
from its fourth packet on every publish that reaches FRONT completes before the next one does. -/
theorem recovers_iff (f : Front.State F32) (events : List StoreEvent) :
    Recovers f events ↔
      (∀ early late, events = early ++ late → (steeringPackets storeStart early).length = 4 →
        Numbers.Reaching runtimeStore Reaches (runtimeStore.run storeStart early) late →
          Passes f (runtimeStore.run storeStart early).sequence) ∧
      (∀ early late, events = early ++ late → (steeringPackets storeStart early).length = 3 →
        Numbers.Uninterrupted runtimeStore Reaches Completes (runtimeStore.run storeStart early) late) := by
  have counting : Counting (runtimeStore.collect sentSequences storeStart events) :=
    List.IsChain.tail (runtimeStore_numbers.counting (.inl rfl) events)
  have first : ∀ number, (runtimeStore.collect sentSequences storeStart events).head? = some number → number = 0 :=
    fun number head => runtimeStore_numbers.head_collect storeStart events head
  have length (early : List StoreEvent) :
      (steeringPackets storeStart early).length = (runtimeStore.collect sentSequences storeStart early).length := by
    rw [← steeringPackets_sequences, List.length_map]
  simp only [recovers_iff_allTaken, allTaken_drop counting first (by decide : 3 < 2 ^ 31 - 1), length, passes_iff,
    runtimeStore_numbers.consecutive_drop_iff, runtimeStore_numbers.forall_head_drop_iff 4 storeStart events]

/-! ### A session before -/

/-- The last packet of a session that came to number 1000. -/
def lastOfSession : List UInt8 :=
  hpscPacket hpscControlSteeringAngle (hpscFlagEmergencyCenter ||| hpscFlagUpstreamValid) 1000 0 0.0 0.5 0

/-- FRONT after that session. -/
def earlierSession : Front.State F32 := Front.deliver (Front.init 0) ([lastOfSession].map deliveryOf)

theorem held_earlierSession : Front.held earlierSession = some 1000 := by
  have obeyable : ∀ packet ∈ [lastOfSession], Obeyable packet := by
    rw [List.forall_mem_singleton]
    exact obeyable_hpscPacket (.inl (by decide)) ..
  obtain ⟨obeyed, same⟩ := (delivered_deliveryOf obeyable).obeyed obeyable
  have number : hpscSequence lastOfSession = 1000 := hpscSequence_packet ..
  rw [earlierSession, Front.held_deliver obeyed, same, List.map_singleton, number]
  rfl

/-- Five publishes of a new store, none of which fails: FRONT refuses the fifth as well. -/
theorem restart_refused : ¬ Recovers earlierSession (List.replicate 5 (.publish ⟨0, 0⟩ ⟨true, true, true⟩)) := by
  have numbers : runtimeStore.collect sentSequences storeStart
      (List.replicate 5 (.publish ⟨0, 0⟩ ⟨true, true, true⟩)) = [0, 1, 2, 3, 4] := by decide +kernel
  rw [recovers_iff_allTaken, held_earlierSession, numbers]
  rintro ⟨taken, -⟩
  have ahead := taken 1000 (by decide)
  exact absurd ahead (by decide)

end SelfDriving.Hpvc
