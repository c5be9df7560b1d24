import SelfDriving.Hpvc.SteeringAgreementProofs

/-! The counters of the steering packets of the Simulink deployment. The contract has them
wrap; the encoder has them stop at the largest number, the alive count first. -/
namespace SelfDriving.Hpvc.Tc375
open Ieee754

/-- The encoder, sample after sample. -/
def encoder : Machine Counters Inputs (List UInt8) where
  step := encodeTc375

/-- The packets of a run. -/
def packets (inputs : List Inputs) : List (List UInt8) := encoder.outputs countersStart inputs

/-- The counters of the contract: each packet of a run has its number, modulo the width of the
counter, and no sequence number comes twice. -/
structure FollowsContract (inputs : List Inputs) : Prop where
  counted : ∀ n packet, (packets inputs)[n]? = some packet →
    hpscSequence packet = UInt32.ofNat n ∧ hpscAliveCount packet = UInt16.ofNat n
  distinct : ((packets inputs).map hpscSequence).Nodup

theorem counters_encodeTc375 (s : Counters) (input : Inputs) :
    hpscSequence (encoder.output s input) = s.sequence ∧ hpscAliveCount (encoder.output s input) = s.aliveCount := by
  change hpscSequence (encodeTc375 s input).2 = _ ∧ hpscAliveCount (encodeTc375 s input).2 = _
  rw [encodeTc375, frontEncodeSteeringPacket_eq]
  exact ⟨hpscSequence_packet .., hpscAliveCount_packet ..⟩

/-- The state after a number of packets. -/
structure Counted (n : Nat) (s : Counters) : Prop where
  sequence : s.sequence = UInt32.ofNat (Matlab.saturate 32 n)
  aliveCount : s.aliveCount = UInt16.ofNat (Matlab.saturate 16 n)

theorem Counted.next {n : Nat} {s : Counters} (counted : Counted n s) (input : Inputs) :
    Counted (n + 1) (encoder.next s input) where
  sequence := by
    change UInt32.ofNat (Matlab.saturate 32 (s.sequence.toNat + 1)) = _
    rw [counted.sequence, UInt32.toNat_ofNat_of_lt' (Matlab.saturate_lt 32 n), Matlab.saturate_succ]
  aliveCount := by
    change UInt16.ofNat (Matlab.saturate 16 (s.aliveCount.toNat + 1)) = _
    rw [counted.aliveCount, UInt16.toNat_ofNat_of_lt' (Matlab.saturate_lt 16 n), Matlab.saturate_succ]

theorem counted_run (inputs : List Inputs) {n : Nat} {s : Counters} (counted : Counted n s) :
    Counted (n + inputs.length) (encoder.run s inputs) := by
  induction inputs generalizing n s with
  | nil => exact counted
  | cons input rest ih =>
    have later := ih (counted.next input)
    rwa [Nat.add_right_comm, Nat.add_assoc, ← List.length_cons] at later

/-- What each packet of a run carries, however long the run is. -/
theorem counters_packets {inputs : List Inputs} {n : Nat} {packet : List UInt8}
    (sent : (packets inputs)[n]? = some packet) :
    hpscSequence packet = UInt32.ofNat (Matlab.saturate 32 n) ∧
      hpscAliveCount packet = UInt16.ofNat (Matlab.saturate 16 n) := by
  rw [packets, Machine.getElem?_outputs, Option.map_eq_some_iff] at sent
  obtain ⟨input, given, rfl⟩ := sent
  obtain ⟨inside, -⟩ := List.getElem?_eq_some_iff.mp given
  have counted := counted_run (inputs.take n) (⟨rfl, rfl⟩ : Counted 0 countersStart)
  rw [List.length_take_of_le inside.le, Nat.zero_add] at counted
  obtain ⟨sequence, aliveCount⟩ := counters_encodeTc375 (encoder.run countersStart (inputs.take n)) input
  exact ⟨sequence.trans counted.sequence, aliveCount.trans counted.aliveCount⟩

theorem exists_packet {inputs : List Inputs} {n : Nat} (inside : n < inputs.length) :
    ∃ packet, (packets inputs)[n]? = some packet := by
  have length : n < (packets inputs).length := by rwa [packets, Machine.length_outputs]
  exact ⟨_, List.getElem?_eq_getElem length⟩

/-- As long as the alive count has not come to its end, both counters are the packet's number. -/
theorem followsContract_of_short {inputs : List Inputs} (short : inputs.length ≤ 65536) : FollowsContract inputs := by
  have counted : ∀ n packet, (packets inputs)[n]? = some packet →
      n < 65536 ∧ hpscSequence packet = UInt32.ofNat n ∧ hpscAliveCount packet = UInt16.ofNat n := by
    intro n packet sent
    obtain ⟨inside, -⟩ := List.getElem?_eq_some_iff.mp sent
    rw [packets, Machine.length_outputs] at inside
    have below : Matlab.saturate 32 n = n ∧ Matlab.saturate 16 n = n := by
      unfold Matlab.saturate
      omega
    obtain ⟨sequence, aliveCount⟩ := counters_packets sent
    rw [below.1] at sequence
    rw [below.2] at aliveCount
    exact ⟨by omega, sequence, aliveCount⟩
  refine ⟨fun n packet sent => (counted n packet sent).2, ?_⟩
  rw [List.nodup_iff_injective_get]
  intro first second same
  have number : ∀ place : Fin ((packets inputs).map hpscSequence).length,
      place.val < 65536 ∧ ((packets inputs).map hpscSequence).get place = UInt32.ofNat place.val := by
    intro place
    have inside : place.val < (packets inputs).length := by simpa using place.isLt
    obtain ⟨small, sequence, -⟩ := counted place.val _ (List.getElem?_eq_getElem inside)
    exact ⟨small, by simpa using sequence⟩
  rw [(number first).2, (number second).2] at same
  have values := congrArg UInt32.toNat same
  rw [UInt32.toNat_ofNat_of_lt' ((number first).1.trans (by decide)),
    UInt32.toNat_ofNat_of_lt' ((number second).1.trans (by decide))] at values
  exact Fin.ext values

/-- The alive count of the packet after the largest number is the largest number again. -/
theorem not_followsContract_of_long {inputs : List Inputs} (long : 65536 < inputs.length) :
    ¬ FollowsContract inputs := by
  intro follows
  obtain ⟨packet, sent⟩ := exists_packet long
  have contract := (follows.counted _ packet sent).2
  rw [(counters_packets sent).2] at contract
  exact absurd contract (by decide)

/-- The packets of a run have the counters of the contract exactly when the run ends before
the alive count would wrap. -/
theorem followsContract_iff (inputs : List Inputs) : FollowsContract inputs ↔ inputs.length ≤ 65536 := by
  constructor
  · intro follows
    by_contra long
    exact not_followsContract_of_long (Nat.not_le.mp long) follows
  · exact followsContract_of_short

/-- Nothing to steer by: every packet centers. -/
def idleInputs : Inputs := ⟨0.0, false, false, 0.0, 0.50, 1.0⟩

/-- After 65 537 packets, less than an hour at 20 Hz, the alive count has stopped. -/
theorem alive_count_stops :
    ¬ FollowsContract (List.replicate 65537 idleInputs) ∧
    (∀ packet, (packets (List.replicate 65537 idleInputs))[65536]? = some packet → hpscAliveCount packet = 65535) := by
  refine ⟨not_followsContract_of_long (by rw [List.length_replicate]; decide), fun packet sent => ?_⟩
  exact (counters_packets sent).2

end SelfDriving.Hpvc.Tc375
