import SelfDriving.Hpvc.DecodeProofs
import SelfDriving.Middle.RoundTripProofs

/-! Which packet the frontend holds while it lets the controllers run. It holds the
last valid packet, while the link monitor counts the last fresh one, and the two
part when a packet is overtaken: one that is valid and not fresh comes while the
link is alive. Nothing else parts them, because a link that is dead when such a
packet comes stays dead until the next fresh one. -/
namespace SelfDriving.Hpvc
open Ieee754

variable (timeoutS : F64)

def decodeSample (sample : Sample) : MiddlePacket := middleDecodePacket sample.data sample.receiveStatus

/-- The monitor that a sample meets. -/
def monitorAt (s : Frontend) (sample : Sample) : LinkMonitor := startMonitor sample.localTimeS false s.monitor

/-- The packet that the monitor accepted as fresh last, in a run from the start. -/
def lastFresh (samples : List Sample) : Option Held :=
  (((frontend timeoutS).noting fun s sample last =>
    if ((frontend timeoutS).output s sample).2.sequenceFresh then some (decodeSample sample).held else last).run
      (frontendStart, none) samples).2

/-- Whenever the controllers may run, the held values are the last fresh packet's. -/
def HoldsFresh (samples : List Sample) : Prop :=
  ∀ before sample, before ++ [sample] <+: samples →
    ((frontend timeoutS).output ((frontend timeoutS).run frontendStart before) sample).1.controlValid = true →
      lastFresh timeoutS (before ++ [sample]) =
        some ((frontend timeoutS).run frontendStart (before ++ [sample])).held

/-- A sample brings an overtaken packet that matters: valid, with camera and lanes
valid, not accepted by the monitor, while the link is alive, and unlike the last
fresh packet. -/
structure Overtaken (s : Frontend) (last : Option Held) (sample : Sample) : Prop where
  packetValid : (decodeSample sample).packetValid = true
  controls : (decodeSample sample).held.controls = true
  refused : acceptsSequence sample.localTimeS timeoutS (decodeSample sample).sequence (monitorAt s sample) = false
  alive : linkAlive sample.localTimeS timeoutS (monitorAt s sample) = true
  differs : last ≠ some (decodeSample sample).held

/-- The held values are the last fresh packet's, or nothing runs by them now. -/
def Settled (s : Frontend) (last : Option Held) (now : F64) : Prop :=
  last = some s.held ∨ s.held.controls = false ∨
    ∃ monitor, s.monitor = some monitor ∧ linkAlive now timeoutS monitor = false

theorem lastFresh_concat (samples : List Sample) (sample : Sample) :
    lastFresh timeoutS (samples ++ [sample]) =
      if ((frontend timeoutS).output ((frontend timeoutS).run frontendStart samples) sample).2.sequenceFresh then
        some (decodeSample sample).held
      else lastFresh timeoutS samples :=
  Machine.run_noting_concat_snd ..

/-! ### One sample -/

/-- A link that is dead stays dead as the clock goes on. -/
theorem linkAlive_mono {now later : F64} (le : now ≤ later) {monitor : LinkMonitor}
    (dead : linkAlive now timeoutS monitor = false) : linkAlive later timeoutS monitor = false := by
  by_contra alive
  simp only [linkAlive, Bool.not_eq_false, Bool.and_eq_true, decide_eq_true_eq] at alive
  have young := Ieee.le_trans (Matlab.elapsed_mono le monitor.lastFreshTimeS) alive.2
  simp [linkAlive, alive.1, young] at dead

theorem Settled.later {s : Frontend} {last : Option Held} {now later : F64}
    (settled : Settled timeoutS s last now) (le : now ≤ later) : Settled timeoutS s last later := by
  rcases settled with same | idle | ⟨monitor, some, dead⟩
  · exact .inl same
  · exact .inr (.inl idle)
  · exact .inr (.inr ⟨monitor, some, linkAlive_mono timeoutS le dead⟩)

/-- What one sample does to the frontend. -/
theorem frontend_cases (s : Frontend) (sample : Sample) :
    -- No valid packet.
    ((decodeSample sample).packetValid = false ∧
      (frontend timeoutS).next s sample = ⟨s.held, some (monitorAt s sample)⟩ ∧
      ((frontend timeoutS).output s sample).2.sequenceFresh = false) ∨
    -- A fresh packet.
    ((decodeSample sample).packetValid = true ∧
      acceptsSequence sample.localTimeS timeoutS (decodeSample sample).sequence (monitorAt s sample) = true ∧
      (frontend timeoutS).next s sample =
        ⟨(decodeSample sample).held, some ⟨true, (decodeSample sample).sequence, sample.localTimeS⟩⟩ ∧
      ((frontend timeoutS).output s sample).2.sequenceFresh = true) ∨
    -- A packet that the monitor does not accept.
    ((decodeSample sample).packetValid = true ∧
      acceptsSequence sample.localTimeS timeoutS (decodeSample sample).sequence (monitorAt s sample) = false ∧
      (frontend timeoutS).next s sample = ⟨(decodeSample sample).held, some (monitorAt s sample)⟩ ∧
      ((frontend timeoutS).output s sample).2.sequenceFresh = false) := by
  unfold decodeSample monitorAt
  simp only [Machine.next, Machine.output, frontend, middleLinkMonitor]
  generalize middleDecodePacket sample.data sample.receiveStatus = packet
  cases valid : packet.packetValid with
  | false => exact .inl ⟨rfl, rfl, rfl⟩
  | true =>
    cases fresh : acceptsSequence sample.localTimeS timeoutS packet.sequence
        (startMonitor sample.localTimeS false s.monitor) with
    | true => exact .inr (.inl ⟨rfl, rfl, rfl, rfl⟩)
    | false => exact .inr (.inr ⟨rfl, rfl, rfl, rfl⟩)

/-- The controllers run while the link is alive and the held flags allow it. -/
theorem controlValid_output (s : Frontend) (sample : Sample) :
    ∃ monitor, ((frontend timeoutS).next s sample).monitor = some monitor ∧
      ((frontend timeoutS).output s sample).1.controlValid =
        (linkAlive sample.localTimeS timeoutS monitor && ((frontend timeoutS).next s sample).held.controls) :=
  ⟨_, rfl, rfl⟩

/-- The last fresh packet after one sample. -/
def refresh (s : Frontend) (last : Option Held) (sample : Sample) : Option Held :=
  if ((frontend timeoutS).output s sample).2.sequenceFresh then some (decodeSample sample).held else last

/-- A dead link is dead in the state that a sample meets. -/
theorem dead_monitorAt {s : Frontend} {sample : Sample}
    (dead : ∃ monitor, s.monitor = some monitor ∧ linkAlive sample.localTimeS timeoutS monitor = false) :
    linkAlive sample.localTimeS timeoutS (monitorAt s sample) = false := by
  obtain ⟨monitor, some, dead⟩ := dead
  rw [monitorAt, some]
  exact dead

/-- A sample that brings no overtaken packet settles the frontend again. -/
theorem Settled.next {s : Frontend} {last : Option Held} {sample : Sample}
    (settled : Settled timeoutS s last sample.localTimeS) (inOrder : ¬ Overtaken timeoutS s last sample) :
    Settled timeoutS ((frontend timeoutS).next s sample) (refresh timeoutS s last sample) sample.localTimeS := by
  unfold refresh
  rcases frontend_cases timeoutS s sample with
    ⟨_, next, stale⟩ | ⟨_, _, next, fresh⟩ | ⟨valid, refused, next, stale⟩
  · rw [next, stale]
    rcases settled with same | idle | dead
    · exact .inl same
    · exact .inr (.inl idle)
    · exact .inr (.inr ⟨_, rfl, dead_monitorAt timeoutS dead⟩)
  · rw [next, fresh]
    exact .inl rfl
  · rw [next, stale]
    by_cases same : last = some (decodeSample sample).held
    · exact .inl same
    by_cases controls : (decodeSample sample).held.controls = true
    · refine .inr (.inr ⟨_, rfl, ?_⟩)
      by_contra alive
      exact inOrder ⟨valid, controls, refused, by simpa using alive, same⟩
    · exact .inr (.inl (by simpa using controls))

theorem Settled.holds {s : Frontend} {last : Option Held} {sample : Sample}
    (settled : Settled timeoutS ((frontend timeoutS).next s sample) last sample.localTimeS)
    (runs : ((frontend timeoutS).output s sample).1.controlValid = true) :
    last = some ((frontend timeoutS).next s sample).held := by
  obtain ⟨monitor, some, controlValid⟩ := controlValid_output timeoutS s sample
  rw [controlValid, Bool.and_eq_true] at runs
  rcases settled with same | idle | ⟨monitor', some', dead⟩
  · exact same
  · rw [idle] at runs
    cases runs.2
  · rw [some] at some'
    cases some'
    rw [dead] at runs
    cases runs.1

/-- An overtaken packet is held at once, and the controllers run by it. -/
theorem Overtaken.runs {s : Frontend} {last : Option Held} {sample : Sample}
    (overtaken : Overtaken timeoutS s last sample) :
    ((frontend timeoutS).output s sample).1.controlValid = true ∧
      refresh timeoutS s last sample ≠ some ((frontend timeoutS).next s sample).held := by
  obtain ⟨monitor, some, controlValid⟩ := controlValid_output timeoutS s sample
  rw [controlValid]
  unfold refresh
  rcases frontend_cases timeoutS s sample with
    ⟨invalid, _⟩ | ⟨_, accepted, _⟩ | ⟨_, _, next, stale⟩
  · rw [overtaken.packetValid] at invalid
    cases invalid
  · rw [overtaken.refused] at accepted
    cases accepted
  · rw [next] at some ⊢
    cases some
    rw [stale, overtaken.alive, overtaken.controls]
    exact ⟨rfl, overtaken.differs⟩

/-! ### Runs -/

/-- No sample of a run brings an overtaken packet. -/
def InSequence (samples : List Sample) : Prop :=
  ∀ before sample, before ++ [sample] <+: samples →
    ¬ Overtaken timeoutS ((frontend timeoutS).run frontendStart before) (lastFresh timeoutS before) sample

/-- A run without overtaken packets is settled at its end and stays so. -/
theorem settled_run {samples : List Sample} (inSequence : InSequence timeoutS samples)
    (ordered : samples.Pairwise fun first second => first.localTimeS ≤ second.localTimeS) {later : F64}
    (end_le : ∀ sample ∈ samples, sample.localTimeS ≤ later) :
    Settled timeoutS ((frontend timeoutS).run frontendStart samples) (lastFresh timeoutS samples) later := by
  induction samples using List.reverseRecOn generalizing later with
  | nil => exact .inr (.inl (by decide : frontendStart.held.controls = false))
  | append_singleton samples sample ih =>
    obtain ⟨ordered, -, before⟩ := List.pairwise_append.mp ordered
    have settled := ih (fun first next prefixed => inSequence first next (prefixed.trans (List.prefix_append _ _)))
      ordered (fun first member => before first member sample (by simp))
    rw [Machine.run_concat, lastFresh_concat]
    exact (settled.next timeoutS (inSequence samples sample List.prefix_rfl)).later timeoutS
      (end_le sample (by simp))

/-- At nondecreasing times, the frontend runs by the last fresh packet in every
state exactly when no sample brings an overtaken packet. -/
theorem holdsFresh_iff_inSequence (samples : List Sample)
    (ordered : samples.Pairwise fun first second => first.localTimeS ≤ second.localTimeS) :
    HoldsFresh timeoutS samples ↔ InSequence timeoutS samples := by
  constructor
  · intro holds before sample prefixed overtaken
    obtain ⟨runs, differs⟩ := overtaken.runs timeoutS
    have held := holds before sample prefixed runs
    rw [lastFresh_concat, Machine.run_concat] at held
    exact differs held
  · intro inSequence before sample prefixed runs
    have part := List.pairwise_append.mp (ordered.sublist prefixed.sublist)
    have settled := settled_run timeoutS
      (fun first next earlier => inSequence first next
        (earlier.trans ((List.prefix_append before [sample]).trans prefixed)))
      part.1 (fun first member => part.2.2 first member sample (by simp))
    rw [lastFresh_concat, Machine.run_concat]
    exact (settled.next timeoutS (inSequence before sample prefixed)).holds timeoutS runs

/-! ### Packets in order and overtaken -/

/-- Between two lanes, with somebody beside the road. -/
def drivingPacket (sequence : UInt32) : Middle.PerceptionPacket where
  sequence := sequence.toNat
  frameTimestampUs := 123456
  ultrasonicTimestampUs := 123789
  flags := 3
  left := ⟨0.02, 0.0, 0.05, 0.18, 0.9⟩
  right := ⟨0.02, 0.0, 0.05, -0.22, 0.8⟩
  sideLeftDistanceM := 1.2
  sideRightDistanceM := 0.8
  personCount := 1
  persons := [⟨1.0, 0.9, 0.1, 0.5, 0.1, 0.4⟩]

/-- A valid packet with camera and lanes valid. -/
def drivingSample (sequence : UInt32) (localTimeS : F64) : Sample :=
  ⟨Middle.sealed (Middle.packedBody (drivingPacket sequence)), true, localTimeS⟩

theorem controls_of_flags {packet : MiddlePacket} (flags : packet.flags = 3) : packet.held.controls = true := by
  have held : packet.held.flags = 3 := flags
  rw [Held.controls, held]
  decide

theorem decode_drivingSample (sequence : UInt32) (localTimeS : F64) :
    (decodeSample (drivingSample sequence localTimeS)).packetValid = true ∧
      (decodeSample (drivingSample sequence localTimeS)).held.controls = true ∧
      (decodeSample (drivingSample sequence localTimeS)).sequence = sequence := by
  obtain ⟨flags, counted, -⟩ := Middle.header_unpacked (drivingPacket sequence)
  have body := Middle.length_packedBody (drivingPacket sequence)
  have formed := Middle.wellFormed_packedBody (drivingPacket sequence)
  unfold decodeSample drivingSample
  generalize Middle.packedBody (drivingPacket sequence) = data at *
  rcases middleDecodePacket_cases (Middle.sealed data) with ⟨_, read⟩ | ⟨malformed, _⟩
  · have long : (Middle.sealed data).length = 156 := (Middle.length_sealed data).trans (congrArg (· + 4) body)
    have three : byteAt (Middle.sealed data) 6 = 3 := by
      rw [← UInt8.toNat_inj, byteAt_toNat (by omega)]
      exact Int.ofNat_inj.mp (flags.trans rfl)
    dsimp only
    rw [read]
    refine ⟨rfl, controls_of_flags three, ?_⟩
    rw [readPacket, ← UInt32.toNat_inj, readU32_toNat (by omega)]
    have bound := sequence.toNat_lt
    have whole : (drivingPacket sequence).sequence % 2 ^ 32 = sequence.toNat := by
      change (sequence.toNat : Int) % 2 ^ 32 = sequence.toNat
      omega
    exact Int.ofNat_inj.mp (counted.trans whole)
  · exact absurd ⟨_, formed⟩ malformed

/-- A frontend that has taken its first packet. -/
theorem first_drivingSample (sequence : UInt32) (localTimeS : F64) :
    let first := drivingSample sequence localTimeS
    (frontend timeoutS).run frontendStart [first] =
        ⟨(decodeSample first).held, some ⟨true, sequence, localTimeS⟩⟩ ∧
      lastFresh timeoutS [first] = some (decodeSample first).held := by
  intro first
  obtain ⟨valid, -, counted⟩ := decode_drivingSample sequence localTimeS
  have last := lastFresh_concat timeoutS [] first
  rcases frontend_cases timeoutS frontendStart first with
    ⟨invalid, _⟩ | ⟨_, _, next, fresh⟩ | ⟨_, refused, _⟩
  · rw [valid] at invalid
    cases invalid
  · rw [Machine.run_nil, fresh] at last
    exact ⟨by rw [← counted]; exact next, last⟩
  · cases refused

/-- The only samples of a run of two. -/
theorem sample_of_two {before : List Sample} {sample first second : Sample}
    (prefixed : before ++ [sample] <+: [first, second]) :
    before = [] ∧ sample = first ∨ before = [first] ∧ sample = second := by
  obtain ⟨rest, whole⟩ := prefixed
  rcases before with _ | ⟨head, _ | ⟨next, tail⟩⟩
  · left
    simp_all
  · right
    simp_all
  · simp at whole

/-- Two packets in order are both held. -/
theorem newer_packet_held : HoldsFresh (0.2 : F64) [drivingSample 10 1.0, drivingSample 11 1.05] := by
  have ordered : (1.0 : F64) ≤ 1.05 := by decide +kernel
  obtain ⟨state, -⟩ := first_drivingSample 0.2 10 1.0
  refine (holdsFresh_iff_inSequence 0.2 _ (by simpa [drivingSample] using ordered)).mpr ?_
  intro before sample prefixed overtaken
  have refused := overtaken.refused
  rcases sample_of_two prefixed with ⟨rfl, rfl⟩ | ⟨rfl, rfl⟩
  · cases refused
  · obtain ⟨-, -, counted⟩ := decode_drivingSample 11 1.05
    rw [monitorAt, state, counted] at refused
    revert refused
    decide +kernel

/-- A packet that comes after its successor takes its place. -/
theorem overtaken_packet_held : ¬ HoldsFresh (0.2 : F64) [drivingSample 10 1.0, drivingSample 9 1.05] := by
  intro holds
  obtain ⟨state, last⟩ := first_drivingSample 0.2 10 1.0
  obtain ⟨-, -, counted⟩ := decode_drivingSample 10 1.0
  obtain ⟨valid, controls, counted'⟩ := decode_drivingSample 9 1.05
  have overtaken : Overtaken (0.2 : F64) ((frontend 0.2).run frontendStart [drivingSample 10 1.0])
      (lastFresh 0.2 [drivingSample 10 1.0]) (drivingSample 9 1.05) := by
    refine ⟨valid, controls, ?_, ?_, ?_⟩
    · rw [monitorAt, state, counted']
      change acceptsSequence 1.05 0.2 9 ⟨true, 10, 1.0⟩ = false
      decide +kernel
    · rw [monitorAt, state]
      change linkAlive 1.05 0.2 ⟨true, 10, 1.0⟩ = true
      decide +kernel
    · rw [last]
      intro same
      have sequences := congrArg (Option.map Held.sequence) same
      simp only [Option.map_some, MiddlePacket.held, counted, counted'] at sequences
      cases sequences
  obtain ⟨runs, differs⟩ := overtaken.runs
  have held := holds [drivingSample 10 1.0] (drivingSample 9 1.05) List.prefix_rfl runs
  rw [lastFresh_concat, Machine.run_concat] at held
  exact differs held

end SelfDriving.Hpvc
