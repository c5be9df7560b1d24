import SelfDriving.Front.SteeringProofs

/-! Replays. The node compares a sequence with the last one only, over half of the
circle, so what it has accepted before may come round again; but only after a whole
turn, which takes two other acceptances at least. -/
namespace SelfDriving.Front

section
variable {α : Type} [Floating α]

/-- The sequence that a call leaves behind when it accepts a packet. -/
def acceptedSequence (s : State α) (call : Call) : List UInt32 :=
  match (node α).output s call with
  | .verdict true => [((node α).next s call).lastSequence]
  | _ => []

/-- The sequences accepted over a run, oldest first. -/
def acceptedSequences (s : State α) (calls : List Call) : List UInt32 := (node α).collect acceptedSequence s calls

/-- The packets accepted over a run, oldest first. -/
def acceptedPackets (s : State α) (calls : List Call) : List Memory :=
  (node α).collect (fun s call => (packetOf s call).toList) s calls

/-- What a call does to the sequence. -/
theorem acceptedSequence_cases (s : State α) (call : Call) :
    (packetOf s call = none ∧ acceptedSequence s call = [] ∧
      ((node α).next s call).initialized = s.initialized ∧ ((node α).next s call).lastSequence = s.lastSequence) ∨
    ∃ packet, packetOf s call = some packet ∧ acceptedSequence s call = [sequenceOf packet] ∧
      ((node α).next s call).initialized = true ∧ ((node α).next s call).lastSequence = sequenceOf packet ∧
      Fresh s packet := by
  rcases step_cases s call with ⟨none, verdict, keeps⟩ | ⟨packet, start, some, verdict, -, fresh, -, takes⟩
  · refine .inl ⟨none, ?_, keeps.initialized, keeps.lastSequence⟩
    unfold acceptedSequence
    split
    · rename_i accepted
      exact absurd accepted verdict
    · rfl
  · refine .inr ⟨packet, some, ?_, takes.initialized, takes.lastSequence, fresh⟩
    rw [acceptedSequence, verdict]
    exact congrArg (fun sequence => [sequence]) takes.lastSequence

theorem acceptedSequences_eq (s : State α) (calls : List Call) :
    acceptedSequences s calls = (acceptedPackets s calls).map sequenceOf := by
  induction calls generalizing s with
  | nil => rfl
  | cons call rest ih =>
    change acceptedSequence s call ++ acceptedSequences ((node α).next s call) rest =
      ((packetOf s call).toList ++ acceptedPackets ((node α).next s call) rest).map sequenceOf
    rw [ih, List.map_append]
    rcases acceptedSequence_cases s call with ⟨none, silent, -⟩ | ⟨packet, some, accepted, -⟩
    · rw [none, silent]
      rfl
    · rw [some, accepted]
      rfl

/-- The accepted sequences advance, from the last one before the run if there was one. -/
theorem advancing_run (s : State α) (calls : List Call) :
    SerialNumber.Advancing (acceptedSequences s calls) ∧
      (s.initialized = true → SerialNumber.Advancing (s.lastSequence :: acceptedSequences s calls)) := by
  induction calls generalizing s with
  | nil => exact ⟨.nil, fun _ => .singleton _⟩
  | cons call rest ih =>
    obtain ⟨free, bound⟩ := ih ((node α).next s call)
    change SerialNumber.Advancing (acceptedSequence s call ++ acceptedSequences ((node α).next s call) rest) ∧
      (s.initialized = true → SerialNumber.Advancing
        (s.lastSequence :: (acceptedSequence s call ++ acceptedSequences ((node α).next s call) rest)))
    rcases acceptedSequence_cases s call with
      ⟨-, silent, same, last⟩ | ⟨packet, -, accepted, started, last, fresh⟩
    · rw [silent, List.nil_append]
      rw [same, last] at bound
      exact ⟨free, bound⟩
    · rw [accepted, List.singleton_append, ← last]
      have chain := bound started
      refine ⟨chain, fun ready => ?_⟩
      rw [SerialNumber.Advancing, List.isChain_cons_cons]
      refine ⟨?_, chain⟩
      rw [last]
      exact fresh ready

/-- No replay: each acceptance after the first advances the sequence by less than half
a turn, and a sequence that is accepted again has gone round the circle, past two other
accepted packets at least. -/
theorem no_replay (bootMs : UInt32) (calls : List Call) :
    let accepted := acceptedSequences (init bootMs : State α) calls
    accepted = (acceptedPackets (init bootMs : State α) calls).map sequenceOf ∧
      accepted.IsChain (fun old next => 1 ≤ (next - old).toNat ∧ (next - old).toNat ≤ 2 ^ 31 - 1) ∧
      ∀ before between after number, accepted = before ++ number :: (between ++ number :: after) →
        (∃ turns, 0 < turns ∧ SerialNumber.advance (number :: (between ++ [number])) = turns * 2 ^ 32) ∧
          2 ≤ between.length := by
  intro accepted
  have advancing : SerialNumber.Advancing accepted := (advancing_run (init bootMs) calls).1
  refine ⟨acceptedSequences_eq _ _, ?_, ?_⟩
  · apply advancing.imp
    intro old next ahead
    exact SerialNumber.newer_iff.mp ahead
  · intro before between after number split
    have part : number :: (between ++ [number]) <:+: accepted := ⟨before, after, by simp [split]⟩
    have around := List.IsChain.infix advancing part
    exact SerialNumber.advance_of_return around

end
end SelfDriving.Front
