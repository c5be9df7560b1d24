import SelfDriving.Hpvc.AebRuntime
import SelfDriving.Middle.ProtocolProofs

/-! Which middle frame the emergency braking program decides from. The loop keeps
the frame it decoded last, whatever its sequence, so it keeps the newest one
exactly over deliveries that come in sequence order. -/
namespace SelfDriving.Hpvc
open Ieee754 Python

def sequenceOf (frame : MiddleFrame) : UInt32 := UInt32.ofInt frame.sequence

/-- The middle frames that some datagrams deliver while the program runs. -/
def middleFrames : List Datagram → List MiddleFrame
  | [] => []
  | .middle data now :: rest =>
    match decodeMiddlePacket data now with
    | .ok frame => frame :: middleFrames rest
    | .error (.valueError _) => middleFrames rest
    | .error _ => []
  | .front data now :: rest =>
    match decodeFrontPacket data now with
    | .ok _ | .error (.valueError _) => middleFrames rest
    | .error _ => []

/-- After each delivery the latest middle frame is the newest so far. -/
def KeepsNewest (datagrams : List Datagram) : Prop :=
  ∀ before, before <+: datagrams → ∀ latest, receiveAll latestStart before = .ok latest →
    latest.middle = SerialNumber.newest sequenceOf (middleFrames before)

/-- What one datagram does: it delivers a middle frame, it leaves the middle frame
alone, or it ends the program whatever the program holds. -/
theorem receive_cases (datagram : Datagram) :
    (∃ frame, (∀ rest, middleFrames (datagram :: rest) = frame :: middleFrames rest) ∧
      ∀ latest, receive latest datagram = .ok { latest with middle := some frame }) ∨
    ((∀ rest, middleFrames (datagram :: rest) = middleFrames rest) ∧
      ∀ latest, ∃ next, receive latest datagram = .ok next ∧ next.middle = latest.middle) ∨
    ((∀ rest, middleFrames (datagram :: rest) = []) ∧
      ∃ error, ∀ latest, receive latest datagram = .error error) := by
  cases datagram with
  | middle data now =>
    cases decoded : decodeMiddlePacket data now with
    | ok frame =>
      refine .inl ⟨frame, fun rest => ?_, fun latest => ?_⟩
      · simp only [middleFrames, decoded]
      · simp only [receive, replaceBy, decoded]
    | error error =>
      by_cases caught : ∃ text, error = .valueError text
      · obtain ⟨text, rfl⟩ := caught
        refine .inr (.inl ⟨fun rest => ?_, fun latest => ⟨latest, ?_, rfl⟩⟩)
        · simp only [middleFrames, decoded]
        · simp only [receive, replaceBy, decoded]
      · refine .inr (.inr ⟨fun rest => ?_, error, fun latest => ?_⟩)
        · cases error <;> simp_all [middleFrames]
        · cases error <;> simp_all [receive, replaceBy]
  | front data now =>
    cases decoded : decodeFrontPacket data now with
    | ok frame =>
      refine .inr (.inl ⟨fun rest => ?_, fun latest => ⟨{ latest with front := some frame }, ?_, rfl⟩⟩)
      · simp only [middleFrames, decoded]
      · simp only [receive, replaceBy, decoded]
    | error error =>
      by_cases caught : ∃ text, error = .valueError text
      · obtain ⟨text, rfl⟩ := caught
        refine .inr (.inl ⟨fun rest => ?_, fun latest => ⟨latest, ?_, rfl⟩⟩)
        · simp only [middleFrames, decoded]
        · simp only [receive, replaceBy, decoded]
      · refine .inr (.inr ⟨fun rest => ?_, error, fun latest => ?_⟩)
        · cases error <;> simp_all [middleFrames]
        · cases error <;> simp_all [receive, replaceBy]

/-- Datagrams that the program survives are followed by the rest; the others end the run. -/
theorem receiveAll_append (before after : List Datagram) (start : Latest) :
    (∃ latest, receiveAll start before = .ok latest ∧
      receiveAll start (before ++ after) = receiveAll latest after ∧
      middleFrames (before ++ after) = middleFrames before ++ middleFrames after ∧
      latest.middle = (middleFrames before).getLast?.or start.middle) ∨
    (∃ error, receiveAll start before = .error error ∧ receiveAll start (before ++ after) = .error error ∧
      middleFrames (before ++ after) = middleFrames before) := by
  induction before generalizing start with
  | nil => exact .inl ⟨start, rfl, rfl, rfl, rfl⟩
  | cons datagram rest ih =>
    rw [List.cons_append]
    rcases receive_cases datagram with ⟨frame, frames, taken⟩ | ⟨frames, kept⟩ | ⟨frames, error, ended⟩
    · simp only [receiveAll, taken, frames, List.cons_append]
      rcases ih { start with middle := some frame } with ⟨latest, run, all, split, last⟩ | ⟨error, run, all, same⟩
      · refine .inl ⟨latest, run, all, by rw [split], ?_⟩
        rw [last, List.getLast?_cons]
        cases (middleFrames rest).getLast? <;> rfl
      · exact .inr ⟨error, run, all, by rw [same]⟩
    · obtain ⟨next, step, middle⟩ := kept start
      simp only [receiveAll, step, frames]
      rcases ih next with ⟨latest, run, all, split, last⟩ | ⟨error, run, all, same⟩
      · exact .inl ⟨latest, run, all, split, by rw [last, middle]⟩
      · exact .inr ⟨error, run, all, same⟩
    · refine .inr ⟨error, ?_, ?_, ?_⟩
      · simp only [receiveAll, ended]
      · simp only [receiveAll, ended]
      · rw [frames, frames]

/-- The deliveries come in sequence order, up to repetitions of the frame before. -/
def InOrder (frames : List MiddleFrame) : Prop :=
  frames.IsChain fun held next => SerialNumber.newer (sequenceOf next) (sequenceOf held) = true ∨ next = held

theorem keepsNewest_concat (datagrams : List Datagram) (datagram : Datagram) :
    KeepsNewest (datagrams ++ [datagram]) ↔ KeepsNewest datagrams ∧
      ∀ latest, receiveAll latestStart (datagrams ++ [datagram]) = .ok latest →
        latest.middle = SerialNumber.newest sequenceOf (middleFrames (datagrams ++ [datagram])) := by
  constructor
  · intro keeps
    exact ⟨fun before first => keeps before (first.trans (List.prefix_append _ _)),
      keeps _ List.prefix_rfl⟩
  · rintro ⟨keeps, last⟩ before first
    rcases List.prefix_concat_iff.mp first with rfl | first
    · exact last
    · exact keeps before first

/-- One more delivered frame is the newest exactly when it follows the last in order. -/
theorem inOrder_concat (frames : List MiddleFrame) (frame : MiddleFrame) :
    InOrder (frames ++ [frame]) ↔ InOrder frames ∧
      SerialNumber.keepNewer sequenceOf frames.getLast? frame = some frame := by
  rw [InOrder, List.isChain_append, SerialNumber.keepNewer_eq_some]
  constructor
  · rintro ⟨ordered, -, link⟩
    exact ⟨ordered, fun old last => link old last frame rfl⟩
  · rintro ⟨ordered, link⟩
    refine ⟨ordered, .singleton _, fun old last next first => ?_⟩
    cases first
    exact link old last

/-- The program keeps the newest middle frame after every delivery exactly when
the frames come in sequence order. -/
theorem keepsNewest_iff_inOrder (datagrams : List Datagram) :
    KeepsNewest datagrams ↔ InOrder (middleFrames datagrams) := by
  induction datagrams using List.reverseRecOn with
  | nil =>
    refine ⟨fun _ => .nil, fun _ before first => ?_⟩
    rw [List.prefix_nil.mp first]
    rintro latest ⟨⟩
    rfl
  | append_singleton datagrams datagram ih =>
    rw [keepsNewest_concat]
    rcases receiveAll_append datagrams [datagram] latestStart with
      ⟨latest, run, all, split, last⟩ | ⟨error, _, all, same⟩
    · have held (keeps : KeepsNewest datagrams) :
          latest.middle = SerialNumber.newest sequenceOf (middleFrames datagrams) :=
        keeps datagrams List.prefix_rfl latest run
      rw [show latestStart.middle = none from rfl, Option.or_none] at last
      rw [split, all]
      rcases receive_cases datagram with ⟨frame, frames, taken⟩ | ⟨frames, kept⟩ | ⟨frames, error, ended⟩
      · -- A delivered frame is kept whatever its sequence.
        have single : receiveAll latest [datagram] = .ok { latest with middle := some frame } := by
          simp only [receiveAll, taken]
        rw [frames, middleFrames, inOrder_concat, ← ih, single, SerialNumber.newest_concat]
        refine and_congr_right fun keeps => ?_
        rw [← held keeps, ← last]
        constructor
        · intro newest
          exact (newest _ rfl).symm
        · rintro newest next ⟨⟩
          exact newest.symm
      · obtain ⟨next, step, middle⟩ := kept latest
        have single : receiveAll latest [datagram] = .ok next := by
          simp only [receiveAll, step]
        rw [frames, middleFrames, List.append_nil, ← ih, single]
        refine and_iff_left_of_imp fun keeps => ?_
        rintro next ⟨⟩
        rw [middle, held keeps]
      · have single : receiveAll latest [datagram] = .error error := by
          simp only [receiveAll, ended]
        rw [frames, List.append_nil, ← ih, single]
        exact and_iff_left fun next impossible => by cases impossible
    · rw [same, all, ih]
      exact and_iff_left fun next impossible => by cases impossible

/-- The frame of a version 1 packet. -/
theorem decode_legacy {data : List UInt8} (whole : Middle.WellFormed data Middle.legacyVersion) (now : F64) :
    decodeMiddlePacket data now =
      .ok ⟨Bytes.leField data 8 4, now, Bytes.leField data 5 1, Middle.payloadValue data 10,
        Middle.payloadValue data 11, []⟩ := by
  rw [decodeMiddlePacket, Middle.unpackPacket_of_legacy whole]
  rfl

theorem decode_legacyBody {sequence : Nat} (fits : sequence < 256 ^ 4) (now : F64) :
    decodeMiddlePacket (Middle.sealed (Middle.legacyBody 0 sequence)) now =
      .ok ⟨sequence, now, 0, 0.0, 0.0, []⟩ := by
  have whole := Middle.wellFormed_legacyBody 0 sequence
  have zero : Python.unpackSingle (Ieee.ofBits (Bytes.leNat [0, 0, 0, 0])) = 0.0 := by decide +kernel
  have left : Middle.payloadValue (Middle.sealed (Middle.legacyBody 0 sequence)) 10 = 0.0 :=
    (Middle.payloadValue_sealed (by decide : Middle.headerSize + 4 * 10 + 4 ≤ 76)).trans zero
  have right : Middle.payloadValue (Middle.sealed (Middle.legacyBody 0 sequence)) 11 = 0.0 :=
    (Middle.payloadValue_sealed (by decide : Middle.headerSize + 4 * 11 + 4 ≤ 76)).trans zero
  rw [decode_legacy whole, Middle.sequence_legacyBody 0 fits, Middle.flags_legacyBody, left, right]
  rfl

theorem receive_pair {first second : List UInt8} {now later : F64} {frame next : MiddleFrame}
    (decoded : decodeMiddlePacket first now = .ok frame)
    (decoded' : decodeMiddlePacket second later = .ok next) :
    receiveAll latestStart [.middle first now, .middle second later] = .ok ⟨none, some next⟩ ∧
      middleFrames [.middle first now, .middle second later] = [frame, next] := by
  constructor
  · simp only [receiveAll, receive, replaceBy, decoded, decoded']
    rfl
  · simp only [middleFrames, decoded, decoded']

/-- A packet that arrives after its successor replaces it. -/
theorem overtaken_packet_replaces_newest :
    ¬ KeepsNewest
      [.middle (Middle.sealed (Middle.legacyBody 0 10)) 1.0,
        .middle (Middle.sealed (Middle.legacyBody 0 9)) 1.25] := by
  intro keeps
  have received := receive_pair (decode_legacyBody (by decide : 10 < 256 ^ 4) 1.0)
    (decode_legacyBody (by decide : 9 < 256 ^ 4) 1.25)
  have newest := keeps _ List.prefix_rfl _ received.1
  rw [received.2] at newest
  have sequences := congrArg (Option.map MiddleFrame.sequence) newest
  revert sequences
  decide +kernel

end SelfDriving.Hpvc
