import SelfDriving.Foundations.Ieee754Widening
import SelfDriving.Hpvc.AebRuntime
import SelfDriving.Middle.ProtocolProofs

/-! Which datagrams end the emergency braking program. Its receive loop survives the
value errors of its two decoders. Every error of theirs is one, but for a count of
persons that is infinite: the conversion to an integer overflows. -/
namespace SelfDriving.Hpvc
open Ieee754 Python

/-- A decoder returns, or it raises the error that the loop catches. -/
def Caught {β : Type} (result : Except PyError β) : Prop :=
  (∃ frame, result = .ok frame) ∨ ∃ text, result = .error (.valueError text)

/-- The decoder of the datagram's port returns, or raises the error that the loop catches. -/
def Datagram.caught : Datagram → Prop
  | .middle data now => Caught (decodeMiddlePacket data now)
  | .front data now => Caught (decodeFrontPacket data now)

/-- A version 2 packet, well formed but for a count of persons that is infinite. -/
def InfiniteCount (data : List UInt8) : Prop :=
  Middle.WellFormed data Middle.version ∧ (Middle.countValue data).isInf = true

/-- Of the packets on the MIDDLE port, those with an infinite count raise another error. -/
theorem decodeMiddlePacket_caught_iff (data : List UInt8) (now : F64) :
    Caught (decodeMiddlePacket data now) ↔ ¬ InfiniteCount data := by
  unfold decodeMiddlePacket
  by_cases formed : ∃ version, Middle.WellFormed data version
  · obtain ⟨version, whole⟩ := formed
    rcases whole.known with rfl | rfl
    · rw [Middle.unpackPacket_of_version whole]
      rcases int_cases (Middle.countValue data) with ⟨finite, converted⟩ | ⟨nan, raised⟩ | ⟨inf, raised⟩
      · rw [converted]
        refine iff_of_true (.inl ⟨_, rfl⟩) ?_
        rintro ⟨-, inf⟩
        rw [Ieee.not_isInf_of_isFinite finite] at inf
        cases inf
      · rw [raised]
        refine iff_of_true (.inr ⟨_, rfl⟩) ?_
        rintro ⟨-, inf⟩
        rw [Ieee.isNaN_of_isInf inf] at nan
        cases nan
      · rw [raised]
        refine iff_of_false ?_ (not_not.mpr ⟨whole, inf⟩)
        rintro (⟨frame, taken⟩ | ⟨text, caught⟩)
        · cases taken
        · cases caught
    · rw [Middle.unpackPacket_of_legacy whole]
      refine iff_of_true (.inl ⟨_, rfl⟩) fun infinite => ?_
      exact absurd (whole.versioned.symm.trans infinite.1.versioned) (by decide)
  · obtain ⟨text, raised⟩ := Middle.unpackPacket_of_malformed formed
    rw [raised]
    exact iff_of_true (.inr ⟨text, rfl⟩) fun infinite => formed ⟨_, infinite.1⟩

theorem decodeFrontPacket_caught (data : List UInt8) (now : F64) : Caught (decodeFrontPacket data now) := by
  unfold decodeFrontPacket decodeFrontAeb1 decodeFrontLegacy
  split_ifs <;> first | exact .inl ⟨_, rfl⟩ | exact .inr ⟨_, rfl⟩

/-- What one datagram with a caught result does: the loop goes on. -/
theorem receive_of_caught {datagram : Datagram} (caught : datagram.caught) (latest : Latest) :
    ∃ next, receive latest datagram = .ok next := by
  cases datagram with
  | middle data now =>
    rcases caught with ⟨frame, decoded⟩ | ⟨text, decoded⟩
    · exact ⟨{ latest with middle := some frame }, by rw [receive, decoded]; rfl⟩
    · exact ⟨latest, by rw [receive, decoded]; rfl⟩
  | front data now =>
    rcases caught with ⟨frame, decoded⟩ | ⟨text, decoded⟩
    · exact ⟨{ latest with front := some frame }, by rw [receive, decoded]; rfl⟩
    · exact ⟨latest, by rw [receive, decoded]; rfl⟩

theorem receiveAll_of_caught {datagrams : List Datagram} (caught : ∀ datagram ∈ datagrams, datagram.caught)
    (latest : Latest) : ∃ after, receiveAll latest datagrams = .ok after := by
  induction datagrams generalizing latest with
  | nil => exact ⟨latest, rfl⟩
  | cons datagram rest ih =>
    obtain ⟨next, received⟩ := receive_of_caught (caught datagram (by simp)) latest
    obtain ⟨after, run⟩ := ih (fun other member => caught other (by simp [member])) next
    exact ⟨after, by rw [receiveAll, received]; exact run⟩

/-- No datagram of a run stops the program: each is decoded or its error is caught, and
the loop takes them all. -/
def Survives (latest : Latest) (datagrams : List Datagram) : Prop :=
  (∀ datagram ∈ datagrams, datagram.caught) ∧ ∃ after, receiveAll latest datagrams = .ok after

/-- The program survives a run of datagrams exactly when none of them has an infinite
count of persons. -/
theorem survives_iff (latest : Latest) (datagrams : List Datagram) :
    Survives latest datagrams ↔ ∀ data now, Datagram.middle data now ∈ datagrams → ¬ InfiniteCount data := by
  constructor
  · rintro ⟨caught, _⟩ data now member
    exact (decodeMiddlePacket_caught_iff data now).mp (caught _ member)
  · intro finite
    have caught : ∀ datagram ∈ datagrams, datagram.caught := by
      intro datagram member
      cases datagram with
      | middle data now => exact (decodeMiddlePacket_caught_iff data now).mpr (finite data now member)
      | front data now => exact decodeFrontPacket_caught data now
    exact ⟨caught, receiveAll_of_caught caught latest⟩

/-- The single-precision infinity. -/
def infiniteSingle : F32 := Ieee.ofMag false binary32.infMag

/-- A packet whose count of persons is infinite ends the program. -/
theorem infinite_count_stops_program :
    ¬ Survives latestStart [.middle (Middle.sealed (Middle.countedBody infiniteSingle)) 0.0] := by
  rintro ⟨caught, _⟩
  have inf : (Middle.countValue (Middle.sealed (Middle.countedBody infiniteSingle))).isInf = true := by
    rw [Middle.countValue_countedBody, unpackSingle, Ieee.isInf_convert widens_binary]
    decide
  exact (decodeMiddlePacket_caught_iff _ _).mp (caught _ (List.mem_singleton.mpr rfl))
    ⟨Middle.wellFormed_countedBody infiniteSingle, inf⟩

end SelfDriving.Hpvc
