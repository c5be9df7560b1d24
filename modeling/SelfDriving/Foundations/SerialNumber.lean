import Mathlib.Algebra.Group.Nat.Defs
import Mathlib.Data.List.Basic
import Mathlib.Data.List.Chain

/-! Sequence numbers of 32 bits that wrap: one number is newer than another when
it lies within the half of the circle ahead of it. A receiver that obeys the
order keeps the newest item it has seen. -/
namespace SelfDriving.SerialNumber

/-- `candidate` lies in the half range ahead of `reference`. -/
def newer (candidate reference : UInt32) : Bool :=
  candidate - reference ≠ 0 && candidate - reference < 0x80000000

@[simp] theorem newer_self (sequence : UInt32) : newer sequence sequence = false := by
  simp [newer]

theorem newer_iff {candidate reference : UInt32} :
    newer candidate reference = true ↔
      1 ≤ (candidate - reference).toNat ∧ (candidate - reference).toNat ≤ 2 ^ 31 - 1 := by
  have zero : candidate - reference = 0 ↔ (candidate - reference).toNat = 0 := UInt32.toNat_inj.symm
  have half : candidate - reference < 0x80000000 ↔ (candidate - reference).toNat < 2 ^ 31 := UInt32.lt_iff_toNat_lt
  rw [newer, Bool.and_eq_true, decide_eq_true_iff, decide_eq_true_iff, ne_eq, zero, half]
  omega

/-- A number is newer when it lies ahead by less than half a turn, also past the wrap. -/
theorem newer_iff_toNat {candidate reference : UInt32} :
    newer candidate reference = true ↔
      (reference.toNat < candidate.toNat ∧ candidate.toNat < reference.toNat + 2 ^ 31) ∨
        candidate.toNat + 2 ^ 31 < reference.toNat := by
  rw [newer_iff, UInt32.toNat_sub]
  have bound := candidate.toNat_lt
  have bound' := reference.toNat_lt
  omega

/-! ### Chains of newer numbers -/

/-- Each number is newer than the one before it. -/
def Advancing (numbers : List UInt32) : Prop := numbers.IsChain fun old next => newer next old = true

/-- How far a list of numbers advances in all, turns around the circle included. -/
def advance : List UInt32 → Nat
  | first :: second :: rest => (second - first).toNat + advance (second :: rest)
  | _ => 0

/-- The advance over a list is the distance of its ends, up to whole turns. -/
theorem ofNat_advance (first last : UInt32) (between : List UInt32) :
    UInt32.ofNat (advance (first :: (between ++ [last]))) = last - first := by
  induction between generalizing first with
  | nil => simp [advance]
  | cons second between ih =>
    rw [List.cons_append, advance, UInt32.ofNat_add, UInt32.ofNat_toNat, ih]
    grind

/-- Every step of a chain counts at least one and less than half a turn. -/
theorem advance_bounds {first : UInt32} {rest : List UInt32} (advancing : Advancing (first :: rest)) :
    rest.length ≤ advance (first :: rest) ∧ advance (first :: rest) ≤ rest.length * (2 ^ 31 - 1) := by
  induction rest generalizing first with
  | nil => exact ⟨le_rfl, le_rfl⟩
  | cons second rest ih =>
    rw [Advancing, List.isChain_cons_cons] at advancing
    obtain ⟨low, high⟩ := newer_iff.mp advancing.1
    obtain ⟨below, above⟩ := ih advancing.2
    rw [advance, List.length_cons]
    omega

/-- A chain that comes back to a number has gone around the circle, in three steps at least. -/
theorem advance_of_return {number : UInt32} {between : List UInt32}
    (advancing : Advancing (number :: (between ++ [number]))) :
    (∃ turns, 0 < turns ∧ advance (number :: (between ++ [number])) = turns * 2 ^ 32) ∧ 2 ≤ between.length := by
  obtain ⟨below, above⟩ := advance_bounds advancing
  rw [List.length_append, List.length_singleton] at below above
  have back := congrArg UInt32.toNat (ofNat_advance number number between)
  rw [UInt32.sub_self, UInt32.toNat_ofNat'] at back
  have whole : 2 ^ 32 ∣ advance (number :: (between ++ [number])) := Nat.dvd_of_mod_eq_zero back
  obtain ⟨turns, total⟩ := whole
  have positive : 0 < turns := Nat.pos_of_ne_zero fun none => by
    rw [none] at total
    omega
  refine ⟨⟨turns, positive, by rw [total, Nat.mul_comm]⟩, ?_⟩
  by_contra few
  have short : (between.length + 1) * (2 ^ 31 - 1) ≤ 2 * (2 ^ 31 - 1) := Nat.mul_le_mul_right _ (by omega)
  omega

/-! ### Receivers -/

section
variable {β : Type*} (sequence : β → UInt32)

/-- What a receiver holds after one more item. -/
def keepNewer (held : Option β) (item : β) : Option β :=
  match held with
  | none => some item
  | some old => if newer (sequence item) (sequence old) then some item else some old

/-- What a receiver holds after some items, starting from the first. -/
def newest (items : List β) : Option β := items.foldl (keepNewer sequence) none

theorem newest_concat (items : List β) (item : β) :
    newest sequence (items ++ [item]) = keepNewer sequence (newest sequence items) item := by
  rw [newest, List.foldl_append]
  rfl

/-- The receiver takes an item that is the first, newer, or the held one again. -/
theorem keepNewer_eq_some {held : Option β} {item : β} :
    keepNewer sequence held item = some item ↔
      ∀ old, held = some old → newer (sequence item) (sequence old) = true ∨ item = old := by
  cases held with
  | none => simp [keepNewer]
  | some old =>
    simp only [keepNewer, Option.some.injEq, forall_eq']
    split
    · rename_i ahead
      simp [ahead]
    · rename_i behind
      simp [behind, eq_comm]

end

/-! ### Receivers of bare numbers -/

/-- A receiver that holds this number, or none yet, takes the next. -/
def Taken (held : Option UInt32) (number : UInt32) : Prop := ∀ old, held = some old → newer number old = true

/-- The receiver takes every number of the list, one after another. -/
def AllTaken : Option UInt32 → List UInt32 → Prop
  | _, [] => True
  | held, number :: rest => Taken held number ∧ AllTaken (keepNewer id held number) rest

theorem keepNewer_of_taken {held : Option UInt32} {number : UInt32} (taken : Taken held number) :
    keepNewer id held number = some number :=
  (keepNewer_eq_some id).mpr fun old holds => .inl (taken old holds)

theorem keepNewer_of_not_taken {held : Option UInt32} {number : UInt32} (refused : ¬ Taken held number) :
    keepNewer id held number = held := by
  cases held with
  | none => exact absurd nofun refused
  | some old =>
    refine if_neg fun ahead => refused ?_
    rintro _ ⟨⟩
    exact ahead

/-- A second copy of a number changes nothing. -/
theorem keepNewer_again (held : Option UInt32) (number : UInt32) :
    keepNewer id (keepNewer id held number) number = keepNewer id held number := by
  by_cases taken : Taken held number
  · rw [keepNewer_of_taken taken, keepNewer, id, newer_self]
    rfl
  · rw [keepNewer_of_not_taken taken, keepNewer_of_not_taken taken]

/-- From a held number on, the numbers that are all taken are those that advance. -/
theorem allTaken_some {last : UInt32} {numbers : List UInt32} :
    AllTaken (some last) numbers ↔ Advancing (last :: numbers) := by
  induction numbers generalizing last with
  | nil => exact iff_of_true trivial (List.isChain_singleton last)
  | cons number rest ih =>
    rw [AllTaken, Advancing, List.isChain_cons_cons]
    constructor
    · rintro ⟨taken, later⟩
      rw [keepNewer_of_taken taken] at later
      exact ⟨taken last rfl, ih.mp later⟩
    · rintro ⟨ahead, later⟩
      have taken : Taken (some last) number := by
        rintro _ ⟨⟩
        exact ahead
      refine ⟨taken, ?_⟩
      rw [keepNewer_of_taken taken]
      exact ih.mpr later

end SelfDriving.SerialNumber
