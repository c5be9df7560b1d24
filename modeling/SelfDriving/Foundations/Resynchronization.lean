import SelfDriving.Foundations.Numbering
import SelfDriving.Foundations.SerialNumber

/-! A sender that counts, at a receiver that takes only newer numbers and may hold any
number from before. Four numbers a quarter of the circle apart bring every receiver
to the last of them. A sender that just starts again from zero is followed by a
receiver that holds a number in the far half of the circle, or one that is passed. -/
namespace SelfDriving.SerialNumber

/-- Each number is the one before it again or its successor. -/
def Counting (numbers : List UInt32) : Prop :=
  numbers.IsChain fun first second => second = first ∨ second = first + 1

theorem newer_successor (number : UInt32) : newer (number + 1) number = true := by
  rw [newer_iff_toNat, UInt32.toNat_add, UInt32.toNat_one]
  have bound := number.toNat_lt
  omega

theorem newer_iff_successor {first second : UInt32} (counts : second = first ∨ second = first + 1) :
    newer second first = true ↔ second = first + 1 := by
  constructor
  · intro ahead
    rcases counts with rfl | successor
    · rw [newer_self] at ahead
      cases ahead
    · exact successor
  · rintro rfl
    exact newer_successor first

theorem toNat_of_counts {first second : UInt32} (counts : second = first ∨ second = first + 1)
    (room : first.toNat < 2 ^ 31) : second.toNat = first.toNat ∨ second.toNat = first.toNat + 1 := by
  rcases counts with rfl | rfl
  · exact .inl rfl
  · rw [UInt32.toNat_add, UInt32.toNat_one]
    omega

/-- What counts advances exactly when it never repeats. -/
theorem advancing_iff_consecutive {numbers : List UInt32} (counting : Counting numbers) :
    Advancing numbers ↔ Consecutive numbers := by
  induction counting with
  | nil => exact iff_of_true .nil .nil
  | singleton number => exact iff_of_true (.singleton number) (.singleton number)
  | cons_cons counts _ ih =>
    rw [Advancing, Consecutive, List.isChain_cons_cons, List.isChain_cons_cons, newer_iff_successor counts]
    exact and_congr_right fun _ => ih

/-! ### Quarters of the circle -/

def quarter : UInt32 := 0x40000000

/-- Four numbers, each a quarter of the circle after the one before. -/
def quarters (base : UInt32) : List UInt32 :=
  [base, base + quarter, base + quarter * 2, base + quarter * 3]

/-- A receiver holds a number after it comes when it is newer or held already. -/
theorem keepNewer_settles {old number : UInt32} (settles : newer number old = true ∨ old = number) :
    keepNewer id (some old) number = some number := by
  rcases settles with ahead | rfl
  · exact keepNewer_of_taken (by rintro _ ⟨⟩; exact ahead)
  · exact keepNewer_again none old

theorem keepNewer_refuses {old number : UInt32} (refuses : ¬ newer number old = true) :
    keepNewer id (some old) number = some old :=
  keepNewer_of_not_taken fun taken => refuses (taken old rfl)

/-- One of the first three quarters settles the receiver. -/
theorem quarters_settle (base old : UInt32) (first : ¬ (newer base old = true ∨ old = base))
    (second : ¬ (newer (base + quarter) old = true ∨ old = base + quarter)) :
    newer (base + quarter * 2) old = true ∨ old = base + quarter * 2 := by
  have bound := base.toNat_lt
  have bound' := old.toNat_lt
  have one : (base + quarter).toNat = (base.toNat + 2 ^ 30) % 2 ^ 32 := UInt32.toNat_add base quarter
  have two : (base + quarter * 2).toNat = (base.toNat + 2 ^ 31) % 2 ^ 32 := UInt32.toNat_add base (quarter * 2)
  simp only [newer_iff_toNat, ← UInt32.toNat_inj, one, two] at *
  omega

theorem newer_quarter (base : UInt32) (k : UInt32) : newer (base + quarter * (k + 1)) (base + quarter * k) = true := by
  have step : base + quarter * (k + 1) - (base + quarter * k) = quarter := by
    rw [UInt32.mul_add, UInt32.mul_one]
    grind
  rw [newer_iff, step]
  decide

/-- The four quarters bring a receiver to the last of them, whatever it held. -/
theorem foldl_quarters (base : UInt32) (held : Option UInt32) :
    (quarters base).foldl (keepNewer id) held = some (base + quarter * 3) := by
  have last : keepNewer id (some (base + quarter * 2)) (base + quarter * 3) = some (base + quarter * 3) :=
    keepNewer_settles (.inl (newer_quarter base 2))
  have third : keepNewer id (some (base + quarter)) (base + quarter * 2) = some (base + quarter * 2) :=
    keepNewer_settles (.inl (newer_quarter base 1))
  have second : keepNewer id (some base) (base + quarter) = some (base + quarter) := by
    have ahead := newer_quarter base 0
    rw [UInt32.mul_zero, UInt32.add_zero] at ahead
    exact keepNewer_settles (.inl ahead)
  simp only [quarters, List.foldl_cons, List.foldl_nil]
  cases held with
  | none => rw [keepNewer, second, third, last]
  | some old =>
    by_cases zero : newer base old = true ∨ old = base
    · rw [keepNewer_settles zero, second, third, last]
    rw [keepNewer_refuses fun ahead => zero (.inl ahead)]
    by_cases one : newer (base + quarter) old = true ∨ old = base + quarter
    · rw [keepNewer_settles one, third, last]
    · rw [keepNewer_refuses fun ahead => one (.inl ahead), keepNewer_settles (quarters_settle base old zero one), last]

/-! ### A start from zero -/

/-- What a receiver holds when the numbers that count up from zero have come to `last`. -/
def heldAt (held : Option UInt32) (last : UInt32) : Option UInt32 :=
  match held with
  | none => some last
  | some old => if 2 ^ 31 < old.toNat ∨ old.toNat ≤ last.toNat then some last else some old

/-- A receiver that holds a number, on one more number. -/
theorem keepNewer_eq_ite (old number : UInt32) :
    keepNewer id (some old) number =
      if (old.toNat ≤ number.toNat ∧ number.toNat < old.toNat + 2 ^ 31) ∨ number.toNat + 2 ^ 31 < old.toNat
        then some number else some old := by
  have settles : newer number old = true ∨ old = number ↔
      (old.toNat ≤ number.toNat ∧ number.toNat < old.toNat + 2 ^ 31) ∨ number.toNat + 2 ^ 31 < old.toNat := by
    rw [newer_iff_toNat, ← UInt32.toNat_inj]
    omega
  split
  · rename_i reached
    exact keepNewer_settles (settles.mpr reached)
  · rename_i refused
    exact keepNewer_refuses fun ahead => refused (settles.mp (.inl ahead))

theorem keepNewer_zero (held : Option UInt32) : keepNewer id held 0 = heldAt held 0 := by
  cases held with
  | none => rfl
  | some old =>
    rw [keepNewer_eq_ite, heldAt, UInt32.toNat_zero]
    refine if_congr ?_ rfl rfl
    omega

/-- A count from zero that goes one step on, or stays. -/
theorem keepNewer_heldAt {before last : UInt32} (counts : last.toNat = before.toNat ∨ last.toNat = before.toNat + 1)
    (held : Option UInt32) : keepNewer id (heldAt held before) last = heldAt held last := by
  have settled : keepNewer id (some before) last = some last := by
    rw [keepNewer_eq_ite, if_pos]
    omega
  cases held with
  | none => exact settled
  | some old =>
    simp only [heldAt]
    by_cases passed : 2 ^ 31 < old.toNat ∨ old.toNat ≤ before.toNat
    · rw [if_pos passed, settled, if_pos (by omega)]
    · rw [if_neg passed, keepNewer_eq_ite]
      refine if_congr ?_ rfl rfl
      omega

theorem foldl_counting {numbers : List UInt32} {last : UInt32} (counting : Counting (numbers ++ [last]))
    (start : (numbers ++ [last]).head? = some 0) (short : numbers.length < 2 ^ 31) (held : Option UInt32) :
    last.toNat ≤ numbers.length ∧ (numbers ++ [last]).foldl (keepNewer id) held = heldAt held last := by
  induction numbers using List.reverseRecOn generalizing last with
  | nil =>
    cases start
    exact ⟨le_rfl, keepNewer_zero held⟩
  | append_singleton numbers before ih =>
    obtain ⟨earlier, -, link⟩ := List.isChain_append.mp counting
    have counts := link before (by simp) last rfl
    rw [List.length_append, List.length_singleton] at short ⊢
    have start' : (numbers ++ [before]).head? = some 0 := by
      rw [List.head?_append_of_ne_nil _ (by simp)] at start
      exact start
    obtain ⟨bound, holds⟩ := ih earlier start' (by omega)
    have next := toNat_of_counts counts (by omega)
    refine ⟨by omega, ?_⟩
    rw [List.foldl_append, holds, List.foldl_cons, List.foldl_nil, keepNewer_heldAt next]

/-- After a start from zero the receiver takes the next number and all that follow exactly when they
are consecutive and what it held lies in the far half of the circle or below the next number. -/
theorem allTaken_counting {numbers rest : List UInt32} {last next : UInt32}
    (counting : Counting (numbers ++ last :: next :: rest)) (start : (numbers ++ [last]).head? = some 0)
    (short : numbers.length < 2 ^ 31 - 1) (held : Option UInt32) :
    AllTaken ((numbers ++ [last]).foldl (keepNewer id) held) (next :: rest) ↔
      (∀ old, held = some old → 2 ^ 31 < old.toNat ∨ old.toNat < next.toNat) ∧
        Consecutive (last :: next :: rest) := by
  obtain ⟨early, late⟩ := List.isChain_split.mp counting
  obtain ⟨counts, _⟩ := List.isChain_cons_cons.mp late
  obtain ⟨bound, holds⟩ := foldl_counting early start (by omega) held
  have next_le := toNat_of_counts counts (by omega)
  rw [holds, ← advancing_iff_consecutive late]
  by_cases passed : ∀ old, held = some old → 2 ^ 31 < old.toNat ∨ old.toNat ≤ last.toNat
  · have settled : heldAt held last = some last := by
      cases held with
      | none => rfl
      | some old => exact if_pos (passed old rfl)
    rw [settled, allTaken_some]
    refine (and_iff_right_of_imp fun advancing old holds => ?_).symm
    have successor := (newer_iff_successor counts).mp (List.isChain_cons_cons.mp advancing).1
    rw [successor, UInt32.toNat_add, UInt32.toNat_one]
    have reached := passed old holds
    omega
  · -- The receiver still holds a number that the next one does not pass.
    cases held with
    | none => exact absurd nofun passed
    | some old =>
      have behind : ¬ (2 ^ 31 < old.toNat ∨ old.toNat ≤ last.toNat) := fun reached =>
        passed (by rintro _ ⟨⟩; exact reached)
      have kept : heldAt (some old) last = some old := if_neg behind
      rw [kept, allTaken_some]
      refine iff_of_false (fun advancing => ?_) fun recovers => ?_
      · have ahead := (List.isChain_cons_cons.mp advancing).1
        rw [newer_iff_toNat] at ahead
        omega
      · have reached := recovers.1 old rfl
        omega

/-- The same for what comes after the first `k + 1` numbers, if anything does. -/
theorem allTaken_drop {numbers : List UInt32} (counting : Counting numbers)
    (start : ∀ first, numbers.head? = some first → first = 0) {k : Nat} (short : k < 2 ^ 31 - 1) (held : Option UInt32) :
    AllTaken ((numbers.take (k + 1)).foldl (keepNewer id) held) (numbers.drop (k + 1)) ↔
      (∀ next, (numbers.drop (k + 1)).head? = some next →
        ∀ old, held = some old → 2 ^ 31 < old.toNat ∨ old.toNat < next.toNat) ∧
        Consecutive (numbers.drop k) := by
  have tail : numbers.drop (k + 1) = (numbers.drop k).tail := by rw [List.tail_drop]
  cases from_k : numbers.drop k with
  | nil =>
    rw [from_k] at tail
    rw [tail]
    exact iff_of_true trivial ⟨nofun, .nil⟩
  | cons last after =>
    rw [from_k, List.tail_cons] at tail
    rw [tail]
    cases after with
    | nil => exact iff_of_true trivial ⟨nofun, .singleton last⟩
    | cons next rest =>
      have whole : numbers = numbers.take k ++ last :: next :: rest := by rw [← from_k, List.take_append_drop]
      have early : numbers.take (k + 1) = numbers.take k ++ [last] := by
        rw [List.take_add_one, ← List.head?_drop, from_k]
        rfl
      rw [early]
      rw [whole] at counting
      have first : (numbers.take k ++ [last]).head? = some 0 := by
        rw [← early, List.head?_take, if_neg (Nat.succ_ne_zero k)]
        cases head : numbers.head? with
        | none =>
          rw [List.head?_eq_none_iff.mp head] at whole
          simp at whole
        | some zero => rw [start zero head]
      have bound : (numbers.take k).length < 2 ^ 31 - 1 := (List.length_take_le k numbers).trans_lt short
      rw [allTaken_counting counting first bound held]
      exact and_congr_left fun _ => (by simp)

end SelfDriving.SerialNumber

namespace SelfDriving.Numbers
open SerialNumber
variable {σ ι ο : Type*} {m : Machine σ ι ο} {number : σ → UInt32} {sent : σ → ι → List UInt32}
  {reaches completes : σ → ι → Prop}

/-- A machine that numbers what it sends counts on from the number it is at. -/
theorem counting (numbers : Numbers m number sent reaches completes) {s : σ} {before : UInt32}
    (counts : number s = before ∨ number s = before + 1) (inputs : List ι) :
    Counting (before :: m.collect sent s inputs) := by
  induction inputs generalizing s before with
  | nil => exact .singleton before
  | cons i rest ih =>
    rw [Machine.collect]
    rcases numbers.step s i with ⟨-, silent, kept⟩ | ⟨-, sends, -, next⟩ | ⟨-, sends, -, kept⟩
    · rw [silent, List.nil_append]
      exact ih (by rwa [kept])
    · rw [sends, List.singleton_append, Counting, List.isChain_cons_cons]
      exact ⟨counts, ih (.inr next)⟩
    · rw [sends, List.singleton_append, Counting, List.isChain_cons_cons]
      exact ⟨counts, ih (.inl kept)⟩

/-- After a number that it counts on from, a machine sends consecutive numbers exactly when it
has gone on from that number, if it sends anything, and never stops short of the next. -/
theorem consecutive_cons_iff (numbers : Numbers m number sent reaches completes) {s : σ} {before : UInt32}
    (inputs : List ι) :
    Consecutive (before :: m.collect sent s inputs) ↔
      (Reaching m reaches s inputs → number s = before + 1) ∧ Uninterrupted m reaches completes s inputs := by
  rw [Consecutive, List.isChain_cons, ← numbers.consecutive_iff]
  refine and_congr_left fun _ => ?_
  constructor
  · intro link reaching
    exact link _ ((numbers.head?_collect_iff _ _).mpr ⟨reaching, rfl⟩)
  · intro goes first head
    obtain ⟨reaching, rfl⟩ := (numbers.head?_collect_iff _ _).mp head
    exact goes reaching

end SelfDriving.Numbers
