import SelfDriving.Foundations.Machine
import Mathlib.Data.List.Chain

/-! Senders that number what they send. A sender goes on to the next number when it
has completed what it does for a packet; if it stops in between, the packet is out
and its number is used again. -/
namespace SelfDriving

/-- Each number is the successor of the one before it, modulo the word size. -/
def Consecutive (numbers : List UInt32) : Prop := numbers.IsChain fun first second => second = first + 1

theorem ne_successor {number : UInt32} : number ≠ number + 1 := by
  intro same
  have values := congrArg UInt32.toNat same
  rw [UInt32.toNat_add, UInt32.toNat_one] at values
  have bound := number.toNat_lt
  omega

/-- How a machine numbers: a step that does not reach the receiver keeps the number,
and one that does sends the number and goes on to the next if it completes. -/
structure Numbers {σ ι ο : Type*} (m : Machine σ ι ο) (number : σ → UInt32) (sent : σ → ι → List UInt32)
    (reaches completes : σ → ι → Prop) : Prop where
  step : ∀ s i,
    (¬ reaches s i ∧ sent s i = [] ∧ number (m.next s i) = number s) ∨
    (reaches s i ∧ sent s i = [number s] ∧ completes s i ∧ number (m.next s i) = number s + 1) ∨
    (reaches s i ∧ sent s i = [number s] ∧ ¬ completes s i ∧ number (m.next s i) = number s)

namespace Numbers
variable {σ ι ο : Type*} {m : Machine σ ι ο} {number : σ → UInt32} {sent : σ → ι → List UInt32}
  {reaches completes : σ → ι → Prop}

/-- Some step of a run reaches the receiver. -/
def Reaching (m : Machine σ ι ο) (reaches : σ → ι → Prop) (s : σ) (inputs : List ι) : Prop :=
  ∃ before i after, inputs = before ++ i :: after ∧ reaches (m.run s before) i

/-- A step that reaches the receiver completes if another such step follows. -/
def Uninterrupted (m : Machine σ ι ο) (reaches completes : σ → ι → Prop) (s : σ) (inputs : List ι) : Prop :=
  ∀ before i after, inputs = before ++ i :: after → reaches (m.run s before) i →
    Reaching m reaches (m.next (m.run s before) i) after → completes (m.run s before) i

theorem reaching_cons {s : σ} {i : ι} {rest : List ι} :
    Reaching m reaches s (i :: rest) ↔ reaches s i ∨ Reaching m reaches (m.next s i) rest := by
  constructor
  · rintro ⟨before, j, after, split, reached⟩
    cases before with
    | nil =>
      cases split
      exact .inl reached
    | cons head before =>
      cases split
      exact .inr ⟨before, j, after, rfl, reached⟩
  · rintro (reached | ⟨before, j, after, rfl, reached⟩)
    · exact ⟨[], i, rest, rfl, reached⟩
    · exact ⟨i :: before, j, after, rfl, reached⟩

theorem uninterrupted_cons {s : σ} {i : ι} {rest : List ι} :
    Uninterrupted m reaches completes s (i :: rest) ↔
      (reaches s i → Reaching m reaches (m.next s i) rest → completes s i) ∧
        Uninterrupted m reaches completes (m.next s i) rest :=
  m.forall_split_cons (fun s i after => reaches s i → Reaching m reaches (m.next s i) after → completes s i) s i rest

section
variable (numbers : Numbers m number sent reaches completes)
include numbers

/-- A run sends something when one of its steps reaches the receiver. -/
theorem collect_eq_nil_iff (s : σ) (inputs : List ι) :
    m.collect sent s inputs = [] ↔ ¬ Reaching m reaches s inputs := by
  induction inputs generalizing s with
  | nil =>
    refine iff_of_true rfl ?_
    rintro ⟨before, i, after, split, -⟩
    simp at split
  | cons i rest ih =>
    rw [Machine.collect, List.append_eq_nil_iff, ih, reaching_cons, not_or]
    refine and_congr_left fun _ => ?_
    rcases numbers.step s i with ⟨silent, empty, -⟩ | ⟨reached, sends, -⟩ | ⟨reached, sends, -⟩
    · exact iff_of_true empty silent
    · rw [sends]
      exact iff_of_false (List.cons_ne_nil _ _) (not_not.mpr reached)
    · rw [sends]
      exact iff_of_false (List.cons_ne_nil _ _) (not_not.mpr reached)

/-- The next packet goes out under the number of the state. -/
theorem head_collect (s : σ) (inputs : List ι) {first : UInt32}
    (head : (m.collect sent s inputs).head? = some first) : first = number s := by
  induction inputs generalizing s with
  | nil => cases head
  | cons i rest ih =>
    rw [Machine.collect] at head
    rcases numbers.step s i with ⟨-, silent, kept⟩ | ⟨-, sends, -⟩ | ⟨-, sends, -⟩
    · rw [silent, List.nil_append] at head
      rw [← kept]
      exact ih _ head
    · rw [sends] at head
      cases head
      rfl
    · rw [sends] at head
      cases head
      rfl

/-- The first packet of a run that sends one has the number of the state. -/
theorem head?_collect_iff (s : σ) (inputs : List ι) {first : UInt32} :
    (m.collect sent s inputs).head? = some first ↔ Reaching m reaches s inputs ∧ first = number s := by
  constructor
  · intro head
    refine ⟨?_, numbers.head_collect s inputs head⟩
    by_contra none
    rw [(numbers.collect_eq_nil_iff s inputs).mpr none] at head
    cases head
  · rintro ⟨reaching, rfl⟩
    have nonempty : m.collect sent s inputs ≠ [] := fun empty =>
      (numbers.collect_eq_nil_iff s inputs).mp empty reaching
    obtain ⟨next, tail, whole⟩ := List.exists_cons_of_ne_nil nonempty
    have head : (m.collect sent s inputs).head? = some next := by rw [whole, List.head?_cons]
    rw [← numbers.head_collect s inputs head, head]

/-- The numbers that are sent are consecutive exactly when every step that reaches the
receiver completes before the next one does. -/
theorem consecutive_iff (s : σ) (inputs : List ι) :
    Consecutive (m.collect sent s inputs) ↔ Uninterrupted m reaches completes s inputs := by
  induction inputs generalizing s with
  | nil =>
    refine iff_of_true List.isChain_nil ?_
    intro before i after split
    simp at split
  | cons i rest ih =>
    rw [uninterrupted_cons, ← ih, Machine.collect]
    rcases numbers.step s i with
      ⟨silent, empty, -⟩ | ⟨reached, sends, completes, next⟩ | ⟨reached, sends, stops, kept⟩
    · rw [empty, List.nil_append]
      exact (and_iff_right fun reached => absurd reached silent).symm
    · rw [sends, Consecutive, List.singleton_append, List.isChain_cons]
      refine and_congr_left fun _ => iff_of_true ?_ fun _ _ => completes
      intro first head
      rw [numbers.head_collect _ _ head, next]
    · -- The number is used again by whatever reaches the receiver next.
      rw [sends, Consecutive, List.singleton_append, List.isChain_cons]
      refine and_congr_left fun _ => ?_
      constructor
      · intro successor _ later
        have again := successor _ ((numbers.head?_collect_iff _ _).mpr ⟨later, rfl⟩)
        rw [kept] at again
        exact absurd again ne_successor
      · intro completes first head
        exact absurd (completes reached ((numbers.head?_collect_iff _ _).mp head).1) stops

/-! ### From a packet on -/

/-- A run that sends enough has a moment at which exactly so many packets are out. -/
theorem exists_split {k : Nat} (s : σ) (inputs : List ι) (enough : k ≤ (m.collect sent s inputs).length) :
    ∃ early late, inputs = early ++ late ∧ (m.collect sent s early).length = k := by
  induction inputs generalizing s k with
  | nil => exact ⟨[], [], rfl, (Nat.le_zero.mp enough).symm⟩
  | cons i rest ih =>
    cases k with
    | zero => exact ⟨[], i :: rest, rfl, rfl⟩
    | succ k =>
      have one : (sent s i).length ≤ 1 := by
        rcases numbers.step s i with ⟨-, silent, -⟩ | ⟨-, sends, -⟩ | ⟨-, sends, -⟩
        · rw [silent]
          exact Nat.zero_le 1
        · rw [sends, List.length_singleton]
        · rw [sends, List.length_singleton]
      rw [Machine.collect, List.length_append] at enough
      have remaining : k + 1 - (sent s i).length ≤ (m.collect sent (m.next s i) rest).length := by omega
      obtain ⟨early, late, rfl, count⟩ := ih (m.next s i) remaining
      refine ⟨i :: early, late, rfl, ?_⟩
      rw [Machine.collect, List.length_append, count]
      omega

/-- The numbers after `k` packets are consecutive when nothing is interrupted from there on. -/
theorem consecutive_drop_iff (k : Nat) (s : σ) (inputs : List ι) :
    Consecutive ((m.collect sent s inputs).drop k) ↔
      ∀ early late, inputs = early ++ late → (m.collect sent s early).length = k →
        Uninterrupted m reaches completes (m.run s early) late := by
  constructor
  · rintro consecutive early late rfl count
    rw [m.drop_collect count] at consecutive
    exact (numbers.consecutive_iff _ _).mp consecutive
  · intro uninterrupted
    by_cases enough : k ≤ (m.collect sent s inputs).length
    · obtain ⟨early, late, rfl, count⟩ := numbers.exists_split s inputs enough
      rw [m.drop_collect count]
      exact (numbers.consecutive_iff _ _).mpr (uninterrupted early late rfl count)
    · rw [List.drop_eq_nil_of_le (by omega)]
      exact .nil

/-- The packet after `k` others goes out under the number of the state that the run is in by then. -/
theorem forall_head_drop_iff (k : Nat) (s : σ) (inputs : List ι) (P : UInt32 → Prop) :
    (∀ next, ((m.collect sent s inputs).drop k).head? = some next → P next) ↔
      ∀ early late, inputs = early ++ late → (m.collect sent s early).length = k →
        Reaching m reaches (m.run s early) late → P (number (m.run s early)) := by
  constructor
  · rintro all early late rfl count reaching
    refine all _ ?_
    rw [m.drop_collect count]
    exact (numbers.head?_collect_iff _ _).mpr ⟨reaching, rfl⟩
  · intro all next head
    by_cases enough : k ≤ (m.collect sent s inputs).length
    · obtain ⟨early, late, rfl, count⟩ := numbers.exists_split s inputs enough
      rw [m.drop_collect count] at head
      obtain ⟨reaching, rfl⟩ := (numbers.head?_collect_iff _ _).mp head
      exact all early late rfl count reaching
    · rw [List.drop_eq_nil_of_le (by omega)] at head
      cases head

end

end Numbers

/-! ### Counting in a later step -/

/-- The numbers go up one by one from the first. -/
def CountsFrom {α : Type*} (successor : α → α) : α → List α → Prop
  | _, [] => True
  | first, number :: rest => number = first ∧ CountsFrom successor (successor first) rest

theorem CountsFrom.getElem {α : Type*} {successor : α → α} {first : α} {numbers : List α}
    (counts : CountsFrom successor first numbers) (k : Nat) (within : k < numbers.length) :
    numbers[k] = successor^[k] first := by
  induction numbers generalizing first k with
  | nil => cases within
  | cons number rest ih =>
    cases k with
    | zero => exact counts.1
    | succ k => exact ih counts.2 k (Nat.lt_of_succ_lt_succ within)

theorem countsFrom_iff_getElem {α : Type*} {successor : α → α} {first : α} {numbers : List α} :
    CountsFrom successor first numbers ↔ ∀ k (within : k < numbers.length), numbers[k] = successor^[k] first := by
  constructor
  · intro counts k within
    exact counts.getElem k within
  · intro all
    induction numbers generalizing first with
    | nil => trivial
    | cons number rest ih =>
      refine ⟨all 0 (Nat.succ_pos _), ih ?_⟩
      intro k within
      exact all (k + 1) (Nat.succ_lt_succ within)

/-- What a step does to the numbers of a sender that counts in a later step than it sends
in. In between a packet is pending, and it may be abandoned there, which leaves its number
in place. -/
def NumberStep {α : Type*} (successor : α → α) (number number' : α) (pending pending' : Bool) (sent : List α)
    (abandons : Bool) : Prop :=
  -- Nothing happens to the numbers.
  (abandons = false ∧ sent = [] ∧ number' = number ∧ pending' = pending) ∨
  -- A packet goes out under the number.
  (abandons = false ∧ sent = [number] ∧ number' = number ∧ pending = false ∧ pending' = true) ∨
  -- The packet that is pending is counted.
  (abandons = false ∧ sent = [] ∧ number' = successor number ∧ pending = true ∧ pending' = false) ∨
  -- The packet that is pending is not counted any more.
  (abandons = true ∧ sent = [] ∧ number' = number ∧ pending = true ∧ pending' = false)

namespace NumberStep
variable {α : Type*} {successor : α → α} {number : α} {pending : Bool}

theorem quiet : NumberStep successor number number pending pending [] false := .inl ⟨rfl, rfl, rfl, rfl⟩

theorem send : NumberStep successor number number false true [number] false :=
  .inr (.inl ⟨rfl, rfl, rfl, rfl, rfl⟩)

theorem count : NumberStep successor number (successor number) true false [] false :=
  .inr (.inr (.inl ⟨rfl, rfl, rfl, rfl, rfl⟩))

theorem abandon : NumberStep successor number number true false [] true :=
  .inr (.inr (.inr ⟨rfl, rfl, rfl, rfl, rfl⟩))

end NumberStep

/-- How a machine numbers that sends in one step and counts in a later one. -/
structure CountsLate {σ ι ο α : Type*} (m : Machine σ ι ο) (successor : α → α) (Inv : σ → Prop) (number : σ → α)
    (pending : σ → Bool) (sent : σ → ι → List α) (abandons : σ → ι → Bool) : Prop where
  kept : ∀ s i, Inv s → Inv (m.next s i)
  step : ∀ s i, Inv s → NumberStep successor (number s) (number (m.next s i)) (pending s) (pending (m.next s i))
    (sent s i) (abandons s i)

namespace CountsLate
variable {σ ι ο α : Type*} {m : Machine σ ι ο} {successor : α → α} {Inv : σ → Prop} {number : σ → α}
  {pending : σ → Bool} {sent : σ → ι → List α} {abandons : σ → ι → Bool}

/-- Nothing is sent any more once a packet is abandoned. -/
def AbandonsLast (m : Machine σ ι ο) (sent : σ → ι → List α) (abandons : σ → ι → Bool) (s : σ)
    (inputs : List ι) : Prop :=
  ∀ before i after, inputs = before ++ i :: after → abandons (m.run s before) i = true →
    m.collect sent (m.next (m.run s before) i) after = []

theorem abandonsLast_cons {s : σ} {i : ι} {rest : List ι} :
    AbandonsLast m sent abandons s (i :: rest) ↔
      (abandons s i = true → m.collect sent (m.next s i) rest = []) ∧
        AbandonsLast m sent abandons (m.next s i) rest :=
  m.forall_split_cons (fun s i after => abandons s i = true → m.collect sent (m.next s i) after = []) s i rest

/-- What the next packet is to be numbered. -/
def expected (successor : α → α) (number : σ → α) (pending : σ → Bool) (s : σ) : α :=
  if pending s then successor (number s) else number s

section
variable (counts : CountsLate m successor Inv number pending sent abandons)
include counts

/-- Unless one is pending, the next packet goes out under the number of the state. -/
theorem head_collect {s : σ} (inv : Inv s) (free : pending s = false) (inputs : List ι) {first : α}
    (head : (m.collect sent s inputs).head? = some first) : first = number s := by
  induction inputs generalizing s with
  | nil => cases head
  | cons i rest ih =>
    rw [Machine.collect] at head
    rcases counts.step s i inv with
      ⟨-, silent, same, still⟩ | ⟨-, sends, -, -, -⟩ | ⟨-, -, -, busy, -⟩ | ⟨-, -, -, busy, -⟩
    · rw [silent, List.nil_append] at head
      rw [← same]
      exact ih (counts.kept s i inv) (still.trans free) head
    · rw [sends] at head
      exact (Option.some.inj head).symm
    · rw [free] at busy
      cases busy
    · rw [free] at busy
      cases busy

/-- The packets are numbered one after the other exactly when nothing is sent any more
after a packet that is not counted. -/
theorem countsFrom_iff (moves : ∀ x, successor x ≠ x) {s : σ} (inv : Inv s) (inputs : List ι) :
    CountsFrom successor (expected successor number pending s) (m.collect sent s inputs) ↔
      AbandonsLast m sent abandons s inputs := by
  induction inputs generalizing s with
  | nil =>
    refine iff_of_true trivial ?_
    intro before i after split
    simp at split
  | cons i rest ih =>
    have later := ih (counts.kept s i inv)
    rw [abandonsLast_cons, Machine.collect]
    rcases counts.step s i inv with
      ⟨goesOn, silent, same, still⟩ | ⟨goesOn, sends, same, free, busy⟩ | ⟨goesOn, silent, counted, busy, free⟩ |
      ⟨abandoned, silent, same, busy, free⟩
    · rw [goesOn, and_iff_right (by simp), ← later, silent, List.nil_append, expected, expected, same, still]
    · rw [goesOn, and_iff_right (by simp), ← later, sends, List.singleton_append, CountsFrom, expected, expected,
        same, free, busy]
      exact and_iff_right rfl
    · rw [goesOn, and_iff_right (by simp), ← later, silent, List.nil_append, expected, expected, counted, busy, free]
      rfl
    · rw [abandoned, silent, List.nil_append, expected, busy, if_pos rfl]
      constructor
      · intro next
        -- Another packet would go out under the number that is used up.
        have none : m.collect sent (m.next s i) rest = [] := by
          cases remaining : m.collect sent (m.next s i) rest with
          | nil => rfl
          | cons first tail =>
            rw [remaining] at next
            have reused := counts.head_collect (counts.kept s i inv) free rest (by rw [remaining, List.head?_cons])
            rw [same] at reused
            exact absurd (next.1.symm.trans reused) (moves _)
        refine ⟨fun _ => none, later.mp ?_⟩
        rw [none]
        trivial
      · rintro ⟨none, -⟩
        rw [none rfl]
        trivial

end

end CountsLate
end SelfDriving
