import SelfDriving.Foundations.Memory

/-! Programs that read memory byte by byte. A program has a result and a list of the
places it reads, which may depend on the bytes it has read so far. Result and places
are the same for any two memories that agree at the places; so a program that stays
below a bound knows nothing of what lies past it. -/
namespace SelfDriving

universe u

/-- A program that reads bytes and then has a result. -/
inductive ByteReader (α : Type u) : Type u where
  | done (result : α)
  | byte (place : Nat) (rest : UInt8 → ByteReader α)

namespace ByteReader
variable {α β : Type u}

/-- One program after another. -/
def andThen : ByteReader α → (α → ByteReader β) → ByteReader β
  | done result, next => next result
  | byte place rest, next => byte place fun value => (rest value).andThen next

instance : Monad ByteReader where
  pure := done
  bind := andThen

/-- One byte. -/
def read (place : Nat) : ByteReader UInt8 := byte place done

/-- Bytes one after another. -/
def readMany : (place count : Nat) → ByteReader (List UInt8)
  | _, 0 => return []
  | place, count + 1 => return (← read place) :: (← readMany (place + 1) count)

/-- The result over a memory. -/
def run (memory : Memory) : ByteReader α → α
  | done result => result
  | byte place rest => (rest (memory place)).run memory

/-- The places that are read, in order. -/
def places (memory : Memory) : ByteReader α → List Nat
  | done _ => []
  | byte place rest => place :: (rest (memory place)).places memory

/-- The program reads below the bound only. -/
def Below (bound : Nat) (memory : Memory) (program : ByteReader α) : Prop :=
  ∀ place ∈ program.places memory, place < bound

section
variable (memory : Memory)

@[simp] theorem run_pure (result : α) : (pure result : ByteReader α).run memory = result := rfl

@[simp] theorem run_read (place : Nat) : (read place).run memory = memory place := rfl

@[simp] theorem run_bind (program : ByteReader α) (next : α → ByteReader β) :
    (program >>= next).run memory = (next (program.run memory)).run memory := by
  induction program with
  | done result => rfl
  | byte place rest ih => exact ih (memory place)

theorem run_ite {condition : Prop} {decided : Decidable condition} (first second : ByteReader α) :
    (if condition then first else second).run memory = if condition then first.run memory else second.run memory :=
  apply_ite (run memory) ..

theorem places_bind (program : ByteReader α) (next : α → ByteReader β) :
    (program >>= next).places memory = program.places memory ++ (next (program.run memory)).places memory := by
  induction program with
  | done result => rfl
  | byte place rest ih => exact congrArg (place :: ·) (ih (memory place))

@[simp] theorem run_readMany (place count : Nat) :
    (readMany place count).run memory = (memory.drop place).bytes count := by
  induction count generalizing place with
  | zero => rfl
  | succ count ih =>
    rw [readMany, run_bind, run_bind, run_pure, run_read, ih, Memory.bytes_eq_map, Memory.bytes_eq_map,
      List.range_succ_eq_map, List.map_cons, List.map_map]
    congr 1
    refine List.map_congr_left fun index _ => ?_
    simp only [Memory.drop_apply, Function.comp_apply]
    congr 1
    omega

end

section
variable {bound : Nat} {memory : Memory}

@[simp] theorem below_pure (result : α) : Below bound memory (pure result) := nofun

@[simp] theorem below_read {place : Nat} : Below bound memory (read place) ↔ place < bound := by
  simp [Below, read, places]

theorem below_bind {program : ByteReader α} {next : α → ByteReader β} :
    Below bound memory (program >>= next) ↔
      Below bound memory program ∧ Below bound memory (next (program.run memory)) := by
  simp only [Below, places_bind, List.forall_mem_append]

theorem below_ite {condition : Prop} {decided : Decidable condition} {first second : ByteReader α} :
    Below bound memory (if condition then first else second) ↔
      (condition → Below bound memory first) ∧ (¬ condition → Below bound memory second) := by
  by_cases holds : condition
  · simp [holds]
  · simp [holds]

theorem below_readMany {place count : Nat} (inside : place + count ≤ bound) :
    Below bound memory (readMany place count) := by
  induction count generalizing place with
  | zero => exact below_pure _
  | succ count ih =>
    rw [readMany, below_bind, below_read, below_bind]
    exact ⟨by omega, ih (by omega), below_pure _⟩

end

/-- Result and places depend on the bytes at the places only. -/
theorem run_congr {memory other : Memory} (program : ByteReader α)
    (agree : ∀ place ∈ program.places memory, other place = memory place) :
    program.run other = program.run memory ∧ program.places other = program.places memory := by
  induction program with
  | done result => exact ⟨rfl, rfl⟩
  | byte place rest ih =>
    have first : other place = memory place := agree place List.mem_cons_self
    obtain ⟨same, same_places⟩ := ih (memory place) fun later member => agree later (List.mem_cons_of_mem _ member)
    rw [run, run, places, places, first]
    exact ⟨same, congrArg (place :: ·) same_places⟩

/-- What lies past the bound makes no difference to a program that reads below it. -/
theorem Below.run_eq {bound : Nat} {memory other : Memory} {program : ByteReader α} (below : Below bound memory program)
    (agree : ∀ place < bound, other place = memory place) : program.run other = program.run memory :=
  (program.run_congr fun place member => agree place (below place member)).1

end ByteReader
end SelfDriving
