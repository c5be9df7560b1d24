import Mathlib.Data.List.Basic

/-! Components that take one input after another and answer each: a run is a
list of inputs, and what holds of every run is proved from what one step keeps.
Facts about the past of a run are kept beside the state as notes that no step
of the component reads. -/
namespace SelfDriving

/-- A deterministic component: a state, an input, the next state and an output. -/
structure Machine (σ ι ο : Type*) where
  /-- One step. -/
  step : σ → ι → σ × ο

namespace Machine
variable {σ ι ο γ : Type*} (m : Machine σ ι ο)

def next (s : σ) (i : ι) : σ := (m.step s i).1
def output (s : σ) (i : ι) : ο := (m.step s i).2

/-- The state after a list of inputs. -/
def run (s : σ) (inputs : List ι) : σ := inputs.foldl m.next s

/-- The answers to a list of inputs, oldest first. -/
def outputs : σ → List ι → List ο
  | _, [] => []
  | s, i :: rest => m.output s i :: outputs (m.next s i) rest

@[simp] theorem run_nil (s : σ) : m.run s [] = s := rfl

@[simp] theorem run_cons (s : σ) (i : ι) (rest : List ι) :
    m.run s (i :: rest) = m.run (m.next s i) rest := rfl

theorem run_append (s : σ) (first rest : List ι) :
    m.run s (first ++ rest) = m.run (m.run s first) rest := List.foldl_append

theorem run_concat (s : σ) (inputs : List ι) (i : ι) :
    m.run s (inputs ++ [i]) = m.next (m.run s inputs) i := run_append m s inputs [i]

/-- What one step keeps, a whole run keeps. -/
theorem run_invariant (Inv : σ → Prop) (kept : ∀ s i, Inv s → Inv (m.next s i)) {s : σ} (start : Inv s)
    (inputs : List ι) : Inv (m.run s inputs) := by
  induction inputs generalizing s with
  | nil => exact start
  | cons i rest ih => exact ih (kept s i start)

/-- An answer of a run is the answer to one of its inputs, after those before it. -/
theorem exists_of_mem_outputs {s : σ} {inputs : List ι} {out : ο} (member : out ∈ m.outputs s inputs) :
    ∃ first i rest, inputs = first ++ i :: rest ∧ out = m.output (m.run s first) i := by
  induction inputs generalizing s with
  | nil => cases member
  | cons i rest ih =>
    rcases List.mem_cons.mp member with now | later
    · exact ⟨[], i, rest, rfl, now⟩
    · obtain ⟨first, j, rest', split, answer⟩ := ih later
      exact ⟨i :: first, j, rest', by rw [split, List.cons_append], answer⟩

/-- The answer at a place of a run is given in the state that the inputs before it leave. -/
theorem getElem?_outputs (s : σ) (inputs : List ι) (n : Nat) :
    (m.outputs s inputs)[n]? = inputs[n]?.map (m.output (m.run s (inputs.take n))) := by
  induction inputs generalizing s n with
  | nil => rfl
  | cons i rest ih =>
    cases n with
    | zero => rfl
    | succ n => exact ih (m.next s i) n

@[simp] theorem length_outputs (s : σ) (inputs : List ι) : (m.outputs s inputs).length = inputs.length := by
  induction inputs generalizing s with
  | nil => rfl
  | cons i rest ih => exact congrArg Nat.succ (ih (m.next s i))

/-- A part of the state that every step leaves at what it writes there last, if anything,
is after a run what was written there last. -/
theorem run_last_write {β : Type*} (part : σ → β) (writes : ι → List β)
    (step : ∀ s i, part (m.next s i) = (writes i).getLastD (part s)) (s : σ) (inputs : List ι) :
    part (m.run s inputs) = (inputs.flatMap writes).getLastD (part s) := by
  induction inputs generalizing s with
  | nil => rfl
  | cons i rest ih =>
    rw [run_cons, ih, step, List.flatMap_cons]
    simp only [List.getLastD_eq_getLast?, List.getLast?_append]
    cases (rest.flatMap writes).getLast? with
    | none => rfl
    | some last => rfl

/-- Two runs whose steps keep a relation answer in a related way, input by input. -/
theorem outputs_forall₂ {σ' ι' ο' : Type*} {m : Machine σ ι ο} {m' : Machine σ' ι' ο'} (State : σ → σ' → Prop)
    (Input : ι → ι' → Prop) (Output : ο → ο' → Prop)
    (step : ∀ s s' i i', State s s' → Input i i' →
      State (m.next s i) (m'.next s' i') ∧ Output (m.output s i) (m'.output s' i'))
    {s : σ} {s' : σ'} (start : State s s') {inputs : List ι} {inputs' : List ι'}
    (all : List.Forall₂ Input inputs inputs') : List.Forall₂ Output (m.outputs s inputs) (m'.outputs s' inputs') := by
  induction all generalizing s s' with
  | nil => exact .nil
  | cons first _ ih =>
    obtain ⟨kept, answered⟩ := step s s' _ _ start first
    exact .cons answered (ih kept)

/-- A machine whose every step is a step of another with the same answer: a run of it has the
answers of a run of the other. -/
theorem exists_run_of_refines {σ' ι' : Type*} {m : Machine σ ι ο} {m' : Machine σ' ι' ο} (abstract : σ → σ')
    (Input : ι → ι' → Prop)
    (step : ∀ s i, ∃ i', Input i i' ∧ m'.step (abstract s) i' = (abstract (m.next s i), m.output s i))
    (s : σ) (inputs : List ι) :
    ∃ inputs', List.Forall₂ Input inputs inputs' ∧ m'.outputs (abstract s) inputs' = m.outputs s inputs ∧
      m'.run (abstract s) inputs' = abstract (m.run s inputs) := by
  induction inputs generalizing s with
  | nil => exact ⟨[], .nil, rfl, rfl⟩
  | cons i rest ih =>
    obtain ⟨i', related, same⟩ := step s i
    obtain ⟨rest', all, answers, reached⟩ := ih (m.next s i)
    have next : m'.next (abstract s) i' = abstract (m.next s i) := congrArg Prod.fst same
    have output : m'.output (abstract s) i' = m.output s i := congrArg Prod.snd same
    refine ⟨i' :: rest', .cons related all, ?_, ?_⟩
    · rw [outputs, outputs, next, output, answers]
    · rw [run_cons, run_cons, next, reached]

/-- What the steps of a run put on record, oldest first. -/
def collect (record : σ → ι → List γ) : σ → List ι → List γ
  | _, [] => []
  | s, i :: rest => record s i ++ collect record (m.next s i) rest

theorem collect_append (record : σ → ι → List γ) (s : σ) (first rest : List ι) :
    m.collect record s (first ++ rest) = m.collect record s first ++ m.collect record (m.run s first) rest := by
  induction first generalizing s with
  | nil => rfl
  | cons i first ih =>
    rw [List.cons_append, collect, collect, run_cons, ih, List.append_assoc]

theorem collect_concat (record : σ → ι → List γ) (s : σ) (inputs : List ι) (i : ι) :
    m.collect record s (inputs ++ [i]) = m.collect record s inputs ++ record (m.run s inputs) i := by
  rw [collect_append, collect, collect, List.append_nil]

/-- What is said of every place of a run, with the state before it and the inputs after
it, is said of the first place and of the rest. -/
theorem forall_split_cons (P : σ → ι → List ι → Prop) (s : σ) (i : ι) (rest : List ι) :
    (∀ before j after, i :: rest = before ++ j :: after → P (m.run s before) j after) ↔
      P s i rest ∧ ∀ before j after, rest = before ++ j :: after → P (m.run (m.next s i) before) j after := by
  constructor
  · intro whole
    refine ⟨whole [] i rest rfl, ?_⟩
    intro before j after split
    exact whole (i :: before) j after (by rw [split, List.cons_append])
  · rintro ⟨first, later⟩ before j after split
    cases before with
    | nil =>
      cases split
      exact first
    | cons head before =>
      cases split
      exact later before j after rfl

/-- A run puts nothing on record when none of its steps does. -/
theorem collect_eq_nil_iff {record : σ → ι → List γ} (s : σ) (inputs : List ι) :
    m.collect record s inputs = [] ↔
      ∀ before i after, inputs = before ++ i :: after → record (m.run s before) i = [] := by
  induction inputs generalizing s with
  | nil =>
    refine iff_of_true rfl ?_
    intro before i after split
    simp at split
  | cons i rest ih =>
    rw [collect, List.append_eq_nil_iff, ih, m.forall_split_cons fun s i _ => record s i = []]

/-- What goes on record when `k` things are on it already. -/
theorem drop_collect {record : σ → ι → List γ} {k : Nat} {s : σ} {first rest : List ι}
    (count : (m.collect record s first).length = k) :
    (m.collect record s (first ++ rest)).drop k = m.collect record (m.run s first) rest := by
  rw [collect_append, ← count, List.drop_left]

theorem map_collect {δ : Type*} (f : γ → δ) (record : σ → ι → List γ) (s : σ) (inputs : List ι) :
    (m.collect record s inputs).map f = m.collect (fun s i => (record s i).map f) s inputs := by
  induction inputs generalizing s with
  | nil => rfl
  | cons i rest ih => rw [collect, collect, List.map_append, ih]

theorem collect_eq_nil {record : σ → ι → List γ} {inputs : List ι}
    (none : ∀ s, ∀ i ∈ inputs, record s i = []) (s : σ) : m.collect record s inputs = [] := by
  induction inputs generalizing s with
  | nil => rfl
  | cons i rest ih =>
    rw [collect, none s i (by simp), List.nil_append]
    exact ih (fun t j member => none t j (by simp [member])) _

/-- Under an invariant that inputs of one kind keep, everything on record is as one
step puts it there. -/
theorem collect_forall (record : σ → ι → List γ) (Inv : σ → Prop) (Input : ι → Prop) (Good : γ → Prop)
    (step : ∀ s i, Input i → Inv s → Inv (m.next s i) ∧ ∀ x ∈ record s i, Good x) {s : σ} (start : Inv s)
    {inputs : List ι} (all : ∀ i ∈ inputs, Input i) : ∀ x ∈ m.collect record s inputs, Good x := by
  induction inputs generalizing s with
  | nil =>
    intro x member
    cases member
  | cons i rest ih =>
    obtain ⟨kept, good⟩ := step s i (all i (by simp)) start
    intro x member
    rw [collect, List.mem_append] at member
    rcases member with now | later
    · exact good x now
    · exact ih kept (fun j member => all j (by simp [member])) x later

/-- What holds of all that any step puts on record holds of the whole record. -/
theorem forall_mem_collect {record : σ → ι → List γ} {Good : γ → Prop} (good : ∀ s i, ∀ x ∈ record s i, Good x)
    (s : σ) (inputs : List ι) : ∀ x ∈ m.collect record s inputs, Good x :=
  m.collect_forall record (fun _ => True) (fun _ => True) Good (fun s i _ _ => ⟨trivial, good s i⟩) trivial
    fun _ _ => trivial

/-- A record of parts of the inputs is a part of all of them. -/
theorem collect_sublist (record : σ → ι → List γ) (parts : ι → List γ)
    (part : ∀ s i, (record s i).Sublist (parts i)) (s : σ) (inputs : List ι) :
    (m.collect record s inputs).Sublist (inputs.flatMap parts) := by
  induction inputs generalizing s with
  | nil => exact .slnil
  | cons i rest ih =>
    rw [collect, List.flatMap_cons]
    exact (part s i).append (ih _)

/-- A check passes at every step of a run. -/
def always (check : σ → ι → Bool) : σ → List ι → Bool
  | _, [] => true
  | s, i :: rest => check s i && always check (m.next s i) rest

theorem always_append (check : σ → ι → Bool) (s : σ) (first rest : List ι) :
    m.always check s (first ++ rest) = (m.always check s first && m.always check (m.run s first) rest) := by
  induction first generalizing s with
  | nil => rfl
  | cons i first ih => rw [List.cons_append, always, always, ih, Bool.and_assoc, run_cons]

/-- What every step keeps that passes a check, of the state and of all that is on record. -/
theorem collect_invariant (record : σ → ι → List γ) (Inv : List γ → σ → Prop) (check : σ → ι → Bool)
    (kept : ∀ past s i, check s i = true → Inv past s → Inv (past ++ record s i) (m.next s i)) {past : List γ} {s : σ}
    (start : Inv past s) {inputs : List ι} (passes : m.always check s inputs = true) :
    Inv (past ++ m.collect record s inputs) (m.run s inputs) := by
  induction inputs generalizing past s with
  | nil => rwa [collect, List.append_nil]
  | cons i rest ih =>
    rw [always, Bool.and_eq_true] at passes
    rw [collect, ← List.append_assoc]
    exact ih (kept past s i passes.1 start) passes.2

/-- An entry of the record was put there by one step, after the entries before it. -/
theorem collect_split {record : σ → ι → List γ} (single : ∀ s i, (record s i).length ≤ 1) {s : σ} {inputs : List ι}
    {before after : List γ} {entry : γ} (split : m.collect record s inputs = before ++ entry :: after) :
    ∃ first i rest, inputs = first ++ i :: rest ∧ m.collect record s first = before ∧
      record (m.run s first) i = [entry] := by
  induction inputs generalizing s before with
  | nil => simp [collect] at split
  | cons i rest ih =>
    rw [collect] at split
    match now : record s i, single s i with
    | [], _ =>
      rw [now, List.nil_append] at split
      obtain ⟨first, j, rest', rfl, past, entered⟩ := ih split
      exact ⟨i :: first, j, rest', rfl, by rw [collect, now, past, List.nil_append], entered⟩
    | [x], _ =>
      rw [now] at split
      cases before with
      | nil =>
        obtain ⟨rfl, -⟩ := List.cons.inj split
        exact ⟨[], i, rest, rfl, rfl, now⟩
      | cons y before =>
        obtain ⟨rfl, later⟩ := List.cons.inj split
        obtain ⟨first, j, rest', rfl, past, entered⟩ := ih later
        exact ⟨i :: first, j, rest', rfl, by rw [collect, now, past, List.singleton_append], entered⟩

/-- The component with a note beside its state, written at each step and never read. -/
def noting (note : σ → ι → γ → γ) : Machine (σ × γ) ι ο where
  step s i := ((m.next s.1 i, note s.1 i s.2), m.output s.1 i)

/-- A note changes nothing of the run. -/
@[simp] theorem run_noting_fst (note : σ → ι → γ → γ) (s : σ × γ) (inputs : List ι) :
    ((m.noting note).run s inputs).1 = m.run s.1 inputs := by
  induction inputs generalizing s with
  | nil => rfl
  | cons i rest ih => rw [run_cons, ih]; rfl

/-- The note of one step more is written from the state before it. -/
theorem run_noting_concat_snd (note : σ → ι → γ → γ) (s : σ × γ) (inputs : List ι) (i : ι) :
    ((m.noting note).run s (inputs ++ [i])).2 =
      note (m.run s.1 inputs) i ((m.noting note).run s inputs).2 := by
  rw [run_concat]
  change note ((m.noting note).run s inputs).1 i _ = _
  rw [run_noting_fst]

end Machine
end SelfDriving
