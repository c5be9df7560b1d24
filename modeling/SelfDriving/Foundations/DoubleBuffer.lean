import Mathlib.Data.Fin.Basic
import Mathlib.Data.List.Forall2
import Mathlib.Logic.Function.Basic
import SelfDriving.Foundations.Machine

/-! One writer and one reader of a record that two slots and an index hold, without a
lock. The writer fills the slot that the index does not name and then points the index
at it; the reader loads the index once and copies the slot it names. A load or a store
of one field or of the index is one step, and the steps interleave in any order.

A read is whole unless the writer comes round to its slot while it copies, for which
the index must have moved in between. -/
namespace SelfDriving.DoubleBuffer

/-- The fields of a record in the order in which they are copied. Copying all of them
makes the destination the source. -/
structure Layout (ρ ι : Type*) where
  fields : List ι
  /-- The destination with one field of the source in it. -/
  copy : ι → ρ → ρ → ρ
  complete : ∀ source destination : ρ, fields.foldl (fun into field => copy field source into) destination = source

/-- Where the writer is. -/
inductive Writer (ρ ι : Type*) where
  | idle
  | storing (record : ρ) (slot : Fin 2) (rest : List ι)

/-- Where the reader is, with what it has copied so far. -/
inductive Reader (ρ ι : Type*) where
  | idle
  | loading (slot : Fin 2) (rest : List ι) (into : ρ)

structure State (ρ ι : Type*) where
  slots : Fin 2 → ρ
  index : Fin 2
  writer : Writer ρ ι
  reader : Reader ρ ι

/-- A step of one of the two. An idle writer begins to write `record`, and an idle reader
to copy over `into`. -/
inductive Action (ρ : Type*) where
  | writer (record : ρ)
  | reader (into : ρ)
  deriving DecidableEq

variable {ρ ι : Type*} (layout : Layout ρ ι)

def start (initial : ρ) : State ρ ι := ⟨fun _ => initial, ⟨0, Nat.zero_lt_two⟩, .idle, .idle⟩

/-- One step; the output is the record of a read that ends. -/
def step (s : State ρ ι) : Action ρ → State ρ ι × Option ρ
  | .writer record =>
    match s.writer with
    | .idle => ({ s with writer := .storing record (⟨1, Nat.one_lt_two⟩ - s.index) layout.fields }, none)
    | .storing record slot (field :: rest) =>
      ({ s with
          slots := Function.update s.slots slot (layout.copy field record (s.slots slot))
          writer := .storing record slot rest }, none)
    | .storing _ slot [] => ({ s with index := slot, writer := .idle }, none)
  | .reader into =>
    match s.reader with
    | .idle => ({ s with reader := .loading s.index layout.fields into }, none)
    | .loading slot (field :: rest) into =>
      ({ s with reader := .loading slot rest (layout.copy field (s.slots slot) into) }, none)
    | .loading _ [] into => ({ s with reader := .idle }, some into)

def machine : Machine (State ρ ι) (Action ρ) (Option ρ) where
  step := step layout

/-- The records that the reads of a run return. -/
def returned (s : State ρ ι) (actions : List (Action ρ)) : List ρ :=
  (machine layout).collect (fun s action => ((machine layout).output s action).toList) s actions

/-- The record that a step publishes. -/
def publishes (s : State ρ ι) : Action ρ → Option ρ
  | .writer _ =>
    match s.writer with
    | .storing record _ [] => some record
    | _ => none
  | .reader _ => none

/-- The records that the writes of a run publish. -/
def published (s : State ρ ι) (actions : List (Action ρ)) : List ρ :=
  (machine layout).collect (fun s action => (publishes s action).toList) s actions

/-- The writer stores into the slot that the reader is not yet done with. -/
def disturbs (s : State ρ ι) : Action ρ → Bool
  | .writer _ =>
    match s.writer, s.reader with
    | .storing _ slot (_ :: _), .loading slot' (_ :: _) _ => slot = slot'
    | _, _ => false
  | .reader _ => false

/-- No step of a run disturbs a read. -/
def undisturbed (s : State ρ ι) : List (Action ρ) → Bool
  | [] => true
  | action :: rest => !disturbs s action && undisturbed ((machine layout).next s action) rest

/-! ### One step -/

/-- The fields are copied up to the rest. -/
def CopiedUpTo (rest : List ι) (source destination : ρ) : Prop :=
  ∃ done old, layout.fields = done ++ rest ∧
    destination = done.foldl (fun into field => layout.copy field source into) old

variable {layout}

theorem copiedUpTo_none (source destination : ρ) : CopiedUpTo layout layout.fields source destination :=
  ⟨[], destination, rfl, rfl⟩

theorem CopiedUpTo.next {field : ι} {rest : List ι} {source destination : ρ}
    (copied : CopiedUpTo layout (field :: rest) source destination) :
    CopiedUpTo layout rest source (layout.copy field source destination) := by
  obtain ⟨done, old, fields, rfl⟩ := copied
  refine ⟨done ++ [field], old, ?_, ?_⟩
  · rw [fields, List.append_assoc, List.singleton_append]
  · rw [List.foldl_append, List.foldl_cons, List.foldl_nil]

theorem CopiedUpTo.all {source destination : ρ} (copied : CopiedUpTo layout [] source destination) :
    destination = source := by
  obtain ⟨done, old, fields, rfl⟩ := copied
  rw [List.append_nil] at fields
  rw [← fields, layout.complete]

/-- What a process has on its way: the writer fills the slot that nobody is sent to, and
the reader copies a record that was there to be read, none before the one at `floor`. -/
structure Sound (layout : Layout ρ ι) (s : State ρ ι) (known : List ρ) (floor : Nat) : Prop where
  current : known.getLast? = some (s.slots s.index)
  within : floor < known.length
  writer : ∀ record slot rest, s.writer = .storing record slot rest →
    slot ≠ s.index ∧ CopiedUpTo layout rest record (s.slots slot)
  reader : ∀ slot rest into, s.reader = .loading slot rest into →
    ∃ place source, known[place]? = some source ∧ floor ≤ place ∧ CopiedUpTo layout rest source into ∧
      (rest ≠ [] → s.slots slot = source)

theorem sound_start (initial : ρ) : Sound layout (start initial) [initial] 0 :=
  ⟨rfl, Nat.one_pos, nofun, nofun⟩

theorem other_slot (index : Fin 2) : ⟨1, Nat.one_lt_two⟩ - index ≠ index := by
  revert index
  decide

theorem getElem?_append_of_some {known more : List ρ} {place : Nat} {source : ρ}
    (there : known[place]? = some source) : (known ++ more)[place]? = some source := by
  rw [List.getElem?_append_left (List.getElem?_eq_some_iff.mp there).1, there]

/-- A step that disturbs no read keeps this, and returns nothing but what is known, and nothing
older than what was returned before. -/
theorem Sound.next {s : State ρ ι} {known : List ρ} {floor : Nat} (sound : Sound layout s known floor)
    {action : Action ρ} (clear : disturbs s action = false) :
    ∃ floor', floor ≤ floor' ∧
      Sound layout ((machine layout).next s action) (known ++ (publishes s action).toList) floor' ∧
      ∀ read ∈ ((machine layout).output s action).toList, known[floor']? = some read := by
  obtain ⟨slots, index, writer, reader⟩ := s
  cases action with
  | writer record =>
    cases writer with
    | idle =>
      refine ⟨floor, le_rfl, ⟨?_, ?_, ?_, fun slot rest into loading => ?_⟩, nofun⟩
      · rw [publishes, Option.toList_none, List.append_nil]
        exact sound.current
      · exact sound.within.trans_le (List.length_append ▸ Nat.le_add_right ..)
      · rintro _ _ _ ⟨⟩
        exact ⟨other_slot index, copiedUpTo_none ..⟩
      · obtain ⟨place, source, there, above, copied, kept⟩ := sound.reader slot rest into loading
        exact ⟨place, source, getElem?_append_of_some there, above, copied, kept⟩
    | storing record slot rest =>
      obtain ⟨other, copied⟩ := sound.writer record slot rest rfl
      cases rest with
      | nil =>
        have whole : slots slot = record := copied.all
        refine ⟨floor, le_rfl, ⟨?_, ?_, nofun, fun slot rest into loading => ?_⟩, nofun⟩
        · change (known ++ [record]).getLast? = some (slots slot)
          rw [List.getLast?_concat, whole]
        · exact sound.within.trans_le (List.length_append ▸ Nat.le_add_right ..)
        · obtain ⟨place, source, there, above, copied, kept⟩ := sound.reader slot rest into loading
          exact ⟨place, source, getElem?_append_of_some there, above, copied, kept⟩
      | cons field rest =>
        refine ⟨floor, le_rfl, ⟨?_, ?_, ?_, fun read rest' into loading => ?_⟩, nofun⟩
        · change (known ++ []).getLast? = some (Function.update slots slot _ index)
          rw [List.append_nil, Function.update_of_ne other.symm]
          exact sound.current
        · exact sound.within.trans_le (List.length_append ▸ Nat.le_add_right ..)
        · rintro _ _ _ ⟨⟩
          refine ⟨other, ?_⟩
          change CopiedUpTo layout rest record (Function.update slots slot _ slot)
          rw [Function.update_self]
          exact copied.next
        · obtain ⟨place, source, there, above, copied, kept⟩ := sound.reader read rest' into loading
          refine ⟨place, source, getElem?_append_of_some there, above, copied, fun more => ?_⟩
          -- The slot that is stored into is not the one that is read.
          have apart : read ≠ slot := by
            rintro rfl
            cases rest' with
            | nil => exact more rfl
            | cons field' rest' =>
              cases loading
              simp only [disturbs, decide_true] at clear
              cases clear
          change Function.update slots slot _ read = source
          rw [Function.update_of_ne apart]
          exact kept more
  | reader into =>
    have writing (record : ρ) (slot : Fin 2) (rest : List ι) (storing : writer = .storing record slot rest) :
        slot ≠ index ∧ CopiedUpTo layout rest record (slots slot) := sound.writer record slot rest storing
    rw [publishes, Option.toList_none, List.append_nil]
    cases reader with
    | idle =>
      refine ⟨floor, le_rfl, ⟨sound.current, sound.within, writing, ?_⟩, nofun⟩
      rintro _ _ _ ⟨⟩
      -- What the index names is the newest record.
      have newest := sound.current
      rw [List.getLast?_eq_getElem?] at newest
      exact ⟨known.length - 1, slots index, newest, Nat.le_pred_of_lt sound.within, copiedUpTo_none .., fun _ => rfl⟩
    | loading slot rest into =>
      obtain ⟨place, source, there, above, copied, kept⟩ := sound.reader slot rest into rfl
      cases rest with
      | nil =>
        have inside := (List.getElem?_eq_some_iff.mp there).1
        refine ⟨place, above, ⟨sound.current, inside, writing, nofun⟩, fun read ends => ?_⟩
        have returns : read = into := List.mem_singleton.mp ends
        rw [returns, copied.all]
        exact there
      | cons field rest =>
        refine ⟨floor, le_rfl, ⟨sound.current, sound.within, writing, ?_⟩, nofun⟩
        rintro _ _ _ ⟨⟩
        refine ⟨place, source, there, above, ?_, fun _ => kept (List.cons_ne_nil _ _)⟩
        rw [kept (List.cons_ne_nil _ _)]
        exact copied.next

/-! ### Records in their order -/

/-- The record that is being written. -/
def pending : Writer ρ ι → List ρ
  | .idle => []
  | .storing record _ _ => [record]

/-- The records of all writes that have begun, of which the reads return none before the one at `floor`. -/
structure Shared (layout : Layout ρ ι) (s : State ρ ι) (records : List ρ) (floor : Nat) : Prop where
  sound : ∃ known, known ++ pending s.writer = records ∧ Sound layout s known floor

theorem Shared.newest {s : State ρ ι} {records : List ρ} {floor : Nat} (shared : Shared layout s records floor)
    (idle : s.writer = .idle) : records.getLast? = some (s.slots s.index) := by
  obtain ⟨known, rfl, sound⟩ := shared.sound
  rw [idle, pending, List.append_nil]
  exact sound.current

/-- A write begins. -/
theorem Shared.begin {s : State ρ ι} {records : List ρ} {floor : Nat} (shared : Shared layout s records floor)
    (idle : s.writer = .idle) (record : ρ) : Shared layout (step layout s (.writer record)).1 (records ++ [record]) floor := by
  obtain ⟨known, rfl, sound⟩ := shared.sound
  obtain ⟨slots, index, writer, reader⟩ := s
  cases idle
  refine ⟨known, by rw [pending, List.append_nil]; rfl, sound.current, sound.within, ?_, sound.reader⟩
  rintro _ _ _ ⟨⟩
  exact ⟨other_slot index, copiedUpTo_none ..⟩

/-- A write goes on, or ends. -/
theorem Shared.go_on {s : State ρ ι} {records : List ρ} {floor : Nat} (shared : Shared layout s records floor)
    (writes : s.writer ≠ .idle) {record : ρ} (clear : disturbs s (.writer record) = false) :
    ∃ floor', floor ≤ floor' ∧ Shared layout (step layout s (.writer record)).1 records floor' := by
  obtain ⟨known, rfl, sound⟩ := shared.sound
  obtain ⟨floor', above, kept, -⟩ := sound.next clear
  refine ⟨floor', above, ⟨_, ?_, kept⟩⟩
  obtain ⟨slots, index, writer, reader⟩ := s
  rw [List.append_assoc]
  cases writer with
  | idle => exact absurd rfl writes
  | storing record slot rest => cases rest <;> rfl

/-- A read begins, goes on or ends. -/
theorem Shared.read {s next : State ρ ι} {records : List ρ} {floor : Nat} (shared : Shared layout s records floor)
    {into : ρ} {returned : Option ρ} (reads : step layout s (.reader into) = (next, returned)) :
    ∃ floor', floor ≤ floor' ∧ Shared layout next records floor' ∧ next.writer = s.writer ∧
      ∀ record, returned = some record → records[floor']? = some record := by
  obtain ⟨known, rfl, sound⟩ := shared.sound
  have undisturbing : disturbs s (.reader into) = false := rfl
  obtain ⟨floor', above, kept, returns⟩ := sound.next undisturbing
  simp only [Machine.next, Machine.output, machine, reads, publishes, Option.toList_none, List.append_nil] at kept returns
  have same : next.writer = s.writer := by
    have first : next = (step layout s (.reader into)).1 := (congrArg Prod.fst reads).symm
    rw [first]
    obtain ⟨slots, index, writer, reader⟩ := s
    rcases reader with _ | ⟨slot, _ | ⟨field, rest⟩, into⟩ <;> rfl
  refine ⟨floor', above, ⟨known, by rw [same], kept⟩, same, fun record ends => getElem?_append_of_some (returns record ?_)⟩
  exact Option.mem_toList.mpr ends

/-- A read that returns nothing is on its way. -/
theorem reader_of_reads {s next : State ρ ι} {into : ρ} {returned : Option ρ}
    (reads : step layout s (.reader into) = (next, returned)) : next.reader = .idle ↔ returned ≠ none := by
  obtain ⟨slots, index, writer, reader⟩ := s
  rcases reader with _ | ⟨slot, _ | ⟨field, rest⟩, into⟩ <;> cases reads <;> simp

theorem reader_writer (s : State ρ ι) (record : ρ) : (step layout s (.writer record)).1.reader = s.reader := by
  obtain ⟨slots, index, writer, reader⟩ := s
  rcases writer with _ | ⟨record, slot, _ | ⟨field, rest⟩⟩ <;> rfl

/-- With nobody on the way, what the index names is all there is to read. -/
theorem shared_of_idle {s : State ρ ι} (written : s.writer = .idle) (read : s.reader = .idle) :
    Shared layout s [s.slots s.index] 0 := by
  refine ⟨[s.slots s.index], by rw [written, pending]; rfl, rfl, Nat.one_pos, ?_, ?_⟩
  · rintro record slot rest storing
    rw [written] at storing
    cases storing
  · rintro slot rest into loading
    rw [read] at loading
    cases loading

/-! ### Runs -/

theorem undisturbed_append (s : State ρ ι) (first second : List (Action ρ)) :
    undisturbed layout s (first ++ second) =
      (undisturbed layout s first && undisturbed layout ((machine layout).run s first) second) := by
  induction first generalizing s with
  | nil => rfl
  | cons action rest ih =>
    simp only [List.cons_append, undisturbed, ih, Machine.run_cons, Bool.and_assoc]

/-- A run that disturbs no read keeps all this, and knows what it has published as well. -/
theorem Sound.run {s : State ρ ι} {known : List ρ} {floor : Nat} (sound : Sound layout s known floor)
    {actions : List (Action ρ)} (clear : undisturbed layout s actions = true) :
    ∃ floor', floor ≤ floor' ∧
      Sound layout ((machine layout).run s actions) (known ++ published layout s actions) floor' := by
  induction actions generalizing s known floor with
  | nil => exact ⟨floor, le_rfl, by rw [published, Machine.collect, List.append_nil]; exact sound⟩
  | cons action rest ih =>
    rw [undisturbed, Bool.and_eq_true, Bool.not_eq_true'] at clear
    obtain ⟨floor', above, kept, -⟩ := sound.next clear.1
    obtain ⟨floor'', higher, run⟩ := ih kept clear.2
    refine ⟨floor'', above.trans higher, ?_⟩
    rw [published, Machine.collect, ← List.append_assoc]
    exact run

/-- Two slots are enough as long as no read is disturbed: a read that ends returns what was published
before it ends, or what was there from the start. -/
theorem reads_whole {initial : ρ} {before after : List (Action ρ)} {action : Action ρ}
    (clear : undisturbed layout (start initial) (before ++ action :: after) = true) {read : ρ}
    (ends : (machine layout).output ((machine layout).run (start initial) before) action = some read) :
    read = initial ∨ read ∈ published layout (start initial) before := by
  rw [undisturbed_append, undisturbed, Bool.and_eq_true, Bool.and_eq_true, Bool.not_eq_true'] at clear
  obtain ⟨floor, -, sound⟩ := (sound_start initial).run clear.1
  obtain ⟨floor', -, -, returns⟩ := sound.next clear.2.1
  have there := returns read (Option.mem_toList.mpr ends)
  exact List.mem_cons.mp (List.mem_of_getElem? there)

end SelfDriving.DoubleBuffer
