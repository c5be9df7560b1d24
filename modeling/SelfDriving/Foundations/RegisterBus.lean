import Mathlib.Data.List.Basic

/-! Programs that read and write the registers of a device over a bus and give up at the first
transfer that fails, what goes over the bus when they run, and rules of what every run ensures.
Nothing is assumed of the device: it may answer anything, and look at all that went before. -/
namespace SelfDriving.RegisterBus

/-- A write that was tried, or a read with what came back. -/
inductive Transfer (ρ β : Type) where
  | write (register : ρ) (data : List β)
  | read (register : ρ) (data : List β)
  deriving DecidableEq

def Transfer.register {ρ β : Type} : Transfer ρ β → ρ
  | write register _ => register
  | read register _ => register

@[simp] theorem Transfer.register_write {ρ β : Type} (register : ρ) (data : List β) :
    (write register data).register = register := rfl

@[simp] theorem Transfer.register_read {ρ β : Type} (register : ρ) (data : List β) :
    (read register data).register = register := rfl

/-- What a device does with the next transfer, after those before it. -/
structure Device (ρ β : Type) where
  acknowledges : List (Transfer ρ β) → ρ → List β → Bool
  answer : List (Transfer ρ β) → ρ → (size : Nat) → Option { data : List β // data.length = size }

inductive Program (ρ β α : Type) where
  | done (result : α)
  | failed
  | write (register : ρ) (data : List β) (next : Program ρ β α)
  | read (register : ρ) (size : Nat) (next : List β → Program ρ β α)

namespace Program
variable {ρ β α γ : Type}

def bind : Program ρ β α → (α → Program ρ β γ) → Program ρ β γ
  | done result, rest => rest result
  | failed, _ => failed
  | write register data next, rest => write register data (next.bind rest)
  | read register size next, rest => read register size fun data => (next data).bind rest

instance : Monad (Program ρ β) where
  pure := done
  bind := bind

/-- What went over the bus, after what had gone before, and the result unless a transfer failed. -/
def run (device : Device ρ β) : Program ρ β α → List (Transfer ρ β) → List (Transfer ρ β) × Option α
  | done result, history => (history, some result)
  | failed, history => (history, none)
  | write register data next, history =>
    if device.acknowledges history register data then next.run device (history ++ [.write register data])
    else (history ++ [.write register data], none)
  | read register size next, history =>
    match device.answer history register size with
    | none => (history, none)
    | some data => (next data).run device (history ++ [.read register data])

/-- What has to hold before a program for its runs to end as stated, whatever the device does. -/
def Ensures (post : List (Transfer ρ β) → Option α → Prop) : Program ρ β α → List (Transfer ρ β) → Prop
  | done result, history => post history (some result)
  | failed, history => post history none
  | write register data next, history =>
    post (history ++ [.write register data]) none ∧ next.Ensures post (history ++ [.write register data])
  | read register size next, history =>
    post history none ∧
      ∀ data, data.length = size → (next data).Ensures post (history ++ [.read register data])

/-- Every run ends as a program ensures. -/
theorem run_of_ensures {post : List (Transfer ρ β) → Option α → Prop} (device : Device ρ β)
    {program : Program ρ β α} {history : List (Transfer ρ β)} (ensures : program.Ensures post history) :
    post (program.run device history).1 (program.run device history).2 := by
  induction program generalizing history with
  | done result => exact ensures
  | failed => exact ensures
  | write register data next ih =>
    rw [run]
    split
    · exact ih ensures.2
    · exact ensures.1
  | read register size next ih =>
    rw [run]
    cases device.answer history register size with
    | none => exact ensures.1
    | some data => exact ih _ (ensures.2 _ data.2)

theorem Ensures.mono {post post' : List (Transfer ρ β) → Option α → Prop} {program : Program ρ β α}
    {history : List (Transfer ρ β)} (ensures : program.Ensures post history)
    (weaker : ∀ history' result, post history' result → post' history' result) : program.Ensures post' history := by
  induction program generalizing history with
  | done result => exact weaker _ _ ensures
  | failed => exact weaker _ _ ensures
  | write register data next ih => exact ⟨weaker _ _ ensures.1, ih ensures.2⟩
  | read register size next ih =>
    exact ⟨weaker _ _ ensures.1, fun data length => ih data (ensures.2 data length)⟩

/-- What the first of two programs has to ensure for the second. -/
def Then (rest : α → Program ρ β γ) (post : List (Transfer ρ β) → Option γ → Prop)
    (history : List (Transfer ρ β)) : Option α → Prop
  | none => post history none
  | some result => (rest result).Ensures post history

theorem ensures_bind {post : List (Transfer ρ β) → Option γ → Prop} {program : Program ρ β α}
    {rest : α → Program ρ β γ} {history : List (Transfer ρ β)} :
    (program >>= rest).Ensures post history ↔ program.Ensures (Then rest post) history := by
  change (program.bind rest).Ensures post history ↔ _
  induction program generalizing history with
  | done result => rfl
  | failed => rfl
  | write register data next ih => exact and_congr_right fun _ => ih
  | read register size next ih =>
    exact and_congr_right fun _ => forall_congr' fun data => imp_congr_right fun _ => ih data

/-- What any program leaves to the one after it. -/
theorem ensures_after {post : List (Transfer ρ β) → Option γ → Prop} {program : Program ρ β α}
    {rest : α → Program ρ β γ} (given_up : ∀ history, post history none)
    (then_rest : ∀ history result, (rest result).Ensures post history) (history : List (Transfer ρ β)) :
    (program >>= rest).Ensures post history := by
  have nothing : program.Ensures (fun _ _ => True) history := by
    induction program generalizing history with
    | done result => trivial
    | failed => trivial
    | write register data next ih => exact ⟨trivial, ih _⟩
    | read register size next ih => exact ⟨trivial, fun data _ => ih data _⟩
  refine ensures_bind.mpr (nothing.mono fun history' result _ => ?_)
  cases result with
  | none => exact given_up history'
  | some result => exact then_rest history' result

@[simp] theorem ensures_pure {post : List (Transfer ρ β) → Option α → Prop} {result : α}
    {history : List (Transfer ρ β)} :
    (pure result : Program ρ β α).Ensures post history ↔ post history (some result) := Iff.rfl

theorem Ensures.and {post post' : List (Transfer ρ β) → Option α → Prop} {program : Program ρ β α}
    {history : List (Transfer ρ β)} (first : program.Ensures post history) (second : program.Ensures post' history) :
    program.Ensures (fun history' result => post history' result ∧ post' history' result) history := by
  induction program generalizing history with
  | done result => exact ⟨first, second⟩
  | failed => exact ⟨first, second⟩
  | write register data next ih => exact ⟨⟨first.1, second.1⟩, ih first.2 second.2⟩
  | read register size next ih =>
    exact ⟨⟨first.1, second.1⟩, fun data length => ih data (first.2 data length) (second.2 data length)⟩

/-- No transfer of a program is with the register. -/
def Avoids (register : ρ) : Program ρ β α → Prop
  | done _ => True
  | failed => True
  | write register' _ next => register' ≠ register ∧ next.Avoids register
  | read register' _ next => register' ≠ register ∧ ∀ data, (next data).Avoids register

theorem Avoids.bind {register : ρ} {program : Program ρ β α} {rest : α → Program ρ β γ}
    (first : program.Avoids register) (second : ∀ result, (rest result).Avoids register) :
    (program >>= rest).Avoids register := by
  change (program.bind rest).Avoids register
  induction program with
  | done result => exact second result
  | failed => trivial
  | write register' data next ih => exact ⟨first.1, ih first.2⟩
  | read register' size next ih => exact ⟨first.1, fun data => ih data (first.2 data)⟩

/-- A program whose first part has a result goes on with it. -/
theorem run_bind_of_some {device : Device ρ β} {program : Program ρ β α} (rest : α → Program ρ β γ)
    {history history' : List (Transfer ρ β)} {result : α} (finished : program.run device history = (history', some result)) :
    (program >>= rest).run device history = (rest result).run device history' := by
  change (program.bind rest).run device history = _
  induction program generalizing history with
  | done result =>
    cases finished
    rfl
  | failed => cases finished
  | write register data next ih =>
    rw [run] at finished
    split at finished
    · rename_i acknowledged
      rw [bind, run, if_pos acknowledged]
      exact ih finished
    · cases finished
  | read register size next ih =>
    rw [run] at finished
    rw [bind, run]
    split at finished
    · cases finished
    · exact ih _ finished

/-- A program whose first part gives up ends there. -/
theorem run_bind_of_none {device : Device ρ β} {program : Program ρ β α} (rest : α → Program ρ β γ)
    {history history' : List (Transfer ρ β)} (finished : program.run device history = (history', none)) :
    (program >>= rest).run device history = (history', none) := by
  change (program.bind rest).run device history = _
  induction program generalizing history with
  | done result => cases finished
  | failed =>
    cases finished
    rfl
  | write register data next ih =>
    rw [run] at finished
    rw [bind, run]
    split at finished
    · rename_i acknowledged
      rw [if_pos acknowledged]
      exact ih finished
    · rename_i refused
      rw [if_neg refused]
      cases finished
      rfl
  | read register size next ih =>
    rw [run] at finished
    rw [bind, run]
    split at finished
    · cases finished
      rfl
    · exact ih _ finished

end Program

/-! ### Devices that answer -/

/-- Every transfer goes through. -/
structure Device.Answers {ρ β : Type} (device : Device ρ β) : Prop where
  acknowledges : ∀ history register data, device.acknowledges history register data = true
  answer : ∀ history register size, (device.answer history register size).isSome

namespace Program
variable {ρ β α γ : Type} {device : Device ρ β}

/-- Every run with the device has a result. -/
def Finishes (device : Device ρ β) (program : Program ρ β α) : Prop :=
  ∀ history, ∃ history' result, program.run device history = (history', some result)

theorem Finishes.bind {program : Program ρ β α} {rest : α → Program ρ β γ} (first : program.Finishes device)
    (second : ∀ result, (rest result).Finishes device) : (program >>= rest).Finishes device := by
  intro history
  obtain ⟨history', result, finished⟩ := first history
  rw [run_bind_of_some rest finished]
  exact second result history'

theorem finishes_done (result : α) : (done result : Program ρ β α).Finishes device :=
  fun history => ⟨history, result, rfl⟩

variable (answers : device.Answers)
include answers

theorem finishes_write (register : ρ) (data : List β) {next : Program ρ β α} (rest : next.Finishes device) :
    (write register data next).Finishes device := by
  intro history
  rw [run, if_pos (answers.acknowledges history register data)]
  exact rest _

theorem finishes_read (register : ρ) (size : Nat) {next : List β → Program ρ β α}
    (rest : ∀ data, (next data).Finishes device) : (read register size next).Finishes device := by
  intro history
  obtain ⟨data, answered⟩ := Option.isSome_iff_exists.mp (answers.answer history register size)
  rw [run, answered]
  exact rest data _

end Program

section
variable {ρ β : Type} [DecidableEq ρ]

/-- What went to and came from one register. -/
def transfersAt (register : ρ) (history : List (Transfer ρ β)) : List (Transfer ρ β) :=
  history.filter fun transfer => transfer.register = register

@[simp] theorem transfersAt_append (register : ρ) (history later : List (Transfer ρ β)) :
    transfersAt register (history ++ later) = transfersAt register history ++ transfersAt register later :=
  List.filter_append ..

@[simp] theorem transfersAt_singleton (register : ρ) (transfer : Transfer ρ β) :
    transfersAt register [transfer] = if transfer.register = register then [transfer] else [] := by
  by_cases same : transfer.register = register <;> simp [transfersAt, same]

/-- A program leaves a register that it avoids alone. -/
theorem Program.Avoids.ensures {α : Type} {register : ρ} {program : Program ρ β α}
    (avoids : program.Avoids register) {earlier : List (Transfer ρ β)} {history : List (Transfer ρ β)}
    (same : transfersAt register history = earlier) :
    program.Ensures (fun history' _ => transfersAt register history' = earlier) history := by
  induction program generalizing history with
  | done result => exact same
  | failed => exact same
  | write register' data next ih =>
    have kept : transfersAt register (history ++ [.write register' data]) = earlier := by
      simpa [avoids.1] using same
    exact ⟨kept, ih avoids.2 kept⟩
  | read register' size next ih =>
    refine ⟨same, fun data length => ih data (avoids.2 data) ?_⟩
    simpa [avoids.1] using same

theorem mem_transfersAt {register : ρ} {history : List (Transfer ρ β)} {transfer : Transfer ρ β} :
    transfer ∈ transfersAt register history ↔ transfer ∈ history ∧ transfer.register = register := by
  simp [transfersAt]

/-- A program that starts with transfers elsewhere: what the rest needs to know of a register is
what was known before. -/
theorem Program.Avoids.ensures_bind {α γ : Type} {register : ρ} {program : Program ρ β α} {rest : α → Program ρ β γ}
    {post : List (Transfer ρ β) → Option γ → Prop} (avoids : program.Avoids register)
    {earlier : List (Transfer ρ β)} {history : List (Transfer ρ β)} (same : transfersAt register history = earlier)
    (given_up : ∀ history', transfersAt register history' = earlier → post history' none)
    (then_rest : ∀ history' result, transfersAt register history' = earlier → (rest result).Ensures post history') :
    (program >>= rest).Ensures post history := by
  rw [Program.ensures_bind]
  refine (avoids.ensures same).mono fun history' result kept => ?_
  cases result with
  | none => exact given_up history' kept
  | some result => exact then_rest history' result kept

/-! ### What was written last -/

def Transfer.written : Transfer ρ β → Option (List β)
  | .write _ data => some data
  | .read _ _ => none

/-- What was last written to a register. -/
def lastWritten (register : ρ) (history : List (Transfer ρ β)) : Option (List β) :=
  ((transfersAt register history).filterMap Transfer.written).getLast?

@[simp] theorem lastWritten_write (register register' : ρ) (data : List β) (history : List (Transfer ρ β)) :
    lastWritten register (history ++ [.write register' data]) =
      if register' = register then some data else lastWritten register history := by
  by_cases same : register' = register <;> simp [lastWritten, Transfer.written, same]

@[simp] theorem lastWritten_read (register register' : ρ) (data : List β) (history : List (Transfer ρ β)) :
    lastWritten register (history ++ [.read register' data]) = lastWritten register history := by
  by_cases same : register' = register <;> simp [lastWritten, Transfer.written, same]

namespace Program
variable {α γ : Type}

/-- A run that goes through leaves a register with these data written last. -/
def Sets (register : ρ) (data : List β) (program : Program ρ β α) : Prop :=
  ∀ history, program.Ensures (fun history' result => result.isSome → lastWritten register history' = some data) history

theorem Sets.then {register : ρ} {data : List β} {program : Program ρ β α} {rest : α → Program ρ β γ}
    (sets : ∀ result, (rest result).Sets register data) : (program >>= rest).Sets register data := by
  refine ensures_after (fun history => ?_) fun history result => sets result history
  exact fun failed => Bool.noConfusion failed

theorem Avoids.lastWritten {register : ρ} {program : Program ρ β α} (avoids : program.Avoids register)
    (history : List (Transfer ρ β)) :
    program.Ensures (fun history' _ => lastWritten register history' = lastWritten register history) history :=
  (avoids.ensures rfl).mono fun _ _ same => congrArg (fun transfers => (transfers.filterMap Transfer.written).getLast?) same

theorem Sets.before {register : ρ} {data : List β} {program : Program ρ β α} {rest : α → Program ρ β γ}
    (sets : program.Sets register data) (avoids : ∀ result, (rest result).Avoids register) :
    (program >>= rest).Sets register data := by
  intro history
  refine ensures_bind.mpr ((sets history).mono fun history' result written => ?_)
  cases result with
  | none => exact fun failed => Bool.noConfusion failed
  | some result => exact ((avoids result).lastWritten history').mono fun _ _ same _ => same.trans (written rfl)

end Program

end

end SelfDriving.RegisterBus
