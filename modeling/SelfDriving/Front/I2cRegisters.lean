import SelfDriving.Front.I2cProofs

/-! The driver of the sensor speaks of registers, the pins of bits. A program of register transfers
is run on the pins here: with a sensor that yields the clock in time it ends as the same transfers do
when each is taken as a whole. A sensor that answers whole transfers is a device on a register bus. -/
namespace SelfDriving.Front
open TwoWireBus RegisterBus

section
variable {σ α : Type} (partner : Partner σ) (polls : Nat)

/-- A register is written: one byte goes out with its register, more after it. -/
def vl53l0xWriteRegister (register : UInt8) : List UInt8 → StateM (Wires σ) Bool
  | [value] => i2cWrite partner polls [register, value]
  | data => i2cWriteToRegister partner polls register data

/-- The driver's transfers on the pins, up to the first that fails. -/
def onPins : SensorProgram α → StateM (Wires σ) (Option α)
  | .done result => return some result
  | .failed => return none
  | .write register data next => do
    if ← vl53l0xWriteRegister partner polls register data then onPins next else return none
  | .read register size next => do
    match ← i2cReadFromRegister partner polls register size with
    | none => return none
    | some data => onPins (next data)

end

section
variable {σ : Type} (target : Target σ)

/-- The transfers as a whole with the sensor, up to the first that fails. -/
def onTarget {α : Type} : SensorProgram α → σ → σ × Option α
  | .done result, s => (s, some result)
  | .failed, s => (s, none)
  | .write register data next, s =>
    match target.write i2cWriteAddress (register :: data) s with
    | (s, false) => (s, none)
    | (s, true) => onTarget next s
  | .read register size next, s =>
    match target.read i2cWriteAddress [register] i2cReadAddress size s with
    | (s, none) => (s, none)
    | (s, some data) => onTarget (next data) s

/-- What is left of the sensor after whole transfers. -/
def stateAfter (history : List (Transfer UInt8 UInt8)) (s : σ) : σ :=
  history.foldl (fun s transfer => match transfer with
    | .write register data => (target.write i2cWriteAddress (register :: data) s).1
    | .read register data => (target.read i2cWriteAddress [register] i2cReadAddress data.length s).1) s

/-- The sensor as a device on a register bus. -/
def sensorDevice (s : σ) : Device UInt8 UInt8 where
  acknowledges history register data := (target.write i2cWriteAddress (register :: data) (stateAfter target history s)).2
  answer history register size :=
    (target.read i2cWriteAddress [register] i2cReadAddress size (stateAfter target history s)).2.pmap Subtype.mk
      fun _ got => target.length_of_read got

theorem answer_of_none {s : σ} {history : List (Transfer UInt8 UInt8)} {register : UInt8} {size : Nat}
    (refused : (target.read i2cWriteAddress [register] i2cReadAddress size (stateAfter target history s)).2 = none) :
    (sensorDevice target s).answer history register size = none :=
  Option.pmap_eq_none_iff.mpr refused

theorem answer_of_some {s : σ} {history : List (Transfer UInt8 UInt8)} {register : UInt8} {size : Nat} {data : List UInt8}
    (got : (target.read i2cWriteAddress [register] i2cReadAddress size (stateAfter target history s)).2 = some data) :
    (sensorDevice target s).answer history register size = some ⟨data, target.length_of_read got⟩ :=
  Option.pmap_eq_some_iff.mpr ⟨data, target.length_of_read got, got, rfl⟩

@[simp] theorem stateAfter_append (history later : List (Transfer UInt8 UInt8)) (s : σ) :
    stateAfter target (history ++ later) s = stateAfter target later (stateAfter target history s) :=
  List.foldl_append

end

/-! ### The run on the pins -/

/-- Every read of a program asks for something. -/
def ReadsSome {α : Type} : SensorProgram α → Prop
  | .done _ => True
  | .failed => True
  | .write _ _ next => ReadsSome next
  | .read _ size next => 0 < size ∧ ∀ data, ReadsSome (next data)

theorem ReadsSome.bind {α γ : Type} {program : SensorProgram α} {rest : α → SensorProgram γ}
    (first : ReadsSome program) (second : ∀ result, ReadsSome (rest result)) : ReadsSome (program >>= rest) := by
  change ReadsSome (program.bind rest)
  induction program with
  | done result => exact second result
  | failed => trivial
  | write register data next ih => exact ih first
  | read register size next ih => exact ⟨first.1, fun data => ih data (first.2 data)⟩

section
variable {σ α : Type} (partner : Partner σ) (polls : Nat)

theorem vl53l0xWriteRegister_eq (register : UInt8) (data : List UInt8) :
    vl53l0xWriteRegister partner polls register data =
      i2cTransfer partner polls (i2cWriteAddress :: register :: data) := by
  unfold vl53l0xWriteRegister
  split
  · exact i2cWrite_eq partner polls _
  · exact i2cWriteToRegister_eq partner polls register _

theorem onPins_ensures (yields : partner.Yields polls) (program : SensorProgram α) (reads : ReadsSome program) (s : σ) :
    Ensures (Free ⟨s, .idle⟩) (onPins partner polls program) fun result wires =>
      result = (onTarget partner.target program s).2 ∧ Free ⟨(onTarget partner.target program s).1, .idle⟩ wires := by
  induction program generalizing s with
  | done result => exact Ensures.pure fun wires free => ⟨rfl, free⟩
  | failed => exact Ensures.pure fun wires free => ⟨rfl, free⟩
  | write register data next ih =>
    rw [onPins, vl53l0xWriteRegister_eq, onTarget]
    refine (i2cTransfer_ensures partner polls (register :: data) s .idle).bind fun done =>
      ensures_of_settled partner polls (.inr yields) ?_
    generalize partner.target.write i2cWriteAddress (register :: data) s = answer
    obtain ⟨s', acknowledged⟩ := answer
    rintro rfl
    cases done with
    | false => exact Ensures.pure fun wires free => ⟨rfl, free⟩
    | true => exact ih reads s'
  | read register size next ih =>
    obtain ⟨size, rfl⟩ := Nat.exists_eq_add_one.mpr reads.1
    rw [onPins, onTarget]
    refine (i2cReadFromRegister_ensures partner polls yields register size s .idle).bind fun data => ensures_fact.mpr ?_
    generalize partner.target.read i2cWriteAddress [register] i2cReadAddress (size + 1) s = answer
    obtain ⟨s', got⟩ := answer
    rintro rfl
    cases data with
    | none => exact Ensures.pure fun wires free => ⟨rfl, free⟩
    | some data => exact ih data (reads.2 data) s'

end

section
variable {σ α : Type} (target : Target σ)

/-- Whole transfers with a sensor are transfers with a device on a register bus: what is ensured of
every device is so of the sensor. -/
theorem onTarget_run (program : SensorProgram α) (s : σ) (history : List (Transfer UInt8 UInt8)) :
    (onTarget target program (stateAfter target history s)).2 = (program.run (sensorDevice target s) history).2 := by
  induction program generalizing history with
  | done result => rfl
  | failed => rfl
  | write register data next ih =>
    have later := ih (history ++ [.write register data])
    rw [stateAfter_append] at later
    change (onTarget target next (target.write _ _ (stateAfter target history s)).1).2 = _ at later
    rw [onTarget, Program.run]
    cases answer : target.write i2cWriteAddress (register :: data) (stateAfter target history s) with
    | mk s' acknowledged =>
      have acks : (sensorDevice target s).acknowledges history register data = acknowledged := congrArg Prod.snd answer
      rw [answer] at later
      rw [acks]
      cases acknowledged with
      | false => rfl
      | true => exact later
  | read register size next ih =>
    rw [onTarget, Program.run]
    cases got : target.read i2cWriteAddress [register] i2cReadAddress size (stateAfter target history s) with
    | mk s' data =>
      have data_eq := congrArg Prod.snd got
      cases data with
      | none => rw [answer_of_none target data_eq]
      | some data =>
        rw [answer_of_some target data_eq]
        have later := ih data (history ++ [.read register data])
        rw [stateAfter_append] at later
        change (onTarget target _ (target.read _ _ _ data.length (stateAfter target history s)).1).2 = _ at later
        rw [target.length_of_read data_eq, got] at later
        exact later

end

end SelfDriving.Front
