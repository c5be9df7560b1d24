import Mathlib.Data.UInt

/-! A bus of two open-drain lines, clock and data: a line is high while nobody pulls it. A bit is
the level of the data line when the clock rises, unless the data line changes before the clock
falls again; such a change is the start of a transfer if the line falls and its end if it rises.
A target answers byte by byte. Between it and the lines stands a port, which collects bits,
acknowledges, and shifts out what is asked for. -/
namespace SelfDriving.TwoWireBus

/-! ### Bytes on the line -/

/-- The bits of a byte in the order they go over the line. -/
def bitsOf (byte : UInt8) : List Bool := (List.range 8).reverse.map byte.toNat.testBit

def byteOf (bits : List Bool) : UInt8 := bits.foldl (fun byte bit => byte <<< 1 ||| if bit then 1 else 0) 0

theorem byteOf_bitsOf (byte : UInt8) : byteOf (bitsOf byte) = byte := by
  have every : ∀ n : Fin 256, byteOf (bitsOf (UInt8.ofNat n)) = UInt8.ofNat n := by decide +kernel
  simpa using every ⟨byte.toNat, byte.toNat_lt⟩

/-! ### A target, byte by byte -/

/-- What a target does with the bytes of a transfer. -/
structure Target (σ : Type) where
  start : σ → σ
  /-- The first byte after a start; its lowest bit asks the target to send. -/
  address : σ → UInt8 → σ × Bool
  receive : σ → UInt8 → σ × Bool
  send : σ → UInt8
  /-- A byte was sent, and whether another one is wanted. -/
  sent : σ → Bool → σ
  stop : σ → σ

namespace Target
variable {σ : Type} (target : Target σ)

/-- Bytes are received until one is refused. -/
def receiveAll : List UInt8 → σ → σ × Bool
  | [], s => (s, true)
  | byte :: rest, s =>
    match target.receive s byte with
    | (s, true) => receiveAll rest s
    | (s, false) => (s, false)

/-- An address and the bytes after it. -/
def addressed (address : UInt8) (bytes : List UInt8) (s : σ) : σ × Bool :=
  match target.address (target.start s) address with
  | (s, true) => target.receiveAll bytes s
  | (s, false) => (s, false)

/-- Bytes are sent, all but the last with another one wanted. -/
def sendAll : Nat → σ → σ × List UInt8
  | 0, s => (s, [])
  | 1, s => (target.sent s false, [target.send s])
  | size + 1, s =>
    let (s', rest) := sendAll size (target.sent s true)
    (s', target.send s :: rest)

/-- A whole transfer to the target, and whether it took everything. -/
def write (address : UInt8) (bytes : List UInt8) (s : σ) : σ × Bool :=
  let (s, taken) := target.addressed address bytes s
  (target.stop s, taken)

/-- A transfer from the target. -/
def fetch (address : UInt8) (size : Nat) (s : σ) : σ × Option (List UInt8) :=
  match target.addressed address [] s with
  | (s, false) => (target.stop s, none)
  | (s, true) =>
    let (s, data) := target.sendAll size s
    (target.stop s, some data)

/-- A transfer that says what is wanted and, after a second start, takes it. -/
def read (writeAddress : UInt8) (bytes : List UInt8) (readAddress : UInt8) (size : Nat) (s : σ) :
    σ × Option (List UInt8) :=
  match target.addressed writeAddress bytes s with
  | (s, false) => (target.stop s, none)
  | (s, true) => target.fetch readAddress size s

theorem length_sendAll (size : Nat) (s : σ) : (target.sendAll size s).2.length = size := by
  induction size generalizing s with
  | zero => rfl
  | succ size ih =>
    cases size with
    | zero => rfl
    | succ size => exact congrArg Nat.succ (ih (target.sent s true))

theorem length_of_fetch {address : UInt8} {size : Nat} {s : σ} {data : List UInt8}
    (got : (target.fetch address size s).2 = some data) : data.length = size := by
  unfold fetch at got
  cases answer : target.addressed address [] s with
  | mk s' taken =>
    rw [answer] at got
    cases taken with
    | false => cases got
    | true =>
      cases got
      exact length_sendAll target size s'

theorem length_of_read {writeAddress readAddress : UInt8} {bytes data : List UInt8} {size : Nat} {s : σ}
    (got : (target.read writeAddress bytes readAddress size s).2 = some data) : data.length = size := by
  unfold read at got
  cases answer : target.addressed writeAddress bytes s with
  | mk s' taken =>
    rw [answer] at got
    cases taken with
    | false => cases got
    | true => exact length_of_fetch target got

end Target

/-! ### A file of registers -/

/-- Registers with a pointer to the next one. -/
structure RegisterFile where
  pointer : UInt8
  /-- Whether this transfer has set the pointer. -/
  pointed : Bool
  value : UInt8 → UInt8

/-- The first byte of a transfer sets the pointer, and every byte after it or sent moves it on. -/
def registerFile (address : UInt8) : Target RegisterFile where
  start file := { file with pointed := false }
  address file byte := (file, byte >>> 1 = address >>> 1)
  receive file byte :=
    if file.pointed then
      (⟨file.pointer + 1, true, Function.update file.value file.pointer byte⟩, true)
    else (⟨byte, true, file.value⟩, true)
  send file := file.value file.pointer
  sent file _ := { file with pointer := file.pointer + 1 }
  stop file := file

/-- The values of some registers in a row. -/
def RegisterFile.row (value : UInt8 → UInt8) (first : UInt8) : Nat → List UInt8
  | 0 => []
  | size + 1 => value first :: row value (first + 1) size

theorem registerFile_sendAll (address : UInt8) (size : Nat) (file : RegisterFile) :
    ((registerFile address).sendAll size file).2 = RegisterFile.row file.value file.pointer size := by
  induction size generalizing file with
  | zero => rfl
  | succ size ih =>
    cases size with
    | zero => rfl
    | succ size => exact congrArg (file.value file.pointer :: ·) (ih _)

/-- Values in a row. -/
def RegisterFile.store (value : UInt8 → UInt8) (first : UInt8) : List UInt8 → UInt8 → UInt8
  | [] => value
  | byte :: rest => store (Function.update value first byte) (first + 1) rest

theorem registerFile_receiveAll (address : UInt8) (bytes : List UInt8) (pointer : UInt8) (value : UInt8 → UInt8) :
    ∃ pointer', (registerFile address).receiveAll bytes ⟨pointer, true, value⟩ =
      (⟨pointer', true, RegisterFile.store value pointer bytes⟩, true) := by
  induction bytes generalizing pointer value with
  | nil => exact ⟨pointer, rfl⟩
  | cons byte rest ih => exact ih _ _

theorem RegisterFile.store_of_outside (bytes : List UInt8) (value : UInt8 → UInt8) (first register : UInt8)
    (outside : ∀ k < bytes.length, register ≠ first + UInt8.ofNat k) :
    RegisterFile.store value first bytes register = value register := by
  induction bytes generalizing value first with
  | nil => rfl
  | cons byte rest ih =>
    rw [RegisterFile.store, ih]
    · have here := outside 0 (Nat.zero_lt_succ _)
      exact Function.update_of_ne (by simpa using here) _ _
    · intro k less
      have there := outside (k + 1) (by simpa using less)
      rw [Nat.add_comm, UInt8.ofNat_add] at there
      rwa [UInt8.add_assoc]

theorem registerFile_write (address : UInt8) (first : UInt8) (bytes : List UInt8) (file : RegisterFile) :
    ∃ pointer, (registerFile address).write address (first :: bytes) file =
      (⟨pointer, true, RegisterFile.store file.value first bytes⟩, true) := by
  obtain ⟨pointer, received⟩ := registerFile_receiveAll address bytes first file.value
  refine ⟨pointer, ?_⟩
  have addressed : (registerFile address).addressed address (first :: bytes) file =
      (⟨pointer, true, RegisterFile.store file.value first bytes⟩, true) := by
    simpa [Target.addressed, Target.receiveAll, registerFile] using received
  rw [Target.write, addressed]
  rfl

theorem registerFile_read {writeAddress readAddress : UInt8} (same : readAddress >>> 1 = writeAddress >>> 1)
    (first : UInt8) (size : Nat) (file : RegisterFile) :
    ((registerFile writeAddress).read writeAddress [first] readAddress size file).2 =
      some (RegisterFile.row file.value first size) := by
  have sent := registerFile_sendAll writeAddress size ⟨first, false, file.value⟩
  have addressed : (registerFile writeAddress).addressed writeAddress [first] file = (⟨first, true, file.value⟩, true) := by
    simp [Target.addressed, Target.receiveAll, registerFile]
  have again : (registerFile writeAddress).addressed readAddress [] ⟨first, true, file.value⟩ =
      (⟨first, false, file.value⟩, true) := by
    simp [Target.addressed, Target.receiveAll, registerFile, same]
  rw [Target.read, addressed]
  dsimp only
  rw [Target.fetch, again]
  exact congrArg some sent

/-- What is stored in a row no longer than the file is there. -/
theorem RegisterFile.row_store (bytes : List UInt8) (fits : bytes.length ≤ 256) (value : UInt8 → UInt8) (first : UInt8) :
    RegisterFile.row (RegisterFile.store value first bytes) first bytes.length = bytes := by
  induction bytes generalizing value first with
  | nil => rfl
  | cons byte rest ih =>
    rw [List.length_cons] at fits
    rw [List.length_cons, RegisterFile.row, RegisterFile.store, ih (by omega)]
    congr 1
    rw [RegisterFile.store_of_outside]
    · exact Function.update_self ..
    · intro k less same
      have values := congrArg UInt8.toNat same
      rw [UInt8.add_assoc, UInt8.toNat_add, UInt8.toNat_add, UInt8.toNat_ofNat'] at values
      have bound := first.toNat_lt
      simp at values
      omega

/-! ### Its port -/

inductive Phase where
  | idle
  /-- The bits of a byte so far, of the address if it is the first. -/
  | receiving (first : Bool) (bits : List Bool)
  | acknowledging (taken sends : Bool)
  /-- The bits of a byte still to be shifted out. -/
  | sending (bits : List Bool)
  /-- Whether another byte is wanted is about to be seen. -/
  | answered
  deriving DecidableEq

structure Port (σ : Type) where
  state : σ
  phase : Phase

namespace Port
variable {σ : Type}

/-- Whether the data line is pulled. -/
def pulls (port : Port σ) : Bool :=
  match port.phase with
  | .acknowledging taken _ => taken
  | .sending (bit :: _) => !bit
  | _ => false

/-- A bit is over. -/
def clock (target : Target σ) (port : Port σ) (bit : Bool) : Port σ :=
  match port.phase with
  | .idle => port
  | .receiving first bits =>
    let bits := bits ++ [bit]
    if bits.length < 8 then { port with phase := .receiving first bits }
    else
      let byte := byteOf bits
      let (state, taken) := if first then target.address port.state byte else target.receive port.state byte
      ⟨state, .acknowledging taken (first && byte &&& 1 = 1)⟩
  | .acknowledging taken sends =>
    if !taken then { port with phase := .idle }
    else if sends then { port with phase := .sending (bitsOf (target.send port.state)) }
    else { port with phase := .receiving false [] }
  | .sending (_ :: bit :: bits) => { port with phase := .sending (bit :: bits) }
  | .sending _ => { port with phase := .answered }
  | .answered =>
    let state := target.sent port.state !bit
    if bit then ⟨state, .idle⟩ else ⟨state, .sending (bitsOf (target.send state))⟩

def started (target : Target σ) (port : Port σ) : Port σ := ⟨target.start port.state, .receiving true []⟩

def stopped (target : Target σ) (port : Port σ) : Port σ := ⟨target.stop port.state, .idle⟩

end Port

/-! ### A port that takes a byte -/

section
variable {σ : Type} (target : Target σ)

/-- One bit after the other. -/
def Port.clocks (port : Port σ) (bits : List Bool) : Port σ := bits.foldl (Port.clock target) port

/-- A port leaves the data line alone before each of some bits. -/
def Port.Listens : Port σ → List Bool → Prop
  | _, [] => True
  | port, bit :: rest => port.pulls = false ∧ (port.clock target bit).Listens rest

@[simp] theorem Port.clocks_nil (port : Port σ) : port.clocks target [] = port := rfl

@[simp] theorem Port.clocks_cons (port : Port σ) (bit : Bool) (rest : List Bool) :
    port.clocks target (bit :: rest) = (port.clock target bit).clocks target rest := rfl

theorem Port.clock_receiving {s : σ} {first : Bool} {bits : List Bool} (bit : Bool) (short : bits.length < 7) :
    (⟨s, .receiving first bits⟩ : Port σ).clock target bit = ⟨s, .receiving first (bits ++ [bit])⟩ := by
  have more : (bits ++ [bit]).length < 8 := by simp; omega
  simp only [Port.clock, if_pos more]

/-- A port that receives a byte leaves the data line alone until it has all of it. -/
theorem Port.listens_receiving (s : σ) (first : Bool) (bits rest : List Bool)
    (fits : bits.length + rest.length ≤ 8) : (⟨s, .receiving first bits⟩ : Port σ).Listens target rest := by
  induction rest generalizing bits with
  | nil => trivial
  | cons bit rest ih =>
    refine ⟨rfl, ?_⟩
    rw [List.length_cons] at fits
    cases rest with
    | nil => trivial
    | cons next rest =>
      rw [List.length_cons] at fits
      rw [Port.clock_receiving target bit (by omega)]
      exact ih _ (by simp; omega)

/-- What the target makes of a byte. -/
def Target.take (first : Bool) (s : σ) (byte : UInt8) : σ × Bool :=
  if first then target.address s byte else target.receive s byte

theorem Port.clocks_receiving (s : σ) (first : Bool) (bits rest : List Bool) (some_left : rest ≠ [])
    (fits : bits.length + rest.length = 8) :
    (⟨s, .receiving first bits⟩ : Port σ).clocks target rest =
      ⟨(target.take first s (byteOf (bits ++ rest))).1,
        .acknowledging (target.take first s (byteOf (bits ++ rest))).2
          (first && byteOf (bits ++ rest) &&& 1 = 1)⟩ := by
  induction rest generalizing bits with
  | nil => exact absurd rfl some_left
  | cons bit rest ih =>
    rw [List.length_cons] at fits
    cases rest with
    | nil =>
      have full : ¬ (bits ++ [bit]).length < 8 := by simp at fits ⊢; omega
      simp only [Port.clocks_cons, Port.clocks_nil, Port.clock, if_neg full, Target.take]
    | cons next rest =>
      rw [List.length_cons] at fits
      rw [Port.clocks_cons, Port.clock_receiving target bit (by omega), ih _ (List.cons_ne_nil _ _) (by simp; omega),
        List.append_assoc, List.singleton_append]

/-- A port that has seen all of a byte. -/
theorem Port.clocks_byte (s : σ) (first : Bool) (byte : UInt8) :
    (⟨s, .receiving first []⟩ : Port σ).clocks target (bitsOf byte) =
      ⟨(target.take first s byte).1, .acknowledging (target.take first s byte).2 (first && byte &&& 1 = 1)⟩ := by
  rw [Port.clocks_receiving target s first [] _ (by simp [bitsOf]) rfl, List.nil_append, byteOf_bitsOf]

/-- A port after the answer to a byte. -/
def Port.answering (s : σ) (taken sends : Bool) : Port σ :=
  ⟨s, if taken then if sends then .sending (bitsOf (target.send s)) else .receiving false [] else .idle⟩

theorem Port.clock_acknowledging (s : σ) (taken sends bit : Bool) :
    (⟨s, .acknowledging taken sends⟩ : Port σ).clock target bit = Port.answering target s taken sends := by
  cases taken <;> cases sends <;> rfl

/-! ### A port that sends a byte -/

/-- The bits of a byte that are left to send, or the answer to all of them. -/
def Port.shifting (s : σ) (bits : List Bool) : Port σ := ⟨s, if bits = [] then .answered else .sending bits⟩

@[simp] theorem Port.pulls_shifting_cons (s : σ) (bit : Bool) (rest : List Bool) :
    (Port.shifting s (bit :: rest)).pulls = !bit := rfl

@[simp] theorem Port.pulls_shifting_nil (s : σ) : (Port.shifting s []).pulls = false := rfl

theorem Port.clock_shifting (s : σ) (bit seen : Bool) (rest : List Bool) :
    (Port.shifting s (bit :: rest)).clock target seen = Port.shifting s rest := by
  cases rest <;> rfl

/-- Some bits while only the port may pull the data line. -/
def Port.idled (count : Nat) (port : Port σ) : Port σ := (fun port => port.clock target (!port.pulls))^[count] port

theorem Port.idled_idle (count : Nat) (s : σ) : (⟨s, .idle⟩ : Port σ).idled target count = ⟨s, .idle⟩ := by
  induction count with
  | zero => rfl
  | succ count ih => exact ih

/-- A port that sends a byte is done with it, and told that no other is wanted, one bit after the last. -/
theorem Port.idled_shifting (count : Nat) (s : σ) (bits : List Bool) (enough : bits.length < count) :
    (Port.shifting s bits).idled target count = ⟨target.sent s false, .idle⟩ := by
  induction count generalizing bits with
  | zero => cases enough
  | succ count ih =>
    cases bits with
    | nil => exact Port.idled_idle target count _
    | cons bit rest =>
      have next := ih rest (Nat.lt_of_succ_lt_succ enough)
      rw [← Port.clock_shifting target s bit (!(Port.shifting s (bit :: rest)).pulls) rest] at next
      exact next

end

/-! ### The lines -/

/-- What one party does to the lines, their levels, and the port at the other end. -/
structure Wires (σ : Type) where
  sdaLow : Bool
  sclLow : Bool
  sda : Bool
  scl : Bool
  /-- The level of the data line when the clock last rose, while that may still be a bit. -/
  latched : Option Bool
  time : Nat
  port : Port σ

/-- Who is at the other end: a target, and the instants at which it holds a low clock. -/
structure Partner (σ : Type) where
  target : Target σ
  holds : Nat → Bool

variable {σ : Type}

def readSda : StateM (Wires σ) Bool := return (← get).sda

namespace Partner
variable (partner : Partner σ)

/-- The lines take their levels, and the port sees what that means. -/
def settle (wires : Wires σ) : Wires σ :=
  let scl := !wires.sclLow && (wires.scl || !partner.holds wires.time)
  let sda := !wires.sdaLow && !wires.port.pulls
  let settled := { wires with time := wires.time + 1, scl := scl, sda := sda }
  match wires.scl, scl with
  | false, false => settled
  | false, true => { settled with latched := some sda }
  | true, true =>
    if wires.sda = sda then settled
    else if sda then { settled with latched := none, port := wires.port.stopped partner.target }
    else { settled with latched := none, port := wires.port.started partner.target }
  | true, false =>
    match wires.latched with
    | none => settled
    | some bit =>
      let port := wires.port.clock partner.target bit
      { settled with latched := none, port := port, sda := !wires.sdaLow && !port.pulls }

/-! What the party at this end can do; time passes with each. -/

def setSda (low : Bool) : StateM (Wires σ) Unit := modify fun wires => partner.settle { wires with sdaLow := low }

def setScl (low : Bool) : StateM (Wires σ) Unit := modify fun wires => partner.settle { wires with sclLow := low }

def pause : StateM (Wires σ) Unit := modify partner.settle

/-- The clock is looked at, and again after an instant while it is low and polls are left. -/
def waitScl : Nat → StateM (Wires σ) Bool
  | 0 => return (← get).scl
  | polls + 1 => do
    if (← get).scl then return true
    else
      partner.pause
      waitScl polls

/-- No clock is held for more than some instants. -/
def Yields (polls : Nat) : Prop := ∀ time, ∃ delay < polls, partner.holds (time + delay) = false

end Partner


/-! ### What a program on the wires ensures -/

section
variable {α β : Type}

/-- From wires as stated before, a program ends with a result and wires as stated after. -/
def Ensures (before : Wires σ → Prop) (program : StateM (Wires σ) α) (after : α → Wires σ → Prop) : Prop :=
  ∀ wires, before wires → after (program wires).1 (program wires).2

theorem Ensures.bind {before : Wires σ → Prop} {middle : α → Wires σ → Prop} {after : β → Wires σ → Prop}
    {program : StateM (Wires σ) α} {rest : α → StateM (Wires σ) β} (first : Ensures before program middle)
    (second : ∀ result, Ensures (middle result) (rest result) after) : Ensures before (program >>= rest) after :=
  fun wires holds => second _ _ (first wires holds)

theorem Ensures.pure {before : Wires σ → Prop} {after : α → Wires σ → Prop} {result : α}
    (holds : ∀ wires, before wires → after result wires) :
    Ensures before (pure result : StateM (Wires σ) α) after := holds

theorem Ensures.mono {before before' : Wires σ → Prop} {after after' : α → Wires σ → Prop}
    {program : StateM (Wires σ) α} (ensures : Ensures before program after)
    (stronger : ∀ wires, before' wires → before wires)
    (weaker : ∀ result wires, after result wires → after' result wires) : Ensures before' program after' :=
  fun wires holds => weaker _ _ (ensures wires (stronger wires holds))

/-- What is known without the wires. -/
theorem ensures_fact {fact : Prop} {before : Wires σ → Prop} {after : α → Wires σ → Prop}
    {program : StateM (Wires σ) α} :
    Ensures (fun wires => fact ∧ before wires) program after ↔ (fact → Ensures before program after) :=
  ⟨fun ensures known wires holds => ensures wires ⟨known, holds⟩, fun ensures wires holds => ensures holds.1 wires holds.2⟩

theorem ensures_modify {before : Wires σ → Prop} {after : Unit → Wires σ → Prop} {change : Wires σ → Wires σ} :
    Ensures before (modify change) after ↔ ∀ wires, before wires → after () (change wires) := Iff.rfl

end

/-! ### How the wires can be -/

/-- Nobody pulls a line. -/
structure Free (port : Port σ) (wires : Wires σ) : Prop where
  data : wires.sdaLow = false
  released : wires.sclLow = false
  idle : wires.sda = true
  high : wires.scl = true
  quiet : port.pulls = false
  port : wires.port = port

/-- Wires that nobody has touched yet. -/
def untouched (port : Port σ) : Wires σ := ⟨false, false, true, true, none, 0, port⟩

theorem free_untouched {port : Port σ} (quiet : port.pulls = false) : Free port (untouched port) :=
  ⟨rfl, rfl, rfl, rfl, quiet, rfl⟩

/-- The clock is pulled at this end, and no bit is under way. -/
structure Low (port : Port σ) (wires : Wires σ) : Prop where
  pulled : wires.sclLow = true
  low : wires.scl = false
  unlatched : wires.latched = none
  level : wires.sda = (!wires.sdaLow && !port.pulls)
  port : wires.port = port

/-- The clock is let go at this end, and the bit is there once it is high. -/
structure Rising (sdaLow : Bool) (port : Port σ) (wires : Wires σ) : Prop where
  data : wires.sdaLow = sdaLow
  released : wires.sclLow = false
  latched : wires.latched = if wires.scl then some wires.sda else none
  level : wires.sda = (!sdaLow && !port.pulls)
  port : wires.port = port

/-- The clock is high, with a bit or with the data line free. -/
structure High (sdaLow : Bool) (port : Port σ) (wires : Wires σ) : Prop extends Rising sdaLow port wires where
  high : wires.scl = true

/-- A start was made and the clock not pulled since. -/
structure Begun (port : Port σ) (wires : Wires σ) : Prop where
  data : wires.sdaLow = true
  released : wires.sclLow = false
  high : wires.scl = true
  low : wires.sda = false
  unlatched : wires.latched = none
  port : wires.port = port

section
variable (partner : Partner σ) (port : Port σ)

@[simp] theorem settle_time (wires : Wires σ) : (partner.settle wires).time = wires.time + 1 := by
  unfold Partner.settle
  dsimp only
  split
  · rfl
  · rfl
  · split_ifs <;> rfl
  · split <;> rfl

theorem setSda_low (low : Bool) :
    Ensures (Low port) (partner.setSda low) fun _ wires => Low port wires ∧ wires.sdaLow = low := by
  refine ensures_modify.mpr ?_
  rintro wires ⟨pulled, clock, unlatched, -, rfl⟩
  refine ⟨⟨?_, ?_, ?_, ?_, ?_⟩, ?_⟩ <;> simp [Partner.settle, pulled, clock, unlatched]

theorem pause_low (sdaLow : Bool) :
    Ensures (fun wires => Low port wires ∧ wires.sdaLow = sdaLow) partner.pause
      fun _ wires => Low port wires ∧ wires.sdaLow = sdaLow := by
  refine ensures_modify.mpr ?_
  rintro wires ⟨⟨pulled, clock, unlatched, -, rfl⟩, data⟩
  refine ⟨⟨?_, ?_, ?_, ?_, ?_⟩, ?_⟩ <;> simp [Partner.settle, pulled, clock, unlatched, data]

theorem release_scl (sdaLow : Bool) :
    Ensures (fun wires => Low port wires ∧ wires.sdaLow = sdaLow) (partner.setScl false)
      fun _ => Rising sdaLow port := by
  refine ensures_modify.mpr ?_
  rintro wires ⟨⟨pulled, clock, unlatched, -, rfl⟩, data⟩
  cases holds : partner.holds wires.time <;>
    refine ⟨?_, ?_, ?_, ?_, ?_⟩ <;> simp [Partner.settle, clock, unlatched, data, holds]

theorem pause_rising (sdaLow : Bool) : Ensures (Rising sdaLow port) partner.pause fun _ => Rising sdaLow port := by
  refine ensures_modify.mpr ?_
  rintro wires ⟨data, released, latched, level, rfl⟩
  cases clock : wires.scl <;> cases holds : partner.holds wires.time <;>
    refine ⟨?_, ?_, ?_, ?_, ?_⟩ <;> simp_all [Partner.settle]

theorem pause_high (sdaLow : Bool) : Ensures (High sdaLow port) partner.pause fun _ => High sdaLow port := by
  refine ensures_modify.mpr fun wires high => ⟨ensures_modify.mp (pause_rising partner port sdaLow) wires high.toRising, ?_⟩
  obtain ⟨⟨data, released, latched, level, rfl⟩, clock⟩ := high
  simp [Partner.settle, clock, released, data, level]

theorem readSda_high (sdaLow : Bool) :
    Ensures (High sdaLow port) readSda fun bit wires => bit = (!sdaLow && !port.pulls) ∧ High sdaLow port wires :=
  fun _ high => ⟨high.level, high⟩

/-- Letting the clock fall ends a bit. -/
theorem pull_scl (sdaLow : Bool) :
    Ensures (High sdaLow port) (partner.setScl true)
      fun _ wires => Low (port.clock partner.target (!sdaLow && !port.pulls)) wires ∧ wires.sdaLow = sdaLow := by
  refine ensures_modify.mpr ?_
  rintro wires ⟨⟨data, released, latched, level, rfl⟩, clock⟩
  rw [clock, if_pos rfl, level] at latched
  refine ⟨⟨?_, ?_, ?_, ?_, ?_⟩, ?_⟩ <;> simp [Partner.settle, clock, latched, data]

theorem waitScl_of_high {polls : Nat} {wires : Wires σ} (high : wires.scl = true) :
    partner.waitScl polls wires = (true, wires) := by
  cases polls with
  | zero => exact Prod.ext high rfl
  | succ polls =>
    change (if wires.scl = true then (return true : StateM (Wires σ) Bool) else _) wires = _
    rw [if_pos high]
    rfl

theorem waitScl_of_low {polls : Nat} {wires : Wires σ} (low : wires.scl = false) :
    partner.waitScl (polls + 1) wires = partner.waitScl polls (partner.settle wires) := by
  change (if wires.scl = true then (return true : StateM (Wires σ) Bool) else _) wires = _
  rw [if_neg (Bool.not_eq_true _ ▸ low)]
  rfl

/-- The wait ends with the level of the clock that it tells. -/
theorem waitScl_rising (sdaLow : Bool) (polls : Nat) :
    Ensures (Rising sdaLow port) (partner.waitScl polls)
      fun high wires => Rising sdaLow port wires ∧ wires.scl = high := by
  induction polls with
  | zero => exact fun wires rising => ⟨rising, rfl⟩
  | succ polls ih =>
    intro wires rising
    cases clock : wires.scl with
    | true =>
      rw [waitScl_of_high partner clock]
      exact ⟨rising, clock⟩
    | false =>
      rw [waitScl_of_low partner clock]
      exact ih _ (ensures_modify.mp (pause_rising partner port sdaLow) wires rising)

/-- A clock that is held no longer than the wait rises. -/
theorem waitScl_yields {sdaLow : Bool} {polls : Nat} (yields : partner.Yields polls) :
    Ensures (Rising sdaLow port) (partner.waitScl polls) fun high _ => high = true := by
  intro wires rising
  obtain ⟨delay, soon, lets⟩ := yields wires.time
  clear yields
  induction polls generalizing wires delay with
  | zero => cases soon
  | succ polls ih =>
    cases clock : wires.scl with
    | true => rw [waitScl_of_high partner clock]
    | false =>
      rw [waitScl_of_low partner clock]
      have later := ensures_modify.mp (pause_rising partner port sdaLow) wires rising
      cases delay with
      | zero =>
        have rises : (partner.settle wires).scl = true := by
          have lets : partner.holds wires.time = false := lets
          simp [Partner.settle, clock, rising.released, lets]
        rw [waitScl_of_high partner rises]
      | succ delay =>
        apply ih _ later delay (by omega)
        rwa [settle_time, Nat.add_assoc, Nat.add_comm 1]

/-! ### Starts and stops -/

theorem High.free {port : Port σ} (quiet : port.pulls = false) {wires : Wires σ} (high : High false port wires) :
    Free port wires :=
  ⟨high.data, high.released, by rw [high.level, quiet]; rfl, high.high, quiet, high.port⟩

theorem setSda_free : Ensures (Free port) (partner.setSda false) fun _ => Free port := by
  refine ensures_modify.mpr ?_
  rintro wires ⟨data, released, idle, high, quiet, rfl⟩
  refine ⟨?_, ?_, ?_, ?_, quiet, ?_⟩ <;> simp [Partner.settle, released, idle, high, quiet]

theorem release_scl_free : Ensures (Free port) (partner.setScl false) fun _ => Free port := by
  refine ensures_modify.mpr ?_
  rintro wires ⟨data, released, idle, high, quiet, rfl⟩
  refine ⟨?_, ?_, ?_, ?_, quiet, ?_⟩ <;> simp [Partner.settle, data, idle, high, quiet]

theorem pause_free : Ensures (Free port) partner.pause fun _ => Free port := by
  refine ensures_modify.mpr ?_
  rintro wires ⟨data, released, idle, high, quiet, rfl⟩
  refine ⟨?_, ?_, ?_, ?_, quiet, ?_⟩ <;> simp [Partner.settle, data, released, idle, high, quiet]

theorem waitScl_free (polls : Nat) :
    Ensures (Free port) (partner.waitScl polls) fun high wires => high = true ∧ Free port wires := by
  intro wires free
  rw [waitScl_of_high partner free.high]
  exact ⟨rfl, free⟩

/-- The data line falls while the clock is high. -/
theorem pull_sda_free : Ensures (Free port) (partner.setSda true) fun _ => Begun (port.started partner.target) := by
  refine ensures_modify.mpr ?_
  rintro wires ⟨data, released, idle, high, quiet, rfl⟩
  refine ⟨?_, ?_, ?_, ?_, ?_, ?_⟩ <;> simp [Partner.settle, released, idle, high]

theorem pause_begun : Ensures (Begun port) partner.pause fun _ => Begun port := by
  refine ensures_modify.mpr ?_
  rintro wires ⟨data, released, high, low, unlatched, rfl⟩
  refine ⟨?_, ?_, ?_, ?_, ?_, ?_⟩ <;> simp [Partner.settle, data, released, high, low, unlatched]

theorem pull_scl_begun : Ensures (Begun port) (partner.setScl true) fun _ wires => Low port wires ∧ wires.sdaLow = true := by
  refine ensures_modify.mpr ?_
  rintro wires ⟨data, released, high, low, unlatched, rfl⟩
  refine ⟨⟨?_, ?_, ?_, ?_, ?_⟩, ?_⟩ <;> simp [Partner.settle, data, high, unlatched]

/-- The data line rises while the clock is high. -/
theorem release_sda_high (quiet : port.pulls = false) :
    Ensures (High true port) (partner.setSda false) fun _ => Free (port.stopped partner.target) := by
  refine ensures_modify.mpr ?_
  rintro wires ⟨⟨data, released, latched, level, rfl⟩, high⟩
  have low : wires.sda = false := by simp [level]
  refine ⟨?_, ?_, ?_, ?_, rfl, ?_⟩ <;> simp [Partner.settle, released, high, low, quiet]

end

end SelfDriving.TwoWireBus
