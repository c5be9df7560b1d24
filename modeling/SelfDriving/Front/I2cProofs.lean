import SelfDriving.Front.I2c
import SelfDriving.Front.SpadProofs

/-! What the bits on the two pins are to the sensor: the bytes of one transfer, with a start before
and a stop after them, and what it answers is what the node takes it to have answered. A write that
is reported done was taken as a whole, however the sensor held the clock; a read tells what was
sent if no clock was held for longer than the wait. -/
namespace SelfDriving.Front
open TwoWireBus

section
variable {σ α : Type} (partner : Partner σ) (polls : Nat)

/-- Something was reported done, or the sensor never held the clock too long. -/
def Settled (done : Bool) : Prop := done = true ∨ partner.Yields polls

theorem ensures_of_settled {done : Bool} (settled : Settled partner polls done) {fact : Prop}
    {before : Wires σ → Prop} {program : StateM (Wires σ) α} {after : α → Wires σ → Prop}
    (ensures : fact → Ensures before program after) :
    Ensures (fun wires => Settled partner polls done → fact ∧ before wires) program after :=
  fun wires reached => ensures (reached settled).1 wires (reached settled).2

/-! ### One bit -/

/-- The clock is let go: it rises, or the sensor held it too long. -/
theorem ensures_rise {sdaLow : Bool} {port : Port σ} {high low : StateM (Wires σ) α} {after : α → Wires σ → Prop}
    (rises : Ensures (High sdaLow port) high after)
    (stays : ¬ partner.Yields polls → Ensures (Rising sdaLow port) low after) :
    Ensures (fun wires => Low port wires ∧ wires.sdaLow = sdaLow)
      (do
        i2cReleaseScl partner
        if ← i2cWaitSclHigh partner polls then high else low) after := by
  refine (release_scl partner port sdaLow).bind fun _ => ?_
  intro wires rising
  have waited := waitScl_rising partner port sdaLow polls wires rising
  have yielding : partner.Yields polls → _ := fun yields => waitScl_yields partner port yields wires rising
  change after ((if (partner.waitScl polls wires).1 = true then high else low) (partner.waitScl polls wires).2).1
    ((if (partner.waitScl polls wires).1 = true then high else low) (partner.waitScl polls wires).2).2
  cases clock : (partner.waitScl polls wires).1 with
  | true => exact rises _ ⟨waited.1, waited.2.trans clock⟩
  | false =>
    refine stays (fun yields => ?_) _ waited.1
    rw [yielding yields] at clock
    cases clock

/-- A clock pulse: it is under way, or the sensor held the clock too long. -/
theorem ensures_pulse {sdaLow : Bool} {port : Port σ} {high low : StateM (Wires σ) α} {after : α → Wires σ → Prop}
    (rises : Ensures (High sdaLow port) high after)
    (stays : ¬ partner.Yields polls → Ensures (Rising sdaLow port) low after) :
    Ensures (fun wires => Low port wires ∧ wires.sdaLow = sdaLow)
      (do
        partner.pause
        i2cReleaseScl partner
        if ← i2cWaitSclHigh partner polls then high else low) after :=
  (pause_low partner port sdaLow).bind fun _ => ensures_rise partner polls rises stays

/-- The end of a pulse. -/
theorem ensures_fall {sdaLow bit : Bool} {port : Port σ} {rest : StateM (Wires σ) α} {after : α → Wires σ → Prop}
    (seen : (!sdaLow && !port.pulls) = bit)
    (next : Ensures (fun wires => Low (port.clock partner.target bit) wires ∧ wires.sdaLow = sdaLow) rest after) :
    Ensures (High sdaLow port)
      (do
        partner.pause
        i2cDriveSclLow partner
        rest) after := by
  subst seen
  exact (pause_high partner port sdaLow).bind fun _ => (pull_scl partner port sdaLow).bind fun _ => next

/-! ### A byte to the sensor -/

def bitsBelow (byte : UInt8) (position : Nat) : List Bool := (List.range position).reverse.map byte.toNat.testBit

theorem bitsBelow_succ (byte : UInt8) (position : Nat) :
    bitsBelow byte (position + 1) = byte.toNat.testBit position :: bitsBelow byte position := by
  simp [bitsBelow, List.range_succ]

theorem bitsBelow_eight (byte : UInt8) : bitsBelow byte 8 = bitsOf byte := rfl

theorem i2cWriteBits_ensures (byte : UInt8) (position : Nat) (small : position ≤ 8) (port : Port σ)
    (listens : port.Listens partner.target (bitsBelow byte position)) :
    Ensures (Low port) (i2cWriteBits partner polls byte position) fun done wires =>
      Settled partner polls done → done = true ∧ Low (port.clocks partner.target (bitsBelow byte position)) wires := by
  induction position generalizing port with
  | zero => exact Ensures.pure fun wires low _ => ⟨rfl, low⟩
  | succ position ih =>
    rw [bitsBelow_succ] at listens ⊢
    obtain ⟨quiet, listens⟩ := listens
    have bit (low : Bool) (level : byte.toNat.testBit position = !low) :
        Ensures (Low port)
          (do
            partner.setSda low
            partner.pause
            i2cReleaseScl partner
            if ← i2cWaitSclHigh partner polls then
              partner.pause
              i2cDriveSclLow partner
              i2cWriteBits partner polls byte position
            else return false)
          fun done wires => Settled partner polls done → done = true ∧
            Low ((port.clock partner.target (byte.toNat.testBit position)).clocks partner.target
              (bitsBelow byte position)) wires := by
      refine (setSda_low partner port low).bind fun _ => ensures_pulse partner polls ?_ fun late => ?_
      · have seen : (!low && !port.pulls) = byte.toNat.testBit position := by simp [quiet, level]
        refine ensures_fall partner seen ?_
        exact (ih (by omega) _ listens).mono (fun _ low => low.1) fun _ _ kept => kept
      · exact Ensures.pure fun _ _ settled => absurd settled (by simp [Settled, late])
    unfold i2cWriteBits
    by_cases set : byte &&& (1 <<< UInt8.ofNat position) ≠ 0
    · simp only [if_pos set]
      exact bit false ((and_mask_ne_zero byte (Nat.lt_of_succ_le small)).mp set)
    · simp only [if_neg set]
      exact bit true (Bool.not_eq_true _ ▸ mt (and_mask_ne_zero byte (Nat.lt_of_succ_le small)).mpr set)

theorem i2cWriteByte_ensures (first : Bool) (byte : UInt8) (s : σ) :
    Ensures (Low ⟨s, .receiving first []⟩) (i2cWriteByte partner polls byte) fun taken wires =>
      Settled partner polls taken → taken = (partner.target.take first s byte).2 ∧
        Low (Port.answering partner.target (partner.target.take first s byte).1 taken (first && byte &&& 1 = 1)) wires := by
  have listens : (⟨s, .receiving first []⟩ : Port σ).Listens partner.target (bitsBelow byte 8) :=
    Port.listens_receiving partner.target s first [] _ (by simp [bitsBelow])
  have bits := i2cWriteBits_ensures partner polls byte 8 le_rfl ⟨s, .receiving first []⟩ listens
  rw [bitsBelow_eight, Port.clocks_byte] at bits
  unfold i2cWriteByte
  refine bits.bind fun done => ?_
  cases done with
  | false => exact Ensures.pure fun wires failed settled => absurd (failed settled).1 Bool.false_ne_true
  | true =>
    generalize partner.target.take first s byte = result at *
    obtain ⟨s', taken⟩ := result
    refine Ensures.mono ?_ (fun wires reached => (reached (.inl rfl)).2) fun _ _ kept => kept
    refine (setSda_low partner _ false).bind fun _ => ensures_pulse partner polls ?_ fun late => ?_
    · refine (pause_high partner _ false).bind fun _ => (readSda_high _ false).bind fun bit => ensures_fact.mpr ?_
      rintro rfl
      refine (pull_scl partner _ false).bind fun _ => Ensures.pure fun wires low _ => ?_
      rw [Port.clock_acknowledging] at low
      have seen : (!(!false && !(⟨s', .acknowledging taken (first && byte &&& 1 = 1)⟩ : Port σ).pulls)) = taken := by
        cases taken <;> rfl
      exact ⟨seen, seen.symm ▸ low.1⟩
    · exact Ensures.pure fun _ _ settled => absurd settled (by simp [Settled, late])

/-! ### A byte from the sensor -/

/-- A clock pulse of which the wait is not looked at. -/
theorem ensures_pulse_of_yields (yields : partner.Yields polls) {sdaLow : Bool} {port : Port σ}
    {rest : StateM (Wires σ) α} {after : α → Wires σ → Prop} (rises : Ensures (High sdaLow port) rest after) :
    Ensures (fun wires => Low port wires ∧ wires.sdaLow = sdaLow)
      (do
        partner.pause
        i2cReleaseScl partner
        let _ ← i2cWaitSclHigh partner polls
        rest) after := by
  refine (pause_low partner port sdaLow).bind fun _ => (release_scl partner port sdaLow).bind fun _ => ?_
  intro wires rising
  have waited := waitScl_rising partner port sdaLow polls wires rising
  exact rises _ ⟨waited.1, waited.2.trans (waitScl_yields partner port yields wires rising)⟩

/-- What the loop over the bits makes of them. -/
def readInto : UInt8 → List Bool → UInt8
  | byte, [] => byte
  | byte, bit :: rest => readInto (if bit then byte ||| (1 <<< UInt8.ofNat rest.length) else byte) rest

theorem readInto_bitsOf (byte : UInt8) : readInto 0 (bitsOf byte) = byte := by
  have every : ∀ n : Fin 256, readInto 0 (bitsOf (UInt8.ofNat n)) = UInt8.ofNat n := by decide +kernel
  simpa using every ⟨byte.toNat, byte.toNat_lt⟩

theorem i2cReadBits_ensures (yields : partner.Yields polls) (s : σ) (bits : List Bool) (byte : UInt8) :
    Ensures (fun wires => Low (Port.shifting s bits) wires ∧ wires.sdaLow = false)
      (i2cReadBits partner polls bits.length byte)
      fun result wires => result = some (readInto byte bits) ∧ Low (Port.shifting s []) wires := by
  induction bits generalizing byte with
  | nil => exact Ensures.pure fun wires low => ⟨rfl, low.1⟩
  | cons bit rest ih =>
    rw [List.length_cons]
    unfold i2cReadBits
    refine ensures_pulse partner polls ?_ fun late => absurd yields late
    refine (readSda_high _ false).bind fun seen => ensures_fact.mpr ?_
    rintro rfl
    refine ensures_fall partner rfl ?_
    rw [Port.clock_shifting]
    simpa [readInto] using ih _

theorem i2cReadByte_ensures (yields : partner.Yields polls) (s : σ) (byte : UInt8) (ack : Bool) :
    Ensures (Low (Port.shifting s (bitsOf byte))) (i2cReadByte partner polls ack)
      fun result wires => result = byte ∧ Low ((Port.shifting s []).clock partner.target (!ack)) wires := by
  refine (setSda_low partner _ false).bind fun _ =>
    (i2cReadBits_ensures partner polls yields s (bitsOf byte) 0).bind fun result => ensures_fact.mpr ?_
  rintro rfl
  rw [readInto_bitsOf]
  have answer : Ensures (Low (Port.shifting s [] : Port σ))
      (do
        partner.setSda ack
        partner.pause
        i2cReleaseScl partner
        let _ ← i2cWaitSclHigh partner polls
        partner.pause
        i2cDriveSclLow partner
        i2cReleaseSda partner
        return byte)
      fun result wires => result = byte ∧ Low ((Port.shifting s []).clock partner.target (!ack)) wires := by
    refine (setSda_low partner _ ack).bind fun _ => ensures_pulse_of_yields partner polls yields ?_
    have seen : (!ack && !(Port.shifting s [] : Port σ).pulls) = !ack := Bool.and_true _
    refine ensures_fall partner seen ?_
    refine Ensures.mono ?_ (fun _ low => low.1) fun _ _ kept => kept
    exact (setSda_low partner _ false).bind fun _ => Ensures.pure fun wires low => ⟨rfl, low.1⟩
  cases ack with
  | true => exact answer
  | false => exact answer

/-! ### Starts and stops -/

theorem ensures_start (port : Port σ) :
    Ensures (Free port)
      (do
        partner.pause
        i2cDriveSdaLow partner
        partner.pause
        i2cDriveSclLow partner
        return true)
      fun done wires => done = true ∧ Low (port.started partner.target) wires :=
  (pause_free partner port).bind fun _ => (pull_sda_free partner port).bind fun _ =>
    (pause_begun partner _).bind fun _ => (pull_scl_begun partner _).bind fun _ =>
      Ensures.pure fun _ low => ⟨rfl, low.1⟩

theorem i2cStart_of_free (port : Port σ) :
    Ensures (Free port) (i2cStart partner polls)
      fun done wires => done = true ∧ Low (port.started partner.target) wires := by
  refine (setSda_free partner port).bind fun _ => (release_scl_free partner port).bind fun _ =>
    (waitScl_free partner port polls).bind fun high => ensures_fact.mpr ?_
  rintro rfl
  exact ensures_start partner port

/-- A second start in a transfer. -/
theorem i2cStart_of_low (port : Port σ) (quiet : port.pulls = false) :
    Ensures (Low port) (i2cStart partner polls) fun done wires =>
      Settled partner polls done → done = true ∧ Low (port.started partner.target) wires := by
  refine (setSda_low partner port false).bind fun _ => ensures_rise partner polls ?_ fun late => ?_
  · exact (ensures_start partner port).mono (fun _ high => high.free quiet) fun _ _ kept _ => kept
  · exact Ensures.pure fun _ _ settled => absurd settled (by simp [Settled, late])

theorem i2cStop_ensures (port : Port σ) (quiet : port.pulls = false) :
    Ensures (Low port) (i2cStop partner polls) fun done wires =>
      Settled partner polls done → done = true ∧ Free (port.stopped partner.target) wires := by
  refine (setSda_low partner port true).bind fun _ => ensures_pulse partner polls ?_ fun late => ?_
  · refine (pause_high partner port true).bind fun _ => (release_sda_high partner port quiet).bind fun _ => ?_
    exact (pause_free partner _).bind fun _ => Ensures.pure fun wires free _ => ⟨rfl, free⟩
  · exact Ensures.pure fun _ _ settled => absurd settled (by simp [Settled, late])

/-! ### Transfers to the sensor -/

theorem i2cWriteBytes_ensures (bytes : List UInt8) (s : σ) :
    Ensures (Low ⟨s, .receiving false []⟩) (i2cWriteBytes partner polls bytes) fun taken wires =>
      Settled partner polls taken → taken = (partner.target.receiveAll bytes s).2 ∧
        Low (Port.answering partner.target (partner.target.receiveAll bytes s).1 taken false) wires := by
  induction bytes generalizing s with
  | nil => exact Ensures.pure fun wires low _ => ⟨rfl, low⟩
  | cons byte rest ih =>
    refine (i2cWriteByte_ensures partner polls false byte s).bind fun taken => ?_
    rw [Target.receiveAll, Target.take, if_neg Bool.false_ne_true, Bool.false_and]
    generalize partner.target.receive s byte = answer
    obtain ⟨s', ok⟩ := answer
    cases taken with
    | false =>
      refine Ensures.pure fun wires refused settled => ?_
      obtain ⟨rfl, low⟩ := refused settled
      exact ⟨rfl, low⟩
    | true =>
      intro wires reached
      obtain ⟨rfl, low⟩ := reached (.inl rfl)
      exact ih s' wires low

/-- What the functions that write put on the wires. -/
def i2cTransfer (bytes : List UInt8) : StateM (Wires σ) Bool := do
  if ← i2cStart partner polls then
    if ← i2cWriteBytes partner polls bytes then i2cStop partner polls else i2cAbort partner polls
  else i2cAbort partner polls

theorem i2cWriteBytes_append (first rest : List UInt8) (done failed : StateM (Wires σ) α) :
    (do if ← i2cWriteBytes partner polls (first ++ rest) then done else failed) = (do
      if ← i2cWriteBytes partner polls first then
        if ← i2cWriteBytes partner polls rest then done else failed
      else failed) := by
  induction first with
  | nil => rfl
  | cons byte first ih =>
    rw [List.cons_append, i2cWriteBytes, i2cWriteBytes, bind_assoc, bind_assoc]
    refine bind_congr fun taken => ?_
    cases taken with
    | false => rfl
    | true => exact ih

theorem i2cWriteBytes_singleton (byte : UInt8) : i2cWriteBytes partner polls [byte] = i2cWriteByte partner polls byte := by
  refine Eq.trans (bind_congr fun taken => ?_) (bind_pure _)
  cases taken <;> rfl

theorem i2cWrite_eq (data : List UInt8) :
    i2cWrite partner polls data = i2cTransfer partner polls (i2cWriteAddress :: data) := by
  refine bind_congr fun started => ?_
  cases started with
  | false => rfl
  | true =>
    refine Eq.trans ?_ (i2cWriteBytes_append partner polls [i2cWriteAddress] data _ _).symm
    rw [i2cWriteBytes_singleton]
    rfl

theorem i2cWriteToRegister_eq (reg : UInt8) (data : List UInt8) :
    i2cWriteToRegister partner polls reg data = i2cTransfer partner polls (i2cWriteAddress :: reg :: data) := by
  refine bind_congr fun started => ?_
  cases started with
  | false => rfl
  | true => exact (i2cWriteBytes_append partner polls [i2cWriteAddress, reg] data _ _).symm

/-- An address that asks for nothing, and the bytes after it. -/
theorem i2cAddressed_ensures (address : UInt8) (writes : address &&& 1 ≠ 1) (bytes : List UInt8) (s : σ) :
    Ensures (Low ⟨partner.target.start s, .receiving true []⟩) (i2cWriteBytes partner polls (address :: bytes))
      fun taken wires => Settled partner polls taken → taken = (partner.target.addressed address bytes s).2 ∧
        Low (Port.answering partner.target (partner.target.addressed address bytes s).1 taken false) wires := by
  refine (i2cWriteByte_ensures partner polls true address _).bind fun taken => ?_
  rw [Target.addressed, Target.take, if_pos rfl, decide_eq_false writes, Bool.and_false]
  generalize partner.target.address (partner.target.start s) address = answer
  obtain ⟨s', ok⟩ := answer
  cases taken with
  | false =>
    refine Ensures.pure fun wires refused settled => ?_
    obtain ⟨rfl, low⟩ := refused settled
    exact ⟨rfl, low⟩
  | true =>
    intro wires reached
    obtain ⟨rfl, low⟩ := reached (.inl rfl)
    exact i2cWriteBytes_ensures partner polls bytes s' wires low

theorem quiet_answering (s : σ) (taken : Bool) : (Port.answering partner.target s taken false).pulls = false := by
  cases taken <;> rfl

/-- A transfer that fails is stopped. -/
theorem i2cAbort_ensures (yields : partner.Yields polls) (port : Port σ) (quiet : port.pulls = false) :
    Ensures (Low port) (i2cAbort partner polls) fun _ => Free (port.stopped partner.target) :=
  (i2cStop_ensures partner polls port quiet).bind fun _ =>
    Ensures.pure fun _ stopped => (stopped (.inr yields)).2

theorem i2cTransfer_ensures (bytes : List UInt8) (s : σ) (phase : Phase) :
    Ensures (Free ⟨s, phase⟩) (i2cTransfer partner polls (i2cWriteAddress :: bytes)) fun done wires =>
      Settled partner polls done → done = (partner.target.write i2cWriteAddress bytes s).2 ∧
        Free ⟨(partner.target.write i2cWriteAddress bytes s).1, .idle⟩ wires := by
  refine (i2cStart_of_free partner polls ⟨s, phase⟩).bind fun started => ensures_fact.mpr ?_
  rintro rfl
  refine (i2cAddressed_ensures partner polls i2cWriteAddress (by decide) bytes s).bind fun taken => ?_
  rw [Target.write]
  generalize partner.target.addressed i2cWriteAddress bytes s = answer
  obtain ⟨s', ok⟩ := answer
  intro wires reached
  cases taken with
  | true =>
    obtain ⟨rfl, low⟩ := reached (.inl rfl)
    exact i2cStop_ensures partner polls _ (quiet_answering partner s' true) wires low
  | false =>
    intro settled
    have yields : partner.Yields polls := settled.resolve_left Bool.false_ne_true
    obtain ⟨rfl, low⟩ := reached (.inr yields)
    exact ⟨rfl, i2cAbort_ensures partner polls yields _ (quiet_answering partner s' false) wires low⟩

/-! ### Transfers from the sensor -/

theorem i2cReadBytes_ensures (yields : partner.Yields polls) (size : Nat) (s : σ) :
    Ensures (Low (Port.shifting s (bitsOf (partner.target.send s)))) (i2cReadBytes partner polls (size + 1))
      fun data wires => data = (partner.target.sendAll (size + 1) s).2 ∧
        Low ⟨(partner.target.sendAll (size + 1) s).1, .idle⟩ wires := by
  induction size generalizing s with
  | zero =>
    refine (i2cReadByte_ensures partner polls yields s _ false).bind fun byte => ensures_fact.mpr ?_
    rintro rfl
    exact Ensures.pure fun wires low => ⟨rfl, low⟩
  | succ size ih =>
    refine (i2cReadByte_ensures partner polls yields s _ true).bind fun byte => ensures_fact.mpr ?_
    rintro rfl
    refine (ih (partner.target.sent s true)).bind fun rest => ensures_fact.mpr ?_
    rintro rfl
    exact Ensures.pure fun wires low => ⟨rfl, low⟩

/-- The second half of a read: the address that asks for bytes, the bytes, and the stop. -/
theorem i2cFetch_ensures (yields : partner.Yields polls) (size : Nat) (s : σ) :
    Ensures (Low ⟨partner.target.start s, .receiving true []⟩)
      (do
        if ← i2cWriteByte partner polls i2cReadAddress then
          let data ← i2cReadBytes partner polls (size + 1)
          if ← i2cStop partner polls then return some data else return none
        else
          let _ ← i2cAbort partner polls
          return none)
      fun data wires => data = (partner.target.fetch i2cReadAddress (size + 1) s).2 ∧
        Free ⟨(partner.target.fetch i2cReadAddress (size + 1) s).1, .idle⟩ wires := by
  refine (i2cWriteByte_ensures partner polls true i2cReadAddress _).bind fun taken => ?_
  rw [Target.fetch, Target.addressed, Target.take, if_pos rfl,
    show (true && decide (i2cReadAddress &&& 1 = 1)) = true by decide]
  generalize partner.target.address (partner.target.start s) i2cReadAddress = answer
  obtain ⟨s', ok⟩ := answer
  refine ensures_of_settled partner polls (.inr yields) ?_
  rintro rfl
  cases taken with
  | false => exact (i2cAbort_ensures partner polls yields _ rfl).bind fun _ => Ensures.pure fun _ free => ⟨rfl, free⟩
  | true =>
    refine (i2cReadBytes_ensures partner polls yields size s').bind fun data => ensures_fact.mpr ?_
    rintro rfl
    refine (i2cStop_ensures partner polls ⟨_, .idle⟩ rfl).bind fun done => ensures_of_settled partner polls (.inr yields) ?_
    rintro rfl
    exact Ensures.pure fun _ free => ⟨rfl, free⟩

theorem i2cReadFromRegister_ensures (yields : partner.Yields polls) (reg : UInt8) (size : Nat) (s : σ) (phase : Phase) :
    Ensures (Free ⟨s, phase⟩) (i2cReadFromRegister partner polls reg (size + 1)) fun data wires =>
      data = (partner.target.read i2cWriteAddress [reg] i2cReadAddress (size + 1) s).2 ∧
        Free ⟨(partner.target.read i2cWriteAddress [reg] i2cReadAddress (size + 1) s).1, .idle⟩ wires := by
  refine (i2cStart_of_free partner polls ⟨s, phase⟩).bind fun started => ensures_fact.mpr ?_
  rintro rfl
  refine (i2cAddressed_ensures partner polls i2cWriteAddress (by decide) [reg] s).bind fun taken => ?_
  rw [Target.read]
  generalize partner.target.addressed i2cWriteAddress [reg] s = answer
  obtain ⟨s', ok⟩ := answer
  refine ensures_of_settled partner polls (.inr yields) ?_
  rintro rfl
  have quiet := quiet_answering partner s' taken
  cases taken with
  | false => exact (i2cAbort_ensures partner polls yields _ quiet).bind fun _ => Ensures.pure fun _ free => ⟨rfl, free⟩
  | true =>
    refine (i2cStart_of_low partner polls _ quiet).bind fun started => ensures_of_settled partner polls (.inr yields) ?_
    rintro rfl
    exact i2cFetch_ensures partner polls yields size s'

/-! ### Setting up the bus -/

theorem i2cPulses_ensures (yields : partner.Yields polls) (count : Nat) (port : Port σ) :
    Ensures (High false port) (i2cPulses partner polls count) fun _ => High false (port.idled partner.target count) := by
  induction count generalizing port with
  | zero => exact Ensures.pure fun wires high => high
  | succ count ih =>
    have fall := pull_scl partner port false
    rw [Bool.not_false, Bool.true_and] at fall
    refine fall.bind fun _ => ensures_pulse_of_yields partner polls yields ?_
    exact (pause_high partner _ false).bind fun _ => ih _

theorem i2cBusInit_ensures (yields : partner.Yields polls) (port : Port σ) :
    Ensures (High false port) (i2cBusInit partner polls) fun _ => High false (port.idled partner.target 9) := by
  have still {change : Wires σ → Wires σ} (same : ∀ wires, High false port wires → change wires = wires) :
      Ensures (High false port) (modify fun wires => partner.settle (change wires)) fun _ => High false port := by
    intro wires high
    have settled := pause_high partner port false wires high
    change High false port (partner.settle (change wires))
    rwa [same wires high]
  refine (still fun wires high => ?_).bind fun _ => (still fun wires high => ?_).bind fun _ =>
    (pause_high partner port false).bind fun _ => i2cPulses_ensures partner polls yields 9 port
  · rw [← high.data]
  · rw [← high.released]

/-- A sensor that was cut off while it sent is quiet after the pulses, wherever in a byte it was. -/
theorem i2cBusInit_frees (yields : partner.Yields polls) (s : σ) (bits : List Bool) (byte : bits.length ≤ 8)
    (wires : Wires σ) (left : High false (Port.shifting s bits) wires) :
    Free ⟨partner.target.sent s false, .idle⟩ (i2cBusInit partner polls wires).2 := by
  have high := i2cBusInit_ensures partner polls yields _ wires left
  rw [Port.idled_shifting partner.target 9 s bits (by omega)] at high
  exact high.free rfl

/-- A write to a register that is reported done, or during which the sensor never held the clock for
longer than the wait, is to the sensor a start, its address, the register, the data and a stop, each
byte acknowledged unless failure is reported; then the bus is free. Either function that writes does
the same on the wires. -/
theorem i2cWriteToRegister_delivers (register : UInt8) (data : List UInt8) (s : σ) (phase : Phase) (wires : Wires σ)
    (free : Free ⟨s, phase⟩ wires)
    (settled : Settled partner polls (i2cWriteToRegister partner polls register data wires).1) :
    (i2cWriteToRegister partner polls register data wires).1 =
        (partner.target.write i2cWriteAddress (register :: data) s).2 ∧
      Free ⟨(partner.target.write i2cWriteAddress (register :: data) s).1, .idle⟩
        (i2cWriteToRegister partner polls register data wires).2 ∧
      i2cWrite partner polls (register :: data) wires = i2cWriteToRegister partner polls register data wires := by
  rw [i2cWriteToRegister_eq] at settled ⊢
  rw [i2cWrite_eq]
  obtain ⟨done, idle⟩ := i2cTransfer_ensures partner polls (register :: data) s phase wires free settled
  exact ⟨done, idle, rfl⟩

end

/-! ### A file of registers on the pins -/

/-- A file of registers that holds the clock at two instants of three. -/
def slowFile : Partner RegisterFile := ⟨registerFile i2cWriteAddress, fun time => time % 3 ≠ 0⟩

theorem slowFile_yields : slowFile.Yields 3 := by
  intro time
  refine ⟨(3 - time % 3) % 3, Nat.mod_lt _ (by decide), ?_⟩
  have third : (time + (3 - time % 3) % 3) % 3 = 0 := by omega
  simp [slowFile, third]

theorem i2cWriteToRegister_delivers_slowFile :
    (i2cWriteToRegister slowFile 3 0x60 [0x12, 0x34] (untouched ⟨⟨0, false, fun _ => 0⟩, .idle⟩)).1 = true := by
  obtain ⟨pointer, written⟩ := registerFile_write i2cWriteAddress 0x60 [0x12, 0x34] ⟨0, false, fun _ => 0⟩
  have done := (i2cWriteToRegister_delivers slowFile 3 0x60 [0x12, 0x34] ⟨0, false, fun _ => 0⟩ .idle
    (untouched _) (free_untouched rfl) (.inr slowFile_yields)).1
  exact done.trans (congrArg Prod.snd written)

theorem i2cBusInit_frees_slowFile :
    Free ⟨⟨1, false, fun _ => 0⟩, .idle⟩ (i2cBusInit slowFile 3
      ⟨false, false, false, true, some false, 7, Port.shifting ⟨0, false, fun _ => 0⟩ [false, true, true]⟩).2 :=
  i2cBusInit_frees slowFile 3 slowFile_yields ⟨0, false, fun _ => 0⟩ [false, true, true] (by decide) _
    ⟨⟨rfl, rfl, rfl, rfl, rfl⟩, rfl⟩

/-- What is written to a file of registers over the pins is what is then read from it, however it
holds the clock, as long as it is for no longer than the wait. -/
theorem i2c_registers_round_trip (holds : Nat → Bool) (polls : Nat)
    (yields : (⟨registerFile i2cWriteAddress, holds⟩ : Partner RegisterFile).Yields polls) (register : UInt8)
    (data : List UInt8) (some_data : data ≠ []) (size : data.length < 256) (file : RegisterFile) (phase : Phase)
    (wires : Wires RegisterFile) (free : Free ⟨file, phase⟩ wires) :
    ((do
      let done ← i2cWriteToRegister ⟨registerFile i2cWriteAddress, holds⟩ polls register data
      let got ← i2cReadFromRegister ⟨registerFile i2cWriteAddress, holds⟩ polls register data.length
      return (done, got)) wires).1 = (true, some data) := by
  obtain ⟨pointer, written⟩ := registerFile_write i2cWriteAddress register data file
  have write := i2cTransfer_ensures _ polls (register :: data) file phase wires free (.inr yields)
  rw [← i2cWriteToRegister_eq, written] at write
  obtain ⟨rest, length⟩ := Nat.exists_eq_add_one.mpr (List.length_pos_iff.mpr some_data)
  have read := (i2cReadFromRegister_ensures _ polls yields register rest _ .idle _ write.2).1
  rw [← length] at read
  have same : i2cReadAddress >>> 1 = i2cWriteAddress >>> 1 := by decide
  have stored := registerFile_read same register data.length ⟨pointer, true, RegisterFile.store file.value register data⟩
  rw [RegisterFile.row_store data size.le] at stored
  exact Prod.ext write.1 (read.trans stored)

theorem i2c_registers_round_trip_slowFile :
    ((do
      let done ← i2cWriteToRegister slowFile 3 0x60 [0x12, 0x34]
      let got ← i2cReadFromRegister slowFile 3 0x60 2
      return (done, got)) (untouched ⟨⟨0, false, fun _ => 0⟩, .idle⟩)).1 = (true, some [0x12, 0x34]) :=
  i2c_registers_round_trip _ 3 slowFile_yields 0x60 [0x12, 0x34] (by decide) (by decide) _ .idle _ (free_untouched rfl)

end SelfDriving.Front
