import SelfDriving.Bench.Keyboard
import SelfDriving.Hpvc.SteeringAgreementProofs

/-! A keyboard session and the FRONT controller at its other end. The packets of a session are numbered
one after another, so of whatever part of them arrives in order the controller takes each, and does
what the last one that arrived was made for; and a session always ends with packets that center. -/
namespace SelfDriving.Bench
open Ieee754 Python Hpvc

/-! ### The packets of a session -/

/-- The values that the packet of a state carries. -/
structure Built (maxRateRadS : F64) (sent : Sent) : Prop where
  packed : ∃ us angle rate,
    packSingle (if sent.emergencyCenter then 0.0 else if sent.state.armed then sent.state.angleRad else 0.0) = .ok angle ∧
    packSingle maxRateRadS = .ok rate ∧
    sent.packet = hpscPacket
      (if sent.state.armed && !sent.emergencyCenter then hpscControlSteeringAngle else hpscControlDisabled)
      (if sent.emergencyCenter then hpscFlagEmergencyCenter else if sent.state.armed then 5 else 0)
      sent.state.sequence us angle rate sent.state.alive

/-- Packets with the numbers after a start. -/
def Numbered : UInt32 → List Sent → Prop
  | _, [] => True
  | start, sent :: rest => sent.state.sequence = start ∧ Numbered (start + 1) rest

theorem packHpsc_eq_ok {controlMode flags : UInt8} {sequence : UInt32} {us : UInt64} {angleRad maxRateRadS : F64}
    {alive : UInt16} {packet : List UInt8}
    (packed : packHpsc controlMode flags sequence us angleRad maxRateRadS alive = .ok packet) :
    ∃ angle rate, packSingle angleRad = .ok angle ∧ packSingle maxRateRadS = .ok rate ∧
      packet = hpscPacket controlMode flags sequence us angle rate alive := by
  unfold packHpsc at packed
  split at packed
  · rename_i angle rate first second
    exact ⟨angle, rate, first, second, (Except.ok.inj packed).symm⟩
  · cases packed
  · cases packed

theorem packSteering_eq_ok {sequence : UInt32} {us : UInt64} {angleRad maxRateRadS : F64} {alive : UInt16}
    {armed emergencyCenter : Bool} {packet : List UInt8}
    (packed : packSteering sequence us angleRad maxRateRadS alive (armed && !emergencyCenter) emergencyCenter = .ok packet) :
    ∃ angle rate, packSingle (if emergencyCenter then 0.0 else angleRad) = .ok angle ∧ packSingle maxRateRadS = .ok rate ∧
      packet = hpscPacket
        (if armed && !emergencyCenter then hpscControlSteeringAngle else hpscControlDisabled)
        (if emergencyCenter then hpscFlagEmergencyCenter else if armed then 5 else 0) sequence us angle rate alive := by
  have clear : (0 : UInt8) ||| hpscFlagEmergencyCenter = hpscFlagEmergencyCenter := by decide
  have steers : hpscFlagSteeringValid ||| hpscFlagUpstreamValid = 5 := by decide
  cases emergencyCenter with
  | true =>
    simp only [packSteering, Bool.not_true, Bool.and_false, Bool.false_eq_true, if_false, if_true, clear] at packed ⊢
    exact packHpsc_eq_ok packed
  | false =>
    simp only [packSteering, Bool.not_false, Bool.and_true, Bool.false_eq_true, if_false, steers] at packed ⊢
    exact packHpsc_eq_ok packed

/-- A packet that went out is that of the state, and the state goes on to the next number. -/
theorem sendPacket_eq_ok {maxRateRadS : F64} {emergencyCenter : Bool} {sending : Sending} {state next : SteeringState}
    {sent : Sent} (went : sendPacket maxRateRadS emergencyCenter sending state = .ok (next, sent)) :
    next = { state with sequence := state.sequence + 1, alive := state.alive + 1 } ∧ sent.state = state ∧
      sent.emergencyCenter = emergencyCenter ∧ Built maxRateRadS sent := by
  simp only [sendPacket] at went
  cases packed : packSteering state.sequence sending.us (if state.armed then state.angleRad else 0.0) maxRateRadS
    state.alive (state.armed && !emergencyCenter) emergencyCenter with
  | error error =>
    rw [packed] at went
    cases went
  | ok packet =>
    rw [packed] at went
    cases refused : sending.refused with
    | true =>
      rw [refused] at went
      cases went
    | false =>
      rw [refused] at went
      cases went
      obtain ⟨angle, rate, first, second, same⟩ := packSteering_eq_ok packed
      exact ⟨rfl, rfl, rfl, ⟨_, angle, rate, first, second, same⟩⟩

/-- The packets of the loop, and the number after them. -/
theorem runLoop_numbered (tool : Tool) (react : ∀ key state state', tool.react key state = .ok state' →
      state'.sequence = state.sequence) (nextSend : F64) (state : SteeringState) (turns : List Turn) :
    Numbered state.sequence (runLoop tool nextSend state turns).2 ∧
      (runLoop tool nextSend state turns).1.sequence =
        state.sequence + UInt32.ofNat (runLoop tool nextSend state turns).2.length ∧
      ∀ sent ∈ (runLoop tool nextSend state turns).2, sent.emergencyCenter = false ∧ Built tool.rateRadS sent := by
  have nothing (state : SteeringState) : Numbered state.sequence [] ∧
      state.sequence = state.sequence + UInt32.ofNat ([] : List Sent).length ∧
      ∀ sent ∈ ([] : List Sent), sent.emergencyCenter = false ∧ Built tool.rateRadS sent :=
    ⟨trivial, (UInt32.add_zero _).symm, fun _ none => absurd none List.not_mem_nil⟩
  induction turns generalizing nextSend state with
  | nil => exact nothing state
  | cons turn rest ih =>
    rw [runLoop]
    split
    · exact nothing state
    have kept : ∀ state', (turn.key.elim (.ok state) fun key => tool.react key state) = .ok state' →
        state'.sequence = state.sequence := by
      cases turn.key with
      | none => exact fun state' same => congrArg SteeringState.sequence (Except.ok.inj same).symm
      | some key => exact react key state
    cases reacted : turn.key.elim (.ok state) fun key => tool.react key state with
    | error error => exact nothing state
    | ok state' =>
      rw [← kept state' reacted]
      dsimp only
      split
      · cases went : sendPacket tool.rateRadS false turn.sending state' with
        | error error => exact nothing state'
        | ok result =>
          obtain ⟨next, sent⟩ := result
          obtain ⟨rfl, same, calm, built⟩ := sendPacket_eq_ok went
          obtain ⟨numbered, last, each⟩ := ih (turn.now + tool.periodS)
            { state' with sequence := state'.sequence + 1, alive := state'.alive + 1 }
          refine ⟨⟨congrArg SteeringState.sequence same, numbered⟩, ?_, ?_⟩
          · rw [last, List.length_cons, Nat.add_comm, UInt32.ofNat_add, UInt32.add_assoc]
            rfl
          · exact List.forall_mem_cons.mpr ⟨⟨calm, built⟩, each⟩
      · exact ih nextSend state'

theorem sendClosing_numbered (maxRateRadS : F64) (state : SteeringState) (plan : List (Bool × Sending)) :
    Numbered state.sequence (sendClosing maxRateRadS state plan) ∧
      ∀ sent ∈ sendClosing maxRateRadS state plan, Built maxRateRadS sent := by
  induction plan generalizing state with
  | nil => exact ⟨trivial, fun _ none => absurd none List.not_mem_nil⟩
  | cons first rest ih =>
    obtain ⟨emergencyCenter, sending⟩ := first
    rw [sendClosing]
    cases went : sendPacket maxRateRadS emergencyCenter sending state with
    | error error => exact ⟨trivial, fun _ none => absurd none List.not_mem_nil⟩
    | ok result =>
      obtain ⟨next, sent⟩ := result
      obtain ⟨rfl, same, -, built⟩ := sendPacket_eq_ok went
      obtain ⟨numbered, each⟩ := ih { state with sequence := state.sequence + 1, alive := state.alive + 1 }
      exact ⟨⟨congrArg SteeringState.sequence same, numbered⟩, List.forall_mem_cons.mpr ⟨built, each⟩⟩

theorem Numbered.append {start : UInt32} {first second : List Sent} (numbered : Numbered start first)
    (more : Numbered (start + UInt32.ofNat first.length) second) : Numbered start (first ++ second) := by
  induction first generalizing start with
  | nil => simpa using more
  | cons sent rest ih =>
    refine ⟨numbered.1, ih numbered.2 ?_⟩
    rwa [List.length_cons, Nat.add_comm, UInt32.ofNat_add, ← UInt32.add_assoc] at more

theorem Numbered.append_left {start : UInt32} {first second : List Sent} (numbered : Numbered start (first ++ second)) :
    Numbered start first ∧ Numbered (start + UInt32.ofNat first.length) second := by
  induction first generalizing start with
  | nil => exact ⟨trivial, by simpa using numbered⟩
  | cons sent rest ih =>
    obtain ⟨before, after⟩ := ih numbered.2
    refine ⟨⟨numbered.1, before⟩, ?_⟩
    rwa [List.length_cons, Nat.add_comm, UInt32.ofNat_add, ← UInt32.add_assoc]

/-- The two tools, their limit, and how many packets that center at once end a session of theirs. -/
inductive IsTool : Tool → F64 → Nat → Prop
  | servo (args : ServoArgs) : IsTool (servoTool args) args.maxAngleRad 3
  | interactive (args : InteractiveArgs) : IsTool (interactiveTool args) args.maxAngleRad 5

theorem IsTool.react {tool : Tool} {limit : F64} {count : Nat} (isTool : IsTool tool limit count) (key : String)
    (state state' : SteeringState) (reacted : tool.react key state = .ok state') : state'.sequence = state.sequence := by
  cases isTool with
  | servo args =>
    obtain rfl := Except.ok.inj reacted
    unfold servoReact
    split_ifs <;> rfl
  | interactive args =>
    have clamped {angle : Except PyError F64} (went : (angle >>= fun angle => pure { state with angleRad := angle }) =
        Except.ok (ε := PyError) state') : state'.sequence = state.sequence := by
      cases angle with
      | error error => cases went
      | ok angle =>
        cases went
        rfl
    change interactiveReact args key state = .ok state' at reacted
    unfold interactiveReact at reacted
    split_ifs at reacted
    · cases reacted
      rfl
    · exact clamped reacted
    · exact clamped reacted
    · cases reacted
      rfl
    · cases reacted
      rfl

theorem session_numbered {tool : Tool} {limit : F64} {count : Nat} (isTool : IsTool tool limit count) (start : SteeringState)
    (turns : List Turn) (closing : List Sending) :
    Numbered start.sequence (session tool start turns closing) ∧
      ∀ sent ∈ session tool start turns closing, Built tool.rateRadS sent := by
  obtain ⟨numbered, last, each⟩ := runLoop_numbered tool isTool.react 0.0 start turns
  obtain ⟨closed, built⟩ := sendClosing_numbered tool.rateRadS (tool.close (runLoop tool 0.0 start turns).1)
    (tool.closing.zip closing)
  have kept : (tool.close (runLoop tool 0.0 start turns).1).sequence = (runLoop tool 0.0 start turns).1.sequence := by
    cases isTool <;> rfl
  rw [kept, last] at closed
  refine ⟨numbered.append closed, fun sent member => ?_⟩
  rcases List.mem_append.mp member with early | late
  · exact (each sent early).2
  · exact built sent late

/-! ### The controller at the other end -/

/-- The next numbers are all newer than what the controller holds. -/
def Window (s : Front.State F32) (start : UInt32) (count : Nat) : Prop :=
  ∀ number, Front.held s = some number → ∀ k < count, SerialNumber.newer (start + UInt32.ofNat k) number = true

theorem Window.skip {s : Front.State F32} {start : UInt32} {count : Nat} (window : Window s start (count + 1)) :
    Window s (start + 1) count := by
  intro number holds k below
  have later := window number holds (k + 1) (by omega)
  rwa [Nat.add_comm, UInt32.ofNat_add, ← UInt32.add_assoc] at later

/-- A number is older than the next ones for half a turn. -/
theorem window_of_held {s : Front.State F32} {start : UInt32} {count : Nat} (holds : Front.held s = some start)
    (short : count < 2 ^ 31) : Window s (start + 1) count := by
  intro number same k below
  obtain rfl : start = number := Option.some.inj (holds.symm.trans same)
  have ahead : start + 1 + UInt32.ofNat k - start = UInt32.ofNat (k + 1) := by
    rw [Nat.add_comm, UInt32.ofNat_add]
    grind
  rw [SerialNumber.newer_iff, ahead, UInt32.toNat_ofNat', Nat.mod_eq_of_lt (by omega)]
  omega

theorem held_of_accepted {s : Front.State F32} {packet : Memory} {nowMs : UInt32}
    (accepted : (Front.acceptHpscPacket (some packet) Front.hpscPacketSize nowMs s).1 = true) :
    Front.held (Front.acceptHpscPacket (some packet) Front.hpscPacketSize nowMs s).2 = some (Front.sequenceOf packet) := by
  rcases Front.acceptHpscPacket_cases (some packet) Front.hpscPacketSize nowMs s with
    ⟨refused, -⟩ | ⟨_, located, -, -, -, -, takes⟩
  · rw [accepted] at refused
    cases refused
  · cases located
    rw [Front.held, takes.initialized, takes.lastSequence]
    rfl

/-- Whatever a packet is, the controller holds its number or the one before. -/
theorem held_of_call (s : Front.State F32) (packet : Memory) (nowMs : UInt32) :
    Front.held (Front.acceptHpscPacket (some packet) Front.hpscPacketSize nowMs s).2 = Front.held s ∨
      Front.held (Front.acceptHpscPacket (some packet) Front.hpscPacketSize nowMs s).2 = some (Front.sequenceOf packet) := by
  rcases Front.acceptHpscPacket_cases (some packet) Front.hpscPacketSize nowMs s with
    ⟨-, same⟩ | ⟨_, -, -, accepted, -⟩
  · exact .inl same.held_eq
  · exact .inr (held_of_accepted accepted)

theorem held_of_delivery (s : Front.State F32) (delivery : Front.Delivery) :
    Front.held (Front.deliver s [delivery]) = Front.held s ∨
      Front.held (Front.deliver s [delivery]) = some (Front.sequenceOf delivery.packet) := by
  have later (between : List Front.Between) (t : Front.State F32)
      (known : Front.held t = Front.held s ∨ Front.held t = some (Front.sequenceOf delivery.packet)) :
      Front.held ((Front.node F32).run t (between.map (Front.Between.call delivery.packet))) = Front.held s ∨
        Front.held ((Front.node F32).run t (between.map (Front.Between.call delivery.packet))) =
          some (Front.sequenceOf delivery.packet) := by
    induction between generalizing t with
    | nil => exact known
    | cons event rest ih =>
      refine ih _ ?_
      cases event with
      | again nowMs =>
        rcases held_of_call t delivery.packet nowMs with same | took
        · exact known.imp same.trans same.trans
        · exact .inr took
      | runOnce nowMs =>
        have same := (Front.keeps_runOnce nowMs t).held_eq
        exact known.imp same.trans same.trans
      | holdCurrentForMs holdMs => exact known
  have first := held_of_call s delivery.packet delivery.nowMs
  rw [Front.deliver, List.flatMap_singleton, Front.Delivery.calls, Machine.run_cons]
  exact later delivery.between _ first

theorem sequenceOf_built {maxRateRadS : F64} {sent : Sent} (built : Built maxRateRadS sent) {memory : Memory}
    (holds : Holds memory sent.packet) : Front.sequenceOf memory = sent.state.sequence := by
  obtain ⟨us, angle, rate, -, -, same⟩ := built.packed
  rw [same] at holds
  exact sequenceOf_holds holds

/-- Of numbered packets any part is delivered in order: the numbers after them are still newer. -/
theorem window_deliver {maxRateRadS : F64} {start : UInt32} {sent received : List Sent} (numbered : Numbered start sent)
    (built : ∀ x ∈ sent, Built maxRateRadS x) (part : received.Sublist sent) {deliveries : List Front.Delivery}
    (delivered : Delivered deliveries (received.map Sent.packet)) {more : Nat} (short : sent.length + more ≤ 2 ^ 31)
    {s : Front.State F32} (window : Window s start (sent.length + more)) :
    Window (Front.deliver s deliveries) (start + UInt32.ofNat sent.length) more := by
  induction part generalizing start deliveries s with
  | slnil =>
    cases delivered
    change Window s _ _
    simpa using window
  | @cons received sent x part ih =>
    rw [List.length_cons, Nat.add_right_comm] at window
    rw [List.length_cons] at short
    have after := ih numbered.2 (fun y member => built y (List.mem_cons_of_mem _ member)) delivered (by omega) window.skip
    rwa [UInt32.add_assoc, ← UInt32.ofNat_one, ← UInt32.ofNat_add, Nat.add_comm] at after
  | @cons_cons received sent x part ih =>
    cases delivered with
    | @cons delivery _ deliveries _ holds rest =>
      rw [List.length_cons, Nat.add_right_comm] at window
      rw [List.length_cons] at short
      have number := sequenceOf_built (built x (List.mem_cons_self ..)) holds
      rw [numbered.1] at number
      have next : Window (Front.deliver s [delivery]) (start + 1) (sent.length + more) := by
        rcases held_of_delivery s delivery with same | took
        · intro held holds
          exact window.skip held (same.symm.trans holds)
        · exact window_of_held (number ▸ took) (by omega)
      have after := ih numbered.2 (fun y member => built y (List.mem_cons_of_mem _ member)) rest (by omega) next
      rw [Front.deliver_cons]
      rwa [UInt32.add_assoc, ← UInt32.ofNat_one, ← UInt32.ofNat_add, Nat.add_comm] at after

/-- A fresh packet that centers at once does so, whatever the arguments were. -/
theorem taken_of_emergency {maxRateRadS : F64} {sent : Sent} (built : Built maxRateRadS sent)
    (emergency : sent.emergencyCenter = true) {memory : Memory} (holds : Holds memory sent.packet) {s : Front.State F32}
    (fresh : Front.Fresh s memory) (nowMs : UInt32) :
    let outcome := Front.acceptHpscPacket (some memory) Front.hpscPacketSize nowMs s
    outcome.1 = true ∧ outcome.2.targetAngleRad = 0.0 ∧ outcome.2.commandValid = false ∧
      outcome.2.emergencyCenter = true := by
  obtain ⟨us, angle, rate, -, -, same⟩ := built.packed
  rw [emergency, if_pos rfl] at same
  rw [same] at holds
  exact Hpvc.taken_of_emergency holds (by decide) fresh nowMs

theorem taken_of_disarmed {maxRateRadS : F64} {sent : Sent} (built : Built maxRateRadS sent)
    (calm : sent.emergencyCenter = false) (disarmed : sent.state.armed = false) {memory : Memory}
    (holds : Holds memory sent.packet) {s : Front.State F32} (fresh : Front.Fresh s memory) (nowMs : UInt32) :
    let outcome := Front.acceptHpscPacket (some memory) Front.hpscPacketSize nowMs s
    outcome.1 = true ∧ outcome.2.targetAngleRad = 0.0 ∧ outcome.2.commandValid = false ∧
      outcome.2.emergencyCenter = false := by
  intro outcome
  obtain ⟨us, angle, rate, -, -, same⟩ := built.packed
  rw [calm, disarmed] at same
  rw [same] at holds
  have mode : memory 5 = hpscControlDisabled := controlMode_of_holds holds
  have flags : memory 6 = 0 := flags_of_holds holds
  rcases Front.acceptHpscPacket_of_fresh (intact_of_holds holds) fresh nowMs with
    ⟨emergency, -⟩ | ⟨authorizes, -⟩ | ⟨-, -, -, taken⟩ | ⟨-, -, enabled, -⟩
  · exact absurd (by rw [flags]; decide) emergency
  · exact absurd (by rw [flags]; decide) authorizes.steeringValid
  · have same : outcome = _ := taken
    rw [same]
    exact ⟨rfl, rfl, rfl, rfl⟩
  · exact absurd mode enabled

theorem taken_of_armed {maxRateRadS : F64} {rate : F32} (rateWithin : RateWithin maxRateRadS rate) {sent : Sent}
    (built : Built maxRateRadS sent) (within : AngleWithin sent.state.angleRad) (calm : sent.emergencyCenter = false)
    (armed : sent.state.armed = true) {memory : Memory} (holds : Holds memory sent.packet) {s : Front.State F32}
    (fresh : Front.Fresh s memory) (nowMs : UInt32) :
    let outcome := Front.acceptHpscPacket (some memory) Front.hpscPacketSize nowMs s
    outcome.1 = true ∧ outcome.2.targetAngleRad = sent.state.angleRad.convert binary32 ∧ outcome.2.commandValid = true ∧
      outcome.2.emergencyCenter = false := by
  intro outcome
  obtain ⟨us, angle, rate', packed, packed', same⟩ := built.packed
  rw [calm, armed] at same packed
  obtain rfl : angle = sent.state.angleRad.convert binary32 := packSingle_eq_ok packed
  obtain rfl : rate' = rate := Except.ok.inj (packed'.symm.trans rateWithin.packed)
  rw [same] at holds
  have marks : MarkedSteering hpscControlSteeringAngle 5 := ⟨rfl, by decide, by decide, by decide⟩
  have steers := marks.steers within rateWithin
  have authorizes := authorizes_of_holds holds steers
  rcases Front.acceptHpscPacket_of_fresh (intact_of_holds holds) fresh nowMs with
    ⟨emergency, -⟩ | ⟨-, taken⟩ | ⟨-, unauthorized, -⟩ | ⟨-, unauthorized, -⟩
  · exact absurd authorizes.emergencyClear emergency
  · have same : outcome = _ := taken
    rw [same, angle_of_holds holds]
    exact ⟨rfl, Front.clampFloat_of_absFloat_le steers.angleBound, rfl, rfl⟩
  · exact absurd authorizes unauthorized
  · exact absurd authorizes unauthorized

/-- What the controller does with a packet that was made of a state. -/
structure Follows (sent : Sent) (outcome : Bool × Front.State F32) : Prop where
  accepted : outcome.1 = true
  emergencyCenter : outcome.2.emergencyCenter = sent.emergencyCenter
  commandValid : outcome.2.commandValid = (sent.state.armed && !sent.emergencyCenter)
  target : outcome.2.targetAngleRad =
    if sent.state.armed && !sent.emergencyCenter then sent.state.angleRad.convert binary32 else 0.0

/-- A fresh packet of a session does what it was made for. -/
theorem follows_of_built {maxRateRadS : F64} {rate : F32} (rateWithin : RateWithin maxRateRadS rate) {sent : Sent}
    (built : Built maxRateRadS sent) (within : AngleWithin sent.state.angleRad) {memory : Memory}
    (holds : Holds memory sent.packet) {s : Front.State F32} (fresh : Front.Fresh s memory) (nowMs : UInt32) :
    Follows sent (Front.acceptHpscPacket (some memory) Front.hpscPacketSize nowMs s) := by
  cases calm : sent.emergencyCenter with
  | true =>
    obtain ⟨accepted, target, command, emergency⟩ := taken_of_emergency built calm holds fresh nowMs
    constructor <;> simp only [accepted, target, command, emergency, calm, Bool.not_true, Bool.and_false,
      Bool.false_eq_true, if_false]
  | false =>
    cases armed : sent.state.armed with
    | true =>
      obtain ⟨accepted, target, command, emergency⟩ := taken_of_armed rateWithin built within calm armed holds fresh nowMs
      constructor <;> simp only [accepted, target, command, emergency, calm, armed, Bool.not_false, Bool.and_true, if_true]
    | false =>
      obtain ⟨accepted, target, command, emergency⟩ := taken_of_disarmed built calm armed holds fresh nowMs
      constructor <;> simp only [accepted, target, command, emergency, calm, armed, Bool.false_and, Bool.false_eq_true,
        if_false]

/-! ### The angles of a session -/

/-- A limit within that of the controller. -/
structure LimitWithin (limit : F64) : Prop where
  positive : (0.0 : F64) < limit
  le : limit ≤ (0.5 : F64)

theorem angleWithin_of_between {limit angle : F64} (limits : LimitWithin limit) (above : -limit ≤ angle)
    (below : angle ≤ limit) : AngleWithin angle := by
  have half : (0.5 : F64).toRat = 1 / 2 := by decide +kernel
  have small : |angle.toRat| ≤ 1 / 2 := by
    have low := above.2.2
    have high := below.2.2
    have most := limits.le.2.2
    rw [Ieee.toRat_neg] at low
    rw [half] at most
    exact abs_le.mpr ⟨by linarith, by linarith⟩
  rw [Ieee.abs_toRat] at small
  have most : (1 / 2 : ℚ) < Ieee.limit binary64 := by decide +kernel
  exact ⟨Ieee.isFinite_iff.mpr (small.trans_lt most), small⟩

theorem LimitWithin.neg_le {limit : F64} (limits : LimitWithin limit) : -limit ≤ limit := by
  have number := limits.positive.2.1
  refine ⟨by rwa [Ieee.isNaN_neg], number, ?_⟩
  have zero : (0.0 : F64).toRat = 0 := by decide +kernel
  have above := limits.positive.2.2
  rw [zero] at above
  rw [Ieee.toRat_neg]
  linarith

theorem angleWithin_clamp {limit : F64} (limits : LimitWithin limit) (value : F64) :
    AngleWithin (Python.max (-limit) (Python.min limit value)) := by
  have number := limits.positive.2.1
  have negative := limits.neg_le
  refine angleWithin_of_between limits (le_max_left negative.1) ?_
  unfold Python.max
  split
  · exact min_le_left number
  · exact negative

theorem LimitWithin.angleWithin {limit : F64} (limits : LimitWithin limit) :
    AngleWithin limit ∧ AngleWithin (-limit) := by
  have negative := limits.neg_le
  exact ⟨angleWithin_of_between limits negative (Ieee.le_refl limits.positive.2.1),
    angleWithin_of_between limits (Ieee.le_refl negative.1) negative⟩

/-- A key moves the angle within the limit at most. -/
theorem IsTool.within {tool : Tool} {limit : F64} {count : Nat} (isTool : IsTool tool limit count)
    (limits : LimitWithin limit) (key : String) (state state' : SteeringState) (reacted : tool.react key state = .ok state')
    (within : AngleWithin state.angleRad) : AngleWithin state'.angleRad := by
  have clamped (value : F64) := angleWithin_clamp limits value
  obtain ⟨left, right⟩ := limits.angleWithin
  cases isTool with
  | servo args =>
    obtain rfl := Except.ok.inj reacted
    unfold servoReact
    split_ifs
    · exact within
    · exact clamped _
    · exact clamped _
    · exact angleWithin_zero
    · exact left
    · exact right
    · exact within
  | interactive args =>
    have moved {angle : F64} (went : (clampAngle angle args.maxAngleRad >>= fun angle =>
        pure { state with angleRad := angle }) = Except.ok (ε := PyError) state') : AngleWithin state'.angleRad := by
      unfold clampAngle at went
      split at went
      · cases went
      · cases went
        exact clamped angle
    change interactiveReact args key state = .ok state' at reacted
    unfold interactiveReact at reacted
    split_ifs at reacted
    · cases reacted
      exact within
    · exact moved reacted
    · exact moved reacted
    · cases reacted
      exact angleWithin_zero
    · cases reacted
      exact within

theorem runLoop_within {tool : Tool} {limit : F64} {count : Nat} (isTool : IsTool tool limit count)
    (limits : LimitWithin limit) (nextSend : F64) (state : SteeringState) (within : AngleWithin state.angleRad)
    (turns : List Turn) : ∀ sent ∈ (runLoop tool nextSend state turns).2, AngleWithin sent.state.angleRad := by
  induction turns generalizing nextSend state with
  | nil => exact fun _ none => absurd none List.not_mem_nil
  | cons turn rest ih =>
    rw [runLoop]
    split
    · exact fun _ none => absurd none List.not_mem_nil
    have kept : ∀ state', (turn.key.elim (.ok state) fun key => tool.react key state) = .ok state' →
        AngleWithin state'.angleRad := by
      intro state' reacted
      cases down : turn.key with
      | none =>
        rw [down] at reacted
        obtain rfl := Except.ok.inj reacted
        exact within
      | some key =>
        rw [down] at reacted
        exact isTool.within limits key state state' reacted within
    cases reacted : turn.key.elim (.ok state) fun key => tool.react key state with
    | error error => exact fun _ none => absurd none List.not_mem_nil
    | ok state' =>
      have within' := kept state' reacted
      dsimp only
      split
      · cases went : sendPacket tool.rateRadS false turn.sending state' with
        | error error => exact fun _ none => absurd none List.not_mem_nil
        | ok result =>
          obtain ⟨next, sent⟩ := result
          obtain ⟨rfl, same, -, -⟩ := sendPacket_eq_ok went
          refine List.forall_mem_cons.mpr ⟨?_, ih _ _ within'⟩
          rwa [same]
      · exact ih nextSend state' within'

theorem sendClosing_states (maxRateRadS : F64) (state : SteeringState) (plan : List (Bool × Sending)) :
    ∀ sent ∈ sendClosing maxRateRadS state plan, sent.state.angleRad = state.angleRad := by
  induction plan generalizing state with
  | nil => exact fun _ none => absurd none List.not_mem_nil
  | cons first rest ih =>
    obtain ⟨emergencyCenter, sending⟩ := first
    rw [sendClosing]
    cases went : sendPacket maxRateRadS emergencyCenter sending state with
    | error error => exact fun _ none => absurd none List.not_mem_nil
    | ok result =>
      obtain ⟨next, sent⟩ := result
      obtain ⟨rfl, same, -, -⟩ := sendPacket_eq_ok went
      exact List.forall_mem_cons.mpr ⟨congrArg SteeringState.angleRad same, ih _⟩

theorem session_within {tool : Tool} {limit : F64} {count : Nat} (isTool : IsTool tool limit count)
    (limits : LimitWithin limit) {start : SteeringState} (within : AngleWithin start.angleRad) (turns : List Turn)
    (closing : List Sending) : ∀ sent ∈ session tool start turns closing, AngleWithin sent.state.angleRad := by
  intro sent member
  rcases List.mem_append.mp member with early | late
  · exact runLoop_within isTool limits 0.0 start within turns sent early
  · have center : (tool.close (runLoop tool 0.0 start turns).1).angleRad = 0.0 := by cases isTool <;> rfl
    rw [sendClosing_states _ _ _ sent late, center]
    exact angleWithin_zero

/-! ### The end of a session -/

theorem packSingle_zero : packSingle 0.0 = .ok ((0.0 : F64).convert binary32) := angleWithin_zero.packed.1

/-- With the angle at the center and a rate that fits, only the socket keeps a packet from going out. -/
theorem sendPacket_of_center {maxRateRadS : F64} {rate : F32} (fits : packSingle maxRateRadS = .ok rate)
    {state : SteeringState} (center : state.angleRad = 0.0) (emergencyCenter : Bool) {sending : Sending}
    (went : sending.refused = false) :
    ∃ sent, sent.emergencyCenter = emergencyCenter ∧ sendPacket maxRateRadS emergencyCenter sending state =
      .ok ({ state with sequence := state.sequence + 1, alive := state.alive + 1 }, sent) := by
  have angle : (if state.armed then state.angleRad else 0.0) = (0.0 : F64) := by
    rw [center]
    exact ite_self _
  have packs (controlMode flags : UInt8) :
      ∃ packet, packHpsc controlMode flags state.sequence sending.us 0.0 maxRateRadS state.alive = .ok packet := by
    rw [packHpsc, packSingle_zero, fits]
    exact ⟨_, rfl⟩
  obtain ⟨packet, packed⟩ : ∃ packet, packSteering state.sequence sending.us 0.0 maxRateRadS state.alive
      (state.armed && !emergencyCenter) emergencyCenter = .ok packet := by
    rw [packSteering]
    split
    · exact packs _ _
    · exact packs _ _
  refine ⟨⟨state, emergencyCenter, packet⟩, rfl, ?_⟩
  rw [sendPacket, angle, packed, went]
  rfl

/-- When nothing stops it, the whole plan goes out. -/
theorem sendClosing_whole {maxRateRadS : F64} {rate : F32} (fits : packSingle maxRateRadS = .ok rate)
    {state : SteeringState} (center : state.angleRad = 0.0) (plan : List (Bool × Sending))
    (went : ∀ planned ∈ plan, planned.2.refused = false) :
    (sendClosing maxRateRadS state plan).map Sent.emergencyCenter = plan.map Prod.fst := by
  induction plan generalizing state with
  | nil => rfl
  | cons first rest ih =>
    obtain ⟨emergencyCenter, sending⟩ := first
    obtain ⟨free, others⟩ := List.forall_mem_cons.mp went
    obtain ⟨sent, planned, sends⟩ := sendPacket_of_center fits center emergencyCenter free
    rw [sendClosing, sends, List.map_cons, List.map_cons, ← planned]
    have still : ({ state with sequence := state.sequence + 1, alive := state.alive + 1 } : SteeringState).angleRad = 0.0 :=
      center
    exact congrArg _ (ih still others)

/-- The last entries of a list that ends with one value are that value. -/
theorem eq_of_replicate_tail {α : Type*} {list begin after : List α} {value last : α} {count : Nat}
    (split : begin ++ last :: after = list ++ List.replicate count value) (late : after.length < count) : last = value := by
  have lengths := congrArg List.length split
  simp only [List.length_append, List.length_cons, List.length_replicate] at lengths
  have found := congrArg (fun entries => entries[begin.length]?) split
  have inside : list.length ≤ begin.length := by omega
  simp only [List.getElem?_append_right inside, List.getElem?_append_right (le_refl begin.length), Nat.sub_self,
    List.getElem?_cons_zero, List.getElem?_replicate] at found
  rw [if_pos (by omega)] at found
  exact Option.some.inj found

/-- The packets at the end of a session that goes out whole center at once. -/
theorem session_ends {tool : Tool} {limit : F64} {count : Nat} (isTool : IsTool tool limit count) {rate : F32}
    (fits : packSingle tool.rateRadS = .ok rate) {start : SteeringState} {turns : List Turn} {closing : List Sending}
    (enough : closing.length = tool.closing.length) (went : ∀ sending ∈ closing, sending.refused = false)
    {begin after : List Sent} {last : Sent} (split : session tool start turns closing = begin ++ last :: after)
    (late : after.length < count) : last.emergencyCenter = true := by
  have center : (tool.close (runLoop tool 0.0 start turns).1).angleRad = 0.0 := by cases isTool <;> rfl
  have plan : ∃ calm, tool.closing = calm ++ List.replicate count true := by
    cases isTool with
    | servo args => exact ⟨List.replicate 5 false, rfl⟩
    | interactive args => exact ⟨[], rfl⟩
  obtain ⟨calm, planned⟩ := plan
  have whole := sendClosing_whole fits center (tool.closing.zip closing)
    fun entry member => went _ (List.of_mem_zip member).2
  rw [List.map_fst_zip (le_of_eq enough.symm)] at whole
  have flags := congrArg (List.map Sent.emergencyCenter) split
  rw [session, List.map_append, whole, planned, List.map_append, List.map_cons, ← List.append_assoc] at flags
  exact eq_of_replicate_tail flags.symm (by rwa [List.length_map])

/-! ### Sessions and the controller -/

/-- Whatever part of a session has arrived, the next packet that arrives is fresh. -/
theorem fresh_of_part {maxRateRadS : F64} {start : UInt32} {begin after : List Sent} {last : Sent}
    (numbered : Numbered start (begin ++ last :: after)) (built : ∀ sent ∈ begin ++ last :: after, Built maxRateRadS sent)
    {received : List Sent} (part : received.Sublist begin) {deliveries : List Front.Delivery}
    (delivered : Delivered deliveries (received.map Sent.packet)) (short : begin.length < 2 ^ 31) {s : Front.State F32}
    (window : Window s start (begin.length + 1)) {memory : Memory} (holds : Holds memory last.packet) :
    Front.Fresh (Front.deliver s deliveries) memory := by
  obtain ⟨early, number, -⟩ := numbered.append_left
  have next := window_deliver early (fun sent member => built sent (List.mem_append_left _ member)) part delivered
    (by omega) window
  intro taken
  rw [sequenceOf_built (built last (by simp)) holds, number]
  have newer : SerialNumber.newer (start + UInt32.ofNat begin.length + 0) _ = true := next _ (if_pos taken) 0 Nat.one_pos
  rwa [UInt32.add_zero] at newer

/-- A session with the servo tool: one key to the left, and the closing packets. -/
def leftArgs : ServoArgs := ⟨20.0, 0.05, 0.5, 1.0, false⟩

def leftTurns : List Turn := [⟨1.0, some "a", ⟨0, false⟩⟩]

def leftClosing : List Sending := List.replicate 8 ⟨0, false⟩

def leftSession : List Sent := session (servoTool leftArgs) (servoStart leftArgs 7) leftTurns leftClosing

theorem rateWithin_one : RateWithin 1.0 ((1.0 : F64).convert binary32) :=
  ⟨by decide +kernel, by decide +kernel, by decide +kernel⟩

theorem length_leftSession : leftSession.length = 9 := by decide +kernel

theorem holds_deliveryOf {packet : List UInt8} (size : packet.length = 40) : Holds (deliveryOf packet).packet packet := by
  rw [Holds, deliveryOf, Memory.bytes_eq_map]
  apply List.ext_getElem
  · simp [size, Front.hpscPacketSize]
  · intro index inside inside'
    simp [inside']

theorem Built.length {maxRateRadS : F64} {sent : Sent} (built : Built maxRateRadS sent) : sent.packet.length = 40 := by
  obtain ⟨us, angle, rate, -, -, same⟩ := built.packed
  rw [same]
  rfl

theorem delivered_of_built {maxRateRadS : F64} {received : List Sent} (built : ∀ sent ∈ received, Built maxRateRadS sent) :
    Delivered ((received.map Sent.packet).map deliveryOf) (received.map Sent.packet) := by
  rw [Delivered, List.forall₂_map_left_iff, List.forall₂_same]
  intro packet member
  obtain ⟨sent, within, rfl⟩ := List.mem_map.mp member
  exact holds_deliveryOf (built sent within).length

/-- Of a session with either tool whatever arrives in order is obeyed, lost packets, repeated ones
and all that the controller does between them aside: it does what the last packet was made for. -/
theorem keyboard_session_obeyed {tool : Tool} {limit : F64} {count : Nat} (isTool : IsTool tool limit count)
    (limits : LimitWithin limit) {rate : F32} (rateWithin : RateWithin tool.rateRadS rate) {start : SteeringState}
    (within : AngleWithin start.angleRad) {turns : List Turn} {closing : List Sending} {begin after : List Sent}
    {last : Sent} (split : session tool start turns closing = begin ++ last :: after) (short : begin.length < 2 ^ 31)
    {received : List Sent} (part : received.Sublist begin) {deliveries : List Front.Delivery}
    (delivered : Delivered deliveries (received.map Sent.packet)) {s : Front.State F32}
    (window : Window s start.sequence (begin.length + 1)) {memory : Memory} (holds : Holds memory last.packet)
    (nowMs : UInt32) :
    Follows last (Front.acceptHpscPacket (some memory) Front.hpscPacketSize nowMs (Front.deliver s deliveries)) := by
  obtain ⟨numbered, built⟩ := session_numbered isTool start turns closing
  have angles := session_within isTool limits within turns closing
  rw [split] at numbered built angles
  have member : last ∈ begin ++ last :: after := by simp
  exact follows_of_built rateWithin (built last member) (angles last member) holds
    (fresh_of_part numbered built part delivered short window holds) nowMs

theorem leftSession_split : ∃ begin last,
    session (servoTool leftArgs) (servoStart leftArgs 7) leftTurns leftClosing = begin ++ [last] ∧ begin.length = 8 ∧
      Delivered (((begin.take 1).map Sent.packet).map deliveryOf) ((begin.take 1).map Sent.packet) ∧
      Holds (deliveryOf last.packet).packet last.packet := by
  obtain ⟨begin, last, split⟩ : ∃ begin last, leftSession = begin ++ [last] :=
    ⟨_, _, (List.dropLast_append_getLast (List.ne_nil_of_length_eq_add_one length_leftSession)).symm⟩
  have whole := congrArg List.length split
  rw [length_leftSession, List.length_append, List.length_singleton] at whole
  obtain ⟨-, built⟩ := session_numbered (.servo leftArgs) (servoStart leftArgs 7) leftTurns leftClosing
  change session (servoTool leftArgs) (servoStart leftArgs 7) leftTurns leftClosing = _ at split
  rw [split] at built
  have early : ∀ sent ∈ begin.take 1, Built (servoTool leftArgs).rateRadS sent := fun sent member =>
    built sent (List.mem_append_left _ (List.mem_of_mem_take member))
  exact ⟨begin, last, split, by omega, delivered_of_built early, holds_deliveryOf (built last (by simp)).length⟩

theorem window_of_boot (start : UInt32) (count : Nat) : Window (Front.init 0) start count := by
  intro number holds
  cases holds

/-- The first packet arrives and the last. -/
theorem keyboard_session_obeyed_left :
    ∃ begin last, session (servoTool leftArgs) (servoStart leftArgs 7) leftTurns leftClosing = begin ++ [last] ∧
      Follows last (Front.acceptHpscPacket (some (deliveryOf last.packet).packet) Front.hpscPacketSize 30
        (Front.deliver (Front.init 0) (((begin.take 1).map Sent.packet).map deliveryOf))) := by
  obtain ⟨begin, last, split, length, delivered, holds⟩ := leftSession_split
  have within : AngleWithin (servoStart leftArgs 7).angleRad := angleWithin_zero
  have limits : LimitWithin leftArgs.maxAngleRad := ⟨by decide +kernel, by decide +kernel⟩
  have rateWithin : RateWithin (servoTool leftArgs).rateRadS _ := rateWithin_one
  exact ⟨begin, last, split, keyboard_session_obeyed (.servo leftArgs) limits rateWithin within split
    (by rw [length]; decide) (List.take_sublist 1 begin) delivered (window_of_boot _ _) holds 30⟩

/-- The controller stands at the center and obeys no angle. -/
structure Rests (s : Front.State F32) : Prop where
  target : s.targetAngleRad = 0.0
  commandValid : s.commandValid = false
  emergencyCenter : s.emergencyCenter = true

theorem Rests.keeps {s next : Front.State F32} (rests : Rests s) (keeps : Front.Keeps s next) : Rests next := by
  rcases keeps.steering with ⟨-, command, emergency, target⟩ | ⟨-, command, emergency, target⟩
  · exact ⟨target, command, emergency⟩
  · exact ⟨target.trans rests.target, command.trans rests.commandValid, emergency.trans rests.emergencyCenter⟩

/-- Nothing that comes between two packets moves a controller that rests. -/
theorem rests_between {packet : Memory} (between : List Front.Between) {s : Front.State F32} (rests : Rests s)
    (holds : Front.held s = some (Front.sequenceOf packet)) :
    Rests ((Front.node F32).run s (between.map (Front.Between.call packet))) := by
  induction between generalizing s with
  | nil => exact rests
  | cons event rest ih =>
    cases event with
    | again nowMs =>
      rcases Front.acceptHpscPacket_cases (some packet) Front.hpscPacketSize nowMs s with
        ⟨-, same⟩ | ⟨_, located, -, -, -, fresh, -⟩
      · exact ih (rests.keeps same.keeps) (same.held_eq.trans holds)
      · cases located
        rw [Front.fresh_iff_taken, holds] at fresh
        exact absurd (fresh _ rfl) (by simp)
    | runOnce nowMs =>
      have keeps := Front.keeps_runOnce nowMs s
      exact ih (rests.keeps keeps) (keeps.held_eq.trans holds)
    | holdCurrentForMs holdMs => exact ih rests holds

/-- A session leaves the controller at the center when one of its last packets arrives, whatever the
arguments, the keys, the losses and the repetitions before it, and it stays there after. -/
theorem keyboard_session_centers {tool : Tool} {limit : F64} {count : Nat} (isTool : IsTool tool limit count) {rate : F32}
    (fits : packSingle tool.rateRadS = .ok rate) {start : SteeringState} {turns : List Turn} {closing : List Sending}
    (enough : closing.length = tool.closing.length) (went : ∀ sending ∈ closing, sending.refused = false)
    {begin after : List Sent} {last : Sent} (split : session tool start turns closing = begin ++ last :: after)
    (late : after.length < count) (short : begin.length < 2 ^ 31) {received : List Sent} (part : received.Sublist begin)
    {deliveries : List Front.Delivery} (delivered : Delivered deliveries (received.map Sent.packet))
    {s : Front.State F32} (window : Window s start.sequence (begin.length + 1)) {delivery : Front.Delivery}
    (holds : Holds delivery.packet last.packet) :
    Rests (Front.deliver s (deliveries ++ [delivery])) := by
  obtain ⟨numbered, built⟩ := session_numbered isTool start turns closing
  have emergency := session_ends isTool fits enough went split late
  rw [split] at numbered built
  have fresh := fresh_of_part numbered built part delivered short window holds
  have lastBuilt := built last (by simp)
  obtain ⟨accepted, target, command, center⟩ := taken_of_emergency lastBuilt emergency holds fresh delivery.nowMs
  rw [Front.deliver, List.flatMap_append, List.flatMap_singleton, Machine.run_append, Front.Delivery.calls,
    Machine.run_cons]
  exact rests_between delivery.between ⟨target, command, center⟩ (held_of_accepted accepted)

/-- The first packet arrives and the last, and the last once more. -/
theorem keyboard_session_centers_left :
    ∃ begin last, session (servoTool leftArgs) (servoStart leftArgs 7) leftTurns leftClosing = begin ++ [last] ∧
      Rests (Front.deliver (Front.init 0) (((begin.take 1).map Sent.packet).map deliveryOf ++
        [⟨(deliveryOf last.packet).packet, 30, [.again 40, .runOnce 300]⟩])) := by
  obtain ⟨begin, last, split, length, delivered, holds⟩ := leftSession_split
  have fits : packSingle (servoTool leftArgs).rateRadS = .ok _ := rateWithin_one.packed
  exact ⟨begin, last, split, keyboard_session_centers (.servo leftArgs) fits rfl
    (fun sending member => congrArg Sending.refused (List.eq_of_mem_replicate member)) split (by decide)
    (by rw [length]; decide) (List.take_sublist 1 begin) delivered (window_of_boot _ _) holds⟩

end SelfDriving.Bench
