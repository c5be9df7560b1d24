import Mathlib.Algebra.Order.Floor.Semifield
import SelfDriving.Front.WatchdogProofs

/-! The rate limit of the steering in true time, with floats read as exact numbers.
The time of a step is a difference of two readings of the clock, taken modulo the
word size although the clock itself starts again from zero much earlier. A step over
that point therefore has no limit: the angle jumps to its target. -/
namespace SelfDriving.Front

/-- The clock of the exact reading. -/
def exactClock (ticks : Nat) : UInt32 := nowMs (100000000.0 : ℚ) (UInt32.ofNat ticks)

/-- The call of an event on any clock. -/
def Event.callBy (clock : Nat → UInt32) (event : Event) : Call :=
  match event.request with
  | .packet payload length => .acceptHpscPacket payload length (clock event.ticks)
  | .frame frame length => .acceptEthernetFrame frame length (clock event.ticks)
  | .control => .runOnce (clock event.ticks)
  | .hold holdMs => .holdCurrentForMs holdMs

/-- The node in true time, computing exactly. -/
def exactNode : Machine (State ℚ) Event Reply where
  step s event := (node ℚ).step s (event.callBy exactClock)

/-- The clock counts whole milliseconds of the timer's lower word. -/
theorem exactClock_toNat (ticks : Nat) : (exactClock ticks).toNat = ticks % wrapTicks / ticksPerMs := by
  have word : (UInt32.ofNat ticks).toNat = ticks % wrapTicks := UInt32.toNat_ofNat'
  have quotient : ((UInt32.ofNat ticks).toNat : ℚ) * 1000.0 / 100000000.0 =
      ((ticks % wrapTicks : Nat) : ℚ) / (ticksPerMs : Nat) := by
    rw [word, ticksPerMs]
    norm_num
    ring
  have fits : ticks % wrapTicks / ticksPerMs < 2 ^ 32 :=
    (Nat.div_le_self _ _).trans_lt (Nat.mod_lt _ (by decide))
  change (UInt32.ofNat (min ⌊((UInt32.ofNat ticks).toNat : ℚ) * 1000.0 / 100000000.0⌋₊ (2 ^ 32 - 1))).toNat = _
  rw [quotient, Nat.floor_div_eq_div, UInt32.toNat_ofNat', min_eq_left (by omega), Nat.mod_eq_of_lt fits]

/-- The time of a step as the node sees it: right within a period of the timer, and
close to the word size when the clock has started again in between. -/
theorem exactClock_sub {first second : Nat} (later : first ≤ second) (near : second < first + 40000 * ticksPerMs) :
    (first / wrapTicks = second / wrapTicks ∧
      (exactClock second - exactClock first).toNat * ticksPerMs < second - first + ticksPerMs) ∨
    (first / wrapTicks ≠ second / wrapTicks ∧ 2 ^ 32 - 42950 ≤ (exactClock second - exactClock first).toNat) := by
  have difference := UInt32.toNat_sub (exactClock second) (exactClock first)
  rw [exactClock_toNat, exactClock_toNat] at difference
  rw [difference]
  simp only [wrapTicks, ticksPerMs] at *
  have former := Nat.div_add_mod first (2 ^ 32)
  have latter := Nat.div_add_mod second (2 ^ 32)
  have bound := Nat.mod_lt second (by decide : 0 < 2 ^ 32)
  by_cases same : first / 2 ^ 32 = second / 2 ^ 32
  · rw [same] at former
    have ordered : first % 2 ^ 32 ≤ second % 2 ^ 32 := by omega
    have readings := Nat.div_le_div_right (c := 100000) ordered
    refine .inl ⟨same, ?_⟩
    omega
  · -- The clock starts again once between the two readings.
    have next : second / 2 ^ 32 = first / 2 ^ 32 + 1 := by omega
    rw [next] at latter
    have restarted : second % 2 ^ 32 + 100000 ≤ first % 2 ^ 32 := by omega
    refine .inr ⟨same, ?_⟩
    omega

/-! ### One step -/

theorem steeringMaxAbsRad_eq : (steeringMaxAbsRad : ℚ) = 1 / 2 := by
  unfold steeringMaxAbsRad
  norm_num

theorem clampFloat_bounds (value : ℚ) {low high : ℚ} (ordered : low ≤ high) :
    low ≤ clampFloat value low high ∧ clampFloat value low high ≤ high := by
  unfold clampFloat
  split
  · exact ⟨le_rfl, ordered⟩
  split
  · exact ⟨ordered, le_rfl⟩
  · exact ⟨by linarith, by linarith⟩

/-- What every reachable state keeps of the angles and the rate. -/
structure Limited (s : State ℚ) : Prop where
  applied : |s.appliedAngleRad| ≤ 1 / 2
  target : |s.targetAngleRad| ≤ 1 / 2
  rate : 1 / 20 ≤ s.maxRateRadS

instance (nowMs : UInt32) (s : State ℚ) : Decidable (Alive nowMs s) := inferInstanceAs (Decidable (_ ∧ _))

/-- The target that a control cycle goes for: the center when the last packet is stale. -/
def pendingTarget (nowMs : UInt32) (s : State ℚ) : ℚ := if Alive nowMs s then s.targetAngleRad else 0

theorem Limited.pendingTarget {s : State ℚ} (limited : Limited s) (nowMs : UInt32) :
    |pendingTarget nowMs s| ≤ 1 / 2 := by
  unfold Front.pendingTarget
  split
  · exact limited.target
  · norm_num

/-- The limit of one step as the node computes it. -/
def stepLimit (nowMs : UInt32) (s : State ℚ) : ℚ :=
  max (s.maxRateRadS * ((nowMs - s.lastApplyMs).toNat / 1000)) 0.001

theorem watchdog_eq (nowMs : UInt32) (s : State ℚ) :
    (watchdog nowMs s).targetAngleRad = pendingTarget nowMs s ∧
      (watchdog nowMs s).appliedAngleRad = s.appliedAngleRad ∧
      (watchdog nowMs s).maxRateRadS = s.maxRateRadS ∧ (watchdog nowMs s).lastApplyMs = s.lastApplyMs := by
  rcases watchdog_cases nowMs s with ⟨alive, same⟩ | ⟨dead, trips⟩
  · rw [same, pendingTarget, if_pos alive]
    exact ⟨rfl, rfl, rfl, rfl⟩
  · rw [trips, pendingTarget, if_neg dead]
    exact ⟨by norm_num, rfl, rfl, rfl⟩

/-- A move by a limited error, between the stops. -/
theorem limited_move {applied target limit : ℚ} (here : |applied| ≤ 1 / 2) (there : |target| ≤ 1 / 2)
    (positive : 0 < limit) :
    let error := target - applied
    let limitedError := if error > limit then limit else if error < -limit then -limit else error
    let moved := clampFloat (applied + limitedError) (-(1 / 2)) (1 / 2)
    |moved - applied| ≤ limit ∧ (|error| ≤ limit → moved = target) := by
  intro error limitedError moved
  rw [abs_le] at here there
  have bounded : -limit ≤ limitedError ∧ limitedError ≤ limit := by
    simp only [limitedError]
    split_ifs <;> constructor <;> linarith
  constructor
  · simp only [moved, clampFloat]
    rw [abs_le]
    split_ifs <;> constructor <;> linarith
  · intro near
    rw [abs_le] at near
    have whole : limitedError = error := by
      simp only [limitedError]
      rw [if_neg (by linarith), if_neg (by linarith)]
    simp only [moved, whole, error, clampFloat]
    rw [if_neg (by linarith), if_neg (by linarith)]
    ring

theorem stepLimit_pos (nowMs : UInt32) (s : State ℚ) : 0 < stepLimit nowMs s := lt_max_of_lt_right (by norm_num)

/-- The angle after one control cycle. -/
theorem runOnce_moved (nowMs : UInt32) (s : State ℚ) :
    (runOnce nowMs s).1.appliedAngleRad =
      clampFloat (s.appliedAngleRad +
        (if pendingTarget nowMs s - s.appliedAngleRad > stepLimit nowMs s then stepLimit nowMs s
        else if pendingTarget nowMs s - s.appliedAngleRad < -stepLimit nowMs s then -stepLimit nowMs s
        else pendingTarget nowMs s - s.appliedAngleRad)) (-(1 / 2)) (1 / 2) := by
  obtain ⟨target, applied, rate, lastApplyMs⟩ := watchdog_eq nowMs s
  have computed : (if s.maxRateRadS * ((nowMs - s.lastApplyMs).toNat / 1000.0) < 0.001 then (0.001 : ℚ)
      else s.maxRateRadS * ((nowMs - s.lastApplyMs).toNat / 1000.0)) = stepLimit nowMs s := by
    rw [stepLimit, max_def_lt, show (1000.0 : ℚ) = 1000 by norm_num]
  simp only [runOnce, slew, target, applied, rate, lastApplyMs]
  rw [← steeringMaxAbsRad_eq, ← computed]
  rfl

/-- One control cycle moves the angle by the limit of the step at most, and right to
its target when that is no further away. -/
theorem runOnce_applied {s : State ℚ} (limited : Limited s) (nowMs : UInt32) :
    |(runOnce nowMs s).1.appliedAngleRad - s.appliedAngleRad| ≤ stepLimit nowMs s ∧
      (|pendingTarget nowMs s - s.appliedAngleRad| ≤ stepLimit nowMs s →
        (runOnce nowMs s).1.appliedAngleRad = pendingTarget nowMs s) := by
  rw [runOnce_moved]
  exact limited_move limited.applied (limited.pendingTarget nowMs) (stepLimit_pos nowMs s)

/-! ### Runs -/

/-- Away from control cycles a run keeps the angle and the time of the last cycle. -/
structure Held (s next : State ℚ) : Prop where
  applied : next.appliedAngleRad = s.appliedAngleRad
  lastApplyMs : next.lastApplyMs = s.lastApplyMs

theorem limited_acceptTarget {s : State ℚ} (applied : |s.appliedAngleRad| ≤ 1 / 2) (sequence : UInt32)
    (angleRad maxRateRadS : ℚ) (commandValid emergencyCenter : Bool) (nowMs : UInt32) :
    Limited (acceptTarget sequence angleRad maxRateRadS commandValid emergencyCenter nowMs s) := by
  refine ⟨applied, ?_, ?_⟩
  · simp only [acceptTarget]
    split
    · rw [abs_le, steeringMaxAbsRad_eq]
      exact clampFloat_bounds _ (by norm_num)
    · norm_num
  · have bounds := clampFloat_bounds maxRateRadS (show (0.05 : ℚ) ≤ 10.0 by norm_num)
    exact (show (1 / 20 : ℚ) = 0.05 by norm_num) ▸ bounds.1

def Call.isControl : Call → Bool
  | .runOnce _ => true
  | _ => false

/-- A call that is no control cycle. -/
theorem held_of_call {call : Call} (delivery : call.isControl = false) (s : State ℚ) :
    Held s ((node ℚ).next s call) ∧ (Limited s → Limited ((node ℚ).next s call)) := by
  rcases call_cases s call with ⟨-, -, same | ⟨nowMs, rfl⟩⟩ | ⟨packet, start, -, -, -, -, same, takes⟩
  · rw [same]
    exact ⟨⟨rfl, rfl⟩, fun limited => ⟨limited.applied, limited.target, limited.rate⟩⟩
  · cases delivery
  · have applied : start.appliedAngleRad = s.appliedAngleRad := by rw [same]
    have lastApplyMs : start.lastApplyMs = s.lastApplyMs := by rw [same]
    have bounded (limited : Limited s) : |start.appliedAngleRad| ≤ 1 / 2 := by
      rw [applied]
      exact limited.applied
    rcases takes with ⟨-, taken⟩ | ⟨-, emergency, taken⟩
    · rw [taken]
      exact ⟨⟨applied, lastApplyMs⟩, fun limited => limited_acceptTarget (bounded limited) ..⟩
    · rw [taken]
      exact ⟨⟨applied, lastApplyMs⟩, fun limited => limited_acceptTarget (bounded limited) ..⟩

/-- An event that is no control cycle. -/
theorem held_of_delivery {event : Event} (delivery : event.request ≠ .control) (s : State ℚ) :
    Held s (exactNode.next s event) := by
  have other : (event.callBy exactClock).isControl = false := by
    obtain ⟨ticks, request⟩ := event
    cases request with
    | control => exact absurd rfl delivery
    | packet payload length => rfl
    | frame frame length => rfl
    | hold holdMs => rfl
  exact (held_of_call other s).1

/-- A control cycle keeps the bounds. -/
theorem limited_runOnce {s : State ℚ} (limited : Limited s) (nowMs : UInt32) : Limited (runOnce nowMs s).1 := by
  obtain ⟨target, applied, rate, -⟩ := watchdog_eq nowMs s
  refine ⟨?_, ?_, ?_⟩
  · rw [abs_le]
    simp only [runOnce, slew, steeringMaxAbsRad_eq]
    exact clampFloat_bounds _ (by norm_num)
  · change |(watchdog nowMs s).targetAngleRad| ≤ 1 / 2
    rw [target]
    exact limited.pendingTarget nowMs
  · change 1 / 20 ≤ (watchdog nowMs s).maxRateRadS
    rw [rate]
    exact limited.rate

theorem limited_next {s : State ℚ} (limited : Limited s) (call : Call) : Limited ((node ℚ).next s call) := by
  cases call with
  | acceptHpscPacket payload length nowMs => exact (held_of_call rfl s).2 limited
  | acceptEthernetFrame frame length nowMs => exact (held_of_call rfl s).2 limited
  | runOnce nowMs => exact limited_runOnce limited nowMs
  | holdCurrentForMs holdMs => exact (held_of_call rfl s).2 limited

theorem limited_init (bootMs : UInt32) : Limited (init bootMs) := by
  refine ⟨?_, ?_, ?_⟩
  · change |(0.0 : ℚ)| ≤ 1 / 2
    norm_num
  · change |(0.0 : ℚ)| ≤ 1 / 2
    norm_num
  · change 1 / 20 ≤ (1.00 : ℚ)
    norm_num

theorem limited_run (bootMs : UInt32) (events : List Event) : Limited (exactNode.run (init bootMs) events) :=
  exactNode.run_invariant Limited (fun _ event limited => limited_next limited (event.callBy exactClock))
    (limited_init bootMs) events

theorem held_run {events : List Event} (deliveries : ∀ event ∈ events, event.request ≠ .control) (s : State ℚ) :
    Held s (exactNode.run s events) := by
  induction events generalizing s with
  | nil => exact ⟨rfl, rfl⟩
  | cons event rest ih =>
    obtain ⟨applied, lastApplyMs⟩ := held_of_delivery (deliveries event List.mem_cons_self) s
    obtain ⟨applied', lastApplyMs'⟩ :=
      ih (fun later member => deliveries later (List.mem_cons_of_mem _ member)) (exactNode.next s event)
    exact ⟨applied'.trans applied, lastApplyMs'.trans lastApplyMs⟩

/-- The most that the angle may change between two control cycles: the rate in force
for the true time between them and one millisecond. -/
def slewBound (s : State ℚ) (first second : Nat) : ℚ :=
  max 0.001 (s.maxRateRadS * (((second - first : Nat) : ℚ) / (1000 * ticksPerMs : Nat) + 0.001))

/-- Between two control cycles less than 40 s apart the angle changes by no more than
the rate allows, unless the clock starts again in between while the target is out of
reach: then the angle jumps to it. -/
theorem slew_within_rate_iff (bootTicks first second : Nat) (events between : List Event)
    (deliveries : ∀ event ∈ between, event.request ≠ .control) (later : first ≤ second)
    (near : second < first + 40000 * ticksPerMs) :
    let before := exactNode.run (init (exactClock bootTicks)) (events ++ [⟨first, .control⟩])
    let s := exactNode.run before between
    |(exactNode.next s ⟨second, .control⟩).appliedAngleRad - before.appliedAngleRad| ≤ slewBound s first second ↔
      first / wrapTicks = second / wrapTicks ∨
        |pendingTarget (exactClock second) s - before.appliedAngleRad| ≤ slewBound s first second := by
  intro before s
  have limited : Limited s := by
    have whole := limited_run (exactClock bootTicks) (events ++ [⟨first, .control⟩] ++ between)
    rwa [Machine.run_append] at whole
  obtain ⟨applied, lastApplyMs⟩ := held_run deliveries before
  have stamped : before.lastApplyMs = exactClock first := by
    simp only [before, Machine.run_concat]
    rfl
  change s.appliedAngleRad = before.appliedAngleRad at applied
  change s.lastApplyMs = before.lastApplyMs at lastApplyMs
  obtain ⟨within, reaches⟩ := runOnce_applied limited (exactClock second)
  rw [← applied]
  change |(runOnce (exactClock second) s).1.appliedAngleRad - s.appliedAngleRad| ≤ _ ↔ _
  have rate := limited.rate
  have age : s.lastApplyMs = exactClock first := lastApplyMs.trans stamped
  unfold stepLimit at within reaches
  rw [age] at within reaches
  rcases exactClock_sub later near with ⟨same, close⟩ | ⟨apart, large⟩
  · refine iff_of_true (within.trans ?_) (.inl same)
    have time : ((exactClock second - exactClock first).toNat : ℚ) * 100000 ≤ ((second - first : Nat) : ℚ) + 100000 := by
      exact_mod_cast close.le
    have slower : ((exactClock second - exactClock first).toNat : ℚ) / 1000 ≤
        ((second - first : Nat) : ℚ) / (1000 * ticksPerMs : Nat) + 0.001 := by
      rw [ticksPerMs]
      norm_num
      linarith
    rw [slewBound, max_comm]
    exact max_le_max le_rfl (mul_le_mul_of_nonneg_left slower (by linarith))
  · -- The step that the node takes for its own is longer than the whole range.
    have forever : (1 : ℚ) ≤ s.maxRateRadS * ((exactClock second - exactClock first).toNat / 1000) := by
      have huge : (20000 : ℚ) ≤ (exactClock second - exactClock first).toNat := by
        exact_mod_cast (by omega : 20000 ≤ (exactClock second - exactClock first).toNat)
      nlinarith
    have range : |pendingTarget (exactClock second) s - s.appliedAngleRad| ≤ 1 :=
      (abs_sub _ _).trans (by linarith [limited.applied, limited.pendingTarget (exactClock second)])
    rw [reaches (range.trans (forever.trans (le_max_left _ _)))]
    exact (or_iff_right apart).symm

theorem slew_within_rate_in_period :
    let before := exactNode.run (init (exactClock 0)) ([] ++ [⟨1000000, .control⟩])
    let s := exactNode.run before [⟨1500000, .packet (some quarterPacket) 40⟩]
    |(exactNode.next s ⟨2000000, .control⟩).appliedAngleRad - before.appliedAngleRad| ≤ slewBound s 1000000 2000000 :=
  (slew_within_rate_iff 0 1000000 2000000 [] [⟨1500000, .packet (some quarterPacket) 40⟩] (by simp) (by decide)
    (by decide)).mpr (.inl rfl)

/-- A packet just after the clock has started again. -/
theorem restarted_clock_jumps :
    let before := exactNode.run (init (exactClock 0)) [⟨2 ^ 32 - 1000000, .control⟩]
    let s := exactNode.run before [⟨2 ^ 32 + 100000, .packet (some quarterPacket) 40⟩]
    ¬ |(exactNode.next s ⟨2 ^ 32 + 200000, .control⟩).appliedAngleRad - before.appliedAngleRad| ≤
      slewBound s (2 ^ 32 - 1000000) (2 ^ 32 + 200000) := by
  decide +kernel

end SelfDriving.Front
