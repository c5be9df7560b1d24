import SelfDriving.Foundations.Approach
import SelfDriving.Front.SlewProofs

/-! How the steering comes to its target, with floats read as exact numbers. Between two
accepted packets every control cycle brings the angle nearer by a thousandth at least or
to the target itself, so a tripped node is back at the center after 500 cycles, whatever
the clock reads. -/
namespace SelfDriving.Front

/-- How often a control cycle is run. -/
def controlCycles (calls : List Call) : Nat := calls.countP Call.isControl

/-- The watchdog has been the last to write these marks: an accepted packet sets the first. -/
structure WatchdogTripped (s : State ℚ) : Prop where
  linkValid : s.linkValid = false
  emergencyCenter : s.emergencyCenter = true

/-- No call of these accepts a packet. -/
def Quiet (s : State ℚ) (calls : List Call) : Prop := .verdict true ∉ (node ℚ).outputs s calls

/-! ### One call -/

theorem mem_uIcc_half {applied target moved : ℚ} (here : |applied| ≤ 1 / 2) (there : |target| ≤ 1 / 2)
    (between : moved ∈ Set.uIcc applied target) : clampFloat moved (-(1 / 2)) (1 / 2) = moved := by
  rw [abs_le] at here there
  obtain ⟨above, below⟩ := Set.uIcc_subset_Icc ⟨here.1, here.2⟩ ⟨there.1, there.2⟩ between
  unfold clampFloat
  rw [if_neg (not_lt.mpr above), if_neg (not_lt.mpr below)]

/-- A control cycle goes for the target that the watchdog leaves. -/
theorem runOnce_approaches {s : State ℚ} (limited : Limited s) (nowMs : UInt32) :
    Approaches 0.001 (runOnce nowMs s).1.targetAngleRad s.appliedAngleRad (runOnce nowMs s).1.appliedAngleRad := by
  have target : (runOnce nowMs s).1.targetAngleRad = pendingTarget nowMs s := (watchdog_eq nowMs s).1
  have step := Approaches.of_limited (show (0.001 : ℚ) ≤ stepLimit nowMs s from le_max_right _ _) (by norm_num)
    (pendingTarget nowMs s) s.appliedAngleRad
  rw [target, runOnce_moved, mem_uIcc_half limited.applied (limited.pendingTarget nowMs) step.between]
  exact step

/-- What a call that accepts no packet does to the angle. -/
theorem approaches_next {s : State ℚ} (limited : Limited s) {call : Call}
    (quiet : (node ℚ).output s call ≠ .verdict true) :
    Approaches (0.001 * (controlCycles [call] : ℚ)) ((node ℚ).next s call).targetAngleRad s.appliedAngleRad
      ((node ℚ).next s call).appliedAngleRad := by
  have held (delivery : call.isControl = false) :
      Approaches (0.001 * (controlCycles [call] : ℚ)) ((node ℚ).next s call).targetAngleRad s.appliedAngleRad
        ((node ℚ).next s call).appliedAngleRad := by
    have none : controlCycles [call] = 0 := List.countP_eq_zero.mpr (by simp [delivery])
    rw [none, (held_of_call delivery s).1.applied, Nat.cast_zero, mul_zero]
    exact .refl _ _
  cases call with
  | acceptHpscPacket payload length nowMs => exact held rfl
  | acceptEthernetFrame frame length nowMs => exact held rfl
  | runOnce nowMs =>
    have once : (controlCycles [.runOnce nowMs] : ℚ) = 1 := Nat.cast_one
    rw [once, mul_one]
    exact runOnce_approaches limited nowMs
  | holdCurrentForMs holdMs => exact held rfl

/-- It keeps the sequence and the receive time, too. -/
theorem keeps_next {s : State ℚ} {call : Call} (quiet : (node ℚ).output s call ≠ .verdict true) :
    Keeps s ((node ℚ).next s call) := by
  rcases step_cases s call with ⟨-, -, keeps⟩ | ⟨packet, start, -, accepted, -⟩
  · exact keeps
  · exact absurd accepted quiet

theorem Keeps.target {s next : State ℚ} (keeps : Keeps s next) :
    next.targetAngleRad = s.targetAngleRad ∨ next.targetAngleRad = 0 := by
  rcases keeps.steering with ⟨-, -, -, zero⟩ | ⟨-, -, -, same⟩
  · refine .inr (zero.trans ?_)
    norm_num
  · exact .inl same

theorem WatchdogTripped.keeps {s next : State ℚ} (tripped : WatchdogTripped s) (keeps : Keeps s next) :
    WatchdogTripped next := by
  rcases keeps.steering with ⟨link, -, emergency, -⟩ | ⟨link, -, emergency, -⟩
  · exact ⟨link, emergency⟩
  · exact ⟨link.trans tripped.linkValid, emergency.trans tripped.emergencyCenter⟩

/-! ### Runs -/

theorem Quiet.of_cons {s : State ℚ} {call : Call} {rest : List Call} (quiet : Quiet s (call :: rest)) :
    (node ℚ).output s call ≠ .verdict true ∧ Quiet ((node ℚ).next s call) rest := by
  obtain ⟨first, later⟩ := not_or.mp (mt List.mem_cons.mpr quiet)
  exact ⟨Ne.symm first, later⟩

theorem controlCycles_cons (call : Call) (rest : List Call) :
    controlCycles (call :: rest) = controlCycles [call] + controlCycles rest := by
  have split : call :: rest = [call] ++ rest := rfl
  rw [controlCycles, split, List.countP_append]
  rfl

/-- The target stays, or the watchdog sets it to zero for good. -/
theorem target_run {s : State ℚ} {calls : List Call} (quiet : Quiet s calls) :
    ((node ℚ).run s calls).targetAngleRad = s.targetAngleRad ∨ ((node ℚ).run s calls).targetAngleRad = 0 := by
  induction calls generalizing s with
  | nil => exact .inl rfl
  | cons call rest ih =>
    obtain ⟨first, later⟩ := quiet.of_cons
    rcases ih later with same | zero
    · rw [Machine.run_cons, same]
      exact (keeps_next first).target
    · exact .inr zero

theorem WatchdogTripped.run {s : State ℚ} (tripped : WatchdogTripped s) {calls : List Call} (quiet : Quiet s calls) :
    WatchdogTripped ((node ℚ).run s calls) := by
  induction calls generalizing s with
  | nil => exact tripped
  | cons call rest ih =>
    obtain ⟨first, later⟩ := quiet.of_cons
    exact ih (tripped.keeps (keeps_next first)) later

/-- While the target stays, the angle goes to it all the way. -/
theorem approaches_run {s : State ℚ} (limited : Limited s) {calls : List Call} (quiet : Quiet s calls)
    (same : ((node ℚ).run s calls).targetAngleRad = s.targetAngleRad) :
    Approaches (0.001 * (controlCycles calls : ℚ)) s.targetAngleRad s.appliedAngleRad
      ((node ℚ).run s calls).appliedAngleRad := by
  induction calls generalizing s with
  | nil =>
    have none : (controlCycles [] : ℚ) = 0 := Nat.cast_zero
    rw [none, mul_zero]
    exact .refl _ _
  | cons call rest ih =>
    obtain ⟨first, later⟩ := quiet.of_cons
    rw [Machine.run_cons] at same ⊢
    -- A target that has changed is zero, and stays zero.
    have kept : ((node ℚ).next s call).targetAngleRad = s.targetAngleRad := by
      rcases (keeps_next first).target with kept | zero
      · exact kept
      · rcases target_run later with unmoved | centered
        · exact unmoved.symm.trans same
        · rw [zero, ← same, centered]
    have step := approaches_next limited first
    have run := ih (limited_next limited call) later (same.trans kept.symm)
    rw [kept] at step run
    rw [controlCycles_cons, Nat.cast_add, mul_add]
    exact step.trans run (by positivity)

/-! ### Reachable states -/

theorem limited_calls (bootMs : UInt32) (calls : List Call) : Limited ((node ℚ).run (init bootMs) calls) :=
  (node ℚ).run_invariant Limited (fun _ call limited => limited_next limited call) (limited_init bootMs) calls

/-- The emergency mark comes with the center as target. -/
theorem emergency_target_next {s : State ℚ} (centered : s.emergencyCenter = true → s.targetAngleRad = 0) (call : Call) :
    ((node ℚ).next s call).emergencyCenter = true → ((node ℚ).next s call).targetAngleRad = 0 := by
  intro emergency
  rcases step_cases s call with ⟨-, -, keeps⟩ | ⟨packet, start, -, -, -, -, -, takes⟩
  · rcases keeps.steering with ⟨-, -, -, zero⟩ | ⟨-, -, mark, target⟩
    · rw [zero]
      norm_num
    · rw [target]
      exact centered (mark.symm.trans emergency)
  · rcases takes with ⟨-, taken⟩ | ⟨-, mark, taken⟩
    · rw [taken] at emergency
      cases emergency
    · rw [taken]
      change (0.0 : ℚ) = 0
      norm_num

theorem target_of_tripped (bootMs : UInt32) (calls : List Call)
    (tripped : WatchdogTripped ((node ℚ).run (init bootMs) calls)) :
    ((node ℚ).run (init bootMs) calls).targetAngleRad = 0 :=
  (node ℚ).run_invariant (fun s => s.emergencyCenter = true → s.targetAngleRad = 0)
    (fun _ call centered => emergency_target_next centered call) (fun emergency => absurd emergency Bool.false_ne_true)
    calls tripped.emergencyCenter

/-- From any reachable state and until a packet is accepted: each control cycle takes the angle
toward the target in force and not past it, so does a run while the target is the same, and the
target only changes to the center. Once the watchdog has tripped the angle does not grow or change
its sign, and 500 control cycles center it, at any readings of the clock. -/
theorem centering_converges (bootMs : UInt32) (calls : List Call) :
    let s := (node ℚ).run (init bootMs) calls
    (∀ nowMs, (runOnce nowMs s).1.appliedAngleRad ∈
      Set.uIcc s.appliedAngleRad (runOnce nowMs s).1.targetAngleRad) ∧
    ∀ more, Quiet s more →
      let next := (node ℚ).run s more
      (next.targetAngleRad = s.targetAngleRad ∨ next.targetAngleRad = 0) ∧
      (next.targetAngleRad = s.targetAngleRad →
        next.appliedAngleRad ∈ Set.uIcc s.appliedAngleRad s.targetAngleRad) ∧
      (WatchdogTripped s →
        WatchdogTripped next ∧ |next.appliedAngleRad| ≤ |s.appliedAngleRad| ∧
        0 ≤ next.appliedAngleRad * s.appliedAngleRad ∧
        (500 ≤ controlCycles more → next.appliedAngleRad = 0)) := by
  intro s
  have limited : Limited s := limited_calls bootMs calls
  refine ⟨fun nowMs => (runOnce_approaches limited nowMs).between, fun more quiet => ?_⟩
  intro next
  refine ⟨target_run quiet, fun same => (approaches_run limited quiet same).between, fun tripped => ?_⟩
  have target : s.targetAngleRad = 0 := target_of_tripped bootMs calls tripped
  have same : next.targetAngleRad = s.targetAngleRad :=
    (target_run quiet).elim id fun centered => centered.trans target.symm
  have approaches := approaches_run limited quiet same
  rw [target] at approaches
  obtain ⟨smaller, sign⟩ := approaches.toward_zero
  refine ⟨tripped.run quiet, smaller, sign, fun enough => approaches.arrives ?_⟩
  have cycles : (500 : ℚ) ≤ controlCycles more := by exact_mod_cast enough
  rw [sub_zero]
  linarith [limited.applied]

theorem quiet_replicate (s : State ℚ) (nowMs : UInt32) (count : Nat) :
    Quiet s (List.replicate count (.runOnce nowMs)) := by
  induction count generalizing s with
  | zero => exact List.not_mem_nil
  | succ count ih =>
    intro member
    rcases List.mem_cons.mp member with now | later
    · cases now
    · exact ih _ later

/-- A node that steers by a packet is tripped 201 ms after it; 500 control cycles in the same
millisecond center it. -/
theorem tripped_node_centers :
    let s := (node ℚ).run (init 0) [.acceptHpscPacket (some quarterPacket) 40 0, .runOnce 150, .runOnce 201]
    s.initialized = true ∧ s.linkValid = false ∧
      ((node ℚ).run s (List.replicate 500 (.runOnce 201))).appliedAngleRad = 0 := by
  intro s
  have tripped : WatchdogTripped s := ⟨by decide +kernel, by decide +kernel⟩
  have converges := (centering_converges 0 [.acceptHpscPacket (some quarterPacket) 40 0, .runOnce 150, .runOnce 201]).2
    (List.replicate 500 (.runOnce 201)) (quiet_replicate s 201 500)
  obtain ⟨-, -, -, centers⟩ := converges.2.2 tripped
  exact ⟨by decide +kernel, tripped.linkValid, centers (by decide +kernel)⟩

end SelfDriving.Front
