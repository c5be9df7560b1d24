import SelfDriving.Hpvc.RearCommandProofs

/-! What the runtime store derives: the effective flags, the reasons and the estimated
acceleration. Whatever comes in between, they are a function of what was requested last
and of the last snapshot of each controller. -/
namespace SelfDriving.Hpvc
open Ieee754 Python

/-- The fields of the state that are derived. -/
structure Derived where
  effectiveLkasActive : Bool
  effectiveLcaActive : Bool
  effectiveAccActive : Bool
  effectiveAebActive : Bool
  lkasReason : String
  lcaReason : String
  aebReason : String
  accReason : String
  accEstimateMps2 : Option F64

def derivedOf (s : RuntimeControlState) : Derived :=
  ⟨s.effectiveLkasActive, s.effectiveLcaActive, s.effectiveAccActive, s.effectiveAebActive, s.lkasReason, s.lcaReason,
    s.aebReason, s.accReason, s.accEstimateMps2⟩

/-- The fields of the state that they are derived from. -/
structure Basis where
  requestedLkasEnabled : Bool
  requestedTurnSignal : Int
  requestedLcaEnabled : Bool
  requestedAccEnabled : Bool
  requestedAebEnabled : Bool
  frontAeb : Option FrontSnapshot
  rearStatus : Option RearSnapshot

def basisOf (s : RuntimeControlState) : Basis :=
  ⟨s.requestedLkasEnabled, s.requestedTurnSignal, s.requestedLcaEnabled, s.requestedAccEnabled, s.requestedAebEnabled,
    s.frontAeb, s.rearStatus⟩

/-- What is derived from a basis, everything else as it is at the start. -/
def deriveFrom (b : Basis) : Derived :=
  derivedOf (recomputeEffective
    { storeStart.state with
      requestedLkasEnabled := b.requestedLkasEnabled
      requestedTurnSignal := b.requestedTurnSignal
      requestedLcaEnabled := b.requestedLcaEnabled
      requestedAccEnabled := b.requestedAccEnabled
      requestedAebEnabled := b.requestedAebEnabled
      frontAeb := b.frontAeb
      rearStatus := b.rearStatus })

/-! ### What was given last -/

def Change.lkas : Change → Option Bool
  | .requestedLkasEnabled enabled => some enabled
  | _ => none

def Change.lca : Change → Option Bool
  | .requestedLcaEnabled enabled => some enabled
  | _ => none

def Change.acc : Change → Option Bool
  | .requestedAccEnabled enabled => some enabled
  | _ => none

def Change.aeb : Change → Option Bool
  | .requestedAebEnabled enabled => some enabled
  | _ => none

def Change.turnSignal : Change → Option Int
  | .requestedTurnSignal turnSignal => some turnSignal
  | _ => none

/-- What an event gives to one requested field. -/
def given {β : Type} (field : Change → Option β) : StoreEvent → List β
  | .update changes _ _ => changes.filterMap field
  | _ => []

/-- The snapshot of FRONT that an event brings. -/
def frontGiven : StoreEvent → List FrontSnapshot
  | .front data => (decodeFrontAeb data).toList
  | _ => []

/-- The snapshot of REAR that an event brings. -/
def rearGiven : StoreEvent → List RearSnapshot
  | .rear data => (decodeRearStatus data).toList
  | _ => []

/-- What each field of the basis was given last. -/
def lastGiven (events : List StoreEvent) : Basis where
  requestedLkasEnabled := (events.flatMap (given Change.lkas)).getLastD false
  requestedTurnSignal := (events.flatMap (given Change.turnSignal)).getLastD turnSignalOff
  requestedLcaEnabled := (events.flatMap (given Change.lca)).getLastD false
  requestedAccEnabled := (events.flatMap (given Change.acc)).getLastD false
  requestedAebEnabled := (events.flatMap (given Change.aeb)).getLastD false
  frontAeb := (events.flatMap frontGiven).getLast?
  rearStatus := (events.flatMap rearGiven).getLast?

/-- An update, or a datagram that decodes. -/
def Recomputes : StoreEvent → Prop
  | .update .. => True
  | .publish .. => False
  | .front data => (decodeFrontAeb data).isSome
  | .rear data => (decodeRearStatus data).isSome

theorem publishRuntimeControl_state (store : RuntimeControlStore) (clock : Clock) (sends : Sends) :
    (publishRuntimeControl store clock sends).1.state = store.state := by
  unfold publishRuntimeControl
  dsimp only
  repeat' split
  all_goals rfl

theorem derivedOf_recomputeEffective (s : RuntimeControlState) :
    derivedOf (recomputeEffective s) = deriveFrom (basisOf s) := rfl

theorem basisOf_recomputeEffective (s : RuntimeControlState) : basisOf (recomputeEffective s) = basisOf s := rfl

/-- What one event makes of the state. -/
theorem next_state (store : RuntimeControlStore) (event : StoreEvent) :
    (∃ changes clock sends, event = .update changes clock sends ∧
      (runtimeStore.next store event).state = recomputeEffective (changes.foldl setField store.state)) ∨
    (∃ data snapshot, event = .front data ∧ decodeFrontAeb data = some snapshot ∧
      (runtimeStore.next store event).state = recomputeEffective { store.state with frontAeb := some snapshot }) ∨
    (∃ data snapshot, event = .rear data ∧ decodeRearStatus data = some snapshot ∧
      (runtimeStore.next store event).state = recomputeEffective { store.state with rearStatus := some snapshot }) ∨
    (¬ Recomputes event ∧ frontGiven event = [] ∧ rearGiven event = [] ∧
      (∀ β : Type, ∀ field : Change → Option β, given field event = []) ∧
      (runtimeStore.next store event).state = store.state) := by
  cases event with
  | update changes clock sends => exact .inl ⟨changes, clock, sends, rfl, publishRuntimeControl_state ..⟩
  | publish clock sends =>
    exact .inr (.inr (.inr ⟨id, rfl, rfl, fun _ _ => rfl, publishRuntimeControl_state ..⟩))
  | front data =>
    have next : (runtimeStore.next store (.front data)).state = receiveFront store.state data := rfl
    cases decoded : decodeFrontAeb data with
    | some snapshot =>
      refine .inr (.inl ⟨data, snapshot, rfl, decoded, ?_⟩)
      rw [next, receiveFront, decoded]
      rfl
    | none =>
      refine .inr (.inr (.inr ⟨?_, ?_, rfl, fun _ _ => rfl, ?_⟩))
      · simp [Recomputes, decoded]
      · simp [frontGiven, decoded]
      · rw [next, receiveFront, decoded]
  | rear data =>
    have next : (runtimeStore.next store (.rear data)).state = receiveRear store.state data := rfl
    cases decoded : decodeRearStatus data with
    | some snapshot =>
      refine .inr (.inr (.inl ⟨data, snapshot, rfl, decoded, ?_⟩))
      rw [next, receiveRear, decoded]
      rfl
    | none =>
      refine .inr (.inr (.inr ⟨?_, rfl, ?_, fun _ _ => rfl, ?_⟩))
      · simp [Recomputes, decoded]
      · simp [rearGiven, decoded]
      · rw [next, receiveRear, decoded]

theorem setFields_last {β : Type} {field : Change → Option β} {part : RuntimeControlState → β}
    (one : ∀ s change, part (setField s change) = (field change).getD (part s)) (changes : List Change)
    (s : RuntimeControlState) : part (changes.foldl setField s) = (changes.filterMap field).getLastD (part s) := by
  induction changes generalizing s with
  | nil => rfl
  | cons change rest ih =>
    rw [List.foldl_cons, ih, one, List.filterMap_cons]
    cases field change with
    | none => rfl
    | some value => rw [List.getLastD_cons, Option.getD_some]

/-- A requested field holds what it was given last. -/
theorem last_request {β : Type} (field : Change → Option β) (part : RuntimeControlState → β)
    (one : ∀ s change, part (setField s change) = (field change).getD (part s))
    (kept : ∀ s front rear, part (recomputeEffective { s with frontAeb := front, rearStatus := rear }) = part s)
    (events : List StoreEvent) :
    part (runtimeStore.run storeStart events).state =
      (events.flatMap (given field)).getLastD (part storeStart.state) := by
  apply runtimeStore.run_last_write (fun store => part store.state)
  intro store event
  rcases next_state store event with ⟨changes, clock, sends, rfl, next⟩ | ⟨data, snapshot, rfl, -, next⟩ |
    ⟨data, snapshot, rfl, -, next⟩ | ⟨-, -, -, none, next⟩
  · rw [next]
    exact (kept _ (changes.foldl setField store.state).frontAeb _).trans (setFields_last one changes store.state)
  · rw [next]
    exact kept store.state _ store.state.rearStatus
  · rw [next]
    exact kept store.state store.state.frontAeb _
  · rw [next, none]
    rfl

theorem setFields_snapshots (changes : List Change) (s : RuntimeControlState) :
    (changes.foldl setField s).frontAeb = s.frontAeb ∧ (changes.foldl setField s).rearStatus = s.rearStatus := by
  induction changes generalizing s with
  | nil => exact ⟨rfl, rfl⟩
  | cons change rest ih =>
    obtain ⟨front, rear⟩ := ih (setField s change)
    rw [List.foldl_cons, front, rear]
    cases change <;> exact ⟨rfl, rfl⟩

/-- A snapshot in the state is the last one that was brought. -/
theorem last_brought {β : Type} (part : RuntimeControlState → Option β) (brought : StoreEvent → List β)
    (boot : part storeStart.state = none)
    (step : ∀ store event, part (runtimeStore.next store event).state =
      ((brought event).map some).getLastD (part store.state)) (events : List StoreEvent) :
    part (runtimeStore.run storeStart events).state = (events.flatMap brought).getLast? := by
  have last := runtimeStore.run_last_write (fun store => part store.state) _ step storeStart events
  rw [last, boot, ← List.map_flatMap, List.getLastD_eq_getLast?, List.getLast?_map]
  cases (events.flatMap brought).getLast? with
  | none => rfl
  | some snapshot => rfl

theorem last_front (events : List StoreEvent) :
    (runtimeStore.run storeStart events).state.frontAeb = (events.flatMap frontGiven).getLast? := by
  apply last_brought (·.frontAeb) frontGiven rfl
  intro store event
  rcases next_state store event with ⟨changes, clock, sends, rfl, next⟩ | ⟨data, snapshot, rfl, decoded, next⟩ |
    ⟨data, snapshot, rfl, -, next⟩ | ⟨-, none, -, -, next⟩
  · rw [next]
    exact (setFields_snapshots changes store.state).1
  · rw [next, frontGiven, decoded]
    rfl
  · rw [next]
    rfl
  · rw [next, none]
    rfl

theorem last_rear (events : List StoreEvent) :
    (runtimeStore.run storeStart events).state.rearStatus = (events.flatMap rearGiven).getLast? := by
  apply last_brought (·.rearStatus) rearGiven rfl
  intro store event
  rcases next_state store event with ⟨changes, clock, sends, rfl, next⟩ | ⟨data, snapshot, rfl, -, next⟩ |
    ⟨data, snapshot, rfl, decoded, next⟩ | ⟨-, -, none, -, next⟩
  · rw [next]
    exact (setFields_snapshots changes store.state).2
  · rw [next]
    rfl
  · rw [next, rearGiven, decoded]
    rfl
  · rw [next, none]
    rfl

/-- The fields that the derived ones depend on are what they were given last. -/
theorem basisOf_run (events : List StoreEvent) :
    basisOf (runtimeStore.run storeStart events).state = lastGiven events := by
  have lkas := last_request Change.lkas (·.requestedLkasEnabled)
    (fun s change => by cases change <;> rfl) (fun _ _ _ => rfl) events
  have turnSignal := last_request Change.turnSignal (·.requestedTurnSignal)
    (fun s change => by cases change <;> rfl) (fun _ _ _ => rfl) events
  have lca := last_request Change.lca (·.requestedLcaEnabled)
    (fun s change => by cases change <;> rfl) (fun _ _ _ => rfl) events
  have acc := last_request Change.acc (·.requestedAccEnabled)
    (fun s change => by cases change <;> rfl) (fun _ _ _ => rfl) events
  have aeb := last_request Change.aeb (·.requestedAebEnabled)
    (fun s change => by cases change <;> rfl) (fun _ _ _ => rfl) events
  rw [basisOf, lkas, turnSignal, lca, acc, aeb, last_front, last_rear]
  rfl

/-! ### The derived fields -/

/-- The derived fields agree with the rest of the state. -/
def Fresh (s : RuntimeControlState) : Prop := derivedOf s = deriveFrom (basisOf s)

theorem fresh_recomputeEffective (s : RuntimeControlState) : Fresh (recomputeEffective s) := by
  rw [Fresh, basisOf_recomputeEffective, derivedOf_recomputeEffective]

/-- One update or snapshot is enough, and nothing that follows undoes it. -/
theorem fresh_run {events : List StoreEvent} (recomputed : ∃ event ∈ events, Recomputes event) :
    Fresh (runtimeStore.run storeStart events).state := by
  induction events using List.reverseRecOn with
  | nil =>
    obtain ⟨event, member, -⟩ := recomputed
    cases member
  | append_singleton events event ih =>
    rw [Machine.run_concat]
    rcases next_state (runtimeStore.run storeStart events) event with ⟨changes, clock, sends, -, next⟩ |
      ⟨data, snapshot, -, -, next⟩ | ⟨data, snapshot, -, -, next⟩ | ⟨silent, -, -, -, next⟩
    · rw [next]
      exact fresh_recomputeEffective _
    · rw [next]
      exact fresh_recomputeEffective _
    · rw [next]
      exact fresh_recomputeEffective _
    · rw [next]
      apply ih
      obtain ⟨other, member, recomputes⟩ := recomputed
      rcases List.mem_append.mp member with earlier | last
      · exact ⟨other, earlier, recomputes⟩
      · rw [List.mem_singleton.mp last] at recomputes
        exact absurd recomputes silent

theorem deriveFrom_lca {b : Basis} (active : (deriveFrom b).effectiveLcaActive = true) :
    (deriveFrom b).effectiveLkasActive = true ∧
      (b.requestedTurnSignal = turnSignalLeft ∨ b.requestedTurnSignal = turnSignalRight) := by
  have conditions : (b.requestedLkasEnabled && b.requestedLcaEnabled &&
    (b.requestedTurnSignal = turnSignalLeft || b.requestedTurnSignal = turnSignalRight)) = true := active
  simp only [Bool.and_eq_true, Bool.or_eq_true, decide_eq_true_eq] at conditions
  exact ⟨conditions.1.1, conditions.2⟩

/-- A number clipped from both sides lies between them, whatever it was. -/
theorem clip_within {low high : F64} (ordered : low ≤ high) (x : F64) :
    low ≤ Python.max low (Python.min high x) ∧ Python.max low (Python.min high x) ≤ high := by
  refine ⟨le_max_left ordered.1, ?_⟩
  unfold Python.max
  split
  · exact min_le_left ordered.2.1
  · exact ordered

/-- The estimate is clipped last. -/
theorem gapAcceleration_clipped {α : Type} [Floating α] (requestedAebEnabled requestedAccEnabled : Bool)
    (tofM vehicleSpeed : α) :
    ∃ acc, (gapAcceleration requestedAebEnabled requestedAccEnabled tofM vehicleSpeed).1 =
      Python.max (-(2.50 : α)) (Python.min (1.50 : α) acc) := ⟨_, rfl⟩

/-- The limits hold whatever the gap comes to, even no number. -/
theorem gapAcceleration_within (requestedAebEnabled requestedAccEnabled : Bool) (tofM vehicleSpeed : F64) :
    -(2.50 : F64) ≤ (gapAcceleration requestedAebEnabled requestedAccEnabled tofM vehicleSpeed).1 ∧
      (gapAcceleration requestedAebEnabled requestedAccEnabled tofM vehicleSpeed).1 ≤ (1.50 : F64) := by
  obtain ⟨acc, clipped⟩ := gapAcceleration_clipped requestedAebEnabled requestedAccEnabled tofM vehicleSpeed
  rw [clipped]
  exact clip_within (by decide +kernel) acc

theorem estimateAcceleration_within {s : RuntimeControlState} {front : Option FrontSnapshot}
    {rear : Option RearSnapshot} {acceleration : F64}
    (estimated : (estimateAcceleration s front rear).1 = some acceleration) :
    -(2.50 : F64) ≤ acceleration ∧ acceleration ≤ (1.50 : F64) := by
  unfold estimateAcceleration at estimated
  split at estimated
  · rename_i front rear
    split at estimated
    · cases estimated
    split at estimated
    · cases estimated
    · rename_i vehicleSpeed _
      split at estimated
      · cases estimated
      · have within := gapAcceleration_within s.requestedAebEnabled s.requestedAccEnabled front.tofM vehicleSpeed
        generalize gapAcceleration s.requestedAebEnabled s.requestedAccEnabled front.tofM vehicleSpeed = estimate at *
        rwa [← Option.some.inj estimated]
  · cases estimated

/-- Whatever the order in which requests and snapshots come, once there was one the derived
fields are a function of what was given last; lane change needs lane keeping and a signal,
and the estimated acceleration is within its limits. -/
theorem derived_of_last_given (events : List StoreEvent) (recomputed : ∃ event ∈ events, Recomputes event) :
    let s := (runtimeStore.run storeStart events).state
    basisOf s = lastGiven events ∧ derivedOf s = deriveFrom (basisOf s) ∧
    (∀ events', (∃ event ∈ events', Recomputes event) → lastGiven events' = lastGiven events →
      derivedOf (runtimeStore.run storeStart events').state = derivedOf s) ∧
    (s.effectiveLcaActive = true → s.effectiveLkasActive = true ∧
      (s.requestedTurnSignal = turnSignalLeft ∨ s.requestedTurnSignal = turnSignalRight)) ∧
    ∀ acceleration, s.accEstimateMps2 = some acceleration →
      -(2.50 : F64) ≤ acceleration ∧ acceleration ≤ (1.50 : F64) := by
  intro s
  have fresh : Fresh s := fresh_run recomputed
  refine ⟨basisOf_run events, fresh, ?_, ?_, ?_⟩
  · intro events' recomputed' same
    have fresh' : Fresh (runtimeStore.run storeStart events').state := fresh_run recomputed'
    rw [fresh', fresh, basisOf_run, same, ← basisOf_run]
  · intro active
    have derived : (deriveFrom (basisOf s)).effectiveLcaActive = true := by rwa [← fresh]
    have conditions := deriveFrom_lca derived
    rwa [← fresh] at conditions
  · intro acceleration estimated
    have derived : (deriveFrom (basisOf s)).accEstimateMps2 = some acceleration := by rwa [← fresh]
    exact estimateAcceleration_within derived

/-- A lane change to the left with both controllers reporting. -/
def laneChangeEvents : List StoreEvent :=
  [.front (frontAebMagic ++ [1, 0, 0, 0, 0, 0, 0, 0, 0, 0, 0, 0, 0xE8, 3, 0, 0, 0, 0]),
    .rear (List.replicate 16 0),
    .update [.requestedLkasEnabled true, .requestedLcaEnabled true, .requestedTurnSignal turnSignalLeft] ⟨0, 0⟩
      ⟨true, true, true⟩]

theorem lane_change_derived :
    let s := (runtimeStore.run storeStart laneChangeEvents).state
    derivedOf (runtimeStore.run storeStart (laneChangeEvents ++ [.publish ⟨1, 1⟩ ⟨true, true, true⟩])).state =
        derivedOf s ∧
      (s.effectiveLkasActive = true ∧
        (s.requestedTurnSignal = turnSignalLeft ∨ s.requestedTurnSignal = turnSignalRight)) ∧
      ∃ acceleration, s.accEstimateMps2 = some acceleration ∧
        -(2.50 : F64) ≤ acceleration ∧ acceleration ≤ (1.50 : F64) := by
  intro s
  have recomputed : ∃ event ∈ laneChangeEvents, Recomputes event :=
    ⟨_, List.mem_cons_of_mem _ (List.mem_cons_of_mem _ List.mem_cons_self), trivial⟩
  obtain ⟨-, -, alike, lca, limits⟩ := derived_of_last_given laneChangeEvents recomputed
  refine ⟨alike _ ?_ rfl, lca (by decide +kernel), ?_⟩
  · obtain ⟨event, member, recomputes⟩ := recomputed
    exact ⟨event, List.mem_append_left _ member, recomputes⟩
  · have estimated : s.accEstimateMps2.isSome = true := by decide +kernel
    obtain ⟨acceleration, estimated⟩ := Option.isSome_iff_exists.mp estimated
    exact ⟨acceleration, estimated, limits acceleration estimated⟩

end SelfDriving.Hpvc
