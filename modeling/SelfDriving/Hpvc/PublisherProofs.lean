import SelfDriving.Foundations.Ieee754Widening
import SelfDriving.Hpvc.RuntimeDerivedProofs
import SelfDriving.Hpvc.RuntimeHttp
import SelfDriving.Hpvc.SequenceProofs

/-! What can end a publisher thread of the runtime API. It survives errors of the sockets,
but a target speed that no float can hold makes packing raise something else, and the
store keeps that speed for every publish that follows. -/
namespace SelfDriving.Hpvc
open Ieee754 Python

/-! ### One publish -/

/-- A number between two that fit a float fits one. -/
theorem singleOverflows_between {low x high : F64} (above : low ≤ x) (below : x ≤ high)
    (finite : (low.convert binary32).isFinite = true) (finite' : (high.convert binary32).isFinite = true) :
    singleOverflows x = false := by
  have inside : (x.convert binary32).isFinite = true :=
    Ieee.isFinite_of_between (Ieee.convert_mono Ieee.limit_binary64_pos above)
      (Ieee.convert_mono Ieee.limit_binary64_pos below) finite finite'
  rw [singleOverflows, Ieee.not_isInf_of_isFinite inside, Bool.and_false]

/-- The estimate of the acceleration is within its limits, if there is one. -/
def EstimateWithin (s : RuntimeControlState) : Prop :=
  ∀ acceleration, s.accEstimateMps2 = some acceleration → -(2.50 : F64) ≤ acceleration ∧ acceleration ≤ (1.50 : F64)

theorem estimateWithin_recomputeEffective (s : RuntimeControlState) : EstimateWithin (recomputeEffective s) :=
  fun _ estimated => estimateAcceleration_within estimated

theorem estimateWithin_run (events : List StoreEvent) :
    EstimateWithin (runtimeStore.run storeStart events).state := by
  apply runtimeStore.run_invariant (fun store => EstimateWithin store.state)
  · intro store event within
    rcases next_state store event with ⟨_, _, _, -, next⟩ | ⟨_, _, -, -, next⟩ | ⟨_, _, -, -, next⟩ |
      ⟨-, -, -, -, next⟩
    · rw [next]
      exact estimateWithin_recomputeEffective _
    · rw [next]
      exact estimateWithin_recomputeEffective _
    · rw [next]
      exact estimateWithin_recomputeEffective _
    · rwa [next]
  · intro acceleration estimated
    cases estimated

theorem commandedAcceleration_fits {s : RuntimeControlState} (within : EstimateWithin s) :
    singleOverflows (commandedAcceleration s) = false := by
  have zero : singleOverflows (0.0 : F64) = false := by decide +kernel
  have estimate (acceleration : F64) (estimated : s.accEstimateMps2 = some acceleration) :
      singleOverflows acceleration = false := by
    obtain ⟨above, below⟩ := within acceleration estimated
    exact singleOverflows_between above below (by decide +kernel) (by decide +kernel)
  unfold commandedAcceleration
  generalize (0.0 : F64) = still at *
  cases estimated : s.accEstimateMps2 with
  | none => simp [zero]
  | some acceleration =>
    dsimp only
    split_ifs
    · exact zero
    · exact estimate acceleration estimated
    · exact zero

/-- What one publish raises. -/
theorem publish_error_cases (store : RuntimeControlStore) (clock : Clock) (sends : Sends) :
    (publishRuntimeControl store clock sends).2.error = none ∨ commandOverflows store.state = true := by
  obtain ⟨packet, built, -⟩ := buildFrontPacket_ok store clock
  rcases buildRearCommandPacket_cases store clock with ⟨-, rear⟩ | ⟨overflows, -⟩
  · simp only [publishRuntimeControl, built, rear]
    split
    · exact .inl rfl
    split
    · exact .inl rfl
    · exact .inl rfl
  · exact .inr overflows

/-- One publish raises nothing, whatever the sockets do, exactly when the target speed fits. -/
theorem publish_raises_nothing_iff {store : RuntimeControlStore} (within : EstimateWithin store.state) :
    (∀ clock sends, (publishRuntimeControl store clock sends).2.error = none) ↔
      singleOverflows (commandedSpeed store.state) = false := by
  have speed : commandOverflows store.state = singleOverflows (commandedSpeed store.state) := by
    rw [commandOverflows, commandedAcceleration_fits within, Bool.or_false]
  rw [← speed]
  constructor
  · intro silent
    obtain ⟨packet, built, -⟩ := buildFrontPacket_ok store ⟨0, 0⟩
    rcases buildRearCommandPacket_cases store ⟨0, 0⟩ with ⟨fits, -⟩ | ⟨-, error, rear⟩
    · exact fits
    · have raised : (publishRuntimeControl store ⟨0, 0⟩ ⟨true, true, true⟩).2.error = some error := by
        simp only [publishRuntimeControl, built, rear]
        rfl
      rw [silent] at raised
      cases raised
  · intro fits clock sends
    refine (publish_error_cases store clock sends).resolve_right ?_
    rw [fits]
    exact Bool.false_ne_true

/-! ### What requests do to the target speed -/

def Change.targetSpeed : Change → Option F64
  | .requestedTargetSpeed speed => some speed
  | _ => none

/-- The target speed that a request makes the store keep. -/
def acceptedSpeed : ApiEvent → Option F64
  | .post .manual body _ _ =>
    match readJson body with
    | .error _ => none
    | .ok payload =>
      let targetSpeed := Json.get payload "target_speed"
      if isNumber targetSpeed then targetSpeed.toFloat.toOption else none
  | _ => none

/-- The speed that a request is about can be packed, if it is about one. -/
def SpeedPacks (event : ApiEvent) : Prop :=
  ∀ speed, acceptedSpeed event = some speed → singleOverflows (Python.max (0.0 : F64) speed) = false

/-- The update that a request comes to, if it does. -/
def requestedUpdate (route : ApiRoute) (body : RequestBody) : Option (List Change) :=
  match readJson body with
  | .error _ => none
  | .ok payload =>
    match verdict route payload with
    | .update changes => some changes
    | _ => none

/-- What an event is to the store. -/
def storeEvents : ApiEvent → List StoreEvent
  | .post route body clock sends =>
    (requestedUpdate route body).toList.map fun changes => .update changes clock sends
  | .publish clock sends => [.publish clock sends]
  | .front data => [.front data]
  | .rear data => [.rear data]

/-- A request is one update of the store, or nothing to it. -/
theorem doPost_cases (store : RuntimeControlStore) (route : ApiRoute) (body : RequestBody) (clock : Clock)
    (sends : Sends) :
    (∃ changes, requestedUpdate route body = some changes ∧
      (doPost store route body clock sends).1 = (update store changes clock sends).1 ∧
      (doPost store route body clock sends).2.published = (update store changes clock sends).2) ∨
    (requestedUpdate route body = none ∧ (doPost store route body clock sends).1 = store ∧
      (doPost store route body clock sends).2.published = nothingPublished) := by
  unfold doPost requestedUpdate
  cases readJson body with
  | error error => exact .inr ⟨rfl, rfl, rfl⟩
  | ok payload =>
    dsimp only
    cases verdict route payload with
    | update changes => exact .inl ⟨changes, rfl, rfl, rfl⟩
    | refuse error => exact .inr ⟨rfl, rfl, rfl⟩
    | notFound => exact .inr ⟨rfl, rfl, rfl⟩
    | raise error => exact .inr ⟨rfl, rfl, rfl⟩

theorem runtimeApi_next (store : RuntimeControlStore) (event : ApiEvent) :
    runtimeApi.next store event = runtimeStore.run store (storeEvents event) := by
  cases event with
  | post route body clock sends =>
    change (doPost store route body clock sends).1 = _
    rcases doPost_cases store route body clock sends with ⟨changes, requested, next, -⟩ | ⟨requested, next, -⟩
    · rw [next, storeEvents, requested]
      rfl
    · rw [next, storeEvents, requested]
      rfl
  | publish clock sends => rfl
  | front data => rfl
  | rear data => rfl

theorem runtimeApi_run (events : List ApiEvent) (store : RuntimeControlStore) :
    runtimeApi.run store events = runtimeStore.run store (events.flatMap storeEvents) := by
  induction events generalizing store with
  | nil => rfl
  | cons event rest ih => rw [Machine.run_cons, ih, runtimeApi_next, List.flatMap_cons, Machine.run_append]

/-- A step that publishes does it from the state it leaves. -/
theorem runtimeApi_error (store : RuntimeControlStore) (event : ApiEvent)
    (silent : ∀ store', store'.state = (runtimeApi.next store event).state → ∀ clock sends,
      (publishRuntimeControl store' clock sends).2.error = none) :
    (runtimeApi.output store event).published.error = none := by
  cases event with
  | post route body clock sends =>
    change (doPost store route body clock sends).2.published.error = none
    rcases doPost_cases store route body clock sends with ⟨changes, -, next, published⟩ | ⟨-, -, published⟩
    · rw [published]
      refine silent _ ?_ clock sends
      change _ = (doPost store route body clock sends).1.state
      rw [next]
      exact (publishRuntimeControl_state ..).symm
    · rw [published]
      rfl
  | publish clock sends => exact silent store (publishRuntimeControl_state ..).symm clock sends
  | front data => rfl
  | rear data => rfl

/-! ### Only remote driving and the reset set the speed -/

theorem featureField_speed {payload : List (String × Json)} {key : String} {changes : Bool → List Change}
    {result : List Change} (read : featureField payload key changes = .ok result)
    (none : ∀ enabled, (changes enabled).filterMap Change.targetSpeed = []) :
    result.filterMap Change.targetSpeed = [] := by
  unfold featureField at read
  split at read
  · split at read
    · cases read
    · rw [← Except.ok.inj read]
      exact none _
  · rw [← Except.ok.inj read]
    rfl

theorem featureChanges_speed {payload : List (String × Json)} {changes : List Change}
    (read : featureChanges payload = .ok changes) : changes.filterMap Change.targetSpeed = [] := by
  unfold featureChanges at read
  generalize lkas : featureField payload "lkas_active" _ = first at read
  generalize lca : featureField payload "lca_active" _ = second at read
  generalize acc : featureField payload "acc_active" _ = third at read
  generalize aeb : featureField payload "aeb_active" _ = fourth at read
  match first, second, third, fourth with
  | .ok _, .ok _, .ok _, .ok _ =>
    rw [← Except.ok.inj read]
    simp [List.filterMap_append, featureField_speed lkas fun _ => rfl, featureField_speed lca fun _ => rfl,
      featureField_speed acc fun _ => rfl, featureField_speed aeb fun _ => rfl]
  | .error _, _, _, _ => cases read
  | .ok _, .error _, _, _ => cases read
  | .ok _, .ok _, .error _, _ => cases read
  | .ok _, .ok _, .ok _, .error _ => cases read

theorem commandChanges_speed (value : Json) {change : String → Change}
    (none : ∀ command, (change command).targetSpeed = none) :
    (commandChanges value change).filterMap Change.targetSpeed = [] := by
  unfold commandChanges
  split
  · rw [List.filterMap_cons, none]
    rfl
  · rfl

theorem speedChanges_speed {value : Json} {changes : List Change} (read : speedChanges value = .ok changes) :
    changes.filterMap Change.targetSpeed = (if isNumber value then value.toFloat.toOption else none).toList := by
  unfold speedChanges at read
  split at read
  · rename_i number
    rw [if_pos number]
    generalize value.toFloat = float at *
    cases float with
    | error error => cases read
    | ok speed =>
      rw [← Except.ok.inj read]
      rfl
  · rename_i other
    rw [if_neg other, ← Except.ok.inj read]
    rfl

/-- The changes of remote driving set the speed that is accepted, if any. -/
theorem manualChanges_speed {payload : List (String × Json)} {changes : List Change}
    (read : manualChanges payload = .ok changes) :
    changes.filterMap Change.targetSpeed =
      (if isNumber (Json.get payload "target_speed") then (Json.get payload "target_speed").toFloat.toOption
      else none).toList := by
  unfold manualChanges at read
  generalize given : speedChanges (Json.get payload "target_speed") = speed at read
  cases speed with
  | error error => cases read
  | ok speed =>
    rw [← Except.ok.inj read, List.filterMap_append, List.filterMap_append, commandChanges_speed _ fun _ => rfl,
      commandChanges_speed _ fun _ => rfl, speedChanges_speed given]
    rfl

theorem speedChanges_error {value : Json} {error : PyError} (raised : speedChanges value = .error error) :
    (if isNumber value then value.toFloat.toOption else none) = none := by
  unfold speedChanges at raised
  split at raised
  · rename_i number
    rw [if_pos number]
    generalize value.toFloat = float at *
    cases float with
    | error error => rfl
    | ok speed => cases raised
  · rename_i other
    rw [if_neg other]

theorem manualChanges_error {payload : List (String × Json)} {error : PyError}
    (raised : manualChanges payload = .error error) :
    (if isNumber (Json.get payload "target_speed") then (Json.get payload "target_speed").toFloat.toOption
      else none) = none := by
  unfold manualChanges at raised
  generalize given : speedChanges (Json.get payload "target_speed") = speed at raised
  cases speed with
  | error error => exact speedChanges_error given
  | ok speed => cases raised

/-- What remote driving gives to the target speed is the speed that is accepted. -/
theorem requestedUpdate_manual (body : RequestBody) (clock : Clock) (sends : Sends) :
    ((requestedUpdate .manual body).getD []).filterMap Change.targetSpeed =
      (acceptedSpeed (.post .manual body clock sends)).toList := by
  simp only [requestedUpdate, acceptedSpeed]
  cases readJson body with
  | error error => rfl
  | ok payload =>
    simp only [verdict]
    cases read : manualChanges payload with
    | error error =>
      rw [manualChanges_error read]
      rfl
    | ok changes =>
      have speed := manualChanges_speed read
      cases changes with
      | nil => exact speed
      | cons change rest => exact speed

theorem switch_update {payload : List (String × Json)} {change : Bool → Change} {changes : List Change}
    (update : switch payload change = .update changes) : ∃ enabled, changes = [change enabled] := by
  unfold switch at update
  split at update
  · cases update
  · exact ⟨_, (Verdict.update.inj update).symm⟩

/-- No other request gives a target speed but zero. -/
theorem verdict_other {route : ApiRoute} (other : route ≠ .manual) {payload : List (String × Json)}
    {changes : List Change} (update : verdict route payload = .update changes) :
    ∀ speed ∈ changes.filterMap Change.targetSpeed, speed = (0.0 : F64) := by
  have nothing (none : changes.filterMap Change.targetSpeed = []) :
      ∀ speed ∈ changes.filterMap Change.targetSpeed, speed = (0.0 : F64) := by
    intro speed member
    rw [none] at member
    cases member
  cases route with
  | featuresEnable =>
    simp only [verdict] at update
    split at update
    · cases update
    · cases update
    · rename_i read
      cases update
      exact nothing (featureChanges_speed read)
  | lkas =>
    obtain ⟨enabled, rfl⟩ := switch_update update
    exact nothing rfl
  | manual => exact absurd rfl other
  | turnSignal =>
    simp only [verdict] at update
    split at update
    · cases update
    · cases update
      exact nothing rfl
  | lca =>
    obtain ⟨enabled, rfl⟩ := switch_update update
    exact nothing rfl
  | reset =>
    have changes_eq : resetChanges = changes := Verdict.update.inj update
    have given : resetChanges.filterMap Change.targetSpeed = [(0.0 : F64)] := rfl
    rw [← changes_eq, given]
    intro speed member
    exact List.mem_singleton.mp member
  | other => cases update

theorem requestedUpdate_other {route : ApiRoute} (other : route ≠ .manual) (body : RequestBody) :
    ∀ speed ∈ ((requestedUpdate route body).getD []).filterMap Change.targetSpeed, speed = (0.0 : F64) := by
  intro speed member
  unfold requestedUpdate at member
  split at member
  · cases member
  · split at member
    · rename_i update
      exact verdict_other other update speed member
    · cases member

theorem given_post (route : ApiRoute) (body : RequestBody) (clock : Clock) (sends : Sends) :
    (storeEvents (.post route body clock sends)).flatMap (given Change.targetSpeed) =
      ((requestedUpdate route body).getD []).filterMap Change.targetSpeed := by
  simp only [storeEvents]
  cases requestedUpdate route body with
  | none => rfl
  | some changes =>
    change given Change.targetSpeed (.update changes clock sends) ++ [] = _
    rw [List.append_nil]
    rfl

/-- What an event gives to the target speed: the speed that it is accepted with, or zero. -/
theorem given_targetSpeed (event : ApiEvent) :
    (∃ speed, acceptedSpeed event = some speed ∧
      (storeEvents event).flatMap (given Change.targetSpeed) = [speed]) ∨
    (acceptedSpeed event = none ∧
      ∀ speed ∈ (storeEvents event).flatMap (given Change.targetSpeed), speed = (0.0 : F64)) := by
  have nothing (none : (storeEvents event).flatMap (given Change.targetSpeed) = []) :
      ∀ speed ∈ (storeEvents event).flatMap (given Change.targetSpeed), speed = (0.0 : F64) := by
    intro speed member
    rw [none] at member
    cases member
  cases event with
  | post route body clock sends =>
    by_cases manual : route = .manual
    · subst manual
      have same := (given_post .manual body clock sends).trans (requestedUpdate_manual body clock sends)
      cases accepted : acceptedSpeed (.post .manual body clock sends) with
      | none =>
        rw [accepted] at same
        exact .inr ⟨rfl, nothing same⟩
      | some speed =>
        rw [accepted] at same
        exact .inl ⟨speed, rfl, same⟩
    · refine .inr ⟨?_, ?_⟩
      · cases route <;> first | rfl | exact absurd rfl manual
      · rw [given_post]
        exact requestedUpdate_other manual body
  | publish clock sends => exact .inr ⟨rfl, nothing rfl⟩
  | front data => exact .inr ⟨rfl, nothing rfl⟩
  | rear data => exact .inr ⟨rfl, nothing rfl⟩

/-! ### Whole runs -/

/-- No publish of a run raises anything, nor does one after any of its steps. -/
structure PublisherSurvives (events : List ApiEvent) : Prop where
  published : ∀ out ∈ runtimeApi.outputs storeStart events, out.published.error = none
  later : ∀ earlier, earlier <+: events → ∀ clock sends,
    (publishRuntimeControl (runtimeApi.run storeStart earlier) clock sends).2.error = none

/-- The speed that a run ends with is the one that was given last. -/
theorem requestedTargetSpeed_run (events : List ApiEvent) :
    (runtimeApi.run storeStart events).state.requestedTargetSpeed =
      ((events.flatMap storeEvents).flatMap (given Change.targetSpeed)).getLastD (0.0 : F64) := by
  rw [runtimeApi_run]
  exact last_request Change.targetSpeed (·.requestedTargetSpeed)
    (fun s change => by cases change <;> rfl) (fun _ _ _ => rfl) _

theorem estimateWithin_runtimeApi (events : List ApiEvent) :
    EstimateWithin (runtimeApi.run storeStart events).state := by
  rw [runtimeApi_run]
  exact estimateWithin_run _

/-- A speed that a run was given is zero, or a request was accepted with it. -/
theorem accepted_of_given {events : List ApiEvent} {speed : F64}
    (member : speed ∈ (events.flatMap storeEvents).flatMap (given Change.targetSpeed)) :
    speed = (0.0 : F64) ∨ ∃ event ∈ events, acceptedSpeed event = some speed := by
  rw [List.flatMap_assoc] at member
  obtain ⟨event, here, given⟩ := List.mem_flatMap.mp member
  rcases given_targetSpeed event with ⟨accepted, some, only⟩ | ⟨-, zero⟩
  · rw [only, List.mem_singleton] at given
    exact .inr ⟨event, here, by rw [given, some]⟩
  · exact .inl (zero speed given)

theorem commandedSpeed_packs {events : List ApiEvent} (packs : ∀ event ∈ events, SpeedPacks event) :
    singleOverflows (commandedSpeed (runtimeApi.run storeStart events).state) = false := by
  have zero : singleOverflows (Python.max (0.0 : F64) 0.0) = false := by decide +kernel
  rw [commandedSpeed, requestedTargetSpeed_run, List.getLastD_eq_getLast?]
  cases last : ((events.flatMap storeEvents).flatMap (given Change.targetSpeed)).getLast? with
  | none => exact zero
  | some speed =>
    rcases accepted_of_given (List.mem_of_getLast? last) with still | ⟨event, member, accepted⟩
    · rw [still]
      exact zero
    · exact packs event member speed accepted

/-- The publishers survive a run exactly when every target speed that its requests set
can be packed. -/
theorem publisher_survives_iff (events : List ApiEvent) :
    PublisherSurvives events ↔ ∀ event ∈ events, SpeedPacks event := by
  constructor
  · intro survives event member speed accepted
    obtain ⟨first, rest, split⟩ := List.append_of_mem member
    have earlier : first ++ [event] <+: events := ⟨rest, by rw [split, List.append_assoc, List.singleton_append]⟩
    have fits := (publish_raises_nothing_iff (estimateWithin_runtimeApi (first ++ [event]))).mp
      (survives.later _ earlier)
    rcases given_targetSpeed event with ⟨speed', accepted', given⟩ | ⟨none, -⟩
    · rw [accepted] at accepted'
      cases accepted'
      rw [commandedSpeed, requestedTargetSpeed_run, List.flatMap_append, List.flatMap_append, List.flatMap_singleton,
        given, List.getLastD_concat] at fits
      exact fits
    · rw [accepted] at none
      cases none
  · intro packs
    have silent (earlier : List ApiEvent) (before : earlier <+: events) (store : RuntimeControlStore)
        (same : store.state = (runtimeApi.run storeStart earlier).state) :
        ∀ clock sends, (publishRuntimeControl store clock sends).2.error = none := by
      have within := estimateWithin_runtimeApi earlier
      have fits := commandedSpeed_packs fun event member => packs event (before.subset member)
      rw [← same] at within fits
      exact (publish_raises_nothing_iff within).mpr fits
    constructor
    · intro out member
      obtain ⟨first, event, rest, split, rfl⟩ := runtimeApi.exists_of_mem_outputs member
      apply runtimeApi_error
      intro store same
      apply silent (first ++ [event]) ⟨rest, by rw [split, List.append_assoc, List.singleton_append]⟩
      rw [same, Machine.run_concat]
    · intro earlier before
      exact silent earlier before _ rfl

/-- A request for more than a float can hold. -/
def hugeSpeed : ApiEvent := .post .manual (.json (.object [("target_speed", .float 1e39)])) ⟨0, 0⟩ ⟨true, true, true⟩

theorem huge_speed_ends_publisher : ¬ PublisherSurvives [hugeSpeed] := by
  intro survives
  have silent := survives.later [hugeSpeed] (List.prefix_refl _) ⟨0, 0⟩ ⟨true, true, true⟩
  have raised : (publishRuntimeControl (runtimeApi.run storeStart [hugeSpeed]) ⟨0, 0⟩ ⟨true, true, true⟩).2.error =
      some (.overflowError "float too large to pack with f format") := by decide +kernel
  rw [silent] at raised
  cases raised

end SelfDriving.Hpvc
