import SelfDriving.Hpvc.LaneChangeTest

/-! The gates of the lane change test are sound: steering is sent past three finite distances
that are not below the minimum, and the keys of the other side decide nothing. -/
namespace SelfDriving.Hpvc.LaneChangeTest
open Ieee754 Python

/-- The keys that can decide a gate, in the order they are tried. -/
def candidateKeys (side : Side) (gate : Gate) : List String := gateKeys side gate ++ compatibilityKeys side

/-- Every key that is read for a side. -/
def sideKeys (side : Side) : List String := gateNames.flatMap (gateKeys side) ++ compatibilityKeys side

/-- No key is read for both sides. -/
theorem candidateKeys_not_opposite (side : Side) (gate : Gate) {key : String} (candidate : key ∈ candidateKeys side gate) :
    key ∉ sideKeys side.opposite := by
  have disjoint : (candidateKeys side gate).all fun key => !(sideKeys side.opposite).contains key := by
    cases side <;> cases gate <;> decide +kernel
  simpa using List.all_eq_true.mp disjoint key candidate

/-- The value of the first key that converts. -/
def firstNumeric (metrics : Metrics) (keys : List String) : Option F64 :=
  keys.findSome? fun key => (Json.get metrics key).toFloat.toOption

theorem firstNumeric_append (metrics : Metrics) (keys keys' : List String) :
    firstNumeric metrics (keys ++ keys') = (firstNumeric metrics keys).or (firstNumeric metrics keys') :=
  List.findSome?_append

/-! ### The keys of one gate -/

theorem get_of_not_contains {metrics : Metrics} {key : String} (missing : contains metrics key = false) :
    Json.get metrics key = .null := by
  have nowhere : metrics.reverse.find? (fun entry => entry.1 = key) = none := by
    simpa [contains] using missing
  simp [Json.get, nowhere]

/-- An entry says nothing of the other keys. -/
theorem agree_cons {metrics : Metrics} {key key' : String} (value : Json) (other : key' ≠ key) :
    contains ((key', value) :: metrics) key = contains metrics key ∧
      Json.get ((key', value) :: metrics) key = Json.get metrics key := by
  constructor
  · simp [contains, other]
  · simp [Json.get, List.find?_append, other]

/-- A key with a value that converts is there. -/
theorem holds_of_numeric {metrics : Metrics} {key : String} {distance : F64}
    (converted : (Json.get metrics key).toFloat.toOption = some distance) :
    contains metrics key = true ∧ (Json.get metrics key).toFloat = .ok distance := by
  cases held : contains metrics key with
  | false =>
    rw [get_of_not_contains held] at converted
    cases converted
  | true =>
    cases value : (Json.get metrics key).toFloat with
    | error error =>
      rw [value] at converted
      cases converted
    | ok number =>
      rw [value] at converted
      cases converted
      exact ⟨rfl, rfl⟩

theorem eq_null_of_isNone {value : Json} (none : value.isNone = true) : value = .null := by
  cases value with
  | null => rfl
  | _ => cases none

theorem coerceDistance_eq_ok {value : Json} {distance : Option F64} {valid : Bool}
    (coerced : coerceDistance value = .ok (distance, valid)) :
    distance = value.toFloat.toOption ∧ valid = distance.any Ieee.isFinite := by
  unfold coerceDistance at coerced
  cases none : value.isNone with
  | true =>
    cases eq_null_of_isNone none
    cases coerced
    exact ⟨rfl, rfl⟩
  | false =>
    rw [none] at coerced
    generalize value.toFloat = converted at coerced ⊢
    cases converted with
    | ok value =>
      cases coerced
      exact ⟨rfl, rfl⟩
    | error error =>
      cases error with
      | typeError text =>
        cases coerced
        exact ⟨rfl, rfl⟩
      | valueError text =>
        cases coerced
        exact ⟨rfl, rfl⟩
      | _ => cases coerced

/-- What a gate is resolved to: the first value that converts, which counts if it is finite. -/
theorem resolveFirst_eq_ok {metrics : Metrics} {keys : List String} {resolved : GateDistance}
    (found : resolveFirst metrics keys = .ok resolved) :
    resolved.distance = firstNumeric metrics keys ∧ resolved.valid = resolved.distance.any Ieee.isFinite := by
  induction keys with
  | nil =>
    cases found
    exact ⟨rfl, rfl⟩
  | cons key keys ih =>
    rw [resolveFirst] at found
    cases held : contains metrics key with
    | false =>
      simp only [held, Bool.false_eq_true, ↓reduceIte] at found
      simpa [firstNumeric, get_of_not_contains held, Json.toFloat, Except.toOption] using ih found
    | true =>
      simp only [held, ↓reduceIte] at found
      cases coerced : coerceDistance (Json.get metrics key) with
      | error error =>
        rw [coerced] at found
        cases found
      | ok result =>
        obtain ⟨distance, valid⟩ := result
        obtain ⟨converted, finite⟩ := coerceDistance_eq_ok coerced
        simp only [coerced, bind, Except.bind] at found
        cases distance with
        | none => simpa [firstNumeric, ← converted] using ih (by simpa using found)
        | some distance =>
          cases found
          exact ⟨by simp [firstNumeric, ← converted], finite⟩

theorem resolveGate_eq_ok {metrics : Metrics} {side : Side} {gate : Gate} {resolved : GateDistance}
    (found : resolveGate metrics side gate = .ok resolved) :
    resolved.distance = firstNumeric metrics (candidateKeys side gate) ∧
      resolved.valid = resolved.distance.any Ieee.isFinite := by
  unfold resolveGate at found
  cases own : resolveFirst metrics (gateKeys side gate) with
  | error error =>
    rw [own] at found
    cases found
  | ok first =>
    obtain ⟨distance, valid⟩ := resolveFirst_eq_ok own
    simp only [own, bind, Except.bind] at found
    unfold candidateKeys
    cases given : first.distance with
    | none =>
      rw [given] at distance
      obtain ⟨distance', valid'⟩ := resolveFirst_eq_ok (show resolveFirst metrics _ = .ok resolved by simpa [given] using found)
      refine ⟨?_, valid'⟩
      rw [distance', firstNumeric_append, ← distance, Option.none_or]
    | some value =>
      simp only [given, Option.isNone_some, Bool.false_eq_true, ↓reduceIte] at found
      cases found
      refine ⟨?_, valid⟩
      rw [firstNumeric_append, ← distance, given, Option.some_or]

/-- Metrics that say the same of the keys resolve to the same. -/
theorem resolveFirst_congr {metrics metrics' : Metrics} {keys : List String}
    (agree : ∀ key ∈ keys, contains metrics' key = contains metrics key ∧ Json.get metrics' key = Json.get metrics key) :
    resolveFirst metrics' keys = resolveFirst metrics keys := by
  induction keys with
  | nil => rfl
  | cons key keys ih =>
    obtain ⟨held, value⟩ := agree key List.mem_cons_self
    rw [resolveFirst, resolveFirst, held, value, ih fun key member => agree key (List.mem_cons_of_mem _ member)]

theorem resolveGate_congr {metrics metrics' : Metrics} {side : Side} {gate : Gate}
    (agree : ∀ key ∈ candidateKeys side gate,
      contains metrics' key = contains metrics key ∧ Json.get metrics' key = Json.get metrics key) :
    resolveGate metrics' side gate = resolveGate metrics side gate := by
  unfold resolveGate
  rw [resolveFirst_congr fun key member => agree key (List.mem_append_left _ member),
    resolveFirst_congr fun key member => agree key (List.mem_append_right _ member)]

/-! ### The gates in `main` -/

/-- A gate lets the steering through. -/
def GateDistance.Passes (minimum : F64) (resolved : GateDistance) : Prop :=
  resolved.valid = true ∧ ∃ distance, resolved.distance = some distance ∧ ¬ distance < minimum

theorem checkGates_eq_none_iff {minimum : F64} {distances : List (Gate × GateDistance)} {names : List Gate} :
    checkGates minimum distances names = none ↔
      ∀ name ∈ names, ((distances.lookup name).getD .absent).Passes minimum := by
  induction names with
  | nil => simp [checkGates]
  | cons name names ih =>
    rw [checkGates, List.forall_mem_cons, ← ih]
    generalize (distances.lookup name).getD .absent = resolved
    obtain ⟨distance, valid, sourceKey⟩ := resolved
    cases valid with
    | false => simp [GateDistance.Passes]
    | true =>
      cases distance with
      | none => simp [GateDistance.Passes]
      | some distance => by_cases less : distance < minimum <;> simp [GateDistance.Passes, less]

/-- A failed check ends the run without steering. -/
theorem checkGates_ne_profileSent (minimum : F64) (distances : List (Gate × GateDistance)) (names : List Gate) :
    checkGates minimum distances names ≠ some .profileSent := by
  induction names with
  | nil => simp [checkGates]
  | cons name names ih =>
    rw [checkGates]
    split
    · simp
    · split
      · simp
      · exact ih

theorem sensorCheck_ne_profileSent (args : Args) (gates : GateDistances) :
    sensorCheck args gates ≠ some .profileSent := by
  unfold sensorCheck
  split
  · simp
  · split
    · simp
    · exact checkGates_ne_profileSent _ _ _

theorem profileSent_cases {args : Args} {fetched : Except PyError Metrics}
    {probeRoundtrip : Bool → Except PyError Bool} (sent : main args fetched probeRoundtrip = .profileSent) :
    ∃ gates, readGateDistances args fetched = .ok gates ∧ sensorCheck args gates = none := by
  unfold main at sent
  split at sent
  · cases sent
  split at sent
  · cases sent
  cases read : readGateDistances args fetched with
  | error error =>
    rw [read] at sent
    cases sent
  | ok gates =>
    refine ⟨gates, rfl, ?_⟩
    cases check : sensorCheck args gates with
    | none => rfl
    | some blocked =>
      simp only [read, check] at sent
      exact absurd (check.trans (congrArg some sent)) (sensorCheck_ne_profileSent args gates)

theorem resolveGate_nil (side : Side) (gate : Gate) : resolveGate [] side gate = .ok .absent := by
  have none : ∀ keys, resolveFirst [] keys = .ok .absent := by
    intro keys
    induction keys with
    | nil => rfl
    | cons key keys ih => simp [resolveFirst, contains, ih]
  simp [resolveGate, none, bind, Except.bind, GateDistance.absent]

section
variable {args : Args} {metrics metrics' : Metrics} {probeRoundtrip : Bool → Except PyError Bool}
  (checked : args.skipSensorCheck = false) (measured : args.gateDistance = none)
include checked measured

/-- What is read of a metrics object: nothing, or the three gates. -/
theorem readGateDistances_eq_ok {gates : GateDistances} (read : readGateDistances args (.ok metrics) = .ok gates) :
    gates.distances = [] ∨ ∃ rear middle front, resolveGate metrics args.direction .rear = .ok rear ∧
      resolveGate metrics args.direction .middle = .ok middle ∧
      resolveGate metrics args.direction .front = .ok front ∧
      gates.distances = [(.rear, rear), (.middle, middle), (.front, front)] := by
  simp only [readGateDistances, checked, measured, gateNames, List.mapM_cons, List.mapM_nil, bind, Except.bind,
    pure, Except.pure, Bool.false_eq_true, ↓reduceIte] at read
  split at read
  · cases read
    exact .inl rfl
  cases rear : resolveGate metrics args.direction .rear with
  | error error => simp [rear] at read
  | ok rear' =>
    cases middle : resolveGate metrics args.direction .middle with
    | error error => simp [rear, middle] at read
    | ok middle' =>
      cases front : resolveGate metrics args.direction .front with
      | error error => simp [rear, middle, front] at read
      | ok front' =>
        simp only [rear, middle, front, Except.ok.injEq] at read
        exact .inr ⟨rear', middle', front', rfl, rfl, rfl, by rw [← read]⟩

/-- The steering is sent past gates only whose first value that converts is finite and not below
the minimum. -/
theorem firstNumeric_of_profileSent (sent : main args (.ok metrics) probeRoundtrip = .profileSent) (gate : Gate) :
    ∃ distance, firstNumeric metrics (candidateKeys args.direction gate) = some distance ∧
      distance.isFinite = true ∧ ¬ distance < args.minSideDistanceM := by
  obtain ⟨gates, read, check⟩ := profileSent_cases sent
  simp only [sensorCheck, checked, Bool.false_eq_true, ↓reduceIte] at check
  obtain none | ⟨rear, middle, front, rearRead, middleRead, frontRead, listed⟩ :=
    readGateDistances_eq_ok checked measured read
  · simp [none] at check
  simp only [listed, List.isEmpty_cons, Bool.false_eq_true, ↓reduceIte, checkGates_eq_none_iff] at check
  have passes : ∃ resolved, resolveGate metrics args.direction gate = .ok resolved ∧
      resolved.Passes args.minSideDistanceM := by
    cases gate with
    | rear => exact ⟨rear, rearRead, check .rear (by decide)⟩
    | middle => exact ⟨middle, middleRead, check .middle (by decide)⟩
    | front => exact ⟨front, frontRead, check .front (by decide)⟩
  obtain ⟨resolved, found, valid, distance, given, notLess⟩ := passes
  obtain ⟨first, finite⟩ := resolveGate_eq_ok found
  rw [given] at first finite
  exact ⟨distance, first.symm, by simpa [valid] using finite.symm, notLess⟩

/-! ### The keys of the other side -/

/-- Only the text that is printed tells an object without keys from one without a key of this
side. -/
theorem ending_of_absent (absent : ∀ gate, resolveGate metrics args.direction gate = .ok .absent) :
    (main args (.ok metrics) probeRoundtrip).ending = (main args (.ok []) probeRoundtrip).ending := by
  unfold main
  split
  · rfl
  split
  · rfl
  simp only [readGateDistances, sensorCheck, checked, measured, bind, Except.bind, Bool.false_eq_true, ↓reduceIte,
    List.isEmpty_nil]
  cases metrics.isEmpty with
  | true => rfl
  | false =>
    simp [gateNames, absent, checkGates, GateDistance.absent, pure, Except.pure, bind, Except.bind, Outcome.ending]

/-- A run depends on the metrics through what the gates of its side resolve to, and on whether
there are any. -/
theorem main_congr (empty : metrics'.isEmpty = metrics.isEmpty)
    (agree : ∀ gate, resolveGate metrics' args.direction gate = resolveGate metrics args.direction gate) :
    main args (.ok metrics') probeRoundtrip = main args (.ok metrics) probeRoundtrip := by
  have read : readGateDistances args (.ok metrics') = readGateDistances args (.ok metrics) := by
    simp only [readGateDistances, checked, measured, empty, agree, bind, Except.bind]
  rw [main, main, read]

/-- How it ends does not even depend on whether there are any. -/
theorem ending_congr
    (agree : ∀ gate, resolveGate metrics' args.direction gate = resolveGate metrics args.direction gate) :
    (main args (.ok metrics') probeRoundtrip).ending = (main args (.ok metrics) probeRoundtrip).ending := by
  cases metrics with
  | nil => exact ending_of_absent checked measured fun gate => (agree gate).trans (resolveGate_nil _ _)
  | cons entry entries =>
    cases metrics' with
    | nil => exact (ending_of_absent checked measured fun gate => (agree gate).symm.trans (resolveGate_nil _ _)).symm
    | cons entry' entries' => exact congrArg _ (main_congr checked measured rfl agree)

end

/-- Past the sensor check the steering is sent only with a finite distance that is not below the
minimum under a key of the side, for each gate; whatever is added, removed or changed under the
keys of the other side, the run ends the same, with the same text as long as an object without
keys stays one; and a gate without a value that converts, or whose first such value is not
finite, keeps the steering from being sent. -/
theorem steering_gated_by_side (args : Args) (metrics : Metrics) (probeRoundtrip : Bool → Except PyError Bool)
    (checked : args.skipSensorCheck = false) (measured : args.gateDistance = none) :
    (args.minSideDistanceM.isNaN = false → main args (.ok metrics) probeRoundtrip = .profileSent → ∀ gate,
      ∃ key ∈ candidateKeys args.direction gate, ∃ distance,
        contains metrics key = true ∧ (Json.get metrics key).toFloat = .ok distance ∧
          distance.isFinite = true ∧ args.minSideDistanceM ≤ distance) ∧
    (∀ metrics', (∀ key ∉ sideKeys args.direction.opposite,
        contains metrics' key = contains metrics key ∧ Json.get metrics' key = Json.get metrics key) →
      (main args (.ok metrics') probeRoundtrip).ending = (main args (.ok metrics) probeRoundtrip).ending ∧
        (metrics'.isEmpty = metrics.isEmpty →
          main args (.ok metrics') probeRoundtrip = main args (.ok metrics) probeRoundtrip)) ∧
    (∀ gate, (∀ distance, firstNumeric metrics (candidateKeys args.direction gate) = some distance →
        distance.isFinite = false) →
      main args (.ok metrics) probeRoundtrip ≠ .profileSent) := by
  refine ⟨fun number sent gate => ?_, fun metrics' agree => ?_, fun gate blocked sent => ?_⟩
  · obtain ⟨distance, first, finite, notLess⟩ := firstNumeric_of_profileSent checked measured sent gate
    obtain ⟨key, candidate, converted⟩ := List.exists_of_findSome?_eq_some first
    obtain ⟨held, value⟩ := holds_of_numeric converted
    exact ⟨key, candidate, distance, held, value, finite,
      Ieee.le_of_not_lt (Ieee.isNaN_of_isFinite finite) number notLess⟩
  · have same : ∀ gate, resolveGate metrics' args.direction gate = resolveGate metrics args.direction gate :=
      fun gate => resolveGate_congr fun key candidate => agree key (candidateKeys_not_opposite _ gate candidate)
    exact ⟨ending_congr checked measured same, fun empty => main_congr checked measured empty same⟩
  · obtain ⟨distance, first, finite, -⟩ := firstNumeric_of_profileSent checked measured sent gate
    rw [blocked distance first] at finite
    cases finite

/-- A gap of half a metre is left, and the smallest one asked for. -/
def leftTest : Args := ⟨.left, false, none, 0.25, 0.125, 20.0, false⟩

def leftMetrics : Metrics := [("rear_left_m", .float 0.5), ("left_front_m", .str "0.5"), ("left_ultrasonic_m", .float 0.5)]

/-- The test drives with these metrics, each gate with a key of its own side, and still does with
a distance on the right that is no number. -/
theorem steering_gated_by_side_left :
    main leftTest (.ok leftMetrics) (fun _ => .ok true) = .profileSent ∧
      (∀ gate, ∃ key ∈ candidateKeys .left gate, ∃ distance, contains leftMetrics key = true ∧
        (Json.get leftMetrics key).toFloat = .ok distance ∧ distance.isFinite = true ∧ (0.25 : F64) ≤ distance) ∧
      (main leftTest (.ok (("rear_right_m", .null) :: leftMetrics)) fun _ => .ok true).ending = .returns 0 := by
  have sent : main leftTest (.ok leftMetrics) (fun _ => .ok true) = .profileSent := by decide +kernel
  obtain ⟨sound, isolated, -⟩ := steering_gated_by_side leftTest leftMetrics (fun _ => .ok true) rfl rfl
  refine ⟨sent, sound (by decide +kernel) sent, ?_⟩
  have opposite : "rear_right_m" ∈ sideKeys .right := by decide +kernel
  rw [(isolated _ fun key side => agree_cons _ fun same => side (same ▸ opposite)).1, sent]
  rfl

end SelfDriving.Hpvc.LaneChangeTest
