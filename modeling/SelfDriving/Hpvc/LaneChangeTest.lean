import SelfDriving.Foundations.PythonText

/-! The lane change test on one side: the distances of three gates are read from a metrics
object under any of several keys, and the steering profile is sent past all of them only. -/
namespace SelfDriving.Hpvc.LaneChangeTest
open Ieee754 Python

/-- The choices of the argument `direction`. -/
inductive Side where
  | left
  | right
  deriving DecidableEq

def Side.text : Side → String
  | left => "left"
  | right => "right"

def Side.opposite : Side → Side
  | left => right
  | right => left

inductive Gate where
  | rear
  | middle
  | front
  deriving DecidableEq

/-- The keys of a gate, in the order they are tried. -/
def gateKeys (side : Side) : Gate → List String
  | .rear =>
    ["rear_" ++ side.text ++ "_m", "rear_" ++ side.text ++ "_distance_m", "rear_" ++ side.text ++ "_ultrasonic_m",
      side.text ++ "_rear_m", side.text ++ "_rear_distance_m"]
  | .middle =>
    ["middle_" ++ side.text ++ "_m", "middle_" ++ side.text ++ "_distance_m", side.text ++ "_middle_m",
      side.text ++ "_middle_distance_m", side.text ++ "_ultrasonic_m", side.text ++ "_ultrasonic_distance_m"]
  | .front =>
    ["front_" ++ side.text ++ "_m", "front_" ++ side.text ++ "_distance_m",
      "front_" ++ side.text ++ "_diag_distance_m", side.text ++ "_front_m", side.text ++ "_front_distance_m",
      "side_" ++ side.text ++ "_distance_m"]

/-- The keys that stand for every gate without a distance of its own. -/
def compatibilityKeys (side : Side) : List String :=
  [side.text ++ "_ultrasonic_m", side.text ++ "_ultrasonic_distance_m"]

abbrev Metrics := List (String × Json)

/-- `key in metrics`. -/
def contains (metrics : Metrics) (key : String) : Bool := metrics.any fun entry => entry.1 = key

/-- A distance and whether it is finite. An integer that no float can hold is not caught. -/
def coerceDistance (value : Json) : Except PyError (Option F64 × Bool) :=
  if value.isNone then .ok (none, false)
  else
    match value.toFloat with
    | .ok distance => .ok (some distance, distance.isFinite)
    | .error (.typeError _) => .ok (none, false)
    | .error (.valueError _) => .ok (none, false)
    | .error error => .error error

/-- The tuple of one gate. -/
structure GateDistance where
  distance : Option F64
  valid : Bool
  sourceKey : Option String

def GateDistance.absent : GateDistance := ⟨none, false, none⟩

/-- The first key with a distance decides, be it valid or not. -/
def resolveFirst (metrics : Metrics) : List String → Except PyError GateDistance
  | [] => .ok .absent
  | key :: keys =>
    if contains metrics key then do
      let (distance, valid) ← coerceDistance (Json.get metrics key)
      if distance.isSome then .ok ⟨distance, valid, some key⟩ else resolveFirst metrics keys
    else resolveFirst metrics keys

/-- One round of the loop over the gates. -/
def resolveGate (metrics : Metrics) (side : Side) (gate : Gate) : Except PyError GateDistance := do
  let resolved ← resolveFirst metrics (gateKeys side gate)
  if resolved.distance.isNone then resolveFirst metrics (compatibilityKeys side) else .ok resolved

/-- The command line, as far as it decides what is sent. -/
structure Args where
  direction : Side
  skipSensorCheck : Bool
  gateDistance : Option F64
  minSideDistanceM : F64
  angleRad : F64
  hz : F64
  verifyRoundtrip : Bool

def gateNames : List Gate := [.rear, .middle, .front]

/-- The gates of a dictionary, whether all are valid, and where they are from. -/
structure GateDistances where
  distances : List (Gate × GateDistance)
  ok : Bool
  source : String

/-- What the source of the gates holds is an argument. It is looked at only without a manual
distance. -/
def readGateDistances (args : Args) (fetched : Except PyError Metrics) : Except PyError GateDistances :=
  if args.skipSensorCheck then .ok ⟨[], true, "skipped"⟩
  else
    match args.gateDistance with
    | some distance =>
      .ok ⟨gateNames.map fun gate => (gate, ⟨some distance, distance.isFinite, some "manual"⟩), distance.isFinite,
        "manual"⟩
    | none => do
      let metrics ← fetched
      if metrics.isEmpty then .ok ⟨[], false, "empty"⟩
      else
        let resolved ← gateNames.mapM fun gate => do
          let distance ← resolveGate metrics args.direction gate
          .ok (gate, distance)
        .ok ⟨resolved, resolved.all fun entry => entry.2.valid && entry.2.distance.isSome, "metrics"⟩

/-- How a run of the script ends, with the text or the gate that it prints last. -/
inductive Outcome where
  | systemExit (message : String)
  | raised (error : PyError)
  | noSensorData
  | invalidGate (gate : Gate)
  | smallGap (gate : Gate) (distance : Option F64)
  | roundtripFailed
  | profileSent
  deriving DecidableEq

/-- The loop over the gates: the first that fails ends the run. -/
def checkGates (minSideDistanceM : F64) (distances : List (Gate × GateDistance)) : List Gate → Option Outcome
  | [] => none
  | name :: names =>
    let resolved := (distances.lookup name).getD .absent
    if !resolved.valid then some (.invalidGate name)
    else if resolved.distance.all fun distance => distance < minSideDistanceM then
      some (.smallGap name resolved.distance)
    else checkGates minSideDistanceM distances names

/-- The sensor check of `main`. -/
def sensorCheck (args : Args) (gates : GateDistances) : Option Outcome :=
  if args.skipSensorCheck then none
  else if gates.distances.isEmpty then some .noSensorData
  else checkGates args.minSideDistanceM gates.distances gateNames

/-- `abs` of a float. -/
def abs (x : F64) : F64 := { x with neg := false }

/-- `main`, with what is fetched and how the probe of the diagnostic echo ends as arguments; the
probe says whether the gates are valid. -/
def main (args : Args) (fetched : Except PyError Metrics) (probeRoundtrip : Bool → Except PyError Bool) : Outcome :=
  if args.hz ≤ (0.0 : F64) then .systemExit "--hz must be positive"
  else if (0.5 : F64) < abs args.angleRad then .systemExit "--angle-rad must be within 0.5 rad"
  else
    match readGateDistances args fetched with
    | .error error => .raised error
    | .ok gates =>
      match sensorCheck args gates with
      | some blocked => blocked
      | none =>
        if args.verifyRoundtrip then
          match probeRoundtrip gates.ok with
          | .error error => .raised error
          | .ok false => .roundtripFailed
          | .ok true => .profileSent
        else .profileSent

/-- What the caller of the script sees: an exception or a return code. -/
inductive Ending where
  | exits (message : String)
  | raises (error : PyError)
  | returns (code : Nat)
  deriving DecidableEq

def Outcome.ending : Outcome → Ending
  | systemExit message => .exits message
  | raised error => .raises error
  | noSensorData => .returns 2
  | invalidGate _ => .returns 2
  | smallGap _ _ => .returns 3
  | roundtripFailed => .returns 4
  | profileSent => .returns 0

end SelfDriving.Hpvc.LaneChangeTest
