import SelfDriving.Hpvc.RuntimeApi

/-! The requests that the runtime API takes: what each path reads of its body, which
changes it makes of the store and what it answers. -/
namespace SelfDriving.Hpvc
open Ieee754 Python

/-- The paths that take a request. -/
inductive ApiRoute where
  | featuresEnable
  | lkas
  | manual
  | turnSignal
  | lca
  | reset
  | other
  deriving DecidableEq

/-- The body of a request as it is read. -/
inductive RequestBody where
  | json (value : Json)
  /-- No JSON at all. -/
  | malformed
  /-- What reading or decoding the text raises. -/
  | unreadable (error : PyError)

/-- What the handler does about a request. -/
inductive Verdict where
  | update (changes : List Change)
  | refuse (error : String)
  | notFound
  | raise (error : PyError)

/-- What is answered. -/
inductive ApiResponse where
  | snapshot (state : RuntimeControlState)
  | badRequest (error : String)
  | notFound

/-- A body that is no object counts as an empty one. -/
def readJson : RequestBody → Except PyError (List (String × Json))
  | .json (.object fields) => .ok fields
  | .json _ => .ok []
  | .malformed => .ok []
  | .unreadable error => .error error

/-- A number is no truth value. -/
def asBool : Json → Option Bool
  | .bool value => some value
  | _ => none

/-- Truth values are integers, so they pass as signals. -/
def asTurnSignal : Json → Option Int
  | .str value =>
    if word value = "OFF" then some turnSignalOff
    else if word value = "LEFT" then some turnSignalLeft
    else if word value = "RIGHT" then some turnSignalRight
    else none
  | .int value =>
    if value = turnSignalOff ∨ value = turnSignalLeft ∨ value = turnSignalRight then some value else none
  | .bool value => some (if value then turnSignalLeft else turnSignalOff)
  | _ => none

/-- One feature flag, if the body names it. -/
def featureField (payload : List (String × Json)) (key : String) (changes : Bool → List Change) :
    Except String (List Change) :=
  if payload.any fun entry => entry.1 = key then
    match asBool (Json.get payload key) with
    | none => .error (key ++ " must be boolean")
    | some enabled => .ok (changes enabled)
  else .ok []

/-- The flags that the body names; one that is no truth value refuses the request. -/
def featureChanges (payload : List (String × Json)) : Except String (List Change) := do
  let lkas ← featureField payload "lkas_active" fun enabled =>
    [.requestedLkasEnabled enabled, .requestedLcaEnabled enabled]
  let lca ← featureField payload "lca_active" fun enabled => [.requestedLcaEnabled enabled]
  let acc ← featureField payload "acc_active" fun enabled => [.requestedAccEnabled enabled]
  let aeb ← featureField payload "aeb_active" fun enabled => [.requestedAebEnabled enabled]
  return lkas ++ lca ++ acc ++ aeb

/-- `isinstance(value, (int, float))`; truth values are integers. -/
def isNumber : Json → Bool
  | .bool _ | .int _ | .float _ => true
  | _ => false

/-- A command word, if there is a text for it. -/
def commandChanges (value : Json) (change : String → Change) : List Change :=
  match value with
  | .str command => [change (word command)]
  | _ => []

/-- A target speed, if there is a number for it. -/
def speedChanges (value : Json) : Except PyError (List Change) := do
  if isNumber value then return [.requestedTargetSpeed (← value.toFloat)] else return []

/-- The commands of the body, each if it is there. -/
def manualChanges (payload : List (String × Json)) : Except PyError (List Change) := do
  let drive := commandChanges (Json.get payload "drive_command") .requestedDriveCommand
  let steering := commandChanges (Json.get payload "steering_command") .requestedSteeringCommand
  let speed ← speedChanges (Json.get payload "target_speed")
  return drive ++ steering ++ speed

/-- Every request back to off. -/
def resetChanges : List Change :=
  [.requestedLkasEnabled false, .requestedTurnSignal turnSignalOff, .requestedLcaEnabled false,
    .requestedAccEnabled false, .requestedAebEnabled false, .requestedDriveCommand "STOP",
    .requestedSteeringCommand "STRAIGHT", .requestedTargetSpeed 0.0]

/-- A path that switches one flag. -/
def switch (payload : List (String × Json)) (change : Bool → Change) : Verdict :=
  match asBool (Json.get payload "enabled") with
  | none => .refuse "enabled must be boolean"
  | some enabled => .update [change enabled]

/-- What a path makes of its body. -/
def verdict (route : ApiRoute) (payload : List (String × Json)) : Verdict :=
  match route with
  | .featuresEnable =>
    match featureChanges payload with
    | .error error => .refuse error
    | .ok [] => .refuse "no supported feature fields provided"
    | .ok changes => .update changes
  | .lkas => switch payload .requestedLkasEnabled
  | .manual =>
    match manualChanges payload with
    | .error error => .raise error
    | .ok [] => .refuse "no supported manual fields provided"
    | .ok changes => .update changes
  | .turnSignal =>
    match asTurnSignal (Json.get payload "turn_signal") with
    | none => .refuse "turn_signal must be OFF, LEFT, or RIGHT"
    | some turnSignal => .update [.requestedTurnSignal turnSignal]
  | .lca => switch payload .requestedLcaEnabled
  | .reset => .update resetChanges
  | .other => .notFound

/-- What a step puts out: what it published, and the answer to a request unless an
exception ended it. -/
structure ApiOutput where
  published : Published
  response : Option ApiResponse

/-- A request that passes its checks changes the store and publishes. -/
def doPost (store : RuntimeControlStore) (route : ApiRoute) (body : RequestBody) (clock : Clock) (sends : Sends) :
    RuntimeControlStore × ApiOutput :=
  match readJson body with
  | .error _ => (store, ⟨nothingPublished, none⟩)
  | .ok payload =>
    match verdict route payload with
    | .update changes =>
      let (store, published) := update store changes clock sends
      (store, ⟨published, if published.error = none then some (.snapshot store.state) else none⟩)
    | .refuse error => (store, ⟨nothingPublished, some (.badRequest error)⟩)
    | .notFound => (store, ⟨nothingPublished, some .notFound⟩)
    | .raise _ => (store, ⟨nothingPublished, none⟩)

/-- A request, the turn of the periodic publisher, or a datagram. -/
inductive ApiEvent where
  | post (route : ApiRoute) (body : RequestBody) (clock : Clock) (sends : Sends)
  | publish (clock : Clock) (sends : Sends)
  | front (data : List UInt8)
  | rear (data : List UInt8)

/-- The store with its HTTP server, one event after another. -/
def runtimeApi : Machine RuntimeControlStore ApiEvent ApiOutput where
  step store
    | .post route body clock sends => doPost store route body clock sends
    | .publish clock sends =>
      let (store, published) := publishRuntimeControl store clock sends
      (store, ⟨published, none⟩)
    | .front data => ({ store with state := receiveFront store.state data }, ⟨nothingPublished, none⟩)
    | .rear data => ({ store with state := receiveRear store.state data }, ⟨nothingPublished, none⟩)

end SelfDriving.Hpvc
