import SelfDriving.Hpvc.RemoteDriveProofs

/-! What a control request does to the state of the remote controller when something in it cannot
be used. The fields are written one after another before the speed is looked at, only two kinds of
exception are caught, and a NaN passes the limits: a request is harmless where none of that shows. -/
namespace SelfDriving.Hpvc.Remote
open Ieee754 Python

/-- The control state with the time of its last command. -/
structure Stamped where
  state : RemoteControlState
  updatedMonotonicS : F64

/-- A control request whose body is an object. The time is written when the request gets as far as
publishing. -/
def controlRequest (app : HttpApp) (config : Config) (s : Stamped) (fields : List (String × Json)) (clock : Clock)
    (now : F64) (sends : Sends) : Stamped × Published :=
  let after := post app config s.state .control (some (.object fields)) clock sends
  (⟨after.1, if publishes app config .control (some (.object fields)) then now else s.updatedMonotonicS⟩, after.2)

/-- What a value for the speed is to become: what it denotes, between zero and the maximum, or zero. -/
def meantSpeed (config : Config) (value : Json) : F64 :=
  match value.toFloat with
  | .ok x => if x.isNaN then 0.0 else Python.min config.maxSpeedMps (Python.max 0.0 x)
  | .error _ => 0.0

/-- A request completes with the speed that is meant, or it raises and changes nothing. -/
structure SafelyHandled (config : Config) (fields : List (String × Json)) (before : Stamped)
    (after : Stamped × Published) : Prop where
  speed : after.2.error = none → (Json.get fields "target_speed_mps").isNone = false →
    after.1.state.targetSpeedMps = meantSpeed config (Json.get fields "target_speed_mps")
  atomic : after.2.error ≠ none → after.1 = before

/-! ### What is asked for -/

def askedDrive (s : RemoteControlState) (fields : List (String × Json)) : DriveCommand :=
  if (Json.get fields "drive_command").isNone then s.driveCommand else normalizeDrive (Json.get fields "drive_command")

def askedSteering (s : RemoteControlState) (fields : List (String × Json)) : SteeringCommand :=
  if (Json.get fields "steering_command").isNone then s.steeringCommand
  else normalizeSteering (Json.get fields "steering_command")

/-- The speed in the code's terms; it is asked for only where it can be read. -/
def askedSpeed (config : Config) (s : RemoteControlState) (fields : List (String × Json)) : F64 :=
  if (Json.get fields "target_speed_mps").isNone then s.targetSpeedMps
  else
    match clampSpeed config (Json.get fields "target_speed_mps") with
    | .ok speed => speed
    | .error _ => s.targetSpeedMps

/-- The state that the packets are to be made from. -/
def asked (config : Config) (s : RemoteControlState) (fields : List (String × Json)) : RemoteControlState :=
  { s with
    driveCommand := askedDrive s fields
    steeringCommand := askedSteering s fields
    targetSpeedMps := askedSpeed config s fields
    emergencyStop := false }

/-- A packet cannot be packed, and nothing stops the publish before it. -/
def PackingFails (config : Config) (s : RemoteControlState) (sends : Sends) : Prop :=
  singleOverflows (steeringAngle config s) = true ∨
    (sends.front = none ∧ (config.broadcast = true → sends.broadcast = none) ∧
      ¬ (s.driveCommand ≠ .stop → singleOverflows s.targetSpeedMps = false))

/-- When a request is harmless. -/
structure Harmless (config : Config) (before : Stamped) (fields : List (String × Json)) (now : F64) (sends : Sends) :
    Prop where
  /-- A speed that raises comes with nothing else to write. -/
  unread : speedReadable config (Json.get fields "target_speed_mps") = false →
    askedDrive before.state fields = before.state.driveCommand ∧
      askedSteering before.state fields = before.state.steeringCommand
  /-- Packets that cannot be packed are asked for where everything is as it was. -/
  unpacked : speedReadable config (Json.get fields "target_speed_mps") = true →
    PackingFails config (asked config before.state fields) sends →
      asked config before.state fields = before.state ∧ now = before.updatedMonotonicS
  /-- The speed is no NaN. -/
  number : speedReadable config (Json.get fields "target_speed_mps") = true →
    ¬ PackingFails config (asked config before.state fields) sends →
      ∀ x, (Json.get fields "target_speed_mps").toFloat = .ok x → x.isNaN = false

/-! ### The limits -/

theorem configure_maxSpeedMps (steerRad maxSpeedMps : F64) (broadcast : Bool) :
    (0.0 : F64) < (configure steerRad maxSpeedMps broadcast).maxSpeedMps := by
  have least : (0.0 : F64) < (0.01 : F64) := by decide +kernel
  unfold configure
  dsimp only
  unfold Python.max
  split
  · rename_i more
    exact Ieee.lt_of_lt_of_le least (Ieee.le_of_lt more)
  · exact least

/-- On numbers the order of the two limits does not matter. -/
theorem clamp_number {maximum x : F64} (positive : (0.0 : F64) < maximum) (number : x.isNaN = false) :
    Python.max (0.0 : F64) (Python.min maximum x) = Python.min maximum (Python.max 0.0 x) := by
  generalize (0.0 : F64) = zero at *
  unfold Python.min Python.max
  by_cases below : x < maximum
  · by_cases more : zero < x
    · simp only [below, more, if_true]
    · simp only [below, more, positive, if_true, if_false]
  · have above : maximum ≤ x := Ieee.le_of_not_lt number positive.2.1 below
    have more : zero < x := Ieee.lt_of_lt_of_le positive above
    simp only [below, more, positive, if_true, if_false]

/-- A NaN becomes the maximum. -/
theorem clamp_nan {maximum x : F64} (positive : (0.0 : F64) < maximum) (nan : x.isNaN = true) :
    Python.max (0.0 : F64) (Python.min maximum x) = maximum := by
  have unordered : ¬ x < maximum := by
    intro less
    rw [less.1] at nan
    cases nan
  unfold Python.min Python.max
  rw [if_neg unordered, if_pos positive]

/-- A speed that can be read becomes what is meant exactly when it is no NaN. -/
theorem clampSpeed_iff {config : Config} (positive : (0.0 : F64) < config.maxSpeedMps) {value : Json} {speed : F64}
    (clamped : clampSpeed config value = .ok speed) :
    speed = meantSpeed config value ↔ ∀ x, value.toFloat = .ok x → x.isNaN = false := by
  have still : Python.max (0.0 : F64) (Python.min config.maxSpeedMps 0.0) = 0.0 := by
    rw [clamp_number positive (Ieee.isNaN_literal ..)]
    unfold Python.min Python.max
    rw [if_neg (Ieee.lt_irrefl _), if_pos positive]
  unfold clampSpeed at clamped
  unfold meantSpeed
  cases read : value.toFloat with
  | ok x =>
    simp only [read] at clamped ⊢
    obtain rfl := Except.ok.inj clamped
    cases nan : x.isNaN with
    | false =>
      rw [if_neg Bool.false_ne_true]
      refine iff_of_true (clamp_number positive nan) ?_
      rintro _ ⟨⟩
      exact nan
    | true =>
      rw [if_pos rfl, clamp_nan positive nan]
      refine iff_of_false (fun same => ?_) (fun number => ?_)
      · rw [same] at positive
        exact Ieee.lt_irrefl _ positive
      · rw [number x rfl] at nan
        cases nan
  | error error =>
    simp only [read] at clamped ⊢
    have zero : speed = 0.0 := by
      cases error with
      | typeError text => exact (Except.ok.inj clamped).symm.trans still
      | valueError text => exact (Except.ok.inj clamped).symm.trans still
      | overflowError text => cases clamped
      | attributeError text => cases clamped
      | osError => cases clamped
    refine iff_of_true zero fun x taken => ?_
    cases taken

/-! ### One request -/

/-- A publish raises when packing fails, and then it has written nothing. -/
theorem publish_raises (config : Config) (s : RemoteControlState) (clock : Clock) (sends : Sends) :
    (PackingFails config s sends ∧ (publish config s clock sends).2.error ≠ none ∧
      (publish config s clock sends).1 = s) ∨
    (¬ PackingFails config s sends ∧ (publish config s clock sends).2.error = none) := by
  have angle {packet : List UInt8} (packed : packFrontSteering config s clock false = .ok packet) :
      ¬ singleOverflows (steeringAngle config s) = true := by
    rw [(fits_of_packFrontSteering packed).1]
    exact Bool.false_ne_true
  have outcome := publish_outcome config s clock sends
  generalize publish config s clock sends = result at *
  cases outcome with
  | frontUnpacked packed => exact .inl ⟨.inl (overflows_of_packFrontSteering packed), Option.some_ne_none _, rfl⟩
  | frontFails packed front =>
    refine .inr ⟨?_, rfl⟩
    rintro (overflows | ⟨sent, -⟩)
    · exact angle packed overflows
    · rw [front] at sent
      cases sent
  | broadcastFails packed front configured broadcast =>
    refine .inr ⟨?_, rfl⟩
    rintro (overflows | ⟨-, sent, -⟩)
    · exact angle packed overflows
    · rw [sent configured] at broadcast
      cases broadcast
  | rearUnpacked packed front broadcast rear =>
    exact .inl ⟨.inr ⟨front, broadcast, overflows_of_packRearDrive rear⟩, Option.some_ne_none _, rfl⟩
  | rearFails packed _ _ rear | completes packed _ _ rear =>
    refine .inr ⟨?_, rfl⟩
    rintro (overflows | ⟨-, -, overflows⟩)
    · exact angle packed overflows
    · exact overflows (fits_of_packRearDrive rear)

/-- The fields that are written before the speed. -/
theorem setSteering_setDrive (s : RemoteControlState) (fields : List (String × Json)) :
    setSteering (Json.get fields "steering_command") (setDrive (Json.get fields "drive_command") s) =
      { s with driveCommand := askedDrive s fields, steeringCommand := askedSteering s fields } := by
  unfold setSteering setDrive askedDrive askedSteering
  cases (Json.get fields "drive_command").isNone <;> cases (Json.get fields "steering_command").isNone <;> rfl

/-- What a request does: it publishes from what it asks for, or it raises at the speed. -/
theorem controlRequest_cases (app : HttpApp) (config : Config) (before : Stamped) (fields : List (String × Json))
    (clock : Clock) (now : F64) (sends : Sends) :
    (speedReadable config (Json.get fields "target_speed_mps") = true ∧
      controlRequest app config before fields clock now sends =
        (⟨(publish config (asked config before.state fields) clock sends).1, now⟩,
          (publish config (asked config before.state fields) clock sends).2)) ∨
    (speedReadable config (Json.get fields "target_speed_mps") = false ∧ ∃ error,
      controlRequest app config before fields clock now sends =
        (⟨{ before.state with
            driveCommand := askedDrive before.state fields
            steeringCommand := askedSteering before.state fields }, before.updatedMonotonicS⟩,
          ⟨[], [], [], some error⟩)) := by
  have body : readPayload app (some (.object fields)) = .ok fields := by cases app <;> rfl
  simp only [controlRequest, post, publishes, body, command, setCommand, setSteering_setDrive]
  cases readable : speedReadable config (Json.get fields "target_speed_mps") with
  | true =>
    refine .inl ⟨rfl, ?_⟩
    have written : setSpeed config (Json.get fields "target_speed_mps") { before.state with
        driveCommand := askedDrive before.state fields, steeringCommand := askedSteering before.state fields } =
          .ok { before.state with
            driveCommand := askedDrive before.state fields
            steeringCommand := askedSteering before.state fields
            targetSpeedMps := askedSpeed config before.state fields } := by
      unfold speedReadable at readable
      unfold setSpeed askedSpeed
      cases given : (Json.get fields "target_speed_mps").isNone with
      | true => rfl
      | false =>
        rw [given, Bool.false_or] at readable
        cases clamped : clampSpeed config (Json.get fields "target_speed_mps") with
        | ok speed => rfl
        | error error =>
          rw [clamped] at readable
          cases readable
    rw [written]
    rfl
  | false =>
    refine .inr ⟨rfl, ?_⟩
    unfold speedReadable at readable
    rw [Bool.or_eq_false_iff] at readable
    unfold setSpeed
    rw [readable.1]
    cases clamped : clampSpeed config (Json.get fields "target_speed_mps") with
    | ok speed =>
      rw [clamped] at readable
      cases readable.2
    | error error => exact ⟨error, rfl⟩

/-- A request is handled safely exactly when it is harmless. -/
theorem safelyHandled_iff (app : HttpApp) {config : Config} (positive : (0.0 : F64) < config.maxSpeedMps)
    (before : Stamped) (fields : List (String × Json)) (clock : Clock) (now : F64) (sends : Sends) :
    SafelyHandled config fields before (controlRequest app config before fields clock now sends) ↔
      Harmless config before fields now sends := by
  rcases controlRequest_cases app config before fields clock now sends with
    ⟨readable, handled⟩ | ⟨unreadable, error, handled⟩
  · have unread : ¬ speedReadable config (Json.get fields "target_speed_mps") = false := by
      rw [readable]
      decide
    obtain ⟨-, -, -, -, same⟩ := publish_sent config (asked config before.state fields) clock sends
    rw [handled]
    rcases publish_raises config (asked config before.state fields) clock sends with
      ⟨fails, raised, kept⟩ | ⟨succeeds, completed⟩
    · -- The packets cannot be packed.
      constructor
      · intro safely
        have unchanged := safely.atomic raised
        rw [kept] at unchanged
        refine ⟨fun raises => absurd raises unread, fun _ _ => ?_, fun _ passes => absurd fails passes⟩
        exact ⟨congrArg Stamped.state unchanged, congrArg Stamped.updatedMonotonicS unchanged⟩
      · intro harmless
        obtain ⟨state, time⟩ := harmless.unpacked readable fails
        refine ⟨fun completed => absurd completed raised, fun _ => ?_⟩
        rw [kept, state, time]
    · -- The request completes.
      have clamped : (Json.get fields "target_speed_mps").isNone = false →
          clampSpeed config (Json.get fields "target_speed_mps") = .ok (askedSpeed config before.state fields) := by
        intro given
        unfold speedReadable at readable
        rw [given, Bool.false_or] at readable
        unfold askedSpeed
        rw [given, if_neg Bool.false_ne_true]
        cases clamped : clampSpeed config (Json.get fields "target_speed_mps") with
        | ok speed => rfl
        | error error =>
          rw [clamped] at readable
          cases readable
      constructor
      · intro safely
        refine ⟨fun raises => absurd raises unread, fun _ fails => absurd fails succeeds, fun _ _ x taken => ?_⟩
        have given : (Json.get fields "target_speed_mps").isNone = false := by
          cases value : Json.get fields "target_speed_mps" with
          | null =>
            rw [value] at taken
            cases taken
          | _ => rfl
        exact (clampSpeed_iff positive (clamped given)).mp (same.symm.trans (safely.speed completed given)) x taken
      · intro harmless
        refine ⟨fun _ given => ?_, fun raised => absurd completed raised⟩
        exact same.trans ((clampSpeed_iff positive (clamped given)).mpr (harmless.number readable succeeds))
  · -- The speed raises, with the drive and the steering written.
    have unreadable' : ¬ speedReadable config (Json.get fields "target_speed_mps") = true := by
      rw [unreadable]
      exact Bool.false_ne_true
    rw [handled]
    constructor
    · intro safely
      have unchanged := congrArg Stamped.state (safely.atomic (Option.some_ne_none error))
      refine ⟨fun _ => ?_, fun reads => absurd reads unreadable', fun reads => absurd reads unreadable'⟩
      exact ⟨congrArg RemoteControlState.driveCommand unchanged, congrArg RemoteControlState.steeringCommand unchanged⟩
    · intro harmless
      obtain ⟨drive, steering⟩ := harmless.unread unreadable
      refine ⟨fun completed => absurd completed (Option.some_ne_none error), fun _ => ?_⟩
      rw [drive, steering]

/-! ### Requests -/

/-- A control request completes with the speed that is meant or raises and changes nothing, exactly
when it is harmless. -/
theorem control_requests_safe_iff (app : HttpApp) (steerRad maxSpeedMps : F64) (broadcast : Bool) (before : Stamped)
    (fields : List (String × Json)) (clock : Clock) (now : F64) (sends : Sends) :
    SafelyHandled (configure steerRad maxSpeedMps broadcast) fields before
        (controlRequest app (configure steerRad maxSpeedMps broadcast) before fields clock now sends) ↔
      Harmless (configure steerRad maxSpeedMps broadcast) before fields now sends :=
  safelyHandled_iff app (configure_maxSpeedMps steerRad maxSpeedMps broadcast) before fields clock now sends

/-- A request to go forward at a speed that is no number. -/
def nanRequest : List (String × Json) := [("drive_command", .str "FORWARD"), ("target_speed_mps", .float Ieee.nan)]

/-- A request to go forward at a speed that no float can hold. -/
def hugeRequest : List (String × Json) := [("drive_command", .str "FORWARD"), ("target_speed_mps", .int (10 ^ 400))]

/-- At rest, with everything else in order, the one is carried out at the maximum speed, and the other makes the
vehicle drive although it raises. -/
theorem unusable_speeds_drive :
    ¬ SafelyHandled (configure 0.25 1.0 false) nanRequest ⟨start 0, 0.0⟩ (controlRequest .fallback
      (configure 0.25 1.0 false) ⟨start 0, 0.0⟩ nanRequest ⟨50, 50000⟩ 0.05 ⟨none, none, none⟩) ∧
    ¬ SafelyHandled (configure 0.25 1.0 false) hugeRequest ⟨start 0, 0.0⟩ (controlRequest .fallback
      (configure 0.25 1.0 false) ⟨start 0, 0.0⟩ hugeRequest ⟨50, 50000⟩ 0.05 ⟨none, none, none⟩) := by
  have positive := configure_maxSpeedMps 0.25 1.0 false
  rw [safelyHandled_iff .fallback positive, safelyHandled_iff .fallback positive]
  constructor
  · intro harmless
    have readable : speedReadable (configure 0.25 1.0 false) (Json.get nanRequest "target_speed_mps") = true := by
      decide +kernel
    have packs : ¬ PackingFails (configure 0.25 1.0 false) (asked (configure 0.25 1.0 false) (start 0) nanRequest)
        ⟨none, none, none⟩ := by
      rintro (angle | ⟨-, -, speed⟩)
      · exact absurd angle (by decide +kernel)
      · exact speed fun _ => by decide +kernel
    have number : (Ieee.nan : F64).isNaN = false := harmless.number readable packs Ieee.nan rfl
    rw [Ieee.isNaN_nan] at number
    cases number
  · intro harmless
    have unreadable : speedReadable (configure 0.25 1.0 false) (Json.get hugeRequest "target_speed_mps") = false := by
      decide +kernel
    exact absurd (harmless.unread unreadable).1 (by decide +kernel)

end SelfDriving.Hpvc.Remote
