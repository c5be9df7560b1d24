import SelfDriving.Hpvc.RemoteControl

/-! What the requests and the publishes of the remote controller do: a request
publishes from the state that it commands, unless it raised before. -/
namespace SelfDriving.Hpvc.Remote
open Ieee754 Python

/-! ### Commands -/

@[simp] theorem setDrive_sequence (value : Json) (s : RemoteControlState) :
    (setDrive value s).sequence = s.sequence := by
  unfold setDrive
  split <;> rfl

@[simp] theorem setSteering_sequence (value : Json) (s : RemoteControlState) :
    (setSteering value s).sequence = s.sequence := by
  unfold setSteering
  split <;> rfl

@[simp] theorem setEmergency_sequence (value : Option Bool) (s : RemoteControlState) :
    (setEmergency value s).sequence = s.sequence := by rcases value with _ | _ | _ <;> rfl

@[simp] theorem setDrive_emergencyStop (value : Json) (s : RemoteControlState) :
    (setDrive value s).emergencyStop = s.emergencyStop := by
  unfold setDrive
  split <;> rfl

@[simp] theorem setSteering_emergencyStop (value : Json) (s : RemoteControlState) :
    (setSteering value s).emergencyStop = s.emergencyStop := by
  unfold setSteering
  split <;> rfl

/-- A speed that is not given, or that does not raise. -/
def speedReadable (config : Config) (value : Json) : Bool := value.isNone || (clampSpeed config value).isOk

theorem setSpeed_cases (config : Config) (value : Json) (s : RemoteControlState) :
    (speedReadable config value = true ∧ ∃ speed, setSpeed config value s = .ok { s with targetSpeedMps := speed }) ∨
    (speedReadable config value = false ∧ ∃ error, setSpeed config value s = .error error) := by
  unfold setSpeed speedReadable
  cases value.isNone with
  | true => exact .inl ⟨rfl, s.targetSpeedMps, rfl⟩
  | false =>
    cases clampSpeed config value with
    | ok speed => exact .inl ⟨rfl, speed, rfl⟩
    | error error => exact .inr ⟨rfl, error, rfl⟩

/-- A command writes all its fields and publishes, or it stops before the speed. -/
theorem command_cases (config : Config) (s : RemoteControlState) (drive steering speed : Json)
    (emergencyStop : Option Bool) (clock : Clock) (sends : Sends) :
    (speedReadable config speed = true ∧
      (∃ target, (setCommand config s drive steering speed emergencyStop).1 =
        setEmergency emergencyStop { setSteering steering (setDrive drive s) with targetSpeedMps := target }) ∧
      command config s drive steering speed emergencyStop clock sends =
        publish config (setCommand config s drive steering speed emergencyStop).1 clock sends) ∨
    (speedReadable config speed = false ∧ ∃ error, command config s drive steering speed emergencyStop clock sends =
      (setSteering steering (setDrive drive s), ⟨[], [], [], some error⟩)) := by
  simp only [command, setCommand]
  rcases setSpeed_cases config speed (setSteering steering (setDrive drive s)) with
    ⟨readable, target, written⟩ | ⟨unreadable, error, raised⟩
  · rw [written]
    exact .inl ⟨readable, ⟨target, rfl⟩, rfl⟩
  · rw [raised]
    exact .inr ⟨unreadable, error, rfl⟩

/-! ### Requests -/

/-- A request that gets as far as publishing. -/
def publishes (app : HttpApp) (config : Config) (route : Route) (body : Option Json) : Bool :=
  match route with
  | .control =>
    match readPayload app body with
    | .error _ => false
    | .ok payload => speedReadable config (Json.get payload "target_speed_mps")
  | .other => false
  | .estop | .stop | .reset => true

/-- The state that a request publishes from, if it publishes. -/
def commanded (app : HttpApp) (config : Config) (s : RemoteControlState) (route : Route) (body : Option Json) :
    RemoteControlState :=
  match route with
  | .control =>
    match readPayload app body with
    | .error _ => s
    | .ok payload =>
      (setCommand config s (Json.get payload "drive_command") (Json.get payload "steering_command")
        (Json.get payload "target_speed_mps") (some false)).1
  | .estop => setEmergency (some true) s
  | .stop | .reset => { s with driveCommand := .stop, steeringCommand := .straight, emergencyStop := false }
  | .other => s

/-- What a request has made of the emergency stop and the drive command. -/
structure Commanded (route : Route) (before : RemoteControlState) : Prop where
  released : route ≠ .estop → before.emergencyStop = false
  stopped : route = .estop → before.emergencyStop = true
  parked : route ≠ .control → before.driveCommand = .stop

/-- What a request does. -/
theorem post_cases (app : HttpApp) (config : Config) (s : RemoteControlState) (route : Route) (body : Option Json)
    (clock : Clock) (sends : Sends) :
    -- It publishes from what it commands.
    (publishes app config route body = true ∧
      (commanded app config s route body).sequence = s.sequence ∧
      Commanded route (commanded app config s route body) ∧
      post app config s route body clock sends = publish config (commanded app config s route body) clock sends) ∨
    -- It sends nothing; only a control request has written anything.
    (publishes app config route body = false ∧ ∃ after error,
      post app config s route body clock sends = (after, ⟨[], [], [], error⟩) ∧ after.sequence = s.sequence ∧
        after.emergencyStop = s.emergencyStop ∧ (route ≠ .control → after = s)) := by
  cases route with
  | control =>
    cases read : readPayload app body with
    | error error =>
      simp only [post, publishes, read]
      exact .inr ⟨trivial, s, some error, rfl, rfl, rfl, fun _ => rfl⟩
    | ok payload =>
      simp only [post, publishes, commanded, read]
      rcases command_cases config s (Json.get payload "drive_command") (Json.get payload "steering_command")
          (Json.get payload "target_speed_mps") (some false) clock sends with
        ⟨readable, ⟨target, written⟩, sent⟩ | ⟨unreadable, error, raised⟩
      · refine .inl ⟨readable, ?_, ⟨?_, ?_, ?_⟩, sent⟩
        · rw [written, setEmergency_sequence]
          simp
        · intro _
          rw [written]
          rfl
        · intro other
          cases other
        · intro other
          exact absurd rfl other
      · exact .inr ⟨unreadable, _, some error, raised, by simp, by simp, fun other => absurd rfl other⟩
  | estop => exact .inl ⟨rfl, rfl, ⟨fun other => absurd rfl other, fun _ => rfl, fun _ => rfl⟩, rfl⟩
  | stop => exact .inl ⟨rfl, rfl, ⟨fun _ => rfl, fun other => (by cases other), fun _ => rfl⟩, rfl⟩
  | reset => exact .inl ⟨rfl, rfl, ⟨fun _ => rfl, fun other => (by cases other), fun _ => rfl⟩, rfl⟩
  | other => exact .inr ⟨rfl, s, none, rfl, rfl, rfl, fun _ => rfl⟩

/-! ### Publishes -/

/-- How one publish goes, and what comes of it. -/
inductive PublishOutcome (config : Config) (s : RemoteControlState) (clock : Clock) (sends : Sends) :
    RemoteControlState × Published → Prop where
  | frontUnpacked {error : PyError} (packed : packFrontSteering config s clock false = .error error) :
    PublishOutcome config s clock sends (s, ⟨[], [], [], some error⟩)
  | frontFails {packet : List UInt8} {text : String} (packed : packFrontSteering config s clock false = .ok packet)
    (front : sends.front = some text) :
    PublishOutcome config s clock sends ({ s with lastError := some text }, nothingSent)
  | broadcastFails {packet : List UInt8} {text : String} (packed : packFrontSteering config s clock false = .ok packet)
    (front : sends.front = none) (configured : config.broadcast = true) (broadcast : sends.broadcast = some text) :
    PublishOutcome config s clock sends ({ s with lastError := some text }, ⟨[packet], [], [], none⟩)
  | rearUnpacked {packet : List UInt8} {error : PyError} (packed : packFrontSteering config s clock false = .ok packet)
    (front : sends.front = none) (broadcast : config.broadcast = true → sends.broadcast = none)
    (rear : packRearDrive s clock = .error error) :
    PublishOutcome config s clock sends
      (s, ⟨[packet], if config.broadcast then [packet] else [], [], some error⟩)
  | rearFails {packet rearPacket : List UInt8} {text : String}
    (packed : packFrontSteering config s clock false = .ok packet) (front : sends.front = none)
    (broadcast : config.broadcast = true → sends.broadcast = none) (rear : packRearDrive s clock = .ok rearPacket)
    (taken : sends.rear = some text) :
    PublishOutcome config s clock sends
      ({ s with lastError := some text }, ⟨[packet], if config.broadcast then [packet] else [], [], none⟩)
  | completes {packet rearPacket : List UInt8} (packed : packFrontSteering config s clock false = .ok packet)
    (front : sends.front = none) (broadcast : config.broadcast = true → sends.broadcast = none)
    (rear : packRearDrive s clock = .ok rearPacket) (taken : sends.rear = none) :
    PublishOutcome config s clock sends
      ({ s with
          sentFrontPackets := s.sentFrontPackets + 1
          sentRearPackets := s.sentRearPackets + 1
          sequence := s.sequence + 1
          aliveCount := s.aliveCount + 1
          lastError := none },
        ⟨[packet], if config.broadcast then [packet] else [], [rearPacket], none⟩)

theorem publish_outcome (config : Config) (s : RemoteControlState) (clock : Clock) (sends : Sends) :
    PublishOutcome config s clock sends (publish config s clock sends) := by
  cases packed : packFrontSteering config s clock false with
  | error error =>
    simp only [publish, packed]
    exact .frontUnpacked packed
  | ok packet =>
    cases front : sends.front with
    | some text =>
      simp only [publish, packed, front]
      exact .frontFails packed front
    | none =>
      cases broadcast : if config.broadcast then sends.broadcast else none with
      | some text =>
        simp only [publish, packed, front, broadcast]
        split at broadcast
        · rename_i configured
          exact .broadcastFails packed front configured broadcast
        · cases broadcast
      | none =>
        have unhindered : config.broadcast = true → sends.broadcast = none := by
          intro configured
          rwa [if_pos configured] at broadcast
        cases rear : packRearDrive s clock with
        | error error =>
          simp only [publish, packed, front, broadcast, rear]
          exact .rearUnpacked packed front unhindered rear
        | ok rearPacket =>
          cases taken : sends.rear with
          | some text =>
            simp only [publish, packed, front, broadcast, rear, taken]
            exact .rearFails packed front unhindered rear taken
          | none =>
            simp only [publish, packed, front, broadcast, rear, taken]
            exact .completes packed front unhindered rear taken

/-- Every packet of a publish is packed from the state, which keeps its commands. -/
theorem publish_sent (config : Config) (s : RemoteControlState) (clock : Clock) (sends : Sends) :
    let result := publish config s clock sends
    (∀ packet ∈ result.2.front ++ result.2.broadcast, packFrontSteering config s clock false = .ok packet) ∧
      (∀ packet ∈ result.2.rear, packRearDrive s clock = .ok packet) ∧
      result.1.emergencyStop = s.emergencyStop ∧ result.1.driveCommand = s.driveCommand ∧
      result.1.targetSpeedMps = s.targetSpeedMps := by
  have sent {packet : List UInt8} (packed : packFrontSteering config s clock false = .ok packet) :
      ∀ copy ∈ [packet] ++ (if config.broadcast then [packet] else []),
        packFrontSteering config s clock false = .ok copy := by
    intro copy member
    have same : copy = packet := by
      split at member <;> simpa using member
    rw [same, packed]
  have outcome := publish_outcome config s clock sends
  generalize publish config s clock sends = result at *
  cases outcome with
  | frontUnpacked => exact ⟨by simp, by simp, rfl, rfl, rfl⟩
  | frontFails => exact ⟨by simp [nothingSent], by simp [nothingSent], rfl, rfl, rfl⟩
  | broadcastFails packed => exact ⟨by simp [packed], by simp, rfl, rfl, rfl⟩
  | rearUnpacked packed => exact ⟨sent packed, by simp, rfl, rfl, rfl⟩
  | rearFails packed => exact ⟨sent packed, by simp, rfl, rfl, rfl⟩
  | completes packed _ _ rear => exact ⟨sent packed, by simp [rear], rfl, rfl, rfl⟩

end SelfDriving.Hpvc.Remote
