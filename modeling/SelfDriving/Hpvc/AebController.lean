import Mathlib.Data.Int.Bitwise
import SelfDriving.Foundations.Machine
import SelfDriving.Middle.Protocol

/-! The emergency braking decision of the HPVC. Each call sees the latest front
and middle frames, discards those that are stale, takes the most severe range
reading and, after a full brake, holds the brake for a while. -/
namespace SelfDriving.Hpvc
open Ieee754 Middle

/-- The bits of the two masks. -/
def validLeft : Nat := 0
def validRight : Nat := 1
def validTofBit : Nat := 2
def flagPersonDetectionValid : Nat := 4

/-- The states of the controller. -/
inductive AebState where
  | clear
  | fcw
  | partialBrake
  | fullBrake
  | stopHold
  | degraded
  | sensorFault
  deriving DecidableEq

/-- The numbers of the states, which also rank them. -/
def AebState.toNat : AebState → Nat
  | clear => 0
  | fcw => 1
  | partialBrake => 2
  | fullBrake => 3
  | stopHold => 4
  | degraded => 5
  | sensorFault => 6

/-- Why a decision is what it is. -/
inductive ReasonCode where
  | clear
  | frontTofClose
  | frontUltrasonicClose
  | personInPath
  | personWithFrontRange
  | noFreshInput
  | frontStale
  | middleStale
  deriving DecidableEq

/-- What counts as a distance. -/
def finitePositive (value : F64) : Bool := value.isFinite && (0.0 : F64) < value

/-- The front distances, with when they arrived. -/
structure FrontSensorFrame where
  sequence : Int
  timestampMs : Int
  arrivalTime : F64
  validMask : Int
  tofDiag : Int
  tofFrontM : F64
  ultrasonicLeftM : F64
  ultrasonicRightM : F64
  deriving DecidableEq

/-- A distance counts when its bit is set and it is one. -/
def FrontSensorFrame.tofValid (front : FrontSensorFrame) : Bool :=
  front.validMask.testBit validTofBit && finitePositive front.tofFrontM

def FrontSensorFrame.leftValid (front : FrontSensorFrame) : Bool :=
  front.validMask.testBit validLeft && finitePositive front.ultrasonicLeftM

def FrontSensorFrame.rightValid (front : FrontSensorFrame) : Bool :=
  front.validMask.testBit validRight && finitePositive front.ultrasonicRightM

/-- What the perception service saw, with when it arrived. -/
structure MiddleFrame where
  sequence : Int
  arrivalTime : F64
  flags : Int
  sideLeftM : F64
  sideRightM : F64
  persons : List PersonDetection
  deriving DecidableEq

def MiddleFrame.personDetectionValid (middle : MiddleFrame) : Bool :=
  middle.flags.testBit flagPersonDetectionValid

/-- A decision, as it is sent on. -/
structure AebDecision where
  sequence : UInt32
  state : AebState
  brakePercent : Int
  reason : ReasonCode
  reasonText : String
  threatDistanceM : F64
  confidence : F64
  frontFresh : Bool
  middleFresh : Bool
  personInPath : Bool
  deriving DecidableEq

/-- The limits, with the defaults of the program. -/
structure AebConfig where
  frontTimeoutS : F64 := 0.50
  middleTimeoutS : F64 := 0.50
  stopHoldS : F64 := 0.60
  personConfidenceMin : F64 := 0.35
  personCenterGateMin : F64 := 0.32
  personCenterGateMax : F64 := 0.68
  frontFcwM : F64 := 0.50
  frontPartialM : F64 := 0.30
  frontFullM : F64 := 0.18
  personRangeGain : F64 := 1.25
  sideFcwM : F64 := 0.30
  sidePartialM : F64 := 0.18
  sideFullM : F64 := 0.10

/-- What the controller remembers between decisions. -/
structure AebController where
  sequence : UInt32
  holdUntil : F64
  deriving DecidableEq

/-- Before the first decision. -/
def aebStart : AebController := ⟨0, 0.0⟩

/-- What one call of `decide` is given. -/
structure AebInput where
  front : Option FrontSensorFrame
  middle : Option MiddleFrame
  now : F64

section
variable (config : AebConfig)

/-- The front frame, unless it is stale. -/
def freshFront (input : AebInput) : Option FrontSensorFrame :=
  input.front.filter fun front => input.now - front.arrivalTime ≤ config.frontTimeoutS

/-- The middle frame, unless it is stale. -/
def freshMiddle (input : AebInput) : Option MiddleFrame :=
  input.middle.filter fun middle => input.now - middle.arrivalTime ≤ config.middleTimeoutS

/-- A person that counts: detected, confident enough and ahead. -/
def personCounts (person : PersonDetection) : Bool :=
  !(person.valid < (0.5 : F64)) && !(person.confidence < config.personConfidenceMin) &&
    (config.personCenterGateMin ≤ person.centerXNorm && person.centerXNorm ≤ config.personCenterGateMax)

/-- Whether a person is in the path, and the best confidence. -/
def personInPath (middle : Option MiddleFrame) : Bool × F64 :=
  match middle with
  | none => (false, 0.0)
  | some middle =>
    if !middle.personDetectionValid then (false, 0.0)
    else
      let bestConfidence := middle.persons.foldl
        (fun best person => if personCounts config person then Python.max best person.confidence else best)
        (0.0 : F64)
      ((0.0 : F64) < bestConfidence, bestConfidence)

/-- The zone a distance lies in, and its brake. -/
def zoneState (distanceM fullM partialM fcwM : F64) : AebState × Int :=
  if distanceM ≤ fullM then (.fullBrake, 100)
  else if distanceM ≤ partialM then (.partialBrake, 65)
  else if distanceM ≤ fcwM then (.fcw, 0)
  else (.clear, 0)

/-- The zone of a reading; a person in the path scales the zones in front. -/
def rangeState (distanceM : F64) (isFrontCenter personInPath : Bool) : AebState × Int :=
  let gain := if personInPath then config.personRangeGain else (1.0 : F64)
  let fullM := if isFrontCenter then config.frontFullM * gain else config.sideFullM
  let partialM := if isFrontCenter then config.frontPartialM * gain else config.sidePartialM
  let fcwM := if isFrontCenter then config.frontFcwM * gain else config.sideFcwM
  zoneState distanceM fullM partialM fcwM

/-- A range reading that may decide the brake. -/
structure Candidate where
  distanceM : F64
  reason : ReasonCode
  text : String
  confidence : F64
  isFrontCenter : Bool

/-- The readings of a frame: the front one, and the nearer of the two sides. -/
def candidates (front : FrontSensorFrame) (personInPath : Bool) (bestPersonConf : F64) : List Candidate :=
  let center := if front.tofValid then
      [⟨front.tofFrontM, if personInPath then .personWithFrontRange else .frontTofClose,
        if personInPath then "person/front ToF" else "front ToF", Python.max (0.65 : F64) bestPersonConf, true⟩]
    else []
  let sideValues := (if front.leftValid then [front.ultrasonicLeftM] else []) ++
    (if front.rightValid then [front.ultrasonicRightM] else [])
  let side := match sideValues with
    | [] => []
    | first :: rest =>
      [⟨rest.foldl Python.min first, .frontUltrasonicClose, "front side ultrasonic", (0.60 : F64), false⟩]
  center ++ side

/-- The most severe reading so far. -/
structure Best where
  state : AebState
  brake : Int
  reason : ReasonCode
  text : String
  distance : F64
  confidence : F64

/-- A reading that brakes more, or whose state is higher, takes the place of the best so far. -/
def consider (personInPath : Bool) (best : Best) (candidate : Candidate) : Best :=
  if !finitePositive candidate.distanceM then best
  else
    let (state, brake) := rangeState config candidate.distanceM candidate.isFrontCenter personInPath
    if brake > best.brake || state.toNat > best.state.toNat then
      ⟨state, brake, candidate.reason,
        candidate.text ++ " " ++ Python.formatFixed 3 candidate.distanceM ++ " m",
        candidate.distanceM, candidate.confidence⟩
    else best

/-- The most severe reading of a fresh front frame. -/
def mostSevere (front : Option FrontSensorFrame) (personInPath : Bool) (bestPersonConf : F64) : Best :=
  let readings := match front with
    | none => []
    | some front => candidates front personInPath bestPersonConf
  readings.foldl (consider config personInPath)
    ⟨.clear, 0, .clear, "clear", Ieee.nan, if personInPath then bestPersonConf else 1.0⟩

/-- A person in the path is a warning even where no reading is close. -/
def warnOfPerson (personInPath : Bool) (bestPersonConf : F64) (best : Best) : Best :=
  if best.state = .clear && personInPath then
    { best with
      state := .fcw
      reason := .personInPath
      text := "person in path without close range"
      confidence := bestPersonConf }
  else best

/-- The result of a call whose inputs are usable, before the hold. -/
def assess (front : Option FrontSensorFrame) (personInPath : Bool) (bestPersonConf : F64) : Best :=
  warnOfPerson personInPath bestPersonConf (mostSevere config front personInPath bestPersonConf)

/-- The brake hold: a full brake extends it, and within it every other result becomes one. -/
def applyHold (now : F64) (best : Best) (controller : AebController) : AebController × Best :=
  if best.state = .fullBrake then
    ({ controller with holdUntil := Python.max controller.holdUntil (now + config.stopHoldS) }, best)
  else if now < controller.holdUntil then
    (controller, { best with state := .stopHold, brake := Max.max best.brake 100, text := "stop hold" })
  else (controller, best)

/-- The decision with the number of this call. -/
def decision (controller : AebController) (best : Best) (frontFresh middleFresh personInPath : Bool) :
    AebDecision where
  sequence := controller.sequence
  state := best.state
  brakePercent := Max.max 0 (Min.min 100 best.brake)
  reason := best.reason
  reasonText := best.text
  threatDistanceM := best.distance
  confidence := Python.max (0.0 : F64) (Python.min (1.0 : F64) best.confidence)
  frontFresh := frontFresh
  middleFresh := middleFresh
  personInPath := personInPath

/-- One call: with nothing fresh it is at fault, with a person ahead and no front frame it is degraded. -/
def decide (controller : AebController) (input : AebInput) : AebController × AebDecision :=
  let controller := { controller with sequence := controller.sequence + 1 }
  let front := freshFront config input
  let middle := freshMiddle config input
  let (person, bestPersonConf) := personInPath config middle
  if front.isNone && middle.isNone then
    (controller, decision controller
      ⟨.sensorFault, 0, .noFreshInput, "no fresh front or middle input", Ieee.nan, 0.0⟩ false false person)
  else if front.isNone && person then
    (controller, decision controller
      ⟨.degraded, 0, .frontStale, "person in path but front range is stale", Ieee.nan, bestPersonConf⟩
      front.isSome middle.isSome person)
  else
    let best := assess config front person bestPersonConf
    let (controller, best) := applyHold config input.now best controller
    (controller, decision controller best front.isSome middle.isSome person)

/-- A controller that is asked again and again. -/
def aeb : Machine AebController AebInput AebDecision where
  step controller input := decide config controller input

end
end SelfDriving.Hpvc
