import SelfDriving.Middle.Packing

/-! What the perception service puts into a packet: the lanes and the distances as they were
measured, the persons that were detected, and a flag for each part that there is. -/
namespace SelfDriving.Middle
open Ieee754

structure LaneDetectionResult where
  cameraValid : Bool
  laneValid : Bool
  left : LaneBoundary
  right : LaneBoundary

structure UltrasonicSnapshot where
  leftDistanceM : F64
  rightDistanceM : F64
  leftValid : Bool
  rightValid : Bool
  timestampUs : Int

def buildFlags (result : LaneDetectionResult) (ultrasonic : UltrasonicSnapshot) (persons : List PersonDetection) : Nat :=
  (if result.cameraValid then 1 else 0) ||| (if result.laneValid then 2 else 0) |||
    (if ultrasonic.leftValid then 4 else 0) ||| (if ultrasonic.rightValid then 8 else 0) |||
    (if persons.isEmpty then 0 else 16)

/-- The packet of one camera frame. -/
def servicePacket (sequence frameTimestampUs : Int) (result : LaneDetectionResult) (ultrasonic : UltrasonicSnapshot)
    (persons : List PersonDetection) : PerceptionPacket where
  sequence := sequence
  frameTimestampUs := frameTimestampUs
  ultrasonicTimestampUs := ultrasonic.timestampUs
  flags := buildFlags result ultrasonic persons
  left := result.left
  right := result.right
  sideLeftDistanceM := ultrasonic.leftDistanceM
  sideRightDistanceM := ultrasonic.rightDistanceM
  personCount := persons.length
  persons := persons

end SelfDriving.Middle
