import SelfDriving.Hpvc.ReceiveFrontend

/-! The decoder of the HPVC model for the sensor packets of FRONT. -/
namespace SelfDriving.Hpvc
open Ieee754

/-- The distances are those of the left, the right and the ToF sensor. -/
structure FrontAebPacket where
  distancesM : List F32
  validMask : UInt8
  sequence : UInt32
  timestampMs : UInt32
  tofDiag : UInt16
  packetValid : Bool
  deriving DecidableEq

/-- The outputs for a packet that is not valid. -/
def noFrontPacket : FrontAebPacket where
  distancesM := [Ieee.nan, Ieee.nan, Ieee.nan]
  validMask := 0
  sequence := 0
  timestampMs := 0
  tofDiag := 0
  packetValid := false

/-- `single(double(value) / 1000.0)`. -/
def metresSingle (value : UInt16) : F32 := (Ieee.ofInt value.toNat / (1000.0 : F64)).convert binary32

def frontAebDecodePacket (data : List UInt8) (receiveStatus : Bool) : FrontAebPacket :=
  if !receiveStatus || data.length < 22 then noFrontPacket
  else
    let magicValid := byteAt data 1 = 65 && byteAt data 2 = 69 && byteAt data 3 = 66 && byteAt data 4 = 49
    let versionValid := byteAt data 5 = 1
    if !(magicValid && versionValid) then noFrontPacket
    else
      let tofCmX10 := readU16 data 17
      let leftCmX10 := readU16 data 19
      let rightCmX10 := readU16 data 21
      { distancesM := [metresSingle leftCmX10, metresSingle rightCmX10, metresSingle tofCmX10]
        validMask := byteAt data 6
        sequence := readU32 data 9
        timestampMs := readU32 data 13
        tofDiag := readU16 data 7
        packetValid := true }

end SelfDriving.Hpvc
