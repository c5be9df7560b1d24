import SelfDriving.Foundations.RegisterBus
import SelfDriving.Foundations.Crc32Code

/-! The reference spads of the time-of-flight sensor: the node reads how many are wanted and of
which type, reads the map of those there are, and writes back the map of those to use. -/
namespace SelfDriving.Front
open RegisterBus

/-- Transfers with the sensor: a register is one byte, and so is each value. -/
abbrev SensorProgram := Program UInt8 UInt8

/-- The registers of the reference SPADs: the map, their information, and the first one in use. -/
def spadEnables : UInt8 := 0xB0
def spadInfo : UInt8 := 0x92
def refStart : UInt8 := 0xB6

/-- The driver gives up at the first transfer that fails. -/
def vl53l0xWrite8 (register value : UInt8) : SensorProgram Unit := .write register [value] (.done ())

def vl53l0xRead8 (register : UInt8) : SensorProgram UInt8 := .read register 1 fun data => .done (data.headD 0)

def vl53l0xReadMulti (register : UInt8) (size : Nat) : SensorProgram (List UInt8) := .read register size .done

def vl53l0xWriteMulti (register : UInt8) (data : List UInt8) : SensorProgram Unit := .write register data (.done ())

/-! ### How many and of which type -/

/-- The transfers that ask for the information. -/
def requestSpadInfo : SensorProgram Unit := do
  vl53l0xWrite8 0x80 0x01
  vl53l0xWrite8 0xFF 0x01
  vl53l0xWrite8 0x00 0x00
  vl53l0xWrite8 0xFF 0x06
  let value ← vl53l0xRead8 0x83
  vl53l0xWrite8 0x83 (value ||| 0x04)
  vl53l0xWrite8 0xFF 0x07
  vl53l0xWrite8 0x81 0x01
  vl53l0xWrite8 0x80 0x01
  vl53l0xWrite8 0x94 0x6B
  vl53l0xWrite8 0x83 0x00

/-- The loop that waits for it: one read, and as many more as the time allows. -/
def awaitSpadInfo : Nat → SensorProgram UInt8
  | 0 => vl53l0xRead8 0x83
  | polls + 1 => do
    let value ← vl53l0xRead8 0x83
    if value = 0 then awaitSpadInfo polls else pure value

/-- The transfers that take it. -/
def takeSpadInfo : SensorProgram (UInt8 × Bool) := do
  vl53l0xWrite8 0x83 0x01
  let info ← vl53l0xRead8 spadInfo
  vl53l0xWrite8 0x81 0x00
  vl53l0xWrite8 0xFF 0x06
  let value ← vl53l0xRead8 0x83
  vl53l0xWrite8 0x83 (value &&& ~~~0x04)
  vl53l0xWrite8 0xFF 0x01
  vl53l0xWrite8 0x00 0x01
  vl53l0xWrite8 0xFF 0x00
  vl53l0xWrite8 0x80 0x00
  pure (info &&& 0x7F, info &&& 0x80 ≠ 0)

/-- How many SPADs are to be used, and whether they have an aperture. -/
def vl53l0xGetSpadInfo (polls : Nat) : SensorProgram (UInt8 × Bool) := do
  requestSpadInfo
  let value ← awaitSpadInfo polls
  if value = 0 then .failed else takeSpadInfo

/-! ### The map -/

/-- One round of the loop over the map: the map and how many spads are enabled so far. -/
def enableSpad (firstSpadToEnable spadCount : UInt8) (state : List UInt8 × UInt8) (i : Nat) : List UInt8 × UInt8 :=
  let byteIndex := i / 8
  let bitMask : UInt8 := 1 <<< UInt8.ofNat (i % 8)
  let byte := state.1.getD byteIndex 0
  if i < firstSpadToEnable.toNat ∨ state.2 = spadCount then (state.1.set byteIndex (byte &&& ~~~bitMask), state.2)
  else if byte &&& bitMask ≠ 0 then (state.1, state.2 + 1)
  else state

/-- The loop up to a position. -/
def enableSpads (firstSpadToEnable spadCount : UInt8) (refSpadMap : List UInt8) (stop : Nat) : List UInt8 × UInt8 :=
  (List.range stop).foldl (enableSpad firstSpadToEnable spadCount) (refSpadMap, 0)

/-- SPADs with an aperture begin at the twelfth. -/
def firstSpad (spadTypeIsAperture : Bool) : UInt8 := if spadTypeIsAperture then 12 else 0

/-- The map that the sensor has is read, thinned out and written back. -/
def vl53l0xConfigureSpads (polls : Nat) : SensorProgram Unit := do
  let (spadCount, spadTypeIsAperture) ← vl53l0xGetSpadInfo polls
  let refSpadMap ← vl53l0xReadMulti spadEnables 6
  vl53l0xWrite8 0xFF 0x01
  vl53l0xWrite8 0x4F 0x00
  vl53l0xWrite8 0x4E 0x2C
  vl53l0xWrite8 0xFF 0x00
  vl53l0xWrite8 refStart 0xB4
  vl53l0xWriteMulti spadEnables (enableSpads (firstSpad spadTypeIsAperture) spadCount refSpadMap 48).1

end SelfDriving.Front
