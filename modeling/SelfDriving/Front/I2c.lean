import SelfDriving.Foundations.TwoWireBus

/-! The I2C bus to the time-of-flight sensor, bit by bit on two port pins. A pin is either an
input, pulled up, or an output that is low, so a line is pulled or let go. A half period is one
instant at least; how often the wait for the clock looks at the line before its time is up is a
parameter. -/
namespace SelfDriving.Front
open TwoWireBus

/-- The sensor's address as the first byte of a transfer to it. -/
def i2cWriteAddress : UInt8 := (0x29 : UInt8) <<< 1

def i2cReadAddress : UInt8 := i2cWriteAddress ||| 1

section
variable {σ : Type} (partner : Partner σ) (polls : Nat)

/-- A line is driven low or let go, never driven high. -/
def i2cReleaseSda : StateM (Wires σ) Unit := partner.setSda false

def i2cReleaseScl : StateM (Wires σ) Unit := partner.setScl false

def i2cDriveSdaLow : StateM (Wires σ) Unit := partner.setSda true

def i2cDriveSclLow : StateM (Wires σ) Unit := partner.setScl true

/-- The sensor may hold the clock for a while. -/
def i2cWaitSclHigh : StateM (Wires σ) Bool := partner.waitScl polls

/-- Clock pulses of the loop that sets up the bus. -/
def i2cPulses : Nat → StateM (Wires σ) Unit
  | 0 => return ()
  | pulses + 1 => do
    i2cDriveSclLow partner
    partner.pause
    i2cReleaseScl partner
    let _ ← i2cWaitSclHigh partner polls
    partner.pause
    i2cPulses pulses

/-- Nine pulses free a sensor that was cut off. -/
def i2cBusInit : StateM (Wires σ) Unit := do
  i2cReleaseSda partner
  i2cReleaseScl partner
  partner.pause
  i2cPulses partner polls 9

/-- A start, if the clock rises. -/
def i2cStart : StateM (Wires σ) Bool := do
  i2cReleaseSda partner
  i2cReleaseScl partner
  if ← i2cWaitSclHigh partner polls then
    partner.pause
    i2cDriveSdaLow partner
    partner.pause
    i2cDriveSclLow partner
    return true
  else return false

/-- A stop; whether the clock rose is told. -/
def i2cStop : StateM (Wires σ) Bool := do
  i2cDriveSdaLow partner
  partner.pause
  i2cReleaseScl partner
  if ← i2cWaitSclHigh partner polls then
    partner.pause
    i2cReleaseSda partner
    partner.pause
    return true
  else return false

/-- The bits of a byte below a position, the highest first. -/
def i2cWriteBits (byte : UInt8) : Nat → StateM (Wires σ) Bool
  | 0 => return true
  | bit + 1 => do
    if byte &&& (1 <<< UInt8.ofNat bit) ≠ 0 then i2cReleaseSda partner else i2cDriveSdaLow partner
    partner.pause
    i2cReleaseScl partner
    if ← i2cWaitSclHigh partner polls then
      partner.pause
      i2cDriveSclLow partner
      i2cWriteBits byte bit
    else return false

/-- A byte, and whether it was acknowledged. -/
def i2cWriteByte (byte : UInt8) : StateM (Wires σ) Bool := do
  if ← i2cWriteBits partner polls byte 8 then
    i2cReleaseSda partner
    partner.pause
    i2cReleaseScl partner
    if ← i2cWaitSclHigh partner polls then
      partner.pause
      let ack := !(← readSda)
      i2cDriveSclLow partner
      return ack
    else return false
  else return false

/-- The bits below a position are added to a byte, unless the clock stays low. -/
def i2cReadBits : Nat → UInt8 → StateM (Wires σ) (Option UInt8)
  | 0, byte => return some byte
  | bit + 1, byte => do
    partner.pause
    i2cReleaseScl partner
    if ← i2cWaitSclHigh partner polls then
      let byte := if ← readSda then byte ||| (1 <<< UInt8.ofNat bit) else byte
      partner.pause
      i2cDriveSclLow partner
      i2cReadBits bit byte
    else return none

/-- A byte; 0xff without another word if the clock stays low. -/
def i2cReadByte (ack : Bool) : StateM (Wires σ) UInt8 := do
  i2cReleaseSda partner
  match ← i2cReadBits partner polls 8 0 with
  | none => return 0xff
  | some byte =>
    if ack then i2cDriveSdaLow partner else i2cReleaseSda partner
    partner.pause
    i2cReleaseScl partner
    let _ ← i2cWaitSclHigh partner polls
    partner.pause
    i2cDriveSclLow partner
    i2cReleaseSda partner
    return byte

/-- Bytes as long as each is acknowledged. -/
def i2cWriteBytes : List UInt8 → StateM (Wires σ) Bool
  | [] => return true
  | byte :: rest => do
    if ← i2cWriteByte partner polls byte then i2cWriteBytes rest else return false

/-- Every byte but the last is acknowledged. -/
def i2cReadBytes : Nat → StateM (Wires σ) (List UInt8)
  | 0 => return []
  | size + 1 => do
    let byte ← i2cReadByte partner polls (size ≠ 0)
    return byte :: (← i2cReadBytes size)

/-- A transfer that failed is stopped. -/
def i2cAbort : StateM (Wires σ) Bool := do
  let _ ← i2cStop partner polls
  return false

/-- A write of plain data. -/
def i2cWrite (data : List UInt8) : StateM (Wires σ) Bool := do
  if ← i2cStart partner polls then
    if ← i2cWriteByte partner polls i2cWriteAddress then
      if ← i2cWriteBytes partner polls data then i2cStop partner polls
      else i2cAbort partner polls
    else i2cAbort partner polls
  else i2cAbort partner polls

/-- A write to a register on. -/
def i2cWriteToRegister (reg : UInt8) (data : List UInt8) : StateM (Wires σ) Bool := do
  if ← i2cStart partner polls then
    if ← i2cWriteBytes partner polls [i2cWriteAddress, reg] then
      if ← i2cWriteBytes partner polls data then i2cStop partner polls
      else i2cAbort partner polls
    else i2cAbort partner polls
  else i2cAbort partner polls

/-- A register is named in a write, and read after a second start. -/
def i2cReadFromRegister (reg : UInt8) (size : Nat) : StateM (Wires σ) (Option (List UInt8)) := do
  if ← i2cStart partner polls then
    if ← i2cWriteBytes partner polls [i2cWriteAddress, reg] then
      if ← i2cStart partner polls then
        if ← i2cWriteByte partner polls i2cReadAddress then
          let data ← i2cReadBytes partner polls size
          if ← i2cStop partner polls then return some data else return none
        else
          let _ ← i2cAbort partner polls
          return none
      else
        let _ ← i2cAbort partner polls
        return none
    else
      let _ ← i2cAbort partner polls
      return none
  else
    let _ ← i2cAbort partner polls
    return none

end

end SelfDriving.Front
