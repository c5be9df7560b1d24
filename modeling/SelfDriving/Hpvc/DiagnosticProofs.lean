import SelfDriving.Hpvc.Diagnostic
import SelfDriving.Middle.RoundTripProofs

/-! The decoder of diagnostic packets against their two encoders: they agree on every field, and
the decoder knows another magic number than the encoders write. -/
namespace SelfDriving.Hpvc.Diagnostic
open Ieee754 Python Bytes Middle

/-- What a packet is to come back as. -/
def received (args : Arguments) : Values where
  packetValid := args.packetValid
  linkValid := args.linkValid
  controlValid := args.controlValid
  middleFlags := (args.rpi2Flags % 2 ^ 8).toNat
  sequence := (args.sequence % 2 ^ 32).toNat
  packetAgeS := args.packetAgeS
  steeringRad := toSingle args.steeringRad
  hpvcTimeS := args.rpi1TimeS

/-- An encoder builds a packet, and the decoder takes the values out of it. -/
def ComesBack (encode : Arguments → Except PyError (List UInt8)) (args : Arguments) : Prop :=
  ∃ packet, encode args = .ok packet ∧ decodePacket packet = .ok (received args)

/-- Against a receiver that echoes, the probe succeeds. -/
def ProbeSucceeds (packetValid linkValid controlValid : Bool) (rpi2Flags : Int) (steeringRad : F64)
    (clock : ProbeClock) : Prop :=
  ∃ ms, probeDiagnosticRoundtrip packetValid linkValid controlValid rpi2Flags steeringRad clock (echo true true) =
    .ok (true, ms)

/-- The two encoders are one. -/
theorem packDiagnostic_eq (args : Arguments) : packDiagnostic args = encodePacket args := rfl

theorem diagnosticPacket_cases (magic : List UInt8) (version headerSize : UInt8) (args : Arguments) :
    (∃ error, packSingle args.steeringRad = .error error ∧
      diagnosticPacket magic version headerSize args = .error error) ∨
    ∃ body, body = diagnosticBody magic version headerSize args (args.steeringRad.convert binary32) ∧
      diagnosticPacket magic version headerSize args = .ok (body ++ leBytes 4 (Crc32.crc32 body).toNat) := by
  unfold diagnosticPacket
  cases packed : packSingle args.steeringRad with
  | error error => exact .inl ⟨error, rfl, rfl⟩
  | ok steering =>
    rw [packSingle_eq_ok packed]
    exact .inr ⟨_, rfl, rfl⟩

/-- What a packet carries, and where. -/
theorem diagnosticPacket_values (a b c d version headerSize : UInt8) (args : Arguments) (steering : F32) (crc : Nat) :
    let packet := diagnosticBody [a, b, c, d] version headerSize args steering ++ leBytes 4 crc
    packet.length = packetSize ∧ field packet 0 4 = [a, b, c, d] ∧ packet.getD 4 0 = version ∧
      packet.getD 5 0 = status args ∧ field packet 6 1 = maskedBytes 1 args.rpi2Flags ∧
      field packet 8 4 = maskedBytes 4 args.sequence ∧ field packet 12 8 = doubleBytes args.packetAgeS ∧
      field packet 20 4 = singleBytes steering ∧ field packet 24 8 = doubleBytes args.rpi1TimeS ∧
      field packet 36 4 = leBytes 4 crc ∧
      packet.take 36 = diagnosticBody [a, b, c, d] version headerSize args steering := by
  simp only [diagnosticBody, maskedBytes, doubleBytes, singleBytes, leBytes, List.cons_append, List.nil_append]
  exact ⟨rfl, rfl, rfl, rfl, rfl, rfl, rfl, rfl, rfl, rfl, rfl⟩

/-- Whatever it is built from, the decoder refuses the packet for its magic number. -/
theorem decodePacket_encodePacket {args : Arguments} {packet : List UInt8} (built : encodePacket args = .ok packet) :
    decodePacket packet = .error (.valueError "invalid diagnostic magic or version") := by
  rcases diagnosticPacket_cases magic version headerSize args with ⟨error, -, failed⟩ | ⟨body, rfl, packed⟩
  · rw [encodePacket, failed] at built
    cases built
  · rw [encodePacket, packed] at built
    obtain rfl := Except.ok.inj built
    generalize (Crc32.crc32 _).toNat = crc
    obtain ⟨size, start, -⟩ :=
      diagnosticPacket_values 0x52 0x31 0x44 0x47 version headerSize args (args.steeringRad.convert binary32) crc
    rw [decodePacket, magic, if_neg (not_not.mpr size), start, if_pos]
    rw [Bool.or_eq_true]
    exact .inl (by decide)

/-! ### Everything else agrees -/

theorem ofBits_doubleBytes (x : F64) : (Ieee.ofBits (leNat (doubleBytes x)) : F64) = x := by
  have fits : x.toBits < 256 ^ 8 := x.toBits_lt.trans_le (by decide)
  rw [doubleBytes, leNat_leBytes fits, Ieee.ofBits_toBits]

/-- Each flag has a bit of the status. -/
theorem status_bits (args : Arguments) :
    Decidable.decide (status args &&& 0x01 ≠ 0) = args.packetValid ∧
      Decidable.decide (status args &&& 0x02 ≠ 0) = args.linkValid ∧
      Decidable.decide (status args &&& 0x04 ≠ 0) = args.controlValid := by
  unfold status
  cases args.packetValid <;> cases args.linkValid <;> cases args.controlValid <;> decide

/-- Under the magic number of the decoder, with the version that both have, every packet comes
back. -/
theorem decodePacket_diagnosticPacket (headerSize : UInt8) {args : Arguments} {packet : List UInt8}
    (built : diagnosticPacket decodedMagic 1 headerSize args = .ok packet) :
    decodePacket packet = .ok (received args) := by
  rcases diagnosticPacket_cases decodedMagic 1 headerSize args with ⟨error, -, failed⟩ | ⟨body, rfl, packed⟩
  · rw [failed] at built
    cases built
  rw [packed] at built
  obtain rfl := Except.ok.inj built
  generalize crcOf :
    (Crc32.crc32 (diagnosticBody decodedMagic 1 headerSize args (args.steeringRad.convert binary32))).toNat = crc
  have fits : crc < 256 ^ 4 := crcOf ▸ UInt32.toNat_lt _
  obtain ⟨size, start, version, statusByte, flags, sequence, age, steering, time, sealed, whole⟩ :=
    diagnosticPacket_values 0x48 0x50 0x44 0x47 1 headerSize args (args.steeringRad.convert binary32) crc
  obtain ⟨packetValid, linkValid, controlValid⟩ := status_bits args
  rw [decodedMagic] at crcOf ⊢
  simp only [decodePacket, size, start, version, statusByte, leField, sealed, whole, leNat_leBytes fits, crcOf,
    packetValid, linkValid, controlValid, flags, sequence, leNat_maskedBytes_toNat, doubleAt, singleAt, age, steering,
    time, ofBits_doubleBytes, ofBits_singleBytes]
  rw [if_neg (not_not.mpr rfl), if_neg (by decide), if_neg (not_not.mpr rfl)]
  rfl

/-! ### Nothing comes back -/

theorem echo_packDiagnostic {args : Arguments} {packet : List UInt8} (built : packDiagnostic args = .ok packet)
    (sends : Bool) : echo true sends packet = none := by
  rw [packDiagnostic_eq] at built
  rw [echo, decodePacket_encodePacket built]

/-- No packet of either encoder is decoded, whatever it is built from, and no probe succeeds. -/
theorem diagnostics_never_come_back (args : Arguments) (clock : ProbeClock) :
    ¬ ComesBack encodePacket args ∧ ¬ ComesBack packDiagnostic args ∧
    ¬ ProbeSucceeds args.packetValid args.linkValid args.controlValid args.rpi2Flags args.steeringRad clock := by
  have refused : ¬ ComesBack encodePacket args := by
    rintro ⟨packet, built, decoded⟩
    rw [decodePacket_encodePacket built] at decoded
    cases decoded
  refine ⟨refused, refused, ?_⟩
  rintro ⟨ms, succeeds⟩
  simp only [probeDiagnosticRoundtrip] at succeeds
  split at succeeds
  · cases succeeds
  · rename_i packet built
    rw [echo_packDiagnostic built] at succeeds
    cases succeeds

/-- A probe as the lane change program sends it, with everything valid. -/
def plainArguments : Arguments := ⟨true, true, true, 3, 1000, 0.0, 0.25, 1.0⟩

/-- The packet is built, and the receiver takes it for something else. -/
theorem plain_packet_refused :
    ∃ packet, encodePacket plainArguments = .ok packet ∧ packDiagnostic plainArguments = .ok packet ∧
      decodePacket packet = .error (.valueError "invalid diagnostic magic or version") ∧
      echo true true packet = none := by
  have packed : packSingle plainArguments.steeringRad = .ok (plainArguments.steeringRad.convert binary32) := by
    decide +kernel
  rcases diagnosticPacket_cases magic version headerSize plainArguments with ⟨error, failed, -⟩ | ⟨body, -, built⟩
  · rw [packed] at failed
    cases failed
  · exact ⟨_, built, built, decodePacket_encodePacket built, echo_packDiagnostic built true⟩

end SelfDriving.Hpvc.Diagnostic
