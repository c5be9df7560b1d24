import SelfDriving.Front.FrameProofs

/-! What an invalid packet does to the steering. The wire contract asks for the center;
the node only returns there when the packet says so itself, by its emergency mark or
by the disabled mode. Any other invalid packet is counted and the wheels keep going
to the angle of the packet before. -/
namespace SelfDriving.Front
open Ieee754

/-- A packet that fails a check of the receiver, or lacks a mark of a valid command. -/
def Invalid (packet : Memory) : Prop :=
  ¬ Intact packet ∨ isFiniteFloat (readFloat32Le packet 20 : F32) = false ∨
    isFiniteFloat (readFloat32Le packet 24 : F32) = false ∨
    ¬ absFloat (readFloat32Le packet 20 : F32) ≤ steeringMaxAbsRad ∨ ¬ (readFloat32Le packet 24 : F32) > 0.0 ∨
    packet 6 &&& hpscFlagSteeringValid = 0 ∨ packet 6 &&& hpscFlagUpstreamValid = 0

theorem Invalid.unauthorized {packet : Memory} (invalid : Invalid packet) (intact : Intact packet) :
    ¬ Authorizes F32 packet := by
  intro authorizes
  rcases invalid with broken | angle | rate | bound | positive | steering | upstream
  · exact broken intact
  · rw [authorizes.angleFinite] at angle
    cases angle
  · rw [authorizes.rateFinite] at rate
    cases rate
  · exact bound authorizes.angleBound
  · exact positive authorizes.ratePositive
  · exact authorizes.steeringValid steering
  · exact authorizes.upstreamValid upstream

/-- The wheels go to the center, and no command is in force. -/
structure Centered (s : State F32) : Prop where
  targetAngleRad : s.targetAngleRad = 0.0
  commandValid : s.commandValid = false

/-- Without a command in force the target is the center. -/
def Idles (s : State F32) : Prop := s.commandValid = false → s.targetAngleRad = 0.0

theorem Idles.centered_iff {s : State F32} (idles : Idles s) : Centered s ↔ s.commandValid = false :=
  ⟨fun centered => centered.commandValid, fun valid => ⟨idles valid, valid⟩⟩

theorem Uncounted.centered_iff {s next : State F32} (same : Uncounted s next) : Centered next ↔ Centered s := by
  rw [same]
  exact ⟨fun centered => ⟨centered.targetAngleRad, centered.commandValid⟩,
    fun centered => ⟨centered.targetAngleRad, centered.commandValid⟩⟩

theorem idles_acceptTarget (sequence : UInt32) (angleRad maxRateRadS : F32) (commandValid emergencyCenter : Bool)
    (nowMs : UInt32) (s : State F32) :
    Idles (acceptTarget sequence angleRad maxRateRadS commandValid emergencyCenter nowMs s) := by
  intro invalid
  simp only [acceptTarget] at invalid ⊢
  rw [invalid, if_neg Bool.false_ne_true]

theorem idles_next {s : State F32} (idles : Idles s) (call : Call) : Idles ((node F32).next s call) := by
  rcases step_cases s call with ⟨-, -, keeps⟩ | ⟨packet, start, -, -, -, -, -, takes⟩
  · rcases keeps.steering with ⟨-, -, -, target⟩ | ⟨-, command, -, target⟩
    · exact fun _ => target
    · intro invalid
      rw [target]
      exact idles (command.symm.trans invalid)
  · rcases takes with ⟨-, taken⟩ | ⟨-, emergency, taken⟩
    · rw [taken]
      exact idles_acceptTarget _ _ _ _ _ _ _
    · rw [taken]
      exact idles_acceptTarget _ _ _ _ _ _ _

theorem idles_run (bootMs : UInt32) (calls : List Call) : Idles ((node F32).run (init bootMs) calls) :=
  (node F32).run_invariant Idles (fun _ call idles => idles_next idles call) (fun _ => rfl) calls

/-- An invalid packet centers exactly when it asks for it, or when the wheels go to the
center already. -/
theorem acceptHpscPacket_centers_iff {s : State F32} (idles : Idles s) {packet : Memory} (invalid : Invalid packet)
    (fresh : Fresh s packet) (nowMs : UInt32) :
    Centered (acceptHpscPacket (some packet) hpscPacketSize nowMs s).2 ↔
      (Intact packet ∧ (packet 6 &&& hpscFlagEmergencyCenter ≠ 0 ∨ packet 5 = hpscControlDisabled)) ∨
        s.commandValid = false := by
  rcases acceptHpscPacket_cases (some packet) hpscPacketSize nowMs s with
    ⟨refused, same⟩ | ⟨_, located, _, accepted, intact, _, takes⟩
  · rw [same.centered_iff, idles.centered_iff]
    refine (or_iff_right ?_).symm
    rintro ⟨intact, command⟩
    have effective : Effective F32 packet := command.elim .inl fun disabled => .inr (.inl disabled)
    have accepted : accepts s nowMs packet = true := accepts_iff.mpr ⟨intact, fresh, effective⟩
    rw [accepts, refused] at accepted
    cases accepted
  · cases located
    have unauthorized := invalid.unauthorized intact
    have acceptable := accepts_iff.mp (accepted : accepts s nowMs packet = true)
    have command := acceptable.effective.imp_right fun rest => rest.resolve_right unauthorized
    refine iff_of_true ?_ (.inl ⟨intact, command⟩)
    rcases takes with ⟨authorizes, -⟩ | ⟨-, emergency, taken⟩
    · exact absurd authorizes unauthorized
    · rw [taken]
      exact ⟨rfl, rfl⟩

/-- In every reachable state, an invalid packet that is fresh centers the steering
exactly when it is intact and asks for the center, or when no command is in force. -/
theorem invalid_packet_centers_iff (bootMs : UInt32) (calls : List Call) (packet : Memory) (nowMs : UInt32)
    (invalid : Invalid packet) (fresh : Fresh ((node F32).run (init bootMs) calls) packet) :
    let s := (node F32).run (init bootMs) calls
    let next := (node F32).next s (.acceptHpscPacket (some packet) 40 nowMs)
    (next.targetAngleRad = 0.0 ∧ next.commandValid = false) ↔
      (Intact packet ∧ (packet 6 &&& hpscFlagEmergencyCenter ≠ 0 ∨ packet 5 = hpscControlDisabled)) ∨
        s.commandValid = false := by
  intro s next
  rw [← acceptHpscPacket_centers_iff (idles_run bootMs calls) invalid fresh nowMs]
  exact ⟨fun both => ⟨both.1, both.2⟩, fun centered => ⟨centered.targetAngleRad, centered.commandValid⟩⟩

/-- The packet after `quarterPacket`: the same angle, with the authorization withdrawn. -/
def withdrawnPacket : Memory := fun index =>
  [0x48, 0x50, 0x53, 0x43, 1, 1, 4, 32, 8, 0, 0, 0, 0, 0, 0, 0, 0, 0, 0, 0, 0x00, 0x00, 0x80, 0x3E,
    0x00, 0x00, 0x80, 0x3F, 0, 0, 0, 0, 0, 0, 0, 0, 0x82, 0x77, 0x32, 0x6A].getD index 0

theorem invalid_withdrawnPacket : Invalid withdrawnPacket := .inr (.inr (.inr (.inr (.inr (.inl rfl)))))

theorem withdrawnPacket_idles :
    let next := (node F32).next ((node F32).run (init 0) []) (.acceptHpscPacket (some withdrawnPacket) 40 0)
    next.targetAngleRad = 0.0 ∧ next.commandValid = false :=
  (invalid_packet_centers_iff 0 [] withdrawnPacket 0 invalid_withdrawnPacket nofun).mpr (.inr rfl)

/-- The sender withdraws its authorization, and the wheels stay turned. -/
theorem withdrawn_command_keeps_steering :
    ¬ ∀ (bootMs : UInt32) (calls : List Call) (packet : Memory) (nowMs : UInt32), Invalid packet →
      Fresh ((node F32).run (init bootMs) calls) packet →
        let next := (node F32).next ((node F32).run (init bootMs) calls) (.acceptHpscPacket (some packet) 40 nowMs)
        next.targetAngleRad = 0.0 ∧ next.commandValid = false := by
  intro all
  have newer : sequenceNewer (sequenceOf withdrawnPacket)
      ((node F32).run (init 0) [.acceptHpscPacket (some quarterPacket) 40 0]).lastSequence = true := by decide +kernel
  have steers : ((node F32).next ((node F32).run (init 0) [.acceptHpscPacket (some quarterPacket) 40 0])
      (.acceptHpscPacket (some withdrawnPacket) 40 20)).commandValid = true := by decide +kernel
  obtain ⟨-, stops⟩ := all 0 [.acceptHpscPacket (some quarterPacket) 40 0] withdrawnPacket 20 invalid_withdrawnPacket
    fun _ => newer
  rw [steers] at stops
  cases stops

end SelfDriving.Front
