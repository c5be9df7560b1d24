import SelfDriving.Hpvc.RuntimeApi

/-! What the runtime store reads in a datagram on the FRONT port: it goes by the length,
and by the magic number where the datagram is long enough for the present kind. -/
namespace SelfDriving.Hpvc
open Ieee754 Python Bytes

/-- The snapshot has the values of a packet of the present kind. -/
structure CarriesAeb1 (data : List UInt8) (snapshot : FrontSnapshot) : Prop where
  left : snapshot.leftDiagDistanceM = Ieee.ofInt (leField data 18 2) / (1000.0 : F64)
  right : snapshot.rightDiagDistanceM = Ieee.ofInt (leField data 20 2) / (1000.0 : F64)
  tof : snapshot.tofM = Ieee.ofInt (leField data 16 2) / (1000.0 : F64)
  validMask : snapshot.sensorValid = leField data 5 1
  fault : snapshot.sensorFault = leField data 6 2
  sequence : snapshot.sequence = some (leField data 8 4)
  timestampMs : snapshot.timestampMs = some (leField data 12 4)

/-- The snapshot has the values of a packet of an older kind, whose valid mask is at `place`. -/
structure CarriesLegacy (data : List UInt8) (place : Nat) (snapshot : FrontSnapshot) : Prop where
  left : snapshot.leftDiagDistanceM = singleAt data 0
  right : snapshot.rightDiagDistanceM = singleAt data 4
  tof : snapshot.tofM = singleAt data 8
  validMask : snapshot.sensorValid = leField data place 1
  fault : snapshot.sensorFault = leField data (place + 1) 1

/-- An AEB1 datagram of the first version delivers its values; one of another version is skipped. -/
theorem decodeFrontAeb_aeb1 {data : List UInt8} (long : frontAeb1Bytes ≤ data.length)
    (aeb1 : field data 0 4 = frontAebMagic) :
    (leField data 4 1 ≠ 1 ∧ decodeFrontAeb data = none) ∨
    (leField data 4 1 = 1 ∧ ∃ snapshot, decodeFrontAeb data = some snapshot ∧ CarriesAeb1 data snapshot) := by
  have guard : (data.length ≥ frontAeb1Bytes && field data 0 4 = frontAebMagic) = true := by
    simp only [ge_iff_le, long, aeb1, decide_true, Bool.and_self]
  by_cases versioned : leField data 4 1 = 1
  · refine .inr ⟨versioned, ?_⟩
    rw [decodeFrontAeb, if_pos guard, if_neg (not_not.mpr versioned)]
    exact ⟨_, rfl, rfl, rfl, rfl, rfl, rfl, rfl, rfl⟩
  · refine .inl ⟨versioned, ?_⟩
    rw [decodeFrontAeb, if_pos guard, if_pos versioned]

/-- Any other datagram is taken for one of the older kinds, by its length. -/
theorem decodeFrontAeb_legacy {data : List UInt8}
    (other : ¬(data.length ≥ frontAeb1Bytes && field data 0 4 = frontAebMagic) = true) :
    (frontAebV2Bytes ≤ data.length ∧ ∃ snapshot, decodeFrontAeb data = some snapshot ∧ CarriesLegacy data 21 snapshot) ∨
    (data.length < frontAebV2Bytes ∧ frontAebV1Bytes ≤ data.length ∧
      ∃ snapshot, decodeFrontAeb data = some snapshot ∧ CarriesLegacy data 12 snapshot) ∨
    (data.length < frontAebV1Bytes ∧ decodeFrontAeb data = none) := by
  rw [decodeFrontAeb, if_neg other]
  by_cases v2 : data.length ≥ frontAebV2Bytes
  · rw [if_pos v2]
    exact .inl ⟨v2, _, rfl, rfl, rfl, rfl, rfl, rfl⟩
  rw [if_neg v2]
  by_cases v1 : data.length ≥ frontAebV1Bytes
  · rw [if_pos v1]
    exact .inr (.inl ⟨Nat.not_le.mp v2, v1, _, rfl, rfl, rfl, rfl, rfl, rfl⟩)
  · rw [if_neg v1]
    exact .inr (.inr ⟨Nat.not_le.mp v1, rfl⟩)

end SelfDriving.Hpvc
