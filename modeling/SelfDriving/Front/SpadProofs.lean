import Mathlib.Data.Nat.Bitwise
import Mathlib.Tactic.IntervalCases
import SelfDriving.Front.Spads

/-! What the node writes to the map of the spads is the first of the allowed ones that were
there, as many as were asked for. -/
namespace SelfDriving.Front
open RegisterBus Crc32

/-! ### One bit of the map -/

theorem mask_toNat {k : Nat} (small : k < 8) : ((1 : UInt8) <<< UInt8.ofNat k).toNat = 2 ^ k := by
  interval_cases k <;> rfl

theorem and_mask_ne_zero (byte : UInt8) {k : Nat} (small : k < 8) :
    byte &&& (1 <<< UInt8.ofNat k) ≠ 0 ↔ byte.toNat.testBit k = true := by
  rw [ne_eq, ← UInt8.toNat_inj, UInt8.toNat_and, mask_toNat small, Nat.and_two_pow, UInt8.toNat_zero]
  cases byte.toNat.testBit k <;> simp

theorem testBit_clear (byte : UInt8) {k : Nat} (small : k < 8) (i : Nat) :
    (byte &&& ~~~(1 <<< UInt8.ofNat k)).toNat.testBit i = (byte.toNat.testBit i && decide (i ≠ k)) := by
  have others : (~~~((1 : UInt8) <<< UInt8.ofNat k)).toNat = 2 ^ 8 - (2 ^ k + 1) := by
    rw [UInt8.toNat_not, mask_toNat small]
    change 256 - 1 - 2 ^ k = 256 - (2 ^ k + 1)
    omega
  rw [UInt8.toNat_and, Nat.testBit_and, others,
    Nat.testBit_two_pow_sub_succ (Nat.pow_lt_pow_right (by decide) small), Nat.testBit_two_pow]
  rcases Nat.lt_or_ge i 8 with inside | outside
  · simp [inside, eq_comm]
  · rw [Nat.testBit_lt_two_pow (byte.toNat_lt.trans_le (Nat.pow_le_pow_right (by decide) outside)),
      Bool.false_and, Bool.false_and]

/-- The map with one bit cleared. -/
theorem bitAt_clear {map : List UInt8} {position : Nat} (inside : position / 8 < map.length) (i : Nat) :
    bitAt (map.set (position / 8) (map.getD (position / 8) 0 &&& ~~~(1 <<< UInt8.ofNat (position % 8)))) i =
      (bitAt map i && decide (i ≠ position)) := by
  by_cases same : i / 8 = position / 8
  · have byte : i ≠ position ↔ i % 8 ≠ position % 8 := by omega
    rw [bitAt, bitAt, same, List.getD_eq_getElem?_getD, List.getElem?_set_self inside, Option.getD_some,
      testBit_clear _ (Nat.mod_lt _ (by decide)), decide_eq_decide.mpr byte]
  · have other : i ≠ position := fun equal => same (congrArg (· / 8) equal)
    rw [bitAt, bitAt, List.getD_eq_getElem?_getD, List.getElem?_set_ne (Ne.symm same),
      ← List.getD_eq_getElem?_getD, decide_eq_true other, Bool.and_true]

/-! ### The loop -/

/-- The positions below `stop` at which a spad may be enabled. -/
def available (first : Nat) (map : List UInt8) (stop : Nat) : List Nat :=
  (List.range stop).filter fun i => decide (first ≤ i) && bitAt map i

/-- The positions below `stop` at which a map has a bit set. -/
def enabled (map : List UInt8) (stop : Nat) : List Nat := (List.range stop).filter (bitAt map)

/-- The map after some rounds: below the position the first of the available spads, above it what
was read. -/
structure Enabling (first count : UInt8) (original : List UInt8) (stop : Nat) (state : List UInt8 × UInt8) : Prop where
  length : state.1.length = 6
  done : enabled state.1 stop = (available first.toNat original stop).take count.toNat
  counted : state.2.toNat = (enabled state.1 stop).length
  rest : ∀ i, stop ≤ i → bitAt state.1 i = bitAt original i

theorem filter_range_succ (p : Nat → Bool) (stop : Nat) :
    (List.range (stop + 1)).filter p = (List.range stop).filter p ++ if p stop = true then [stop] else [] := by
  cases holds : p stop <;> simp [List.range_succ, holds]

theorem available_succ (first : Nat) (map : List UInt8) (stop : Nat) :
    available first map (stop + 1) =
      available first map stop ++ if (decide (first ≤ stop) && bitAt map stop) = true then [stop] else [] :=
  filter_range_succ _ _

theorem enabled_succ (map : List UInt8) (stop : Nat) :
    enabled map (stop + 1) = enabled map stop ++ if bitAt map stop = true then [stop] else [] :=
  filter_range_succ _ _

/-- What is enabled below a position depends on the bits below it. -/
theorem enabled_congr {map map' : List UInt8} {stop : Nat} (same : ∀ i < stop, bitAt map i = bitAt map' i) :
    enabled map stop = enabled map' stop :=
  List.filter_congr fun i member => same i (List.mem_range.mp member)

theorem length_enabled_le (map : List UInt8) (stop : Nat) : (enabled map stop).length ≤ stop :=
  (List.length_filter_le _ _).trans_eq List.length_range

section
variable {first count : UInt8} {original : List UInt8} {stop : Nat} {state : List UInt8 × UInt8}

theorem Enabling.start (length : original.length = 6) : Enabling first count original 0 (original, 0) :=
  ⟨length, by simp [enabled, available], rfl, fun _ _ => rfl⟩

/-- How many are enabled: as many as there are, or enough. -/
theorem Enabling.number (so_far : Enabling first count original stop state) :
    state.2.toNat = min count.toNat (available first.toNat original stop).length := by
  rw [so_far.counted, so_far.done, List.length_take]

/-- A round that clears the bit, because the position is too low or there are enough. -/
theorem Enabling.clear (so_far : Enabling first count original stop state) {map : List UInt8} (length : map.length = 6)
    (cleared : ∀ i, bitAt map i = (bitAt state.1 i && decide (i ≠ stop)))
    (refused : stop < first.toNat ∨ state.2 = count) :
    Enabling first count original (stop + 1) (map, state.2) := by
  have same : ∀ i < stop, bitAt map i = bitAt state.1 i := fun i less => by
    rw [cleared, decide_eq_true less.ne, Bool.and_true]
  have kept : enabled map (stop + 1) = enabled state.1 stop := by
    rw [enabled_succ, cleared, if_neg (by simp), List.append_nil, enabled_congr same]
  refine ⟨length, ?_, ?_, fun i later => ?_⟩
  · rw [kept, so_far.done, available_succ]
    rcases refused with low | enough
    · rw [if_neg (by simp [low]), List.append_nil]
    · have number := so_far.number
      rw [enough] at number
      rw [List.take_append_of_le_length (by omega)]
  · rw [kept]
    exact so_far.counted
  · rw [cleared, decide_eq_true (Nat.ne_of_gt later), Bool.and_true]
    exact so_far.rest i (Nat.le_of_succ_le later)

/-- A round at a position that is high enough while there are not enough. -/
theorem Enabling.keep (inside : stop < 48) (so_far : Enabling first count original stop state)
    (high : first.toNat ≤ stop) (more : state.2 ≠ count) :
    Enabling first count original (stop + 1)
      (state.1, if bitAt state.1 stop = true then state.2 + 1 else state.2) := by
  have bit := so_far.rest stop le_rfl
  have rest : ∀ i, stop + 1 ≤ i → bitAt state.1 i = bitAt original i :=
    fun i later => so_far.rest i (Nat.le_of_succ_le later)
  have short : (available first.toNat original stop).length < count.toNat := by
    have number := so_far.number
    have different : state.2.toNat ≠ count.toNat := fun equal => more (UInt8.toNat_inj.mp equal)
    omega
  have bound := length_enabled_le state.1 stop
  rw [← so_far.counted] at bound
  by_cases there : bitAt state.1 stop = true
  · rw [if_pos there]
    refine ⟨so_far.length, ?_, ?_, rest⟩
    · rw [enabled_succ, if_pos there, so_far.done, available_succ, ← bit, there, if_pos (by simp [high]),
        List.take_of_length_le short.le, List.take_of_length_le]
      rw [List.length_append, List.length_singleton]
      exact short
    · rw [enabled_succ, if_pos there, List.length_append, List.length_singleton, ← so_far.counted, UInt8.toNat_add]
      exact Nat.mod_eq_of_lt (by change state.2.toNat + 1 < 256; omega)
  · rw [if_neg there]
    refine ⟨so_far.length, ?_, ?_, rest⟩
    · rw [enabled_succ, if_neg there, List.append_nil, so_far.done, available_succ, ← bit, if_neg (by simp [there]),
        List.append_nil]
    · rw [enabled_succ, if_neg there, List.append_nil]
      exact so_far.counted

/-- One round decides one position. -/
theorem Enabling.step (inside : stop < 48) (so_far : Enabling first count original stop state) :
    Enabling first count original (stop + 1) (enableSpad first count state stop) := by
  have byte : stop / 8 < state.1.length := by
    rw [so_far.length]
    omega
  have mask : state.1.getD (stop / 8) 0 &&& (1 <<< UInt8.ofNat (stop % 8)) ≠ 0 ↔ bitAt state.1 stop = true :=
    and_mask_ne_zero _ (Nat.mod_lt _ (by decide))
  unfold enableSpad
  dsimp only
  split
  · rename_i refused
    exact so_far.clear ((List.length_set ..).trans so_far.length) (bitAt_clear byte) refused
  · rename_i allowed
    rw [not_or, Nat.not_lt] at allowed
    have kept := so_far.keep inside allowed.1 allowed.2
    split
    · rename_i there
      rwa [if_pos (mask.mp there)] at kept
    · rename_i absent
      rwa [if_neg fun there => absent (mask.mpr there)] at kept

/-- The whole loop. -/
theorem enableSpads_enabling (length : original.length = 6) (inside : stop ≤ 48) :
    Enabling first count original stop (enableSpads first count original stop) := by
  induction stop with
  | zero => exact .start length
  | succ stop ih =>
    rw [enableSpads, List.range_succ, List.foldl_append]
    exact (ih (Nat.le_of_succ_le inside)).step inside

end

/-- A map to write: its bits are at the first of the positions from `first` on at which the original
has one, as many as are wanted or there are. -/
structure SpadSelection (first count : Nat) (original written : List UInt8) : Prop where
  length : written.length = 6
  selected : (List.range 48).filter (bitAt written) =
    ((List.range 48).filter fun i => decide (first ≤ i) && bitAt original i).take count
  subset : ∀ i < 48, bitAt written i = true → bitAt original i = true ∧ first ≤ i

theorem enableSpads_selects (first count : UInt8) {original : List UInt8} (length : original.length = 6) :
    SpadSelection first.toNat count.toNat original (enableSpads first count original 48).1 := by
  have whole : Enabling first count original 48 (enableSpads first count original 48) :=
    enableSpads_enabling length (Nat.le_refl 48)
  refine ⟨whole.length, whole.done, fun i inside bit => ?_⟩
  have kept : i ∈ enabled (enableSpads first count original 48).1 48 :=
    List.mem_filter.mpr ⟨List.mem_range.mpr inside, bit⟩
  rw [whole.done] at kept
  simpa [and_comm] using (List.mem_filter.mp (List.mem_of_mem_take kept)).2

/-! ### The transfers -/

section
variable {history : List (Transfer UInt8 UInt8)}

@[simp] theorem ensures_write8 {register value : UInt8} {post : List (Transfer UInt8 UInt8) → Option Unit → Prop} :
    (vl53l0xWrite8 register value).Ensures post history ↔
      post (history ++ [.write register [value]]) none ∧ post (history ++ [.write register [value]]) (some ()) := Iff.rfl

@[simp] theorem ensures_read8 {register : UInt8} {post : List (Transfer UInt8 UInt8) → Option UInt8 → Prop} :
    (vl53l0xRead8 register).Ensures post history ↔
      post history none ∧ ∀ value, post (history ++ [.read register [value]]) (some value) := by
  refine and_congr_right fun _ => ⟨fun all value => all [value] rfl, fun all data length => ?_⟩
  obtain ⟨value, rfl⟩ := List.length_eq_one_iff.mp length
  exact all value

@[simp] theorem ensures_readMulti {register : UInt8} {size : Nat}
    {post : List (Transfer UInt8 UInt8) → Option (List UInt8) → Prop} :
    (vl53l0xReadMulti register size).Ensures post history ↔
      post history none ∧ ∀ data, data.length = size → post (history ++ [.read register data]) (some data) := Iff.rfl

@[simp] theorem ensures_writeMulti {register : UInt8} {data : List UInt8}
    {post : List (Transfer UInt8 UInt8) → Option Unit → Prop} :
    (vl53l0xWriteMulti register data).Ensures post history ↔
      post (history ++ [.write register data]) none ∧ post (history ++ [.write register data]) (some ()) := Iff.rfl

theorem requestSpadInfo_avoids {register : UInt8} (ours : register = spadEnables ∨ register = spadInfo) :
    requestSpadInfo.Avoids register := by
  rcases ours with rfl | rfl <;>
    simp [requestSpadInfo, vl53l0xWrite8, vl53l0xRead8, bind, Program.bind, Program.Avoids, spadEnables, spadInfo]

theorem awaitSpadInfo_avoids {register : UInt8} (ours : register = spadEnables ∨ register = spadInfo) (polls : Nat) :
    (awaitSpadInfo polls).Avoids register := by
  have other : 0x83 ≠ register := by
    rcases ours with rfl | rfl <;> decide
  induction polls with
  | zero => exact ⟨other, fun _ => trivial⟩
  | succ polls ih =>
    rw [awaitSpadInfo]
    refine Program.Avoids.bind ⟨other, fun _ => trivial⟩ fun value => ?_
    split
    · exact ih
    · trivial

theorem takeSpadInfo_avoids : takeSpadInfo.Avoids spadEnables := by
  simp [takeSpadInfo, vl53l0xWrite8, vl53l0xRead8, bind, Program.bind, Program.Avoids, spadEnables, spadInfo,
    pure]

/-- The information is read once, and decides the result. -/
theorem takeSpadInfo_ensures {earlier : List (Transfer UInt8 UInt8)} (same : transfersAt spadInfo history = earlier) :
    takeSpadInfo.Ensures (fun history' result => result = none ∨ ∃ info,
      transfersAt spadInfo history' = earlier ++ [.read spadInfo [info]] ∧
        result = some (info &&& 0x7F, decide (info &&& 0x80 ≠ 0))) history := by
  rw [takeSpadInfo, Program.ensures_bind, ensures_write8]
  refine ⟨by simp [Program.Then], ?_⟩
  rw [Program.Then, Program.ensures_bind, ensures_read8]
  refine ⟨by simp [Program.Then], fun info => ?_⟩
  unfold spadInfo at same ⊢
  have taken : transfersAt 0x92 (history ++ [.write 0x83 [0x01]] ++ [.read 0x92 [info]]) =
      earlier ++ [.read 0x92 [info]] := by
    simp [-List.append_assoc, same]
  generalize history ++ [.write 0x83 [0x01]] ++ [.read 0x92 [info]] = history' at taken ⊢
  -- what follows neither touches the register nor changes what was read
  refine Program.Ensures.mono ?_ fun later result (kept : result = none ∨
    transfersAt 0x92 later = earlier ++ [.read 0x92 [info]] ∧
      result = some (info &&& 0x7F, decide (info &&& 0x80 ≠ 0))) => kept.imp_right fun found => ⟨info, found⟩
  simp [Program.ensures_bind, Program.Then, -List.append_assoc, taken]

theorem getSpadInfo_avoids (polls : Nat) : (vl53l0xGetSpadInfo polls).Avoids spadEnables := by
  refine (requestSpadInfo_avoids (.inl rfl)).bind fun _ => (awaitSpadInfo_avoids (.inl rfl) polls).bind fun value => ?_
  split
  · trivial
  · exact takeSpadInfo_avoids

/-- What the information says when it is returned. -/
theorem getSpadInfo_ensures (polls : Nat) :
    (vl53l0xGetSpadInfo polls).Ensures (fun history result => transfersAt spadEnables history = [] ∧
      (result = none ∨ ∃ info, transfersAt spadInfo history = [.read spadInfo [info]] ∧
        result = some (info &&& 0x7F, decide (info &&& 0x80 ≠ 0)))) [] := by
  refine ((getSpadInfo_avoids polls).ensures (show transfersAt spadEnables [] = [] from rfl)).and ?_
  refine (requestSpadInfo_avoids (.inr rfl)).ensures_bind rfl (fun _ _ => .inl rfl) fun history _ same => ?_
  refine (awaitSpadInfo_avoids (.inr rfl) polls).ensures_bind same (fun _ _ => .inl rfl) fun history value same => ?_
  split
  · exact .inl rfl
  · exact takeSpadInfo_ensures same

theorem spadEnables_ne_spadInfo : spadEnables ≠ spadInfo := by decide

/-- What the loop makes of the information and the map that were read. -/
def chosenMap (info : UInt8) (original : List UInt8) : List UInt8 :=
  (enableSpads (firstSpad (info &&& 0x80 ≠ 0)) (info &&& 0x7F) original 48).1

/-- The register of the map is read once and then written at most once, with the map that the
loop makes of what was read. -/
def MapWritten (history : List (Transfer UInt8 UInt8)) : Prop :=
  ∀ written, .write spadEnables written ∈ history → ∃ original info, original.length = 6 ∧
    transfersAt spadInfo history = [.read spadInfo [info]] ∧
    transfersAt spadEnables history = [.read spadEnables original, .write spadEnables written] ∧
    written = chosenMap info original

theorem mapWritten_of_reads {history : List (Transfer UInt8 UInt8)} (reads : ∀ transfer ∈ transfersAt spadEnables history,
    ∃ data, transfer = .read spadEnables data) : MapWritten history := by
  intro written sent
  obtain ⟨data, read⟩ := reads _ (mem_transfersAt.mpr ⟨sent, rfl⟩)
  cases read

/-- The information and the map are read, and nothing is written to the map yet. -/
structure MapRead (info : UInt8) (original : List UInt8) (history : List (Transfer UInt8 UInt8)) : Prop where
  length : original.length = 6
  info : transfersAt spadInfo history = [.read spadInfo [info]]
  map : transfersAt spadEnables history = [.read spadEnables original]

section
variable {info : UInt8} {original : List UInt8} (known : MapRead info original history)
include known

theorem MapRead.mapWritten : MapWritten history :=
  mapWritten_of_reads (by simp [known.map])

/-- A write in between. -/
theorem MapRead.write8 {register value : UInt8} {rest : Unit → SensorProgram Unit}
    (other : register ≠ spadEnables ∧ register ≠ spadInfo)
    (then_rest : ∀ history', MapRead info original history' → (rest ()).Ensures (fun history _ => MapWritten history) history') :
    (vl53l0xWrite8 register value >>= rest).Ensures (fun history _ => MapWritten history) history := by
  have later : MapRead info original (history ++ [.write register [value]]) :=
    ⟨known.length, by simp [other.2, known.info], by simp [other.1, known.map]⟩
  rw [Program.ensures_bind, ensures_write8]
  exact ⟨later.mapWritten, then_rest _ later⟩

/-- The write at the end. -/
theorem MapRead.writeMap : MapWritten (history ++ [.write spadEnables (chosenMap info original)]) := by
  have map : transfersAt spadEnables (history ++ [.write spadEnables (chosenMap info original)]) =
      [.read spadEnables original, .write spadEnables (chosenMap info original)] := by
    simp [known.map]
  intro written sent
  have at_map := mem_transfersAt.mpr ⟨sent, rfl⟩
  rw [Transfer.register_write, map] at at_map
  obtain rfl : written = chosenMap info original := by simpa using at_map
  exact ⟨original, info, known.length, by simp [known.info, spadEnables_ne_spadInfo], map, rfl⟩

end

theorem configureSpads_ensures (polls : Nat) :
    (vl53l0xConfigureSpads polls).Ensures (fun history _ => MapWritten history) [] := by
  rw [vl53l0xConfigureSpads, Program.ensures_bind]
  refine (getSpadInfo_ensures polls).mono fun history result known => ?_
  obtain ⟨unread, rfl | ⟨info, taken, rfl⟩⟩ := known
  · exact mapWritten_of_reads (by simp [unread])
  rw [Program.Then, Program.ensures_bind, ensures_readMulti]
  refine ⟨mapWritten_of_reads (by simp [unread]), fun original length => ?_⟩
  have known : MapRead info original (history ++ [.read spadEnables original]) :=
    ⟨length, by simp [taken, spadEnables_ne_spadInfo], by simp [unread]⟩
  refine known.write8 (by decide) fun history known => ?_
  refine known.write8 (by decide) fun history known => ?_
  refine known.write8 (by decide) fun history known => ?_
  refine known.write8 (by decide) fun history known => ?_
  refine known.write8 (by decide) fun history known => ?_
  exact ensures_writeMulti.mpr ⟨known.writeMap, known.writeMap⟩

theorem configureSpads_writes (polls : Nat) : (vl53l0xConfigureSpads polls).Ensures
    (fun history result => result = some () → ∃ written, .write spadEnables written ∈ history) history := by
  refine Program.ensures_after (fun _ => nofun) (fun history spads => ?_) history
  refine Program.ensures_after (fun _ => nofun) (fun history refSpadMap => ?_) history
  iterate 5 refine Program.ensures_after (fun _ => nofun) (fun history _ => ?_) history
  exact ensures_writeMulti.mpr ⟨nofun, fun _ => ⟨_, List.mem_append_right _ (List.mem_singleton_self _)⟩⟩

end

/-! ### Sensors that answer -/

section
variable {device : Device UInt8 UInt8} (answers : device.Answers)
include answers

theorem write8_finishes (register value : UInt8) : (vl53l0xWrite8 register value).Finishes device :=
  Program.finishes_write answers _ _ (Program.finishes_done ())

theorem read8_finishes (register : UInt8) : (vl53l0xRead8 register).Finishes device :=
  Program.finishes_read answers _ _ fun _ => Program.finishes_done _

theorem requestSpadInfo_finishes : requestSpadInfo.Finishes device := by
  unfold requestSpadInfo
  iterate 4 refine (write8_finishes answers _ _).bind fun _ => ?_
  refine (read8_finishes answers _).bind fun value => ?_
  iterate 5 refine (write8_finishes answers _ _).bind fun _ => ?_
  exact write8_finishes answers _ _

theorem takeSpadInfo_finishes : takeSpadInfo.Finishes device := by
  unfold takeSpadInfo
  refine (write8_finishes answers _ _).bind fun _ => ?_
  refine (read8_finishes answers _).bind fun info => ?_
  iterate 2 refine (write8_finishes answers _ _).bind fun _ => ?_
  refine (read8_finishes answers _).bind fun value => ?_
  iterate 5 refine (write8_finishes answers _ _).bind fun _ => ?_
  exact Program.finishes_done _

theorem writeMap_finishes (spadCount : UInt8) (spadTypeIsAperture : Bool) : (do
    let refSpadMap ← vl53l0xReadMulti spadEnables 6
    vl53l0xWrite8 0xFF 0x01
    vl53l0xWrite8 0x4F 0x00
    vl53l0xWrite8 0x4E 0x2C
    vl53l0xWrite8 0xFF 0x00
    vl53l0xWrite8 refStart 0xB4
    vl53l0xWriteMulti spadEnables
      (enableSpads (firstSpad spadTypeIsAperture) spadCount refSpadMap 48).1 : SensorProgram Unit).Finishes device := by
  refine Program.Finishes.bind (Program.finishes_read answers _ _ Program.finishes_done) fun refSpadMap => ?_
  iterate 5 refine (write8_finishes answers _ _).bind fun _ => ?_
  exact Program.finishes_write answers _ _ (Program.finishes_done ())

/-- The wait ends with a value that is not zero, or every read was a zero. -/
theorem awaitSpadInfo_run (polls : Nat) (history : List (Transfer UInt8 UInt8)) :
    ∃ history' value, (awaitSpadInfo polls).run device history = (history', some value) ∧
      (value = 0 → history' = history ++ List.replicate (polls + 1) (.read 0x83 [0])) := by
  have one (history : List (Transfer UInt8 UInt8)) : ∃ value, (vl53l0xRead8 0x83).run device history =
      (history ++ [.read 0x83 [value]], some value) := by
    obtain ⟨⟨data, length⟩, answered⟩ := Option.isSome_iff_exists.mp (answers.answer history 0x83 1)
    obtain ⟨value, rfl⟩ := List.length_eq_one_iff.mp length
    refine ⟨value, ?_⟩
    rw [vl53l0xRead8, Program.run, answered]
    rfl
  induction polls generalizing history with
  | zero =>
    obtain ⟨value, read⟩ := one history
    refine ⟨_, value, read, ?_⟩
    rintro rfl
    rfl
  | succ polls ih =>
    obtain ⟨value, read⟩ := one history
    rw [awaitSpadInfo, Program.run_bind_of_some _ read]
    by_cases zero : value = 0
    · rw [if_pos zero, zero]
      obtain ⟨history', last, finished, zeros⟩ := ih (history ++ [.read 0x83 [0]])
      refine ⟨history', last, finished, fun again => ?_⟩
      rw [zeros again, List.append_assoc, List.singleton_append, ← List.replicate_succ]
    · rw [if_neg zero]
      exact ⟨_, value, rfl, fun same => absurd same zero⟩

/-- A sensor that answers gets its map, unless the information is not there when the wait is over. -/
theorem configureSpads_finishes (polls : Nat) :
    ((vl53l0xConfigureSpads polls).run device []).2 = some () ∨
      ∃ earlier, ((vl53l0xConfigureSpads polls).run device []).1 =
        earlier ++ List.replicate (polls + 1) (.read 0x83 [0]) := by
  obtain ⟨asked, _, requested⟩ := requestSpadInfo_finishes answers []
  obtain ⟨waited, value, awaited, zeros⟩ := awaitSpadInfo_run answers polls asked
  by_cases zero : value = 0
  · right
    have gives_up : (vl53l0xGetSpadInfo polls).run device [] = (waited, none) := by
      rw [vl53l0xGetSpadInfo, Program.run_bind_of_some _ requested, Program.run_bind_of_some _ awaited, if_pos zero]
      rfl
    rw [vl53l0xConfigureSpads, Program.run_bind_of_none _ gives_up]
    exact ⟨asked, zeros zero⟩
  · left
    obtain ⟨taken, ⟨spadCount, spadTypeIsAperture⟩, took⟩ := takeSpadInfo_finishes answers waited
    have informed : (vl53l0xGetSpadInfo polls).run device [] = (taken, some (spadCount, spadTypeIsAperture)) := by
      rw [vl53l0xGetSpadInfo, Program.run_bind_of_some _ requested, Program.run_bind_of_some _ awaited, if_neg zero]
      exact took
    obtain ⟨written, _, finished⟩ := writeMap_finishes answers spadCount spadTypeIsAperture taken
    rw [vl53l0xConfigureSpads, Program.run_bind_of_some _ informed]
    exact congrArg Prod.snd finished

end

theorem firstSpad_toNat (spadTypeIsAperture : Bool) :
    (firstSpad spadTypeIsAperture).toNat = if spadTypeIsAperture = true then 12 else 0 := by
  cases spadTypeIsAperture <;> rfl

/-- Whatever the sensor answers and however long it lets the node wait: a map that is written back
goes with one byte of information and one map that were read before, and has its bits at the first
of the set positions of that map from the first allowed one on, as many as the count says or there
are. A run that succeeds has written one back, and with a sensor that answers every transfer a run
succeeds unless all the reads of the wait are zero. -/
theorem configureSpads_selects (device : Device UInt8 UInt8) (polls : Nat) :
    let run := (vl53l0xConfigureSpads polls).run device []
    (∀ written, .write spadEnables written ∈ run.1 → ∃ original info, original.length = 6 ∧
      transfersAt spadInfo run.1 = [.read spadInfo [info]] ∧
      transfersAt spadEnables run.1 = [.read spadEnables original, .write spadEnables written] ∧
      SpadSelection (if info &&& 0x80 ≠ 0 then 12 else 0) (info &&& 0x7F).toNat original written) ∧
    (run.2 = some () → ∃ written, .write spadEnables written ∈ run.1) ∧
    (device.Answers → run.2 = some () ∨ ∃ earlier, run.1 = earlier ++ List.replicate (polls + 1) (.read 0x83 [0])) := by
  refine ⟨fun written sent => ?_, ?_, fun answers => configureSpads_finishes answers polls⟩
  · obtain ⟨original, info, length, taken, map, rfl⟩ :=
      Program.run_of_ensures device (configureSpads_ensures polls) written sent
    refine ⟨original, info, length, taken, map, ?_⟩
    have selects := enableSpads_selects (firstSpad (info &&& 0x80 ≠ 0)) (info &&& 0x7F) length
    simp only [firstSpad_toNat, decide_eq_true_eq] at selects
    exact selects
  · exact Program.run_of_ensures device (configureSpads_writes polls)

/-- A sensor with this information and this map, which answers everything. -/
def sensor (info : UInt8) (map : List UInt8) : Device UInt8 UInt8 where
  acknowledges _ _ _ := true
  answer _ register size :=
    let data := if register = spadEnables then map else if register = spadInfo then [info] else [1]
    if length : data.length = size then some ⟨data, length⟩ else none

/-- Every information and every map are read from some sensor, and a map is written back to it. -/
theorem configureSpads_sensor (info : UInt8) {map : List UInt8} (length : map.length = 6) (polls : Nat) :
    .write spadEnables (chosenMap info map) ∈ ((vl53l0xConfigureSpads polls).run (sensor info map) []).1 := by
  cases polls <;>
    simp [vl53l0xConfigureSpads, vl53l0xGetSpadInfo, requestSpadInfo, awaitSpadInfo, takeSpadInfo, vl53l0xWrite8,
      vl53l0xRead8, vl53l0xReadMulti, vl53l0xWriteMulti, bind, pure, Program.bind, Program.run, sensor, spadInfo,
      spadEnables, length, chosenMap] <;>
    exact .inr rfl

/-- Of four aperture spads that are asked for three are there from the twelfth position on. -/
theorem configureSpads_selects_aperture :
    SpadSelection 12 4 [0xFF, 0x1F, 0x80, 0, 0, 0x01] [0, 0x10, 0x80, 0, 0, 0x01] := by
  have chosen : chosenMap 0x84 [0xFF, 0x1F, 0x80, 0, 0, 0x01] = [0, 0x10, 0x80, 0, 0, 0x01] := by decide +kernel
  obtain ⟨original, info, -, taken, map, selection⟩ := (configureSpads_selects
    (sensor 0x84 [0xFF, 0x1F, 0x80, 0, 0, 0x01]) 3).1 _ (configureSpads_sensor 0x84 rfl 3)
  have information : [Transfer.read spadInfo [0x84]] = [.read spadInfo [info]] :=
    .trans (by decide +kernel) taken
  have maps : [Transfer.read spadEnables [0xFF, 0x1F, 0x80, 0, 0, 0x01],
      .write spadEnables [0, 0x10, 0x80, 0, 0, 0x01]] = [.read spadEnables original, .write spadEnables _] :=
    .trans (by decide +kernel) map
  obtain rfl : 0x84 = info := by simpa using information
  obtain ⟨read, -⟩ := List.cons.inj maps
  cases Transfer.read.inj read |>.2
  rw [chosen] at selection
  exact selection

end SelfDriving.Front
