import SelfDriving.Hpvc.ReceiveFrontend

/-! What the link monitor says of the link over a whole run: the link is valid while
the last accepted packet is no older than the timeout. Which packets are accepted
depends on the accepted ones before them only, so the history that the monitor's
three variables stand for is a fold over the observations. -/
namespace SelfDriving.Hpvc
open Ieee754

/-- What the monitor is called with. -/
structure Observation where
  currentTimeS : F64
  packetValid : Bool
  sequence : UInt32
  reset : Bool
  deriving DecidableEq

variable (timeoutS : F64)

/-- The monitor, called once for each observation. -/
def linkMonitor : Machine (Option LinkMonitor) Observation LinkStatus where
  step monitor o :=
    let (monitor, status) := middleLinkMonitor o.currentTimeS o.packetValid o.sequence timeoutS o.reset monitor
    (some monitor, status)

/-! ### The history -/

/-- An observation is accepted: a valid packet that is the first one, or up to half a
turn ahead of the last accepted one, or another one after a long outage. -/
def Accepted (last : Option Observation) (o : Observation) : Prop :=
  o.packetValid = true ∧ ∀ past ∈ last,
    (1 ≤ (o.sequence - past.sequence).toNat ∧ (o.sequence - past.sequence).toNat ≤ 2 ^ 31 - 1) ∨
      (o.sequence ≠ past.sequence ∧
        Matlab.max (1.0 : F64) ((5.0 : F64) * timeoutS) ≤ o.currentTimeS - past.currentTimeS)

instance (last : Option Observation) (o : Observation) : Decidable (Accepted timeoutS last o) :=
  inferInstanceAs (Decidable (_ ∧ ∀ past ∈ last, _))

/-- The last accepted observation, after one more. -/
def acceptLast (last : Option Observation) (o : Observation) : Option Observation :=
  if Accepted timeoutS last o then some o else last

/-- The last accepted one of the observations. -/
def lastAccepted (observations : List Observation) : Option Observation :=
  observations.foldl (acceptLast timeoutS) none

theorem lastAccepted_concat (observations : List Observation) (o : Observation) :
    lastAccepted timeoutS (observations ++ [o]) = acceptLast timeoutS (lastAccepted timeoutS observations) o := by
  rw [lastAccepted, List.foldl_append]
  rfl

theorem mem_of_lastAccepted {observations : List Observation} {last : Observation}
    (accepted : last ∈ lastAccepted timeoutS observations) : last ∈ observations := by
  induction observations using List.reverseRecOn with
  | nil => cases accepted
  | append_singleton observations o ih =>
    rw [lastAccepted_concat, acceptLast] at accepted
    split at accepted
    · cases accepted
      simp
    · exact List.mem_append_left _ (ih accepted)

/-! ### One observation -/

theorem isSequenceNewer_iff {candidate reference : UInt32} :
    isSequenceNewer candidate reference = true ↔
      1 ≤ (candidate - reference).toNat ∧ (candidate - reference).toNat ≤ 2 ^ 31 - 1 := by
  have bound := candidate.toNat_lt
  have bound' := reference.toNat_lt
  rw [isSequenceNewer, Bool.and_eq_true, decide_eq_true_iff, decide_eq_true_iff, UInt32.toNat_sub]
  omega

theorem one_le_restartResyncS : (1.0 : F64) ≤ Matlab.max 1.0 ((5.0 : F64) * timeoutS) :=
  Matlab.le_max_left (Ieee.isNaN_literal ..)

/-- The restart rule compares the time that has passed. -/
theorem restartResyncS_le_iff {now past : F64} :
    Matlab.max (1.0 : F64) ((5.0 : F64) * timeoutS) ≤ Matlab.elapsed now past ↔
      Matlab.max (1.0 : F64) ((5.0 : F64) * timeoutS) ≤ now - past := by
  have positive : (0.0 : F64) < 1.0 := by decide +kernel
  exact Matlab.le_elapsed_iff (Ieee.lt_of_lt_of_le positive (one_le_restartResyncS timeoutS))

/-- The monitor's variables stand for the last accepted observation. -/
structure Remembers (monitor : LinkMonitor) (last : Option Observation) : Prop where
  initialized : monitor.initialized = last.isSome
  remembered : ∀ past ∈ last, monitor.lastSequence = past.sequence ∧ monitor.lastFreshTimeS = past.currentTimeS

theorem Remembers.acceptsSequence_iff {monitor : LinkMonitor} {last : Option Observation}
    (remembers : Remembers monitor last) {o : Observation} (valid : o.packetValid = true) :
    acceptsSequence o.currentTimeS timeoutS o.sequence monitor = true ↔ Accepted timeoutS last o := by
  cases last with
  | none =>
    have fresh : monitor.initialized = false := remembers.initialized
    simp [acceptsSequence, Accepted, fresh, valid]
  | some past =>
    have initialized : monitor.initialized = true := remembers.initialized
    obtain ⟨sequence, time⟩ := remembers.remembered past rfl
    simp only [acceptsSequence, initialized, sequence, time, Accepted, valid, Bool.not_true, Bool.false_or,
      Bool.true_and, Bool.or_eq_true, Bool.and_eq_true, decide_eq_true_iff, bne_iff_ne, isSequenceNewer_iff,
      restartResyncS_le_iff, Option.mem_def, Option.some.injEq, forall_eq', true_and]

/-- What one call does, once the monitor it meets is known. -/
theorem linkMonitor_cases (monitor : Option LinkMonitor) (o : Observation) :
    -- An accepted packet.
    (o.packetValid = true ∧
      acceptsSequence o.currentTimeS timeoutS o.sequence (startMonitor o.currentTimeS o.reset monitor) = true ∧
      (linkMonitor timeoutS).next monitor o = some ⟨true, o.sequence, o.currentTimeS⟩ ∧
      ((linkMonitor timeoutS).output monitor o).sequenceFresh = true ∧
      ((linkMonitor timeoutS).output monitor o).linkValid =
        linkAlive o.currentTimeS timeoutS ⟨true, o.sequence, o.currentTimeS⟩) ∨
    -- No packet, or one that is not accepted.
    ((o.packetValid = false ∨
        acceptsSequence o.currentTimeS timeoutS o.sequence (startMonitor o.currentTimeS o.reset monitor) = false) ∧
      (linkMonitor timeoutS).next monitor o = some (startMonitor o.currentTimeS o.reset monitor) ∧
      ((linkMonitor timeoutS).output monitor o).sequenceFresh = false ∧
      ((linkMonitor timeoutS).output monitor o).linkValid =
        linkAlive o.currentTimeS timeoutS (startMonitor o.currentTimeS o.reset monitor)) := by
  simp only [Machine.next, Machine.output, linkMonitor, middleLinkMonitor]
  generalize startMonitor o.currentTimeS o.reset monitor = met
  cases valid : o.packetValid with
  | false => exact .inr ⟨.inl rfl, rfl, rfl, rfl⟩
  | true =>
    cases accepts : acceptsSequence o.currentTimeS timeoutS o.sequence met with
    | true => exact .inl ⟨rfl, rfl, rfl, rfl, rfl⟩
    | false => exact .inr ⟨.inr rfl, rfl, rfl, rfl⟩

/-- One observation keeps the monitor's variables at the last accepted one. -/
theorem Remembers.next {monitor : Option LinkMonitor} {last : Option Observation} {o : Observation}
    (remembers : Remembers (startMonitor o.currentTimeS o.reset monitor) last) :
    ∃ after, (linkMonitor timeoutS).next monitor o = some after ∧ Remembers after (acceptLast timeoutS last o) ∧
      (((linkMonitor timeoutS).output monitor o).sequenceFresh = true ↔ Accepted timeoutS last o) ∧
      ((linkMonitor timeoutS).output monitor o).linkValid = linkAlive o.currentTimeS timeoutS after := by
  rcases linkMonitor_cases timeoutS monitor o with
    ⟨valid, accepts, next, fresh, alive⟩ | ⟨refused, next, stale, alive⟩
  · have accepted := (remembers.acceptsSequence_iff timeoutS valid).mp accepts
    refine ⟨_, next, ?_, iff_of_true fresh accepted, alive⟩
    rw [acceptLast, if_pos accepted]
    refine ⟨rfl, ?_⟩
    rintro past ⟨⟩
    exact ⟨rfl, rfl⟩
  · have not_accepted : ¬ Accepted timeoutS last o := by
      intro accepted
      rcases refused with invalid | refused
      · rw [accepted.1] at invalid
        cases invalid
      · rw [(remembers.acceptsSequence_iff timeoutS accepted.1).mpr accepted] at refused
        cases refused
    refine ⟨_, next, ?_, iff_of_false (by simp [stale]) not_accepted, alive⟩
    rw [acceptLast, if_neg not_accepted]
    exact remembers

/-! ### Runs -/

/-- The observations of a watch: the first finds no monitor or resets it, none after it
resets it, and the clock never goes back. -/
structure Watch (monitor : Option LinkMonitor) (observations : List Observation) : Prop where
  started : ∀ first ∈ observations.head?, monitor = none ∨ first.reset = true
  unreset : ∀ o ∈ observations.tail, o.reset = false
  ordered : observations.Pairwise fun first second => first.currentTimeS ≤ second.currentTimeS

theorem Watch.before {monitor : Option LinkMonitor} {before : List Observation} {now : Observation}
    (watch : Watch monitor (before ++ [now])) : Watch monitor before where
  started first member := watch.started first (by cases before with | nil => cases member | cons => exact member)
  unreset o member := watch.unreset o (by cases before with | nil => cases member | cons => simp_all)
  ordered := (List.pairwise_append.mp watch.ordered).1

/-- Along a watch, the monitor that a call meets stands for the history. -/
theorem Watch.remembers {monitor : Option LinkMonitor} {before : List Observation} {now : Observation}
    (watch : Watch monitor (before ++ [now])) :
    Remembers (startMonitor now.currentTimeS now.reset ((linkMonitor timeoutS).run monitor before))
      (lastAccepted timeoutS before) := by
  induction before using List.reverseRecOn generalizing now with
  | nil =>
    have empty : startMonitor now.currentTimeS now.reset monitor = ⟨false, 0, now.currentTimeS⟩ := by
      rcases watch.started now rfl with none | reset
      · rw [none, startMonitor]
      · cases monitor <;> simp [startMonitor, reset]
    rw [Machine.run_nil, empty]
    exact ⟨rfl, nofun⟩
  | append_singleton before previous ih =>
    obtain ⟨after, next, remembers, -⟩ := (ih watch.before).next timeoutS
    have kept : now.reset = false := watch.unreset now (by cases before <;> simp)
    rw [Machine.run_concat, next, kept, lastAccepted_concat]
    exact remembers

/-- Along a watch, the link is valid exactly while the last accepted packet is within
the timeout; what is not accepted does not extend it. -/
theorem linkValid_iff_lastAccepted (nonneg : (0.0 : F64) ≤ timeoutS) (monitor : Option LinkMonitor)
    (before : List Observation) (now : Observation) (watch : Watch monitor (before ++ [now])) :
    let status := (linkMonitor timeoutS).output ((linkMonitor timeoutS).run monitor before) now
    (status.linkValid = true ↔ ∃ last, lastAccepted timeoutS (before ++ [now]) = some last ∧
      Matlab.Within timeoutS now.currentTimeS last.currentTimeS) ∧
    (status.sequenceFresh = true ↔ Accepted timeoutS (lastAccepted timeoutS before) now) ∧
    (¬ Accepted timeoutS (lastAccepted timeoutS before) now →
      (status.linkValid = true ↔ ∃ last, lastAccepted timeoutS before = some last ∧
        Matlab.Within timeoutS now.currentTimeS last.currentTimeS)) := by
  intro status
  obtain ⟨after, -, remembers, fresh, alive⟩ := (watch.remembers timeoutS).next timeoutS
  rw [← lastAccepted_concat] at remembers
  have valid : status.linkValid = true ↔ ∃ last, lastAccepted timeoutS (before ++ [now]) = some last ∧
      Matlab.Within timeoutS now.currentTimeS last.currentTimeS := by
    rw [alive, linkAlive, remembers.initialized, Bool.and_eq_true, decide_eq_true_iff]
    cases last : lastAccepted timeoutS (before ++ [now]) with
    | none => simp
    | some past =>
      rw [last] at remembers
      have earlier : past.currentTimeS ≤ now.currentTimeS ∨ now.currentTimeS = past.currentTimeS := by
        rcases List.mem_append.mp (mem_of_lastAccepted timeoutS last) with earlier | same
        · exact .inl ((List.pairwise_append.mp watch.ordered).2.2 past earlier now (by simp))
        · exact .inr (by rw [List.mem_singleton.mp same])
      rw [(remembers.remembered past rfl).2, Matlab.elapsed_le_iff nonneg earlier]
      simp
  refine ⟨valid, fresh, fun refused => ?_⟩
  rw [valid, lastAccepted_concat, acceptLast, if_neg refused]

/-- A duplicate does not extend the link, and the link is still valid for a while. -/
theorem linkValid_at_duplicate :
    let status := (linkMonitor 0.2).output ((linkMonitor 0.2).run none [⟨1.0, true, 10, false⟩]) ⟨1.1, true, 10, false⟩
    status.linkValid = true ∧ ¬ status.sequenceFresh = true := by
  have ordered : (1.0 : F64) ≤ 1.1 := by decide +kernel
  have nonneg : (0.0 : F64) ≤ 0.2 := by decide +kernel
  have watch : Watch none ([⟨1.0, true, 10, false⟩] ++ [⟨1.1, true, 10, false⟩]) :=
    ⟨fun _ _ => .inl rfl, by simp, by simpa using ordered⟩
  obtain ⟨valid, fresh, -⟩ := linkValid_iff_lastAccepted 0.2 nonneg none _ _ watch
  refine ⟨valid.mpr ⟨⟨1.0, true, 10, false⟩, by decide +kernel, by decide +kernel⟩, ?_⟩
  rw [fresh]
  decide +kernel

/-! ### A sender that starts again -/

/-- The valid packets of the observations are numbered one after another from the first. -/
def Numbered (first : UInt32) (observations : List Observation) : Prop :=
  ∀ before o after, observations = before ++ o :: after → o.packetValid = true →
    o.sequence = first + UInt32.ofNat (before.countP (·.packetValid))

/-- The first packet comes so long after the last accepted one that the sender must
have started again. -/
def AfterOutage (monitor : Option LinkMonitor) (observations : List Observation) : Prop :=
  ∀ old, monitor = some old → old.initialized = true → ∀ o, observations.find? (·.packetValid) = some o →
    Matlab.max (1.0 : F64) ((5.0 : F64) * timeoutS) ≤ o.currentTimeS - old.lastFreshTimeS

theorem Numbered.before {first : UInt32} {observations more : List Observation}
    (numbered : Numbered first (observations ++ more)) : Numbered first observations := by
  intro before o after whole valid
  refine numbered before o (after ++ more) ?_ valid
  rw [whole, List.append_assoc, List.cons_append]

/-- What the monitor is once some packets of the stream have come: what it was before,
or it holds the last of them. -/
def Receives (monitor : Option LinkMonitor) (first : UInt32) : Nat → Option LinkMonitor → Prop
  | 0, now => ∀ old, now = some old → old.initialized = true → monitor = some old
  | count + 1, now => ∃ held, now = some held ∧ held.initialized = true ∧
      held.lastSequence = first + UInt32.ofNat count

theorem startMonitor_of_not_reset {currentTimeS : F64} {monitor : Option LinkMonitor} {old : LinkMonitor}
    (initialized : (startMonitor currentTimeS false monitor).initialized = true)
    (met : startMonitor currentTimeS false monitor = old) : monitor = some old := by
  cases monitor with
  | none => cases initialized
  | some monitor => rw [← met, startMonitor, if_neg Bool.false_ne_true]

/-- A packet that is neither the last one again nor too early is accepted; so is the
successor of the last one. -/
theorem acceptsSequence_of_restart {currentTimeS : F64} {sequence : UInt32} {monitor : LinkMonitor}
    (differs : sequence ≠ monitor.lastSequence)
    (outage : Matlab.max (1.0 : F64) ((5.0 : F64) * timeoutS) ≤ currentTimeS - monitor.lastFreshTimeS) :
    acceptsSequence currentTimeS timeoutS sequence monitor = true := by
  have stale := (restartResyncS_le_iff timeoutS).mpr outage
  cases initialized : monitor.initialized <;> simp [acceptsSequence, initialized, differs, stale]

theorem acceptsSequence_of_successor {currentTimeS : F64} {sequence : UInt32} {monitor : LinkMonitor}
    (successor : sequence = monitor.lastSequence + 1) :
    acceptsSequence currentTimeS timeoutS sequence monitor = true := by
  have one : sequence - monitor.lastSequence = 1 := by
    rw [successor]
    grind
  have newer : isSequenceNewer sequence monitor.lastSequence = true := by
    rw [isSequenceNewer_iff, one]
    decide
  simp [acceptsSequence, newer]

theorem Receives.idle {monitor now : Option LinkMonitor} {first : UInt32} {count : Nat}
    (receives : Receives monitor first count now) {o : Observation} (invalid : o.packetValid = false)
    (kept : o.reset = false) : Receives monitor first count ((linkMonitor timeoutS).next now o) := by
  rcases linkMonitor_cases timeoutS now o with ⟨valid, _⟩ | ⟨_, next, -⟩
  · rw [invalid] at valid
    cases valid
  rw [kept] at next
  cases count with
  | zero =>
    intro old some initialized
    rw [next, Option.some.injEq] at some
    subst some
    exact receives _ (startMonitor_of_not_reset initialized rfl) initialized
  | succ count =>
    obtain ⟨held, rfl, initialized, sequence⟩ := receives
    exact ⟨held, next, initialized, sequence⟩

/-- The next packet of the stream is accepted, unless it is the first and has the number
of the last accepted one; either way the monitor holds its number then. -/
theorem Receives.packet {monitor now : Option LinkMonitor} {first : UInt32} {count : Nat}
    (receives : Receives monitor first count now) {o : Observation} (valid : o.packetValid = true)
    (kept : o.reset = false) (sequence : o.sequence = first + UInt32.ofNat count)
    (outage : count = 0 → ∀ old, monitor = some old → old.initialized = true →
      Matlab.max (1.0 : F64) ((5.0 : F64) * timeoutS) ≤ o.currentTimeS - old.lastFreshTimeS) :
    Receives monitor first (count + 1) ((linkMonitor timeoutS).next now o) ∧
      (0 < count → ((linkMonitor timeoutS).output now o).sequenceFresh = true) := by
  rcases linkMonitor_cases timeoutS now o with ⟨_, _, next, fresh, _⟩ | ⟨refused, next, -⟩
  · exact ⟨⟨_, next, rfl, sequence⟩, fun _ => fresh⟩
  have refused := refused.resolve_left (by simp [valid])
  rw [kept] at refused next
  cases count with
  | zero =>
    have initialized : (startMonitor o.currentTimeS false now).initialized = true := by
      by_contra fresh
      simp [acceptsSequence, fresh] at refused
    have same := receives _ (startMonitor_of_not_reset initialized rfl) initialized
    have repeated : o.sequence = (startMonitor o.currentTimeS false now).lastSequence := by
      by_contra differs
      rw [acceptsSequence_of_restart timeoutS differs (outage rfl _ same initialized)] at refused
      cases refused
    exact ⟨⟨_, next, initialized, by rw [← repeated, sequence]⟩, nofun⟩
  | succ count =>
    obtain ⟨held, rfl, initialized, last⟩ := receives
    have successor : o.sequence = held.lastSequence + 1 := by
      rw [sequence, last, UInt32.ofNat_add, UInt32.add_assoc]
      rfl
    rw [startMonitor, if_neg Bool.false_ne_true, acceptsSequence_of_successor timeoutS successor] at refused
    cases refused

/-- After some observations of the stream, the monitor has received its packets. -/
theorem receives_run {monitor : Option LinkMonitor} {first : UInt32} {observations : List Observation}
    (numbered : Numbered first observations) (outage : AfterOutage timeoutS monitor observations)
    (unreset : ∀ o ∈ observations, o.reset = false) :
    Receives monitor first (observations.countP (·.packetValid)) ((linkMonitor timeoutS).run monitor observations) := by
  induction observations using List.reverseRecOn with
  | nil => exact fun _ same _ => same
  | append_singleton before o ih =>
    have receives := ih numbered.before
      (fun old same initialized found some => outage old same initialized found (by simp [some]))
      fun earlier member => unreset earlier (by simp [member])
    have kept := unreset o (by simp)
    rw [Machine.run_concat, List.countP_append, List.countP_singleton]
    cases valid : o.packetValid with
    | false => exact receives.idle timeoutS valid kept
    | true =>
      refine (receives.packet timeoutS valid kept (numbered before o [] rfl valid) ?_).1
      intro none old same initialized
      refine outage old same initialized o ?_
      rw [List.find?_append, List.find?_eq_none.mpr (List.countP_eq_zero.mp none)]
      simp [valid]

/-- From the second packet of a restarted sender on, every packet is accepted and the
link is valid. -/
theorem restarted_sender_recovers (monitor : Option LinkMonitor) (first : UInt32) (before : List Observation)
    (now : Observation) (unreset : ∀ o ∈ before ++ [now], o.reset = false)
    (numbered : Numbered first (before ++ [now])) (outage : AfterOutage timeoutS monitor (before ++ [now]))
    (valid : now.packetValid = true) (later : 0 < before.countP (·.packetValid)) :
    let status := (linkMonitor timeoutS).output ((linkMonitor timeoutS).run monitor before) now
    status.sequenceFresh = true ∧ ((0.0 : F64) ≤ timeoutS → status.linkValid = true) := by
  intro status
  have receives := receives_run timeoutS numbered.before
    (fun old same initialized found some => outage old same initialized found (by simp [some]))
    fun o member => unreset o (by simp [member])
  have fresh : status.sequenceFresh = true :=
    (receives.packet timeoutS valid (unreset now (by simp)) (numbered before now [] rfl valid)
      fun none => absurd none later.ne').2 later
  refine ⟨fresh, fun nonneg => ?_⟩
  rcases linkMonitor_cases timeoutS ((linkMonitor timeoutS).run monitor before) now with
    ⟨_, _, _, _, alive⟩ | ⟨_, _, stale, _⟩
  · rw [alive, linkAlive, Bool.and_eq_true, decide_eq_true_iff]
    exact ⟨rfl, Matlab.elapsed_self_le nonneg _⟩
  · rw [fresh] at stale
    cases stale

/-- A restart that lands exactly on the old number: the second packet revives the link. -/
theorem restart_on_same_number :
    let status := (linkMonitor 0.2).output
      ((linkMonitor 0.2).run (some ⟨true, 10, 1.0⟩) [⟨2.02, true, 10, false⟩]) ⟨2.12, true, 11, false⟩
    status.sequenceFresh = true ∧ status.linkValid = true := by
  have nonneg : (0.0 : F64) ≤ 0.2 := by decide +kernel
  have numbered : Numbered 10 ([⟨2.02, true, 10, false⟩] ++ [⟨2.12, true, 11, false⟩]) := by
    intro before o after whole _
    rcases before with _ | ⟨head, _ | ⟨second, rest⟩⟩
    · obtain ⟨rfl, -⟩ := List.cons.inj whole
      rfl
    · obtain ⟨rfl, tail⟩ := List.cons.inj whole
      obtain ⟨rfl, -⟩ := List.cons.inj tail
      rfl
    · simp at whole
  have outage : AfterOutage 0.2 (some ⟨true, 10, 1.0⟩) ([⟨2.02, true, 10, false⟩] ++ [⟨2.12, true, 11, false⟩]) := by
    rintro _ ⟨⟩ - _ ⟨⟩
    decide +kernel
  obtain ⟨fresh, valid⟩ := restarted_sender_recovers 0.2 (some ⟨true, 10, 1.0⟩) 10 [⟨2.02, true, 10, false⟩]
    ⟨2.12, true, 11, false⟩ (by simp) numbered outage rfl (by simp)
  exact ⟨fresh, valid nonneg⟩

end SelfDriving.Hpvc
