/-
# The application journal

`ApplicationJournal` of `actor_application_journal.h`: a bounded table of what the client was asked
to apply, kept for the lifetime of the actor.  A record is evicted only to make room for another,
and one that still waits for its application is not evicted.
-/
import Mathlib.Data.Vector.Defs
import ShadowbaneLab.Native.Desk

namespace ShadowbaneLab.Native

open Foundation

/-! ## Records -/

abbrev JournalDigest : Type := Vector UInt8 32

inductive ApplicationEntry
  | neverEntered
  | entered
  | uncertain
deriving DecidableEq

inductive ApplicationState
  | none
  | pending
  | observed
  | interrupted
deriving DecidableEq

structure CoverageDeadline where
  descriptor : UInt32 := 0
  stamp : UInt64 := 0
deriving DecidableEq

/-- `std::isfinite(value) && value > 0` of the double with these bits: the sign bit is clear, some
other bit is set and the exponent is not all ones. -/
def positiveDouble (stamp : UInt64) : Bool := 0 < stamp ∧ stamp < 0x7ff0000000000000

/-- The deadlines that a renewal must pass, at most one for a descriptor. -/
structure CoverageDeadlines where
  values : List CoverageDeadline := []
  bounded : values.length ≤ 64 := by decide
deriving DecidableEq

/-- `CoverageDeadlines::Add`. -/
def CoverageDeadlines.add (deadlines : CoverageDeadlines) (deadline : CoverageDeadline) :
    Option CoverageDeadlines :=
  if deadline.descriptor = 0 ∨ ¬ positiveDouble deadline.stamp then none
  else if deadlines.values.any (·.descriptor == deadline.descriptor) then
    some ⟨deadlines.values.map fun value =>
      if value.descriptor = deadline.descriptor ∧ deadline.stamp > value.stamp then
        { value with stamp := deadline.stamp }
      else value, by simpa using deadlines.bounded⟩
  else if h : deadlines.values.length < 64 then
    some ⟨deadlines.values ++ [deadline], by
      simp only [List.length_append, List.length_singleton]
      omega⟩
  else none

/-- The baseline of the deadlines that a reservation covers. -/
def CoverageDeadlines.of (deadlines : List CoverageDeadline) : Option CoverageDeadlines :=
  deadlines.foldlM CoverageDeadlines.add {}

/-- `Advanced`: every descriptor of the baseline has a later deadline now. -/
def CoverageDeadlines.advanced (baseline : CoverageDeadlines) (current : List CoverageDeadline) :
    Bool :=
  baseline.values.all fun old => current.any fun value =>
    value.descriptor == old.descriptor && positiveDouble value.stamp &&
      decide (value.stamp > old.stamp)

structure ApplicationRecord where
  intent : JournalDigest := .replicate 32 0
  command : JournalDigest := .replicate 32 0
  submittedRevision : UInt64 := 0
  observedRevision : UInt64 := 0
  entry : ApplicationEntry := .neverEntered
  state : ApplicationState := .none
  reserved : Bool := false
  localSettled : Bool := false
  queued : Bool := false
  coveredDeadlines : CoverageDeadlines := {}
deriving DecidableEq

namespace ApplicationRecord

/-- The record stands in the way of another with its intent. -/
def unresolved (record : ApplicationRecord) : Bool :=
  record.reserved && (!record.localSettled || record.state == .pending)

/-- The record may make room for another. -/
def replaceable (record : ApplicationRecord) : Bool :=
  !record.reserved || (record.localSettled && record.state != .pending)

end ApplicationRecord

/-! ## The journal -/

/-- `ApplicationJournal::capacity`. -/
abbrev journalCapacity : ℕ := 32

structure ApplicationJournal where
  records : Vector ApplicationRecord journalCapacity := .replicate journalCapacity {}
  faulted : Bool := false
deriving DecidableEq

namespace ApplicationJournal

/-- The slot that a reservation takes. -/
def freeSlot (s : ApplicationJournal) : Option (Fin journalCapacity) :=
  (List.finRange journalCapacity).find? fun i => s.records[i].replaceable

/-- A new record. -/
def reservation (intent command : JournalDigest) (revision : UInt64)
    (baseline : CoverageDeadlines) : ApplicationRecord :=
  { intent, command, submittedRevision := revision, reserved := true,
    coveredDeadlines := baseline }

/-- `Reserve`, with the slot of the new record. -/
def reserve (s : ApplicationJournal) (intent command : JournalDigest) (revision : UInt64)
    (covered : List CoverageDeadline) : ApplicationJournal × Option (Fin journalCapacity) :=
  match CoverageDeadlines.of covered with
  | none => (s, none)
  | some baseline =>
    if s.faulted ∨ isZero intent ∨ isZero command ∨ revision = 0 then (s, none)
    else if s.records.any fun record => record.reserved && (record.command == command ||
        (record.intent == intent && (!record.localSettled || record.state == .pending))) then
      (s, none)
    else
      match s.freeSlot with
      | none => (s, none)
      | some i =>
        ({ s with records := s.records.set i (reservation intent command revision baseline) },
          some i)

/-- `Exact`. -/
def exact (s : ApplicationJournal) (index : ℕ) (command : JournalDigest) :
    Option (Fin journalCapacity) :=
  if h : index < journalCapacity then
    if s.records[index].reserved ∧ s.records[index].command = command then some ⟨index, h⟩ else none
  else none

/-- What a report on a record may not say. -/
def contradicts (record : ApplicationRecord) (entry : ApplicationEntry)
    (queued localSettled : Bool) : Bool :=
  (queued ∧ entry ≠ .entered) ∨ (record.queued ∧ ¬ queued) ∨
    (record.entry = .entered ∧ entry = .neverEntered) ∨
    (record.entry = .uncertain ∧ entry = .neverEntered) ∨ (record.localSettled ∧ ¬ localSettled)

/-- A record after a report on it. -/
def reported (record : ApplicationRecord) (entry : ApplicationEntry)
    (queued localSettled : Bool) : ApplicationRecord :=
  { record with
    entry := if record.entry = .entered then .entered else entry
    queued := record.queued || queued
    localSettled := record.localSettled || localSettled
    state := if entry ≠ .neverEntered ∧ record.state ≠ .observed ∧ record.state ≠ .interrupted then
      .pending else record.state }

/-- `Record`. -/
def record (s : ApplicationJournal) (index : ℕ) (command : JournalDigest)
    (entry : ApplicationEntry) (queued localSettled : Bool) : ApplicationJournal × Bool :=
  match s.exact index command with
  | none => ({ s with faulted := true }, false)
  | some i =>
    if contradicts s.records[i] entry queued localSettled then ({ s with faulted := true }, false)
    else ({ s with records := s.records.set i (reported s.records[i] entry queued localSettled) },
      true)

/-- A record after its interruption was seen. -/
def stopped (record : ApplicationRecord) (observationRevision : UInt64) : ApplicationRecord :=
  { record with state := .interrupted, observedRevision := observationRevision }

/-- `Interrupt`. -/
def interrupt (s : ApplicationJournal) (index : ℕ) (command : JournalDigest)
    (submittedRevision observationRevision : UInt64) : ApplicationJournal × Bool :=
  match s.exact index command with
  | none => (s, false)
  | some i =>
    let record := s.records[i]
    if s.faulted ∨ record.submittedRevision ≠ submittedRevision ∨
        observationRevision ≤ submittedRevision ∨ ¬ record.queued ∨ record.entry ≠ .entered then
      (s, false)
    else if record.state = .observed ∨ record.state = .interrupted then (s, true)
    else if record.state ≠ .pending then (s, false)
    else ({ s with records := s.records.set i (stopped record observationRevision) }, true)

/-- A record after its intent was seen to be present. -/
def seen (intent : JournalDigest) (revision : UInt64) (deadlines : List CoverageDeadline)
    (record : ApplicationRecord) : ApplicationRecord :=
  if record.reserved ∧ record.intent = intent ∧ record.state = .pending ∧
      revision > record.submittedRevision ∧ record.coveredDeadlines.advanced deadlines then
    { record with state := .observed, observedRevision := revision }
  else record

/-- `Observe`. -/
def observe (s : ApplicationJournal) (intent : JournalDigest) (revision : UInt64)
    (complete present : Bool) (deadlines : List CoverageDeadline) : ApplicationJournal × Bool :=
  if s.faulted ∨ isZero intent ∨ revision = 0 then (s, false)
  else if ¬ complete ∨ ¬ present then (s, true)
  else ({ s with records := s.records.map (seen intent revision deadlines) }, true)

/-- `Pending`. -/
def pending (s : ApplicationJournal) (intent : JournalDigest) : Bool :=
  s.records.any fun record => record.reserved && record.intent == intent &&
    (!record.localSettled || record.state == .pending)

/-! ## Operations -/

inductive Operation
  | reserve (intent command : JournalDigest) (revision : UInt64) (covered : List CoverageDeadline)
  | record (index : ℕ) (command : JournalDigest) (entry : ApplicationEntry)
      (queued localSettled : Bool)
  | interrupt (index : ℕ) (command : JournalDigest)
      (submittedRevision observationRevision : UInt64)
  | observe (intent : JournalDigest) (revision : UInt64) (complete present : Bool)
      (deadlines : List CoverageDeadline)

/-- The journal after an operation. -/
def next (s : ApplicationJournal) : Operation → ApplicationJournal
  | .reserve intent command revision covered => (s.reserve intent command revision covered).1
  | .record index command entry queued localSettled =>
    (s.record index command entry queued localSettled).1
  | .interrupt index command submitted observation =>
    (s.interrupt index command submitted observation).1
  | .observe intent revision complete present deadlines =>
    (s.observe intent revision complete present deadlines).1

/-- The slot whose record an operation replaces. -/
def replaces (s : ApplicationJournal) : Operation → Option (Fin journalCapacity)
  | .reserve intent command revision covered => (s.reserve intent command revision covered).2
  | _ => none

/-- A report is taken that a settled record, which had never entered, did enter, while another
record of its intent is unresolved. -/
def reopens (s : ApplicationJournal) : Operation → Bool
  | .record index command entry queued localSettled =>
    match s.exact index command with
    | none => false
    | some i => contradicts s.records[i] entry queued localSettled = false ∧
        (s.records[i].localSettled ∧ s.records[i].entry = .neverEntered ∧ entry ≠ .neverEntered) ∧
        ∃ j ≠ i, s.records[j].unresolved = true ∧ s.records[j].intent = s.records[i].intent
  | _ => false

end ApplicationJournal

/-! ## What an operation does to a record -/

/-- How far an entry is known. -/
def ApplicationEntry.rank : ApplicationEntry → ℕ
  | .neverEntered => 0
  | .uncertain => 1
  | .entered => 2

variable {record : ApplicationRecord}

namespace ApplicationRecord

/-- The record was entered, or may have been, and nothing was seen of its application. -/
def Awaited (record : ApplicationRecord) : Prop :=
  record.reserved = true ∧ record.entry ≠ .neverEntered ∧ record.state ≠ .observed ∧
    record.state ≠ .interrupted

/-- Nothing that was known of the old record is lost in the new one. -/
structure Forward (old new : ApplicationRecord) : Prop where
  intent : new.intent = old.intent
  command : new.command = old.command
  submitted : new.submittedRevision = old.submittedRevision
  covered : new.coveredDeadlines = old.coveredDeadlines
  reserved : old.reserved = true → new.reserved = true
  entry : old.entry.rank ≤ new.entry.rank
  queued : old.queued = true → new.queued = true
  settled : old.localSettled = true → new.localSettled = true
  pending : old.state = .pending → new.state ≠ .none
  final : old.state = .observed ∨ old.state = .interrupted →
    new.state = old.state ∧ new.observedRevision = old.observedRevision

/-- A record that was entered waits for its application or was seen. -/
def Sound (record : ApplicationRecord) : Prop :=
  record.state = .none → record.entry = .neverEntered

@[refl] theorem Forward.refl (record : ApplicationRecord) : record.Forward record :=
  ⟨rfl, rfl, rfl, rfl, id, Nat.le_refl _, id, id, fun h => by simp [h], fun _ => ⟨rfl, rfl⟩⟩

theorem Forward.trans {a b c : ApplicationRecord} (hab : a.Forward b) (hbc : b.Forward c) :
    a.Forward c where
  intent := hbc.intent.trans hab.intent
  command := hbc.command.trans hab.command
  submitted := hbc.submitted.trans hab.submitted
  covered := hbc.covered.trans hab.covered
  reserved := fun h => hbc.reserved (hab.reserved h)
  entry := hab.entry.trans hbc.entry
  queued := fun h => hbc.queued (hab.queued h)
  settled := fun h => hbc.settled (hab.settled h)
  pending := by
    intro h
    cases hb : b.state with
    | none => exact absurd hb (hab.pending h)
    | pending => exact hbc.pending hb
    | observed => simp [(hbc.final (.inl hb)).1, hb]
    | interrupted => simp [(hbc.final (.inr hb)).1, hb]
  final := by
    intro h
    obtain ⟨hstate, hrevision⟩ := hab.final h
    obtain ⟨hstate', hrevision'⟩ := hbc.final (by rwa [hstate])
    exact ⟨hstate'.trans hstate, hrevision'.trans hrevision⟩

theorem unresolved_of_pending (hreserved : record.reserved = true)
    (hpending : record.state = .pending) : record.unresolved = true := by
  simp [unresolved, hreserved, hpending]

theorem Awaited.state_eq (h : record.Awaited) (hsound : record.Sound) :
    record.state = .pending := by
  obtain ⟨-, hentry, hobserved, hinterrupted⟩ := h
  cases hstate : record.state with
  | none => exact absurd (hsound hstate) hentry
  | pending => rfl
  | observed => exact absurd hstate hobserved
  | interrupted => exact absurd hstate hinterrupted

end ApplicationRecord

namespace ApplicationJournal

open ApplicationRecord

variable {s : ApplicationJournal}

variable {i : Fin journalCapacity}

theorem freeSlot_eq_some (h : s.freeSlot = some i) : s.records[i].replaceable = true :=
  List.find?_some (p := fun i : Fin journalCapacity => s.records[i].replaceable) h

/-- A reservation does nothing, or it takes a free slot for an intent that nothing stands in the
way of. -/
theorem reserve_cases (s : ApplicationJournal) (intent command : JournalDigest) (revision : UInt64)
    (covered : List CoverageDeadline) :
    s.reserve intent command revision covered = (s, none) ∨
      ∃ i baseline, s.records[i].replaceable = true ∧
        (∀ j : Fin journalCapacity, s.records[j].unresolved = true → s.records[j].intent ≠ intent) ∧
        s.reserve intent command revision covered =
          ({ s with records := s.records.set i (reservation intent command revision baseline) },
            some i) := by
  rw [reserve]
  split
  case h_1 => exact .inl rfl
  case h_2 baseline _ =>
    split
    case isTrue => exact .inl rfl
    case isFalse =>
      split
      case isTrue => exact .inl rfl
      case isFalse hfree =>
        split
        case h_1 => exact .inl rfl
        case h_2 i hslot =>
          refine .inr ⟨i, baseline, freeSlot_eq_some hslot, fun j hj hintent => hfree ?_, rfl⟩
          rw [Vector.any_eq_true]
          refine ⟨j, j.isLt, ?_⟩
          rw [unresolved, Bool.and_eq_true] at hj
          simp_all

/-- A report faults the journal, or it moves one record forward. -/
theorem record_cases (s : ApplicationJournal) (index : ℕ) (command : JournalDigest)
    (entry : ApplicationEntry) (queued localSettled : Bool) :
    (s.record index command entry queued localSettled).1 = { s with faulted := true } ∨
      ∃ i, s.exact index command = some i ∧
        contradicts s.records[i] entry queued localSettled = false ∧
        (s.record index command entry queued localSettled).1 = { s with
          records := s.records.set i (reported s.records[i] entry queued localSettled) } := by
  rw [record]
  split
  case h_1 => exact .inl rfl
  case h_2 i hexact =>
    split
    case isTrue => exact .inl rfl
    case isFalse h => exact .inr ⟨i, hexact, by simpa using h, rfl⟩

/-- An interruption does nothing, or it ends the wait of one record. -/
theorem interrupt_cases (s : ApplicationJournal) (index : ℕ) (command : JournalDigest)
    (submitted observation : UInt64) :
    (s.interrupt index command submitted observation).1 = s ∨
      ∃ i : Fin journalCapacity, s.records[i].state = .pending ∧
        (s.interrupt index command submitted observation).1 =
          { s with records := s.records.set i (stopped s.records[i] observation) } := by
  rw [interrupt]
  split
  case h_1 => exact .inl rfl
  case h_2 i hexact =>
    dsimp only
    split
    case isTrue => exact .inl rfl
    case isFalse =>
      split
      case isTrue => exact .inl rfl
      case isFalse =>
        split
        case isTrue => exact .inl rfl
        case isFalse hpending => exact .inr ⟨i, not_not.1 hpending, rfl⟩

/-- An observation does nothing, or it ends the wait of records with its intent. -/
theorem observe_cases (s : ApplicationJournal) (intent : JournalDigest) (revision : UInt64)
    (complete present : Bool) (deadlines : List CoverageDeadline) :
    (s.observe intent revision complete present deadlines).1 = s ∨
      (s.observe intent revision complete present deadlines).1 =
        { s with records := s.records.map (seen intent revision deadlines) } := by
  rw [observe]
  split
  case isTrue => exact .inl rfl
  case isFalse =>
    split
    case isTrue => exact .inl rfl
    case isFalse => exact .inr rfl

variable {entry : ApplicationEntry} {queued localSettled : Bool}

theorem forward_reported (h : contradicts record entry queued localSettled = false) :
    record.Forward (reported record entry queued localSettled) where
  intent := rfl
  command := rfl
  submitted := rfl
  covered := rfl
  reserved := id
  entry := by
    simp only [contradicts, decide_eq_false_iff_not, not_or, not_and] at h
    obtain ⟨-, -, hentered, huncertain, -⟩ := h
    cases hold : record.entry with
    | neverEntered => exact Nat.zero_le _
    | entered => simp [reported, hold]
    | uncertain =>
      have hentry := huncertain hold
      cases entry <;> simp [reported, hold, ApplicationEntry.rank] at hentry ⊢
  queued := fun hold => by simp [reported, hold]
  settled := fun hold => by simp [reported, hold]
  pending := by
    intro hold
    rw [reported]
    split <;> simp [hold]
  final := by
    intro hold
    have hkeeps : ¬ (entry ≠ .neverEntered ∧ record.state ≠ .observed ∧
        record.state ≠ .interrupted) := fun ⟨_, hobserved, hinterrupted⟩ =>
      hold.elim hobserved hinterrupted
    exact ⟨if_neg hkeeps, rfl⟩

theorem forward_stopped (observation : UInt64) (h : record.state = .pending) :
    record.Forward (stopped record observation) where
  intent := rfl
  command := rfl
  submitted := rfl
  covered := rfl
  reserved := id
  entry := Nat.le_refl _
  queued := id
  settled := id
  pending := fun _ => by simp [stopped]
  final := by simp [h]

theorem forward_seen (intent : JournalDigest) (revision : UInt64)
    (deadlines : List CoverageDeadline) (record : ApplicationRecord) :
    record.Forward (seen intent revision deadlines record) := by
  rw [seen]
  split
  case isFalse => rfl
  case isTrue h =>
    exact ⟨rfl, rfl, rfl, rfl, id, Nat.le_refl _, id, id, fun _ => by simp, by simp [h.2.2.1]⟩

variable {new : ApplicationRecord}

/-- A change of one record that moves it forward. -/
theorem forward_set (h : s.records[i].Forward new) (j : Fin journalCapacity) :
    s.records[j].Forward (s.records.set i new)[j] := by
  rw [Fin.getElem_fin, Fin.getElem_fin, Vector.getElem_set]
  split
  case isTrue hij => simpa [hij] using h
  case isFalse => rfl

/-- An operation moves a record forward, or it replaces one that may make room. -/
theorem forward_or_replaces (s : ApplicationJournal) (op : Operation) (i : Fin journalCapacity) :
    s.records[i].Forward (s.next op).records[i] ∨
      s.replaces op = some i ∧ s.records[i].replaceable = true := by
  cases op with
  | reserve intent command revision covered =>
    rcases reserve_cases s intent command revision covered with
      h | ⟨j, baseline, hroom, -, h⟩
    · exact .inl (by rw [next, h])
    · rw [next, replaces, h]
      by_cases hij : j = i
      · exact .inr ⟨by rw [hij], by rwa [← hij]⟩
      · refine .inl ?_
        simp only [Fin.getElem_fin]
        rw [Vector.getElem_set_ne _ _ (Fin.val_ne_of_ne hij)]
  | record index command entry queued localSettled =>
    refine .inl ?_
    rcases record_cases s index command entry queued localSettled with h | ⟨j, -, hok, h⟩
    · rw [next, h]
    · rw [next, h]
      exact forward_set (forward_reported hok) i
  | interrupt index command submitted observation =>
    refine .inl ?_
    rcases interrupt_cases s index command submitted observation with h | ⟨j, hpending, h⟩
    · rw [next, h]
    · rw [next, h]
      exact forward_set (forward_stopped observation hpending) i
  | observe intent revision complete present deadlines =>
    refine .inl ?_
    rcases observe_cases s intent revision complete present deadlines with h | h
    · rw [next, h]
    · rw [next, h]
      simp only [Fin.getElem_fin, Vector.getElem_map]
      exact forward_seen _ _ _ _

theorem faulted_next (op : Operation) (h : s.faulted = true) : (s.next op).faulted = true := by
  cases op with
  | reserve intent command revision covered =>
    rcases reserve_cases s intent command revision covered with h' | ⟨_, _, -, -, h'⟩ <;>
      rw [next, h'] <;> exact h
  | record index command entry queued localSettled =>
    rcases record_cases s index command entry queued localSettled with h' | ⟨_, -, -, h'⟩ <;>
      rw [next, h']
    exact h
  | interrupt index command submitted observation =>
    rcases interrupt_cases s index command submitted observation with h' | ⟨_, -, h'⟩ <;>
      rw [next, h'] <;> exact h
  | observe intent revision complete present deadlines =>
    rcases observe_cases s intent revision complete present deadlines with h' | h' <;>
      rw [next, h'] <;> exact h

/-! ## Runs -/

/-- Every record tells what it waits for. -/
def Sound (s : ApplicationJournal) : Prop := ∀ i : Fin journalCapacity, s.records[i].Sound

/-- An intent has at most one unresolved record. -/
def Distinct (s : ApplicationJournal) : Prop :=
  ∀ i j : Fin journalCapacity, s.records[i].unresolved = true → s.records[j].unresolved = true →
    s.records[i].intent = s.records[j].intent → i = j

theorem sound_set (hs : s.Sound) (h : new.Sound) (j : Fin journalCapacity) :
    (s.records.set i new)[j].Sound := by
  rw [Fin.getElem_fin, Vector.getElem_set]
  split
  case isTrue => exact h
  case isFalse => exact hs j

theorem sound_reported (entry : ApplicationEntry) (queued localSettled : Bool) (h : record.Sound) :
    (reported record entry queued localSettled).Sound := by
  intro hnone
  rw [reported] at hnone ⊢
  dsimp only at hnone ⊢
  split at hnone
  case isTrue => cases hnone
  case isFalse hkeeps =>
    have hentry : entry = .neverEntered := by
      by_contra hentry
      exact hkeeps ⟨hentry, by simp [hnone], by simp [hnone]⟩
    rw [h hnone, hentry]
    rfl

theorem sound_next (op : Operation) (hs : s.Sound) : (s.next op).Sound := by
  cases op with
  | reserve intent command revision covered =>
    rcases reserve_cases s intent command revision covered with h | ⟨i, baseline, -, -, h⟩
    · rwa [next, h]
    · rw [next, h]
      exact sound_set hs fun _ => rfl
  | record index command entry queued localSettled =>
    rcases record_cases s index command entry queued localSettled with h | ⟨i, -, -, h⟩
    · rwa [next, h]
    · rw [next, h]
      exact sound_set hs (sound_reported _ _ _ (hs i))
  | interrupt index command submitted observation =>
    rcases interrupt_cases s index command submitted observation with h | ⟨i, -, h⟩
    · rwa [next, h]
    · rw [next, h]
      exact sound_set hs fun hnone => by cases hnone
  | observe intent revision complete present deadlines =>
    rcases observe_cases s intent revision complete present deadlines with h | h
    · rwa [next, h]
    · rw [next, h]
      intro i hnone
      simp only [Fin.getElem_fin, Vector.getElem_map] at hnone ⊢
      rw [seen] at hnone ⊢
      split
      case isTrue hseen =>
        rw [if_pos hseen] at hnone
        cases hnone
      case isFalse hseen =>
        rw [if_neg hseen] at hnone
        exact hs i hnone

/-- Records that keep their intents, and of which none is reopened. -/
theorem distinct_of_records {t : ApplicationJournal} (hs : s.Distinct)
    (h : ∀ i : Fin journalCapacity, t.records[i].unresolved = true →
      s.records[i].unresolved = true ∧ t.records[i].intent = s.records[i].intent) :
    t.Distinct := by
  intro i j hi hj hintent
  rw [(h i hi).2, (h j hj).2] at hintent
  exact hs i j (h i hi).1 (h j hj).1 hintent

/-- A change of one record: if it is unresolved now, no other of its intent is. -/
theorem distinct_set (hs : s.Distinct) (hnew : new.unresolved = true → ∀ j ≠ i,
      s.records[j].unresolved = true → s.records[j].intent ≠ new.intent) :
    Distinct { s with records := s.records.set i new } := by
  intro j k
  simp only [Fin.getElem_fin, Vector.getElem_set]
  split <;> split
  case isTrue.isTrue hij hik => exact fun _ _ _ => Fin.ext (hij.symm.trans hik)
  case isTrue.isFalse hik =>
    exact fun hopen hk hintent => absurd hintent.symm
      (hnew hopen k (fun hki => hik (congrArg Fin.val hki.symm)) hk)
  case isFalse.isTrue hij _ =>
    exact fun hj hopen hintent => absurd hintent
      (hnew hopen j (fun hji => hij (congrArg Fin.val hji.symm)) hj)
  case isFalse.isFalse => exact hs j k

/-- No other record has the intent of an unresolved one. -/
theorem Distinct.intent_ne (hs : s.Distinct) (hopen : s.records[i].unresolved = true) :
    ∀ j ≠ i, s.records[j].unresolved = true → s.records[j].intent ≠ s.records[i].intent :=
  fun j hne hj hintent => hne (hs j i hj hopen hintent)

/-- A report leaves a resolved record resolved, unless it says for the first time that a settled
record was entered. -/
theorem unresolved_of_reported (hsound : record.Sound)
    (hkept : ¬ (record.localSettled ∧ record.entry = .neverEntered ∧ entry ≠ .neverEntered))
    (h : (reported record entry queued localSettled).unresolved = true) :
    record.unresolved = true := by
  simp only [unresolved, reported, Bool.and_eq_true, Bool.or_eq_true, Bool.not_eq_true',
    beq_iff_eq, Bool.or_eq_false_iff] at h ⊢
  obtain ⟨hreserved, ⟨hsettled, -⟩ | hpending⟩ := h
  · exact ⟨hreserved, .inl hsettled⟩
  · split at hpending
    case isFalse => exact ⟨hreserved, .inr hpending⟩
    case isTrue hentered =>
      refine ⟨hreserved, ?_⟩
      by_contra hresolved
      rw [not_or, Bool.not_eq_false] at hresolved
      obtain ⟨hsettled, hstate⟩ := hresolved
      refine hkept ⟨hsettled, hsound ?_, hentered.1⟩
      cases hrecord : record.state with
      | none => rfl
      | pending => exact absurd hrecord hstate
      | observed => exact absurd hrecord hentered.2.1
      | interrupted => exact absurd hrecord hentered.2.2

theorem distinct_next {op : Operation} (hsound : s.Sound) (hs : s.Distinct)
    (hkept : s.reopens op = false) : (s.next op).Distinct := by
  cases op with
  | reserve intent command revision covered =>
    rcases reserve_cases s intent command revision covered with h | ⟨i, baseline, -, hfree, h⟩
    · rwa [next, h]
    · rw [next, h]
      exact distinct_set hs fun _ j _ => hfree j
  | record index command entry queued localSettled =>
    rcases record_cases s index command entry queued localSettled with h | ⟨i, hexact, hok, h⟩
    · rwa [next, h]
    · rw [next, h]
      refine distinct_set hs fun hopen => ?_
      by_cases hopened : s.records[i].unresolved = true
      · exact hs.intent_ne hopened
      · -- the report reopens a record, and its intent was free
        have hlate : s.records[i].localSettled ∧ s.records[i].entry = .neverEntered ∧
            entry ≠ .neverEntered := by
          by_contra hkept
          exact hopened (unresolved_of_reported (hsound i) hkept hopen)
        rw [reopens, hexact] at hkept
        exact fun j hne hj hintent => of_decide_eq_false hkept ⟨hok, hlate, j, hne, hj, hintent⟩
  | interrupt index command submitted observation =>
    rcases interrupt_cases s index command submitted observation with h | ⟨i, hpending, h⟩
    · rwa [next, h]
    · rw [next, h]
      refine distinct_set hs fun hopen => hs.intent_ne ?_
      simp only [unresolved, stopped, Bool.and_eq_true] at hopen
      exact unresolved_of_pending hopen.1 hpending
  | observe intent revision complete present deadlines =>
    rcases observe_cases s intent revision complete present deadlines with h | h
    · rwa [next, h]
    · rw [next, h]
      refine distinct_of_records hs fun i => ?_
      simp only [Fin.getElem_fin, Vector.getElem_map]
      rw [seen]
      split
      case isTrue hseen => exact fun _ => ⟨unresolved_of_pending hseen.1 hseen.2.2.1, rfl⟩
      case isFalse => exact fun hopen => ⟨hopen, rfl⟩

/-- What the journal promises from some state on. -/
structure Remembers (s : ApplicationJournal) (ops : List Operation) : Prop where
  /-- A record that waits for its application is reported, and its slot is not given away. -/
  awaited : ∀ i : Fin journalCapacity, s.records[i].Awaited →
    s.pending s.records[i].intent = true ∧ s.freeSlot ≠ some i
  /-- It is kept until its application is observed or interrupted. -/
  kept : ∀ i : Fin journalCapacity, s.records[i].Awaited →
    s.records[i].Forward (ops.foldl next s).records[i] ∨ ∃ x ∈ met next s ops,
      x.1.replaces x.2 = some i ∧ s.records[i].Forward x.1.records[i] ∧
      (x.1.records[i].state = .observed ∨ x.1.records[i].state = .interrupted)
  /-- Any record moves forward until it is replaced. -/
  forward : ∀ i : Fin journalCapacity,
    s.records[i].Forward (ops.foldl next s).records[i] ∨ ∃ x ∈ met next s ops,
      x.1.replaces x.2 = some i ∧ s.records[i].Forward x.1.records[i] ∧
      x.1.records[i].replaceable = true
  faulted : s.faulted = true → (ops.foldl next s).faulted = true

theorem sound_run (hs : s.Sound) (ops : List Operation) : (ops.foldl next s).Sound :=
  List.foldlRecOn ops next hs fun _ hs op _ => sound_next op hs

theorem faulted_run (hs : s.faulted = true) (ops : List Operation) :
    (ops.foldl next s).faulted = true :=
  List.foldlRecOn ops next (motive := fun s => s.faulted = true) hs fun _ hs op _ =>
    faulted_next op hs

theorem distinct_run {ops : List Operation} (hsound : s.Sound) (hs : s.Distinct)
    (hkept : ∀ x ∈ met next s ops, x.1.reopens x.2 = false) : (ops.foldl next s).Distinct := by
  induction ops generalizing s with
  | nil => exact hs
  | cons op ops ih =>
    obtain ⟨hop, hops⟩ := List.forall_mem_cons.1 hkept
    exact ih (sound_next op hsound) (distinct_next hsound hs hop) hops

/-- A record moves forward until an operation replaces it. -/
theorem forward_run (ops : List Operation) (i : Fin journalCapacity) :
    s.records[i].Forward (ops.foldl next s).records[i] ∨ ∃ x ∈ met next s ops,
      x.1.replaces x.2 = some i ∧ s.records[i].Forward x.1.records[i] ∧
      x.1.records[i].replaceable = true := by
  by_cases hend : s.records[i].Forward (ops.foldl next s).records[i]
  · exact .inl hend
  · obtain ⟨x, hx, hforward, hlost⟩ := exists_ends
      (P := fun t : ApplicationJournal => s.records[i].Forward t.records[i]) (.refl _) hend
    rcases forward_or_replaces x.1 x.2 i with hstep | ⟨hreplaces, hroom⟩
    · exact absurd (hforward.trans hstep) hlost
    · exact .inr ⟨x, hx, hreplaces, hforward, hroom⟩

theorem remembers (hs : s.Sound) (ops : List Operation) : s.Remembers ops where
  awaited := by
    intro i hi
    have hpending := hi.state_eq (hs i)
    refine ⟨?_, fun hslot => ?_⟩
    · rw [pending, Vector.any_eq_true]
      refine ⟨i, i.isLt, ?_⟩
      have hreserved := hi.1
      rw [Fin.getElem_fin] at hreserved hpending
      simp [hreserved, hpending]
    · have hroom := freeSlot_eq_some hslot
      rw [replaceable, hi.1, hpending] at hroom
      simp at hroom
  kept := by
    intro i hi
    rcases forward_run ops i with hforward | ⟨x, hx, hreplaces, hforward, hroom⟩
    · exact .inl hforward
    · refine .inr ⟨x, hx, hreplaces, hforward, ?_⟩
      have hpending := hforward.pending (hi.state_eq (hs i))
      have hreserved := hforward.reserved hi.1
      simp only [replaceable, hreserved, Bool.not_true, Bool.false_or, Bool.and_eq_true,
        bne_iff_ne] at hroom
      cases hstate : x.1.records[i].state with
      | none => exact absurd hstate hpending
      | pending => exact absurd hstate hroom.2
      | observed => exact .inl rfl
      | interrupted => exact .inr rfl
  forward := forward_run ops
  faulted := fun h => faulted_run h ops

theorem sound_initial : Sound {} := by
  intro i _
  simp

theorem distinct_initial : Distinct {} := by
  intro i j hi
  simp [unresolved] at hi

/-- **After any run the journal remembers what waits for its application, whatever comes next**; in
a run that reopens no record beside another of its intent, at most one of an intent is unresolved. -/
theorem application_remembered (before ops : List Operation) :
    (before.foldl next {}).Remembers ops ∧
      ((∀ x ∈ met next {} before, x.1.reopens x.2 = false) →
        (before.foldl next {}).Distinct) :=
  ⟨remembers (sound_run sound_initial before) ops, distinct_run sound_initial distinct_initial⟩

/-- An intent is reserved again once its first application, which was reported late, was
observed. -/
theorem observed_intent_reserved_again :
    let digest (n : UInt8) : JournalDigest := .replicate 32 n
    Distinct ([Operation.reserve (digest 1) (digest 2) 1 [⟨7, 1⟩],
      .record 0 (digest 2) .neverEntered false true, .record 0 (digest 2) .entered false true,
      .observe (digest 1) 2 true true [⟨7, 2⟩],
      .reserve (digest 1) (digest 3) 3 []].foldl next {}) :=
  (application_remembered _ []).2 (by decide +kernel)

/-- An application that was interrupted is not pending any more, and its record, which was entered
and never observed, makes room for another; a settled record may be reported as entered after its
intent was reserved again. -/
theorem interrupted_application_is_evicted :
    let digest (n : UInt8) : JournalDigest := .replicate 32 n
    let interrupted : ApplicationJournal := [Operation.reserve (digest 1) (digest 2) 1 [],
      .record 0 (digest 2) .entered true false, .interrupt 0 (digest 2) 1 2,
      .record 0 (digest 2) .entered true true].foldl next {}
    let again : ApplicationJournal := [Operation.reserve (digest 1) (digest 2) 1 [],
      .reserve (digest 3) (digest 4) 1 [], .record 0 (digest 2) .neverEntered false true,
      .record 1 (digest 4) .neverEntered false true, .reserve (digest 3) (digest 5) 1 [],
      .record 1 (digest 4) .entered false true].foldl next {}
    (interrupted.records[0].reserved = true ∧ interrupted.records[0].entry = .entered ∧
      interrupted.records[0].state ≠ .observed ∧ interrupted.pending (digest 1) = false ∧
      interrupted.replaces (.reserve (digest 3) (digest 4) 3 []) = some 0) ∧
    ¬ again.Distinct := by
  dsimp only
  refine ⟨by decide +kernel, fun hdistinct => ?_⟩
  have h := hdistinct 0 1 (by decide +kernel) (by decide +kernel) (by decide +kernel)
  cases h

end ApplicationJournal

end ShadowbaneLab.Native
