/-
# Evidence of Condemn responses

`src/native/wonderbane_extension/condemn_responses.h` and `condemn_evidence.h`: the recorded
responses of the server, read in order, and the three-stage proofs put together from them.
-/
import ShadowbaneLab.Native.Desk

namespace ShadowbaneLab.Native.Condemn

open Foundation

/-! ## Recorded responses -/

/-- `Key`. -/
abbrev Key : Type := UInt32 × UInt32

structure Row where
  kind : UInt32 := 0
  entry : Key := (0, 0)
  character : Key := (0, 0)
  guild : Key := (0, 0)
  nation : Key := (0, 0)
  flags : UInt32 := 0
deriving DecidableEq

structure Payload where
  operation : UInt32 := 0
  status : UInt32 := 0
  scope : UInt32 := 0
  fields : UInt32 := 0
  building : Key := (0, 0)
  entry : Key := (0, 0)
  character : Key := (0, 0)
  guild : Key := (0, 0)
  nation : Key := (0, 0)
  state : UInt32 := 0
  inverted : UInt32 := 0
  reportedCount : UInt32 := 0
  rowCount : UInt32 := 0
  rows : Vector Row 512 := .replicate 512 {}
deriving DecidableEq

structure Record where
  sequence : Int64 := 0
  tickMs : UInt64 := 0
  threadId : UInt32 := 0
  stage : UInt32 := 0
  decodeSequence : UInt64 := 0
  sceneEpoch : UInt64 := 0
  localKey : Key := (0, 0)
  flags : UInt32 := 0
  callerRva : UInt32 := 0
  payload : Payload := {}
deriving DecidableEq

structure Cursor where
  processId : UInt32 := 0
  creation : UInt64 := 0
  sequence : UInt64 := 0
  rejected : UInt64 := 0
  ticketDrops : UInt64 := 0
deriving DecidableEq

/-- `kCapacity`. -/
def capacity : ℕ := 32

structure Batch where
  after : Cursor
  count : UInt32
  records : Vector Record 32

/-- The records that are counted. -/
def Batch.shown (batch : Batch) : List Record := batch.records.toList.take batch.count.toNat

/-- `Typed`. -/
def typed (key : Key) (type : UInt32) : Bool := key.1 ≠ 0 ∧ key.2 = type

/-- `KeyValid`. -/
def keyValid (key : Key) : Bool := (key.1 ≠ 0 ∧ key.2 ≠ 0) ∨ key = (0, 0)

/-- `PayloadValid`. -/
def Payload.valid (p : Payload) : Bool :=
  let fields : UInt32 :=
    if p.operation = 14 ∨ p.operation = 16 then 3 else if p.operation = 15 then 5 else 1
  (11 ≤ p.operation ∧ p.operation ≤ 22 ∧ p.fields = fields ∧ p.state ≤ 1 ∧ p.inverted ≤ 1 ∧
    p.rowCount ≤ 512 ∧ keyValid p.building ∧ keyValid p.entry ∧ keyValid p.character ∧
    keyValid p.guild ∧ keyValid p.nation) ∧
  (fields ≠ 3 → p.scope = 0) ∧
  (fields = 1 → p.character = (0, 0) ∧ p.guild = (0, 0) ∧ p.nation = (0, 0)) ∧
  ∀ i : Fin 512,
    let row := p.rows[i]
    if p.rowCount.toNat ≤ i then row = {}
    else row.flags ≤ 0xffffff ∧ keyValid row.entry ∧ keyValid row.character ∧
      keyValid row.guild ∧ keyValid row.nation

/-- The three stages of a response: decoded, processing and returned. -/
structure Proof where
  decoded : Record
  processing : Record
  returned : Record

/-- `Proof::Enabled`. -/
def Proof.enabled (proof : Proof) (building entry : Key) : Bool :=
  let p := proof.decoded.payload
  typed building 8 ∧ typed entry 23 ∧ p.operation = 17 ∧ p.status = 0 ∧ p.building = building ∧
    p.entry = entry ∧ p.state = 1 ∧ p.inverted = 0 ∧ p.rowCount = 0 ∧ p.reportedCount = 0

/-- The records are the three stages of one response. -/
structure Proof.Complete (proof : Proof) : Prop where
  stages : proof.decoded.stage = 1 ∧ proof.processing.stage = 2 ∧ proof.returned.stage = 3
  sequences : proof.processing.decodeSequence = proof.decoded.decodeSequence ∧
    proof.returned.decodeSequence = proof.decoded.decodeSequence
  payloads : proof.processing.payload = proof.decoded.payload ∧
    proof.returned.payload = proof.decoded.payload
  callers : proof.returned.threadId = proof.processing.threadId ∧
    proof.returned.callerRva = proof.processing.callerRva

/-! ## Windows -/

/-- `Window::Pending`: the stages of a response so far. -/
inductive Pending
  | decoded (first : Record)
  | processing (first second : Record)

/-- One interval of one process and scene, read in order. -/
structure Window where
  baseline : Cursor
  current : Cursor
  scene : UInt64
  tick : UInt64 := 0
  localKey : Key
  failed : Bool
  pending : Dict UInt64 Pending := .empty

/-- `INT64_MAX`. -/
def int64Max : UInt64 := 0x7FFFFFFFFFFFFFFF

namespace Window

/-- The constructor. -/
def start (baseline : Cursor) (scene : UInt64) (localKey : Key) : Window where
  baseline := baseline
  current := baseline
  scene := scene
  localKey := localKey
  failed := baseline.processId = 0 ∨ baseline.creation = 0 ∨ int64Max < baseline.sequence ∨
    0x7FFFFFFF < baseline.rejected ∨ int64Max < baseline.ticketDrops ∨ scene = 0 ∨
    ¬ typed localKey 53

variable (w : Window)

/-- `Healthy`. -/
def healthy : Bool := !w.failed

/-- `Invalidate`. -/
def invalidate : Window := { w with failed := true, pending := .empty }

/-- `RecordValid`. -/
def recordValid (r : Record) : Bool :=
  (0 < r.sequence ∧ r.threadId ≠ 0 ∧ r.sceneEpoch = w.scene ∧ r.localKey = w.localKey ∧
    r.decodeSequence ≠ 0 ∧ 1 ≤ r.stage ∧ r.stage ≤ 3 ∧ r.payload.valid ∧ w.tick ≤ r.tickMs) ∧
  if r.stage = 1 then
    r.flags = 3 ∧ r.decodeSequence = r.sequence.toUInt64 ∧ r.callerRva = 0x3625bc
  else r.flags = 7 ∧ r.decodeSequence < r.sequence.toUInt64

/-- The next stage of a response that is pending: the response with it, or its proof. -/
def advance (pending : Pending) (r : Record) : Option (Pending ⊕ Proof) :=
  match pending with
  | .decoded first =>
    if r.stage ≠ 2 ∨ first.payload ≠ r.payload then none
    else some (.inl (.processing first r))
  | .processing first second =>
    if r.stage ≠ 3 ∨ first.payload ≠ r.payload ∨ r.threadId ≠ second.threadId ∨
        r.callerRva ≠ second.callerRva then none
    else some (.inr ⟨first, second, r⟩)

/-- One record of a batch, the one at `index`; `none` invalidates the window. -/
def absorb (state : Window × List Proof) (indexed : Record × ℕ) : Option (Window × List Proof) :=
  let (w, completed) := state
  let (r, index) := indexed
  if r.sequence ≠ (w.current.sequence + index.toUInt64 + 1).toInt64 ∨ ¬ w.recordValid r then none
  else
    let w := { w with tick := r.tickMs }
    -- late processing of an old decode cannot complete new work
    if r.decodeSequence ≤ w.baseline.sequence then some (w, completed)
    else if r.stage = 1 then
      if 64 ≤ w.pending.items.length ∨ w.pending.contains r.decodeSequence then none
      else some ({ w with pending := w.pending.set r.decodeSequence (.decoded r) }, completed)
    else
      match w.pending.get? r.decodeSequence with
      | none => none
      | some pending =>
        match advance pending r with
        | none => none
        | some (.inl pending) =>
          some ({ w with pending := w.pending.set r.decodeSequence pending }, completed)
        | some (.inr proof) =>
          some ({ w with pending := w.pending.erase r.decodeSequence }, completed ++ [proof])

/-- `Consume`: the window after a batch and the proofs it completed; `none` when it returns false,
having invalidated the window. -/
def consume (batch : Batch) (memory : Bool) : Option (Window × List Proof) :=
  let next := batch.after
  if w.failed then none
  else if next.processId ≠ w.baseline.processId ∨ next.creation ≠ w.baseline.creation ∨
      next.rejected ≠ w.baseline.rejected ∨ next.ticketDrops ≠ w.baseline.ticketDrops ∨
      next.sequence < w.current.sequence ∨ int64Max < next.sequence ∨
      capacity < batch.count.toNat ∨
      next.sequence - w.current.sequence ≠ batch.count.toUInt64 then none
  else if ¬ memory then none
  else (batch.shown.zipIdx.foldlM absorb (w, [])).map fun (w, completed) =>
    ({ w with current := next }, completed)

/-- The proofs completed by batch after batch; `none` when one of them is not accepted. -/
def consumed (w : Window) : List (Batch × Bool) → Option (List (List Proof))
  | [] => some []
  | (batch, memory) :: rest => do
    let (w, completed) ← w.consume batch memory
    let later ← w.consumed rest
    return completed :: later

/-! ## Proofs are complete -/

/-- The records kept for a response are its first stages. -/
def Pending.Staged (pending : Pending) (decodeSequence : UInt64) : Prop :=
  match pending with
  | .decoded first => first.stage = 1 ∧ first.decodeSequence = decodeSequence
  | .processing first second => (first.stage = 1 ∧ first.decodeSequence = decodeSequence) ∧
      second.stage = 2 ∧ second.decodeSequence = decodeSequence ∧ second.payload = first.payload

def Staged : Prop := ∀ k pending, w.pending.get? k = some pending → Pending.Staged pending k

variable {w}

theorem staged_start (baseline : Cursor) (scene : UInt64) (localKey : Key) :
    (start baseline scene localKey).Staged :=
  fun _ _ h => by cases h

variable {r : Record}

variable {pending pending' : Pending}

theorem advance_eq_inl (h : advance pending r = some (.inl pending')) :
    ∃ first, pending = .decoded first ∧
      pending' = .processing first r ∧ r.stage = 2 ∧ first.payload = r.payload := by
  cases pending with
  | decoded first =>
    obtain ⟨hchecks, h⟩ := Option.ite_none_left_eq_some.1 h
    cases h
    rw [not_or, not_not, not_not] at hchecks
    exact ⟨first, rfl, rfl, hchecks⟩
  | processing first second =>
    obtain ⟨-, h⟩ := Option.ite_none_left_eq_some.1 h
    cases h

variable {proof : Proof}

theorem advance_eq_inr {pending : Pending} (h : advance pending r = some (.inr proof)) :
    ∃ first second, pending = .processing first second ∧ proof = ⟨first, second, r⟩ ∧ r.stage = 3 ∧
      first.payload = r.payload ∧ r.threadId = second.threadId ∧ r.callerRva = second.callerRva := by
  cases pending with
  | decoded first =>
    obtain ⟨-, h⟩ := Option.ite_none_left_eq_some.1 h
    cases h
  | processing first second =>
    obtain ⟨hchecks, h⟩ := Option.ite_none_left_eq_some.1 h
    cases h
    simp only [not_or, not_not] at hchecks
    exact ⟨first, second, rfl, rfl, hchecks⟩

theorem advance_staged (hpending : Pending.Staged pending r.decodeSequence)
    (h : advance pending r = some (.inl pending')) : Pending.Staged pending' r.decodeSequence := by
  obtain ⟨first, rfl, rfl, hstage, hpayload⟩ := advance_eq_inl h
  exact ⟨hpending, hstage, rfl, hpayload.symm⟩

theorem advance_complete {pending : Pending} (hpending : Pending.Staged pending r.decodeSequence)
    (h : advance pending r = some (.inr proof)) : proof.Complete := by
  obtain ⟨first, second, rfl, rfl, hstage, hpayload, hthread, hcaller⟩ := advance_eq_inr h
  obtain ⟨⟨hfirst, hsequence⟩, hsecond, hsequence', hpayload'⟩ := hpending
  exact ⟨⟨hfirst, hsecond, hstage⟩, ⟨hsequence'.trans hsequence.symm, hsequence.symm⟩,
    ⟨hpayload', hpayload.symm⟩, hthread, hcaller⟩

variable {state state' : Window × List Proof}

variable {indexed : Record × ℕ}

/-- A record is the next one after the last drain, and the cursors stay. -/
theorem absorb_next (h : absorb state indexed = some state') :
    indexed.1.sequence = (state.1.current.sequence + indexed.2.toUInt64 + 1).toInt64 ∧
      state'.1.current = state.1.current := by
  obtain ⟨w, completed⟩ := state
  obtain ⟨r, index⟩ := indexed
  simp only [absorb] at h
  obtain ⟨hvalid, h⟩ := Option.ite_none_left_eq_some.1 h
  rw [not_or, not_not] at hvalid
  refine ⟨hvalid.1, ?_⟩
  split at h
  case isTrue =>
    cases h
    rfl
  case isFalse =>
    split at h
    case isTrue =>
      obtain ⟨-, h⟩ := Option.ite_none_left_eq_some.1 h
      cases h
      rfl
    case isFalse =>
      split at h
      case h_1 => cases h
      case h_2 =>
        split at h
        case h_1 => cases h
        case h_2 =>
          cases h
          rfl
        case h_3 =>
          cases h
          rfl

/-- Every record of a batch keeps the stages in order and completes complete proofs only. -/
theorem absorb_staged (hstate : state.1.Staged ∧ ∀ proof ∈ state.2, proof.Complete)
    (h : absorb state indexed = some state') :
    state'.1.Staged ∧ ∀ proof ∈ state'.2, proof.Complete := by
  obtain ⟨w, completed⟩ := state
  obtain ⟨r, index⟩ := indexed
  obtain ⟨hstaged, hcomplete⟩ := hstate
  have hset {pending : Pending} (hpending : Pending.Staged pending r.decodeSequence) :
      ∀ k p, (w.pending.set r.decodeSequence pending).get? k = some p → Pending.Staged p k :=
    Dict.forall_set hstaged hpending
  simp only [absorb] at h
  obtain ⟨hvalid, h⟩ := Option.ite_none_left_eq_some.1 h
  split at h
  case isTrue =>
    cases h
    exact ⟨hstaged, hcomplete⟩
  case isFalse =>
    split at h
    case isTrue hstage =>
      obtain ⟨-, h⟩ := Option.ite_none_left_eq_some.1 h
      cases h
      exact ⟨hset ⟨hstage, rfl⟩, hcomplete⟩
    case isFalse =>
      split at h
      case h_1 => cases h
      case h_2 pending hget =>
        have hpending := hstaged _ _ hget
        split at h
        case h_1 => cases h
        case h_2 pending' hadvance =>
          cases h
          exact ⟨hset (advance_staged hpending hadvance), hcomplete⟩
        case h_3 proof hadvance =>
          cases h
          refine ⟨Dict.forall_erase hstaged, ?_⟩
          intro proof' hproof'
          rcases List.mem_append.1 hproof' with hold | hnew
          · exact hcomplete proof' hold
          · rw [List.mem_singleton.1 hnew]
            exact advance_complete hpending hadvance

theorem foldlM_absorb_staged {records : List (Record × ℕ)}
    (hstate : state.1.Staged ∧ ∀ proof ∈ state.2, proof.Complete)
    (h : records.foldlM absorb state = some state') :
    state'.1.Staged ∧ ∀ proof ∈ state'.2, proof.Complete := by
  induction records generalizing state with
  | nil =>
    cases h
    exact hstate
  | cons record records ih =>
    rw [List.foldlM_cons, Option.bind_eq_bind, Option.bind_eq_some_iff] at h
    obtain ⟨between, hfirst, h⟩ := h
    exact ih (absorb_staged hstate hfirst) h

/-- What a batch completes is complete. -/
theorem consume_staged {batch : Batch} {memory : Bool} {w' : Window} {completed : List Proof}
    (hstaged : w.Staged) (h : w.consume batch memory = some (w', completed)) :
    w'.Staged ∧ ∀ proof ∈ completed, proof.Complete := by
  unfold consume at h
  dsimp only at h
  iterate 3
    rw [Option.ite_none_left_eq_some] at h
    obtain ⟨-, h⟩ := h
  obtain ⟨⟨last, proofs⟩, hfold, h⟩ := Option.map_eq_some_iff.1 h
  cases h
  have hstart : (w, ([] : List Proof)).1.Staged ∧
      ∀ proof ∈ (w, ([] : List Proof)).2, proof.Complete := ⟨hstaged, fun _ h => by cases h⟩
  exact foldlM_absorb_staged hstart hfold

end Window

end ShadowbaneLab.Native.Condemn
