/-
# Evidence of Condemn responses

`src/shadowbane_lab/client_extension/condemn_evidence.py`: the recorded responses of one process
and scene, drained in order, and the three-stage responses put together from them.
-/
import ShadowbaneLab.Client.CondemnWire
import ShadowbaneLab.Foundation.Dict

namespace ShadowbaneLab.CondemnEvidence

open Foundation
open CondemnWire (Key IsKey)

/-! ## Checks -/

/-- `raise CondemnResponseError(text)` unless the condition holds. -/
def expect (condition : Prop) [Decidable condition] (text : String) : Except String Unit :=
  if condition then .ok () else .error text

variable {condition : Prop} {text : String}

theorem expect_pos [Decidable condition] (h : condition) :
    expect condition text = .ok () := if_pos h

/-- A check that passes is passed over. -/
theorem bind_ok {ε α β : Type} {x : Except ε α} {a : α} {rest : α → Except ε β}
    (h : x = .ok a) : (x >>= rest) = rest a := by
  rw [h]
  rfl

theorem of_expect [Decidable condition] (h : expect condition text = .ok ()) : condition := by
  by_contra hnot
  rw [expect, if_neg hnot] at h
  cases h

/-- `integer(value, maximum, minimum=minimum)`. -/
def integer (minimum maximum value : Int) : Except String Unit :=
  expect (minimum ≤ value ∧ value ≤ maximum) "invalid Condemn evidence integer"

theorem integer_ok {minimum maximum value : Int} (h : minimum ≤ value ∧ value ≤ maximum) :
    integer minimum maximum value = .ok () := if_pos h

/-- `key(value, kind=kind, empty=empty)`. -/
def key (kind : Option Int) (empty : Bool) (value : Key) : Except String Unit := do
  integer 0 (2 ^ 32 - 1) value.1
  integer 0 (2 ^ 32 - 1) value.2
  expect ((empty = true ∧ value = (0, 0)) ∨
    (value.1 ≠ 0 ∧ value.2 ≠ 0) ∧ (kind = none ∨ kind = some value.2))
    "invalid Condemn evidence key type"

theorem key_of_isKey {kind : Option Int} {empty : Bool} {value : Key}
    (h : IsKey kind empty value) : key kind empty value = .ok () := by
  rw [key, bind_ok (integer_ok h.1.1), bind_ok (integer_ok h.1.2)]
  exact expect_pos h.2

/-- The process and the scene that a response belongs to. -/
structure Lifetime where
  processId : Int
  creation : Int
  sceneEpoch : Int
  localKey : Key
  processId_ok : 1 ≤ processId ∧ processId ≤ 2 ^ 32 - 1
  creation_ok : 1 ≤ creation ∧ creation ≤ 2 ^ 64 - 1
  sceneEpoch_ok : 1 ≤ sceneEpoch ∧ sceneEpoch ≤ 2 ^ 64 - 1
  localKey_ok : IsKey (some 53) false localKey
deriving DecidableEq

inductive Scope
  | guild
  | nation
deriving DecidableEq

structure Target where
  building : Key
  scope : Scope
  identity : Key
  entry : Key
  building_ok : IsKey (some 8) false building
  identity_ok : IsKey (some 23) false identity
  entry_ok : IsKey (some 23) false entry

/-! ## Records -/

inductive Stage
  | decoded
  | processing
  | returned
deriving DecidableEq

structure Row where
  kind : Int
  entry : Key
  character : Key
  guild : Key
  nation : Key
  flagsRaw : Int
deriving DecidableEq

structure Payload where
  operation : Int
  statusRaw : Int
  scopeRaw : Int
  serializedFields : Int
  building : Key
  entry : Key
  character : Key
  guild : Key
  nation : Key
  stateRaw : Int
  invertedRaw : Int
  reportedCountRaw : Int
  rows : List Row
deriving DecidableEq

structure Record where
  sequence : Int
  tickMs : Int
  threadId : Int
  stage : Stage
  decodeSequence : Int
  sceneEpoch : Int
  localKey : Key
  flags : Int
  callerRva : Int
  payload : Option Payload
deriving DecidableEq

/-- A row of a payload, as `_record` checks it. -/
def Row.check (row : Row) : Except String Unit := do
  integer 0 (2 ^ 32 - 1) row.kind
  integer 0 0xFFFFFF row.flagsRaw
  key none true row.entry
  key none true row.character
  key none true row.guild
  key none true row.nation

/-- The fields that an operation serializes. -/
def fieldsOf (operation : Int) : Int :=
  if operation = 14 ∨ operation = 16 then 3 else if operation = 15 then 5 else 1

/-- A payload, as `_record` checks it. -/
def Payload.check (body : Payload) : Except String Unit := do
  integer 11 22 body.operation
  let fields := fieldsOf body.operation
  expect (body.serializedFields = fields) "invalid serialized Condemn fields"
  integer 0 (2 ^ 32 - 1) body.statusRaw
  integer 0 (2 ^ 32 - 1) body.scopeRaw
  integer 0 (2 ^ 32 - 1) body.reportedCountRaw
  integer 0 1 body.stateRaw
  integer 0 1 body.invertedRaw
  key none true body.building
  key none true body.entry
  key none true body.character
  key none true body.guild
  key none true body.nation
  expect ((fields ≠ 3 → body.scopeRaw = 0) ∧
    (fields = 1 → body.character = (0, 0) ∧ body.guild = (0, 0) ∧ body.nation = (0, 0)))
    "absent Condemn fields contain values"
  expect (body.rows.length ≤ 512) "Condemn response row bound exceeded"
  body.rows.forM Row.check

/-- Where a record says that its response was decoded, as `_record` checks it. -/
def Record.checkDecode (record : Record) : Except String Unit :=
  if record.stage = .decoded then
    expect (record.decodeSequence = record.sequence ∧ record.callerRva = 0x3625BC)
      "Condemn decode has an unverified source"
  else
    expect (record.decodeSequence < record.sequence) "Condemn response has invalid decode ordering"

/-- The body of a record, as `_record` checks it. -/
def Record.checkBody (record : Record) : Except String Unit :=
  match record.payload with
  | none => .error "invalid Condemn evidence payload"
  | some body => body.check

/-- `_record`. -/
def Record.check (record : Record) : Except String Unit := do
  integer 1 (2 ^ 64 - 1) record.sequence
  integer 1 (2 ^ 64 - 1) record.threadId
  integer 1 (2 ^ 64 - 1) record.sceneEpoch
  integer 1 (2 ^ 64 - 1) record.decodeSequence
  integer 0 (2 ^ 64 - 1) record.tickMs
  integer 0 (2 ^ 32 - 1) record.callerRva
  expect (record.flags = if record.stage = .decoded then 3 else 7)
    "Condemn response lacks payload, scene or decode lineage"
  record.checkDecode
  key (some 53) false record.localKey
  record.checkBody

def Lifetime.Matches (lifetime : Lifetime) (record : Record) : Prop :=
  record.sceneEpoch = lifetime.sceneEpoch ∧ record.localKey = lifetime.localKey

instance (lifetime : Lifetime) (record : Record) : Decidable (lifetime.Matches record) :=
  inferInstanceAs (Decidable (_ ∧ _))

/-! ## Responses -/

/-- Three records agree that they are the stages of one response. -/
structure Agree (lifetime : Lifetime) (first processing returned : Record) : Prop where
  matches_all : ∀ r ∈ [first, processing, returned], lifetime.Matches r
  sequences : first.sequence < processing.sequence ∧ processing.sequence < returned.sequence
  ticks : first.tickMs ≤ processing.tickMs ∧ processing.tickMs ≤ returned.tickMs
  decodes : ∀ r ∈ [first, processing, returned], r.decodeSequence = first.sequence
  payloads : ∀ r ∈ [first, processing, returned], r.payload = first.payload
  thread : processing.threadId = returned.threadId
  caller : processing.callerRva = returned.callerRva

variable {lifetime : Lifetime}

variable {first processing returned : Record}

theorem agree_iff :
    Agree lifetime first processing returned ↔
      (∀ r ∈ [first, processing, returned], lifetime.Matches r) ∧
      (first.sequence < processing.sequence ∧ processing.sequence < returned.sequence) ∧
      (first.tickMs ≤ processing.tickMs ∧ processing.tickMs ≤ returned.tickMs) ∧
      (∀ r ∈ [first, processing, returned], r.decodeSequence = first.sequence) ∧
      (∀ r ∈ [first, processing, returned], r.payload = first.payload) ∧
      processing.threadId = returned.threadId ∧ processing.callerRva = returned.callerRva :=
  ⟨fun h => ⟨h.1, h.2, h.3, h.4, h.5, h.6, h.7⟩,
    fun ⟨h₁, h₂, h₃, h₄, h₅, h₆, h₇⟩ => ⟨h₁, h₂, h₃, h₄, h₅, h₆, h₇⟩⟩

instance (lifetime : Lifetime) (first processing returned : Record) :
    Decidable (Agree lifetime first processing returned) :=
  decidable_of_iff _ agree_iff.symm

/-- A complete copied response; not an action acknowledgement. -/
structure Response where
  lifetime : Lifetime
  first : Record
  processing : Record
  returned : Record
  stages : first.stage = .decoded ∧ processing.stage = .processing ∧ returned.stage = .returned
  agree : Agree lifetime first processing returned

namespace Response

def records (response : Response) : List Record :=
  [response.first, response.processing, response.returned]

/-- `Response(lifetime, records)`. -/
def ofRecords (lifetime : Lifetime) (records : List Record) : Except String Response := do
  records.forM Record.check
  match records with
  | [first, processing, returned] =>
    if hstages : first.stage = .decoded ∧ processing.stage = .processing ∧
        returned.stage = .returned then
      if hagree : Agree lifetime first processing returned then
        return ⟨lifetime, first, processing, returned, hstages, hagree⟩
      else throw "Condemn stages disagree about response ownership"
    else throw "three ordered Condemn stages are required"
  | _ => throw "three ordered Condemn stages are required"

theorem ofRecords_of_agree (hchecks : ∀ r ∈ [first, processing, returned], r.check = .ok ())
    (hstages : first.stage = .decoded ∧ processing.stage = .processing ∧ returned.stage = .returned)
    (hagree : Agree lifetime first processing returned) :
    ofRecords lifetime [first, processing, returned] =
      .ok ⟨lifetime, first, processing, returned, hstages, hagree⟩ := by
  refine (bind_ok (forM_eq_ok.2 hchecks)).trans ?_
  exact (dif_pos hstages).trans (dif_pos hagree)

/-- `enabled_reply`. -/
def enabledReply (response : Response) (target : Target) : Bool :=
  response.first.payload.any fun body =>
    body.operation = 17 ∧ body.statusRaw = 0 ∧ body.building = target.building ∧
      body.entry = target.entry ∧ body.stateRaw = 1 ∧ body.invertedRaw = 0 ∧ body.rows = [] ∧
      body.reportedCountRaw = 0

end Response

/-! ## Windows -/

/-- `CAPACITY`. -/
def capacity : ℕ := 32

/-- What a drain of the reader returns. -/
structure Snapshot where
  processId : Int
  creation : Int
  sequence : Int
  rejected : Int
  ticketDrops : Int
  overwritten : Int
  missedRecords : Int
  readErrors : Int
  records : List Record
  stopped : Bool
  initialHistory : Bool

/-- The counters of a baseline. -/
structure Counters where
  sequence : Int
  rejected : Int
  ticketDrops : Int
  readErrors : Int
deriving DecidableEq

def Snapshot.counters (snapshot : Snapshot) : Counters where
  sequence := snapshot.sequence
  rejected := snapshot.rejected
  ticketDrops := snapshot.ticketDrops
  readErrors := snapshot.readErrors

/-- One fresh interval of observation; any loss of evidence ends it. -/
structure ResponseWindow (Digest : Type) where
  lifetime : Lifetime
  baseline : Counters
  sequence : Int
  failure : Option String := none
  pending : Dict Int (List Record) := .empty
  completed : Dict Digest Int := .empty
  lastTick : Int := 0

/-- `_validate_snapshot`. -/
def Lifetime.validateSnapshot (lifetime : Lifetime) (snapshot : Snapshot) :
    Except String Unit := do
  integer 1 (2 ^ 32 - 1) snapshot.processId
  integer 1 (2 ^ 64 - 1) snapshot.creation
  expect (snapshot.processId = lifetime.processId ∧ snapshot.creation = lifetime.creation)
    "Condemn response belongs to another process lifetime"
  integer 0 (2 ^ 63 - 1) snapshot.sequence
  integer 0 (2 ^ 63 - 1) snapshot.rejected
  integer 0 (2 ^ 63 - 1) snapshot.ticketDrops
  integer 0 (2 ^ 63 - 1) snapshot.overwritten
  integer 0 (2 ^ 63 - 1) snapshot.missedRecords
  integer 0 (2 ^ 63 - 1) snapshot.readErrors
  expect (snapshot.overwritten = max 0 (snapshot.sequence - capacity) ∧
    snapshot.records.length ≤ capacity) "invalid Condemn response window"

variable {snapshot : Snapshot}

/-- The counters of a snapshot that passes are small. -/
theorem Lifetime.counters_of_validateSnapshot (h : lifetime.validateSnapshot snapshot = .ok ()) :
    snapshot.rejected ≤ 2 ^ 63 - 1 ∧
      snapshot.ticketDrops ≤ 2 ^ 63 - 1 ∧ snapshot.readErrors ≤ 2 ^ 63 - 1 := by
  iterate 4 obtain ⟨-, h⟩ := check_bind_eq_ok.1 h
  obtain ⟨hrejected, h⟩ := check_bind_eq_ok.1 h
  obtain ⟨hdrops, h⟩ := check_bind_eq_ok.1 h
  obtain ⟨-, h⟩ := check_bind_eq_ok.1 h
  obtain ⟨-, h⟩ := check_bind_eq_ok.1 h
  obtain ⟨herrors, -⟩ := check_bind_eq_ok.1 h
  exact ⟨(of_expect hrejected).2, (of_expect hdrops).2, (of_expect herrors).2⟩

namespace ResponseWindow

variable {Digest : Type}

/-- The constructor. -/
def start (lifetime : Lifetime) (baseline : Snapshot) :
    Except String (ResponseWindow Digest) := do
  lifetime.validateSnapshot baseline
  expect (baseline.stopped = false) "Condemn response recorder is stopped"
  return { lifetime := lifetime, baseline := baseline.counters, sequence := baseline.sequence }

/-- The next stage of a response that is pending. -/
def advance (state : ResponseWindow Digest × List Response) (pending : List Record) (r : Record) :
    Except String (ResponseWindow Digest × List Response) := do
  let (w, completed) := state
  expect (pending.length = if r.stage = .processing then 1 else 2)
    "Condemn response lacks its preceding stages"
  if r.stage = .returned then
    let response ← Response.ofRecords w.lifetime (pending ++ [r])
    return ({ w with pending := w.pending.erase r.decodeSequence }, completed ++ [response])
  else return ({ w with pending := w.pending.set r.decodeSequence (pending ++ [r]) }, completed)

/-- A record of a response that was decoded after the baseline. -/
def stage (state : ResponseWindow Digest × List Response) (r : Record) :
    Except String (ResponseWindow Digest × List Response) :=
  let (w, completed) := state
  if r.stage = .decoded then do
    expect (w.pending.contains r.decodeSequence = false ∧ w.pending.items.length < 64)
      "Condemn response lineage capacity exceeded"
    return ({ w with pending := w.pending.set r.decodeSequence [r] }, completed)
  else
    match w.pending.get? r.decodeSequence with
    | none => throw "Condemn response lacks its preceding stages"
    | some pending => advance (w, completed) pending r

variable {w : ResponseWindow Digest} {completed : List Response}

theorem stage_of_decoded {r : Record} (hstage : r.stage = .decoded)
    (hnew : w.pending.contains r.decodeSequence = false) (hroom : w.pending.items.length < 64) :
    stage (w, completed) r =
      .ok ({ w with pending := w.pending.set r.decodeSequence [r] }, completed) := by
  rw [stage, if_pos hstage]
  exact bind_ok (expect_pos ⟨hnew, hroom⟩)

theorem stage_of_pending {pending : List Record} {r : Record} (hstage : r.stage ≠ .decoded)
    (hget : w.pending.get? r.decodeSequence = some pending) :
    stage (w, completed) r = advance (w, completed) pending r := by
  simp only [stage, if_neg hstage, hget]

theorem of_start {baseline : Snapshot} (h : start lifetime baseline = .ok w) :
    lifetime.validateSnapshot baseline = .ok () ∧
      w = { lifetime := lifetime, baseline := baseline.counters, sequence := baseline.sequence } := by
  obtain ⟨hvalid, h⟩ := check_bind_eq_ok.1 h
  obtain ⟨-, h⟩ := check_bind_eq_ok.1 h
  cases h
  exact ⟨hvalid, rfl⟩

/-- One record of a drain. -/
def absorb (state : ResponseWindow Digest × List Response) (r : Record) :
    Except String (ResponseWindow Digest × List Response) := do
  let (w, completed) := state
  r.check
  expect (w.lifetime.Matches r ∧ w.lastTick ≤ r.tickMs) "Condemn scene or clock changed"
  let w := { w with lastTick := r.tickMs }
  -- a response decoded before the baseline is explicitly old evidence
  if r.decodeSequence ≤ w.baseline.sequence then return (w, completed)
  else stage (w, completed) r

section Consume

variable [DecidableEq Digest] (digest : List Record → Digest)

/-- The 64 newest responses are remembered by their digests. -/
def remember (w : ResponseWindow Digest) (completed : List Response) : ResponseWindow Digest :=
  let remembered := completed.foldl
    (fun d response => d.set (digest response.records) response.returned.sequence) w.completed
  { w with completed := remembered.drop (remembered.items.length - 64) }

/-- The drain, unless something in it ends the interval. -/
def drain (w : ResponseWindow Digest) (snapshot : Snapshot) :
    Except String (ResponseWindow Digest × List Response) := do
  w.lifetime.validateSnapshot snapshot
  expect (snapshot.initialHistory = false ∧ snapshot.stopped = false ∧
    snapshot.missedRecords = 0 ∧ w.sequence ≤ snapshot.sequence ∧
    { snapshot.counters with sequence := w.baseline.sequence } = w.baseline)
    "Condemn response interval was interrupted or lost evidence"
  let records := snapshot.records
  expect (snapshot.sequence - w.sequence = records.length ∧
    records.map Record.sequence = (List.range records.length).map fun i : ℕ => w.sequence + i + 1)
    "Condemn response interval has a sequence gap or replay"
  let (w, completed) ← records.foldlM absorb (w, [])
  return (remember digest { w with sequence := snapshot.sequence } completed, completed)

/-- `consume`; of a window that has failed only the failure is read again. -/
def consume (w : ResponseWindow Digest) (snapshot : Snapshot) :
    Except String (List Response) × ResponseWindow Digest :=
  match w.failure with
  | some failure => (.error failure, w)
  | none =>
    match w.drain digest snapshot with
    | .ok (w, completed) => (.ok completed, w)
    | .error failure => (.error failure, { w with failure := some failure, pending := .empty })

theorem consume_of_drain {w w' : ResponseWindow Digest} (hfailure : w.failure = none)
    (h : w.drain digest snapshot = .ok (w', completed)) :
    w.consume digest snapshot = (.ok completed, w') := by
  rw [consume, hfailure]
  simp only [h]

/-- What `consume` returns for drain after drain. -/
def consumed (w : ResponseWindow Digest) : List Snapshot → List (Except String (List Response))
  | [] => []
  | snapshot :: rest =>
    (w.consume digest snapshot).1 :: consumed (w.consume digest snapshot).2 rest

/-- `contains`. -/
def contains (w : ResponseWindow Digest) (response : Response) : Bool :=
  w.failure = none ∧ response.lifetime = w.lifetime ∧
    w.completed.get? (digest response.records) = some response.returned.sequence

end Consume

end ResponseWindow

end ShadowbaneLab.CondemnEvidence
