/-
# Both sides read the same evidence

The native window of `condemn_evidence.h` and the client's of `condemn_evidence.py`: a batch of
records that the native one accepts is accepted by the other, with the same responses completed.
-/
import ShadowbaneLab.Client.CondemnEvidence
import ShadowbaneLab.Journal.Words
import ShadowbaneLab.Native.CondemnEvidence

namespace ShadowbaneLab.Native.Condemn

open Foundation
open CondemnEvidence (bind_ok expect_pos integer_ok)
open CondemnEvidence (ResponseWindow Response Lifetime)

/-! ## Records as the client reads them -/

/-- A key of a record as `condemn_responses.py` unpacks it. -/
def readKey (key : Key) : CondemnWire.Key := (unpacked32 key.1, unpacked32 key.2)

@[simp] theorem readKey_inj {a b : Key} : readKey a = readKey b ↔ a = b := by
  rw [readKey, readKey, Prod.mk.injEq, unpacked32_inj, unpacked32_inj, Prod.ext_iff]

theorem readKey_zero : readKey (0, 0) = (0, 0) := rfl

/-- A row of the body. -/
def Row.read (row : Row) : CondemnEvidence.Row where
  kind := unpacked32 row.kind
  entry := readKey row.entry
  character := readKey row.character
  guild := readKey row.guild
  nation := readKey row.nation
  flagsRaw := unpacked32 row.flags

/-- The body, with the rows that are counted. -/
def Payload.read (p : Payload) : CondemnEvidence.Payload where
  operation := unpacked32 p.operation
  statusRaw := unpacked32 p.status
  scopeRaw := unpacked32 p.scope
  serializedFields := unpacked32 p.fields
  building := readKey p.building
  entry := readKey p.entry
  character := readKey p.character
  guild := readKey p.guild
  nation := readKey p.nation
  stateRaw := unpacked32 p.state
  invertedRaw := unpacked32 p.inverted
  reportedCountRaw := unpacked32 p.reportedCount
  rows := (p.rows.toList.take p.rowCount.toNat).map Row.read

/-- The stage's name. -/
def readStage (stage : UInt32) : Option CondemnEvidence.Stage :=
  if stage = 1 then some .decoded
  else if stage = 2 then some .processing
  else if stage = 3 then some .returned
  else none

def Record.readAs (r : Record) (stage : CondemnEvidence.Stage) : CondemnEvidence.Record where
  sequence := unpacked64 r.sequence.toUInt64
  tickMs := unpacked64 r.tickMs
  threadId := unpacked32 r.threadId
  stage := stage
  decodeSequence := unpacked64 r.decodeSequence
  sceneEpoch := unpacked64 r.sceneEpoch
  localKey := readKey r.localKey
  flags := unpacked32 r.flags
  callerRva := unpacked32 r.callerRva
  payload := if r.flags &&& 1 ≠ 0 then some r.payload.read else none

/-- A record as the client's reader puts it in a drain. -/
def Record.read (r : Record) : Option CondemnEvidence.Record := (readStage r.stage).map r.readAs

def Proof.read (proof : Proof) : List CondemnEvidence.Record :=
  [proof.decoded.readAs .decoded, proof.processing.readAs .processing,
    proof.returned.readAs .returned]

def Pending.read : Pending → List CondemnEvidence.Record
  | .decoded first => [first.readAs .decoded]
  | .processing first second => [first.readAs .decoded, second.readAs .processing]

/-- A drain of the client's reader up to a cursor, with nothing missed and the recorder running;
`readErrors` counts the reads that failed before the baseline. -/
def Cursor.drain (cursor : Cursor) (records : List CondemnEvidence.Record) (readErrors : ℕ) :
    CondemnEvidence.Snapshot where
  processId := unpacked32 cursor.processId
  creation := unpacked64 cursor.creation
  sequence := unpacked64 cursor.sequence
  rejected := unpacked64 cursor.rejected
  ticketDrops := unpacked64 cursor.ticketDrops
  overwritten := max 0 (unpacked64 cursor.sequence - capacity)
  missedRecords := 0
  readErrors := readErrors
  records := records
  stopped := false
  initialHistory := false

/-- The drain that shows the records of a batch. -/
def Batch.read (batch : Batch) (readErrors : ℕ) : Option CondemnEvidence.Snapshot :=
  (batch.shown.mapM Record.read).map fun records => batch.after.drain records readErrors

/-! ## What both sides check -/

theorem unpacked32_integer (x : UInt32) : 0 ≤ unpacked32 x ∧ unpacked32 x ≤ 2 ^ 32 - 1 := by
  have hrange := unpacked32_range x
  omega

variable {key : Key}

theorem isKey_of_keyValid (h : keyValid key = true) :
    CondemnWire.IsKey none true (readKey key) := by
  rw [keyValid, decide_eq_true_iff] at h
  refine ⟨⟨unpacked32_integer key.1, unpacked32_integer key.2⟩, ?_⟩
  rcases h with ⟨hid, htype⟩ | hzero
  · exact .inr ⟨⟨mt unpacked32_eq_zero.1 hid, mt unpacked32_eq_zero.1 htype⟩, .inl rfl⟩
  · exact .inl ⟨rfl, by rw [hzero, readKey_zero]⟩

theorem key_keyValid (h : keyValid key = true) :
    CondemnEvidence.key none true (readKey key) = .ok () :=
  CondemnEvidence.key_of_isKey (isKey_of_keyValid h)

theorem Row.check_read {row : Row} (hflags : row.flags ≤ 0xffffff)
    (hentry : keyValid row.entry = true) (hcharacter : keyValid row.character = true)
    (hguild : keyValid row.guild = true) (hnation : keyValid row.nation = true) :
    row.read.check = .ok () := by
  have hsmall : unpacked32 row.flags ≤ 0xFFFFFF := (unpacked32_le (y := 0xffffff)).2 hflags
  refine (bind_ok (integer_ok (unpacked32_integer row.kind))).trans ?_
  refine (bind_ok (integer_ok ⟨(unpacked32_range row.flags).1, hsmall⟩)).trans ?_
  refine (bind_ok (key_keyValid hentry)).trans ?_
  refine (bind_ok (key_keyValid hcharacter)).trans ?_
  exact (bind_ok (key_keyValid hguild)).trans (key_keyValid hnation)

theorem fieldsOf_unpacked32 (operation : UInt32) :
    CondemnEvidence.fieldsOf (unpacked32 operation) = unpacked32
      (if operation = 14 ∨ operation = 16 then 3 else if operation = 15 then 5 else 1) := by
  have hcode (code : UInt32) : unpacked32 operation = unpacked32 code ↔ operation = code :=
    unpacked32_inj
  have h14 : unpacked32 operation = 14 ↔ operation = 14 := hcode 14
  have h15 : unpacked32 operation = 15 ↔ operation = 15 := hcode 15
  have h16 : unpacked32 operation = 16 ↔ operation = 16 := hcode 16
  simp only [CondemnEvidence.fieldsOf, h14, h15, h16]
  split
  · rfl
  · split <;> rfl

/-- A payload that the native side accepts passes the client's checks. -/
theorem Payload.check_read {p : Payload} (h : p.valid = true) : p.read.check = .ok () := by
  simp only [valid, decide_eq_true_iff] at h
  obtain ⟨⟨hlow, hhigh, hfields, hstate, hinverted, hrows, hbuilding, hentry, hcharacter, hguild,
    hnation⟩, hscope, hkeys, hrow⟩ := h
  have hoperation : 11 ≤ unpacked32 p.operation ∧ unpacked32 p.operation ≤ 22 :=
    ⟨(unpacked32_le (x := 11)).2 hlow, (unpacked32_le (y := 22)).2 hhigh⟩
  have hbit {x : UInt32} (hx : x ≤ 1) : 0 ≤ unpacked32 x ∧ unpacked32 x ≤ 1 :=
    ⟨(unpacked32_range x).1, (unpacked32_le (y := 1)).2 hx⟩
  refine (bind_ok (integer_ok hoperation)).trans ?_
  refine (bind_ok (expect_pos ?_)).trans ?_
  · exact (congrArg unpacked32 hfields).trans (fieldsOf_unpacked32 _).symm
  refine (bind_ok (integer_ok (unpacked32_integer p.status))).trans ?_
  refine (bind_ok (integer_ok (unpacked32_integer p.scope))).trans ?_
  refine (bind_ok (integer_ok (unpacked32_integer p.reportedCount))).trans ?_
  refine (bind_ok (integer_ok (hbit hstate))).trans ?_
  refine (bind_ok (integer_ok (hbit hinverted))).trans ?_
  refine (bind_ok (key_keyValid hbuilding)).trans ?_
  refine (bind_ok (key_keyValid hentry)).trans ?_
  refine (bind_ok (key_keyValid hcharacter)).trans ?_
  refine (bind_ok (key_keyValid hguild)).trans ?_
  refine (bind_ok (key_keyValid hnation)).trans ?_
  have hfieldsOf := fieldsOf_unpacked32 p.operation
  refine (bind_ok (expect_pos ?_)).trans ?_
  · refine ⟨fun hne => ?_, fun hone => ?_⟩
    · refine unpacked32_eq_zero.2 (hscope fun hthree => hne ?_)
      exact hfieldsOf.trans (congrArg unpacked32 hthree)
    · obtain ⟨hc, hg, hn⟩ := hkeys (unpacked32_inj.1 (hfieldsOf.symm.trans hone))
      exact ⟨by simp only [read, hc, readKey_zero], by simp only [read, hg, readKey_zero],
        by simp only [read, hn, readKey_zero]⟩
  refine (bind_ok (expect_pos ?_)).trans ?_
  · rw [read, List.length_map, List.length_take]
    exact (Nat.min_le_left _ _).trans (UInt32.le_iff_toNat_le.1 hrows)
  refine forM_eq_ok.2 fun row hmem => ?_
  obtain ⟨native, hnative, rfl⟩ := List.mem_map.1 hmem
  obtain ⟨i, hi, rfl⟩ := List.mem_iff_getElem.1 hnative
  rw [List.length_take, Vector.length_toList] at hi
  have hshown := hrow ⟨i, by omega⟩
  rw [if_neg (by simp only [not_le]; omega)] at hshown
  obtain ⟨hflags, hentry, hcharacter, hguild, hnation⟩ := hshown
  rw [List.getElem_take, Vector.getElem_toList]
  exact Row.check_read hflags hentry hcharacter hguild hnation

/-! ## Responses side by side -/

/-- A response of the client and a native proof are the same. -/
structure Same (response : Response) (proof : Proof) : Prop where
  records : response.records = proof.read
  enabledReply : ∀ (target : CondemnEvidence.Target) (building entry : Key),
    target.building = readKey building → target.entry = readKey entry →
    response.enabledReply target = proof.enabled building entry

theorem typed_of_isKey {type : UInt32}
    (h : CondemnWire.IsKey (some (unpacked32 type)) false (readKey key)) :
    typed key type = true := by
  rw [typed, decide_eq_true_iff]
  rcases h.2 with ⟨hempty, -⟩ | ⟨⟨hid, -⟩, hkind | hkind⟩
  · cases hempty
  · cases hkind
  · exact ⟨fun hzero => hid (unpacked32_eq_zero.2 hzero),
      (unpacked32_inj.1 (Option.some.inj hkind)).symm⟩

theorem Payload.read_rows_eq_nil {p : Payload} : p.read.rows = [] ↔ p.rowCount = 0 := by
  rw [Payload.read, List.map_eq_nil_iff, List.take_eq_nil_iff, ← UInt32.toNat_inj]
  have hne : p.rows.toList ≠ [] := List.ne_nil_of_length_eq_add_one (n := 511) (by simp)
  simp [hne]

theorem Same.of_records {response : Response} {proof : Proof}
    (hrecords : response.records = proof.read)
    (hbody : (proof.decoded.readAs .decoded).payload = some proof.decoded.payload.read) :
    Same response proof := by
  refine ⟨hrecords, fun target building entry hbuilding hentry => ?_⟩
  have hfirst : response.first = proof.decoded.readAs .decoded := (List.cons.inj hrecords).1
  have hbuildingTyped : typed building 8 = true := typed_of_isKey (hbuilding ▸ target.building_ok)
  have hentryTyped : typed entry 23 = true := typed_of_isKey (hentry ▸ target.entry_ok)
  rw [Response.enabledReply, hfirst, hbody, Option.any_some, hbuilding, hentry,
    Bool.eq_iff_iff, Proof.enabled, decide_eq_true_iff, decide_eq_true_iff,
    Payload.read_rows_eq_nil, hbuildingTyped, hentryTyped]
  have h17 : unpacked32 proof.decoded.payload.operation = 17 ↔
      proof.decoded.payload.operation = 17 := unpacked32_inj (y := 17)
  have h1 : unpacked32 proof.decoded.payload.state = 1 ↔ proof.decoded.payload.state = 1 :=
    unpacked32_inj (y := 1)
  simp [Payload.read, h17, h1]

variable {index : ℕ}

/-- The number of the next record, far from the end of the numbers. -/
theorem unpacked64_next {sequence : Int64} {current : UInt64}
    (hsmall : current.toNat + index + 1 < 2 ^ 64)
    (h : sequence = (current + index.toUInt64 + 1).toInt64) :
    unpacked64 sequence.toUInt64 = unpacked64 current + index + 1 := by
  have hindex : index.toUInt64.toNat = index :=
    UInt64.toNat_ofNat_of_lt' (show index < 2 ^ 64 by omega)
  have hsum : (current + index.toUInt64).toNat = current.toNat + index := by
    rw [UInt64.toNat_add, hindex, Nat.mod_eq_of_lt (by omega)]
  rw [h, UInt64.toUInt64_toInt64, unpacked64, unpacked64, UInt64.toNat_add, hsum]
  rw [show (1 : UInt64).toNat = 1 from rfl, Nat.mod_eq_of_lt (by omega)]
  push_cast
  ring

/-! ## Windows side by side -/

/-- The number of a stage. -/
def stageCode : CondemnEvidence.Stage → UInt32
  | .decoded => 1
  | .processing => 2
  | .returned => 3

theorem readStage_code (stage : CondemnEvidence.Stage) :
    readStage (stageCode stage) = some stage := by
  cases stage <;> rfl

theorem stageCode_injective {a b : CondemnEvidence.Stage} (h : stageCode a = stageCode b) :
    a = b := by
  have hread := readStage_code a
  rwa [h, readStage_code, Option.some.injEq, eq_comm] at hread

theorem exists_stageCode {stage : UInt32} (hlow : 1 ≤ stage) (hhigh : stage ≤ 3) :
    ∃ named, stage = stageCode named := by
  have hlow' := UInt32.le_iff_toNat_le.1 hlow
  have hhigh' := UInt32.le_iff_toNat_le.1 hhigh
  have hcases : stage.toNat = 1 ∨ stage.toNat = 2 ∨ stage.toNat = 3 := by
    change 1 ≤ stage.toNat at hlow'
    change stage.toNat ≤ 3 at hhigh'
    omega
  rcases hcases with h | h | h
  · exact ⟨.decoded, UInt32.toNat_inj.1 h⟩
  · exact ⟨.processing, UInt32.toNat_inj.1 h⟩
  · exact ⟨.returned, UInt32.toNat_inj.1 h⟩

/-- The keys of the pending responses as the client has them. -/
def unpackedKey : UInt64 ↪ Int := ⟨unpacked64, fun _ _ h => unpacked64_inj.1 h⟩

/-- What is known of a record that was accepted: the client accepts it too, and it is no later
than the last one. -/
structure Accepted (lifetime : Lifetime) (last tick : Int)
    (stage : CondemnEvidence.Stage) (r : Record) : Prop where
  check : (r.readAs stage).check = .ok ()
  owned : lifetime.Matches (r.readAs stage)
  body : (r.readAs stage).payload = some r.payload.read
  sequence : unpacked64 r.sequence.toUInt64 ≤ last
  tickMs : unpacked64 r.tickMs ≤ tick

variable {lifetime : Lifetime}

variable {r : Record}

variable {last tick last' tick' : Int}

theorem Accepted.later {stage : CondemnEvidence.Stage} (h : Accepted lifetime last tick stage r)
    (hlast : last ≤ last') (htick : tick ≤ tick') : Accepted lifetime last' tick' stage r :=
  ⟨h.check, h.owned, h.body, h.sequence.trans hlast, h.tickMs.trans htick⟩

/-- What is known of the stages so far of the response with a key. -/
def Pending.Accepted (lifetime : Lifetime) (last tick : Int) (k : UInt64) :
    Pending → Prop
  | .decoded first => Condemn.Accepted lifetime last tick .decoded first ∧
      first.decodeSequence = k ∧ first.sequence.toUInt64 = k
  | .processing first second =>
      (Condemn.Accepted lifetime last tick .decoded first ∧
        first.decodeSequence = k ∧ first.sequence.toUInt64 = k) ∧
      Condemn.Accepted lifetime last tick .processing second ∧ second.decodeSequence = k ∧
      second.payload = first.payload ∧ k < second.sequence.toUInt64 ∧ first.tickMs ≤ second.tickMs

variable {k : UInt64}

theorem Pending.Accepted.later {pending : Pending}
    (h : Pending.Accepted lifetime last tick k pending) (hlast : last ≤ last')
    (htick : tick ≤ tick') : Pending.Accepted lifetime last' tick' k pending := by
  cases pending with
  | decoded first => exact ⟨h.1.later hlast htick, h.2⟩
  | processing first second =>
    exact ⟨⟨h.1.1.later hlast htick, h.1.2⟩, h.2.1.later hlast htick, h.2.2⟩

variable {Digest : Type}

/-- The counters of a cursor, with the read errors of the client's reader. -/
def Cursor.read (cursor : Cursor) (readErrors : ℕ) : CondemnEvidence.Counters where
  sequence := unpacked64 cursor.sequence
  rejected := unpacked64 cursor.rejected
  ticketDrops := unpacked64 cursor.ticketDrops
  readErrors := readErrors

/-- Counters that a drain may show. -/
def Counted (counters : CondemnEvidence.Counters) : Prop :=
  counters.rejected ≤ 2 ^ 63 - 1 ∧ counters.ticketDrops ≤ 2 ^ 63 - 1 ∧
    counters.readErrors ≤ 2 ^ 63 - 1

/-- The two windows observe the same interval and have drained the same batches. -/
def Aligned (readErrors : ℕ) (w : Window) (p : ResponseWindow Digest) : Prop :=
  p.failure = none ∧ p.lifetime.processId = unpacked32 w.baseline.processId ∧
    p.lifetime.creation = unpacked64 w.baseline.creation ∧
    p.baseline = w.baseline.read readErrors ∧ Counted p.baseline ∧
    p.sequence = unpacked64 w.current.sequence

/-- The two windows agree after the records up to `last`. -/
structure Mirrors (readErrors : ℕ) (w : Window) (p : ResponseWindow Digest)
    (last : Int) : Prop where
  aligned : Aligned readErrors w p
  sceneEpoch : p.lifetime.sceneEpoch = unpacked64 w.scene
  localKey : p.lifetime.localKey = readKey w.localKey
  lastTick : p.lastTick = unpacked64 w.tick
  pending : p.pending = w.pending.transport unpackedKey Pending.read
  accepted : ∀ k pending, w.pending.get? k = some pending →
    pending.Accepted p.lifetime last p.lastTick k

namespace Mirrors

variable {readErrors : ℕ} {w : Window} {p : ResponseWindow Digest} {last : Int}

section

variable (h : Mirrors readErrors w p last)
include h

/-- A record that the native window accepts passes the client's checks. -/
theorem accepted_of_recordValid (hvalid : w.recordValid r = true) :
    ∃ stage, r.stage = stageCode stage ∧ p.lastTick ≤ unpacked64 r.tickMs ∧
      Accepted p.lifetime (unpacked64 r.sequence.toUInt64) (unpacked64 r.tickMs) stage r := by
  simp only [Window.recordValid, decide_eq_true_iff] at hvalid
  obtain ⟨⟨hsequence, hthread, hscene, hlocal, hdecode, hlow, hhigh, hpayload, htick⟩, hstage⟩ :=
    hvalid
  obtain ⟨stage, hcode⟩ := exists_stageCode hlow hhigh
  have hepoch : unpacked64 r.sceneEpoch = p.lifetime.sceneEpoch := by rw [hscene, h.sceneEpoch]
  have hkey : readKey r.localKey = p.lifetime.localKey := by rw [hlocal, h.localKey]
  have hordered : unpacked64 r.decodeSequence ≤ unpacked64 r.sequence.toUInt64 := by
    split at hstage
    · exact unpacked64_le.2 (UInt64.le_of_eq hstage.2.1)
    · exact unpacked64_le.2 (UInt64.le_of_lt hstage.2)
  have hpositive : unpacked64 r.decodeSequence ≠ 0 := mt unpacked64_eq_zero.1 hdecode
  have hthread' : unpacked32 r.threadId ≠ 0 := mt unpacked32_eq_zero.1 hthread
  have hrange := unpacked64_range r.decodeSequence
  have hrange' := unpacked64_range r.sequence.toUInt64
  have hrange'' := unpacked32_range r.threadId
  have htick' := unpacked64_range r.tickMs
  have hbit : r.flags &&& 1 ≠ 0 := by
    split at hstage <;> rw [hstage.1] <;> decide
  have hbody : (r.readAs stage).payload = some r.payload.read := if_pos hbit
  refine ⟨stage, hcode, h.lastTick.trans_le (unpacked64_le.2 htick), ?_, ⟨hepoch, hkey⟩, hbody,
    le_rfl, le_rfl⟩
  refine (bind_ok (integer_ok ⟨?_, ?_⟩)).trans ?_
  · change 1 ≤ unpacked64 r.sequence.toUInt64; omega
  · change unpacked64 r.sequence.toUInt64 ≤ 2 ^ 64 - 1; omega
  refine (bind_ok (integer_ok ⟨?_, ?_⟩)).trans ?_
  · change 1 ≤ unpacked32 r.threadId; omega
  · change unpacked32 r.threadId ≤ 2 ^ 64 - 1; omega
  refine (bind_ok (integer_ok ?_)).trans ?_
  · change 1 ≤ unpacked64 r.sceneEpoch ∧ unpacked64 r.sceneEpoch ≤ 2 ^ 64 - 1
    rw [hepoch]
    exact p.lifetime.sceneEpoch_ok
  refine (bind_ok (integer_ok ⟨?_, ?_⟩)).trans ?_
  · change 1 ≤ unpacked64 r.decodeSequence; omega
  · change unpacked64 r.decodeSequence ≤ 2 ^ 64 - 1; omega
  refine (bind_ok (integer_ok ⟨htick'.1, ?_⟩)).trans ?_
  · omega
  refine (bind_ok (integer_ok (unpacked32_integer r.callerRva))).trans ?_
  have hkeyOk : CondemnEvidence.key (some 53) false (readKey r.localKey) = .ok () := by
    rw [hkey]
    exact CondemnEvidence.key_of_isKey p.lifetime.localKey_ok
  have hcheckBody : (r.readAs stage).checkBody = .ok () := by
    rw [CondemnEvidence.Record.checkBody, hbody]
    exact Payload.check_read hpayload
  by_cases hdecoded : stage = .decoded
  · subst hdecoded
    rw [hcode, if_pos (show stageCode .decoded = 1 from rfl)] at hstage
    obtain ⟨hflags, hsame, hcaller⟩ := hstage
    refine (bind_ok (expect_pos (congrArg unpacked32 hflags))).trans ?_
    refine (bind_ok (expect_pos ⟨congrArg unpacked64 hsame, congrArg unpacked32 hcaller⟩)).trans ?_
    exact (bind_ok hkeyOk).trans hcheckBody
  · have hother : stageCode stage ≠ 1 := by
      cases stage with
      | decoded => exact absurd rfl hdecoded
      | processing => decide
      | returned => decide
    rw [hcode, if_neg hother] at hstage
    obtain ⟨hflags, hbefore⟩ := hstage
    refine (bind_ok (expect_pos ?_)).trans ?_
    · exact (congrArg unpacked32 hflags).trans (if_neg hdecoded).symm
    refine (bind_ok (a := ()) ?_).trans ((bind_ok hkeyOk).trans hcheckBody)
    refine (if_neg hdecoded).trans (expect_pos ?_)
    exact Int.lt_of_not_ge fun hge => absurd (unpacked64_le.1 hge) (UInt64.not_le.2 hbefore)

theorem moved {last' : Int} (hlast : last ≤ last') {tick : UInt64}
    (htick : p.lastTick ≤ unpacked64 tick) :
    Mirrors readErrors { w with tick := tick } { p with lastTick := unpacked64 tick } last' :=
  ⟨h.aligned, h.sceneEpoch, h.localKey, rfl, h.pending,
    fun k pending hget => (h.accepted k pending hget).later hlast htick⟩

theorem set (pending : Pending) (hpending : pending.Accepted p.lifetime last p.lastTick k) :
    Mirrors readErrors { w with pending := w.pending.set k pending }
      { p with pending := p.pending.set (unpacked64 k) pending.read } last := by
  refine ⟨h.aligned, h.sceneEpoch, h.localKey, h.lastTick, ?_, Dict.forall_set h.accepted hpending⟩
  rw [h.pending]
  exact (Dict.transport_set unpackedKey Pending.read w.pending k pending).symm

theorem erase (k : UInt64) : Mirrors readErrors { w with pending := w.pending.erase k }
      { p with pending := p.pending.erase (unpacked64 k) } last := by
  refine ⟨h.aligned, h.sceneEpoch, h.localKey, h.lastTick, ?_, Dict.forall_erase h.accepted⟩
  rw [h.pending]
  exact (Dict.transport_erase unpackedKey Pending.read w.pending k).symm

theorem get? (k : UInt64) :
    p.pending.get? (unpacked64 k) = (w.pending.get? k).map Pending.read := by
  rw [h.pending]
  exact Dict.get?_transport unpackedKey Pending.read w.pending k

end

/-- The state of both windows within a batch, with what each has completed. -/
def Both (readErrors : ℕ) (state : Window × List Proof)
    (mirror : ResponseWindow Digest × List Response)
    (last : Int) : Prop :=
  Mirrors readErrors state.1 mirror.1 last ∧ List.Forall₂ Same mirror.2 state.2

variable {first second r : Record}

/-- The last stage of a response completes it for the client. -/
theorem ofRecords_accepted {tick : Int}
    (hpending : (Pending.processing first second).Accepted lifetime last tick k)
    (hr : Accepted lifetime (last + 1) (unpacked64 r.tickMs) .returned r)
    (hdecode : r.decodeSequence = k) (hlast : unpacked64 r.sequence.toUInt64 = last + 1)
    (htick : tick ≤ unpacked64 r.tickMs) (hpayload : first.payload = r.payload)
    (hthread : r.threadId = second.threadId) (hcaller : r.callerRva = second.callerRva) :
    ∃ response : Response, Response.ofRecords lifetime
        ((Pending.processing first second).read ++ [r.readAs .returned]) = .ok response ∧
      Same response ⟨first, second, r⟩ := by
  obtain ⟨⟨hfirst, hfirstDecode, hfirstSequence⟩, hsecond, hsecondDecode, hsecondPayload, hafter,
    hticks⟩ := hpending
  have hafter' : unpacked64 first.sequence.toUInt64 < unpacked64 second.sequence.toUInt64 := by
    rw [hfirstSequence]
    exact Int.lt_of_not_ge fun hge => absurd (unpacked64_le.1 hge) (UInt64.not_le.2 hafter)
  have hbefore := hsecond.sequence
  have hagree : CondemnEvidence.Agree lifetime (first.readAs .decoded)
      (second.readAs .processing) (r.readAs .returned) := by
    refine ⟨?_, ⟨hafter', ?_⟩, ⟨unpacked64_le.2 hticks, hsecond.tickMs.trans htick⟩, ?_, ?_,
      congrArg unpacked32 hthread.symm, congrArg unpacked32 hcaller.symm⟩
    · simpa using ⟨hfirst.owned, hsecond.owned, hr.owned⟩
    · change unpacked64 second.sequence.toUInt64 < unpacked64 r.sequence.toUInt64
      omega
    · simp [Record.readAs, hfirstDecode, hfirstSequence, hsecondDecode, hdecode]
    · simp [hfirst.body, hsecond.body, hr.body, hsecondPayload, hpayload]
  refine ⟨⟨lifetime, _, _, _, ⟨rfl, rfl, rfl⟩, hagree⟩, ?_, .of_records rfl hfirst.body⟩
  refine Response.ofRecords_of_agree ?_ ⟨rfl, rfl, rfl⟩ hagree
  simpa using ⟨hfirst.check, hsecond.check, hr.check⟩

/-- A new response begins. -/
theorem stage_first (h : Mirrors readErrors w p last)
    (hr : Accepted p.lifetime last p.lastTick .decoded r)
    (hdecode : r.sequence.toUInt64 = r.decodeSequence) (hlength : w.pending.items.length < 64)
    (hnew : w.pending.contains r.decodeSequence = false) (responses : List Response) :
    ∃ p', ResponseWindow.stage (p, responses) (r.readAs .decoded) = .ok (p', responses) ∧
      Mirrors readErrors { w with pending := w.pending.set r.decodeSequence (.decoded r) } p' last := by
  refine ⟨_, ?_, h.set (.decoded r) ⟨hr, rfl, hdecode⟩⟩
  have hcontains : p.pending.contains (unpacked64 r.decodeSequence) = false := by
    rw [h.pending, ← hnew]
    exact Dict.contains_transport unpackedKey Pending.read w.pending r.decodeSequence
  have hroom : p.pending.items.length < 64 := by
    rwa [h.pending, Dict.length_transport]
  exact ResponseWindow.stage_of_decoded rfl hcontains hroom

/-- A response that was decoded is processed. -/
theorem stage_next (h : Mirrors readErrors w p last) {first r : Record}
    (hget : w.pending.get? r.decodeSequence = some (.decoded first))
    (hr : Accepted p.lifetime last p.lastTick .processing r)
    (hpayload : first.payload = r.payload) (hafter : r.decodeSequence < r.sequence.toUInt64)
    (htick : p.lastTick = unpacked64 r.tickMs) (responses : List Response) :
    ∃ p', ResponseWindow.stage (p, responses) (r.readAs .processing) = .ok (p', responses) ∧
      Mirrors readErrors { w with pending := w.pending.set r.decodeSequence (.processing first r) } p'
        last := by
  have hfirst : Pending.Accepted p.lifetime last p.lastTick r.decodeSequence (.decoded first) :=
    h.accepted _ _ hget
  have hticks : first.tickMs ≤ r.tickMs := unpacked64_le.1 (hfirst.1.tickMs.trans_eq htick)
  refine ⟨_, ?_, h.set (.processing first r)
    ⟨hfirst, hr, rfl, hpayload.symm, hafter, hticks⟩⟩
  have hpending : p.pending.get? (unpacked64 r.decodeSequence) =
      some [first.readAs .decoded] := by
    rw [h.get?, hget]
    rfl
  exact ResponseWindow.stage_of_pending (r := r.readAs .processing)
    (show CondemnEvidence.Stage.processing ≠ .decoded by decide) hpending

/-- A response that was processed returns. -/
theorem stage_last (h : Mirrors readErrors w p (last + 1))
    (hget : w.pending.get? r.decodeSequence = some (.processing first second))
    (hkept : (Pending.processing first second).Accepted p.lifetime last p.lastTick r.decodeSequence)
    (hr : Accepted p.lifetime (last + 1) p.lastTick .returned r)
    (hlast : unpacked64 r.sequence.toUInt64 = last + 1) (htick : p.lastTick = unpacked64 r.tickMs)
    (hpayload : first.payload = r.payload) (hthread : r.threadId = second.threadId)
    (hcaller : r.callerRva = second.callerRva) (responses : List Response) :
    ∃ p' response, ResponseWindow.stage (p, responses) (r.readAs .returned) =
        .ok (p', responses ++ [response]) ∧ Same response ⟨first, second, r⟩ ∧
      Mirrors readErrors { w with pending := w.pending.erase r.decodeSequence } p' (last + 1) := by
  rw [htick] at hr
  obtain ⟨response, hof, hsame⟩ :=
    ofRecords_accepted hkept hr rfl hlast htick.le hpayload hthread hcaller
  refine ⟨_, response, ?_, hsame, h.erase r.decodeSequence⟩
  have hpending : p.pending.get? (unpacked64 r.decodeSequence) =
      some (Pending.processing first second).read := by
    rw [h.get?, hget]
    rfl
  refine (ResponseWindow.stage_of_pending (r := r.readAs .returned)
    (show CondemnEvidence.Stage.returned ≠ .decoded by decide) hpending).trans ?_
  exact (bind_ok (expect_pos rfl)).trans (bind_ok hof)

variable {state state' : Window × List Proof} {mirror : ResponseWindow Digest × List Response}

/-- One record that the native window absorbs is absorbed by the client's. -/
theorem absorb_both (h : Both readErrors state mirror last)
    (habsorb : Window.absorb state (r, index) = some state')
    (hlast : unpacked64 r.sequence.toUInt64 = last + 1) :
    ∃ record mirror', r.read = some record ∧ record.sequence = last + 1 ∧
      ResponseWindow.absorb mirror record = .ok mirror' ∧
      Both readErrors state' mirror' (last + 1) := by
  obtain ⟨w, completed⟩ := state
  obtain ⟨p, responses⟩ := mirror
  obtain ⟨hmirrors, hcompleted⟩ := h
  simp only [Window.absorb] at habsorb
  obtain ⟨hvalid, habsorb⟩ := Option.ite_none_left_eq_some.1 habsorb
  rw [not_or, not_not, not_not] at hvalid
  obtain ⟨stage, hcode, htick, haccepted⟩ := hmirrors.accepted_of_recordValid hvalid.2
  rw [hlast] at haccepted
  have hread : r.read = some (r.readAs stage) := by
    rw [Record.read, hcode, readStage_code, Option.map_some]
  have hmoved := hmirrors.moved (by omega : last ≤ last + 1) htick
  have hbaseline : (r.readAs stage).decodeSequence ≤ p.baseline.sequence ↔
      r.decodeSequence ≤ w.baseline.sequence := by
    rw [hmirrors.aligned.2.2.2.1]
    exact unpacked64_le
  refine ⟨r.readAs stage, ?_⟩
  suffices hstep : ∃ mirror', (if (r.readAs stage).decodeSequence ≤ p.baseline.sequence then
      Except.ok ({ p with lastTick := unpacked64 r.tickMs }, responses)
      else ResponseWindow.stage
        ({ p with lastTick := unpacked64 r.tickMs }, responses) (r.readAs stage)) =
        .ok mirror' ∧ Both readErrors state' mirror' (last + 1) by
    obtain ⟨mirror', hmirror, hboth⟩ := hstep
    refine ⟨mirror', hread, hlast, ?_, hboth⟩
    exact (bind_ok haccepted.check).trans
      ((bind_ok (expect_pos ⟨haccepted.owned, htick⟩)).trans hmirror)
  split at habsorb
  case isTrue hold =>
    cases habsorb
    exact ⟨_, if_pos (hbaseline.2 hold), hmoved, hcompleted⟩
  case isFalse hnew =>
    rw [if_neg (mt hbaseline.1 hnew)]
    have hvalid := hvalid.2
    simp only [Window.recordValid, decide_eq_true_iff] at hvalid
    split at habsorb
    case isTrue hstage =>
      obtain ⟨hroom, habsorb⟩ := Option.ite_none_left_eq_some.1 habsorb
      cases habsorb
      rw [not_or, not_le] at hroom
      obtain rfl : stage = .decoded := stageCode_injective (hcode.symm.trans hstage)
      rw [if_pos hstage] at hvalid
      obtain ⟨p', hstep, hboth⟩ := hmoved.stage_first haccepted hvalid.2.2.1.symm hroom.1
        (Bool.eq_false_of_not_eq_true hroom.2) responses
      exact ⟨_, hstep, hboth, hcompleted⟩
    case isFalse hstage =>
      rw [if_neg hstage] at hvalid
      split at habsorb
      case h_1 => cases habsorb
      case h_2 pending hget =>
        have hkept := (hmirrors.accepted _ _ hget).later le_rfl htick
        split at habsorb
        case h_1 => cases habsorb
        case h_2 pending' hadvance =>
          cases habsorb
          obtain ⟨first, rfl, rfl, hsecond, hpayload⟩ := Window.advance_eq_inl hadvance
          obtain rfl : stage = .processing := stageCode_injective (hcode.symm.trans hsecond)
          obtain ⟨p', hstep, hboth⟩ :=
            hmoved.stage_next hget haccepted hpayload hvalid.2.2 rfl responses
          exact ⟨_, hstep, hboth, hcompleted⟩
        case h_3 proof hadvance =>
          cases habsorb
          obtain ⟨first, second, rfl, rfl, hthird, hpayload, hthread, hcaller⟩ :=
            Window.advance_eq_inr hadvance
          obtain rfl : stage = .returned := stageCode_injective (hcode.symm.trans hthird)
          obtain ⟨p', response, hstep, hsame, hboth⟩ :=
            hmoved.stage_last hget hkept haccepted hlast rfl hpayload hthread hcaller responses
          exact ⟨_, hstep, hboth, List.rel_append hcompleted (.cons hsame .nil)⟩

/-- All records of a batch. -/
theorem foldlM_both {records : List Record}
    (hsmall : state.1.current.sequence.toNat + index + records.length < 2 ^ 63)
    (h : Both readErrors state mirror (unpacked64 state.1.current.sequence + index))
    (hfold : (records.zipIdx index).foldlM Window.absorb state = some state') :
    ∃ read mirror', records.mapM Record.read = some read ∧
      read.map CondemnEvidence.Record.sequence = (List.range' index records.length).map
        (fun i => unpacked64 state.1.current.sequence + (i : ℕ) + 1) ∧
      read.foldlM ResponseWindow.absorb mirror = .ok mirror' ∧ Both readErrors state' mirror'
        (unpacked64 state.1.current.sequence + (index + records.length : ℕ)) ∧
      state'.1.current = state.1.current := by
  induction records generalizing index state mirror with
  | nil =>
    cases hfold
    exact ⟨[], mirror, rfl, rfl, rfl, h, rfl⟩
  | cons r records ih =>
    rw [List.zipIdx_cons, List.foldlM_cons, Option.bind_eq_bind, Option.bind_eq_some_iff] at hfold
    obtain ⟨between, hfirst, hfold⟩ := hfold
    obtain ⟨hsequence, hcurrent⟩ := Window.absorb_next hfirst
    rw [List.length_cons] at hsmall
    have hlast : unpacked64 r.sequence.toUInt64 =
        unpacked64 state.1.current.sequence + index + 1 :=
      unpacked64_next (by omega) hsequence
    obtain ⟨record, mirror₁, hread, hrecord, habsorb, hboth⟩ := absorb_both h hfirst hlast
    have hnext : Both readErrors between mirror₁
        (unpacked64 between.1.current.sequence + (index + 1 : ℕ)) := by
      rw [hcurrent]
      exact hboth
    obtain ⟨read, mirror', hreads, hsequences, hrest, hboth', hcurrent'⟩ :=
      ih (by rw [hcurrent]; omega) hnext hfold
    refine ⟨record :: read, mirror', ?_, ?_, ?_, ?_, hcurrent'.trans hcurrent⟩
    · rw [List.mapM_cons, hread]
      exact congrArg (Option.bind · _) hreads
    · rw [List.map_cons, List.length_cons, List.range'_succ, List.map_cons, hrecord, hsequences,
        hcurrent]
    · rw [List.foldlM_cons]
      exact (bind_ok habsorb).trans hrest
    · rw [hcurrent] at hboth'
      rwa [List.length_cons, show index + (records.length + 1) = index + 1 + records.length by omega]

/-- A drain up to an accepted cursor passes the client's checks. -/
theorem validateSnapshot_drain (h : Mirrors readErrors w p last) {cursor : Cursor}
    {records : List CondemnEvidence.Record} (hrecords : records.length ≤ 32)
    (hprocess : cursor.processId = w.baseline.processId)
    (hcreation : cursor.creation = w.baseline.creation)
    (hrejected : cursor.rejected = w.baseline.rejected)
    (hdrops : cursor.ticketDrops = w.baseline.ticketDrops) (hsmall : cursor.sequence ≤ int64Max) :
    p.lifetime.validateSnapshot (cursor.drain records readErrors) = .ok () := by
  obtain ⟨-, hp, hc, hbaseline, ⟨hrejected', hdrops', herrors⟩, -⟩ := h.aligned
  have hp' : (cursor.drain records readErrors).processId = p.lifetime.processId := by
    rw [hp, ← hprocess]
    rfl
  have hc' : (cursor.drain records readErrors).creation = p.lifetime.creation := by
    rw [hc, ← hcreation]
    rfl
  rw [hbaseline] at hrejected' hdrops' herrors
  have hsequence : unpacked64 cursor.sequence ≤ 2 ^ 63 - 1 :=
    (unpacked64_le (y := int64Max)).2 hsmall
  have hrange := unpacked64_range cursor.sequence
  have hbound (x : UInt64) : 0 ≤ unpacked64 x := (unpacked64_range x).1
  refine (bind_ok (integer_ok (hp' ▸ p.lifetime.processId_ok))).trans ?_
  refine (bind_ok (integer_ok (hc' ▸ p.lifetime.creation_ok))).trans ?_
  refine (bind_ok (expect_pos ⟨hp', hc'⟩)).trans ?_
  refine (bind_ok (integer_ok ⟨hbound cursor.sequence, hsequence⟩)).trans ?_
  refine (bind_ok (integer_ok ⟨hbound cursor.rejected, hrejected ▸ hrejected'⟩)).trans ?_
  refine (bind_ok (integer_ok ⟨hbound cursor.ticketDrops, hdrops ▸ hdrops'⟩)).trans ?_
  refine (bind_ok (integer_ok ⟨le_max_left _ _, max_le (by omega) ?_⟩)).trans ?_
  · simp only [capacity]
    omega
  refine (bind_ok (integer_ok ⟨le_rfl, by decide⟩)).trans ?_
  refine (bind_ok (integer_ok ⟨Int.natCast_nonneg _, herrors⟩)).trans ?_
  exact expect_pos ⟨rfl, hrecords⟩

/-- The responses completed by a drain are remembered; nothing else changes. -/
theorem drained (h : Mirrors readErrors w p last) {current : Cursor}
    (hlast : last = unpacked64 current.sequence) [DecidableEq Digest]
    (digest : List CondemnEvidence.Record → Digest) (completed : List Response) :
    Mirrors readErrors { w with current := current }
      (ResponseWindow.remember digest
        { p with sequence := unpacked64 current.sequence } completed)
      (unpacked64 current.sequence) := by
  obtain ⟨hfailure, hprocess, hcreation, hbaseline, hcounted, -⟩ := h.aligned
  subst hlast
  exact ⟨⟨hfailure, hprocess, hcreation, hbaseline, hcounted, rfl⟩, h.sceneEpoch, h.localKey,
    h.lastTick, h.pending, h.accepted⟩

/-- A batch that the native window accepts is accepted by the client's. -/
theorem consume (h : Mirrors readErrors w p (unpacked64 w.current.sequence)) [DecidableEq Digest]
    (digest : List CondemnEvidence.Record → Digest) {batch : Batch} {memory : Bool} {w' : Window}
    {proofs : List Proof} (hconsume : w.consume batch memory = some (w', proofs)) :
    ∃ snapshot responses p', batch.read readErrors = some snapshot ∧
      p.consume digest snapshot = (.ok responses, p') ∧ List.Forall₂ Same responses proofs ∧
      Mirrors readErrors w' p' (unpacked64 w'.current.sequence) := by
  unfold Window.consume at hconsume
  dsimp only at hconsume
  obtain ⟨-, hconsume⟩ := Option.ite_none_left_eq_some.1 hconsume
  obtain ⟨hchecks, hconsume⟩ := Option.ite_none_left_eq_some.1 hconsume
  obtain ⟨-, hconsume⟩ := Option.ite_none_left_eq_some.1 hconsume
  obtain ⟨⟨last, completed⟩, hfold, hconsume⟩ := Option.map_eq_some_iff.1 hconsume
  cases hconsume
  simp only [not_or, not_not, not_lt, UInt64.not_lt] at hchecks
  obtain ⟨hprocess, hcreation, hrejected, hdrops, hforward, hsmall, hcapacity, hcount⟩ := hchecks
  have hlength : batch.shown.length = batch.count.toNat := by
    rw [Batch.shown, List.length_take, Vector.length_toList]
    exact Nat.min_eq_left hcapacity
  have hend : batch.after.sequence.toNat = w.current.sequence.toNat + batch.shown.length := by
    have htoNat := congrArg UInt64.toNat hcount
    rw [UInt64.toNat_sub_of_le _ _ hforward] at htoNat
    have hle : w.current.sequence.toNat ≤ batch.after.sequence.toNat := hforward
    have hcast : batch.count.toUInt64.toNat = batch.count.toNat := rfl
    omega
  have hsmall' : batch.after.sequence.toNat ≤ 2 ^ 63 - 1 := hsmall
  have hstart : Both readErrors (w, []) (p, [])
      (unpacked64 w.current.sequence + (0 : ℕ)) := by
    refine ⟨?_, .nil⟩
    rw [Nat.cast_zero, add_zero]
    exact h
  obtain ⟨read, ⟨p₁, responses⟩, hread, hsequences, habsorbed, ⟨hmirrors, hresponses⟩, hcurrent⟩ :=
    foldlM_both (by change w.current.sequence.toNat + 0 + batch.shown.length < 2 ^ 63; omega) hstart
      hfold
  have hcount' : read.length = batch.shown.length := by
    have := congrArg List.length hsequences
    simpa using this
  have hafter : unpacked64 w.current.sequence + (0 + batch.shown.length : ℕ) =
      unpacked64 batch.after.sequence := by
    rw [unpacked64, unpacked64, hend]
    push_cast
    ring
  have hvalidated : p.lifetime.validateSnapshot (batch.after.drain read readErrors) = .ok () :=
    h.validateSnapshot_drain (by rw [hcount', hlength]; exact hcapacity) hprocess hcreation
      hrejected hdrops hsmall
  refine ⟨batch.after.drain read readErrors, responses, _, ?_, ?_, hresponses,
    hmirrors.drained hafter digest responses⟩
  · rw [Batch.read, hread, Option.map_some]
  obtain ⟨hfailure, -, -, hbaseline, -, hsequence⟩ := h.aligned
  refine ResponseWindow.consume_of_drain digest hfailure ?_
  refine (bind_ok hvalidated).trans ((bind_ok (expect_pos ?_)).trans
    ((bind_ok (expect_pos ?_)).trans (bind_ok habsorbed)))
  · refine ⟨rfl, rfl, rfl, ?_, ?_⟩
    · rw [hsequence]
      exact unpacked64_le.2 hforward
    · rw [hbaseline, Cursor.read, ← hrejected, ← hdrops]
      rfl
  · refine ⟨?_, ?_⟩
    · change unpacked64 batch.after.sequence - p.sequence = (read.length : Int)
      rw [hsequence, ← hafter, hcount']
      push_cast
      ring
    · change read.map CondemnEvidence.Record.sequence = _
      rw [hsequences, hsequence, List.range_eq_range', ← hcount']
      rfl

theorem start {baseline : Cursor} {scene : UInt64} {localKey : Key}
    {snapshot : CondemnEvidence.Snapshot}
    (hprocess : lifetime.processId = unpacked32 baseline.processId)
    (hcreation : lifetime.creation = unpacked64 baseline.creation)
    (hscene : lifetime.sceneEpoch = unpacked64 scene)
    (hlocal : lifetime.localKey = readKey localKey)
    (hsnapshot : snapshot.counters = baseline.read readErrors)
    (h : ResponseWindow.start lifetime snapshot = .ok p) :
    Mirrors readErrors (.start baseline scene localKey) p (unpacked64 baseline.sequence) := by
  obtain ⟨hvalid, rfl⟩ := ResponseWindow.of_start h
  have hcounted := Lifetime.counters_of_validateSnapshot hvalid
  have hsequence : snapshot.sequence = unpacked64 baseline.sequence :=
    congrArg CondemnEvidence.Counters.sequence hsnapshot
  exact ⟨⟨rfl, hprocess, hcreation, hsnapshot, hcounted, hsequence⟩, hscene, hlocal, rfl, rfl,
    fun k pending hget => by cases hget⟩

/-- Batch after batch. -/
theorem consumed (h : Mirrors readErrors w p (unpacked64 w.current.sequence)) [DecidableEq Digest]
    (digest : List CondemnEvidence.Record → Digest) {batches : List (Batch × Bool)}
    {proofs : List (List Proof)} (hconsumed : w.consumed batches = some proofs) :
    ∃ snapshots responses, batches.mapM (fun b => b.1.read readErrors) = some snapshots ∧
      p.consumed digest snapshots = responses.map .ok ∧
      List.Forall₂ (List.Forall₂ Same) responses proofs := by
  induction batches generalizing w p proofs with
  | nil =>
    cases hconsumed
    exact ⟨[], [], rfl, rfl, .nil⟩
  | cons b batches ih =>
    obtain ⟨batch, memory⟩ := b
    rw [Window.consumed, Option.bind_eq_bind, Option.bind_eq_some_iff] at hconsumed
    obtain ⟨⟨w', completed⟩, hconsume, hconsumed⟩ := hconsumed
    rw [Option.bind_eq_bind, Option.bind_eq_some_iff] at hconsumed
    obtain ⟨later, hlater, hproofs⟩ := hconsumed
    cases hproofs
    obtain ⟨snapshot, responses, p', hread, hresponses, hsame, hnext⟩ := h.consume digest hconsume
    obtain ⟨snapshots, rest, hreads, hrest, hsameRest⟩ := ih hnext hlater
    refine ⟨snapshot :: snapshots, responses :: rest, ?_, ?_, .cons hsame hsameRest⟩
    · rw [List.mapM_cons, hread]
      exact congrArg (Option.bind · _) hreads
    · rw [ResponseWindow.consumed, hresponses, List.map_cons, hrest]

end Mirrors

/-! ## Evidence agrees -/

/-- Batches that the native window of a baseline accepts are accepted by the client's window of
the same baseline and lifetime, and complete the same responses in the same order. -/
theorem client_completes_proofs {Digest : Type} [DecidableEq Digest]
    (digest : List CondemnEvidence.Record → Digest) (lifetime : CondemnEvidence.Lifetime)
    (baseline : Cursor) (scene : UInt64) (localKey : Key) (readErrors : ℕ)
    (snapshot : CondemnEvidence.Snapshot) (p : CondemnEvidence.ResponseWindow Digest)
    (batches : List (Batch × Bool)) (proofs : List (List Proof))
    (hprocess : lifetime.processId = unpacked32 baseline.processId)
    (hcreation : lifetime.creation = unpacked64 baseline.creation)
    (hscene : lifetime.sceneEpoch = unpacked64 scene)
    (hlocal : lifetime.localKey = readKey localKey)
    (hsnapshot : snapshot.counters = baseline.read readErrors)
    (hstart : CondemnEvidence.ResponseWindow.start lifetime snapshot = .ok p)
    (hconsumed : (Window.start baseline scene localKey).consumed batches = some proofs) :
    ∃ snapshots responses, batches.mapM (fun b => b.1.read readErrors) = some snapshots ∧
      p.consumed digest snapshots = responses.map .ok ∧
      List.Forall₂ (List.Forall₂ Same) responses proofs :=
  (Mirrors.start hprocess hcreation hscene hlocal hsnapshot hstart).consumed digest hconsumed

/-! ## An enabled entry -/

/-- A reply that enables entry 200 of building 100. -/
def enabledPayload : Payload where
  operation := 17
  fields := 1
  building := (100, 8)
  entry := (200, 23)
  state := 1

theorem valid_enabledPayload : enabledPayload.valid = true := by
  have hrows (i : Fin 512) : enabledPayload.rows[i] = {} := by
    simp [enabledPayload]
  simp only [Payload.valid, hrows, decide_eq_true_iff]
  exact ⟨by decide, by decide, by decide, fun i => by simp [enabledPayload]⟩

section Stages

variable (payload : Payload)

def stageRecord (sequence : Int64) (stage flags callerRva : UInt32) : Record where
  sequence := sequence
  tickMs := 7
  threadId := 3
  stage := stage
  decodeSequence := 6
  sceneEpoch := 2
  localKey := (1, 53)
  flags := flags
  callerRva := callerRva
  payload := payload

def stages : Proof :=
  ⟨stageRecord payload 6 1 3 0x3625bc, stageRecord payload 7 2 7 9, stageRecord payload 8 3 7 9⟩

def stagesBatch : Batch where
  after := { processId := 1, creation := 1, sequence := 8 }
  count := 3
  records := ⟨#[(stages payload).decoded, (stages payload).processing, (stages payload).returned] ++
    Array.replicate 29 {}, by simp⟩

theorem shown_stagesBatch : (stagesBatch payload).shown =
    [(stages payload).decoded, (stages payload).processing, (stages payload).returned] := by
  simp [Batch.shown, stagesBatch]

def base : Cursor := { processId := 1, creation := 1, sequence := 5 }

def baseWindow : Window := .start base 2 (1, 53)

variable {payload}

theorem absorb_stagesBatch (hvalid : payload.valid = true) :
    ((stagesBatch payload).shown.zipIdx.foldlM Window.absorb (baseWindow, [])).map Prod.snd =
      some [stages payload] := by
  have h6 : (6 : Int64).toUInt64 = 6 := by decide
  have h7 : ¬ (7 : Int64).toUInt64 ≤ 6 := by decide
  have h8 : ¬ (8 : Int64).toUInt64 ≤ 6 := by decide
  have hempty : (Dict.empty : Dict UInt64 Pending).items = [] := rfl
  rw [shown_stagesBatch]
  simp [Window.absorb, Window.recordValid, Window.advance, baseWindow, Window.start, base, stages,
    stageRecord, hvalid, Dict.contains, h6, h7, h8, hempty]

theorem consumed_stagesBatch (hvalid : payload.valid = true) :
    baseWindow.consumed [(stagesBatch payload, true)] = some [[stages payload]] := by
  obtain ⟨⟨w, proofs⟩, hfold, hproofs⟩ := Option.map_eq_some_iff.1 (absorb_stagesBatch hvalid)
  obtain rfl : proofs = [stages payload] := hproofs
  have hconsume : baseWindow.consume (stagesBatch payload) true =
      some ({ w with current := (stagesBatch payload).after }, [stages payload]) := by
    rw [Window.consume, if_neg (by decide), if_neg (by simp only [stagesBatch]; decide),
      if_neg (by decide), hfold]
    rfl
  rw [Window.consumed, hconsume]
  rfl

end Stages

theorem creation_one : (1 : Int) ≤ 1 ∧ (1 : Int) ≤ 2 ^ 64 - 1 := by decide

/-- The client's window of the same scene. -/
def baseLifetime : Lifetime where
  processId := 1
  creation := 1
  sceneEpoch := 2
  localKey := (1, 53)
  processId_ok := by decide
  creation_ok := creation_one
  sceneEpoch_ok := by decide
  localKey_ok := by decide

theorem client_completes_enabledProof : ∃ snapshots responses,
    [(stagesBatch enabledPayload, true)].mapM (fun b => b.1.read 0) = some snapshots ∧
    (CondemnEvidence.ResponseWindow.consumed List.length
      { lifetime := baseLifetime, baseline := base.read 0, sequence := 5 } snapshots) =
      responses.map .ok ∧
    List.Forall₂ (List.Forall₂ Same) responses [[stages enabledPayload]] :=
  client_completes_proofs List.length baseLifetime base 2 (1, 53) 0 (base.drain [] 0) _ _ _
    rfl rfl rfl rfl rfl (by rfl) (consumed_stagesBatch valid_enabledPayload)

end ShadowbaneLab.Native.Condemn
