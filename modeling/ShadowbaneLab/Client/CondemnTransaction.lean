/-
# Composite Condemn transactions

`src/shadowbane_lab/client_extension/condemn_transaction.py`: the durable record of one attempt, the
checks that every saved record passes, and what a native receipt makes of it.  The texts of the
codecs' own errors are left out in `CondemnWire`; `coded` stands for them.
-/
import ShadowbaneLab.Client.CondemnEvidence

namespace ShadowbaneLab.CondemnTransaction

open Foundation
open CondemnEvidence (Lifetime Response ResponseWindow Counters Record expect integer)
open CondemnWire (Command Receipt Phase Verb)
open MovementWire (requestBytes)
open VendorWire (Outcome)

/-! ## Saved observations -/

/-- `MAX_POLLS`. -/
def maxPolls : ℕ := 512

/-- `MAX_CANCELLED_POLLS`. -/
def maxCancelledPolls : ℕ := 3

/-- What a codec reads or writes. -/
def coded {α : Type} (value : Option α) : Except String α :=
  match value with
  | none => .error "invalid Condemn payload"
  | some value => .ok value

/-- A receipt of the native side, when it was observed and the response that came with it. -/
structure Observation where
  receipt : Receipt
  tick : Int
  response : Option Response := none
  encoded : receipt.encode.isSome
  tick_ok : 1 ≤ tick ∧ tick ≤ 2 ^ 64 - 1
  action_le : receipt.actionTick ≤ tick

/-- `_saved`: the bytes of a receipt as text, and its tick. -/
structure Saved where
  receipt : String
  tick : Int
deriving DecidableEq

/-- `_bytes`. -/
def savedBytes (value : String) (size : ℕ) : Except String Bytes := do
  expect (value.toList.length = size * 2) "invalid saved Condemn payload size"
  let raw ← coded (ofHexText value.toList)
  expect (hexText raw = value.toList) "noncanonical saved Condemn payload"
  return raw

/-- `Observation(receipt, tick)`. -/
def Observation.make (receipt : Receipt) (tick : Int) : Except String Observation :=
  if hencoded : receipt.encode.isSome then
    if htick : 1 ≤ tick ∧ tick ≤ 2 ^ 64 - 1 then
      if haction : receipt.actionTick ≤ tick then .ok ⟨receipt, tick, none, hencoded, htick, haction⟩
      else .error "native action is newer than its observation"
    else .error "invalid Condemn evidence integer"
  else .error "invalid Condemn payload"

/-- `_receipt`. -/
def Saved.read (saved : Saved) : Except String Observation := do
  let raw ← savedBytes saved.receipt 384
  let receipt ← coded (Receipt.decode raw)
  Observation.make receipt saved.tick

/-- `_saved`. -/
def Observation.saved (o : Observation) : Saved where
  receipt := String.ofList (hexText (o.receipt.encode.get o.encoded))
  tick := o.tick

/-! ## Attempts -/

inductive State
  | intent
  | submitted
  | uncertain
  | stateVerified
  | alreadyEnabled
  | notSubmitted
deriving DecidableEq

/-- `TERMINAL`. -/
def State.terminal (state : State) : Bool :=
  state = .stateVerified ∨ state = .alreadyEnabled ∨ state = .notSubmitted

/-- `NO_START`. -/
def noStart (outcome : Outcome) : Bool :=
  outcome = .stale ∨ outcome = .unavailable ∨ outcome = .invalid ∨ outcome = .exhausted

/-- `NEXT`. -/
def next : Phase → List Phase
  | .idle => [.idle, .opening, .adding, .enabling, .existing]
  | .opening => [.opening, .adding, .enabling, .existing]
  | .adding => [.adding, .enabling]
  | .enabling => [.enabling, .verified]
  | .verified => [.verified]
  | .existing => [.existing]
  | .uncertain => []

/-- The response that completes an attempt, and its digest. -/
structure Completion (Digest : Type) where
  response : List Record
  sha256 : Digest

/-- The record of a native attempt. -/
structure Attempt (Digest : Type) where
  request : String
  owner : String
  lifetime : Lifetime
  baseline : Counters
  command : String
  state : State
  polls : List String
  pending : Option String
  last : Option Saved
  boundaries : List Saved
  completion : Option (Completion Digest)
  cancelledPolls : Option (List Saved) := none

/-- `request_key`. -/
def requestKey (value : String) : Except String Unit :=
  expect ((requestBytes value).isSome) "a canonical nonzero Condemn request is required"

/-- `_empty_queue_expiry`. -/
def emptyQueueExpiry (r : Receipt) : Bool :=
  r.outcome = .stale ∧ r.flags = 0 ∧ r.snapshot.empty ∧ r.target = none ∧
    r.transitionTarget = none ∧ r.transitionRequest = none ∧ r.phase = .idle ∧
    r.actionTick = 0 ∧ r.responseFloor = 0 ∧ r.completionSequence = 0

/-- `_owner`. -/
def checkOwner (original : Command) (r : Receipt) (life : Lifetime) : Except String Unit := do
  let s := r.snapshot
  let before := original.expected
  expect (r.host = original.host ∧ r.window = original.window ∧ r.target = some original.target ∧
    r.transitionTarget = some original.target ∧ r.transitionRequest = some original.requestKey)
    "Condemn transition owner changed"
  expect (s.empty ∨ s.scene = life.sceneEpoch ∧ s.localKey = life.localKey ∧
    (s.root, s.manager, s.buildingHud, s.building) =
      (before.root, before.manager, before.buildingHud, before.building))
    "Condemn scene or building owner changed"

/-- `_enabled`. -/
def enabled (original : Command) (r : Receipt) : Bool :=
  let s := r.snapshot
  ¬ s.empty ∧ s.ownedList original.target ∧ s.enabled = 1 ∧ s.entry ≠ 0 ∧ s.entryKey.1 ≠ 0

/-- `_progress`. -/
def checkProgress (previous current : Receipt) : Except String Unit :=
  if current.phase = .uncertain then .ok ()
  else do
    expect (current.phase ∈ next previous.phase) "Condemn phase regressed or skipped its enable"
    if current.phase = previous.phase then
      expect ((current.actionTick, current.responseFloor) =
        (previous.actionTick, previous.responseFloor))
        "Condemn repeated an action within one phase"
    else
      expect (¬ (current.actionTick < previous.actionTick ∨
        current.responseFloor < previous.responseFloor))
        "Condemn action clock or response floor regressed"
    expect (¬ current.completionSequence < previous.completionSequence)
      "Condemn completion evidence regressed"

namespace Attempt

variable {Digest : Type} (a : Attempt Digest)

/-- `_original`. -/
def original : Except String Command := do
  let raw ← savedBytes a.command 576
  coded (Command.decode raw .ensure)

/-- One cancelled poll: the keys read so far and the place of the last of them. -/
def cancelPoll (original : Command) (passed : List String × Int) (saved : Saved) :
    Except String (List String × Int) := do
  let r := (← saved.read).receipt
  expect (emptyQueueExpiry r ∧ r.requestKey ∈ a.polls ∧ r.host = original.host ∧
    r.window = original.window) "unproven cancelled Condemn poll"
  let index : Int := a.polls.idxOf r.requestKey
  expect (¬ index ≤ passed.2) "cancelled Condemn poll order changed"
  return (passed.1 ++ [r.requestKey], index)

/-- `_cancelled_polls`. -/
def cancelledKeys (original : Command) : Except String (List String) := do
  let cancelled := a.cancelledPolls.getD []
  expect (cancelled.length ≤ maxCancelledPolls ∧ ¬ (a.cancelledPolls.isSome ∧ cancelled = []))
    "invalid cancelled Condemn poll history"
  let (keys, _) ← cancelled.foldlM (a.cancelPoll original) ([], -1)
  return keys

/-- One poll: the keys seen so far. -/
def seePoll (seen : List String) (poll : String) : Except String (List String) := do
  requestKey poll
  expect (poll ∉ seen) "repeated Condemn continuation"
  return poll :: seen

/-- The polls that count and the request whose receipt is the last one, once the pending dispatch
is checked. -/
def checkPending (original : Command) (cancelled : List String) :
    Except String (List String × Option String) := do
  let effective := a.polls.filter fun poll => poll ∉ cancelled
  match a.pending with
  | none => return (effective, some (effective.getLast?.getD original.requestKey))
  | some raw =>
    let data ← savedBytes raw 576
    let pending ← coded (Command.decode data (if a.polls ≠ [] then .inspect else .ensure))
    expect (¬ (pending.requestKey ≠ a.polls.getLast?.getD original.requestKey ∨
      pending.requestKey ∈ cancelled ∨ maxCancelledPolls ≤ cancelled.length ∨
      pending.host ≠ original.host ∨ pending.window ≠ original.window ∨
      pending.target ≠ original.target ∨
      (a.polls ≠ [] ∧ pending.transitionRequest ≠ some original.requestKey) ∨
      (a.polls = [] ∧ pending ≠ original) ∨ a.state.terminal))
      "pending Condemn dispatch does not match its intent"
    let effective := effective.dropLast
    return (effective, effective.getLast?.orElse fun _ =>
      if a.polls ≠ [] then some original.requestKey else none)

/-- How far the boundaries of an attempt are read. -/
structure Passed where
  previous : Option Receipt := none
  index : Int := -1
  tick : Int := 0
  enable : Option Receipt := none

/-- One boundary. -/
def passBoundary (original : Command) (order : List String) (passed : Passed) (saved : Saved) :
    Except String Passed := do
  let b ← saved.read
  checkOwner original b.receipt a.lifetime
  expect (b.receipt.requestKey ∈ order) "Condemn boundary has no dispatch intent"
  let index : Int := order.idxOf b.receipt.requestKey
  expect (¬ (index ≤ passed.index ∨ b.tick < passed.tick)) "Condemn boundary order changed"
  expect (¬ (b.receipt.actionTick ≠ 0 ∧ b.receipt.responseFloor < a.baseline.sequence))
    "Condemn boundary precedes its response interval"
  match passed.previous with
  | none => pure ()
  | some previous =>
    checkProgress previous b.receipt
    expect (previous.phase ≠ b.receipt.phase) "duplicate Condemn phase boundary"
  let s := b.receipt.snapshot
  if b.receipt.phase = .enabling then
    expect (s.ownedList original.target ∧ s.entry ≠ 0 ∧ s.enabled = 0)
      "enable boundary lacks its scoped row"
  return ⟨some b.receipt, index, b.tick,
    if b.receipt.phase = .enabling then some b.receipt else passed.enable⟩

/-- The clocks of cancelled polls fit between those of the owner's observations. -/
def checkCancelledClocks (original : Command) (last : Saved) : Except String Unit := do
  let order := original.requestKey :: a.polls
  let observed ← (a.boundaries ++ [last] ++ a.cancelledPolls.getD []).mapM Saved.read
  let timed := sortBy (fun o : Observation => order.idxOf o.receipt.requestKey) observed
  expect ((timed.map Observation.tick).Pairwise (· ≤ ·)) "cancelled Condemn poll clock regressed"

/-- The response and the later row that verify the state. -/
def checkVerified (digest : List Record → Digest) [DecidableEq Digest] (original : Command)
    (o : Observation) (enable : Option Receipt) : Except String Unit := do
  let r := o.receipt
  match enable with
  | none => .error "Condemn lacks enable completion"
  | some enable =>
    expect (a.state = .stateVerified ∧ a.pending = none) "Condemn lacks enable completion"
    match a.completion with
    | none => .error "invalid Condemn completion proof"
    | some proof =>
      let response ← Response.ofRecords a.lifetime proof.response
      if hentry : CondemnWire.IsKey (some 23) false enable.snapshot.entryKey then
        let target : CondemnEvidence.Target := {
          building := original.target.building
          scope := if original.target.scope = 4 then .guild else .nation
          identity := original.target.identity
          entry := enable.snapshot.entryKey
          building_ok := original.target.building_key
          identity_ok := original.target.identity_key
          entry_ok := hentry }
        expect (¬ (r.phase ≠ .verified ∨ ¬ enabled original r ∨
          (r.actionTick, r.responseFloor) ≠ (enable.actionTick, enable.responseFloor) ∨
          r.snapshot.entryKey ≠ target.entry ∨ digest response.records ≠ proof.sha256 ∨
          ¬ response.enabledReply target ∨ response.first.sequence ≤ enable.responseFloor ∨
          response.first.tickMs < enable.actionTick ∨ response.returned.tickMs > o.tick ∨
          r.completionSequence ≠ response.returned.sequence))
          "Condemn response and later scoped row do not qualify"
      else .error "invalid Condemn evidence key type"

/-- An attempt that was submitted, as its last receipt shows it. -/
def checkSubmitted (digest : List Record → Digest) [DecidableEq Digest] (original : Command)
    (cancelled effective : List String) (last : Saved) (o : Observation) : Except String Unit := do
  let r := o.receipt
  checkOwner original r a.lifetime
  expect (1 ≤ a.boundaries.length ∧ a.boundaries.length ≤ 7) "invalid Condemn action boundaries"
  let passed ← a.boundaries.foldlM (a.passBoundary original (original.requestKey :: effective)) {}
  if cancelled ≠ [] then a.checkCancelledClocks original last
  match passed.previous with
  | none => pure ()
  | some previous => checkProgress previous r
  expect (¬ o.tick < passed.tick) "Condemn observation clock regressed"
  if a.state = .uncertain then
    expect (r.phase = .uncertain ∧ hasFlag r.flags VendorWire.unresolved ∧ a.completion.isNone)
      "uncertain Condemn result changed"
  else do
    expect (¬ hasFlag r.flags VendorWire.unresolved ∧
      (r.outcome = .observed ∨ r.outcome = .submitted ∨ r.outcome = .pending))
      "invalid active Condemn result"
    if a.state = .alreadyEnabled then
      let phases := (← a.boundaries.mapM Saved.read).map fun b => b.receipt.phase
      expect (¬ (a.pending.isSome ∨ r.phase ≠ .existing ∨ ¬ enabled original r ∨
        Phase.adding ∈ phases ∨ Phase.enabling ∈ phases ∨ a.completion.isSome))
        "existing enabled state is not qualified"
    else if a.state = .submitted then
      expect (a.completion.isNone ∧ r.phase ≠ .existing)
        "unfinished Condemn has contradictory completion"
    else a.checkVerified digest original o passed.enable

/-- The intent of an attempt and the keys of its cancelled polls. -/
def checkIntent : Except String (Command × List String) := do
  requestKey a.owner
  let original ← a.original
  requestKey a.request
  expect (original.requestKey = a.request ∧ original.expected.scene = a.lifetime.sceneEpoch ∧
    original.expected.localKey = a.lifetime.localKey) "Condemn intent lifetime mismatch"
  [a.baseline.sequence, a.baseline.rejected, a.baseline.ticketDrops, a.baseline.readErrors].forM
    (integer 0 (2 ^ 63 - 1))
  expect (a.polls.length ≤ maxPolls) "Condemn continuation history exceeds its bound"
  let _ ← a.polls.foldlM seePoll [original.requestKey]
  let cancelled ← a.cancelledKeys original
  return (original, cancelled)

/-- The last receipt of an attempt, read again. -/
def checkLast (digest : List Record → Digest) [DecidableEq Digest] (original : Command)
    (cancelled effective : List String) (lastRequest : Option String) : Except String Unit :=
  match a.last with
  | none =>
    expect (a.state = .intent ∧ lastRequest = none ∧ a.boundaries = [] ∧ a.completion.isNone)
      "Condemn intent lacks submission evidence"
  | some last => do
    let o ← last.read
    let r := o.receipt
    expect (some r.requestKey = lastRequest ∧ r.host = original.host ∧ r.window = original.window)
      "saved Condemn receipt correlation mismatch"
    if a.state = .notSubmitted then
      expect (a.polls = [] ∧ noStart r.outcome ∧ a.pending.isNone ∧ a.boundaries = [] ∧
        a.completion.isNone) "unproven no-action result"
    else a.checkSubmitted digest original cancelled effective last o

/-- `validate_attempt`. -/
def validate (digest : List Record → Digest) [DecidableEq Digest] : Except String Unit := do
  let (original, cancelled) ← a.checkIntent
  let (effective, lastRequest) ← a.checkPending original cancelled
  a.checkLast digest original cancelled effective lastRequest

/-- A receipt makes progress on the last one. -/
def checkContinues (r : Receipt) : Except String Unit :=
  match a.last with
  | none => .ok ()
  | some last => do
    let previous ← last.read
    checkProgress previous.receipt r

/-- The boundaries, with the observation if it is of a new phase. -/
def withBoundary (o : Observation) : Except String (List Saved) :=
  match a.boundaries.getLast? with
  | none => .ok (a.boundaries ++ [o.saved])
  | some boundary => do
    let b ← boundary.read
    return if b.receipt.phase ≠ o.receipt.phase then a.boundaries ++ [o.saved] else a.boundaries

/-- What the phase of its last receipt makes of a submitted attempt. -/
def concluded (digest : List Record → Digest) [DecidableEq Digest] (o : Observation)
    (window : ResponseWindow Digest) : Except String (Attempt Digest) :=
  if o.receipt.phase = .uncertain then .ok { a with state := .uncertain }
  else if o.receipt.phase = .existing then .ok { a with state := .alreadyEnabled }
  else if o.receipt.phase = .verified then
    match o.response with
    | none => .ok a
    | some response => do
      expect (window.contains digest response) "Completion did not come from the original drain."
      return { a with
        state := .stateVerified
        completion := some ⟨response.records, digest response.records⟩ }
  else .ok a

/-- What a receipt that continues the action makes of an attempt. -/
def continued (digest : List Record → Digest) [DecidableEq Digest] (original : Command)
    (o : Observation) (window : ResponseWindow Digest) : Except String (Attempt Digest) := do
  checkOwner original o.receipt window.lifetime
  a.checkContinues o.receipt
  let boundaries ← a.withBoundary o
  let a' : Attempt Digest := { a with
    boundaries := boundaries
    last := some o.saved
    pending := none
    state := .submitted }
  a'.concluded digest o window

/-- What a refusal makes of an attempt. -/
def refused (o : Observation) : Attempt Digest :=
  { a with state := .notSubmitted, last := some o.saved, pending := none }

/-- `_apply`. -/
def apply (digest : List Record → Digest) [DecidableEq Digest] (o : Observation)
    (window : ResponseWindow Digest) : Except String (Attempt Digest) := do
  expect (window.failure = none ∧ window.lifetime = a.lifetime)
    "Condemn lost its original response interval."
  let original ← a.original
  let r := o.receipt
  expect (r.requestKey = a.polls.getLast?.getD original.requestKey ∧ r.host = original.host ∧
    r.window = original.window) "Native Condemn receipt does not match its dispatch."
  let a' ←
    if a.polls ≠ [] ∧ emptyQueueExpiry r then do
      expect (a.state = .submitted ∧ a.last.isSome) "Queue expiry lacks its original active action."
      pure { a with
        cancelledPolls := some (a.cancelledPolls.getD [] ++ [o.saved])
        pending := none }
    else if a.polls = [] ∧ noStart r.outcome then pure (a.refused o)
    else a.continued digest original o window
  a'.validate digest
  return a'

/-- The intent that stays active once a receipt is applied. -/
def active : Option String := if a.state.terminal then none else some a.request

/-- The attempt that `submit` records before it dispatches a command with these bytes. -/
def start (owner : String) (command : Command) (raw : Bytes) (window : ResponseWindow Digest) :
    Attempt Digest where
  request := command.requestKey
  owner := owner
  lifetime := window.lifetime
  baseline := { window.baseline with sequence := window.sequence }
  command := String.ofList (hexText raw)
  state := .intent
  polls := []
  pending := some (String.ofList (hexText raw))
  last := none
  boundaries := []
  completion := none

/-! ## First receipts -/

/-- A recorded attempt whose dispatch is not answered yet. -/
def Awaits (digest : List Record → Digest) [DecidableEq Digest] : Prop :=
  a.validate digest = .ok () ∧ a.last = none

/-- An observation within the interval of an attempt that answers its request. -/
def Answers (o : Observation) (window : ResponseWindow Digest) : Prop :=
  window.failure = none ∧ window.lifetime = a.lifetime ∧
    ∃ original, a.original = .ok original ∧ o.receipt.requestKey = a.request ∧
      o.receipt.host = original.host ∧ o.receipt.window = original.window

/-- The receipt reports the attempt's own transition, in flight or unresolved. -/
def Unfinished (r : Receipt) : Prop :=
  r.transitionRequest = some a.request ∧
    hasFlag r.flags (VendorWire.inFlight + VendorWire.unresolved) = true

/-- The attempt is closed as one without an action, which frees the place of the active intent. -/
def Released (digest : List Record → Digest) [DecidableEq Digest] (o : Observation)
    (window : ResponseWindow Digest) : Prop :=
  ∃ a', a.apply digest o window = .ok a' ∧ a'.state = .notSubmitted ∧ a'.active = none

section

variable {a}

theorem expect_eq_ok {condition : Prop} [Decidable condition] {text : String} :
    expect condition text = .ok () ↔ condition :=
  ⟨CondemnEvidence.of_expect, CondemnEvidence.expect_pos⟩

/-- Bytes written as text are read again. -/
theorem savedBytes_hexText {data : Bytes} {size : ℕ} (hlength : data.length = size) :
    savedBytes (String.ofList (hexText data)) size = .ok data := by
  rw [savedBytes, String.toList_ofList, check_bind_eq_ok, expect_eq_ok, length_hexText, hlength,
    ofHexText_hexText]
  simp [coded, expect, Nat.mul_comm]

/-- What is saved of an observation is read again. -/
theorem read_saved (o : Observation) : o.saved.read = .ok { o with response := none } := by
  obtain ⟨receipt, tick, response, hencoded, htick, haction⟩ := o
  obtain ⟨data, hdata⟩ := Option.isSome_iff_exists.1 hencoded
  have hget : receipt.encode.get hencoded = data := by simp only [hdata, Option.get_some]
  rw [Saved.read, Observation.saved]
  dsimp only
  rw [hget, savedBytes_hexText (Receipt.length_encode hdata), ok_bind, Receipt.decode_iff.2 hdata]
  show Observation.make receipt tick = _
  rw [Observation.make, dif_pos hencoded, dif_pos htick, dif_pos haction]

variable {original : Command}

theorem original_of_checkIntent {cancelled : List String}
    (h : a.checkIntent = .ok (original, cancelled)) :
    a.original = .ok original ∧ original.requestKey = a.request := by
  rw [checkIntent, check_bind_eq_ok] at h
  obtain ⟨-, h⟩ := h
  obtain ⟨command, hcommand, h⟩ := bind_eq_ok.1 h
  obtain ⟨-, h⟩ := check_bind_eq_ok.1 h
  obtain ⟨hmatch, h⟩ := check_bind_eq_ok.1 h
  obtain ⟨-, h⟩ := check_bind_eq_ok.1 h
  obtain ⟨-, h⟩ := check_bind_eq_ok.1 h
  obtain ⟨-, -, h⟩ := bind_eq_ok.1 h
  obtain ⟨_, -, h⟩ := bind_eq_ok.1 h
  cases h
  exact ⟨hcommand, (expect_eq_ok.1 hmatch).1⟩

/-- A flag is set under a mask if they share a bit. -/
theorem hasFlag_iff (value : Int) (mask : ℕ) :
    hasFlag value mask = true ↔ ∃ k, value.testBit k = true ∧ mask.testBit k = true := by
  have hland : ∃ n : ℕ, Int.land value mask = n := by
    cases value with
    | ofNat m => exact ⟨m &&& mask, rfl⟩
    | negSucc m => exact ⟨Nat.ldiff mask m, rfl⟩
  obtain ⟨n, hn⟩ := hland
  have hbits (k : ℕ) : n.testBit k = (value.testBit k && mask.testBit k) := by
    have hbit := Int.testBit_land value mask k
    rwa [hn] at hbit
  rw [hasFlag, hn, bne_iff_ne, ne_eq, Int.natCast_eq_zero]
  constructor
  · intro hne
    obtain ⟨k, hk⟩ := Nat.exists_testBit_of_ne_zero hne
    rw [hbits, Bool.and_eq_true] at hk
    exact ⟨k, hk⟩
  · rintro ⟨k, hvalue, hmask⟩ rfl
    have hbit := hbits k
    rw [hvalue, hmask, Nat.zero_testBit] at hbit
    cases hbit

theorem not_contradictory {r : Receipt} (hencoded : r.encode.isSome) :
    r.contradictory = false := by
  obtain ⟨data, hdata⟩ := Option.isSome_iff_exists.1 hencoded
  have h := Receipt.decode_iff.2 hdata
  simp only [Receipt.decode, Option.bind_eq_bind, Option.ite_none_left_eq_some, not_not,
    Option.bind_eq_some_iff, Prod.exists, not_or, Bool.not_eq_true] at h
  obtain ⟨-, _, _, _, _, _, _, _, _, _, _, _, _, _, _, _, -, -, _, -, _, -, _, -, _, -, _, -, _, -,
    _, -, hchecked, h⟩ := h
  cases h
  exact hchecked

/-- A receipt of the codec that reports a phase of the action reports it as not over. -/
theorem unfinished_of_phase {r : Receipt} (hencoded : r.encode.isSome)
    (hown : r.transitionRequest = some a.request)
    (hphase : r.phase = .opening ∨ r.phase = .adding ∨ r.phase = .enabling ∨ r.phase = .uncertain) :
    a.Unfinished r := by
  have hchecked := not_contradictory hencoded
  rw [Receipt.contradictory, decide_eq_false_iff_not] at hchecked
  simp only [not_or] at hchecked
  obtain ⟨-, -, huncertain, -, -, -, -, hworking, -⟩ := hchecked
  have hflag : hasFlag r.flags 2 = true ∨ hasFlag r.flags 4 = true := by
    rcases hphase with hphase | hphase | hphase | hphase
    · exact .inl (not_not.1 fun hclear => hworking ⟨.inl hphase, .inl hclear⟩)
    · exact .inl (not_not.1 fun hclear => hworking ⟨.inr (.inl hphase), .inl hclear⟩)
    · exact .inl (not_not.1 fun hclear => hworking ⟨.inr (.inr hphase), .inl hclear⟩)
    · exact .inr ((not_not.1 huncertain).2 hphase)
  have hmask (k : ℕ) : (6 : ℕ).testBit k = ((2 : ℕ).testBit k || (4 : ℕ).testBit k) := by
    rw [← Nat.testBit_or]
    rfl
  refine ⟨hown, (hasFlag_iff r.flags 6).2 ?_⟩
  rcases hflag with hflag | hflag
  · obtain ⟨k, hk, hbit⟩ := (hasFlag_iff r.flags 2).1 hflag
    exact ⟨k, hk, by rw [hmask, hbit, Bool.true_or]⟩
  · obtain ⟨k, hk, hbit⟩ := (hasFlag_iff r.flags 4).1 hflag
    exact ⟨k, hk, by rw [hmask, hbit, Bool.or_true]⟩

variable {o : Observation} {window : ResponseWindow Digest}

variable {owner : String} {command : Command}

theorem original_start {raw : Bytes} (hraw : command.encode .ensure = some raw) :
    (start owner command raw window).original = .ok command := by
  have hbytes : savedBytes (start owner command raw window).command 576 = .ok raw :=
    savedBytes_hexText (Command.length_encode hraw)
  rw [original, hbytes, ok_bind, Command.decode_iff.2 hraw]
  rfl

variable {digest : List Record → Digest} [DecidableEq Digest]

/-- An attempt that awaits its first receipt has polled nothing and shows nothing. -/
theorem Awaits.fresh (h : a.Awaits digest) : ∃ original cancelled,
    a.checkIntent = .ok (original, cancelled) ∧ a.polls = [] ∧ a.boundaries = [] ∧
      a.completion = none := by
  obtain ⟨hvalid, hlast⟩ := h
  obtain ⟨⟨original, cancelled⟩, hintent, hvalid⟩ := bind_eq_ok.1 hvalid
  obtain ⟨⟨effective, lastRequest⟩, hpending, hvalid⟩ := bind_eq_ok.1 hvalid
  dsimp only at hpending hvalid
  rw [checkLast, hlast] at hvalid
  obtain ⟨-, rfl, hboundaries, hcompletion⟩ := expect_eq_ok.1 hvalid
  refine ⟨original, cancelled, hintent, ?_, hboundaries, Option.isNone_iff_eq_none.1 hcompletion⟩
  rw [checkPending] at hpending
  cases hsent : a.pending with
  | none =>
    rw [hsent] at hpending
    cases hpending
  | some raw =>
    rw [hsent] at hpending
    obtain ⟨_, -, hpending⟩ := bind_eq_ok.1 hpending
    obtain ⟨_, -, hpending⟩ := bind_eq_ok.1 hpending
    obtain ⟨-, hpending⟩ := check_bind_eq_ok.1 hpending
    by_contra hpolls
    simp [hpolls] at hpending

/-- **What `submit` records awaits its first receipt.** -/
theorem awaits_start {raw : Bytes} (hraw : command.encode .ensure = some raw)
    (howner : (requestBytes owner).isSome) (hkey : (requestBytes command.requestKey).isSome)
    (hscene : command.expected.scene = window.lifetime.sceneEpoch)
    (hlocal : command.expected.localKey = window.lifetime.localKey)
    (hbaseline : ∀ v ∈ [window.sequence, window.baseline.rejected, window.baseline.ticketDrops,
      window.baseline.readErrors], 0 ≤ v ∧ v ≤ 2 ^ 63 - 1) :
    (start owner command raw window).Awaits digest := by
  refine ⟨?_, rfl⟩
  have hbytes : savedBytes (start owner command raw window).command 576 = .ok raw :=
    savedBytes_hexText (Command.length_encode hraw)
  have hintent : (start owner command raw window).checkIntent = .ok (command, []) := by
    rw [checkIntent, check_bind_eq_ok]
    refine ⟨expect_eq_ok.2 howner, ?_⟩
    rw [original_start hraw, ok_bind, check_bind_eq_ok]
    refine ⟨expect_eq_ok.2 hkey, ?_⟩
    rw [check_bind_eq_ok]
    refine ⟨expect_eq_ok.2 ⟨rfl, hscene, hlocal⟩, ?_⟩
    rw [check_bind_eq_ok]
    refine ⟨forM_eq_ok.2 fun v hv => CondemnEvidence.integer_ok (hbaseline v hv), ?_⟩
    rfl
  have hpending : (start owner command raw window).checkPending command [] = .ok ([], none) := by
    show (savedBytes (start owner command raw window).command 576 >>= _) = _
    rw [hbytes, ok_bind]
    show (coded (Command.decode raw .ensure) >>= _) = _
    rw [Command.decode_iff.2 hraw]
    show (expect _ _ >>= _) = _
    rw [check_bind_eq_ok, expect_eq_ok]
    refine ⟨?_, rfl⟩
    simp [start, maxCancelledPolls, State.terminal]
  rw [validate, hintent, ok_bind]
  dsimp only
  rw [hpending, ok_bind]
  dsimp only
  exact expect_eq_ok.2 ⟨rfl, rfl, rfl, rfl⟩

/-- A refusal that answers the request passes the checks of saved records. -/
theorem validate_refused (h : a.Awaits digest) (hanswers : a.Answers o window)
    (hrefuses : noStart o.receipt.outcome = true) : (a.refused o).validate digest = .ok () := by
  obtain ⟨original, cancelled, hintent, hpolls, hboundaries, hcompletion⟩ := h.fresh
  obtain ⟨horiginal, hkey⟩ := original_of_checkIntent hintent
  obtain ⟨-, -, original', horiginal', hrequest, hhost, hwindow⟩ := hanswers
  obtain rfl : original = original' := Except.ok.inj (horiginal.symm.trans horiginal')
  -- the checks of the intent read nothing that a refusal changes
  have hintent' : (a.refused o).checkIntent = .ok (original, cancelled) := hintent
  have hpending : (a.refused o).checkPending original cancelled =
      .ok ([], some original.requestKey) := by
    simp [checkPending, refused, hpolls]
  rw [validate, hintent', ok_bind]
  dsimp only
  rw [hpending, ok_bind]
  dsimp only
  rw [checkLast]
  show (o.saved.read >>= _) = _
  rw [read_saved, ok_bind]
  dsimp only
  rw [check_bind_eq_ok, expect_eq_ok, hrequest, hkey]
  refine ⟨⟨rfl, hhost, hwindow⟩, ?_⟩
  have hstate : (a.refused o).state = .notSubmitted := rfl
  rw [if_pos hstate, expect_eq_ok]
  exact ⟨hpolls, hrefuses, rfl, hboundaries, Option.isNone_iff_eq_none.2 hcompletion⟩

variable {a' : Attempt Digest}

theorem state_of_concluded (hstate : a.state = .submitted)
    (h : a.concluded digest o window = .ok a') : a'.state ≠ .notSubmitted := by
  rw [concluded] at h
  split_ifs at h
  · cases h
    exact State.noConfusion
  · cases h
    exact State.noConfusion
  · split at h
    · cases h
      rw [hstate]
      exact State.noConfusion
    · obtain ⟨-, h⟩ := check_bind_eq_ok.1 h
      cases h
      exact State.noConfusion
  · cases h
    rw [hstate]
    exact State.noConfusion

/-- A receipt that continues the action closes no attempt as one without an action. -/
theorem state_of_continued (h : a.continued digest original o window = .ok a') :
    a'.state ≠ .notSubmitted := by
  obtain ⟨-, h⟩ := check_bind_eq_ok.1 h
  obtain ⟨-, h⟩ := check_bind_eq_ok.1 h
  obtain ⟨boundaries, -, h⟩ := bind_eq_ok.1 h
  exact state_of_concluded rfl h

/-- A first receipt releases the intent exactly if it answers the request with a refusal. -/
theorem released_iff (h : a.Awaits digest) :
    a.Released digest o window ↔ a.Answers o window ∧ noStart o.receipt.outcome = true := by
  obtain ⟨original, cancelled, hintent, hpolls, -, -⟩ := h.fresh
  obtain ⟨horiginal, hkey⟩ := original_of_checkIntent hintent
  have hfirst : ¬ (a.polls ≠ [] ∧ emptyQueueExpiry o.receipt = true) := fun hpolled =>
    hpolled.1 hpolls
  have hcorrelates : a.polls.getLast?.getD original.requestKey = a.request := by
    rw [hpolls, hkey]
    rfl
  constructor
  · rintro ⟨a', happly, hstate, -⟩
    obtain ⟨hinterval, happly⟩ := check_bind_eq_ok.1 happly
    rw [horiginal, ok_bind] at happly
    obtain ⟨hmatches, happly⟩ := check_bind_eq_ok.1 happly
    obtain ⟨hfailure, hlifetime⟩ := expect_eq_ok.1 hinterval
    obtain ⟨hrequest, hhost, hwindow⟩ := expect_eq_ok.1 hmatches
    refine ⟨⟨hfailure, hlifetime, original, horiginal, hrequest.trans hcorrelates, hhost, hwindow⟩,
      ?_⟩
    by_contra hrefuses
    rw [if_neg hfirst, if_neg fun hboth => hrefuses hboth.2] at happly
    obtain ⟨a₁, hcontinued, happly⟩ := bind_eq_ok.1 happly
    obtain ⟨-, happly⟩ := check_bind_eq_ok.1 happly
    cases happly
    exact state_of_continued hcontinued hstate
  · rintro ⟨hanswers, hrefuses⟩
    have hvalid := validate_refused h hanswers hrefuses
    obtain ⟨hfailure, hlifetime, original', horiginal', hrequest, hhost, hwindow⟩ := hanswers
    obtain rfl : original = original' := Except.ok.inj (horiginal.symm.trans horiginal')
    refine ⟨a.refused o, ?_, rfl, rfl⟩
    rw [apply, check_bind_eq_ok, expect_eq_ok, horiginal, ok_bind]
    refine ⟨⟨hfailure, hlifetime⟩, ?_⟩
    dsimp only
    rw [check_bind_eq_ok, expect_eq_ok, hcorrelates]
    refine ⟨⟨hrequest, hhost, hwindow⟩, ?_⟩
    rw [if_neg hfirst, if_pos ⟨hpolls, hrefuses⟩, pure_eq_ok, ok_bind, hvalid]
    rfl

/-- **A first receipt never releases an unfinished action, except by a refusal that reports it.**
A refusal that answers the request releases the intent whatever it reports; in the phases of an
action under way, what it reports of the attempt's own transition is always unfinished. -/
theorem released_finished_iff (h : a.Awaits digest) (o : Observation)
    (window : ResponseWindow Digest) :
    ((a.Released digest o window → ¬ a.Unfinished o.receipt) ↔
      (a.Answers o window → noStart o.receipt.outcome = true → ¬ a.Unfinished o.receipt)) ∧
    (o.receipt.transitionRequest = some a.request →
      o.receipt.phase = .opening ∨ o.receipt.phase = .adding ∨ o.receipt.phase = .enabling ∨
        o.receipt.phase = .uncertain → a.Unfinished o.receipt) := by
  refine ⟨?_, unfinished_of_phase o.encoded⟩
  rw [released_iff h]
  exact ⟨fun hclaim hanswers hrefuses => hclaim ⟨hanswers, hrefuses⟩,
    fun hcondition hboth => hcondition hboth.1 hboth.2⟩

end

end Attempt

/-! ## A refusal that reports its own action -/

def gateHouse : CondemnWire.Target :=
  ⟨(1, 8), (2, 23), 4, by decide, by decide, .inl rfl⟩

/-- The building's window is open, and its list can be opened. -/
def openBuilding : CondemnWire.Snapshot where
  scene := 1
  revision := 1
  localKey := (3, 53)
  root := 10
  manager := 11
  buildingHud := 12
  front := 12
  openButton := 13
  building := (1, 8)
  keys := by decide

def ensureGate : Command where
  host := ⟨1, 1, 1⟩
  window := 1000
  requestKey := "01010101-0101-0101-0101-010101010101"
  target := gateHouse
  expected := openBuilding

def gateLife : Lifetime := ⟨7, 8, 1, (3, 53), by decide, by decide, by decide, by decide⟩

/-- A refusal that reports the request's own action, in flight. -/
def staleOpening : Receipt where
  requestKey := ensureGate.requestKey
  host := ensureGate.host
  window := 1000
  outcome := .stale
  flags := 2
  snapshot := .blank
  target := some gateHouse
  transitionTarget := some gateHouse
  transitionRequest := some ensureGate.requestKey
  phase := .opening
  actionTick := 5

def staleObserved : Observation :=
  ⟨staleOpening, 6, none, by decide +kernel, by decide, by decide⟩

def gateWindow : ResponseWindow Unit where
  lifetime := gateLife
  baseline := ⟨0, 0, 0, 0⟩
  sequence := 0

def gateOwner : String := "02020202-0202-0202-0202-020202020202"

/-- The attempt to condemn, as it is recorded before its dispatch. -/
def gateAttempt : Attempt Unit :=
  .start gateOwner ensureGate ((ensureGate.encode .ensure).getD []) gateWindow

theorem gateAttempt_awaits : gateAttempt.Awaits fun _ => () := by
  have hsome : (ensureGate.encode .ensure).isSome := by decide +kernel
  obtain ⟨raw, hraw⟩ := Option.isSome_iff_exists.1 hsome
  refine Attempt.awaits_start ?_ (by decide) (by decide +kernel) rfl rfl (by decide)
  rw [hraw]
  rfl

theorem gateAttempt_answered : gateAttempt.Answers staleObserved gateWindow := by
  have hsome : (ensureGate.encode .ensure).isSome := by decide +kernel
  obtain ⟨raw, hraw⟩ := Option.isSome_iff_exists.1 hsome
  refine ⟨rfl, rfl, ensureGate, ?_, rfl, rfl, rfl⟩
  rw [gateAttempt, hraw]
  exact Attempt.original_start hraw

/-- The refused opening is released, though it is in flight. -/
theorem released_finished_iff_opening :
    ¬ (gateAttempt.Released (fun _ => ()) staleObserved gateWindow →
      ¬ gateAttempt.Unfinished staleOpening) := by
  have hiff := (Attempt.released_finished_iff gateAttempt_awaits staleObserved gateWindow).1
  intro hclaim
  exact hiff.1 hclaim gateAttempt_answered (by decide) ⟨rfl, by decide⟩

/-- A refusal of the codec that reports the attempt's own action in flight frees the intent. -/
theorem released_unfinished :
    ¬ ∀ (a : Attempt Unit) (o : Observation) (window : ResponseWindow Unit),
      a.Awaits (fun _ => ()) → a.Released (fun _ => ()) o window → ¬ a.Unfinished o.receipt := by
  intro hclaim
  have hreleased : gateAttempt.Released (fun _ => ()) staleObserved gateWindow :=
    (Attempt.released_iff gateAttempt_awaits).2 ⟨gateAttempt_answered, by decide⟩
  exact hclaim gateAttempt staleObserved gateWindow gateAttempt_awaits hreleased
    ⟨rfl, by decide⟩

end ShadowbaneLab.CondemnTransaction
