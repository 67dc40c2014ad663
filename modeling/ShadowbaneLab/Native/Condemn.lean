/-
# The native Condemn controller

`src/native/wonderbane_extension/condemn_native.h`, `condemn_wire.h` and `condemn_controller.h`:
opening a building's kill-on-sight list, adding an entry and enabling it, one action at a time.
-/
import ShadowbaneLab.Native.CondemnEvidence

namespace ShadowbaneLab.Native.Condemn

open Foundation

/-! ## Wire -/

structure Target where
  building : Key := (0, 0)
  identity : Key := (0, 0)
  scope : UInt32 := 0
deriving DecidableEq

/-- `native::Snapshot`. -/
structure NativeSnapshot where
  scene : UInt64 := 0
  localKey : Key := (0, 0)
  root : UInt32 := 0
  manager : UInt32 := 0
  buildingHud : UInt32 := 0
  front : UInt32 := 0
  openButton : UInt32 := 0
  building : Key := (0, 0)
  kos : UInt32 := 0
  list : UInt32 := 0
  selected : UInt32 := 0
  listSelected : UInt32 := 0
  count : UInt32 := 0
  context : Key := (0, 0)
  pending : Key × Key × Key := ((0, 0), (0, 0), (0, 0))
  flags : UInt32 := 0
  row : UInt32 := 0
  entry : UInt32 := 0
  enabled : UInt32 := 0
  collision : UInt32 := 0
  entryKey : Key := (0, 0)
deriving DecidableEq

/-- `wire::Snapshot`: the native one with a revision. -/
structure Snapshot extends NativeSnapshot where
  revision : UInt64 := 0
deriving DecidableEq

/-- `wire::Encode`. -/
def NativeSnapshot.encode (s : NativeSnapshot) (revision : UInt64) : Snapshot :=
  { s with revision := revision }

inductive Verb
  | inspect
  | ensure
deriving DecidableEq

inductive Phase
  | idle
  | opening
  | adding
  | enabling
  | verified
  | uncertain
  | existing
deriving DecidableEq

structure Command where
  host : Host := {}
  window : UInt64 := 0
  request : RequestKey := .replicate 16 0
  target : Target := {}
  expected : Snapshot := {}
  transitionRequest : RequestKey := .replicate 16 0
  reserved : Vector UInt8 368 := .replicate 368 0
deriving DecidableEq

/-- `wire::Receipt` without its reserved bytes, which stay zero. -/
structure Receipt where
  request : RequestKey
  host : Host
  window : UInt64
  outcome : Outcome
  flags : UInt32
  snapshot : Snapshot
  target : Target
  transitionTarget : Target
  transitionRequest : RequestKey
  phase : Phase
  signature : UInt32 := 0x57424b31
  actionTick : UInt64
  responseFloor : UInt64
  completionSequence : UInt64
deriving DecidableEq

namespace Target

variable (t : Target) (s : Snapshot)

/-- `Owned`. -/
def owned : Bool :=
  s.scene ≠ 0 ∧ s.revision ≠ 0 ∧ typed s.localKey 53 ∧ s.root ≠ 0 ∧ s.manager ≠ 0 ∧
    s.buildingHud ≠ 0 ∧ s.building = t.building ∧ s.enabled ≤ 1 ∧ s.collision = 0 ∧ s.count ≤ 512

/-- `List`. -/
def lists : Bool :=
  t.owned s ∧ s.kos ≠ 0 ∧ s.list ≠ 0 ∧ s.front = s.kos ∧ s.context = t.building ∧ s.flags = 0

/-- `Eligible`. -/
def eligible : Bool :=
  if ¬ t.owned s then false
  else if s.front = s.buildingHud ∧ s.openButton ≠ 0 then true
  else t.lists s ∧
    if s.entry ≠ 0 then s.row ≠ 0 ∧ typed s.entryKey 23
    else s.count < 512 ∧ s.row = 0 ∧ s.enabled = 0 ∧ s.entryKey = (0, 0)

end Target

/-- `Valid`. -/
def Command.valid (verb : Verb) (c : Command) : Bool :=
  (c.host.valid ∧ c.window ≠ 0 ∧ c.window ≤ 0xFFFFFFFF ∧ ¬ isZero c.request ∧
    typed c.target.building 8 ∧ typed c.target.identity 23 ∧
    (c.target.scope = 4 ∨ c.target.scope = 5) ∧ isZero c.reserved) ∧
  if verb = .inspect then c.expected = {}
  else c.target.eligible c.expected ∧ isZero c.transitionRequest

/-! ## Controller -/

inductive Action
  | opens
  | add
  | enable
deriving DecidableEq

/-- The phase that an action begins. -/
def Action.phase : Action → Phase
  | .opens => .opening
  | .add => .adding
  | .enable => .enabling

/-- `native::Result`. -/
inductive Result
  | unavailable
  | submitted
  | uncertain
deriving DecidableEq

/-- What the invoker answers to one execution: the response cursor when a transaction begins and
when it acts, and the result of the action; and whether memory can be allocated. -/
structure Answers where
  start : Option Cursor
  act : Option Cursor
  result : Result
  memory : Bool := true

structure Execution where
  verb : Verb
  command : Command
  live : Bool
  ready : Bool
  now : UInt64
  answers : Answers

/-- A call of the invoker's action. -/
structure Call where
  action : Action
  target : Target
  snapshot : NativeSnapshot
  cursor : Cursor
  result : Result

/-- `Retained`. -/
structure Entry where
  command : Command
  receipt : Receipt

structure Controller where
  records : Dict RequestKey Entry := .empty
  nativeSnapshot : NativeSnapshot := {}
  current : Snapshot := {}
  currentTarget : Target := {}
  transition : Command := {}
  phase : Phase := .idle
  evidence : Option Window := none
  revision : UInt64 := 0
  deadline : UInt64 := 0
  lastNow : UInt64 := 0
  actionTick : UInt64 := 0
  floor : UInt64 := 0
  proofSequence : UInt64 := 0
  proofTick : UInt64 := 0
  actionOwner : Snapshot := {}
  pending : Bool := false
  unresolved : Bool := false

namespace Controller

variable (s : Controller)

/-- `Busy`. -/
def busy : Bool := s.pending ∨ s.unresolved

/-- `Fail`. -/
def fail : Controller :=
  { s with
    unresolved := true, phase := .uncertain, evidence := s.evidence.map Window.invalidate }

/-- `Receipt`. -/
def receipt (c : Command) (outcome : Outcome) (ready : Bool) : Receipt where
  request := c.request
  host := c.host
  window := c.window
  outcome := outcome
  flags := flagsOf [(s.pending, inFlightFlag), (s.unresolved, unresolvedFlag),
    (ready ∧ ¬ s.busy ∧ s.currentTarget = c.target ∧ c.target.eligible s.current, readyFlag)]
  snapshot := s.current
  target := s.currentTarget
  transitionTarget := s.transition.target
  transitionRequest := s.transition.request
  phase := s.phase
  actionTick := s.actionTick
  responseFloor := s.floor
  completionSequence := s.proofSequence

/-- `SameOwner`. -/
def sameOwner (snapshot : Snapshot) : Bool :=
  let before := s.transition.expected
  snapshot.scene = before.scene ∧ snapshot.localKey = before.localKey ∧
    snapshot.root = before.root ∧ snapshot.manager = before.manager ∧
    snapshot.buildingHud = before.buildingHud ∧ snapshot.building = before.building

/-- The cursor cannot come from the drained one by responses alone. -/
def lost (cursor before : Cursor) : Bool :=
  cursor.processId ≠ before.processId ∨ cursor.creation ≠ before.creation ∨
    cursor.rejected ≠ before.rejected ∨ cursor.ticketDrops ≠ before.ticketDrops ∨
    cursor.sequence < before.sequence ∨ capacity < (cursor.sequence - before.sequence).toNat

/-- The action begins at a cursor. -/
def acting (action : Action) (now : UInt64) (cursor : Cursor) : Controller :=
  { s with
    actionTick := now, floor := cursor.sequence, actionOwner := s.current, phase := action.phase }

/-- `Act`. -/
def act (action : Action) (now : UInt64) (answers : Answers) (initial : Bool) :
    Controller × Outcome × Option Call :=
  match answers.act, s.evidence with
  | some cursor, some evidence =>
    if ¬ evidence.healthy then (s.fail, .uncertain, none)
    else if cursor ≠ evidence.current then
      -- responses that arrived since the last drain are never skipped
      let after := if lost cursor evidence.current then s.fail else s
      (after, if after.unresolved then .uncertain else .pending, none)
    else
      let acting := s.acting action now cursor
      let call : Call := ⟨action, s.transition.target, s.nativeSnapshot, cursor, answers.result⟩
      if answers.result = .submitted then (acting, .submitted, some call)
      else if initial ∧ answers.result = .unavailable then
        ({ acting with pending := false, phase := .idle, evidence := none }, .unavailable, some call)
      else (acting.fail, .uncertain, some call)
  | _, _ => (s.fail, .uncertain, none)

/-- `Advance`. -/
def advance (now : UInt64) (answers : Answers) (initial : Bool) :
    Controller × Outcome × Option Call :=
  let current := s.current
  if s.phase = .idle ∧ current.front = current.buildingHud ∧ current.openButton ≠ 0 then
    s.act .opens now answers true
  else if ¬ s.transition.target.lists current then (s, .pending, none)
  else if s.phase = .enabling then (s, .pending, none)
  else if current.entry ≠ 0 then
    if current.enabled ≠ 0 then
      -- an enabled row that appears while adding is no proof of completion
      if s.phase ≠ .idle ∧ s.phase ≠ .opening then (s.fail, .uncertain, none)
      else ({ s with pending := false, phase := .existing }, .observed, none)
    else s.act .enable now answers initial
  else if s.phase = .adding then (s, .pending, none)
  else if 512 ≤ current.count then (s.fail, .uncertain, none)
  else s.act .add now answers initial

/-- A proof answers the enabling action. -/
def answersAction (proof : Proof) : Bool :=
  let first := proof.decoded
  first.payload.operation = 17 ∧ first.payload.building = s.transition.target.building ∧
    first.payload.entry = s.actionOwner.entryKey ∧ s.floor < first.decodeSequence ∧
    s.actionTick ≤ first.tickMs

/-- A completed proof; one that fails leaves the failed controller as the error. -/
def prove (now : UInt64) (s : Controller) (proof : Proof) : Except Controller Controller :=
  if now < proof.returned.tickMs then .error s.fail
  else if ¬ s.answersAction proof then .ok s
  else if ¬ proof.enabled s.transition.target.building s.actionOwner.entryKey then .error s.fail
  else .ok { s with
    proofSequence := proof.returned.sequence.toUInt64, proofTick := proof.returned.tickMs }

/-- The part of `Observe` after the responses were drained. -/
def conclude (completed : List Proof) (valid : Bool) (now : UInt64) : Controller :=
  if valid ∧ ¬ s.sameOwner s.current then s.fail
  else
    match if s.phase = .enabling then completed.foldlM (prove now) s else .ok s with
    | .error failed => failed
    | .ok s =>
      let current := s.current
      if ¬ valid then s
      else if (s.phase = .adding ∨ s.phase = .enabling) ∧
          (¬ s.transition.target.lists current ∨ current.kos ≠ s.actionOwner.kos ∨
            current.list ≠ s.actionOwner.list) then s.fail
      else if s.phase = .enabling then
        if current.entryKey ≠ s.actionOwner.entryKey ∨ current.row ≠ s.actionOwner.row ∨
            current.entry ≠ s.actionOwner.entry then s.fail
        else if s.proofSequence ≠ 0 ∧ current.enabled ≠ 0 ∧ s.proofTick ≤ now then
          { s with pending := false, phase := .verified }
        else s
      else s

/-- The part of `Observe` that correlates the observation with the transaction; `none` when it
dereferences a null `evidence_`. -/
def correlate (target : Target) (valid : Bool) (batch : Option Batch) (now : UInt64)
    (memory : Bool) : Option Controller :=
  if ¬ s.pending ∨ s.unresolved then some s
  else if target ≠ s.transition.target ∨ now < s.lastNow ∨ s.deadline < now then some s.fail
  else
    match batch with
    | none => some s.fail
    | some batch =>
      match s.evidence with
      | none => none
      | some evidence =>
        match evidence.consume batch memory with
        | none => some s.fail
        | some (evidence, completed) =>
          let s := { s with evidence := some evidence }
          if batch.shown.getLast?.any fun last => now < last.tickMs then some s.fail
          else some ({ s with lastNow := now }.conclude completed valid now)

/-- `Observe`; `none` when it dereferences a null pointer. -/
def observe (target : Target) (snapshot : NativeSnapshot) (valid : Bool) (batch : Option Batch)
    (now : UInt64) (memory : Bool) : Option Controller :=
  let next := snapshot.encode s.current.revision
  let native := if valid then snapshot else {}
  if valid ∧ target = s.currentTarget ∧ next = s.current then
    { s with currentTarget := target, nativeSnapshot := native, current := next }.correlate
      target valid batch now memory
  else if s.revision = uint64Max then some { s with current := {} }.fail
  else
    let revision := s.revision + 1
    let current := if valid then { next with revision := revision } else {}
    { s with
      revision := revision
      currentTarget := target
      nativeSnapshot := native
      current := current }.correlate target valid batch now memory

/-- The inspection belongs to the transaction's own producer and may advance it. -/
def mayAdvance (e : Execution) : Bool :=
  let c := e.command
  s.pending ∧ ¬ s.unresolved ∧ e.ready ∧ s.currentTarget = c.target ∧
    c.target = s.transition.target ∧ c.transitionRequest = s.transition.request ∧
    c.window = s.transition.window ∧ c.host = s.transition.host

/-- The refusals of a new request, in their order, or the window of its evidence. -/
def admission (e : Execution) : Receipt ⊕ Window :=
  let c := e.command
  let unavailable := s.receipt c .unavailable false
  if s.busy then .inl (s.receipt c .pending false)
  else if ¬ e.ready ∨ s.currentTarget ≠ c.target ∨ ¬ c.target.eligible s.current then
    .inl unavailable
  else if c.expected ≠ s.current then .inl (s.receipt c .stale true)
  else if 4096 ≤ s.records.items.length ∨ uint64Max - 45000 < e.now then
    .inl (s.receipt c .exhausted false)
  else
    match e.answers.start with
    | none => .inl unavailable
    | some cursor =>
      let interval := Window.start cursor s.current.scene s.current.localKey
      if ¬ interval.healthy ∨ ¬ e.answers.memory then .inl unavailable
      else .inr interval

/-- The transaction begins. -/
def begin (e : Execution) (interval : Window) : Controller :=
  { s with
    evidence := some interval
    transition := e.command
    pending := true
    deadline := e.now + 45000
    lastNow := e.now
    actionTick := 0
    floor := 0
    proofSequence := 0
    proofTick := 0
    actionOwner := {}
    phase := .idle }

/-- `Execute`, with the action that it invokes. -/
def execute (e : Execution) : Controller × Receipt × Option Call :=
  let c := e.command
  if ¬ c.valid e.verb then (s, s.receipt c .invalid false, none)
  else if ¬ e.live then (s, s.receipt c .stale false, none)
  else if e.verb = .inspect then
    if s.mayAdvance e then
      if e.now < s.lastNow ∨ s.deadline < e.now then
        (s.fail, s.fail.receipt c .observed e.ready, none)
      else
        let (after, _, call) := s.advance e.now e.answers false
        (after, after.receipt c .observed e.ready, call)
    else (s, s.receipt c .observed e.ready, none)
  else
    match s.records.get? c.request with
    | some old =>
      if old.command ≠ c then (s, s.receipt c .invalid false, none)
      else (s, old.receipt, none)
    | none =>
      match s.admission e with
      | .inl receipt => (s, receipt, none)
      | .inr interval =>
        let (after, outcome, call) := (s.begin e interval).advance e.now e.answers true
        let receipt := after.receipt c outcome false
        ({ after with records := s.records.set c.request ⟨c, receipt⟩ }, receipt, call)

end Controller

/-! ## Runs -/

inductive Event
  | observe (target : Target) (snapshot : NativeSnapshot) (valid : Bool) (batch : Option Batch)
      (now : UInt64) (memory : Bool)
  | execute (execution : Execution)

/-- The controller after an event; it stays as it is where the program would crash. -/
def next (s : Controller) : Event → Controller
  | .observe target snapshot valid batch now memory =>
    (s.observe target snapshot valid batch now memory).getD s
  | .execute e => (s.execute e).1

/-- The action that an event invokes. -/
def invoked (s : Controller) : Event → Option Call
  | .observe .. => none
  | .execute e => (s.execute e).2.2

end ShadowbaneLab.Native.Condemn
