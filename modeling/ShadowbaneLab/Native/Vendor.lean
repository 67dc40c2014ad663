/-
# The native vendor controller

`src/native/wonderbane_extension/vendor_wire.h` and `vendor_controller.h`: creating and keeping
items at a vendor.  The types are packed, so that `memcmp` is equality.
-/
import ShadowbaneLab.Native.Desk

namespace ShadowbaneLab.Native.Vendor

open Foundation

/-! ## Wire -/

inductive Verb
  | inspect
  | create
  | keep
  | createRandom
  | inspectRandom
deriving DecidableEq

structure Slot where
  entry : UInt32 := 0
  item : UInt32 := 0
  state : UInt32 := 0
deriving DecidableEq

structure Snapshot where
  scene : UInt64 := 0
  revision : UInt64 := 0
  root : UInt32 := 0
  manager : UInt32 := 0
  menu : UInt32 := 0
  recipe : UInt32 := 0
  inventory : UInt32 := 0
  hireling : UInt32 := 0
  building : UInt32 := 0
  vendor : UInt32 := 0
  itemTemplate : UInt32 := 0
  namePrefix : UInt32 := 0
  nameSuffix : UInt32 := 0
  mode : UInt32 := 0
  table : UInt32 := 0
  quantity : UInt32 := 0
  multiple : UInt32 := 0
  count : UInt32 := 0
  slots : Vector Slot 16 := .replicate 16 {}
  reserved : Vector UInt8 16 := .replicate 16 0
deriving DecidableEq

structure Command where
  host : Host := {}
  window : UInt64 := 0
  request : RequestKey := .replicate 16 0
  expected : Snapshot := {}
  item : UInt32 := 0
  reserved : Vector UInt8 244 := .replicate 244 0
deriving DecidableEq

/-- `wire::Receipt` without its reserved bytes, which stay zero. -/
structure Receipt where
  request : RequestKey
  host : Host
  window : UInt64
  outcome : Outcome
  flags : UInt32
  snapshot : Snapshot
  signature : UInt32 := 0x57425631
  transitionItem : UInt32
  transitionRequest : RequestKey
deriving DecidableEq

namespace Snapshot

/-- The slots that are counted. -/
def shown (s : Snapshot) : List Slot := s.slots.toList.take s.count.toNat

/-- One slot of a valid snapshot, given the slots before it. -/
def slotValid (s : Snapshot) (i : Fin 16) : Bool :=
  let slot := s.slots[i]
  if s.count.toNat ≤ i then slot = {}
  else
    slot.entry ≠ 0 ∧ slot.state ≤ 2 ∧ (slot.state = 0 ↔ slot.item = 0) ∧
      ∀ j : Fin 16, j < i → s.slots[j].entry ≠ slot.entry ∧
        ¬ (slot.item ≠ 0 ∧ s.slots[j].item = slot.item)

/-- `ValidSnapshot`. -/
def valid (s : Snapshot) : Bool :=
  (s.scene ≠ 0 ∧ s.revision ≠ 0 ∧ s.root ≠ 0 ∧ s.manager ≠ 0 ∧ s.menu ≠ 0 ∧ s.hireling ≠ 0 ∧
    s.building ≠ 0 ∧ s.vendor ≠ 0 ∧ s.count ≠ 0 ∧ s.count ≤ 16 ∧ isZero s.reserved) ∧
  ∀ i, s.slotValid i

/-- `RandomScepter`. -/
def randomScepter (s : Snapshot) : Bool :=
  s.recipe ≠ 0 ∧ s.itemTemplate = 26990 ∧ s.namePrefix = 3362971591 ∧ s.nameSuffix = s.namePrefix ∧
    s.mode = 1 ∧ s.table = 12 ∧ s.quantity = 1 ∧ s.multiple ≤ 1

/-- `RandomSingle`. -/
def randomSingle (s : Snapshot) : Bool :=
  s.recipe ≠ 0 ∧ s.itemTemplate ≠ 0 ∧ s.table ≠ 0 ∧ s.mode = 1 ∧ s.namePrefix = 3362971591 ∧
    s.nameSuffix = s.namePrefix ∧ s.quantity = 1 ∧ s.multiple = 0

/-- `Contains`. -/
def contains (s : Snapshot) (item : UInt32) : Bool := s.shown.any (·.item = item)

/-- `SameOwner`. -/
def sameOwner (a b : Snapshot) : Bool :=
  a.scene = b.scene ∧ a.root = b.root ∧ a.manager = b.manager ∧ a.menu = b.menu ∧
    a.hireling = b.hireling ∧ a.building = b.building ∧ a.vendor = b.vendor

end Snapshot

/-- `IsCreate`. -/
def Verb.isCreate (verb : Verb) : Bool := verb = .create ∨ verb = .createRandom

/-- `IsInspect`. -/
def Verb.isInspect (verb : Verb) : Bool := verb = .inspect ∨ verb = .inspectRandom

/-- `Valid`. -/
def Command.valid (verb : Verb) (c : Command) : Bool :=
  (c.host.valid ∧ c.window ≠ 0 ∧ c.window ≤ 0xFFFFFFFF ∧ ¬ isZero c.request ∧ isZero c.reserved) ∧
    if verb.isInspect then c.item = 0 ∧ c.expected = {}
    else c.expected.valid ∧
      ((verb = .create ∧ c.item = 0 ∧ c.expected.randomScepter) ∨
        (verb = .createRandom ∧ c.item = 0 ∧ c.expected.randomSingle) ∨
        (verb = .keep ∧ c.item ≠ 0))

/-! ## Controller -/

/-- `Record`. -/
structure Entry where
  verb : Verb
  command : Command
  receipt : Receipt

/-- The controller.  `pending_` points to a record; its verb and command are kept here. -/
structure Controller where
  records : Dict RequestKey Entry := .empty
  pending : Option (Verb × Command) := none
  current : Snapshot := {}
  revision : UInt64 := 0
  randomDeadline : UInt64 := 0
  uncertain : Bool := false
  transitionRequest : RequestKey := .replicate 16 0
  transitionItem : UInt32 := 0

namespace Controller

variable (s : Controller)

/-- `Receipt`. -/
def receipt (c : Command) (outcome : Outcome) (ready : Bool) : Receipt where
  request := c.request
  host := c.host
  window := c.window
  outcome := outcome
  flags := flagsOf [(ready ∧ s.current.scene ≠ 0 ∧ ¬ s.uncertain ∧ s.pending.isNone, readyFlag),
    (s.pending.isSome, inFlightFlag), (s.uncertain, unresolvedFlag)]
  snapshot := s.current
  transitionItem := s.transitionItem
  transitionRequest := s.transitionRequest

/-- How many items a creation adds: one, or one for each free slot. -/
def additionsExpected (before : Snapshot) : ℕ :=
  if before.multiple ≠ 0 then before.shown.countP (·.state = 0) else 1

/-- The items that an observation adds. -/
def additions (before current : Snapshot) : List UInt32 :=
  (current.shown.map (·.item)).filter fun item => item ≠ 0 ∧ ¬ before.contains item

/-- The pending request is done; `item` is one that it made or kept. -/
def complete (c : Command) (item : UInt32) : Controller :=
  { s with transitionItem := item, transitionRequest := c.request, pending := none }

/-- The part of `Observe` that correlates the observation with the pending request. -/
def correlate (previous : Snapshot) (valid keptInInventory : Bool) (now : UInt64) : Controller :=
  match s.pending with
  | none => s
  | some (verb, command) =>
    let before := command.expected
    let doubt := { s with uncertain := true }
    if s.uncertain then s
    else if verb = .createRandom ∧ s.randomDeadline < now then doubt
    else if ¬ valid ∨ ¬ before.sameOwner s.current ∨ s.current.count < before.count then doubt
    else if verb.isCreate then
      let expected := additionsExpected before
      let added := additions before s.current
      -- partial batch arrivals must remain present until the whole request completes
      if previous.shown.any (fun slot => slot.item ≠ 0 ∧ ¬ s.current.contains slot.item) then doubt
      else if expected < added.length then doubt
      else if added.length < expected then s
      else s.complete command (added.getLastD 0)
    else if s.current.contains command.item ∨ ¬ keptInInventory then s
    else s.complete command command.item

/-- `Observe`. -/
def observe (snapshot : Snapshot) (valid keptInInventory : Bool) (now : UInt64) : Controller :=
  let snapshot := { snapshot with revision := s.current.revision }
  if valid ∧ snapshot = s.current then
    { s with current := snapshot }.correlate s.current valid keptInInventory now
  else if s.revision = uint64Max then { s with uncertain := true, current := {} }
  else
    let revision := s.revision + 1
    let snapshot := { snapshot with revision := revision }
    let current := if valid then snapshot else {}
    { s with revision := revision, current := current }.correlate s.current valid keptInInventory now

/-- The refusals of a new request, in their order; a refused request is not recorded. -/
def refusal (e : Execution Verb Command) : Option Receipt :=
  let c := e.command
  let eligible := s.current.shown.any fun slot =>
    if e.verb.isCreate then slot.state = 0 else slot.state = 2 ∧ slot.item = c.item
  if s.uncertain then some (s.receipt c .uncertain false)
  else if s.pending.isSome then some (s.receipt c .pending false)
  else if ¬ e.ready ∨ ¬ s.current.valid then some (s.receipt c .unavailable false)
  else if s.current ≠ c.expected then some (s.receipt c .stale e.ready)
  else if ¬ eligible ∨ (e.verb = .create ∧ ¬ s.current.randomScepter) ∨
      (e.verb = .createRandom ∧ ¬ s.current.randomSingle) then some (s.receipt c .invalid e.ready)
  else if 4096 ≤ s.records.items.length ∨ (e.verb = .createRandom ∧ uint64Max - 5000 < e.now) then
    some (s.receipt c .exhausted false)
  else if ¬ e.memory then some (s.receipt c .unavailable false)
  else none

/-- The request is recorded and put to the invoker. -/
def submit (e : Execution Verb Command) : Controller × Receipt × Bool :=
  let deadline := if e.verb = .createRandom then e.now + 5000 else s.randomDeadline
  let asked := { s with pending := some (e.verb, e.command), randomDeadline := deadline }
  let after :=
    if e.answer.refused then { asked with pending := none }
    else if e.answer ≠ .submitted then { asked with uncertain := true }
    else asked
  let receipt := after.receipt e.command e.answer false
  ({ after with records := s.records.set e.command.request ⟨e.verb, e.command, receipt⟩ }, receipt,
    true)

/-- `Execute`. -/
def execute (e : Execution Verb Command) : Controller × Receipt × Bool :=
  let c := e.command
  if ¬ c.valid e.verb then (s, s.receipt c .invalid e.ready, false)
  else if ¬ e.live then (s, s.receipt c .stale false, false)
  else if e.verb.isInspect then (s, s.receipt c .observed e.ready, false)
  else match s.records.get? c.request with
    | some previous =>
      if previous.verb ≠ e.verb ∨ previous.command ≠ c then
        (s, s.receipt c .invalid e.ready, false)
      else (s, previous.receipt, false)
    | none =>
      match s.refusal e with
      | some receipt => (s, receipt, false)
      | none => s.submit e

end Controller

/-! ## Laws -/

structure Observation where
  snapshot : Snapshot
  valid : Bool
  keptInInventory : Bool
  now : UInt64

def desk : Desk Controller Observation Verb Command Receipt Entry where
  observe s o := s.observe o.snapshot o.valid o.keptInInventory o.now
  execute := Controller.execute
  records := Controller.records
  pending s := s.pending.isSome
  unresolved := Controller.uncertain
  request := Command.request
  valid verb c := c.valid verb
  inspects := Verb.isInspect
  content entry := (entry.verb, entry.command)
  receipt := Entry.receipt
  outcome := Receipt.outcome
  settled := Outcome.refused

namespace Controller

variable {s : Controller} {e : Execution Verb Command}

theorem correlate_records (previous : Snapshot) (valid kept : Bool) (now : UInt64) :
    (s.correlate previous valid kept now).records = s.records := by
  unfold correlate
  dsimp only
  split
  · rfl
  · split_ifs <;> rfl

theorem correlate_uncertain (previous : Snapshot) (valid kept : Bool) (now : UInt64)
    (h : s.uncertain = true) : (s.correlate previous valid kept now).uncertain = true := by
  unfold correlate
  dsimp only
  split
  · exact h
  · rw [if_pos h]
    exact h

theorem observe_records (snapshot : Snapshot) (valid kept : Bool) (now : UInt64) :
    (s.observe snapshot valid kept now).records = s.records := by
  unfold observe
  dsimp only
  split_ifs <;> simp only [correlate_records]

theorem observe_uncertain (snapshot : Snapshot) (valid kept : Bool) (now : UInt64)
    (h : s.uncertain = true) : (s.observe snapshot valid kept now).uncertain = true := by
  unfold observe
  dsimp only
  split_ifs
  · exact correlate_uncertain _ _ _ _ h
  · rfl
  · exact correlate_uncertain _ _ _ _ h
  · exact correlate_uncertain _ _ _ _ h

theorem idle_of_refusal (h : s.refusal e = none) : s.pending = none ∧ s.uncertain = false := by
  unfold refusal at h
  dsimp only at h
  split at h
  case isTrue => cases h
  case isFalse huncertain =>
    split at h
    case isTrue => cases h
    case isFalse hpending =>
      exact ⟨Option.not_isSome_iff_eq_none.1 hpending, Bool.eq_false_iff.2 huncertain⟩

/-- An execution without a call leaves the controller as it is, another submits a valid request
that is new and not refused. -/
theorem execute_cases :
    ((s.execute e).1 = s ∧ (s.execute e).2.2 = false) ∨
    (e.command.valid e.verb = true ∧ e.live = true ∧ e.verb.isInspect = false) ∧
      s.records.get? e.command.request = none ∧ s.refusal e = none ∧ s.execute e = s.submit e := by
  unfold execute
  dsimp only
  split
  case isTrue => exact .inl ⟨rfl, rfl⟩
  case isFalse hvalid =>
    split
    case isTrue => exact .inl ⟨rfl, rfl⟩
    case isFalse hlive =>
      split
      case isTrue => exact .inl ⟨rfl, rfl⟩
      case isFalse hinspect =>
        split
        case h_1 => split <;> exact .inl ⟨rfl, rfl⟩
        case h_2 hnew =>
          split
          case h_1 => exact .inl ⟨rfl, rfl⟩
          case h_2 hrefusal =>
            exact .inr ⟨⟨not_not.1 hvalid, not_not.1 hlive, Bool.eq_false_iff.2 hinspect⟩, hnew,
              hrefusal, rfl⟩

/-- A recorded request is answered from its record, another with its key is invalid. -/
theorem execute_known {previous : Entry} (h : s.records.get? e.command.request = some previous)
    (hvalid : previous.command.valid previous.verb = true) (hlive : e.live = true)
    (hverb : e.verb.isInspect = false) :
    s.execute e = (s, if previous.verb = e.verb ∧ previous.command = e.command then previous.receipt
      else s.receipt e.command .invalid e.ready, false) := by
  unfold execute
  by_cases hc : e.command.valid e.verb = true
  · simp only [hc, hlive, hverb, h, not_true_eq_false, Bool.false_eq_true, if_false]
    by_cases hsame : previous.verb = e.verb ∧ previous.command = e.command
    · rw [if_pos hsame, if_neg]
      rintro (hne | hne)
      · exact hne hsame.1
      · exact hne hsame.2
    · rw [if_neg hsame, if_pos (not_and_or.1 hsame)]
  · have hother : ¬ (previous.verb = e.verb ∧ previous.command = e.command) := by
      rintro ⟨hsame, hsame'⟩
      exact hc (hsame ▸ hsame' ▸ hvalid)
    simp only [hc, Bool.false_eq_true, not_false_eq_true, if_true, if_neg hother]

theorem submitted (hvalid : e.command.valid e.verb = true) (hlive : e.live = true)
    (hverb : e.verb.isInspect = false) (hnew : s.records.get? e.command.request = none)
    (hrefusal : s.refusal e = none) :
    desk.Submitted s e (s.submit e).1 (s.submit e).2.1 (s.submit e).2.2 := by
  obtain ⟨hpending, huncertain⟩ := idle_of_refusal hrefusal
  refine ⟨hvalid, hlive, hverb, hnew, congrArg Option.isSome hpending, huncertain,
    ⟨_, rfl, rfl, rfl⟩, fun _ => rfl, fun _ hopen => ?_⟩
  have hopen : e.answer.refused = false := hopen
  simp only [desk, submit, hopen, Bool.false_eq_true, if_false]
  by_cases hsubmitted : e.answer ≠ .submitted
  · rw [if_pos hsubmitted]
    exact .inr rfl
  · rw [if_neg hsubmitted]
    exact .inl rfl

end Controller

theorem desk_lawful : desk.Lawful where
  observe_records s o := s.observe_records o.snapshot o.valid o.keptInInventory o.now
  observe_unresolved s o h := s.observe_uncertain o.snapshot o.valid o.keptInInventory o.now h
  execute_cases s _ :=
    Desk.cases_of_eq s.execute_cases fun ⟨hvalid, hlive, hverb⟩ =>
      Controller.submitted hvalid hlive hverb
  execute_known _ _ _ h hvalid hlive hverb :=
    Desk.known_of_eq (Controller.execute_known h hvalid hlive hverb) rfl

end ShadowbaneLab.Native.Vendor
