/-
# The native navigation controller

`src/native/wonderbane_extension/vendor_navigation_wire.h` and `vendor_navigation_controller.h`:
opening the pages of buildings, vendors, guards and warehouses.
-/
import ShadowbaneLab.Native.Desk

namespace ShadowbaneLab.Native.Navigation

open Foundation

/-! ## Wire -/

/-- `Key`. -/
abbrev Key : Type := UInt32 × UInt32

inductive Verb
  | inspect
  | building
  | vendor
  | guard
  | warehouse
deriving DecidableEq

structure Snapshot where
  scene : UInt64 := 0
  revision : UInt64 := 0
  root : UInt32 := 0
  manager : UInt32 := 0
  frontHud : UInt32 := 0
  mode : UInt32 := 0
  buildingHud : UInt32 := 0
  vendorHud : UInt32 := 0
  selectedEntry : UInt32 := 0
  visible : UInt32 := 0
  building : Key := (0, 0)
  vendor : Key := (0, 0)
  initialized : UInt32 := 0
  capacity : UInt32 := 0
  occupied : UInt32 := 0
  offline : UInt32 := 0
  warehouseHud : UInt32 := 0
  warehouseObject : UInt32 := 0
  warehouse : Key := (0, 0)
deriving DecidableEq

structure Command where
  host : Host := {}
  window : UInt64 := 0
  request : RequestKey := .replicate 16 0
  expected : Snapshot := {}
  building : Key := (0, 0)
  vendor : Key := (0, 0)
  reserved : Vector UInt8 424 := .replicate 424 0
deriving DecidableEq

/-- The words of a snapshot, in the order of its fields. -/
def Snapshot.words (s : Snapshot) : List Word :=
  [.of64 s.scene, .of64 s.revision, .of32 s.root, .of32 s.manager, .of32 s.frontHud, .of32 s.mode,
    .of32 s.buildingHud, .of32 s.vendorHud, .of32 s.selectedEntry, .of32 s.visible,
    .of32 s.building.1, .of32 s.building.2, .of32 s.vendor.1, .of32 s.vendor.2,
    .of32 s.initialized, .of32 s.capacity, .of32 s.occupied, .of32 s.offline,
    .of32 s.warehouseHud, .of32 s.warehouseObject, .of32 s.warehouse.1, .of32 s.warehouse.2]

/-- The bytes of a snapshot. -/
def Snapshot.bytes (s : Snapshot) : Bytes := packed s.words

theorem Snapshot.length_bytes (s : Snapshot) : s.bytes.length = 96 := by
  simp [bytes, length_packed, words]

/-- The bytes of a command. -/
def Command.bytes (c : Command) : Bytes :=
  c.host.bytes ++ ((Word.of64 c.window).bytes ++ (c.request.toList ++ (c.expected.bytes ++
    ((Word.of32 c.building.1).bytes ++ ((Word.of32 c.building.2).bytes ++
      ((Word.of32 c.vendor.1).bytes ++ ((Word.of32 c.vendor.2).bytes ++ c.reserved.toList)))))))

/-- `wire::Receipt` without its reserved bytes, which stay zero. -/
structure Receipt where
  request : RequestKey
  host : Host
  window : UInt64
  outcome : Outcome
  flags : UInt32
  snapshot : Snapshot
  transitionRequest : RequestKey
  signature : UInt32 := 0x57424e33
deriving DecidableEq

/-- `Typed`. -/
def typed (key : Key) (type : UInt32) : Bool := key.1 ≠ 0 ∧ key.2 = type

/-- `Hireling`. -/
def hireling (key : Key) : Bool := typed key 42 ∨ typed key 37

/-- `Matches`. -/
def Verb.suits (verb : Verb) (key : Key) : Bool :=
  (verb = .vendor ∧ typed key 42) ∨ (verb = .guard ∧ typed key 37)

namespace Snapshot

variable (s : Snapshot)

/-- `s.visible & bit`. -/
def shows (bit : UInt32) : Bool := s.visible &&& bit ≠ 0

/-- `ValidSnapshot`. -/
def valid : Bool :=
  (s.scene ≠ 0 ∧ s.revision ≠ 0 ∧ s.root ≠ 0 ∧ s.manager ≠ 0 ∧ s.mode ≤ 64 ∧ s.visible ≤ 3 ∧
    s.initialized ≤ 1 ∧ s.offline ≤ 1 ∧ s.occupied ≤ s.capacity ∧ s.capacity ≤ 128) ∧
  (s.building = (0, 0) ∨ typed s.building 8) ∧ (s.vendor = (0, 0) ∨ hireling s.vendor) ∧
  (s.vendor = (0, 0) ∨ s.selectedEntry ≠ 0) ∧
  (s.shows 1 → s.buildingHud ≠ 0 ∧ s.initialized ≠ 0 ∧ (s.mode = 0 ∨ s.mode = 6) ∧
    typed s.building 8) ∧
  (s.shows 2 → s.vendorHud ≠ 0 ∧ s.selectedEntry ≠ 0 ∧ hireling s.vendor ∧ typed s.building 8) ∧
  ((s.warehouseHud = 0 ∧ s.warehouseObject = 0 ∧ s.warehouse = (0, 0)) ∨
    (s.warehouseHud ≠ 0 ∧ s.warehouseObject ≠ 0 ∧ typed s.warehouse 42))

/-- `OwnsBuilding`. -/
def ownsBuilding (building : Key) : Bool :=
  s.offline = 0 ∧ s.building = building ∧ s.shows 1

/-- `Opened`. -/
def opened (verb : Verb) (building vendor : Key) : Bool :=
  if s.offline ≠ 0 ∨ s.building ≠ building ∨ s.frontHud = 0 then false
  else if verb = .warehouse then
    typed vendor 42 ∧ s.warehouseHud ≠ 0 ∧ s.warehouseObject ≠ 0 ∧ s.warehouse = vendor ∧
      s.frontHud = s.warehouseHud
  else if verb = .building then s.ownsBuilding building ∧ s.frontHud = s.buildingHud
  else verb.suits vendor ∧ s.shows 2 ∧ s.vendor = vendor ∧ s.frontHud = s.vendorHud

end Snapshot

/-- `Valid`. -/
def Command.valid (verb : Verb) (c : Command) : Bool :=
  (c.host.valid ∧ c.window ≠ 0 ∧ c.window ≤ 0xFFFFFFFF ∧ ¬ isZero c.request ∧ isZero c.reserved) ∧
    if verb = .inspect then c.expected = {} ∧ c.building = (0, 0) ∧ c.vendor = (0, 0)
    else (c.expected.valid ∧ c.expected.offline = 0 ∧ typed c.building 8) ∧
      ((verb = .building ∧ c.vendor = (0, 0)) ∨
        ((verb.suits c.vendor ∨ (verb = .warehouse ∧ typed c.vendor 42)) ∧
          c.expected.ownsBuilding c.building))

/-! ## Controller -/

/-- `Record`. -/
structure Entry where
  verb : Verb
  command : Command
  receipt : Receipt

/-- `response_timeout_ms`. -/
def responseTimeoutMs : UInt64 := 60000

structure Controller where
  records : Dict RequestKey Entry := .empty
  current : Snapshot := {}
  revision : UInt64 := 0
  responseDeadline : UInt64 := 0
  transition : Command := {}
  transitionVerb : Verb := .inspect
  pending : Bool := false
  unresolved : Bool := false

namespace Controller

variable (s : Controller)

/-- `Busy`. -/
def busy : Bool := s.pending ∨ s.unresolved

/-- `Receipt`. -/
def receipt (c : Command) (outcome : Outcome) (ready : Bool) : Receipt where
  request := c.request
  host := c.host
  window := c.window
  outcome := outcome
  flags := flagsOf [(s.pending, inFlightFlag), (s.unresolved, unresolvedFlag),
    (ready ∧ ¬ s.busy ∧ s.current.valid ∧ s.current.offline = 0, readyFlag)]
  snapshot := s.current
  transitionRequest := s.transition.request

/-- The part of `Observe` that correlates the observation with the pending request. -/
def correlate (snapshot : Snapshot) (valid : Bool) (now : UInt64) : Controller :=
  if s.pending ∧ ¬ s.unresolved then
    if s.responseDeadline < now ∨ (valid ∧ snapshot.scene ≠ s.transition.expected.scene) then
      { s with unresolved := true }
    else if valid ∧ snapshot.opened s.transitionVerb s.transition.building s.transition.vendor then
      { s with pending := false }
    else s
  else s

/-- `Observe`. -/
def observe (snapshot : Snapshot) (valid : Bool) (now : UInt64) : Controller :=
  let snapshot := { snapshot with revision := s.current.revision }
  if valid ∧ snapshot = s.current then
    { s with current := snapshot }.correlate snapshot valid now
  else if s.revision = uint64Max then { s with current := {}, unresolved := true }
  else
    let revision := s.revision + 1
    let snapshot := { snapshot with revision := revision }
    let current := if valid then snapshot else {}
    { s with revision := revision, current := current }.correlate snapshot valid now

/-- The refusals of a new request, in their order; a refused request is not recorded. -/
def refusal (e : Execution Verb Command) : Option Receipt :=
  let c := e.command
  if s.busy then some (s.receipt c .pending false)
  else if ¬ e.ready ∨ ¬ s.current.valid then some (s.receipt c .unavailable false)
  else if c.expected ≠ s.current then some (s.receipt c .stale true)
  else if 4096 ≤ s.records.items.length ∨ uint64Max - responseTimeoutMs < e.now then
    some (s.receipt c .exhausted false)
  else if ¬ e.memory then some (s.receipt c .unavailable false)
  else none

/-- The request is recorded and, unless its page is open already, put to the invoker. -/
def submit (e : Execution Verb Command) : Controller × Receipt × Bool :=
  let c := e.command
  let called := !s.current.opened e.verb c.building c.vendor
  let outcome := if called then e.answer else .observed
  let asked := { s with transition := c, transitionVerb := e.verb }
  let after :=
    if outcome = .submitted ∨ outcome = .uncertain then
      { asked with
        pending := true
        unresolved := outcome = .uncertain
        responseDeadline := e.now + responseTimeoutMs }
    else asked
  let receipt := after.receipt c outcome (outcome = .observed)
  ({ after with records := s.records.set c.request ⟨e.verb, c, receipt⟩ }, receipt, called)

/-- `Execute`. -/
def execute (e : Execution Verb Command) : Controller × Receipt × Bool :=
  let c := e.command
  if ¬ c.valid e.verb then (s, s.receipt c .invalid false, false)
  else if ¬ e.live then (s, s.receipt c .stale false, false)
  else if e.verb = .inspect then (s, s.receipt c .observed e.ready, false)
  else match s.records.get? c.request with
    | some prior =>
      if prior.verb ≠ e.verb ∨ prior.command ≠ c then (s, s.receipt c .invalid false, false)
      else (s, prior.receipt, false)
    | none =>
      match s.refusal e with
      | some receipt => (s, receipt, false)
      | none => s.submit e

end Controller

/-! ## Laws -/

structure Observation where
  snapshot : Snapshot
  valid : Bool
  now : UInt64

def desk : Desk Controller Observation Verb Command Receipt Entry where
  observe s o := s.observe o.snapshot o.valid o.now
  execute := Controller.execute
  records := Controller.records
  pending := Controller.pending
  unresolved := Controller.unresolved
  request := Command.request
  valid verb c := c.valid verb
  inspects verb := verb = .inspect
  content entry := (entry.verb, entry.command)
  receipt := Entry.receipt
  outcome := Receipt.outcome
  settled outcome := outcome ≠ .submitted ∧ outcome ≠ .uncertain

namespace Controller

variable {s : Controller} {e : Execution Verb Command}

theorem correlate_records (snapshot : Snapshot) (valid : Bool) (now : UInt64) :
    (s.correlate snapshot valid now).records = s.records := by
  unfold correlate
  split_ifs <;> rfl

theorem correlate_unresolved (snapshot : Snapshot) (valid : Bool) (now : UInt64)
    (h : s.unresolved = true) : (s.correlate snapshot valid now).unresolved = true := by
  unfold correlate
  rw [if_neg (by simp [h])]
  exact h

theorem observe_records (snapshot : Snapshot) (valid : Bool) (now : UInt64) :
    (s.observe snapshot valid now).records = s.records := by
  unfold observe
  dsimp only
  split_ifs <;> simp only [correlate_records]

theorem observe_unresolved (snapshot : Snapshot) (valid : Bool) (now : UInt64)
    (h : s.unresolved = true) : (s.observe snapshot valid now).unresolved = true := by
  unfold observe
  dsimp only
  split_ifs
  · exact correlate_unresolved _ _ _ h
  · rfl
  · exact correlate_unresolved _ _ _ h
  · exact correlate_unresolved _ _ _ h

theorem idle_of_refusal (h : s.refusal e = none) : s.pending = false ∧ s.unresolved = false := by
  unfold refusal at h
  dsimp only at h
  split at h
  case isTrue => cases h
  case isFalse hidle => simpa [busy] using hidle

/-- An execution that does not submit leaves the controller as it is, another submits a valid
request that is new and not refused. -/
theorem execute_cases :
    ((s.execute e).1 = s ∧ (s.execute e).2.2 = false) ∨
    (e.command.valid e.verb = true ∧ e.live = true ∧ e.verb ≠ .inspect) ∧
      s.records.get? e.command.request = none ∧ s.refusal e = none ∧ s.execute e = s.submit e := by
  unfold execute
  dsimp only
  split
  case isTrue => exact .inl ⟨rfl, rfl⟩
  case isFalse hvalid =>
    split
    case isTrue => exact .inl ⟨rfl, rfl⟩
    case isFalse hlive =>
      split
      case isTrue => exact .inl ⟨rfl, rfl⟩
      case isFalse hinspect =>
        split
        case h_1 => split <;> exact .inl ⟨rfl, rfl⟩
        case h_2 hnew =>
          split
          case h_1 => exact .inl ⟨rfl, rfl⟩
          case h_2 hrefusal =>
            exact .inr ⟨⟨not_not.1 hvalid, not_not.1 hlive, hinspect⟩, hnew, hrefusal, rfl⟩

/-- A recorded request is answered from its record, another with its key is invalid. -/
theorem execute_known {prior : Entry} (h : s.records.get? e.command.request = some prior)
    (hvalid : prior.command.valid prior.verb = true) (hlive : e.live = true)
    (hverb : e.verb ≠ .inspect) :
    s.execute e = (s, if prior.verb = e.verb ∧ prior.command = e.command then prior.receipt
      else s.receipt e.command .invalid false, false) := by
  unfold execute
  by_cases hc : e.command.valid e.verb = true
  · simp only [hc, hlive, hverb, h, not_true_eq_false, if_false]
    by_cases hsame : prior.verb = e.verb ∧ prior.command = e.command
    · rw [if_pos hsame, if_neg]
      rintro (hne | hne)
      · exact hne hsame.1
      · exact hne hsame.2
    · rw [if_neg hsame, if_pos (not_and_or.1 hsame)]
  · have hother : ¬ (prior.verb = e.verb ∧ prior.command = e.command) := by
      rintro ⟨hsame, hsame'⟩
      exact hc (hsame ▸ hsame' ▸ hvalid)
    simp only [hc, Bool.false_eq_true, not_false_eq_true, if_true, if_neg hother]

theorem submitted (hvalid : e.command.valid e.verb = true) (hlive : e.live = true)
    (hverb : e.verb ≠ .inspect) (hnew : s.records.get? e.command.request = none)
    (hrefusal : s.refusal e = none) :
    desk.Submitted s e (s.submit e).1 (s.submit e).2.1 (s.submit e).2.2 := by
  obtain ⟨hpending, hunresolved⟩ := idle_of_refusal hrefusal
  refine ⟨hvalid, hlive, decide_eq_false hverb, hnew, hpending, hunresolved, ⟨_, rfl, rfl, rfl⟩,
    fun hcalled => ?_, fun hcalled hopen => ?_⟩
  · change (s.submit e).2.2 = true at hcalled
    simp only [submit] at hcalled
    simp only [desk, submit, hcalled, if_true, receipt]
  · change (s.submit e).2.2 = true at hcalled
    simp only [submit] at hcalled
    have hanswer : e.answer = .submitted ∨ e.answer = .uncertain := by
      simp only [desk, decide_eq_false_iff_not, not_and_or, not_not] at hopen
      exact hopen
    left
    simp only [desk, submit, hcalled, if_true, hanswer]

end Controller

theorem desk_lawful : desk.Lawful where
  observe_records s o := s.observe_records o.snapshot o.valid o.now
  observe_unresolved s o h := s.observe_unresolved o.snapshot o.valid o.now h
  execute_cases s _ :=
    Desk.cases_of_eq s.execute_cases fun ⟨hvalid, hlive, hverb⟩ =>
      Controller.submitted hvalid hlive hverb
  execute_known _ _ _ h hvalid hlive hverb :=
    Desk.known_of_eq (Controller.execute_known h hvalid hlive (of_decide_eq_false hverb)) rfl

end ShadowbaneLab.Native.Navigation
