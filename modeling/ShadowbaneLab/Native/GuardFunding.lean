/-
# The native guard-funding controller

`src/native/wonderbane_extension/guard_funding_wire.h` and `guard_funding_controller.h`: opening
the quote of a transfer and moving gold between a warehouse, a purse and a structure.
-/
import ShadowbaneLab.Native.Desk

namespace ShadowbaneLab.Native.GuardFunding

open Foundation

/-! ## Wire -/

/-- `Key`. -/
abbrev Key : Type := UInt32 × UInt32

inductive Verb
  | inspect
  | transfer
  | openQuote
deriving DecidableEq

/-- The fields of `Direction`: from the warehouse (1) or to the structure (2). -/
def directionValid (direction : UInt32) : Bool := direction = 1 ∨ direction = 2

structure Snapshot where
  scene : UInt64 := 0
  revision : UInt64 := 0
  root : UInt32 := 0
  actor : UInt32 := 0
  character : Key := (0, 0)
  manager : UInt32 := 0
  hud : UInt32 := 0
  sourceObject : UInt32 := 0
  source : Key := (0, 0)
  direction : UInt32 := 0
  resource : UInt32 := 0
  balance : UInt32 := 0
  reserve : UInt32 := 0
  purse : UInt32 := 0
  quote : UInt32 := 0
  limit : UInt32 := 0
  entered : UInt32 := 0
  accept : UInt32 := 0
  cancel : UInt32 := 0
  helper : UInt32 := 0
deriving DecidableEq

structure Command where
  host : Host := {}
  window : UInt64 := 0
  request : RequestKey := .replicate 16 0
  expected : Snapshot := {}
  direction : UInt32 := 0
  amount : UInt32 := 0
  reserved : Vector UInt8 432 := .replicate 432 0
deriving DecidableEq

/-- `wire::Receipt` without its reserved bytes, which stay zero. -/
structure Receipt where
  request : RequestKey
  host : Host
  window : UInt64
  outcome : Outcome
  flags : UInt32
  snapshot : Snapshot
  transitionRequest : RequestKey
  signature : UInt32 := 0x57424631
deriving DecidableEq

/-- The words of a snapshot, in the order of its fields. -/
def Snapshot.words (s : Snapshot) : List Word :=
  [.of64 s.scene, .of64 s.revision, .of32 s.root, .of32 s.actor, .of32 s.character.1,
    .of32 s.character.2, .of32 s.manager, .of32 s.hud, .of32 s.sourceObject, .of32 s.source.1,
    .of32 s.source.2, .of32 s.direction, .of32 s.resource, .of32 s.balance, .of32 s.reserve,
    .of32 s.purse, .of32 s.quote, .of32 s.limit, .of32 s.entered, .of32 s.accept, .of32 s.cancel,
    .of32 s.helper]

/-- The bytes of a snapshot. -/
def Snapshot.bytes (s : Snapshot) : Bytes := packed s.words

theorem Snapshot.length_bytes (s : Snapshot) : s.bytes.length = 96 := by
  simp [bytes, length_packed, words]

/-- The bytes of a command. -/
def Command.bytes (c : Command) : Bytes :=
  c.host.bytes ++ ((Word.of64 c.window).bytes ++ (c.request.toList ++ (c.expected.bytes ++
    ((Word.of32 c.direction).bytes ++ ((Word.of32 c.amount).bytes ++ c.reserved.toList)))))

/-- The bytes of a receipt. -/
def Receipt.bytes (r : Receipt) : Bytes :=
  receiptBytes r.request r.host r.window r.outcome r.flags r.snapshot.bytes r.transitionRequest
    r.signature 220

/-- `INT32_MAX`. -/
def int32Max : UInt32 := 0x7fffffff

namespace Snapshot

variable (s : Snapshot)

/-- The balance above the reserve. -/
def available : UInt32 := if s.reserve < s.balance then s.balance - s.reserve else 0

/-- `ValidSnapshot`. -/
def valid : Bool :=
  (s.scene ≠ 0 ∧ s.revision ≠ 0 ∧ s.root ≠ 0 ∧ s.actor ≠ 0 ∧ s.character.1 ≠ 0 ∧
    s.character.2 ≠ 0 ∧ s.manager ≠ 0 ∧ s.hud ≠ 0 ∧ s.source.1 ≠ 0 ∧ directionValid s.direction ∧
    s.balance ≤ int32Max ∧ s.reserve ≤ int32Max ∧ s.purse ≤ int32Max) ∧
  (if s.direction = 1 then s.sourceObject ≠ 0 ∧ s.source.2 = 42 ∧ s.resource ≠ 0
    else s.sourceObject = 0 ∧ s.source.2 = 8 ∧ s.resource = 0 ∧ s.reserve = 0) ∧
  if s.quote = 0 then
    s.limit = 0 ∧ s.entered = 0 ∧ s.accept = 0 ∧ s.cancel = 0 ∧ s.helper = 0
  else
    (s.quote ≠ s.hud ∧ s.accept ≠ 0 ∧ s.cancel ≠ 0 ∧ s.helper ≠ 0 ∧ s.accept ≠ s.cancel ∧
      s.accept ≠ s.helper ∧ s.cancel ≠ s.helper ∧ s.limit ≤ int32Max ∧ s.entered ≤ s.limit) ∧
    s.limit = if s.direction = 1 then s.available else s.purse

/-- `Eligible`. -/
def eligible (amount : UInt32) : Bool :=
  s.valid ∧ s.quote ≠ 0 ∧ amount ≠ 0 ∧ amount ≤ s.limit ∧
    if s.direction = 1 then amount ≤ int32Max - s.purse else amount ≤ int32Max - s.balance

/-- `EligibleOpen`. -/
def eligibleOpen : Bool :=
  s.valid ∧ s.quote = 0 ∧
    if s.direction = 1 then s.reserve < s.balance ∧ s.purse < int32Max
    else s.purse ≠ 0 ∧ s.balance < int32Max

/-- `SameOwner`. -/
def sameOwner (a b : Snapshot) : Bool :=
  a.scene = b.scene ∧ a.root = b.root ∧ a.actor = b.actor ∧ a.character = b.character ∧
    a.manager = b.manager ∧ a.hud = b.hud ∧ a.sourceObject = b.sourceObject ∧
    a.source = b.source ∧ a.direction = b.direction ∧ a.resource = b.resource

end Snapshot

namespace Command

variable (c : Command)

/-- The balance after the transfer. -/
def balanceAfter (direction : UInt32) : UInt32 :=
  if direction = 1 then c.expected.balance - c.amount else c.expected.balance + c.amount

/-- The purse after the transfer. -/
def purseAfter (direction : UInt32) : UInt32 :=
  if direction = 1 then c.expected.purse + c.amount else c.expected.purse - c.amount

/-- `Confirmed`. -/
def confirmed (s : Snapshot) : Bool :=
  s.valid ∧ c.expected.sameOwner s ∧ s.reserve = c.expected.reserve ∧ s.quote = 0 ∧
    s.balance = c.balanceAfter c.direction ∧ s.purse = c.purseAfter c.direction

/-- `Opened`. -/
def opened (s : Snapshot) : Bool :=
  s.valid ∧ c.expected.sameOwner s ∧ s.quote ≠ 0 ∧ s.balance = c.expected.balance ∧
    s.purse = c.expected.purse ∧ s.reserve = c.expected.reserve

/-- `Valid`. -/
def valid (verb : Verb) : Bool :=
  (c.host.valid ∧ c.window ≠ 0 ∧ c.window ≤ 0xFFFFFFFF ∧ directionValid c.direction ∧
    ¬ isZero c.request ∧ isZero c.reserved) ∧
    if verb = .inspect then c.amount = 0 ∧ c.expected = {}
    else if verb = .openQuote then
      c.amount = 0 ∧ c.direction = c.expected.direction ∧ c.expected.eligibleOpen
    else c.direction = c.expected.direction ∧ c.expected.eligible c.amount

end Command

/-! ## Controller -/

/-- `Record`. -/
structure Entry where
  command : Command
  receipt : Receipt

/-- The controller; `current_` has one snapshot for each direction. -/
structure Controller where
  records : Dict RequestKey Entry := .empty
  fromWarehouse : Snapshot := {}
  toStructure : Snapshot := {}
  revision : UInt64 := 0
  deadline : UInt64 := 0
  transition : Command := {}
  transitionVerb : Verb := .transfer
  pending : Bool := false
  unresolved : Bool := false

namespace Controller

variable (s : Controller)

/-- `current_[direction - 1]`, for a valid direction. -/
def current (direction : UInt32) : Snapshot :=
  if direction = 1 then s.fromWarehouse else s.toStructure

def setCurrent (direction : UInt32) (snapshot : Snapshot) : Controller :=
  if direction = 1 then { s with fromWarehouse := snapshot } else { s with toStructure := snapshot }

/-- `Busy`. -/
def busy : Bool := s.pending ∨ s.unresolved

/-- `Receipt`. -/
def receipt (c : Command) (outcome : Outcome) (ready : Bool) : Receipt :=
  let snapshot := if directionValid c.direction then s.current c.direction else {}
  { request := c.request
    host := c.host
    window := c.window
    outcome := outcome
    flags := flagsOf [(s.pending, inFlightFlag), (s.unresolved, unresolvedFlag),
      (ready ∧ ¬ s.busy ∧ snapshot.valid, readyFlag)]
    snapshot := snapshot
    transitionRequest := s.transition.request }

/-- `NeedsObservation`. -/
def needsObservation (direction : UInt32) : Bool :=
  s.pending ∧ ¬ s.unresolved ∧ s.transition.direction = direction

/-- The part of `Observe` that correlates the observation with the pending request. -/
def correlate (direction : UInt32) (snapshot : Snapshot) (valid : Bool) (now : UInt64) :
    Controller :=
  let before := s.transition.expected
  let doubt := { s with unresolved := true }
  if ¬ s.needsObservation direction then s
  else if s.deadline < now ∨
      (valid ∧ (¬ before.sameOwner snapshot ∨ before.reserve ≠ snapshot.reserve)) then doubt
  else if ¬ valid then s
  else if s.transitionVerb = .openQuote then
    if snapshot.balance ≠ before.balance ∨ snapshot.purse ≠ before.purse then doubt
    else if s.transition.opened snapshot then { s with pending := false }
    else s
  else
    let balance := s.transition.balanceAfter direction
    let purse := s.transition.purseAfter direction
    if (snapshot.balance ≠ before.balance ∧ snapshot.balance ≠ balance) ∨
        (snapshot.purse ≠ before.purse ∧ snapshot.purse ≠ purse) then doubt
    else if s.transition.confirmed snapshot then { s with pending := false }
    else s

/-- `Observe`. -/
def observe (direction : UInt32) (snapshot : Snapshot) (valid : Bool) (now : UInt64) :
    Controller :=
  if ¬ directionValid direction then s
  else
    let snapshot := { snapshot with revision := (s.current direction).revision }
    if valid ∧ snapshot = s.current direction then
      let current := if snapshot.direction = direction then snapshot else {}
      (s.setCurrent direction current).correlate direction snapshot valid now
    else if s.revision = uint64Max then { s.setCurrent direction {} with unresolved := true }
    else
      let revision := s.revision + 1
      let snapshot := { snapshot with revision := revision }
      let current := if valid ∧ snapshot.direction = direction then snapshot else {}
      { s.setCurrent direction current with revision := revision }.correlate direction snapshot
        valid now

/-- The refusals of a new request, in their order; a refused request is not recorded. -/
def refusal (e : Execution Verb Command) : Option Receipt :=
  let c := e.command
  let current := s.current c.direction
  if s.busy then some (s.receipt c .pending false)
  else if ¬ e.ready ∨ ¬ current.valid then some (s.receipt c .unavailable false)
  else if c.expected ≠ current then some (s.receipt c .stale true)
  else if if e.verb = .transfer then ¬ current.eligible c.amount else ¬ current.eligibleOpen then
    some (s.receipt c .invalid true)
  else if 4096 ≤ s.records.items.length ∨ uint64Max - 15000 < e.now then
    some (s.receipt c .exhausted false)
  else if ¬ e.memory then some (s.receipt c .unavailable false)
  else none

/-- The request is recorded and put to the invoker. -/
def submit (e : Execution Verb Command) : Controller × Receipt × Bool :=
  let c := e.command
  let asked := { s with
    transition := c, transitionVerb := e.verb, pending := true, deadline := e.now + 15000 }
  let after :=
    if e.answer.refused then { asked with pending := false }
    else if e.answer ≠ .submitted then { asked with unresolved := true }
    else asked
  let receipt := after.receipt c e.answer false
  ({ after with records := s.records.set c.request ⟨c, receipt⟩ }, receipt, true)

/-- `Execute`. -/
def execute (e : Execution Verb Command) : Controller × Receipt × Bool :=
  let c := e.command
  if ¬ c.valid e.verb then (s, s.receipt c .invalid false, false)
  else if ¬ e.live then (s, s.receipt c .stale false, false)
  else if e.verb = .inspect then (s, s.receipt c .observed e.ready, false)
  else match s.records.get? c.request with
    | some prior =>
      if prior.command ≠ c then (s, s.receipt c .invalid false, false)
      else (s, prior.receipt, false)
    | none =>
      match s.refusal e with
      | some receipt => (s, receipt, false)
      | none => s.submit e

end Controller

/-! ## Laws -/

structure Observation where
  direction : UInt32
  snapshot : Snapshot
  valid : Bool
  now : UInt64

/-- The verb that a recorded command was for: only an opened quote moves nothing. -/
def Command.verb (c : Command) : Verb := if c.amount = 0 then .openQuote else .transfer

def desk : Desk Controller Observation Verb Command Receipt Entry where
  observe s o := s.observe o.direction o.snapshot o.valid o.now
  execute := Controller.execute
  records := Controller.records
  pending := Controller.pending
  unresolved := Controller.unresolved
  request := Command.request
  valid verb c := c.valid verb
  inspects verb := verb = .inspect
  content entry := (entry.command.verb, entry.command)
  receipt := Entry.receipt
  outcome := Receipt.outcome
  settled := Outcome.refused

namespace Controller

variable {s : Controller} {e : Execution Verb Command}

/-- The pending request of the first is left alone, or ended, in the second. -/
structure Kept (s s' : Controller) : Prop where
  records : s'.records = s.records
  transition : s'.transition = s.transition
  transitionVerb : s'.transitionVerb = s.transitionVerb
  pending : s'.pending = true → s.pending = true
  unresolved : s.unresolved = true → s'.unresolved = true

theorem Kept.setCurrent (direction : UInt32) (snapshot : Snapshot) :
    Kept s (s.setCurrent direction snapshot) := by
  unfold Controller.setCurrent
  split <;> exact ⟨rfl, rfl, rfl, id, id⟩

theorem Kept.correlate {s' : Controller} (h : Kept s s') (direction : UInt32) (snapshot : Snapshot)
    (valid : Bool) (now : UInt64) : Kept s (s'.correlate direction snapshot valid now) := by
  have hdoubt : Kept s { s' with unresolved := true } :=
    ⟨h.records, h.transition, h.transitionVerb, h.pending, fun _ => rfl⟩
  have hended : Kept s { s' with pending := false } :=
    ⟨h.records, h.transition, h.transitionVerb, fun hf => absurd hf Bool.false_ne_true,
      h.unresolved⟩
  unfold Controller.correlate
  dsimp only
  split_ifs <;> assumption

theorem kept_observe (direction : UInt32) (snapshot : Snapshot) (valid : Bool) (now : UInt64) :
    Kept s (s.observe direction snapshot valid now) := by
  unfold observe
  dsimp only
  split
  case isTrue => exact ⟨rfl, rfl, rfl, id, id⟩
  case isFalse =>
    split
    case isTrue => exact (Kept.setCurrent _ _).correlate _ _ _ _
    case isFalse =>
      split
      case isTrue =>
        have hset := Kept.setCurrent (s := s) direction {}
        exact ⟨hset.records, hset.transition, hset.transitionVerb, hset.pending, fun _ => rfl⟩
      case isFalse =>
        refine Kept.correlate ?_ _ _ _ _
        have hset (current : Snapshot) := Kept.setCurrent (s := s) direction current
        exact ⟨(hset _).records, (hset _).transition, (hset _).transitionVerb, (hset _).pending,
          (hset _).unresolved⟩

theorem idle_of_refusal (h : s.refusal e = none) : s.pending = false ∧ s.unresolved = false := by
  unfold refusal at h
  dsimp only at h
  split at h
  case isTrue => cases h
  case isFalse hidle => simpa [busy] using hidle

/-- An execution that does not submit leaves the controller as it is, another submits a valid
request that is new and not refused. -/
theorem execute_cases :
    ((s.execute e).1 = s ∧ (s.execute e).2.2 = false) ∨
    (e.command.valid e.verb = true ∧ e.live = true ∧ e.verb ≠ .inspect) ∧
      s.records.get? e.command.request = none ∧ s.refusal e = none ∧ s.execute e = s.submit e := by
  unfold execute
  dsimp only
  split
  case isTrue => exact .inl ⟨rfl, rfl⟩
  case isFalse hvalid =>
    split
    case isTrue => exact .inl ⟨rfl, rfl⟩
    case isFalse hlive =>
      split
      case isTrue => exact .inl ⟨rfl, rfl⟩
      case isFalse hinspect =>
        split
        case h_1 => split <;> exact .inl ⟨rfl, rfl⟩
        case h_2 hnew =>
          split
          case h_1 => exact .inl ⟨rfl, rfl⟩
          case h_2 hrefusal =>
            exact .inr ⟨⟨not_not.1 hvalid, not_not.1 hlive, hinspect⟩, hnew, hrefusal, rfl⟩

/-- The same bytes are valid for one spending verb only. -/
theorem verb_of_valid {c : Command} {verb : Verb} (h : c.valid verb = true)
    (hverb : verb ≠ .inspect) : c.verb = verb := by
  simp only [Command.valid, Snapshot.eligible, decide_eq_true_eq, if_neg hverb] at h
  rw [Command.verb]
  split at h
  case isTrue hquote => rw [if_pos h.2.1, hquote]
  case isFalse hquote =>
    rw [if_neg h.2.2.2.2.1]
    cases verb with
    | inspect => exact absurd rfl hverb
    | transfer => rfl
    | openQuote => exact absurd rfl hquote

/-- A recorded request is answered from its record, another with its key is invalid. -/
theorem execute_known {prior : Entry} (h : s.records.get? e.command.request = some prior)
    (hvalid : prior.command.valid prior.command.verb = true) (hlive : e.live = true)
    (hverb : e.verb ≠ .inspect) :
    s.execute e = (s, if prior.command.verb = e.verb ∧ prior.command = e.command then prior.receipt
      else s.receipt e.command .invalid false, false) := by
  unfold execute
  by_cases hc : e.command.valid e.verb = true
  · simp only [hc, hlive, hverb, h, not_true_eq_false, if_false]
    by_cases hsame : prior.command = e.command
    · rw [if_neg (not_not.2 hsame), if_pos ⟨hsame.symm ▸ verb_of_valid hc hverb, hsame⟩]
    · rw [if_pos hsame, if_neg fun hboth => hsame hboth.2]
  · have hother : ¬ (prior.command.verb = e.verb ∧ prior.command = e.command) := by
      rintro ⟨hsame, hsame'⟩
      exact hc (hsame ▸ hsame' ▸ hvalid)
    simp only [hc, Bool.false_eq_true, not_false_eq_true, if_true, if_neg hother]

theorem submitted (hvalid : e.command.valid e.verb = true) (hlive : e.live = true)
    (hverb : e.verb ≠ .inspect) (hnew : s.records.get? e.command.request = none)
    (hrefusal : s.refusal e = none) :
    desk.Submitted s e (s.submit e).1 (s.submit e).2.1 (s.submit e).2.2 := by
  obtain ⟨hpending, hunresolved⟩ := idle_of_refusal hrefusal
  refine ⟨hvalid, hlive, decide_eq_false hverb, hnew, hpending, hunresolved,
    ⟨_, rfl, Prod.ext (verb_of_valid hvalid hverb) rfl, rfl⟩, fun _ => rfl, fun _ hopen => ?_⟩
  have hopen : e.answer.refused = false := hopen
  simp only [desk, submit, hopen, Bool.false_eq_true, if_false]
  by_cases hsubmitted : e.answer ≠ .submitted
  · rw [if_pos hsubmitted]
    exact .inr rfl
  · rw [if_neg hsubmitted]
    exact .inl rfl

end Controller

theorem desk_lawful : desk.Lawful where
  observe_records s o := (s.kept_observe o.direction o.snapshot o.valid o.now).records
  observe_unresolved s o := (s.kept_observe o.direction o.snapshot o.valid o.now).unresolved
  execute_cases s _ :=
    Desk.cases_of_eq s.execute_cases fun ⟨hvalid, hlive, hverb⟩ =>
      Controller.submitted hvalid hlive hverb
  execute_known _ _ _ h hvalid hlive hverb :=
    Desk.known_of_eq (Controller.execute_known h hvalid hlive (of_decide_eq_false hverb)) rfl

/-! ## Arithmetic -/

/-- The balance and the purse after the transfer are computed without wrapping. -/
def Command.Unwrapped (c : Command) : Prop :=
  if c.direction = 1 then
    (c.balanceAfter c.direction).toNat + c.amount.toNat = c.expected.balance.toNat ∧
      (c.purseAfter c.direction).toNat = c.expected.purse.toNat + c.amount.toNat
  else
    (c.balanceAfter c.direction).toNat = c.expected.balance.toNat + c.amount.toNat ∧
      (c.purseAfter c.direction).toNat + c.amount.toNat = c.expected.purse.toNat

/-- What the checks of a snapshot subtract is not more than what they subtract it from. -/
theorem Snapshot.unwrapped_of_valid {s : Snapshot} (h : s.valid = true) :
    (int32Max - s.purse).toNat + s.purse.toNat = int32Max.toNat ∧
      (int32Max - s.balance).toNat + s.balance.toNat = int32Max.toNat ∧
      s.available.toNat = s.balance.toNat - s.reserve.toNat := by
  simp only [valid, decide_eq_true_eq] at h
  obtain ⟨⟨-, -, -, -, -, -, -, -, -, -, hbalance, -, hpurse⟩, -⟩ := h
  have hsub := UInt32.toNat_sub_of_le _ _ hpurse
  have hsub' := UInt32.toNat_sub_of_le _ _ hbalance
  have hpurse : s.purse.toNat ≤ int32Max.toNat := hpurse
  have hbalance : s.balance.toNat ≤ int32Max.toNat := hbalance
  refine ⟨by omega, by omega, ?_⟩
  rw [available]
  split
  case isTrue hmore =>
    have hless : s.reserve ≤ s.balance := UInt32.le_of_lt hmore
    exact UInt32.toNat_sub_of_le _ _ hless
  case isFalse hmore =>
    have hless : s.balance.toNat ≤ s.reserve.toNat := UInt32.not_lt.1 hmore
    rw [Nat.sub_eq_zero_of_le hless]
    rfl

theorem toNat_add_of_le {a b : UInt32} (h : b.toNat + a.toNat ≤ int32Max.toNat) :
    (a + b).toNat = a.toNat + b.toNat := by
  have hmax : int32Max.toNat = 2147483647 := rfl
  rw [UInt32.toNat_add]
  change (a.toNat + b.toNat) % 4294967296 = _
  omega

theorem Command.unwrapped_of_eligible {c : Command} (hdirection : c.direction = c.expected.direction)
    (h : c.expected.eligible c.amount = true) : c.Unwrapped := by
  simp only [Snapshot.eligible, decide_eq_true_eq] at h
  obtain ⟨hvalid, hquote, -, hlimit, hroom⟩ := h
  obtain ⟨hpurse, hbalance, havailable⟩ := Snapshot.unwrapped_of_valid hvalid
  simp only [Snapshot.valid, decide_eq_true_eq, if_neg hquote] at hvalid
  obtain ⟨-, -, -, hbound⟩ := hvalid
  have hlimit : c.amount.toNat ≤ c.expected.limit.toNat := hlimit
  rw [hbound] at hlimit
  rw [Unwrapped, balanceAfter, purseAfter, hdirection]
  by_cases hone : c.expected.direction = 1
  · rw [if_pos hone] at hroom hlimit
    rw [if_pos hone, if_pos hone, if_pos hone]
    have hroom : c.amount.toNat ≤ (int32Max - c.expected.purse).toNat := hroom
    have henough : c.amount.toNat ≤ c.expected.balance.toNat := by omega
    have hsub := UInt32.toNat_sub_of_le _ _ (UInt32.le_iff_toNat_le.2 henough)
    exact ⟨by omega, toNat_add_of_le (by omega)⟩
  · rw [if_neg hone] at hroom hlimit
    rw [if_neg hone, if_neg hone, if_neg hone]
    have hroom : c.amount.toNat ≤ (int32Max - c.expected.balance).toNat := hroom
    have hsub := UInt32.toNat_sub_of_le _ _ (UInt32.le_iff_toNat_le.2 hlimit)
    exact ⟨toNat_add_of_le (by omega), by omega⟩

/-- The pending request was valid. -/
def Funded (s : Controller) : Prop := s.pending = true →
  s.transitionVerb ≠ .inspect ∧ s.transition.valid s.transitionVerb = true

theorem funded_next {s : Controller} {i : Input Observation Verb Command} (hs : Funded s) :
    Funded (desk.ledger.next s i) := by
  cases i with
  | observe o =>
    have hkept := s.kept_observe o.direction o.snapshot o.valid o.now
    intro hpending
    change (s.observe _ _ _ _).transitionVerb ≠ .inspect ∧
      (s.observe _ _ _ _).transition.valid (s.observe _ _ _ _).transitionVerb = true
    rw [hkept.transition, hkept.transitionVerb]
    exact hs (hkept.pending hpending)
  | execute e =>
    change Funded (s.execute e).1
    rcases s.execute_cases (e := e) with ⟨hsame, -⟩ | ⟨⟨hvalid, -, hverb⟩, -, -, hexecute⟩
    · rw [hsame]
      exact hs
    · intro _
      have htransition : (s.submit e).1.transition = e.command := by
        simp only [Controller.submit]
        split_ifs <;> rfl
      have htransitionVerb : (s.submit e).1.transitionVerb = e.verb := by
        simp only [Controller.submit]
        split_ifs <;> rfl
      rw [hexecute, htransition, htransitionVerb]
      exact ⟨hverb, hvalid⟩

/-- While a transfer is pending, in every run, its sums do not wrap. -/
theorem unwrapped (is : List (Input Observation Verb Command)) :
    ∀ x ∈ met desk.ledger.next {} is, x.1.pending = true → x.1.transitionVerb = .transfer →
      x.1.transition.Unwrapped := by
  have hstart : Funded {} := fun h => absurd h Bool.false_ne_true
  intro x hx hpending htransfer
  obtain ⟨-, hvalid⟩ := invariant_of_mem_met funded_next hstart x hx hpending
  simp only [htransfer, Command.valid, reduceCtorEq, if_false, decide_eq_true_eq] at hvalid
  exact Command.unwrapped_of_eligible hvalid.2.1 hvalid.2.2

end ShadowbaneLab.Native.GuardFunding
