/-
# The native guard-upgrade controller

`src/native/wonderbane_extension/guard_upgrade_wire.h`, `guard_upgrade_response.h` and
`guard_upgrade_controller.h`: paying for a guard's next rank, and reopening the guard's page when
the server's answer closed it.
-/
import ShadowbaneLab.Native.Navigation

namespace ShadowbaneLab.Native.GuardUpgrade

open Foundation

/-! ## Wire -/

inductive Verb
  | inspect
  | upgrade
deriving DecidableEq

structure Snapshot where
  navigation : Navigation.Snapshot := {}
  rank : UInt32 := 0
  cost : UInt32 := 0
  funds : UInt32 := 0
  upgrading : UInt32 := 0
  canUpgrade : UInt32 := 0
  controlFlags : UInt32 := 0
  upgradeControl : UInt32 := 0
  progressControl : UInt32 := 0
deriving DecidableEq

structure Command where
  host : Host := {}
  window : UInt64 := 0
  request : RequestKey := .replicate 16 0
  expected : Snapshot := {}
  reserved : Vector UInt8 408 := .replicate 408 0
deriving DecidableEq

/-- `wire::Receipt` without its reserved bytes, which stay zero. -/
structure Receipt where
  request : RequestKey
  host : Host
  window : UInt64
  outcome : Outcome
  flags : UInt32
  snapshot : Snapshot
  transitionRequest : RequestKey
  signature : UInt32 := 0x57424733
deriving DecidableEq

/-- The words of a snapshot after its navigation. -/
def Snapshot.words (s : Snapshot) : List Word :=
  [.of32 s.rank, .of32 s.cost, .of32 s.funds, .of32 s.upgrading, .of32 s.canUpgrade,
    .of32 s.controlFlags, .of32 s.upgradeControl, .of32 s.progressControl]

/-- The bytes of a snapshot. -/
def Snapshot.bytes (s : Snapshot) : Bytes := s.navigation.bytes ++ packed s.words

theorem Snapshot.length_bytes (s : Snapshot) : s.bytes.length = 128 := by
  simp [bytes, Navigation.Snapshot.length_bytes, length_packed, words]

/-- The bytes of a command. -/
def Command.bytes (c : Command) : Bytes :=
  c.host.bytes ++ ((Word.of64 c.window).bytes ++ (c.request.toList ++ (c.expected.bytes ++
    c.reserved.toList)))

/-- The bytes of a receipt. -/
def Receipt.bytes (r : Receipt) : Bytes :=
  receiptBytes r.request r.host r.window r.outcome r.flags r.snapshot.bytes r.transitionRequest
    r.signature 188

/-- `reopened`. -/
def reopenedFlag : UInt32 := 8

/-- `INT32_MAX`. -/
def int32Max : UInt32 := 0x7fffffff

/-- `ReturnSnapshot`: the building page that the server's answer left open. -/
structure ReturnSnapshot where
  navigation : Navigation.Snapshot := {}
  guard : Navigation.Key := (0, 0)
  rank : UInt32 := 0
  funds : UInt32 := 0
deriving DecidableEq

namespace Snapshot

/-- `ValidSnapshot`. -/
def valid (s : Snapshot) : Bool :=
  (s.navigation.valid ∧ s.navigation.offline = 0 ∧ s.navigation.visible = 3 ∧
    Navigation.typed s.navigation.vendor 37) ∧
  (s.rank ≠ 0 ∧ s.rank < 0xFFFFFFFF) ∧ s.cost ≤ int32Max ∧ s.funds ≤ int32Max ∧
  s.upgrading ≤ 1 ∧ s.canUpgrade ≤ 1 ∧ s.controlFlags ≤ 7 ∧ s.upgradeControl ≠ 0 ∧
  s.progressControl ≠ 0 ∧ s.upgradeControl ≠ s.progressControl

/-- `Eligible`. -/
def eligible (s : Snapshot) : Bool :=
  s.valid ∧ s.upgrading = 0 ∧ s.canUpgrade ≠ 0 ∧ s.cost ≠ 0 ∧ s.cost ≤ s.funds ∧ s.controlFlags = 3

/-- `SameGuard`. -/
def sameGuard (a b : Snapshot) : Bool :=
  let x := a.navigation
  let y := b.navigation
  x.scene = y.scene ∧ x.root = y.root ∧ x.manager = y.manager ∧ x.building = y.building ∧
    x.vendor = y.vendor

/-- `SameOwner`. -/
def sameOwner (a b : Snapshot) : Bool :=
  let x := a.navigation
  let y := b.navigation
  x.scene = y.scene ∧ x.root = y.root ∧ x.manager = y.manager ∧ x.buildingHud = y.buildingHud ∧
    x.vendorHud = y.vendorHud ∧ x.selectedEntry = y.selectedEntry ∧ x.building = y.building ∧
    x.vendor = y.vendor ∧ a.upgradeControl = b.upgradeControl ∧
    a.progressControl = b.progressControl

/-- `s.control_flags & bit`. -/
def control (s : Snapshot) (bit : UInt32) : Bool := s.controlFlags &&& bit ≠ 0

/-- The rank went up, or its progress is shown. -/
def advanced (before after : Snapshot) : Bool :=
  (after.rank = before.rank ∧ after.upgrading ≠ 0 ∧ after.control 4) ∨ after.rank = before.rank + 1

/-- `ConfirmedGuardResponse`. -/
def confirmedGuardResponse (before after : Snapshot) : Bool :=
  let a := before.navigation
  let b := after.navigation
  before.eligible ∧ after.valid ∧ before.sameGuard after ∧ a.frontHud = a.vendorHud ∧
    b.frontHud = b.vendorHud ∧ b.mode = 6 ∧ after.cost = before.cost ∧
    after.funds = before.funds - before.cost ∧ before.advanced after

/-- `CanReopen`. -/
def canReopen (before : Snapshot) (returned : ReturnSnapshot) : Bool :=
  let a := before.navigation
  let b := returned.navigation
  before.eligible ∧ b.valid ∧ b.offline = 0 ∧ b.visible = 1 ∧ b.vendorHud = 0 ∧
    b.frontHud = b.buildingHud ∧ a.scene = b.scene ∧ a.root = b.root ∧ a.manager = b.manager ∧
    a.building = b.building ∧ returned.guard = a.vendor ∧
    returned.funds = before.funds - before.cost ∧
    (returned.rank = before.rank ∨ returned.rank = before.rank + 1)

end Snapshot

/-- `Valid`. -/
def Command.valid (verb : Verb) (c : Command) : Bool :=
  (c.host.valid ∧ c.window ≠ 0 ∧ c.window ≤ 0xFFFFFFFF ∧ ¬ isZero c.request ∧ isZero c.reserved) ∧
    if verb = .inspect then c.expected = {} else c.expected.eligible

/-! ## Controller -/

/-- `Record`. -/
structure Entry where
  command : Command
  receipt : Receipt

/-- `kMaxReopens`. -/
def maxReopens : ℕ := 3

/-- `kReopenInterval`. -/
def reopenInterval : UInt64 := 2000

/-- A call of the invoker. -/
inductive Call
  | upgrade (expected : Snapshot)
  | reopen (expected : Snapshot) (returned : ReturnSnapshot)
deriving DecidableEq

structure Controller where
  records : Dict RequestKey Entry := .empty
  current : Snapshot := {}
  revision : UInt64 := 0
  deadline : UInt64 := 0
  transition : Command := {}
  pending : Bool := false
  unresolved : Bool := false
  returnValid : Bool := false
  reopened : Bool := false
  reopenAttempts : ℕ := 0
  lastReopen : UInt64 := 0
  returned : ReturnSnapshot := {}
  reopenedBuildingHud : UInt32 := 0

namespace Controller

variable (s : Controller)

/-- `Busy`. -/
def busy : Bool := s.pending ∨ s.unresolved

/-- `Receipt`. -/
def receipt (c : Command) (outcome : Outcome) (ready : Bool) : Receipt where
  request := c.request
  host := c.host
  window := c.window
  outcome := outcome
  flags := flagsOf [(s.pending, inFlightFlag), (s.unresolved, unresolvedFlag),
    (s.reopened, reopenedFlag), (ready ∧ ¬ s.busy ∧ s.current.valid, readyFlag)]
  snapshot := s.current
  transitionRequest := s.transition.request

/-- `PendingReturn` is not null. -/
def pendingReturn : Bool := s.pending ∧ ¬ s.unresolved ∧ s.reopenAttempts < maxReopens

/-- `ObserveReturn`. -/
def observeReturn (snapshot : ReturnSnapshot) (valid : Bool) : Controller :=
  let returnValid : Bool := s.pendingReturn ∧ valid ∧ s.transition.expected.canReopen snapshot ∧
    (¬ s.reopened ∨ snapshot.navigation.buildingHud = s.reopenedBuildingHud)
  { s with returnValid := returnValid, returned := if returnValid then snapshot else {} }

/-- The observation is of the guard that the pending request was made for. -/
def sameTransition (snapshot : Snapshot) : Bool :=
  let before := s.transition.expected
  if s.reopened then
    before.sameGuard snapshot ∧ snapshot.navigation.buildingHud = s.reopenedBuildingHud ∧
      snapshot.navigation.frontHud = snapshot.navigation.vendorHud
  else before.sameOwner snapshot ∨ before.confirmedGuardResponse snapshot

/-- The part of `Observe` that correlates the observation with the pending request. -/
def correlate (snapshot : Snapshot) (valid : Bool) (now : UInt64) : Controller :=
  let before := s.transition.expected
  if ¬ s.pending ∨ s.unresolved then s
  else if s.deadline < now ∨ (valid ∧ ¬ s.sameTransition snapshot) then { s with unresolved := true }
  -- a brief missing response does not prove failure
  else if ¬ valid then s
  else if snapshot.rank < before.rank ∨ before.rank + 1 < snapshot.rank ∨
      (snapshot.funds ≠ before.funds ∧ snapshot.funds ≠ before.funds - before.cost) then
    { s with unresolved := true }
  -- neither the debit nor the progress alone confirms spending
  else if snapshot.funds = before.funds - before.cost ∧ before.advanced snapshot then
    { s with pending := false }
  else s

/-- `Observe`. -/
def observe (snapshot : Snapshot) (valid : Bool) (now : UInt64) : Controller :=
  let snapshot := { snapshot with navigation.revision := s.current.navigation.revision }
  if valid ∧ snapshot = s.current then
    { s with current := snapshot }.correlate snapshot valid now
  else if s.revision = uint64Max then { s with current := {}, unresolved := true }
  else
    let revision := s.revision + 1
    let snapshot := { snapshot with navigation.revision := revision }
    let current := if valid then snapshot else {}
    { s with revision := revision, current := current }.correlate snapshot valid now

/-- An inspection by the pending request's own producer may reopen the guard's page now. -/
def mayReopen (c : Command) (now : UInt64) : Bool :=
  s.pendingReturn ∧ s.returnValid ∧ now ≤ s.deadline ∧
    (s.reopenAttempts = 0 ∨ (s.lastReopen ≤ now ∧ reopenInterval ≤ now - s.lastReopen)) ∧
    c.window = s.transition.window ∧ c.host = s.transition.host

/-- The guard's page is reopened through the invoker, which gives the answer. -/
def reopen (now : UInt64) (answer : Outcome) : Controller :=
  let hud := if s.reopened then s.reopenedBuildingHud else s.returned.navigation.buildingHud
  { s with
    reopenAttempts := s.reopenAttempts + 1
    lastReopen := now
    reopenedBuildingHud := hud
    reopened := s.reopened ∨ answer = .submitted
    unresolved := s.unresolved ∨ answer ≠ .submitted
    returnValid := false }

/-- The refusals of a new request, in their order; a refused request is not recorded. -/
def refusal (e : Execution Verb Command) : Option Receipt :=
  let c := e.command
  if s.busy then some (s.receipt c .pending false)
  else if ¬ e.ready ∨ ¬ s.current.valid then some (s.receipt c .unavailable false)
  else if c.expected ≠ s.current then some (s.receipt c .stale true)
  else if ¬ s.current.eligible then some (s.receipt c .invalid true)
  else if 4096 ≤ s.records.items.length ∨ uint64Max - 15000 < e.now then
    some (s.receipt c .exhausted false)
  else if ¬ e.memory then some (s.receipt c .unavailable false)
  else none

/-- The request is recorded and put to the invoker. -/
def submit (e : Execution Verb Command) : Controller × Receipt × Option Call :=
  let c := e.command
  let asked := { s with
    transition := c
    pending := true
    deadline := e.now + 15000
    returned := {}
    returnValid := false
    reopened := false
    reopenAttempts := 0
    lastReopen := 0
    reopenedBuildingHud := 0 }
  let after :=
    if e.answer.refused then { asked with pending := false }
    else if e.answer ≠ .submitted then { asked with unresolved := true }
    else asked
  let receipt := after.receipt c e.answer false
  ({ after with records := s.records.set c.request ⟨c, receipt⟩ }, receipt,
    some (.upgrade s.current))

/-- `Execute`, with the call that it makes. -/
def execute (e : Execution Verb Command) : Controller × Receipt × Option Call :=
  let c := e.command
  if ¬ c.valid e.verb then (s, s.receipt c .invalid false, none)
  else if ¬ e.live then (s, s.receipt c .stale false, none)
  else if e.verb = .inspect then
    if s.mayReopen c e.now then
      let after := s.reopen e.now e.answer
      (after, after.receipt c .observed e.ready, some (.reopen s.transition.expected s.returned))
    else (s, s.receipt c .observed e.ready, none)
  else match s.records.get? c.request with
    | some prior =>
      if prior.command ≠ c then (s, s.receipt c .invalid false, none)
      else (s, prior.receipt, none)
    | none =>
      match s.refusal e with
      | some receipt => (s, receipt, none)
      | none => s.submit e

end Controller

/-! ## Laws -/

inductive Observation
  | page (snapshot : Snapshot) (valid : Bool) (now : UInt64)
  | returned (snapshot : ReturnSnapshot) (valid : Bool)

/-- The call spends. -/
def Call.isUpgrade : Option Call → Bool
  | some (.upgrade _) => true
  | _ => false

def desk : Desk Controller Observation Verb Command Receipt Entry where
  observe s
    | .page snapshot valid now => s.observe snapshot valid now
    | .returned snapshot valid => s.observeReturn snapshot valid
  execute s e := ((s.execute e).1, (s.execute e).2.1, Call.isUpgrade (s.execute e).2.2)
  records := Controller.records
  pending := Controller.pending
  unresolved := Controller.unresolved
  request := Command.request
  valid verb c := c.valid verb
  inspects verb := verb = .inspect
  content entry := (.upgrade, entry.command)
  receipt := Entry.receipt
  outcome := Receipt.outcome
  settled := Outcome.refused

variable (snapshot : Snapshot)

namespace Controller

variable {s : Controller} {e : Execution Verb Command}

theorem correlate_records (valid : Bool) (now : UInt64) :
    (s.correlate snapshot valid now).records = s.records := by
  unfold correlate
  dsimp only
  split_ifs <;> rfl

theorem correlate_unresolved (valid : Bool) (now : UInt64) (h : s.unresolved = true) :
    (s.correlate snapshot valid now).unresolved = true := by
  unfold correlate
  rw [if_pos (Or.inr h)]
  exact h

theorem observe_records (valid : Bool) (now : UInt64) :
    (s.observe snapshot valid now).records = s.records := by
  unfold observe
  dsimp only
  split_ifs <;> simp only [correlate_records]

theorem observe_unresolved (valid : Bool) (now : UInt64) (h : s.unresolved = true) :
    (s.observe snapshot valid now).unresolved = true := by
  unfold observe
  dsimp only
  split_ifs
  · exact correlate_unresolved _ _ _ h
  · rfl
  · exact correlate_unresolved _ _ _ h
  · exact correlate_unresolved _ _ _ h

theorem idle_of_refusal (h : s.refusal e = none) : s.pending = false ∧ s.unresolved = false := by
  unfold refusal at h
  dsimp only at h
  split at h
  case isTrue => cases h
  case isFalse hidle => simpa [busy] using hidle

/-- An execution leaves the controller as it is, reopens the page of the pending request, or
submits a valid request that is new and not refused. -/
theorem execute_cases :
    ((s.execute e).1 = s ∧ (s.execute e).2.2 = none) ∨
    (s.mayReopen e.command e.now = true ∧ (s.execute e).1 = s.reopen e.now e.answer ∧
      (s.execute e).2.2 = some (.reopen s.transition.expected s.returned)) ∨
    (e.command.valid e.verb = true ∧ e.live = true ∧ e.verb ≠ .inspect) ∧
      s.records.get? e.command.request = none ∧ s.refusal e = none ∧ s.execute e = s.submit e := by
  unfold execute
  dsimp only
  split
  case isTrue => exact .inl ⟨rfl, rfl⟩
  case isFalse hvalid =>
    split
    case isTrue => exact .inl ⟨rfl, rfl⟩
    case isFalse hlive =>
      split
      case isTrue hinspect =>
        split
        case isTrue hreopen => exact .inr (.inl ⟨hreopen, rfl, rfl⟩)
        case isFalse => exact .inl ⟨rfl, rfl⟩
      case isFalse hinspect =>
        split
        case h_1 => split <;> exact .inl ⟨rfl, rfl⟩
        case h_2 hnew =>
          split
          case h_1 => exact .inl ⟨rfl, rfl⟩
          case h_2 hrefusal =>
            exact .inr (.inr
              ⟨⟨not_not.1 hvalid, not_not.1 hlive, hinspect⟩, hnew, hrefusal, rfl⟩)

theorem eq_upgrade {verb : Verb} (h : verb ≠ .inspect) : verb = .upgrade := by
  cases verb with
  | inspect => exact absurd rfl h
  | upgrade => rfl

/-- A recorded request is answered from its record, another with its key is invalid. -/
theorem execute_known {prior : Entry} (h : s.records.get? e.command.request = some prior)
    (hvalid : prior.command.valid .upgrade = true) (hlive : e.live = true)
    (hverb : e.verb ≠ .inspect) :
    s.execute e = (s, if prior.command = e.command then prior.receipt
      else s.receipt e.command .invalid false, none) := by
  have hupgrade := eq_upgrade hverb
  unfold execute
  by_cases hc : e.command.valid e.verb = true
  · simp only [hc, hlive, hverb, h, not_true_eq_false, if_false]
    by_cases hsame : prior.command = e.command
    · rw [if_pos hsame, if_neg (not_not.2 hsame)]
    · rw [if_neg hsame, if_pos hsame]
  · have hother : ¬ prior.command = e.command := by
      intro hsame
      rw [hupgrade] at hc
      exact hc (hsame ▸ hvalid)
    simp only [hc, Bool.false_eq_true, not_false_eq_true, if_true, if_neg hother]

theorem submitted (hvalid : e.command.valid e.verb = true) (hlive : e.live = true)
    (hverb : e.verb ≠ .inspect) (hnew : s.records.get? e.command.request = none)
    (hrefusal : s.refusal e = none) :
    desk.Submitted s e (s.submit e).1 (s.submit e).2.1 true := by
  obtain ⟨hpending, hunresolved⟩ := idle_of_refusal hrefusal
  refine ⟨hvalid, hlive, decide_eq_false hverb, hnew, hpending, hunresolved,
    ⟨_, rfl, Prod.ext (eq_upgrade hverb).symm rfl, rfl⟩, fun _ => rfl, fun _ hopen => ?_⟩
  have hopen : e.answer.refused = false := hopen
  simp only [desk, submit, hopen, Bool.false_eq_true, if_false]
  by_cases hsubmitted : e.answer ≠ .submitted
  · rw [if_pos hsubmitted]
    exact .inr rfl
  · rw [if_neg hsubmitted]
    exact .inl rfl

theorem reopen_quiet (now : UInt64) (answer : Outcome) : desk.Quiet s (s.reopen now answer) :=
  ⟨rfl, rfl, fun h => decide_eq_true (.inl h)⟩

end Controller

theorem desk_lawful : desk.Lawful where
  observe_records s o := by
    cases o with
    | page snapshot valid now => exact s.observe_records snapshot valid now
    | returned snapshot valid => rfl
  observe_unresolved s o h := by
    cases o with
    | page snapshot valid now => exact s.observe_unresolved snapshot valid now h
    | returned snapshot valid => exact h
  execute_cases s e := by
    change (desk.Quiet s (s.execute e).1 ∧ Call.isUpgrade (s.execute e).2.2 = false) ∨
      desk.Submitted s e (s.execute e).1 (s.execute e).2.1 (Call.isUpgrade (s.execute e).2.2)
    rcases s.execute_cases (e := e) with ⟨hsame, hcall⟩ | ⟨-, hreopen, hcall⟩ |
      ⟨⟨hvalid, hlive, hverb⟩, hnew, hrefusal, hsubmit⟩
    · rw [hsame, hcall]
      exact .inl ⟨⟨rfl, rfl, id⟩, rfl⟩
    · rw [hreopen, hcall]
      exact .inl ⟨Controller.reopen_quiet e.now e.answer, rfl⟩
    · rw [hsubmit]
      exact .inr (Controller.submitted hvalid hlive hverb hnew hrefusal)
  execute_known s e entry h hvalid hlive hverb := by
    have hverb : e.verb ≠ .inspect := of_decide_eq_false hverb
    have hknown := Controller.execute_known h hvalid hlive hverb
    change Call.isUpgrade (s.execute e).2.2 = false ∧ ((Verb.upgrade, entry.command) = (e.verb, e.command) →
      (s.execute e).2.1 = entry.receipt) ∧ ((Verb.upgrade, entry.command) ≠ (e.verb, e.command) →
      (s.execute e).2.1.outcome = .invalid)
    rw [hknown, ne_eq, Prod.mk.injEq, Controller.eq_upgrade hverb]
    refine ⟨rfl, fun hsame => if_pos hsame.2, fun hother => ?_⟩
    rw [if_neg fun hsame => hother ⟨rfl, hsame⟩]
    rfl

/-! ## Reopening -/

variable {i : Input Observation Verb Command}

variable (is : List (Input Observation Verb Command))

section Reopening

/-- A step of a run: the controller and what it is given. -/
abbrev Step : Type := Controller × Input Observation Verb Command

/-- When the step reopens the page of the upgrade with a key. -/
def reopening (k : RequestKey) (x : Step) : Option UInt64 :=
  match x.2 with
  | .observe _ => none
  | .execute e =>
    match (x.1.execute e).2.2 with
    | some (.reopen _ _) => if x.1.transition.request = k then some e.now else none
    | _ => none

/-- When the step calls for the upgrade with a key. -/
def upgrading (k : RequestKey) (x : Step) : Option UInt64 :=
  match x.2 with
  | .observe _ => none
  | .execute e =>
    match (x.1.execute e).2.2 with
    | some (.upgrade _) => if e.command.request = k then some e.now else none
    | _ => none

/-- The page of an upgrade is reopened a few times, each some time after the one before and none
after the upgrade's deadline. -/
structure Paced (h : List Step) (k : RequestKey) : Prop where
  bounded : (h.filterMap (reopening k)).length ≤ 3
  spaced : (h.filterMap (reopening k)).Pairwise fun t t' => t.toNat + 2000 ≤ t'.toNat
  timely : ∀ t ∈ h.filterMap (reopening k),
    ∃ asked, h.filterMap (upgrading k) = [asked] ∧ t.toNat ≤ asked.toNat + 15000

/-- What a controller knows of the steps that led to it. -/
structure Tracked (h : List Step) (s : Controller) : Prop where
  paced : ∀ k, Paced h k
  fresh : ∀ k, s.records.get? k = none →
    h.filterMap (reopening k) = [] ∧ h.filterMap (upgrading k) = []
  recorded : s.pending = true → s.records.get? s.transition.request ≠ none
  counted : s.pending = true →
    (h.filterMap (reopening s.transition.request)).length = s.reopenAttempts
  last : s.pending = true →
    ∀ t ∈ h.filterMap (reopening s.transition.request), t.toNat ≤ s.lastReopen.toNat
  asked : s.pending = true → ∃ t, h.filterMap (upgrading s.transition.request) = [t] ∧
    s.deadline.toNat = t.toNat + 15000

variable {h : List Step} {s : Controller}

theorem Controller.correlate_eq (valid : Bool) (now : UInt64) :
    ∃ pending unresolved, s.correlate snapshot valid now =
      { s with pending := pending, unresolved := unresolved } ∧
      (pending = true → s.pending = true) := by
  unfold correlate
  dsimp only
  split_ifs
  · exact ⟨_, _, rfl, id⟩
  · exact ⟨_, _, rfl, id⟩
  · exact ⟨_, _, rfl, id⟩
  · exact ⟨_, _, rfl, fun hf => absurd hf Bool.false_ne_true⟩
  · exact ⟨_, _, rfl, id⟩
  · exact ⟨_, _, rfl, id⟩

/-- An observation leaves the pending request alone, or ends it. -/
theorem Controller.observe_eq (valid : Bool) (now : UInt64) :
    ∃ current revision pending unresolved, s.observe snapshot valid now =
      { s with
        current := current, revision := revision, pending := pending, unresolved := unresolved } ∧
      (pending = true → s.pending = true) := by
  unfold observe
  dsimp only
  split_ifs
  · obtain ⟨pending, unresolved, heq, hpending⟩ := correlate_eq (s := { s with current := _ })
      _ valid now
    exact ⟨_, _, _, _, heq, hpending⟩
  · exact ⟨_, _, _, _, rfl, id⟩
  · obtain ⟨pending, unresolved, heq, hpending⟩ := correlate_eq
      (s := { s with revision := _, current := _ }) _ valid now
    exact ⟨_, _, _, _, heq, hpending⟩
  · obtain ⟨pending, unresolved, heq, hpending⟩ := correlate_eq
      (s := { s with revision := _, current := _ }) _ valid now
    exact ⟨_, _, _, _, heq, hpending⟩

/-- A step that calls nobody and keeps the pending request, or ends it, is tracked. -/
theorem Tracked.quiet {x : Step} {s' : Controller} (hs : Tracked h s)
    (hreopening : ∀ k, reopening k x = none) (hupgrading : ∀ k, upgrading k x = none)
    (hrecords : s'.records = s.records) (hpending : s'.pending = true → s.pending = true)
    (htransition : s'.transition = s.transition) (hattempts : s'.reopenAttempts = s.reopenAttempts)
    (hlast : s'.lastReopen = s.lastReopen) (hdeadline : s'.deadline = s.deadline) :
    Tracked (h ++ [x]) s' := by
  have hreopenings (k : RequestKey) :
      (h ++ [x]).filterMap (reopening k) = h.filterMap (reopening k) := by
    rw [List.filterMap_append, List.filterMap_cons_none (hreopening k), List.filterMap_nil,
      List.append_nil]
  have hupgradings (k : RequestKey) :
      (h ++ [x]).filterMap (upgrading k) = h.filterMap (upgrading k) := by
    rw [List.filterMap_append, List.filterMap_cons_none (hupgrading k), List.filterMap_nil,
      List.append_nil]
  constructor
  · intro k
    obtain ⟨hbounded, hspaced, htimely⟩ := hs.paced k
    constructor
    · rwa [hreopenings]
    · rwa [hreopenings]
    · rwa [hreopenings, hupgradings]
  · intro k hk
    rw [hrecords] at hk
    rw [hreopenings, hupgradings]
    exact hs.fresh k hk
  · intro hp
    rw [hrecords, htransition]
    exact hs.recorded (hpending hp)
  · intro hp
    rw [hreopenings, htransition, hattempts]
    exact hs.counted (hpending hp)
  · intro hp
    rw [hreopenings, htransition, hlast]
    exact hs.last (hpending hp)
  · intro hp
    rw [hupgradings, htransition, hdeadline]
    exact hs.asked (hpending hp)

variable {e : Execution Verb Command}

/-- Reopening the page of the pending request is tracked. -/
theorem Tracked.reopen (hs : Tracked h s) (hmay : s.mayReopen e.command e.now = true)
    (hcall : (s.execute e).2.2 = some (.reopen s.transition.expected s.returned)) :
    Tracked (h ++ [(s, Input.execute e)]) (s.reopen e.now e.answer) := by
  simp only [Controller.mayReopen, Controller.pendingReturn, decide_eq_true_eq] at hmay
  obtain ⟨⟨hpending, -, hfew⟩, -, hdeadline, hinterval, -⟩ := hmay
  have hreopening (k : RequestKey) : reopening k (s, Input.execute e) =
      if s.transition.request = k then some e.now else none := by
    simp only [reopening, hcall]
  have hupgrading (k : RequestKey) : upgrading k (s, Input.execute e) = none := by
    simp only [upgrading, hcall]
  have hcounted := hs.counted hpending
  obtain ⟨asked, hasked, htime⟩ := hs.asked hpending
  have hlate : ∀ t ∈ h.filterMap (reopening s.transition.request), t.toNat + 2000 ≤ e.now.toNat := by
    intro t ht
    have hlast := hs.last hpending t ht
    have hpos := List.length_pos_of_mem ht
    rcases hinterval with hzero | ⟨hle, hinterval⟩
    · omega
    · have hsub := UInt64.toNat_sub_of_le _ _ hle
      have hwait : reopenInterval.toNat ≤ (e.now - s.lastReopen).toNat := hinterval
      have hthousands : reopenInterval.toNat = 2000 := rfl
      have hle : s.lastReopen.toNat ≤ e.now.toNat := hle
      omega
  have hmine : (h ++ [(s, Input.execute e)]).filterMap (reopening s.transition.request) =
      h.filterMap (reopening s.transition.request) ++ [e.now] := by
    rw [filterMap_append_single, hreopening, if_pos rfl, Option.toList_some]
  have hother {k : RequestKey} (hk : s.transition.request ≠ k) :
      (h ++ [(s, Input.execute e)]).filterMap (reopening k) = h.filterMap (reopening k) := by
    rw [filterMap_append_single, hreopening, if_neg hk, Option.toList_none, List.append_nil]
  have hupgradings (k : RequestKey) :
      (h ++ [(s, Input.execute e)]).filterMap (upgrading k) = h.filterMap (upgrading k) := by
    rw [filterMap_append_single, hupgrading, Option.toList_none, List.append_nil]
  have hbefore : ∀ t ∈ h.filterMap (reopening s.transition.request), t.toNat ≤ e.now.toNat :=
    fun t ht => by
      have := hlate t ht
      omega
  have hnow : e.now.toNat ≤ asked.toNat + 15000 := by
    have hdeadline : e.now.toNat ≤ s.deadline.toNat := hdeadline
    omega
  constructor
  · intro k
    obtain ⟨hbounded, hspaced, htimely⟩ := hs.paced k
    by_cases hk : s.transition.request = k
    · subst hk
      constructor
      · rw [hmine, List.length_append, List.length_singleton]
        have hthree : maxReopens = 3 := rfl
        omega
      · rw [hmine, List.pairwise_append]
        refine ⟨hspaced, List.pairwise_singleton _ _, ?_⟩
        intro t ht t' ht'
        rw [List.mem_singleton.1 ht']
        exact hlate t ht
      · intro t ht
        rw [hmine, List.mem_append, List.mem_singleton] at ht
        refine ⟨asked, (hupgradings _).trans hasked, ?_⟩
        rcases ht with ht | rfl
        · have := hbefore t ht
          omega
        · exact hnow
    · constructor
      · rwa [hother hk]
      · rwa [hother hk]
      · rwa [hother hk, hupgradings]
  · intro k hk
    have hne : s.transition.request ≠ k := by
      rintro rfl
      exact hs.recorded hpending hk
    rw [hother hne, hupgradings]
    exact hs.fresh k hk
  · exact fun _ => hs.recorded hpending
  · intro _
    change ((h ++ [(s, Input.execute e)]).filterMap (reopening s.transition.request)).length =
      s.reopenAttempts + 1
    rw [hmine, List.length_append, List.length_singleton, hcounted]
  · intro _ t ht
    change t ∈ (h ++ [(s, Input.execute e)]).filterMap (reopening s.transition.request) at ht
    rw [hmine, List.mem_append, List.mem_singleton] at ht
    rcases ht with ht | rfl
    · exact hbefore t ht
    · exact le_rfl
  · exact fun _ => ⟨asked, (hupgradings _).trans hasked, htime⟩

theorem Controller.time_of_refusal (h : s.refusal e = none) :
    (e.now + 15000).toNat = e.now.toNat + 15000 := by
  unfold refusal at h
  dsimp only at h
  iterate 4
    split at h
    case isTrue => cases h
  split at h
  case isTrue => cases h
  case isFalse hroom =>
    have hnow := UInt64.not_lt.1 (not_or.1 hroom).2
    have hle : e.now.toNat ≤ (uint64Max - 15000).toNat := hnow
    have hmax : (uint64Max - 15000).toNat = 18446744073709536615 := rfl
    rw [UInt64.toNat_add]
    change (e.now.toNat + 15000) % 18446744073709551616 = _
    omega

/-- A new upgrade is tracked: its key has no history. -/
theorem Tracked.submit (hs : Tracked h s) (hnew : s.records.get? e.command.request = none)
    (hrefusal : s.refusal e = none) (hexecute : s.execute e = s.submit e) :
    Tracked (h ++ [(s, Input.execute e)]) (s.submit e).1 := by
  have hreopening (k : RequestKey) : reopening k (s, Input.execute e) = none := by
    simp only [reopening, hexecute, Controller.submit]
  have hupgrading (k : RequestKey) : upgrading k (s, Input.execute e) =
      if e.command.request = k then some e.now else none := by
    simp only [upgrading, hexecute, Controller.submit]
  have hreopenings (k : RequestKey) : (h ++ [(s, Input.execute e)]).filterMap (reopening k) =
      h.filterMap (reopening k) := by
    rw [filterMap_append_single, hreopening, Option.toList_none, List.append_nil]
  obtain ⟨hnone, hnone'⟩ := hs.fresh _ hnew
  have hmine : (h ++ [(s, Input.execute e)]).filterMap (upgrading e.command.request) = [e.now] := by
    rw [filterMap_append_single, hupgrading, if_pos rfl, Option.toList_some, hnone', List.nil_append]
  have hother {k : RequestKey} (hk : e.command.request ≠ k) :
      (h ++ [(s, Input.execute e)]).filterMap (upgrading k) = h.filterMap (upgrading k) := by
    rw [filterMap_append_single, hupgrading, if_neg hk, Option.toList_none, List.append_nil]
  obtain ⟨entry, hrecords⟩ :
      ∃ entry, (s.submit e).1.records = s.records.set e.command.request entry := ⟨_, rfl⟩
  have htransition : (s.submit e).1.transition = e.command := by
    simp only [Controller.submit]
    split_ifs <;> rfl
  have hattempts : (s.submit e).1.reopenAttempts = 0 := by
    simp only [Controller.submit]
    split_ifs <;> rfl
  have hdeadline : (s.submit e).1.deadline = e.now + 15000 := by
    simp only [Controller.submit]
    split_ifs <;> rfl
  constructor
  · intro k
    obtain ⟨hbounded, hspaced, htimely⟩ := hs.paced k
    constructor
    · rwa [hreopenings]
    · rwa [hreopenings]
    · intro t ht
      rw [hreopenings] at ht
      by_cases hk : e.command.request = k
      · subst hk
        rw [hnone] at ht
        cases ht
      · rw [hother hk]
        exact htimely t ht
  · intro k hk
    have hne : e.command.request ≠ k := by
      rintro rfl
      rw [hrecords, Dict.get?_set_self] at hk
      cases hk
    rw [hrecords, Dict.get?_set_ne _ _ hne] at hk
    rw [hreopenings, hother hne]
    exact hs.fresh k hk
  · intro _
    rw [htransition, hrecords, Dict.get?_set_self]
    exact Option.some_ne_none _
  · intro _
    rw [htransition, hreopenings, hnone, hattempts, List.length_nil]
  · intro _ t ht
    rw [htransition, hreopenings, hnone] at ht
    cases ht
  · intro _
    rw [htransition, hdeadline, Controller.time_of_refusal hrefusal]
    exact ⟨e.now, hmine, rfl⟩

theorem Tracked.next (hs : Tracked h s) : Tracked (h ++ [(s, i)]) (desk.ledger.next s i) := by
  cases i with
  | observe o =>
    cases o with
    | page snapshot valid now =>
      obtain ⟨current, revision, pending, unresolved, heq, hpending⟩ :=
        s.observe_eq snapshot valid now
      change Tracked _ (s.observe snapshot valid now)
      rw [heq]
      exact hs.quiet (fun _ => rfl) (fun _ => rfl) rfl hpending rfl rfl rfl rfl
    | returned snapshot valid =>
      exact hs.quiet (fun _ => rfl) (fun _ => rfl) rfl id rfl rfl rfl rfl
  | execute e =>
    change Tracked _ (s.execute e).1
    rcases s.execute_cases (e := e) with ⟨hsame, hcall⟩ | ⟨hmay, hreopen, hcall⟩ |
      ⟨-, hnew, hrefusal, hexecute⟩
    · rw [hsame]
      refine hs.quiet (fun k => ?_) (fun k => ?_) rfl id rfl rfl rfl rfl
      · simp only [reopening, hcall]
      · simp only [upgrading, hcall]
    · rw [hreopen]
      exact hs.reopen hmay hcall
    · rw [hexecute]
      exact hs.submit hnew hrefusal hexecute

theorem tracked_empty : Tracked [] {} where
  paced k := ⟨by simp, by simp, by simp⟩
  fresh k _ := ⟨rfl, rfl⟩
  recorded h := by cases h
  counted h := by cases h
  last h := by cases h
  asked h := by cases h

/-- The page of each upgrade is reopened in its pace, in every run. -/
theorem paced (k : RequestKey) : Paced (met desk.ledger.next {} is) k :=
  (history_met .next tracked_empty).paced k

end Reopening

/-! ## Arithmetic -/

/-- The numbers that an upgrade is checked against are computed without wrapping. -/
def Snapshot.Unwrapped (s : Snapshot) : Prop :=
  (s.rank + 1).toNat = s.rank.toNat + 1 ∧ (s.funds - s.cost).toNat + s.cost.toNat = s.funds.toNat

theorem Snapshot.unwrapped_of_eligible {s : Snapshot} (h : s.eligible = true) : s.Unwrapped := by
  simp only [eligible, valid, decide_eq_true_eq] at h
  obtain ⟨⟨-, ⟨-, hrank⟩, -⟩, -, -, -, hcost, -⟩ := h
  have hrank : s.rank.toNat < 4294967295 := hrank
  have hsub := UInt32.toNat_sub_of_le _ _ hcost
  have hcost : s.cost.toNat ≤ s.funds.toNat := hcost
  constructor
  · rw [UInt32.toNat_add]
    change (s.rank.toNat + 1) % 4294967296 = _
    omega
  · omega

/-- The pending request was valid. -/
def Priced (s : Controller) : Prop := s.pending = true → s.transition.expected.eligible = true

theorem priced_next {s : Controller} (hs : Priced s) : Priced (desk.ledger.next s i) := by
  cases i with
  | observe o =>
    cases o with
    | page snapshot valid now =>
      obtain ⟨current, revision, pending, unresolved, heq, hpending⟩ :=
        s.observe_eq snapshot valid now
      change Priced (s.observe snapshot valid now)
      rw [heq]
      exact fun h => hs (hpending h)
    | returned snapshot valid => exact hs
  | execute e =>
    change Priced (s.execute e).1
    rcases s.execute_cases (e := e) with ⟨hsame, -⟩ | ⟨-, hreopen, -⟩ |
      ⟨⟨hvalid, -, hverb⟩, -, -, hexecute⟩
    · rw [hsame]
      exact hs
    · rw [hreopen]
      exact hs
    · intro _
      have htransition : (s.submit e).1.transition = e.command := by
        simp only [Controller.submit]
        split_ifs <;> rfl
      rw [hexecute, htransition]
      simp only [Command.valid, decide_eq_true_eq, if_neg hverb] at hvalid
      exact hvalid.2

/-- While an upgrade is pending, in every run, its numbers do not wrap. -/
theorem unwrapped :
    ∀ x ∈ met desk.ledger.next {} is, x.1.pending = true → x.1.transition.expected.Unwrapped := by
  have hstart : Priced {} := fun h => absurd h Bool.false_ne_true
  intro x hx hpending
  exact Snapshot.unwrapped_of_eligible (invariant_of_mem_met priced_next hstart x hx hpending)

end ShadowbaneLab.Native.GuardUpgrade
