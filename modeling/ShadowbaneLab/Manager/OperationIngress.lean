/-
# Cancellation from the foreground

`manager/operation_ingress.py`: which worker a command is for, and when `cancel_if_inflight`
submits a `CANCEL` to it.
-/
import ShadowbaneLab.Manager.Operation

namespace ShadowbaneLab.Manager

open Foundation

/-! ## The ingress -/

structure ClientInstanceSnapshot where
  instanceId : String
  processId : Int
  processStartedAt100ns : Int
  windowHandle : Int
  isForeground : Bool
  isVisible : Bool
deriving DecidableEq

structure ClientRegistrySnapshot where
  nodeId : String
  clients : List ClientInstanceSnapshot

/-- `ForegroundWorkerOperationIngress`, with what it is told at one call: by the registry, by the
manager's permits, by the ledger and by the clock. -/
structure Ingress where
  nodeId : String
  clientIds : List String
  registry : ClientRegistrySnapshot
  inspectPermit : String → Option WorkerDispatchPermit
  inspectSlot : String → Except String (List WorkerOperationSnapshot)
  clock : ℚ
  operationTtlSeconds : ℚ
  fresh : Fresh

/-- The client that a caller expects. -/
structure Expected where
  processId : Option Int := none
  windowHandle : Option Int := none
  processStartedAt100ns : Option Int := none
  requireForeground : Bool := true

/-- `value is not None and value <= 0`. -/
def positiveOrNone (value : Option Int) (fieldName : String) : Except String Unit :=
  check (value.all (0 < ·)) s!"{fieldName} must be a positive integer or None"

/-- `expected is None or value == expected`. -/
def agrees (expected : Option Int) (value : Int) : Bool := expected.all (value = ·)

namespace Ingress

variable (ingress : Ingress)

/-- `_resolve_client`. -/
def resolveClient (expected : Expected) : Except String ClientInstanceSnapshot := do
  check (ingress.registry.nodeId = ingress.nodeId) "client registry returned the wrong node"
  let found := ingress.registry.clients.filter fun client =>
    client.isVisible && (client.isForeground || !expected.requireForeground) &&
      agrees expected.processId client.processId &&
      agrees expected.windowHandle client.windowHandle &&
      agrees expected.processStartedAt100ns client.processStartedAt100ns
  match found with
  | [client] => return client
  | _ =>
    if expected.requireForeground then
      if expected.processId.isNone then
        .error "foreground managed client is not uniquely identifiable"
      else .error "foreground managed client does not match the guarded process"
    else .error "managed client does not match the captured process and window"

/-- The permits for one instance, each of which must be usable. -/
def collectPermits (instanceId : String) (now : ℚ) :
    List String → Except String (List WorkerDispatchPermit)
  | [] => .ok []
  | clientId :: clientIds =>
    match ingress.inspectPermit clientId with
    | none => collectPermits instanceId now clientIds
    | some permit =>
      if permit.instanceId ≠ some instanceId then collectPermits instanceId now clientIds
      else do
        check (permit.nodeId = ingress.nodeId) "worker dispatch permit belongs to the wrong node"
        check permit.allowed s!"exact worker dispatch is disabled: {permit.reason}"
        check (permit.issuedAt ≤ now ∧ now < permit.expiresAt)
          "exact worker dispatch permit is not currently valid"
        let permits ← collectPermits instanceId now clientIds
        return permit :: permits

/-- `_exact_permit`. -/
def exactPermit (client : ClientInstanceSnapshot) (now : ℚ) : Except String WorkerDispatchPermit := do
  match ← ingress.collectPermits client.instanceId now ingress.clientIds with
  | [permit] => return permit
  | _ => .error "foreground client is not owned by exactly one healthy worker"

/-- `_resolve_target`. -/
def resolveTarget (expected : Expected) :
    Except String (ℚ × ClientInstanceSnapshot × WorkerDispatchPermit) := do
  positiveOrNone expected.processId "expected_process_id"
  positiveOrNone expected.windowHandle "expected_window_handle"
  positiveOrNone expected.processStartedAt100ns "expected_process_started_at_100ns"
  check (expected.requireForeground ∨ expected.processId.isSome ∧ expected.windowHandle.isSome)
    "non-foreground dispatch requires exact process and window identities"
  let client ← ingress.resolveClient expected
  let permit ← ingress.exactPermit client ingress.clock
  return (ingress.clock, client, permit)

end Ingress

/-- The loop of `cancel_if_inflight`, which a pending cancellation ends early. -/
def scan (target : Target) (now : ℚ) : Bool → List WorkerOperationSnapshot → Option Bool
  | inflight, [] => some inflight
  | inflight, snapshot :: slot =>
    let operation := snapshot.operation
    if operation.targetIdentity ≠ target then scan target now inflight slot
    else if snapshot.receipt.any (·.val.state.terminal) then scan target now inflight slot
    else if snapshot.receipt.isNone ∧ operation.val.expiresAt ≤ now then
      scan target now inflight slot
    else if operation.val.kind = .cancel then none
    else if operation.val.kind ∈ [.travel, .pve, .vendor, .guard, .condemn] then
      scan target now true slot
    else scan target now inflight slot

/-- A `CANCEL` that is submitted for a client. -/
structure Submission where
  client : ClientInstanceSnapshot
  operation : WorkerOperation

namespace Ingress

variable (ingress : Ingress)

/-- The `CANCEL` for a worker. -/
def submitCancel (client : ClientInstanceSnapshot) (permit : WorkerDispatchPermit) (now : ℚ)
    (command : String) (operationId : Option String) : Except String (Option Submission) := do
  let operation ← newWorkerOperation ingress.fresh permit .cancel command none none now
    ingress.operationTtlSeconds operationId none
  return some ⟨client, operation⟩

/-- `cancel_if_inflight`, up to what it submits. -/
def cancelIfInflight (command : String) (expected : Expected) (operationId : Option String) :
    Except String (Option Submission) := do
  let (now, client, permit) ← ingress.resolveTarget expected
  let slot ← ingress.inspectSlot permit.clientId
  match scan permit.targetIdentity now false slot with
  | none => return none
  | some false => return none
  | some true => ingress.submitCancel client permit now command operationId

end Ingress

/-! ## What is in flight -/

/-- The operation of a snapshot is for this worker, not terminal, and not expired before anybody
acknowledged it. -/
def Live (target : Target) (now : ℚ) (snapshot : WorkerOperationSnapshot) : Prop :=
  snapshot.operation.targetIdentity = target ∧
    ¬ snapshot.receipt.any (·.val.state.terminal) = true ∧
    ¬ (snapshot.receipt.isNone ∧ snapshot.operation.val.expiresAt ≤ now)

instance (target : Target) (now : ℚ) : DecidablePred (Live target now) :=
  fun _ => inferInstanceAs (Decidable (_ ∧ _))

/-- The kinds that run automation. -/
def WorkerOperationKind.automation (kind : WorkerOperationKind) : Bool :=
  kind ≠ .cancel ∧ kind ≠ .stop

/-- Automation of this worker is in flight, and no cancellation of it. -/
def ShouldCancel (target : Target) (now : ℚ) (slot : List WorkerOperationSnapshot) : Prop :=
  (∃ s ∈ slot, Live target now s ∧ s.operation.val.kind.automation = true) ∧
    ∀ s ∈ slot, Live target now s → s.operation.val.kind ≠ .cancel

/-- Nothing is in flight but attacks on players, one at least, and stops. -/
def OnlyPlayerAttacks (target : Target) (now : ℚ) (slot : List WorkerOperationSnapshot) : Prop :=
  (∃ s ∈ slot, Live target now s ∧ s.operation.val.kind = .playerAttack) ∧
    ∀ s ∈ slot, Live target now s →
      s.operation.val.kind = .playerAttack ∨ s.operation.val.kind = .stop

instance (target : Target) (now : ℚ) (slot : List WorkerOperationSnapshot) :
    Decidable (ShouldCancel target now slot) := inferInstanceAs (Decidable (_ ∧ _))

section Scan

variable {target : Target} {now : ℚ} {slot : List WorkerOperationSnapshot} {inflight : Bool}
  {s : WorkerOperationSnapshot}

/-- The kinds that the loop looks for. -/
def listed : List WorkerOperationKind := [.travel, .pve, .vendor, .guard, .condemn]

theorem listed_iff {kind : WorkerOperationKind} :
    kind ∈ listed ↔ kind.automation = true ∧ kind ≠ .playerAttack := by
  cases kind <;> decide

/-- One step of the loop. -/
theorem scan_cons : scan target now inflight (s :: slot) =
    if Live target now s then
      if s.operation.val.kind = .cancel then none
      else scan target now (inflight || decide (s.operation.val.kind ∈ listed)) slot
    else scan target now inflight slot := by
  rw [scan]
  by_cases htarget : s.operation.targetIdentity = target
  · by_cases hterminal : s.receipt.any (·.val.state.terminal) = true
    · rw [if_neg (not_not.2 htarget), if_pos hterminal, if_neg fun h => h.2.1 hterminal]
    · by_cases hexpired : s.receipt.isNone ∧ s.operation.val.expiresAt ≤ now
      · rw [if_neg (not_not.2 htarget), if_neg hterminal, if_pos hexpired, if_neg fun h => h.2.2 hexpired]
      · have hlive : Live target now s := ⟨htarget, hterminal, hexpired⟩
        rw [if_neg (not_not.2 htarget), if_neg hterminal, if_neg hexpired, if_pos hlive]
        by_cases hcancel : s.operation.val.kind = .cancel
        · rw [if_pos hcancel, if_pos hcancel]
        · rw [if_neg hcancel, if_neg hcancel]
          by_cases hlisted : s.operation.val.kind ∈ listed
          · rw [decide_eq_true hlisted, Bool.or_true]
            exact if_pos hlisted
          · rw [decide_eq_false hlisted, Bool.or_false]
            exact if_neg hlisted
  · rw [if_pos htarget, if_neg fun h => htarget h.1]

/-- What the loop finds. -/
theorem scan_eq_some_true : scan target now inflight slot = some true ↔
    (inflight = true ∨ ∃ s ∈ slot, Live target now s ∧ s.operation.val.kind ∈ listed) ∧
      ∀ s ∈ slot, Live target now s → s.operation.val.kind ≠ .cancel := by
  induction slot generalizing inflight with
  | nil => simp [scan]
  | cons s slot ih =>
    rw [scan_cons]
    by_cases hlive : Live target now s
    · by_cases hcancel : s.operation.val.kind = .cancel
      · simp [hlive, hcancel]
      · rw [if_pos hlive, if_neg hcancel, ih]
        simp [hlive, hcancel, or_assoc]
    · rw [if_neg hlive, ih]
      simp [hlive]

theorem shouldCancel_of_scan (h : scan target now false slot = some true) :
    ShouldCancel target now slot := by
  obtain ⟨hfound, hnone⟩ := scan_eq_some_true.1 h
  obtain ⟨s, hs, hlive, hkind⟩ := hfound.resolve_left Bool.false_ne_true
  exact ⟨⟨s, hs, hlive, (listed_iff.1 hkind).1⟩, hnone⟩

/-- The loop misses automation exactly when nothing but attacks on players is in flight. -/
theorem missed_iff : ShouldCancel target now slot ∧ scan target now false slot ≠ some true ↔
    OnlyPlayerAttacks target now slot := by
  rw [ne_eq, scan_eq_some_true]
  constructor
  · rintro ⟨⟨⟨s, hs, hlive, hkind⟩, hnone⟩, hmissed⟩
    have hother : ∀ s ∈ slot, Live target now s → s.operation.val.kind ∉ listed :=
      fun s hs hlive hlisted => hmissed ⟨.inr ⟨s, hs, hlive, hlisted⟩, hnone⟩
    have honly : ∀ s ∈ slot, Live target now s →
        s.operation.val.kind = .playerAttack ∨ s.operation.val.kind = .stop := by
      intro s hs hlive
      have hcancel := hnone s hs hlive
      have hunlisted := hother s hs hlive
      revert hcancel hunlisted
      cases s.operation.val.kind <;> decide
    refine ⟨⟨s, hs, hlive, (honly s hs hlive).resolve_right fun hstop => ?_⟩, honly⟩
    rw [hstop] at hkind
    exact absurd hkind (by decide)
  · rintro ⟨⟨s, hs, hlive, hkind⟩, honly⟩
    have hnone : ∀ s ∈ slot, Live target now s → s.operation.val.kind ≠ .cancel := by
      intro s hs hlive hcancel
      rcases honly s hs hlive with h | h <;> rw [hcancel] at h <;> cases h
    refine ⟨⟨⟨s, hs, hlive, by rw [hkind]; decide⟩, hnone⟩, ?_⟩
    rintro ⟨hfound, -⟩
    obtain ⟨s, hs, hlive, hlisted⟩ := hfound.resolve_left Bool.false_ne_true
    rcases honly s hs hlive with h | h <;> rw [h] at hlisted <;> exact absurd hlisted (by decide)

end Scan

namespace Ingress

variable {ingress : Ingress} {client : ClientInstanceSnapshot} {permit : WorkerDispatchPermit}
  {now : ℚ} {command : String} {expected : Expected} {operationId : Option String}
  {slot : List WorkerOperationSnapshot}

/-- What is submitted is a `CANCEL` for the worker of the permit. -/
theorem submitCancel_eq_ok {submission : Option Submission}
    (h : ingress.submitCancel client permit now command operationId = .ok submission) :
    ∃ operation : WorkerOperation, submission = some ⟨client, operation⟩ ∧
      operation.val.kind = .cancel ∧ operation.targetIdentity = permit.targetIdentity := by
  obtain ⟨operation, hoperation, hsubmission⟩ := bind_eq_ok.1 h
  cases hsubmission
  obtain ⟨hkind, htarget⟩ := newWorkerOperation_eq_ok hoperation
  exact ⟨operation, rfl, hkind, htarget⟩

/-- The call, once its target and the slot are known. -/
theorem cancelIfInflight_eq (hresolve : ingress.resolveTarget expected = .ok (now, client, permit))
    (hslot : ingress.inspectSlot permit.clientId = .ok slot) :
    ingress.cancelIfInflight command expected operationId =
      if scan permit.targetIdentity now false slot = some true then
        ingress.submitCancel client permit now command operationId
      else .ok none := by
  rw [cancelIfInflight, hresolve, ok_bind]
  dsimp only
  rw [hslot, ok_bind]
  cases scan permit.targetIdentity now false slot with
  | none => rfl
  | some inflight => cases inflight <;> rfl

/-- `cancel_if_inflight` submits a `CANCEL` exactly when it should, unless nothing is in flight but
attacks on players. -/
theorem cancelIfInflight_iff (hresolve : ingress.resolveTarget expected = .ok (now, client, permit))
    (hslot : ingress.inspectSlot permit.clientId = .ok slot) :
    (ingress.cancelIfInflight command expected operationId =
      if ShouldCancel permit.targetIdentity now slot then
        ingress.submitCancel client permit now command operationId
      else .ok none) ↔ ¬ OnlyPlayerAttacks permit.targetIdentity now slot := by
  have hsubmits : (.ok none : Except String (Option Submission)) ≠
      ingress.submitCancel client permit now command operationId := by
    intro h
    obtain ⟨operation, hnone, -⟩ := submitCancel_eq_ok h.symm
    cases hnone
  rw [cancelIfInflight_eq hresolve hslot, ← missed_iff]
  by_cases hscan : scan permit.targetIdentity now false slot = some true
  · simp [hscan, shouldCancel_of_scan hscan]
  · by_cases hshould : ShouldCancel permit.targetIdentity now slot
    · simp [hscan, hshould, hsubmits]
    · simp [hscan, hshould]

/-- The permit of one worker. -/
def samplePermit : WorkerDispatchPermit where
  nodeId := "node"
  clientId := "one"
  allowed := true
  issuedAt := 0
  expiresAt := 10
  reason := "healthy"
  instanceId := some "game"
  workerId := some "worker-00000000000000000000000000000000"
  processId := some 1
  processStartedAt100ns := some 1

/-- The fields of an operation for this worker. -/
def sampleFields (kind : WorkerOperationKind) (command : String)
    (playerTarget : Option WorkerPlayerAttackTarget) : OperationFields where
  nodeId := "node"
  clientId := "one"
  instanceId := "game"
  workerId := "worker-00000000000000000000000000000000"
  workerProcessId := 1
  workerProcessStartedAt100ns := 1
  operationId := "operation-00000000000000000000000000000000"
  deduplicationId := "dedup-0000000000000000000000000000000000000000000000000000000000000000"
  kind := kind
  command := command
  destination := none
  issuedAt := 0
  expiresAt := 8
  playerTarget := playerTarget

def sampleTravel : WorkerOperation := ⟨sampleFields .travel "/come" none, by decide +kernel⟩

def sampleAttack : WorkerOperation :=
  ⟨sampleFields .playerAttack "/attack Mob" (some
    { objectKey := ⟨(1, 53), by decide⟩
      name := ⟨"Mob", by decide, by decide, by decide, by simp⟩
      server := ⟨"Home", by decide, by decide, by decide, by simp⟩
      localKey := ⟨(2, 53), by decide⟩
      distinct := by decide }), by decide +kernel⟩

/-- A manager with one client, and one operation that nobody acknowledged. -/
def sample (operation : WorkerOperation) : Ingress where
  nodeId := "node"
  clientIds := ["one"]
  registry := ⟨"node", [⟨"game", 1, 1, 1, true, true⟩]⟩
  inspectPermit _ := some samplePermit
  inspectSlot _ := .ok [⟨operation, none⟩]
  clock := 1
  operationTtlSeconds := 8
  fresh := ⟨"00000000000000000000000000000000", fun _ =>
    "0000000000000000000000000000000000000000000000000000000000000000"⟩

theorem cancelIfInflight_travel :
    ¬ OnlyPlayerAttacks samplePermit.targetIdentity 1 [⟨sampleTravel, none⟩] ∧
    (sample sampleTravel).cancelIfInflight "/stop" {} none =
      if ShouldCancel samplePermit.targetIdentity 1 [⟨sampleTravel, none⟩] then
        (sample sampleTravel).submitCancel ⟨"game", 1, 1, 1, true, true⟩ samplePermit 1 "/stop" none
      else .ok none := by
  have hnot : ¬ OnlyPlayerAttacks samplePermit.targetIdentity 1 [⟨sampleTravel, none⟩] := by
    rintro ⟨⟨s, hs, -, hkind⟩, -⟩
    rw [List.mem_singleton.1 hs] at hkind
    cases hkind
  have hslot : (sample sampleTravel).inspectSlot samplePermit.clientId =
      .ok [⟨sampleTravel, none⟩] := rfl
  exact ⟨hnot, (cancelIfInflight_iff rfl hslot).2 hnot⟩

/-- An attack on a player goes on. -/
theorem not_cancelIfInflight_attack :
    ShouldCancel samplePermit.targetIdentity 1 [⟨sampleAttack, none⟩] ∧
      (sample sampleAttack).cancelIfInflight "/stop" {} none = .ok none :=
  ⟨by decide, rfl⟩

end Ingress

end ShadowbaneLab.Manager
