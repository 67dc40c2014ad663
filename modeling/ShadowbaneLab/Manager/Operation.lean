/-
# Worker operations

`manager/operation.py`: the records of the operations of exact workers, with the checks of their
classes.  A record that is built has passed its checks, and the proof is part of it.
-/
import Mathlib.Data.List.DropRight
import ShadowbaneLab.Foundation.Host
import ShadowbaneLab.Foundation.Records

namespace ShadowbaneLab.Manager

open Foundation

/-! ## Texts -/

/-- `text[:n]`. -/
def cut (n : ℕ) (text : String) : String := String.ofList (text.toList.take n)

/-- `text.strip()`. -/
def strip (text : String) : String :=
  String.ofList ((text.toList.dropWhile isSpace).rdropWhile isSpace)

/-- The characters that no canonical text holds. -/
def forbidden (c : Char) : Bool := c.toNat ∈ [0, 13, 10]

/-- Not empty, stripped, of at most 512 characters, none of them forbidden. -/
def canonical (text : String) : Bool :=
  text ≠ "" ∧ text = strip text ∧ text.toList.length ≤ 512 ∧ ¬ text.toList.any forbidden

/-- `_detail`. -/
def detail : Option String → Except String Unit
  | none => .ok ()
  | some value =>
    check (canonical value) "detail must be null or canonical text of at most 512 characters"

/-- `_command`. -/
def command (value : String) : Except String Unit :=
  check (canonical value) "command must be canonical text of at most 512 characters"

/-- `_IDENTIFIER`. -/
def isIdentifier (value : String) : Bool :=
  match value.toList with
  | [] => false
  | c :: rest => c.isAlphanum && decide (rest.length ≤ 127) &&
    rest.all fun c => c.isAlphanum || c ∈ ['.', '_', '-']

/-- A lower-case hexadecimal text of some length. -/
def isHex (n : ℕ) (value : List Char) : Bool :=
  value.length = n && value.all fun c => c.isDigit || ('a' ≤ c && c ≤ 'f')

/-- A literal, then a hexadecimal text: `_WORKER_ID`, `_OPERATION_ID` and `_DEDUPLICATION_ID`. -/
def isPrefixed (literal : String) (n : ℕ) (value : String) : Bool :=
  startsWith value literal && isHex n (value.toList.drop literal.toList.length)

/-- `_identifier`. -/
def identifier (value fieldName : String) : Except String Unit :=
  check (isIdentifier value) s!"{fieldName} must be a canonical identifier"

/-- `_pattern`. -/
def pattern (matches_ : Bool) (fieldName : String) : Except String Unit :=
  check matches_ s!"{fieldName} is not canonical"

/-- `_positive_integer`. -/
def positiveInteger (value : Int) (fieldName : String) : Except String Unit :=
  check (0 < value) s!"{fieldName} must be a positive integer"

/-- `_finite_time`. -/
def finiteTime (value : ℚ) (fieldName : String) : Except String Unit :=
  check (0 ≤ value) s!"{fieldName} must be a finite non-negative number"

/-! ## Kinds and states -/

inductive WorkerOperationKind
  | travel
  | pve
  | playerAttack
  | vendor
  | guard
  | condemn
  | cancel
  | stop
deriving DecidableEq

inductive WorkerOperationState
  | accepted
  | active
  | succeeded
  | failed
  | cancelled
  | expired
  | rejected
deriving DecidableEq

def WorkerOperationState.terminal (state : WorkerOperationState) : Bool :=
  state ∈ [.succeeded, .failed, .cancelled, .expired, .rejected]

/-! ## Destinations and targets -/

structure WorkerTravelDestination where
  lt : {q : ℚ // 0 ≤ q}
  lg : {q : ℚ // 0 ≤ q}
  radius : Option {q : ℚ // 0 < q} := none
deriving DecidableEq

/-- An exact calibrated key of a player. -/
abbrev PlayerKey : Type := {key : ℕ × ℕ // (0 < key.1 ∧ key.1 ≤ 0xFFFFFFFF) ∧ key.2 = 53}

/-- A canonical native name or server. -/
abbrev PlayerText : Type :=
  {value : String // value ≠ "" ∧ value = strip value ∧ value.toList.length ≤ 64 ∧
    ∀ c ∈ value.toList, 32 ≤ c.toNat ∧ c.toNat ≠ 127}

structure WorkerPlayerAttackTarget where
  objectKey : PlayerKey
  name : PlayerText
  server : PlayerText
  localKey : PlayerKey
  distinct : objectKey ≠ localKey
deriving DecidableEq

/-! ## Commands of jobs -/

/-- The words of a command. -/
def words (command : String) : List String := (command.toList.splitOn ' ').map String.ofList

/-- `[1-9][0-9]{0,9}`. -/
def isQuantity (value : String) : Bool :=
  match value.toList with
  | [] => false
  | c :: rest => c.isDigit && c ≠ '0' && decide (rest.length ≤ 9) && rest.all Char.isDigit

def vendorCommand (command : String) : Bool :=
  match words command with
  | ["vendor", "start"] => true
  | ["vendor", "start", job] => isHex 32 job.toList
  | ["vendor", "discover"] => true
  | ["vendor", "recipes"] => true
  | ["vendor", "recipe", recipe, quantity] => isHex 32 recipe.toList && isQuantity quantity
  | ["vendor", "resume", job] => isHex 32 job.toList
  | _ => false

def guardCommand (command : String) : Bool :=
  match words command with
  | ["guard", "discover"] => true
  | ["guard", verb, operation] => verb ∈ ["start", "resume", "continue"] &&
    isPrefixed "operation-" 32 operation
  | _ => false

def condemnCommand (command : String) : Bool :=
  match words command with
  | ["condemn", "prepare"] => true
  | ["condemn", verb, operation] => verb ∈ ["start", "resume"] &&
    isPrefixed "operation-" 32 operation
  | _ => false

/-! ## Operations -/

/-- The fields of an operation. -/
structure OperationFields where
  nodeId : String
  clientId : String
  instanceId : String
  workerId : String
  workerProcessId : Int
  workerProcessStartedAt100ns : Int
  operationId : String
  deduplicationId : String
  kind : WorkerOperationKind
  command : String
  destination : Option WorkerTravelDestination
  issuedAt : ℚ
  expiresAt : ℚ
  playerTarget : Option WorkerPlayerAttackTarget := none
deriving DecidableEq

/-- The checks that operations and receipts share. -/
def checkIdentity (nodeId clientId instanceId workerId : String)
    (workerProcessId workerProcessStartedAt100ns : Int) (operationId deduplicationId : String) :
    Except String Unit := do
  identifier nodeId "node_id"
  identifier clientId "client_id"
  identifier instanceId "instance_id"
  pattern (isPrefixed "worker-" 32 workerId) "worker_id"
  positiveInteger workerProcessId "worker_process_id"
  positiveInteger workerProcessStartedAt100ns "worker_process_started_at_100ns"
  pattern (isPrefixed "operation-" 32 operationId) "operation_id"
  pattern (isPrefixed "dedup-" 64 deduplicationId) "deduplication_id"

/-- `WorkerOperation.__post_init__`. -/
def OperationFields.postInit (o : OperationFields) : Except String Unit := do
  checkIdentity o.nodeId o.clientId o.instanceId o.workerId o.workerProcessId
    o.workerProcessStartedAt100ns o.operationId o.deduplicationId
  Manager.command o.command
  check (¬ (o.kind = .vendor ∧ ¬ vendorCommand o.command)) "invalid vendor job command"
  check (¬ (o.kind = .guard ∧ ¬ guardCommand o.command)) "invalid guard job command"
  check (¬ (o.kind = .condemn ∧ ¬ condemnCommand o.command)) "invalid Condemn job command"
  check (¬ (o.kind ≠ .travel ∧ o.destination.isSome)) "only travel operations may carry a destination"
  check (¬ (o.kind = .playerAttack ∧ o.playerTarget.isNone))
    "player attack requires an immutable exact target"
  check (¬ (o.kind ≠ .playerAttack ∧ o.playerTarget.isSome))
    "only player attack operations may carry a player target"
  finiteTime o.issuedAt "issued_at"
  finiteTime o.expiresAt "expires_at"
  check (o.issuedAt < o.expiresAt) "expires_at must be later than issued_at"

abbrev WorkerOperation : Type := Checked OperationFields.postInit

/-- An exact lifetime of a worker; a permit may lack parts of it. -/
structure Target where
  nodeId : String
  clientId : String
  instanceId : Option String
  workerId : Option String
  processId : Option Int
  processStartedAt100ns : Option Int
deriving DecidableEq

namespace WorkerOperation

/-- `target_identity`. -/
def targetIdentity (operation : WorkerOperation) : Target :=
  let o := operation.val
  ⟨o.nodeId, o.clientId, some o.instanceId, some o.workerId, some o.workerProcessId,
    some o.workerProcessStartedAt100ns⟩

end WorkerOperation

/-! ## Receipts -/

/-- The fields of a receipt. -/
structure ReceiptFields where
  nodeId : String
  clientId : String
  instanceId : String
  workerId : String
  workerProcessId : Int
  workerProcessStartedAt100ns : Int
  operationId : String
  deduplicationId : String
  kind : WorkerOperationKind
  state : WorkerOperationState
  observedAt : ℚ
  detail : Option String := none
deriving DecidableEq

/-- `WorkerOperationReceipt.__post_init__`. -/
def ReceiptFields.postInit (r : ReceiptFields) : Except String Unit := do
  checkIdentity r.nodeId r.clientId r.instanceId r.workerId r.workerProcessId
    r.workerProcessStartedAt100ns r.operationId r.deduplicationId
  finiteTime r.observedAt "observed_at"
  Manager.detail r.detail

abbrev WorkerOperationReceipt : Type := Checked ReceiptFields.postInit

/-- `for_operation`. -/
def WorkerOperationReceipt.forOperation (operation : WorkerOperation) (state : WorkerOperationState)
    (observedAt : ℚ) (detail : Option String) : Except String WorkerOperationReceipt :=
  let o := operation.val
  build ReceiptFields.postInit ⟨o.nodeId, o.clientId, o.instanceId, o.workerId, o.workerProcessId,
    o.workerProcessStartedAt100ns, o.operationId, o.deduplicationId, o.kind, state, observedAt,
    detail⟩

structure WorkerOperationSnapshot where
  operation : WorkerOperation
  receipt : Option WorkerOperationReceipt

/-! ## Executions -/

/-- The fields of an execution. -/
structure ExecutionFields where
  state : WorkerOperationState
  detail : Option String := none
  nativeCleanupConfirmed : Bool := false
deriving DecidableEq

/-- `WorkerOperationExecution.__post_init__`. -/
def ExecutionFields.postInit (e : ExecutionFields) : Except String Unit := do
  check e.state.terminal "execution state must be terminal"
  check (¬ e.state ∈ [.expired, .rejected])
    "executor may return only succeeded, failed, or cancelled"
  Manager.detail e.detail

abbrev WorkerOperationExecution : Type := Checked ExecutionFields.postInit

/-! ## New operations -/

structure WorkerDispatchPermit where
  nodeId : String
  clientId : String
  allowed : Bool
  issuedAt : ℚ
  expiresAt : ℚ
  reason : String
  instanceId : Option String := none
  workerId : Option String := none
  processId : Option Int := none
  processStartedAt100ns : Option Int := none
deriving DecidableEq

/-- The identity that a permit is for. -/
def WorkerDispatchPermit.targetIdentity (permit : WorkerDispatchPermit) : Target :=
  ⟨permit.nodeId, permit.clientId, permit.instanceId, permit.workerId, permit.processId,
    permit.processStartedAt100ns⟩

/-- What the digest of an operation is taken of. -/
structure Deduplication where
  nodeId : String
  clientId : String
  instanceId : String
  workerId : String
  operationId : String
  kind : WorkerOperationKind
  command : String
  destination : Option WorkerTravelDestination
  playerTarget : Option WorkerPlayerAttackTarget

/-- The host's `uuid.uuid4().hex` and the hexadecimal digest of the canonical encoding. -/
structure Fresh where
  uuid : String
  digest : Deduplication → String

/-- `new_worker_operation`. -/
def newWorkerOperation (fresh : Fresh) (permit : WorkerDispatchPermit) (kind : WorkerOperationKind)
    (command : String) (destination : Option WorkerTravelDestination)
    (playerTarget : Option WorkerPlayerAttackTarget) (now ttlSeconds : ℚ)
    (operationId deduplicationId : Option String) : Except String WorkerOperation := do
  check permit.allowed "an allowed exact dispatch permit is required"
  match permit.instanceId, permit.workerId, permit.processId, permit.processStartedAt100ns with
  | some instanceId, some workerId, some processId, some processStartedAt100ns =>
    finiteTime now "now"
    check (0 < ttlSeconds) "ttl_seconds must be finite and positive"
    -- An empty identifier is replaced, as a missing one is.
    let operationId := match operationId with
      | some id => if id = "" then s!"operation-{fresh.uuid}" else id
      | none => s!"operation-{fresh.uuid}"
    let deduplicationId := deduplicationId.getD ("dedup-" ++ fresh.digest ⟨permit.nodeId,
      permit.clientId, instanceId, workerId, operationId, kind, command, destination, playerTarget⟩)
    build OperationFields.postInit ⟨permit.nodeId, permit.clientId, instanceId, workerId, processId,
      processStartedAt100ns, operationId, deduplicationId, kind, command, destination, now,
      now + ttlSeconds, playerTarget⟩
  | _, _, _, _ => .error "dispatch permit lacks exact worker identity"

/-- A new operation is of its kind, and for the worker of its permit. -/
theorem newWorkerOperation_eq_ok {fresh : Fresh} {permit : WorkerDispatchPermit}
    {kind : WorkerOperationKind} {command : String} {destination : Option WorkerTravelDestination}
    {playerTarget : Option WorkerPlayerAttackTarget} {now ttlSeconds : ℚ}
    {operationId deduplicationId : Option String} {operation : WorkerOperation}
    (h : newWorkerOperation fresh permit kind command destination playerTarget now ttlSeconds
      operationId deduplicationId = .ok operation) :
    operation.val.kind = kind ∧ operation.targetIdentity = permit.targetIdentity := by
  obtain ⟨-, -, h⟩ := bind_eq_ok.1 h
  split at h
  case h_1 instanceId workerId processId processStartedAt100ns hinstance hworker hprocess hstarted =>
    obtain ⟨-, -, h⟩ := bind_eq_ok.1 h
    obtain ⟨-, -, h⟩ := bind_eq_ok.1 h
    have hval := val_of_build h
    rw [WorkerOperation.targetIdentity, WorkerDispatchPermit.targetIdentity, hval, hinstance, hworker,
      hprocess, hstarted]
    exact ⟨rfl, rfl⟩
  case h_2 => cases h

end ShadowbaneLab.Manager
