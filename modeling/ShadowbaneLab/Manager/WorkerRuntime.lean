/-
# Failures of an exact worker

`manager/worker_runtime.py`, with the heartbeats of `manager/worker.py`: how the thread of an
operation ends, which receipt its worker publishes for it, and what the worker publishes when it
fails itself.  When every text that is written on the way is canonical.
-/
import Mathlib.Data.List.TakeDrop
import Mathlib.Tactic.Linarith
import ShadowbaneLab.Manager.Operation

namespace ShadowbaneLab.Manager

open Foundation

/-! ## Heartbeats -/

inductive WorkerRuntimeState
  | starting
  | running
  | degraded
  | stopping
  | stopped
  | failed
deriving DecidableEq

/-- `_require_optional_detail`. -/
def requireOptionalDetail : Option String → Except String Unit
  | none => .ok ()
  | some value =>
    check (canonical value) "detail must be null or canonical text of at most 512 characters"

/-- `_require_identifier`. -/
def requireIdentifier (value fieldName : String) : Except String Unit :=
  check (isIdentifier value) (s!"{fieldName} must start with an ASCII letter or digit and contain " ++
    "only letters, digits, '.', '_', or '-' (maximum 128 characters)")

/-- `_require_worker_id`. -/
def requireWorkerId (value : String) : Except String Unit :=
  check (isPrefixed "worker-" 32 value)
    "worker_id must use the canonical worker-<32 lowercase hex digits> form"

/-- The fields of a heartbeat. -/
structure HeartbeatFields where
  nodeId : String
  clientId : String
  instanceId : String
  workerId : String
  processId : Int
  processStartedAt100ns : Int
  sequence : Int
  observedAt : ℚ
  runtimeState : WorkerRuntimeState
  dispatchReady : Bool
  emergencyStop : Bool
  detail : Option String := none
  evidenceSequence : Option Int := none
deriving DecidableEq

/-- `WorkerHeartbeat.__post_init__`. -/
def HeartbeatFields.postInit (h : HeartbeatFields) : Except String Unit := do
  requireIdentifier h.nodeId "node_id"
  requireIdentifier h.clientId "client_id"
  requireIdentifier h.instanceId "instance_id"
  requireWorkerId h.workerId
  positiveInteger h.processId "process_id"
  positiveInteger h.processStartedAt100ns "process_started_at_100ns"
  positiveInteger h.sequence "sequence"
  finiteTime h.observedAt "observed_at"
  requireOptionalDetail h.detail
  check (h.evidenceSequence.all (0 ≤ ·)) "evidence_sequence must be a non-negative integer or null"
  check (¬ (h.dispatchReady ∧ h.runtimeState ≠ .running))
    "dispatch_ready may be true only while runtime_state is running"
  check (¬ (h.dispatchReady ∧ h.emergencyStop)) "dispatch_ready must be false after emergency stop"

abbrev WorkerHeartbeat : Type := Checked HeartbeatFields.postInit

/-- Who publishes heartbeats: checked by the constructor of `WorkerHeartbeatPublisher`. -/
structure PublisherIdentity where
  nodeId : String
  clientId : String
  instanceId : String
  workerId : String
  processId : Int
  processStartedAt100ns : Int
  node : isIdentifier nodeId = true
  client : isIdentifier clientId = true
  instance_ : isIdentifier instanceId = true
  worker : isPrefixed "worker-" 32 workerId = true
  process : 0 < processId
  started : 0 < processStartedAt100ns

/-- A reading of the clock. -/
abbrev Time : Type := {t : ℚ // 0 ≤ t}

/-- `WorkerHeartbeatPublisher`. -/
structure WorkerHeartbeatPublisher where
  identity : PublisherIdentity
  sequence : ℕ := 0
  lastObservedAt : ℚ := -1
  emergencyStop : Bool := false
  closed : Bool := false

namespace WorkerHeartbeatPublisher

variable (publisher : WorkerHeartbeatPublisher)

/-- `publish`, with the publisher that it leaves; what precedes a failed check stays. -/
def publish (now : Time) (runtimeState : WorkerRuntimeState) (dispatchReady emergencyStop : Bool)
    (detail : Option String) (evidenceSequence : Option Int) :
    Except String WorkerHeartbeat × WorkerHeartbeatPublisher :=
  if publisher.closed then (.error "worker heartbeat publisher is closed", publisher)
  else
    let stopped := publisher.emergencyStop || emergencyStop
    let observedAt := max now.val (publisher.lastObservedAt + 1 / 1000000)
    let next := { publisher with emergencyStop := stopped, sequence := publisher.sequence + 1 }
    let identity := publisher.identity
    match build HeartbeatFields.postInit ⟨identity.nodeId, identity.clientId, identity.instanceId,
        identity.workerId, identity.processId, identity.processStartedAt100ns,
        (publisher.sequence + 1 : ℕ), observedAt, runtimeState, dispatchReady && !stopped, stopped,
        detail, evidenceSequence⟩ with
    | .error message => (.error message, next)
    | .ok heartbeat => (.ok heartbeat, { next with lastObservedAt := observedAt })

/-- `close`, of a publisher that is open. -/
def close (now : Time) (detail : Option String) : Except String WorkerHeartbeat × WorkerHeartbeatPublisher :=
  match publisher.publish now .stopped false false detail none with
  | (.error message, next) => (.error message, next)
  | (.ok heartbeat, next) => (.ok heartbeat, { next with closed := true })

end WorkerHeartbeatPublisher

/-! ## The thread of an operation -/

/-- `text or default`. -/
def orDefault (text default : String) : String := if text = "" then default else text

/-- How the executor ends. -/
inductive Ended
  | returned (result : WorkerOperationExecution)
  | invalid
  | raised (message : String)

/-- The result that an exception becomes. -/
def failedExecution (message : String) : Except String WorkerOperationExecution :=
  build ExecutionFields.postInit ⟨.failed, some (orDefault (cut 512 message) "worker operation failed"), false⟩

/-- The result before the stop signal is looked at. -/
def Ended.result : Ended → Except String WorkerOperationExecution
  | .returned result => .ok result
  | .invalid => failedExecution "worker operation executor returned an invalid result"
  | .raised message => failedExecution message

/-- `trip`: the reason that a stop signal keeps. -/
def trip (recorded : Option String) (reason : String) : Option String :=
  match recorded with
  | none => some (cut 256 reason)
  | some reason => some reason

/-- The reason of a stop before what an operation says itself. -/
def stopText (reason : String) (detail : Option String) : String :=
  reason ++ "; " ++ orDefault (detail.getD "") "operation stopped"

/-- The result, with the reason of a stop. -/
def stopped (reason : Option String) (result : WorkerOperationExecution) :
    Except String WorkerOperationExecution :=
  if reason.getD "" ≠ "" ∧ result.val.state ≠ .succeeded then
    build ExecutionFields.postInit { result.val with
      detail := some (cut 512 (stopText (reason.getD "") result.val.detail)) }
  else .ok result

/-- `execute`: what the thread puts into the queue; an exception that escapes ends it before. -/
def execute (ended : Ended) (reason : Option String) : List WorkerOperationExecution :=
  match (do stopped reason (← ended.result)) with
  | .ok result => [result]
  | .error _ => []

/-! ## Receipts of the worker -/

/-- `_complete_active_operation`. -/
def completeActiveOperation (operation : WorkerOperation) (results : List WorkerOperationExecution)
    (now : Time) : Except String WorkerOperationReceipt :=
  match results with
  | [] => .error "operation thread exited without a terminal result"
  | result :: _ => WorkerOperationReceipt.forOperation operation result.val.state now.val result.val.detail

/-- `_cancel_active_operation`, once the thread was joined or is still alive. -/
def cancelActiveOperation (operation : WorkerOperation) (alive : Bool)
    (results : List WorkerOperationExecution) (detail : String) (now : Time) :
    Except String WorkerOperationReceipt :=
  if alive then
    WorkerOperationReceipt.forOperation operation .failed now.val
      (some "operation did not stop before its worker runtime exited")
  else do
    let cancelled := build ExecutionFields.postInit ⟨.cancelled, some (cut 512 detail), false⟩
    let result ← match results with
      | [] => cancelled
      | result :: _ => .ok result
    let result ← if result.val.state = .succeeded then cancelled else .ok result
    WorkerOperationReceipt.forOperation operation result.val.state now.val result.val.detail

/-- The detail of a worker that failed. -/
def finalDetail (message : String) : String := orDefault (cut 512 message) "worker runtime failed"

/-- An operation that is active when its worker fails. -/
structure ActiveWorkerOperation where
  operation : WorkerOperation
  alive : Bool
  results : List WorkerOperationExecution

/-- What a worker writes when it fails. -/
structure Farewell where
  receipt : Except String (Option WorkerOperationReceipt)
  failed : Except String WorkerHeartbeat
  closing : Except String WorkerHeartbeat

/-- The last handler of `serve`, and what follows it: a receipt that cannot be built keeps the
heartbeat of the failure from being published, and nothing keeps the last one. -/
def farewell (publisher : WorkerHeartbeatPublisher) (active : Option ActiveWorkerOperation)
    (message : String) (receiptTime failedTime closingTime : Time) : Farewell :=
  let detail := finalDetail message
  let receipt : Except String (Option WorkerOperationReceipt) := match active with
    | none => .ok none
    | some active => do
      return some (← cancelActiveOperation active.operation active.alive active.results detail
        receiptTime)
  match receipt with
  | .error error => ⟨.error error, .error error, (publisher.close closingTime (some detail)).1⟩
  | .ok receipt =>
    let (failed, publisher) := publisher.publish failedTime .failed false true (some detail) none
    ⟨.ok receipt, failed, (publisher.close closingTime (some detail)).1⟩

/-! ## Canonical texts -/

section Texts

variable {text reason detail : String} {n : ℕ}

@[simp] theorem toList_cut : (cut n text).toList = text.toList.take n := String.toList_ofList

/-- No white space begins or ends the text. -/
def Trimmed (text : List Char) : Prop :=
  (∀ c ∈ text.head?, isSpace c = false) ∧ ∀ c ∈ text.getLast?, isSpace c = false

theorem trimmed_iff {l : List Char} :
    (l.dropWhile isSpace).rdropWhile isSpace = l ↔ Trimmed l := by
  have hhead : l.dropWhile isSpace = l ↔ ∀ c ∈ l.head?, isSpace c = false := by
    rw [List.dropWhile_eq_self_iff]
    cases l <;> simp
  have hlast : l.rdropWhile isSpace = l ↔ ∀ c ∈ l.getLast?, isSpace c = false := by
    rw [List.rdropWhile_eq_self_iff]
    rcases List.eq_nil_or_concat' l with rfl | ⟨init, last, rfl⟩ <;> simp
  rw [Trimmed, ← hhead, ← hlast]
  constructor
  · intro h
    have hsuffix := List.dropWhile_suffix (l := l) isSpace
    have hprefix := (List.rdropWhile_prefix isSpace (l.dropWhile isSpace)).length_le
    rw [h] at hprefix
    have hwhole := hsuffix.eq_of_length (Nat.le_antisymm hsuffix.length_le hprefix)
    rw [hwhole] at h
    exact ⟨hwhole, h⟩
  · rintro ⟨hwhole, h⟩
    rw [hwhole, h]

theorem canonical_iff : canonical text = true ↔
    text ≠ "" ∧ Trimmed text.toList ∧ text.toList.length ≤ 512 ∧
      ∀ c ∈ text.toList, forbidden c = false := by
  have hstrip : text = strip text ↔ Trimmed text.toList := by
    rw [← trimmed_iff, strip, ← String.toList_inj, String.toList_ofList, eq_comm]
  rw [canonical, decide_eq_true_eq, hstrip]
  simp

/-- The first 512 characters of a text can be written. -/
structure Clean (text : String) : Prop where
  start : ∀ c ∈ text.toList.head?, isSpace c = false
  last : ∀ c ∈ (text.toList.take 512).getLast?, isSpace c = false
  allowed : ∀ c ∈ text.toList.take 512, forbidden c = false

theorem canonical_cut_iff (h : text ≠ "") : canonical (cut 512 text) = true ↔ Clean text := by
  have hne : cut 512 text ≠ "" := by
    rw [ne_eq, ← String.toList_inj, toList_cut]
    rw [ne_eq, ← String.toList_inj] at h
    simpa using h
  have hhead : (text.toList.take 512).head? = text.toList.head? := by
    rw [List.head?_take, if_neg (by decide)]
  rw [canonical_iff, toList_cut, Trimmed, hhead]
  constructor
  · rintro ⟨-, ⟨hstart, hlast⟩, -, hallowed⟩
    exact ⟨hstart, hlast, hallowed⟩
  · rintro ⟨hstart, hlast, hallowed⟩
    exact ⟨hne, ⟨hstart, hlast⟩, by simp, hallowed⟩

/-- The reason of a stop can be written before what an operation says. -/
structure StopClean (reason detail : String) : Prop where
  start : ∀ c ∈ reason.toList.head?, isSpace c = false
  allowed : ∀ c ∈ reason.toList, forbidden c = false
  last : 512 < reason.toList.length + 2 + detail.toList.length →
    ∀ c ∈ detail.toList[509 - reason.toList.length]?, isSpace c = false

/-- A canonical text after a short reason. -/
theorem clean_stop_iff (hreason : reason ≠ "") (hshort : reason.toList.length ≤ 256)
    (hdetail : canonical detail = true) :
    Clean (reason ++ "; " ++ detail) ↔ StopClean reason detail := by
  obtain ⟨hne, ⟨-, hend⟩, -, hallowed⟩ := canonical_iff.1 hdetail
  have hpos : 0 < detail.toList.length :=
    List.length_pos_iff.2 fun h => hne (String.toList_eq_nil_iff.1 h)
  have hstart : reason.toList ≠ [] := fun h => hreason (String.toList_eq_nil_iff.1 h)
  have hlist : (reason ++ "; " ++ detail).toList =
      reason.toList ++ ([';', ' '] ++ detail.toList) := by
    rw [String.toList_append, String.toList_append, List.append_assoc]
    rfl
  have hhead : (reason ++ "; " ++ detail).toList.head? = reason.toList.head? := by
    rw [hlist, List.head?_append_of_ne_nil _ hstart]
  have hmiddle : ∀ c ∈ [';', ' '], forbidden c = false := by simp [forbidden]
  have htake : (∀ c ∈ (reason ++ "; " ++ detail).toList.take 512, forbidden c = false) ↔
      ∀ c ∈ reason.toList, forbidden c = false := by
    rw [hlist]
    constructor
    · intro h c hc
      refine h c ?_
      rw [List.take_append]
      exact List.mem_append_left _ (by rwa [List.take_of_length_le (by omega)])
    · intro h c hc
      rcases List.mem_append.1 (List.mem_of_mem_take hc) with hc | hc
      · exact h c hc
      · rcases List.mem_append.1 hc with hc | hc
        · exact hmiddle c hc
        · exact hallowed c hc
  have hlast : (∀ c ∈ ((reason ++ "; " ++ detail).toList.take 512).getLast?, isSpace c = false) ↔
      (512 < reason.toList.length + 2 + detail.toList.length →
        ∀ c ∈ detail.toList[509 - reason.toList.length]?, isSpace c = false) := by
    rw [hlist]
    by_cases hlong : 512 < reason.toList.length + 2 + detail.toList.length
    · have hget : (reason.toList ++ ([';', ' '] ++ detail.toList))[511]? =
          detail.toList[509 - reason.toList.length]? := by
        rw [List.getElem?_append_right (by omega), List.getElem?_append_right
          (by simp only [List.length_cons, List.length_nil]; omega)]
        congr 1
        simp only [List.length_cons, List.length_nil]
        omega
      have hsome : ∃ c, detail.toList[509 - reason.toList.length]? = some c :=
        ⟨_, List.getElem?_eq_getElem (by omega)⟩
      obtain ⟨c, hc⟩ := hsome
      rw [List.getLast?_take, if_neg (by decide), hget, hc, Option.some_or]
      exact ⟨fun h _ => h, fun h => h hlong⟩
    · have hall : (reason.toList ++ ([';', ' '] ++ detail.toList)).length ≤ 512 := by
        simp only [List.length_append, List.length_cons, List.length_nil]
        omega
      rw [List.take_of_length_le hall, List.getLast?_append_of_ne_nil _ (by simp),
        List.getLast?_append_of_ne_nil _ (List.ne_nil_of_length_pos hpos)]
      exact iff_of_true hend fun h => absurd h hlong
  constructor
  · rintro ⟨hclean, hcut, hall⟩
    exact ⟨hhead ▸ hclean, htake.1 hall, hlast.1 hcut⟩
  · rintro ⟨hclean, hall, hcut⟩
    exact ⟨hhead ▸ hclean, hlast.2 hcut, htake.2 hall⟩

theorem canonical_orDefault_iff (h : canonical reason = true) :
    canonical (orDefault (cut 512 text) reason) = true ↔ Clean text := by
  by_cases hempty : text = ""
  · subst hempty
    have hclean : Clean "" := ⟨by simp, by simp, by simp⟩
    exact iff_of_true h hclean
  · have hcut : cut 512 text ≠ "" := by
      rw [ne_eq, ← String.toList_inj, toList_cut]
      rw [← ne_eq, ne_eq, ← String.toList_inj] at hempty
      simpa using hempty
    rw [orDefault, if_neg hcut, canonical_cut_iff hempty]

end Texts

/-! ## What is written -/

variable {detail : Option String}

section Written

variable {operation : WorkerOperation} {ended : Ended} {result : WorkerOperationExecution}
  {text : String}

/-- An execution of a kind that an executor may return is written when its detail is canonical. -/
theorem exists_execution_iff {state : WorkerOperationState} {confirmed : Bool}
    (hstate : state ∈ [.succeeded, .failed, .cancelled]) :
    (∃ e, build ExecutionFields.postInit ⟨state, some text, confirmed⟩ = .ok e) ↔
      canonical text = true := by
  rw [exists_build_iff, ExecutionFields.postInit, check_bind_eq_ok, check_bind_eq_ok, check_eq_ok,
    check_eq_ok, Manager.detail, check_eq_ok]
  have hkind : state.terminal = true ∧ decide (¬ state ∈ [.expired, .rejected]) = true := by
    revert hstate
    cases state <;> decide
  simp only [hkind, true_and]

theorem state_of_execution (result : WorkerOperationExecution) :
    result.val.state ∈ [.succeeded, .failed, .cancelled] ∧
      ∀ text, result.val.detail = some text → canonical text = true := by
  have h := result.property
  rw [ExecutionFields.postInit, check_bind_eq_ok, check_bind_eq_ok, check_eq_ok, check_eq_ok] at h
  obtain ⟨hterminal, hown, hdetail⟩ := h
  refine ⟨?_, fun text htext => ?_⟩
  · revert hterminal hown
    cases result.val.state <;> decide
  · rw [htext, Manager.detail, check_eq_ok] at hdetail
    exact hdetail

/-- A receipt is written when its detail is canonical. -/
theorem exists_receipt (operation : WorkerOperation) (state : WorkerOperationState) (now : Time)
    (h : ∀ text, detail = some text → canonical text = true) :
    ∃ receipt, WorkerOperationReceipt.forOperation operation state now.val detail = .ok receipt := by
  have hoperation := operation.property
  rw [OperationFields.postInit, check_bind_eq_ok] at hoperation
  rw [WorkerOperationReceipt.forOperation, exists_build_iff, ReceiptFields.postInit, check_bind_eq_ok,
    check_bind_eq_ok, finiteTime, check_eq_ok]
  refine ⟨hoperation.1, decide_eq_true now.property, ?_⟩
  cases detail with
  | none => rfl
  | some text => exact check_eq_ok.2 (h text rfl)

/-- A heartbeat that is not ready is written when its detail is canonical. -/
theorem exists_heartbeat_iff {publisher : WorkerHeartbeatPublisher} {now : Time}
    {state : WorkerRuntimeState} {emergencyStop : Bool} (hopen : publisher.closed = false) :
    (∃ heartbeat, (publisher.publish now state false emergencyStop (some text) none).1 =
      .ok heartbeat) ↔ canonical text = true := by
  have hidentity := publisher.identity
  have hobserved : 0 ≤ max now.val (publisher.lastObservedAt + 1 / 1000000) :=
    le_max_of_le_left now.property
  have hsequence : (0 : Int) < ((publisher.sequence + 1 : ℕ) : Int) := by omega
  have hfirst : ∀ heartbeat, (publisher.publish now state false emergencyStop (some text) none).1 =
      .ok heartbeat ↔ build HeartbeatFields.postInit ⟨publisher.identity.nodeId,
        publisher.identity.clientId, publisher.identity.instanceId, publisher.identity.workerId,
        publisher.identity.processId, publisher.identity.processStartedAt100ns,
        (publisher.sequence + 1 : ℕ), max now.val (publisher.lastObservedAt + 1 / 1000000), state,
        false, publisher.emergencyStop || emergencyStop, some text, none⟩ = .ok heartbeat := by
    intro heartbeat
    rw [WorkerHeartbeatPublisher.publish, if_neg (by simp [hopen])]
    dsimp only
    rw [Bool.false_and]
    split <;> simp_all
  simp only [hfirst]
  rw [exists_build_iff, HeartbeatFields.postInit]
  simp only [check_bind_eq_ok, requireIdentifier, requireWorkerId, positiveInteger, finiteTime,
    requireOptionalDetail, check_eq_ok, publisher.identity.node, publisher.identity.client,
    publisher.identity.instance_, publisher.identity.worker, publisher.identity.process,
    publisher.identity.started, hsequence, hobserved]
  simp

end Written

/-! ## Contained failures -/

namespace Ended

/-- The state of the result. -/
def state : Ended → WorkerOperationState
  | .returned result => result.val.state
  | .invalid => .failed
  | .raised _ => .failed

/-- What the operation says itself after the reason of a stop. -/
def text : Ended → String
  | .returned result => orDefault (result.val.detail.getD "") "operation stopped"
  | .invalid => "worker operation executor returned an invalid result"
  | .raised message => orDefault (cut 512 message) "worker operation failed"

end Ended

/-- The reason that a stop signal has after it was tripped some times. -/
def reasonOf (trips : List String) : Option String := trips.foldl trip none

theorem reasonOf_eq (trips : List String) : reasonOf trips = trips.head?.map (cut 256) := by
  have hkept (reason : String) (trips : List String) :
      trips.foldl trip (some reason) = some reason := by
    induction trips with
    | nil => rfl
    | cons _ _ ih => exact ih
  cases trips with
  | nil => rfl
  | cons reason trips => exact hkept (cut 256 reason) trips

/-- What a failing operation, or a failing worker, must not keep from being written. -/
structure Contained (operation : WorkerOperation) (ended : Ended) (trips : List String)
    (message : String) : Prop where
  once : ∃ result, execute ended (reasonOf trips) = [result]
  completed : ∀ now, ∃ receipt,
    completeActiveOperation operation (execute ended (reasonOf trips)) now = .ok receipt
  cancelled : ∀ alive detail now, canonical detail = true → ∃ receipt,
    cancelActiveOperation operation alive (execute ended (reasonOf trips)) detail now = .ok receipt
  farewell : ∀ publisher : WorkerHeartbeatPublisher, publisher.closed = false →
    ∀ active receiptTime failedTime closingTime,
      let last := farewell publisher active message receiptTime failedTime closingTime
      (∃ receipt, last.receipt = .ok receipt) ∧ (∃ heartbeat, last.failed = .ok heartbeat) ∧
        ∃ heartbeat, last.closing = .ok heartbeat

section Results

variable {ended : Ended} {result : WorkerOperationExecution} {reason : String}

theorem exists_failedExecution_iff {message : String} :
    (∃ result, failedExecution message = .ok result) ↔ Clean message := by
  rw [failedExecution, exists_execution_iff (by decide)]
  exact canonical_orDefault_iff (by decide)

/-- An operation has a result unless the message of its exception cannot be written. -/
theorem exists_result_iff : (∃ result, ended.result = .ok result) ↔
    ∀ message, ended = .raised message → Clean message := by
  cases ended with
  | returned result => exact iff_of_true ⟨result, rfl⟩ nofun
  | invalid =>
    refine iff_of_true (exists_failedExecution_iff.2 ?_) nofun
    exact (canonical_cut_iff (by decide)).1 (by decide +kernel)
  | raised message =>
    refine exists_failedExecution_iff.trans ⟨?_, fun h => h message rfl⟩
    rintro h _ ⟨⟩
    exact h

theorem result_eq (h : ended.result = .ok result) :
    result.val.state = ended.state ∧
      orDefault (result.val.detail.getD "") "operation stopped" = ended.text := by
  have hfailed {message : String} (h : failedExecution message = .ok result) :
      result.val.state = .failed ∧ orDefault (result.val.detail.getD "") "operation stopped" =
        orDefault (cut 512 message) "worker operation failed" := by
    rw [val_of_build h]
    refine ⟨rfl, if_neg ?_⟩
    show orDefault (cut 512 message) "worker operation failed" ≠ ""
    rw [orDefault]
    split
    case isTrue => decide
    case isFalse hne => exact hne
  cases ended with
  | returned result' =>
    cases h
    exact ⟨rfl, rfl⟩
  | invalid =>
    refine ⟨(hfailed h).1, (hfailed h).2.trans ?_⟩
    decide
  | raised message => exact hfailed h

theorem canonical_text (h : ended.result = .ok result) : canonical ended.text = true := by
  rw [← (result_eq h).2]
  cases hdetail : result.val.detail with
  | none => exact (by decide : canonical "operation stopped" = true)
  | some text =>
    have htext := (state_of_execution result).2 text hdetail
    rw [Option.getD_some, orDefault, if_neg (canonical_iff.1 htext).1]
    exact htext

/-- The reason of a stop is written before what an operation says, when the two are clean. -/
theorem exists_stopped_iff {trips : List String} (h : ended.result = .ok result) :
    (∃ result', stopped (reasonOf trips) result = .ok result') ↔
      ∀ reason, trips.head? = some reason → reason ≠ "" → ended.state ≠ .succeeded →
        StopClean (cut 256 reason) ended.text := by
  obtain ⟨hstate, htext⟩ := result_eq h
  rw [reasonOf_eq, stopped, hstate]
  cases trips with
  | nil => exact iff_of_true ⟨result, rfl⟩ nofun
  | cons reason trips =>
    have hcut : cut 256 reason ≠ "" ↔ reason ≠ "" := by
      rw [ne_eq, ne_eq, ← String.toList_inj, ← String.toList_inj, toList_cut]
      simp
    have hshort : (cut 256 reason).toList.length ≤ 256 := by simp
    rw [List.head?_cons, Option.map_some, Option.getD_some]
    by_cases hwritten : cut 256 reason ≠ "" ∧ ended.state ≠ .succeeded
    · rw [if_pos hwritten, exists_execution_iff (hstate ▸ (state_of_execution result).1),
        canonical_cut_iff (by simp [stopText]), stopText, htext,
        clean_stop_iff hwritten.1 hshort (canonical_text h)]
      refine ⟨?_, fun h => h reason rfl (hcut.1 hwritten.1) hwritten.2⟩
      rintro h _ ⟨⟩ - -
      exact h
    · rw [if_neg hwritten]
      refine iff_of_true ⟨result, rfl⟩ ?_
      rintro _ ⟨⟩ hne hother
      exact absurd ⟨hcut.2 hne, hother⟩ hwritten

/-- When the thread of an operation puts its one result. -/
theorem exists_execute_iff {trips : List String} :
    (∃ result, execute ended (reasonOf trips) = [result]) ↔
      (∀ message, ended = .raised message → Clean message) ∧
        ∀ reason, trips.head? = some reason → reason ≠ "" → ended.state ≠ .succeeded →
          StopClean (cut 256 reason) ended.text := by
  rw [← exists_result_iff]
  cases hresult : ended.result with
  | error message =>
    rw [execute, hresult]
    refine iff_of_false ?_ ?_
    · rintro ⟨result, h⟩
      cases h
    · rintro ⟨⟨result, h⟩, -⟩
      cases h
  | ok result =>
    rw [← exists_stopped_iff hresult, execute, hresult, ok_bind, and_iff_right ⟨result, rfl⟩]
    cases hstopped : stopped (reasonOf trips) result with
    | error message => simp
    | ok result' => simp

end Results

/-! ## Receipts and last heartbeats -/

section Receipts

variable {operation : WorkerOperation} {result : WorkerOperationExecution} {detail message : String}

theorem exists_completed (operation : WorkerOperation) (result : WorkerOperationExecution)
    (now : Time) : ∃ receipt, completeActiveOperation operation [result] now = .ok receipt :=
  exists_receipt operation result.val.state now (state_of_execution result).2

theorem cut_of_canonical (h : canonical detail = true) : cut 512 detail = detail := by
  rw [← String.toList_inj, toList_cut, List.take_of_length_le (canonical_iff.1 h).2.2.1]

/-- A cancellation with a canonical detail is always written, whatever the queue holds. -/
theorem exists_cancelled (h : canonical detail = true) (operation : WorkerOperation) (alive : Bool)
    (results : List WorkerOperationExecution) (now : Time) :
    ∃ receipt, cancelActiveOperation operation alive results detail now = .ok receipt := by
  have hbuilt : ∃ cancelled,
      build ExecutionFields.postInit ⟨.cancelled, some (cut 512 detail), false⟩ = .ok cancelled :=
    (exists_execution_iff (by decide)).2 (by rwa [cut_of_canonical h])
  obtain ⟨cancelled, hcancelled⟩ := hbuilt
  have hwritten (result : WorkerOperationExecution) := exists_receipt operation result.val.state now
    (state_of_execution result).2
  cases alive with
  | true =>
    refine exists_receipt operation .failed now ?_
    rintro _ ⟨⟩
    decide
  | false =>
    rw [cancelActiveOperation, if_neg Bool.false_ne_true, hcancelled]
    cases results with
    | nil =>
      by_cases hsucceeded : cancelled.val.state = .succeeded
      · simpa only [ok_bind, hsucceeded, if_true] using hwritten cancelled
      · simpa only [ok_bind, if_neg hsucceeded] using hwritten cancelled
    | cons result results =>
      by_cases hsucceeded : result.val.state = .succeeded
      · simpa only [ok_bind, if_pos hsucceeded] using hwritten cancelled
      · simpa only [ok_bind, if_neg hsucceeded] using hwritten result

theorem canonical_finalDetail_iff : canonical (finalDetail message) = true ↔ Clean message :=
  canonical_orDefault_iff (by decide)

theorem closed_publish {publisher : WorkerHeartbeatPublisher} {now : Time}
    {state : WorkerRuntimeState} {ready emergencyStop : Bool} {evidence : Option Int} :
    (publisher.publish now state ready emergencyStop detail evidence).2.closed =
      publisher.closed := by
  rw [WorkerHeartbeatPublisher.publish]
  split
  · rfl
  · dsimp only
    split <;> rfl

theorem exists_close_iff {publisher : WorkerHeartbeatPublisher} {now : Time}
    (hopen : publisher.closed = false) :
    (∃ heartbeat, (publisher.close now (some detail)).1 = .ok heartbeat) ↔
      canonical detail = true := by
  rw [← @exists_heartbeat_iff detail publisher now .stopped false hopen,
    WorkerHeartbeatPublisher.close]
  split <;> simp_all

end Receipts

/-- A worker that did not publish anything. -/
def samplePublisher : WorkerHeartbeatPublisher where
  identity :=
    { nodeId := "node"
      clientId := "one"
      instanceId := "game"
      workerId := "worker-00000000000000000000000000000000"
      processId := 1
      processStartedAt100ns := 1
      node := by decide
      client := by decide
      instance_ := by decide
      worker := by decide
      process := by decide
      started := by decide }

/-- Failures are contained exactly when every message, and every reason of a stop that is put before
what an operation says, can be written as it is cut. -/
theorem contained_iff {operation : WorkerOperation} {ended : Ended} {trips : List String}
    {message : String} :
    Contained operation ended trips message ↔
      ((∀ raised, ended = .raised raised → Clean raised) ∧
        ∀ reason, trips.head? = some reason → reason ≠ "" → ended.state ≠ .succeeded →
          StopClean (cut 256 reason) ended.text) ∧ Clean message := by
  rw [← exists_execute_iff, ← canonical_finalDetail_iff]
  constructor
  · intro h
    refine ⟨h.once, ?_⟩
    obtain ⟨-, hfailed, -⟩ := h.farewell samplePublisher rfl none ⟨0, le_rfl⟩ ⟨0, le_rfl⟩ ⟨0, le_rfl⟩
    exact (@exists_heartbeat_iff _ samplePublisher ⟨0, le_rfl⟩ .failed true rfl).1 hfailed
  · rintro ⟨⟨result, honce⟩, hmessage⟩
    have hfarewell : ∀ publisher : WorkerHeartbeatPublisher, publisher.closed = false →
        ∀ active receiptTime failedTime closingTime,
          let last := farewell publisher active message receiptTime failedTime closingTime
          (∃ receipt, last.receipt = .ok receipt) ∧ (∃ heartbeat, last.failed = .ok heartbeat) ∧
            ∃ heartbeat, last.closing = .ok heartbeat := by
      intro publisher hopen active receiptTime failedTime closingTime
      have hlast :
          (∃ heartbeat, (publisher.publish failedTime .failed false true
            (some (finalDetail message)) none).1 = .ok heartbeat) ∧
          ∃ heartbeat, ((publisher.publish failedTime .failed false true
            (some (finalDetail message)) none).2.close closingTime
              (some (finalDetail message))).1 = .ok heartbeat :=
        ⟨(exists_heartbeat_iff hopen).2 hmessage,
          (exists_close_iff (closed_publish.trans hopen)).2 hmessage⟩
      cases active with
      | none => exact ⟨⟨none, rfl⟩, hlast⟩
      | some active =>
        obtain ⟨receipt, hreceipt⟩ := exists_cancelled hmessage active.operation active.alive
          active.results receiptTime
        rw [farewell]
        simp only [hreceipt, ok_bind]
        exact ⟨⟨some receipt, rfl⟩, hlast⟩
    refine ⟨⟨result, honce⟩, fun now => ?_, fun alive detail now hdetail => ?_, hfarewell⟩
    · rw [honce]
      exact exists_completed operation result now
    · exact exists_cancelled hdetail operation alive _ now

/-- An operation for this worker. -/
def sampleOperation : WorkerOperation where
  val :=
    { nodeId := "node"
      clientId := "one"
      instanceId := "game"
      workerId := "worker-00000000000000000000000000000000"
      workerProcessId := 1
      workerProcessStartedAt100ns := 1
      operationId := "operation-00000000000000000000000000000000"
      deduplicationId :=
        "dedup-0000000000000000000000000000000000000000000000000000000000000000"
      kind := .travel
      command := "/come"
      destination := none
      issuedAt := 0
      expiresAt := 8 }
  property := by decide +kernel

/-- A message of two lines leaves the queue of its operation empty. -/
theorem not_contained_lines :
    execute (.raised "lost\nconnection") (reasonOf []) = [] ∧
      ¬ Contained sampleOperation (.raised "lost\nconnection") [] "lost connection" := by
  have hempty : execute (.raised "lost\nconnection") (reasonOf []) = [] := by decide
  refine ⟨hempty, fun h => ?_⟩
  obtain ⟨result, hresult⟩ := h.once
  rw [hempty] at hresult
  cases hresult

end ShadowbaneLab.Manager
