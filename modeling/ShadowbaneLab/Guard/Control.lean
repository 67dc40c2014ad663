/-
# The control of a guard job

`GuardJobStore` and `run_guard_upgrade_job` of `manager/guard_job.py`, at the granularity of single
accesses to files.  A job has a record and a control file, and `current.json` names the job that is
current; what comes from other files, from the game and from the clock is an answer from outside.
Beside the files a log is kept of what the threads do, and the jobs that were ever current; no code
reads them.
-/
import ShadowbaneLab.Foundation.Threads
import ShadowbaneLab.Guard.Jobs

namespace ShadowbaneLab.Guard

open Foundation

/-! ## The store -/

/-- `control.lock` and `runner.lock`. -/
inductive Lock
  | control
  | runner
deriving DecidableEq

/-- What a thread does. -/
inductive Entry
  /-- It read the control file of a job. -/
  | read (thread : ℕ) (job : OperationId) (mode : Mode)
  /-- `request` wrote the control file. -/
  | requested (thread : ℕ) (job : OperationId) (mode : Mode)
  /-- `request` returned. -/
  | returned (thread : ℕ) (job : OperationId) (mode : Mode)
  /-- `continue_here` wrote the control file. -/
  | continued (thread : ℕ) (job : OperationId)
  /-- A cycle runner was called. -/
  | cycle (thread : ℕ) (job : OperationId)
  /-- The runner wrote the control file at the end of an area, over this mode. -/
  | ended (thread : ℕ) (job : OperationId) (before : Option Mode)
deriving DecidableEq

def Entry.thread : Entry → ℕ
  | read thread _ _ => thread
  | requested thread _ _ => thread
  | returned thread _ _ => thread
  | continued thread _ => thread
  | cycle thread _ => thread
  | ended thread _ _ => thread

/-- The files under `guard-jobs`, who holds the locks, and what was done. -/
structure Store where
  identity : List String
  current : Option OperationId
  records : OperationId → Option Job
  controls : OperationId → Option Mode
  locks : Lock → Option ℕ
  named : List OperationId
  log : List Entry

abbrev Program : Type → Type 1 := Fallible Store Fault

/-! ## Files and locks -/

/-- An access to a file, which may also fail for a reason outside. -/
def file {α : Type} (f : Store → Except Fault α × Store) : Program α := do
  Fallible.outside Unit
  Fallible.tryAct f

/-- `current.json` exists. -/
def currentExists : Program Bool := file fun s => (.ok s.current.isSome, s)

/-- The job that `current.json` names. -/
def readCurrent : Program OperationId :=
  file fun s => (match s.current with
    | some jobId => .ok jobId
    | none => .error (.other "No such file or directory"), s)

/-- `self.path(job_id).exists()`. -/
def recordExists (jobId : OperationId) : Program Bool :=
  file fun s => (.ok (s.records jobId).isSome, s)

/-- What `read` makes of a file. -/
def Store.recordOf (s : Store) (jobId : OperationId) : Except Fault Job :=
  match s.records jobId with
  | some job =>
    if job.admissible s.identity jobId then .ok job
    else .error (.runtime "The guard job record is invalid.")
  | none => .error (.other "No such file or directory")

/-- `read`. -/
def readRecord (jobId : OperationId) : Program Job := file fun s => (s.recordOf jobId, s)

/-- `current`. -/
def current : Program (Option Job) := do
  if ← currentExists then
    let jobId ← readCurrent
    let job ← readRecord jobId
    return some job
  else return none

/-- `save`. -/
def save (job : Job) : Program Unit :=
  file fun s => (.ok (), { s with records := Function.update s.records job.jobId (some job) })

/-- `control`. -/
def readControl (i : ℕ) (jobId : OperationId) : Program Mode :=
  file fun s => match s.controls jobId with
    | some mode => (.ok mode, { s with log := s.log ++ [.read i jobId mode] })
    | none => (.error (.other "No such file or directory"), s)

/-- Writes the control file, and what that means into the log. -/
def writeControl (entries : Option Mode → List Entry) (jobId : OperationId) (mode : Mode) :
    Program Unit :=
  file fun s => (.ok (), { s with
    controls := Function.update s.controls jobId (some mode)
    log := s.log ++ entries (s.controls jobId) })

/-- Writes `current.json`. -/
def writeCurrent (jobId : OperationId) : Program Unit :=
  file fun s => (.ok (), { s with current := some jobId, named := jobId :: s.named })

/-- Only writes into the log. -/
def note (entry : Entry) : Program Unit :=
  Fallible.act fun s => ((), { s with log := s.log ++ [entry] })

/-- Tries to take a lock, at the last moment before the timeout. -/
def acquire (i : ℕ) (lock : Lock) : Program Bool :=
  Fallible.act fun s =>
    if s.locks lock = none then
      (true, { s with locks := Function.update s.locks lock (some i) })
    else (false, s)

/-- A lock becomes free, if this thread holds it. -/
def Store.free (i : ℕ) (lock : Lock) (s : Store) : Store :=
  if s.locks lock = some i then { s with locks := Function.update s.locks lock none } else s

def release (i : ℕ) (lock : Lock) : Program Unit :=
  Fallible.act fun s => ((), s.free i lock)

/-- The locks of a thread that crashes become free. -/
def crash (i : ℕ) (s : Store) : Store := (s.free i .control).free i .runner

/-- The body of a `with exclusive_record_lock`, once the lock is held. -/
def holding {α : Type} (i : ℕ) (lock : Lock) (body : Program α) : Program α := do
  let result ← Fallible.attempt body
  release i lock
  Fallible.result result

/-- `with exclusive_record_lock`. -/
def withLock {α : Type} (i : ℕ) (lock : Lock) (body : Program α) : Program α := do
  if ← acquire i lock then holding i lock body
  else throw (.timeout "timed out acquiring record lock")

/-! ## Answers from outside -/

/-- `GuardSpendingJournal(...).assert_idle()`. -/
def assertIdle : Program Unit := Fallible.outside Unit

/-- `require_owner(expected, self.owner_reader(binding))`. -/
def requireObserved (expected : Option Owner) : Program Unit := do
  let observed ← Fallible.outside Owner
  Fallible.result (requireOwner expected observed)

/-- Every plan is built again. -/
def rebuildPlans : List GuardUpgradePlan → Program Unit
  | [] => pure ()
  | plan :: plans => do
    let current ← Fallible.outside GuardUpgradePlan
    if current ≠ plan then throw (.runtime "The guard plan or game window changed.")
    else rebuildPlans plans

/-- `_validate_plan`. -/
def validatePlan (window : ℕ) (job : Job) : Program (List Target) := do
  if job.schemaVersion ≠ 2 ∨ job.carried = false then
    throw (.runtime "The previous warehouse-funded job needs review; no replay sent.")
  else
    rebuildPlans job.plans
    let targets ← Fallible.result (checkPlans job window)
    if job.areaPlans = [] then return targets
    else
      let roster ← Fallible.outside (List RosterBuilding)
      Fallible.result (rebase job targets roster)

/-! ## Requests -/

/-- What `request` does with the record when no runner holds it. -/
def settleRequest (jobId : OperationId) (mode : Mode) : Program Unit := do
  let job ← readRecord jobId
  let idle ← Fallible.attempt assertIdle
  match idle with
  | .error (.runtime text) => save (job.review (.runtime text))
  | .error fault => throw fault
  | .ok () =>
    if job.activeCycle.isSome then
      save (job.review (.runtime "Interrupted guard cycle needs review."))
    else save (job.halted mode)

/-- `except TimeoutError: pass`. -/
def ignoringTimeout (body : Program Unit) : Program Unit := do
  let result ← Fallible.attempt body
  match result with
  | .error (.timeout _) => return ()
  | _ => Fallible.result result

/-- What `request` does under `control.lock`. -/
def requestLocked (i : ℕ) (jobId : OperationId) (mode : Mode) : Program Unit := do
  let found ← current
  match found with
  | none => throw (.runtime "The guard job changed or needs review.")
  | some job =>
    if job.jobId ≠ jobId ∨
        (job.state.terminal ∧ ¬ (mode = .travel ∧ job.state = .unavailable)) then
      throw (.runtime "The guard job changed or needs review.")
    else
      let control ← readControl i jobId
      if control = .stop then throw (.runtime "The guard job changed or needs review.")
      else if job.state = .scanning ∧ mode ≠ .stop then
        throw (.runtime "Wait for the current area scan to finish.")
      else
        writeControl (fun _ => [.requested i jobId mode]) jobId mode
        if mode = .stop ∨ mode = .travel then
          let idle ← acquire i .runner
          -- a live runner will observe the control file
          if idle then ignoringTimeout (holding i .runner (settleRequest jobId mode)) else return ()
        else return ()

/-- `request`. -/
def request (i : ℕ) (jobId : OperationId) (mode : Mode) : Program Unit := do
  withLock i .control (requestLocked i jobId mode)
  note (.returned i jobId mode)

/-! ## New jobs -/

/-- `begin`, for a client with this window. -/
def beginJob (i : ℕ) (jobId : OperationId) (window : ℕ) (pollSeconds : ℚ)
    (expectedOwner : Option Owner) : Program Job := do
  if ¬ (60 ≤ pollSeconds ∧ pollSeconds ≤ 3600) then
    throw (.other "guard rank checks must be between one minute and one hour apart")
  else
    withLock i .runner do
      let previous ← current
      let present ← recordExists jobId
      if present ∨ ¬ previous.all (fun job => job.state = .stopped ∨ job.state = .insufficient ∨
          job.state = .unavailable) then
        throw (.runtime "Continue or review the existing guard job first.")
      else
        assertIdle
        let owner ← Fallible.outside Owner
        if expectedOwner.isSome then Fallible.result (requireOwner expectedOwner owner)
        let plan ← Fallible.outside GuardUpgradePlan
        requireObserved (some owner)
        let identity ← Fallible.act fun s => (s.identity, s)
        let job := newJob identity jobId window plan owner pollSeconds
        save job
        writeControl (fun _ => []) jobId .run
        writeCurrent jobId
        return job

/-! ## A new area -/

/-- `not self.current() or self.current()["job_id"] != job_id`, negated. -/
def isCurrent (jobId : OperationId) : Program Bool := do
  let found ← current
  if found.isNone then return false
  else
    let again ← current
    match again with
    | none => throw (.other "'NoneType' object is not subscriptable")
    | some job => return job.jobId = jobId

/-- `remembered`. -/
def remembered (jobId : OperationId) (window : ℕ) (context : Context) : Program (List (ℕ × ℕ)) := do
  let job ← readRecord jobId
  let targets ← validatePlan window job
  requireObserved job.owner
  if (context.root, context.manager) ≠ (job.plan.context.root, job.plan.context.manager) then
    throw (.runtime "Travel cannot cross a game root or manager change.")
  else return targets.map Target.key

/-- The job with the plan of another area. -/
def Job.extend (job : Job) (plan : GuardUpgradePlan) (visible : List (ℕ × ℕ)) : Job :=
  { job with
    areaPlans := job.areaPlans ++ [plan]
    guards := job.guards ++ plan.initialRanks.map GuardProgress.new
    areaIndices := some (indicesOf (job.targets ++ plan.targets) visible) }

/-- What `continue_here` does once its job is known to travel. -/
def extendJob (i : ℕ) (jobId : OperationId) (window : ℕ) (context : Context) (job : Job) :
    Program Job := do
  assertIdle
  let known ← remembered jobId window context
  let plan ← Fallible.outside GuardUpgradePlan
  if plan.targets.any (·.known known) then
    throw (.runtime "The new area duplicates existing guard evidence.")
  else
    let roster ← Fallible.outside (List RosterBuilding)
    let visible ← Fallible.result (visibleKeys known roster)
    let extended := job.extend plan visible
    let _ ← validatePlan window extended
    requireObserved extended.owner
    let ready := { extended with
      state := .ready
      detail := "Continuing here; previous guard progress retained." }
    save ready
    writeControl (fun _ => [.continued i jobId]) jobId .run
    return ready

/-- `continue_here`. -/
def continueHere (i : ℕ) (jobId : OperationId) (window : ℕ) (context : Context) : Program Job :=
  withLock i .control <| withLock i .runner do
    let job ← readRecord jobId
    let here ← isCurrent jobId
    if here = false ∨ (job.state ≠ .travel ∧ job.state ≠ .scanning) then
      throw (.runtime "Wait until Travel says it is safe to move.")
    else
      let control ← readControl i jobId
      if control ≠ .travel ∨ job.activeCycle.isSome then
        throw (.runtime "Wait until Travel says it is safe to move.")
      else extendJob i jobId window context job

/-! ## Legacy jobs -/

/-- The cycle of a legacy guard moved no gold. -/
def Cycle.unspent (cycle : Cycle) (job : Job) (target : Target) : Bool :=
  cycle.identity = job.identity ∧ cycle.target = target ∧ cycle.window = job.window ∧
    (cycle.state = .waiting ∨ cycle.state = .unavailable) ∧
    cycle.spent = 0 ∧ cycle.deposited = 0 ∧ cycle.withdrawn = 0 ∧
    cycle.actions.all fun a => a.state = .confirmed ∧
      (a.operation = .openBuilding ∨ a.operation = .openGuard)

/-- The last cycles of legacy guards. -/
def checkCycles (job : Job) : List (GuardProgress × Target) → Program Unit
  | [] => pure ()
  | (guard, target) :: rest => do
    if guard.lastCycle.isNone then checkCycles job rest
    else
      let cycle ← Fallible.outside Cycle
      if cycle.unspent job target then checkCycles job rest
      else throw (.runtime "Legacy guard cycle needs review.")

/-- A job that has moved no gold. -/
def Job.unspent (job : Job) (context : Context) : Bool :=
  job.activeCycle.isNone ∧ job.areaPlans = [] ∧
    context.root = job.plan.context.root ∧ context.manager = job.plan.context.manager ∧
    job.spent = 0 ∧ job.deposited = 0 ∧ job.withdrawn = 0 ∧ job.upgradesStarted = 0 ∧
    job.guards.all fun g => g.upgradesStarted = 0

/-- `pin_unspent_owner`. -/
def pinUnspentOwner (i : ℕ) (jobId : OperationId) (window : ℕ) (context : Context) : Program Unit :=
  withLock i .control <| withLock i .runner do
    let job ← readRecord jobId
    if job.owner.isSome then requireObserved job.owner
    else
      let targets ← validatePlan window job
      let here ← isCurrent jobId
      if here = false ∨ job.state ≠ .travel then
        throw (.runtime "Legacy guard ownership needs review.")
      else
        let control ← readControl i jobId
        if control ≠ .travel ∨ job.unspent context = false then
          throw (.runtime "Legacy guard ownership needs review.")
        else
          assertIdle
          checkCycles job (job.guards.zip targets)
          let owner ← Fallible.outside Owner
          requireObserved (some owner)
          save { job with owner := some owner, ownerAdoption := true }

/-! ## The runner -/

/-- The `except` of the runner: a fault ends the job in review. -/
def guarded {α : Type} (job : Job) (body : Program α) : Program α := do
  let result ← Fallible.attempt body
  match result with
  | .ok a => return a
  | .error fault =>
    save (job.review fault)
    throw fault

/-- A state of the job is stored. -/
def store (job : Job) : Program Job := do
  guarded job (save job)
  return job

/-- `_apply_cycle`. -/
def account (job : Job) (active : ActiveCycle) (target : Target) : Program Job := do
  let counted ← guarded job do
    let now ← Fallible.outside ℚ
    let cycle ← Fallible.outside Cycle
    Fallible.result (applyCycle job active target now cycle)
  store counted

/-- The control file is read some times. -/
def readControls (i : ℕ) (jobId : OperationId) : ℕ → Program Unit
  | 0 => pure ()
  | n + 1 => do
    let _ ← readControl i jobId
    readControls i jobId n

/-- The cycle runner, whose `cancelled` reads the control file; the rest is outside. -/
def runCycle (i : ℕ) (jobId : OperationId) : Program Unit := do
  note (.cycle i jobId)
  let polls ← Fallible.anything ℕ
  readControls i jobId polls
  Fallible.outside Unit

/-- The job once a cycle of the guard has an identity. -/
def Job.checking (job : Job) (active : ActiveCycle) : Job :=
  { job with
    state := .running
    detail := "Checking and funding the next guard."
    activeCycle := some active }

/-- One guard is checked and funded. -/
def runGuard (i : ℕ) (job : Job) (index : ℕ) (target : Target) : Program Job := do
  if job.ownerAdoption ∧ job.areaPlans = [] then
    guarded job (throw (.runtime "Continue here must verify a fresh area first."))
  else
    guarded job (requireObserved job.owner)
    let cycleId ← Fallible.anything OperationId
    let running ← store (job.checking ⟨cycleId, index⟩)
    guarded running (runCycle i job.jobId)
    guarded running assertIdle
    account running ⟨cycleId, index⟩ target

/-- The job waits for guard ranks. -/
def Job.awaiting (job : Job) : Job :=
  { job with state := .waiting, detail := "Waiting for guard ranks to finish." }

/-- The end of an area: the control file asks for travel. -/
def endArea (i : ℕ) (job : Job) : Program Job := do
  guarded job
    (writeControl (fun before => [.ended i job.jobId before]) job.jobId .travel)
  store { job with
    state := .travel
    detail := "No pending guards in this area. Move, then click Continue here." }

/-- What an iteration does once the control file says to run; `none` goes on with the loop. -/
def schedule (i : ℕ) (job : Job) (targets : List Target) : Program (Job × Bool) := do
  guarded job assertIdle
  if job.short then
    let job ← store { job with
      state := .insufficient
      detail := "Carried gold is insufficient. Refill before restarting." }
    return (job, false)
  else
    let remaining := job.remaining targets.length
    if remaining = [] then
      let job ← if job.areaIndices.isSome then endArea i job else store job.exhausted
      return (job, false)
    else
      let now ← guarded job (Fallible.outside ℚ)
      match job.next targets.length (job.due remaining now) with
      | none =>
        let job ← if job.state ≠ .waiting then store job.awaiting else pure job
        return (job, true)
      | some index =>
        match targets[index]? with
        | none => guarded job (throw (.other "tuple index out of range"))
        | some target =>
          let job ← runGuard i job index target
          return (job, true)

/-- The loop of the runner, cut after some rounds. -/
def loop (i : ℕ) (targets : List Target) : ℕ → Job → Program Job
  | 0, job => pure job
  | n + 1, job => do
    let mode ← guarded job (readControl i job.jobId)
    let cancelled ← guarded job (Fallible.outside Bool)
    if cancelled = true ∨ mode = .stop then store (job.halted .stop)
    else if mode ≠ .run then store (job.halted mode)
    else
      let (job, more) ← schedule i job targets
      if more then loop i targets n job else return job

/-- What the runner does with a job that is not at its end. -/
def resume (i : ℕ) (job : Job) (window : ℕ) : Program Job := do
  let targets ← guarded job do
    let targets ← validatePlan window job
    assertIdle
    return targets
  let job ← match job.activeCycle with
    | none => pure job
    | some active =>
      match targets[active.index]? with
      | none => guarded job (throw (.runtime "The interrupted guard target is invalid."))
      | some target => account job active target
  let rounds ← Fallible.anything ℕ
  loop i targets rounds job

/-- `run_guard_upgrade_job`. -/
def runGuardUpgradeJob (i : ℕ) (jobId : OperationId) (window : ℕ) : Program Job :=
  withLock i .runner do
    let job ← readRecord jobId
    let here ← isCurrent jobId
    if here = false then throw (.runtime "This guard job is no longer current.")
    else if job.state.terminal then return job
    else resume i job window

/-! ## Threads -/

/-- The calls of a store. -/
inductive Call
  | request (jobId : OperationId) (mode : Mode)
  | begin (jobId : OperationId) (window : ℕ) (pollSeconds : ℚ) (expectedOwner : Option Owner)
  | continueHere (jobId : OperationId) (window : ℕ) (context : Context)
  | pinUnspentOwner (jobId : OperationId) (window : ℕ) (context : Context)
  | run (jobId : OperationId) (window : ℕ)

/-- Whatever a call returns or raises. -/
def Call.finish {α : Type} (code : Program α) : Code Store Unit := do
  let _ ← code.run
  return ()

/-- The code of a call in a thread. -/
def Call.code (i : ℕ) : Call → Code Store Unit
  | request jobId mode => finish (Guard.request i jobId mode)
  | begin jobId window pollSeconds expectedOwner =>
    finish (beginJob i jobId window pollSeconds expectedOwner)
  | continueHere jobId window context => finish (Guard.continueHere i jobId window context)
  | pinUnspentOwner jobId window context => finish (Guard.pinUnspentOwner i jobId window context)
  | run jobId window => finish (runGuardUpgradeJob i jobId window)

end ShadowbaneLab.Guard
