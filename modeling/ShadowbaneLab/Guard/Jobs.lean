/-
# Guard jobs

The records of `manager/guard_job.py` and what is computed from them: which requests are admitted,
how a plan is validated, how a finished cycle is accounted for and which guard comes next.
-/
import Mathlib.Data.List.MinMax
import ShadowbaneLab.Foundation.Host

namespace ShadowbaneLab.Guard

open Foundation

/-! ## Records -/

/-- An identifier that `operation_id` accepts, by the number in it. -/
abbrev OperationId : Type := Fin (2 ^ 128)

/-- An exception: a `RuntimeError`, of which `GuardFundingCycleStopped` is one, a `TimeoutError`, or
another. -/
inductive Fault
  | runtime (text : String)
  | timeout (text : String)
  | other (text : String)
deriving DecidableEq

/-- `str(exc)`. -/
def Fault.text : Fault → String
  | .runtime text => text
  | .timeout text => text
  | .other text => text

/-- The states of a guard job. -/
inductive JobState
  | ready
  | running
  | waiting
  | paused
  | travel
  | scanning
  | stopped
  | insufficient
  | unavailable
  | review
deriving DecidableEq

/-- `TERMINAL`. -/
def JobState.terminal (state : JobState) : Bool :=
  state = .stopped ∨ state = .insufficient ∨ state = .unavailable ∨ state = .review

/-- What a control file asks for. -/
inductive Mode
  | run
  | pause
  | travel
  | stop
deriving DecidableEq

/-- `GuardFundingTarget`. -/
structure Target where
  processId : ℕ
  creation : ℕ
  scene : ℕ
  root : ℕ
  building : ℕ
  guard : ℕ
deriving DecidableEq

/-- Where a target stands, whatever the scene. -/
def Target.key (target : Target) : ℕ × ℕ := (target.building, target.guard)

/-- What is read of the navigation snapshot of a plan. -/
structure Context where
  scene : ℕ
  root : ℕ
  manager : ℕ
deriving DecidableEq

/-- `GuardUpgradePlan`. -/
structure GuardUpgradePlan where
  discoveryOperationId : OperationId
  discoverySha256 : String
  navigationSha256 : String
  context : Context
  targets : List Target
  initialRanks : List ℕ
  candidateBuildings : ℕ
  verifiedBuildings : ℕ
deriving DecidableEq

/-- What `read_guard_owner` returns. -/
structure Owner where
  playerPointer : ℕ
  characterName : String
  serverName : String
deriving DecidableEq

/-- The states of a guard. -/
inductive GuardState
  | ready
  | waiting
  | insufficient
  | unavailable
deriving DecidableEq

/-- The progress of one guard. -/
structure GuardProgress where
  state : GuardState
  minimumRank : ℕ
  observedRank : ℕ
  nextCheckAt : ℚ
  lastCycle : Option OperationId
  upgradesStarted : ℕ
deriving DecidableEq

/-- The progress of a guard that was admitted at a rank. -/
def GuardProgress.new (rank : ℕ) : GuardProgress := ⟨.ready, rank, rank, 0, none, 0⟩

/-- The cycle that is under way. -/
structure ActiveCycle where
  operationId : OperationId
  index : ℕ
deriving DecidableEq

/-- The record of a job; lists that are missing in a record are empty here. -/
structure Job where
  schemaVersion : ℕ
  carried : Bool
  identity : List String
  jobId : OperationId
  plan : GuardUpgradePlan
  window : ℕ
  owner : Option Owner
  ownerAdoption : Bool
  state : JobState
  detail : String
  pollSeconds : ℚ
  activeCycle : Option ActiveCycle
  cursor : ℕ
  withdrawn : ℕ
  deposited : ℕ
  spent : ℕ
  upgradesStarted : ℕ
  guards : List GuardProgress
  areaPlans : List GuardUpgradePlan
  areaIndices : Option (List ℕ)
deriving DecidableEq

namespace Job

/-- What `GuardJobStore.read` checks. -/
def admissible (job : Job) (identity : List String) (jobId : OperationId) : Bool :=
  (job.schemaVersion = 1 ∨ job.schemaVersion = 2) ∧ job.jobId = jobId ∧ job.identity = identity

/-- A job that ends in review. -/
def review (job : Job) (fault : Fault) : Job := { job with state := .review, detail := fault.text }

/-- All plans of a job, the first one first. -/
def plans (job : Job) : List GuardUpgradePlan := job.plan :: job.areaPlans

end Job

/-- The record of a new job. -/
def newJob (identity : List String) (jobId : OperationId) (window : ℕ) (plan : GuardUpgradePlan)
    (owner : Owner) (pollSeconds : ℚ) : Job where
  schemaVersion := 2
  carried := true
  identity := identity
  jobId := jobId
  plan := plan
  window := window
  owner := some owner
  ownerAdoption := false
  state := .ready
  detail := "Ready to upgrade the verified guards."
  pollSeconds := pollSeconds
  activeCycle := none
  cursor := 0
  withdrawn := 0
  deposited := 0
  spent := 0
  upgradesStarted := 0
  guards := plan.initialRanks.map GuardProgress.new
  areaPlans := []
  areaIndices := none

/-- `require_owner`. -/
def requireOwner (expected : Option Owner) (observed : Owner) : Except Fault Unit :=
  if ∃ owner ∈ expected, 0 < owner.playerPointer ∧ owner.characterName ≠ "" ∧
      owner.serverName ≠ "" ∧ owner = observed then .ok ()
  else .error (.runtime "The guard job character changed; no action sent.")

/-! ## Rosters -/

/-- A guard in the roster of a navigation record. -/
structure RosterGuard where
  guard : ℕ
  remembered : Bool
  windowVerified : Option Bool
deriving DecidableEq

/-- A building in the roster; `listed` when its state is verified or partial. -/
structure RosterBuilding where
  building : ℕ
  listed : Bool
  guards : List RosterGuard
deriving DecidableEq

/-- The key of a guard that is seen; a remembered one has to be known. -/
def RosterGuard.visible (known : List (ℕ × ℕ)) (building : ℕ) (g : RosterGuard) :
    Except Fault (Option (ℕ × ℕ)) :=
  let key := (building, g.guard)
  if g.remembered then
    if key ∉ known ∨ g.windowVerified ≠ some false then
      .error (.runtime "Remembered guard provenance changed.")
    else .ok (some key)
  else if g.windowVerified = some true then .ok (some key)
  else .ok none

/-- The key of the target is among those known. -/
def Target.known (known : List (ℕ × ℕ)) (target : Target) : Bool := target.key ∈ known

/-- `visible`: the keys of the guards that are seen. -/
def visibleKeys (known : List (ℕ × ℕ)) (roster : List RosterBuilding) :
    Except Fault (List (ℕ × ℕ)) := do
  let keys ← (roster.filter (·.listed)).mapM fun b => b.guards.mapM (·.visible known b.building)
  return keys.flatten.filterMap id

/-! ## Validation of a plan -/

/-- The indices of the targets whose keys are seen. -/
def indicesOf (targets : List Target) (visible : List (ℕ × ℕ)) : List ℕ :=
  (List.range targets.length).filter fun i => (targets[i]?).any fun t => t.key ∈ visible

/-- The targets of all plans. -/
def Job.targets (job : Job) : List Target := job.plans.flatMap (·.targets)

/-- The contexts of all plans agree, and without an owner their scenes do. -/
def Job.sameContext (job : Job) : Bool :=
  let first := job.plan.context
  (job.areaPlans.all fun p => p.context.root = first.root ∧ p.context.manager = first.manager) ∧
    (job.owner.isSome ∨ job.areaPlans.all fun p => p.context.scene = first.scene)

/-- A guard has not fallen below the rank at which it was admitted. -/
def GuardProgress.above (guard : GuardProgress) (initial : ℕ) : Bool :=
  initial ≤ guard.minimumRank ∧ guard.minimumRank < 2 ^ 32 - 1

/-- The checks of `_validate_plan` on rebuilt plans, in their order. -/
def checkPlans (job : Job) (window : ℕ) : Except Fault (List Target) :=
  let targets := job.targets
  let ranks := job.plans.flatMap (·.initialRanks)
  let active := job.areaIndices.getD (List.range targets.length)
  if job.window ≠ window ∨ job.guards.length ≠ targets.length ∨
      ¬ (targets.map (·.guard)).Nodup ∨ job.sameContext = false then
    .error (.runtime "The guard plan or game window changed.")
  else if ¬ active.Nodup ∨ ¬ active.all (· < targets.length) then
    .error (.runtime "The active guard area is invalid.")
  else if ¬ (job.guards.zip ranks).all fun (guard, initial) => guard.above initial then
    .error (.runtime "The guard progress record is invalid.")
  else if ranks.length ≠ job.guards.length then .error (.other "zip() argument lengths differ")
  else .ok targets

/-- The targets of the latest area, in its scene. -/
def rebase (job : Job) (targets : List Target) (roster : List RosterBuilding) :
    Except Fault (List Target) := do
  let visible ← visibleKeys (targets.map Target.key) roster
  let active := job.areaIndices.getD (List.range targets.length)
  if active ≠ indicesOf targets visible then
    throw (.runtime "The active guard area differs from its owned roster.")
  else
    let context := (job.areaPlans.getLast?.getD job.plan).context
    return targets.mapIdx fun i target =>
      if i ∈ active then { target with scene := context.scene, root := context.root } else target

/-! ## Accounting -/

/-- The states of a cycle record. -/
inductive CycleState
  | running
  | started
  | waiting
  | insufficient
  | unavailable
  | cancelled
  | review
deriving DecidableEq

/-- The operations of a cycle, under the labels of its actions. -/
inductive ActionLabel
  | openBuilding
  | openGuard
  | openQuote
  | deposit
  | upgrade
deriving DecidableEq

/-- The states of an action. -/
inductive ActionState
  | prepared
  | submitted
  | confirmed
deriving DecidableEq

/-- An action in the record of a cycle. -/
structure CycleAction where
  operation : ActionLabel
  state : ActionState
deriving DecidableEq

/-- What is read of the record of a cycle. -/
structure Cycle where
  schemaVersion : ℕ
  carried : Bool
  identity : List String
  operationId : OperationId
  target : Target
  window : ℕ
  processId : ℕ
  creation : ℕ
  minimumRank : ℕ
  state : CycleState
  detail : String
  actions : List CycleAction
  withdrawn : ℕ
  deposited : ℕ
  spent : ℕ
  initialRank : Option ℕ
  quotedCost : Option ℕ
  observedRank : Option ℕ
deriving DecidableEq

/-- The first check of `_apply_cycle`. -/
def Cycle.settled (cycle : Cycle) (job : Job) (active : ActiveCycle) (target : Target)
    (guard : GuardProgress) : Bool :=
  cycle.schemaVersion = 2 ∧ cycle.carried = true ∧ cycle.withdrawn = 0 ∧
    cycle.identity = job.identity ∧ cycle.operationId = active.operationId ∧
    cycle.target = target ∧ cycle.window = job.window ∧ cycle.processId = target.processId ∧
    cycle.creation = target.creation ∧ cycle.minimumRank = guard.minimumRank ∧
    (cycle.state = .started ∨ cycle.state = .waiting ∨ cycle.state = .insufficient ∨
      cycle.state = .unavailable) ∧
    (cycle.actions.all fun a => a.state = .confirmed)

/-- `guard.update` of `_apply_cycle`. -/
def GuardProgress.checked (guard : GuardProgress) (cycle : Cycle) (initialRank : ℕ)
    (active : ActiveCycle) (nextCheckAt : ℚ) : GuardProgress :=
  { guard with
    state := match cycle.state with
      | .insufficient => .insufficient
      | .unavailable => .unavailable
      | _ => .waiting
    observedRank := cycle.observedRank.getD initialRank
    nextCheckAt := nextCheckAt
    lastCycle := some active.operationId }

/-- `_apply_cycle`, without the reading of the record and the saving. -/
def applyCycle (job : Job) (active : ActiveCycle) (target : Target) (now : ℚ) (cycle : Cycle) :
    Except Fault Job :=
  match job.guards[active.index]?, cycle.initialRank with
  | none, _ => .error (.other "list index out of range")
  | some guard, initialRank =>
    if cycle.settled job active target guard = false then
      .error (.runtime "The interrupted guard cycle needs review; no replay sent.")
    else
      match initialRank with
      | none => .error (.runtime "The interrupted guard cycle needs review; no replay sent.")
      | some initialRank =>
        let started : Bool := cycle.state = .started
        if started ∧ (cycle.spent = 0 ∨ cycle.quotedCost ≠ some cycle.spent ∨
            initialRank < guard.minimumRank) then
          .error (.runtime "The completed guard upgrade lacks its exact debit.")
        else
          let raised := if started then
              { guard with
                minimumRank := initialRank + 1
                upgradesStarted := guard.upgradesStarted + 1 }
            else guard
          .ok { job with
            guards := job.guards.set active.index
              (raised.checked cycle initialRank active (now + job.pollSeconds))
            upgradesStarted := job.upgradesStarted + if started then 1 else 0
            withdrawn := job.withdrawn + cycle.withdrawn
            deposited := job.deposited + cycle.deposited
            spent := job.spent + cycle.spent
            activeCycle := none
            cursor := (active.index + 1) % job.guards.length }

/-! ## Scheduling -/

namespace Job

variable (job : Job)

/-- The guards of the area that may still be upgraded. -/
def remaining (count : ℕ) : List ℕ :=
  (job.areaIndices.getD (List.range count)).filter fun i =>
    (job.guards[i]?).any fun g => g.state = .ready ∨ g.state = .waiting

/-- A guard of the job cannot be paid for. -/
def short : Bool := ∃ g ∈ job.guards, g.state = .insufficient

/-- The remaining guards that are due. -/
def due (remaining : List ℕ) (now : ℚ) : List ℕ :=
  remaining.filter fun i => (job.guards[i]?).any fun g => g.nextCheckAt ≤ now

/-- The order in which due guards are taken: those not upgraded yet first, then from the cursor. -/
def priority (count i : ℕ) : ℕ :=
  (if (job.guards[i]?).any fun g => 0 < g.upgradesStarted then count else 0) +
    ((i : ℤ) - job.cursor).emod count |>.toNat

/-- The guard that is taken next. -/
def next (count : ℕ) (due : List ℕ) : Option ℕ := due.argmin (job.priority count)

/-- The state of a job when no guard is left. -/
def exhausted : Job :=
  { job with
    state := if job.short then .insufficient else .unavailable
    detail := if job.short then "Remaining offers exceed available gold."
      else "No upgrade offers remain. Maximum rank and town coverage are unverified." }

/-- The state of a job after a control that is not to run. -/
def halted (mode : Mode) : Job :=
  match mode with
  | .pause => { job with state := .paused, detail := "Guard upgrades paused between transactions." }
  | .travel =>
    { job with
      state := .travel
      detail := "Safe to move. Click Continue here when you arrive." }
  | _ => { job with state := .stopped, detail := "Guard upgrades stopped." }

end Job

end ShadowbaneLab.Guard
