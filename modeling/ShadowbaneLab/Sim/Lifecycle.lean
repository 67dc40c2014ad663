/-
# Action executions and scheduled work

Execution records (`src/shadowbane_lab/sim/lifecycle.py`), the work items of the timeline
(`sim/timeline.py`) and the virtual clock (`sim/clock.py`).

A work item carries its payload in its kind: only resolutions, effect pulses and weapon
attacks have a binding, only effect work names an effect slot, and only pulses have a
pulse index, as the constructor of `ScheduledItem` demands.
-/
import Mathlib.Data.Prod.Lex
import ShadowbaneLab.Sim.RandomSource
import ShadowbaneLab.Sim.State

namespace ShadowbaneLab

open Foundation

/-! ## Vocabularies -/

inductive ActionExecutionStatus where
  | started
  | active
  | released
  | recovering
  | completed
  | interrupted
  deriving DecidableEq, Repr

inductive PayloadReleaseStatus where
  | notApplicable
  | pending
  | released
  deriving DecidableEq, Repr

/-- What owns scheduled work after its source state changes. -/
inductive ContinuationPolicy where
  | sourceBound
  | detachOnRelease
  | effectInstanceBound
  | targetLifeBound
  | worldBound
  deriving DecidableEq, Repr

/-! ## Executions -/

structure ActionExecutionSnapshot where
  correlationId : String
  actorEntityId : String
  actorLifeId : String
  targetLifeId : Option String
  actionKey : String
  binding : ActionBinding
  phaseIndex : ℕ
  phaseKind : PhaseKind
  phaseStartedAtMs : ℕ
  phaseEndsAtMs : ℕ
  status : ActionExecutionStatus
  phaseInterruptible : Bool
  movementAllowed : Bool
  payloadReleaseStatus : PayloadReleaseStatus
  releasedPhaseIndexes : List ℕ
  cancelToken : String
  cancelOnDamage : Bool
  cancelOnStun : Bool
  pendingTriggeredEffects : List EffectPrimitive
  triggerPayloadScheduled : Bool
  deriving DecidableEq

/-- One action of one actor, from its start to its completion or interruption. -/
structure ActionExecutionState where
  correlationId : String
  actorEntityId : String
  actorLifeId : String
  targetLifeId : Option String
  actionKey : String
  binding : ActionBinding
  phaseIndex : ℕ
  phaseKind : PhaseKind
  phaseStartedAtMs : ℕ
  phaseEndsAtMs : ℕ
  status : ActionExecutionStatus := .started
  phaseInterruptible : Bool := false
  movementAllowed : Bool := true
  payloadReleaseStatus : PayloadReleaseStatus := .notApplicable
  releasedPhaseIndexes : Finset ℕ := ∅
  cancelToken : String
  cancelOnDamage : Bool := false
  cancelOnStun : Bool := false
  pendingTriggeredEffects : List EffectPrimitive := []
  triggerPayloadScheduled : Bool := false
  correlationId_ok : Identifier correlationId
  actorEntityId_ok : Identifier actorEntityId
  actionKey_ok : Identifier actionKey

namespace ActionExecutionState

/-- Completed and interrupted executions never run again. -/
def isTerminal (execution : ActionExecutionState) : Bool :=
  execution.status = .completed ∨ execution.status = .interrupted

def snapshot (execution : ActionExecutionState) : ActionExecutionSnapshot where
  correlationId := execution.correlationId
  actorEntityId := execution.actorEntityId
  actorLifeId := execution.actorLifeId
  targetLifeId := execution.targetLifeId
  actionKey := execution.actionKey
  binding := execution.binding
  phaseIndex := execution.phaseIndex
  phaseKind := execution.phaseKind
  phaseStartedAtMs := execution.phaseStartedAtMs
  phaseEndsAtMs := execution.phaseEndsAtMs
  status := execution.status
  phaseInterruptible := execution.phaseInterruptible
  movementAllowed := execution.movementAllowed
  payloadReleaseStatus := execution.payloadReleaseStatus
  releasedPhaseIndexes := sortedSet execution.releasedPhaseIndexes
  cancelToken := execution.cancelToken
  cancelOnDamage := execution.cancelOnDamage
  cancelOnStun := execution.cancelOnStun
  pendingTriggeredEffects := execution.pendingTriggeredEffects
  triggerPayloadScheduled := execution.triggerPayloadScheduled

/-- `from_snapshot`: the constructor's checks, in its order. -/
def fromSnapshot (snapshot : ActionExecutionSnapshot) : Except Fault ActionExecutionState := do
  if hcorrelation : Identifier snapshot.correlationId then
    if hactor : Identifier snapshot.actorEntityId then
      checkIdentifier snapshot.actorLifeId "actor_life_id"
      if haction : Identifier snapshot.actionKey then
        checkIdentifier snapshot.cancelToken "cancel_token"
        checkIdentifiers "target_life_id" snapshot.targetLifeId.toList
        require (snapshot.phaseStartedAtMs ≤ snapshot.phaseEndsAtMs)
          (.valueError "phase_ends_at_ms must not precede phase_started_at_ms")
        pure
          { correlationId := snapshot.correlationId
            actorEntityId := snapshot.actorEntityId
            actorLifeId := snapshot.actorLifeId
            targetLifeId := snapshot.targetLifeId
            actionKey := snapshot.actionKey
            binding := snapshot.binding
            phaseIndex := snapshot.phaseIndex
            phaseKind := snapshot.phaseKind
            phaseStartedAtMs := snapshot.phaseStartedAtMs
            phaseEndsAtMs := snapshot.phaseEndsAtMs
            status := snapshot.status
            phaseInterruptible := snapshot.phaseInterruptible
            movementAllowed := snapshot.movementAllowed
            payloadReleaseStatus := snapshot.payloadReleaseStatus
            releasedPhaseIndexes := snapshot.releasedPhaseIndexes.toFinset
            cancelToken := snapshot.cancelToken
            cancelOnDamage := snapshot.cancelOnDamage
            cancelOnStun := snapshot.cancelOnStun
            pendingTriggeredEffects := snapshot.pendingTriggeredEffects
            triggerPayloadScheduled := snapshot.triggerPayloadScheduled
            correlationId_ok := hcorrelation
            actorEntityId_ok := hactor
            actionKey_ok := haction }
      else throw (.valueError "action_key must be a non-empty string")
    else throw (.valueError "actor_entity_id must be a non-empty string")
  else throw (.valueError "correlation_id must be a non-empty string")

/-- The checks of the constructor that an execution's own proofs do not already give. -/
structure Valid (execution : ActionExecutionState) : Prop where
  actorLifeId : Identifier execution.actorLifeId
  cancelToken : Identifier execution.cancelToken
  targetLifeId : ∀ life ∈ execution.targetLifeId, Identifier life
  ordered : execution.phaseStartedAtMs ≤ execution.phaseEndsAtMs

end ActionExecutionState

/-- The key of an execution: its actor and its correlation, compared in this order. -/
abbrev ExecutionKey := String ×ₗ String

def ActionExecutionState.key (execution : ActionExecutionState) : ExecutionKey :=
  toLex (execution.actorEntityId, execution.correlationId)

/-! ## Scheduled work -/

/-- The effect instance a pulse or an expiry belongs to. -/
structure EffectSlot where
  entityId : String
  storageKey : String
  expectedEffectKey : String
  expectedInstanceId : String
  deriving DecidableEq

inductive ScheduledWork where
  | phaseRelease
  | phaseTransition
  | resolution (binding : ActionBinding) (effects : List EffectPrimitive)
      (triggerKey : Option String)
  | weaponAttack (binding : ActionBinding) (attack : WeaponAttackSpec)
  | completion
  | effectPulse (binding : ActionBinding) (slot : EffectSlot) (periodicKey : String)
      (pulseIndex : ℕ) (effects : List PeriodicDirectEffect)
  | effectExpiry (slot : EffectSlot)
  deriving DecidableEq

def ScheduledWork.binding? : ScheduledWork → Option ActionBinding
  | .resolution binding _ _ => some binding
  | .weaponAttack binding _ => some binding
  | .effectPulse binding _ _ _ _ => some binding
  | _ => none

/-- One unit of future work on the timeline. -/
@[ext]
structure ScheduledItem where
  dueTimeMs : ℕ
  order : ℕ
  actorId : String
  correlationId : String
  actionKey : String
  work : ScheduledWork
  phaseDurationMs : ℕ := 0
  interruptible : Bool := false
  cancelOnDamage : Bool := false
  cancelOnStun : Bool := false
  actorLifeId : Option String := none
  targetLifeId : Option String := none
  phaseIndex : Option ℕ := none
  cancelToken : Option String := none
  continuationPolicy : ContinuationPolicy := .worldBound
  semanticPriority : ℤ := 0
  actorId_ok : Identifier actorId
  correlationId_ok : Identifier correlationId
  actionKey_ok : Identifier actionKey

namespace ScheduledItem

instance : DecidableEq ScheduledItem := fun _ _ => decidable_of_iff' _ ScheduledItem.ext_iff

/-- `_scheduled_key`: due time, then priority, then order of scheduling. -/
def scheduledKey (item : ScheduledItem) : ℕ ×ₗ ℤ ×ₗ ℕ :=
  toLex (item.dueTimeMs, toLex (item.semanticPriority, item.order))

theorem dueTimeMs_le_of_scheduledKey_le {a b : ScheduledItem}
    (h : a.scheduledKey ≤ b.scheduledKey) : a.dueTimeMs ≤ b.dueTimeMs := by
  rcases (Prod.Lex.le_iff).mp h with hlt | ⟨heq, _⟩
  · exact le_of_lt hlt
  · exact le_of_eq heq

end ScheduledItem

/-! ## Snapshots of a whole environment -/

structure ClockSnapshot where
  tickDurationMs : ℕ
  tick : ℕ
  nowMs : ℕ
  deriving DecidableEq

structure EnvironmentSnapshot where
  clock : ClockSnapshot
  random : DeterministicRandom
  entities : List EntitySnapshot
  scheduled : List ScheduledItem
  nextScheduleOrder : ℕ
  nextEventNumber : ℕ
  executions : List ActionExecutionSnapshot
  cancelledTokens : List String
  deriving DecidableEq

end ShadowbaneLab
