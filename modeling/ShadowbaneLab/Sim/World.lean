/-
# The mutable world and the commands on it

`World` holds what a `ReferenceEnvironment` object keeps between calls, `Frame` what it
keeps during one step.  Effects touch a frame only through a fixed set of commands
(`Command`), each of which corresponds to one pattern of the source: reading entities,
drawing a random number, appending an event, changing one scalar, and so on.  A command
names the entities it changes by `Living` handles, which exist only for the entities
eligible in the current scope.
-/
import ShadowbaneLab.Foundation.Program
import ShadowbaneLab.Sim.Equivalence
import ShadowbaneLab.Sim.Lifecycle

namespace ShadowbaneLab

open Foundation

/-! ## Worlds and frames -/

structure World where
  tick : ℕ
  nowMs : ℕ
  random : DeterministicRandom
  entities : Dict String EntityState
  scheduled : List ScheduledItem
  executions : Dict ExecutionKey ActionExecutionState
  cancelledTokens : Finset String
  nextScheduleOrder : ℕ
  nextEventNumber : ℕ

/-- A world in the middle of a step: with the events emitted and the lives ended so far.
`installs` lists the effect slots that received a new effect object; two reads of a slot
return the same object when it is occupied and nothing was installed in between. -/
structure Frame extends World where
  events : List Event := []
  lifeTerminated : Finset String := ∅
  installs : List (String × String) := []

/-- The fields of an event other than its number and time. -/
structure EventDraft where
  kind : EventKind
  correlationId : Option String := none
  sourceEntityId : Option String := none
  targetEntityId : Option String := none
  actionKey : Option String := none
  scalars : List NamedScalar := []
  tags : List String := []

/-- `_event`: the numbered event at a simulation time. -/
def EventDraft.event (draft : EventDraft) (tickDurationMs time number : ℕ) : Event where
  number := number
  kind := draft.kind
  tick := time / tickDurationMs
  simTimeMs := time
  correlationId := draft.correlationId
  sourceEntityId := draft.sourceEntityId
  targetEntityId := draft.targetEntityId
  actionKey := draft.actionKey
  scalars := draft.scalars
  tags := draft.tags

namespace Frame

/-- Append an event. -/
def record (frame : Frame) (event : Event) : Frame :=
  { frame with
    nextEventNumber := frame.nextEventNumber + 1
    events := frame.events ++ [event] }

/-- Append a new event, which its constructor may reject. -/
def emit (tickDurationMs time : ℕ) (draft : EventDraft) (frame : Frame) : Except Fault Frame := do
  let event := draft.event tickDurationMs time frame.nextEventNumber
  event.check
  pure (frame.record event)

/-- Schedule an item under the next schedule order. -/
def schedule (frame : Frame) (item : ScheduledItem) : Frame :=
  { frame with
    scheduled := frame.scheduled ++ [{ item with order := frame.nextScheduleOrder }]
    nextScheduleOrder := frame.nextScheduleOrder + 1 }

/-- Change one entity in place. -/
def modifyEntity (frame : Frame) (entityId : String) (f : EntityState → EntityState) : Frame :=
  { frame with entities := frame.entities.modify entityId f }

/-- Change one execution in place. -/
def modifyExecution (frame : Frame) (key : ExecutionKey)
    (f : ActionExecutionState → ActionExecutionState) : Frame :=
  { frame with executions := frame.executions.modify key f }

/-- The entity with an identifier; the text is that of the environment's `_entity`. -/
def entity (frame : Frame) (entityId : String) : Except Fault EntityState :=
  match frame.entities.get? entityId with
  | some entity => .ok entity
  | none => .error (.keyError ("unknown entity id: " ++ entityId))

end Frame

/-! ## Interrupting an actor -/

/-- What can interrupt an action. -/
inductive InterruptTrigger where
  | damage
  | stun
  deriving DecidableEq, Repr

def InterruptTrigger.value : InterruptTrigger → String
  | .damage => "damage"
  | .stun => "stun"

/-- Whether an interruption of an actor's current life reaches an execution. -/
def ActionExecutionState.interruptedBy (execution : ActionExecutionState) (actorId lifeId : String)
    (trigger : InterruptTrigger) : Bool :=
  execution.actorEntityId = actorId && execution.actorLifeId = lifeId &&
    (execution.status = .started || execution.status = .active) && execution.phaseInterruptible &&
    match trigger with
    | .damage => execution.cancelOnDamage
    | .stun => execution.cancelOnStun

namespace Frame

/-- The executions in the order of their actors and correlations. -/
def sortedExecutions (frame : Frame) : List ActionExecutionState :=
  sortBy ActionExecutionState.key frame.executions.values

/-- Mark an execution interrupted and cancel its token. -/
def cancelExecution (frame : Frame) (execution : ActionExecutionState) : Frame :=
  { frame.modifyExecution execution.key (fun e => { e with status := .interrupted }) with
    cancelledTokens := insert execution.cancelToken frame.cancelledTokens }

/-- The report of an interrupted execution. -/
def interruptedDraft (reason : String) (execution : ActionExecutionState) : EventDraft where
  kind := .actionInterrupted
  correlationId := some execution.correlationId
  sourceEntityId := some execution.actorEntityId
  actionKey := some execution.actionKey
  tags := ["reason." ++ reason]

/-- End one execution: cancel it and report the reason. -/
def endExecution (tickDurationMs dueTime : ℕ) (reason : String) (frame : Frame)
    (execution : ActionExecutionState) : Except Fault Frame :=
  (frame.cancelExecution execution).emit tickDurationMs dueTime (interruptedDraft reason execution)

/-- An entity is free no later than a given time. -/
def capBusy (frame : Frame) (entityId : String) (time : ℕ) : Frame :=
  frame.modifyEntity entityId (fun e => { e with busyUntilMs := min e.busyUntilMs time })

/-- `_interrupt_actor`. -/
def interruptActor (tickDurationMs dueTime : ℕ) (actorId : String) (trigger : InterruptTrigger)
    (frame : Frame) : Except Fault Frame := do
  let actor ← frame.entity actorId
  (frame.sortedExecutions.filter (fun e => e.interruptedBy actorId actor.lifeId trigger)).foldlM
    (fun frame execution => (frame.capBusy actorId dueTime).endExecution tickDurationMs dueTime
      trigger.value execution) frame

end Frame

/-! ## Changes of one entity -/

/-- The ways the source computes a scalar from its old value and its maximum. -/
inductive ScalarChange where
  | spend (amount : ℚ) (positive : 0 < amount)
  | damage (amount : ℚ) (nonneg : 0 ≤ amount)
  | restore (amount : ℚ)
  | drain (amount : ℚ)
  | credit (amount : ℚ)
  | modify (operation : ScalarOperation) (amount : ℚ)
  | progress (delta : ℚ)

namespace ScalarChange

/-- The value a change starts from: transfers read negative values as zero. -/
def before (change : ScalarChange) (value : ℚ) : ℚ :=
  match change with
  | .drain _ => max 0 value
  | .credit _ => max 0 value
  | _ => value

/-- The value a change writes. -/
def after (change : ScalarChange) (maximum : Option ℚ) (value : ℚ) : ℚ :=
  match change, maximum with
  | .spend amount _, _ => value - amount
  | .damage amount _, _ => max 0 (value - amount)
  | .restore amount, some maximum => min (value + amount) maximum
  | .restore amount, none => value + amount
  | .drain amount, _ => max 0 value - min amount (max 0 value)
  | .credit amount, some maximum => min (max 0 value + amount) maximum
  | .credit amount, none => max 0 value + amount
  | .modify .set amount, some maximum => max 0 (min amount maximum)
  | .modify .set amount, none => amount
  | .modify .add amount, some maximum => max 0 (min (value + amount) maximum)
  | .modify .add amount, none => value + amount
  | .progress delta, some maximum => max (-maximum) (min (value + delta) maximum)
  | .progress delta, none => value + delta

end ScalarChange

/-- The other changes of one entity. -/
inductive BodyChange where
  | addTag (tag : String) (tag_ok : Identifier tag)
  | discardTag (tag : String)
  | stance (stance : CombatStance)
  | position (position : Vector2)
  | absorb (storageKey : String) (amount : ℚ)
  | accumulate (storageKey stateKey : String) (amount : ℚ) (nonneg : 0 ≤ amount)
  | cooldown (actionKey : String) (untilMs : ℕ) (actionKey_ok : Identifier actionKey)
  | busy (untilMs : ℕ)

namespace EntityState

/-- Write a scalar by one of the source's rules. -/
def adjust (key : String) (change : ScalarChange) (entity : EntityState) : EntityState :=
  { entity with
    scalars := entity.scalars.set key (change.after (entity.maximums.get? key) (entity.scalar key)) }

/-- Change the effect stored under a key, if there is one. -/
def modifyEffect (storageKey : String) (f : ActiveEffectState → ActiveEffectState)
    (entity : EntityState) : EntityState :=
  { entity with effects := entity.effects.modify storageKey f }

def alter (change : BodyChange) (entity : EntityState) : EntityState :=
  match change with
  | .addTag tag _ => { entity with tags := insert tag entity.tags }
  | .discardTag tag => { entity with tags := entity.tags.erase tag }
  | .stance stance => { entity with stance := stance }
  | .position position => { entity with position := position }
  | .absorb storageKey amount =>
    entity.modifyEffect storageKey (fun e => { e with magnitude := e.magnitude - amount })
  | .accumulate storageKey stateKey amount _ =>
    entity.modifyEffect storageKey (fun e =>
      { e with modifierValues := e.modifierValues.modify stateKey (· + amount) })
  | .cooldown actionKey untilMs _ =>
    { entity with cooldowns := entity.cooldowns.set actionKey untilMs }
  | .busy untilMs => { entity with busyUntilMs := max entity.busyUntilMs untilMs }

/-- Add to the quantity of an item. -/
def addItem (itemId : String) (quantity : ℚ) (entity : EntityState) : EntityState :=
  { entity with
    inventory := entity.inventory.set itemId (entity.inventory.getD itemId 0 + quantity) }

end EntityState

/-! ## Installing an effect -/

/-- What the executor reads from a work item that carries a binding. -/
structure ItemContext where
  actorId : String
  correlationId : String
  actionKey : String
  binding : ActionBinding
  phaseDurationMs : ℕ := 0
  triggerKey : Option String := none
  actorId_ok : Identifier actorId
  correlationId_ok : Identifier correlationId
  actionKey_ok : Identifier actionKey

/-- The effect object an application creates. -/
def ApplyEffect.activate (effect : ApplyEffect) (sourceId : String) (dueTime order : ℕ) :
    ActiveEffectState where
  effectKey := effect.effectKey
  sourceEntityId := sourceId
  instanceId := some ("effect-instance:" ++ padded 12 order)
  magnitude := effect.magnitude
  expiresAtMs := dueTime + effect.durationMs
  stackingKey := effect.stackingKey
  tags := effect.tags.toFinset
  modifiers := effect.modifiers
  modifierValues := Dict.ofList
    ((effect.modifiers.filterMap EffectModifier.breakpoint?).map (fun m => (m.stateKey, 0)))
  applicationOrder := order
  stackOrder := effect.stackOrder
  trains := effect.trains
  stackPriority := effect.stackPriority

/-- `_effect_removed_event`. -/
def effectRemovedDraft (subjectId : String) (active : EffectRecord) (ctx : ItemContext)
    (reason : String) (scalars : List NamedScalar := []) : EventDraft where
  kind := .effectRemoved
  correlationId := some ctx.correlationId
  sourceEntityId := some active.sourceEntityId
  targetEntityId := some subjectId
  actionKey := some ctx.actionKey
  scalars := scalars
  tags := ["effect." ++ active.effectKey, reason]

/-- The pulses of one periodic modifier, numbered from one. -/
def pulseItems (ctx : ItemContext) (slot : EffectSlot) (startMs : ℕ)
    (policy : ContinuationPolicy) (pulse : PeriodicPulse) : List ScheduledItem :=
  (List.range pulse.tickCount).map (fun n =>
    { dueTimeMs := startMs + (n + 1) * pulse.intervalMs
      order := 0
      actorId := ctx.actorId
      correlationId := ctx.correlationId
      actionKey := ctx.actionKey
      work := .effectPulse ctx.binding slot pulse.periodicKey (n + 1) pulse.effects
      continuationPolicy := policy
      actorId_ok := ctx.actorId_ok
      correlationId_ok := ctx.correlationId_ok
      actionKey_ok := ctx.actionKey_ok })

/-- The expiry of an effect. -/
def expiryItem (ctx : ItemContext) (slot : EffectSlot) (expiresAtMs : ℕ)
    (policy : ContinuationPolicy) : ScheduledItem where
  dueTimeMs := expiresAtMs
  order := 0
  actorId := ctx.actorId
  correlationId := ctx.correlationId
  actionKey := ctx.actionKey
  work := .effectExpiry slot
  continuationPolicy := policy
  actorId_ok := ctx.actorId_ok
  correlationId_ok := ctx.correlationId_ok
  actionKey_ok := ctx.actionKey_ok

/-- The work of a new effect: the pulses of its periodic modifiers, then its expiry. -/
def effectItems (ctx : ItemContext) (subjectId : String) (effect : ApplyEffect)
    (dueTime order : ℕ) : List ScheduledItem :=
  let slot : EffectSlot := ⟨subjectId, effect.storageKey, effect.effectKey,
    "effect-instance:" ++ padded 12 order⟩
  (effect.modifiers.filterMap EffectModifier.periodic?).flatMap
    (pulseItems ctx slot dueTime .effectInstanceBound) ++
  [expiryItem ctx slot (dueTime + effect.durationMs) .effectInstanceBound]

/-- The report of a new effect, which may refresh the one it replaces. -/
def effectAddedDraft (ctx : ItemContext) (subjectId : String) (effect : ApplyEffect)
    (existing : Option EffectRecord) : EventDraft where
  kind := .effectAdded
  correlationId := some ctx.correlationId
  sourceEntityId := some ctx.actorId
  targetEntityId := some subjectId
  actionKey := some ctx.actionKey
  scalars := [⟨"magnitude", effect.magnitude⟩, ⟨"duration_ms", effect.durationMs⟩,
    ⟨"stack_order", effect.stackOrder⟩, ⟨"trains", effect.trains⟩]
  tags := ["effect." ++ effect.effectKey,
    if existing.any (fun e => e.effectKey = effect.effectKey) then "outcome.refreshed"
    else "outcome.applied"]

/-- Take an effect off an entity. -/
def EntityState.dropEffect (storageKey : String) (entity : EntityState) : EntityState :=
  { entity with effects := entity.effects.erase storageKey }

namespace Frame

/-- Store a new effect, named by the next schedule order. -/
def storeEffect (dueTime : ℕ) (subjectId : String) (effect : ApplyEffect) (sourceId : String)
    (frame : Frame) : Frame :=
  { frame.modifyEntity subjectId (fun e => { e with
      effects := e.effects.set effect.storageKey
        (effect.activate sourceId dueTime frame.nextScheduleOrder) }) with
    nextScheduleOrder := frame.nextScheduleOrder + 1
    installs := frame.installs ++ [(subjectId, effect.storageKey)] }

/-- Report the effect that a new one replaces. -/
def reportReplaced (tickDurationMs dueTime : ℕ) (subjectId : String) (ctx : ItemContext)
    (existing : Option EffectRecord) (frame : Frame) : Except Fault Frame :=
  match existing with
  | none => .ok frame
  | some active =>
    frame.emit tickDurationMs dueTime (effectRemovedDraft subjectId active ctx "reason.replaced")

/-- The part of `_apply_effect` after its checks: report a replaced effect, store the new
one, report it, and schedule its pulses and its expiry. -/
def installEffect (tickDurationMs dueTime : ℕ) (subjectId : String) (effect : ApplyEffect)
    (ctx : ItemContext) (frame : Frame) : Except Fault Frame := do
  let subject ← frame.entity subjectId
  let existing := subject.record? effect.storageKey
  let frame ← frame.reportReplaced tickDurationMs dueTime subjectId ctx existing
  let order := frame.nextScheduleOrder
  let frame ← (frame.storeEffect dueTime subjectId effect ctx.actorId).emit tickDurationMs dueTime
    (effectAddedDraft ctx subjectId effect existing)
  pure ((effectItems ctx subjectId effect dueTime order).foldl schedule frame)

/-- Remove the effect stored under a key and report it. -/
def removeEffect (tickDurationMs dueTime : ℕ) (subjectId storageKey : String) (ctx : ItemContext)
    (reason : String) (scalars : List NamedScalar) (frame : Frame) : Except Fault Frame := do
  let subject ← frame.entity subjectId
  match subject.record? storageKey with
  | none => .error (.keyError storageKey)
  | some active =>
    (frame.modifyEntity subjectId (EntityState.dropEffect storageKey)).emit
      tickDurationMs dueTime (effectRemovedDraft subjectId active ctx reason scalars)

end Frame

/-! ## Commands -/

/-- What one work item may change, and when it happens. -/
structure Scope where
  tickDurationMs : ℕ
  eligible : Finset String
  dueTime : ℕ

/-- A handle to an entity that is eligible in the scope. -/
structure Living (scope : Scope) where
  id : String
  eligible : id ∈ scope.eligible

/-- The events that no effect emits directly: those of the life cycle of actions and
entities, and of the removal of effects. -/
def EventKind.reserved : EventKind → Bool
  | .actionStarted => true
  | .actionCompleted => true
  | .actionInterrupted => true
  | .entityDied => true
  | .effectRemoved => true
  | _ => false

inductive Command (scope : Scope) : Type 1 where
  /-- Read the entities. -/
  | observe {β : Type} (f : Dict String EntityState → β) (free : OrderFree f)
  /-- How many effect objects a slot received so far. -/
  | installCount (subject : Living scope) (storageKey : String)
  /-- Draw from the random source. -/
  | draw {β : Type} (f : DeterministicRandom → β × DeterministicRandom)
  /-- Append an event. -/
  | emit (draft : EventDraft) (allowed : draft.kind.reserved = false)
  /-- Write a scalar; answers the values before and after. -/
  | adjust (subject : Living scope) (key : String) (change : ScalarChange)
      (key_ok : Identifier key)
  /-- Change an entity otherwise. -/
  | alter (subject : Living scope) (change : BodyChange)
  /-- Store a new effect. -/
  | install (subject : Living scope) (effect : ApplyEffect) (ctx : ItemContext)
  /-- Remove a stored effect. -/
  | remove (subject : Living scope) (storageKey : String) (ctx : ItemContext) (reason : String)
      (scalars : List NamedScalar)
  /-- Move a quantity of an item if the source has it; answers whether it did. -/
  | moveItem (source target : Living scope) (itemId : String) (quantity : ℚ)
      (itemId_ok : Identifier itemId) (positive : 0 < quantity)
  /-- Interrupt an actor's action. -/
  | interrupt (subject : Living scope) (trigger : InterruptTrigger)

/-- The commands with the types of their answers. -/
def commands (scope : Scope) : Signature where
  Op := Command scope
  Result
    | .observe (β := β) _ _ => β
    | .installCount _ _ => ℕ
    | .draw (β := β) _ => β
    | .adjust _ _ _ _ => ℚ × ℚ
    | .moveItem _ _ _ _ _ _ => Bool
    | _ => Unit

/-- The meaning of the commands on a frame. -/
def execute (scope : Scope) : Handler (commands scope) Fault Frame
  | .observe f _, frame => .ok (f frame.entities, frame)
  | .installCount subject storageKey, frame =>
    .ok (frame.installs.count (subject.id, storageKey), frame)
  | .draw f, frame =>
    let (value, random) := f frame.random
    .ok (value, { frame with random := random })
  | .emit draft _, frame => do
    let frame ← frame.emit scope.tickDurationMs scope.dueTime draft
    pure ((), frame)
  | .adjust subject key change _, frame => do
    let entity ← frame.entity subject.id
    let value := entity.scalar key
    pure ((change.before value, change.after (entity.maximums.get? key) value),
      frame.modifyEntity subject.id (EntityState.adjust key change))
  | .alter subject change, frame => do
    let _ ← frame.entity subject.id
    pure ((), frame.modifyEntity subject.id (EntityState.alter change))
  | .install subject effect ctx, frame => do
    let frame ← frame.installEffect scope.tickDurationMs scope.dueTime subject.id effect ctx
    pure ((), frame)
  | .remove subject storageKey ctx reason scalars, frame => do
    let frame ← frame.removeEffect scope.tickDurationMs scope.dueTime subject.id storageKey ctx
      reason scalars
    pure ((), frame)
  | .moveItem source target itemId quantity _ _, frame => do
    let entity ← frame.entity source.id
    if entity.inventory.getD itemId 0 < quantity then pure (false, frame)
    else
      let frame := frame.modifyEntity source.id (EntityState.addItem itemId (-quantity))
      pure (true, frame.modifyEntity target.id (EntityState.addItem itemId quantity))
  | .interrupt subject trigger, frame => do
    let frame ← frame.interruptActor scope.tickDurationMs scope.dueTime subject.id trigger
    pure ((), frame)

/-- Programs over the commands of a scope. -/
abbrev Exec (scope : Scope) := Program (commands scope) Fault

end ShadowbaneLab
