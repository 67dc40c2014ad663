/-
# The reference environment

`ReferenceEnvironment` (`src/shadowbane_lab/sim/environment.py`): construction, admission
of decisions, the start and the phases of an action, the timeline queue, deaths, and
snapshots.  The affiliation-aware environment (`sim/affiliated_environment.py`) differs in
its configuration only.

The timeline is drained with fuel: `step` answers `unfinished` when the queue is not
empty after `fuel` items.
-/
import ShadowbaneLab.Sim.Attacks

namespace ShadowbaneLab

open Foundation

/-- Why a call produced no result: an error was raised, or the fuel ran out. -/
inductive Stop where
  | raised (fault : Fault)
  | unfinished
  deriving DecidableEq

/-- A computation that does not drain the queue. -/
def orRaise {α : Type} : Except Fault α → Except Stop α
  | .ok a => .ok a
  | .error fault => .error (.raised fault)

/-- Run a program on a frame, for its effect. -/
def Frame.perform {scope : Scope} {α : Type} (program : Exec scope α) (frame : Frame) :
    Except Fault Frame := do
  let result ← program.run (execute scope) frame
  pure result.2

/-! ## Work items -/

namespace ScheduledItem

def executionKey (item : ScheduledItem) : ExecutionKey := toLex (item.actorId, item.correlationId)

/-- What the executor reads from an item, under a binding. -/
def context (item : ScheduledItem) (binding : ActionBinding) (triggerKey : Option String) :
    ItemContext where
  actorId := item.actorId
  correlationId := item.correlationId
  actionKey := item.actionKey
  binding := binding
  phaseDurationMs := item.phaseDurationMs
  triggerKey := triggerKey
  actorId_ok := item.actorId_ok
  correlationId_ok := item.correlationId_ok
  actionKey_ok := item.actionKey_ok

end ScheduledItem

namespace World

/-- Whether an item outlives its source because its phase released it. -/
def detached (world : World) (item : ScheduledItem) : Bool :=
  decide (item.continuationPolicy = .detachOnRelease) &&
    match world.executions.get? item.executionKey, item.phaseIndex with
    | some execution, some phaseIndex => decide (phaseIndex ∈ execution.releasedPhaseIndexes)
    | _, _ => false

/-- The entity the binding of an item targets. -/
def itemTarget (world : World) (item : ScheduledItem) : Option EntityState :=
  (item.work.binding?.bind ActionBinding.targetEntityId).bind world.entities.get?

/-- Whether the life an item was aimed at is still its target's. -/
def targetLifeKept (world : World) (item : ScheduledItem) : Bool :=
  match item.targetLifeId, item.work.binding? with
  | some lifeId, some _ => (world.itemTarget item).any (fun target => target.lifeId = lifeId)
  | _, _ => true

/-- Whether the life that issued an item is still alive. -/
def actorLifeKept (world : World) (item : ScheduledItem) (lifeId : String) : Bool :=
  (world.entities.get? item.actorId).any (fun actor => actor.alive && decide (actor.lifeId = lifeId))

/-- `_scheduled_item_is_valid`. -/
def scheduledItemIsValid (world : World) (item : ScheduledItem) : Bool :=
  if item.cancelToken.any (fun token => token ∈ world.cancelledTokens) && !world.detached item then
    false
  else if !world.targetLifeKept item then false
  else if item.continuationPolicy = .targetLifeBound &&
      !(world.itemTarget item).any EntityState.alive then false
  else
    match item.actorLifeId with
    | none => true
    | some lifeId =>
      if world.detached item then true
      else if item.continuationPolicy ≠ .sourceBound ∧
          item.continuationPolicy ≠ .detachOnRelease then true
      else world.actorLifeKept item lifeId

/-- The identifiers of the entities that are alive. -/
def aliveIds (world : World) : Finset String :=
  ((world.entities.values.filter EntityState.alive).map EntityState.entityId).toFinset

/-- The first due item, by due time, priority and order. -/
def nextDue (world : World) (untilMs : ℕ) : Option ScheduledItem :=
  (sortBy ScheduledItem.scheduledKey
    (world.scheduled.filter (fun item => item.dueTimeMs ≤ untilMs))).head?

end World

/-! ## Phases -/

/-- `_delivery_delay`. -/
def deliveryDelay (rt : Runtime) (frame : Frame) (actor : EntityState) (binding : ActionBinding)
    (phase : ActionPhase) : Except Fault ℕ :=
  match phase.delivery with
  | .immediate => .ok 0
  | .projectile speed _ =>
    match binding.targetEntityId with
    | none => .error (.configurationError "projectile delivery requires an entity target")
    | some targetId => do
      let target ← frame.entity targetId
      pure (distance rt actor.position target.position / speed * 1000).ceil.toNat

/-- The weapon attack of an action, if it belongs to a phase. -/
def ActionSpec.weaponIn (action : ActionSpec) (phaseIndex : ℕ) : Option WeaponAttackSpec :=
  action.weaponAttack.filter (fun attack => attack.phaseIndex = phaseIndex)

/-- Whether a phase has work of its own. -/
def nativePayload (action : ActionSpec) (phase : ActionPhase) (phaseIndex : ℕ) : Bool :=
  phase.effects ≠ [] || (action.weaponIn phaseIndex).isSome

namespace ActionExecutionState

variable (execution : ActionExecutionState) (action : ActionSpec) (phase : ActionPhase)
  (phaseIndex : ℕ)

/-- Whether a phase carries the triggered effects that wait for a payload. -/
def triggerPayload : Bool :=
  execution.pendingTriggeredEffects ≠ [] && !execution.triggerPayloadScheduled &&
    (nativePayload action phase phaseIndex || phaseIndex = action.phases.length - 1)

def hasPayload : Bool :=
  nativePayload action phase phaseIndex || execution.triggerPayload action phase phaseIndex

/-- The execution in a new phase. -/
def enterPhase (startedAtMs : ℕ) : ActionExecutionState :=
  { execution with
    phaseIndex := phaseIndex
    phaseKind := phase.kind
    phaseStartedAtMs := startedAtMs
    phaseEndsAtMs := startedAtMs + phase.durationMs
    phaseInterruptible := phase.interruptible
    movementAllowed := phase.movementAllowed
    payloadReleaseStatus :=
      if execution.hasPayload action phase phaseIndex then .pending else .notApplicable
    status := if phase.kind = .recovery then .recovering else .active
    triggerPayloadScheduled :=
      execution.triggerPayloadScheduled || execution.triggerPayload action phase phaseIndex }

/-- An item of the timeline that moves the execution itself. -/
def controlItem (work : ScheduledWork) (dueTimeMs : ℕ) : ScheduledItem where
  dueTimeMs := dueTimeMs
  order := 0
  actorId := execution.actorEntityId
  correlationId := execution.correlationId
  actionKey := action.actionKey
  work := work
  actorLifeId := some execution.actorLifeId
  targetLifeId := execution.targetLifeId
  phaseIndex := some phaseIndex
  cancelToken := some execution.cancelToken
  continuationPolicy := .sourceBound
  actorId_ok := execution.actorEntityId_ok
  correlationId_ok := execution.correlationId_ok
  actionKey_ok := action.actionKey_ok

/-- An item of the timeline that delivers a payload of the phase. -/
def payloadItem (work : ScheduledWork) (dueTimeMs : ℕ) : ScheduledItem :=
  { execution.controlItem action phaseIndex work dueTimeMs with
    phaseDurationMs := phase.durationMs
    interruptible := phase.interruptible
    cancelOnDamage := action.cancelOnDamage
    cancelOnStun := action.cancelOnStun
    continuationPolicy :=
      if phase.delivery.kind = .projectile then .detachOnRelease else .sourceBound }

/-- The payloads of a phase: its weapon attack, its effects, the triggered effects. -/
def payloads : List ScheduledWork :=
  ((action.weaponIn phaseIndex).map (ScheduledWork.weaponAttack execution.binding)).toList ++
    (if phase.effects ≠ [] then [.resolution execution.binding phase.effects none] else []) ++
    (if execution.triggerPayload action phase phaseIndex then
      [.resolution execution.binding execution.pendingTriggeredEffects none] else [])

/-- The work that ends a phase. -/
def phaseEnd : ScheduledWork :=
  if phaseIndex + 1 < action.phases.length then .phaseTransition else .completion

/-- Everything a phase schedules, in order. -/
def phaseItems (endMs deliveredMs : ℕ) : List ScheduledItem :=
  (if execution.hasPayload action phase phaseIndex then
    [execution.controlItem action phaseIndex .phaseRelease endMs] else []) ++
  (execution.payloads action phase phaseIndex).map (fun work =>
    execution.payloadItem action phase phaseIndex work deliveredMs) ++
  [execution.controlItem action phaseIndex (phaseEnd action phaseIndex) endMs]

end ActionExecutionState

/-- Put an execution into a phase and schedule its items. -/
def Frame.enterPhase (frame : Frame) (execution : ActionExecutionState) (action : ActionSpec)
    (phase : ActionPhase) (phaseIndex startedAtMs delay : ℕ) : Frame :=
  let endMs := startedAtMs + phase.durationMs
  let entered := execution.enterPhase action phase phaseIndex startedAtMs
  (execution.phaseItems action phase phaseIndex endMs (endMs + delay)).foldl Frame.schedule
    { frame with executions := frame.executions.set execution.key entered }

/-- `_schedule_action_phase`. -/
def scheduleActionPhase (rt : Runtime) (execution : ActionExecutionState) (action : ActionSpec)
    (phase : ActionPhase) (phaseIndex startedAtMs : ℕ) (frame : Frame) : Except Fault Frame := do
  let actor ← frame.entity execution.actorEntityId
  let delay ← deliveryDelay rt frame actor execution.binding phase
  pure (frame.enterPhase execution action phase phaseIndex startedAtMs delay)

/-! ## Starting an action -/

section Start

variable {scope : Scope}

theorem intrinsic_cooldown (action : ActionSpec) :
    Intrinsic (fun actor => effectiveActionCooldownMs actor action) := by
  intro a b h
  have hfactor := intrinsic_scalarOrDefault "action.weapon.delay.factor" 1 a b h
  dsimp only at hfactor
  simp only [effectiveActionCooldownMs, hfactor]

/-- Pay the costs of an action, one after the other. -/
def payCosts (ctx : ItemContext) (actor : Living scope) : List ResourceCost → Exec scope Unit
  | [] => pure ()
  | cost :: rest => do
    let _ ← adjust actor cost.resourceKey (.spend cost.amount cost.amount_pos) cost.resourceKey_ok
    emit (ctx.draft .resourceSpent none [⟨cost.resourceKey, cost.amount⟩])
    payCosts ctx actor rest

/-- What starting an action costs its actor: resources, the cooldown, and its time. -/
def commitActor (ctx : ItemContext) (actor : Living scope) (action : ActionSpec) :
    Exec scope Unit := do
  payCosts ctx actor action.costs
  let cooldown ← read actor (fun e => effectiveActionCooldownMs e action)
    (intrinsic_cooldown action)
  alter actor (.cooldown action.actionKey (scope.dueTime + cooldown) action.actionKey_ok)
  alter actor (.busy (scope.dueTime + totalPhaseMs action))

/-- One slot of `_consume_action_start_triggers`; answers the payload that fired. -/
def startTrigger (catalog : ActionCatalog) (ctx : ItemContext) (actor : Living scope)
    (action : ActionSpec) (storageKey : String) : Exec scope (List DirectEffect) := do
  let stored ← read actor (fun e => e.record? storageKey) (intrinsic_record storageKey)
  match stored.bind (fun active => (catalog.triggerForEffect active.effectKey).filter
      (fun trigger => trigger.fireOn = .actionStart &&
        trigger.qualifies action.actionKey action.tags)) with
  | none => pure []
  | some trigger => do
    let fired ← checkTrigger ctx actor .actionStart trigger
    if trigger.consumeOn = .actionStart then
      removeStored actor storageKey ctx "reason.trigger_consumed"
    pure (if fired then trigger.payload else [])

/-- `_consume_action_start_triggers`. -/
def consumeActionStartTriggers (catalog : ActionCatalog) (ctx : ItemContext)
    (actor : Living scope) (action : ActionSpec) : Exec scope (List EffectPrimitive) := do
  let slots ← read actor (fun e => sortBy Prod.fst (e.records.filter (fun _ => true)))
    intrinsic_slots
  let payloads ← slots.mapM (fun slot => startTrigger catalog ctx actor action slot.1)
  pure (payloads.flatten.map EffectPrimitive.direct)

end Start

section Environment

variable {rt : Runtime} (cfg : Config rt)

/-- What the executor would read from a decision. -/
def DecisionMessage.context (decision : DecisionMessage) (action : ActionSpec) : ItemContext where
  actorId := decision.agentId
  correlationId := decision.correlationId
  actionKey := action.actionKey
  binding := decision.binding
  actorId_ok := decision.agentId_ok
  correlationId_ok := decision.correlationId_ok
  actionKey_ok := action.actionKey_ok

def DecisionMessage.executionKey (decision : DecisionMessage) : ExecutionKey :=
  toLex (decision.agentId, decision.correlationId)

/-- The token that cancels the work of a decision. -/
def cancelToken (actorId correlationId : String) : String :=
  "cancel:" ++ actorId ++ ":" ++ correlationId

/-- The scope of the actor that starts an action. -/
def startScope (nowMs : ℕ) (agentId : String) : Scope where
  tickDurationMs := cfg.tickDurationMs
  eligible := {agentId}
  dueTime := nowMs

/-- The execution a decision creates, before its first phase. -/
def newExecution (decision : DecisionMessage) (action : ActionSpec) (actor : EntityState)
    (targetLifeId : Option String) (first : ActionPhase) (nowMs : ℕ)
    (triggered : List EffectPrimitive) : ActionExecutionState where
  correlationId := decision.correlationId
  actorEntityId := decision.agentId
  actorLifeId := actor.lifeId
  targetLifeId := targetLifeId
  actionKey := action.actionKey
  binding := decision.binding
  phaseIndex := 0
  phaseKind := first.kind
  phaseStartedAtMs := nowMs
  phaseEndsAtMs := nowMs
  cancelToken := cancelToken decision.agentId decision.correlationId
  cancelOnDamage := action.cancelOnDamage
  cancelOnStun := action.cancelOnStun
  pendingTriggeredEffects := triggered
  correlationId_ok := decision.correlationId_ok
  actorEntityId_ok := decision.agentId_ok
  actionKey_ok := action.actionKey_ok

/-- The report of a started action. -/
def startedDraft (decision : DecisionMessage) (action : ActionSpec) : EventDraft where
  kind := .actionStarted
  correlationId := some decision.correlationId
  sourceEntityId := some decision.agentId
  targetEntityId := decision.binding.targetEntityId
  actionKey := some action.actionKey

/-- The life of the entity a decision targets. -/
def targetLife (frame : Frame) (decision : DecisionMessage) : Option String :=
  (decision.binding.targetEntityId.bind frame.entities.get?).map EntityState.lifeId

/-- `_start_action`. -/
def startAction (frame : Frame) (admitted : DecisionMessage × ActionSpec) :
    Except Fault Frame := do
  let (decision, action) := admitted
  require (!frame.executions.contains decision.executionKey)
    (.configurationError ("duplicate action correlation for " ++ decision.agentId ++ ": " ++
      decision.correlationId))
  let nowMs := frame.nowMs
  let scope := startScope cfg nowMs decision.agentId
  let actor : Living scope := ⟨decision.agentId, Finset.mem_singleton_self _⟩
  let ctx := decision.context action
  let frame ← frame.perform (commitActor ctx actor action)
  let frame ← frame.emit cfg.tickDurationMs nowMs (startedDraft decision action)
  let (triggered, frame) ←
    (consumeActionStartTriggers cfg.catalog ctx actor action).run (execute scope) frame
  let entity ← frame.entity decision.agentId
  let first := action.phases.head action.phases_ne
  scheduleActionPhase rt
    (newExecution decision action entity (targetLife frame decision) first nowMs triggered)
    action first 0 nowMs frame

/-! ## Processing the timeline -/

/-- The execution after a phase released its payload. -/
def ActionExecutionState.release (phaseIndex : ℕ) (execution : ActionExecutionState) :
    ActionExecutionState :=
  let released := { execution with
    releasedPhaseIndexes := insert phaseIndex execution.releasedPhaseIndexes }
  if execution.phaseIndex = phaseIndex then
    { released with
      payloadReleaseStatus := .released
      status := if execution.status = .active then .released else execution.status }
  else released

/-- `_release_action_phase`. -/
def releaseActionPhase (item : ScheduledItem) (frame : Frame) : Frame :=
  match frame.executions.get? item.executionKey, item.phaseIndex with
  | some execution, some phaseIndex =>
    if execution.isTerminal then frame
    else frame.modifyExecution item.executionKey (ActionExecutionState.release phaseIndex)
  | _, _ => frame

/-- `_transition_action_phase`. -/
def transitionActionPhase (item : ScheduledItem) (frame : Frame) : Except Fault Frame :=
  match frame.executions.get? item.executionKey, item.phaseIndex with
  | some execution, some phaseIndex =>
    if execution.isTerminal || execution.phaseIndex ≠ phaseIndex then .ok frame
    else do
      let action ← cfg.catalog.get execution.actionKey
      match action.phases[phaseIndex + 1]? with
      | none => .error (.configurationError "phase transition exceeds action phases")
      | some phase =>
        scheduleActionPhase rt execution action phase (phaseIndex + 1) item.dueTimeMs frame
  | _, _ => .ok frame

/-- The report of a completed action. -/
def completedDraft (item : ScheduledItem) : EventDraft where
  kind := .actionCompleted
  correlationId := some item.correlationId
  sourceEntityId := some item.actorId
  actionKey := some item.actionKey

/-- Mark the execution of an item completed, and free the actor if it is still the life
that started it. -/
def Frame.finish (frame : Frame) (item : ScheduledItem) (execution : ActionExecutionState) :
    Frame :=
  (frame.modifyExecution item.executionKey (fun e => { e with status := .completed })).modifyEntity
    item.actorId (fun actor =>
      if actor.lifeId = execution.actorLifeId then
        { actor with busyUntilMs := min actor.busyUntilMs item.dueTimeMs }
      else actor)

/-- `_complete_action`. -/
def completeAction (item : ScheduledItem) (frame : Frame) : Except Fault Frame :=
  match frame.executions.get? item.executionKey with
  | none => frame.emit cfg.tickDurationMs item.dueTimeMs (completedDraft item)
  | some execution =>
    if execution.isTerminal then .ok frame
    else (frame.finish item execution).emit cfg.tickDurationMs item.dueTimeMs (completedDraft item)

/-- `expire_effect`; the bearer may be dead. -/
def expireEffect (item : ScheduledItem) (slot : EffectSlot) (frame : Frame) :
    Except Fault Frame :=
  match ((frame.entities.get? slot.entityId).bind slot.current).filter (fun active =>
      active.expiresAtMs = item.dueTimeMs) with
  | none => .ok frame
  | some _ => frame.removeEffect cfg.tickDurationMs item.dueTimeMs slot.entityId slot.storageKey
      (item.context { actorId := item.actorId } none) "reason.expired" []

/-- The scope of a work item: the entities alive when its turn comes may change. -/
def itemScope (item : ScheduledItem) (frame : Frame) : Scope where
  tickDurationMs := cfg.tickDurationMs
  eligible := frame.aliveIds
  dueTime := item.dueTimeMs

/-- The program of a work item that the effect executor resolves. -/
def itemProgram (scope : Scope) (item : ScheduledItem) : Exec scope Unit :=
  match item.work with
  | .resolution binding effects triggerKey => resolve cfg (item.context binding triggerKey) effects
  | .weaponAttack binding attack =>
    resolveWeaponAttack rt cfg.catalog (item.context binding none) attack
  | .effectPulse binding slot periodicKey pulseIndex effects =>
    resolveEffectPulse cfg (item.context binding none) slot periodicKey pulseIndex effects
  | _ => pure ()

/-- What a work item does on its own. -/
def performItem (item : ScheduledItem) (frame : Frame) : Except Fault Frame :=
  match item.work with
  | .phaseRelease => .ok (releaseActionPhase item frame)
  | .phaseTransition => transitionActionPhase cfg item frame
  | .completion => completeAction cfg item frame
  | .effectExpiry slot => expireEffect cfg item slot frame
  | _ => frame.perform (itemProgram cfg (itemScope cfg item frame) item)

/-- Whether an entity dies when deaths are next resolved. -/
def EntityState.dying (entity : EntityState) : Bool :=
  entity.alive && decide (entity.scalars.getD "health" 1 ≤ 0)

/-- The report of a death. -/
def diedDraft (entity : EntityState) : EventDraft where
  kind := .entityDied
  targetEntityId := some entity.entityId
  tags := ["life." ++ entity.lifeId]

/-- End the life of an entity. -/
def Frame.endLife (frame : Frame) (entityId : String) (entity : EntityState) : Frame :=
  { frame.modifyEntity entityId (fun e => { e with alive := false }) with
    lifeTerminated := insert entity.lifeId frame.lifeTerminated }

/-- The death of one entity, if it is due. -/
def dieIfDue (dueTime : ℕ) (frame : Frame) (entityId : String) : Except Fault Frame := do
  let entity ← frame.entity entityId
  if entity.dying then
    (frame.endLife entityId entity).emit cfg.tickDurationMs dueTime (diedDraft entity)
  else pure frame

/-- `resolve_deaths`. -/
def resolveDeaths (dueTime : ℕ) (frame : Frame) : Except Fault Frame :=
  frame.entities.sortedKeys.foldlM (dieIfDue cfg dueTime) frame

/-- Stop the body of a dead actor. -/
def Frame.layToRest (frame : Frame) (actorId : String) (dueTime : ℕ) : Frame :=
  frame.modifyEntity actorId (fun a =>
    { a with velocity := Vector2.zero, busyUntilMs := min a.busyUntilMs dueTime })

/-- `_cleanup_dead_actor`. -/
def cleanupDeadActor (dueTime : ℕ) (frame : Frame) (actorId : String) : Except Fault Frame := do
  let actor ← frame.entity actorId
  let frame := frame.layToRest actorId dueTime
  (frame.sortedExecutions.filter (fun e => e.actorEntityId = actorId &&
      decide (e.actorLifeId = actor.lifeId) && !e.isTerminal)).foldlM
    (Frame.endExecution cfg.tickDurationMs dueTime "death") frame

/-- The entities of a set that are no longer alive. -/
def newlyDead (aliveBefore : Finset String) (frame : Frame) : List String :=
  (sortedSet aliveBefore).filter (fun entityId =>
    (frame.entities.get? entityId).any (fun e => !e.alive))

/-- One turn of the loop of `_process_due`, for an item taken from the queue. -/
def processItem (item : ScheduledItem) (frame : Frame) : Except Fault Frame :=
  if !frame.scheduledItemIsValid item then .ok frame
  else do
    let aliveBefore := frame.aliveIds
    let frame ← performItem cfg item frame
    let frame ← resolveDeaths cfg item.dueTimeMs frame
    (newlyDead aliveBefore frame).foldlM (cleanupDeadActor cfg item.dueTimeMs) frame

/-- Take an item out of the queue. -/
def Frame.take (frame : Frame) (item : ScheduledItem) : Frame :=
  { frame with scheduled := frame.scheduled.erase item }

/-- `_process_due`, for at most `fuel` items. -/
def processDue (untilMs : ℕ) : ℕ → Frame → Except Stop Frame
  | 0, frame =>
    match frame.nextDue untilMs with
    | none => .ok frame
    | some _ => .error .unfinished
  | fuel + 1, frame =>
    match frame.nextDue untilMs with
    | none => .ok frame
    | some item => do
      let frame ← orRaise (processItem cfg item (frame.take item))
      processDue untilMs fuel frame

/-! ## Admission -/

/-- `_reason_tag`. -/
def reasonTag (rt : Runtime) (fault : Fault) : String :=
  let cleaned := (rt.lower (fault.str rt)).toList.map (fun c => if rt.isalnum c then c else '_')
  let stripped := ((cleaned.dropWhile (· = '_')).reverse.dropWhile (· = '_')).reverse
  if stripped = [] then "invalid_decision" else String.ofList (stripped.take 80)

/-- The action of a decision that matches its agent's exchange. -/
def validateDecision (world : World) (decision : DecisionMessage) : Except Fault ActionSpec := do
  let offered ← exchange cfg world.entities world.tick world.nowMs decision.agentId
  let _ ← validateExchange offered.observation offered.affordances decision
  cfg.catalog.get decision.actionKey

/-- The verdict on an agent's first decision: its action, or the reason it is rejected.
Correlations belong to an actor's entire execution history. -/
def verdict (world : World) (decision : DecisionMessage) : Except String ActionSpec :=
  match validateDecision cfg world decision with
  | .error fault => .error ("reason." ++ reasonTag rt fault)
  | .ok action =>
    if world.executions.contains decision.executionKey then
      .error "reason.duplicate_action_correlation"
    else .ok action

/-- The verdicts on sorted decisions; only the first decision of an agent is examined. -/
def admissions (world : World) :
    Finset String → List DecisionMessage → List (DecisionMessage × Except String ActionSpec)
  | _, [] => []
  | seen, decision :: rest =>
    if decision.agentId ∈ seen then
      (decision, .error "reason.multiple_decisions_for_tick") :: admissions world seen rest
    else
      (decision, verdict cfg world decision) :: admissions world (insert decision.agentId seen) rest

/-- The order in which decisions are examined. -/
def decisionKey (decision : DecisionMessage) : String ×ₗ String :=
  toLex (decision.agentId, decision.correlationId)

/-- The verdicts of a step. -/
def verdicts (world : World) (decisions : List DecisionMessage) :
    List (DecisionMessage × Except String ActionSpec) :=
  admissions cfg world ∅ (sortBy decisionKey decisions)

/-- The rejections among some verdicts, with their reasons. -/
def rejections (verdicts : List (DecisionMessage × Except String ActionSpec)) :
    List (DecisionMessage × String) :=
  verdicts.filterMap (fun
    | (decision, .error reason) => some (decision, reason)
    | _ => none)

/-- The admissions among some verdicts, with their actions. -/
def accepted (verdicts : List (DecisionMessage × Except String ActionSpec)) :
    List (DecisionMessage × ActionSpec) :=
  verdicts.filterMap (fun
    | (decision, .ok action) => some (decision, action)
    | _ => none)

/-- The report of a rejected decision. -/
def rejectedDraft (rejection : DecisionMessage × String) : EventDraft where
  kind := .actionRejected
  correlationId := some rejection.1.correlationId
  sourceEntityId := some rejection.1.agentId
  actionKey := some rejection.1.actionKey
  tags := [rejection.2]

/-- `_rejection_event`. -/
def reject (frame : Frame) (rejection : DecisionMessage × String) : Except Fault Frame :=
  frame.emit cfg.tickDurationMs frame.nowMs (rejectedDraft rejection)

/-! ## Steps -/

/-- `_world_terminated`. -/
def worldTerminated (world : World) : Bool :=
  if !cfg.terminateOnLastTeam || cfg.initialCompetingTeams.card < 2 then false
  else
    (((world.entities.values.filter (fun e => e.kind = .actor && e.alive)).filterMap
      EntityState.teamId).toFinset).card ≤ 1

/-- `SimulationClock.advance`. -/
def Frame.advance (tickDurationMs : ℕ) (frame : Frame) : Frame :=
  { frame with tick := frame.tick + 1, nowMs := frame.nowMs + tickDurationMs }

/-- The message that reports a finished step. -/
def eventBatch (truncated : Bool) (frame : Frame) : EventBatchMessage where
  messageId := "message:events:" ++ decimal frame.tick ++ ":" ++ decimal frame.nextEventNumber
  tick := frame.tick
  simTimeMs := frame.nowMs
  events := frame.events
  lifeTerminated := sortedSet frame.lifeTerminated
  worldTerminated := worldTerminated cfg frame.toWorld
  truncated := truncated

/-- The part of `step` before the queue is processed: rejections, then started actions. -/
def openStep (world : World) (decisions : List DecisionMessage) : Except Fault Frame := do
  let verdicts := verdicts cfg world decisions
  let frame ← (rejections verdicts).foldlM (reject cfg) { world with }
  (accepted verdicts).foldlM (startAction cfg) frame

/-- The part of `step` that processes the queue, before and after the clock advances. -/
def runStep (fuel : ℕ) (frame : Frame) : Except Stop Frame := do
  let frame ← processDue cfg frame.nowMs fuel frame
  let frame := frame.advance cfg.tickDurationMs
  processDue cfg frame.nowMs fuel frame

/-- `step`. -/
def step (fuel : ℕ) (world : World) (decisions : List DecisionMessage)
    (truncated : Bool := false) : Except Stop (EventBatchMessage × World) := do
  let frame ← orRaise (openStep cfg world decisions)
  let frame ← runStep cfg fuel frame
  let batch := eventBatch cfg truncated frame
  orRaise batch.check
  pure (batch, frame.toWorld)

/-! ## Snapshots -/

/-- `snapshot`. -/
def snapshot (world : World) : EnvironmentSnapshot where
  clock := ⟨cfg.tickDurationMs, world.tick, world.nowMs⟩
  random := world.random
  entities := (world.entities.sortedKeys.filterMap world.entities.get?).map EntityState.snapshot
  scheduled := sortBy ScheduledItem.scheduledKey world.scheduled
  nextScheduleOrder := world.nextScheduleOrder
  nextEventNumber := world.nextEventNumber
  executions := (world.executions.sortedItems.map Prod.snd).map ActionExecutionState.snapshot
  cancelledTokens := sortedSet world.cancelledTokens

/-- One action key of `_validate_entity_actions`. -/
def checkEntityAction (catalog : ActionCatalog) (entity : EntityState) (actionKey : String) :
    Except Fault Unit :=
  match catalog.find? actionKey with
  | some _ => .ok ()
  | none => .error (.configurationError
      ("entity " ++ entity.entityId ++ " references " ++ actionKey))

/-- `_validate_entity_actions`. -/
def validateEntityActions (catalog : ActionCatalog) (entities : List EntityState) :
    Except Fault Unit :=
  entities.forM (fun entity => entity.actionKeys.forM (checkEntityAction catalog entity))

/-- `restore`; nothing of the environment's current world is kept. -/
def restore (snapshot : EnvironmentSnapshot) : Except Fault World := do
  require (snapshot.clock.tickDurationMs = cfg.tickDurationMs)
    (.valueError "snapshot tick duration does not match the clock")
  let entities ← snapshot.entities.mapM EntityState.fromSnapshot
  require (entities.map EntityState.entityId).Nodup
    (.configurationError "snapshot entity ids must be unique")
  validateEntityActions cfg.catalog entities
  let executions ← snapshot.executions.mapM ActionExecutionState.fromSnapshot
  pure
    { tick := snapshot.clock.tick
      nowMs := snapshot.clock.nowMs
      random := snapshot.random
      entities := Dict.ofList (entities.map (fun e => (e.entityId, e)))
      scheduled := snapshot.scheduled
      executions := Dict.ofList (executions.map (fun e => (e.key, e)))
      cancelledTokens := snapshot.cancelledTokens.toFinset
      nextScheduleOrder := snapshot.nextScheduleOrder
      nextEventNumber := snapshot.nextEventNumber }

end Environment

/-! ## Construction -/

/-- The arguments of an environment's constructor. -/
structure Setup where
  catalog : ActionCatalog
  entities : List EntityState
  seed : ℤ
  tickDurationMs : ℕ := 200
  directionCandidates : List Vector2 :=
    [⟨-1, -1⟩, ⟨-1, 0⟩, ⟨-1, 1⟩, ⟨0, -1⟩, ⟨0, 1⟩, ⟨1, -1⟩, ⟨1, 0⟩, ⟨1, 1⟩]
  positionCandidates : List Vector2 := []
  terminateOnLastTeam : Bool := false

/-- The teams that compete when an environment is built. -/
def Setup.competingTeams (setup : Setup) : Finset String :=
  ((setup.entities.filter (fun e => e.kind = .actor)).filterMap EntityState.teamId).toFinset

/-- `_normalized` of the environment. -/
def normalizedDirection (rt : Runtime) (vector : Vector2) : Except Fault Vector2 :=
  let length := rt.hypot vector.x vector.y
  if length = 0 then .error (.configurationError "direction vectors must not be zero")
  else .ok ⟨vector.x / length, vector.y / length⟩

/-- `_normalize_directions`. -/
def normalizeDirections (rt : Runtime) (directions : List Vector2) :
    Except Fault (List Vector2) := do
  require (directions ≠ []) (.configurationError "at least one direction candidate is required")
  let normalized ← directions.mapM (normalizedDirection rt)
  require normalized.Nodup (.configurationError "direction candidates must be unique")
  pure normalized

/-- Expiry of effects that never expire. -/
def persistentExpiry : ℕ := 2 ^ 63 - 1

section InitialEffects

variable (entityId storageKey : String) (active : EffectRecord)
  (source_ok : Identifier active.sourceEntityId)

/-- Work for an effect that is present when combat starts. -/
def initialItem (work : ScheduledWork) (dueTimeMs : ℕ) : ScheduledItem where
  dueTimeMs := dueTimeMs
  order := 0
  actorId := active.sourceEntityId
  correlationId := "initial-effect:" ++ entityId ++ ":" ++ storageKey
  actionKey := "initial." ++ active.effectKey
  work := work
  actorId_ok := source_ok
  correlationId_ok := by
    rw [String.append_assoc, String.append_assoc]
    exact identifier_append_left (by decide) _
  actionKey_ok := identifier_append_left (by decide) _

/-- The pulses of one periodic modifier, as long as the effect lasts. -/
def initialPulses (slot : EffectSlot) (pulse : PeriodicPulse) : List ScheduledItem :=
  (((List.range pulse.tickCount).map (fun n => n + 1)).takeWhile (fun index =>
    index * pulse.intervalMs ≤ active.expiresAtMs)).map (fun index =>
      initialItem entityId storageKey active source_ok
        (.effectPulse
          { actorId := active.sourceEntityId
            targetKind := .entity
            targetEntityId := some entityId }
          slot pulse.periodicKey index pulse.effects)
        (index * pulse.intervalMs))

/-- All work for one effect: its pulses, and its expiry unless it is persistent. -/
def initialItems (instanceId : String) : List ScheduledItem :=
  let slot : EffectSlot := ⟨entityId, storageKey, active.effectKey, instanceId⟩
  (active.modifiers.filterMap EffectModifier.periodic?).flatMap
    (initialPulses entityId storageKey active source_ok slot) ++
  (if active.expiresAtMs = persistentExpiry then []
    else [initialItem entityId storageKey active source_ok (.effectExpiry slot)
      active.expiresAtMs])

end InitialEffects

/-- Name the effect stored in a slot by the next schedule order. -/
def Frame.nameEffect (frame : Frame) (entityId storageKey : String) : Frame × String :=
  let instanceId :=
    "initial-effect-instance:" ++ entityId ++ ":" ++ padded 12 frame.nextScheduleOrder
  ({ frame.modifyEntity entityId (EntityState.modifyEffect storageKey (fun e =>
      { e with instanceId := some instanceId })) with
    nextScheduleOrder := frame.nextScheduleOrder + 1 }, instanceId)

/-- The part of `_schedule_initial_effects` for one slot. -/
def scheduleInitialEffect (frame : Frame) (slot : String × String) : Except Fault Frame := do
  let entity ← frame.entity slot.1
  match entity.record? slot.2 with
  | none => .error (.keyError slot.2)
  | some active =>
    let (frame, instanceId) := match active.instanceId with
      | some instanceId => (frame, instanceId)
      | none => frame.nameEffect slot.1 slot.2
    if source_ok : Identifier active.sourceEntityId then
      pure ((initialItems slot.1 slot.2 active source_ok instanceId).foldl Frame.schedule frame)
    else throw (.valueError "actor_id must be a non-empty string")

/-- The occupied effect slots, by entity and by storage key. -/
def effectSlots (entities : Dict String EntityState) : List (String × String) :=
  entities.sortedKeys.flatMap (fun entityId => match entities.get? entityId with
    | some entity => entity.effects.sortedKeys.map (fun storageKey => (entityId, storageKey))
    | none => [])

/-- `_schedule_initial_effects`. -/
def scheduleInitialEffects (frame : Frame) : Except Fault Frame :=
  (effectSlots frame.entities).foldlM scheduleInitialEffect frame

/-- The world at time zero, before the initial effects are scheduled. -/
def initialWorld (seed : ℤ) (entities : List EntityState) : World where
  tick := 0
  nowMs := 0
  random := DeterministicRandom.init seed
  entities := Dict.ofList (entities.map (fun e => (e.entityId, e)))
  scheduled := []
  executions := ∅
  cancelledTokens := ∅
  nextScheduleOrder := 0
  nextEventNumber := 0

/-- The constructor of the reference environment, and, with a targeting context, that of the
affiliation-aware one. -/
def construct (rt : Runtime) (setup : Setup) (targeting : Option (RuntimeTargetingContext rt)) :
    Except Fault (Config rt × World) := do
  require (setup.entities ≠ [])
    (.configurationError "an environment requires at least one entity")
  require (setup.entities.map EntityState.entityId).Nodup
    (.configurationError "entity ids must be unique")
  validateEntityActions setup.catalog setup.entities
  let entities ← setup.entities.mapM EntityState.clone
  if tickDuration_pos : 0 < setup.tickDurationMs then
    let directions ← normalizeDirections rt setup.directionCandidates
    let frame ← scheduleInitialEffects { initialWorld setup.seed entities with }
    pure
      ({ catalog := setup.catalog
         tickDurationMs := setup.tickDurationMs
         directionCandidates := directions
         positionCandidates := setup.positionCandidates
         terminateOnLastTeam := setup.terminateOnLastTeam
         initialCompetingTeams := setup.competingTeams
         targeting := targeting
         tickDuration_pos := tickDuration_pos }, frame.toWorld)
  else throw (.valueError "tick_duration_ms must be positive")

end ShadowbaneLab
