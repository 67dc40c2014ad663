/-
# Observations and legal affordances

What one agent sees and may do (`src/shadowbane_lab/sim/affordances.py`), with the shared
cooldown rule (`sim/timing.py`).  The affiliation-aware builder
(`sim/affiliated_environment.py`) overrides the relation, the bindings of point actions
and the entity bindings; `Config.targeting` selects which of the two builders is meant.
-/
import ShadowbaneLab.Sim.Targeting

namespace ShadowbaneLab

open Foundation

/-- What an environment fixes at construction. -/
structure Config (rt : Runtime) where
  catalog : ActionCatalog
  tickDurationMs : ℕ
  directionCandidates : List Vector2
  positionCandidates : List Vector2 := []
  terminateOnLastTeam : Bool := false
  initialCompetingTeams : Finset String := ∅
  /-- The context of an affiliation-aware environment; the reference one has none. -/
  targeting : Option (RuntimeTargetingContext rt) := none
  tickDuration_pos : 0 < tickDurationMs

/-! ## Timing -/

/-- `effective_action_cooldown_ms`: weapon actions scale with the actor's delay factor. -/
def effectiveActionCooldownMs (actor : EntityState) (action : ActionSpec) : ℕ :=
  if "weapon" ∉ action.tags ∨ action.cooldownMs = 0 then action.cooldownMs
  else
    let factor := actor.scalarOrDefault "action.weapon.delay.factor" 1
    (max 1 (roundHalfEven (action.cooldownMs * factor))).toNat

/-- The total length of an action's phases. -/
def totalPhaseMs (action : ActionSpec) : ℕ := (action.phases.map ActionPhase.durationMs).sum

/-! ## Relations -/

/-- `_relation`: the comparison of team identifiers. -/
def teamRelation (actor target : EntityState) : Relation :=
  if actor.entityId = target.entityId then .self
  else
    match actor.teamId, target.teamId with
    | some left, some right => if left = right then .ally else .enemy
    | _, _ => .neutral

section Builder

variable {rt : Runtime} (cfg : Config rt)

/-- The relation an affordance builder uses. -/
def relation (actor target : EntityState) : Except Fault Relation :=
  match cfg.targeting with
  | none => .ok (teamRelation actor target)
  | some context => context.coarseRelation actor.entityId target.entityId

/-! ## Observations -/

/-- The rank a blocking tag of an effect advertises. -/
def blockRank (magnitude : ℚ) (scalars : Dict String ℚ) (tag : String) : Dict String ℚ :=
  let blocking := "resource.restore.block."
  if !startsWith tag blocking then scalars
  else
    let resourceKey := removePrefix tag blocking
    if resourceKey = "" then scalars
    else
      let scalarKey := "restore_block_rank." ++ resourceKey
      match scalars.get? scalarKey with
      | some existing =>
        if existing < magnitude then scalars.set scalarKey magnitude else scalars
      | none => scalars.set scalarKey magnitude

/-- The scalars an observation shows: effective values, then block ranks. -/
def observedScalars (entity : EntityState) : Dict String ℚ :=
  let scalars := Dict.ofList (entity.scalars.sortedKeys.map
    (fun name => (name, entity.scalarOrDefault name 0)))
  entity.records.foldl
    (fun scalars e => (sortedSet e.2.tags).foldl (blockRank e.2.magnitude) scalars) scalars

/-- `_observe_entity`. -/
def observeEntity (actor entity : EntityState) : Except Fault EntityObservation := do
  let relation ← relation cfg actor entity
  pure
    { entityId := entity.entityId
      kind := entity.kind
      relation := relation
      position := entity.position
      velocity := entity.velocity
      scalars := (observedScalars entity).sortedItems.map (fun e => ⟨e.1, e.2⟩)
      tags := sortedSet entity.effectiveTags }

/-! ## Bindings -/

/-- `_position_in_range`. -/
def positionInRange (rt : Runtime) (actorPosition targetPosition : Vector2) (action : ActionSpec) :
    Bool :=
  let span := distance rt actorPosition targetPosition
  if span < action.targeting.minimumRange then false
  else action.targeting.maximumRange.all (fun maximum => span ≤ maximum)

/-- The effects of all phases, in order. -/
def phaseEffects (action : ActionSpec) : List EffectPrimitive :=
  action.phases.flatMap ActionPhase.effects

/-- `_transfer_effect`: the single item transfer at the top level of an action. -/
def transferEffect (action : ActionSpec) : Except Fault (Option TransferItem) :=
  match (phaseEffects action).filterMap (fun
      | .direct (.transferItem e) => some e
      | _ => none) with
  | [] => .ok none
  | [transfer] => .ok (some transfer)
  | _ => .error (.configurationError "one action cannot contain multiple item transfers")

/-- Whether an action modifies an objective at its top level. -/
def modifiesObjective (action : ActionSpec) : Bool :=
  (phaseEffects action).any (fun
    | .direct (.modifyObjective _) => true
    | _ => false)

/-- The binding that offers one item, if enough of it is available. -/
def itemBinding (actor : EntityState) (targetId : String) (transfer : TransferItem)
    (itemId : String) : Except Fault (Option ActionBinding) :=
  let available := actor.inventory.getD itemId 0
  let quantity := transfer.quantity.getD available
  if h : quantity ≤ 0 ∨ available < quantity then .ok none
  else if hid : Identifier itemId then .ok (some
    { actorId := actor.entityId
      targetKind := .entity
      targetEntityId := some targetId
      quantity := some quantity
      itemId := some itemId
      quantity_ok := by
        rintro q ⟨⟩
        exact not_le.mp (not_or.mp h).1
      itemId_ok := by
        rintro i ⟨⟩
        exact hid })
  else .error (.valueError "item_id must be a non-empty string")

/-- `_transfer_bindings`. -/
def transferBindings (actor : EntityState) (targetId : String) (transfer : TransferItem) :
    Except Fault (List ActionBinding) := do
  let itemIds := match transfer.itemId with
    | some itemId => [itemId]
    | none => sortBy id ((actor.inventory.items.filter (fun e : String × ℚ => 0 < e.2)).map
        Prod.fst)
  let offered ← itemIds.mapM (itemBinding actor targetId transfer)
  pure (offered.filterMap id)

/-- The bindings of one eligible target. -/
def targetBindings (actor : EntityState) (transfer : Option TransferItem)
    (modifiesObjective : Bool) (target : EntityState) : Except Fault (List ActionBinding) :=
  if modifiesObjective && target.kind ≠ .objective then .ok []
  else
    match transfer with
    | none =>
      .ok [{ actorId := actor.entityId
             targetKind := .entity
             targetEntityId := some target.entityId
             objectiveId := if modifiesObjective then some target.entityId else none }]
    | some transfer => transferBindings actor target.entityId transfer

/-- Whether the reference builder offers a target. -/
def offersTarget (rt : Runtime) (actor target : EntityState) (action : ActionSpec) : Bool :=
  target.alive && decide (teamRelation actor target ∈ action.targeting.allowedRelations) &&
    canObserve actor target && positionInRange rt actor.position target.position action

/-- `_entity_bindings` of the two builders. -/
def entityBindings (entities : Dict String EntityState) (actor : EntityState)
    (action : ActionSpec) : Except Fault (List ActionBinding) :=
  match cfg.targeting with
  | none => do
    let transfer ← transferEffect action
    let targets := (entities.sortedKeys.filterMap entities.get?).filter
      (fun target => offersTarget rt actor target action)
    let offered ← targets.mapM (targetBindings actor transfer (modifiesObjective action))
    pure offered.flatten
  | some context => do
    let resolution ← context.resolveAction actor entities.values action
    let transfer ← transferEffect action
    let targets := resolution.acceptedEntityIds.filterMap entities.get?
    let offered ← targets.mapM (targetBindings actor transfer (modifiesObjective action))
    pure offered.flatten

/-- `_bindings` of the two builders: every way to bind an action's parameters.  The
affiliation-aware one never offers a point action that needs line of sight. -/
def bindings (entities : Dict String EntityState) (actor : EntityState) (action : ActionSpec) :
    Except Fault (List ActionBinding) :=
  match action.targeting.kind with
  | .none => .ok [{ actorId := actor.entityId }]
  | .self => .ok [{ actorId := actor.entityId, targetKind := .self }]
  | .direction => .ok (cfg.directionCandidates.map (fun direction =>
      { actorId := actor.entityId, targetKind := .direction, direction := some direction }))
  | .position =>
    if cfg.targeting.isSome ∧ action.targeting.requiresLineOfSight then .ok []
    else .ok ((cfg.positionCandidates.filter (fun position =>
      positionInRange rt actor.position position action)).map (fun position =>
        { actorId := actor.entityId, targetKind := .position, position := some position }))
  | .entity => entityBindings cfg entities actor action

/-! ## Legality -/

def actionTagBlockPrefix : String := "control.block.action_tag."

/-- `_actor_can_start`. -/
def actorCanStart (nowMs : ℕ) (actor : EntityState) (action : ActionSpec) : Bool :=
  let tags := actor.effectiveTags
  let blocked := (sortedSet tags).filterMap (fun tag =>
    if startsWith tag actionTagBlockPrefix then some (removePrefix tag actionTagBlockPrefix)
    else none)
  actor.cooldowns.getD action.actionKey 0 ≤ nowMs &&
    action.requiredActorTags.all (fun tag => tag ∈ tags) &&
    !action.forbiddenActorTags.any (fun tag => tag ∈ tags) &&
    !blocked.any (fun tag => tag ∈ action.tags) &&
    action.costs.all (fun cost => cost.amount ≤ actor.scalar cost.resourceKey)

/-! ## Features -/

/-- `_attack_gates`. -/
def attackGates (action : ActionSpec) : List AttackGate :=
  (phaseEffects action).flatMap (fun
    | .attack gate => [gate]
    | .area area => area.effects.filterMap (fun
      | .attack gate => some gate
      | _ => none)
    | _ => [])

/-- The armed triggers of an actor that an action qualifies for. -/
def activeTriggers (actor : EntityState) (action : ActionSpec) : List ActionTriggerSpec :=
  actor.records.filterMap (fun active =>
    (cfg.catalog.triggerForEffect active.2.effectKey).filter (fun trigger =>
      trigger.qualifies action.actionKey action.tags))

/-- A scalar that a weapon may name, else its own value. -/
def weaponScalar (actor : EntityState) (scalarKey : Option String) (default : ℚ) : ℚ :=
  match scalarKey with
  | some key => actor.scalarOrDefault key default
  | none => default

/-- The scalar behind each stance channel. -/
def stanceChannels (actor : EntityState) : List (String × Option String) :=
  [("attack", actor.scalars.sortedKeys.find? (fun key => startsWith key "attack.")),
    ("defense", some "defense"), ("damage", some "outgoing.damage.factor"),
    ("weapon_delay", some "action.weapon.delay.factor"), ("movement", some "move_speed"),
    ("stamina_recovery", some "stamina.recovery.factor")]

/-- The relative factors of a stance action. -/
def stanceFeatures (actor : EntityState) (values : Dict String ℚ) : Dict String ℚ :=
  (stanceChannels actor).foldl (fun values channel =>
    match values.get? ("stance." ++ channel.1 ++ ".factor"), channel.2 with
    | some target, some scalarKey =>
      values.set ("stance." ++ channel.1 ++ ".relative_factor")
        (target / actor.stanceFactor scalarKey)
    | _, _ => values) values

/-- The expected damage one trigger adds. -/
def triggerDamage (trigger : ActionTriggerSpec) : ℚ :=
  (trigger.attackModifier.map (fun m =>
    (m.bonusDamageMinimum + m.bonusDamageMaximum) / 2)).getD 0 +
    (trigger.payload.map (fun
      | .dealDamage e => e.amount.expected
      | _ => 0)).sum

/-- The control time one trigger adds. -/
def triggerControlMs (trigger : ActionTriggerSpec) : ℚ :=
  (trigger.payload.map (fun
    | .applyEffect e => if e.tags.any (fun tag => startsWith tag "control.") then (e.durationMs : ℚ)
      else 0
    | _ => 0)).sum

/-- The hit chance a gate advertises before any roll. -/
def expectedGateChance (rt : Runtime) (gate : AttackGate) (modifiers : List AttackModifierSpec)
    (actor target : EntityState) : Except Fault ℚ := do
  let attackRating := actor.scalarOrDefault gate.attackRatingKey 0 +
    (modifiers.map AttackModifierSpec.attackRatingBonus).sum
  let defense := target.scalarOrDefault gate.defenseRatingKey 0
  let percent ←
    if modifiers.any AttackModifierSpec.bypassDefense then pure 100
    else
      match gate.kind with
      | .basic => meleeHitChancePercent rt attackRating defense
      | .power => powerHitChancePercent rt attackRating defense
  pure ((percent : ℚ) / 100)

/-- The features that depend on how the action attacks. -/
def attackFeatures (rt : Runtime) (triggers : List ActionTriggerSpec) (actor : EntityState)
    (target : Option EntityState) (action : ActionSpec) (values : Dict String ℚ) :
    Except Fault (Dict String ℚ) :=
  match action.weaponAttack, target with
  | some attack, target =>
    let minimum := weaponScalar actor attack.minimumDamageScalar attack.minimumDamage
    let maximum := weaponScalar actor attack.maximumDamageScalar attack.maximumDamage
    let values := values.set "expected_damage" ((minimum + maximum) / 2)
    match target with
    | none => .ok values
    | some target =>
      let attackRating := actor.scalarOrDefault attack.attackRatingScalar attack.defaultAttackRating
      let defense := target.scalarOrDefault attack.defenseScalar attack.defaultDefense
      .ok (values.set "expected_hit_chance" (attack.hitChance attackRating defense))
  | none, some target =>
    match (attackGates action).head? with
    | none => .ok values
    | some gate => do
      let chance ← expectedGateChance rt gate
        (triggers.filterMap ActionTriggerSpec.attackModifier) actor target
      pure (values.set "expected_hit_chance" chance)
  | none, none => .ok values

/-- The features that depend on the actor's armed triggers. -/
def triggerFeatures (triggers : List ActionTriggerSpec) (values : Dict String ℚ) : Dict String ℚ :=
  let damage := (triggers.map triggerDamage).sum
  let control := (triggers.map triggerControlMs).sum
  let values := if triggers = [] then values else values.set "trigger_count" triggers.length
  let values := if damage = 0 then values else values.set "trigger_expected_damage" damage
  if control = 0 then values else values.set "trigger_control_duration_ms" control

/-- The features every action has: declared ones, times and costs. -/
def baseFeatures (actor : EntityState) (action : ActionSpec) : Dict String ℚ :=
  let values := Dict.ofList (action.features.map (fun f => (f.name, f.value)))
  let cooldown : ℚ := effectiveActionCooldownMs actor action
  let duration : ℚ := totalPhaseMs action
  let values := (values.set "cast_time_ms" duration).set "cooldown_ms" cooldown
  let values :=
    if "weapon" ∈ action.tags then values.set "commitment_ms" (max cooldown duration)
    else if values.contains "commitment_ms" then values
    else values.set "commitment_ms" duration
  action.costs.foldl (fun values cost => values.set ("cost." ++ cost.resourceKey) cost.amount) values

/-- `_affordance_features`. -/
def affordanceFeatures (entities : Dict String EntityState) (actor : EntityState)
    (action : ActionSpec) (binding : ActionBinding) : Except Fault (List NamedScalar) := do
  let target ← match binding.targetEntityId with
    | none => pure none
    | some targetId =>
      match entities.get? targetId with
      | some target => pure (some target)
      | none => .error (.keyError targetId)
  let values := baseFeatures actor action
  let values := match target with
    | some target => values.set "distance" (distance rt actor.position target.position)
    | none => values
  let values := stanceFeatures actor values
  let triggers := activeTriggers cfg actor action
  let values ← attackFeatures rt triggers actor target action values
  pure ((triggerFeatures triggers values).sortedItems.map (fun e => ⟨e.1, e.2⟩))

/-! ## The exchange -/

/-- Add the affordances of one action to those already listed. -/
def actionAffordances (entities : Dict String EntityState) (tick nowMs : ℕ) (actor : EntityState)
    (affordances : List Affordance) (actionKey : String) : Except Fault (List Affordance) := do
  let action ← cfg.catalog.get actionKey
  if !actorCanStart nowMs actor action then pure affordances
  else
    let bindings ← bindings cfg entities actor action
    bindings.foldlM (fun affordances binding => do
      let features ← affordanceFeatures cfg entities actor action binding
      pure (affordances ++
        [{ affordanceId := "affordance:" ++ decimal tick ++ ":" ++ actor.entityId ++ ":" ++
             padded 4 affordances.length
           actionKey := action.actionKey
           binding := binding
           features := features
           tags := action.tags }])) affordances

/-- Whether an actor may act at all. -/
def mayAct (nowMs : ℕ) (actor : EntityState) : Bool :=
  actor.alive && decide (actor.busyUntilMs ≤ nowMs) &&
    decide ("control.stun" ∉ actor.effectiveTags)

/-- `_build_affordances`. -/
def buildAffordances (entities : Dict String EntityState) (tick nowMs : ℕ) (actor : EntityState) :
    Except Fault (List Affordance) :=
  if mayAct nowMs actor then
    (sortBy id actor.actionKeys).foldlM (actionAffordances cfg entities tick nowMs actor) []
  else .ok []

/-- The entities an agent's observation lists. -/
def observedEntities (entities : Dict String EntityState) (agentId : String)
    (actor : EntityState) : List EntityState :=
  entities.sortedKeys.filterMap (fun entityId => (entities.get? entityId).filter (fun entity =>
    (entity.alive || decide (entityId = agentId)) && canObserve actor entity))

/-- `AffordanceBuilder.exchange`. -/
def exchange (entities : Dict String EntityState) (tick nowMs : ℕ) (agentId : String) :
    Except Fault AgentExchange := do
  match entities.get? agentId with
  | none => .error (.keyError ("unknown entity id: " ++ agentId))
  | some actor =>
    let observationId := "observation:" ++ decimal tick ++ ":" ++ agentId
    let observed ← (observedEntities entities agentId actor).mapM (observeEntity cfg actor)
    let affordances ← buildAffordances cfg entities tick nowMs actor
    pure
      { observation :=
          { messageId := "message:" ++ observationId
            observationId := observationId
            agentId := agentId
            lifeId := actor.lifeId
            tick := tick
            simTimeMs := nowMs
            entities := observed
            active := actor.alive }
        affordances :=
          { messageId := "message:affordances:" ++ decimal tick ++ ":" ++ actor.entityId
            observationId := observationId
            agentId := actor.entityId
            tick := tick
            affordances := affordances } }

end Builder

end ShadowbaneLab
