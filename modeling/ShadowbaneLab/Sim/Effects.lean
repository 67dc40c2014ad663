/-
# Execution of the primitive effects

`EffectExecutor` (`src/shadowbane_lab/sim/effects.py`) as programs over the commands of a
scope.  A function of the source that receives a live entity receives a `Living` handle
here; the checks of `eligible_alive` are where such handles come from.
-/
import ShadowbaneLab.Sim.Damage

namespace ShadowbaneLab

open Foundation

variable {scope : Scope} {α β : Type}

/-! ## Reading and writing -/

/-- Call one command. -/
def call (command : Command scope) : Exec scope ((commands scope).Result command) :=
  Program.command (S := commands scope) command

/-- Raise an error. -/
def raise (fault : Fault) : Exec scope α := Program.raise fault

/-- Continue with the value of a fallible computation. -/
def attempt (x : Except Fault α) : Exec scope α := Program.ofExcept x

def observe (f : Dict String EntityState → β) (free : OrderFree f) : Exec scope β :=
  call (.observe f free)

/-- Read the entity with an identifier, if there is one. -/
def readEntity (entityId : String) (f : EntityState → β) (hf : Intrinsic f) :
    Exec scope (Option β) :=
  observe (fun d => (d.get? entityId).map f) (.entity hf entityId)

/-- `_entity` of the executor, followed by a reading. -/
def readKnown (entityId : String) (f : EntityState → β) (hf : Intrinsic f) : Exec scope β := do
  match ← readEntity entityId f hf with
  | some value => pure value
  | none => raise (.configurationError ("unknown entity id: " ++ entityId))

/-- Read an eligible entity. -/
def read (subject : Living scope) (f : EntityState → β) (hf : Intrinsic f) : Exec scope β :=
  readKnown subject.id f hf

def draw (f : DeterministicRandom → β × DeterministicRandom) : Exec scope β :=
  call (.draw f)

def emit (draft : EventDraft) (allowed : draft.kind.reserved = false := by rfl) :
    Exec scope Unit :=
  call (.emit draft allowed)

def adjust (subject : Living scope) (key : String) (change : ScalarChange)
    (key_ok : Identifier key) : Exec scope (ℚ × ℚ) :=
  call (.adjust subject key change key_ok)

def alter (subject : Living scope) (change : BodyChange) : Exec scope Unit :=
  call (.alter subject change)

def removeStored (subject : Living scope) (storageKey : String) (ctx : ItemContext)
    (reason : String) (scalars : List NamedScalar := []) : Exec scope Unit :=
  call (.remove subject storageKey ctx reason scalars)

/-- The handle of an entity that is eligible in the scope. -/
def living? (entityId : String) : Option (Living scope) :=
  if h : entityId ∈ scope.eligible then some ⟨entityId, h⟩ else none

/-- The draft of an event that an item causes. -/
def ItemContext.draft (ctx : ItemContext) (kind : EventKind) (targetId : Option String)
    (scalars : List NamedScalar := []) (tags : List String := []) : EventDraft where
  kind := kind
  correlationId := some ctx.correlationId
  sourceEntityId := some ctx.actorId
  targetEntityId := targetId
  actionKey := some ctx.actionKey
  scalars := scalars
  tags := tags

/-- `_required_scalar`. -/
def requiredScalar (entityId : String) (key : String) : Exec scope ℚ := do
  match ← readKnown entityId (fun e => e.effectiveScalar key) (intrinsic_effectiveScalar key) with
  | some value => pure value
  | none =>
    raise (.configurationError ("entity " ++ entityId ++ " is missing required scalar " ++ key))

/-- `_scalar_or_default`. -/
def scalarOr (entityId : String) (key : String) (default : ℚ) : Exec scope ℚ :=
  readKnown entityId (fun e => e.scalarOrDefault key default) (intrinsic_scalarOrDefault key default)

/-- Whether a tag is in effect on an entity. -/
def hasTag (entityId : String) (tag : String) : Exec scope Bool :=
  readKnown entityId (fun e => decide (tag ∈ e.effectiveTags))
    (intrinsic_effectiveTags.comp (fun tags => decide (tag ∈ tags)))

/-- `_chance_roll`: certain outcomes draw nothing. -/
def chanceRoll (chance : ℚ) : Exec scope (ℚ × Bool) :=
  if chance ≤ 0 then pure (1, false)
  else if 1 ≤ chance then pure (0, true)
  else do
    let roll ← draw DeterministicRandom.random
    pure (roll, roll < chance)

/-- The value a weighted roll selects. -/
def selectOutcome (selected : ℕ) : ℕ → List (ℚ × ℕ) → Option ℚ
  | _, [] => none
  | cumulative, (value, weight) :: rest =>
    if selected < cumulative + weight then some value
    else selectOutcome selected (cumulative + weight) rest

/-- `_resolve_amount`. -/
def resolveAmount (rt : Runtime) (amount : AmountSpec) : Exec scope ℚ :=
  match amount with
  | .fixed value _ => pure value
  | .uniform a => draw (DeterministicRandom.uniform a.minimum a.maximum)
  | .triangular a => do
    let first ← draw DeterministicRandom.random
    let second ← draw DeterministicRandom.random
    attempt (triangularRoll rt a.minimum a.maximum first second)
  | .uniformInteger a => do
    let offset ← draw (DeterministicRandom.randbelow (a.maximum - a.minimum + 1))
    pure ((a.minimum + offset : ℕ) : ℚ)
  | .weighted a => do
    let selected ← draw (DeterministicRandom.randbelow a.totalWeight)
    match selectOutcome selected 0 a.outcomes with
    | some value => pure value
    | none =>
      raise (.configurationError "weighted amount selection did not reach an outcome")

/-! ## Stances -/

/-- Report a stance change that has just been written. -/
def stanceChanged (ctx : ItemContext) (subject : Living scope) (previous next : CombatStance)
    (reason : String) : Exec scope Unit :=
  emit (ctx.draft .stanceChanged (some subject.id) []
    ["stance.from." ++ previous.value, "stance.to." ++ next.value, "reason." ++ reason])

/-- `_drop_travel_stance`. -/
def dropTravelStance (ctx : ItemContext) (subject : Living scope) (reason : String) :
    Exec scope Unit := do
  let previous ← read subject EntityState.stance intrinsic_stance
  if previous = .travel then
    alter subject (.stance .normal)
    stanceChanged ctx subject previous .normal reason

/-- `_change_stance`. -/
def changeStance (ctx : ItemContext) (effect : ChangeStance) (subject : Living scope) :
    Exec scope Unit := do
  let previous ← read subject EntityState.stance intrinsic_stance
  if previous ≠ effect.stance then
    alter subject (.stance effect.stance)
    stanceChanged ctx subject previous effect.stance "action"

/-! ## Damage -/

/-- Drain one absorber, and remove it when nothing is left of it. -/
def consumeAbsorber (ctx : ItemContext) (subject : Living scope) (damageType : String)
    (absorber : String × EffectRecord) (absorbed : ℚ) : Exec scope Unit := do
  let remaining := absorber.2.magnitude - absorbed
  alter subject (.absorb absorber.1 absorbed)
  emit
    { kind := .absorberConsumed
      correlationId := some ctx.correlationId
      sourceEntityId := some absorber.2.sourceEntityId
      targetEntityId := some subject.id
      actionKey := some ctx.actionKey
      scalars := [⟨"absorbed", absorbed⟩, ⟨"remaining", remaining⟩]
      tags := ["effect." ++ absorber.2.effectKey, "damage." ++ damageType] }
  if remaining ≤ 0 then removeStored subject absorber.1 ctx "reason.depleted"

/-- Add damage to the breakpoints of one effect until one of them gives way. -/
def accumulateBreakpoints (ctx : ItemContext) (subject : Living scope) (storageKey : String)
    (amount : ℚ) (h : 0 ≤ amount) : List DamageBreakpoint → Exec scope Unit
  | [] => pure ()
  | modifier :: rest => do
    let stored ← read subject
      (fun e => (e.effects.get? storageKey).bind (fun a => a.modifierValues.get? modifier.stateKey))
      (by
        intro a b hab
        have hslot := hab.effects storageKey
        dsimp only
        generalize a.effects.get? storageKey = o at hslot ⊢
        generalize b.effects.get? storageKey = o' at hslot ⊢
        cases hslot with
        | none => rfl
        | some heq => exact heq.modifierValues modifier.stateKey)
    match stored with
    | none => raise (.keyError modifier.stateKey)
    | some value =>
      let accumulated := value + amount
      alter subject (.accumulate storageKey modifier.stateKey amount h)
      if modifier.threshold < accumulated then
        removeStored subject storageKey ctx "reason.damage_breakpoint"
          [⟨"breakpoint", modifier.threshold⟩, ⟨"accumulated_damage", accumulated⟩]
      else accumulateBreakpoints ctx subject storageKey amount h rest

/-- `_accumulate_damage_breakpoints`. -/
def accumulateDamageBreakpoints (ctx : ItemContext) (subject : Living scope)
    (damageType : DamageType) (amount : ℚ) (h : 0 ≤ amount) : Exec scope Unit := do
  let stored ← read subject (fun e => sortBy Prod.fst (e.records.filter (fun _ => true)))
    intrinsic_slots
  stored.forM (fun e => accumulateBreakpoints ctx subject e.1 amount h
    ((e.2.modifiers.filterMap EffectModifier.breakpoint?).filter (fun m =>
      damageType ∈ m.damageTypes)))

/-- `_commit_damage`, including `_consume_damage_absorbers`. -/
def commitDamage (ctx : ItemContext) (subject : Living scope) (transaction : DamageTransaction) :
    Exec scope DamageResolution := do
  let available ← read subject (absorbers transaction.damageType)
    (intrinsic_absorbers transaction.damageType)
  let plan := absorptionPlan transaction.postResistance available
  plan.forM (fun step => consumeAbsorber ctx subject transaction.damageType step.1 step.2)
  let absorbed := totalAbsorbed plan
  let (before, after) ← adjust subject "health"
    (.damage (transaction.postResistance - absorbed)
      (sub_nonneg.mpr (totalAbsorbed_le transaction.postResistance_nonneg available)))
    (by decide)
  let resolution : DamageResolution := ⟨absorbed, before, after⟩
  attempt (resolution.check transaction)
  emit (ctx.draft .damageApplied (some subject.id)
    [⟨"requested", transaction.requested⟩, ⟨"mitigated", transaction.postResistance⟩,
      ⟨"post_resistance", transaction.postResistance⟩,
      ⟨"resistance", transaction.resistanceFraction⟩,
      ⟨"resistance_percent", transaction.resistancePercent⟩,
      ⟨"armor_piercing", transaction.armorPiercing⟩, ⟨"resisted", transaction.resisted⟩,
      ⟨"absorbed", resolution.absorbed⟩, ⟨"effective", resolution.effective⟩]
    (["damage." ++ transaction.damageType] ++ transaction.tags ++
      (ctx.triggerKey.map (fun key => "trigger." ++ key)).toList).eraseDups)
  match transaction.breakpointDamageType with
  | some damageType =>
    if 0 < transaction.breakpointAmount then
      accumulateDamageBreakpoints ctx subject damageType transaction.breakpointAmount
        transaction.breakpointAmount_nonneg
  | none => pure ()
  if 0 < resolution.effective then
    dropTravelStance ctx subject "damage"
    call (.interrupt subject .damage)
  pure resolution

/-- The sum of the resistance adjustments active for a damage type. -/
def resistanceAdjustments (damageType : DamageType) (subject : EntityState) : ℚ :=
  (sortBy Prod.fst (subject.records.filter (fun _ => true))).foldl
    (fun total e => (e.2.modifiers.filterMap EffectModifier.adjustment?).foldl
      (fun total m => if m.damageType = damageType then total + m.amount else total) total) 0

theorem intrinsic_resistanceAdjustments (damageType : DamageType) :
    Intrinsic (resistanceAdjustments damageType) :=
  (intrinsic_sorted_records Prod.fst (fun _ _ heq => heq) (fun _ => true)).comp _

/-- The resistance stage of `_deal_damage`: the mitigated amount, the resistance and the
armor piercing. -/
def resistDamage (rt : Runtime) (ctx : ItemContext) (effect : DealDamage)
    (subject : Living scope) (amount : ℚ) : Exec scope (ℚ × ℚ × ℚ) := do
  let channel := effect.damageType.value
  let base ← requiredScalar subject.id ("resist." ++ channel)
  let adjustments ← read subject (resistanceAdjustments effect.damageType)
    (intrinsic_resistanceAdjustments effect.damageType)
  let armorPiercing ← requiredScalar ctx.actorId "armor_piercing"
  let protectionApplies ← hasTag subject.id ("protection." ++ channel)
  let protectionTrains ←
    if protectionApplies then do
      let raw ← requiredScalar subject.id "protection.trains"
      if raw < 0 ∨ raw.den ≠ 1 then
        raise (.configurationError ("entity " ++ subject.id ++
          " protection.trains must be a non-negative integer"))
      else pure raw.num.toNat
    else pure 0
  let resistance := effectiveResistance (base + adjustments) protectionTrains effect.powerTrains
    protectionApplies
  let immune ← hasTag subject.id ("immunity.damage." ++ channel)
  let sitting ← hasTag subject.id "state.sitting"
  let mitigated := if immune then 0 else resistedAmount rt amount resistance armorPiercing
  let mitigated := if sitting then mitigated * (5 / 2) else mitigated
  pure (mitigated, resistance, armorPiercing)

/-- The outgoing factor a damage effect is scaled by. -/
def damageFactorKey (catalog : ActionCatalog) (ctx : ItemContext) (effect : DealDamage) : String :=
  if effect.sourceKey.any (fun key => startsWith key "proc.") then "outgoing.proc.damage.factor"
  else if catalog.actionHasTag ctx.actionKey "power" then "outgoing.power.damage.factor"
  else "outgoing.weapon.damage.factor"

/-- `_deal_damage`. -/
def dealDamage (rt : Runtime) (catalog : ActionCatalog) (ctx : ItemContext) (effect : DealDamage)
    (subject : Living scope) : Exec scope DamageResolution := do
  let rolled ← resolveAmount rt effect.amount
  let outgoing ← scalarOr ctx.actorId "outgoing.damage.factor" 1
  let factor ← scalarOr ctx.actorId (damageFactorKey catalog ctx effect) 1
  let amount := rolled * outgoing * factor
  let (mitigated, resistance, armorPiercing) ←
    if effect.usesResistance then resistDamage rt ctx effect subject amount
    else pure (amount, 0, 0)
  let transaction ← attempt (DamageTransaction.make effect.damageType.value amount mitigated
    resistance armorPiercing (some effect.damageType) mitigated
    (effect.sourceKey.map (fun key => "damage_source." ++ key)).toList)
  commitDamage ctx subject transaction

/-- A scalar of the subject under a specific key, else under a general one. -/
def layeredScalar (specific general : String) (default : ℚ) (subject : EntityState) : ℚ :=
  (subject.scalars.get? specific).getD (subject.scalars.getD general default)

theorem intrinsic_layeredScalar (specific general : String) (default : ℚ) :
    Intrinsic (layeredScalar specific general default) := by
  intro a b h
  rw [layeredScalar, layeredScalar, h.scalars specific, h.scalars.getD_eq general default]

/-- `_apply_weapon_damage`. -/
def applyWeaponDamage (ctx : ItemContext) (subject : Living scope) (amount : ℚ)
    (damageType : String) (extraTags : List String) : Exec scope ℚ := do
  let outgoing ← scalarOr ctx.actorId "outgoing.damage.factor" 1
  let weapon ← scalarOr ctx.actorId "outgoing.weapon.damage.factor" 1
  let amount := amount * outgoing * weapon
  let raw ← read subject (layeredScalar ("resistance." ++ damageType) "resistance.all" 0)
    (intrinsic_layeredScalar _ _ _)
  let cap ← read subject (layeredScalar ("resistance_cap." ++ damageType) "resistance_cap" (3 / 4))
    (intrinsic_layeredScalar _ _ _)
  let floor ← read subject
    (layeredScalar ("resistance_floor." ++ damageType) "resistance_floor" (-1))
    (intrinsic_layeredScalar _ _ _)
  if cap < floor then raise (.configurationError "resistance cap is below resistance floor")
  else
    let resistance := max floor (min cap raw)
    let afterResistance := max 0 (amount * (1 - resistance))
    let breakpointType := (DamageType.parse damageType).filter (fun t => t ≠ .unknown)
    let transaction ← attempt (DamageTransaction.make damageType amount afterResistance
      (resistance * 100) 0 breakpointType (if breakpointType.isSome then afterResistance else 0)
      extraTags)
    let resolution ← commitDamage ctx subject transaction
    pure resolution.effective

/-! ## Resources -/

/-- Whether an immunity of the subject blocks a restoration. -/
def restorationBlocked (effect : RestoreResource) (subject : EntityState) : Bool :=
  subject.records.any (fun e =>
    (e.2.modifiers.filterMap EffectModifier.immunity?).any
      (fun m => m.resourceKey = effect.resourceKey) && effect.powerTrains ≤ e.2.trains)

/-- `_restore_resource`. -/
def restoreResource (rt : Runtime) (ctx : ItemContext) (effect : RestoreResource)
    (subject : Living scope) : Exec scope Unit := do
  let rolled ← resolveAmount rt effect.amount
  let amount ←
    if effect.resourceKey = "health" then do
      let factor ← scalarOr ctx.actorId "outgoing.power.healing.factor" 1
      pure (rolled * factor)
    else pure rolled
  let blocked ← read subject (restorationBlocked effect) (intrinsic_any_record _)
  let (mitigated, resistance, armorPiercing) ←
    match effect.resistanceType with
    | some channel => do
      let base ← requiredScalar subject.id ("resist." ++ channel.value)
      let armorPiercing ← requiredScalar ctx.actorId "armor_piercing"
      let resistance := effectiveResistance base 0 effect.powerTrains false
      pure (resistedAmount rt amount resistance armorPiercing, resistance, armorPiercing)
    | none => pure (amount, 0, 0)
  let mitigated := if blocked then 0 else mitigated
  let (before, after) ← adjust subject effect.resourceKey (.restore mitigated)
    effect.resourceKey_ok
  emit (ctx.draft .resourceRestored (some subject.id)
    [⟨"requested", amount⟩, ⟨"mitigated", mitigated⟩, ⟨"resistance_percent", resistance⟩,
      ⟨"armor_piercing", armorPiercing⟩, ⟨"effective", after - before⟩]
    (("resource." ++ effect.resourceKey) ::
      (if blocked then ["outcome.blocked_by_resource_immunity"] else [])))

/-- `_transfer_resource`. -/
def transferResource (rt : Runtime) (ctx : ItemContext) (effect : TransferResource)
    (source destination : Living scope) : Exec scope Unit := do
  let requested ← resolveAmount rt effect.amount
  let (sourceBefore, sourceAfter) ← adjust source effect.resourceKey (.drain requested)
    effect.resourceKey_ok
  let drained := min requested sourceBefore
  let (destinationBefore, destinationAfter) ← adjust destination effect.resourceKey
    (.credit (drained * effect.efficiency)) effect.resourceKey_ok
  emit (ctx.draft .resourceTransferred (some source.id)
    [⟨"requested", requested⟩, ⟨"drained", drained⟩, ⟨"efficiency", effect.efficiency⟩,
      ⟨"credited", destinationAfter - destinationBefore⟩, ⟨"source_before", sourceBefore⟩,
      ⟨"source_after", sourceAfter⟩, ⟨"destination_before", destinationBefore⟩,
      ⟨"destination_after", destinationAfter⟩]
    ["resource." ++ effect.resourceKey, "operation.transfer"])

/-- `_modify_scalar`. -/
def modifyScalar (ctx : ItemContext) (effect : ModifyScalar) (subject : Living scope) :
    Exec scope Unit := do
  let (before, after) ← adjust subject effect.scalarKey (.modify effect.operation effect.amount)
    effect.scalarKey_ok
  emit (ctx.draft .scalarModified (some subject.id) [⟨"before", before⟩, ⟨"after", after⟩]
    ["scalar." ++ effect.scalarKey])

/-- `_modify_objective`. -/
def modifyObjective (ctx : ItemContext) (effect : ModifyObjective) (subject : Living scope) :
    Exec scope Unit := do
  let kind ← read subject EntityState.kind intrinsic_kind
  if kind ≠ .objective then
    raise (.configurationError "objective modification requires an objective entity")
  else
    let (before, after) ← adjust subject "objective_progress" (.progress effect.progressDelta)
      (by decide)
    emit (ctx.draft .objectiveChanged (some subject.id) [⟨"before", before⟩, ⟨"after", after⟩])

/-- `_modify_tag`. -/
def modifyTag (ctx : ItemContext) (effect : ModifyTag) (subject : Living scope) :
    Exec scope Unit := do
  let before ← read subject (fun e => decide (effect.tag ∈ e.tags))
    (intrinsic_tags.comp (fun tags => decide (effect.tag ∈ tags)))
  alter subject (match effect.operation with
    | .add => .addTag effect.tag effect.tag_ok
    | .remove => .discardTag effect.tag)
  if before ≠ effect.operation.adds then
    emit (ctx.draft .tagModified (some subject.id) []
      [effect.tag, if effect.operation.adds then "operation.add" else "operation.remove"])

/-! ## Effects on effects -/

/-- Result of one primitive effect attempt. -/
structure EffectOutcome where
  kind : EffectOutcomeKind
  subjectEntityId : Option String := none
  magnitude : ℚ := 0

/-- The tags that make a subject immune to an effect. -/
def immunityTags (effect : ApplyEffect) : Finset String :=
  if "control.stun" ∈ effect.tags then insert "immunity.stun" effect.immunityTags.toFinset
  else effect.immunityTags.toFinset

/-- `_apply_effect`. -/
def applyEffect (ctx : ItemContext) (effect : ApplyEffect) (subject : Living scope) :
    Exec scope EffectOutcome := do
  let matching ← read subject (fun e => sortedSet (immunityTags effect ∩ e.effectiveTags))
    (intrinsic_effectiveTags.comp (fun tags => sortedSet (immunityTags effect ∩ tags)))
  if matching ≠ [] then
    emit (ctx.draft .effectBlocked (some subject.id) []
      (["effect." ++ effect.effectKey, "reason.immune"] ++ matching))
    pure { kind := .blockedImmunity, subjectEntityId := some subject.id }
  else
    let existing ← read subject (fun e => e.record? effect.storageKey)
      (intrinsic_record effect.storageKey)
    let refreshed := existing.any (fun active => active.effectKey = effect.effectKey)
    match existing.filter (fun active => !shouldOverwriteEffect effect.stackOrder active.stackOrder
        effect.trains active.trains effect.stackPriority refreshed) with
    | some active =>
      emit (ctx.draft .effectBlocked (some subject.id)
        [⟨"incoming_stack_order", effect.stackOrder⟩,
          ⟨"existing_stack_order", active.stackOrder⟩, ⟨"incoming_trains", effect.trains⟩,
          ⟨"existing_trains", active.trains⟩]
        ["effect." ++ effect.effectKey, "reason.stack_priority"])
      pure { kind := .blockedStack, subjectEntityId := some subject.id }
    | none =>
      call (.install subject effect ctx)
      if "control.stun" ∈ effect.tags then call (.interrupt subject .stun)
      pure
        { kind := if refreshed then .refreshed else .applied
          subjectEntityId := some subject.id
          magnitude := effect.durationMs }

/-- Whether a removal matches a stored effect. -/
def RemovalMatch.matchesRecord (criterion : RemovalMatch) (active : EffectRecord) : Bool :=
  match criterion with
  | .effectKey key _ => active.effectKey = key
  | .matchingTag tag _ => tag ∈ active.tags

/-- The storage keys a removal takes, in its order: all of them sorted, or the newest
applications first up to the maximum. -/
def removalKeys (effect : RemoveEffect) (subject : EntityState) : List String :=
  match effect.maximumCount with
  | none => (sortBy Prod.fst (subject.records.filter (fun e =>
      effect.criterion.matchesRecord e.2))).map Prod.fst
  | some count =>
    ((sortBy (fun e => toLex (e.2.applicationOrder, e.1)) (subject.records.filter (fun e =>
      effect.criterion.matchesRecord e.2))).reverse.take count).map Prod.fst

theorem intrinsic_removalKeys (effect : RemoveEffect) : Intrinsic (removalKeys effect) := by
  intro a b h
  have hname := intrinsic_sorted_records Prod.fst (fun _ _ heq => heq)
    (fun e => effect.criterion.matchesRecord e.2) a b h
  have hage := intrinsic_sorted_records
    (fun e : String × EffectRecord => toLex (e.2.applicationOrder, e.1))
    (fun _ _ heq => congrArg (fun k : ℕ ×ₗ String => (ofLex k).2) heq)
    (fun e => effect.criterion.matchesRecord e.2) a b h
  dsimp only at hname hage
  unfold removalKeys
  rw [hname, hage]

/-- `_remove_effect`; answers how many effects were removed. -/
def removeEffect (ctx : ItemContext) (effect : RemoveEffect) (subject : Living scope) :
    Exec scope ℕ := do
  let storageKeys ← read subject (removalKeys effect) (intrinsic_removalKeys effect)
  storageKeys.forM (fun storageKey => removeStored subject storageKey ctx "reason.removed")
  pure storageKeys.length

/-! ## Movement -/

def Vector2.sub (left right : Vector2) : Vector2 := ⟨left.x - right.x, left.y - right.y⟩

/-- `_normalized`. -/
def normalized (rt : Runtime) (vector : Vector2) : Except Fault Vector2 :=
  let length := rt.hypot vector.x vector.y
  if length = 0 then .error (.configurationError "movement direction must not be zero")
  else .ok ⟨vector.x / length, vector.y / length⟩

/-- The direction from the positions of actor, target and subject. -/
def relativeDirection (mode : MovementMode) (actor target subject : Vector2) : Vector2 :=
  match mode with
  | .push => target.sub actor
  | .pull => actor.sub target
  | .walkAway =>
    let direction := subject.sub target
    if direction = Vector2.zero then ⟨1, 0⟩ else direction
  | _ => target.sub subject

/-- `_movement_direction`. -/
def movementDirection (rt : Runtime) (binding : ActionBinding) (effect : MoveEntity)
    (subject : Living scope) : Exec scope Vector2 := do
  match binding.direction, binding.targetEntityId with
  | some direction, _ => attempt (normalized rt direction)
  | none, some targetId => do
    let actor ← readKnown binding.actorId EntityState.position intrinsic_position
    let target ← readKnown targetId EntityState.position intrinsic_position
    let position ← read subject EntityState.position intrinsic_position
    attempt (normalized rt (relativeDirection effect.mode actor target position))
  | none, none =>
    raise (.configurationError "movement requires a direction or entity target")

/-- `_move_entity`; answers the distance moved. -/
def moveEntity (rt : Runtime) (ctx : ItemContext) (effect : MoveEntity) (subject : Living scope) :
    Exec scope ℚ := do
  let before ← read subject EntityState.position intrinsic_position
  let after ←
    if effect.mode = .teleport then
      match ctx.binding.position with
      | some position => pure position
      | none => raise (.configurationError "teleport movement requires a bound position")
    else do
      let direction ← movementDirection rt ctx.binding effect subject
      let span ←
        match effect.distance with
        | some distance => pure distance
        | none => do
          let speed ← scalarOr subject.id "move_speed" 0
          pure (speed * ctx.phaseDurationMs / 1000)
      pure ⟨before.x + direction.x * span, before.y + direction.y * span⟩
  alter subject (.position after)
  emit (ctx.draft .movementChanged (some subject.id)
    [⟨"from_x", before.x⟩, ⟨"from_y", before.y⟩, ⟨"to_x", after.x⟩, ⟨"to_y", after.y⟩]
    ["movement." ++ effect.mode.value])
  pure (rt.hypot (after.x - before.x) (after.y - before.y))

/-! ## Items -/

/-- `_transfer_item` between two eligible entities. -/
def transferItem (ctx : ItemContext) (effect : TransferItem) (source target : Living scope) :
    Exec scope Unit := do
  match hitem : effect.itemId.or ctx.binding.itemId,
      hquantity : effect.quantity.or ctx.binding.quantity with
  | some itemId, some quantity => do
    let moved : Bool ← call (.moveItem source target itemId quantity
      (by
        cases hown : effect.itemId with
        | some own =>
          rw [hown, Option.some_or] at hitem
          exact effect.itemId_ok itemId (by rw [hown, hitem]; exact rfl)
        | none =>
          rw [hown, Option.none_or] at hitem
          exact ctx.binding.itemId_ok itemId hitem)
      (by
        cases hown : effect.quantity with
        | some own =>
          rw [hown, Option.some_or] at hquantity
          exact effect.quantity_pos quantity (by rw [hown, hquantity]; exact rfl)
        | none =>
          rw [hown, Option.none_or] at hquantity
          exact ctx.binding.quantity_ok quantity hquantity))
    if moved then
      emit
        { kind := .itemTransferred
          correlationId := some ctx.correlationId
          sourceEntityId := some source.id
          targetEntityId := some target.id
          actionKey := some ctx.actionKey
          scalars := [⟨"quantity", quantity⟩]
          tags := ["item." ++ itemId] }
    else
      emit (ctx.draft .actionRejected none []
        ["reason.insufficient_inventory_at_resolution"])
  | _, _ =>
    raise (.configurationError "item transfer requires bound entities, item, and quantity")

/-- The quantity an entity holds of an item that may be unbound. -/
def itemQuantity (subject : Living scope) (itemId : Option String) : Exec scope ℚ :=
  match itemId with
  | some itemId => read subject (fun e => e.inventory.getD itemId 0) (intrinsic_inventory itemId)
  | none => pure 0

/-! ## Direct effects -/

/-- The identifier a subject reference stands for under a binding. -/
def boundId (subject : SubjectRef) (binding : ActionBinding) : Option String :=
  match subject with
  | .actor => some binding.actorId
  | .target => if binding.targetKind = .self then some binding.actorId else binding.targetEntityId
  | .objective => binding.objectiveId.or binding.targetEntityId

/-- `_entity_for_ref`. -/
def entityForRef (subject : SubjectRef) (binding : ActionBinding) : Exec scope (Option String) :=
  match boundId subject binding with
  | some entityId => readEntity entityId EntityState.entityId intrinsic_entityId
  | none => pure none

/-- The outcome of an effect that changed something, or did not. -/
def outcomeWhen (changed : Bool) (subjectId : String) (magnitude : ℚ) : EffectOutcome where
  kind := if changed then .applied else .noChange
  subjectEntityId := some subjectId
  magnitude := magnitude

/-- Resolve an effect on its subject: an absent one is an error, a dead one is left alone. -/
def onSubject (ctx : ItemContext) (subject : SubjectRef) (missing : String)
    (body : Living scope → Exec scope EffectOutcome) : Exec scope EffectOutcome := do
  match ← entityForRef subject ctx.binding with
  | none => raise (.configurationError missing)
  | some entityId =>
    match living? entityId with
    | none => pure { kind := .noChange, subjectEntityId := some entityId }
    | some handle => body handle

/-- Resolve a transfer between two endpoints; an absent or dead one leaves it without effect. -/
def betweenSubjects (ctx : ItemContext) (source destination : SubjectRef)
    (body : Living scope → Living scope → Exec scope EffectOutcome) : Exec scope EffectOutcome := do
  let sourceId ← entityForRef source ctx.binding
  let destinationId ← entityForRef destination ctx.binding
  match sourceId.bind living?, destinationId.bind living? with
  | some source, some destination => body source destination
  | _, _ => pure { kind := .noChange }

/-- Run a program and compare a reading of the subject before and after. -/
def comparing (subject : Living scope) (f : EntityState → β) (hf : Intrinsic f)
    (body : Exec scope α) : Exec scope (β × β) := do
  let before ← read subject f hf
  let _ ← body
  let after ← read subject f hf
  pure (before, after)

/-- `_resolve_direct`. -/
def resolveDirect (rt : Runtime) (catalog : ActionCatalog) (ctx : ItemContext)
    (effect : DirectEffect) : Exec scope EffectOutcome :=
  match effect with
  | .dealDamage e =>
    onSubject ctx e.subject "damage requires an entity subject" (fun subject => do
      let resolution ← dealDamage rt catalog ctx e subject
      pure
        { kind := if 0 < resolution.effective then .applied else .resisted
          subjectEntityId := some subject.id
          magnitude := resolution.effective })
  | .restoreResource e =>
    onSubject ctx e.subject "resource restoration requires an entity subject" (fun subject => do
      let (before, after) ← comparing subject _ (intrinsic_scalar e.resourceKey)
        (restoreResource rt ctx e subject)
      let effective := max 0 (after - before)
      pure (outcomeWhen (0 < effective) subject.id effective))
  | .transferResource e =>
    betweenSubjects ctx e.fromSubject e.toSubject (fun source destination => do
      let (destinationPair, sourcePair) ← do
        let sourceBefore ← read source _ (intrinsic_scalar e.resourceKey)
        let destinationPair ← comparing destination _ (intrinsic_scalar e.resourceKey)
          (transferResource rt ctx e source destination)
        let sourceAfter ← read source _ (intrinsic_scalar e.resourceKey)
        pure (destinationPair, (sourceBefore, sourceAfter))
      pure (outcomeWhen (sourcePair.1 ≠ sourcePair.2 ∨ destinationPair.1 ≠ destinationPair.2)
        destination.id (max 0 (sourcePair.1 - sourcePair.2))))
  | .modifyScalar e =>
    onSubject ctx e.subject "scalar modification requires an entity subject" (fun subject => do
      let (before, after) ← comparing subject _ (intrinsic_scalar e.scalarKey)
        (modifyScalar ctx e subject)
      pure (outcomeWhen (after ≠ before) subject.id (after - before)))
  | .modifyTag e =>
    onSubject ctx e.subject "tag modification requires an entity subject" (fun subject => do
      let (before, after) ← comparing subject _
        (intrinsic_tags.comp (fun tags => decide (e.tag ∈ tags))) (modifyTag ctx e subject)
      pure (outcomeWhen (after ≠ before) subject.id 0))
  | .applyEffect e =>
    onSubject ctx e.subject "effect application requires an entity subject" (applyEffect ctx e)
  | .removeEffect e =>
    onSubject ctx e.subject "effect removal requires an entity subject" (fun subject => do
      let removed ← removeEffect ctx e subject
      pure (outcomeWhen (0 < removed) subject.id removed))
  | .moveEntity e =>
    onSubject ctx e.subject "movement requires an entity and binding" (fun subject => do
      let moved ← moveEntity rt ctx e subject
      pure (outcomeWhen (0 < moved) subject.id moved))
  | .transferItem e =>
    betweenSubjects ctx e.fromSubject e.toSubject (fun source destination => do
      let itemId := e.itemId.or ctx.binding.itemId
      let sourceBefore ← itemQuantity source itemId
      let destinationBefore ← itemQuantity destination itemId
      transferItem ctx e source destination
      let sourceAfter ← itemQuantity source itemId
      let destinationAfter ← itemQuantity destination itemId
      pure (outcomeWhen (sourceBefore ≠ sourceAfter ∨ destinationBefore ≠ destinationAfter)
        destination.id (max 0 (sourceBefore - sourceAfter))))
  | .modifyObjective e =>
    onSubject ctx .objective "objective modification requires an objective entity"
      (fun subject => do
        let (before, after) ← comparing subject _ (intrinsic_scalar "objective_progress")
          (modifyObjective ctx e subject)
        pure (outcomeWhen (after ≠ before) subject.id (after - before)))
  | .changeStance e =>
    onSubject ctx .actor "stance change requires an entity subject" (fun subject => do
      let (before, after) ← comparing subject _ intrinsic_stance (changeStance ctx e subject)
      pure (outcomeWhen (after ≠ before) subject.id 0))

/-! ## Compositions -/

section Compositions

variable (rt : Runtime) (catalog : ActionCatalog)

/-- Resolve direct effects one after the other. -/
def resolveDirects (ctx : ItemContext) (effects : List DirectEffect) : Exec scope Unit :=
  effects.forM (fun effect => do
    let _ ← resolveDirect rt catalog ctx effect
    pure ())

/-- `_resolve_outcome_conditional`. -/
def resolveOutcomeConditional (ctx : ItemContext) (conditional : OutcomeConditional) :
    Exec scope Unit := do
  let outcome ← resolveDirect rt catalog ctx conditional.condition
  let matched : Bool := outcome.kind ∈ conditional.outcomes
  emit (ctx.draft .effectOutcomeResolved outcome.subjectEntityId
    [⟨"outcome_magnitude", outcome.magnitude⟩]
    ["conditional." ++ conditional.conditionalKey, "outcome." ++ outcome.kind.value,
      if matched then "branch.effects" else "branch.else_effects"])
  resolveDirects rt catalog ctx (if matched then conditional.effects else conditional.elseEffects)

/-- The numeric value of a truth value in an event. -/
def flag (b : Bool) : ℚ := if b then 1 else 0

def resolveChanceNested (ctx : ItemContext) : ChanceNested → Exec scope Unit
  | .direct e => resolveDirects rt catalog ctx [e]
  | .conditional e => resolveOutcomeConditional rt catalog ctx e

/-- `_resolve_chance`. -/
def resolveChance (ctx : ItemContext) (effect : ChanceGate) : Exec scope Unit := do
  let roll ← draw DeterministicRandom.random
  let triggered : Bool := roll < effect.probability
  emit (ctx.draft .chanceResolved ctx.binding.targetEntityId
    [⟨"probability", effect.probability⟩, ⟨"roll", roll⟩, ⟨"triggered", flag triggered⟩]
    ["chance." ++ effect.chanceKey,
      if triggered then "outcome.triggered" else "outcome.not_triggered"])
  if triggered then effect.effects.forM (resolveChanceNested rt catalog ctx)

/-! ## Triggers -/

/-- An armed trigger, the slot of its effect, and how many effects that slot had received
when the trigger was found. -/
structure TriggerContext where
  storageKey : String
  trigger : ActionTriggerSpec
  installs : ℕ

/-- The slots of an actor whose effects arm a trigger the action qualifies for. -/
def matchingTriggers (action : ActionSpec) (actor : EntityState) :
    List (String × ActionTriggerSpec) :=
  (sortBy Prod.fst (actor.records.filter (fun _ => true))).filterMap (fun e =>
    ((catalog.triggerForEffect e.2.effectKey).filter (fun trigger =>
      trigger.qualifies action.actionKey action.tags)).map (fun trigger => (e.1, trigger)))

theorem intrinsic_matchingTriggers (action : ActionSpec) :
    Intrinsic (matchingTriggers catalog action) :=
  (intrinsic_sorted_records Prod.fst (fun _ _ heq => heq) (fun _ => true)).comp _

/-- `_matching_trigger_contexts`. -/
def matchingTriggerContexts (action : ActionSpec) (actor : Living scope) :
    Exec scope (List TriggerContext) := do
  let slots ← read actor (matchingTriggers catalog action)
    (intrinsic_matchingTriggers catalog action)
  slots.mapM (fun slot => do
    let installs : ℕ ← call (.installCount actor slot.1)
    pure ⟨slot.1, slot.2, installs⟩)

/-- Roll a trigger at its moment and report it; answers whether it fired. -/
def checkTrigger (ctx : ItemContext) (actor : Living scope) (moment : TriggerMoment)
    (trigger : ActionTriggerSpec) : Exec scope Bool := do
  let (roll, fired) ← chanceRoll trigger.chance
  let draft (kind : EventKind) (scalars : List NamedScalar) (tags : List String) : EventDraft :=
    { kind := kind
      correlationId := some ctx.correlationId
      sourceEntityId := some actor.id
      targetEntityId := ctx.binding.targetEntityId
      actionKey := some ctx.actionKey
      scalars := scalars
      tags := tags }
  emit (draft .triggerChecked [⟨"chance", trigger.chance⟩, ⟨"roll", roll⟩]
    ["trigger." ++ trigger.triggerKey, "moment." ++ moment.value,
      if fired then "result.fired" else "result.not_fired"])
  if fired then
    emit (draft .triggerFired []
      (["trigger." ++ trigger.triggerKey, "moment." ++ moment.value] ++ trigger.tags).eraseDups)
  pure fired

/-- Check a trigger and resolve its payload; answers whether it fired. -/
def fireTrigger (ctx : ItemContext) (actor : Living scope) (moment : TriggerMoment)
    (trigger : ActionTriggerSpec) : Exec scope Bool := do
  let fired ← checkTrigger ctx actor moment trigger
  if fired then
    resolveDirects rt catalog { ctx with triggerKey := some trigger.triggerKey } trigger.payload
  pure fired

/-- Remove the effect of a trigger that is consumed at a moment, if the slot still holds
the effect the trigger was found on. -/
def consumeTrigger (ctx : ItemContext) (actor : Living scope) (moment : TriggerMoment)
    (context : TriggerContext) : Exec scope Unit := do
  if context.trigger.consumeOn.value = moment.value then
    let current ← read actor (fun e => (e.record? context.storageKey).isSome)
      ((intrinsic_record context.storageKey).comp Option.isSome)
    let installs : ℕ ← call (.installCount actor context.storageKey)
    if current ∧ installs = context.installs then
      removeStored actor context.storageKey ctx "reason.trigger_consumed"

/-- `_resolve_trigger_moment`: the contexts that fired. -/
def resolveTriggerMoment (ctx : ItemContext) (actor : Living scope) (moment : TriggerMoment) :
    List TriggerContext → Exec scope (List TriggerContext)
  | [] => pure []
  | context :: rest => do
    let fired ←
      if context.trigger.fireOn = moment then
        fireTrigger rt catalog ctx actor moment context.trigger
      else pure false
    consumeTrigger ctx actor moment context
    let others ← resolveTriggerMoment ctx actor moment rest
    pure (if fired then context :: others else others)

/-- The attack modifiers of the triggers that fired at the attempt. -/
def attackModifiers (contexts : List TriggerContext) : List AttackModifierSpec :=
  contexts.filterMap (fun context => context.trigger.attackModifier)

end Compositions

end ShadowbaneLab
