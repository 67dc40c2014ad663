/-
# Attacks, areas and whole resolutions

The compositions of `EffectExecutor` above the direct effects: the attack gate with its
hit and passive-defense rolls, the generic weapon attempt, area effects over the entities
around a centre, and the resolution and the pulse of a work item.
-/
import ShadowbaneLab.Sim.Effects

namespace ShadowbaneLab

open Foundation

variable {scope : Scope}

/-- The base scalar of an entity, as `scalars.get(key, 0.0)` reads it. -/
def readScalar (subject : Living scope) (key : String) : Exec scope ℚ :=
  read subject (fun e => e.scalar key) (intrinsic_scalar key)

/-- The handles of actor and target, when both entities exist and are eligible. -/
def combatants (actorId targetId : String) : Exec scope (Option (Living scope × Living scope)) := do
  let _ ← readKnown actorId EntityState.entityId intrinsic_entityId
  let _ ← readKnown targetId EntityState.entityId intrinsic_entityId
  match living? actorId, living? targetId with
  | some actor, some target => pure (some (actor, target))
  | _, _ => pure none

section Attacks

variable (rt : Runtime) (catalog : ActionCatalog)

/-! ## Attack gates -/

/-- The hit chance of a gate. -/
def gateChance (effect : AttackGate) (attackRating defenseRating : ℚ) (bypass : Bool) :
    Except Fault ℤ :=
  if bypass then .ok 100
  else
    match effect.kind with
    | .basic => meleeHitChancePercent rt attackRating defenseRating
    | .power => powerHitChancePercent rt attackRating defenseRating

/-- The hit roll of a gate; answers whether it hit. -/
def rollAttack (ctx : ItemContext) (effect : AttackGate) (modifiers : List AttackModifierSpec)
    (actor target : Living scope) : Exec scope Bool := do
  let base ← requiredScalar actor.id effect.attackRatingKey
  let attackRating := base + (modifiers.map AttackModifierSpec.attackRatingBonus).sum
  let defenseRating ← requiredScalar target.id effect.defenseRatingKey
  let chance ← attempt (gateChance rt effect attackRating defenseRating
    (modifiers.any AttackModifierSpec.bypassDefense))
  let roll : ℕ ← draw (DeterministicRandom.randbelow 100)
  let hit : Bool := (roll : ℤ) < chance
  emit (ctx.draft .attackResolved (some target.id)
    [⟨"attack_rating", attackRating⟩, ⟨"defense_rating", defenseRating⟩,
      ⟨"chance_percent", chance⟩, ⟨"roll", roll⟩, ⟨"hit", flag hit⟩]
    ["attack." ++ effect.kind.value, "attack." ++ effect.attackKey,
      if hit then "outcome.hit" else "outcome.miss"])
  pure hit

/-- The passive-defense rolls of a gate, up to the first that succeeds; answers whether
one did. -/
def rollPassives (ctx : ItemContext) (actor target : Living scope) :
    List String → Exec scope Bool
  | [] => pure false
  | passiveKey :: rest => do
    let stored ← requiredScalar target.id passiveKey
    let passiveChance := min 75 stored
    if passiveChance < 0 then
      raise (.configurationError ("entity " ++ target.id ++ " scalar " ++ passiveKey ++
        " must not be negative"))
    else
      let roll : ℕ ← draw (DeterministicRandom.randbelow 100)
      let triggered : Bool := (roll : ℚ) < passiveChance
      emit
        { kind := .passiveDefenseResolved
          correlationId := some ctx.correlationId
          sourceEntityId := some target.id
          targetEntityId := some actor.id
          actionKey := some ctx.actionKey
          scalars := [⟨"chance_percent", passiveChance⟩, ⟨"roll", roll⟩,
            ⟨"triggered", flag triggered⟩]
          tags := ["passive." ++ passiveKey,
            if triggered then "outcome.triggered" else "outcome.not_triggered"] }
      if triggered then pure true else rollPassives ctx actor target rest

/-- Whether the passive defenses of a target are rolled at all. -/
def passivesApply (modifiers : List AttackModifierSpec) (actor target : Living scope) :
    Exec scope Bool := do
  let ignored ← hasTag actor.id "combat.ignore_passive_defense"
  let stunned ← hasTag target.id "control.stun"
  pure (!ignored && !stunned && !modifiers.any AttackModifierSpec.bypassPassiveDefense)

/-- A nested effect with its damage scaled by the attack's multiplier. -/
def scaledNested (factor : ℚ) (h : 0 < factor) : AttackNested → AttackNested
  | .direct (.dealDamage e) =>
    if factor = 1 then .direct (.dealDamage e)
    else .direct (.dealDamage { e with amount := scaledAmount e.amount factor h })
  | nested => nested

def resolveAttackNested (ctx : ItemContext) : AttackNested → Exec scope Unit
  | .direct e => resolveDirects rt catalog ctx [e]
  | .conditional e => resolveOutcomeConditional rt catalog ctx e
  | .chance e => resolveChance rt catalog ctx e

/-- The channel of an attack's bonus damage: the override, or that of its first damage
effect. -/
def bonusDamageType (effect : AttackGate) (modifier : AttackModifierSpec) :
    Except Fault DamageType :=
  match modifier.damageTypeOverride with
  | some override =>
    match DamageType.parse override with
    | some damageType => .ok damageType
    | none => .error (.valueError "damage_type must be a DamageType")
  | none =>
    match (effect.effects.filterMap (fun
        | .direct (.dealDamage e) => some e
        | _ => none)).head? with
    | some base => .ok base.damageType
    | none => .error (.configurationError
        "bonus attack damage requires a typed base-damage effect or override")

/-- The damage effect of a positive bonus. -/
def bonusDamage (effect : AttackGate) (modifier : AttackModifierSpec) (bonus : ℚ) :
    Except Fault DealDamage := do
  let damageType ← bonusDamageType effect modifier
  if hknown : damageType ≠ .unknown then
    pure
      { subject := .target
        amount := .fixed (max bonus (1 / 10 ^ 12)) (lt_max_of_lt_right (by norm_num))
        damageType := damageType
        usesResistance := true
        sourceKey := some "weapon_power.attack_modifier"
        known := fun h => absurd h hknown
        sourceKey_ok := by
          rintro k ⟨⟩
          decide }
  else throw (.valueError "unknown damage cannot use resistance")

/-- The bonus damage of one attack modifier. -/
def dealBonus (ctx : ItemContext) (effect : AttackGate) (target : Living scope)
    (modifier : AttackModifierSpec) : Exec scope Unit :=
  if modifier.bonusDamageMaximum ≤ 0 then pure ()
  else do
    let bonus ← draw (DeterministicRandom.uniform modifier.bonusDamageMinimum
      modifier.bonusDamageMaximum)
    let damage ← attempt (bonusDamage effect modifier bonus)
    let _ ← dealDamage rt catalog ctx damage target
    pure ()

/-- What a gate does once it has hit and no passive defense stopped it. -/
def landAttack (ctx : ItemContext) (effect : AttackGate) (modifiers : List AttackModifierSpec)
    (contexts : List TriggerContext) (actor target : Living scope) : Exec scope Unit := do
  dropTravelStance ctx target "hit"
  let before ← readScalar target "health"
  let factor := damageMultiplier modifiers
  effect.effects.forM (fun nested => resolveAttackNested rt catalog ctx
    (scaledNested factor (damageMultiplier_pos modifiers) nested))
  modifiers.forM (dealBonus rt catalog ctx effect target)
  let _ ← resolveTriggerMoment rt catalog ctx actor .hit contexts
  let after ← readScalar target "health"
  if after < before then
    let _ ← resolveTriggerMoment rt catalog ctx actor .damage contexts

/-- `_resolve_attack`. -/
def resolveAttack (ctx : ItemContext) (effect : AttackGate) : Exec scope Unit := do
  match ctx.binding.targetEntityId with
  | none => raise (.configurationError "attack resolution requires an entity target")
  | some targetId => do
    match ← combatants ctx.actorId targetId with
    | none => pure ()
    | some (actor, target) => do
      let action ← attempt (catalog.get ctx.actionKey)
      let contexts ← matchingTriggerContexts catalog action actor
      let fired ← resolveTriggerMoment rt catalog ctx actor .attempt contexts
      let modifiers := attackModifiers fired
      let hit ← rollAttack rt ctx effect modifiers actor target
      if hit then
        let rolled ← passivesApply modifiers actor target
        let defended ← if rolled then rollPassives ctx actor target effect.passiveDefenseKeys
          else pure false
        if !defended then landAttack rt catalog ctx effect modifiers contexts actor target

/-! ## Weapon attacks -/

/-- The hit roll of a weapon attempt; answers whether it hit. -/
def rollWeapon (ctx : ItemContext) (attack : WeaponAttackSpec)
    (modifiers : List AttackModifierSpec) (actor target : Living scope) : Exec scope Bool := do
  let base ← scalarOr actor.id attack.attackRatingScalar attack.defaultAttackRating
  let attackRating := base + (modifiers.map AttackModifierSpec.attackRatingBonus).sum
  let defense ← scalarOr target.id attack.defenseScalar attack.defaultDefense
  let bypass := modifiers.any AttackModifierSpec.bypassDefense
  let hitChance := attack.hitChance attackRating defense bypass
  let (roll, hit) ← chanceRoll hitChance
  emit (ctx.draft .attackRolled (some target.id)
    [⟨"attack_rating", attackRating⟩, ⟨"defense", defense⟩, ⟨"hit_chance", hitChance⟩,
      ⟨"roll", roll⟩]
    ["weapon." ++ attack.weaponSlot, if hit then "result.hit_roll" else "result.miss",
      if bypass then "defense.bypassed" else "defense.checked"])
  pure hit

/-- The passive defenses of a weapon attempt; answers whether one succeeded. -/
def rollWeaponPassives (ctx : ItemContext) (attack : WeaponAttackSpec)
    (actor target : Living scope) : List String → Exec scope Bool
  | [] => pure false
  | defenseKey :: rest => do
    let stored ← scalarOr target.id ("passive." ++ defenseKey ++ ".chance") 0
    let chance := max 0 (min 1 stored)
    if chance ≤ 0 then rollWeaponPassives ctx attack actor target rest
    else
      let (roll, defended) ← chanceRoll chance
      if !defended then rollWeaponPassives ctx attack actor target rest
      else
        emit
          { kind := .passiveDefenseTriggered
            correlationId := some ctx.correlationId
            sourceEntityId := some target.id
            targetEntityId := some actor.id
            actionKey := some ctx.actionKey
            scalars := [⟨"chance", chance⟩, ⟨"roll", roll⟩]
            tags := ["passive_defense." ++ defenseKey, "weapon." ++ attack.weaponSlot] }
        pure true

/-- One end of a weapon's damage range. -/
def weaponBound (actor : Living scope) (scalarKey : Option String) (default : ℚ) :
    Exec scope ℚ :=
  match scalarKey with
  | some key => scalarOr actor.id key default
  | none => pure default

/-- The bonus damage of the modifiers of a weapon attempt, each drawn in turn. -/
def weaponBonus : List AttackModifierSpec → Exec scope ℚ
  | [] => pure 0
  | modifier :: rest => do
    let bonus ← draw (DeterministicRandom.uniform modifier.bonusDamageMinimum
      modifier.bonusDamageMaximum)
    let others ← weaponBonus rest
    pure (bonus + others)

/-- The channel of a weapon attempt: the last override, or the weapon's own. -/
def weaponDamageType (attack : WeaponAttackSpec) (modifiers : List AttackModifierSpec) : String :=
  modifiers.foldl (fun damageType m => m.damageTypeOverride.getD damageType) attack.damageType

/-- The damage of a weapon attempt that hit; answers how much reached the target. -/
def strikeWeapon (ctx : ItemContext) (attack : WeaponAttackSpec)
    (modifiers : List AttackModifierSpec) (actor target : Living scope) : Exec scope ℚ := do
  let minimum ← weaponBound actor attack.minimumDamageScalar attack.minimumDamage
  let maximum ← weaponBound actor attack.maximumDamageScalar attack.maximumDamage
  if minimum < 0 ∨ maximum < minimum then
    raise (.configurationError "resolved weapon damage range is invalid")
  else
    let requested ← draw (DeterministicRandom.uniform minimum maximum)
    let bonus ← weaponBonus modifiers
    applyWeaponDamage ctx target ((requested + bonus) * damageMultiplier modifiers)
      (weaponDamageType attack modifiers)
      (["attack.weapon", "weapon." ++ attack.weaponSlot] ++
        modifiers.flatMap AttackModifierSpec.tags).eraseDups

/-- `resolve_weapon_attack`. -/
def resolveWeaponAttack (ctx : ItemContext) (attack : WeaponAttackSpec) : Exec scope Unit := do
  let found ← readEntity ctx.actorId EntityState.entityId intrinsic_entityId
  let bound ← match ctx.binding.targetEntityId with
    | some targetId => readEntity targetId EntityState.entityId intrinsic_entityId
    | none => pure none
  match found, bound with
  | some _, some targetId => do
    match living? ctx.actorId, living? targetId with
    | some actor, some target => do
      let action ← attempt (catalog.get ctx.actionKey)
      let contexts ← matchingTriggerContexts catalog action actor
      let fired ← resolveTriggerMoment rt catalog ctx actor .attempt contexts
      let modifiers := attackModifiers fired
      let hit ← rollWeapon ctx attack modifiers actor target
      if hit then
        let stunned ← hasTag target.id "control.stun"
        let defended ←
          if !modifiers.any AttackModifierSpec.bypassPassiveDefense && !stunned then
            rollWeaponPassives ctx attack actor target attack.passiveDefenseKeys
          else pure false
        if !defended then
          let effective ← strikeWeapon ctx attack modifiers actor target
          let _ ← resolveTriggerMoment rt catalog ctx actor .hit contexts
          if 0 < effective then
            let _ ← resolveTriggerMoment rt catalog ctx actor .damage contexts
    | _, _ => pure ()
  | _, _ => raise (.configurationError "weapon attack requires actor and entity target")

end Attacks

section Areas

variable {rt : Runtime} (cfg : Config rt)

/-! ## Area targets -/

/-- The order in which an area takes entities: nearest first, then by identifier. -/
def areaRank (rt : Runtime) (center : Vector2) (entity : EntityState) : ℚ ×ₗ String :=
  toLex (distance rt entity.position center, entity.entityId)

/-- Whether the reference executor selects an entity for an area. -/
def inArea (rt : Runtime) (effect : AreaEffect) (center : Vector2) (eligible : Finset String)
    (actor entity : EntityState) : Bool :=
  decide (entity.entityId ∈ eligible) &&
    decide (teamRelation actor entity ∈ effect.allowedRelations) &&
    decide (distance rt entity.position center ≤ effect.radius)

/-- The entities an area takes when there is no targeting context. -/
def plainAreaTargets (rt : Runtime) (effect : AreaEffect) (center : Vector2)
    (eligible : Finset String) (actor : EntityState) (entities : List EntityState) : List String :=
  let ranked := (sortBy (areaRank rt center)
    (entities.filter (inArea rt effect center eligible actor))).map EntityState.entityId
  match effect.maximumTargets with
  | some maximum => ranked.take maximum
  | none => ranked

/-- The entities an area effect takes, in order: the selection of `_resolve_area` in the
reference executor and in the affiliation-aware one. -/
def areaTargets (actorId actionKey : String) (effect : AreaEffect) (center : Vector2)
    (eligible : Finset String) (entities : Dict String EntityState) :
    Except Fault (List String) :=
  match entities.get? actorId with
  | none => .error (.configurationError ("unknown entity id: " ++ actorId))
  | some actor =>
    match cfg.targeting with
    | none => .ok (plainAreaTargets rt effect center eligible actor entities.values)
    | some context => do
      let resolution ← context.resolveArea actor entities.values actionKey effect center eligible
      pure resolution.acceptedEntityIds

variable {actor actor' : EntityState}

theorem intrinsic_teamRelation (h : EntityState.Equiv actor actor') {entity entity' : EntityState}
    (he : EntityState.Equiv entity entity') :
    teamRelation actor entity = teamRelation actor' entity' := by
  simp only [teamRelation, h.entityId, he.entityId, h.teamId, he.teamId]

/-- The ranked identifiers of a selection, as a sort of their ranks. -/
theorem map_entityId_sortBy (rt : Runtime) (center : Vector2) (l : List EntityState) :
    (sortBy (areaRank rt center) l).map EntityState.entityId =
      (sortBy id (l.map (areaRank rt center))).map (fun rank => (ofLex rank).2) := by
  have hsort : (sortBy (areaRank rt center) l).map (areaRank rt center) =
      sortBy id (l.map (areaRank rt center)) := map_sortBy _ _ (fun _ => rfl) l
  rw [← hsort, List.map_map]
  rfl

theorem plainAreaTargets_eq (rt : Runtime) (effect : AreaEffect) (center : Vector2)
    (eligible : Finset String) (hactor : EntityState.Equiv actor actor')
    {d d' : Dict String EntityState} (h : EntitiesEquiv d d') :
    plainAreaTargets rt effect center eligible actor d.values =
      plainAreaTargets rt effect center eligible actor' d'.values := by
  have hin : Intrinsic (inArea rt effect center eligible actor) := by
    intro a b hab
    simp only [inArea, hab.entityId, hab.position,
      intrinsic_teamRelation (EntityState.Equiv.refl actor) hab]
  have hsame : inArea rt effect center eligible actor =
      inArea rt effect center eligible actor' := by
    funext entity
    simp only [inArea, intrinsic_teamRelation hactor (EntityState.Equiv.refl entity)]
  have hrank : Intrinsic (areaRank rt center) := by
    intro a b hab
    simp only [areaRank, hab.entityId, hab.position]
  have hsorted := sortBy_eq_of_perm id (h.selected_perm hin hrank) (fun _ _ _ _ heq => heq)
  rw [plainAreaTargets, plainAreaTargets, map_entityId_sortBy, map_entityId_sortBy, hsorted, hsame]

theorem orderFree_areaTargets (actorId actionKey : String) (effect : AreaEffect)
    (center : Vector2) (eligible : Finset String) :
    OrderFree (areaTargets cfg actorId actionKey effect center eligible) := by
  intro d d' h
  have hslot := h actorId
  unfold areaTargets
  generalize d.get? actorId = o at hslot ⊢
  generalize d'.get? actorId = o' at hslot ⊢
  cases hslot with
  | none => rfl
  | some hactor =>
    cases cfg.targeting with
    | none => exact congrArg Except.ok (plainAreaTargets_eq rt effect center eligible hactor h)
    | some context =>
      show (context.resolveArea _ d.values actionKey effect center eligible >>= _) =
        (context.resolveArea _ d'.values actionKey effect center eligible >>= _)
      rw [resolveArea_eq context actionKey effect center eligible hactor h]

/-! ## Area effects -/

/-- `_area_center`. -/
def areaCenter (binding : ActionBinding) (effect : AreaEffect) : Exec scope Vector2 :=
  match effect.origin, binding.position, binding.targetEntityId with
  | .actor, _, _ => readKnown binding.actorId EntityState.position intrinsic_position
  | .target, some position, _ => pure position
  | .target, none, some targetId => readKnown targetId EntityState.position intrinsic_position
  | .target, none, none =>
    raise (.configurationError "target-area effect is missing a bound origin")

def resolveAreaNested (ctx : ItemContext) : AreaNested → Exec scope Unit
  | .direct e => resolveDirects rt cfg.catalog ctx [e]
  | .conditional e => resolveOutcomeConditional rt cfg.catalog ctx e
  | .chance e => resolveChance rt cfg.catalog ctx e
  | .attack e => resolveAttack rt cfg.catalog ctx e

/-- The item of an area, bound to one of its targets. -/
def ItemContext.toward (ctx : ItemContext) (targetId : String) : ItemContext :=
  { ctx with
    binding :=
      { actorId := ctx.binding.actorId
        targetKind := .entity
        targetEntityId := some targetId } }

/-- `_resolve_area`. -/
def resolveArea (ctx : ItemContext) (effect : AreaEffect) : Exec scope Unit := do
  let _ ← readKnown ctx.actorId EntityState.entityId intrinsic_entityId
  if ctx.actorId ∈ scope.eligible then
    let center ← areaCenter ctx.binding effect
    let selected ← observe (areaTargets cfg ctx.actorId ctx.actionKey effect center scope.eligible)
      (orderFree_areaTargets cfg ctx.actorId ctx.actionKey effect center scope.eligible)
    let targetIds ← attempt selected
    targetIds.forM (fun targetId =>
      effect.effects.forM (resolveAreaNested cfg (ctx.toward targetId)))

/-! ## Work items -/

def resolvePrimitive (ctx : ItemContext) : EffectPrimitive → Exec scope Unit
  | .direct e => resolveDirects rt cfg.catalog ctx [e]
  | .conditional e => resolveOutcomeConditional rt cfg.catalog ctx e
  | .chance e => resolveChance rt cfg.catalog ctx e
  | .attack e => resolveAttack rt cfg.catalog ctx e
  | .area e => resolveArea cfg ctx e

/-- `resolve`. -/
def resolve (ctx : ItemContext) (effects : List EffectPrimitive) : Exec scope Unit :=
  effects.forM (resolvePrimitive cfg ctx)

/-- The effect a slot refers to, if it is still the instance that was scheduled. -/
def EffectSlot.current (slot : EffectSlot) (entity : EntityState) : Option EffectRecord :=
  (entity.record? slot.storageKey).filter (fun active =>
    active.effectKey = slot.expectedEffectKey ∧ active.instanceId = some slot.expectedInstanceId)

theorem intrinsic_current (slot : EffectSlot) : Intrinsic slot.current :=
  (intrinsic_record slot.storageKey).comp _

/-- The periodic modifier of an effect with a key. -/
def EffectRecord.periodic (active : EffectRecord) (periodicKey : String) : Option PeriodicPulse :=
  (active.modifiers.filterMap EffectModifier.periodic?).find? (fun m =>
    m.periodicKey = periodicKey)

/-- `resolve_effect_pulse`. -/
def resolveEffectPulse (ctx : ItemContext) (slot : EffectSlot) (periodicKey : String)
    (pulseIndex : ℕ) (effects : List PeriodicDirectEffect) : Exec scope Unit := do
  let stored ← readEntity slot.entityId slot.current (intrinsic_current slot)
  match stored.join with
  | none => pure ()
  | some active =>
    match (active.periodic periodicKey).filter (fun m =>
        pulseIndex ≤ m.tickCount ∧ effects = m.effects) with
    | none =>
      raise (.configurationError "effect pulse does not match its active modifier")
    | some periodic =>
      emit (ctx.draft .effectPulsed (some slot.entityId) [⟨"pulse_index", pulseIndex⟩]
        ["effect." ++ active.effectKey, "periodic." ++ periodic.periodicKey])
      resolveDirects rt cfg.catalog ctx (effects.map PeriodicDirectEffect.toDirect)

end Areas

end ShadowbaneLab
