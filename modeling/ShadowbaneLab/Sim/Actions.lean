/-
# The bounded action algebra

Compiled actions (`src/shadowbane_lab/sim/actions.py`).  The source's frozen dataclasses
reject ill-formed values in their constructors; here each such check is a proof field of
the structure, so an ill-formed action cannot be written down.  The algebra nests to a
fixed depth: direct effects, outcome conditionals over them, chance gates, attack gates
and area effects, each allowing only the kinds below it.
-/
import Mathlib.Algebra.GroupWithZero.Nat
import Mathlib.Algebra.Ring.Rat
import ShadowbaneLab.Combat.Formulas
import ShadowbaneLab.Protocol.Model

namespace ShadowbaneLab

open Foundation

/-! ## Vocabularies -/

inductive SubjectRef where
  | actor
  | target
  | objective
  deriving DecidableEq, Repr

inductive PhaseKind where
  | windup
  | active
  | recovery
  deriving DecidableEq, Repr

inductive DeliveryKind where
  | immediate
  | projectile
  deriving DecidableEq, Repr

inductive ScalarOperation where
  | add
  | set
  deriving DecidableEq, Repr

inductive MovementMode where
  | walk
  | walkAway
  | teleport
  | push
  | pull
  deriving DecidableEq, Repr

def MovementMode.value : MovementMode → String
  | .walk => "walk"
  | .walkAway => "walk_away"
  | .teleport => "teleport"
  | .push => "push"
  | .pull => "pull"

inductive TagOperation where
  | add
  | remove
  deriving DecidableEq, Repr

/-- Whether an entity has a tag after the operation on it. -/
def TagOperation.adds : TagOperation → Bool
  | .add => true
  | .remove => false

inductive AttackKind where
  | basic
  | power
  deriving DecidableEq, Repr

def AttackKind.value : AttackKind → String
  | .basic => "basic"
  | .power => "power"

inductive AreaOrigin where
  | actor
  | target
  deriving DecidableEq, Repr

inductive TriggerMoment where
  | actionStart
  | attempt
  | hit
  | damage
  deriving DecidableEq, Repr

def TriggerMoment.value : TriggerMoment → String
  | .actionStart => "action_start"
  | .attempt => "attempt"
  | .hit => "hit"
  | .damage => "damage"

inductive TriggerConsumption where
  | actionStart
  | attempt
  | hit
  | damage
  | never
  deriving DecidableEq, Repr

def TriggerConsumption.value : TriggerConsumption → String
  | .actionStart => "action_start"
  | .attempt => "attempt"
  | .hit => "hit"
  | .damage => "damage"
  | .never => "never"

/-- Closed result vocabulary of primitive effect execution (`sim/outcomes.py`). -/
inductive EffectOutcomeKind where
  | applied
  | refreshed
  | blockedImmunity
  | blockedStack
  | resisted
  | missed
  | noChange
  deriving DecidableEq, Repr

def EffectOutcomeKind.value : EffectOutcomeKind → String
  | .applied => "applied"
  | .refreshed => "refreshed"
  | .blockedImmunity => "blocked_immunity"
  | .blockedStack => "blocked_stack"
  | .resisted => "resisted"
  | .missed => "missed"
  | .noChange => "no_change"

/-! ## Amounts -/

/-- Continuous uniform amount. -/
structure UniformAmount where
  minimum : ℚ
  maximum : ℚ
  minimum_pos : 0 < minimum
  ordered : minimum < maximum
  deriving DecidableEq

/-- Two-uniform centered amount. -/
structure TriangularAmount where
  minimum : ℚ
  maximum : ℚ
  minimum_pos : 0 < minimum
  ordered : minimum < maximum
  deriving DecidableEq

/-- Inclusive integer amount. -/
structure UniformIntegerAmount where
  minimum : ℕ
  maximum : ℕ
  minimum_pos : 0 < minimum
  ordered : minimum < maximum
  span_lt : maximum - minimum < 2 ^ 32
  deriving DecidableEq

/-- Positive discrete outcomes with integer weights. -/
structure WeightedAmount where
  outcomes : List (ℚ × ℕ)
  nonempty : outcomes ≠ []
  sorted : (outcomes.map Prod.fst).Pairwise (· < ·)
  positive : ∀ e ∈ outcomes, 0 < e.1 ∧ 0 < e.2
  total_le : (outcomes.map Prod.snd).sum ≤ 2 ^ 32
  deriving DecidableEq

def WeightedAmount.totalWeight (amount : WeightedAmount) : ℕ := (amount.outcomes.map Prod.snd).sum

/-- A positive amount, fixed or resolved from the seeded random source. -/
inductive AmountSpec where
  | fixed (value : ℚ) (positive : 0 < value)
  | uniform (amount : UniformAmount)
  | triangular (amount : TriangularAmount)
  | uniformInteger (amount : UniformIntegerAmount)
  | weighted (amount : WeightedAmount)
  deriving DecidableEq

/-- The expected value an affordance advertises. -/
def AmountSpec.expected : AmountSpec → ℚ
  | .fixed value _ => value
  | .uniform amount => (amount.minimum + amount.maximum) / 2
  | .triangular amount => (amount.minimum + amount.maximum) / 2
  | .uniformInteger amount => ((amount.minimum + amount.maximum : ℕ) : ℚ) / 2
  | .weighted amount =>
    (amount.outcomes.map (fun e => e.1 * (e.2 : ℚ))).sum / (amount.totalWeight : ℚ)

/-! ## Targeting, costs and delivery -/

structure TargetingSpec where
  kind : TargetKind
  allowedRelations : List Relation := []
  minimumRange : ℚ := 0
  maximumRange : Option ℚ := none
  requiresLineOfSight : Bool := false
  relations_nodup : allowedRelations.Nodup
  relations_iff : kind = .entity ↔ allowedRelations ≠ []
  minimum_nonneg : 0 ≤ minimumRange
  ordered : ∀ m ∈ maximumRange, minimumRange ≤ m
  deriving DecidableEq

structure ResourceCost where
  resourceKey : String
  amount : ℚ
  resourceKey_ok : Identifier resourceKey
  amount_pos : 0 < amount
  deriving DecidableEq

/-- Immediate delivery, or a projectile with a positive speed in units per second. -/
inductive DeliverySpec where
  | immediate
  | projectile (speed : ℚ) (positive : 0 < speed)
  deriving DecidableEq

def DeliverySpec.kind : DeliverySpec → DeliveryKind
  | .immediate => .immediate
  | .projectile _ _ => .projectile

/-! ## Direct effects -/

structure ModifyScalar where
  subject : SubjectRef
  scalarKey : String
  operation : ScalarOperation
  amount : ℚ
  scalarKey_ok : Identifier scalarKey
  deriving DecidableEq

structure DealDamage where
  subject : SubjectRef
  amount : AmountSpec
  damageType : DamageType
  usesResistance : Bool := false
  powerTrains : ℕ := 0
  sourceKey : Option String := none
  known : damageType = .unknown → usesResistance = false
  sourceKey_ok : ∀ k ∈ sourceKey, Identifier k
  deriving DecidableEq

/-- A resisted restoration names its channel, an unresisted one does not. -/
structure RestoreResource where
  subject : SubjectRef
  resourceKey : String
  amount : AmountSpec
  powerTrains : ℕ := 0
  resistanceType : Option ResistanceType := none
  resourceKey_ok : Identifier resourceKey
  deriving DecidableEq

def RestoreResource.usesResistance (effect : RestoreResource) : Bool := effect.resistanceType.isSome

/-- Drain one entity resource and credit another at bounded efficiency. -/
structure TransferResource where
  fromSubject : SubjectRef
  toSubject : SubjectRef
  resourceKey : String
  amount : AmountSpec
  efficiency : ℚ := 1
  subjects_ne : fromSubject ≠ toSubject
  entities : fromSubject ≠ .objective ∧ toSubject ≠ .objective
  resourceKey_ok : Identifier resourceKey
  efficiency_ok : 0 < efficiency ∧ efficiency ≤ 1
  deriving DecidableEq

structure ModifyTag where
  subject : SubjectRef
  tag : String
  operation : TagOperation
  tag_ok : Identifier tag
  deriving DecidableEq

/-- The effects a periodic pulse may carry. -/
inductive PeriodicDirectEffect where
  | modifyScalar (effect : ModifyScalar)
  | dealDamage (effect : DealDamage)
  | restoreResource (effect : RestoreResource)
  | transferResource (effect : TransferResource)
  | modifyTag (effect : ModifyTag)
  deriving DecidableEq

/-! ## Effect modifiers -/

/-- Apply a bounded bundle at fixed intervals while the carrying effect is active. -/
structure PeriodicPulse where
  periodicKey : String
  intervalMs : ℕ
  tickCount : ℕ
  effects : List PeriodicDirectEffect
  periodicKey_ok : Identifier periodicKey
  interval_pos : 0 < intervalMs
  count_pos : 0 < tickCount
  effects_ne : effects ≠ []
  deriving DecidableEq

def PeriodicPulse.durationMs (pulse : PeriodicPulse) : ℕ := pulse.intervalMs * pulse.tickCount

/-- Prevent restoration of one resource by effects at or below the carrier's trains. -/
structure ResourceImmunity where
  resourceKey : String
  resourceKey_ok : Identifier resourceKey
  deriving DecidableEq

/-- Adjust one damage resistance channel while the carrying effect is active. -/
structure ResistanceAdjustment where
  damageType : DamageType
  amount : ℚ
  known : damageType ≠ .unknown
  amount_ne : amount ≠ 0
  deriving DecidableEq

/-- Multiply one base scalar while the carrying effect is active. -/
structure ScalarMultiplier where
  scalarKey : String
  factor : ℚ
  scalarKey_ok : Identifier scalarKey
  factor_nonneg : 0 ≤ factor
  deriving DecidableEq

/-- Remove the carrying effect after cumulative matching damage exceeds a threshold. -/
structure DamageBreakpoint where
  breakpointKey : String
  threshold : ℚ
  damageTypes : List DamageType
  breakpointKey_ok : Identifier breakpointKey
  threshold_pos : 0 < threshold
  types_ne : damageTypes ≠ []
  types_known : DamageType.unknown ∉ damageTypes
  types_nodup : damageTypes.Nodup
  deriving DecidableEq

def DamageBreakpoint.stateKey (breakpoint : DamageBreakpoint) : String :=
  "damage_breakpoint." ++ breakpoint.breakpointKey

inductive EffectModifier where
  | resourceImmunity (modifier : ResourceImmunity)
  | periodicPulse (modifier : PeriodicPulse)
  | resistanceAdjustment (modifier : ResistanceAdjustment)
  | scalarMultiplier (modifier : ScalarMultiplier)
  | damageBreakpoint (modifier : DamageBreakpoint)
  deriving DecidableEq

namespace EffectModifier

/-- The policy-facing tag of a modifier; every modifier has exactly one. -/
def semanticTag : EffectModifier → String
  | .resourceImmunity m => "immunity.resource." ++ m.resourceKey
  | .periodicPulse m => "periodic." ++ m.periodicKey
  | .resistanceAdjustment m => "modifier.resistance." ++ m.damageType.value
  | .scalarMultiplier m => "modifier.scalar_multiplier." ++ m.scalarKey
  | .damageBreakpoint m => "breakpoint.damage." ++ m.breakpointKey

def periodic? : EffectModifier → Option PeriodicPulse
  | .periodicPulse m => some m
  | _ => none

def breakpoint? : EffectModifier → Option DamageBreakpoint
  | .damageBreakpoint m => some m
  | _ => none

def multiplier? : EffectModifier → Option ScalarMultiplier
  | .scalarMultiplier m => some m
  | _ => none

def adjustment? : EffectModifier → Option ResistanceAdjustment
  | .resistanceAdjustment m => some m
  | _ => none

def immunity? : EffectModifier → Option ResourceImmunity
  | .resourceImmunity m => some m
  | _ => none

end EffectModifier

/-! ## Effects on state, position and ownership -/

structure ApplyEffect where
  subject : SubjectRef
  effectKey : String
  durationMs : ℕ
  magnitude : ℚ := 1
  stackingKey : Option String := none
  tags : List String := []
  modifiers : List EffectModifier := []
  stackOrder : ℕ := 0
  trains : ℕ := 0
  stackPriority : StackPriority := .always
  immunityTags : List String := []
  effectKey_ok : Identifier effectKey
  duration_pos : 0 < durationMs
  stackingKey_ok : ∀ k ∈ stackingKey, Identifier k
  tags_ok : UniqueStrings tags
  immunityTags_ok : UniqueStrings immunityTags
  modifiers_ok : (modifiers.map EffectModifier.semanticTag).Nodup
  pulses_fit : ∀ p ∈ modifiers.filterMap EffectModifier.periodic?, p.durationMs ≤ durationMs
  deriving DecidableEq

/-- The dictionary key under which an effect is stored on its subject. -/
def ApplyEffect.storageKey (effect : ApplyEffect) : String :=
  effect.stackingKey.getD effect.effectKey

/-- Which effects a removal matches: one effect key, or one tag. -/
inductive RemovalMatch where
  | effectKey (key : String) (key_ok : Identifier key)
  | matchingTag (tag : String) (tag_ok : Identifier tag)
  deriving DecidableEq

structure RemoveEffect where
  subject : SubjectRef
  criterion : RemovalMatch
  maximumCount : Option ℕ := none
  maximumCount_pos : ∀ n ∈ maximumCount, 0 < n
  deriving DecidableEq

structure MoveEntity where
  subject : SubjectRef
  mode : MovementMode
  distance : Option ℚ := none
  distance_pos : ∀ d ∈ distance, 0 < d
  deriving DecidableEq

structure TransferItem where
  fromSubject : SubjectRef
  toSubject : SubjectRef
  itemId : Option String := none
  quantity : Option ℚ := none
  subjects_ne : fromSubject ≠ toSubject
  itemId_ok : ∀ i ∈ itemId, Identifier i
  quantity_pos : ∀ q ∈ quantity, 0 < q
  deriving DecidableEq

/-- Objective progress; the subject is always the bound objective. -/
structure ModifyObjective where
  progressDelta : ℚ
  progressDelta_ne : progressDelta ≠ 0
  deriving DecidableEq

/-- Stance change; the subject is always the actor. -/
structure ChangeStance where
  stance : CombatStance
  deriving DecidableEq

inductive DirectEffect where
  | modifyScalar (effect : ModifyScalar)
  | dealDamage (effect : DealDamage)
  | restoreResource (effect : RestoreResource)
  | transferResource (effect : TransferResource)
  | modifyTag (effect : ModifyTag)
  | applyEffect (effect : ApplyEffect)
  | removeEffect (effect : RemoveEffect)
  | moveEntity (effect : MoveEntity)
  | transferItem (effect : TransferItem)
  | modifyObjective (effect : ModifyObjective)
  | changeStance (effect : ChangeStance)
  deriving DecidableEq

def PeriodicDirectEffect.toDirect : PeriodicDirectEffect → DirectEffect
  | .modifyScalar e => .modifyScalar e
  | .dealDamage e => .dealDamage e
  | .restoreResource e => .restoreResource e
  | .transferResource e => .transferResource e
  | .modifyTag e => .modifyTag e

/-! ## Bounded compositions -/

/-- Follow-up primitives chosen by one direct effect's outcome. -/
structure OutcomeConditional where
  conditionalKey : String
  condition : DirectEffect
  outcomes : List EffectOutcomeKind
  effects : List DirectEffect
  elseEffects : List DirectEffect := []
  conditionalKey_ok : Identifier conditionalKey
  outcomes_ne : outcomes ≠ []
  outcomes_nodup : outcomes.Nodup
  branches_ne : effects ≠ [] ∨ elseEffects ≠ []
  deriving DecidableEq

inductive ChanceNested where
  | direct (effect : DirectEffect)
  | conditional (effect : OutcomeConditional)
  deriving DecidableEq

/-- One seeded probability in front of a bundle. -/
structure ChanceGate where
  chanceKey : String
  probability : ℚ
  effects : List ChanceNested
  chanceKey_ok : Identifier chanceKey
  probability_ok : 0 < probability ∧ probability ≤ 1
  effects_ne : effects ≠ []
  deriving DecidableEq

inductive AttackNested where
  | direct (effect : DirectEffect)
  | conditional (effect : OutcomeConditional)
  | chance (effect : ChanceGate)
  deriving DecidableEq

/-- Hit and optional passive-defense rolls in front of a bundle. -/
structure AttackGate where
  attackKey : String
  kind : AttackKind
  attackRatingKey : String
  defenseRatingKey : String
  effects : List AttackNested
  passiveDefenseKeys : List String := []
  attackKey_ok : Identifier attackKey
  attackRatingKey_ok : Identifier attackRatingKey
  defenseRatingKey_ok : Identifier defenseRatingKey
  effects_ne : effects ≠ []
  passiveDefenseKeys_ok : UniqueStrings passiveDefenseKeys
  deriving DecidableEq

inductive AreaNested where
  | direct (effect : DirectEffect)
  | conditional (effect : OutcomeConditional)
  | chance (effect : ChanceGate)
  | attack (effect : AttackGate)
  deriving DecidableEq

/-- One bundle for every eligible entity around an explicit origin. -/
structure AreaEffect where
  origin : AreaOrigin
  radius : ℚ
  allowedRelations : List Relation
  effects : List AreaNested
  maximumTargets : Option ℕ := none
  radius_pos : 0 < radius
  relations_ne : allowedRelations ≠ []
  relations_nodup : allowedRelations.Nodup
  effects_ne : effects ≠ []
  maximumTargets_pos : ∀ n ∈ maximumTargets, 0 < n
  deriving DecidableEq

inductive EffectPrimitive where
  | direct (effect : DirectEffect)
  | conditional (effect : OutcomeConditional)
  | chance (effect : ChanceGate)
  | attack (effect : AttackGate)
  | area (effect : AreaEffect)
  deriving DecidableEq

/-! ## Weapons and triggers -/

/-- Modify a qualifying weapon attack before its hit and damage rolls. -/
structure AttackModifierSpec where
  attackRatingBonus : ℚ := 0
  damageMultiplier : ℚ := 1
  bonusDamageMinimum : ℚ := 0
  bonusDamageMaximum : ℚ := 0
  bypassDefense : Bool := false
  bypassPassiveDefense : Bool := false
  damageTypeOverride : Option String := none
  tags : List String := []
  multiplier_pos : 0 < damageMultiplier
  bonus_nonneg : 0 ≤ bonusDamageMinimum
  bonus_ordered : bonusDamageMinimum ≤ bonusDamageMaximum
  override_ok : ∀ k ∈ damageTypeOverride, Identifier k
  tags_ok : UniqueStrings tags
  deriving DecidableEq

/-- Parameterized weapon action resolved by the generic combat pipeline. -/
structure WeaponAttackSpec where
  weaponSlot : String
  damageType : String
  minimumDamage : ℚ
  maximumDamage : ℚ
  attackRatingScalar : String := "attack_rating"
  defenseScalar : String := "defense"
  minimumDamageScalar : Option String := none
  maximumDamageScalar : Option String := none
  defaultAttackRating : ℚ := 100
  defaultDefense : ℚ := 100
  minimumHitChance : ℚ := 5 / 100
  maximumHitChance : ℚ := 95 / 100
  passiveDefenseKeys : List String := ["block", "dodge", "parry"]
  phaseIndex : ℕ := 0
  weaponSlot_ok : Identifier weaponSlot
  damageType_ok : Identifier damageType
  damage_ok : 0 ≤ minimumDamage ∧ minimumDamage ≤ maximumDamage
  attackRatingScalar_ok : Identifier attackRatingScalar
  defenseScalar_ok : Identifier defenseScalar
  minimumDamageScalar_ok : ∀ k ∈ minimumDamageScalar, Identifier k
  maximumDamageScalar_ok : ∀ k ∈ maximumDamageScalar, Identifier k
  hitChance_ok : 0 ≤ minimumHitChance ∧ minimumHitChance ≤ maximumHitChance ∧ maximumHitChance ≤ 1
  passiveDefenseKeys_ok : UniqueStrings passiveDefenseKeys
  deriving DecidableEq

/-- The clamped hit chance of a weapon attempt. -/
def WeaponAttackSpec.hitChance (attack : WeaponAttackSpec) (attackRating defense : ℚ)
    (bypass : Bool := false) : ℚ :=
  if bypass then 1
  else
    let attacking := max 0 attackRating
    let defended := max 0 defense
    let denominator := max 1 (attacking + defended)
    let raw := 1 / 2 + (attacking - defended) / (2 * denominator)
    max attack.minimumHitChance (min attack.maximumHitChance raw)

/-- Payload and optional attack modifier armed for a later action. -/
structure ActionTriggerSpec where
  triggerKey : String
  payload : List DirectEffect := []
  requiredActionTags : List String := []
  qualifyingActionKeys : List String := []
  forbiddenActionTags : List String := []
  fireOn : TriggerMoment := .actionStart
  consumeOn : TriggerConsumption := .actionStart
  chance : ℚ := 1
  attackModifier : Option AttackModifierSpec := none
  tags : List String := []
  triggerKey_ok : Identifier triggerKey
  effect_ok : payload ≠ [] ∨ attackModifier ≠ none
  requiredActionTags_ok : UniqueStrings requiredActionTags
  qualifyingActionKeys_ok : UniqueStrings qualifyingActionKeys
  forbiddenActionTags_ok : UniqueStrings forbiddenActionTags
  tags_ok : UniqueStrings tags
  qualifies_ok : requiredActionTags ≠ [] ∨ qualifyingActionKeys ≠ []
  disjoint_ok : ∀ t ∈ requiredActionTags, t ∉ forbiddenActionTags
  chance_ok : 0 ≤ chance ∧ chance ≤ 1
  modifier_moment : attackModifier ≠ none → fireOn = .attempt
  deriving DecidableEq

/-- Whether a trigger qualifies for an action. -/
def ActionTriggerSpec.qualifies (trigger : ActionTriggerSpec) (actionKey : String)
    (actionTags : List String) : Bool :=
  if trigger.qualifyingActionKeys ≠ [] ∧ actionKey ∉ trigger.qualifyingActionKeys then false
  else if ¬ trigger.requiredActionTags.all (fun t => t ∈ actionTags) then false
  else !trigger.forbiddenActionTags.any (fun t => t ∈ actionTags)

/-! ## Actions and catalogs -/

structure ActionPhase where
  kind : PhaseKind
  durationMs : ℕ
  effects : List EffectPrimitive := []
  delivery : DeliverySpec := .immediate
  interruptible : Bool := false
  movementAllowed : Bool := true
  recovery_ok : kind = .recovery → effects = [] ∧ delivery = .immediate
  deriving DecidableEq

/-- The effect keys a phase list applies at its top level. -/
def appliedEffectKeys (phases : List ActionPhase) : List String :=
  phases.flatMap (fun phase => phase.effects.filterMap (fun
    | .direct (.applyEffect e) => some e.effectKey
    | _ => none))

/-- The area effects of a phase list. -/
def areaEffects (phases : List ActionPhase) : List AreaEffect :=
  phases.flatMap (fun phase => phase.effects.filterMap (fun
    | .area e => some e
    | _ => none))

structure ActionSpec where
  actionKey : String
  targeting : TargetingSpec
  phases : List ActionPhase
  cooldownMs : ℕ := 0
  costs : List ResourceCost := []
  requiredActorTags : List String := []
  forbiddenActorTags : List String := []
  features : List NamedScalar := []
  weaponAttack : Option WeaponAttackSpec := none
  armedTrigger : Option ActionTriggerSpec := none
  tags : List String := []
  hitRoll : Option AttackKind := none
  cancelOnDamage : Bool := false
  cancelOnStun : Bool := false
  actionKey_ok : Identifier actionKey
  phases_ne : phases ≠ []
  costs_ok : UniqueStrings (costs.map ResourceCost.resourceKey)
  requiredActorTags_ok : UniqueStrings requiredActorTags
  forbiddenActorTags_ok : UniqueStrings forbiddenActorTags
  actorTags_disjoint : ∀ t ∈ requiredActorTags, t ∉ forbiddenActorTags
  features_ok : UniqueStrings (features.map NamedScalar.name)
  weaponAttack_ok : ∀ w ∈ weaponAttack, w.phaseIndex < phases.length
  armedTrigger_ok : ∀ t ∈ armedTrigger, t.triggerKey ∈ appliedEffectKeys phases
  tags_ok : UniqueStrings tags
  cancel_ok : cancelOnDamage ∨ cancelOnStun → ∃ p ∈ phases, p.interruptible
  actorArea_ok : (∃ a ∈ areaEffects phases, a.origin = .actor) → targeting.kind = .self
  targetArea_ok : (∃ a ∈ areaEffects phases, a.origin = .target) →
    targeting.kind = .entity ∨ targeting.kind = .position
  hitRoll_ok : hitRoll ≠ none →
    (targeting.kind = .entity ∧ Relation.enemy ∈ targeting.allowedRelations) ∨
      ∃ a ∈ areaEffects phases, Relation.enemy ∈ a.allowedRelations
  deriving DecidableEq

/-- A collection of actions with distinct keys and distinct trigger keys. -/
structure ActionCatalog where
  actions : List ActionSpec
  keys_ok : UniqueStrings (actions.map ActionSpec.actionKey)
  triggers_ok : UniqueStrings
    ((actions.filterMap ActionSpec.armedTrigger).map ActionTriggerSpec.triggerKey)
  deriving DecidableEq

namespace ActionCatalog

def find? (catalog : ActionCatalog) (actionKey : String) : Option ActionSpec :=
  catalog.actions.find? (fun a => a.actionKey = actionKey)

/-- `catalog.get(action_key)`. -/
def get (catalog : ActionCatalog) (actionKey : String) : Except Fault ActionSpec :=
  match catalog.find? actionKey with
  | some action => .ok action
  | none => .error (.keyError ("unknown action key: " ++ actionKey))

/-- The trigger armed by an effect key, if some action of the catalog arms one. -/
def triggerForEffect (catalog : ActionCatalog) (effectKey : String) : Option ActionTriggerSpec :=
  (catalog.actions.filterMap ActionSpec.armedTrigger).find? (fun t => t.triggerKey = effectKey)

/-- Whether an action of the catalog carries a tag; unknown actions carry none. -/
def actionHasTag (catalog : ActionCatalog) (actionKey tag : String) : Bool :=
  match catalog.find? actionKey with
  | some action => tag ∈ action.tags
  | none => false

end ActionCatalog

end ShadowbaneLab
