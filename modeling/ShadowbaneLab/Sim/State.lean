/-
# Mutable reference state and immutable snapshots

Entities and their active effects (`src/shadowbane_lab/sim/state.py`).  An `EntityState`
is mutated freely by the simulator and validated only where the source validates it: when
it is constructed, and when it is rebuilt from a snapshot.  That every reachable entity
still passes this validation is a theorem, not a field.

Snapshots list every dictionary and every set in sorted order.
-/
import ShadowbaneLab.Foundation.Dict
import ShadowbaneLab.Sim.Actions

namespace ShadowbaneLab

open Foundation

/-! ## Checks shared by the constructors -/

/-- `_identifier`. -/
def checkIdentifier (value field : String) : Except Fault Unit :=
  require (nonblank value) (.valueError (field ++ " must be a non-empty string"))

/-- `_identifier` on every member of a list. -/
def checkIdentifiers (field : String) : List String → Except Fault Unit
  | [] => .ok ()
  | value :: rest => do
    checkIdentifier value field
    checkIdentifiers field rest

/-- `_finite_mapping`: the check of its keys.  Exact numbers are finite, so that of its values always
passes. -/
def checkMapping {ν : Type} (values : Dict String ν) (field : String) : Except Fault Unit :=
  checkIdentifiers (field ++ " key") values.keys

/-! ## Active effects -/

structure ActiveEffectSnapshot where
  effectKey : String
  sourceEntityId : String
  instanceId : Option String
  magnitude : ℚ
  expiresAtMs : ℕ
  stackingKey : Option String
  tags : List String
  modifiers : List EffectModifier
  modifierValues : List (String × ℚ)
  applicationOrder : ℕ
  stackOrder : ℕ
  trains : ℕ
  stackPriority : StackPriority
  deriving DecidableEq

/-- An active effect without the accumulators of its stateful modifiers. -/
structure EffectRecord where
  effectKey : String
  sourceEntityId : String
  magnitude : ℚ
  expiresAtMs : ℕ
  instanceId : Option String := none
  stackingKey : Option String := none
  tags : Finset String := ∅
  modifiers : List EffectModifier := []
  applicationOrder : ℕ := 0
  stackOrder : ℕ := 0
  trains : ℕ := 0
  stackPriority : StackPriority := .always
  deriving DecidableEq

namespace EffectRecord

/-- The dictionary key under which the effect is stored on its carrier. -/
def storageKey (effect : EffectRecord) : String := effect.stackingKey.getD effect.effectKey

/-- What one effect adds to its carrier's effective tags. -/
def effectiveTags (effect : EffectRecord) : Finset String :=
  insert effect.effectKey effect.tags ∪ (effect.modifiers.map EffectModifier.semanticTag).toFinset

/-- The product of the effect's multipliers for one scalar, times `factor`. -/
def multiply (scalarKey : String) (factor : ℚ) (effect : EffectRecord) : ℚ :=
  (effect.modifiers.filterMap EffectModifier.multiplier?).foldl
    (fun factor m => if m.scalarKey = scalarKey then factor * m.factor else factor) factor

end EffectRecord

structure ActiveEffectState extends EffectRecord where
  modifierValues : Dict String ℚ := ∅

/-- The accumulator keys a modifier list calls for. -/
def breakpointStateKeys (modifiers : List EffectModifier) : Finset String :=
  ((modifiers.filterMap EffectModifier.breakpoint?).map DamageBreakpoint.stateKey).toFinset

namespace ActiveEffectState

/-- The checks of the constructor, in its order. -/
def check (effect : ActiveEffectState) : Except Fault Unit := do
  checkIdentifier effect.effectKey "effect_key"
  checkIdentifier effect.sourceEntityId "source_entity_id"
  checkIdentifiers "instance_id" effect.instanceId.toList
  checkIdentifiers "stacking_key" effect.stackingKey.toList
  checkIdentifiers "effect tag" (sortedSet effect.tags)
  checkMapping effect.modifierValues "modifier_values"
  require (effect.modifierValues.keys.toFinset = breakpointStateKeys effect.modifiers)
    (.valueError "modifier_values must match stateful effect modifiers")
  require (effect.modifierValues.values.all (fun v => 0 ≤ v))
    (.valueError "modifier_values must not be negative")

def snapshot (effect : ActiveEffectState) : ActiveEffectSnapshot where
  effectKey := effect.effectKey
  sourceEntityId := effect.sourceEntityId
  instanceId := effect.instanceId
  magnitude := effect.magnitude
  expiresAtMs := effect.expiresAtMs
  stackingKey := effect.stackingKey
  tags := sortedSet effect.tags
  modifiers := effect.modifiers
  modifierValues := effect.modifierValues.sortedItems
  applicationOrder := effect.applicationOrder
  stackOrder := effect.stackOrder
  trains := effect.trains
  stackPriority := effect.stackPriority

/-- The unvalidated effect a snapshot describes. -/
def ofSnapshot (snapshot : ActiveEffectSnapshot) : ActiveEffectState where
  effectKey := snapshot.effectKey
  sourceEntityId := snapshot.sourceEntityId
  magnitude := snapshot.magnitude
  expiresAtMs := snapshot.expiresAtMs
  instanceId := snapshot.instanceId
  stackingKey := snapshot.stackingKey
  tags := snapshot.tags.toFinset
  modifiers := snapshot.modifiers
  modifierValues := Dict.ofList snapshot.modifierValues
  applicationOrder := snapshot.applicationOrder
  stackOrder := snapshot.stackOrder
  trains := snapshot.trains
  stackPriority := snapshot.stackPriority

def fromSnapshot (snapshot : ActiveEffectSnapshot) : Except Fault ActiveEffectState := do
  let effect := ofSnapshot snapshot
  effect.check
  pure effect

end ActiveEffectState

/-! ## Entities -/

structure EntitySnapshot where
  entityId : String
  lifeId : String
  kind : EntityKind
  teamId : Option String
  position : Vector2
  velocity : Vector2
  scalars : List (String × ℚ)
  maximums : List (String × ℚ)
  tags : List String
  actionKeys : List String
  inventory : List (String × ℚ)
  effects : List ActiveEffectSnapshot
  cooldowns : List (String × ℕ)
  busyUntilMs : ℕ
  stanceMultipliers : List (CombatStance × List (String × ℚ))
  stance : CombatStance
  alive : Bool
  deriving DecidableEq

structure EntityState where
  entityId : String
  lifeId : String
  kind : EntityKind
  teamId : Option String
  position : Vector2
  velocity : Vector2 := Vector2.zero
  scalars : Dict String ℚ := ∅
  maximums : Dict String ℚ := ∅
  tags : Finset String := ∅
  actionKeys : List String := []
  inventory : Dict String ℚ := ∅
  effects : Dict String ActiveEffectState := ∅
  cooldowns : Dict String ℕ := ∅
  busyUntilMs : ℕ := 0
  stanceMultipliers : Dict CombatStance (Dict String ℚ) := ∅
  stance : CombatStance := .normal
  alive : Bool := true

namespace EntityState

/-- Declared maximums are non-negative and bound the scalars they name. -/
def checkMaximums (scalars : Dict String ℚ) : List (String × ℚ) → Except Fault Unit
  | [] => .ok ()
  | (key, maximum) :: rest => do
    require (0 ≤ maximum) (.valueError "maximum values must not be negative")
    require ((scalars.get? key).all (fun value => value ≤ maximum))
      (.valueError ("scalar " ++ key ++ " exceeds its maximum"))
    checkMaximums scalars rest

/-- Effects are stored under their stacking key, or their effect key. -/
def checkEffects : List (String × ActiveEffectState) → Except Fault Unit
  | [] => .ok ()
  | (key, effect) :: rest => do
    checkIdentifier key "effect storage key"
    require (key = effect.storageKey)
      (.valueError "effect storage keys must match stacking_key or effect_key")
    checkEffects rest

/-- Stance tables name trained stances, positive factors and present scalars. -/
def checkStances (scalars : Dict String ℚ) :
    List (CombatStance × Dict String ℚ) → Except Fault Unit
  | [] => .ok ()
  | (stance, multipliers) :: rest => do
    require (stance ≠ .normal ∧ stance ≠ .travel)
      (.valueError "stance_multipliers may only define trained combat stances")
    checkMapping multipliers "stance multiplier"
    require (multipliers.values.all (fun factor => 0 < factor))
      (.valueError "stance multiplier factors must be positive")
    let missing := multipliers.sortedKeys.filter (fun key => !scalars.contains key)
    require (missing = [])
      (.valueError ("stance multipliers reference missing scalars: " ++ ", ".intercalate missing))
    checkStances scalars rest

/-- The checks of the constructor, in its order. -/
def check (entity : EntityState) : Except Fault Unit := do
  checkIdentifier entity.entityId "entity_id"
  checkIdentifier entity.lifeId "life_id"
  checkIdentifiers "team_id" entity.teamId.toList
  checkMapping entity.scalars "scalars"
  checkMapping entity.maximums "maximums"
  checkMaximums entity.scalars entity.maximums.items
  checkIdentifiers "tag" (sortedSet entity.tags)
  require entity.actionKeys.Nodup (.valueError "action_keys must not contain duplicates")
  checkIdentifiers "action_key" entity.actionKeys
  checkMapping entity.inventory "inventory"
  require (entity.inventory.values.all (fun quantity => 0 ≤ quantity))
    (.valueError "inventory quantities must not be negative")
  checkEffects entity.effects.items
  checkIdentifiers "cooldown action key" entity.cooldowns.keys
  checkStances entity.scalars entity.stanceMultipliers.items

/-! ### Derived values -/

/-- The active effects with their storage keys, in insertion order, without accumulators. -/
def records (entity : EntityState) : List (String × EffectRecord) :=
  entity.effects.items.map (fun e => (e.1, e.2.toEffectRecord))

/-- The effect stored under a key, without accumulators. -/
def record? (entity : EntityState) (storageKey : String) : Option EffectRecord :=
  (entity.effects.get? storageKey).map ActiveEffectState.toEffectRecord

/-- Tags in effect: the entity's own, those of its effects and modifiers, its stance. -/
def effectiveTags (entity : EntityState) : Finset String :=
  entity.tags ∪ (entity.records.map (fun e => e.2.effectiveTags)).foldr (· ∪ ·) ∅ ∪
    {"stance." ++ entity.stance.value}

/-- The multiplier of a stance for one scalar channel. -/
def stanceFactor (entity : EntityState) (scalarKey : String) : ℚ :=
  (entity.stanceMultipliers.getD entity.stance ∅).getD scalarKey 1

/-- A base scalar after all active typed multipliers; absent scalars have no value. -/
def effectiveScalar (entity : EntityState) (scalarKey : String) : Option ℚ :=
  (entity.scalars.get? scalarKey).map (fun base =>
    base * (sortBy Prod.fst entity.records).foldl
      (fun factor e => e.2.multiply scalarKey factor) (entity.stanceFactor scalarKey))

/-- `_scalar_or_default`. -/
def scalarOrDefault (entity : EntityState) (scalarKey : String) (default : ℚ) : ℚ :=
  (entity.effectiveScalar scalarKey).getD default

/-- `scalars.get(key, 0.0)`. -/
def scalar (entity : EntityState) (scalarKey : String) : ℚ := entity.scalars.getD scalarKey 0

/-! ### Snapshots -/

def snapshot (entity : EntityState) : EntitySnapshot where
  entityId := entity.entityId
  lifeId := entity.lifeId
  kind := entity.kind
  teamId := entity.teamId
  position := entity.position
  velocity := entity.velocity
  scalars := entity.scalars.sortedItems
  maximums := entity.maximums.sortedItems
  tags := sortedSet entity.tags
  actionKeys := sortBy id entity.actionKeys
  inventory := entity.inventory.sortedItems
  effects := entity.effects.sortedItems.map (fun e => e.2.snapshot)
  cooldowns := entity.cooldowns.sortedItems
  busyUntilMs := entity.busyUntilMs
  stanceMultipliers := (sortBy (fun e => e.1.value) entity.stanceMultipliers.items).map
    (fun e => (e.1, e.2.sortedItems))
  stance := entity.stance
  alive := entity.alive

/-- The unvalidated entity a snapshot describes, given its rebuilt effects. -/
def ofSnapshot (snapshot : EntitySnapshot) (effects : List ActiveEffectState) : EntityState where
  entityId := snapshot.entityId
  lifeId := snapshot.lifeId
  kind := snapshot.kind
  teamId := snapshot.teamId
  position := snapshot.position
  velocity := snapshot.velocity
  scalars := Dict.ofList snapshot.scalars
  maximums := Dict.ofList snapshot.maximums
  tags := snapshot.tags.toFinset
  actionKeys := snapshot.actionKeys
  inventory := Dict.ofList snapshot.inventory
  effects := Dict.ofList (effects.map (fun e => (e.storageKey, e)))
  cooldowns := Dict.ofList snapshot.cooldowns
  busyUntilMs := snapshot.busyUntilMs
  stanceMultipliers := Dict.ofList
    (snapshot.stanceMultipliers.map (fun e => (e.1, Dict.ofList e.2)))
  stance := snapshot.stance
  alive := snapshot.alive

def fromSnapshot (snapshot : EntitySnapshot) : Except Fault EntityState := do
  let effects ← snapshot.effects.mapM ActiveEffectState.fromSnapshot
  let entity := ofSnapshot snapshot effects
  entity.check
  pure entity

/-- `EntityState.from_snapshot(self.snapshot())`. -/
def clone (entity : EntityState) : Except Fault EntityState := fromSnapshot entity.snapshot

end EntityState

end ShadowbaneLab
