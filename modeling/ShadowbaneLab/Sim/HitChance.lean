/-
# Advertised and rolled hit chances

`AffordanceBuilder` advertises an `expected_hit_chance`, and the resolution of the attack rolls
against a probability of its own.  Both read the ratings of the two entities; the resolution adds
the modifiers of the armed triggers, the builder only for a gate.
-/
import Mathlib.Tactic.FieldSimp
import ShadowbaneLab.Sim.Absorption
import ShadowbaneLab.Sim.Offers

namespace ShadowbaneLab

open Foundation

/-! ## The chance of a weapon attempt -/

namespace WeaponAttackSpec

variable (attackRating defense : ℚ)

end WeaponAttackSpec

/-! ## Attempts -/

variable {ctx : ItemContext} {attack : WeaponAttackSpec} {entityId key : String}

variable {value : ℚ}

variable {name : String} {contexts fired : List TriggerContext}

section Attempts

variable {scope : Scope} {s s' : Frame} (rt : Runtime) (catalog : ActionCatalog)

/-- A gate up to its roll. -/
def gateAttempt (ctx : ItemContext) (effect : AttackGate) (actor target : Living scope) :
    Exec scope (List TriggerContext × List TriggerContext × Bool) := do
  let action ← attempt (catalog.get ctx.actionKey)
  let contexts ← matchingTriggerContexts catalog action actor
  let fired ← resolveTriggerMoment rt catalog ctx actor .attempt contexts
  let hit ← rollAttack rt ctx effect (attackModifiers fired) actor target
  pure (contexts, fired, hit)

variable {rt catalog}

variable {β : Type} {entityId : String} {f : EntityState → β} {hf : Intrinsic f}

variable {entity : EntityState}

/-! ### The roll -/

variable {draft : EventDraft}

variable {modifiers : List AttackModifierSpec} {actor target : Living scope}

variable {moment : TriggerMoment}

end Attempts

/-! ## The advertised chance -/

section Advertised

variable {rt : Runtime} {cfg : Config rt} {entities : Dict String EntityState} {tick nowMs : ℕ}
  {actorState targetState : EntityState} {action : ActionSpec}

variable {affordance : Affordance}

variable {targetId : String}

variable {gate : AttackGate}

/-- A scalar of an entity is in effect what it was. -/
def Steady (entities entities' : Dict String EntityState) (entityId key : String) : Prop :=
  (entities'.get? entityId).map (fun e => e.effectiveScalar key) =
    (entities.get? entityId).map (fun e => e.effectiveScalar key)

namespace Resolves

variable {affordance : Affordance} {scope : Scope} {ctx : ItemContext} {actor target : Living scope}
  {s s' : Frame} {contexts fired : List TriggerContext} {hit : Bool}

end Resolves

variable {entities' : Dict String EntityState} {entity entity' : EntityState}

/-- A steady scalar reads what it read. -/
theorem Steady.effectiveScalar (h : Steady entities entities' entityId key)
    (hentity : entities.get? entityId = some entity)
    (hentity' : entities'.get? entityId = some entity') :
    entity'.effectiveScalar key = entity.effectiveScalar key := by
  rw [Steady, hentity, hentity', Option.map_some, Option.map_some] at h
  exact Option.some.inj h

theorem Steady.scalarOrDefault (h : Steady entities entities' entityId key)
    (hentity : entities.get? entityId = some entity)
    (hentity' : entities'.get? entityId = some entity') (default : ℚ) :
    entity'.scalarOrDefault key default = entity.scalarOrDefault key default := by
  rw [EntityState.scalarOrDefault, h.effectiveScalar hentity hentity', EntityState.scalarOrDefault]

namespace Resolves

variable {affordance : Affordance} {scope : Scope} {ctx : ItemContext} {actor target : Living scope}
  {s s' : Frame} {contexts fired : List TriggerContext} {hit : Bool}

end Resolves

end Advertised

/-! ### A strike past the defense -/

/-- A sword with the default ratings. -/
def sword : WeaponAttackSpec where
  weaponSlot := "main"
  damageType := "slash"
  minimumDamage := 1
  maximumDamage := 2
  weaponSlot_ok := by decide
  damageType_ok := by decide
  damage_ok := by norm_num
  attackRatingScalar_ok := by decide
  defenseScalar_ok := by decide
  minimumDamageScalar_ok := identifier_of_mem_none
  maximumDamageScalar_ok := identifier_of_mem_none
  hitChance_ok := by norm_num
  passiveDefenseKeys_ok := by decide

theorem nodup_enemy : [Relation.enemy].Nodup := by decide

theorem entity_iff : TargetKind.entity = .entity ↔ [Relation.enemy] ≠ [] := by decide

/-- An edge that is readied. -/
def edge : ActiveEffectState where
  effectKey := "edge"
  sourceEntityId := "striker"
  magnitude := 1
  expiresAtMs := 1000

end ShadowbaneLab
