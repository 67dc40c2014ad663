/-
# Target selection over affiliation facts

The standalone selector (`src/shadowbane_lab/sim/targeting.py`) and the bridge that feeds
it simulator state (`sim/runtime_targeting.py`).  Every considered candidate gets a
decision with the reasons that excluded it.
-/
import ShadowbaneLab.Sim.AffiliationIo
import ShadowbaneLab.Sim.State

namespace ShadowbaneLab

open Foundation

/-! ## Selectors and candidates -/

inductive AliveRequirement where
  | any
  | alive
  | dead
  deriving DecidableEq, Repr

inductive VisibilityRequirement where
  | any
  | visible
  deriving DecidableEq, Repr

inductive TargetOrder where
  | entityId
  | distanceThenEntityId
  deriving DecidableEq, Repr

/-- Exact affiliation predicates layered onto an existing target shape. -/
structure AffiliationTargetConstraints where
  requireSameParty : Bool := false
  forbidSameParty : Bool := false
  requireSameGuild : Bool := false
  forbidSameGuild : Bool := false
  requireSameNation : Bool := false
  forbidSameNation : Bool := false
  requireSameScenarioSide : Bool := false
  forbidSameScenarioSide : Bool := false
  requireOpposingScenarioSide : Bool := false
  forbidOpposingScenarioSide : Bool := false
  requireActorOwnsTarget : Bool := false
  requireTargetOwnsActor : Bool := false
  requireSameOwner : Bool := false
  forbidSameOwner : Bool := false
  requireSameOwnershipFamily : Bool := false
  forbidSameOwnershipFamily : Bool := false
  party_ok : ¬ (requireSameParty ∧ forbidSameParty) := by decide
  guild_ok : ¬ (requireSameGuild ∧ forbidSameGuild) := by decide
  nation_ok : ¬ (requireSameNation ∧ forbidSameNation) := by decide
  side_ok : ¬ (requireSameScenarioSide ∧ forbidSameScenarioSide) := by decide
  opposing_ok : ¬ (requireOpposingScenarioSide ∧ forbidOpposingScenarioSide) := by decide
  owner_ok : ¬ (requireSameOwner ∧ forbidSameOwner) := by decide
  family_ok : ¬ (requireSameOwnershipFamily ∧ forbidSameOwnershipFamily) := by decide
  sides_ok : ¬ (requireSameScenarioSide ∧ requireOpposingScenarioSide) := by decide
  mutual_ok : ¬ (requireActorOwnsTarget ∧ requireTargetOwnsActor) := by decide
  deriving DecidableEq

/-- Source-independent target constraints owned by a compiled ability recipe. -/
structure TargetSelectorSpec where
  entityKinds : List EntityKind := []
  aliveRequirement : AliveRequirement := .alive
  allowedRelations : List Relation := []
  constraints : AffiliationTargetConstraints := {}
  visibilityRequirement : VisibilityRequirement := .visible
  minimumRange : ℚ := 0
  maximumRange : Option ℚ := none
  requiresLineOfSight : Bool := false
  maximumTargets : Option ℕ := none
  order : TargetOrder := .entityId
  deriving DecidableEq

/-- One authoritative candidate projected for source-independent filtering. -/
structure TargetCandidate where
  entityId : String
  kind : EntityKind
  position : Vector2
  alive : Bool := true
  visibleToActor : Bool := true
  lineOfSight : Bool := true
  deriving DecidableEq

/-- Accepted or rejected result for one considered candidate. -/
structure TargetDecision where
  candidate : TargetCandidate
  accepted : Bool
  relationFacts : RelationFacts
  coarseRelation : Relation
  distance : ℚ
  exclusionReasons : List String
  deriving DecidableEq

structure TargetResolution where
  actorId : String
  affiliationRevision : ℕ
  decisions : List TargetDecision
  deriving DecidableEq

def TargetResolution.acceptedEntityIds (resolution : TargetResolution) : List String :=
  (resolution.decisions.filter TargetDecision.accepted).map (fun d => d.candidate.entityId)

/-- `_distance`. -/
def distance (rt : Runtime) (left right : Vector2) : ℚ :=
  rt.hypot (left.x - right.x) (left.y - right.y)

/-! ## Exclusion reasons -/

/-- `_append_fact_constraint`. -/
def factConstraint (fact required forbidden : Bool) (missingReason forbiddenReason : String) :
    List String :=
  (if required && !fact then [missingReason] else []) ++
    (if forbidden && fact then [forbiddenReason] else [])

/-- The reasons that come from the affiliation constraints. -/
def constraintReasons (constraints : AffiliationTargetConstraints) (facts : RelationFacts) :
    List String :=
  factConstraint facts.sameParty constraints.requireSameParty constraints.forbidSameParty
    "not_same_party" "same_party_forbidden" ++
  factConstraint facts.sameGuild constraints.requireSameGuild constraints.forbidSameGuild
    "not_same_guild" "same_guild_forbidden" ++
  factConstraint facts.sameNation constraints.requireSameNation constraints.forbidSameNation
    "not_same_nation" "same_nation_forbidden" ++
  factConstraint facts.sameScenarioSide constraints.requireSameScenarioSide
    constraints.forbidSameScenarioSide "not_same_scenario_side" "same_scenario_side_forbidden" ++
  factConstraint facts.opposingScenarioSide constraints.requireOpposingScenarioSide
    constraints.forbidOpposingScenarioSide "not_opposing_scenario_side"
    "opposing_scenario_side_forbidden" ++
  factConstraint facts.sameOwner constraints.requireSameOwner constraints.forbidSameOwner
    "not_same_owner" "same_owner_forbidden" ++
  factConstraint facts.sameOwnershipFamily constraints.requireSameOwnershipFamily
    constraints.forbidSameOwnershipFamily "not_same_ownership_family"
    "same_ownership_family_forbidden" ++
  (if constraints.requireActorOwnsTarget && !facts.leftOwnsRight then
    ["actor_does_not_own_target"] else []) ++
  (if constraints.requireTargetOwnsActor && !facts.rightOwnsLeft then
    ["target_does_not_own_actor"] else [])

/-- `_exclusion_reasons`. -/
def exclusionReasons (candidate : TargetCandidate) (selector : TargetSelectorSpec)
    (facts : RelationFacts) (coarseRelation : Relation) (distance : ℚ) : List String :=
  (if selector.entityKinds ≠ [] ∧ candidate.kind ∉ selector.entityKinds then
    ["entity_kind_not_allowed"] else []) ++
  (match selector.aliveRequirement with
    | .alive => if candidate.alive then [] else ["target_not_alive"]
    | .dead => if candidate.alive then ["target_not_dead"] else []
    | .any => []) ++
  constraintReasons selector.constraints facts ++
  (if selector.allowedRelations ≠ [] ∧ coarseRelation ∉ selector.allowedRelations then
    ["relation_not_allowed"] else []) ++
  (if selector.visibilityRequirement = .visible ∧ ¬ candidate.visibleToActor then
    ["not_visible"] else []) ++
  (if distance < selector.minimumRange then ["below_minimum_range"] else []) ++
  (if selector.maximumRange.any (fun maximum => maximum < distance) then
    ["outside_maximum_range"] else []) ++
  (if selector.requiresLineOfSight && !candidate.lineOfSight then
    ["line_of_sight_blocked"] else [])

/-! ## Resolution -/

/-- `_order_key`; ordering by identifier alone has distance zero everywhere. -/
def orderKey (rt : Runtime) (actor : TargetCandidate) (order : TargetOrder)
    (candidate : TargetCandidate) : ℚ ×ₗ String :=
  match order with
  | .distanceThenEntityId =>
    toLex (distance rt actor.position candidate.position, candidate.entityId)
  | .entityId => toLex (0, candidate.entityId)

/-- The decisions on ordered candidates, `acceptedCount` of which were accepted before. -/
def decideTargets {rt : Runtime} (snapshot : AffiliationSnapshot rt) (policy : RelationPolicy)
    (actor : TargetCandidate) (selector : TargetSelectorSpec) :
    ℕ → List TargetCandidate → Except Fault (List TargetDecision)
  | _, [] => .ok []
  | acceptedCount, candidate :: rest => do
    let span := distance rt actor.position candidate.position
    let facts ← snapshot.factsBetween actor.entityId candidate.entityId
    let relation := policy facts
    let reasons := exclusionReasons candidate selector facts relation span
    let capped := selector.maximumTargets.any (fun maximum => maximum ≤ acceptedCount)
    let reasons := if reasons = [] ∧ capped then ["target_cap_exceeded"] else reasons
    let decisions ← decideTargets snapshot policy actor selector
      (if reasons = [] then acceptedCount + 1 else acceptedCount) rest
    pure (⟨candidate, reasons = [], facts, relation, span, reasons⟩ :: decisions)

/-- `TargetResolver.resolve`. -/
def resolveTargets {rt : Runtime} (snapshot : AffiliationSnapshot rt) (policy : RelationPolicy)
    (actor : TargetCandidate) (candidates : List TargetCandidate) (selector : TargetSelectorSpec) :
    Except Fault TargetResolution := do
  require (candidates.map TargetCandidate.entityId).Nodup
    (.valueError "candidate entity ids must be unique")
  let decisions ← decideTargets snapshot policy actor selector 0
    (sortBy (orderKey rt actor selector.order) candidates)
  pure ⟨actor.entityId, snapshot.revision, decisions⟩

/-! ## Visibility -/

/-- `_can_observe`. -/
def canObserve (actor target : EntityState) : Bool :=
  target.entityId = actor.entityId || decide ("visibility.invisible" ∉ target.effectiveTags) ||
    decide ("detection.see_invisible" ∈ actor.effectiveTags)

/-! ## The runtime context -/

/-- Ruleset-owned exact predicates keyed by compiled action identity. -/
structure RuntimeTargetingProfile where
  actionConstraints : Dict String AffiliationTargetConstraints := ∅
  areaConstraints : Dict String AffiliationTargetConstraints := ∅

/-- Immutable affiliation authority shared by affordances and effect resolution. -/
structure RuntimeTargetingContext (rt : Runtime) where
  snapshot : AffiliationSnapshot rt
  relationPolicy : RelationPolicy := DefaultRelationPolicy.coarseRelation {}
  profile : RuntimeTargetingProfile := {}
  lineOfSightProvider : Option (EntityState → EntityState → Option Bool) := none

namespace RuntimeTargetingContext

variable {rt : Runtime} (context : RuntimeTargetingContext rt)

/-- `coarse_relation`. -/
def coarseRelation (leftId rightId : String) : Except Fault Relation := do
  let facts ← context.snapshot.factsBetween leftId rightId
  pure (context.relationPolicy facts)

def selectorForAction (action : ActionSpec) : TargetSelectorSpec where
  allowedRelations := action.targeting.allowedRelations
  minimumRange := action.targeting.minimumRange
  maximumRange := action.targeting.maximumRange
  requiresLineOfSight := action.targeting.requiresLineOfSight
  order := .entityId
  constraints := context.profile.actionConstraints.getD action.actionKey {}

def selectorForArea (actionKey : String) (effect : AreaEffect) : TargetSelectorSpec where
  allowedRelations := effect.allowedRelations
  visibilityRequirement := .any
  maximumRange := some effect.radius
  maximumTargets := effect.maximumTargets
  order := .distanceThenEntityId
  constraints := context.profile.areaConstraints.getD actionKey {}

/-- `_line_of_sight`; unknown visibility counts as blocked. -/
def lineOfSight (actor target : EntityState) (selector : TargetSelectorSpec) : Bool :=
  if !selector.requiresLineOfSight || actor.entityId = target.entityId then true
  else
    match context.lineOfSightProvider with
    | none => false
    | some provider => (provider actor target).getD false

/-- `_candidate`. -/
def candidate (actor entity : EntityState) (selector : TargetSelectorSpec) (position : Vector2)
    (alive : Bool) : TargetCandidate where
  entityId := entity.entityId
  kind := entity.kind
  position := position
  alive := alive
  visibleToActor := canObserve actor entity
  lineOfSight := context.lineOfSight actor entity selector

/-- `resolve_action`. -/
def resolveAction (actor : EntityState) (entities : List EntityState) (action : ActionSpec) :
    Except Fault TargetResolution :=
  let selector := context.selectorForAction action
  resolveTargets context.snapshot context.relationPolicy
    (context.candidate actor actor selector actor.position actor.alive)
    (entities.map (fun entity =>
      context.candidate actor entity selector entity.position entity.alive)) selector

/-- `resolve_area`. -/
def resolveArea (actor : EntityState) (entities : List EntityState) (actionKey : String)
    (effect : AreaEffect) (center : Vector2) (eligibleAlive : Finset String) :
    Except Fault TargetResolution :=
  let selector := context.selectorForArea actionKey effect
  resolveTargets context.snapshot context.relationPolicy
    (context.candidate actor actor selector center actor.alive)
    (entities.map (fun entity => context.candidate actor entity selector entity.position
      (entity.alive && decide (entity.entityId ∈ eligibleAlive)))) selector

end RuntimeTargetingContext

end ShadowbaneLab
