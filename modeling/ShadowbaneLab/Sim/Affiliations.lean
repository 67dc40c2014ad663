/-
# Scenario affiliations

Memberships, ownership and diplomacy of a scenario, and the relation facts derived from
them (`src/shadowbane_lab/sim/affiliations.py`).  An `AffiliationSnapshot` is an input that
passed the validation of its constructor; the passing check is one of its fields.
-/
import Mathlib.Data.Finset.Card
import Mathlib.Data.Prod.Lex
import ShadowbaneLab.Foundation.Dict
import ShadowbaneLab.Protocol.Model

namespace ShadowbaneLab

open Foundation

/-! ## Groups, ownership and overrides -/

/-- Symmetric set memberships maintained by a scenario. -/
inductive GroupKind where
  | party
  | guild
  | nation
  | scenarioSide
  deriving DecidableEq, Repr

def GroupKind.value : GroupKind → String
  | .party => "party"
  | .guild => "guild"
  | .nation => "nation"
  | .scenarioSide => "scenario_side"

@[ext]
structure GroupKey where
  kind : GroupKind
  groupId : String
  groupId_ok : Identifier groupId

instance : DecidableEq GroupKey := fun _ _ => decidable_of_iff' _ GroupKey.ext_iff

@[ext]
structure GroupMembership where
  entityId : String
  groupKey : GroupKey
  role : Option String := none
  entityId_ok : Identifier entityId
  role_ok : ∀ r ∈ role, Identifier r

instance : DecidableEq GroupMembership := fun _ _ => decidable_of_iff' _ GroupMembership.ext_iff

/-- Directed owner-to-owned relation for pets, summons and subordinate objects. -/
@[ext]
structure OwnershipEdge where
  ownerId : String
  ownedId : String
  ownerId_ok : Identifier ownerId
  ownedId_ok : Identifier ownedId
  distinct : ownerId ≠ ownedId

instance : DecidableEq OwnershipEdge := fun _ _ => decidable_of_iff' _ OwnershipEdge.ext_iff

/-- Entity or group endpoint of a relation override. -/
inductive RelationSubject where
  | entity (entityId : String) (entityId_ok : Identifier entityId)
  | group (groupKey : GroupKey)

/-- The entity or the group of an endpoint. -/
def RelationSubject.endpoint : RelationSubject → String ⊕ GroupKey
  | .entity entityId _ => .inl entityId
  | .group groupKey => .inr groupKey

theorem RelationSubject.endpoint_injective : Function.Injective RelationSubject.endpoint := by
  rintro (⟨left, _⟩ | left) (⟨right, _⟩ | right) h
  · cases Sum.inl.inj h
    rfl
  · cases h
  · cases h
  · cases Sum.inr.inj h
    rfl

instance : DecidableEq RelationSubject := RelationSubject.endpoint_injective.decidableEq

/-- Three strings compared from left to right. -/
abbrev SubjectKey := String ×ₗ String ×ₗ String

namespace RelationSubject

def entityId? : RelationSubject → Option String
  | .entity entityId _ => some entityId
  | .group _ => none

def groupKey? : RelationSubject → Option GroupKey
  | .entity _ _ => none
  | .group groupKey => some groupKey

def specificity : RelationSubject → ℕ
  | .entity _ _ => 2
  | .group _ => 1

def sortKey : RelationSubject → SubjectKey
  | .entity entityId _ => toLex ("entity", toLex ("", entityId))
  | .group groupKey => toLex ("group", toLex (groupKey.kind.value, groupKey.groupId))

/-- Whether the subject names an entity with the given groups. -/
def designates (subject : RelationSubject) (entityId : String) (memberships : Finset GroupKey) :
    Bool :=
  match subject with
  | .entity named _ => named = entityId
  | .group groupKey => groupKey ∈ memberships

end RelationSubject

/-- Explicit relation whose endpoint specificity determines precedence. -/
@[ext]
structure RelationOverride where
  left : RelationSubject
  right : RelationSubject
  relation : Relation
  symmetric : Bool := true
  endpoints_ne : left ≠ right
  relation_ok : relation ≠ .self
  deriving DecidableEq

namespace RelationOverride

/-- Entity/entity beats entity/group, which beats group/group. -/
def precedence (override : RelationOverride) : ℕ :=
  override.left.specificity + override.right.specificity

/-- The endpoints, sorted when the override is symmetric, and the symmetry flag. -/
def identityKey (override : RelationOverride) : SubjectKey × SubjectKey × Bool :=
  if override.symmetric ∧ override.right.sortKey < override.left.sortKey then
    (override.right.sortKey, override.left.sortKey, override.symmetric)
  else (override.left.sortKey, override.right.sortKey, override.symmetric)

/-- Whether the override applies from the first entity to the second. -/
def applies (override : RelationOverride) (leftId rightId : String)
    (leftGroups rightGroups : Finset GroupKey) : Bool :=
  let forward := override.left.designates leftId leftGroups &&
    override.right.designates rightId rightGroups
  if forward || !override.symmetric then forward
  else override.left.designates rightId rightGroups && override.right.designates leftId leftGroups

def isBetweenGroupKind (override : RelationOverride) (kind : GroupKind) : Bool :=
  override.left.groupKey?.any (fun g => g.kind = kind) &&
    override.right.groupKey?.any (fun g => g.kind = kind)

/-- The tie-break among equally specific overrides: the stored orientation. -/
def selectionKey (override : RelationOverride) : SubjectKey ×ₗ SubjectKey ×ₗ Bool :=
  toLex (override.left.sortKey, toLex (override.right.sortKey, override.symmetric))

end RelationOverride

/-! ## Override selection -/

/-- The highest precedence among some overrides. -/
def maximumPrecedence (overrides : List RelationOverride) : ℕ :=
  overrides.foldl (fun best override => max best override.precedence) 0

/-- The matching overrides of the highest precedence. -/
def strongestOverrides (overrides : List RelationOverride) (leftId rightId : String)
    (leftGroups rightGroups : Finset GroupKey) : List RelationOverride :=
  let matching := overrides.filter (fun o => o.applies leftId rightId leftGroups rightGroups)
  matching.filter (fun o => o.precedence = maximumPrecedence matching)

/-- `_select_override`: the strongest matching override; ties must agree on the relation. -/
def selectOverride (rt : Runtime) (overrides : List RelationOverride) (leftId rightId : String)
    (leftGroups rightGroups : Finset GroupKey) : Except Fault (Option RelationOverride) :=
  let strongest := strongestOverrides overrides leftId rightId leftGroups rightGroups
  if 1 < (strongest.map RelationOverride.relation).toFinset.card then
    .error (.affiliationConflict ("equally specific relation overrides disagree for " ++
      rt.repr leftId ++ " and " ++ rt.repr rightId))
  else .ok (sortBy RelationOverride.selectionKey strongest).head?

/-! ## Snapshots -/

structure AffiliationInput where
  revision : ℕ := 1
  memberships : List GroupMembership := []
  ownershipEdges : List OwnershipEdge := []
  relationOverrides : List RelationOverride := []
  deriving DecidableEq

namespace AffiliationInput

/-- Every entity the input mentions, sorted. -/
def entityIds (input : AffiliationInput) : List String :=
  sortedSet ((input.memberships.map GroupMembership.entityId ++
    input.ownershipEdges.flatMap (fun e => [e.ownerId, e.ownedId]) ++
    input.relationOverrides.flatMap (fun o => o.left.entityId?.toList ++
      o.right.entityId?.toList)).toFinset)

/-- `memberships_by_entity.get(entity_id, frozenset())`. -/
def groupsOf (input : AffiliationInput) (entityId : String) : Finset GroupKey :=
  ((input.memberships.filter (fun m => m.entityId = entityId)).map
    GroupMembership.groupKey).toFinset

/-- The direct owner of an entity. -/
def ownerOf (input : AffiliationInput) (entityId : String) : Option String :=
  (input.ownershipEdges.find? (fun e => e.ownedId = entityId)).map OwnershipEdge.ownerId

/-- Walk from owner to owner until an entity without owner (no cycle) or a repetition.
Every visited entity is owned, so the edge count bounds the walk. -/
def walksInCycle (input : AffiliationInput) : ℕ → List String → String → Bool
  | 0, _, _ => true
  | fuel + 1, visited, current =>
    match input.ownerOf current with
    | none => false
    | some owner =>
      if current ∈ visited then true else input.walksInCycle fuel (current :: visited) owner

/-- Two overrides with the same endpoints: conflicting, or a plain duplicate. -/
def checkIdentities (seen : List RelationOverride) :
    List RelationOverride → Except Fault Unit
  | [] => .ok ()
  | override :: rest =>
    match seen.find? (fun o => o.identityKey = override.identityKey) with
    | some existing =>
      if existing.relation ≠ override.relation then
        .error (.affiliationConflict "relation overrides with identical endpoints disagree")
      else .error (.affiliationConfiguration "relation_overrides must not contain duplicates")
    | none => checkIdentities (override :: seen) rest

/-- `permutations(entity_ids, 2)`. -/
def entityPairs (input : AffiliationInput) : List (String × String) :=
  input.entityIds.flatMap (fun left =>
    (input.entityIds.filter (fun right => right ≠ left)).map (fun right => (left, right)))

/-- Every pair of known entities has an unambiguous override. -/
def checkConflicts (rt : Runtime) (input : AffiliationInput) :
    List (String × String) → Except Fault Unit
  | [] => .ok ()
  | (left, right) :: rest => do
    let _ ← selectOverride rt input.relationOverrides left right (input.groupsOf left)
      (input.groupsOf right)
    checkConflicts rt input rest

/-- The checks of the constructor, in its order. -/
def check (rt : Runtime) (input : AffiliationInput) : Except Fault Unit := do
  require (input.memberships.map (fun m => (m.entityId, m.groupKey))).Nodup
    (.affiliationConfiguration "memberships must not contain duplicates")
  require (input.memberships.map (fun m => (m.entityId, m.groupKey.kind))).Nodup
    (.affiliationConfiguration "an entity cannot belong to multiple groups of the same kind")
  require input.ownershipEdges.Nodup
    (.affiliationConfiguration "ownership_edges must not contain duplicates")
  require (input.ownershipEdges.map OwnershipEdge.ownedId).Nodup
    (.affiliationConfiguration "an owned entity cannot have multiple direct owners")
  require (!input.ownershipEdges.any (fun e =>
      input.walksInCycle (input.ownershipEdges.length + 1) [] e.ownedId))
    (.affiliationConfiguration "ownership graph contains a cycle")
  checkIdentities [] input.relationOverrides
  checkConflicts rt input input.entityPairs

end AffiliationInput

/-- Immutable, revisioned scenario-affiliation state. -/
structure AffiliationSnapshot (rt : Runtime) extends AffiliationInput where
  check_ok : toAffiliationInput.check rt = .ok ()

/-- The constructor: the input, if it passes its checks. -/
def AffiliationSnapshot.make (rt : Runtime) (input : AffiliationInput) :
    Except Fault (AffiliationSnapshot rt) :=
  match h : input.check rt with
  | .ok () => .ok ⟨input, h⟩
  | .error fault => .error fault

/-! ## Relation facts -/

/-- Factual relationship channels before a ruleset derives a coarse relation. -/
structure RelationFacts where
  leftEntityId : String
  rightEntityId : String
  sameEntity : Bool
  sameParty : Bool
  sameGuild : Bool
  sameNation : Bool
  sameScenarioSide : Bool
  opposingScenarioSide : Bool
  leftOwnsRight : Bool
  rightOwnsLeft : Bool
  sameOwner : Bool
  sameOwnershipFamily : Bool
  explicitNeutrality : Bool
  overrideRelation : Option Relation
  overridePrecedence : Option ℕ
  deriving DecidableEq, Repr

/-- `_shares_kind`. -/
def sharesKind (left right : Finset GroupKey) (kind : GroupKind) : Bool :=
  decide ((left.filter (fun g => g.kind = kind) ∩ right.filter (fun g => g.kind = kind)).Nonempty)

namespace AffiliationInput

/-- `_ancestor_chain`: owner, owner's owner and so on.  Ownership has no cycle, so the
edge count bounds the chain. -/
def ancestorChain (input : AffiliationInput) : ℕ → String → List String
  | 0, _ => []
  | fuel + 1, current =>
    match input.ownerOf current with
    | none => []
    | some owner => owner :: input.ancestorChain fuel owner

def ancestors (input : AffiliationInput) (entityId : String) : List String :=
  input.ancestorChain input.ownershipEdges.length entityId

/-- `_ownership_root`. -/
def ownershipRoot (input : AffiliationInput) (entityId : String) : String :=
  (input.ancestors entityId).getLast?.getD entityId

/-- The facts a selected override and the memberships determine. -/
def factsWith (input : AffiliationInput) (leftId rightId : String)
    (override : Option RelationOverride) : RelationFacts where
  leftEntityId := leftId
  rightEntityId := rightId
  sameEntity := leftId = rightId
  sameParty := sharesKind (input.groupsOf leftId) (input.groupsOf rightId) .party
  sameGuild := sharesKind (input.groupsOf leftId) (input.groupsOf rightId) .guild
  sameNation := sharesKind (input.groupsOf leftId) (input.groupsOf rightId) .nation
  sameScenarioSide := sharesKind (input.groupsOf leftId) (input.groupsOf rightId) .scenarioSide
  opposingScenarioSide := override.any
    (fun o => o.relation = .enemy && o.isBetweenGroupKind .scenarioSide)
  leftOwnsRight := leftId ∈ input.ancestors rightId
  rightOwnsLeft := rightId ∈ input.ancestors leftId
  sameOwner := leftId ≠ rightId ∧ (input.ownerOf leftId).isSome ∧
    input.ownerOf leftId = input.ownerOf rightId
  sameOwnershipFamily := leftId ≠ rightId ∧ input.ownershipRoot leftId = input.ownershipRoot rightId
  explicitNeutrality := override.any (fun o => o.relation = .neutral)
  overrideRelation := override.map RelationOverride.relation
  overridePrecedence := override.map RelationOverride.precedence

end AffiliationInput

/-- The override `facts_between` looks at: none from an entity to itself. -/
def AffiliationSnapshot.overrideBetween {rt : Runtime} (snapshot : AffiliationSnapshot rt)
    (leftId rightId : String) : Except Fault (Option RelationOverride) :=
  if leftId ≠ rightId then
    selectOverride rt snapshot.relationOverrides leftId rightId (snapshot.groupsOf leftId)
      (snapshot.groupsOf rightId)
  else .ok none

/-- `RelationResolver(snapshot).facts_between`. -/
def AffiliationSnapshot.factsBetween {rt : Runtime} (snapshot : AffiliationSnapshot rt)
    (leftId rightId : String) : Except Fault RelationFacts := do
  require (nonblank leftId) (.valueError "left_entity_id must be a non-empty string")
  require (nonblank rightId) (.valueError "right_entity_id must be a non-empty string")
  let override ← snapshot.overrideBetween leftId rightId
  pure (snapshot.factsWith leftId rightId override)

/-! ## Coarse relations -/

/-- Ruleset-owned mapping from exact facts to the compatibility relation. -/
abbrev RelationPolicy := RelationFacts → Relation

/-- Conservative default that preserves party, side and owner-family friendliness. -/
structure DefaultRelationPolicy where
  samePartyIsAlly : Bool := true
  sameGuildIsAlly : Bool := false
  sameNationIsAlly : Bool := false
  sameScenarioSideIsAlly : Bool := true
  sameOwnershipFamilyIsAlly : Bool := true

def DefaultRelationPolicy.coarseRelation (policy : DefaultRelationPolicy) : RelationPolicy :=
  fun facts =>
    if facts.sameEntity then .self
    else
      match facts.overrideRelation with
      | some relation => relation
      | none =>
        if policy.samePartyIsAlly && facts.sameParty then .ally
        else if policy.sameGuildIsAlly && facts.sameGuild then .ally
        else if policy.sameNationIsAlly && facts.sameNation then .ally
        else if policy.sameScenarioSideIsAlly && facts.sameScenarioSide then .ally
        else if policy.sameOwnershipFamilyIsAlly && facts.sameOwnershipFamily then .ally
        else if facts.opposingScenarioSide then .enemy
        else .neutral

end ShadowbaneLab
