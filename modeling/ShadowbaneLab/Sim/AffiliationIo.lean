/-
# Interchange of affiliation snapshots

The canonical plain-data form of an affiliation snapshot and its strict parser
(`src/shadowbane_lab/sim/affiliation_io.py`).  The encoder sorts every list and orients
each symmetric override by its endpoints' sort keys; the parser rejects unknown and
missing fields and names the path of what it rejects.
-/
import ShadowbaneLab.Sim.Affiliations

namespace ShadowbaneLab

open Foundation

/-! ## Plain data -/

/-- Plain data: what a scenario payload is made of. -/
inductive Payload where
  | null
  | bool (value : Bool)
  | integer (value : ℤ)
  | real (value : ℚ)
  | string (value : String)
  | array (values : List Payload)
  | object (fields : List (String × Payload))

/-- Read one field of an object. -/
def field (fields : List (String × Payload)) (name : String) : Payload :=
  (assocGet name fields).getD .null

/-! ## Encoding -/

def schemaVersion : ℕ := 1

/-- `_canonical_override_subjects`: a symmetric override is listed smaller endpoint first. -/
def canonicalOverrideSubjects (override : RelationOverride) : RelationSubject × RelationSubject :=
  if override.symmetric ∧ override.right.sortKey < override.left.sortKey then
    (override.right, override.left)
  else (override.left, override.right)

def overrideSortKey (override : RelationOverride) :
    SubjectKey ×ₗ SubjectKey ×ₗ Bool ×ₗ String :=
  let subjects := canonicalOverrideSubjects override
  toLex (subjects.1.sortKey, toLex (subjects.2.sortKey,
    toLex (override.symmetric, override.relation.value)))

def membershipSortKey (membership : GroupMembership) :
    String ×ₗ String ×ₗ String ×ₗ String :=
  toLex (membership.entityId, toLex (membership.groupKey.kind.value,
    toLex (membership.groupKey.groupId, membership.role.getD "")))

def ownershipSortKey (edge : OwnershipEdge) : String ×ₗ String := toLex (edge.ownerId, edge.ownedId)

def optionalString : Option String → Payload
  | none => .null
  | some value => .string value

def groupKeyPayload (groupKey : GroupKey) : Payload :=
  .object [("kind", .string groupKey.kind.value), ("group_id", .string groupKey.groupId)]

def membershipPayload (membership : GroupMembership) : Payload :=
  .object [("entity_id", .string membership.entityId),
    ("group_key", groupKeyPayload membership.groupKey), ("role", optionalString membership.role)]

def ownershipPayload (edge : OwnershipEdge) : Payload :=
  .object [("owner_id", .string edge.ownerId), ("owned_id", .string edge.ownedId)]

def subjectPayload (subject : RelationSubject) : Payload :=
  .object [("entity_id", optionalString subject.entityId?),
    ("group_key", (subject.groupKey?.map groupKeyPayload).getD .null)]

def overridePayload (override : RelationOverride) : Payload :=
  let subjects := canonicalOverrideSubjects override
  .object [("left", subjectPayload subjects.1), ("right", subjectPayload subjects.2),
    ("relation", .string override.relation.value), ("symmetric", .bool override.symmetric)]

/-- `affiliation_snapshot_to_dict`. -/
def affiliationSnapshotToDict {rt : Runtime} (snapshot : AffiliationSnapshot rt) : Payload :=
  .object [("schema_version", .integer schemaVersion), ("revision", .integer snapshot.revision),
    ("memberships", .array ((sortBy membershipSortKey snapshot.memberships).map
      membershipPayload)),
    ("ownership_edges", .array ((sortBy ownershipSortKey snapshot.ownershipEdges).map
      ownershipPayload)),
    ("relation_overrides", .array ((sortBy overrideSortKey snapshot.relationOverrides).map
      overridePayload))]

/-! ## Parsing -/

/-- `_exact_fields`. -/
def exactFields (fields : List (String × Payload)) (expected : List String) (path : String) :
    Except Fault Unit := do
  let present := fields.map Prod.fst
  let unknown := sortBy id (present.filter (fun name => name ∉ expected))
  let missing := sortBy id (expected.filter (fun name => name ∉ present))
  require (unknown = [])
    (.affiliationFormat (path ++ " has unknown fields: " ++ ", ".intercalate unknown))
  require (missing = [])
    (.affiliationFormat (path ++ " is missing fields: " ++ ", ".intercalate missing))

/-- `_object`. -/
def parseObject (raw : Payload) (path : String) : Except Fault (List (String × Payload)) :=
  match raw with
  | .object fields => .ok fields
  | _ => .error (.affiliationFormat (path ++ " must be an object"))

/-- `_array`. -/
def parseArray (raw : Payload) (path : String) : Except Fault (List Payload) :=
  match raw with
  | .array values => .ok values
  | _ => .error (.affiliationFormat (path ++ " must be an array"))

/-- `_string`: the identifier it accepts. -/
def parseString (raw : Payload) (path : String) : Except Fault {s : String // Identifier s} :=
  match raw with
  | .string value =>
    if h : Identifier value then .ok ⟨value, h⟩
    else .error (.affiliationFormat (path ++ " must be a non-empty string"))
  | _ => .error (.affiliationFormat (path ++ " must be a non-empty string"))

/-- `_string` on a field that may be null. -/
def parseOptionalString (raw : Payload) (path : String) :
    Except Fault (Option {s : String // Identifier s}) :=
  match raw with
  | .null => .ok none
  | _ => (parseString raw path).map some

/-- `_non_negative_integer`. -/
def parseNatural (raw : Payload) (path : String) : Except Fault ℕ :=
  match raw with
  | .integer value =>
    if 0 ≤ value then .ok value.toNat
    else .error (.affiliationFormat (path ++ " must be a non-negative integer"))
  | _ => .error (.affiliationFormat (path ++ " must be a non-negative integer"))

/-- `GroupKind(text)`. -/
def GroupKind.parse (text : String) : Option GroupKind :=
  [GroupKind.party, .guild, .nation, .scenarioSide].find? (fun k => k.value = text)

/-- `Relation(text)`. -/
def Relation.parse (text : String) : Option Relation :=
  [Relation.self, .ally, .enemy, .neutral].find? (fun r => r.value = text)

def parseGroupKey (raw : Payload) (path : String) : Except Fault GroupKey := do
  let value ← parseObject raw path
  exactFields value ["kind", "group_id"] path
  let kindRaw ← parseString (field value "kind") (path ++ ".kind")
  match GroupKind.parse kindRaw.val with
  | none => .error (.affiliationFormat (path ++ ".kind is unknown: " ++ kindRaw.val))
  | some kind =>
    let groupId ← parseString (field value "group_id") (path ++ ".group_id")
    pure ⟨kind, groupId.val, groupId.property⟩

/-- `f"{name}[{index}]"`. -/
def indexed (name : String) (index : ℕ) : String := name ++ "[" ++ decimal index ++ "]"

def parseMembership (raw : Payload) (index : ℕ) : Except Fault GroupMembership := do
  let path := indexed "memberships" index
  let value ← parseObject raw path
  exactFields value ["entity_id", "group_key", "role"] path
  let role ← parseOptionalString (field value "role") (path ++ ".role")
  let entityId ← parseString (field value "entity_id") (path ++ ".entity_id")
  let groupKey ← parseGroupKey (field value "group_key") (path ++ ".group_key")
  pure ⟨entityId.val, groupKey, role.map Subtype.val, entityId.property, by
    intro r hr
    obtain ⟨s, _, rfl⟩ := Option.mem_map.mp hr
    exact s.property⟩

def parseOwnership (raw : Payload) (index : ℕ) : Except Fault OwnershipEdge := do
  let path := indexed "ownership_edges" index
  let value ← parseObject raw path
  exactFields value ["owner_id", "owned_id"] path
  let ownerId ← parseString (field value "owner_id") (path ++ ".owner_id")
  let ownedId ← parseString (field value "owned_id") (path ++ ".owned_id")
  if hne : ownerId.val ≠ ownedId.val then
    pure ⟨ownerId.val, ownedId.val, ownerId.property, ownedId.property, hne⟩
  else .error (.affiliationFormat "ownership edges cannot be self-referential")

def parseSubject (raw : Payload) (path : String) : Except Fault RelationSubject := do
  let value ← parseObject raw path
  exactFields value ["entity_id", "group_key"] path
  let entityId ← parseOptionalString (field value "entity_id") (path ++ ".entity_id")
  let groupKey ← match field value "group_key" with
    | .null => pure none
    | raw => (parseGroupKey raw (path ++ ".group_key")).map some
  match entityId, groupKey with
  | some entityId, none => pure (.entity entityId.val entityId.property)
  | none, some groupKey => pure (.group groupKey)
  | _, _ => .error (.affiliationFormat "exactly one of entity_id or group_key is required")

def parseOverride (raw : Payload) (index : ℕ) : Except Fault RelationOverride := do
  let path := indexed "relation_overrides" index
  let value ← parseObject raw path
  exactFields value ["left", "right", "relation", "symmetric"] path
  let relationRaw ← parseString (field value "relation") (path ++ ".relation")
  match Relation.parse relationRaw.val with
  | none => .error (.affiliationFormat (path ++ ".relation is unknown: " ++ relationRaw.val))
  | some relation =>
    match field value "symmetric" with
    | .bool symmetric =>
      let left ← parseSubject (field value "left") (path ++ ".left")
      let right ← parseSubject (field value "right") (path ++ ".right")
      if hends : left ≠ right then
        if hself : relation ≠ .self then pure ⟨left, right, relation, symmetric, hends, hself⟩
        else .error (.affiliationFormat "SELF cannot be assigned by a relation override")
      else .error (.affiliationFormat "relation override endpoints must differ")
    | _ => .error (.affiliationFormat (path ++ ".symmetric must be boolean"))

/-- Parse the members of an array, each with its index. -/
def parseEach {α : Type} (parse : Payload → ℕ → Except Fault α) :
    ℕ → List Payload → Except Fault (List α)
  | _, [] => .ok []
  | index, raw :: rest => do
    let value ← parse raw index
    let values ← parseEach parse (index + 1) rest
    pure (value :: values)

/-- The snapshot of a parsed input; what its constructor rejects is reported as a format
error with the same text. -/
def makeParsed (rt : Runtime) (input : AffiliationInput) : Except Fault (AffiliationSnapshot rt) :=
  match AffiliationSnapshot.make rt input with
  | .ok snapshot => .ok snapshot
  | .error fault => .error (.affiliationFormat (fault.str rt))

/-- `affiliation_snapshot_from_dict`. -/
def affiliationSnapshotFromDict (rt : Runtime) (raw : Payload) :
    Except Fault (AffiliationSnapshot rt) := do
  let payload ← parseObject raw "affiliation snapshot"
  exactFields payload
    ["schema_version", "revision", "memberships", "ownership_edges", "relation_overrides"]
    "affiliation snapshot"
  let version ← parseNatural (field payload "schema_version") "schema_version"
  require (version = schemaVersion)
    (.affiliationFormat "affiliation snapshot must use schema_version 1")
  let revision ← parseNatural (field payload "revision") "revision"
  let membershipsRaw ← parseArray (field payload "memberships") "memberships"
  let ownershipRaw ← parseArray (field payload "ownership_edges") "ownership_edges"
  let overridesRaw ← parseArray (field payload "relation_overrides") "relation_overrides"
  let memberships ← parseEach parseMembership 0 membershipsRaw
  let ownershipEdges ← parseEach parseOwnership 0 ownershipRaw
  let relationOverrides ← parseEach parseOverride 0 overridesRaw
  makeParsed rt
    { revision := revision, memberships := memberships, ownershipEdges := ownershipEdges,
      relationOverrides := relationOverrides }

end ShadowbaneLab
