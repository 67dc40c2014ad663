/-
# Round trips of affiliation snapshots

Encoding a snapshot and parsing the result yields the same snapshot with its lists sorted
and its symmetric overrides reoriented (`fromDict_toDict`).  Which override wins a tie may
depend on the stored orientation, so the derived facts survive the round trip exactly when
reorienting does not change whether a side/side override comes first (`OrientationStable`).
-/
import ShadowbaneLab.Sim.AffiliationIo

namespace ShadowbaneLab

open Foundation List

variable {rt : Runtime}

/-! ## Parsing what was encoded -/

variable (kind : GroupKind)

theorem GroupKind.parse_value : GroupKind.parse kind.value = some kind := by
  cases kind <;> decide

theorem Relation.parse_value (relation : Relation) :
    Relation.parse relation.value = some relation := by
  cases relation <;> decide

theorem GroupKind.value_injective : Function.Injective GroupKind.value := by
  intro a b h
  have := GroupKind.parse_value a
  rw [h, GroupKind.parse_value b] at this
  exact (Option.some.inj this).symm

theorem parseString_string {value : String} (h : Identifier value) (path : String) :
    parseString (.string value) path = .ok ⟨value, h⟩ := by
  rw [parseString, dif_pos h]

theorem parseOptionalString_optionalString {value : Option String}
    (h : ∀ v ∈ value, Identifier v) (path : String) :
    parseOptionalString (optionalString value) path = .ok (value.pmap (fun v hv => ⟨v, hv⟩) h) := by
  cases value with
  | none => rfl
  | some v =>
    rw [optionalString, parseOptionalString, parseString_string (h v rfl)]
    · rfl
    · intro hnull
      cases hnull

theorem identifier_groupKind_value : Identifier kind.value := by
  cases kind <;> decide

theorem identifier_relation_value (relation : Relation) : Identifier relation.value := by
  cases relation <;> decide

theorem exactFields_ok {fields : List (String × Payload)} {expected : List String}
    (h : fields.map Prod.fst = expected) (path : String) :
    exactFields fields expected path = .ok () := by
  subst h
  have hunknown : (fields.map Prod.fst).filter
      (fun name => name ∉ fields.map Prod.fst) = [] := by
    apply filter_eq_nil_iff.mpr
    intro name hname
    simpa using hname
  simp only [exactFields, hunknown, sortBy_nil, decide_true, require_true, ok_bind]

theorem parseGroupKey_payload (groupKey : GroupKey) (path : String) :
    parseGroupKey (groupKeyPayload groupKey) path = .ok groupKey := by
  simp [parseGroupKey, groupKeyPayload, parseObject, exactFields_ok, field, assocGet,
    parseString_string (identifier_groupKind_value groupKey.kind),
    parseString_string groupKey.groupId_ok, GroupKind.parse_value]

theorem parseMembership_payload (membership : GroupMembership) (index : ℕ) :
    parseMembership (membershipPayload membership) index = .ok membership := by
  obtain ⟨entityId, groupKey, role, hid, hrole⟩ := membership
  have hback : (role.pmap (fun v hv => (⟨v, hv⟩ : {s : String // Identifier s})) hrole).map
      Subtype.val = role := by
    cases role <;> rfl
  simp [parseMembership, membershipPayload, parseObject, exactFields_ok, field, assocGet,
    parseString_string hid, parseGroupKey_payload, parseOptionalString_optionalString hrole]
  exact hback

theorem parseOwnership_payload (edge : OwnershipEdge) (index : ℕ) :
    parseOwnership (ownershipPayload edge) index = .ok edge := by
  simp [parseOwnership, ownershipPayload, parseObject, exactFields_ok, field, assocGet,
    parseString_string edge.ownerId_ok, parseString_string edge.ownedId_ok, edge.distinct]

theorem parseSubject_payload (subject : RelationSubject) (path : String) :
    parseSubject (subjectPayload subject) path = .ok subject := by
  cases subject with
  | entity entityId hid =>
    have hparse : parseOptionalString (optionalString (some entityId)) (path ++ ".entity_id") =
        .ok (some ⟨entityId, hid⟩) :=
      parseOptionalString_optionalString (by simpa using hid) _
    simp [parseSubject, subjectPayload, parseObject, exactFields_ok, field, assocGet,
      RelationSubject.entityId?, RelationSubject.groupKey?, hparse]
  | group groupKey =>
    have hgroup := parseGroupKey_payload groupKey (path ++ ".group_key")
    simp [parseSubject, subjectPayload, parseObject, exactFields_ok, field, assocGet,
      RelationSubject.entityId?, RelationSubject.groupKey?, optionalString, parseOptionalString]
    rw [groupKeyPayload] at hgroup ⊢
    simp [hgroup, Except.map]

/-! ## Reorienting overrides -/

/-- The override as the encoder writes it: smaller endpoint first if symmetric. -/
def RelationOverride.canonical (override : RelationOverride) : RelationOverride :=
  if override.symmetric ∧ override.right.sortKey < override.left.sortKey then
    { override with
      left := override.right, right := override.left, endpoints_ne := override.endpoints_ne.symm }
  else override

namespace RelationOverride

variable (override : RelationOverride)

theorem canonical_subjects :
    (override.canonical.left, override.canonical.right) = canonicalOverrideSubjects override := by
  unfold canonical canonicalOverrideSubjects
  split <;> rfl

@[simp] theorem canonical_relation : override.canonical.relation = override.relation := by
  unfold canonical
  split <;> rfl

@[simp] theorem canonical_symmetric : override.canonical.symmetric = override.symmetric := by
  unfold canonical
  split <;> rfl

@[simp] theorem canonical_precedence : override.canonical.precedence = override.precedence := by
  unfold canonical precedence
  split
  · exact Nat.add_comm _ _
  · rfl

@[simp] theorem canonical_isBetweenGroupKind :
    override.canonical.isBetweenGroupKind kind = override.isBetweenGroupKind kind := by
  unfold canonical isBetweenGroupKind
  split
  · exact Bool.and_comm _ _
  · rfl

@[simp] theorem canonical_identityKey : override.canonical.identityKey = override.identityKey := by
  by_cases h : override.symmetric ∧ override.right.sortKey < override.left.sortKey
  · have hflip : ¬ (override.canonical.symmetric ∧
        override.canonical.right.sortKey < override.canonical.left.sortKey) := by
      rw [canonical, if_pos h]
      exact fun h' => absurd h'.2 (lt_asymm h.2)
    rw [identityKey, if_neg hflip, identityKey, if_pos h, canonical, if_pos h]
  · rw [canonical, if_neg h]

/-- A reoriented override applies to the same pairs. -/
@[simp] theorem canonical_applies (leftId rightId : String)
    (leftGroups rightGroups : Finset GroupKey) :
    override.canonical.applies leftId rightId leftGroups rightGroups =
      override.applies leftId rightId leftGroups rightGroups := by
  unfold canonical
  split
  · rename_i h
    simp only [applies, h.1]
    cases override.left.designates leftId leftGroups <;>
      cases override.right.designates rightId rightGroups <;>
      cases override.left.designates rightId rightGroups <;>
      cases override.right.designates leftId leftGroups <;> rfl
  · rfl

theorem parseOverride_payload (index : ℕ) :
    parseOverride (overridePayload override) index = .ok override.canonical := by
  have hsubjects := override.canonical_subjects
  have hleft : (canonicalOverrideSubjects override).1 = override.canonical.left := by
    rw [← hsubjects]
  have hright : (canonicalOverrideSubjects override).2 = override.canonical.right := by
    rw [← hsubjects]
  simp [parseOverride, overridePayload, parseObject, exactFields_ok, field, assocGet,
    parseString_string (identifier_relation_value override.relation), Relation.parse_value,
    parseSubject_payload, hleft, hright, override.canonical.endpoints_ne, override.relation_ok]
  exact RelationOverride.ext rfl rfl override.canonical_relation.symm
    override.canonical_symmetric.symm

end RelationOverride

open RelationOverride (selectionKey precedence relation identityKey)

theorem parseEach_map {α : Type} {parse : Payload → ℕ → Except Fault α} {payload : α → Payload}
    {image : α → α} (h : ∀ a index, parse (payload a) index = .ok (image a)) (l : List α)
    (index : ℕ) : parseEach parse index (l.map payload) = .ok (l.map image) := by
  induction l generalizing index with
  | nil => rfl
  | cons a l ih => simp [parseEach, h, ih]

/-! ## The parsed snapshot -/

/-- The input the encoder's output describes. -/
def AffiliationInput.canonical (input : AffiliationInput) : AffiliationInput where
  revision := input.revision
  memberships := sortBy membershipSortKey input.memberships
  ownershipEdges := sortBy ownershipSortKey input.ownershipEdges
  relationOverrides := (sortBy overrideSortKey input.relationOverrides).map
    RelationOverride.canonical

variable {leftId rightId : String}

variable {leftGroups rightGroups : Finset GroupKey}

namespace AffiliationInput

variable (input : AffiliationInput)

theorem canonical_memberships_perm : input.canonical.memberships.Perm input.memberships :=
  sortBy_perm _ _

theorem canonical_ownershipEdges_perm :
    input.canonical.ownershipEdges.Perm input.ownershipEdges :=
  sortBy_perm _ _

theorem canonical_relationOverrides_perm :
    input.canonical.relationOverrides.Perm
      (input.relationOverrides.map RelationOverride.canonical) :=
  (sortBy_perm _ _).map _

theorem canonical_entityIds : input.canonical.entityIds = input.entityIds := by
  unfold entityIds
  congr 1
  ext entityId
  have hswap : ∀ o : RelationOverride,
      entityId ∈ o.canonical.left.entityId?.toList ++ o.canonical.right.entityId?.toList ↔
        entityId ∈ o.left.entityId?.toList ++ o.right.entityId?.toList := by
    intro o
    unfold RelationOverride.canonical
    split
    · rw [mem_append, mem_append]
      exact or_comm
    · exact .rfl
  simp only [mem_toFinset, mem_append, mem_map, mem_flatMap]
  constructor
  · rintro ((⟨m, hm, rfl⟩ | ⟨e, he, h⟩) | ⟨o, ho, h⟩)
    · exact .inl (.inl ⟨m, input.canonical_memberships_perm.mem_iff.mp hm, rfl⟩)
    · exact .inl (.inr ⟨e, input.canonical_ownershipEdges_perm.mem_iff.mp he, h⟩)
    · obtain ⟨o', ho', rfl⟩ :=
        mem_map.mp (input.canonical_relationOverrides_perm.mem_iff.mp ho)
      exact .inr ⟨o', ho', mem_append.mp ((hswap o').mp (mem_append.mpr h))⟩
  · rintro ((⟨m, hm, rfl⟩ | ⟨e, he, h⟩) | ⟨o, ho, h⟩)
    · exact .inl (.inl ⟨m, input.canonical_memberships_perm.mem_iff.mpr hm, rfl⟩)
    · exact .inl (.inr ⟨e, input.canonical_ownershipEdges_perm.mem_iff.mpr he, h⟩)
    · refine .inr ⟨o.canonical, input.canonical_relationOverrides_perm.mem_iff.mpr
        (mem_map_of_mem ho), ?_⟩
      exact mem_append.mp ((hswap o).mpr (mem_append.mpr h))

theorem canonical_groupsOf (entityId : String) :
    input.canonical.groupsOf entityId = input.groupsOf entityId := by
  unfold groupsOf
  ext g
  simp only [mem_toFinset]
  exact ((input.canonical_memberships_perm.filter _).map _).mem_iff

/-- Owners are found in any listing of edges with distinct owned entities. -/
theorem canonical_ownerOf (h : (input.ownershipEdges.map OwnershipEdge.ownedId).Nodup)
    (entityId : String) : input.canonical.ownerOf entityId = input.ownerOf entityId := by
  have hperm := input.canonical_ownershipEdges_perm
  have hspec : ∀ l : List OwnershipEdge, (l.map OwnershipEdge.ownedId).Nodup → ∀ owner,
      (l.find? (fun e => e.ownedId = entityId)).map OwnershipEdge.ownerId = some owner ↔
        ∃ e ∈ l, e.ownedId = entityId ∧ e.ownerId = owner := by
    intro l
    induction l with
    | nil => simp
    | cons e l ih =>
      intro hnodup owner
      rw [map_cons, nodup_cons] at hnodup
      by_cases he : e.ownedId = entityId
      · have hout : ∀ e' ∈ l, e'.ownedId ≠ entityId := by
          intro e' he' heq
          exact hnodup.1 (mem_map.mpr ⟨e', he', heq.trans he.symm⟩)
        simp [he]
        exact fun e' he' heq => absurd heq (hout e' he')
      · simp [he, ih hnodup.2]
  ext owner
  show input.canonical.ownerOf entityId = some owner ↔ input.ownerOf entityId = some owner
  rw [ownerOf, ownerOf, hspec _ h, hspec _ ((hperm.map _).nodup_iff.mpr h)]
  constructor
  · rintro ⟨e, he, h⟩
    exact ⟨e, hperm.mem_iff.mp he, h⟩
  · rintro ⟨e, he, h⟩
    exact ⟨e, hperm.mem_iff.mpr he, h⟩

/-! ### Selecting among reoriented overrides -/

theorem maximumPrecedence_eq_of_perm {l₁ l₂ : List RelationOverride}
    (h : (l₁.map precedence).Perm (l₂.map precedence)) :
    maximumPrecedence l₁ = maximumPrecedence l₂ := by
  have hfold : ∀ l : List RelationOverride,
      maximumPrecedence l = (l.map precedence).foldl max 0 := by
    intro l
    rw [maximumPrecedence, foldl_map]
  rw [hfold, hfold]
  exact h.foldl_eq 0

/-- The strongest reoriented overrides are the strongest overrides, reoriented. -/
theorem strongest_canonical_perm (leftId rightId : String)
    (leftGroups rightGroups : Finset GroupKey) :
    (strongestOverrides input.canonical.relationOverrides leftId rightId leftGroups
      rightGroups).Perm
      ((strongestOverrides input.relationOverrides leftId rightId leftGroups rightGroups).map
        RelationOverride.canonical) := by
  have hmatching : (input.canonical.relationOverrides.filter
      (fun o => o.applies leftId rightId leftGroups rightGroups)).Perm
      ((input.relationOverrides.filter
        (fun o => o.applies leftId rightId leftGroups rightGroups)).map
          RelationOverride.canonical) := by
    refine (input.canonical_relationOverrides_perm.filter _).trans (.of_eq ?_)
    rw [filter_map]
    congr 1
    apply filter_congr
    intro o _
    exact o.canonical_applies leftId rightId leftGroups rightGroups
  have hmax : maximumPrecedence (input.canonical.relationOverrides.filter
      (fun o => o.applies leftId rightId leftGroups rightGroups)) =
      maximumPrecedence (input.relationOverrides.filter
        (fun o => o.applies leftId rightId leftGroups rightGroups)) := by
    apply maximumPrecedence_eq_of_perm
    refine (hmatching.map _).trans (.of_eq ?_)
    rw [map_map]
    apply map_congr_left
    intro o _
    exact o.canonical_precedence
  simp only [strongestOverrides, hmax]
  refine (hmatching.filter _).trans (.of_eq ?_)
  rw [filter_map]
  congr 1
  apply filter_congr
  intro o _
  simp

theorem relations_canonical (leftId rightId : String) (leftGroups rightGroups : Finset GroupKey) :
    ((strongestOverrides input.canonical.relationOverrides leftId rightId leftGroups
      rightGroups).map relation).toFinset =
      ((strongestOverrides input.relationOverrides leftId rightId leftGroups rightGroups).map
        relation).toFinset := by
  ext relation
  rw [mem_toFinset, mem_toFinset,
    ((input.strongest_canonical_perm leftId rightId leftGroups rightGroups).map _).mem_iff,
    map_map]
  simp

/-! ### The parsed input passes its checks -/

theorem checkIdentities_eq_ok (l seen : List RelationOverride) :
    checkIdentities seen l = .ok () ↔ (l.map identityKey).Nodup ∧
        ∀ o ∈ l, ∀ o' ∈ seen, o'.identityKey ≠ o.identityKey := by
  induction l generalizing seen with
  | nil => simp [checkIdentities]
  | cons o l ih =>
    rw [checkIdentities]
    cases hfind : seen.find? (fun o' => o'.identityKey = o.identityKey) with
    | some existing =>
      have hmem := mem_of_find?_eq_some hfind
      have heq : existing.identityKey = o.identityKey := by
        simpa using List.find?_some hfind
      constructor
      · intro h
        dsimp only at h
        split at h <;> cases h
      · rintro ⟨_, h⟩
        exact absurd heq (h o (by simp) existing hmem)
    | none =>
      have hnone : ∀ o' ∈ seen, o'.identityKey ≠ o.identityKey := by
        simpa using hfind
      dsimp only
      rw [ih, map_cons, nodup_cons]
      constructor
      · rintro ⟨hnodup, hseen⟩
        refine ⟨⟨?_, hnodup⟩, ?_⟩
        · intro hmem
          obtain ⟨o', ho', heq⟩ := mem_map.mp hmem
          exact hseen o' ho' o (by simp) heq.symm
        · intro o' ho' o'' ho''
          rcases mem_cons.mp ho' with rfl | ho'
          · exact hnone o'' ho''
          · exact hseen o' ho' o'' (by simp [ho''])
      · rintro ⟨⟨hfresh, hnodup⟩, hseen⟩
        refine ⟨hnodup, ?_⟩
        intro o' ho' o'' ho''
        rcases mem_cons.mp ho'' with rfl | ho''
        · exact fun heq => hfresh (mem_map.mpr ⟨o', ho', heq.symm⟩)
        · exact hseen o' (by simp [ho']) o'' ho''

theorem checkConflicts_eq_ok (pairs : List (String × String)) :
    checkConflicts rt input pairs = .ok () ↔ ∀ pair ∈ pairs,
      ∃ o, selectOverride rt input.relationOverrides pair.1 pair.2 (input.groupsOf pair.1)
        (input.groupsOf pair.2) = .ok o := by
  induction pairs with
  | nil => simp [checkConflicts]
  | cons pair pairs ih =>
    obtain ⟨left, right⟩ := pair
    simp only [checkConflicts, bind_eq_ok, ih, forall_mem_cons]
    constructor
    · rintro ⟨o, ho, hrest⟩
      exact ⟨⟨o, ho⟩, hrest⟩
    · rintro ⟨⟨o, ho⟩, hrest⟩
      exact ⟨o, ho, hrest⟩

theorem selectOverride_canonical_ok {o : Option RelationOverride}
    (h : selectOverride rt input.relationOverrides leftId rightId leftGroups rightGroups = .ok o) :
    ∃ o', selectOverride rt input.canonical.relationOverrides leftId rightId leftGroups
      rightGroups = .ok o' := by
  simp only [selectOverride, relations_canonical] at h ⊢
  split at h
  · cases h
  · rename_i hcard
    rw [if_neg hcard]
    exact ⟨_, rfl⟩

theorem walksInCycle_canonical (h : (input.ownershipEdges.map OwnershipEdge.ownedId).Nodup)
    (fuel : ℕ) (visited : List String) (current : String) :
    input.canonical.walksInCycle fuel visited current =
      input.walksInCycle fuel visited current := by
  induction fuel generalizing visited current with
  | zero => rfl
  | succ fuel ih =>
    simp only [walksInCycle, input.canonical_ownerOf h, ih]

theorem check_canonical (h : input.check rt = .ok ()) : input.canonical.check rt = .ok () := by
  simp only [check, check_bind_eq_ok, require_eq_ok, checkIdentities_eq_ok,
    checkConflicts_eq_ok, decide_eq_true_eq] at h ⊢
  obtain ⟨hkeys, hkinds, hedges, howned, hcycle, hident, hconflicts⟩ := h
  have hmemberships := input.canonical_memberships_perm
  have hownership := input.canonical_ownershipEdges_perm
  refine ⟨(hmemberships.map _).nodup_iff.mpr hkeys, (hmemberships.map _).nodup_iff.mpr hkinds,
    hownership.nodup_iff.mpr hedges, (hownership.map _).nodup_iff.mpr howned, ?_,
    ⟨?_, by simp⟩, ?_⟩
  · rw [← hcycle, hownership.length_eq]
    congr 1
    rw [Bool.eq_iff_iff, any_eq_true, any_eq_true]
    simp only [input.walksInCycle_canonical howned, hownership.mem_iff]
  · rw [(input.canonical_relationOverrides_perm.map _).nodup_iff, map_map]
    have hcongr : identityKey ∘ RelationOverride.canonical =
        identityKey := funext RelationOverride.canonical_identityKey
    rw [hcongr]
    exact hident.1
  · have hpairs : input.canonical.entityPairs = input.entityPairs := by
      unfold entityPairs
      rw [canonical_entityIds]
    rw [hpairs]
    intro pair hpair
    obtain ⟨o, ho⟩ := hconflicts pair hpair
    rw [canonical_groupsOf, canonical_groupsOf]
    exact input.selectOverride_canonical_ok ho

end AffiliationInput

/-- The snapshot with its lists sorted and its symmetric overrides reoriented. -/
def AffiliationSnapshot.canonical (snapshot : AffiliationSnapshot rt) : AffiliationSnapshot rt :=
  ⟨snapshot.toAffiliationInput.canonical,
    snapshot.toAffiliationInput.check_canonical snapshot.check_ok⟩

variable (snapshot : AffiliationSnapshot rt)

theorem AffiliationSnapshot.make_canonical :
    AffiliationSnapshot.make rt snapshot.toAffiliationInput.canonical = .ok snapshot.canonical := by
  unfold AffiliationSnapshot.make
  split
  · rfl
  · rename_i fault h
    rw [snapshot.toAffiliationInput.check_canonical snapshot.check_ok] at h
    cases h

/-- What the parser makes of the fields the encoder writes. -/
theorem fromDict_object (revision : ℕ) (memberships : List GroupMembership)
    (ownershipEdges : List OwnershipEdge) (overrides : List RelationOverride) :
    affiliationSnapshotFromDict rt
      (.object [("schema_version", .integer schemaVersion), ("revision", .integer revision),
        ("memberships", .array (memberships.map membershipPayload)),
        ("ownership_edges", .array (ownershipEdges.map ownershipPayload)),
        ("relation_overrides", .array (overrides.map overridePayload))]) = makeParsed rt
        { revision := revision, memberships := memberships, ownershipEdges := ownershipEdges,
          relationOverrides := overrides.map RelationOverride.canonical } := by
  have hmemberships : parseEach parseMembership 0 (memberships.map membershipPayload) =
      .ok memberships :=
    (parseEach_map parseMembership_payload memberships 0).trans (by rw [map_id'])
  have hownership : parseEach parseOwnership 0 (ownershipEdges.map ownershipPayload) =
      .ok ownershipEdges :=
    (parseEach_map parseOwnership_payload ownershipEdges 0).trans (by rw [map_id'])
  have hoverrides := parseEach_map RelationOverride.parseOverride_payload overrides 0
  generalize hfields : [("schema_version", Payload.integer schemaVersion), _, _, _, _] = fields
  have hnames : fields.map Prod.fst = ["schema_version", "revision", "memberships",
      "ownership_edges", "relation_overrides"] := by rw [← hfields]; rfl
  have hversion : field fields "schema_version" = .integer schemaVersion := by
    rw [← hfields]; rfl
  have hrevision : field fields "revision" = .integer revision := by
    rw [← hfields]; simp [field, assocGet]
  have hfirst : field fields "memberships" = .array (memberships.map membershipPayload) := by
    rw [← hfields]; simp [field, assocGet]
  have hsecond : field fields "ownership_edges" =
      .array (ownershipEdges.map ownershipPayload) := by
    rw [← hfields]; simp [field, assocGet]
  have hthird : field fields "relation_overrides" =
      .array (overrides.map overridePayload) := by
    rw [← hfields]; simp [field, assocGet]
  have hnat : ∀ (n : ℕ) path, parseNatural (.integer n) path = .ok n := by
    intro n path
    rw [parseNatural, if_pos (Int.natCast_nonneg n), Int.toNat_natCast]
  rw [affiliationSnapshotFromDict, parseObject, ok_bind, exactFields_ok hnames, ok_bind, hversion,
    hnat, ok_bind, decide_eq_true rfl, require_true, ok_bind, hrevision, hnat, ok_bind, hfirst,
    hsecond, hthird, parseArray, ok_bind, parseArray, ok_bind, parseArray, ok_bind, hmemberships,
    ok_bind, hownership, ok_bind, hoverrides, ok_bind]

/-- **The parser accepts every encoded snapshot and returns its canonical form.** -/
theorem fromDict_toDict :
    affiliationSnapshotFromDict rt (affiliationSnapshotToDict snapshot) = .ok snapshot.canonical := by
  have hmake := snapshot.make_canonical
  unfold AffiliationInput.canonical at hmake
  rw [affiliationSnapshotToDict, fromDict_object, makeParsed, hmake]

/-! ## Facts after a round trip -/

/-- Some side/side override precedes every other kind of override. -/
def SideFirst {κ : Type} [LinearOrder κ] (key : RelationOverride → κ)
    (overrides : List RelationOverride) : Prop :=
  ∃ o ∈ overrides, o.isBetweenGroupKind .scenarioSide = true ∧
    ∀ o' ∈ overrides, o'.isBetweenGroupKind .scenarioSide = false → key o < key o'

/-- The tie-break after reorienting symmetric overrides. -/
def RelationOverride.canonicalKey (override : RelationOverride) :
    SubjectKey ×ₗ SubjectKey ×ₗ Bool :=
  override.canonical.selectionKey

/-- The strongest overrides between two entities of a snapshot. -/
def AffiliationSnapshot.strongest (snapshot : AffiliationSnapshot rt) (leftId rightId : String) :
    List RelationOverride :=
  strongestOverrides snapshot.relationOverrides leftId rightId (snapshot.groupsOf leftId)
    (snapshot.groupsOf rightId)

/-- Wherever hostile overrides tie, a side/side one comes first in the stored orientation
exactly if one does after symmetric overrides are reoriented. -/
def OrientationStable (snapshot : AffiliationSnapshot rt) : Prop :=
  ∀ leftId rightId, Identifier leftId → Identifier rightId → leftId ≠ rightId →
    (∀ o ∈ snapshot.strongest leftId rightId, o.relation = .enemy) →
    (SideFirst selectionKey (snapshot.strongest leftId rightId) ↔
      SideFirst RelationOverride.canonicalKey (snapshot.strongest leftId rightId))

theorem RelationSubject.sortKey_injective : Function.Injective RelationSubject.sortKey := by
  intro a b h
  cases a with
  | entity a ha =>
    cases b with
    | entity b hb =>
      have : a = b := congrArg (fun k : SubjectKey => (ofLex (ofLex k).2).2) h
      subst this
      rfl
    | group g =>
      have : ("entity" : String) = "group" := congrArg (fun k : SubjectKey => (ofLex k).1) h
      exact absurd this (by decide)
  | group g =>
    cases b with
    | entity b hb =>
      have : ("group" : String) = "entity" := congrArg (fun k : SubjectKey => (ofLex k).1) h
      exact absurd this (by decide)
    | group g' =>
      have hkind : g.kind = g'.kind :=
        GroupKind.value_injective (congrArg (fun k : SubjectKey => (ofLex (ofLex k).2).1) h)
      have hid : g.groupId = g'.groupId := congrArg (fun k : SubjectKey => (ofLex (ofLex k).2).2) h
      obtain ⟨kind, groupId, hg⟩ := g
      obtain ⟨kind', groupId', hg'⟩ := g'
      obtain rfl : kind = kind' := hkind
      obtain rfl : groupId = groupId' := hid
      rfl

variable {o o' : RelationOverride}

/-- Overrides with the same stored endpoints relate the same kinds of groups. -/
theorem RelationOverride.isBetween_of_selectionKey_eq (h : o.selectionKey = o'.selectionKey) :
    o.isBetweenGroupKind kind = o'.isBetweenGroupKind kind := by
  have hleft : o.left = o'.left := RelationSubject.sortKey_injective
    (congrArg (fun k : SubjectKey ×ₗ SubjectKey ×ₗ Bool => (ofLex k).1) h)
  have hright : o.right = o'.right := RelationSubject.sortKey_injective
    (congrArg (fun k : SubjectKey ×ₗ SubjectKey ×ₗ Bool => (ofLex (ofLex k).2).1) h)
  rw [isBetweenGroupKind, isBetweenGroupKind, hleft, hright]

variable {l : List RelationOverride}

/-- The first override by a key is a side/side one exactly if some side/side override
precedes every other kind. -/
theorem head_isBetween_iff {key : RelationOverride → SubjectKey ×ₗ SubjectKey ×ₗ Bool}
    (hkey : ∀ o o', key o = key o' →
      o.isBetweenGroupKind .scenarioSide = o'.isBetweenGroupKind .scenarioSide)
    {first : RelationOverride} (hfirst : (sortBy key l).head? = some first) :
    first.isBetweenGroupKind .scenarioSide = true ↔ SideFirst key l := by
  obtain ⟨rest, hsorted⟩ := List.head?_eq_some_iff.mp hfirst
  have hmem : first ∈ l := (mem_sortBy key).mp (by rw [hsorted]; simp)
  have hleast : ∀ o ∈ l, key first ≤ key o := by
    intro o ho
    have hpair := pairwise_sortBy key l
    rw [hsorted, pairwise_cons] at hpair
    have ho' : o ∈ first :: rest := by rw [← hsorted]; exact (mem_sortBy key).mpr ho
    rcases mem_cons.mp ho' with rfl | ho'
    · exact le_refl _
    · exact hpair.1 o ho'
  constructor
  · intro hside
    refine ⟨first, hmem, hside, fun o ho hother => lt_of_le_of_ne (hleast o ho) ?_⟩
    intro heq
    rw [hkey first o heq, hother] at hside
    cases hside
  · rintro ⟨o, ho, hside, hbefore⟩
    by_contra hother
    exact absurd (hbefore first hmem (by simpa using hother)) (not_lt.mpr (hleast o ho))

/-- The one fact that depends on which of several tied overrides was selected. -/
def opposing (override : Option RelationOverride) : Bool :=
  override.any (fun o => o.relation = .enemy && o.isBetweenGroupKind .scenarioSide)

namespace AffiliationSnapshot

variable (snapshot : AffiliationSnapshot rt)

theorem nodup_ownedIds : (snapshot.ownershipEdges.map OwnershipEdge.ownedId).Nodup := by
  have h := snapshot.check_ok
  simp only [AffiliationInput.check, check_bind_eq_ok, require_eq_ok, decide_eq_true_eq] at h
  exact h.2.2.2.1

theorem canonical_ancestors (entityId : String) :
    snapshot.canonical.ancestors entityId = snapshot.ancestors entityId := by
  have hlength : snapshot.canonical.ownershipEdges.length = snapshot.ownershipEdges.length :=
    snapshot.toAffiliationInput.canonical_ownershipEdges_perm.length_eq
  rw [AffiliationInput.ancestors, AffiliationInput.ancestors, hlength]
  generalize snapshot.ownershipEdges.length = fuel
  induction fuel generalizing entityId with
  | zero => rfl
  | succ fuel ih =>
    have howner : snapshot.canonical.ownerOf entityId = snapshot.ownerOf entityId :=
      snapshot.toAffiliationInput.canonical_ownerOf snapshot.nodup_ownedIds entityId
    simp only [AffiliationInput.ancestorChain, howner, ih]

/-- Facts derived from overrides with the same relation and precedence differ at most in
the opposing-side channel. -/
theorem factsWith_canonical_iff (leftId rightId : String) {o o' : Option RelationOverride}
    (hrelation : o'.map relation = o.map relation)
    (hprecedence : o'.map precedence = o.map precedence) :
    snapshot.canonical.factsWith leftId rightId o' = snapshot.factsWith leftId rightId o ↔
      opposing o' = opposing o := by
  have hneutral : ∀ o : Option RelationOverride, o.any (fun o => decide (o.relation = .neutral)) =
      (o.map relation).any (fun r => decide (r = .neutral)) := by
    intro o
    cases o <;> rfl
  have hgroups : ∀ id, snapshot.canonical.groupsOf id = snapshot.groupsOf id :=
    snapshot.toAffiliationInput.canonical_groupsOf
  have howner : ∀ id, snapshot.canonical.ownerOf id = snapshot.ownerOf id :=
    snapshot.toAffiliationInput.canonical_ownerOf snapshot.nodup_ownedIds
  simp only [AffiliationInput.factsWith, AffiliationInput.ownershipRoot, hgroups, howner,
    canonical_ancestors, hneutral, hrelation, hprecedence, opposing, RelationFacts.mk.injEq,
    and_true, true_and]
  exact and_iff_left (decide_eq_decide.mpr .rfl)

theorem strongest_canonical_perm' (leftId rightId : String) :
    (snapshot.canonical.strongest leftId rightId).Perm
      ((snapshot.strongest leftId rightId).map RelationOverride.canonical) := by
  have hgroups : ∀ id, snapshot.canonical.groupsOf id = snapshot.groupsOf id :=
    snapshot.toAffiliationInput.canonical_groupsOf
  rw [strongest, strongest, hgroups, hgroups]
  exact snapshot.toAffiliationInput.strongest_canonical_perm _ _ _ _

end AffiliationSnapshot

/-- All the strongest overrides have the precedence of any of them. -/
theorem precedence_of_mem_strongest {overrides : List RelationOverride}
    (h : o ∈ strongestOverrides overrides leftId rightId leftGroups rightGroups)
    (h' : o' ∈ strongestOverrides overrides leftId rightId leftGroups rightGroups) :
    o.precedence = o'.precedence := by
  simp only [strongestOverrides, mem_filter, decide_eq_true_eq] at h h'
  rw [h.2, h'.2]

/-- Overrides whose relations form at most one value all have the same relation. -/
theorem relation_eq_of_card_le_one (h : ¬ 1 < (l.map relation).toFinset.card) (ho : o ∈ l)
    (ho' : o' ∈ l) : o.relation = o'.relation := by
  apply Finset.card_le_one.mp (not_lt.mp h)
  · exact mem_toFinset.mpr (mem_map_of_mem ho)
  · exact mem_toFinset.mpr (mem_map_of_mem ho')

/-- A reoriented list is side-first in the stored order exactly if the original list is
side-first in the canonical order. -/
theorem sideFirst_of_perm_map_canonical {l l' : List RelationOverride}
    (h : l'.Perm (l.map RelationOverride.canonical)) :
    SideFirst selectionKey l' ↔ SideFirst RelationOverride.canonicalKey l := by
  simp only [SideFirst, h.mem_iff, mem_map, exists_exists_and_eq_and, forall_exists_index,
    and_imp, forall_apply_eq_imp_iff₂, RelationOverride.canonical_isBetweenGroupKind,
    RelationOverride.canonicalKey]

theorem factsBetween_of_ne (hleft : Identifier leftId) (hright : Identifier rightId)
    (hne : leftId ≠ rightId) :
    snapshot.factsBetween leftId rightId =
      if 1 < ((snapshot.strongest leftId rightId).map relation).toFinset.card then
        .error (.affiliationConflict ("equally specific relation overrides disagree for " ++
          rt.repr leftId ++ " and " ++ rt.repr rightId))
      else .ok (snapshot.factsWith leftId rightId
        (sortBy selectionKey (snapshot.strongest leftId rightId)).head?) := by
  have hleft' : nonblank leftId = true := hleft
  have hright' : nonblank rightId = true := hright
  have hselect : snapshot.overrideBetween leftId rightId =
      if 1 < ((snapshot.strongest leftId rightId).map relation).toFinset.card then
        .error (.affiliationConflict ("equally specific relation overrides disagree for " ++
          rt.repr leftId ++ " and " ++ rt.repr rightId))
      else .ok (sortBy selectionKey
        (snapshot.strongest leftId rightId)).head? := by
    rw [AffiliationSnapshot.overrideBetween, if_pos hne]
    rfl
  simp only [AffiliationSnapshot.factsBetween, hleft', hright', require_true, ok_bind, hselect]
  by_cases hcard : 1 <
      ((snapshot.strongest leftId rightId).map relation).toFinset.card
  · rw [if_pos hcard, if_pos hcard, error_bind]
  · rw [if_neg hcard, if_neg hcard, ok_bind, pure_eq_ok]

/-- From an entity to itself no override is consulted. -/
theorem factsBetween_self (entityId : String) :
    snapshot.canonical.factsBetween entityId entityId = snapshot.factsBetween entityId entityId := by
  have hfacts : snapshot.canonical.factsWith entityId entityId none =
      snapshot.factsWith entityId entityId none :=
    (snapshot.factsWith_canonical_iff entityId entityId rfl rfl).mpr rfl
  simp only [AffiliationSnapshot.factsBetween, AffiliationSnapshot.overrideBetween, ne_eq,
    not_true_eq_false, if_false, ok_bind, hfacts]

/-- **What a round trip keeps of one pair's facts.** -/
theorem factsBetween_canonical_iff (hleft : Identifier leftId) (hright : Identifier rightId)
    (hne : leftId ≠ rightId) :
    snapshot.canonical.factsBetween leftId rightId = snapshot.factsBetween leftId rightId ↔
      ((∀ o ∈ snapshot.strongest leftId rightId, o.relation = .enemy) →
        (SideFirst selectionKey (snapshot.strongest leftId rightId) ↔
          SideFirst RelationOverride.canonicalKey (snapshot.strongest leftId rightId))) := by
  have hperm := snapshot.strongest_canonical_perm' leftId rightId
  have hcards : ((snapshot.canonical.strongest leftId rightId).map
      relation).toFinset =
      ((snapshot.strongest leftId rightId).map relation).toFinset := by
    ext relation
    rw [mem_toFinset, mem_toFinset, (hperm.map _).mem_iff, map_map]
    simp
  rw [factsBetween_of_ne snapshot.canonical hleft hright hne,
    factsBetween_of_ne snapshot hleft hright hne, hcards,
    ← sideFirst_of_perm_map_canonical hperm]
  by_cases hcard : 1 <
      ((snapshot.strongest leftId rightId).map relation).toFinset.card
  · -- Conflicting ties raise the same error before and after.
    rw [if_pos hcard, if_pos hcard]
    refine iff_of_true rfl (fun hall => absurd hcard (not_lt.mpr (Finset.card_le_one.mpr ?_)))
    intro r hr r' hr'
    obtain ⟨o, ho, rfl⟩ := mem_map.mp (mem_toFinset.mp hr)
    obtain ⟨o', ho', rfl⟩ := mem_map.mp (mem_toFinset.mp hr')
    rw [hall o ho, hall o' ho']
  rw [if_neg hcard, if_neg hcard, Except.ok.injEq]
  cases hfirst : (sortBy selectionKey (snapshot.strongest leftId rightId)).head? with
  | none =>
    have hnil : snapshot.strongest leftId rightId = [] := by
      simpa [← length_eq_zero_iff] using hfirst
    have hnil' : snapshot.canonical.strongest leftId rightId = [] := by
      simpa [hnil] using hperm
    rw [hnil', hnil, sortBy_nil, List.head?_nil, snapshot.factsWith_canonical_iff _ _ rfl rfl]
    simp [SideFirst]
  | some first =>
    have hmem : first ∈ snapshot.strongest leftId rightId :=
      (mem_sortBy _).mp (mem_of_head? hfirst)
    cases hfirst' : (sortBy selectionKey
        (snapshot.canonical.strongest leftId rightId)).head? with
    | none =>
      have hnil' : snapshot.canonical.strongest leftId rightId = [] := by
        simpa [← length_eq_zero_iff] using hfirst'
      rw [hnil'] at hperm
      have hnil := map_eq_nil_iff.mp hperm.symm.eq_nil
      rw [hnil] at hmem
      cases hmem
    | some first' =>
      have hmem' : first' ∈ snapshot.canonical.strongest leftId rightId :=
        (mem_sortBy _).mp (mem_of_head? hfirst')
      obtain ⟨origin, horigin, rfl⟩ := mem_map.mp (hperm.mem_iff.mp hmem')
      have hrelation : origin.relation = first.relation :=
        relation_eq_of_card_le_one hcard horigin hmem
      have hprecedence : origin.precedence = first.precedence :=
        precedence_of_mem_strongest horigin hmem
      rw [snapshot.factsWith_canonical_iff _ _ (by simp [hrelation]) (by simp [hprecedence])]
      have hhead := head_isBetween_iff
        (fun o o' h => RelationOverride.isBetween_of_selectionKey_eq .scenarioSide h) hfirst
      have hhead' := head_isBetween_iff
        (fun o o' h => RelationOverride.isBetween_of_selectionKey_eq .scenarioSide h) hfirst'
      rw [← hhead, ← hhead']
      by_cases hhostile : first.relation = .enemy
      · have hall : ∀ o ∈ snapshot.strongest leftId rightId, o.relation = .enemy := fun o ho =>
          (relation_eq_of_card_le_one hcard ho hmem).trans hhostile
        simp only [opposing, Option.any_some, RelationOverride.canonical_relation, hrelation,
          hhostile, decide_true, Bool.true_and]
        rw [Bool.eq_iff_iff]
        exact ⟨fun h _ => h.symm, fun h => (h hall).symm⟩
      · have hnot : ¬ ∀ o ∈ snapshot.strongest leftId rightId, o.relation = .enemy :=
          fun hall => hhostile (hall first hmem)
        simp [opposing, hrelation, hhostile, hnot]

/-- **Facts survive the round trip exactly for orientation-stable snapshots**, and two such
snapshots with the same canonical form have the same facts. -/
theorem facts_roundTrip_iff_orientationStable (snapshot : AffiliationSnapshot rt) :
    ((∀ leftId rightId,
        (affiliationSnapshotFromDict rt (affiliationSnapshotToDict snapshot) >>=
          fun parsed => parsed.factsBetween leftId rightId) =
          snapshot.factsBetween leftId rightId) ↔ OrientationStable snapshot) ∧
      ∀ other : AffiliationSnapshot rt,
        affiliationSnapshotToDict other = affiliationSnapshotToDict snapshot →
        OrientationStable snapshot → OrientationStable other →
        ∀ leftId rightId,
          other.factsBetween leftId rightId = snapshot.factsBetween leftId rightId := by
  have hiff : ∀ s : AffiliationSnapshot rt,
      (∀ leftId rightId, s.canonical.factsBetween leftId rightId =
        s.factsBetween leftId rightId) ↔ OrientationStable s := by
    intro s
    constructor
    · intro h leftId rightId hleft hright hne
      exact (factsBetween_canonical_iff s hleft hright hne).mp (h leftId rightId)
    · intro h leftId rightId
      by_cases hne : leftId = rightId
      · subst hne
        exact factsBetween_self s leftId
      by_cases hleft : Identifier leftId
      · by_cases hright : Identifier rightId
        · exact (factsBetween_canonical_iff s hleft hright hne).mpr (h leftId rightId hleft hright hne)
        · have hblank : nonblank rightId = false := by simpa [Identifier] using hright
          simp [AffiliationSnapshot.factsBetween, hblank, require]
      · have hblank : nonblank leftId = false := by simpa [Identifier] using hleft
        simp [AffiliationSnapshot.factsBetween, hblank, require]
  refine ⟨?_, ?_⟩
  · rw [← hiff snapshot]
    simp only [fromDict_toDict, ok_bind]
  · intro other hdict hstable hstable' leftId rightId
    have hcanonical : other.canonical = snapshot.canonical := by
      have hparsed := fromDict_toDict other
      rw [hdict, fromDict_toDict snapshot] at hparsed
      exact (Except.ok.inj hparsed).symm
    rw [← (hiff snapshot).mpr hstable, ← (hiff other).mpr hstable', hcanonical]

/-! ### A snapshot whose facts change -/

/-- Two sides at war, and a side at war with the guild of an entity of the other side; the
second override is stored with the side on its left. -/
def crossedInput : AffiliationInput where
  memberships :=
    [⟨"e1", ⟨.scenarioSide, "a", by decide⟩, none, by decide, identifier_of_mem_none⟩,
      ⟨"e1", ⟨.guild, "g", by decide⟩, none, by decide, identifier_of_mem_none⟩,
      ⟨"e2", ⟨.scenarioSide, "b", by decide⟩, none, by decide, identifier_of_mem_none⟩]
  relationOverrides :=
    [⟨.group ⟨.scenarioSide, "a", by decide⟩, .group ⟨.scenarioSide, "b", by decide⟩, .enemy, true,
        by decide, by decide⟩,
      ⟨.group ⟨.scenarioSide, "b", by decide⟩, .group ⟨.guild, "g", by decide⟩, .enemy, true,
        by decide, by decide⟩]

def crossedSnapshot : AffiliationSnapshot Runtime.sample := ⟨crossedInput, by decide +kernel⟩

/-- The opposing-side fact of the two entities is lost by the round trip. -/
theorem crossed_facts_change :
    (crossedSnapshot.factsBetween "e1" "e2").map RelationFacts.opposingScenarioSide = .ok true ∧
      (affiliationSnapshotFromDict Runtime.sample (affiliationSnapshotToDict crossedSnapshot) >>=
        fun parsed => parsed.factsBetween "e1" "e2").map RelationFacts.opposingScenarioSide =
        .ok false := by
  constructor
  · decide +kernel
  · rw [fromDict_toDict]
    decide +kernel

end ShadowbaneLab
