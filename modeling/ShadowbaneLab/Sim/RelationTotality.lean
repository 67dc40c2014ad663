/-
# Relations of every two entities

The constructor of an affiliation snapshot accepts ownership exactly when every entity has at most
one owner and none owns itself in the end, so the chain of owners that the resolver walks ends; and
the overrides it checked for known pairs decide every pair (`relations_total`).
-/
import ShadowbaneLab.Foundation.Following
import ShadowbaneLab.Sim.AffiliationRoundTrip

namespace ShadowbaneLab

open Foundation

namespace AffiliationInput

variable {rt : Runtime} (input : AffiliationInput)

/-! ## Ownership -/

/-- The part of the constructor that validates ownership. -/
def ownershipCheck : Except Fault Unit := do
  require input.ownershipEdges.Nodup
    (.affiliationConfiguration "ownership_edges must not contain duplicates")
  require (input.ownershipEdges.map OwnershipEdge.ownedId).Nodup
    (.affiliationConfiguration "an owned entity cannot have multiple direct owners")
  require (!input.ownershipEdges.any (fun e =>
      input.walksInCycle (input.ownershipEdges.length + 1) [] e.ownedId))
    (.affiliationConfiguration "ownership graph contains a cycle")

theorem check_eq : input.check rt = (do
    require (input.memberships.map (fun m => (m.entityId, m.groupKey))).Nodup
      (.affiliationConfiguration "memberships must not contain duplicates")
    require (input.memberships.map (fun m => (m.entityId, m.groupKey.kind))).Nodup
      (.affiliationConfiguration "an entity cannot belong to multiple groups of the same kind")
    input.ownershipCheck
    checkIdentities [] input.relationOverrides
    checkConflicts rt input input.entityPairs) := by
  simp only [check, ownershipCheck, bind_assoc]

/-- An entity has an owner. -/
def Owned (ownedId ownerId : String) : Prop :=
  ∃ e ∈ input.ownershipEdges, e.ownedId = ownedId ∧ e.ownerId = ownerId

/-- Every entity has at most one owner, and ownership has no cycle. -/
structure Forest : Prop where
  single : ∀ ownedId ownerId ownerId', input.Owned ownedId ownerId → input.Owned ownedId ownerId' →
    ownerId = ownerId'
  acyclic : ∀ entityId, ¬Relation.TransGen input.Owned entityId entityId

variable {input}

variable {ownedId ownerId : String}

theorem owned_of_ownerOf (h : input.ownerOf ownedId = some ownerId) :
    input.Owned ownedId ownerId := by
  obtain ⟨e, hfind, rfl⟩ := Option.map_eq_some_iff.1 h
  exact ⟨e, List.mem_of_find?_eq_some hfind, by simpa using List.find?_some hfind, rfl⟩

/-- Where no entity has two owners, the owner found is the owner. -/
theorem ownerOf_eq_some_iff (hnodup : (input.ownershipEdges.map OwnershipEdge.ownedId).Nodup) :
    input.ownerOf ownedId = some ownerId ↔ input.Owned ownedId ownerId := by
  constructor
  · exact owned_of_ownerOf
  · rintro ⟨e, he, rfl, rfl⟩
    cases hfind : input.ownershipEdges.find? (fun e' => e'.ownedId = e.ownedId) with
    | none =>
      have hnone := List.find?_eq_none.1 hfind e he
      simp at hnone
    | some e' =>
      have hsame : e'.ownedId = e.ownedId := by simpa using List.find?_some hfind
      have heq := List.inj_on_of_nodup_map hnodup (List.mem_of_find?_eq_some hfind) he hsame
      rw [ownerOf, hfind, heq]
      rfl

theorem walksInCycle_eq (fuel : ℕ) (visited : List String) (current : String) :
    input.walksInCycle fuel visited current = revisits input.ownerOf fuel visited current := by
  induction fuel generalizing visited current with
  | zero => rfl
  | succ fuel ih =>
    rw [walksInCycle, revisits]
    cases input.ownerOf current with
    | none => rfl
    | some owner =>
      dsimp only
      rw [ih]

theorem ancestorChain_eq (fuel : ℕ) (entityId : String) :
    input.ancestorChain fuel entityId = follow input.ownerOf fuel entityId := by
  induction fuel generalizing entityId with
  | zero => rfl
  | succ fuel ih =>
    rw [ancestorChain, follow]
    cases input.ownerOf entityId with
    | none => rfl
    | some owner =>
      dsimp only
      rw [ih]

theorem mem_ownedIds (h : input.ownerOf ownedId = some ownerId) :
    ownedId ∈ input.ownershipEdges.map OwnershipEdge.ownedId := by
  obtain ⟨e, he, rfl, -⟩ := owned_of_ownerOf h
  exact List.mem_map_of_mem he

/-- An accepted ownership has a trail of owners from every entity. -/
theorem trail_of_ownershipCheck (h : input.ownershipCheck = .ok ()) (entityId : String) :
    ∃ owners, Trail input.ownerOf entityId owners ∧
      owners.length ≤ input.ownershipEdges.length := by
  simp only [ownershipCheck, check_bind_eq_ok, require_eq_ok, decide_eq_true_eq,
    Bool.not_eq_true', List.any_eq_false, Bool.not_eq_true] at h
  obtain ⟨-, -, hwalks⟩ := h
  cases howner : input.ownerOf entityId with
  | none => exact ⟨[], .nil howner, Nat.zero_le _⟩
  | some owner =>
    obtain ⟨e, he, rfl, -⟩ := owned_of_ownerOf howner
    have hwalk := hwalks e he
    rw [walksInCycle_eq] at hwalk
    obtain ⟨owners, howners, hlt⟩ := exists_trail hwalk
    exact ⟨owners, howners, Nat.le_of_lt_succ hlt⟩

/-- **Ownership is accepted exactly when it is a forest.** -/
theorem ownershipCheck_eq_ok :
    input.ownershipCheck = .ok () ↔ input.ownershipEdges.Nodup ∧ input.Forest := by
  constructor
  · intro h
    have htrail := trail_of_ownershipCheck h
    simp only [ownershipCheck, check_bind_eq_ok, require_eq_ok, decide_eq_true_eq] at h
    obtain ⟨hnodup, howned, -⟩ := h
    refine ⟨hnodup, ?_, ?_⟩
    · intro ownedId ownerId ownerId' h h'
      rw [← ownerOf_eq_some_iff howned] at h h'
      exact Option.some.inj (h.symm.trans h')
    · intro entityId hcycle
      obtain ⟨owners, howners, -⟩ := htrail entityId
      refine howners.acyclic (Relation.TransGen.mono ?_ _ _ hcycle)
      exact fun a b hab => (ownerOf_eq_some_iff howned).2 hab
  · rintro ⟨hnodup, hforest⟩
    have howned : (input.ownershipEdges.map OwnershipEdge.ownedId).Nodup := by
      refine List.Nodup.map_on ?_ hnodup
      intro e he e' he' hsame
      have howner := hforest.single e.ownedId e.ownerId e'.ownerId ⟨e, he, rfl, rfl⟩
        ⟨e', he', hsame.symm, rfl⟩
      exact OwnershipEdge.ext howner hsame
    simp only [ownershipCheck, check_bind_eq_ok, require_eq_ok, decide_eq_true_eq,
      Bool.not_eq_true', List.any_eq_false, Bool.not_eq_true]
    refine ⟨hnodup, howned, ?_⟩
    intro e he
    rw [walksInCycle_eq]
    refine revisits_eq_false (fun a b hab => mem_ownedIds hab) ?_ List.nodup_nil (by simp) ?_
    · intro a hcycle
      exact hforest.acyclic a (Relation.TransGen.mono (fun a b hab => owned_of_ownerOf hab) _ _ hcycle)
    · rw [List.length_map, List.length_nil]
      omega

end AffiliationInput

/-! ## Overrides -/

variable {leftId rightId : String}

/-- Without groups and without a name in an override, an entity is in none of them. -/
theorem selectOverride_of_unknown (rt : Runtime) {overrides : List RelationOverride}
    {leftGroups rightGroups : Finset GroupKey}
    (h : ∀ o ∈ overrides, o.applies leftId rightId leftGroups rightGroups = false) :
    selectOverride rt overrides leftId rightId leftGroups rightGroups = .ok none := by
  have hnone : overrides.filter (fun o => o.applies leftId rightId leftGroups rightGroups) = [] := by
    refine List.filter_eq_nil_iff.2 ?_
    intro o ho
    simp [h o ho]
  simp [selectOverride, strongestOverrides, hnone]

section Unknown

variable {input : AffiliationInput} {entityId : String}

theorem groupsOf_of_unknown (h : entityId ∉ input.entityIds) : input.groupsOf entityId = ∅ := by
  have hnone : input.memberships.filter (fun m => m.entityId = entityId) = [] := by
    refine List.filter_eq_nil_iff.2 ?_
    intro m hm hsame
    rw [decide_eq_true_eq] at hsame
    refine h ?_
    rw [AffiliationInput.entityIds, mem_sortedSet, List.mem_toFinset, ← hsame]
    exact List.mem_append_left _ (List.mem_append_left _ (List.mem_map_of_mem hm))
  rw [AffiliationInput.groupsOf, hnone]
  rfl

/-- No override is about an entity that the input does not mention. -/
theorem designates_of_unknown (h : entityId ∉ input.entityIds) {o : RelationOverride}
    (ho : o ∈ input.relationOverrides) : o.left.designates entityId ∅ = false ∧
      o.right.designates entityId ∅ = false := by
  have hnamed : ∀ named ∈ o.left.entityId?.toList ++ o.right.entityId?.toList,
      named ≠ entityId := by
    rintro named hnamed rfl
    refine h ?_
    rw [AffiliationInput.entityIds, mem_sortedSet, List.mem_toFinset]
    exact List.mem_append_right _ (List.mem_flatMap.2 ⟨o, ho, hnamed⟩)
  have hof (subject : RelationSubject) (hsubject : ∀ named ∈ subject.entityId?.toList,
      named ≠ entityId) : subject.designates entityId ∅ = false := by
    cases subject with
    | entity named _ => exact decide_eq_false (hsubject named (by simp [RelationSubject.entityId?]))
    | group groupKey => simp [RelationSubject.designates]
  exact ⟨hof _ fun named hmem => hnamed named (List.mem_append_left _ hmem),
    hof _ fun named hmem => hnamed named (List.mem_append_right _ hmem)⟩

/-- Overrides decide between an unknown entity and any other: none applies. -/
theorem selectOverride_unknown (rt : Runtime)
    (h : leftId ∉ input.entityIds ∨ rightId ∉ input.entityIds) :
    selectOverride rt input.relationOverrides leftId rightId (input.groupsOf leftId)
      (input.groupsOf rightId) = .ok none := by
  refine selectOverride_of_unknown rt ?_
  intro o ho
  unfold RelationOverride.applies
  rcases h with h | h
  · obtain ⟨hleft, hright⟩ := designates_of_unknown h ho
    rw [groupsOf_of_unknown h]
    simp [hleft, hright]
  · obtain ⟨hleft, hright⟩ := designates_of_unknown h ho
    rw [groupsOf_of_unknown h]
    simp [hleft, hright]

end Unknown

variable {rt : Runtime}

variable (snapshot : AffiliationSnapshot rt)

/-- The overrides of an accepted snapshot decide every two entities. -/
theorem AffiliationSnapshot.selectOverride_ok (hne : leftId ≠ rightId) :
    ∃ o, selectOverride rt snapshot.relationOverrides leftId rightId (snapshot.groupsOf leftId)
      (snapshot.groupsOf rightId) = .ok o := by
  have h := snapshot.check_ok
  simp only [AffiliationInput.check, check_bind_eq_ok, AffiliationInput.checkConflicts_eq_ok] at h
  obtain ⟨-, -, -, -, -, -, hconflicts⟩ := h
  by_cases hknown : leftId ∈ snapshot.entityIds ∧ rightId ∈ snapshot.entityIds
  · refine hconflicts (leftId, rightId) ?_
    refine List.mem_flatMap.2 ⟨leftId, hknown.1, List.mem_map.2 ⟨rightId, ?_, rfl⟩⟩
    exact List.mem_filter.2 ⟨hknown.2, by simpa using hne.symm⟩
  · exact ⟨none, selectOverride_unknown rt (not_and_or.1 hknown)⟩

/-! ## Every pair -/

/-- What a resolver answers about any two identifiers. -/
structure Resolved {rt : Runtime} (snapshot : AffiliationSnapshot rt) : Prop where
  /-- Identifiers get facts, from one override or none. -/
  facts : ∀ leftId rightId, Identifier leftId → Identifier rightId →
    ∃ o, snapshot.overrideBetween leftId rightId = .ok o ∧
      snapshot.factsBetween leftId rightId = .ok (snapshot.factsWith leftId rightId o)
  /-- Only a blank text is rejected. -/
  rejected : ∀ leftId rightId fault, snapshot.factsBetween leftId rightId = .error fault →
    fault.kind = .value
  /-- The walk from owner to owner ends, with all of the owners. -/
  ancestors : ∀ entityId, Trail snapshot.ownerOf entityId (snapshot.ancestors entityId)

theorem AffiliationSnapshot.ownershipCheck_ok : snapshot.ownershipCheck = .ok () := by
  have h := snapshot.check_ok
  rw [AffiliationInput.check_eq] at h
  simp only [check_bind_eq_ok] at h
  exact h.2.2.1

theorem AffiliationSnapshot.overrideBetween_ok (leftId rightId : String) :
    ∃ o, snapshot.overrideBetween leftId rightId = .ok o := by
  unfold overrideBetween
  by_cases hne : leftId ≠ rightId
  · rw [if_pos hne]
    exact snapshot.selectOverride_ok hne
  · rw [if_neg hne]
    exact ⟨none, rfl⟩

/-- **Ownership is accepted exactly when it is a forest, and an accepted snapshot has facts about
every two identifiers.** -/
theorem relations_total (rt : Runtime) :
    (∀ input : AffiliationInput,
      input.ownershipCheck = .ok () ↔ input.ownershipEdges.Nodup ∧ input.Forest) ∧
    ∀ snapshot : AffiliationSnapshot rt, snapshot.ownershipCheck = .ok () ∧ Resolved snapshot := by
  refine ⟨fun input => AffiliationInput.ownershipCheck_eq_ok, fun snapshot => ?_⟩
  refine ⟨snapshot.ownershipCheck_ok, ?_, ?_, ?_⟩
  · intro leftId rightId hleft hright
    obtain ⟨o, ho⟩ := snapshot.overrideBetween_ok leftId rightId
    refine ⟨o, ho, ?_⟩
    rw [AffiliationSnapshot.factsBetween, show nonblank leftId = true from hleft,
      show nonblank rightId = true from hright, ho]
    rfl
  · intro leftId rightId fault h
    obtain ⟨o, ho⟩ := snapshot.overrideBetween_ok leftId rightId
    rw [AffiliationSnapshot.factsBetween, ho] at h
    cases hleft : nonblank leftId with
    | false =>
      rw [hleft] at h
      cases h
      rfl
    | true =>
      cases hright : nonblank rightId with
      | false =>
        rw [hleft, hright] at h
        cases h
        rfl
      | true =>
        rw [hleft, hright] at h
        cases h
  · intro entityId
    obtain ⟨owners, howners, hle⟩ :=
      AffiliationInput.trail_of_ownershipCheck snapshot.ownershipCheck_ok entityId
    rw [AffiliationInput.ancestors, AffiliationInput.ancestorChain_eq, howners.follow_eq hle]
    exact howners

end ShadowbaneLab
