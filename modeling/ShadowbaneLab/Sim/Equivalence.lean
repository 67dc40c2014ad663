/-
# Reading entities independently of insertion order

Dictionaries and sets of the live state have an insertion order that a snapshot forgets.
Two entities are `Equiv` when they differ in nothing else, and a reading of an entity is
`Intrinsic` when it cannot tell them apart.  Every reading the simulator performs on an
entity is shown intrinsic here; readings of the whole entity dictionary are `OrderFree`.
-/
import ShadowbaneLab.Sim.Affordances

namespace ShadowbaneLab

open Foundation

/-! ## Equivalent effects and entities -/

structure ActiveEffectState.Equiv (a b : ActiveEffectState) : Prop where
  record : a.toEffectRecord = b.toEffectRecord
  modifierValues : Dict.Equiv a.modifierValues b.modifierValues

structure EntityState.Equiv (a b : EntityState) : Prop where
  entityId : a.entityId = b.entityId
  lifeId : a.lifeId = b.lifeId
  kind : a.kind = b.kind
  teamId : a.teamId = b.teamId
  position : a.position = b.position
  velocity : a.velocity = b.velocity
  scalars : Dict.Equiv a.scalars b.scalars
  maximums : Dict.Equiv a.maximums b.maximums
  tags : a.tags = b.tags
  actionKeys : a.actionKeys.Perm b.actionKeys
  inventory : Dict.Equiv a.inventory b.inventory
  effects : Dict.Rel ActiveEffectState.Equiv a.effects b.effects
  cooldowns : Dict.Equiv a.cooldowns b.cooldowns
  busyUntilMs : a.busyUntilMs = b.busyUntilMs
  stanceMultipliers : Dict.Rel Dict.Equiv a.stanceMultipliers b.stanceMultipliers
  stance : a.stance = b.stance
  alive : a.alive = b.alive

/-- Equivalent entities under the same identifiers. -/
def EntitiesEquiv (d d' : Dict String EntityState) : Prop := Dict.Rel EntityState.Equiv d d'

/-- A reading of an entity that does not depend on insertion order. -/
def Intrinsic {β : Type} (f : EntityState → β) : Prop :=
  ∀ a b, EntityState.Equiv a b → f a = f b

/-- A reading of the entity dictionary that does not depend on insertion order. -/
def OrderFree {β : Type} (f : Dict String EntityState → β) : Prop :=
  ∀ d d', EntitiesEquiv d d' → f d = f d'

/-! ### Reflexivity -/

theorem EntityState.Equiv.refl (a : EntityState) : EntityState.Equiv a a where
  entityId := rfl
  lifeId := rfl
  kind := rfl
  teamId := rfl
  position := rfl
  velocity := rfl
  scalars := fun _ => rfl
  maximums := fun _ => rfl
  tags := rfl
  actionKeys := List.Perm.refl _
  inventory := fun _ => rfl
  effects := Dict.rel_refl (fun _ => ⟨rfl, fun _ => rfl⟩) _
  cooldowns := fun _ => rfl
  busyUntilMs := rfl
  stanceMultipliers := Dict.rel_refl (fun _ _ => rfl) _
  stance := rfl
  alive := rfl

/-! ## Intrinsic readings -/

variable (key : String)

section Intrinsic

variable {β γ : Type}

theorem Intrinsic.comp {f : EntityState → β} (hf : Intrinsic f) (g : β → γ) :
    Intrinsic (fun e => g (f e)) := fun a b h => congrArg g (hf a b h)

theorem Intrinsic.pair {f : EntityState → β} {g : EntityState → γ} (hf : Intrinsic f)
    (hg : Intrinsic g) : Intrinsic (fun e => (f e, g e)) := fun a b h =>
  Prod.ext (hf a b h) (hg a b h)

theorem OrderFree.entity {f : EntityState → β} (hf : Intrinsic f) (entityId : String) :
    OrderFree (fun d => (d.get? entityId).map f) := by
  intro d d' h
  have hentity := h entityId
  dsimp only
  generalize d.get? entityId = o at hentity ⊢
  generalize d'.get? entityId = o' at hentity ⊢
  cases hentity with
  | none => rfl
  | some heq => exact congrArg some (hf _ _ heq)

theorem intrinsic_entityId : Intrinsic EntityState.entityId := fun _ _ h => h.entityId
theorem intrinsic_kind : Intrinsic EntityState.kind := fun _ _ h => h.kind
theorem intrinsic_position : Intrinsic EntityState.position := fun _ _ h => h.position
theorem intrinsic_tags : Intrinsic EntityState.tags := fun _ _ h => h.tags
theorem intrinsic_stance : Intrinsic EntityState.stance := fun _ _ h => h.stance

theorem intrinsic_scalar : Intrinsic (fun e => e.scalar key) :=
  fun _ _ h => h.scalars.getD_eq key 0

theorem intrinsic_inventory (itemId : String) : Intrinsic (fun e => e.inventory.getD itemId 0) :=
  fun _ _ h => h.inventory.getD_eq itemId 0

theorem intrinsic_record (storageKey : String) : Intrinsic (fun e => e.record? storageKey) := by
  intro a b h
  have hslot := h.effects storageKey
  simp only [EntityState.record?]
  generalize a.effects.get? storageKey = o at hslot ⊢
  generalize b.effects.get? storageKey = o' at hslot ⊢
  cases hslot with
  | none => rfl
  | some heq => exact congrArg some heq.record

end Intrinsic

/-! ### Effect listings -/

/-- The storage keys of a listing are distinct. -/
theorem EntityState.nodup_record_keys (e : EntityState) : (e.records.map Prod.fst).Nodup := by
  have : e.records.map Prod.fst = e.effects.keys := by
    rw [EntityState.records, List.map_map]
    rfl
  rw [this]
  exact e.effects.nodup_keys

theorem EntityState.mem_records {e : EntityState} {storageKey : String} {record : EffectRecord} :
    (storageKey, record) ∈ e.records ↔ e.record? storageKey = some record := by
  unfold EntityState.records EntityState.record?
  rw [List.mem_map, Option.map_eq_some_iff]
  constructor
  · rintro ⟨⟨key, active⟩, hmem, heq⟩
    cases heq
    exact ⟨active, Dict.get?_eq_some.mpr hmem, rfl⟩
  · rintro ⟨active, hget, rfl⟩
    exact ⟨(storageKey, active), Dict.get?_eq_some.mp hget, rfl⟩

theorem EntityState.Equiv.records_perm {a b : EntityState} (h : EntityState.Equiv a b) :
    a.records.Perm b.records := by
  rw [List.perm_ext_iff_of_nodup (a.nodup_record_keys.of_map) (b.nodup_record_keys.of_map)]
  rintro ⟨storageKey, record⟩
  have hrecord : a.record? storageKey = b.record? storageKey := intrinsic_record storageKey a b h
  rw [EntityState.mem_records, EntityState.mem_records, hrecord]

/-- **Sorting a selection of effects forgets their insertion order**, when the sort key
includes the storage key. -/
theorem intrinsic_sorted_records {κ : Type} [LinearOrder κ] (key : String × EffectRecord → κ)
    (hkey : ∀ x y, key x = key y → x.1 = y.1) (p : String × EffectRecord → Bool) :
    Intrinsic (fun e => sortBy key (e.records.filter p)) := by
  intro a b h
  apply sortBy_eq_of_perm key (h.records_perm.filter p)
  rintro ⟨k, r⟩ hr ⟨k', r'⟩ hr' heq
  obtain rfl : k = k' := hkey _ _ heq
  have h₁ := EntityState.mem_records.mp (List.mem_of_mem_filter hr)
  have h₂ := EntityState.mem_records.mp (List.mem_of_mem_filter hr')
  rw [h₁] at h₂
  cases h₂
  rfl

/-- The effects of an entity, by their slots. -/
theorem intrinsic_slots :
    Intrinsic (fun e => sortBy Prod.fst (e.records.filter (fun _ => true))) :=
  intrinsic_sorted_records Prod.fst (fun _ _ heq => heq) _

theorem intrinsic_any_record (p : String × EffectRecord → Bool) :
    Intrinsic (fun e => e.records.any p) := by
  intro a b h
  rw [Bool.eq_iff_iff, List.any_eq_true, List.any_eq_true]
  simp only [h.records_perm.mem_iff]

/-! ### Derived values -/

theorem mem_foldr_union {α : Type} [DecidableEq α] (l : List (Finset α)) (a : α) :
    a ∈ l.foldr (· ∪ ·) ∅ ↔ ∃ s ∈ l, a ∈ s := by
  induction l with
  | nil => simp
  | cons s l ih => simp [ih]

theorem intrinsic_effectiveTags : Intrinsic EntityState.effectiveTags := by
  intro a b h
  have heffects : (a.records.map (fun e => e.2.effectiveTags)).foldr (· ∪ ·) ∅ =
      (b.records.map (fun e => e.2.effectiveTags)).foldr (· ∪ ·) ∅ := by
    ext tag
    simp only [mem_foldr_union, (h.records_perm.map _).mem_iff]
  rw [EntityState.effectiveTags, EntityState.effectiveTags, h.tags, h.stance, heffects]

theorem intrinsic_stanceFactor : Intrinsic (fun e => e.stanceFactor key) := by
  intro a b h
  simp only [EntityState.stanceFactor, Dict.getD, ← h.stance]
  have hstance := h.stanceMultipliers a.stance
  generalize a.stanceMultipliers.get? a.stance = o at hstance ⊢
  generalize b.stanceMultipliers.get? a.stance = o' at hstance ⊢
  cases hstance with
  | none => rfl
  | some heq => simp only [Option.getD_some, heq key]

theorem intrinsic_effectiveScalar : Intrinsic (fun e => e.effectiveScalar key) := by
  intro a b h
  have hsorted : sortBy Prod.fst a.records = sortBy Prod.fst b.records := by
    have := intrinsic_sorted_records Prod.fst (fun _ _ heq => heq) (fun _ => true) a b h
    simpa using this
  have hfactor : a.stanceFactor key = b.stanceFactor key := intrinsic_stanceFactor key a b h
  simp only [EntityState.effectiveScalar, h.scalars key, hsorted, hfactor]

theorem intrinsic_scalarOrDefault (default : ℚ) :
    Intrinsic (fun e => e.scalarOrDefault key default) :=
  (intrinsic_effectiveScalar key).comp (fun o => o.getD default)

/-! ## Readings of all entities -/

section Values

variable {β : Type} {d d' : Dict String EntityState}

/-- Equivalent dictionaries select the same entities, in some order. -/
theorem EntitiesEquiv.selected_perm (h : EntitiesEquiv d d') {p : EntityState → Bool}
    (hp : Intrinsic p) {f : EntityState → β} (hf : Intrinsic f) :
    ((d.values.filter p).map f).Perm ((d'.values.filter p).map f) := by
  have hpair : ∀ l : List EntityState,
      ((l.map (fun e => (p e, f e))).filter Prod.fst).map Prod.snd = (l.filter p).map f := by
    intro l
    rw [List.filter_map, List.map_map]
    rfl
  have hperm := Dict.Rel.map_values_perm h (f := fun e => (p e, f e)) (hp.pair hf)
  have := (hperm.filter Prod.fst).map Prod.snd
  rwa [hpair, hpair] at this

end Values

variable {rt : Runtime}

/-- Target resolution does not depend on the order of its candidates. -/
theorem resolveTargets_perm (snapshot : AffiliationSnapshot rt) (policy : RelationPolicy)
    (actor : TargetCandidate) (selector : TargetSelectorSpec)
    {candidates candidates' : List TargetCandidate} (h : candidates.Perm candidates') :
    resolveTargets snapshot policy actor candidates selector =
      resolveTargets snapshot policy actor candidates' selector := by
  have hids : (candidates.map TargetCandidate.entityId).Perm
      (candidates'.map TargetCandidate.entityId) := h.map _
  by_cases hnodup : (candidates.map TargetCandidate.entityId).Nodup
  · have hsorted : sortBy (orderKey rt actor selector.order) candidates =
        sortBy (orderKey rt actor selector.order) candidates' := by
      apply sortBy_eq_of_perm _ h
      intro a ha b hb hkey
      apply List.inj_on_of_nodup_map hnodup ha hb
      cases horder : selector.order <;> rw [horder] at hkey <;>
        exact congrArg (fun k : ℚ ×ₗ String => (ofLex k).2) hkey
    simp only [resolveTargets, hsorted, hnodup, hids.nodup_iff.mp hnodup]
  · simp only [resolveTargets, hnodup, mt hids.nodup_iff.mpr hnodup]
    rfl

variable {actor actor' : EntityState}

/-- What an area resolution sees of an entity does not depend on insertion order. -/
theorem areaCandidate_eq (context : RuntimeTargetingContext rt) (actionKey : String)
    (effect : AreaEffect) (position : Vector2) (alive : Bool) (h : EntityState.Equiv actor actor')
    {entity entity' : EntityState} (he : EntityState.Equiv entity entity') :
    context.candidate actor entity (context.selectorForArea actionKey effect) position alive =
      context.candidate actor' entity' (context.selectorForArea actionKey effect) position
        alive := by
  simp only [RuntimeTargetingContext.candidate, RuntimeTargetingContext.lineOfSight, canObserve,
    RuntimeTargetingContext.selectorForArea, h.entityId, he.entityId, he.kind,
    intrinsic_effectiveTags _ _ h, intrinsic_effectiveTags _ _ he, Bool.not_false,
    Bool.true_or, if_true]

/-- An area resolution does not depend on insertion order. -/
theorem resolveArea_eq (context : RuntimeTargetingContext rt) (actionKey : String)
    (effect : AreaEffect) (center : Vector2) (eligible : Finset String)
    (hactor : EntityState.Equiv actor actor') {d d' : Dict String EntityState}
    (h : EntitiesEquiv d d') :
    context.resolveArea actor d.values actionKey effect center eligible =
      context.resolveArea actor' d'.values actionKey effect center eligible := by
  have hcandidates : Intrinsic (fun entity => context.candidate actor entity
      (context.selectorForArea actionKey effect) entity.position
      (entity.alive && decide (entity.entityId ∈ eligible))) := by
    intro a b hab
    dsimp only
    rw [hab.position, hab.alive, hab.entityId]
    exact areaCandidate_eq context actionKey effect _ _ (EntityState.Equiv.refl actor) hab
  unfold RuntimeTargetingContext.resolveArea
  dsimp only
  rw [resolveTargets_perm _ _ _ _ (Dict.Rel.map_values_perm h hcandidates), hactor.alive,
    areaCandidate_eq context actionKey effect center _ hactor hactor]
  congr 1
  apply List.map_congr_left
  intro entity _
  exact areaCandidate_eq context actionKey effect _ _ hactor (EntityState.Equiv.refl entity)

end ShadowbaneLab
