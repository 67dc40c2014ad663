/-
# Entities stay valid

The constructors of entities and of active effects validate their arguments, and restoring
a snapshot validates them again, but the simulator mutates entities without checking.  An
entity passes its check exactly when it is `Valid` (with valid effects), and every change
the simulator makes keeps it valid, as long as no negative amount is drained.
-/
import ShadowbaneLab.Sim.Runs

namespace ShadowbaneLab

open Foundation

/-! ## What the checks accept -/

theorem checkIdentifier_eq_ok {value field : String} :
    checkIdentifier value field = .ok () ↔ Identifier value := require_eq_ok

variable {field : String}

theorem checkIdentifiers_eq_ok {values : List String} :
    checkIdentifiers field values = .ok () ↔ ∀ value ∈ values, Identifier value := by
  induction values with
  | nil => simp [checkIdentifiers]
  | cons value rest ih =>
    rw [checkIdentifiers, check_bind_eq_ok, checkIdentifier_eq_ok, ih, List.forall_mem_cons]

theorem checkMapping_eq_ok {ν : Type} {values : Dict String ν} :
    checkMapping values field = .ok () ↔ ∀ key ∈ values.keys, Identifier key :=
  checkIdentifiers_eq_ok

variable {effect : ActiveEffectState}

namespace ActiveEffectState

/-- What the constructor of an active effect accepts. -/
structure Valid (effect : ActiveEffectState) : Prop where
  effectKey : Identifier effect.effectKey
  sourceEntityId : Identifier effect.sourceEntityId
  instanceId : ∀ id ∈ effect.instanceId, Identifier id
  stackingKey : ∀ key ∈ effect.stackingKey, Identifier key
  tags : ∀ tag ∈ effect.tags, Identifier tag
  modifierKeys : ∀ key ∈ effect.modifierValues.keys, Identifier key
  stateful : effect.modifierValues.keys.toFinset = breakpointStateKeys effect.modifiers
  nonneg : ∀ key value, effect.modifierValues.get? key = some value → 0 ≤ value

theorem check_eq_ok : effect.check = .ok () ↔ effect.Valid := by
  unfold check
  simp only [check_bind_eq_ok, checkIdentifier_eq_ok, checkIdentifiers_eq_ok, checkMapping_eq_ok,
    require_eq_ok, decide_eq_true_eq, Option.mem_toList, mem_sortedSet, List.all_eq_true]
  constructor
  · rintro ⟨hkey, hsource, hinstance, hstacking, htags, hkeys, hstateful, hnonneg⟩
    exact ⟨hkey, hsource, hinstance, hstacking, htags, hkeys, hstateful,
      fun key value hget => hnonneg value (Dict.mem_values_iff.mpr ⟨key, hget⟩)⟩
  · intro h
    refine ⟨h.effectKey, h.sourceEntityId, h.instanceId, h.stackingKey, h.tags, h.modifierKeys,
      h.stateful, ?_⟩
    intro value hvalue
    obtain ⟨key, hget⟩ := Dict.mem_values_iff.mp hvalue
    exact h.nonneg key value hget

end ActiveEffectState

variable {entity : EntityState}

namespace EntityState

/-- What the constructor of an entity accepts, with valid effects. -/
structure Valid (entity : EntityState) : Prop where
  entityId : Identifier entity.entityId
  lifeId : Identifier entity.lifeId
  teamId : ∀ team ∈ entity.teamId, Identifier team
  scalars : ∀ key ∈ entity.scalars.keys, Identifier key
  maximums : ∀ key ∈ entity.maximums.keys, Identifier key
  bounded : ∀ key maximum, entity.maximums.get? key = some maximum →
    0 ≤ maximum ∧ ∀ value, entity.scalars.get? key = some value → value ≤ maximum
  tags : ∀ tag ∈ entity.tags, Identifier tag
  actionKeys_nodup : entity.actionKeys.Nodup
  actionKeys : ∀ key ∈ entity.actionKeys, Identifier key
  inventory : ∀ key ∈ entity.inventory.keys, Identifier key
  stocked : ∀ key quantity, entity.inventory.get? key = some quantity → 0 ≤ quantity
  effects : ∀ key effect, entity.effects.get? key = some effect →
    key = effect.storageKey ∧ effect.Valid
  cooldowns : ∀ key ∈ entity.cooldowns.keys, Identifier key
  stances : ∀ stance multipliers, entity.stanceMultipliers.get? stance = some multipliers →
    stance ≠ .normal ∧ stance ≠ .travel ∧ ∀ key factor, multipliers.get? key = some factor →
      Identifier key ∧ 0 < factor ∧ key ∈ entity.scalars.keys

variable {scalars : Dict String ℚ}

theorem checkMaximums_eq_ok {l : List (String × ℚ)} :
    checkMaximums scalars l = .ok () ↔
      ∀ e ∈ l, 0 ≤ e.2 ∧ ∀ value, scalars.get? e.1 = some value → value ≤ e.2 := by
  induction l with
  | nil => simp [checkMaximums]
  | cons e rest ih =>
    obtain ⟨key, maximum⟩ := e
    rw [checkMaximums, check_bind_eq_ok, check_bind_eq_ok, require_eq_ok, require_eq_ok, ih,
      List.forall_mem_cons, decide_eq_true_eq, and_assoc]
    simp [Option.all_eq_true]

theorem checkEffects_eq_ok {l : List (String × ActiveEffectState)} :
    checkEffects l = .ok () ↔ ∀ e ∈ l, Identifier e.1 ∧ e.1 = e.2.storageKey := by
  induction l with
  | nil => simp [checkEffects]
  | cons e rest ih =>
    obtain ⟨key, effect⟩ := e
    rw [checkEffects, check_bind_eq_ok, check_bind_eq_ok, checkIdentifier_eq_ok, require_eq_ok, ih,
      List.forall_mem_cons, decide_eq_true_eq, and_assoc]

/-- What the constructor demands of one stance table. -/
def StanceOk (scalars : Dict String ℚ) (stance : CombatStance) (multipliers : Dict String ℚ) :
    Prop :=
  stance ≠ .normal ∧ stance ≠ .travel ∧ ∀ key factor, multipliers.get? key = some factor →
    Identifier key ∧ 0 < factor ∧ key ∈ scalars.keys

theorem checkStances_eq_ok {l : List (CombatStance × Dict String ℚ)} :
    checkStances scalars l = .ok () ↔ ∀ e ∈ l, StanceOk scalars e.1 e.2 := by
  induction l with
  | nil => simp [checkStances]
  | cons e rest ih =>
    obtain ⟨stance, multipliers⟩ := e
    have hkeys : multipliers.sortedKeys.filter (fun key => !scalars.contains key) = [] ↔
        ∀ key ∈ multipliers.keys, key ∈ scalars.keys := by
      simp [List.filter_eq_nil_iff, Dict.contains_iff]
    rw [checkStances, check_bind_eq_ok, check_bind_eq_ok, check_bind_eq_ok, check_bind_eq_ok,
      require_eq_ok, require_eq_ok, require_eq_ok, checkMapping_eq_ok, ih, List.forall_mem_cons]
    simp only [decide_eq_true_eq, List.all_eq_true, hkeys, StanceOk]
    constructor
    · rintro ⟨⟨hnormal, htravel⟩, hnames, hpositive, hpresent, hrest⟩
      refine ⟨⟨hnormal, htravel, ?_⟩, hrest⟩
      intro key factor hget
      have hmem : key ∈ multipliers.keys := Dict.mem_keys_iff.mpr ⟨factor, hget⟩
      exact ⟨hnames key hmem, hpositive factor (Dict.mem_values_iff.mpr ⟨key, hget⟩),
        hpresent key hmem⟩
    · rintro ⟨⟨hnormal, htravel, hall⟩, hrest⟩
      have hof (key : String) (hmem : key ∈ multipliers.keys) :
          Identifier key ∧ key ∈ scalars.keys := by
        obtain ⟨factor, hget⟩ := Dict.mem_keys_iff.mp hmem
        obtain ⟨hname, _, hpresent⟩ := hall key factor hget
        exact ⟨hname, hpresent⟩
      refine ⟨⟨hnormal, htravel⟩, fun key hmem => (hof key hmem).1, ?_,
        fun key hmem => (hof key hmem).2, hrest⟩
      intro factor hvalue
      obtain ⟨key, hget⟩ := Dict.mem_values_iff.mp hvalue
      exact (hall key factor hget).2.1

theorem identifier_storageKey (h : effect.Valid) : Identifier effect.storageKey := by
  unfold EffectRecord.storageKey
  cases hkey : effect.stackingKey with
  | none => exact h.effectKey
  | some key => exact h.stackingKey key hkey

/-- **An entity with valid effects passes its check exactly when it is valid.** -/
theorem check_eq_ok (heffects : ∀ key effect, entity.effects.get? key = some effect → effect.Valid)
    :
    entity.check = .ok () ↔ entity.Valid := by
  unfold check
  simp only [check_bind_eq_ok, checkIdentifier_eq_ok, checkIdentifiers_eq_ok, checkMapping_eq_ok,
    checkMaximums_eq_ok, checkEffects_eq_ok, checkStances_eq_ok, require_eq_ok, decide_eq_true_eq,
    Option.mem_toList, mem_sortedSet, List.all_eq_true]
  constructor
  · rintro ⟨hid, hlife, hteam, hscalars, hmaximums, hbounded, htags, hnodup, hactions, hinventory,
      hstocked, hstored, hcooldowns, hstances⟩
    refine ⟨hid, hlife, hteam, hscalars, hmaximums, ?_, htags, hnodup, hactions, hinventory, ?_, ?_,
      hcooldowns, ?_⟩
    · exact fun key maximum hget => hbounded (key, maximum) (Dict.get?_eq_some.mp hget)
    · exact fun key quantity hget => hstocked quantity (Dict.mem_values_iff.mpr ⟨key, hget⟩)
    · exact fun key effect hget =>
        ⟨(hstored (key, effect) (Dict.get?_eq_some.mp hget)).2, heffects key effect hget⟩
    · exact fun stance multipliers hget =>
        hstances (stance, multipliers) (Dict.get?_eq_some.mp hget)
  · intro h
    refine ⟨h.entityId, h.lifeId, h.teamId, h.scalars, h.maximums, ?_, h.tags, h.actionKeys_nodup,
      h.actionKeys, h.inventory, ?_, ?_, h.cooldowns, ?_⟩
    · exact fun e he => h.bounded e.1 e.2 (Dict.get?_eq_some.mpr he)
    · intro quantity hvalue
      obtain ⟨key, hget⟩ := Dict.mem_values_iff.mp hvalue
      exact h.stocked key quantity hget
    · intro e he
      obtain ⟨hkey, hvalid⟩ := h.effects e.1 e.2 (Dict.get?_eq_some.mpr he)
      exact ⟨hkey ▸ identifier_storageKey hvalid, hkey⟩
    · exact fun e he => h.stances e.1 e.2 (Dict.get?_eq_some.mpr he)

end EntityState

/-! ## Edits keep entities valid -/

namespace EntityState.Valid

variable {entity : EntityState}

/-- Changing a stored effect keeps an entity valid if it keeps the effect valid. -/
theorem modifyEffect (h : entity.Valid) (storageKey : String)
    {f : ActiveEffectState → ActiveEffectState}
    (hkey : ∀ active, (f active).storageKey = active.storageKey)
    (hf : ∀ active, active.Valid → (f active).Valid) :
    (entity.modifyEffect storageKey f).Valid where
  __ := h
  effects := Dict.forall_modify h.effects fun active _ hactive =>
    ⟨hactive.1.trans (hkey active).symm, hf active hactive.2⟩

theorem alter (h : entity.Valid) (change : BodyChange) : (entity.alter change).Valid := by
  cases change with
  | addTag tag tag_ok =>
    refine { h with tags := ?_ }
    intro other hmem
    rcases Finset.mem_insert.mp hmem with rfl | hmem
    · exact tag_ok
    · exact h.tags other hmem
  | discardTag tag =>
    exact { h with tags := fun other hmem => h.tags other (Finset.mem_of_mem_erase hmem) }
  | stance stance => exact { h with }
  | position position => exact { h with }
  | absorb storageKey amount =>
    exact h.modifyEffect storageKey (fun _ => rfl) (fun active hactive => { hactive with })
  | accumulate storageKey stateKey amount nonneg =>
    refine h.modifyEffect storageKey (fun _ => rfl) ?_
    intro active hactive
    have hkeys : (active.modifierValues.modify stateKey (· + amount)).keys =
        active.modifierValues.keys := Dict.keys_modify _ _ _
    refine { hactive with modifierKeys := ?_, stateful := ?_, nonneg := ?_ }
    · exact fun key hmem => hactive.modifierKeys key (hkeys ▸ hmem)
    · exact (congrArg List.toFinset hkeys).trans hactive.stateful
    · exact Dict.forall_modify hactive.nonneg fun _ _ hold => add_nonneg hold nonneg
  | cooldown actionKey untilMs actionKey_ok =>
    refine { h with cooldowns := ?_ }
    intro key hmem
    rcases Dict.mem_keys_set.mp hmem with rfl | hmem
    · exact actionKey_ok
    · exact h.cooldowns key hmem
  | busy untilMs => exact { h with }

theorem quantity_nonneg (h : entity.Valid) (itemId : String) :
    0 ≤ entity.inventory.getD itemId 0 := by
  unfold Dict.getD
  cases hget : entity.inventory.get? itemId with
  | none => exact le_refl 0
  | some quantity => exact h.stocked itemId quantity hget

theorem dropEffect (h : entity.Valid) (storageKey : String) : (entity.dropEffect storageKey).Valid where
  __ := h
  effects := Dict.forall_erase h.effects

end EntityState.Valid

/-! ## Constructed worlds are valid -/

/-- Every entity of a world is valid. -/
def World.Valid (world : World) : Prop :=
  ∀ entityId entity, world.entities.get? entityId = some entity → entity.Valid

theorem mem_mapM_ok {α β : Type} {f : α → Except Fault β} {l : List α} {l' : List β}
    (h : l.mapM f = .ok l') : ∀ b ∈ l', ∃ a ∈ l, f a = .ok b := by
  induction l generalizing l' with
  | nil =>
    cases h
    exact nofun
  | cons a rest ih =>
    rw [List.mapM_cons] at h
    obtain ⟨b, hb, h⟩ := bind_eq_ok.mp h
    obtain ⟨rest', hrest, h⟩ := bind_eq_ok.mp h
    cases h
    intro b' hmem
    rcases List.mem_cons.mp hmem with rfl | hmem
    · exact ⟨a, List.mem_cons_self, hb⟩
    · obtain ⟨a', ha', hb'⟩ := ih hrest b' hmem
      exact ⟨a', List.mem_cons_of_mem _ ha', hb'⟩

theorem ActiveEffectState.fromSnapshot_eq_ok {snapshot : ActiveEffectSnapshot}
    (h : fromSnapshot snapshot = .ok effect) : effect = ofSnapshot snapshot ∧ effect.Valid := by
  obtain ⟨hcheck, h⟩ := check_bind_eq_ok.mp h
  cases h
  exact ⟨rfl, check_eq_ok.mp hcheck⟩

/-- An entity rebuilt from a snapshot is valid. -/
theorem EntityState.valid_of_fromSnapshot {snapshot : EntitySnapshot}
    (h : fromSnapshot snapshot = .ok entity) : entity.Valid := by
  obtain ⟨effects, heffects, h⟩ := bind_eq_ok.mp h
  obtain ⟨hcheck, h⟩ := check_bind_eq_ok.mp h
  cases h
  refine (check_eq_ok ?_).mp hcheck
  intro key effect hget
  obtain ⟨listed, hlisted, heq⟩ := List.mem_map.mp (Dict.mem_of_get?_ofList hget)
  cases heq
  obtain ⟨_, _, hbuilt⟩ := mem_mapM_ok heffects _ hlisted
  exact (ActiveEffectState.fromSnapshot_eq_ok hbuilt).2

theorem World.Valid.nameEffect {s : Frame} (h : s.toWorld.Valid) (entityId storageKey : String) :
    (s.nameEffect entityId storageKey).1.toWorld.Valid := by
  refine Dict.forall_modify h fun _ _ hold => hold.modifyEffect storageKey ?_ ?_
  · exact fun _ => rfl
  · intro active hactive
    refine { hactive with instanceId := ?_ }
    intro id hid
    obtain rfl := Option.mem_some.mp hid
    rw [String.append_assoc, String.append_assoc]
    exact identifier_append_left (by decide) _

/-- **A constructed world is valid.** -/
theorem Built.valid {rt : Runtime} {cfg : Config rt} {start : World} (h : Built cfg start) :
    start.Valid := by
  obtain ⟨setup, targeting, hconstruct⟩ := h
  obtain ⟨_, _, _, _, _, _, _, _, _, entities, frame, hclones, hframe, rfl⟩ :=
    construct_eq_ok hconstruct
  refine foldlM_preserves (P := fun s => s.toWorld.Valid) ?_ ?_ hframe
  · intro s slot s' _ hs hslot
    obtain ⟨s₁, items, hs₁, _, rfl⟩ := scheduleInitialEffect_eq_ok hslot
    rw [foldl_schedule]
    rcases hs₁ with rfl | rfl
    · exact hs
    · exact hs.nameEffect slot.1 slot.2
  · intro k e he
    obtain ⟨listed, hlisted, heq⟩ := List.mem_map.mp (Dict.mem_of_get?_ofList he)
    cases heq
    obtain ⟨_, _, hclone⟩ := mem_mapM_ok hclones e hlisted
    exact EntityState.valid_of_fromSnapshot hclone

end ShadowbaneLab
