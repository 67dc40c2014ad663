/-
# Draining absorbers

`_consume_damage_absorbers` of `sim/effects.py`, as the loop that damage is committed through
(`consumeDamageAbsorbers`).  The absorbers of a damage type are drained in their order until the
amount is used up: the exhausted ones are removed, at most one is left drained in part, and nothing
else of the entity changes (`absorbers_drained`).  Numbers are exact here; the doubles of the code
round what is absorbed (`absorbed_rounds_up`).
-/
import ShadowbaneLab.Sim.Transfers
import ShadowbaneLab.Sim.Validity

namespace ShadowbaneLab

open Foundation List

/-! ## The loop -/

section Loop

variable {scope : Scope}

/-- The loop, with what remains and what was absorbed so far. -/
def drainAbsorbers (ctx : ItemContext) (subject : Living scope) (damageType : String) :
    List (String × EffectRecord) → ℚ → ℚ → Exec scope (ℚ × ℚ)
  | [], remaining, absorbedTotal => pure (remaining, absorbedTotal)
  | absorber :: rest, remaining, absorbedTotal =>
    if remaining ≤ 0 then pure (remaining, absorbedTotal)
    else
      let absorbed := min remaining absorber.2.magnitude
      if absorbed ≤ 0 then drainAbsorbers ctx subject damageType rest remaining absorbedTotal
      else do
        consumeAbsorber ctx subject damageType absorber absorbed
        drainAbsorbers ctx subject damageType rest (remaining - absorbed) (absorbedTotal + absorbed)

end Loop

/-! ## What absorbs -/

/-- An effect absorbs damage of a type. -/
def EffectRecord.Absorbs (damageType : String) (effect : EffectRecord) : Prop :=
  0 < effect.magnitude ∧
    ("damage.absorb.all" ∈ effect.tags ∨ "damage.absorb." ++ damageType ∈ effect.tags)

instance (damageType : String) (effect : EffectRecord) : Decidable (effect.Absorbs damageType) :=
  inferInstanceAs (Decidable (_ ∧ _))

/-- What an effect can absorb. -/
def EffectRecord.capacity (damageType : String) (effect : EffectRecord) : ℚ :=
  if effect.Absorbs damageType then effect.magnitude else 0

/-- The total matching positive magnitude of an entity. -/
def EntityState.capacity (damageType : String) (entity : EntityState) : ℚ :=
  entity.effects.total (fun e => e.capacity damageType)

/-- The magnitudes of a list of absorbers, together. -/
def supply (l : List (String × EffectRecord)) : ℚ := (l.map (fun e => e.2.magnitude)).sum

@[simp] theorem supply_nil : supply [] = 0 := rfl

@[simp] theorem supply_cons (absorber : String × EffectRecord) (l : List (String × EffectRecord)) :
    supply (absorber :: l) = absorber.2.magnitude + supply l := rfl

theorem supply_append (l l' : List (String × EffectRecord)) :
    supply (l ++ l') = supply l + supply l' := by
  rw [supply, map_append, sum_append]
  rfl

variable {l : List (String × EffectRecord)}

theorem supply_nonneg (h : ∀ e ∈ l, 0 < e.2.magnitude) : 0 ≤ supply l := by
  induction l with
  | nil => exact le_rfl
  | cons e l ih =>
    rw [forall_mem_cons] at h
    exact add_nonneg h.1.le (ih h.2)

variable {damageType : String} {entity : EntityState} {absorber : String × EffectRecord}

theorem mem_absorbers :
    absorber ∈ absorbers damageType entity ↔
      entity.record? absorber.1 = some absorber.2 ∧ absorber.2.Absorbs damageType := by
  have hrecord : absorber ∈ entity.records ↔ entity.record? absorber.1 = some absorber.2 := by
    rw [EntityState.records, EntityState.record?, mem_map, Option.map_eq_some_iff]
    constructor
    · rintro ⟨e, he, rfl⟩
      exact ⟨e.2, Dict.get?_eq_some.2 he, rfl⟩
    · rintro ⟨effect, heffect, hrecord⟩
      exact ⟨(absorber.1, effect), Dict.get?_eq_some.1 heffect, Prod.ext rfl hrecord⟩
  rw [absorbers, mem_sortBy, mem_filter, hrecord, EffectRecord.Absorbs]
  simp

/-- No two absorbers are stored under one key. -/
theorem nodup_absorbers (damageType : String) (entity : EntityState) :
    ((absorbers damageType entity).map Prod.fst).Nodup := by
  have hperm := (sortBy_perm (fun e : String × EffectRecord => toLex (e.2.expiresAtMs, e.1))
    (entity.records.filter (fun e => 0 < e.2.magnitude && ("damage.absorb.all" ∈ e.2.tags ||
      "damage.absorb." ++ damageType ∈ e.2.tags)))).map Prod.fst
  refine hperm.nodup_iff.2 (List.Nodup.sublist (filter_sublist.map Prod.fst) ?_)
  rw [EntityState.records, map_map]
  exact entity.effects.nodup

/-- The absorbers are ordered by their expiry and their key. -/
theorem ordered_absorbers (damageType : String) (entity : EntityState) :
    (absorbers damageType entity).Pairwise
      (fun a b => toLex (a.2.expiresAtMs, a.1) < toLex (b.2.expiresAtMs, b.1)) := by
  have hle := pairwise_sortBy (fun e : String × EffectRecord => toLex (e.2.expiresAtMs, e.1))
    (entity.records.filter (fun e => 0 < e.2.magnitude && ("damage.absorb.all" ∈ e.2.tags ||
      "damage.absorb." ++ damageType ∈ e.2.tags)))
  have hne := pairwise_map.1 (nodup_absorbers damageType entity)
  refine (hle.and hne).imp ?_
  rintro a b ⟨hle, hne⟩
  refine lt_of_le_of_ne hle ?_
  intro heq
  exact hne (congrArg (fun k : ℕ ×ₗ String => (ofLex k).2) heq)

theorem supply_absorbers (damageType : String) (entity : EntityState) :
    supply (absorbers damageType entity) = entity.capacity damageType := by
  have hsum (l : List (String × EffectRecord)) :
      supply (l.filter (fun e => 0 < e.2.magnitude && ("damage.absorb.all" ∈ e.2.tags ||
        "damage.absorb." ++ damageType ∈ e.2.tags))) =
          (l.map (fun e => e.2.capacity damageType)).sum := by
    induction l with
    | nil => rfl
    | cons e l ih =>
      rw [map_cons, sum_cons, ← ih, EffectRecord.capacity]
      by_cases h : e.2.Absorbs damageType
      · rw [if_pos h, filter_cons_of_pos (by simpa [EffectRecord.Absorbs] using h),
          supply_cons]
      · rw [if_neg h, filter_cons_of_neg (by simpa [EffectRecord.Absorbs] using h), zero_add]
  have hperm : supply (absorbers damageType entity) = supply (entity.records.filter (fun e =>
      0 < e.2.magnitude && ("damage.absorb.all" ∈ e.2.tags ||
        "damage.absorb." ++ damageType ∈ e.2.tags))) :=
    ((sortBy_perm _ _).map _).sum_eq
  rw [hperm, hsum, EntityState.capacity, Dict.total, Dict.values, EntityState.records,
    map_map, map_map]
  rfl

/-! ## One absorber -/

/-- What an absorber leaves of an effect: nothing once its magnitude is used up. -/
def ActiveEffectState.after (absorbed : ℚ) (effect : ActiveEffectState) :
    Option ActiveEffectState :=
  if effect.magnitude - absorbed ≤ 0 then none
  else some { effect with magnitude := effect.magnitude - absorbed }

/-- One effect of an entity is drained, and nothing else of it changes. -/
structure DrainStep (damageType storageKey : String) (absorbed : ℚ) (effect : ActiveEffectState)
    (entity entity' : EntityState) : Prop where
  same : { entity' with effects := entity.effects } = entity
  at_key : entity'.effects.get? storageKey = effect.after absorbed
  outside : ∀ key ≠ storageKey, entity'.effects.get? key = entity.effects.get? key
  capacity : entity'.capacity damageType = entity.capacity damageType - absorbed

/-- The entity after one of its effects absorbed something. -/
def EntityState.drain (storageKey : String) (absorbed : ℚ) (effect : EffectRecord)
    (entity : EntityState) : EntityState :=
  let drained := entity.alter (.absorb storageKey absorbed)
  if effect.magnitude - absorbed ≤ 0 then drained.dropEffect storageKey else drained

variable {effect : ActiveEffectState}

section Runs

variable {scope : Scope} {s : Frame}

theorem Frame.entity_of_get? {entityId : String} (h : s.entities.get? entityId = some entity) :
    s.entity entityId = .ok entity := by
  rw [Frame.entity, h]

theorem EntityState.Valid.drain (h : entity.Valid) (storageKey : String) (absorbed : ℚ)
    (effect : EffectRecord) : (entity.drain storageKey absorbed effect).Valid := by
  unfold EntityState.drain
  dsimp only
  split
  · exact (h.alter _).dropEffect storageKey
  · exact h.alter _

variable {draft : EventDraft}

variable {subject : Living scope}

/-- What an effect keeps when an amount is available to it. -/
def ActiveEffectState.left (available : ℚ) (effect : ActiveEffectState) :
    Option ActiveEffectState :=
  if effect.magnitude ≤ max 0 available then none
  else some { effect with magnitude := effect.magnitude - max 0 available }

/-- A list of absorbers was drained in its order by an amount. -/
structure DrainedBy (damageType : String) (l : List (String × EffectRecord)) (amount : ℚ)
    (entity entity' : EntityState) : Prop where
  same : { entity' with effects := entity.effects } = entity
  outside : ∀ key ∉ l.map Prod.fst, entity'.effects.get? key = entity.effects.get? key
  inside : ∀ done absorber rest, l = done ++ absorber :: rest →
    entity'.effects.get? absorber.1 =
      (entity.effects.get? absorber.1).bind (·.left (amount - supply done))
  capacity : entity'.capacity damageType = entity.capacity damageType - min amount (supply l)

variable {amount : ℚ}

/-- The first absorber gives what it can, and the others are drained by the rest. -/
theorem DrainedBy.cons {entity entity₁ entity' : EntityState}
    (hnodup : ((absorber :: l).map Prod.fst).Nodup)
    (hpositive : ∀ e ∈ absorber :: l, 0 < e.2.magnitude) (hamount : 0 < amount)
    (hget : entity.effects.get? absorber.1 = some effect)
    (hrecord : effect.toEffectRecord = absorber.2)
    (hfirst : DrainStep damageType absorber.1 (min amount absorber.2.magnitude) effect entity
      entity₁)
    (hrest : DrainedBy damageType l (amount - min amount absorber.2.magnitude) entity₁ entity') :
    DrainedBy damageType (absorber :: l) amount entity entity' := by
  rw [map_cons, nodup_cons] at hnodup
  have hmagnitude : effect.magnitude = absorber.2.magnitude := by rw [← hrecord]
  have hhead := hpositive absorber mem_cons_self
  have hsupply : 0 ≤ supply l := supply_nonneg fun e he => hpositive e (mem_cons_of_mem _ he)
  refine ⟨?_, ?_, ?_, ?_⟩
  · have h := hrest.same
    have h' := hfirst.same
    rw [← h] at h'
    exact h'
  · intro key hkey
    rw [map_cons, mem_cons, not_or] at hkey
    rw [hrest.outside key hkey.2, hfirst.outside key hkey.1]
  · intro done other rest hsplit
    cases done with
    | nil =>
      obtain ⟨rfl, rfl⟩ := List.cons.inj hsplit
      rw [hrest.outside _ hnodup.1, hfirst.at_key, hget, Option.bind_some, supply_nil, sub_zero,
        ActiveEffectState.after, ActiveEffectState.left, max_eq_right hamount.le, hmagnitude]
      rcases le_total amount absorber.2.magnitude with hle | hle
      · rw [min_eq_left hle]
        refine if_congr ?_ rfl rfl
        rw [sub_nonpos]
      · rw [min_eq_right hle, sub_self, if_pos le_rfl, if_pos hle]
    | cons first done =>
      obtain ⟨rfl, rfl⟩ := List.cons.inj hsplit
      have hne : other.1 ≠ absorber.1 := by
        intro heq
        refine hnodup.1 ?_
        rw [← heq]
        exact mem_map.2 ⟨other, by simp, rfl⟩
      rw [hrest.inside done other rest rfl, hfirst.outside _ hne, supply_cons]
      rcases le_total amount absorber.2.magnitude with hle | hle
      · -- nothing is left for the others, and nothing was wanted of them
        have hdone : 0 ≤ supply done :=
          supply_nonneg fun e he => hpositive e (by simp [he])
        simp only [ActiveEffectState.left]
        rw [min_eq_left hle, sub_self, max_eq_left (by linarith), max_eq_left (by linarith)]
      · rw [min_eq_right hle, sub_sub]
  · rw [hrest.capacity, hfirst.capacity, supply_cons, sub_sub]
    congr 1
    rcases le_total amount absorber.2.magnitude with hle | hle
    · rw [min_eq_left hle, sub_self, min_eq_left hsupply, min_eq_left (by linarith), add_zero]
    · rw [min_eq_right hle, ← min_add_add_left, add_sub_cancel]

/-- How the absorbers of an entity took an amount. -/
structure Drained (damageType : String) (amount remaining absorbed : ℚ)
    (entity entity' : EntityState) : Prop where
  /-- Nothing is lost, and nothing is left that an absorber could take. -/
  conserved : remaining + absorbed = amount
  rest : remaining = max 0 (amount - entity.capacity damageType)
  capacity : entity'.capacity damageType = entity.capacity damageType - absorbed
  /-- The absorbers are the matching effects of positive magnitude, in their order. -/
  mem_iff : ∀ absorber, absorber ∈ absorbers damageType entity ↔
    entity.record? absorber.1 = some absorber.2 ∧ absorber.2.Absorbs damageType
  ordered : (absorbers damageType entity).Pairwise
    (fun a b => toLex (a.2.expiresAtMs, a.1) < toLex (b.2.expiresAtMs, b.1))
  /-- One is touched only when every earlier one is exhausted. -/
  greedy : ∀ done absorber rest, absorbers damageType entity = done ++ absorber :: rest →
    entity'.effects.get? absorber.1 ≠ entity.effects.get? absorber.1 →
      ∀ earlier ∈ done, entity'.effects.get? earlier.1 = none
  /-- Exactly the exhausted ones are removed, the others keep the magnitude not taken. -/
  left : ∀ done absorber rest, absorbers damageType entity = done ++ absorber :: rest →
    ∃ effect, entity.effects.get? absorber.1 = some effect ∧
      effect.toEffectRecord = absorber.2 ∧
      entity'.effects.get? absorber.1 =
        if effect.magnitude ≤ amount - supply done then none
        else some { effect with magnitude := effect.magnitude - max 0 (amount - supply done) }
  /-- Nothing else of the entity changes. -/
  outside : ∀ key, (∀ record, entity.record? key = some record → ¬record.Absorbs damageType) →
    entity'.effects.get? key = entity.effects.get? key
  same : { entity' with effects := entity.effects } = entity

/-- An effect of positive magnitude goes exactly when as much is available. -/
theorem ActiveEffectState.left_eq (h : 0 < effect.magnitude) (available : ℚ) :
    effect.left available =
      if effect.magnitude ≤ available then none
      else some { effect with magnitude := effect.magnitude - max 0 available } := by
  have hiff : effect.magnitude ≤ max 0 available ↔ effect.magnitude ≤ available := by
    rw [le_max_iff]
    exact or_iff_right (not_le.2 h)
  rw [left]
  exact if_congr hiff rfl rfl

/-- Where nothing is available an effect keeps its magnitude. -/
theorem ActiveEffectState.left_of_nonpos (h : 0 < effect.magnitude) {available : ℚ}
    (hnone : available ≤ 0) : effect.left available = some effect := by
  rw [left_eq h, if_neg (not_le.2 (hnone.trans_lt h)), max_eq_left hnone, sub_zero]

theorem DrainedBy.drained {entity entity' : EntityState}
    (h : DrainedBy damageType (absorbers damageType entity) amount entity entity') :
    Drained damageType amount (amount - min amount (entity.capacity damageType))
      (min amount (entity.capacity damageType)) entity entity' := by
  have hmem : ∀ absorber, absorber ∈ absorbers damageType entity ↔
      entity.record? absorber.1 = some absorber.2 ∧ absorber.2.Absorbs damageType :=
    fun absorber => mem_absorbers
  have hleft : ∀ done absorber rest, absorbers damageType entity = done ++ absorber :: rest →
      ∃ effect, entity.effects.get? absorber.1 = some effect ∧
        effect.toEffectRecord = absorber.2 ∧ 0 < effect.magnitude ∧
        entity'.effects.get? absorber.1 = effect.left (amount - supply done) := by
    intro done absorber rest hsplit
    have habsorber : absorber ∈ absorbers damageType entity := by simp [hsplit]
    obtain ⟨hfound, hpositive, -⟩ := (hmem absorber).1 habsorber
    obtain ⟨effect, hget, hrecord⟩ := Option.map_eq_some_iff.1 hfound
    rw [← hrecord] at hpositive
    refine ⟨effect, hget, hrecord, hpositive, ?_⟩
    rw [h.inside done absorber rest hsplit, hget, Option.bind_some]
  constructor
  case conserved => exact sub_add_cancel _ _
  case rest =>
    rcases le_total amount (entity.capacity damageType) with hle | hle
    · rw [min_eq_left hle, sub_self, max_eq_left (sub_nonpos.2 hle)]
    · rw [min_eq_right hle, max_eq_right (sub_nonneg.2 hle)]
  case capacity => rw [h.capacity, supply_absorbers]
  case mem_iff => exact hmem
  case ordered => exact ordered_absorbers damageType entity
  case greedy =>
    intro done absorber rest hsplit htouched earlier hearlier
    -- something was available to the absorber, so the earlier ones had less
    obtain ⟨effect, hget, -, hpositive, hafter⟩ := hleft done absorber rest hsplit
    have havailable : 0 < amount - supply done := by
      by_contra hnone
      refine htouched ?_
      rw [hafter, hget, ActiveEffectState.left_of_nonpos hpositive (not_lt.1 hnone)]
    obtain ⟨first, last, rfl⟩ := append_of_mem hearlier
    rw [append_assoc, cons_append] at hsplit
    obtain ⟨effect', -, hrecord', hpositive', hafter'⟩ := hleft first earlier _ hsplit
    have hlast : 0 ≤ supply last := by
      refine supply_nonneg fun e he => ((hmem e).1 ?_).2.1
      simp [hsplit, he]
    have hmagnitude : effect'.magnitude = earlier.2.magnitude := by rw [← hrecord']
    rw [supply_append, supply_cons] at havailable
    rw [hafter', ActiveEffectState.left_eq hpositive', if_pos (by linarith)]
  case left =>
    intro done absorber rest hsplit
    obtain ⟨effect, hget, hrecord, hpositive, hafter⟩ := hleft done absorber rest hsplit
    refine ⟨effect, hget, hrecord, ?_⟩
    rw [hafter, ActiveEffectState.left_eq hpositive]
  case outside =>
    intro key hother
    refine h.outside key ?_
    intro hkey
    obtain ⟨absorber, habsorber, rfl⟩ := mem_map.1 hkey
    obtain ⟨hfound, habsorbs⟩ := (hmem absorber).1 habsorber
    exact hother absorber.2 hfound habsorbs
  case same => exact h.same

section Readings

variable {β : Type} {f : EntityState → β} {hf : Intrinsic f} {entityId : String}

end Readings

end Runs

/-! ## Two wards -/

/-- What the loop makes of its numbers, in any arithmetic. -/
def drainMagnitudes {K : Type} [OfNat K 0] [Add K] [Sub K] [Min K] [LE K] [DecidableLE K] :
    List K → K → K → K × K
  | [], remaining, absorbedTotal => (remaining, absorbedTotal)
  | magnitude :: rest, remaining, absorbedTotal =>
    if remaining ≤ 0 then (remaining, absorbedTotal)
    else
      let absorbed := min remaining magnitude
      if absorbed ≤ 0 then drainMagnitudes rest remaining absorbedTotal
      else drainMagnitudes rest (remaining - absorbed) (absorbedTotal + absorbed)

/-- The loop returns what the magnitudes of its absorbers make of an amount. -/
theorem drainAbsorbers_eq_ok {scope : Scope} {ctx : ItemContext} {subject : Living scope}
    {s s' : Frame} {remaining total : ℚ} {result : ℚ × ℚ}
    (h : (drainAbsorbers ctx subject damageType l remaining total).run (execute scope) s =
      .ok (result, s')) :
    result = drainMagnitudes (l.map fun e => e.2.magnitude) remaining total := by
  induction l generalizing s remaining total with
  | nil =>
    cases h
    rfl
  | cons absorber l ih =>
    rw [drainAbsorbers] at h
    rw [map_cons, drainMagnitudes]
    by_cases hdone : remaining ≤ 0
    · rw [if_pos hdone] at h ⊢
      cases h
      rfl
    · rw [if_neg hdone] at h ⊢
      dsimp only at h ⊢
      by_cases hnone : min remaining absorber.2.magnitude ≤ 0
      · rw [if_pos hnone] at h ⊢
        exact ih h
      · rw [if_neg hnone] at h ⊢
        obtain ⟨_, _, _, hrest⟩ := Program.run_bind_eq_ok.1 h
        exact ih hrest

end ShadowbaneLab
