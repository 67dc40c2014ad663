/-
# What a run keeps and what a step adds

Only its constructor checks an entity; the simulator then changes it without a check.  In every
run all that the constructor checks stays true of it, the upper bounds of its scalars apart
(`reachable_check_iff`).  A step adds the executions of the decisions it accepts and no other
(`step_starts`).
-/
import ShadowbaneLab.Sim.ActionLifecycle
import ShadowbaneLab.Sim.Items

namespace ShadowbaneLab

open Foundation Dict List

variable {e : EntityState}

/-! ## Well-formed entities -/

/-- What the constructor checks of an entity, but for the upper bounds of its scalars. -/
structure EntityState.Formed (e : EntityState) : Prop where
  valid : { e with maximums := ∅ }.Valid
  maximums : ∀ key maximum, e.maximums.get? key = some maximum → Identifier key ∧ 0 ≤ maximum

theorem ApplyEffect.activate_valid (effect : ApplyEffect) {sourceId : String}
    (source_ok : Identifier sourceId) (dueTime order : ℕ) :
    (effect.activate sourceId dueTime order).Valid where
  effectKey := effect.effectKey_ok
  sourceEntityId := source_ok
  instanceId id hid := by
    obtain rfl := Option.mem_some.1 hid
    exact identifier_append_left (by decide) _
  stackingKey := effect.stackingKey_ok
  tags tag htag := effect.tags_ok.2 tag (mem_toFinset.1 htag)
  modifierKeys key hkey := by
    obtain ⟨_, hmem, rfl⟩ := mem_map.1 (mem_keys_ofList.1 hkey)
    obtain ⟨_, _, rfl⟩ := mem_map.1 hmem
    exact identifier_append_left (by decide) _
  stateful := by
    ext key
    rw [mem_toFinset, ActiveEffectState.modifierValues, activate, mem_keys_ofList,
      map_map, breakpointStateKeys, mem_toFinset]
    rfl
  nonneg key value hget := by
    obtain ⟨_, _, heq⟩ := mem_map.1 (mem_of_get?_ofList hget)
    cases heq
    exact le_refl 0

namespace EntityState

theorem Valid.formed (h : e.Valid) : e.Formed where
  valid := { h with
    maximums := nofun
    bounded := nofun }
  maximums key maximum hget :=
    ⟨h.maximums key (mem_keys_iff.2 ⟨maximum, hget⟩), (h.bounded key maximum hget).1⟩

namespace Formed

/-- A well-formed entity passes its check exactly when no scalar exceeds its maximum. -/
theorem check_iff (h : e.Formed) : e.check = .ok () ↔ ∀ key maximum value,
    e.maximums.get? key = some maximum → e.scalars.get? key = some value → value ≤ maximum := by
  have heffects : ∀ key effect, e.effects.get? key = some effect → effect.Valid :=
    fun key effect hget => (h.valid.effects key effect hget).2
  rw [check_eq_ok heffects]
  constructor
  · exact fun hvalid key maximum value hmaximum => (hvalid.bounded key maximum hmaximum).2 value
  · intro hbounded
    refine { h.valid with maximums := ?_, bounded := ?_ }
    · intro key hkey
      obtain ⟨maximum, hget⟩ := mem_keys_iff.1 hkey
      exact (h.maximums key maximum hget).1
    · exact fun key maximum hget =>
        ⟨(h.maximums key maximum hget).2, fun value => hbounded key maximum value hget⟩

section Kept

variable {key : String} (h : e.Formed)

include h

theorem adjust (key_ok : Identifier key) (change : ScalarChange) :
    (e.adjust key change).Formed := by
  refine ⟨{ h.valid with scalars := ?_, bounded := nofun, stances := ?_ }, h.maximums⟩
  · intro other hmem
    rcases mem_keys_set.1 hmem with rfl | hmem
    · exact key_ok
    · exact h.valid.scalars other hmem
  · intro stance multipliers hget
    obtain ⟨hnormal, htravel, hall⟩ := h.valid.stances stance multipliers hget
    refine ⟨hnormal, htravel, fun other factor hfactor => ?_⟩
    obtain ⟨hname, hpositive, hmem⟩ := hall other factor hfactor
    exact ⟨hname, hpositive, mem_keys_set.2 (Or.inr hmem)⟩

theorem alter (change : BodyChange) : (e.alter change).Formed := by
  have hvalid := h.valid.alter change
  cases change <;> exact ⟨hvalid, h.maximums⟩

theorem addItem (key_ok : Identifier key) {quantity : ℚ}
    (hquantity : 0 ≤ e.inventory.getD key 0 + quantity) : (e.addItem key quantity).Formed := by
  refine ⟨{ h.valid with inventory := ?_, stocked := ?_ }, h.maximums⟩
  · intro other hmem
    rcases mem_keys_set.1 hmem with rfl | hmem
    · exact key_ok
    · exact h.valid.inventory other hmem
  · exact forall_set h.valid.stocked hquantity

theorem store {active : ActiveEffectState} (hactive : active.Valid) :
    { e with effects := e.effects.set active.storageKey active }.Formed :=
  ⟨{ h.valid with effects := forall_set h.valid.effects ⟨rfl, hactive⟩ }, h.maximums⟩

end Kept

end Formed

end EntityState

/-! ## Entities along a run -/

/-- Every entity is well formed. -/
def AllFormed (entities : Dict String EntityState) : Prop :=
  ∀ k e, entities.get? k = some e → e.Formed

variable {scope : Scope} {s s' : Frame}

theorem change_formed (h : Change scope s s') (hs : AllFormed s.entities) :
    AllFormed s'.entities := by
  cases h with
  | adjust subject key change key_ok =>
    exact forall_modify hs fun _ _ he => he.adjust key_ok change
  | alter subject change => exact forall_modify hs fun _ _ he => he.alter change
  | moveItem source target itemId quantity entity itemId_ok positive found enough =>
    refine forall_modify (forall_modify hs fun e hget he => he.addItem itemId_ok ?_)
      fun e _ he => he.addItem itemId_ok ?_
    · obtain rfl : entity = e := Option.some.inj (found.symm.trans hget)
      linarith
    · exact add_nonneg (he.valid.quantity_nonneg itemId) positive.le
  | store subject effect sourceId source_ok =>
    exact forall_modify hs fun _ _ he => he.store (effect.activate_valid source_ok _ _)
  | discard subject storageKey =>
    exact forall_modify hs fun _ _ he => ⟨he.valid.dropEffect storageKey, he.maximums⟩
  | interrupt => exact forall_modify hs fun _ _ he => ⟨{ he.valid with }, he.maximums⟩
  | _ => exact hs

theorem move_formed (h : Move scope s s') (hs : AllFormed s.entities) :
    AllFormed s'.entities := by
  cases h with
  | change h => exact change_formed h hs
  | expire entityId storageKey =>
    exact forall_modify hs fun _ _ he => ⟨he.valid.dropEffect storageKey, he.maximums⟩
  | die => exact forall_modify hs fun _ _ he => ⟨{ he.valid with }, he.maximums⟩
  | rest => exact forall_modify hs fun _ _ he => ⟨{ he.valid with }, he.maximums⟩
  | _ => exact hs

theorem consume_formed {catalog : ActionCatalog} {item : ScheduledItem}
    (h : Consume catalog scope item s s') (hs : AllFormed s.entities) : AllFormed s'.entities := by
  cases h with
  | drop => exact hs
  | nextPhase => exact (Frame.enterPhase_entities _ _ _ _ _ _ _).symm ▸ hs
  | complete =>
    refine forall_modify hs fun _ _ he => ?_
    split
    · exact ⟨{ he.valid with }, he.maximums⟩
    · exact he

variable {rt : Runtime} {cfg : Config rt} {world world' : World} {events : List Event}

theorem step_formed {fuel : ℕ} {decisions : List DecisionMessage} {truncated : Bool}
    {batch : EventBatchMessage} (hw : Coherent world) (hworld : AllFormed world.entities)
    (h : step cfg fuel world decisions truncated = .ok (batch, world')) :
    AllFormed world'.entities := by
  have hchain {scope : Scope} {s s' : Frame} (h : Changes scope s s') (hs : AllFormed s.entities) :
      AllFormed s'.entities := by
    induction h with
    | refl => exact hs
    | tail _ hlast ih => exact change_formed hlast ih
  obtain ⟨s, hs, _, rfl⟩ := step_preserves (P := fun t => AllFormed t.entities)
    (fun s s' rejection hs hrejected => by
      rw [reject_eq_ok hrejected]
      exact hs)
    (fun s s' admitted _ hcoherent hs hstarted => by
      obtain ⟨s₁, s₂, _, _, _, hfirst, _, hsecond, _, rfl⟩ :=
        (startAction_eq_ok hcoherent hstarted).chain
      rw [Frame.enterPhase_entities]
      have hs₁ := hchain hfirst hs
      exact hchain hsecond hs₁)
    (fun s s' item hitem hcoherent hs hturn =>
      (processItem_turn hcoherent hitem hturn).preserves (P := fun t => AllFormed t.entities)
        (fun _ hconsumed => consume_formed hconsumed hs) (fun _ _ => move_formed))
    (fun _ hs => hs) hw hworld h
  exact hs

/-- **What only the constructor checks stays true.**  In every reachable world an entity passes
the check of its constructor exactly when no scalar exceeds its maximum. -/
theorem reachable_check_iff {k : String} (h : Reachable cfg events world)
    (found : world.entities.get? k = some e) : e.check = .ok () ↔ ∀ key maximum value,
      e.maximums.get? key = some maximum → e.scalars.get? key = some value → value ≤ maximum := by
  have hformed : Coherent world ∧ AllFormed world.entities :=
    h.induction (P := fun _ world => Coherent world ∧ AllFormed world.entities)
      (fun _ hbuilt => ⟨hbuilt.coherent, fun k e he => (hbuilt.valid k e he).formed⟩)
      (fun _ _ _ _ _ _ _ hs hstep => ⟨coherent_step hs.1 hstep, step_formed hs.1 hs.2 hstep⟩)
  exact (hformed.2 k e found).check_iff

/-- A first step in which coins are handed over. -/
theorem give_step : ∃ (cfg : Config Runtime.sample) (world world' : World)
    (batch : EventBatchMessage) (e : EntityState), Reachable cfg [] world ∧
      world.executions.keys = [] ∧
      step cfg 8 world [giveDecision] false = .ok (batch, world') ∧
      world'.executions.keys = [toLex ("giver", "gift")] ∧
      world'.entities.get? "taker" = some e ∧ e.inventory.get? "coin" = some 3 ∧
        e.maximums.keys = [] := by
  have hrun : replays Runtime.sample giveSetup 8 [] (fun cfg events world =>
      decide (events = [] ∧ world.executions.keys = []) &&
      match step cfg 8 world [giveDecision] false with
      | .ok (_, world') => decide (world'.executions.keys = [toLex ("giver", "gift")]) &&
          (world'.entities.get? "taker").any (fun e =>
            decide (e.inventory.get? "coin" = some 3 ∧ e.maximums.keys = []))
      | .error _ => false) = true := by
    decide +kernel
  obtain ⟨cfg, events, world, hreplay, hworld⟩ := exists_of_replays hrun
  rw [Bool.and_eq_true, decide_eq_true_eq] at hworld
  obtain ⟨⟨rfl, hidle⟩, hstep⟩ := hworld
  split at hstep
  · rename_i batch world' hstepped
    rw [Bool.and_eq_true, decide_eq_true_eq, Option.any_eq_true] at hstep
    obtain ⟨hkeys, e, hfound, he⟩ := hstep
    exact ⟨cfg, world, world', batch, e, replay_reachable hreplay, hidle, hstepped, hkeys, hfound,
      of_decide_eq_true he⟩
  · cases hstep

/-- After the handover the other passes its check. -/
theorem reachable_check_iff_give : ∃ (cfg : Config Runtime.sample) (events : List Event)
    (world : World) (e : EntityState), Reachable cfg events world ∧
      world.entities.get? "taker" = some e ∧ e.inventory.get? "coin" = some 3 ∧
      e.check = .ok () := by
  obtain ⟨cfg, world, world', batch, e, hworld, _, hstep, _, hfound, hcoins, hnone⟩ := give_step
  have hreached := (Run.refl.step hstep).reachable hworld
  refine ⟨cfg, _, world', e, hreached, hfound, hcoins, (reachable_check_iff hreached hfound).2 ?_⟩
  intro key maximum value hget
  have hkey := mem_keys_iff.2 ⟨maximum, hget⟩
  rw [hnone] at hkey
  cases hkey

/-! ## What a step starts -/

variable {decision : DecisionMessage} {action : ActionSpec}

theorem Starts.keys (h : Starts cfg s s' decision action) (k : ExecutionKey) :
    k ∈ s'.executions.keys ↔ k ∈ s.executions.keys ∨ decision.executionKey = k := by
  obtain ⟨s₁, s₂, _, _, _, hfirst, _, hsecond, _, rfl⟩ := h.chain
  rw [Frame.enterPhase_executions, mem_keys_set,
    ← (changes_executions hsecond).mem_keys_iff, or_comm, eq_comm]
  exact or_congr_left ((changes_executions hfirst).mem_keys_iff k).symm

/-- The starts of a step, one after the other. -/
theorem starts_keys {l : List (DecisionMessage × ActionSpec)} (hs : Coherent s.toWorld)
    (h : l.foldlM (startAction cfg) s = .ok s') : Coherent s'.toWorld ∧ ∀ k,
      k ∈ s'.executions.keys ↔ k ∈ s.executions.keys ∨ ∃ a ∈ l, a.1.executionKey = k := by
  induction l generalizing s with
  | nil =>
    cases h
    exact ⟨hs, by simp⟩
  | cons a rest ih =>
    rw [foldlM_cons] at h
    obtain ⟨s₁, hstarted, h⟩ := bind_eq_ok.mp h
    have hstarts := startAction_eq_ok hs hstarted
    obtain ⟨hs', hrest⟩ := ih (hs.starts hstarts) h
    refine ⟨hs', fun k => ?_⟩
    rw [hrest, hstarts.keys, or_assoc]
    simp only [mem_cons, exists_eq_or_imp]

/-- **A step starts what it accepts.**  The accepted decisions were offered to their agents, one
to an agent, and have new keys; the executions of these keys are added, and no other. -/
theorem step_starts {fuel : ℕ} {decisions : List DecisionMessage} {truncated : Bool}
    {batch : EventBatchMessage} (h : Reachable cfg events world)
    (stepped : step cfg fuel world decisions truncated = .ok (batch, world')) :
    ((accepted (verdicts cfg world decisions)).map (fun a => a.1.agentId)).Nodup ∧
    (∀ a ∈ accepted (verdicts cfg world decisions), Offered cfg world a.1 a.2 ∧
      a.1.executionKey ∉ world.executions.keys) ∧
    ∀ k, k ∈ world'.executions.keys ↔ k ∈ world.executions.keys ∨
      ∃ a ∈ accepted (verdicts cfg world decisions), a.1.executionKey = k := by
  obtain ⟨s₀, s₁, s₂, s₃, hstages, rfl, rfl⟩ := step_eq_ok stepped
  have hrejected : Coherent s₀.toWorld ∧ s₀.executions = world.executions := by
    refine foldlM_preserves (P := fun t => Coherent t.toWorld ∧
      t.executions = world.executions) ?_ ⟨h.coherent, rfl⟩ hstages.rejected
    rintro t rejection t' _ ⟨ht, heq⟩ hreject
    rw [reject_eq_ok hreject]
    exact ⟨ht.of_eq rfl rfl rfl rfl, heq⟩
  obtain ⟨hs₁, hkeys⟩ := starts_keys hrejected.1 hstages.started
  have hdrained := processDue_executions hs₁ hstages.drained
  have hdone := processDue_executions
    ((hs₁.processDue hstages.drained).of_eq rfl rfl rfl rfl : Coherent (s₂.advance _).toWorld)
    hstages.done
  refine ⟨accepted_agents_nodup decisions, fun a ha => ?_, fun k => ?_⟩
  · obtain ⟨hoffered, hfresh⟩ := accepted_offered ha
    exact ⟨hoffered, Dict.get?_eq_none.1 hfresh⟩
  · rw [← hdone.mem_keys_iff, ← hrejected.2, ← hkeys]
    exact (hdrained.mem_keys_iff k).symm

theorem step_starts_give : ∃ (cfg : Config Runtime.sample) (world : World),
    Reachable cfg [] world ∧ ∃ a ∈ accepted (verdicts cfg world [giveDecision]),
      a.1.executionKey = toLex ("giver", "gift") := by
  obtain ⟨cfg, world, world', batch, _, hworld, hidle, hstep, hkeys, _⟩ := give_step
  have hadded := ((step_starts hworld hstep).2.2 (toLex ("giver", "gift"))).1
    (by rw [hkeys]; exact mem_singleton_self _)
  rw [hidle] at hadded
  exact ⟨cfg, world, hworld, hadded.resolve_left not_mem_nil⟩

end ShadowbaneLab
