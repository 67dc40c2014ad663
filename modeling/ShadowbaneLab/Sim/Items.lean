/-
# Items are conserved

The total quantity of an item over all entities never changes, and no entity ever holds a
negative quantity (`items_conserved`).  One change moves items, between two entities that
exist, and only what its source holds.
-/
import Mathlib.Tactic.Ring
import ShadowbaneLab.Sim.Admission
import ShadowbaneLab.Sim.Validity

namespace ShadowbaneLab

open Foundation

/-! ## Quantities -/

/-- The quantity an entity holds of an item. -/
def EntityState.quantity (itemId : String) (entity : EntityState) : ℚ :=
  entity.inventory.getD itemId 0

/-- The quantity of an item in a world. -/
def World.quantity (itemId : String) (world : World) : ℚ :=
  world.entities.total (EntityState.quantity itemId)

/-- No entity holds a negative quantity. -/
def World.Stocked (world : World) : Prop :=
  ∀ k e, world.entities.get? k = some e → ∀ itemId, 0 ≤ e.quantity itemId

/-- Two entities hold the same items. -/
def SameInventory (e e' : EntityState) : Prop := e'.inventory = e.inventory

theorem SameInventory.refl (e : EntityState) : SameInventory e e := rfl

theorem EntityState.quantity_addItem (itemId other : String) (quantity : ℚ) (entity : EntityState) :
    (entity.addItem itemId quantity).quantity other =
      entity.quantity other + if itemId = other then quantity else 0 := by
  unfold EntityState.quantity EntityState.addItem Dict.getD
  rw [Dict.get?_set]
  split
  · rename_i heq
    subst heq
    rfl
  · rw [add_zero]

/-- Between two worlds no item appeared, vanished or went into debt. -/
structure Conserved (world world' : World) : Prop where
  quantity : ∀ itemId, world'.quantity itemId = world.quantity itemId
  stocked : world.Stocked → world'.Stocked

namespace Conserved

variable {world world' world'' : World}

theorem refl (world : World) : Conserved world world := ⟨fun _ => rfl, id⟩

theorem trans (h : Conserved world world') (h' : Conserved world' world'') :
    Conserved world world'' :=
  ⟨fun itemId => (h'.quantity itemId).trans (h.quantity itemId), fun hs => h'.stocked (h.stocked hs)⟩

/-- A step that leaves all inventories alone conserves items. -/
theorem of_rel (h : Dict.Rel SameInventory world.entities world'.entities) :
    Conserved world world' where
  quantity itemId := (h.total_eq (fun e e' (heq : e'.inventory = e.inventory) => by
    rw [EntityState.quantity, EntityState.quantity, heq])).symm
  stocked hs k e' he' itemId := by
    obtain ⟨e, he, heq⟩ := h.of_eq_some_right he'
    have heq : e'.inventory = e.inventory := heq
    have hold := hs k e he itemId
    rw [EntityState.quantity] at hold ⊢
    rwa [heq]

theorem of_modify {k : String} {f : EntityState → EntityState}
    (h : world'.entities = world.entities.modify k f) (hf : ∀ e, SameInventory e (f e)) :
    Conserved world world' := by
  apply of_rel
  rw [h]
  exact Dict.rel_modify SameInventory.refl _ _ (fun e _ => hf e)

theorem of_eq (h : world'.entities = world.entities) : Conserved world world' := by
  apply of_rel
  rw [h]
  exact Dict.rel_refl SameInventory.refl _

end Conserved

/-! ## Moving an item -/

variable {world world' : World}

variable {quantity : ℚ}

/-- Adding to what one entity holds adds to the total. -/
theorem quantity_addItem {k itemId : String} {e : EntityState}
    (found : world.entities.get? k = some e)
    (h : world'.entities = world.entities.modify k (EntityState.addItem itemId quantity))
    (other : String) :
    world'.quantity other = world.quantity other + if itemId = other then quantity else 0 := by
  rw [World.quantity, World.quantity, h, Dict.total_modify _ found, EntityState.quantity_addItem]
  ring

/-- **A transfer conserves items**, also from an entity to itself. -/
theorem conserved_moveItem {s : Frame} {sourceId targetId itemId : String}
    {source target : EntityState} (positive : 0 < quantity)
    (hsource : s.entities.get? sourceId = some source)
    (htarget : s.entities.get? targetId = some target) (enough : quantity ≤ source.quantity itemId)
    :
    Conserved s.toWorld
      ((s.modifyEntity sourceId (EntityState.addItem itemId (-quantity))).modifyEntity targetId
        (EntityState.addItem itemId quantity)).toWorld := by
  generalize hs₁ : s.modifyEntity sourceId (EntityState.addItem itemId (-quantity)) = s₁
  have hentities : s₁.entities = s.entities.modify sourceId (.addItem itemId (-quantity)) := by
    rw [← hs₁]
    rfl
  -- the destination is read after the source was written
  obtain ⟨target', htarget'⟩ : ∃ target', s₁.entities.get? targetId = some target' := by
    rw [hentities, Dict.get?_modify, htarget]
    split <;> exact ⟨_, rfl⟩
  refine ⟨?_, ?_⟩
  · intro other
    rw [quantity_addItem htarget' rfl, quantity_addItem hsource hentities]
    split <;> ring
  · intro hstocked
    have hstocked₁ : ∀ k e, s₁.entities.get? k = some e → ∀ other, 0 ≤ e.quantity other := by
      rw [hentities]
      refine Dict.forall_modify hstocked fun e he hold other => ?_
      obtain rfl : source = e := Option.some.inj (hsource.symm.trans he)
      rw [EntityState.quantity_addItem]
      have hold := hold other
      split
      · rename_i hsame
        subst hsame
        linarith
      · linarith
    refine Dict.forall_modify hstocked₁ fun e _ hold other => ?_
    rw [EntityState.quantity_addItem]
    have hold := hold other
    split <;> linarith

/-! ## Moves conserve items -/

section Moves

variable {catalog : ActionCatalog} {scope : Scope} {item : ScheduledItem} {s s' : Frame}

/-- Everyone eligible in a scope exists. -/
def Scope.Populates (scope : Scope) (world : World) : Prop :=
  ∀ entityId ∈ scope.eligible, ∃ e, world.entities.get? entityId = some e

theorem Scope.Populates.of_rel (h : scope.Populates world)
    (hrel : Dict.Rel EntityState.Persists world.entities world'.entities) :
    scope.Populates world' := by
  intro entityId hmem
  obtain ⟨e, he⟩ := h entityId hmem
  obtain ⟨e', he', _⟩ := hrel.of_eq_some he
  exact ⟨e', he'⟩

theorem change_conserves (hscope : scope.Populates s.toWorld) (h : Change scope s s') :
    Conserved s.toWorld s'.toWorld := by
  cases h with
  | moveItem source target itemId quantity entity itemId_ok positive found enough =>
    obtain ⟨target', htarget⟩ := hscope target.id target.eligible
    exact conserved_moveItem positive found htarget enough
  | adjust => exact .of_modify rfl (fun _ => rfl)
  | alter subject change =>
    refine .of_modify rfl ?_
    intro e
    cases change <;> rfl
  | store =>
    apply Conserved.of_modify rfl
    exact fun _ => rfl
  | discard => exact .of_modify rfl (fun _ => rfl)
  | interrupt =>
    apply Conserved.of_modify rfl
    exact fun _ => rfl
  | _ => exact .of_eq rfl

theorem move_conserves (hscope : scope.Populates s.toWorld) (h : Move scope s s') :
    Conserved s.toWorld s'.toWorld := by
  cases h with
  | change h => exact change_conserves hscope h
  | expire => exact .of_modify rfl (fun _ => rfl)
  | die =>
    apply Conserved.of_modify rfl
    exact fun _ => rfl
  | rest =>
    apply Conserved.of_modify rfl
    exact fun _ => rfl
  | _ => exact .of_eq rfl

theorem consume_conserves (h : Consume catalog scope item s s') :
    Conserved s.toWorld s'.toWorld := by
  cases h with
  | drop => exact .of_eq rfl
  | nextPhase => exact .of_eq (Frame.enterPhase_entities _ _ _ _ _ _ _)
  | complete execution =>
    refine .of_modify rfl ?_
    intro e
    unfold SameInventory
    split <;> rfl

theorem changes_conserve (hscope : scope.Populates s.toWorld) (h : Changes scope s s') :
    Conserved s.toWorld s'.toWorld := by
  suffices scope.Populates s'.toWorld ∧ Conserved s.toWorld s'.toWorld from this.2
  induction h with
  | refl => exact ⟨hscope, .refl _⟩
  | tail _ hlast ih =>
    exact ⟨ih.1.of_rel (change_entities hlast), ih.2.trans (change_conserves ih.1 hlast)⟩

theorem Turn.conserves (hscope : scope.Populates s.toWorld) (h : Turn catalog scope item s s') :
    Conserved s.toWorld s'.toWorld :=
  (h.preserves (P := fun t => scope.Populates t.toWorld ∧ Conserved s.toWorld t.toWorld)
    (fun _ hconsume => ⟨hscope.of_rel (consume_entities hconsume), consume_conserves hconsume⟩)
    (fun _ _ hmove ht =>
      ⟨ht.1.of_rel (move_entities hmove), ht.2.trans (move_conserves ht.1 hmove)⟩)).2

end Moves

/-! ## Runs conserve items -/

section Runs

variable {rt : Runtime} {cfg : Config rt} {s s' : Frame}

theorem starts_conserves {decision : DecisionMessage} {action : ActionSpec}
    (h : Starts cfg s s' decision action) : Conserved s.toWorld s'.toWorld := by
  obtain ⟨s₁, s₂, actor, triggered, delay, hfirst, ⟨e, he, _⟩, hsecond, _, rfl⟩ := h.chain
  have hscope₁ : (startScope cfg s.nowMs decision.agentId).Populates s₁.toWorld := by
    intro entityId hmem
    obtain rfl := Finset.mem_singleton.mp hmem
    exact ⟨e, he⟩
  have hscope : (startScope cfg s.nowMs decision.agentId).Populates s.toWorld := by
    intro entityId hmem
    obtain ⟨e₁, he₁⟩ := hscope₁ entityId hmem
    obtain ⟨e₀, he₀, _⟩ := (moves_entities hfirst.moves).of_eq_some_right he₁
    exact ⟨e₀, he₀⟩
  have hreported : Conserved s₁.toWorld (s₁.report (startScope cfg s.nowMs decision.agentId)
      (startedDraft decision action)).toWorld := .of_eq rfl
  have hafter := hreported.trans (changes_conserve hscope₁ hsecond)
  exact ((changes_conserve hscope hfirst).trans hafter).trans
    (.of_eq (Frame.enterPhase_entities _ _ _ _ _ _ _))

theorem processItem_conserves {item : ScheduledItem} (hs : Coherent s.toWorld)
    (hitem : item ∈ s.scheduled) (h : processItem cfg item (s.take item) = .ok s') :
    Conserved s.toWorld s'.toWorld := by
  refine (processItem_turn hs hitem h).conserves ?_
  intro entityId hmem
  obtain ⟨e, he, _⟩ := hs.mem_aliveIds.mp hmem
  exact ⟨e, he⟩

theorem step_conserves {fuel : ℕ} {decisions : List DecisionMessage} {truncated : Bool}
    {batch : EventBatchMessage} (hw : Coherent world)
    (h : step cfg fuel world decisions truncated = .ok (batch, world')) :
    Conserved world world' := by
  obtain ⟨s, hs, _, rfl⟩ := step_preserves (P := fun t => Conserved world t.toWorld)
    (fun s s' rejection hs hreject => by
      rw [reject_eq_ok hreject]
      exact hs.trans (.of_eq rfl))
    (fun s s' admitted _ hcoherent hs hstart =>
      hs.trans (starts_conserves (startAction_eq_ok hcoherent hstart)))
    (fun s s' item hitem hcoherent hs hturn =>
      hs.trans (processItem_conserves hcoherent hitem hturn))
    (fun s hs => hs.trans (.of_eq rfl)) hw (.refl world) h
  exact hs

theorem Run.conserves {start world : World} {events : List Event} (hstart : Coherent start)
    (h : Run cfg start events world) : Conserved start world := by
  suffices Coherent world ∧ Conserved start world from this.2
  induction h with
  | refl => exact ⟨hstart, .refl start⟩
  | step _ stepped ih =>
    exact ⟨coherent_step ih.1 stepped, ih.2.trans (step_conserves ih.1 stepped)⟩

theorem World.Valid.stocked {world : World} (h : world.Valid) : world.Stocked :=
  fun k e he itemId => (h k e he).quantity_nonneg itemId

/-- **Items are conserved.**  In every reachable world no entity holds a negative quantity,
and from there no run changes the total quantity of an item. -/
theorem items_conserved {events later : List Event} {world world' : World}
    (h : Reachable cfg events world) (run : Run cfg world later world') :
    (∀ k e, world.entities.get? k = some e → ∀ itemId, 0 ≤ e.quantity itemId) ∧
      ∀ itemId, world'.quantity itemId = world.quantity itemId := by
  obtain ⟨start, hbuilt, hrun⟩ := h
  have hreached : Reachable cfg events world := ⟨start, hbuilt, hrun⟩
  exact ⟨(hrun.conserves hbuilt.coherent).stocked hbuilt.valid.stocked,
    (run.conserves hreached.coherent).quantity⟩

/-! ### A handover -/

/-- The action of handing everything of an item to an ally. -/
def giveAction : ActionSpec :=
  { waitAction 100 with
    actionKey := "give"
    targeting :=
      { (waitAction 100).targeting with
        kind := .entity
        allowedRelations := [.ally]
        relations_nodup := by decide
        relations_iff := by decide }
    phases := [{
      kind := .active
      durationMs := 100
      effects := [.direct (.transferItem
        ⟨.actor, .target, none, none, by decide, identifier_of_mem_none, pos_of_mem_none⟩)]
      recovery_ok := by simp }]
    actionKey_ok := by decide
    phases_ne := by simp
    weaponAttack_ok := by simp [waitAction]
    armedTrigger_ok := by simp [waitAction]
    cancel_ok := by simp [waitAction]
    actorArea_ok := by simp [areaEffects]
    targetArea_ok := by simp [areaEffects]
    hitRoll_ok := by simp [waitAction] }

/-- Two allies, one of whom has coins to give. -/
def giveSetup : Setup where
  catalog :=
    { actions := [giveAction]
      keys_ok := ⟨List.nodup_singleton _, by simp [giveAction]; decide⟩
      triggers_ok := ⟨by simp [giveAction, waitAction], by simp [giveAction, waitAction]⟩ }
  entities := [
    { waiter "giver" with
      teamId := some "t", actionKeys := ["give"], inventory := Dict.ofList [("coin", 3)] },
    { waiter "taker" with teamId := some "t", actionKeys := [] }]
  seed := 0

def giveDecision : DecisionMessage :=
  { waitDecision 0 "giver" "gift" with
    actionKey := "give"
    binding :=
      { actorId := "giver"
        targetKind := .entity
        targetEntityId := some "taker"
        quantity := some 3
        itemId := some "coin"
        itemId_ok := by
          rintro i ⟨⟩
          decide }
    actionKey_ok := by decide }

/-- After the handover the other holds the coins, and their number is the same. -/
theorem items_conserved_give :
    ∃ (cfg : Config Runtime.sample) (world world' : World) (later : List Event),
      Reachable cfg [] world ∧ Run cfg world later world' ∧ world.quantity "coin" = 3 ∧
        (world'.entities.get? "giver").map (EntityState.quantity "coin") = some 0 ∧
        (world'.entities.get? "taker").map (EntityState.quantity "coin") = some 3 ∧
        world'.quantity "coin" = world.quantity "coin" := by
  have hrun : replays Runtime.sample giveSetup 8 [] (fun cfg events world =>
      decide (events = []) && decide (world.quantity "coin" = 3) &&
      match runSteps cfg 8 world [[giveDecision]] with
      | .ok (_, world') =>
        decide ((world'.entities.get? "giver").map (EntityState.quantity "coin") = some 0) &&
        decide ((world'.entities.get? "taker").map (EntityState.quantity "coin") = some 3)
      | .error _ => false) = true := by
    decide +kernel
  obtain ⟨cfg, events, world, hreplay, hworld⟩ := exists_of_replays hrun
  rw [Bool.and_eq_true, Bool.and_eq_true, decide_eq_true_eq, decide_eq_true_eq] at hworld
  obtain ⟨⟨rfl, hthree⟩, hsteps⟩ := hworld
  split at hsteps
  · rename_i later world' hlater
    rw [Bool.and_eq_true, decide_eq_true_eq, decide_eq_true_eq] at hsteps
    have hreached := replay_reachable hreplay
    have hlaterRun : Run cfg world later world' := Run.refl.extend hlater
    exact ⟨cfg, world, world', later, hreached, hlaterRun, hthree, hsteps.1, hsteps.2,
      (items_conserved hreached hlaterRun).2 "coin"⟩
  · cases hsteps

end Runs

end ShadowbaneLab
