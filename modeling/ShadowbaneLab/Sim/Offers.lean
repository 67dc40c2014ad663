/-
# What an exchange offers

Every affordance of an exchange belongs to an action of the catalog, and binds an item exactly
where the action transfers one to an entity; the item is then taken from what the actor holds
(`exchange_offers`).  The transfer is taken from the entity that its `from_subject` designates, so
it is payable exactly where that is the actor, or holds as much (`offered_payable_iff`).
-/
import ShadowbaneLab.Sim.Items

namespace ShadowbaneLab

open Foundation

/-! ## Lists built step by step -/

/-- What a step adds satisfies a property that all members then satisfy. -/
theorem forall_mem_of_foldlM {α β : Type} {P : β → Prop} {step : List β → α → Except Fault (List β)}
    (hstep : ∀ acc a acc', step acc a = .ok acc' → (∀ b ∈ acc, P b) → ∀ b ∈ acc', P b)
    {l : List α} {acc acc' : List β} (h : l.foldlM step acc = .ok acc') (hacc : ∀ b ∈ acc, P b) :
    ∀ b ∈ acc', P b := by
  induction l generalizing acc with
  | nil =>
    cases h
    exact hacc
  | cons a l ih =>
    rw [List.foldlM_cons] at h
    obtain ⟨acc₁, hfirst, hrest⟩ := bind_eq_ok.1 h
    exact ih hrest (hstep acc a acc₁ hfirst hacc)

/-- A member of a list of results is the result of a member. -/
theorem exists_of_mem_mapM {α β : Type} {f : α → Except Fault β} {l : List α} {l' : List β}
    (h : l.mapM f = .ok l') {b : β} (hb : b ∈ l') : ∃ a ∈ l, f a = .ok b := by
  induction l generalizing l' with
  | nil =>
    rw [List.mapM_nil] at h
    cases h
    cases hb
  | cons a l ih =>
    rw [List.mapM_cons] at h
    obtain ⟨b', hfirst, h⟩ := bind_eq_ok.1 h
    obtain ⟨rest, hrest, h⟩ := bind_eq_ok.1 h
    cases h
    rcases List.mem_cons.1 hb with rfl | hb
    · exact ⟨a, List.mem_cons_self, hfirst⟩
    · obtain ⟨a', ha', hresult⟩ := ih hrest hb
      exact ⟨a', List.mem_cons_of_mem _ ha', hresult⟩

section Offers

variable {rt : Runtime} {cfg : Config rt} {entities : Dict String EntityState} {tick nowMs : ℕ}
  {actor : EntityState} {action : ActionSpec}

/-! ## Bindings -/

/-- The binding of one item, taken from the actor's inventory. -/
structure BindsItem (actor target : EntityState) (transfer : TransferItem) (itemId : String)
    (binding : ActionBinding) : Prop where
  actorId : binding.actorId = actor.entityId
  targetKind : binding.targetKind = .entity
  targetEntityId : binding.targetEntityId = some target.entityId
  objectiveId : binding.objectiveId = none
  item : binding.itemId = some itemId
  quantity : binding.quantity = some (transfer.quantity.getD (actor.inventory.getD itemId 0))
  held : transfer.quantity.getD (actor.inventory.getD itemId 0) ≤ actor.inventory.getD itemId 0

/-- How an action's parameters are bound: an item exactly where one is transferred to an entity. -/
inductive Bound (entities : Dict String EntityState) (actor : EntityState) (action : ActionSpec)
    (binding : ActionBinding) : Prop where
  | plain (unbound : binding.itemId = none)
      (none : action.targeting.kind = .entity → transferEffect action = .ok none)
  | item (transfer : TransferItem) (target : EntityState) (itemId : String)
      (kind : action.targeting.kind = .entity)
      (effect : transferEffect action = .ok (some transfer))
      (found : ∃ entityId, entities.get? entityId = some target)
      (binds : BindsItem actor target transfer itemId binding)

variable {binding : ActionBinding}

variable {target : EntityState} {transfer : TransferItem}

theorem itemBinding_eq_ok {itemId : String}
    (h : itemBinding actor target.entityId transfer itemId = .ok (some binding)) :
    BindsItem actor target transfer itemId binding := by
  unfold itemBinding at h
  dsimp only at h
  split at h
  · cases h
  · rename_i hquantity
    split at h
    · cases h
      exact ⟨rfl, rfl, rfl, rfl, rfl, rfl, not_lt.1 (not_or.1 hquantity).2⟩
    · cases h

variable {offered : List ActionBinding}

theorem mem_transferBindings (h : transferBindings actor target.entityId transfer = .ok offered)
    (hmem : binding ∈ offered) : ∃ itemId, BindsItem actor target transfer itemId binding := by
  obtain ⟨bindings, hbindings, h⟩ := bind_eq_ok.1 h
  cases h
  obtain ⟨bound, hbound, rfl⟩ := List.mem_filterMap.1 hmem
  obtain ⟨itemId, -, hitem⟩ := exists_of_mem_mapM hbindings hbound
  exact ⟨itemId, itemBinding_eq_ok hitem⟩

/-- The bindings of targets that are there. -/
theorem bound_of_targetBindings {transfer : Option TransferItem} {targets : List EntityState}
    {offered : List (List ActionBinding)} (hkind : action.targeting.kind = .entity)
    (htransfer : transferEffect action = .ok transfer)
    (htargets : ∀ target ∈ targets, ∃ entityId, entities.get? entityId = some target)
    (h : targets.mapM (targetBindings actor transfer (modifiesObjective action)) = .ok offered)
    (hmem : binding ∈ offered.flatten) : Bound entities actor action binding := by
  obtain ⟨bindings, hbindings, hbinding⟩ := List.mem_flatten.1 hmem
  obtain ⟨target, htarget, hbound⟩ := exists_of_mem_mapM h hbindings
  unfold targetBindings at hbound
  split at hbound
  · cases hbound
    cases hbinding
  · cases transfer with
    | none =>
      cases hbound
      rw [List.mem_singleton] at hbinding
      rw [hbinding]
      exact .plain rfl fun _ => htransfer
    | some transfer =>
      obtain ⟨itemId, hbinds⟩ := mem_transferBindings hbound hbinding
      exact .item transfer target itemId hkind htransfer (htargets target htarget) hbinds

theorem bound_of_entityBindings (hkind : action.targeting.kind = .entity)
    (h : entityBindings cfg entities actor action = .ok offered) (hmem : binding ∈ offered) :
    Bound entities actor action binding := by
  unfold entityBindings at h
  split at h
  · obtain ⟨transfer, htransfer, h⟩ := bind_eq_ok.1 h
    obtain ⟨bindings, hbindings, h⟩ := bind_eq_ok.1 h
    cases h
    refine bound_of_targetBindings hkind htransfer ?_ hbindings hmem
    intro target htarget
    obtain ⟨entityId, -, hget⟩ := List.mem_filterMap.1 (List.mem_filter.1 htarget).1
    exact ⟨entityId, hget⟩
  · obtain ⟨resolution, -, h⟩ := bind_eq_ok.1 h
    obtain ⟨transfer, htransfer, h⟩ := bind_eq_ok.1 h
    obtain ⟨bindings, hbindings, h⟩ := bind_eq_ok.1 h
    cases h
    refine bound_of_targetBindings hkind htransfer ?_ hbindings hmem
    intro target htarget
    obtain ⟨entityId, -, hget⟩ := List.mem_filterMap.1 htarget
    exact ⟨entityId, hget⟩

theorem bound_of_bindings (h : bindings cfg entities actor action = .ok offered)
    (hmem : binding ∈ offered) : Bound entities actor action binding := by
  unfold bindings at h
  split at h
  case h_1 hkind =>
    cases h
    rw [List.mem_singleton.1 hmem]
    exact .plain rfl fun hentity => absurd (hkind.symm.trans hentity) nofun
  case h_2 hkind =>
    cases h
    rw [List.mem_singleton.1 hmem]
    exact .plain rfl fun hentity => absurd (hkind.symm.trans hentity) nofun
  case h_3 hkind =>
    cases h
    obtain ⟨direction, -, rfl⟩ := List.mem_map.1 hmem
    exact .plain rfl fun hentity => absurd (hkind.symm.trans hentity) nofun
  case h_4 hkind =>
    split at h
    · cases h
      cases hmem
    · cases h
      obtain ⟨position, -, rfl⟩ := List.mem_map.1 hmem
      exact .plain rfl fun hentity => absurd (hkind.symm.trans hentity) nofun
  case h_5 hkind => exact bound_of_entityBindings hkind h hmem

/-! ## Affordances -/

/-- An affordance is offered for an action of the catalog. -/
structure OfferedFor (cfg : Config rt) (entities : Dict String EntityState) (nowMs : ℕ)
    (actor : EntityState) (action : ActionSpec) (affordance : Affordance) : Prop where
  key : affordance.actionKey = action.actionKey
  known : cfg.catalog.find? action.actionKey = some action
  startable : actorCanStart nowMs actor action = true
  bound : ∃ offered, bindings cfg entities actor action = .ok offered ∧
    affordance.binding ∈ offered
  features : affordanceFeatures cfg entities actor action affordance.binding =
    .ok affordance.features

variable {actionKey : String}

theorem find?_of_get {catalog : ActionCatalog} (h : catalog.get actionKey = .ok action) :
    catalog.find? action.actionKey = some action := by
  unfold ActionCatalog.get at h
  split at h
  · rename_i found hfind
    cases h
    have hkey : action.actionKey = actionKey := by simpa using List.find?_some hfind
    rw [hkey]
    exact hfind
  · cases h

theorem actionAffordances_offered {affordances offered : List Affordance}
    (h : actionAffordances cfg entities tick nowMs actor affordances actionKey = .ok offered)
    (hacc : ∀ a ∈ affordances, ∃ action, OfferedFor cfg entities nowMs actor action a) :
    ∀ a ∈ offered, ∃ action, OfferedFor cfg entities nowMs actor action a := by
  obtain ⟨action, haction, h⟩ := bind_eq_ok.1 h
  split at h
  · cases h
    exact hacc
  · rename_i hstart
    obtain ⟨bound, hbound, h⟩ := bind_eq_ok.1 h
    -- the fold runs over the bindings themselves, so each is known to be among them
    have hfold : ∀ (l : List ActionBinding) (acc acc' : List Affordance), (∀ b ∈ l, b ∈ bound) →
        l.foldlM (fun affordances binding => do
          let features ← affordanceFeatures cfg entities actor action binding
          pure (affordances ++
            [({ affordanceId := "affordance:" ++ decimal tick ++ ":" ++ actor.entityId ++ ":" ++
                  padded 4 affordances.length
                actionKey := action.actionKey
                binding := binding
                features := features
                tags := action.tags } : Affordance)])) acc = .ok acc' →
        (∀ a ∈ acc, ∃ action, OfferedFor cfg entities nowMs actor action a) →
        ∀ a ∈ acc', ∃ action, OfferedFor cfg entities nowMs actor action a := by
      intro l
      induction l with
      | nil =>
        intro acc acc' _ h hacc
        cases h
        exact hacc
      | cons binding l ih =>
        intro acc acc' hsub h hacc
        rw [List.foldlM_cons] at h
        obtain ⟨acc₁, hfirst, hrest⟩ := bind_eq_ok.1 h
        obtain ⟨features, hfeatures, hfirst⟩ := bind_eq_ok.1 hfirst
        cases hfirst
        refine ih _ _ (fun b hb => hsub b (List.mem_cons_of_mem _ hb)) hrest ?_
        intro a ha
        rcases List.mem_append.1 ha with ha | ha
        · exact hacc a ha
        · rw [List.mem_singleton.1 ha]
          exact ⟨action, rfl, find?_of_get haction, by simpa using hstart,
            ⟨bound, hbound, hsub binding List.mem_cons_self⟩, hfeatures⟩
    exact hfold bound affordances offered (fun _ hb => hb) h hacc

/-- Everything that an exchange offers is offered for an action. -/
theorem exchange_offers {agentId : String} {offered : AgentExchange}
    (hactor : entities.get? agentId = some actor)
    (h : exchange cfg entities tick nowMs agentId = .ok offered) {affordance : Affordance}
    (hmem : affordance ∈ offered.affordances.affordances) :
    ∃ action, OfferedFor cfg entities nowMs actor action affordance := by
  obtain ⟨actor', hactor', hbuilt, -⟩ := exchange_eq_ok h
  obtain rfl := Option.some.inj (hactor.symm.trans hactor')
  unfold buildAffordances at hbuilt
  split at hbuilt
  · exact forall_mem_of_foldlM
      (P := fun a => ∃ action, OfferedFor cfg entities nowMs actor action a)
      (fun _ _ _ hstep hacc => actionAffordances_offered hstep hacc) hbuilt (by simp)
      affordance hmem
  · rw [← Except.ok.inj hbuilt] at hmem
    cases hmem

/-! ## Payment -/

/-- The entity that a subject designates holds the bound quantity of the bound item. -/
def Payable (entities : Dict String EntityState) (subject : SubjectRef) (binding : ActionBinding) :
    Prop :=
  ∃ itemId quantity sourceId source, binding.itemId = some itemId ∧
    binding.quantity = some quantity ∧ boundId subject binding = some sourceId ∧
    entities.get? sourceId = some source ∧ quantity ≤ source.inventory.getD itemId 0

/-- The transfer of an item to an entity debits the actor, or a target that has as much of the item:
the fixed quantity, or where none is fixed as much as the actor has. -/
def DebitsHolder (entities : Dict String EntityState) (actor : EntityState) (action : ActionSpec)
    (subject : SubjectRef) (binding : ActionBinding) : Prop :=
  action.targeting.kind = .entity ∧ ∃ transfer, transferEffect action = .ok (some transfer) ∧
    (subject = .actor ∨ ∃ target itemId,
      binding.targetEntityId.bind entities.get? = some target ∧ binding.itemId = some itemId ∧
      transfer.quantity.getD (actor.inventory.getD itemId 0) ≤ target.inventory.getD itemId 0)

/-- **An offered transfer is payable exactly when it debits the actor, from whose inventory it was
offered, or a target that has as much.** -/
theorem offered_payable_iff {agentId : String} {offered : AgentExchange}
    (hkeyed : ∀ entityId e, entities.get? entityId = some e → e.entityId = entityId)
    (hactor : entities.get? agentId = some actor)
    (h : exchange cfg entities tick nowMs agentId = .ok offered) {affordance : Affordance}
    (hmem : affordance ∈ offered.affordances.affordances)
    (haction : cfg.catalog.find? affordance.actionKey = some action) (effect : TransferItem) :
    Payable entities effect.fromSubject affordance.binding ↔
      DebitsHolder entities actor action effect.fromSubject affordance.binding := by
  obtain ⟨action', hoffer⟩ := exchange_offers hactor h hmem
  obtain rfl : action' = action := by
    have hknown := hoffer.known
    rw [← hoffer.key, haction] at hknown
    exact (Option.some.inj hknown).symm
  obtain ⟨bound, hbound, hbinding⟩ := hoffer.bound
  have hcases := bound_of_bindings hbound hbinding
  generalize affordance.binding = binding at hcases ⊢
  cases hcases with
  | plain unbound none =>
    constructor
    · rintro ⟨itemId, _, _, _, hitem, -⟩
      exact absurd (unbound.symm.trans hitem) nofun
    · rintro ⟨hkind, transfer, htransfer, -⟩
      have hnone := none hkind
      rw [htransfer] at hnone
      cases hnone
  | item transfer target itemId kind htransfer found binds =>
    obtain ⟨targetId, htarget⟩ := found
    have htargetId := hkeyed targetId target htarget
    have hactorId := hkeyed agentId actor hactor
    -- the target is designated by every subject but the actor
    have hdesignated : boundId effect.fromSubject binding =
        if effect.fromSubject = .actor then some actor.entityId else some target.entityId := by
      cases effect.fromSubject with
      | actor => exact congrArg some binds.actorId
      | target => simp [boundId, binds.targetKind, binds.targetEntityId]
      | objective => simp [boundId, binds.objectiveId, binds.targetEntityId]
    have hfound : binding.targetEntityId.bind entities.get? = some target := by
      rw [binds.targetEntityId, Option.bind_some, htargetId]
      exact htarget
    constructor
    · rintro ⟨itemId', quantity, sourceId, source, hitem, hquantity, hsource, hget, hle⟩
      obtain rfl := Option.some.inj (binds.item.symm.trans hitem)
      obtain rfl := Option.some.inj (binds.quantity.symm.trans hquantity)
      refine ⟨kind, transfer, htransfer, ?_⟩
      by_cases hsubject : effect.fromSubject = .actor
      · exact .inl hsubject
      · rw [hdesignated, if_neg hsubject] at hsource
        obtain rfl := Option.some.inj hsource
        rw [htargetId, htarget] at hget
        obtain rfl := Option.some.inj hget
        exact .inr ⟨target, itemId, hfound, binds.item, hle⟩
    · rintro ⟨-, transfer', htransfer', hpays⟩
      obtain rfl := Option.some.inj (Except.ok.inj (htransfer.symm.trans htransfer'))
      by_cases hsubject : effect.fromSubject = .actor
      · refine ⟨itemId, _, actor.entityId, actor, binds.item, binds.quantity, ?_, ?_, binds.held⟩
        · rw [hdesignated, if_pos hsubject]
        · rw [hactorId]
          exact hactor
      · obtain ⟨target', itemId', hfound', hitem', hle⟩ := hpays.resolve_left hsubject
        obtain rfl := Option.some.inj (hfound.symm.trans hfound')
        obtain rfl := Option.some.inj (binds.item.symm.trans hitem')
        refine ⟨itemId, _, target.entityId, target, binds.item, binds.quantity, ?_, ?_, hle⟩
        · rw [hdesignated, if_neg hsubject]
        · rw [htargetId]
          exact htarget

end Offers

/-! ### Taking from an ally -/

theorem take_subjects : SubjectRef.target ≠ SubjectRef.actor := by decide

/-- Everything of an item goes from the target to the actor. -/
def takeTransfer : TransferItem :=
  ⟨.target, .actor, none, none, take_subjects, identifier_of_mem_none, pos_of_mem_none⟩

/-- The action of taking everything of an item from an ally. -/
def takeAction : ActionSpec :=
  { giveAction with
    actionKey := "take"
    phases := [{
      kind := .active
      durationMs := 100
      effects := [.direct (.transferItem takeTransfer)]
      recovery_ok := by simp }]
    actionKey_ok := by decide
    phases_ne := by simp
    weaponAttack_ok := by simp [giveAction, waitAction]
    armedTrigger_ok := by simp [giveAction, waitAction]
    cancel_ok := by simp [giveAction, waitAction]
    actorArea_ok := by simp [areaEffects]
    targetArea_ok := by simp [areaEffects]
    hitRoll_ok := by simp [giveAction, waitAction] }

/-- Two allies, one of whom has coins and may take. -/
def takeSetup : Setup where
  catalog :=
    { actions := [takeAction]
      keys_ok := ⟨List.nodup_singleton _, by simp [takeAction]; decide⟩
      triggers_ok := ⟨by simp [takeAction, giveAction, waitAction],
        by simp [takeAction, giveAction, waitAction]⟩ }
  entities := [
    { waiter "giver" with
      teamId := some "t", actionKeys := ["take"], inventory := Dict.ofList [("coin", 3)] },
    { waiter "taker" with teamId := some "t", actionKeys := [] }]
  seed := 0

/-- An offer to take coins, of which the taker holds a quantity. -/
def offersCoins (cfg : Config Runtime.sample) (world : World) (quantity : ℚ) : Bool :=
  match exchange cfg world.entities world.tick world.nowMs "giver" with
  | .ok offered => offered.affordances.affordances.any fun a =>
    decide (cfg.catalog.find? a.actionKey = some takeAction) &&
      decide (a.binding.targetKind = .entity) &&
      decide (a.binding.targetEntityId = some "taker") &&
      decide (a.binding.itemId = some "coin") && decide (a.binding.quantity = some quantity)
  | .error _ => false

theorem takeSetup_offers : replays Runtime.sample takeSetup 8 [] (fun cfg events world =>
    decide (events = []) && offersCoins cfg world 3 &&
      decide ((world.entities.get? "taker").map (fun e => e.inventory.getD "coin" 0) = some 0) &&
      (world.entities.get? "giver").isSome) = true := by
  decide +kernel

/-- The actor's coins are offered to be taken from the ally, who has none. -/
theorem offered_unpayable : ∃ (cfg : Config Runtime.sample) (world : World)
    (offered : AgentExchange) (affordance : Affordance),
    Reachable cfg [] world ∧
    exchange cfg world.entities world.tick world.nowMs "giver" = .ok offered ∧
    affordance ∈ offered.affordances.affordances ∧
    cfg.catalog.find? affordance.actionKey = some takeAction ∧
    transferEffect takeAction = .ok (some takeTransfer) ∧
    ¬Payable world.entities takeTransfer.fromSubject affordance.binding := by
  obtain ⟨cfg, events, world, hreplay, hworld⟩ := exists_of_replays takeSetup_offers
  simp only [Bool.and_eq_true, decide_eq_true_eq] at hworld
  obtain ⟨⟨⟨rfl, hoffers⟩, htaker⟩, -⟩ := hworld
  unfold offersCoins at hoffers
  split at hoffers
  · rename_i offered hoffered
    obtain ⟨affordance, hmem, hoffer⟩ := List.any_eq_true.1 hoffers
    simp only [Bool.and_eq_true, decide_eq_true_eq] at hoffer
    obtain ⟨⟨⟨⟨haction, hkind⟩, htarget⟩, hitem⟩, hquantity⟩ := hoffer
    refine ⟨cfg, world, offered, affordance, replay_reachable hreplay, hoffered, hmem, haction,
      rfl, ?_⟩
    rintro ⟨itemId, quantity, sourceId, source, hitem', hquantity', hsource, hget, hle⟩
    obtain rfl := Option.some.inj (hitem.symm.trans hitem')
    obtain rfl := Option.some.inj (hquantity.symm.trans hquantity')
    have hdesignated : boundId takeTransfer.fromSubject affordance.binding = some "taker" := by
      simp [boundId, takeTransfer, hkind, htarget]
    obtain rfl := Option.some.inj (hdesignated.symm.trans hsource)
    rw [hget] at htaker
    have hnone := Option.some.inj htaker
    dsimp only at hnone
    rw [hnone] at hle
    norm_num at hle
  · cases hoffers

/-- Such an offer is payable exactly when the ally has as many coins. -/
theorem offered_payable_iff_take : ∃ (cfg : Config Runtime.sample) (world : World)
    (actor : EntityState) (affordance : Affordance),
    Reachable cfg [] world ∧
    (Payable world.entities takeTransfer.fromSubject affordance.binding ↔
      DebitsHolder world.entities actor takeAction takeTransfer.fromSubject
        affordance.binding) := by
  obtain ⟨cfg, events, world, hreplay, hworld⟩ := exists_of_replays takeSetup_offers
  simp only [Bool.and_eq_true, decide_eq_true_eq] at hworld
  obtain ⟨⟨⟨rfl, hoffers⟩, -⟩, hgiver⟩ := hworld
  obtain ⟨actor, hactor⟩ := Option.isSome_iff_exists.1 hgiver
  unfold offersCoins at hoffers
  split at hoffers
  · rename_i offered hoffered
    obtain ⟨affordance, hmem, hoffer⟩ := List.any_eq_true.1 hoffers
    simp only [Bool.and_eq_true, decide_eq_true_eq] at hoffer
    have hreached := replay_reachable hreplay
    exact ⟨cfg, world, actor, affordance, hreached,
      offered_payable_iff hreached.coherent.entities_keyed hactor hoffered hmem
        hoffer.1.1.1.1 takeTransfer⟩
  · cases hoffers

end ShadowbaneLab
