/-
# Death is final

A dead entity is never changed again, except that its effects run out, each with a report
at its expiry (`death_isFinal`).  Commands reach an entity through a `Living` handle only,
and no dead entity is eligible in the scope of a turn or of a start; of the other moves,
only an expiry touches it.
-/
import ShadowbaneLab.Sim.Admission
import ShadowbaneLab.Sim.Timeline

namespace ShadowbaneLab

open Foundation

/-! ## Frozen entities -/

/-- An event that reports the removal of an effect from an entity. -/
def Event.removesFrom (entityId : String) (event : Event) : Bool :=
  event.kind = .effectRemoved && event.targetEntityId = some entityId

/-- The tags and the time of an event. -/
def Event.stamp (event : Event) : List String × ℕ := (event.tags, event.simTimeMs)

/-- The stamp of the report that an effect has run out. -/
def ActiveEffectState.expiryStamp (active : ActiveEffectState) : List String × ℕ :=
  (["effect." ++ active.effectKey, "reason.expired"], active.expiresAtMs)

/-- Between two states of an entity only effects were lost, and the removals reported by
some events are those of the lost effects, each at its expiry. -/
structure Frozen (e e' : EntityState) (events : List Event) : Prop where
  body : e' = { e with effects := e'.effects }
  effects : ∃ lost : List (String × ActiveEffectState), (lost.map Prod.fst).Nodup ∧
    (∀ slot ∈ lost, e.effects.get? slot.1 = some slot.2) ∧
    (∀ key, e'.effects.get? key =
      if key ∈ lost.map Prod.fst then none else e.effects.get? key) ∧
    (events.filter (Event.removesFrom e.entityId)).map Event.stamp =
      lost.map (fun slot => slot.2.expiryStamp)

namespace Frozen

variable {e e' e'' : EntityState} {events events' : List Event}

theorem refl (h : events.filter (Event.removesFrom e.entityId) = []) : Frozen e e events :=
  ⟨rfl, [], List.nodup_nil, nofun, fun _ => by simp, by rw [h]; rfl⟩

theorem entityId (h : Frozen e e' events) : e'.entityId = e.entityId := by
  rw [h.body]

theorem alive (h : Frozen e e' events) : e'.alive = e.alive := by
  rw [h.body]

theorem trans (h : Frozen e e' events) (h' : Frozen e' e'' events') :
    Frozen e e'' (events ++ events') := by
  obtain ⟨lost, hnodup, hheld, hleft, hreports⟩ := h.effects
  obtain ⟨lost', hnodup', hheld', hleft', hreports'⟩ := h'.effects
  have hkept : ∀ slot ∈ lost', slot.1 ∉ lost.map Prod.fst ∧ e.effects.get? slot.1 = some slot.2 := by
    intro slot hslot
    have hget := hheld' slot hslot
    rw [hleft] at hget
    split at hget
    · cases hget
    · rename_i hmem
      exact ⟨hmem, hget⟩
  refine ⟨?_, lost ++ lost', ?_, ?_, ?_, ?_⟩
  · rw [h'.body, h.body]
  · rw [List.map_append, List.nodup_append]
    refine ⟨hnodup, hnodup', ?_⟩
    intro key hkey key' hkey' heq
    obtain ⟨slot, hslot, rfl⟩ := List.mem_map.mp hkey'
    exact (hkept slot hslot).1 (heq ▸ hkey)
  · intro slot hslot
    rcases List.mem_append.mp hslot with hslot | hslot
    · exact hheld slot hslot
    · exact (hkept slot hslot).2
  · intro key
    rw [hleft' key, hleft key, List.map_append]
    by_cases hkey : key ∈ lost.map Prod.fst <;> by_cases hkey' : key ∈ lost'.map Prod.fst <;>
      simp only [List.mem_append, hkey, hkey', if_true, if_false, or_true, true_or, or_self]
  · rw [h.entityId] at hreports'
    rw [List.filter_append, List.map_append, List.map_append, hreports, hreports']

end Frozen

/-! ## Moves spare the dead -/

/-- A dead entity of the first frame is frozen between two frames. -/
def Spares (entityId : String) (s s' : Frame) : Prop :=
  ∀ e, s.entities.get? entityId = some e → e.alive = false →
    ∃ e' new, s'.entities.get? entityId = some e' ∧ s'.events = s.events ++ new ∧ Frozen e e' new

namespace Spares

variable {scope : Scope} {entityId : String} {s s' s'' : Frame}

theorem refl (entityId : String) (s : Frame) : Spares entityId s s :=
  fun e hfound _ => ⟨e, [], hfound, (List.append_nil _).symm, .refl rfl⟩

theorem trans (h : Spares entityId s s') (h' : Spares entityId s' s'') :
    Spares entityId s s'' := by
  intro e hfound hdead
  obtain ⟨e', new, hfound', hevents, hfrozen⟩ := h e hfound hdead
  obtain ⟨e'', new', hfound'', hevents', hfrozen'⟩ := h' e' hfound' (hfrozen.alive.trans hdead)
  refine ⟨e'', new ++ new', hfound'', ?_, hfrozen.trans hfrozen'⟩
  rw [hevents', hevents, List.append_assoc]

/-- A step that leaves an entity alone and reports nothing spares it. -/
theorem of_quiet (hentity : s'.entities.get? entityId = s.entities.get? entityId)
    (hevents : s'.events = s.events) : Spares entityId s s' :=
  fun e hfound _ => ⟨e, [], hentity.trans hfound, by rw [hevents, List.append_nil], .refl rfl⟩

/-- A step that leaves an entity alone and reports no removal from it spares it. -/
theorem of_report (draft : EventDraft) {tickDurationMs time number : ℕ}
    (hs : Coherent s.toWorld) (hentity : s'.entities.get? entityId = s.entities.get? entityId)
    (hevents : s'.events = s.events ++ [draft.event tickDurationMs time number])
    (hdraft : draft.kind = .effectRemoved → draft.targetEntityId ≠ some entityId) :
    Spares entityId s s' := by
  intro e hfound _
  refine ⟨e, _, hentity.trans hfound, hevents, .refl ?_⟩
  rw [hs.entities_keyed entityId e hfound, List.filter_eq_nil_iff]
  intro event hevent hremoves
  obtain rfl := List.mem_singleton.mp hevent
  rw [Event.removesFrom, Bool.and_eq_true] at hremoves
  exact hdraft (of_decide_eq_true hremoves.1) (of_decide_eq_true hremoves.2)

end Spares

section Moves

variable {catalog : ActionCatalog} {scope : Scope} {item : ScheduledItem} {entityId : String}
  {s s' : Frame}

/-- A change touches eligible entities only. -/
theorem change_spares (hs : Coherent s.toWorld) (hout : entityId ∉ scope.eligible)
    (h : Change scope s s') : Spares entityId s s' := by
  have hne (subject : Living scope) : subject.id ≠ entityId := by
    rintro rfl
    exact hout subject.eligible
  have hmodify (subject : Living scope) (f : EntityState → EntityState) (t : Frame) :
      (t.modifyEntity subject.id f).entities.get? entityId = t.entities.get? entityId :=
    Dict.get?_modify_ne _ _ (hne subject)
  cases h with
  | randomize random => exact .of_quiet rfl rfl
  | report draft unreserved =>
    refine .of_report draft hs rfl rfl ?_
    intro hkind
    rw [hkind] at unreserved
    cases unreserved
  | reportRemoved subject active ctx reason scalars =>
    exact .of_report (effectRemovedDraft subject.id active ctx reason scalars) hs rfl rfl
      (fun _ htarget => hne subject (Option.some.inj htarget))
  | adjust subject => exact .of_quiet (hmodify subject _ s) rfl
  | alter subject => exact .of_quiet (hmodify subject _ s) rfl
  | moveItem source target =>
    exact .of_quiet ((hmodify target _ _).trans (hmodify source _ s)) rfl
  | store subject => exact .of_quiet (hmodify subject _ s) rfl
  | discard subject => exact .of_quiet (hmodify subject _ s) rfl
  | enqueue item => exact .of_quiet rfl rfl
  | interrupt subject execution reason =>
    exact .of_report (Frame.interruptedDraft reason execution) hs (hmodify subject _ s) rfl nofun

/-- **Every move spares an entity that is not eligible.** -/
theorem move_spares (hs : Coherent s.toWorld) (hout : entityId ∉ scope.eligible)
    (h : Move scope s s') : Spares entityId s s' := by
  cases h with
  | change h => exact change_spares hs hout h
  | release => exact .of_quiet rfl rfl
  | expire entityId' storageKey entity active ctx found stored due =>
    by_cases hid : entityId' = entityId
    · -- the one way a dead entity changes: its effect runs out, and is reported
      subst hid
      intro e hfound hdead
      obtain rfl : entity = e := Option.some.inj (found.symm.trans hfound)
      obtain ⟨held, hheld, rfl⟩ := Option.map_eq_some_iff.mp stored
      refine ⟨entity.dropEffect storageKey, _, ?_, rfl, rfl, [(storageKey, held)],
        List.nodup_singleton _, ?_, ?_, ?_⟩
      · show (s.entities.modify entityId' _).get? entityId' = _
        rw [Dict.get?_modify_self, hfound]
        rfl
      · intro slot hslot
        obtain rfl := List.mem_singleton.mp hslot
        exact hheld
      · intro key
        show (entity.effects.erase storageKey).get? key = _
        rw [Dict.get?_erase]
        simp only [List.map_singleton, List.mem_singleton, eq_comm]
      · rw [hs.entities_keyed entityId' entity hfound]
        simp [Event.removesFrom, Event.stamp, EventDraft.event, effectRemovedDraft,
          ActiveEffectState.expiryStamp, ← due]
    · exact .of_report (effectRemovedDraft entityId' active ctx "reason.expired") hs
        (Dict.get?_modify_ne _ _ hid) rfl (fun _ htarget => hid (Option.some.inj htarget))
  | die entityId' entity found dying =>
    by_cases hid : entityId' = entityId
    · -- only the living die
      subst hid
      intro e hfound hdead
      obtain rfl : entity = e := Option.some.inj (found.symm.trans hfound)
      rw [EntityState.dying, hdead, Bool.false_and] at dying
      cases dying
    · exact .of_report (diedDraft entity) hs (Dict.get?_modify_ne _ _ hid) rfl
        (fun hkind => by cases hkind)
  | rest actorId entity found dead eligible =>
    have hne : actorId ≠ entityId := by
      rintro rfl
      exact hout eligible
    exact .of_quiet (Dict.get?_modify_ne _ _ hne) rfl
  | close execution =>
    exact .of_report (Frame.interruptedDraft "death" execution) hs rfl rfl
      (fun hkind => by cases hkind)

/-- Only a living actor completes an action. -/
theorem consume_spares (hs : Coherent s.toWorld) (h : Consume catalog scope item s s') :
    Spares entityId s s' := by
  cases h with
  | drop => exact .of_quiet rfl rfl
  | nextPhase =>
    rw [Frame.enterPhase, foldl_schedule]
    exact .of_quiet rfl rfl
  | complete execution work found running alive =>
    by_cases hid : item.actorId = entityId
    · intro e hfound hdead
      rw [World.actorLifeKept, hid, hfound] at alive
      simp [hdead] at alive
    · exact .of_report (completedDraft item) hs (Dict.get?_modify_ne _ _ hid) rfl
        (fun hkind => by cases hkind)

theorem changes_spare (hs : Coherent s.toWorld) (hout : entityId ∉ scope.eligible)
    (h : Changes scope s s') : Spares entityId s s' := by
  induction h with
  | refl => exact .refl entityId s
  | tail hfirst hlast ih => exact ih.trans (change_spares (hs.changes hfirst) hout hlast)

/-- A turn spares an entity that was not eligible when it began. -/
theorem Turn.spares (hs : Coherent s.toWorld) (hout : entityId ∉ scope.eligible)
    (h : Turn catalog scope item s s') : Spares entityId s s' :=
  (h.preserves (P := fun t => Coherent t.toWorld ∧ Spares entityId s t)
    (fun _ hconsume => ⟨hs.consume hconsume, consume_spares hs hconsume⟩)
    (fun _ _ hmove ht => ⟨ht.1.move hmove, ht.2.trans (move_spares ht.1 hout hmove)⟩)).2

end Moves

/-! ## Runs spare the dead -/

section Runs

variable {rt : Runtime} {cfg : Config rt} {entityId : String} {s s' : Frame}

theorem Spares.processItem {item : ScheduledItem} (hs : Coherent s.toWorld)
    (hitem : item ∈ s.scheduled) (h : processItem cfg item (s.take item) = .ok s') :
    Spares entityId s s' := by
  intro e hfound hdead
  refine (processItem_turn hs hitem h).spares hs ?_ e hfound hdead
  intro heligible
  obtain ⟨e', hfound', halive⟩ := hs.mem_aliveIds.mp heligible
  obtain rfl : e = e' := Option.some.inj (hfound.symm.trans hfound')
  rw [hdead] at halive
  cases halive

theorem Spares.starts {decision : DecisionMessage} {action : ActionSpec} (hs : Coherent s.toWorld)
    (hne : decision.agentId ≠ entityId) (h : Starts cfg s s' decision action) :
    Spares entityId s s' := by
  obtain ⟨s₁, s₂, actor, triggered, delay, hfirst, _, hsecond, _, rfl⟩ := h.chain
  have hout : entityId ∉ (startScope cfg s.nowMs decision.agentId).eligible :=
    fun hmem => hne (Finset.mem_singleton.mp hmem).symm
  have hs₁ := hs.changes hfirst
  have hreported : Spares entityId s₁
      (s₁.report (startScope cfg s.nowMs decision.agentId) (startedDraft decision action)) :=
    .of_report (startedDraft decision action) hs₁ rfl rfl nofun
  have hreport : Coherent (s₁.report (startScope cfg s.nowMs decision.agentId)
      (startedDraft decision action)).toWorld := hs₁.of_eq rfl rfl rfl rfl
  have hbefore := (changes_spare hs hout hfirst).trans hreported
  refine (hbefore.trans (changes_spare hreport hout hsecond)).trans ?_
  rw [Frame.enterPhase, foldl_schedule]
  exact .of_quiet rfl rfl

/-- **A step spares an entity that is dead when it begins.** -/
theorem Spares.step {world world' : World} {fuel : ℕ} {decisions : List DecisionMessage}
    {truncated : Bool} {batch : EventBatchMessage} {e : EntityState} (hw : Coherent world)
    (found : world.entities.get? entityId = some e) (dead : e.alive = false)
    (h : step cfg fuel world decisions truncated = .ok (batch, world')) :
    ∃ e', world'.entities.get? entityId = some e' ∧ Frozen e e' batch.events := by
  obtain ⟨s, ⟨_, hs⟩, rfl, rfl⟩ := step_preserves
    (P := fun t => Coherent t.toWorld ∧ Spares entityId { world with } t)
    (fun t t' rejection ⟨ht, hspares⟩ hreject => by
      rw [reject_eq_ok hreject]
      exact ⟨ht.of_eq rfl rfl rfl rfl,
        hspares.trans (.of_report (rejectedDraft rejection) ht rfl rfl nofun)⟩)
    (fun t t' ⟨decision, action⟩ hmem _ ⟨ht, hspares⟩ hstarted => by
      have hstarts := startAction_eq_ok ht hstarted
      refine ⟨ht.starts hstarts, hspares.trans (.starts ht ?_ hstarts)⟩
      -- an admitted agent was alive when the step began
      rintro rfl
      obtain ⟨actor, hactor, hact⟩ := (accepted_offered hmem).1.actor
      obtain rfl : e = actor := Option.some.inj (found.symm.trans hactor)
      rw [mayAct, dead, Bool.false_and, Bool.false_and] at hact
      cases hact)
    (fun t t' item hitem _ ⟨ht, hspares⟩ hturn =>
      ⟨ht.turn (processItem_turn ht hitem hturn), hspares.trans (.processItem ht hitem hturn)⟩)
    (fun t ⟨ht, hspares⟩ => ⟨ht.of_eq rfl rfl rfl rfl, hspares.trans (.of_quiet rfl rfl)⟩)
    hw ⟨hw, .refl entityId { world with }⟩ h
  obtain ⟨e', new, hfound', hevents, hfrozen⟩ := hs e found dead
  obtain rfl : s.events = new := hevents.trans (List.nil_append new)
  exact ⟨e', hfound', hfrozen⟩

/-- **Death is final.**  From the moment an entity is dead, every run leaves its body as it
is, and its effects are lost only when they expire, each with its report. -/
theorem death_isFinal {events later : List Event} {world world' : World} {e : EntityState}
    (h : Reachable cfg events world) (found : world.entities.get? entityId = some e)
    (dead : e.alive = false) (run : Run cfg world later world') :
    ∃ e', world'.entities.get? entityId = some e' ∧ e'.alive = false ∧ Frozen e e' later := by
  induction run with
  | refl => exact ⟨e, found, dead, .refl rfl⟩
  | step run stepped ih =>
    obtain ⟨e', hfound', hdead', hfrozen⟩ := ih
    have hcoherent := (run.reachable h).coherent
    obtain ⟨e'', hfound'', hfrozen'⟩ := Spares.step hcoherent hfound' hdead' stepped
    exact ⟨e'', hfound'', hfrozen'.alive.trans hdead', hfrozen.trans hfrozen'⟩

/-- A dead entity under an effect that is about to run out, among the living. -/
def corpseSetup : Setup :=
  { waitSetup 200 ["a"] with
    entities := [waiter "a", { waiter "b" with
      alive := false
      effects := Dict.ofList [("mark", {
        effectKey := "mark", sourceEntityId := "b", magnitude := 1, expiresAtMs := 100 })] }] }

/-- The corpse loses its effect during the first tick, and nothing else. -/
theorem death_isFinal_corpse :
    ∃ (cfg : Config Runtime.sample) (world world' : World) (later : List Event)
      (e e' : EntityState), Reachable cfg [] world ∧ world.entities.get? "b" = some e ∧
        e.effects.keys = ["mark"] ∧ Run cfg world later world' ∧
        world'.entities.get? "b" = some e' ∧ e'.effects.keys = [] ∧ Frozen e e' later := by
  have hrun : replays Runtime.sample corpseSetup 8 [] (fun cfg events world =>
      decide (events = []) && (world.entities.get? "b").any (fun e =>
        !e.alive && decide (e.effects.keys = ["mark"])) &&
      match runSteps cfg 8 world [[]] with
      | .ok (_, world') => (world'.entities.get? "b").any (fun e =>
          decide (e.effects.keys = []))
      | .error _ => false) = true := by
    decide +kernel
  obtain ⟨cfg, events, world, hreplay, hworld⟩ := exists_of_replays hrun
  rw [Bool.and_eq_true, Bool.and_eq_true, decide_eq_true_eq, Option.any_eq_true] at hworld
  obtain ⟨⟨rfl, e, hfound, he⟩, hsteps⟩ := hworld
  rw [Bool.and_eq_true, Bool.not_eq_true', decide_eq_true_eq] at he
  split at hsteps
  · rename_i later world' hlater
    rw [Option.any_eq_true] at hsteps
    obtain ⟨e'', hfound'', hkeys⟩ := hsteps
    have hreached := replay_reachable hreplay
    have hrun : Run cfg world later world' := Run.refl.extend hlater
    obtain ⟨e', hfound', _, hfrozen⟩ := death_isFinal hreached hfound he.1 hrun
    obtain rfl : e' = e'' := Option.some.inj (hfound'.symm.trans hfound'')
    exact ⟨cfg, world, world', later, e, e', hreached, hfound, he.2, hrun, hfound',
      of_decide_eq_true hkeys, hfrozen⟩
  · cases hsteps

end Runs

end ShadowbaneLab
