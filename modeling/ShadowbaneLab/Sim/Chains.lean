/-
# The functions of the environment as chains of moves

Every command is a chain of changes, hence every program is (`perform_changes`); processing
an item is a turn (`processItem_turn`); starting an action is a chain of changes, the report
of the start, a second chain, and the entry into the first phase (`startAction_eq_ok`).
-/
import ShadowbaneLab.Sim.Changes

namespace ShadowbaneLab

open Foundation

/-! ## Emission -/

variable {draft : EventDraft}

theorem Frame.emit_eq_ok {tickDurationMs time : ℕ} {s s' : Frame}
    (h : s.emit tickDurationMs time draft = .ok s') :
    s' = s.record (draft.event tickDurationMs time s.nextEventNumber) := by
  unfold Frame.emit at h
  rw [check_bind_eq_ok] at h
  cases h.2
  rfl

variable {entityId : String}

theorem Frame.entity_eq_ok {s : Frame} {entity : EntityState} (h : s.entity entityId = .ok entity) :
    s.entities.get? entityId = some entity := by
  unfold Frame.entity at h
  split at h
  · rename_i hfound
    cases h
    exact hfound
  · cases h

variable {ctx : ItemContext}

variable {α : Type}

section Chains

variable {scope : Scope} {s s' : Frame}

/-- An event emitted in a scope is a change. -/
theorem emit_change (unreserved : draft.kind.reserved = false)
    (h : s.emit scope.tickDurationMs scope.dueTime draft = .ok s') : Change scope s s' := by
  rw [Frame.emit_eq_ok h]
  exact .report s draft unreserved

variable {subject : Living scope}

variable {reason : String} {scalars : List NamedScalar}

theorem emit_removed_change {active : EffectRecord} (h : s.emit scope.tickDurationMs scope.dueTime
      (effectRemovedDraft subject.id active ctx reason scalars) = .ok s') : Change scope s s' := by
  rw [Frame.emit_eq_ok h]
  exact .reportRemoved s subject active ctx reason scalars

/-- Free items that are due later may be scheduled. -/
theorem foldl_schedule_changes (items : List ScheduledItem)
    (h : ∀ item ∈ items, item.Free ∧ scope.dueTime < item.dueTimeMs) (s : Frame) :
    Changes scope s (items.foldl Frame.schedule s) := by
  induction items generalizing s with
  | nil => exact .refl
  | cons item rest ih =>
    have hitem := h item List.mem_cons_self
    exact .head (.enqueue s item hitem.1 hitem.2)
      (ih (fun i hi => h i (List.mem_cons_of_mem _ hi)) _)

variable {effect : ApplyEffect}

/-- The work of a new effect is free and due later. -/
theorem mem_effectItems {subjectId : String} {dueTime order : ℕ} {item : ScheduledItem}
    (h : item ∈ effectItems ctx subjectId effect dueTime order) :
    item.Free ∧ dueTime < item.dueTimeMs := by
  rw [effectItems, List.mem_append, List.mem_flatMap, List.mem_singleton] at h
  rcases h with ⟨pulse, _, hitem⟩ | rfl
  · obtain ⟨n, _, rfl⟩ := List.mem_map.mp hitem
    refine ⟨⟨rfl, rfl, rfl⟩, ?_⟩
    have : 0 < (n + 1) * pulse.intervalMs := Nat.mul_pos (Nat.succ_pos n) pulse.interval_pos
    show dueTime < dueTime + (n + 1) * pulse.intervalMs
    omega
  · refine ⟨⟨rfl, rfl, rfl⟩, ?_⟩
    have := effect.duration_pos
    show dueTime < dueTime + effect.durationMs
    omega

theorem installEffect_changes
    (h : s.installEffect scope.tickDurationMs scope.dueTime subject.id effect ctx = .ok s') :
    Changes scope s s' := by
  unfold Frame.installEffect at h
  obtain ⟨entity, _, h⟩ := bind_eq_ok.mp h
  obtain ⟨s₁, h₁, h⟩ := bind_eq_ok.mp h
  obtain ⟨s₂, h₂, h⟩ := bind_eq_ok.mp h
  cases h
  have hreplaced : Changes scope s s₁ := by
    unfold Frame.reportReplaced at h₁
    split at h₁
    · cases h₁
      exact .refl
    · exact .single (emit_removed_change h₁)
  have hstore : Change scope s₁
      (s₁.storeEffect scope.dueTime subject.id effect ctx.actorId) :=
    .store s₁ subject effect ctx.actorId ctx.actorId_ok
  refine ((hreplaced.tail hstore).tail (emit_change rfl h₂)).trans ?_
  exact foldl_schedule_changes _ (fun _ => mem_effectItems) _

theorem removeEffect_changes {storageKey : String}
    (h : s.removeEffect scope.tickDurationMs scope.dueTime subject.id storageKey ctx reason
      scalars = .ok s') : Changes scope s s' := by
  unfold Frame.removeEffect at h
  obtain ⟨entity, _, h⟩ := bind_eq_ok.mp h
  split at h
  · cases h
  · exact (Relation.ReflTransGen.single (.discard s subject storageKey)).tail
      (emit_removed_change h)

/-! ## Ending executions -/

/-- The executions of a coherent frame are listed once each, under their own keys. -/
theorem mem_sortedExecutions (hs : Coherent s.toWorld) {e : ActionExecutionState} :
    e ∈ s.sortedExecutions ↔ s.executions.get? e.key = some e := by
  rw [Frame.sortedExecutions, mem_sortBy, Dict.mem_values_iff]
  constructor
  · rintro ⟨k, hk⟩
    rw [hs.executions_keyed k e hk]
    exact hk
  · exact fun h => ⟨_, h⟩

theorem nodup_key_sortedExecutions (hs : Coherent s.toWorld) :
    (s.sortedExecutions.map ActionExecutionState.key).Nodup := by
  have hperm : (s.sortedExecutions.map ActionExecutionState.key).Perm
      (s.executions.values.map ActionExecutionState.key) := (sortBy_perm _ _).map _
  have hkeys : s.executions.values.map ActionExecutionState.key = s.executions.keys := by
    rw [Dict.values, Dict.keys, List.map_map]
    apply List.map_congr_left
    rintro ⟨k, e⟩ hmem
    exact hs.executions_keyed k e (Dict.get?_eq_some.mpr hmem)
  rw [hperm.nodup_iff, hkeys]
  exact s.executions.nodup_keys

/-- Ending the executions of a list, one after the other, is a chain of steps, if ending one
of them is a step that leaves the others alone. -/
theorem foldlM_end_chain {Step : Frame → Frame → Prop}
    {f : Frame → ActionExecutionState → Except Fault Frame}
    (ready : Frame → ActionExecutionState → Prop)
    (hstep : ∀ s e s', f s e = .ok s' → s.executions.get? e.key = some e → ready s e →
      Step s s' ∧ (∀ k, e.key ≠ k → s'.executions.get? k = s.executions.get? k) ∧
        ∀ e', ready s e' → ready s' e')
    {l : List ActionExecutionState} (hnodup : (l.map ActionExecutionState.key).Nodup)
    (hl : ∀ e ∈ l, s.executions.get? e.key = some e ∧ ready s e) (h : l.foldlM f s = .ok s') :
    Relation.ReflTransGen Step s s' := by
  induction l generalizing s with
  | nil =>
    cases h
    exact .refl
  | cons e rest ih =>
    rw [List.foldlM_cons] at h
    obtain ⟨s₁, h₁, h⟩ := bind_eq_ok.mp h
    rw [List.map_cons, List.nodup_cons] at hnodup
    obtain ⟨hfound, hready⟩ := hl e List.mem_cons_self
    obtain ⟨hfirst, hothers, hkeep⟩ := hstep s e s₁ h₁ hfound hready
    refine .head hfirst (ih hnodup.2 ?_ h)
    intro e' he'
    obtain ⟨hfound', hready'⟩ := hl e' (List.mem_cons_of_mem _ he')
    refine ⟨?_, hkeep e' hready'⟩
    rw [hothers e'.key]
    · exact hfound'
    · intro heq
      exact hnodup.1 (heq ▸ List.mem_map_of_mem he')

/-- Cancelling one execution leaves the others alone. -/
theorem Frame.get?_cancelExecution_ne (frame : Frame) (e : ActionExecutionState)
    {k : ExecutionKey} (h : e.key ≠ k) :
    (frame.cancelExecution e).executions.get? k = frame.executions.get? k :=
  Dict.get?_modify_ne _ _ h

theorem interruptActor_changes (hs : Coherent s.toWorld) {trigger : InterruptTrigger}
    (h : s.interruptActor scope.tickDurationMs scope.dueTime subject.id trigger = .ok s') :
    Changes scope s s' := by
  unfold Frame.interruptActor at h
  obtain ⟨actor, _, h⟩ := bind_eq_ok.mp h
  refine foldlM_end_chain
    (fun _ e => e.isTerminal = false ∧ e.actorEntityId = subject.id) ?_ ?_ ?_ h
  · intro s e s' hend hfound hready
    rw [Frame.emit_eq_ok hend]
    refine ⟨.interrupt s subject e trigger.value hfound hready.1 hready.2, ?_, fun _ h => h⟩
    intro k hk
    exact Frame.get?_cancelExecution_ne _ e hk
  · exact (nodup_key_sortedExecutions hs).sublist (List.filter_sublist.map _)
  · intro e he
    obtain ⟨hmem, hinterrupted⟩ := List.mem_filter.mp he
    refine ⟨(mem_sortedExecutions hs).mp hmem, ?_⟩
    unfold ActionExecutionState.interruptedBy at hinterrupted
    simp only [Bool.and_eq_true, Bool.or_eq_true, decide_eq_true_eq] at hinterrupted
    obtain ⟨⟨⟨⟨hmine, _⟩, hstatus⟩, _⟩, _⟩ := hinterrupted
    refine ⟨?_, hmine⟩
    rcases hstatus with hstatus | hstatus <;>
      simp [ActionExecutionState.isTerminal, hstatus]

/-! ## Commands and programs -/

theorem execute_changes (hs : Coherent s.toWorld) {op : Command scope}
    {r : (commands scope).Result op} (h : execute scope op s = .ok (r, s')) :
    Changes scope s s' := by
  cases op with
  | observe f free =>
    cases h
    exact .refl
  | installCount subject storageKey =>
    cases h
    exact .refl
  | draw f =>
    cases h
    exact .single (.randomize s _)
  | emit draft allowed =>
    obtain ⟨s₁, h₁, h⟩ := bind_eq_ok.mp h
    cases h
    exact .single (emit_change allowed h₁)
  | adjust subject key change key_ok =>
    obtain ⟨entity, _, h⟩ := bind_eq_ok.mp h
    cases h
    exact .single (.adjust s subject key change key_ok)
  | alter subject change =>
    obtain ⟨entity, _, h⟩ := bind_eq_ok.mp h
    cases h
    exact .single (.alter s subject change)
  | install subject effect ctx =>
    obtain ⟨s₁, h₁, h⟩ := bind_eq_ok.mp h
    cases h
    exact installEffect_changes h₁
  | remove subject storageKey ctx reason scalars =>
    obtain ⟨s₁, h₁, h⟩ := bind_eq_ok.mp h
    cases h
    exact removeEffect_changes h₁
  | moveItem source target itemId quantity itemId_ok positive =>
    obtain ⟨entity, hentity, h⟩ := bind_eq_ok.mp h
    dsimp only at h
    split at h
    · cases h
      exact .refl
    · rename_i henough
      cases h
      exact .single (.moveItem s source target itemId quantity entity
        itemId_ok positive (Frame.entity_eq_ok hentity) (not_lt.mp henough))
  | interrupt subject trigger =>
    obtain ⟨s₁, h₁, h⟩ := bind_eq_ok.mp h
    cases h
    exact interruptActor_changes hs h₁

variable {program : Exec scope α}

/-- **Every program is a chain of changes.** -/
theorem run_changes {a : α} (hs : Coherent s.toWorld)
    (h : program.run (execute scope) s = .ok (a, s')) : Changes scope s s' := by
  refine Program.run_within (execute scope)
    (fun s s' => Coherent s.toWorld → Changes scope s s') ?_ ?_ ?_ h hs
  · exact fun _ _ => .refl
  · exact fun _ _ _ h₁ h₂ hs => (h₁ hs).trans (h₂ (hs.changes (h₁ hs)))
  · exact fun _ _ _ _ hop hs => execute_changes hs hop

theorem perform_changes (hs : Coherent s.toWorld) (h : s.perform program = .ok s') :
    Changes scope s s' := by
  obtain ⟨⟨a, s₁⟩, hrun, h⟩ := bind_eq_ok.mp h
  cases h
  exact run_changes hs hrun

end Chains

/-! ## One turn of the queue -/

variable {action : ActionSpec} {scope : Scope}

section Turn

variable {rt : Runtime} {cfg : Config rt} {s s' : Frame} {item : ScheduledItem}

variable {execution : ActionExecutionState}

theorem scheduleActionPhase_eq_ok {phase : ActionPhase} {phaseIndex startedAtMs : ℕ}
    (h : scheduleActionPhase rt execution action phase phaseIndex startedAtMs s = .ok s') :
    ∃ delay, s' = s.enterPhase execution action phase phaseIndex startedAtMs delay := by
  unfold scheduleActionPhase at h
  obtain ⟨actor, _, h⟩ := bind_eq_ok.mp h
  obtain ⟨delay, _, h⟩ := bind_eq_ok.mp h
  cases h
  exact ⟨delay, rfl⟩

variable {catalog : ActionCatalog}

theorem ActionCatalog.get_eq_ok {actionKey : String} (h : catalog.get actionKey = .ok action) :
    catalog.find? actionKey = some action := by
  unfold ActionCatalog.get at h
  split at h
  · rename_i hfind
    cases h
    exact hfind
  · cases h

/-- Work that is not of an effect has an owner. -/
theorem Coherent.owner (hs : Coherent s.toWorld) (hitem : item ∈ s.scheduled)
    (hwork : item.work.isEffect = false) :
    ∃ execution, s.executions.get? item.executionKey = some execution ∧ item.OwnedBy execution := by
  rcases hs.owned item hitem with hfree | howned
  · rw [hfree.work] at hwork
    cases hwork
  · exact howned

/-- A valid item that ends a phase belongs to a living actor. -/
theorem actorLifeKept_of_valid (howned : item.OwnedBy execution)
    (hends : item.work.endsPhase = true) (hvalid : s.scheduledItemIsValid item = true) :
    s.actorLifeKept item execution.actorLifeId = true := by
  have hpolicy := howned.policy hends
  have hdetached : s.detached item = false := by
    simp [World.detached, hpolicy]
  unfold World.scheduledItemIsValid at hvalid
  rw [howned.actorLifeId, hdetached, hpolicy] at hvalid
  split at hvalid
  · cases hvalid
  split at hvalid
  · cases hvalid
  split at hvalid
  · cases hvalid
  simpa using hvalid

/-- Work that ends no phase may be dropped. -/
theorem drop_settled (hends : item.work.endsPhase = false) : s.Settled item := by
  intro _ hends'
  rw [hends] at hends'
  cases hends'

/-- A turn that only drops its item. -/
theorem Turn.drop (hitem : item ∈ s.scheduled) (hsettled : s.Settled item) :
    Turn catalog (itemScope cfg item s) item s (s.take item) :=
  ⟨hitem, rfl, _, .drop s hsettled, .refl⟩

theorem transitionActionPhase_turn (hs : Coherent s.toWorld) (hitem : item ∈ s.scheduled)
    (hwork : item.work = .phaseTransition) (hvalid : s.scheduledItemIsValid item = true)
    (h : transitionActionPhase cfg item (s.take item) = .ok s') :
    Turn cfg.catalog (itemScope cfg item s) item s s' := by
  obtain ⟨execution, hfound, howned⟩ := hs.owner hitem (by rw [hwork]; rfl)
  obtain ⟨phaseIndex, hphase⟩ := Option.isSome_iff_exists.mp howned.phaseIndex
  have htake : (s.take item).executions.get? item.executionKey = some execution := hfound
  unfold transitionActionPhase at h
  rw [htake, hphase] at h
  dsimp only at h
  split at h
  · rename_i hidle
    cases h
    apply Turn.drop hitem
    intro _ _ execution' hfound' hrunning heq
    obtain rfl : execution = execution' := Option.some.inj (hfound.symm.trans hfound')
    rw [hphase, Option.some.injEq] at heq
    simp [hrunning, heq] at hidle
  · rename_i hlive
    rw [Bool.or_eq_true, not_or, Bool.not_eq_true, decide_eq_true_eq, not_not] at hlive
    obtain ⟨action, haction, h⟩ := bind_eq_ok.mp h
    split at h
    · cases h
    · rename_i phase hnext
      obtain ⟨delay, rfl⟩ := scheduleActionPhase_eq_ok h
      exact ⟨hitem, rfl, _, .nextPhase s execution action phase phaseIndex delay hwork hfound
        (hs.executions_keyed _ _ hfound) howned hlive.1 hlive.2 hphase
        (actorLifeKept_of_valid howned (by rw [hwork]; rfl) hvalid)
        (ActionCatalog.get_eq_ok haction) hnext, .refl⟩

theorem completeAction_turn (hs : Coherent s.toWorld) (hitem : item ∈ s.scheduled)
    (hwork : item.work = .completion) (hvalid : s.scheduledItemIsValid item = true)
    (h : completeAction cfg item (s.take item) = .ok s') :
    Turn cfg.catalog (itemScope cfg item s) item s s' := by
  obtain ⟨execution, hfound, howned⟩ := hs.owner hitem (by rw [hwork]; rfl)
  have htake : (s.take item).executions.get? item.executionKey = some execution := hfound
  unfold completeAction at h
  rw [htake] at h
  dsimp only at h
  split at h
  · rename_i hterminal
    cases h
    apply Turn.drop hitem
    intro _ _ execution' hfound' hrunning
    obtain rfl : execution = execution' := Option.some.inj (hfound.symm.trans hfound')
    rw [hterminal] at hrunning
    cases hrunning
  · rename_i hrunning
    rw [Frame.emit_eq_ok h]
    exact ⟨hitem, rfl, _, .complete s execution hwork hfound (Bool.not_eq_true _ ▸ hrunning)
      (actorLifeKept_of_valid howned (by rw [hwork]; rfl) hvalid), .refl⟩

theorem releaseActionPhase_turn (hitem : item ∈ s.scheduled) (hwork : item.work = .phaseRelease) :
    Turn catalog (itemScope cfg item s) item s (releaseActionPhase item (s.take item)) := by
  have hsettled : s.Settled item := drop_settled (by rw [hwork]; rfl)
  unfold releaseActionPhase
  split
  · rename_i execution phaseIndex hfound hphase
    split
    · exact .drop hitem hsettled
    · rename_i hrunning
      exact ⟨hitem, rfl, _, .drop s hsettled, .single
        (.release _ item execution phaseIndex hfound (Bool.not_eq_true _ ▸ hrunning))⟩
  · exact .drop hitem hsettled

theorem expireEffect_turn {slot : EffectSlot} (hitem : item ∈ s.scheduled)
    (hwork : item.work = .effectExpiry slot) (h : expireEffect cfg item slot (s.take item) = .ok s')
    :
    Turn catalog (itemScope cfg item s) item s s' := by
  have hsettled : s.Settled item := drop_settled (by rw [hwork]; rfl)
  unfold expireEffect at h
  split at h
  · cases h
    exact .drop hitem hsettled
  · rename_i active hactive
    rw [Option.filter_eq_some_iff, decide_eq_true_eq, Option.bind_eq_some_iff] at hactive
    obtain ⟨⟨entity, hfound, hcurrent⟩, hdue⟩ := hactive
    have hstored : entity.record? slot.storageKey = some active := by
      unfold EffectSlot.current at hcurrent
      exact (Option.filter_eq_some_iff.mp hcurrent).1
    unfold Frame.removeEffect at h
    obtain ⟨entity', hentity', h⟩ := bind_eq_ok.mp h
    obtain rfl : entity = entity' :=
      Option.some.inj (hfound.symm.trans (Frame.entity_eq_ok hentity'))
    rw [hstored] at h
    rw [Frame.emit_eq_ok h]
    exact ⟨hitem, rfl, _, .drop s hsettled, .single
      (.expire _ slot.entityId slot.storageKey entity active _ hfound hstored hdue)⟩

theorem performItem_turn (hs : Coherent s.toWorld) (hitem : item ∈ s.scheduled)
    (hvalid : s.scheduledItemIsValid item = true)
    (h : performItem cfg item (s.take item) = .ok s') :
    Turn cfg.catalog (itemScope cfg item s) item s s' := by
  have hprogram (hends : item.work.endsPhase = false)
      (h : (s.take item).perform (itemProgram cfg (itemScope cfg item (s.take item)) item) = .ok s') :
      Turn cfg.catalog (itemScope cfg item s) item s s' := by
    have hdrop : Consume cfg.catalog (itemScope cfg item s) item s (s.take item) :=
      .drop s (drop_settled hends)
    exact ⟨hitem, rfl, _, hdrop, (perform_changes (hs.consume hdrop) h).moves⟩
  unfold performItem at h
  split at h
  · rename_i hwork
    cases h
    exact releaseActionPhase_turn hitem hwork
  · rename_i hwork
    exact transitionActionPhase_turn hs hitem hwork hvalid h
  · rename_i hwork
    exact completeAction_turn hs hitem hwork hvalid h
  · rename_i slot hwork
    exact expireEffect_turn hitem hwork h
  · rename_i hrelease htransition hcompletion hexpiry
    apply hprogram _ h
    cases hwork : item.work with
    | phaseTransition => exact absurd hwork htransition
    | completion => exact absurd hwork hcompletion
    | _ => rfl

/-! ### Deaths -/

theorem dieIfDue_moves (htick : scope.tickDurationMs = cfg.tickDurationMs)
    (h : dieIfDue cfg scope.dueTime s entityId = .ok s') : Moves scope s s' := by
  unfold dieIfDue at h
  obtain ⟨entity, hentity, h⟩ := bind_eq_ok.mp h
  split at h
  · rename_i hdying
    rw [Frame.emit_eq_ok h, ← htick]
    exact .single (.die s entityId entity (Frame.entity_eq_ok hentity) hdying)
  · cases h
    exact .refl

/-- A fold of chains is a chain. -/
theorem foldlM_moves {f : Frame → α → Except Fault Frame} {l : List α}
    (hstep : ∀ s a s', a ∈ l → f s a = .ok s' → Moves scope s s') (h : l.foldlM f s = .ok s') :
    Moves scope s s' := by
  induction l generalizing s with
  | nil =>
    cases h
    exact .refl
  | cons a rest ih =>
    rw [List.foldlM_cons] at h
    obtain ⟨s₁, h₁, h⟩ := bind_eq_ok.mp h
    exact (hstep s a s₁ List.mem_cons_self h₁).trans
      (ih (fun s a s' ha => hstep s a s' (List.mem_cons_of_mem _ ha)) h)

theorem moves_entities (h : Moves scope s s') :
    Dict.Rel EntityState.Persists s.entities s'.entities := by
  induction h with
  | refl => exact Dict.rel_refl .refl _
  | tail _ hlast ih => exact ih.trans (fun _ _ _ h h' => h.trans h') (move_entities hlast)

theorem changes_executions (h : Changes scope s s') :
    Dict.Rel ActionExecutionState.Continues s.executions s'.executions := by
  induction h with
  | refl => exact Dict.rel_refl .refl _
  | tail _ hlast ih => exact ih.trans (fun _ _ _ h h' => h.trans h') (change_executions hlast)

theorem moves_executions (h : Moves scope s s') :
    Dict.Rel ActionExecutionState.Continues s.executions s'.executions := by
  induction h with
  | refl => exact Dict.rel_refl .refl _
  | tail _ hlast ih => exact ih.trans (fun _ _ _ h h' => h.trans h') (move_executions hlast)

theorem Turn.trans {s'' : Frame} (h : Turn catalog scope item s s') (hmoves : Moves scope s' s'') :
    Turn catalog scope item s s'' := by
  obtain ⟨s₁, hconsume, hfirst⟩ := h.chain
  exact ⟨h.queued, h.due, s₁, hconsume, hfirst.trans hmoves⟩

theorem Turn.entities (h : Turn catalog scope item s s') :
    Dict.Rel EntityState.Persists s.entities s'.entities := by
  obtain ⟨s₁, hconsume, hmoves⟩ := h.chain
  exact (consume_entities hconsume).trans (fun _ _ _ h h' => h.trans h') (moves_entities hmoves)

theorem Turn.executions (h : Turn catalog scope item s s') :
    Dict.Rel ActionExecutionState.Continues s.executions s'.executions := by
  obtain ⟨s₁, hconsume, hmoves⟩ := h.chain
  exact (consume_executions hconsume).trans (fun _ _ _ h h' => h.trans h')
    (moves_executions hmoves)

/-- A dead entity. -/
def Frame.Dead (frame : Frame) (entityId : String) : Prop :=
  ∃ entity, frame.entities.get? entityId = some entity ∧ entity.alive = false

theorem Frame.Dead.moves (hdead : s.Dead entityId) (h : Moves scope s s') : s'.Dead entityId := by
  obtain ⟨entity, hfound, halive⟩ := hdead
  obtain ⟨entity', hfound', hpersists⟩ := (moves_entities h).of_eq_some hfound
  refine ⟨entity', hfound', ?_⟩
  cases halive' : entity'.alive with
  | false => rfl
  | true =>
    rw [hpersists.alive halive'] at halive
    cases halive

theorem cleanupDeadActor_moves {actorId : String}
    (htick : scope.tickDurationMs = cfg.tickDurationMs) (hs : Coherent s.toWorld)
    (hdead : s.Dead actorId) (heligible : actorId ∈ scope.eligible)
    (h : cleanupDeadActor cfg scope.dueTime s actorId = .ok s') : Moves scope s s' := by
  unfold cleanupDeadActor at h
  obtain ⟨actor, hactor, h⟩ := bind_eq_ok.mp h
  obtain ⟨entity, hfound, halive⟩ := hdead
  have hrest : Move scope s (s.layToRest actorId scope.dueTime) :=
    .rest s actorId entity hfound halive heligible
  have hs₁ := hs.move hrest
  have hdead₁ : (s.layToRest actorId scope.dueTime).Dead actorId :=
    Frame.Dead.moves ⟨entity, hfound, halive⟩ (.single hrest)
  refine .head hrest (foldlM_end_chain
    (fun s e => e.isTerminal = false ∧ s.Dead e.actorEntityId) ?_ ?_ ?_ h)
  · intro s e s' hend hfound hready
    obtain ⟨hrunning, entity, hentity, hdead⟩ := hready
    rw [Frame.emit_eq_ok hend, ← htick]
    refine ⟨.close s e entity hfound hrunning hentity hdead, ?_, fun _ h => h⟩
    intro k hk
    exact Frame.get?_cancelExecution_ne _ e hk
  · exact (nodup_key_sortedExecutions hs₁).sublist (List.filter_sublist.map _)
  · intro e he
    obtain ⟨hmem, hmine⟩ := List.mem_filter.mp he
    simp only [Bool.and_eq_true, decide_eq_true_eq, Bool.not_eq_true'] at hmine
    obtain ⟨⟨hactorId, _⟩, hrunning⟩ := hmine
    exact ⟨(mem_sortedExecutions hs₁).mp hmem, hrunning, hactorId ▸ hdead₁⟩

theorem mem_newlyDead {aliveBefore : Finset String} (h : entityId ∈ newlyDead aliveBefore s) :
    entityId ∈ aliveBefore ∧ s.Dead entityId := by
  obtain ⟨hmem, hdead⟩ := List.mem_filter.mp h
  refine ⟨(mem_sortedSet _).mp hmem, ?_⟩
  cases hfound : s.entities.get? entityId with
  | none =>
    rw [hfound] at hdead
    cases hdead
  | some entity =>
    rw [hfound] at hdead
    exact ⟨entity, hfound, by simpa using hdead⟩

theorem foldlM_cleanup_moves {l : List String} (htick : scope.tickDurationMs = cfg.tickDurationMs)
    (hs : Coherent s.toWorld) (hl : ∀ actorId ∈ l, actorId ∈ scope.eligible ∧ s.Dead actorId)
    (h : l.foldlM (cleanupDeadActor cfg scope.dueTime) s = .ok s') : Moves scope s s' := by
  induction l generalizing s with
  | nil =>
    cases h
    exact .refl
  | cons actorId rest ih =>
    rw [List.foldlM_cons] at h
    obtain ⟨s₁, h₁, h⟩ := bind_eq_ok.mp h
    obtain ⟨heligible, hdead⟩ := hl actorId List.mem_cons_self
    have hfirst : Moves scope s s₁ :=
      cleanupDeadActor_moves htick hs hdead heligible h₁
    refine hfirst.trans (ih (hs.moves hfirst) ?_ h)
    intro actorId' hmem
    obtain ⟨heligible', hdead'⟩ := hl actorId' (List.mem_cons_of_mem _ hmem)
    exact ⟨heligible', hdead'.moves hfirst⟩

/-- Processing an item drops it, or it is a turn after which the newly dead are cleaned up. -/
theorem processItem_eq_ok (hs : Coherent s.toWorld) (hitem : item ∈ s.scheduled)
    (h : processItem cfg item (s.take item) = .ok s') :
    (s' = s.take item ∧ s.Settled item) ∨ ∃ s₁, Turn cfg.catalog (itemScope cfg item s) item s s₁ ∧
        (newlyDead s.aliveIds s₁).foldlM (cleanupDeadActor cfg item.dueTimeMs) s₁ = .ok s' := by
  unfold processItem at h
  split at h
  · rename_i hinvalid
    cases h
    refine .inl ⟨rfl, ?_⟩
    intro hvalid
    have hvalid : (s.take item).scheduledItemIsValid item = true := hvalid
    rw [hvalid] at hinvalid
    cases hinvalid
  · rename_i hvalid
    obtain ⟨s₁, h₁, h⟩ := bind_eq_ok.mp h
    obtain ⟨s₂, h₂, h⟩ := bind_eq_ok.mp h
    have hvalid : s.scheduledItemIsValid item = true := by
      rwa [Bool.not_eq_true', Bool.not_eq_false] at hvalid
    have hdeaths : Moves (itemScope cfg item s) s₁ s₂ := by
      apply foldlM_moves _ h₂
      intro s entityId s' _ hdie
      exact dieIfDue_moves rfl hdie
    exact .inr ⟨s₂, (performItem_turn hs hitem hvalid h₁).trans hdeaths, h⟩

/-- **One turn of the queue consumes its item and goes on with moves.** -/
theorem processItem_turn (hs : Coherent s.toWorld) (hitem : item ∈ s.scheduled)
    (h : processItem cfg item (s.take item) = .ok s') :
    Turn cfg.catalog (itemScope cfg item s) item s s' := by
  rcases processItem_eq_ok hs hitem h with ⟨rfl, hsettled⟩ | ⟨s₁, hturn, hcleanup⟩
  · exact .drop hitem hsettled
  · have hmoves : Moves (itemScope cfg item s) s₁ s' :=
      foldlM_cleanup_moves rfl (hs.turn hturn) (fun _ => mem_newlyDead) hcleanup
    exact hturn.trans hmoves

end Turn

/-! ## Starting an action -/

section Start

variable {rt : Runtime} {cfg : Config rt} {s s' : Frame}

/-- What starting an action does: the actor is committed, the start is reported, its
triggers are consumed, and a new execution enters its first phase. -/
structure Starts (cfg : Config rt) (s s' : Frame) (decision : DecisionMessage)
    (action : ActionSpec) : Prop where
  fresh : s.executions.get? decision.executionKey = none
  chain : ∃ s₁ s₂ actor triggered delay,
    Changes (startScope cfg s.nowMs decision.agentId) s s₁ ∧
    (∃ e, s₁.entities.get? decision.agentId = some e ∧
      s.nowMs + totalPhaseMs action ≤ e.busyUntilMs) ∧
    Changes (startScope cfg s.nowMs decision.agentId)
      (s₁.report (startScope cfg s.nowMs decision.agentId) (startedDraft decision action)) s₂ ∧
    s₂.entities.get? decision.agentId = some actor ∧
    s' = s₂.enterPhase
      (newExecution decision action actor (targetLife s₂ decision)
        (action.phases.head action.phases_ne) s.nowMs triggered)
      action (action.phases.head action.phases_ne) 0 s.nowMs delay

/-- What every chain keeps of an execution, a start keeps too. -/
theorem Starts.kept {R : ActionExecutionState → ActionExecutionState → Prop}
    (htrans : ∀ a b c, R a b → R b c → R a c)
    (hchanges : ∀ {scope s s'}, Changes scope s s' → Dict.Rel R s.executions s'.executions)
    (h : Starts cfg s s' decision action) {key : ExecutionKey} {e : ActionExecutionState}
    (he : s.executions.get? key = some e) : ∃ e', s'.executions.get? key = some e' ∧ R e e' := by
  obtain ⟨s₁, s₂, _, _, _, hfirst, _, hsecond, _, rfl⟩ := h.chain
  have hsecond := hchanges hsecond
  obtain ⟨e', he', hrel⟩ := ((hchanges hfirst).trans htrans hsecond).of_eq_some he
  refine ⟨e', ?_, hrel⟩
  rw [Frame.enterPhase_executions, Dict.get?_set_ne]
  · exact he'
  · rintro rfl
    exact absurd (h.fresh.symm.trans he) nofun

/-- A committed actor is busy until all phases are over. -/
theorem commitActor_busy {actor : Living scope}
    (h : s.perform (commitActor ctx actor action) = .ok s') :
    ∃ e, s'.entities.get? actor.id = some e ∧
      scope.dueTime + totalPhaseMs action ≤ e.busyUntilMs := by
  obtain ⟨⟨u, s₁⟩, hrun, h⟩ := bind_eq_ok.mp h
  cases h
  unfold commitActor at hrun
  obtain ⟨_, s₂, _, hrun⟩ := Program.run_bind_eq_ok.1 hrun
  obtain ⟨cooldown, s₃, _, hrun⟩ := Program.run_bind_eq_ok.1 hrun
  obtain ⟨_, s₄, _, hrun⟩ := Program.run_bind_eq_ok.1 hrun
  -- the last command raises the actor's busy time
  have hlast : execute scope (.alter actor (.busy (scope.dueTime + totalPhaseMs action))) s₄ =
      .ok (u, s₁) := (Program.run_command (execute scope) _ s₄).symm.trans hrun
  obtain ⟨entity, hentity, hlast⟩ := bind_eq_ok.mp hlast
  cases hlast
  refine ⟨entity.alter (.busy (scope.dueTime + totalPhaseMs action)), ?_,
    le_max_right entity.busyUntilMs _⟩
  show (s₄.entities.modify actor.id _).get? actor.id = _
  rw [Dict.get?_modify_self, Frame.entity_eq_ok hentity]
  rfl

/-- **Starting an action is two chains of changes around its report, then its first phase.** -/
theorem startAction_eq_ok {decision : DecisionMessage} (hs : Coherent s.toWorld)
    (h : startAction cfg s (decision, action) = .ok s') : Starts cfg s s' decision action := by
  unfold startAction at h
  dsimp only at h
  obtain ⟨hfresh, h⟩ := check_bind_eq_ok.mp h
  obtain ⟨s₁, h₁, h⟩ := bind_eq_ok.mp h
  obtain ⟨s₂, h₂, h⟩ := bind_eq_ok.mp h
  obtain ⟨⟨triggered, s₃⟩, h₃, h⟩ := bind_eq_ok.mp h
  obtain ⟨actor, hactor, h⟩ := bind_eq_ok.mp h
  obtain ⟨delay, hdelay⟩ := scheduleActionPhase_eq_ok h
  rw [require_eq_ok, Bool.not_eq_true', Dict.contains, Option.isSome_eq_false_iff,
    Option.isNone_iff_eq_none] at hfresh
  have hfirst : Changes (startScope cfg s.nowMs decision.agentId) s s₁ := perform_changes hs h₁
  have hreport : s₂ = s₁.report (startScope cfg s.nowMs decision.agentId)
      (startedDraft decision action) := Frame.emit_eq_ok h₂
  have hs₂ : Coherent s₂.toWorld := by
    have hs₁ := hs.changes hfirst
    rw [hreport]
    exact ⟨hs₁.entities_keyed, hs₁.executions_keyed, hs₁.tokens, hs₁.orders, hs₁.orders_lt,
      hs₁.owned⟩
  have hsecond : Changes (startScope cfg s.nowMs decision.agentId) s₂ s₃ := run_changes hs₂ h₃
  rw [hreport] at hsecond
  exact ⟨hfresh, s₁, s₃, actor, triggered, delay, hfirst, commitActor_busy h₁, hsecond,
    Frame.entity_eq_ok hactor, hdelay⟩

end Start

end ShadowbaneLab
