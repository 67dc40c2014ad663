/-
# The life cycle of actions

Every execution is started once, is ended at most once, and while it runs there is exactly
one item in the queue that ends its phase (`actionLifecycle`).

The counts are a conservation law: a step of a frame emits an end event for a key exactly
when it ends the execution under this key (`Balanced`).  The rest is an invariant of single
moves (`Lifecycle`), except that an actor may die in the middle of a turn; its executions
are closed before the turn is over (`attended_processItem`).
-/
import ShadowbaneLab.Sim.Admission
import ShadowbaneLab.Sim.Timeline

namespace ShadowbaneLab

open Foundation List Dict

/-! ## Counting starts and ends -/

/-- An event about the execution under a key. -/
def Event.about (k : ExecutionKey) (event : Event) : Bool :=
  event.sourceEntityId = some (ofLex k).1 && event.correlationId = some (ofLex k).2

/-- The events that end an action. -/
def EventKind.endsAction : EventKind → Bool
  | .actionCompleted => true
  | .actionInterrupted => true
  | _ => false

/-- How often the execution under a key was started. -/
def startsOf (k : ExecutionKey) (events : List Event) : ℕ :=
  events.countP (fun event => event.kind = .actionStarted && event.about k)

/-- How often the execution under a key was completed or interrupted. -/
def endsOf (k : ExecutionKey) (events : List Event) : ℕ :=
  events.countP (fun event => event.kind.endsAction && event.about k)

namespace World

/-- One if there is an execution under a key. -/
def started (world : World) (k : ExecutionKey) : ℕ := (world.executions.contains k).toNat

/-- One if the execution under a key has ended. -/
def ended (world : World) (k : ExecutionKey) : ℕ :=
  ((world.executions.get? k).any ActionExecutionState.isTerminal).toNat

end World

/-- Neither or both of two executions have ended. -/
def SameEnd (e e' : ActionExecutionState) : Prop := e'.isTerminal = e.isTerminal

theorem SameEnd.refl (e : ActionExecutionState) : SameEnd e e := rfl

variable {e e' : ActionExecutionState}

theorem SameEnd.eq (h : SameEnd e e') : e'.isTerminal = e.isTerminal := h

/-- Starts and ends that are reported are those that happen. -/
structure Balanced (s s' : Frame) : Prop where
  started : ∀ k, startsOf k s'.events + s.started k = startsOf k s.events + s'.started k
  ended : ∀ k, endsOf k s'.events + s.ended k = endsOf k s.events + s'.ended k

variable {k : ExecutionKey} {e : ActionExecutionState}

namespace Balanced

variable {s s' s'' : Frame}

variable {new : List Event}

/-- A step that starts and ends nothing, and reports neither. -/
theorem of_rel (hrel : Dict.Rel SameEnd s.executions s'.executions)
    (hevents : s'.events = s.events ++ new)
    (hquiet : ∀ event ∈ new, event.kind ≠ .actionStarted ∧ event.kind.endsAction = false) :
    Balanced s s' := by
  have hstarts (k : ExecutionKey) : startsOf k new = 0 := by
    rw [startsOf, countP_eq_zero]
    intro event hevent
    simp [(hquiet event hevent).1]
  have hends (k : ExecutionKey) : endsOf k new = 0 := by
    rw [endsOf, countP_eq_zero]
    intro event hevent
    simp [(hquiet event hevent).2]
  constructor
  · intro k
    have hsame : s'.started k = s.started k := by
      rw [World.started, World.started, hrel.contains_eq k]
    rw [hevents, startsOf, countP_append, hsame]
    have := hstarts k
    rw [startsOf] at this ⊢
    omega
  · intro k
    have hsame : s'.ended k = s.ended k := by
      unfold World.ended
      cases hk : s.executions.get? k with
      | none => rw [(hrel.none_iff k).mp hk]
      | some e =>
        obtain ⟨e', he', hterminal⟩ := hrel.of_eq_some hk
        rw [he', Option.any_some, Option.any_some, SameEnd.eq hterminal]
    rw [hevents, endsOf, countP_append, hsame]
    have := hends k
    rw [endsOf] at this ⊢
    omega

/-- A step that leaves the executions alone and reports no start and no end. -/
theorem of_quiet (hexecutions : s'.executions = s.executions)
    (hevents : s'.events = s.events ++ new)
    (hquiet : ∀ event ∈ new, event.kind ≠ .actionStarted ∧ event.kind.endsAction = false) :
    Balanced s s' := by
  refine of_rel ?_ hevents hquiet
  rw [hexecutions]
  exact rel_refl SameEnd.refl s.executions

/-- A step that reports neither a start nor an end. -/
theorem of_draft (draft : EventDraft) {tickDurationMs dueTime : ℕ}
    (hkind : draft.kind ≠ .actionStarted) (hends : draft.kind.endsAction = false)
    (hexecutions : s'.executions = s.executions)
    (hevents : s'.events = s.events ++ [draft.event tickDurationMs dueTime s.nextEventNumber]) :
    Balanced s s' := by
  refine of_quiet hexecutions hevents fun event hevent => ?_
  obtain rfl := mem_singleton.mp hevent
  exact ⟨hkind, hends⟩

/-- A step that leaves the executions and the events alone. -/
theorem of_same (hexecutions : s'.executions = s.executions) (hevents : s'.events = s.events) :
    Balanced s s' :=
  of_quiet hexecutions (hevents.trans (append_nil s.events).symm) (by simp)

/-- A step that ends one execution and reports it. -/
theorem of_end (f : ActionExecutionState → ActionExecutionState) (event : Event)
    (found : s.executions.get? k = some e) (running : e.isTerminal = false)
    (terminal : (f e).isTerminal = true) (hexecutions : s'.executions = s.executions.modify k f)
    (hevents : s'.events = s.events ++ [event]) (hkind : event.kind.endsAction = true)
    (hsource : event.sourceEntityId = some (ofLex k).1)
    (hcorrelation : event.correlationId = some (ofLex k).2) : Balanced s s' := by
  constructor
  · intro j
    have hnot : event.kind ≠ .actionStarted := by
      intro hstarted
      rw [hstarted] at hkind
      cases hkind
    have hsame : s'.started j = s.started j := by
      rw [World.started, World.started, hexecutions, Dict.contains, Dict.contains,
        Dict.get?_modify]
      split
      · rw [Option.isSome_map]
      · rfl
    rw [hevents, startsOf, countP_append, hsame, countP_singleton]
    simp [startsOf, hnot]
  · intro j
    have hafter : s'.ended j = if k = j then 1 else s.ended j := by
      rw [World.ended, hexecutions, Dict.get?_modify]
      split
      · rename_i hj
        rw [← hj, found, Option.map_some, Option.any_some, terminal, Bool.toNat_true]
      · rfl
    have habout : event.about j = decide (k = j) := by
      rw [Event.about, hsource, hcorrelation]
      apply Bool.eq_iff_iff.mpr
      rw [Bool.and_eq_true, decide_eq_true_eq, decide_eq_true_eq, decide_eq_true_eq,
        Option.some.injEq, Option.some.injEq]
      constructor
      · rintro ⟨hactor, hcorrelation⟩
        exact Prod.ext hactor hcorrelation
      · rintro rfl
        exact ⟨rfl, rfl⟩
    rw [hevents, endsOf, countP_append, countP_singleton, hafter, hkind, habout,
      Bool.true_and]
    by_cases hj : k = j
    · have hbefore : s.ended j = 0 := by
        rw [← hj, World.ended, found, Option.any_some, running, Bool.toNat_false]
      rw [hbefore, if_pos hj, if_pos (decide_eq_true hj), endsOf]
    · rw [if_neg hj, if_neg (by rw [decide_eq_true_eq]; exact hj), endsOf, Nat.add_zero]

end Balanced

/-! ## Executions that stay as they are, or end -/

/-- An execution that does not enter another phase. -/
structure ActionExecutionState.Stays (e e' : ActionExecutionState) : Prop extends
    e.Continues e' where
  phase : e'.isTerminal = false →
    e'.phaseIndex = e.phaseIndex ∧ e'.phaseEndsAtMs = e.phaseEndsAtMs

namespace ActionExecutionState.Stays

variable {e e' : ActionExecutionState}

theorem refl (e : ActionExecutionState) : e.Stays e := ⟨.refl e, fun _ => ⟨rfl, rfl⟩⟩

theorem of_running (h : e.isTerminal = false) (status : ActionExecutionStatus) :
    e.Stays { e with status := status } := ⟨.of_running h status, fun _ => ⟨rfl, rfl⟩⟩

theorem release (h : e.isTerminal = false) (phaseIndex : ℕ) :
    e.Stays (e.release phaseIndex) := by
  refine ⟨.release h phaseIndex, fun _ => ?_⟩
  unfold ActionExecutionState.release
  dsimp only
  split <;> exact ⟨rfl, rfl⟩

end ActionExecutionState.Stays

theorem ActionExecutionState.isTerminal_release (h : e.isTerminal = false) (phaseIndex : ℕ) :
    (e.release phaseIndex).isTerminal = false := by
  unfold ActionExecutionState.release
  dsimp only
  split
  · by_cases hactive : e.status = .active
    · simp [isTerminal, hactive]
    · simpa [isTerminal, hactive] using h
  · exact h

/-- An execution that enters a phase runs. -/
theorem ActionExecutionState.isTerminal_enterPhase (e : ActionExecutionState)
    (action : ActionSpec) (phase : ActionPhase) (phaseIndex startedAtMs : ℕ) :
    (e.enterPhase action phase phaseIndex startedAtMs).isTerminal = false := by
  unfold ActionExecutionState.enterPhase isTerminal
  dsimp only
  split <;> rfl

section Steps

variable {catalog : ActionCatalog} {scope : Scope} {item : ScheduledItem} {s s' : Frame}

/-- Updating the execution found under a key, when it stays. -/
theorem modify_stays {f : ActionExecutionState → ActionExecutionState}
    (found : s.executions.get? k = some e) (h : e.Stays (f e)) :
    Dict.Rel ActionExecutionState.Stays s.executions (s.executions.modify k f) := by
  apply rel_modify .refl
  intro e' he'
  obtain rfl : e = e' := Option.some.inj (found.symm.trans he')
  exact h

theorem move_stays (h : Move scope s s') :
    Dict.Rel ActionExecutionState.Stays s.executions s'.executions := by
  cases h with
  | change h =>
    cases h with
    | interrupt subject execution reason found running =>
      exact modify_stays found (.of_running running _)
    | _ => exact rel_refl .refl _
  | release item execution phaseIndex found running =>
    exact modify_stays found (.release running phaseIndex)
  | close execution entity found running => exact modify_stays found (.of_running running _)
  | _ => exact rel_refl .refl _

/-! ### Conservation -/

theorem change_balanced (h : Change scope s s') : Balanced s s' := by
  cases h with
  | report draft unreserved =>
    refine .of_draft draft ?_ ?_ rfl rfl
    · intro hkind
      rw [hkind] at unreserved
      cases unreserved
    · cases hkind : draft.kind with
      | actionCompleted | actionInterrupted =>
        rw [hkind] at unreserved
        cases unreserved
      | _ => rfl
  | reportRemoved subject active ctx reason scalars =>
    exact .of_draft (effectRemovedDraft subject.id active ctx reason scalars) nofun rfl rfl rfl
  | interrupt subject execution reason found running =>
    exact .of_end (fun e => { e with status := .interrupted })
      ((Frame.interruptedDraft reason execution).event scope.tickDurationMs scope.dueTime
        s.nextEventNumber) found running rfl rfl rfl rfl rfl rfl
  | _ => exact .of_same rfl rfl

theorem move_balanced (h : Move scope s s') : Balanced s s' := by
  cases h with
  | change h => exact change_balanced h
  | release item execution phaseIndex found running =>
    refine Balanced.of_rel ?_ (append_nil s.events).symm (by simp)
    apply rel_modify SameEnd.refl
    intro e he
    obtain rfl : execution = e := Option.some.inj (found.symm.trans he)
    rw [SameEnd, ActionExecutionState.isTerminal_release running, running]
  | expire entityId storageKey entity active ctx =>
    exact .of_draft (effectRemovedDraft entityId active ctx "reason.expired") nofun rfl rfl rfl
  | die entityId entity => exact .of_draft (diedDraft entity) nofun rfl rfl rfl
  | rest => exact .of_same rfl rfl
  | close execution entity found running =>
    exact .of_end (fun e => { e with status := .interrupted })
      ((Frame.interruptedDraft "death" execution).event scope.tickDurationMs scope.dueTime
        s.nextEventNumber) found running rfl rfl rfl rfl rfl rfl

theorem consume_balanced (h : Consume catalog scope item s s') : Balanced s s' := by
  cases h with
  | drop => exact .of_same rfl rfl
  | nextPhase execution action phase phaseIndex delay work found keyed owned running =>
    refine Balanced.of_rel ?_ ((Frame.enterPhase_events _ _ _ _ _ _ _).trans
      (append_nil s.events).symm) (by simp)
    rw [Frame.enterPhase_executions]
    refine rel_set SameEnd.refl (keyed ▸ found) ?_
    rw [SameEnd, running, ActionExecutionState.isTerminal_enterPhase]
  | complete execution work found running =>
    exact .of_end (fun e => { e with status := .completed })
      ((completedDraft item).event scope.tickDurationMs scope.dueTime s.nextEventNumber)
      found running rfl rfl rfl rfl rfl rfl

end Steps

/-! ## The items that end a phase -/

/-- The queued items that end a phase of the execution under a key. -/
def World.phaseEnds (world : World) (k : ExecutionKey) : List ScheduledItem :=
  world.scheduled.filter (fun item => item.work.endsPhase && decide (item.executionKey = k))

/-- There is exactly one item that ends the current phase of an execution, at its end. -/
def World.EndsOnce (world : World) (k : ExecutionKey) (e : ActionExecutionState) : Prop :=
  ∃ item, world.phaseEnds k = [item] ∧ item.dueTimeMs = e.phaseEndsAtMs ∧
    item.phaseIndex = some e.phaseIndex

variable {action : ActionSpec} {phase : ActionPhase}

variable {world : World}

section PhaseEnds

variable {catalog : ActionCatalog} {scope : Scope} {item : ScheduledItem} {s s' : Frame}
  {k : ExecutionKey}

theorem mem_phaseEnds :
    item ∈ world.phaseEnds k ↔
      item ∈ world.scheduled ∧ item.work.endsPhase = true ∧ item.executionKey = k := by
  rw [World.phaseEnds, mem_filter, Bool.and_eq_true, decide_eq_true_eq]

/-- New items that end no phase of an execution do not count. -/
theorem phaseEnds_of_append {new : List ScheduledItem} {next : ℕ}
    (hscheduled : s'.scheduled = s.scheduled ++ numberItems next new)
    (hnew : ∀ item ∈ new, item.work.endsPhase = true → item.executionKey ≠ k) :
    s'.phaseEnds k = s.phaseEnds k := by
  rw [World.phaseEnds, World.phaseEnds, hscheduled, filter_append]
  apply append_right_eq_self.mpr
  rw [filter_eq_nil_iff]
  intro item hitem hends
  obtain ⟨original, hmem, heq, _, _⟩ := mem_numberItems hitem
  rw [Bool.and_eq_true, decide_eq_true_eq, heq] at hends
  exact hnew original hmem hends.1 hends.2

/-- Free items end no phase. -/
theorem move_phaseEnds (h : Move scope s s') (k : ExecutionKey) :
    s'.phaseEnds k = s.phaseEnds k := by
  obtain ⟨new, hqueue, hafter⟩ := move_queue h
  apply phaseEnds_of_append hqueue.scheduled
  intro item hitem hends
  have hwork := (hafter item hitem).1.work
  rw [ScheduledWork.not_isEffect_of_endsPhase hends] at hwork
  cases hwork

/-- Taking an item out removes it from the items that end its phase. -/
theorem perm_phaseEnds_take (hitem : item ∈ s.scheduled) :
    (s.phaseEnds k).Perm (if item.work.endsPhase = true ∧ item.executionKey = k then
      item :: (s.take item).phaseEnds k else (s.take item).phaseEnds k) := by
  have hperm := (perm_cons_erase hitem).filter (fun item =>
    item.work.endsPhase && decide (item.executionKey = k))
  rw [filter_cons] at hperm
  simp only [Bool.and_eq_true, decide_eq_true_eq] at hperm
  exact hperm

variable {execution : ActionExecutionState} {phaseIndex startedAtMs delay : ℕ}

/-- The items of a phase hold exactly one that ends it. -/
theorem phaseEnds_enterPhase (hkey : execution.key = k) (hnone : s.phaseEnds k = []) :
    (s.enterPhase execution action phase phaseIndex startedAtMs delay).EndsOnce k
      (execution.enterPhase action phase phaseIndex startedAtMs) := by
  generalize hbefore : (if execution.hasPayload action phase phaseIndex then
      [execution.controlItem action phaseIndex .phaseRelease (startedAtMs + phase.durationMs)]
      else []) ++ (execution.payloads action phase phaseIndex).map (fun work =>
    execution.payloadItem action phase phaseIndex work
      (startedAtMs + phase.durationMs + delay)) = before
  generalize hlast : execution.controlItem action phaseIndex
    (ActionExecutionState.phaseEnd action phaseIndex) (startedAtMs + phase.durationMs) = last
  have hitems : execution.phaseItems action phase phaseIndex (startedAtMs + phase.durationMs)
      (startedAtMs + phase.durationMs + delay) = before ++ [last] := by
    rw [← hbefore, ← hlast]
    rfl
  have hquiet : ∀ item ∈ before, item.work.endsPhase = false := by
    intro item hitem
    rw [← hbefore, mem_append, mem_map] at hitem
    rcases hitem with hrelease | ⟨work, hwork, rfl⟩
    · split at hrelease
      · obtain rfl := mem_singleton.mp hrelease
        rfl
      · cases hrelease
    · exact ScheduledWork.endsPhase_of_mem_payloads hwork
  have hends : last.work.endsPhase = true ∧ last.executionKey = k := by
    rw [← hlast]
    refine ⟨?_, hkey⟩
    show (ActionExecutionState.phaseEnd action phaseIndex).endsPhase = true
    unfold ActionExecutionState.phaseEnd
    split <;> rfl
  refine ⟨{ last with order := s.nextScheduleOrder + before.length }, ?_, ?_, ?_⟩
  · rw [World.phaseEnds, Frame.enterPhase_scheduled, hitems, numberItems_append,
      ← append_assoc, filter_append]
    have hnil : (s.scheduled ++ numberItems s.nextScheduleOrder before).filter
        (fun item => item.work.endsPhase && decide (item.executionKey = k)) = [] := by
      rw [filter_append, ← World.phaseEnds, hnone, nil_append, filter_eq_nil_iff]
      intro item hitem hboth
      obtain ⟨original, hmem, heq, _, _⟩ := mem_numberItems hitem
      rw [Bool.and_eq_true, heq] at hboth
      have := hquiet original hmem
      rw [this] at hboth
      cases hboth.1
    rw [hnil, nil_append]
    apply filter_eq_self.mpr
    intro item hitem
    obtain rfl := mem_singleton.mp hitem
    rw [Bool.and_eq_true, decide_eq_true_eq]
    exact hends
  · rw [← hlast]
    rfl
  · rw [← hlast]
    rfl

/-- Entering a phase leaves the items of other executions alone. -/
theorem phaseEnds_enterPhase_ne (known : action.actionKey = execution.actionKey)
    (hkey : execution.key ≠ k) :
    (s.enterPhase execution action phase phaseIndex startedAtMs delay).phaseEnds k =
      s.phaseEnds k := by
  apply phaseEnds_of_append (Frame.enterPhase_scheduled _ _ _ _ _ _ _)
  intro item hitem _ heq
  rw [(mem_phaseItems known hitem).1] at heq
  exact hkey heq

end PhaseEnds

/-! ## The invariant of single moves -/

/-- The time an action takes after a phase. -/
def ActionSpec.restMs (action : ActionSpec) (phaseIndex : ℕ) : ℕ :=
  ((action.phases.drop (phaseIndex + 1)).map ActionPhase.durationMs).sum

theorem ActionSpec.restMs_of_next {phaseIndex : ℕ}
    (next : action.phases[phaseIndex + 1]? = some phase) :
    action.restMs phaseIndex = phase.durationMs + action.restMs (phaseIndex + 1) := by
  obtain ⟨hlt, hphase⟩ := List.getElem?_eq_some_iff.mp next
  rw [restMs, drop_eq_getElem_cons hlt, map_cons, sum_cons, hphase, restMs]

theorem ActionSpec.restMs_head (action : ActionSpec) :
    totalPhaseMs action = (action.phases.head action.phases_ne).durationMs + action.restMs 0 := by
  have hphases := cons_head_tail action.phases_ne
  calc totalPhaseMs action
      = ((action.phases.head action.phases_ne :: action.phases.tail).map
          ActionPhase.durationMs).sum := by rw [hphases]; rfl
    _ = _ := by rw [map_cons, sum_cons, restMs, Nat.zero_add, drop_one]

/-- An actor is busy until its running action is over. -/
def Occupies (catalog : ActionCatalog) (e : ActionExecutionState) (actor : EntityState) : Prop :=
  ∃ action, catalog.find? e.actionKey = some action ∧
    e.phaseEndsAtMs + action.restMs e.phaseIndex ≤ actor.busyUntilMs

/-- What holds between any two moves: cancelled tokens belong to ended executions, actors
exist, running executions have one phase end in the queue and occupy their actor while it
lives, no actor runs two, and all starts and ends are counted.  A start may be pending,
reported before its execution exists. -/
structure Lifecycle (catalog : ActionCatalog) (pending : Option ExecutionKey)
    (events : List Event) (world : World) : Prop where
  cancelled : ∀ token ∈ world.cancelledTokens, ∃ k e, world.executions.get? k = some e ∧
    e.isTerminal = true ∧ e.cancelToken = token
  based : ∀ k e, world.executions.get? k = some e → ∃ actor,
    world.entities.get? e.actorEntityId = some actor ∧ actor.lifeId = e.actorLifeId
  phaseEnd : ∀ k e, world.executions.get? k = some e → e.isTerminal = false →
    world.EndsOnce k e
  busy : ∀ k e actor, world.executions.get? k = some e → e.isTerminal = false →
    world.entities.get? e.actorEntityId = some actor → actor.alive = true →
    Occupies catalog e actor
  single : ∀ k e k' e', world.executions.get? k = some e → world.executions.get? k' = some e' →
    e.isTerminal = false → e'.isTerminal = false → e.actorEntityId = e'.actorEntityId → k = k'
  started : ∀ k, startsOf k events = world.started k + (decide (pending = some k)).toNat
  ended : ∀ k, endsOf k events = world.ended k

/-- Why an actor may be less busy after a step: it died, or an execution of it ended. -/
structure KeepsBusy (s s' : Frame) : Prop where
  keeps : ∀ entityId actor', s'.entities.get? entityId = some actor' → actor'.alive = true →
    (∃ actor, s.entities.get? entityId = some actor ∧ actor.alive = true ∧
      actor.busyUntilMs ≤ actor'.busyUntilMs) ∨
    ∃ k e e', s.executions.get? k = some e ∧ e.isTerminal = false ∧ e.actorEntityId = entityId ∧
      s'.executions.get? k = some e' ∧ e'.isTerminal = true

section Invariant

variable {catalog : ActionCatalog} {scope : Scope} {item : ScheduledItem} {s s' : Frame}
  {past : List Event} {pending : Option ExecutionKey}

/-- Entities that persist and are no less busy. -/
theorem KeepsBusy.of_rel (h : Dict.Rel (fun e e' : EntityState =>
      (e'.alive = true → e.alive = true ∧ e.busyUntilMs ≤ e'.busyUntilMs))
      s.entities s'.entities) : KeepsBusy s s' := by
  constructor
  intro entityId actor' hactor' halive
  obtain ⟨actor, hactor, hbusy⟩ := h.of_eq_some_right hactor'
  exact .inl ⟨actor, hactor, hbusy halive⟩

variable {f : EntityState → EntityState}

theorem KeepsBusy.of_modify {entityId : String}
    (hentities : s'.entities = s.entities.modify entityId f)
    (hf : ∀ e, (f e).alive = true → e.alive = true ∧ e.busyUntilMs ≤ (f e).busyUntilMs) :
    KeepsBusy s s' := by
  apply KeepsBusy.of_rel
  rw [hentities]
  exact rel_modify (fun _ halive => ⟨halive, le_refl _⟩) _ _ (fun e _ => hf e)

theorem KeepsBusy.of_eq (hentities : s'.entities = s.entities) : KeepsBusy s s' := by
  apply KeepsBusy.of_rel
  rw [hentities]
  exact rel_refl (fun _ halive => ⟨halive, le_refl _⟩) _

/-- An actor whose execution ends may be freed. -/
theorem KeepsBusy.of_end (found : s.executions.get? k = some e) (running : e.isTerminal = false)
    (found' : s'.executions.get? k = some e') (terminal : e'.isTerminal = true)
    (hentities : s'.entities = s.entities.modify e.actorEntityId f) : KeepsBusy s s' := by
  constructor
  intro entityId actor' hactor' halive
  by_cases hid : e.actorEntityId = entityId
  · exact .inr ⟨k, e, e', found, running, hid, found', terminal⟩
  · rw [hentities, Dict.get?_modify_ne _ _ hid] at hactor'
    exact .inl ⟨actor', hactor', halive, le_refl _⟩

theorem change_keepsBusy (h : Change scope s s') : KeepsBusy s s' := by
  cases h with
  | adjust => exact .of_modify rfl (fun _ h => ⟨h, le_refl _⟩)
  | alter subject change =>
    refine .of_modify rfl (fun e h => ?_)
    cases change with
    | busy untilMs => exact ⟨h, le_max_left _ _⟩
    | _ => exact ⟨h, le_refl _⟩
  | moveItem source target =>
    apply KeepsBusy.of_rel
    have hitem (entityId itemId : String) (quantity : ℚ) (d : Dict String EntityState) :
        Dict.Rel (fun e e' : EntityState =>
          (e'.alive = true → e.alive = true ∧ e.busyUntilMs ≤ e'.busyUntilMs)) d
          (d.modify entityId (EntityState.addItem itemId quantity)) :=
      rel_modify (fun _ h => ⟨h, le_refl _⟩) _ _ (fun _ _ h => ⟨h, le_refl _⟩)
    exact (hitem _ _ _ _).trans (fun _ _ _ h h' halive =>
      ⟨(h (h' halive).1).1, (h (h' halive).1).2.trans (h' halive).2⟩) (hitem _ _ _ _)
  | store => exact .of_modify rfl (fun _ h => ⟨h, le_refl _⟩)
  | discard => exact .of_modify rfl (fun _ h => ⟨h, le_refl _⟩)
  | interrupt subject execution reason found running mine =>
    have hended : (s.executions.modify execution.key (fun e =>
        { e with status := .interrupted })).get? execution.key =
          some { execution with status := .interrupted } := by
      rw [Dict.get?_modify_self, found]
      rfl
    exact .of_end found running hended rfl (by rw [mine]; rfl)
  | _ => exact .of_eq rfl

theorem move_keepsBusy (h : Move scope s s') : KeepsBusy s s' := by
  cases h with
  | change h => exact change_keepsBusy h
  | expire => exact .of_modify rfl (fun _ h => ⟨h, le_refl _⟩)
  | die => exact .of_modify rfl (fun _ h => by cases h)
  | rest actorId entity found dead =>
    apply KeepsBusy.of_rel
    apply rel_modify (fun _ h => ⟨h, le_refl _⟩)
    intro e he halive
    obtain rfl : entity = e := Option.some.inj (found.symm.trans he)
    have halive : entity.alive = true := halive
    rw [dead] at halive
    cases halive
  | _ => exact .of_eq rfl

/-- Only the tokens of ended executions are cancelled. -/
theorem move_cancelled (h : Move scope s s') : ∀ token ∈ s'.cancelledTokens,
    token ∈ s.cancelledTokens ∨ ∃ k e, s'.executions.get? k = some e ∧ e.isTerminal = true ∧
      e.cancelToken = token := by
  have hcancel (execution : ActionExecutionState)
      (found : s.executions.get? execution.key = some execution) (token : String)
      (htoken : token ∈ insert execution.cancelToken s.cancelledTokens) :
      token ∈ s.cancelledTokens ∨ ∃ k e,
        (s.executions.modify execution.key (fun e => { e with status := .interrupted })).get? k =
          some e ∧ e.isTerminal = true ∧ e.cancelToken = token := by
    rcases Finset.mem_insert.mp htoken with rfl | hold
    · refine .inr ⟨execution.key, { execution with status := .interrupted }, ?_, rfl, rfl⟩
      rw [Dict.get?_modify_self, found]
      rfl
    · exact .inl hold
  cases h with
  | change h =>
    cases h with
    | interrupt subject execution reason found => exact hcancel execution found
    | _ => exact fun _ h => .inl h
  | close execution entity found => exact hcancel execution found
  | _ => exact fun _ h => .inl h

section

variable (h : Lifecycle catalog pending (past ++ s.events) s.toWorld)
include h

/-- What a step has to satisfy to keep the invariant. -/
theorem Lifecycle.of_parts (hentities : Dict.Rel EntityState.Persists s.entities s'.entities)
    (hexecutions : Dict.Rel ActionExecutionState.Continues s.executions s'.executions)
    (hcancelled : ∀ token ∈ s'.cancelledTokens, token ∈ s.cancelledTokens ∨
      ∃ k e, s'.executions.get? k = some e ∧ e.isTerminal = true ∧ e.cancelToken = token)
    (hphase : ∀ k e', s'.executions.get? k = some e' → e'.isTerminal = false → s'.EndsOnce k e')
    (hbusy : ∀ k e' actor', s'.executions.get? k = some e' → e'.isTerminal = false →
      s'.entities.get? e'.actorEntityId = some actor' → actor'.alive = true →
      Occupies catalog e' actor')
    (hbalanced : Balanced s s') : Lifecycle catalog pending (past ++ s'.events) s'.toWorld := by
  refine ⟨?_, ?_, hphase, hbusy, ?_, ?_, ?_⟩
  · intro token htoken
    rcases hcancelled token htoken with hold | hnew
    · obtain ⟨k, e, he, hterminal, heq⟩ := h.cancelled token hold
      obtain ⟨e', he', hcontinues⟩ := hexecutions.of_eq_some he
      have hsame : e' = e := hcontinues.terminal hterminal
      exact ⟨k, e', he', by rw [hsame, hterminal], by rw [hsame, heq]⟩
    · exact hnew
  · intro k e' he'
    obtain ⟨e, he, hcontinues⟩ := hexecutions.of_eq_some_right he'
    obtain ⟨actor, hactor, hlife⟩ := h.based k e he
    obtain ⟨actor', hactor', hpersists⟩ := hentities.of_eq_some hactor
    refine ⟨actor', ?_, ?_⟩
    · rw [hcontinues.actorEntityId]
      exact hactor'
    · rw [hpersists.lifeId, hlife, hcontinues.actorLifeId]
  · intro k e' k' f' he' hf' hrunning hrunning' hactor
    obtain ⟨e, he, hcontinues⟩ := hexecutions.of_eq_some_right he'
    obtain ⟨f, hf, hcontinues'⟩ := hexecutions.of_eq_some_right hf'
    rw [hcontinues.actorEntityId, hcontinues'.actorEntityId] at hactor
    exact h.single k e k' f he hf (hcontinues.running hrunning) (hcontinues'.running hrunning')
      hactor
  · intro k
    have hcount := h.started k
    have hbalance := hbalanced.started k
    rw [startsOf, countP_append] at hcount ⊢
    rw [startsOf, startsOf] at hbalance
    omega
  · intro k
    have hcount := h.ended k
    have hbalance := hbalanced.ended k
    rw [endsOf, countP_append] at hcount ⊢
    rw [endsOf, endsOf] at hbalance
    omega

/-- A step that enters no phase keeps the invariant. -/
theorem Lifecycle.step (hentities : Dict.Rel EntityState.Persists s.entities s'.entities)
    (hexecutions : Dict.Rel ActionExecutionState.Stays s.executions s'.executions)
    (hcancelled : ∀ token ∈ s'.cancelledTokens, token ∈ s.cancelledTokens ∨
      ∃ k e, s'.executions.get? k = some e ∧ e.isTerminal = true ∧ e.cancelToken = token)
    (hphase : ∀ k e', s'.executions.get? k = some e' → e'.isTerminal = false →
      ∀ item, s.phaseEnds k = [item] → s'.phaseEnds k = [item])
    (hbusy : KeepsBusy s s') (hbalanced : Balanced s s') :
    Lifecycle catalog pending (past ++ s'.events) s'.toWorld := by
  refine h.of_parts hentities (hexecutions.mono (fun _ _ h => h.toContinues)) hcancelled ?_ ?_
    hbalanced
  · intro k e' he' hrunning
    obtain ⟨e, he, hstays⟩ := hexecutions.of_eq_some_right he'
    obtain ⟨item, hitem, hdue, hindex⟩ := h.phaseEnd k e he (hstays.toContinues.running hrunning)
    obtain ⟨hphaseIndex, hphaseEnds⟩ := hstays.phase hrunning
    exact ⟨item, hphase k e' he' hrunning item hitem, by rw [hdue, hphaseEnds],
      by rw [hindex, hphaseIndex]⟩
  · intro k e' actor' he' hrunning hactor' halive
    obtain ⟨e, he, hstays⟩ := hexecutions.of_eq_some_right he'
    have hran := hstays.toContinues.running hrunning
    rcases hbusy.keeps _ actor' hactor' halive with ⟨actor, hactor, hlived, hle⟩ | hended
    · rw [hstays.actorEntityId] at hactor
      obtain ⟨action, hknown, hoccupied⟩ := h.busy k e actor he hran hactor hlived
      obtain ⟨hphaseIndex, hphaseEnds⟩ := hstays.phase hrunning
      exact ⟨action, by rw [hstays.actionKey, hknown],
        by rw [hphaseIndex, hphaseEnds]; exact hoccupied.trans hle⟩
    · -- the execution that ended was the only one of its actor, so it is this one
      obtain ⟨j, ended, ended', hj, hrunning', hmine, hj', hterminal⟩ := hended
      rw [hstays.actorEntityId] at hmine
      obtain rfl := h.single j ended k e hj he hrunning' hran hmine
      obtain rfl : e' = ended' := Option.some.inj (he'.symm.trans hj')
      rw [hrunning] at hterminal
      cases hterminal

theorem Lifecycle.move (hmove : Move scope s s') :
    Lifecycle catalog pending (past ++ s'.events) s'.toWorld :=
  h.step (move_entities hmove) (move_stays hmove) (move_cancelled hmove)
    (fun k _ _ _ item hitem => by rw [move_phaseEnds hmove k, hitem]) (move_keepsBusy hmove)
    (move_balanced hmove)

end

end Invariant

/-! ## The invariant of turns -/

namespace World

/-- Distinct executions have distinct tokens. -/
def DistinctTokens (world : World) : Prop :=
  ∀ k e k' e', world.executions.get? k = some e → world.executions.get? k' = some e' →
    e.cancelToken = e'.cancelToken → k = k'

/-- The actors of running executions are alive. -/
def Attended (world : World) : Prop :=
  ∀ k e, world.executions.get? k = some e → e.isTerminal = false →
    ∃ actor, world.entities.get? e.actorEntityId = some actor ∧ actor.alive = true

end World

section Turns

variable {catalog : ActionCatalog} {scope : Scope} {item : ScheduledItem} {s s' : Frame}
  {past : List Event} {pending : Option ExecutionKey}

theorem ScheduledWork.binding?_of_endsPhase {work : ScheduledWork} (h : work.endsPhase = true) :
    work.binding? = none := by
  cases work <;> first | rfl | cases h

/-- Between turns, the item that ends a phase of a running execution is valid. -/
theorem valid_of_endsPhase (hs : Coherent s.toWorld)
    (h : Lifecycle catalog pending (past ++ s.events) s.toWorld) (hattended : s.Attended)
    (hdistinct : s.DistinctTokens) (hitem : item ∈ s.scheduled) (hends : item.work.endsPhase = true)
    (found : s.executions.get? item.executionKey = some e) (running : e.isTerminal = false) :
    s.scheduledItemIsValid item = true := by
  obtain ⟨owner, howner, howned⟩ := hs.owner hitem (ScheduledWork.not_isEffect_of_endsPhase hends)
  obtain rfl : e = owner := Option.some.inj (found.symm.trans howner)
  have htoken : item.cancelToken.any (fun token => token ∈ s.cancelledTokens) = false := by
    rw [howned.cancelToken, Option.any_some, decide_eq_false_iff_not]
    intro hcancelled
    obtain ⟨k, ended, hk, hterminal, heq⟩ := h.cancelled _ hcancelled
    obtain rfl := hdistinct k ended _ e hk found heq
    obtain rfl : ended = e := Option.some.inj (hk.symm.trans found)
    rw [running] at hterminal
    cases hterminal
  have htarget : s.targetLifeKept item = true := by
    rw [World.targetLifeKept, ScheduledWork.binding?_of_endsPhase hends]
    cases item.targetLifeId <;> rfl
  have hpolicy := howned.policy hends
  have hdetached : s.detached item = false := by
    simp [World.detached, hpolicy]
  have hactor : s.actorLifeKept item e.actorLifeId = true := by
    obtain ⟨actor, hactor, halive⟩ := hattended _ e found running
    obtain ⟨actor', hactor', hlife⟩ := h.based _ e found
    obtain rfl : actor = actor' := Option.some.inj (hactor.symm.trans hactor')
    have hid : item.actorId = e.actorEntityId :=
      (congrArg (fun k => (ofLex k).1) (hs.executions_keyed _ e found)).symm
    rw [World.actorLifeKept, hid, hactor, Option.any_some, halive, hlife]
    simp
  unfold World.scheduledItemIsValid
  rw [htoken, htarget, hpolicy, howned.actorLifeId, hdetached]
  simp [hactor]

/-- **Consuming an item between turns keeps the invariant.** -/
theorem Lifecycle.consume (hs : Coherent s.toWorld)
    (h : Lifecycle catalog pending (past ++ s.events) s.toWorld) (hattended : s.Attended)
    (hdistinct : s.DistinctTokens) (hitem : item ∈ s.scheduled)
    (hdue : item.dueTimeMs = scope.dueTime) (hconsume : Consume catalog scope item s s') :
    Lifecycle catalog pending (past ++ s'.events) s'.toWorld := by
  -- the items of other executions stay
  have hothers (k : ExecutionKey) (hk : ¬(item.work.endsPhase = true ∧ item.executionKey = k))
      (item' : ScheduledItem) (hone : s.phaseEnds k = [item']) :
      (s.take item).phaseEnds k = [item'] := by
    have hperm := perm_phaseEnds_take (k := k) hitem
    rw [if_neg hk, hone] at hperm
    exact (singleton_perm.mp hperm).symm
  -- the one item of the execution itself is gone
  have hmine (e : ActionExecutionState) (found : s.executions.get? item.executionKey = some e)
      (running : e.isTerminal = false) (hends : item.work.endsPhase = true) :
      (s.take item).phaseEnds item.executionKey = [] ∧ item.dueTimeMs = e.phaseEndsAtMs ∧
        item.phaseIndex = some e.phaseIndex := by
    obtain ⟨item', hone, hdue', hindex⟩ := h.phaseEnd _ e found running
    have hmem : item ∈ s.phaseEnds item.executionKey := mem_phaseEnds.mpr ⟨hitem, hends, rfl⟩
    rw [hone] at hmem
    obtain rfl := mem_singleton.mp hmem
    have hperm := perm_phaseEnds_take (k := item.executionKey) hitem
    rw [if_pos ⟨hends, rfl⟩, hone, perm_cons] at hperm
    exact ⟨nil_perm.mp hperm, hdue', hindex⟩
  have hbalanced := consume_balanced hconsume
  have hcontinues := consume_executions hconsume
  have hentities := consume_entities hconsume
  cases hconsume with
  | drop settled =>
    refine h.step hentities (rel_refl .refl _)
      (fun _ h => .inl h) ?_ (.of_eq rfl) hbalanced
    intro k e found running item' hone
    refine hothers k ?_ item' hone
    rintro ⟨hends, rfl⟩
    obtain ⟨_, _, hindex⟩ := hmine e found running hends
    have hvalid := valid_of_endsPhase hs h hattended hdistinct hitem hends found running
    exact settled hvalid hends e found running hindex
  | nextPhase execution action phase phaseIndex delay work found keyed owned running current ends
      alive known next =>
    have hends : item.work.endsPhase = true := by rw [work]; rfl
    obtain ⟨hnone, hdue', _⟩ := hmine execution found running hends
    have hkey := catalog.actionKey_of_find? known
    refine h.of_parts hentities hcontinues ?_ ?_ ?_ hbalanced
    · rw [Frame.enterPhase_cancelledTokens]
      exact fun _ h => .inl h
    · intro k e' he' hrunning
      rw [Frame.enterPhase_executions, Dict.get?_set] at he'
      split at he'
      · rename_i hk
        cases he'
        apply phaseEnds_enterPhase hk
        rw [← hk, keyed]
        exact hnone
      · rename_i hk
        obtain ⟨item', hone, hrest⟩ := h.phaseEnd k e' he' hrunning
        refine ⟨item', ?_, hrest⟩
        rw [phaseEnds_enterPhase_ne hkey hk]
        exact hothers k (fun hboth => hk (keyed.trans hboth.2)) item' hone
    · intro k e' actor he' hrunning hactor halive
      rw [Frame.enterPhase_executions, Dict.get?_set] at he'
      rw [Frame.enterPhase_entities] at hactor
      split at he'
      · cases he'
        obtain ⟨action', hknown', hoccupied⟩ := h.busy _ execution actor found running hactor halive
        obtain rfl : action = action' := Option.some.inj (known.symm.trans hknown')
        refine ⟨action, known, ?_⟩
        rw [current, action.restMs_of_next next] at hoccupied
        show scope.dueTime + phase.durationMs + action.restMs (phaseIndex + 1) ≤ _
        omega
      · exact h.busy k e' actor he' hrunning hactor halive
  | complete execution work found running alive =>
    have hended : (s.executions.modify item.executionKey (fun e =>
        { e with status := .completed })).get? item.executionKey =
          some { execution with status := .completed } := by
      rw [Dict.get?_modify_self, found]
      rfl
    have hid : item.actorId = execution.actorEntityId :=
      (congrArg (fun k => (ofLex k).1) (hs.executions_keyed _ execution found)).symm
    refine h.step hentities (modify_stays found (.of_running running _))
      (fun _ h => .inl h) ?_ (.of_end found running hended rfl (by rw [← hid]; rfl)) hbalanced
    intro k e' he' hrunning item' hone
    refine hothers k ?_ item' hone
    rintro ⟨_, rfl⟩
    obtain rfl := Option.some.inj (he'.symm.trans hended)
    cases hrunning

/-- **A turn keeps the invariant.** -/
theorem Lifecycle.turn (hs : Coherent s.toWorld)
    (h : Lifecycle catalog pending (past ++ s.events) s.toWorld) (hattended : s.Attended)
    (hdistinct : s.DistinctTokens) (hturn : Turn catalog scope item s s') :
    Lifecycle catalog pending (past ++ s'.events) s'.toWorld :=
  hturn.preserves (P := fun t => Lifecycle catalog pending (past ++ t.events) t.toWorld)
    (fun _ => h.consume hs hattended hdistinct hturn.queued hturn.due) (fun _ _ hmove ht => ht.move hmove)

end Turns

/-! ### The dead leave nothing running -/

/-- Neither or both of two entities are alive. -/
def SameLife (e e' : EntityState) : Prop := e'.alive = e.alive

theorem SameLife.refl (e : EntityState) : SameLife e e := rfl

theorem SameLife.trans (e e' e'' : EntityState) (h : SameLife e e') (h' : SameLife e' e'') :
    SameLife e e'' :=
  Eq.trans h' h

/-- The execution under a key has ended. -/
def Frame.Closed (frame : Frame) (k : ExecutionKey) : Prop :=
  ∃ e, frame.executions.get? k = some e ∧ e.isTerminal = true

section Cleanup

variable {rt : Runtime} {cfg : Config rt} {s s' : Frame} {item : ScheduledItem}
  {k : ExecutionKey} {actorId : String} {dueTime : ℕ}

theorem Frame.Closed.continues (h : s.Closed k)
    (hrel : Dict.Rel ActionExecutionState.Continues s.executions s'.executions) : s'.Closed k := by
  obtain ⟨e, he, hterminal⟩ := h
  obtain ⟨e', he', hcontinues⟩ := hrel.of_eq_some he
  exact ⟨e', he', by rw [hcontinues.terminal hterminal, hterminal]⟩

/-- Ending the executions of a list closes their keys. -/
theorem closed_of_foldlM_end {reason : String} {l : List ActionExecutionState}
    (hl : s.Closed k ∨ (∃ e, s.executions.get? k = some e) ∧ k ∈ l.map ActionExecutionState.key)
    (h : l.foldlM (Frame.endExecution cfg.tickDurationMs dueTime reason) s = .ok s') :
    s'.Closed k := by
  induction l generalizing s with
  | nil =>
    cases h
    rcases hl with hclosed | ⟨_, hmem⟩
    · exact hclosed
    · cases hmem
  | cons e rest ih =>
    rw [foldlM_cons] at h
    obtain ⟨s₁, h₁, h⟩ := bind_eq_ok.mp h
    refine ih ?_ h
    rw [Frame.emit_eq_ok h₁]
    have hmodify : ∀ found, s.executions.get? k = some found →
        (s.cancelExecution e).executions.get? k =
          some (if e.key = k then { found with status := .interrupted } else found) := by
      intro found hfound
      show (s.executions.modify e.key _).get? k = _
      rw [Dict.get?_modify, hfound]
      split <;> rfl
    rcases hl with ⟨found, hfound, hterminal⟩ | ⟨⟨found, hfound⟩, hmem⟩
    · left
      refine ⟨_, hmodify found hfound, ?_⟩
      split
      · rfl
      · exact hterminal
    · rcases mem_cons.mp hmem with rfl | hrest
      · left
        refine ⟨_, hmodify found hfound, ?_⟩
        rw [if_pos rfl]
        rfl
      · exact .inr ⟨⟨_, hmodify found hfound⟩, hrest⟩

variable {actor : EntityState}

/-- Cleaning up a dead actor closes the executions of its life. -/
theorem closed_of_cleanup (hs : Coherent s.toWorld) (found : s.executions.get? k = some e)
    (mine : e.actorEntityId = actorId) (hactor : s.entities.get? actorId = some actor)
    (life : actor.lifeId = e.actorLifeId) (h : cleanupDeadActor cfg dueTime s actorId = .ok s') :
    s'.Closed k := by
  unfold cleanupDeadActor at h
  obtain ⟨actor', hactor', h⟩ := bind_eq_ok.mp h
  obtain rfl : actor = actor' := Option.some.inj (hactor.symm.trans (Frame.entity_eq_ok hactor'))
  have hkey := hs.executions_keyed k e found
  refine closed_of_foldlM_end ?_ h
  cases hterminal : e.isTerminal with
  | true => exact .inl ⟨e, found, hterminal⟩
  | false =>
    refine .inr ⟨⟨e, found⟩, mem_map.mpr ⟨e, mem_filter.mpr ⟨?_, ?_⟩, hkey⟩⟩
    · have hmem : e ∈ s.sortedExecutions := (mem_sortedExecutions hs).mpr (hkey.symm ▸ found)
      exact hmem
    · simp [mine, life, hterminal]

theorem cleanupDeadActor_sameLife (h : cleanupDeadActor cfg dueTime s actorId = .ok s') :
    Dict.Rel SameLife s.entities s'.entities := by
  unfold cleanupDeadActor at h
  obtain ⟨actor, _, h⟩ := bind_eq_ok.mp h
  refine foldlM_preserves (P := fun t => Dict.Rel SameLife s.entities t.entities) ?_ ?_ h
  · intro t e t' _ ht hend
    rw [Frame.emit_eq_ok hend]
    exact ht
  · exact rel_modify SameLife.refl _ _ (fun _ _ => rfl)

/-- Cleaning up closes the executions of every actor in the list, and wakes nobody. -/
theorem closed_of_foldlM_cleanup (scope : Scope) {l : List String}
    (htick : scope.tickDurationMs = cfg.tickDurationMs) (hs : Coherent s.toWorld)
    (hl : ∀ id ∈ l, id ∈ scope.eligible ∧ s.Dead id) (found : s.executions.get? k = some e)
    (mine : e.actorEntityId ∈ l) (hactor : s.entities.get? e.actorEntityId = some actor)
    (life : actor.lifeId = e.actorLifeId)
    (h : l.foldlM (cleanupDeadActor cfg scope.dueTime) s = .ok s') : s'.Closed k := by
  induction l generalizing s e actor with
  | nil => cases mine
  | cons id rest ih =>
    rw [foldlM_cons] at h
    obtain ⟨s₁, h₁, h⟩ := bind_eq_ok.mp h
    obtain ⟨heligible, hdead⟩ := hl id mem_cons_self
    have hfirst : Moves scope s s₁ := cleanupDeadActor_moves htick hs hdead heligible h₁
    have hs₁ := hs.moves hfirst
    have hl₁ : ∀ id ∈ rest, id ∈ scope.eligible ∧ s₁.Dead id := fun id' hid' =>
      ⟨(hl id' (mem_cons_of_mem _ hid')).1,
        (hl id' (mem_cons_of_mem _ hid')).2.moves hfirst⟩
    rcases mem_cons.mp mine with hid | hrest
    · have hclosed := closed_of_cleanup hs found hid (hid ▸ hactor) life h₁
      exact hclosed.continues (moves_executions (foldlM_cleanup_moves htick hs₁ hl₁ h))
    · obtain ⟨e', found', hcontinues⟩ := (moves_executions hfirst).of_eq_some found
      obtain ⟨actor', hactor', hpersists⟩ := (moves_entities hfirst).of_eq_some hactor
      rw [← hcontinues.actorEntityId] at hrest hactor'
      exact ih hs₁ hl₁ found' hrest hactor'
        (by rw [hpersists.lifeId, life, hcontinues.actorLifeId]) h

/-- **After a turn, the actors of running executions are alive again.** -/
theorem attended_processItem {past : List Event} {pending : Option ExecutionKey}
    (hs : Coherent s.toWorld) (hitem : item ∈ s.scheduled)
    (h : Lifecycle cfg.catalog pending (past ++ s.events) s.toWorld) (hattended : s.Attended)
    (hprocess : processItem cfg item (s.take item) = .ok s') : s'.Attended := by
  rcases processItem_eq_ok hs hitem hprocess with ⟨rfl, _⟩ | ⟨s₁, hturn, hcleanup⟩
  · exact hattended
  · intro k e' he' hrunning
    have hs₁ := hs.turn hturn
    have hmoves : Moves (itemScope cfg item s) s₁ s' :=
      foldlM_cleanup_moves rfl hs₁ (fun _ => mem_newlyDead) hcleanup
    obtain ⟨e₁, he₁, hcontinues₁⟩ := (moves_executions hmoves).of_eq_some_right he'
    obtain ⟨e, he, hcontinues⟩ := hturn.executions.of_eq_some_right he₁
    have hran := hcontinues.running (hcontinues₁.running hrunning)
    obtain ⟨actor, hactor, halive⟩ := hattended k e he hran
    obtain ⟨actor₀, hactor₀, hlife⟩ := h.based k e he
    obtain rfl : actor = actor₀ := Option.some.inj (hactor.symm.trans hactor₀)
    obtain ⟨actor₁, hactor₁, hpersists⟩ := hturn.entities.of_eq_some hactor
    rw [hcontinues₁.actorEntityId, hcontinues.actorEntityId]
    have hwake : Dict.Rel SameLife s₁.entities s'.entities := by
      refine foldlM_preserves (P := fun t => Dict.Rel SameLife s₁.entities t.entities) ?_
        (rel_refl SameLife.refl _) hcleanup
      intro t id t' _ ht hclean
      exact ht.trans SameLife.trans (cleanupDeadActor_sameLife hclean)
    obtain ⟨actor', hactor', halive'⟩ := hwake.of_eq_some hactor₁
    cases halive₁ : actor₁.alive with
    | true => exact ⟨actor', hactor', Eq.trans halive' halive₁⟩
    | false =>
      -- the actor died in this turn, so the cleanup closed the execution
      have hnewly : e₁.actorEntityId ∈ newlyDead s.aliveIds s₁ := by
        rw [newlyDead, mem_filter, mem_sortedSet, hcontinues.actorEntityId]
        refine ⟨hs.mem_aliveIds.mpr ⟨actor, hactor, halive⟩, ?_⟩
        rw [hactor₁, Option.any_some, halive₁]
        rfl
      obtain ⟨closed, hclosed, hterminal⟩ := closed_of_foldlM_cleanup
        (itemScope cfg item s) rfl hs₁ (fun _ => mem_newlyDead) he₁ hnewly
        (by rw [hcontinues.actorEntityId]; exact hactor₁)
        (by rw [hpersists.lifeId, hlife, hcontinues.actorLifeId]) hcleanup
      obtain rfl : e' = closed := Option.some.inj (he'.symm.trans hclosed)
      rw [hrunning] at hterminal
      cases hterminal

end Cleanup

/-! ## Starting an action -/

/-- No execution of an actor runs. -/
def World.Idle (world : World) (actorId : String) : Prop :=
  ∀ k e, world.executions.get? k = some e → e.actorEntityId = actorId → e.isTerminal = true

variable {decision : DecisionMessage}

section Start

variable {catalog : ActionCatalog} {scope : Scope} {s s' : Frame} {past : List Event}
  {pending : Option ExecutionKey} {actorId : String}

theorem change_sameLife (h : Change scope s s') : Dict.Rel SameLife s.entities s'.entities := by
  have hmodify (entityId : String) (f : EntityState → EntityState) (hf : ∀ e, SameLife e (f e))
      (d : Dict String EntityState) : Dict.Rel SameLife d (d.modify entityId f) :=
    rel_modify SameLife.refl _ _ (fun e _ => hf e)
  cases h with
  | alter subject change =>
    apply hmodify
    intro e
    cases change <;> rfl
  | moveItem source target itemId quantity =>
    exact (hmodify _ (EntityState.addItem itemId (-quantity)) (fun _ => rfl) _).trans
      SameLife.trans (hmodify _ (EntityState.addItem itemId quantity) (fun _ => rfl) _)
  | adjust | store | discard | interrupt =>
    apply hmodify
    exact fun _ => rfl
  | _ => exact rel_refl SameLife.refl _

theorem changes_sameLife (h : Changes scope s s') : Dict.Rel SameLife s.entities s'.entities := by
  induction h with
  | refl => exact rel_refl SameLife.refl _
  | tail _ hlast ih => exact ih.trans SameLife.trans (change_sameLife hlast)

theorem World.Idle.continues (h : s.Idle actorId)
    (hrel : Dict.Rel ActionExecutionState.Continues s.executions s'.executions) :
    s'.Idle actorId := by
  intro k e' he' hmine
  obtain ⟨e, he, hcontinues⟩ := hrel.of_eq_some_right he'
  rw [hcontinues.actorEntityId] at hmine
  have hterminal := h k e he hmine
  rw [hcontinues.terminal hterminal, hterminal]

theorem Lifecycle.changes (h : Lifecycle catalog pending (past ++ s.events) s.toWorld)
    (hchanges : Changes scope s s') :
    Lifecycle catalog pending (past ++ s'.events) s'.toWorld := by
  induction hchanges with
  | refl => exact h
  | tail _ hlast ih => exact ih.move (.change hlast)

/-- Nothing frees an idle actor. -/
theorem changes_busy (hidle : s.Idle actorId) (h : Changes scope s s') :
    ∀ actor', s'.entities.get? actorId = some actor' → actor'.alive = true →
      ∃ actor, s.entities.get? actorId = some actor ∧ actor.busyUntilMs ≤ actor'.busyUntilMs := by
  induction h with
  | refl => exact fun actor' hactor' _ => ⟨actor', hactor', le_refl _⟩
  | tail hfirst hlast ih =>
    intro actor' hactor' halive
    rcases (change_keepsBusy hlast).keeps actorId actor' hactor' halive with
      ⟨actor, hactor, hlived, hle⟩ | ⟨k, e, _, he, hrunning, hmine, _, _⟩
    · obtain ⟨first, hfirst', hle'⟩ := ih actor hactor hlived
      exact ⟨first, hfirst', hle'.trans hle⟩
    · have hended := hidle.continues (changes_executions hfirst) k e he hmine
      rw [hrunning] at hended
      cases hended

/-- The report of a start leaves the start pending. -/
theorem Lifecycle.report (h : Lifecycle catalog none (past ++ s.events) s.toWorld) :
    Lifecycle catalog (some decision.executionKey)
      (past ++ (s.report scope (startedDraft decision action)).events)
      (s.report scope (startedDraft decision action)).toWorld := by
  have hevents : past ++ (s.report scope (startedDraft decision action)).events =
      (past ++ s.events) ++ [(startedDraft decision action).event scope.tickDurationMs
        scope.dueTime s.nextEventNumber] := (append_assoc _ _ _).symm
  rw [hevents]
  refine ⟨h.cancelled, h.based, h.phaseEnd, h.busy, h.single, ?_, ?_⟩
  · intro k
    have hcount := h.started k
    have habout : Event.about k ((startedDraft decision action).event scope.tickDurationMs
        scope.dueTime s.nextEventNumber) = decide (some decision.executionKey = some k) := by
      apply Bool.eq_iff_iff.mpr
      rw [Event.about, Bool.and_eq_true, decide_eq_true_eq, decide_eq_true_eq, decide_eq_true_eq,
        Option.some.injEq]
      constructor
      · rintro ⟨hactor, hcorrelation⟩
        exact Prod.ext (Option.some.inj hactor) (Option.some.inj hcorrelation)
      · rintro rfl
        exact ⟨rfl, rfl⟩
    rw [startsOf, countP_append, countP_singleton, habout]
    rw [startsOf] at hcount
    rw [hcount]
    show s.started k + 0 + (if (true && _) = true then 1 else 0) = s.started k + _
    by_cases hk : some decision.executionKey = some k <;> simp [hk]
  · intro k
    rw [endsOf, countP_append, countP_singleton]
    exact h.ended k

end Start

section Starts

variable {rt : Runtime} {cfg : Config rt} {s s' : Frame} {past : List Event}
  {decision : DecisionMessage} {action : ActionSpec}

/-- **Starting an action of an idle actor keeps the invariant.** -/
theorem Lifecycle.starts (hs : Coherent s.toWorld)
    (h : Lifecycle cfg.catalog none (past ++ s.events) s.toWorld) (hidle : s.Idle decision.agentId)
    (known : cfg.catalog.find? action.actionKey = some action)
    (hstarts : Starts cfg s s' decision action) :
    Lifecycle cfg.catalog none (past ++ s'.events) s'.toWorld := by
  obtain ⟨s₁, s₂, actor, triggered, delay, hfirst, hbusy, hsecond, hactor, rfl⟩ := hstarts.chain
  have h₂ := (h.changes hfirst).report.changes hsecond
  have hidle₁ := hidle.continues (changes_executions hfirst)
  have hidleReported : (s₁.report (startScope cfg s.nowMs decision.agentId)
      (startedDraft decision action)).Idle decision.agentId := hidle₁
  have hidle₂ : s₂.Idle decision.agentId :=
    hidleReported.continues (changes_executions hsecond)
  have hreported : Coherent (s₁.report (startScope cfg s.nowMs decision.agentId)
      (startedDraft decision action)).toWorld := (hs.changes hfirst).of_eq rfl rfl rfl rfl
  have hs₂ : Coherent s₂.toWorld := hreported.changes hsecond
  have hfresh : s₂.executions.get? decision.executionKey = none := by
    have h₁ := (changes_executions hfirst).none_iff decision.executionKey
    have h₂ := (changes_executions hsecond).none_iff decision.executionKey
    exact h₂.mp (h₁.mp hstarts.fresh)
  have hoccupied : actor.alive = true → s.nowMs + totalPhaseMs action ≤ actor.busyUntilMs := by
    intro halive
    obtain ⟨committed, hcommitted, hle⟩ := hbusy
    obtain ⟨before, hbefore, hle'⟩ := changes_busy hidleReported hsecond actor hactor halive
    obtain rfl : committed = before := Option.some.inj (hcommitted.symm.trans hbefore)
    exact hle.trans hle'
  generalize hexecution : newExecution decision action actor (targetLife s₂ decision)
    (action.phases.head action.phases_ne) s.nowMs triggered = execution
  have hkey : execution.key = decision.executionKey := by rw [← hexecution]; rfl
  have hagent : execution.actorEntityId = decision.agentId := by rw [← hexecution]; rfl
  have hname : execution.actionKey = action.actionKey := by rw [← hexecution]; rfl
  have hlife : execution.actorLifeId = actor.lifeId := by rw [← hexecution]; rfl
  clear hexecution
  generalize hphase : action.phases.head action.phases_ne = first
  -- the executions afterwards: the new one, and the old ones
  have hcases : ∀ k e, (s₂.enterPhase execution action first 0 s.nowMs delay).executions.get? k =
      some e → (k = decision.executionKey ∧ e = execution.enterPhase action first 0 s.nowMs) ∨
        (decision.executionKey ≠ k ∧ s₂.executions.get? k = some e) := by
    intro k e he
    rw [Frame.enterPhase_executions, hkey, Dict.get?_set] at he
    split at he
    · rename_i hk
      cases he
      exact .inl ⟨hk.symm, rfl⟩
    · rename_i hk
      exact .inr ⟨hk, he⟩
  have hkept : ∀ k e, s₂.executions.get? k = some e →
      (s₂.enterPhase execution action first 0 s.nowMs delay).executions.get? k = some e := by
    intro k e he
    rw [Frame.enterPhase_executions, hkey, Dict.get?_set_ne]
    · exact he
    · rintro rfl
      rw [hfresh] at he
      cases he
  refine ⟨?_, ?_, ?_, ?_, ?_, ?_, ?_⟩
  · rw [Frame.enterPhase_cancelledTokens]
    intro token htoken
    obtain ⟨k, e, he, hrest⟩ := h₂.cancelled token htoken
    exact ⟨k, e, hkept k e he, hrest⟩
  · intro k e he
    rw [Frame.enterPhase_entities]
    rcases hcases k e he with ⟨rfl, rfl⟩ | ⟨_, hold⟩
    · exact ⟨actor, hagent.symm ▸ hactor, hlife.symm⟩
    · exact h₂.based k e hold
  · intro k e he hrunning
    rcases hcases k e he with ⟨rfl, rfl⟩ | ⟨hne, hold⟩
    · apply phaseEnds_enterPhase hkey
      rw [eq_nil_iff_forall_not_mem]
      intro item hmem
      obtain ⟨hitem, hends, hitemKey⟩ := mem_phaseEnds.mp hmem
      obtain ⟨owner, howner, _⟩ := hs₂.owner hitem (ScheduledWork.not_isEffect_of_endsPhase hends)
      rw [hitemKey, hfresh] at howner
      cases howner
    · obtain ⟨item, hone, hrest⟩ := h₂.phaseEnd k e hold hrunning
      exact ⟨item, by rw [phaseEnds_enterPhase_ne hname.symm (hkey.symm ▸ hne), hone], hrest⟩
  · intro k e actor' he hrunning hactor' halive
    rw [Frame.enterPhase_entities] at hactor'
    rcases hcases k e he with ⟨rfl, rfl⟩ | ⟨_, hold⟩
    · have hmine : s₂.entities.get? decision.agentId = some actor' := hagent ▸ hactor'
      obtain rfl : actor = actor' := Option.some.inj (hactor.symm.trans hmine)
      refine ⟨action, hname.symm ▸ known, ?_⟩
      have htotal := hoccupied halive
      rw [action.restMs_head, hphase] at htotal
      show s.nowMs + first.durationMs + action.restMs 0 ≤ _
      omega
    · exact h₂.busy k e actor' hold hrunning hactor' halive
  · intro k e k' e' he he' hrunning hrunning' hsame
    rcases hcases k e he with ⟨rfl, rfl⟩ | ⟨_, hold⟩ <;>
      rcases hcases k' e' he' with ⟨rfl, rfl⟩ | ⟨_, hold'⟩
    · rfl
    · have hended := hidle₂ k' e' hold' (hsame.symm.trans hagent)
      rw [hrunning'] at hended
      cases hended
    · have hended := hidle₂ k e hold (hsame.trans hagent)
      rw [hrunning] at hended
      cases hended
    · exact h₂.single k e k' e' hold hold' hrunning hrunning' hsame
  · intro k
    rw [Frame.enterPhase_events, h₂.started k, World.started, World.started,
      Frame.enterPhase_executions, hkey, Dict.contains, Dict.contains, Dict.get?_set]
    by_cases hk : decision.executionKey = k
    · rw [if_pos hk, ← hk, hfresh]
      simp
    · rw [if_neg hk]
      simp [hk]
  · intro k
    rw [Frame.enterPhase_events, h₂.ended k, World.ended, World.ended,
      Frame.enterPhase_executions, hkey, Dict.get?_set]
    split
    · rename_i hk
      rw [← hk, hfresh, Option.any_none, Option.any_some,
        ActionExecutionState.isTerminal_enterPhase]
    · rfl

/-- A start keeps the old executions, and adds one of its agent. -/
theorem starts_executions (hstarts : Starts cfg s s' decision action) :
    (∀ k e, s.executions.get? k = some e → ∃ e', s'.executions.get? k = some e' ∧ e.Continues e') ∧
    ∀ k e', s'.executions.get? k = some e' → e'.actorEntityId = decision.agentId ∨
      ∃ e, s.executions.get? k = some e ∧ e.Continues e' := by
  refine ⟨fun k e => hstarts.kept (fun _ _ _ h h' => h.trans h') changes_executions, ?_⟩
  obtain ⟨s₁, s₂, actor, triggered, delay, hfirst, _, hsecond, _, rfl⟩ := hstarts.chain
  have hexecutions₂ := changes_executions hsecond
  have hrel : Dict.Rel ActionExecutionState.Continues s.executions s₂.executions :=
    (changes_executions hfirst).trans (fun _ _ _ h h' => h.trans h') hexecutions₂
  rw [Frame.enterPhase_executions]
  exact forall_set (fun _ _ he' => .inr (hrel.of_eq_some_right he')) (.inl rfl)

theorem starts_sameLife (hstarts : Starts cfg s s' decision action) :
    Dict.Rel SameLife s.entities s'.entities := by
  obtain ⟨s₁, s₂, actor, triggered, delay, hfirst, _, hsecond, _, rfl⟩ := hstarts.chain
  have hlives₂ := changes_sameLife hsecond
  rw [Frame.enterPhase_entities]
  exact (changes_sameLife hfirst).trans SameLife.trans hlives₂

end Starts

/-! ## The invariant of steps -/

/-- An actor that may start an action: alive, and nothing of it runs. -/
structure World.Ready (world : World) (actorId : String) : Prop where
  alive : ∃ actor, world.entities.get? actorId = some actor ∧ actor.alive = true
  idle : world.Idle actorId

/-- What holds between steps: the invariant, living actors, and no phase that is over. -/
structure Orderly (catalog : ActionCatalog) (events : List Event) (world : World) : Prop where
  lifecycle : Lifecycle catalog none events world
  attended : world.Attended
  ahead : ∀ k e, world.executions.get? k = some e → e.isTerminal = false →
    world.nowMs < e.phaseEndsAtMs

section Steps

variable {rt : Runtime} {cfg : Config rt} {s s' : Frame} {past : List Event}

theorem World.Attended.starts (h : s.Attended) (hready : s.Ready decision.agentId)
    (hstarts : Starts cfg s s' decision action) : s'.Attended := by
  intro k e' he' hrunning
  have hlives := starts_sameLife hstarts
  rcases (starts_executions hstarts).2 k e' he' with hmine | ⟨e, he, hcontinues⟩
  · obtain ⟨actor, hactor, halive⟩ := hready.alive
    obtain ⟨actor', hactor', hsame⟩ := hlives.of_eq_some hactor
    exact ⟨actor', by rw [hmine]; exact hactor', Eq.trans hsame halive⟩
  · obtain ⟨actor, hactor, halive⟩ := h k e he (hcontinues.running hrunning)
    obtain ⟨actor', hactor', hsame⟩ := hlives.of_eq_some hactor
    exact ⟨actor', by rw [hcontinues.actorEntityId]; exact hactor', Eq.trans hsame halive⟩

/-- A start of another actor leaves an actor ready. -/
theorem World.Ready.starts {actorId : String} (h : s.Ready actorId)
    (hne : decision.agentId ≠ actorId) (hstarts : Starts cfg s s' decision action) :
    s'.Ready actorId := by
  constructor
  · obtain ⟨actor, hactor, halive⟩ := h.alive
    obtain ⟨actor', hactor', hsame⟩ := (starts_sameLife hstarts).of_eq_some hactor
    exact ⟨actor', hactor', Eq.trans hsame halive⟩
  · intro k e' he' hmine
    rcases (starts_executions hstarts).2 k e' he' with hother | ⟨e, he, hcontinues⟩
    · exact absurd (hother.symm.trans hmine) hne
    · rw [hcontinues.actorEntityId] at hmine
      have hterminal := h.idle k e he hmine
      rw [hcontinues.terminal hterminal, hterminal]

/-- Starting the actions of ready actors, each at most once. -/
theorem lifecycle_foldlM_start {l : List (DecisionMessage × ActionSpec)}
    (hs : Coherent s.toWorld) (h : Lifecycle cfg.catalog none (past ++ s.events) s.toWorld)
    (hattended : s.Attended) (hnodup : (l.map (fun a => a.1.agentId)).Nodup)
    (hl : ∀ a ∈ l, s.Ready a.1.agentId ∧ cfg.catalog.find? a.2.actionKey = some a.2)
    (hfold : l.foldlM (startAction cfg) s = .ok s') :
    Lifecycle cfg.catalog none (past ++ s'.events) s'.toWorld ∧ s'.Attended := by
  induction l generalizing s with
  | nil =>
    cases hfold
    exact ⟨h, hattended⟩
  | cons admitted rest ih =>
    obtain ⟨decision, action⟩ := admitted
    rw [foldlM_cons] at hfold
    obtain ⟨s₁, h₁, hfold⟩ := bind_eq_ok.mp hfold
    have hstarts := startAction_eq_ok hs h₁
    obtain ⟨hready, hknown⟩ := hl _ mem_cons_self
    rw [map_cons, nodup_cons] at hnodup
    refine ih (hs.starts hstarts) (h.starts hs hready.idle hknown hstarts)
      (hattended.starts hready hstarts) hnodup.2 ?_ hfold
    intro a ha
    obtain ⟨hready', hknown'⟩ := hl a (mem_cons_of_mem _ ha)
    refine ⟨hready'.starts ?_ hstarts, hknown'⟩
    intro heq
    exact hnodup.1 (mem_map.mpr ⟨a, ha, heq.symm⟩)

variable {untilMs fuel : ℕ}

theorem processDue_executions (hs : Coherent s.toWorld) (h : processDue cfg untilMs fuel s = .ok s')
    :
    Dict.Rel ActionExecutionState.Continues s.executions s'.executions := by
  refine (processDue_preserves (P := fun t => Coherent t.toWorld ∧
    Dict.Rel ActionExecutionState.Continues s.executions t.executions) ?_
    ⟨hs, rel_refl .refl _⟩ h).2
  rintro t item t' hnext ⟨ht, hrel⟩ hitem
  have hturn := processItem_turn ht (World.nextDue_eq_some hnext).1 hitem
  exact ⟨ht.turn hturn, hrel.trans (fun _ _ _ h h' => h.trans h') hturn.executions⟩

variable {world world' : World}

/-- Distinct tokens were distinct before. -/
theorem World.DistinctTokens.before (h : world'.DistinctTokens)
    (hkept : ∀ k e, world.executions.get? k = some e →
      ∃ e', world'.executions.get? k = some e' ∧ e.Continues e') : world.DistinctTokens := by
  intro k e k' e' he he' htoken
  obtain ⟨f, hf, hcontinues⟩ := hkept k e he
  obtain ⟨f', hf', hcontinues'⟩ := hkept k' e' he'
  exact h k f k' f' hf hf' (by rw [hcontinues.cancelToken, hcontinues'.cancelToken, htoken])

theorem lifecycle_processDue (hs : Coherent s.toWorld)
    (h : Lifecycle cfg.catalog none (past ++ s.events) s.toWorld) (hattended : s.Attended)
    (hdone : processDue cfg untilMs fuel s = .ok s') (hdistinct : s'.DistinctTokens) :
    Lifecycle cfg.catalog none (past ++ s'.events) s'.toWorld ∧ s'.Attended := by
  refine (processDue_preserves (P := fun t => Coherent t.toWorld ∧ (t.DistinctTokens →
    Lifecycle cfg.catalog none (past ++ t.events) t.toWorld ∧ t.Attended)) ?_
    ⟨hs, fun _ => ⟨h, hattended⟩⟩ hdone).2 hdistinct
  rintro t item t' hnext ⟨ht, hboth⟩ hitem
  have hqueued := (World.nextDue_eq_some hnext).1
  have hturn := processItem_turn ht hqueued hitem
  refine ⟨ht.turn hturn, fun hdistinct' => ?_⟩
  have hdistinct := hdistinct'.before (fun _ _ he => hturn.executions.of_eq_some he)
  obtain ⟨hlife, halive⟩ := hboth hdistinct
  exact ⟨hlife.turn ht halive hdistinct hturn, attended_processItem ht hqueued hlife halive hitem⟩

variable {decisions : List DecisionMessage} {truncated : Bool} {batch : EventBatchMessage}

/-- The executions of a world are still there after a step. -/
theorem step_executions {fuel : ℕ} (hw : Coherent world)
    (hstep : step cfg fuel world decisions truncated = .ok (batch, world')) :
    ∀ k e, world.executions.get? k = some e →
      ∃ e', world'.executions.get? k = some e' ∧ e.Continues e' := by
  obtain ⟨s, hs, _, rfl⟩ := step_preserves (P := fun t => ∀ k e,
    world.executions.get? k = some e → ∃ e', t.executions.get? k = some e' ∧ e.Continues e')
    (fun t t' rejection ht hreject => by
      rw [reject_eq_ok hreject]
      exact ht)
    (fun t t' admitted _ hcoherent ht hstart k e he => by
      obtain ⟨e', he', hcontinues⟩ := ht k e he
      obtain ⟨e'', he'', hcontinues'⟩ :=
        (starts_executions (startAction_eq_ok hcoherent hstart)).1 k e' he'
      exact ⟨e'', he'', hcontinues.trans hcontinues'⟩)
    (fun t t' item hitem hcoherent ht hturn k e he => by
      obtain ⟨e', he', hcontinues⟩ := ht k e he
      obtain ⟨e'', he'', hcontinues'⟩ :=
        (processItem_turn hcoherent hitem hturn).executions.of_eq_some he'
      exact ⟨e'', he'', hcontinues.trans hcontinues'⟩)
    (fun _ ht => ht) hw (fun k e he => ⟨e, he, .refl e⟩) hstep
  exact hs

variable {events : List Event}

/-- The agents of admitted decisions are ready when a step begins. -/
theorem Orderly.ready (h : Orderly cfg.catalog events world)
    (hoffered : Offered cfg world decision action) : world.Ready decision.agentId := by
  obtain ⟨actor, hactor, hact⟩ := hoffered.actor
  rw [mayAct, Bool.and_eq_true, Bool.and_eq_true, decide_eq_true_eq] at hact
  refine ⟨⟨actor, hactor, hact.1.1⟩, ?_⟩
  intro k e he hmine
  cases hterminal : e.isTerminal with
  | true => rfl
  | false =>
    -- a running action would occupy its actor beyond the present
    obtain ⟨spec, _, hoccupied⟩ :=
      h.lifecycle.busy k e actor he hterminal (hmine ▸ hactor) hact.1.1
    have hahead := h.ahead k e he hterminal
    omega

/-- **A step keeps a world orderly.** -/
theorem orderly_step {fuel : ℕ} (hw : Coherent world) (hcausal : Causal events world.nowMs world)
    (h : Orderly cfg.catalog events world)
    (hstep : step cfg fuel world decisions truncated = .ok (batch, world'))
    (hdistinct : world'.DistinctTokens) : Orderly cfg.catalog (events ++ batch.events) world' := by
  have hafter := (causal_step hw hcausal hstep).2
  obtain ⟨s₀, s₁, s₂, s₃, hstages, rfl, rfl⟩ := step_eq_ok hstep
  have hs₀ : Coherent s₀.toWorld ∧
      Lifecycle cfg.catalog none (events ++ s₀.events) s₀.toWorld ∧ s₀.Attended ∧
      s₀.entities = world.entities ∧ s₀.executions = world.executions := by
    refine foldlM_preserves (P := fun t => Coherent t.toWorld ∧
      Lifecycle cfg.catalog none (events ++ t.events) t.toWorld ∧ t.Attended ∧
      t.entities = world.entities ∧ t.executions = world.executions) ?_
      ⟨hw, by rw [append_nil]; exact h.lifecycle, h.attended, rfl, rfl⟩ hstages.rejected
    rintro t rejection t' _ ⟨ht, hlife, hattended, hentities, hexecutions⟩ hreject
    rw [reject_eq_ok hreject]
    refine ⟨ht.of_eq rfl rfl rfl rfl, ?_, hattended, hentities, hexecutions⟩
    refine hlife.step (rel_refl .refl _)
      (rel_refl .refl _) (fun _ h => .inl h)
      (fun _ _ _ _ _ hone => hone) (.of_eq rfl) (.of_quiet rfl rfl ?_)
    intro event hevent
    obtain rfl := mem_singleton.mp hevent
    exact ⟨nofun, rfl⟩
  obtain ⟨hcoherent₀, hlife₀, hattended₀, hentities₀, hexecutions₀⟩ := hs₀
  have hs₁ := lifecycle_foldlM_start hcoherent₀ hlife₀ hattended₀ (accepted_agents_nodup decisions)
    (fun a ha => by
      obtain ⟨hoffered, _⟩ := accepted_offered ha
      obtain ⟨halive, hidle⟩ := h.ready hoffered
      refine ⟨⟨by rw [hentities₀]; exact halive, ?_⟩, ?_⟩
      · intro k e he
        rw [hexecutions₀] at he
        exact hidle k e he
      · rw [cfg.catalog.actionKey_of_find? hoffered.known]
        exact hoffered.known) hstages.started
  have hcoherent₁ : Coherent s₁.toWorld := by
    refine foldlM_preserves (P := fun s => Coherent s.toWorld) ?_ hcoherent₀ hstages.started
    exact fun s a s' _ hs hstart => hs.starts (startAction_eq_ok hs hstart)
  have hcoherent₂ : Coherent (s₂.advance cfg.tickDurationMs).toWorld :=
    (hcoherent₁.processDue hstages.drained).of_eq rfl rfl rfl rfl
  have hdistinct₂ : s₂.DistinctTokens := hdistinct.before (fun _ _ he =>
    (processDue_executions hcoherent₂ hstages.done).of_eq_some he)
  obtain ⟨hlife₂, hattended₂⟩ :=
    lifecycle_processDue hcoherent₁ hs₁.1 hs₁.2 hstages.drained hdistinct₂
  have hlifeAdvanced : Lifecycle cfg.catalog none
      (events ++ (s₂.advance cfg.tickDurationMs).events)
      (s₂.advance cfg.tickDurationMs).toWorld :=
    ⟨hlife₂.cancelled, hlife₂.based, hlife₂.phaseEnd, hlife₂.busy, hlife₂.single, hlife₂.started,
      hlife₂.ended⟩
  obtain ⟨hlife₃, hattended₃⟩ :=
    lifecycle_processDue hcoherent₂ hlifeAdvanced hattended₂ hstages.done hdistinct
  refine ⟨hlife₃, hattended₃, ?_⟩
  intro k e he hrunning
  obtain ⟨item, hone, hdue, _⟩ := hlife₃.phaseEnd k e he hrunning
  have hmem : item ∈ s₃.phaseEnds k := by rw [hone]; exact mem_singleton_self item
  rw [← hdue]
  exact hafter item (mem_phaseEnds.mp hmem).1

variable {start : World}

theorem Built.executions (h : Built cfg start) :
    start.executions = ∅ ∧ start.cancelledTokens = ∅ := by
  obtain ⟨setup, targeting, hconstruct⟩ := h
  obtain ⟨_, _, _, _, _, _, _, _, _, entities, frame, _, hframe, rfl⟩ := construct_eq_ok hconstruct
  refine foldlM_preserves (P := fun s => s.executions = ∅ ∧ s.cancelledTokens = ∅) ?_
    ⟨rfl, rfl⟩ hframe
  intro s slot s' _ hs hslot
  obtain ⟨s₁, items, hs₁, _, rfl⟩ := scheduleInitialEffect_eq_ok hslot
  rw [foldl_schedule]
  rcases hs₁ with rfl | rfl <;> exact hs

theorem Built.orderly (h : Built cfg start) : Orderly cfg.catalog [] start := by
  obtain ⟨hexecutions, hcancelled⟩ := h.executions
  have hnone (k : ExecutionKey) : start.executions.get? k = none := by
    rw [hexecutions]
    rfl
  have hempty {P : Prop} {k : ExecutionKey} {e : ActionExecutionState}
      (he : start.executions.get? k = some e) : P := by
    rw [hnone] at he
    cases he
  refine ⟨⟨?_, fun _ _ => hempty, fun _ _ he _ => hempty he, fun _ _ _ he _ _ _ => hempty he,
    fun _ _ _ _ he _ _ _ _ => hempty he, ?_, ?_⟩, fun _ _ he _ => hempty he,
    fun _ _ he _ => hempty he⟩
  · intro token htoken
    rw [hcancelled] at htoken
    cases htoken
  · intro k
    simp [startsOf, World.started, Dict.contains, hnone]
  · intro k
    simp [endsOf, World.ended, hnone]

/-- Every reachable world with distinct tokens is orderly. -/
theorem Reachable.orderly (h : Reachable cfg events world) (hdistinct : world.DistinctTokens) :
    Orderly cfg.catalog events world := by
  have hall : (Coherent world ∧ Causal events world.nowMs world) ∧
      (world.DistinctTokens → Orderly cfg.catalog events world) := by
    refine h.induction (P := fun events world =>
      (Coherent world ∧ Causal events world.nowMs world) ∧
        (world.DistinctTokens → Orderly cfg.catalog events world)) ?_ ?_
    · intro start hbuilt
      have hstart : Reachable cfg [] start := ⟨start, hbuilt, .refl⟩
      exact ⟨⟨hbuilt.coherent, hstart.causal⟩, fun _ => hbuilt.orderly⟩
    · rintro events world fuel decisions truncated batch world' ⟨⟨hw, hcausal⟩, horderly⟩ hstep
      refine ⟨⟨coherent_step hw hstep, (causal_step hw hcausal hstep).1⟩, ?_⟩
      intro hdistinct
      have hbefore := hdistinct.before (step_executions hw hstep)
      exact orderly_step hw hcausal (horderly hbefore) hstep hdistinct
  exact hall.2 hdistinct

/-- Ended executions never change again. -/
theorem Run.terminal {events later : List Event} (h : Reachable cfg events world)
    (run : Run cfg world later world') (found : world.executions.get? k = some e)
    (ended : e.isTerminal = true) : world'.executions.get? k = some e := by
  induction run with
  | refl => exact found
  | step run stepped ih =>
    obtain ⟨e', he', hcontinues⟩ := step_executions (run.reachable h).coherent stepped k e ih
    rw [he', hcontinues.terminal ended]

/-- **The life cycle of actions.**  When distinct executions have distinct tokens, no actor
runs two actions; a running action occupies its living actor and has exactly one item in the
queue that ends its phase, when the phase ends; every execution was started once and ended
at most once, and an ended one never changes again. -/
theorem actionLifecycle {events : List Event} {world : World} (h : Reachable cfg events world)
    (hdistinct : world.DistinctTokens) :
    (∀ k e k' e', world.executions.get? k = some e → world.executions.get? k' = some e' →
      e.isTerminal = false → e'.isTerminal = false → e.actorEntityId = e'.actorEntityId →
      k = k') ∧
    (∀ k e, world.executions.get? k = some e → e.isTerminal = false →
      (∃ actor, world.entities.get? e.actorEntityId = some actor ∧ actor.alive = true ∧
        actor.lifeId = e.actorLifeId ∧ e.phaseEndsAtMs ≤ actor.busyUntilMs) ∧
      world.nowMs < e.phaseEndsAtMs ∧
      ∃ item, world.phaseEnds k = [item] ∧ item.dueTimeMs = e.phaseEndsAtMs ∧
        item.phaseIndex = some e.phaseIndex) ∧
    (∀ k, startsOf k events = (world.executions.contains k).toNat ∧
      endsOf k events = ((world.executions.get? k).any ActionExecutionState.isTerminal).toNat) ∧
    ∀ later world', Run cfg world later world' → ∀ k e, world.executions.get? k = some e →
      e.isTerminal = true → world'.executions.get? k = some e := by
  have horderly := h.orderly hdistinct
  refine ⟨horderly.lifecycle.single, ?_, ?_, ?_⟩
  · intro k e he hrunning
    refine ⟨?_, horderly.ahead k e he hrunning, horderly.lifecycle.phaseEnd k e he hrunning⟩
    obtain ⟨actor, hactor, halive⟩ := horderly.attended k e he hrunning
    obtain ⟨actor', hactor', hlife⟩ := horderly.lifecycle.based k e he
    obtain rfl : actor = actor' := Option.some.inj (hactor.symm.trans hactor')
    obtain ⟨action, _, hoccupied⟩ := horderly.lifecycle.busy k e actor he hrunning hactor halive
    exact ⟨actor, hactor, halive, hlife, le_trans (Nat.le_add_right _ _) hoccupied⟩
  · intro k
    refine ⟨?_, horderly.lifecycle.ended k⟩
    exact horderly.lifecycle.started k
  · intro later world' run k e he hended
    exact run.terminal h he hended

/-- Two waiting actors: each has one running action, which one item in the queue ends. -/
theorem actionLifecycle_waiting :
    ∃ (cfg : Config Runtime.sample) (events : List Event) (world : World),
      Reachable cfg events world ∧
      world.executions.keys = [toLex ("a", "first"), toLex ("b", "second")] ∧
      world.DistinctTokens ∧
      (∀ k e, world.executions.get? k = some e → e.isTerminal = false →
        world.nowMs < e.phaseEndsAtMs ∧ (world.phaseEnds k).length = 1) ∧
      ∀ k, startsOf k events = (world.executions.contains k).toNat := by
  have hrun : replays Runtime.sample (waitSetup 1000 ["a", "b"]) 8
      [[waitDecision 0 "a" "first", waitDecision 0 "b" "second"]]
      (fun _ _ world => decide
        (world.executions.keys = [toLex ("a", "first"), toLex ("b", "second")] ∧
          (world.executions.items.map (fun entry => entry.2.cancelToken)).Nodup)) = true := by
    decide +kernel
  obtain ⟨cfg, events, world, hreplay, hworld⟩ := exists_of_replays hrun
  obtain ⟨hkeys, hnodup⟩ := of_decide_eq_true hworld
  have hdistinct : world.DistinctTokens := by
    intro k e k' e' he he' htoken
    have hentry := inj_on_of_nodup_map hnodup (Dict.get?_eq_some.mp he)
      (Dict.get?_eq_some.mp he') htoken
    exact congrArg Prod.fst hentry
  have hreachable := replay_reachable hreplay
  obtain ⟨_, hrunning, hcounts, _⟩ := actionLifecycle hreachable hdistinct
  refine ⟨cfg, events, world, hreachable, hkeys, hdistinct, ?_, fun k => (hcounts k).1⟩
  intro k e he hopen
  obtain ⟨_, hahead, item, hone, _⟩ := hrunning k e he hopen
  exact ⟨hahead, by rw [hone]; rfl⟩

end Steps

end ShadowbaneLab
