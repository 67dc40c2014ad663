/-
# Virtual time

The events of a run are emitted in the order of their times and numbers, nothing stays in
the queue past its time, and the queue is always drained (`reachable_causal`).

Both follow from what a turn does to the queue.  Everything it adds is due no earlier than
the item it processes, and ranks lower: effect work is due strictly later, and the items of
a phase belong to a later phase of the same action than the transition that entered it.
So the ranks of the queue decrease as in the hydra game (`turn_ranks`).
-/
import Mathlib.Logic.Hydra
import ShadowbaneLab.Sim.Runs

namespace ShadowbaneLab

open Foundation List

/-! ## Emitted events -/

/-- A step of a frame emits at most one event, at the time of its scope. -/
def Emits (scope : Scope) (s s' : Frame) (draft : Option EventDraft) : Prop :=
  s'.events = s.events ++ (draft.map (fun d =>
    d.event scope.tickDurationMs scope.dueTime s.nextEventNumber)).toList ∧
  s'.nextEventNumber = s.nextEventNumber + draft.toList.length

theorem Emits.none_of_eq {scope : Scope} {s s' : Frame} (hevents : s'.events = s.events)
    (hnumber : s'.nextEventNumber = s.nextEventNumber) : Emits scope s s' none :=
  ⟨by rw [hevents, Option.map_none, Option.toList_none, append_nil], hnumber⟩

section Emission

variable {catalog : ActionCatalog} {scope : Scope} {item : ScheduledItem} {s s' : Frame}

theorem change_emits (h : Change scope s s') : ∃ draft, Emits scope s s' draft := by
  cases h with
  | report draft => exact ⟨some draft, rfl, rfl⟩
  | reportRemoved subject active ctx reason scalars =>
    exact ⟨some (effectRemovedDraft subject.id active ctx reason scalars), rfl, rfl⟩
  | interrupt subject execution reason => exact ⟨some (Frame.interruptedDraft reason execution), rfl, rfl⟩
  | _ => exact ⟨none, .none_of_eq rfl rfl⟩

theorem move_emits (h : Move scope s s') : ∃ draft, Emits scope s s' draft := by
  cases h with
  | change h => exact change_emits h
  | expire entityId storageKey entity active ctx =>
    exact ⟨some (effectRemovedDraft entityId active ctx "reason.expired"), rfl, rfl⟩
  | die entityId entity => exact ⟨some (diedDraft entity), rfl, rfl⟩
  | close execution => exact ⟨some (Frame.interruptedDraft "death" execution), rfl, rfl⟩
  | _ => exact ⟨none, .none_of_eq rfl rfl⟩

theorem consume_emits (h : Consume catalog scope item s s') : ∃ draft, Emits scope s s' draft := by
  cases h with
  | drop => exact ⟨none, .none_of_eq rfl rfl⟩
  | nextPhase =>
    refine ⟨none, .none_of_eq ?_ ?_⟩ <;> rw [Frame.enterPhase, foldl_schedule] <;> rfl
  | complete => exact ⟨some (completedDraft item), rfl, rfl⟩

/-! ### The clock -/

theorem change_nowMs (h : Change scope s s') : s'.nowMs = s.nowMs := by
  cases h <;> rfl

theorem move_nowMs (h : Move scope s s') : s'.nowMs = s.nowMs := by
  cases h with
  | change h => exact change_nowMs h
  | _ => rfl

theorem consume_nowMs (h : Consume catalog scope item s s') : s'.nowMs = s.nowMs := by
  cases h with
  | nextPhase =>
    rw [Frame.enterPhase, foldl_schedule]
    rfl
  | _ => rfl

theorem changes_nowMs (h : Changes scope s s') : s'.nowMs = s.nowMs := by
  induction h with
  | refl => rfl
  | tail _ hlast ih => rw [change_nowMs hlast, ih]

theorem Turn.nowMs (h : Turn catalog scope item s s') : s'.nowMs = s.nowMs :=
  h.preserves (P := fun t => t.nowMs = s.nowMs) (fun _ => consume_nowMs)
    (fun _ _ hmove ht => (move_nowMs hmove).trans ht)

end Emission

/-! ## Causal states -/

/-- The events so far are in order, none of them is later than a time, and nothing in the
queue is earlier. -/
structure Causal (events : List Event) (time : ℕ) (world : World) : Prop where
  ordered : events.Pairwise (fun a b => a.simTimeMs ≤ b.simTimeMs ∧ a.number < b.number)
  past : ∀ event ∈ events, event.simTimeMs ≤ time ∧ event.number < world.nextEventNumber
  ahead : ∀ item ∈ world.scheduled, time ≤ item.dueTimeMs

variable {world : World}

namespace Causal

variable {catalog : ActionCatalog} {scope : Scope} {item : ScheduledItem} {events : List Event}
  {s s' : Frame} {time time' : ℕ}

/-- Time may pass up to the first item of the queue. -/
theorem later (h : Causal events time world) (hle : time ≤ time')
    (hahead : ∀ item ∈ world.scheduled, time' ≤ item.dueTimeMs) : Causal events time' world :=
  ⟨h.ordered, fun e he => ⟨(h.past e he).1.trans hle, (h.past e he).2⟩, hahead⟩

theorem emit {draft : Option EventDraft} (hemits : Emits scope s s' draft)
    (h : Causal (events ++ s.events) scope.dueTime s.toWorld)
    (hahead : ∀ item ∈ s'.scheduled, scope.dueTime ≤ item.dueTimeMs) :
    Causal (events ++ s'.events) scope.dueTime s'.toWorld := by
  obtain ⟨hevents, hnumber⟩ := hemits
  rw [hevents, ← append_assoc]
  cases draft with
  | none =>
    rw [Option.map_none, Option.toList_none, append_nil]
    refine ⟨h.ordered, ?_, hahead⟩
    rw [hnumber]
    exact h.past
  | some draft =>
    rw [Option.map_some, Option.toList_some]
    refine ⟨?_, ?_, hahead⟩
    · rw [pairwise_append]
      refine ⟨h.ordered, pairwise_singleton _ _, ?_⟩
      intro e he e' he'
      obtain rfl := mem_singleton.mp he'
      exact h.past e he
    · intro e he
      rw [hnumber, Option.toList_some, length_singleton]
      rcases mem_append.mp he with hold | hnew
      · have := h.past e hold
        omega
      · obtain rfl := mem_singleton.mp hnew
        exact ⟨le_refl _, Nat.lt_succ_self _⟩

/-- The queue stays ahead of a time when everything new is. -/
theorem ahead_of_extends {kept new : List ScheduledItem} (hqueue : QueueExtends s s' kept new)
    (h : ∀ item ∈ s.scheduled, time ≤ item.dueTimeMs) (hnew : ∀ item ∈ new, time ≤ item.dueTimeMs) :
    ∀ item ∈ s'.scheduled, time ≤ item.dueTimeMs := by
  intro item hitem
  rw [hqueue.scheduled, mem_append] at hitem
  rcases hitem with hold | hitem
  · exact h item (hqueue.kept.subset hold)
  · obtain ⟨original, hmem, heq, _, _⟩ := mem_numberItems hitem
    rw [heq]
    exact hnew original hmem

section

variable (h : Causal (events ++ s.events) scope.dueTime s.toWorld)
include h

theorem change (hchange : Change scope s s') :
    Causal (events ++ s'.events) scope.dueTime s'.toWorld := by
  obtain ⟨draft, hemits⟩ := change_emits hchange
  obtain ⟨new, hqueue, hnew⟩ := change_queue hchange
  exact h.emit hemits (ahead_of_extends hqueue h.ahead (fun i hi => le_of_lt (hnew i hi).2))

theorem move (hmove : Move scope s s') : Causal (events ++ s'.events) scope.dueTime s'.toWorld := by
  obtain ⟨draft, hemits⟩ := move_emits hmove
  obtain ⟨new, hqueue, hnew⟩ := move_queue hmove
  exact h.emit hemits (ahead_of_extends hqueue h.ahead (fun i hi => le_of_lt (hnew i hi).2))

theorem consume (hconsume : Consume catalog scope item s s') :
    Causal (events ++ s'.events) scope.dueTime s'.toWorld := by
  obtain ⟨draft, hemits⟩ := consume_emits hconsume
  obtain ⟨new, hqueue, hnew⟩ := consume_queue hconsume
  exact h.emit hemits (ahead_of_extends hqueue h.ahead hnew.due)

end

theorem changes (hchanges : Changes scope s s')
    (h : Causal (events ++ s.events) scope.dueTime s.toWorld) :
    Causal (events ++ s'.events) scope.dueTime s'.toWorld := by
  induction hchanges with
  | refl => exact h
  | tail _ hlast ih => exact ih.change hlast

/-- **A turn whose item comes first keeps a state causal, at the time of the item.** -/
theorem turn (h : Causal (events ++ s.events) time s.toWorld) (hturn : Turn catalog scope item s s')
    (hfirst : ∀ other ∈ s.scheduled, item.dueTimeMs ≤ other.dueTimeMs) :
    Causal (events ++ s'.events) item.dueTimeMs s'.toWorld := by
  have hs : Causal (events ++ s.events) scope.dueTime s.toWorld := by
    rw [← hturn.due]
    exact h.later (h.ahead item hturn.queued) hfirst
  rw [hturn.due]
  exact hturn.preserves (P := fun t => Causal (events ++ t.events) scope.dueTime t.toWorld)
    (fun _ => hs.consume) (fun _ _ hmove ht => ht.move hmove)

end Causal

/-! ## Steps keep states causal -/

variable {action : ActionSpec}

section Steps

variable {rt : Runtime} {cfg : Config rt} {events : List Event} {s s' : Frame}

/-- Starting an action happens at the current time. -/
theorem Causal.starts {decision : DecisionMessage}
    (h : Causal (events ++ s.events) s.nowMs s.toWorld) (hstarts : Starts cfg s s' decision action)
    :
    Causal (events ++ s'.events) s.nowMs s'.toWorld ∧ s'.nowMs = s.nowMs := by
  obtain ⟨s₁, s₂, actor, triggered, delay, hfirst, _, hsecond, _, rfl⟩ := hstarts.chain
  have hs₁ := Causal.changes hfirst h
  have hreport : Emits (startScope cfg s.nowMs decision.agentId) s₁
      (s₁.report (startScope cfg s.nowMs decision.agentId) (startedDraft decision action))
      (some (startedDraft decision action)) := ⟨rfl, rfl⟩
  have hs₂ := (hs₁.emit hreport hs₁.ahead).changes hsecond
  have hnow₁ := changes_nowMs hfirst
  have hnow : s₂.nowMs = s.nowMs := (changes_nowMs hsecond).trans hnow₁
  rw [Frame.enterPhase, foldl_schedule]
  refine ⟨⟨hs₂.ordered, hs₂.past, ?_⟩, hnow⟩
  intro item hitem
  rcases mem_append.mp hitem with hold | hnew
  · exact hs₂.ahead item hold
  · obtain ⟨original, hmem, heq, _, _⟩ := mem_numberItems hnew
    obtain ⟨_, _, hdue⟩ := mem_phaseItems (by rfl) hmem
    rw [heq]
    show s.nowMs ≤ original.dueTimeMs
    rcases hdue with hdue | hdue <;> rw [hdue] <;> omega

/-- Draining the queue keeps a state causal, at some time until which it was drained. -/
theorem Causal.processDue {untilMs fuel time : ℕ}
    (h : Causal (events ++ s.events) time s.toWorld) (hs : Coherent s.toWorld)
    (hle : time ≤ untilMs) (hdone : processDue cfg untilMs fuel s = .ok s') :
    Causal (events ++ s'.events) untilMs s'.toWorld ∧ s'.nowMs = s.nowMs ∧
      ∀ item ∈ s'.scheduled, untilMs < item.dueTimeMs := by
  obtain ⟨⟨time', hle', hcausal, hnow, _⟩, hnone⟩ := processDue_run (P := fun t =>
    ∃ time', time' ≤ untilMs ∧ Causal (events ++ t.events) time' t.toWorld ∧
      t.nowMs = s.nowMs ∧ Coherent t.toWorld) (fun t item t' hnext ht hitem => by
        obtain ⟨time', _, hcausal, hnow, hcoherent⟩ := ht
        obtain ⟨hqueued, hdue, hfirst⟩ := World.nextDue_eq_some hnext
        have hturn := processItem_turn hcoherent hqueued hitem
        exact ⟨item.dueTimeMs, hdue, hcausal.turn hturn hfirst, by rw [hturn.nowMs, hnow],
          hcoherent.turn hturn⟩) ⟨time, hle, h, rfl, hs⟩ hdone
  have hafter := World.nextDue_eq_none hnone
  exact ⟨hcausal.later hle' (fun item hitem => le_of_lt (hafter item hitem)), hnow, hafter⟩

/-- **A step keeps a world causal, and leaves nothing due in the queue.** -/
theorem causal_step {world world' : World} {fuel : ℕ} {decisions : List DecisionMessage}
    {truncated : Bool} {batch : EventBatchMessage} (hw : Coherent world)
    (h : Causal events world.nowMs world)
    (hstep : step cfg fuel world decisions truncated = .ok (batch, world')) :
    Causal (events ++ batch.events) world'.nowMs world' ∧
      ∀ item ∈ world'.scheduled, world'.nowMs < item.dueTimeMs := by
  obtain ⟨s₀, s₁, s₂, s₃, hstages, rfl, rfl⟩ := step_eq_ok hstep
  have hs₀ : Coherent s₀.toWorld ∧ Causal (events ++ s₀.events) s₀.nowMs s₀.toWorld := by
    refine foldlM_preserves
      (P := fun s => Coherent s.toWorld ∧ Causal (events ++ s.events) s.nowMs s.toWorld)
      ?_ ⟨hw, by rwa [append_nil]⟩ hstages.rejected
    rintro s rejection s' _ ⟨hs, hcausal⟩ hreject
    rw [reject_eq_ok hreject]
    have hreport : Emits (startScope cfg s.nowMs rejection.1.agentId) s
        (s.report (startScope cfg s.nowMs rejection.1.agentId) (rejectedDraft rejection))
        (some (rejectedDraft rejection)) := ⟨rfl, rfl⟩
    exact ⟨hs.of_eq rfl rfl rfl rfl, Causal.emit hreport hcausal hcausal.ahead⟩
  have hs₁ : Coherent s₁.toWorld ∧ Causal (events ++ s₁.events) s₁.nowMs s₁.toWorld := by
    refine foldlM_preserves
      (P := fun s => Coherent s.toWorld ∧ Causal (events ++ s.events) s.nowMs s.toWorld)
      ?_ hs₀ hstages.started
    rintro s admitted s' _ ⟨hs, hcausal⟩ hstart
    have hstarts := startAction_eq_ok hs hstart
    obtain ⟨hcausal', hnow⟩ := hcausal.starts hstarts
    exact ⟨hs.starts hstarts, by rwa [hnow]⟩
  obtain ⟨hcausal₂, hnow₂, _⟩ := hs₁.2.processDue hs₁.1 (le_refl _) hstages.drained
  have hadvanced : Causal (events ++ (s₂.advance cfg.tickDurationMs).events) s₁.nowMs
      (s₂.advance cfg.tickDurationMs).toWorld := ⟨hcausal₂.ordered, hcausal₂.past, hcausal₂.ahead⟩
  have hcoherent : Coherent (s₂.advance cfg.tickDurationMs).toWorld :=
    (hs₁.1.processDue hstages.drained).of_eq rfl rfl rfl rfl
  have hle : s₁.nowMs ≤ (s₂.advance cfg.tickDurationMs).nowMs := by
    show s₁.nowMs ≤ s₂.nowMs + cfg.tickDurationMs
    omega
  obtain ⟨hcausal₃, hnow₃, hafter⟩ := hadvanced.processDue hcoherent hle hstages.done
  refine ⟨?_, ?_⟩
  · rw [hnow₃]
    exact hcausal₃
  · intro item hitem
    have := hafter item hitem
    rwa [hnow₃]

theorem Built.nowMs {start : World} (h : Built cfg start) : start.nowMs = 0 := by
  obtain ⟨setup, targeting, hconstruct⟩ := h
  obtain ⟨_, _, _, _, _, _, _, _, _, entities, frame, _, hframe, rfl⟩ := construct_eq_ok hconstruct
  refine foldlM_preserves (P := fun s => s.nowMs = 0) ?_ rfl hframe
  intro s slot s' _ hnow hslot
  obtain ⟨s₁, items, hs₁, _, rfl⟩ := scheduleInitialEffect_eq_ok hslot
  rw [foldl_schedule]
  rcases hs₁ with rfl | rfl <;> exact hnow

theorem Reachable.causal (h : Reachable cfg events world) : Causal events world.nowMs world := by
  have hboth : Coherent world ∧ Causal events world.nowMs world := by
    refine h.induction (P := fun events world => Coherent world ∧ Causal events world.nowMs world)
      ?_ ?_
    · intro start hbuilt
      refine ⟨hbuilt.coherent, List.Pairwise.nil, ?_, ?_⟩
      · intro _ he
        cases he
      · intro item _
        rw [hbuilt.nowMs]
        exact Nat.zero_le _
    · rintro events world fuel decisions truncated batch world' ⟨hw, hcausal⟩ hstep
      exact ⟨coherent_step hw hstep, (causal_step hw hcausal hstep).1⟩
  exact hboth.2

end Steps

/-! ## The queue is always drained -/

/-- How many phases a transition may still enter; other work enters none. -/
def ScheduledItem.remaining (catalog : ActionCatalog) (item : ScheduledItem) : ℕ :=
  match item.work, item.phaseIndex, catalog.find? item.actionKey with
  | .phaseTransition, some phaseIndex, some action => action.phases.length - phaseIndex
  | _, _, _ => 0

/-- The rank of an item while the queue is drained: the time left, then the phases left. -/
def ScheduledItem.rank (catalog : ActionCatalog) (untilMs : ℕ) (item : ScheduledItem) : ℕ ×ₗ ℕ :=
  toLex (untilMs + 1 - item.dueTimeMs, item.remaining catalog)

/-- The ranks of the queue. -/
def World.ranks (catalog : ActionCatalog) (untilMs : ℕ) (world : World) : Multiset (ℕ ×ₗ ℕ) :=
  (world.scheduled.map (ScheduledItem.rank catalog untilMs) : List (ℕ ×ₗ ℕ))

section Termination

variable {catalog : ActionCatalog} {scope : Scope} {item : ScheduledItem} {s s' : Frame}
  {untilMs : ℕ}

variable {new : ScheduledItem}

/-- Work that is due later ranks lower. -/
theorem rank_lt_of_later (hdue : item.dueTimeMs ≤ untilMs) (hlater : item.dueTimeMs < new.dueTimeMs)
    :
    new.rank catalog untilMs < item.rank catalog untilMs := by
  apply Prod.Lex.toLex_lt_toLex.mpr
  left
  show untilMs + 1 - new.dueTimeMs < untilMs + 1 - item.dueTimeMs
  omega

/-- An item of a phase leaves at most the phases after it. -/
theorem remaining_le_of_mem_phaseItems {execution : ActionExecutionState} {phase : ActionPhase}
    {phaseIndex endMs deliveredMs : ℕ} (known : catalog.find? execution.actionKey = some action)
    (h : new ∈ execution.phaseItems action phase phaseIndex endMs deliveredMs) :
    new.remaining catalog ≤ action.phases.length - phaseIndex := by
  have hkey : catalog.find? action.actionKey = some action := by
    rw [catalog.actionKey_of_find? known, known]
  have hitem : new.actionKey = action.actionKey ∧ new.phaseIndex = some phaseIndex := by
    rw [ActionExecutionState.phaseItems, mem_append, mem_append, mem_map,
      mem_singleton] at h
    rcases h with (hrelease | ⟨work, _, rfl⟩) | rfl
    · split at hrelease
      · obtain rfl := mem_singleton.mp hrelease
        exact ⟨rfl, rfl⟩
      · cases hrelease
    · exact ⟨rfl, rfl⟩
    · exact ⟨rfl, rfl⟩
  unfold ScheduledItem.remaining
  rw [hitem.1, hitem.2, hkey]
  split
  · rename_i hphase haction
    cases hphase
    cases haction
    exact le_refl _
  · exact Nat.zero_le _

/-- The items of a phase rank lower than the transition that entered it. -/
theorem Entered.rank_lt {new : List ScheduledItem} (h : Entered catalog scope item new)
    (hdue : item.dueTimeMs = scope.dueTime) (hle : item.dueTimeMs ≤ untilMs) :
    ∀ item' ∈ new, item'.rank catalog untilMs < item.rank catalog untilMs := by
  intro item' hmem
  rcases lt_or_eq_of_le (h.due item' hmem) with hlater | hnow
  · exact rank_lt_of_later hle (by omega)
  · rcases h with rfl | ⟨execution, action, phase, phaseIndex, delay, hwork, hindex, howned,
      hknown, hnext, rfl⟩
    · cases hmem
    · have hnew := remaining_le_of_mem_phaseItems hknown hmem
      have hold : item.remaining catalog = action.phases.length - phaseIndex := by
        unfold ScheduledItem.remaining
        rw [hwork, hindex, howned.actionKey, hknown]
      have hlength : phaseIndex + 1 < action.phases.length :=
        (List.getElem?_eq_some_iff.mp hnext).1
      apply Prod.Lex.toLex_lt_toLex.mpr
      right
      refine ⟨by show untilMs + 1 - item'.dueTimeMs = untilMs + 1 - item.dueTimeMs; omega, ?_⟩
      show item'.remaining catalog < item.remaining catalog
      omega

theorem rank_numberItems (next : ℕ) (items : List ScheduledItem) :
    (numberItems next items).map (ScheduledItem.rank catalog untilMs) =
      items.map (ScheduledItem.rank catalog untilMs) := by
  induction items generalizing next with
  | nil => rfl
  | cons item rest ih =>
    rw [numberItems, map_cons, map_cons, ih]
    rfl

/-- What a turn leaves in the queue: the other items, then items of lower rank. -/
theorem Turn.queue (h : Turn catalog scope item s s') (hle : item.dueTimeMs ≤ untilMs) :
    ∃ new : List ScheduledItem, s'.scheduled.map (ScheduledItem.rank catalog untilMs) =
        (s.scheduled.erase item).map (ScheduledItem.rank catalog untilMs) ++
          new.map (ScheduledItem.rank catalog untilMs) ∧
      ∀ item' ∈ new, item'.rank catalog untilMs < item.rank catalog untilMs := by
  refine h.preserves (P := fun t => ∃ new : List ScheduledItem,
    t.scheduled.map (ScheduledItem.rank catalog untilMs) =
      (s.scheduled.erase item).map (ScheduledItem.rank catalog untilMs) ++
        new.map (ScheduledItem.rank catalog untilMs) ∧
    ∀ item' ∈ new, item'.rank catalog untilMs < item.rank catalog untilMs) ?_ ?_
  · intro s₁ hconsume
    obtain ⟨new, hqueue, hentered⟩ := consume_queue hconsume
    refine ⟨new, ?_, hentered.rank_lt h.due hle⟩
    rw [hqueue.scheduled, map_append, rank_numberItems]
  · rintro a b hmove ⟨new, hranks, hlower⟩
    obtain ⟨added, hqueue, hafter⟩ := move_queue hmove
    refine ⟨new ++ added, ?_, ?_⟩
    · rw [hqueue.scheduled, map_append, rank_numberItems, hranks, map_append,
        append_assoc]
    · intro item' hmem
      rcases mem_append.mp hmem with hold | hnew
      · exact hlower item' hold
      · exact rank_lt_of_later hle (by rw [h.due]; exact (hafter item' hnew).2)

/-- **A turn cuts one head off the queue and grows lower ones.** -/
theorem turn_ranks (h : Turn catalog scope item s s') (hle : item.dueTimeMs ≤ untilMs) :
    Relation.CutExpand (· < ·) (s'.ranks catalog untilMs) (s.ranks catalog untilMs) := by
  obtain ⟨new, hranks, hlower⟩ := h.queue hle
  refine ⟨(new.map (ScheduledItem.rank catalog untilMs) : List (ℕ ×ₗ ℕ)),
    item.rank catalog untilMs, ?_, ?_⟩
  · intro rank hmem
    obtain ⟨item', hitem', rfl⟩ := mem_map.mp (Multiset.mem_coe.mp hmem)
    exact hlower item' hitem'
  · have hperm := (perm_cons_erase h.queued).map (ScheduledItem.rank catalog untilMs)
    rw [World.ranks, World.ranks, hranks, Multiset.coe_eq_coe.mpr hperm, map_cons,
      ← Multiset.coe_add, ← Multiset.cons_coe, ← Multiset.singleton_add]
    abel

end Termination

/-! ### Fuel -/

/-- A computation with fuel answers the same from some fuel on, and is then finished. -/
def Terminates {α : Type} (f : ℕ → Except Stop α) : Prop :=
  ∃ result, result ≠ .error .unfinished ∧ ∃ least, ∀ fuel, least ≤ fuel → f fuel = result

namespace Terminates

variable {α β : Type}

theorem const {result : Except Stop α} (h : result ≠ .error .unfinished) :
    Terminates (fun _ => result) := ⟨result, h, 0, fun _ _ => rfl⟩

variable {f : ℕ → Except Stop α}

theorem bind {g : ℕ → α → Except Stop β} (hf : Terminates f)
    (hg : ∀ a fuel, f fuel = .ok a → Terminates (fun fuel => g fuel a)) :
    Terminates (fun fuel => f fuel >>= g fuel) := by
  obtain ⟨result, hfinished, least, hresult⟩ := hf
  cases result with
  | error stop =>
    refine ⟨.error stop, ?_, least, ?_⟩
    · intro heq
      cases heq
      exact hfinished rfl
    · intro fuel hfuel
      show f fuel >>= g fuel = .error stop
      rw [hresult fuel hfuel, error_bind]
  | ok a =>
    obtain ⟨result', hfinished', least', hresult'⟩ := hg a least (hresult least (le_refl _))
    refine ⟨result', hfinished', max least least', ?_⟩
    intro fuel hfuel
    show f fuel >>= g fuel = result'
    rw [hresult fuel (le_trans (le_max_left _ _) hfuel), ok_bind]
    exact hresult' fuel (le_trans (le_max_right _ _) hfuel)

/-- One unit of fuel less does not matter. -/
theorem succ (h : Terminates (fun fuel => f (fuel + 1))) : Terminates f := by
  obtain ⟨result, hfinished, least, hresult⟩ := h
  refine ⟨result, hfinished, least + 1, ?_⟩
  intro fuel hfuel
  obtain ⟨fuel, rfl⟩ := Nat.exists_eq_add_of_le' (le_trans (Nat.le_add_left 1 least) hfuel)
  exact hresult fuel (by omega)

end Terminates

section Fuel

variable {rt : Runtime} {cfg : Config rt}

theorem orRaise_ne_unfinished {α : Type} (x : Except Fault α) :
    orRaise x ≠ .error .unfinished := by
  cases x with
  | ok a => exact fun h => by cases h
  | error fault => exact fun h => by cases h

/-- **The queue is always drained.** -/
theorem processDue_terminates (untilMs : ℕ) (s : Frame) (hs : Coherent s.toWorld) :
    Terminates (fun fuel => processDue cfg untilMs fuel s) := by
  have hwf : WellFounded (Relation.CutExpand (α := ℕ ×ₗ ℕ) (· < ·)) :=
    WellFounded.cutExpand wellFounded_lt
  induction hranks : s.ranks cfg.catalog untilMs using hwf.induction generalizing s with
  | _ ranks ih =>
    cases hnext : s.nextDue untilMs with
    | none =>
      have hconst : (fun fuel => processDue cfg untilMs fuel s) = fun _ => .ok s := by
        funext fuel
        cases fuel <;> rw [processDue, hnext]
      rw [hconst]
      exact .const (fun h => by cases h)
    | some item =>
      obtain ⟨hqueued, hdue, _⟩ := World.nextDue_eq_some hnext
      apply Terminates.succ
      have hturn : (fun fuel => processDue cfg untilMs (fuel + 1) s) = fun fuel =>
          orRaise (processItem cfg item (s.take item)) >>= fun t =>
            processDue cfg untilMs fuel t := by
        funext fuel
        rw [processDue, hnext]
      rw [hturn]
      apply Terminates.bind (.const (orRaise_ne_unfinished _))
      intro s₁ _ hs₁
      have hturn := processItem_turn hs hqueued (orRaise_eq_ok.mp hs₁)
      exact ih _ (hranks ▸ turn_ranks hturn hdue) s₁ (hs.turn hturn) rfl

theorem step_terminates (hw : Coherent world) (decisions : List DecisionMessage) (truncated : Bool)
    : Terminates (fun fuel => step cfg fuel world decisions truncated) := by
  unfold step
  apply Terminates.bind (.const (orRaise_ne_unfinished _))
  intro s₁ _ hopen
  have hs₁ : Coherent s₁.toWorld := hw.openStep (orRaise_eq_ok.mp hopen)
  apply Terminates.bind
  · apply Terminates.bind (processDue_terminates _ _ hs₁)
    intro s₂ fuel hs₂
    exact processDue_terminates _ _ ((hs₁.processDue hs₂).of_eq rfl rfl rfl rfl)
  · intro s₃ _ _
    apply Terminates.bind (.const (orRaise_ne_unfinished _))
    intro _ _ _
    exact .const (fun h => by cases h)

end Fuel

/-! ## Virtual time is causal -/

/-- **Virtual time is causal.**  The events of every run are ordered by time and number and
not later than the present.  From a reached world, every step drains the queue, and if it
raises no error, it leaves nothing due. -/
theorem reachable_causal {rt : Runtime} {cfg : Config rt} {events : List Event} {world : World}
    (h : Reachable cfg events world) :
    events.Pairwise (fun a b => a.simTimeMs ≤ b.simTimeMs ∧ a.number < b.number) ∧
    (∀ event ∈ events, event.simTimeMs ≤ world.nowMs) ∧
    ∀ decisions truncated,
      Terminates (fun fuel => step cfg fuel world decisions truncated) ∧
      ∀ fuel batch world', step cfg fuel world decisions truncated = .ok (batch, world') →
        ∀ item ∈ world'.scheduled, world'.nowMs < item.dueTimeMs := by
  have hcausal := h.causal
  refine ⟨hcausal.ordered, fun event he => (hcausal.past event he).1, ?_⟩
  intro decisions truncated
  refine ⟨step_terminates h.coherent decisions truncated, ?_⟩
  intro fuel batch world' hstep
  exact (causal_step h.coherent hcausal hstep).2

/-- Two ticks of two waiting actors. -/
theorem reachable_causal_waiting :
    ∃ (cfg : Config Runtime.sample) (events : List Event) (world : World),
      events.map Event.simTimeMs = [0, 0, 200, 200] ∧
      events.Pairwise (fun a b => a.simTimeMs ≤ b.simTimeMs ∧ a.number < b.number) ∧
      ∀ decisions truncated,
        Terminates (fun fuel => step cfg fuel world decisions truncated) := by
  have hrun : replays Runtime.sample (waitSetup 200 ["a", "b"]) 8
      [[waitDecision 0 "a" "first", waitDecision 0 "b" "second"]]
      (fun _ events _ => decide (events.map Event.simTimeMs = [0, 0, 200, 200])) = true := by
    decide +kernel
  obtain ⟨cfg, events, world, hreplay, htimes⟩ := exists_of_replays hrun
  obtain ⟨hordered, _, hsteps⟩ := reachable_causal (replay_reachable hreplay)
  exact ⟨cfg, events, world, of_decide_eq_true htimes, hordered,
    fun decisions truncated => (hsteps decisions truncated).1⟩

end ShadowbaneLab
