/-
# Runs of an environment

What a successful step consists of, and the runs of steps from a constructed world.
Every reachable world is coherent (`Reachable.coherent`).
-/
import ShadowbaneLab.Sim.Chains

namespace ShadowbaneLab

open Foundation

/-! ## Folding a fallible step -/

/-- What every step of a fold preserves, the fold preserves. -/
theorem foldlM_preserves {α σ : Type} {P : σ → Prop} {f : σ → α → Except Fault σ} {l : List α}
    {s s' : σ} (hstep : ∀ s a s', a ∈ l → P s → f s a = .ok s' → P s') (hs : P s)
    (h : l.foldlM f s = .ok s') : P s' := by
  induction l generalizing s with
  | nil =>
    cases h
    exact hs
  | cons a rest ih =>
    rw [List.foldlM_cons] at h
    obtain ⟨s₁, h₁, h⟩ := bind_eq_ok.mp h
    exact ih (fun s a s' ha => hstep s a s' (List.mem_cons_of_mem _ ha))
      (hstep s a s₁ List.mem_cons_self hs h₁) h

/-! ## The queue -/

variable {fuel : ℕ}

variable {world : World} {P : Frame → Prop}

section Queue

variable {rt : Runtime} {cfg : Config rt} {s s' : Frame} {item : ScheduledItem} {untilMs : ℕ}

theorem World.nextDue_eq_some (h : world.nextDue untilMs = some item) :
    item ∈ world.scheduled ∧ item.dueTimeMs ≤ untilMs ∧
      ∀ other ∈ world.scheduled, item.dueTimeMs ≤ other.dueTimeMs := by
  unfold World.nextDue at h
  obtain ⟨rest, hsorted⟩ := List.head?_eq_some_iff.mp h
  have hmem : item ∈ world.scheduled.filter (fun i => i.dueTimeMs ≤ untilMs) := by
    rw [← mem_sortBy ScheduledItem.scheduledKey, hsorted]
    exact List.mem_cons_self
  obtain ⟨hscheduled, hdue⟩ := List.mem_filter.mp hmem
  rw [decide_eq_true_eq] at hdue
  refine ⟨hscheduled, hdue, ?_⟩
  intro other hother
  by_cases hlate : other.dueTimeMs ≤ untilMs
  · have hin : other ∈ item :: rest := by
      rw [← hsorted, mem_sortBy, List.mem_filter, decide_eq_true_eq]
      exact ⟨hother, hlate⟩
    have hpairwise := pairwise_sortBy ScheduledItem.scheduledKey
      (world.scheduled.filter (fun i => i.dueTimeMs ≤ untilMs))
    rw [hsorted, List.pairwise_cons] at hpairwise
    rcases List.mem_cons.mp hin with rfl | hrest
    · exact le_refl _
    · exact ScheduledItem.dueTimeMs_le_of_scheduledKey_le (hpairwise.1 other hrest)
  · omega

theorem World.nextDue_eq_none (h : world.nextDue untilMs = none) :
    ∀ item ∈ world.scheduled, untilMs < item.dueTimeMs := by
  intro item hitem
  unfold World.nextDue at h
  rw [List.head?_eq_none_iff] at h
  by_contra hdue
  have : item ∈ sortBy ScheduledItem.scheduledKey
      (world.scheduled.filter (fun i => i.dueTimeMs ≤ untilMs)) := by
    rw [mem_sortBy, List.mem_filter, decide_eq_true_eq]
    exact ⟨hitem, not_lt.mp hdue⟩
  rw [h] at this
  cases this

/-- What every turn preserves, processing the queue preserves, until nothing is due. -/
theorem processDue_run (hturn : ∀ s item s', s.nextDue untilMs = some item → P s →
      processItem cfg item (s.take item) = .ok s' → P s')
    (hs : P s) (h : processDue cfg untilMs fuel s = .ok s') : P s' ∧ s'.nextDue untilMs = none := by
  induction fuel generalizing s with
  | zero =>
    rw [processDue] at h
    split at h
    · rename_i hnone
      cases h
      exact ⟨hs, hnone⟩
    · cases h
  | succ fuel ih =>
    rw [processDue] at h
    split at h
    · rename_i hnone
      cases h
      exact ⟨hs, hnone⟩
    · rename_i item hnext
      cases hitem : processItem cfg item (s.take item) with
      | error fault => rw [hitem] at h; cases h
      | ok s₁ =>
        rw [hitem] at h
        exact ih (hturn s item s₁ hnext hs hitem) h

theorem processDue_preserves (hturn : ∀ s item s', s.nextDue untilMs = some item → P s →
      processItem cfg item (s.take item) = .ok s' → P s')
    (hs : P s) (h : processDue cfg untilMs fuel s = .ok s') : P s' :=
  (processDue_run hturn hs h).1

end Queue

/-! ## Steps -/

variable {world world' : World} {decisions : List DecisionMessage} {truncated : Bool}
   {batch : EventBatchMessage}

section Steps

variable {rt : Runtime} {cfg : Config rt}

theorem orRaise_eq_ok {α : Type} {x : Except Fault α} {a : α} :
    orRaise x = .ok a ↔ x = .ok a := by
  cases x <;> simp [orRaise]

/-- The stages of a successful step: the frame after the rejections, after the starts,
after the queue of the old time, and after the queue of the new time. -/
structure Stages (cfg : Config rt) (fuel : ℕ) (world : World) (decisions : List DecisionMessage)
    (s₀ s₁ s₂ s₃ : Frame) : Prop where
  rejected : (rejections (verdicts cfg world decisions)).foldlM (reject cfg) { world with } =
    .ok s₀
  started : (accepted (verdicts cfg world decisions)).foldlM (startAction cfg) s₀ = .ok s₁
  drained : processDue cfg s₁.nowMs fuel s₁ = .ok s₂
  done : processDue cfg (s₂.advance cfg.tickDurationMs).nowMs fuel
    (s₂.advance cfg.tickDurationMs) = .ok s₃

theorem step_eq_ok (h : step cfg fuel world decisions truncated = .ok (batch, world')) :
    ∃ rejected started drained done, Stages cfg fuel world decisions rejected started drained done ∧
      batch = eventBatch cfg truncated done ∧ world' = done.toWorld := by
  unfold step at h
  obtain ⟨started, hstarted, h⟩ := bind_eq_ok.mp h
  obtain ⟨done, hdone, h⟩ := bind_eq_ok.mp h
  obtain ⟨_, _, h⟩ := bind_eq_ok.mp h
  cases h
  rw [orRaise_eq_ok] at hstarted
  obtain ⟨rejected, hrejected, hstarted⟩ := bind_eq_ok.mp hstarted
  obtain ⟨drained, hdrained, hdone⟩ := bind_eq_ok.mp hdone
  exact ⟨rejected, started, drained, done, ⟨hrejected, hstarted, hdrained, hdone⟩, rfl, rfl⟩

theorem reject_eq_ok {s s' : Frame} {rejection : DecisionMessage × String}
    (h : reject cfg s rejection = .ok s') :
    s' = s.report (startScope cfg s.nowMs rejection.1.agentId) (rejectedDraft rejection) :=
  Frame.emit_eq_ok h

end Steps

/-! ## Runs -/

variable {events : List Event}

variable {setup : Setup}

section Runs

variable {rt : Runtime}

/-- A run of successful steps from a world: the events so far and the world reached. -/
inductive Run (cfg : Config rt) (start : World) : List Event → World → Prop
  | refl : Run cfg start [] start
  | step {events : List Event} {world world' : World} {fuel : ℕ}
      {decisions : List DecisionMessage} {truncated : Bool} {batch : EventBatchMessage}
      (run : Run cfg start events world)
      (stepped : step cfg fuel world decisions truncated = .ok (batch, world')) :
      Run cfg start (events ++ batch.events) world'

/-- A configuration and the world its constructor builds. -/
def Built (cfg : Config rt) (start : World) : Prop :=
  ∃ setup targeting, construct rt setup targeting = .ok (cfg, start)

/-- A world reached by some run of an environment, and the events of that run. -/
def Reachable (cfg : Config rt) (events : List Event) (world : World) : Prop :=
  ∃ start, Built cfg start ∧ Run cfg start events world

variable {cfg : Config rt}

theorem Run.reachable {events later : List Event} (h : Run cfg world later world')
    (hworld : Reachable cfg events world) : Reachable cfg (events ++ later) world' := by
  obtain ⟨start, hbuilt, hrun⟩ := hworld
  refine ⟨start, hbuilt, ?_⟩
  clear hbuilt
  induction h with
  | refl =>
    rw [List.append_nil]
    exact hrun
  | step _ stepped ih =>
    rw [← List.append_assoc]
    exact ih.step stepped

/-- What the constructor establishes and every step preserves holds in every reachable
world. -/
theorem Reachable.induction {P : List Event → World → Prop}
    (hbuilt : ∀ start, Built cfg start → P [] start)
    (hstep : ∀ events world fuel decisions truncated batch world', P events world →
      ShadowbaneLab.step cfg fuel world decisions truncated = .ok (batch, world') →
      P (events ++ batch.events) world') (h : Reachable cfg events world) : P events world := by
  obtain ⟨start, hstart, hrun⟩ := h
  induction hrun with
  | refl => exact hbuilt start hstart
  | step run stepped ih => exact hstep _ _ _ _ _ _ _ ih stepped

/-- The frames of a run between two turns of a step: rejections, starts, turns of the
queue, and the advance of the clock. -/
inductive Visited (cfg : Config rt) : Frame → Prop
  | boundary {events : List Event} {world : World} (reached : Reachable cfg events world) :
      Visited cfg { world with }
  | reject {s s' : Frame} {rejection : DecisionMessage × String} (visited : Visited cfg s)
      (rejected : ShadowbaneLab.reject cfg s rejection = .ok s') : Visited cfg s'
  | start {s s' : Frame} {admitted : DecisionMessage × ActionSpec} (visited : Visited cfg s)
      (started : startAction cfg s admitted = .ok s') : Visited cfg s'
  | turn {s s' : Frame} {item : ScheduledItem} {untilMs : ℕ} (visited : Visited cfg s)
      (next : s.nextDue untilMs = some item)
      (processed : processItem cfg item (s.take item) = .ok s') : Visited cfg s'
  | advance {s : Frame} (visited : Visited cfg s) : Visited cfg (s.advance cfg.tickDurationMs)

/-! ### Computed runs -/

/-- Take one step after another; answers the events and the last world. -/
def runSteps (cfg : Config rt) (fuel : ℕ) :
    World → List (List DecisionMessage) → Except Stop (List Event × World)
  | world, [] => .ok ([], world)
  | world, decisions :: rest => do
    let (batch, world) ← step cfg fuel world decisions
    let (events, world) ← runSteps cfg fuel world rest
    pure (batch.events ++ events, world)

variable {steps : List (List DecisionMessage)}

theorem Run.extend {start world world' : World} {events events' : List Event}
    (hrun : Run cfg start events world) (h : runSteps cfg fuel world steps = .ok (events', world'))
    :
    Run cfg start (events ++ events') world' := by
  induction steps generalizing events events' world with
  | nil =>
    cases h
    rw [List.append_nil]
    exact hrun
  | cons decisions rest ih =>
    rw [runSteps] at h
    obtain ⟨⟨batch, world₁⟩, hstep, h⟩ := bind_eq_ok.mp h
    obtain ⟨⟨events₁, world₂⟩, hrest, h⟩ := bind_eq_ok.mp h
    cases h
    rw [← List.append_assoc]
    exact ih (hrun.step hstep) hrest

/-- Build an environment and take some steps. -/
def replay (rt : Runtime) (setup : Setup) (fuel : ℕ) (steps : List (List DecisionMessage)) :
    Except Stop (Config rt × List Event × World) := do
  let (cfg, start) ← orRaise (construct rt setup none)
  let (events, world) ← runSteps cfg fuel start steps
  pure (cfg, events, world)

theorem replay_reachable (h : replay rt setup fuel steps = .ok (cfg, events, world)) :
    Reachable cfg events world := by
  unfold replay at h
  obtain ⟨⟨cfg', start⟩, hbuilt, h⟩ := bind_eq_ok.mp h
  obtain ⟨⟨events', world'⟩, hrun, h⟩ := bind_eq_ok.mp h
  cases h
  rw [orRaise_eq_ok] at hbuilt
  exact ⟨start, ⟨setup, none, hbuilt⟩, Run.refl.extend hrun⟩

/-- Whether a computed run succeeds with a property. -/
def replays (rt : Runtime) (setup : Setup) (fuel : ℕ) (steps : List (List DecisionMessage))
    (P : Config rt → List Event → World → Bool) : Bool :=
  match replay rt setup fuel steps with
  | .ok (cfg, events, world) => P cfg events world
  | .error _ => false

theorem exists_of_replays {P : Config rt → List Event → World → Bool}
    (h : replays rt setup fuel steps P = true) :
    ∃ cfg events world, replay rt setup fuel steps = .ok (cfg, events, world) ∧
      P cfg events world = true := by
  unfold replays at h
  split at h
  · rename_i cfg events world hreplay
    exact ⟨cfg, events, world, hreplay, h⟩
  · cases h

end Runs

/-! ### A small environment -/

theorem range_nonneg : (0 : ℚ) ≤ 0 := le_refl 0

theorem range_ordered : ∀ m ∈ (none : Option ℚ), (0 : ℚ) ≤ m := by simp

theorem uniqueStrings_nil : UniqueStrings [] := by decide

theorem disjoint_nil : ∀ t ∈ ([] : List String), t ∉ ([] : List String) := by simp

/-- The action of waiting. -/
def waitAction (durationMs : ℕ) : ActionSpec where
  actionKey := "wait"
  targeting := ⟨.none, [], 0, none, false, List.nodup_nil, by decide, range_nonneg, range_ordered⟩
  phases := [{ kind := .active, durationMs := durationMs, recovery_ok := by simp }]
  actionKey_ok := by decide
  phases_ne := by simp
  costs_ok := by decide
  requiredActorTags_ok := uniqueStrings_nil
  forbiddenActorTags_ok := uniqueStrings_nil
  actorTags_disjoint := disjoint_nil
  features_ok := by decide
  weaponAttack_ok := by simp
  armedTrigger_ok := by simp
  tags_ok := uniqueStrings_nil
  cancel_ok := by simp
  actorArea_ok := by simp [areaEffects]
  targetArea_ok := by simp [areaEffects]
  hitRoll_ok := by simp

def waitCatalog (durationMs : ℕ) : ActionCatalog where
  actions := [waitAction durationMs]
  keys_ok := ⟨List.nodup_singleton _, by simp [waitAction]; decide⟩
  triggers_ok := ⟨by simp [waitAction], by simp [waitAction]⟩

/-- An actor that can only wait. -/
def waiter (entityId : String) : EntityState where
  entityId := entityId
  lifeId := "life:" ++ entityId
  kind := .actor
  teamId := none
  position := Vector2.zero
  actionKeys := ["wait"]

/-- An environment of actors that can only wait. -/
def waitSetup (durationMs : ℕ) (entityIds : List String) : Setup where
  catalog := waitCatalog durationMs
  entities := entityIds.map waiter
  seed := 0

/-- The decision to wait. -/
def waitDecision (tick : ℕ) (agentId correlationId : String)
    (agentId_ok : Identifier agentId := by decide)
    (correlationId_ok : Identifier correlationId := by decide) : DecisionMessage where
  messageId := "message:wait"
  correlationId := correlationId
  observationId := "observation:" ++ decimal tick ++ ":" ++ agentId
  agentId := agentId
  tick := tick
  affordanceId := "affordance:" ++ decimal tick ++ ":" ++ agentId ++ ":" ++ padded 4 0
  actionKey := "wait"
  binding := { actorId := agentId }
  messageId_ok := by decide
  correlationId_ok := correlationId_ok
  observationId_ok := by
    rw [String.append_assoc, String.append_assoc]
    exact identifier_append_left (by decide) _
  agentId_ok := agentId_ok
  affordanceId_ok := by
    rw [String.append_assoc, String.append_assoc, String.append_assoc, String.append_assoc]
    exact identifier_append_left (by decide) _
  actionKey_ok := by decide
  binding_ok := rfl

/-! ## Reachable worlds are coherent -/

section Coherence

variable {rt : Runtime} {cfg : Config rt} {s s' : Frame}

/-- Coherence concerns entities, executions and the queue only. -/
theorem Coherent.of_eq (h : Coherent world) (hentities : world'.entities = world.entities)
    (hexecutions : world'.executions = world.executions)
    (hscheduled : world'.scheduled = world.scheduled)
    (horder : world'.nextScheduleOrder = world.nextScheduleOrder) : Coherent world' := by
  refine ⟨?_, ?_, ?_, ?_, ?_, ?_⟩
  · rw [hentities]
    exact h.entities_keyed
  · rw [hexecutions]
    exact h.executions_keyed
  · rw [hexecutions]
    exact h.tokens
  · rw [hscheduled]
    exact h.orders
  · rw [hscheduled, horder]
    exact h.orders_lt
  · rw [hscheduled, hexecutions]
    exact h.owned

/-- A new execution under its own fresh key keeps a world coherent. -/
theorem Coherent.insertExecution (hs : Coherent s.toWorld) {e : ActionExecutionState}
    (hfresh : s.executions.get? e.key = none)
    (htoken : e.cancelToken = cancelToken e.actorEntityId e.correlationId) :
    Coherent { s with executions := s.executions.set e.key e }.toWorld := by
  refine ⟨hs.entities_keyed, ?_, ?_, hs.orders, hs.orders_lt, ?_⟩
  · exact Dict.forall_set hs.executions_keyed rfl
  · exact Dict.forall_set hs.tokens htoken
  · intro item hitem
    rcases hs.owned item hitem with hfree | ⟨owner, howner, howned⟩
    · exact .inl hfree
    · refine .inr ⟨owner, ?_, howned⟩
      show (s.executions.set e.key e).get? item.executionKey = some owner
      rw [Dict.get?_set_ne]
      · exact howner
      · intro hkey
        rw [hkey, howner] at hfresh
        cases hfresh

/-- Appending items that are free or owned keeps a world coherent. -/
theorem Coherent.schedule (hs : Coherent s.toWorld) {items : List ScheduledItem}
    (howned : ∀ item ∈ items, item.Free ∨
      ∃ execution, s.executions.get? item.executionKey = some execution ∧ item.OwnedBy execution) :
    Coherent (items.foldl Frame.schedule s).toWorld := by
  rw [foldl_schedule]
  exact hs.step (Dict.rel_refl .refl _)
    (Dict.rel_refl .refl _)
    ⟨rfl, .refl _, le_refl _, howned⟩

theorem Coherent.starts {decision : DecisionMessage} {action : ActionSpec}
    (hs : Coherent s.toWorld) (h : Starts cfg s s' decision action) : Coherent s'.toWorld := by
  obtain ⟨s₁, s₂, actor, triggered, delay, hfirst, _, hsecond, _, rfl⟩ := h.chain
  have hs₂ : Coherent s₂.toWorld := by
    apply Coherent.changes _ hsecond
    exact (hs.changes hfirst).of_eq rfl rfl rfl rfl
  have hfresh : s₂.executions.get? decision.executionKey = none := by
    have h₁ := (changes_executions hfirst).none_iff decision.executionKey
    have h₂ := (changes_executions hsecond).none_iff decision.executionKey
    exact h₂.mp (h₁.mp h.fresh)
  generalize hexecution : newExecution decision action actor (targetLife s₂ decision)
    (action.phases.head action.phases_ne) s.nowMs triggered = execution
  have hkey : execution.key = decision.executionKey := by
    subst hexecution
    rfl
  have hcontinues : execution.Continues
      (execution.enterPhase action (action.phases.head action.phases_ne) 0 s.nowMs) :=
    .enterPhase (by subst hexecution; rfl) _ _ _ _
  rw [Frame.enterPhase]
  apply Coherent.schedule
  · have := hs₂.insertExecution
      (e := execution.enterPhase action (action.phases.head action.phases_ne) 0 s.nowMs)
      (by rw [hcontinues.key, hkey]; exact hfresh) (by subst hexecution; rfl)
    rwa [hcontinues.key] at this
  · intro item hitem
    obtain ⟨hitemKey, howned, _⟩ := mem_phaseItems (by subst hexecution; rfl) hitem
    refine .inr ⟨_, ?_, howned.continues hcontinues⟩
    rw [hitemKey]
    exact Dict.get?_set_self _ _ _

theorem Coherent.processDue {untilMs fuel : ℕ} (hs : Coherent s.toWorld)
    (h : processDue cfg untilMs fuel s = .ok s') : Coherent s'.toWorld :=
  processDue_preserves (P := fun s => Coherent s.toWorld) (fun _ _ _ hnext hs hitem =>
    hs.turn (processItem_turn hs (World.nextDue_eq_some hnext).1 hitem)) hs h

theorem Coherent.openStep (hw : Coherent world) (h : openStep cfg world decisions = .ok s) :
    Coherent s.toWorld := by
  obtain ⟨s₀, hrejected, hstarted⟩ := bind_eq_ok.mp h
  have hs₀ : Coherent s₀.toWorld := by
    refine foldlM_preserves (P := fun s => Coherent s.toWorld) ?_ hw hrejected
    intro s a s' _ hs hreject
    rw [reject_eq_ok hreject]
    exact hs.of_eq rfl rfl rfl rfl
  refine foldlM_preserves (P := fun s => Coherent s.toWorld) ?_ hs₀ hstarted
  intro s a s' _ hs hstart
  exact hs.starts (startAction_eq_ok hs hstart)

theorem coherent_step (hw : Coherent world)
    (h : step cfg fuel world decisions truncated = .ok (batch, world')) : Coherent world' := by
  obtain ⟨s₀, s₁, s₂, s₃, hstages, _, rfl⟩ := step_eq_ok h
  have hs₁ : Coherent s₁.toWorld :=
    hw.openStep (bind_eq_ok.mpr ⟨s₀, hstages.rejected, hstages.started⟩)
  have hs₂ : Coherent (s₂.advance cfg.tickDurationMs).toWorld :=
    (hs₁.processDue hstages.drained).of_eq rfl rfl rfl rfl
  exact hs₂.processDue hstages.done

/-- What every stage of a step preserves, where turns take what is next, the step preserves. -/
theorem step_preserves_next
    (hreject : ∀ s s' rejection, P s → reject cfg s rejection = .ok s' → P s')
    (hstart : ∀ s s' admitted, admitted ∈ accepted (verdicts cfg world decisions) →
      Coherent s.toWorld → P s → startAction cfg s admitted = .ok s' → P s')
    (hturn : ∀ s s' item untilMs, s.nextDue untilMs = some item → Coherent s.toWorld → P s →
      processItem cfg item (s.take item) = .ok s' → P s')
    (hadvance : ∀ s, P s → P (s.advance cfg.tickDurationMs)) (hw : Coherent world)
    (hworld : P { world with }) (h : step cfg fuel world decisions truncated = .ok (batch, world'))
    :
    ∃ s, P s ∧ batch = eventBatch cfg truncated s ∧ world' = s.toWorld := by
  obtain ⟨s₀, s₁, s₂, s₃, hstages, hbatch, hworld'⟩ := step_eq_ok h
  have hdue {untilMs : ℕ} {s s' : Frame} (hs : Coherent s.toWorld ∧ P s)
      (hdone : processDue cfg untilMs fuel s = .ok s') : Coherent s'.toWorld ∧ P s' := by
    refine processDue_preserves (P := fun t => Coherent t.toWorld ∧ P t) ?_ hs hdone
    rintro t item t' hnext ⟨ht, hp⟩ hitem
    have hqueued := (World.nextDue_eq_some hnext).1
    exact ⟨ht.turn (processItem_turn ht hqueued hitem), hturn t t' item untilMs hnext ht hp hitem⟩
  have hs₀ : Coherent s₀.toWorld ∧ P s₀ := by
    refine foldlM_preserves (P := fun t => Coherent t.toWorld ∧ P t) ?_ ⟨hw, hworld⟩
      hstages.rejected
    rintro t rejection t' _ ⟨ht, hp⟩ hrejected
    refine ⟨?_, hreject t t' rejection hp hrejected⟩
    rw [reject_eq_ok hrejected]
    exact ht.of_eq rfl rfl rfl rfl
  have hs₁ : Coherent s₁.toWorld ∧ P s₁ := by
    refine foldlM_preserves (P := fun t => Coherent t.toWorld ∧ P t) ?_ hs₀ hstages.started
    rintro t admitted t' hmem ⟨ht, hp⟩ hstarted
    exact ⟨ht.starts (startAction_eq_ok ht hstarted), hstart t t' admitted hmem ht hp hstarted⟩
  obtain ⟨hcoherent₂, hs₂⟩ := hdue hs₁ hstages.drained
  have hadvanced : Coherent (s₂.advance cfg.tickDurationMs).toWorld :=
    hcoherent₂.of_eq rfl rfl rfl rfl
  exact ⟨s₃, (hdue ⟨hadvanced, hadvance s₂ hs₂⟩ hstages.done).2, hbatch, hworld'⟩

/-- **What every stage of a step preserves, the step preserves.** -/
theorem step_preserves (hreject : ∀ s s' rejection, P s → reject cfg s rejection = .ok s' → P s')
    (hstart : ∀ s s' admitted, admitted ∈ accepted (verdicts cfg world decisions) →
      Coherent s.toWorld → P s → startAction cfg s admitted = .ok s' → P s')
    (hturn : ∀ s s' item, item ∈ s.scheduled → Coherent s.toWorld → P s →
      processItem cfg item (s.take item) = .ok s' → P s')
    (hadvance : ∀ s, P s → P (s.advance cfg.tickDurationMs)) (hw : Coherent world)
    (hworld : P { world with }) (h : step cfg fuel world decisions truncated = .ok (batch, world'))
    :
    ∃ s, P s ∧ batch = eventBatch cfg truncated s ∧ world' = s.toWorld :=
  step_preserves_next hreject hstart
    (fun s s' item _ hnext => hturn s s' item (World.nextDue_eq_some hnext).1) hadvance hw hworld h

/-! ### Constructed worlds -/

variable {start : World}

theorem construct_eq_ok {targeting : Option (RuntimeTargetingContext rt)}
    (h : construct rt setup targeting = .ok (cfg, start)) :
    (setup.entities.map EntityState.entityId).Nodup ∧
    validateEntityActions setup.catalog setup.entities = .ok () ∧
    cfg.catalog = setup.catalog ∧ cfg.tickDurationMs = setup.tickDurationMs ∧
    normalizeDirections rt setup.directionCandidates = .ok cfg.directionCandidates ∧
    cfg.positionCandidates = setup.positionCandidates ∧
    cfg.terminateOnLastTeam = setup.terminateOnLastTeam ∧
    cfg.initialCompetingTeams = setup.competingTeams ∧ cfg.targeting = targeting ∧
    ∃ entities frame, setup.entities.mapM EntityState.clone = .ok entities ∧
      scheduleInitialEffects { initialWorld setup.seed entities with } = .ok frame ∧
      start = frame.toWorld := by
  unfold construct at h
  obtain ⟨_, h⟩ := check_bind_eq_ok.mp h
  obtain ⟨hnodup, h⟩ := check_bind_eq_ok.mp h
  obtain ⟨hactions, h⟩ := check_bind_eq_ok.mp h
  obtain ⟨entities, hentities, h⟩ := bind_eq_ok.mp h
  split at h
  · obtain ⟨directions, hdirections, h⟩ := bind_eq_ok.mp h
    obtain ⟨frame, hframe, h⟩ := bind_eq_ok.mp h
    cases h
    rw [require_eq_ok, decide_eq_true_eq] at hnodup
    exact ⟨hnodup, hactions, rfl, rfl, hdirections, rfl, rfl, rfl, rfl, entities, frame,
      hentities, hframe, rfl⟩
  · cases h

variable {slot : String × String}

/-- Scheduling the work of one initial effect: its slot may be named, then free items are
queued. -/
theorem scheduleInitialEffect_eq_ok (h : scheduleInitialEffect s slot = .ok s') :
    ∃ (s₁ : Frame) (items : List ScheduledItem), (s₁ = s ∨ s₁ = (s.nameEffect slot.1 slot.2).1) ∧
      (∀ item ∈ items, item.Free) ∧ s' = items.foldl Frame.schedule s₁ := by
  unfold scheduleInitialEffect at h
  obtain ⟨entity, _, h⟩ := bind_eq_ok.mp h
  split at h
  · cases h
  · rename_i active _
    dsimp only at h
    split at h
    · rename_i source_ok
      cases h
      refine ⟨_, _, ?_, ?_, rfl⟩
      · cases active.instanceId with
        | none => exact .inr rfl
        | some instanceId => exact .inl rfl
      · intro item hitem
        rw [initialItems, List.mem_append, List.mem_flatMap] at hitem
        rcases hitem with ⟨pulse, _, hpulse⟩ | hexpiry
        · obtain ⟨index, _, rfl⟩ := List.mem_map.mp hpulse
          exact ⟨rfl, rfl, rfl⟩
        · split at hexpiry
          · cases hexpiry
          · obtain rfl := List.mem_singleton.mp hexpiry
            exact ⟨rfl, rfl, rfl⟩
    · cases h

theorem Coherent.nameEffect (hs : Coherent s.toWorld) (entityId storageKey : String) :
    Coherent (s.nameEffect entityId storageKey).1.toWorld := by
  refine hs.step ?_ (Dict.rel_refl .refl _)
    (.none rfl (Nat.le_succ _))
  apply Dict.rel_modify .refl
  exact fun _ _ => ⟨rfl, rfl, rfl, rfl, rfl, rfl, rfl, id⟩

theorem Coherent.initialEffect (hs : Coherent s.toWorld) (h : scheduleInitialEffect s slot = .ok s')
    : Coherent s'.toWorld := by
  obtain ⟨s₁, items, hs₁, hfree, rfl⟩ := scheduleInitialEffect_eq_ok h
  apply Coherent.schedule
  · rcases hs₁ with rfl | rfl
    · exact hs
    · exact hs.nameEffect slot.1 slot.2
  · exact fun item hitem => .inl (hfree item hitem)

theorem coherent_initialWorld (seed : ℤ) (entities : List EntityState) :
    Coherent (initialWorld seed entities) := by
  refine ⟨?_, ?_, ?_, List.nodup_nil, ?_, ?_⟩
  · intro k e he
    obtain ⟨e', _, heq⟩ := List.mem_map.mp (Dict.mem_of_get?_ofList he)
    cases heq
    rfl
  · intro k e he
    cases he
  · intro k e he
    cases he
  · intro item hitem
    cases hitem
  · intro item hitem
    cases hitem

theorem Built.coherent (h : Built cfg start) : Coherent start := by
  obtain ⟨setup, targeting, hconstruct⟩ := h
  obtain ⟨_, _, _, _, _, _, _, _, _, entities, frame, _, hframe, rfl⟩ := construct_eq_ok hconstruct
  refine foldlM_preserves (P := fun s => Coherent s.toWorld) ?_
    (coherent_initialWorld setup.seed entities) hframe
  exact fun _ _ _ _ hs hslot => hs.initialEffect hslot

/-- **Every reachable world is coherent.** -/
theorem Reachable.coherent (h : Reachable cfg events world) : Coherent world :=
  h.induction (P := fun _ world => Coherent world) (fun _ hbuilt => hbuilt.coherent)
    (fun _ _ _ _ _ _ _ hs hstep => coherent_step hs hstep)

/-- **Every visited frame is coherent.** -/
theorem Visited.coherent (h : Visited cfg s) : Coherent s.toWorld := by
  induction h with
  | boundary reached => exact reached.coherent
  | reject _ rejected ih =>
    rw [reject_eq_ok rejected]
    exact ih.of_eq rfl rfl rfl rfl
  | start _ started ih => exact ih.starts (startAction_eq_ok ih started)
  | turn _ next processed ih =>
    exact ih.turn (processItem_turn ih (World.nextDue_eq_some next).1 processed)
  | advance _ ih => exact ih.of_eq rfl rfl rfl rfl

end Coherence

end ShadowbaneLab
