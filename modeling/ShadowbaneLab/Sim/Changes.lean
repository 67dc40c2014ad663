/-
# What one change of a frame can be

A turn of the queue consumes its item (`Consume`: the item is dropped, or it moves its
execution to the next phase or to its completion) and goes on with a chain of moves.  A
`Move` is a `Change`, which is what one command of an effect can do, or a move of the
timeline itself: a phase released, an effect expired, a death and what follows from it.
Invariants are proved once per move; that the functions of the environment are such chains
is proved once per function.
-/
import ShadowbaneLab.Sim.Environment

namespace ShadowbaneLab

open Foundation List Dict

/-! ## Kinds of work -/

/-- Work of an effect: its pulses and its expiry. -/
def ScheduledWork.isEffect : ScheduledWork → Bool
  | .effectPulse _ _ _ _ _ => true
  | .effectExpiry _ => true
  | _ => false

/-- Work that ends a phase. -/
def ScheduledWork.endsPhase : ScheduledWork → Bool
  | .phaseTransition => true
  | .completion => true
  | _ => false

variable {work : ScheduledWork}

theorem ScheduledWork.not_isEffect_of_endsPhase (h : work.endsPhase = true) :
    work.isEffect = false := by
  cases work <;> first | rfl | cases h

/-- Effect work that no execution owns. -/
structure ScheduledItem.Free (item : ScheduledItem) : Prop where
  work : item.work.isEffect = true
  cancelToken : item.cancelToken = none
  actorLifeId : item.actorLifeId = none

/-- Work of an execution. -/
structure ScheduledItem.OwnedBy (item : ScheduledItem) (execution : ActionExecutionState) :
    Prop where
  cancelToken : item.cancelToken = some execution.cancelToken
  actorLifeId : item.actorLifeId = some execution.actorLifeId
  actionKey : item.actionKey = execution.actionKey
  phaseIndex : item.phaseIndex.isSome = true
  policy : item.work.endsPhase = true → item.continuationPolicy = .sourceBound

/-! ## Changes -/

namespace Frame

/-- Append the event of a draft, at the time of a scope. -/
def report (scope : Scope) (draft : EventDraft) (frame : Frame) : Frame :=
  frame.record (draft.event scope.tickDurationMs scope.dueTime frame.nextEventNumber)

/-- An item that does not end the current phase of a running execution. -/
def Settled (frame : Frame) (item : ScheduledItem) : Prop :=
  frame.scheduledItemIsValid item = true → item.work.endsPhase = true →
    ∀ execution, frame.executions.get? item.executionKey = some execution →
      execution.isTerminal = false → item.phaseIndex ≠ some execution.phaseIndex

end Frame

/-- What one command does to a frame, at most. -/
inductive Change (scope : Scope) : Frame → Frame → Prop
  /-- The random source advances. -/
  | randomize (frame : Frame) (random : DeterministicRandom) :
      Change scope frame { frame with random := random }
  | report (frame : Frame) (draft : EventDraft) (unreserved : draft.kind.reserved = false) :
      Change scope frame (frame.report scope draft)
  | reportRemoved (frame : Frame) (subject : Living scope) (active : EffectRecord)
      (ctx : ItemContext) (reason : String) (scalars : List NamedScalar) :
      Change scope frame
        (frame.report scope (effectRemovedDraft subject.id active ctx reason scalars))
  | adjust (frame : Frame) (subject : Living scope) (key : String) (change : ScalarChange)
      (key_ok : Identifier key) :
      Change scope frame (frame.modifyEntity subject.id (EntityState.adjust key change))
  | alter (frame : Frame) (subject : Living scope) (change : BodyChange) :
      Change scope frame (frame.modifyEntity subject.id (EntityState.alter change))
  | moveItem (frame : Frame) (source target : Living scope) (itemId : String) (quantity : ℚ)
      (entity : EntityState) (itemId_ok : Identifier itemId) (positive : 0 < quantity)
      (found : frame.entities.get? source.id = some entity)
      (enough : quantity ≤ entity.inventory.getD itemId 0) :
      Change scope frame
        ((frame.modifyEntity source.id (EntityState.addItem itemId (-quantity))).modifyEntity
          target.id (EntityState.addItem itemId quantity))
  | store (frame : Frame) (subject : Living scope) (effect : ApplyEffect) (sourceId : String)
      (sourceId_ok : Identifier sourceId) :
      Change scope frame (frame.storeEffect scope.dueTime subject.id effect sourceId)
  | discard (frame : Frame) (subject : Living scope) (storageKey : String) :
      Change scope frame
        (frame.modifyEntity subject.id (EntityState.dropEffect storageKey))
  | enqueue (frame : Frame) (item : ScheduledItem) (free : item.Free)
      (later : scope.dueTime < item.dueTimeMs) :
      Change scope frame (frame.schedule item)
  | interrupt (frame : Frame) (subject : Living scope) (execution : ActionExecutionState)
      (reason : String) (found : frame.executions.get? execution.key = some execution)
      (running : execution.isTerminal = false) (mine : execution.actorEntityId = subject.id) :
      Change scope frame
        (((frame.capBusy subject.id scope.dueTime).cancelExecution execution).report scope
          (Frame.interruptedDraft reason execution))

/-- What one change or one move of the timeline does to a frame, its item aside. -/
inductive Move (scope : Scope) : Frame → Frame → Prop
  | change {s s' : Frame} (h : Change scope s s') : Move scope s s'
  | release (frame : Frame) (item : ScheduledItem) (execution : ActionExecutionState)
      (phaseIndex : ℕ) (found : frame.executions.get? item.executionKey = some execution)
      (running : execution.isTerminal = false) :
      Move scope frame
        (frame.modifyExecution item.executionKey (ActionExecutionState.release phaseIndex))
  | expire (frame : Frame) (entityId storageKey : String) (entity : EntityState)
      (active : EffectRecord) (ctx : ItemContext)
      (found : frame.entities.get? entityId = some entity)
      (stored : entity.record? storageKey = some active)
      (due : active.expiresAtMs = scope.dueTime) :
      Move scope frame
        ((frame.modifyEntity entityId (EntityState.dropEffect storageKey)).report scope
          (effectRemovedDraft entityId active ctx "reason.expired"))
  | die (frame : Frame) (entityId : String) (entity : EntityState)
      (found : frame.entities.get? entityId = some entity) (dying : entity.dying = true) :
      Move scope frame ((frame.endLife entityId entity).report scope (diedDraft entity))
  | rest (frame : Frame) (actorId : String) (entity : EntityState)
      (found : frame.entities.get? actorId = some entity) (dead : entity.alive = false)
      (eligible : actorId ∈ scope.eligible) :
      Move scope frame (frame.layToRest actorId scope.dueTime)
  | close (frame : Frame) (execution : ActionExecutionState) (entity : EntityState)
      (found : frame.executions.get? execution.key = some execution)
      (running : execution.isTerminal = false)
      (actor : frame.entities.get? execution.actorEntityId = some entity)
      (dead : entity.alive = false) :
      Move scope frame
        ((frame.cancelExecution execution).report scope
          (Frame.interruptedDraft "death" execution))

/-- What a turn does with its item. -/
inductive Consume (catalog : ActionCatalog) (scope : Scope) (item : ScheduledItem) :
    Frame → Frame → Prop
  /-- The item leaves the queue. -/
  | drop (frame : Frame) (settled : frame.Settled item) :
      Consume catalog scope item frame (frame.take item)
  | nextPhase (frame : Frame) (execution : ActionExecutionState) (action : ActionSpec)
      (phase : ActionPhase) (phaseIndex delay : ℕ) (work : item.work = .phaseTransition)
      (found : frame.executions.get? item.executionKey = some execution)
      (keyed : execution.key = item.executionKey) (owned : item.OwnedBy execution)
      (running : execution.isTerminal = false) (current : execution.phaseIndex = phaseIndex)
      (ends : item.phaseIndex = some phaseIndex)
      (alive : frame.actorLifeKept item execution.actorLifeId = true)
      (known : catalog.find? execution.actionKey = some action)
      (next : action.phases[phaseIndex + 1]? = some phase) :
      Consume catalog scope item frame
        ((frame.take item).enterPhase execution action phase (phaseIndex + 1) scope.dueTime delay)
  | complete (frame : Frame) (execution : ActionExecutionState) (work : item.work = .completion)
      (found : frame.executions.get? item.executionKey = some execution)
      (running : execution.isTerminal = false)
      (alive : frame.actorLifeKept item execution.actorLifeId = true) :
      Consume catalog scope item frame
        (((frame.take item).finish item execution).report scope (completedDraft item))

/-- A chain of changes. -/
abbrev Changes (scope : Scope) : Frame → Frame → Prop := Relation.ReflTransGen (Change scope)

/-- A chain of moves. -/
abbrev Moves (scope : Scope) : Frame → Frame → Prop := Relation.ReflTransGen (Move scope)

/-- A turn of the queue: an item is consumed when it is due, then come moves. -/
structure Turn (catalog : ActionCatalog) (scope : Scope) (item : ScheduledItem) (s s' : Frame) :
    Prop where
  queued : item ∈ s.scheduled
  due : item.dueTimeMs = scope.dueTime
  chain : ∃ s₁, Consume catalog scope item s s₁ ∧ Moves scope s₁ s'

variable {scope : Scope} {s s' : Frame}

theorem Changes.moves (h : Changes scope s s') : Moves scope s s' :=
  .mono (fun _ _ => Move.change) _ _ h

variable {catalog : ActionCatalog} {item : ScheduledItem}

/-- What the consumption of the item establishes and every move preserves holds after a
turn. -/
theorem Turn.preserves {P : Frame → Prop} (h : Turn catalog scope item s s')
    (hconsume : ∀ s₁, Consume catalog scope item s s₁ → P s₁)
    (hmove : ∀ a b, Move scope a b → P a → P b) : P s' := by
  obtain ⟨s₁, hfirst, hmoves⟩ := h.chain
  clear h
  induction hmoves with
  | refl => exact hconsume s₁ hfirst
  | tail _ hlast ih => exact hmove _ _ hlast ih

/-! ## What stays when an execution or an entity changes -/

/-- The parts of an execution that never change, and that a terminal one never changes. -/
structure ActionExecutionState.Continues (e e' : ActionExecutionState) : Prop where
  correlationId : e'.correlationId = e.correlationId
  actorEntityId : e'.actorEntityId = e.actorEntityId
  actorLifeId : e'.actorLifeId = e.actorLifeId
  targetLifeId : e'.targetLifeId = e.targetLifeId
  actionKey : e'.actionKey = e.actionKey
  binding : e'.binding = e.binding
  cancelToken : e'.cancelToken = e.cancelToken
  terminal : e.isTerminal = true → e' = e

namespace ActionExecutionState.Continues

variable {e e' e'' : ActionExecutionState}

theorem refl (e : ActionExecutionState) : e.Continues e :=
  ⟨rfl, rfl, rfl, rfl, rfl, rfl, rfl, fun _ => rfl⟩

theorem trans (h : e.Continues e') (h' : e'.Continues e'') : e.Continues e'' where
  correlationId := h'.correlationId.trans h.correlationId
  actorEntityId := h'.actorEntityId.trans h.actorEntityId
  actorLifeId := h'.actorLifeId.trans h.actorLifeId
  targetLifeId := h'.targetLifeId.trans h.targetLifeId
  actionKey := h'.actionKey.trans h.actionKey
  binding := h'.binding.trans h.binding
  cancelToken := h'.cancelToken.trans h.cancelToken
  terminal := by
    intro hterminal
    obtain rfl := h.terminal hterminal
    exact h'.terminal hterminal

theorem key (h : e.Continues e') : e'.key = e.key := by
  rw [ActionExecutionState.key, ActionExecutionState.key, h.actorEntityId, h.correlationId]

/-- What still runs ran before. -/
theorem running (h : e.Continues e') (hrunning : e'.isTerminal = false) : e.isTerminal = false := by
  cases hterminal : e.isTerminal with
  | false => rfl
  | true =>
    rw [h.terminal hterminal, hterminal] at hrunning
    cases hrunning

/-- A running execution may get any status. -/
theorem of_running (h : e.isTerminal = false) (status : ActionExecutionStatus) :
    e.Continues { e with status := status } :=
  ⟨rfl, rfl, rfl, rfl, rfl, rfl, rfl, fun ht => absurd ht (by rw [h]; decide)⟩

theorem release (h : e.isTerminal = false) (phaseIndex : ℕ) :
    e.Continues (e.release phaseIndex) := by
  unfold ActionExecutionState.release
  dsimp only
  split
  all_goals exact ⟨rfl, rfl, rfl, rfl, rfl, rfl, rfl, fun ht => absurd ht (by rw [h]; decide)⟩

theorem enterPhase (h : e.isTerminal = false) (action : ActionSpec) (phase : ActionPhase)
    (phaseIndex startedAtMs : ℕ) :
    e.Continues (e.enterPhase action phase phaseIndex startedAtMs) :=
  ⟨rfl, rfl, rfl, rfl, rfl, rfl, rfl, fun ht => absurd ht (by rw [h]; decide)⟩

end ActionExecutionState.Continues

/-- The parts of an entity that never change; the dead stay dead. -/
structure EntityState.Persists (e e' : EntityState) : Prop where
  entityId : e'.entityId = e.entityId
  lifeId : e'.lifeId = e.lifeId
  kind : e'.kind = e.kind
  teamId : e'.teamId = e.teamId
  maximums : e'.maximums = e.maximums
  actionKeys : e'.actionKeys = e.actionKeys
  stanceMultipliers : e'.stanceMultipliers = e.stanceMultipliers
  alive : e'.alive = true → e.alive = true

namespace EntityState.Persists

variable {e e' e'' : EntityState}

theorem refl (e : EntityState) : e.Persists e :=
  ⟨rfl, rfl, rfl, rfl, rfl, rfl, rfl, id⟩

theorem trans (h : e.Persists e') (h' : e'.Persists e'') : e.Persists e'' where
  entityId := h'.entityId.trans h.entityId
  lifeId := h'.lifeId.trans h.lifeId
  kind := h'.kind.trans h.kind
  teamId := h'.teamId.trans h.teamId
  maximums := h'.maximums.trans h.maximums
  actionKeys := h'.actionKeys.trans h.actionKeys
  stanceMultipliers := h'.stanceMultipliers.trans h.stanceMultipliers
  alive := fun ha => h.alive (h'.alive ha)

theorem adjust (key : String) (change : ScalarChange) : e.Persists (e.adjust key change) :=
  ⟨rfl, rfl, rfl, rfl, rfl, rfl, rfl, id⟩

theorem alter (change : BodyChange) : e.Persists (e.alter change) := by
  cases change <;> exact ⟨rfl, rfl, rfl, rfl, rfl, rfl, rfl, id⟩

theorem addItem (itemId : String) (quantity : ℚ) : e.Persists (e.addItem itemId quantity) :=
  ⟨rfl, rfl, rfl, rfl, rfl, rfl, rfl, id⟩

theorem dropEffect (storageKey : String) : e.Persists (e.dropEffect storageKey) :=
  ⟨rfl, rfl, rfl, rfl, rfl, rfl, rfl, id⟩

end EntityState.Persists

/-! ## Scheduling several items -/

/-- Items with consecutive schedule orders. -/
def numberItems : ℕ → List ScheduledItem → List ScheduledItem
  | _, [] => []
  | next, item :: rest => { item with order := next } :: numberItems (next + 1) rest

theorem mem_numberItems {next : ℕ} {items : List ScheduledItem} (h : item ∈ numberItems next items)
    :
    ∃ original ∈ items, item = { original with order := item.order } ∧
      next ≤ item.order ∧ item.order < next + items.length := by
  induction items generalizing next with
  | nil => cases h
  | cons first rest ih =>
    rcases mem_cons.mp h with rfl | hrest
    · exact ⟨first, mem_cons_self, rfl, le_refl _, by simp⟩
    · obtain ⟨original, hmem, heq, hlow, hhigh⟩ := ih hrest
      refine ⟨original, mem_cons_of_mem _ hmem, heq, by omega, ?_⟩
      rw [length_cons]
      omega

theorem numberItems_append (next : ℕ) (items items' : List ScheduledItem) :
    numberItems next (items ++ items') =
      numberItems next items ++ numberItems (next + items.length) items' := by
  induction items generalizing next with
  | nil => rfl
  | cons first rest ih =>
    rw [cons_append, numberItems, numberItems, ih, cons_append, length_cons,
      Nat.add_assoc, Nat.add_comm 1]

theorem nodup_order_numberItems (next : ℕ) (items : List ScheduledItem) :
    ((numberItems next items).map ScheduledItem.order).Nodup := by
  induction items generalizing next with
  | nil => exact nodup_nil
  | cons first rest ih =>
    rw [numberItems, map_cons, nodup_cons]
    refine ⟨?_, ih (next + 1)⟩
    intro hmem
    obtain ⟨item, hitem, horder⟩ := mem_map.mp hmem
    obtain ⟨_, _, _, hlow, _⟩ := mem_numberItems hitem
    have : item.order = next := horder
    omega

/-- Scheduling a list of items appends them under consecutive orders. -/
theorem foldl_schedule (items : List ScheduledItem) (frame : Frame) :
    items.foldl Frame.schedule frame =
      { frame with
        scheduled := frame.scheduled ++ numberItems frame.nextScheduleOrder items
        nextScheduleOrder := frame.nextScheduleOrder + items.length } := by
  induction items generalizing frame with
  | nil => simp [numberItems]
  | cons first rest ih =>
    rw [foldl_cons, ih]
    simp only [Frame.schedule, numberItems, append_assoc, singleton_append,
      length_cons, Frame.mk.injEq, World.mk.injEq, true_and, and_true]
    omega

section EnterPhase

variable (frame : Frame) (execution : ActionExecutionState) (action : ActionSpec)
  (phase : ActionPhase) (phaseIndex startedAtMs delay : ℕ)

theorem Frame.enterPhase_executions :
    (frame.enterPhase execution action phase phaseIndex startedAtMs delay).executions =
      frame.executions.set execution.key
        (execution.enterPhase action phase phaseIndex startedAtMs) := by
  rw [Frame.enterPhase, foldl_schedule]

theorem Frame.enterPhase_entities :
    (frame.enterPhase execution action phase phaseIndex startedAtMs delay).entities =
      frame.entities := by
  rw [Frame.enterPhase, foldl_schedule]

theorem Frame.enterPhase_events :
    (frame.enterPhase execution action phase phaseIndex startedAtMs delay).events =
      frame.events := by
  rw [Frame.enterPhase, foldl_schedule]

theorem Frame.enterPhase_cancelledTokens :
    (frame.enterPhase execution action phase phaseIndex startedAtMs delay).cancelledTokens =
      frame.cancelledTokens := by
  rw [Frame.enterPhase, foldl_schedule]

theorem Frame.enterPhase_scheduled :
    (frame.enterPhase execution action phase phaseIndex startedAtMs delay).scheduled =
      frame.scheduled ++ numberItems frame.nextScheduleOrder
        (execution.phaseItems action phase phaseIndex (startedAtMs + phase.durationMs)
          (startedAtMs + phase.durationMs + delay)) := by
  rw [Frame.enterPhase, foldl_schedule]

end EnterPhase

/-! ## Every move keeps identities -/

variable {e : ActionExecutionState}

section Rules

variable {catalog : ActionCatalog} {scope : Scope} {item : ScheduledItem} {s s' : Frame}

theorem change_entities (h : Change scope s s') :
    Dict.Rel EntityState.Persists s.entities s'.entities := by
  have hmodify (entityId : String) (f : EntityState → EntityState) (hf : ∀ e, e.Persists (f e))
      (d : Dict String EntityState) : Dict.Rel EntityState.Persists d (d.modify entityId f) :=
    rel_modify .refl _ _ (fun e _ => hf e)
  cases h with
  | adjust => exact hmodify _ _ (fun _ => .adjust _ _) _
  | alter => exact hmodify _ _ (fun _ => .alter _) _
  | moveItem =>
    exact (hmodify _ _ (fun _ => .addItem _ _) _).trans (fun _ _ _ h h' => h.trans h')
      (hmodify _ _ (fun _ => .addItem _ _) _)
  | store =>
    apply hmodify
    exact fun _ => ⟨rfl, rfl, rfl, rfl, rfl, rfl, rfl, id⟩
  | discard => exact hmodify _ _ (fun _ => .dropEffect _) _
  | interrupt =>
    apply hmodify
    exact fun _ => ⟨rfl, rfl, rfl, rfl, rfl, rfl, rfl, id⟩
  | _ => exact rel_refl .refl _

theorem move_entities (h : Move scope s s') :
    Dict.Rel EntityState.Persists s.entities s'.entities := by
  have hmodify (entityId : String) (f : EntityState → EntityState) (hf : ∀ e, e.Persists (f e)) :
      Dict.Rel EntityState.Persists s.entities (s.entities.modify entityId f) :=
    rel_modify .refl _ _ (fun e _ => hf e)
  cases h with
  | change h => exact change_entities h
  | expire => exact hmodify _ _ (fun _ => .dropEffect _)
  | die =>
    apply hmodify
    exact fun _ => ⟨rfl, rfl, rfl, rfl, rfl, rfl, rfl, fun h => by cases h⟩
  | rest =>
    apply hmodify
    exact fun _ => ⟨rfl, rfl, rfl, rfl, rfl, rfl, rfl, id⟩
  | _ => exact rel_refl .refl _

theorem consume_entities (h : Consume catalog scope item s s') :
    Dict.Rel EntityState.Persists s.entities s'.entities := by
  cases h with
  | drop => exact rel_refl .refl _
  | nextPhase =>
    rw [Frame.enterPhase, foldl_schedule]
    exact rel_refl .refl _
  | complete =>
    apply rel_modify .refl
    intro e _
    split <;> exact ⟨rfl, rfl, rfl, rfl, rfl, rfl, rfl, id⟩

/-- Updating the execution found under a key, when it continues. -/
theorem modify_executions {k : ExecutionKey} {f : ActionExecutionState → ActionExecutionState}
    (found : s.executions.get? k = some e) (h : e.Continues (f e)) :
    Dict.Rel ActionExecutionState.Continues s.executions (s.executions.modify k f) := by
  apply rel_modify .refl
  intro e' he'
  obtain rfl : e = e' := Option.some.inj (found.symm.trans he')
  exact h

theorem change_executions (h : Change scope s s') :
    Dict.Rel ActionExecutionState.Continues s.executions s'.executions := by
  cases h with
  | interrupt subject execution reason found running mine =>
    exact modify_executions found (.of_running running _)
  | _ => exact rel_refl .refl _

theorem move_executions (h : Move scope s s') :
    Dict.Rel ActionExecutionState.Continues s.executions s'.executions := by
  cases h with
  | change h => exact change_executions h
  | release item execution phaseIndex found running =>
    exact modify_executions found (.release running phaseIndex)
  | close execution entity found running => exact modify_executions found (.of_running running _)
  | _ => exact rel_refl .refl _

theorem consume_executions (h : Consume catalog scope item s s') :
    Dict.Rel ActionExecutionState.Continues s.executions s'.executions := by
  cases h with
  | drop => exact rel_refl .refl _
  | nextPhase execution action phase phaseIndex delay work found keyed owned running =>
    rw [Frame.enterPhase, foldl_schedule]
    exact rel_set .refl (keyed ▸ found)
      (.enterPhase running action phase (phaseIndex + 1) scope.dueTime)
  | complete execution work found running =>
    exact modify_executions found (.of_running running _)

/-! ## What a move does to the queue -/

variable {action : ActionSpec}

theorem ActionCatalog.actionKey_of_find? {actionKey : String}
    (h : catalog.find? actionKey = some action) : action.actionKey = actionKey := by
  have := List.find?_some h
  simpa using this

variable {execution : ActionExecutionState} {phase : ActionPhase}

theorem ScheduledWork.endsPhase_of_mem_payloads {phaseIndex : ℕ}
    (h : work ∈ execution.payloads action phase phaseIndex) : work.endsPhase = false := by
  simp only [ActionExecutionState.payloads, mem_append, Option.mem_toList,
    Option.map_eq_some_iff] at h
  rcases h with (⟨_, _, rfl⟩ | h) | h
  · rfl
  all_goals
    split at h
    · obtain rfl := mem_singleton.mp h
      rfl
    · cases h

/-- Every item of a phase belongs to its execution and is due at the phase's end or at the
delivery of its payload. -/
theorem mem_phaseItems {phaseIndex endMs deliveredMs : ℕ}
    (hkey : action.actionKey = execution.actionKey)
    (h : item ∈ execution.phaseItems action phase phaseIndex endMs deliveredMs) :
    item.executionKey = execution.key ∧ item.OwnedBy execution ∧
      (item.dueTimeMs = endMs ∨ item.dueTimeMs = deliveredMs) := by
  rw [ActionExecutionState.phaseItems, mem_append, mem_append, mem_map,
    mem_singleton] at h
  rcases h with (hrelease | ⟨work, hwork, rfl⟩) | rfl
  · split at hrelease
    · obtain rfl := mem_singleton.mp hrelease
      exact ⟨rfl, ⟨rfl, rfl, hkey, rfl, fun _ => rfl⟩, .inl rfl⟩
    · cases hrelease
  · refine ⟨rfl, ⟨rfl, rfl, hkey, rfl, ?_⟩, .inr rfl⟩
    intro hends
    have hends : work.endsPhase = true := hends
    rw [ScheduledWork.endsPhase_of_mem_payloads hwork] at hends
    cases hends
  · exact ⟨rfl, ⟨rfl, rfl, hkey, rfl, fun _ => rfl⟩, .inl rfl⟩

/-- How a step extends the queue: some old items stay, in their order, and the new ones
follow under fresh orders. -/
structure QueueExtends (s s' : Frame) (kept new : List ScheduledItem) : Prop where
  scheduled : s'.scheduled = kept ++ numberItems s.nextScheduleOrder new
  kept : kept.Sublist s.scheduled
  nextScheduleOrder : s.nextScheduleOrder + new.length ≤ s'.nextScheduleOrder
  owned : ∀ item ∈ new, item.Free ∨
    ∃ execution, s.executions.get? item.executionKey = some execution ∧ item.OwnedBy execution

theorem QueueExtends.none (hscheduled : s'.scheduled = s.scheduled)
    (horder : s.nextScheduleOrder ≤ s'.nextScheduleOrder) :
    QueueExtends s s' s.scheduled [] where
  scheduled := by rw [hscheduled, numberItems, append_nil]
  kept := .refl _
  nextScheduleOrder := horder
  owned := fun _ h => by cases h

theorem QueueExtends.take (item : ScheduledItem)
    (hscheduled : s'.scheduled = s.scheduled.erase item)
    (horder : s.nextScheduleOrder = s'.nextScheduleOrder) :
    QueueExtends s s' (s.scheduled.erase item) [] where
  scheduled := by rw [hscheduled, numberItems, append_nil]
  kept := erase_sublist
  nextScheduleOrder := le_of_eq horder
  owned := fun _ h => by cases h

/-- Free items that are due after a time. -/
def FreeAfter (time : ℕ) (items : List ScheduledItem) : Prop :=
  ∀ item ∈ items, item.Free ∧ time < item.dueTimeMs

theorem FreeAfter.nil (time : ℕ) : FreeAfter time [] := fun _ h => by cases h

/-- A change keeps the queue and may add free items that are due later. -/
theorem change_queue (h : Change scope s s') :
    ∃ new, QueueExtends s s' s.scheduled new ∧ FreeAfter scope.dueTime new := by
  cases h with
  | store => exact ⟨_, .none rfl (Nat.le_succ _), .nil _⟩
  | enqueue item free later =>
    refine ⟨[item], ⟨rfl, .refl _, le_refl _, ?_⟩, ?_⟩
    · intro item' hmem
      obtain rfl := mem_singleton.mp hmem
      exact .inl free
    · intro item' hmem
      obtain rfl := mem_singleton.mp hmem
      exact ⟨free, later⟩
  | _ => exact ⟨_, .none rfl (le_refl _), .nil _⟩

theorem move_queue (h : Move scope s s') :
    ∃ new, QueueExtends s s' s.scheduled new ∧ FreeAfter scope.dueTime new := by
  cases h with
  | change h => exact change_queue h
  | _ => exact ⟨_, .none rfl (le_refl _), .nil _⟩

/-- The items a phase schedules when it is entered at the time of a scope. -/
def Entered (catalog : ActionCatalog) (scope : Scope) (item : ScheduledItem)
    (new : List ScheduledItem) : Prop :=
  new = [] ∨ ∃ execution action phase phaseIndex delay,
    item.work = .phaseTransition ∧ item.phaseIndex = some phaseIndex ∧ item.OwnedBy execution ∧
    catalog.find? execution.actionKey = some action ∧
    action.phases[phaseIndex + 1]? = some phase ∧
    new = ActionExecutionState.phaseItems execution action phase (phaseIndex + 1)
      (scope.dueTime + phase.durationMs) (scope.dueTime + phase.durationMs + delay)

/-- A consumed item leaves the queue; a transition adds the items of the next phase. -/
theorem consume_queue (h : Consume catalog scope item s s') :
    ∃ new, QueueExtends s s' (s.scheduled.erase item) new ∧ Entered catalog scope item new := by
  cases h with
  | drop => exact ⟨_, .take item rfl rfl, .inl rfl⟩
  | nextPhase execution action phase phaseIndex delay work found keyed owned running
      current ends alive known next =>
    refine ⟨execution.phaseItems action phase (phaseIndex + 1)
      (scope.dueTime + phase.durationMs) (scope.dueTime + phase.durationMs + delay),
      ⟨?_, erase_sublist, ?_, ?_⟩, .inr ⟨execution, action, phase, phaseIndex, delay, work,
        ends, owned, known, next, rfl⟩⟩
    · rw [Frame.enterPhase, foldl_schedule]
      rfl
    · rw [Frame.enterPhase, foldl_schedule]
      exact le_refl _
    · intro item' hmem
      obtain ⟨hkey, howned, _⟩ := mem_phaseItems (catalog.actionKey_of_find? known) hmem
      refine .inr ⟨execution, ?_, howned⟩
      rw [hkey, keyed]
      exact found
  | complete => exact ⟨_, .take item rfl rfl, .inl rfl⟩

/-- What a phase schedules is due when it is entered, or later. -/
theorem Entered.due {new : List ScheduledItem} (h : Entered catalog scope item new) :
    ∀ item' ∈ new, scope.dueTime ≤ item'.dueTimeMs := by
  rcases h with rfl | ⟨execution, action, phase, phaseIndex, delay, _, _, _, hknown, _, rfl⟩
  · intro _ hmem
    cases hmem
  · intro item' hmem
    obtain ⟨_, _, hdue⟩ := mem_phaseItems (catalog.actionKey_of_find? hknown) hmem
    rcases hdue with hdue | hdue <;> rw [hdue] <;> omega

end Rules

/-! ## Coherent worlds -/

/-- The bookkeeping every reachable world satisfies: dictionaries are keyed by their own
entries, schedule orders are distinct, and every queued item is free or belongs to an
execution. -/
structure Coherent (world : World) : Prop where
  entities_keyed : ∀ k e, world.entities.get? k = some e → e.entityId = k
  executions_keyed : ∀ k e, world.executions.get? k = some e → e.key = k
  tokens : ∀ k e, world.executions.get? k = some e →
    e.cancelToken = cancelToken e.actorEntityId e.correlationId
  orders : (world.scheduled.map ScheduledItem.order).Nodup
  orders_lt : ∀ item ∈ world.scheduled, item.order < world.nextScheduleOrder
  owned : ∀ item ∈ world.scheduled, item.Free ∨
    ∃ execution, world.executions.get? item.executionKey = some execution ∧ item.OwnedBy execution

/-- The living of a coherent world are those listed as alive. -/
theorem Coherent.mem_aliveIds {world : World} {entityId : String} (hw : Coherent world) :
    entityId ∈ world.aliveIds ↔ ∃ e, world.entities.get? entityId = some e ∧ e.alive = true := by
  simp only [World.aliveIds, mem_toFinset, mem_map, mem_filter,
    mem_values_iff]
  constructor
  · rintro ⟨e, ⟨⟨k, hk⟩, halive⟩, rfl⟩
    exact ⟨e, by rw [hw.entities_keyed k e hk]; exact hk, halive⟩
  · rintro ⟨e, he, halive⟩
    exact ⟨e, ⟨⟨entityId, he⟩, halive⟩, hw.entities_keyed entityId e he⟩

/-- An item keeps its owner when the owner moves on. -/
theorem ScheduledItem.OwnedBy.continues {e e' : ActionExecutionState} (h : item.OwnedBy e)
    (he : e.Continues e') : item.OwnedBy e' :=
  ⟨by rw [h.cancelToken, he.cancelToken], by rw [h.actorLifeId, he.actorLifeId],
    by rw [h.actionKey, he.actionKey], h.phaseIndex, h.policy⟩

/-- Changing the order of an item changes nothing about its owner. -/
theorem ScheduledItem.Free.reorder (h : item.Free) (order : ℕ) :
    { item with order := order }.Free := ⟨h.work, h.cancelToken, h.actorLifeId⟩

theorem ScheduledItem.OwnedBy.reorder (h : item.OwnedBy e) (order : ℕ) :
    { item with order := order }.OwnedBy e :=
  ⟨h.cancelToken, h.actorLifeId, h.actionKey, h.phaseIndex, h.policy⟩

section

variable (hs : Coherent s.toWorld)
include hs

/-- A step that keeps identities and extends the queue keeps a world coherent. -/
theorem Coherent.step {kept new : List ScheduledItem}
    (hentities : Dict.Rel EntityState.Persists s.entities s'.entities)
    (hexecutions : Dict.Rel ActionExecutionState.Continues s.executions s'.executions)
    (hqueue : QueueExtends s s' kept new) : Coherent s'.toWorld := by
  have howner : ∀ item : ScheduledItem, ∀ e, s.executions.get? item.executionKey = some e →
      item.OwnedBy e → ∃ e', s'.executions.get? item.executionKey = some e' ∧
        item.OwnedBy e' := by
    intro item e he howned
    obtain ⟨e', he', hcontinues⟩ := hexecutions.of_eq_some he
    exact ⟨e', he', howned.continues hcontinues⟩
  refine ⟨?_, ?_, ?_, ?_, ?_, ?_⟩
  · intro k e' he'
    obtain ⟨e, he, hpersists⟩ := hentities.of_eq_some_right he'
    rw [hpersists.entityId, hs.entities_keyed k e he]
  · intro k e' he'
    obtain ⟨e, he, hcontinues⟩ := hexecutions.of_eq_some_right he'
    rw [hcontinues.key, hs.executions_keyed k e he]
  · intro k e' he'
    obtain ⟨e, he, hcontinues⟩ := hexecutions.of_eq_some_right he'
    rw [hcontinues.cancelToken, hcontinues.actorEntityId, hcontinues.correlationId,
      hs.tokens k e he]
  · rw [hqueue.scheduled, map_append, nodup_append]
    refine ⟨hs.orders.sublist (hqueue.kept.map _), nodup_order_numberItems _ _, ?_⟩
    intro a ha b hb
    obtain ⟨item, hitem, rfl⟩ := mem_map.mp ha
    obtain ⟨item', hitem', rfl⟩ := mem_map.mp hb
    obtain ⟨_, _, _, hlow, _⟩ := mem_numberItems hitem'
    have := hs.orders_lt item (hqueue.kept.subset hitem)
    omega
  · intro item hitem
    have hnext := hqueue.nextScheduleOrder
    rw [hqueue.scheduled, mem_append] at hitem
    rcases hitem with hold | hnew
    · have := hs.orders_lt item (hqueue.kept.subset hold)
      omega
    · obtain ⟨_, _, _, _, hhigh⟩ := mem_numberItems hnew
      omega
  · intro item hitem
    rw [hqueue.scheduled, mem_append] at hitem
    rcases hitem with hold | hnew
    · rcases hs.owned item (hqueue.kept.subset hold) with hfree | ⟨e, he, howned⟩
      · exact .inl hfree
      · exact .inr (howner item e he howned)
    · obtain ⟨original, hmem, heq, _, _⟩ := mem_numberItems hnew
      rw [heq]
      rcases hqueue.owned original hmem with hfree | ⟨e, he, howned⟩
      · exact .inl (hfree.reorder _)
      · exact .inr (howner { original with order := item.order } e he (howned.reorder _))

theorem Coherent.change (h : Change scope s s') : Coherent s'.toWorld := by
  obtain ⟨new, hqueue, _⟩ := change_queue h
  exact hs.step (change_entities h) (change_executions h) hqueue

/-- **Every move keeps a world coherent.** -/
theorem Coherent.move (h : Move scope s s') : Coherent s'.toWorld := by
  obtain ⟨new, hqueue, _⟩ := move_queue h
  exact hs.step (move_entities h) (move_executions h) hqueue

theorem Coherent.consume (h : Consume catalog scope item s s') : Coherent s'.toWorld := by
  obtain ⟨new, hqueue, _⟩ := consume_queue h
  exact hs.step (consume_entities h) (consume_executions h) hqueue

theorem Coherent.changes (h : Changes scope s s') : Coherent s'.toWorld := by
  induction h with
  | refl => exact hs
  | tail _ hlast ih => exact ih.change hlast

theorem Coherent.moves (h : Moves scope s s') : Coherent s'.toWorld := by
  induction h with
  | refl => exact hs
  | tail _ hlast ih => exact ih.move hlast

/-- **Every turn of the queue keeps a world coherent.** -/
theorem Coherent.turn (h : Turn catalog scope item s s') : Coherent s'.toWorld := by
  obtain ⟨s₁, hconsume, hmoves⟩ := h.chain
  exact (hs.consume hconsume).moves hmoves

end

end ShadowbaneLab
