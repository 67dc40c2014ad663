/-
# Programs that do not ask whether the source lives

Two frames are `Parted` by an entity if they agree on everything but this entity's life and what
follows from its end: its health, its velocity, how long it is busy, and its executions.  Programs
on other entities, which read of the source neither life nor health, run alike in parted frames.
-/
import ShadowbaneLab.Foundation.Relational
import ShadowbaneLab.Sim.Chains

namespace ShadowbaneLab

open Foundation

/-! ## Parted frames -/

/-- An event without its number. -/
def Event.unnumbered (event : Event) : Event := { event with number := 0 }

/-- An entity as another one, but for its life and what ends with it. -/
structure EntityState.Mirrors (e e' : EntityState) : Prop where
  entityId : e'.entityId = e.entityId
  lifeId : e'.lifeId = e.lifeId
  kind : e'.kind = e.kind
  teamId : e'.teamId = e.teamId
  position : e'.position = e.position
  scalars : ∀ key ≠ "health", e'.scalars.get? key = e.scalars.get? key
  tags : e'.tags = e.tags
  inventory : e'.inventory = e.inventory
  effects : e'.effects = e.effects
  stanceMultipliers : e'.stanceMultipliers = e.stanceMultipliers
  stance : e'.stance = e.stance

variable {key : String}

theorem EntityState.Mirrors.effectiveScalar {e e' : EntityState} (h : e.Mirrors e')
    (hkey : key ≠ "health") : e'.effectiveScalar key = e.effectiveScalar key := by
  unfold EntityState.effectiveScalar EntityState.stanceFactor EntityState.records
  rw [h.scalars key hkey, h.effects, h.stance, h.stanceMultipliers]

/-- Frames that differ in the life of an entity only, which is not about to end in either. -/
structure Parted (actorId : String) (s d : Frame) : Prop where
  others : ∀ entityId ≠ actorId, d.entities.get? entityId = s.entities.get? entityId
  source : ∃ e e', s.entities.get? actorId = some e ∧ d.entities.get? actorId = some e' ∧
    e.Mirrors e' ∧ e.dying = false ∧ e'.dying = false
  executions : ∀ key, (ofLex key).1 ≠ actorId → d.executions.get? key = s.executions.get? key
  random : d.random = s.random
  nextScheduleOrder : d.nextScheduleOrder = s.nextScheduleOrder

/-- Two frames report the same since two earlier ones, up to the numbers of the events. -/
def ReportsAlike (s₀ d₀ s d : Frame) : Prop :=
  ∃ new new', s.events = s₀.events ++ new ∧ d.events = d₀.events ++ new' ∧
    new.map Event.unnumbered = new'.map Event.unnumbered

/-- Parted frames that report the same since two earlier ones, the source being as it was. -/
structure Beside (actorId : String) (s₀ d₀ s d : Frame) : Prop where
  parted : Parted actorId s d
  reports : ReportsAlike s₀ d₀ s d
  untouched : s.entities.get? actorId = s₀.entities.get? actorId
  untouched' : d.entities.get? actorId = d₀.entities.get? actorId

namespace Beside

variable {actorId : String} {s₀ d₀ s d : Frame} {entityId : String}

section

variable (h : Beside actorId s₀ d₀ s d)
include h

theorem entity (hne : entityId ≠ actorId) : d.entity entityId = s.entity entityId := by
  rw [Frame.entity, h.parted.others entityId hne, Frame.entity]

theorem modifyEntity (hne : entityId ≠ actorId) (f : EntityState → EntityState) :
    Beside actorId s₀ d₀ (s.modifyEntity entityId f) (d.modifyEntity entityId f) where
  parted :=
    { h.parted with
      others := by
        intro other hother
        show (d.entities.modify entityId f).get? other = (s.entities.modify entityId f).get? other
        rw [Dict.get?_modify, Dict.get?_modify, h.parted.others other hother]
      source := by
        obtain ⟨e, e', he, he', hfates⟩ := h.parted.source
        refine ⟨e, e', ?_, ?_, hfates⟩
        · show (s.entities.modify entityId f).get? actorId = some e
          rw [Dict.get?_modify_ne _ _ hne, he]
        · show (d.entities.modify entityId f).get? actorId = some e'
          rw [Dict.get?_modify_ne _ _ hne, he'] }
  reports := h.reports
  untouched := by
    rw [← h.untouched]
    exact Dict.get?_modify_ne _ _ hne
  untouched' := by
    rw [← h.untouched']
    exact Dict.get?_modify_ne _ _ hne

theorem record (draft : EventDraft) (tickDurationMs time n m : ℕ) :
    Beside actorId s₀ d₀ (s.record (draft.event tickDurationMs time n))
      (d.record (draft.event tickDurationMs time m)) where
  parted := { h.parted with }
  reports := by
    obtain ⟨new, new', hnew, hnew', halike⟩ := h.reports
    refine ⟨new ++ [draft.event tickDurationMs time n], new' ++ [draft.event tickDurationMs time m],
      ?_, ?_, ?_⟩
    · show s.events ++ [_] = _
      rw [hnew, List.append_assoc]
    · show d.events ++ [_] = _
      rw [hnew', List.append_assoc]
    · rw [List.map_append, List.map_append, halike]
      rfl
  untouched := h.untouched
  untouched' := h.untouched'

/-- The check of an event does not look at its number. -/
theorem emit (tickDurationMs time : ℕ) (draft : EventDraft) :
    Agree (Beside actorId s₀ d₀) (s.emit tickDurationMs time draft)
      (d.emit tickDurationMs time draft) := by
  have hcheck : (draft.event tickDurationMs time d.nextEventNumber).check =
      (draft.event tickDurationMs time s.nextEventNumber).check := rfl
  unfold Frame.emit
  dsimp only
  rw [hcheck]
  apply (Agree.refl (Q := Eq) (fun _ => rfl)
    (draft.event tickDurationMs time s.nextEventNumber).check).bind
  intro _ _ _
  exact h.record draft tickDurationMs time _ _

theorem schedule (items : List ScheduledItem) :
    Beside actorId s₀ d₀ (items.foldl Frame.schedule s) (items.foldl Frame.schedule d) := by
  induction items generalizing s d with
  | nil => exact h
  | cons item items ih =>
    refine ih ⟨{ h.parted with nextScheduleOrder := ?_ }, h.reports, h.untouched, h.untouched'⟩
    show d.nextScheduleOrder + 1 = s.nextScheduleOrder + 1
    rw [h.parted.nextScheduleOrder]

theorem storeEffect (hne : entityId ≠ actorId) (dueTime : ℕ) (effect : ApplyEffect)
    (sourceId : String) :
    Beside actorId s₀ d₀ (s.storeEffect dueTime entityId effect sourceId)
      (d.storeEffect dueTime entityId effect sourceId) := by
  have hmodified := h.modifyEntity hne (fun e => { e with
    effects := e.effects.set effect.storageKey
      (effect.activate sourceId dueTime s.nextScheduleOrder) })
  refine ⟨⟨?_, ?_, h.parted.executions, h.parted.random, ?_⟩, h.reports, hmodified.untouched, ?_⟩
  · intro other hother
    unfold Frame.storeEffect
    rw [h.parted.nextScheduleOrder]
    exact hmodified.parted.others other hother
  · unfold Frame.storeEffect
    rw [h.parted.nextScheduleOrder]
    exact hmodified.parted.source
  · show d.nextScheduleOrder + 1 = s.nextScheduleOrder + 1
    rw [h.parted.nextScheduleOrder]
  · unfold Frame.storeEffect
    rw [h.parted.nextScheduleOrder]
    exact hmodified.untouched'

theorem installEffect (hne : entityId ≠ actorId) (tickDurationMs dueTime : ℕ) (effect : ApplyEffect)
    (ctx : ItemContext) :
    Agree (Beside actorId s₀ d₀) (s.installEffect tickDurationMs dueTime entityId effect ctx)
      (d.installEffect tickDurationMs dueTime entityId effect ctx) := by
  unfold Frame.installEffect
  rw [h.entity hne]
  apply (Agree.refl (Q := Eq) (fun _ => rfl) (s.entity entityId)).bind
  rintro subject _ rfl
  dsimp only
  have hreplaced : Agree (Beside actorId s₀ d₀)
      (s.reportReplaced tickDurationMs dueTime entityId ctx (subject.record? effect.storageKey))
      (d.reportReplaced tickDurationMs dueTime entityId ctx
        (subject.record? effect.storageKey)) := by
    unfold Frame.reportReplaced
    cases subject.record? effect.storageKey with
    | none => exact h
    | some active => exact h.emit tickDurationMs dueTime _
  apply hreplaced.bind
  intro s₁ d₁ h₁
  apply ((h₁.storeEffect hne dueTime effect ctx.actorId).emit tickDurationMs dueTime _).bind
  intro s₂ d₂ h₂
  rw [h₁.parted.nextScheduleOrder]
  exact h₂.schedule _

theorem removeEffect (hne : entityId ≠ actorId) (tickDurationMs dueTime : ℕ) (storageKey : String)
    (ctx : ItemContext) (reason : String) (scalars : List NamedScalar) :
    Agree (Beside actorId s₀ d₀)
      (s.removeEffect tickDurationMs dueTime entityId storageKey ctx reason scalars)
      (d.removeEffect tickDurationMs dueTime entityId storageKey ctx reason scalars) := by
  unfold Frame.removeEffect
  rw [h.entity hne]
  apply (Agree.refl (Q := Eq) (fun _ => rfl) (s.entity entityId)).bind
  rintro subject _ rfl
  cases subject.record? storageKey with
  | none => exact rfl
  | some active =>
    exact (h.modifyEntity hne (EntityState.dropEffect storageKey)).emit tickDurationMs dueTime _

/-- The same executions of an actor are interrupted. -/
theorem interrupted_eq (hs : Coherent s.toWorld) (hd : Coherent d.toWorld)
    (hne : entityId ≠ actorId) (p : ActionExecutionState → Bool)
    (hp : ∀ e, p e = true → e.actorEntityId = entityId) :
    d.sortedExecutions.filter p = s.sortedExecutions.filter p := by
  have hsorted (f : Frame) (hf : Coherent f.toWorld) :
      (f.sortedExecutions.filter p).Nodup ∧
        (f.sortedExecutions.filter p).Pairwise (fun a b => a.key ≤ b.key) :=
    ⟨((nodup_key_sortedExecutions hf).of_map _).filter _,
      (pairwise_sortBy ActionExecutionState.key f.executions.values).filter _⟩
  have hmem : ∀ e, e ∈ d.sortedExecutions.filter p ↔ e ∈ s.sortedExecutions.filter p := by
    intro e
    rw [List.mem_filter, List.mem_filter, mem_sortedExecutions hd, mem_sortedExecutions hs]
    constructor
    · rintro ⟨he, hpe⟩
      have hkey : (ofLex e.key).1 ≠ actorId := by
        rw [show (ofLex e.key).1 = entityId from hp e hpe]
        exact hne
      exact ⟨(h.parted.executions e.key hkey).symm.trans he, hpe⟩
    · rintro ⟨he, hpe⟩
      have hkey : (ofLex e.key).1 ≠ actorId := by
        rw [show (ofLex e.key).1 = entityId from hp e hpe]
        exact hne
      exact ⟨(h.parted.executions e.key hkey).trans he, hpe⟩
  have hperm : (d.sortedExecutions.filter p).Perm (s.sortedExecutions.filter p) :=
    (List.perm_ext_iff_of_nodup (hsorted d hd).1 (hsorted s hs).1).2 hmem
  refine eq_of_perm_of_pairwise ActionExecutionState.key hperm ?_ (hsorted d hd).2 (hsorted s hs).2
  intro a ha b hb hkey
  have hfound (e : ActionExecutionState) (he : e ∈ d.sortedExecutions.filter p) :
      d.executions.get? e.key = some e := (mem_sortedExecutions hd).1 (List.mem_filter.1 he).1
  exact Option.some.inj ((hfound a ha).symm.trans (hkey ▸ hfound b hb))

theorem endExecution (tickDurationMs dueTime : ℕ) (reason : String)
    (execution : ActionExecutionState) :
    Agree (Beside actorId s₀ d₀) (s.endExecution tickDurationMs dueTime reason execution)
      (d.endExecution tickDurationMs dueTime reason execution) := by
  apply emit
  refine ⟨{ h.parted with executions := ?_ }, h.reports, h.untouched, h.untouched'⟩
  intro key hkey
  show (d.executions.modify _ _).get? key = (s.executions.modify _ _).get? key
  rw [Dict.get?_modify, Dict.get?_modify, h.parted.executions key hkey]

theorem interruptActor (hs : Coherent s.toWorld) (hd : Coherent d.toWorld)
    (hne : entityId ≠ actorId) (tickDurationMs dueTime : ℕ) (trigger : InterruptTrigger) :
    Agree (Beside actorId s₀ d₀) (s.interruptActor tickDurationMs dueTime entityId trigger)
      (d.interruptActor tickDurationMs dueTime entityId trigger) := by
  unfold Frame.interruptActor
  rw [h.entity hne]
  apply (Agree.refl (Q := Eq) (fun _ => rfl) (s.entity entityId)).bind
  rintro actor _ rfl
  have hmine : ∀ e : ActionExecutionState, e.interruptedBy entityId actor.lifeId trigger = true →
      e.actorEntityId = entityId := by
    intro e he
    unfold ActionExecutionState.interruptedBy at he
    simp only [Bool.and_eq_true, decide_eq_true_eq] at he
    exact he.1.1.1.1
  rw [h.interrupted_eq hs hd hne _ hmine]
  refine Agree.foldlM (fun execution _ s d hsd => ?_) h
  exact (hsd.modifyEntity hne _).endExecution tickDurationMs dueTime trigger.value execution

end

end Beside

/-! ## Impartial programs -/

/-- Parted frames of two runs, whose bookkeeping is in order. -/
structure Abreast (actorId : String) (s₀ d₀ s d : Frame) : Prop extends
    Beside actorId s₀ d₀ s d where
  coherent : Coherent s.toWorld
  coherent' : Coherent d.toWorld

section Impartial

variable {tickDurationMs dueTime : ℕ} {eligible eligible' : Finset String} {actorId : String}
  {s₀ d₀ : Frame} {α β : Type}

/-- Two programs, for two sets of eligible entities, run alike in parted frames. -/
def Impartial (actorId : String) (s₀ d₀ : Frame) (p : Exec ⟨tickDurationMs, eligible, dueTime⟩ α)
    (q : Exec ⟨tickDurationMs, eligible', dueTime⟩ α) : Prop :=
  Program.Alike (execute ⟨tickDurationMs, eligible, dueTime⟩)
    (execute ⟨tickDurationMs, eligible', dueTime⟩) (Abreast actorId s₀ d₀) p q

variable {p : Exec ⟨tickDurationMs, eligible, dueTime⟩ α}
   {q : Exec ⟨tickDurationMs, eligible', dueTime⟩ α}

/-- The bookkeeping stays in order by itself. -/
theorem Impartial.of_beside (h : ∀ s d, Abreast actorId s₀ d₀ s d →
      Agree (fun x y => x.1 = y.1 ∧ Beside actorId s₀ d₀ x.2 y.2)
        (p.run (execute ⟨tickDurationMs, eligible, dueTime⟩) s)
        (q.run (execute ⟨tickDurationMs, eligible', dueTime⟩) d)) :
    Impartial actorId s₀ d₀ p q := by
  intro s d hsd
  apply ((h s d hsd).achieving (P := fun x => Coherent x.2.toWorld)
    (R := fun y => Coherent y.2.toWorld) ?_ ?_).mono
  · rintro x y ⟨⟨hvalue, hbeside⟩, hx, hy⟩
    exact ⟨hvalue, hbeside, hx, hy⟩
  · intro x hx
    exact hsd.coherent.changes (run_changes hsd.coherent hx)
  · intro y hy
    exact hsd.coherent'.changes (run_changes hsd.coherent' hy)

/-- A program with a known run. -/
theorem Impartial.of_run (f g : Frame → Except Fault (α × Frame))
    (hp : ∀ s, p.run (execute ⟨tickDurationMs, eligible, dueTime⟩) s = f s)
    (hq : ∀ d, q.run (execute ⟨tickDurationMs, eligible', dueTime⟩) d = g d)
    (h : ∀ s d, Abreast actorId s₀ d₀ s d →
      Agree (fun x y => x.1 = y.1 ∧ Beside actorId s₀ d₀ x.2 y.2) (f s) (g d)) :
    Impartial actorId s₀ d₀ p q := by
  apply Impartial.of_beside
  intro s d hsd
  rw [hp, hq]
  exact h s d hsd

/-- A command that changes the frame and answers nothing. -/
theorem Impartial.of_unit {p : Exec ⟨tickDurationMs, eligible, dueTime⟩ Unit}
    {q : Exec ⟨tickDurationMs, eligible', dueTime⟩ Unit} (f g : Frame → Except Fault Frame)
    (hp : ∀ s, p.run (execute ⟨tickDurationMs, eligible, dueTime⟩) s =
      f s >>= fun s' => .ok ((), s'))
    (hq : ∀ d, q.run (execute ⟨tickDurationMs, eligible', dueTime⟩) d =
      g d >>= fun d' => .ok ((), d'))
    (h : ∀ s d, Abreast actorId s₀ d₀ s d → Agree (Beside actorId s₀ d₀) (f s) (g d)) :
    Impartial actorId s₀ d₀ p q :=
  .of_run _ _ hp hq (fun s d hsd => (h s d hsd).bind (fun _ _ hsd' => ⟨rfl, hsd'⟩))

/-- Two handles of one entity that is not the source. -/
structure Bystander (actorId : String) (subject : Living ⟨tickDurationMs, eligible, dueTime⟩)
    (subject' : Living ⟨tickDurationMs, eligible', dueTime⟩) : Prop where
  id : subject'.id = subject.id
  ne : subject.id ≠ actorId

/-- Equal answers. -/
theorem impartial_answer {a b : α} (h : a = b) :
    Impartial actorId s₀ d₀ (pure a : Exec ⟨tickDurationMs, eligible, dueTime⟩ α)
      (pure b : Exec ⟨tickDurationMs, eligible', dueTime⟩ α) := by
  rw [h]
  exact .pure b

/-! ### Commands -/

variable {f : EntityState → β} {hf : Intrinsic f}

variable {entityId : String}

/-- An entity is read alike if its life and what ends with it are not read. -/
theorem impartial_readEntity
    (h : entityId = actorId → ∀ e e' : EntityState, e.Mirrors e' → f e' = f e) :
    Impartial actorId s₀ d₀
      (readEntity entityId f hf : Exec ⟨tickDurationMs, eligible, dueTime⟩ (Option β))
      (readEntity entityId f hf : Exec ⟨tickDurationMs, eligible', dueTime⟩ (Option β)) := by
  intro s d hsd
  refine ⟨?_, hsd⟩
  show (s.entities.get? entityId).map f = (d.entities.get? entityId).map f
  by_cases hid : entityId = actorId
  · obtain ⟨e, e', he, he', hmirrors, _⟩ := hsd.parted.source
    rw [hid, he, he', Option.map_some, Option.map_some, h hid e e' hmirrors]
  · rw [hsd.parted.others entityId hid]

theorem impartial_readKnown
    (h : entityId = actorId → ∀ e e' : EntityState, e.Mirrors e' → f e' = f e) :
    Impartial actorId s₀ d₀ (readKnown entityId f hf : Exec ⟨tickDurationMs, eligible, dueTime⟩ β)
      (readKnown entityId f hf : Exec ⟨tickDurationMs, eligible', dueTime⟩ β) := by
  refine .bind (impartial_readEntity h) (fun found => ?_)
  cases found with
  | none => exact .raise _
  | some value => exact .pure value

theorem impartial_attempt (x : Except Fault α) :
    Impartial actorId s₀ d₀ (attempt x : Exec ⟨tickDurationMs, eligible, dueTime⟩ α)
      (attempt x : Exec ⟨tickDurationMs, eligible', dueTime⟩ α) := .ofExcept x

theorem impartial_draw (f : DeterministicRandom → β × DeterministicRandom) :
    Impartial actorId s₀ d₀ (draw f : Exec ⟨tickDurationMs, eligible, dueTime⟩ β)
      (draw f : Exec ⟨tickDurationMs, eligible', dueTime⟩ β) := by
  apply Impartial.of_beside
  intro s d hsd
  refine ⟨?_, { hsd.parted with random := ?_ }, hsd.reports, hsd.untouched, hsd.untouched'⟩
  · show (f s.random).1 = (f d.random).1
    rw [hsd.parted.random]
  · show (f d.random).2 = (f s.random).2
    rw [hsd.parted.random]

theorem impartial_emit (draft : EventDraft) (allowed : draft.kind.reserved = false) :
    Impartial actorId s₀ d₀ (emit draft allowed : Exec ⟨tickDurationMs, eligible, dueTime⟩ Unit)
      (emit draft allowed : Exec ⟨tickDurationMs, eligible', dueTime⟩ Unit) :=
  .of_unit (Frame.emit tickDurationMs dueTime draft) (Frame.emit tickDurationMs dueTime draft)
    (fun s => Program.run_command _ _ s) (fun d => Program.run_command _ _ d)
    (fun _ _ hsd => hsd.emit tickDurationMs dueTime draft)

section Commands

variable {subject : Living ⟨tickDurationMs, eligible, dueTime⟩}
  {subject' : Living ⟨tickDurationMs, eligible', dueTime⟩} (h : Bystander actorId subject subject')

include h

theorem impartial_read (f : EntityState → β) (hf : Intrinsic f) :
    Impartial actorId s₀ d₀ (read subject f hf) (read subject' f hf) := by
  rw [read, read, h.id]
  exact impartial_readKnown (fun heq => absurd heq h.ne)

theorem impartial_adjust (key : String) (change : ScalarChange) (key_ok : Identifier key) :
    Impartial actorId s₀ d₀ (adjust subject key change key_ok)
      (adjust subject' key change key_ok) := by
  refine .of_run _ _ (fun s => Program.run_command _ _ s) (fun d => Program.run_command _ _ d) ?_
  intro s d hsd
  show Agree _ (s.entity subject.id >>= _) (d.entity subject'.id >>= _)
  rw [h.id, hsd.entity h.ne]
  apply (Agree.refl (Q := Eq) (fun _ => rfl) (s.entity subject.id)).bind
  rintro entity _ rfl
  exact ⟨rfl, hsd.modifyEntity h.ne _⟩

theorem impartial_alter (change : BodyChange) :
    Impartial actorId s₀ d₀ (alter subject change) (alter subject' change) := by
  refine .of_run _ _ (fun s => Program.run_command _ _ s) (fun d => Program.run_command _ _ d) ?_
  intro s d hsd
  show Agree _ (s.entity subject.id >>= _) (d.entity subject'.id >>= _)
  rw [h.id, hsd.entity h.ne]
  apply (Agree.refl (Q := Eq) (fun _ => rfl) (s.entity subject.id)).bind
  rintro entity _ rfl
  exact ⟨rfl, hsd.modifyEntity h.ne _⟩

theorem impartial_install (effect : ApplyEffect) (ctx : ItemContext) :
    Impartial actorId s₀ d₀ (call (.install subject effect ctx))
      (call (.install subject' effect ctx)) := by
  refine .of_unit (Frame.installEffect tickDurationMs dueTime subject.id effect ctx)
    (Frame.installEffect tickDurationMs dueTime subject'.id effect ctx)
    (fun s => Program.run_command _ _ s) (fun d => Program.run_command _ _ d) ?_
  intro s d hsd
  rw [h.id]
  exact hsd.installEffect h.ne tickDurationMs dueTime effect ctx

theorem impartial_removeStored (storageKey : String) (ctx : ItemContext) (reason : String)
    (scalars : List NamedScalar) :
    Impartial actorId s₀ d₀ (removeStored subject storageKey ctx reason scalars)
      (removeStored subject' storageKey ctx reason scalars) := by
  refine .of_unit
    (Frame.removeEffect tickDurationMs dueTime subject.id storageKey ctx reason scalars)
    (Frame.removeEffect tickDurationMs dueTime subject'.id storageKey ctx reason scalars)
    (fun s => Program.run_command _ _ s) (fun d => Program.run_command _ _ d) ?_
  intro s d hsd
  rw [h.id]
  exact hsd.removeEffect h.ne tickDurationMs dueTime storageKey ctx reason scalars

theorem impartial_interrupt (trigger : InterruptTrigger) :
    Impartial actorId s₀ d₀ (call (.interrupt subject trigger))
      (call (.interrupt subject' trigger)) := by
  refine .of_unit (Frame.interruptActor tickDurationMs dueTime subject.id trigger)
    (Frame.interruptActor tickDurationMs dueTime subject'.id trigger)
    (fun s => Program.run_command _ _ s) (fun d => Program.run_command _ _ d) ?_
  intro s d hsd
  rw [h.id]
  exact hsd.interruptActor hsd.coherent hsd.coherent' h.ne tickDurationMs dueTime trigger

theorem impartial_moveItem {target : Living ⟨tickDurationMs, eligible, dueTime⟩}
    {target' : Living ⟨tickDurationMs, eligible', dueTime⟩} (ht : Bystander actorId target target')
    (itemId : String) (quantity : ℚ) (itemId_ok : Identifier itemId) (positive : 0 < quantity) :
    Impartial actorId s₀ d₀
      (call (.moveItem subject target itemId quantity itemId_ok positive) : Exec _ Bool)
      (call (.moveItem subject' target' itemId quantity itemId_ok positive) : Exec _ Bool) := by
  refine .of_run _ _ (fun s => Program.run_command _ _ s) (fun d => Program.run_command _ _ d) ?_
  intro s d hsd
  show Agree _ (s.entity subject.id >>= _) (d.entity subject'.id >>= _)
  rw [h.id, ht.id, hsd.entity h.ne]
  apply (Agree.refl (Q := Eq) (fun _ => rfl) (s.entity subject.id)).bind
  rintro entity _ rfl
  dsimp only
  split
  · exact ⟨rfl, hsd.toBeside⟩
  · exact ⟨rfl, (hsd.modifyEntity h.ne _).modifyEntity ht.ne _⟩

end Commands

/-! ### Readings and rolls -/

theorem impartial_requiredScalar (entityId : String) (hkey : key ≠ "health") :
    Impartial actorId s₀ d₀
      (requiredScalar entityId key : Exec ⟨tickDurationMs, eligible, dueTime⟩ ℚ)
      (requiredScalar entityId key : Exec ⟨tickDurationMs, eligible', dueTime⟩ ℚ) := by
  refine .bind (impartial_readKnown (fun _ _ _ hm => hm.effectiveScalar hkey)) (fun found => ?_)
  cases found with
  | none => exact .raise _
  | some value => exact .pure value

theorem impartial_scalarOr (entityId : String) (hkey : key ≠ "health") (default : ℚ) :
    Impartial actorId s₀ d₀
      (scalarOr entityId key default : Exec ⟨tickDurationMs, eligible, dueTime⟩ ℚ)
      (scalarOr entityId key default : Exec ⟨tickDurationMs, eligible', dueTime⟩ ℚ) := by
  apply impartial_readKnown
  intro _ e e' hm
  rw [EntityState.scalarOrDefault, hm.effectiveScalar hkey, EntityState.scalarOrDefault]

theorem impartial_resolveAmount (rt : Runtime) (amount : AmountSpec) :
    Impartial actorId s₀ d₀ (resolveAmount rt amount : Exec ⟨tickDurationMs, eligible, dueTime⟩ ℚ)
      (resolveAmount rt amount : Exec ⟨tickDurationMs, eligible', dueTime⟩ ℚ) := by
  cases amount with
  | fixed value => exact .pure value
  | uniform a => exact impartial_draw _
  | triangular a =>
    exact .bind (impartial_draw _) (fun _ => .bind (impartial_draw _) (fun _ =>
      impartial_attempt _))
  | uniformInteger a => exact .bind (impartial_draw _) (fun _ => .pure _)
  | weighted a =>
    refine .bind (impartial_draw _) (fun selected => ?_)
    split
    · exact .pure _
    · exact .raise _

/-! ### Programs on a bystander -/

/-- The channels of resistance are no healths. -/
theorem resist_ne_health (channel : String) : "resist." ++ channel ≠ "health" := by
  intro heq
  have hchars := congrArg String.toList heq
  rw [String.toList_append] at hchars
  cases hchars

/-- The outgoing factors are no healths. -/
theorem damageFactorKey_ne_health (catalog : ActionCatalog) (ctx : ItemContext)
    (effect : DealDamage) : damageFactorKey catalog ctx effect ≠ "health" := by
  unfold damageFactorKey
  split
  · decide
  · split <;> decide

section Programs

variable {rt : Runtime} {subject : Living ⟨tickDurationMs, eligible, dueTime⟩}
  {subject' : Living ⟨tickDurationMs, eligible', dueTime⟩} (h : Bystander actorId subject subject')

include h

theorem impartial_dropTravelStance (ctx : ItemContext) (reason : String) :
    Impartial actorId s₀ d₀ (dropTravelStance ctx subject reason)
      (dropTravelStance ctx subject' reason) := by
  refine .bind (impartial_read h _ _) (fun previous => .ite (.bind (impartial_alter h _) ?_)
    (.pure _))
  intro _
  unfold stanceChanged
  rw [h.id]
  exact impartial_emit _ _

theorem impartial_changeStance (ctx : ItemContext) (effect : ChangeStance) :
    Impartial actorId s₀ d₀ (changeStance ctx effect subject) (changeStance ctx effect subject') := by
  refine .bind (impartial_read h _ _) (fun previous => .ite (.bind (impartial_alter h _) ?_)
    (.pure _))
  intro _
  unfold stanceChanged
  rw [h.id]
  exact impartial_emit _ _

theorem impartial_consumeAbsorber (ctx : ItemContext) (damageType : String)
    (absorber : String × EffectRecord) (absorbed : ℚ) :
    Impartial actorId s₀ d₀ (consumeAbsorber ctx subject damageType absorber absorbed)
      (consumeAbsorber ctx subject' damageType absorber absorbed) := by
  unfold consumeAbsorber
  rw [h.id]
  exact .bind (impartial_alter h _) (fun _ => .bind (impartial_emit _ _) (fun _ =>
    .ite (impartial_removeStored h _ _ _ _) (.pure _)))

theorem impartial_accumulateBreakpoints (ctx : ItemContext) (storageKey : String) (amount : ℚ)
    (hamount : 0 ≤ amount) (modifiers : List DamageBreakpoint) :
    Impartial actorId s₀ d₀ (accumulateBreakpoints ctx subject storageKey amount hamount modifiers)
      (accumulateBreakpoints ctx subject' storageKey amount hamount modifiers) := by
  induction modifiers with
  | nil => exact .pure _
  | cons modifier rest ih =>
    refine .bind (impartial_read h _ _) (fun stored => ?_)
    cases stored with
    | none => exact .raise _
    | some value =>
      exact .bind (impartial_alter h _) (fun _ => .ite (impartial_removeStored h _ _ _ _) ih)

theorem impartial_accumulateDamageBreakpoints (ctx : ItemContext) (damageType : DamageType)
    (amount : ℚ) (hamount : 0 ≤ amount) :
    Impartial actorId s₀ d₀ (accumulateDamageBreakpoints ctx subject damageType amount hamount)
      (accumulateDamageBreakpoints ctx subject' damageType amount hamount) :=
  .bind (impartial_read h _ _) (fun _ => .forM (fun _ _ =>
    impartial_accumulateBreakpoints h _ _ _ _ _))

theorem impartial_commitDamage (ctx : ItemContext) (transaction : DamageTransaction) :
    Impartial actorId s₀ d₀ (commitDamage ctx subject transaction)
      (commitDamage ctx subject' transaction) := by
  unfold commitDamage
  rw [h.id]
  refine .bind (impartial_read h _ _) (fun available => ?_)
  refine .bind (.forM (fun _ _ => impartial_consumeAbsorber h _ _ _ _)) (fun _ => ?_)
  refine .bind (impartial_adjust h _ _ _) (fun pair => ?_)
  refine .bind (impartial_attempt _) (fun _ => .bind (impartial_emit _ _) (fun _ => ?_))
  -- both sides end in the same way on every path through the breakpoints
  extract_lets answer finish answer' finish'
  have hfinish (u : PUnit) : Impartial actorId s₀ d₀ (finish u) (finish' u) :=
    .ite (.bind (impartial_dropTravelStance h _ _) (fun _ =>
      .bind (impartial_interrupt h .damage) (fun _ => .pure _))) (.pure _)
  cases transaction.breakpointDamageType with
  | none => exact hfinish ()
  | some damageType =>
    exact .ite (.bind (impartial_accumulateDamageBreakpoints h _ _ _ _) (fun _ => hfinish ()))
      (hfinish ())

theorem impartial_resistDamage (ctx : ItemContext) (effect : DealDamage) (amount : ℚ) :
    Impartial actorId s₀ d₀ (resistDamage rt ctx effect subject amount)
      (resistDamage rt ctx effect subject' amount) := by
  unfold resistDamage
  rw [h.id]
  refine .bind (impartial_requiredScalar _ (resist_ne_health _)) (fun base =>
    .bind (impartial_read h _ _) (fun _ => ?_))
  refine .bind (impartial_requiredScalar _ (by decide)) (fun _ => ?_)
  have htag (tag : String) : Impartial actorId s₀ d₀
      (hasTag subject.id tag : Exec ⟨tickDurationMs, eligible, dueTime⟩ Bool)
      (hasTag subject.id tag : Exec ⟨tickDurationMs, eligible', dueTime⟩ Bool) :=
    impartial_readKnown (fun heq => absurd heq h.ne)
  refine .bind (htag _) (fun applies => ?_)
  extract_lets finish finish'
  have hfinish (trains : ℕ) : Impartial actorId s₀ d₀ (finish trains) (finish' trains) :=
    .bind (htag _) (fun _ => .bind (htag _) (fun _ => .pure _))
  refine .ite (.bind (impartial_requiredScalar _ (by decide)) (fun raw => ?_)) (hfinish _)
  exact .ite (.bind (.raise _) (fun _ => hfinish _)) (hfinish _)

theorem impartial_dealDamage (catalog : ActionCatalog) (ctx : ItemContext) (effect : DealDamage) :
    Impartial actorId s₀ d₀ (dealDamage rt catalog ctx effect subject)
      (dealDamage rt catalog ctx effect subject') := by
  refine .bind (impartial_resolveAmount _ _) (fun rolled =>
    .bind (impartial_scalarOr _ (by decide) _) (fun _ => ?_))
  refine .bind (impartial_scalarOr _ (damageFactorKey_ne_health _ _ _) _) (fun factor => ?_)
  extract_lets amount finish finish'
  have hfinish (resisted : ℚ × ℚ × ℚ) :
      Impartial actorId s₀ d₀ (finish resisted) (finish' resisted) :=
    .bind (impartial_attempt _) (fun _ => impartial_commitDamage h _ _)
  exact .ite (.bind (impartial_resistDamage h _ _ _) hfinish) (.bind (.pure _) hfinish)

theorem impartial_restoreResource (ctx : ItemContext) (effect : RestoreResource) :
    Impartial actorId s₀ d₀ (restoreResource rt ctx effect subject)
      (restoreResource rt ctx effect subject') := by
  unfold restoreResource
  rw [h.id]
  refine .bind (impartial_resolveAmount _ _) (fun rolled => ?_)
  extract_lets finish finish'
  have hfinish (amount : ℚ) : Impartial actorId s₀ d₀ (finish amount) (finish' amount) := by
    refine .bind (impartial_read h _ _) (fun blocked => ?_)
    extract_lets report report'
    have hreport (resisted : ℚ × ℚ × ℚ) :
        Impartial actorId s₀ d₀ (report resisted) (report' resisted) :=
      .bind (impartial_adjust h _ _ _) (fun _ => impartial_emit _ _)
    cases effect.resistanceType with
    | none => exact .bind (.pure _) hreport
    | some channel =>
      exact .bind (impartial_requiredScalar _ (resist_ne_health _)) (fun _ =>
        .bind (impartial_requiredScalar _ (by decide)) (fun _ => .bind (.pure _) hreport))
  exact .ite (.bind (impartial_scalarOr _ (by decide) _) (fun _ => .bind (.pure _) hfinish))
    (.bind (.pure _) hfinish)

theorem impartial_modifyScalar (ctx : ItemContext) (effect : ModifyScalar) :
    Impartial actorId s₀ d₀ (modifyScalar ctx effect subject) (modifyScalar ctx effect subject') := by
  unfold modifyScalar
  rw [h.id]
  exact .bind (impartial_adjust h _ _ _) (fun _ => impartial_emit _ _)

theorem impartial_modifyObjective (ctx : ItemContext) (effect : ModifyObjective) :
    Impartial actorId s₀ d₀ (modifyObjective ctx effect subject)
      (modifyObjective ctx effect subject') := by
  unfold modifyObjective
  rw [h.id]
  exact .bind (impartial_read h _ _) (fun _ => .ite (.raise _)
    (.bind (impartial_adjust h _ _ _) (fun _ => impartial_emit _ _)))

theorem impartial_modifyTag (ctx : ItemContext) (effect : ModifyTag) :
    Impartial actorId s₀ d₀ (modifyTag ctx effect subject) (modifyTag ctx effect subject') := by
  unfold modifyTag
  rw [h.id]
  exact .bind (impartial_read h _ _) (fun _ => .bind (impartial_alter h _) (fun _ =>
    .ite (impartial_emit _ _) (.pure _)))

theorem impartial_applyEffect (ctx : ItemContext) (effect : ApplyEffect) :
    Impartial actorId s₀ d₀ (applyEffect ctx effect subject) (applyEffect ctx effect subject') := by
  unfold applyEffect
  rw [h.id]
  refine .bind (impartial_read h _ _) (fun matching => .ite
    (.bind (impartial_emit _ _) (fun _ => .pure _))
    (.bind (impartial_read h _ _) (fun existing => ?_)))
  extract_lets refreshed
  split
  · exact .bind (impartial_emit _ _) (fun _ => .pure _)
  · exact .bind (impartial_install h _ _) (fun _ => .ite
      (.bind (impartial_interrupt h _) (fun _ => .pure _)) (.pure _))

theorem impartial_removeEffect (ctx : ItemContext) (effect : RemoveEffect) :
    Impartial actorId s₀ d₀ (removeEffect ctx effect subject) (removeEffect ctx effect subject') :=
  .bind (impartial_read h _ _) (fun _ => .bind (.forM (fun _ _ =>
    impartial_removeStored h _ _ _ _)) (fun _ => .pure _))

theorem impartial_movementDirection (binding : ActionBinding) (effect : MoveEntity) :
    Impartial actorId s₀ d₀ (movementDirection rt binding effect subject)
      (movementDirection rt binding effect subject') := by
  have hposition (entityId : String) : Impartial actorId s₀ d₀
      (readKnown entityId EntityState.position intrinsic_position :
        Exec ⟨tickDurationMs, eligible, dueTime⟩ Vector2)
      (readKnown entityId EntityState.position intrinsic_position :
        Exec ⟨tickDurationMs, eligible', dueTime⟩ Vector2) :=
    impartial_readKnown (fun _ _ _ hm => hm.position)
  unfold movementDirection
  split
  · exact impartial_attempt _
  · exact .bind (hposition _) (fun _ => .bind (hposition _) (fun _ =>
      .bind (impartial_read h _ _) (fun _ => impartial_attempt _)))
  · exact .raise _

theorem impartial_moveEntity (ctx : ItemContext) (effect : MoveEntity) :
    Impartial actorId s₀ d₀ (moveEntity rt ctx effect subject)
      (moveEntity rt ctx effect subject') := by
  unfold moveEntity
  rw [h.id]
  refine .bind (impartial_read h _ _) (fun before => ?_)
  extract_lets finish finish'
  have hfinish (after : Vector2) : Impartial actorId s₀ d₀ (finish after) (finish' after) :=
    .bind (impartial_alter h _) (fun _ => .bind (impartial_emit _ _) (fun _ => .pure _))
  refine .ite ?_ ?_
  · split
    · exact hfinish _
    · exact .bind (.raise _) (fun _ => hfinish _)
  · refine .bind (impartial_movementDirection h _ _) (fun direction => ?_)
    extract_lets walk walk'
    have hwalk (span : ℚ) : Impartial actorId s₀ d₀ (walk span) (walk' span) := hfinish _
    split
    · exact hwalk _
    · exact .bind (impartial_scalarOr _ (by decide) _) (fun _ => hwalk _)

theorem impartial_itemQuantity (itemId : Option String) :
    Impartial actorId s₀ d₀ (itemQuantity subject itemId) (itemQuantity subject' itemId) := by
  cases itemId with
  | none => exact .pure _
  | some itemId => exact impartial_read h _ _

theorem impartial_comparing {body : Exec ⟨tickDurationMs, eligible, dueTime⟩ α}
    {body' : Exec ⟨tickDurationMs, eligible', dueTime⟩ α}
    (hbody : Impartial actorId s₀ d₀ body body') :
    Impartial actorId s₀ d₀ (comparing subject f hf body) (comparing subject' f hf body') :=
  .bind (impartial_read h _ _) (fun _ => .bind hbody (fun _ => .bind (impartial_read h _ _)
    (fun _ => .pure _)))

/-! Transfers have two bystanders. -/

variable {target : Living ⟨tickDurationMs, eligible, dueTime⟩}
  {target' : Living ⟨tickDurationMs, eligible', dueTime⟩} (ht : Bystander actorId target target')

include ht

theorem impartial_transferResource (ctx : ItemContext) (effect : TransferResource) :
    Impartial actorId s₀ d₀ (transferResource rt ctx effect subject target)
      (transferResource rt ctx effect subject' target') := by
  unfold transferResource
  rw [h.id]
  exact .bind (impartial_resolveAmount _ _) (fun _ => .bind (impartial_adjust h _ _ _) (fun _ =>
    .bind (impartial_adjust ht _ _ _) (fun _ => impartial_emit _ _)))

theorem impartial_transferItem (ctx : ItemContext) (effect : TransferItem) :
    Impartial actorId s₀ d₀ (transferItem ctx effect subject target)
      (transferItem ctx effect subject' target') := by
  unfold transferItem
  rw [h.id, ht.id]
  split
  · exact .bind (impartial_moveItem h ht _ _ _ _)
      (fun _ => .ite (impartial_emit _ _) (impartial_emit _ _))
  · exact .raise _

end Programs

/-! ### Effects that do not concern the source -/

/-- The subjects a direct effect works on. -/
def DirectEffect.subjects : DirectEffect → List SubjectRef
  | .dealDamage e => [e.subject]
  | .restoreResource e => [e.subject]
  | .transferResource e => [e.fromSubject, e.toSubject]
  | .modifyScalar e => [e.subject]
  | .modifyTag e => [e.subject]
  | .applyEffect e => [e.subject]
  | .removeEffect e => [e.subject]
  | .moveEntity e => [e.subject]
  | .transferItem e => [e.fromSubject, e.toSubject]
  | .modifyObjective _ => [.objective]
  | .changeStance _ => [.actor]

/-- A direct effect on other entities than the source. -/
def DirectEffect.Avoids (actorId : String) (binding : ActionBinding) (effect : DirectEffect) :
    Prop :=
  ∀ subject ∈ effect.subjects, boundId subject binding ≠ some actorId

/-- A conditional on other entities, on all its branches. -/
def OutcomeConditional.Avoids (actorId : String) (binding : ActionBinding)
    (conditional : OutcomeConditional) : Prop :=
  conditional.condition.Avoids actorId binding ∧
    (∀ e ∈ conditional.effects, e.Avoids actorId binding) ∧
    ∀ e ∈ conditional.elseEffects, e.Avoids actorId binding

/-- A chance of effects on other entities. -/
def ChanceGate.Avoids (actorId : String) (binding : ActionBinding) (effect : ChanceGate) : Prop :=
  ∀ nested ∈ effect.effects,
    match nested with
    | .direct e => e.Avoids actorId binding
    | .conditional e => e.Avoids actorId binding

/-- An effect that no resolver drops because the source is dead: attacks and areas are. -/
def EffectPrimitive.Avoids (actorId : String) (binding : ActionBinding) : EffectPrimitive → Prop
  | .direct e => e.Avoids actorId binding
  | .conditional e => e.Avoids actorId binding
  | .chance e => e.Avoids actorId binding
  | .attack _ => False
  | .area _ => False

section Effects

variable {rt : Runtime} {catalog : ActionCatalog} {ctx : ItemContext}

variable {subject : SubjectRef}

/-- The entity of a reference is not the source, if its identifier is not. -/
theorem impartial_entityForRef {binding : ActionBinding}
    (havoids : boundId subject binding ≠ some actorId)
    {f : Option String → Exec ⟨tickDurationMs, eligible, dueTime⟩ α}
    {g : Option String → Exec ⟨tickDurationMs, eligible', dueTime⟩ α}
    (hnone : Impartial actorId s₀ d₀ (f none) (g none))
    (hsome : ∀ entityId ≠ actorId, Impartial actorId s₀ d₀ (f (some entityId))
      (g (some entityId))) :
    Impartial actorId s₀ d₀ (entityForRef subject binding >>= f)
      (entityForRef subject binding >>= g) := by
  unfold entityForRef
  cases hbound : boundId subject binding with
  | none => exact hnone
  | some entityId =>
    have hne : entityId ≠ actorId := fun heq => havoids (heq ▸ hbound)
    intro s d hsd
    have hfound : (d.entities.get? entityId).map EntityState.entityId =
        (s.entities.get? entityId).map EntityState.entityId := by
      rw [hsd.parted.others entityId hne]
    show Agree _ ((f ((s.entities.get? entityId).map EntityState.entityId)).run _ s)
      ((g ((d.entities.get? entityId).map EntityState.entityId)).run _ d)
    rw [hfound]
    cases hget : s.entities.get? entityId with
    | none => exact hnone s d hsd
    | some entity =>
      rw [Option.map_some, hsd.coherent.entities_keyed entityId entity hget]
      exact hsome entityId hne s d hsd

variable (heligible : ∀ entityId ≠ actorId, entityId ∈ eligible ↔ entityId ∈ eligible')

include heligible

theorem impartial_onSubject {missing : String}
    (havoids : boundId subject ctx.binding ≠ some actorId)
    {body : Living ⟨tickDurationMs, eligible, dueTime⟩ →
      Exec ⟨tickDurationMs, eligible, dueTime⟩ EffectOutcome}
    {body' : Living ⟨tickDurationMs, eligible', dueTime⟩ →
      Exec ⟨tickDurationMs, eligible', dueTime⟩ EffectOutcome}
    (hbody : ∀ handle handle', Bystander actorId handle handle' →
      Impartial actorId s₀ d₀ (body handle) (body' handle')) :
    Impartial actorId s₀ d₀ (onSubject ctx subject missing body)
      (onSubject ctx subject missing body') := by
  refine impartial_entityForRef havoids (.raise _) (fun entityId hne => ?_)
  dsimp only
  by_cases hin : entityId ∈ eligible
  · have hin' := (heligible entityId hne).1 hin
    rw [living?, living?, dif_pos hin, dif_pos hin']
    exact hbody _ _ ⟨rfl, hne⟩
  · have hout' : entityId ∉ eligible' := fun hin' => hin ((heligible entityId hne).2 hin')
    rw [living?, living?, dif_neg hin, dif_neg hout']
    exact .pure _

theorem impartial_betweenSubjects {source destination : SubjectRef}
    (hsource : boundId source ctx.binding ≠ some actorId)
    (hdestination : boundId destination ctx.binding ≠ some actorId)
    {body : Living ⟨tickDurationMs, eligible, dueTime⟩ →
      Living ⟨tickDurationMs, eligible, dueTime⟩ →
      Exec ⟨tickDurationMs, eligible, dueTime⟩ EffectOutcome}
    {body' : Living ⟨tickDurationMs, eligible', dueTime⟩ →
      Living ⟨tickDurationMs, eligible', dueTime⟩ →
      Exec ⟨tickDurationMs, eligible', dueTime⟩ EffectOutcome}
    (hbody : ∀ handle handle' other other', Bystander actorId handle handle' →
      Bystander actorId other other' →
      Impartial actorId s₀ d₀ (body handle other) (body' handle' other')) :
    Impartial actorId s₀ d₀ (betweenSubjects ctx source destination body)
      (betweenSubjects ctx source destination body') := by
  have hliving (entityId : String) (hne : entityId ≠ actorId) :
      (∃ handle handle', (living? entityId : Option (Living ⟨tickDurationMs, eligible, dueTime⟩)) =
          some handle ∧
        (living? entityId : Option (Living ⟨tickDurationMs, eligible', dueTime⟩)) = some handle' ∧
        Bystander actorId handle handle') ∨
      ((living? entityId : Option (Living ⟨tickDurationMs, eligible, dueTime⟩)) = none ∧
        (living? entityId : Option (Living ⟨tickDurationMs, eligible', dueTime⟩)) = none) := by
    by_cases hin : entityId ∈ eligible
    · have hin' := (heligible entityId hne).1 hin
      exact .inl ⟨⟨entityId, hin⟩, ⟨entityId, hin'⟩, dif_pos hin, dif_pos hin', rfl, hne⟩
    · have hout' : entityId ∉ eligible' := fun hin' => hin ((heligible entityId hne).2 hin')
      exact .inr ⟨dif_neg hin, dif_neg hout'⟩
  refine impartial_entityForRef hsource ?_ (fun sourceId hs => ?_)
  · exact impartial_entityForRef hdestination (.pure _) (fun _ _ => .pure _)
  · refine impartial_entityForRef hdestination ?_ (fun destinationId hd => ?_)
    · rcases hliving sourceId hs with ⟨handle, handle', hhandle, hhandle', hboth⟩ | ⟨hnone, hnone'⟩
      · rw [Option.bind_some, Option.bind_some, hhandle, hhandle']
        exact .pure _
      · rw [Option.bind_some, Option.bind_some, hnone, hnone']
        exact .pure _
    · rw [Option.bind_some, Option.bind_some, Option.bind_some, Option.bind_some]
      rcases hliving sourceId hs with ⟨handle, handle', hhandle, hhandle', hboth⟩ | ⟨hnone, hnone'⟩
      · rw [hhandle, hhandle']
        rcases hliving destinationId hd with ⟨other, other', hother, hother', hboth'⟩ | ⟨hnone, hnone'⟩
        · rw [hother, hother']
          exact hbody _ _ _ _ hboth hboth'
        · rw [hnone, hnone']
          exact .pure _
      · rw [hnone, hnone']
        exact .pure _

theorem impartial_resolveDirect {effect : DirectEffect}
    (havoids : effect.Avoids actorId ctx.binding) :
    Impartial actorId s₀ d₀ (resolveDirect rt catalog ctx effect :
        Exec ⟨tickDurationMs, eligible, dueTime⟩ EffectOutcome)
      (resolveDirect rt catalog ctx effect :
        Exec ⟨tickDurationMs, eligible', dueTime⟩ EffectOutcome) := by
  cases effect with
  | dealDamage e =>
    refine impartial_onSubject heligible (havoids _ List.mem_cons_self) (fun _ _ h => ?_)
    exact .bind (impartial_dealDamage h _ _ _) (fun _ => impartial_answer (by rw [h.id]))
  | restoreResource e =>
    refine impartial_onSubject heligible (havoids _ List.mem_cons_self) (fun _ _ h => ?_)
    exact .bind (impartial_comparing h (impartial_restoreResource h _ _))
      (fun _ => impartial_answer (by rw [h.id]))
  | transferResource e =>
    refine impartial_betweenSubjects heligible (havoids _ List.mem_cons_self)
      (havoids _ (List.mem_cons_of_mem _ List.mem_cons_self)) (fun _ _ _ _ hs hd => ?_)
    refine .bind (impartial_read hs _ _) (fun _ => .bind (impartial_comparing hd
      (impartial_transferResource hs hd _ _)) (fun _ => .bind (impartial_read hs _ _) (fun _ => ?_)))
    exact .bind (.pure _) (fun _ => impartial_answer (by rw [hd.id]))
  | modifyScalar e =>
    refine impartial_onSubject heligible (havoids _ List.mem_cons_self) (fun _ _ h => ?_)
    exact .bind (impartial_comparing h (impartial_modifyScalar h _ _))
      (fun _ => impartial_answer (by rw [h.id]))
  | modifyTag e =>
    refine impartial_onSubject heligible (havoids _ List.mem_cons_self) (fun _ _ h => ?_)
    exact .bind (impartial_comparing h (impartial_modifyTag h _ _))
      (fun _ => impartial_answer (by rw [h.id]))
  | applyEffect e =>
    refine impartial_onSubject heligible (havoids _ List.mem_cons_self) (fun _ _ h => ?_)
    exact impartial_applyEffect h _ _
  | removeEffect e =>
    refine impartial_onSubject heligible (havoids _ List.mem_cons_self) (fun _ _ h => ?_)
    exact .bind (impartial_removeEffect h _ _) (fun _ => impartial_answer (by rw [h.id]))
  | moveEntity e =>
    refine impartial_onSubject heligible (havoids _ List.mem_cons_self) (fun _ _ h => ?_)
    exact .bind (impartial_moveEntity h _ _) (fun _ => impartial_answer (by rw [h.id]))
  | transferItem e =>
    refine impartial_betweenSubjects heligible (havoids _ List.mem_cons_self)
      (havoids _ (List.mem_cons_of_mem _ List.mem_cons_self)) (fun _ _ _ _ hs hd => ?_)
    refine .bind (impartial_itemQuantity hs _) (fun _ => .bind (impartial_itemQuantity hd _)
      (fun _ => .bind (impartial_transferItem hs hd _ _) (fun _ => ?_)))
    exact .bind (impartial_itemQuantity hs _) (fun _ => .bind (impartial_itemQuantity hd _)
      (fun _ => impartial_answer (by rw [hd.id])))
  | modifyObjective e =>
    refine impartial_onSubject heligible (havoids _ List.mem_cons_self) (fun _ _ h => ?_)
    exact .bind (impartial_comparing h (impartial_modifyObjective h _ _))
      (fun _ => impartial_answer (by rw [h.id]))
  | changeStance e =>
    refine impartial_onSubject heligible (havoids _ List.mem_cons_self) (fun _ _ h => ?_)
    exact .bind (impartial_comparing h (impartial_changeStance h _ _))
      (fun _ => impartial_answer (by rw [h.id]))

theorem impartial_resolveDirects {effects : List DirectEffect}
    (havoids : ∀ e ∈ effects, e.Avoids actorId ctx.binding) :
    Impartial actorId s₀ d₀
      (resolveDirects rt catalog ctx effects : Exec ⟨tickDurationMs, eligible, dueTime⟩ Unit)
      (resolveDirects rt catalog ctx effects : Exec ⟨tickDurationMs, eligible', dueTime⟩ Unit) :=
  .forM (fun e he => .bind (impartial_resolveDirect heligible (havoids e he)) (fun _ => .pure _))

theorem impartial_resolveOutcomeConditional {conditional : OutcomeConditional}
    (havoids : conditional.Avoids actorId ctx.binding) :
    Impartial actorId s₀ d₀ (resolveOutcomeConditional rt catalog ctx conditional :
        Exec ⟨tickDurationMs, eligible, dueTime⟩ Unit)
      (resolveOutcomeConditional rt catalog ctx conditional :
        Exec ⟨tickDurationMs, eligible', dueTime⟩ Unit) := by
  obtain ⟨hcondition, heffects, helse⟩ := havoids
  refine .bind (impartial_resolveDirect heligible hcondition) (fun outcome =>
    .bind (impartial_emit _ _) (fun _ => impartial_resolveDirects heligible ?_))
  split
  · exact heffects
  · exact helse

theorem impartial_resolveChance {effect : ChanceGate} (havoids : effect.Avoids actorId ctx.binding) :
    Impartial actorId s₀ d₀
      (resolveChance rt catalog ctx effect : Exec ⟨tickDurationMs, eligible, dueTime⟩ Unit)
      (resolveChance rt catalog ctx effect : Exec ⟨tickDurationMs, eligible', dueTime⟩ Unit) := by
  refine .bind (impartial_draw _) (fun roll => .bind (impartial_emit _ _) (fun _ =>
    .ite (.forM (fun nested hnested => ?_)) (.pure _)))
  have hspared := havoids nested hnested
  cases nested with
  | direct e =>
    exact impartial_resolveDirects heligible (fun e' he' => by
      rw [List.mem_singleton.1 he']
      exact hspared)
  | conditional e => exact impartial_resolveOutcomeConditional heligible hspared

theorem impartial_resolve {cfg : Config rt} {effects : List EffectPrimitive}
    (havoids : ∀ e ∈ effects, e.Avoids actorId ctx.binding) :
    Impartial actorId s₀ d₀
      (resolve cfg ctx effects : Exec ⟨tickDurationMs, eligible, dueTime⟩ Unit)
      (resolve cfg ctx effects : Exec ⟨tickDurationMs, eligible', dueTime⟩ Unit) := by
  refine .forM (fun effect heffect => ?_)
  have hspared := havoids effect heffect
  cases effect with
  | direct e =>
    exact impartial_resolveDirects heligible (fun e' he' => by
      rw [List.mem_singleton.1 he']
      exact hspared)
  | conditional e => exact impartial_resolveOutcomeConditional heligible hspared
  | chance e => exact impartial_resolveChance heligible hspared
  | attack e => exact hspared.elim
  | area e => exact hspared.elim

end Effects

end Impartial

end ShadowbaneLab
