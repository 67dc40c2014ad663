/-
# Released payloads and the fate of their source

A payload of a projectile is detached from its source once its phase is released: the queue does
not drop it when the source dies, and it stays detached for the rest of the run
(`Onward.detached`).  Whether it does what it would have done is up to the resolvers of its
effects.  Direct effects, conditionals and chances on other entities do (`released_independent`);
attack gates, weapon attacks and areas ask for a living source and do nothing without.
-/
import ShadowbaneLab.Sim.HitChance
import ShadowbaneLab.Sim.Impartial

namespace ShadowbaneLab

open Foundation

/-! ## What is released stays released -/

variable {decision : DecisionMessage}

section Release

variable {rt : Runtime} {cfg : Config rt} {catalog : ActionCatalog} {scope : Scope}
  {item : ScheduledItem} {s s' : Frame}

/-- The released phases of an execution are still released in another one. -/
def Releases (e e' : ActionExecutionState) : Prop :=
  e.releasedPhaseIndexes ⊆ e'.releasedPhaseIndexes

theorem Releases.refl (e : ActionExecutionState) : Releases e e := Finset.Subset.refl _

theorem Releases.trans (e e' e'' : ActionExecutionState) (h : Releases e e')
    (h' : Releases e' e'') : Releases e e'' := Finset.Subset.trans h h'

theorem Releases.release (e : ActionExecutionState) (phaseIndex : ℕ) :
    Releases e (e.release phaseIndex) := by
  unfold ActionExecutionState.release
  dsimp only
  split <;> exact Finset.subset_insert _ _

theorem change_releases (h : Change scope s s') :
    Dict.Rel Releases s.executions s'.executions := by
  cases h with
  | interrupt subject execution reason found running mine =>
    exact Dict.rel_modify .refl _ _ (fun e _ => .refl e)
  | _ => exact Dict.rel_refl .refl _

theorem move_releases (h : Move scope s s') : Dict.Rel Releases s.executions s'.executions := by
  cases h with
  | change h => exact change_releases h
  | release item execution phaseIndex found running =>
    exact Dict.rel_modify .refl _ _ (fun e _ => .release e phaseIndex)
  | close execution entity found running =>
    exact Dict.rel_modify .refl _ _ (fun e _ => .refl e)
  | _ => exact Dict.rel_refl .refl _

theorem consume_releases (h : Consume catalog scope item s s') :
    Dict.Rel Releases s.executions s'.executions := by
  cases h with
  | drop => exact Dict.rel_refl .refl _
  | nextPhase execution action phase phaseIndex delay work found keyed owned running =>
    rw [Frame.enterPhase, foldl_schedule]
    exact Dict.rel_set .refl (keyed ▸ found) (.refl execution)
  | complete execution work found running =>
    exact Dict.rel_modify .refl _ _ (fun e _ => .refl e)

theorem changes_releases (h : Changes scope s s') :
    Dict.Rel Releases s.executions s'.executions := by
  induction h with
  | refl => exact Dict.rel_refl .refl _
  | tail _ hlast ih => exact ih.trans .trans (change_releases hlast)

theorem Turn.releases (h : Turn catalog scope item s s') :
    Dict.Rel Releases s.executions s'.executions :=
  h.preserves (fun _ hconsume => consume_releases hconsume)
    (fun _ _ hmove hrel => hrel.trans .trans (move_releases hmove))

/-- The frames of a run that come after one of them, between two turns of a step. -/
inductive Onward (cfg : Config rt) (s : Frame) : Frame → Prop
  | refl : Onward cfg s s
  | boundary {t : Frame} (onward : Onward cfg s t) : Onward cfg s { t.toWorld with }
  | reject {t t' : Frame} {rejection : DecisionMessage × String} (onward : Onward cfg s t)
      (rejected : ShadowbaneLab.reject cfg t rejection = .ok t') : Onward cfg s t'
  | start {t t' : Frame} {admitted : DecisionMessage × ActionSpec} (onward : Onward cfg s t)
      (started : startAction cfg t admitted = .ok t') : Onward cfg s t'
  | turn {t t' : Frame} {item : ScheduledItem} {untilMs : ℕ} (onward : Onward cfg s t)
      (next : t.nextDue untilMs = some item)
      (processed : processItem cfg item (t.take item) = .ok t') : Onward cfg s t'
  | advance {t : Frame} (onward : Onward cfg s t) :
      Onward cfg s (t.advance cfg.tickDurationMs)

theorem Onward.coherent (h : Onward cfg s s') (hs : Coherent s.toWorld) : Coherent s'.toWorld := by
  induction h with
  | refl => exact hs
  | boundary _ ih => exact ih
  | reject _ rejected ih =>
    rw [reject_eq_ok rejected]
    exact ih.of_eq rfl rfl rfl rfl
  | start _ started ih => exact ih.starts (startAction_eq_ok ih started)
  | turn _ next processed ih =>
    exact ih.turn (processItem_turn ih (World.nextDue_eq_some next).1 processed)
  | advance _ ih => exact ih.of_eq rfl rfl rfl rfl

variable {key : ExecutionKey} {e : ActionExecutionState}

theorem Onward.releases (h : Onward cfg s s') (hs : Coherent s.toWorld)
    (he : s.executions.get? key = some e) :
    ∃ e', s'.executions.get? key = some e' ∧ Releases e e' := by
  induction h with
  | refl => exact ⟨e, he, .refl e⟩
  | boundary _ ih => exact ih
  | reject _ rejected ih =>
    rw [reject_eq_ok rejected]
    exact ih
  | start onward started ih =>
    obtain ⟨e', he', hreleases⟩ := ih
    obtain ⟨e'', he'', hreleases'⟩ := (startAction_eq_ok (onward.coherent hs) started).kept
      .trans changes_releases he'
    exact ⟨e'', he'', .trans e e' e'' hreleases hreleases'⟩
  | turn onward next processed ih =>
    obtain ⟨e', he', hreleases⟩ := ih
    have hturn := processItem_turn (onward.coherent hs) (World.nextDue_eq_some next).1 processed
    obtain ⟨e'', he'', hreleases'⟩ := hturn.releases.of_eq_some he'
    exact ⟨e'', he'', .trans e e' e'' hreleases hreleases'⟩
  | advance _ ih => exact ih

/-- **A detached item stays detached, whatever happens to its source.** -/
theorem Onward.detached (h : Onward cfg s s') (hs : Coherent s.toWorld)
    (hdetached : s.detached item = true) : s'.detached item = true := by
  unfold World.detached at hdetached ⊢
  rw [Bool.and_eq_true] at hdetached ⊢
  obtain ⟨hpolicy, hreleased⟩ := hdetached
  refine ⟨hpolicy, ?_⟩
  split at hreleased
  · rename_i execution phaseIndex hexecution hphase
    obtain ⟨execution', hexecution', hreleases⟩ := h.releases hs hexecution
    rw [hexecution', hphase]
    exact decide_eq_true (hreleases (of_decide_eq_true hreleased))
  · cases hreleased

/-- Steps go on. -/
theorem Onward.step {fuel : ℕ} {world world' : World} {decisions : List DecisionMessage}
    {truncated : Bool} {batch : EventBatchMessage} (h : Onward cfg s { world with })
    (hw : Coherent world)
    (stepped : step cfg fuel world decisions truncated = .ok (batch, world')) :
    Onward cfg s { world' with } := by
  obtain ⟨t, ht, _, rfl⟩ := step_preserves_next (P := Onward cfg s)
    (fun _ _ _ hp hrejected => hp.reject hrejected)
    (fun _ _ _ _ _ hp hstarted => hp.start hstarted)
    (fun _ _ _ _ hnext _ hp hitem => hp.turn hnext hitem) (fun _ hp => hp.advance) hw h stepped
  exact ht.boundary

end Release

/-! ## Turns side by side -/

section Turns

variable {rt : Runtime} {cfg : Config rt} {actorId entityId : String} {s₀ d₀ s d : Frame}
  {item : ScheduledItem} {dueTime : ℕ}

namespace Beside

theorem sortedKeys_eq (h : Beside actorId s₀ d₀ s d) :
    d.entities.sortedKeys = s.entities.sortedKeys := by
  apply Dict.Rel.sortedKeys_eq (R := fun _ _ => True)
  intro other
  by_cases hid : other = actorId
  · obtain ⟨e, e', he, he', _⟩ := h.parted.source
    rw [hid, he, he']
    exact .some trivial
  · rw [h.parted.others other hid]
    cases s.entities.get? other with
    | none => exact .none
    | some e => exact .some trivial

/-- The source does not die now, and the others die alike. -/
theorem dieIfDue (h : Beside actorId s₀ d₀ s d) :
    Agree (Beside actorId s₀ d₀) (dieIfDue cfg dueTime s entityId)
      (dieIfDue cfg dueTime d entityId) := by
  unfold ShadowbaneLab.dieIfDue
  by_cases hid : entityId = actorId
  · obtain ⟨e, e', he, he', _, hlasts, hlasts'⟩ := h.parted.source
    rw [hid, Frame.entity_of_get? he, Frame.entity_of_get? he', ok_bind, ok_bind, hlasts, hlasts']
    exact h
  · rw [h.entity hid]
    apply (Agree.refl (Q := Eq) (fun _ => rfl) (s.entity entityId)).bind
    rintro entity _ rfl
    split
    · apply emit
      exact { h.modifyEntity hid (fun e => { e with alive := false }) with
        parted := { (h.modifyEntity hid (fun e => { e with alive := false })).parted with } }
    · exact h

theorem resolveDeaths (h : Beside actorId s₀ d₀ s d) :
    Agree (Beside actorId s₀ d₀) (resolveDeaths cfg dueTime s) (resolveDeaths cfg dueTime d) := by
  unfold ShadowbaneLab.resolveDeaths
  rw [h.sortedKeys_eq]
  exact Agree.foldlM (fun _ _ _ _ hsd => hsd.dieIfDue) h

theorem dead_iff (h : Beside actorId s₀ d₀ s d) (hne : entityId ≠ actorId) :
    d.Dead entityId ↔ s.Dead entityId := by
  unfold Frame.Dead
  rw [h.parted.others entityId hne]

end Beside

/-- The dead other than the source are cleaned up alike. -/
theorem cleanupDeadActor_abreast (h : Abreast actorId s₀ d₀ s d) (hne : entityId ≠ actorId)
    (hdead : s.Dead entityId) :
    Agree (Beside actorId s₀ d₀) (cleanupDeadActor cfg dueTime s entityId)
      (cleanupDeadActor cfg dueTime d entityId) := by
  have hrest (f : Frame) (hf : Coherent f.toWorld) (hdead : f.Dead entityId) :
      Coherent (f.layToRest entityId dueTime).toWorld := by
    obtain ⟨e, he, halive⟩ := hdead
    have hmove : Move ⟨cfg.tickDurationMs, {entityId}, dueTime⟩ f (f.layToRest entityId dueTime) :=
      .rest f entityId e he halive (Finset.mem_singleton_self entityId)
    exact hf.move hmove
  have hdead' : d.Dead entityId := (h.dead_iff hne).2 hdead
  unfold cleanupDeadActor
  rw [h.entity hne]
  apply (Agree.refl (Q := Eq) (fun _ => rfl) (s.entity entityId)).bind
  rintro actor _ rfl
  have hbeside : Beside actorId s₀ d₀ (s.layToRest entityId dueTime)
      (d.layToRest entityId dueTime) := h.modifyEntity hne _
  dsimp only
  rw [hbeside.interrupted_eq (hrest s h.coherent hdead) (hrest d h.coherent' hdead') hne]
  · exact Agree.foldlM (fun execution _ _ _ hsd => hsd.endExecution _ _ _ execution) hbeside
  · intro e he
    simp only [Bool.and_eq_true, decide_eq_true_eq] at he
    exact he.1.1

variable {alive alive' : Finset String}

/-- The entities that die in a turn are the same, if the source is not among them. -/
theorem Beside.newlyDead_eq (h : Beside actorId s₀ d₀ s d)
    (halive : ∀ entityId ≠ actorId, entityId ∈ alive ↔ entityId ∈ alive')
    (hsource : actorId ∈ alive → ¬ s.Dead actorId) (hsource' : actorId ∈ alive' → ¬ d.Dead actorId)
    :
    newlyDead alive' d = newlyDead alive s := by
  have hmem (before : Finset String) (f : Frame) (other : String) :
      other ∈ newlyDead before f ↔ other ∈ before ∧ f.Dead other := by
    refine ⟨mem_newlyDead, ?_⟩
    rintro ⟨hin, e, he, hdead⟩
    refine List.mem_filter.2 ⟨(mem_sortedSet _).2 hin, ?_⟩
    rw [he, Option.any_some, hdead]
    rfl
  have hsorted (before : Finset String) (f : Frame) : (newlyDead before f).Nodup ∧
      (newlyDead before f).Pairwise (fun a b => id a ≤ id b) :=
    ⟨(nodup_sortedSet before).filter _, (pairwise_sortedSet before).filter _⟩
  refine eq_of_perm_of_pairwise id ((List.perm_ext_iff_of_nodup (hsorted _ _).1 (hsorted _ _).1).2 ?_)
    (fun _ _ _ _ heq => heq) (hsorted _ _).2 (hsorted _ _).2
  intro other
  rw [hmem, hmem]
  by_cases hid : other = actorId
  · rw [hid]
    constructor
    · rintro ⟨hin, hdead⟩
      exact absurd hdead (hsource' hin)
    · rintro ⟨hin, hdead⟩
      exact absurd hdead (hsource hin)
  · rw [halive other hid, h.dead_iff hid]

/-! ### The validity of detached items -/

/-- A detached item is dropped only if its target has a new life. -/
theorem World.valid_of_detached {world : World} (hdetached : world.detached item = true) :
    world.scheduledItemIsValid item = world.targetLifeKept item := by
  have hpolicy : item.continuationPolicy = .detachOnRelease := by
    unfold World.detached at hdetached
    rw [Bool.and_eq_true, decide_eq_true_eq] at hdetached
    exact hdetached.1
  unfold World.scheduledItemIsValid
  rw [hdetached, hpolicy, Bool.not_true, Bool.and_false]
  cases hkept : world.targetLifeKept item with
  | false => rfl
  | true =>
    cases item.actorLifeId with
    | none => rfl
    | some lifeId => rfl

theorem Parted.targetLifeKept_eq (h : Parted actorId s d) (item : ScheduledItem) :
    d.targetLifeKept item = s.targetLifeKept item := by
  have hlives (targetId : String) (lifeId : String) :
      (d.entities.get? targetId).any (fun target => target.lifeId = lifeId) =
        (s.entities.get? targetId).any (fun target => target.lifeId = lifeId) := by
    by_cases hid : targetId = actorId
    · obtain ⟨e, e', he, he', hmirrors, _⟩ := h.source
      rw [hid, he, he', Option.any_some, Option.any_some, hmirrors.lifeId]
    · rw [h.others targetId hid]
  unfold World.targetLifeKept World.itemTarget
  cases item.targetLifeId with
  | none => rfl
  | some lifeId =>
    cases hbinding : item.work.binding? with
    | none => rfl
    | some binding =>
      dsimp only
      cases htarget : binding.targetEntityId with
      | none =>
        rw [Option.bind_some, htarget]
        rfl
      | some targetId =>
        rw [Option.bind_some, htarget]
        exact hlives targetId lifeId

/-- Parted frames have the same living, the source aside. -/
theorem Parted.alive_iff (h : Parted actorId s d) (hs : Coherent s.toWorld)
    (hd : Coherent d.toWorld) :
    ∀ entityId ≠ actorId, entityId ∈ s.aliveIds ↔ entityId ∈ d.aliveIds := by
  intro entityId hne
  rw [hs.mem_aliveIds, hd.mem_aliveIds, h.others entityId hne]

/-! ### Impacts -/

/-- A payload whose effects concern other entities than the one that released it, and are no
attacks. -/
def ScheduledItem.Unattended (item : ScheduledItem) : Prop :=
  match item.work with
  | .resolution binding effects _ => ∀ e ∈ effects, e.Avoids item.actorId binding
  | _ => False

theorem Coherent.take (hs : Coherent s.toWorld) (item : ScheduledItem) :
    Coherent (s.take item).toWorld :=
  hs.step (Dict.rel_refl .refl _)
    (Dict.rel_refl .refl _) (.take item rfl rfl)

theorem performItem_abreast (h : Abreast item.actorId s₀ d₀ s d) (hunattended : item.Unattended) :
    Agree (Abreast item.actorId s₀ d₀) (performItem cfg item s) (performItem cfg item d) := by
  unfold ScheduledItem.Unattended at hunattended
  split at hunattended
  · rename_i binding effects triggerKey hwork
    have hresolve : Impartial item.actorId s₀ d₀
        (resolve cfg (item.context binding triggerKey) effects : Exec (itemScope cfg item s) Unit)
        (resolve cfg (item.context binding triggerKey) effects : Exec (itemScope cfg item d) Unit) :=
      impartial_resolve (h.parted.alive_iff h.coherent h.coherent') hunattended
    unfold performItem itemProgram
    rw [hwork]
    apply (hresolve s d h).bind
    rintro x y ⟨_, hbeside⟩
    exact hbeside
  · exact hunattended.elim

/-- The deaths after an impact, and what they leave behind, are the same. -/
theorem afterImpact_abreast (h : Abreast actorId s₀ d₀ s d)
    (halive : ∀ entityId ≠ actorId, entityId ∈ alive ↔ entityId ∈ alive')
    (hlives : actorId ∈ alive → ¬ s₀.Dead actorId) (hlives' : actorId ∈ alive' → ¬ d₀.Dead actorId)
    :
    Agree (Abreast actorId s₀ d₀) (resolveDeaths cfg dueTime s >>= fun s =>
        (newlyDead alive s).foldlM (cleanupDeadActor cfg dueTime) s)
      (resolveDeaths cfg dueTime d >>= fun d =>
        (newlyDead alive' d).foldlM (cleanupDeadActor cfg dueTime) d) := by
  have hcoherent (f f' : Frame) (hf : Coherent f.toWorld)
      (hdeaths : resolveDeaths cfg dueTime f = .ok f') : Coherent f'.toWorld := by
    have hmoves : Moves ⟨cfg.tickDurationMs, ∅, dueTime⟩ f f' :=
      foldlM_moves (fun _ _ _ _ hdie => dieIfDue_moves rfl hdie) hdeaths
    exact hf.moves hmoves
  apply (h.toBeside.resolveDeaths.achieving
    (fun s' => hcoherent s s' h.coherent) (fun d' => hcoherent d d' h.coherent')).bind
  rintro s₁ d₁ ⟨h₁, hs₁, hd₁⟩
  have hsource : actorId ∈ alive → ¬ s₁.Dead actorId := by
    unfold Frame.Dead at hlives ⊢
    rwa [h₁.untouched]
  have hsource' : actorId ∈ alive' → ¬ d₁.Dead actorId := by
    unfold Frame.Dead at hlives' ⊢
    rwa [h₁.untouched']
  rw [h₁.newlyDead_eq halive hsource hsource']
  -- the dead of the list stay dead while they are cleaned up one after another
  apply (Agree.foldlM (R := fun s' d' => Abreast actorId s₀ d₀ s' d' ∧
    ∀ other ∈ newlyDead alive s₁, s'.Dead other) ?_ ⟨⟨h₁, hs₁, hd₁⟩, ?_⟩).mono
  · exact fun _ _ hboth => hboth.1
  · rintro other hother s' d' ⟨habreast, hdead⟩
    have hne : other ≠ actorId := by
      rintro rfl
      exact hsource (mem_newlyDead hother).1 (mem_newlyDead hother).2
    have hmoves (f f' : Frame) (hf : Coherent f.toWorld) (hfd : f.Dead other)
        (hclean : cleanupDeadActor cfg dueTime f other = .ok f') :
        Moves ⟨cfg.tickDurationMs, {other}, dueTime⟩ f f' :=
      cleanupDeadActor_moves rfl hf hfd (Finset.mem_singleton_self other) hclean
    have hdead' : d'.Dead other := (habreast.dead_iff hne).2 (hdead other hother)
    apply ((cleanupDeadActor_abreast habreast hne (hdead other hother)).achieving
      (fun s'' => hmoves s' s'' habreast.coherent (hdead other hother))
      (fun d'' => hmoves d' d'' habreast.coherent' hdead')).mono
    rintro s'' d'' ⟨hbeside, hs'', hd''⟩
    refine ⟨⟨hbeside, habreast.coherent.moves hs'', habreast.coherent'.moves hd''⟩, ?_⟩
    intro other' hother'
    exact (hdead other' hother').moves hs''
  · intro other hother
    exact (mem_newlyDead hother).2

/-- A detached payload that concerns others than its source does the same in parted frames. -/
theorem processItem_abreast (h : Abreast item.actorId s d s d) (hs : s.detached item = true)
    (hd : d.detached item = true) (hunattended : item.Unattended) :
    Agree (Beside item.actorId s d) (processItem cfg item s) (processItem cfg item d) := by
  unfold processItem
  rw [World.valid_of_detached hs, World.valid_of_detached hd, h.parted.targetLifeKept_eq item]
  split
  · exact h.toBeside
  · have hlives (f : Frame) (hf : Coherent f.toWorld) :
        item.actorId ∈ f.aliveIds → ¬ f.Dead item.actorId := by
      intro hin hdead
      obtain ⟨e, he, halive⟩ := hf.mem_aliveIds.1 hin
      obtain ⟨e', he', hdead⟩ := hdead
      obtain rfl : e = e' := Option.some.inj (he.symm.trans he')
      rw [halive] at hdead
      cases hdead
    apply (performItem_abreast h hunattended).bind
    intro s₁ d₁ h₁
    exact (afterImpact_abreast h₁ (h.parted.alive_iff h.coherent h.coherent') (hlives s h.coherent)
      (hlives d h.coherent')).mono (fun _ _ => Abreast.toBeside)

/-- An item in flight: its phase was released in an earlier frame of the run, and it is next. -/
structure Flight (cfg : Config rt) (item : ScheduledItem) (released s : Frame) : Prop where
  visited : Visited cfg released
  detached : released.detached item = true
  onward : Onward cfg released s
  next : ∃ untilMs, s.nextDue untilMs = some item

/-- **A payload in flight that concerns others than its source does the same at its impact,
whether the source has died since its release or not.** -/
theorem released_independent {released released' : Frame} (h : Flight cfg item released s)
    (h' : Flight cfg item released' d) (hparted : Parted item.actorId s d)
    (hunattended : item.Unattended) :
    Agree (fun s' d' => Parted item.actorId s' d' ∧ ReportsAlike s d s' d')
      (processItem cfg item (s.take item)) (processItem cfg item (d.take item)) := by
  have habreast : Abreast item.actorId (s.take item) (d.take item) (s.take item) (d.take item) :=
    { parted := { hparted with }
      reports := ⟨[], [], (List.append_nil _).symm, (List.append_nil _).symm, rfl⟩
      untouched := rfl
      untouched' := rfl
      coherent := (h.onward.coherent h.visited.coherent).take item
      coherent' := (h'.onward.coherent h'.visited.coherent).take item }
  have hdetached : s.detached item = true := h.onward.detached h.visited.coherent h.detached
  have hdetached' : d.detached item = true := h'.onward.detached h'.visited.coherent h'.detached
  apply (processItem_abreast habreast hdetached hdetached' hunattended).mono
  exact fun _ _ hbeside => ⟨hbeside.parted, hbeside.reports⟩

end Turns

/-! ## A dying archer -/

deriving instance DecidableEq for ActiveEffectState, EntityState

instance : DecidableEq ActionExecutionState := fun e e' =>
  decidable_of_iff (e.correlationId = e'.correlationId ∧ e.actorEntityId = e'.actorEntityId ∧
    e.actorLifeId = e'.actorLifeId ∧ e.targetLifeId = e'.targetLifeId ∧
    e.actionKey = e'.actionKey ∧ e.binding = e'.binding ∧ e.phaseIndex = e'.phaseIndex ∧
    e.phaseKind = e'.phaseKind ∧ e.phaseStartedAtMs = e'.phaseStartedAtMs ∧
    e.phaseEndsAtMs = e'.phaseEndsAtMs ∧ e.status = e'.status ∧
    e.phaseInterruptible = e'.phaseInterruptible ∧ e.movementAllowed = e'.movementAllowed ∧
    e.payloadReleaseStatus = e'.payloadReleaseStatus ∧
    e.releasedPhaseIndexes = e'.releasedPhaseIndexes ∧ e.cancelToken = e'.cancelToken ∧
    e.cancelOnDamage = e'.cancelOnDamage ∧ e.cancelOnStun = e'.cancelOnStun ∧
    e.pendingTriggeredEffects = e'.pendingTriggeredEffects ∧
    e.triggerPayloadScheduled = e'.triggerPayloadScheduled) (by
      rw [ActionExecutionState.mk.injEq])

/-- Whether an entity mirrors another. -/
def EntityState.mirrored (e e' : EntityState) : Bool :=
  decide (e'.entityId = e.entityId ∧ e'.lifeId = e.lifeId ∧ e'.kind = e.kind ∧
    e'.teamId = e.teamId ∧ e'.position = e.position ∧
    e'.scalars.erase "health" = e.scalars.erase "health" ∧ e'.tags = e.tags ∧
    e'.inventory = e.inventory ∧ e'.effects = e.effects ∧
    e'.stanceMultipliers = e.stanceMultipliers ∧ e'.stance = e.stance)

theorem EntityState.mirrors_of_mirrored {e e' : EntityState} (h : e.mirrored e' = true) :
    e.Mirrors e' := by
  obtain ⟨hentityId, hlifeId, hkind, hteamId, hposition, hscalars, htags, hinventory, heffects,
    hmultipliers, hstance⟩ := of_decide_eq_true h
  exact ⟨hentityId, hlifeId, hkind, hteamId, hposition,
    fun _ hkey => Dict.get?_eq_of_erase hscalars hkey, htags, hinventory, heffects, hmultipliers, hstance⟩

/-- The executions of other actors. -/
def Frame.otherExecutions (frame : Frame) (actorId : String) :
    Dict ExecutionKey ActionExecutionState :=
  frame.executions.filter (fun key _ => decide ((ofLex key).1 ≠ actorId))

/-- Whether frames are parted. -/
def Frame.parted (actorId : String) (s d : Frame) : Bool :=
  decide (d.entities.erase actorId = s.entities.erase actorId) &&
  decide (d.otherExecutions actorId = s.otherExecutions actorId) &&
  decide (d.random = s.random) && decide (d.nextScheduleOrder = s.nextScheduleOrder) &&
  match s.entities.get? actorId, d.entities.get? actorId with
  | some e, some e' => e.mirrored e' && !e.dying && !e'.dying
  | _, _ => false

theorem parted_of_test {actorId : String} {s d : Frame} (h : s.parted actorId d = true) :
    Parted actorId s d := by
  unfold Frame.parted at h
  simp only [Bool.and_eq_true, decide_eq_true_eq] at h
  obtain ⟨⟨⟨⟨hentities, hexecutions⟩, hrandom⟩, horder⟩, hsource⟩ := h
  constructor
  case others =>
    intro entityId hne
    exact Dict.get?_eq_of_erase hentities hne
  case source =>
    split at hsource
    · rename_i e e' he he'
      simp only [Bool.and_eq_true, Bool.not_eq_true'] at hsource
      exact ⟨e, e', he, he', EntityState.mirrors_of_mirrored hsource.1.1, hsource.1.2, hsource.2⟩
    · cases hsource
  case executions =>
    intro key hkey
    ext e
    have hfiltered (f : Frame) :
        (f.otherExecutions actorId).get? key = some e ↔ f.executions.get? key = some e := by
      rw [Frame.otherExecutions, Dict.get?_filter, decide_eq_true_eq]
      exact and_iff_left hkey
    show d.executions.get? key = some e ↔ s.executions.get? key = some e
    rw [← hfiltered d, ← hfiltered s, hexecutions]
  case random => exact hrandom
  case nextScheduleOrder => exact horder

/-- The harm of a stone, or of a poison. -/
def harm (amount : ℚ) (positive : 0 < amount) : DealDamage where
  subject := .target
  amount := .fixed amount positive
  damageType := .unknown
  known := by simp
  sourceKey_ok := identifier_of_mem_none

/-- The action of throwing a stone at an enemy. -/
def throwAction : ActionSpec :=
  { waitAction 100 with
    actionKey := "throw"
    targeting :=
      { kind := .entity
        allowedRelations := [.enemy]
        relations_nodup := nodup_enemy
        relations_iff := entity_iff
        minimum_nonneg := range_nonneg
        ordered := range_ordered }
    phases := [{
      kind := .active
      durationMs := 100
      effects := [.direct (.dealDamage (harm 1 one_pos))]
      delivery := .projectile 5 (by norm_num)
      recovery_ok := by simp }]
    actionKey_ok := by decide
    phases_ne := by simp
    weaponAttack_ok := by simp [waitAction]
    armedTrigger_ok := by simp [waitAction]
    cancel_ok := by simp [waitAction]
    actorArea_ok := by simp [areaEffects]
    targetArea_ok := by simp [areaEffects]
    hitRoll_ok := by simp [waitAction] }

/-- The action of shooting at an enemy. -/
def shootAction : ActionSpec :=
  { throwAction with
    actionKey := "shoot"
    phases := [{
      kind := .active
      durationMs := 100
      delivery := .projectile 5 (by norm_num)
      recovery_ok := by simp }]
    weaponAttack := some sword
    actionKey_ok := by decide
    phases_ne := by simp
    weaponAttack_ok := by simp [sword]
    armedTrigger_ok := by simp [throwAction, waitAction]
    cancel_ok := by simp [throwAction, waitAction]
    actorArea_ok := by simp [areaEffects]
    targetArea_ok := by simp [areaEffects]
    hitRoll_ok := by simp [throwAction, waitAction] }

/-- A poison that takes five points of health after two ticks. -/
def poison : ActiveEffectState where
  effectKey := "poison"
  sourceEntityId := "victim"
  magnitude := 1
  expiresAtMs := persistentExpiry
  modifiers := [.periodicPulse {
    periodicKey := "sting"
    intervalMs := 200
    tickCount := 1
    effects := [.dealDamage (harm 5 (by norm_num))]
    periodicKey_ok := by decide
    interval_pos := by norm_num
    count_pos := by norm_num
    effects_ne := by simp }]

/-- A poisoned archer and an enemy. -/
def volleySetup (health : ℚ) : Setup where
  catalog :=
    { actions := [throwAction, shootAction]
      keys_ok := ⟨by decide, by decide⟩
      triggers_ok := ⟨by decide, by decide⟩ }
  entities := [
    { waiter "archer" with
      teamId := some "a", actionKeys := ["throw", "shoot"]
      scalars := Dict.ofList [("health", health)]
      effects := Dict.ofList [("poison", poison)] },
    { waiter "victim" with
      teamId := some "b", actionKeys := [], position := ⟨1, 0⟩
      scalars := Dict.ofList [("health", 10)] }]
  seed := 0
  tickDurationMs := 100

/-- The decision to send something at the enemy. -/
def volleyDecision (index : ℕ) (actionKey : String) (actionKey_ok : Identifier actionKey) :
    DecisionMessage :=
  { waitDecision 0 "archer" "volley" with
    affordanceId := "affordance:" ++ decimal 0 ++ ":" ++ "archer" ++ ":" ++ padded 4 index
    actionKey := actionKey
    binding :=
      { actorId := "archer"
        targetKind := .entity
        targetEntityId := some "victim" }
    affordanceId_ok := by
      rw [String.append_assoc, String.append_assoc, String.append_assoc, String.append_assoc]
      exact identifier_append_left (by decide) _
    actionKey_ok := actionKey_ok
    binding_ok := rfl }


/-- The test of two volleys, of a strong archer and of a weak one, that go on for a tick. -/
def volleys (decision : DecisionMessage)
    (test : Config Runtime.sample → ScheduledItem → Frame → Frame → Bool) : Bool :=
  replays Runtime.sample (volleySetup 100) 8 [[decision]] fun cfg _ released =>
    replays Runtime.sample (volleySetup 5) 8 [[decision]] fun _ _ released' =>
      match step cfg 8 released [], step cfg 8 released' [] with
      | .ok (_, world), .ok (_, world') =>
        let s := Frame.advance cfg.tickDurationMs { world with }
        let d := Frame.advance cfg.tickDurationMs { world' with }
        match s.nextDue 300, d.nextDue 300 with
        | some item, some item' =>
          decide (item' = item) && decide (item.actorId = "archer") && released.detached item &&
            released'.detached item && s.parted "archer" d &&
            decide ((s.entities.get? "archer").map EntityState.alive = some true) &&
            decide ((released'.entities.get? "archer").map EntityState.alive = some true) &&
            decide ((d.entities.get? "archer").map EntityState.alive = some false) &&
            decide ((s.entities.get? "victim").map EntityState.alive = some true) &&
            test cfg item s d
        | _, _ => false
      | _, _ => false

/-- What a thrown stone does does not concern the archer. -/
def thrown (item : ScheduledItem) : Bool :=
  match item.work with
  | .resolution binding effects _ =>
    decide (effects = [.direct (.dealDamage (harm 1 one_pos))]) &&
      decide (boundId .target binding = some "victim") && decide (item.actorId ≠ "victim")
  | _ => false

/-- The shot of the strong archer alone hurts the victim. -/
def shot (cfg : Config Runtime.sample) (item : ScheduledItem) (s d : Frame) : Bool :=
  match item.work, processItem cfg item (s.take item), processItem cfg item (d.take item) with
  | .weaponAttack _ _, .ok s', .ok d' =>
    decide (s'.value "victim" "health" < 10) && decide (d'.value "victim" "health" = 10) &&
      decide (item.actorId ≠ "victim")
  | _, _, _ => false

theorem volleys_thrown :
    volleys (volleyDecision 1 "throw" (by decide)) (fun _ item _ _ => thrown item) = true := by
  decide +kernel

theorem volleys_shot : volleys (volleyDecision 0 "shoot" (by decide)) shot = true := by
  decide +kernel

/-- Two volleys at their impacts: both archers lived at the release, one has died since. -/
structure Volley (cfg : Config Runtime.sample) (item : ScheduledItem)
    (released released' s d : Frame) : Prop where
  flight : Flight cfg item released s
  flight' : Flight cfg item released' d
  parted : Parted item.actorId s d
  lives : (s.entities.get? item.actorId).map EntityState.alive = some true
  lived : (released'.entities.get? item.actorId).map EntityState.alive = some true
  died : (d.entities.get? item.actorId).map EntityState.alive = some false
  target : (s.entities.get? "victim").map EntityState.alive = some true

/-- Setups that differ in the scalars of an entity have one configuration. -/
theorem construct_cfg_eq {health health' : ℚ} {cfg cfg' : Config Runtime.sample}
    {start start' : World} (h : construct Runtime.sample (volleySetup health) none = .ok (cfg, start))
    (h' : construct Runtime.sample (volleySetup health') none = .ok (cfg', start')) : cfg' = cfg := by
  obtain ⟨_, _, hcatalog, htick, hdirections, hpositions, hlast, hteams, htargeting, _⟩ :=
    construct_eq_ok h
  obtain ⟨_, _, hcatalog', htick', hdirections', hpositions', hlast', hteams', htargeting', _⟩ :=
    construct_eq_ok h'
  have hsame : cfg'.directionCandidates = cfg.directionCandidates :=
    Except.ok.inj (hdirections'.symm.trans hdirections)
  cases cfg
  cases cfg'
  simp only [Config.mk.injEq]
  exact ⟨hcatalog'.trans hcatalog.symm, htick'.trans htick.symm, hsame,
    hpositions'.trans hpositions.symm, hlast'.trans hlast.symm, hteams'.trans hteams.symm,
    htargeting'.trans htargeting.symm⟩

theorem exists_volley {test : Config Runtime.sample → ScheduledItem → Frame → Frame → Bool}
    (h : volleys decision test = true) : ∃ cfg item released released' s d,
      Volley cfg item released released' s d ∧ test cfg item s d = true := by
  obtain ⟨cfg, events, released, hreplay, h⟩ := exists_of_replays h
  obtain ⟨cfg', events', released', hreplay', h⟩ := exists_of_replays h
  obtain rfl : cfg' = cfg := by
    obtain ⟨⟨built, start⟩, hbuilt, hrun⟩ := bind_eq_ok.1 hreplay
    obtain ⟨⟨built', start'⟩, hbuilt', hrun'⟩ := bind_eq_ok.1 hreplay'
    obtain ⟨_, _, hrun⟩ := bind_eq_ok.1 hrun
    obtain ⟨_, _, hrun'⟩ := bind_eq_ok.1 hrun'
    cases hrun
    cases hrun'
    exact construct_cfg_eq (orRaise_eq_ok.1 hbuilt) (orRaise_eq_ok.1 hbuilt')
  have hreached := replay_reachable hreplay
  have hreached' := replay_reachable hreplay'
  split at h
  · rename_i batch world batch' world' hstep hstep'
    dsimp only at h
    split at h
    · rename_i item item' hnext hnext'
      simp only [Bool.and_eq_true, decide_eq_true_eq] at h
      obtain ⟨⟨⟨⟨⟨⟨⟨⟨⟨rfl, hactor⟩, hdetached⟩, hdetached'⟩, hparted⟩, hlives⟩, hlived⟩, hdied⟩,
        htarget⟩, htest⟩ := h
      have hflies (first second : World) (batch : EventBatchMessage) {events : List Event}
          (hfirst : Reachable cfg' events first) (hsecond : step cfg' 8 first [] = .ok (batch, second)) :
          Onward cfg' { first with } (Frame.advance cfg'.tickDurationMs { second with }) := by
        have honward : Onward cfg' { first with } { second with } :=
          Onward.refl.step hfirst.coherent hsecond
        exact honward.advance
      refine ⟨cfg', item', { released with }, { released' with }, _, _, ⟨?_, ?_, ?_, ?_, ?_, ?_, htarget⟩, htest⟩
      · exact ⟨.boundary hreached, hdetached, hflies _ _ _ hreached hstep, 300, hnext⟩
      · exact ⟨.boundary hreached', hdetached', hflies _ _ _ hreached' hstep', 300, hnext'⟩
      · rw [hactor]
        exact parted_of_test hparted
      · rw [hactor]
        exact hlives
      · rw [hactor]
        exact hlived
      · rw [hactor]
        exact hdied
    · cases h
  · cases h

/-- The bolt of the dead archer does nothing, though it was on its way when the archer died. -/
theorem released_dropped : ∃ cfg item released released' s d,
    Volley cfg item released released' s d ∧
      (∃ binding attack, item.work = .weaponAttack binding attack) ∧
      ¬ Agree (fun s' d' => Parted item.actorId s' d' ∧ ReportsAlike s d s' d')
        (processItem cfg item (s.take item)) (processItem cfg item (d.take item)) := by
  obtain ⟨cfg, item, released, released', s, d, hvolley, hshot⟩ := exists_volley volleys_shot
  refine ⟨cfg, item, released, released', s, d, hvolley, ?_⟩
  unfold shot at hshot
  split at hshot
  · rename_i binding attack s' d' hwork hs' hd'
    simp only [Bool.and_eq_true, decide_eq_true_eq] at hshot
    obtain ⟨⟨hhit, hspared⟩, hne⟩ := hshot
    refine ⟨⟨binding, attack, hwork⟩, ?_⟩
    rw [hs', hd']
    rintro ⟨hparted, _⟩
    have hsame : d'.value "victim" "health" = s'.value "victim" "health" := by
      rw [Frame.value, hparted.others "victim" hne.symm, Frame.value]
    rw [hsame] at hspared
    exact absurd hspared (ne_of_lt hhit)
  · cases hshot

/-- A thrown stone hits alike, whether the archer has died since the throw or not. -/
theorem released_independent_thrown : ∃ cfg item released released' s d,
    Volley cfg item released released' s d ∧
      Agree (fun s' d' => Parted item.actorId s' d' ∧ ReportsAlike s d s' d')
        (processItem cfg item (s.take item)) (processItem cfg item (d.take item)) := by
  obtain ⟨cfg, item, released, released', s, d, hvolley, hthrown⟩ := exists_volley volleys_thrown
  refine ⟨cfg, item, released, released', s, d, hvolley,
    released_independent hvolley.flight hvolley.flight' hvolley.parted ?_⟩
  unfold thrown at hthrown
  split at hthrown
  · rename_i binding effects triggerKey hwork
    simp only [Bool.and_eq_true, decide_eq_true_eq] at hthrown
    obtain ⟨⟨heffects, htarget⟩, hne⟩ := hthrown
    unfold ScheduledItem.Unattended
    rw [hwork, heffects]
    intro e he
    rw [List.mem_singleton.1 he]
    intro subject hsubject
    rw [List.mem_singleton.1 hsubject, show (harm 1 one_pos).subject = .target from rfl, htarget]
    exact fun heq => hne (Option.some.inj heq).symm
  · cases hthrown

end ShadowbaneLab
