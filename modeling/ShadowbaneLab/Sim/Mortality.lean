/-
# What deaths come from

`resolve_deaths` ends the lives of the entities whose health is not positive, reading a missing
health as one; `_commit_damage` reads it as zero and writes what is left.  An entity whose health is
there and positive dies only if some command lowers it.
-/
import ShadowbaneLab.Sim.Runs
import ShadowbaneLab.Sim.Transfers

namespace ShadowbaneLab

open Foundation

variable {scope : Scope} {s s' : Frame} {entityId : String}

/-! ## Commands that write no scalar -/

/-- Whether an entity lives, and its scalars. -/
def Frame.vitals (frame : Frame) (entityId : String) : Option (Bool × Dict String ℚ) :=
  (frame.entities.get? entityId).map fun e => (e.alive, e.scalars)

variable {ctx : ItemContext}

namespace Frame

/-- A change of one entity that keeps its life and its scalars. -/
theorem vitals_modifyEntity (frame : Frame) (changedId : String) {f : EntityState → EntityState}
    (hf : ∀ e, ((f e).alive, (f e).scalars) = (e.alive, e.scalars)) :
    (frame.modifyEntity changedId f).vitals entityId = frame.vitals entityId := by
  show ((frame.entities.modify changedId f).get? entityId).map _ = _
  rw [Dict.get?_modify]
  by_cases hid : changedId = entityId
  · rw [if_pos hid, Option.map_map]
    exact congrArg (fun g => (frame.entities.get? entityId).map g) (funext hf)
  · rw [if_neg hid]
    rfl

theorem vitals_emit {tickDurationMs time : ℕ} {draft : EventDraft}
    (h : s.emit tickDurationMs time draft = .ok s') : s'.vitals entityId = s.vitals entityId := by
  obtain ⟨_, _, h⟩ := bind_eq_ok.1 h
  cases h
  rfl

theorem vitals_foldl_schedule (items : List ScheduledItem) (frame : Frame) :
    (items.foldl schedule frame).vitals entityId = frame.vitals entityId := by
  induction items generalizing frame with
  | nil => rfl
  | cons item items ih => exact ih (frame.schedule item)

variable {tickDurationMs dueTime : ℕ}

theorem vitals_endExecution {reason : String} {execution : ActionExecutionState}
    (h : s.endExecution tickDurationMs dueTime reason execution = .ok s') :
    s'.vitals entityId = s.vitals entityId :=
  vitals_emit (s := s.cancelExecution execution) h

theorem vitals_interruptActor {actorId : String} {trigger : InterruptTrigger}
    (h : s.interruptActor tickDurationMs dueTime actorId trigger =
      .ok s') : s'.vitals entityId = s.vitals entityId := by
  obtain ⟨actor, _, h⟩ := bind_eq_ok.1 h
  refine foldlM_preserves (P := fun t => t.vitals entityId = s.vitals entityId) ?_ rfl h
  intro t execution t' _ ht hended
  exact ((vitals_endExecution hended).trans (vitals_modifyEntity t actorId fun _ => rfl)).trans ht

theorem vitals_removeEffect {subjectId storageKey reason : String} {scalars : List NamedScalar}
    (h : s.removeEffect tickDurationMs dueTime subjectId storageKey ctx reason scalars = .ok s') :
    s'.vitals entityId = s.vitals entityId := by
  obtain ⟨subject, _, h⟩ := bind_eq_ok.1 h
  cases hrecord : subject.record? storageKey with
  | none =>
    rw [hrecord] at h
    cases h
  | some active =>
    rw [hrecord] at h
    exact (vitals_emit h).trans (vitals_modifyEntity s subjectId fun _ => rfl)

theorem vitals_installEffect {subjectId : String} {effect : ApplyEffect}
    (h : s.installEffect tickDurationMs dueTime subjectId effect ctx = .ok s') :
    s'.vitals entityId = s.vitals entityId := by
  obtain ⟨subject, _, h⟩ := bind_eq_ok.1 h
  obtain ⟨s₁, hreplaced, h⟩ := bind_eq_ok.1 h
  obtain ⟨s₂, hadded, h⟩ := bind_eq_ok.1 h
  cases h
  have hs₁ : s₁.vitals entityId = s.vitals entityId := by
    cases hrecord : subject.record? effect.storageKey with
    | none =>
      rw [hrecord] at hreplaced
      cases hreplaced
      rfl
    | some active =>
      rw [hrecord] at hreplaced
      exact vitals_emit hreplaced
  have hs₂ : s₂.vitals entityId = s₁.vitals entityId :=
    (vitals_emit hadded).trans (vitals_modifyEntity s₁ subjectId fun _ => rfl)
  exact (vitals_foldl_schedule _ s₂).trans (hs₂.trans hs₁)

end Frame

/-- Only an adjustment writes a scalar. -/
def Command.adjusts : Command scope → Bool
  | .adjust _ _ _ _ => true
  | _ => false

/-- Every other command keeps the lives and the scalars of all entities. -/
theorem vitals_execute {op : Command scope} {r : (commands scope).Result op}
    (hop : op.adjusts = false) (h : execute scope op s = .ok (r, s')) :
    s'.vitals entityId = s.vitals entityId := by
  cases op with
  | observe f free =>
    cases h
    rfl
  | installCount subject storageKey =>
    cases h
    rfl
  | draw f =>
    cases h
    rfl
  | emit draft allowed =>
    obtain ⟨s₁, hs₁, h⟩ := bind_eq_ok.1 h
    cases h
    exact Frame.vitals_emit hs₁
  | adjust subject key change key_ok => cases hop
  | alter subject change =>
    obtain ⟨e, _, h⟩ := bind_eq_ok.1 h
    cases h
    exact Frame.vitals_modifyEntity s subject.id fun e => by cases change <;> rfl
  | install subject effect ctx =>
    obtain ⟨s₁, hs₁, h⟩ := bind_eq_ok.1 h
    cases h
    exact Frame.vitals_installEffect hs₁
  | remove subject storageKey ctx reason scalars =>
    obtain ⟨s₁, hs₁, h⟩ := bind_eq_ok.1 h
    cases h
    exact Frame.vitals_removeEffect hs₁
  | moveItem source target itemId quantity itemId_ok positive =>
    obtain ⟨e, _, h⟩ := bind_eq_ok.1 h
    by_cases hlt : e.inventory.getD itemId 0 < quantity
    · rw [if_pos hlt] at h
      cases h
      rfl
    · rw [if_neg hlt] at h
      cases h
      have hgiven : (s.modifyEntity source.id (EntityState.addItem itemId (-quantity))).vitals
          entityId = s.vitals entityId := Frame.vitals_modifyEntity s source.id fun _ => rfl
      rw [← hgiven]
      exact Frame.vitals_modifyEntity _ target.id fun _ => rfl
  | interrupt subject trigger =>
    obtain ⟨s₁, hs₁, h⟩ := bind_eq_ok.1 h
    cases h
    exact Frame.vitals_interruptActor hs₁

/-! ## Programs that write no scalar -/

/-- A command that writes no scalar. -/
inductive Calm : (α : Type) → Exec scope α → Prop
  | command (op : Command scope) (calm : op.adjusts = false) :
      Calm ((commands scope).Result op) (call op)

section Calm

variable {α β : Type}

theorem call_calm (op : Command scope) (calm : op.adjusts = false) :
    Program.Composed Calm (call op) := .block (.command op calm)

variable (subject : Living scope)

theorem read_calm (f : EntityState → β) (hf : Intrinsic f) :
    Program.Composed Calm (read subject f hf) := by
  refine .bind (call_calm (.observe _ _) rfl) (fun found => ?_)
  cases found with
  | none => exact .raise _
  | some value => exact .pure value

theorem alter_calm (change : BodyChange) :
    Program.Composed Calm (alter subject change) := call_calm _ rfl

theorem emit_calm (draft : EventDraft) (allowed : draft.kind.reserved = false) :
    Program.Composed Calm (emit draft allowed : Exec scope Unit) := call_calm _ rfl

theorem removeStored_calm (storageKey : String) (ctx : ItemContext) (reason : String)
    (scalars : List NamedScalar) :
    Program.Composed Calm (removeStored subject storageKey ctx reason scalars) := call_calm _ rfl

theorem consumeAbsorber_calm (ctx : ItemContext) (subject : Living scope) (damageType : String)
    (absorber : String × EffectRecord) (absorbed : ℚ) :
    Program.Composed Calm (consumeAbsorber ctx subject damageType absorber absorbed) :=
  .bind (alter_calm _ _) (fun _ => .bind (emit_calm _ _) (fun _ =>
    .ite (removeStored_calm _ _ _ _ _) (.pure _)))

theorem accumulateBreakpoints_calm (ctx : ItemContext) (subject : Living scope)
    (storageKey : String) (amount : ℚ) (h : 0 ≤ amount) (modifiers : List DamageBreakpoint) :
    Program.Composed Calm (accumulateBreakpoints ctx subject storageKey amount h modifiers) := by
  induction modifiers with
  | nil => exact .pure _
  | cons modifier rest ih =>
    refine .bind (read_calm _ _ _) (fun stored => ?_)
    cases stored with
    | none => exact .raise _
    | some value =>
      exact .bind (alter_calm _ _) (fun _ => .ite (removeStored_calm _ _ _ _ _) ih)

theorem accumulateDamageBreakpoints_calm (ctx : ItemContext) (subject : Living scope)
    (damageType : DamageType) (amount : ℚ) (h : 0 ≤ amount) :
    Program.Composed Calm (accumulateDamageBreakpoints ctx subject damageType amount h) :=
  .bind (read_calm _ _ _) (fun _ => .forM (fun _ _ => accumulateBreakpoints_calm _ _ _ _ _ _))

theorem dropTravelStance_calm (ctx : ItemContext) (subject : Living scope) (reason : String) :
    Program.Composed Calm (dropTravelStance ctx subject reason) :=
  .bind (read_calm _ _ _) (fun _ => .ite
    (.bind (alter_calm _ _) (fun _ => emit_calm _ _)) (.pure _))

/-- A calm program keeps the lives and the scalars of all entities. -/
theorem vitals_calm {p : Exec scope α} {a : α} (hp : Program.Composed Calm p)
    (h : p.run (execute scope) s = .ok (a, s')) : s'.vitals entityId = s.vitals entityId := by
  refine hp.preserves (P := fun t => t.vitals entityId = s.vitals entityId) ?_ h rfl
  intro β q t t' b hq hrun ht
  cases hq with
  | command op calm =>
    have hop := (Program.run_command (execute scope) op t).symm.trans hrun
    exact (vitals_execute calm hop).trans ht

end Calm

/-! ## A transaction without damage -/

variable {subject : Living scope}

variable {e : EntityState}

/-- A reading answers what the entity has. -/
theorem read_eq_ok {β : Type} {f : EntityState → β} {hf : Intrinsic f} {value : β}
    (hfound : s.entities.get? subject.id = some e)
    (h : (read subject f hf).run (execute scope) s = .ok (value, s')) : value = f e ∧ s' = s := by
  rw [read, readKnown] at h
  obtain ⟨found, s₁, hentity, h⟩ := Program.run_bind_eq_ok.1 h
  have hentity := (Program.run_command (execute scope) _ s).symm.trans hentity
  cases hentity
  dsimp only at h
  rw [hfound] at h
  cases h
  exact ⟨rfl, rfl⟩

variable {transaction : DamageTransaction}

variable {resolution : DamageResolution}

/-- What a commit leaves of the scalars: the health is written, and nothing else. -/
theorem vitals_commitDamage (hfound : s.entities.get? subject.id = some e)
    (habsorbed : totalAbsorbed (absorptionPlan transaction.postResistance
      (absorbers transaction.damageType e)) = transaction.postResistance)
    (h : (commitDamage ctx subject transaction).run (execute scope) s = .ok (resolution, s')) :
    s'.vitals subject.id =
      some (e.alive, e.scalars.set "health" (max 0 (e.scalars.getD "health" 0))) := by
  rw [commitDamage] at h
  obtain ⟨available, s₁, hread, h⟩ := Program.run_bind_eq_ok.1 h
  obtain ⟨havailable, hs₁⟩ := read_eq_ok hfound hread
  rw [havailable, hs₁] at h
  obtain ⟨_, s₂, habsorb, h⟩ := Program.run_bind_eq_ok.1 h
  have hs₂ : s₂.vitals subject.id = some (e.alive, e.scalars) := by
    refine (vitals_calm (.forM fun _ _ => consumeAbsorber_calm _ _ _ _ _) habsorb).trans ?_
    rw [Frame.vitals, hfound]
    rfl
  obtain ⟨pair, s₃, hadjust, h⟩ := Program.run_bind_eq_ok.1 h
  obtain ⟨e', hfound', -, hs₃⟩ := adjust_eq_ok hadjust
  rw [Frame.vitals, hfound'] at hs₂
  have hvitals : (e'.alive, e'.scalars) = (e.alive, e.scalars) := Option.some.inj hs₂
  refine (vitals_calm ?afterwards h).trans ?_
  case afterwards =>
    -- what comes after the health is written
    refine .bind (.ofExcept _) (fun _ => .bind (emit_calm _ _) (fun _ => ?_))
    -- the rest of the commit follows the breakpoints on every path
    extract_lets answer finish
    have hfinish (u : PUnit) : Program.Composed Calm (finish u) :=
      .ite (.bind (dropTravelStance_calm _ _ _) (fun _ =>
        .bind (call_calm (.interrupt subject .damage) rfl) (fun _ => .pure _))) (.pure _)
    cases transaction.breakpointDamageType with
    | none => exact hfinish ()
    | some damageType =>
      exact .ite (.bind (accumulateDamageBreakpoints_calm _ _ _ _ _) (fun _ => hfinish ()))
        (hfinish ())
  rw [Frame.vitals, hs₃, Dict.get?_modify_self, hfound']
  obtain ⟨halive, hscalars⟩ := Prod.mk.inj hvitals
  show some (e'.alive, e'.scalars.set "health" (max 0 (e'.scalar "health" - _))) = _
  rw [halive, EntityState.scalar, hscalars, habsorbed, sub_self, sub_zero]

/-! ## The sweep of deaths -/

/-- What the sweep makes of a life. -/
def swept (vitals : Bool × Dict String ℚ) : Bool × Dict String ℚ :=
  (vitals.1 && decide (0 < vitals.2.getD "health" 1), vitals.2)

theorem swept_swept (vitals : Bool × Dict String ℚ) : swept (swept vitals) = swept vitals := by
  rw [swept, swept, Bool.and_assoc, Bool.and_self]

section Sweep

variable {rt : Runtime} {cfg : Config rt} {dueTime : ℕ}

theorem vitals_dieIfDue {dyingId : String} (h : dieIfDue cfg dueTime s dyingId = .ok s') :
    s'.vitals entityId =
      if dyingId = entityId then (s.vitals entityId).map swept else s.vitals entityId := by
  obtain ⟨e, he, h⟩ := bind_eq_ok.1 h
  have hfound : s.entities.get? dyingId = some e := by
    rw [Frame.entity] at he
    cases hget : s.entities.get? dyingId with
    | none =>
      rw [hget] at he
      cases he
    | some e' =>
      rw [hget] at he
      cases he
      rfl
  by_cases hid : dyingId = entityId
  · subst hid
    rw [if_pos rfl]
    have hvitals : s.vitals dyingId = some (e.alive, e.scalars) := by
      rw [Frame.vitals, hfound]
      rfl
    rw [hvitals]
    by_cases hdying : e.dying = true
    · rw [if_pos hdying] at h
      refine (Frame.vitals_emit h).trans ?_
      show ((s.entities.modify dyingId _).get? dyingId).map _ = _
      rw [Dict.get?_modify_self, hfound]
      rw [EntityState.dying, Bool.and_eq_true, decide_eq_true_eq] at hdying
      show some (false, e.scalars) = some (swept (e.alive, e.scalars))
      rw [swept, decide_eq_false (not_lt.2 hdying.2), Bool.and_false]
    · rw [if_neg hdying] at h
      cases h
      rw [hvitals]
      show some (e.alive, e.scalars) = some (swept (e.alive, e.scalars))
      rw [EntityState.dying] at hdying
      cases halive : e.alive with
      | false => rfl
      | true =>
        rw [halive, Bool.true_and, decide_eq_true_eq, not_le] at hdying
        rw [swept, decide_eq_true hdying, Bool.and_true]
  · rw [if_neg hid]
    by_cases hdying : e.dying = true
    · rw [if_pos hdying] at h
      refine (Frame.vitals_emit h).trans ?_
      show ((s.entities.modify dyingId _).get? entityId).map _ = _
      rw [Dict.get?_modify_ne _ _ hid]
      rfl
    · rw [if_neg hdying] at h
      cases h
      rfl

/-- One turn for each entity, in any order, and the same again for those that come twice. -/
theorem vitals_sweep {l : List String} (h : l.foldlM (dieIfDue cfg dueTime) s = .ok s') :
    s'.vitals entityId = if entityId ∈ l then (s.vitals entityId).map swept
      else s.vitals entityId := by
  induction l generalizing s with
  | nil =>
    cases h
    rw [if_neg List.not_mem_nil]
  | cons dyingId l ih =>
    rw [List.foldlM_cons] at h
    obtain ⟨s₁, h₁, h⟩ := bind_eq_ok.1 h
    have h₁ : s₁.vitals entityId = _ := vitals_dieIfDue h₁
    rw [ih h, h₁]
    by_cases hid : dyingId = entityId
    · subst hid
      have hswept : swept ∘ swept = swept := funext swept_swept
      rw [if_pos rfl, if_pos List.mem_cons_self, Option.map_map, hswept, ite_self]
    · rw [if_neg hid]
      by_cases hmem : entityId ∈ l
      · rw [if_pos hmem, if_pos (List.mem_cons_of_mem _ hmem)]
      · rw [if_neg hmem, if_neg]
        intro h
        exact (List.mem_cons.1 h).elim (fun heq => hid heq.symm) hmem

theorem vitals_resolveDeaths (h : resolveDeaths cfg dueTime s = .ok s') :
    s'.vitals entityId = (s.vitals entityId).map swept := by
  rw [vitals_sweep h]
  by_cases hmem : entityId ∈ s.entities.sortedKeys
  · rw [if_pos hmem]
  · rw [if_neg hmem]
    have hnone : s.entities.get? entityId = none := by
      rw [Dict.mem_sortedKeys, Dict.mem_keys_iff] at hmem
      cases hget : s.entities.get? entityId with
      | none => rfl
      | some e => exact absurd ⟨e, hget⟩ hmem
    rw [Frame.vitals, hnone]
    rfl

/-- **A transaction that takes nothing spares exactly those who have health.** -/
theorem spared_iff {s'' : Frame} (hfound : s.entities.get? subject.id = some e)
    (halive : e.alive = true) (habsorbed : totalAbsorbed (absorptionPlan transaction.postResistance
      (absorbers transaction.damageType e)) = transaction.postResistance)
    (hcommit : (commitDamage ctx subject transaction).run (execute scope) s =
      .ok (resolution, s'))
    (hdeaths : resolveDeaths cfg dueTime s' = .ok s'') :
    (∃ e', s''.entities.get? subject.id = some e' ∧ e'.alive = true) ↔
      ∃ health, e.scalars.get? "health" = some health ∧ 0 < health := by
  have hvitals : s''.vitals subject.id = _ := vitals_resolveDeaths hdeaths
  rw [vitals_commitDamage hfound habsorbed hcommit, halive] at hvitals
  have hhealth : 0 < (e.scalars.set "health" (max 0 (e.scalars.getD "health" 0))).getD "health" 1 ↔
      ∃ health, e.scalars.get? "health" = some health ∧ 0 < health := by
    rw [Dict.getD, Dict.get?_set_self, Option.getD_some, lt_max_iff,
      or_iff_right (lt_irrefl (0 : ℚ)), Dict.getD]
    cases hget : e.scalars.get? "health" with
    | none =>
      -- nothing where the commit reads nothing
      constructor
      · intro h
        exact absurd h (lt_irrefl 0)
      · rintro ⟨_, ⟨⟩, -⟩
    | some health =>
      constructor
      · exact fun h => ⟨health, rfl, h⟩
      · rintro ⟨_, ⟨⟩, h⟩
        exact h
  rw [Frame.vitals] at hvitals
  cases hget : s''.entities.get? subject.id with
  | none =>
    rw [hget] at hvitals
    cases hvitals
  | some e'' =>
    rw [hget] at hvitals
    have hlife : e''.alive = decide (0 < (e.scalars.set "health"
        (max 0 (e.scalars.getD "health" 0))).getD "health" 1) := by
      rw [(Prod.mk.inj (Option.some.inj hvitals)).1]
      rfl
    rw [← hhealth, ← decide_eq_true_iff (p := 0 < _), ← hlife]
    constructor
    · rintro ⟨_, ⟨⟩, h⟩
      exact h
    · exact fun h => ⟨e'', rfl, h⟩

end Sweep

/-! ## The commands of a run -/

section Steps

variable {rt : Runtime} (cfg : Config rt)

/-- The actor in the scope of a start. -/
def startActor (nowMs : ℕ) (agentId : String) : Living (startScope cfg nowMs agentId) :=
  ⟨agentId, Finset.mem_singleton_self agentId⟩

/-- The commands that the start of an action executes. -/
def startSteps (frame : Frame) (admitted : DecisionMessage × ActionSpec) : List (Frame × Frame) :=
  let (decision, action) := admitted
  let scope := startScope cfg frame.nowMs decision.agentId
  let actor := startActor cfg frame.nowMs decision.agentId
  let ctx := decision.context action
  (commitActor ctx actor action).steps (execute scope) frame ++
    match (do
      let committed ← frame.perform (commitActor ctx actor action)
      committed.emit cfg.tickDurationMs frame.nowMs (startedDraft decision action)) with
    | .error _ => []
    | .ok reported =>
      (consumeActionStartTriggers cfg.catalog ctx actor action).steps (execute scope) reported

/-- The commands of all starts, one after the other. -/
def startsSteps : List (DecisionMessage × ActionSpec) → Frame → List (Frame × Frame)
  | [], _ => []
  | admitted :: rest, frame => startSteps cfg frame admitted ++
    match startAction cfg frame admitted with
    | .error _ => []
    | .ok frame => startsSteps rest frame

/-- The commands of one turn of the queue. -/
def itemSteps (item : ScheduledItem) (frame : Frame) : List (Frame × Frame) :=
  if !frame.scheduledItemIsValid item then []
  else (itemProgram cfg (itemScope cfg item frame) item).steps
    (execute (itemScope cfg item frame)) frame

/-- The commands of `_process_due`. -/
def dueSteps (untilMs : ℕ) : ℕ → Frame → List (Frame × Frame)
  | 0, _ => []
  | fuel + 1, frame =>
    match frame.nextDue untilMs with
    | none => []
    | some item => itemSteps cfg item (frame.take item) ++
      match processItem cfg item (frame.take item) with
      | .error _ => []
      | .ok frame => dueSteps untilMs fuel frame

/-- The commands of the part of `step` that processes the queue. -/
def queueSteps (fuel : ℕ) (frame : Frame) : List (Frame × Frame) :=
  dueSteps cfg frame.nowMs fuel frame ++
    match processDue cfg frame.nowMs fuel frame with
    | .error _ => []
    | .ok drained => dueSteps cfg (drained.advance cfg.tickDurationMs).nowMs fuel
      (drained.advance cfg.tickDurationMs)

/-- The commands of `step`. -/
def stepSteps (fuel : ℕ) (world : World) (decisions : List DecisionMessage) :
    List (Frame × Frame) :=
  let admitted := accepted (verdicts cfg world decisions)
  match (rejections (verdicts cfg world decisions)).foldlM (reject cfg) { world with } with
  | .error _ => []
  | .ok frame => startsSteps cfg admitted frame ++
    match admitted.foldlM (startAction cfg) frame with
    | .error _ => []
    | .ok started => queueSteps cfg fuel started

/-- The commands that a run has executed on the way to a world. -/
inductive Executes (start : World) : List (Frame × Frame) → World → Prop
  | refl : Executes start [] start
  | step {steps : List (Frame × Frame)} {world world' : World} {fuel : ℕ}
      {decisions : List DecisionMessage} {truncated : Bool} {batch : EventBatchMessage}
      (run : Executes start steps world)
      (stepped : step cfg fuel world decisions truncated = .ok (batch, world')) :
      Executes start (steps ++ stepSteps cfg fuel world decisions) world'

end Steps

/-! ## Lost health -/

/-- An entity is alive with positive health. -/
def Hale (entityId : String) (frame : Frame) : Prop :=
  ∃ scalars health, frame.vitals entityId = some (true, scalars) ∧
    scalars.get? "health" = some health ∧ 0 < health

/-- A command took the last health of an entity. -/
def Lowers (entityId : String) (x : Frame × Frame) : Prop :=
  0 < x.1.value entityId "health" ∧ x.2.value entityId "health" ≤ 0

theorem Hale.of_vitals (hs : Hale entityId s) (h : s'.vitals entityId = s.vitals entityId) :
    Hale entityId s' := by
  obtain ⟨scalars, health, hvitals, hhealth⟩ := hs
  exact ⟨scalars, health, h.trans hvitals, hhealth⟩

/-- Only a command that takes the last health ends it. -/
theorem Hale.of_execute {op : Command scope} {r : (commands scope).Result op} (hs : Hale entityId s)
    (h : execute scope op s = .ok (r, s')) : Hale entityId s' ∨ Lowers entityId (s, s') := by
  by_cases hop : op.adjusts = false
  · exact .inl (hs.of_vitals (vitals_execute hop h))
  cases op with
  | adjust subject key change key_ok =>
    obtain ⟨e, he, h⟩ := bind_eq_ok.1 h
    cases h
    obtain ⟨scalars, health, hvitals, hhealth, hpos⟩ := hs
    by_cases hid : subject.id = entityId
    · subst hid
      obtain ⟨e', hfound, heq⟩ := Option.map_eq_some_iff.1 hvitals
      obtain ⟨halive, hscalars⟩ := Prod.mk.inj heq
      have hget : (s.modifyEntity subject.id (EntityState.adjust key change)).entities.get?
          subject.id = some (e'.adjust key change) := by
        show (s.entities.modify subject.id _).get? subject.id = _
        rw [Dict.get?_modify_self, hfound]
        rfl
      by_cases hkey : key = "health"
      · subst hkey
        by_cases hafter : 0 < (e'.adjust "health" change).scalar "health"
        · left
          refine ⟨(e'.adjust "health" change).scalars, _, ?_, Dict.get?_set_self .., ?_⟩
          · rw [Frame.vitals, hget]
            show some (e'.alive, _) = _
            rw [halive]
          · rw [scalar_adjust] at hafter
            exact hafter
        · right
          constructor
          · show 0 < s.value subject.id "health"
            rw [Frame.value_eq hfound, EntityState.scalar, hscalars, Dict.getD, hhealth]
            exact hpos
          · show (s.modifyEntity subject.id _).value subject.id "health" ≤ 0
            rw [Frame.value_eq hget]
            exact not_lt.1 hafter
      · left
        refine ⟨(e'.adjust key change).scalars, health, ?_, ?_, hpos⟩
        · rw [Frame.vitals, hget]
          show some (e'.alive, _) = _
          rw [halive]
        · show (e'.scalars.set key _).get? "health" = _
          rw [Dict.get?_set_ne _ _ hkey, hscalars]
          exact hhealth
    · left
      refine ⟨scalars, health, ?_, hhealth, hpos⟩
      show ((s.entities.modify subject.id _).get? entityId).map _ = _
      rw [Dict.get?_modify_ne _ _ hid]
      exact hvitals
  | observe | installCount | draw | emit | alter | install | remove | moveItem | interrupt =>
    exact absurd rfl hop

theorem Hale.of_perform {α : Type} {program : Exec scope α} (hs : Hale entityId s)
    (h : s.perform program = .ok s') :
    Hale entityId s' ∨ ∃ x ∈ program.steps (execute scope) s, Lowers entityId x := by
  obtain ⟨⟨a, t⟩, hrun, h⟩ := bind_eq_ok.1 h
  cases h
  exact Program.run_preserves_or _ (fun op s r s' hop hs => hs.of_execute hop) hrun hs

/-! ## Lost health of runs -/

section Runs

variable {rt : Runtime} {cfg : Config rt}

theorem vitals_enterPhase (frame : Frame) (execution : ActionExecutionState) (action : ActionSpec)
    (phase : ActionPhase) (phaseIndex startedAtMs delay : ℕ) :
    (frame.enterPhase execution action phase phaseIndex startedAtMs delay).vitals entityId =
      frame.vitals entityId :=
  Frame.vitals_foldl_schedule _ _

theorem Hale.of_start {admitted : DecisionMessage × ActionSpec} (hs : Hale entityId s)
    (h : startAction cfg s admitted = .ok s') :
    Hale entityId s' ∨ ∃ x ∈ startSteps cfg s admitted, Lowers entityId x := by
  obtain ⟨decision, action⟩ := admitted
  obtain ⟨-, h⟩ := check_bind_eq_ok.1 h
  obtain ⟨s₁, h₁, h⟩ := bind_eq_ok.1 h
  obtain ⟨s₂, h₂, h⟩ := bind_eq_ok.1 h
  obtain ⟨⟨triggered, s₃⟩, h₃, h⟩ := bind_eq_ok.1 h
  obtain ⟨actor, -, h⟩ := bind_eq_ok.1 h
  obtain ⟨delay, rfl⟩ := scheduleActionPhase_eq_ok h
  change Frame.perform (commitActor _ (startActor cfg s.nowMs decision.agentId) action) s = _ at h₁
  rw [startSteps]
  rcases hs.of_perform h₁ with hs₁ | ⟨x, hx, hlowers⟩
  · have hs₂ : Hale entityId s₂ := hs₁.of_vitals (Frame.vitals_emit h₂)
    have hfires : Hale entityId s₃ ∨ ∃ x ∈ (consumeActionStartTriggers cfg.catalog
        (decision.context action) (startActor cfg s.nowMs decision.agentId) action).steps
          (execute (startScope cfg s.nowMs decision.agentId)) s₂, Lowers entityId x :=
      Program.run_preserves_or _ (fun op s r s' hop hs => hs.of_execute hop) h₃ hs₂
    rcases hfires with hs₃ | ⟨x, hx, hlowers⟩
    · exact .inl (hs₃.of_vitals (vitals_enterPhase ..))
    · refine .inr ⟨x, List.mem_append_right _ ?_, hlowers⟩
      rw [h₁, ok_bind, h₂]
      exact hx
  · exact .inr ⟨x, List.mem_append_left _ hx, hlowers⟩

theorem Hale.of_starts {admitted : List (DecisionMessage × ActionSpec)} (hs : Hale entityId s)
    (h : admitted.foldlM (startAction cfg) s = .ok s') :
    Hale entityId s' ∨ ∃ x ∈ startsSteps cfg admitted s, Lowers entityId x := by
  induction admitted generalizing s with
  | nil =>
    cases h
    exact .inl hs
  | cons first rest ih =>
    rw [List.foldlM_cons] at h
    obtain ⟨s₁, h₁, h⟩ := bind_eq_ok.1 h
    rw [startsSteps, h₁]
    rcases hs.of_start h₁ with hs₁ | ⟨x, hx, hlowers⟩
    · exact (ih hs₁ h).imp id fun ⟨x, hx, hlowers⟩ => ⟨x, List.mem_append_right _ hx, hlowers⟩
    · exact .inr ⟨x, List.mem_append_left _ hx, hlowers⟩

/-- The work that runs no program keeps the lives and the scalars. -/
theorem Hale.of_performItem {item : ScheduledItem} (hs : Hale entityId s)
    (h : performItem cfg item s = .ok s') :
    Hale entityId s' ∨ ∃ x ∈ (itemProgram cfg (itemScope cfg item s) item).steps
      (execute (itemScope cfg item s)) s, Lowers entityId x := by
  rw [performItem] at h
  cases hwork : item.work with
  | phaseRelease =>
    rw [hwork] at h
    cases h
    refine .inl (hs.of_vitals ?_)
    rw [releaseActionPhase]
    split
    · split <;> rfl
    · rfl
  | phaseTransition =>
    rw [hwork] at h
    refine .inl (hs.of_vitals ?_)
    dsimp only [transitionActionPhase] at h
    split at h
    · split at h
      · cases h
        rfl
      · obtain ⟨action, -, h⟩ := bind_eq_ok.1 h
        split at h
        · cases h
        · obtain ⟨delay, rfl⟩ := scheduleActionPhase_eq_ok h
          exact vitals_enterPhase ..
    · cases h
      rfl
  | completion =>
    rw [hwork] at h
    refine .inl (hs.of_vitals ?_)
    dsimp only [completeAction] at h
    split at h
    · exact Frame.vitals_emit h
    · rename_i execution hfound
      split at h
      · cases h
        rfl
      · refine (Frame.vitals_emit h).trans (Frame.vitals_modifyEntity _ item.actorId fun e => ?_)
        by_cases hlife : e.lifeId = execution.actorLifeId
        · rw [if_pos hlife]
        · rw [if_neg hlife]
  | effectExpiry slot =>
    rw [hwork] at h
    refine .inl (hs.of_vitals ?_)
    dsimp only [expireEffect] at h
    split at h
    · cases h
      rfl
    · exact Frame.vitals_removeEffect h
  | resolution | weaponAttack | effectPulse =>
    rw [hwork] at h
    exact hs.of_perform h

/-- Those who have health survive the sweep. -/
theorem Hale.of_resolveDeaths {dueTime : ℕ} (hs : Hale entityId s)
    (h : resolveDeaths cfg dueTime s = .ok s') : Hale entityId s' := by
  obtain ⟨scalars, health, hvitals, hhealth, hpos⟩ := hs
  refine ⟨scalars, health, ?_, hhealth, hpos⟩
  rw [vitals_resolveDeaths h, hvitals]
  show some (swept (true, scalars)) = _
  rw [swept, Bool.true_and, Dict.getD, hhealth, Option.getD_some, decide_eq_true hpos]

theorem vitals_cleanupDeadActor {dueTime : ℕ} {actorId : String}
    (h : cleanupDeadActor cfg dueTime s actorId = .ok s') :
    s'.vitals entityId = s.vitals entityId := by
  obtain ⟨actor, -, h⟩ := bind_eq_ok.1 h
  have hrest : (s.layToRest actorId dueTime).vitals entityId = s.vitals entityId :=
    Frame.vitals_modifyEntity s actorId fun _ => rfl
  refine foldlM_preserves (P := fun t => t.vitals entityId = s.vitals entityId) ?_ hrest h
  exact fun t execution t' _ ht hended => (Frame.vitals_endExecution hended).trans ht

theorem Hale.of_processItem {item : ScheduledItem} (hs : Hale entityId s)
    (h : processItem cfg item s = .ok s') :
    Hale entityId s' ∨ ∃ x ∈ itemSteps cfg item s, Lowers entityId x := by
  rw [processItem] at h
  rw [itemSteps]
  by_cases hvalid : (!s.scheduledItemIsValid item) = true
  · rw [if_pos hvalid] at h
    cases h
    exact .inl hs
  · rw [if_neg hvalid] at h ⊢
    obtain ⟨s₁, h₁, h⟩ := bind_eq_ok.1 h
    obtain ⟨s₂, h₂, h⟩ := bind_eq_ok.1 h
    refine (hs.of_performItem h₁).imp (fun hs₁ => ?_) id
    refine foldlM_preserves (P := Hale entityId) ?_ (hs₁.of_resolveDeaths h₂) h
    exact fun t actorId t' _ ht hclean => ht.of_vitals (vitals_cleanupDeadActor hclean)

theorem Hale.of_processDue {untilMs fuel : ℕ} (hs : Hale entityId s)
    (h : processDue cfg untilMs fuel s = .ok s') :
    Hale entityId s' ∨ ∃ x ∈ dueSteps cfg untilMs fuel s, Lowers entityId x := by
  induction fuel generalizing s with
  | zero =>
    rw [processDue] at h
    split at h
    · cases h
      exact .inl hs
    · cases h
  | succ fuel ih =>
    rw [processDue] at h
    rw [dueSteps]
    cases hnext : s.nextDue untilMs with
    | none =>
      rw [hnext] at h
      cases h
      exact .inl hs
    | some item =>
      rw [hnext] at h
      obtain ⟨s₁, h₁, h⟩ := bind_eq_ok.1 h
      have h₁ := orRaise_eq_ok.1 h₁
      have hs₁ : Hale entityId (s.take item) := hs.of_vitals rfl
      dsimp only
      rw [h₁]
      rcases hs₁.of_processItem h₁ with hs₁ | ⟨x, hx, hlowers⟩
      · rcases ih hs₁ h with hs' | ⟨x, hx, hlowers⟩
        · exact .inl hs'
        · exact .inr ⟨x, List.mem_append_right _ hx, hlowers⟩
      · exact .inr ⟨x, List.mem_append_left _ hx, hlowers⟩

theorem Hale.of_step {fuel : ℕ} {world world' : World} {decisions : List DecisionMessage}
    {truncated : Bool} {batch : EventBatchMessage} (hs : Hale entityId { world with })
    (h : step cfg fuel world decisions truncated = .ok (batch, world')) :
    Hale entityId { world' with } ∨
      ∃ x ∈ stepSteps cfg fuel world decisions, Lowers entityId x := by
  obtain ⟨s₀, s₁, s₂, s₃, hstages, -, rfl⟩ := step_eq_ok h
  have hs₀ : Hale entityId s₀ := by
    refine foldlM_preserves (P := Hale entityId) ?_ hs hstages.rejected
    exact fun t rejection t' _ ht hreject => ht.of_vitals (Frame.vitals_emit hreject)
  rw [stepSteps, hstages.rejected]
  dsimp only
  rw [hstages.started]
  dsimp only [queueSteps]
  rw [hstages.drained]
  rcases hs₀.of_starts hstages.started with hs₁ | ⟨x, hx, hlowers⟩
  · rcases hs₁.of_processDue hstages.drained with hs₂ | ⟨x, hx, hlowers⟩
    · have hadvanced : Hale entityId (s₂.advance cfg.tickDurationMs) := hs₂.of_vitals rfl
      rcases hadvanced.of_processDue hstages.done with hs₃ | ⟨x, hx, hlowers⟩
      · exact .inl (hs₃.of_vitals rfl)
      · exact .inr ⟨x, List.mem_append_right _ (List.mem_append_right _ hx), hlowers⟩
    · exact .inr ⟨x, List.mem_append_right _ (List.mem_append_left _ hx), hlowers⟩
  · exact .inr ⟨x, List.mem_append_left _ hx, hlowers⟩

theorem Hale.of_executes {start world : World} {steps : List (Frame × Frame)}
    (hs : Hale entityId { start with }) (h : Executes cfg start steps world) :
    Hale entityId { world with } ∨ ∃ x ∈ steps, Lowers entityId x := by
  induction h with
  | refl => exact .inl hs
  | step run stepped ih =>
    rcases ih with ih | ⟨x, hx, hlowers⟩
    · exact (ih.of_step stepped).imp id
        fun ⟨x, hx, hlowers⟩ => ⟨x, List.mem_append_right _ hx, hlowers⟩
    · exact .inr ⟨x, List.mem_append_left _ hx, hlowers⟩

/-- An entity has a health scalar, and it is positive. -/
def EntityState.HasHealth (entity : EntityState) : Prop :=
  ∃ health, entity.scalars.get? "health" = some health ∧ 0 < health

/-- **Those who have health die of lost health only**, in one transaction and in a whole run; and
a transaction that takes nothing kills those who have none. -/
theorem deaths_of_lost_health (cfg : Config rt) :
    (∀ {scope : Scope} {ctx : ItemContext} {subject : Living scope}
      {transaction : DamageTransaction} {resolution : DamageResolution} {e : EntityState}
      {dueTime : ℕ} {s s' s'' : Frame}, s.entities.get? subject.id = some e → e.alive = true →
      totalAbsorbed (absorptionPlan transaction.postResistance
        (absorbers transaction.damageType e)) = transaction.postResistance →
      (commitDamage ctx subject transaction).run (execute scope) s = .ok (resolution, s') →
      resolveDeaths cfg dueTime s' = .ok s'' →
      ((∃ e', s''.entities.get? subject.id = some e' ∧ e'.alive = true) ↔ e.HasHealth)) ∧
    ∀ {start world : World} {steps : List (Frame × Frame)} {entityId : String}
      {e e' : EntityState}, Executes cfg start steps world →
      start.entities.get? entityId = some e → e.alive = true → e.HasHealth →
      world.entities.get? entityId = some e' → e'.alive = false →
      ∃ x ∈ steps, Lowers entityId x := by
  refine ⟨fun hfound halive habsorbed hcommit hdeaths =>
    spared_iff hfound halive habsorbed hcommit hdeaths, ?_⟩
  intro start world steps entityId e e' hrun hfound halive hhealth hfound' hdead
  obtain ⟨health, hget, hpos⟩ := hhealth
  have hs : Hale entityId { start with } := by
    refine ⟨e.scalars, health, ?_, hget, hpos⟩
    show (start.entities.get? entityId).map _ = _
    rw [hfound]
    show some (e.alive, e.scalars) = _
    rw [halive]
  refine (hs.of_executes hrun).resolve_left ?_
  rintro ⟨scalars, _, hvitals, -⟩
  have hvitals : (world.entities.get? entityId).map (fun e => (e.alive, e.scalars)) = _ := hvitals
  rw [hfound'] at hvitals
  have hlife := (Prod.mk.inj (Option.some.inj hvitals)).1
  rw [hdead] at hlife
  cases hlife

end Runs

/-! ## Two blows that take nothing -/

theorem softBlow_nonneg : (0 : ℚ) ≤ 0 := le_refl 0

/-- A transaction of no damage. -/
def softBlow : DamageTransaction where
  damageType := "crush"
  requested := 0
  postResistance := 0
  requested_nonneg := softBlow_nonneg
  postResistance_nonneg := softBlow_nonneg
  breakpointAmount_nonneg := softBlow_nonneg

/-- A wall with some scalars, and the actor that strikes it. -/
def wallFrame (scalars : List (String × ℚ)) : Frame :=
  { drainFrame 0 0 with
    entities := Dict.ofList [("caster", manaHolder "caster" 0),
      ("target", { manaHolder "target" 0 with
        kind := .structure_, scalars := Dict.ofList scalars })] }

def wallConfig : Config Runtime.sample where
  catalog := waitCatalog 100
  tickDurationMs := 100
  directionCandidates := []
  tickDuration_pos := by decide

/-- The blow and the sweep run; `P` holds of the life of the wall. -/
theorem blow_run (scalars : List (String × ℚ)) (P : Bool → Bool)
    (h : (match (commitDamage drainContext drainTarget softBlow).run (execute drainScope)
        (wallFrame scalars) with
      | .ok (_, s') =>
        match resolveDeaths wallConfig 0 s' with
        | .ok s'' => (s''.entities.get? "target").any fun e => P e.alive
        | .error _ => false
      | .error _ => false) = true) :
    ∃ resolution s' s'' e, (commitDamage drainContext drainTarget softBlow).run
        (execute drainScope) (wallFrame scalars) = .ok (resolution, s') ∧
      resolveDeaths wallConfig 0 s' = .ok s'' ∧
        s''.entities.get? "target" = some e ∧ P e.alive = true := by
  split at h
  · rename_i resolution s' hcommit
    split at h
    · rename_i s'' hdeaths
      rw [Option.any_eq_true] at h
      obtain ⟨e, hfound, halive⟩ := h
      exact ⟨resolution, s', s'', e, hcommit, hdeaths, hfound, halive⟩
    · cases h
  · cases h

/-- A wall without a health scalar falls under a blow that takes nothing. -/
theorem wall_falls : ∃ resolution s' s'' e,
    (wallFrame []).entities.get? "target" = some { manaHolder "target" 0 with
      kind := .structure_, scalars := ∅ } ∧
    totalAbsorbed (absorptionPlan softBlow.postResistance (absorbers softBlow.damageType
      { manaHolder "target" 0 with kind := .structure_, scalars := ∅ })) =
        softBlow.postResistance ∧
    (commitDamage drainContext drainTarget softBlow).run (execute drainScope) (wallFrame []) =
      .ok (resolution, s') ∧
    resolveDeaths wallConfig 0 s' = .ok s'' ∧
    s''.entities.get? "target" = some e ∧ e.alive = false := by
  obtain ⟨resolution, s', s'', e, hcommit, hdeaths, hfound, halive⟩ :=
    blow_run [] (fun alive => !alive) (by decide +kernel)
  exact ⟨resolution, s', s'', e, rfl, rfl, hcommit, hdeaths, hfound,
    by simpa using halive⟩

theorem fatalItem_actorId : Identifier "caster" := by decide

theorem fatalItem_key : Identifier "strike" := by decide

/-- A blow that takes all of one health is due. -/
def fatalItem : ScheduledItem where
  dueTimeMs := 0
  order := 0
  actorId := "caster"
  correlationId := "strike"
  actionKey := "strike"
  work := .resolution { actorId := "caster", targetEntityId := some "target" }
    [.direct (.dealDamage {
      subject := .target
      amount := .fixed 1 (by decide)
      damageType := .crush
      known := nofun
      sourceKey_ok := by simp })] none
  actorId_ok := fatalItem_actorId
  correlationId_ok := fatalItem_key
  actionKey_ok := fatalItem_key

/-- A wall with one health, before a blow that takes it. -/
def siegeWorld : World := { (wallFrame [("health", 1)]).toWorld with scheduled := [fatalItem] }

theorem siege_step : ∃ batch world e, step wallConfig 8 siegeWorld [] = .ok (batch, world) ∧
    world.entities.get? "target" = some e ∧ e.alive = false := by
  have h : (match step wallConfig 8 siegeWorld [] with
      | .ok (_, world) => (world.entities.get? "target").any fun e => !e.alive
      | .error _ => false) = true := by
    decide +kernel
  split at h
  · rename_i batch world hstep
    rw [Option.any_eq_true] at h
    obtain ⟨e, hfound, halive⟩ := h
    exact ⟨batch, world, e, hstep, hfound, by simpa using halive⟩
  · cases h

/-- A wall with one health stands a blow that takes nothing, and falls to one that takes it. -/
theorem deaths_of_lost_health_wall :
    (∃ s' s'' e, resolveDeaths wallConfig 0 s' = .ok s'' ∧
      s''.entities.get? "target" = some e ∧ e.alive = true) ∧
    ∃ steps world, Executes wallConfig siegeWorld steps world ∧
      ∃ x ∈ steps, Lowers "target" x := by
  have hhealth : ({ manaHolder "target" 0 with
      kind := .structure_, scalars := Dict.ofList [("health", 1)] } : EntityState).HasHealth :=
    ⟨1, rfl, by norm_num⟩
  constructor
  · obtain ⟨resolution, s', s'', _, hcommit, hdeaths, -⟩ :=
      blow_run [("health", 1)] (fun alive => alive) (by decide +kernel)
    have hiff := (deaths_of_lost_health wallConfig).1 (e := { manaHolder "target" 0 with
      kind := .structure_, scalars := Dict.ofList [("health", 1)] }) rfl rfl rfl hcommit hdeaths
    obtain ⟨e, hfound, halive⟩ := hiff.2 hhealth
    exact ⟨s', s'', e, hdeaths, hfound, halive⟩
  · obtain ⟨batch, world, e, hstep, hfound, hdead⟩ := siege_step
    have hrun : Executes wallConfig siegeWorld _ world := .step .refl hstep
    exact ⟨_, world, hrun, (deaths_of_lost_health wallConfig).2 hrun rfl rfl hhealth hfound hdead⟩

end ShadowbaneLab
