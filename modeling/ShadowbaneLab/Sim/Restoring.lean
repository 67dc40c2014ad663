/-
# What a rejected restore leaves behind

`ReferenceEnvironment.restore` assigns the components of the environment one after another, and
validates the records of the snapshot between the assignments.  A record that is rejected after an
assignment leaves the components assigned before it.
-/
import ShadowbaneLab.Sim.Runs

namespace ShadowbaneLab

open Foundation

/-! ## Assignments -/

/-- Statements that assign attributes of an environment; a raise keeps what is assigned. -/
abbrev Assigning (α : Type) : Type := ExceptT Fault (StateM World) α

namespace Assigning

variable {α β : Type}

/-- An expression that assigns nothing. -/
def evaluate (x : Except Fault α) : Assigning α := ExceptT.mk (pure x)

/-- An assignment. -/
def assign (f : World → World) : Assigning Unit := modify f

/-- The outcome of some statements, and the world they leave. -/
def outcome (statements : Assigning α) (world : World) : Except Fault α × World :=
  statements.run.run world

theorem outcome_evaluate_bind (x : Except Fault α) (rest : α → Assigning β) (world : World) :
    (evaluate x >>= rest).outcome world = match x with
      | .ok value => (rest value).outcome world
      | .error fault => (.error fault, world) := by
  cases x with
  | ok value => rfl
  | error fault => rfl

theorem outcome_assign_bind (f : World → World) (rest : Unit → Assigning β) (world : World) :
    (assign f >>= rest).outcome world = (rest ()).outcome (f world) := rfl

end Assigning

namespace Restoring

open Assigning

variable {rt : Runtime} (cfg : Config rt) (snapshot : EnvironmentSnapshot) (world : World)

/-! ## The statements of `restore` -/

/-- `SimulationClock.restore`. -/
def restoreClock (clock : ClockSnapshot) : Assigning Unit := do
  evaluate (require (clock.tickDurationMs = cfg.tickDurationMs)
    (.valueError "snapshot tick duration does not match the clock"))
  assign (fun world => { world with tick := clock.tick })
  assign (fun world => { world with nowMs := clock.nowMs })

/-- The entities of a snapshot, validated. -/
def snapshotEntities : Except Fault (List EntityState) := do
  let entities ← snapshot.entities.mapM EntityState.fromSnapshot
  require (entities.map EntityState.entityId).Nodup
    (.configurationError "snapshot entity ids must be unique")
  validateEntityActions cfg.catalog entities
  pure entities

/-- Entities as the environment keeps them. -/
def keyedEntities (entities : List EntityState) : Dict String EntityState :=
  Dict.ofList (entities.map (fun e => (e.entityId, e)))

/-- The statements of `restore`, in their order. -/
def restoreInPlace : Assigning Unit := do
  restoreClock cfg snapshot.clock
  assign (fun world => { world with random := snapshot.random })
  let entities ← evaluate (snapshotEntities cfg snapshot)
  assign (fun world => { world with entities := keyedEntities entities })
  assign (fun world => { world with scheduled := snapshot.scheduled })
  let executions ← evaluate (snapshot.executions.mapM ActionExecutionState.fromSnapshot)
  assign (fun world =>
    { world with executions := Dict.ofList (executions.map (fun e => (e.key, e))) })
  assign (fun world => { world with cancelledTokens := snapshot.cancelledTokens.toFinset })
  assign (fun world => { world with nextScheduleOrder := snapshot.nextScheduleOrder })
  assign (fun world => { world with nextEventNumber := snapshot.nextEventNumber })

/-! ## What they leave -/

/-- The clock and the random state are those of the snapshot. -/
def withClock : World :=
  { world with
    tick := snapshot.clock.tick
    nowMs := snapshot.clock.nowMs
    random := snapshot.random }

/-- So are the entities and the schedule. -/
def withEntities (entities : List EntityState) : World :=
  { withClock snapshot world with
    entities := keyedEntities entities
    scheduled := snapshot.scheduled }

/-- And everything else. -/
def withExecutions (entities : List EntityState) (executions : List ActionExecutionState) : World :=
  { withEntities snapshot world entities with
    executions := Dict.ofList (executions.map (fun e => (e.key, e)))
    cancelledTokens := snapshot.cancelledTokens.toFinset
    nextScheduleOrder := snapshot.nextScheduleOrder
    nextEventNumber := snapshot.nextEventNumber }

/-- A clock of another tick duration is rejected before anything is assigned. -/
theorem outcome_of_clock (h : snapshot.clock.tickDurationMs ≠ cfg.tickDurationMs) :
    (restoreInPlace cfg snapshot).outcome world =
      (.error (.valueError "snapshot tick duration does not match the clock"), world) := by
  have hrequire : require (snapshot.clock.tickDurationMs = cfg.tickDurationMs)
      (.valueError "snapshot tick duration does not match the clock") = .error
        (.valueError "snapshot tick duration does not match the clock") := by
    rw [require, if_neg (by simpa using h)]
  rw [restoreInPlace, restoreClock, bind_assoc, outcome_evaluate_bind, hrequire]

/-- The statements after a clock of the same tick duration. -/
theorem outcome_restoreInPlace (h : snapshot.clock.tickDurationMs = cfg.tickDurationMs) :
    (restoreInPlace cfg snapshot).outcome world =
      match snapshotEntities cfg snapshot with
      | .error fault => (.error fault, withClock snapshot world)
      | .ok entities =>
        match snapshot.executions.mapM ActionExecutionState.fromSnapshot with
        | .error fault => (.error fault, withEntities snapshot world entities)
        | .ok executions => (.ok (), withExecutions snapshot world entities executions) := by
  have hrequire : require (snapshot.clock.tickDurationMs = cfg.tickDurationMs)
      (.valueError "snapshot tick duration does not match the clock") = .ok () := by
    rw [require, if_pos (by simpa using h)]
  rw [restoreInPlace, restoreClock, bind_assoc, outcome_evaluate_bind, hrequire]
  dsimp only
  rw [bind_assoc, outcome_assign_bind, outcome_assign_bind, outcome_assign_bind,
    outcome_evaluate_bind]
  cases snapshotEntities cfg snapshot with
  | error fault => rfl
  | ok entities =>
    dsimp only
    rw [outcome_assign_bind, outcome_assign_bind, outcome_evaluate_bind]
    cases snapshot.executions.mapM ActionExecutionState.fromSnapshot with
    | error fault => rfl
    | ok executions => rfl

/-- From every world they end as `restore` does. -/
theorem restore_eq : restore cfg snapshot =
    ((restoreInPlace cfg snapshot).outcome world).1.map
      fun _ => ((restoreInPlace cfg snapshot).outcome world).2 := by
  have hsequence : restore cfg snapshot = require
      (snapshot.clock.tickDurationMs = cfg.tickDurationMs)
      (.valueError "snapshot tick duration does not match the clock") >>= fun _ =>
        snapshotEntities cfg snapshot >>= fun entities =>
          snapshot.executions.mapM ActionExecutionState.fromSnapshot >>= fun executions =>
            pure (withExecutions snapshot world entities executions) := by
    simp only [restore, snapshotEntities, bind_assoc, pure_bind]
    rfl
  by_cases h : snapshot.clock.tickDurationMs = cfg.tickDurationMs
  · rw [hsequence, outcome_restoreInPlace cfg snapshot world h, require,
      if_pos (decide_eq_true h), ok_bind]
    cases snapshotEntities cfg snapshot with
    | error fault => rfl
    | ok entities =>
      dsimp only
      rw [ok_bind]
      cases snapshot.executions.mapM ActionExecutionState.fromSnapshot with
      | error fault => rfl
      | ok executions => rfl
  · rw [hsequence, outcome_of_clock cfg snapshot world h, require,
      if_neg (fun heq => h (of_decide_eq_true heq))]
    rfl

/-! ## All or nothing -/

/-- The clock and the random state are already those of the snapshot. -/
def SameClock : Prop :=
  snapshot.clock.tick = world.tick ∧ snapshot.clock.nowMs = world.nowMs ∧
    snapshot.random = world.random

/-- The entities and the schedule are already those of the snapshot. -/
def SameEntities (entities : List EntityState) : Prop :=
  keyedEntities entities = world.entities ∧ snapshot.scheduled = world.scheduled

/-- A rejected record comes after no assignment that changes anything. -/
def RejectsEarly : Prop :=
  snapshot.clock.tickDurationMs = cfg.tickDurationMs →
    match snapshotEntities cfg snapshot with
    | .error _ => SameClock snapshot world
    | .ok entities => (∀ record ∈ snapshot.executions,
        ∃ execution, ActionExecutionState.fromSnapshot record = .ok execution) ∨
      (SameClock snapshot world ∧ SameEntities snapshot world entities)

theorem withClock_eq_iff : withClock snapshot world = world ↔ SameClock snapshot world := by
  constructor
  · intro h
    exact ⟨congrArg World.tick h, congrArg World.nowMs h, congrArg World.random h⟩
  · rintro ⟨htick, hnow, hrandom⟩
    rw [withClock, htick, hnow, hrandom]

theorem withEntities_eq_iff (entities : List EntityState) :
    withEntities snapshot world entities = world ↔
      SameClock snapshot world ∧ SameEntities snapshot world entities := by
  constructor
  · intro h
    exact ⟨⟨congrArg World.tick h, congrArg World.nowMs h, congrArg World.random h⟩,
      congrArg World.entities h, congrArg World.scheduled h⟩
  · rintro ⟨hclock, hentities, hscheduled⟩
    rw [withEntities, (withClock_eq_iff snapshot world).2 hclock, hentities, hscheduled]

/-- All records of a list are read, or one is rejected. -/
theorem mapM_ok_iff {α β : Type} (f : α → Except Fault β) (l : List α) :
    (∃ values, l.mapM f = .ok values) ↔ ∀ a ∈ l, ∃ value, f a = .ok value := by
  induction l with
  | nil => exact ⟨fun _ => nofun, fun _ => ⟨[], rfl⟩⟩
  | cons a l ih =>
    rw [List.forall_mem_cons, ← ih, List.mapM_cons]
    constructor
    · rintro ⟨values, h⟩
      obtain ⟨value, hvalue, h⟩ := bind_eq_ok.1 h
      obtain ⟨rest, hrest, -⟩ := bind_eq_ok.1 h
      exact ⟨⟨value, hvalue⟩, rest, hrest⟩
    · rintro ⟨⟨value, hvalue⟩, rest, hrest⟩
      rw [hvalue, hrest]
      exact ⟨value :: rest, rfl⟩

/-- **A restore that raises changes nothing exactly if the rejected record comes after no
assignment that changes anything.** -/
theorem restore_whole_iff :
    (∀ fault, ((restoreInPlace cfg snapshot).outcome world).1 = .error fault →
      ((restoreInPlace cfg snapshot).outcome world).2 = world) ↔
    RejectsEarly cfg snapshot world := by
  unfold RejectsEarly
  by_cases h : snapshot.clock.tickDurationMs = cfg.tickDurationMs
  · rw [outcome_restoreInPlace cfg snapshot world h]
    simp only [h, forall_const]
    cases snapshotEntities cfg snapshot with
    | error fault =>
      dsimp only
      rw [← withClock_eq_iff]
      constructor
      · exact fun hwhole => hwhole fault rfl
      · exact fun hsame _ _ => hsame
    | ok entities =>
      dsimp only
      rw [← mapM_ok_iff, ← withEntities_eq_iff]
      cases snapshot.executions.mapM ActionExecutionState.fromSnapshot with
      | error fault =>
        constructor
        · exact fun hwhole => .inr (hwhole fault rfl)
        · rintro (⟨values, hvalues⟩ | hsame) _ _
          · cases hvalues
          · exact hsame
      | ok executions =>
        constructor
        · exact fun _ => .inl ⟨executions, rfl⟩
        · exact fun _ fault hraise => nomatch hraise
  · rw [outcome_of_clock cfg snapshot world h]
    constructor
    · exact fun _ hsame => absurd hsame h
    · exact fun _ _ _ => rfl

/-! ### A snapshot that lists an entity twice -/

/-- A later snapshot of a world, with each of its entities twice. -/
def doubled (cfg : Config Runtime.sample) (world : World) : EnvironmentSnapshot :=
  let taken := ShadowbaneLab.snapshot cfg world
  { taken with
    clock := { taken.clock with tick := world.tick + 1 }
    entities := taken.entities ++ taken.entities }

/-- The restore raises, and moves the clock. -/
def movesClock (cfg : Config Runtime.sample) (world : World) : Bool :=
  match (restoreInPlace cfg (doubled cfg world)).outcome world with
  | (.error fault, left) =>
    decide (fault = .configurationError "snapshot entity ids must be unique") &&
      decide (left.tick = world.tick + 1)
  | (.ok _, _) => false

theorem waitSetup_movesClock : replays Runtime.sample (waitSetup 100 ["a"]) 8 []
    (fun cfg events world => decide (events = []) && movesClock cfg world) = true := by
  decide +kernel

/-- The clock is moved by a restore that is rejected. -/
theorem restore_torn : ∃ (cfg : Config Runtime.sample) (world left : World),
    Reachable cfg [] world ∧
    (restoreInPlace cfg (doubled cfg world)).outcome world =
      (.error (.configurationError "snapshot entity ids must be unique"), left) ∧
    left ≠ world := by
  obtain ⟨cfg, events, world, hreplay, hworld⟩ := exists_of_replays waitSetup_movesClock
  simp only [Bool.and_eq_true, decide_eq_true_eq] at hworld
  obtain ⟨rfl, hmoves⟩ := hworld
  unfold movesClock at hmoves
  split at hmoves
  · rename_i fault left houtcome
    simp only [Bool.and_eq_true, decide_eq_true_eq] at hmoves
    obtain ⟨rfl, htick⟩ := hmoves
    refine ⟨cfg, world, left, replay_reachable hreplay, houtcome, ?_⟩
    rintro rfl
    omega
  · cases hmoves

/-- Such a restore would change nothing exactly if its clock were the world's. -/
theorem restore_whole_iff_doubled : ∃ (cfg : Config Runtime.sample) (world : World),
    Reachable cfg [] world ∧
    ((∀ fault, ((restoreInPlace cfg (doubled cfg world)).outcome world).1 = .error fault →
        ((restoreInPlace cfg (doubled cfg world)).outcome world).2 = world) ↔
      RejectsEarly cfg (doubled cfg world) world) := by
  obtain ⟨cfg, events, world, hreplay, hworld⟩ := exists_of_replays waitSetup_movesClock
  simp only [Bool.and_eq_true, decide_eq_true_eq] at hworld
  obtain ⟨rfl, -⟩ := hworld
  exact ⟨cfg, world, replay_reachable hreplay, restore_whole_iff cfg (doubled cfg world) world⟩

end Restoring

end ShadowbaneLab
