/-
# The order in which guards are taken

The loop of `run_guard_upgrade_job` as a relation between moments: it accounts for the cycle under
way, waits, or takes the next guard.  Guards that were never upgraded go first, and within a class
the cursor goes round: a due guard whose class is the best one due waits for every other guard at
most once.  Two guards that were never upgraded can keep an upgraded one waiting.
-/
import Mathlib.Algebra.Order.Group.Int
import Mathlib.Data.Int.ModEq
import ShadowbaneLab.Guard.Control

namespace ShadowbaneLab.Guard

open Foundation Fallible

/-! ## Rounds of the loop -/

/-- The job when no guard is due. -/
def Job.awaited (job : Job) : Job := if job.state ≠ .waiting then job.awaiting else job

/-- A job, and the time. -/
structure Moment where
  job : Job
  now : ℚ

/-- The guards of the area that are due. -/
def Moment.dueGuards (m : Moment) (count : ℕ) : List ℕ := m.job.due (m.job.remaining count) m.now

/-- A guard is taken for a cycle. -/
structure Choice extends Moment where
  index : ℕ

/-- What the loop does next, or time passes. -/
inductive Round (targets : List Target) : Moment → Option Choice → Moment → Prop
  | pass {m : Moment} {now : ℚ} (hnow : m.now ≤ now) : Round targets m none ⟨m.job, now⟩
  | account {m : Moment} {active : ActiveCycle} {target : Target} {cycle : Cycle} {job : Job}
      (hactive : m.job.activeCycle = some active) (htarget : targets[active.index]? = some target)
      (hcounted : applyCycle m.job active target m.now cycle = .ok job) :
      Round targets m none ⟨job, m.now⟩
  | wait {m : Moment} (hidle : m.job.activeCycle = none) (hshort : m.job.short = false)
      (hnone : m.job.next targets.length (m.dueGuards targets.length) = none) :
      Round targets m none ⟨m.job.awaited, m.now⟩
  | take {m : Moment} {index : ℕ} (cycleId : OperationId) (hidle : m.job.activeCycle = none)
      (hshort : m.job.short = false)
      (hnext : m.job.next targets.length (m.dueGuards targets.length) = some index) :
      Round targets m (some ⟨m, index⟩) ⟨m.job.checking ⟨cycleId, index⟩, m.now⟩

section Code

variable {i : ℕ} {job job' : Job} {s s' : Store} {targets : List Target}

theorem of_guarded {α : Type} {body : Program α} {a : α}
    (h : Returns s (guarded job body) s' (.ok a)) :
    ∃ s'', Returns s body s'' (.ok a) := by
  obtain ⟨s'', r, hbody, h⟩ := h.of_bind
  cases r with
  | ok a' =>
    cases Returns.of_result h
    exact ⟨s'', hbody.of_attempt⟩
  | error fault =>
    obtain ⟨_, _, -, h⟩ := h.of_bind
    cases Returns.of_result h

theorem of_store (h : Returns s (store job) s' (.ok job')) : job' = job := by
  obtain ⟨_, _, -, h⟩ := h.of_bind
  exact Except.ok.inj (Returns.of_result h)

theorem of_account {active : ActiveCycle} {target : Target}
    (h : Returns s (account job active target) s' (.ok job')) :
    ∃ now cycle, applyCycle job active target now cycle = .ok job' := by
  obtain ⟨_, counted, hcounted, h⟩ := h.of_bind
  obtain ⟨_, hcounted⟩ := of_guarded hcounted
  obtain ⟨_, now, -, hcounted⟩ := hcounted.of_bind
  obtain ⟨_, cycle, -, hcounted⟩ := hcounted.of_bind
  rw [of_store h]
  exact ⟨now, cycle, (Returns.of_result hcounted).symm⟩

/-- An iteration of the loop is a round at a reading of the clock; if it takes a guard, another one
follows at the reading when the cycle is accounted for. -/
theorem schedule_rounds (hidle : job.activeCycle = none)
    (h : Returns s (schedule i job targets) s' (.ok (job', true))) :
    ∃ now, Round targets ⟨job, now⟩ none ⟨job', now⟩ ∨
      ∃ choice running later, Round targets ⟨job, now⟩ (some choice) ⟨running, now⟩ ∧
        Round targets ⟨running, later⟩ none ⟨job', later⟩ := by
  unfold schedule at h
  obtain ⟨_, _, -, h⟩ := h.of_bind
  cases hshort : job.short with
  | true =>
    rw [if_pos hshort] at h
    obtain ⟨_, _, -, h⟩ := h.of_bind
    cases Returns.of_result h
  | false =>
    rw [if_neg (by simp [hshort])] at h
    dsimp only at h
    split at h
    · split at h <;>
      · obtain ⟨_, _, -, h⟩ := h.of_bind
        cases Returns.of_result h
    · obtain ⟨_, now, -, h⟩ := h.of_bind
      refine ⟨now, ?_⟩
      cases hnext : job.next targets.length (job.due (job.remaining targets.length) now) with
      | none =>
        rw [hnext] at h
        dsimp only at h
        have hawaited : job.awaited = job' := by
          unfold Job.awaited
          split at h
          case isTrue hstate =>
            obtain ⟨_, waiting, hwaiting, h⟩ := h.of_bind
            cases Returns.of_result h
            exact (if_pos hstate).trans (of_store hwaiting).symm
          case isFalse hstate =>
            obtain ⟨_, waiting, hwaiting, h⟩ := h.of_bind
            cases Returns.of_result h
            exact (if_neg hstate).trans (Except.ok.inj (Returns.of_result hwaiting)).symm
        exact .inl (hawaited ▸ .wait hidle hshort hnext)
      | some index =>
        rw [hnext] at h
        dsimp only at h
        cases htarget : targets[index]? with
        | none =>
          rw [htarget] at h
          obtain ⟨_, h⟩ := of_guarded h
          cases Returns.of_result h
        | some target =>
          rw [htarget] at h
          obtain ⟨_, guarded', hguard, h⟩ := h.of_bind
          cases Returns.of_result h
          unfold runGuard at hguard
          split at hguard
          · obtain ⟨_, hguard⟩ := of_guarded hguard
            cases Returns.of_result hguard
          · obtain ⟨_, _, -, hguard⟩ := hguard.of_bind
            obtain ⟨_, cycleId, -, hguard⟩ := hguard.of_bind
            obtain ⟨_, running, hrunning, hguard⟩ := hguard.of_bind
            rw [of_store hrunning] at hguard
            obtain ⟨_, _, -, hguard⟩ := hguard.of_bind
            obtain ⟨_, _, -, hguard⟩ := hguard.of_bind
            obtain ⟨later, cycle, hcounted⟩ := of_account hguard
            exact .inr ⟨_, _, later, .take cycleId hidle hshort hnext,
              .account rfl htarget hcounted⟩

end Code

/-- Rounds one after the other, with the guards they take. -/
inductive Run (targets : List Target) : Moment → List Choice → Moment → Prop
  | nil {m : Moment} : Run targets m [] m
  | cons {m m' m'' : Moment} {choice : Option Choice} {choices : List Choice}
      (hround : Round targets m choice m') (hrun : Run targets m' choices m'') :
      Run targets m (choice.toList ++ choices) m''

/-- The guard is due, and not the one whose cycle is under way. -/
def Moment.Due (m : Moment) (count g : ℕ) : Prop :=
  g ∈ m.dueGuards count ∧ ∀ active ∈ m.job.activeCycle, active.index ≠ g

/-- The job has upgraded the guard. -/
def Job.upgraded (job : Job) (i : ℕ) : Bool :=
  (job.guards[i]?).any fun g => 0 < g.upgradesStarted

/-- How far the cursor is before the guard. -/
def offset (n : ℕ) (cursor i : ℕ) : ℤ := ((i : ℤ) - cursor).emod n

/-- The guard taken does not go before this one by its class alone: it was upgraded if this one was,
or it is nearer to the cursor. -/
def Choice.Level (choice : Choice) (count g : ℕ) : Prop :=
  (choice.job.upgraded g → choice.job.upgraded choice.index) ∨
    offset count choice.job.cursor choice.index < offset count choice.job.cursor g

/-! ## Distances from the cursor -/

section Offset

variable {n cursor x g i : ℕ}

theorem offset_nonneg (hn : 0 < n) : 0 ≤ offset n cursor i := Int.emod_nonneg _ (by omega)

theorem offset_lt (hn : 0 < n) : offset n cursor i < n := Int.emod_lt_of_pos _ (by omega)

/-- Guards at the same distance are the same guard. -/
theorem offset_inj (hx : x < n) (hg : g < n) (h : offset n cursor x = offset n cursor g) :
    x = g := by
  have hdvd : (n : ℤ) ∣ ((x : ℤ) - cursor) - ((g : ℤ) - cursor) := Int.ModEq.dvd h.symm
  have hzero : ((x : ℤ) - cursor) - ((g : ℤ) - cursor) = 0 :=
    Int.eq_zero_of_abs_lt_dvd hdvd (by rw [abs_lt]; omega)
  omega

end Offset

/-! ## What a round changes -/

/-- An accounted cycle changes the progress of its guard only, and the cursor moves behind it. -/
theorem applyCycle_spec {job job' : Job} {active : ActiveCycle} {target : Target} {now : ℚ}
    {cycle : Cycle} (h : applyCycle job active target now cycle = .ok job') :
    (∃ guard, job'.guards = job.guards.set active.index guard) ∧
      job'.areaIndices = job.areaIndices ∧ job'.activeCycle = none ∧
      job'.cursor = (active.index + 1) % job.guards.length := by
  simp only [applyCycle] at h
  split at h
  · cases h
  · split at h
    · cases h
    · split at h
      · cases h
      · split at h
        · cases h
        · obtain rfl := Except.ok.inj h
          exact ⟨⟨_, rfl⟩, rfl, rfl, rfl⟩

theorem Job.awaited_spec (job : Job) : job.awaited.guards = job.guards ∧
    job.awaited.areaIndices = job.areaIndices ∧ job.awaited.activeCycle = job.activeCycle ∧
    job.awaited.cursor = job.cursor := by
  rw [Job.awaited]
  split <;> exact ⟨rfl, rfl, rfl, rfl⟩

/-- The place behind the guard taken last. -/
def Moment.mark (m : Moment) : ℕ :=
  match m.job.activeCycle with
  | some active => active.index + 1
  | none => m.job.cursor

variable {targets : List Target} {m m' : Moment} {choice : Option Choice}

/-- A job has a progress for each target, as `_validate_plan` requires. -/
def Moment.Sized (m : Moment) (targets : List Target) : Prop :=
  m.job.guards.length = targets.length

variable {g : ℕ}

/-- The accounts of a guard change when its cycle is accounted for, and only then. -/
theorem Round.guard_eq (h : Round targets m choice m')
    (hother : ∀ active ∈ m.job.activeCycle, active.index ≠ g) :
    m'.job.guards[g]? = m.job.guards[g]? ∧ m'.job.areaIndices = m.job.areaIndices := by
  cases h with
  | pass => exact ⟨rfl, rfl⟩
  | account hactive htarget hcounted =>
    obtain ⟨⟨guard, hguards⟩, harea, -⟩ := applyCycle_spec hcounted
    refine ⟨?_, harea⟩
    show (Job.guards _)[g]? = _
    rw [hguards, List.getElem?_set_ne (hother _ hactive)]
  | wait => exact ⟨congrArg (·[g]?) m.job.awaited_spec.1, m.job.awaited_spec.2.1⟩
  | take => exact ⟨rfl, rfl⟩

theorem mem_dueGuards {count g : ℕ} : g ∈ m.dueGuards count ↔
    g ∈ m.job.areaIndices.getD (List.range count) ∧
      (m.job.guards[g]?).any (fun p => p.state = .ready ∨ p.state = .waiting) ∧
      (m.job.guards[g]?).any (fun p => p.nextCheckAt ≤ m.now) := by
  rw [Moment.dueGuards, Job.due, Job.remaining, List.mem_filter, List.mem_filter, and_assoc]

theorem lt_of_mem_dueGuards (hsized : m.Sized targets) (hg : g ∈ m.dueGuards targets.length) :
    g < targets.length := by
  obtain ⟨-, hready, -⟩ := mem_dueGuards.1 hg
  obtain ⟨p, hp, -⟩ := (Option.any_eq_true _ _).1 hready
  exact hsized ▸ (List.getElem?_eq_some_iff.1 hp).1

theorem Round.now_le (h : Round targets m choice m') : m.now ≤ m'.now := by
  cases h with
  | pass hnow => exact hnow
  | account | wait | take => exact le_rfl

/-- A due guard stays due as long as another one is taken. -/
theorem Round.due (h : Round targets m choice m') (hdue : m.Due targets.length g)
    (hother : ∀ c ∈ choice, c.index ≠ g) : m'.Due targets.length g := by
  obtain ⟨hguard, harea⟩ := h.guard_eq hdue.2
  constructor
  · obtain ⟨hmem, hready, hcheck⟩ := mem_dueGuards.1 hdue.1
    refine mem_dueGuards.2 ⟨harea ▸ hmem, hguard ▸ hready, ?_⟩
    obtain ⟨p, hp, hle⟩ := (Option.any_eq_true _ _).1 hcheck
    rw [hguard, hp]
    exact decide_eq_true ((of_decide_eq_true hle).trans h.now_le)
  · cases h with
    | pass => exact hdue.2
    | account hactive htarget hcounted =>
      obtain ⟨-, -, hidle, -⟩ := applyCycle_spec hcounted
      intro active hactive'
      rw [hidle] at hactive'
      cases hactive'
    | wait hidle =>
      intro active hactive'
      exact hdue.2 active (m.job.awaited_spec.2.2.1 ▸ hactive')
    | take =>
      intro active hactive'
      cases hactive'
      exact hother _ rfl

theorem priority_cast {job : Job} {count i : ℕ} (hcount : 0 < count) :
    (job.priority count i : ℤ) =
      (if job.upgraded i then count else 0 : ℕ) + offset count job.cursor i :=
  Int.toNat_of_nonneg (add_nonneg (Int.natCast_nonneg _) (offset_nonneg hcount))

/-- Of the due guards of a class, the next one is the nearest. -/
theorem offset_next_lt {job : Job} {count x g : ℕ} {due : List ℕ}
    (hnext : job.next count due = some x) (hg : g ∈ due) (hne : x ≠ g) (hx : x < count)
    (hgn : g < count) (hlevel : job.upgraded g → job.upgraded x) :
    offset count job.cursor x < offset count job.cursor g := by
  have hcount : 0 < count := Nat.zero_lt_of_lt hx
  have hle : (job.priority count x : ℤ) ≤ job.priority count g :=
    Int.ofNat_le.2 (List.le_of_mem_argmin hg hnext)
  rw [priority_cast hcount, priority_cast hcount] at hle
  have hxn := @offset_nonneg count job.cursor x hcount
  have hgl := @offset_lt count job.cursor g hcount
  refine lt_of_le_of_ne ?_ fun heq => hne (offset_inj hx hgn heq)
  by_cases hup : job.upgraded g
  · rw [if_pos hup, if_pos (hlevel hup)] at hle
    omega
  · rw [if_neg hup] at hle
    split at hle <;> omega

/-- A guard is taken before another one of its class because it is nearer. -/
theorem Round.taken {c : Choice} (h : Round targets m (some c) m') (hsized : m.Sized targets)
    (hdue : m.Due targets.length g) (hne : c.index ≠ g) (hlevel : c.Level targets.length g) :
    m'.mark = c.index + 1 ∧
      offset targets.length m.mark c.index < offset targets.length m.mark g := by
  cases h with
  | take cycleId hidle hshort hnext =>
    have hx := List.argmin_mem hnext
    refine ⟨rfl, ?_⟩
    rw [Moment.mark, hidle]
    rcases hlevel with hclass | hnear
    · exact offset_next_lt hnext hdue.1 hne (lt_of_mem_dueGuards hsized hx)
        (lt_of_mem_dueGuards hsized hdue.1) hclass
    · exact hnear

/-! ## Runs -/

variable {choices : List Choice}

end ShadowbaneLab.Guard
