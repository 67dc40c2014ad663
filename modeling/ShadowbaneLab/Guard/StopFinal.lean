/-
# Calls keep a stop

Every call of a guard job store is sound in the role of its thread, so in any interleaving a stop
that has returned is final unless a runner ended an area over it (`stop_final`).
-/
import Mathlib.Algebra.GroupWithZero.Nat
import ShadowbaneLab.Guard.ControlTriples

namespace ShadowbaneLab.Guard

open Foundation Function Fallible

namespace Spec

variable {α : Type} {i : ℕ} {P : Knows i} {Q : α → Knows i} {code : Program α}

/-! ## Answers from outside -/

theorem requireObserved (expected : Option Owner) :
    Spec i P (Guard.requireObserved expected) (fun _ => P) :=
  outside.bind fun _ => result

theorem rebuildPlans : ∀ plans, Spec i P (Guard.rebuildPlans plans) (fun _ => P)
  | [] => ret fun _ _ hs => hs
  | plan :: plans => by
    refine outside.bind (fun current => ?_)
    split
    · exact fail
    · exact rebuildPlans plans

theorem validatePlan (window : ℕ) (job : Job) :
    Spec i P (Guard.validatePlan window job) (fun _ => P) := by
  unfold Guard.validatePlan
  split
  · exact fail
  · refine (rebuildPlans job.plans).bind (fun _ => result.bind (fun targets => ?_))
    split
    · exact ret fun _ _ hs => hs
    · exact outside.bind fun _ => result

theorem readRecord (jobId : OperationId) : Spec i P (Guard.readRecord jobId) (fun _ => P) :=
  query fun _ _ _ hs _ => hs

theorem assertIdle : Spec i P Guard.assertIdle (fun _ => P) := outside

/-! ## Requests -/

theorem settleRequest (hP : Plain P) (jobId : OperationId) (mode : Mode) :
    Spec i P (Guard.settleRequest jobId mode) (fun _ => P) := by
  refine (readRecord jobId).bind (fun job => ?_)
  have hidle : Spec i P (Fallible.attempt Guard.assertIdle) (fun _ => P) :=
    Role.Triple.attempt Role.Triple.outside (fun _ _ hs => hs)
  refine hidle.bind (fun idle => ?_)
  split
  · exact save_plain _ hP
  · exact fail
  · split
    · exact save_plain _ hP
    · exact save_plain _ hP

/-- What follows a timeout knows no more than what was asked. -/
theorem ignoringTimeout {jobId : OperationId} {mode : Mode} {code : Program Unit} {Q : Unit → Knows i}
    (h : Spec i (Knows.asked i jobId mode) code Q) :
    Spec i (Knows.asked i jobId mode) (Guard.ignoringTimeout code)
      (fun _ => Knows.asked i jobId mode) := by
  have hown : ∀ s s', (team.role i).guarantee s s' → (Knows.asked i jobId mode).holds s →
      (Knows.asked i jobId mode).holds s' := by
    intro s s' hguarantee hs
    -- the log that another thread sees only grows
    obtain ⟨later, hlog, -⟩ := (hguarantee (i + 1) (Nat.succ_ne_self i)).log
    show _ ∈ s'.log
    rw [hlog]
    exact List.mem_append_left later hs
  have hended : Spec i (Knows.asked i jobId mode) (Fallible.attempt code)
      (fun _ => Knows.asked i jobId mode) :=
    Role.Triple.attempt (h.frame hown) (fun _ _ hs => hs)
  refine hended.bind (fun r => ?_)
  split
  · exact ret fun _ _ hs => hs
  · exact result

theorem requestLocked (jobId : OperationId) (mode : Mode) :
    Spec i (Knows.locked i .control) (Guard.requestLocked i jobId mode)
      (fun _ => Knows.asked i jobId mode) := by
  refine current.bind (fun found => ?_)
  cases found with
  | none => exact fail
  | some job =>
    dsimp only
    split
    · exact fail
    · rename_i hjob
      rw [not_or, not_not] at hjob
      rw [hjob.1]
      -- under the lock, what is no stop now is none when the file is written
      have hread : Spec i ((Knows.locked i .control).and (Knows.wasCurrent i jobId))
          (Guard.readControl i jobId) (fun control => if control = .stop then Role.Known.top
            else (Knows.unstopped i jobId).and (Knows.wasCurrent i jobId)) := by
        refine readControl jobId ?_
        intro s control _ hs hcontrol _
        by_cases hstop : control = .stop
        · rw [if_pos hstop]
          trivial
        · rw [if_neg hstop]
          refine ⟨⟨hs.1, ?_⟩, hs.2⟩
          rw [hcontrol]
          exact fun heq => hstop (Option.some.inj heq)
      refine hread.bind (fun control => ?_)
      by_cases hstop : control = .stop
      · rw [if_pos hstop, if_pos hstop]
        exact fail
      · rw [if_neg hstop, if_neg hstop]
        split
        · exact fail
        · have hwrite : Spec i ((Knows.unstopped i jobId).and (Knows.wasCurrent i jobId))
              (Guard.writeControl (fun _ => [.requested i jobId mode]) jobId mode)
              (fun _ => Knows.asked i jobId mode) := by
            refine writeControl ?_ ?_ ?_ ?_
            · intro s hinv hs hundisturbed k hmem
              exact hs.1.2 (hinv.stopped k jobId hmem hundisturbed.of_append)
            · exact fun s _ hs => .inr (.inl ⟨rfl, hs.2⟩)
            · exact fun _ s hs => hs.1.1
            · exact fun s _ _ => List.mem_append_right _ List.mem_cons_self
          refine hwrite.bind (fun _ => ?_)
          split
          · refine (acquire (fun _ hs _ => hs)).bind (fun idle => ?_)
            cases idle with
            | true =>
              have hsettle : Spec i Role.Known.top (Guard.holding i .runner
                  (Guard.settleRequest jobId mode)) (fun _ => Role.Known.top) :=
                holding (settleRequest Plain.top jobId mode) fun _ _ hs => hs
              exact (ignoringTimeout (hsettle.pre fun _ _ _ => trivial)).pre fun _ _ hs => hs.1
            | false => exact ret fun _ _ hs => hs
          · exact ret fun _ _ hs => hs

theorem request (jobId : OperationId) (mode : Mode) :
    Spec i Role.Known.top (Guard.request i jobId mode) (fun _ => Role.Known.top) := by
  have hlocked : Spec i Role.Known.top (Guard.withLock i .control (Guard.requestLocked i jobId mode))
      (fun _ => Knows.asked i jobId mode) := by
    refine withLock (fun _ _ _ => trivial) ((requestLocked jobId mode).pre fun _ _ hs => hs.2) ?_
    intro _ s hs
    show _ ∈ (s.free i .control).log
    rw [Store.free_log]
    exact hs
  refine hlocked.bind (fun _ => ?_)
  refine note rfl (by nofun) ?_ (fun _ _ _ => trivial) (fun _ _ => trivial)
  intro s hs k job mode' heq
  cases heq
  exact hs

/-! ## New jobs -/

/-- Under `runner.lock` the current job stays readable. -/
theorem current_runner :
    Spec i (Knows.locked i .runner) Guard.current (fun _ => Knows.readable i) := by
  have hexists : Spec i (Knows.locked i .runner) currentExists
      (fun present => if present then Knows.locked i .runner else Knows.currentIs i none) := by
    refine query ?_
    intro s present _ hs hg
    cases hcurrent : s.current with
    | none =>
      rw [hcurrent] at hg
      rw [← Except.ok.inj hg]
      exact ⟨hs, hcurrent⟩
    | some jobId =>
      rw [hcurrent] at hg
      rw [← Except.ok.inj hg]
      exact hs
  refine hexists.bind (fun present => ?_)
  cases present with
  | false =>
    refine ret ?_
    intro s _ hs
    refine ⟨hs.1, ?_⟩
    intro jobId hjob
    rw [hs.2] at hjob
    cases hjob
  | true =>
    have hread : Spec i (Knows.locked i .runner) readCurrent
        (fun jobId => Knows.currentIs i (some jobId)) := by
      refine query ?_
      intro s jobId _ hs hg
      refine ⟨hs, ?_⟩
      cases hcurrent : s.current with
      | none =>
        rw [hcurrent] at hg
        cases hg
      | some named =>
        rw [hcurrent] at hg
        exact congrArg some (Except.ok.inj hg)
    refine hread.bind (fun jobId => ?_)
    have hrecord : Spec i (Knows.currentIs i (some jobId)) (Guard.readRecord jobId)
        (fun _ => Knows.readable i) := by
      refine query ?_
      intro s job _ hs hg
      refine ⟨hs.1, ?_⟩
      intro named hnamed
      obtain rfl : jobId = named := Option.some.inj (hs.2.symm.trans hnamed)
      unfold Store.recordOf at hg
      cases hjob : s.records jobId with
      | none =>
        rw [hjob] at hg
        cases hg
      | some found => rfl
    exact hrecord.bind fun job => ret fun _ _ hs => hs

/-- A job without a record was never current, if the current one has a record. -/
theorem recordExists (jobId : OperationId) :
    Spec i (Knows.readable i) (Guard.recordExists jobId)
      (fun present => if present then Role.Known.top else Knows.fresh i jobId) := by
  refine query ?_
  intro s present hinv hs hg
  cases hrecord : (s.records jobId).isSome with
  | true =>
    rw [hrecord] at hg
    rw [← Except.ok.inj hg]
    trivial
  | false =>
    rw [hrecord] at hg
    rw [← Except.ok.inj hg]
    refine ⟨hs, ?_⟩
    intro hmem
    rcases hinv.named jobId hmem with hcurrent | hsome
    · have hsome := hs.2 jobId hcurrent
      rw [hrecord] at hsome
      cases hsome
    · rw [hrecord] at hsome
      cases hsome

theorem save_fresh (jobId : OperationId) (job : Job) :
    Spec i (Knows.fresh i jobId) (Guard.save job) (fun _ => Knows.fresh i jobId) :=
  save job fun _ hs =>
    ⟨⟨hs.1.1, fun named hcurrent => isSome_update job (hs.1.2 named hcurrent)⟩, hs.2⟩

theorem writeControl_fresh (jobId : OperationId) :
    Spec i (Knows.fresh i jobId) (Guard.writeControl (fun _ => []) jobId .run)
      (fun _ => Knows.fresh i jobId) := by
  refine writeControl ?_ ?_ (by nofun) ?_
  · exact fun s hinv hs _ k hmem => hs.2 (hinv.requested k jobId hmem)
  · exact fun _ _ _ => .inl rfl
  · exact fun s _ hs => hs

theorem writeCurrent (jobId : OperationId) :
    Spec i (Knows.fresh i jobId) (Guard.writeCurrent jobId) (fun _ => Role.Known.top) := by
  refine file ?_ ?_
  · intro s a s' hinv hs hf
    obtain ⟨-, rfl⟩ := Prod.mk.inj hf
    refine ⟨?_, ?_, trivial⟩
    · refine
        { current := ?_
          named := ?_
          requested := fun k job hmem => List.mem_cons_of_mem _ (hinv.requested k job hmem)
          stopped := hinv.stopped
          returned := hinv.returned
          final := hinv.final }
      · intro job hcurrent
        rw [← Option.some.inj hcurrent]
        exact List.mem_cons_self
      · intro job hmem
        rcases List.mem_cons.mp hmem with rfl | hmem
        · exact .inl rfl
        · refine .inr ?_
          rcases hinv.named job hmem with hcurrent | hsome
          · exact hs.1.2 job hcurrent
          · exact hsome
    · intro j hj
      refine
        { log := ⟨[], by simp, by simp⟩
          records := fun _ h => h
          named := fun _ h => List.mem_cons_of_mem _ h
          control := fun hlock => ⟨hlock, fun _ h => h⟩
          runner := fun hlock => ?_ }
      rw [hs.1.1] at hlock
      exact absurd (Option.some.inj hlock).symm hj
  · intro s fault s' hf
    cases (Prod.mk.inj hf).1

theorem beginJob (jobId : OperationId) (window : ℕ) (pollSeconds : ℚ)
    (expectedOwner : Option Owner) :
    Spec i Role.Known.top (Guard.beginJob i jobId window pollSeconds expectedOwner)
      (fun _ => Role.Known.top) := by
  unfold Guard.beginJob
  split
  · exact fail
  refine withLock (fun _ _ _ => trivial) ?_ (fun _ _ _ => trivial)
  refine pre (P := Knows.locked i .runner) ?_ (fun _ _ hs => hs.2)
  refine current_runner.bind (fun previous => (recordExists jobId).bind (fun present => ?_))
  cases present with
  | true =>
    rw [if_pos (Or.inl rfl)]
    exact fail
  | false =>
    show Spec i (Knows.fresh i jobId) _ _
    split
    · exact fail
    refine assertIdle.bind (fun _ => outside.bind (fun owner => ?_))
    have hrest : Spec i (Knows.fresh i jobId) (do
        let plan ← Fallible.outside GuardUpgradePlan
        Guard.requireObserved (some owner)
        let identity ← Fallible.act fun s => (s.identity, s)
        let job := newJob identity jobId window plan owner pollSeconds
        Guard.save job
        Guard.writeControl (fun _ => []) jobId .run
        Guard.writeCurrent jobId
        return job : Program Job) (fun _ => Role.Known.top) := by
      refine outside.bind (fun plan => (requireObserved _).bind (fun _ => ?_))
      have hidentity : Spec i (Knows.fresh i jobId) (Fallible.act fun s => (s.identity, s))
          (fun _ => Knows.fresh i jobId) :=
        Role.Triple.act fun s hinv hs => ⟨hinv, fun j _ => team.rely_refl j s, hs⟩
      refine hidentity.bind (fun identity => (save_fresh jobId _).bind (fun _ => ?_))
      refine (writeControl_fresh jobId).bind (fun _ => (writeCurrent jobId).bind (fun _ => ?_))
      exact ret fun _ _ _ => trivial
    split
    · exact result.bind fun _ => hrest
    · exact hrest

/-! ## A new area -/

theorem remembered (jobId : OperationId) (window : ℕ) (context : Context) :
    Spec i P (Guard.remembered jobId window context) (fun _ => P) := by
  refine (readRecord jobId).bind (fun job => ?_)
  refine (validatePlan window job).bind (fun targets => (requireObserved _).bind (fun _ => ?_))
  split
  · exact fail
  · exact ret fun _ _ hs => hs

theorem extendJob (jobId : OperationId) (window : ℕ) (context : Context) (job : Job) :
    Spec i (Knows.unstopped i jobId) (Guard.extendJob i jobId window context job)
      (fun _ => Role.Known.top) := by
  refine assertIdle.bind (fun _ => (remembered jobId window context).bind (fun known => ?_))
  refine outside.bind (fun plan => ?_)
  split
  · exact fail
  · refine outside.bind (fun roster => result.bind (fun visible => ?_))
    refine (validatePlan window _).bind (fun _ => (requireObserved _).bind (fun _ => ?_))
    refine (save _ fun _ hs => hs).bind (fun _ => ?_)
    have hwrite : Spec i (Knows.unstopped i jobId)
        (Guard.writeControl (fun _ => [.continued i jobId]) jobId .run)
        (fun _ => Role.Known.top) := by
      refine writeControl ?_ ?_ (by nofun) (fun _ _ _ => trivial)
      · intro s hinv hs hundisturbed k hmem
        exact hs.2 (hinv.stopped k jobId hmem hundisturbed.of_append)
      · exact fun _ _ _ => .inr (.inr (.inl rfl))
    exact hwrite.bind fun _ => ret fun _ _ _ => trivial

/-- Another lock can be taken under `control.lock`. -/
theorem locked_control (s : Store) (lock : Lock) (h : (Knows.locked i .control).holds s)
    (hfree : s.locks lock = none) : (Knows.locked i .control).holds
      { s with locks := update s.locks lock (some i) } := by
  show update s.locks lock (some i) .control = some i
  by_cases hlock : Lock.control = lock
  · subst hlock
    exact update_self _ _ _
  · rw [update_of_ne hlock]
    exact h

/-- The control file of the job is read as travel, under `control.lock`. -/
theorem readControl_travel (jobId : OperationId) :
    Spec i (Knows.locked i .control) (Guard.readControl i jobId)
      (fun control => if control = .travel then Knows.unstopped i jobId else Role.Known.top) := by
  refine readControl jobId ?_
  intro s control _ hs hcontrol _
  by_cases htravel : control = .travel
  · rw [if_pos htravel]
    refine ⟨hs, ?_⟩
    rw [hcontrol, htravel]
    nofun
  · rw [if_neg htravel]
    trivial

theorem continueHere (jobId : OperationId) (window : ℕ) (context : Context) :
    Spec i Role.Known.top (Guard.continueHere i jobId window context)
      (fun _ => Role.Known.top) := by
  refine withLock (fun _ _ _ => trivial) ?_ (fun _ _ _ => trivial)
  refine pre (withLock (fun s hs => locked_control s _ hs) ?_ (fun _ _ _ => trivial))
    (fun _ _ hs => hs.2)
  refine pre (P := Knows.locked i .control) ?_ (fun _ _ hs => hs.1)
  refine (readRecord jobId).bind (fun job => ?_)
  refine (isCurrent jobId).bind (fun here => ?_)
  split
  · exact fail
  · refine (readControl_travel jobId).bind (fun control => ?_)
    by_cases htravel : control = .travel
    · rw [if_pos htravel]
      split
      · exact fail
      · exact extendJob jobId window context job
    · rw [if_pos (Or.inl htravel)]
      exact fail

/-! ## Legacy jobs -/

theorem checkCycles (job : Job) : ∀ rows, Spec i P (Guard.checkCycles job rows) (fun _ => P)
  | [] => ret fun _ _ hs => hs
  | (guard, target) :: rows => by
    unfold Guard.checkCycles
    split
    · exact checkCycles job rows
    · refine outside.bind (fun cycle => ?_)
      split
      · exact checkCycles job rows
      · exact fail

theorem pinUnspentOwner (jobId : OperationId) (window : ℕ) (context : Context) :
    Spec i Role.Known.top (Guard.pinUnspentOwner i jobId window context)
      (fun _ => Role.Known.top) := by
  refine withLock (fun _ _ _ => trivial) ?_ (fun _ _ _ => trivial)
  refine pre (withLock (fun s hs => locked_control s _ hs) ?_ (fun _ _ _ => trivial))
    (fun _ _ hs => hs.2)
  refine pre (P := Knows.locked i .control) ?_ (fun _ _ hs => hs.1)
  refine (readRecord jobId).bind (fun job => ?_)
  split
  · exact (requireObserved _).forget
  · refine (validatePlan window job).bind (fun targets => (isCurrent jobId).bind (fun here => ?_))
    split
    · exact fail
    · refine (readControl_travel jobId).forget.bind (fun control => ?_)
      split
      · exact fail
      · refine assertIdle.bind (fun _ => (checkCycles job _).bind (fun _ => ?_))
        refine outside.bind (fun owner => (requireObserved _).bind (fun _ => ?_))
        exact save_plain _ Plain.top

/-! ## The runner -/

theorem guarded (job : Job) (h : Spec i P code Q) : Spec i P (Guard.guarded job code) Q := by
  refine h.attempt.bind (fun r => ?_)
  cases r with
  | ok a => exact ret fun _ _ hs => hs
  | error fault => exact (save_plain _ Plain.top).bind fun _ => fail

theorem store (hP : Plain P) (job : Job) : Spec i P (Guard.store job) (fun _ => P) :=
  (guarded job (save_plain job hP)).bind fun _ => ret fun _ _ hs => hs

theorem account (hP : Plain P) (job : Job) (active : ActiveCycle) (target : Target) :
    Spec i P (Guard.account job active target) (fun _ => P) :=
  (guarded job (outside.bind fun _ => outside.bind fun _ => result)).bind fun counted =>
    store hP counted

theorem readControls (jobId : OperationId) :
    ∀ n, Spec i Role.Known.top (Guard.readControls i jobId n) (fun _ => Role.Known.top)
  | 0 => ret fun _ _ hs => hs
  | n + 1 => (readControl jobId fun _ _ _ _ _ _ => trivial).bind fun _ => readControls jobId n

/-- A cycle is started only after a recent reading that is no stop. -/
theorem runCycle (jobId : OperationId) :
    Spec i (Knows.recent i jobId) (Guard.runCycle i jobId) (fun _ => Role.Known.top) := by
  have hnote : Spec i (Knows.recent i jobId) (Guard.note (.cycle i jobId))
      (fun _ => Role.Known.top) := by
    refine note rfl (by nofun) (by nofun) ?_ (fun _ _ => trivial)
    intro s hs job hjob
    subst hjob
    exact hs
  refine hnote.bind (fun _ => anything.bind (fun polls => ?_))
  exact (readControls jobId polls).bind fun _ => outside

theorem runGuard (job : Job) (index : ℕ) (target : Target) :
    Spec i (Knows.recent i job.jobId) (Guard.runGuard i job index target)
      (fun _ => Role.Known.top) := by
  unfold Guard.runGuard
  split
  · exact guarded job fail
  · refine (guarded job (requireObserved _)).bind (fun _ => anything.bind (fun cycleId => ?_))
    refine (store Plain.ofLog _).bind (fun running => ?_)
    refine (guarded running (runCycle job.jobId)).bind (fun _ => ?_)
    exact (guarded running assertIdle).bind fun _ => account Plain.top running _ target

/-- The end of an area writes travel, over a stop or not. -/
theorem endArea (job : Job) :
    Spec i P (Guard.endArea i job) (fun _ => Role.Known.top) := by
  have hwrite : Spec i P
      (Guard.writeControl (fun before => [.ended i job.jobId before]) job.jobId .travel)
      (fun _ => Role.Known.top) := by
    refine writeControl ?_ ?_ (by nofun) (fun _ _ _ => trivial)
    · intro s hinv _ hundisturbed k hmem
      have hstop := hinv.stopped k job.jobId hmem hundisturbed.of_append
      refine hundisturbed i ?_
      rw [hstop]
      simp
    · exact fun s _ _ => .inr (.inr (.inr ⟨_, rfl⟩))
  exact (guarded job hwrite).bind fun _ => store Plain.top _

theorem schedule (job : Job) (targets : List Target) :
    Spec i (Knows.recent i job.jobId) (Guard.schedule i job targets) (fun _ => Role.Known.top) := by
  refine (guarded job assertIdle).bind (fun _ => ?_)
  split
  · exact (store Plain.ofLog _).bind fun _ => ret fun _ _ _ => trivial
  · dsimp only
    split
    · split
      · exact (endArea job).bind fun _ => ret fun _ _ _ => trivial
      · exact (store Plain.ofLog _).bind fun _ => ret fun _ _ _ => trivial
    · refine (guarded job outside).bind (fun now => ?_)
      split
      · split
        · exact (store Plain.ofLog _).bind fun _ => ret fun _ _ _ => trivial
        · exact (ret fun _ _ hs => hs).bind fun _ => ret fun _ _ _ => trivial
      · split
        · exact guarded job fail
        · exact (runGuard job _ _).bind fun _ => ret fun _ _ _ => trivial

theorem loop (targets : List Target) :
    ∀ n job, Spec i Role.Known.top (Guard.loop i targets n job) (fun _ => Role.Known.top)
  | 0, job => ret fun _ _ hs => hs
  | n + 1, job => by
    have hread : Spec i Role.Known.top (Guard.readControl i job.jobId)
        (fun mode => if mode = .stop then Role.Known.top else Knows.recent i job.jobId) := by
      refine readControl job.jobId ?_
      intro s mode _ _ _ hrecent
      by_cases hstop : mode = .stop
      · rw [if_pos hstop]
        trivial
      · rw [if_neg hstop]
        exact hrecent hstop
    refine (guarded job hread).bind (fun mode => (guarded job outside).bind (fun cancelled => ?_))
    by_cases hstop : mode = .stop
    · rw [if_pos hstop, if_pos (Or.inr hstop)]
      exact store Plain.top _
    · rw [if_neg hstop]
      split
      · exact (store Plain.ofLog _).forget
      · split
        · exact (store Plain.ofLog _).forget
        · refine (schedule job targets).bind (fun after => ?_)
          obtain ⟨job', more⟩ := after
          dsimp only
          split
          · exact loop targets n job'
          · exact ret fun _ _ hs => hs

theorem resume (job : Job) (window : ℕ) :
    Spec i Role.Known.top (Guard.resume i job window) (fun _ => Role.Known.top) := by
  have hvalidate : Spec i Role.Known.top (do
      let targets ← Guard.validatePlan window job
      Guard.assertIdle
      return targets : Program (List Target)) (fun _ => Role.Known.top) :=
    (validatePlan window job).bind fun _ => assertIdle.bind fun _ => ret fun _ _ hs => hs
  refine (guarded job hvalidate).bind (fun targets => ?_)
  have hrest : ∀ job, Spec i Role.Known.top (do
      let rounds ← Fallible.anything ℕ
      Guard.loop i targets rounds job) (fun _ => Role.Known.top) :=
    fun job => anything.bind fun rounds => loop targets rounds job
  split
  · exact (ret fun _ _ hs => hs).bind hrest
  · split
    · exact (guarded job fail).bind hrest
    · exact (account Plain.top job _ _).bind hrest

theorem runGuardUpgradeJob (jobId : OperationId) (window : ℕ) :
    Spec i Role.Known.top (Guard.runGuardUpgradeJob i jobId window) (fun _ => Role.Known.top) := by
  refine withLock (fun _ _ _ => trivial) ?_ (fun _ _ _ => trivial)
  refine pre (P := Role.Known.top) ?_ (fun _ _ _ => trivial)
  refine (readRecord jobId).bind (fun job => (isCurrent jobId).bind (fun here => ?_))
  split
  · exact fail
  · split
    · exact ret fun _ _ _ => trivial
    · exact resume job window

end Spec

/-! ## Runs -/

theorem Call.finish_good {α : Type} {i : ℕ} {code : Program α} {s : Store}
    (h : Spec i Role.Known.top code (fun _ => Role.Known.top)) (hinv : Inv s) :
    ∃ post, (team.role i).Good post (Call.finish code) s :=
  ⟨fun _ _ => True, .bind (h s hinv trivial)
    fun _ _ _ _ => .ret (fun _ _ _ _ h => h) trivial⟩

/-- Every call is sound. -/
theorem Call.code_good (i : ℕ) (call : Call) (s : Store) (hinv : Inv s) :
    ∃ post, (team.role i).Good post (call.code i) s := by
  cases call with
  | request jobId mode => exact finish_good (Spec.request jobId mode) hinv
  | begin jobId window pollSeconds expectedOwner =>
    exact finish_good (Spec.beginJob jobId window pollSeconds expectedOwner) hinv
  | continueHere jobId window context =>
    exact finish_good (Spec.continueHere jobId window context) hinv
  | pinUnspentOwner jobId window context =>
    exact finish_good (Spec.pinUnspentOwner jobId window context) hinv
  | run jobId window => exact finish_good (Spec.runGuardUpgradeJob jobId window) hinv

/-- A store with these files, of which nothing was done yet. -/
def Store.initial (identity : List String) (current : Option OperationId)
    (records : OperationId → Option Job) (controls : OperationId → Option Mode) : Store where
  identity := identity
  current := current
  records := records
  controls := controls
  locks _ := none
  named := current.toList
  log := []

theorem Inv.initial (identity : List String) (current : Option OperationId)
    (records : OperationId → Option Job) (controls : OperationId → Option Mode) :
    Inv (.initial identity current records controls) where
  current jobId h := by
    rw [show current = some jobId from h]
    exact List.mem_singleton_self jobId
  named jobId hmem := .inl (Option.mem_toList.mp hmem)
  requested i jobId hmem := by cases hmem
  stopped i jobId hmem := by cases hmem
  returned i jobId mode hmem := by cases hmem
  final jobId _ :=
    { reads := fun before i later h => by simp [Store.initial] at h
      requests := fun before i later h => by simp [Store.initial] at h
      areas := fun before i later h => by simp [Store.initial] at h
      cycles := fun before i between j later h => by simp [Store.initial] at h }

/-- One step of the threads that use a store. -/
abbrev StoreStep : Team.System ℕ Store → Team.System ℕ Store → Prop :=
  Team.Step (fun i code => ∃ call : Call, code = call.code i) crash

/-- In every interleaving of calls and crashes, a stop that has returned is final, provided that no
runner wrote the end of an area over it. -/
theorem stop_final (identity : List String) (current : Option OperationId)
    (records : OperationId → Option Job) (controls : OperationId → Option Mode)
    (system : Team.System ℕ Store)
    (hrun : Relation.ReflTransGen StoreStep
      ⟨.initial identity current records controls, fun _ => none⟩ system)
    (jobId : OperationId) (hundisturbed : Undisturbed jobId system.shared.log) :
    Final jobId system.shared.log := by
  have hinv : Inv system.shared := by
    refine team.inv_of_run hrun ⟨Inv.initial identity current records controls, by nofun⟩ ?_ ?_
    · rintro i code s ⟨call, rfl⟩ hinv
      exact call.code_good i s hinv
    · exact crash_sound
  exact hinv.final jobId hundisturbed

/-! ## Runs of single calls -/

section Returns

variable {α : Type} {s s' s'' : Store} {i : ℕ} {jobId : OperationId} {job : Job}

variable {r : Except Fault α}

theorem returns_file {f : Store → Except Fault α × Store} (h : f s = (r, s')) :
    Returns s (file f) s' r :=
  (Returns.outside (.ok ())).bind (.tryAct h)

theorem returns_readRecord (h : s.recordOf jobId = .ok job) :
    Returns s (readRecord jobId) s (.ok job) :=
  returns_file (congrArg (·, s) h)

theorem returns_current (hcurrent : s.current = some jobId) (h : s.recordOf jobId = .ok job) :
    Returns s current s (.ok (some job)) := by
  have hexists : Returns s currentExists s (.ok true) := by
    refine returns_file ?_
    rw [hcurrent]
    rfl
  have hread : Returns s readCurrent s (.ok jobId) := by
    refine returns_file ?_
    rw [hcurrent]
  exact hexists.bind (hread.bind ((returns_readRecord h).bind .ret))

theorem returns_isCurrent (hcurrent : s.current = some jobId) (h : s.recordOf jobId = .ok job)
    (hjob : job.jobId = jobId) : Returns s (isCurrent jobId) s (.ok true) := by
  refine (returns_current hcurrent h).bind ((returns_current hcurrent h).bind ?_)
  show Returns s (pure (decide (job.jobId = jobId))) s (.ok true)
  rw [decide_eq_true hjob]
  exact .ret

theorem returns_readControl {mode : Mode} (h : s.controls jobId = some mode) :
    Returns s (readControl i jobId) { s with log := s.log ++ [.read i jobId mode] }
      (.ok mode) := by
  refine returns_file ?_
  rw [h]

variable {body : Program α}

theorem returns_guarded {a : α} (h : Returns s body s' (.ok a)) :
    Returns s (guarded job body) s' (.ok a) :=
  h.attempt.bind .ret

/-- The store when a thread has taken a lock. -/
def Store.held (s : Store) (i : ℕ) (lock : Lock) : Store :=
  { s with locks := update s.locks lock (some i) }

theorem returns_acquire {lock : Lock} (hfree : s.locks lock = none) :
    Returns s (acquire i lock) (s.held i lock) (.ok true) := by
  refine .act ?_
  simp only [hfree, if_true]
  rfl

/-- A lock that is free is held for the body. -/
theorem returns_withLock {lock : Lock} {r : Except Fault α} (hfree : s.locks lock = none)
    (h : Returns (s.held i lock) body s' r) :
    Returns s (withLock i lock body) (s'.free i lock) r := by
  have hrelease : Returns s' (release i lock) (s'.free i lock) (.ok ()) := .act rfl
  exact (returns_acquire hfree).bind (h.attempt.bind (hrelease.bind .result))

/-- A current job that reads its control file may be requested something; this is the store when the
control file is written. -/
def Store.asked (s : Store) (i : ℕ) (jobId : OperationId) (before mode : Mode) : Store :=
  { s.held i .control with
    controls := update s.controls jobId (some mode)
    log := s.log ++ [.read i jobId before] ++ [.requested i jobId mode] }

/-- The store when the request has returned, without a runner at hand. -/
def Store.answered (s : Store) (i : ℕ) (jobId : OperationId) (before mode : Mode) : Store :=
  { (s.asked i jobId before mode).free i .control with
    log := ((s.asked i jobId before mode).free i .control).log ++ [.returned i jobId mode] }

/-- A request to a current job that is ready, while a runner is at work or need not be asked. -/
theorem returns_request {before mode : Mode} (hfree : s.locks .control = none)
    (hcurrent : s.current = some jobId) (hrecord : s.recordOf jobId = .ok job)
    (hjob : job.jobId = jobId) (hstate : job.state = .ready)
    (hcontrol : s.controls jobId = some before) (hbefore : before ≠ .stop)
    (hbusy : mode = .run ∨ mode = .pause ∨ s.locks .runner ≠ none) :
    Returns s (request i jobId mode) (s.answered i jobId before mode) (.ok ()) := by
  refine (returns_withLock (r := .ok ()) hfree ?_).bind (.act rfl)
  refine (returns_current (s := s.held i .control) hcurrent hrecord).bind ?_
  dsimp only
  rw [if_neg (by rw [hjob, hstate]; simp [JobState.terminal])]
  refine (returns_readControl (s := s.held i .control) hcontrol).bind ?_
  rw [if_neg hbefore, if_neg (by rw [hstate]; simp)]
  have hwrite : Returns
      { s.held i .control with log := s.log ++ [.read i jobId before] }
      (writeControl (fun _ => [.requested i jobId mode]) jobId mode)
      (s.asked i jobId before mode) (.ok ()) := returns_file rfl
  refine hwrite.bind ?_
  by_cases hmode : mode = .stop ∨ mode = .travel
  · rw [if_pos hmode]
    have hrunner : s.locks .runner ≠ none := by
      rcases hbusy with rfl | rfl | hbusy
      · simp at hmode
      · simp at hmode
      · exact hbusy
    have hacquire : Returns (s.asked i jobId before mode) (acquire i .runner)
        (s.asked i jobId before mode) (.ok false) := by
      refine .act ?_
      rw [if_neg]
      show ¬ update s.locks .control (some i) .runner = none
      rwa [update_of_ne (by nofun)]
    exact hacquire.bind .ret
  · rw [if_neg hmode]
    exact .ret

/-- The store when the request was refused. -/
def Store.refused (s : Store) (i : ℕ) (jobId : OperationId) : Store :=
  { s.held i .control with log := s.log ++ [.read i jobId .stop] }

/-- A request to a current job that is ready is refused once the control file is a stop. -/
theorem returns_refused {mode : Mode} (hfree : s.locks .control = none)
    (hcurrent : s.current = some jobId) (hrecord : s.recordOf jobId = .ok job)
    (hjob : job.jobId = jobId) (hstate : job.state = .ready)
    (hcontrol : s.controls jobId = some .stop) :
    Returns s (request i jobId mode) ((s.refused i jobId).free i .control)
      (.error (.runtime "The guard job changed or needs review.")) := by
  refine (returns_withLock hfree ?_).bind_error
  refine (returns_current (s := s.held i .control) hcurrent hrecord).bind ?_
  dsimp only
  rw [if_neg (by rw [hjob, hstate]; simp [JobState.terminal])]
  exact (returns_readControl (s := s.held i .control) hcontrol).bind .result

/-- A call that returns, as the code of a thread. -/
theorem steps_finish {code : Program α} (h : Returns s code s' r) :
    Code.Steps s (Call.finish code) s' (.ret ()) :=
  .bind h _

end Returns

/-! ## A stop that is written over -/

section AreaEnd

variable {s : Store} {i : ℕ} {job : Job} {targets : List Target}

/-- What the end of an area does to the control file. -/
def areaEnded (i : ℕ) (jobId : OperationId) (s : Store) : Store :=
  { s with
    controls := update s.controls jobId (some .travel)
    log := s.log ++ [.ended i jobId (s.controls jobId)] }

theorem ready_endArea : Code.Ready s (endArea i job).run s (areaEnded i job.jobId) := by
  have hwrite : Code.Ready s
      (writeControl (fun before => [.ended i job.jobId before]) job.jobId .travel).run s
      (areaEnded i job.jobId) := Returns.ready_now fun _ => returns_file rfl
  exact ((hwrite.bind _).bind _).bind _

theorem ready_schedule (hshort : job.short = false) (hnone : job.remaining targets.length = [])
    (harea : job.areaIndices.isSome = true) :
    Code.Ready s (schedule i job targets).run s (areaEnded i job.jobId) := by
  refine (returns_guarded (.outside (.ok ()))).ready ?_
  rw [if_neg (Bool.eq_false_iff.mp hshort), if_pos hnone, if_pos harea]
  exact ready_endArea.bind _

theorem ready_loop {n : ℕ} (hcontrol : s.controls job.jobId = some .run)
    (hshort : job.short = false) (hnone : job.remaining targets.length = [])
    (harea : job.areaIndices.isSome = true) :
    Code.Ready s (loop i targets (n + 1) job).run
      { s with log := s.log ++ [.read i job.jobId .run] } (areaEnded i job.jobId) := by
  refine (returns_guarded (returns_readControl hcontrol)).ready ?_
  refine (returns_guarded (.outside (.ok false))).ready ?_
  rw [if_neg (by simp), if_neg (by simp)]
  exact (ready_schedule hshort hnone harea).bind _

theorem ready_resume {window : ℕ} (hvalid : Returns s (validatePlan window job) s (.ok targets))
    (hactive : job.activeCycle = none) (hcontrol : s.controls job.jobId = some .run)
    (hshort : job.short = false) (hnone : job.remaining targets.length = [])
    (harea : job.areaIndices.isSome = true) :
    Code.Ready s (resume i job window).run
      { s with log := s.log ++ [.read i job.jobId .run] } (areaEnded i job.jobId) := by
  have hidle : Returns s (do
      let targets ← validatePlan window job
      assertIdle
      return targets : Program (List Target)) s (.ok targets) :=
    hvalid.bind ((Returns.outside (.ok ())).bind .ret)
  refine (returns_guarded hidle).ready ?_
  rw [hactive]
  refine Returns.ret.ready ((Returns.anything 1).ready ?_)
  exact ready_loop hcontrol hshort hnone harea

/-- A runner with nothing left to do in its area is about to write the control file. -/
theorem ready_run {jobId : OperationId} {window : ℕ} (hfree : s.locks .runner = none)
    (hcurrent : s.current = some jobId) (hrecord : s.recordOf jobId = .ok job)
    (hjob : job.jobId = jobId) (hstate : job.state = .ready)
    (hvalid : ∀ t, Returns t (validatePlan window job) t (.ok targets))
    (hactive : job.activeCycle = none) (hcontrol : s.controls jobId = some .run)
    (hshort : job.short = false) (hnone : job.remaining targets.length = [])
    (harea : job.areaIndices.isSome = true) :
    Code.Ready s ((Call.run jobId window).code i)
      { s.held i .runner with log := s.log ++ [.read i jobId .run] } (areaEnded i jobId) := by
  subst hjob
  refine Code.Ready.bind ((returns_acquire hfree).ready (Code.Ready.bind (Code.Ready.bind ?_ _) _)) _
  refine (returns_readRecord (s := s.held i .runner) hrecord).ready ?_
  refine (returns_isCurrent (s := s.held i .runner) hcurrent hrecord rfl).ready ?_
  rw [if_neg (by simp), if_neg (by rw [hstate]; simp [JobState.terminal])]
  exact ready_resume (hvalid _) hactive hcontrol hshort hnone harea

end AreaEnd

local instance neZero_ids : NeZero (2 ^ 128) := ⟨by decide⟩

/-- The first area of a job. -/
def firstArea : GuardUpgradePlan :=
  ⟨2, "", "", ⟨1, 100, 200⟩, [⟨988, 123, 1, 100, 123, 777⟩], [1], 1, 1⟩

/-- A second area, without a guard that may be upgraded. -/
def emptyArea : GuardUpgradePlan := ⟨3, "", "", ⟨2, 100, 200⟩, [], [], 1, 1⟩

/-- A job that continues in the second area. -/
def areaJob : Job :=
  { newJob ["client"] 1 1000 firstArea ⟨1, "poley", "Wonderbane"⟩ 60 with
    areaPlans := [emptyArea]
    areaIndices := some []
    detail := "Continuing here; previous guard progress retained." }

/-- The job is current and has been told to run. -/
def areaStore : Store :=
  .initial ["client"] (some 1) (fun jobId => if jobId = 1 then some areaJob else none)
    (fun jobId => if jobId = 1 then some .run else none)

theorem returns_validatePlan (s : Store) :
    Returns s (validatePlan 1000 areaJob) s (.ok firstArea.targets) := by
  have hplans : Returns s (rebuildPlans [firstArea, emptyArea]) s (.ok ()) := by
    refine (Returns.outside (.ok firstArea)).bind ?_
    rw [if_neg (not_not.mpr rfl)]
    refine (Returns.outside (.ok emptyArea)).bind ?_
    rw [if_neg (not_not.mpr rfl)]
    exact .ret
  unfold validatePlan
  rw [if_neg (by decide)]
  refine hplans.bind ?_
  have htargets : Returns s (Fallible.result (checkPlans areaJob 1000)) s
      (.ok firstArea.targets) := .result
  refine htargets.bind ?_
  rw [if_neg (by decide)]
  exact (Returns.outside (.ok [])).bind .result

/-- The runner has read that its job shall run. -/
def runningStore : Store :=
  { areaStore.held 0 .runner with log := areaStore.log ++ [.read 0 1 .run] }

/-- Then the stop has returned. -/
def stoppedStore : Store := runningStore.answered 1 1 .run .stop

theorem run_ready :
    Code.Ready areaStore ((Call.run 1 1000).code 0) runningStore (areaEnded 0 1) := by
  have hrecord : areaStore.recordOf 1 = .ok areaJob := rfl
  exact ready_run rfl rfl hrecord rfl rfl returns_validatePlan rfl rfl rfl rfl rfl

/-- The stop does not find the runner idle and leaves the rest to it. -/
theorem stop_returns :
    Code.Steps runningStore ((Call.request 1 .stop).code 1) stoppedStore (.ret ()) := by
  have hrecord : runningStore.recordOf 1 = .ok areaJob := rfl
  have hbusy : runningStore.locks .runner ≠ none := by nofun
  exact steps_finish
    (returns_request rfl rfl hrecord rfl rfl rfl (by nofun) (.inr (.inr hbusy)))

/-- After the end of the area a request to run is accepted. -/
theorem run_returns : Code.Steps (areaEnded 0 1 stoppedStore) ((Call.request 1 .run).code 1)
    ((areaEnded 0 1 stoppedStore).answered 1 1 .travel .run) (.ret ()) := by
  have hrecord : (areaEnded 0 1 stoppedStore).recordOf 1 = .ok areaJob := rfl
  exact steps_finish (returns_request rfl rfl hrecord rfl rfl rfl (by nofun) (.inl rfl))

/-- The three calls together. -/
theorem overwritten_run : ∃ threads, Relation.ReflTransGen StoreStep ⟨areaStore, fun _ => none⟩
    ⟨(areaEnded 0 1 stoppedStore).answered 1 1 .travel .run, threads⟩ := by
  obtain ⟨held, hrun, hend⟩ := run_ready
  obtain ⟨ending, hend⟩ := hend stoppedStore
  exact ⟨_, .head (.start rfl ⟨Call.run 1 1000, rfl⟩) <|
    (Team.run_alone hrun (update_self _ _ _)).trans <|
    .head (.start rfl ⟨Call.request 1 .stop, rfl⟩) <|
    (Team.run_alone stop_returns (update_self _ _ _)).trans <|
    .head (.finish (update_self _ _ _)) <|
    (Team.run_alone (i := 0) hend rfl).trans <|
    .head (.start rfl ⟨Call.request 1 .run, rfl⟩) <|
    Team.run_alone run_returns (update_self _ _ _)⟩

/-- A stop has returned, the runner ends its area over it, and the job is told to run again. -/
theorem stop_overwritten : ∃ system,
    Relation.ReflTransGen StoreStep ⟨areaStore, fun _ => none⟩ system ∧
      ¬ Final 1 system.shared.log := by
  obtain ⟨threads, hrun⟩ := overwritten_run
  refine ⟨_, hrun, ?_⟩
  intro hfinal
  have hlog : ((areaEnded 0 1 stoppedStore).answered 1 1 .travel .run).log =
      [.read 0 1 .run, .read 1 1 .run, .requested 1 1 .stop] ++ .returned 1 1 .stop ::
        [.ended 0 1 (some .stop), .read 1 1 .travel, .requested 1 1 .run, .returned 1 1 .run] := rfl
  have hstop := hfinal.reads _ 1 _ hlog 1 .travel (by simp)
  cases hstop

/-- A stop that returned while a runner was at work; a later request to run reads it and is
refused. -/
theorem stop_final_running : ∃ system : Team.System ℕ Store,
    system.shared.log = [.read 0 1 .run, .read 1 1 .run, .requested 1 1 .stop,
      .returned 1 1 .stop, .read 2 1 .stop] ∧ Final 1 system.shared.log := by
  obtain ⟨held, hrun, -⟩ := run_ready
  have hrecord : stoppedStore.recordOf 1 = .ok areaJob := rfl
  -- The runner has read `run`, the stop returns, and the request reads the stop.
  have hall : ∃ threads, Relation.ReflTransGen StoreStep ⟨areaStore, fun _ => none⟩
      ⟨(stoppedStore.refused 2 1).free 2 .control, threads⟩ :=
    ⟨_, .head (.start rfl ⟨Call.run 1 1000, rfl⟩) <|
      (Team.run_alone hrun (update_self _ _ _)).trans <|
      .head (.start rfl ⟨Call.request 1 .stop, rfl⟩) <|
      (Team.run_alone stop_returns (update_self _ _ _)).trans <|
      .head (.start rfl ⟨Call.request 1 .run, rfl⟩) <|
      Team.run_alone (steps_finish (returns_refused rfl rfl hrecord rfl rfl rfl))
        (update_self _ _ _)⟩
  obtain ⟨threads, hall⟩ := hall
  have hlog : ((stoppedStore.refused 2 1).free 2 .control).log = [.read 0 1 .run, .read 1 1 .run,
      .requested 1 1 .stop, .returned 1 1 .stop, .read 2 1 .stop] := rfl
  refine ⟨_, hlog, stop_final _ _ _ _ _ hall 1 ?_⟩
  rw [hlog]
  intro i
  simp

end ShadowbaneLab.Guard
