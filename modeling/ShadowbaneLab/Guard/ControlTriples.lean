/-
# Triples of the guard job store

One rule for each access to a file and for each lock, in the role of the thread that makes it.
-/
import ShadowbaneLab.Guard.ControlRuns

namespace ShadowbaneLab.Guard

open Foundation Function

/-- What a thread knows after some code, of a failure nothing. -/
abbrev Spec {α : Type} (i : ℕ) (P : Knows i) (code : Program α) (Q : α → Knows i) : Prop :=
  Role.Triple P code Q Role.Known.top

/-- Knowledge that rests on the log alone. -/
def Plain {i : ℕ} (P : Knows i) : Prop := ∀ s s' : Store, s'.log = s.log → P.holds s → P.holds s'

theorem Plain.top {i : ℕ} : Plain (Role.Known.top : Knows i) := fun _ _ _ _ => trivial

theorem Plain.ofLog {i : ℕ} {p : List Entry → Prop}
    {hp : ∀ log later, (∀ e ∈ later, e.thread ≠ i) → p log → p (log ++ later)} :
    Plain (Knows.ofLog p hp) := by
  intro s s' hlog h
  show p s'.log
  rw [hlog]
  exact h

namespace Spec

variable {α β : Type} {i : ℕ} {P P' : Knows i} {Q Q' : α → Knows i} {code : Program α}

theorem pre (h : Spec i P code Q) (hpre : ∀ s, Inv s → P'.holds s → P.holds s) : Spec i P' code Q :=
  h.imp hpre (fun _ _ _ h => h) (fun _ _ _ => trivial)

theorem post (h : Spec i P code Q) (hpost : ∀ a s, Inv s → (Q a).holds s → (Q' a).holds s) :
    Spec i P code Q' :=
  h.imp (fun _ _ h => h) hpost (fun _ _ _ => trivial)

/-- Nothing has to be known any more. -/
theorem forget (h : Spec i P code Q) : Spec i P code (fun _ => Role.Known.top) :=
  h.post (fun _ _ _ _ => trivial)

theorem bind {R : α → Knows i} {Q : β → Knows i} {k : α → Program β} (h : Spec i P code R)
    (hk : ∀ a, Spec i (R a) (k a) Q) : Spec i P (code >>= k) Q :=
  Role.Triple.bind h hk

theorem ret {a : α} (h : ∀ s, Inv s → P.holds s → (Q a).holds s) : Spec i P (pure a) Q :=
  Role.Triple.ret h

theorem fail {fault : Fault} : Spec i P (throw fault) Q :=
  Role.Triple.fail (fun _ _ _ => trivial)

theorem outside : Spec i P (Fallible.outside α) (fun _ => P) :=
  Role.Triple.outside.imp (fun _ _ h => h) (fun _ _ _ h => h) (fun _ _ _ => trivial)

theorem result {r : Except Fault α} : Spec i P (Fallible.result r) (fun _ => P) :=
  Role.Triple.result.imp (fun _ _ h => h) (fun _ _ _ h => h) (fun _ _ _ => trivial)

theorem anything : Spec i P (Fallible.anything α) (fun _ => P) := Role.Triple.anything

theorem attempt (h : Spec i P code Q) :
    Spec i P (Fallible.attempt code) (Role.Known.ends Q Role.Known.top) :=
  Role.Triple.attempt h (fun _ _ h => h)

/-! ### Files -/

theorem file {f : Store → Except Fault α × Store}
    (hok : ∀ s a s', Inv s → P.holds s → f s = (.ok a, s') →
      Inv s' ∧ (∀ j, j ≠ i → Rely j s s') ∧ (Q a).holds s')
    (herror : ∀ s fault s', f s = (.error fault, s') → s' = s) : Spec i P (Guard.file f) Q := by
  refine bind outside (fun _ => Role.Triple.tryAct ?_)
  intro s hinv hs
  cases hf : f s with
  | mk r s' =>
    cases r with
    | ok a => exact hok s a s' hinv hs hf
    | error fault =>
      rw [herror s fault s' hf]
      exact ⟨hinv, fun j _ => team.rely_refl j s, trivial⟩

/-- A file is only read. -/
theorem query {g : Store → Except Fault α}
    (h : ∀ s a, Inv s → P.holds s → g s = .ok a → (Q a).holds s) :
    Spec i P (Guard.file fun s => (g s, s)) Q := by
  refine file ?_ ?_
  · intro s a s' hinv hs hf
    obtain ⟨hg, rfl⟩ := Prod.mk.inj hf
    exact ⟨hinv, fun j _ => team.rely_refl j s, h s a hinv hs hg⟩
  · intro s fault s' hf
    exact (Prod.mk.inj hf).2.symm

variable {jobId : OperationId}

theorem isSome_update {records : OperationId → Option Job} (job : Job)
    (h : (records jobId).isSome = true) :
    (update records job.jobId (some job) jobId).isSome = true := by
  by_cases hjob : jobId = job.jobId
  · subst hjob
    rw [update_self]
    rfl
  · rwa [update_of_ne hjob]

theorem save (job : Job) (h : ∀ s, P.holds s → P.holds
      { s with records := update s.records job.jobId (some job) }) :
    Spec i P (Guard.save job) (fun _ => P) := by
  refine file ?_ ?_
  · intro s a s' hinv hs hf
    obtain ⟨-, rfl⟩ := Prod.mk.inj hf
    refine ⟨?_, ?_, h s hs⟩
    · exact ⟨hinv.current, fun jobId hmem => (hinv.named jobId hmem).imp_right (isSome_update job),
        hinv.requested, hinv.stopped, hinv.returned, hinv.final⟩
    · intro j _
      exact Rely.of_log (List.append_nil _).symm (by simp) (fun _ => isSome_update job) (fun _ h => h) rfl rfl rfl
  · intro s fault s' hf
    cases (Prod.mk.inj hf).1

theorem save_plain (job : Job) (hP : Plain P) : Spec i P (Guard.save job) (fun _ => P) :=
  save job (fun s hs => hP s _ rfl hs)

/-- The job that `current.json` names was current, and its record exists. -/
theorem current : Spec i P Guard.current (fun found => match found with
    | some job => P.and (Knows.wasCurrent i job.jobId)
    | none => P) := by
  refine bind (query (fun _ _ _ hs _ => hs)) ?_
  intro present
  cases present with
  | false => exact ret (fun _ _ hs => hs)
  | true =>
    have hread : Spec i P readCurrent (fun jobId => P.and (Knows.wasCurrent i jobId)) := by
      refine query ?_
      intro s jobId hinv hs hg
      refine ⟨hs, hinv.current jobId ?_⟩
      cases hcurrent : s.current with
      | none =>
        rw [hcurrent] at hg
        cases hg
      | some named =>
        rw [hcurrent] at hg
        exact congrArg some (Except.ok.inj hg)
    refine bind hread (fun jobId => ?_)
    have hrecord : Spec i (P.and (Knows.wasCurrent i jobId)) (readRecord jobId)
        (fun job => P.and (Knows.wasCurrent i job.jobId)) := by
      refine query ?_
      intro s job _ hs hg
      unfold Store.recordOf at hg
      cases hjob : s.records jobId with
      | none =>
        rw [hjob] at hg
        cases hg
      | some found =>
        simp only [hjob] at hg
        by_cases hadmissible : found.admissible s.identity jobId = true
        · rw [if_pos hadmissible] at hg
          obtain rfl := Except.ok.inj hg
          obtain ⟨-, hsame, -⟩ := of_decide_eq_true hadmissible
          refine ⟨hs.1, ?_⟩
          rw [hsame]
          exact hs.2
        · rw [if_neg hadmissible] at hg
          cases hg
    exact bind hrecord (fun job => ret (fun _ _ hs => hs))

theorem isCurrent (jobId : OperationId) : Spec i P (Guard.isCurrent jobId) (fun _ => P) := by
  have hcurrent : Spec i P Guard.current (fun _ => P) := by
    refine current.post ?_
    intro found s _ hs
    cases found with
    | none => exact hs
    | some job => exact hs.1
  refine bind hcurrent (fun found => ?_)
  split
  · exact ret (fun _ _ hs => hs)
  · refine bind hcurrent (fun again => ?_)
    cases again with
    | none => exact fail
    | some job => exact ret (fun _ _ hs => hs)

/-- What is read of a control file is in the log; a reading that is no stop is recent. -/
theorem readControl (jobId : OperationId) {R : Mode → Knows i}
    (h : ∀ s mode, Inv s → P.holds s → s.controls jobId = some mode →
      (mode ≠ .stop → Recent i jobId (s.log ++ [.read i jobId mode])) →
        (R mode).holds { s with log := s.log ++ [.read i jobId mode] }) :
    Spec i P (Guard.readControl i jobId) R := by
  refine file ?_ ?_
  · intro s mode s' hinv hs hf
    cases hcontrol : s.controls jobId with
    | none =>
      rw [hcontrol] at hf
      cases (Prod.mk.inj hf).1
    | some found =>
      simp only [hcontrol] at hf
      obtain ⟨hmode, rfl⟩ := Prod.mk.inj hf
      obtain rfl := Except.ok.inj hmode
      refine ⟨hinv.append (by nofun) (by nofun) ?_, ?_, h s found hinv hs hcontrol ?_⟩
      · intro job hundisturbed hjob hstop k
        subst hjob
        refine hinv.not_returned ?_ hundisturbed k
        rw [hcontrol]
        exact fun heq => hstop (Option.some.inj heq)
      · intro j hj
        refine Rely.of_log rfl ?_ (fun _ h => h) (fun _ h => h) rfl rfl rfl
        intro e he
        rw [List.mem_singleton.mp he]
        exact Ne.symm hj
      · exact fun hstop => ⟨s.log, found, [], rfl, hstop, by simp⟩
  · intro s fault s' hf
    cases hcontrol : s.controls jobId with
    | none =>
      rw [hcontrol] at hf
      exact (Prod.mk.inj hf).2.symm
    | some found =>
      simp only [hcontrol] at hf
      cases (Prod.mk.inj hf).1

/-- A control file is written over something that is no stop, or for a job that was never
current; a stop only under `control.lock`. -/
theorem writeControl {entries : Option Mode → List Entry} {mode : Mode} {R : Knows i}
    (hfree : ∀ s, Inv s → P.holds s → Undisturbed jobId (s.log ++ entries (s.controls jobId)) →
      ∀ k, .requested k jobId .stop ∉ s.log)
    (hentries : ∀ s, Inv s → P.holds s → entries (s.controls jobId) = [] ∨
      (entries (s.controls jobId) = [.requested i jobId mode] ∧ jobId ∈ s.named) ∨
      entries (s.controls jobId) = [.continued i jobId] ∨
      ∃ before, entries (s.controls jobId) = [.ended i jobId before])
    (hmode : mode = .stop → ∀ s, P.holds s → s.locks .control = some i)
    (hpost : ∀ s, Inv s → P.holds s → R.holds { s with
      controls := update s.controls jobId (some mode)
      log := s.log ++ entries (s.controls jobId) }) :
    Spec i P (Guard.writeControl entries jobId mode) (fun _ => R) := by
  refine file ?_ ?_
  · intro s a s' hinv hs hf
    obtain ⟨-, rfl⟩ := Prod.mk.inj hf
    refine ⟨hinv.writeControl (hfree s hinv hs) ?_, ?_, hpost s hinv hs⟩
    · rcases hentries s hinv hs with h | ⟨h, hnamed⟩ | h | ⟨before, h⟩
      · exact .inl h
      · exact .inr (.inl ⟨i, h, hnamed⟩)
      · exact .inr (.inr (.inl ⟨i, h⟩))
      · exact .inr (.inr (.inr ⟨i, before, h⟩))
    · intro j hj
      refine
        { log := ⟨_, rfl, ?_⟩
          records := fun _ h => h
          named := fun _ h => h
          control := fun hlock => ⟨hlock, ?_⟩
          runner := fun hlock => ⟨hlock, rfl, rfl⟩ }
      · intro e he
        rcases hentries s hinv hs with h | ⟨h, -⟩ | h | ⟨before, h⟩ <;> rw [h] at he
        · cases he
        · rw [List.mem_singleton.mp he]
          exact Ne.symm hj
        · rw [List.mem_singleton.mp he]
          exact Ne.symm hj
        · rw [List.mem_singleton.mp he]
          exact Ne.symm hj
      · intro job hstop
        show update s.controls jobId (some mode) job ≠ some .stop
        by_cases hjob : job = jobId
        · subst hjob
          rw [update_self]
          intro heq
          -- only the holder of the lock writes a stop
          have hheld := hmode (Option.some.inj heq) s hs
          rw [hlock] at hheld
          exact hj (Option.some.inj hheld)
        · rwa [update_of_ne hjob]
  · intro s fault s' hf
    cases (Prod.mk.inj hf).1

/-- An entry without a file. -/
theorem note {e : Entry} {R : Knows i} (hthread : e.thread = i)
    (hrequested : ∀ i jobId mode, e ≠ .requested i jobId mode)
    (hreturned : ∀ s, P.holds s → ∀ i jobId mode, e = .returned i jobId mode →
      .requested i jobId mode ∈ s.log) (hallowed : ∀ s, P.holds s → ∀ jobId, Allowed jobId s.log e)
    (hpost : ∀ s, P.holds s → R.holds { s with log := s.log ++ [e] }) :
    Spec i P (Guard.note e) (fun _ => R) := by
  refine Role.Triple.act ?_
  intro s hinv hs
  refine ⟨hinv.append hrequested (hreturned s hs) (fun jobId _ => hallowed s hs jobId), ?_,
    hpost s hs⟩
  intro j hj
  refine Rely.of_log rfl ?_ (fun _ h => h) (fun _ h => h) rfl rfl rfl
  intro x hx
  rw [List.mem_singleton.mp hx, hthread]
  exact Ne.symm hj

/-! ### Locks -/

variable {lock : Lock}

theorem acquire (hP : ∀ s, P.holds s → s.locks lock = none →
      P.holds { s with locks := update s.locks lock (some i) }) :
    Spec i P (Guard.acquire i lock)
      (fun got => if got then P.and (Knows.locked i lock) else P) := by
  refine Role.Triple.act ?_
  intro s hinv hs
  by_cases hfree : s.locks lock = none
  · simp only [hfree, if_true]
    refine ⟨hinv.of_locks _, ?_, hP s hs hfree, update_self _ _ _⟩
    intro j _
    refine Rely.of_locks ?_
    intro lock' hlock
    by_cases hsame : lock' = lock
    · subst hsame
      rw [hfree] at hlock
      cases hlock
    · rwa [update_of_ne hsame]
  · simp only [hfree, if_false]
    exact ⟨hinv, fun j _ => team.rely_refl j s, hs⟩

theorem holding (h : Spec i P code Q) (hQ : ∀ a s, (Q a).holds s → (Q a).holds (s.free i lock)) :
    Spec i P (Guard.holding i lock code) Q := by
  refine bind h.attempt (fun r => ?_)
  have hrelease : Spec i (Role.Known.ends Q Role.Known.top r) (release i lock)
      (fun _ => Role.Known.ends Q Role.Known.top r) := by
    refine Role.Triple.act ?_
    intro s hinv hs
    refine ⟨hinv.free i lock, fun j hj => Rely.of_free s hj lock, ?_⟩
    cases r with
    | ok a => exact hQ a s hs
    | error fault => exact trivial
  refine bind hrelease (fun _ => ?_)
  cases r with
  | ok a => exact ret (fun _ _ hs => hs)
  | error fault => exact fail

theorem withLock (hP : ∀ s, P.holds s → s.locks lock = none →
      P.holds { s with locks := update s.locks lock (some i) })
    (h : Spec i (P.and (Knows.locked i lock)) code Q)
    (hQ : ∀ a s, (Q a).holds s → (Q a).holds (s.free i lock)) :
    Spec i P (Guard.withLock i lock code) Q := by
  refine bind (acquire hP) (fun got => ?_)
  cases got with
  | true => exact holding h hQ
  | false => exact fail

end Spec

end ShadowbaneLab.Guard
