/-
# A stop is final

Whoever holds `control.lock` knows that a control file that is not a stop stays so, and whoever
holds `runner.lock` that `current.json` does not change; these are the roles of the threads.  A stop
that `request` wrote then stays, unless a runner writes the end of an area over it, and whatever a
job's control file is read for after the stop has returned is refused (`stop_final`).
-/
import ShadowbaneLab.Foundation.Traced
import ShadowbaneLab.Guard.Control

namespace ShadowbaneLab.Guard

open Foundation List

/-! ## What a log says of a job -/

/-- No runner wrote the end of an area over a stop. -/
def Undisturbed (jobId : OperationId) (log : List Entry) : Prop :=
  ∀ i, .ended i jobId (some .stop) ∉ log

/-- After a stop of the job has returned its control file is read as a stop, no request and no new
area are accepted, and no thread that has read the control file since starts a cycle. -/
structure Final (jobId : OperationId) (log : List Entry) : Prop where
  reads : ∀ before i later, log = before ++ .returned i jobId .stop :: later →
    ∀ j mode, .read j jobId mode ∈ later → mode = .stop
  requests : ∀ before i later, log = before ++ .returned i jobId .stop :: later →
    ∀ j mode, .requested j jobId mode ∉ later
  areas : ∀ before i later, log = before ++ .returned i jobId .stop :: later →
    ∀ j, .continued j jobId ∉ later
  cycles : ∀ before i between j later,
    log = before ++ .returned i jobId .stop :: between ++ .cycle j jobId :: later →
      ∀ mode, .read j jobId mode ∉ between

/-- The last reading of the job's control file by the thread was no stop. -/
def Recent (i : ℕ) (jobId : OperationId) (log : List Entry) : Prop :=
  ∃ before mode later, log = before ++ .read i jobId mode :: later ∧ mode ≠ .stop ∧
    ∀ mode', .read i jobId mode' ∉ later

/-- What may follow a log, as far as the job is concerned. -/
def Allowed (jobId : OperationId) (log : List Entry) : Entry → Prop
  | .read _ job mode => job = jobId → mode ≠ .stop → ∀ i, .returned i jobId .stop ∉ log
  | .requested _ job _ => job = jobId → ∀ i, .returned i jobId .stop ∉ log
  | .continued _ job => job = jobId → ∀ i, .returned i jobId .stop ∉ log
  | .cycle i job => job = jobId → Recent i jobId log
  | _ => True

section Logs

variable {jobId : OperationId} {log before later : List Entry} {e : Entry} {i : ℕ}

theorem Undisturbed.of_append (h : Undisturbed jobId (log ++ later)) : Undisturbed jobId log :=
  fun i hmem => h i (mem_append_left later hmem)

/-- A thread whose last reading was no stop has not read since a stop returned. -/
theorem Final.of_recent (h : Final jobId log) (hrecent : Recent i jobId log) {k : ℕ}
    (hlog : log = before ++ .returned k jobId .stop :: later) (mode : Mode) :
    .read i jobId mode ∉ later := by
  obtain ⟨before', mode', later', hlog', hmode, hnone⟩ := hrecent
  intro hmem
  rw [hlog] at hlog'
  rcases append_eq_append_iff.mp hlog' with ⟨c, hbefore, hlater⟩ | ⟨c, hbefore, hlater⟩
  · -- the last reading comes after the stop, so it is one
    cases c with
    | nil => cases hlater
    | cons x c =>
      rw [cons_append] at hlater
      obtain ⟨-, hlater⟩ := List.cons.inj hlater
      refine hmode (h.reads before k later hlog i mode' ?_)
      rw [hlater]
      simp
  · -- it comes before the stop, and what was read after the stop comes after it
    cases c with
    | nil => cases hlater
    | cons x c =>
      rw [cons_append] at hlater
      obtain ⟨-, hlater⟩ := List.cons.inj hlater
      refine hnone mode ?_
      rw [hlater]
      simp [hmem]

/-- One more entry. -/
theorem Final.append (h : Final jobId log) (hallowed : Allowed jobId log e) :
    Final jobId (log ++ [e]) where
  reads before i later hlog j mode hmem := by
    rcases split_append hlog with ⟨-, -, rfl⟩ | ⟨c, rfl, hold⟩
    · cases hmem
    · rcases mem_append.mp hmem with hmem | hlast
      · exact h.reads before i c hold j mode hmem
      · cases mem_singleton.mp hlast
        by_contra hmode
        exact hallowed rfl hmode i (by rw [hold]; simp)
  requests before i later hlog j mode hmem := by
    rcases split_append hlog with ⟨-, -, rfl⟩ | ⟨c, rfl, hold⟩
    · cases hmem
    · rcases mem_append.mp hmem with hmem | hlast
      · exact h.requests before i c hold j mode hmem
      · cases mem_singleton.mp hlast
        exact hallowed rfl i (by rw [hold]; simp)
  areas before i later hlog j hmem := by
    rcases split_append hlog with ⟨-, -, rfl⟩ | ⟨c, rfl, hold⟩
    · cases hmem
    · rcases mem_append.mp hmem with hmem | hlast
      · exact h.areas before i c hold j hmem
      · cases mem_singleton.mp hlast
        exact hallowed rfl i (by rw [hold]; simp)
  cycles before i between j later hlog mode := by
    rcases split_append hlog with ⟨hold, rfl, -⟩ | ⟨c, -, hold⟩
    · exact h.of_recent (hallowed rfl) hold.symm mode
    · exact h.cycles before i between j c hold mode

theorem Recent.append (h : Recent i jobId log) (hlater : ∀ e ∈ later, e.thread ≠ i) :
    Recent i jobId (log ++ later) := by
  obtain ⟨before, mode, between, rfl, hmode, hnone⟩ := h
  refine ⟨before, mode, between ++ later, by simp, hmode, ?_⟩
  intro mode' hmem
  rcases mem_append.mp hmem with hmem | hmem
  · exact hnone mode' hmem
  · exact hlater _ hmem rfl

end Logs

/-! ## The team -/

/-- What holds of the store, and of what was done. -/
structure Inv (s : Store) : Prop where
  current : ∀ jobId, s.current = some jobId → jobId ∈ s.named
  named : ∀ jobId ∈ s.named, s.current = some jobId ∨ (s.records jobId).isSome = true
  requested : ∀ i jobId, .requested i jobId .stop ∈ s.log → jobId ∈ s.named
  stopped : ∀ i jobId, .requested i jobId .stop ∈ s.log → Undisturbed jobId s.log →
    s.controls jobId = some .stop
  returned : ∀ i jobId mode, .returned i jobId mode ∈ s.log → .requested i jobId mode ∈ s.log
  final : ∀ jobId, Undisturbed jobId s.log → Final jobId s.log

/-- What thread `i` relies on. -/
structure Rely (i : ℕ) (s s' : Store) : Prop where
  log : ∃ later, s'.log = s.log ++ later ∧ ∀ e ∈ later, e.thread ≠ i
  records : ∀ jobId, (s.records jobId).isSome = true → (s'.records jobId).isSome = true
  named : ∀ jobId ∈ s.named, jobId ∈ s'.named
  control : s.locks .control = some i → s'.locks .control = some i ∧
    ∀ jobId, s.controls jobId ≠ some .stop → s'.controls jobId ≠ some .stop
  runner : s.locks .runner = some i → s'.locks .runner = some i ∧ s'.current = s.current ∧
    s'.named = s.named

/-- The threads of a store. -/
def team : Team ℕ Store where
  inv := Inv
  rely := Rely
  rely_refl i s :=
    { log := ⟨[], by simp, by simp⟩
      records := fun _ h => h
      named := fun _ h => h
      control := fun h => ⟨h, fun _ h => h⟩
      runner := fun h => ⟨h, rfl, rfl⟩ }
  rely_trans i s s' s'' h h' :=
    { log := by
        obtain ⟨later, hlog, hlater⟩ := h.log
        obtain ⟨later', hlog', hlater'⟩ := h'.log
        refine ⟨later ++ later', by rw [hlog', hlog, List.append_assoc], ?_⟩
        intro e he
        exact (List.mem_append.mp he).elim (hlater e) (hlater' e)
      records := fun jobId hrec => h'.records jobId (h.records jobId hrec)
      named := fun jobId hmem => h'.named jobId (h.named jobId hmem)
      control := fun hlock => by
        obtain ⟨hlock', hfiles⟩ := h.control hlock
        obtain ⟨hlock'', hfiles'⟩ := h'.control hlock'
        exact ⟨hlock'', fun jobId hstop => hfiles' jobId (hfiles jobId hstop)⟩
      runner := fun hlock => by
        obtain ⟨hlock', hcurrent, hnamed⟩ := h.runner hlock
        obtain ⟨hlock'', hcurrent', hnamed'⟩ := h'.runner hlock'
        exact ⟨hlock'', hcurrent'.trans hcurrent, hnamed'.trans hnamed⟩ }

abbrev Knows (i : ℕ) : Type := (team.role i).Known

namespace Knows

variable {i : ℕ}

/-- The thread holds a lock. -/
def locked (i : ℕ) (lock : Lock) : Knows i where
  holds s := s.locks lock = some i
  stable _ _ h _ hlock := by
    cases lock with
    | control => exact (h.control hlock).1
    | runner => exact (h.runner hlock).1

/-- The thread holds `control.lock`, and the control file of the job is no stop. -/
def unstopped (i : ℕ) (jobId : OperationId) : Knows i where
  holds s := s.locks .control = some i ∧ s.controls jobId ≠ some .stop
  stable _ _ h _ hs := ⟨(h.control hs.1).1, (h.control hs.1).2 jobId hs.2⟩

/-- The job was current. -/
def wasCurrent (i : ℕ) (jobId : OperationId) : Knows i where
  holds s := jobId ∈ s.named
  stable _ _ h _ hs := h.named jobId hs

/-- The thread holds `runner.lock`, and `current.json` is as it was. -/
def currentIs (i : ℕ) (jobId : Option OperationId) : Knows i where
  holds s := s.locks .runner = some i ∧ s.current = jobId
  stable _ _ h _ hs := ⟨(h.runner hs.1).1, (h.runner hs.1).2.1.trans hs.2⟩

/-- The thread holds `runner.lock`, and the current job has a record. -/
def readable (i : ℕ) : Knows i where
  holds s := s.locks .runner = some i ∧
    ∀ jobId, s.current = some jobId → (s.records jobId).isSome = true
  stable s s' h _ hs := by
    obtain ⟨hlock, hcurrent, -⟩ := h.runner hs.1
    refine ⟨hlock, ?_⟩
    intro jobId hjob
    rw [hcurrent] at hjob
    exact h.records jobId (hs.2 jobId hjob)

/-- In addition the job was never current. -/
def fresh (i : ℕ) (jobId : OperationId) : Knows i where
  holds s := (readable i).holds s ∧ jobId ∉ s.named
  stable s s' h hinv hs := by
    refine ⟨(readable i).stable s s' h hinv hs.1, ?_⟩
    rw [(h.runner hs.1.1).2.2]
    exact hs.2

/-- Something that the entries of others do not destroy. -/
def ofLog (p : List Entry → Prop)
    (hp : ∀ log later, (∀ e ∈ later, e.thread ≠ i) → p log → p (log ++ later)) : Knows i where
  holds s := p s.log
  stable s s' h _ hs := by
    obtain ⟨later, hlog, hlater⟩ := h.log
    rw [hlog]
    exact hp s.log later hlater hs

/-- The thread's request was written. -/
def asked (i : ℕ) (jobId : OperationId) (mode : Mode) : Knows i :=
  ofLog (fun log => .requested i jobId mode ∈ log)
    fun _ later _ h => List.mem_append_left later h

/-- The thread's last reading was no stop. -/
def recent (i : ℕ) (jobId : OperationId) : Knows i :=
  ofLog (Recent i jobId) fun _ _ hlater h => h.append hlater

end Knows

/-! ## Steps -/

section Steps

variable {s : Store} {i : ℕ}

/-- A thread that leaves the files that others rely on alone. -/
theorem Rely.of_log {s' : Store} {j : ℕ} {later : List Entry} (hlog : s'.log = s.log ++ later)
    (hthread : ∀ e ∈ later, e.thread ≠ j)
    (hrecords : ∀ jobId, (s.records jobId).isSome = true → (s'.records jobId).isSome = true)
    (hcontrols : ∀ jobId, s.controls jobId ≠ some .stop → s'.controls jobId ≠ some .stop)
    (hlocks : s'.locks = s.locks) (hcurrent : s'.current = s.current)
    (hnamed : s'.named = s.named) : Rely j s s' where
  log := ⟨later, hlog, hthread⟩
  records := hrecords
  named jobId hmem := by rwa [hnamed]
  control hlock := ⟨by rwa [hlocks], hcontrols⟩
  runner hlock := ⟨by rwa [hlocks], hcurrent, hnamed⟩

/-- An entry that is no request, no new area and no end of an area. -/
theorem Inv.append (h : Inv s) {e : Entry} (hrequested : ∀ i jobId mode, e ≠ .requested i jobId mode)
    (hreturned : ∀ i jobId mode, e = .returned i jobId mode → .requested i jobId mode ∈ s.log)
    (hallowed : ∀ jobId, Undisturbed jobId s.log → Allowed jobId s.log e) :
    Inv { s with log := s.log ++ [e] } where
  current := h.current
  named := h.named
  requested i jobId hmem := by
    rcases mem_append.mp hmem with hmem | hlast
    · exact h.requested i jobId hmem
    · exact absurd (mem_singleton.mp hlast).symm (hrequested i jobId .stop)
  stopped i jobId hmem hundisturbed := by
    rcases mem_append.mp hmem with hmem | hlast
    · exact h.stopped i jobId hmem hundisturbed.of_append
    · exact absurd (mem_singleton.mp hlast).symm (hrequested i jobId .stop)
  returned i jobId mode hmem := by
    rcases mem_append.mp hmem with hmem | hlast
    · exact mem_append_left _ (h.returned i jobId mode hmem)
    · exact mem_append_left _ (hreturned i jobId mode (mem_singleton.mp hlast).symm)
  final jobId hundisturbed :=
    (h.final jobId hundisturbed.of_append).append (hallowed jobId hundisturbed.of_append)

variable {jobId : OperationId}

/-- No stop of a job returned whose control file is something else. -/
theorem Inv.not_returned (h : Inv s) (hstop : s.controls jobId ≠ some .stop)
    (hundisturbed : Undisturbed jobId s.log) (k : ℕ) : .returned k jobId .stop ∉ s.log :=
  fun hmem => hstop (h.stopped k jobId (h.returned k jobId .stop hmem) hundisturbed)

/-- The control file is written, over something that is no stop or for a job that was never
current. -/
theorem Inv.writeControl (h : Inv s) {mode : Mode} {entries : List Entry}
    (hfree : Undisturbed jobId (s.log ++ entries) → ∀ k, .requested k jobId .stop ∉ s.log)
    (hentries : entries = [] ∨ (∃ i, entries = [.requested i jobId mode] ∧ jobId ∈ s.named) ∨
      (∃ i, entries = [.continued i jobId]) ∨ ∃ i before, entries = [.ended i jobId before]) :
    Inv { s with
      controls := Function.update s.controls jobId (some mode)
      log := s.log ++ entries } where
  current := h.current
  named := h.named
  requested i job hmem := by
    rcases mem_append.mp hmem with hmem | hnew
    · exact h.requested i job hmem
    · rcases hentries with rfl | ⟨k, rfl, hnamed⟩ | ⟨k, rfl⟩ | ⟨k, before, rfl⟩
      · cases hnew
      · cases mem_singleton.mp hnew
        exact hnamed
      · cases mem_singleton.mp hnew
      · cases mem_singleton.mp hnew
  stopped i job hmem hundisturbed := by
    by_cases hjob : job = jobId
    · subst hjob
      rcases mem_append.mp hmem with hmem | hnew
      · exact absurd hmem (hfree hundisturbed i)
      · rcases hentries with rfl | ⟨k, rfl, hnamed⟩ | ⟨k, rfl⟩ | ⟨k, before, rfl⟩
        · cases hnew
        · cases mem_singleton.mp hnew
          exact Function.update_self _ _ _
        · cases mem_singleton.mp hnew
        · cases mem_singleton.mp hnew
    · show Function.update s.controls jobId (some mode) job = _
      rw [Function.update_of_ne hjob]
      rcases mem_append.mp hmem with hmem | hnew
      · exact h.stopped i job hmem hundisturbed.of_append
      · rcases hentries with rfl | ⟨k, rfl, hnamed⟩ | ⟨k, rfl⟩ | ⟨k, before, rfl⟩
        · cases hnew
        · cases mem_singleton.mp hnew
          exact absurd rfl hjob
        · cases mem_singleton.mp hnew
        · cases mem_singleton.mp hnew
  returned i job mode' hmem := by
    rcases mem_append.mp hmem with hmem | hnew
    · exact mem_append_left _ (h.returned i job mode' hmem)
    · rcases hentries with rfl | ⟨k, rfl, hnamed⟩ | ⟨k, rfl⟩ | ⟨k, before, rfl⟩
      · cases hnew
      · cases mem_singleton.mp hnew
      · cases mem_singleton.mp hnew
      · cases mem_singleton.mp hnew
  final job hundisturbed := by
    have hold := h.final job hundisturbed.of_append
    have hnone : job = jobId → ∀ k, .returned k job .stop ∉ s.log := by
      rintro rfl k hmem
      exact hfree hundisturbed k (h.returned k job .stop hmem)
    rcases hentries with rfl | ⟨k, rfl, -⟩ | ⟨k, rfl⟩ | ⟨k, before, rfl⟩
    · rw [append_nil]
      exact hold
    · exact hold.append (fun hjob => hnone hjob.symm)
    · exact hold.append (fun hjob => hnone hjob.symm)
    · exact hold.append trivial

/-- A lock is free that another thread does not hold. -/
theorem Rely.of_locks {j : ℕ} {locks : Lock → Option ℕ}
    (h : ∀ lock, s.locks lock = some j → locks lock = some j) :
    Rely j s { s with locks := locks } where
  log := ⟨[], by simp, by simp⟩
  records _ h := h
  named _ h := h
  control hlock := ⟨h .control hlock, fun _ h => h⟩
  runner hlock := ⟨h .runner hlock, rfl, rfl⟩

theorem Inv.of_locks (h : Inv s) (locks : Lock → Option ℕ) : Inv { s with locks := locks } :=
  ⟨h.current, h.named, h.requested, h.stopped, h.returned, h.final⟩

theorem Inv.free (h : Inv s) (i : ℕ) (lock : Lock) : Inv (s.free i lock) := by
  unfold Store.free
  split
  · exact h.of_locks _
  · exact h

theorem Rely.of_free (s : Store) {i j : ℕ} (hj : j ≠ i) (lock : Lock) :
    Rely j s (s.free i lock) := by
  unfold Store.free
  split
  · rename_i hheld
    refine Rely.of_locks ?_
    intro lock' hlock
    by_cases hsame : lock' = lock
    · subst hsame
      rw [hheld] at hlock
      exact absurd (Option.some.inj hlock).symm hj
    · rwa [Function.update_of_ne hsame]
  · exact team.rely_refl j s

@[simp] theorem Store.free_log (s : Store) (i : ℕ) (lock : Lock) : (s.free i lock).log = s.log := by
  unfold Store.free
  split <;> rfl

/-- A crash keeps the invariant, and the others may rely on it. -/
theorem crash_sound (i : ℕ) (s : Store) (h : Inv s) :
    Inv (crash i s) ∧ ∀ j, j ≠ i → Rely j s (crash i s) :=
  ⟨(h.free i .control).free i .runner, fun j hj =>
    team.rely_trans j (Rely.of_free s hj .control) (Rely.of_free _ hj .runner)⟩

end Steps

end ShadowbaneLab.Guard
