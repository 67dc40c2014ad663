/-
# What a preparation policy proposes

A log of a policy's run holds the observations it accepted, the proposals it submitted and the
receipts it accepted.  What resolves an application is said of the log alone (`Resolved`, `Ends`);
reconciliation releases an application only when the observation resolves it
(`Released.of_reconcile`).
-/
import ShadowbaneLab.Foundation.Traced
import ShadowbaneLab.Pve.Preparation

namespace ShadowbaneLab.Pve

open Foundation

/-! ## Runs -/

/-- A call of the policy. -/
inductive Call
  | advance (o : PreparationObservation)
  | acknowledge (ack : PreparationAcknowledgement)

/-- What is seen of a call that returned. -/
inductive Event
  | observed (o : PreparationObservation)
  | submitted (o : PreparationObservation) (p : PreparationProposal)
  | acknowledged (ack : PreparationAcknowledgement)

/-- What `advance` did with an observation: a polled proposal is not submitted again. -/
def PreparationDecision.events (decision : PreparationDecision) (o : PreparationObservation) :
    List Event :=
  .observed o :: if decision.pollPending then [] else decision.proposal.toList.map (.submitted o)

namespace PreparationPolicy

variable (policy : PreparationPolicy)

/-- The calls up to the first that raises. -/
def run (s : PolicyState) : List Call → List Event
  | [] => []
  | .advance o :: calls =>
    match policy.advance s o with
    | .ok (decision, s') => decision.events o ++ run s' calls
    | .error _ => []
  | .acknowledge ack :: calls =>
    match s.acknowledge ack with
    | .ok s' => .acknowledged ack :: run s' calls
    | .error _ => []

/-- The log of a new policy. -/
def log (calls : List Call) : List Event := policy.run .init calls

end PreparationPolicy

/-! ## What a log says -/

/-- A complete observation shows a group present, without a pending application. -/
def Shows (l : PreparationObservation) (group : Text) : Prop :=
  l.complete = true ∧ (∃ e ∈ l.coverage, e.groupId = group ∧ e.state = .present) ∧
    group ∉ l.pendingApplications

/-- A receipt of the proposal names the submission. -/
def Named (p : PreparationProposal) (submission : ApplicationSubmission) (log : List Event) : Prop :=
  ∃ ack, .acknowledged ack ∈ log ∧ ack.proposal = p ∧ ack.submission = some submission

/-- A receipt of the proposal says that its application may have reached the server. -/
def Applied (p : PreparationProposal) (log : List Event) : Prop :=
  ∃ ack, .acknowledged ack ∈ log ∧ ack.proposal = p ∧ ack.applied = true

/-- The proposal was settled locally. -/
def Settled (p : PreparationProposal) (log : List Event) : Prop :=
  ∃ ack, .acknowledged ack ∈ log ∧ ack.proposal = p ∧ ack.localSettled = true

/-- What came after the submission of `p`, for the observation `o`, resolves its application: unless
it was a renewal, a newer observation that shows its group; or terminal evidence that names its
submission. -/
def Resolved (o : PreparationObservation) (p : PreparationProposal) (log : List Event) : Prop :=
  ∃ l, .observed l ∈ log ∧
    ((o.renewalDue p.groupId = false ∧ Shows l p.groupId ∧
        p.publicationEpoch.val < l.publicationEpoch.val) ∨
      ∃ v ∈ l.applicationHistory, v.state ≠ .pending ∧ v.groupId = p.groupId ∧
        Named p v.submission log)

/-- An observation ends the application of which `v` is the pending evidence: it shows the group
after the submission, or its history names the submission as terminal, or as another group's. -/
def Ends (l : PreparationObservation) (v : ApplicationEvidence) : Prop :=
  (Shows l v.groupId ∧ v.submission.submittedRevision.val < l.publicationEpoch.val) ∨
    (∃ w ∈ l.applicationHistory, w.state ≠ .pending ∧ w.submission = v.submission ∧
      w.groupId = v.groupId) ∨
    ∃ w ∈ l.applicationHistory, w.state = .pending ∧ w.submission = v.submission ∧
      w.groupId ≠ v.groupId

section Mono

variable {o : PreparationObservation} {p : PreparationProposal} {x : ApplicationSubmission}
  {log : List Event}

theorem Named.append (h : Named p x log) (later : List Event) : Named p x (log ++ later) := by
  obtain ⟨ack, hmem, hack⟩ := h
  exact ⟨ack, List.mem_append_left later hmem, hack⟩

theorem Settled.append (h : Settled p log) (later : List Event) : Settled p (log ++ later) := by
  obtain ⟨ack, hmem, hack⟩ := h
  exact ⟨ack, List.mem_append_left later hmem, hack⟩

theorem Resolved.append (h : Resolved o p log) (later : List Event) :
    Resolved o p (log ++ later) := by
  obtain ⟨l, hmem, hshows | ⟨v, hv, hstate, hgroup, hnamed⟩⟩ := h
  · exact ⟨l, List.mem_append_left later hmem, .inl hshows⟩
  · exact ⟨l, List.mem_append_left later hmem, .inr ⟨v, hv, hstate, hgroup, hnamed.append later⟩⟩

/-- A receipt names a submission at the epoch of its proposal. -/
theorem Named.revision (h : Named p x log) : x.submittedRevision = p.publicationEpoch := by
  obtain ⟨ack, -, rfl, hsubmission⟩ := h
  exact ack.submitted x hsubmission

/-- An event that is no receipt of the proposal says nothing of its application. -/
theorem Applied.of_append {e : Event} (h : Applied p (log ++ [e]))
    (he : ∀ ack, e = .acknowledged ack → ack.proposal = p → ack.applied = false) :
    Applied p log := by
  obtain ⟨ack, hmem, hproposal, happlied⟩ := h
  rcases List.mem_append.mp hmem with hmem | hlast
  · exact ⟨ack, hmem, hproposal, happlied⟩
  · have hfalse := he ack (List.mem_singleton.mp hlast).symm hproposal
    rw [happlied] at hfalse
    cases hfalse

end Mono

/-! ## Reconciliation -/

/-- What reconciliation with an observation may do to the ledgers: it only releases, and each
release has its reason in the observation. -/
structure Released (l : PreparationObservation) (s s' : PolicyState) : Prop where
  last : s'.last = s.last
  pending : s'.pending = s.pending
  pendingRenewal : s'.pendingRenewal = s.pendingRenewal
  pendingSubmission : s'.pendingSubmission = s.pendingSubmission
  sequence : s'.sequence = s.sequence
  rejected : s'.rejected = s.rejected
  refusedAt : s'.refusedAt = s.refusedAt
  afterCapture : s'.afterCapture = s.afterCapture
  kept : ∀ group epoch, s.applications.get? group = some epoch →
    s'.applications.get? group = some epoch ∨
      (Shows l group ∧ epoch < l.publicationEpoch.val ∧ group ∉ s.renewalApplications) ∨
      ∃ v ∈ l.applicationHistory, v.state ≠ .pending ∧ v.groupId = group ∧
        s.applicationSubmissions.get? group = some v.submission
  absent : ∀ group, s.applications.get? group = none → s'.applications.get? group = none
  submission : ∀ group x, s'.applicationSubmissions.get? group = some x →
    s.applicationSubmissions.get? group = some x
  orphan : (∀ group, s.applications.get? group = none →
      s.applicationSubmissions.get? group = none) →
    ∀ group, s'.applications.get? group = none → s'.applicationSubmissions.get? group = none
  renewal : ∀ group epoch, s'.applications.get? group = some epoch →
    group ∈ s.renewalApplications → group ∈ s'.renewalApplications
  resolved : s'.applicationResolved = true → s.applicationResolved = true ∨
    ∃ p, s.pending = some p ∧
      ((Shows l p.groupId ∧ p.publicationEpoch.val < l.publicationEpoch.val ∧
          s.pendingRenewal = false) ∨
        ∃ v ∈ l.applicationHistory, v.state ≠ .pending ∧ v.groupId = p.groupId ∧
          s.pendingSubmission = some v.submission)
  native : ∀ x group, s.nativeApplications.get? x = some group →
    s'.nativeApplications.get? x = some group ∨
      (Shows l group ∧ x.submittedRevision.val < l.publicationEpoch.val) ∨
      ∃ v ∈ l.applicationHistory, v.state ≠ .pending ∧ v.submission = x ∧ v.groupId = group
  unidentified : ∀ group, s.unidentifiedApplications.contains group = true →
    s'.unidentifiedApplications.contains group = true ∨ Shows l group

namespace Released

variable {l : PreparationObservation} {s s' s'' : PolicyState}

theorem refl (l : PreparationObservation) (s : PolicyState) : Released l s s where
  last := rfl
  pending := rfl
  pendingRenewal := rfl
  pendingSubmission := rfl
  sequence := rfl
  rejected := rfl
  refusedAt := rfl
  afterCapture := rfl
  kept _ _ h := .inl h
  absent _ h := h
  submission _ _ h := h
  orphan h := h
  renewal _ _ _ h := h
  resolved h := .inl h
  native _ _ h := .inl h
  unidentified _ h := .inl h

theorem trans (h : Released l s s') (h' : Released l s' s'') : Released l s s'' where
  last := h'.last.trans h.last
  pending := h'.pending.trans h.pending
  pendingRenewal := h'.pendingRenewal.trans h.pendingRenewal
  pendingSubmission := h'.pendingSubmission.trans h.pendingSubmission
  sequence := h'.sequence.trans h.sequence
  rejected := h'.rejected.trans h.rejected
  refusedAt := h'.refusedAt.trans h.refusedAt
  afterCapture := h'.afterCapture.trans h.afterCapture
  kept group epoch hget := by
    rcases h.kept group epoch hget with hmid | hwhy
    · rcases h'.kept group epoch hmid with hend | ⟨hshows, hepoch, hnew⟩ | ⟨v, hv, hstate, hgroup, hx⟩
      · exact .inl hend
      · -- what is kept stays a renewal, so it was none before
        exact .inr (.inl ⟨hshows, hepoch, fun hold => hnew (h.renewal group epoch hmid hold)⟩)
      · exact .inr (.inr ⟨v, hv, hstate, hgroup, h.submission _ _ hx⟩)
    · exact .inr hwhy
  absent group hget := h'.absent group (h.absent group hget)
  submission group x hget := h.submission group x (h'.submission group x hget)
  orphan horphan := h'.orphan (h.orphan horphan)
  renewal group epoch hget hmem := by
    cases hmid : s'.applications.get? group with
    | none =>
      rw [h'.absent group hmid] at hget
      cases hget
    | some mid => exact h'.renewal group epoch hget (h.renewal group mid hmid hmem)
  resolved hres := by
    rcases h'.resolved hres with hmid | hwhy
    · exact h.resolved hmid
    · rw [h.pending, h.pendingRenewal, h.pendingSubmission] at hwhy
      exact .inr hwhy
  native x group hget := by
    rcases h.native x group hget with hmid | hwhy
    · exact h'.native x group hmid
    · exact .inr hwhy
  unidentified group hget := by
    rcases h.unidentified group hget with hmid | hwhy
    · exact h'.unidentified group hmid
    · exact .inr hwhy

end Released

variable {l : PreparationObservation}

variable {s : PolicyState}

/-- What `present` says. -/
theorem PolicyState.present_eq_true {group : Text} (hcomplete : l.complete = true)
    (h : s.present l group = true) :
    Shows l group ∧ group ∉ s.renewalApplications ∧
      ∀ p, s.pending = some p → p.groupId = group → s.pendingRenewal = false := by
  obtain ⟨hcovered, hpending, hrenewal, hproposal⟩ := of_decide_eq_true h
  refine ⟨⟨hcomplete, hcovered, hpending⟩, hrenewal, ?_⟩
  intro p hp hgroup
  rw [Bool.eq_false_iff]
  exact fun htrue => hproposal ⟨htrue, p, hp, hgroup⟩

/-- The state before the loop over the history. -/
theorem Released.of_release (hcomplete : l.complete = true) :
    Released l s (s.release (s.present l) l.publicationEpoch.val) where
  last := rfl
  pending := rfl
  pendingRenewal := rfl
  pendingSubmission := rfl
  sequence := rfl
  rejected := rfl
  refusedAt := rfl
  afterCapture := rfl
  kept group epoch hget := by
    by_cases hgone : (s.present l group && decide (epoch < l.publicationEpoch.val)) = true
    · rw [Bool.and_eq_true, decide_eq_true_eq] at hgone
      obtain ⟨hshows, hrenewal, -⟩ := PolicyState.present_eq_true hcomplete hgone.1
      exact .inr (.inl ⟨hshows, hgone.2, hrenewal⟩)
    · exact .inl ((Dict.get?_filter _ _ _ _).mpr ⟨hget, (Bool.not_eq_true' _).mpr (Bool.eq_false_iff.mpr hgone)⟩)
  absent group hget := by
    rw [Option.eq_none_iff_forall_ne_some]
    intro epoch hsome
    obtain ⟨hold, -⟩ := (Dict.get?_filter _ _ _ _).mp hsome
    rw [hget] at hold
    cases hold
  submission group x hget := ((Dict.get?_filter _ _ _ _).mp hget).1
  orphan horphan group hnone := by
    rw [Option.eq_none_iff_forall_ne_some]
    intro x hsome
    obtain ⟨hx, hkeep⟩ := (Dict.get?_filter _ _ _ _).mp hsome
    -- the submission was kept, so its application was
    cases hget : s.applications.get? group with
    | none =>
      rw [horphan group hget] at hx
      cases hx
    | some epoch =>
      rw [hget] at hkeep
      have hkept := (Dict.get?_filter _ (fun group at_ =>
        !(s.present l group && decide (at_ < l.publicationEpoch.val))) group epoch).mpr
          ⟨hget, hkeep⟩
      rw [PolicyState.release] at hnone
      rw [hnone] at hkept
      cases hkept
  renewal _ _ _ h := h
  resolved h := .inl h
  native x group hget := by
    by_cases hgone :
        (s.present l group && decide (x.submittedRevision.val < l.publicationEpoch.val)) = true
    · rw [Bool.and_eq_true, decide_eq_true_eq] at hgone
      obtain ⟨hshows, -, -⟩ := PolicyState.present_eq_true hcomplete hgone.1
      exact .inr (.inl ⟨hshows, hgone.2⟩)
    · exact .inl ((Dict.get?_filter _ _ _ _).mpr ⟨hget, (Bool.not_eq_true' _).mpr (Bool.eq_false_iff.mpr hgone)⟩)
  unidentified group hmem := by
    obtain ⟨epoch, hget⟩ := Option.isSome_iff_exists.mp hmem
    by_cases hgone : (s.present l group && decide (epoch < l.publicationEpoch.val)) = true
    · rw [Bool.and_eq_true] at hgone
      exact .inr (PolicyState.present_eq_true hcomplete hgone.1).1
    · refine .inl (Option.isSome_iff_exists.mpr ⟨epoch, ?_⟩)
      exact (Dict.get?_filter _ _ _ _).mpr ⟨hget, (Bool.not_eq_true' _).mpr (Bool.eq_false_iff.mpr hgone)⟩

section Conclude

variable {l : PreparationObservation} {s : PolicyState} {v : ApplicationEvidence}

theorem Released.of_concludeNative (hv : v ∈ l.applicationHistory) (hstate : v.state ≠ .pending) :
    Released l s (s.concludeNative v) := by
  unfold PolicyState.concludeNative
  split
  · rename_i hnamed
    refine { Released.refl l s with native := ?_ }
    intro x group hget
    by_cases hx : v.submission = x
    · subst hx
      rw [hnamed] at hget
      exact Or.inr (Or.inr ⟨v, hv, hstate, rfl, Option.some.inj hget⟩)
    · exact Or.inl (by simpa [Dict.get?_erase, hx] using hget)
  · exact Released.refl l s

theorem Released.of_concludeLocal (hv : v ∈ l.applicationHistory) (hstate : v.state ≠ .pending) :
    Released l s (s.concludeLocal v) := by
  unfold PolicyState.concludeLocal
  split
  · rename_i hnamed
    refine { Released.refl l s with
      kept := ?_, absent := ?_, submission := ?_, orphan := ?_, renewal := ?_ }
    · intro group epoch hget
      by_cases hgroup : v.groupId = group
      · subst hgroup
        exact Or.inr (Or.inr ⟨v, hv, hstate, rfl, hnamed⟩)
      · exact Or.inl (by simpa [Dict.get?_erase, hgroup] using hget)
    · intro group hget
      by_cases hgroup : v.groupId = group
      · simp [Dict.get?_erase, hgroup]
      · simpa [Dict.get?_erase, hgroup] using hget
    · intro group x hget
      by_cases hgroup : v.groupId = group
      · simp [Dict.get?_erase, hgroup] at hget
      · simpa [Dict.get?_erase, hgroup] using hget
    · intro horphan group hget
      by_cases hgroup : v.groupId = group
      · simp [Dict.get?_erase, hgroup]
      · have hold : s.applications.get? group = none := by
          simpa [Dict.get?_erase, hgroup] using hget
        simpa [Dict.get?_erase, hgroup] using horphan group hold
    · intro group epoch hget hmem
      by_cases hgroup : v.groupId = group
      · simp [Dict.get?_erase, hgroup] at hget
      · exact Finset.mem_erase.mpr ⟨Ne.symm hgroup, hmem⟩
  · exact Released.refl l s

theorem Released.of_concludePending (hv : v ∈ l.applicationHistory) (hstate : v.state ≠ .pending) :
    Released l s (s.concludePending v) := by
  unfold PolicyState.concludePending
  split
  · rename_i hnamed
    obtain ⟨⟨p, hp, hgroup⟩, hx⟩ := hnamed
    refine { Released.refl l s with resolved := ?_ }
    exact fun _ => Or.inr ⟨p, hp, Or.inr ⟨v, hv, hstate, hgroup.symm, hx⟩⟩
  · exact Released.refl l s

theorem Released.of_conclude (hv : v ∈ l.applicationHistory) : Released l s (s.conclude v) := by
  unfold PolicyState.conclude
  split
  · exact .refl l s
  · rename_i hstate
    exact ((Released.of_concludeNative hv hstate).trans (Released.of_concludeLocal hv hstate)).trans
      (.of_concludePending hv hstate)

/-- The loop over the history. -/
theorem Released.of_concludes :
    ∀ (vs : List ApplicationEvidence) (s : PolicyState), (∀ v ∈ vs, v ∈ l.applicationHistory) →
      Released l s (vs.foldl PolicyState.conclude s)
  | [], _, _ => .refl l _
  | v :: vs, _, hvs =>
    (Released.of_conclude (hvs v List.mem_cons_self)).trans
      (.of_concludes vs _ (fun w hw => hvs w (List.mem_cons_of_mem v hw)))

theorem Released.of_remember {present : Text → Bool}
    (hpresent : ∀ p, s.pending = some p → present p.groupId = true →
      Shows l p.groupId ∧ s.pendingRenewal = false) :
    Released l s (s.remember present l.publicationEpoch.val) := by
  unfold PolicyState.remember
  split
  · rename_i hseen
    obtain ⟨p, hp, hgroup, hepoch⟩ := hseen
    obtain ⟨hshows, hrenewal⟩ := hpresent p hp hgroup
    refine { Released.refl l s with resolved := ?_ }
    exact fun _ => Or.inr ⟨p, hp, Or.inl ⟨hshows, hepoch, hrenewal⟩⟩
  · exact Released.refl l s

end Conclude

/-- `_reconcile_applications` only releases what the observation resolves. -/
theorem Released.of_reconcile (l : PreparationObservation) (s : PolicyState) :
    Released l s (s.reconcile l) := by
  unfold PolicyState.reconcile
  split
  · exact .refl l s
  · rename_i hincomplete
    have hcomplete : l.complete = true := by simpa using hincomplete
    have hloop := (Released.of_release (s := s) hcomplete).trans
      (.of_concludes l.applicationHistory _ (fun v hv => hv))
    refine hloop.trans (.of_remember ?_)
    intro p hp hpresent
    rw [hloop.pending] at hp
    obtain ⟨hshows, -, hrenewal⟩ := PolicyState.present_eq_true hcomplete hpresent
    exact ⟨hshows, hloop.pendingRenewal.trans (hrenewal p hp rfl)⟩

end ShadowbaneLab.Pve
