/-
# Preparation never applies twice

Two invariants relate the log of a policy to its state: `Ledgers`, on the applications that may
still be open, and `Fences`, on what was refused, rejected and settled.  Every call keeps both, and
at a submission they say that nothing of its group is open (`submits_once`).
-/
import ShadowbaneLab.Pve.PreparationRuns

namespace ShadowbaneLab.Pve

open Foundation List

/-! ## The ledgers -/

/-- An applied proposal suppresses its group until its own evidence comes. -/
structure Suppressed (s : PolicyState) (o : PreparationObservation) (p : PreparationProposal)
    (later : List Event) : Prop where
  application : s.applications.get? p.groupId = some p.publicationEpoch.val
  submission : ∀ x, s.applicationSubmissions.get? p.groupId = some x → Named p x later
  renewal : o.renewalDue p.groupId = true → p.groupId ∈ s.renewalApplications

/-- What the state still knows of the proposal `p`, submitted for `o`; `later` is what came since. -/
structure Kept (s : PolicyState) (o : PreparationObservation) (p : PreparationProposal)
    (later : List Event) : Prop where
  epoch : p.publicationEpoch = o.publicationEpoch
  latest : ∃ l, s.last = some l ∧ (l = o ∨ .observed l ∈ later)
  sequence : p.sequence ≤ s.sequence
  settled : s.pending = some p ∨ Settled p later
  pendingRenewal : s.pending = some p → s.pendingRenewal = o.renewalDue p.groupId
  pendingSubmission : s.pending = some p → ∀ x, s.pendingSubmission = some x → Named p x later
  resolved : s.pending = some p → s.applicationResolved = true → Resolved o p later
  absent : s.pending = some p → ¬ Applied p later → s.applications.get? p.groupId = none
  older : ∀ q, s.pending = some q → q ≠ p → q.groupId = p.groupId → Applied p later →
    Resolved o p later
  applied : Applied p later → Resolved o p later ∨ Suppressed s o p later

/-- The state's ledgers cover every application that the log leaves open. -/
structure Ledgers (log : List Event) (s : PolicyState) : Prop where
  submitted : ∀ a o p b, log = a ++ .submitted o p :: b → Kept s o p b
  latest : ∀ a o b, log = a ++ .observed o :: b → ∃ l, s.last = some l ∧
    .observed l ∈ Event.observed o :: b
  orphan : ∀ group, s.applications.get? group = none →
    s.applicationSubmissions.get? group = none
  native : ∀ a o b, log = a ++ .observed o :: b → ∀ v ∈ o.applicationHistory, v.state = .pending →
    s.nativeApplications.get? v.submission = some v.groupId ∨
      ∃ l, .observed l ∈ Event.observed o :: b ∧ Ends l v
  unidentified : ∀ a o b, log = a ++ .observed o :: b → ∀ group ∈ o.pendingApplications,
    group ∉ o.identified → s.unidentifiedApplications.contains group = true ∨
      ∃ l, .observed l ∈ b ∧ Shows l group

theorem Ledgers.init : Ledgers [] .init where
  submitted a o p b h := by simp at h
  latest a o b h := by simp at h
  orphan _ _ := rfl
  native a o b h := by simp at h
  unidentified a o b h := by simp at h

/-! ### Reconciliation -/

section Reconcile

variable {log later : List Event} {s s' : PolicyState} {l o : PreparationObservation}
  {p : PreparationProposal}

/-- A newer observation than that of the submission came after it. -/
theorem Kept.mem_of_epoch (h : Kept s o p later) (hlast : s.last = some l)
    (hepoch : p.publicationEpoch.val < l.publicationEpoch.val) : .observed l ∈ later := by
  obtain ⟨l', hl', rfl | hmem⟩ := h.latest
  · rw [hlast] at hl'
    cases hl'
    rw [h.epoch] at hepoch
    exact absurd hepoch (lt_irrefl _)
  · rw [hlast] at hl'
    cases hl'
    exact hmem

/-- Terminal evidence for a submission at the epoch of the proposal is newer than the proposal. -/
theorem Kept.resolved_of_evidence (h : Kept s o p later) (hlast : s.last = some l)
    {v : ApplicationEvidence} (hv : v ∈ l.applicationHistory) (hstate : v.state ≠ .pending)
    (hgroup : v.groupId = p.groupId) (hnamed : Named p v.submission later) :
    Resolved o p later := by
  have hordered := v.ordered
  rw [if_neg hstate] at hordered
  have hdated := (l.history_dated v hv).2
  have hepoch : p.publicationEpoch.val < l.publicationEpoch.val := by
    rw [← hnamed.revision]
    omega
  exact ⟨l, h.mem_of_epoch hlast hepoch, .inr ⟨v, hv, hstate, hgroup, hnamed⟩⟩

/-- What reconciliation releases of a submitted proposal is resolved. -/
theorem Kept.reconciled (h : Kept s o p later) (hlast : s.last = some l)
    (hr : Released l s s') : Kept s' o p later where
  epoch := h.epoch
  latest := by
    rw [hr.last]
    exact h.latest
  sequence := by
    rw [hr.sequence]
    exact h.sequence
  settled := by
    rw [hr.pending]
    exact h.settled
  pendingRenewal := by
    rw [hr.pending, hr.pendingRenewal]
    exact h.pendingRenewal
  pendingSubmission := by
    rw [hr.pending, hr.pendingSubmission]
    exact h.pendingSubmission
  resolved hp hres := by
    rw [hr.pending] at hp
    rcases hr.resolved hres with hold | ⟨q, hq, hwhy⟩
    · exact h.resolved hp hold
    · obtain rfl : p = q := Option.some.inj (hp.symm.trans hq)
      rcases hwhy with ⟨hshows, hepoch, hrenewal⟩ | ⟨v, hv, hstate, hgroup, hx⟩
      · rw [h.pendingRenewal hp] at hrenewal
        exact ⟨l, h.mem_of_epoch hlast hepoch, .inl ⟨hrenewal, hshows, hepoch⟩⟩
      · exact h.resolved_of_evidence hlast hv hstate hgroup (h.pendingSubmission hp _ hx)
  absent hp happlied := by
    rw [hr.pending] at hp
    exact hr.absent _ (h.absent hp happlied)
  older q hq hne hgroup happlied := by
    rw [hr.pending] at hq
    exact h.older q hq hne hgroup happlied
  applied happlied := by
    rcases h.applied happlied with hres | hsup
    · exact .inl hres
    · rcases hr.kept _ _ hsup.application with hkept | ⟨hshows, hepoch, hrenewal⟩ |
        ⟨v, hv, hstate, hgroup, hx⟩
      · refine .inr ⟨hkept, ?_, ?_⟩
        · exact fun x hx => hsup.submission x (hr.submission _ x hx)
        · exact fun hdue => hr.renewal _ _ hkept (hsup.renewal hdue)
      · have hdue : o.renewalDue p.groupId = false :=
          Bool.eq_false_iff.mpr (fun htrue => hrenewal (hsup.renewal htrue))
        exact .inl ⟨l, h.mem_of_epoch hlast hepoch, .inl ⟨hdue, hshows, hepoch⟩⟩
      · exact .inl (h.resolved_of_evidence hlast hv hstate hgroup (hsup.submission _ hx))

/-- Reconciliation with the last observation keeps the ledgers. -/
theorem Ledgers.reconciled (h : Ledgers log s) (hlast : s.last = some l)
    (hr : Released l s s') : Ledgers log s' where
  submitted a o p b hlog := (h.submitted a o p b hlog).reconciled hlast hr
  latest a o b hlog := by
    rw [hr.last]
    exact h.latest a o b hlog
  orphan := hr.orphan h.orphan
  native a o b hlog v hv hstate := by
    obtain ⟨l', hl', hmem⟩ := h.latest a o b hlog
    obtain rfl : l = l' := Option.some.inj (hlast.symm.trans hl')
    rcases h.native a o b hlog v hv hstate with hget | hended
    · rcases hr.native _ _ hget with hkept | hshows | ⟨w, hw, hw'⟩
      · exact .inl hkept
      · exact .inr ⟨l, hmem, .inl hshows⟩
      · exact .inr ⟨l, hmem, .inr (.inl ⟨w, hw, hw'⟩)⟩
    · exact .inr hended
  unidentified a o b hlog group hgroup hnot := by
    rcases h.unidentified a o b hlog group hgroup hnot with hget | hended
    · rcases hr.unidentified group hget with hkept | hshows
      · exact .inl hkept
      · -- the observation that reported the group as pending does not show it
        obtain ⟨l', hl', hmem⟩ := h.latest a o b hlog
        obtain rfl : l = l' := Option.some.inj (hlast.symm.trans hl')
        rcases mem_cons.mp hmem with heq | hmem
        · cases heq
          exact absurd hgroup hshows.2.2
        · exact .inr ⟨l, hmem, hshows⟩
    · exact .inr hended

end Reconcile

/-! ### An observation -/

variable {o : PreparationObservation}

section Receive

variable {log : List Event} {s : PolicyState}

/-- The loop over the pending evidence: the last evidence of a submission counts. -/
theorem get?_identify (x : ApplicationSubmission) :
    ∀ (vs : List ApplicationEvidence) (d : Dict ApplicationSubmission Text),
      (∃ w ∈ vs, w.submission = x ∧
          (vs.foldl (fun d v => d.set v.submission v.groupId) d).get? x = some w.groupId) ∨
        (∀ w ∈ vs, w.submission ≠ x) ∧
          (vs.foldl (fun d v => d.set v.submission v.groupId) d).get? x = d.get? x
  | [], d => .inr ⟨by simp, rfl⟩
  | v :: vs, d => by
    rcases get?_identify x vs (d.set v.submission v.groupId) with ⟨w, hw, hx, hget⟩ | ⟨hnone, hget⟩
    · exact .inl ⟨w, mem_cons_of_mem v hw, hx, hget⟩
    · rw [foldl_cons, hget, Dict.get?_set]
      by_cases hx : v.submission = x
      · exact .inl ⟨v, mem_cons_self, hx, by rw [if_pos hx]⟩
      · refine .inr ⟨?_, by rw [if_neg hx]⟩
        intro w hw
        rcases mem_cons.mp hw with rfl | hw
        · exact hx
        · exact hnone w hw

/-- The loop over the unidentified groups. -/
theorem contains_setDefaults (epoch : ℕ) (group : Text) :
    ∀ (groups : List Text) (d : Dict Text ℕ), (group ∈ groups ∨ d.contains group = true) →
      (groups.foldl (fun d g => d.setDefault g epoch) d).contains group = true
  | [], d, h => by simpa using h
  | g :: groups, d, h => by
    refine contains_setDefaults epoch group groups (d.setDefault g epoch) ?_
    by_cases hg : g = group
    · right
      rw [Dict.contains, Dict.get?_setDefault, if_pos hg]
      rfl
    · rcases h with hmem | hget
      · exact .inl ((mem_cons.mp hmem).resolve_left (Ne.symm hg))
      · right
        rw [Dict.contains, Dict.get?_setDefault, if_neg hg]
        exact hget

/-- Evidence of one observation is told apart by its submission. -/
theorem PreparationObservation.evidence_unique {v w : ApplicationEvidence}
    (hv : v ∈ o.applicationHistory) (hw : w ∈ o.applicationHistory)
    (h : v.submission = w.submission) : v = w :=
  inj_on_of_nodup_map o.history_unique hv hw (congrArg _ h)

/-- A new observation: what it reports as pending enters the ledgers. -/
theorem Ledgers.receive (h : Ledgers log s) (o : PreparationObservation) :
    Ledgers (log ++ [.observed o]) (s.receive o) where
  submitted a o' p b hlog := by
    rcases split_append hlog with ⟨-, heq, -⟩ | ⟨c, rfl, hold⟩
    · cases heq
    · have hkept := h.submitted a o' p c hold
      have happlied : Applied p (c ++ [.observed o]) → Applied p c :=
        fun ha => ha.of_append (fun ack heq => by cases heq)
      exact
        { epoch := hkept.epoch
          latest := ⟨o, rfl, .inr (by simp)⟩
          sequence := hkept.sequence
          settled := hkept.settled.imp_right (fun hs => hs.append _)
          pendingRenewal := hkept.pendingRenewal
          pendingSubmission := fun hp x hx => (hkept.pendingSubmission hp x hx).append _
          resolved := fun hp hres => (hkept.resolved hp hres).append _
          absent := fun hp hnot => hkept.absent hp
            (fun ⟨ack, hmem, hack⟩ => hnot ⟨ack, mem_append_left _ hmem, hack⟩)
          older := fun q hq hne hgroup ha =>
            (hkept.older q hq hne hgroup (happlied ha)).append _
          applied := fun ha => by
            rcases hkept.applied (happlied ha) with hres | hsup
            · exact .inl (hres.append _)
            · exact .inr ⟨hsup.application, fun x hx => (hsup.submission x hx).append _,
                hsup.renewal⟩ }
  latest a o' b hlog := by
    refine ⟨o, rfl, ?_⟩
    rcases split_append hlog with ⟨-, heq, -⟩ | ⟨c, rfl, -⟩
    · cases heq
      exact mem_cons_self
    · simp
  orphan := h.orphan
  native a o' b hlog v hv hstate := by
    have hloop := get?_identify v.submission (o.applicationHistory.filter (·.state = .pending))
      s.nativeApplications
    rcases split_append hlog with ⟨-, heq, rfl⟩ | ⟨c, rfl, hold⟩
    · cases heq
      left
      rcases hloop with ⟨w, hw, hx, hget⟩ | ⟨hnone, -⟩
      · obtain rfl := PreparationObservation.evidence_unique (mem_filter.mp hw).1 hv hx
        exact hget
      · exact absurd rfl (hnone v (mem_filter.mpr ⟨hv, by simpa using hstate⟩))
    · rcases hloop with ⟨w, hw, hx, hget⟩ | ⟨-, hget⟩
      · obtain ⟨hmem, hpending⟩ := mem_filter.mp hw
        by_cases hgroup : w.groupId = v.groupId
        · left
          rw [← hgroup]
          exact hget
        · right
          exact ⟨o, by simp, .inr (.inr ⟨w, hmem, by simpa using hpending, hx, hgroup⟩)⟩
      · rcases h.native a o' c hold v hv hstate with hknown | ⟨l, hl, hends⟩
        · left
          rw [← hknown]
          exact hget
        · right
          rw [← cons_append]
          exact ⟨l, mem_append_left _ hl, hends⟩
  unidentified a o' b hlog group hgroup hnot := by
    rcases split_append hlog with ⟨-, heq, rfl⟩ | ⟨c, rfl, hold⟩
    · cases heq
      left
      refine contains_setDefaults _ group _ _ (.inl ?_)
      rw [Finset.mem_sort, Finset.mem_sdiff]
      exact ⟨hgroup, hnot⟩
    · rcases h.unidentified a o' c hold group hgroup hnot with hknown | ⟨l, hl, hshows⟩
      · exact .inl (contains_setDefaults _ group _ _ (.inr hknown))
      · exact .inr ⟨l, mem_append_left _ hl, hshows⟩

end Receive

/-! ### A proposal -/

variable {later : List Event}

section Propose

variable {log : List Event} {s : PolicyState} {o : PreparationObservation} {p : PreparationProposal}

/-- A group that is not pending has no open application. -/
theorem applicationPending_eq_false {group : Text} (h : s.applicationPending group = false) :
    s.applications.get? group = none ∧ (∀ x, s.nativeApplications.get? x ≠ some group) ∧
      s.unidentifiedApplications.contains group = false := by
  have hnot := of_decide_eq_false h
  rw [not_or, not_or] at hnot
  refine ⟨Option.not_isSome_iff_eq_none.mp hnot.1, ?_, Bool.eq_false_iff.mpr hnot.2.2⟩
  exact fun x hx => hnot.2.1 (Dict.mem_values_iff.mpr ⟨x, hx⟩)

/-- Nothing applied to a group without an open application is left unresolved. -/
theorem Kept.resolved_of_absent (h : Kept s o p later) (happlied : Applied p later)
    (habsent : s.applications.get? p.groupId = none) : Resolved o p later := by
  rcases h.applied happlied with hres | hsup
  · exact hres
  · have hsome := hsup.application
    rw [habsent] at hsome
    cases hsome

/-- A new proposal for a group without an open application, in the last observation. -/
theorem Ledgers.propose (h : Ledgers log s) (hlast : s.last = some o) (hpending : s.pending = none)
    (hepoch : p.publicationEpoch = o.publicationEpoch) (hsequence : p.sequence = s.sequence + 1)
    (habsent : s.applications.get? p.groupId = none) :
    Ledgers (log ++ [.submitted o p]) (s.propose o p) where
  submitted a o' p' b hlog := by
    rcases split_append hlog with ⟨-, heq, rfl⟩ | ⟨c, rfl, hold⟩
    · cases heq
      exact
        { epoch := hepoch
          latest := ⟨o, hlast, .inl rfl⟩
          sequence := le_rfl
          settled := .inl rfl
          pendingRenewal := fun _ => rfl
          pendingSubmission := fun _ x hx => by cases hx
          resolved := fun _ hres => by cases hres
          absent := fun _ _ => habsent
          older := fun q hq hne => absurd (Option.some.inj hq).symm hne
          applied := fun ⟨ack, hmem, _⟩ => by cases hmem }
    · have hkept := h.submitted a o' p' c hold
      have happlied : Applied p' (c ++ [.submitted o p]) → Applied p' c :=
        fun ha => ha.of_append (fun ack heq => by cases heq)
      -- sequence numbers tell the new proposal from every earlier one
      have hother : ¬ (s.propose o p).pending = some p' := by
        intro hp
        obtain rfl : p = p' := Option.some.inj hp
        have := hkept.sequence
        omega
      refine
        { epoch := hkept.epoch
          latest := ?_
          sequence := hkept.sequence.trans (by show _ ≤ p.sequence; omega)
          settled := .inr ?_
          pendingRenewal := fun hp => absurd hp hother
          pendingSubmission := fun hp => absurd hp hother
          resolved := fun hp => absurd hp hother
          absent := fun hp => absurd hp hother
          older := ?_
          applied := ?_ }
      · obtain ⟨l, hl, hmem⟩ := hkept.latest
        exact ⟨l, hl, hmem.imp_right (mem_append_left _)⟩
      · rcases hkept.settled with hp | hs
        · rw [hpending] at hp
          cases hp
        · exact hs.append _
      · intro q hq _ hgroup ha
        obtain rfl : p = q := Option.some.inj hq
        rw [hgroup] at habsent
        exact (hkept.resolved_of_absent (happlied ha) habsent).append _
      · intro ha
        rcases hkept.applied (happlied ha) with hres | hsup
        · exact .inl (hres.append _)
        · exact .inr ⟨hsup.application, fun x hx => (hsup.submission x hx).append _,
            hsup.renewal⟩
  latest a o' b hlog := by
    rcases split_append hlog with ⟨-, heq, -⟩ | ⟨c, rfl, hold⟩
    · cases heq
    · obtain ⟨l, hl, hmem⟩ := h.latest a o' c hold
      rw [← cons_append]
      exact ⟨l, hl, mem_append_left _ hmem⟩
  orphan := h.orphan
  native a o' b hlog v hv hstate := by
    rcases split_append hlog with ⟨-, heq, -⟩ | ⟨c, rfl, hold⟩
    · cases heq
    · refine (h.native a o' c hold v hv hstate).imp_right ?_
      rintro ⟨l, hl, hends⟩
      rw [← cons_append]
      exact ⟨l, mem_append_left _ hl, hends⟩
  unidentified a o' b hlog group hgroup hnot := by
    rcases split_append hlog with ⟨-, heq, -⟩ | ⟨c, rfl, hold⟩
    · cases heq
    · refine (h.unidentified a o' c hold group hgroup hnot).imp_right ?_
      rintro ⟨l, hl, hshows⟩
      exact ⟨l, mem_append_left _ hl, hshows⟩

end Propose

/-! ### A receipt -/

section Acknowledge

variable {log : List Event} {s s' : PolicyState} {p : PreparationProposal}
  {ack : PreparationAcknowledgement}

/-- What a receipt does to the ledgers before reconciliation. -/
structure Entered (s s' : PolicyState) (p : PreparationProposal)
    (ack : PreparationAcknowledgement) : Prop where
  last : s'.last = s.last
  pending : s'.pending = s.pending
  sequence : s'.sequence = s.sequence
  pendingRenewal : s'.pendingRenewal = s.pendingRenewal
  resolved : s'.applicationResolved = s.applicationResolved
  native : s'.nativeApplications = s.nativeApplications
  unidentified : s'.unidentifiedApplications = s.unidentifiedApplications
  pendingSubmission : ∀ x, s'.pendingSubmission = some x →
    ack.submission = some x ∨ s.pendingSubmission = some x
  renewal : s.renewalApplications ⊆ s'.renewalApplications
  other : ∀ group, group ≠ p.groupId →
    s'.applications.get? group = s.applications.get? group ∧
      s'.applicationSubmissions.get? group = s.applicationSubmissions.get? group
  skipped : ack.applied = false ∨ s.applicationResolved = true →
    s'.applications = s.applications ∧ s'.applicationSubmissions = s.applicationSubmissions
  applied : ack.applied = true → s.applicationResolved = false →
    s'.applications.get? p.groupId =
        some ((s.applications.get? p.groupId).getD p.publicationEpoch.val) ∧
      (∀ x, s'.applicationSubmissions.get? p.groupId = some x →
        s'.pendingSubmission = some x ∨ s.applicationSubmissions.get? p.groupId = some x) ∧
      (s.pendingRenewal = true → p.groupId ∈ s'.renewalApplications)

/-- The proposal of the receipt: what applied keeps its group suppressed. -/
theorem Kept.entered (h : Kept s o p later) (hpending : s.pending = some p)
    (hack : ack.proposal = p) (horphan : ∀ group, s.applications.get? group = none →
      s.applicationSubmissions.get? group = none)
    (he : Entered s s' p ack) : Kept s' o p (later ++ [.acknowledged ack]) where
  epoch := h.epoch
  latest := by
    obtain ⟨l, hl, hmem⟩ := h.latest
    exact ⟨l, he.last.trans hl, hmem.imp_right (mem_append_left _)⟩
  sequence := by
    rw [he.sequence]
    exact h.sequence
  settled := .inl (he.pending.trans hpending)
  pendingRenewal _ := he.pendingRenewal.trans (h.pendingRenewal hpending)
  pendingSubmission _ x hx := by
    rcases he.pendingSubmission x hx with hnew | hold
    · exact ⟨ack, by simp, hack, hnew⟩
    · exact (h.pendingSubmission hpending x hold).append _
  resolved _ hres := by
    rw [he.resolved] at hres
    exact (h.resolved hpending hres).append _
  absent _ hnot := by
    have hskip : ack.applied = false := by
      rw [Bool.eq_false_iff]
      exact fun htrue => hnot ⟨ack, by simp, hack, htrue⟩
    rw [(he.skipped (Or.inl hskip)).1]
    exact h.absent hpending (fun ⟨ack', hmem, hack'⟩ => hnot ⟨ack', by simp [hmem], hack'⟩)
  older q hq hne := by
    rw [he.pending, hpending] at hq
    exact absurd (Option.some.inj hq).symm hne
  applied happlied := by
    have hnamed : ∀ x, s'.pendingSubmission = some x → Named p x (later ++ [.acknowledged ack]) := by
      intro x hx
      rcases he.pendingSubmission x hx with hnew | hold
      · exact ⟨ack, by simp, hack, hnew⟩
      · exact (h.pendingSubmission hpending x hold).append _
    by_cases hskip : ack.applied = false ∨ s.applicationResolved = true
    · rcases hskip with hskip | hres
      · -- the receipt changes nothing, and the application was known before
        obtain ⟨happs, hsubs⟩ := he.skipped (.inl hskip)
        have hold : Applied p later := happlied.of_append (fun ack' heq _ => by cases heq; exact hskip)
        rcases h.applied hold with hres | hsup
        · exact .inl (hres.append _)
        · refine .inr ⟨?_, ?_, fun hdue => he.renewal (hsup.renewal hdue)⟩
          · rw [happs]
            exact hsup.application
          · rw [hsubs]
            exact fun x hx => (hsup.submission x hx).append _
      · exact .inl ((h.resolved hpending hres).append _)
    · rw [not_or, Bool.not_eq_false, Bool.not_eq_true] at hskip
      obtain ⟨happ, hsub, hren⟩ := he.applied hskip.1 hskip.2
      have hrenewal : o.renewalDue p.groupId = true → p.groupId ∈ s'.renewalApplications := by
        intro hdue
        exact hren ((h.pendingRenewal hpending).trans hdue)
      by_cases hold : Applied p later
      · rcases h.applied hold with hres | hsup
        · exact .inl (hres.append _)
        · refine .inr ⟨?_, ?_, hrenewal⟩
          · rw [happ, hsup.application]
            rfl
          · intro x hx
            rcases hsub x hx with hx | hx
            · exact hnamed x hx
            · exact (hsup.submission x hx).append _
      · have habsent := h.absent hpending hold
        refine .inr ⟨?_, ?_, hrenewal⟩
        · rw [happ, habsent]
          rfl
        · intro x hx
          rcases hsub x hx with hx | hx
          · exact hnamed x hx
          · rw [horphan _ habsent] at hx
            cases hx

/-- The other proposals: those of the same group are resolved, the rest is not touched. -/
theorem Kept.entered_other {q : PreparationProposal} (h : Kept s o q later)
    (hpending : s.pending = some p) (hne : p ≠ q) (hack : ack.proposal = p)
    (he : Entered s s' p ack) : Kept s' o q (later ++ [.acknowledged ack]) := by
  have hother : ¬ s'.pending = some q := by
    rw [he.pending, hpending]
    exact fun heq => hne (Option.some.inj heq)
  have happlied : Applied q (later ++ [.acknowledged ack]) → Applied q later := by
    refine fun ha => ha.of_append (fun ack' heq hq => ?_)
    cases heq
    exact absurd (hack.symm.trans hq) hne
  refine
    { epoch := h.epoch
      latest := ?_
      sequence := ?_
      settled := .inr ?_
      pendingRenewal := fun hp => absurd hp hother
      pendingSubmission := fun hp => absurd hp hother
      resolved := fun hp => absurd hp hother
      absent := fun hp => absurd hp hother
      older := ?_
      applied := ?_ }
  · obtain ⟨l, hl, hmem⟩ := h.latest
    exact ⟨l, he.last.trans hl, hmem.imp_right (mem_append_left _)⟩
  · rw [he.sequence]
    exact h.sequence
  · rcases h.settled with hp | hs
    · exact absurd (he.pending.trans hp) hother
    · exact hs.append _
  · intro r hr hrne hgroup ha
    rw [he.pending] at hr
    exact (h.older r hr hrne hgroup (happlied ha)).append _
  · intro ha
    by_cases hgroup : p.groupId = q.groupId
    · exact .inl ((h.older p hpending hne hgroup (happlied ha)).append _)
    · rcases h.applied (happlied ha) with hres | hsup
      · exact .inl (hres.append _)
      · obtain ⟨happ, hsub⟩ := he.other q.groupId (Ne.symm hgroup)
        refine .inr ⟨?_, ?_, fun hdue => he.renewal (hsup.renewal hdue)⟩
        · rw [happ]
          exact hsup.application
        · rw [hsub]
          exact fun x hx => (hsup.submission x hx).append _

/-- The ledgers after a receipt of the pending proposal. -/
theorem Ledgers.entered (h : Ledgers log s) (hpending : s.pending = some p)
    (hack : ack.proposal = p) (he : Entered s s' p ack) :
    Ledgers (log ++ [.acknowledged ack]) s' where
  submitted a o q b hlog := by
    rcases split_append hlog with ⟨-, heq, -⟩ | ⟨c, rfl, hold⟩
    · cases heq
    · have hkept := h.submitted a o q c hold
      by_cases hq : p = q
      · subst hq
        exact hkept.entered hpending hack h.orphan he
      · exact hkept.entered_other hpending hq hack he
  latest a o b hlog := by
    rcases split_append hlog with ⟨-, heq, -⟩ | ⟨c, rfl, hold⟩
    · cases heq
    · obtain ⟨l, hl, hmem⟩ := h.latest a o c hold
      rw [← cons_append]
      exact ⟨l, he.last.trans hl, mem_append_left _ hmem⟩
  orphan group hnone := by
    by_cases hgroup : group = p.groupId
    · subst hgroup
      by_cases hskip : ack.applied = false ∨ s.applicationResolved = true
      · obtain ⟨happs, hsubs⟩ := he.skipped hskip
        rw [happs] at hnone
        rw [hsubs]
        exact h.orphan _ hnone
      · rw [not_or, Bool.not_eq_false, Bool.not_eq_true] at hskip
        rw [(he.applied hskip.1 hskip.2).1] at hnone
        cases hnone
    · obtain ⟨happ, hsub⟩ := he.other group hgroup
      rw [happ] at hnone
      rw [hsub]
      exact h.orphan group hnone
  native a o b hlog v hv hstate := by
    rw [he.native]
    rcases split_append hlog with ⟨-, heq, -⟩ | ⟨c, rfl, hold⟩
    · cases heq
    · refine (h.native a o c hold v hv hstate).imp_right ?_
      rintro ⟨l, hl, hends⟩
      rw [← cons_append]
      exact ⟨l, mem_append_left _ hl, hends⟩
  unidentified a o b hlog group hgroup hnot := by
    rw [he.unidentified]
    rcases split_append hlog with ⟨-, heq, -⟩ | ⟨c, rfl, hold⟩
    · cases heq
    · refine (h.unidentified a o c hold group hgroup hnot).imp_right ?_
      rintro ⟨l, hl, hshows⟩
      exact ⟨l, mem_append_left _ hl, hshows⟩

/-- The command of the receipt, entry, rejection and the queue. -/
theorem PolicyState.record_identify (s : PolicyState) (p : PreparationProposal)
    (ack : PreparationAcknowledgement) : (s.identify ack).record p ack =
    { s with
      pendingSubmission := ack.submission.or s.pendingSubmission
      entered := s.entered || ack.entryState = .entered
      rejected :=
        if ack.disposition = .rejected then insert p.action.actionId s.rejected else s.rejected
      queued := s.queued || ack.disposition = .queued } := by
  unfold identify record
  cases ack.submission with
  | none => rfl
  | some submission => rfl

theorem Entered.of_record (s : PolicyState) (happlied : ack.applied = false) :
    Entered s ((s.identify ack).record p ack) p ack := by
  rw [PolicyState.record_identify]
  refine ⟨rfl, rfl, rfl, rfl, rfl, rfl, rfl, ?_, subset_rfl, fun _ _ => ⟨rfl, rfl⟩,
    fun _ => ⟨rfl, rfl⟩, ?_⟩
  · intro x hx
    exact (Option.or_eq_some_iff.mp hx).imp_right And.right
  · intro htrue
    rw [happlied] at htrue
    cases htrue

theorem Entered.of_suppress (s : PolicyState) (happlied : ack.applied = true) :
    Entered s (((s.identify ack).record p ack).suppress p) p ack := by
  have hsubmission : ∀ x, ack.submission.or s.pendingSubmission = some x →
      ack.submission = some x ∨ s.pendingSubmission = some x :=
    fun x hx => (Option.or_eq_some_iff.mp hx).imp_right And.right
  rw [PolicyState.record_identify, PolicyState.suppress]
  by_cases hres : s.applicationResolved = true
  · rw [if_pos hres]
    refine ⟨rfl, rfl, rfl, rfl, rfl, rfl, rfl, hsubmission, subset_rfl, fun _ _ => ⟨rfl, rfl⟩,
      fun _ => ⟨rfl, rfl⟩, ?_⟩
    intro _ hfalse
    rw [hres] at hfalse
    cases hfalse
  · rw [if_neg hres]
    refine ⟨rfl, rfl, rfl, rfl, rfl, rfl, rfl, hsubmission, ?_, ?_, ?_, ?_⟩
    · show s.renewalApplications ⊆ if s.pendingRenewal = true then _ else _
      split
      · exact Finset.subset_insert _ _
      · exact subset_rfl
    · intro group hgroup
      constructor
      · show (s.applications.setDefault _ _).get? group = _
        rw [Dict.get?_setDefault, if_neg (Ne.symm hgroup)]
      · cases hx : ack.submission.or s.pendingSubmission with
        | none => rfl
        | some x => exact Dict.get?_set_ne _ _ (Ne.symm hgroup)
    · rintro (hskip | hskip)
      · rw [happlied] at hskip
        cases hskip
      · exact absurd hskip hres
    · intro _ _
      refine ⟨?_, ?_, ?_⟩
      · show (s.applications.setDefault _ _).get? p.groupId = _
        rw [Dict.get?_setDefault, if_pos rfl]
      · intro x hx
        show ack.submission.or s.pendingSubmission = some x ∨ _
        cases hknown : ack.submission.or s.pendingSubmission with
        | none =>
          simp only [hknown] at hx
          exact .inr hx
        | some known =>
          simp only [hknown, Dict.get?_set_self] at hx
          exact .inl hx
      · intro hrenewal
        show p.groupId ∈ if s.pendingRenewal = true then _ else _
        rw [if_pos hrenewal]
        exact Finset.mem_insert_self _ _

/-- The ledgers do not depend on what was refused. -/
theorem Ledgers.refuse (h : Ledgers log s) (p : PreparationProposal) : Ledgers log (s.refuse p) where
  submitted a o q b hlog := by
    have hkept := h.submitted a o q b hlog
    exact
      { epoch := hkept.epoch
        latest := hkept.latest
        sequence := hkept.sequence
        settled := hkept.settled
        pendingRenewal := hkept.pendingRenewal
        pendingSubmission := hkept.pendingSubmission
        resolved := hkept.resolved
        absent := hkept.absent
        older := hkept.older
        applied := fun ha => (hkept.applied ha).imp_right
          (fun hsup => ⟨hsup.application, hsup.submission, hsup.renewal⟩) }
  latest := h.latest
  orphan := h.orphan
  native := h.native
  unidentified := h.unidentified

/-- Settlement gives up the pending proposal, of which the log has the settlement. -/
theorem Ledgers.settle (h : Ledgers log s) (hpending : s.pending = some p)
    (hsettled : ∀ a o b, log = a ++ .submitted o p :: b → Settled p b) :
    Ledgers log s.settle where
  submitted a o q b hlog := by
    have hkept := h.submitted a o q b hlog
    have hnone : ∀ r, s.settle.pending ≠ some r := fun r hr => by cases hr
    refine
      { epoch := hkept.epoch
        latest := hkept.latest
        sequence := hkept.sequence
        settled := .inr ?_
        pendingRenewal := fun hp => absurd hp (hnone q)
        pendingSubmission := fun hp => absurd hp (hnone q)
        resolved := fun hp => absurd hp (hnone q)
        absent := fun hp => absurd hp (hnone q)
        older := fun r hr => absurd hr (hnone r)
        applied := fun ha => (hkept.applied ha).imp_right
          (fun hsup => ⟨hsup.application, hsup.submission, hsup.renewal⟩) }
    rcases hkept.settled with hq | hs
    · obtain rfl : p = q := Option.some.inj (hpending.symm.trans hq)
      exact hsettled a o b hlog
    · exact hs
  latest := h.latest
  orphan := h.orphan
  native := h.native
  unidentified := h.unidentified

/-- The stages of a receipt: what it enters, reconciliation with the last observation when an
application is possible, refusal and settlement. -/
theorem PolicyState.accept_stages (s : PolicyState) (p : PreparationProposal)
    (ack : PreparationAcknowledgement) :
    ∃ s₀ s₁, Entered s s₀ p ack ∧ s₀.refusedAt = s.refusedAt ∧ s₀.afterCapture = s.afterCapture ∧
      s₀.rejected =
        (if ack.disposition = .rejected then insert p.action.actionId s.rejected
          else s.rejected) ∧
      (s₁ = s₀ ∨ ∃ l, s₀.last = some l ∧ Released l s₀ s₁) ∧
      s.accept p ack =
        (let s₂ := if ack.refused then s₁.refuse p else s₁
        if ack.localSettled then s₂.settle else s₂) := by
  by_cases happlied : ack.applied = true
  · have hsuppress : ∀ t : PolicyState, (t.suppress p).refusedAt = t.refusedAt ∧
        (t.suppress p).afterCapture = t.afterCapture ∧
        (t.suppress p).rejected = t.rejected := by
      intro t
      unfold PolicyState.suppress
      split <;> exact ⟨rfl, rfl, rfl⟩
    have hrecord : ((s.identify ack).record p ack).refusedAt = s.refusedAt ∧
        ((s.identify ack).record p ack).afterCapture = s.afterCapture ∧
        ((s.identify ack).record p ack).rejected =
          (if ack.disposition = .rejected then insert p.action.actionId s.rejected
            else s.rejected) := by
      rw [PolicyState.record_identify]
      exact ⟨rfl, rfl, rfl⟩
    obtain ⟨hrefused, hafter, hrejected⟩ := hsuppress ((s.identify ack).record p ack)
    rw [hrecord.1] at hrefused
    rw [hrecord.2.1] at hafter
    rw [hrecord.2.2] at hrejected
    have he := Entered.of_suppress (p := p) s happlied
    cases hlast : (((s.identify ack).record p ack).suppress p).last with
    | none =>
      refine ⟨_, _, he, hrefused, hafter, hrejected, .inl rfl, ?_⟩
      simp only [PolicyState.accept, happlied, if_true, hlast, Option.elim]
    | some l =>
      refine ⟨_, _, he, hrefused, hafter, hrejected,
        .inr ⟨l, hlast, .of_reconcile l _⟩, ?_⟩
      simp only [PolicyState.accept, happlied, if_true, hlast, Option.elim]
  · rw [Bool.not_eq_true] at happlied
    have he := Entered.of_record (p := p) s happlied
    refine ⟨_, _, he, ?_, ?_, ?_, .inl rfl, ?_⟩
    · rw [PolicyState.record_identify]
    · rw [PolicyState.record_identify]
    · rw [PolicyState.record_identify]
    · simp only [PolicyState.accept, happlied, Bool.false_eq_true, if_false]

/-- A receipt keeps the ledgers. -/
theorem Ledgers.accept (h : Ledgers log s) (hpending : s.pending = some p)
    (hack : ack.proposal = p) : Ledgers (log ++ [.acknowledged ack]) (s.accept p ack) := by
  obtain ⟨s₀, s₁, he, -, -, -, hreconciled, haccept⟩ := s.accept_stages p ack
  rw [haccept]
  have hl₀ := h.entered hpending hack he
  have hp₀ := he.pending.trans hpending
  have hs₁ : s₁.pending = some p ∧ Ledgers (log ++ [.acknowledged ack]) s₁ := by
    rcases hreconciled with rfl | ⟨l, hlast, hr⟩
    · exact ⟨hp₀, hl₀⟩
    · exact ⟨hr.pending.trans hp₀, hl₀.reconciled hlast hr⟩
  have hs₂ : (if ack.refused then s₁.refuse p else s₁).pending = some p ∧
      Ledgers (log ++ [.acknowledged ack]) (if ack.refused then s₁.refuse p else s₁) := by
    split
    · exact ⟨hs₁.1, hs₁.2.refuse p⟩
    · exact hs₁
  show Ledgers _ (if ack.localSettled then _ else _)
  split
  · rename_i hsettled
    refine hs₂.2.settle hs₂.1 ?_
    intro a o b hlog
    rcases split_append hlog with ⟨-, heq, -⟩ | ⟨c, rfl, -⟩
    · cases heq
    · exact ⟨ack, by simp, hack, hsettled⟩
  · exact hs₂.2

end Acknowledge

/-! ## The fences -/

/-- The state knows what was rejected, what was refused and what was settled. -/
structure Fences (log : List Event) (s : PolicyState) : Prop where
  rejected : ∀ ack, .acknowledged ack ∈ log → ack.disposition = .rejected →
    ack.proposal.action.actionId ∈ s.rejected
  refused : ∀ ack, .acknowledged ack ∈ log → ack.refused = true →
    ∃ r, s.refusedAt.get? ack.proposal.action.actionId = some r ∧
      ack.proposal.admissionRevision.val ≤ r
  pending : ∀ p, s.pending = some p → ∀ r, s.refusedAt.get? p.action.actionId = some r →
    r ≤ p.admissionRevision.val
  captured : ∀ o, .observed o ∈ log → ∃ l, s.last = some l ∧ o.capture ≤ l.capture
  settled : ∀ a ack b, log = a ++ .acknowledged ack :: b → ack.localSettled = true →
    ∀ o, .observed o ∈ a → o.capture ≤ s.afterCapture

section Fences

variable {log : List Event} {s s' : PolicyState} {o : PreparationObservation}
  {p : PreparationProposal} {ack : PreparationAcknowledgement}

theorem Fences.init : Fences [] .init where
  rejected ack h := by cases h
  refused ack h := by cases h
  pending p h := by cases h
  captured o h := by cases h
  settled a ack b h := by simp at h

/-- A refusal for now comes with no entry and local settlement. -/
theorem PreparationAcknowledgement.refused_of_disposition
    (h : ack.disposition = .deferred ∨ ack.disposition = .notReady) : ack.refused = true := by
  obtain ⟨hentry, hsettled⟩ := ack.refused_settled
    (by rcases h with h | h <;> rw [h] <;> nofun) (by rcases h with h | h <;> rw [h] <;> nofun)
  exact decide_eq_true ⟨h, hentry, hsettled⟩

theorem Fences.observe (h : Fences log s) (hlast : s'.last = some o)
    (hcapture : ∀ l, s.last = some l → l.capture ≤ o.capture) (hpending : s'.pending = s.pending)
    (hrejected : s'.rejected = s.rejected) (hrefused : s'.refusedAt = s.refusedAt)
    (hafter : s'.afterCapture = s.afterCapture) : Fences (log ++ [.observed o]) s' where
  rejected ack hmem hdisposition := by
    rw [hrejected]
    exact h.rejected ack (by simpa using hmem) hdisposition
  refused ack hmem href := by
    rw [hrefused]
    exact h.refused ack (by simpa using hmem) href
  pending p hp := by
    rw [hpending] at hp
    rw [hrefused]
    exact h.pending p hp
  captured o' hmem := by
    refine ⟨o, hlast, ?_⟩
    rcases mem_append.mp hmem with hold | hnew
    · obtain ⟨l, hl, hle⟩ := h.captured o' hold
      exact hle.trans (hcapture l hl)
    · cases mem_singleton.mp hnew
      exact le_rfl
  settled a ack b hlog hsettled := by
    rw [hafter]
    rcases split_append hlog with ⟨-, heq, -⟩ | ⟨c, -, hold⟩
    · cases heq
    · exact h.settled a ack c hold hsettled

theorem Fences.propose (h : Fences log s)
    (hrefused : ∀ r, s.refusedAt.get? p.action.actionId = some r → r ≤ p.admissionRevision.val) :
    Fences (log ++ [.submitted o p]) (s.propose o p) where
  rejected ack hmem := h.rejected ack (by simpa using hmem)
  refused ack hmem := h.refused ack (by simpa using hmem)
  pending q hq := by
    obtain rfl : p = q := Option.some.inj hq
    exact hrefused
  captured o' hmem := h.captured o' (by simpa using hmem)
  settled a ack b hlog hsettled := by
    rcases split_append hlog with ⟨-, heq, -⟩ | ⟨c, -, hold⟩
    · cases heq
    · exact h.settled a ack c hold hsettled

/-- What a receipt does to the fences. -/
theorem PolicyState.accept_fences (s : PolicyState) (ack : PreparationAcknowledgement)
    (hpending : s.pending = some p) :
    (s.accept p ack).last = s.last ∧
      (s.accept p ack).rejected =
        (if ack.disposition = .rejected then insert p.action.actionId s.rejected
          else s.rejected) ∧
      (s.accept p ack).refusedAt =
        (if ack.refused then s.refusedAt.set p.action.actionId p.admissionRevision.val
          else s.refusedAt) ∧
      (s.accept p ack).pending = (if ack.localSettled then none else some p) ∧
      (s.accept p ack).afterCapture =
        (if ack.localSettled then (s.last.map PreparationObservation.capture).getD s.afterCapture
          else s.afterCapture) := by
  obtain ⟨s₀, s₁, he, hrefused, hafter, hrejected, hreconciled, haccept⟩ := s.accept_stages p ack
  have hs₁ : s₁.last = s.last ∧ s₁.rejected = s₀.rejected ∧ s₁.refusedAt = s.refusedAt ∧
      s₁.pending = some p ∧ s₁.afterCapture = s.afterCapture := by
    rcases hreconciled with rfl | ⟨l, -, hr⟩
    · exact ⟨he.last, rfl, hrefused, he.pending.trans hpending, hafter⟩
    · exact ⟨hr.last.trans he.last, hr.rejected, hr.refusedAt.trans hrefused,
        hr.pending.trans (he.pending.trans hpending), hr.afterCapture.trans hafter⟩
  obtain ⟨hl, hrej, href, hp, haft⟩ := hs₁
  rw [haccept, ← hrejected, ← hl, ← hrej, ← href, ← hp, ← haft]
  by_cases hr : ack.refused = true <;> by_cases hs : ack.localSettled = true <;>
    simp [hr, hs, PolicyState.settle, PolicyState.refuse]

theorem Fences.accept (h : Fences log s) (hpending : s.pending = some p)
    (hack : ack.proposal = p) : Fences (log ++ [.acknowledged ack]) (s.accept p ack) := by
  obtain ⟨hlast, hrejected, hrefused, hafter_pending, hafter⟩ :=
    s.accept_fences ack hpending
  refine ⟨?_, ?_, ?_, ?_, ?_⟩
  · intro ack' hmem hdisposition
    rw [hrejected]
    rcases mem_append.mp hmem with hold | hnew
    · have hin := h.rejected ack' hold hdisposition
      split
      · exact Finset.mem_insert_of_mem hin
      · exact hin
    · cases mem_singleton.mp hnew
      rw [if_pos hdisposition, hack]
      exact Finset.mem_insert_self _ _
  · intro ack' hmem href
    rw [hrefused]
    rcases mem_append.mp hmem with hold | hnew
    · obtain ⟨r, hr, hle⟩ := h.refused ack' hold href
      split
      · by_cases hsame : p.action.actionId = ack'.proposal.action.actionId
        · -- the pending proposal was made under a later revision
          rw [← hsame] at hr
          refine ⟨_, by rw [Dict.get?_set, if_pos hsame], hle.trans (h.pending p hpending r hr)⟩
        · exact ⟨r, by rw [Dict.get?_set, if_neg hsame, hr], hle⟩
      · exact ⟨r, hr, hle⟩
    · cases mem_singleton.mp hnew
      rw [if_pos href, hack]
      exact ⟨_, Dict.get?_set_self _ _ _, le_rfl⟩
  · intro q hq r hr
    rw [hafter_pending] at hq
    split at hq
    · cases hq
    · obtain rfl : p = q := Option.some.inj hq
      rw [hrefused] at hr
      split at hr
      · rw [Dict.get?_set_self] at hr
        exact (Option.some.inj hr).ge
      · exact h.pending p hpending r hr
  · intro o hmem
    rw [hlast]
    exact h.captured o (by simpa using hmem)
  · intro a ack' b hlog hsettled o hmem
    rw [hafter]
    rcases split_append hlog with ⟨rfl, heq, -⟩ | ⟨c, -, hold⟩
    · cases heq
      obtain ⟨l, hl, hle⟩ := h.captured o hmem
      rw [if_pos hsettled, hl]
      exact hle
    · have hbefore := h.settled a ack' c hold hsettled o hmem
      split
      · -- a later settlement is at a later capture
        obtain ⟨l, hl, hle⟩ := h.captured o (by rw [hold]; simp [hmem])
        rw [hl]
        exact hle
      · exact hbefore

end Fences

/-! ## Submissions -/

/-- What holds when `p` is submitted for the observation `o`, after the log `before`. -/
structure Grounded (policy : PreparationPolicy) (before : List Event) (o : PreparationObservation)
    (p : PreparationProposal) : Prop where
  observed : ∃ a, before = a ++ [.observed o]
  actor : o.actor = policy.actor ∧ p.actor = policy.actor
  epoch : p.publicationEpoch = o.publicationEpoch
  admission : p.admissionRevision = o.admissionRevision
  increasing : ∀ o' p', .submitted o' p' ∈ before → p'.sequence < p.sequence
  /-- No other proposal is pending. -/
  settled : ∀ a o' p' b, before = a ++ .submitted o' p' :: b → Settled p' b
  complete : o.complete = true
  unblocked : o.admissionBlocks = 0
  fresh : ∀ a ack b, before = a ++ .acknowledged ack :: b → ack.localSettled = true →
    ∀ o', .observed o' ∈ a → o'.capture < o.capture
  configured : ∃ group ∈ policy.groups, group.groupId = p.groupId ∧ p.action ∈ group.alternatives
  due : ∃ e ∈ o.coverage, e.groupId = p.groupId ∧ (e.state = .missing ∨ e.renewalDue = true)
  ready : ∃ e ∈ o.readiness, e.actionId = p.action.actionId ∧ e.state = .ready ∧
    e.operand = some p.operand
  operand : p.action.matches_ p.operand = true
  /-- Every earlier application of the group that may have reached the server is resolved. -/
  resolved : ∀ a o' p' b, before = a ++ .submitted o' p' :: b → p'.groupId = p.groupId →
    Applied p' b → Resolved o' p' b
  /-- The native history reports no pending application of the group, and whatever it reported
  before has ended. -/
  unreported : p.groupId ∉ o.pendingApplications
  ended : ∀ a o' b, before = a ++ .observed o' :: b → ∀ v ∈ o'.applicationHistory,
    v.state = .pending → v.groupId = p.groupId → ∃ l, .observed l ∈ Event.observed o' :: b ∧ Ends l v
  shown : ∀ a o' b, before = a ++ .observed o' :: b → p.groupId ∈ o'.pendingApplications →
    p.groupId ∉ o'.identified → ∃ l, .observed l ∈ b ∧ Shows l p.groupId
  rejected : ∀ ack, .acknowledged ack ∈ before → ack.disposition = .rejected →
    ack.proposal.action.actionId ≠ p.action.actionId
  refused : ∀ ack, .acknowledged ack ∈ before →
    ack.disposition = .deferred ∨ ack.disposition = .notReady →
    ack.proposal.action.actionId = p.action.actionId →
    ack.proposal.admissionRevision.val < p.admissionRevision.val

section Advance

variable {policy : PreparationPolicy} {log : List Event} {s s' : PolicyState}
  {o : PreparationObservation} {decision : PreparationDecision}

variable {group : PreparationGroup} {action : PreparationAction}

variable {operand : Operand}

/-- What the search for a candidate finds. -/
theorem candidate_eq_some {groups : List PreparationGroup}
    (h : s.candidate o groups = some (group, action, operand)) :
    group ∈ groups ∧ action ∈ group.alternatives ∧
      (o.coverageOf group.groupId = some .missing ∨ o.renewalDue group.groupId = true) ∧
      s.applicationPending group.groupId = false ∧ s.offer o action = some operand := by
  obtain ⟨group', hgroup, hfound⟩ := exists_of_findSome?_eq_some h
  split at hfound
  · cases hfound
  · rename_i hskip
    obtain ⟨action', haction, hoffer⟩ := exists_of_findSome?_eq_some hfound
    obtain ⟨operand', hoperand, heq⟩ := Option.map_eq_some_iff.mp hoffer
    cases heq
    rw [not_or, not_and_or, not_not, Bool.not_eq_false, Bool.not_eq_true] at hskip
    exact ⟨hgroup, haction, hskip.1, hskip.2, hoperand⟩

/-- What an offered action rests on. -/
theorem offer_eq_some (h : s.offer o action = some operand) :
    (∃ e ∈ o.readiness, e.actionId = action.actionId ∧ e.state = .ready ∧
      e.operand = some operand) ∧ action.actionId ∉ s.rejected ∧
      s.refusedAt.getD action.actionId 0 < o.admissionRevision.val := by
  unfold PolicyState.offer at h
  split at h
  · cases h
  · rename_i evidence hfound
    split at h
    · cases h
    · rename_i hskip
      rw [not_or, not_or, not_not, not_le] at hskip
      have hid : evidence.actionId = action.actionId := by
        simpa using List.find?_some hfound
      exact ⟨⟨evidence, mem_of_find?_eq_some hfound, hid, hskip.1, h⟩, hskip.2.1, hskip.2.2⟩

/-- A group that is due is covered by evidence that says so. -/
theorem due_of_coverage {group : Text}
    (h : o.coverageOf group = some .missing ∨ o.renewalDue group = true) :
    ∃ e ∈ o.coverage, e.groupId = group ∧ (e.state = .missing ∨ e.renewalDue = true) := by
  rcases h with hmissing | hdue
  · unfold PreparationObservation.coverageOf at hmissing
    split at hmissing
    · obtain ⟨e, hfound, hstate⟩ := Option.map_eq_some_iff.mp hmissing
      have hgroup : e.groupId = group := by simpa using List.find?_some hfound
      exact ⟨e, mem_of_find?_eq_some hfound, hgroup, .inl hstate⟩
    · cases hmissing
  · obtain ⟨e, he, hboth⟩ := any_eq_true.mp hdue
    obtain ⟨hgroup, hrenewal⟩ := of_decide_eq_true hboth
    exact ⟨e, he, hgroup, .inr hrenewal⟩

/-- A configured action is found under its identifier. -/
theorem PreparationPolicy.actions_get? (hgroup : group ∈ policy.groups)
    (haction : action ∈ group.alternatives) :
    policy.actions.get? action.actionId = some action := by
  have hmem : action ∈ policy.groups.flatMap PreparationGroup.alternatives :=
    mem_flatMap.mpr ⟨group, hgroup, haction⟩
  have hnodup : (((policy.groups.flatMap PreparationGroup.alternatives).map
      (fun a => (a.actionId, a))).map Prod.fst).Nodup := by
    rw [map_map]
    exact policy.actions_distinct
  rw [Dict.get?_eq_some, PreparationPolicy.actions, Dict.items_ofList hnodup]
  exact mem_map.mpr ⟨action, hmem, rfl⟩

/-- The two outcomes of an accepted observation. -/
theorem answer_cases (policy : PreparationPolicy) (s : PolicyState) (o : PreparationObservation) :
    ((policy.answer s o).1.events o = [.observed o] ∧ (policy.answer s o).2 = s) ∨
      ∃ group action operand, s.pending = none ∧ o.complete = true ∧ o.admissionBlocks = 0 ∧
        s.afterCapture < o.capture ∧
        s.candidate o policy.groups = some (group, action, operand) ∧
        let p : PreparationProposal := ⟨s.sequence + 1, policy.actor, o.publicationEpoch,
          group.groupId, action, operand, o.admissionRevision⟩
        (policy.answer s o).1.events o = [.observed o, .submitted o p] ∧
          (policy.answer s o).2 = s.propose o p := by
  unfold PreparationPolicy.answer
  by_cases hpending : s.pending.isSome = true
  · rw [if_pos hpending]
    exact .inl ⟨rfl, rfl⟩
  rw [if_neg hpending]
  by_cases hcomplete : o.complete = false
  · rw [if_pos hcomplete]
    exact .inl ⟨rfl, rfl⟩
  rw [if_neg hcomplete]
  by_cases hblocks : o.admissionBlocks ≠ 0
  · rw [if_pos hblocks]
    exact .inl ⟨rfl, rfl⟩
  rw [if_neg hblocks]
  by_cases hcapture : o.capture ≤ s.afterCapture
  · rw [if_pos hcapture]
    exact .inl ⟨rfl, rfl⟩
  rw [if_neg hcapture]
  split
  · rename_i group action operand hfound
    right
    exact ⟨group, action, operand, Option.not_isSome_iff_eq_none.mp hpending,
      by simpa using hcomplete, not_not.mp hblocks, not_le.mp hcapture, hfound, rfl, rfl⟩
  · exact .inl ⟨rfl, rfl⟩

/-- What `advance` checked when it returns. -/
theorem advance_eq_ok (h : policy.advance s o = .ok (decision, s')) :
    o.actor = policy.actor ∧ s.regressed o = false ∧ policy.mismatched o = false ∧
      (decision, s') = policy.answer ((s.receive o).reconcile o) o := by
  unfold PreparationPolicy.advance at h
  by_cases hactor : o.actor ≠ policy.actor
  · rw [if_pos hactor] at h
    cases h
  rw [if_neg hactor] at h
  by_cases hregressed : s.regressed o = true
  · rw [if_pos hregressed] at h
    cases h
  rw [if_neg hregressed] at h
  by_cases hunconfigured : policy.unconfigured o = true
  · rw [if_pos hunconfigured] at h
    cases h
  rw [if_neg hunconfigured] at h
  by_cases hmismatched : policy.mismatched o = true
  · rw [if_pos hmismatched] at h
    cases h
  rw [if_neg hmismatched] at h
  exact ⟨not_not.mp hactor, Bool.not_eq_true _ ▸ hregressed, Bool.not_eq_true _ ▸ hmismatched,
    (Except.ok.inj h).symm⟩

/-- What `acknowledge` checked when it returns. -/
theorem acknowledge_eq_ok {ack : PreparationAcknowledgement} (h : s.acknowledge ack = .ok s') :
    s.pending = some ack.proposal ∧ s' = s.accept ack.proposal ack := by
  unfold PolicyState.acknowledge at h
  split at h
  · cases h
  · rename_i pending hpending
    by_cases hproposal : ack.proposal ≠ pending
    · rw [if_pos hproposal] at h
      cases h
    rw [if_neg hproposal] at h
    rw [not_not] at hproposal
    split at h
    · cases h
    · split at h
      · cases h
      · split at h
        · cases h
        · rw [hproposal]
          exact ⟨hpending, (Except.ok.inj h).symm⟩

/-- An observation that does not regress is captured no earlier than the last. -/
theorem capture_of_not_regressed (h : s.regressed o = false) :
    ∀ l, s.last = some l → l.capture ≤ o.capture := by
  intro l hl
  have hnot := of_decide_eq_false h
  by_contra hlt
  exact hnot ⟨l, hl, .inl (not_le.mp hlt)⟩

/-- A submission is grounded in the log. -/
theorem Grounded.of_candidate (hactor : o.actor = policy.actor)
    (hmismatched : policy.mismatched o = false) (hl : Ledgers (log ++ [.observed o]) s)
    (hf : Fences (log ++ [.observed o]) s) (hpending : s.pending = none)
    (hcomplete : o.complete = true) (hblocks : o.admissionBlocks = 0)
    (hcapture : s.afterCapture < o.capture)
    (hfound : s.candidate o policy.groups = some (group, action, operand)) :
    Grounded policy (log ++ [.observed o]) o ⟨s.sequence + 1, policy.actor, o.publicationEpoch,
      group.groupId, action, operand, o.admissionRevision⟩ := by
  obtain ⟨hgroup, haction, hdue, hopen, hoffer⟩ := candidate_eq_some hfound
  obtain ⟨hready, hrejected, hrefused⟩ := offer_eq_some hoffer
  obtain ⟨happs, hnative, hunidentified⟩ := applicationPending_eq_false hopen
  have hlog : log ++ [.observed o] = log ++ .observed o :: [] := rfl
  -- the observation itself reports no pending application of the group
  have hunreported : group.groupId ∉ o.pendingApplications := by
    intro hmem
    by_cases hid : group.groupId ∈ o.identified
    · obtain ⟨v, hv, hgroup⟩ := mem_map.mp (mem_toFinset.mp hid)
      obtain ⟨hv, hstate⟩ := mem_filter.mp hv
      have hpend : v.state = .pending := by simpa using hstate
      rcases hl.native log o [] hlog v hv hpend with hget | ⟨l, hl', hends⟩
      · rw [hgroup] at hget
        exact hnative _ hget
      · cases mem_singleton.mp hl'
        rcases hends with ⟨hshows, -⟩ | ⟨w, hw, hterminal, hx, -⟩ | ⟨w, hw, -, hx, hother⟩
        · rw [hgroup] at hshows
          exact hshows.2.2 hmem
        · rw [PreparationObservation.evidence_unique hw hv hx] at hterminal
          exact hterminal hpend
        · rw [PreparationObservation.evidence_unique hw hv hx] at hother
          exact hother rfl
    · rcases hl.unidentified log o [] hlog _ hmem hid with hget | ⟨l, hl', -⟩
      · rw [hunidentified] at hget
        cases hget
      · cases hl'
  exact
    { observed := ⟨log, rfl⟩
      actor := ⟨hactor, rfl⟩
      epoch := rfl
      admission := rfl
      increasing := by
        intro o' p' hmem
        obtain ⟨a, b, hsplit⟩ := append_of_mem hmem
        exact Nat.lt_succ_of_le (hl.submitted a o' p' b hsplit).sequence
      settled := by
        intro a o' p' b hsplit
        rcases (hl.submitted a o' p' b hsplit).settled with hp | hs
        · rw [hpending] at hp
          cases hp
        · exact hs
      complete := hcomplete
      unblocked := hblocks
      fresh := fun a ack b hsplit hsettled o' ho' =>
        (hf.settled a ack b hsplit hsettled o' ho').trans_lt hcapture
      configured := ⟨group, hgroup, rfl, haction⟩
      due := due_of_coverage hdue
      ready := hready
      operand := by
        obtain ⟨e, he, hid, -, hoperand⟩ := hready
        have hconfigured := PreparationPolicy.actions_get? hgroup haction
        by_contra hmatch
        refine of_decide_eq_false hmismatched ⟨e, he, operand, hoperand, action, ?_, ?_⟩
        · rw [hid]
          exact hconfigured
        · exact Bool.eq_false_iff.mpr hmatch
      resolved := by
        intro a o' p' b hsplit hsame happlied
        refine (hl.submitted a o' p' b hsplit).resolved_of_absent happlied ?_
        rw [hsame]
        exact happs
      unreported := hunreported
      ended := by
        intro a o' b hsplit v hv hstate hsame
        rcases hl.native a o' b hsplit v hv hstate with hget | hended
        · rw [hsame] at hget
          exact absurd hget (hnative _)
        · exact hended
      shown := by
        intro a o' b hsplit hmem hid
        rcases hl.unidentified a o' b hsplit _ hmem hid with hget | hended
        · rw [hunidentified] at hget
          cases hget
        · exact hended
      rejected := by
        intro ack hmem hdisposition hsame
        have hin := hf.rejected ack hmem hdisposition
        rw [hsame] at hin
        exact hrejected hin
      refused := by
        intro ack hmem hdisposition hsame
        obtain ⟨r, hr, hle⟩ :=
          hf.refused ack hmem (PreparationAcknowledgement.refused_of_disposition hdisposition)
        rw [hsame] at hr
        rw [Dict.getD, hr] at hrefused
        exact hle.trans_lt hrefused }

/-- An accepted observation keeps the invariants, and what it submits is grounded. -/
theorem advance_step (hl : Ledgers log s) (hf : Fences log s)
    (h : policy.advance s o = .ok (decision, s')) :
    Ledgers (log ++ decision.events o) s' ∧ Fences (log ++ decision.events o) s' ∧
      (decision.events o = [.observed o] ∨
        ∃ p, decision.events o = [.observed o, .submitted o p] ∧
          Grounded policy (log ++ [.observed o]) o p) := by
  obtain ⟨hactor, hregressed, hmismatched, hanswer⟩ := advance_eq_ok h
  have hr := Released.of_reconcile o (s.receive o)
  have hl₁ := (hl.receive o).reconciled rfl hr
  have hlast : ((s.receive o).reconcile o).last = some o := hr.last
  have hf₁ := hf.observe hlast (capture_of_not_regressed hregressed) hr.pending hr.rejected
    hr.refusedAt hr.afterCapture
  have hdecision : decision = (policy.answer ((s.receive o).reconcile o) o).1 :=
    congrArg Prod.fst hanswer
  have hnext : s' = (policy.answer ((s.receive o).reconcile o) o).2 := congrArg Prod.snd hanswer
  rw [hdecision, hnext]
  rcases answer_cases policy ((s.receive o).reconcile o) o with
    ⟨hevents, hstate⟩ | ⟨group, action, operand, hpending, hcomplete, hblocks, hcapture, hfound,
      hevents, hstate⟩
  · rw [hevents, hstate]
    exact ⟨hl₁, hf₁, .inl rfl⟩
  · obtain ⟨-, -, -, hopen, hoffer⟩ := candidate_eq_some hfound
    obtain ⟨-, -, hrefused⟩ := offer_eq_some hoffer
    obtain ⟨happs, -, -⟩ := applicationPending_eq_false hopen
    rw [hevents, hstate, ← singleton_append, ← append_assoc]
    refine ⟨hl₁.propose hlast hpending rfl rfl happs, hf₁.propose ?_, .inr ⟨_, rfl, ?_⟩⟩
    · intro r hget
      rw [Dict.getD, hget] at hrefused
      exact hrefused.le
    · exact Grounded.of_candidate hactor hmismatched hl₁ hf₁ hpending hcomplete hblocks hcapture
        hfound

end Advance

/-! ## Runs -/

/-- Every submission of a log is grounded in what came before it. -/
structure AppliesOnce (policy : PreparationPolicy) (log : List Event) : Prop where
  grounded : ∀ a o p b, log = a ++ .submitted o p :: b → Grounded policy a o p

variable {policy : PreparationPolicy}

/-- More events, whose submissions are grounded. -/
theorem AppliesOnce.append {log : List Event} {e : Event} (h : AppliesOnce policy log)
    (he : ∀ o p, e = .submitted o p → Grounded policy log o p) :
    AppliesOnce policy (log ++ [e]) := by
  refine ⟨?_⟩
  intro a o p b hlog
  rcases split_append hlog with ⟨rfl, heq, -⟩ | ⟨c, -, hold⟩
  · exact he o p heq.symm
  · exact h.grounded a o p c hold

theorem AppliesOnce.run :
    ∀ (calls : List Call) (before : List Event) (s : PolicyState), Ledgers before s →
      Fences before s → AppliesOnce policy before → AppliesOnce policy (before ++ policy.run s calls)
  | [], before, s, _, _, h => by
    rw [PreparationPolicy.run, append_nil]
    exact h
  | .advance o :: calls, before, s, hl, hf, h => by
    rw [PreparationPolicy.run]
    cases hadvance : policy.advance s o with
    | error reason =>
      rw [append_nil]
      exact h
    | ok answer =>
      obtain ⟨decision, s'⟩ := answer
      obtain ⟨hl', hf', hevents⟩ := advance_step hl hf hadvance
      rw [← append_assoc]
      refine AppliesOnce.run calls _ s' hl' hf' ?_
      have hobserved : AppliesOnce policy (before ++ [.observed o]) :=
        h.append (fun o' p heq => by cases heq)
      rcases hevents with hevents | ⟨p, hevents, hgrounded⟩
      · rw [hevents]
        exact hobserved
      · rw [hevents, ← singleton_append, ← append_assoc]
        refine hobserved.append (fun o' p' heq => ?_)
        cases heq
        exact hgrounded
  | .acknowledge ack :: calls, before, s, hl, hf, h => by
    rw [PreparationPolicy.run]
    cases hacknowledge : s.acknowledge ack with
    | error reason =>
      rw [append_nil]
      exact h
    | ok s' =>
      obtain ⟨hpending, rfl⟩ := acknowledge_eq_ok hacknowledge
      show AppliesOnce policy (before ++ ([.acknowledged ack] ++ policy.run _ calls))
      rw [← append_assoc]
      exact AppliesOnce.run calls _ _ (hl.accept hpending rfl) (hf.accept hpending rfl)
        (h.append (fun o p heq => by cases heq))

/-- A policy never applies twice: at each submission, every earlier application of its group that may
have reached the server is resolved, and nothing else is pending, rejected or refused. -/
theorem submits_once (policy : PreparationPolicy) (calls : List Call) :
    AppliesOnce policy (policy.log calls) :=
  AppliesOnce.run calls [] .init Ledgers.init Fences.init
    ⟨fun a o p b h => by simp at h⟩

end ShadowbaneLab.Pve
