/-
# Runs of the activation history

An activation that ended did so by its own chain of calls, which stands in the run without a
break; a start that several queued records wait for belongs to none of them.
-/
import ShadowbaneLab.Native.Activation

namespace ShadowbaneLab.Native.Activation

open Foundation

/-! ## What every call preserves -/

theorem Call.started_of_opens {call : Call} {phase : Phase} (h : call.opens = some phase) :
    phase.started = true := by
  cases call with
  | beginOwnedFollowup | beginStart => cases h; rfl
  | _ => cases h

theorem Call.started_of_link {call : Call} {source target : Phase}
    (h : call.link = some (source, target)) : source.started = true ∧ target ≠ .unknown := by
  unfold Call.link at h
  split at h <;> cases h <;> exact ⟨rfl, nofun⟩

variable {i : Fin capacity}

namespace Inv

variable {s s' : History} {call : Call}

theorem empty : Inv {} where
  bound _ h := absurd rfl h
  ticket _ := UInt64.le_refl _
  started _ h := by cases h
  terminal _ h := by cases h
  manual_le := UInt64.le_refl _
  manual _ h := absurd rfl h

theorem of_carried (h : Inv s) (hi : Carried (s.records i) (s'.records i))
    (hbound : s'.bound = s.bound) (hknown : (s'.records i).phase ≠ .unknown) :
    s'.bound.valid = true ∧ (s'.records i).identity = s'.bound := by
  rw [hbound, hi.identity]
  exact h.bound i (hi.of_known hknown)

theorem queued_of_carried (h : Inv s) (hi : Carried (s.records i) (s'.records i))
    (hterminal : (s'.records i).phase.terminal = true) : (s'.records i).queued = true := by
  refine hi.queued (h.terminal i ?_)
  rwa [← hi.terminal_iff hterminal]

theorem step (h : Inv s) (hstep : Step s call s') : Inv s' := by
  cases hstep with
  | quiet hbound hmutation hcurrent hmanual hrecords =>
    refine ⟨fun i => h.of_carried (hrecords i) hbound, fun i => ?_, fun i hstarted => ?_,
      fun i => h.queued_of_carried (hrecords i), ?_, fun heq hne i => ?_⟩
    · rw [(hrecords i).ticket, hmutation]
      exact h.ticket i
    · rw [(hrecords i).of_started hstarted] at hstarted
      obtain ⟨hcurrent', hqueued⟩ := h.started i hstarted
      rw [hcurrent, hmutation, (hrecords i).ticket]
      exact ⟨hcurrent', (hrecords i).queued hqueued⟩
    · rw [hmanual, hmutation]
      exact h.manual_le
    · rw [hmanual] at heq hne
      rw [hmutation] at heq
      exact (hrecords i).unstarted (h.manual heq hne i)
  | disturbed hfull hbound hmutation hmanual hrecords =>
    refine ⟨fun i => h.of_carried (hrecords i).1 hbound, fun i => ?_, fun i hstarted => ?_,
      fun i => h.queued_of_carried (hrecords i).1, hmanual, fun _ _ i => (hrecords i).2⟩
    · rw [(hrecords i).1.ticket, hmutation]
      exact History.le_succ_mutation hfull (h.ticket i)
    · rw [(hrecords i).2] at hstarted
      cases hstarted
  | overflowed hfull hmutation hmanual hrecords =>
    refine ⟨fun i hknown => absurd (hrecords i).1 hknown, fun i => ?_, fun i hstarted => ?_,
      fun i hterminal => ?_, hmanual, fun _ _ i => ?_⟩
    · rw [(hrecords i).2, hmutation]
      exact h.ticket i
    · rw [(hrecords i).1] at hstarted
      cases hstarted
    · rw [(hrecords i).1] at hterminal
      cases hterminal
    · rw [(hrecords i).1]
      rfl
  | reset hcall hfull hmutation hmanual hrecords =>
    refine ⟨fun i hknown => ?_, fun i => ?_, fun i hstarted => ?_, fun i hterminal => ?_, hmanual,
      fun _ _ i => ?_⟩
    · rw [hrecords i] at hknown
      exact absurd rfl hknown
    · rw [hrecords i]
      exact UInt64.le_iff_toNat_le.2 (Nat.zero_le _)
    · rw [hrecords i] at hstarted
      cases hstarted
    · rw [hrecords i] at hterminal
      cases hterminal
    · rw [hrecords i]
      rfl
  | armed i hcall hfull hmutation hmanual hrecord hothers hbound =>
    have hunstarted (j : Fin capacity) : (s'.records j).phase.started = false := by
      by_cases hj : j = i
      · rw [hj, hrecord.2]
        rfl
      · exact (hothers j hj).2
    refine ⟨hbound, fun j => ?_, fun j hstarted => ?_, fun j hterminal => ?_, ?_,
      fun _ _ => hunstarted⟩
    · by_cases hj : j = i
      · rw [hj, hrecord.1]
        exact UInt64.le_refl _
      · rw [(hothers j hj).1.ticket, hmutation]
        exact History.le_succ_mutation hfull (h.ticket j)
    · rw [hunstarted j] at hstarted
      cases hstarted
    · by_cases hj : j = i
      · rw [hj, hrecord.2] at hterminal
        cases hterminal
      · exact h.queued_of_carried (hothers j hj).1 hterminal
    · rw [hmanual, hmutation]
      exact History.le_succ_mutation hfull h.manual_le
  | opened i phase hfull hopens hbound hmutation hcurrent hmanual hrecord hphase hothers =>
    have hstarted := Call.started_of_opens hopens.opens
    refine ⟨fun j hknown => ?_, fun j => ?_, fun j hj' => ?_, fun j hterminal => ?_, ?_,
      fun heq _ _ => ?_⟩
    · by_cases hj : j = i
      · rw [hj, hrecord, hbound]
        exact h.bound i hphase.1
      · exact h.of_carried (hothers j hj).1 hbound hknown
    · rw [hmutation]
      refine History.le_succ_mutation hfull ?_
      by_cases hj : j = i
      · rw [hj, hrecord]
        exact h.ticket i
      · rw [(hothers j hj).1.ticket]
        exact h.ticket j
    · by_cases hj : j = i
      · rw [hj, hrecord]
        exact ⟨hcurrent, hopens.owner.2⟩
      · rw [(hothers j hj).2] at hj'
        cases hj'
    · by_cases hj : j = i
      · rw [hj, hrecord] at hterminal
        rw [Phase.not_started_of_terminal hterminal] at hstarted
        cases hstarted
      · exact h.queued_of_carried (hothers j hj).1 hterminal
    · rw [hmanual, hmutation]
      exact History.le_succ_mutation hfull h.manual_le
    · -- the use by hand is older than the new value of the counter
      rw [hmanual, hmutation] at heq
      exact absurd (heq ▸ h.manual_le)
        (UInt64.not_le.2 (History.lt_succ_mutation hfull))
  | linked i source target hlinks hbound hcounter hmanual hrecord hothers =>
    obtain ⟨hsource, htarget⟩ := Call.started_of_link hlinks.link
    have hbefore : (s.records i).phase.started = true := by rw [hlinks.owner.2, hsource]
    have hqueued := (h.started i hbefore).2
    -- no other record is started, as the current one is this
    have hother (j : Fin capacity) (hj : j ≠ i) : (s.records j).phase.started = false := by
      refine Bool.eq_false_of_not_eq_true fun hstarted => hj ?_
      have hcurrent := (h.started j hstarted).1.symm.trans (h.started i hbefore).1
      exact Fin.ext (congrArg Transition.index hcurrent)
    have hle {x : UInt64} (hx : x ≤ s.mutation) : x ≤ s'.mutation := by
      rcases hcounter with ⟨hmutation, -⟩ | ⟨hfull, hmutation, -⟩
      · rwa [hmutation]
      · rw [hmutation]
        exact History.le_succ_mutation hfull hx
    refine ⟨fun j hknown => ?_, fun j => ?_, fun j hstarted => ?_, fun j hterminal => ?_,
      hmanual ▸ hle h.manual_le, fun heq hne j => ?_⟩
    · by_cases hj : j = i
      · rw [hj, hrecord.2.1, hbound]
        exact h.bound i (Phase.started_iff.1 hbefore).2.1
      · rw [hothers j hj] at hknown ⊢
        rw [hbound]
        exact h.bound j hknown
    · by_cases hj : j = i
      · rw [hj, hrecord.1]
        exact hle (h.ticket i)
      · rw [hothers j hj]
        exact hle (h.ticket j)
    · by_cases hj : j = i
      · rw [hj, hrecord.1, hrecord.2.2]
        refine ⟨?_, hqueued⟩
        rcases hcounter with ⟨hmutation, hcurrent⟩ | ⟨-, -, hcurrent⟩
        · rw [hcurrent, hmutation]
          exact hlinks.current
        · rw [hcurrent, show s.current = _ from hlinks.current]
      · rw [hothers j hj, hother j hj] at hstarted
        cases hstarted
    · by_cases hj : j = i
      · rw [hj, hrecord.2.2]
        exact hqueued
      · rw [hothers j hj] at hterminal ⊢
        exact h.terminal j hterminal
    · rw [hmanual] at heq hne
      rcases hcounter with ⟨hmutation, -⟩ | ⟨hfull, hmutation, -⟩
      · rw [hmutation] at heq
        rw [h.manual heq hne i] at hbefore
        cases hbefore
      · rw [hmutation] at heq
        exact absurd (heq ▸ h.manual_le)
          (UInt64.not_le.2 (History.lt_succ_mutation hfull))

end Inv

/-! ## Histories -/

/-- The calls so far explain the phase of every record that was started. -/
structure Tracked (h : List (History × Call)) (s : History) : Prop where
  inv : Inv s
  started : ∀ i, (s.records i).phase.started = true → ∃ before chain, h = before ++ chain ∧
    Chain i (s.records i).ticket chain (s.records i).phase
  ended : ∀ i, (s.records i).phase.terminal = true → ∃ before chain after,
    h = before ++ chain ++ after ∧ Chain i (s.records i).ticket chain (s.records i).phase

namespace Tracked

variable {h : List (History × Call)} {s s' : History} {call : Call}

theorem empty : Tracked [] {} where
  inv := Inv.empty
  started _ h := by cases h
  ended _ h := by cases h

/-- An ended record stays explained while it is kept. -/
theorem ended_carried (ht : Tracked h s) (hi : Carried (s.records i) (s'.records i))
    (hterminal : (s'.records i).phase.terminal = true) : ∃ before chain after,
      h ++ [(s, call)] = before ++ chain ++ after ∧
        Chain i (s'.records i).ticket chain (s'.records i).phase := by
  have hphase := hi.terminal_iff hterminal
  rw [hphase] at hterminal
  obtain ⟨before, chain, after, rfl, hchain⟩ := ht.ended i hterminal
  refine ⟨before, chain, after ++ [(s, call)], by rw [List.append_assoc], ?_⟩
  rwa [hi.ticket, hphase]

theorem step (ht : Tracked h s) (hstep : Step s call (s.next call)) :
    Tracked (h ++ [(s, call)]) (s.next call) := by
  have hinv := ht.inv.step hstep
  cases hstep with
  | quiet hbound hmutation hcurrent hmanual hrecords =>
    refine ⟨hinv, fun i hstarted => ?_, fun i => ht.ended_carried (hrecords i)⟩
    have hphase := (hrecords i).of_started hstarted
    rw [hphase] at hstarted
    obtain ⟨before, chain, rfl, hchain⟩ := ht.started i hstarted
    refine ⟨before, chain ++ [(s, call)], by rw [List.append_assoc], ?_⟩
    rw [(hrecords i).ticket, hphase]
    exact hchain.idle hmutation
  | disturbed hfull hbound hmutation hmanual hrecords =>
    refine ⟨hinv, fun i hstarted => ?_, fun i => ht.ended_carried (hrecords i).1⟩
    rw [(hrecords i).2] at hstarted
    cases hstarted
  | overflowed hfull hmutation hmanual hrecords =>
    refine ⟨hinv, fun i hstarted => ?_, fun i hterminal => ?_⟩
    · rw [(hrecords i).1] at hstarted
      cases hstarted
    · rw [(hrecords i).1] at hterminal
      cases hterminal
  | reset hcall hfull hmutation hmanual hrecords =>
    refine ⟨hinv, fun i hstarted => ?_, fun i hterminal => ?_⟩
    · rw [hrecords i] at hstarted
      cases hstarted
    · rw [hrecords i] at hterminal
      cases hterminal
  | armed i hcall hfull hmutation hmanual hrecord hothers hbound =>
    refine ⟨hinv, fun j hstarted => ?_, fun j hterminal => ?_⟩
    · by_cases hj : j = i
      · rw [hj, hrecord.2] at hstarted
        cases hstarted
      · rw [(hothers j hj).2] at hstarted
        cases hstarted
    · by_cases hj : j = i
      · rw [hj, hrecord.2] at hterminal
        cases hterminal
      · exact ht.ended_carried (hothers j hj).1 hterminal
  | opened i phase hfull hopens hbound hmutation hcurrent hmanual hrecord hphase hothers =>
    refine ⟨hinv, fun j hstarted => ?_, fun j hterminal => ?_⟩
    · by_cases hj : j = i
      · subst hj
        refine ⟨h, [(s, call)], rfl, ?_⟩
        rw [hrecord]
        exact .opens hopens
      · rw [(hothers j hj).2] at hstarted
        cases hstarted
    · by_cases hj : j = i
      · have hstarted := Call.started_of_opens hopens.opens
        rw [hj, hrecord] at hterminal
        rw [Phase.not_started_of_terminal hterminal] at hstarted
        cases hstarted
      · exact ht.ended_carried (hothers j hj).1 hterminal
  | linked i source target hlinks hbound hcounter hmanual hrecord hothers =>
    obtain ⟨hsource, -⟩ := Call.started_of_link hlinks.link
    have hbefore : (s.records i).phase.started = true := by rw [hlinks.owner.2, hsource]
    obtain ⟨before, chain, rfl, hchain⟩ := ht.started i hbefore
    have hlinked : Chain i ((s.next call).records i).ticket (chain ++ [(s, call)])
        ((s.next call).records i).phase := by
      rw [hrecord.1, show ((s.next call).records i).phase = target from hlinks.reached]
      refine .links ?_ hlinks
      rwa [show (s.records i).phase = source from hlinks.owner.2] at hchain
    refine ⟨hinv, fun j hstarted => ?_, fun j hterminal => ?_⟩
    · by_cases hj : j = i
      · subst hj
        exact ⟨before, chain ++ [(s, call)], by rw [List.append_assoc], hlinked⟩
      · -- two records cannot both be the current one
        rw [hothers j hj] at hstarted
        have hcurrent := (ht.inv.started j hstarted).1.symm.trans (ht.inv.started i hbefore).1
        exact absurd (Fin.ext (congrArg Transition.index hcurrent)) hj
    · by_cases hj : j = i
      · subst hj
        exact ⟨before, chain ++ [(s, call)], [], by rw [List.append_nil, List.append_assoc],
          hlinked⟩
      · refine ht.ended_carried ?_ hterminal
        rw [hothers j hj]
        exact .refl _

theorem next (ht : Tracked h s) (call : Call) : Tracked (h ++ [(s, call)]) (s.next call) :=
  ht.step (History.step_next ht.inv call)

end Tracked

/-! ## Starts that may belong to several records -/

/-- The call begins a start that two queued records wait for. -/
structure Ambiguous (s : History) (identity : Identity) (power : UInt32) (i j : Fin capacity) :
    Prop where
  ne : i ≠ j
  left : i ∈ s.advanced.candidates identity power
  right : j ∈ s.advanced.candidates identity power

theorem unattributed {s : History} (h : Inv s) {identity : Identity} {power : UInt32}
    {frame : Frame} {i j : Fin capacity} (hambiguous : Ambiguous s identity power i j) :
    (s.beginStart identity power frame).2 = {} ∧
      ∀ k, ((s.beginStart identity power frame).1.records k).phase.started = false ∧
        (k ∈ s.advanced.candidates identity power →
          ((s.beginStart identity power frame).1.records k).phase = .unknown) := by
  obtain ⟨hne, hi, hj⟩ := hambiguous
  -- a candidate is known, so its identity is the one that the history is bound to
  have hcandidate {k : Fin capacity} (hk : k ∈ s.advanced.candidates identity power) :=
    History.startable_eq_true (History.mem_candidates.1 hk).1
  obtain ⟨hidentity, -, hknown, -⟩ := hcandidate hi
  have hrelevant : s.relevant identity.actor = true := by
    obtain ⟨hvalid, hbound⟩ := h.bound i hknown
    refine decide_eq_true ⟨hvalid, ?_⟩
    rw [← hbound]
    exact congrArg Identity.actor hidentity
  rw [History.beginStart, if_neg (not_not.2 hrelevant)]
  by_cases hfull : s.full = true
  · rw [if_pos hfull]
    exact ⟨rfl, fun k => ⟨rfl, fun _ => rfl⟩⟩
  · rw [if_neg hfull]
    have hcarried := @History.carried_beginStart s.advanced identity power
      (History.actor_of_relevant h hrelevant)
    dsimp only at hcarried ⊢
    split
    case h_1 hnone =>
      rw [hnone] at hi
      cases hi
    case h_2 k hone =>
      rw [hone] at hi hj
      exact absurd ((List.mem_singleton.1 hi).trans (List.mem_singleton.1 hj).symm) hne
    case h_3 =>
      refine ⟨rfl, fun k => ⟨?_, fun hk => ?_⟩⟩
      · exact (History.carried_ambiguous identity power k).unstarted (hcarried k).2
      · obtain ⟨hidentity', hpower', -, hterminal⟩ := hcandidate hk
        refine if_pos ⟨hidentity', hpower', fun hended => ?_⟩
        rw [(hcarried k).1.terminal_iff hended] at hended
        rw [hterminal] at hended
        cases hended

/-! ## Ended records -/

/-- What a call leaves of an ended record: all of its phase, unless the counter is at its maximum,
the slot gets a new record, or the lifetime ends. -/
inductive Kept (s : History) (call : Call) (i : Fin capacity) : Prop
  | same (hticket : ((s.next call).records i).ticket = (s.records i).ticket)
      (hphase : ((s.next call).records i).phase = (s.records i).phase)
  | overflowed (hfull : s.full = true)
      (hphases : ∀ j, ((s.next call).records j).phase = .unknown)
  | armed (hcall : call.arms = some i.1)
      (hticket : (s.records i).ticket < ((s.next call).records i).ticket)
  | reset (hcall : call.resets = true) (hrecord : (s.next call).records i = {})

theorem kept_of_terminal {s : History} (h : Inv s) (call : Call)
    (hterminal : (s.records i).phase.terminal = true) : Kept s call i := by
  have hunstarted := Phase.not_started_of_terminal hterminal
  have hcarried (hi : Carried (s.records i) ((s.next call).records i)) : Kept s call i := by
    refine .same hi.ticket ?_
    rcases hi.phase with hphase | ⟨hterminal', -⟩
    · exact hphase
    · exact absurd (hterminal'.symm.trans hterminal) nofun
  cases History.step_next h call with
  | quiet hbound hmutation hcurrent hmanual hrecords => exact hcarried (hrecords i)
  | disturbed hfull hbound hmutation hmanual hrecords => exact hcarried (hrecords i).1
  | overflowed hfull hmutation hmanual hrecords =>
    exact .overflowed hfull fun j => (hrecords j).1
  | reset hcall hfull hmutation hmanual hrecords => exact .reset hcall (hrecords i)
  | armed j hcall hfull hmutation hmanual hrecord hothers hbound =>
    by_cases hi : i = j
    · subst hi
      refine .armed hcall ?_
      rw [hrecord.1, hmutation]
      exact UInt64.lt_of_le_of_lt (h.ticket i) (History.lt_succ_mutation hfull)
    · exact hcarried (hothers i hi).1
  | opened j phase hfull hopens hbound hmutation hcurrent hmanual hrecord hphase hothers =>
    by_cases hi : i = j
    · subst hi
      exact absurd (hphase.2.symm.trans hterminal) nofun
    · exact hcarried (hothers i hi).1
  | linked j source target hlinks hbound hcounter hmanual hrecord hothers =>
    by_cases hi : i = j
    · subst hi
      rw [show (s.records i).phase = source from hlinks.owner.2,
        (Call.started_of_link hlinks.link).1] at hunstarted
      cases hunstarted
    · refine hcarried ?_
      rw [hothers i hi]
      exact .refl _

/-! ## Attribution -/

/-- The history after calls. -/
def after (calls : List Call) : History := calls.foldl History.next {}

theorem tracked_after (calls : List Call) : Tracked (met History.next {} calls) (after calls) :=
  history_met (h := []) (fun ht => ht.next _) Tracked.empty

/-- An activation ends only by its own unbroken chain from a queued record on; a start that may
belong to several queued records starts none; and an ended record stays what it is. -/
theorem activations_attributed (calls : List Call) :
    (∀ i, ((after calls).records i).phase.terminal = true → ∃ before chain rest,
      met History.next {} calls = before ++ chain ++ rest ∧
        Chain i ((after calls).records i).ticket chain ((after calls).records i).phase) ∧
    (∀ identity power frame i j, Ambiguous (after calls) identity power i j →
      ((after calls).beginStart identity power frame).2 = {} ∧
        ∀ k, (((after calls).beginStart identity power frame).1.records k).phase.started = false ∧
          (k ∈ (after calls).advanced.candidates identity power →
            (((after calls).beginStart identity power frame).1.records k).phase = .unknown)) ∧
    ∀ call i, ((after calls).records i).phase.terminal = true → Kept (after calls) call i :=
  have ht := tracked_after calls
  ⟨ht.ended, fun _ _ _ _ _ => unattributed ht.inv, fun call _ => kept_of_terminal ht.inv call⟩

/-- The actor of a run. -/
def someone : Identity := ⟨16, (1, 53), 1⟩

/-- An item whose use the actor interrupts by moving, then two equal ones that both wait. -/
def interruption : List Call :=
  [.arm 0 someone 7 .item, .queueResult 0 1 true, .beginStart someone 7 ⟨1, 1, 1, 1⟩,
    .stateReturned ⟨2, 1, 0⟩ true, .beginAppend someone 7 ⟨1, 1, 1, 1⟩,
    .appendReturned ⟨3, 1, 0⟩ true, .startProcessReturned ⟨3, 1, 0⟩ true, .beginMovement someone,
    .movementReturned ⟨4, 1, 0⟩ true, .arm 1 someone 7 .item, .queueResult 1 5 true,
    .arm 2 someone 7 .item, .queueResult 2 6 true]

theorem activations_attributed_interruption :
    (∃ before chain rest, met History.next {} interruption = before ++ chain ++ rest ∧
      Chain 0 1 chain .interrupted) ∧
    ((after interruption).beginStart someone 7 ⟨1, 1, 1, 1⟩).2 = {} ∧
    Kept (after interruption) (.beginStart someone 7 ⟨1, 1, 1, 1⟩) 0 := by
  have hphase : ((after interruption).records 0).phase = .interrupted := by decide
  have hticket : ((after interruption).records 0).ticket = 1 := by decide
  have hterminal : ((after interruption).records 0).phase.terminal = true := by
    rw [hphase]
    rfl
  obtain ⟨hended, hstart, hkept⟩ := activations_attributed interruption
  have hchain := hended 0 hterminal
  rw [hphase, hticket] at hchain
  exact ⟨hchain, (hstart _ _ _ 1 2 ⟨by decide, by decide, by decide⟩).1, hkept _ 0 hterminal⟩

end ShadowbaneLab.Native.Activation
