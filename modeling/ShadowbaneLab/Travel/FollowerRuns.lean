/-
# Histories of the waypoint follower

What holds in every history of a follower: it submits a bounded number of attempts, never
falls back behind an observed waypoint, spaces its direct commands, always has a direction to
escape in, and arrives only within the radius of its final destination
(`follower_invariants`).  Deferring a proposal must be clean for that: nothing was stepped
since, and no waypoint was passed on arrival.
-/
import ShadowbaneLab.Travel.Follower

namespace ShadowbaneLab

open Foundation TravelController

variable {K : Type} [Field K] [LinearOrder K]

/-! ## Histories -/

/-- A call of a travel controller. -/
inductive TravelCall (K : Type) [Field K] [LinearOrder K] where
  | step (observation : TravelObservation K)
  | propose (observation : TravelObservation K)
  | acknowledgeDispatch (decision : TravelDecision K)
  | deferDispatch (decision : TravelDecision K) (observation : TravelObservation K)
  | observeDeferred (observation : TravelObservation K)
  | stop (reason : String) (observation : Option (TravelObservation K))

/-- The observation by which a call moves the route on. -/
def TravelCall.observes : TravelCall K → Option (TravelObservation K)
  | .step observation | .propose observation | .observeDeferred observation => some observation
  | _ => none

/-- The decision a call returns, if it returns one, and the follower after it. -/
def TravelController.call (metric : Metric K) {params : TravelParameters K}
    (controller : TravelController params) :
    TravelCall K → Except TravelFault (Option (TravelDecision K) × TravelController params)
  | .step observation => do
    let (decision, controller) ← controller.step metric observation
    pure (some decision, controller)
  | .propose observation => do
    let (decision, controller) ← controller.propose metric observation
    pure (some decision, controller)
  | .acknowledgeDispatch decision => do
    let controller ← controller.acknowledgeDispatch decision
    pure (none, controller)
  | .deferDispatch decision observation => do
    let (decision, controller) ← controller.deferDispatch metric observation decision
    pure (some decision, controller)
  | .observeDeferred observation => do
    let (decision, controller) ← controller.observeDeferred metric observation
    pure (some decision, controller)
  | .stop reason observation => do
    let (decision, controller) ← controller.stop metric reason observation
    pure (some decision, controller)

/-- A call that was answered. -/
structure TravelEvent (params : TravelParameters K) where
  call : TravelCall K
  before : TravelController params
  decision : Option (TravelDecision K)
  after : TravelController params

/-- The events since the follower was constructed, the newest first.  A call that raises
changes nothing and is left out. -/
inductive TravelHistory (metric : Metric K) {params : TravelParameters K} :
    List (TravelEvent params) → TravelController params → Prop where
  | constructed : TravelHistory metric [] {}
  | called {events : List (TravelEvent params)} {controller controller' : TravelController params}
      {decision : Option (TravelDecision K)} (call : TravelCall K) :
      TravelHistory metric events controller →
        controller.call metric call = .ok (decision, controller') →
          TravelHistory metric (⟨call, controller, decision, controller'⟩ :: events) controller'

variable {metric : Metric K} {params : TravelParameters K} {events : List (TravelEvent params)}
  {controller controller' : TravelController params} {observation : TravelObservation K}

/-! ## What a history says -/

/-- The attempts that an event submits: those of a decision that `step` returns, or that is
acknowledged. -/
def TravelEvent.submitted (event : TravelEvent params) : ℕ :=
  match event.call with
  | .step _ => (event.decision.map TravelDecision.attempts).getD 0
  | .acknowledgeDispatch decision => decision.attempts
  | _ => 0

def submittedAttempts (events : List (TravelEvent params)) : ℕ :=
  (events.map TravelEvent.submitted).sum

/-- The waypoint that the last observation found active, before any target was chosen. -/
def observedPassage (metric : Metric K) : List (TravelEvent params) → params.Waypoint
  | [] => ⟨0, params.destinations_pos⟩
  | event :: earlier =>
    match event.call.observes, event.before.terminal with
    | some observation, none => event.before.passage metric observation
    | _, _ => observedPassage metric earlier

/-- Whether a route that has not ended was stepped since the last proposal. -/
def steppedSince : List (TravelEvent params) → Bool
  | [] => false
  | event :: earlier =>
    match event.call with
    | .propose _ => false
    | .step _ => event.before.terminal.isNone || steppedSince earlier
    | _ => steppedSince earlier

/-- Whether a proposal was made at an arrival, at an observation that passed a waypoint. -/
def Dispatch.passedOnArrival (checkpoint : Dispatch params) (decision : TravelDecision K)
    (controller : TravelController params) : Bool :=
  decision.phase = .complete && checkpoint.waypointIndex ≠ controller.waypointIndex

/-- Whether an event is no deferral, or the deferral of a proposal since which nothing was
stepped, and which was no arrival that passed a waypoint. -/
def TravelEvent.clean (earlier : List (TravelEvent params)) (event : TravelEvent params) : Bool :=
  match event.call with
  | .deferDispatch decision _ => !steppedSince earlier &&
      event.before.proposal.all (fun proposal => !proposal.1.passedOnArrival decision event.before)
  | _ => true

/-- Every deferral is clean. -/
def CleanHistory : List (TravelEvent params) → Prop
  | [] => True
  | event :: earlier => event.clean earlier = true ∧ CleanHistory earlier

instance CleanHistory.decidable :
    (events : List (TravelEvent params)) → Decidable (CleanHistory events)
  | [] => isTrue trivial
  | event :: earlier =>
    have := CleanHistory.decidable earlier
    inferInstanceAs (Decidable (event.clean earlier = true ∧ CleanHistory earlier))

/-- Within an event, the active waypoint only falls back by a deferral, and not behind the
observed passage. -/
def TravelEvent.KeepsPassage (metric : Metric K) (earlier : List (TravelEvent params))
    (event : TravelEvent params) : Prop :=
  event.before.waypointIndex ≤ event.after.waypointIndex ∨
    (∃ decision observation, event.call = .deferDispatch decision observation) ∧
      observedPassage metric earlier ≤ event.after.waypointIndex

/-- An arrival is within the radius of the final destination, or was returned before. -/
def TravelEvent.ArrivesThere (metric : Metric K) (earlier : List (TravelEvent params))
    (event : TravelEvent params) : Prop :=
  ∀ decision ∈ event.decision, decision.phase = .complete →
    (∃ observation ∈ event.call.observes,
        params.finalDestination.Reached metric observation.position) ∨
      ∃ before ∈ earlier, before.decision = some decision

/-- Between two events there is neither a pause nor another waypoint. -/
def Uninterrupted (between : List (TravelEvent params)) : Prop :=
  ∀ event ∈ between,
    event.after.dispatchPaused = false ∧ event.after.waypointIndex = event.before.waypointIndex

/-! ## The invariant -/

/-- The attempts of a proposal that waits for its acknowledgement. -/
def TravelController.pendingAttempts (controller : TravelController params) : ℕ :=
  (controller.proposal.map (fun proposal => proposal.2.attempts)).getD 0

/-- The end of a route was returned before, and sends nothing. -/
def EndedBy (events : List (TravelEvent params)) (terminal : Option (TravelDecision K)) : Prop :=
  ∀ decision ∈ terminal, decision.command = none ∧
    (decision.phase = .complete → ∃ event ∈ events, event.decision = some decision)

/-- What a proposal remembers. -/
structure Proposed (metric : Metric K) (events : List (TravelEvent params))
    (controller : TravelController params) (checkpoint : Dispatch params)
    (decision : TravelDecision K) : Prop where
  headed : checkpoint.Headed
  ended : EndedBy events checkpoint.terminal
  attempts : steppedSince events = false →
    checkpoint.attemptCount + decision.attempts = controller.attemptCount
  passage : steppedSince events = false →
    observedPassage metric events ≤ checkpoint.waypointIndex ∨
      decision.phase = .complete ∧ observedPassage metric events = controller.waypointIndex

structure Consistent (metric : Metric K) (events : List (TravelEvent params))
    (controller : TravelController params) : Prop where
  attempts : controller.attemptCount = submittedAttempts events + controller.pendingAttempts
  bounded : controller.attemptCount ≤ params.config.maximumClicks
  headed : controller.Headed
  ended : EndedBy events controller.terminal
  passage : observedPassage metric events ≤ controller.waypointIndex
  proposed : ∀ checkpoint decision, controller.proposal = some (checkpoint, decision) →
    Proposed metric events controller checkpoint decision

/-- What an event preserves. -/
structure TravelEvent.Kept (metric : Metric K) (earlier : List (TravelEvent params))
    (event : TravelEvent params) : Prop where
  consistent : Consistent metric (event :: earlier) event.after
  passage : event.KeepsPassage metric earlier
  arrives : event.ArrivesThere metric earlier

/-! ## What an event preserves -/

variable {event : TravelEvent params}

section Events

variable {decision : TravelDecision K} {checkpoint : Dispatch params}

theorem submittedAttempts_cons (event : TravelEvent params) :
    submittedAttempts (event :: events) = event.submitted + submittedAttempts events := by
  simp [submittedAttempts]

/-- An event that submits nothing. -/
theorem submittedAttempts_quiet (h : event.submitted = 0) :
    submittedAttempts (event :: events) = submittedAttempts events := by
  rw [submittedAttempts_cons, h, Nat.zero_add]

theorem pendingAttempts_none (h : controller.proposal = none) :
    controller.pendingAttempts = 0 := by
  unfold pendingAttempts
  rw [h]
  rfl

theorem pendingAttempts_some (h : controller.proposal = some (checkpoint, decision)) :
    controller.pendingAttempts = decision.attempts := by
  unfold pendingAttempts
  rw [h]
  rfl

variable {terminal : Option (TravelDecision K)}

theorem EndedBy.cons (event : TravelEvent params) (h : EndedBy events terminal) :
    EndedBy (event :: events) terminal := by
  intro ended hended
  obtain ⟨hnone, hreturned⟩ := h ended hended
  refine ⟨hnone, fun hcomplete => ?_⟩
  obtain ⟨before, hbefore, hdecision⟩ := hreturned hcomplete
  exact ⟨before, List.mem_cons_of_mem _ hbefore, hdecision⟩

/-- The decision with which an event ends the route is the one it returns. -/
theorem EndedBy.returned (hdecision : event.decision = some decision)
    (h : ∀ ended ∈ terminal, ended = decision ∧ decision.command = none) :
    EndedBy (event :: events) terminal := by
  intro ended hended
  obtain ⟨rfl, hnone⟩ := h ended hended
  exact ⟨hnone, fun _ => ⟨event, List.mem_cons_self, hdecision⟩⟩

/-- An answer to an ended route was given before. -/
theorem Consistent.repeats (h : Consistent metric events controller)
    (hterminal : controller.terminal = some decision) {call : TravelCall K} :
    TravelEvent.ArrivesThere metric events ⟨call, controller, some decision, controller⟩ := by
  intro ended hended hcomplete
  cases hended
  exact .inr ((h.ended decision hterminal).2 hcomplete)

theorem Proposed.cons (h : Proposed metric events controller checkpoint decision)
    (hattempts : steppedSince (event :: events) = false →
      steppedSince events = false ∧ controller'.attemptCount = controller.attemptCount)
    (hpassage : steppedSince (event :: events) = false →
      observedPassage metric (event :: events) = observedPassage metric events ∧
        controller'.waypointIndex = controller.waypointIndex) :
    Proposed metric (event :: events) controller' checkpoint decision where
  headed := h.headed
  ended := h.ended.cons event
  attempts hstepped := by
    obtain ⟨hstepped', hsame⟩ := hattempts hstepped
    rw [hsame]
    exact h.attempts hstepped'
  passage hstepped := by
    obtain ⟨hstepped', _⟩ := hattempts hstepped
    obtain ⟨hobserved, hsame⟩ := hpassage hstepped
    rw [hobserved, hsame]
    exact h.passage hstepped'

/-- What an event on a route that has not ended preserves. -/
theorem Consistent.stepped (h : Consistent metric events controller)
    (hdecision : event.decision = some decision) (hbefore : event.before = controller)
    (hobserves : event.call.observes = some observation)
    (hsubmitted : event.submitted = decision.attempts)
    (hstepped : Stepped metric observation controller decision controller')
    (hproposal : controller'.proposal = controller.proposal)
    (hproposed : ∀ checkpoint proposed, controller'.proposal = some (checkpoint, proposed) →
      steppedSince (event :: events) = true) :
    Consistent metric (event :: events) controller' where
  attempts := by
    have hpending : controller'.pendingAttempts = controller.pendingAttempts := by
      unfold pendingAttempts
      rw [hproposal]
    rw [submittedAttempts_cons, hsubmitted, hpending, hstepped.attempts, h.attempts]
    omega
  bounded := hstepped.bounded h.bounded
  headed := hstepped.headed h.headed
  ended := EndedBy.returned hdecision hstepped.ended
  passage := by
    simp only [observedPassage, hobserves, hbefore, hstepped.traveling]
    exact hstepped.index_le
  proposed := fun checkpoint proposed hkept => by
    have hwas := h.proposed checkpoint proposed (hproposal ▸ hkept)
    have hnot := hproposed checkpoint proposed hkept
    exact hwas.cons (fun h => absurd (hnot.symm.trans h) nofun)
      (fun h => absurd (hnot.symm.trans h) nofun)

theorem TravelController.Stepped.keepsPassage
    (hstepped : Stepped metric observation event.before decision event.after) :
    event.KeepsPassage metric events :=
  .inl (hstepped.passage_le.trans hstepped.index_le)

theorem TravelController.Stepped.arrivesThere (hobserves : event.call.observes = some observation)
    (hdecision : event.decision = some decision)
    (hstepped : Stepped metric observation event.before decision event.after) :
    event.ArrivesThere metric events := by
  intro returned hreturned hcomplete
  cases hdecision.symm.trans hreturned
  exact .inl ⟨observation, hobserves, (hstepped.arrived hcomplete).1⟩

section

variable (h : Consistent metric events controller)
include h

/-- What an event on a route that has ended preserves. -/
theorem Consistent.settled (hterminal : controller.terminal = some decision)
    (hbefore : event.before = controller) (hsubmitted : event.submitted = 0)
    (hstepped : steppedSince (event :: events) = steppedSince events) :
    Consistent metric (event :: events) controller := by
  have hpassage : observedPassage metric (event :: events) = observedPassage metric events := by
    simp only [observedPassage, hbefore, hterminal]
    cases event.call.observes <;> rfl
  exact
    { attempts := h.attempts.trans (by rw [submittedAttempts_quiet hsubmitted])
      bounded := h.bounded
      headed := h.headed
      ended := h.ended.cons _
      passage := hpassage ▸ h.passage
      proposed := fun checkpoint proposed hproposal =>
        (h.proposed checkpoint proposed hproposal).cons (fun hnot => ⟨hstepped ▸ hnot, rfl⟩)
          (fun _ => ⟨hpassage, rfl⟩) }

theorem step_kept (hstep : controller.step metric observation = .ok (decision, controller')) :
    TravelEvent.Kept metric events ⟨.step observation, controller, some decision, controller'⟩ := by
  rcases step_cases h.headed hstep with ⟨hterminal, rfl⟩ | ⟨hstepped, hproposal, _⟩
  · have hnone := (h.ended decision hterminal).1
    refine ⟨h.settled hterminal rfl ?_ ?_, .inl (le_refl _), h.repeats hterminal⟩
    · exact TravelDecision.attempts_eq_zero hnone
    · simp [steppedSince, hterminal]
  · refine ⟨h.stepped rfl rfl rfl rfl hstepped hproposal ?_,
      hstepped.keepsPassage, hstepped.arrivesThere rfl rfl⟩
    intro checkpoint proposed _
    simp [steppedSince, hstepped.traveling]

theorem observeDeferred_kept
    (hobserve : controller.observeDeferred metric observation = .ok (decision, controller')) :
    TravelEvent.Kept metric events
      ⟨.observeDeferred observation, controller, some decision, controller'⟩ := by
  have hnone : controller.proposal = none := by
    unfold observeDeferred at hobserve
    split at hobserve
    · cases hobserve
    next hproposal => simpa using hproposal
  rcases observeDeferred_cases h.headed hobserve with ⟨hterminal, rfl⟩ |
    ⟨hstepped, hproposal, hquiet⟩
  · exact ⟨h.settled hterminal rfl rfl rfl, .inl (le_refl _), h.repeats hterminal⟩
  · refine ⟨h.stepped rfl rfl rfl (TravelDecision.attempts_eq_zero hquiet).symm hstepped
      hproposal ?_, hstepped.keepsPassage, hstepped.arrivesThere rfl rfl⟩
    intro checkpoint proposed hkept
    exact absurd (hnone.symm.trans (hproposal.symm.trans hkept)) nofun

theorem propose_kept
    (hpropose : controller.propose metric observation = .ok (decision, controller')) :
    TravelEvent.Kept metric events
      ⟨.propose observation, controller, some decision, controller'⟩ := by
  obtain ⟨hnone, ⟨hterminal, rfl⟩ | ⟨checkpoint, hstepped, hproposal, hcheckpoint⟩⟩ :=
    propose_cases h.headed hpropose
  · have hquiet := TravelDecision.attempts_eq_zero (h.ended decision hterminal).1
    have hpassage : observedPassage metric (⟨.propose observation, controller, some decision,
        { controller with
          proposal := some (controller.toDispatch, decision)
          proposalCheckpoint := none }⟩ :: events) = observedPassage metric events := by
      simp only [observedPassage, hterminal]
      rfl
    refine ⟨?_, .inl (le_refl _), fun returned hreturned hcomplete => ?_⟩
    · exact
        { attempts := by
            rw [submittedAttempts_quiet rfl, pendingAttempts_some rfl, hquiet,
              ← pendingAttempts_none hnone]
            exact h.attempts
          bounded := h.bounded
          headed := h.headed
          ended := h.ended.cons _
          passage := hpassage ▸ h.passage
          proposed := fun checkpoint proposed hproposed => by
            cases hproposed
            exact
              { headed := h.headed
                ended := h.ended.cons _
                attempts := fun _ => by rw [hquiet]; rfl
                passage := fun _ => .inl (hpassage ▸ h.passage) } }
    · cases hreturned
      exact .inr ((h.ended decision hterminal).2 hcomplete)
  · have hpassage : observedPassage metric (⟨.propose observation, controller, some decision,
        controller'⟩ :: events) = controller.passage metric observation := by
      simp only [observedPassage, TravelCall.observes, hstepped.traveling]
    refine ⟨?_, hstepped.keepsPassage, hstepped.arrivesThere rfl rfl⟩
    exact
      { attempts := by
          rw [submittedAttempts_quiet rfl, pendingAttempts_some hproposal, hstepped.attempts,
            h.attempts, pendingAttempts_none hnone, Nat.add_zero]
        bounded := hstepped.bounded h.bounded
        headed := hstepped.headed h.headed
        ended := EndedBy.returned rfl hstepped.ended
        passage := hpassage ▸ hstepped.index_le
        proposed := fun checkpoint' proposed hproposed => by
          cases hproposal.symm.trans hproposed
          exact
            { headed := hcheckpoint.headed h.headed
              ended := by rw [hcheckpoint.ended]; nofun
              attempts := fun _ => by rw [hcheckpoint.attempts, hstepped.attempts]
              passage := fun _ => by
                rw [hpassage]
                rcases hcheckpoint.index with hcomplete | hindex
                · exact .inr ⟨hcomplete, (hstepped.arrived hcomplete).2.symm⟩
                · exact .inl hindex } }

theorem acknowledge_kept (hacknowledge : controller.acknowledgeDispatch decision = .ok controller')
    :
    TravelEvent.Kept metric events
      ⟨.acknowledgeDispatch decision, controller, none, controller'⟩ := by
  obtain ⟨checkpoint, hrequire, hacknowledge⟩ := bind_eq_ok.mp hacknowledge
  have hproposal := requireProposal_eq_ok hrequire
  cases hacknowledge
  refine ⟨?_, .inl (le_refl _), nofun⟩
  exact
    { attempts := by
        rw [submittedAttempts_cons, pendingAttempts_none rfl, h.attempts,
          pendingAttempts_some hproposal, Nat.add_comm]
        rfl
      bounded := h.bounded
      headed := h.headed
      ended := h.ended.cons _
      passage := h.passage
      proposed := fun _ _ hkept => absurd hkept.symm (Option.some_ne_none _) }

theorem stop_kept {reason : String} {observation : Option (TravelObservation K)}
    (hstop : controller.stop metric reason observation = .ok (decision, controller')) :
    TravelEvent.Kept metric events
      ⟨.stop reason observation, controller, some decision, controller'⟩ := by
  unfold stop at hstop
  split at hstop
  · cases hstop
  split at hstop
  next hterminal =>
    cases hstop
    exact ⟨h.settled hterminal rfl rfl rfl, .inl (le_refl _), h.repeats hterminal⟩
  next hterminal =>
    cases hstop
    refine ⟨?_, .inl (le_refl _), fun returned hreturned hcomplete => ?_⟩
    · exact
        { attempts := h.attempts.trans (by rw [submittedAttempts_quiet rfl]; rfl)
          bounded := h.bounded
          headed := h.headed
          ended := EndedBy.returned rfl (fun ended hended => ⟨(Option.some.inj hended).symm, rfl⟩)
          passage := h.passage
          proposed := fun checkpoint proposed hproposal =>
            (h.proposed checkpoint proposed hproposal).cons (fun hnot => ⟨hnot, rfl⟩)
              (fun _ => ⟨rfl, rfl⟩) }
    · cases hreturned
      cases hcomplete

theorem defer_kept {proposed : TravelDecision K} (hclean : TravelEvent.clean events
      ⟨.deferDispatch proposed observation, controller, some decision, controller'⟩ = true)
    (hdefer : controller.deferDispatch metric observation proposed = .ok (decision, controller')) :
    TravelEvent.Kept metric events
      ⟨.deferDispatch proposed observation, controller, some decision, controller'⟩ := by
  obtain ⟨checkpoint, hrequire, hdefer⟩ := bind_eq_ok.mp hdefer
  have hproposal := requireProposal_eq_ok hrequire
  simp only [TravelEvent.clean, hproposal, Option.all_some, Bool.and_eq_true, Bool.not_eq_true']
    at hclean
  obtain ⟨hstepped, hpassed⟩ := hclean
  have hwas := h.proposed checkpoint proposed hproposal
  have hpassage : observedPassage metric events ≤ checkpoint.waypointIndex := by
    rcases hwas.passage hstepped with hpassage | ⟨hcomplete, hpassage⟩
    · exact hpassage
    · simp only [Dispatch.passedOnArrival, hcomplete, decide_true, Bool.true_and,
        decide_eq_false_iff_not, not_not] at hpassed
      exact (hpassage.trans hpassed.symm).le
  have hattempts : checkpoint.attemptCount = submittedAttempts events := by
    have hproposed := hwas.attempts hstepped
    rw [h.attempts, pendingAttempts_some hproposal] at hproposed
    omega
  cases hdefer
  refine ⟨?_, .inr ⟨⟨_, _, rfl⟩, hpassage⟩, fun returned hreturned hcomplete => ?_⟩
  · exact
      { attempts := by
          rw [submittedAttempts_quiet rfl, pendingAttempts_none rfl]
          exact hattempts
        bounded := hattempts.trans_le
          (((Nat.le_add_right _ _).trans h.attempts.ge).trans h.bounded)
        headed := hwas.headed
        ended := hwas.ended.cons _
        passage := hpassage
        proposed := fun _ _ hkept => absurd hkept.symm (Option.some_ne_none _) }
  · cases hreturned
    cases hcomplete

theorem call_kept {call : TravelCall K} {decision : Option (TravelDecision K)}
    (hclean : TravelEvent.clean events ⟨call, controller, decision, controller'⟩ = true)
    (hcall : controller.call metric call = .ok (decision, controller')) :
    TravelEvent.Kept metric events ⟨call, controller, decision, controller'⟩ := by
  cases call with
  | step observation =>
    obtain ⟨⟨returned, moved⟩, hstep, hcall⟩ := bind_eq_ok.mp hcall
    cases hcall
    exact step_kept h hstep
  | propose observation =>
    obtain ⟨⟨returned, moved⟩, hpropose, hcall⟩ := bind_eq_ok.mp hcall
    cases hcall
    exact propose_kept h hpropose
  | acknowledgeDispatch proposed =>
    obtain ⟨moved, hacknowledge, hcall⟩ := bind_eq_ok.mp hcall
    cases hcall
    exact acknowledge_kept h hacknowledge
  | deferDispatch proposed observation =>
    obtain ⟨⟨returned, moved⟩, hdefer, hcall⟩ := bind_eq_ok.mp hcall
    cases hcall
    exact defer_kept h hclean hdefer
  | observeDeferred observation =>
    obtain ⟨⟨returned, moved⟩, hobserve, hcall⟩ := bind_eq_ok.mp hcall
    cases hcall
    exact observeDeferred_kept h hobserve
  | stop reason observation =>
    obtain ⟨⟨returned, moved⟩, hstop, hcall⟩ := bind_eq_ok.mp hcall
    cases hcall
    exact stop_kept h hstop

end

end Events

/-! ## Runs -/

section Histories

theorem consistent_constructed (metric : Metric K) (params : TravelParameters K) :
    Consistent metric [] ({} : TravelController params) where
  attempts := rfl
  bounded := Nat.zero_le _
  headed := fun h => absurd h Bool.false_ne_true
  ended := fun _ h => absurd h (Option.not_mem_none _)
  passage := le_refl _
  proposed := fun _ _ h => absurd h.symm (Option.some_ne_none _)

/-- A clean history is consistent. -/
theorem TravelHistory.consistent (history : TravelHistory metric events controller)
    (hclean : CleanHistory events) : Consistent metric events controller := by
  induction history with
  | constructed => exact consistent_constructed metric params
  | called call _ hcall ih => exact (call_kept (ih hclean.2) hclean.1 hcall).consistent

/-- Every part of a history is a history. -/
theorem TravelHistory.earlier {later earlier : List (TravelEvent params)}
    (history : TravelHistory metric (later ++ earlier) controller) :
    ∃ before, TravelHistory metric earlier before := by
  induction later generalizing controller with
  | nil => exact ⟨controller, history⟩
  | cons event later ih =>
    cases history with
    | called call history _ => exact ih history

theorem CleanHistory.earlier {later earlier : List (TravelEvent params)}
    (hclean : CleanHistory (later ++ earlier)) : CleanHistory earlier := by
  induction later with
  | nil => exact hclean
  | cons event later ih => exact ih hclean.2

/-- Every event of a clean history keeps what it should. -/
theorem TravelHistory.kept {later earlier : List (TravelEvent params)}
    (history : TravelHistory metric (later ++ event :: earlier) controller)
    (hclean : CleanHistory (later ++ event :: earlier)) : event.Kept metric earlier := by
  obtain ⟨after, hsince⟩ := history.earlier
  have hclean : CleanHistory (event :: earlier) := hclean.earlier
  cases hsince with
  | called call hbefore hcall => exact call_kept (hbefore.consistent hclean.2) hclean.1 hcall

end Histories

/-! ### The pace of direct commands -/

section Pace

variable {decision : TravelDecision K} {call : TravelCall K} {nowMs : ℕ} {index : params.Waypoint}

/-- Since a direct command the follower clicked no earlier, and saw nothing earlier. -/
structure Paced (nowMs : ℕ) (index : params.Waypoint) (controller : TravelController params) :
    Prop where
  index : controller.waypointIndex = index
  paused : controller.dispatchPaused = false
  clicked : ∃ last ∈ controller.lastClickAtMs, nowMs ≤ last
  observed : ∃ previous ∈ controller.previousObservation, nowMs ≤ previous.nowMs

/-- A call moves the route on, leaves the pace alone and sends nothing, or pauses. -/
theorem call_pace {decision : Option (TravelDecision K)} (h : Consistent metric events controller)
    (hcall : controller.call metric call = .ok (decision, controller')) :
    (∃ observation returned, decision = some returned ∧
        Stepped metric observation controller returned controller') ∨
      (∀ returned ∈ decision, returned.isDirect = false) ∧ (controller'.dispatchPaused = true ∨
          ∀ nowMs index, Paced nowMs index controller → Paced nowMs index controller') := by
  have hended : ∀ ended ∈ controller.terminal, ∀ returned ∈ some ended,
      returned.isDirect = false := by
    intro ended hterminal returned hreturned
    cases hreturned
    unfold TravelDecision.isDirect
    rw [(h.ended ended hterminal).1]
    rfl
  cases call with
  | step observation =>
    obtain ⟨⟨returned, moved⟩, hstep, hcall⟩ := bind_eq_ok.mp hcall
    cases hcall
    rcases step_cases h.headed hstep with ⟨hterminal, rfl⟩ | ⟨hstepped, _⟩
    · exact .inr ⟨hended returned hterminal, .inr fun _ _ => id⟩
    · exact .inl ⟨observation, returned, rfl, hstepped⟩
  | propose observation =>
    obtain ⟨⟨returned, moved⟩, hpropose, hcall⟩ := bind_eq_ok.mp hcall
    cases hcall
    obtain ⟨_, ⟨hterminal, rfl⟩ | ⟨checkpoint, hstepped, _⟩⟩ := propose_cases h.headed hpropose
    · refine .inr ⟨hended returned hterminal, .inr fun _ _ hpaced => ?_⟩
      exact ⟨hpaced.index, hpaced.paused, hpaced.clicked, hpaced.observed⟩
    · exact .inl ⟨observation, returned, rfl, hstepped⟩
  | acknowledgeDispatch proposed =>
    obtain ⟨moved, hacknowledge, hcall⟩ := bind_eq_ok.mp hcall
    obtain ⟨checkpoint, hrequire, hacknowledge⟩ := bind_eq_ok.mp hacknowledge
    cases hacknowledge
    cases hcall
    refine .inr ⟨fun _ hreturned => absurd hreturned (Option.not_mem_none _),
      .inr fun _ _ hpaced => ?_⟩
    exact ⟨hpaced.index, hpaced.paused, hpaced.clicked, hpaced.observed⟩
  | deferDispatch proposed observation =>
    obtain ⟨⟨returned, moved⟩, hdefer, hcall⟩ := bind_eq_ok.mp hcall
    obtain ⟨checkpoint, hrequire, hdefer⟩ := bind_eq_ok.mp hdefer
    cases hdefer
    cases hcall
    refine .inr ⟨fun withdrawn hreturned => ?_, .inl rfl⟩
    cases hreturned
    rfl
  | observeDeferred observation =>
    obtain ⟨⟨returned, moved⟩, hobserve, hcall⟩ := bind_eq_ok.mp hcall
    cases hcall
    rcases observeDeferred_cases h.headed hobserve with ⟨hterminal, rfl⟩ | ⟨hstepped, _⟩
    · exact .inr ⟨hended returned hterminal, .inr fun _ _ => id⟩
    · exact .inl ⟨observation, returned, rfl, hstepped⟩
  | stop reason observation =>
    obtain ⟨⟨returned, moved⟩, hstop, hcall⟩ := bind_eq_ok.mp hcall
    cases hcall
    unfold stop at hstop
    split at hstop
    · cases hstop
    split at hstop
    next hterminal =>
      cases hstop
      exact .inr ⟨hended returned hterminal, .inr fun _ _ => id⟩
    next =>
      cases hstop
      refine .inr ⟨fun stopped hreturned => ?_, .inr fun _ _ hpaced => ?_⟩
      · cases hreturned
        rfl
      · exact ⟨hpaced.index, hpaced.paused, hpaced.clicked, hpaced.observed⟩

theorem TravelDecision.command_isSome_of_isDirect (h : decision.isDirect = true) :
    decision.command.isSome = true := by
  unfold isDirect at h
  cases hcommand : decision.command with
  | none => rw [hcommand] at h; cases h
  | some command => rfl

/-- A direct command sets the pace. -/
theorem paced_of_direct (h : Consistent metric events controller)
    (hcall : controller.call metric call = .ok (some decision, controller'))
    (hdirect : decision.isDirect = true) :
    Paced decision.nowMs controller'.waypointIndex controller' ∧
      decision.waypointIndex = controller'.waypointIndex.val := by
  rcases call_pace h hcall with ⟨observation, returned, hreturned, hstepped⟩ | ⟨hquiet, _⟩
  · cases hreturned
    have hsome := TravelDecision.command_isSome_of_isDirect hdirect
    obtain ⟨hnow, hpaused, hclicked⟩ := hstepped.clicked hsome
    refine ⟨⟨rfl, hpaused, ⟨_, hclicked, hnow.le⟩, ⟨_, hstepped.observed, hnow.le⟩⟩, ?_⟩
    exact hstepped.index hsome
  · exact absurd ((hquiet decision rfl).symm.trans hdirect) Bool.false_ne_true

/-- A call that neither pauses nor turns to another waypoint keeps the pace. -/
theorem Paced.called {decision : Option (TravelDecision K)} (h : Consistent metric events controller)
    (hpaced : Paced nowMs index controller)
    (hcall : controller.call metric call = .ok (decision, controller'))
    (hpaused : controller'.dispatchPaused = false)
    (hindex : controller'.waypointIndex = controller.waypointIndex) :
    Paced nowMs index controller' := by
  rcases call_pace h hcall with ⟨observation, returned, rfl, hstepped⟩ |
    ⟨_, hpause | hkept⟩
  · obtain ⟨previous, hprevious, hobserved⟩ := hpaced.observed
    have hnow : nowMs ≤ observation.nowMs := hobserved.trans (hstepped.time previous hprevious)
    refine ⟨hindex.trans hpaced.index, hpaused, ?_, ⟨observation, hstepped.observed, hnow⟩⟩
    cases hcommand : returned.command with
    | none =>
      rw [hstepped.quiet hpaced.paused hpaused hindex hcommand]
      exact hpaced.clicked
    | some command =>
      exact ⟨observation.nowMs, (hstepped.clicked (by rw [hcommand]; rfl)).2.2, hnow⟩
  · exact absurd (hpaused.symm.trans hpause) Bool.false_ne_true
  · exact hkept nowMs index hpaced

/-- A direct command keeps the pace. -/
theorem Paced.spaced (h : Consistent metric events controller) (hpaced : Paced nowMs index controller)
    (hcall : controller.call metric call = .ok (some decision, controller'))
    (hdirect : decision.isDirect = true)
    (hindex : controller'.waypointIndex = controller.waypointIndex) :
    nowMs + params.config.spacingMs ≤ decision.nowMs := by
  rcases call_pace h hcall with ⟨observation, returned, hreturned, hstepped⟩ | ⟨hquiet, _⟩
  · cases hreturned
    obtain ⟨last, hlast, hclicked⟩ := hpaced.clicked
    have hspaced := hstepped.spaced hpaced.paused hdirect hindex last hlast
    have hnow := (hstepped.clicked (TravelDecision.command_isSome_of_isDirect hdirect)).1
    omega
  · exact absurd ((hquiet decision rfl).symm.trans hdirect) Bool.false_ne_true

/-- The pace that a direct command sets lasts until a pause or another waypoint. -/
theorem TravelHistory.paced {between earlier : List (TravelEvent params)}
    {first : TravelEvent params}
    (history : TravelHistory metric (between ++ first :: earlier) controller)
    (hclean : CleanHistory (between ++ first :: earlier)) (hbetween : Uninterrupted between)
    (hdecision : first.decision = some decision) (hdirect : decision.isDirect = true) :
    Paced decision.nowMs controller.waypointIndex controller ∧
      decision.waypointIndex = controller.waypointIndex.val := by
  induction between generalizing controller with
  | nil =>
    cases history with
    | called call history hcall =>
      cases hdecision
      exact paced_of_direct (history.consistent hclean.2) hcall hdirect
  | cons event between ih =>
    cases history with
    | called call history hcall =>
      obtain ⟨hpaused, hindex⟩ := hbetween _ List.mem_cons_self
      obtain ⟨hpaced, hwaypoint⟩ := ih history hclean.2
        (fun event hevent => hbetween event (List.mem_cons_of_mem _ hevent))
      have hkept := hpaced.called (history.consistent hclean.2) hcall hpaused hindex
      exact ⟨⟨rfl, hkept.paused, hkept.clicked, hkept.observed⟩, by rw [hwaypoint, ← hindex]⟩

end Pace

/-! ## The invariants -/

/-- The run invariants of a follower, over the events of a history. -/
structure FollowerInvariants (metric : Metric K) (events : List (TravelEvent params)) : Prop where
  /-- At most `maximum_clicks` commands that are no refresh are submitted. -/
  submitted_le : submittedAttempts events ≤ params.config.maximumClicks
  /-- The waypoint index decreases only by a deferral, to the observed passage at the least. -/
  keepsPassage : ∀ later event earlier, events = later ++ event :: earlier →
    event.KeepsPassage metric earlier
  /-- Direct commands for the same waypoint are spaced, but for a pause or a turn between. -/
  spaced : ∀ later second between first earlier,
    events = later ++ second :: (between ++ first :: earlier) →
      ∀ decision ∈ first.decision, ∀ decision' ∈ second.decision,
        decision.isDirect = true → decision'.isDirect = true →
          decision.waypointIndex = decision'.waypointIndex → Uninterrupted between →
            decision.nowMs + params.config.spacingMs ≤ decision'.nowMs
  /-- The follower has a direction to escape in whenever it is escaping. -/
  headed : ∀ event ∈ events, event.after.escaping = true → event.after.escapeForward ≠ ⟨0, 0⟩
  /-- An arrival is within the radius of the final destination. -/
  arrivesThere : ∀ later event earlier, events = later ++ event :: earlier →
    event.ArrivesThere metric earlier

/-- **The run invariants of the waypoint follower.**  They hold in every history whose
deferrals are clean. -/
theorem follower_invariants (history : TravelHistory metric events controller)
    (hclean : CleanHistory events) : FollowerInvariants metric events where
  submitted_le := by
    have hconsistent := history.consistent hclean
    exact ((Nat.le_add_right _ _).trans hconsistent.attempts.ge).trans hconsistent.bounded
  keepsPassage := by
    rintro later event earlier rfl
    exact (history.kept hclean).passage
  spaced := by
    rintro later second between first earlier rfl decision hfirst decision' hsecond hdirect
      hdirect' hsame hbetween
    obtain ⟨after, hsince⟩ := history.earlier
    have hclean' := hclean.earlier
    cases hsince with
    | called call hbefore hcall =>
      cases hsecond
      have hconsistent := hbefore.consistent hclean'.2
      obtain ⟨hpaced, hindex⟩ := hbefore.paced hclean'.2 hbetween hfirst hdirect
      obtain ⟨_, hindex'⟩ := paced_of_direct hconsistent hcall hdirect'
      refine hpaced.spaced hconsistent hcall hdirect' (Fin.ext ?_)
      rw [← hindex, ← hindex', hsame]
  headed := by
    intro event hevent
    obtain ⟨earlier, later, rfl⟩ := List.mem_iff_append.mp hevent
    exact (history.kept hclean).consistent.headed
  arrivesThere := by
    rintro later event earlier rfl
    exact (history.kept hclean).arrives

/-! ### Small histories -/

/-- The events of some calls, given in their order, after earlier events. -/
def TravelController.replay (metric : Metric K) {params : TravelParameters K} :
    List (TravelCall K) → List (TravelEvent params) → TravelController params →
      Except TravelFault (List (TravelEvent params) × TravelController params)
  | [], events, controller => .ok (events, controller)
  | call :: calls, events, controller => do
    let (decision, controller') ← controller.call metric call
    replay metric calls (⟨call, controller, decision, controller'⟩ :: events) controller'

theorem TravelHistory.replayed {calls : List (TravelCall K)} {events' : List (TravelEvent params)}
    (history : TravelHistory metric events controller)
    (h : TravelController.replay metric calls events controller = .ok (events', controller')) :
    TravelHistory metric events' controller' := by
  induction calls generalizing events controller with
  | nil => cases h; exact history
  | cons call calls ih =>
    obtain ⟨⟨decision, moved⟩, hcall, h⟩ := bind_eq_ok.mp h
    exact ih (history.called call hcall) h

/-- Whether some calls are answered with a property of their events. -/
def TravelController.replays (metric : Metric K) {params : TravelParameters K}
    (calls : List (TravelCall K)) (controller : TravelController params)
    (P : List (TravelEvent params) → TravelController params → Bool) : Bool :=
  match TravelController.replay metric calls [] controller with
  | .ok (events, controller) => P events controller
  | .error _ => false

theorem TravelHistory.exists_of_replays {calls : List (TravelCall K)}
    {P : List (TravelEvent params) → TravelController params → Bool}
    (h : TravelController.replays metric calls controller P = true) :
    ∃ events controller', TravelController.replay metric calls [] controller =
      .ok (events, controller') ∧ P events controller' = true := by
  unfold TravelController.replays at h
  split at h
  next events controller' hreplay => exact ⟨events, controller', hreplay, h⟩
  · cases h

namespace rewound

def route : TravelParameters ℚ where
  plan :=
    { planId := "line"
      destinations := [.around 1000 0]
      planId_ok := by decide
      destinations_ne := by decide }
  config := { TravelControllerConfig.standard with maximumClicks := 2, counts_ok := by decide }

/-- An observation of a player who does not move. -/
def standing (nowMs : ℕ) : TravelObservation ℚ := ⟨nowMs, ⟨0, 0⟩, 1⟩

/-- The command the follower proposes to that player. -/
def proposal (decisionId nowMs : ℕ) : TravelDecision ℚ where
  decisionId := decisionId
  nowMs := nowMs
  waypointIndex := 0
  distanceRemaining := 1000
  clickCount := 1
  status := .traveling (some ⟨⟨1000, 0⟩, .direct, some ⟨50, 0⟩, false, nofun⟩)

/-- Propose, step and defer, over and over. -/
def calls : List (TravelCall ℚ) :=
  [.propose (standing 0), .step (standing 4000),
    .deferDispatch (proposal 0 0) (standing 4000),
    .propose (standing 4000), .step (standing 8000),
    .deferDispatch (proposal 2 4000) (standing 8000),
    .propose (standing 8000), .step (standing 12000)]

end rewound

/-- A proposal that is deferred, and one that is submitted. -/
theorem follower_invariants_deferred :
    ∃ events controller, TravelController.replay Metric.axial
        [.propose (rewound.standing 0), .deferDispatch (rewound.proposal 0 0) (rewound.standing 100),
          .propose (rewound.standing 4000), .acknowledgeDispatch (rewound.proposal 1 4000)] []
        ({} : TravelController rewound.route) = .ok (events, controller) ∧
      CleanHistory events ∧ submittedAttempts events = 1 ∧ FollowerInvariants Metric.axial events := by
  have hrun : TravelController.replays Metric.axial
      [.propose (rewound.standing 0), .deferDispatch (rewound.proposal 0 0) (rewound.standing 100),
        .propose (rewound.standing 4000), .acknowledgeDispatch (rewound.proposal 1 4000)]
      ({} : TravelController rewound.route) (fun events _ =>
        decide (CleanHistory events ∧ submittedAttempts events = 1)) = true := by
    decide +kernel
  obtain ⟨events, controller, hreplay, hevents⟩ := TravelHistory.exists_of_replays hrun
  obtain ⟨hclean, hsubmitted⟩ := of_decide_eq_true hevents
  exact ⟨events, controller, hreplay, hclean, hsubmitted,
    follower_invariants (TravelHistory.constructed.replayed hreplay) hclean⟩

/-- Deferring a proposal after a step gives the attempts of both back. -/
theorem rewound_overspends :
    ∃ events controller, TravelController.replay Metric.axial rewound.calls []
        ({} : TravelController rewound.route) = .ok (events, controller) ∧
      TravelHistory Metric.axial events controller ∧
        rewound.route.config.maximumClicks < submittedAttempts events := by
  have hrun : TravelController.replays Metric.axial rewound.calls
      ({} : TravelController rewound.route) (fun events _ =>
        decide (rewound.route.config.maximumClicks < submittedAttempts events)) = true := by
    decide +kernel
  obtain ⟨events, controller, hreplay, hover⟩ := TravelHistory.exists_of_replays hrun
  exact ⟨events, controller, hreplay, .replayed .constructed hreplay, of_decide_eq_true hover⟩

end ShadowbaneLab
