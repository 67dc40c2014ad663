/-
# Runs of the waypoint follower

What holds in every run of a follower that is not stepped while a proposal is outstanding:
it issues a bounded number of attempts, spaces its direct commands, never falls back behind
an observed waypoint, always heads somewhere while escaping, and reports arrival only within
the radius of its final destination (`follower_invariants`).
-/
import ShadowbaneLab.Travel.Controller

namespace ShadowbaneLab

open Foundation

variable {K : Type} [Field K] [LinearOrder K] {metric : Metric K}
  {params : TravelParameters K} {observation : TravelObservation K} {distance : K}

/-! ## Commands -/

/-- The attempts a decision counts: one for a command that is no refresh. -/
def TravelDecision.attempts (decision : TravelDecision K) : ℕ :=
  match decision.command with
  | some command => if command.progressRefresh then 0 else 1
  | none => 0

theorem TravelDecision.attempts_le (decision : TravelDecision K) : decision.attempts ≤ 1 := by
  unfold attempts
  split
  · split <;> simp
  · simp

theorem TravelDecision.attempts_eq_zero {decision : TravelDecision K} (h : decision.command = none) :
    decision.attempts = 0 := by
  unfold attempts
  rw [h]

/-- Whether a decision carries a direct command. -/
def TravelDecision.isDirect (decision : TravelDecision K) : Bool :=
  decision.command.any (fun command => command.maneuver = .direct)

/-- The least time between two direct commands for the same waypoint. -/
def TravelControllerConfig.spacingMs (config : TravelControllerConfig K) : ℕ :=
  min config.clickIntervalMs config.targetRefreshIntervalMs

/-- While escaping, there is a direction to escape from. -/
def Dispatch.Headed (dispatch : Dispatch params) : Prop :=
  dispatch.escaping = true → dispatch.escapeForward ≠ ⟨0, 0⟩

variable {previous : Option (TravelObservation K)}

variable {result : TravelDecision K × TravelController params} {index : params.Waypoint}

namespace TravelController

/-- An edit that touches only the dispatch, and there neither the waypoint nor the count of
attempts nor the time of the last click. -/
structure Steady (controller controller' : TravelController params) : Prop where
  frame : controller' = { controller with toDispatch := controller'.toDispatch }
  index : controller'.waypointIndex = controller.waypointIndex
  attempts : controller'.attemptCount = controller.attemptCount
  clicked : controller'.lastClickAtMs = controller.lastClickAtMs
  ended : controller'.terminal = controller.terminal
  headed : controller.Headed → controller'.Headed

/-- What a decision that is not an arrival does to a follower. -/
structure Sent (observation : TravelObservation K) (controller : TravelController params)
    (result : TravelDecision K × TravelController params) : Prop where
  frame : result.2 = { controller with
    toDispatch := result.2.toDispatch, decisionId := controller.decisionId + 1 }
  nowMs : result.1.nowMs = observation.nowMs
  index : result.1.waypointIndex = result.2.waypointIndex.val
  index_le : controller.waypointIndex ≤ result.2.waypointIndex
  attempts : result.2.attemptCount = controller.attemptCount + result.1.attempts
  clicked : result.1.command.isSome = true → result.2.lastClickAtMs = some observation.nowMs
  quiet : result.1.command = none →
    result.2.lastClickAtMs = controller.lastClickAtMs ∧
      result.2.waypointIndex = controller.waypointIndex
  spaced : result.1.isDirect = true → result.2.waypointIndex = controller.waypointIndex →
    ∀ last ∈ controller.lastClickAtMs, last + params.config.spacingMs ≤ observation.nowMs
  headed : controller.Headed → result.2.Headed
  ended : result.2.terminal = controller.terminal ∨
    result.2.terminal = some result.1 ∧ result.1.command = none
  traveling : result.1.phase ≠ .complete

namespace Steady

variable {controller controller' controller'' : TravelController params}

theorem refl (controller : TravelController params) : Steady controller controller :=
  ⟨rfl, rfl, rfl, rfl, rfl, id⟩

theorem trans (h : Steady controller controller') (h' : Steady controller' controller'') :
    Steady controller controller'' where
  frame := by
    rw [h'.frame, h.frame]
  index := h'.index.trans h.index
  attempts := h'.attempts.trans h.attempts
  clicked := h'.clicked.trans h.clicked
  ended := h'.ended.trans h.ended
  headed := h'.headed ∘ h.headed

theorem sent (h : Steady controller controller') (h' : Sent observation controller' result) :
    Sent observation controller result where
  frame := by
    rw [h'.frame, h.frame]
  nowMs := h'.nowMs
  index := h'.index
  index_le := h.index ▸ h'.index_le
  attempts := h'.attempts.trans (by rw [h.attempts])
  clicked := h'.clicked
  quiet hnone := ⟨(h'.quiet hnone).1.trans h.clicked, (h'.quiet hnone).2.trans h.index⟩
  spaced hdirect hindex := h.clicked ▸ h'.spaced hdirect (hindex.trans h.index.symm)
  headed := h'.headed ∘ h.headed
  ended := h.ended ▸ h'.ended
  traveling := h'.traveling

end Steady

/-! ## The decisions -/

variable {direction : PlanarVector K}

section Decisions

variable (controller : TravelController params)

theorem wait_sent : Sent observation controller (controller.wait observation distance) where
  frame := rfl
  nowMs := rfl
  index := rfl
  index_le := le_refl _
  attempts := rfl
  clicked := nofun
  quiet _ := ⟨rfl, rfl⟩
  spaced := nofun
  headed := id
  ended := .inl rfl
  traveling := nofun

theorem halt_sent (reason : String) :
    Sent observation controller (controller.halt observation distance reason) where
  frame := rfl
  nowMs := rfl
  index := rfl
  index_le := le_refl _
  attempts := rfl
  clicked := nofun
  quiet _ := ⟨rfl, rfl⟩
  spaced := nofun
  headed := id
  ended := .inr ⟨rfl, rfl⟩
  traveling := nofun

/-- Sending a command counts it and notes the time; beyond that it touches only the
measurement of progress. -/
theorem dispatched_eq (observation : TravelObservation K) (distance : K) (track refresh : Bool) :
    ∃ lastClickDistance progressAtMs lastMoveEndpoint,
      controller.dispatched observation distance track refresh = { controller with
        lastClickAtMs := some observation.nowMs
        lastClickDistance := lastClickDistance
        progressAtMs := progressAtMs
        lastMoveEndpoint := lastMoveEndpoint
        clickCount := controller.clickCount + 1
        attemptCount :=
          if refresh then controller.attemptCount else controller.attemptCount + 1 } := by
  cases track with
  | false => exact ⟨_, _, _, rfl⟩
  | true =>
    by_cases h : controller.progressAtMs.isNone
    · exact ⟨_, _, _, by simp only [dispatched, h]; rfl⟩
    · exact ⟨_, _, _, by simp only [dispatched, h]; rfl⟩

/-- A command is sent when it is due, or when it is no direct one. -/
theorem dispatch_sent {maneuver : TravelManeuver} {track refresh : Bool}
    (refresh_ok : refresh = true → maneuver = .direct)
    (due : maneuver = .direct → ∀ last ∈ controller.lastClickAtMs,
      last + params.config.spacingMs ≤ observation.nowMs) :
    Sent observation controller (controller.dispatch metric observation distance direction maneuver
      track refresh refresh_ok) := by
  obtain ⟨lastClickDistance, progressAtMs, lastMoveEndpoint, h⟩ :=
    dispatched_eq controller observation distance track refresh
  unfold dispatch
  rw [h]
  have hattempts : (if refresh then controller.attemptCount else controller.attemptCount + 1) =
      controller.attemptCount + if refresh then 0 else 1 := by
    cases refresh <;> rfl
  cases track <;> exact
    { frame := rfl
      nowMs := rfl
      index := rfl
      index_le := le_refl _
      attempts := hattempts
      clicked := fun _ => rfl
      quiet := nofun
      spaced := fun hdirect _ => due (of_decide_eq_true hdirect)
      headed := id
      ended := .inl rfl
      traveling := nofun }

end Decisions

/-! ## Escaping -/

section Escape

variable {controller controller' : TravelController params}

/-- The active waypoint is not reached. -/
def Away (metric : Metric K) (observation : TravelObservation K)
    (controller : TravelController params) : Prop :=
  ¬ (params.destination controller.waypointIndex).Reached metric observation.position

theorem Steady.away (h : Steady controller controller') (away : controller.Away metric observation) :
    controller'.Away metric observation := by
  unfold Away
  rw [h.index]
  exact away

theorem escapeHeading_ne (away : controller.Away metric observation) :
    controller.escapeHeading metric observation ≠ ⟨0, 0⟩ := by
  unfold escapeHeading
  dsimp only
  split
  next hingress =>
    intro h
    rw [h, (metric.hypot_eq_zero 0 0).mpr ⟨rfl, rfl⟩] at hingress
    exact lt_irrefl 0 hingress
  next =>
    set destination := params.destination controller.waypointIndex with hdestination
    have hlength : metric.hypot (destination.lt - observation.position.lt)
        (-(destination.lg - observation.position.lg)) ≠ 0 := by
      intro h
      obtain ⟨hlt, hlg⟩ := (metric.hypot_eq_zero _ _).mp h
      apply away
      unfold TravelDestination.Reached TravelDestination.distanceFrom
      rw [← hdestination, hlt, neg_eq_zero.mp hlg, (metric.hypot_eq_zero 0 0).mpr ⟨rfl, rfl⟩]
      exact destination.arrivalRadius_pos.le
    rw [if_neg hlength]
    intro h
    injection h with hx hy
    apply hlength
    rw [metric.hypot_eq_zero]
    exact ⟨(div_eq_zero_iff.mp hx).resolve_right hlength,
      (div_eq_zero_iff.mp hy).resolve_right hlength⟩

theorem observeEscapeMotion_steady :
    Steady controller (controller.observeEscapeMotion metric observation) := by
  unfold observeEscapeMotion
  split
  · exact Steady.refl controller
  · exact ⟨rfl, rfl, rfl, rfl, rfl, id⟩

theorem observeEscapeMotion_escaping :
    (controller.observeEscapeMotion metric observation).escaping = controller.escaping := by
  unfold observeEscapeMotion
  split <;> rfl

/-- Reacting to clicks without motion, the follower keeps escaping. -/
theorem escapeAfterNoMotion_steady (away : controller.Away metric observation)
    (h : controller.escapeAfterNoMotion metric observation distance = some controller') :
    Steady controller controller' ∧ (controller.escaping = true → controller'.escaping = true) := by
  unfold escapeAfterNoMotion at h
  split at h
  next => cases h; exact ⟨Steady.refl _, id⟩
  split at h
  next => cases h; exact ⟨⟨rfl, rfl, rfl, rfl, rfl, id⟩, id⟩
  next =>
    split at h
    · cases h; exact ⟨⟨rfl, rfl, rfl, rfl, rfl, id⟩, id⟩
    · cases h; exact ⟨⟨rfl, rfl, rfl, rfl, rfl, id⟩, id⟩
  next =>
    split at h
    · cases h
    · cases h
      exact ⟨⟨rfl, rfl, rfl, rfl, rfl, fun _ _ => escapeHeading_ne away⟩, fun _ => rfl⟩

theorem escapeAfterProgress_steady
    (h : controller.escapeAfterProgress metric observation distance = some controller') :
    Steady controller controller' ∧ (controller.escaping = true → controller'.escaping = true) := by
  unfold escapeAfterProgress at h
  dsimp only at h
  split at h
  all_goals
    split at h
    · cases h; try exact ⟨⟨rfl, rfl, rfl, rfl, rfl, id⟩, id⟩
    · cases h; exact ⟨⟨rfl, rfl, rfl, rfl, rfl, id⟩, id⟩

theorem reacquireDirect_sent (due : ∀ last ∈ controller.lastClickAtMs,
      last + params.config.spacingMs ≤ observation.nowMs) :
    Sent observation controller (controller.reacquireDirect metric observation distance) := by
  have hsteady : Steady controller { controller with
      escaping := false
      escapePhase := .backup
      escapeStep := 0
      noProgressClicks := 0
      escapeReleaseDistance := some distance } := ⟨rfl, rfl, rfl, rfl, rfl, nofun⟩
  exact hsteady.sent (dispatch_sent _ _ (fun _ => due))

/-- An escape whose direction is not zero sends a command that is not direct. -/
theorem sendEscape_sent (headed : controller.Headed) (escaping : controller.escaping = true) :
    Sent observation controller (controller.sendEscape metric observation distance) := by
  unfold sendEscape
  rw [if_neg (fun h => headed escaping (by cases hforward : controller.escapeForward; simp_all))]
  have hmove : controller.escapeMove.2 ≠ .direct := by
    unfold escapeMove
    dsimp only
    split
    · split_ifs <;> nofun
    · dsimp only
      split <;> nofun
    · dsimp only
      split <;> nofun
  have hsteady : Steady controller { controller with escapeStep := controller.escapeStep + 1 } :=
    ⟨rfl, rfl, rfl, rfl, rfl, id⟩
  exact hsteady.sent (dispatch_sent _ _ (fun hdirect => absurd hdirect hmove))

/-- While escaping, what is sent is an escape command, or a direct one that is due. -/
theorem dispatchEscape_sent {observeMotion : Bool} (away : controller.Away metric observation)
    (headed : controller.Headed) (escaping : controller.escaping = true)
    (due : ∀ last ∈ controller.lastClickAtMs, last + params.config.spacingMs ≤ observation.nowMs) :
    Sent observation controller
      (controller.dispatchEscape metric observation distance observeMotion) := by
  have hmotion : Steady controller
      (if observeMotion then controller.observeEscapeMotion metric observation else controller) ∧
      (if observeMotion then controller.observeEscapeMotion metric observation
        else controller).escaping = true := by
    cases observeMotion with
    | false => exact ⟨Steady.refl _, escaping⟩
    | true => exact ⟨observeEscapeMotion_steady, observeEscapeMotion_escaping.trans escaping⟩
  unfold dispatchEscape
  generalize (if observeMotion then controller.observeEscapeMotion metric observation
    else controller) = moved at hmotion ⊢
  obtain ⟨hsteady, hescaping⟩ := hmotion
  apply hsteady.sent
  have hdue : ∀ last ∈ moved.lastClickAtMs, last + params.config.spacingMs ≤ observation.nowMs :=
    hsteady.clicked ▸ due
  dsimp only
  split
  · exact reacquireDirect_sent hdue
  split
  next => exact halt_sent _ _
  next restarted hrestarted =>
    obtain ⟨hrestart, hkeeps⟩ := escapeAfterNoMotion_steady (hsteady.away away) hrestarted
    split
    next => exact hrestart.sent (reacquireDirect_sent (hrestart.clicked ▸ hdue))
    next changed hchanged =>
      obtain ⟨hchange, hkeeps'⟩ := escapeAfterProgress_steady hchanged
      have hall := hrestart.trans hchange
      exact hall.sent (sendEscape_sent (hall.headed (hsteady.headed headed))
        (hkeeps' (hkeeps hescaping)))

/-- An escape that has just begun backs up. -/
theorem dispatchEscape_fresh (motionless : controller.escapeNoMotionClicks = 0)
    (step : controller.escapeStep = 0) (phase : controller.escapePhase = .backup)
    (origin : controller.escapePhaseOrigin = screenPosition observation) :
    controller.dispatchEscape metric observation distance true =
      controller.sendEscape metric observation distance := by
  have hclicks : 0 < params.config.maximumEscapePhaseNoMotionClicks :=
    params.config.counts_ok _ (by simp)
  have hbackup : 0 < params.config.escapeBackupClicks := params.config.counts_ok _ (by simp)
  have hclearance : 0 < params.config.escapeBackupClearance :=
    params.config.distances_ok _ (by simp)
  have hmotion : controller.observeEscapeMotion metric observation = controller := by
    unfold observeEscapeMotion
    rw [if_pos step]
  have hkept : controller.escapeAfterNoMotion metric observation distance = some controller := by
    unfold escapeAfterNoMotion
    rw [if_pos (motionless ▸ hclicks)]
  have hprogress : controller.escapePhaseProgress metric observation = 0 := by
    unfold escapePhaseProgress
    rw [phase, origin]
    simp
  have hover : controller.escapeAfterProgress metric observation distance = some controller := by
    have hcount : controller.escapePhaseClicks = params.config.escapeBackupClicks := by
      unfold escapePhaseClicks
      rw [phase]
    unfold escapeAfterProgress
    rw [hprogress, hcount, step, phase]
    dsimp only
    rw [if_neg]
    simp only [Bool.or_eq_true, decide_eq_true_eq, not_or, not_le]
    exact ⟨hclearance, by exact_mod_cast hbackup⟩
  unfold dispatchEscape
  rw [if_pos rfl, hmotion]
  dsimp only
  rw [step, if_neg (fun h => lt_irrefl 0 h.1), hkept]
  dsimp only
  rw [hover]

theorem escapeStall_sent (away : controller.Away metric observation) :
    Sent observation controller (controller.escapeStall metric observation distance) := by
  unfold escapeStall
  split
  · exact halt_sent _ _
  · dsimp only
    rw [dispatchEscape_fresh rfl rfl rfl rfl]
    have hheading : { controller with
        escapeSequenceCount := controller.escapeSequenceCount + 1 }.escapeHeading metric
          observation ≠ ⟨0, 0⟩ := escapeHeading_ne away
    refine Steady.sent ?_ (sendEscape_sent (fun _ => hheading) rfl)
    exact ⟨rfl, rfl, rfl, rfl, rfl, fun _ _ => hheading⟩

end Escape

/-! ## Moving on -/

section Advance

variable {controller controller' : TravelController params}

theorem extendTarget_index (clear : PlanarVector K → List (PlanarVector K) → Bool)
    (start : PlanarVector K) {least : params.Waypoint} {later : List params.Waypoint}
    (hlater : ∀ index ∈ later, least ≤ index) :
    ∀ (path : List (PlanarVector K)) (origin : PlanarVector K) (budget : K)
      (found : PlanarVector K × params.Waypoint), least ≤ found.2 →
        least ≤ (extendTarget metric clear start later path origin budget found).2 := by
  induction later with
  | nil => intro path origin budget found hfound; exact hfound
  | cons index rest ih =>
    intro path origin budget found hfound
    have hindex := hlater index List.mem_cons_self
    unfold extendTarget
    dsimp only
    generalize towards origin _ _ = candidate
    split
    · exact hfound
    split
    · exact hindex
    · exact ih (fun later h => hlater later (List.mem_cons_of_mem _ h)) _ _ _ _ hindex

theorem forwardTarget_index (lead : K) :
    controller.waypointIndex ≤ (controller.forwardTarget metric observation lead).2 := by
  unfold forwardTarget
  dsimp only
  generalize towards (K := K) _ _ _ = target
  cases params.shortcutClear with
  | none => exact le_refl _
  | some clear =>
    cases controller.handoffTarget with
    | none =>
      dsimp only
      split
      · exact le_refl _
      split
      · exact le_refl _
      · apply extendTarget_index
        · intro index hindex
          exact (of_decide_eq_true (List.mem_filter.mp hindex).2).le
        · exact le_refl _
    | some hint =>
      dsimp only
      split
      · split <;> exact le_refl _
      · exact le_refl _

theorem measureProgress_steady :
    Steady controller (controller.measureProgress observation distance) := by
  unfold measureProgress
  split
  · split
    · exact ⟨rfl, rfl, rfl, rfl, rfl, id⟩
    · exact Steady.refl controller
  · exact Steady.refl controller

theorem releaseBudget_steady : Steady controller (controller.releaseBudget distance) := by
  unfold releaseBudget
  split
  · exact ⟨rfl, rfl, rfl, rfl, rfl, id⟩
  · exact Steady.refl controller

/-- A click interval that has passed is long enough. -/
theorem due_of_intervalDue (h : controller.intervalDue observation = true) :
    ∀ last ∈ controller.lastClickAtMs, last + params.config.spacingMs ≤ observation.nowMs := by
  intro last hlast
  unfold intervalDue at h
  rw [Option.mem_def.mp hlast] at h
  have hinterval : last + params.config.clickIntervalMs ≤ observation.nowMs := by simpa using h
  have hspacing : params.config.spacingMs ≤ params.config.clickIntervalMs := min_le_left _ _
  omega

/-- So is a refresh interval. -/
theorem due_of_refreshDue (h : controller.lastClickAtMs.all (fun last =>
      last + params.config.targetRefreshIntervalMs ≤ observation.nowMs) = true) :
    ∀ last ∈ controller.lastClickAtMs, last + params.config.spacingMs ≤ observation.nowMs := by
  intro last hlast
  rw [Option.mem_def.mp hlast] at h
  have hinterval : last + params.config.targetRefreshIntervalMs ≤ observation.nowMs := by
    simpa using h
  have hspacing : params.config.spacingMs ≤ params.config.targetRefreshIntervalMs :=
    min_le_right _ _
  omega

/-- A skipped waypoint takes the time of the last click with it. -/
theorem shortcut_sent {target : PlanarVector K} (hindex : controller.waypointIndex < index)
    {refresh : Bool} :
    Sent observation controller ((controller.shortcutTo target index).dispatch metric observation
      distance direction .direct true refresh (fun _ => rfl)) := by
  have hsent : Sent observation (controller.shortcutTo target index)
      ((controller.shortcutTo target index).dispatch metric observation distance direction .direct
        true refresh (fun _ => rfl)) :=
    dispatch_sent _ _ (fun _ => nofun)
  have hturned : controller.waypointIndex < (_ : TravelDecision K × TravelController params).2.waypointIndex :=
    hindex.trans_le hsent.index_le
  exact
    { frame := hsent.frame
      nowMs := hsent.nowMs
      index := hsent.index
      index_le := hturned.le
      attempts := hsent.attempts
      clicked := hsent.clicked
      quiet := nofun
      spaced := fun _ h => absurd h hturned.ne'
      headed := fun _ => hsent.headed nofun
      ended := hsent.ended
      traveling := hsent.traveling }

theorem advance_sent :
    Sent observation controller (controller.advance metric observation previous distance) := by
  have hle : controller.waypointIndex ≤ (controller.forwardTarget metric observation
      (motionLead metric params.config previous observation)).2 := forwardTarget_index _
  unfold advance
  dsimp only
  generalize controller.forwardTarget metric observation
    (motionLead metric params.config previous observation) = found at hle ⊢
  obtain ⟨target, index⟩ := found
  cases target with
  | none => exact halt_sent _ _
  | some target =>
    dsimp only
    split
    · exact wait_sent _
    next hgo =>
      have hdue : ∀ last ∈ controller.lastClickAtMs,
          last + params.config.spacingMs ≤ observation.nowMs := by
        by_cases hinterval : controller.intervalDue observation = true
        · exact due_of_intervalDue hinterval
        · apply due_of_refreshDue
          by_contra hrefresh
          apply hgo
          rw [Bool.not_eq_true] at hinterval hrefresh
          rw [hinterval, hrefresh, Bool.and_false]
          rfl
      split
      · exact dispatch_sent _ _ (fun _ => hdue)
      · by_cases hindex : index = controller.waypointIndex
        · have hkept : decide (index ≠ controller.waypointIndex) = false :=
            decide_eq_false (not_not.mpr hindex)
          simp only [hkept, Bool.false_eq_true, if_false]
          exact dispatch_sent _ _ (fun _ => hdue)
        · have hskipped : decide (index ≠ controller.waypointIndex) = true := decide_eq_true hindex
          simp only [hskipped, if_true]
          exact shortcut_sent (lt_of_le_of_ne hle (Ne.symm hindex))

/-- What taking up the measurement of progress does to a follower. -/
structure Resumed (controller resumed : TravelController params) : Prop where
  index : resumed.waypointIndex = controller.waypointIndex
  attempts : resumed.attemptCount = controller.attemptCount
  clicks : resumed.clickCount = controller.clickCount
  ended : resumed.terminal = controller.terminal
  headed : controller.Headed → resumed.Headed
  paused : resumed.dispatchPaused = false
  clicked : controller.dispatchPaused = false →
    resumed.lastClickAtMs = controller.lastClickAtMs
  observed : resumed.previousObservation = controller.previousObservation
  proposal : resumed.proposal = controller.proposal
  checkpoint : resumed.proposalCheckpoint = controller.proposalCheckpoint

theorem resume_resumed (metric : Metric K) (observation : TravelObservation K)
    (controller : TravelController params) :
    Resumed controller (controller.resume metric observation) := by
  unfold resume
  split
  next hpaused =>
    exact ⟨rfl, rfl, rfl, rfl, id, rfl, fun h => absurd (hpaused.symm.trans h) nofun, rfl, rfl, rfl⟩
  next hpaused =>
    exact ⟨rfl, rfl, rfl, rfl, id, by simpa using hpaused, fun _ => rfl, rfl, rfl, rfl⟩

/-- Past the waypoints, with the pause over and the passage remembered, a step is sound. -/
theorem proceed_sent (away : controller.Away metric observation) (headed : controller.Headed) :
    Sent observation (controller.resume metric observation).rememberPassage
      (controller.proceed metric observation previous distance) := by
  have hresume : Resumed controller (controller.resume metric observation) :=
    resume_resumed metric observation controller
  have hresumed : (controller.resume metric observation).rememberPassage.Away metric observation ∧
      (controller.resume metric observation).rememberPassage.Headed := by
    constructor
    · show ¬ (params.destination (controller.resume metric observation).waypointIndex).Reached _ _
      rw [hresume.index]
      exact away
    · exact hresume.headed headed
  unfold proceed
  dsimp only
  generalize (controller.resume metric observation).rememberPassage = resumed at hresumed ⊢
  have hreleased : Steady resumed (resumed.releaseBudget distance) := releaseBudget_steady
  have haway := hreleased.away hresumed.1
  have hheaded := hreleased.headed hresumed.2
  apply hreleased.sent
  generalize resumed.releaseBudget distance = released at haway hheaded
  split
  · exact halt_sent _ _
  split
  next hescaping =>
    split
    next hdue => exact dispatchEscape_sent haway hheaded hescaping (due_of_intervalDue hdue)
    · exact wait_sent _
  · have hmeasured : Steady released (released.measureProgress observation distance) :=
      measureProgress_steady
    apply hmeasured.sent
    split
    · exact escapeStall_sent (hmeasured.away haway)
    · exact advance_sent

/-- Commands are sent only while attempts are left. -/
theorem proceed_attempts (h : params.config.maximumClicks ≤ controller.attemptCount) :
    (controller.proceed metric observation previous distance).1.command = none := by
  have hresumed : (controller.resume metric observation).rememberPassage.attemptCount =
      controller.attemptCount := (resume_resumed metric observation controller).attempts
  unfold proceed
  dsimp only
  rw [if_pos]
  · rfl
  · rw [releaseBudget_steady.attempts, hresumed]
    exact h

end Advance

end TravelController

/-! ## Passing waypoints -/

namespace Dispatch

/-- What observing the waypoints does to a dispatch. -/
structure Passed (metric : Metric K) (observation : TravelObservation K) (dispatch : Dispatch params)
    (result : Bool × Dispatch params) : Prop where
  index_le : dispatch.waypointIndex ≤ result.2.waypointIndex
  attempts : result.2.attemptCount = dispatch.attemptCount
  clicks : result.2.clickCount = dispatch.clickCount
  clicked : result.2.waypointIndex = dispatch.waypointIndex →
    result.2.lastClickAtMs = dispatch.lastClickAtMs
  headed : dispatch.Headed → result.2.Headed
  ended : result.2.terminal = dispatch.terminal
  arrived : result.1 = true → params.finalDestination.Reached metric observation.position
  away : result.1 = false →
    ¬ (params.destination result.2.waypointIndex).Reached metric observation.position

theorem destination_last (h : index.val + 1 = params.plan.destinations.length) :
    params.destination index = params.finalDestination := by
  unfold TravelParameters.destination TravelParameters.finalDestination
  rw [List.getLast_eq_getElem, List.get_eq_getElem]
  congr 1
  omega

theorem passWaypoints_passed (previous : Option (TravelObservation K)) (remaining : ℕ) :
    ∀ (dispatch : Dispatch params)
      (h : dispatch.waypointIndex.val + remaining + 1 = params.plan.destinations.length),
      Passed metric observation dispatch
        (dispatch.passWaypoints metric previous observation remaining h) := by
  induction remaining with
  | zero =>
    intro dispatch h
    exact
      { index_le := le_refl _
        attempts := rfl
        clicks := rfl
        clicked := fun _ => rfl
        headed := id
        ended := rfl
        arrived := fun harrived => by
          rw [← destination_last h]
          simpa [passWaypoints, atWaypoint] using harrived
        away := fun haway => by simpa [passWaypoints, atWaypoint] using haway }
  | succ remaining ih =>
    intro dispatch h
    unfold passWaypoints
    split
    next =>
      have hpassed := ih (dispatch.turnTo ⟨dispatch.waypointIndex.val + 1, by omega⟩)
        (by show dispatch.waypointIndex.val + 1 + remaining + 1 = _; omega)
      have hlt : dispatch.waypointIndex < _ := lt_of_lt_of_le
        (Fin.mk_lt_mk.mpr (Nat.lt_succ_self dispatch.waypointIndex.val)) hpassed.index_le
      exact
        { index_le := hlt.le
          attempts := hpassed.attempts
          clicks := hpassed.clicks
          clicked := fun hindex => absurd hindex hlt.ne'
          headed := fun _ => hpassed.headed (fun hescaping => absurd hescaping Bool.false_ne_true)
          ended := hpassed.ended
          arrived := hpassed.arrived
          away := hpassed.away }
    next hnot =>
      exact
        { index_le := le_refl _
          attempts := rfl
          clicks := rfl
          clicked := fun _ => rfl
          headed := id
          ended := rfl
          arrived := fun harrived => absurd harrived Bool.false_ne_true
          away := fun _ hreached => hnot (by simp [atWaypoint, hreached]) }

theorem observeWaypoints_passed (dispatch : Dispatch params) :
    Passed metric observation dispatch (dispatch.observeWaypoints metric previous observation) := by
  unfold observeWaypoints
  dsimp only
  have hcleared : ∀ cleared : Dispatch params,
      cleared = { dispatch with handoffTarget := none } ∨ cleared = dispatch →
        ∀ h, Passed metric observation dispatch (cleared.passWaypoints metric previous observation
          (params.plan.destinations.length - 1 - cleared.waypointIndex.val) h) := by
    rintro cleared (rfl | rfl) h
    · have hpassed : Passed metric observation { dispatch with handoffTarget := none } _ :=
        passWaypoints_passed previous _ _ h
      exact ⟨hpassed.index_le, hpassed.attempts, hpassed.clicks, hpassed.clicked, hpassed.headed,
        hpassed.ended, hpassed.arrived, hpassed.away⟩
    · exact passWaypoints_passed previous _ _ h
  apply hcleared
  split
  · split
    · exact .inl rfl
    · exact .inr rfl
  · exact .inr rfl

end Dispatch

namespace TravelController

/-! ## Observing -/

section Observing

variable {controller controller' : TravelController params}

/-- What an observation that does not end the route leaves of a follower. -/
structure Seen (observation : TravelObservation K) (controller controller' : TravelController params) :
    Prop where
  dispatch : controller'.toDispatch = controller.toDispatch
  observed : controller'.previousObservation = some observation
  proposal : controller'.proposal = controller.proposal
  checkpoint : controller'.proposalCheckpoint = controller.proposalCheckpoint
  paused : controller'.dispatchPaused = controller.dispatchPaused
  time : ∀ previous ∈ controller.previousObservation, previous.nowMs ≤ observation.nowMs
  traveling : controller.terminal = none

theorem observeIngress_eq (metric : Metric K) (observation : TravelObservation K)
    (controller : TravelController params) :
    ∃ lastObservedPosition ingressDirection, controller.observeIngress metric observation =
      { controller with
        lastObservedPosition := lastObservedPosition
        ingressDirection := ingressDirection } := by
  unfold observeIngress
  dsimp only
  split
  · exact ⟨_, _, rfl⟩
  split
  · exact ⟨_, _, rfl⟩
  split
  · exact ⟨_, _, rfl⟩
  · exact ⟨_, _, rfl⟩

/-- The session or the health of the player is out of bounds. -/
def OutOfBounds (observation : TravelObservation K) (controller : TravelController params) : Prop :=
  controller.startedAtMs.getD observation.nowMs + params.config.maximumSessionMs ≤
      observation.nowMs ∨
    observation.healthFraction < params.config.minimumHealthFraction

instance : Decidable (controller.OutOfBounds observation) := inferInstanceAs (Decidable (_ ∨ _))

/-- An observation meets a route that has ended, ends it, or is seen. -/
theorem observe_cases {terminal : Option (TravelDecision K)}
    (h : controller.observe metric observation = .ok (terminal, controller')) :
    (controller.terminal = terminal ∧ terminal.isSome = true ∧ controller' = controller) ∨
      ∃ seen, Seen observation controller seen ∧
        ((controller.OutOfBounds observation ∧ ∃ distance reason,
            terminal = some (seen.halt observation distance reason).1 ∧
              controller' = (seen.halt observation distance reason).2) ∨
          (¬ controller.OutOfBounds observation ∧ terminal = none ∧ controller' = seen)) := by
  unfold observe at h
  split at h
  next decision hterminal =>
    cases h
    exact .inl ⟨hterminal, rfl, rfl⟩
  next hterminal =>
    split at h
    · cases h
    next htime =>
      obtain ⟨lastObservedPosition, ingressDirection, hingress⟩ := observeIngress_eq
        metric observation
        { controller with previousObservation := some observation }
      rw [hingress] at h
      right
      refine ⟨{ controller with
        previousObservation := some observation
        startedAtMs := some (controller.startedAtMs.getD observation.nowMs)
        lastObservedPosition := lastObservedPosition
        ingressDirection := ingressDirection }, ⟨rfl, rfl, rfl, rfl, rfl, ?_, hterminal⟩, ?_⟩
      · intro previous hprevious
        rw [Option.mem_def.mp hprevious] at htime
        simpa using htime
      · dsimp only at h
        split at h
        next hsession =>
          cases h
          exact .inl ⟨.inl hsession, _, _, rfl, rfl⟩
        next hsession =>
          split at h
          next hhealth =>
            cases h
            exact .inl ⟨.inr hhealth, _, _, rfl, rfl⟩
          next hhealth =>
            cases h
            exact .inr ⟨not_or.mpr ⟨hsession, hhealth⟩, rfl, rfl⟩

/-- The active waypoint after an observation, before any target is chosen. -/
def passage (metric : Metric K) (observation : TravelObservation K)
    (controller : TravelController params) : params.Waypoint :=
  if controller.OutOfBounds observation then controller.waypointIndex
  else
    (controller.toDispatch.observeWaypoints metric controller.previousObservation
      observation).2.waypointIndex

/-- What a step, or an observation while dispatch is deferred, does to a follower whose route
has not ended. -/
structure Stepped (metric : Metric K) (observation : TravelObservation K)
    (controller : TravelController params) (decision : TravelDecision K)
    (controller' : TravelController params) : Prop where
  traveling : controller.terminal = none
  time : ∀ previous ∈ controller.previousObservation, previous.nowMs ≤ observation.nowMs
  observed : controller'.previousObservation = some observation
  passage_le : controller.waypointIndex ≤ controller.passage metric observation
  index_le : controller.passage metric observation ≤ controller'.waypointIndex
  index : decision.command.isSome = true → decision.waypointIndex = controller'.waypointIndex.val
  attempts : controller'.attemptCount = controller.attemptCount + decision.attempts
  bounded : controller.attemptCount ≤ params.config.maximumClicks →
    controller'.attemptCount ≤ params.config.maximumClicks
  headed : controller.Headed → controller'.Headed
  ended : ∀ terminal ∈ controller'.terminal, terminal = decision ∧ decision.command = none
  arrived : decision.phase = .complete →
    params.finalDestination.Reached metric observation.position ∧
      controller'.waypointIndex = controller.passage metric observation
  clicked : decision.command.isSome = true → decision.nowMs = observation.nowMs ∧
    controller'.dispatchPaused = false ∧ controller'.lastClickAtMs = some observation.nowMs
  quiet : controller.dispatchPaused = false → controller'.dispatchPaused = false →
    controller'.waypointIndex = controller.waypointIndex → decision.command = none →
      controller'.lastClickAtMs = controller.lastClickAtMs
  spaced : controller.dispatchPaused = false → decision.isDirect = true →
    controller'.waypointIndex = controller.waypointIndex →
      ∀ last ∈ controller.lastClickAtMs, last + params.config.spacingMs ≤ observation.nowMs

/-- What a step leaves to undo, when it is a proposal. -/
structure Checkpointed (metric : Metric K) (observation : TravelObservation K)
    (controller : TravelController params) (decision : TravelDecision K)
    (checkpoint : Dispatch params) : Prop where
  attempts : checkpoint.attemptCount = controller.attemptCount
  clicks : checkpoint.clickCount = controller.clickCount
  headed : controller.Headed → checkpoint.Headed
  ended : checkpoint.terminal = none
  index : decision.phase = .complete ∨
    controller.passage metric observation ≤ checkpoint.waypointIndex

section Stepping

variable {seen : TravelController params} {decision : TravelDecision K}

theorem Seen.halted (hseen : Seen observation controller seen)
    (hbounds : controller.OutOfBounds observation) {reason : String} :
    Stepped metric observation controller (seen.halt observation distance reason).1
      (seen.halt observation distance reason).2 := by
  have hpassage : controller.passage metric observation = controller.waypointIndex := if_pos hbounds
  have hindex : seen.waypointIndex = controller.waypointIndex :=
    congrArg Dispatch.waypointIndex hseen.dispatch
  have hattempts : seen.attemptCount = controller.attemptCount :=
    congrArg Dispatch.attemptCount hseen.dispatch
  exact
    { traveling := hseen.traveling
      time := hseen.time
      observed := hseen.observed
      passage_le := hpassage.ge
      index_le := (hpassage.trans hindex.symm).le
      index := nofun
      attempts := hattempts
      bounded := hattempts ▸ id
      headed := fun h => show seen.Headed from hseen.dispatch ▸ h
      ended := fun _ h => ⟨(Option.some.inj h).symm, rfl⟩
      arrived := nofun
      clicked := nofun
      quiet := fun _ _ _ _ => show seen.lastClickAtMs = _ from
        congrArg Dispatch.lastClickAtMs hseen.dispatch
      spaced := nofun }

variable {dispatch : Dispatch params}

/-- What remains to be shown of a decision made after the waypoints are observed. -/
theorem Seen.stepped (hseen : Seen observation controller seen)
    (hbounds : ¬ controller.OutOfBounds observation) {arrived : Bool}
    (hwaypoints : seen.toDispatch.observeWaypoints metric controller.previousObservation observation =
      (arrived, dispatch)) :
    Dispatch.Passed metric observation controller.toDispatch (arrived, dispatch) ∧
      controller.passage metric observation = dispatch.waypointIndex := by
  rw [hseen.dispatch] at hwaypoints
  constructor
  · rw [← hwaypoints]
    exact Dispatch.observeWaypoints_passed controller.toDispatch
  · unfold passage
    rw [if_neg hbounds, hwaypoints]

theorem Seen.completed (hseen : Seen observation controller seen)
    (hpassed : Dispatch.Passed metric observation controller.toDispatch (true, dispatch))
    (hpassage : controller.passage metric observation = dispatch.waypointIndex) :
    Stepped metric observation controller
      ((seen.withDispatch dispatch).complete observation distance).1
      ((seen.withDispatch dispatch).complete observation distance).2 where
  traveling := hseen.traveling
  time := hseen.time
  observed := hseen.observed
  passage_le := hpassage ▸ hpassed.index_le
  index_le := hpassage.le
  index := nofun
  attempts := hpassed.attempts
  bounded := fun h => hpassed.attempts.trans_le h
  headed := hpassed.headed
  ended := fun _ h => ⟨(Option.some.inj h).symm, rfl⟩
  arrived := fun _ => ⟨hpassed.arrived rfl, hpassage.symm⟩
  clicked := nofun
  quiet := fun _ _ hindex _ => hpassed.clicked hindex
  spaced := nofun

/-- The decisions of a step past the waypoints. -/
theorem Seen.proceeded (hseen : Seen observation controller seen)
    (hpassed : Dispatch.Passed metric observation controller.toDispatch (false, dispatch))
    (hpassage : controller.passage metric observation = dispatch.waypointIndex)
    (headed : controller.Headed)
    (hresult : (seen.withDispatch dispatch).proceed metric observation previous distance = result) :
    Stepped metric observation controller result.1 result.2 := by
  have hresume := resume_resumed metric observation (seen.withDispatch dispatch)
  have hsent : Sent observation
      ((seen.withDispatch dispatch).resume metric observation).rememberPassage result := hresult ▸
    proceed_sent (hpassed.away rfl) (hpassed.headed headed)
  have hattempts : result.2.attemptCount = controller.attemptCount + result.1.attempts :=
    hsent.attempts.trans (congrArg (· + result.1.attempts)
      (hresume.attempts.trans hpassed.attempts))
  have hindex : dispatch.waypointIndex ≤ result.2.waypointIndex := hresume.index ▸ hsent.index_le
  have hunchanged : result.2.waypointIndex = controller.waypointIndex →
      dispatch.waypointIndex = controller.waypointIndex := fun hsame =>
    le_antisymm (hindex.trans hsame.le) hpassed.index_le
  have hclicked : controller.dispatchPaused = false →
      dispatch.waypointIndex = controller.waypointIndex →
        ((seen.withDispatch dispatch).resume metric observation).rememberPassage.lastClickAtMs =
          controller.lastClickAtMs := fun hpaused hsame =>
    (hresume.clicked (hseen.paused.trans hpaused)).trans (hpassed.clicked hsame)
  have hframe := hsent.frame
  generalize hdispatch' : result.2.toDispatch = dispatch' at hframe
  exact
    { traveling := hseen.traveling
      time := hseen.time
      observed := by rw [hframe]; exact hresume.observed.trans hseen.observed
      passage_le := hpassage ▸ hpassed.index_le
      index_le := hpassage ▸ hindex
      index := fun _ => hsent.index
      attempts := hattempts
      bounded := fun h => by
        by_cases hspent : params.config.maximumClicks ≤ controller.attemptCount
        · have hnone : result.1.command = none := hresult ▸
            proceed_attempts (hspent.trans hpassed.attempts.ge)
          rw [hattempts, TravelDecision.attempts_eq_zero hnone]
          exact h
        · have := result.1.attempts_le
          omega
      headed := fun h => hsent.headed (hresume.headed (hpassed.headed h))
      ended := fun terminal h => by
        rcases hsent.ended with hended | hended
        · have hnone : result.2.terminal = none := hended.trans
            (hresume.ended.trans (hpassed.ended.trans hseen.traveling))
          exact absurd (hnone.symm.trans h) nofun
        · exact ⟨Option.some.inj (h.symm.trans hended.1), hended.2⟩
      arrived := fun h => absurd h hsent.traveling
      clicked := fun h => ⟨hsent.nowMs, by rw [hframe]; exact hresume.paused, hsent.clicked h⟩
      quiet := fun hpaused _ hsame hnone =>
        (hsent.quiet hnone).1.trans (hclicked hpaused (hunchanged hsame))
      spaced := fun hpaused hdirect hsame =>
        hclicked hpaused (hunchanged hsame) ▸ hsent.spaced hdirect
          (hsame.trans ((hunchanged hsame).symm.trans hresume.index.symm)) }

/-- A step answers with the end of the route, or moves on; a proposal can be undone. -/
theorem step_cases (headed : controller.Headed)
    (h : controller.step metric observation = .ok (decision, controller')) :
    (controller.terminal = some decision ∧ controller' = controller) ∨
      Stepped metric observation controller decision controller' ∧
        controller'.proposal = controller.proposal ∧
        (controller.proposalCheckpoint = some controller.toDispatch →
          ∃ checkpoint ∈ controller'.proposalCheckpoint,
            Checkpointed metric observation controller decision checkpoint) := by
  unfold step at h
  obtain ⟨⟨terminal, seen⟩, hobserve, h⟩ := bind_eq_ok.mp h
  rcases observe_cases hobserve with ⟨hterminal, hsome, rfl⟩ | ⟨seen', hseen, hcases⟩
  · obtain ⟨ended, rfl⟩ := Option.isSome_iff_exists.mp hsome
    cases h
    exact .inl ⟨hterminal, rfl⟩
  right
  rcases hcases with ⟨hbounds, distance, reason, rfl, rfl⟩ | ⟨hbounds, rfl, rfl⟩
  · cases h
    refine ⟨hseen.halted hbounds, hseen.proposal, fun hcheckpoint => ⟨_, hseen.checkpoint.trans hcheckpoint, ?_⟩⟩
    exact ⟨rfl, rfl, id, hseen.traveling, .inr (if_pos hbounds).le⟩
  · dsimp only at h
    generalize hwaypoints : seen.toDispatch.observeWaypoints metric controller.previousObservation
      observation = waypoints at h
    obtain ⟨arrived, dispatch⟩ := waypoints
    obtain ⟨hpassed, hpassage⟩ := hseen.stepped hbounds hwaypoints
    cases arrived with
    | true =>
      cases h
      refine ⟨hseen.completed hpassed hpassage, hseen.proposal, fun hcheckpoint =>
        ⟨_, hseen.checkpoint.trans hcheckpoint, ?_⟩⟩
      exact ⟨rfl, rfl, id, hseen.traveling, .inl rfl⟩
    | false =>
      have hresult := Except.ok.inj h
      have hresume := resume_resumed metric observation (seen.withDispatch dispatch)
      have hsent : Sent observation
          ((seen.withDispatch dispatch).resume metric observation).rememberPassage
          (decision, controller') := hresult ▸
        proceed_sent (hpassed.away rfl) (hpassed.headed headed)
      refine ⟨hseen.proceeded hpassed hpassage headed hresult, ?_, fun hcheckpoint => ?_⟩
      · have hframe := congrArg TravelController.proposal hsent.frame
        exact hframe.trans (hresume.proposal.trans hseen.proposal)
      refine ⟨((seen.withDispatch dispatch).resume metric observation).toDispatch, ?_, ?_⟩
      · have hframe := congrArg TravelController.proposalCheckpoint hsent.frame
        refine hframe.trans ?_
        show Option.map _ ((seen.withDispatch dispatch).resume metric observation).proposalCheckpoint = _
        rw [hresume.checkpoint]
        show Option.map _ seen.proposalCheckpoint = _
        rw [hseen.checkpoint, hcheckpoint]
        rfl
      · exact
          { attempts := hresume.attempts.trans hpassed.attempts
            clicks := hresume.clicks.trans hpassed.clicks
            headed := fun _ => hresume.headed (hpassed.headed headed)
            ended := hresume.ended.trans (hpassed.ended.trans hseen.traveling)
            index := .inr (hpassage.trans hresume.index.symm).le }

/-- While dispatch is deferred, the follower observes and sends nothing. -/
theorem observeDeferred_cases (headed : controller.Headed)
    (h : controller.observeDeferred metric observation = .ok (decision, controller')) :
    (controller.terminal = some decision ∧ controller' = controller) ∨
      Stepped metric observation controller decision controller' ∧
        controller'.proposal = controller.proposal ∧ decision.command = none := by
  unfold observeDeferred at h
  split at h
  · cases h
  obtain ⟨⟨terminal, seen⟩, hobserve, h⟩ := bind_eq_ok.mp h
  rcases observe_cases hobserve with ⟨hterminal, hsome, rfl⟩ | ⟨seen', hseen, hcases⟩
  · obtain ⟨ended, rfl⟩ := Option.isSome_iff_exists.mp hsome
    cases h
    exact .inl ⟨hterminal, rfl⟩
  right
  rcases hcases with ⟨hbounds, distance, reason, rfl, rfl⟩ | ⟨hbounds, rfl, rfl⟩
  · cases h
    exact ⟨hseen.halted hbounds, hseen.proposal, rfl⟩
  · dsimp only at h
    generalize hwaypoints : seen.toDispatch.observeWaypoints metric controller.previousObservation
      observation = waypoints at h
    obtain ⟨arrived, dispatch⟩ := waypoints
    obtain ⟨hpassed, hpassage⟩ := hseen.stepped hbounds hwaypoints
    cases arrived with
    | true =>
      cases h
      exact ⟨hseen.completed hpassed hpassage, hseen.proposal, rfl⟩
    | false =>
      cases h
      refine ⟨?_, hseen.proposal, rfl⟩
      exact
        { traveling := hseen.traveling
          time := hseen.time
          observed := hseen.observed
          passage_le := hpassage ▸ hpassed.index_le
          index_le := hpassage.le
          index := nofun
          attempts := hpassed.attempts
          bounded := fun h => hpassed.attempts.trans_le h
          headed := hpassed.headed
          ended := fun _ h => absurd ((hpassed.ended.trans hseen.traveling).symm.trans h) nofun
          arrived := nofun
          clicked := nofun
          quiet := fun _ => nofun
          spaced := nofun }

/-- A proposal is a step that remembers what to undo. -/
theorem propose_cases (headed : controller.Headed)
    (h : controller.propose metric observation = .ok (decision, controller')) :
    controller.proposal = none ∧
      ((controller.terminal = some decision ∧ controller' = { controller with
          proposal := some (controller.toDispatch, decision), proposalCheckpoint := none }) ∨
        ∃ checkpoint, Stepped metric observation controller decision controller' ∧
          controller'.proposal = some (checkpoint, decision) ∧
            Checkpointed metric observation controller decision checkpoint) := by
  unfold propose at h
  split at h
  · cases h
  next hproposal =>
    refine ⟨by simpa using hproposal, ?_⟩
    obtain ⟨⟨proposed, moved⟩, hstep, h⟩ := bind_eq_ok.mp h
    cases h
    have hcases := step_cases (by exact headed) hstep
    rcases hcases with ⟨hterminal, rfl⟩ | ⟨hstepped, _, hcheckpoint⟩
    · exact .inl ⟨hterminal, rfl⟩
    · obtain ⟨checkpoint, hkept, hcheckpointed⟩ := hcheckpoint rfl
      refine .inr ⟨checkpoint, ?_, ?_, ?_⟩
      · exact ⟨hstepped.traveling, hstepped.time, hstepped.observed, hstepped.passage_le,
          hstepped.index_le, hstepped.index, hstepped.attempts, hstepped.bounded, hstepped.headed,
          hstepped.ended, hstepped.arrived, hstepped.clicked, hstepped.quiet, hstepped.spaced⟩
      · show Option.map _ moved.proposalCheckpoint = _
        rw [Option.mem_def.mp hkept]
        rfl
      · exact ⟨hcheckpointed.attempts, hcheckpointed.clicks, hcheckpointed.headed,
          hcheckpointed.ended, hcheckpointed.index⟩

theorem requireProposal_eq_ok {checkpoint : Dispatch params}
    (h : controller.requireProposal decision = .ok checkpoint) :
    controller.proposal = some (checkpoint, decision) := by
  unfold requireProposal at h
  split at h
  next proposal =>
    split at h
    next hsame =>
      cases h
      rw [proposal, hsame]
    · cases h
  · cases h

end Stepping

end Observing

end TravelController

end ShadowbaneLab
