/-
# The waypoint follower

`TravelController` (`src/shadowbane_lab/travel/controller.py`).  The fields that a dispatch
proposal owns, and that deferring it rewinds, are a structure of their own (`Dispatch`); the
index of the active waypoint is in range by its type.  Diagnostic events are left out.
-/
import ShadowbaneLab.Travel.Model

namespace ShadowbaneLab

open Foundation

inductive EscapePhase where
  | backup
  | sweep
  | bypass
  deriving DecidableEq, Repr

/-- The errors the travel controllers raise. -/
inductive TravelFault where
  | timeBackwards
  | unresolvedProposal
  | unmatchedProposal
  | blankReason
  deriving DecidableEq, Repr

variable {K : Type} [Field K] [LinearOrder K]

/-- What a follower is constructed with. -/
structure TravelParameters (K : Type) [Field K] [LinearOrder K] where
  plan : TravelPlan K
  config : TravelControllerConfig K
  shortcutClear : Option (PlanarVector K → List (PlanarVector K) → Bool) := none

namespace TravelParameters

variable (params : TravelParameters K)

/-- The indexes of the waypoints. -/
abbrev Waypoint : Type := Fin params.plan.destinations.length

theorem destinations_pos : 0 < params.plan.destinations.length :=
  List.length_pos_of_ne_nil params.plan.destinations_ne

def destination (index : params.Waypoint) : TravelDestination K := params.plan.destinations.get index

/-- `plan.destinations[-1]`. -/
def finalDestination : TravelDestination K :=
  params.plan.destinations.getLast params.plan.destinations_ne

end TravelParameters

/-- `_DispatchCheckpoint`: the state that a proposal owns. -/
structure Dispatch (params : TravelParameters K) where
  waypointIndex : params.Waypoint := ⟨0, params.destinations_pos⟩
  clickCount : ℕ := 0
  attemptCount : ℕ := 0
  handoffTarget : Option (TravelDestination K) := none
  lastClickAtMs : Option ℕ := none
  lastClickDistance : Option K := none
  progressAtMs : Option ℕ := none
  lastMoveEndpoint : Option (PlanarVector K) := none
  noProgressClicks : ℕ := 0
  escapeSequenceCount : ℕ := 0
  escapeStep : ℕ := 0
  escapePhase : EscapePhase := .backup
  escapeForward : PlanarVector K := ⟨0, 0⟩
  escapeSideSign : K := 1
  escapePhaseOrigin : PlanarVector K := ⟨0, 0⟩
  escapePhaseOriginDistance : K := 0
  escapeLastPosition : PlanarVector K := ⟨0, 0⟩
  escapeNoMotionClicks : ℕ := 0
  escapeSideSwitches : ℕ := 0
  escapeReleaseDistance : Option K := none
  escaping : Bool := false
  terminal : Option (TravelDecision K) := none

structure TravelController (params : TravelParameters K) extends Dispatch params where
  previousObservation : Option (TravelObservation K) := none
  startedAtMs : Option ℕ := none
  decisionId : ℕ := 0
  lastObservedPosition : Option (PlanarVector K) := none
  ingressDirection : PlanarVector K := ⟨0, 0⟩
  proposal : Option (Dispatch params × TravelDecision K) := none
  proposalCheckpoint : Option (Dispatch params) := none
  dispatchPaused : Bool := false

/-- `_screen_position`. -/
def screenPosition (observation : TravelObservation K) : PlanarVector K :=
  ⟨observation.position.lt, -observation.position.lg⟩

/-! ## Waypoints -/

section Waypoints

variable (metric : Metric K) {params : TravelParameters K}

/-- `_passed_waypoint`. -/
def passedWaypoint (previous : Option (TravelObservation K)) (current : TravelObservation K)
    (destination : TravelDestination K) : Bool :=
  match previous with
  | none => false
  | some previous =>
    if current.nowMs ≤ previous.nowMs then false
    else
      let dx := current.position.lt - previous.position.lt
      let dy := current.position.lg - previous.position.lg
      let lengthSquared := dx * dx + dy * dy
      if lengthSquared = 0 then false
      else
        let fraction := ((destination.lt - previous.position.lt) * dx +
          (destination.lg - previous.position.lg) * dy) / lengthSquared
        decide (0 ≤ fraction) && decide (fraction ≤ 1) &&
          decide (metric.hypot (previous.position.lt + fraction * dx - destination.lt)
            (previous.position.lg + fraction * dy - destination.lg) ≤ destination.arrivalRadius)

/-- `_reset_waypoint_progress`. -/
def Dispatch.resetWaypointProgress (dispatch : Dispatch params) : Dispatch params :=
  { dispatch with
    lastClickAtMs := none
    lastClickDistance := none
    progressAtMs := none
    lastMoveEndpoint := none
    handoffTarget := none
    noProgressClicks := 0
    escapeSequenceCount := 0
    escapeStep := 0
    escapePhase := .backup
    escapeReleaseDistance := none
    escaping := false }

/-- Make another waypoint the active one. -/
def Dispatch.turnTo (index : params.Waypoint) (dispatch : Dispatch params) : Dispatch params :=
  { dispatch with waypointIndex := index }.resetWaypointProgress

/-- Whether an observation is at the active waypoint, or has passed it on the way. -/
def atWaypoint (previous : Option (TravelObservation K)) (observation : TravelObservation K)
    (last : Bool) (destination : TravelDestination K) : Bool :=
  decide (destination.Reached metric observation.position) ||
    (!last && passedWaypoint metric previous observation destination)

/-- The loop of `_observe_waypoints`: whether the last waypoint is reached, and the state
with the passed waypoints behind it. -/
def Dispatch.passWaypoints (previous : Option (TravelObservation K))
    (observation : TravelObservation K) :
    (remaining : ℕ) → (dispatch : Dispatch params) →
      dispatch.waypointIndex.val + remaining + 1 = params.plan.destinations.length →
        Bool × Dispatch params
  | 0, dispatch, _ =>
    (atWaypoint metric previous observation true (params.destination dispatch.waypointIndex),
      dispatch)
  | remaining + 1, dispatch, h =>
    if atWaypoint metric previous observation false
        (params.destination dispatch.waypointIndex) then
      let next : params.Waypoint := ⟨dispatch.waypointIndex.val + 1, by omega⟩
      Dispatch.passWaypoints previous observation remaining (dispatch.turnTo next)
        (by show dispatch.waypointIndex.val + 1 + remaining + 1 = _; omega)
    else (false, dispatch)

/-- `_observe_waypoints`, up to the decision on arrival. -/
def Dispatch.observeWaypoints (previous : Option (TravelObservation K))
    (observation : TravelObservation K) (dispatch : Dispatch params) : Bool × Dispatch params :=
  let dispatch :=
    match dispatch.handoffTarget with
    | some target =>
      if decide (target.Reached metric observation.position) ||
          passedWaypoint metric previous observation target then
        { dispatch with handoffTarget := none }
      else dispatch
    | none => dispatch
  dispatch.passWaypoints metric previous observation
    (params.plan.destinations.length - 1 - dispatch.waypointIndex.val)
    (by have := dispatch.waypointIndex.isLt; omega)

/-- The distance to the active waypoint. -/
def Dispatch.distance (dispatch : Dispatch params) (observation : TravelObservation K) : K :=
  (params.destination dispatch.waypointIndex).distanceFrom metric observation.position

end Waypoints

namespace TravelController

variable (metric : Metric K) {params : TravelParameters K}

/-- Replace the state that proposals own. -/
def withDispatch (controller : TravelController params) (dispatch : Dispatch params) :
    TravelController params :=
  { controller with toDispatch := dispatch }

/-! ## Decisions -/

section Decisions

variable (observation : TravelObservation K) (distance : K) (controller : TravelController params)

/-- A decision with the next identifier. -/
def newDecision (status : TravelStatus K) : TravelDecision K × TravelController params :=
  ({ decisionId := controller.decisionId
     nowMs := observation.nowMs
     waypointIndex := controller.waypointIndex.val
     distanceRemaining := distance
     clickCount := controller.clickCount
     status := status },
    { controller with decisionId := controller.decisionId + 1 })

/-- `_decision` without a direction. -/
def wait : TravelDecision K × TravelController params :=
  controller.newDecision observation distance (.traveling none)

/-- End the route with a decision. -/
def finish (status : TravelStatus K) : TravelDecision K × TravelController params :=
  let (decision, controller) := controller.newDecision observation distance status
  (decision, { controller with terminal := some decision })

/-- `_stop`. -/
def halt (reason : String) : TravelDecision K × TravelController params :=
  controller.finish observation distance (.stopped reason)

/-- `_complete`. -/
def complete : TravelDecision K × TravelController params :=
  controller.finish observation distance (.complete params.finalDestination)

/-- `_escape_sweep_clearance`. -/
def escapeSweepClearance : K :=
  params.config.escapeSweepClearance +
    ((controller.escapeSequenceCount : K) - 1) * params.config.escapeWideningClearancePerSequence

/-- How far a command may click. -/
def clickDistance (length : K) (maneuver : TravelManeuver) : K :=
  match maneuver with
  | .direct => min length params.config.maximumClickDistance
  | .escapeBacktrack =>
    min params.config.escapeBacktrackDistance params.config.maximumClickDistance
  | _ =>
    let clearance :=
      match controller.escapePhase with
      | .backup => params.config.escapeBackupClearance
      | .sweep => controller.escapeSweepClearance
      | .bypass => params.config.escapeReacquireProgress
    min clearance params.config.maximumClickDistance

/-- The point a command clicks, unless its direction is zero. -/
def clickDestination (direction : PlanarVector K) (maneuver : TravelManeuver) :
    Option (PlanarVector K) :=
  let length := metric.hypot direction.x direction.y
  let click := controller.clickDistance length maneuver
  if length = 0 then none
  else some ⟨observation.position.lt + direction.x / length * click,
    observation.position.lg - direction.y / length * click⟩

/-- The state in which a command is sent. -/
def dispatched (trackDestinationProgress progressRefresh : Bool) : TravelController params :=
  let controller := { controller with lastClickAtMs := some observation.nowMs }
  let controller :=
    if !trackDestinationProgress then
      { controller with lastClickDistance := none, progressAtMs := none, lastMoveEndpoint := none }
    else if controller.progressAtMs.isNone then
      { controller with
        lastClickDistance := some distance, progressAtMs := some observation.nowMs }
    else controller
  { controller with
    clickCount := controller.clickCount + 1
    attemptCount := if progressRefresh then controller.attemptCount else controller.attemptCount + 1 }

/-- `_dispatch`. -/
def dispatch (direction : PlanarVector K) (maneuver : TravelManeuver)
    (trackDestinationProgress progressRefresh : Bool)
    (refresh_ok : progressRefresh = true → maneuver = .direct) :
    TravelDecision K × TravelController params :=
  let controller := controller.dispatched observation distance trackDestinationProgress
    progressRefresh
  let click := controller.clickDestination metric observation direction maneuver
  let (decision, controller) := controller.newDecision observation distance
    (.traveling (some ⟨direction, maneuver, click, progressRefresh, refresh_ok⟩))
  (decision,
    if trackDestinationProgress then { controller with lastMoveEndpoint := click } else controller)

/-- `_dispatch_direct`. -/
def dispatchDirect (progressRefresh : Bool) : TravelDecision K × TravelController params :=
  let destination := params.destination controller.waypointIndex
  controller.dispatch metric observation distance
    ⟨destination.lt - observation.position.lt, -(destination.lg - observation.position.lg)⟩ .direct
    true progressRefresh (fun _ => rfl)

end Decisions

/-! ## Escaping -/

section Escape

variable (observation : TravelObservation K) (distance : K) (controller : TravelController params)

/-- `_reset_escape_phase_feedback`. -/
def resetEscapePhaseFeedback : TravelController params :=
  { controller with
    escapePhaseOrigin := screenPosition observation
    escapePhaseOriginDistance := distance
    escapeLastPosition := screenPosition observation
    escapeStep := 0
    escapeNoMotionClicks := 0 }

/-- `_transition_escape_phase`. -/
def transitionEscapePhase (phase : EscapePhase) : TravelController params :=
  { controller with escapePhase := phase }.resetEscapePhaseFeedback observation distance

/-- The direction an escape turns away from. -/
def escapeHeading : PlanarVector K :=
  let destination := params.destination controller.waypointIndex
  let deltaLt := destination.lt - observation.position.lt
  let screenDeltaLg := -(destination.lg - observation.position.lg)
  let ingress := controller.ingressDirection
  if 0 < metric.hypot ingress.x ingress.y then ingress
  else
    let length := metric.hypot deltaLt screenDeltaLg
    if length = 0 then ⟨0, 0⟩ else ⟨deltaLt / length, screenDeltaLg / length⟩

/-- `_begin_escape`. -/
def beginEscape : TravelController params :=
  let controller := { controller with
    escapeForward := controller.escapeHeading metric observation
    escapeSideSign := if controller.escapeSequenceCount % 2 = 1 then 1 else -1
    escapePhase := .backup
    escapeStep := 0
    escapeSideSwitches := 0 }
  { controller.resetEscapePhaseFeedback observation distance with escaping := true }

/-- `_observe_escape_motion`. -/
def observeEscapeMotion : TravelController params :=
  if controller.escapeStep = 0 then controller
  else
    let position := screenPosition observation
    let movement := metric.hypot (position.x - controller.escapeLastPosition.x)
      (position.y - controller.escapeLastPosition.y)
    { controller with
      escapeNoMotionClicks :=
        if movement < params.config.escapeMinimumMotion then controller.escapeNoMotionClicks + 1
        else 0
      escapeLastPosition := position }

/-- `_escape_phase_progress`. -/
def escapePhaseProgress : K :=
  let position := screenPosition observation
  let deltaX := position.x - controller.escapePhaseOrigin.x
  let deltaY := position.y - controller.escapePhaseOrigin.y
  let forward := controller.escapeForward
  match controller.escapePhase with
  | .backup => -(deltaX * forward.x + deltaY * forward.y)
  | .sweep => deltaX * (-forward.y * controller.escapeSideSign) +
      deltaY * (forward.x * controller.escapeSideSign)
  | .bypass => controller.escapePhaseOriginDistance - controller.toDispatch.distance metric observation

/-- `_escape_phase_clicks`; the widening is negative before the first sequence. -/
def escapePhaseClicks : ℤ :=
  let widening := ((controller.escapeSequenceCount : ℤ) - 1) *
    params.config.escapeWideningClicksPerSequence
  match controller.escapePhase with
  | .backup => params.config.escapeBackupClicks
  | .sweep => params.config.escapeSweepClicks + widening
  | .bypass => params.config.escapeBypassClicks + widening

/-- `_reacquire_direct`. -/
def reacquireDirect : TravelDecision K × TravelController params :=
  { controller with
    escaping := false
    escapePhase := .backup
    escapeStep := 0
    noProgressClicks := 0
    escapeReleaseDistance := some distance }.dispatchDirect metric observation distance false

/-- The direction and the maneuver of the current escape phase. -/
def escapeMove : PlanarVector K × TravelManeuver :=
  let forward := controller.escapeForward
  let perpendicular : PlanarVector K := ⟨-forward.y, forward.x⟩
  let sideSign := controller.escapeSideSign
  match controller.escapePhase with
  | .backup =>
    if controller.escapeStep = 0 then (⟨-forward.x, -forward.y⟩, .escapeBacktrack)
    else
      let zigSign := if controller.escapeStep % 2 = 0 then sideSign else -sideSign
      let lateral := params.config.escapeBackupLateralRatio
      (⟨-forward.x + zigSign * lateral * perpendicular.x,
        -forward.y + zigSign * lateral * perpendicular.y⟩,
        if 0 < zigSign then .escapeBackLeft else .escapeBackRight)
  | .sweep =>
    let reverse := params.config.escapeSweepReverseRatio
    (⟨sideSign * perpendicular.x - reverse * forward.x,
      sideSign * perpendicular.y - reverse * forward.y⟩,
      if 0 < sideSign then .escapeSweepLeft else .escapeSweepRight)
  | .bypass =>
    let lateral := params.config.escapeBypassLateralRatio
    (⟨forward.x + sideSign * lateral * perpendicular.x,
      forward.y + sideSign * lateral * perpendicular.y⟩,
      if 0 < sideSign then .escapeBypassLeft else .escapeBypassRight)

/-- The part of `_dispatch_escape` that reacts to clicks without motion; it answers nothing
when the last escape sequence is spent. -/
def escapeAfterNoMotion : Option (TravelController params) :=
  if controller.escapeNoMotionClicks < params.config.maximumEscapePhaseNoMotionClicks then
    some controller
  else
    match controller.escapePhase with
    | .backup => some (controller.transitionEscapePhase observation distance .sweep)
    | .sweep =>
      if controller.escapeSideSwitches < params.config.maximumEscapeSideSwitches then
        some ({ controller with
          escapeSideSwitches := controller.escapeSideSwitches + 1
          escapeSideSign := -controller.escapeSideSign }.resetEscapePhaseFeedback observation
            distance)
      else some (controller.transitionEscapePhase observation distance .bypass)
    | .bypass =>
      if params.config.maximumEscapeSequences ≤ controller.escapeSequenceCount then none
      else some ({ controller with
        escapeSequenceCount := controller.escapeSequenceCount + 1 }.beginEscape metric observation
          distance)

/-- The part of `_dispatch_escape` that ends a phase; it answers nothing when the bypass is
over. -/
def escapeAfterProgress : Option (TravelController params) :=
  let progress := controller.escapePhaseProgress metric observation
  let swept : Bool := decide (controller.escapePhaseClicks ≤ (controller.escapeStep : ℤ))
  match controller.escapePhase with
  | .backup =>
    if decide (params.config.escapeBackupClearance ≤ progress) || swept then
      some (controller.transitionEscapePhase observation distance .sweep)
    else some controller
  | .sweep =>
    if decide (controller.escapeSweepClearance ≤ progress) || swept then
      some (controller.transitionEscapePhase observation distance .bypass)
    else some controller
  | .bypass => if swept then none else some controller

/-- Send the command of the current escape phase. -/
def sendEscape : TravelDecision K × TravelController params :=
  if controller.escapeForward.x = 0 ∧ controller.escapeForward.y = 0 then
    controller.complete observation distance
  else
    let (direction, maneuver) := controller.escapeMove
    { controller with escapeStep := controller.escapeStep + 1 }.dispatch metric observation distance
      direction maneuver false false nofun

/-- `_dispatch_escape`. -/
def dispatchEscape (observeMotion : Bool) : TravelDecision K × TravelController params :=
  let controller :=
    if observeMotion then controller.observeEscapeMotion metric observation else controller
  if 0 < controller.escapeStep ∧
      params.config.escapeReacquireProgress ≤ controller.escapePhaseOriginDistance - distance then
    controller.reacquireDirect metric observation distance
  else
    match controller.escapeAfterNoMotion metric observation distance with
    | none => controller.halt observation distance "no_progress_after_escape"
    | some controller =>
      match controller.escapeAfterProgress metric observation distance with
      | none => controller.reacquireDirect metric observation distance
      | some controller => controller.sendEscape metric observation distance

end Escape

/-! ## The next target -/

section Targets

variable (controller : TravelController params)

/-- `_motion_lead`. -/
def motionLead (config : TravelControllerConfig K) (previous : Option (TravelObservation K))
    (current : TravelObservation K) : K :=
  let lead := min 5 config.maximumClickDistance
  let lead :=
    match previous with
    | some previous =>
      if previous.nowMs < current.nowMs then
        let elapsed : K := ((current.nowMs - previous.nowMs : ℕ) : K)
        let motion := metric.hypot (current.position.lt - previous.position.lt)
          (current.position.lg - previous.position.lg)
        max lead (motion * (elapsed + config.targetRefreshLeadMs) / elapsed)
      else lead
    | none => lead
  min lead config.maximumClickDistance

/-- A point on the way from one point to another, at most `budget` away. -/
def towards (origin : PlanarVector K) (destination : TravelDestination K) (scale : K) :
    PlanarVector K :=
  ⟨origin.x + (destination.lt - origin.x) * scale, origin.y + (destination.lg - origin.y) * scale⟩

/-- The loop of `_forward_target` over the waypoints after the active one. -/
def extendTarget (clear : PlanarVector K → List (PlanarVector K) → Bool) (start : PlanarVector K) :
    List params.Waypoint → (path : List (PlanarVector K)) → (origin : PlanarVector K) →
      (budget : K) → PlanarVector K × params.Waypoint → PlanarVector K × params.Waypoint
  | [], _, _, _, found => found
  | index :: rest, path, origin, budget, found =>
    let destination := params.destination index
    let length := metric.hypot (destination.lt - origin.x) (destination.lg - origin.y)
    let scale := if length = 0 then 1 else min 1 (budget / length)
    let candidate := towards origin destination scale
    if !clear start (path ++ [candidate]) then found
    else if budget ≤ length then (candidate, index)
    else extendTarget clear start rest (path ++ [candidate]) candidate (budget - length)
      (candidate, index)

/-- The waypoints after one. -/
def laterWaypoints (index : params.Waypoint) : List params.Waypoint :=
  (List.finRange params.plan.destinations.length).filter (fun later => index < later)

/-- `_forward_target`. -/
def forwardTarget (observation : TravelObservation K) (lead : K) :
    Option (PlanarVector K) × params.Waypoint :=
  let start : PlanarVector K := ⟨observation.position.lt, observation.position.lg⟩
  let index := controller.waypointIndex
  let destination := params.destination index
  let distance := destination.distanceFrom metric observation.position
  let scale := if distance = 0 then 0 else min 1 (params.config.maximumClickDistance / distance)
  let target := towards start destination scale
  match params.shortcutClear with
  | none => (some target, index)
  | some clear =>
    let pathToTarget :=
      match controller.handoffTarget with
      | none => [target]
      | some hint => [⟨hint.lt, hint.lg⟩, target]
    if !clear start pathToTarget then
      match controller.handoffTarget with
      | some hint =>
        let fallback : PlanarVector K := ⟨hint.lt, hint.lg⟩
        if clear start [fallback] then (some fallback, index) else (none, index)
      | none => (none, index)
    else if controller.handoffTarget.isSome ∨ lead ≤ distance then (some target, index)
    else
      let origin : PlanarVector K := ⟨destination.lt, destination.lg⟩
      let (target, index) := extendTarget metric clear start (laterWaypoints index) [origin] origin
        (lead - distance) (target, index)
      (some target, index)

/-- The least arrival radius of some destinations. -/
def leastRadius (first : TravelDestination K) (rest : List (TravelDestination K)) : K :=
  rest.foldl (fun radius destination => min radius destination.arrivalRadius) first.arrivalRadius

theorem leastRadius_pos (first : TravelDestination K) (rest : List (TravelDestination K)) :
    0 < leastRadius first rest := by
  unfold leastRadius
  have hfirst := first.arrivalRadius_pos
  generalize first.arrivalRadius = radius at hfirst
  induction rest generalizing radius with
  | nil => exact hfirst
  | cons destination rest ih => exact ih _ (lt_min hfirst destination.arrivalRadius_pos)

/-- Skip the waypoints before a target, keeping the target as a hint until it is passed. -/
def shortcutTo (target : PlanarVector K) (index : params.Waypoint) : TravelController params :=
  let first := params.destination controller.waypointIndex
  let skipped := (params.plan.destinations.drop (controller.waypointIndex.val + 1)).take
    (index.val - controller.waypointIndex.val - 1)
  controller.withDispatch { controller.toDispatch.turnTo index with
    handoffTarget := some ⟨target.x, target.y, leastRadius first skipped, leastRadius_pos _ _⟩ }

end Targets

/-! ## Steps -/

section Steps

variable (observation : TravelObservation K) (controller : TravelController params)

/-- `_observe_ingress`. -/
def observeIngress : TravelController params :=
  let position := screenPosition observation
  match controller.lastObservedPosition with
  | none => { controller with lastObservedPosition := some position }
  | some previous =>
    if controller.escaping then controller
    else
      let deltaX := position.x - previous.x
      let deltaY := position.y - previous.y
      let distance := metric.hypot deltaX deltaY
      if min 1 params.config.minimumProgress ≤ distance then
        { controller with
          ingressDirection := ⟨deltaX / distance, deltaY / distance⟩
          lastObservedPosition := some position }
      else controller

/-- `_observe`: the terminal decision, if there is one. -/
def observe : Except TravelFault (Option (TravelDecision K) × TravelController params) :=
  match controller.terminal with
  | some decision => .ok (some decision, controller)
  | none =>
    if controller.previousObservation.any (fun previous => observation.nowMs < previous.nowMs) then
      .error .timeBackwards
    else
      let controller :=
        { controller with previousObservation := some observation }.observeIngress metric observation
      let startedAtMs := controller.startedAtMs.getD observation.nowMs
      let controller := { controller with startedAtMs := some startedAtMs }
      let distance := controller.toDispatch.distance metric observation
      if startedAtMs + params.config.maximumSessionMs ≤ observation.nowMs then
        let (decision, controller) := controller.halt observation distance "session_timeout"
        .ok (some decision, controller)
      else if observation.healthFraction < params.config.minimumHealthFraction then
        let (decision, controller) := controller.halt observation distance "low_player_health"
        .ok (some decision, controller)
      else .ok (none, controller)

/-- `_pause_progress`. -/
def pauseProgress : TravelController params :=
  { controller with
    dispatchPaused := true
    lastClickAtMs := none
    lastMoveEndpoint := none
    progressAtMs := some observation.nowMs
    lastClickDistance := some (controller.toDispatch.distance metric observation)
    noProgressClicks := 0
    escapeLastPosition := screenPosition observation
    escapeNoMotionClicks := 0 }

/-- Whether the click interval has passed. -/
def intervalDue : Bool :=
  controller.lastClickAtMs.all (fun last =>
    last + params.config.clickIntervalMs ≤ observation.nowMs)

/-- Restore the escape budget after enough progress. -/
def releaseBudget (distance : K) : TravelController params :=
  if controller.escapeReleaseDistance.any (fun release =>
      params.config.escapeBudgetResetProgress ≤ release - distance) then
    { controller with escapeSequenceCount := 0, escapeReleaseDistance := none }
  else controller

/-- Measure the progress since the last measurement, when an interval has passed. -/
def measureProgress (distance : K) : TravelController params :=
  match controller.lastClickDistance, controller.progressAtMs with
  | some lastDistance, some progressAtMs =>
    if progressAtMs + params.config.clickIntervalMs ≤ observation.nowMs then
      { controller with
        lastClickDistance := some distance
        progressAtMs := some observation.nowMs
        noProgressClicks :=
          if lastDistance - distance < params.config.minimumProgress then
            controller.noProgressClicks + 1
          else 0 }
    else controller
  | _, _ => controller

/-- Whether the progress is measured in this step. -/
def measures : Bool :=
  controller.lastClickDistance.isSome &&
    controller.progressAtMs.any (fun progressAtMs =>
      progressAtMs + params.config.clickIntervalMs ≤ observation.nowMs)

/-- React to a stall: stop when the escape sequences are spent, else begin one. -/
def escapeStall (distance : K) : TravelDecision K × TravelController params :=
  if params.config.maximumEscapeSequences ≤ controller.escapeSequenceCount then
    controller.halt observation distance
      (if params.config.maximumEscapeSequences = 0 then "no_progress"
        else "no_progress_after_escape")
  else
    let controller := { controller with
      escapeSequenceCount := controller.escapeSequenceCount + 1 }.beginEscape metric observation
        distance
    { controller with noProgressClicks := 0, lastClickDistance := none }.dispatchEscape metric
      observation distance true

/-- Move on towards the waypoint, or beyond it, when a click or a refresh is due. -/
def advance (previous : Option (TravelObservation K)) (distance : K) :
    TravelDecision K × TravelController params :=
  let intervalDue := controller.intervalDue observation
  let lead := motionLead metric params.config previous observation
  match controller.forwardTarget metric observation lead with
  | (none, _) => controller.halt observation distance "route_corridor_blocked"
  | (some target, index) =>
    let changed := controller.lastMoveEndpoint.all (fun endpoint =>
      1 / 10 ^ 6 < metric.hypot (target.x - endpoint.x) (target.y - endpoint.y))
    let near := controller.lastMoveEndpoint.any (fun endpoint =>
      metric.hypot (endpoint.x - observation.position.lt) (endpoint.y - observation.position.lg) ≤
        lead)
    let refreshDue := changed && near && controller.lastClickAtMs.all (fun last =>
      last + params.config.targetRefreshIntervalMs ≤ observation.nowMs)
    if !intervalDue && !refreshDue then controller.wait observation distance
    else if index = controller.waypointIndex ∧ controller.handoffTarget = none then
      controller.dispatchDirect metric observation distance (!intervalDue)
    else
      let shortcut : Bool := index ≠ controller.waypointIndex
      let controller := if shortcut then controller.shortcutTo target index else controller
      let distance :=
        if shortcut then controller.toDispatch.distance metric observation else distance
      controller.dispatch metric observation distance
        ⟨target.x - observation.position.lt, -(target.y - observation.position.lg)⟩ .direct true
        (!intervalDue) (fun _ => rfl)

/-- Take up the measurement of progress after a pause. -/
def resume : TravelController params :=
  if controller.dispatchPaused then
    { controller.pauseProgress metric observation with dispatchPaused := false }
  else controller

/-- What was observed stays observed when the proposal is deferred. -/
def rememberPassage : TravelController params :=
  { controller with
    proposalCheckpoint := controller.proposalCheckpoint.map (fun _ => controller.toDispatch) }

/-- The part of `step` after the waypoints are observed. -/
def proceed (previous : Option (TravelObservation K)) (distance : K) :
    TravelDecision K × TravelController params :=
  let resuming := controller.dispatchPaused
  let controller := ((controller.resume metric observation).rememberPassage).releaseBudget distance
  if params.config.maximumClicks ≤ controller.attemptCount then
    controller.halt observation distance "maximum_clicks"
  else if controller.escaping then
    if controller.intervalDue observation then
      controller.dispatchEscape metric observation distance (!resuming)
    else controller.wait observation distance
  else
    let measured := controller.measureProgress observation distance
    if controller.measures observation ∧
        params.config.maximumNoProgressClicks ≤ measured.noProgressClicks then
      measured.escapeStall metric observation distance
    else
      measured.advance metric observation previous distance

/-- `step`. -/
def step : Except TravelFault (TravelDecision K × TravelController params) := do
  let previous := controller.previousObservation
  let (terminal, controller) ← controller.observe metric observation
  match terminal with
  | some decision => pure (decision, controller)
  | none =>
    let (arrived, dispatch) := controller.toDispatch.observeWaypoints metric previous observation
    let controller := controller.withDispatch dispatch
    let distance := dispatch.distance metric observation
    if arrived then pure (controller.complete observation distance)
    else pure (controller.proceed metric observation previous distance)

/-- `observe_deferred`. -/
def observeDeferred : Except TravelFault (TravelDecision K × TravelController params) := do
  if controller.proposal.isSome then throw .unresolvedProposal
  else
    let previous := controller.previousObservation
    let (terminal, controller) ← controller.observe metric observation
    match terminal with
    | some decision => pure (decision, controller)
    | none =>
      let (arrived, dispatch) := controller.toDispatch.observeWaypoints metric previous observation
      let controller := controller.withDispatch dispatch
      let distance := dispatch.distance metric observation
      if arrived then pure (controller.complete observation distance)
      else pure ((controller.pauseProgress metric observation).wait observation distance)

end Steps

/-! ## Proposals -/

section Proposals

variable (observation : TravelObservation K) (controller : TravelController params)

/-- `propose`.  A step that raises changes nothing, so its state need not be restored. -/
def propose : Except TravelFault (TravelDecision K × TravelController params) := do
  if controller.proposal.isSome then throw .unresolvedProposal
  else
    let (decision, controller) ←
      { controller with proposalCheckpoint := some controller.toDispatch }.step metric observation
    pure (decision,
      { controller with
        proposal := controller.proposalCheckpoint.map (fun checkpoint => (checkpoint, decision))
        proposalCheckpoint := none })

/-- `_require_proposal`; the identity of the decision object is read as equality. -/
def requireProposal (decision : TravelDecision K) : Except TravelFault (Dispatch params) :=
  match controller.proposal with
  | some (checkpoint, proposed) =>
    if proposed = decision then .ok checkpoint else .error .unmatchedProposal
  | none => .error .unmatchedProposal

/-- `acknowledge_dispatch`. -/
def acknowledgeDispatch (decision : TravelDecision K) :
    Except TravelFault (TravelController params) := do
  let _ ← controller.requireProposal decision
  pure { controller with proposal := none }

/-- `defer_dispatch`. -/
def deferDispatch (decision : TravelDecision K) :
    Except TravelFault (TravelDecision K × TravelController params) := do
  let checkpoint ← controller.requireProposal decision
  let controller :=
    { controller.withDispatch checkpoint with proposal := none }.pauseProgress metric observation
  pure (decision.withdrawn controller.waypointIndex controller.clickCount, controller)

/-- `stop`. -/
def stop (reason : String) (observation : Option (TravelObservation K)) :
    Except TravelFault (TravelDecision K × TravelController params) :=
  if !nonblank reason then .error .blankReason
  else
    match controller.terminal with
    | some decision => .ok (decision, controller)
    | none =>
      let nowMs := match observation with
        | some observation => observation.nowMs
        | none => controller.startedAtMs.getD 0
      let distance := match observation with
        | some observation => controller.toDispatch.distance metric observation
        | none => 0
      let decision : TravelDecision K :=
        { decisionId := controller.decisionId
          nowMs := nowMs
          waypointIndex := controller.waypointIndex.val
          distanceRemaining := distance
          clickCount := controller.clickCount
          status := .stopped reason }
      .ok (decision,
        { controller with decisionId := controller.decisionId + 1, terminal := some decision })

end Proposals

end TravelController

end ShadowbaneLab
