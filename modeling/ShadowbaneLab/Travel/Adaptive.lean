/-
# The adaptive route controller

`AStarTravelController` (`src/shadowbane_lab/travel/adaptive.py`): it plans routes over the
map that a navigation source shows it, lets a follower walk each of them, and plans again.
Followers and maps are objects that several owners share, so both live in stores and are
referred to by index.  Diagnostic events are left out.
-/
import ShadowbaneLab.Travel.Controller
import ShadowbaneLab.Travel.Planning

namespace ShadowbaneLab

open Foundation

/-! ## Snapshots -/

structure NavigationPlanningWindow (K : Type) [Field K] [LinearOrder K] where
  centerLt : K
  centerLg : K
  radius : K
  refreshDistance : K
  refreshDistance_ok : 0 < refreshDistance ∧ refreshDistance < radius

/-- `NavigationMapSnapshot`, with the index of its map. -/
structure NavigationMapSnapshot (K : Type) [Field K] [LinearOrder K] where
  token : String
  navigationMap : ℕ
  planningWindow : Option (NavigationPlanningWindow K) := none
  token_ok : Identifier token

/-- What the navigation source answers: a snapshot, and the maps as they then are. -/
structure Sighting (K : Type) [Field K] [LinearOrder K] where
  snapshot : NavigationMapSnapshot K
  maps : ℕ → SparseNavigationMap K

/-! ## Routes -/

inductive RouteMode where
  | astarPartial
  | astarFinal
  | astarHorizon
  | astarRefinedFinal
  | astarRefinedHorizon
  | astarRefinedLocal
  deriving DecidableEq, Repr

/-- Why a route is planned. -/
inductive PlanReason where
  | terrainRefresh
  | routeCorridorChanged
  | frontierComplete
  | learnedObstacle
  deriving DecidableEq, Repr

def PlanReason.text : PlanReason → String
  | .terrainRefresh => "terrain_refresh"
  | .routeCorridorChanged => "route_corridor_changed"
  | .frontierComplete => "frontier_complete"
  | .learnedObstacle => "learned_obstacle"

variable {K : Type} [Field K] [LinearOrder K]

/-- What a controller is constructed with. -/
structure RouteParameters (K : Type) [Field K] [LinearOrder K] where
  destination : TravelDestination K
  config : TravelControllerConfig K
  planner : WeightedAStarConfig K
  maximumReplans : ℕ := 12
  planId : String := "go:astar"
  maximumReplans_pos : 0 < maximumReplans
  planId_ok : Identifier planId

/-- The position of an observation, as a point. -/
def TravelObservation.point (observation : TravelObservation K) : PlanarVector K :=
  ⟨observation.position.lt, observation.position.lg⟩

namespace NavigationPlanningWindow

variable (metric : Metric K) (window : NavigationPlanningWindow K)

/-- `contains`. -/
def contains (destination : TravelDestination K) : Prop :=
  metric.hypot (destination.lt - window.centerLt) (destination.lg - window.centerLg) ≤ window.radius

instance (destination : TravelDestination K) : Decidable (window.contains metric destination) :=
  inferInstanceAs (Decidable (_ ≤ _))

end NavigationPlanningWindow

section Planning

variable (metric : Metric K) (params : RouteParameters K)

/-- The radius of a horizon. -/
def localRadius (navigation : SparseNavigationMap K) : K :=
  max 5 (navigation.cellSize * params.planner.waypointRadiusFraction)

variable [IsStrictOrderedRing K]

theorem localRadius_pos (navigation : SparseNavigationMap K) : 0 < localRadius params navigation :=
  lt_max_of_lt_left (by norm_num)

/-- How far away the horizon of a planning window is, in a direction. -/
def horizonDistance (navigation : SparseNavigationMap K) (window : NavigationPlanningWindow K)
    (position direction : PlanarVector K) : K :=
  let offsetLt := position.x - window.centerLt
  let offsetLg := position.y - window.centerLg
  let targetRadius := window.refreshDistance + (window.radius - window.refreshDistance) * (1 / 2)
  let projection := offsetLt * direction.x + offsetLg * direction.y
  let discriminant := projection * projection + targetRadius * targetRadius -
    offsetLt * offsetLt - offsetLg * offsetLg
  if discriminant ≤ 0 then max (localRadius params navigation * 2) (navigation.cellSize * 2)
  else max (localRadius params navigation * 2) (-projection + metric.sqrt discriminant)

/-- `_planning_destination`. -/
def planningDestination (navigation : SparseNavigationMap K)
    (window : Option (NavigationPlanningWindow K)) (position : PlanarVector K) :
    TravelDestination K :=
  match window with
  | none => params.destination
  | some window =>
    if window.contains metric params.destination then params.destination
    else
      let deltaLt := params.destination.lt - position.x
      let deltaLg := params.destination.lg - position.y
      let distance := metric.hypot deltaLt deltaLg
      if distance = 0 then params.destination
      else
        let direction : PlanarVector K := ⟨deltaLt / distance, deltaLg / distance⟩
        let horizon := horizonDistance metric params navigation window position direction
        if distance ≤ horizon then params.destination
        else
          ⟨position.x + direction.x * horizon, position.y + direction.y * horizon,
            localRadius params navigation, localRadius_pos params navigation⟩

/-- The last destination of a route. -/
def AStarRoute.finalDestination (route : AStarRoute K) : TravelDestination K :=
  route.destinations.getLast route.destinations_ne

/-- The next waypoint of a route that a position is not within the radius of, or else the
last one. -/
def AStarRoute.nextTurn (route : AStarRoute K) (position : PlanarVector K) : TravelDestination K :=
  (route.destinations.find? (fun waypoint =>
    waypoint.arrivalRadius < metric.hypot (waypoint.lt - position.x) (waypoint.lg - position.y))).getD
      route.finalDestination

/-- A planned route: whether it reaches the destination of the controller, and its mode. -/
structure PlannedRoute (K : Type) [Field K] [LinearOrder K] where
  route : AStarRoute K
  reachesDestination : Bool
  mode : RouteMode

variable [FloorRing K]

/-- The route of `_plan`, which is refined near a learned obstacle; where that fails, the source
plans the same route once more. -/
def chooseRoute (navigation : SparseNavigationMap K) (window : Option (NavigationPlanningWindow K))
    (position : PlanarVector K) (reason : PlanReason) : Except PlanFault (PlannedRoute K) :=
  let planning := planningDestination metric params navigation window position
  let reaches : Bool := planning = params.destination
  let mode : RouteMode := if reaches then .astarFinal else .astarHorizon
  match plan metric params.planner navigation position planning with
  | .error (.routeNotFound message) =>
    if reaches then .error (.routeNotFound message)
    else do
      let route ← planReachableFrontier metric params.planner navigation position planning
      pure ⟨route, false, .astarPartial⟩
  | .error fault => .error fault
  | .ok route =>
    if reason = .learnedObstacle then
      match planRefined metric params.planner navigation position (route.nextTurn metric position)
          (some (navigation.cellSize * 6)) with
      | .error (.routeNotFound _) => .ok ⟨route, reaches, mode⟩
      | .error fault => .error fault
      | .ok refined =>
        let reachesPlanning : Bool := refined.finalDestination = planning
        .ok ⟨refined, reaches && reachesPlanning,
          if reaches && reachesPlanning then .astarRefinedFinal
          else if reachesPlanning then .astarRefinedHorizon
          else .astarRefinedLocal⟩
    else .ok ⟨route, reaches, mode⟩

end Planning

/-! ## The state of the controller -/

/-- A follower, with what it was constructed with. -/
structure Follower (K : Type) [Field K] [LinearOrder K] where
  params : TravelParameters K
  controller : TravelController params

/-- `_RouteDispatchCheckpoint`: the state that a proposal owns. -/
structure RouteDispatch (K : Type) [Field K] [LinearOrder K] where
  navigation : Option (NavigationMapSnapshot K) := none
  travel : Option ℕ := none
  clickCount : ℕ := 0
  attemptCount : ℕ := 0
  replanCount : ℕ := 0
  directFallbackCount : ℕ := 0
  partialRouteCount : ℕ := 0
  routeMode : Option RouteMode := none
  travelReachesDestination : Bool := false
  backtrackPending : Bool := false
  terminal : Option (TravelDecision K) := none

structure AStarTravelController (K : Type) [Field K] [LinearOrder K] extends RouteDispatch K where
  followers : List (Follower K) := []
  maps : ℕ → SparseNavigationMap K
  startedAtMs : Option ℕ := none
  decisionId : ℕ := 0
  proposalState : Option (RouteDispatch K) := none
  proposalDecision : Option (TravelDecision K) := none
  followerProposals : List (ℕ × TravelDecision K) := []
  proposedBlock : Option (NavigationMapSnapshot K × TravelObservation K × TravelDestination K) := none
  lastObservationMs : Option ℕ := none

/-- The errors a call raises: those of a follower, of planning, of learning an obstacle, and
a failed assertion. -/
inductive RouteFault where
  | travel (fault : TravelFault)
  | planning (fault : PlanFault)
  | learning (fault : SparseNavigationMap.LearningFault)
  | assertion
  deriving DecidableEq, Repr

/-- A call, which keeps what it did before it raised. -/
abbrev RouteCall (K : Type) [Field K] [LinearOrder K] (α : Type) : Type :=
  EStateM RouteFault (AStarTravelController K) α

/-- A step so far: it is over, or goes on with the decision of a follower. -/
inductive RouteProgress (K : Type) [Field K] [LinearOrder K] where
  | ended (decision : TravelDecision K)
  | going (decision : TravelDecision K)

namespace AStarTravelController

/-! ## Followers -/

section Followers

/-- Call a method of a follower; one that raises leaves it as it was. -/
def onFollower {α : Type} (index : ℕ)
    (method : {params : TravelParameters K} → TravelController params →
      Except TravelFault (α × TravelController params)) : RouteCall K α := do
  match (← get).followers[index]? with
  | none => throw .assertion
  | some follower =>
    match method follower.controller with
    | .error fault => throw (.travel fault)
    | .ok (answer, controller) =>
      modify (fun c => { c with followers := c.followers.set index ⟨follower.params, controller⟩ })
      pure answer

variable (metric : Metric K)

/-- `_step_follower`. -/
def stepFollower (observation : TravelObservation K) : RouteCall K (TravelDecision K) := do
  let controller ← get
  match controller.travel with
  | none => throw .assertion
  | some index =>
    if controller.proposalState.isNone then
      onFollower index (TravelController.step metric observation)
    else do
      let decision ← onFollower index (TravelController.propose metric observation)
      modify (fun c => { c with followerProposals := c.followerProposals ++ [(index, decision)] })
      pure decision

/-- Defer the proposals of the followers. -/
def deferFollowers (observation : TravelObservation K) : RouteCall K PUnit := do
  (← get).followerProposals.forM (fun proposal => do
    let _ ← onFollower proposal.1 (fun follower =>
      follower.deferDispatch metric observation proposal.2)
    pure ⟨⟩)

/-- Acknowledge the proposals of the followers. -/
def acknowledgeFollowers : RouteCall K PUnit := do
  (← get).followerProposals.forM (fun proposal =>
    onFollower proposal.1 (fun follower => do
      let acknowledged ← follower.acknowledgeDispatch proposal.2
      pure (⟨⟩, acknowledged)))

end Followers

/-! ## Decisions -/

section Decisions

/-- `_translate`. -/
def translate (decision : TravelDecision K) : RouteCall K (TravelDecision K) :=
  modifyGet (fun c =>
    let clickCount := if decision.command.isSome then c.clickCount + 1 else c.clickCount
    let translated := { decision with decisionId := c.decisionId, clickCount := clickCount }
    (translated, { c with
      decisionId := c.decisionId + 1
      clickCount := clickCount
      attemptCount :=
        if decision.command.any (fun command => !command.progressRefresh) then c.attemptCount + 1
        else c.attemptCount
      terminal := if translated.terminal then some translated else c.terminal }))

variable (metric : Metric K) (params : RouteParameters K)

/-- End the route with a decision of the controller's own. -/
def finish (reason : String) (observation : Option (TravelObservation K)) :
    RouteCall K (TravelDecision K) :=
  modifyGet (fun c =>
    let decision : TravelDecision K :=
      { decisionId := c.decisionId
        nowMs := match observation with
          | some observation => observation.nowMs
          | none => 0
        waypointIndex := 0
        distanceRemaining := match observation with
          | some observation => params.destination.distanceFrom metric observation.position
          | none => 0
        clickCount := c.clickCount
        status := .stopped reason }
    (decision, { c with decisionId := c.decisionId + 1, terminal := some decision }))

/-- `_stop`. -/
def halt (reason : String) (observation : Option (TravelObservation K)) :
    RouteCall K (TravelDecision K) := do
  match (← get).travel with
  | none => finish metric params reason observation
  | some index =>
    let internal ← onFollower index (fun follower => follower.stop metric reason observation)
    if internal.phase = .stopped then translate internal
    else finish metric params reason observation

/-- Why an observation ends the route, if it does. -/
def boundary (controller : AStarTravelController K) (observation : TravelObservation K) :
    Option String :=
  if controller.startedAtMs.getD observation.nowMs + params.config.maximumSessionMs ≤
      observation.nowMs then some "session_timeout"
  else if observation.healthFraction < params.config.minimumHealthFraction then
    some "low_player_health"
  else if params.config.maximumClicks ≤ controller.attemptCount then some "maximum_clicks"
  else none

/-- `_observe_bounds`. -/
def observeBounds (observation : TravelObservation K) : RouteCall K (Option (TravelDecision K)) := do
  let controller ← get
  match controller.terminal with
  | some terminal => pure (some terminal)
  | none =>
    if controller.lastObservationMs.any (fun last => observation.nowMs < last) then
      throw (.travel .timeBackwards)
    else do
      modify (fun c => { c with
        lastObservationMs := some observation.nowMs
        startedAtMs := some (c.startedAtMs.getD observation.nowMs) })
      match controller.boundary params observation with
      | some reason => do
        let decision ← halt metric params reason (some observation)
        pure (some decision)
      | none => pure none

end Decisions

/-! ## Planning -/

section Plans

variable [IsStrictOrderedRing K] [FloorRing K] (metric : Metric K) (params : RouteParameters K)

/-- The identifier of a plan. -/
def planIdFor (reason : PlanReason) (replanCount : ℕ) (token : String) : String :=
  params.planId ++ (":" ++ reason.text ++ ":" ++ toString replanCount ++ ":" ++ token)

/-- The follower of a planned route. -/
def followerOf (route : AStarRoute K) (planId : String) (planId_ok : Identifier planId) :
    Follower K where
  params :=
    { plan := ⟨planId, route.destinations, planId_ok, route.destinations_ne⟩
      config := params.config
      shortcutClear := some (route.grid.shortcutClear metric) }
  controller := {}

/-- `_plan`: the follower of a new route takes over, or the message of a failed search. -/
def plan (observation : TravelObservation K) (reason : PlanReason) :
    RouteCall K (Option String) := do
  let controller ← get
  match controller.navigation with
  | none => throw .assertion
  | some navigation =>
    match chooseRoute metric params (controller.maps navigation.navigationMap)
        navigation.planningWindow observation.point reason with
    | .error (.routeNotFound message) => pure (some message)
    | .error fault => throw (.planning fault)
    | .ok planned =>
      let follower := followerOf metric params planned.route
        (planIdFor params reason controller.replanCount navigation.token)
        (identifier_append_left params.planId_ok _)
      set { controller with
        followers := controller.followers ++ [follower]
        travel := some controller.followers.length
        travelReachesDestination := planned.reachesDestination
        routeMode := some planned.mode
        partialRouteCount :=
          if planned.mode = RouteMode.astarPartial then controller.partialRouteCount + 1
          else controller.partialRouteCount }
      pure none

/-- `" ".join(message.split())`. -/
def normalizeSpaces (message : String) : String :=
  " ".intercalate (((message.toList.splitOnP isSpace).filter (· ≠ [])).map String.ofList)

/-- `_route_failure`. -/
def routeFailure (message : String) : String :=
  if normalizeSpaces message = "" then "astar_route_not_found"
  else "astar_route_not_found:" ++ normalizeSpaces message

/-- Plan a route; a failed search ends the route. -/
def planOrStop (observation : TravelObservation K) (reason : PlanReason) :
    RouteCall K (Option (TravelDecision K)) := do
  match ← plan metric params observation reason with
  | none => pure none
  | some message => do
    let decision ← halt metric params (routeFailure message) (some observation)
    pure (some decision)

/-- Plan a route again, and step its follower. -/
def replan (observation : TravelObservation K) (reason : PlanReason) :
    RouteCall K (RouteProgress K) := do
  match ← planOrStop metric params observation reason with
  | some stopped => pure (.ended stopped)
  | none => do
    modify (fun c => { c with replanCount := c.replanCount + 1 })
    let decision ← stepFollower metric observation
    pure (.going decision)

/-- Plan a route again, unless that was done too often. -/
def replanWithin (observation : TravelObservation K) (reason : PlanReason) :
    RouteCall K (RouteProgress K) := do
  if params.maximumReplans ≤ (← get).replanCount then do
    let decision ← halt metric params "maximum_replans" (some observation)
    pure (.ended decision)
  else replan metric params observation reason

end Plans

/-! ## Steps -/

section Steps

variable [IsStrictOrderedRing K] [FloorRing K] (metric : Metric K) (params : RouteParameters K)
  (sighting : Sighting K) (observation : TravelObservation K)

/-- Whether a sighting makes the controller plan from it. -/
def refreshes (controller : AStarTravelController K) : Bool :=
  controller.travel.isNone ||
    controller.navigation.any (fun navigation => sighting.snapshot.token ≠ navigation.token)

/-- Observe the terrain, and plan a route when it is new. -/
def observeTerrain : RouteCall K (Option (TravelDecision K)) := do
  modify (fun c => { c with maps := sighting.maps })
  if refreshes sighting (← get) then do
    modify (fun c => { c with navigation := some sighting.snapshot, backtrackPending := false })
    planOrStop metric params observation .terrainRefresh
  else pure none

/-- Leave a blocked corridor. -/
def leaveCorridor (decision : TravelDecision K) : RouteCall K (RouteProgress K) :=
  if decision.terminalReason = some "route_corridor_blocked" then
    replanWithin metric params observation .routeCorridorChanged
  else pure (.going decision)

/-- Go on from the end of a route that does not reach the destination. -/
def passFrontier (decision : TravelDecision K) : RouteCall K (RouteProgress K) := do
  if decision.phase = .complete ∧ !(← get).travelReachesDestination then
    replanWithin metric params observation .frontierComplete
  else pure (.going decision)

/-- `mark_blocked_ahead` on a map of the store. -/
def markBlocked (navigation : NavigationMapSnapshot K) (position : PlayerPosition K)
    (waypoint : TravelDestination K) : RouteCall K PUnit := do
  let controller ← get
  match (controller.maps navigation.navigationMap).markBlockedAhead metric position waypoint with
  | .error fault => throw (.learning fault)
  | .ok (_, learned) =>
    set { controller with
      maps := Function.update controller.maps navigation.navigationMap learned }

/-- The waypoint that a decision is about. -/
def activeWaypoint (decision : TravelDecision K) : RouteCall K (TravelDestination K) := do
  let controller ← get
  match controller.travel.bind (fun index => controller.followers[index]?) with
  | none => throw .assertion
  | some follower =>
    match follower.params.plan.destinations[decision.waypointIndex]? with
    | none => throw .assertion
    | some waypoint => pure waypoint

/-- Learn the obstacle that an escape backs away from: at once, or when the proposal is
acknowledged. -/
def learnObstacle (decision : TravelDecision K) : RouteCall K PUnit := do
  match (← get).navigation with
  | none => throw .assertion
  | some navigation => do
    let waypoint ← activeWaypoint decision
    if (← get).proposalState.isNone then markBlocked metric navigation observation.position waypoint
    else modify (fun c => { c with proposedBlock := some (navigation, observation, waypoint) })
    modify (fun c => { c with backtrackPending := true })

/-- Whether a decision is an escape that the controller reacts to. -/
def escapes (controller : AStarTravelController K) (decision : TravelDecision K) : Bool :=
  decision.command.any (fun command => command.maneuver ≠ .direct) &&
    decide (controller.replanCount < params.maximumReplans)

/-- React to an escape: learn the obstacle first, and plan around it next time. -/
def avoidObstacle (decision : TravelDecision K) : RouteCall K (TravelDecision K) := do
  let controller ← get
  if controller.escapes params decision then
    if !controller.backtrackPending then do
      learnObstacle metric observation decision
      translate decision
    else do
      modify (fun c => { c with backtrackPending := false })
      match ← replan metric params observation .learnedObstacle with
      | .ended stopped => pure stopped
      | .going decision => translate decision
  else do
    if decision.command.any (fun command => command.maneuver = .direct) then
      modify (fun c => { c with backtrackPending := false })
    translate decision

/-- A step, up to where it would pass the frontier. -/
def approach : RouteCall K (RouteProgress K) := do
  match ← observeBounds metric params observation with
  | some terminal => pure (.ended terminal)
  | none =>
    match ← observeTerrain metric params sighting observation with
    | some stopped => pure (.ended stopped)
    | none => do
      let decision ← stepFollower metric observation
      leaveCorridor metric params observation decision

/-- `step`. -/
def step : RouteCall K (TravelDecision K) := do
  match ← approach metric params sighting observation with
  | .ended decision => pure decision
  | .going decision =>
    match ← passFrontier metric params observation decision with
    | .ended stopped => pure stopped
    | .going decision => avoidObstacle metric params observation decision

end Steps

/-! ## Calls -/

section Calls

variable [IsStrictOrderedRing K] [FloorRing K] (metric : Metric K) (params : RouteParameters K)
  (sighting : Sighting K) (observation : TravelObservation K)

/-- `_clear_proposal`. -/
def clearProposal (controller : AStarTravelController K) : AStarTravelController K :=
  { controller with
    proposalState := none
    proposalDecision := none
    followerProposals := []
    proposedBlock := none }

/-- Undo a proposal: of the followers, then of the controller. -/
def rewind : RouteCall K PUnit := do
  deferFollowers metric observation
  let controller ← get
  match controller.proposalState with
  | none => throw .assertion
  | some checkpoint => set { controller with toRouteDispatch := checkpoint }.clearProposal

/-- `propose`. -/
def propose : RouteCall K (TravelDecision K) := do
  let controller ← get
  if controller.proposalState.isSome then throw (.travel .unresolvedProposal)
  else do
    set { controller with proposalState := some controller.toRouteDispatch }
    let decision ← tryCatch (step metric params sighting observation) (fun fault => do
      rewind metric observation
      throw fault)
    modify (fun c => { c with proposalDecision := some decision })
    pure decision

/-- `_require_proposal`; the identity of the decision object is read as equality. -/
def requireProposal (decision : TravelDecision K) : RouteCall K PUnit := do
  let controller ← get
  if controller.proposalState.isNone ∨ controller.proposalDecision ≠ some decision then
    throw (.travel .unmatchedProposal)

/-- `acknowledge_dispatch`. -/
def acknowledgeDispatch (decision : TravelDecision K) : RouteCall K PUnit := do
  requireProposal decision
  acknowledgeFollowers
  match (← get).proposedBlock with
  | some (navigation, observation, waypoint) =>
    markBlocked metric navigation observation.position waypoint
  | none => pure ⟨⟩
  modify clearProposal

/-- `defer_dispatch`. -/
def deferDispatch (decision : TravelDecision K) : RouteCall K (TravelDecision K) := do
  requireProposal decision
  rewind metric observation
  let controller ← get
  pure (decision.withdrawn decision.waypointIndex controller.clickCount)

/-- `observe_deferred`. -/
def observeDeferred : RouteCall K (TravelDecision K) := do
  if (← get).proposalState.isSome then throw (.travel .unresolvedProposal)
  else
    match ← observeBounds metric params observation with
    | some terminal => pure terminal
    | none =>
      match (← get).travel with
      | some index => do
        let decision ← onFollower index (TravelController.observeDeferred metric observation)
        if decision.phase = .complete ∧ !(← get).travelReachesDestination then
          -- a pause may carry the player onto a horizon: that is no arrival
          translate { decision with status := .traveling none }
        else translate decision
      | none =>
        modifyGet (fun c =>
          ({ decisionId := c.decisionId
             nowMs := observation.nowMs
             waypointIndex := 0
             distanceRemaining := params.destination.distanceFrom metric observation.position
             clickCount := c.clickCount
             status := .traveling none },
            { c with decisionId := c.decisionId + 1 }))

/-- `stop`. -/
def stop (reason : String) (observation : Option (TravelObservation K)) :
    RouteCall K (TravelDecision K) := do
  if !nonblank reason then throw (.travel .blankReason)
  else
    match (← get).terminal with
    | some terminal => pure terminal
    | none => halt metric params reason observation

end Calls

end AStarTravelController

end ShadowbaneLab
