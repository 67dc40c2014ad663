/-
# Arrival is claimed at the destination

In every run of the route controller, the first decision that reports arrival is made within
the radius of the destination, unless a step plans again and the new route ends short of the
destination where the player already is (`arrival_claimed`).
-/
import ShadowbaneLab.Foundation.Stateful
import ShadowbaneLab.Travel.Follower
import ShadowbaneLab.Travel.RouteRuns

namespace ShadowbaneLab

open Foundation List

variable {K : Type} [Field K] [LinearOrder K] {metric : Metric K}

/-! ## Followers that arrive -/

section FreshFollowers

variable {params : TravelParameters K} {observation : TravelObservation K}
  {controller controller' : TravelController params} {decision : TravelDecision K}

/-- Without an earlier observation, waypoints are passed where they are reached. -/
theorem Dispatch.passWaypoints_fresh (remaining : ℕ) :
    ∀ (dispatch : Dispatch params)
      (h : dispatch.waypointIndex.val + remaining + 1 = params.plan.destinations.length),
      (dispatch.passWaypoints metric none observation remaining h).1 = true ↔
        ∀ index : params.Waypoint, dispatch.waypointIndex ≤ index →
          (params.destination index).Reached metric observation.position := by
  induction remaining with
  | zero =>
    intro dispatch h
    have hlast (index : params.Waypoint) (hle : dispatch.waypointIndex ≤ index) :
        index = dispatch.waypointIndex := by
      apply Fin.ext
      have hlt := index.isLt
      have hval : dispatch.waypointIndex.val ≤ index.val := hle
      omega
    simp only [passWaypoints, atWaypoint, Bool.not_true, Bool.false_and, Bool.or_false,
      decide_eq_true_eq]
    constructor
    · intro hreached index hle
      rw [hlast index hle]
      exact hreached
    · intro hall
      exact hall _ le_rfl
  | succ remaining ih =>
    intro dispatch h
    unfold passWaypoints
    simp only [atWaypoint, passedWaypoint, Bool.and_false, Bool.or_false, decide_eq_true_eq]
    split
    next hreached =>
      rw [ih]
      constructor
      · intro hall index hle
        rcases hle.eq_or_lt with rfl | hlt
        · exact hreached
        · exact hall index hlt
      · intro hall index hle
        exact hall index (Fin.le_def.mpr (Nat.le_of_succ_le hle))
    next hnot => exact iff_of_false Bool.false_ne_true (fun hall => hnot (hall _ le_rfl))

/-- A follower that has not observed anything. -/
structure TravelController.Fresh (controller : TravelController params) : Prop where
  index : controller.waypointIndex = ⟨0, params.destinations_pos⟩
  handoff : controller.handoffTarget = none
  ended : controller.terminal = none
  unseen : controller.previousObservation = none
  unstarted : controller.startedAtMs = none
  unproposed : controller.proposal = none

/-- A fresh follower arrives where it is within the radius of all its destinations. -/
theorem TravelController.Fresh.arrives (fresh : controller.Fresh) (headed : controller.Headed)
    (healthy : ¬ observation.healthFraction < params.config.minimumHealthFraction)
    (h : controller.step metric observation = .ok (decision, controller')) :
    decision.phase = .complete ↔
      ∀ destination ∈ params.plan.destinations, destination.Reached metric observation.position := by
  have hbounds : ¬ controller.OutOfBounds observation := by
    rintro (hsession | hhealth)
    · rw [fresh.unstarted, Option.getD_none] at hsession
      have hmaximum : 0 < params.config.maximumSessionMs := params.config.counts_ok _ (by simp)
      omega
    · exact healthy hhealth
  have hall : (∀ destination ∈ params.plan.destinations,
        destination.Reached metric observation.position) ↔
      ∀ index : params.Waypoint, (⟨0, params.destinations_pos⟩ : params.Waypoint) ≤ index →
        (params.destination index).Reached metric observation.position := by
    rw [forall_mem_iff_get]
    exact forall_congr' (fun index => ⟨fun hreached _ => hreached, fun hreached =>
      hreached (Nat.zero_le _)⟩)
  obtain ⟨⟨terminal, seen⟩, hobserve, h⟩ := bind_eq_ok.mp h
  rcases observe_cases hobserve with ⟨hterminal, hsome, rfl⟩ | ⟨seen', hseen, hcases⟩
  · rw [← hterminal, fresh.ended] at hsome
    cases hsome
  rcases hcases with ⟨hout, _⟩ | ⟨_, rfl, rfl⟩
  · exact absurd hout hbounds
  dsimp only at h
  have hpassing : (seen.toDispatch.observeWaypoints metric controller.previousObservation
      observation).1 = true ↔ ∀ destination ∈ params.plan.destinations,
        destination.Reached metric observation.position := by
    rw [hall, hseen.dispatch, fresh.unseen]
    unfold Dispatch.observeWaypoints
    simp only [fresh.handoff]
    rw [Dispatch.passWaypoints_fresh, fresh.index]
  generalize hwaypoints : seen.toDispatch.observeWaypoints metric controller.previousObservation
    observation = waypoints at h hpassing
  obtain ⟨arrived, dispatch⟩ := waypoints
  obtain ⟨hpassed, _⟩ := hseen.stepped hbounds hwaypoints
  rw [← hpassing]
  cases arrived with
  | true =>
    cases h
    exact iff_of_true rfl rfl
  | false =>
    have hresult := Except.ok.inj h
    have hsent : Sent observation
        ((seen.withDispatch dispatch).resume metric observation).rememberPassage
        (decision, controller') := hresult ▸
      proceed_sent (hpassed.away rfl) (hpassed.headed headed)
    exact iff_of_false hsent.traveling Bool.false_ne_true

/-- A fresh follower takes any observation. -/
theorem TravelController.Fresh.steps (fresh : controller.Fresh) (metric : Metric K)
    (observation : TravelObservation K) :
    ∃ result, controller.step metric observation = .ok result := by
  have hobserve : ∃ terminal seen, controller.observe metric observation = .ok (terminal, seen) := by
    unfold observe
    rw [fresh.ended, fresh.unseen]
    dsimp only
    rw [if_neg (by simp)]
    split
    · exact ⟨_, _, rfl⟩
    split
    · exact ⟨_, _, rfl⟩
    · exact ⟨_, _, rfl⟩
  obtain ⟨terminal, seen, hobserve⟩ := hobserve
  cases terminal with
  | some decision => exact ⟨_, bind_eq_ok.mpr ⟨_, hobserve, rfl⟩⟩
  | none =>
    by_cases harrived : (seen.toDispatch.observeWaypoints metric controller.previousObservation
        observation).1 = true
    · exact ⟨_, bind_eq_ok.mpr ⟨_, hobserve, if_pos harrived⟩⟩
    · exact ⟨_, bind_eq_ok.mpr ⟨_, hobserve, if_neg harrived⟩⟩

theorem TravelController.Fresh.offers (fresh : controller.Fresh) (metric : Metric K)
    (observation : TravelObservation K) :
    ∃ result, controller.propose metric observation = .ok result := by
  have hfresh : { controller with proposalCheckpoint := some controller.toDispatch }.Fresh :=
    ⟨fresh.index, fresh.handoff, fresh.ended, fresh.unseen, fresh.unstarted, fresh.unproposed⟩
  obtain ⟨result, hstep⟩ := hfresh.steps metric observation
  unfold propose
  rw [if_neg (by rw [fresh.unproposed]; simp)]
  exact ⟨_, bind_eq_ok.mpr ⟨result, hstep, rfl⟩⟩

end FreshFollowers

/-! ## Followers of a route controller -/

namespace TravelController

variable {params : TravelParameters K} {observation : TravelObservation K}
  {controller controller' : TravelController params} {decision : TravelDecision K}

/-- A follower escapes in some direction, also after its proposal is deferred. -/
structure Sound (controller : TravelController params) : Prop where
  headed : controller.Headed
  checkpoint : ∀ proposal ∈ controller.proposal, proposal.1.Headed

/-- A follower has not claimed to arrive, nor has it after its proposal is deferred. -/
structure Underway (controller : TravelController params) : Prop where
  ended : ∀ terminal ∈ controller.terminal, terminal.phase ≠ .complete
  checkpoint : ∀ proposal ∈ controller.proposal, ∀ terminal ∈ proposal.1.terminal,
    terminal.phase ≠ .complete

/-- What one of its calls with an observation does to a follower. -/
structure Moves (metric : Metric K) (observation : TravelObservation K)
    (controller : TravelController params) (decision : TravelDecision K)
    (controller' : TravelController params) : Prop where
  sound : controller.Sound → controller'.Sound
  underway : controller.Underway → decision.phase ≠ .complete → controller'.Underway
  arrived : controller.Underway → decision.phase = .complete →
    params.finalDestination.Reached metric observation.position

theorem Stepped.moves (h : Stepped metric observation controller decision controller')
    (hproposal : ∀ proposal ∈ controller'.proposal, proposal ∈ controller.proposal ∨
      (controller.Headed → proposal.1.Headed) ∧ proposal.1.terminal = none) :
    Moves metric observation controller decision controller' where
  sound hsound := ⟨h.headed hsound.headed, fun proposal hmem =>
    (hproposal proposal hmem).elim (hsound.checkpoint proposal)
      (fun hnew => hnew.1 hsound.headed)⟩
  underway hunderway hphase := ⟨fun terminal hterminal => (h.ended terminal hterminal).1 ▸ hphase,
    fun proposal hmem => (hproposal proposal hmem).elim (hunderway.checkpoint proposal)
      (fun hnew _ hterminal => absurd (hnew.2.symm.trans hterminal) nofun)⟩
  arrived _ hphase := (h.arrived hphase).1

/-- A route that has ended answers with its end. -/
theorem moves_of_ended (hterminal : controller.terminal = some decision)
    (hsame : controller'.toDispatch = controller.toDispatch)
    (hproposal : ∀ proposal ∈ controller'.proposal,
      proposal ∈ controller.proposal ∨ proposal.1 = controller.toDispatch) :
    Moves metric observation controller decision controller' where
  sound hsound := ⟨by rw [hsame]; exact hsound.headed, fun proposal hmem =>
    (hproposal proposal hmem).elim (hsound.checkpoint proposal)
      (fun hnew => hnew ▸ hsound.headed)⟩
  underway hunderway hphase := ⟨by rw [hsame]; exact hunderway.ended, fun proposal hmem =>
    (hproposal proposal hmem).elim (hunderway.checkpoint proposal)
      (fun hnew => hnew ▸ hunderway.ended)⟩
  arrived hunderway hphase := absurd hphase (hunderway.ended decision hterminal)

theorem step_moves (headed : controller.Headed)
    (h : controller.step metric observation = .ok (decision, controller')) :
    Moves metric observation controller decision controller' := by
  rcases step_cases headed h with ⟨hterminal, rfl⟩ | ⟨hstepped, hproposal, _⟩
  · exact moves_of_ended hterminal rfl (fun _ => .inl)
  · exact hstepped.moves (fun proposal hmem => .inl (hproposal ▸ hmem))

theorem observeDeferred_moves (headed : controller.Headed)
    (h : controller.observeDeferred metric observation = .ok (decision, controller')) :
    Moves metric observation controller decision controller' := by
  rcases observeDeferred_cases headed h with ⟨hterminal, rfl⟩ | ⟨hstepped, hproposal, _⟩
  · exact moves_of_ended hterminal rfl (fun _ => .inl)
  · exact hstepped.moves (fun proposal hmem => .inl (hproposal ▸ hmem))

theorem propose_moves (headed : controller.Headed)
    (h : controller.propose metric observation = .ok (decision, controller')) :
    Moves metric observation controller decision controller' := by
  obtain ⟨_, ⟨hterminal, rfl⟩ | ⟨checkpoint, hstepped, hproposal, hcheckpoint⟩⟩ :=
    propose_cases headed h
  · refine moves_of_ended hterminal rfl (fun proposal hmem => .inr ?_)
    cases hmem
    rfl
  · refine hstepped.moves (fun proposal hmem => .inr ?_)
    cases Option.some.inj (hproposal.symm.trans hmem)
    exact ⟨hcheckpoint.headed, hcheckpoint.ended⟩

/-- A proposal of a fresh follower is a step of a fresh follower. -/
theorem Fresh.proposes (fresh : controller.Fresh) (headed : controller.Headed)
    (healthy : ¬ observation.healthFraction < params.config.minimumHealthFraction)
    (h : controller.propose metric observation = .ok (decision, controller')) :
    decision.phase = .complete ↔
      ∀ destination ∈ params.plan.destinations, destination.Reached metric observation.position := by
  unfold propose at h
  split at h
  · cases h
  · obtain ⟨⟨proposed, moved⟩, hstep, h⟩ := bind_eq_ok.mp h
    cases h
    have hfresh : { controller with proposalCheckpoint := some controller.toDispatch }.Fresh :=
      ⟨fresh.index, fresh.handoff, fresh.ended, fresh.unseen, fresh.unstarted, fresh.unproposed⟩
    exact hfresh.arrives headed healthy hstep

variable {proposed : TravelDecision K}

theorem deferDispatch_moves
    (h : controller.deferDispatch metric observation proposed = .ok (decision, controller')) :
    (controller.Sound → controller'.Sound) ∧ (controller.Underway → controller'.Underway) := by
  obtain ⟨checkpoint, hrequire, h⟩ := bind_eq_ok.mp h
  have hproposal := requireProposal_eq_ok hrequire
  cases h
  exact ⟨fun hsound => ⟨hsound.checkpoint _ hproposal, fun _ h => absurd h.symm (Option.some_ne_none _)⟩,
    fun hunderway => ⟨hunderway.checkpoint _ hproposal,
      fun _ h => absurd h.symm (Option.some_ne_none _)⟩⟩

theorem acknowledgeDispatch_moves (h : controller.acknowledgeDispatch proposed = .ok controller') :
    (controller.Sound → controller'.Sound) ∧ (controller.Underway → controller'.Underway) := by
  obtain ⟨checkpoint, _, h⟩ := bind_eq_ok.mp h
  cases h
  exact ⟨fun hsound => ⟨hsound.headed, fun _ h => absurd h.symm (Option.some_ne_none _)⟩,
    fun hunderway => ⟨hunderway.ended, fun _ h => absurd h.symm (Option.some_ne_none _)⟩⟩

theorem stop_moves {reason : String} {observation : Option (TravelObservation K)}
    (h : controller.stop metric reason observation = .ok (decision, controller')) :
    (controller.Sound → controller'.Sound) ∧ (controller.Underway → controller'.Underway) := by
  unfold stop at h
  split at h
  · cases h
  split at h
  · cases h
    exact ⟨id, id⟩
  · cases h
    exact ⟨fun hsound => ⟨hsound.headed, hsound.checkpoint⟩,
      fun hunderway => ⟨fun _ hterminal => Option.some.inj hterminal ▸ nofun,
        hunderway.checkpoint⟩⟩

variable (params : TravelParameters K)

theorem fresh_constructed : ({} : TravelController params).Fresh :=
  ⟨rfl, rfl, rfl, rfl, rfl, rfl⟩

theorem sound_constructed : ({} : TravelController params).Sound :=
  ⟨nofun, fun _ h => absurd h.symm (Option.some_ne_none _)⟩

theorem underway_constructed : ({} : TravelController params).Underway :=
  ⟨fun _ h => absurd h.symm (Option.some_ne_none _),
    fun _ h => absurd h.symm (Option.some_ne_none _)⟩

end TravelController

/-! ## Routes that reach their destination -/

variable {reason : PlanReason}

section Landing

/-- A route ends within the radius of a destination, or the position is there already and the
route is over at once. -/
def Lands (metric : Metric K) (position : PlanarVector K) (destination : TravelDestination K)
    (route : AStarRoute K) : Prop :=
  (∀ point, route.finalDestination.Reached metric point → destination.Reached metric point) ∨
    destination.Reached metric ⟨position.x, position.y⟩ ∧
      ∀ waypoint ∈ route.destinations, waypoint.Reached metric ⟨position.x, position.y⟩

variable {config : WeightedAStarConfig K} {navigation : SparseNavigationMap K}
  {grid : NavigationCostGrid K} {position : PlanarVector K} {destination : TravelDestination K}
  {route : AStarRoute K}

theorem make_eq_ok {point : PlanarVector K} {radius : K} {made : TravelDestination K}
    (h : TravelDestination.make point radius = .ok made) :
    made.lt = point.x ∧ made.lg = point.y ∧ made.arrivalRadius = radius := by
  unfold TravelDestination.make at h
  split at h
  · cases h
    exact ⟨rfl, rfl, rfl⟩
  · cases h

theorem AStarRoute.make_destinations {cells : List NavigationCell}
    {destinations : List (TravelDestination K)} {expandedCells : ℕ} {totalCost : K}
    (h : AStarRoute.make grid cells destinations expandedCells totalCost = .ok route) :
    route.destinations = destinations := by
  unfold make at h
  split at h
  · cases h
    rfl
  · cases h

variable {endpoint : TravelDestination K}

/-- The endpoint of a route to a blocked destination is well within its radius. -/
theorem blockedEndpoint_within [IsStrictOrderedRing K] {cell : NavigationCell}
    (h : blockedEndpoint metric grid cell destination = .ok endpoint) (point : PlayerPosition K)
    (hreached : endpoint.Reached metric point) : destination.Reached metric point := by
  obtain ⟨hlt, hlg, hradius⟩ := make_eq_ok h
  have hpositive := endpoint.arrivalRadius_pos
  unfold TravelDestination.Reached TravelDestination.distanceFrom at hreached ⊢
  rw [hlt, hlg] at hreached
  set arrival := arrivalPoint metric grid cell destination
  have hinside : endpoint.arrivalRadius ≤ (destination.arrivalRadius -
      metric.hypot (arrival.x - destination.lt) (arrival.y - destination.lg)) * (1 / 2) := by
    have hleast := hradius.le
    rw [le_min_iff, le_min_iff, le_min_iff, le_min_iff, le_min_iff] at hleast
    exact hleast.1.1.1.1.2
  have htriangle := metric.hypot_add_le (arrival.x - point.lt) (arrival.y - point.lg)
    (destination.lt - arrival.x) (destination.lg - arrival.y)
  have hsame : metric.hypot (destination.lt - arrival.x) (destination.lg - arrival.y) =
      metric.hypot (arrival.x - destination.lt) (arrival.y - destination.lg) := by
    rw [← metric.hypot_neg, neg_sub, neg_sub]
  rw [hsame, show arrival.x - point.lt + (destination.lt - arrival.x) = destination.lt - point.lt by
    ring, show arrival.y - point.lg + (destination.lg - arrival.y) = destination.lg - point.lg by
    ring] at htriangle
  linarith

variable [FloorRing K]

theorem planRoute_destinations
    (h : planRoute metric config navigation position destination = .ok route) :
    ∃ result endpoint before, planSearch metric config navigation (navigation.localGrid
          (navigation.cellFor position.x position.y)
          (navigation.cellFor destination.lt destination.lg) config) position destination =
            .ok (result, endpoint) ∧
        route.destinations = before ++ [endpoint] ∧ (result.path.length ≤ 1 → before = []) := by
  obtain ⟨⟨result, endpoint⟩, hsearched, h⟩ := bind_eq_ok.mp h
  obtain ⟨inner, hinner, h⟩ := bind_eq_ok.mp h
  have hshort (hle : result.path.length ≤ 1) : smooth metric.toDiagonal (navigation.localGrid
      (navigation.cellFor position.x position.y)
      (navigation.cellFor destination.lt destination.lg) config) result.path = result.path :=
    if_pos (hle.trans one_le_two)
  have hnone (hle : result.path.length ≤ 1) : inner = [] := by
    rw [hshort hle, show innerCells result.path = [] by
      cases hpath : result.path with
      | nil => rfl
      | cons first rest =>
        obtain rfl : rest = [] := length_eq_zero_iff.mp (by simpa [hpath] using hle)
        rfl] at hinner
    exact (Except.ok.inj hinner).symm
  split at h
  · split at h
    next hlast =>
      obtain ⟨waypoint, _, h⟩ := bind_eq_ok.mp h
      refine ⟨result, endpoint, inner ++ [waypoint], hsearched, AStarRoute.make_destinations h, ?_⟩
      intro hle
      rw [hshort hle] at hlast
      omega
    next =>
      exact ⟨result, endpoint, inner ++ [], hsearched, AStarRoute.make_destinations h,
        fun hle => by rw [hnone hle]; rfl⟩
  · exact ⟨result, endpoint, inner ++ [], hsearched, AStarRoute.make_destinations h,
      fun hle => by rw [hnone hle]; rfl⟩

omit [FloorRing K] in
theorem finalDestination_of_append {before : List (TravelDestination K)}
    (h : route.destinations = before ++ [endpoint]) : route.finalDestination = endpoint := by
  unfold AStarRoute.finalDestination
  simp only [h, getLast_append_singleton]

variable [IsStrictOrderedRing K]

theorem planRoute_lands (h : planRoute metric config navigation position destination = .ok route) :
    Lands metric position destination route := by
  obtain ⟨result, endpoint, before, hsearched, hdestinations, hbefore⟩ := planRoute_destinations h
  have hfinal := finalDestination_of_append hdestinations
  unfold planSearch at hsearched
  dsimp only at hsearched
  split at hsearched
  next hthere =>
    cases hsearched
    right
    refine ⟨hthere.2, ?_⟩
    rw [hdestinations, hbefore (le_refl 1)]
    intro waypoint hwaypoint
    rw [nil_append, mem_singleton] at hwaypoint
    subst hwaypoint
    unfold TravelDestination.Reached TravelDestination.distanceFrom
    rw [sub_self, sub_self, (metric.hypot_eq_zero 0 0).mpr ⟨rfl, rfl⟩]
    exact destination.arrivalRadius_pos.le
  left
  intro point hreached
  rw [hfinal] at hreached
  split at hsearched
  · obtain ⟨searched, _, hsearched⟩ := bind_eq_ok.mp hsearched
    split at hsearched
    · cases hsearched
    · obtain ⟨found, hendpoint, hsearched⟩ := bind_eq_ok.mp hsearched
      cases hsearched
      exact blockedEndpoint_within hendpoint point hreached
  · obtain ⟨searched, _, hsearched⟩ := bind_eq_ok.mp hsearched
    cases hsearched
    exact hreached

theorem refineLoop_lands {bounds : TerrainBounds K} {minimum : K} {fuel : ℕ}
    (h : refineLoop metric bounds minimum position destination fuel navigation config = .ok route) :
    Lands metric position destination route := by
  induction fuel generalizing navigation config with
  | zero => cases h
  | succ fuel ih =>
    unfold refineLoop at h
    split at h
    · split at h
      · cases h
      · dsimp only at h
        split at h
        · exact ih h
        next result _ => exact planRoute_lands h
    · cases h

theorem plan_lands (h : plan metric config navigation position destination = .ok route) :
    Lands metric position destination route := by
  unfold plan at h
  split at h
  · split at h
    · cases h
    · exact refineLoop_lands h
  · exact planRoute_lands h

/-- **A route that is said to reach the destination does.** -/
theorem chooseRoute_lands {params : RouteParameters K}
    {window : Option (NavigationPlanningWindow K)} {planned : PlannedRoute K}
    (h : chooseRoute metric params navigation window position reason = .ok planned)
    (hreaches : planned.reachesDestination = true) :
    Lands metric position params.destination planned.route := by
  unfold chooseRoute at h
  dsimp only at h
  generalize planningDestination metric params navigation window position = planning at h
  have hsame {flag : Bool} (hflag : decide (planning = params.destination) = flag)
      (htrue : flag = true) : planning = params.destination := of_decide_eq_true (hflag.trans htrue)
  split at h
  · split at h
    · cases h
    · obtain ⟨frontier, _, h⟩ := bind_eq_ok.mp h
      cases h
      cases hreaches
  · cases h
  next route hroute =>
    have hlands := plan_lands hroute
    split at h
    · split at h
      · cases h
        exact hsame rfl hreaches ▸ hlands
      · cases h
      next refined _ =>
        cases h
        rw [Bool.and_eq_true, decide_eq_true_eq, decide_eq_true_eq] at hreaches
        left
        intro point hreached
        rw [← hreaches.1, ← hreaches.2]
        exact hreached
    · cases h
      exact hsame rfl hreaches ▸ hlands

end Landing

/-! ## The invariant -/

section Invariant

variable (metric : Metric K) (params : RouteParameters K)

/-- A follower of the controller. -/
structure Follower.Sound (follower : Follower K) : Prop where
  config : follower.params.config = params.config
  sound : follower.controller.Sound

/-- A follower that claims to arrive only at the destination, and has not done so. -/
structure Follower.Aims (follower : Follower K) : Prop where
  within : ∀ position, follower.params.finalDestination.Reached metric position →
    params.destination.Reached metric position
  underway : follower.controller.Underway

/-- A route that reaches the destination is followed by a follower that aims at it. -/
structure RouteDispatch.Aims (dispatch : RouteDispatch K) (followers : List (Follower K)) :
    Prop where
  travel : ∀ index ∈ dispatch.travel, index < followers.length
  follower : dispatch.travelReachesDestination = true → ∀ index ∈ dispatch.travel,
    ∀ follower, followers[index]? = some follower → follower.Aims metric params
  ended : ∀ terminal ∈ dispatch.terminal, terminal.phase ≠ .complete

/-- What holds between calls, of the dispatch apart. -/
structure AStarTravelController.Base (controller : AStarTravelController K) : Prop where
  sound : ∀ follower ∈ controller.followers, follower.Sound params
  travel : ∀ index ∈ controller.travel, index < controller.followers.length
  ended : ∀ terminal ∈ controller.terminal, terminal.phase ≠ .complete
  checkpoint : ∀ checkpoint ∈ controller.proposalState,
    checkpoint.Aims metric params controller.followers
  agrees : ∀ checkpoint ∈ controller.proposalState, checkpoint.travel = controller.travel →
    checkpoint.travelReachesDestination = controller.travelReachesDestination

/-- The active follower of a route that reaches the destination aims at it. -/
def AStarTravelController.Aimed (controller : AStarTravelController K) : Prop :=
  controller.travelReachesDestination = true → ∀ index ∈ controller.travel,
    ∀ follower, controller.followers[index]? = some follower → follower.Aims metric params

/-- The invariant, until arrival is claimed. -/
structure AStarTravelController.Sure (controller : AStarTravelController K) : Prop extends
    controller.Base metric params where
  aimed : controller.Aimed metric params

/-- A call that claims arrival is at the destination, and one that does not is not the last. -/
structure AStarTravelController.Done (position : PlayerPosition K) (decision : TravelDecision K)
    (controller : AStarTravelController K) : Prop where
  arrived : decision.phase = .complete → params.destination.Reached metric position
  sure : decision.phase ≠ .complete → controller.Sure metric params

end Invariant

/-! ### Changing followers -/

section Update

variable {params : RouteParameters K} {dispatch : RouteDispatch K} {followers : List (Follower K)}
  {index : ℕ} {follower follower' : Follower K}

theorem Follower.Aims.moved {controller : TravelController follower.params}
    (h : follower.Aims metric params)
    (hunderway : follower.controller.Underway → controller.Underway) :
    (⟨follower.params, controller⟩ : Follower K).Aims metric params :=
  ⟨h.within, hunderway h.underway⟩

theorem RouteDispatch.Aims.update (h : dispatch.Aims metric params followers)
    (hindex : followers[index]? = some follower)
    (hfollower : dispatch.travelReachesDestination = true → dispatch.travel = some index →
      follower.Aims metric params → follower'.Aims metric params) :
    dispatch.Aims metric params (followers.set index follower') where
  travel active hactive := by
    rw [length_set]
    exact h.travel active hactive
  follower hreaches active hactive found hfound := by
    rw [List.getElem?_set] at hfound
    split at hfound
    next hsame =>
      subst hsame
      rw [if_pos (List.getElem?_eq_some_iff.mp hindex).1] at hfound
      cases hfound
      exact hfollower hreaches hactive (h.follower hreaches index hactive follower hindex)
    next => exact h.follower hreaches active hactive found hfound
  ended := h.ended

/-- A new follower changes nothing for the others. -/
theorem RouteDispatch.Aims.append (h : dispatch.Aims metric params followers) :
    dispatch.Aims metric params (followers ++ [follower]) where
  travel active hactive := by
    rw [length_append]
    exact Nat.lt_add_right _ (h.travel active hactive)
  follower hreaches active hactive found hfound := by
    rw [List.getElem?_append_left (h.travel active hactive)] at hfound
    exact h.follower hreaches active hactive found hfound
  ended := h.ended

namespace AStarTravelController

variable {controller : AStarTravelController K}

/-- The dispatch of a controller, seen as a checkpoint. -/
theorem Sure.current (h : controller.Sure metric params) :
    controller.toRouteDispatch.Aims metric params controller.followers :=
  ⟨h.travel, h.aimed, h.ended⟩

theorem Base.update (h : controller.Base metric params)
    (hindex : controller.followers[index]? = some follower)
    (hsound : follower.Sound params → follower'.Sound params)
    (haims : ∀ checkpoint ∈ controller.proposalState,
      checkpoint.travelReachesDestination = true → checkpoint.travel = some index →
        follower.Aims metric params → follower'.Aims metric params) :
    { controller with followers := controller.followers.set index follower' }.Base metric params where
  sound found hfound := (mem_or_eq_of_mem_set hfound).elim (h.sound found)
    (fun heq => heq ▸ hsound (h.sound _ (mem_of_getElem? hindex)))
  travel active hactive := by
    rw [length_set]
    exact h.travel active hactive
  ended := h.ended
  checkpoint checkpoint hcheckpoint :=
    (h.checkpoint checkpoint hcheckpoint).update hindex (haims checkpoint hcheckpoint)
  agrees := h.agrees

theorem Sure.update (h : controller.Sure metric params)
    (hindex : controller.followers[index]? = some follower)
    (hsound : follower.Sound params → follower'.Sound params)
    (haims : follower.Aims metric params → follower'.Aims metric params) :
    { controller with followers := controller.followers.set index follower' }.Sure metric params where
  toBase := h.toBase.update hindex hsound (fun _ _ _ _ => haims)
  aimed := (h.current.update hindex (fun _ _ => haims)).follower

end AStarTravelController

end Update

variable {pre : AStarTravelController K → Prop}

namespace AStarTravelController

variable {params : RouteParameters K} {observation : TravelObservation K}

variable {fails : RouteFault → AStarTravelController K → Prop} {c : AStarTravelController K}

variable {index : ℕ}

variable {follower : Follower K}

section Followers

/-- A call on a follower ends like the call of the follower. -/
theorem onFollower_run {α : Type}
    (method : {params : TravelParameters K} → TravelController params →
      Except TravelFault (α × TravelController params)) (c : AStarTravelController K) :
    (onFollower index method).run c = match c.followers[index]? with
      | none => .error .assertion c
      | some follower =>
        match method follower.controller with
        | .error fault => .error (.travel fault) c
        | .ok (answer, controller) => .ok answer
            { c with followers := c.followers.set index ⟨follower.params, controller⟩ } := by
  unfold onFollower
  rw [EStateM.run_bind, EStateM.run_get]
  dsimp only
  cases c.followers[index]? with
  | none => rfl
  | some follower =>
    dsimp only
    cases method follower.controller with
    | error fault => rfl
    | ok result => rfl

theorem onFollower_ensures {α : Type}
    {method : {params : TravelParameters K} → TravelController params →
      Except TravelFault (α × TravelController params)} {post : α → AStarTravelController K → Prop}
    (h : ∀ c, pre c → ∀ follower, c.followers[index]? = some follower →
      ∀ answer controller, method follower.controller = .ok (answer, controller) →
        post answer { c with followers := c.followers.set index ⟨follower.params, controller⟩ })
    (hfails : ∀ c fault, pre c → fails fault c) :
    Ensures pre (onFollower index method) post fails := by
  intro c hc
  rw [onFollower_run]
  cases hfollower : c.followers[index]? with
  | none => exact hfails c _ hc
  | some follower =>
    dsimp only
    cases hmethod : method follower.controller with
    | error fault => exact hfails c _ hc
    | ok result => exact h c hc follower hfollower result.1 result.2 hmethod

/-- The active follower steps, or proposes a step while the controller proposes one. -/
inductive Advanced (metric : Metric K) (observation : TravelObservation K) (follower : Follower K)
    (c : AStarTravelController K) :
    EStateM.Result RouteFault (AStarTravelController K) (TravelDecision K) → Prop
  | raised (fault : RouteFault) (stale : ¬ follower.controller.Fresh) :
      Advanced metric observation follower c (.error fault c)
  | moved (index : ℕ) (decision : TravelDecision K)
      (controller : TravelController follower.params) (proposals : List (ℕ × TravelDecision K))
      (active : c.travel = some index)
      (moves : TravelController.Moves metric observation follower.controller decision controller)
      (arrives : follower.controller.Fresh →
        ¬ observation.healthFraction < follower.params.config.minimumHealthFraction →
          (decision.phase = .complete ↔ ∀ destination ∈ follower.params.plan.destinations,
            destination.Reached metric observation.position)) :
      Advanced metric observation follower c (.ok decision { c with
        followers := c.followers.set index ⟨follower.params, controller⟩
        followerProposals := proposals })

theorem stepFollower_advanced (active : c.travel = some index)
    (hfollower : c.followers[index]? = some follower) (headed : follower.controller.Headed) :
    Advanced metric observation follower c ((stepFollower metric observation).run c) := by
  unfold stepFollower
  rw [EStateM.run_bind, EStateM.run_get]
  dsimp only
  rw [active]
  dsimp only
  split
  · rw [onFollower_run, hfollower]
    dsimp only
    cases hstep : follower.controller.step metric observation with
    | error fault =>
      exact .raised _ (fun fresh => by
        obtain ⟨result, hresult⟩ := fresh.steps metric observation
        cases hresult.symm.trans hstep)
    | ok result =>
      exact .moved index result.1 result.2 c.followerProposals active
        (TravelController.step_moves headed hstep)
        (fun fresh healthy => fresh.arrives headed healthy hstep)
  · rw [EStateM.run_bind, onFollower_run, hfollower]
    dsimp only
    cases hpropose : follower.controller.propose metric observation with
    | error fault =>
      exact .raised _ (fun fresh => by
        obtain ⟨result, hresult⟩ := fresh.offers metric observation
        cases hresult.symm.trans hpropose)
    | ok result =>
      exact .moved index result.1 result.2 _ active
        (TravelController.propose_moves headed hpropose)
        (fun fresh healthy => fresh.proposes headed healthy hpropose)

end Followers

/-! ### Decisions -/

variable {position : PlayerPosition K} {decision : TravelDecision K}

section Decisions

/-- Passing a decision on counts its command, and keeps it if it is the last one. -/
theorem translate_run (decision : TravelDecision K) (c : AStarTravelController K) :
    ∃ translated clickCount attemptCount terminal,
      (translate decision).run c = .ok translated { c with
        decisionId := c.decisionId + 1
        clickCount := clickCount
        attemptCount := attemptCount
        terminal := terminal } ∧
      translated.status = decision.status ∧ (terminal = c.terminal ∨ terminal = some translated) := by
  refine ⟨{ decision with
    decisionId := c.decisionId
    clickCount := if decision.command.isSome then c.clickCount + 1 else c.clickCount },
    _, _, _, rfl, rfl, (ite_eq_or_eq _ _ _).symm⟩

theorem Base.edited (h : c.Base metric params) {decisionId clickCount attemptCount : ℕ}
    {terminal : Option (TravelDecision K)}
    (hterminal : ∀ decision ∈ terminal, decision.phase ≠ .complete) :
    { c with
      decisionId := decisionId
      clickCount := clickCount
      attemptCount := attemptCount
      terminal := terminal }.Base metric params :=
  ⟨h.sound, h.travel, hterminal, h.checkpoint, h.agrees⟩

/-- A decision that is passed on is as good as the follower's. -/
theorem translate_ensures :
    Ensures (Done metric params position decision) (translate decision)
      (fun translated c => translated.phase = decision.phase ∧
        c.Done metric params position translated) fails := by
  intro c hdone
  obtain ⟨translated, clickCount, attemptCount, terminal, hrun, hstatus, hterminal⟩ :=
    translate_run decision c
  have hphase : translated.phase = decision.phase := by
    unfold TravelDecision.phase
    rw [hstatus]
  rw [hrun]
  refine ⟨hphase, fun hcomplete => hdone.arrived (hphase ▸ hcomplete), fun hgoes => ?_⟩
  have hsure := hdone.sure (hphase ▸ hgoes)
  refine ⟨hsure.edited ?_, hsure.aimed⟩
  intro ended hended
  rcases hterminal with rfl | rfl
  · exact hsure.ended ended hended
  · exact Option.some.inj hended ▸ hgoes

/-- Stopping is no arrival. -/
def Stops (metric : Metric K) (params : RouteParameters K) (decision : TravelDecision K)
    (controller : AStarTravelController K) : Prop :=
  decision.phase ≠ .complete ∧ controller.Sure metric params

theorem Stops.done {controller : AStarTravelController K}
    (h : Stops metric params decision controller) (position : PlayerPosition K) :
    Done metric params position decision controller :=
  ⟨fun hphase => absurd hphase h.1, fun _ => h.2⟩

theorem finish_ensures {reason : String} {observation : Option (TravelObservation K)} :
    Ensures (Sure metric params) (finish metric params reason observation)
      (Stops metric params) fails := by
  apply Ensures.modifyGet
  intro c hsure
  refine ⟨nofun, hsure.edited ?_, hsure.aimed⟩
  intro terminal hterminal
  exact Option.some.inj hterminal ▸ nofun

theorem halt_ensures {reason : String} {observation : Option (TravelObservation K)} :
    Ensures (Sure metric params) (halt metric params reason observation)
      (Stops metric params) (fun _ => Sure metric params) := by
  have hstop (index : ℕ) : Ensures (Sure metric params)
      (onFollower index (fun follower => follower.stop metric reason observation))
      (fun _ => Sure metric params) (fun _ => Sure metric params) := by
    refine onFollower_ensures ?_ (fun _ _ => id)
    intro c hsure follower hfollower answer moved hmoved
    obtain ⟨hsound, hunderway⟩ := TravelController.stop_moves hmoved
    exact hsure.update hfollower (fun h => ⟨h.config, hsound h.sound⟩) (fun h => h.moved hunderway)
  apply Ensures.get_bind
  intro c hc
  split
  · exact finish_ensures.mono_pre (fun s hs => hs ▸ hc)
  next index _ =>
    refine .bind ((hstop index).mono_pre (fun s hs => hs ▸ hc)) (fun internal => .ite ?_ (fun _ => finish_ensures))
    intro hphase
    have hgoes : internal.phase ≠ .complete := hphase ▸ nofun
    have hpassed : Ensures (Done metric params ⟨0, 0⟩ internal) (translate internal) _
      (fun _ => Sure metric params) := translate_ensures
    exact hpassed.weaken (fun c hsure => ⟨fun h => absurd h hgoes, fun _ => hsure⟩)
      (fun translated c h => ⟨h.1 ▸ hgoes, h.2.sure (h.1 ▸ hgoes)⟩) (fun _ _ => id)

/-- The bounds of an observation: they end the route, or leave it to go on. -/
theorem observeBounds_ensures :
    Ensures (Sure metric params) (observeBounds metric params observation)
      (fun terminal c => (∀ decision ∈ terminal, Stops metric params decision c) ∧
        (terminal = none → c.Sure metric params ∧
          ¬ observation.healthFraction < params.config.minimumHealthFraction))
      (fun _ => Sure metric params) := by
  apply Ensures.get_bind
  intro c hc
  split
  next terminal hterminal =>
    exact .pure (fun s hs => ⟨fun decision hdecision => Option.some.inj hdecision ▸
      ⟨hc.ended terminal hterminal, hs ▸ hc⟩, nofun⟩)
  next =>
    refine .ite (fun _ => .throw (fun s hs => hs ▸ hc)) (fun _ => ?_)
    have hseen : Ensures (fun s => s = c) (modify (fun c : AStarTravelController K => { c with
        lastObservationMs := some observation.nowMs
        startedAtMs := some (c.startedAtMs.getD observation.nowMs) }))
        (fun _ => Sure metric params) (fun _ : RouteFault => Sure metric params) :=
      .modify (fun s hs => hs ▸
        ⟨⟨hc.sound, hc.travel, hc.ended, hc.checkpoint, hc.agrees⟩, hc.aimed⟩)
    refine hseen.bind (fun _ => ?_)
    split
    next reason _ =>
      refine halt_ensures.bind (fun decision => .pure (fun s hs => ⟨?_, nofun⟩))
      intro halted hhalted
      exact Option.some.inj hhalted ▸ hs
    next hinside =>
      refine .pure (fun s hs => ⟨nofun, fun _ => ⟨hs, ?_⟩⟩)
      unfold boundary at hinside
      intro hhealth
      split at hinside
      · cases hinside
      · cases hinside

end Decisions

/-! ### Following a route -/

variable {clean : Prop}

section Following

/-- What remains to be shown of a follower's decision: where the route reaches the
destination, its arrival is one. -/
structure Followed (metric : Metric K) (params : RouteParameters K) (position : PlayerPosition K)
    (decision : TravelDecision K) (controller : AStarTravelController K) : Prop where
  arrived : decision.phase = .complete → controller.travelReachesDestination = true →
    params.destination.Reached metric position
  sure : ¬(decision.phase = .complete ∧ controller.travelReachesDestination = true) →
    controller.Sure metric params

/-- The active follower moves, and keeps its aim unless it claims to arrive. -/
theorem Sure.followed (hsure : c.Sure metric params) (hactive : c.travel = some index)
    (hfollower : c.followers[index]? = some follower)
    {controller : TravelController follower.params}
    (moves : TravelController.Moves metric observation follower.controller decision controller)
    (proposals : List (ℕ × TravelDecision K)) :
    { c with
      followers := c.followers.set index ⟨follower.params, controller⟩
      followerProposals := proposals }.Followed metric params observation.position decision := by
  refine ⟨fun hphase hreaches => ?_, fun hnot => ?_⟩
  · have hfollows := hsure.aimed hreaches index hactive follower hfollower
    exact hfollows.within _ (moves.arrived hfollows.underway hphase)
  · have hkeeps : c.travelReachesDestination = true → follower.Aims metric params →
        (⟨follower.params, controller⟩ : Follower K).Aims metric params :=
      fun hreaches hfollows => hfollows.moved
        (fun hunderway => moves.underway hunderway (fun hphase => hnot ⟨hphase, hreaches⟩))
    have hbase := hsure.toBase.update hfollower
      (fun h => (⟨h.config, moves.sound h.sound⟩ :
        (⟨follower.params, controller⟩ : Follower K).Sound params))
      (fun checkpoint hcheckpoint hreaches htravel =>
        hkeeps (hsure.agrees checkpoint hcheckpoint (htravel.trans hactive.symm) ▸ hreaches))
    exact ⟨⟨hbase.sound, hbase.travel, hbase.ended, hbase.checkpoint, hbase.agrees⟩,
      (hsure.current.update hfollower (fun hreaches _ => hkeeps hreaches)).follower⟩

theorem stepFollower_ensures :
    Ensures (Sure metric params) (stepFollower metric observation)
      (Followed metric params observation.position) (fun _ => Sure metric params) := by
  intro c hsure
  cases hactive : c.travel with
  | none =>
    have hrun : (stepFollower metric observation).run c = .error .assertion c := by
      unfold stepFollower
      rw [EStateM.run_bind, EStateM.run_get]
      dsimp only
      rw [hactive]
      rfl
    rw [hrun]
    exact hsure
  | some index =>
    obtain ⟨follower, hfollower⟩ : ∃ follower, c.followers[index]? = some follower :=
      ⟨_, List.getElem?_eq_getElem (hsure.travel index hactive)⟩
    have hsound := hsure.sound follower (mem_of_getElem? hfollower)
    have hadvanced : Advanced metric observation follower c
      ((stepFollower metric observation).run c) :=
        stepFollower_advanced hactive hfollower hsound.sound.headed
    generalize (stepFollower metric observation).run c = result at hadvanced
    cases hadvanced with
    | raised fault stale => exact hsure
    | moved index' decision controller proposals hactive' moves arrives =>
      obtain rfl : index = index' := Option.some.inj (hactive.symm.trans hactive')
      exact hsure.followed hactive hfollower moves proposals

/-- A new follower is about to take its first step. -/
structure Ready (metric : Metric K) (params : RouteParameters K) (observation : TravelObservation K)
    (clean : Prop) (c : AStarTravelController K) : Prop extends c.Base metric params where
  alone : ∀ checkpoint ∈ c.proposalState, checkpoint.travel ≠ c.travel
  active : ∃ index follower, c.travel = some index ∧ c.followers[index]? = some follower ∧
    follower.controller.Fresh ∧
    (c.travelReachesDestination = true → follower.Aims metric params ∨
      params.destination.Reached metric observation.position ∧
        ∀ destination ∈ follower.params.plan.destinations,
          destination.Reached metric observation.position) ∧
    (clean → c.travelReachesDestination = false →
      ¬ ∀ destination ∈ follower.params.plan.destinations,
        destination.Reached metric observation.position)

theorem Ready.counted (h : c.Ready metric params observation clean) (replanCount : ℕ) :
    { c with replanCount := replanCount }.Ready metric params observation clean :=
  ⟨⟨h.sound, h.travel, h.ended, h.checkpoint, h.agrees⟩, h.alone, h.active⟩

theorem stepFollower_ready
    (healthy : ¬ observation.healthFraction < params.config.minimumHealthFraction) :
    Ensures (Ready metric params observation clean) (stepFollower metric observation)
      (fun decision c => c.Followed metric params observation.position decision ∧
        (clean → decision.phase = .complete → c.travelReachesDestination = true))
      (fun _ => Sure metric params) := by
  rintro c ⟨hbase, halone, index, follower, hactive, hfollower, hfresh, hreaches, hclean⟩
  have hsound := hbase.sound follower (mem_of_getElem? hfollower)
  have hadvanced : Advanced metric observation follower c
    ((stepFollower metric observation).run c) :=
      stepFollower_advanced hactive hfollower hsound.sound.headed
  generalize (stepFollower metric observation).run c = result at hadvanced
  cases hadvanced with
  | raised fault stale => exact absurd hfresh stale
  | moved index' decision controller proposals hactive' moves arrives =>
    obtain rfl : index = index' := Option.some.inj (hactive.symm.trans hactive')
    have hall := arrives hfresh (hsound.config ▸ healthy)
    have hbase' := hbase.update hfollower
      (fun h => (⟨h.config, moves.sound h.sound⟩ :
        (⟨follower.params, controller⟩ : Follower K).Sound params))
      (fun checkpoint hcheckpoint _ htravel =>
        absurd (htravel.trans hactive.symm) (halone checkpoint hcheckpoint))
    refine ⟨⟨fun hphase hflag => ?_, fun hnot => ?_⟩, fun hclaim hphase => ?_⟩
    · rcases hreaches hflag with haims | hthere
      · exact haims.within _ (moves.arrived haims.underway hphase)
      · exact hthere.1
    · refine ⟨⟨hbase'.sound, hbase'.travel, hbase'.ended, hbase'.checkpoint, hbase'.agrees⟩, ?_⟩
      intro hflag active hsame found hfound
      obtain rfl : index = active := Option.some.inj (hactive.symm.trans hsame)
      have hphase : decision.phase ≠ .complete := fun hphase => hnot ⟨hphase, hflag⟩
      rcases hreaches hflag with haims | hthere
      · rw [List.getElem?_set_self (List.getElem?_eq_some_iff.mp hfollower).1] at hfound
        cases hfound
        exact haims.moved (fun hunderway => moves.underway hunderway hphase)
      · exact absurd (hall.mpr hthere.2) hphase
    · by_contra hflag
      exact hclean hclaim (by simpa using hflag) (hall.mp hphase)

end Following

/-! ### Planning a route -/

section Planning

variable [IsStrictOrderedRing K] [FloorRing K]

/-- The route planned on a map, in a window and from where the player is falls short of the
destination, and is over there. -/
def fallsShort (metric : Metric K) (params : RouteParameters K) (observation : TravelObservation K)
    (reason : PlanReason) (navigationMap : SparseNavigationMap K)
    (window : Option (NavigationPlanningWindow K)) : Bool :=
  match chooseRoute metric params navigationMap window observation.point reason with
  | .error _ => false
  | .ok planned => !planned.reachesDestination && planned.route.destinations.all
      (fun destination => destination.Reached metric observation.position)

/-- The route planned next would fall short so. -/
def degenerate (metric : Metric K) (params : RouteParameters K) (observation : TravelObservation K)
    (reason : PlanReason) (c : AStarTravelController K) : Bool :=
  c.navigation.any (fun navigation => fallsShort metric params observation reason
    (c.maps navigation.navigationMap) navigation.planningWindow)

theorem plan_ensures :
    Ensures (fun c => c.Sure metric params ∧
        (clean → c.degenerate metric params observation reason = false))
      (plan metric params observation reason)
      (fun failure c => (failure ≠ none → c.Sure metric params) ∧
        (failure = none → c.Ready metric params observation clean))
      (fun _ => Sure metric params) := by
  rintro c ⟨hsure, hclean⟩
  unfold plan
  rw [EStateM.run_bind, EStateM.run_get]
  dsimp only
  unfold degenerate fallsShort at hclean
  cases hnavigation : c.navigation with
  | none => exact hsure
  | some navigation =>
    rw [hnavigation, Option.any_some] at hclean
    dsimp only
    cases hroute : chooseRoute metric params (c.maps navigation.navigationMap)
        navigation.planningWindow observation.point reason with
    | error fault =>
      cases fault with
      | routeNotFound message => exact ⟨fun _ => hsure, nofun⟩
      | invalid => exact hsure
      | internal fault => exact hsure
      | unfinished => exact hsure
    | ok planned =>
      rw [hroute] at hclean
      refine ⟨nofun, fun _ => ?_⟩
      have hold (checkpoint : RouteDispatch K) (hcheckpoint : checkpoint ∈ c.proposalState) :
          checkpoint.travel ≠ some c.followers.length := fun htravel =>
        lt_irrefl _ ((hsure.checkpoint checkpoint hcheckpoint).travel _ htravel)
      exact
        { sound := fun found hfound => (mem_append.mp hfound).elim (hsure.sound found)
            (fun hnew => mem_singleton.mp hnew ▸ ⟨rfl, TravelController.sound_constructed _⟩)
          travel := fun index hindex => by
            cases hindex
            simp
          ended := hsure.ended
          checkpoint := fun checkpoint hcheckpoint => (hsure.checkpoint checkpoint hcheckpoint).append
          agrees := fun checkpoint hcheckpoint htravel => absurd htravel (hold checkpoint hcheckpoint)
          alone := hold
          active := by
            refine ⟨c.followers.length, _, rfl, List.getElem?_concat_length,
              TravelController.fresh_constructed _, fun hflag => ?_, fun hclaim hflag => ?_⟩
            · exact (chooseRoute_lands hroute hflag).imp_left
                (fun hwithin => ⟨hwithin, TravelController.underway_constructed _⟩)
            · intro hall
              have hfalse := hclean hclaim
              dsimp only at hfalse
              have hshort : planned.reachesDestination = false := hflag
              have hthere : planned.route.destinations.all
                  (fun destination => destination.Reached metric observation.position) = true :=
                all_eq_true.mpr (fun destination hmem => decide_eq_true (hall destination hmem))
              rw [hshort, hthere] at hfalse
              cases hfalse }

theorem planOrStop_ensures :
    Ensures (fun c => c.Sure metric params ∧
        (clean → c.degenerate metric params observation reason = false))
      (planOrStop metric params observation reason)
      (fun stopped c => (∀ decision ∈ stopped, Stops metric params decision c) ∧
        (stopped = none → c.Ready metric params observation clean))
      (fun _ => Sure metric params) := by
  refine plan_ensures.bind (fun failure => ?_)
  cases failure with
  | none => exact .pure (fun c hc => ⟨nofun, fun _ => hc.2 rfl⟩)
  | some message =>
    have hhalt : Ensures (Sure metric params)
        (halt metric params (routeFailure message) (some observation)) (Stops metric params)
        (fun _ => Sure metric params) := halt_ensures
    refine (hhalt.mono_pre (fun c hc => hc.1 nofun)).bind ?_
    intro decision
    exact .pure (fun c hc => ⟨fun halted hhalted => Option.some.inj hhalted ▸ hc, nofun⟩)

/-- What a step that goes on leaves to show. -/
def Progressed (metric : Metric K) (params : RouteParameters K) (position : PlayerPosition K)
    (clean : Prop) : RouteProgress K → AStarTravelController K → Prop
  | .ended decision, c => Stops metric params decision c
  | .going decision, c => c.Followed metric params position decision ∧
      (clean → decision.phase = .complete → c.travelReachesDestination = true)

variable (healthy : ¬ observation.healthFraction < params.config.minimumHealthFraction)

include healthy in
theorem replan_ensures :
    Ensures (fun c => c.Sure metric params ∧
        (clean → c.degenerate metric params observation reason = false))
      (replan metric params observation reason)
      (Progressed metric params observation.position clean) (fun _ => Sure metric params) := by
  refine planOrStop_ensures.bind (fun stopped => ?_)
  cases stopped with
  | some decision => exact .pure (fun c hc => hc.1 decision rfl)
  | none =>
    have hcounted : Ensures (Ready metric params observation clean)
        (modify (fun c : AStarTravelController K => { c with replanCount := c.replanCount + 1 }))
        (fun _ => Ready metric params observation clean)
        (fun _ : RouteFault => Sure metric params) :=
      .modify (fun c hc => hc.counted _)
    refine (hcounted.mono_pre (fun c hc => hc.2 rfl)).bind ?_
    exact fun _ => (stepFollower_ready healthy).bind (fun decision => .pure (fun _ => id))

include healthy in
theorem replanWithin_ensures :
    Ensures (fun c => c.Sure metric params ∧ (clean → c.replanCount < params.maximumReplans →
          c.degenerate metric params observation reason = false))
      (replanWithin metric params observation reason)
      (Progressed metric params observation.position clean) (fun _ => Sure metric params) := by
  apply Ensures.get_bind
  rintro c ⟨hsure, hclean⟩
  refine .ite (fun _ => ?_) (fun hcount => ?_)
  · have hhalt : Ensures (Sure metric params)
        (halt metric params "maximum_replans" (some observation)) (Stops metric params)
        (fun _ => Sure metric params) := halt_ensures
    exact (hhalt.mono_pre (fun s (hs : s = c) => hs ▸ hsure)).bind
      (fun decision => .pure (fun _ => id))
  · refine (replan_ensures healthy).mono_pre (fun s hs => ?_)
    rw [hs]
    exact ⟨hsure, fun hclaim => hclean hclaim (not_le.mp hcount)⟩

end Planning

/-! ### Steps -/

variable {inv : AStarTravelController K → Prop}

section Steps

variable [IsStrictOrderedRing K] [FloorRing K] {sighting : Sighting K}

theorem observeTerrain_ensures :
    Ensures (Sure metric params) (observeTerrain metric params sighting observation)
      (fun stopped c => (∀ decision ∈ stopped, Stops metric params decision c) ∧
        (stopped = none → c.Sure metric params ∨ c.Ready metric params observation False))
      (fun _ => Sure metric params) := by
  have hmaps : Ensures (Sure metric params)
      (modify (fun c : AStarTravelController K => { c with maps := sighting.maps }))
      (fun _ => Sure metric params) (fun _ : RouteFault => Sure metric params) :=
    .modify (fun c hc => ⟨⟨hc.sound, hc.travel, hc.ended, hc.checkpoint, hc.agrees⟩, hc.aimed⟩)
  have hnavigation : Ensures (Sure metric params)
      (modify (fun c : AStarTravelController K =>
        { c with navigation := some sighting.snapshot, backtrackPending := false }))
      (fun _ c => c.Sure metric params ∧
        (False → c.degenerate metric params observation .terrainRefresh = false))
      (fun _ : RouteFault => Sure metric params) :=
    .modify (fun c hc =>
      ⟨⟨⟨hc.sound, hc.travel, hc.ended, hc.checkpoint, hc.agrees⟩, hc.aimed⟩, nofun⟩)
  refine hmaps.bind (fun _ => .get_bind (fun c hc => .ite (fun _ => ?_) (fun _ => ?_)))
  · refine (hnavigation.mono_pre (fun s (hs : s = c) => hs ▸ hc)).bind ?_
    exact fun _ => planOrStop_ensures.weaken (fun _ => id)
      (fun _ _ h => ⟨h.1, fun hnone => .inr (h.2 hnone)⟩) (fun _ _ => id)
  · exact .pure (fun s (hs : s = c) => ⟨nofun, fun _ => .inl (hs ▸ hc)⟩)

/-- The part of a step before the frontier. -/
theorem approach_ensures :
    Ensures (Sure metric params) (approach metric params sighting observation)
      (fun progress c => Progressed metric params observation.position False progress c ∧
        ∀ decision, progress = .going decision →
          ¬ observation.healthFraction < params.config.minimumHealthFraction)
      (fun _ => Sure metric params) := by
  refine observeBounds_ensures.bind (fun terminal => ?_)
  cases terminal with
  | some decision => exact .pure (fun c hc => ⟨hc.1 decision rfl, nofun⟩)
  | none =>
    by_cases healthy : observation.healthFraction < params.config.minimumHealthFraction
    · exact fun c hc => absurd healthy (hc.2 rfl).2
    refine (observeTerrain_ensures.mono_pre (fun c hc => (hc.2 rfl).1)).bind (fun stopped => ?_)
    cases stopped with
    | some decision => exact .pure (fun c hc => ⟨hc.1 decision rfl, nofun⟩)
    | none =>
      have hfollowed : Ensures
          (fun c => c.Sure metric params ∨ c.Ready metric params observation False)
          (stepFollower metric observation) (Followed metric params observation.position)
          (fun _ => Sure metric params) := fun c hc => hc.elim
        (fun hsure => stepFollower_ensures c hsure)
        (fun hready => ((stepFollower_ready healthy).weaken (fun _ => id)
          (fun _ _ h => h.1) (fun _ _ => id)) c hready)
      refine (hfollowed.mono_pre (fun c hc => hc.2 rfl)).bind ?_
      intro decision
      refine .ite (fun hcorridor => ?_) (fun _ => ?_)
      · have hgoes : decision.phase ≠ .complete := by
          intro hphase
          unfold TravelDecision.terminalReason at hcorridor
          unfold TravelDecision.phase at hphase
          cases hstatus : decision.status with
          | traveling command => rw [hstatus] at hphase; cases hphase
          | complete destination =>
            rw [hstatus] at hcorridor
            simp at hcorridor
          | stopped reason => rw [hstatus] at hphase; cases hphase
        exact (replanWithin_ensures healthy).weaken
          (fun c hc => ⟨hc.sure (fun hboth => hgoes hboth.1), nofun⟩)
          (fun _ _ h => ⟨h, fun _ _ => healthy⟩) (fun _ _ => id)
      · exact .pure (fun c hc => ⟨⟨hc, nofun⟩, fun _ _ => healthy⟩)

omit [IsStrictOrderedRing K] [FloorRing K] in
theorem Followed.done (h : c.Followed metric params position decision)
    (hreaches : decision.phase = .complete → c.travelReachesDestination = true) :
    c.Done metric params position decision :=
  ⟨fun hphase => h.arrived hphase (hreaches hphase), fun hgoes => h.sure (fun hboth => hgoes hboth.1)⟩

/-- Whether a step goes on from the end of a route that does not reach the destination. -/
def passesFrontier (params : RouteParameters K) (decision : TravelDecision K)
    (c : AStarTravelController K) : Bool :=
  decide (decision.phase = .complete) && !c.travelReachesDestination &&
    decide (c.replanCount < params.maximumReplans)

/-- What is shown of a step past the frontier. -/
def Passed (metric : Metric K) (params : RouteParameters K) (position : PlayerPosition K) :
    RouteProgress K → AStarTravelController K → Prop
  | .ended decision, c => Stops metric params decision c
  | .going decision, c => c.Done metric params position decision

theorem passFrontier_ensures
    (healthy : ¬ observation.healthFraction < params.config.minimumHealthFraction) :
    Ensures (fun c => c.Followed metric params observation.position decision ∧
        (c.passesFrontier params decision = true →
          c.degenerate metric params observation .frontierComplete = false))
      (passFrontier metric params observation decision)
      (Passed metric params observation.position) (fun _ => Sure metric params) := by
  apply Ensures.get_bind
  rintro c ⟨hfollowed, hclean⟩
  refine .ite (fun hshort => ?_) (fun hnot => ?_)
  · have hreaches : c.travelReachesDestination = false := by simpa using hshort.2
    have hreplan : Ensures _ (replanWithin metric params observation .frontierComplete)
      (Progressed metric params observation.position True) _ := replanWithin_ensures healthy
    refine hreplan.weaken (fun s (hs : s = c) => ?_) ?_ (fun _ _ => id)
    · rw [hs]
      refine ⟨hfollowed.sure (fun hboth => by rw [hreaches] at hboth; cases hboth.2),
        fun _ hcount => hclean ?_⟩
      unfold passesFrontier
      rw [hreaches, decide_eq_true hshort.1, decide_eq_true hcount]
      rfl
    · intro progress s hprogressed
      cases progress with
      | ended stopped => exact hprogressed
      | going next => exact hprogressed.1.done (hprogressed.2 trivial)
  · refine .pure (fun s (hs : s = c) => ?_)
    rw [hs]
    refine hfollowed.done (fun hphase => ?_)
    by_contra hreaches
    exact hnot ⟨hphase, by simpa using hreaches⟩

omit [IsStrictOrderedRing K] [FloorRing K] in
theorem activeWaypoint_ensures :
    Ensures inv (activeWaypoint decision) (fun _ => inv) (fun _ => inv) := by
  apply Ensures.get_bind
  intro c hc
  split
  · exact .throw (fun s hs => hs ▸ hc)
  split
  · exact .throw (fun s hs => hs ▸ hc)
  · exact .pure (fun s hs => hs ▸ hc)

omit [IsStrictOrderedRing K] [FloorRing K] in
theorem Sure.learned (h : c.Sure metric params) (maps : ℕ → SparseNavigationMap K)
    (proposedBlock : Option (NavigationMapSnapshot K × TravelObservation K × TravelDestination K))
    (backtrackPending : Bool) :
    { c with
      maps := maps
      proposedBlock := proposedBlock
      backtrackPending := backtrackPending }.Sure metric params :=
  ⟨⟨h.sound, h.travel, h.ended, h.checkpoint, h.agrees⟩, h.aimed⟩

omit [IsStrictOrderedRing K] in
theorem markBlocked_ensures {navigation : NavigationMapSnapshot K} {waypoint : TravelDestination K}
    :
    Ensures (Sure metric params) (markBlocked metric navigation position waypoint)
      (fun _ => Sure metric params) (fun _ => Sure metric params) := by
  apply Ensures.get_bind
  intro c hc
  split
  · exact .throw (fun s hs => hs ▸ hc)
  · exact fun s _ => hc.learned _ _ _

omit [IsStrictOrderedRing K] in
theorem learnObstacle_ensures :
    Ensures (Sure metric params) (learnObstacle metric observation decision)
      (fun _ => Sure metric params) (fun _ => Sure metric params) := by
  apply Ensures.get_bind
  intro c hc
  split
  · exact .throw (fun s hs => hs ▸ hc)
  next navigation _ =>
    refine .bind (activeWaypoint_ensures.mono_pre (fun s (hs : s = c) => hs ▸ hc)) (fun waypoint => .get_bind (fun s hs => ?_))
    have hpending : Ensures (Sure metric params)
        (modify (fun c : AStarTravelController K => { c with backtrackPending := true }))
        (fun _ => Sure metric params) (fun _ : RouteFault => Sure metric params) :=
      .modify (fun c hc => hc.learned _ _ _)
    refine .ite (fun _ => ?_) (fun _ => ?_)
    · exact (markBlocked_ensures.mono_pre (fun s' (hs' : s' = s) => hs' ▸ hs)).bind
        (fun _ => hpending)
    · have hproposed : Ensures (fun s' => s' = s)
          (modify (fun c : AStarTravelController K =>
            { c with proposedBlock := some (navigation, observation, waypoint) }))
          (fun _ => Sure metric params) (fun _ : RouteFault => Sure metric params) :=
        .modify (fun s' hs' => hs' ▸ hs.learned _ _ _)
      exact hproposed.bind (fun _ => hpending)

omit [IsStrictOrderedRing K] [FloorRing K] in
theorem Stops.translated (hgoes : decision.phase ≠ .complete) :
    Ensures (Sure metric params) (translate decision) (Done metric params position) fails :=
  translate_ensures.weaken (fun _ hsure => ⟨fun h => absurd h hgoes, fun _ => hsure⟩)
    (fun _ _ h => h.2) (fun _ _ => id)

/-- Whether a step plans around an obstacle. -/
def plansAround (params : RouteParameters K) (decision : TravelDecision K)
    (c : AStarTravelController K) : Bool :=
  c.escapes params decision && c.backtrackPending

theorem avoidObstacle_ensures
    (healthy : ¬ observation.healthFraction < params.config.minimumHealthFraction) :
    Ensures (fun c => c.Done metric params observation.position decision ∧
        (c.plansAround params decision = true →
          c.degenerate metric params observation .learnedObstacle = false))
      (avoidObstacle metric params observation decision)
      (Done metric params observation.position) (fun _ => Sure metric params) := by
  apply Ensures.get_bind
  rintro c ⟨hdone, hclean⟩
  refine .ite (fun hescapes => ?_) (fun _ => ?_)
  · have hgoes : decision.phase ≠ .complete := by
      intro hphase
      unfold escapes TravelDecision.command at hescapes
      unfold TravelDecision.phase at hphase
      cases hstatus : decision.status with
      | traveling command => rw [hstatus] at hphase; cases hphase
      | complete destination => rw [hstatus] at hescapes; cases hescapes
      | stopped reason => rw [hstatus] at hphase; cases hphase
    have hsure := hdone.sure hgoes
    refine .ite (fun _ => ?_) (fun hpending => ?_)
    · exact (learnObstacle_ensures.mono_pre (fun s (hs : s = c) => hs ▸ hsure)).bind
        (fun _ => Stops.translated hgoes)
    · have hcleared : Ensures (fun s => s = c)
          (modify (fun c : AStarTravelController K => { c with backtrackPending := false }))
          (fun _ s => s.Sure metric params ∧
            (True → s.degenerate metric params observation .learnedObstacle = false))
          (fun _ : RouteFault => Sure metric params) :=
        .modify (fun s hs => hs ▸ ⟨hsure.learned _ _ _, fun _ => hclean (by
          unfold plansAround
          rw [hescapes]
          simpa using hpending)⟩)
      refine hcleared.bind (fun _ => (replan_ensures healthy).bind (fun progress => ?_))
      cases progress with
      | ended stopped => exact .pure (fun s hs => hs.done _)
      | going next =>
        exact translate_ensures.weaken (fun s hs => hs.1.done (hs.2 trivial)) (fun _ _ h => h.2)
          (fun _ _ => id)
  · have htranslated : Ensures (Done metric params observation.position decision)
        (translate decision) (Done metric params observation.position)
        (fun _ => Sure metric params) :=
      translate_ensures.weaken (fun _ => id) (fun _ _ h => h.2) (fun _ _ => id)
    have hcleared : Ensures (fun s => s = c)
        (modify (fun c : AStarTravelController K => { c with backtrackPending := false }))
        (fun _ => Done metric params observation.position decision)
        (fun _ : RouteFault => Sure metric params) :=
      .modify (fun s hs => hs ▸
        ⟨hdone.arrived, fun hgoes => (hdone.sure hgoes).learned _ _ _⟩)
    refine .ite (fun _ => ?_) (fun _ => ?_)
    · exact hcleared.bind (fun _ => htranslated)
    · exact htranslated.mono_pre (fun s (hs : s = c) => hs ▸ hdone)

/-- No route that a step plans after the end of a route that falls short, or around an
obstacle, falls short where the player is. -/
def plansClean (metric : Metric K) (params : RouteParameters K) (sighting : Sighting K)
    (observation : TravelObservation K) (c : AStarTravelController K) : Bool :=
  match (approach metric params sighting observation).run c with
  | .ok (.going decision) s =>
    !(s.passesFrontier params decision && s.degenerate metric params observation .frontierComplete) &&
      match (passFrontier metric params observation decision).run s with
      | .ok (.going decision) s =>
        !(s.plansAround params decision && s.degenerate metric params observation .learnedObstacle)
      | _ => true
  | _ => true

theorem step_ensures :
    Ensures (fun c => c.Sure metric params ∧ c.plansClean metric params sighting observation = true)
      (step metric params sighting observation) (Done metric params observation.position)
      (fun _ => Sure metric params) := by
  rintro c ⟨hsure, hclean⟩
  have himplies {plans short : Bool} (h : (!(plans && short)) = true) (hplans : plans = true) :
      short = false := by
    rw [hplans, Bool.true_and] at h
    simpa using h
  unfold plansClean at hclean
  unfold step
  rw [EStateM.run_bind]
  have happroach : Ensures (Sure metric params) (approach metric params sighting observation) _ _ :=
    approach_ensures
  cases hrun : (approach metric params sighting observation).run c with
  | error fault s => exact happroach.error hsure hrun
  | ok progress s =>
    obtain ⟨hprogressed, hhealthy⟩ := happroach.ok hsure hrun
    rw [hrun] at hclean
    cases progress with
    | ended decision => exact hprogressed.done _
    | going decision =>
      have healthy := hhealthy decision rfl
      dsimp only at hclean ⊢
      rw [Bool.and_eq_true] at hclean
      rw [EStateM.run_bind]
      have hfrontier : Ensures _ (passFrontier metric params observation decision) _ _ :=
        passFrontier_ensures healthy
      have hfollowed := And.intro hprogressed.1 (himplies hclean.1)
      cases hrun' : (passFrontier metric params observation decision).run s with
      | error fault s' => exact hfrontier.error hfollowed hrun'
      | ok progress s' =>
        have hpassed := hfrontier.ok hfollowed hrun'
        have hclean' := hclean.2
        rw [hrun'] at hclean'
        cases progress with
        | ended decision => exact Stops.done hpassed _
        | going decision =>
          exact avoidObstacle_ensures healthy s' ⟨hpassed, himplies hclean'⟩

end Steps

/-! ### Calls -/

section Calls

theorem deferFollowers_ensures :
    Ensures (Sure metric params) (deferFollowers metric observation) (fun _ => Sure metric params)
      (fun _ => Sure metric params) := by
  apply Ensures.get_bind
  intro c hc
  refine .mono_pre (.forM (fun proposal _ => ?_)) (fun s (hs : s = c) => hs ▸ hc)
  refine .bind (onFollower_ensures ?_ (fun _ _ => id)) (fun _ => .pure (fun _ => id))
  intro s hs follower hfollower answer controller hdefer
  obtain ⟨hsound, hunderway⟩ := TravelController.deferDispatch_moves hdefer
  exact hs.update hfollower (fun h => ⟨h.config, hsound h.sound⟩) (fun h => h.moved hunderway)

theorem acknowledgeFollowers_ensures :
    Ensures (Sure metric params) (acknowledgeFollowers (K := K)) (fun _ => Sure metric params)
      (fun _ => Sure metric params) := by
  apply Ensures.get_bind
  intro c hc
  refine .mono_pre (.forM (fun proposal _ => ?_)) (fun s (hs : s = c) => hs ▸ hc)
  refine onFollower_ensures ?_ (fun _ _ => id)
  intro s hs follower hfollower answer controller hcall
  obtain ⟨acknowledged, hacknowledge, heq⟩ := bind_eq_ok.mp hcall
  cases heq
  obtain ⟨hsound, hunderway⟩ := TravelController.acknowledgeDispatch_moves hacknowledge
  exact hs.update hfollower (fun h => ⟨h.config, hsound h.sound⟩) (fun h => h.moved hunderway)

theorem Sure.cleared (h : c.Sure metric params) : c.clearProposal.Sure metric params :=
  ⟨⟨h.sound, h.travel, h.ended, fun _ hnone => absurd hnone.symm (Option.some_ne_none _),
    fun _ hnone => absurd hnone.symm (Option.some_ne_none _)⟩, h.aimed⟩

theorem rewind_ensures :
    Ensures (Sure metric params) (rewind metric observation) (fun _ => Sure metric params)
      (fun _ => Sure metric params) := by
  refine deferFollowers_ensures.bind (fun _ => .get_bind (fun c hc => ?_))
  split
  · exact .throw (fun s hs => hs ▸ hc)
  next checkpoint hcheckpoint =>
    have haims := hc.checkpoint checkpoint hcheckpoint
    exact fun s _ => ⟨⟨hc.sound, haims.travel, haims.ended,
      fun _ hnone => absurd hnone.symm (Option.some_ne_none _),
      fun _ hnone => absurd hnone.symm (Option.some_ne_none _)⟩, haims.follower⟩

theorem requireProposal_ensures :
    Ensures inv (requireProposal decision) (fun _ => inv) (fun _ => inv) := by
  apply Ensures.get_bind
  intro c hc
  exact .ite (fun _ => .throw (fun s hs => hs ▸ hc))
    (fun _ => .pure (fun s hs => hs ▸ hc))

theorem deferDispatch_ensures :
    Ensures (Sure metric params) (deferDispatch metric observation decision) (Stops metric params)
      (fun _ => Sure metric params) :=
  requireProposal_ensures.bind (fun _ => rewind_ensures.bind (fun _ => .get_bind
    (fun _ hc => .pure (fun _ hs => ⟨nofun, hs ▸ hc⟩))))

theorem stop_ensures {reason : String} {observation : Option (TravelObservation K)} :
    Ensures (Sure metric params) (stop metric params reason observation) (Stops metric params)
      (fun _ => Sure metric params) := by
  refine .ite (fun _ => .throw (fun _ => id)) (fun _ => .get_bind
    (fun c hc => ?_))
  split
  next terminal hterminal =>
    exact .pure (fun s hs => ⟨hc.ended terminal hterminal, hs ▸ hc⟩)
  · exact halt_ensures.mono_pre (fun s (hs : s = c) => hs ▸ hc)

section Planned

variable [FloorRing K]

theorem acknowledgeDispatch_ensures :
    Ensures (Sure metric params) (acknowledgeDispatch metric decision) (fun _ => Sure metric params)
      (fun _ => Sure metric params) := by
  have hcleared : Ensures (Sure metric params)
      (modify (fun c : AStarTravelController K => c.clearProposal)) (fun _ => Sure metric params)
      (fun _ : RouteFault => Sure metric params) := .modify (fun c hc => hc.cleared)
  refine requireProposal_ensures.bind (fun _ => acknowledgeFollowers_ensures.bind (fun _ =>
    .get_bind (fun c hc => ?_)))
  split
  · exact (markBlocked_ensures.mono_pre (fun s (hs : s = c) => hs ▸ hc)).bind (fun _ => hcleared)
  · exact hcleared.mono_pre (fun s (hs : s = c) => hs ▸ hc)

omit [FloorRing K] in
theorem observeDeferred_ensures :
    Ensures (Sure metric params) (observeDeferred metric params observation)
      (Done metric params observation.position) (fun _ => Sure metric params) := by
  apply Ensures.get_bind
  intro c hsure
  refine .ite (fun _ => .throw (fun s hs => hs ▸ hsure)) (fun _ => ?_)
  refine (observeBounds_ensures.mono_pre (fun s (hs : s = c) => hs ▸ hsure)).bind
    (fun terminal => ?_)
  cases terminal with
  | some decision => exact .pure (fun s hs => (hs.1 decision rfl).done _)
  | none =>
    refine .get_bind (fun s hs => ?_)
    have hs := (hs.2 rfl).1
    split
    next index hactive =>
      have hobserved : Ensures (fun s' => s' = s)
          (onFollower index (TravelController.observeDeferred metric observation))
          (Followed metric params observation.position) (fun _ => Sure metric params) := by
        refine onFollower_ensures ?_ (fun s' _ (heq : s' = s) => heq ▸ hs)
        rintro s' rfl follower hfollower decision controller hobserve
        have headed := (hs.sound follower (mem_of_getElem? hfollower)).sound.headed
        exact hs.followed hactive hfollower
          (TravelController.observeDeferred_moves headed hobserve) s'.followerProposals
      refine hobserved.bind (fun decision => .get_bind (fun s' hfollowed => ?_))
      refine .ite (fun hshort => ?_) (fun hnot => ?_)
      · have hsure : s'.Sure metric params := hfollowed.sure (fun hboth => by
          rw [hboth.2] at hshort
          cases hshort.2)
        have hgoes : ({ decision with status := .traveling none } : TravelDecision K).phase ≠
            .complete := nofun
        exact (Stops.translated hgoes).mono_pre (fun s'' (heq : s'' = s') => heq ▸ hsure)
      · refine translate_ensures.weaken (fun s'' (heq : s'' = s') => ?_) (fun _ _ h => h.2)
          (fun _ _ => id)
        rw [heq]
        refine hfollowed.done (fun hphase => ?_)
        by_contra hreaches
        exact hnot ⟨hphase, by simpa using hreaches⟩
    · intro s' hs'
      refine ⟨fun hphase => ?_, fun _ => hs' ▸ ⟨hs.edited hs.ended, hs.aimed⟩⟩
      cases hphase

variable [IsStrictOrderedRing K] {sighting : Sighting K}

theorem propose_ensures :
    Ensures (fun c => c.Sure metric params ∧ (c.proposalState = none →
        { c with proposalState := some c.toRouteDispatch }.plansClean metric params sighting
          observation = true))
      (propose metric params sighting observation) (Done metric params observation.position)
      (fun _ => Sure metric params) := by
  apply Ensures.get_bind
  rintro c ⟨hsure, hclean⟩
  refine .ite (fun _ => .throw (fun s hs => hs ▸ hsure)) (fun hfree => ?_)
  have hproposing : { c with proposalState := some c.toRouteDispatch }.Sure metric params :=
    ⟨⟨hsure.sound, hsure.travel, hsure.ended,
      fun checkpoint hcheckpoint => Option.some.inj hcheckpoint ▸ hsure.current,
      fun checkpoint hcheckpoint _ => Option.some.inj hcheckpoint ▸ rfl⟩, hsure.aimed⟩
  have hset : Ensures (fun s => s = c)
      (set { c with proposalState := some c.toRouteDispatch } : RouteCall K PUnit)
      (fun _ s => s.Sure metric params ∧
        s.plansClean metric params sighting observation = true)
      (fun _ => Sure metric params) := fun _ _ =>
        ⟨hproposing, hclean (by simpa using hfree)⟩
  have hstep : Ensures (fun s => s.Sure metric params ∧
        s.plansClean metric params sighting observation = true)
      (tryCatch (step metric params sighting observation) (fun fault => do
        rewind metric observation
        throw fault))
      (Done metric params observation.position) (fun _ => Sure metric params) :=
    step_ensures.tryCatch (fun fault => rewind_ensures.bind (fun _ => .throw (fun _ => id)))
  refine hset.bind (fun _ => hstep.bind (fun decision => ?_))
  have hremembered : Ensures (Done metric params observation.position decision)
      (modify (fun c : AStarTravelController K => { c with proposalDecision := some decision }))
      (fun _ => Done metric params observation.position decision)
      (fun _ : RouteFault => Sure metric params) :=
    .modify (fun s hs => ⟨hs.arrived, fun hgoes => by
      have hsure := hs.sure hgoes
      exact ⟨⟨hsure.sound, hsure.travel, hsure.ended, hsure.checkpoint, hsure.agrees⟩,
        hsure.aimed⟩⟩)
  exact hremembered.bind (fun _ => .pure (fun _ => id))

end Planned

end Calls

end AStarTravelController

/-! ## Runs -/

section Runs

open AStarTravelController

variable [IsStrictOrderedRing K] [FloorRing K] {params : RouteParameters K}
  {events : List (RouteEvent K)} {controller : AStarTravelController K}

/-- Whether a call reports arrival. -/
def RouteEvent.claimsArrival (event : RouteEvent K) : Bool :=
  match event.answer with
  | .ok (some decision) => decision.phase = .complete
  | _ => false

/-- What a call ensures: where it reports arrival, the player is at the destination, and where
it does not, the invariant holds. -/
def Answered (metric : Metric K) (params : RouteParameters K)
    (observation : Option (TravelObservation K)) (answer : Option (TravelDecision K))
    (controller : AStarTravelController K) : Prop :=
  (∀ decision ∈ answer, decision.phase = .complete →
    ∃ seen ∈ observation, params.destination.Reached metric seen.position) ∧
  ((∀ decision ∈ answer, decision.phase ≠ .complete) → controller.Sure metric params)

variable {program : RouteCall K (TravelDecision K)}

omit [IsStrictOrderedRing K] [FloorRing K] in
theorem answered_of_done {observation : TravelObservation K}
    (h : Ensures pre program (Done metric params observation.position)
      (fun _ => Sure metric params)) :
    Ensures pre (do let decision ← program; pure (some decision))
      (Answered metric params (some observation)) (fun _ => Sure metric params) := by
  refine h.bind (fun decision => .pure (fun c hdone => ⟨?_, fun hgoes => ?_⟩))
  · intro found hfound hphase
    cases hfound
    exact ⟨observation, rfl, hdone.arrived hphase⟩
  · exact hdone.sure (hgoes decision rfl)

omit [IsStrictOrderedRing K] [FloorRing K] in
theorem answered_of_stops {observation : Option (TravelObservation K)}
    (h : Ensures pre program (Stops metric params) (fun _ => Sure metric params)) :
    Ensures pre (do let decision ← program; pure (some decision))
      (Answered metric params observation) (fun _ => Sure metric params) := by
  refine h.bind (fun decision => .pure (fun c hstops => ⟨?_, fun _ => hstops.2⟩))
  intro found hfound hphase
  cases hfound
  exact absurd hphase hstops.1

/-- Whether the routes planned by a call would be clean. -/
def RouteRequest.clean (metric : Metric K) (params : RouteParameters K) (request : RouteRequest K)
    (controller : AStarTravelController K) : Bool :=
  match request with
  | .step sighting observation => controller.plansClean metric params sighting observation
  | .propose sighting observation => controller.proposalState.isSome ||
      { controller with proposalState := some controller.toRouteDispatch }.plansClean metric
        params sighting observation
  | _ => true

/-- Every call keeps the invariant, and claims arrival at the destination only. -/
theorem serve_ensures (request : RouteRequest K) :
    Ensures (fun c => c.Sure metric params ∧ request.clean metric params c = true)
      (serve metric params request) (Answered metric params request.observes)
      (fun _ => Sure metric params) := by
  cases request with
  | step sighting observation => exact answered_of_done step_ensures
  | propose sighting observation =>
    refine (answered_of_done propose_ensures).mono_pre (fun c hc =>
      ⟨hc.1, fun hfree => ?_⟩)
    have hclean := hc.2
    unfold RouteRequest.clean at hclean
    rw [hfree] at hclean
    exact hclean
  | acknowledgeDispatch decision =>
    exact (acknowledgeDispatch_ensures.mono_pre (fun c hc => hc.1)).bind
      (fun _ => .pure (fun _ hs => ⟨nofun, fun _ => hs⟩))
  | deferDispatch decision observation =>
    exact (answered_of_stops deferDispatch_ensures).mono_pre (fun c hc => hc.1)
  | observeDeferred observation =>
    exact (answered_of_done observeDeferred_ensures).mono_pre
      (fun c hc => hc.1)
  | stop reason observation =>
    exact (answered_of_stops stop_ensures).mono_pre (fun c hc => hc.1)

omit [IsStrictOrderedRing K] [FloorRing K] in
theorem sure_constructed (metric : Metric K) (params : RouteParameters K)
    (maps : ℕ → SparseNavigationMap K) :
    ({ maps := maps } : AStarTravelController K).Sure metric params where
  sound := fun _ hmem => absurd hmem not_mem_nil
  travel := fun _ hnone => absurd hnone.symm (Option.some_ne_none _)
  ended := fun _ hnone => absurd hnone.symm (Option.some_ne_none _)
  checkpoint := fun _ hnone => absurd hnone.symm (Option.some_ne_none _)
  agrees := fun _ hnone => absurd hnone.symm (Option.some_ne_none _)
  aimed := fun hreaches => absurd hreaches Bool.false_ne_true

/-- What a recorded call ensures. -/
theorem record_ensures (hsure : controller.Sure metric params) (request : RouteRequest K)
    (hclean : request.clean metric params controller = true) :
    ((controller.record metric params request).1.claimsArrival = true →
      ∃ seen ∈ request.observes, params.destination.Reached metric seen.position) ∧
    ((controller.record metric params request).1.claimsArrival = false →
      (controller.record metric params request).2.Sure metric params) := by
  have hserves : Ensures _ (serve metric params request) _ _ :=
    serve_ensures request
  unfold record RouteEvent.claimsArrival
  cases hrun : (serve metric params request).run controller with
  | error fault after => exact ⟨nofun, fun _ => hserves.error ⟨hsure, hclean⟩ hrun⟩
  | ok answer after =>
    obtain ⟨harrived, hgoes⟩ := hserves.ok ⟨hsure, hclean⟩ hrun
    cases answer with
    | none => exact ⟨nofun, fun _ => hgoes nofun⟩
    | some decision =>
      refine ⟨fun hclaims => harrived decision rfl (of_decide_eq_true hclaims), fun hclaims => ?_⟩
      exact hgoes (fun found hfound => Option.some.inj hfound ▸ of_decide_eq_false hclaims)

/-- Whether the routes that a call planned were clean. -/
def RouteEvent.clean (metric : Metric K) (params : RouteParameters K) (event : RouteEvent K) :
    Bool :=
  event.request.clean metric params event.before

theorem record_clean (request : RouteRequest K) :
    (controller.record metric params request).1.clean metric params =
      request.clean metric params controller := by
  unfold record
  split
  · rfl
  · rfl

/-- Until arrival is claimed, the invariant holds. -/
theorem RouteHistory.sure (history : RouteHistory metric params events controller)
    (hclean : ∀ event ∈ events, event.clean metric params = true)
    (hgoes : ∀ event ∈ events, event.claimsArrival = false) :
    controller.Sure metric params := by
  induction history with
  | constructed maps => exact sure_constructed metric params maps
  | @served events controller history request ih =>
    have hsure := ih (fun event hmem => hclean event (mem_cons_of_mem _ hmem))
      (fun event hmem => hgoes event (mem_cons_of_mem _ hmem))
    exact (record_ensures hsure request
      ((record_clean request).symm.trans (hclean _ mem_cons_self))).2
        (hgoes _ mem_cons_self)

/-- An event of a history was recorded after the earlier ones. -/
theorem RouteHistory.before (history : RouteHistory metric params events controller)
    {later earlier : List (RouteEvent K)} {event : RouteEvent K}
    (hevents : events = later ++ event :: earlier) :
    ∃ before request, RouteHistory metric params earlier before ∧
      event = (before.record metric params request).1 := by
  induction history generalizing later with
  | constructed maps => cases later <;> cases hevents
  | @served events controller history request ih =>
    cases later with
    | nil =>
      cases hevents
      exact ⟨controller, request, history, rfl⟩
    | cons last later =>
      obtain ⟨_, hevents⟩ := List.cons.inj hevents
      exact ih hevents

/-- **Arrival is claimed at the destination**, in every run whose steps plan no route that falls
short where the player is. -/
theorem arrival_claimed (history : RouteHistory metric params events controller)
    (hclean : ∀ event ∈ events, event.clean metric params = true)
    {later earlier : List (RouteEvent K)} {event : RouteEvent K}
    (hevents : events = later ++ event :: earlier)
    (hfirst : ∀ previous ∈ earlier, previous.claimsArrival = false)
    (hclaims : event.claimsArrival = true) :
    ∃ observation ∈ event.request.observes,
      params.destination.Reached metric observation.position := by
  obtain ⟨before, request, hearlier, rfl⟩ := history.before hevents
  have hsure := hearlier.sure (fun previous hmem => hclean previous (by
    rw [hevents]
    exact mem_append_right _ (mem_cons_of_mem _ hmem))) hfirst
  have hnow := hclean _ (hevents ▸ mem_append_right _ mem_cons_self)
  have hreached := (record_ensures hsure request ((record_clean request).symm.trans hnow)).1 hclaims
  have hsame : (before.record metric params request).1.request = request := by
    unfold record
    split
    · rfl
    · rfl
  rw [hsame]
  exact hreached

end Runs

/-! ## A closed room -/

namespace room

/-- A map of two free cells with walls around them. -/
def walls : SparseNavigationMap ℚ where
  cellSize := 1
  blocked := {⟨-1, -1⟩, ⟨-1, 0⟩, ⟨-1, 1⟩, ⟨0, -1⟩, ⟨0, 1⟩, ⟨1, -1⟩, ⟨1, 1⟩, ⟨2, -1⟩, ⟨2, 0⟩, ⟨2, 1⟩}
  cellSize_pos := by norm_num
  refinementFactor_ok := SparseNavigationMap.defaultFactor_ok

def params (lt radius : ℚ) (radius_pos : 0 < radius) : RouteParameters ℚ where
  destination := ⟨lt, 1 / 2, radius, radius_pos⟩
  config := .standard
  planner := .sample
  maximumReplans_pos := by decide
  planId_ok := by decide

/-- The destination is across the room. -/
abbrev across : RouteParameters ℚ := room.params (3 / 2) (1 / 4) (by norm_num)

/-- The destination is far behind the walls. -/
abbrev beyond : RouteParameters ℚ :=
  room.params (2001 / 2) 5 (TravelDestination.around 0 0).arrivalRadius_pos

/-- The terrain that is known around the player. -/
def sighting : Sighting ℚ where
  snapshot := ⟨"scene:1", 0, some ⟨1 / 2, 1 / 2, 100, 50, by norm_num⟩, by decide⟩
  maps := fun _ => walls

/-- An observation of a player in the room. -/
def standing (nowMs : ℕ) (lt : ℚ) : TravelObservation ℚ := ⟨nowMs, ⟨lt, 1 / 2⟩, 1⟩

end room

/-- A walk across the room ends at the destination. -/
theorem arrival_claimed_across :
    ∃ event earlier controller, RouteHistory Metric.axial
        room.across [event, earlier] controller ∧
      earlier.claimsArrival = false ∧ event.claimsArrival = true ∧
        ∃ observation ∈ event.request.observes,
          room.across.destination.Reached Metric.axial
            observation.position := by
  have history := (((RouteHistory.constructed (fun _ => room.walls)).served
    (.step room.sighting (room.standing 0 (1 / 2)))).served
    (.step room.sighting (room.standing 4000 (3 / 2))) :
      RouteHistory Metric.axial room.across _ _)
  exact ⟨_, _, _, history, by decide +kernel, by decide +kernel,
    arrival_claimed history (by decide +kernel) (nil_append _).symm (by decide +kernel)
      (by decide +kernel)⟩

/-- In a closed room, the second route to nowhere is reported as arrival. -/
theorem room_claimed_early :
    ∃ event controller, RouteHistory Metric.axial room.beyond [event]
        controller ∧
      event.claimsArrival = true ∧ ∀ observation ∈ event.request.observes,
        ¬ room.beyond.destination.Reached Metric.axial
          observation.position := by
  refine ⟨_, _, (RouteHistory.constructed (fun _ => room.walls)).served
    (.step room.sighting (room.standing 0 (1 / 2))), by decide +kernel, by decide +kernel⟩

end ShadowbaneLab
