/-
# Deferred proposals leave no trace

Proposing a step and deferring it restores the counts, the end and the mode of the route and
the counts and the end of its follower, and learns nothing, exactly when the proposal does
not stop a follower that it has not asked (`deferral_untraced_iff`).
-/
import ShadowbaneLab.Travel.Arrival

namespace ShadowbaneLab

open Foundation List

variable {K : Type} [Field K] [LinearOrder K] {metric : Metric K} {params : RouteParameters K}
  {observation : TravelObservation K} {sighting : Sighting K}

/-! ## What a proposal spares of a follower -/

namespace TravelController

variable {params : TravelParameters K} {controller controller' : TravelController params}
  {decision : TravelDecision K}

/-- The counts and the end of a follower are in its checkpoint. -/
structure Spared (controller : TravelController params) (checkpoint : Dispatch params) : Prop where
  clicks : checkpoint.clickCount = controller.clickCount
  attempts : checkpoint.attemptCount = controller.attemptCount
  ended : checkpoint.terminal = controller.terminal

theorem propose_spared (headed : controller.Headed)
    (h : controller.propose metric observation = .ok (decision, controller')) :
    ∃ checkpoint, controller'.proposal = some (checkpoint, decision) ∧
      Spared controller checkpoint := by
  obtain ⟨_, ⟨_, rfl⟩ | ⟨checkpoint, hstepped, hproposal, hcheckpoint⟩⟩ := propose_cases headed h
  · exact ⟨controller.toDispatch, rfl, rfl, rfl, rfl⟩
  · exact ⟨checkpoint, hproposal, hcheckpoint.clicks, hcheckpoint.attempts,
      hcheckpoint.ended.trans hstepped.traveling.symm⟩

/-- Stopping ends a route that has not ended, and nothing else. -/
theorem stop_cases {reason : String} {observation : Option (TravelObservation K)}
    (h : controller.stop metric reason observation = .ok (decision, controller')) :
    controller'.proposal = controller.proposal ∧
      ((controller.terminal = some decision ∧ controller' = controller) ∨
        controller.terminal = none ∧ controller'.terminal = some decision ∧
          decision.phase = .stopped) := by
  unfold stop at h
  split at h
  · cases h
  split at h
  next hterminal =>
    cases h
    exact ⟨rfl, .inl ⟨hterminal, rfl⟩⟩
  next hterminal =>
    cases h
    exact ⟨rfl, .inr ⟨hterminal, rfl, rfl⟩⟩

/-- A proposal that is outstanding can be deferred. -/
theorem deferDispatch_ok (metric : Metric K) (observation : TravelObservation K)
    {checkpoint : Dispatch params} (h : controller.proposal = some (checkpoint, decision)) :
    ∃ withdrawn deferred, controller.deferDispatch metric observation decision =
        .ok (withdrawn, deferred) ∧ deferred.clickCount = checkpoint.clickCount ∧
      deferred.attemptCount = checkpoint.attemptCount ∧
      deferred.terminal = checkpoint.terminal := by
  have hrequire : controller.requireProposal decision = .ok checkpoint := by
    unfold requireProposal
    rw [h]
    exact if_pos rfl
  exact ⟨_, _, bind_eq_ok.mpr ⟨checkpoint, hrequire, rfl⟩, rfl, rfl, rfl⟩

end TravelController

variable {c : AStarTravelController K} {index : ℕ} {follower : Follower K}
   {controller : TravelController follower.params} {reason : PlanReason}
   {decision : TravelDecision K}

namespace AStarTravelController

/-! ## Every reachable state -/

section Wiring

/-- What holds of every reachable state: the followers are sound and the references to them
valid, and followers propose only while the controller does. -/
structure Wired (c : AStarTravelController K) : Prop where
  sound : ∀ follower ∈ c.followers, follower.controller.Sound
  travel : ∀ index ∈ c.travel, index < c.followers.length
  checkpoint : ∀ checkpoint ∈ c.proposalState, ∀ index ∈ checkpoint.travel,
    index < c.followers.length
  idle : c.proposalState = none → c.followerProposals = []

/-- Edits that leave the followers and the proposals alone. -/
theorem Wired.edited {c c' : AStarTravelController K} (h : c.Wired)
    (hfollowers : c'.followers = c.followers) (htravel : c'.travel = c.travel)
    (hstate : c'.proposalState = c.proposalState)
    (hproposals : c'.followerProposals = c.followerProposals) : c'.Wired where
  sound := hfollowers ▸ h.sound
  travel := hfollowers ▸ htravel ▸ h.travel
  checkpoint := hfollowers ▸ hstate ▸ h.checkpoint
  idle := hstate ▸ hproposals ▸ h.idle

theorem Wired.moved (h : c.Wired) (hfollower : c.followers[index]? = some follower)
    (hsound : follower.controller.Sound → controller.Sound) :
    { c with followers := c.followers.set index ⟨follower.params, controller⟩ }.Wired where
  sound found hfound := (mem_or_eq_of_mem_set hfound).elim (h.sound found)
    (fun heq => heq ▸ hsound (h.sound _ (mem_of_getElem? hfollower)))
  travel active hactive := by
    rw [length_set]
    exact h.travel active hactive
  checkpoint checkpoint hcheckpoint active hactive := by
    rw [length_set]
    exact h.checkpoint checkpoint hcheckpoint active hactive
  idle := h.idle

/-- A new follower takes over. -/
def adopt (c : AStarTravelController K) (follower : Follower K) (reaches : Bool)
    (mode : Option RouteMode) (partialRouteCount : ℕ) : AStarTravelController K :=
  { c with
    followers := c.followers ++ [follower]
    travel := some c.followers.length
    travelReachesDestination := reaches
    routeMode := mode
    partialRouteCount := partialRouteCount }

theorem Wired.adopted (h : c.Wired) (hsound : follower.controller.Sound) (reaches : Bool)
    (mode : Option RouteMode) (partialRouteCount : ℕ) :
    (c.adopt follower reaches mode partialRouteCount).Wired where
  sound found hfound := (mem_append.mp hfound).elim (h.sound found)
    (fun hnew => mem_singleton.mp hnew ▸ hsound)
  travel active hactive := by
    cases hactive
    simp [adopt]
  checkpoint checkpoint hcheckpoint active hactive := by
    rw [adopt, length_append]
    exact Nat.lt_add_right _ (h.checkpoint checkpoint hcheckpoint active hactive)
  idle := h.idle

theorem Wired.cleared (h : c.Wired) : c.clearProposal.Wired where
  sound := h.sound
  travel := h.travel
  checkpoint _ hnone := absurd hnone.symm (Option.some_ne_none _)
  idle _ := rfl

theorem onFollower_wired {α : Type}
    {method : {params : TravelParameters K} → TravelController params →
      Except TravelFault (α × TravelController params)}
    (h : ∀ {params : TravelParameters K} (controller controller' : TravelController params) answer,
      method controller = .ok (answer, controller') → controller.Sound → controller'.Sound) :
    Keeps (Wired (K := K)) (onFollower index method) :=
  onFollower_ensures (fun _ hc _ hfollower answer _ hmethod =>
    hc.moved hfollower (h _ _ answer hmethod)) (fun _ _ => id)

theorem translate_wired (decision : TravelDecision K) : Keeps (Wired (K := K)) (translate decision) :=
  .modifyGet (fun _ h => h.edited rfl rfl rfl rfl)

theorem halt_wired {reason : String} {observation : Option (TravelObservation K)} :
    Keeps Wired (halt metric params reason observation) := by
  have hfinish : Keeps Wired (finish metric params reason observation) :=
    .modifyGet (fun _ h => h.edited rfl rfl rfl rfl)
  refine .get_bind (fun c => ?_)
  split
  · exact hfinish
  · refine .bind (onFollower_wired ?_) (fun internal => .ite (translate_wired internal) hfinish)
    exact fun _ _ _ hstop => (TravelController.stop_moves hstop).1

theorem observeBounds_wired : Keeps Wired (observeBounds metric params observation) := by
  refine Keeps.get_bind (fun c => ?_)
  split
  · exact Keeps.pure _
  · refine Keeps.ite (Keeps.throw _) ?_
    refine (Keeps.modify (fun _ h => h.edited rfl rfl rfl rfl)).bind (fun _ => ?_)
    split
    · exact halt_wired.bind (fun _ => Keeps.pure _)
    · exact Keeps.pure _

theorem stepFollower_wired : Keeps Wired (stepFollower metric observation) := by
  refine Ensures.get_bind (fun c hc => ?_)
  split
  · exact Ensures.throw (fun s hs => hs ▸ hc)
  next index _ =>
    refine Ensures.ite (fun _ => ?_) (fun hstate => ?_)
    · have hstep : Keeps Wired (onFollower index (TravelController.step metric observation)) :=
        onFollower_wired (fun _ _ _ h hsound =>
          (TravelController.step_moves hsound.headed h).sound hsound)
      exact hstep.mono_pre (fun s hs => hs ▸ hc)
    · have hpropose : Ensures (fun s => s = c)
          (onFollower index (TravelController.propose metric observation))
          (fun _ s => s.Wired ∧ s.proposalState = c.proposalState) (fun _ => Wired) := by
        refine onFollower_ensures ?_ (fun s _ (hs : s = c) => hs ▸ hc)
        rintro s rfl follower hfollower decision controller h
        exact ⟨hc.moved hfollower (fun hsound =>
          (TravelController.propose_moves hsound.headed h).sound hsound), rfl⟩
      have hnoted (decision : TravelDecision K) :
          Ensures (fun s : AStarTravelController K => s.Wired ∧ s.proposalState = c.proposalState)
            (modify (fun s => { s with
              followerProposals := s.followerProposals ++ [(index, decision)] }))
            (fun _ => Wired) (fun _ : RouteFault => Wired) :=
        Ensures.modify (fun s hs => ⟨hs.1.sound, hs.1.travel, hs.1.checkpoint, fun hnone => by
          rw [← hs.2, show s.proposalState = none from hnone] at hstate
          exact absurd rfl hstate⟩)
      exact hpropose.bind (fun decision => (hnoted decision).bind (fun _ => Ensures.pure (fun _ => id)))

section Planning

variable [IsStrictOrderedRing K] [FloorRing K]

theorem plan_wired : Keeps Wired (plan metric params observation reason) := by
  refine Ensures.get_bind (fun c hc => ?_)
  split
  · exact Ensures.throw (fun s hs => hs ▸ hc)
  · split
    · exact Ensures.pure (fun s hs => hs ▸ hc)
    · exact Ensures.throw (fun s hs => hs ▸ hc)
    · exact fun s _ => hc.adopted (TravelController.sound_constructed _) _ _ _

theorem planOrStop_wired : Keeps Wired (planOrStop metric params observation reason) := by
  refine plan_wired.bind (fun failure => ?_)
  split
  · exact .pure _
  · exact halt_wired.bind (fun _ => .pure _)

theorem replan_wired : Keeps Wired (replan metric params observation reason) := by
  refine planOrStop_wired.bind (fun stopped => ?_)
  split
  · exact .pure _
  · exact (Keeps.modify (fun _ h => h.edited rfl rfl rfl rfl)).bind
      (fun _ => stepFollower_wired.bind (fun _ => .pure _))

theorem replanWithin_wired : Keeps Wired (replanWithin metric params observation reason) :=
  .get_bind (fun _ => .ite (halt_wired.bind (fun _ => .pure _)) replan_wired)

theorem observeTerrain_wired : Keeps Wired (observeTerrain metric params sighting observation) :=
  (Keeps.modify (fun _ h => h.edited rfl rfl rfl rfl)).bind (fun _ => Keeps.get_bind (fun _ =>
    Keeps.ite ((Keeps.modify (fun _ h => h.edited rfl rfl rfl rfl)).bind
      (fun _ => planOrStop_wired)) (Keeps.pure _)))

omit [IsStrictOrderedRing K] in
theorem markBlocked_wired {navigation : NavigationMapSnapshot K} {position : PlayerPosition K}
    {waypoint : TravelDestination K} :
    Keeps Wired (markBlocked metric navigation position waypoint) := by
  refine Ensures.get_bind (fun c hc => ?_)
  split
  · exact Ensures.throw (fun s hs => hs ▸ hc)
  · exact fun s _ => hc.edited rfl rfl rfl rfl

omit [IsStrictOrderedRing K] in
theorem learnObstacle_wired : Keeps Wired (learnObstacle metric observation decision) := by
  refine .get_bind (fun c => ?_)
  split
  · exact .throw _
  · refine .bind activeWaypoint_ensures (fun _ => .get_bind (fun s => .ite ?_ ?_))
    · exact markBlocked_wired.bind (fun _ => .modify (fun _ h => h.edited rfl rfl rfl rfl))
    · exact (Keeps.modify (fun _ h => h.edited rfl rfl rfl rfl)).bind
        (fun _ => .modify (fun _ h => h.edited rfl rfl rfl rfl))

theorem avoidObstacle_wired : Keeps Wired (avoidObstacle metric params observation decision) := by
  have hcleared : Keeps (Wired (K := K))
      (modify (fun c : AStarTravelController K => { c with backtrackPending := false }) :
        RouteCall K PUnit) := .modify (fun _ h => h.edited rfl rfl rfl rfl)
  refine .get_bind (fun c => .ite (.ite ?_ ?_) (.ite ?_ ?_))
  · exact learnObstacle_wired.bind (fun _ => translate_wired decision)
  · refine hcleared.bind (fun _ => replan_wired.bind (fun progress => ?_))
    split
    · exact .pure _
    · exact translate_wired _
  · exact hcleared.bind (fun _ => translate_wired decision)
  · exact translate_wired decision

theorem step_wired : Keeps Wired (step metric params sighting observation) := by
  have happroach : Keeps Wired (approach metric params sighting observation) := by
    refine observeBounds_wired.bind (fun terminal => ?_)
    split
    · exact .pure _
    · refine observeTerrain_wired.bind (fun stopped => ?_)
      split
      · exact .pure _
      · exact stepFollower_wired.bind (fun _ => .ite replanWithin_wired (.pure _))
  refine happroach.bind (fun progress => ?_)
  split
  · exact .pure _
  · refine .bind (.get_bind (fun _ => .ite replanWithin_wired (.pure _))) ?_
    intro progress
    split
    · exact .pure _
    · exact avoidObstacle_wired

end Planning

theorem deferFollowers_wired : Keeps Wired (deferFollowers metric observation) :=
  .get_bind (fun _ => .forM (fun _ _ =>
    (onFollower_wired (fun _ _ _ h => (TravelController.deferDispatch_moves h).1)).bind
      (fun _ => .pure _)))

theorem acknowledgeFollowers_wired : Keeps Wired (acknowledgeFollowers (K := K)) := by
  refine .get_bind (fun c => .forM (fun proposal _ => onFollower_wired ?_))
  intro params controller controller' answer h
  obtain ⟨acknowledged, hacknowledge, heq⟩ := bind_eq_ok.mp h
  cases heq
  exact (TravelController.acknowledgeDispatch_moves hacknowledge).1

theorem rewind_wired : Keeps Wired (rewind metric observation) := by
  refine deferFollowers_wired.bind (fun _ => Ensures.get_bind (fun c hc => ?_))
  split
  · exact Ensures.throw (fun s hs => hs ▸ hc)
  next checkpoint hcheckpoint =>
    exact fun s _ => ⟨hc.sound, hc.checkpoint checkpoint hcheckpoint,
      fun _ hnone => absurd hnone.symm (Option.some_ne_none _), fun _ => rfl⟩

section Serving

variable [IsStrictOrderedRing K] [FloorRing K]

theorem propose_wired : Keeps Wired (propose metric params sighting observation) := by
  refine Ensures.get_bind (fun c hc => Ensures.ite (fun _ => Ensures.throw (fun s hs => hs ▸ hc))
    (fun _ => ?_))
  have hset : Ensures (fun s => s = c)
      (set { c with proposalState := some c.toRouteDispatch } : RouteCall K PUnit)
      (fun _ => Wired) (fun _ => Wired) := fun _ _ =>
    ⟨hc.sound, hc.travel, fun _ hcheckpoint => Option.some.inj hcheckpoint ▸ hc.travel,
      fun hnone => absurd hnone (Option.some_ne_none _)⟩
  have hstep : Keeps Wired (tryCatch (step metric params sighting observation) (fun fault => do
      rewind metric observation
      throw fault)) :=
    step_wired.tryCatch (fun fault => rewind_wired.bind (fun _ => Keeps.throw fault))
  have hnoted (decision : TravelDecision K) : Keeps (Wired (K := K))
      (modify (fun c : AStarTravelController K => { c with proposalDecision := some decision }) :
        RouteCall K PUnit) :=
    Keeps.modify (fun _ h => h.edited rfl rfl rfl rfl)
  exact hset.bind (fun _ => hstep.bind (fun decision => (hnoted decision).bind
    (fun _ => Keeps.pure _)))

/-- **Every call keeps the references valid.** -/
theorem serve_wired (request : RouteRequest K) : Keeps Wired (serve metric params request) := by
  have hrequire (decision : TravelDecision K) : Keeps (Wired (K := K)) (requireProposal decision) :=
    requireProposal_ensures
  cases request with
  | step sighting observation => exact step_wired.bind (fun _ => .pure _)
  | propose sighting observation => exact propose_wired.bind (fun _ => .pure _)
  | acknowledgeDispatch decision =>
    have hcleared : Keeps (Wired (K := K)) (modify clearProposal : RouteCall K PUnit) :=
      .modify (fun _ h => h.cleared)
    refine .bind ?_ (fun _ => .pure _)
    refine (hrequire decision).bind (fun _ => acknowledgeFollowers_wired.bind
      (fun _ => .get_bind (fun c => ?_)))
    split
    · exact markBlocked_wired.bind (fun _ => hcleared)
    · exact hcleared
  | deferDispatch decision observation =>
    exact .bind ((hrequire decision).bind (fun _ => rewind_wired.bind
      (fun _ => .get_bind (fun _ => .pure _)))) (fun _ => .pure _)
  | observeDeferred observation =>
    refine .bind (.get_bind (fun c => .ite (.throw _) ?_))
      (fun _ => .pure _)
    refine observeBounds_wired.bind (fun terminal => ?_)
    split
    · exact .pure _
    · refine .get_bind (fun s => ?_)
      split
      · refine (onFollower_wired (fun _ _ _ h hsound =>
          (TravelController.observeDeferred_moves hsound.headed h).sound hsound)).bind
            (fun _ => .get_bind (fun _ => .ite (translate_wired _) (translate_wired _)))
      · exact .modifyGet (fun _ h => h.edited rfl rfl rfl rfl)
  | stop reason observation =>
    refine .bind (.ite (.throw _) (.get_bind (fun c => ?_)))
      (fun _ => .pure _)
    split
    · exact .pure _
    · exact halt_wired

end Serving

end Wiring

end AStarTravelController

section Reachable

open AStarTravelController

variable [IsStrictOrderedRing K] [FloorRing K] {events : List (RouteEvent K)}
  {controller : AStarTravelController K}

theorem RouteHistory.wired (history : RouteHistory metric params events controller) :
    controller.Wired := by
  induction history with
  | constructed maps =>
    exact ⟨fun _ hmem => absurd hmem not_mem_nil,
      fun _ hnone => absurd hnone.symm (Option.some_ne_none _),
      fun _ hnone => absurd hnone.symm (Option.some_ne_none _), fun _ => rfl⟩
  | @served events controller history request ih =>
    have hserves : Keeps Wired
      (serve metric params request) :=
        serve_wired request
    unfold record
    cases hrun : (serve metric params request).run controller with
    | ok answer after => exact Ensures.ok hserves ih hrun
    | error fault after => exact Ensures.error hserves ih hrun

end Reachable

/-! ## Proposing -/

namespace AStarTravelController

section Proposing

/-- The followers that have proposed. -/
def offered (c : AStarTravelController K) : List ℕ := c.followerProposals.map Prod.fst

/-- The active follower. -/
def activeFollower (c : AStarTravelController K) : Option (Follower K) :=
  c.travel.bind (fun index => c.followers[index]?)

/-- A proposal under way: each follower that was asked can take its proposal back, and the
follower that was active before is as it was, or can be. -/
structure Tentative (before : AStarTravelController K) (sighting : Sighting K)
    (c : AStarTravelController K) : Prop where
  state : c.proposalState = some before.toRouteDispatch
  maps : c.maps = before.maps ∨ c.maps = sighting.maps
  sound : ∀ follower ∈ c.followers, follower.controller.Sound
  travel : ∀ index ∈ c.travel, index < c.followers.length
  proposed : ∀ proposal ∈ c.followerProposals, ∃ follower checkpoint,
    c.followers[proposal.1]? = some follower ∧
      follower.controller.proposal = some (checkpoint, proposal.2)
  nodup : c.offered.Nodup
  active : ∀ index ∈ before.travel, ∀ follower, before.followers[index]? = some follower →
    ∃ controller : TravelController follower.params,
      c.followers[index]? = some ⟨follower.params, controller⟩ ∧
        (index ∉ c.offered ∧ controller = follower.controller ∨
          index ∈ c.offered ∧ ∃ proposal ∈ controller.proposal,
            TravelController.Spared follower.controller proposal.1)

variable {before c : AStarTravelController K}

/-- Edits that leave the followers, the maps and the proposals alone. -/
theorem Tentative.edited {c' : AStarTravelController K} (h : Tentative before sighting c)
    (hstate : c'.proposalState = c.proposalState) (hmaps : c'.maps = c.maps)
    (hfollowers : c'.followers = c.followers) (htravel : c'.travel = c.travel)
    (hproposals : c'.followerProposals = c.followerProposals) : Tentative before sighting c' := by
  have hoffered : c'.offered = c.offered := congrArg (List.map Prod.fst) hproposals
  exact
    { state := hstate.trans h.state
      maps := hmaps ▸ h.maps
      sound := hfollowers ▸ h.sound
      travel := hfollowers ▸ htravel ▸ h.travel
      proposed := hfollowers ▸ hproposals ▸ h.proposed
      nodup := hoffered ▸ h.nodup
      active := by
        rw [hfollowers, hoffered]
        exact h.active }

/-- The active follower has proposed. -/
def Offered (c : AStarTravelController K) : Prop := ∀ index ∈ c.travel, index ∈ c.offered

/-- The active follower has not proposed. -/
def Due (c : AStarTravelController K) : Prop := ∀ index ∈ c.travel, index ∉ c.offered

/-- Stopping the active follower can be undone, or does nothing. -/
def Safe (before c : AStarTravelController K) : Prop :=
  ∀ index ∈ c.travel, index ∈ c.offered ∨ before.travel ≠ some index ∨
    ∀ follower, c.followers[index]? = some follower → follower.controller.terminal.isSome = true

theorem Offered.safe (h : c.Offered) (before : AStarTravelController K) : Safe before c :=
  fun index hindex => .inl (h index hindex)

/-- The active follower is stopped where that can be undone, or does nothing. -/
theorem Tentative.stopped (h : Tentative before sighting c) (hactive : c.travel = some index)
    (hsafe : Safe before c) (hfollower : c.followers[index]? = some follower) {reason : String}
    {observation : Option (TravelObservation K)}
    (hstop : follower.controller.stop metric reason observation = .ok (decision, controller)) :
    Tentative before sighting
      { c with followers := c.followers.set index ⟨follower.params, controller⟩ } := by
  obtain ⟨hproposal, hcases⟩ := TravelController.stop_cases hstop
  have hlength := (List.getElem?_eq_some_iff.mp hfollower).1
  refine ⟨h.state, h.maps, ?_, ?_, ?_, h.nodup, ?_⟩
  · intro found hfound
    rcases mem_or_eq_of_mem_set hfound with hmem | rfl
    · exact h.sound found hmem
    · exact (TravelController.stop_moves hstop).1 (h.sound _ (mem_of_getElem? hfollower))
  · intro active hmem
    rw [length_set]
    exact h.travel active hmem
  · intro proposal hmem
    obtain ⟨found, checkpoint, hfound, hchecked⟩ := h.proposed proposal hmem
    by_cases hsame : index = proposal.1
    · subst hsame
      obtain rfl := Option.some.inj (hfollower.symm.trans hfound)
      exact ⟨⟨follower.params, controller⟩, checkpoint, List.getElem?_set_self hlength,
        hproposal.trans hchecked⟩
    · exact ⟨found, checkpoint, (List.getElem?_set_ne hsame).trans hfound, hchecked⟩
  · intro active hmem former hformer
    obtain ⟨current, hcurrent, hkept⟩ := h.active active hmem former hformer
    by_cases hsame : index = active
    · subst hsame
      obtain rfl := Option.some.inj (hfollower.symm.trans hcurrent)
      refine ⟨controller, List.getElem?_set_self hlength, ?_⟩
      rcases hkept with ⟨hfresh, rfl⟩ | ⟨hoffered, proposal, hchecked, hspared⟩
      · have hterminal := ((hsafe index hactive).resolve_left hfresh).resolve_left
          (not_not.mpr hmem) _ hfollower
        rcases hcases with ⟨_, rfl⟩ | ⟨hnone, _⟩
        · exact .inl ⟨hfresh, rfl⟩
        · rw [hnone] at hterminal
          cases hterminal
      · exact .inr ⟨hoffered, proposal, hproposal.trans hchecked, hspared⟩
    · exact ⟨current, (List.getElem?_set_ne hsame).trans hcurrent, hkept⟩

theorem Tentative.adopted (h : Tentative before sighting c) (hsound : follower.controller.Sound)
    (reaches : Bool) (mode : Option RouteMode) (partialRouteCount : ℕ) :
    Tentative before sighting (c.adopt follower reaches mode partialRouteCount) ∧
      Due (c.adopt follower reaches mode partialRouteCount) := by
  have hbound {index : ℕ} {found : Follower K} (hfound : c.followers[index]? = some found) :
      (c.followers ++ [follower])[index]? = some found :=
    (List.getElem?_append_left (List.getElem?_eq_some_iff.mp hfound).1).trans hfound
  refine ⟨⟨h.state, h.maps, ?_, ?_, ?_, h.nodup, ?_⟩, ?_⟩
  · intro found hfound
    exact (mem_append.mp hfound).elim (h.sound found)
      (fun hnew => mem_singleton.mp hnew ▸ hsound)
  · intro active hactive
    cases hactive
    simp [adopt]
  · intro proposal hmem
    obtain ⟨found, checkpoint, hfound, hchecked⟩ := h.proposed proposal hmem
    exact ⟨found, checkpoint, hbound hfound, hchecked⟩
  · intro active hmem former hformer
    obtain ⟨current, hcurrent, hkept⟩ := h.active active hmem former hformer
    exact ⟨current, hbound hcurrent, hkept⟩
  · intro active hactive hoffered
    cases hactive
    obtain ⟨proposal, hmem, hsame⟩ := mem_map.mp hoffered
    obtain ⟨found, _, hfound, _⟩ := h.proposed proposal hmem
    have hlength := (List.getElem?_eq_some_iff.mp hfound).1
    rw [hsame] at hlength
    exact lt_irrefl _ hlength

/-- The active follower proposes. -/
theorem Tentative.offers (h : Tentative before sighting c) (hdue : index ∉ c.offered)
    (hfollower : c.followers[index]? = some follower)
    (hpropose : follower.controller.propose metric observation = .ok (decision, controller)) :
    Tentative before sighting { c with
      followers := c.followers.set index ⟨follower.params, controller⟩
      followerProposals := c.followerProposals ++ [(index, decision)] } := by
  have hsound := h.sound follower (mem_of_getElem? hfollower)
  obtain ⟨checkpoint, hproposal, hspared⟩ := TravelController.propose_spared hsound.headed hpropose
  have hlength := (List.getElem?_eq_some_iff.mp hfollower).1
  have hoffered : (c.followerProposals ++ [(index, decision)]).map Prod.fst = c.offered ++ [index] :=
    map_append
  refine ⟨h.state, h.maps, ?_, ?_, ?_, ?_, ?_⟩
  · intro found hfound
    rcases mem_or_eq_of_mem_set hfound with hmem | rfl
    · exact h.sound found hmem
    · exact (TravelController.propose_moves hsound.headed hpropose).sound hsound
  · intro active hmem
    rw [length_set]
    exact h.travel active hmem
  · intro proposal hmem
    rcases mem_append.mp hmem with hold | hnew
    · obtain ⟨found, checked, hfound, hchecked⟩ := h.proposed proposal hold
      have hne : index ≠ proposal.1 := fun hsame =>
        hdue (hsame ▸ mem_map_of_mem hold)
      exact ⟨found, checked, (List.getElem?_set_ne hne).trans hfound, hchecked⟩
    · cases mem_singleton.mp hnew
      exact ⟨⟨follower.params, controller⟩, checkpoint, List.getElem?_set_self hlength, hproposal⟩
  · show ((c.followerProposals ++ [(index, decision)]).map Prod.fst).Nodup
    rw [hoffered]
    exact nodup_append.mpr ⟨h.nodup, nodup_singleton _, fun found hfound other hother => by
      cases mem_singleton.mp hother
      exact fun hsame => hdue (hsame ▸ hfound)⟩
  · intro active hmem former hformer
    obtain ⟨current, hcurrent, hkept⟩ := h.active active hmem former hformer
    by_cases hsame : index = active
    · subst hsame
      obtain rfl := Option.some.inj (hfollower.symm.trans hcurrent)
      refine ⟨controller, List.getElem?_set_self hlength, .inr ⟨?_, (checkpoint, decision), hproposal, ?_⟩⟩
      · show index ∈ (c.followerProposals ++ [(index, decision)]).map Prod.fst
        rw [hoffered]
        exact mem_append_right _ (mem_singleton_self index)
      · rcases hkept with ⟨_, rfl⟩ | ⟨hasked, _⟩
        · exact hspared
        · exact absurd hasked hdue
    · refine ⟨current, (List.getElem?_set_ne hsame).trans hcurrent, ?_⟩
      have hiff : active ∈ (c.followerProposals ++ [(index, decision)]).map Prod.fst ↔
          active ∈ c.offered := by
        rw [hoffered, mem_append, mem_singleton]
        exact or_iff_left (Ne.symm hsame)
      exact hkept.imp (And.imp_left (mt hiff.mp)) (And.imp_left hiff.mpr)

end Proposing

/-! ## What a step does while it is proposed -/

/-- A computation ends as `post` says, unless it raises. -/
abbrev Leads {α : Type} (pre : AStarTravelController K → Prop) (program : RouteCall K α)
    (post : α → AStarTravelController K → Prop) : Prop :=
  Ensures pre program post (fun _ _ => True)

section Trying

variable {before c : AStarTravelController K}

theorem translate_tentative (decision : TravelDecision K) :
    Leads (Tentative before sighting) (translate decision) (fun _ => Tentative before sighting) :=
  .modifyGet (fun _ h => h.edited rfl rfl rfl rfl rfl)

/-- Only a follower that has not proposed is stopped for good. -/
theorem halt_tentative {reason : String} {observation : Option (TravelObservation K)} :
    Leads (fun s => Tentative before sighting s ∧ Safe before s)
      (halt metric params reason observation) (fun _ => Tentative before sighting) := by
  have hfinish : Leads (Tentative before sighting) (finish metric params reason observation)
      (fun _ => Tentative before sighting) :=
    .modifyGet (fun _ h => h.edited rfl rfl rfl rfl rfl)
  refine .get_bind (fun c hc => ?_)
  split
  · exact hfinish.mono_pre (fun s (hs : s = c) => hs ▸ hc.1)
  next index hactive =>
    have hstop : Leads (fun s => s = c)
        (onFollower index (fun follower => follower.stop metric reason observation))
        (fun _ => Tentative before sighting) := by
      refine onFollower_ensures ?_ (fun _ _ _ => trivial)
      rintro s rfl follower hfollower decision controller hstopped
      exact hc.1.stopped hactive hc.2 hfollower hstopped
    exact hstop.bind (fun internal =>
      .ite (fun _ => translate_tentative internal) (fun _ => hfinish))

theorem stepFollower_tentative :
    Leads (fun s => Tentative before sighting s ∧ Due s) (stepFollower metric observation)
      (fun _ s => Tentative before sighting s ∧ Offered s) := by
  refine .get_bind (fun c hc => ?_)
  split
  · exact .throw (fun _ _ => trivial)
  next index hactive =>
    refine .ite (fun hnone => ?_) (fun _ => ?_)
    · rw [hc.1.state] at hnone
      cases hnone
    · have hpropose : Leads (fun s => s = c)
          (onFollower index (TravelController.propose metric observation))
          (fun decision s => Tentative before sighting
            { s with followerProposals := s.followerProposals ++ [(index, decision)] } ∧
              s.travel = some index) := by
        refine onFollower_ensures ?_ (fun _ _ _ => trivial)
        rintro s rfl follower hfollower decision controller hproposed
        exact ⟨hc.1.offers (hc.2 index hactive) hfollower hproposed, hactive⟩
      refine hpropose.bind (fun decision => ?_)
      have hnoted : Leads (fun s => Tentative before sighting
            { s with followerProposals := s.followerProposals ++ [(index, decision)] } ∧
              s.travel = some index)
          (modify (fun s => { s with followerProposals := s.followerProposals ++ [(index, decision)] }))
          (fun _ s => Tentative before sighting s ∧ Offered s) := by
        refine .modify (fun s hs => ⟨hs.1, fun found hfound => ?_⟩)
        obtain rfl := Option.some.inj (hs.2.symm.trans hfound)
        exact mem_map.mpr ⟨(index, decision), mem_append_right _ (mem_singleton_self _), rfl⟩
      exact hnoted.bind (fun _ => .pure (fun _ => id))

section Planning

variable [IsStrictOrderedRing K] [FloorRing K]

/-- The search for a route from where the player is fails. -/
def failsToPlan (metric : Metric K) (params : RouteParameters K) (observation : TravelObservation K)
    (reason : PlanReason) (c : AStarTravelController K) : Bool :=
  match c.navigation with
  | none => false
  | some navigation =>
    match chooseRoute metric params (c.maps navigation.navigationMap) navigation.planningWindow
        observation.point reason with
    | .error (.routeNotFound _) => true
    | _ => false

theorem plan_tentative :
    Leads (fun s => Tentative before sighting s ∧
        (s.failsToPlan metric params observation reason = true → Safe before s))
      (plan metric params observation reason)
      (fun failure s => Tentative before sighting s ∧ (failure = none → Due s) ∧
        (failure.isSome = true → Safe before s)) := by
  refine .get_bind (fun c hc => ?_)
  split
  · exact .throw (fun _ _ => trivial)
  next navigation hnavigation =>
    split
    next message hplan =>
      refine .pure (fun s hs => ?_)
      cases hs
      refine ⟨hc.1, nofun, fun _ => hc.2 ?_⟩
      unfold failsToPlan
      rw [hnavigation]
      dsimp only
      rw [hplan]
    · exact .throw (fun _ _ => trivial)
    next planned _ =>
      intro s _
      obtain ⟨htentative, hdue⟩ := hc.1.adopted
        (TravelController.sound_constructed (followerOf metric params planned.route
          (planIdFor params reason c.replanCount navigation.token)
          (identifier_append_left params.planId_ok _)).params)
        planned.reachesDestination (some planned.mode)
        (if planned.mode = RouteMode.astarPartial then c.partialRouteCount + 1
          else c.partialRouteCount)
      exact ⟨htentative, fun _ => hdue, nofun⟩

theorem planOrStop_tentative :
    Leads (fun s => Tentative before sighting s ∧
        (s.failsToPlan metric params observation reason = true → Safe before s))
      (planOrStop metric params observation reason)
      (fun stopped s => Tentative before sighting s ∧ (stopped = none → Due s)) := by
  refine plan_tentative.bind (fun failure => ?_)
  cases failure with
  | none => exact .pure (fun s hs => ⟨hs.1, fun _ => hs.2.1 rfl⟩)
  | some message =>
    refine .bind (halt_tentative.mono_pre (fun s hs => ⟨hs.1, hs.2.2 rfl⟩)) (fun decision => ?_)
    exact .pure (fun s hs => ⟨hs, nofun⟩)

/-- After a step of its follower, the controller goes on; or the step is over. -/
abbrev Follows (before : AStarTravelController K) (sighting : Sighting K)
    (progress : RouteProgress K) (s : AStarTravelController K) : Prop :=
  Tentative before sighting s ∧ ∀ decision, progress = .going decision → Offered s

theorem replan_tentative :
    Leads (fun s => Tentative before sighting s ∧ Offered s)
      (replan metric params observation reason) (Follows before sighting) := by
  refine .bind (planOrStop_tentative.mono_pre
    (fun s hs => ⟨hs.1, fun _ => hs.2.safe before⟩)) (fun stopped => ?_)
  cases stopped with
  | some decision => exact .pure (fun s hs => ⟨hs.1, nofun⟩)
  | none =>
    have hcounted : Leads
        (fun s => Tentative before sighting s ∧ ((none : Option (TravelDecision K)) = none → Due s))
        (modify (fun s => { s with replanCount := s.replanCount + 1 }))
        (fun _ s => Tentative before sighting s ∧ Due s) :=
      .modify (fun s hs => ⟨hs.1.edited rfl rfl rfl rfl rfl, hs.2 rfl⟩)
    exact hcounted.bind (fun _ => stepFollower_tentative.bind
      (fun _ => .pure (fun s hs => ⟨hs.1, fun _ _ => hs.2⟩)))

theorem replanWithin_tentative :
    Leads (fun s => Tentative before sighting s ∧ Offered s)
      (replanWithin metric params observation reason) (Follows before sighting) := by
  refine .get_bind (fun c hc => .ite (fun _ => ?_) (fun _ => ?_))
  · exact .bind (halt_tentative.mono_pre (fun s (hs : s = c) => hs ▸ ⟨hc.1, hc.2.safe before⟩))
      (fun _ => .pure (fun s hs => ⟨hs, nofun⟩))
  · exact replan_tentative.mono_pre (fun s (hs : s = c) => hs ▸ hc)

theorem leaveCorridor_tentative :
    Leads (fun s => Tentative before sighting s ∧ Offered s)
      (leaveCorridor metric params observation decision) (Follows before sighting) :=
  .ite (fun _ => replanWithin_tentative)
    (fun _ => .pure (fun _ hs => ⟨hs.1, fun _ _ => hs.2⟩))

theorem passFrontier_tentative :
    Leads (fun s => Tentative before sighting s ∧ Offered s)
      (passFrontier metric params observation decision) (Follows before sighting) := by
  refine .get_bind (fun c hc => .ite (fun _ => ?_) (fun _ => ?_))
  · exact replanWithin_tentative.mono_pre (fun s (hs : s = c) => hs ▸ hc)
  · exact .pure (fun s (hs : s = c) => hs ▸ ⟨hc.1, fun _ _ => hc.2⟩)

omit [IsStrictOrderedRing K] in
/-- An obstacle is not learned before the proposal is acknowledged. -/
theorem learnObstacle_tentative :
    Leads (Tentative before sighting) (learnObstacle metric observation decision)
      (fun _ => Tentative before sighting) := by
  refine .get_bind (fun c hc => ?_)
  split
  · exact .throw (fun _ _ => trivial)
  next navigation _ =>
    refine .bind (activeWaypoint_ensures.weaken (fun s (hs : s = c) => hs ▸ hc)
      (fun _ _ => id) (fun _ _ _ => trivial)) (fun waypoint => ?_)
    refine .get_bind (fun s hs => .ite (fun hnone => ?_) (fun _ => ?_))
    · rw [hs.state] at hnone
      cases hnone
    · intro s' hs'
      cases hs'
      exact hs.edited rfl rfl rfl rfl rfl

theorem avoidObstacle_tentative :
    Leads (fun s => Tentative before sighting s ∧ Offered s)
      (avoidObstacle metric params observation decision) (fun _ => Tentative before sighting) := by
  have hcleared : Leads (fun s => Tentative before sighting s ∧ Offered s)
      (modify (fun s : AStarTravelController K => { s with backtrackPending := false }) :
        RouteCall K PUnit) (fun _ s => Tentative before sighting s ∧ Offered s) :=
    .modify (fun s hs => ⟨hs.1.edited rfl rfl rfl rfl rfl, hs.2⟩)
  have htranslate (decision : TravelDecision K) :
      Leads (fun s => Tentative before sighting s ∧ Offered s) (translate decision)
        (fun _ => Tentative before sighting) :=
    (translate_tentative decision).mono_pre (fun _ => And.left)
  refine .get_bind (fun c hc => .mono_pre ?_ (fun s (hs : s = c) => hs ▸ hc))
  refine .ite (fun _ => .ite (fun _ => ?_) (fun _ => ?_)) (fun _ => .ite
    (fun _ => ?_) (fun _ => ?_))
  · exact .bind (learnObstacle_tentative.mono_pre (fun _ => And.left))
      (fun _ => translate_tentative decision)
  · refine hcleared.bind (fun _ => replan_tentative.bind (fun progress => ?_))
    cases progress with
    | ended stopped => exact .pure (fun _ => And.left)
    | going decision => exact (translate_tentative decision).mono_pre (fun _ => And.left)
  · exact hcleared.bind (fun _ => htranslate decision)
  · exact htranslate decision

end Planning

end Trying

/-! ## Steps that stop no follower for good -/

section Undisturbed

variable [IsStrictOrderedRing K] [FloorRing K]

/-- The terrain that is sighted calls for a new route, and there is none. -/
def losesRoute (metric : Metric K) (params : RouteParameters K) (sighting : Sighting K)
    (observation : TravelObservation K) (c : AStarTravelController K) : Bool :=
  refreshes sighting c &&
    { c with maps := sighting.maps, navigation := some sighting.snapshot }.failsToPlan metric params
      observation .terrainRefresh

/-- The active follower, if there is one, has ended. -/
def followerEnded (c : AStarTravelController K) : Bool :=
  c.activeFollower.all (fun follower => follower.controller.terminal.isSome)

/-- A step from here stops no follower that it has not asked: the route or the follower has
ended, or else the observation is within bounds, and new terrain has a route. -/
def undisturbed (metric : Metric K) (params : RouteParameters K) (sighting : Sighting K)
    (observation : TravelObservation K) (c : AStarTravelController K) : Bool :=
  c.terminal.isSome || c.followerEnded ||
    ((c.boundary params observation).isNone && !c.losesRoute metric params sighting observation)

/-- The times of an observation are noted. -/
def observedAt (c : AStarTravelController K) (nowMs : ℕ) : AStarTravelController K :=
  { c with
    lastObservationMs := some nowMs
    startedAtMs := some (c.startedAtMs.getD nowMs) }

variable {before c : AStarTravelController K}

omit [IsStrictOrderedRing K] [FloorRing K] in
theorem observedAt_leads (nowMs : ℕ) : Leads (fun s => s = c)
    (modify (fun s : AStarTravelController K => s.observedAt nowMs))
    (fun _ s => s = c.observedAt nowMs) :=
  .modify (fun s hs => by rw [hs])

omit [IsStrictOrderedRing K] [FloorRing K] in
theorem sighted_leads : Leads (fun s => s = c)
    (modify (fun s : AStarTravelController K => { s with maps := sighting.maps }))
    (fun _ s => s = { c with maps := sighting.maps }) :=
  .modify (fun s hs => by rw [hs])

omit [IsStrictOrderedRing K] [FloorRing K] in
theorem followerEnded.safe (h : c.followerEnded = true) : Safe before c := by
  intro index hactive
  refine .inr (.inr (fun follower hfollower => ?_))
  have hfound : c.activeFollower = some follower := by
    unfold activeFollower
    rw [hactive]
    exact hfollower
  unfold followerEnded at h
  rw [hfound] at h
  exact h

section

variable (htentative : Tentative before sighting c)
include htentative

omit [IsStrictOrderedRing K] [FloorRing K] in
theorem observeBounds_tentative
    (hsafe : (c.boundary params observation).isSome = true → c.terminal = none → Safe before c) :
    Leads (fun s => s = c) (observeBounds metric params observation)
      (fun terminal s => Tentative before sighting s ∧ (terminal = none →
        c.terminal = none ∧ s = c.observedAt observation.nowMs)) := by
  refine .get_bind (fun s hs => ?_)
  cases hs
  split
  · exact .pure (fun s hs => ⟨hs ▸ htentative, nofun⟩)
  next hnone =>
    refine .ite (fun _ => .throw (fun _ _ => trivial)) (fun _ => ?_)
    have hkept : Tentative before sighting (c.observedAt observation.nowMs) :=
      htentative.edited rfl rfl rfl rfl rfl
    refine (observedAt_leads observation.nowMs).bind (fun _ => ?_)
    split
    next reason hreason =>
      have hstops : Safe before c := hsafe (by rw [hreason]; rfl) hnone
      exact .bind (halt_tentative.mono_pre (fun s hs => hs ▸ ⟨hkept, hstops⟩))
        (fun _ => .pure (fun s hs => ⟨hs, nofun⟩))
    · exact .pure (fun s hs => ⟨hs ▸ hkept, fun _ => ⟨hnone, hs⟩⟩)

theorem observeTerrain_tentative (hdue : Due c)
    (hsafe : c.losesRoute metric params sighting observation = true → Safe before c) :
    Leads (fun s => s = c) (observeTerrain metric params sighting observation)
      (fun stopped s => Tentative before sighting s ∧ (stopped = none → Due s)) := by
  have hsighted : Tentative before sighting { c with maps := sighting.maps } :=
    ⟨htentative.state, .inr rfl, htentative.sound, htentative.travel, htentative.proposed,
      htentative.nodup, htentative.active⟩
  refine sighted_leads.bind (fun _ => .get_bind (fun s hs => ?_))
  cases hs
  refine .ite (fun hrefreshes => ?_) (fun _ => ?_)
  · have hset : Leads (fun s => s = { c with maps := sighting.maps })
        (modify (fun s : AStarTravelController K =>
          { s with navigation := some sighting.snapshot, backtrackPending := false }))
        (fun _ s => Tentative before sighting s ∧
          (s.failsToPlan metric params observation .terrainRefresh = true → Safe before s)) := by
      refine .modify (fun s hs => ?_)
      cases hs
      refine ⟨hsighted.edited rfl rfl rfl rfl rfl, fun hfails => hsafe ?_⟩
      unfold losesRoute
      exact Bool.and_eq_true_iff.mpr ⟨hrefreshes, hfails⟩
    exact hset.bind (fun _ => planOrStop_tentative)
  · exact .pure (fun s hs => hs ▸ ⟨hsighted, fun _ => hdue⟩)

theorem approach_tentative (hdue : Due c)
    (hcalm : c.undisturbed metric params sighting observation = true) :
    Leads (fun s => s = c) (approach metric params sighting observation)
      (Follows before sighting) := by
  have hcases : c.terminal.isSome = true ∨ c.followerEnded = true ∨
      ((c.boundary params observation).isNone = true ∧
        c.losesRoute metric params sighting observation = false) := by
    unfold undisturbed at hcalm
    simpa only [Bool.or_eq_true, Bool.and_eq_true, Bool.not_eq_true', or_assoc] using hcalm
  have hbounds : (c.boundary params observation).isSome = true → c.terminal = none →
      Safe before c := by
    intro hreason hnone
    rcases hcases with hended | hended | ⟨hwithin, _⟩
    · rw [hnone] at hended
      cases hended
    · exact followerEnded.safe hended
    · rw [Option.isNone_iff_eq_none.mp hwithin] at hreason
      cases hreason
  refine (observeBounds_tentative htentative hbounds).bind (fun terminal => ?_)
  cases terminal with
  | some decision => exact .pure (fun s hs => ⟨hs.1, nofun⟩)
  | none =>
    have hterrain : Leads (fun s => Tentative before sighting s ∧
          ((none : Option (TravelDecision K)) = none →
            c.terminal = none ∧ s = c.observedAt observation.nowMs))
        (observeTerrain metric params sighting observation)
        (fun stopped s => Tentative before sighting s ∧ (stopped = none → Due s)) := by
      intro s hs
      obtain ⟨hnone, rfl⟩ := hs.2 rfl
      refine observeTerrain_tentative hs.1 hdue (fun hloses => ?_) _ rfl
      rcases hcases with hended | hended | ⟨_, hkeeps⟩
      · rw [hnone] at hended
        cases hended
      · exact followerEnded.safe hended
      · cases hkeeps.symm.trans hloses
    refine hterrain.bind (fun stopped => ?_)
    cases stopped with
    | some decision => exact .pure (fun s hs => ⟨hs.1, nofun⟩)
    | none =>
      exact .bind (stepFollower_tentative.mono_pre (fun s hs => ⟨hs.1, hs.2 rfl⟩))
        (fun _ => leaveCorridor_tentative)

/-- **A step that stops no follower for good can be taken back.** -/
theorem step_tentative (hdue : Due c)
    (hcalm : c.undisturbed metric params sighting observation = true) :
    Leads (fun s => s = c) (step metric params sighting observation)
      (fun _ => Tentative before sighting) := by
  refine (approach_tentative htentative hdue hcalm).bind (fun progress => ?_)
  cases progress with
  | ended decision => exact .pure (fun _ => And.left)
  | going decision =>
    refine .bind (passFrontier_tentative.mono_pre
      (fun s hs => ⟨hs.1, hs.2 decision rfl⟩)) (fun progress => ?_)
    cases progress with
    | ended stopped => exact .pure (fun _ => And.left)
    | going decision =>
      exact avoidObstacle_tentative.mono_pre (fun s hs => ⟨hs.1, hs.2 decision rfl⟩)

end

end Undisturbed

/-! ## Steps that stop a follower for good -/

section Disturbed

variable [IsStrictOrderedRing K] [FloorRing K]

/-- A proposal under way that has asked no follower yet. -/
structure Unasked (before : AStarTravelController K) (index : ℕ) (follower : Follower K)
    (c : AStarTravelController K) : Prop where
  state : c.proposalState = some before.toRouteDispatch
  idle : c.followerProposals = []
  travel : c.travel = some index
  active : c.followers[index]? = some follower

/-- A proposal that has asked no follower and ended one. -/
structure Disturbed (before : AStarTravelController K) (index : ℕ) (c : AStarTravelController K) :
    Prop where
  state : c.proposalState = some before.toRouteDispatch
  idle : c.followerProposals = []
  ended : ∃ follower, c.followers[index]? = some follower ∧
    follower.controller.terminal.isSome = true

variable {before c : AStarTravelController K} {index : ℕ} {follower : Follower K}

omit [IsStrictOrderedRing K] [FloorRing K] in
theorem halt_disturbed {reason : String} {observation : Option (TravelObservation K)} :
    Leads (Unasked before index follower) (halt metric params reason observation)
      (fun _ => Disturbed before index) := by
  refine .get_bind (fun c hc => ?_)
  rw [hc.travel]
  have hstop : Leads (fun s => s = c)
      (onFollower index (fun follower => follower.stop metric reason observation))
      (fun _ => Disturbed before index) := by
    refine onFollower_ensures ?_ (fun _ _ _ => trivial)
    rintro s rfl found hfound decision controller hstopped
    refine ⟨hc.state, hc.idle, ⟨found.params, controller⟩, List.getElem?_set_self
      (List.getElem?_eq_some_iff.mp hfound).1, ?_⟩
    rcases (TravelController.stop_cases hstopped).2 with ⟨hterminal, rfl⟩ | ⟨_, hterminal, _⟩
    · rw [hterminal]
      rfl
    · rw [hterminal]
      rfl
  have htranslate (decision : TravelDecision K) : Leads (Disturbed before index)
      (translate decision) (fun _ => Disturbed before index) :=
    .modifyGet (fun _ h => ⟨h.state, h.idle, h.ended⟩)
  have hfinish : Leads (Disturbed before index) (finish metric params reason observation)
      (fun _ => Disturbed before index) :=
    .modifyGet (fun _ h => ⟨h.state, h.idle, h.ended⟩)
  exact hstop.bind (fun internal => .ite (fun _ => htranslate internal) (fun _ => hfinish))

omit [IsStrictOrderedRing K] [FloorRing K] in
theorem observeBounds_disturbed (hc : Unasked before index follower c) (hnone : c.terminal = none) :
    Leads (fun s => s = c) (observeBounds metric params observation)
      (fun terminal s => terminal.isSome = true ∧ Disturbed before index s ∨
        terminal = none ∧ (c.boundary params observation).isNone = true ∧
          s = c.observedAt observation.nowMs) := by
  refine .get_bind (fun s hs => ?_)
  cases hs
  rw [hnone]
  refine .ite (fun _ => .throw (fun _ _ => trivial)) (fun _ => ?_)
  refine (observedAt_leads observation.nowMs).bind (fun _ => ?_)
  cases c.boundary params observation with
  | some reason =>
    have hkept : Unasked before index follower (c.observedAt observation.nowMs) :=
      ⟨hc.state, hc.idle, hc.travel, hc.active⟩
    exact .bind (halt_disturbed.mono_pre (fun s hs => hs ▸ hkept))
      (fun _ => .pure (fun s hs => .inl ⟨rfl, hs⟩))
  | none => exact .pure (fun s hs => .inr ⟨rfl, rfl, hs⟩)

theorem planOrStop_disturbed :
    Leads (fun s => Unasked before index follower s ∧
        s.failsToPlan metric params observation reason = true)
      (planOrStop metric params observation reason)
      (fun stopped s => stopped.isSome = true ∧ Disturbed before index s) := by
  have hplan : Leads (fun s => Unasked before index follower s ∧
        s.failsToPlan metric params observation reason = true)
      (plan metric params observation reason)
      (fun failure s => failure.isSome = true ∧ Unasked before index follower s) := by
    refine .get_bind (fun c hc => ?_)
    obtain ⟨hunasked, hfails⟩ := hc
    unfold failsToPlan at hfails
    split at hfails
    · cases hfails
    next navigation hnavigation =>
      rw [hnavigation]
      split at hfails
      next message hchosen =>
        dsimp only
        rw [hchosen]
        exact .pure (fun s hs => hs ▸ ⟨rfl, hunasked⟩)
      · cases hfails
  refine hplan.bind (fun failure => ?_)
  cases failure with
  | none => exact .pure (fun _ hs => absurd hs.1 Bool.false_ne_true)
  | some message =>
    exact .bind (halt_disturbed.mono_pre (fun _ => And.right))
      (fun _ => .pure (fun _ hs => ⟨rfl, hs⟩))

theorem observeTerrain_disturbed (hc : Unasked before index follower c)
    (hloses : c.losesRoute metric params sighting observation = true) :
    Leads (fun s => s = c) (observeTerrain metric params sighting observation)
      (fun stopped s => stopped.isSome = true ∧ Disturbed before index s) := by
  refine sighted_leads.bind (fun _ => .get_bind (fun s hs => ?_))
  cases hs
  obtain ⟨hrefreshes, hfails⟩ := Bool.and_eq_true_iff.mp hloses
  refine .ite (fun _ => ?_) (fun hstays => absurd hrefreshes hstays)
  have hset : Leads (fun s => s = { c with maps := sighting.maps })
      (modify (fun s : AStarTravelController K =>
        { s with navigation := some sighting.snapshot, backtrackPending := false }))
      (fun _ s => Unasked before index follower s ∧
        s.failsToPlan metric params observation .terrainRefresh = true) := by
    refine .modify (fun s hs => ?_)
    cases hs
    exact ⟨⟨hc.state, hc.idle, hc.travel, hc.active⟩, hfails⟩
  exact hset.bind (fun _ => planOrStop_disturbed)

/-- **A step that stops the follower before it asks it.** -/
theorem step_disturbed (hc : Unasked before index follower c) (hnone : c.terminal = none)
    (hdisturbed : (c.boundary params observation).isNone = true →
      c.losesRoute metric params sighting observation = true) :
    Leads (fun s => s = c) (step metric params sighting observation)
      (fun _ => Disturbed before index) := by
  have happroach : Leads (fun s => s = c) (approach metric params sighting observation)
      (fun progress s => (∃ decision, progress = .ended decision) ∧ Disturbed before index s) := by
    refine (observeBounds_disturbed hc hnone).bind (fun terminal => ?_)
    cases terminal with
    | some decision =>
      exact Ensures.pure (fun s hs => ⟨⟨decision, rfl⟩, (hs.resolve_right nofun).2⟩)
    | none =>
      intro s hs
      obtain ⟨_, hwithin, rfl⟩ := hs.resolve_left nofun
      have hkept : Unasked before index follower (c.observedAt observation.nowMs) :=
        ⟨hc.state, hc.idle, hc.travel, hc.active⟩
      refine Ensures.bind (observeTerrain_disturbed hkept (hdisturbed hwithin)) (fun stopped => ?_)
        _ rfl
      cases stopped with
      | some decision => exact Ensures.pure (fun s hs => ⟨⟨decision, rfl⟩, hs.2⟩)
      | none => exact fun _ hs => absurd hs.1 nofun
  refine happroach.bind (fun progress s hs => ?_)
  obtain ⟨⟨decision, rfl⟩, hends⟩ := hs
  exact hends

end Disturbed

/-! ## Taking a proposal back -/

section Withdrawing

variable {before c : AStarTravelController K}

/-- The followers after each of some proposals was deferred: the ones that made them have what
their checkpoints say, and the others are as they were. -/
structure Withdrawn (c : AStarTravelController K) (proposals : List (ℕ × TravelDecision K))
    (followers : List (Follower K)) : Prop where
  others : ∀ index ∉ proposals.map Prod.fst, followers[index]? = c.followers[index]?
  restored : ∀ proposal ∈ proposals, ∀ follower checkpoint,
    c.followers[proposal.1]? = some follower →
    follower.controller.proposal = some (checkpoint, proposal.2) →
      ∃ deferred : TravelController follower.params,
        followers[proposal.1]? = some ⟨follower.params, deferred⟩ ∧
          deferred.clickCount = checkpoint.clickCount ∧
          deferred.attemptCount = checkpoint.attemptCount ∧
          deferred.terminal = checkpoint.terminal

/-- Proposals that are all outstanding, each of another follower, can be deferred. -/
theorem deferEach_run (metric : Metric K) (observation : TravelObservation K)
    (proposals : List (ℕ × TravelDecision K)) (c : AStarTravelController K)
    (hproposed : ∀ proposal ∈ proposals, ∃ follower checkpoint,
      c.followers[proposal.1]? = some follower ∧
        follower.controller.proposal = some (checkpoint, proposal.2))
    (hnodup : (proposals.map Prod.fst).Nodup) :
    ∃ followers, (proposals.forM (fun proposal => do
        let _ ← onFollower proposal.1 (fun follower =>
          follower.deferDispatch metric observation proposal.2)
        pure ⟨⟩) : RouteCall K PUnit).run c = .ok ⟨⟩ { c with followers := followers } ∧
      Withdrawn c proposals followers := by
  induction proposals generalizing c with
  | nil => exact ⟨c.followers, rfl, fun _ _ => rfl, fun _ hmem => absurd hmem not_mem_nil⟩
  | cons proposal proposals ih =>
    obtain ⟨hfresh, hnodup⟩ := nodup_cons.mp hnodup
    obtain ⟨follower, checkpoint, hfollower, hchecked⟩ := hproposed proposal mem_cons_self
    obtain ⟨withdrawn, deferred, hdefer, hclicks, hattempts, hended⟩ :=
      follower.controller.deferDispatch_ok metric observation hchecked
    have hlength := (List.getElem?_eq_some_iff.mp hfollower).1
    have hothers {other : ℕ} (hother : other ∈ proposals.map Prod.fst) : proposal.1 ≠ other :=
      fun hsame => hfresh (hsame ▸ hother)
    obtain ⟨followers, hrun, hrest⟩ := ih
      { c with followers := c.followers.set proposal.1 ⟨follower.params, deferred⟩ }
      (fun later hlater => by
        obtain ⟨found, checked, hfound, hheld⟩ := hproposed later (mem_cons_of_mem _ hlater)
        exact ⟨found, checked, (List.getElem?_set_ne
          (hothers (mem_map_of_mem hlater))).trans hfound, hheld⟩) hnodup
    refine ⟨followers, ?_, ?_, ?_⟩
    · rw [forM_eq_forM, forM_cons, EStateM.run_bind, EStateM.run_bind, onFollower_run,
        hfollower]
      dsimp only
      rw [hdefer]
      exact hrun
    · intro index hindex
      obtain ⟨hne, hnot⟩ := not_or.mp (mt mem_cons.mpr hindex)
      exact (hrest.others index hnot).trans (List.getElem?_set_ne (Ne.symm hne))
    · intro later hlater found checked hfound hheld
      rcases mem_cons.mp hlater with rfl | hlater
      · obtain rfl := Option.some.inj (hfollower.symm.trans hfound)
        obtain ⟨rfl, _⟩ := Prod.mk.inj (Option.some.inj (hchecked.symm.trans hheld))
        exact ⟨deferred, (hrest.others later.1 hfresh).trans (List.getElem?_set_self hlength),
          hclicks, hattempts, hended⟩
      · exact hrest.restored later hlater found checked
          ((List.getElem?_set_ne (hothers (mem_map_of_mem hlater))).trans hfound) hheld

/-- The state after a proposal was deferred. -/
theorem deferDispatch_run (metric : Metric K) (observation : TravelObservation K)
    {checkpoint : RouteDispatch K} (hstate : c.proposalState = some checkpoint)
    (hdecision : c.proposalDecision = some decision)
    (hproposed : ∀ proposal ∈ c.followerProposals, ∃ follower checkpoint,
      c.followers[proposal.1]? = some follower ∧
        follower.controller.proposal = some (checkpoint, proposal.2)) (hnodup : c.offered.Nodup) :
    ∃ withdrawn followers, (deferDispatch metric observation decision).run c = .ok withdrawn
        { c with followers := followers, toRouteDispatch := checkpoint }.clearProposal ∧
      Withdrawn c c.followerProposals followers := by
  obtain ⟨followers, hrun, hwithdrawn⟩ := deferEach_run metric observation c.followerProposals c hproposed hnodup
  refine ⟨decision.withdrawn decision.waypointIndex checkpoint.clickCount, followers, ?_, hwithdrawn⟩
  have hrequire : (requireProposal decision).run c = .ok ⟨⟩ c := by
    unfold requireProposal
    rw [EStateM.run_bind, EStateM.run_get]
    dsimp only
    have hmatches : ¬ ((some checkpoint).isNone = true ∨ some decision ≠ some decision) :=
      not_or.mpr ⟨Bool.false_ne_true, fun hne => hne rfl⟩
    rw [hstate, hdecision, if_neg hmatches]
    rfl
  have hdefer : (deferFollowers metric observation).run c =
      .ok ⟨⟩ { c with followers := followers } := hrun
  have hrewind : (rewind metric observation).run c = .ok ⟨⟩
      { c with followers := followers, toRouteDispatch := checkpoint }.clearProposal := by
    unfold rewind
    rw [EStateM.run_bind, hdefer]
    dsimp only
    rw [EStateM.run_bind, EStateM.run_get]
    dsimp only
    rw [hstate]
    rfl
  unfold deferDispatch
  rw [EStateM.run_bind, hrequire]
  dsimp only
  rw [EStateM.run_bind, hrewind]
  rfl

end Withdrawing

/-! ## Deferred proposals -/

section Deferral

variable [IsStrictOrderedRing K] [FloorRing K]

/-- What a deferred proposal may not change: the counts, the end and the mode of the route, the
counts and the end of the follower that was active, and the maps, which are as they were or as
they have just been sighted. -/
structure Untraced (sighting : Sighting K) (before after : AStarTravelController K) : Prop where
  clicks : after.clickCount = before.clickCount
  attempts : after.attemptCount = before.attemptCount
  replans : after.replanCount = before.replanCount
  fallbacks : after.directFallbackCount = before.directFallbackCount
  partials : after.partialRouteCount = before.partialRouteCount
  ended : after.terminal = before.terminal
  mode : after.routeMode = before.routeMode
  follower : ∀ former ∈ before.activeFollower, ∃ current ∈ after.activeFollower,
    current.controller.clickCount = former.controller.clickCount ∧
      current.controller.attemptCount = former.controller.attemptCount ∧
      current.controller.terminal = former.controller.terminal
  maps : after.maps = before.maps ∨ after.maps = sighting.maps

variable {before proposed : AStarTravelController K} {decision : TravelDecision K}

/-- A proposal is a step from a state that remembers itself. -/
theorem propose_eq_ok
    (h : (propose metric params sighting observation).run before = .ok decision proposed) :
    ∃ stepped, (step metric params sighting observation).run
        { before with proposalState := some before.toRouteDispatch } = .ok decision stepped ∧
      proposed = { stepped with proposalDecision := some decision } := by
  unfold propose at h
  rw [EStateM.run_bind, EStateM.run_get] at h
  dsimp only at h
  split at h
  · cases h
  rw [EStateM.run_bind, EStateM.run_set] at h
  dsimp only at h
  rw [EStateM.run_bind, run_tryCatch] at h
  cases hstep : (step metric params sighting observation).run
      { before with proposalState := some before.toRouteDispatch } with
  | ok stepped after =>
    rw [hstep] at h
    cases h
    exact ⟨after, rfl, rfl⟩
  | error fault after =>
    rw [hstep] at h
    dsimp only at h
    rw [EStateM.run_bind] at h
    cases hrewound : (rewind metric observation).run after <;> rw [hrewound] at h <;> cases h

omit [IsStrictOrderedRing K] [FloorRing K] in
/-- A proposal that can be taken back is. -/
theorem Tentative.defers (metric : Metric K) (observation : TravelObservation K)
    (h : Tentative before sighting c) (hdecision : c.proposalDecision = some decision) :
    ∃ withdrawn after, (deferDispatch metric observation decision).run c = .ok withdrawn after ∧
      Untraced sighting before after := by
  obtain ⟨withdrawn, followers, hrun, hwithdrawn⟩ := deferDispatch_run metric observation h.state hdecision h.proposed h.nodup
  refine ⟨withdrawn, _, hrun, rfl, rfl, rfl, rfl, rfl, rfl, rfl, fun former hformer => ?_, h.maps⟩
  obtain ⟨index, hactive, hfollower⟩ := Option.bind_eq_some_iff.mp hformer
  obtain ⟨controller, hcurrent, hcases⟩ := h.active index hactive former hfollower
  rcases hcases with ⟨hfresh, rfl⟩ | ⟨hoffered, proposal, hheld, hspared⟩
  · exact ⟨_, Option.bind_eq_some_iff.mpr ⟨index, hactive,
      (hwithdrawn.others index hfresh).trans hcurrent⟩, rfl, rfl, rfl⟩
  · obtain ⟨⟨index, answered⟩, hmem, rfl⟩ := mem_map.mp hoffered
    obtain ⟨found, checkpoint, hfound, hchecked⟩ := h.proposed _ hmem
    obtain rfl := Option.some.inj (hcurrent.symm.trans hfound)
    obtain rfl := Option.some.inj (hchecked.symm.trans hheld)
    obtain ⟨deferred, hdeferred, hclicks, hattempts, hended⟩ :=
      hwithdrawn.restored _ hmem _ checkpoint hcurrent hchecked
    exact ⟨_, Option.bind_eq_some_iff.mpr ⟨index, hactive, hdeferred⟩,
      hclicks.trans hspared.clicks, hattempts.trans hspared.attempts, hended.trans hspared.ended⟩

omit [IsStrictOrderedRing K] [FloorRing K] in
/-- A follower that was stopped unasked stays stopped. -/
theorem Disturbed.defers (metric : Metric K) (observation : TravelObservation K)
    (sighting : Sighting K) (h : Disturbed before index c) (hactive : before.travel = some index)
    (hfollower : before.followers[index]? = some follower)
    (hgoing : follower.controller.terminal = none) (hdecision : c.proposalDecision = some decision)
    :
    ∃ withdrawn after, (deferDispatch metric observation decision).run c = .ok withdrawn after ∧
      ¬ Untraced sighting before after := by
  obtain ⟨withdrawn, followers, hrun, hwithdrawn⟩ := deferDispatch_run metric observation h.state hdecision
    (fun _ hmem => absurd (h.idle ▸ hmem) not_mem_nil)
    (by unfold offered; rw [h.idle]; exact nodup_nil)
  refine ⟨withdrawn, _, hrun, fun huntraced => ?_⟩
  obtain ⟨ended, hended, hterminal⟩ := h.ended
  obtain ⟨current, hcurrent, _, _, hsame⟩ := huntraced.follower follower
    (Option.bind_eq_some_iff.mpr ⟨index, hactive, hfollower⟩)
  obtain ⟨found, hfound, hheld⟩ := Option.bind_eq_some_iff.mp hcurrent
  obtain rfl := Option.some.inj (hactive.symm.trans hfound)
  have hothers := hwithdrawn.others index (by rw [h.idle]; exact not_mem_nil)
  obtain rfl := Option.some.inj ((hothers.trans hended).symm.trans hheld)
  rw [hsame, hgoing] at hterminal
  cases hterminal

end Deferral

end AStarTravelController

section Reachable

open AStarTravelController

variable [IsStrictOrderedRing K] [FloorRing K] {events : List (RouteEvent K)}
  {before proposed : AStarTravelController K} {decision : TravelDecision K}

/-- **Deferral leaves no trace, exactly where no follower is stopped unasked.** -/
theorem deferral_untraced_iff (history : RouteHistory metric params events before)
    (hidle : before.proposalState = none)
    (hpropose : (AStarTravelController.propose metric params sighting observation).run before =
      .ok decision proposed) (later : TravelObservation K) :
    ∃ withdrawn after,
      (AStarTravelController.deferDispatch metric later decision).run proposed =
          .ok withdrawn after ∧
        (AStarTravelController.Untraced sighting before after ↔
          before.undisturbed metric params sighting observation = true) := by
  have hwired := history.wired
  have hoffered : [] = before.offered := congrArg (List.map Prod.fst) (hwired.idle hidle).symm
  obtain ⟨stepped, hstep, rfl⟩ := propose_eq_ok hpropose
  by_cases hcalm : before.undisturbed metric params sighting observation = true
  · have htentative : Tentative before sighting
        { before with proposalState := some before.toRouteDispatch } := by
      refine ⟨rfl, .inl rfl, hwired.sound, hwired.travel, ?_, ?_, ?_⟩
      · intro proposal hmem
        exact absurd (hwired.idle hidle ▸ hmem) not_mem_nil
      · exact hoffered ▸ nodup_nil
      · intro index _ follower hfollower
        exact ⟨follower.controller, hfollower, .inl ⟨hoffered ▸ not_mem_nil, rfl⟩⟩
    have hdue : Due { before with proposalState := some before.toRouteDispatch } :=
      fun _ _ => hoffered ▸ not_mem_nil
    have hstepped := (step_tentative htentative hdue hcalm).ok rfl hstep
    have hnoted : Tentative before sighting
        { stepped with proposalDecision := some decision } := hstepped.edited rfl rfl rfl rfl rfl
    obtain ⟨withdrawn, after, hrun, huntraced⟩ := hnoted.defers metric later rfl
    exact ⟨withdrawn, after, hrun, iff_of_true huntraced hcalm⟩
  · obtain ⟨hrest, hlost⟩ := not_or.mp (mt Bool.or_eq_true_iff.mpr hcalm)
    obtain ⟨hterminal, hended⟩ := not_or.mp (mt Bool.or_eq_true_iff.mpr hrest)
    unfold followerEnded at hended
    cases hfollower : before.activeFollower with
    | none =>
      rw [hfollower] at hended
      exact absurd rfl hended
    | some follower =>
      rw [hfollower] at hended
      have hgoing : follower.controller.terminal = none := Option.not_isSome_iff_eq_none.mp hended
      obtain ⟨index, hactive, hfound⟩ := Option.bind_eq_some_iff.mp hfollower
      have hunasked : Unasked before index follower
          { before with proposalState := some before.toRouteDispatch } :=
        ⟨rfl, hwired.idle hidle, hactive, hfound⟩
      have hstepped := (step_disturbed hunasked
        (Option.not_isSome_iff_eq_none.mp hterminal) (fun hwithin => by
          by_contra hkeeps
          exact hlost (Bool.and_eq_true_iff.mpr ⟨hwithin,
            Bool.not_eq_true' _ ▸ Bool.eq_false_iff.mpr hkeeps⟩))).ok rfl hstep
      have hnoted : Disturbed before index
          { stepped with proposalDecision := some decision } :=
        ⟨hstepped.state, hstepped.idle, hstepped.ended⟩
      obtain ⟨withdrawn, after, hrun, htraced⟩ := hnoted.defers metric later sighting hactive hfound hgoing rfl
      exact ⟨withdrawn, after, hrun, iff_of_false htraced hcalm⟩

end Reachable

namespace room

/-- A route across the room, once its follower is under way. -/
def underway : AStarTravelController ℚ :=
  ((AStarTravelController.record Metric.axial across { maps := fun _ => walls }
    (.step room.sighting (standing 0 (1 / 2))))).2

/-- What a proposal is answered with. -/
def proposal (observation : TravelObservation ℚ) :
    EStateM.Result RouteFault (AStarTravelController ℚ) (TravelDecision ℚ) :=
  (AStarTravelController.propose Metric.axial across room.sighting observation).run underway

/-- A proposal is answered, and once it is deferred the active follower has ended. -/
def stopsFollower (observation : TravelObservation ℚ) : Bool :=
  match proposal observation with
  | .error _ _ => false
  | .ok decision proposed =>
    match (AStarTravelController.deferDispatch Metric.axial observation decision).run proposed with
    | .error _ _ => false
    | .ok _ after => after.activeFollower.any (fun follower => follower.controller.terminal.isSome)

end room

/-- A player in the room is asked to walk, and the proposal is deferred. -/
theorem deferral_untraced_across :
    ∃ event decision proposed withdrawn after,
      RouteHistory Metric.axial room.across [event] room.underway ∧
      room.proposal (room.standing 1000 (1 / 2)) = .ok decision proposed ∧
      (AStarTravelController.deferDispatch Metric.axial (room.standing 2000 (1 / 2)) decision).run
        proposed = .ok withdrawn after ∧
      AStarTravelController.Untraced room.sighting room.underway after := by
  have history : RouteHistory Metric.axial room.across _ room.underway :=
    (RouteHistory.constructed (fun _ => room.walls)).served _
  have hanswered : (match room.proposal (room.standing 1000 (1 / 2)) with
    | .ok _ _ => true
    | .error _ _ => false) = true := by decide +kernel
  split at hanswered
  next decision proposed hproposal =>
    obtain ⟨withdrawn, after, hdefer, huntraced⟩ := deferral_untraced_iff history
      (by decide +kernel) hproposal (room.standing 2000 (1 / 2))
    exact ⟨_, decision, proposed, withdrawn, after, history, hproposal, hdefer,
      huntraced.mpr (by decide +kernel)⟩
  · cases hanswered

/-- A player in low health: the follower stays stopped after the deferral. -/
theorem room_follower_stopped :
    ∃ event observation decision proposed withdrawn after,
      RouteHistory Metric.axial room.across [event] room.underway ∧
      room.underway.proposalState = none ∧
      room.proposal observation = .ok decision proposed ∧
      (AStarTravelController.deferDispatch Metric.axial observation decision).run proposed =
        .ok withdrawn after ∧
      room.underway.activeFollower.any (fun follower => follower.controller.terminal.isNone) = true ∧
      after.activeFollower.any (fun follower => follower.controller.terminal.isSome) = true := by
  have history : RouteHistory Metric.axial room.across _ room.underway :=
    (RouteHistory.constructed (fun _ => room.walls)).served _
  have hstops : room.stopsFollower { room.standing 1000 (1 / 2) with healthFraction := 0 } = true := by
    decide +kernel
  unfold room.stopsFollower at hstops
  split at hstops
  · cases hstops
  next decision proposed hproposal =>
    split at hstops
    · cases hstops
    next withdrawn after hdefer =>
      exact ⟨_, _, decision, proposed, withdrawn, after, history, by decide +kernel, hproposal,
        hdefer, by decide +kernel, hstops⟩

end ShadowbaneLab
