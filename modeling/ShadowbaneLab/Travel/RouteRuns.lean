/-
# Runs of the route controller

Histories of calls on an `AStarTravelController`, in any order, those that raise included.
-/
import ShadowbaneLab.Travel.Adaptive

namespace ShadowbaneLab

open Foundation

variable {K : Type} [Field K] [LinearOrder K]

/-- A call on the controller; a step takes with it what the navigation source answers. -/
inductive RouteRequest (K : Type) [Field K] [LinearOrder K] where
  | step (sighting : Sighting K) (observation : TravelObservation K)
  | propose (sighting : Sighting K) (observation : TravelObservation K)
  | acknowledgeDispatch (decision : TravelDecision K)
  | deferDispatch (decision : TravelDecision K) (observation : TravelObservation K)
  | observeDeferred (observation : TravelObservation K)
  | stop (reason : String) (observation : Option (TravelObservation K))

/-- The observation passed to a call. -/
def RouteRequest.observes : RouteRequest K → Option (TravelObservation K)
  | .step _ observation => some observation
  | .propose _ observation => some observation
  | .acknowledgeDispatch _ => none
  | .deferDispatch _ observation => some observation
  | .observeDeferred observation => some observation
  | .stop _ observation => observation

/-- A call that was made: the state before it, and what it returned or raised. -/
structure RouteEvent (K : Type) [Field K] [LinearOrder K] where
  before : AStarTravelController K
  request : RouteRequest K
  answer : Except RouteFault (Option (TravelDecision K))

section Runs

variable [IsStrictOrderedRing K] [FloorRing K] (metric : Metric K) (params : RouteParameters K)

/-- Make a call: the decision it returns, if any. -/
def AStarTravelController.serve : RouteRequest K → RouteCall K (Option (TravelDecision K))
  | .step sighting observation => do
    let decision ← step metric params sighting observation
    pure (some decision)
  | .propose sighting observation => do
    let decision ← propose metric params sighting observation
    pure (some decision)
  | .acknowledgeDispatch decision => do
    acknowledgeDispatch metric decision
    pure none
  | .deferDispatch decision observation => do
    let withdrawn ← deferDispatch metric observation decision
    pure (some withdrawn)
  | .observeDeferred observation => do
    let decision ← observeDeferred metric params observation
    pure (some decision)
  | .stop reason observation => do
    let decision ← stop metric params reason observation
    pure (some decision)

/-- Make a call, and note it. -/
def AStarTravelController.record (controller : AStarTravelController K) (request : RouteRequest K) :
    RouteEvent K × AStarTravelController K :=
  match (serve metric params request).run controller with
  | .ok answer after => (⟨controller, request, .ok answer⟩, after)
  | .error fault after => (⟨controller, request, .error fault⟩, after)

/-- The histories of a controller: the events so far, the latest one first. -/
inductive RouteHistory : List (RouteEvent K) → AStarTravelController K → Prop
  | constructed (maps : ℕ → SparseNavigationMap K) : RouteHistory [] { maps := maps }
  | served {events : List (RouteEvent K)} {controller : AStarTravelController K}
      (history : RouteHistory events controller) (request : RouteRequest K) :
      RouteHistory ((controller.record metric params request).1 :: events)
        (controller.record metric params request).2

end Runs

end ShadowbaneLab
