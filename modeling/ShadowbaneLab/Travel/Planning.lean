/-
# Planned routes

`WeightedAStarPlanner` (`src/shadowbane_lab/travel/pathfinding.py`): the search towards a
destination whose cell may be blocked, the smoothing of its path, and the routes planned from
both.  Diagnostic events are left out.
-/
import ShadowbaneLab.Travel.Segments

namespace ShadowbaneLab

open Foundation

variable {K : Type} [Field K] [LinearOrder K]

/-! ## Errors -/

/-- The errors of planning: `AStarRouteNotFound` with its message, a `ValueError`, and what
would be a bug of the search (a missing key, a loop that does not end). -/
inductive PlanFault where
  | routeNotFound (message : String)
  | invalid
  | internal (fault : SearchFault)
  | unfinished
  deriving DecidableEq, Repr

/-- The error a failed search raises. -/
def SearchFault.planFault : SearchFault → PlanFault
  | .endpointBlocked => .routeNotFound "A* endpoint is blocked"
  | .budgetExhausted => .routeNotFound "A* expansion budget exhausted"
  | .noRoute => .routeNotFound "A* found no route inside the planning window"
  | fault => .internal fault

/-- A destination, unless its radius is not positive. -/
def TravelDestination.make (point : PlanarVector K) (arrivalRadius : K) :
    Except PlanFault (TravelDestination K) :=
  if h : 0 < arrivalRadius then .ok ⟨point.x, point.y, arrivalRadius, h⟩ else .error .invalid

/-! ## Arrival regions -/

section Arrival

variable (metric : Metric K) (config : WeightedAStarConfig K) (grid : NavigationCostGrid K)

/-- The point of a cell nearest to a destination, a little inside the cell. -/
def nearestInside (cell : NavigationCell) (destination : TravelDestination K) : PlanarVector K :=
  let inset := grid.cellSize * (1 / 10 ^ 6)
  ⟨min (max destination.lt ((cell.x : K) * grid.cellSize + inset))
      (((cell.x : K) + 1) * grid.cellSize - inset),
    min (max destination.lg ((cell.y : K) * grid.cellSize + inset))
      (((cell.y : K) + 1) * grid.cellSize - inset)⟩

/-- `_arrival_point`. -/
def arrivalPoint (cell : NavigationCell) (destination : TravelDestination K) : PlanarVector K :=
  let nearest := nearestInside grid cell destination
  let center := grid.center cell
  let distance := metric.hypot (nearest.x - destination.lt) (nearest.y - destination.lg)
  let towardsCenter := metric.hypot (center.x - nearest.x) (center.y - nearest.y)
  let fraction :=
    if towardsCenter = 0 then 0
    else min (1 / 2) (max 0 (destination.arrivalRadius - distance) / (2 * towardsCenter))
  ⟨nearest.x + fraction * (center.x - nearest.x), nearest.y + fraction * (center.y - nearest.y)⟩

/-- The arrival test of a search with an arrival region. -/
def arrivesWithin (region : TravelDestination K) (current : NavigationCell) : Bool :=
  if current ∈ grid.physicalBlocked then false
  else
    let point := arrivalPoint metric grid current region
    decide (metric.hypot (point.x - region.lt) (point.y - region.lg) < region.arrivalRadius)

/-- `_search`. -/
def searchTowards (start goal : NavigationCell) (allowPartial : Bool)
    (arrivalRegion : Option (TravelDestination K)) : Except PlanFault (SearchResult K) :=
  let result :=
    match arrivalRegion with
    | none => search metric.toDiagonal config grid start goal allowPartial
    | some region =>
      if start ∈ grid.blocked then .error .endpointBlocked
      else
        searchLoop metric.toDiagonal config grid start goal allowPartial
          (arrivesWithin metric grid region) (config.maximumExpansions + 1)
          (initialSearch metric.toDiagonal start goal)
  result.mapError SearchFault.planFault

end Arrival

/-! ## Smoothing -/

section Smoothing

variable (diagonal : Diagonal K) (grid : NavigationCostGrid K)

/-- The loop of `_line_cost`. -/
def lineLoop (endpoint : NavigationCell) (deltaX deltaY stepX stepY : ℤ) :
    ℕ → (x y error : ℤ) → (cost : K) → Option K
  | 0, _, _, _, _ => none
  | fuel + 1, x, y, error, cost =>
    if (⟨x, y⟩ : NavigationCell) ∈ grid.blocked then none
    else if x = endpoint.x ∧ y = endpoint.y then some cost
    else
      let doubled := 2 * error
      let crossX : Bool := -deltaY < doubled
      let crossY : Bool := doubled < deltaX
      let x' := if crossX then x + stepX else x
      let y' := if crossY then y + stepY else y
      let error := (if crossX then error - deltaY else error) + if crossY then deltaX else 0
      if x' ≠ x ∧ y' ≠ y ∧ ((⟨x', y⟩ : NavigationCell) ∈ grid.blocked ∨
          (⟨x, y'⟩ : NavigationCell) ∈ grid.blocked) then none
      else
        lineLoop endpoint deltaX deltaY stepX stepY fuel x' y' error
          (cost + moveCost diagonal grid ⟨x, y⟩ ⟨x', y'⟩)

/-- `_line_cost`. -/
def lineCost (start endpoint : NavigationCell) : Option K :=
  let deltaX := |endpoint.x - start.x|
  let deltaY := |endpoint.y - start.y|
  lineLoop diagonal grid endpoint deltaX deltaY (if start.x < endpoint.x then 1 else -1)
    (if start.y < endpoint.y then 1 else -1) (deltaX.natAbs + deltaY.natAbs + 1) start.x start.y
    (deltaX - deltaY) 0

/-- The cost of the steps of a path, in their order. -/
def stepsCost (cells : List NavigationCell) : K :=
  ((cells.zip cells.tail).map (fun pair => moveCost diagonal grid pair.1 pair.2)).foldl (· + ·) 0

/-- `_shortcut_preserves_cost`. -/
def shortcutPreservesCost (original : List NavigationCell) : Bool :=
  match original.head?, original.getLast? with
  | some first, some last =>
    match lineCost diagonal grid first last with
    | none => false
    | some shortcut => decide (shortcut ≤ stepsCost diagonal grid original + 1 / 10 ^ 9)
  | _, _ => false

/-- The inner loop of `_smooth`: from the first cell, the farthest cell that can be reached
directly at no greater cost, as the index of it. -/
def farthest (cells : List NavigationCell) : ℕ → ℕ
  | 0 => 1
  | 1 => 1
  | candidate + 2 =>
    if shortcutPreservesCost diagonal grid (cells.take (candidate + 3)) then candidate + 2
    else farthest cells (candidate + 1)

/-- The loop of `_smooth`, over the cells from the anchor on: the cells after the anchor. -/
def smoothLoop : ℕ → List NavigationCell → List NavigationCell
  | 0, _ => []
  | fuel + 1, cells =>
    if cells.length ≤ 1 then []
    else
      let rest := cells.drop (farthest diagonal grid cells (cells.length - 1))
      rest.take 1 ++ smoothLoop fuel rest

/-- `_smooth`. -/
def smooth (cells : List NavigationCell) : List NavigationCell :=
  if cells.length ≤ 2 then cells
  else cells.take 1 ++ smoothLoop diagonal grid cells.length cells

end Smoothing

/-! ## Routes -/

structure AStarRoute (K : Type) [Field K] [LinearOrder K] where
  grid : NavigationCostGrid K
  cells : List NavigationCell
  destinations : List (TravelDestination K)
  expandedCells : ℕ
  totalCost : K
  cells_ne : cells ≠ []
  destinations_ne : destinations ≠ []
  expandedCells_pos : 0 < expandedCells
  totalCost_nonneg : 0 ≤ totalCost

/-- A route, unless it is not valid. -/
def AStarRoute.make (grid : NavigationCostGrid K) (cells : List NavigationCell)
    (destinations : List (TravelDestination K)) (expandedCells : ℕ) (totalCost : K) :
    Except PlanFault (AStarRoute K) :=
  if h : cells ≠ [] ∧ destinations ≠ [] ∧ 0 < expandedCells ∧ 0 ≤ totalCost then
    .ok ⟨grid, cells, destinations, expandedCells, totalCost, h.1, h.2.1, h.2.2.1, h.2.2.2⟩
  else .error .invalid

section Plan

variable [FloorRing K] (metric : Metric K) (config : WeightedAStarConfig K)

/-- The radius of the waypoints of a route. -/
def waypointRadius (grid : NavigationCostGrid K) : K :=
  max 5 (grid.cellSize * config.waypointRadiusFraction)

/-- The waypoint at the centre of a cell. -/
def waypointAt (grid : NavigationCostGrid K) (cell : NavigationCell) :
    Except PlanFault (TravelDestination K) :=
  TravelDestination.make (grid.center cell) (waypointRadius config grid)

/-- The cells strictly between the first and the last one: `cells[1:-1]`. -/
def innerCells (cells : List NavigationCell) : List NavigationCell := cells.tail.dropLast

/-- The endpoint of a route to a blocked destination, well inside the last cell and the
arrival region. -/
def blockedEndpoint (grid : NavigationCostGrid K) (cell : NavigationCell)
    (destination : TravelDestination K) : Except PlanFault (TravelDestination K) :=
  let point := arrivalPoint metric grid cell destination
  let inside := (destination.arrivalRadius -
    metric.hypot (point.x - destination.lt) (point.y - destination.lg)) * (1 / 2)
  TravelDestination.make point
    (min (min (min (min (min (grid.cellSize * (1 / 10)) inside)
      (point.x - (cell.x : K) * grid.cellSize)) (((cell.x : K) + 1) * grid.cellSize - point.x))
      (point.y - (cell.y : K) * grid.cellSize)) (((cell.y : K) + 1) * grid.cellSize - point.y))

/-- The search of `_plan` with the endpoint of the route. -/
def planSearch (navigation : SparseNavigationMap K) (grid : NavigationCostGrid K)
    (position : PlanarVector K) (destination : TravelDestination K) :
    Except PlanFault (SearchResult K × TravelDestination K) := do
  let start := navigation.cellFor position.x position.y
  let goal := navigation.cellFor destination.lt destination.lg
  if goal ∈ navigation.blocked ∧
      metric.hypot (destination.lt - position.x) (destination.lg - position.y) ≤
        destination.arrivalRadius then
    pure (⟨[start], 1, 0⟩, ⟨position.x, position.y, destination.arrivalRadius,
      destination.arrivalRadius_pos⟩)
  else if goal ∈ navigation.blocked then
    let result ← searchTowards metric config grid start goal false (some destination)
    match result.path.getLast? with
    | none => throw .invalid
    | some last =>
      let endpoint ← blockedEndpoint metric grid last destination
      pure (result, endpoint)
  else
    let result ← searchTowards metric config grid start goal false none
    pure (result, destination)

/-- `_plan`. -/
def planRoute (navigation : SparseNavigationMap K) (position : PlanarVector K)
    (destination : TravelDestination K) : Except PlanFault (AStarRoute K) := do
  let start := navigation.cellFor position.x position.y
  let goal := navigation.cellFor destination.lt destination.lg
  let grid := navigation.localGrid start goal config
  let (result, endpoint) ← planSearch metric config navigation grid position destination
  let smoothed := smooth metric.toDiagonal grid result.path
  let inner ← (innerCells smoothed).mapM (waypointAt config grid)
  let last ← match smoothed.getLast? with
    | some cell =>
      if endpoint ≠ destination ∧ 1 < smoothed.length then do
        let waypoint ← waypointAt config grid cell
        pure [waypoint]
      else pure []
    | none => pure []
  AStarRoute.make grid smoothed (inner ++ last ++ [endpoint]) result.expanded result.cost

/-- `plan_reachable_frontier`. -/
def planReachableFrontier (navigation : SparseNavigationMap K) (position : PlanarVector K)
    (destination : TravelDestination K) : Except PlanFault (AStarRoute K) := do
  let start := navigation.cellFor position.x position.y
  let goal := navigation.cellFor destination.lt destination.lg
  let grid := navigation.localGrid start goal config
  let result ← searchTowards metric config grid start goal true none
  let smoothed := smooth metric.toDiagonal grid result.path
  match smoothed.getLast? with
  | none => throw .invalid
  | some frontier =>
    let endpoint ← if frontier = goal then pure destination else waypointAt config grid frontier
    let inner ← (innerCells smoothed).mapM (waypointAt config grid)
    AStarRoute.make grid smoothed (inner ++ [endpoint]) result.expanded result.cost

/-! ## Terrain refinement -/

/-- The world bounds within which terrain is sampled again. -/
def samplingBounds (grid : NavigationCostGrid K) : TerrainBounds K :=
  let pad := ((max 1 config.obstacleClearanceCells : ℕ) : K) * grid.cellSize
  { left := (grid.minimum.x : K) * grid.cellSize - pad
    bottom := (grid.minimum.y : K) * grid.cellSize - pad
    right := ((grid.maximum.x : K) + 1) * grid.cellSize + pad
    top := ((grid.maximum.y : K) + 1) * grid.cellSize + pad }

/-- The planner's settings on a map that is finer by a factor of at least two. -/
def WeightedAStarConfig.widen (factor : ℕ) (h : 2 ≤ factor) : WeightedAStarConfig K :=
  { config with
    planningMarginCells := config.planningMarginCells * factor
    planningMarginCells_pos := Nat.mul_pos config.planningMarginCells_pos (by omega) }

variable [IsStrictOrderedRing K]

/-- The loop of `plan`: plan on ever finer maps while the terrain can be sampled. -/
def refineLoop (bounds : TerrainBounds K) (minimum : K) (position : PlanarVector K)
    (destination : TravelDestination K) :
    ℕ → SparseNavigationMap K → WeightedAStarConfig K → Except PlanFault (AStarRoute K)
  | 0, _, _ => .error .unfinished
  | fuel + 1, current, config =>
    if minimum ≤ current.refinedCellSize then
      match current.refinedNavigationMap (some bounds) with
      | .error message => .error (.routeNotFound ("terrain refinement unavailable: " ++ message))
      | .ok refined =>
        let config := config.widen refined.refinementFactor refined.refinementFactor_ok
        match planRoute metric config refined position destination with
        | .error (.routeNotFound _) =>
          refineLoop bounds minimum position destination fuel refined config
        | result => result
    else .error (.routeNotFound "A* found no route after bounded terrain re-sampling")

/-- `plan`. -/
def plan (navigation : SparseNavigationMap K) (position : PlanarVector K)
    (destination : TravelDestination K) : Except PlanFault (AStarRoute K) :=
  match planRoute metric config navigation position destination with
  | .error (.routeNotFound message) =>
    match navigation.terrainSources.map NavigationTerrainSampler.minimumCellSize with
    | [] => .error (.routeNotFound message)
    | first :: rest =>
      let start := navigation.cellFor position.x position.y
      let goal := navigation.cellFor destination.lt destination.lg
      let grid := navigation.localGrid start goal config
      let minimum := rest.foldl min first
      refineLoop metric (samplingBounds config grid) minimum position destination
        (⌊navigation.refinedCellSize / minimum⌋.toNat + 2) navigation config
  | result => result

/-- `plan_refined`. -/
def planRefined (navigation : SparseNavigationMap K) (position : PlanarVector K)
    (destination : TravelDestination K) (maximumDistance : Option K) :
    Except PlanFault (AStarRoute K) := do
  let deltaLt := destination.lt - position.x
  let deltaLg := destination.lg - position.y
  let distance := metric.hypot deltaLt deltaLg
  let refinedDestination ← match maximumDistance with
    | none => pure destination
    | some maximumDistance =>
      if maximumDistance < distance then
        TravelDestination.make
          ⟨position.x + deltaLt / distance * maximumDistance,
            position.y + deltaLg / distance * maximumDistance⟩
          (max 5 (navigation.refinedCellSize * config.waypointRadiusFraction))
      else pure destination
  match navigation.refinedNavigationMap none with
  | .error _ => throw .invalid
  | .ok refined =>
    let config := { config.widen navigation.refinementFactor navigation.refinementFactor_ok with
      obstacleClearanceCells := max 1 config.obstacleClearanceCells }
    plan metric config refined position refinedDestination

end Plan

end ShadowbaneLab
