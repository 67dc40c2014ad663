/-
# Weighted A* over navigation cells

The planning grid and the bounded search of `src/shadowbane_lab/travel/pathfinding.py`.
Numbers are exact: they are taken from any ordered ring with a diagonal, the length of a
diagonal step, which for the real numbers is the square root of two.
-/
import Mathlib.Analysis.Real.Sqrt
import ShadowbaneLab.Foundation.BestFirst
import ShadowbaneLab.Foundation.Host

namespace ShadowbaneLab

open Foundation

/-! ## Numerals

The numerals of the travel code, in any ordered field. -/

instance two_atLeastTwo : Nat.AtLeastTwo 2 := ⟨by decide⟩

instance five_atLeastTwo : Nat.AtLeastTwo 5 := ⟨by decide⟩

instance six_atLeastTwo : Nat.AtLeastTwo 6 := ⟨by decide⟩

instance ten_atLeastTwo : Nat.AtLeastTwo 10 := ⟨by decide⟩

instance hundred_atLeastTwo : Nat.AtLeastTwo 100 := ⟨by decide⟩

/-! ## Diagonals -/

/-- The length of a diagonal step. -/
structure Diagonal (K : Type) [CommRing K] [LinearOrder K] where
  /-- `sqrt(2)`. -/
  root : K
  one_le : 1 ≤ root
  le_two : root ≤ 2

/-- The diagonal of the real numbers. -/
noncomputable def Diagonal.real : Diagonal ℝ where
  root := √2
  one_le := by
    rw [Real.one_le_sqrt]
    norm_num
  le_two := by
    rw [Real.sqrt_le_left (by norm_num)]
    norm_num

/-! ## Cells and grids -/

structure NavigationCell where
  x : ℤ
  y : ℤ
  deriving DecidableEq, Repr

structure WeightedAStarConfig (K : Type) [CommRing K] [LinearOrder K] where
  heuristicWeight : K
  maximumExpansions : ℕ
  planningMarginCells : ℕ
  obstacleClearanceCells : ℕ
  waypointRadiusFraction : K
  heuristicWeight_ok : 1 ≤ heuristicWeight
  maximumExpansions_pos : 0 < maximumExpansions
  planningMarginCells_pos : 0 < planningMarginCells
  waypointRadiusFraction_ok : 0 < waypointRadiusFraction ∧ waypointRadiusFraction < 1

/-- A plain search of a few cells. -/
def WeightedAStarConfig.sample : WeightedAStarConfig ℚ where
  heuristicWeight := 1
  maximumExpansions := 100
  planningMarginCells := 2
  obstacleClearanceCells := 0
  waypointRadiusFraction := 1 / 2
  heuristicWeight_ok := by norm_num
  maximumExpansions_pos := by norm_num
  planningMarginCells_pos := by norm_num
  waypointRadiusFraction_ok := by norm_num

/-- `contains` of a grid with given corners. -/
def insideOf (minimum maximum cell : NavigationCell) : Prop :=
  (minimum.x ≤ cell.x ∧ cell.x ≤ maximum.x) ∧ minimum.y ≤ cell.y ∧ cell.y ≤ maximum.y

instance (minimum maximum cell : NavigationCell) : Decidable (insideOf minimum maximum cell) :=
  inferInstanceAs (Decidable (_ ∧ _))

structure NavigationCostGrid (K : Type) [CommRing K] [LinearOrder K] where
  cellSize : K
  minimum : NavigationCell
  maximum : NavigationCell
  blocked : Finset NavigationCell := ∅
  costs : List (NavigationCell × K) := []
  physicalBlocked : Finset NavigationCell := ∅
  cellSize_pos : 0 < cellSize
  ordered : minimum.x ≤ maximum.x ∧ minimum.y ≤ maximum.y
  blocked_inside : ∀ cell ∈ blocked, insideOf minimum maximum cell
  costs_inside : ∀ e ∈ costs, insideOf minimum maximum e.1
  costs_nodup : (costs.map Prod.fst).Nodup
  costs_ok : ∀ e ∈ costs, 1 ≤ e.2

variable {K : Type} [CommRing K] [LinearOrder K]

namespace NavigationCostGrid

variable (grid : NavigationCostGrid K)

def contains (cell : NavigationCell) : Prop := insideOf grid.minimum grid.maximum cell

instance (cell : NavigationCell) : Decidable (grid.contains cell) :=
  inferInstanceAs (Decidable (insideOf _ _ _))

def traversalCost (cell : NavigationCell) : K := (Dict.ofList grid.costs).getD cell 1

theorem one_le_traversalCost (cell : NavigationCell) : 1 ≤ grid.traversalCost cell := by
  unfold traversalCost Dict.getD
  cases hget : (Dict.ofList grid.costs).get? cell with
  | none => exact le_refl 1
  | some cost => exact grid.costs_ok (cell, cost) (Dict.mem_of_get?_ofList hget)

end NavigationCostGrid

/-! ## Neighbours and the heuristic -/

section Neighbors

variable (diagonal : Diagonal K) (grid : NavigationCostGrid K)

/-- Whether a step changes both coordinates. -/
def isDiagonal (cell next : NavigationCell) : Bool := cell.x ≠ next.x && cell.y ≠ next.y

/-- The length of a step. -/
def stepCost (cell next : NavigationCell) : K :=
  if isDiagonal cell next then diagonal.root else 1

/-- The cell in one direction, unless the grid forbids the step. -/
def neighbor? (cell : NavigationCell) (delta : ℤ × ℤ) : Option NavigationCell :=
  let neighbor : NavigationCell := ⟨cell.x + delta.1, cell.y + delta.2⟩
  if ¬grid.contains neighbor ∨ neighbor ∈ grid.blocked then none
  else if delta.1 ≠ 0 ∧ delta.2 ≠ 0 ∧
      ((⟨cell.x + delta.1, cell.y⟩ : NavigationCell) ∈ grid.blocked ∨
        (⟨cell.x, cell.y + delta.2⟩ : NavigationCell) ∈ grid.blocked) then none
  else some neighbor

/-- The eight directions, in the order of the source's loops. -/
def directions : List (ℤ × ℤ) :=
  (([-1, 0, 1] : List ℤ).flatMap (fun x => ([-1, 0, 1] : List ℤ).map (fun y => (x, y)))).filter
    (fun delta => delta ≠ (0, 0))

/-- `_neighbors`. -/
def neighbors (cell : NavigationCell) : List (NavigationCell × K) :=
  (directions.filterMap (neighbor? grid cell)).map
    (fun neighbor => (neighbor, stepCost diagonal cell neighbor))

/-- `_heuristic`: the octile distance. -/
def heuristic (first second : NavigationCell) : K :=
  let deltaX := |first.x - second.x|
  let deltaY := |first.y - second.y|
  ((max deltaX deltaY : ℤ) : K) + (diagonal.root - 1) * ((min deltaX deltaY : ℤ) : K)

/-- `_is_boundary_cell`. -/
def isBoundaryCell (cell : NavigationCell) : Bool :=
  (cell.x = grid.minimum.x || cell.x = grid.maximum.x) ||
    (cell.y = grid.minimum.y || cell.y = grid.maximum.y)

/-- What a step to a neighbour costs. -/
def moveCost (cell next : NavigationCell) : K :=
  stepCost diagonal cell next * grid.traversalCost next

/-- The neighbours of a cell with the costs of reaching them. -/
def successors (cell : NavigationCell) : List (NavigationCell × K) :=
  (neighbors diagonal grid cell).map (fun e => (e.1, e.2 * grid.traversalCost e.1))

end Neighbors

/-! ## The search -/

/-- Why a search ended without a route: the three messages of `AStarRouteNotFound`, a table
without the entry that was looked up, or a loop that did not end. -/
inductive SearchFault where
  | endpointBlocked
  | budgetExhausted
  | noRoute
  | keyError
  | unfinished
  deriving DecidableEq, Repr

/-- What a search returns: the path, the number of expanded cells, and the cost. -/
structure SearchResult (K : Type) where
  path : List NavigationCell
  expanded : ℕ
  cost : K
  deriving DecidableEq

/-- The variables of the search loop. -/
structure Search (K : Type) where
  labels : Labels NavigationCell K
  expanded : ℕ := 0
  closest : NavigationCell
  closestHeuristic : K
  boundaryFrontier : Option NavigationCell := none
  boundaryKey : Option (K ×ₗ K ×ₗ ℤ ×ₗ ℤ) := none

/-- `_reconstruct`: follow the parents from the endpoint, then reverse.  A chain of parents
that visits more cells than the table has does not end. -/
def reconstruct (cameFrom : Dict NavigationCell NavigationCell) (start endpoint : NavigationCell) :
    Except SearchFault (List NavigationCell) :=
  match Labels.trace cameFrom start (cameFrom.items.length + 2) endpoint with
  | some path => .ok path
  | none => .error .unfinished

namespace Search

/-- `cost_so_far[cell]`. -/
def costSoFar (search : Search K) (cell : NavigationCell) : Except SearchFault K :=
  match search.labels.costSoFar.get? cell with
  | some cost => .ok cost
  | none => .error .keyError

/-- Whether a cell is closer to the goal than the closest one so far, or as close at a lower
cost. -/
def closer (search : Search K) (current : NavigationCell) (currentHeuristic : K) :
    Except SearchFault Bool :=
  if currentHeuristic < search.closestHeuristic then .ok true
  else if currentHeuristic = search.closestHeuristic then do
    let cost ← search.costSoFar current
    let known ← search.costSoFar search.closest
    pure (decide (cost < known))
  else .ok false

/-- Update the closest cell. -/
def trackClosest (search : Search K) (current : NavigationCell) (currentHeuristic : K) :
    Except SearchFault (Search K) := do
  if ← search.closer current currentHeuristic then
    pure { search with closest := current, closestHeuristic := currentHeuristic }
  else pure search

/-- Update the best cell on the boundary of the window. -/
def trackBoundary (search : Search K) (grid : NavigationCostGrid K) (start : NavigationCell)
    (current : NavigationCell) (currentHeuristic : K) : Except SearchFault (Search K) :=
  if current ≠ start ∧ isBoundaryCell grid current then do
    let cost ← search.costSoFar current
    let candidate := toLex (currentHeuristic, toLex (cost, toLex (current.x, current.y)))
    pure (if search.boundaryKey.all (fun key => candidate < key) then
      { search with boundaryFrontier := some current, boundaryKey := some candidate }
    else search)
  else .ok search

/-- The route to a cell. -/
def route (search : Search K) (start endpoint : NavigationCell) :
    Except SearchFault (SearchResult K) := do
  let path ← reconstruct search.labels.cameFrom start endpoint
  let cost ← search.costSoFar endpoint
  pure ⟨path, search.expanded, cost⟩

/-- The cell that stands in for the goal when the search fails. -/
def partialCell (search : Search K) (start : NavigationCell) : Option NavigationCell :=
  search.boundaryFrontier.or (if search.closest ≠ start then some search.closest else none)

/-- End a search that did not arrive. -/
def giveUp (search : Search K) (start : NavigationCell) (allowPartial : Bool)
    (fault : SearchFault) : Except SearchFault (SearchResult K) :=
  match search.partialCell start with
  | some cell => if allowPartial then search.route start cell else .error fault
  | none => .error fault

end Search

section Loop

variable (diagonal : Diagonal K) (config : WeightedAStarConfig K) (grid : NavigationCostGrid K)
  (start goal : NavigationCell) (allowPartial : Bool) (arrives : NavigationCell → Bool)

/-- The heuristic as the search weighs it. -/
def estimate (cell : NavigationCell) : K := config.heuristicWeight * heuristic diagonal cell goal

/-- The variables before the loop. -/
def initialSearch : Search K where
  labels := Labels.init start
  closest := start
  closestHeuristic := heuristic diagonal start goal

/-- One turn of the loop: it ends with a result, or continues. -/
def searchStep (search : Search K) : Except SearchFault (SearchResult K ⊕ Search K) :=
  match search.labels.pop with
  | none => do
    let result ← search.giveUp start allowPartial .noRoute
    pure (.inl result)
  | some (entry, labels) => do
    let current := entry.node
    let currentHeuristic := heuristic diagonal current goal
    let search := { search with labels := labels, expanded := search.expanded + 1 }
    let search ← search.trackClosest current currentHeuristic
    let search ← search.trackBoundary grid start current currentHeuristic
    if config.maximumExpansions < search.expanded then do
      let result ← search.giveUp start allowPartial .budgetExhausted
      pure (.inl result)
    else if arrives current then do
      let result ← search.route start current
      pure (.inl result)
    else
      match search.labels.expand (estimate diagonal config goal) current
          (successors diagonal grid current) with
      | some labels => pure (.inr { search with labels := labels })
      | none => throw .keyError

/-- The loop, for a bounded number of turns. -/
def searchLoop : ℕ → Search K → Except SearchFault (SearchResult K)
  | 0, _ => .error .unfinished
  | fuel + 1, search => do
    match ← searchStep diagonal config grid start goal allowPartial arrives search with
    | .inl result => pure result
    | .inr search => searchLoop fuel search

/-- The arrival test of a search without an arrival region. -/
def arrivesAt (current : NavigationCell) : Bool := current = goal && current ∉ grid.blocked

/-- `_search` without an arrival region. -/
def search : Except SearchFault (SearchResult K) :=
  if start ∈ grid.blocked ∨ (goal ∈ grid.blocked ∧ ¬allowPartial) then .error .endpointBlocked
  else
    searchLoop diagonal config grid start goal allowPartial (arrivesAt grid goal)
      (config.maximumExpansions + 1) (initialSearch diagonal start goal)

end Loop

end ShadowbaneLab
