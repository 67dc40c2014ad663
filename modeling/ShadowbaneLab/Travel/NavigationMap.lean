/-
# Sparse navigation maps

`SparseNavigationMap` (`src/shadowbane_lab/travel/pathfinding.py`): obstacles and costs keyed
by the cells of the world, the bounded grid that a search sees of them (`localGrid`), the
finer map of the same world (`refinedNavigationMap`), and what a stall teaches
(`markBlockedAhead`).  Terrain samplers come from outside; they are read as the marks they
leave on a map of a given cell size.
-/
import ShadowbaneLab.Travel.Model

namespace ShadowbaneLab

open Foundation

/-! ## Maps -/

/-- The cost of traversing a cell. -/
abbrev TraversalCost (K : Type) [CommRing K] [LinearOrder K] : Type := { cost : K // 1 ≤ cost }

/-- `(left, bottom, right, top)` in world coordinates. -/
structure TerrainBounds (K : Type) where
  left : K
  bottom : K
  right : K
  top : K

/-- What a sampler does to a map. -/
inductive TerrainMark (K : Type) [CommRing K] [LinearOrder K] where
  | blocked (cell : NavigationCell)
  | cost (cell : NavigationCell) (cost : TraversalCost K)

/-- `NavigationTerrainSampler`: the marks on a map of some cell size, or the message of a
`ValueError`. -/
structure NavigationTerrainSampler (K : Type) [CommRing K] [LinearOrder K] where
  minimumCellSize : K
  seed : (cellSize : K) → TerrainBounds K → Except String (List (TerrainMark K))
  minimumCellSize_pos : 0 < minimumCellSize

structure SparseNavigationMap (K : Type) [Field K] [LinearOrder K] where
  cellSize : K
  refinementFactor : ℕ := 2
  blocked : Finset NavigationCell := ∅
  structuralBlocked : Finset NavigationCell := ∅
  learnedBlocked : Finset NavigationCell := ∅
  refinedLearnedBlocked : Finset NavigationCell := ∅
  costs : Dict NavigationCell (TraversalCost K) := Dict.empty
  terrainBlocked : Finset NavigationCell := ∅
  terrainCosts : Dict NavigationCell (TraversalCost K) := Dict.empty
  terrainSources : List (NavigationTerrainSampler K) := []
  cellSize_pos : 0 < cellSize
  refinementFactor_ok : 2 ≤ refinementFactor

namespace SparseNavigationMap

variable {K : Type} [Field K] [LinearOrder K] (navigation : SparseNavigationMap K)

theorem defaultFactor_ok : 2 ≤ 2 := le_refl 2

/-- The cost of a cell that none is recorded for. -/
def free : TraversalCost K := ⟨1, le_refl 1⟩

/-- `refined_cell_size`. -/
def refinedCellSize : K := navigation.cellSize / navigation.refinementFactor

/-- `center`. -/
def center (cell : NavigationCell) : PlanarVector K :=
  ⟨((cell.x : K) + 1 / 2) * navigation.cellSize, ((cell.y : K) + 1 / 2) * navigation.cellSize⟩

/-- `mark_terrain_blocked`. -/
def markTerrainBlocked (cell : NavigationCell) : SparseNavigationMap K :=
  { navigation with
    terrainBlocked := insert cell navigation.terrainBlocked
    blocked := insert cell navigation.blocked }

/-- `set_terrain_cost`. -/
def setTerrainCost (cell : NavigationCell) (cost : TraversalCost K) : SparseNavigationMap K :=
  { navigation with
    terrainCosts := navigation.terrainCosts.set cell
      (max cost (navigation.terrainCosts.getD cell free)) }

/-- What a sampler's mark does. -/
def mark : TerrainMark K → SparseNavigationMap K
  | .blocked cell => navigation.markTerrainBlocked cell
  | .cost cell cost => navigation.setTerrainCost cell cost

/-! ## The grid of a search -/

/-- The square of cells around an obstacle. -/
def inflated (clearance : ℕ) (obstacle : NavigationCell) : Finset NavigationCell :=
  (Finset.range (2 * clearance + 1) ×ˢ Finset.range (2 * clearance + 1)).image
    (fun delta => ⟨obstacle.x - clearance + delta.1, obstacle.y - clearance + delta.2⟩)

/-- The corners of the planning window. -/
def windowOf (margin : ℕ) (start goal : NavigationCell) : NavigationCell × NavigationCell :=
  (⟨min start.x goal.x - margin, min start.y goal.y - margin⟩,
    ⟨max start.x goal.x + margin, max start.y goal.y + margin⟩)

/-- The cells of a window that are too close to an obstacle. -/
def inflatedBlocked (clearance : ℕ) (minimum maximum : NavigationCell) : Finset NavigationCell :=
  ((navigation.blocked.filter (fun obstacle =>
      insideOf ⟨minimum.x - clearance, minimum.y - clearance⟩
        ⟨maximum.x + clearance, maximum.y + clearance⟩ obstacle)).biUnion
    (inflated clearance)).filter (insideOf minimum maximum)

/-- The cells that a search may not enter: it may leave the start, and enter a goal that is
only close to an obstacle. -/
def gridBlocked (clearance : ℕ) (minimum maximum start goal : NavigationCell) :
    Finset NavigationCell :=
  let blocked := (navigation.inflatedBlocked clearance minimum maximum).erase start
  if goal ∉ navigation.blocked then blocked.erase goal else blocked

/-- The costs of routing and of terrain together. -/
def combinedCosts : Dict NavigationCell (TraversalCost K) :=
  navigation.terrainCosts.items.foldl
    (fun costs e => costs.set e.1 (max e.2 (costs.getD e.1 free))) navigation.costs

/-- `costs[cell] = max(cost, costs.get(cell, 1.0))`. -/
def raised (costs : Dict NavigationCell (TraversalCost K)) (e : NavigationCell × TraversalCost K) :
    Dict NavigationCell (TraversalCost K) :=
  costs.set e.1 (max e.2 (costs.getD e.1 free))

/-- The costs of the cells of a window that are not blocked, sorted by cell. -/
def gridCosts (minimum maximum : NavigationCell) (blocked : Finset NavigationCell) :
    List (NavigationCell × TraversalCost K) :=
  sortBy (fun e => toLex (e.1.x, e.1.y))
    (navigation.combinedCosts.items.filter (fun e => insideOf minimum maximum e.1 ∧ e.1 ∉ blocked))

theorem mem_gridCosts {minimum maximum : NavigationCell} {blocked : Finset NavigationCell}
    {e : NavigationCell × TraversalCost K} (h : e ∈ navigation.gridCosts minimum maximum blocked) :
    insideOf minimum maximum e.1 := by
  have hmem := (sortBy_perm _ _).mem_iff.mp h
  exact (of_decide_eq_true (List.mem_filter.mp hmem).2).1

theorem nodup_gridCosts (minimum maximum : NavigationCell) (blocked : Finset NavigationCell) :
    ((navigation.gridCosts minimum maximum blocked).map Prod.fst).Nodup := by
  have hperm := (sortBy_perm (fun e : NavigationCell × TraversalCost K => toLex (e.1.x, e.1.y))
    (navigation.combinedCosts.items.filter
      (fun e => insideOf minimum maximum e.1 ∧ e.1 ∉ blocked))).map Prod.fst
  rw [gridCosts, hperm.nodup_iff]
  exact navigation.combinedCosts.nodup.sublist (List.filter_sublist.map Prod.fst)

theorem mem_gridBlocked {clearance : ℕ} {minimum maximum start goal cell : NavigationCell}
    (h : cell ∈ navigation.gridBlocked clearance minimum maximum start goal) :
    cell ∈ navigation.inflatedBlocked clearance minimum maximum := by
  unfold gridBlocked at h
  dsimp only at h
  split at h
  · exact Finset.mem_of_mem_erase (Finset.mem_of_mem_erase h)
  · exact Finset.mem_of_mem_erase h

/-- `local_grid`. -/
def localGrid (start goal : NavigationCell) (config : WeightedAStarConfig K) :
    NavigationCostGrid K :=
  let minimum := (windowOf config.planningMarginCells start goal).1
  let maximum := (windowOf config.planningMarginCells start goal).2
  let blocked := navigation.gridBlocked config.obstacleClearanceCells minimum maximum start goal
  { cellSize := navigation.cellSize
    minimum := minimum
    maximum := maximum
    blocked := blocked
    costs := (navigation.gridCosts minimum maximum blocked).map (fun e => (e.1, e.2.val))
    physicalBlocked := navigation.blocked.filter (insideOf minimum maximum)
    cellSize_pos := navigation.cellSize_pos
    ordered := by
      show min start.x goal.x - _ ≤ max start.x goal.x + _ ∧ min start.y goal.y - _ ≤
        max start.y goal.y + _
      omega
    blocked_inside := fun cell hcell =>
      (Finset.mem_filter.mp (navigation.mem_gridBlocked hcell)).2
    costs_inside := by
      intro e he
      obtain ⟨e', he', rfl⟩ := List.mem_map.mp he
      exact navigation.mem_gridCosts he'
    costs_nodup := by
      rw [List.map_map]
      exact navigation.nodup_gridCosts minimum maximum blocked
    costs_ok := by
      intro e he
      obtain ⟨e', _, rfl⟩ := List.mem_map.mp he
      exact e'.2.2 }

/-! ## Refinement -/

/-- `_refined_children`. -/
def refinedChildren (cell : NavigationCell) : List NavigationCell :=
  let factor := navigation.refinementFactor
  (List.range factor).flatMap (fun deltaX => (List.range factor).map (fun deltaY =>
    ⟨cell.x * factor + deltaX, cell.y * factor + deltaY⟩))

/-- `_coarse_parent`. -/
def coarseParent (cell : NavigationCell) : NavigationCell :=
  ⟨cell.x / (navigation.refinementFactor : ℤ), cell.y / (navigation.refinementFactor : ℤ)⟩

/-- `mark_refined_learned_blocked`, of a child of the cell. -/
def markRefinedLearnedBlocked (cell refinedCell : NavigationCell) : SparseNavigationMap K :=
  { navigation with
    blocked := insert cell navigation.blocked
    learnedBlocked := insert cell navigation.learnedBlocked
    refinedLearnedBlocked := insert refinedCell navigation.refinedLearnedBlocked }

/-- The cells of the finer map that a learned obstacle occupies: the ones a collision was
measured in, or else all of them. -/
def learnedChildren (cell : NavigationCell) : Finset NavigationCell :=
  let children := navigation.refinedLearnedBlocked.filter
    (fun child => navigation.coarseParent child = cell)
  if children = ∅ then (navigation.refinedChildren cell).toFinset else children

section Refined

variable [IsStrictOrderedRing K]

theorem refinedCellSize_pos : 0 < navigation.refinedCellSize := by
  apply div_pos navigation.cellSize_pos
  have h := navigation.refinementFactor_ok
  exact_mod_cast (by omega : 0 < navigation.refinementFactor)

/-- The finer map before its terrain: structural obstacles occupy every child, learned ones
where they were measured. -/
def refinedBase : SparseNavigationMap K :=
  let structural := navigation.structuralBlocked.biUnion
    (fun cell => (navigation.refinedChildren cell).toFinset)
  let learned := (navigation.learnedBlocked.filter
    (fun cell => cell ∉ navigation.structuralBlocked)).biUnion navigation.learnedChildren
  { cellSize := navigation.refinedCellSize
    refinementFactor := navigation.refinementFactor
    blocked := structural ∪ learned
    structuralBlocked := structural
    learnedBlocked := learned
    costs := navigation.costs.items.foldl (fun costs e =>
      (navigation.refinedChildren e.1).foldl (fun costs child =>
        if child ∈ structural ∪ learned then costs else costs.set child e.2) costs) Dict.empty
    terrainSources := navigation.terrainSources
    cellSize_pos := navigation.refinedCellSize_pos
    refinementFactor_ok := navigation.refinementFactor_ok }

/-- The terrain of the coarse map, on every child. -/
def retainedTerrain : List (TerrainMark K) :=
  (navigation.terrainCosts.items.flatMap (fun e =>
    (navigation.refinedChildren e.1).map (fun child => .cost child e.2)))

/-- `refined_navigation_map`; it fails with the message of a sampler's `ValueError`. -/
def refinedNavigationMap (terrainBounds : Option (TerrainBounds K)) :
    Except String (SparseNavigationMap K) :=
  let refined := navigation.refinedBase
  match terrainBounds with
  | none =>
    let terrain := navigation.terrainBlocked.biUnion
      (fun cell => (navigation.refinedChildren cell).toFinset)
    .ok (navigation.retainedTerrain.foldl mark { refined with
      terrainBlocked := terrain
      blocked := refined.blocked ∪ terrain })
  | some bounds => navigation.terrainSources.foldlM (fun refined sampler => do
      let marks ← sampler.seed refined.cellSize bounds
      pure (marks.foldl mark refined)) refined

end Refined

/-! ## Learning an obstacle -/

section Learning

variable [FloorRing K] (metric : Metric K)

/-- Why an obstacle was not learned: a `ValueError` and a `RuntimeError`. -/
inductive LearningFault where
  | noDirection
  | leftCell
  deriving DecidableEq, Repr

/-- `cell_for`. -/
def cellFor (lt lg : K) : NavigationCell :=
  ⟨⌊lt / navigation.cellSize⌋, ⌊lg / navigation.cellSize⌋⟩

/-- `math.isclose(first, second, rel_tol=1e-9, abs_tol=1e-12)`, of finite numbers. -/
def isClose (first second : K) : Bool :=
  decide (|first - second| ≤ max (1 / 10 ^ 9 * max |first| |second|) (1 / 10 ^ 12))

/-- How far along a direction a coordinate enters the interval of a cell. -/
def crossing (minimum maximum start direction : K) : Option K :=
  if 0 < direction then some ((minimum - start) / direction)
  else if direction < 0 then some ((maximum - start) / direction)
  else none

/-- `_refined_cell_entered`. -/
def refinedCellEntered (cell : NavigationCell) (startLt startLg directionLt directionLg : K) :
    Except LearningFault NavigationCell :=
  let minimumLt := (cell.x : K) * navigation.cellSize
  let minimumLg := (cell.y : K) * navigation.cellSize
  let crossingLt := crossing minimumLt (minimumLt + navigation.cellSize) startLt directionLt
  let crossingLg := crossing minimumLg (minimumLg + navigation.cellSize) startLg directionLg
  let entryDistance := max (max 0 (crossingLt.getD 0)) (crossingLg.getD 0)
  let epsilon := navigation.refinedCellSize * (1 / 10 ^ 6)
  let refined : NavigationCell :=
    ⟨⌊(startLt + directionLt * (entryDistance + epsilon)) / navigation.refinedCellSize⌋,
      ⌊(startLg + directionLg * (entryDistance + epsilon)) / navigation.refinedCellSize⌋⟩
  if navigation.coarseParent refined = cell then .ok refined else .error .leftCell

/-- The sign of a difference, as a step. -/
def stepTowards (delta : K) : ℤ := if delta = 0 then 0 else if 0 < delta then 1 else -1

/-- The time at which a movement leaves a cell in one coordinate, unless it stays. -/
def leaves (cell : ℤ) (start delta : K) : Option K :=
  let step := stepTowards delta
  if step = 0 then none
  else
    some |(((cell + if 0 < step then 1 else 0 : ℤ) : K) * navigation.cellSize - start) / delta|

/-- The neighbour of a cell that a movement from it enters first. -/
def enteredNext (current : NavigationCell) (startLt startLg deltaLt deltaLg : K) : NavigationCell :=
  let stepX := stepTowards deltaLt
  let stepY := stepTowards deltaLg
  match navigation.leaves current.x startLt deltaLt, navigation.leaves current.y startLg deltaLg with
  | some crossingLt, some crossingLg =>
    if isClose crossingLt crossingLg then ⟨current.x + stepX, current.y + stepY⟩
    else if crossingLt < crossingLg then ⟨current.x + stepX, current.y⟩
    else ⟨current.x, current.y + stepY⟩
  | some _, none => ⟨current.x + stepX, current.y⟩
  | none, some _ => ⟨current.x, current.y + stepY⟩
  | none, none => ⟨current.x + stepX, current.y + stepY⟩

/-- `mark_blocked_ahead`: the cell that it returns, and the map that it leaves. -/
def markBlockedAhead (position : PlayerPosition K) (destination : TravelDestination K) :
    Except LearningFault (NavigationCell × SparseNavigationMap K) := do
  let deltaLt := destination.lt - position.lt
  let deltaLg := destination.lg - position.lg
  let length := metric.hypot deltaLt deltaLg
  if length = 0 then throw .noDirection
  else
    let probeDistance := navigation.cellSize * (75 / 100)
    let probed := navigation.cellFor (position.lt + deltaLt / length * probeDistance)
      (position.lg + deltaLg / length * probeDistance)
    let current := navigation.cellFor position.lt position.lg
    let cell :=
      if probed = current then
        navigation.enteredNext current position.lt position.lg deltaLt deltaLg
      else probed
    let refined ← navigation.refinedCellEntered cell position.lt position.lg (deltaLt / length)
      (deltaLg / length)
    pure (cell, navigation.markRefinedLearnedBlocked cell refined)

end Learning

end SparseNavigationMap

end ShadowbaneLab
