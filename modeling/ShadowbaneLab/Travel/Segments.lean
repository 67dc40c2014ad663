/-
# Segments over a grid

`segment_cost` of `NavigationCostGrid` (`src/shadowbane_lab/travel/pathfinding.py`): the cost
of a straight segment between two world points through every cell it touches, and the test
for shortcuts that a route hands to its follower.  A time that never comes is `⊤`.
-/
import ShadowbaneLab.Travel.NavigationMap

namespace ShadowbaneLab

open Foundation

variable {K : Type} [Field K] [LinearOrder K]

namespace NavigationCostGrid

variable (grid : NavigationCostGrid K)

/-- `center`. -/
def center (cell : NavigationCell) : PlanarVector K :=
  ⟨((cell.x : K) + 1 / 2) * grid.cellSize, ((cell.y : K) + 1 / 2) * grid.cellSize⟩

/-- The cells a point touches, when it may lie on an edge of the cell it is in. -/
def touched (x y : ℤ) (edgeX edgeY : Bool) : List NavigationCell :=
  (if edgeX then [x - 1, x] else [x]).flatMap (fun x =>
    (if edgeY then [y - 1, y] else [y]).map (fun y => ⟨x, y⟩))

/-- `clear_cost`: the greatest cost of the touched cells, when all of them are free. -/
def clearCost (x y : ℤ) (edgeX edgeY : Bool) : Option K :=
  let cells := touched x y edgeX edgeY
  if cells.any (fun cell => !decide (grid.contains cell) || decide (cell ∈ grid.blocked)) then none
  else some (cells.foldl (fun cost cell => max cost (grid.traversalCost cell)) 1)

/-- `time_x <= time_y or isclose(time_x, time_y, rel_tol=0, abs_tol=1e-12)`. -/
def crosses (time other : WithTop K) : Bool :=
  decide (time ≤ other) ||
    match time, other with
    | (time : K), (other : K) => decide (|time - other| ≤ 1 / 10 ^ 12)
    | _, _ => false

/-- One coordinate of the traversal: the cell, whether the segment runs along its edge, the
direction, when it enters the next cell, and how long it takes across one. -/
structure Axis (K : Type) where
  cell : ℤ
  edge : Bool
  step : ℤ
  time : WithTop K
  delta : WithTop K

/-- Enter the next cell. -/
def Axis.cross (axis : Axis K) : Axis K :=
  { axis with cell := axis.cell + axis.step, time := axis.time + axis.delta }

/-- The loop of `segment_cost`; the outer option is empty when it does not end in time. -/
def segmentLoop (length : K) : ℕ → (axisX axisY : Axis K) → (elapsed cost : K) → Option (Option K)
  | 0, _, _, _, _ => none
  | fuel + 1, axisX, axisY, elapsed, cost =>
    if elapsed < 1 then
      match grid.clearCost axisX.cell axisY.cell axisX.edge axisY.edge with
      | none => some none
      | some cellCost =>
        match min axisX.time axisY.time with
        | ⊤ => some (some (cost + max 0 (1 - elapsed) * length * cellCost))
        | (time : K) =>
          let nextTime := min time 1
          let cost := cost + max 0 (nextTime - elapsed) * length * cellCost
          if 1 ≤ nextTime then some (some cost)
          else
            let crossX := crosses axisX.time axisY.time
            let crossY := crosses axisY.time axisX.time
            if crossX && crossY &&
                ((grid.clearCost (axisX.cell + axisX.step) axisY.cell false false).isNone ||
                  (grid.clearCost axisX.cell (axisY.cell + axisY.step) false false).isNone) then
              some none
            else
              segmentLoop length fuel (if crossX then axisX.cross else axisX)
                (if crossY then axisY.cross else axisY) nextTime cost
    else some (some cost)

section Segment

variable [FloorRing K] (metric : Metric K)

/-- Whether a coordinate is on an edge. -/
def onEdge (value : K) : Bool := value = (⌊value⌋ : K)

/-- The traversal of one coordinate, from one value to another. -/
def axisFor (start delta : K) : Axis K :=
  let cell := ⌊start⌋ - if decide (delta < 0) && onEdge start then 1 else 0
  { cell := cell
    edge := decide (delta = 0) && onEdge start
    step := if 0 < delta then 1 else -1
    time := if delta = 0 then ⊤ else (((cell : K) + (if 0 < delta then 1 else 0) - start) / delta : K)
    delta := if delta = 0 then ⊤ else (1 / |delta| : K) }

/-- `segment_cost`. -/
def segmentCost (start endpoint : PlanarVector K) : Option K :=
  let sx := start.x / grid.cellSize
  let sy := start.y / grid.cellSize
  let ex := endpoint.x / grid.cellSize
  let ey := endpoint.y / grid.cellSize
  if (grid.clearCost ⌊sx⌋ ⌊sy⌋ (onEdge sx) (onEdge sy)).isNone ||
      (grid.clearCost ⌊ex⌋ ⌊ey⌋ (onEdge ex) (onEdge ey)).isNone then none
  else
    let length := metric.hypot (endpoint.x - start.x) (endpoint.y - start.y)
    if length = 0 then some 0
    else
      let fuel := (⌊|ex - sx|⌋ + ⌊|ey - sy|⌋ + 4).toNat
      (grid.segmentLoop length fuel (axisFor sx (ex - sx)) (axisFor sy (ey - sy)) 0 0).getD none

/-- `shortcut_clear`. -/
def shortcutClear (start : PlanarVector K) (waypoints : List (PlanarVector K)) : Bool :=
  match waypoints.getLast? with
  | none => false
  | some last =>
    match grid.segmentCost metric start last with
    | none => false
    | some direct =>
      let parts := ((start :: waypoints).zip waypoints).map
        (fun pair => grid.segmentCost metric pair.1 pair.2)
      if parts.any Option.isNone then false
      else decide (direct ≤ (parts.filterMap id).foldl (· + ·) 0 + 1 / 10 ^ 9)

end Segment

end NavigationCostGrid

end ShadowbaneLab
