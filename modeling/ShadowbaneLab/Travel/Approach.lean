/-
# Blocked destinations

A route of `_plan` (`src/shadowbane_lab/travel/pathfinding.py`) to a destination whose cell is
blocked ends in front of it: its last leg keeps to its last cell, which is free, and satisfies
the request (`approached`).
-/
import ShadowbaneLab.Travel.Arrival
import ShadowbaneLab.Travel.Clearance

namespace ShadowbaneLab

open Foundation

variable {K : Type} [Field K] [LinearOrder K] {metric : Metric K}

/-- The square of a cell, with its edges. -/
def NavigationCell.square (cell : NavigationCell) (size : K) : Set (PlayerPosition K) :=
  {point | ((cell.x : K) * size ≤ point.lt ∧ point.lt ≤ ((cell.x : K) + 1) * size) ∧
    ((cell.y : K) * size ≤ point.lg ∧ point.lg ≤ ((cell.y : K) + 1) * size)}

/-- The points at which a destination counts as reached. -/
def TravelDestination.disc (metric : Metric K) (destination : TravelDestination K) :
    Set (PlayerPosition K) :=
  {point | destination.Reached metric point}

/-- The last leg of a route ends in a free cell before a blocked destination. -/
structure Approaches [FloorRing K] (metric : Metric K) (navigation : SparseNavigationMap K)
    (destination last : TravelDestination K) (cell : NavigationCell) : Prop where
  positive : 0 < last.arrivalRadius
  covered : last.disc metric ⊆ cell.square navigation.cellSize
  /-- Only on the rim of the disc may a point count for the next cell. -/
  inside : ∀ point, last.distanceFrom metric point < last.arrivalRadius →
    navigation.cellFor point.lt point.lg = cell
  free : cell ∉ navigation.blocked
  within : last.disc metric ⊆ destination.disc metric

variable {config : WeightedAStarConfig K} {navigation : SparseNavigationMap K}
  {grid : NavigationCostGrid K} {position : PlanarVector K} {destination : TravelDestination K}
  {route : AStarRoute K} {cell : NavigationCell} {endpoint : TravelDestination K}

theorem notMem_physicalBlocked {within : TravelDestination K}
    (h : arrivesWithin metric grid within cell = true) : cell ∉ grid.physicalBlocked := by
  intro hmem
  rw [arrivesWithin, if_pos hmem] at h
  cases h

variable [IsStrictOrderedRing K] [FloorRing K]

theorem floor_div_eq {size x : K} {z : ℤ} (hsize : 0 < size) (hleft : z * size ≤ x)
    (hright : x < (z + 1) * size) : ⌊x / size⌋ = z :=
  Int.floor_eq_iff.mpr ⟨(le_div_iff₀ hsize).mpr hleft, (div_lt_iff₀ hsize).mpr hright⟩

variable (hlegs : ∀ x y, |x| ≤ metric.hypot x y ∧ |y| ≤ metric.hypot x y)

include hlegs

/-- The endpoint keeps its radius away from the edges of its cell. -/
theorem blockedEndpoint_covered (h : blockedEndpoint metric grid cell destination = .ok endpoint) :
    endpoint.disc metric ⊆ cell.square grid.cellSize ∧
      ∀ point, endpoint.distanceFrom metric point < endpoint.arrivalRadius →
        (⟨⌊point.lt / grid.cellSize⌋, ⌊point.lg / grid.cellSize⌋⟩ : NavigationCell) = cell := by
  obtain ⟨hlt, hlg, hradius⟩ := make_eq_ok h
  have hleast := hradius.le
  rw [le_min_iff, le_min_iff, le_min_iff, le_min_iff, ← hlt, ← hlg] at hleast
  obtain ⟨⟨⟨⟨-, hleft⟩, hright⟩, hbottom⟩, htop⟩ := hleast
  constructor
  · intro point hpoint
    obtain ⟨hlt, hlg⟩ := hlegs (endpoint.lt - point.lt) (endpoint.lg - point.lg)
    obtain ⟨hlt, hlt'⟩ := abs_le.mp (hlt.trans hpoint)
    obtain ⟨hlg, hlg'⟩ := abs_le.mp (hlg.trans hpoint)
    exact ⟨⟨by linarith, by linarith⟩, by linarith, by linarith⟩
  · intro point hpoint
    obtain ⟨hlt, hlg⟩ := hlegs (endpoint.lt - point.lt) (endpoint.lg - point.lg)
    obtain ⟨hlt, hlt'⟩ := abs_lt.mp (hlt.trans_lt hpoint)
    obtain ⟨hlg, hlg'⟩ := abs_lt.mp (hlg.trans_lt hpoint)
    exact congrArg₂ NavigationCell.mk
      (floor_div_eq grid.cellSize_pos (by linarith) (by linarith))
      (floor_div_eq grid.cellSize_pos (by linarith) (by linarith))

/-- **A blocked destination is approached, never entered.** -/
theorem approached (hblocked : navigation.cellFor destination.lt destination.lg ∈ navigation.blocked)
    (hstart : ¬ destination.Reached metric ⟨position.x, position.y⟩)
    (h : planRoute metric config navigation position destination = .ok route) :
    ∃ cell, route.cells.getLast? = some cell ∧
      Approaches metric navigation destination route.finalDestination cell := by
  have hwithin := (planRoute_lands h).resolve_right (fun hthere => hstart hthere.1)
  obtain ⟨_, _, before, hsearched, hdestinations, -⟩ := planRoute_destinations h
  obtain ⟨_, result, endpoint, rfl, hplanned, hcells⟩ := planRoute_eq_ok h
  obtain ⟨rfl, rfl⟩ := Prod.mk.inj (Except.ok.inj (hplanned.symm.trans hsearched))
  rw [finalDestination_of_append hdestinations] at hwithin ⊢
  unfold planSearch at hsearched
  dsimp only at hsearched
  rw [if_neg (fun hthere => hstart hthere.2), if_pos hblocked] at hsearched
  obtain ⟨searched, hsearch, hsearched⟩ := bind_eq_ok.mp hsearched
  obtain ⟨last, total, walk, harrives⟩ := searchTowards_walk hsearch
  have hroute := (Walk.isRoute walk).1
  rw [hroute.last] at hsearched
  obtain ⟨found, hendpoint, hsearched⟩ := bind_eq_ok.mp hsearched
  cases hsearched
  obtain ⟨hcovered, hinside⟩ := blockedEndpoint_covered hlegs hendpoint
  refine ⟨last, ?_, endpoint.arrivalRadius_pos, hcovered, hinside, fun hmem => ?_, hwithin⟩
  · rw [hcells, (smooth_smoothed hroute.steps).last, hroute.last]
  · have hcontains := (Walk.cells_free walk last (List.mem_of_getLast? hroute.last)).1
    exact notMem_physicalBlocked (harrives rfl destination rfl)
      (Finset.mem_filter.mpr ⟨hmem, hcontains⟩)

omit hlegs

/-- A map with one obstacle, as in the tests. -/
def obstacle.wall : SparseNavigationMap ℚ :=
  { obstacle.navigation with blocked := {⟨3, 0⟩} }

/-- A destination in it, next to its edge. -/
def obstacle.edge : TravelDestination ℚ := ⟨61 / 2, 5, 2, by norm_num⟩

theorem approached_edge : ∃ route, planRoute Metric.axial obstacle.config obstacle.wall ⟨5, 5⟩
      obstacle.edge = .ok route ∧ Approaches Metric.axial obstacle.wall obstacle.edge
        route.finalDestination ⟨2, 0⟩ := by
  have hplanned : (planRoute Metric.axial obstacle.config obstacle.wall ⟨5, 5⟩
      obstacle.edge).map (fun route => route.cells.getLast?) = .ok (some ⟨2, 0⟩) := by
    decide +kernel
  obtain ⟨route, hroute, hlast⟩ := exists_of_map_eq_ok hplanned
  obtain ⟨cell, hcell, happroaches⟩ := approached (fun x y =>
    ⟨le_add_of_nonneg_right (abs_nonneg y), le_add_of_nonneg_left (abs_nonneg x)⟩)
    (by decide +kernel) (by decide +kernel) hroute
  obtain rfl := Option.some.inj (hcell.symm.trans hlast)
  exact ⟨route, hroute, happroaches⟩

end ShadowbaneLab
