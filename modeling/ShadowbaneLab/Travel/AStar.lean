/-
# The weighted A* search is sound, boundedly suboptimal and complete

The search keeps the invariant of best-first search with re-opening, so that

* a returned path is legal, leads from the start to the goal (or, if allowed, to another
  reachable cell) and costs no more than reported, and a reported cost of reaching the goal
  is at most the heuristic weight times the cost of any legal path (`search_sound`);
* a search that finds no route has no legal path to find, and every search ends within its
  budget (`search_truthful`).
-/
import Mathlib.NumberTheory.Zsqrtd.Basic
import ShadowbaneLab.Travel.Pathfinding

namespace ShadowbaneLab

open Foundation

variable {K : Type} [CommRing K] [LinearOrder K]

/-! ## Legal paths -/

/-- A legal step: to a free neighbouring cell inside the grid, not around a blocked corner. -/
structure Step (grid : NavigationCostGrid K) (cell next : NavigationCell) : Prop where
  inside : grid.contains next
  free : next ∉ grid.blocked
  moves : next ≠ cell
  near : |next.x - cell.x| ≤ 1 ∧ |next.y - cell.y| ≤ 1
  corners : isDiagonal cell next = true →
    (⟨next.x, cell.y⟩ : NavigationCell) ∉ grid.blocked ∧
      (⟨cell.x, next.y⟩ : NavigationCell) ∉ grid.blocked

/-- A legal path between two cells. -/
structure IsRoute (grid : NavigationCostGrid K) (start endpoint : NavigationCell)
    (path : List NavigationCell) : Prop where
  head : path.head? = some start
  last : path.getLast? = some endpoint
  steps : path.IsChain (Step grid)

/-- The cost of a path. -/
def pathCost (diagonal : Diagonal K) (grid : NavigationCostGrid K) : List NavigationCell → K
  | [] => 0
  | [_] => 0
  | cell :: next :: rest =>
    moveCost diagonal grid cell next + pathCost diagonal grid (next :: rest)

variable {cost : K} {path : List NavigationCell}

section Paths

variable {diagonal : Diagonal K} {grid : NavigationCostGrid K} {start endpoint : NavigationCell}

variable {delta : ℤ × ℤ}

/-- The directions are the steps to the eight neighbours. -/
theorem mem_directions : delta ∈ directions ↔ delta ≠ (0, 0) ∧ |delta.1| ≤ 1 ∧ |delta.2| ≤ 1 := by
  obtain ⟨x, y⟩ := delta
  have hcoordinate (n : ℤ) : n ∈ ([-1, 0, 1] : List ℤ) ↔ |n| ≤ 1 := by
    rw [abs_le]
    simp only [List.mem_cons, List.not_mem_nil, or_false]
    omega
  rw [directions, List.mem_filter, List.mem_flatMap, decide_eq_true_eq, and_comm]
  refine and_congr_right (fun _ => ?_)
  rw [← hcoordinate, ← hcoordinate]
  constructor
  · rintro ⟨x', hx, hmap⟩
    obtain ⟨y', hy, heq⟩ := List.mem_map.mp hmap
    cases heq
    exact ⟨hx, hy⟩
  · rintro ⟨hx, hy⟩
    exact ⟨x, hx, List.mem_map_of_mem hy⟩

variable {cell next : NavigationCell}

theorem Step.mem_directions (h : Step grid cell next) :
    (next.x - cell.x, next.y - cell.y) ∈ directions := by
  refine ShadowbaneLab.mem_directions.mpr ⟨?_, h.near⟩
  intro heq
  obtain ⟨hx, hy⟩ := Prod.mk.inj heq
  apply h.moves
  obtain ⟨cx, cy⟩ := cell
  obtain ⟨nx, ny⟩ := next
  dsimp only at hx hy
  rw [NavigationCell.mk.injEq]
  exact ⟨by linarith, by linarith⟩

theorem neighbor?_eq_some (hdelta : delta ∈ directions) :
    neighbor? grid cell delta = some next ↔
      Step grid cell next ∧ delta = (next.x - cell.x, next.y - cell.y) := by
  obtain ⟨hne, hx, hy⟩ := mem_directions.mp hdelta
  obtain ⟨cx, cy⟩ := cell
  obtain ⟨nx, ny⟩ := next
  obtain ⟨dx, dy⟩ := delta
  unfold neighbor?
  dsimp only at hx hy ⊢
  constructor
  · intro h
    split at h
    · cases h
    · rename_i hfree
      split at h
      · cases h
      · rename_i hcorners
        rw [not_or, not_not] at hfree
        cases h
        refine ⟨⟨hfree.1, hfree.2, ?_, by simpa using ⟨hx, hy⟩, ?_⟩, by simp⟩
        · intro heq
          rw [NavigationCell.mk.injEq] at heq
          exact hne (Prod.ext (by linarith [heq.1]) (by linarith [heq.2]))
        · intro hdiagonal
          simp only [isDiagonal, ne_eq, Bool.and_eq_true, decide_eq_true_eq] at hdiagonal
          have hx0 : dx ≠ 0 := by
            rintro rfl
            exact hdiagonal.1 (add_zero cx).symm
          have hy0 : dy ≠ 0 := by
            rintro rfl
            exact hdiagonal.2 (add_zero cy).symm
          exact not_or.mp (fun hblocked => hcorners ⟨hx0, hy0, hblocked⟩)
  · rintro ⟨hstep, heq⟩
    obtain ⟨rfl, rfl⟩ := Prod.mk.inj heq
    have hxs : cx + (nx - cx) = nx := by ring
    have hys : cy + (ny - cy) = ny := by ring
    rw [hxs, hys]
    rw [if_neg (by rw [not_or, not_not]; exact ⟨hstep.inside, hstep.free⟩), if_neg]
    rintro ⟨hx0, hy0, hblocked⟩
    have hdiagonal : isDiagonal ⟨cx, cy⟩ ⟨nx, ny⟩ = true := by
      simp only [isDiagonal, ne_eq, Bool.and_eq_true, decide_eq_true_eq]
      exact ⟨fun h => hx0 (by rw [h, sub_self]), fun h => hy0 (by rw [h, sub_self])⟩
    obtain ⟨hcornerX, hcornerY⟩ := hstep.corners hdiagonal
    exact hblocked.elim hcornerX hcornerY

/-- **The successors of a cell are its legal steps.** -/
theorem mem_successors :
    (next, cost) ∈ successors diagonal grid cell ↔
      Step grid cell next ∧ cost = moveCost diagonal grid cell next := by
  unfold successors neighbors
  simp only [List.map_map, List.mem_map, List.mem_filterMap, Function.comp_apply, Prod.mk.injEq]
  constructor
  · rintro ⟨_, ⟨delta, hdelta, hnext⟩, rfl, rfl⟩
    exact ⟨((neighbor?_eq_some hdelta).mp hnext).1, rfl⟩
  · rintro ⟨hstep, rfl⟩
    exact ⟨next, ⟨_, hstep.mem_directions, (neighbor?_eq_some hstep.mem_directions).mpr
      ⟨hstep, rfl⟩⟩, rfl, rfl⟩

theorem pathCost_append (h : path.getLast? = some cell) :
    pathCost diagonal grid (path ++ [next]) =
      pathCost diagonal grid path + moveCost diagonal grid cell next := by
  induction path with
  | nil => cases h
  | cons first rest ih =>
    cases rest with
    | nil =>
      cases h
      simp [pathCost]
    | cons second rest =>
      rw [List.getLast?_cons_cons] at h
      have hrest := ih h
      simp only [List.cons_append, pathCost] at hrest ⊢
      rw [hrest, add_assoc]

/-- A walk is a legal path of the same cost. -/
theorem Walk.isRoute (h : Walk (successors diagonal grid) start path endpoint cost) :
    IsRoute grid start endpoint path ∧ pathCost diagonal grid path = cost := by
  induction h with
  | nil => exact ⟨⟨rfl, rfl, .singleton start⟩, rfl⟩
  | @snoc path cell next cost weight walk edge ih =>
    obtain ⟨⟨hhead, hlast, hsteps⟩, hcost⟩ := ih
    obtain ⟨hstep, rfl⟩ := mem_successors.mp edge
    refine ⟨⟨?_, List.getLast?_concat, ?_⟩, ?_⟩
    · rw [List.head?_append, hhead, Option.some_or]
    · refine List.isChain_append.mpr ⟨hsteps, .singleton next, ?_⟩
      intro last hmem first hfirst
      obtain rfl := Option.some.inj (hlast.symm.trans hmem)
      obtain rfl := Option.some.inj hfirst
      exact hstep
    · rw [pathCost_append hlast, hcost]

/-- A legal path is a walk. -/
theorem IsRoute.walk (h : IsRoute grid start endpoint path) :
    Walk (successors diagonal grid) start path endpoint (pathCost diagonal grid path) := by
  induction path using List.reverseRecOn generalizing endpoint with
  | nil => cases h.head
  | append_singleton path last ih =>
    obtain ⟨hhead, hlast, hsteps⟩ := h
    obtain rfl : last = endpoint := by
      rw [List.getLast?_concat] at hlast
      exact Option.some.inj hlast
    cases hbefore : path.getLast? with
    | none =>
      rw [List.getLast?_eq_none_iff] at hbefore
      subst hbefore
      cases hhead
      exact .nil
    | some cell =>
      obtain ⟨hchain, _, hjoin⟩ := List.isChain_append.mp hsteps
      have hstep : Step grid cell last := hjoin cell hbefore last rfl
      have hne : path ≠ [] := by
        rintro rfl
        cases hbefore
      rw [pathCost_append hbefore]
      refine (ih ⟨?_, hbefore, hchain⟩).snoc (mem_successors.mpr ⟨hstep, rfl⟩)
      rwa [List.head?_append_of_ne_nil _ hne] at hhead

/-- A walk ends on a free cell, unless it never left the start. -/
theorem Walk.free (h : Walk (successors diagonal grid) start path endpoint cost) :
    endpoint = start ∨ endpoint ∉ grid.blocked := by
  cases h with
  | nil => exact .inl rfl
  | snoc walk edge => exact .inr (mem_successors.mp edge).1.free

end Paths

/-! ## The octile estimate -/

section Estimates

variable [IsStrictOrderedRing K] {diagonal : Diagonal K} {grid : NavigationCostGrid K}

omit [IsStrictOrderedRing K] in
theorem one_le_stepCost (cell next : NavigationCell) : 1 ≤ stepCost diagonal cell next := by
  unfold stepCost
  split
  · exact diagonal.one_le
  · exact le_refl 1

theorem stepCost_le_moveCost (cell next : NavigationCell) :
    stepCost diagonal cell next ≤ moveCost diagonal grid cell next := by
  have hstep : 0 ≤ stepCost diagonal cell next :=
    le_trans zero_le_one (one_le_stepCost cell next)
  exact le_mul_of_one_le_right hstep (grid.one_le_traversalCost next)

theorem heuristic_nonneg (cell goal : NavigationCell) : 0 ≤ heuristic diagonal cell goal := by
  unfold heuristic
  have hmax : 0 ≤ max |cell.x - goal.x| |cell.y - goal.y| := le_max_of_le_left (abs_nonneg _)
  have hmin : 0 ≤ min |cell.x - goal.x| |cell.y - goal.y| := le_min (abs_nonneg _) (abs_nonneg _)
  have hroot : 0 ≤ diagonal.root - 1 := sub_nonneg.mpr diagonal.one_le
  exact add_nonneg (Int.cast_nonneg hmax) (mul_nonneg hroot (Int.cast_nonneg hmin))

omit [IsStrictOrderedRing K] in
@[simp] theorem heuristic_self (goal : NavigationCell) : heuristic diagonal goal goal = 0 := by
  simp [heuristic]

/-- Octile distances differ by at most the length of the step between them. -/
theorem octile_le {root : K} (hone : 1 ≤ root) (htwo : root ≤ 2) {m m' n n' : ℤ} (hm : m ≤ m' + 1)
    (hn : n ≤ n' + 1) :
    (m : K) + (root - 1) * n ≤ root + (m' + (root - 1) * n') ∧
      (m + n ≤ m' + n' + 1 → (m : K) + (root - 1) * n ≤ 1 + (m' + (root - 1) * n')) := by
  have hmK : (m : K) ≤ m' + 1 := by exact_mod_cast hm
  have hnK : (n : K) ≤ n' + 1 := by exact_mod_cast hn
  have hroot : 0 ≤ root - 1 := sub_nonneg.mpr hone
  have hscaled : (root - 1) * n ≤ (root - 1) * (n' + 1) := mul_le_mul_of_nonneg_left hnK hroot
  refine ⟨by linarith, ?_⟩
  intro hsum
  have hsumK : (m : K) + n ≤ m' + n' + 1 := by exact_mod_cast hsum
  rcases le_total n n' with hle | hle
  · have hleK : (n : K) ≤ n' := by exact_mod_cast hle
    have := mul_le_mul_of_nonneg_left hleK hroot
    linarith
  · -- what the smaller difference gains, the larger one loses
    have hleK : (n' : K) ≤ n := by exact_mod_cast hle
    have : (root - 1) * ((n : K) - n') ≤ 1 * ((n : K) - n') :=
      mul_le_mul_of_nonneg_right (by linarith) (sub_nonneg.mpr hleK)
    rw [mul_sub] at this
    linarith

/-- **The octile distance is consistent.** -/
theorem heuristic_le {cell next goal : NavigationCell} (h : Step grid cell next) :
    heuristic diagonal cell goal ≤ stepCost diagonal cell next + heuristic diagonal next goal := by
  obtain ⟨hx, hy⟩ := h.near
  have htriangleX : |cell.x - goal.x| ≤ |next.x - goal.x| + |next.x - cell.x| := by
    rw [abs_sub_comm next.x cell.x, add_comm]
    exact abs_sub_le _ _ _
  have htriangleY : |cell.y - goal.y| ≤ |next.y - goal.y| + |next.y - cell.y| := by
    rw [abs_sub_comm next.y cell.y, add_comm]
    exact abs_sub_le _ _ _
  have hmax : max |cell.x - goal.x| |cell.y - goal.y| ≤
      max |next.x - goal.x| |next.y - goal.y| + 1 := by omega
  have hmin : min |cell.x - goal.x| |cell.y - goal.y| ≤
      min |next.x - goal.x| |next.y - goal.y| + 1 := by omega
  obtain ⟨hdiagonal, hstraight⟩ := octile_le diagonal.one_le diagonal.le_two hmax hmin
  unfold stepCost heuristic
  split
  · exact hdiagonal
  · rename_i hone
    refine hstraight ?_
    rw [isDiagonal, Bool.and_eq_true, decide_eq_true_eq, decide_eq_true_eq] at hone
    have hsum : |next.x - cell.x| + |next.y - cell.y| ≤ 1 := by
      by_cases hsame : cell.x = next.x
      · rw [hsame, sub_self, abs_zero, zero_add]
        exact hy
      · obtain rfl' : cell.y = next.y := by
          by_contra hne
          exact hone ⟨hsame, hne⟩
        rw [rfl', sub_self, abs_zero, add_zero]
        exact hx
    rw [max_add_min, max_add_min]
    linarith

end Estimates

/-! ## The invariant of the loop -/

section Loop

variable [IsStrictOrderedRing K] {diagonal : Diagonal K} {config : WeightedAStarConfig K}
  {grid : NavigationCostGrid K} {start goal : NavigationCell} {allowPartial : Bool}
  {arrives : NavigationCell → Bool}

theorem estimated :
    Estimated (successors diagonal grid) (estimate diagonal config goal) where
  positive cell edge hedge := by
    obtain ⟨_, hcost⟩ := mem_successors.mp hedge
    have hone : 1 ≤ moveCost diagonal grid cell edge.1 :=
      (one_le_stepCost cell edge.1).trans (stepCost_le_moveCost cell edge.1)
    rw [hcost]
    exact lt_of_lt_of_le zero_lt_one hone
  nonneg cell := mul_nonneg (le_trans zero_le_one config.heuristicWeight_ok) (heuristic_nonneg _ _)

theorem estimate_le (cell : NavigationCell) :
    ∀ edge ∈ successors diagonal grid cell, estimate diagonal config goal cell ≤
      config.heuristicWeight * edge.2 + estimate diagonal config goal edge.1 := by
  rintro ⟨next, cost⟩ hedge
  obtain ⟨hstep, rfl⟩ := mem_successors.mp hedge
  have hweight : 0 ≤ config.heuristicWeight := le_trans zero_le_one config.heuristicWeight_ok
  have hmove : stepCost diagonal cell next ≤ moveCost diagonal grid cell next :=
    stepCost_le_moveCost cell next
  calc estimate diagonal config goal cell
      ≤ config.heuristicWeight * (stepCost diagonal cell next + heuristic diagonal next goal) :=
        mul_le_mul_of_nonneg_left (heuristic_le hstep) hweight
    _ ≤ config.heuristicWeight * (moveCost diagonal grid cell next + heuristic diagonal next goal) :=
        mul_le_mul_of_nonneg_left (by linarith) hweight
    _ = config.heuristicWeight * moveCost diagonal grid cell next +
          estimate diagonal config goal next := by rw [mul_add, estimate]

/-- A cell has a label. -/
def Search.Labelled (search : Search K) (cell : NavigationCell) : Prop :=
  ∃ cost, search.labels.costSoFar.get? cell = some cost

/-- The tracked cells are labelled, and the search did not arrive there, unless it is there
now. -/
structure Search.Tracks (start : NavigationCell) (arrives : NavigationCell → Bool)
    (now : NavigationCell → Prop) (search : Search K) : Prop where
  closest : search.Labelled search.closest
  closest_passed : search.closest = start ∨ arrives search.closest = false ∨ now search.closest
  boundary : ∀ cell ∈ search.boundaryFrontier,
    cell ≠ start ∧ search.Labelled cell ∧ (arrives cell = false ∨ now cell)

/-- The invariant of the loop. -/
structure Search.Inv (diagonal : Diagonal K) (config : WeightedAStarConfig K)
    (grid : NavigationCostGrid K) (start goal : NavigationCell)
    (arrives : NavigationCell → Bool) (search : Search K) : Prop where
  sound : search.labels.Sound (successors diagonal grid) start (estimate diagonal config goal)
    (fun cell => arrives cell = true) Labels.nothing
  tracks : search.Tracks start arrives (fun _ => False)

theorem initialSearch_inv :
    (initialSearch diagonal start goal).Inv diagonal config grid start goal arrives where
  sound := Labels.sound_init estimated
  tracks := ⟨⟨0, Dict.get?_set_self _ _ _⟩, .inl rfl, nofun⟩

/-! ### The parts of a turn -/

section Parts

variable {search : Search K} {now : NavigationCell → Prop} {current endpoint : NavigationCell}

omit [CommRing K] [IsStrictOrderedRing K] [LinearOrder K] in
theorem Search.costSoFar_eq_ok (h : search.labels.costSoFar.get? current = some cost) :
    search.costSoFar current = .ok cost := by
  rw [Search.costSoFar, h]

omit [CommRing K] [IsStrictOrderedRing K] in
theorem Search.trackClosest_eq_ok (h : search.Tracks start arrives now)
    (labelled : search.Labelled current) (hnow : now current) (currentHeuristic : K) :
    ∃ search', search.trackClosest current currentHeuristic = .ok search' ∧
      search'.labels = search.labels ∧ search'.expanded = search.expanded ∧
        search'.Tracks start arrives now := by
  have hcloser : ∃ closer, search.closer current currentHeuristic = .ok closer := by
    unfold Search.closer
    split
    · exact ⟨_, rfl⟩
    · split
      · obtain ⟨cost, hcost⟩ := labelled
        obtain ⟨known, hknown⟩ := h.closest
        rw [Search.costSoFar_eq_ok hcost, Search.costSoFar_eq_ok hknown]
        exact ⟨_, rfl⟩
      · exact ⟨_, rfl⟩
  obtain ⟨closer, hcloser⟩ := hcloser
  unfold Search.trackClosest
  rw [hcloser]
  cases closer with
  | false => exact ⟨search, rfl, rfl, rfl, h⟩
  | true => exact ⟨_, rfl, rfl, rfl, labelled, .inr (.inr hnow), h.boundary⟩

omit [IsStrictOrderedRing K] in
theorem Search.trackBoundary_eq_ok (grid : NavigationCostGrid K) (h : search.Tracks start arrives now)
    (labelled : search.Labelled current) (hnow : now current) (currentHeuristic : K) :
    ∃ search', search.trackBoundary grid start current currentHeuristic = .ok search' ∧
      search'.labels = search.labels ∧ search'.expanded = search.expanded ∧
        search'.Tracks start arrives now := by
  unfold Search.trackBoundary
  split
  · rename_i hcell
    obtain ⟨cost, hcost⟩ := labelled
    rw [Search.costSoFar_eq_ok hcost]
    refine ⟨_, rfl, ?_⟩
    split
    · refine ⟨rfl, rfl, h.closest, h.closest_passed, ?_⟩
      intro cell hmem
      obtain rfl := Option.mem_some.mp hmem
      exact ⟨hcell.1, ⟨cost, hcost⟩, .inr hnow⟩
    · exact ⟨rfl, rfl, h⟩
  · exact ⟨search, rfl, rfl, rfl, h⟩

variable {labels : Labels NavigationCell K}

/-- The parents built by a sound search lead back from every labelled cell. -/
theorem reconstruct_eq_ok
    (h : labels.Sound (successors diagonal grid) start (estimate diagonal config goal)
      (fun cell => arrives cell = true) Labels.nothing)
    (hcost : labels.costSoFar.get? endpoint = some cost) :
    ∃ path total, reconstruct labels.cameFrom start endpoint = .ok path ∧
      Walk (successors diagonal grid) start path endpoint total ∧ total ≤ cost := by
  obtain ⟨path, total, htrace, walk, hle⟩ := h.exists_trace estimated hcost (Nat.lt_succ_self _)
  refine ⟨path, total, ?_, walk, hle⟩
  rw [reconstruct, htrace]

omit [CommRing K] [LinearOrder K] [IsStrictOrderedRing K] in
/-- A cell that stands in for the goal is labelled, and is not the start. -/
theorem Search.partialCell_eq_some (h : search.Tracks start arrives now)
    (hcell : search.partialCell start = some endpoint) :
    endpoint ≠ start ∧ search.Labelled endpoint ∧ (arrives endpoint = false ∨ now endpoint) := by
  unfold Search.partialCell at hcell
  rcases Option.or_eq_some_iff.mp hcell with hboundary | ⟨_, hclosest⟩
  · exact h.boundary endpoint hboundary
  · split at hclosest
    · rename_i hne
      cases hclosest
      exact ⟨hne, h.closest, h.closest_passed.resolve_left hne⟩
    · cases hclosest

/-- A result leads to a cell, for at most the reported cost, which is the label of the cell. -/
structure Delivers (diagonal : Diagonal K) (grid : NavigationCostGrid K) (start : NavigationCell)
    (search : Search K) (endpoint : NavigationCell) (result : SearchResult K) : Prop where
  expanded : result.expanded = search.expanded
  label : search.labels.costSoFar.get? endpoint = some result.cost
  walk : ∃ total, Walk (successors diagonal grid) start result.path endpoint total ∧
    total ≤ result.cost

/-- The route to a labelled cell; the tables are those of a sound search. -/
theorem Search.route_eq_ok
    (h : labels.Sound (successors diagonal grid) start (estimate diagonal config goal)
      (fun cell => arrives cell = true) Labels.nothing)
    (hcameFrom : search.labels.cameFrom = labels.cameFrom)
    (hcostSoFar : search.labels.costSoFar = labels.costSoFar) (labelled : search.Labelled endpoint)
    :
    ∃ result, search.route start endpoint = .ok result ∧
      Delivers diagonal grid start search endpoint result := by
  obtain ⟨cost, hcost⟩ := labelled
  have hlabel := hcost
  rw [hcostSoFar] at hlabel
  obtain ⟨path, total, hpath, walk, hle⟩ := reconstruct_eq_ok h hlabel
  refine ⟨⟨path, search.expanded, cost⟩, ?_, rfl, hcost, total, walk, hle⟩
  unfold Search.route
  rw [hcameFrom, hpath, Search.costSoFar_eq_ok hcost]
  rfl

/-- Giving up fails as asked, or delivers a tracked cell. -/
theorem Search.giveUp_cases (allowPartial : Bool) (fault : SearchFault)
    (h : labels.Sound (successors diagonal grid) start (estimate diagonal config goal)
      (fun cell => arrives cell = true) Labels.nothing)
    (hcameFrom : search.labels.cameFrom = labels.cameFrom)
    (hcostSoFar : search.labels.costSoFar = labels.costSoFar)
    (htracks : search.Tracks start arrives now) :
    search.giveUp start allowPartial fault = .error fault ∨
      ∃ endpoint result, search.giveUp start allowPartial fault = .ok result ∧
        allowPartial = true ∧ endpoint ≠ start ∧ (arrives endpoint = false ∨ now endpoint) ∧
          Delivers diagonal grid start search endpoint result := by
  unfold Search.giveUp
  split
  · rename_i endpoint hcell
    split
    · rename_i hallow
      obtain ⟨hne, labelled, hpassed⟩ := Search.partialCell_eq_some htracks hcell
      obtain ⟨result, hroute, hdelivers⟩ := Search.route_eq_ok h hcameFrom hcostSoFar labelled
      exact .inr ⟨endpoint, result, hroute, hallow, hne, hpassed, hdelivers⟩
    · exact .inl rfl
  · exact .inl rfl

end Parts

/-! ### A turn -/

/-- What a returned result promises. -/
def Promised (diagonal : Diagonal K) (config : WeightedAStarConfig K)
    (grid : NavigationCostGrid K) (start goal : NavigationCell) (allowPartial : Bool)
    (arrives : NavigationCell → Bool) (result : SearchResult K) : Prop :=
  ∃ endpoint, (∃ total, Walk (successors diagonal grid) start result.path endpoint total ∧
      total ≤ result.cost) ∧
    (arrives endpoint = true ∨ allowPartial = true ∧ endpoint ≠ start) ∧
    (endpoint = goal → arrives goal = true → ∀ path cost,
      Walk (successors diagonal grid) start path goal cost →
        result.cost ≤ config.heuristicWeight * cost)

/-- What one turn of the loop can do. -/
inductive Turned (diagonal : Diagonal K) (config : WeightedAStarConfig K)
    (grid : NavigationCostGrid K) (start goal : NavigationCell) (allowPartial : Bool)
    (arrives : NavigationCell → Bool) (search : Search K) :
    Except SearchFault (SearchResult K ⊕ Search K) → Prop
  | stop {result : SearchResult K} (expanded : result.expanded ≤ search.expanded + 1)
      (promised : Promised diagonal config grid start goal allowPartial arrives result) :
      Turned diagonal config grid start goal allowPartial arrives search (.ok (.inl result))
  | next {search' : Search K} (expanded : search'.expanded = search.expanded + 1)
      (within : search.expanded + 1 ≤ config.maximumExpansions)
      (inv : search'.Inv diagonal config grid start goal arrives) :
      Turned diagonal config grid start goal allowPartial arrives search (.ok (.inr search'))
  | noRoute (unreachable : ∀ path cost, arrives goal = true →
      ¬Walk (successors diagonal grid) start path goal cost) :
      Turned diagonal config grid start goal allowPartial arrives search (.error .noRoute)
  | exhausted (spent : config.maximumExpansions < search.expanded + 1) :
      Turned diagonal config grid start goal allowPartial arrives search (.error .budgetExhausted)

variable {search : Search K}

/-- When the open list is empty, no walk leads to a goal where the search would stop. -/
theorem Search.Inv.unreachable (h : search.Inv diagonal config grid start goal arrives)
    (empty : search.labels.frontier = []) (path : List NavigationCell) (cost : K)
    (harrives : arrives goal = true) : ¬Walk (successors diagonal grid) start path goal cost := by
  intro walk
  have hgoal : estimate diagonal config goal goal = 0 := by
    rw [estimate, heuristic_self, mul_zero]
  obtain ⟨entry, hentry, _⟩ := h.sound.exists_open estimated config.heuristicWeight_ok
    estimate_le harrives hgoal walk
  rw [empty] at hentry
  cases hentry

/-- **A turn keeps the invariant**, or ends the search with what it promises. -/
theorem searchStep_turned (allowPartial : Bool)
    (h : search.Inv diagonal config grid start goal arrives) :
    Turned diagonal config grid start goal allowPartial arrives search
      (searchStep diagonal config grid start goal allowPartial arrives search) := by
  unfold searchStep
  cases hpop : search.labels.pop with
  | none =>
    have hempty := Labels.pop_eq_none hpop
    rcases Search.giveUp_cases allowPartial .noRoute h.sound rfl rfl
      h.tracks with hfail | ⟨endpoint, result, hgive, hallow, hne, hpassed, hdelivers⟩
    · simp only [hfail]
      exact .noRoute (h.unreachable hempty)
    · simp only [hgive]
      refine .stop (by rw [hdelivers.expanded]; exact Nat.le_succ _)
        ⟨endpoint, hdelivers.walk, .inr ⟨hallow, hne⟩, ?_⟩
      rintro rfl harrives
      rw [hpassed.resolve_right id] at harrives
      cases harrives
  | some popped =>
    obtain ⟨entry, labels⟩ := popped
    obtain ⟨hentry, hleast, rest, rfl, _⟩ := Labels.pop_eq_some hpop
    obtain ⟨cost, hcost, hpriority⟩ := h.sound.queued entry hentry
    have htracks : Search.Tracks start arrives (· = entry.node)
        { search with
          labels := { search.labels with frontier := rest }
          expanded := search.expanded + 1 } :=
      ⟨h.tracks.closest, h.tracks.closest_passed.imp_right (.imp_right False.elim),
        fun cell hcell => (h.tracks.boundary cell hcell).imp_right
          (And.imp_right (.imp_right False.elim))⟩
    obtain ⟨search₁, hfirst, hlabels₁, hexpanded₁, htracks₁⟩ :=
      Search.trackClosest_eq_ok htracks ⟨cost, hcost⟩ rfl (heuristic diagonal entry.node goal)
    have hlabelled₁ : search₁.Labelled entry.node := ⟨cost, by rw [hlabels₁]; exact hcost⟩
    obtain ⟨search₂, hsecond, hlabels₂, hexpanded₂, htracks₂⟩ :=
      Search.trackBoundary_eq_ok grid htracks₁ hlabelled₁ rfl
        (heuristic diagonal entry.node goal)
    have hlabels : search₂.labels = { search.labels with frontier := rest } :=
      hlabels₂.trans hlabels₁
    have hexpanded : search₂.expanded = search.expanded + 1 := hexpanded₂.trans hexpanded₁
    -- a label of the entry's cell is at most the priority of any open entry
    have hbound (path : List NavigationCell) (total : K) (harrives : arrives goal = true)
        (walk : Walk (successors diagonal grid) start path goal total) :
        cost ≤ config.heuristicWeight * total := by
      have hgoal : estimate diagonal config goal goal = 0 := by
        rw [estimate, heuristic_self, mul_zero]
      obtain ⟨other, hother, hle⟩ := h.sound.exists_open estimated config.heuristicWeight_ok
        estimate_le harrives hgoal walk
      exact hpriority.trans ((hleast other hother).trans hle)
    simp only [hfirst, hsecond, ok_bind, hexpanded]
    split
    · rename_i hover
      rcases Search.giveUp_cases allowPartial .budgetExhausted h.sound
        (by rw [hlabels]) (by rw [hlabels]) htracks₂ with
        hfail | ⟨endpoint, result, hgive, hallow, hne, hpassed, hdelivers⟩
      · simp only [hfail]
        exact .exhausted hover
      · simp only [hgive]
        refine .stop (by rw [hdelivers.expanded, hexpanded])
          ⟨endpoint, hdelivers.walk, .inr ⟨hallow, hne⟩, ?_⟩
        rintro rfl harrives path total walk
        have hsame : endpoint = entry.node := hpassed.resolve_left (by rw [harrives]; exact nofun)
        have hlabel := hdelivers.label
        rw [hlabels, hsame, hcost] at hlabel
        rw [← Option.some.inj hlabel]
        exact hbound path total harrives walk
    · rename_i hwithin
      split
      · rename_i harrives
        have hlabelled : search₂.Labelled entry.node := ⟨cost, by rw [hlabels]; exact hcost⟩
        obtain ⟨result, hroute, hdelivers⟩ := Search.route_eq_ok h.sound (by rw [hlabels])
          (by rw [hlabels]) hlabelled
        simp only [hroute]
        refine .stop (by rw [hdelivers.expanded, hexpanded])
          ⟨entry.node, hdelivers.walk, .inl harrives, ?_⟩
        rintro hsame harrivesGoal path total walk
        have hlabel := hdelivers.label
        rw [hlabels, hcost] at hlabel
        rw [← Option.some.inj hlabel]
        exact hbound path total harrivesGoal walk
      · rename_i hgo
        have hpending := h.sound.pop hpop hgo
        have hedges : ∀ edge ∈ successors diagonal grid entry.node,
            edge ∈ successors diagonal grid entry.node := fun _ hedge => hedge
        obtain ⟨labels', hexpand, hsound', hkept⟩ := hpending.expand estimated hedges hcost
        rw [hlabels, hexpand]
        have hpassed {cell : NavigationCell} (hcell : arrives cell = false ∨ cell = entry.node) :
            arrives cell = false := by
          rcases hcell with hcell | rfl
          · exact hcell
          · exact Bool.eq_false_iff.mpr hgo
        have hkeptLabel {cell : NavigationCell} (hcell : search₂.Labelled cell) :
            ∃ known, labels'.costSoFar.get? cell = some known := by
          obtain ⟨known, hknown⟩ := hcell
          rw [hlabels] at hknown
          exact hkept cell known hknown
        refine .next rfl (Nat.le_of_not_lt hwithin) ⟨hsound', ?_, ?_, ?_⟩
        · exact hkeptLabel htracks₂.closest
        · exact htracks₂.closest_passed.imp_right (fun hcell => .inl (hpassed hcell))
        · intro cell hcell
          obtain ⟨hne, hlabelled, hcell⟩ := htracks₂.boundary cell hcell
          exact ⟨hne, hkeptLabel hlabelled, .inl (hpassed hcell)⟩

/-! ### The whole loop -/

/-- How the loop can end. -/
def Ended (diagonal : Diagonal K) (config : WeightedAStarConfig K)
    (grid : NavigationCostGrid K) (start goal : NavigationCell) (allowPartial : Bool)
    (arrives : NavigationCell → Bool) : Except SearchFault (SearchResult K) → Prop
  | .ok result => result.expanded ≤ config.maximumExpansions + 1 ∧
      Promised diagonal config grid start goal allowPartial arrives result
  | .error .noRoute => ∀ path cost, arrives goal = true →
      ¬Walk (successors diagonal grid) start path goal cost
  | .error .budgetExhausted => True
  | .error _ => False

/-- **The loop ends within its budget**, with what it promises. -/
theorem searchLoop_ended {fuel : ℕ} (h : search.Inv diagonal config grid start goal arrives)
    (hexpanded : search.expanded ≤ config.maximumExpansions)
    (hfuel : config.maximumExpansions < search.expanded + fuel) :
    Ended diagonal config grid start goal allowPartial arrives
      (searchLoop diagonal config grid start goal allowPartial arrives fuel search) := by
  induction fuel generalizing search with
  | zero => omega
  | succ fuel ih =>
    unfold searchLoop
    have hturned := searchStep_turned allowPartial h
    generalize searchStep diagonal config grid start goal allowPartial arrives search = turned
      at hturned
    cases hturned with
    | stop expanded promised => exact ⟨expanded.trans (Nat.succ_le_succ hexpanded), promised⟩
    | next expanded within inv => exact ih inv (by omega) (by omega)
    | noRoute unreachable => exact unreachable
    | exhausted spent => exact trivial

/-- More turns than the budget allows change nothing. -/
theorem searchLoop_fuel {fuel fuel' : ℕ} (h : search.Inv diagonal config grid start goal arrives)
    (hfuel : config.maximumExpansions < search.expanded + fuel) (hle : fuel ≤ fuel')
    (hexpanded : search.expanded ≤ config.maximumExpansions) :
    searchLoop diagonal config grid start goal allowPartial arrives fuel' search =
      searchLoop diagonal config grid start goal allowPartial arrives fuel search := by
  induction fuel generalizing search fuel' with
  | zero => omega
  | succ fuel ih =>
    obtain ⟨fuel', rfl⟩ : ∃ k, fuel' = k + 1 := ⟨fuel' - 1, by omega⟩
    unfold searchLoop
    have hturned := searchStep_turned allowPartial h
    generalize searchStep diagonal config grid start goal allowPartial arrives search = turned
      at hturned
    cases hturned with
    | next expanded within inv => exact ih inv (by omega) (by omega) (by omega)
    | _ => rfl

/-- The variables of the loop whenever a turn begins. -/
inductive Searches (diagonal : Diagonal K) (config : WeightedAStarConfig K)
    (grid : NavigationCostGrid K) (start goal : NavigationCell) (allowPartial : Bool)
    (arrives : NavigationCell → Bool) : Search K → Prop
  | init : Searches diagonal config grid start goal allowPartial arrives
      (initialSearch diagonal start goal)
  | step {search search' : Search K}
      (before : Searches diagonal config grid start goal allowPartial arrives search)
      (turn : searchStep diagonal config grid start goal allowPartial arrives search =
        .ok (.inr search')) :
      Searches diagonal config grid start goal allowPartial arrives search'

theorem Searches.inv (h : Searches diagonal config grid start goal allowPartial arrives search) :
    search.Inv diagonal config grid start goal arrives := by
  induction h with
  | init => exact initialSearch_inv
  | step _ turn ih =>
    have hturned := searchStep_turned allowPartial ih
    rw [turn] at hturned
    cases hturned with
    | next expanded within inv => exact inv

end Loop

/-! ## A small window -/

instance nonsquare_two : Zsqrtd.Nonsquare 2 := ⟨fun n h => by
  have hlt : n < 2 := by nlinarith
  have hcases : n = 0 ∨ n = 1 := by omega
  rcases hcases with rfl | rfl <;> cases h⟩

/-- The exact square root of two, next to the integers. -/
def Diagonal.exact : Diagonal (ℤ√((2 : ℕ) : ℤ)) where
  root := ⟨0, 1⟩
  one_le := by decide
  le_two := by decide

/-- The bounds of a window of nine cells with some cells blocked. -/
def window.grid (blocked : Finset NavigationCell)
    (inside : ∀ cell ∈ blocked, insideOf ⟨0, 0⟩ ⟨2, 2⟩ cell := by decide) :
    NavigationCostGrid (ℤ√((2 : ℕ) : ℤ)) where
  cellSize := 1
  minimum := ⟨0, 0⟩
  maximum := ⟨2, 2⟩
  blocked := blocked
  costs := []
  cellSize_pos := by decide
  ordered := by decide
  blocked_inside := inside
  costs_inside := nofun
  costs_nodup := List.nodup_nil
  costs_ok := nofun

def window.config : WeightedAStarConfig (ℤ√((2 : ℕ) : ℤ)) where
  heuristicWeight := 1
  maximumExpansions := 20
  planningMarginCells := 1
  obstacleClearanceCells := 0
  waypointRadiusFraction := ⟨-1, 1⟩
  heuristicWeight_ok := by decide
  maximumExpansions_pos := by decide
  planningMarginCells_pos := by decide
  waypointRadiusFraction_ok := by decide

/-! ## The search -/

section Results

variable [IsStrictOrderedRing K] (diagonal : Diagonal K) (config : WeightedAStarConfig K)
  (grid : NavigationCostGrid K) (start goal : NavigationCell) (allowPartial : Bool)

variable {grid start goal allowPartial} in
theorem search_ended (hstart : start ∉ grid.blocked)
    (hgoal : goal ∉ grid.blocked ∨ allowPartial = true) :
    Ended diagonal config grid start goal allowPartial (arrivesAt grid goal)
      (search diagonal config grid start goal allowPartial) := by
  unfold search
  rw [if_neg]
  · exact searchLoop_ended initialSearch_inv (Nat.zero_le _) (by simp [initialSearch])
  · rintro (hblocked | ⟨hblocked, hpartial⟩)
    · exact hstart hblocked
    · exact hgoal.elim (fun hfree => hfree hblocked) hpartial

omit [IsStrictOrderedRing K] in
variable {grid start goal} in
/-- A goal with a legal path to it is where the search stops. -/
theorem IsRoute.arrivesAt (h : IsRoute grid start goal path) (hstart : start ∉ grid.blocked)
    (diagonal : Diagonal K) : arrivesAt grid goal goal = true := by
  rw [ShadowbaneLab.arrivesAt, Bool.and_eq_true, decide_eq_true_eq, decide_eq_true_eq]
  refine ⟨rfl, ?_⟩
  rcases Walk.free (h.walk : Walk (successors diagonal grid) _ _ _ _) with rfl | hfree
  · exact hstart
  · exact hfree

/-- **Weighted A* is sound and boundedly suboptimal**, and the parents that a search builds
lead back to the start. -/
theorem search_sound :
    (∀ result, search diagonal config grid start goal allowPartial = .ok result →
      ∃ endpoint, IsRoute grid start endpoint result.path ∧
        (endpoint = goal ∨ allowPartial = true ∧ endpoint ≠ start) ∧
        pathCost diagonal grid result.path ≤ result.cost ∧
        (endpoint = goal → ∀ path, IsRoute grid start goal path →
          result.cost ≤ config.heuristicWeight * pathCost diagonal grid path)) ∧
    ∀ s, Searches diagonal config grid start goal allowPartial (arrivesAt grid goal) s →
      ∀ cell, s.Labelled cell →
        ∃ path, reconstruct s.labels.cameFrom start cell = .ok path := by
  constructor
  · intro result hresult
    have hendpoints : start ∉ grid.blocked ∧ (goal ∉ grid.blocked ∨ allowPartial = true) := by
      unfold search at hresult
      split at hresult
      · cases hresult
      · rename_i hfree
        rw [not_or, not_and, not_not] at hfree
        exact ⟨hfree.1, or_iff_not_imp_left.mpr (fun hblocked => hfree.2 (not_not.mp hblocked))⟩
    have hended := search_ended diagonal config hendpoints.1 hendpoints.2
    rw [hresult] at hended
    obtain ⟨_, endpoint, ⟨total, walk, hle⟩, harrived, hbound⟩ := hended
    obtain ⟨hroute, hcost⟩ := Walk.isRoute walk
    refine ⟨endpoint, hroute, ?_, hcost.trans_le hle, ?_⟩
    · refine harrived.imp_left ?_
      intro harrives
      rw [arrivesAt, Bool.and_eq_true, decide_eq_true_eq] at harrives
      exact harrives.1
    · intro hsame path hpath
      exact hbound hsame (hpath.arrivesAt hendpoints.1 diagonal) path _ hpath.walk
  · rintro s hsearches cell ⟨cost, hcost⟩
    obtain ⟨path, _, hpath, _⟩ := reconstruct_eq_ok hsearches.inv.sound hcost
    exact ⟨path, hpath⟩

/-- Around the blocked centre of a window of nine cells, four straight steps are optimal. -/
theorem search_sound_detour :
    search Diagonal.exact window.config (window.grid {⟨1, 1⟩}) ⟨0, 0⟩ ⟨2, 2⟩ false =
        .ok ⟨[⟨0, 0⟩, ⟨0, 1⟩, ⟨0, 2⟩, ⟨1, 2⟩, ⟨2, 2⟩], 8, 4⟩ ∧
      ∀ path, IsRoute (window.grid {⟨1, 1⟩}) ⟨0, 0⟩ ⟨2, 2⟩ path →
        4 ≤ pathCost Diagonal.exact (window.grid {⟨1, 1⟩}) path := by
  have hsearch : search Diagonal.exact window.config (window.grid {⟨1, 1⟩}) ⟨0, 0⟩ ⟨2, 2⟩ false =
      .ok ⟨[⟨0, 0⟩, ⟨0, 1⟩, ⟨0, 2⟩, ⟨1, 2⟩, ⟨2, 2⟩], 8, 4⟩ := by decide +kernel
  refine ⟨hsearch, ?_⟩
  intro path hpath
  obtain ⟨endpoint, hroute, _, _, hbound⟩ := (search_sound Diagonal.exact window.config
    (window.grid {⟨1, 1⟩}) ⟨0, 0⟩ ⟨2, 2⟩ false).1 _ hsearch
  have hlast : endpoint = ⟨2, 2⟩ := (Option.some.inj hroute.last).symm
  have hcost := hbound hlast path hpath
  rwa [show window.config.heuristicWeight = 1 from rfl, one_mul] at hcost

/-- **The failures of A* are truthful.**  A search that reports no route has no legal path to
find; a search takes at most one cell more than its budget from the open list, however many
turns it is given; and it fails otherwise only for a blocked endpoint or when its budget is
exhausted. -/
theorem search_truthful :
    (search diagonal config grid start goal allowPartial = .error .noRoute →
      ∀ path, ¬IsRoute grid start goal path) ∧
    (∀ result, search diagonal config grid start goal allowPartial = .ok result →
      result.expanded ≤ config.maximumExpansions + 1) ∧
    (∀ fuel, config.maximumExpansions + 1 ≤ fuel →
      searchLoop diagonal config grid start goal allowPartial (arrivesAt grid goal) fuel
          (initialSearch diagonal start goal) =
        searchLoop diagonal config grid start goal allowPartial (arrivesAt grid goal)
          (config.maximumExpansions + 1) (initialSearch diagonal start goal)) ∧
    ∀ fault, search diagonal config grid start goal allowPartial = .error fault →
      fault = .noRoute ∨ fault = .budgetExhausted ∨
        fault = .endpointBlocked ∧ (start ∈ grid.blocked ∨ goal ∈ grid.blocked) := by
  by_cases hblocked : start ∈ grid.blocked ∨ (goal ∈ grid.blocked ∧ ¬allowPartial)
  · have hfail : search diagonal config grid start goal allowPartial = .error .endpointBlocked := by
      rw [search, if_pos hblocked]
    rw [hfail]
    refine ⟨nofun, nofun, ?_, ?_⟩
    · exact fun fuel hle =>
        searchLoop_fuel initialSearch_inv (by simp [initialSearch]) hle (Nat.zero_le _)
    · rintro fault ⟨⟩
      exact .inr (.inr ⟨rfl, hblocked.imp_right And.left⟩)
  · have hendpoints : start ∉ grid.blocked ∧ (goal ∉ grid.blocked ∨ allowPartial = true) := by
      rw [not_or, not_and, not_not] at hblocked
      exact ⟨hblocked.1, or_iff_not_imp_left.mpr (fun h => hblocked.2 (not_not.mp h))⟩
    have hended := search_ended diagonal config hendpoints.1 hendpoints.2
    refine ⟨?_, ?_, ?_, ?_⟩
    · intro hnone path hpath
      rw [hnone] at hended
      exact hended path _ (hpath.arrivesAt hendpoints.1 diagonal) hpath.walk
    · intro result hresult
      rw [hresult] at hended
      exact hended.1
    · exact fun fuel hle =>
        searchLoop_fuel initialSearch_inv (by simp [initialSearch]) hle (Nat.zero_le _)
    · intro fault hfault
      rw [hfault] at hended
      cases fault with
      | noRoute => exact .inl rfl
      | budgetExhausted => exact .inr (.inl rfl)
      | _ => exact hended.elim

/-- Through a wall across the window there is no path. -/
theorem search_truthful_wall :
    search Diagonal.exact window.config (window.grid {⟨1, 0⟩, ⟨1, 1⟩, ⟨1, 2⟩}) ⟨0, 0⟩ ⟨2, 2⟩ false =
        .error .noRoute ∧
      ∀ path, ¬IsRoute (window.grid {⟨1, 0⟩, ⟨1, 1⟩, ⟨1, 2⟩}) ⟨0, 0⟩ ⟨2, 2⟩ path := by
  have hsearch : search Diagonal.exact window.config (window.grid {⟨1, 0⟩, ⟨1, 1⟩, ⟨1, 2⟩})
      ⟨0, 0⟩ ⟨2, 2⟩ false = .error .noRoute := by decide +kernel
  exact ⟨hsearch, (search_truthful _ _ _ _ _ _).1 hsearch⟩

end Results

/-! ## The search on doubles -/

namespace Doubles

variable (grid : NavigationCostGrid K) (traversalCost : NavigationCell → Float)
  (heuristicWeight : Float) (maximumExpansions : ℕ) (start goal : NavigationCell)

/-- `_heuristic`, of cells that are not too far apart for a double. -/
def heuristic (first second : NavigationCell) : Float :=
  let deltaX := |first.x - second.x|
  let deltaY := |first.y - second.y|
  .ofInt (max deltaX deltaY) + (Float.sqrt 2 - 1) * .ofInt (min deltaX deltaY)

/-- `heapq.heappop`. -/
def pop (labels : Labels NavigationCell Float) :
    Option (NavigationCell × Labels NavigationCell Float) :=
  match labels.frontier.insertionSort fun a b =>
    a.priority < b.priority ∨ a.priority == b.priority ∧ a.order ≤ b.order with
  | [] => none
  | entry :: rest => some (entry.node, { labels with frontier := rest })

/-- A step in one direction: the cost of a cell without a label is infinite. -/
def relax (current : NavigationCell) (labels : Labels NavigationCell Float) (delta : ℤ × ℤ) :
    Except SearchFault (Labels NavigationCell Float) :=
  match neighbor? grid current delta, labels.costSoFar.get? current with
  | none, _ => .ok labels
  | some _, none => .error .keyError
  | some neighbor, some cost =>
    let stepCost := if isDiagonal current neighbor then Float.sqrt 2 else 1
    let newCost := cost + stepCost * traversalCost neighbor
    if newCost ≥ labels.costSoFar.getD neighbor (1 / 0) then .ok labels
    else .ok (labels.label neighbor current newCost
      (newCost + heuristicWeight * heuristic neighbor goal))

/-- The loop, for the expansions that are left. -/
def searchLoop : ℕ → Labels NavigationCell Float → Except SearchFault (List NavigationCell)
  | fuel, labels =>
    match pop labels, fuel with
    | none, _ => .error .noRoute
    | some _, 0 => .error .budgetExhausted
    | some (current, labels), fuel + 1 =>
      if arrivesAt grid goal current then reconstruct labels.cameFrom start current
      else do
        let labels ← directions.foldlM (relax grid traversalCost heuristicWeight goal current) labels
        searchLoop fuel labels

/-- `_search`, without a partial result. -/
def search : Except SearchFault (List NavigationCell) :=
  if start ∈ grid.blocked ∨ goal ∈ grid.blocked then .error .endpointBlocked
  else
    searchLoop grid traversalCost heuristicWeight start goal maximumExpansions
      ⟨[⟨0, 0, start⟩], 0, ∅, Dict.empty.set start 0⟩

end Doubles

/-- In doubles the costs of two cells add up to infinity, and the search misses the path through
them. -/
theorem search_overflows :
    Doubles.search (window.grid ∅) (fun _ => 1.7e308) 1 20 ⟨0, 0⟩ ⟨2, 0⟩ = .error .noRoute ∧
      IsRoute (window.grid ∅) ⟨0, 0⟩ ⟨2, 0⟩ [⟨0, 0⟩, ⟨1, 0⟩, ⟨2, 0⟩] := by
  have hfirst : Step (window.grid ∅) ⟨0, 0⟩ ⟨1, 0⟩ := by constructor <;> decide
  have hsecond : Step (window.grid ∅) ⟨1, 0⟩ ⟨2, 0⟩ := by constructor <;> decide
  exact ⟨by decide +kernel, rfl, rfl, .cons_cons hfirst (.cons_cons hsecond (.singleton _))⟩

end ShadowbaneLab
