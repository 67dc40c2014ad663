/-
# What refinement keeps of a map

However often a map is refined, the finer map blocks the children of the structural and of the
terrain obstacles and some child of every learned one, and it blocks nothing else; a cell that
stays free costs what its ancestor costs.  A refinement forgets where the collisions were
measured, so that the next one takes every child of a learned cell.  Where the code's cell size
underflows the constructor raises, and there is no finer map.
-/
import ShadowbaneLab.Travel.NavigationMap

namespace ShadowbaneLab.SparseNavigationMap

open Foundation

variable {K : Type} [Field K] [LinearOrder K] (navigation : SparseNavigationMap K)

/-! ## Marks -/

/-- `mark_blocked`. -/
def markBlocked (cell : NavigationCell) : SparseNavigationMap K :=
  { navigation with
    blocked := insert cell navigation.blocked
    structuralBlocked := insert cell navigation.structuralBlocked
    costs := navigation.costs.erase cell }

/-- `mark_learned_blocked`. -/
def markLearnedBlocked (cell : NavigationCell) : SparseNavigationMap K :=
  { navigation with
    blocked := insert cell navigation.blocked
    learnedBlocked := insert cell navigation.learnedBlocked
    refinedLearnedBlocked :=
      navigation.refinedLearnedBlocked ∪ (navigation.refinedChildren cell).toFinset }

/-- `set_cost`, of a cell without a structural obstacle. -/
def setCost (cell : NavigationCell) (cost : TraversalCost K) : SparseNavigationMap K :=
  { navigation with costs := navigation.costs.set cell cost }

/-- The maps that calls make of a new one; those that raise leave a map as it is. -/
inductive Marked : SparseNavigationMap K → Prop
  | new (cellSize : K) (factor : ℕ) (hsize : 0 < cellSize) (hfactor : 2 ≤ factor) :
    Marked
      { cellSize := cellSize
        refinementFactor := factor
        cellSize_pos := hsize
        refinementFactor_ok := hfactor }
  | blocked {m : SparseNavigationMap K} (cell) : Marked m → Marked (m.markBlocked cell)
  | learned {m : SparseNavigationMap K} (cell) : Marked m → Marked (m.markLearnedBlocked cell)
  | refined {m : SparseNavigationMap K} (cell child) : m.coarseParent child = cell → Marked m →
    Marked (m.markRefinedLearnedBlocked cell child)
  | terrain {m : SparseNavigationMap K} (cell) : Marked m → Marked (m.markTerrainBlocked cell)
  | cost {m : SparseNavigationMap K} (cell cost) : cell ∉ m.structuralBlocked → Marked m →
    Marked (m.setCost cell cost)
  | terrainCost {m : SparseNavigationMap K} (cell cost) : Marked m →
    Marked (m.setTerrainCost cell cost)

/-- Every obstacle blocks its cell. -/
structure Sound : Prop where
  structural : navigation.structuralBlocked ⊆ navigation.blocked
  learned : navigation.learnedBlocked ⊆ navigation.blocked
  terrain : navigation.terrainBlocked ⊆ navigation.blocked

variable {navigation}

theorem Marked.sound (h : Marked navigation) : navigation.Sound := by
  have hinsert {s t : Finset NavigationCell} (cell : NavigationCell) (hst : s ⊆ t) :
      s ⊆ insert cell t := hst.trans (Finset.subset_insert cell t)
  induction h with
  | new => exact ⟨subset_rfl, subset_rfl, subset_rfl⟩
  | blocked cell _ ih =>
    exact ⟨Finset.insert_subset_insert cell ih.1, hinsert cell ih.2, hinsert cell ih.3⟩
  | learned cell _ ih =>
    exact ⟨hinsert cell ih.1, Finset.insert_subset_insert cell ih.2, hinsert cell ih.3⟩
  | refined cell child _ _ ih =>
    exact ⟨hinsert cell ih.1, Finset.insert_subset_insert cell ih.2, hinsert cell ih.3⟩
  | terrain cell _ ih =>
    exact ⟨hinsert cell ih.1, hinsert cell ih.2, Finset.insert_subset_insert cell ih.3⟩
  | cost _ _ _ _ ih => exact ⟨ih.1, ih.2, ih.3⟩
  | terrainCost _ _ _ ih => exact ⟨ih.1, ih.2, ih.3⟩

/-! ## Children -/

theorem exists_child_iff {factor : ℕ} (hfactor : 2 ≤ factor) {c p : ℤ} :
    (∃ delta < factor, p * factor + (delta : ℕ) = c) ↔ c / factor = p := by
  have hpos : (0 : ℤ) < factor := by omega
  constructor
  · rintro ⟨delta, hdelta, rfl⟩
    rw [Int.add_comm, Int.add_mul_ediv_right _ _ hpos.ne',
      Int.ediv_eq_zero_of_lt (by omega) (by omega), zero_add]
  · rintro rfl
    have hnonneg := Int.emod_nonneg c hpos.ne'
    have hlt := Int.emod_lt_of_pos c hpos
    refine ⟨(c % factor).toNat, by omega, ?_⟩
    rw [Int.toNat_of_nonneg hnonneg, Int.mul_comm]
    exact Int.mul_ediv_add_emod c factor

theorem mem_offsets {factor : ℕ} {delta : ℤ} :
    (delta ∈ do let a ← List.range factor; pure (a : ℤ)) ↔ ∃ n < factor, (n : ℤ) = delta := by
  simp [eq_comm]

variable {cell child : NavigationCell}

theorem mem_refinedChildren :
    child ∈ navigation.refinedChildren cell ↔ navigation.coarseParent child = cell := by
  obtain ⟨x, y⟩ := cell
  obtain ⟨cx, cy⟩ := child
  simp only [refinedChildren, coarseParent, List.mem_flatMap, List.mem_map, mem_offsets,
    NavigationCell.mk.injEq, ← exists_child_iff navigation.refinementFactor_ok]
  constructor
  · rintro ⟨_, ⟨dx, hdx, rfl⟩, _, ⟨dy, hdy, rfl⟩, hx, hy⟩
    exact ⟨⟨dx, hdx, hx⟩, dy, hdy, hy⟩
  · rintro ⟨⟨dx, hdx, hx⟩, dy, hdy, hy⟩
    exact ⟨dx, ⟨dx, hdx, rfl⟩, dy, ⟨dy, hdy, rfl⟩, hx, hy⟩

variable (navigation) in
theorem coarseParent_surjective : Function.Surjective navigation.coarseParent := by
  rintro ⟨x, y⟩
  have hne : (navigation.refinementFactor : ℤ) ≠ 0 := by
    have := navigation.refinementFactor_ok
    omega
  refine ⟨⟨x * navigation.refinementFactor, y * navigation.refinementFactor⟩, ?_⟩
  rw [coarseParent, Int.mul_ediv_cancel _ hne, Int.mul_ediv_cancel _ hne]

theorem mem_children {s : Finset NavigationCell} {child : NavigationCell} :
    child ∈ s.biUnion (fun cell => (navigation.refinedChildren cell).toFinset) ↔
      navigation.coarseParent child ∈ s := by
  simp only [Finset.mem_biUnion, List.mem_toFinset, mem_refinedChildren, exists_eq_right']

theorem coarseParent_of_learned (h : child ∈ navigation.learnedChildren cell) :
    navigation.coarseParent child = cell := by
  unfold learnedChildren at h
  dsimp only at h
  split at h
  · exact mem_refinedChildren.1 (List.mem_toFinset.1 h)
  · exact (Finset.mem_filter.1 h).2

theorem exists_learned (cell : NavigationCell) : ∃ child, child ∈ navigation.learnedChildren cell := by
  unfold learnedChildren
  dsimp only
  split
  · obtain ⟨child, hchild⟩ := navigation.coarseParent_surjective cell
    exact ⟨child, List.mem_toFinset.2 (mem_refinedChildren.2 hchild)⟩
  case isFalse h => exact Finset.nonempty_iff_ne_empty.2 h

/-! ## Costs -/

variable {costs : Dict NavigationCell (TraversalCost K)} {cell : NavigationCell}

theorem free_le (cost : TraversalCost K) : free ≤ cost := cost.2

theorem getD_set {c : NavigationCell} {cost : TraversalCost K} :
    (costs.set c cost).getD cell free = if c = cell then cost else costs.getD cell free := by
  unfold Dict.getD
  rw [Dict.get?_set]
  split <;> rfl

theorem getD_foldl_raised (l : List (NavigationCell × TraversalCost K)) :
    (l.foldl raised costs).getD cell free =
      l.foldl (fun a e => if e.1 = cell then max e.2 a else a) (costs.getD cell free) := by
  refine (List.foldl_hom (fun costs => Dict.getD costs cell free) ?_).symm
  intro costs e
  rw [raised, getD_set]
  split
  next h => rw [h]
  · rfl

theorem foldl_cells {α : Type} (g : α → α) (hg : ∀ a, g (g a) = g a) (l : List NavigationCell)
    (a : α) : l.foldl (fun a c => if c = cell then g a else a) a = if cell ∈ l then g a else a := by
  induction l generalizing a with
  | nil => rfl
  | cons c l ih =>
    rw [List.foldl_cons, ih]
    by_cases hc : c = cell
    · simp [hc, hg]
    · simp [hc, Ne.symm hc]

/-- Routing and terrain together cost what the dearer of them costs. -/
theorem getD_combinedCosts : navigation.combinedCosts.getD cell free =
    max (navigation.terrainCosts.getD cell free) (navigation.costs.getD cell free) := by
  refine (getD_foldl_raised _).trans ((foldl_assoc _ navigation.terrainCosts.nodup _).trans ?_)
  unfold Dict.getD Dict.get?
  cases assocGet cell navigation.terrainCosts.items with
  | none => exact (max_eq_right (free_le (K := K) _)).symm
  | some cost => rfl

/-- A search pays the combined cost of the cells that it may enter. -/
theorem traversalCost_localGrid {start goal : NavigationCell} {config : WeightedAStarConfig K}
    (hinside : (navigation.localGrid start goal config).contains cell)
    (hfree : cell ∉ (navigation.localGrid start goal config).blocked) :
    (navigation.localGrid start goal config).traversalCost cell =
      (navigation.combinedCosts.getD cell free).1 := by
  have hget : (Dict.ofList (navigation.localGrid start goal config).costs).get? cell =
      (navigation.combinedCosts.get? cell).map Subtype.val := by
    ext cost
    rw [Dict.get?_eq_some, Dict.items_ofList (NavigationCostGrid.costs_nodup _), Option.map_eq_some_iff]
    simp only [localGrid, List.mem_map, gridCosts, (sortBy_perm _ _).mem_iff, List.mem_filter,
      Prod.mk.injEq, decide_eq_true_eq, Dict.get?_eq_some]
    constructor
    · rintro ⟨⟨_, cost⟩, ⟨hmem, -⟩, rfl, rfl⟩
      exact ⟨cost, hmem, rfl⟩
    · rintro ⟨cost, hmem, rfl⟩
      exact ⟨⟨cell, cost⟩, ⟨hmem, hinside, hfree⟩, rfl, rfl⟩
  unfold NavigationCostGrid.traversalCost Dict.getD
  rw [hget]
  cases navigation.combinedCosts.get? cell <;> rfl

/-! ## The finer map -/

section Finer

variable [IsStrictOrderedRing K]

/-- `refined_navigation_map` without terrain bounds. -/
def finer (navigation : SparseNavigationMap K) : SparseNavigationMap K :=
  let terrain := navigation.terrainBlocked.biUnion
    (fun cell => (navigation.refinedChildren cell).toFinset)
  { navigation.refinedBase with
    terrainBlocked := terrain
    blocked := navigation.refinedBase.blocked ∪ terrain
    terrainCosts := (navigation.terrainCosts.items.flatMap fun e =>
      (navigation.refinedChildren e.1).map fun child => (child, e.2)).foldl raised Dict.empty }

omit [IsStrictOrderedRing K] in
theorem foldl_mark (l : List (NavigationCell × TraversalCost K)) (m : SparseNavigationMap K) :
    (l.map fun e => TerrainMark.cost e.1 e.2).foldl mark m =
      { m with terrainCosts := l.foldl raised m.terrainCosts } := by
  induction l generalizing m with
  | nil => rfl
  | cons e l ih => exact ih _

theorem refinedNavigationMap_none : navigation.refinedNavigationMap none = .ok navigation.finer := by
  have hterrain : navigation.retainedTerrain = (navigation.terrainCosts.items.flatMap fun e =>
      (navigation.refinedChildren e.1).map fun child => (child, e.2)).map
        fun e => TerrainMark.cost e.1 e.2 := by
    rw [List.map_flatMap, retainedTerrain]
    simp only [List.map_map, Function.comp_def]
  unfold refinedNavigationMap
  dsimp only
  rw [hterrain, foldl_mark]
  rfl

theorem mem_structural_finer :
    cell ∈ navigation.finer.structuralBlocked ↔
      navigation.coarseParent cell ∈ navigation.structuralBlocked :=
  mem_children

theorem mem_terrain_finer : cell ∈ navigation.finer.terrainBlocked ↔
    navigation.coarseParent cell ∈ navigation.terrainBlocked :=
  mem_children

theorem mem_learned_finer : cell ∈ navigation.finer.learnedBlocked ↔
    (navigation.coarseParent cell ∈ navigation.learnedBlocked ∧
      navigation.coarseParent cell ∉ navigation.structuralBlocked) ∧
      cell ∈ navigation.learnedChildren (navigation.coarseParent cell) := by
  refine Finset.mem_biUnion.trans ?_
  simp only [Finset.mem_filter]
  constructor
  · rintro ⟨coarse, hcoarse, hcell⟩
    obtain rfl := coarseParent_of_learned hcell
    exact ⟨hcoarse, hcell⟩
  · rintro ⟨hcoarse, hcell⟩
    exact ⟨_, hcoarse, hcell⟩

theorem mem_blocked_finer : cell ∈ navigation.finer.blocked ↔
    (cell ∈ navigation.finer.structuralBlocked ∨ cell ∈ navigation.finer.learnedBlocked) ∨
      cell ∈ navigation.finer.terrainBlocked :=
  Finset.mem_union.trans (or_congr_left Finset.mem_union)

variable (navigation) in
theorem sound_finer : navigation.finer.Sound where
  structural _ h := mem_blocked_finer.2 (Or.inl (Or.inl h))
  learned _ h := mem_blocked_finer.2 (Or.inl (Or.inr h))
  terrain _ h := mem_blocked_finer.2 (Or.inr h)

/-- A finer obstacle lies in a coarse one. -/
theorem Sound.coarseParent_blocked (h : navigation.Sound) (hcell : cell ∈ navigation.finer.blocked) :
    navigation.coarseParent cell ∈ navigation.blocked := by
  rcases mem_blocked_finer.1 hcell with (hcell | hcell) | hcell
  · exact h.structural (mem_structural_finer.1 hcell)
  · exact h.learned (mem_learned_finer.1 hcell).1.1
  · exact h.terrain (mem_terrain_finer.1 hcell)

theorem terrainCosts_finer : navigation.finer.terrainCosts.getD cell free =
    navigation.terrainCosts.getD (navigation.coarseParent cell) free := by
  have hchildren (a : TraversalCost K) (e : NavigationCell × TraversalCost K) :
      ((navigation.refinedChildren e.1).map fun child => (child, e.2)).foldl
        (fun a e => if e.1 = cell then max e.2 a else a) a =
      if e.1 = navigation.coarseParent cell then max e.2 a else a := by
    rw [List.foldl_map]
    exact (foldl_cells (max e.2) (fun _ => max_eq_right (le_max_left _ _)) _ a).trans
      (if_congr (mem_refinedChildren.trans eq_comm) rfl rfl)
  refine (getD_foldl_raised _).trans ?_
  rw [List.foldl_flatMap]
  simp only [hchildren]
  refine (foldl_assoc _ navigation.terrainCosts.nodup _).trans ?_
  unfold Dict.getD Dict.get?
  cases assocGet (navigation.coarseParent cell) navigation.terrainCosts.items with
  | none => rfl
  | some cost => exact max_eq_left (free_le cost)

theorem costs_finer (hfree : cell ∉ navigation.refinedBase.blocked) :
    navigation.finer.costs.getD cell free =
      navigation.costs.getD (navigation.coarseParent cell) free := by
  have hchildren (costs : Dict NavigationCell (TraversalCost K))
      (e : NavigationCell × TraversalCost K) :
      ((navigation.refinedChildren e.1).foldl (fun costs child =>
        if child ∈ navigation.refinedBase.blocked then costs else costs.set child e.2)
          costs).getD cell free =
      if e.1 = navigation.coarseParent cell then e.2 else costs.getD cell free := by
    refine Eq.trans (Eq.symm (List.foldl_hom (fun costs => Dict.getD costs cell free) ?_))
      ((foldl_cells (fun _ => e.2) (fun _ => rfl) _ _).trans
        (if_congr (mem_refinedChildren.trans eq_comm) rfl rfl))
    intro costs child
    by_cases hchild : child ∈ navigation.refinedBase.blocked
    · rw [if_pos hchild, if_neg (fun h : child = cell => hfree (h ▸ hchild))]
    · rw [if_neg hchild, getD_set]
  have hfold : navigation.costs.items.foldl
      (fun a e => if e.1 = navigation.coarseParent cell then e.2 else a)
        (Dict.empty.getD cell free) = navigation.finer.costs.getD cell free :=
    List.foldl_hom (fun costs => Dict.getD costs cell free) fun costs e => (hchildren costs e).symm
  refine hfold.symm.trans ((foldl_assoc (fun cost _ => cost) navigation.costs.nodup _).trans ?_)
  unfold Dict.getD Dict.get?
  cases assocGet (navigation.coarseParent cell) navigation.costs.items <;> rfl

/-- A finer cell that is free costs what its coarse cell costs. -/
theorem combinedCosts_finer (hfree : cell ∉ navigation.finer.blocked) :
    navigation.finer.combinedCosts.getD cell free =
      navigation.combinedCosts.getD (navigation.coarseParent cell) free := by
  rw [getD_combinedCosts, getD_combinedCosts, terrainCosts_finer,
    costs_finer fun h => hfree (Finset.mem_union_left _ h)]

/-! ## Refining again and again -/

/-- `k` refinements without terrain bounds. -/
def refinedTimes : ℕ → SparseNavigationMap K → Except String (SparseNavigationMap K)
  | 0, navigation => .ok navigation
  | k + 1, navigation => navigation.refinedNavigationMap none >>= refinedTimes k

/-- What the map after `k` refinements keeps of the first one, a cell of which contains the fine
cells whose `k`-th parent it is. -/
structure Keeps (k : ℕ) (coarse fine : SparseNavigationMap K) : Prop where
  solid : ∀ cell, coarse.coarseParent^[k] cell ∈ coarse.structuralBlocked ∪ coarse.terrainBlocked →
    cell ∈ fine.blocked
  learned : ∀ cell ∈ coarse.learnedBlocked,
    ∃ child ∈ fine.blocked, coarse.coarseParent^[k] child = cell
  blocked : ∀ cell ∈ fine.blocked, coarse.coarseParent^[k] cell ∈ coarse.blocked
  cost : ∀ start goal config cell, (fine.localGrid start goal config).contains cell →
    cell ∉ (fine.localGrid start goal config).blocked →
    coarse.coarseParent^[k] cell ∉ coarse.blocked →
    (fine.localGrid start goal config).traversalCost cell =
      (coarse.combinedCosts.getD (coarse.coarseParent^[k] cell) free).1

omit [IsStrictOrderedRing K] in
theorem Sound.keeps_zero (h : navigation.Sound) : Keeps 0 navigation navigation where
  solid _ hcell := Finset.union_subset h.structural h.terrain hcell
  learned cell hcell := ⟨cell, h.learned hcell, rfl⟩
  blocked _ hcell := hcell
  cost _ _ _ _ hinside hfree _ := traversalCost_localGrid hinside hfree

/-- One more refinement in front. -/
theorem Keeps.succ {k : ℕ} {fine : SparseNavigationMap K} (hsound : navigation.Sound)
    (h : Keeps k navigation.finer fine) : Keeps (k + 1) navigation fine where
  solid cell hcell := by
    refine h.solid cell (Finset.mem_union.2 ?_)
    rw [Function.iterate_succ_apply', Finset.mem_union] at hcell
    exact hcell.imp mem_structural_finer.2 mem_terrain_finer.2
  learned cell hcell := by
    by_cases hstructural : cell ∈ navigation.structuralBlocked
    · obtain ⟨child, hchild⟩ := navigation.coarseParent_surjective.iterate (k + 1) cell
      refine ⟨child, h.solid child (Finset.mem_union_left _ (mem_structural_finer.2 ?_)), hchild⟩
      rw [Function.iterate_succ_apply'] at hchild
      exact hchild.symm ▸ hstructural
    · obtain ⟨child, hchild⟩ := navigation.exists_learned cell
      obtain rfl := coarseParent_of_learned hchild
      obtain ⟨fineCell, hblocked, rfl⟩ :=
        h.learned child (mem_learned_finer.2 ⟨⟨hcell, hstructural⟩, hchild⟩)
      exact ⟨fineCell, hblocked, Function.iterate_succ_apply' _ _ _⟩
  blocked cell hcell := by
    rw [Function.iterate_succ_apply']
    exact hsound.coarseParent_blocked (h.blocked cell hcell)
  cost start goal config cell hinside hfree hcoarse := by
    rw [Function.iterate_succ_apply'] at hcoarse ⊢
    have hfiner : navigation.coarseParent^[k] cell ∉ navigation.finer.blocked :=
      fun hblocked => hcoarse (hsound.coarseParent_blocked hblocked)
    rw [h.cost start goal config cell hinside hfree hfiner]
    exact congrArg Subtype.val (combinedCosts_finer hfiner)

theorem Sound.exists_keeps (h : navigation.Sound) (k : ℕ) :
    ∃ fine, navigation.refinedTimes k = .ok fine ∧ Keeps k navigation fine := by
  induction k generalizing navigation with
  | zero => exact ⟨navigation, rfl, h.keeps_zero⟩
  | succ k ih =>
    obtain ⟨fine, hfine, hkeeps⟩ := ih navigation.sound_finer
    refine ⟨fine, ?_, hkeeps.succ h⟩
    rw [refinedTimes, refinedNavigationMap_none]
    exact hfine

/-- **Refining a marked map as often as one likes invents no gap, no wall and no cost.** -/
theorem refinement_faithful (h : Marked navigation) {k : ℕ} {fine : SparseNavigationMap K}
    (hfine : navigation.refinedTimes k = .ok fine) : Keeps k navigation fine := by
  obtain ⟨fine', hfine', hkeeps⟩ := h.sound.exists_keeps k
  cases hfine.symm.trans hfine'
  exact hkeeps

end Finer

theorem unit_pos : (0 : ℚ) < 1 := one_pos

/-- A structural obstacle, and a learned one to its west. -/
def corner : SparseNavigationMap ℚ :=
  (markBlocked { cellSize := 1, cellSize_pos := unit_pos, refinementFactor_ok := defaultFactor_ok }
    ⟨0, 0⟩).markLearnedBlocked ⟨-1, 0⟩

/-- The two obstacles after two refinements. -/
theorem refinement_faithful_corner :
    ∃ fine, corner.refinedTimes 2 = .ok fine ∧ Keeps 2 corner fine :=
  ⟨_, rfl, refinement_faithful (.learned _ (.blocked _ (.new 1 2 unit_pos defaultFactor_ok))) rfl⟩

end ShadowbaneLab.SparseNavigationMap
