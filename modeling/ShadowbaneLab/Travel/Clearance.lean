/-
# Planned routes stay clear of obstacles

The smoothed cells of a route are some of the cells of the searched path, with its first and
last one, and every closed cell that the segment between two consecutive centres meets is
clear of obstacles (`route_clear`).  A line is tested by a thin walk; the walk with the corners
of its diagonal steps covers the segment (`Clears.covers`).
-/
import Mathlib.Tactic.LinearCombination
import ShadowbaneLab.Travel.AStar
import ShadowbaneLab.Travel.Planning

namespace ShadowbaneLab

open Foundation

/-! ## The walk along a line -/

/-- The walk of a line test from an offset, with `free` cells all along and at the corners of
its diagonal steps; `dx` and `dy` are the lengths of the line in the two coordinates. -/
def Clears (free : ℤ → ℤ → Prop) (dx dy : ℤ) : ℕ → ℤ → ℤ → Prop
  | 0, _, _ => False
  | fuel + 1, i, j => free i j ∧ (¬(i = dx ∧ j = dy) →
      let i' := if (2 * i + 1) * dy < 2 * (j + 1) * dx then i + 1 else i
      let j' := if (2 * j + 1) * dx < 2 * (i + 1) * dy then j + 1 else j
      (i' ≠ i → j' ≠ j → free i' j ∧ free i j') ∧ Clears free dx dy fuel i' j')

/-- A segment from the centre of the first cell meets, at most, the cells at these offsets. -/
structure Met (dx dy c r : ℤ) : Prop where
  column : 0 ≤ c ∧ c ≤ dx
  row : 0 ≤ r ∧ r ≤ dy
  above : (2 * r - 1) * dx ≤ (2 * c + 1) * dy
  below : (2 * c - 1) * dy ≤ (2 * r + 1) * dx

variable {fuel : ℕ} {c r : ℤ}

section Walk

variable {free : ℤ → ℤ → Prop} {dx dy : ℤ}

theorem Clears.swap {i j : ℤ} (h : Clears free dx dy fuel i j) :
    Clears (fun c r => free r c) dy dx fuel j i := by
  induction fuel generalizing i j with
  | zero => exact h
  | succ fuel ih =>
    obtain ⟨hfree, hnext⟩ := h
    refine ⟨hfree, fun hend => ?_⟩
    obtain ⟨hcorners, hrest⟩ := hnext (fun h => hend ⟨h.2, h.1⟩)
    exact ⟨fun hj hi => (hcorners hi hj).symm, ih hrest⟩

theorem Met.swap (h : Met dx dy c r) : Met dy dx r c :=
  ⟨h.row, h.column, h.below, h.above⟩

/-- The cell of the walk in a column is the nearest one to the line, the lower one of two. -/
structure Near (dx dy i j : ℤ) : Prop where
  column : 0 ≤ i ∧ i ≤ dx
  row : 0 ≤ j
  below : (2 * j - 1) * dx < 2 * i * dy
  above : 2 * i * dy ≤ (2 * j + 1) * dx

section Flat

variable {i j c r : ℤ}

/-- In the last column the walk is at the end of the line. -/
theorem Near.last (near : Near dx dy i j) (hpos : 0 < dx) (hi : i = dx) : j = dy := by
  have hbelow := near.below
  have habove := near.above
  rw [hi] at hbelow habove
  have h₁ : 2 * j - 1 < 2 * dy := by
    apply lt_of_mul_lt_mul_right _ hpos.le
    linarith
  have h₂ : 2 * dy ≤ 2 * j + 1 := by
    apply le_of_mul_le_mul_right _ hpos
    linarith
  omega

/-- A flat line moves on to the next column. -/
theorem Near.crosses (near : Near dx dy i j) (hpos : 0 < dx) (hflat : dy ≤ dx) :
    (2 * i + 1) * dy < 2 * (j + 1) * dx := by
  have habove := near.above
  rcases hflat.lt_or_eq with hlt | rfl
  · linarith
  · have hle : 2 * i ≤ 2 * j + 1 := by
      apply le_of_mul_le_mul_right _ hpos
      linarith
    apply mul_lt_mul_of_pos_right _ hpos
    omega

/-- In the column of the walk, the segment meets its cell, or the one above before a diagonal
step. -/
theorem Near.here (near : Near dx dy i j) (hpos : 0 < dx) (hflat : dy ≤ dx)
    (met : Met dx dy i r) (hr : j ≤ r) :
    r = j ∨ r = j + 1 ∧ (2 * j + 1) * dx < 2 * (i + 1) * dy := by
  have habove := near.above
  have hmet := met.above
  have hrow := near.row
  rcases (by omega : r = j ∨ r = j + 1 ∨ j + 2 ≤ r) with rfl | rfl | hfar
  · exact .inl rfl
  · refine .inr ⟨rfl, ?_⟩
    have hdy : 0 < dy := by
      by_contra hnot
      have hcolumn := near.column.1
      have hproduct : (2 * i + 1) * dy ≤ 0 := mul_nonpos_of_nonneg_of_nonpos (by omega) (by omega)
      have hpositive : 0 < (2 * (j + 1) - 1) * dx := mul_pos (by omega) hpos
      omega
    linarith
  · have hproduct : (2 * (j + 2) - 1) * dx ≤ (2 * r - 1) * dx :=
      mul_le_mul_of_nonneg_right (by omega) hpos.le
    linarith

/-- In the next column, the segment meets no cell below the walk, except the one beside a
diagonal step. -/
theorem Near.beside (near : Near dx dy i j) (hpos : 0 < dx) (hdy : 0 ≤ dy)
    (met : Met dx dy (i + 1) r) : j ≤ r := by
  have hbelow := near.below
  have hmet := met.below
  by_contra hnot
  have hproduct : (2 * r + 1) * dx ≤ (2 * j - 1) * dx :=
    mul_le_mul_of_nonneg_right (by omega) hpos.le
  linarith

theorem Near.up (near : Near dx dy i j) (hflat : dy ≤ dx) (hi : i < dx)
    (hup : (2 * j + 1) * dx < 2 * (i + 1) * dy) : Near dx dy (i + 1) (j + 1) where
  column := by
    have := near.column
    omega
  row := by
    have := near.row
    omega
  below := by linarith
  above := by
    have := near.above
    linarith

theorem Near.along (near : Near dx dy i j) (hdy : 0 ≤ dy) (hi : i < dx)
    (halong : 2 * (i + 1) * dy ≤ (2 * j + 1) * dx) : Near dx dy (i + 1) j where
  column := by
    have := near.column
    omega
  row := near.row
  below := by
    have := near.below
    linarith
  above := halong

/-- **The walk covers a flat segment**, from each of its columns on. -/
theorem Clears.flat (hpos : 0 < dx) (hflat : dy ≤ dx) (hdy : 0 ≤ dy)
    (h : Clears free dx dy fuel i j) (near : Near dx dy i j) (met : Met dx dy c r) (hc : i ≤ c)
    (hr : c = i → j ≤ r) : free c r := by
  induction fuel generalizing i j with
  | zero => exact h.elim
  | succ fuel ih =>
    obtain ⟨hfree, hnext⟩ := h
    by_cases hlast : i = dx
    · have hj := near.last hpos hlast
      have hcolumn := met.column.2
      have hrow := met.row.2
      obtain rfl : c = i := by omega
      obtain rfl : r = j := by
        have := hr rfl
        omega
      exact hfree
    · have hi : i < dx := lt_of_le_of_ne near.column.2 hlast
      obtain ⟨hcorners, hrest⟩ := hnext (fun hend => hlast hend.1)
      rw [if_pos (near.crosses hpos hflat)] at hcorners hrest
      by_cases hup : (2 * j + 1) * dx < 2 * (i + 1) * dy
      · rw [if_pos hup] at hcorners hrest
        obtain ⟨hright, habove⟩ := hcorners (by omega) (by omega)
        rcases (by omega : c = i ∨ c = i + 1 ∨ i + 1 < c) with rfl | rfl | hfar
        · rcases near.here hpos hflat met (hr rfl) with rfl | ⟨rfl, _⟩
          · exact hfree
          · exact habove
        · have hbeside := near.beside hpos hdy met
          rcases hbeside.eq_or_lt with rfl | hlt
          · exact hright
          · exact ih hrest (near.up hflat hi hup) le_rfl (fun _ => hlt)
        · exact ih hrest (near.up hflat hi hup) hfar.le (fun heq => by omega)
      · rw [if_neg hup] at hcorners hrest
        have halong := near.along hdy hi (not_lt.mp hup)
        rcases (by omega : c = i ∨ c = i + 1 ∨ i + 1 < c) with rfl | rfl | hfar
        · rcases near.here hpos hflat met (hr rfl) with rfl | ⟨rfl, hnot⟩
          · exact hfree
          · exact absurd hnot hup
        · exact ih hrest halong le_rfl (fun _ => near.beside hpos hdy met)
        · exact ih hrest halong hfar.le (fun heq => by omega)

end Flat

/-- **The walk covers the segment.** -/
theorem Clears.covers (hdx : 0 ≤ dx) (hdy : 0 ≤ dy) (h : Clears free dx dy fuel 0 0)
    (met : Met dx dy c r) : free c r := by
  have hstart {m : ℤ} (n : ℤ) (hm : 0 < m) : Near m n 0 0 :=
    ⟨⟨le_rfl, hm.le⟩, le_rfl, by linarith, by linarith⟩
  rcases le_total dy dx with hflat | hsteep
  · rcases hdx.eq_or_lt with rfl | hpos
    · cases fuel with
      | zero => exact h.elim
      | succ fuel =>
        have hcolumn := met.column
        have hrow := met.row
        obtain rfl : c = 0 := by omega
        obtain rfl : r = 0 := by omega
        exact h.1
    · exact h.flat hpos hflat hdy (hstart dy hpos) met met.column.1 (fun _ => met.row.1)
  · rcases hdy.eq_or_lt with rfl | hpos
    · cases fuel with
      | zero => exact h.elim
      | succ fuel =>
        have hcolumn := met.column
        have hrow := met.row
        obtain rfl : c = 0 := by omega
        obtain rfl : r = 0 := by omega
        exact h.1
    · have hswapped := h.swap.flat hpos hsteep hdx (hstart dx hpos) met.swap met.row.1
        (fun _ => met.column.1)
      exact hswapped

end Walk

/-! ## The line test -/

variable {start endpoint : NavigationCell}

section Line

variable {K : Type} [Field K] [LinearOrder K] {diagonal : Diagonal K}
  {grid : NavigationCostGrid K}

/-- The cell at some offset, in given directions. -/
def offsetCell (start : NavigationCell) (stepX stepY i j : ℤ) : NavigationCell :=
  ⟨start.x + i * stepX, start.y + j * stepY⟩

/-- The direction of a line test in one coordinate. -/
def lineStep (start endpoint : ℤ) : ℤ := if start < endpoint then 1 else -1

theorem lineStep_ne (start endpoint : ℤ) : lineStep start endpoint ≠ 0 := by
  unfold lineStep
  split <;> decide

/-- A line test ends where it should. -/
theorem add_abs_mul_lineStep (start endpoint : ℤ) :
    start + |endpoint - start| * lineStep start endpoint = endpoint := by
  unfold lineStep
  split
  next hlt => rw [abs_of_pos (by omega)]; omega
  next hle => rw [abs_of_nonpos (by omega)]; omega

/-- A line that costs something has been walked. -/
theorem lineLoop_clears {dx dy stepX stepY : ℤ} (hx : stepX ≠ 0) (hy : stepY ≠ 0)
    (hendpoint : endpoint = offsetCell start stepX stepY dx dy) {i j : ℤ} {spent cost : K}
    (h : lineLoop diagonal grid endpoint dx dy stepX stepY fuel (start.x + i * stepX)
      (start.y + j * stepY) ((j + 1) * dx - (i + 1) * dy) spent = some cost) :
    Clears (fun i j => offsetCell start stepX stepY i j ∉ grid.blocked) dx dy fuel i j := by
  induction fuel generalizing i j spent with
  | zero => cases h
  | succ fuel ih =>
    unfold lineLoop at h
    split at h
    · cases h
    next hfree =>
      refine ⟨hfree, fun hend => ?_⟩
      have hnot : ¬(start.x + i * stepX = endpoint.x ∧ start.y + j * stepY = endpoint.y) := by
        rintro ⟨hi, hj⟩
        rw [hendpoint] at hi hj
        exact hend ⟨mul_right_cancel₀ hx (add_left_cancel hi), mul_right_cancel₀ hy (add_left_cancel hj)⟩
      rw [if_neg hnot] at h
      have hcrossX : -dy < 2 * ((j + 1) * dx - (i + 1) * dy) ↔
          (2 * i + 1) * dy < 2 * (j + 1) * dx := by
        constructor <;> intro <;> linarith
      have hcrossY : 2 * ((j + 1) * dx - (i + 1) * dy) < dx ↔
          (2 * j + 1) * dx < 2 * (i + 1) * dy := by
        constructor <;> intro <;> linarith
      simp only [hcrossX, hcrossY, decide_eq_true_eq] at h
      have hi' : (if (2 * i + 1) * dy < 2 * (j + 1) * dx then start.x + i * stepX + stepX
          else start.x + i * stepX) =
            start.x + (if (2 * i + 1) * dy < 2 * (j + 1) * dx then i + 1 else i) * stepX := by
        split <;> ring
      have hj' : (if (2 * j + 1) * dx < 2 * (i + 1) * dy then start.y + j * stepY + stepY
          else start.y + j * stepY) =
            start.y + (if (2 * j + 1) * dx < 2 * (i + 1) * dy then j + 1 else j) * stepY := by
        split <;> ring
      have herror : ((if (2 * i + 1) * dy < 2 * (j + 1) * dx then (j + 1) * dx - (i + 1) * dy - dy
            else (j + 1) * dx - (i + 1) * dy) +
          if (2 * j + 1) * dx < 2 * (i + 1) * dy then dx else 0) =
            ((if (2 * j + 1) * dx < 2 * (i + 1) * dy then j + 1 else j) + 1) * dx -
              ((if (2 * i + 1) * dy < 2 * (j + 1) * dx then i + 1 else i) + 1) * dy := by
        split <;> split <;> ring
      rw [hi', hj', herror] at h
      dsimp only
      generalize (if (2 * i + 1) * dy < 2 * (j + 1) * dx then i + 1 else i) = i' at h ⊢
      generalize (if (2 * j + 1) * dx < 2 * (i + 1) * dy then j + 1 else j) = j' at h ⊢
      split at h
      · cases h
      next hcorners =>
        refine ⟨fun hi hj => ?_, ih h⟩
        have hmovesX : start.x + i' * stepX ≠ start.x + i * stepX :=
          fun heq => hi (mul_right_cancel₀ hx (add_left_cancel heq))
        have hmovesY : start.y + j' * stepY ≠ start.y + j * stepY :=
          fun heq => hj (mul_right_cancel₀ hy (add_left_cancel heq))
        exact not_or.mp (fun hblocked => hcorners ⟨hmovesX, hmovesY, hblocked⟩)

theorem lineCost_clears {cost : K} (h : lineCost diagonal grid start endpoint = some cost) :
    Clears (fun i j => offsetCell start (lineStep start.x endpoint.x) (lineStep start.y endpoint.y)
        i j ∉ grid.blocked) |endpoint.x - start.x| |endpoint.y - start.y|
      (|endpoint.x - start.x|.natAbs + |endpoint.y - start.y|.natAbs + 1) 0 0 := by
  have hendpoint : endpoint = offsetCell start (lineStep start.x endpoint.x)
      (lineStep start.y endpoint.y) |endpoint.x - start.x| |endpoint.y - start.y| := by
    unfold offsetCell
    rw [add_abs_mul_lineStep, add_abs_mul_lineStep]
  have hloop : lineLoop diagonal grid endpoint |endpoint.x - start.x| |endpoint.y - start.y|
      (lineStep start.x endpoint.x) (lineStep start.y endpoint.y)
      (|endpoint.x - start.x|.natAbs + |endpoint.y - start.y|.natAbs + 1)
      (start.x + 0 * lineStep start.x endpoint.x) (start.y + 0 * lineStep start.y endpoint.y)
      ((0 + 1) * |endpoint.x - start.x| - (0 + 1) * |endpoint.y - start.y|) 0 = some cost := by
    simpa [lineCost, lineStep] using h
  exact lineLoop_clears (lineStep_ne _ _) (lineStep_ne _ _) hendpoint hloop

end Line

/-! ## Smoothing -/

variable {cells : List NavigationCell}

section Smoothing

variable {K : Type} [Field K] [LinearOrder K] {diagonal : Diagonal K}
  {grid : NavigationCostGrid K}

/-- Two consecutive cells of a smoothed path: one legal step, or the ends of a tested line. -/
def Linked (diagonal : Diagonal K) (grid : NavigationCostGrid K) (cell next : NavigationCell) :
    Prop :=
  Step grid cell next ∨ ∃ cost, lineCost diagonal grid cell next = some cost

theorem shortcut_linked (h : shortcutPreservesCost diagonal grid cells = true)
    {first last : NavigationCell} (hfirst : cells.head? = some first)
    (hlast : cells.getLast? = some last) : Linked diagonal grid first last := by
  unfold shortcutPreservesCost at h
  rw [hfirst, hlast] at h
  dsimp only at h
  split at h
  · cases h
  next cost hcost => exact .inr ⟨cost, hcost⟩

/-- The farthest cell is the next one, or the end of a shortcut. -/
theorem farthest_cases (diagonal : Diagonal K) (grid : NavigationCostGrid K)
    (cells : List NavigationCell) (candidate : ℕ) :
    farthest diagonal grid cells candidate = 1 ∨ (1 ≤ farthest diagonal grid cells candidate ∧
        farthest diagonal grid cells candidate ≤ candidate) ∧ shortcutPreservesCost diagonal grid
        (cells.take (farthest diagonal grid cells candidate + 1)) = true := by
  induction candidate using farthest.induct diagonal grid cells with
  | case1 => exact .inl rfl
  | case2 => exact .inl rfl
  | case3 candidate h =>
    rw [farthest, if_pos h]
    exact .inr ⟨by omega, h⟩
  | case4 candidate h ih =>
    rw [farthest, if_neg h]
    rcases ih with ih | ih
    · exact .inl ih
    · exact .inr ⟨by omega, ih.2⟩

/-- What smoothing keeps of a legal path. -/
structure Smoothed (diagonal : Diagonal K) (grid : NavigationCostGrid K)
    (cells smoothed : List NavigationCell) : Prop where
  sublist : smoothed.Sublist cells
  head : smoothed.head? = cells.head?
  last : smoothed.getLast? = cells.getLast?
  linked : smoothed.IsChain (Linked diagonal grid)

theorem smoothLoop_smoothed {anchor : NavigationCell} {rest : List NavigationCell}
    (hsteps : (anchor :: rest).IsChain (Step grid)) (hfuel : rest.length < fuel) :
    Smoothed diagonal grid (anchor :: rest)
      (anchor :: smoothLoop diagonal grid fuel (anchor :: rest)) := by
  induction fuel generalizing anchor rest with
  | zero => omega
  | succ fuel ih =>
    unfold smoothLoop
    split
    next hshort =>
      obtain rfl : rest = [] := List.length_eq_zero_iff.mp (by simpa using hshort)
      exact ⟨.refl _, rfl, rfl, .singleton _⟩
    next hlong =>
      have hlength : 1 ≤ rest.length := by
        simp only [List.length_cons] at hlong
        omega
      have hcases := farthest_cases diagonal grid (anchor :: rest) rest.length
      dsimp only
      rw [List.length_cons, Nat.add_sub_cancel]
      generalize farthest diagonal grid (anchor :: rest) rest.length = k at hcases ⊢
      have hk : 1 ≤ k ∧ k ≤ rest.length := by omega
      obtain ⟨next, later, hdrop⟩ : ∃ next later, (anchor :: rest).drop k = next :: later := by
        apply List.exists_cons_of_length_pos
        rw [List.length_drop, List.length_cons]
        omega
      have hnext : (anchor :: rest)[k]? = some next := by
        rw [← List.head?_drop, hdrop, List.head?_cons]
      have hlinked : Linked diagonal grid anchor next := by
        rcases hcases with rfl | ⟨_, hpreserves⟩
        · apply Or.inl
          rw [List.getElem?_cons_succ, ← List.head?_eq_getElem?] at hnext
          exact (List.isChain_cons.mp hsteps).1 next hnext
        · apply shortcut_linked hpreserves rfl
          rw [List.getLast?_take, if_neg (Nat.succ_ne_zero k), Nat.add_sub_cancel, hnext]
          rfl
      have hlater : (next :: later).IsChain (Step grid) := hdrop ▸ hsteps.drop k
      have hshorter : later.length < fuel := by
        have hlengths := congrArg List.length hdrop
        rw [List.length_drop, List.length_cons, List.length_cons] at hlengths
        omega
      have hrest := ih hlater hshorter
      rw [hdrop]
      exact
        { sublist := by
            apply List.Sublist.cons_cons
            apply hrest.sublist.trans
            rw [← hdrop, show k = (k - 1) + 1 by omega, List.drop_succ_cons]
            exact List.drop_sublist _ _
          head := rfl
          last := by
            have hlast := congrArg List.getLast? hdrop
            rw [List.getLast?_drop, List.length_cons, if_neg (by omega)] at hlast
            exact List.getLast?_cons_cons.trans (hrest.last.trans hlast.symm)
          linked := List.isChain_cons.mpr ⟨fun cell hcell => by
            cases hcell
            exact hlinked, hrest.linked⟩ }

theorem smooth_smoothed (hsteps : cells.IsChain (Step grid)) :
    Smoothed diagonal grid cells (smooth diagonal grid cells) := by
  unfold smooth
  split
  · exact ⟨.refl _, rfl, rfl, hsteps.imp (fun _ _ h => .inl h)⟩
  next hlong =>
    cases cells with
    | nil => exact absurd (Nat.zero_le 2) hlong
    | cons anchor rest => exact smoothLoop_smoothed hsteps (by simp)

end Smoothing

/-! ## Segments and cells -/

section Geometry

variable {K : Type} [Field K] [LinearOrder K]

/-- A point of a closed cell of the world. -/
structure InCell (cellSize : K) (cell : NavigationCell) (point : PlanarVector K) : Prop where
  x : (cell.x : K) * cellSize ≤ point.x ∧ point.x ≤ ((cell.x : K) + 1) * cellSize
  y : (cell.y : K) * cellSize ≤ point.y ∧ point.y ≤ ((cell.y : K) + 1) * cellSize

/-- A closed cell that meets the straight segment between two points. -/
def Meets (cellSize : K) (first last : PlanarVector K) (cell : NavigationCell) : Prop :=
  ∃ time : K, 0 ≤ time ∧ time ≤ 1 ∧ InCell cellSize cell
    ⟨first.x + time * (last.x - first.x), first.y + time * (last.y - first.y)⟩

variable [IsStrictOrderedRing K]

/-- In one coordinate, a cell met by a segment between centres is at a whole offset from the
first one, half a cell from the segment at most. -/
theorem offset_of_met {cellSize time : K} (hsize : 0 < cellSize) {start endpoint cell : ℤ}
    (h : (cell : K) * cellSize ≤ ((start : K) + 1 / 2) * cellSize +
        time * (((endpoint : K) + 1 / 2) * cellSize - ((start : K) + 1 / 2) * cellSize) ∧
      ((start : K) + 1 / 2) * cellSize +
        time * (((endpoint : K) + 1 / 2) * cellSize - ((start : K) + 1 / 2) * cellSize) ≤
          ((cell : K) + 1) * cellSize) :
    ∃ c : ℤ, cell = start + c * lineStep start endpoint ∧
      2 * (c : K) - 1 ≤ 2 * time * (|endpoint - start| : ℤ) ∧
        2 * time * (|endpoint - start| : ℤ) ≤ 2 * (c : K) + 1 := by
  have hlow : (cell : K) ≤ (start : K) + 1 / 2 + time * ((endpoint : K) - start) := by
    apply le_of_mul_le_mul_right _ hsize
    linarith [h.1]
  have hhigh : (start : K) + 1 / 2 + time * ((endpoint : K) - start) ≤ (cell : K) + 1 := by
    apply le_of_mul_le_mul_right _ hsize
    linarith [h.2]
  unfold lineStep
  split
  next hlt =>
    refine ⟨cell - start, by ring, ?_⟩
    rw [abs_of_pos (by omega)]
    push_cast
    constructor <;> linarith
  next hle =>
    refine ⟨start - cell, by ring, ?_⟩
    rw [abs_of_nonpos (by omega)]
    push_cast
    constructor <;> linarith

/-- Half a cell from a multiple of the time, an offset is within the line. -/
theorem offset_mem {time : K} (hzero : 0 ≤ time) (hone : time ≤ 1) {d c : ℤ} (hd : 0 ≤ d)
    (hlow : 2 * (c : K) - 1 ≤ 2 * time * d) (hhigh : 2 * time * d ≤ 2 * (c : K) + 1) :
    0 ≤ c ∧ c ≤ d := by
  have hdK : (0 : K) ≤ d := by exact_mod_cast hd
  have htime : time * d ≤ d := mul_le_of_le_one_left hdK hone
  have hpositive : 0 ≤ time * d := mul_nonneg hzero hdK
  constructor
  · by_contra hnot
    have hc : (c : K) ≤ -1 := by exact_mod_cast (by omega : c ≤ -1)
    linarith
  · by_contra hnot
    have hc : (d : K) + 1 ≤ c := by exact_mod_cast (by omega : d + 1 ≤ c)
    linarith

theorem met_of_time {time : K} (hzero : 0 ≤ time) (hone : time ≤ 1) {dx dy c r : ℤ}
    (hdx : 0 ≤ dx) (hdy : 0 ≤ dy) (hclow : 2 * (c : K) - 1 ≤ 2 * time * dx)
    (hchigh : 2 * time * dx ≤ 2 * (c : K) + 1) (hrlow : 2 * (r : K) - 1 ≤ 2 * time * dy)
    (hrhigh : 2 * time * dy ≤ 2 * (r : K) + 1) : Met dx dy c r := by
  have hdxK : (0 : K) ≤ dx := by exact_mod_cast hdx
  have hdyK : (0 : K) ≤ dy := by exact_mod_cast hdy
  refine ⟨offset_mem hzero hone hdx hclow hchigh, offset_mem hzero hone hdy hrlow hrhigh, ?_, ?_⟩
  · have h : (2 * (r : K) - 1) * dx ≤ (2 * (c : K) + 1) * dy :=
      calc (2 * (r : K) - 1) * dx
          ≤ 2 * time * dy * dx := mul_le_mul_of_nonneg_right hrlow hdxK
        _ = 2 * time * dx * dy := by ring
        _ ≤ (2 * (c : K) + 1) * dy := mul_le_mul_of_nonneg_right hchigh hdyK
    exact_mod_cast h
  · have h : (2 * (c : K) - 1) * dy ≤ (2 * (r : K) + 1) * dx :=
      calc (2 * (c : K) - 1) * dy
          ≤ 2 * time * dx * dy := mul_le_mul_of_nonneg_right hclow hdyK
        _ = 2 * time * dy * dx := by ring
        _ ≤ (2 * (r : K) + 1) * dx := mul_le_mul_of_nonneg_right hrhigh hdxK
    exact_mod_cast h

/-- The cells met by a segment between two centres. -/
theorem Meets.met {cellSize : K} (hsize : 0 < cellSize) {start endpoint cell : NavigationCell}
    (h : Meets cellSize ⟨((start.x : K) + 1 / 2) * cellSize, ((start.y : K) + 1 / 2) * cellSize⟩
      ⟨((endpoint.x : K) + 1 / 2) * cellSize, ((endpoint.y : K) + 1 / 2) * cellSize⟩ cell) :
    ∃ c r, cell = offsetCell start (lineStep start.x endpoint.x) (lineStep start.y endpoint.y) c r ∧
      Met |endpoint.x - start.x| |endpoint.y - start.y| c r := by
  obtain ⟨time, hzero, hone, hx, hy⟩ := h
  obtain ⟨c, hc, hclow, hchigh⟩ := offset_of_met hsize hx
  obtain ⟨r, hr, hrlow, hrhigh⟩ := offset_of_met hsize hy
  refine ⟨c, r, ?_, ?_⟩
  · cases cell
    exact congrArg₂ NavigationCell.mk hc hr
  exact met_of_time hzero hone (abs_nonneg _) (abs_nonneg _) hclow hchigh hrlow hrhigh

variable {diagonal : Diagonal K} {grid : NavigationCostGrid K}

omit [IsStrictOrderedRing K] in
/-- A cell at an offset within a line between two cells is inside the grid with them. -/
theorem contains_offset (hstart : grid.contains start) (hendpoint : grid.contains endpoint)
    (met : Met |endpoint.x - start.x| |endpoint.y - start.y| c r) :
    grid.contains (offsetCell start (lineStep start.x endpoint.x) (lineStep start.y endpoint.y)
      c r) := by
  have hbetween (first last offset : ℤ) (h : 0 ≤ offset ∧ offset ≤ |last - first|) :
      min first last ≤ first + offset * lineStep first last ∧
        first + offset * lineStep first last ≤ max first last := by
    unfold lineStep
    split
    next hlt =>
      rw [abs_of_pos (by omega)] at h
      omega
    next hle =>
      rw [abs_of_nonpos (by omega)] at h
      omega
  have hx := hbetween start.x endpoint.x c met.column
  have hy := hbetween start.y endpoint.y r met.row
  obtain ⟨hstartX, hstartY⟩ := hstart
  obtain ⟨hendX, hendY⟩ := hendpoint
  exact ⟨⟨by show _ ≤ _ + _; omega, by show _ + _ ≤ _; omega⟩,
    ⟨by show _ ≤ _ + _; omega, by show _ + _ ≤ _; omega⟩⟩

omit [IsStrictOrderedRing K] in
/-- The corners of a legal step are free. -/
theorem Step.corners_free (h : Step grid start endpoint) (hfree : start ∉ grid.blocked) :
    (⟨endpoint.x, start.y⟩ : NavigationCell) ∉ grid.blocked ∧
      (⟨start.x, endpoint.y⟩ : NavigationCell) ∉ grid.blocked := by
  by_cases hdiagonal : isDiagonal start endpoint = true
  · exact h.corners hdiagonal
  · have hsame : start.x = endpoint.x ∨ start.y = endpoint.y := by
      by_contra hnot
      rw [not_or] at hnot
      exact hdiagonal (by simp [isDiagonal, hnot.1, hnot.2])
    rcases hsame with hx | hy
    · exact ⟨hx ▸ hfree, hx ▸ h.free⟩
    · exact ⟨hy ▸ h.free, hy ▸ hfree⟩

omit [IsStrictOrderedRing K] in
/-- A legal step meets free cells only. -/
theorem Step.free_of_met (h : Step grid start endpoint) (hfree : start ∉ grid.blocked)
    (met : Met |endpoint.x - start.x| |endpoint.y - start.y| c r) :
    offsetCell start (lineStep start.x endpoint.x) (lineStep start.y endpoint.y) c r ∉
      grid.blocked := by
  have hends (first last offset : ℤ) (hnear : |last - first| ≤ 1)
      (h : 0 ≤ offset ∧ offset ≤ |last - first|) :
      first + offset * lineStep first last = first ∨
        first + offset * lineStep first last = last := by
    rcases (by omega : offset = 0 ∨ offset = |last - first|) with rfl | rfl
    · exact .inl (by ring)
    · exact .inr (add_abs_mul_lineStep first last)
  obtain ⟨hright, habove⟩ := h.corners_free hfree
  unfold offsetCell
  rcases hends start.x endpoint.x c h.near.1 met.column with hx | hx <;>
    rcases hends start.y endpoint.y r h.near.2 met.row with hy | hy <;> rw [hx, hy]
  · exact hfree
  · exact habove
  · exact hright
  · exact h.free

omit [IsStrictOrderedRing K] in
/-- **Every cell that a link meets is free.** -/
theorem Linked.free_of_met (h : Linked diagonal grid start endpoint) (hfree : start ∉ grid.blocked)
    (met : Met |endpoint.x - start.x| |endpoint.y - start.y| c r) :
    offsetCell start (lineStep start.x endpoint.x) (lineStep start.y endpoint.y) c r ∉
      grid.blocked := by
  rcases h with hstep | ⟨cost, hcost⟩
  · exact hstep.free_of_met hfree met
  · exact (lineCost_clears hcost).covers (abs_nonneg _) (abs_nonneg _) met

end Geometry

/-! ## The cells of a local grid -/

section LocalGrid

variable {K : Type} [Field K] [LinearOrder K] {navigation : SparseNavigationMap K}
  {config : WeightedAStarConfig K} {start goal cell : NavigationCell}

/-- The distance of two cells, in steps in any of the eight directions. -/
def NavigationCell.distance (first second : NavigationCell) : ℤ :=
  max |first.x - second.x| |first.y - second.y|

/-- The cells a route may meet: only the start is blocked, and only the start and a free goal
are close to an obstacle. -/
structure ClearOf (navigation : SparseNavigationMap K) (clearance : ℕ)
    (start goal cell : NavigationCell) : Prop where
  free : cell ≠ start → cell ∉ navigation.blocked
  far : cell ≠ start → ¬(cell = goal ∧ goal ∉ navigation.blocked) →
    ∀ obstacle ∈ navigation.blocked, (clearance : ℤ) < cell.distance obstacle

variable {clearance : ℕ}

theorem SparseNavigationMap.mem_inflated {obstacle : NavigationCell}
    (h : cell.distance obstacle ≤ clearance) :
    cell ∈ SparseNavigationMap.inflated clearance obstacle := by
  unfold NavigationCell.distance at h
  rw [max_le_iff, abs_le, abs_le] at h
  obtain ⟨hx, hy⟩ := h
  refine Finset.mem_image.mpr ⟨((cell.x - obstacle.x + clearance).toNat,
    (cell.y - obstacle.y + clearance).toNat), ?_, ?_⟩
  · rw [Finset.mem_product, Finset.mem_range, Finset.mem_range]
    omega
  · cases cell
    refine congrArg₂ NavigationCell.mk ?_ ?_ <;> dsimp only at hx hy ⊢ <;> omega

/-- Obstacles outside of a window count too, where they are close to it. -/
theorem SparseNavigationMap.mem_inflatedBlocked {minimum maximum obstacle : NavigationCell}
    (hinside : insideOf minimum maximum cell) (hobstacle : obstacle ∈ navigation.blocked)
    (h : cell.distance obstacle ≤ clearance) :
    cell ∈ navigation.inflatedBlocked clearance minimum maximum := by
  have hinflated := mem_inflated h
  unfold NavigationCell.distance at h
  rw [max_le_iff, abs_le, abs_le] at h
  obtain ⟨⟨hleft, hright⟩, hbottom, htop⟩ := hinside
  refine Finset.mem_filter.mpr ⟨Finset.mem_biUnion.mpr ⟨obstacle, ?_, hinflated⟩,
    ⟨hleft, hright⟩, hbottom, htop⟩
  rw [Finset.mem_filter]
  refine ⟨hobstacle, ⟨?_, ?_⟩, ?_, ?_⟩ <;> dsimp only <;> omega

/-- A free cell of a local grid is clear of the obstacles of the map. -/
theorem SparseNavigationMap.clearOf_localGrid
    (hinside : (navigation.localGrid start goal config).contains cell)
    (hfree : cell ∉ (navigation.localGrid start goal config).blocked) :
    ClearOf navigation config.obstacleClearanceCells start goal cell := by
  have hfar : cell ≠ start → ¬(cell = goal ∧ goal ∉ navigation.blocked) →
      ∀ obstacle ∈ navigation.blocked,
        (config.obstacleClearanceCells : ℤ) < cell.distance obstacle := by
    intro hstart hgoal obstacle hobstacle
    by_contra hnear
    apply hfree
    have hmem := navigation.mem_inflatedBlocked hinside hobstacle (not_lt.mp hnear)
    show cell ∈ navigation.gridBlocked _ _ _ _ _
    unfold gridBlocked
    dsimp only
    split
    next hopen =>
      exact Finset.mem_erase.mpr ⟨fun heq => hgoal ⟨heq, hopen⟩, Finset.mem_erase.mpr ⟨hstart, hmem⟩⟩
    next => exact Finset.mem_erase.mpr ⟨hstart, hmem⟩
  refine ⟨fun hstart hblocked => ?_, hfar⟩
  have hself := hfar hstart (fun hgoal => hgoal.2 (hgoal.1 ▸ hblocked)) cell hblocked
  simp only [NavigationCell.distance, sub_self, abs_zero, max_self] at hself
  omega

theorem SparseNavigationMap.start_free :
    start ∉ (navigation.localGrid start goal config).blocked := by
  show start ∉ navigation.gridBlocked _ _ _ _ _
  unfold gridBlocked
  dsimp only
  split
  · exact fun h => Finset.notMem_erase start _ (Finset.mem_of_mem_erase h)
  · exact Finset.notMem_erase start _

theorem SparseNavigationMap.contains_start :
    (navigation.localGrid start goal config).contains start := by
  show insideOf (windowOf config.planningMarginCells start goal).1
    (windowOf config.planningMarginCells start goal).2 start
  unfold insideOf windowOf
  dsimp only
  omega

end LocalGrid

/-! ## Routes -/

section Routes

variable {K : Type} [Field K] [LinearOrder K] [IsStrictOrderedRing K]

variable {grid : NavigationCostGrid K} {route : AStarRoute K}

omit [IsStrictOrderedRing K] in
theorem AStarRoute.make_cells {destinations : List (TravelDestination K)} {expandedCells : ℕ}
    {totalCost : K}
    (h : AStarRoute.make grid cells destinations expandedCells totalCost = .ok route) :
    route.cells = cells := by
  unfold make at h
  split at h
  · cases h
    rfl
  · cases h

theorem exists_of_map_eq_ok {ε α β : Type} {f : α → β} {computed : Except ε α} {value : β}
    (h : computed.map f = .ok value) : ∃ found, computed = .ok found ∧ f found = value := by
  cases computed with
  | error fault => cases h
  | ok found => exact ⟨found, rfl, Except.ok.inj h⟩

theorem mapError_eq_ok {ε ε' α : Type} {f : ε → ε'} {computed : Except ε α} {value : α}
    (h : computed.mapError f = .ok value) : computed = .ok value := by
  cases computed with
  | error fault => cases h
  | ok found => exact congrArg Except.ok (Except.ok.inj h)

variable {result : SearchResult K}

/-- A search, with or without an arrival region, walks from the start, and as far as the region
unless a part of the way will do. -/
theorem searchTowards_walk {metric : Metric K} {config : WeightedAStarConfig K}
    {start goal : NavigationCell} {allowPartial : Bool} {region : Option (TravelDestination K)}
    (h : searchTowards metric config grid start goal allowPartial region = .ok result) :
    ∃ endpoint total, Walk (successors metric.toDiagonal grid) start result.path endpoint total ∧
      (allowPartial = false → ∀ within ∈ region, arrivesWithin metric grid within endpoint = true) := by
  have hloop : ∃ arrives, (∀ within ∈ region, arrives = arrivesWithin metric grid within) ∧
      searchLoop metric.toDiagonal config grid start goal allowPartial arrives
        (config.maximumExpansions + 1) (initialSearch metric.toDiagonal start goal) = .ok result := by
    cases region with
    | none =>
      have hsearched : search metric.toDiagonal config grid start goal allowPartial = .ok result :=
        mapError_eq_ok h
      unfold search at hsearched
      split at hsearched
      · cases hsearched
      · exact ⟨_, nofun, hsearched⟩
    | some region =>
      have hsearched : (if start ∈ grid.blocked then .error .endpointBlocked
          else
            searchLoop metric.toDiagonal config grid start goal allowPartial
              (arrivesWithin metric grid region) (config.maximumExpansions + 1)
              (initialSearch metric.toDiagonal start goal)) = .ok result := mapError_eq_ok h
      split at hsearched
      · cases hsearched
      · exact ⟨_, fun within hwithin => Option.some.inj hwithin ▸ rfl, hsearched⟩
  obtain ⟨arrives, harrives, hsearched⟩ := hloop
  have hended : Ended metric.toDiagonal config grid start goal allowPartial arrives
      (searchLoop metric.toDiagonal config grid start goal allowPartial arrives
        (config.maximumExpansions + 1) (initialSearch metric.toDiagonal start goal)) :=
    searchLoop_ended initialSearch_inv (Nat.zero_le _) (by simp [initialSearch])
  rw [hsearched] at hended
  obtain ⟨_, endpoint, ⟨total, walk, _⟩, hends, _⟩ := hended
  refine ⟨endpoint, total, walk, fun hwhole within hwithin => ?_⟩
  rw [← harrives within hwithin]
  exact hends.resolve_right (fun hpartial => Bool.false_ne_true (hwhole.symm.trans hpartial.1))

/-- Every closed cell that the segment between the centres of two cells meets is clear. -/
def SegmentClear (navigation : SparseNavigationMap K) (clearance : ℕ)
    (start goal first last : NavigationCell) : Prop :=
  ∀ cell, Meets navigation.cellSize (navigation.center first) (navigation.center last) cell →
    ClearOf navigation clearance start goal cell

/-- The cells of a route, against the raw path of its search. -/
structure RouteClear (navigation : SparseNavigationMap K) (config : WeightedAStarConfig K)
    (start goal : NavigationCell) (raw cells : List NavigationCell) : Prop where
  sublist : cells.Sublist raw
  head : cells.head? = raw.head?
  last : cells.getLast? = raw.getLast?
  clear : cells.IsChain (SegmentClear navigation config.obstacleClearanceCells start goal)

omit [IsStrictOrderedRing K] in
theorem free_of_steps (hsteps : cells.IsChain (Step grid))
    (hhead : ∀ first, cells.head? = some first → grid.contains first ∧ first ∉ grid.blocked) :
    ∀ cell ∈ cells, grid.contains cell ∧ cell ∉ grid.blocked := by
  induction cells with
  | nil => exact nofun
  | cons first rest ih =>
    obtain ⟨hnext, hrest⟩ := List.isChain_cons.mp hsteps
    intro cell hcell
    rcases List.mem_cons.mp hcell with rfl | hmem
    · exact hhead _ rfl
    · exact ih hrest (fun next hhead => ⟨(hnext next hhead).inside, (hnext next hhead).free⟩) cell hmem

section Walk

variable {diagonal : Diagonal K} {navigation : SparseNavigationMap K}
  {config : WeightedAStarConfig K} {start goal endpoint : NavigationCell} {raw : List NavigationCell}
  {total : K}
  (walk : Walk (successors diagonal (navigation.localGrid start goal config)) start raw endpoint total)

include walk

omit [IsStrictOrderedRing K] in
theorem Walk.cells_free : ∀ cell ∈ raw, (navigation.localGrid start goal config).contains cell ∧
    cell ∉ (navigation.localGrid start goal config).blocked := by
  obtain ⟨⟨hhead, _, hsteps⟩, _⟩ := Walk.isRoute walk
  refine free_of_steps hsteps (fun first hfirst => ?_)
  obtain rfl := Option.some.inj (hhead.symm.trans hfirst)
  exact ⟨SparseNavigationMap.contains_start, SparseNavigationMap.start_free⟩

/-- A smoothed walk is clear. -/
theorem Walk.routeClear :
    RouteClear navigation config start goal raw
      (smooth diagonal (navigation.localGrid start goal config) raw) := by
  have hsteps := (Walk.isRoute walk).1.steps
  have hsmoothed : Smoothed diagonal (navigation.localGrid start goal config) raw _ :=
    smooth_smoothed hsteps
  refine ⟨hsmoothed.sublist, hsmoothed.head, hsmoothed.last, ?_⟩
  have hfree := Walk.cells_free walk
  refine hsmoothed.linked.imp_of_mem_imp ?_
  intro first last hfirst hlast hlinked cell hmeets
  obtain ⟨hcontains, hunblocked⟩ := hfree first (hsmoothed.sublist.subset hfirst)
  obtain ⟨c, r, rfl, met⟩ := hmeets.met navigation.cellSize_pos
  exact SparseNavigationMap.clearOf_localGrid
    (contains_offset hcontains (hfree last (hsmoothed.sublist.subset hlast)).1 met)
    (hlinked.free_of_met hunblocked met)

end Walk

section Planned

variable [FloorRing K] (metric : Metric K) (config : WeightedAStarConfig K)
  (navigation : SparseNavigationMap K) (position : PlanarVector K)
  (destination : TravelDestination K)

omit [IsStrictOrderedRing K] in
variable {metric config navigation position destination} in
theorem planRoute_eq_ok (h : planRoute metric config navigation position destination = .ok route) :
    ∃ grid result endpoint, grid = navigation.localGrid (navigation.cellFor position.x position.y)
        (navigation.cellFor destination.lt destination.lg) config ∧
      planSearch metric config navigation grid position destination = .ok (result, endpoint) ∧
        route.cells = smooth metric.toDiagonal grid result.path := by
  obtain ⟨⟨result, endpoint⟩, hsearched, h⟩ := bind_eq_ok.mp h
  obtain ⟨inner, _, h⟩ := bind_eq_ok.mp h
  refine ⟨_, result, endpoint, rfl, hsearched, ?_⟩
  dsimp only at h
  split at h
  · split at h
    · obtain ⟨waypoint, _, h⟩ := bind_eq_ok.mp h
      exact AStarRoute.make_cells h
    · exact AStarRoute.make_cells h
  · exact AStarRoute.make_cells h

omit [IsStrictOrderedRing K] in
variable {metric config navigation position destination} in
theorem planReachableFrontier_eq_ok
    (h : planReachableFrontier metric config navigation position destination = .ok route) :
    ∃ grid result, grid = navigation.localGrid (navigation.cellFor position.x position.y)
        (navigation.cellFor destination.lt destination.lg) config ∧
      searchTowards metric config grid (navigation.cellFor position.x position.y)
        (navigation.cellFor destination.lt destination.lg) true none = .ok result ∧
        route.cells = smooth metric.toDiagonal grid result.path := by
  obtain ⟨result, hsearched, h⟩ := bind_eq_ok.mp h
  refine ⟨_, result, rfl, hsearched, ?_⟩
  dsimp only at h
  split at h
  · cases h
  · split at h
    · obtain ⟨endpoint, _, h⟩ := bind_eq_ok.mp h
      obtain ⟨inner, _, h⟩ := bind_eq_ok.mp h
      exact AStarRoute.make_cells h
    · obtain ⟨endpoint, _, h⟩ := bind_eq_ok.mp h
      obtain ⟨inner, _, h⟩ := bind_eq_ok.mp h
      exact AStarRoute.make_cells h

variable {metric config navigation position destination} in
/-- The raw path of a route's search is a walk from the start. -/
theorem planSearch_walk {endpoint : TravelDestination K}
    (h : planSearch metric config navigation grid position destination = .ok (result, endpoint)) :
    ∃ last total, Walk (successors metric.toDiagonal grid)
      (navigation.cellFor position.x position.y) result.path last total := by
  unfold planSearch at h
  dsimp only at h
  split at h
  · cases h
    exact ⟨_, _, .nil⟩
  · split at h
    · obtain ⟨searched, hsearched, h⟩ := bind_eq_ok.mp h
      split at h
      · cases h
      · obtain ⟨point, _, h⟩ := bind_eq_ok.mp h
        cases h
        obtain ⟨last, total, walk, _⟩ := searchTowards_walk hsearched
        exact ⟨last, total, walk⟩
    · obtain ⟨searched, hsearched, h⟩ := bind_eq_ok.mp h
      cases h
      obtain ⟨last, total, walk, _⟩ := searchTowards_walk hsearched
      exact ⟨last, total, walk⟩

/-- **Smoothed routes stay clear of obstacles.** -/
theorem route_clear (route : AStarRoute K) :
    (planRoute metric config navigation position destination = .ok route →
      ∃ result endpoint, planSearch metric config navigation
          (navigation.localGrid (navigation.cellFor position.x position.y)
            (navigation.cellFor destination.lt destination.lg) config) position destination =
              .ok (result, endpoint) ∧
        RouteClear navigation config (navigation.cellFor position.x position.y)
          (navigation.cellFor destination.lt destination.lg) result.path route.cells) ∧
    (planReachableFrontier metric config navigation position destination = .ok route →
      ∃ result, searchTowards metric config
          (navigation.localGrid (navigation.cellFor position.x position.y)
            (navigation.cellFor destination.lt destination.lg) config)
          (navigation.cellFor position.x position.y)
          (navigation.cellFor destination.lt destination.lg) true none = .ok result ∧
        RouteClear navigation config (navigation.cellFor position.x position.y)
          (navigation.cellFor destination.lt destination.lg) result.path route.cells) := by
  constructor
  · intro h
    obtain ⟨grid, result, endpoint, rfl, hsearched, hcells⟩ := planRoute_eq_ok h
    obtain ⟨last, total, walk⟩ := planSearch_walk hsearched
    exact ⟨result, endpoint, hsearched, hcells ▸ Walk.routeClear walk⟩
  · intro h
    obtain ⟨grid, result, rfl, hsearched, hcells⟩ := planReachableFrontier_eq_ok h
    obtain ⟨last, total, walk, _⟩ := searchTowards_walk hsearched
    exact ⟨result, hsearched, hcells ▸ Walk.routeClear walk⟩

end Planned

end Routes

/-- A map with one obstacle. -/
def obstacle.navigation : SparseNavigationMap ℚ where
  cellSize := 10
  blocked := {⟨2, 0⟩}
  cellSize_pos := by norm_num
  refinementFactor_ok := SparseNavigationMap.defaultFactor_ok

def obstacle.config : WeightedAStarConfig ℚ := .sample

/-- Behind it. -/
def obstacle.goal : TravelDestination ℚ := .around 45 5

/-- A route around it. -/
theorem route_clear_obstacle :
    ∃ route, planRoute Metric.axial obstacle.config obstacle.navigation ⟨5, 5⟩
        obstacle.goal = .ok route ∧
      ∃ raw, route.cells = [⟨0, 0⟩, ⟨1, -1⟩, ⟨3, -1⟩, ⟨4, 0⟩] ∧
        RouteClear obstacle.navigation obstacle.config ⟨0, 0⟩ ⟨4, 0⟩ raw route.cells := by
  have hplanned : (planRoute Metric.axial obstacle.config obstacle.navigation ⟨5, 5⟩
      obstacle.goal).map AStarRoute.cells = .ok [⟨0, 0⟩, ⟨1, -1⟩, ⟨3, -1⟩, ⟨4, 0⟩] := by
    decide +kernel
  obtain ⟨route, hroute, hcells⟩ := exists_of_map_eq_ok hplanned
  obtain ⟨result, _, _, hclear⟩ := (route_clear Metric.axial obstacle.config obstacle.navigation
    ⟨5, 5⟩ obstacle.goal route).1 hroute
  have hstart : obstacle.navigation.cellFor 5 5 = ⟨0, 0⟩ := by decide +kernel
  have hgoal : obstacle.navigation.cellFor obstacle.goal.lt obstacle.goal.lg = ⟨4, 0⟩ := by
    decide +kernel
  rw [hstart, hgoal] at hclear
  exact ⟨route, hroute, result.path, hcells, hclear⟩

end ShadowbaneLab
