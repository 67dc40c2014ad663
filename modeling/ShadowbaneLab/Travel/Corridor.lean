/-
# The corridor of a segment

What `segment_cost` certifies.  The loop visits every cell that a point of the segment touches, and
no other ones than those and the ones across the corner of two crossings that are almost at once;
there it also asks for the cells beside the corner.
-/
import ShadowbaneLab.Travel.Axes

namespace ShadowbaneLab

open Foundation

variable {K : Type} [Field K] [LinearOrder K] [IsStrictOrderedRing K] [FloorRing K]

namespace NavigationCostGrid

/-! ## The loop -/

variable {axis : Axis K}

variable {x y : K}

variable {axisX axisY : Axis K} {cell : NavigationCell} {outcome : Option K}

section Loop

variable (grid : NavigationCostGrid K)

/-- A cell that may be entered. -/
def Clear (cell : NavigationCell) : Prop := grid.contains cell ∧ cell ∉ grid.blocked

omit [Field K] [LinearOrder K] [IsStrictOrderedRing K] [FloorRing K] in
theorem mem_touched_iff :
    cell ∈ touched axisX.cell axisY.cell axisX.edge axisY.edge ↔
      cell.x ∈ axisX.cells ∧ cell.y ∈ axisY.cells := by
  unfold touched
  rw [List.mem_flatMap]
  constructor
  · rintro ⟨x, hx, hcell⟩
    obtain ⟨y, hy, rfl⟩ := List.mem_map.1 hcell
    exact ⟨hx, hy⟩
  · rintro ⟨hx, hy⟩
    exact ⟨cell.x, hx, List.mem_map.2 ⟨cell.y, hy, rfl⟩⟩

omit [Field K] [IsStrictOrderedRing K] [FloorRing K] in
/-- The greatest of some values, from one on. -/
theorem foldl_max_bounds {α : Type} (f : α → K) (l : List α) (start : K) :
    start ≤ l.foldl (fun cost a => max cost (f a)) start ∧
      ∀ bound, start ≤ bound → (∀ a ∈ l, f a ≤ bound) →
        l.foldl (fun cost a => max cost (f a)) start ≤ bound := by
  induction l generalizing start with
  | nil => exact ⟨le_refl _, fun _ hstart _ => hstart⟩
  | cons a rest ih =>
    obtain ⟨hlow, hhigh⟩ := ih (max start (f a))
    refine ⟨(le_max_left _ _).trans hlow, fun bound hstart hbound => hhigh bound ?_ ?_⟩
    · exact max_le hstart (hbound a List.mem_cons_self)
    · exact fun a' ha' => hbound a' (List.mem_cons_of_mem _ ha')

omit [Field K] [LinearOrder K] [IsStrictOrderedRing K] [FloorRing K] in
theorem Axis.cell_mem (axis : Axis K) : axis.cell ∈ axis.cells := by
  unfold Axis.cells
  split
  · exact List.mem_cons_of_mem _ List.mem_cons_self
  · exact List.mem_cons_self

variable {grid} {axisX axisY : Axis K}

omit [IsStrictOrderedRing K] [FloorRing K] in
/-- Free cells have a cost, which the dearest of them sets. -/
theorem clearCost_eq_some {cost : K}
    (h : grid.clearCost axisX.cell axisY.cell axisX.edge axisY.edge = some cost) :
    (∀ a ∈ axisX.cells, ∀ b ∈ axisY.cells, grid.Clear ⟨a, b⟩) ∧ 1 ≤ cost ∧
      ∀ bound, (∀ a ∈ axisX.cells, ∀ b ∈ axisY.cells, grid.traversalCost ⟨a, b⟩ ≤ bound) →
        cost ≤ bound := by
  unfold clearCost at h
  dsimp only at h
  split at h
  · cases h
  · rename_i hclear
    rw [Bool.not_eq_true, List.any_eq_false] at hclear
    have hmem {a b : ℤ} (ha : a ∈ axisX.cells) (hb : b ∈ axisY.cells) :
        (⟨a, b⟩ : NavigationCell) ∈ touched axisX.cell axisY.cell axisX.edge axisY.edge :=
      mem_touched_iff.2 ⟨ha, hb⟩
    refine ⟨?_, ?_, ?_⟩
    · intro a ha b hb
      have hfree := hclear _ (hmem ha hb)
      simpa [Clear] using hfree
    · rw [← Option.some.inj h]
      exact (foldl_max_bounds _ _ _).1
    · intro bound hbound
      rw [← Option.some.inj h]
      refine (foldl_max_bounds _ _ _).2 bound ?_ (fun cell hcell => ?_)
      · exact (grid.one_le_traversalCost _).trans (hbound _ axisX.cell_mem _ axisY.cell_mem)
      · obtain ⟨ha, hb⟩ := mem_touched_iff.1 hcell
        exact hbound _ ha _ hb

omit [IsStrictOrderedRing K] [FloorRing K] in
theorem clearCost_eq_none (h : grid.clearCost axisX.cell axisY.cell axisX.edge axisY.edge = none) :
    ∃ a ∈ axisX.cells, ∃ b ∈ axisY.cells, ¬ grid.Clear ⟨a, b⟩ := by
  unfold clearCost at h
  dsimp only at h
  split at h
  · rename_i hblocked
    obtain ⟨cell, hcell, hfree⟩ := List.any_eq_true.1 hblocked
    obtain ⟨ha, hb⟩ := mem_touched_iff.1 hcell
    refine ⟨cell.x, ha, cell.y, hb, ?_⟩
    rintro ⟨hinside, hunblocked⟩
    have hinside : grid.contains cell := hinside
    have hunblocked : cell ∉ grid.blocked := hunblocked
    simp [hinside, hunblocked] at hfree
  · cases h

omit [IsStrictOrderedRing K] [FloorRing K] in
/-- A single cell is clear or not. -/
theorem clearCost_isNone {x y : ℤ} :
    (grid.clearCost x y false false).isNone = true ↔ ¬ grid.Clear ⟨x, y⟩ := by
  unfold clearCost touched
  dsimp only
  simp [Clear]

omit [IsStrictOrderedRing K] [FloorRing K] in
theorem crosses_coe (x y : K) : crosses (x : WithTop K) (y : WithTop K) = true ↔ x ≤ y ∨ AtOnce x y := by
  show (decide ((x : WithTop K) ≤ y) || decide (|x - y| ≤ 1 / 10 ^ 12)) = true ↔ _
  rw [Bool.or_eq_true, decide_eq_true_eq, decide_eq_true_eq, WithTop.coe_le_coe]
  exact Iff.rfl

omit [IsStrictOrderedRing K] [FloorRing K] in
theorem crosses_top (x : K) : crosses (x : WithTop K) ⊤ = true ∧ crosses ⊤ (x : WithTop K) = false := by
  constructor
  · show (decide ((x : WithTop K) ≤ ⊤) || false) = true
    rw [decide_eq_true le_top, Bool.true_or]
  · show (decide (⊤ ≤ (x : WithTop K)) || false) = false
    rw [decide_eq_false (WithTop.coe_lt_top x).not_ge, Bool.false_or]

omit [IsStrictOrderedRing K] [FloorRing K] in
theorem AtOnce.symm (h : AtOnce x y) : AtOnce y x := by
  rwa [AtOnce, abs_sub_comm]

omit [IsStrictOrderedRing K] [FloorRing K] in
/-- One boundary is passed before the other. -/
theorem crosses_of_lt (hlt : x < y) (hfar : ¬ AtOnce x y) :
    crosses (x : WithTop K) (y : WithTop K) = true ∧
      crosses (y : WithTop K) (x : WithTop K) = false := by
  refine ⟨(crosses_coe x y).2 (.inl hlt.le), ?_⟩
  rw [← Bool.not_eq_true, crosses_coe]
  rintro (hle | hnear)
  · exact absurd hle hlt.not_ge
  · exact hfar hnear.symm

variable {time : K}

omit [FloorRing K] in
/-- The next boundaries: one coordinate passes its own first, or both pass at once. -/
theorem crosses_cases {timeX timeY : WithTop K} (h : min timeX timeY = time) :
    (timeX = time ∧ timeX < timeY ∧ crosses timeX timeY = true ∧ crosses timeY timeX = false) ∨
      (timeY = time ∧ timeY < timeX ∧ crosses timeX timeY = false ∧ crosses timeY timeX = true) ∨
        ∃ x y : K, timeX = x ∧ timeY = y ∧ min x y = time ∧ AtOnce x y ∧
          crosses timeX timeY = true ∧ crosses timeY timeX = true := by
  cases timeX with
  | top =>
    cases timeY with
    | top => cases h
    | coe y =>
      rw [min_eq_right le_top] at h
      obtain ⟨hfirst, hsecond⟩ := crosses_top y
      exact .inr (.inl ⟨h, WithTop.coe_lt_top y, hsecond, hfirst⟩)
  | coe x =>
    cases timeY with
    | top =>
      rw [min_eq_left le_top] at h
      obtain ⟨hfirst, hsecond⟩ := crosses_top x
      exact .inl ⟨h, WithTop.coe_lt_top x, hfirst, hsecond⟩
    | coe y =>
      have hmin : min x y = time := WithTop.coe_injective ((WithTop.coe_min x y).trans h)
      by_cases hnear : AtOnce x y
      · exact .inr (.inr ⟨x, y, rfl, rfl, hmin, hnear, (crosses_coe x y).2 (.inr hnear),
          (crosses_coe y x).2 (.inr hnear.symm)⟩)
      · rcases lt_trichotomy x y with hlt | heq | hlt
        · rw [min_eq_left hlt.le] at hmin
          obtain ⟨hfirst, hsecond⟩ := crosses_of_lt hlt hnear
          exact .inl ⟨congrArg _ hmin, WithTop.coe_lt_coe.2 hlt, hfirst, hsecond⟩
        · refine absurd ?_ hnear
          rw [AtOnce, heq, sub_self, abs_zero]
          positivity
        · rw [min_eq_right hlt.le] at hmin
          obtain ⟨hfirst, hsecond⟩ := crosses_of_lt hlt (fun h => hnear h.symm)
          exact .inr (.inl ⟨congrArg _ hmin, WithTop.coe_lt_coe.2 hlt, hsecond, hfirst⟩)

/-- What the loop has yet to certify, from a time on, and what it adds to the cost. -/
structure Certified (grid : NavigationCostGrid K) (posX posY : K → K) (length elapsed cost value : K) :
    Prop where
  covered : ∀ t, elapsed ≤ t → t < 1 → ∀ a b, OnCell (posX t) a → OnCell (posY t) b →
    grid.Clear ⟨a, b⟩
  low : cost + (1 - elapsed) * length ≤ value
  high : ∀ bound, (∀ a b, Touching posX posY a b ∨ Across posX posY a b →
      grid.traversalCost ⟨a, b⟩ ≤ bound) →
    value ≤ cost + (1 - elapsed) * length * bound

variable {posX posY : K → K} {length elapsed cost : K}

/-- The corridor of the loop: what it stands in is touched, or across a corner. -/
def InCorridor (grid : NavigationCostGrid K) (posX posY : K → K) (axisX axisY : Axis K)
    (elapsed : K) : Prop :=
  Corridor (fun a b => grid.Clear ⟨a, b⟩)
    (fun a b => Touching posX posY a b ∨ Across posX posY a b) posX posY axisX axisY elapsed

/-- What is certified from the next boundary on is certified from here on. -/
theorem Certified.extend {cellCost time value : K} (hlength : 0 ≤ length)
    (h : InCorridor grid posX posY axisX axisY elapsed)
    (hfree : grid.clearCost axisX.cell axisY.cell axisX.edge axisY.edge = some cellCost)
    (hle : elapsed ≤ time) (hX : (time : WithTop K) ≤ axisX.time)
    (hY : (time : WithTop K) ≤ axisY.time)
    (hrest : Certified grid posX posY length time (cost + (time - elapsed) * length * cellCost) value) :
    Certified grid posX posY length elapsed cost value := by
  obtain ⟨hclear, hone, hbound⟩ := clearCost_eq_some hfree
  have hspan : 0 ≤ (time - elapsed) * length := mul_nonneg (sub_nonneg.2 hle) hlength
  refine ⟨fun t ht hend a b ha hb => ?_, ?_, fun bound hcells => ?_⟩
  · rcases lt_or_ge t time with hlt | hge
    · exact Corridor.covers h hclear ht ((WithTop.coe_lt_coe.2 hlt).trans_le hX)
        ((WithTop.coe_lt_coe.2 hlt).trans_le hY) ha hb
    · exact hrest.covered t hge hend a b ha hb
  · have hcharge : (time - elapsed) * length ≤ (time - elapsed) * length * cellCost :=
      le_mul_of_one_le_right hspan hone
    calc cost + (1 - elapsed) * length
        = cost + (time - elapsed) * length + (1 - time) * length := by ring
      _ ≤ cost + (time - elapsed) * length * cellCost + (1 - time) * length := by linarith
      _ ≤ value := hrest.low
  · have hcost : cellCost ≤ bound :=
      hbound bound (fun a ha b hb => hcells a b (Corridor.reached h a ha b hb))
    have hcharge : (time - elapsed) * length * cellCost ≤ (time - elapsed) * length * bound :=
      mul_le_mul_of_nonneg_left hcost hspan
    calc value ≤ cost + (time - elapsed) * length * cellCost + (1 - time) * length * bound :=
          hrest.high bound hcells
      _ ≤ cost + (time - elapsed) * length * bound + (1 - time) * length * bound := by linarith
      _ = cost + (1 - elapsed) * length * bound := by ring

omit [IsStrictOrderedRing K] [FloorRing K] in
/-- At the end nothing is left to certify. -/
theorem Certified.finish (posX posY : K → K) (length cost : K) :
    Certified grid posX posY length 1 cost cost := by
  refine ⟨fun t ht hend => absurd ht hend.not_ge, ?_, fun bound _ => ?_⟩
  · rw [sub_self, zero_mul, add_zero]
  · rw [sub_self, zero_mul, zero_mul, add_zero]

/-- The loop gives up on a cell that is not clear. -/
def GivenUp (grid : NavigationCostGrid K) (posX posY : K → K) : Prop :=
  ∃ a b, (Touching posX posY a b ∨ Across posX posY a b ∨ Beside posX posY a b) ∧
    ¬ grid.Clear ⟨a, b⟩

/-- What an answer of the loop means. -/
def Settles (grid : NavigationCostGrid K) (posX posY : K → K) (length elapsed cost : K) :
    Option K → Prop
  | some value => Certified grid posX posY length elapsed cost value
  | none => GivenUp grid posX posY

theorem Settles.extend {cellCost time : K} (hlength : 0 ≤ length)
    (h : InCorridor grid posX posY axisX axisY elapsed)
    (hfree : grid.clearCost axisX.cell axisY.cell axisX.edge axisY.edge = some cellCost)
    (hmin : min axisX.time axisY.time = time)
    (hrest : Settles grid posX posY length time (cost + max 0 (time - elapsed) * length * cellCost)
      outcome) : Settles grid posX posY length elapsed cost outcome := by
  have hX : (time : WithTop K) ≤ axisX.time := hmin ▸ min_le_left _ _
  have hY : (time : WithTop K) ≤ axisY.time := hmin ▸ min_le_right _ _
  have hle : elapsed < time := by
    have hlt : (elapsed : WithTop K) < time := hmin ▸ lt_min (Corridor.aheadX h) (Corridor.aheadY h)
    exact WithTop.coe_lt_coe.1 hlt
  cases outcome with
  | none => exact hrest
  | some value =>
    rw [max_eq_right (sub_nonneg.2 hle.le)] at hrest
    exact Certified.extend hlength h hfree hle.le hX hY hrest

/-- **What the loop answers is certified, or some cell on its way is not clear.** -/
theorem segmentLoop_settles (hlength : 0 ≤ length) (fuel : ℕ) (outcome : Option K)
    (hcorridor : InCorridor grid posX posY axisX axisY elapsed) (hstart : elapsed < 1)
    (h : grid.segmentLoop length fuel axisX axisY elapsed cost = some outcome) :
    Settles grid posX posY length elapsed cost outcome := by
  induction fuel generalizing axisX axisY elapsed cost with
  | zero => cases h
  | succ fuel ih =>
    rw [segmentLoop, if_pos hstart] at h
    cases hfree : grid.clearCost axisX.cell axisY.cell axisX.edge axisY.edge with
    | none =>
      rw [hfree] at h
      cases h
      obtain ⟨a, ha, b, hb, hblocked⟩ := clearCost_eq_none hfree
      rcases Corridor.reached hcorridor a ha b hb with htouched | hacross
      · exact ⟨a, b, .inl htouched, hblocked⟩
      · exact ⟨a, b, .inr (.inl hacross), hblocked⟩
    | some cellCost =>
      rw [hfree] at h
      dsimp only at h
      have hfinish (hX : ((1 : K) : WithTop K) ≤ axisX.time) (hY : ((1 : K) : WithTop K) ≤ axisY.time) :
          Settles grid posX posY length elapsed cost
            (some (cost + max 0 (1 - elapsed) * length * cellCost)) := by
        rw [max_eq_right (sub_nonneg.2 hstart.le)]
        exact (Certified.finish posX posY length _).extend hlength hcorridor hfree hstart.le hX hY
      obtain ⟨hclear, _, _⟩ := clearCost_eq_some hfree
      cases hmin : min axisX.time axisY.time with
      | top =>
        rw [hmin] at h
        obtain ⟨hX, hY⟩ := inf_eq_top_iff.1 hmin
        rw [← Option.some.inj h]
        exact hfinish (hX ▸ le_top) (hY ▸ le_top)
      | coe time =>
        rw [hmin] at h
        dsimp only at h
        by_cases hend : 1 ≤ time
        · rw [min_eq_right hend, if_pos (le_refl _)] at h
          have hone : ((1 : K) : WithTop K) ≤ min axisX.time axisY.time := by
            rw [hmin]
            exact WithTop.coe_le_coe.2 hend
          rw [← Option.some.inj h]
          exact hfinish (hone.trans (min_le_left _ _)) (hone.trans (min_le_right _ _))
        · have hlt : time < 1 := not_le.1 hend
          rw [min_eq_left hlt.le, if_neg hend] at h
          rcases crosses_cases hmin with ⟨hX, hfirst, hcrossX, hcrossY⟩ |
            ⟨hY, hfirst, hcrossX, hcrossY⟩ | ⟨x, y, hX, hY, hxy, hclose, hcrossX, hcrossY⟩
          · rw [hcrossX, hcrossY] at h
            have hnext : InCorridor grid posX posY axisX.cross axisY time :=
              Corridor.crossX hcorridor (fun _ _ => .inl) hclear hX (hX ▸ hfirst) hlt
            exact Settles.extend hlength hcorridor hfree hmin (ih hnext hlt h)
          · rw [hcrossX, hcrossY] at h
            have hnext : InCorridor grid posX posY axisX axisY.cross time :=
              Corridor.crossY hcorridor (fun _ _ => .inl) hclear hY (hY ▸ hfirst) hlt
            exact Settles.extend hlength hcorridor hfree hmin (ih hnext hlt h)
          · rw [hcrossX, hcrossY, Bool.and_self, Bool.true_and] at h
            have hbegin : 0 ≤ min x y ∧ min x y < 1 := by
              refine ⟨?_, hxy ▸ hlt⟩
              have hXt : elapsed < x := WithTop.coe_lt_coe.1 (hX ▸ Corridor.aheadX hcorridor)
              have hYt : elapsed < y := WithTop.coe_lt_coe.1 (hY ▸ Corridor.aheadY hcorridor)
              exact (Corridor.nonneg hcorridor).trans (le_min hXt.le hYt.le)
            have hentersX := Axis.Tracks.enters (Corridor.tracksX hcorridor) hX
            have hentersY := Axis.Tracks.enters (Corridor.tracksY hcorridor) hY
            have hbeside {a b : ℤ} (hside : a = axisX.cell + axisX.step ∧ b = axisY.cell ∨
                a = axisX.cell ∧ b = axisY.cell + axisY.step) : Beside posX posY a b :=
              ⟨x, y, axisX.cell, _, axisY.cell, _, hentersX, hentersY, hclose, hbegin.1, hbegin.2, hside⟩
            split at h
            · rename_i hblocked
              rw [← Option.some.inj h]
              rw [Bool.or_eq_true, clearCost_isNone, clearCost_isNone] at hblocked
              rcases hblocked with hblocked | hblocked
              · exact ⟨_, _, .inr (.inr (hbeside (.inl ⟨rfl, rfl⟩))), hblocked⟩
              · exact ⟨_, _, .inr (.inr (hbeside (.inr ⟨rfl, rfl⟩))), hblocked⟩
            · rename_i hsides
              rw [Bool.or_eq_true, clearCost_isNone, clearCost_isNone, not_or, not_not, not_not]
                at hsides
              have hnext : InCorridor grid posX posY axisX.cross axisY.cross time := by
                rw [← hxy]
                exact Corridor.crossBoth hcorridor (fun _ _ => .inr) hclear hX hY hclose hbegin.2
                  hsides.1 hsides.2
              exact Settles.extend hlength hcorridor hfree hmin (ih hnext hlt h)

/-- A number of boundaries after which a coordinate passes no more in time. -/
def Axis.Within (axis : Axis K) (n : ℕ) : Prop :=
  ∀ time delta : K, axis.time = time → axis.delta = delta → 1 ≤ time + n * delta

variable {position : K → K}

theorem Axis.Within.cross {n : ℕ} (h : axis.Within n) (htracks : axis.Tracks position)
    (htime : axis.time = time) : axis.cross.Within (n - 1) := by
  obtain ⟨delta, hpos, hdelta, hnext, _⟩ := Corridor.crossed htracks htime
  intro time' delta' htime' hdelta'
  obtain ⟨rfl, rfl⟩ := Corridor.crossed_eq hnext hdelta htime' hdelta'
  have hbound := h time delta htime hdelta
  cases n with
  | zero =>
    rw [Nat.cast_zero, zero_mul, add_zero] at hbound
    rw [Nat.zero_sub, Nat.cast_zero, zero_mul, add_zero]
    linarith
  | succ n =>
    push_cast at hbound
    rw [Nat.add_sub_cancel]
    linarith

/-- A coordinate that passes a boundary in time has one more to pass. -/
theorem Axis.Within.pos {n : ℕ} (h : axis.Within n) (htracks : axis.Tracks position)
    (htime : axis.time = time) (hlt : time < 1) : 0 < n := by
  obtain ⟨delta, _, hdelta, _⟩ := Corridor.crossed htracks htime
  have hbound := h time delta htime hdelta
  rw [Nat.pos_iff_ne_zero]
  rintro rfl
  rw [Nat.cast_zero, zero_mul, add_zero] at hbound
  linarith

/-- **The loop ends when all boundaries are passed.** -/
theorem segmentLoop_ends (fuel : ℕ) {n m : ℕ} (htracksX : axisX.Tracks posX)
    (htracksY : axisY.Tracks posY) (hX : axisX.Within n) (hY : axisY.Within m)
    (hfuel : n + m < fuel) :
    (grid.segmentLoop length fuel axisX axisY elapsed cost).isSome = true := by
  induction fuel generalizing axisX axisY elapsed cost n m with
  | zero => omega
  | succ fuel ih =>
    rw [segmentLoop]
    split
    · split
      · rfl
      · split
        · rfl
        · rename_i time hmin
          dsimp only
          split
          · rfl
          · rename_i hend
            have hlt : time < 1 := not_le.1 (fun hle => hend (by rw [min_eq_right hle]))
            rcases crosses_cases hmin with ⟨htime, _, hcrossX, hcrossY⟩ |
              ⟨htime, _, hcrossX, hcrossY⟩ | ⟨x, y, htimeX, htimeY, hxy, _, hcrossX, hcrossY⟩
            · rw [hcrossX, hcrossY]
              have hpos := hX.pos htracksX htime hlt
              exact ih (htracksX.cross htime) htracksY (hX.cross htracksX htime) hY (by omega)
            · rw [hcrossX, hcrossY]
              have hpos := hY.pos htracksY htime hlt
              exact ih htracksX (htracksY.cross htime) hX (hY.cross htracksY htime) (by omega)
            · rw [hcrossX, hcrossY]
              split
              · rfl
              · -- one of the two boundaries is passed in time
                have hpos : 0 < n ∨ 0 < m := by
                  rcases min_choice x y with hmin | hmin
                  · exact .inl (hX.pos htracksX htimeX (hmin ▸ hxy ▸ hlt))
                  · exact .inr (hY.pos htracksY htimeY (hmin ▸ hxy ▸ hlt))
                exact ih (htracksX.cross htimeX) (htracksY.cross htimeY)
                  (hX.cross htracksX htimeX) (hY.cross htracksY htimeY) (by omega)
    · rfl

end Loop

/-! ## Segments -/

section Certificate

variable (grid : NavigationCostGrid K)

/-- A coordinate of the point of a segment at a time, in cells. -/
def along (first last t : K) : K := (first + t * (last - first)) / grid.cellSize

omit [IsStrictOrderedRing K] in
theorem along_eq (first last : K) : grid.along first last = fun t =>
    first / grid.cellSize + t * (last / grid.cellSize - first / grid.cellSize) := by
  funext t
  unfold along
  ring

variable (start endpoint : PlanarVector K)

/-- A segment touches a closed cell. -/
def Touches (cell : NavigationCell) : Prop :=
  Touching (grid.along start.x endpoint.x) (grid.along start.y endpoint.y) cell.x cell.y

/-- A cell beside a corner that a segment passes with both coordinates almost at once. -/
def BesideCorner (cell : NavigationCell) : Prop :=
  Beside (grid.along start.x endpoint.x) (grid.along start.y endpoint.y) cell.x cell.y

/-- The cell across such a corner. -/
def AcrossCorner (cell : NavigationCell) : Prop :=
  Across (grid.along start.x endpoint.x) (grid.along start.y endpoint.y) cell.x cell.y

/-- What the cost of a segment certifies. -/
structure CertifiedCost (length value : K) : Prop where
  clear : ∀ cell, grid.Touches start endpoint cell → grid.Clear cell
  length_le : length ≤ value
  le_length : ∀ bound, (∀ cell, grid.Touches start endpoint cell ∨
    grid.AcrossCorner start endpoint cell → grid.traversalCost cell ≤ bound) → value ≤ length * bound

variable {grid start endpoint}

/-- The axis of a coordinate that stays where it is. -/
def Axis.resting (value : K) : Axis K := ⟨⌊value⌋, onEdge value, 1, ⊤, ⊤⟩

theorem mem_cells_resting {value : K} {c : ℤ} : c ∈ (Axis.resting value).cells ↔ OnCell value c := by
  have htracks : (Axis.resting value).Tracks (fun _ => value) := .still (fun _ => rfl) rfl rfl
  have hnever (t : K) : ¬ (Axis.resting value).EnteredSince t := by
    rintro ⟨time, _, htime, _⟩
    cases htime
  constructor
  · intro hc
    exact htracks.onCell (t := 0) hc le_top (fun t ht => absurd ht (hnever t))
  · intro hc
    have hrecent : (Axis.resting value).Recent 0 := by
      intro time delta htime
      cases htime
    rcases htracks.mem_cells (t := 0) hc (WithTop.coe_lt_top 0) hrecent with hc | ⟨hsince, _⟩
    · exact hc
    · exact absurd hsince (hnever 0)

/-- A free point touches clear cells. -/
theorem clear_of_point {a b : ℤ} (h : (grid.clearCost ⌊x⌋ ⌊y⌋ (onEdge x) (onEdge y)).isNone = false)
    (ha : OnCell x a) (hb : OnCell y b) : grid.Clear ⟨a, b⟩ := by
  cases hcost : grid.clearCost ⌊x⌋ ⌊y⌋ (onEdge x) (onEdge y) with
  | none =>
    rw [hcost] at h
    cases h
  | some cost =>
    have hcost : grid.clearCost (Axis.resting x).cell (Axis.resting y).cell (Axis.resting x).edge
        (Axis.resting y).edge = some cost := hcost
    exact (clearCost_eq_some hcost).1 a (mem_cells_resting.2 ha) b (mem_cells_resting.2 hb)

/-- A point that is not free touches a cell that is not clear. -/
theorem not_clear_of_point (h : (grid.clearCost ⌊x⌋ ⌊y⌋ (onEdge x) (onEdge y)).isNone = true) :
    ∃ a b, OnCell x a ∧ OnCell y b ∧ ¬ grid.Clear ⟨a, b⟩ := by
  have hnone : grid.clearCost (Axis.resting x).cell (Axis.resting y).cell (Axis.resting x).edge
      (Axis.resting y).edge = none := Option.isNone_iff_eq_none.1 h
  obtain ⟨a, ha, b, hb, hblocked⟩ := clearCost_eq_none hnone
  exact ⟨a, b, mem_cells_resting.1 ha, mem_cells_resting.1 hb, hblocked⟩

/-- A free point lies in the range of the grid. -/
theorem range_of_point (h : (grid.clearCost ⌊x⌋ ⌊y⌋ (onEdge x) (onEdge y)).isNone = false) :
    ((grid.minimum.x : K) ≤ x ∧ x < grid.maximum.x + 1) ∧
      (grid.minimum.y : K) ≤ y ∧ y < grid.maximum.y + 1 := by
  have hon (value : K) : OnCell value ⌊value⌋ :=
    ⟨Int.floor_le value, (Int.lt_floor_add_one value).le⟩
  obtain ⟨⟨⟨hminX, hmaxX⟩, hminY, hmaxY⟩, _⟩ := clear_of_point h (hon x) (hon y)
  have hbound {value : K} {low high : ℤ} (hlow : low ≤ ⌊value⌋) (hhigh : ⌊value⌋ ≤ high) :
      (low : K) ≤ value ∧ value < high + 1 := by
    refine ⟨Int.le_floor.1 hlow, (Int.lt_floor_add_one value).trans_le ?_⟩
    have hcast : ((⌊value⌋ : ℤ) : K) ≤ high := Int.cast_le.2 hhigh
    linarith
  exact ⟨hbound hminX hmaxX, hbound hminY hmaxY⟩

/-- In a grid narrower than the tolerance allows, crossing a cell takes longer than it. -/
theorem wide_of_range {first last : K} {low high : ℤ} (hstarts : axis.Starts first (last - first))
    (hnarrow : high - low < 10 ^ 12) (hfirst : (low : K) ≤ first ∧ first < high + 1)
    (hlast : (low : K) ≤ last ∧ last < high + 1) :
    ∀ delta : K, axis.delta = delta → 1 / 10 ^ 12 < delta := by
  intro delta hdelta
  obtain ⟨hne, hvalue⟩ := hstarts.duration delta hdelta
  have hwidth : ((high - low : ℤ) : K) + 1 ≤ 10 ^ 12 := by
    have hle : high - low + 1 ≤ 10 ^ 12 := by omega
    have hcast : ((high - low + 1 : ℤ) : K) ≤ ((10 ^ 12 : ℤ) : K) := Int.cast_le.2 hle
    rw [Int.cast_add, Int.cast_one, Int.cast_pow, Int.cast_ofNat] at hcast
    exact hcast
  have habs : |last - first| < 10 ^ 12 := by
    push_cast at hwidth
    rw [abs_lt]
    constructor
    · linarith [hfirst.2, hlast.1]
    · linarith [hfirst.1, hlast.2]
  rw [hvalue]
  exact one_div_lt_one_div_of_lt (abs_pos.2 hne) habs

variable {first delta : K}

/-- The cell before the first one is touched by the start, if it was left there. -/
theorem Axis.Starts.onCell_before (h : axis.Starts first delta) (hsince : axis.EnteredSince 0) :
    OnCell first (axis.cell - axis.step) := by
  obtain ⟨time, duration, htime, hduration, hle⟩ := hsince
  have hstart : time = duration := by
    have hentered : time - duration ≤ 0 :=
      h.entered _ ⟨time, duration, htime, hduration, le_refl _⟩
    linarith
  have hfirst : first = first + 0 * delta := by ring
  cases h.tracks with
  | still => cases htime
  | @moving cell step time' duration' hstep hpos hposition =>
    obtain rfl : time' = time := WithTop.coe_injective htime
    obtain rfl : duration' = duration := WithTop.coe_injective hduration
    have hratio : (0 - time') / duration' = -1 := by
      rw [hstart, zero_sub, neg_div, div_self hpos.ne']
    rw [hfirst, hposition, hratio]
    rcases hstep with rfl | rfl
    · constructor
      · push_cast
        linarith
      · push_cast
        linarith
    · constructor
      · push_cast
        linarith
      · push_cast
        linarith

theorem Axis.Starts.within (h : axis.Starts first delta) : axis.Within (⌊|delta|⌋.toNat + 1) := by
  intro time duration htime hduration
  obtain ⟨hne, hvalue⟩ := h.duration duration hduration
  have htimePos : 0 < time := WithTop.coe_lt_coe.1 (htime ▸ h.ahead)
  have hpos : 0 < |delta| := abs_pos.2 hne
  have hcount : |delta| ≤ ((⌊|delta|⌋.toNat + 1 : ℕ) : K) := by
    have hfloor : ((⌊|delta|⌋.toNat : ℤ) : K) = ⌊|delta|⌋ := by
      rw [Int.toNat_of_nonneg (Int.floor_nonneg.2 hpos.le)]
    push_cast at hfloor ⊢
    rw [hfloor]
    exact (Int.lt_floor_add_one _).le
  have hall : 1 ≤ ((⌊|delta|⌋.toNat + 1 : ℕ) : K) * duration := by
    rw [hvalue, mul_one_div]
    exact (one_le_div hpos).2 hcount
  linarith

/-- The first corridor of a segment between free points. -/
theorem inCorridor_start {sx sy dx dy : K} (hX : axisX.Starts sx dx) (hY : axisY.Starts sy dy)
    (hfree : (grid.clearCost ⌊sx⌋ ⌊sy⌋ (onEdge sx) (onEdge sy)).isNone = false)
    (hwideX : ∀ delta : K, axisX.delta = delta → 1 / 10 ^ 12 < delta)
    (hwideY : ∀ delta : K, axisY.delta = delta → 1 / 10 ^ 12 < delta) :
    InCorridor grid (fun t => sx + t * dx) (fun t => sy + t * dy) axisX axisY 0 := by
  have hat {axis : Axis K} {first delta : K} (h : axis.Starts first delta) {c : ℤ}
      (hc : c ∈ axis.cells) : OnCell (first + 0 * delta) c :=
    h.tracks.onCell hc h.ahead.le h.entered
  have hhere {axis : Axis K} {first delta : K} (h : axis.Starts first delta) {c : ℤ}
      (hc : c ∈ axis.cells) : OnCell first c := by
    have hon := hat h hc
    rwa [zero_mul, add_zero] at hon
  exact {
    tracksX := hX.tracks, tracksY := hY.tracks
    wideX := hwideX, wideY := hwideY
    nonneg := le_refl 0
    aheadX := hX.ahead, aheadY := hY.ahead
    recentX := hX.recent, recentY := hY.recent
    orderX := fun t ht => (WithTop.coe_le_coe.2 (hX.entered t ht)).trans_lt hY.ahead
    orderY := fun t ht => (WithTop.coe_le_coe.2 (hY.entered t ht)).trans_lt hX.ahead
    besideX := fun hsince b hb => clear_of_point hfree (hX.onCell_before hsince) (hhere hY hb)
    besideY := fun hsince a ha => clear_of_point hfree (hhere hX ha) (hY.onCell_before hsince)
    behind := fun hsince hsince' =>
      clear_of_point hfree (hX.onCell_before hsince) (hY.onCell_before hsince')
    reached := fun a ha b hb => .inl ⟨0, le_refl 0, zero_le_one, hat hX ha, hat hY hb⟩ }

section Cost

variable (metric : Metric K)

/-- The loop of `segment_cost`, as it is called. -/
def segmentRun (grid : NavigationCostGrid K) (start endpoint : PlanarVector K) (fuel : ℕ) :
    Option (Option K) :=
  grid.segmentLoop (metric.hypot (endpoint.x - start.x) (endpoint.y - start.y)) fuel
    (axisFor (start.x / grid.cellSize) (endpoint.x / grid.cellSize - start.x / grid.cellSize))
    (axisFor (start.y / grid.cellSize) (endpoint.y / grid.cellSize - start.y / grid.cellSize)) 0 0

/-- A point is on free cells only. -/
def Free (grid : NavigationCostGrid K) (point : PlanarVector K) : Prop :=
  (grid.clearCost ⌊point.x / grid.cellSize⌋ ⌊point.y / grid.cellSize⌋
    (onEdge (point.x / grid.cellSize)) (onEdge (point.y / grid.cellSize))).isNone = false

/-- The fuel it is given. -/
def segmentFuel (grid : NavigationCostGrid K) (start endpoint : PlanarVector K) : ℕ :=
  (⌊|endpoint.x / grid.cellSize - start.x / grid.cellSize|⌋ +
    ⌊|endpoint.y / grid.cellSize - start.y / grid.cellSize|⌋ + 4).toNat

omit [IsStrictOrderedRing K] in
/-- The cost of a segment: none off the free cells, zero for a point, or what the loop answers. -/
theorem segmentCost_cases (grid : NavigationCostGrid K) (start endpoint : PlanarVector K) :
    (¬ (grid.Free start ∧ grid.Free endpoint) ∧ grid.segmentCost metric start endpoint = none) ∨
      grid.Free start ∧ grid.Free endpoint ∧
        ((metric.hypot (endpoint.x - start.x) (endpoint.y - start.y) = 0 ∧
          grid.segmentCost metric start endpoint = some 0) ∨
        grid.segmentCost metric start endpoint =
          (segmentRun metric grid start endpoint (grid.segmentFuel start endpoint)).getD none) := by
  unfold segmentCost Free segmentRun segmentFuel
  dsimp only
  split
  · rename_i hblocked
    refine .inl ⟨?_, rfl⟩
    rintro ⟨hstart, hend⟩
    rw [hstart, hend] at hblocked
    cases hblocked
  · rename_i hfree
    rw [Bool.not_eq_true, Bool.or_eq_false_iff] at hfree
    refine .inr ⟨hfree.1, hfree.2, ?_⟩
    split
    · rename_i hzero
      exact .inl ⟨hzero, rfl⟩
    · exact .inr rfl

/-- Enough fuel ends the loop. -/
theorem segmentRun_ends {fuel : ℕ}
    (h : (⌊|endpoint.x / grid.cellSize - start.x / grid.cellSize|⌋.toNat + 1) +
      (⌊|endpoint.y / grid.cellSize - start.y / grid.cellSize|⌋.toNat + 1) < fuel) :
    (segmentRun metric grid start endpoint fuel).isSome = true :=
  segmentLoop_ends fuel (starts_axisFor _ _).tracks (starts_axisFor _ _).tracks
    (starts_axisFor _ _).within (starts_axisFor _ _).within h

/-- What the loop answers between free points. -/
theorem segmentRun_settles (hnarrow : grid.maximum.x - grid.minimum.x < 10 ^ 12 ∧
      grid.maximum.y - grid.minimum.y < 10 ^ 12)
    (hstart : grid.Free start) (hend : grid.Free endpoint) {fuel : ℕ}
    (h : segmentRun metric grid start endpoint fuel = some outcome) :
    Settles grid (grid.along start.x endpoint.x) (grid.along start.y endpoint.y)
      (metric.hypot (endpoint.x - start.x) (endpoint.y - start.y)) 0 0 outcome := by
  obtain ⟨hfirstX, hfirstY⟩ := range_of_point hstart
  obtain ⟨hlastX, hlastY⟩ := range_of_point hend
  have hX := starts_axisFor (start.x / grid.cellSize)
    (endpoint.x / grid.cellSize - start.x / grid.cellSize)
  have hY := starts_axisFor (start.y / grid.cellSize)
    (endpoint.y / grid.cellSize - start.y / grid.cellSize)
  rw [along_eq, along_eq]
  exact segmentLoop_settles (metric.hypot_nonneg _ _) fuel outcome
    (inCorridor_start hX hY hstart (wide_of_range hX hnarrow.1 hfirstX hlastX)
      (wide_of_range hY hnarrow.2 hfirstY hlastY)) one_pos h

omit [IsStrictOrderedRing K] [FloorRing K] in
/-- At the start and at the end, a segment is where its ends are. -/
theorem along_zero (first last : K) : grid.along first last 0 = first / grid.cellSize := by
  rw [along, zero_mul, add_zero]

omit [IsStrictOrderedRing K] [FloorRing K] in
theorem along_one (first last : K) : grid.along first last 1 = last / grid.cellSize := by
  rw [along, one_mul, add_sub_cancel]

/-- An end that is not free touches a cell that is not clear. -/
theorem touches_of_not_free (h : ¬ (grid.Free start ∧ grid.Free endpoint)) :
    ∃ cell, grid.Touches start endpoint cell ∧ ¬ grid.Clear cell := by
  rw [not_and_or] at h
  rcases h with h | h
  · obtain ⟨a, b, ha, hb, hblocked⟩ := not_clear_of_point (Bool.eq_true_of_not_eq_false h)
    refine ⟨⟨a, b⟩, ⟨0, le_refl 0, zero_le_one, ?_, ?_⟩, hblocked⟩
    · rwa [along_zero]
    · rwa [along_zero]
  · obtain ⟨a, b, ha, hb, hblocked⟩ := not_clear_of_point (Bool.eq_true_of_not_eq_false h)
    refine ⟨⟨a, b⟩, ⟨1, zero_le_one, le_refl 1, ?_, ?_⟩, hblocked⟩
    · rwa [along_one]
    · rwa [along_one]

/-- **The cost of a segment certifies its corridor.**  The loop ends; a cost is between the length
and the length at the dearest cell touched or across a corner, and every cell touched is clear; no
cost means that a touched cell, or one beside or across a corner, is not. -/
theorem segmentCost_certifies (hnarrow : grid.maximum.x - grid.minimum.x < 10 ^ 12 ∧
      grid.maximum.y - grid.minimum.y < 10 ^ 12) :
    (∃ fuel, ∀ more, fuel ≤ more → (segmentRun metric grid start endpoint more).isSome = true) ∧
    (∀ value, grid.segmentCost metric start endpoint = some value →
      grid.CertifiedCost start endpoint
        (metric.hypot (endpoint.x - start.x) (endpoint.y - start.y)) value) ∧
    (grid.segmentCost metric start endpoint = none → ∃ cell,
      (grid.Touches start endpoint cell ∨ grid.AcrossCorner start endpoint cell ∨
        grid.BesideCorner start endpoint cell) ∧ ¬ grid.Clear cell) := by
  refine ⟨⟨_, fun more hmore => segmentRun_ends metric (Nat.lt_of_succ_le hmore)⟩, ?_, ?_⟩
  · intro value hvalue
    rcases segmentCost_cases metric grid start endpoint with
      ⟨_, hnone⟩ | ⟨hstart, hend, ⟨hzero, hcost⟩ | hrun⟩
    · rw [hnone] at hvalue
      cases hvalue
    · rw [hcost] at hvalue
      cases hvalue
      obtain ⟨hx, hy⟩ := (metric.hypot_eq_zero _ _).1 hzero
      refine ⟨?_, hzero.le, fun bound _ => by rw [hzero, zero_mul]⟩
      rintro cell ⟨t, _, _, ha, hb⟩
      rw [along, hx, mul_zero, add_zero] at ha
      rw [along, hy, mul_zero, add_zero] at hb
      exact clear_of_point hstart ha hb
    · rw [hrun] at hvalue
      cases hloop : segmentRun metric grid start endpoint (grid.segmentFuel start endpoint) with
      | none =>
        rw [hloop] at hvalue
        cases hvalue
      | some outcome =>
        rw [hloop, Option.getD_some] at hvalue
        rw [hvalue] at hloop
        have hsettles : Certified grid _ _ _ 0 0 value :=
          segmentRun_settles metric hnarrow hstart hend hloop
        refine ⟨?_, ?_, fun bound hcells => ?_⟩
        · rintro cell ⟨t, ht, htend, ha, hb⟩
          rcases lt_or_eq_of_le htend with hlt | heq
          · exact hsettles.covered t ht hlt _ _ ha hb
          · rw [heq, along_one] at ha hb
            exact clear_of_point hend ha hb
        · have hlow := hsettles.low
          rwa [zero_add, sub_zero, one_mul] at hlow
        · have hhigh := hsettles.high bound (fun a b hab => hcells ⟨a, b⟩ hab)
          rwa [zero_add, sub_zero, one_mul] at hhigh
  · intro hnone
    rcases segmentCost_cases metric grid start endpoint with
      ⟨hblocked, _⟩ | ⟨hstart, hend, ⟨_, hcost⟩ | hrun⟩
    · obtain ⟨cell, htouched, hcell⟩ := touches_of_not_free hblocked
      exact ⟨cell, .inl htouched, hcell⟩
    · rw [hcost] at hnone
      cases hnone
    · rw [hrun] at hnone
      have hfuel : (⌊|endpoint.x / grid.cellSize - start.x / grid.cellSize|⌋.toNat + 1) +
          (⌊|endpoint.y / grid.cellSize - start.y / grid.cellSize|⌋.toNat + 1) <
            grid.segmentFuel start endpoint := by
        have hX : 0 ≤ ⌊|endpoint.x / grid.cellSize - start.x / grid.cellSize|⌋ :=
          Int.floor_nonneg.2 (abs_nonneg _)
        have hY : 0 ≤ ⌊|endpoint.y / grid.cellSize - start.y / grid.cellSize|⌋ :=
          Int.floor_nonneg.2 (abs_nonneg _)
        unfold segmentFuel
        omega
      have hends := segmentRun_ends metric hfuel
      obtain ⟨outcome, houtcome⟩ := Option.isSome_iff_exists.1 hends
      rw [houtcome, Option.getD_some] at hnone
      rw [hnone] at houtcome
      obtain ⟨a, b, hcell, hblocked⟩ : GivenUp grid _ _ :=
        segmentRun_settles metric hnarrow hstart hend houtcome
      exact ⟨⟨a, b⟩, hcell, hblocked⟩

end Cost

end Certificate

/-! ### A corner passed almost at once -/

/-- Four cells, of which the upper right one is blocked. -/
def cornerGrid : NavigationCostGrid ℚ where
  cellSize := 1
  minimum := ⟨0, 0⟩
  maximum := ⟨1, 1⟩
  blocked := {⟨1, 1⟩}
  costs := [(⟨1, 0⟩, 3)]
  cellSize_pos := one_pos
  ordered := by decide
  blocked_inside := by decide
  costs_inside := by decide
  costs_nodup := by decide
  costs_ok := by decide +kernel

/-- The middle of the lower left cell. -/
def cornerStart : PlanarVector ℚ := ⟨1 / 2, 1 / 2⟩

/-- A point of the lower right cell, just below the upper one. -/
def cornerEnd : PlanarVector ℚ :=
  ⟨1 / 2 + (10 ^ 13 + 1) / (2 * 10 ^ 13), 1 / 2 + (10 ^ 13 - 1) / (2 * 10 ^ 13)⟩

/-- The middle of the lower right cell. -/
def cornerRight : PlanarVector ℚ := ⟨3 / 2, 1 / 2⟩

/-- The way to the right is certified at the cost of its cells. -/
theorem segmentCost_certifies_right :
    cornerGrid.segmentCost Metric.axial cornerStart cornerRight = some 2 ∧
      cornerGrid.CertifiedCost cornerStart cornerRight
        (Metric.axial.hypot (cornerRight.x - cornerStart.x) (cornerRight.y - cornerStart.y)) 2 :=
  ⟨by decide +kernel,
    (segmentCost_certifies Metric.axial (by decide)).2.1 2 (by decide +kernel)⟩

theorem along_corner_x (t : ℚ) : cornerGrid.along cornerStart.x cornerEnd.x t =
    1 / 2 + t * ((10 ^ 13 + 1) / (2 * 10 ^ 13)) := by
  unfold along cornerGrid cornerStart cornerEnd
  ring

theorem along_corner_y (t : ℚ) : cornerGrid.along cornerStart.y cornerEnd.y t =
    1 / 2 + t * ((10 ^ 13 - 1) / (2 * 10 ^ 13)) := by
  unfold along cornerGrid cornerStart cornerEnd
  ring

theorem clear_lower {a : ℤ} (ha : a = 0 ∨ a = 1) : cornerGrid.Clear ⟨a, 0⟩ := by
  rcases ha with rfl | rfl
  · exact ⟨by decide, by decide⟩
  · exact ⟨by decide, by decide⟩

/-- The segment stays in the lower cells. -/
theorem clear_of_touches_corner (h : cornerGrid.Touches cornerStart cornerEnd cell) :
    cornerGrid.Clear cell := by
  obtain ⟨t, hstart, hend, ⟨hleft, hright⟩, hbottom, htop⟩ := h
  rw [along_corner_x] at hleft hright
  rw [along_corner_y] at hbottom htop
  have hx : t * ((10 ^ 13 + 1) / (2 * 10 ^ 13)) ≤ 3 / 5 := by linarith
  have hx' : 0 ≤ t * ((10 ^ 13 + 1) / (2 * 10 ^ 13)) := by linarith
  have hy : t * ((10 ^ 13 - 1) / (2 * 10 ^ 13)) < 1 / 2 := by linarith
  have hy' : 0 ≤ t * ((10 ^ 13 - 1) / (2 * 10 ^ 13)) := by linarith
  have hxlow : (-1 : ℚ) < cell.x := by linarith
  have hxhigh : (cell.x : ℚ) < 2 := by linarith
  have hylow : (-1 : ℚ) < cell.y := by linarith
  have hyhigh : (cell.y : ℚ) < 1 := by linarith
  have hcolumn : cell.x = 0 ∨ cell.x = 1 := by
    have hlow : -1 < cell.x := by exact_mod_cast hxlow
    have hhigh : cell.x < 2 := by exact_mod_cast hxhigh
    omega
  have hrow : cell.y = 0 := by
    have hlow : -1 < cell.y := by exact_mod_cast hylow
    have hhigh : cell.y < 1 := by exact_mod_cast hyhigh
    omega
  obtain ⟨x, y⟩ := cell
  obtain rfl : y = 0 := hrow
  exact clear_lower hcolumn

/-- A coordinate that rises slowly enters the second cell, if any, in time. -/
theorem enters_second {position : ℚ → ℚ} {slope time : ℚ} {left entered : ℤ}
    (hposition : ∀ t, position t = 1 / 2 + t * slope) (hslope : 2 / 5 < slope ∧ slope < 3 / 5)
    (htime : 0 ≤ time ∧ time < 2) (h : Enters position time left entered) :
    left = 0 ∧ entered = 1 := by
  have hlow : 0 ≤ time * slope := mul_nonneg htime.1 (by linarith [hslope.1])
  have hhigh : time * slope < 6 / 5 := by nlinarith [hslope.1, hslope.2, htime.1, htime.2]
  rcases h with ⟨rfl, hboundary, _⟩ | ⟨_, _, hfalls⟩
  · rw [hposition] at hboundary
    have hpos : (0 : ℚ) < ((left + 1 : ℤ) : ℚ) := by linarith
    have hlt : ((left + 1 : ℤ) : ℚ) < 2 := by linarith
    have hpos : 0 < left + 1 := by exact_mod_cast hpos
    have hlt : left + 1 < 2 := by exact_mod_cast hlt
    omega
  · rw [hposition, hposition] at hfalls
    linarith [hslope.1]

/-- **A segment that just avoids a blocked cell has no cost**, though the cells it touches and those
beside the corner it passes are clear. -/
theorem segmentCost_overcautious :
    cornerGrid.segmentCost Metric.axial cornerStart cornerEnd = none ∧
      ∀ cell, cornerGrid.Touches cornerStart cornerEnd cell ∨
        cornerGrid.BesideCorner cornerStart cornerEnd cell → cornerGrid.Clear cell := by
  refine ⟨by decide +kernel, ?_⟩
  rintro ⟨a, b⟩ (htouched | ⟨timeX, timeY, leftX, enteredX, leftY, enteredY, hX, hY, hclose, hstart,
    hend, hside⟩)
  · exact clear_of_touches_corner htouched
  · obtain ⟨hnear, hnear'⟩ := abs_le.1 hclose
    obtain ⟨hX0, hY0⟩ := le_min_iff.1 hstart
    have hsoon : timeX < 2 ∧ timeY < 2 := by
      rcases min_lt_iff.1 hend with hlt | hlt
      · constructor
        · linarith
        · linarith
      · constructor
        · linarith
        · linarith
    obtain ⟨rfl, rfl⟩ := enters_second along_corner_x (by norm_num) ⟨hX0, hsoon.1⟩ hX
    obtain ⟨rfl, rfl⟩ := enters_second along_corner_y (by norm_num) ⟨hY0, hsoon.2⟩ hY
    rcases hside with ⟨ha, hb⟩ | ⟨ha, hb⟩
    · obtain rfl : a = 1 := ha
      obtain rfl : b = 0 := hb
      exact clear_lower (.inr rfl)
    · obtain rfl : a = 0 := ha
      obtain rfl : b = 1 := hb
      exact ⟨by decide, by decide⟩

end NavigationCostGrid

end ShadowbaneLab
