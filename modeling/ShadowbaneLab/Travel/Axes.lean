/-
# Coordinates of a segment

A coordinate is tracked along a segment by the cell it is in, the time of its next boundary and the
time between boundaries (`Axis.Tracks`).  Two coordinates make a `Corridor`: what it stands in may
be charged for, what it has just left is clear, and one or both coordinates pass a boundary.
-/
import ShadowbaneLab.Travel.Segments

namespace ShadowbaneLab

open Foundation

variable {K : Type} [Field K] [LinearOrder K] [IsStrictOrderedRing K] [FloorRing K]

namespace NavigationCostGrid

/-! ## One coordinate -/

/-- A coordinate touches a closed cell. -/
def OnCell (value : K) (cell : ℤ) : Prop := (cell : K) ≤ value ∧ value ≤ cell + 1

/-- A coordinate passes a boundary at a time, out of one cell and into another one. -/
def Enters (position : K → K) (time : K) (left entered : ℤ) : Prop :=
  (entered = left + 1 ∧ position time = entered ∧ position 0 < position 1) ∨
    (entered = left - 1 ∧ position time = left ∧ position 1 < position 0)

/-- The cells of a coordinate that an axis stands in. -/
def Axis.cells (axis : Axis K) : List ℤ :=
  if axis.edge then [axis.cell - 1, axis.cell] else [axis.cell]

/-- An axis has entered its cell at a time or later. -/
def Axis.EnteredSince (axis : Axis K) (t : K) : Prop :=
  ∃ time delta : K, axis.time = time ∧ axis.delta = delta ∧ t ≤ time - delta

/-- An axis had not entered the cell before its cell by a time. -/
def Axis.Recent (axis : Axis K) (t : K) : Prop :=
  ∀ time delta : K, axis.time = time → axis.delta = delta → time - 2 * delta < t

/-- An axis tells where a coordinate is and when it passes the next boundary. -/
inductive Axis.Tracks (position : K → K) : Axis K → Prop
  | still {cell step : ℤ} {edge : Bool} (hposition : ∀ t, position t = position 0)
      (hcell : cell = ⌊position 0⌋) (hedge : edge = onEdge (position 0)) :
      Tracks position ⟨cell, edge, step, ⊤, ⊤⟩
  | moving {cell step : ℤ} {time delta : K} (hstep : step = 1 ∨ step = -1) (hdelta : 0 < delta)
      (hposition : ∀ t, position t = cell + (1 + step) / 2 + step * ((t - time) / delta)) :
      Tracks position ⟨cell, false, step, time, delta⟩

variable {time : K}

namespace Axis.Tracks

variable {position : K → K} {axis : Axis K} {t : K}

/-- A coordinate touches no other cells than its own and, when it enters it, the one before. -/
theorem mem_cells (h : axis.Tracks position) {c : ℤ} (htouch : OnCell (position t) c)
    (hahead : (t : WithTop K) < axis.time) (hrecent : axis.Recent t) :
    c ∈ axis.cells ∨ axis.EnteredSince t ∧ c = axis.cell - axis.step := by
  obtain ⟨hlow, hhigh⟩ := htouch
  cases h with
  | still hposition hcell hedge =>
    left
    rw [hposition] at hlow hhigh
    have hfloor : c ≤ ⌊position 0⌋ := Int.le_floor.2 hlow
    have hle : ⌊position 0⌋ ≤ c + 1 := by
      have hcast : ((⌊position 0⌋ : ℤ) : K) ≤ ((c + 1 : ℤ) : K) := by
        push_cast
        exact (Int.floor_le _).trans hhigh
      exact_mod_cast hcast
    rcases eq_or_lt_of_le hle with heq | hlt
    · -- the point is on the upper boundary of the cell
      have honEdge : onEdge (position 0) = true := by
        refine decide_eq_true (le_antisymm ?_ (Int.floor_le _))
        rw [heq]
        push_cast
        exact hhigh
      rw [Axis.cells, hedge, honEdge, if_pos rfl, hcell, heq, add_sub_cancel_right]
      exact List.mem_cons_self
    · have hc : c = ⌊position 0⌋ := by omega
      rw [Axis.cells, hcell, hc]
      split
      · exact List.mem_cons_of_mem _ List.mem_cons_self
      · exact List.mem_cons_self
  | @moving cell step time delta hstep hdelta hposition =>
    have hlt : t < time := WithTop.coe_lt_coe.1 hahead
    have hwithin : time - 2 * delta < t := hrecent time delta rfl rfl
    have hu : 0 < (time - t) / delta := div_pos (sub_pos.2 hlt) hdelta
    have hu' : (time - t) / delta < 2 := by
      rw [div_lt_iff₀ hdelta]
      linarith
    have hsince (hone : 1 ≤ (time - t) / delta) : t ≤ time - delta := by
      rw [one_le_div hdelta] at hone
      linarith
    have hneg : (t - time) / delta = -((time - t) / delta) := by ring
    rw [hposition, hneg] at hlow hhigh
    rcases hstep with rfl | rfl
    · push_cast at hlow hhigh
      have hupper : c < cell + 1 := by
        have hcast : (c : K) < ((cell + 1 : ℤ) : K) := by
          push_cast
          linarith
        exact_mod_cast hcast
      have hlower : cell - 2 < c := by
        have hcast : ((cell - 2 : ℤ) : K) < c := by
          push_cast
          linarith
        exact_mod_cast hcast
      rcases (show c = cell ∨ c = cell - 1 by omega) with rfl | rfl
      · exact .inl List.mem_cons_self
      · refine .inr ⟨⟨time, delta, rfl, rfl, hsince ?_⟩, rfl⟩
        push_cast at hhigh
        linarith
    · push_cast at hlow hhigh
      have hupper : c < cell + 2 := by
        have hcast : (c : K) < ((cell + 2 : ℤ) : K) := by
          push_cast
          linarith
        exact_mod_cast hcast
      have hlower : cell - 1 < c := by
        have hcast : ((cell - 1 : ℤ) : K) < c := by
          push_cast
          linarith
        exact_mod_cast hcast
      rcases (show c = cell ∨ c = cell + 1 by omega) with rfl | rfl
      · exact .inl List.mem_cons_self
      · refine .inr ⟨⟨time, delta, rfl, rfl, hsince ?_⟩, (sub_neg_eq_add cell 1).symm⟩
        push_cast at hlow
        linarith

/-- From its entry to its next boundary, a coordinate touches the cells of its axis. -/
theorem onCell (h : axis.Tracks position) {c : ℤ} (hc : c ∈ axis.cells)
    (hahead : (t : WithTop K) ≤ axis.time) (hentered : ∀ t', axis.EnteredSince t' → t' ≤ t) :
    OnCell (position t) c := by
  cases h with
  | @still cell step edge hposition hcell hedge =>
    rw [hposition]
    have hbelow := Int.floor_le (position 0)
    have habove := Int.lt_floor_add_one (position 0)
    unfold Axis.cells at hc
    dsimp only at hc
    split at hc
    · rename_i hedged
      rw [hedge] at hedged
      have hon : position 0 = (⌊position 0⌋ : K) := of_decide_eq_true hedged
      rcases List.mem_cons.1 hc with rfl | hc
      · rw [hcell]
        constructor
        · push_cast
          linarith
        · push_cast
          linarith
      · rw [List.mem_singleton.1 hc, hcell]
        exact ⟨hbelow, habove.le⟩
    · rw [List.mem_singleton.1 hc, hcell]
      exact ⟨hbelow, habove.le⟩
  | @moving cell step time delta hstep hdelta hposition =>
    obtain rfl : c = cell := List.mem_singleton.1 hc
    have hle : t ≤ time := WithTop.coe_le_coe.1 hahead
    have hsince : time - delta ≤ t := hentered _ ⟨time, delta, rfl, rfl, le_refl _⟩
    have hu : 0 ≤ (time - t) / delta := div_nonneg (sub_nonneg.2 hle) hdelta.le
    have hu' : (time - t) / delta ≤ 1 := by
      rw [div_le_one hdelta]
      linarith
    have hneg : (t - time) / delta = -((time - t) / delta) := by ring
    rw [hposition, hneg]
    rcases hstep with rfl | rfl
    · constructor
      · push_cast
        linarith
      · push_cast
        linarith
    · constructor
      · push_cast
        linarith
      · push_cast
        linarith

/-- The next cell is entered at the time of the boundary. -/
theorem enters (h : axis.Tracks position) (htime : axis.time = time) :
    Enters position time axis.cell (axis.cell + axis.step) := by
  cases h with
  | still => cases htime
  | @moving cell step time' delta hstep hdelta hposition =>
    obtain rfl : time' = time := WithTop.coe_injective htime
    have hone : (1 - time') / delta - (0 - time') / delta = 1 / delta := by ring
    have hpos : 0 < 1 / delta := one_div_pos.2 hdelta
    rcases hstep with rfl | rfl
    · refine .inl ⟨rfl, ?_, ?_⟩
      · rw [hposition, sub_self, zero_div]
        push_cast
        ring
      · rw [hposition, hposition]
        push_cast
        linarith
    · refine .inr ⟨by ring, ?_, ?_⟩
      · rw [hposition, sub_self, zero_div]
        push_cast
        ring
      · rw [hposition, hposition]
        push_cast
        linarith

omit [IsStrictOrderedRing K] in
theorem cross (h : axis.Tracks position) (htime : axis.time = time) :
    axis.cross.Tracks position := by
  cases h with
  | still => cases htime
  | @moving cell step time' delta hstep hdelta hposition =>
    show Axis.Tracks position
      ⟨cell + step, false, step, ((time' + delta : K) : WithTop K), (delta : WithTop K)⟩
    refine .moving hstep hdelta (fun t => ?_)
    rw [hposition]
    push_cast
    field_simp
    ring

end Axis.Tracks

/-! ### Where a coordinate starts -/

section Start

variable (start delta : K)

/-- Downwards, the first cell is the one below the start. -/
theorem axisFor_falling (h : delta < 0) : ∃ cell : ℤ, (cell : K) < start ∧ start ≤ cell + 1 ∧
    axisFor start delta = ⟨cell, false, -1, ((cell - start) / delta : K), (1 / -delta : K)⟩ := by
  have hbelow := Int.floor_le start
  have habove := Int.lt_floor_add_one start
  have hfor : axisFor start delta = ⟨⌊start⌋ - if onEdge start then 1 else 0, false, -1,
      (((⌊start⌋ - if onEdge start then 1 else 0 : ℤ) - start) / delta : K), (1 / -delta : K)⟩ := by
    unfold axisFor
    simp only [h, h.ne, h.not_gt, abs_of_neg h, decide_true, decide_false, Bool.true_and,
      Bool.false_and, if_false, add_zero]
  refine ⟨_, ?_, ?_, hfor⟩
  · split
    · push_cast
      linarith
    · rename_i hoff
      have hne : (⌊start⌋ : K) ≠ start := fun heq => hoff (decide_eq_true heq.symm)
      rw [sub_zero]
      exact lt_of_le_of_ne hbelow hne
  · split
    · rename_i hon
      have heq : start = (⌊start⌋ : K) := of_decide_eq_true hon
      push_cast
      linarith
    · rw [sub_zero]
      exact habove.le

/-- Upwards, the first cell is the one above the start. -/
theorem axisFor_rising (h : 0 < delta) : ∃ cell : ℤ, (cell : K) ≤ start ∧ start < cell + 1 ∧
    axisFor start delta = ⟨cell, false, 1, ((cell + 1 - start) / delta : K), (1 / delta : K)⟩ := by
  refine ⟨⌊start⌋, Int.floor_le start, Int.lt_floor_add_one start, ?_⟩
  unfold axisFor
  simp only [h, h.ne', h.not_gt, abs_of_pos h, decide_false, Bool.false_and, if_false, if_true,
    Bool.false_eq_true, sub_zero]

omit [IsStrictOrderedRing K] in
theorem axisFor_still (h : delta = 0) :
    axisFor start delta = ⟨⌊start⌋, onEdge start, -1, ⊤, ⊤⟩ := by
  unfold axisFor
  simp only [h, lt_irrefl, decide_true, decide_false, Bool.true_and, Bool.false_and, if_false,
    if_true, Bool.false_eq_true, sub_zero]

/-- What an axis is when a segment starts: it tracks its coordinate, has not entered its cell
since, and needs a time for each cell. -/
structure Axis.Starts (axis : Axis K) (start delta : K) : Prop where
  tracks : axis.Tracks (fun t => start + t * delta)
  ahead : ((0 : K) : WithTop K) < axis.time
  entered : ∀ t, axis.EnteredSince t → t ≤ 0
  duration : ∀ duration : K, axis.delta = duration → delta ≠ 0 ∧ duration = 1 / |delta|

theorem starts_axisFor : (axisFor start delta).Starts start delta := by
  rcases lt_trichotomy delta 0 with hneg | hzero | hpos
  · obtain ⟨cell, hbelow, habove, hfor⟩ := axisFor_falling start delta hneg
    rw [hfor]
    refine ⟨.moving (.inr rfl) (one_div_pos.2 (neg_pos.2 hneg)) (fun t => ?_), ?_, ?_, ?_⟩
    · have hne : delta ≠ 0 := hneg.ne
      push_cast
      field_simp
      ring
    · rw [WithTop.coe_lt_coe]
      exact div_pos_of_neg_of_neg (sub_neg.2 hbelow) hneg
    · rintro t ⟨time, duration, htime, hduration, hle⟩
      rw [← WithTop.coe_injective htime, ← WithTop.coe_injective hduration, div_neg, sub_neg_eq_add,
        ← add_div] at hle
      refine hle.trans (div_nonpos_of_nonneg_of_nonpos ?_ hneg.le)
      linarith
    · intro duration hduration
      rw [abs_of_neg hneg]
      exact ⟨hneg.ne, (WithTop.coe_injective hduration).symm⟩
  · rw [axisFor_still start delta hzero]
    refine ⟨.still (fun t => ?_) ?_ ?_, WithTop.coe_lt_top _, ?_, ?_⟩
    · rw [hzero, mul_zero, mul_zero]
    · rw [zero_mul, add_zero]
    · rw [zero_mul, add_zero]
    · rintro t ⟨time, duration, htime, _⟩
      cases htime
    · intro duration hduration
      cases hduration
  · obtain ⟨cell, hbelow, habove, hfor⟩ := axisFor_rising start delta hpos
    rw [hfor]
    refine ⟨.moving (.inl rfl) (one_div_pos.2 hpos) (fun t => ?_), ?_, ?_, ?_⟩
    · have hne : delta ≠ 0 := hpos.ne'
      push_cast
      field_simp
      ring
    · rw [WithTop.coe_lt_coe]
      exact div_pos (sub_pos.2 habove) hpos
    · rintro t ⟨time, duration, htime, hduration, hle⟩
      rw [← WithTop.coe_injective htime, ← WithTop.coe_injective hduration, ← sub_div] at hle
      refine hle.trans (div_nonpos_of_nonpos_of_nonneg ?_ hpos.le)
      linarith
    · intro duration hduration
      rw [abs_of_pos hpos]
      exact ⟨hpos.ne', (WithTop.coe_injective hduration).symm⟩

variable {start delta} {axis : Axis K}

theorem Axis.Starts.recent (h : axis.Starts start delta) : axis.Recent 0 := by
  intro time duration htime hduration
  have hfirst : time - duration ≤ 0 := h.entered _ ⟨time, duration, htime, hduration, le_refl _⟩
  obtain ⟨hne, hvalue⟩ := h.duration duration hduration
  have hpos : 0 < duration := by
    rw [hvalue]
    exact one_div_pos.2 (abs_pos.2 hne)
  linarith

end Start

/-! ## Two coordinates -/

/-- The next boundaries are passed at almost the same time. -/
def AtOnce (time time' : K) : Prop := |time - time'| ≤ 1 / 10 ^ 12

/-- A cell beside a corner that both coordinates pass at almost the same time, entered in one
coordinate only. -/
def Beside (posX posY : K → K) (a b : ℤ) : Prop :=
  ∃ timeX timeY leftX enteredX leftY enteredY, Enters posX timeX leftX enteredX ∧
    Enters posY timeY leftY enteredY ∧ AtOnce timeX timeY ∧ 0 ≤ min timeX timeY ∧
    min timeX timeY < 1 ∧ (a = enteredX ∧ b = leftY ∨ a = leftX ∧ b = enteredY)

/-- The cell across such a corner, entered in both coordinates. -/
def Across (posX posY : K → K) (a b : ℤ) : Prop :=
  ∃ timeX timeY leftX leftY, Enters posX timeX leftX a ∧ Enters posY timeY leftY b ∧
    AtOnce timeX timeY ∧ 0 ≤ min timeX timeY ∧ min timeX timeY < 1

/-- A point of the segment touches a cell. -/
def Touching (posX posY : K → K) (a b : ℤ) : Prop :=
  ∃ t, 0 ≤ t ∧ t ≤ 1 ∧ OnCell (posX t) a ∧ OnCell (posY t) b

section Corridor

variable {Clear Reached : ℤ → ℤ → Prop} {posX posY : K → K} {axisX axisY : Axis K} {elapsed : K}

/-- Where the traversal stands: both coordinates are tracked, the cells just left are clear,
and the cells it stands in are ones it may charge for. -/
structure Corridor (Clear Reached : ℤ → ℤ → Prop) (posX posY : K → K) (axisX axisY : Axis K)
    (elapsed : K) : Prop where
  tracksX : axisX.Tracks posX
  tracksY : axisY.Tracks posY
  wideX : ∀ delta : K, axisX.delta = delta → 1 / 10 ^ 12 < delta
  wideY : ∀ delta : K, axisY.delta = delta → 1 / 10 ^ 12 < delta
  nonneg : 0 ≤ elapsed
  aheadX : (elapsed : WithTop K) < axisX.time
  aheadY : (elapsed : WithTop K) < axisY.time
  recentX : axisX.Recent elapsed
  recentY : axisY.Recent elapsed
  orderX : ∀ t : K, axisX.EnteredSince t → (t : WithTop K) < axisY.time
  orderY : ∀ t : K, axisY.EnteredSince t → (t : WithTop K) < axisX.time
  besideX : axisX.EnteredSince elapsed → ∀ b ∈ axisY.cells, Clear (axisX.cell - axisX.step) b
  besideY : axisY.EnteredSince elapsed → ∀ a ∈ axisX.cells, Clear a (axisY.cell - axisY.step)
  behind : axisX.EnteredSince elapsed → axisY.EnteredSince elapsed →
    Clear (axisX.cell - axisX.step) (axisY.cell - axisY.step)
  reached : ∀ a ∈ axisX.cells, ∀ b ∈ axisY.cells, Reached a b

namespace Corridor

omit [IsStrictOrderedRing K] in
/-- The two coordinates may trade places. -/
theorem swap (h : Corridor Clear Reached posX posY axisX axisY elapsed) :
    Corridor (flip Clear) (flip Reached) posY posX axisY axisX elapsed where
  tracksX := h.tracksY
  tracksY := h.tracksX
  wideX := h.wideY
  wideY := h.wideX
  nonneg := h.nonneg
  aheadX := h.aheadY
  aheadY := h.aheadX
  recentX := h.recentY
  recentY := h.recentX
  orderX := h.orderY
  orderY := h.orderX
  besideX := h.besideY
  besideY := h.besideX
  behind := fun hy hx => h.behind hx hy
  reached := fun b hb a ha => h.reached a ha b hb

/-- Until the next boundary, the segment touches clear cells only. -/
theorem covers (h : Corridor Clear Reached posX posY axisX axisY elapsed)
    (hclear : ∀ a ∈ axisX.cells, ∀ b ∈ axisY.cells, Clear a b) {t : K} (ht : elapsed ≤ t)
    (htX : (t : WithTop K) < axisX.time) (htY : (t : WithTop K) < axisY.time) {a b : ℤ}
    (ha : OnCell (posX t) a) (hb : OnCell (posY t) b) : Clear a b := by
  have hlater {axis : Axis K} (hsince : axis.EnteredSince t) : axis.EnteredSince elapsed := by
    obtain ⟨time, delta, htime, hdelta, hle⟩ := hsince
    exact ⟨time, delta, htime, hdelta, ht.trans hle⟩
  have hrecent {axis : Axis K} (hr : axis.Recent elapsed) : axis.Recent t :=
    fun time delta htime hdelta => (hr time delta htime hdelta).trans_le ht
  rcases h.tracksX.mem_cells ha htX (hrecent h.recentX) with ha | ⟨hsince, rfl⟩
  · rcases h.tracksY.mem_cells hb htY (hrecent h.recentY) with hb | ⟨hsince', rfl⟩
    · exact hclear a ha b hb
    · exact h.besideY (hlater hsince') a ha
  · rcases h.tracksY.mem_cells hb htY (hrecent h.recentY) with hb | ⟨hsince', rfl⟩
    · exact h.besideX (hlater hsince) b hb
    · exact h.behind (hlater hsince) (hlater hsince')

variable {axis : Axis K}

omit [IsStrictOrderedRing K] in
/-- What an axis knows when it has crossed a boundary. -/
theorem crossed {position : K → K} (h : axis.Tracks position) (htime : axis.time = time) :
    ∃ delta : K, 0 < delta ∧ axis.delta = delta ∧ axis.cross.time = ((time + delta : K) : WithTop K) ∧
      axis.cells = [axis.cell] ∧ axis.cross.cells = [axis.cell + axis.step] := by
  cases h with
  | still => cases htime
  | @moving cell step time' delta hstep hdelta hposition =>
    obtain rfl : time' = time := WithTop.coe_injective htime
    exact ⟨delta, hdelta, rfl, rfl, rfl, rfl⟩

omit [LinearOrder K] [IsStrictOrderedRing K] [FloorRing K] in
theorem crossed_eq {time delta time' delta' : K}
    (htime : axis.cross.time = ((time + delta : K) : WithTop K)) (hdelta : axis.delta = delta)
    (htime' : axis.cross.time = time') (hdelta' : axis.cross.delta = delta') :
    time + delta = time' ∧ delta = delta' :=
  ⟨WithTop.coe_injective (htime.symm.trans htime'), WithTop.coe_injective (hdelta.symm.trans hdelta')⟩

variable {timeX timeY : K}

section

variable (h : Corridor Clear Reached posX posY axisX axisY elapsed)
include h

/-- One coordinate passes a boundary. -/
theorem crossX (hreached : ∀ a b, Touching posX posY a b → Reached a b)
    (hclear : ∀ a ∈ axisX.cells, ∀ b ∈ axisY.cells, Clear a b) (htime : axisX.time = timeX)
    (hlt : (timeX : WithTop K) < axisY.time) (hend : timeX < 1) :
    Corridor Clear Reached posX posY axisX.cross axisY timeX := by
  obtain ⟨delta, hpos, hdelta, hnext, hcells, hcells'⟩ := crossed h.tracksX htime
  have hstart : elapsed < timeX := WithTop.coe_lt_coe.1 (htime ▸ h.aheadX)
  have hsince (t : K) (ht : axisX.cross.EnteredSince t) : t ≤ timeX := by
    obtain ⟨time, delta', htime', hdelta', hle⟩ := ht
    obtain ⟨rfl, rfl⟩ := crossed_eq hnext hdelta htime' hdelta'
    rwa [add_sub_cancel_right] at hle
  have hbefore (t : K) (ht : axisY.EnteredSince t) : t < timeX :=
    WithTop.coe_lt_coe.1 (htime ▸ h.orderY t ht)
  have hnew : axisX.cross.Tracks posX := h.tracksX.cross htime
  refine { h with
    tracksX := hnew
    wideX := h.wideX
    nonneg := h.nonneg.trans hstart.le
    aheadX := ?_, aheadY := hlt, recentX := ?_, recentY := ?_, orderX := ?_, orderY := ?_
    besideX := ?_, besideY := ?_, behind := ?_, reached := ?_ }
  · rw [hnext, WithTop.coe_lt_coe]
    linarith
  · intro time delta' htime' hdelta'
    obtain ⟨rfl, rfl⟩ := crossed_eq hnext hdelta htime' hdelta'
    linarith
  · intro time delta' htime' hdelta'
    exact (h.recentY time delta' htime' hdelta').trans hstart
  · intro t ht
    exact (WithTop.coe_le_coe.2 (hsince t ht)).trans_lt hlt
  · intro t ht
    rw [hnext, WithTop.coe_lt_coe]
    linarith [hbefore t ht]
  · intro _ b hb
    rw [show axisX.cross.cell - axisX.cross.step = axisX.cell from add_sub_cancel_right _ _]
    exact hclear axisX.cell (hcells ▸ List.mem_singleton_self _) b hb
  · intro ht
    exact absurd (hbefore timeX ht) (lt_irrefl _)
  · intro _ ht
    exact absurd (hbefore timeX ht) (lt_irrefl _)
  · -- the point of the crossing touches the new cells
    intro a ha b hb
    refine hreached a b ⟨timeX, h.nonneg.trans hstart.le, hend.le, ?_, ?_⟩
    · refine hnew.onCell ha ?_ hsince
      rw [hnext, WithTop.coe_le_coe]
      linarith
    · exact h.tracksY.onCell hb hlt.le (fun t ht => (hbefore t ht).le)

theorem crossY (hreached : ∀ a b, Touching posX posY a b → Reached a b)
    (hclear : ∀ a ∈ axisX.cells, ∀ b ∈ axisY.cells, Clear a b) (htime : axisY.time = timeY)
    (hlt : (timeY : WithTop K) < axisX.time) (hend : timeY < 1) :
    Corridor Clear Reached posX posY axisX axisY.cross timeY := by
  have hswapped : ∀ b a, Touching posY posX b a → flip Reached b a := by
    rintro b a ⟨t, hnonneg, hle, hb, ha⟩
    exact hreached a b ⟨t, hnonneg, hle, ha, hb⟩
  exact (h.swap.crossX hswapped (fun b hb a ha => hclear a ha b hb) htime hlt hend).swap

/-- Both coordinates pass a boundary at almost the same time. -/
theorem crossBoth (hacross : ∀ a b, Across posX posY a b → Reached a b)
    (hclear : ∀ a ∈ axisX.cells, ∀ b ∈ axisY.cells, Clear a b) (htimeX : axisX.time = timeX)
    (htimeY : axisY.time = timeY) (hclose : AtOnce timeX timeY) (hend : min timeX timeY < 1)
    (hsideX : Clear (axisX.cell + axisX.step) axisY.cell)
    (hsideY : Clear axisX.cell (axisY.cell + axisY.step)) :
    Corridor Clear Reached posX posY axisX.cross axisY.cross (min timeX timeY) := by
  obtain ⟨deltaX, hposX, hdeltaX, hnextX, hcellsX, hcellsX'⟩ := crossed h.tracksX htimeX
  obtain ⟨deltaY, hposY, hdeltaY, hnextY, hcellsY, hcellsY'⟩ := crossed h.tracksY htimeY
  have hwideX := h.wideX deltaX hdeltaX
  have hwideY := h.wideY deltaY hdeltaY
  obtain ⟨hnear, hnear'⟩ := abs_le.1 hclose
  have hfirst : timeX - 1 / 10 ^ 12 ≤ min timeX timeY := le_min (by linarith) (by linarith)
  have hfirst' : timeY - 1 / 10 ^ 12 ≤ min timeX timeY := le_min (by linarith) (by linarith)
  have hstart : 0 ≤ min timeX timeY := by
    have hX : elapsed < timeX := WithTop.coe_lt_coe.1 (htimeX ▸ h.aheadX)
    have hY : elapsed < timeY := WithTop.coe_lt_coe.1 (htimeY ▸ h.aheadY)
    exact h.nonneg.trans (le_min hX.le hY.le)
  refine { h with
    tracksX := h.tracksX.cross htimeX, tracksY := h.tracksY.cross htimeY
    wideX := h.wideX, wideY := h.wideY
    nonneg := hstart
    aheadX := ?_, aheadY := ?_, recentX := ?_, recentY := ?_, orderX := ?_, orderY := ?_
    besideX := ?_, besideY := ?_, behind := ?_, reached := ?_ }
  · rw [hnextX, WithTop.coe_lt_coe]
    linarith [min_le_left timeX timeY]
  · rw [hnextY, WithTop.coe_lt_coe]
    linarith [min_le_right timeX timeY]
  · rintro time delta htime hdelta
    obtain ⟨rfl, rfl⟩ := crossed_eq hnextX hdeltaX htime hdelta
    linarith
  · rintro time delta htime hdelta
    obtain ⟨rfl, rfl⟩ := crossed_eq hnextY hdeltaY htime hdelta
    linarith
  · rintro t ⟨time, delta, htime, hdelta, hle⟩
    obtain ⟨rfl, rfl⟩ := crossed_eq hnextX hdeltaX htime hdelta
    rw [hnextY, WithTop.coe_lt_coe]
    linarith
  · rintro t ⟨time, delta, htime, hdelta, hle⟩
    obtain ⟨rfl, rfl⟩ := crossed_eq hnextY hdeltaY htime hdelta
    rw [hnextX, WithTop.coe_lt_coe]
    linarith
  · intro _ b hb
    rw [hcellsY', List.mem_singleton] at hb
    rw [hb, show axisX.cross.cell - axisX.cross.step = axisX.cell from add_sub_cancel_right _ _]
    exact hsideY
  · intro _ a ha
    rw [hcellsX', List.mem_singleton] at ha
    rw [ha, show axisY.cross.cell - axisY.cross.step = axisY.cell from add_sub_cancel_right _ _]
    exact hsideX
  · intro _ _
    rw [show axisX.cross.cell - axisX.cross.step = axisX.cell from add_sub_cancel_right _ _,
      show axisY.cross.cell - axisY.cross.step = axisY.cell from add_sub_cancel_right _ _]
    exact hclear _ (hcellsX ▸ List.mem_singleton_self _) _ (hcellsY ▸ List.mem_singleton_self _)
  · -- the new cell is across the corner
    intro a ha b hb
    rw [hcellsX', List.mem_singleton] at ha
    rw [hcellsY', List.mem_singleton] at hb
    rw [ha, hb]
    exact hacross _ _ ⟨timeX, timeY, axisX.cell, axisY.cell, h.tracksX.enters htimeX,
      h.tracksY.enters htimeY, hclose, hstart, hend⟩

end

end Corridor

end Corridor

end NavigationCostGrid

end ShadowbaneLab
