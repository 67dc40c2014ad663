/-
# Where a stall is learned

What `mark_blocked_ahead` credits a stall to (`src/shadowbane_lab/travel/pathfinding.py`).  A
movement is a `Course`; each of its coordinates passes the boundaries between cells one after the
other (`passed`, `boundary`).  The credited cell lies behind the first boundaries that the course
meets, and the finer cell behind them is looked for a little further on (`overshoot`).  That step
may already lead out of the credited cell: learning succeeds exactly when the course does not
cross two boundaries so shortly after one another (`Separate`).
-/
import ShadowbaneLab.Travel.NavigationMap

namespace ShadowbaneLab

open Foundation

namespace SparseNavigationMap

variable {K : Type} [Field K] [LinearOrder K]

/-! ## One coordinate of a movement -/

variable {direction : K}

theorem stepTowards_rising (h : 0 < direction) : stepTowards direction = 1 := by
  rw [stepTowards, if_neg h.ne', if_pos h]

theorem stepTowards_falling (h : direction < 0) : stepTowards direction = -1 := by
  rw [stepTowards, if_neg h.ne, if_neg h.not_gt]

theorem stepTowards_still (h : direction = 0) : stepTowards direction = 0 :=
  if_pos h

section Boundaries

variable [FloorRing K]

/-- How many boundaries between cells a coordinate has passed at a distance. -/
def passed (size start direction distance : K) : ℕ :=
  (⌊(start + direction * distance) / size⌋ - ⌊start / size⌋).natAbs

/-- The distance at which a coordinate that moves meets its first boundary. -/
def boundary (size start direction : K) : K :=
  (((⌊start / size⌋ + if 0 < direction then 1 else 0 : ℤ) : K) * size - start) / direction

variable {size start direction distance distance' : K}

theorem passed_still (h : direction = 0) : passed size start direction distance = 0 := by
  rw [passed, h, zero_mul, add_zero, sub_self, Int.natAbs_zero]

variable [IsStrictOrderedRing K]

section

variable (hsize : 0 < size)
include hsize

variable (start direction) in
/-- The cell of a coordinate is as many steps away as it has passed boundaries. -/
theorem floor_eq (h : 0 ≤ distance) :
    ⌊(start + direction * distance) / size⌋ =
      ⌊start / size⌋ + stepTowards direction * passed size start direction distance := by
  unfold passed
  rcases lt_trichotomy direction 0 with hneg | hzero | hpos
  · have hle : ⌊(start + direction * distance) / size⌋ ≤ ⌊start / size⌋ := by
      apply Int.floor_le_floor
      gcongr
      linarith [mul_nonpos_of_nonpos_of_nonneg hneg.le h]
    rw [stepTowards_falling hneg]
    omega
  · rw [stepTowards_still hzero, hzero, zero_mul, add_zero, zero_mul, add_zero]
  · have hle : ⌊start / size⌋ ≤ ⌊(start + direction * distance) / size⌋ := by
      apply Int.floor_le_floor
      gcongr
      linarith [mul_nonneg hpos.le h]
    rw [stepTowards_rising hpos]
    omega

/-- A rising coordinate has passed its first boundary once it reaches it. -/
theorem rising_iff (h : 0 ≤ distance) (hpos : 0 < direction) (n : ℕ) :
    n + 1 ≤ passed size start direction distance ↔
      boundary size start direction + n * (size / direction) ≤ distance := by
  have heq := floor_eq start direction hsize h
  rw [stepTowards_rising hpos] at heq
  have hreach : n + 1 ≤ passed size start direction distance ↔
      ⌊start / size⌋ + 1 + n ≤ ⌊(start + direction * distance) / size⌋ := by
    omega
  have hvalue : boundary size start direction + n * (size / direction) ≤ distance ↔
      ((⌊start / size⌋ + 1 + n : ℤ) : K) * size ≤ start + direction * distance := by
    rw [boundary, if_pos hpos, mul_div_assoc', ← add_div, div_le_iff₀ hpos]
    push_cast
    constructor
    · intro hle
      linarith
    · intro hle
      linarith
  rw [hreach, hvalue, Int.le_floor, le_div_iff₀ hsize]

/-- A falling coordinate has passed its first boundary once it is beyond it. -/
theorem falling_iff (h : 0 ≤ distance) (hneg : direction < 0) (n : ℕ) :
    n + 1 ≤ passed size start direction distance ↔
      boundary size start direction + n * (size / -direction) < distance := by
  have heq := floor_eq start direction hsize h
  rw [stepTowards_falling hneg] at heq
  have hreach : n + 1 ≤ passed size start direction distance ↔
      ⌊(start + direction * distance) / size⌋ < ⌊start / size⌋ - n := by
    omega
  have hvalue : boundary size start direction + n * (size / -direction) < distance ↔
      start + direction * distance < ((⌊start / size⌋ - n : ℤ) : K) * size := by
    rw [boundary, if_neg hneg.not_gt, mul_div_assoc', div_neg, ← sub_eq_add_neg, ← sub_div,
      div_lt_iff_of_neg hneg]
    push_cast
    constructor
    · intro hlt
      linarith
    · intro hlt
      linarith
  rw [hreach, hvalue, Int.floor_lt, div_lt_iff₀ hsize]

theorem boundary_nonneg : 0 ≤ boundary size start direction := by
  have hlow : (⌊start / size⌋ : K) * size ≤ start := (le_div_iff₀ hsize).1 (Int.floor_le _)
  have hhigh : start < ((⌊start / size⌋ : K) + 1) * size :=
    (div_lt_iff₀ hsize).1 (Int.lt_floor_add_one _)
  unfold boundary
  split_ifs with hpos
  · apply div_nonneg _ hpos.le
    push_cast
    linarith
  · apply div_nonneg_of_nonpos _ (not_lt.1 hpos)
    push_cast
    linarith

/-- A coordinate that moves has passed its first boundary behind it. -/
theorem passed_pos (hmoves : direction ≠ 0) (h : boundary size start direction < distance) :
    1 ≤ passed size start direction distance := by
  have hdistance : 0 ≤ distance := (boundary_nonneg hsize).trans h.le
  rcases hmoves.lt_or_gt with hneg | hpos
  · apply (falling_iff hsize hdistance hneg 0).2
    rw [Nat.cast_zero, zero_mul, add_zero]
    exact h
  · apply (rising_iff hsize hdistance hpos 0).2
    rw [Nat.cast_zero, zero_mul, add_zero]
    exact h.le

/-- A coordinate that has passed a boundary has met its first one. -/
theorem boundary_le (hdistance : 0 ≤ distance) (h : 1 ≤ passed size start direction distance) :
    boundary size start direction ≤ distance := by
  rcases lt_trichotomy direction 0 with hneg | hzero | hpos
  · have hlt := (falling_iff hsize hdistance hneg 0).1 h
    rw [Nat.cast_zero, zero_mul, add_zero] at hlt
    exact hlt.le
  · rw [passed_still hzero] at h
    omega
  · have hle := (rising_iff hsize hdistance hpos 0).1 h
    rw [Nat.cast_zero, zero_mul, add_zero] at hle
    exact hle

/-- A coordinate passes one boundary at most within a cell's length from its first one. -/
theorem passed_le_one (hdistance : 0 ≤ distance) (hslow : |direction| ≤ 1)
    (h : distance < boundary size start direction + size) :
    passed size start direction distance ≤ 1 := by
  have hspan {speed : K} (hspeed : 0 < speed) (hle : speed ≤ 1) : size ≤ size / speed :=
    (le_div_iff₀ hspeed).2 (mul_le_of_le_one_right hsize.le hle)
  by_contra hmore
  have htwo : 1 + 1 ≤ passed size start direction distance := by omega
  rcases lt_trichotomy direction 0 with hneg | hzero | hpos
  · have hlt := (falling_iff hsize hdistance hneg 1).1 htwo
    have hwide := hspan (neg_pos.2 hneg) ((neg_le_abs _).trans hslow)
    rw [Nat.cast_one, one_mul] at hlt
    linarith
  · rw [passed_still hzero] at htwo
    omega
  · have hle := (rising_iff hsize hdistance hpos 1).1 htwo
    have hwide := hspan hpos ((le_abs_self _).trans hslow)
    rw [Nat.cast_one, one_mul] at hle
    linarith

/-- The boundary of a coordinate that is met first is passed alone if the other one is not passed
shortly after it. -/
theorem passed_alone_iff {start' direction' excess : K} (hexcess : 0 < excess)
    (hshort : excess < size) (hslow : |direction| ≤ 1) (hmoves : direction ≠ 0)
    (hfirst : direction' ≠ 0 → boundary size start direction ≤ boundary size start' direction') :
    passed size start direction (boundary size start direction + excess) = 1 ∧
        passed size start' direction' (boundary size start direction + excess) = 0 ↔
      passed size start' direction' (boundary size start direction + excess) = 0 ∨
        passed size start direction (boundary size start' direction' + excess) = 0 := by
  have hnonneg : 0 ≤ boundary size start direction := boundary_nonneg hsize
  have hone : passed size start direction (boundary size start direction + excess) = 1 := by
    apply le_antisymm
    · exact passed_le_one hsize (by linarith) hslow (by linarith)
    · exact passed_pos hsize hmoves (by linarith)
  constructor
  · rintro ⟨-, hnone⟩
    exact .inl hnone
  · rintro (hnone | hnone)
    · exact ⟨hone, hnone⟩
    · refine ⟨hone, ?_⟩
      by_cases hstill : direction' = 0
      · exact passed_still hstill
      · have hle := hfirst hstill
        have hpos : 1 ≤ passed size start direction (boundary size start' direction' + excess) :=
          passed_pos hsize hmoves (by linarith)
        omega

end

/-! ## The finer cell behind the boundaries -/

/-- Where a coordinate enters the cells that are a number of boundaries away. -/
def entrance (size start direction : K) : ℕ → K
  | 0 => 0
  | _ + 1 => boundary size start direction

theorem entrance_nonneg (hsize : 0 < size) (count : ℕ) :
    0 ≤ entrance size start direction count := by
  cases count with
  | zero => exact le_refl 0
  | succ => exact boundary_nonneg hsize

/-- The distance at which the source finds a coordinate to enter a cell. -/
theorem crossing_eq (hsize : 0 < size) {count : ℕ} (hcount : count ≤ 1)
    (hmoves : direction = 0 → count = 0) :
    max 0 ((crossing ((⌊start / size⌋ + stepTowards direction * count : ℤ) * size)
      ((⌊start / size⌋ + stepTowards direction * count : ℤ) * size + size) start direction).getD 0) =
      entrance size start direction count := by
  have hlow : (⌊start / size⌋ : K) * size ≤ start := (le_div_iff₀ hsize).1 (Int.floor_le _)
  have hhigh : start < ((⌊start / size⌋ : K) + 1) * size :=
    (div_lt_iff₀ hsize).1 (Int.lt_floor_add_one _)
  have hnonneg : 0 ≤ boundary size start direction := boundary_nonneg hsize
  rcases lt_trichotomy direction 0 with hneg | hzero | hpos
  · rw [crossing, if_neg hneg.not_gt, if_pos hneg, Option.getD_some, stepTowards_falling hneg]
    obtain rfl | rfl : count = 0 ∨ count = 1 := by omega
    · apply max_eq_left
      apply div_nonpos_of_nonneg_of_nonpos _ hneg.le
      push_cast
      linarith
    · rw [entrance, max_eq_right_iff.2]
      · rw [boundary, if_neg hneg.not_gt]
        push_cast
        ring
      · apply div_nonneg_of_nonpos _ hneg.le
        push_cast
        linarith
  · rw [crossing, if_neg hzero.not_gt, if_neg hzero.not_lt, hmoves hzero]
    exact max_self 0
  · rw [crossing, if_pos hpos, Option.getD_some, stepTowards_rising hpos]
    obtain rfl | rfl : count = 0 ∨ count = 1 := by omega
    · apply max_eq_left
      apply div_nonpos_of_nonpos_of_nonneg _ hpos.le
      push_cast
      linarith
    · rw [entrance, max_eq_right_iff.2]
      · rw [boundary, if_pos hpos]
        push_cast
        ring
      · apply div_nonneg _ hpos.le
        push_cast
        linarith

/-- A coordinate is in the cells that are a number of boundaries away when it has passed so many
of them. -/
theorem floor_eq_iff (hsize : 0 < size) (h : 0 ≤ distance) {count : ℕ}
    (hmoves : direction = 0 → count = 0) :
    ⌊(start + direction * distance) / size⌋ = ⌊start / size⌋ + stepTowards direction * count ↔
      passed size start direction distance = count := by
  rw [floor_eq _ _ hsize h]
  rcases lt_trichotomy direction 0 with hneg | hzero | hpos
  · rw [stepTowards_falling hneg]
    omega
  · rw [passed_still hzero, hmoves hzero]
    simp only [Nat.cast_zero, mul_zero]
  · rw [stepTowards_rising hpos]
    omega

end Boundaries

/-! ## Courses -/

/-- A movement: where it starts, its direction and the way to its destination. -/
structure Course (K : Type) where
  lt : K
  lg : K
  alongLt : K
  alongLg : K
  length : K

/-- The movement from a position to a destination. -/
def courseTo (metric : Metric K) (position : PlayerPosition K) (destination : TravelDestination K) :
    Course K :=
  let deltaLt := destination.lt - position.lt
  let deltaLg := destination.lg - position.lg
  let length := metric.hypot deltaLt deltaLg
  ⟨position.lt, position.lg, deltaLt / length, deltaLg / length, length⟩

variable {countLt countLg : ℕ}

section Separation

variable [FloorRing K] (navigation : SparseNavigationMap K) (course : Course K)

local instance : Nat.AtLeastTwo 75 := ⟨by decide⟩

/-- How far ahead of a stall an obstacle is first looked for. -/
def probe : K := navigation.cellSize * (75 / 100)

/-- How far behind the boundary of a cell its finer cell is looked for. -/
def overshoot : K := navigation.refinedCellSize * (1 / 10 ^ 6)

/-- How many columns of cells a course has left at a distance. -/
def passedLt (distance : K) : ℕ := passed navigation.cellSize course.lt course.alongLt distance

/-- How many rows of cells a course has left at a distance. -/
def passedLg (distance : K) : ℕ := passed navigation.cellSize course.lg course.alongLg distance

/-- The distance at which a course meets the end of its column. -/
def boundaryLt : K := boundary navigation.cellSize course.lt course.alongLt

/-- The distance at which a course meets the end of its row. -/
def boundaryLg : K := boundary navigation.cellSize course.lg course.alongLg

/-- A course leaves its column and its row as if at once: both before the probe, or both behind it
and at fractions of the way that are close. -/
def TakenTogether : Prop :=
  (1 ≤ navigation.passedLt course navigation.probe ∧
      1 ≤ navigation.passedLg course navigation.probe) ∨
    (navigation.passedLt course navigation.probe = 0 ∧
      navigation.passedLg course navigation.probe = 0 ∧
      course.alongLt ≠ 0 ∧ course.alongLg ≠ 0 ∧
      isClose (navigation.boundaryLt course / course.length)
        (navigation.boundaryLg course / course.length) = true)

/-- A course crosses no boundary shortly behind the ones that count as its first: behind both, when
it leaves its column and its row as if at once, and else behind the one that it meets first. -/
def Separate : Prop :=
  let corner := max (navigation.boundaryLt course) (navigation.boundaryLg course)
  (navigation.TakenTogether course →
      navigation.passedLt course (corner + navigation.overshoot) ≤ 1 ∧
        navigation.passedLg course (corner + navigation.overshoot) ≤ 1) ∧
    (¬navigation.TakenTogether course →
      navigation.passedLg course (navigation.boundaryLt course + navigation.overshoot) = 0 ∨
        navigation.passedLt course (navigation.boundaryLg course + navigation.overshoot) = 0)

/-- The numbers of columns and rows that a course has left in the cell that a stall is credited
to. -/
inductive Credits : ℕ → ℕ → Prop
  | corner (htogether : navigation.TakenTogether course) : Credits 1 1
  | column (hmoves : course.alongLt ≠ 0) (hapart : ¬navigation.TakenTogether course)
      (hfirst : course.alongLg ≠ 0 → navigation.boundaryLt course ≤ navigation.boundaryLg course) :
      Credits 1 0
  | row (hmoves : course.alongLg ≠ 0) (hapart : ¬navigation.TakenTogether course)
      (hfirst : course.alongLt ≠ 0 → navigation.boundaryLg course ≤ navigation.boundaryLt course) :
      Credits 0 1

variable {navigation course} [IsStrictOrderedRing K]

omit [FloorRing K] in
theorem overshoot_pos : 0 < navigation.overshoot :=
  mul_pos navigation.refinedCellSize_pos (by norm_num)

omit [FloorRing K] in
theorem refinedCellSize_le : navigation.refinedCellSize ≤ navigation.cellSize := by
  have hfactor : (1 : K) ≤ navigation.refinementFactor := by
    have h := navigation.refinementFactor_ok
    exact_mod_cast (by omega : 1 ≤ navigation.refinementFactor)
  exact div_le_self navigation.cellSize_pos.le hfactor

omit [FloorRing K] in
theorem overshoot_lt : navigation.overshoot < navigation.cellSize := by
  refine lt_of_lt_of_le ?_ navigation.refinedCellSize_le
  exact mul_lt_of_lt_one_right navigation.refinedCellSize_pos (by norm_num)

omit [FloorRing K] in
theorem probe_nonneg : 0 ≤ navigation.probe :=
  mul_nonneg navigation.cellSize_pos.le (by norm_num)

omit [IsStrictOrderedRing K] in
theorem TakenTogether.moves (h : navigation.TakenTogether course) :
    course.alongLt ≠ 0 ∧ course.alongLg ≠ 0 := by
  rcases h with ⟨hlt, hlg⟩ | ⟨-, -, hlt, hlg, -⟩
  · constructor
    · intro hstill
      rw [passedLt, passed_still hstill] at hlt
      omega
    · intro hstill
      rw [passedLg, passed_still hstill] at hlg
      omega
  · exact ⟨hlt, hlg⟩

/-- How far a course is shortly behind the boundaries of the columns and rows that it left. -/
def entered (navigation : SparseNavigationMap K) (course : Course K) (countLt countLg : ℕ) : K :=
  max (entrance navigation.cellSize course.lt course.alongLt countLt)
    (entrance navigation.cellSize course.lg course.alongLg countLg) + navigation.overshoot

/-- The step behind the boundaries stays in the credited cell if no other boundary follows. -/
theorem Credits.settles (h : navigation.Credits course countLt countLg)
    (hslowLt : |course.alongLt| ≤ 1) (hslowLg : |course.alongLg| ≤ 1) :
    (navigation.passedLt course (navigation.entered course countLt countLg) = countLt ∧
      navigation.passedLg course (navigation.entered course countLt countLg) = countLg) ↔
      navigation.Separate course := by
  have hsize := navigation.cellSize_pos
  have hover := navigation.overshoot_pos
  have hshort := navigation.overshoot_lt
  have hnonnegLt : 0 ≤ navigation.boundaryLt course := boundary_nonneg hsize
  have hnonnegLg : 0 ≤ navigation.boundaryLg course := boundary_nonneg hsize
  cases h with
  | corner htogether =>
    obtain ⟨hmovesLt, hmovesLg⟩ := htogether.moves
    have hposLt : 1 ≤ navigation.passedLt course (navigation.entered course 1 1) := by
      apply passed_pos hsize hmovesLt
      have hle := le_max_left (navigation.boundaryLt course) (navigation.boundaryLg course)
      exact lt_of_le_of_lt hle (lt_add_of_pos_right _ hover)
    have hposLg : 1 ≤ navigation.passedLg course (navigation.entered course 1 1) := by
      apply passed_pos hsize hmovesLg
      have hle := le_max_right (navigation.boundaryLt course) (navigation.boundaryLg course)
      exact lt_of_le_of_lt hle (lt_add_of_pos_right _ hover)
    constructor
    · rintro ⟨hlt, hlg⟩
      exact ⟨fun _ => ⟨hlt.le, hlg.le⟩, fun hapart => absurd htogether hapart⟩
    · rintro ⟨hseparate, -⟩
      obtain ⟨hlt, hlg⟩ := hseparate htogether
      exact ⟨le_antisymm hlt hposLt, le_antisymm hlg hposLg⟩
  | column hmoves hapart hfirst =>
    show (navigation.passedLt course (max (navigation.boundaryLt course) 0 + navigation.overshoot)
        = 1 ∧
      navigation.passedLg course (max (navigation.boundaryLt course) 0 + navigation.overshoot) =
        0) ↔ _
    rw [max_eq_left hnonnegLt]
    refine (passed_alone_iff hsize hover hshort hslowLt hmoves hfirst).trans ?_
    exact ⟨fun h => ⟨fun htogether => absurd htogether hapart, fun _ => h⟩, fun h => h.2 hapart⟩
  | row hmoves hapart hfirst =>
    show (navigation.passedLt course (max 0 (navigation.boundaryLg course) + navigation.overshoot)
        = 0 ∧
      navigation.passedLg course (max 0 (navigation.boundaryLg course) + navigation.overshoot) =
        1) ↔ _
    rw [max_eq_right hnonnegLg, and_comm]
    refine (passed_alone_iff hsize hover hshort hslowLg hmoves hfirst).trans ?_
    rw [or_comm]
    exact ⟨fun h => ⟨fun htogether => absurd htogether hapart, fun _ => h⟩, fun h => h.2 hapart⟩

/-! ## The credited cell -/

/-- The cell that lies some columns and rows ahead of the start of a course. -/
def ahead (navigation : SparseNavigationMap K) (course : Course K) (countLt countLg : ℕ) :
    NavigationCell :=
  ⟨⌊course.lt / navigation.cellSize⌋ + stepTowards course.alongLt * countLt,
    ⌊course.lg / navigation.cellSize⌋ + stepTowards course.alongLg * countLg⟩

theorem cellFor_along {distance : K} (h : 0 ≤ distance) :
    navigation.cellFor (course.lt + course.alongLt * distance)
        (course.lg + course.alongLg * distance) =
      navigation.ahead course (navigation.passedLt course distance)
        (navigation.passedLg course distance) := by
  rw [cellFor, floor_eq _ _ navigation.cellSize_pos h, floor_eq _ _ navigation.cellSize_pos h]
  rfl

omit [IsStrictOrderedRing K] in
theorem ahead_zero : navigation.ahead course 0 0 = navigation.cellFor course.lt course.lg := by
  rw [ahead, Nat.cast_zero, mul_zero, mul_zero, add_zero, add_zero]
  rfl

/-- Leaving a coordinate's cell, as a fraction of the way. -/
theorem leaves_eq {start delta length : K} (hlength : 0 < length) :
    navigation.leaves ⌊start / navigation.cellSize⌋ start delta =
      if delta / length = 0 then none
      else some (boundary navigation.cellSize start (delta / length) / length) := by
  have hnonneg : 0 ≤ boundary navigation.cellSize start (delta / length) / length :=
    div_nonneg (boundary_nonneg navigation.cellSize_pos) hlength.le
  unfold leaves
  dsimp only
  rcases lt_trichotomy delta 0 with hneg | hzero | hpos
  · have halong : delta / length < 0 := div_neg_of_neg_of_pos hneg hlength
    rw [stepTowards_falling hneg, if_neg (by decide), if_neg halong.ne, if_neg (by decide)]
    rw [boundary, if_neg halong.not_gt] at hnonneg ⊢
    rw [← abs_of_nonneg hnonneg, div_div, div_mul_cancel₀ _ hlength.ne']
  · rw [stepTowards_still hzero, if_pos rfl, hzero, zero_div, if_pos rfl]
  · have halong : 0 < delta / length := div_pos hpos hlength
    rw [stepTowards_rising hpos, if_neg (by decide), if_neg halong.ne', if_pos (by decide)]
    rw [boundary, if_pos halong] at hnonneg ⊢
    rw [← abs_of_nonneg hnonneg, div_div, div_mul_cancel₀ _ hlength.ne']

omit [FloorRing K] in
theorem stepTowards_div {delta length : K} (hlength : 0 < length) :
    stepTowards (delta / length) = stepTowards delta := by
  rcases lt_trichotomy delta 0 with hneg | hzero | hpos
  · rw [stepTowards_falling hneg, stepTowards_falling (div_neg_of_neg_of_pos hneg hlength)]
  · rw [hzero, zero_div]
  · rw [stepTowards_rising hpos, stepTowards_rising (div_pos hpos hlength)]

end Separation

variable {course : Course K}

section Crediting

variable [FloorRing K] [IsStrictOrderedRing K] {navigation : SparseNavigationMap K}
  {startLt startLg deltaLt deltaLg length : K}

/-- The cell behind the first boundary of a course that the probe finds in the cell of its start. -/
theorem enteredNext_eq
    (hcourse : course = ⟨startLt, startLg, deltaLt / length, deltaLg / length, length⟩)
    (hlength : 0 < length) (hmoves : course.alongLt ≠ 0 ∨ course.alongLg ≠ 0)
    (hlt : navigation.passedLt course navigation.probe = 0)
    (hlg : navigation.passedLg course navigation.probe = 0) :
    ∃ countLt countLg, navigation.Credits course countLt countLg ∧
      navigation.enteredNext (navigation.cellFor startLt startLg) startLt startLg deltaLt deltaLg =
        navigation.ahead course countLt countLg := by
  subst hcourse
  have hstepLt : stepTowards (deltaLt / length) = stepTowards deltaLt := stepTowards_div hlength
  have hstepLg : stepTowards (deltaLg / length) = stepTowards deltaLg := stepTowards_div hlength
  -- what stays in its column or row is never taken together
  have htogether (h : navigation.TakenTogether
      ⟨startLt, startLg, deltaLt / length, deltaLg / length, length⟩) :
      isClose (boundary navigation.cellSize startLt (deltaLt / length) / length)
        (boundary navigation.cellSize startLg (deltaLg / length) / length) = true := by
    rcases h with ⟨hpassed, -⟩ | ⟨-, -, -, -, hclose⟩
    · omega
    · exact hclose
  unfold enteredNext
  dsimp only [cellFor]
  rw [leaves_eq hlength, leaves_eq hlength]
  by_cases hstillLt : deltaLt / length = 0
  · have hmovesLg : deltaLg / length ≠ 0 := hmoves.resolve_left (fun h => h hstillLt)
    rw [if_pos hstillLt, if_neg hmovesLg]
    refine ⟨0, 1, .row hmovesLg (fun h => h.moves.1 hstillLt) (fun h => absurd hstillLt h), ?_⟩
    simp only [ahead, hstepLg, Nat.cast_zero, Nat.cast_one, mul_zero, mul_one, add_zero]
  · by_cases hstillLg : deltaLg / length = 0
    · rw [if_neg hstillLt, if_pos hstillLg]
      refine ⟨1, 0, .column hstillLt (fun h => h.moves.2 hstillLg) (fun h => absurd hstillLg h), ?_⟩
      simp only [ahead, hstepLt, Nat.cast_zero, Nat.cast_one, mul_zero, mul_one, add_zero]
    · rw [if_neg hstillLt, if_neg hstillLg]
      dsimp only
      split_ifs with hclose hless
      · refine ⟨1, 1, .corner (.inr ⟨hlt, hlg, hstillLt, hstillLg, hclose⟩), ?_⟩
        simp only [ahead, hstepLt, hstepLg, Nat.cast_one, mul_one]
      · refine ⟨1, 0, .column hstillLt (fun h => hclose (htogether h)) (fun _ => ?_), ?_⟩
        · exact ((div_lt_div_iff_of_pos_right hlength).1 hless).le
        · simp only [ahead, hstepLt, Nat.cast_zero, Nat.cast_one, mul_zero, mul_one, add_zero]
      · refine ⟨0, 1, .row hstillLg (fun h => hclose (htogether h)) (fun _ => ?_), ?_⟩
        · exact (div_le_div_iff_of_pos_right hlength).1 (not_lt.1 hless)
        · simp only [ahead, hstepLg, Nat.cast_zero, Nat.cast_one, mul_zero, mul_one, add_zero]

/-- What the probe finds in another cell lies behind the boundaries that were met before it. -/
theorem probed_credits (hslowLt : |course.alongLt| ≤ 1) (hslowLg : |course.alongLg| ≤ 1)
    (hother : navigation.cellFor (course.lt + course.alongLt * navigation.probe)
      (course.lg + course.alongLg * navigation.probe) ≠ navigation.cellFor course.lt course.lg) :
    navigation.Credits course (navigation.passedLt course navigation.probe)
      (navigation.passedLg course navigation.probe) := by
  have hsize := navigation.cellSize_pos
  have hprobe : navigation.probe < navigation.cellSize :=
    mul_lt_of_lt_one_right hsize (by norm_num)
  have honeLt : navigation.passedLt course navigation.probe ≤ 1 := by
    apply passed_le_one hsize navigation.probe_nonneg hslowLt
    exact hprobe.trans_le (le_add_of_nonneg_left (boundary_nonneg hsize))
  have honeLg : navigation.passedLg course navigation.probe ≤ 1 := by
    apply passed_le_one hsize navigation.probe_nonneg hslowLg
    exact hprobe.trans_le (le_add_of_nonneg_left (boundary_nonneg hsize))
  rcases Nat.le_one_iff_eq_zero_or_eq_one.1 honeLt with hlt | hlt <;>
    rcases Nat.le_one_iff_eq_zero_or_eq_one.1 honeLg with hlg | hlg
  · rw [cellFor_along navigation.probe_nonneg, hlt, hlg, ahead_zero] at hother
    exact absurd rfl hother
  · rw [hlt, hlg]
    apply Credits.row
    · intro hstill
      rw [passedLg, passed_still hstill] at hlg
      omega
    · rintro (⟨h, -⟩ | ⟨-, h, -⟩) <;> omega
    · intro hmoves
      refine (boundary_le hsize navigation.probe_nonneg hlg.ge).trans (not_lt.1 fun hless => ?_)
      have hpos : 1 ≤ navigation.passedLt course navigation.probe := passed_pos hsize hmoves hless
      omega
  · rw [hlt, hlg]
    apply Credits.column
    · intro hstill
      rw [passedLt, passed_still hstill] at hlt
      omega
    · rintro (⟨-, h⟩ | ⟨h, -⟩) <;> omega
    · intro hmoves
      refine (boundary_le hsize navigation.probe_nonneg hlt.ge).trans (not_lt.1 fun hless => ?_)
      have hpos : 1 ≤ navigation.passedLg course navigation.probe := passed_pos hsize hmoves hless
      omega
  · rw [hlt, hlg]
    exact .corner (.inl ⟨hlt.ge, hlg.ge⟩)

/-! ## The recorded cell -/

/-- The parent of a finer cell is the cell of its points. -/
theorem coarseParent_floor (lt lg : K) :
    navigation.coarseParent ⟨⌊lt / navigation.refinedCellSize⌋, ⌊lg / navigation.refinedCellSize⌋⟩ =
      navigation.cellFor lt lg := by
  have hfactor : (navigation.refinementFactor : K) ≠ 0 := by
    have h := navigation.refinementFactor_ok
    exact_mod_cast (by omega : navigation.refinementFactor ≠ 0)
  have hscale (value : K) : value / navigation.refinedCellSize / navigation.refinementFactor =
      value / navigation.cellSize := by
    rw [refinedCellSize, div_div, div_mul_cancel₀ _ hfactor]
  simp only [coarseParent, cellFor, ← Int.floor_div_natCast, hscale]

omit [IsStrictOrderedRing K] in
theorem Credits.count_le (h : navigation.Credits course countLt countLg) :
    countLt ≤ 1 ∧ countLg ≤ 1 := by
  cases h <;> omega

omit [IsStrictOrderedRing K] in
theorem Credits.still (h : navigation.Credits course countLt countLg) :
    (course.alongLt = 0 → countLt = 0) ∧ (course.alongLg = 0 → countLg = 0) := by
  cases h with
  | corner htogether =>
    exact ⟨fun h => absurd h htogether.moves.1, fun h => absurd h htogether.moves.2⟩
  | column hmoves => exact ⟨fun h => absurd h hmoves, fun _ => rfl⟩
  | row hmoves => exact ⟨fun _ => rfl, fun h => absurd h hmoves⟩

/-- A finer cell is found in the credited cell when the course is separate. -/
theorem refinedCellEntered_eq (h : navigation.Credits course countLt countLg)
    (hslowLt : |course.alongLt| ≤ 1) (hslowLg : |course.alongLg| ≤ 1) :
    ∃ refined, (navigation.coarseParent refined = navigation.ahead course countLt countLg ↔
        navigation.Separate course) ∧
      navigation.refinedCellEntered (navigation.ahead course countLt countLg) course.lt course.lg
          course.alongLt course.alongLg =
        if navigation.coarseParent refined = navigation.ahead course countLt countLg then .ok refined
        else .error .leftCell := by
  have hsize := navigation.cellSize_pos
  obtain ⟨hcountLt, hcountLg⟩ := h.count_le
  obtain ⟨hstillLt, hstillLg⟩ := h.still
  have hentrance (a b : K) : max (max 0 a) b = max (max 0 a) (max 0 b) := by
    rw [← max_assoc, max_eq_left (le_max_left 0 a)]
  have hnonneg : 0 ≤ navigation.entered course countLt countLg :=
    add_nonneg (le_max_of_le_left (entrance_nonneg hsize countLt)) navigation.overshoot_pos.le
  unfold refinedCellEntered
  dsimp only [ahead]
  rw [hentrance, crossing_eq hsize hcountLt hstillLt, crossing_eq hsize hcountLg hstillLg]
  refine ⟨_, ?_, rfl⟩
  rw [coarseParent_floor, ← h.settles hslowLt hslowLg, cellFor, NavigationCell.mk.injEq]
  exact and_congr (floor_eq_iff hsize hnonneg hstillLt) (floor_eq_iff hsize hnonneg hstillLg)

end Crediting

/-! ## Learning -/

section Learning

variable [FloorRing K] (navigation : SparseNavigationMap K)

/-- What learning an obstacle should leave: a neighbour of the cell of the position is credited, a
finer cell of it is recorded, and no obstacle is forgotten. -/
structure Learned (position : PlayerPosition K) (cell : NavigationCell)
    (after : SparseNavigationMap K) : Prop where
  other : cell ≠ navigation.cellFor position.lt position.lg
  adjacent : max |cell.x - (navigation.cellFor position.lt position.lg).x|
    |cell.y - (navigation.cellFor position.lt position.lg).y| = 1
  recorded : ∃ refined, navigation.coarseParent refined = cell ∧
    after.refinedLearnedBlocked = insert refined navigation.refinedLearnedBlocked
  credited : cell ∈ after.blocked ∧ cell ∈ after.learnedBlocked
  kept : navigation.blocked ⊆ after.blocked ∧ navigation.learnedBlocked ⊆ after.learnedBlocked ∧
    navigation.refinedLearnedBlocked ⊆ after.refinedLearnedBlocked

variable {navigation} [IsStrictOrderedRing K]

omit [FloorRing K] [IsStrictOrderedRing K] in
theorem stepTowards_moves (h : direction ≠ 0) :
    stepTowards direction = 1 ∨ stepTowards direction = -1 := by
  rcases h.lt_or_gt with hneg | hpos
  · exact .inr (stepTowards_falling hneg)
  · exact .inl (stepTowards_rising hpos)

omit [IsStrictOrderedRing K] in
/-- The credited cell is a neighbour of the cell of the start. -/
theorem Credits.neighbour (h : navigation.Credits course countLt countLg) :
    navigation.ahead course countLt countLg ≠ navigation.cellFor course.lt course.lg ∧
      max |(navigation.ahead course countLt countLg).x -
          (navigation.cellFor course.lt course.lg).x|
        |(navigation.ahead course countLt countLg).y -
          (navigation.cellFor course.lt course.lg).y| = 1 := by
  unfold ahead cellFor
  rw [Ne, NavigationCell.mk.injEq]
  dsimp only
  rw [add_sub_cancel_left, add_sub_cancel_left]
  cases h with
  | corner htogether =>
    rcases stepTowards_moves htogether.moves.1 with hlt | hlt <;>
      rcases stepTowards_moves htogether.moves.2 with hlg | hlg <;>
      rw [hlt, hlg] <;>
      exact ⟨by omega, by decide⟩
  | column hmoves =>
    rw [Nat.cast_zero, mul_zero]
    rcases stepTowards_moves hmoves with hlt | hlt <;> rw [hlt] <;> exact ⟨by omega, by decide⟩
  | row hmoves =>
    rw [Nat.cast_zero, mul_zero]
    rcases stepTowards_moves hmoves with hlg | hlg <;> rw [hlg] <;> exact ⟨by omega, by decide⟩

omit [IsStrictOrderedRing K] in
theorem Credits.learned {position : PlayerPosition K} {refined : NavigationCell}
    (h : navigation.Credits course countLt countLg) (hlt : position.lt = course.lt)
    (hlg : position.lg = course.lg)
    (hrefined : navigation.coarseParent refined = navigation.ahead course countLt countLg) :
    navigation.Learned position (navigation.ahead course countLt countLg)
      (navigation.markRefinedLearnedBlocked (navigation.ahead course countLt countLg) refined) where
  other := by
    rw [hlt, hlg]
    exact h.neighbour.1
  adjacent := by
    rw [hlt, hlg]
    exact h.neighbour.2
  recorded := ⟨refined, hrefined, rfl⟩
  credited := ⟨Finset.mem_insert_self _ _, Finset.mem_insert_self _ _⟩
  kept := ⟨Finset.subset_insert _ _, Finset.subset_insert _ _, Finset.subset_insert _ _⟩

variable {metric : Metric K} {position : PlayerPosition K} {destination : TravelDestination K}

variable (navigation) in
/-- A stall on the way to another place is credited to a neighbour. -/
theorem markBlockedAhead_eq (hlegs : ∀ x y, |x| ≤ metric.hypot x y ∧ |y| ≤ metric.hypot x y)
    (h : destination.lt ≠ position.lt ∨ destination.lg ≠ position.lg)
    (hcourse : courseTo metric position destination = course) :
    ∃ countLt countLg refined, navigation.Credits course countLt countLg ∧
      (navigation.coarseParent refined = navigation.ahead course countLt countLg ↔
        navigation.Separate course) ∧
      navigation.markBlockedAhead metric position destination =
        if navigation.coarseParent refined = navigation.ahead course countLt countLg
        then .ok (navigation.ahead course countLt countLg,
          navigation.markRefinedLearnedBlocked (navigation.ahead course countLt countLg) refined)
        else .error .leftCell := by
  have hapart : ¬(destination.lt - position.lt = 0 ∧ destination.lg - position.lg = 0) := by
    rw [sub_eq_zero, sub_eq_zero, not_and_or]
    exact h
  have hlength : 0 < metric.hypot (destination.lt - position.lt) (destination.lg - position.lg) :=
    lt_of_le_of_ne (metric.hypot_nonneg _ _)
      (fun hzero => hapart ((metric.hypot_eq_zero _ _).1 hzero.symm))
  have hslow {delta : K}
      (hleg : |delta| ≤ metric.hypot (destination.lt - position.lt) (destination.lg - position.lg)) :
      |delta / metric.hypot (destination.lt - position.lt) (destination.lg - position.lg)| ≤ 1 := by
    rw [abs_div, abs_of_pos hlength]
    exact div_le_one_of_le₀ hleg hlength.le
  have hslowLt : |course.alongLt| ≤ 1 := hcourse ▸ hslow (hlegs _ _).1
  have hslowLg : |course.alongLg| ≤ 1 := hcourse ▸ hslow (hlegs _ _).2
  have hmoves : course.alongLt ≠ 0 ∨ course.alongLg ≠ 0 := by
    subst hcourse
    rcases not_and_or.1 hapart with hlt | hlg
    · exact .inl (div_ne_zero hlt hlength.ne')
    · exact .inr (div_ne_zero hlg hlength.ne')
  obtain ⟨countLt, countLg, hcredits, hcell⟩ : ∃ countLt countLg,
      navigation.Credits course countLt countLg ∧
      (if navigation.cellFor (course.lt + course.alongLt * navigation.probe)
            (course.lg + course.alongLg * navigation.probe) = navigation.cellFor course.lt course.lg
        then navigation.enteredNext (navigation.cellFor course.lt course.lg) course.lt course.lg
          (destination.lt - position.lt) (destination.lg - position.lg)
        else navigation.cellFor (course.lt + course.alongLt * navigation.probe)
          (course.lg + course.alongLg * navigation.probe)) =
        navigation.ahead course countLt countLg := by
    subst hcourse
    split_ifs with hprobed
    · obtain ⟨hlt, hlg⟩ := NavigationCell.mk.inj hprobed
      apply enteredNext_eq rfl hlength hmoves
      · exact Int.natAbs_eq_zero.2 (sub_eq_zero.2 hlt)
      · exact Int.natAbs_eq_zero.2 (sub_eq_zero.2 hlg)
    · exact ⟨_, _, probed_credits hslowLt hslowLg hprobed, cellFor_along navigation.probe_nonneg⟩
  obtain ⟨refined, hseparate, hrefined⟩ := refinedCellEntered_eq hcredits hslowLt hslowLg
  refine ⟨countLt, countLg, refined, hcredits, hseparate, ?_⟩
  subst hcourse
  unfold markBlockedAhead
  dsimp only
  rw [if_neg hlength.ne']
  -- the finer cell is looked for from the cell that either rule credits
  refine (congrArg (fun cell => navigation.refinedCellEntered cell _ _ _ _ >>= fun refined =>
    pure (cell, navigation.markRefinedLearnedBlocked cell refined)) hcell).trans ?_
  refine (congrArg (· >>= _) hrefined).trans ?_
  split_ifs <;> rfl

variable (navigation) in
/-- On any other course the finer cell is not one of the credited cell. -/
theorem fails_of_not_separate (hlegs : ∀ x y, |x| ≤ metric.hypot x y ∧ |y| ≤ metric.hypot x y)
    (h : destination.lt ≠ position.lt ∨ destination.lg ≠ position.lg)
    (hseparate : ¬navigation.Separate (courseTo metric position destination)) :
    navigation.markBlockedAhead metric position destination = .error .leftCell := by
  obtain ⟨countLt, countLg, refined, hcredits, hfound, hmark⟩ :=
    navigation.markBlockedAhead_eq hlegs h rfl
  rwa [if_neg (fun hparent => hseparate (hfound.1 hparent))] at hmark

end Learning

/-! ## Learning in the plane -/

section Plane

variable (navigation : SparseNavigationMap ℝ) {position : PlayerPosition ℝ}
  {destination : TravelDestination ℝ}

/-- A side of a right triangle is no longer than its hypotenuse. -/
theorem real_legs (x y : ℝ) : |x| ≤ Metric.real.hypot x y ∧ |y| ≤ Metric.real.hypot x y :=
  ⟨Complex.abs_re_le_norm ⟨x, y⟩, Complex.abs_im_le_norm ⟨x, y⟩⟩

/-- An obstacle is learned on the separate courses, and on no other ones. -/
theorem learns_iff_separate
    (h : destination.lt ≠ position.lt ∨ destination.lg ≠ position.lg) :
    (∃ cell after, navigation.markBlockedAhead Metric.real position destination =
        .ok (cell, after) ∧ navigation.Learned position cell after) ↔
      navigation.Separate (courseTo Metric.real position destination) := by
  constructor
  · rintro ⟨cell, after, hmark, -⟩
    by_contra hseparate
    rw [navigation.fails_of_not_separate real_legs h hseparate] at hmark
    cases hmark
  · intro hseparate
    obtain ⟨countLt, countLg, refined, hcredits, hfound, hmark⟩ :=
      navigation.markBlockedAhead_eq real_legs h rfl
    rw [if_pos (hfound.2 hseparate)] at hmark
    exact ⟨_, _, hmark, hcredits.learned rfl rfl (hfound.2 hseparate)⟩

/-- A map of unit cells, each of four finer ones. -/
def tiled : SparseNavigationMap ℝ where
  cellSize := 1
  cellSize_pos := one_pos
  refinementFactor_ok := defaultFactor_ok

/-- Along a row an obstacle is learned. -/
theorem tiled_learns_along_row : ∃ cell after,
    tiled.markBlockedAhead Metric.real ⟨1 / 2, 1 / 2⟩ ⟨5 / 2, 1 / 2, 1, one_pos⟩ =
      .ok (cell, after) ∧ tiled.Learned ⟨1 / 2, 1 / 2⟩ cell after := by
  refine (tiled.learns_iff_separate (.inl (by norm_num))).2 ?_
  have hstill : (courseTo Metric.real ⟨1 / 2, 1 / 2⟩ ⟨5 / 2, 1 / 2, 1, one_pos⟩).alongLg = 0 := by
    show ((1 / 2 - 1 / 2 : ℝ)) / _ = 0
    rw [sub_self, zero_div]
  exact ⟨fun htogether => absurd hstill htogether.moves.2, fun _ => .inl (passed_still hstill)⟩

/-- From just below a corner of its cell to a place three columns and four rows further. -/
noncomputable def grazing : Course ℝ := ⟨11 / 20, 4 / 10 - 1 / 10 ^ 7, 3 / 5, 4 / 5, 5⟩

theorem courseTo_grazing :
    courseTo Metric.real ⟨11 / 20, 4 / 10 - 1 / 10 ^ 7⟩ ⟨71 / 20, 44 / 10 - 1 / 10 ^ 7, 1, one_pos⟩ =
      grazing := by
  have hlength : Metric.real.hypot 3 4 = 5 := by
    show ‖(⟨3, 4⟩ : ℂ)‖ = 5
    rw [Complex.norm_def, Complex.normSq_mk, show (3 * 3 + 4 * 4 : ℝ) = 5 ^ 2 by norm_num]
    exact Real.sqrt_sq (by norm_num)
  have hlt : (71 / 20 - 11 / 20 : ℝ) = 3 := by norm_num
  have hlg : (44 / 10 - 1 / 10 ^ 7 - (4 / 10 - 1 / 10 ^ 7) : ℝ) = 4 := by norm_num
  unfold courseTo grazing
  dsimp only
  rw [hlt, hlg, hlength]

/-- It leaves its column just where the probe looks, and its row just behind that. -/
theorem not_separate_grazing : ¬tiled.Separate grazing := by
  have hprobe : tiled.probe = 75 / 100 := one_mul _
  have hover : tiled.overshoot = 1 / 2 * (1 / 10 ^ 6) := by
    show (1 : ℝ) / ((2 : ℕ) : ℝ) * _ = _
    norm_num
  have hfloorLt : ⌊(11 / 20 : ℝ) / 1⌋ = 0 := by norm_num
  have hfloorLg : ⌊(4 / 10 - 1 / 10 ^ 7 : ℝ) / 1⌋ = 0 := by norm_num
  have hboundaryLt : tiled.boundaryLt grazing = 3 / 4 := by
    show boundary 1 (11 / 20) (3 / 5) = 3 / 4
    rw [boundary, hfloorLt]
    norm_num
  have hboundaryLg : tiled.boundaryLg grazing = 3 / 4 + 1 / 8 * (1 / 10 ^ 6) := by
    show boundary 1 (4 / 10 - 1 / 10 ^ 7) (4 / 5) = _
    rw [boundary, hfloorLg]
    norm_num
  have hapart : ¬tiled.TakenTogether grazing := by
    have hlt : tiled.passedLt grazing tiled.probe = 1 := by
      show passed 1 (11 / 20) (3 / 5) tiled.probe = 1
      rw [hprobe, passed, hfloorLt]
      norm_num
    have hlg : tiled.passedLg grazing tiled.probe = 0 := by
      show passed 1 (4 / 10 - 1 / 10 ^ 7) (4 / 5) tiled.probe = 0
      rw [hprobe, passed, hfloorLg]
      norm_num
    rintro (⟨-, h⟩ | ⟨h, -⟩)
    · omega
    · omega
  rintro ⟨-, hseparate⟩
  rcases hseparate hapart with hnone | hnone
  · have hpos : 1 ≤ tiled.passedLg grazing (tiled.boundaryLt grazing + tiled.overshoot) := by
      apply passed_pos tiled.cellSize_pos (by norm_num [grazing])
      show tiled.boundaryLg _ < _
      rw [hboundaryLt, hboundaryLg, hover]
      norm_num
    omega
  · have hpos : 1 ≤ tiled.passedLt grazing (tiled.boundaryLg grazing + tiled.overshoot) := by
      apply passed_pos tiled.cellSize_pos (by norm_num [grazing])
      show tiled.boundaryLt _ < _
      rw [hboundaryLt, hboundaryLg, hover]
      norm_num
    omega

/-- No obstacle is learned on that way: the finer cell lies in the row behind. -/
theorem grazing_unlearned :
    tiled.markBlockedAhead Metric.real ⟨11 / 20, 4 / 10 - 1 / 10 ^ 7⟩
        ⟨71 / 20, 44 / 10 - 1 / 10 ^ 7, 1, one_pos⟩ = .error .leftCell ∧
      ¬∃ cell after, tiled.markBlockedAhead Metric.real ⟨11 / 20, 4 / 10 - 1 / 10 ^ 7⟩
          ⟨71 / 20, 44 / 10 - 1 / 10 ^ 7, 1, one_pos⟩ = .ok (cell, after) ∧
        tiled.Learned ⟨11 / 20, 4 / 10 - 1 / 10 ^ 7⟩ cell after := by
  have hfails : tiled.markBlockedAhead Metric.real ⟨11 / 20, 4 / 10 - 1 / 10 ^ 7⟩
      ⟨71 / 20, 44 / 10 - 1 / 10 ^ 7, 1, one_pos⟩ = .error .leftCell := by
    apply tiled.fails_of_not_separate real_legs (.inl (by norm_num))
    rw [courseTo_grazing]
    exact not_separate_grazing
  refine ⟨hfails, ?_⟩
  rintro ⟨cell, after, hmark, -⟩
  rw [hfails] at hmark
  cases hmark

end Plane

end SparseNavigationMap

end ShadowbaneLab
