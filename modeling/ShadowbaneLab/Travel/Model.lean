/-
# Travel plans, observations and decisions

The typed values of `src/shadowbane_lab/travel/model.py`.  A decision is not validated when
it is made: its status says whether it carries a command, an arrival or a reason to stop, so
that the combinations the source's constructor rejects cannot be written down.
-/
import Mathlib.Analysis.Complex.Norm
import ShadowbaneLab.Travel.Pathfinding

namespace ShadowbaneLab

open Foundation

/-! ## Distances -/

/-- The functions on distances that the travel code calls, with the documented facts it
relies on. -/
structure Metric (K : Type) [Field K] [LinearOrder K] extends Diagonal K where
  /-- `math.hypot(x, y)`. -/
  hypot : K → K → K
  /-- `math.sqrt(x)`. -/
  sqrt : K → K
  hypot_nonneg : ∀ x y, 0 ≤ hypot x y
  hypot_eq_zero : ∀ x y, hypot x y = 0 ↔ x = 0 ∧ y = 0
  hypot_add_le : ∀ x y x' y', hypot (x + x') (y + y') ≤ hypot x y + hypot x' y'
  hypot_neg : ∀ x y, hypot (-x) (-y) = hypot x y

/-- The metric of the plane over the real numbers. -/
noncomputable def Metric.real : Metric ℝ where
  toDiagonal := Diagonal.real
  hypot x y := ‖(⟨x, y⟩ : ℂ)‖
  sqrt := Real.sqrt
  hypot_nonneg x y := norm_nonneg _
  hypot_eq_zero x y := by
    rw [norm_eq_zero, Complex.ext_iff]
    rfl
  hypot_add_le x y x' y' := norm_add_le (⟨x, y⟩ : ℂ) ⟨x', y'⟩
  hypot_neg x y := norm_neg (⟨x, y⟩ : ℂ)

/-- A metric over the rational numbers, exact along the axes and for square roots that are
rational; it serves for points on a line. -/
def Metric.axial : Metric ℚ where
  root := 3 / 2
  one_le := by norm_num
  le_two := by norm_num
  hypot x y := |x| + |y|
  sqrt x := (x.num.toNat.sqrt : ℚ) / x.den.sqrt
  hypot_nonneg := Runtime.sample.hypot_nonneg
  hypot_eq_zero := Runtime.sample.hypot_eq_zero
  hypot_add_le x y x' y' := by
    have hx := abs_add_le x x'
    have hy := abs_add_le y y'
    linarith
  hypot_neg := Runtime.sample.hypot_neg

/-- `Vector2`, over any numbers. -/
structure PlanarVector (K : Type) where
  x : K
  y : K
  deriving DecidableEq

variable {K : Type} [Field K] [LinearOrder K]

/-- `NativePlayerPositionObservation`, without the altitude, which travel ignores. -/
structure PlayerPosition (K : Type) where
  lt : K
  lg : K
  deriving DecidableEq

structure TravelDestination (K : Type) [Field K] [LinearOrder K] where
  lt : K
  lg : K
  arrivalRadius : K
  arrivalRadius_pos : 0 < arrivalRadius
  deriving DecidableEq

namespace TravelDestination

variable (metric : Metric K) (destination : TravelDestination K) (position : PlayerPosition K)

/-- `distance_from`. -/
def distanceFrom : K := metric.hypot (destination.lt - position.lt) (destination.lg - position.lg)

/-- Whether a position is within the arrival radius. -/
def Reached : Prop := destination.distanceFrom metric position ≤ destination.arrivalRadius

instance : Decidable (destination.Reached metric position) := inferInstanceAs (Decidable (_ ≤ _))

end TravelDestination

structure TravelPlan (K : Type) [Field K] [LinearOrder K] where
  planId : String
  destinations : List (TravelDestination K)
  planId_ok : Identifier planId
  destinations_ne : destinations ≠ []

/-! ## Maneuvers and decisions -/

inductive TravelPhase where
  | traveling
  | complete
  | stopped
  deriving DecidableEq, Repr

inductive TravelManeuver where
  | direct
  | escapeBacktrack
  | escapeBackLeft
  | escapeBackRight
  | escapeSweepLeft
  | escapeSweepRight
  | escapeBypassLeft
  | escapeBypassRight
  deriving DecidableEq, Repr

/-- The movement a decision asks for; only a direct one can be a refresh of progress. -/
structure TravelCommand (K : Type) where
  minimapDirection : PlanarVector K
  maneuver : TravelManeuver
  clickDestination : Option (PlanarVector K) := none
  progressRefresh : Bool := false
  refresh_ok : progressRefresh = true → maneuver = .direct
  deriving DecidableEq

/-- The phase of a decision, with what only that phase can carry: a command while
traveling, the arrival destination when complete, the terminal reason when stopped. -/
inductive TravelStatus (K : Type) [Field K] [LinearOrder K] where
  | traveling (command : Option (TravelCommand K))
  | complete (arrivalDestination : TravelDestination K)
  | stopped (terminalReason : String)
  deriving DecidableEq

structure TravelDecision (K : Type) [Field K] [LinearOrder K] where
  decisionId : ℕ
  nowMs : ℕ
  waypointIndex : ℕ
  distanceRemaining : K
  clickCount : ℕ
  status : TravelStatus K
  deriving DecidableEq

namespace TravelDecision

variable (decision : TravelDecision K)

def phase : TravelPhase :=
  match decision.status with
  | .traveling _ => .traveling
  | .complete _ => .complete
  | .stopped _ => .stopped

/-- The command of a decision, if it has one. -/
def command : Option (TravelCommand K) :=
  match decision.status with
  | .traveling command => command
  | _ => none

def terminalReason : Option String :=
  match decision.status with
  | .traveling _ => none
  | .complete _ => some "destination_reached"
  | .stopped reason => some reason

def terminal : Bool := decision.phase = .complete || decision.phase = .stopped

/-- A decision without its command and without an end. -/
def withdrawn (waypointIndex clickCount : ℕ) : TravelDecision K :=
  { decision with
    waypointIndex := waypointIndex
    clickCount := clickCount
    status := .traveling none }

end TravelDecision

/-! ## Configuration and observations -/

structure TravelControllerConfig (K : Type) [Field K] [LinearOrder K] where
  maximumClickDistance : K := 50
  escapeBacktrackDistance : K := 10
  maximumSessionMs : ℕ := 300000
  clickIntervalMs : ℕ := 4000
  targetRefreshIntervalMs : ℕ := 200
  targetRefreshLeadMs : ℕ := 400
  maximumClicks : ℕ := 100
  minimumProgress : K := 25
  maximumNoProgressClicks : ℕ := 3
  maximumEscapeSequences : ℕ := 3
  escapeBackupClicks : ℕ := 4
  escapeSweepClicks : ℕ := 6
  escapeBypassClicks : ℕ := 6
  escapeWideningClicksPerSequence : ℕ := 2
  maximumEscapePhaseNoMotionClicks : ℕ := 2
  maximumEscapeSideSwitches : ℕ := 1
  escapeBackupClearance : K := 250
  escapeSweepClearance : K := 350
  escapeWideningClearancePerSequence : K := 150
  escapeReacquireProgress : K := 100
  escapeBudgetResetProgress : K := 1000
  escapeMinimumMotion : K := 15
  escapeBackupLateralRatio : K := 45 / 100
  escapeSweepReverseRatio : K := 2 / 10
  escapeBypassLateralRatio : K := 25 / 100
  minimumHealthFraction : K := 1 / 2
  distances_ok : ∀ value ∈ [maximumClickDistance, escapeBacktrackDistance, minimumProgress,
    escapeBackupClearance, escapeSweepClearance, escapeWideningClearancePerSequence,
    escapeReacquireProgress, escapeBudgetResetProgress, escapeMinimumMotion,
    escapeBackupLateralRatio, escapeSweepReverseRatio, escapeBypassLateralRatio], 0 < value
  counts_ok : ∀ count ∈ [maximumSessionMs, clickIntervalMs, targetRefreshIntervalMs,
    targetRefreshLeadMs, maximumClicks, maximumNoProgressClicks, escapeBackupClicks,
    escapeSweepClicks, escapeBypassClicks, maximumEscapePhaseNoMotionClicks], 0 < count
  minimumHealthFraction_ok : 0 < minimumHealthFraction ∧ minimumHealthFraction ≤ 1
  interval_ok : clickIntervalMs ≤ maximumSessionMs

/-- A destination and the five units around it. -/
def TravelDestination.around (lt lg : ℚ) : TravelDestination ℚ := ⟨lt, lg, 5, by norm_num⟩

/-- The defaults. -/
def TravelControllerConfig.standard : TravelControllerConfig ℚ where
  distances_ok := by decide +kernel
  counts_ok := by decide
  minimumHealthFraction_ok := by decide +kernel
  interval_ok := by decide

structure TravelObservation (K : Type) where
  nowMs : ℕ
  position : PlayerPosition K
  healthFraction : K
  deriving DecidableEq

end ShadowbaneLab
