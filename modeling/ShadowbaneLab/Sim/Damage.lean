/-
# Amounts, damage transactions and absorption

The pure parts of effect execution: scaled amounts (`src/shadowbane_lab/sim/effects.py`),
the validated damage transaction (`sim/damage.py`) and the order in which absorbers are
drained.
-/
import Mathlib.Tactic.Linarith
import ShadowbaneLab.Sim.World

namespace ShadowbaneLab

open Foundation

/-! ## Scaled amounts -/

/-- `_scaled_amount`; integer ranges become continuous ones. -/
def scaledAmount (amount : AmountSpec) (factor : ℚ) (h : 0 < factor) : AmountSpec :=
  match amount with
  | .fixed value positive => .fixed (value * factor) (mul_pos positive h)
  | .uniform a => .uniform ⟨a.minimum * factor, a.maximum * factor, mul_pos a.minimum_pos h,
      mul_lt_mul_of_pos_right a.ordered h⟩
  | .triangular a => .triangular ⟨a.minimum * factor, a.maximum * factor,
      mul_pos a.minimum_pos h, mul_lt_mul_of_pos_right a.ordered h⟩
  | .uniformInteger a => .uniform ⟨a.minimum * factor, a.maximum * factor,
      mul_pos (Nat.cast_pos.mpr a.minimum_pos) h,
      mul_lt_mul_of_pos_right (Nat.cast_lt.mpr a.ordered) h⟩
  | .weighted a => .weighted
      { outcomes := a.outcomes.map (fun e => (e.1 * factor, e.2))
        nonempty := by simpa using a.nonempty
        sorted := by
          have := a.sorted
          rw [List.pairwise_map] at this
          rw [List.map_map, List.pairwise_map]
          exact this.imp (fun hlt => mul_lt_mul_of_pos_right hlt h)
        positive := by
          intro e he
          obtain ⟨e', he', rfl⟩ := List.mem_map.mp he
          exact ⟨mul_pos (a.positive e' he').1 h, (a.positive e' he').2⟩
        total_le := by
          have := a.total_le
          rw [List.map_map]
          exact this }

/-- The product of the damage multipliers of some attack modifiers. -/
def damageMultiplier (modifiers : List AttackModifierSpec) : ℚ :=
  (modifiers.map AttackModifierSpec.damageMultiplier).prod

theorem damageMultiplier_pos (modifiers : List AttackModifierSpec) :
    0 < damageMultiplier modifiers := by
  induction modifiers with
  | nil => exact one_pos
  | cons m modifiers ih =>
    rw [damageMultiplier, List.map_cons, List.prod_cons]
    exact mul_pos m.multiplier_pos ih

/-! ## Damage transactions -/

/-- One normalized damage commitment after the attack and resistance stages. -/
structure DamageTransaction where
  damageType : String
  requested : ℚ
  postResistance : ℚ
  resistancePercent : ℚ := 0
  armorPiercing : ℚ := 0
  breakpointDamageType : Option DamageType := none
  breakpointAmount : ℚ := 0
  tags : List String := []
  requested_nonneg : 0 ≤ requested
  postResistance_nonneg : 0 ≤ postResistance
  breakpointAmount_nonneg : 0 ≤ breakpointAmount

namespace DamageTransaction

/-- The constructor's checks on its amounts, in its order. -/
def make (damageType : String) (requested postResistance resistancePercent armorPiercing : ℚ)
    (breakpointDamageType : Option DamageType) (breakpointAmount : ℚ) (tags : List String) :
    Except Fault DamageTransaction :=
  if hrequested : 0 ≤ requested then
    if hpost : 0 ≤ postResistance then
      if hbreakpoint : 0 ≤ breakpointAmount then
        .ok
          { damageType := damageType
            requested := requested
            postResistance := postResistance
            resistancePercent := resistancePercent
            armorPiercing := armorPiercing
            breakpointDamageType := breakpointDamageType
            breakpointAmount := breakpointAmount
            tags := tags.eraseDups
            requested_nonneg := hrequested
            postResistance_nonneg := hpost
            breakpointAmount_nonneg := hbreakpoint }
      else .error (.valueError "breakpoint_amount must not be negative")
    else .error (.valueError "post_resistance must not be negative")
  else .error (.valueError "requested must not be negative")

def resistanceFraction (transaction : DamageTransaction) : ℚ := transaction.resistancePercent / 100

def resisted (transaction : DamageTransaction) : ℚ :=
  transaction.requested - transaction.postResistance

end DamageTransaction

/-- `DamageResolution`: what committing a transaction did to the subject's health. -/
structure DamageResolution where
  absorbed : ℚ
  healthBefore : ℚ
  healthAfter : ℚ

def DamageResolution.effective (resolution : DamageResolution) : ℚ :=
  resolution.healthBefore - resolution.healthAfter

/-- The checks of the resolution's constructor, in its order. -/
def DamageResolution.check (resolution : DamageResolution) (transaction : DamageTransaction) :
    Except Fault Unit := do
  require (0 ≤ resolution.absorbed) (.valueError "absorbed must not be negative")
  require (0 ≤ resolution.healthBefore) (.valueError "health_before must not be negative")
  require (0 ≤ resolution.healthAfter) (.valueError "health_after must not be negative")
  require (resolution.healthAfter ≤ resolution.healthBefore)
    (.valueError "damage resolution cannot increase health")
  require (resolution.absorbed ≤ transaction.postResistance)
    (.valueError "absorbed damage cannot exceed post-resistance damage")

/-! ## Absorption -/

/-- The absorbers that apply to a damage type, in the order they are drained. -/
def absorbers (damageType : String) (subject : EntityState) : List (String × EffectRecord) :=
  sortBy (fun e => toLex (e.2.expiresAtMs, e.1)) (subject.records.filter (fun e =>
    0 < e.2.magnitude && ("damage.absorb.all" ∈ e.2.tags ||
      "damage.absorb." ++ damageType ∈ e.2.tags)))

theorem intrinsic_absorbers (damageType : String) : Intrinsic (absorbers damageType) :=
  intrinsic_sorted_records (fun e => toLex (e.2.expiresAtMs, e.1))
    (fun _ _ h => congrArg (fun k : ℕ ×ₗ String => (ofLex k).2) h) _

/-- How much each absorber in turn takes of an amount. -/
def absorptionPlan : ℚ → List (String × EffectRecord) → List ((String × EffectRecord) × ℚ)
  | _, [] => []
  | remaining, absorber :: rest =>
    if remaining ≤ 0 then []
    else
      let absorbed := min remaining absorber.2.magnitude
      if absorbed ≤ 0 then absorptionPlan remaining rest
      else (absorber, absorbed) :: absorptionPlan (remaining - absorbed) rest

/-- The total a plan absorbs. -/
def totalAbsorbed (plan : List ((String × EffectRecord) × ℚ)) : ℚ := (plan.map Prod.snd).sum

/-- Absorbers never take more than there is. -/
theorem totalAbsorbed_le {amount : ℚ} (h : 0 ≤ amount) (l : List (String × EffectRecord)) :
    totalAbsorbed (absorptionPlan amount l) ≤ amount := by
  induction l generalizing amount with
  | nil => exact h
  | cons absorber rest ih =>
    rw [absorptionPlan]
    split
    · exact h
    · dsimp only
      split
      · exact ih h
      · have hmin : min amount absorber.2.magnitude ≤ amount := min_le_left _ _
        have hrest := ih (sub_nonneg.mpr hmin)
        rw [totalAbsorbed, List.map_cons, List.sum_cons]
        rw [totalAbsorbed] at hrest
        linarith

end ShadowbaneLab
