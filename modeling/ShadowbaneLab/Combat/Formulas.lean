/-
# Combat vocabularies and formulas

The closed combat vocabularies (`src/shadowbane_lab/combat/types.py`) and the formulas
the simulator calls (`combat/formulas.py`).  The source rounds at single-precision
assignment boundaries; each such boundary is an explicit `rt.f32` here.
-/
import ShadowbaneLab.Foundation.Host

namespace ShadowbaneLab

open Foundation

/-! ## Vocabularies -/

/-- Mutually exclusive character posture used by combat and travel actions. -/
inductive CombatStance where
  | normal
  | offensive
  | defensive
  | precise
  | travel
  deriving DecidableEq, Repr

def CombatStance.value : CombatStance → String
  | .normal => "normal"
  | .offensive => "offensive"
  | .defensive => "defensive"
  | .precise => "precise"
  | .travel => "travel"

/-- Resistance channel of one damage application.  `unknown` is reserved for
unattributed observations. -/
inductive DamageType where
  | slash
  | crush
  | pierce
  | magic
  | bleed
  | poison
  | mental
  | holy
  | unholy
  | lightning
  | fire
  | cold
  | unknown
  deriving DecidableEq, Repr

def DamageType.value : DamageType → String
  | .slash => "slash"
  | .crush => "crush"
  | .pierce => "pierce"
  | .magic => "magic"
  | .bleed => "bleed"
  | .poison => "poison"
  | .mental => "mental"
  | .holy => "holy"
  | .unholy => "unholy"
  | .lightning => "lightning"
  | .fire => "fire"
  | .cold => "cold"
  | .unknown => "unknown"

/-- Every damage channel, in declaration order. -/
def DamageType.all : List DamageType :=
  [.slash, .crush, .pierce, .magic, .bleed, .poison, .mental, .holy, .unholy, .lightning,
    .fire, .cold, .unknown]

/-- `DamageType(text)`, when `text` is the value of a member. -/
def DamageType.parse (text : String) : Option DamageType :=
  DamageType.all.find? (fun t => t.value = text)

/-- Mitigation channels of a combat sheet: the known damage channels, and healing. -/
inductive ResistanceType where
  | channel (damageType : DamageType) (known : damageType ≠ .unknown)
  | healing

def ResistanceType.value : ResistanceType → String
  | .channel damageType _ => damageType.value
  | .healing => "healing"

theorem DamageType.value_injective : Function.Injective DamageType.value := by
  intro left right h
  cases left <;> cases right <;> first | rfl | exact absurd h (by decide)

theorem ResistanceType.value_injective : Function.Injective ResistanceType.value := by
  have hhealing (damageType : DamageType) : damageType.value ≠ "healing" := by
    cases damageType <;> decide
  rintro (⟨left, _⟩ | _) (⟨right, _⟩ | _) h
  · cases DamageType.value_injective h
    rfl
  · exact absurd h (hhealing left)
  · exact absurd h.symm (hhealing right)
  · rfl

instance : DecidableEq ResistanceType := ResistanceType.value_injective.decidableEq

inductive StackPriority where
  | greaterThanOrEqual
  | always
  | greaterThan
  deriving DecidableEq, Repr

/-! ## Hit chances -/

section Formulas

variable (rt : Runtime)

/-- The integer basic-attack hit chance used before passive defenses. -/
def meleeHitChancePercent (attackRating defenseRating : ℚ) : Except Fault ℤ := do
  require (0 ≤ attackRating) (.valueError "attack_rating must not be negative")
  require (0 ≤ defenseRating) (.valueError "defense_rating must not be negative")
  let difference := rt.f32 (attackRating - defenseRating)
  if 100 < difference then pure 94
  else if difference < -100 then pure 4
  else pure (truncate (45 / 100 * difference + 49))

/-- The integer hit chance for powers whose data requires a hit roll. -/
def powerHitChancePercent (attackRating defenseRating : ℚ) : Except Fault ℤ := do
  require (0 ≤ attackRating) (.valueError "attack_rating must not be negative")
  require (0 ≤ defenseRating) (.valueError "defense_rating must not be negative")
  if defenseRating < attackRating ∨ defenseRating = 0 then pure 94
  else
    let ratio := rt.f32 (attackRating / defenseRating)
    if ratio ≤ rt.f32 (8 / 10) then pure 4
    else pure (truncate (rt.f32 (rt.f32 450 * rt.f32 (ratio - rt.f32 (8 / 10)))) + 4)

/-! ## Amounts and resistance -/

/-- The two-uniform centered roll of weapon and health-effect damage. -/
def triangularRoll (minimum maximum firstRoll secondRoll : ℚ) : Except Fault ℚ := do
  require (minimum ≤ maximum) (.valueError "triangular roll bounds must be ordered")
  require (0 ≤ firstRoll ∧ firstRoll < 1) (.valueError "first_roll must be in [0, 1)")
  require (0 ≤ secondRoll ∧ secondRoll < 1) (.valueError "second_roll must be in [0, 1)")
  let span := rt.f32 (maximum - minimum)
  let rolled := rt.f32 (firstRoll * span)
  let rolled := rt.f32 (rt.f32 (rolled + rt.f32 (secondRoll * span)) * rt.f32 (1 / 2))
  pure (rt.f32 (rolled + minimum))

/-- Matching protection, then the server's upper-only 75% resistance cap. -/
def effectiveResistance (resistance : ℚ) (protectionTrains incomingTrains : ℕ)
    (protectionApplies : Bool) : ℚ :=
  let amount :=
    if 0 < incomingTrains ∧ protectionApplies then
      resistance + max 0 (50 + (protectionTrains : ℚ) - (incomingTrains : ℚ))
    else resistance
  min 75 amount

/-- Resistance and armor piercing applied to an amount. -/
def resistedAmount (amount resistance armorPiercing : ℚ) : ℚ :=
  let resistance := effectiveResistance resistance 0 0 false
  rt.f32 (rt.f32 amount *
    rt.f32 (rt.f32 (1 - resistance * rt.f32 (1 / 100)) + armorPiercing))

end Formulas

/-! ## Stacking -/

/-- Whether an incoming effect replaces the occupant of its stack slot. -/
def shouldOverwriteEffect (incomingOrder existingOrder incomingTrains existingTrains : ℕ)
    (priority : StackPriority) (samePower : Bool) : Bool :=
  if incomingOrder ≠ existingOrder then existingOrder < incomingOrder
  else
    match priority with
    | .always => true
    | .greaterThanOrEqual => existingTrains ≤ incomingTrains
    | .greaterThan => existingTrains < incomingTrains || samePower

end ShadowbaneLab
