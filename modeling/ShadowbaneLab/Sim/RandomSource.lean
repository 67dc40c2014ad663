/-
# The deterministic random source

PCG-XSH-RR 32 with explicit state and stream (`src/shadowbane_lab/sim/random_source.py`).
The generator is a value: every draw returns its result and the advanced generator.
-/
import ShadowbaneLab.Foundation.Host

namespace ShadowbaneLab

open Foundation

/-- The generator: a 64-bit state and an odd 64-bit increment.  It is its own snapshot;
the range checks of `RandomSnapshot` are the two proofs it carries. -/
structure DeterministicRandom where
  state : ℕ
  increment : ℕ
  state_lt : state < 2 ^ 64
  increment_ok : increment < 2 ^ 64 ∧ increment % 2 = 1
  deriving DecidableEq

namespace DeterministicRandom

def multiplier : ℕ := 6364136223846793005

/-- Advance the state and return 32 pseudo-random bits of the old one. -/
def nextUint32 (rng : DeterministicRandom) : ℕ × DeterministicRandom :=
  let old := rng.state
  let xorShifted := (((old >>> 18) ^^^ old) >>> 27) % 2 ^ 32
  let rotation := old >>> 59
  let value := ((xorShifted >>> rotation) ||| (xorShifted <<< ((32 - rotation % 32) % 32))) % 2 ^ 32
  (value, { rng with
    state := (old * multiplier + rng.increment) % 2 ^ 64
    state_lt := Nat.mod_lt _ (by decide) })

/-- The increment selected by a stream number. -/
def streamIncrement (stream : ℤ) : ℕ := (((stream % 2 ^ 64).toNat <<< 1) ||| 1) % 2 ^ 64

theorem streamIncrement_ok (stream : ℤ) :
    streamIncrement stream < 2 ^ 64 ∧ streamIncrement stream % 2 = 1 := by
  refine ⟨Nat.mod_lt _ (by decide), ?_⟩
  unfold streamIncrement
  rw [Nat.mod_mod_of_dvd _ (by decide : 2 ∣ 2 ^ 64)]
  simp

/-- `DeterministicRandom(seed, stream)`; the simulator always uses stream 54. -/
def init (seed : ℤ) (stream : ℤ := 54) : DeterministicRandom :=
  let start : DeterministicRandom :=
    ⟨0, streamIncrement stream, by decide, streamIncrement_ok stream⟩
  let first := start.nextUint32.2
  let seeded : DeterministicRandom := { first with
    state := (first.state + (seed % 2 ^ 64).toNat) % 2 ^ 64
    state_lt := Nat.mod_lt _ (by decide) }
  seeded.nextUint32.2

/-- A value in the half-open interval `[0, 1)`. -/
def random (rng : DeterministicRandom) : ℚ × DeterministicRandom :=
  let (value, rng) := rng.nextUint32
  ((value : ℚ) / 2 ^ 32, rng)

/-- A value between `minimum` and `maximum`, for ordered bounds. -/
def uniform (minimum maximum : ℚ) (rng : DeterministicRandom) : ℚ × DeterministicRandom :=
  let (value, rng) := rng.random
  (minimum + (maximum - minimum) * value, rng)

/-- The rejection loop of `randbelow`, for at most `fuel` draws. -/
def randbelowLoop (bound threshold : ℕ) : ℕ → DeterministicRandom → ℕ × DeterministicRandom
  | 0, rng => (0, rng)
  | fuel + 1, rng =>
    let (candidate, rng) := rng.nextUint32
    if threshold ≤ candidate then (candidate % bound, rng)
    else randbelowLoop bound threshold fuel rng

/-- An unbiased integer below `bound`.  One full period of the state is `2 ^ 64` draws,
and the loop rejects fewer than half of all 32-bit values. -/
def randbelow (bound : ℕ) (rng : DeterministicRandom) : ℕ × DeterministicRandom :=
  randbelowLoop bound (2 ^ 32 % bound) (2 ^ 64) rng

end DeterministicRandom

end ShadowbaneLab
