/-
# Bounded draws

`randbelow` of `src/shadowbane_lab/sim/random_source.py` rejects the candidates under a threshold.
The states of a stream form one cycle, in which each 32-bit candidate comes up equally often: so
the rejection ends, and no residue is favoured.
-/
import ShadowbaneLab.Foundation.Congruential
import ShadowbaneLab.Sim.RandomSource
import Mathlib.Data.Set.Card

namespace ShadowbaneLab

open Foundation Congruential Finset

namespace DeterministicRandom

/-- The bound of `randbelow`, if it passes its checks. -/
def requireBound (bound : ℤ) : Except String ℕ :=
  if bound ≤ 0 then .error "bound must be a positive integer"
  else if bound > 2 ^ 32 then .error "bound must fit in an unsigned 32-bit range"
  else .ok bound.toNat

/-- `randbelow`, with its checks. -/
def drawBelow (bound : ℤ) (rng : DeterministicRandom) : Except String (ℕ × DeterministicRandom) := do
  let bound ← requireBound bound
  return rng.randbelow bound

theorem requireBound_eq_ok {bound : ℤ} {n : ℕ} (h : requireBound bound = .ok n) :
    bound = n ∧ 0 < n ∧ n ≤ 2 ^ 32 := by
  unfold requireBound at h
  split_ifs at h with hpos hle
  cases h
  omega

/-- The generator after some draws. -/
def advance (rng : DeterministicRandom) (k : ℕ) : DeterministicRandom :=
  (fun g : DeterministicRandom => g.nextUint32.2)^[k] rng

variable (rng : DeterministicRandom)

theorem advance_zero : rng.advance 0 = rng := rfl

theorem advance_succ (k : ℕ) : rng.advance (k + 1) = rng.nextUint32.2.advance k :=
  Function.iterate_succ_apply _ k rng

theorem eq_of_state {g g' : DeterministicRandom} (hstate : g.state = g'.state)
    (hincrement : g.increment = g'.increment) : g = g' := by
  cases g
  cases g'
  cases hstate
  cases hincrement
  rfl

/-! ## The cycle of the states -/

theorem multiplier_mod_four : multiplier % 4 = 1 := by decide

theorem nextUint32_state :
    rng.nextUint32.2.state = congruential multiplier rng.increment (2 ^ 64) rng.state := by
  simp only [congruential, nextUint32]

theorem nextUint32_increment : rng.nextUint32.2.increment = rng.increment := by
  cases rng
  simp only [nextUint32]

theorem advance_increment (k : ℕ) : (rng.advance k).increment = rng.increment := by
  induction k generalizing rng with
  | zero => rfl
  | succ k ih => rw [advance_succ, ih, nextUint32_increment]

theorem advance_state (k : ℕ) :
    (rng.advance k).state = (congruential multiplier rng.increment (2 ^ 64))^[k] rng.state := by
  induction k generalizing rng with
  | zero => rfl
  | succ k ih =>
    rw [advance_succ, ih, nextUint32_state, nextUint32_increment, Function.iterate_succ_apply]

/-- **The period of a stream is the number of its states.** -/
theorem advance_eq_iff (j k : ℕ) : rng.advance j = rng.advance k ↔ j ≡ k [MOD 2 ^ 64] := by
  rw [← Congruential.iterate_eq_iff multiplier_mod_four rng.increment_ok.2 rng.state_lt, ← advance_state,
    ← advance_state]
  constructor
  · intro h
    rw [h]
  · intro h
    exact eq_of_state h ((rng.advance_increment j).trans (rng.advance_increment k).symm)

/-- **Every state of a stream is met.** -/
theorem exists_advance_eq {rng g : DeterministicRandom} (h : g.increment = rng.increment) :
    ∃ k < 2 ^ 64, rng.advance k = g := by
  obtain ⟨k, hk, heq⟩ := Congruential.exists_iterate_eq multiplier_mod_four
    rng.increment_ok.2 rng.state_lt g.state_lt
  refine ⟨k, hk, eq_of_state ?_ ((rng.advance_increment k).trans h.symm)⟩
  rw [advance_state, heq]

/-! ## The candidates of the states -/

/-- `xor_shifted` of a state. -/
def xorShifted (state : ℕ) : ℕ := (((state >>> 18) ^^^ state) >>> 27) % 2 ^ 32

/-- A 32-bit number rotated to the right. -/
def rotated (x r : ℕ) : ℕ := ((x >>> r) ||| (x <<< ((32 - r % 32) % 32))) % 2 ^ 32

/-- The candidate that a state emits. -/
def candidate (state : ℕ) : ℕ := rotated (xorShifted state) (state >>> 59)

theorem nextUint32_candidate : rng.nextUint32.1 = candidate rng.state := by
  simp only [nextUint32, candidate, rotated, xorShifted]

theorem candidate_lt (state : ℕ) : candidate state < 2 ^ 32 := Nat.mod_lt _ (by decide)

theorem shiftRight_lt {state : ℕ} (h : state < 2 ^ 64) : state >>> 59 < 2 ^ 5 := by
  rw [Nat.shiftRight_eq_div_pow]
  omega

/-- The bits of a rotated number, read in their old order. -/
theorem testBit_rotated {x r i : ℕ} (hx : x < 2 ^ 32) (hr : r < 32) (hi : i < 32) :
    (rotated x r).testBit ((i + 32 - r) % 32) = x.testBit i := by
  have hhigh : ∀ j ≥ 32, x.testBit j = false := fun j hj =>
    Nat.testBit_lt_two_pow (hx.trans_le (Nat.pow_le_pow_right (by decide) hj))
  rw [rotated, Nat.testBit_mod_two_pow, Nat.testBit_or, Nat.testBit_shiftRight,
    Nat.testBit_shiftLeft, decide_eq_true (Nat.mod_lt _ (by decide)), Bool.true_and,
    Nat.mod_eq_of_lt hr]
  obtain hle | hlt := le_or_gt r i
  · -- the bit moves down, and nothing is shifted in over it
    rw [show (i + 32 - r) % 32 = i - r by omega, Nat.add_sub_cancel' hle]
    obtain rfl | hpos := Nat.eq_zero_or_pos r
    · simp
    · rw [decide_eq_false (by omega), Bool.false_and, Bool.or_false]
  · -- the bit comes around
    rw [show (i + 32 - r) % 32 = i + 32 - r by omega, hhigh _ (by omega), Bool.false_or,
      decide_eq_true (by omega), Bool.true_and,
      show i + 32 - r - (32 - r) % 32 = i by omega]

theorem rotated_injective {x x' r : ℕ} (hx : x < 2 ^ 32) (hx' : x' < 2 ^ 32) (hr : r < 32)
    (h : rotated x r = rotated x' r) : x = x' := by
  apply Nat.eq_of_testBit_eq
  intro i
  obtain hi | hi := lt_or_ge i 32
  · rw [← testBit_rotated hx hr hi, h, testBit_rotated hx' hr hi]
  · have hpow : 2 ^ 32 ≤ 2 ^ i := Nat.pow_le_pow_right (by decide) hi
    rw [Nat.testBit_lt_two_pow (hx.trans_le hpow), Nat.testBit_lt_two_pow (hx'.trans_le hpow)]

theorem testBit_xorShifted (state : ℕ) {i : ℕ} (hi : i < 32) :
    (xorShifted state).testBit i = (state.testBit (i + 45) ^^ state.testBit (i + 27)) := by
  rw [xorShifted, Nat.testBit_mod_two_pow, decide_eq_true hi, Bool.true_and,
    Nat.testBit_shiftRight, Nat.testBit_xor, Nat.testBit_shiftRight,
    show 18 + (27 + i) = i + 45 by omega, Nat.add_comm 27 i]

/-- A state is told by its low bits, its rotation and its candidate. -/
theorem state_eq {s s' : ℕ} (hs' : s' < 2 ^ 64)
    (hlow : s % 2 ^ 27 = s' % 2 ^ 27) (hrotation : s >>> 59 = s' >>> 59)
    (hcandidate : candidate s = candidate s') : s = s' := by
  have hxor : xorShifted s = xorShifted s' := by
    rw [candidate, candidate, hrotation] at hcandidate
    exact rotated_injective (Nat.mod_lt _ (by decide)) (Nat.mod_lt _ (by decide))
      (shiftRight_lt hs') hcandidate
  have hhigh : ∀ i ≥ 59, s.testBit i = s'.testBit i := by
    intro i hi
    have hbit := congrArg (fun n => n.testBit (i - 59)) hrotation
    simpa only [Nat.testBit_shiftRight, Nat.add_sub_cancel' hi] using hbit
  -- bit by bit downwards: a bit is the shifted one or one that is known already
  have hdown : ∀ i ≥ 27, i < 59 → s.testBit (i + 18) = s'.testBit (i + 18) →
      s.testBit i = s'.testBit i := by
    intro i hi hlt hknown
    have hbit := congrArg (fun n => n.testBit (i - 27)) hxor
    simp only [testBit_xorShifted _ (show i - 27 < 32 by omega),
      show i - 27 + 45 = i + 18 by omega, Nat.sub_add_cancel hi, hknown] at hbit
    simpa using hbit
  have hupper : ∀ i ≥ 41, s.testBit i = s'.testBit i := by
    intro i hi
    obtain hlt | hge := lt_or_ge i 59
    · exact hdown i (by omega) hlt (hhigh _ (by omega))
    · exact hhigh i hge
  apply Nat.eq_of_testBit_eq
  intro i
  obtain hi | hi := lt_or_ge i 27
  · have hbit := congrArg (fun n => n.testBit i) hlow
    simpa only [Nat.testBit_mod_two_pow, decide_eq_true hi, Bool.true_and] using hbit
  · obtain hlt | hge := lt_or_ge i 41
    · exact hdown i hi (by omega) (hupper _ (by omega))
    · exact hupper i hge

/-- **Each candidate is emitted by as many states.** -/
theorem card_emitters {v : ℕ} (hv : v < 2 ^ 32) :
    ((Finset.range (2 ^ 64)).filter fun s => candidate s = v).card = 2 ^ 32 := by
  have hcard : (Finset.range (2 ^ 27) ×ˢ Finset.range (2 ^ 5)).card = 2 ^ 32 := by
    rw [card_product, card_range, card_range]
    norm_num
  refine (card_fibre (t := Finset.range (2 ^ 27) ×ˢ Finset.range (2 ^ 5))
    (u := Finset.range (2 ^ 32)) (fun s => (s % 2 ^ 27, s >>> 59)) ?_ ?_ ?_ ?_ ?_).trans hcard
  · intro s hs
    rw [mem_range] at hs
    rw [mem_product, mem_range, mem_range]
    exact ⟨Nat.mod_lt _ (by decide), shiftRight_lt hs⟩
  · intro s _
    exact mem_range.2 (candidate_lt s)
  · intro s _ s' hs' hsame hcandidate
    rw [Prod.mk.injEq] at hsame
    exact state_eq (mem_range.1 hs') hsame.1 hsame.2 hcandidate
  · rw [hcard, card_range, card_range]
    norm_num
  · exact mem_range.2 hv

/-! ## Draws below a bound -/

/-- The candidate of a generator passes the threshold of a bound. -/
def Accepts (bound : ℕ) (rng : DeterministicRandom) : Prop := 2 ^ 32 % bound ≤ rng.nextUint32.1

/-- The loop ends after so many rejections: the next candidate is the first one accepted. -/
def EndsAfter (bound : ℕ) (rng : DeterministicRandom) (k : ℕ) : Prop :=
  (∀ j < k, ¬ (rng.advance j).Accepts bound) ∧ (rng.advance k).Accepts bound

/-- The generators of a stream. -/
def SameStream (rng g : DeterministicRandom) : Prop := g.increment = rng.increment

/-- The states of a stream that emit accepted candidates of a residue. -/
theorem ncard_accepting {n r : ℕ} (hr : r < n) :
    {g | rng.SameStream g ∧ g.Accepts n ∧ g.nextUint32.1 % n = r}.ncard =
      2 ^ 32 * (2 ^ 32 / n) := by
  have hstates : ((Finset.range (2 ^ 64)).filter fun s =>
      2 ^ 32 % n ≤ candidate s ∧ candidate s % n = r).card = 2 ^ 32 * (2 ^ 32 / n) := by
    rw [card_eq_sum_card_fiberwise (f := candidate)
      (t := (Finset.range (2 ^ 32)).filter fun v => 2 ^ 32 % n ≤ v ∧ v % n = r)]
    · rw [sum_const_nat (m := 2 ^ 32), card_residues, Nat.mul_comm]
      · exact hr
      · intro v hv
        rw [mem_filter, mem_range] at hv
        rw [filter_filter]
        refine (congrArg Finset.card (filter_congr fun s _ => ?_)).trans (card_emitters hv.1)
        constructor
        · rintro ⟨-, hs⟩
          exact hs
        · rintro rfl
          exact ⟨hv.2, rfl⟩
    · intro s hs
      rw [mem_coe, mem_filter] at hs
      exact mem_coe.2 (mem_filter.2 ⟨mem_range.2 (candidate_lt s), hs.2⟩)
  rw [← hstates, ← Set.ncard_coe_finset]
  refine Set.ncard_congr (fun g _ => g.state) ?_ ?_ ?_
  · rintro g ⟨-, haccepts, hresidue⟩
    rw [Accepts, nextUint32_candidate] at haccepts
    rw [nextUint32_candidate] at hresidue
    exact mem_coe.2
      (mem_filter.2 ⟨mem_range.2 g.state_lt, haccepts, hresidue⟩)
  · rintro g g' ⟨hstream, -⟩ ⟨hstream', -⟩ h
    exact eq_of_state h (hstream.trans hstream'.symm)
  · intro s hs
    rw [mem_coe, mem_filter, mem_range] at hs
    refine ⟨⟨s, rng.increment, hs.1, rng.increment_ok⟩, ⟨rfl, ?_, ?_⟩, rfl⟩
    · rw [Accepts, nextUint32_candidate]
      exact hs.2.1
    · rw [nextUint32_candidate]
      exact hs.2.2

/-- Some candidate of the stream is accepted. -/
theorem exists_endsAfter {n : ℕ} (hpos : 0 < n) (hle : n ≤ 2 ^ 32) :
    ∃ k < 2 ^ 64, rng.EndsAfter n k := by
  have hne : {g | rng.SameStream g ∧ g.Accepts n ∧ g.nextUint32.1 % n = 0}.ncard ≠ 0 := by
    rw [ncard_accepting rng hpos]
    exact (Nat.mul_pos (by decide) (Nat.div_pos hle hpos)).ne'
  obtain ⟨g, hstream, haccepts, -⟩ := Set.nonempty_of_ncard_ne_zero hne
  obtain ⟨k, hk, rfl⟩ := exists_advance_eq hstream
  classical
  have hex : ∃ k, (rng.advance k).Accepts n := ⟨k, haccepts⟩
  exact ⟨Nat.find hex, (Nat.find_min' hex haccepts).trans_lt hk, fun j hj => Nat.find_min hex hj,
    Nat.find_spec hex⟩

theorem randbelowLoop_succ (bound threshold fuel : ℕ) (rng : DeterministicRandom) :
    randbelowLoop bound threshold (fuel + 1) rng =
      if threshold ≤ rng.nextUint32.1 then (rng.nextUint32.1 % bound, rng.nextUint32.2)
      else randbelowLoop bound threshold fuel rng.nextUint32.2 := by
  rw [randbelowLoop]

/-- The loop returns the first accepted candidate, given fuel to come to it. -/
theorem randbelowLoop_eq {rng : DeterministicRandom} {n k fuel : ℕ} (h : rng.EndsAfter n k)
    (hfuel : k < fuel) : randbelowLoop n (2 ^ 32 % n) fuel rng =
      ((rng.advance k).nextUint32.1 % n, rng.advance (k + 1)) := by
  induction k generalizing rng fuel with
  | zero =>
    obtain ⟨fuel, rfl⟩ := Nat.exists_eq_succ_of_ne_zero hfuel.ne'
    have haccepts : 2 ^ 32 % n ≤ rng.nextUint32.1 := h.2
    rw [randbelowLoop_succ, if_pos haccepts, advance_succ, advance_zero, advance_zero]
  | succ k ih =>
    obtain ⟨fuel, rfl⟩ := Nat.exists_eq_succ_of_ne_zero (Nat.zero_lt_of_lt hfuel).ne'
    have hrejects : ¬ 2 ^ 32 % n ≤ rng.nextUint32.1 := h.1 0 (Nat.succ_pos k)
    have hrest : rng.nextUint32.2.EndsAfter n k := by
      refine ⟨fun j hj => ?_, ?_⟩
      · rw [← advance_succ]
        exact h.1 (j + 1) (Nat.succ_lt_succ hj)
      · rw [← advance_succ]
        exact h.2
    rw [randbelowLoop_succ, if_neg hrejects, ih hrest (Nat.lt_of_succ_lt_succ hfuel), ← advance_succ,
      ← advance_succ]

/-- **Bounded draws are exact and terminate.**  The rejection loop of an accepted bound ends, with
a result below the bound; the states of the stream form one cycle, and as many of them emit an
accepted candidate of one residue as of another. -/
theorem randbelow_exact (rng : DeterministicRandom) {bound : ℤ} {n : ℕ}
    (h : requireBound bound = .ok n) :
    (∃ k < 2 ^ 64, rng.EndsAfter n k ∧
      (∀ fuel > k, randbelowLoop n (2 ^ 32 % n) fuel rng =
        ((rng.advance k).nextUint32.1 % n, rng.advance (k + 1))) ∧
      rng.drawBelow bound = .ok ((rng.advance k).nextUint32.1 % n, rng.advance (k + 1))) ∧
    (∀ value rng', rng.drawBelow bound = .ok (value, rng') → (value : ℤ) < bound) ∧
    (∀ j k, rng.advance j = rng.advance k ↔ j ≡ k [MOD 2 ^ 64]) ∧
    (∀ g, rng.SameStream g → ∃ k < 2 ^ 64, rng.advance k = g) ∧
    ∀ r < n, {g | rng.SameStream g ∧ g.Accepts n ∧ g.nextUint32.1 % n = r}.ncard =
      2 ^ 32 * (2 ^ 32 / n) := by
  obtain ⟨rfl, hpos, hle⟩ := requireBound_eq_ok h
  obtain ⟨k, hk, hends⟩ := rng.exists_endsAfter hpos hle
  have hdraw : rng.drawBelow n =
      .ok ((rng.advance k).nextUint32.1 % n, rng.advance (k + 1)) := by
    rw [drawBelow, h, ← randbelowLoop_eq hends hk]
    rfl
  refine ⟨⟨k, hk, hends, fun fuel hfuel => randbelowLoop_eq hends hfuel, hdraw⟩, ?_,
    rng.advance_eq_iff, fun g hg => exists_advance_eq hg, fun r hr => rng.ncard_accepting hr⟩
  intro value rng' hvalue
  rw [hdraw] at hvalue
  cases hvalue
  exact_mod_cast Nat.mod_lt _ hpos

/-- A die thrown with the simulator's first generator. -/
theorem randbelow_exact_die :
    (∃ k < 2 ^ 64, (init 7).EndsAfter 6 k) ∧
      {g | (init 7).SameStream g ∧ g.Accepts 6 ∧ g.nextUint32.1 % 6 = 5}.ncard =
        2 ^ 32 * (2 ^ 32 / 6) := by
  have hbound : requireBound 6 = .ok 6 := by decide
  have hexact := randbelow_exact (init 7) hbound
  obtain ⟨⟨k, hk, hends, -⟩, -, -, -, hcounts⟩ := hexact
  exact ⟨⟨k, hk, hends⟩, hcounts 5 (by decide)⟩

end DeterministicRandom

end ShadowbaneLab
