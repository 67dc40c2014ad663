/-
# Linear congruential steps

One step multiplies, adds and reduces.  Modulo a power of two, with a multiplier that is one modulo
four and an odd increment, the steps from any number come by every number once before they repeat.
-/
import Mathlib.NumberTheory.Multiplicity
import Mathlib.RingTheory.Coprime.Lemmas
import Mathlib.Tactic.LinearCombination
import Mathlib.Data.Int.CardIntervalMod

namespace Foundation

open Finset

/-- One step of a linear congruential generator. -/
def congruential (multiplier increment modulus x : ℕ) : ℕ := (x * multiplier + increment) % modulus

namespace Congruential

variable {a c : ℕ}

/-! ## Closed form -/

/-- Steps add a geometric sum of what the first one adds. -/
theorem iterate_modEq (a c m k x : ℕ) :
    ((congruential a c m)^[k] x : ℤ) ≡
      x + (∑ i ∈ Finset.range k, (a : ℤ) ^ i) * ((a - 1) * x + c) [ZMOD m] := by
  induction k with
  | zero => simp
  | succ k ih =>
    have hstep := (ih.mul_right (a : ℤ)).add_right (c : ℤ)
    rw [Function.iterate_succ_apply', congruential, Int.natCast_mod, geom_sum_succ]
    push_cast
    refine (Int.mod_modEq _ _).trans (hstep.trans ?_)
    rw [show ((x : ℤ) + (∑ i ∈ Finset.range k, (a : ℤ) ^ i) * ((a - 1) * x + c)) * a + c =
      x + (a * (∑ i ∈ Finset.range k, (a : ℤ) ^ i) + 1) * ((a - 1) * x + c) by ring]

/-- A geometric sum has the factors two of its length. -/
theorem two_pow_dvd_geom_sum_iff (ha : a % 4 = 1) (n k : ℕ) :
    (2 : ℤ) ^ n ∣ ∑ i ∈ Finset.range k, (a : ℤ) ^ i ↔ 2 ^ n ∣ k := by
  have hfour : (4 : ℤ) ∣ a - 1 := by omega
  have hodd : ¬ (2 : ℤ) ∣ a := by omega
  have hcast : (2 : ℤ) ^ n ∣ k ↔ 2 ^ n ∣ k := by exact_mod_cast Int.natCast_dvd_natCast
  rw [← hcast]
  obtain rfl | hne := eq_or_ne a 1
  · simp
  · have hlift := Int.two_pow_sub_pow' k (y := 1) hfour hodd
    have hfinite : emultiplicity (2 : ℤ) (a - 1) ≠ ⊤ := by
      apply finiteMultiplicity_iff_emultiplicity_ne_top.1
      rw [Int.finiteMultiplicity_iff]
      omega
    rw [one_pow, ← mul_geom_sum, emultiplicity_mul Int.prime_two] at hlift
    rw [pow_dvd_iff_le_emultiplicity, pow_dvd_iff_le_emultiplicity,
      ENat.add_right_injective_of_ne_top hfinite hlift]

/-! ## Periods modulo a power of two -/

/-- Steps come back exactly after a multiple of the modulus. -/
theorem iterate_modEq_self_iff (ha : a % 4 = 1) (hc : c % 2 = 1) (n k x : ℕ) :
    (congruential a c (2 ^ n))^[k] x ≡ x [MOD 2 ^ n] ↔ 2 ^ n ∣ k := by
  have hcoprime : IsCoprime ((2 : ℤ) ^ n) ((a - 1) * x + c) := by
    obtain ⟨q, hq⟩ : (2 : ℤ) ∣ a - 1 := by omega
    obtain ⟨r, hr⟩ : (2 : ℤ) ∣ c - 1 := by omega
    exact IsCoprime.pow_left ⟨-(q * x + r), 1, by rw [hq]; linear_combination hr⟩
  have hclosed := iterate_modEq a c (2 ^ n) k x
  rw [← two_pow_dvd_geom_sum_iff ha, ← Int.natCast_modEq_iff]
  push_cast at hclosed ⊢
  constructor
  · intro h
    have hsame := (hclosed.symm.trans h).symm.dvd
    rw [add_sub_cancel_left] at hsame
    exact hcoprime.dvd_of_dvd_mul_right hsame
  · intro h
    refine hclosed.trans (Int.ModEq.symm ?_)
    rw [Int.modEq_iff_dvd, add_sub_cancel_left]
    exact h.mul_right _

theorem iterate_lt {m x : ℕ} (hx : x < m) (a c k : ℕ) : (congruential a c m)^[k] x < m := by
  cases k with
  | zero => exact hx
  | succ k =>
    rw [Function.iterate_succ_apply']
    exact Nat.mod_lt _ (Nat.zero_lt_of_lt hx)

/-- **The period is the modulus**: steps agree exactly if their numbers do. -/
theorem iterate_eq_iff (ha : a % 4 = 1) (hc : c % 2 = 1) {n x : ℕ} (hx : x < 2 ^ n) (j k : ℕ) :
    (congruential a c (2 ^ n))^[j] x = (congruential a c (2 ^ n))^[k] x ↔ j ≡ k [MOD 2 ^ n] := by
  wlog hle : j ≤ k generalizing j k
  · rw [eq_comm, this k j (Nat.le_of_not_le hle)]
    exact ⟨Nat.ModEq.symm, Nat.ModEq.symm⟩
  · obtain ⟨d, rfl⟩ := Nat.exists_eq_add_of_le hle
    have hj := iterate_lt hx a c j
    have hback := iterate_modEq_self_iff ha hc n d ((congruential a c (2 ^ n))^[j] x)
    rw [Nat.add_comm j d, Function.iterate_add_apply, Nat.modEq_iff_dvd' (Nat.le_add_left j d),
      Nat.add_sub_cancel, ← hback]
    constructor
    · intro h
      rw [← h]
    · intro h
      exact (Nat.ModEq.eq_of_lt_of_lt h (iterate_lt hj a c d) hj).symm

/-- **Every number is met** in a period. -/
theorem exists_iterate_eq (ha : a % 4 = 1) (hc : c % 2 = 1) {n x y : ℕ} (hx : x < 2 ^ n)
    (hy : y < 2 ^ n) : ∃ k < 2 ^ n, (congruential a c (2 ^ n))^[k] x = y := by
  have hmaps : Set.MapsTo (fun k => (congruential a c (2 ^ n))^[k] x) (Finset.range (2 ^ n))
      (Finset.range (2 ^ n)) :=
    fun k _ => mem_coe.2 (mem_range.2 (iterate_lt hx a c k))
  have hinj : Set.InjOn (fun k => (congruential a c (2 ^ n))^[k] x) (Finset.range (2 ^ n)) := by
    intro j hj k hk heq
    rw [mem_coe, mem_range] at hj hk
    exact Nat.ModEq.eq_of_lt_of_lt ((iterate_eq_iff ha hc hx j k).1 heq) hj hk
  obtain ⟨k, hk, heq⟩ := surjOn_of_injOn_of_card_le _ hmaps hinj (le_refl _)
    (mem_coe.2 (mem_range.2 hy))
  exact ⟨k, mem_range.1 (mem_coe.1 hk), heq⟩

/-! ## Counting outputs -/

/-- If what is left out and an output tell an element, and every pair can, then all outputs come up
equally often. -/
theorem card_fibre {α β γ : Type*} [DecidableEq γ] {s : Finset α} {t : Finset β} {u : Finset γ}
    (rest : α → β) {out : α → γ} (hrest : ∀ a ∈ s, rest a ∈ t) (hout : ∀ a ∈ s, out a ∈ u)
    (hinj : ∀ a ∈ s, ∀ b ∈ s, rest a = rest b → out a = out b → a = b)
    (hcard : t.card * u.card ≤ s.card) {v : γ} (hv : v ∈ u) :
    (s.filter fun a => out a = v).card = t.card := by
  have hsurj : Set.SurjOn (fun a => (rest a, out a)) s (t ×ˢ u : Finset (β × γ)) := by
    apply surjOn_of_injOn_of_card_le
    · intro a ha
      exact mem_coe.2 (mem_product.2 ⟨hrest a ha, hout a ha⟩)
    · intro a ha b hb h
      rw [Prod.mk.injEq] at h
      exact hinj a ha b hb h.1 h.2
    · rwa [card_product]
  refine card_nbij rest ?_ ?_ ?_
  · intro a ha
    exact hrest a (mem_filter.1 ha).1
  · intro a ha b hb h
    obtain ⟨ha, hav⟩ := mem_filter.1 ha
    obtain ⟨hb, hbv⟩ := mem_filter.1 hb
    exact hinj a ha b hb h (hav.trans hbv.symm)
  · intro b hb
    have hpair : (b, v) ∈ t ×ˢ u := mem_product.2 ⟨hb, hv⟩
    obtain ⟨a, ha, h⟩ := hsurj (mem_coe.2 hpair)
    obtain ⟨hab, hav⟩ := Prod.mk.inj h
    exact ⟨a, mem_coe.2 (mem_filter.2 ⟨ha, hav⟩), hab⟩


/-- Above the remainder every residue comes up equally often. -/
theorem card_residues {n r : ℕ} (m : ℕ) (hr : r < n) :
    ((Finset.range m).filter fun v => m % n ≤ v ∧ v % n = r).card = m / n := by
  have hcount (b : ℕ) : ((Finset.range b).filter fun v => v % n = r).card =
      b / n + if r < b % n then 1 else 0 := by
    have hmod := Nat.count_modEq_card b (Nat.zero_lt_of_lt hr) r
    rw [Nat.count_eq_card_filter_range, Nat.mod_eq_of_lt hr] at hmod
    simpa only [Nat.ModEq, Nat.mod_eq_of_lt hr] using hmod
  have hbelow : ((Finset.range m).filter fun v => v % n = r).filter (fun v => ¬ m % n ≤ v) =
      (Finset.range (m % n)).filter fun v => v % n = r := by
    have hle := Nat.mod_le m n
    ext v
    simp only [mem_filter, mem_range]
    omega
  have hsplit := card_filter_add_card_filter_not
    (s := (Finset.range m).filter fun v => v % n = r) (fun v => m % n ≤ v)
  rw [hbelow, filter_filter, hcount, hcount, Nat.mod_mod,
    Nat.div_eq_of_lt (Nat.mod_lt m (Nat.zero_lt_of_lt hr))] at hsplit
  simp only [and_comm] at hsplit ⊢
  omega

end Congruential

end Foundation
