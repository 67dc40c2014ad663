/-
# Single precision

The magnitudes of IEEE binary32, numbered in order: word `k` below `255 * 2 ^ 23` has the value
`magnitude k`, and `round q` is the word nearest to a value that is not negative, ties to the
even word.  Words from `255 * 2 ^ 23` on are infinite or no numbers.
-/
import Mathlib.Algebra.Order.Field.Power
import Mathlib.Data.Int.Log
import Mathlib.Data.Rat.Floor
import ShadowbaneLab.Foundation.Host

namespace Foundation

/-! ## Rounding to integers -/

theorem roundHalfEven_intCast (n : ℤ) : roundHalfEven n = n := by
  have hfloor : (n : ℚ).floor = n := Rat.floor_intCast n
  simp [roundHalfEven, hfloor]

theorem floor_le_roundHalfEven (q : ℚ) : q.floor ≤ roundHalfEven q := by
  simp only [roundHalfEven]
  split_ifs <;> omega

theorem roundHalfEven_le_floor_add_one (q : ℚ) : roundHalfEven q ≤ q.floor + 1 := by
  simp only [roundHalfEven]
  split_ifs <;> omega

variable {p q : ℚ}

theorem roundHalfEven_mono (h : p ≤ q) : roundHalfEven p ≤ roundHalfEven q := by
  have hfloor : p.floor ≤ q.floor := Int.floor_mono h
  rcases hfloor.lt_or_eq with hlt | heq
  · have hp := roundHalfEven_le_floor_add_one p
    have hq := floor_le_roundHalfEven q
    omega
  · simp only [roundHalfEven, heq]
    split_ifs <;> first | omega | (exfalso; linarith)

variable {q : ℚ}

theorem roundHalfEven_eq_zero_iff (h : 0 ≤ q) : roundHalfEven q = 0 ↔ q ≤ 1 / 2 := by
  have hlow : (q.floor : ℚ) ≤ q := Int.floor_le q
  have hfloor : 0 ≤ q.floor := Int.floor_nonneg.2 h
  constructor
  · intro hzero
    have hle := floor_le_roundHalfEven q
    have hfloor0 : q.floor = 0 := by omega
    by_contra hgt
    rw [not_le] at hgt
    simp only [roundHalfEven, hfloor0, Int.cast_zero, sub_zero, if_neg (not_lt.2 hgt.le),
      if_pos hgt] at hzero
    omega
  · intro hle
    have hfloor0 : q.floor = 0 := by
      have hhigh : (q.floor : ℚ) < 1 := by linarith
      have hhigh : q.floor < 1 := by exact_mod_cast hhigh
      omega
    simp only [roundHalfEven, hfloor0, Int.cast_zero, sub_zero, if_neg (not_lt.2 hle)]
    split <;> rfl

variable {k : ℤ}

namespace Binary32

/-! ## Words and values -/

/-- The value of a word, its sign bit off. -/
def magnitude (k : ℤ) : ℚ :=
  if k < 2 ^ 23 then k * 2 ^ (-149 : ℤ) else (2 ^ 23 + k % 2 ^ 23 : ℤ) * 2 ^ (k / 2 ^ 23 - 150)

/-- The exponent of a value, not below that of the subnormal words. -/
def exponent (q : ℚ) : ℤ := max (Int.log 2 q) (-126)

/-- The word nearest to a value. -/
def round (q : ℚ) : ℤ :=
  if q = 0 then 0
  else roundHalfEven (q * 2 ^ (23 - exponent q)) + (exponent q + 126) * 2 ^ 23

theorem magnitude_nonneg (h : 0 ≤ k) : 0 ≤ magnitude k := by
  have hmod : 0 ≤ k % 2 ^ 23 := by omega
  rw [magnitude]
  split
  · positivity
  · positivity

theorem exponent_eq {e : ℤ} (hlow : (2 : ℚ) ^ e ≤ q) (hhigh : q < 2 ^ (e + 1)) (he : -126 ≤ e) :
    exponent q = e := by
  have hq : 0 < q := lt_of_lt_of_le (by positivity) hlow
  have hle : e ≤ Int.log 2 q := (Int.zpow_le_iff_le_log Nat.one_lt_two hq).1 (by exact_mod_cast hlow)
  have hlt : Int.log 2 q < e + 1 :=
    (Int.lt_zpow_iff_log_lt Nat.one_lt_two hq).1 (by exact_mod_cast hhigh)
  rw [exponent, max_eq_left (by omega)]
  omega

theorem exponent_eq_of_lt (hq : 0 < q) (h : q < 2 ^ (-126 : ℤ)) : exponent q = -126 := by
  have hlt : Int.log 2 q < -126 :=
    (Int.lt_zpow_iff_log_lt Nat.one_lt_two hq).1 (by exact_mod_cast h)
  rw [exponent, max_eq_right (by omega)]

/-- A word is read as a value that is rounded to the same word. -/
theorem round_magnitude (hk : 0 ≤ k) : round (magnitude k) = k := by
  rcases hk.eq_or_lt with rfl | hpos
  · simp [round, magnitude]
  have hkq : (0 : ℚ) < k := by exact_mod_cast hpos
  by_cases hsub : k < 2 ^ 23
  · have hvalue : magnitude k = k * 2 ^ (-149 : ℤ) := if_pos hsub
    have hsmall : (k : ℚ) * 2 ^ (-149 : ℤ) < 2 ^ (-126 : ℤ) := by
      have hcast : (k : ℚ) < 2 ^ 23 := by exact_mod_cast hsub
      calc (k : ℚ) * 2 ^ (-149 : ℤ) < 2 ^ 23 * 2 ^ (-149 : ℤ) := by
            apply mul_lt_mul_of_pos_right hcast
            positivity
        _ = 2 ^ (-126 : ℤ) := by norm_num
    have hq : (0 : ℚ) < k * 2 ^ (-149 : ℤ) := by positivity
    have hscaled : (k : ℚ) * 2 ^ (-149 : ℤ) * 2 ^ (23 - (-126) : ℤ) = k := by
      rw [mul_assoc, ← zpow_add₀ two_ne_zero]
      norm_num
    rw [hvalue, round, if_neg hq.ne', exponent_eq_of_lt hq hsmall, hscaled, roundHalfEven_intCast]
    omega
  · have hvalue : magnitude k = (2 ^ 23 + k % 2 ^ 23 : ℤ) * 2 ^ (k / 2 ^ 23 - 150) := if_neg hsub
    set m : ℤ := 2 ^ 23 + k % 2 ^ 23 with hm
    set e : ℤ := k / 2 ^ 23 with he
    have hmlow : (2 : ℚ) ^ 23 ≤ m := by
      have : (2 : ℤ) ^ 23 ≤ m := by omega
      exact_mod_cast this
    have hmhigh : (m : ℚ) < 2 ^ 24 := by
      have : m < (2 : ℤ) ^ 24 := by omega
      exact_mod_cast this
    have hexponent : exponent (m * 2 ^ (e - 150)) = e - 127 := by
      apply exponent_eq
      · calc (2 : ℚ) ^ (e - 127) = 2 ^ 23 * 2 ^ (e - 150) := by
              rw [← zpow_natCast, ← zpow_add₀ two_ne_zero]
              congr 1
              push_cast
              ring
          _ ≤ m * 2 ^ (e - 150) := mul_le_mul_of_nonneg_right hmlow (by positivity)
      · calc (m : ℚ) * 2 ^ (e - 150) < 2 ^ 24 * 2 ^ (e - 150) :=
              mul_lt_mul_of_pos_right hmhigh (by positivity)
          _ = 2 ^ (e - 127 + 1) := by
              rw [← zpow_natCast, ← zpow_add₀ two_ne_zero]
              congr 1
              push_cast
              ring
      · omega
    have hne : (m : ℚ) * 2 ^ (e - 150) ≠ 0 := by
      have : (0 : ℚ) < m := lt_of_lt_of_le (by norm_num) hmlow
      positivity
    have hscaled : (m : ℚ) * 2 ^ (e - 150) * 2 ^ (23 - (e - 127)) = m := by
      rw [mul_assoc, ← zpow_add₀ two_ne_zero, show e - 150 + (23 - (e - 127)) = 0 by ring,
        zpow_zero, mul_one]
    rw [hvalue, round, if_neg hne, hexponent, hscaled, roundHalfEven_intCast]
    omega

theorem magnitude_le_succ (hk : 0 ≤ k) : magnitude k ≤ magnitude (k + 1) := by
  by_cases hsub : k < 2 ^ 23
  · have hvalue : magnitude k = k * 2 ^ (-149 : ℤ) := if_pos hsub
    have hnext : magnitude (k + 1) = (k + 1 : ℤ) * 2 ^ (-149 : ℤ) := by
      by_cases hsub' : k + 1 < 2 ^ 23
      · exact if_pos hsub'
      · have hlast : k + 1 = 2 ^ 23 := by omega
        rw [hlast]
        norm_num [magnitude]
    rw [hvalue, hnext]
    apply mul_le_mul_of_nonneg_right
    · exact_mod_cast (by omega : k ≤ k + 1)
    · positivity
  · have hvalue : magnitude k = (2 ^ 23 + k % 2 ^ 23 : ℤ) * 2 ^ (k / 2 ^ 23 - 150) := if_neg hsub
    have hnext : magnitude (k + 1) =
        (2 ^ 23 + (k + 1) % 2 ^ 23 : ℤ) * 2 ^ ((k + 1) / 2 ^ 23 - 150) := if_neg (by omega)
    rw [hvalue, hnext]
    by_cases hcarry : (k + 1) / 2 ^ 23 = k / 2 ^ 23
    · rw [hcarry]
      apply mul_le_mul_of_nonneg_right
      · exact_mod_cast (by omega : 2 ^ 23 + k % 2 ^ 23 ≤ 2 ^ 23 + (k + 1) % 2 ^ 23)
      · positivity
    · have hexponent : (k + 1) / 2 ^ 23 - 150 = (k / 2 ^ 23 - 150) + 1 := by omega
      have hlow : (k + 1) % 2 ^ 23 = 0 := by omega
      have hhigh : 2 ^ 23 + k % 2 ^ 23 ≤ 2 ^ 24 := by omega
      rw [hexponent, hlow, zpow_add_one₀ two_ne_zero]
      calc ((2 ^ 23 + k % 2 ^ 23 : ℤ) : ℚ) * 2 ^ (k / 2 ^ 23 - 150)
          ≤ 2 ^ 24 * 2 ^ (k / 2 ^ 23 - 150) := by
            apply mul_le_mul_of_nonneg_right
            · exact_mod_cast hhigh
            · positivity
        _ = ((2 ^ 23 + 0 : ℤ) : ℚ) * (2 ^ (k / 2 ^ 23 - 150) * 2) := by
            push_cast
            ring

theorem magnitude_mono {j k : ℤ} (hj : 0 ≤ j) (h : j ≤ k) : magnitude j ≤ magnitude k := by
  induction k, h using Int.leInduction with
  | base => exact le_rfl
  | succ k hk ih => exact ih.trans (magnitude_le_succ (hj.trans hk))

/-! ## Rounding -/

theorem lt_zpow_exponent : q < 2 ^ (exponent q + 1) := by
  have hlog : q < ((2 : ℕ) : ℚ) ^ (Int.log 2 q + 1) := Int.lt_zpow_succ_log_self Nat.one_lt_two q
  have hle : Int.log 2 q + 1 ≤ exponent q + 1 := Int.add_le_add_right (le_max_left ..) 1
  rw [Nat.cast_ofNat] at hlog
  exact hlog.trans_le (zpow_le_zpow_right₀ one_le_two hle)

theorem zpow_exponent_le (hq : 0 < q) (h : -126 < exponent q) : (2 : ℚ) ^ exponent q ≤ q := by
  have hlog : exponent q = Int.log 2 q := by
    rw [exponent] at h ⊢
    omega
  rw [hlog]
  exact_mod_cast Int.zpow_log_le_self Nat.one_lt_two hq

/-- The significand has at most 24 bits, and 25 only by a carry. -/
theorem significand_le : roundHalfEven (q * 2 ^ (23 - exponent q)) ≤ 2 ^ 24 := by
  have hle : q * 2 ^ (23 - exponent q) ≤ ((2 ^ 24 : ℤ) : ℚ) := by
    calc q * 2 ^ (23 - exponent q) ≤ 2 ^ (exponent q + 1) * 2 ^ (23 - exponent q) :=
          mul_le_mul_of_nonneg_right lt_zpow_exponent.le (by positivity)
      _ = ((2 ^ 24 : ℤ) : ℚ) := by
          rw [← zpow_add₀ two_ne_zero, show exponent q + 1 + (23 - exponent q) = 24 by ring]
          norm_num
  have hround := roundHalfEven_mono hle
  rwa [roundHalfEven_intCast] at hround

theorem le_significand (hq : 0 < q) (h : -126 < exponent q) :
    2 ^ 23 ≤ roundHalfEven (q * 2 ^ (23 - exponent q)) := by
  have hle : ((2 ^ 23 : ℤ) : ℚ) ≤ q * 2 ^ (23 - exponent q) := by
    calc ((2 ^ 23 : ℤ) : ℚ) = 2 ^ exponent q * 2 ^ (23 - exponent q) := by
          rw [← zpow_add₀ two_ne_zero, show exponent q + (23 - exponent q) = 23 by ring]
          norm_num
      _ ≤ q * 2 ^ (23 - exponent q) :=
          mul_le_mul_of_nonneg_right (zpow_exponent_le hq h) (by positivity)
  have hround := roundHalfEven_mono hle
  rwa [roundHalfEven_intCast] at hround

theorem exponent_mono (hp : 0 < p) (h : p ≤ q) : exponent p ≤ exponent q :=
  max_le_max_right _ (Int.log_mono_right hp h)

theorem round_mono (hp : 0 < p) (h : p ≤ q) : round p ≤ round q := by
  have hq : 0 < q := hp.trans_le h
  rw [round, round, if_neg hp.ne', if_neg hq.ne']
  rcases (exponent_mono hp h).eq_or_lt with heq | hlt
  · rw [heq]
    have hscaled : p * 2 ^ (23 - exponent q) ≤ q * 2 ^ (23 - exponent q) :=
      mul_le_mul_of_nonneg_right h (by positivity)
    have hround := roundHalfEven_mono hscaled
    omega
  · have hlow : -126 ≤ exponent p := le_max_right ..
    have hp' := significand_le (q := p)
    have hq' := le_significand hq (hlow.trans_lt hlt)
    omega

/-- Only values up to half the least subnormal word are rounded to zero. -/
theorem round_eq_zero_iff (hq : 0 < q) : round q = 0 ↔ q ≤ 2 ^ (-150 : ℤ) := by
  rw [round, if_neg hq.ne']
  have hlow : -126 ≤ exponent q := le_max_right ..
  rcases hlow.eq_or_lt with heq | hlt
  · have hscaled : q * 2 ^ (23 - (-126) : ℤ) ≤ 1 / 2 ↔ q ≤ 2 ^ (-150 : ℤ) := by
      norm_num
      constructor
      · intro h
        linarith
      · intro h
        linarith
    have hzero := roundHalfEven_eq_zero_iff (q := q * 2 ^ (23 - (-126) : ℤ)) (by positivity)
    rw [← heq, ← hscaled, ← hzero]
    omega
  · have hlarge := le_significand hq hlt
    constructor
    · intro h
      omega
    · intro h
      exfalso
      have hpow : (2 : ℚ) ^ (-150 : ℤ) < 2 ^ exponent q :=
        zpow_lt_zpow_right₀ one_lt_two (by omega)
      exact absurd (zpow_exponent_le hq hlt) (not_le.2 (h.trans_lt hpow))

theorem round_nonneg (hq : 0 ≤ q) : 0 ≤ round q := by
  rcases hq.eq_or_lt with rfl | hpos
  · rw [round, if_pos rfl]
  · have hsignificand : roundHalfEven 0 ≤ roundHalfEven (q * 2 ^ (23 - exponent q)) :=
      roundHalfEven_mono (by positivity)
    have hzero : roundHalfEven 0 = 0 := roundHalfEven_intCast 0
    have hlow : -126 ≤ exponent q := le_max_right ..
    rw [round, if_neg hpos.ne']
    have hscale : 0 ≤ (exponent q + 126) * 2 ^ 23 := by omega
    omega

end Binary32

/-! ## Floating-point values -/

/-- A floating-point value: a sign and a magnitude, an infinity, or no number. -/
inductive Floating
  | finite (negative : Bool) (magnitude : ℚ) (nonneg : 0 ≤ magnitude)
  | infinite (negative : Bool)
  | nan

namespace Floating

/-- The sign and the magnitude, where there are some. -/
def parts : Floating → Option Bool × Option ℚ
  | finite negative magnitude _ => (some negative, some magnitude)
  | infinite negative => (some negative, none)
  | nan => (none, none)

theorem parts_inj (x y : Floating) : x.parts = y.parts ↔ x = y := by
  constructor
  · intro h
    cases x <;> cases y <;> simp_all [parts]
  · exact congrArg parts

instance : DecidableEq Floating := fun x y => decidable_of_iff _ (parts_inj x y)

/-- `math.isfinite(value)`. -/
def isFinite : Floating → Bool
  | finite .. => true
  | infinite _ => false
  | nan => false

/-- The value of a finite number. -/
def toRat : Floating → ℚ
  | finite negative magnitude _ => if negative then -magnitude else magnitude
  | infinite _ => 0
  | nan => 0

/-- `struct.pack("<f", value)` as a word; a finite value too large for it raises. -/
def pack32 : Floating → Option Int
  | finite negative magnitude _ =>
    let word := Binary32.round magnitude
    if word < 255 * 2 ^ 23 then some (if negative then 2 ^ 31 + word else word) else none
  | infinite negative => some (if negative then 511 * 2 ^ 23 else 255 * 2 ^ 23)
  | nan => some (255 * 2 ^ 23 + 2 ^ 22)

/-- `struct.unpack("<f", word)`. -/
def unpack32 (word : Int) : Floating :=
  let negative : Bool := 2 ^ 31 ≤ word
  let k := word % 2 ^ 31
  if k < 255 * 2 ^ 23 then
    finite negative (Binary32.magnitude k) (Binary32.magnitude_nonneg (by omega))
  else if k = 255 * 2 ^ 23 then infinite negative
  else nan

/-- A finite value of single precision. -/
def IsSingle (value : Floating) : Prop :=
  ∃ word : Int, (0 ≤ word ∧ word < 2 ^ 32) ∧ unpack32 word = value ∧ value.isFinite = true

variable {word : Int}

theorem pack32_unpack32 (hword : 0 ≤ word ∧ word < 2 ^ 32)
    (hfinite : (unpack32 word).isFinite = true) : pack32 (unpack32 word) = some word := by
  rw [unpack32] at hfinite ⊢
  split at hfinite
  case isTrue hk =>
    rw [if_pos hk, pack32, Binary32.round_magnitude (by omega), if_pos hk]
    by_cases hsign : 2 ^ 31 ≤ word
    · rw [if_pos (decide_eq_true hsign)]
      congr 1
      omega
    · rw [if_neg (by simpa using hsign)]
      congr 1
      omega
  case isFalse hk =>
    split at hfinite
    · cases hfinite
    · cases hfinite

variable {value : Floating}

theorem unpack32_of_pack32 (hsingle : value.IsSingle) (h : value.pack32 = some word) :
    unpack32 word = value := by
  obtain ⟨original, hword, rfl, hfinite⟩ := hsingle
  rw [pack32_unpack32 hword hfinite, Option.some.injEq] at h
  rw [h]

/-- The word of a finite value is read as the nearest value of its sign. -/
theorem unpack32_pack32 {negative : Bool} {magnitude : ℚ} {nonneg : 0 ≤ magnitude}
    (h : (finite negative magnitude nonneg).pack32 = some word) :
    ∃ hround, unpack32 word =
      finite negative (Binary32.magnitude (Binary32.round magnitude)) hround := by
  have hnonneg := Binary32.round_nonneg nonneg
  refine ⟨Binary32.magnitude_nonneg hnonneg, ?_⟩
  rw [pack32, Option.ite_none_right_eq_some, Option.some.injEq] at h
  obtain ⟨hsmall, rfl⟩ := h
  cases negative with
  | false =>
    have hmod : Binary32.round magnitude % 2 ^ 31 = Binary32.round magnitude := by omega
    have hsign : ¬ 2 ^ 31 ≤ Binary32.round magnitude := by omega
    simp only [Bool.false_eq_true, if_false, unpack32, hmod, hsmall, if_true, hsign, decide_false]
  | true =>
    have hmod : (2 ^ 31 + Binary32.round magnitude) % 2 ^ 31 = Binary32.round magnitude := by omega
    have hsign : 2 ^ 31 ≤ 2 ^ 31 + Binary32.round magnitude := by omega
    simp only [if_true, unpack32, hmod, hsmall, hsign, decide_true]

theorem pack32_word (h : value.pack32 = some word) : 0 ≤ word ∧ word < 2 ^ 32 := by
  cases value with
  | finite negative magnitude nonneg =>
    have hnonneg := Binary32.round_nonneg nonneg
    rw [pack32, Option.ite_none_right_eq_some, Option.some.injEq] at h
    obtain ⟨hsmall, rfl⟩ := h
    split <;> omega
  | infinite negative =>
    cases h
    split <;> omega
  | nan =>
    cases h
    omega

/-- A positive value is read back as the value of its word. -/
theorem unpack32_of_pos (hpos : 0 < value.toRat) (h : value.pack32 = some word) :
    (unpack32 word).isFinite = true ∧
      (unpack32 word).toRat = Binary32.magnitude (Binary32.round value.toRat) := by
  cases value with
  | finite negative magnitude nonneg =>
    obtain ⟨hround, hword⟩ := unpack32_pack32 h
    rw [hword]
    cases negative with
    | false => exact ⟨rfl, rfl⟩
    | true =>
      rw [toRat, if_pos rfl] at hpos
      linarith
  | infinite negative => exact absurd hpos (lt_irrefl 0)
  | nan => exact absurd hpos (lt_irrefl 0)

end Floating

namespace Binary32

/-- Rounding keeps a value above a bound that rounding does not lower. -/
theorem le_magnitude_round {low q : ℚ} (hlow : 0 < low) (h : low ≤ q)
    (hbound : low ≤ magnitude (round low)) : low ≤ magnitude (round q) :=
  hbound.trans (magnitude_mono (round_nonneg hlow.le) (round_mono hlow h))

theorem magnitude_round_le {q high : ℚ} (hq : 0 < q) (h : q ≤ high) :
    magnitude (round q) ≤ magnitude (round high) :=
  magnitude_mono (round_nonneg hq.le) (round_mono hq h)

theorem magnitude_lt_iff {j k : ℤ} (hj : 0 ≤ j) (hk : 0 ≤ k) :
    magnitude j < magnitude k ↔ j < k := by
  constructor
  · intro h
    by_contra hle
    exact absurd (magnitude_mono hk (not_lt.1 hle)) (not_le.2 h)
  · intro h
    refine lt_of_le_of_ne (magnitude_mono hj h.le) fun heq => h.ne ?_
    rw [← round_magnitude hj, heq, round_magnitude hk]

theorem magnitude_pos_iff (hk : 0 ≤ k) : 0 < magnitude k ↔ k ≠ 0 := by
  constructor
  · rintro h rfl
    simp [magnitude] at h
  · intro hne
    have hone : magnitude 1 ≤ magnitude k := magnitude_mono zero_le_one (by omega)
    have hpos : 0 < magnitude 1 := by norm_num [magnitude]
    exact hpos.trans_le hone

end Binary32

/-! ## Comparison -/

namespace Floating

/-- `x < y`; nothing compares with what is no number. -/
def less : Floating → Floating → Bool
  | nan, _ => false
  | _, nan => false
  | infinite negative, infinite other => negative && !other
  | infinite negative, finite .. => negative
  | finite .., infinite negative => !negative
  | finite negative x hx, finite other y hy =>
    (finite negative x hx).toRat < (finite other y hy).toRat

/-- `x <= y`. -/
def atMost : Floating → Floating → Bool
  | nan, _ => false
  | _, nan => false
  | infinite negative, infinite other => negative || !other
  | infinite negative, finite .. => negative
  | finite .., infinite negative => !negative
  | finite negative x hx, finite other y hy =>
    (finite negative x hx).toRat ≤ (finite other y hy).toRat

variable {x y : Floating}

theorem less_iff (hx : x.isFinite = true) (hy : y.isFinite = true) :
    x.less y = true ↔ x.toRat < y.toRat := by
  cases x <;> cases y <;> simp_all [less, isFinite]

theorem atMost_iff (hx : x.isFinite = true) (hy : y.isFinite = true) :
    x.atMost y = true ↔ x.toRat ≤ y.toRat := by
  cases x <;> cases y <;> simp_all [atMost, isFinite]

/-- The value of single precision nearest to a rational number. -/
def nearest (q : ℚ) : Floating :=
  if Binary32.round |q| < 255 * 2 ^ 23 then
    finite (q < 0) (Binary32.magnitude (Binary32.round |q|))
      (Binary32.magnitude_nonneg (Binary32.round_nonneg (abs_nonneg q)))
  else infinite (q < 0)

theorem nearest_of_nonneg (hq : 0 ≤ q) (hsmall : Binary32.round q < 255 * 2 ^ 23) :
    (nearest q).isFinite = true ∧ (nearest q).toRat = Binary32.magnitude (Binary32.round q) := by
  have hsign : ¬ q < 0 := not_lt.2 hq
  have hrounded : Binary32.round |q| < 255 * 2 ^ 23 := by rwa [abs_of_nonneg hq]
  rw [nearest, if_pos hrounded]
  refine ⟨rfl, ?_⟩
  rw [toRat, if_neg (by simpa using hsign), abs_of_nonneg hq]

end Floating

end Foundation
