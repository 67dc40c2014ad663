/-
# Packed structures

A structure of unsigned words, packed without gaps, is its words one after the other, each with
its low byte first.  A format that reads the same widths reads the same words.
-/
import ShadowbaneLab.Foundation.Wire

namespace Foundation

/-- An unsigned word of some bytes. -/
structure Word where
  width : ℕ
  value : ℕ
  fits : value < 256 ^ width

namespace Word

def of32 (x : UInt32) : Word := ⟨4, x.toNat, x.toNat_lt⟩

def of64 (x : UInt64) : Word := ⟨8, x.toNat, x.toNat_lt⟩

def bytes (word : Word) : Bytes := littleEndian word.width word.value

@[simp] theorem length_bytes (word : Word) : word.bytes.length = word.width :=
  length_littleEndian ..

@[simp] theorem width_of32 (x : UInt32) : (of32 x).width = 4 := rfl

@[simp] theorem width_of64 (x : UInt64) : (of64 x).width = 8 := rfl

end Word

/-- The words one after the other. -/
def packed (words : List Word) : Bytes := words.flatMap Word.bytes

theorem length_packed (words : List Word) :
    (packed words).length = (words.map Word.width).sum := by
  induction words with
  | nil => rfl
  | cons word words ih =>
    rw [packed] at ih ⊢
    rw [List.flatMap_cons, List.length_append, ih, word.length_bytes, List.map_cons, List.sum_cons]

namespace Format

variable {α β : Type}

theorem pack_pair {f : Format α} {g : Format β} {a : α} {b : β} {x y : Bytes}
    (hx : f.pack a = some x) (hy : g.pack b = some y) : (f ×ˢ g).pack (a, b) = some (x ++ y) := by
  change (f.pair g).pack (a, b) = _
  rw [pair]
  simp only [hx, hy, Option.bind_some, Option.map_some]

theorem pack_raw {n : ℕ} {data : Bytes} (h : data.length = n) : (raw n).pack data = some data :=
  if_pos h

theorem pack_word (word : Word) :
    (int word.width).pack (word.value : Int) = some word.bytes := by
  have hfits : (word.value : Int) < 256 ^ word.width := by exact_mod_cast word.fits
  rw [int]
  simp only [Int.natCast_nonneg, hfits, and_self, if_true, Int.toNat_natCast, Word.bytes]

/-- Words are packed as the format of their widths packs their values. -/
theorem pack_packed (words : List Word) :
    (ints (words.map Word.width)).pack (words.map fun word => (word.value : Int)) =
      some (packed words) := by
  induction words with
  | nil => rfl
  | cons word words ih =>
    change (int word.width ×ˢ ints (words.map Word.width)).pack
      ((word.value : Int), words.map fun word => (word.value : Int)) = _
    exact pack_pair (pack_word word) ih

end Format

end Foundation
