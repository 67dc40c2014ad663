/-
# Fixed-width records of bytes

A format writes the values of a type as byte strings of one length and reads them back.  The two
directions are inverse to each other wherever they are defined, and that law is a field of the
format, so a record put together from formats inherits it.
-/
import Mathlib.Data.List.Basic
import Mathlib.Tactic.Ring

namespace Foundation

abbrev Bytes := List UInt8

/-! ## Zeros -/

def zeros (n : ℕ) : Bytes := List.replicate n 0

/-- Some byte is not zero. -/
def anySet (data : Bytes) : Bool := data.any (· != 0)

@[simp] theorem length_zeros (n : ℕ) : (zeros n).length = n := List.length_replicate

@[simp] theorem anySet_zeros (n : ℕ) : anySet (zeros n) = false := by
  simp [anySet, zeros]

variable {data : Bytes}

theorem anySet_eq_false_iff : anySet data = false ↔ data = zeros data.length := by
  rw [zeros, List.eq_replicate_iff]
  simp [anySet]

theorem eq_zeros_of_anySet {n : ℕ} (hdata : anySet data = false) (hlength : data.length = n) :
    data = zeros n := by
  subst hlength
  exact anySet_eq_false_iff.1 hdata

/-! ## Little-endian integers -/

/-- The `width` low bytes of a number, the least significant first. -/
def littleEndian : ℕ → ℕ → Bytes
  | 0, _ => []
  | width + 1, n => UInt8.ofNat n :: littleEndian width (n / 256)

def ofLittleEndian : Bytes → ℕ
  | [] => 0
  | b :: bs => b.toNat + 256 * ofLittleEndian bs

@[simp] theorem length_littleEndian (width n : ℕ) : (littleEndian width n).length = width := by
  induction width generalizing n with
  | zero => rfl
  | succ width ih => rw [littleEndian, List.length_cons, ih]

theorem ofLittleEndian_littleEndian {width n : ℕ} (h : n < 256 ^ width) :
    ofLittleEndian (littleEndian width n) = n := by
  induction width generalizing n with
  | zero =>
    rw [pow_zero] at h
    rw [littleEndian, ofLittleEndian]
    omega
  | succ width ih =>
    have hrest : n / 256 < 256 ^ width := by
      rw [pow_succ] at h
      omega
    rw [littleEndian, ofLittleEndian, ih hrest, UInt8.toNat_ofNat']
    omega

theorem ofLittleEndian_lt (data : Bytes) : ofLittleEndian data < 256 ^ data.length := by
  induction data with
  | nil => simp [ofLittleEndian]
  | cons b bs ih =>
    have hb : b.toNat < 256 := b.toNat_lt
    rw [ofLittleEndian, List.length_cons, pow_succ]
    omega

theorem littleEndian_ofLittleEndian (data : Bytes) :
    littleEndian data.length (ofLittleEndian data) = data := by
  induction data with
  | nil => rfl
  | cons b bs ih =>
    have hb : b.toNat < 256 := b.toNat_lt
    have hhead : UInt8.ofNat (b.toNat + 256 * ofLittleEndian bs) = b := by
      apply UInt8.toNat_inj.1
      rw [UInt8.toNat_ofNat']
      omega
    have htail : (b.toNat + 256 * ofLittleEndian bs) / 256 = ofLittleEndian bs := by omega
    rw [List.length_cons, ofLittleEndian, littleEndian, hhead, htail, ih]

theorem anySet_eq_false_iff_ofLittleEndian : anySet data = false ↔ ofLittleEndian data = 0 := by
  induction data with
  | nil => simp [anySet, ofLittleEndian]
  | cons b bs ih =>
    have hb : (b != 0) = false ↔ b.toNat = 0 := by
      rw [bne_eq_false_iff_eq, ← UInt8.toNat_inj]
      rfl
    have hcons : anySet (b :: bs) = (b != 0 || anySet bs) := rfl
    rw [hcons, Bool.or_eq_false_iff, hb, ih, ofLittleEndian]
    omega

/-! ## Lists -/

variable {α β : Type}

variable {as : List α}

variable {bs : List β}

theorem mapM_cons_eq_some {f : α → Option β} {a : α} :
    (a :: as).mapM f = some bs ↔ ∃ b bs', f a = some b ∧ as.mapM f = some bs' ∧ b :: bs' = bs := by
  simp only [List.mapM_cons, Option.bind_eq_bind, Option.bind_eq_some_iff, Option.pure_def,
    Option.some.injEq]
  constructor
  · rintro ⟨b, hb, bs', hbs, rfl⟩
    exact ⟨b, bs', hb, hbs, rfl⟩
  · rintro ⟨b, bs', hb, hbs, rfl⟩
    exact ⟨b, hb, bs', hbs, rfl⟩

theorem length_of_mapM {f : α → Option β} (h : as.mapM f = some bs) : bs.length = as.length := by
  induction as generalizing bs with
  | nil =>
    cases h
    rfl
  | cons a as ih =>
    obtain ⟨b, bs', -, hbs, rfl⟩ := mapM_cons_eq_some.1 h
    rw [List.length_cons, List.length_cons, ih hbs]

theorem mapM_of_mapM {f : α → Option β} {g : β → Option α}
    (hback : ∀ {a b}, f a = some b → g b = some a) (h : as.mapM f = some bs) :
    bs.mapM g = some as := by
  induction as generalizing bs with
  | nil =>
    cases h
    rfl
  | cons a as ih =>
    obtain ⟨b, bs', hb, hbs, rfl⟩ := mapM_cons_eq_some.1 h
    exact mapM_cons_eq_some.2 ⟨a, as, hback hb, ih hbs, rfl⟩

/-! ## Enumerations -/

/-- An enumeration whose members have integer values of their own. -/
class IntEnum (α : Type) where
  members : List α
  value : α → Int
  mem_members : ∀ a, a ∈ members
  value_injective : ∀ {a b}, value a = value b → a = b

namespace IntEnum

variable {α : Type} [IntEnum α]

/-- The member of a value, if there is one. -/
def ofValue (v : Int) : Option α := members.find? fun a => value a == v

theorem ofValue_iff {v : Int} {a : α} : ofValue v = some a ↔ value a = v := by
  have hfound {b : α} (h : ofValue v = some b) : value b = v :=
    beq_iff_eq.1 (List.find?_some (p := fun a => value a == v) h)
  constructor
  · exact hfound
  · intro h
    cases hfind : (ofValue v : Option α) with
    | none =>
      have hnone := List.find?_eq_none.1 hfind a (mem_members a)
      exact absurd (beq_iff_eq.2 h) hnone
    | some b =>
      rw [value_injective ((hfound hfind).trans h.symm)]

@[simp] theorem ofValue_value (a : α) : ofValue (value a) = some a := ofValue_iff.2 rfl

end IntEnum

/-! ## Formats -/

/-- Values of a type as byte strings of length `size`; `pack` and `unpack` are inverse. -/
structure Format (α : Type) where
  size : ℕ
  pack : α → Option Bytes
  unpack : Bytes → Option α
  pack_iff : ∀ {a data}, pack a = some data ↔ unpack data = some a
  length_pack : ∀ {a data}, pack a = some data → data.length = size

namespace Format

variable {α β : Type}

theorem length_unpack (f : Format α) {a : α} (h : f.unpack data = some a) : data.length = f.size :=
  f.length_pack (f.pack_iff.2 h)

/-- No two values are written as the same bytes. -/
theorem pack_injective (f : Format α) {a b : α} (ha : f.pack a = some data)
    (hb : f.pack b = some data) : a = b :=
  Option.some.inj ((f.pack_iff.1 ha).symm.trans (f.pack_iff.1 hb))

/-- `n` bytes as they are. -/
def raw (n : ℕ) : Format Bytes where
  size := n
  pack value := if value.length = n then some value else none
  unpack data := if data.length = n then some data else none
  pack_iff {a data} := by
    simp only [Option.ite_none_right_eq_some, Option.some.injEq]
    constructor
    · rintro ⟨h, rfl⟩
      exact ⟨h, rfl⟩
    · rintro ⟨h, rfl⟩
      exact ⟨h, rfl⟩
  length_pack {a data} h := by
    simp only [Option.ite_none_right_eq_some, Option.some.injEq] at h
    rw [← h.2, h.1]

/-- An unsigned integer of `width` bytes. -/
def int (width : ℕ) : Format Int where
  size := width
  pack value :=
    if 0 ≤ value ∧ value < 256 ^ width then some (littleEndian width value.toNat) else none
  unpack data := if data.length = width then some (ofLittleEndian data) else none
  pack_iff {a data} := by
    simp only [Option.ite_none_right_eq_some, Option.some.injEq]
    constructor
    · rintro ⟨⟨hpos, hlt⟩, rfl⟩
      refine ⟨length_littleEndian .., ?_⟩
      rw [ofLittleEndian_littleEndian, Int.toNat_of_nonneg hpos]
      rw [Int.toNat_lt hpos]
      exact_mod_cast hlt
    · rintro ⟨rfl, rfl⟩
      refine ⟨⟨by omega, by exact_mod_cast ofLittleEndian_lt data⟩, ?_⟩
      rw [Int.toNat_natCast, littleEndian_ofLittleEndian]
  length_pack {a data} h := by
    simp only [Option.ite_none_right_eq_some, Option.some.injEq] at h
    rw [← h.2, length_littleEndian]

/-- One record after the other. -/
def pair (f : Format α) (g : Format β) : Format (α × β) where
  size := f.size + g.size
  pack value := (f.pack value.1).bind fun x => (g.pack value.2).map fun y => x ++ y
  unpack data := (f.unpack (data.take f.size)).bind fun a =>
    (g.unpack (data.drop f.size)).map fun b => (a, b)
  pack_iff {a data} := by
    simp only [Option.bind_eq_some_iff, Option.map_eq_some_iff]
    constructor
    · rintro ⟨x, hx, y, hy, rfl⟩
      refine ⟨a.1, ?_, a.2, ?_, rfl⟩
      · rw [List.take_left' (f.length_pack hx)]
        exact f.pack_iff.1 hx
      · rw [List.drop_left' (f.length_pack hx)]
        exact g.pack_iff.1 hy
    · rintro ⟨a, ha, b, hb, rfl⟩
      exact ⟨_, f.pack_iff.2 ha, _, g.pack_iff.2 hb, List.take_append_drop ..⟩
  length_pack {a data} h := by
    simp only [Option.bind_eq_some_iff, Option.map_eq_some_iff] at h
    obtain ⟨x, hx, y, hy, rfl⟩ := h
    rw [List.length_append, f.length_pack hx, g.length_pack hy]

instance : SProd (Format α) (Format β) (Format (α × β)) := ⟨pair⟩

/-- The format has bytes for a value. -/
def Holds (f : Format α) (a : α) : Prop := ∃ data, f.unpack data = some a

variable {f : Format α}

theorem holds_of_unpack {a : α} (h : f.unpack data = some a) : f.Holds a := ⟨data, h⟩

theorem holds_iff {a : α} : f.Holds a ↔ ∃ data, f.pack a = some data :=
  exists_congr fun _ => f.pack_iff.symm

@[simp] theorem holds_raw {n : ℕ} {value : Bytes} : (raw n).Holds value ↔ value.length = n := by
  rw [holds_iff]
  simp [raw]

@[simp] theorem holds_int {width : ℕ} {value : Int} :
    (int width).Holds value ↔ 0 ≤ value ∧ value < 256 ^ width := by
  rw [holds_iff]
  simp [int]

@[simp] theorem holds_pair {g : Format β} {a : α} {b : β} :
    (f ×ˢ g).Holds (a, b) ↔ f.Holds a ∧ g.Holds b := by
  change (f.pair g).Holds (a, b) ↔ _
  simp only [holds_iff, pair, Option.bind_eq_some_iff, Option.map_eq_some_iff]
  constructor
  · rintro ⟨data, x, hx, y, hy, -⟩
    exact ⟨⟨x, hx⟩, y, hy⟩
  · rintro ⟨⟨x, hx⟩, y, hy⟩
    exact ⟨_, x, hx, y, hy, rfl⟩

/-- The record without fields. -/
def empty : Format Unit where
  size := 0
  pack _ := some []
  unpack data := if data = [] then some () else none
  pack_iff {a data} := by simp [eq_comm]
  length_pack {a data} h := by simp_all

/-- The values of another type, which `values` reads off and `build` puts together. -/
def through (f : Format α) (build : α → β) (values : β → Option α)
    (values_iff : ∀ a b, values b = some a ↔ build a = b) : Format β where
  size := f.size
  pack b := (values b).bind f.pack
  unpack data := (f.unpack data).map build
  pack_iff {b data} := by
    simp only [Option.bind_eq_some_iff, Option.map_eq_some_iff, values_iff, f.pack_iff]
    constructor
    · rintro ⟨a, hb, ha⟩
      exact ⟨a, ha, hb⟩
    · rintro ⟨a, ha, hb⟩
      exact ⟨a, hb, ha⟩
  length_pack {b data} h := by
    obtain ⟨a, -, ha⟩ := Option.bind_eq_some_iff.1 h
    exact f.length_pack ha

/-- Unsigned integers one after the other. -/
def ints : List ℕ → Format (List Int)
  | [] => empty.through (fun _ => []) (fun values => if values = [] then some () else none)
      (by simp [eq_comm])
  | width :: widths => (int width ×ˢ ints widths).through (fun value => value.1 :: value.2)
      (fun values => match values with
        | [] => none
        | value :: values => some (value, values))
      (by
        rintro ⟨a, as⟩ b
        cases b with
        | nil => simp
        | cons b bs => simp [eq_comm])

theorem holds_through {build : α → β} {values : β → Option α}
    {values_iff : ∀ a b, values b = some a ↔ build a = b} {b : β} :
    (f.through build values values_iff).Holds b ↔ ∃ a, values b = some a ∧ f.Holds a := by
  simp only [holds_iff, through, Option.bind_eq_some_iff]
  constructor
  · rintro ⟨data, a, ha, hdata⟩
    exact ⟨a, ha, data, hdata⟩
  · rintro ⟨a, ha, data, hdata⟩
    exact ⟨data, a, ha, hdata⟩

@[simp] theorem holds_ints_nil {values : List Int} : (ints []).Holds values ↔ values = [] := by
  refine holds_through.trans ?_
  simp [holds_iff, empty]

@[simp] theorem holds_ints_cons {width : ℕ} {widths : List ℕ} {values : List Int} :
    (ints (width :: widths)).Holds values ↔
      ∃ value rest, values = value :: rest ∧ (0 ≤ value ∧ value < 256 ^ width) ∧
        (ints widths).Holds rest := by
  refine holds_through.trans ?_
  cases values with
  | nil => simp
  | cons value rest => simp

/-- Values that are read field by field and written again for their checks come from the bytes
they are written as. -/
theorem checked_decode_iff (f : Format α) {values : β → α} {ofValues : α → Option β}
    {encode : β → Option Bytes} (hvalues : ∀ {a b}, ofValues a = some b ↔ values b = a)
    (hpack : ∀ {b data}, encode b = some data → f.pack (values b) = some data) {b : β} :
    (if data.length ≠ f.size then none
      else do
        let a ← f.unpack data
        let result ← ofValues a
        let _ ← encode result
        return result) = some b ↔ encode b = some data := by
  simp only [Option.bind_eq_bind, Option.ite_none_left_eq_some, not_not, Option.bind_eq_some_iff]
  constructor
  · rintro ⟨-, a, hunpack, result, hresult, again, hagain, h⟩
    cases h
    rw [hagain, ← f.pack_iff.2 hunpack, ← hvalues.1 hresult, hpack hagain]
  · intro h
    exact ⟨f.length_pack (hpack h), _, f.pack_iff.1 (hpack h), b, hvalues.2 rfl, data, h, rfl⟩

end Format

/-! ## Exact formats -/

/-- Encoding and decoding are inverse to each other wherever one of them succeeds, so that every
value is read back from its bytes, every accepted byte string is the one its value is written
as, and no two byte strings mean the same. -/
structure Exact {α : Type} (encode : α → Option Bytes) (decode : Bytes → Option α) : Prop where
  decode_encode : ∀ {a data}, encode a = some data → decode data = some a
  encode_decode : ∀ {data a}, decode data = some a → encode a = some data
  decode_injective : ∀ {x y a}, decode x = some a → decode y = some a → x = y
  encode_injective : ∀ {a b data}, encode a = some data → encode b = some data → a = b

theorem Exact.of_iff {α : Type} {encode : α → Option Bytes} {decode : Bytes → Option α}
    (hiff : ∀ {a data}, decode data = some a ↔ encode a = some data) : Exact encode decode where
  decode_encode h := hiff.2 h
  encode_decode h := hiff.1 h
  decode_injective hx hy := Option.some.inj ((hiff.1 hx).symm.trans (hiff.1 hy))
  encode_injective ha hb := Option.some.inj ((hiff.2 ha).symm.trans (hiff.2 hb))

end Foundation
