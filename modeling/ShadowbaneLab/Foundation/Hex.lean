/-
# Bytes as text

ASCII text, `data.hex()`, `bytes.fromhex(text)` and the canonical text of a 16-byte identifier
(`uuid.UUID`).  `int(text, 16)` and `bytes.fromhex` also read forms that `hex()` never writes
(white space, underscores, a sign); callers compare with the canonical text, so these forms
are left out.
-/
import Mathlib.Data.List.DropRight
import Mathlib.Tactic.IntervalCases
import ShadowbaneLab.Foundation.Wire

namespace Foundation

open List

/-! ## ASCII -/

/-- The characters as bytes; exact below 256. -/
def asciiBytes (text : String) : Bytes := text.toList.map fun c => UInt8.ofNat c.toNat

/-- The bytes as characters. -/
def asciiText (data : Bytes) : String := String.ofList (data.map fun b => Char.ofNat b.toNat)

theorem toNat_ofNat_of_lt {n : ℕ} (h : n < 256) : (Char.ofNat n).toNat = n := by
  have hvalid : n.isValidChar := Or.inl (by omega)
  rw [Char.ofNat, dif_pos hvalid]
  rfl

theorem asciiText_asciiBytes {text : String} (h : ∀ c ∈ text.toList, c.toNat < 256) :
    asciiText (asciiBytes text) = text := by
  have hback : text.toList.map (fun c => Char.ofNat (UInt8.ofNat c.toNat).toNat) = text.toList := by
    rw [map_congr_left (g := id), map_id]
    intro c hc
    rw [UInt8.toNat_ofNat', Nat.mod_eq_of_lt (h c hc), Char.ofNat_toNat, id]
  rw [asciiText, asciiBytes, map_map, Function.comp_def, hback, String.ofList_toList]

@[simp] theorem asciiBytes_asciiText (data : Bytes) : asciiBytes (asciiText data) = data := by
  rw [asciiText, asciiBytes, String.toList_ofList, map_map, map_congr_left (g := id),
    map_id]
  intro b _
  rw [Function.comp_apply, toNat_ofNat_of_lt b.toNat_lt, UInt8.ofNat_toNat, id]

@[simp] theorem length_asciiBytes (text : String) :
    (asciiBytes text).length = text.toList.length := by
  rw [asciiBytes, length_map]

/-! ## Digits -/

def hexDigit (n : ℕ) : Char := Nat.digitChar n

/-- The value of a hexadecimal digit, in either case. -/
def hexValue (c : Char) : Option ℕ :=
  if '0' ≤ c ∧ c ≤ '9' then some (c.toNat - 48)
  else if 'a' ≤ c ∧ c ≤ 'f' then some (c.toNat - 87)
  else if 'A' ≤ c ∧ c ≤ 'F' then some (c.toNat - 55)
  else none

theorem hexValue_hexDigit {n : ℕ} (h : n < 16) : hexValue (hexDigit n) = some n := by
  interval_cases n <;> decide

theorem hexDigit_ne {n : ℕ} (h : n < 16) {c : Char} (hc : hexValue c = none) : hexDigit n ≠ c := by
  intro heq
  rw [← heq, hexValue_hexDigit h] at hc
  cases hc

/-! ## Texts -/

/-- `data.hex()`. -/
def hexText : Bytes → List Char
  | [] => []
  | b :: bs => hexDigit (b.toNat / 16) :: hexDigit (b.toNat % 16) :: hexText bs

/-- Pairs of digits as bytes: `bytes.fromhex(text)`. -/
def ofHexText : List Char → Option Bytes
  | [] => some []
  | [_] => none
  | high :: low :: rest =>
    match hexValue high, hexValue low, ofHexText rest with
    | some h, some l, some bs => some (UInt8.ofNat (16 * h + l) :: bs)
    | _, _, _ => none

@[simp] theorem length_hexText (data : Bytes) : (hexText data).length = 2 * data.length := by
  induction data with
  | nil => rfl
  | cons b bs ih =>
    simp only [hexText, length_cons, ih]
    omega

@[simp] theorem ofHexText_hexText (data : Bytes) : ofHexText (hexText data) = some data := by
  induction data with
  | nil => rfl
  | cons b bs ih =>
    have hb : b.toNat < 256 := b.toNat_lt
    have hbyte : UInt8.ofNat (16 * (b.toNat / 16) + b.toNat % 16) = b := by
      rw [Nat.div_add_mod, UInt8.ofNat_toNat]
    rw [hexText, ofHexText, hexValue_hexDigit (by omega), hexValue_hexDigit (by omega), ih]
    simp only [hbyte]

/-- A character that is no digit does not occur. -/
theorem notMem_hexText {c : Char} (hc : hexValue c = none) (data : Bytes) : c ∉ hexText data := by
  induction data with
  | nil => exact not_mem_nil
  | cons b bs ih =>
    have hb : b.toNat < 256 := b.toNat_lt
    rw [hexText, mem_cons, mem_cons]
    rintro (h | h | h)
    · exact hexDigit_ne (by omega) hc h.symm
    · exact hexDigit_ne (by omega) hc h.symm
    · exact ih h

/-! ## Identifiers -/

/-- `text.replace(pattern, "")`; `skip` characters of the last occurrence are still to drop. -/
def removeAll (pattern : List Char) : ℕ → List Char → List Char
  | _, [] => []
  | skip + 1, _ :: cs => removeAll pattern skip cs
  | 0, c :: cs =>
    if pattern.isPrefixOf (c :: cs) then removeAll pattern (pattern.length - 1) cs
    else c :: removeAll pattern 0 cs

/-- `text.strip("{}")`. -/
def stripBraces (text : List Char) : List Char :=
  let isBrace := fun c => c == '{' || c == '}'
  (text.dropWhile isBrace).rdropWhile isBrace

/-- `str(uuid.UUID(bytes=data))`, in five groups. -/
def uuidText (data : Bytes) : String :=
  let digits := hexText data
  String.ofList (digits.take 8 ++ '-' :: ((digits.drop 8).take 4 ++ '-' ::
    ((digits.drop 12).take 4 ++ '-' :: ((digits.drop 16).take 4 ++ '-' :: digits.drop 20))))

/-- `uuid.UUID(text).bytes`. -/
def uuidBytes (text : String) : Option Bytes :=
  let bare := removeAll "uuid:".toList 0 (removeAll "urn:".toList 0 text.toList)
  let digits := removeAll "-".toList 0 (stripBraces bare)
  if digits.length = 32 then ofHexText digits else none

theorem removeAll_of_notMem {pattern : List Char} {c : Char} (hc : c ∈ pattern) {text : List Char}
    (htext : c ∉ text) : removeAll pattern 0 text = text := by
  induction text with
  | nil => rfl
  | cons d ds ih =>
    have hprefix : pattern.isPrefixOf (d :: ds) = false := by
      rw [Bool.eq_false_iff]
      intro h
      exact htext ((List.isPrefixOf_iff_prefix.1 h).subset hc)
    rw [removeAll, hprefix, if_neg Bool.false_ne_true, ih (not_mem_of_not_mem_cons htext)]

theorem removeAll_append_dash {x y : List Char} (hx : '-' ∉ x) :
    removeAll ['-'] 0 (x ++ '-' :: y) = x ++ removeAll ['-'] 0 y := by
  induction x with
  | nil => simp [removeAll]
  | cons c cs ih =>
    have hne : c ≠ '-' := fun h => hx (h ▸ mem_cons_self)
    have hprefix : ['-'].isPrefixOf (c :: (cs ++ '-' :: y)) = false := by
      simp [List.isPrefixOf, Ne.symm hne]
    rw [cons_append, removeAll, hprefix, if_neg Bool.false_ne_true,
      ih (not_mem_of_not_mem_cons hx), cons_append]

theorem stripBraces_of_notMem {text : List Char} (h : '{' ∉ text) (h' : '}' ∉ text) :
    stripBraces text = text := by
  have hhead (l : List Char) (hl : ∀ c ∈ l, (c == '{' || c == '}') = false) :
      l.dropWhile (fun c => c == '{' || c == '}') = l := by
    cases l with
    | nil => rfl
    | cons c cs => rw [dropWhile_cons, hl c mem_cons_self, if_neg Bool.false_ne_true]
  have hnone : ∀ c ∈ text, (c == '{' || c == '}') = false := by
    intro c hc
    rw [Bool.or_eq_false_iff, beq_eq_false_iff_ne, beq_eq_false_iff_ne]
    exact ⟨fun heq => h (heq ▸ hc), fun heq => h' (heq ▸ hc)⟩
  rw [stripBraces, hhead text hnone, List.rdropWhile,
    hhead text.reverse fun c hc => hnone c (mem_reverse.1 hc), reverse_reverse]

/-- The canonical text is read back. -/
theorem uuidBytes_uuidText {data : Bytes} (hlength : data.length = 16) :
    uuidBytes (uuidText data) = some data := by
  have hnot {c : Char} (hc : hexValue c = none) (hdash : c ≠ '-') : c ∉ (uuidText data).toList := by
    have hdigits := notMem_hexText hc data
    rw [uuidText, String.toList_ofList]
    simp only [mem_append, mem_cons, hdash, false_or, not_or]
    refine ⟨fun h => hdigits (mem_of_mem_take h), ?_, ?_, ?_, ?_⟩
    · exact fun h => hdigits (mem_of_mem_drop (mem_of_mem_take h))
    · exact fun h => hdigits (mem_of_mem_drop (mem_of_mem_take h))
    · exact fun h => hdigits (mem_of_mem_drop (mem_of_mem_take h))
    · exact fun h => hdigits (mem_of_mem_drop h)
  have hdash : '-' ∉ hexText data := notMem_hexText (by decide) data
  have hdrop (n : ℕ) : '-' ∉ (hexText data).drop n := fun h => hdash (mem_of_mem_drop h)
  have hgroup (n k : ℕ) : '-' ∉ ((hexText data).drop n).take k :=
    fun h => hdrop n (mem_of_mem_take h)
  have hdigits : removeAll "-".toList 0 (uuidText data).toList = hexText data := by
    rw [uuidText, String.toList_ofList, String.toList_ofList,
      removeAll_append_dash fun h => hdash (mem_of_mem_take h),
      removeAll_append_dash (hgroup 8 4), removeAll_append_dash (hgroup 12 4),
      removeAll_append_dash (hgroup 16 4), removeAll_of_notMem mem_cons_self (hdrop 20)]
    have h20 := take_append_drop 4 ((hexText data).drop 16)
    have h16 := take_append_drop 4 ((hexText data).drop 12)
    have h12 := take_append_drop 4 ((hexText data).drop 8)
    rw [drop_drop] at h20 h16 h12
    rw [h20, h16, h12, take_append_drop]
  have hcolon : ':' ∉ (uuidText data).toList := hnot (by decide) (by decide)
  rw [uuidBytes, removeAll_of_notMem (by decide) hcolon, removeAll_of_notMem (by decide) hcolon,
    stripBraces_of_notMem (hnot (by decide) (by decide)) (hnot (by decide) (by decide)), hdigits,
    if_pos (by rw [length_hexText, hlength]), ofHexText_hexText]

theorem uuidText_injective {x y : Bytes} (hx : x.length = 16) (hy : y.length = 16)
    (h : uuidText x = uuidText y) : x = y := by
  have hback := congrArg uuidBytes h
  rwa [uuidBytes_uuidText hx, uuidBytes_uuidText hy, Option.some.injEq] at hback

theorem length_ofHexText : ∀ {text : List Char} {data : Bytes},
    ofHexText text = some data → 2 * data.length = text.length
  | [], data, h => by
    cases h
    rfl
  | [_], data, h => by cases h
  | high :: low :: rest, data, h => by
    rw [ofHexText] at h
    split at h
    case h_1 hrest =>
      cases h
      have ih := length_ofHexText hrest
      simp only [length_cons]
      omega
    case h_2 => cases h

theorem length_uuidBytes {text : String} {data : Bytes} (h : uuidBytes text = some data) :
    data.length = 16 := by
  rw [uuidBytes] at h
  obtain ⟨hlength, hdata⟩ := Option.ite_none_right_eq_some.1 h
  have htwice := length_ofHexText hdata
  omega

end Foundation
