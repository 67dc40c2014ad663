/-
# The host language

The pieces of the host language the modelled code relies on: identifiers, number
formatting, rounding of exact numbers, and errors.  Floating-point values are read as
exact rationals.  Library functions whose results are not rational (`hypot`), that round
to a narrower format (`f32`) or that depend on Unicode tables (`lower`, `isalnum`,
`repr`) are the fields of a `Runtime`, together with the documented facts the code uses.
-/
import Mathlib.Data.String.Basic
import Mathlib.Algebra.Order.Ring.Unbundled.Rat

namespace Foundation

/-! ## Text -/

/-- The white-space characters of the host language. -/
def isSpace (c : Char) : Bool :=
  let n := c.toNat
  (9 ≤ n && n ≤ 13) || (28 ≤ n && n ≤ 32) || n == 0x85 || n == 0xA0 || n == 0x1680 ||
    (0x2000 ≤ n && n ≤ 0x200A) || n == 0x2028 || n == 0x2029 || n == 0x202F ||
    n == 0x205F || n == 0x3000

/-- `bool(text.strip())`: some character is not white space. -/
def nonblank (s : String) : Bool := s.toList.any (fun c => !isSpace c)

/-- The check every identifier passes: a string that is not blank. -/
def Identifier (s : String) : Prop := nonblank s = true

instance (s : String) : Decidable (Identifier s) := inferInstanceAs (Decidable (_ = true))

/-- The check of `_unique_strings`: no repetition and every member an identifier. -/
def UniqueStrings (l : List String) : Prop := l.Nodup ∧ ∀ s ∈ l, Identifier s

instance (l : List String) : Decidable (UniqueStrings l) := inferInstanceAs (Decidable (_ ∧ _))

/-- A literal prefix makes any string an identifier. -/
theorem identifier_append_left {p : String} (h : Identifier p) (s : String) :
    Identifier (p ++ s) := by
  unfold Identifier nonblank at *
  rw [String.toList_append, List.any_append, h, Bool.true_or]

/-- `text.startswith(prefix)`. -/
def startsWith (s p : String) : Bool := p.toList.isPrefixOf s.toList

/-- `text.removeprefix(prefix)`. -/
def removePrefix (s p : String) : String :=
  if startsWith s p then String.ofList (s.toList.drop p.toList.length) else s

/-- The decimal digits of `n`. -/
def decimal (n : ℕ) : String := String.ofList (Nat.toDigits 10 n)

/-- `f"{n:0{width}d}"`. -/
def padded (width n : ℕ) : String :=
  let digits := Nat.toDigits 10 n
  String.ofList (List.replicate (width - digits.length) '0' ++ digits)

/-- The digits of a number determine it, with any number of leading zeros. -/
theorem padded_injective {width m n : ℕ} (h : padded width m = padded width n) : m = n := by
  have hvalue (k : ℕ) : Nat.ofDigitChars 10 (padded width k).toList 0 = k := by
    rw [padded, String.toList_ofList, Nat.ofDigitChars_append, Nat.ofDigitChars_replicate_zero,
      Nat.mul_zero, Nat.ofDigitChars_ten_toDigits]
  rw [← hvalue m, h, hvalue n]

theorem decimal_injective {m n : ℕ} (h : decimal m = decimal n) : m = n := by
  have hpadded (k : ℕ) : padded 0 k = decimal k := by
    rw [padded, Nat.zero_sub, List.replicate_zero, List.nil_append, decimal]
  rw [← hpadded, ← hpadded] at h
  exact padded_injective h

/-! ## Rounding -/

/-- `round(q)`: to the nearest integer, halves to the even one. -/
def roundHalfEven (q : ℚ) : ℤ :=
  let low := q.floor
  let rest := q - low
  if rest < 1 / 2 then low
  else if 1 / 2 < rest then low + 1
  else if low % 2 = 0 then low
  else low + 1

/-- `int(q)`: truncation towards zero. -/
def truncate (q : ℚ) : ℤ := if q < 0 then q.ceil else q.floor

/-! ## Errors -/

/-- The error classes the modelled code raises. -/
inductive FaultKind where
  | value
  | key
  | configuration
  | protocolMismatch
  | affiliationConfiguration
  | affiliationConflict
  | affiliationFormat
  deriving DecidableEq, Repr

/-- A raised error: its class and its message. -/
structure Fault where
  kind : FaultKind
  text : String
  deriving DecidableEq, Repr

namespace Fault

/-- `ValueError(text)`. -/
def valueError (text : String) : Fault := ⟨.value, text⟩

/-- `KeyError(text)`. -/
def keyError (text : String) : Fault := ⟨.key, text⟩

/-- `SimulationConfigurationError(text)`. -/
def configurationError (text : String) : Fault := ⟨.configuration, text⟩

/-- `ProtocolMismatchError(text)`. -/
def protocolMismatch (text : String) : Fault := ⟨.protocolMismatch, text⟩

/-- `AffiliationConfigurationError(text)`. -/
def affiliationConfiguration (text : String) : Fault := ⟨.affiliationConfiguration, text⟩

/-- `AffiliationConflictError(text)`. -/
def affiliationConflict (text : String) : Fault := ⟨.affiliationConflict, text⟩

/-- `AffiliationSnapshotFormatError(text)`. -/
def affiliationFormat (text : String) : Fault := ⟨.affiliationFormat, text⟩

end Fault

/-- `if not condition: raise fault`. -/
def require (condition : Bool) (fault : Fault) : Except Fault Unit :=
  if condition then .ok () else .error fault

section Except

variable {ε α β : Type}

@[simp] theorem ok_bind (a : α) (f : α → Except ε β) : (Except.ok a >>= f) = f a := rfl

@[simp] theorem error_bind (e : ε) (f : α → Except ε β) :
    ((Except.error e : Except ε α) >>= f) = .error e := rfl

@[simp] theorem pure_eq_ok (a : α) : (pure a : Except ε α) = .ok a := rfl

variable {f : α → Except ε β}

/-- A sequence succeeds when its first part does and its second part does on the result. -/
theorem bind_eq_ok {x : Except ε α} {b : β} : (x >>= f) = .ok b ↔ ∃ a, x = .ok a ∧ f a = .ok b := by
  cases x with
  | error e => simp
  | ok a => simp

/-- A check followed by a computation succeeds when both do. -/
theorem check_bind_eq_ok {x : Except ε Unit} {f : Unit → Except ε β} {b : β} :
    (x >>= f) = .ok b ↔ x = .ok () ∧ f () = .ok b := by
  cases x with
  | error e => simp
  | ok a => simp

theorem forM_eq_ok {f : α → Except ε Unit} {l : List α} :
    l.forM f = .ok () ↔ ∀ a ∈ l, f a = .ok () := by
  induction l with
  | nil => exact ⟨fun _ => nofun, fun _ => rfl⟩
  | cons a l ih =>
    show (f a >>= fun _ => l.forM f) = .ok () ↔ _
    rw [check_bind_eq_ok, ih, List.forall_mem_cons]

theorem exists_mapM_eq_ok {l : List α} (h : ∀ a ∈ l, ∃ b, f a = .ok b) :
    ∃ bs, l.mapM f = .ok bs := by
  induction l with
  | nil => exact ⟨[], rfl⟩
  | cons a l ih =>
    obtain ⟨⟨b, hb⟩, hl⟩ := List.forall_mem_cons.1 h
    obtain ⟨bs, hbs⟩ := ih hl
    exact ⟨b :: bs, by rw [List.mapM_cons, hb, ok_bind, hbs, ok_bind]; rfl⟩

@[simp] theorem require_true (fault : Fault) : require true fault = .ok () := rfl

theorem require_eq_ok {condition : Bool} {fault : Fault} {u : Unit} :
    require condition fault = .ok u ↔ condition = true := by
  cases condition <;> simp [require]

end Except

/-! ## Library functions taken as parameters -/

/-- The host's library functions that have no exact rational counterpart, with the
documented facts about them. -/
structure Runtime where
  /-- `math.hypot(x, y)`. -/
  hypot : ℚ → ℚ → ℚ
  /-- Rounding to single precision. -/
  f32 : ℚ → ℚ
  /-- `str.lower`. -/
  lower : String → String
  /-- `str.isalnum` on one character. -/
  isalnum : Char → Bool
  /-- `repr` of a string. -/
  repr : String → String
  hypot_nonneg : ∀ x y, 0 ≤ hypot x y
  hypot_eq_zero : ∀ x y, hypot x y = 0 ↔ x = 0 ∧ y = 0
  hypot_neg : ∀ x y, hypot (-x) (-y) = hypot x y
  f32_nonneg : ∀ x, 0 ≤ x → 0 ≤ f32 x

/-- `str(error)`: a key error prints the `repr` of its message. -/
def Fault.str (rt : Runtime) (fault : Fault) : String :=
  match fault.kind with
  | .key => rt.repr fault.text
  | _ => fault.text

/-- A runtime for evaluating concrete inputs.  It agrees with the host's on vectors along
an axis, on values that single precision represents, and on ASCII text without quotes. -/
def Runtime.sample : Runtime where
  hypot x y := |x| + |y|
  f32 x := x
  lower s := String.ofList (s.toList.map Char.toLower)
  isalnum c := c.isAlphanum
  repr s := "'" ++ s ++ "'"
  hypot_nonneg x y := add_nonneg (abs_nonneg x) (abs_nonneg y)
  hypot_eq_zero x y := by
    rw [add_eq_zero_iff_of_nonneg (abs_nonneg x) (abs_nonneg y), abs_eq_zero, abs_eq_zero]
  hypot_neg x y := by rw [abs_neg, abs_neg]
  f32_nonneg _ h := h

end Foundation
