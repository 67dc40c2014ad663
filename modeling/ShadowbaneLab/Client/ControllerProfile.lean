/-
# Controller bindings

`src/shadowbane_lab/client_extension/controller_profile.py`: a binding packed into one 16-bit
word, and the profile of up to 24 of them.  The fields of a word do not overlap, so that its
bit operations are the sums, quotients and remainders written here.
-/
import Mathlib.Data.Int.Bitwise
import ShadowbaneLab.Foundation.Wire

namespace ShadowbaneLab

open Foundation

/-- `value & mask` is not zero. -/
def hasFlag (value mask : Int) : Bool := Int.land value mask != 0

/-- `value & ~mask` is not zero. -/
def hasOther (value mask : Int) : Bool := Int.land value (Int.lnot mask) != 0

namespace ControllerProfile

inductive ControllerAction
  | movement
  | camera
  | cancelMovement
deriving DecidableEq

instance : IntEnum ControllerAction where
  members := [.movement, .camera, .cancelMovement]
  value
    | .movement => 1
    | .camera => 2
    | .cancelMovement => 3
  mem_members := by rintro ⟨⟩ <;> decide
  value_injective := by rintro ⟨⟩ ⟨⟩ <;> simp

inductive ControllerControl
  | leftStick
  | rightStick
  | a
  | b
  | x
  | y
  | dpadUp
  | dpadDown
  | dpadLeft
  | dpadRight
  | start
  | back
  | leftThumb
  | rightThumb
  | leftShoulder
  | rightShoulder
  | leftTrigger
  | rightTrigger
deriving DecidableEq

instance : IntEnum ControllerControl where
  members := [.leftStick, .rightStick, .a, .b, .x, .y, .dpadUp, .dpadDown, .dpadLeft, .dpadRight,
    .start, .back, .leftThumb, .rightThumb, .leftShoulder, .rightShoulder, .leftTrigger,
    .rightTrigger]
  value
    | .leftStick => 1
    | .rightStick => 2
    | .a => 3
    | .b => 4
    | .x => 5
    | .y => 6
    | .dpadUp => 7
    | .dpadDown => 8
    | .dpadLeft => 9
    | .dpadRight => 10
    | .start => 11
    | .back => 12
    | .leftThumb => 13
    | .rightThumb => 14
    | .leftShoulder => 15
    | .rightShoulder => 16
    | .leftTrigger => 17
    | .rightTrigger => 18
  mem_members := by rintro ⟨⟩ <;> decide
  value_injective := by rintro ⟨⟩ ⟨⟩ <;> simp

structure ControllerBinding where
  action : ControllerAction
  control : ControllerControl
  modifiers : Int := 0
deriving DecidableEq

namespace ControllerBinding

def encode (binding : ControllerBinding) : Option Int :=
  if ¬ (0 ≤ binding.modifiers ∧ binding.modifiers ≤ 3) then none
  else if ¬ ((binding.control = .leftStick ∨ binding.control = .rightStick) ↔
      (binding.action = .movement ∨ binding.action = .camera)) then none
  else some (IntEnum.value binding.action + 2 ^ 6 * IntEnum.value binding.control +
    2 ^ 11 * binding.modifiers)

def decode (value : Int) : Option ControllerBinding := do
  if value < 0 ∨ 2 ^ 13 ≤ value then none
  else
    let action ← IntEnum.ofValue (value % 2 ^ 6)
    let control ← IntEnum.ofValue (value / 2 ^ 6 % 2 ^ 5)
    let result : ControllerBinding := ⟨action, control, value / 2 ^ 11 % 2 ^ 2⟩
    let _ ← result.encode
    return result

theorem action_bounds (action : ControllerAction) :
    0 ≤ IntEnum.value action ∧ IntEnum.value action < 2 ^ 6 := by
  cases action <;> decide

theorem control_bounds (control : ControllerControl) :
    0 ≤ IntEnum.value control ∧ IntEnum.value control < 2 ^ 5 := by
  cases control <;> decide

theorem decode_iff {binding : ControllerBinding} {value : Int} :
    decode value = some binding ↔ binding.encode = some value := by
  simp only [decode, Option.bind_eq_bind, Option.ite_none_left_eq_some, Option.bind_eq_some_iff]
  constructor
  · rintro ⟨hvalue, action, haction, control, hcontrol, again, hagain, h⟩
    cases h
    rw [hagain]
    simp only [encode, Option.ite_none_left_eq_some, Option.some.injEq] at hagain
    obtain ⟨-, -, rfl⟩ := hagain
    rw [IntEnum.ofValue_iff.1 haction, IntEnum.ofValue_iff.1 hcontrol]
    congr 1
    omega
  · intro hencode
    obtain ⟨action, control, modifiers⟩ := binding
    have h := hencode
    simp only [encode, Option.ite_none_left_eq_some, Option.some.injEq, not_not] at h
    obtain ⟨hmodifiers, -, rfl⟩ := h
    have haction := action_bounds action
    have hcontrol := control_bounds control
    have hback : (IntEnum.value action + 2 ^ 6 * IntEnum.value control + 2 ^ 11 * modifiers) /
        2 ^ 11 % 2 ^ 2 = modifiers := by omega
    rw [hback]
    exact ⟨by omega, action, IntEnum.ofValue_iff.2 (by omega), control,
      IntEnum.ofValue_iff.2 (by omega), _, hencode, rfl⟩

end ControllerBinding

/-! ## Profiles -/

/-- `CONTROLLER_BINDING_CAPACITY`. -/
def capacity : ℕ := 24

/-- The actions of the two sticks in a shoulder mode; a binding of the mode goes before one
without a modifier. -/
def stickActions (bindings : List ControllerBinding) (mode : Int) : List ControllerAction :=
  [ControllerControl.leftStick, .rightStick].filterMap fun control =>
    let selected := bindings.find? fun b => b.control = control ∧ b.modifiers = mode
    let fallback := bindings.find? fun b => b.control = control ∧ b.modifiers = 0
    (selected.or fallback).map ControllerBinding.action

/-- A shoulder that is a modifier triggers an action as well. -/
def shoulderConflict (bindings : List ControllerBinding) : Bool :=
  let modifiers := bindings.foldl (fun modifiers b => Int.lor modifiers b.modifiers) 0
  bindings.any fun b => (b.control = .leftShoulder ∧ hasFlag modifiers 1) ∨
    (b.control = .rightShoulder ∧ hasFlag modifiers 2)

def encodeProfile (bindings : List ControllerBinding) : Option (List Int) := do
  if capacity < bindings.length then none
  else
    let encoded ← bindings.mapM ControllerBinding.encode
    if ¬ (bindings.map fun b => (b.control, b.modifiers)).Nodup then none
    else if shoulderConflict bindings then none
    else if ¬ ∀ mode ∈ [0, 1, 2, 3], (stickActions bindings mode).Nodup then none
    else
      return 1 :: (bindings.length : Int) ::
        (encoded ++ List.replicate (capacity - bindings.length) 0)

def decodeProfile : List Int → Option (List ControllerBinding)
  | version :: count :: entries => do
    if entries.length ≠ capacity ∨ version ≠ 1 ∨ ¬ (0 ≤ count ∧ count ≤ capacity) then none
    else if (entries.drop count.toNat).any (· ≠ 0) then none
    else
      let result ← (entries.take count.toNat).mapM ControllerBinding.decode
      let _ ← encodeProfile result
      return result
  | _ => none

variable {bindings : List ControllerBinding} {values : List Int}

theorem encodeProfile_eq_some (h : encodeProfile bindings = some values) :
    bindings.length ≤ capacity ∧ ∃ encoded, bindings.mapM ControllerBinding.encode = some encoded ∧
      values = 1 :: (bindings.length : Int) ::
        (encoded ++ List.replicate (capacity - bindings.length) 0) := by
  simp only [encodeProfile, Option.bind_eq_bind, Option.ite_none_left_eq_some, not_lt,
    Option.bind_eq_some_iff] at h
  obtain ⟨hcapacity, encoded, hencoded, -, -, -, h⟩ := h
  cases h
  exact ⟨hcapacity, encoded, hencoded, rfl⟩

theorem decodeProfile_iff :
    decodeProfile values = some bindings ↔ encodeProfile bindings = some values := by
  constructor
  · intro h
    unfold decodeProfile at h
    split at h
    case h_2 => cases h
    case h_1 version count entries =>
      simp only [Option.bind_eq_bind, Option.ite_none_left_eq_some, Option.bind_eq_some_iff,
        not_or, not_not, Bool.not_eq_true] at h
      obtain ⟨⟨hlength, rfl, hlow, hhigh⟩, hzero, result, hresult, again, hagain, h⟩ := h
      cases h
      obtain ⟨-, encoded, hencoded, rfl⟩ := encodeProfile_eq_some hagain
      have htake := mapM_of_mapM ControllerBinding.decode_iff.1 hresult
      rw [hencoded, Option.some.injEq] at htake
      have hcount : bindings.length = count.toNat := by
        rw [length_of_mapM hresult, List.length_take, hlength, min_eq_left (by omega)]
      have hdrop : entries.drop count.toNat = List.replicate (capacity - count.toNat) 0 := by
        rw [List.eq_replicate_iff, List.length_drop, hlength]
        refine ⟨rfl, fun entry hentry => ?_⟩
        simpa using List.any_eq_false.1 hzero entry hentry
      rw [hagain, hcount, htake, ← hdrop, List.take_append_drop, Int.toNat_of_nonneg hlow]
  · intro hencode
    obtain ⟨hcapacity, encoded, hencoded, rfl⟩ := encodeProfile_eq_some hencode
    have hlength := length_of_mapM hencoded
    have htake : (encoded ++ List.replicate (capacity - bindings.length) (0 : Int)).take
        bindings.length = encoded := by
      rw [← hlength, List.take_left]
    have hdrop : (encoded ++ List.replicate (capacity - bindings.length) (0 : Int)).drop
        bindings.length = List.replicate (capacity - bindings.length) 0 := by
      rw [← hlength, List.drop_left]
    simp only [decodeProfile, Int.toNat_natCast, htake, hdrop, Option.bind_eq_bind,
      Option.ite_none_left_eq_some, Option.bind_eq_some_iff, not_or, not_not, Bool.not_eq_true]
    refine ⟨⟨?_, trivial, by omega, by exact_mod_cast hcapacity⟩, ?_, bindings,
      mapM_of_mapM ControllerBinding.decode_iff.2 hencoded, _, hencode, rfl⟩
    · rw [List.length_append, List.length_replicate, hlength]
      omega
    · simp

end ControllerProfile

end ShadowbaneLab
