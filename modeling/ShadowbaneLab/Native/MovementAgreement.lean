/-
# The host's commands in the client

Which of the acquisitions that the host writes the native client accepts: the three checks of
token texts side by side, then the grants, the settings and the whole command.
-/
import Mathlib.Data.List.Nodup
import ShadowbaneLab.Native.MovementWire
import ShadowbaneLab.Native.MovementFrames
import ShadowbaneLab.Native.MovementRuns

namespace ShadowbaneLab.Native.Movement

open Foundation List Option

namespace Wire

/-! ## Tokens -/

variable {data : Bytes}

theorem toList_textOf (h : data.length = 96) : (textOf data).toList = data := by
  rw [textOf, dif_pos h]
  exact toList_toArray

theorem length_toList (value : Text) : value.toList.length = 96 := value.length_toList

/-- A character of the host is printable as its byte is. -/
theorem printable_ofNat (b : UInt8) :
    MovementWire.printable (Char.ofNat b.toNat) = true ↔ 0x20 ≤ b ∧ b ≤ 0x7E := by
  rw [MovementWire.printable, toNat_ofNat_of_lt b.toNat_lt, Bool.and_eq_true, decide_eq_true_eq,
    decide_eq_true_eq, UInt8.le_iff_toNat_le, UInt8.le_iff_toNat_le]
  rfl

theorem all_printable : (∀ c ∈ (asciiText data).toList,
    MovementWire.printable c = true) ↔ ∀ b ∈ data, 0x20 ≤ b ∧ b ≤ 0x7E := by
  rw [asciiText, String.toList_ofList, List.forall_mem_map]
  exact forall₂_congr fun b _ => printable_ofNat b

variable {required : Bool}

variable {value : Text}

theorem text_iff : text value required = true ↔
    (value.toList.dropWhile (· != 0) ≠ [] ∧ anySet (value.toList.dropWhile (· != 0)) = false) ∧
      (required = true → value.toList.takeWhile (· != 0) ≠ []) ∧
      ∀ b ∈ value.toList.takeWhile (· != 0), 0x20 ≤ b ∧ b ≤ 0x7E := by
  rw [text]
  simp only [Bool.if_false_left, Bool.and_eq_true, Bool.not_eq_true', decide_eq_false_iff_not,
    not_or, not_and, List.any_eq_true, not_exists, decide_eq_true_eq, UInt8.not_lt]
  constructor
  · rintro ⟨⟨hrest, hhead⟩, hall, hzero⟩
    exact ⟨⟨hrest, hzero⟩, hhead, hall⟩
  · rintro ⟨⟨hrest, hzero⟩, hhead, hall⟩
    exact ⟨⟨hrest, hhead⟩, hall, hzero⟩

/-- The bytes that the host writes for some text are those that the wire accepts. -/
theorem text_iff_host : text value required = true ↔
    ∃ written, MovementWire.text written required = some value.toList := by
  have hempty {data : Bytes} : asciiText data = "" ↔ data = [] := by
    rw [asciiText, ← String.toList_eq_nil_iff, String.toList_ofList, map_eq_nil_iff]
  have hsplit := congrArg List.length
    (takeWhile_append_dropWhile (p := (· != (0 : UInt8))) (l := value.toList))
  rw [length_append, length_toList] at hsplit
  rw [text_iff]
  constructor
  · rintro ⟨⟨hrest, hzero⟩, hhead, hall⟩
    refine ⟨asciiText (value.toList.takeWhile (· != 0)), MovementWire.text_eq_some.2
      ⟨⟨?_, fun hrequired => ?_, all_printable.2 hall⟩, ?_⟩⟩
    · have hpos := length_pos_iff.2 hrest
      rw [asciiBytes_asciiText]
      omega
    · rw [ne_eq, hempty]
      exact hhead hrequired
    · rw [asciiBytes_asciiText,
        ← eq_zeros_of_anySet hzero (n := 96 - (value.toList.takeWhile (· != 0)).length) (by omega),
        takeWhile_append_dropWhile]
  · rintro ⟨written, hwritten⟩
    obtain ⟨hrequired, -, htext⟩ := MovementWire.text_iff.1 hwritten
    rw [MovementWire.untext, ite_none_left_eq_some, ite_none_right_eq_some,
      Option.some.injEq, not_or, Bool.not_eq_true] at htext
    obtain ⟨hrest, hsome, rfl⟩ := htext
    obtain ⟨again, hagain⟩ := isSome_iff_exists.1 hsome
    refine ⟨hrest, fun h => ?_, all_printable.1 (MovementWire.text_eq_some.1 hagain).1.2.2⟩
    rw [ne_eq, ← hempty]
    exact hrequired h

/-- After a zero only zeros may come. -/
theorem validTokenChars_ended (data : Bytes) :
    validTokenChars true data = true ↔ anySet data = false := by
  induction data with
  | nil => simp [validTokenChars, anySet]
  | cons b data ih =>
    rw [validTokenChars, anySet, any_cons]
    split
    case isTrue h =>
      rw [ih, h]
      simp [anySet]
    case isFalse h => simp [h]

theorem validTokenChars_iff (data : Bytes) : validTokenChars false data = true ↔
    (data.dropWhile (· != 0) ≠ [] ∧ anySet (data.dropWhile (· != 0)) = false) ∧
      ∀ b ∈ data.takeWhile (· != 0), 0x21 ≤ b ∧ b ≤ 0x7E := by
  induction data with
  | nil => simp [validTokenChars]
  | cons b data ih =>
    rw [validTokenChars]
    split
    case isTrue h =>
      subst h
      simpa [anySet] using validTokenChars_ended data
    case isFalse h =>
      rw [dropWhile_cons_of_pos (by simpa using h), takeWhile_cons_of_pos (by simpa using h)]
      simp only [Bool.false_eq_true, false_or, Bool.if_false_left, Bool.and_eq_true,
        Bool.not_eq_true', decide_eq_false_iff_not, not_or, UInt8.not_lt, forall_mem_cons, ih]
      constructor
      · rintro ⟨hb, hrest, hall⟩
        exact ⟨hrest, hb, hall⟩
      · rintro ⟨hrest, hb, hall⟩
        exact ⟨hb, hrest, hall⟩

/-- The texts of tokens that the controls accept are those of the wire without a blank. -/
theorem validTokenText_iff :
    validTokenText value = true ↔ text value true = true ∧ (0x20 : UInt8) ∉ value.toList := by
  have hfirst : value[0] ≠ 0 ↔ value.toList.takeWhile (· != 0) ≠ [] := by
    obtain ⟨head, rest, hlist⟩ := exists_cons_of_length_pos
      (show 0 < value.toList.length by rw [length_toList]; decide)
    have hzero : value[0] = head := by
      have hget : value.toList[0]? = some head := by rw [hlist]; rfl
      simpa using hget
    rw [hzero, hlist]
    by_cases h : head = 0
    · simp [h]
    · simp [h]
  have hblank (htext : anySet (value.toList.dropWhile (· != 0)) = false) :
      (0x20 : UInt8) ∉ value.toList ↔ (0x20 : UInt8) ∉ value.toList.takeWhile (· != 0) := by
    conv_lhs => rw [← takeWhile_append_dropWhile (p := (· != (0 : UInt8))) (l := value.toList)]
    rw [mem_append, not_or, and_iff_left]
    rw [anySet_eq_false_iff.1 htext, zeros, mem_replicate]
    exact fun h => absurd h.2 (by decide)
  rw [validTokenText, decide_eq_true_eq, validTokenChars_iff, text_iff, hfirst]
  constructor
  · rintro ⟨hhead, ⟨hrest, hzero⟩, hall⟩
    refine ⟨⟨⟨hrest, hzero⟩, fun _ => hhead, fun b hb => ⟨?_, (hall b hb).2⟩⟩, ?_⟩
    · exact UInt8.le_trans (by decide) (hall b hb).1
    · rw [hblank hzero]
      exact fun hmem => absurd (hall _ hmem).1 (by decide)
  · rintro ⟨⟨⟨hrest, hzero⟩, hhead, hall⟩, hnone⟩
    refine ⟨hhead rfl, ⟨hrest, hzero⟩, fun b hb => ⟨?_, (hall b hb).2⟩⟩
    rw [hblank hzero] at hnone
    have hne : b ≠ 0x20 := fun h => hnone (h ▸ hb)
    have hle := (hall b hb).1
    rw [UInt8.le_iff_toNat_le] at hle ⊢
    rw [ne_eq, ← UInt8.toNat_inj] at hne
    change 33 ≤ b.toNat
    change 32 ≤ b.toNat at hle
    change ¬ b.toNat = 32 at hne
    omega

/-! ## Controller profiles -/

section Profiles

open ShadowbaneLab.ControllerProfile (encodeProfile stickActions shoulderConflict capacity)

/-- A place of a profile that holds no binding. -/
abbrev unbound : ControllerBinding := {}

/-- A binding of the host as the client reads it. -/
def nativeBinding (b : ControllerProfile.ControllerBinding) : ControllerBinding :=
  ⟨.ofNat (IntEnum.value b.action).toNat, .ofNat (IntEnum.value b.control).toNat,
    .ofNat b.modifiers.toNat⟩

variable {b : ControllerProfile.ControllerBinding} {bindings : List ControllerProfile.ControllerBinding}

theorem nativeBinding_action (b : ControllerProfile.ControllerBinding) :
    (nativeBinding b).action ≠ ControllerAction.none ∧
      (nativeBinding b).action ≤ ControllerAction.cancelMovement := by
  have h (action : ControllerProfile.ControllerAction) :
      UInt8.ofNat (IntEnum.value action).toNat ≠ ControllerAction.none ∧
        UInt8.ofNat (IntEnum.value action).toNat ≤ ControllerAction.cancelMovement := by
    cases action <;> decide
  exact h b.action

theorem nativeBinding_control (b : ControllerProfile.ControllerBinding) :
    ¬ (nativeBinding b).control ≤ ControllerControl.none ∧
      ¬ ControllerControl.rightTrigger < (nativeBinding b).control := by
  have h (control : ControllerProfile.ControllerControl) :
      ¬ UInt8.ofNat (IntEnum.value control).toNat ≤ ControllerControl.none ∧
        ¬ ControllerControl.rightTrigger < UInt8.ofNat (IntEnum.value control).toNat := by
    cases control <;> decide
  exact h b.control

theorem nativeAction_inj {action other : ControllerProfile.ControllerAction} :
    UInt8.ofNat (IntEnum.value action).toNat = UInt8.ofNat (IntEnum.value other).toNat ↔
      action = other := by
  cases action <;> cases other <;> decide

theorem nativeControl_inj {control other : ControllerProfile.ControllerControl} :
    UInt8.ofNat (IntEnum.value control).toNat = UInt8.ofNat (IntEnum.value other).toNat ↔
      control = other := by
  have hlt (c : ControllerProfile.ControllerControl) : (IntEnum.value c).toNat < 256 := by
    cases c <;> decide
  have hpos (c : ControllerProfile.ControllerControl) : 0 ≤ IntEnum.value c := by
    cases c <;> decide
  rw [← UInt8.toNat_inj, UInt8.toNat_ofNat', UInt8.toNat_ofNat', Nat.mod_eq_of_lt (hlt control),
    Nat.mod_eq_of_lt (hlt other)]
  constructor
  · intro h
    have hcontrol := hpos control
    have hother := hpos other
    exact IntEnum.value_injective (by omega)
  · rintro rfl
    rfl

/-- The modifiers of a binding that is written. -/
theorem modifiers_of_encode {value : Int} (h : b.encode = some value) :
    (0 ≤ b.modifiers ∧ b.modifiers ≤ 3) ∧ ((b.control = .leftStick ∨ b.control = .rightStick) ↔
        (b.action = .movement ∨ b.action = .camera)) ∧
      value = IntEnum.value b.action + 2 ^ 6 * IntEnum.value b.control + 2 ^ 11 * b.modifiers := by
  rw [ControllerProfile.ControllerBinding.encode, ite_none_left_eq_some,
    ite_none_left_eq_some, not_not, not_not, Option.some.injEq] at h
  exact ⟨h.1, h.2.1, h.2.2.symm⟩

theorem nativeModifiers_inj {m n : Int} (hm : 0 ≤ m ∧ m ≤ 3) (hn : 0 ≤ n ∧ n ≤ 3) :
    UInt8.ofNat m.toNat = UInt8.ofNat n.toNat ↔ m = n := by
  rw [← UInt8.toNat_inj, UInt8.toNat_ofNat', UInt8.toNat_ofNat', Nat.mod_eq_of_lt (by omega),
    Nat.mod_eq_of_lt (by omega)]
  omega

theorem decodeControllerBinding_encode {value : Int} (h : b.encode = some value) :
    value ≠ 0 ∧ decodeControllerBinding value = some (nativeBinding b) := by
  obtain ⟨hmodifiers, -, rfl⟩ := modifiers_of_encode h
  have haction : 0 < IntEnum.value b.action ∧ IntEnum.value b.action < 2 ^ 6 := by
    cases b.action <;> decide
  have hcontrol := ControllerProfile.ControllerBinding.control_bounds b.control
  refine ⟨by omega, ?_⟩
  have hlow : (IntEnum.value b.action + 2 ^ 6 * IntEnum.value b.control + 2 ^ 11 * b.modifiers) %
      2 ^ 6 = IntEnum.value b.action := by omega
  have hmid : (IntEnum.value b.action + 2 ^ 6 * IntEnum.value b.control + 2 ^ 11 * b.modifiers) /
      2 ^ 6 % 2 ^ 5 = IntEnum.value b.control := by omega
  have hhigh : (IntEnum.value b.action + 2 ^ 6 * IntEnum.value b.control + 2 ^ 11 * b.modifiers) /
      2 ^ 11 % 2 ^ 2 = b.modifiers := by omega
  rw [decodeControllerBinding, if_neg (by omega), hlow, hmid, hhigh, nativeBinding]

theorem decodeBindings_zeros {count : Int} {i n : ℕ} (h : count ≤ i) :
    decodeBindings count i (List.replicate n 0) = some (List.replicate n unbound) := by
  induction n generalizing i with
  | zero => rfl
  | succ n ih =>
    have hlt : ¬ (i : Int) < count := by omega
    have hzero : decodeControllerBinding 0 = some unbound := by decide
    rw [replicate_succ, decodeBindings, ih (by omega), hzero]
    simp [hlt, replicate_succ]

theorem decodeBindings_encoded {encoded : List Int} {count : Int} {i n : ℕ}
    (h : bindings.mapM ControllerProfile.ControllerBinding.encode = some encoded)
    (hcount : count = i + bindings.length) :
    decodeBindings count i (encoded ++ List.replicate n 0) =
      some (bindings.map nativeBinding ++ List.replicate n unbound) := by
  induction bindings generalizing encoded i with
  | nil =>
    cases h
    exact decodeBindings_zeros (by simpa using hcount.le)
  | cons b bindings ih =>
    obtain ⟨value, values, hvalue, hvalues, rfl⟩ := mapM_cons_eq_some.1 h
    obtain ⟨hne, hdecode⟩ := decodeControllerBinding_encode hvalue
    rw [length_cons] at hcount
    have hlt : (i : Int) < count := by omega
    rw [cons_append, decodeBindings, hdecode, ih hvalues (by push_cast at hcount ⊢; omega)]
    simp [hlt, hne]

/-! ### Single bindings -/

theorem validBindings_zeros (seen : List ControllerBinding) (ended : Bool) (n : ℕ) :
    ControllerProfile.validBindings seen ended (List.replicate n unbound) = true := by
  induction n generalizing seen ended with
  | zero => rfl
  | succ n ih =>
    rw [replicate_succ, ControllerProfile.validBindings, if_pos (by decide), if_neg (by decide),
      ih]

theorem encode_of_mem {encoded : List Int}
    (h : bindings.mapM ControllerProfile.ControllerBinding.encode = some encoded)
    (hb : b ∈ bindings) : ∃ value, b.encode = some value := by
  induction bindings generalizing encoded with
  | nil => cases hb
  | cons c bindings ih =>
    obtain ⟨value, values, hvalue, hvalues, rfl⟩ := mapM_cons_eq_some.1 h
    rcases mem_cons.1 hb with rfl | hb
    · exact ⟨value, hvalue⟩
    · exact ih hvalues hb

/-- A stick drives a vector, in the client's numbers. -/
theorem nativeBinding_vector (h : (b.control = .leftStick ∨ b.control = .rightStick) ↔
    (b.action = .movement ∨ b.action = .camera)) :
    ((nativeBinding b).control = ControllerControl.leftStick ∨
        (nativeBinding b).control = ControllerControl.rightStick) ↔
      ((nativeBinding b).action = ControllerAction.movement ∨
        (nativeBinding b).action = ControllerAction.camera) := by
  have hcontrol (c : ControllerProfile.ControllerControl) :
      (UInt8.ofNat (IntEnum.value b.control).toNat) = UInt8.ofNat (IntEnum.value c).toNat ↔
        b.control = c := nativeControl_inj
  have haction (a : ControllerProfile.ControllerAction) :
      (UInt8.ofNat (IntEnum.value b.action).toNat) = UInt8.ofNat (IntEnum.value a).toNat ↔
        b.action = a := nativeAction_inj
  have hleft := hcontrol .leftStick
  have hright := hcontrol .rightStick
  have hmovement := haction .movement
  have hcamera := haction .camera
  rw [← hleft, ← hright, ← hmovement, ← hcamera] at h
  exact h

/-- The pairs that no two bindings share. -/
def place (b : ControllerProfile.ControllerBinding) : ControllerProfile.ControllerControl × Int :=
  (b.control, b.modifiers)

theorem validBindings_native {seen : List ControllerProfile.ControllerBinding} {n : ℕ}
    (hvalid : ∀ b ∈ seen ++ bindings, ∃ value, b.encode = some value)
    (hnodup : ((seen ++ bindings).map place).Nodup) :
    ControllerProfile.validBindings (seen.map nativeBinding) false
      (bindings.map nativeBinding ++ List.replicate n unbound) = true := by
  induction bindings generalizing seen with
  | nil => exact validBindings_zeros _ _ n
  | cons b bindings ih =>
    obtain ⟨value, hvalue⟩ := hvalid b (mem_append_right _ mem_cons_self)
    obtain ⟨hmodifiers, hvector, -⟩ := modifiers_of_encode hvalue
    have haction := nativeBinding_action b
    have hcontrol := nativeBinding_control b
    have hsmall : ¬ 3 < (nativeBinding b).modifiers := by
      show ¬ 3 < UInt8.ofNat b.modifiers.toNat
      rw [UInt8.lt_iff_toNat_lt, UInt8.toNat_ofNat', Nat.mod_eq_of_lt (by omega)]
      change ¬ 3 < b.modifiers.toNat
      omega
    have hfresh : ((seen.map nativeBinding).any fun other =>
        other.control = (nativeBinding b).control ∧
          other.modifiers = (nativeBinding b).modifiers) = false := by
      rw [List.any_eq_false]
      intro other hother hsame
      obtain ⟨c, hc, rfl⟩ := mem_map.1 hother
      obtain ⟨value', hvalue'⟩ := hvalid c (mem_append_left _ hc)
      rw [decide_eq_true_eq] at hsame
      have hsameControl := nativeControl_inj.1 hsame.1
      have hsameModifiers :=
        (nativeModifiers_inj (modifiers_of_encode hvalue').1 hmodifiers).1 hsame.2
      rw [map_append, map_cons] at hnodup
      have hdifferent := (nodup_append.1 hnodup).2.2 _ (mem_map_of_mem hc) _
        mem_cons_self
      exact hdifferent (Prod.ext hsameControl hsameModifiers)
    have hnext := @ih (seen ++ [b]) (by simpa using hvalid) (by simpa using hnodup)
    rw [map_append, map_singleton] at hnext
    rw [map_cons, cons_append, ControllerProfile.validBindings, if_neg haction.1,
      if_neg, if_neg, hfresh, hnext]
    · simp
    · rw [ne_eq, not_not, decide_eq_decide]
      exact nativeBinding_vector hvector
    · rintro (h | h | h | h | h)
      · cases h
      · exact hsmall h
      · exact absurd haction.2 (UInt8.not_le.2 h)
      · exact hcontrol.1 h
      · exact hcontrol.2 h

/-! ### Shoulders and sticks -/

/-- The modifiers that are used, in the client's numbers and in the host's. -/
theorem modifiersUsed_native {used : Int} {n : ℕ} (hused : 0 ≤ used ∧ used ≤ 3)
    (hmodifiers : ∀ b ∈ bindings, 0 ≤ b.modifiers ∧ b.modifiers ≤ 3) :
    (bindings.map nativeBinding ++ List.replicate n unbound).foldl
        (fun used b => used ||| b.modifiers) (UInt8.ofNat used.toNat) =
      UInt8.ofNat (bindings.foldl (fun used b => Int.lor used b.modifiers) used).toNat ∧
    0 ≤ bindings.foldl (fun used b => Int.lor used b.modifiers) used ∧
      bindings.foldl (fun used b => Int.lor used b.modifiers) used ≤ 3 := by
  induction bindings generalizing used with
  | nil =>
    refine ⟨?_, hused⟩
    rw [map_nil, nil_append, foldl_nil]
    induction n with
    | zero => rfl
    | succ n ih => rw [replicate_succ, foldl_cons, UInt8.or_zero, ih]
  | cons b bindings ih =>
    have hb := hmodifiers b mem_cons_self
    have hor : UInt8.ofNat used.toNat ||| UInt8.ofNat b.modifiers.toNat =
        UInt8.ofNat (Int.lor used b.modifiers).toNat ∧ 0 ≤ Int.lor used b.modifiers ∧
          Int.lor used b.modifiers ≤ 3 := by
      obtain ⟨hlow, hhigh⟩ := hb
      generalize b.modifiers = m at hlow hhigh
      obtain ⟨hlow', hhigh'⟩ := hused
      interval_cases used <;> interval_cases m <;> decide
    have hnext := ih hor.2 fun c hc => hmodifiers c (mem_cons_of_mem _ hc)
    rw [← hor.1] at hnext
    exact hnext

theorem shoulders_native {n : ℕ} (hmodifiers : ∀ b ∈ bindings, 0 ≤ b.modifiers ∧ b.modifiers ≤ 3)
    (hshoulders : shoulderConflict bindings = false) :
    let profile := bindings.map nativeBinding ++ List.replicate n unbound
    let used := profile.foldl (fun used b => used ||| b.modifiers) 0
    ∀ b ∈ profile, ¬ (used &&& 1 ≠ 0 ∧ b.control = ControllerControl.leftShoulder ∨
      used &&& 2 ≠ 0 ∧ b.control = ControllerControl.rightShoulder) := by
  intro profile used b hb
  obtain ⟨hfold, hlow, hhigh⟩ := modifiersUsed_native (n := n) ⟨le_rfl, by decide⟩ hmodifiers
  have hused : used = UInt8.ofNat
      (bindings.foldl (fun used b => Int.lor used b.modifiers) 0).toNat := hfold
  rw [hused]
  rcases mem_append.1 hb with hb | hb
  · obtain ⟨c, hc, rfl⟩ := mem_map.1 hb
    have hclear := any_eq_false.1 hshoulders c hc
    rw [decide_eq_true_eq, not_or] at hclear
    have hleft : (nativeBinding c).control = ControllerControl.leftShoulder ↔
        c.control = .leftShoulder :=
      @nativeControl_inj c.control .leftShoulder
    have hright : (nativeBinding c).control = ControllerControl.rightShoulder ↔
        c.control = .rightShoulder :=
      @nativeControl_inj c.control .rightShoulder
    rw [hleft, hright]
    generalize bindings.foldl (fun used b => Int.lor used b.modifiers) 0 = u at *
    have hbits : (UInt8.ofNat u.toNat &&& 1 ≠ 0 ↔ hasFlag u 1 = true) ∧
        (UInt8.ofNat u.toNat &&& 2 ≠ 0 ↔ hasFlag u 2 = true) := by
      interval_cases u <;> decide
    rw [hbits.1, hbits.2]
    rintro (⟨hflag, hcontrol⟩ | ⟨hflag, hcontrol⟩)
    · exact hclear.1 ⟨hcontrol, hflag⟩
    · exact hclear.2 ⟨hcontrol, hflag⟩
  · rw [eq_of_mem_replicate hb]
    rintro (⟨-, h⟩ | ⟨-, h⟩) <;> cases h

/-- The binding that the host selects for a control. -/
def selected (bindings : List ControllerProfile.ControllerBinding)
    (control : ControllerProfile.ControllerControl) (mode : Int) :
    Option ControllerProfile.ControllerBinding :=
  (bindings.find? fun b => b.control = control ∧ b.modifiers = mode).or
    (bindings.find? fun b => b.control = control ∧ b.modifiers = 0)

/-- Where no two bindings share a place, the last without modifiers is the first. -/
theorem resolve_native {control : ControllerProfile.ControllerControl} {mode : Int}
    {fallback : UInt8} {n : ℕ} (hmode : 0 ≤ mode ∧ mode ≤ 3)
    (hmodifiers : ∀ b ∈ bindings, 0 ≤ b.modifiers ∧ b.modifiers ≤ 3)
    (hnodup : (bindings.map place).Nodup) :
    ControllerProfile.resolve (.ofNat (IntEnum.value control).toNat) (.ofNat mode.toNat) fallback
        (bindings.map nativeBinding ++ List.replicate n unbound) =
      ((selected bindings control mode).map fun b => (nativeBinding b).action).getD fallback := by
  induction bindings generalizing fallback with
  | nil =>
    induction n with
    | zero => rfl
    | succ n ih =>
      rw [map_nil, nil_append, replicate_succ, ControllerProfile.resolve,
        if_pos (.inr rfl)]
      exact ih
  | cons b bindings ih =>
    obtain ⟨hfresh, hnodup⟩ := nodup_cons.1 hnodup
    have hb := hmodifiers b mem_cons_self
    have hnext {fallback : UInt8} := @ih fallback
      (fun c hc => hmodifiers c (mem_cons_of_mem _ hc)) hnodup
    have hcontrol : (nativeBinding b).control = .ofNat (IntEnum.value control).toNat ↔
        b.control = control := nativeControl_inj
    have hmodifier : (nativeBinding b).modifiers = .ofNat mode.toNat ↔ b.modifiers = mode :=
      nativeModifiers_inj hb hmode
    have hzero : (nativeBinding b).modifiers = 0 ↔ b.modifiers = 0 :=
      nativeModifiers_inj (n := 0) hb ⟨le_rfl, by decide⟩
    have hnone (h : b.control = control) (m : Int) (hm : b.modifiers = m) :
        (bindings.find? fun c => c.control = control ∧ c.modifiers = m) = none := by
      rw [List.find?_eq_none]
      intro c hc hsame
      rw [decide_eq_true_eq] at hsame
      refine hfresh (mem_map.2 ⟨c, hc, ?_⟩)
      rw [place, place, hsame.1, hsame.2, h, hm]
    rw [map_cons, cons_append, ControllerProfile.resolve, selected, List.find?_cons,
      List.find?_cons]
    by_cases hsame : b.control = control
    · rw [if_neg]
      · by_cases hmatch : b.modifiers = mode
        · rw [if_pos (hmodifier.2 hmatch)]
          simp [hsame, hmatch]
        · rw [if_neg fun h => hmatch (hmodifier.1 h), hnext, selected]
          by_cases hbase : b.modifiers = 0
          · have hother : ¬ 0 = mode := hbase ▸ hmatch
            rw [if_pos (hzero.2 hbase), hnone hsame 0 hbase]
            cases hfind : bindings.find? fun c => c.control = control ∧ c.modifiers = mode <;>
              simp [hsame, hother, hbase]
          · rw [if_neg fun h => hbase (hzero.1 h)]
            simp [hsame, hmatch, hbase]
      · rintro (h | h)
        · exact h (hcontrol.2 hsame)
        · exact (nativeBinding_action b).1 h
    · rw [if_pos (.inl fun h => hsame (hcontrol.1 h)), hnext, selected]
      simp [hsame]

/-- A profile that the host writes is read and valid. -/
theorem valid_profileOf {values : List Int} (h : encodeProfile bindings = some values) :
    ∃ encoded profile, values = 1 :: (bindings.length : Int) :: encoded ∧
      (decodeBindings bindings.length 0 encoded).bind profileOf = some profile ∧
      profile.valid = true := by
  obtain ⟨hcapacity, encoded, hencoded, rfl⟩ := ControllerProfile.encodeProfile_eq_some h
  simp only [encodeProfile, Option.bind_eq_bind, Option.ite_none_left_eq_some, hencoded,
    Option.bind_some, not_not, Bool.not_eq_true] at h
  obtain ⟨-, hnodup, hshoulders, hsticks, -⟩ := h
  have hvalid (b) (hb : b ∈ bindings) := encode_of_mem hencoded hb
  have hmodifiers (b) (hb : b ∈ bindings) : 0 ≤ b.modifiers ∧ b.modifiers ≤ 3 := by
    obtain ⟨value, hvalue⟩ := hvalid b hb
    exact (modifiers_of_encode hvalue).1
  have hlength : (bindings.map nativeBinding ++
      List.replicate (capacity - bindings.length) unbound).length = 24 := by
    rw [List.length_append, List.length_map, List.length_replicate]
    exact Nat.add_sub_cancel' hcapacity
  have hsize : (bindings.map nativeBinding ++
      List.replicate (capacity - bindings.length) unbound).toArray.size = 24 := by
    rwa [List.size_toArray]
  refine ⟨_, ⟨_, hsize⟩, rfl, ?_, ?_⟩
  · rw [decodeBindings_encoded hencoded (by simp), Option.bind_some, profileOf, dif_pos hlength]
  · have hlist : (Vector.mk _ hsize : ControllerProfile).toList = bindings.map nativeBinding ++
        List.replicate (capacity - bindings.length) unbound := rfl
    rw [ControllerProfile.valid, hlist, Bool.and_eq_true, Bool.and_eq_true]
    refine ⟨⟨?_, ?_⟩, ?_⟩
    · exact @validBindings_native _ [] _ hvalid hnodup
    · rw [List.all_eq_true]
      intro b hb
      rw [decide_eq_true_eq]
      exact shoulders_native hmodifiers hshoulders b hb
    · rw [List.all_eq_true]
      intro mode hmode
      obtain ⟨m, hm, rfl⟩ : ∃ m ∈ [(0 : Int), 1, 2, 3], UInt8.ofNat m.toNat = mode := by
        simp only [List.mem_cons, List.not_mem_nil, or_false] at hmode
        rcases hmode with rfl | rfl | rfl | rfl
        exacts [⟨0, by decide, rfl⟩, ⟨1, by decide, rfl⟩, ⟨2, by decide, rfl⟩, ⟨3, by decide, rfl⟩]
      have hrange : 0 ≤ m ∧ m ≤ 3 := by
        simp only [List.mem_cons, List.not_mem_nil, or_false] at hm
        omega
      have hresolve (control : ControllerProfile.ControllerControl) :=
        @resolve_native _ control m ControllerAction.none (capacity - bindings.length) hrange
          hmodifiers hnodup
      have hleft := hresolve .leftStick
      have hright := hresolve .rightStick
      have hdifferent := hsticks m hm
      rw [ControllerProfile.action, ControllerProfile.action, hlist, decide_eq_true_eq]
      rintro ⟨hbound, hsame⟩
      rw [show ControllerControl.leftStick =
        UInt8.ofNat (IntEnum.value ControllerProfile.ControllerControl.leftStick).toNat from rfl,
        hleft] at hbound hsame
      rw [show ControllerControl.rightStick =
        UInt8.ofNat (IntEnum.value ControllerProfile.ControllerControl.rightStick).toNat from rfl,
        hright] at hsame
      have hactions : stickActions bindings m =
          [selected bindings .leftStick m, selected bindings .rightStick m].filterMap
            (Option.map ControllerProfile.ControllerBinding.action) := rfl
      rw [hactions] at hdifferent
      cases hl : selected bindings .leftStick m with
      | none =>
        rw [hl] at hbound
        exact hbound rfl
      | some b =>
        cases hr : selected bindings .rightStick m with
        | none =>
          rw [hl, hr] at hsame
          exact (nativeBinding_action b).1 hsame
        | some c =>
          rw [hl, hr] at hsame hdifferent
          have haction : b.action = c.action := nativeAction_inj.1 hsame
          simp [haction] at hdifferent

end Profiles

/-! ## Numbers -/

section Numbers

variable {value : Floating} {word : Int}

theorem bounds_unpack32 (hpos : 0 < value.toRat) (hword : value.pack32 = some word) (q : ℚ)
    (hq : 0 < q) (hsmall : Binary32.round q < 255 * 2 ^ 23) :
    ((Floating.unpack32 word).less (.nearest q) = true ↔ Binary32.round value.toRat < Binary32.round q) ∧
      (q ≤ value.toRat → (Floating.nearest q).atMost (.unpack32 word) = true) ∧
      (value.toRat ≤ q → (Floating.unpack32 word).atMost (.nearest q) = true) := by
  obtain ⟨hfinite, hvalue⟩ := Floating.unpack32_of_pos hpos hword
  obtain ⟨hliteral, hq'⟩ := Floating.nearest_of_nonneg hq.le hsmall
  rw [Floating.less_iff hfinite hliteral, Floating.atMost_iff hliteral hfinite,
    Floating.atMost_iff hfinite hliteral, hvalue, hq']
  refine ⟨Binary32.magnitude_lt_iff (Binary32.round_nonneg hpos.le) (Binary32.round_nonneg hq.le), fun h => ?_,
    fun h => ?_⟩
  · exact Binary32.magnitude_mono (Binary32.round_nonneg hq.le) (Binary32.round_mono hq h)
  · exact Binary32.magnitude_mono (Binary32.round_nonneg hpos.le) (Binary32.round_mono hpos h)

/-- The word of `0.95F`. -/
def deadZoneEnd : ℤ := Binary32.round (95 / 100)

/-- A dead zone that is in the host's range is in the client's when it is rounded below its end. -/
theorem validDeadZone_iff (hvalue : MovementWire.deadZoneLow ≤ value.toRat)
    (hword : value.pack32 = some word) :
    (Comparable.isFinite (Floating.unpack32 word) = true ∧
        (0.05 : Floating) ≤ .unpack32 word ∧ Floating.unpack32 word < (0.95 : Floating)) ↔
      Binary32.round value.toRat < deadZoneEnd := by
  have hpos := MovementWire.Settings.deadZoneLow_pos.trans_le hvalue
  have hlow : (5 / 100 : ℚ) ≤ value.toRat := by
    refine le_trans ?_ hvalue
    norm_num [MovementWire.deadZoneLow]
  have hfive := bounds_unpack32 hpos hword (5 / 100) (by norm_num) (by decide +kernel)
  have hninety := bounds_unpack32 hpos hword (95 / 100) (by norm_num) (by decide +kernel)
  constructor
  · rintro ⟨-, -, h⟩
    exact hninety.1.1 h
  · intro h
    exact ⟨(Floating.unpack32_of_pos hpos hword).1, hfive.2.1 hlow, hninety.1.2 h⟩

theorem validSpeed_iff (hvalue : 0 < value.toRat ∧ value.toRat ≤ 10)
    (hword : value.pack32 = some word) :
    (Comparable.isFinite (Floating.unpack32 word) = true ∧
        (0 : Floating) < .unpack32 word ∧ Floating.unpack32 word ≤ (10.0 : Floating)) ↔
      2 ^ (-150 : ℤ) < value.toRat := by
  obtain ⟨hfinite, hrat⟩ := Floating.unpack32_of_pos hvalue.1 hword
  have hten := bounds_unpack32 hvalue.1 hword (100 / 10) (by norm_num) (by decide +kernel)
  have hzero : (0 : Floating) < .unpack32 word ↔ 2 ^ (-150 : ℤ) < value.toRat := by
    have hless := Floating.less_iff (x := .finite false 0 le_rfl) rfl hfinite
    have hstart : (Floating.finite false 0 le_rfl).toRat = 0 := rfl
    rw [hrat, hstart, Binary32.magnitude_pos_iff (Binary32.round_nonneg hvalue.1.le), ne_eq,
      Binary32.round_eq_zero_iff hvalue.1, not_le] at hless
    exact hless
  rw [← hzero]
  constructor
  · rintro ⟨-, h, -⟩
    exact h
  · intro h
    exact ⟨hfinite, h, hten.2.2 (hvalue.2.trans (by norm_num))⟩

theorem validPixels (hvalue : 2 ≤ value.toRat ∧ value.toRat ≤ 64)
    (hword : value.pack32 = some word) :
    Comparable.isFinite (Floating.unpack32 word) = true ∧
      (2.0 : Floating) ≤ .unpack32 word ∧ Floating.unpack32 word ≤ (64.0 : Floating) := by
  have hpos : 0 < value.toRat := two_pos.trans_le hvalue.1
  have htwo := bounds_unpack32 hpos hword (20 / 10) (by norm_num) (by decide +kernel)
  have hlast := bounds_unpack32 hpos hword (640 / 10) (by norm_num) (by decide +kernel)
  exact ⟨(Floating.unpack32_of_pos hpos hword).1, htwo.2.1 (le_trans (by norm_num) hvalue.1),
    hlast.2.2 (hvalue.2.trans (by norm_num))⟩

end Numbers

/-! ## Settings -/

theorem toNat_ofInt {k : Int} {n : ℕ} (hhigh : k < n) (hn : n ≤ 65536) :
    (UInt16.ofNat k.toNat).toNat = k.toNat := by
  rw [UInt16.toNat_ofNat', Nat.mod_eq_of_lt (by omega)]

/-- Keys of the host are keys of the client. -/
theorem valid_keys {keys : List Int} (hnodup : keys.Nodup) (hkeys : ∀ k ∈ keys, 8 ≤ k ∧ k ≤ 254) :
    (keys.map fun k => UInt16.ofNat k.toNat).Nodup ∧
      ∀ key ∈ keys.map fun k => UInt16.ofNat k.toNat, 0x08 ≤ key ∧ key ≤ 0xFE := by
  have hvalue (k : Int) (hk : k ∈ keys) : (UInt16.ofNat k.toNat).toNat = k.toNat := by
    obtain ⟨hlow, hhigh⟩ := hkeys k hk
    exact toNat_ofInt (n := 256) (by omega) (by decide)
  constructor
  · refine List.Nodup.map_on (fun k hk l hl h => ?_) hnodup
    have hsame := congrArg UInt16.toNat h
    rw [hvalue k hk, hvalue l hl] at hsame
    obtain ⟨hlow, -⟩ := hkeys k hk
    obtain ⟨hlow', -⟩ := hkeys l hl
    omega
  · intro key hkey
    obtain ⟨k, hk, rfl⟩ := mem_map.1 hkey
    obtain ⟨hlow, hhigh⟩ := hkeys k hk
    rw [UInt16.le_iff_toNat_le, UInt16.le_iff_toNat_le, hvalue k hk]
    change 8 ≤ k.toNat ∧ k.toNat ≤ 254
    omega

/-- The numbers decide whether settings are valid, when all else in them is. -/
theorem valid_numbers {F : Type} [Comparable F] {s : Settings F}
    (hkeys : ∀ key ∈ s.keys, 0x08 ≤ key ∧ key ≤ 0xFE) (hnodup : s.keys.Nodup)
    (hprofile : s.controllerProfile.valid = true) (hslot : s.controllerSlot < 4)
    (hbutton : s.dragButton = 1 ∨ s.dragButton = 4 ∨ s.dragButton = 5 ∨ s.dragButton = 6)
    (hpixels : Comparable.isFinite s.dragThresholdPixels = true ∧ 2.0 ≤ s.dragThresholdPixels ∧
      s.dragThresholdPixels ≤ 64.0) :
    s.valid = true ↔ ((Comparable.isFinite s.movementDeadZone = true ∧ 0.05 ≤ s.movementDeadZone ∧
          s.movementDeadZone < 0.95) ∧
        Comparable.isFinite s.cameraDeadZone = true ∧ 0.05 ≤ s.cameraDeadZone ∧
          s.cameraDeadZone < 0.95) ∧
        Comparable.isFinite s.cameraRadiansPerSecond = true ∧ 0 < s.cameraRadiansPerSecond ∧
          s.cameraRadiansPerSecond ≤ 10.0 := by
  have hall : (s.keys.all fun key => 0x08 ≤ key ∧ key ≤ 0xFE) = true :=
    all_eq_true.2 fun key hkey => decide_eq_true (hkeys key hkey)
  rw [Settings.valid, hall]
  simp only [Bool.and_eq_true, decide_eq_true_eq, hnodup, true_and, hprofile, hslot, hbutton,
    hpixels, and_true, and_assoc]

theorem valid_settingsOf {flags key1 key2 key3 key4 slot movement camera sensitivity threshold
      button : Int} {profile : ControllerProfile} (hnodup : [key1, key2, key3, key4].Nodup)
    (hkeys : ∀ k ∈ [key1, key2, key3, key4], 8 ≤ k ∧ k ≤ 254) (hslot : 0 ≤ slot ∧ slot < 2 ^ 2)
    (hbutton : button ∈ [1, 4, 5, 6]) (hprofile : profile.valid = true)
    (hthreshold : Comparable.isFinite (Floating.unpack32 threshold) = true ∧
      (2.0 : Floating) ≤ .unpack32 threshold ∧ Floating.unpack32 threshold ≤ (64.0 : Floating)) :
    (settingsOf flags key1 key2 key3 key4 slot movement camera sensitivity threshold button
        profile).valid = true ↔ ((Comparable.isFinite (Floating.unpack32 movement) = true ∧
          (0.05 : Floating) ≤ .unpack32 movement ∧ Floating.unpack32 movement < (0.95 : Floating)) ∧
        Comparable.isFinite (Floating.unpack32 camera) = true ∧
          (0.05 : Floating) ≤ .unpack32 camera ∧ Floating.unpack32 camera < (0.95 : Floating)) ∧
        Comparable.isFinite (Floating.unpack32 sensitivity) = true ∧
          (0 : Floating) < .unpack32 sensitivity ∧
            Floating.unpack32 sensitivity ≤ (10.0 : Floating) := by
  obtain ⟨hdistinct, hrange⟩ := valid_keys hnodup hkeys
  have hslot' : UInt32.ofNat slot.toNat < 4 := by
    rw [UInt32.lt_iff_toNat_lt, UInt32.toNat_ofNat', Nat.mod_eq_of_lt (by omega)]
    change slot.toNat < 4
    omega
  have hbutton' : UInt16.ofNat button.toNat = 1 ∨ UInt16.ofNat button.toNat = 4 ∨
      UInt16.ofNat button.toNat = 5 ∨ UInt16.ofNat button.toNat = 6 := by
    simp only [mem_cons, not_mem_nil, or_false] at hbutton
    rcases hbutton with rfl | rfl | rfl | rfl <;> decide
  exact valid_numbers hrange hdistinct hprofile hslot' hbutton' hthreshold

/-- The client reads the settings that the host writes, but for numbers at the end of their range
when they are rounded. -/
theorem decodeSettings_isSome_iff {s : MovementWire.Settings} (h : s.encode = some data) :
    (decodeSettings data).isSome = true ↔ (Binary32.round s.movementDeadZone.toRat < deadZoneEnd ∧
        Binary32.round s.cameraDeadZone.toRat < deadZoneEnd) ∧
      2 ^ (-150 : ℤ) < s.cameraRadiansPerSecond.toRat := by
  obtain ⟨hkeys, hslot, hnumbers, m, c, r, p, values, hm, hc, hr, hp, hvalues, hunpack⟩ :=
    MovementWire.Settings.encode_eq_some.1 h
  obtain ⟨hcapacity, -⟩ := ControllerProfile.encodeProfile_eq_some hvalues
  obtain ⟨encoded, profile, rfl, hprofile, hvalid⟩ := valid_profileOf hvalues
  simp only [MovementWire.Settings.keysSupported, decide_eq_true_eq] at hkeys
  simp only [MovementWire.Settings.numbersSupported, decide_eq_true_eq] at hnumbers
  obtain ⟨⟨hlength, hnodup, hrange⟩, hbutton⟩ := hkeys
  obtain ⟨-, hmovement, hcamera, hspeed, hpixels⟩ := hnumbers
  obtain ⟨key1, key2, key3, key4, hfour⟩ := MovementWire.Settings.exists_of_length_four hlength
  rw [hfour] at hnodup hrange hunpack
  have hslots : 0 ≤ s.controllerSlot ∧ s.controllerSlot < 2 ^ 2 := hslot
  have hbuttons : ¬ 255 < s.dragButton := by
    simp only [List.mem_cons, List.not_mem_nil, or_false] at hbutton
    omega
  have hsmall : ([key1, key2, key3, key4].any fun k => decide (255 < k)) = false := by
    rw [List.any_eq_false]
    intro k hk
    rw [decide_eq_true_eq]
    have hkey := hrange k hk
    omega
  have hflags := MovementWire.Settings.flags_bounds s
  have hcount : (s.controllerBindings.length : Int) ≤ 24 := by exact_mod_cast hcapacity
  have hnumbers := @valid_settingsOf s.flags _ _ _ _ _ m c r _ _ _ hnodup hrange hslot hbutton
    hvalid (validPixels hpixels hp)
  rw [validDeadZone_iff hmovement.1 hm, validDeadZone_iff hcamera.1 hc,
    validSpeed_iff hspeed hr] at hnumbers
  rw [← hnumbers, decodeSettings, show settingsLayout = MovementWire.settingsLayout from rfl,
    hunpack]
  simp only [Option.bind_eq_bind, Option.bind_some, List.cons_append, List.nil_append]
  rw [if_neg (by omega), if_neg (by rw [hsmall]; decide)]
  rw [← Option.bind_assoc, hprofile, Option.bind_some]
  split
  case isTrue h => simp [h]
  case isFalse h => simp [h]

/-! ## Commands -/

open MovementWire (Command Verb)

theorem validHost_encode {host : MovementWire.Host} (h : host.encode = some data) :
    validHost data = true := by
  obtain ⟨⟨hprocess, hlease, hcreation⟩, hunpack⟩ := MovementWire.Host.encode_eq_some.1 h
  rw [validHost, show hostLayout = MovementWire.hostLayout from rfl, hunpack]
  simp only [decide_eq_true_eq]
  omega

theorem anySet_untext (hlength : data.length = 96) (h : MovementWire.untext data = some "") :
    anySet data = false := by
  have htext := (@MovementWire.text_iff _ _ false).2 ⟨nofun, hlength, h⟩
  obtain ⟨-, rfl⟩ := MovementWire.text_eq_some.1 htext
  exact anySet_zeros _

/-- Texts that the host writes are read as a token. -/
theorem decodeToken_text {worker operation : String} {w o : Bytes}
    (hw : MovementWire.text worker required = some w)
    (ho : MovementWire.text operation required = some o) :
    decodeToken (textOf w) (textOf o) required = some ⟨textOf w, textOf o⟩ := by
  have haccepted {written : String} {data : Bytes} (h : MovementWire.text written required = some data) :
      text (textOf data) required = true := by
    rw [text_iff_host, toList_textOf (MovementWire.text_iff.1 h).2.1]
    exact ⟨written, h⟩
  rw [decodeToken, haccepted hw, haccepted ho]
  rfl

theorem decodeGrant_encode {grant : MovementWire.Grant} (h : grant.encode = some data) :
    (decodeGrant data).isSome = true := by
  obtain ⟨⟨hscene, hbare, hreq, hgeneration, -⟩, worker, operation, hunpack, hworker, hoperation,
    hw, ho⟩ := MovementWire.Grant.encode_eq_some.1 h
  have howner : (IntEnum.value grant.owner = 1 ↔ grant.owner = .automation) ∧
      (IntEnum.value grant.owner = 0 ↔ grant.owner = .none) ∧ ¬ 2 < IntEnum.value grant.owner := by
    cases grant.owner <;> decide
  obtain ⟨hone, hzero, htwo⟩ := howner
  have htoken := @decodeToken_text (decide (IntEnum.value grant.owner = 1)) _ _ _ _
    (MovementWire.text_iff.2 ⟨fun h => (hreq (hone.1 (of_decide_eq_true h))).1, hw, hworker⟩)
    (MovementWire.text_iff.2 ⟨fun h => (hreq (hone.1 (of_decide_eq_true h))).2, ho, hoperation⟩)
  have hnone : ¬ (IntEnum.value grant.owner ≠ 1 ∧ (anySet worker = true ∨ anySet operation = true)) := by
    rintro ⟨hother, hset⟩
    obtain ⟨hwid, hoid⟩ := hbare fun h => hother (hone.2 h)
    rw [anySet_untext hw (hwid ▸ hworker), anySet_untext ho (hoid ▸ hoperation)] at hset
    simp at hset
  have hplace : ¬ (IntEnum.value grant.owner ≠ 0 ∧ grant.scene = 0) :=
    fun ⟨hother, hzero'⟩ => hscene (fun h => hother (hzero.2 h)) hzero'
  have hstart : ¬ (grant.generation = 0 ∨ 2 < IntEnum.value grant.owner ∨ (0 : Int) ≠ 0) := by
    omega
  rw [decodeGrant, show grantLayout = MovementWire.grantLayout from rfl, hunpack]
  simp only [bind_eq_bind, bind_some]
  rw [if_neg hstart, htoken, bind_some, if_neg hnone, if_neg hplace]
  rfl

/-- What a command that asks for a grant brings to the client. -/
theorem valid_encode {command : Command} {verb : Verb} (hverb : verb.acquires = true)
    (h : command.encode verb = some data) :
    ∃ worker operation, MovementWire.text command.workerId true = some worker ∧
      MovementWire.text command.operationId true = some operation ∧
      requestedToken data = some ⟨textOf worker, textOf operation⟩ ∧ (valid verb data = true ↔
        (Binary32.round command.settings.movementDeadZone.toRat < deadZoneEnd ∧
          Binary32.round command.settings.cameraDeadZone.toRat < deadZoneEnd) ∧
        2 ^ (-150 : ℤ) < command.settings.cameraRadiansPerSecond.toRat) := by
  obtain ⟨-, -, hwindow, -, host, expected, request, x, y, z, settings, worker, operation, hhost,
    hexpected, hrequest, -, -, -, hsettings, hworker, hoperation, hunpack⟩ :=
    Command.encode_eq_some.1 h
  rw [hverb] at hworker hoperation
  have hlength := (MovementWire.text_iff.1 hworker).2.1
  have htoken : decodeToken (textOf ((worker ++ operation).take 96))
      (textOf ((worker ++ operation).drop 96)) true = some ⟨textOf worker, textOf operation⟩ := by
    rw [take_left' hlength, drop_left' hlength]
    exact decodeToken_text hworker hoperation
  have hlayout : commandLayout = MovementWire.commandLayout := rfl
  refine ⟨worker, operation, hworker, hoperation, ?_, ?_⟩
  · rw [requestedToken, hlayout, hunpack]
    exact htoken
  · obtain ⟨grant, hgrant⟩ := isSome_iff_exists.1 (decodeGrant_encode hexpected)
    have hask : validVerb verb grant x y z command.revision (worker ++ operation) = true := by
      rw [validVerb.eq_def, if_pos (by simpa [Verb.acquires] using hverb), htoken]
      rfl
    have hplace : ¬ (¬ validHost host = true ∨ command.window = 0 ∨ 0xFFFFFFFF < command.window) := by
      rw [not_or, not_not]
      refine ⟨validHost_encode hhost, ?_⟩
      omega
    rw [← decodeSettings_isSome_iff hsettings, valid, hlayout, hunpack]
    simp only [if_neg hplace, hgrant, hask, anySet_zeros, (MovementWire.requestBytes_iff.1 hrequest).2.1]
    cases decodeSettings settings <;> simp

/-- The bytes of a text hold a blank when the text does. -/
theorem blank_iff {written : String} (h : MovementWire.text written required = some data) :
    (0x20 : UInt8) ∈ data ↔ ' ' ∈ written.toList := by
  obtain ⟨⟨-, -, hprint⟩, rfl⟩ := MovementWire.text_eq_some.1 h
  have hzeros (n : ℕ) : (0x20 : UInt8) ∉ zeros n := by
    rw [zeros, List.mem_replicate]
    exact fun h => absurd h.2 (by decide)
  rw [List.mem_append, or_iff_left (hzeros _), asciiBytes, List.mem_map]
  constructor
  · rintro ⟨c, hc, hbyte⟩
    have hsmall := hprint c hc
    rw [MovementWire.printable, Bool.and_eq_true, decide_eq_true_eq, decide_eq_true_eq] at hsmall
    have hvalue := congrArg UInt8.toNat hbyte
    rw [UInt8.toNat_ofNat', Nat.mod_eq_of_lt (by omega)] at hvalue
    obtain rfl : c = ' ' := Char.ext (UInt32.toNat_inj.1 hvalue)
    exact hc
  · exact fun hc => ⟨' ', hc, by decide⟩

theorem validTokenText_text {written : String} (h : MovementWire.text written true = some data) :
    validTokenText (textOf data) = true ↔ ' ' ∉ written.toList := by
  have hdata := toList_textOf (MovementWire.text_iff.1 h).2.1
  rw [validTokenText_iff, text_iff_host, hdata, blank_iff h]
  exact and_iff_right ⟨written, h⟩

/-! ## Acquisitions -/

section Acquisitions

open Controls

/-- No acquisition of the automation answers that the texts of a token are invalid, whatever the
actuator answers and whatever its calls do. -/
def NeverInvalid (token : Token) : Prop :=
  ∀ (actuator : Actuator Floating) (enter : List (Call Floating) → Run Floating → Run Floating)
    (expected : UInt64) (coordinateOnly : Bool) (s s' : Run Floating),
    (acquireAutomation actuator enter expected token coordinateOnly).run s ≠ .error .invalid s'

variable {actuator : Actuator Floating}
  {enter : List (Call Floating) → Run Floating → Run Floating} {token : Token}

theorem frame_true : Frame actuator enter fun _ => True :=
  ⟨fun _ _ _ _ => trivial, fun _ _ => trivial, fun _ _ _ _ => trivial⟩

theorem ensures_returnOther {condition : Bool} {value : Result} (h : value ≠ .invalid) :
    Ensures (fun _ => True) (returnIf condition value : M Floating Result Unit) (fun _ _ => True)
      fun r _ => r ≠ .invalid :=
  (ensures_returnIf fun _ _ => h).weaken (fun _ => id) (fun _ _ _ => trivial) fun _ _ => id

theorem ensures_acquireAutomation {expected : UInt64} {coordinateOnly : Bool}
    (hworker : validTokenText token.worker = true)
    (hoperation : validTokenText token.operation = true) :
    Ensures (fun _ => True) (acquireAutomation actuator enter expected token coordinateOnly)
      (fun _ _ => True) fun r _ => r ≠ .invalid := by
  refine ensures_reading fun c => .bind (ensures_returnOther nofun) fun _ => ?_
  refine .bind (ensures_returnOther nofun) fun _ => ?_
  have hvalid : decide (¬ validTokenText token.worker = true ∨
      ¬ validTokenText token.operation = true) = false := by
    rw [hworker, hoperation]
    rfl
  rw [hvalid]
  refine .bind_via (fun _ _ => True) (.pure fun _ hs => hs) fun _ => ?_
  refine .bind (ensures_returnOther nofun) fun _ => ?_
  refine .bind frame_true.ensures_continueInput fun _ => ?_
  refine .bind (ensures_returnOther nofun) fun _ => ensures_reading fun c => ?_
  refine .bind (ensures_returnOther nofun) fun _ => ?_
  refine .bind frame_true.ensures_retryStop fun _ => ?_
  refine .bind (ensures_returnOther nofun) fun _ => ?_
  refine .bind frame_true.ensures_retire fun retired => .ite (fun _ => ?_) fun _ => ?_
  · refine .bind_via (fun _ _ => True) ?_ fun _ => ?_
    · refine ensures_reading fun c => ensures_whenever (fun _ => ?_) fun _ _ hs => hs
      refine .bind (frame_true.ensures_shutdown fun _ _ _ => trivial) fun _ => ?_
      exact .throw fun _ _ => nofun
    · refine .bind_via (fun _ _ => True) (Traced.ensures_update fun _ _ => trivial) fun _ => ?_
      exact ensures_reading fun c => .pure fun _ hs => hs
  · refine .bind (@frame_true _ enter).ensures_interrupted fun reason =>
      .throw fun _ _ => ?_
    cases reason <;> nofun

theorem neverInvalid_iff : NeverInvalid token ↔
    validTokenText token.worker = true ∧ validTokenText token.operation = true := by
  constructor
  · intro h
    by_contra hinvalid
    have hrefuses : decide (¬ validTokenText token.worker = true ∨
        ¬ validTokenText token.operation = true) = true := by
      rw [decide_eq_true_eq]
      tauto
    let fresh : Run Floating :=
      ⟨{ settings := .initial, dragOriginX := .finite false 0 le_rfl,
         dragOriginY := .finite false 0 le_rfl }, []⟩
    refine h ⟨fun _ _ => [], fun _ _ => true, fun _ => none, fun _ _ => true⟩ (fun _ s => s)
      fresh.state.grant.generation false fresh fresh ?_
    rw [acquireAutomation, hrefuses]
    rfl
  · rintro ⟨hworker, hoperation⟩ actuator enter expected coordinateOnly s s' hrun
    exact (ensures_acquireAutomation hworker hoperation).error trivial hrun rfl

/-- The host, the wire and the controls agree on whether a text is a token's. -/
def SameGrammar (value : Text) : Prop :=
  ((∃ written, MovementWire.text written true = some value.toList) ↔ text value true = true) ∧
    (text value true = true ↔ validTokenText value = true)

/-- The host and the wire always agree, and the controls with them but for blanks. -/
theorem sameGrammar_iff :
    SameGrammar value ↔ (text value true = true → validTokenText value = true) := by
  constructor
  · exact fun h => h.2.1
  · exact fun h => ⟨text_iff_host.symm, h, fun hvalid => (validTokenText_iff.1 hvalid).1⟩

/-- What should hold of every acquisition that the host writes. -/
structure Agrees (verb : Verb) (data : Bytes) (token : Token) : Prop where
  accepted : valid verb data = true
  requested : requestedToken data = some token
  never_invalid : NeverInvalid token
  worker : SameGrammar token.worker
  operation : SameGrammar token.operation

variable {command : Command} {verb : Verb} {data : Bytes}

/-- The client takes an acquisition of the host exactly when no text of its token holds a blank,
and no number of its settings leaves its range when it is rounded to single precision. -/
theorem exists_agrees_iff (hverb : verb.acquires = true) (hencode : command.encode verb = some data) :
    (∃ token, Agrees verb data token) ↔
      (' ' ∉ command.workerId.toList ∧ ' ' ∉ command.operationId.toList) ∧
      (Binary32.round command.settings.movementDeadZone.toRat < deadZoneEnd ∧
        Binary32.round command.settings.cameraDeadZone.toRat < deadZoneEnd) ∧
      2 ^ (-150 : ℤ) < command.settings.cameraRadiansPerSecond.toRat := by
  obtain ⟨worker, operation, hworker, hoperation, hrequested, hvalid⟩ := valid_encode hverb hencode
  have htexts := (validTokenText_text hworker).and (validTokenText_text hoperation)
  rw [← htexts, ← hvalid, ← @neverInvalid_iff ⟨textOf worker, textOf operation⟩]
  constructor
  · rintro ⟨token, haccepted, htoken, hnever, -, -⟩
    obtain rfl := some_injective _ (hrequested.symm.trans htoken)
    exact ⟨hnever, haccepted⟩
  · rintro ⟨hnever, haccepted⟩
    obtain ⟨hw, ho⟩ := neverInvalid_iff.1 hnever
    exact ⟨_, haccepted, hrequested, hnever, sameGrammar_iff.2 fun _ => hw, sameGrammar_iff.2 fun _ => ho⟩

end Acquisitions

/-- An acquisition for a worker. -/
def acquisition (workerId : String) : Command where
  host := ⟨1, 1, 1⟩
  window := 1
  expected := { generation := 1, scene := 0 }
  requestKey := "00000000-0000-0000-0000-000000000001"
  workerId := workerId
  operationId := "move"

theorem exists_agrees_acquisition : ∃ data, (acquisition "worker").encode .acquire = some data ∧
    ∃ token, Agrees .acquire data token := by
  obtain ⟨data, hdata⟩ := isSome_iff_exists.1
    (show ((acquisition "worker").encode .acquire).isSome = true by decide +kernel)
  refine ⟨data, hdata, (exists_agrees_iff rfl hdata).2 ⟨by decide, ?_, ?_⟩⟩
  · decide +kernel
  · norm_num [acquisition, Floating.toRat]

/-- A blank in the name of a worker is written by the host and refused by the controls. -/
theorem not_agrees_blank : ¬ ∀ (command : Command) (data : Bytes),
    command.encode .acquire = some data → ∃ token, Agrees .acquire data token := by
  intro h
  obtain ⟨data, hdata⟩ := isSome_iff_exists.1
    (show ((acquisition "a b").encode .acquire).isSome = true by decide +kernel)
  obtain ⟨worker, operation, hworker, -, hrequested, -⟩ := valid_encode rfl hdata
  obtain ⟨token, hagrees⟩ := h _ data hdata
  obtain rfl := some_injective _ (hrequested.symm.trans hagrees.requested)
  have hvalid := (neverInvalid_iff.1 hagrees.never_invalid).1
  exact (validTokenText_text hworker).1 hvalid (by decide)

end Wire

end ShadowbaneLab.Native.Movement
