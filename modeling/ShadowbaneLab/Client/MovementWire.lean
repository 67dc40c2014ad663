/-
# Movement payloads

`src/shadowbane_lab/client_extension/movement_wire.py`: the payloads of the movement channel,
and what the other channels share of it: checked integers, padded tokens, request keys, the
host lease and the grant.  An encoder or decoder that raises returns `none`.
-/
import ShadowbaneLab.Foundation.Hex
import ShadowbaneLab.Foundation.Binary32
import ShadowbaneLab.Client.ControllerProfile

namespace ShadowbaneLab.MovementWire

open Foundation ControllerProfile List

/-! ## Checked values -/

/-- `_uint`: an unsigned integer of some bits, at least `minimum`. -/
def uint (value : Int) (bits : ℕ) (minimum : Int) : Option Int :=
  if minimum ≤ value ∧ value < 2 ^ bits then some value else none

theorem uint_eq_some {value result minimum : Int} {bits : ℕ} :
    uint value bits minimum = some result ↔
      (minimum ≤ value ∧ value < 2 ^ bits) ∧ value = result := by
  rw [uint, Option.ite_none_right_eq_some, Option.some.injEq]

/-- A printable ASCII character. -/
def printable (c : Char) : Bool := 32 ≤ c.toNat && c.toNat ≤ 126

/-- `_text`: a token of printable ASCII, padded with zeros to 96 bytes. -/
def text (value : String) (required : Bool) : Option Bytes :=
  let data := asciiBytes value
  if 95 < data.length ∨ (required ∧ data = []) ∨ ¬ value.toList.all printable then none
  else some (data ++ zeros (96 - data.length))

/-- `_untext`: the token before the first zero; all the rest is zero. -/
def untext (value : Bytes) : Option String :=
  let head := value.takeWhile (· != 0)
  let tail := value.dropWhile (· != 0)
  if tail = [] ∨ anySet tail then none
  else
    let result := asciiText head
    if (text result false).isSome then some result else none

/-- `request_bytes`: the bytes of a nonzero canonical UUID. -/
def requestBytes (value : String) : Option Bytes := do
  let parsed ← uuidBytes value
  if uuidText parsed ≠ value ∨ ¬ anySet parsed then none
  else some parsed

variable {data : Bytes}

variable {value : String}

theorem requestBytes_iff :
    requestBytes value = some data ↔
      data.length = 16 ∧ anySet data = true ∧ uuidText data = value := by
  rw [requestBytes, Option.bind_eq_bind, Option.bind_eq_some_iff]
  constructor
  · rintro ⟨parsed, hparsed, hdata⟩
    rw [Option.ite_none_left_eq_some, Option.some.injEq] at hdata
    obtain ⟨hcanonical, rfl⟩ := hdata
    rw [not_or, not_not, not_not] at hcanonical
    exact ⟨length_uuidBytes hparsed, hcanonical.2, hcanonical.1⟩
  · rintro ⟨hlength, hset, rfl⟩
    refine ⟨data, uuidBytes_uuidText hlength, ?_⟩
    simp [hset]

/-- The text of a request's bytes is written as these bytes. -/
theorem requestBytes_uuidText {data written : Bytes} (hlength : data.length = 16)
    (h : requestBytes (uuidText data) = some written) : written = data := by
  obtain ⟨hwritten, -, htext⟩ := requestBytes_iff.1 h
  exact uuidText_injective hwritten hlength htext

variable {required : Bool}

theorem text_eq_some :
    text value required = some data ↔
      ((asciiBytes value).length ≤ 95 ∧ (required = true → value ≠ "") ∧
        ∀ c ∈ value.toList, printable c = true) ∧
      asciiBytes value ++ zeros (96 - (asciiBytes value).length) = data := by
  have hempty : asciiBytes value = [] ↔ value = "" := by
    rw [asciiBytes, map_eq_nil_iff, String.toList_eq_nil_iff]
  rw [text, Option.ite_none_left_eq_some, Option.some.injEq]
  simp only [hempty, not_or, not_lt, not_and, not_not, all_eq_true]

/-- A token is written as exactly the bytes it is read from. -/
theorem text_iff :
    text value required = some data ↔
      (required = true → value ≠ "") ∧ data.length = 96 ∧ untext data = some value := by
  have hnonzero {c : Char} (hc : printable c = true) : (UInt8.ofNat c.toNat != 0) = true := by
    rw [printable, Bool.and_eq_true, decide_eq_true_eq, decide_eq_true_eq] at hc
    rw [bne_iff_ne, ne_eq, ← UInt8.toNat_inj, UInt8.toNat_ofNat']
    change ¬ c.toNat % 2 ^ 8 = 0
    omega
  constructor
  · intro h
    obtain ⟨⟨hlength, hrequired, hprint⟩, rfl⟩ := text_eq_some.1 h
    have hbytes : ∀ b ∈ asciiBytes value, (b != 0) = true := by
      intro b hb
      obtain ⟨c, hc, rfl⟩ := mem_map.1 hb
      exact hnonzero (hprint c hc)
    have hzeros : (zeros (96 - (asciiBytes value).length)).takeWhile (· != 0) = [] := by
      simp [zeros]
    have hdrop : (zeros (96 - (asciiBytes value).length)).dropWhile (· != 0) =
        zeros (96 - (asciiBytes value).length) := by
      simp [zeros]
    have hsmall : ∀ c ∈ value.toList, c.toNat < 256 := by
      intro c hc
      have hp := hprint c hc
      rw [printable, Bool.and_eq_true, decide_eq_true_eq, decide_eq_true_eq] at hp
      omega
    have hagain : text value false =
        some (asciiBytes value ++ zeros (96 - (asciiBytes value).length)) :=
      text_eq_some.2 ⟨⟨hlength, fun hf => absurd hf Bool.false_ne_true, hprint⟩, rfl⟩
    have hne : zeros (96 - (asciiBytes value).length) ≠ [] := by
      rw [ne_eq, ← length_eq_zero_iff, length_zeros]
      omega
    refine ⟨hrequired, ?_, ?_⟩
    · rw [length_append, length_zeros]
      omega
    · rw [untext, takeWhile_append_of_pos hbytes, dropWhile_append_of_pos hbytes,
        hzeros, hdrop, append_nil]
      simp only [hne, anySet_zeros, Bool.false_eq_true, or_self, if_false,
        asciiText_asciiBytes hsmall, hagain, Option.isSome_some, if_true]
  · rintro ⟨hrequired, hlength, h⟩
    rw [untext, Option.ite_none_left_eq_some, Option.ite_none_right_eq_some, Option.some.injEq] at h
    obtain ⟨htail, hsome, rfl⟩ := h
    rw [not_or, Bool.not_eq_true] at htail
    obtain ⟨written, hwritten⟩ := Option.isSome_iff_exists.1 hsome
    obtain ⟨⟨hshort, -, hprint⟩, -⟩ := text_eq_some.1 hwritten
    refine text_eq_some.2 ⟨⟨hshort, hrequired, hprint⟩, ?_⟩
    rw [asciiBytes_asciiText] at hshort ⊢
    have hsplit := takeWhile_append_dropWhile (p := (· != (0 : UInt8))) (l := data)
    have hcount := congrArg List.length hsplit
    rw [length_append, hlength] at hcount
    rw [← eq_zeros_of_anySet htail.2 (n := 96 - (data.takeWhile (· != 0)).length) (by omega),
      hsplit]

/-! ## Host leases and grants -/

structure Host where
  processId : Int
  leaseGeneration : Int
  creationFiletime : Int
deriving DecidableEq

/-- `_HOST`. -/
def hostLayout : Format (Int × Int × Int) := .int 4 ×ˢ .int 4 ×ˢ .int 8

def Host.encode (host : Host) : Option Bytes := do
  let processId ← uint host.processId 31 1
  let leaseGeneration ← uint host.leaseGeneration 31 1
  let creationFiletime ← uint host.creationFiletime 64 1
  hostLayout.pack (processId, leaseGeneration, creationFiletime)

def Host.decode (data : Bytes) : Option Host := do
  let (processId, leaseGeneration, creationFiletime) ← hostLayout.unpack data
  let result : Host := ⟨processId, leaseGeneration, creationFiletime⟩
  let _ ← result.encode
  return result

theorem Host.encode_eq_some {host : Host} :
    host.encode = some data ↔ ((1 ≤ host.processId ∧ host.processId < 2 ^ 31) ∧
        (1 ≤ host.leaseGeneration ∧ host.leaseGeneration < 2 ^ 31) ∧
        (1 ≤ host.creationFiletime ∧ host.creationFiletime < 2 ^ 64)) ∧ hostLayout.unpack data =
        some (host.processId, host.leaseGeneration, host.creationFiletime) := by
  simp only [Host.encode, Option.bind_eq_bind, Option.bind_eq_some_iff, uint_eq_some,
    hostLayout.pack_iff]
  constructor
  · rintro ⟨_, ⟨hp, rfl⟩, _, ⟨hl, rfl⟩, _, ⟨hc, rfl⟩, h⟩
    exact ⟨⟨hp, hl, hc⟩, h⟩
  · rintro ⟨⟨hp, hl, hc⟩, h⟩
    exact ⟨_, ⟨hp, rfl⟩, _, ⟨hl, rfl⟩, _, ⟨hc, rfl⟩, h⟩

theorem Host.decode_iff {host : Host} : Host.decode data = some host ↔ host.encode = some data := by
  rw [Host.decode, Option.bind_eq_bind, Option.bind_eq_some_iff]
  constructor
  · rintro ⟨⟨processId, leaseGeneration, creationFiletime⟩, hunpack, h⟩
    obtain ⟨again, hagain, h⟩ := Option.bind_eq_some_iff.1 h
    cases h
    obtain ⟨hvalid, -⟩ := Host.encode_eq_some.1 hagain
    exact Host.encode_eq_some.2 ⟨hvalid, hunpack⟩
  · intro h
    refine ⟨_, (Host.encode_eq_some.1 h).2, ?_⟩
    change (host.encode.bind fun _ => some host) = some host
    rw [h, Option.bind_some]

inductive Owner
  | none
  | automation
  | manual
deriving DecidableEq

instance : IntEnum Owner where
  members := [.none, .automation, .manual]
  value
    | .none => 0
    | .automation => 1
    | .manual => 2
  mem_members := by rintro ⟨⟩ <;> decide
  value_injective := by rintro ⟨⟩ ⟨⟩ <;> simp

structure Grant where
  generation : Int
  scene : Int
  owner : Owner := .none
  workerId : String := ""
  operationId : String := ""
deriving DecidableEq

/-- `_GRANT`. -/
def grantLayout : Format (Int × Int × Int × Int × Bytes × Bytes) :=
  .int 8 ×ˢ .int 8 ×ˢ .int 4 ×ˢ .int 4 ×ˢ .raw 96 ×ˢ .raw 96

def Grant.encode (grant : Grant) : Option Bytes := do
  let required : Bool := grant.owner = .automation
  if grant.owner ≠ .none ∧ grant.scene = 0 then none
  else if required = false ∧ (grant.workerId ≠ "" ∨ grant.operationId ≠ "") then none
  else
    let generation ← uint grant.generation 64 1
    let scene ← uint grant.scene 64 0
    let worker ← text grant.workerId required
    let operation ← text grant.operationId required
    grantLayout.pack (generation, scene, IntEnum.value grant.owner, 0, worker, operation)

def Grant.decode (data : Bytes) : Option Grant := do
  let (generation, scene, owner, reserved, worker, operation) ← grantLayout.unpack data
  if reserved ≠ 0 then none
  else
    let owner ← IntEnum.ofValue owner
    let workerId ← untext worker
    let operationId ← untext operation
    let result : Grant := ⟨generation, scene, owner, workerId, operationId⟩
    let _ ← result.encode
    return result

/-- What `Grant.encode` checks. -/
def Grant.Valid (grant : Grant) : Prop :=
  (grant.owner ≠ .none → grant.scene ≠ 0) ∧
    (grant.owner ≠ .automation → grant.workerId = "" ∧ grant.operationId = "") ∧
    (grant.owner = .automation → grant.workerId ≠ "" ∧ grant.operationId ≠ "") ∧
    (1 ≤ grant.generation ∧ grant.generation < 2 ^ 64) ∧ 0 ≤ grant.scene ∧ grant.scene < 2 ^ 64

variable {grant : Grant}

theorem Grant.encode_eq_some :
    grant.encode = some data ↔ grant.Valid ∧ ∃ worker operation, grantLayout.unpack data = some
        (grant.generation, grant.scene, IntEnum.value grant.owner, 0, worker, operation) ∧
      untext worker = some grant.workerId ∧ untext operation = some grant.operationId ∧
      worker.length = 96 ∧ operation.length = 96 := by
  simp only [Grant.encode, Option.bind_eq_bind, Option.ite_none_left_eq_some,
    Option.bind_eq_some_iff, uint_eq_some, text_iff, grantLayout.pack_iff, decide_eq_true_eq,
    decide_eq_false_iff_not, not_and, not_or, not_not, Grant.Valid]
  constructor
  · rintro ⟨hscene, hbare, _, ⟨hg, rfl⟩, _, ⟨hs, rfl⟩, worker, ⟨hw, hwl, hwt⟩,
      operation, ⟨ho, hol, hot⟩, h⟩
    exact ⟨⟨hscene, hbare, fun h => ⟨hw h, ho h⟩, hg, hs⟩, worker, operation, h, hwt, hot, hwl, hol⟩
  · rintro ⟨⟨hscene, hbare, hreq, hg, hs⟩, worker, operation, h, hwt, hot, hwl, hol⟩
    exact ⟨hscene, hbare, _, ⟨hg, rfl⟩, _, ⟨hs, rfl⟩, worker, ⟨fun h => (hreq h).1, hwl, hwt⟩,
      operation, ⟨fun h => (hreq h).2, hol, hot⟩, h⟩

theorem Grant.decode_iff : Grant.decode data = some grant ↔ grant.encode = some data := by
  simp only [Grant.decode, Option.bind_eq_bind, Option.bind_eq_some_iff,
    Option.ite_none_left_eq_some, Prod.exists, not_not]
  constructor
  · rintro ⟨generation, scene, owner, reserved, worker, operation, hunpack, rfl, owner', howner,
      workerId, hworker, operationId, hoperation, again, hagain, h⟩
    cases h
    have hholds := Format.holds_of_unpack hunpack
    simp only [grantLayout, Format.holds_pair, Format.holds_raw] at hholds
    obtain ⟨-, -, -, -, hwl, hol⟩ := hholds
    rw [← IntEnum.ofValue_iff.1 howner] at hunpack
    exact Grant.encode_eq_some.2 ⟨(Grant.encode_eq_some.1 hagain).1, worker, operation, hunpack,
      hworker, hoperation, hwl, hol⟩
  · intro h
    obtain ⟨-, worker, operation, hunpack, hworker, hoperation, -, -⟩ := Grant.encode_eq_some.1 h
    exact ⟨_, _, _, _, _, _, hunpack, rfl, _, IntEnum.ofValue_value _, _, hworker, _, hoperation,
      data, h, rfl⟩

theorem Grant.length_encode (h : grant.encode = some data) : data.length = 216 := by
  obtain ⟨-, worker, operation, hunpack, -⟩ := Grant.encode_eq_some.1 h
  exact grantLayout.length_unpack hunpack

/-! ## Settings -/

/-- The double written `0.05`. -/
def deadZoneLow : ℚ := 3602879701896397 / 2 ^ 56

/-- The double written `0.95`. -/
def deadZoneHigh : ℚ := 4278419646001971 / 2 ^ 52

theorem zero_nonneg : (0 : ℚ) ≤ 0 := le_rfl

theorem movementDeadZone_nonneg : (0 : ℚ) ≤ 3602879701896397 / 2 ^ 54 := by norm_num

theorem cameraDeadZone_nonneg : (0 : ℚ) ≤ 5404319552844595 / 2 ^ 55 := by norm_num

theorem cameraRadiansPerSecond_nonneg : (0 : ℚ) ≤ 2 := by norm_num

theorem dragThresholdPixels_nonneg : (0 : ℚ) ≤ 6 := by norm_num

structure Settings where
  enabled : Bool := false
  keyboard : Bool := true
  controller : Bool := false
  drag : Bool := true
  keys : List Int := [0x57, 0x53, 0x41, 0x44]
  controllerSlot : Int := 0
  movementDeadZone : Floating :=
    .finite false (3602879701896397 / 2 ^ 54) movementDeadZone_nonneg
  cameraDeadZone : Floating :=
    .finite false (5404319552844595 / 2 ^ 55) cameraDeadZone_nonneg
  cameraRadiansPerSecond : Floating := .finite false 2 cameraRadiansPerSecond_nonneg
  dragThresholdPixels : Floating := .finite false 6 dragThresholdPixels_nonneg
  dragButton : Int := 5
  invertCameraX : Bool := false
  invertCameraY : Bool := false
  controllerBindings : List ControllerBinding := [
    { action := .movement, control := .leftStick },
    { action := .camera, control := .rightStick },
    { action := .cancelMovement, control := .b }]
deriving DecidableEq

/-- `_SETTINGS`. -/
def settingsLayout : Format (List Int × List Int × Int × List Int) :=
  .ints (List.replicate 8 4) ×ˢ .ints (List.replicate 4 4) ×ˢ .int 4 ×ˢ .ints (List.replicate 26 2)

namespace Settings

variable (s : Settings)

/-- The toggles as bits, the first the lowest. -/
def flags : Int :=
  [s.enabled, s.keyboard, s.controller, s.drag, s.invertCameraX, s.invertCameraY].foldr
    (fun toggle rest => (if toggle then 1 else 0) + 2 * rest) 0

/-- Bit `n` of a word of flags. -/
def bit (flags : Int) (n : ℕ) : Bool := flags / 2 ^ n % 2 = 1

/-- The four numbers are finite and in the range that the client supports. -/
def numbersSupported : Bool :=
  (s.movementDeadZone.isFinite ∧ s.cameraDeadZone.isFinite ∧
    s.cameraRadiansPerSecond.isFinite ∧ s.dragThresholdPixels.isFinite) ∧
  (deadZoneLow ≤ s.movementDeadZone.toRat ∧ s.movementDeadZone.toRat < deadZoneHigh) ∧
  (deadZoneLow ≤ s.cameraDeadZone.toRat ∧ s.cameraDeadZone.toRat < deadZoneHigh) ∧
  (0 < s.cameraRadiansPerSecond.toRat ∧ s.cameraRadiansPerSecond.toRat ≤ 10) ∧
  2 ≤ s.dragThresholdPixels.toRat ∧ s.dragThresholdPixels.toRat ≤ 64

/-- The checks of `encode` on what is no number. -/
def keysSupported : Bool :=
  (s.keys.length = 4 ∧ s.keys.Nodup ∧ ∀ k ∈ s.keys, 8 ≤ k ∧ k ≤ 254) ∧
    s.dragButton ∈ [1, 4, 5, 6]

def encode : Option Bytes := do
  if ¬ s.keysSupported then none
  else
    let slot ← uint s.controllerSlot 2 0
    if ¬ s.numbersSupported then none
    else
      let movement ← s.movementDeadZone.pack32
      let camera ← s.cameraDeadZone.pack32
      let radians ← s.cameraRadiansPerSecond.pack32
      let pixels ← s.dragThresholdPixels.pack32
      let profile ← encodeProfile s.controllerBindings
      settingsLayout.pack ([0x57424D43, 2, s.flags] ++ s.keys ++ [slot],
        [movement, camera, radians, pixels], s.dragButton, profile)

def decode (data : Bytes) : Option Settings := do
  let (words, numbers, dragButton, profile) ← settingsLayout.unpack data
  match words, numbers with
  | [magic, version, flags, key1, key2, key3, key4, slot], [movement, camera, radians, pixels] =>
    if magic ≠ 0x57424D43 ∨ version ≠ 2 ∨ 64 ≤ flags then none
    else
      let bindings ← decodeProfile profile
      let result : Settings :=
        { enabled := bit flags 0
          keyboard := bit flags 1
          controller := bit flags 2
          drag := bit flags 3
          keys := [key1, key2, key3, key4]
          controllerSlot := slot
          movementDeadZone := .unpack32 movement
          cameraDeadZone := .unpack32 camera
          cameraRadiansPerSecond := .unpack32 radians
          dragThresholdPixels := .unpack32 pixels
          dragButton := dragButton
          invertCameraX := bit flags 4
          invertCameraY := bit flags 5
          controllerBindings := bindings }
      let _ ← result.encode
      return result
  | _, _ => none

/-- The numbers are values of single precision. -/
def Single : Prop :=
  s.movementDeadZone.IsSingle ∧ s.cameraDeadZone.IsSingle ∧ s.cameraRadiansPerSecond.IsSingle ∧
    s.dragThresholdPixels.IsSingle

/-- The settings with the numbers that some words mean. -/
def withNumbers (movement camera radians pixels : Int) : Settings :=
  { s with
    movementDeadZone := .unpack32 movement
    cameraDeadZone := .unpack32 camera
    cameraRadiansPerSecond := .unpack32 radians
    dragThresholdPixels := .unpack32 pixels }

variable {s} {data : Bytes}

theorem encode_eq_some : s.encode = some data ↔
    s.keysSupported = true ∧ (0 ≤ s.controllerSlot ∧ s.controllerSlot < 2 ^ 2) ∧
      s.numbersSupported = true ∧ ∃ movement camera radians pixels profile,
        s.movementDeadZone.pack32 = some movement ∧ s.cameraDeadZone.pack32 = some camera ∧
        s.cameraRadiansPerSecond.pack32 = some radians ∧
        s.dragThresholdPixels.pack32 = some pixels ∧
        encodeProfile s.controllerBindings = some profile ∧ settingsLayout.unpack data =
          some ([0x57424D43, 2, s.flags] ++ s.keys ++ [s.controllerSlot],
            [movement, camera, radians, pixels], s.dragButton, profile) := by
  simp only [encode, Option.bind_eq_bind, Option.ite_none_left_eq_some, Option.bind_eq_some_iff,
    uint_eq_some, not_not, settingsLayout.pack_iff]
  constructor
  · rintro ⟨hkeys, _, ⟨hslot, rfl⟩, hnumbers, m, hm, c, hc, r, hr, p, hp, profile, hprofile, h⟩
    exact ⟨hkeys, hslot, hnumbers, m, c, r, p, profile, hm, hc, hr, hp, hprofile, h⟩
  · rintro ⟨hkeys, hslot, hnumbers, m, c, r, p, profile, hm, hc, hr, hp, hprofile, h⟩
    exact ⟨hkeys, _, ⟨hslot, rfl⟩, hnumbers, m, hm, c, hc, r, hr, p, hp, profile, hprofile, h⟩

theorem bit_value (flags : Int) (n : ℕ) : (if bit flags n then 1 else 0) = flags / 2 ^ n % 2 := by
  rw [bit]
  split
  case isTrue h => exact (of_decide_eq_true h).symm
  case isFalse h =>
    have hodd : flags / 2 ^ n % 2 ≠ 1 := fun hodd => h (decide_eq_true hodd)
    omega

/-- The toggles read from a word of flags are written as that word. -/
theorem flags_of_bits {s : Settings} {flags : Int} (h : 0 ≤ flags ∧ flags < 64)
    (henabled : s.enabled = bit flags 0) (hkeyboard : s.keyboard = bit flags 1)
    (hcontroller : s.controller = bit flags 2) (hdrag : s.drag = bit flags 3)
    (hx : s.invertCameraX = bit flags 4) (hy : s.invertCameraY = bit flags 5) :
    s.flags = flags := by
  simp only [Settings.flags, foldr_cons, foldr_nil, henabled, hkeyboard, hcontroller,
    hdrag, hx, hy, bit_value]
  clear henabled hkeyboard hcontroller hdrag hx hy
  norm_num
  grind

theorem flags_bounds (s : Settings) : 0 ≤ s.flags ∧ s.flags < 64 := by
  simp only [Settings.flags, foldr_cons, foldr_nil]
  split_ifs <;> omega

theorem bits_of_flags (s : Settings) :
    bit s.flags 0 = s.enabled ∧ bit s.flags 1 = s.keyboard ∧ bit s.flags 2 = s.controller ∧
      bit s.flags 3 = s.drag ∧ bit s.flags 4 = s.invertCameraX ∧
      bit s.flags 5 = s.invertCameraY := by
  have hbit (b : Bool) (n : ℕ) (h : s.flags / 2 ^ n % 2 = if b then 1 else 0) :
      bit s.flags n = b := by
    cases b with
    | true => exact decide_eq_true h
    | false =>
      rw [if_neg Bool.false_ne_true] at h
      exact decide_eq_false (by omega)
  refine ⟨hbit _ _ ?_, hbit _ _ ?_, hbit _ _ ?_, hbit _ _ ?_, hbit _ _ ?_, hbit _ _ ?_⟩ <;>
  · simp only [Settings.flags, foldr_cons, foldr_nil]
    split_ifs <;> norm_num

/-- Bytes that are accepted are written again. -/
theorem encode_of_decode (h : decode data = some s) : s.encode = some data := by
  simp only [decode, Option.bind_eq_bind, Option.bind_eq_some_iff, Prod.exists] at h
  obtain ⟨words, numbers, dragButton, profile, hunpack, h⟩ := h
  split at h
  case h_2 => cases h
  case h_1 magic version flags key1 key2 key3 key4 slot movement camera radians pixels =>
    simp only [Option.ite_none_left_eq_some, Option.bind_eq_some_iff, not_or, not_not,
      not_le] at h
    obtain ⟨⟨rfl, rfl, hflags⟩, bindings, hbindings, again, hagain, h⟩ := h
    cases h
    have hholds := Format.holds_of_unpack hunpack
    simp only [settingsLayout, Format.holds_pair, List.replicate, Format.holds_ints_cons,
      Format.holds_ints_nil, List.cons.injEq] at hholds
    obtain ⟨⟨_, _, ⟨-, rfl⟩, -, _, _, ⟨-, rfl⟩, -, _, _, ⟨rfl, rfl⟩, hword, -⟩,
      ⟨_, _, ⟨rfl, rfl⟩, hmovement, _, _, ⟨rfl, rfl⟩, hcamera, _, _, ⟨rfl, rfl⟩, hradians,
        _, _, ⟨rfl, rfl⟩, hpixels, -⟩, -⟩ := hholds
    obtain ⟨hkeys, hslot, hnumbers, -⟩ := encode_eq_some.1 hagain
    have hfinite := hnumbers
    simp only [numbersSupported, decide_eq_true_eq] at hfinite
    obtain ⟨⟨hm, hc, hr, hp⟩, -⟩ := hfinite
    refine encode_eq_some.2 ⟨hkeys, hslot, hnumbers, _, _, _, _, profile,
      Floating.pack32_unpack32 hmovement hm, Floating.pack32_unpack32 hcamera hc,
      Floating.pack32_unpack32 hradians hr, Floating.pack32_unpack32 hpixels hp,
      decodeProfile_iff.1 hbindings, ?_⟩
    rw [flags_of_bits ⟨hword.1, hflags⟩ rfl rfl rfl rfl rfl rfl, hunpack]
    rfl

theorem exists_of_length_four {l : List Int} (h : l.length = 4) :
    ∃ a b c d, l = [a, b, c, d] := by
  match l, h with
  | [a, b, c, d], _ => exact ⟨a, b, c, d, rfl⟩

/-- What `encode` writes is read as the settings with rounded numbers, if these pass the checks
in their turn. -/
theorem decode_of_encode (h : s.encode = some data) :
    ∃ movement camera radians pixels, s.movementDeadZone.pack32 = some movement ∧
      s.cameraDeadZone.pack32 = some camera ∧ s.cameraRadiansPerSecond.pack32 = some radians ∧
      s.dragThresholdPixels.pack32 = some pixels ∧
      decode data = (s.withNumbers movement camera radians pixels).encode.map fun _ =>
        s.withNumbers movement camera radians pixels := by
  obtain ⟨hkeys, -, -, m, c, r, p, profile, hm, hc, hr, hp, hprofile, hunpack⟩ :=
    encode_eq_some.1 h
  refine ⟨m, c, r, p, hm, hc, hr, hp, ?_⟩
  simp only [keysSupported, decide_eq_true_eq] at hkeys
  obtain ⟨key1, key2, key3, key4, hfour⟩ := exists_of_length_four hkeys.1.1
  obtain ⟨hb0, hb1, hb2, hb3, hb4, hb5⟩ := bits_of_flags s
  have hflags : ¬ 64 ≤ s.flags := not_le.2 (flags_bounds s).2
  rw [hfour] at hunpack
  simp only [decode, hunpack, cons_append, nil_append, Option.bind_eq_bind,
    Option.bind_some, decodeProfile_iff.2 hprofile, ne_eq, not_true_eq_false, hflags, or_self,
    if_false, hb0, hb1, hb2, hb3, hb4, hb5]
  cases hagain : (s.withNumbers m c r p).encode with
  | none =>
    rw [withNumbers, hfour] at hagain
    rw [hagain, Option.bind_none, Option.map_none]
  | some again =>
    rw [withNumbers, hfour] at hagain
    rw [hagain, Option.bind_some, Option.map_some, withNumbers, hfour]
    rfl

/-- Settings of single precision are read back as they are. -/
theorem decode_of_encode_single (hsingle : s.Single) (h : s.encode = some data) :
    decode data = some s := by
  obtain ⟨m, c, r, p, hm, hc, hr, hp, hdecode⟩ := decode_of_encode h
  have hsame : s.withNumbers m c r p = s := by
    rw [withNumbers, Floating.unpack32_of_pack32 hsingle.1 hm,
      Floating.unpack32_of_pack32 hsingle.2.1 hc, Floating.unpack32_of_pack32 hsingle.2.2.1 hr,
      Floating.unpack32_of_pack32 hsingle.2.2.2 hp]
  rw [hdecode, hsame, h, Option.map_some]

theorem deadZoneLow_pos : 0 < deadZoneLow := by norm_num [deadZoneLow]

/-- The dead zones stay in their range when they are rounded. -/
theorem deadZone_rounded {q : ℚ} (h : deadZoneLow ≤ q ∧ q < deadZoneHigh) :
    deadZoneLow ≤ Binary32.magnitude (Binary32.round q) ∧
      Binary32.magnitude (Binary32.round q) < deadZoneHigh := by
  have hlow : deadZoneLow ≤ Binary32.magnitude (Binary32.round deadZoneLow) := by decide +kernel
  have hhigh : Binary32.magnitude (Binary32.round deadZoneHigh) < deadZoneHigh := by decide +kernel
  exact ⟨Binary32.le_magnitude_round deadZoneLow_pos h.1 hlow,
    (Binary32.magnitude_round_le (deadZoneLow_pos.trans_le h.1) h.2.le).trans_lt hhigh⟩

theorem pixels_rounded {q : ℚ} (h : 2 ≤ q ∧ q ≤ 64) :
    2 ≤ Binary32.magnitude (Binary32.round q) ∧ Binary32.magnitude (Binary32.round q) ≤ 64 := by
  have hlow : 2 ≤ Binary32.magnitude (Binary32.round 2) := by decide +kernel
  have hhigh : Binary32.magnitude (Binary32.round 64) ≤ 64 := by decide +kernel
  exact ⟨Binary32.le_magnitude_round two_pos h.1 hlow,
    (Binary32.magnitude_round_le (two_pos.trans_le h.1) h.2).trans hhigh⟩

/-- Of the checks on the numbers only the sign of the camera's speed can be lost by rounding. -/
theorem numbersSupported_withNumbers {movement camera radians pixels : Int}
    (hm : s.movementDeadZone.pack32 = some movement) (hc : s.cameraDeadZone.pack32 = some camera)
    (hr : s.cameraRadiansPerSecond.pack32 = some radians)
    (hp : s.dragThresholdPixels.pack32 = some pixels) (h : s.numbersSupported = true) :
    (s.withNumbers movement camera radians pixels).numbersSupported = true ↔
      2 ^ (-150 : ℤ) < s.cameraRadiansPerSecond.toRat := by
  simp only [numbersSupported, decide_eq_true_eq] at h
  obtain ⟨-, hmovement, hcamera, hradians, hpixels⟩ := h
  obtain ⟨hmf, hmv⟩ := Floating.unpack32_of_pos (deadZoneLow_pos.trans_le hmovement.1) hm
  obtain ⟨hcf, hcv⟩ := Floating.unpack32_of_pos (deadZoneLow_pos.trans_le hcamera.1) hc
  obtain ⟨hrf, hrv⟩ := Floating.unpack32_of_pos hradians.1 hr
  obtain ⟨hpf, hpv⟩ := Floating.unpack32_of_pos (two_pos.trans_le hpixels.1) hp
  have hten : Binary32.magnitude (Binary32.round 10) ≤ 10 := by decide +kernel
  have hspeed := (Binary32.magnitude_round_le hradians.1 hradians.2).trans hten
  have hpositive : 0 < Binary32.magnitude (Binary32.round s.cameraRadiansPerSecond.toRat) ↔
      2 ^ (-150 : ℤ) < s.cameraRadiansPerSecond.toRat := by
    rw [Binary32.magnitude_pos_iff (Binary32.round_nonneg hradians.1.le), ne_eq,
      Binary32.round_eq_zero_iff hradians.1, not_le]
  simp only [numbersSupported, withNumbers, decide_eq_true_eq, hmf, hcf, hrf, hpf, hmv, hcv, hrv,
    hpv, true_and, hspeed, and_true, deadZone_rounded hmovement, deadZone_rounded hcamera,
    pixels_rounded hpixels, hpositive]

/-- What `encode` accepts, `decode` accepts unless the camera's speed is rounded to zero. -/
theorem decode_isSome_iff (h : s.encode = some data) :
    (decode data).isSome = true ↔ 2 ^ (-150 : ℤ) < s.cameraRadiansPerSecond.toRat := by
  obtain ⟨hkeys, hslot, hnumbers, m, c, r, p, profile, hm, hc, hr, hp, hprofile, hunpack⟩ :=
    encode_eq_some.1 h
  obtain ⟨m', c', r', p', hm', hc', hr', hp', hdecode⟩ := decode_of_encode h
  have hiff := numbersSupported_withNumbers hm' hc' hr' hp' hnumbers
  rw [hdecode, Option.isSome_map, ← hiff]
  constructor
  · intro hsome
    obtain ⟨again, hagain⟩ := Option.isSome_iff_exists.1 hsome
    exact (encode_eq_some.1 hagain).2.2.1
  · intro hagain
    have hfinite := hagain
    simp only [numbersSupported, decide_eq_true_eq] at hfinite
    obtain ⟨⟨hmf, hcf, hrf, hpf⟩, -⟩ := hfinite
    rw [hm, Option.some.injEq] at hm'
    rw [hc, Option.some.injEq] at hc'
    rw [hr, Option.some.injEq] at hr'
    rw [hp, Option.some.injEq] at hp'
    subst hm' hc' hr' hp'
    rw [Option.isSome_iff_exists]
    exact ⟨data, encode_eq_some.2 ⟨hkeys, hslot, hagain, m, c, r, p, profile,
      Floating.pack32_unpack32 (Floating.pack32_word hm) hmf,
      Floating.pack32_unpack32 (Floating.pack32_word hc) hcf,
      Floating.pack32_unpack32 (Floating.pack32_word hr) hrf,
      Floating.pack32_unpack32 (Floating.pack32_word hp) hpf, hprofile, hunpack⟩⟩

end Settings

/-! ## Commands -/

inductive Verb
  | acquire
  | destination
  | stop
  | configure
  | pause
  | acquireCoordinate
  | continueParent
deriving DecidableEq

/-- The verb asks for a grant. -/
def Verb.acquires (verb : Verb) : Bool := verb = .acquire ∨ verb = .acquireCoordinate

structure Command where
  host : Host
  window : Int
  expected : Grant
  requestKey : String
  destination : Floating × Floating × Floating :=
    (.finite false 0 zero_nonneg, .finite false 0 zero_nonneg, .finite false 0 zero_nonneg)
  settings : Settings := {}
  revision : Int := 0
  workerId : String := ""
  operationId : String := ""
deriving DecidableEq

/-- `_COMMAND`. -/
def commandLayout : Format (Bytes × Int × Bytes × Bytes × Int × Int × Int × Bytes × Int × Bytes ×
    Bytes) :=
  .raw 16 ×ˢ .int 8 ×ˢ .raw 216 ×ˢ .raw 16 ×ˢ .int 4 ×ˢ .int 4 ×ˢ .int 4 ×ˢ .raw 104 ×ˢ .int 8 ×ˢ
    .raw 192 ×ˢ .raw 4

namespace Command

/-- The checks of `encode` that depend on the verb. -/
def accepts (command : Command) (verb : Verb) : Bool :=
  ¬ (verb ∈ [.destination, .stop, .pause, .continueParent] ∧
      command.expected.owner ≠ .automation) ∧
    ¬ (¬ verb.acquires ∧ (command.workerId ≠ "" ∨ command.operationId ≠ "")) ∧
    ¬ (verb = .configure ∧ command.revision = 0) ∧
    ¬ (verb = .continueParent ∧ ¬ (command.revision = 0 ∨ command.revision = 1))

def encode (command : Command) (verb : Verb) : Option Bytes := do
  let (x, y, z) := command.destination
  if ¬ (x.isFinite ∧ y.isFinite ∧ z.isFinite) then none
  else if ¬ command.accepts verb then none
  else
    let host ← command.host.encode
    let window ← uint command.window 32 1
    let expected ← command.expected.encode
    let request ← requestBytes command.requestKey
    let x ← x.pack32
    let y ← y.pack32
    let z ← z.pack32
    let settings ← command.settings.encode
    let revision ← uint command.revision 64 0
    let worker ← text command.workerId verb.acquires
    let operation ← text command.operationId verb.acquires
    commandLayout.pack (host, window, expected, request, x, y, z, settings, revision,
      worker ++ operation, zeros 4)

def decode (data : Bytes) (verb : Verb) : Option Command := do
  let (host, window, grant, key, x, y, z, settings, revision, token, reserved) ←
    commandLayout.unpack data
  if anySet reserved then none
  else
    let host ← Host.decode host
    let grant ← Grant.decode grant
    let settings ← Settings.decode settings
    let workerId ← untext (token.take 96)
    let operationId ← untext (token.drop 96)
    let result : Command := ⟨host, window, grant, uuidText key,
      (.unpack32 x, .unpack32 y, .unpack32 z), settings, revision, workerId, operationId⟩
    let _ ← result.encode verb
    return result

/-- The floating-point values of a command are of single precision. -/
def Single (command : Command) : Prop :=
  (command.destination.1.IsSingle ∧ command.destination.2.1.IsSingle ∧
    command.destination.2.2.IsSingle) ∧ command.settings.Single

variable {command : Command} {verb : Verb} {data : Bytes}

theorem encode_eq_some : command.encode verb = some data ↔
    (command.destination.1.isFinite = true ∧ command.destination.2.1.isFinite = true ∧
      command.destination.2.2.isFinite = true) ∧ command.accepts verb = true ∧
    (1 ≤ command.window ∧ command.window < 2 ^ 32) ∧
    (0 ≤ command.revision ∧ command.revision < 2 ^ 64) ∧
    ∃ host expected request x y z settings worker operation,
      command.host.encode = some host ∧ command.expected.encode = some expected ∧
      requestBytes command.requestKey = some request ∧
      command.destination.1.pack32 = some x ∧ command.destination.2.1.pack32 = some y ∧
      command.destination.2.2.pack32 = some z ∧ command.settings.encode = some settings ∧
      text command.workerId verb.acquires = some worker ∧
      text command.operationId verb.acquires = some operation ∧
      commandLayout.unpack data = some (host, command.window, expected, request, x, y, z, settings,
        command.revision, worker ++ operation, zeros 4) := by
  simp only [encode, Option.bind_eq_bind, Option.ite_none_left_eq_some, Option.bind_eq_some_iff,
    uint_eq_some, not_not, commandLayout.pack_iff]
  constructor
  · rintro ⟨hfinite, haccepts, host, hhost, _, ⟨hwindow, rfl⟩, expected, hexpected, request,
      hrequest, x, hx, y, hy, z, hz, settings, hsettings, _, ⟨hrevision, rfl⟩, worker, hworker,
      operation, hoperation, h⟩
    exact ⟨hfinite, haccepts, hwindow, hrevision, host, expected, request, x, y, z, settings, worker,
      operation, hhost, hexpected, hrequest, hx, hy, hz, hsettings, hworker, hoperation, h⟩
  · rintro ⟨hfinite, haccepts, hwindow, hrevision, host, expected, request, x, y, z, settings,
      worker, operation, hhost, hexpected, hrequest, hx, hy, hz, hsettings, hworker, hoperation, h⟩
    exact ⟨hfinite, haccepts, host, hhost, _, ⟨hwindow, rfl⟩, expected, hexpected, request,
      hrequest, x, hx, y, hy, z, hz, settings, hsettings, _, ⟨hrevision, rfl⟩, worker, hworker,
      operation, hoperation, h⟩

/-- Bytes that are accepted are written again, although `decode` does not compare them. -/
theorem encode_of_decode (h : decode data verb = some command) : command.encode verb = some data := by
  simp only [decode, Option.bind_eq_bind, Option.bind_eq_some_iff, Prod.exists,
    Option.ite_none_left_eq_some, Bool.not_eq_true] at h
  obtain ⟨host, window, grant, key, x, y, z, settings, revision, token, reserved, hunpack,
    hreserved, host', hhost, grant', hgrant, settings', hsettings, workerId, hworkerId, operationId,
    hoperationId, again, hagain, h⟩ := h
  cases h
  have hholds := Format.holds_of_unpack hunpack
  simp only [commandLayout, Format.holds_pair, Format.holds_raw, Format.holds_int] at hholds
  obtain ⟨-, -, -, hkey, hx, hy, hz, -, -, htoken, hlength⟩ := hholds
  obtain ⟨⟨hxf, hyf, hzf⟩, haccepts, hwindow, hrevision, _, _, request, _, _, _, _, worker,
    operation, -, -, hrequest, -, -, -, -, hworker, hoperation, -⟩ := encode_eq_some.1 hagain
  obtain rfl := requestBytes_uuidText hkey hrequest
  rw [eq_zeros_of_anySet hreserved hlength] at hunpack
  refine encode_eq_some.2 ⟨⟨hxf, hyf, hzf⟩, haccepts, hwindow, hrevision, host, grant, request, x,
    y, z, settings, token.take 96, token.drop 96, Host.decode_iff.1 hhost,
    Grant.decode_iff.1 hgrant, hrequest, Floating.pack32_unpack32 hx hxf,
    Floating.pack32_unpack32 hy hyf, Floating.pack32_unpack32 hz hzf,
    Settings.encode_of_decode hsettings, ?_, ?_, ?_⟩
  · refine text_iff.2 ⟨(text_iff.1 hworker).1, ?_, hworkerId⟩
    rw [length_take, htoken]
    rfl
  · refine text_iff.2 ⟨(text_iff.1 hoperation).1, ?_, hoperationId⟩
    rw [length_drop, htoken]
  · rw [take_append_drop, hunpack]

theorem decode_of_encode (hsingle : command.Single) (hencode : command.encode verb = some data) :
    decode data verb = some command := by
  obtain ⟨host, window, expected, key, ⟨x, y, z⟩, settings, revision, workerId, operationId⟩ :=
    command
  obtain ⟨-, -, -, -, host', expected', request, x', y', z', settings', worker, operation, hhost,
    hexpected, hrequest, hx, hy, hz, hsettings, hworker, hoperation, hunpack⟩ :=
    encode_eq_some.1 hencode
  obtain ⟨⟨hxs, hys, hzs⟩, hsettingsSingle⟩ := hsingle
  obtain ⟨-, -, rfl⟩ := requestBytes_iff.1 hrequest
  obtain ⟨-, hworkerLength, hworkerText⟩ := text_iff.1 hworker
  obtain ⟨-, -, hoperationText⟩ := text_iff.1 hoperation
  obtain rfl := Floating.unpack32_of_pack32 hxs hx
  obtain rfl := Floating.unpack32_of_pack32 hys hy
  obtain rfl := Floating.unpack32_of_pack32 hzs hz
  simp only [decode, Option.bind_eq_bind, Option.bind_eq_some_iff, Prod.exists,
    Option.ite_none_left_eq_some, Bool.not_eq_true]
  exact ⟨_, _, _, _, _, _, _, _, _, _, _, hunpack, anySet_zeros _, _, Host.decode_iff.2 hhost, _,
    Grant.decode_iff.2 hexpected, _, Settings.decode_of_encode_single hsettingsSingle hsettings, _,
    by rw [take_left' hworkerLength, hworkerText], _,
    by rw [drop_left' hworkerLength, hoperationText], data, hencode, rfl⟩

end Command

/-! ## Receipts and snapshots -/

inductive Outcome
  | accepted
  | stale
  | unavailable
  | inhibited
  | stopFailed
  | invalid
deriving DecidableEq

instance : IntEnum Outcome where
  members := [.accepted, .stale, .unavailable, .inhibited, .stopFailed, .invalid]
  value
    | .accepted => 0
    | .stale => 1
    | .unavailable => 2
    | .inhibited => 3
    | .stopFailed => 4
    | .invalid => 5
  mem_members := by rintro ⟨⟩ <;> decide
  value_injective := by rintro ⟨⟩ ⟨⟩ <;> simp

/-- `_validate_status_flags` accepts the flags: bindings are 1, ready 2, terminal 8 and a
pending cleanup 64. -/
def statusFlagsOk (flags : Int) (grant : Grant) : Bool :=
  ¬ hasOther flags 255 ∧
    ¬ (hasFlag flags 64 ∧ (¬ hasFlag flags 1 ∨ hasFlag flags (2 + 8) ∨
      grant.owner ≠ .automation ∨ grant.scene = 0))

structure Receipt where
  grant : Grant
  requestKey : String
  host : Host
  window : Int
  revision : Int
  settings : Settings
  outcome : Outcome
  flags : Int
deriving DecidableEq

/-- `_RECEIPT`. -/
def receiptLayout : Format (Bytes × Bytes × Bytes × Int × Int × Bytes × Int × Int × Bytes) :=
  .raw 216 ×ˢ .raw 16 ×ˢ .raw 16 ×ˢ .int 8 ×ˢ .int 8 ×ˢ .raw 104 ×ˢ .int 4 ×ˢ .int 4 ×ˢ .raw 8

namespace Receipt

def encode (receipt : Receipt) : Option Bytes := do
  if ¬ statusFlagsOk receipt.flags receipt.grant then none
  else
    let grant ← receipt.grant.encode
    let request ← requestBytes receipt.requestKey
    let host ← receipt.host.encode
    let window ← uint receipt.window 32 1
    let revision ← uint receipt.revision 64 1
    let settings ← receipt.settings.encode
    receiptLayout.pack (grant, request, host, window, revision, settings,
      IntEnum.value receipt.outcome, receipt.flags, zeros 8)

def decode (data : Bytes) : Option Receipt := do
  let (grant, key, host, window, revision, settings, outcome, flags, reserved) ←
    receiptLayout.unpack data
  if anySet reserved then none
  else
    let grant ← Grant.decode grant
    let host ← Host.decode host
    let settings ← Settings.decode settings
    let outcome ← IntEnum.ofValue outcome
    let result : Receipt :=
      ⟨grant, uuidText key, host, window, revision, settings, outcome, flags⟩
    let _ ← result.encode
    return result

variable {receipt : Receipt} {data : Bytes}

theorem encode_eq_some : receipt.encode = some data ↔
    statusFlagsOk receipt.flags receipt.grant = true ∧
    (1 ≤ receipt.window ∧ receipt.window < 2 ^ 32) ∧
    (1 ≤ receipt.revision ∧ receipt.revision < 2 ^ 64) ∧ ∃ grant request host settings,
      receipt.grant.encode = some grant ∧ requestBytes receipt.requestKey = some request ∧
      receipt.host.encode = some host ∧ receipt.settings.encode = some settings ∧
      receiptLayout.unpack data = some (grant, request, host, receipt.window, receipt.revision,
        settings, IntEnum.value receipt.outcome, receipt.flags, zeros 8) := by
  simp only [encode, Option.bind_eq_bind, Option.ite_none_left_eq_some, Option.bind_eq_some_iff,
    uint_eq_some, not_not, receiptLayout.pack_iff]
  constructor
  · rintro ⟨hflags, grant, hgrant, request, hrequest, host, hhost, _, ⟨hwindow, rfl⟩, _,
      ⟨hrevision, rfl⟩, settings, hsettings, h⟩
    exact ⟨hflags, hwindow, hrevision, grant, request, host, settings, hgrant, hrequest, hhost,
      hsettings, h⟩
  · rintro ⟨hflags, hwindow, hrevision, grant, request, host, settings, hgrant, hrequest, hhost,
      hsettings, h⟩
    exact ⟨hflags, grant, hgrant, request, hrequest, host, hhost, _, ⟨hwindow, rfl⟩, _,
      ⟨hrevision, rfl⟩, settings, hsettings, h⟩

theorem encode_of_decode (h : decode data = some receipt) : receipt.encode = some data := by
  simp only [decode, Option.bind_eq_bind, Option.bind_eq_some_iff, Prod.exists,
    Option.ite_none_left_eq_some, Bool.not_eq_true] at h
  obtain ⟨grant, key, host, window, revision, settings, outcome, flags, reserved, hunpack,
    hreserved, grant', hgrant, host', hhost, settings', hsettings, outcome', houtcome, again, hagain,
    h⟩ := h
  cases h
  have hholds := Format.holds_of_unpack hunpack
  simp only [receiptLayout, Format.holds_pair, Format.holds_raw] at hholds
  obtain ⟨-, hkey, -, -, -, -, -, -, hlength⟩ := hholds
  obtain ⟨hflags, hwindow, hrevision, _, request, _, _, -, hrequest, -⟩ := encode_eq_some.1 hagain
  obtain rfl := requestBytes_uuidText hkey hrequest
  obtain rfl := IntEnum.ofValue_iff.1 houtcome
  rw [eq_zeros_of_anySet hreserved hlength] at hunpack
  exact encode_eq_some.2 ⟨hflags, hwindow, hrevision, grant, request, host, settings,
    Grant.decode_iff.1 hgrant, hrequest, Host.decode_iff.1 hhost,
    Settings.encode_of_decode hsettings, hunpack⟩

theorem decode_of_encode (hsingle : receipt.settings.Single) (hencode : receipt.encode = some data) :
    decode data = some receipt := by
  obtain ⟨grant, key, host, window, revision, settings, outcome, flags⟩ := receipt
  obtain ⟨-, -, -, _, request, _, _, hgrant, hrequest, hhost, hsettings, hunpack⟩ :=
    encode_eq_some.1 hencode
  obtain ⟨-, -, rfl⟩ := requestBytes_iff.1 hrequest
  simp only [decode, Option.bind_eq_bind, Option.bind_eq_some_iff, Prod.exists,
    Option.ite_none_left_eq_some, Bool.not_eq_true]
  exact ⟨_, _, _, _, _, _, _, _, _, hunpack, anySet_zeros _, _, Grant.decode_iff.2 hgrant, _,
    Host.decode_iff.2 hhost, _, Settings.decode_of_encode_single hsingle hsettings, _,
    IntEnum.ofValue_value _, data, hencode, rfl⟩

end Receipt

structure Snapshot where
  sequence : Int
  processId : Int
  flags : Int
  creationFiletime : Int
  window : Int
  grant : Grant
  settings : Settings
  revision : Int
  tick : Int
deriving DecidableEq

/-- `_STATUS`.  Its first field is signed; a set sign bit is out of range read either way. -/
def statusLayout :
    Format (Int × Int × Int × Int × Int × Bytes × Bytes × Int × Int × Bytes) :=
  .int 8 ×ˢ .int 4 ×ˢ .int 4 ×ˢ .int 8 ×ˢ .int 8 ×ˢ .raw 216 ×ˢ .raw 104 ×ˢ .int 8 ×ˢ .int 8 ×ˢ
    .raw 144

namespace Snapshot

def encode (snapshot : Snapshot) : Option Bytes := do
  if ¬ statusFlagsOk snapshot.flags snapshot.grant then none
  else if snapshot.sequence % 2 = 1 then none
  else
    let sequence ← uint snapshot.sequence 63 2
    let processId ← uint snapshot.processId 32 1
    let creationFiletime ← uint snapshot.creationFiletime 64 1
    let window ← uint snapshot.window 32 0
    let grant ← snapshot.grant.encode
    let settings ← snapshot.settings.encode
    let revision ← uint snapshot.revision 64 1
    let tick ← uint snapshot.tick 64 0
    statusLayout.pack (sequence, processId, snapshot.flags, creationFiletime, window, grant, settings,
      revision, tick, zeros 144)

def decode (data : Bytes) : Option Snapshot := do
  let (sequence, processId, flags, creationFiletime, window, grant, settings, revision, tick,
    reserved) ← statusLayout.unpack data
  if anySet reserved then none
  else
    let grant ← Grant.decode grant
    let settings ← Settings.decode settings
    let result : Snapshot := ⟨sequence, processId, flags, creationFiletime, window, grant, settings,
      revision, tick⟩
    let _ ← result.encode
    return result

variable {snapshot : Snapshot} {data : Bytes}

/-- The checks of `encode` on the snapshot's own fields. -/
def Ok (s : Snapshot) : Prop :=
  statusFlagsOk s.flags s.grant = true ∧ ¬ s.sequence % 2 = 1 ∧
    (2 ≤ s.sequence ∧ s.sequence < 2 ^ 63) ∧ (1 ≤ s.processId ∧ s.processId < 2 ^ 32) ∧
    (1 ≤ s.creationFiletime ∧ s.creationFiletime < 2 ^ 64) ∧
    (0 ≤ s.window ∧ s.window < 2 ^ 32) ∧ (1 ≤ s.revision ∧ s.revision < 2 ^ 64) ∧
    0 ≤ s.tick ∧ s.tick < 2 ^ 64

theorem encode_eq_some : snapshot.encode = some data ↔ snapshot.Ok ∧ ∃ grant settings,
    snapshot.grant.encode = some grant ∧ snapshot.settings.encode = some settings ∧
    statusLayout.unpack data = some (snapshot.sequence, snapshot.processId, snapshot.flags,
      snapshot.creationFiletime, snapshot.window, grant, settings, snapshot.revision,
      snapshot.tick, zeros 144) := by
  simp only [encode, Option.bind_eq_bind, Option.ite_none_left_eq_some, Option.bind_eq_some_iff,
    uint_eq_some, not_not, statusLayout.pack_iff, Ok]
  constructor
  · rintro ⟨hflags, heven, _, ⟨hs, rfl⟩, _, ⟨hp, rfl⟩, _, ⟨hc, rfl⟩, _, ⟨hw, rfl⟩, grant, hgrant,
      settings, hsettings, _, ⟨hr, rfl⟩, _, ⟨ht, rfl⟩, h⟩
    exact ⟨⟨hflags, heven, hs, hp, hc, hw, hr, ht⟩, grant, settings, hgrant, hsettings, h⟩
  · rintro ⟨⟨hflags, heven, hs, hp, hc, hw, hr, ht⟩, grant, settings, hgrant, hsettings, h⟩
    exact ⟨hflags, heven, _, ⟨hs, rfl⟩, _, ⟨hp, rfl⟩, _, ⟨hc, rfl⟩, _, ⟨hw, rfl⟩, grant, hgrant,
      settings, hsettings, _, ⟨hr, rfl⟩, _, ⟨ht, rfl⟩, h⟩

theorem encode_of_decode (h : decode data = some snapshot) : snapshot.encode = some data := by
  simp only [decode, Option.bind_eq_bind, Option.bind_eq_some_iff, Prod.exists,
    Option.ite_none_left_eq_some, Bool.not_eq_true] at h
  obtain ⟨_, _, _, _, _, grant, settings, _, _, reserved, hunpack, hreserved, grant', hgrant,
    settings', hsettings, again, hagain, h⟩ := h
  cases h
  have hholds := Format.holds_of_unpack hunpack
  simp only [statusLayout, Format.holds_pair, Format.holds_raw] at hholds
  obtain ⟨-, -, -, -, -, -, -, -, -, hlength⟩ := hholds
  rw [eq_zeros_of_anySet hreserved hlength] at hunpack
  exact encode_eq_some.2 ⟨(encode_eq_some.1 hagain).1, grant, settings, Grant.decode_iff.1 hgrant,
    Settings.encode_of_decode hsettings, hunpack⟩

theorem decode_of_encode (hsingle : snapshot.settings.Single)
    (hencode : snapshot.encode = some data) : decode data = some snapshot := by
  obtain ⟨-, _, _, hgrant, hsettings, hunpack⟩ := encode_eq_some.1 hencode
  simp only [decode, Option.bind_eq_bind, Option.bind_eq_some_iff, Prod.exists,
    Option.ite_none_left_eq_some, Bool.not_eq_true]
  exact ⟨_, _, _, _, _, _, _, _, _, _, hunpack, anySet_zeros _, _, Grant.decode_iff.2 hgrant, _,
    Settings.decode_of_encode_single hsingle hsettings, data, hencode, rfl⟩

end Snapshot

end ShadowbaneLab.MovementWire
