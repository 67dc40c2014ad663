/-
# Movement commands as the client reads them

`movement_wire.h`, with `DecodeControllerBinding` of `movement_action_profile.h`: the validation of
a movement command by the native client.  The verbs are those of the host's codec, and a structure
of the wire is its bytes.
-/
import ShadowbaneLab.Client.MovementWire
import ShadowbaneLab.Native.MovementControls

namespace ShadowbaneLab.Native.Movement

open Foundation

/-- `float` read as the value of its word; a literal is the nearest one. -/
instance : Comparable Floating where
  zero := .finite false 0 MovementWire.zero_nonneg
  lt x y := x.less y = true
  le x y := x.atMost y = true
  ofScientific mantissa negative exponent :=
    .nearest (if negative then mantissa / 10 ^ exponent else mantissa * 10 ^ exponent)
  decidableLT _ _ := inferInstanceAs (Decidable (_ = true))
  decidableLE _ _ := inferInstanceAs (Decidable (_ = true))
  isFinite := Floating.isFinite

namespace Wire

open MovementWire (Verb)

/-! ## Tokens -/

/-- The bytes of a text of the wire. -/
def textOf (data : Bytes) : Text :=
  if h : data.length = 96 then ⟨data.toArray, by simpa using h⟩ else .replicate 96 0

/-- `Text`. -/
def text (value : Text) (required : Bool) : Bool :=
  let head := value.toList.takeWhile (· != 0)
  let rest := value.toList.dropWhile (· != 0)
  if rest = [] ∨ required ∧ head = [] then false
  else if head.any fun c => c < 0x20 ∨ 0x7E < c then false
  else !anySet rest

/-- `Decode` of a token: its worker and its operation. -/
def decodeToken (worker operation : Text) (required : Bool) : Option Token :=
  if ¬ text worker required ∨ ¬ text operation required then none else some ⟨worker, operation⟩

/-! ## Hosts and grants -/

/-- `Host`. -/
def hostLayout : Format (Int × Int × Int) := .int 4 ×ˢ .int 4 ×ˢ .int 8

/-- `Valid` of a host. -/
def validHost (data : Bytes) : Bool :=
  match hostLayout.unpack data with
  | none => false
  | some (process, generation, creation) =>
    process ≠ 0 ∧ process ≤ 0x7FFFFFFF ∧ generation ≠ 0 ∧ generation ≤ 0x7FFFFFFF ∧ creation ≠ 0

/-- `Grant`. -/
def grantLayout : Format (Int × Int × Int × Int × Bytes × Bytes) :=
  .int 8 ×ˢ .int 8 ×ˢ .int 4 ×ˢ .int 4 ×ˢ .raw 96 ×ˢ .raw 96

/-- `static_cast<Owner>`. -/
def ownerOf (owner : Int) : Owner :=
  if owner = 1 then .automation else if owner = 2 then .manual else .none

/-- `Decode` of a grant. -/
def decodeGrant (data : Bytes) : Option Grant := do
  let (generation, scene, owner, reserved, worker, operation) ← grantLayout.unpack data
  if generation = 0 ∨ 2 < owner ∨ reserved ≠ 0 then none
  else
    let token ← decodeToken (textOf worker) (textOf operation) (owner = 1)
    if owner ≠ 1 ∧ (anySet worker ∨ anySet operation) then none
    else if owner ≠ 0 ∧ scene = 0 then none
    else return ⟨.ofNat generation.toNat, .ofNat scene.toNat, ownerOf owner, token⟩

/-! ## Settings -/

/-- `DecodeControllerBinding`. -/
def decodeControllerBinding (value : Int) : Option ControllerBinding :=
  if 2 ^ 13 ≤ value then none
  else some ⟨.ofNat (value % 2 ^ 6).toNat, .ofNat (value / 2 ^ 6 % 2 ^ 5).toNat,
    .ofNat (value / 2 ^ 11 % 2 ^ 2).toNat⟩

/-- The bindings from number `i` on; exactly the first `count` are not zero. -/
def decodeBindings (count : Int) (i : ℕ) : List Int → Option (List ControllerBinding)
  | [] => some []
  | value :: values => do
    if decide ((i : Int) < count) ≠ decide (value ≠ 0) then none
    else
      let binding ← decodeControllerBinding value
      let bindings ← decodeBindings count (i + 1) values
      return binding :: bindings

/-- `Settings`, the version and the number of its bindings before them. -/
def settingsLayout : Format (List Int × List Int × Int × List Int) :=
  .ints (List.replicate 8 4) ×ˢ .ints (List.replicate 4 4) ×ˢ .int 4 ×ˢ .ints (List.replicate 26 2)

/-- A flag of the settings. -/
def flag (flags : Int) (n : ℕ) : Bool := flags / 2 ^ n % 2 ≠ 0

/-- The settings of some fields, before they are validated. -/
def settingsOf (flags key1 key2 key3 key4 slot movement camera sensitivity threshold button : Int)
    (profile : ControllerProfile) : Settings Floating where
  enabled := flag flags 0
  keyboard := flag flags 1
  controller := flag flags 2
  drag := flag flags 3
  invertCameraX := flag flags 4
  invertCameraY := flag flags 5
  forward := .ofNat key1.toNat
  backward := .ofNat key2.toNat
  left := .ofNat key3.toNat
  right := .ofNat key4.toNat
  controllerSlot := .ofNat slot.toNat
  movementDeadZone := .unpack32 movement
  cameraDeadZone := .unpack32 camera
  cameraRadiansPerSecond := .unpack32 sensitivity
  dragThresholdPixels := .unpack32 threshold
  dragButton := .ofNat button.toNat
  controllerProfile := profile

/-- A profile of as many bindings as it holds. -/
def profileOf (bindings : List ControllerBinding) : Option ControllerProfile :=
  if h : bindings.length = 24 then some ⟨bindings.toArray, by simpa using h⟩ else none

/-- `Decode` of settings. -/
def decodeSettings (data : Bytes) : Option (Settings Floating) := do
  let (words, numbers, button, profile) ← settingsLayout.unpack data
  match words, numbers, profile with
  | [magic, version, flags, key1, key2, key3, key4, slot], [movement, camera, sensitivity, threshold],
      profileVersion :: count :: values =>
    if magic ≠ 0x57424D43 ∨ version ≠ 2 ∨ profileVersion ≠ 1 ∨ 24 < count ∨ 64 ≤ flags ∨
        255 < button then none
    else if [key1, key2, key3, key4].any (255 < ·) then none
    else
      let bindings ← decodeBindings count 0 values
      let profile ← profileOf bindings
      let next := settingsOf flags key1 key2 key3 key4 slot movement camera sensitivity threshold
        button profile
      if next.valid then return next else none
  | _, _, _ => none

/-! ## Commands -/

/-- `Command`. -/
def commandLayout : Format (Bytes × Int × Bytes × Bytes × Int × Int × Int × Bytes × Int × Bytes ×
    Bytes) :=
  .raw 16 ×ˢ .int 8 ×ˢ .raw 216 ×ˢ .raw 16 ×ˢ .int 4 ×ˢ .int 4 ×ˢ .int 4 ×ˢ .raw 104 ×ˢ .int 8 ×ˢ
    .raw 192 ×ˢ .raw 4

/-- The token that a command asks for. -/
def requestedToken (data : Bytes) : Option Token := do
  let (_, _, _, _, _, _, _, _, _, requested, _) ← commandLayout.unpack data
  decodeToken (textOf (requested.take 96)) (textOf (requested.drop 96)) true

/-- The checks of `Valid` that depend on the verb. -/
def validVerb (verb : Verb) (grant : Grant) (x y z revision : Int) (requested : Bytes) : Bool :=
  if verb = .acquire ∨ verb = .acquireCoordinate then
    (decodeToken (textOf (requested.take 96)) (textOf (requested.drop 96)) true).isSome
  else if anySet requested then false
  else
    match verb with
    | .continueParent => grant.owner = .automation ∧ revision ≤ 1
    | .destination => grant.owner = .automation ∧ (Floating.unpack32 x).isFinite ∧
        (Floating.unpack32 y).isFinite ∧ (Floating.unpack32 z).isFinite
    | .stop | .pause => grant.owner = .automation
    | .configure => revision ≠ 0
    | .acquire | .acquireCoordinate => false

/-- `Valid` of a command. -/
def valid (verb : Verb) (data : Bytes) : Bool :=
  match commandLayout.unpack data with
  | none => false
  | some (host, window, expected, request, x, y, z, settings, revision, requested, reserved) =>
    if ¬ validHost host ∨ window = 0 ∨ 0xFFFFFFFF < window then false
    else
      match decodeGrant expected with
      | none => false
      | some grant =>
        if ¬ anySet request ∨ (decodeSettings settings).isNone ∨ anySet reserved then false
        else validVerb verb grant x y z revision requested

end Wire

end ShadowbaneLab.Native.Movement
