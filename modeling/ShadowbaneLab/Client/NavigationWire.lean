/-
# Building and hireling window payloads

`src/shadowbane_lab/client_extension/vendor_navigation_wire.py`: the snapshot of the game's
management windows, the commands that open one of them, and their receipts.
-/
import ShadowbaneLab.Client.VendorWire

namespace ShadowbaneLab.NavigationWire

open Foundation VendorWire
open MovementWire (Host requestBytes requestBytes_iff)

inductive Verb
  | inspect
  | building
  | vendor
  | guard
  | warehouse
deriving DecidableEq

/-! ## Snapshots -/

structure Snapshot where
  scene : Int := 0
  revision : Int := 0
  root : Int := 0
  manager : Int := 0
  frontHud : Int := 0
  mode : Int := 0
  buildingHud : Int := 0
  vendorHud : Int := 0
  selectedEntry : Int := 0
  visible : Int := 0
  buildingId : Int := 0
  buildingType : Int := 0
  vendorId : Int := 0
  vendorType : Int := 0
  initialized : Int := 0
  capacity : Int := 0
  occupied : Int := 0
  offline : Int := 0
  warehouseHud : Int := 0
  warehouseObject : Int := 0
  warehouseId : Int := 0
  warehouseType : Int := 0
deriving DecidableEq

/-- `_SNAPSHOT`. -/
def snapshotLayout : Format (List Int) := .ints ([8, 8] ++ List.replicate 20 4)

variable {data : Bytes}

namespace Snapshot

variable (s : Snapshot)

/-- `[getattr(self, field.name) for field in fields(self)]`. -/
def values : List Int :=
  [s.scene, s.revision, s.root, s.manager, s.frontHud, s.mode, s.buildingHud, s.vendorHud,
    s.selectedEntry, s.visible, s.buildingId, s.buildingType, s.vendorId, s.vendorType,
    s.initialized, s.capacity, s.occupied, s.offline, s.warehouseHud, s.warehouseObject,
    s.warehouseId, s.warehouseType]

/-- `cls(*values)`. -/
def ofValues : List Int → Option Snapshot
  | [scene, revision, root, manager, frontHud, mode, buildingHud, vendorHud, selectedEntry, visible,
      buildingId, buildingType, vendorId, vendorType, initialized, capacity, occupied, offline,
      warehouseHud, warehouseObject, warehouseId, warehouseType] =>
    some ⟨scene, revision, root, manager, frontHud, mode, buildingHud, vendorHud, selectedEntry,
      visible, buildingId, buildingType, vendorId, vendorType, initialized, capacity, occupied,
      offline, warehouseHud, warehouseObject, warehouseId, warehouseType⟩
  | _ => none

theorem ofValues_iff {values : List Int} {s : Snapshot} :
    ofValues values = some s ↔ s.values = values := by
  constructor
  · intro h
    unfold ofValues at h
    split at h
    · cases h
      rfl
    · cases h
  · rintro rfl
    rfl

def empty : Bool := s = {}

def ownsBuilding (buildingId : Int) : Bool :=
  s.offline = 0 ∧ s.buildingId = buildingId ∧ s.buildingType = 8 ∧ hasFlag s.visible 1

/-- `opened`; `hirelingType` is 37 for a guard and 42 otherwise. -/
def opened (buildingId vendorId hirelingType : Int) : Bool :=
  s.offline = 0 ∧ s.buildingId = buildingId ∧ s.buildingType = 8 ∧
    if vendorId ≠ 0 then
      hasFlag s.visible 2 ∧ s.frontHud = s.vendorHud ∧ s.vendorId = vendorId ∧
        s.vendorType = hirelingType ∧ (hirelingType = 37 ∨ hirelingType = 42)
    else hasFlag s.visible 1 ∧ s.frontHud = s.buildingHud

def warehouseOpened (buildingId sourceId : Int) : Bool :=
  s.offline = 0 ∧ s.buildingId = buildingId ∧ s.buildingType = 8 ∧
    s.frontHud = s.warehouseHud ∧ s.warehouseHud ≠ 0 ∧ s.warehouseObject ≠ 0 ∧
    s.warehouseId = sourceId ∧ sourceId ≠ 0 ∧ s.warehouseType = 42

/-- The fields fit their widths. -/
def checked : Bool :=
  s.values.zipIdx.all fun (value, index) => (uint value (if index < 2 then 64 else 32)).isSome

/-- The contradictions that `encode` refuses. -/
def invalid : Bool :=
  (s.scene = 0 ∨ s.revision = 0 ∨ s.root = 0 ∨ s.manager = 0) ∨
    s.mode > 64 ∨ s.visible > 3 ∨ s.initialized > 1 ∨ s.offline > 1 ∨
    ¬ (0 ≤ s.occupied ∧ s.occupied ≤ s.capacity ∧ s.capacity ≤ 128) ∨
    ((s.buildingId, s.buildingType) ≠ (0, 0) ∧ ¬ (s.buildingId ≠ 0 ∧ s.buildingType = 8)) ∨
    ((s.vendorId, s.vendorType) ≠ (0, 0) ∧
      ¬ (s.vendorId ≠ 0 ∧ (s.vendorType = 37 ∨ s.vendorType = 42))) ∨
    (s.vendorId ≠ 0 ∧ s.selectedEntry = 0) ∨
    ((s.warehouseHud ≠ 0 ∨ s.warehouseObject ≠ 0 ∨ s.warehouseId ≠ 0 ∨ s.warehouseType ≠ 0) ∧
      ¬ (s.warehouseHud ≠ 0 ∧ s.warehouseObject ≠ 0 ∧ s.warehouseId ≠ 0 ∧ s.warehouseType = 42)) ∨
    (hasFlag s.visible 1 ∧
      ¬ (s.buildingHud ≠ 0 ∧ s.initialized ≠ 0 ∧ (s.mode = 0 ∨ s.mode = 6) ∧ s.buildingId ≠ 0)) ∨
    (hasFlag s.visible 2 ∧
      ¬ (s.vendorHud ≠ 0 ∧ s.selectedEntry ≠ 0 ∧ s.vendorId ≠ 0 ∧ s.buildingId ≠ 0))

def encode : Option Bytes :=
  if ¬ s.checked then none
  else if s.empty then some (zeros 96)
  else if s.invalid then none
  else snapshotLayout.pack s.values

def decode (data : Bytes) : Option Snapshot :=
  if data.length ≠ 96 then none
  else do
    let values ← snapshotLayout.unpack data
    let result ← ofValues values
    let _ ← result.encode
    return result

/-- An accepted snapshot is written field by field, the empty one as zeros. -/
theorem pack_of_encode {s : Snapshot} (h : s.encode = some data) :
    snapshotLayout.pack s.values = some data := by
  simp only [encode, Option.ite_none_left_eq_some] at h
  obtain ⟨-, h⟩ := h
  split at h
  case isTrue hempty =>
    have hs : s = {} := of_decide_eq_true hempty
    cases h
    rw [hs]
    decide
  case isFalse => exact (Option.ite_none_left_eq_some.1 h).2

theorem decode_iff {s : Snapshot} : decode data = some s ↔ s.encode = some data :=
  snapshotLayout.checked_decode_iff ofValues_iff pack_of_encode

end Snapshot

/-! ## Commands -/

structure Command where
  host : Host
  window : Int
  requestKey : String
  expected : Snapshot := {}
  buildingId : Int := 0
  vendorId : Int := 0
deriving DecidableEq

/-- `_COMMAND`. -/
def commandLayout : Format (Bytes × Int × Bytes × Bytes × Int × Int × Int × Int × Bytes) :=
  .raw 16 ×ˢ .int 8 ×ˢ .raw 16 ×ˢ .raw 96 ×ˢ .int 4 ×ˢ .int 4 ×ˢ .int 4 ×ˢ .int 4 ×ˢ .raw 424

namespace Command

/-- The checks of `encode` that depend on the verb. -/
def refuses (command : Command) (verb : Verb) : Bool :=
  if verb = .inspect then
    ¬ command.expected.empty ∨ command.buildingId ≠ 0 ∨ command.vendorId ≠ 0
  else if command.expected.empty ∨ command.expected.offline ≠ 0 ∨ command.buildingId = 0 then true
  else if verb = .building ∧ command.vendorId ≠ 0 then true
  else
    (verb = .vendor ∨ verb = .guard ∨ verb = .warehouse) ∧
      (command.vendorId = 0 ∨ ¬ command.expected.ownsBuilding command.buildingId)

def encode (command : Command) (verb : Verb) : Option Bytes := do
  let window ← uint command.window 32
  if window = 0 then none
  else
    let _ ← uint command.buildingId 32
    let _ ← uint command.vendorId 32
    if command.refuses verb then none
    else
      let host ← command.host.encode
      let request ← requestBytes command.requestKey
      let state ← command.expected.encode
      commandLayout.pack (host, command.window, request, state, command.buildingId,
        if command.buildingId ≠ 0 then 8 else 0, command.vendorId,
        if command.vendorId ≠ 0 then (if verb = .guard then 37 else 42) else 0, zeros 424)

def decode (data : Bytes) (verb : Verb) : Option Command := do
  if data.length ≠ 576 then none
  else
    let (host, window, key, state, building, _, target, _, padding) ← commandLayout.unpack data
    if anySet padding then none
    else
      let host ← Host.decode host
      let expected ← Snapshot.decode state
      let result : Command := ⟨host, window, uuidText key, expected, building, target⟩
      if result.encode verb ≠ some data then none
      else return result

theorem decode_iff {command : Command} {verb : Verb} :
    decode data verb = some command ↔ command.encode verb = some data := by
  simp only [decode, Option.bind_eq_bind, Option.ite_none_left_eq_some, not_not,
    Option.bind_eq_some_iff, Prod.exists, Bool.not_eq_true]
  constructor
  · rintro ⟨-, _, _, _, _, _, _, _, _, _, -, -, _, -, _, -, hencode, h⟩
    cases h
    exact hencode
  · intro hencode
    obtain ⟨host, window, key, expected, building, vendor⟩ := command
    have h := hencode
    simp only [encode, Option.bind_eq_bind, Option.ite_none_left_eq_some,
      Option.bind_eq_some_iff] at h
    obtain ⟨_, -, -, _, -, _, -, -, _, hhost, _, hrequest, _, hstate, h⟩ := h
    obtain ⟨-, -, rfl⟩ := requestBytes_iff.1 hrequest
    exact ⟨commandLayout.length_pack h, _, _, _, _, _, _, _, _, _, commandLayout.pack_iff.1 h,
      anySet_zeros _, _, Host.decode_iff.2 hhost, _, Snapshot.decode_iff.2 hstate, hencode, rfl⟩

/-- The window that the command asked for is open in the snapshot. -/
def opened (command : Command) (verb : Verb) (state : Snapshot) : Option Bool := do
  let _ ← command.encode verb
  let _ ← state.encode
  let before := command.expected
  if state.empty ∨
      (state.scene, state.root, state.manager) ≠ (before.scene, before.root, before.manager) then
    return false
  else if verb = .warehouse then
    return state.warehouseOpened command.buildingId command.vendorId
  else
    return (verb = .building ∨ verb = .guard ∨ verb = .vendor) ∧
      state.opened command.buildingId command.vendorId (if verb = .guard then 37 else 42)

end Command

/-! ## Receipts -/

/-- `_RECEIPT` and its checks: readiness needs an online snapshot and nothing in flight. -/
def receiptCodec : ReceiptCodec Snapshot where
  magic := 0x57424E33
  flagMask := 7
  snapshotSize := 96
  paddingSize := 220
  encodeSnapshot := Snapshot.encode
  decodeSnapshot := Snapshot.decode
  decodeSnapshot_iff := Snapshot.decode_iff
  refuses flags snapshot _ :=
    hasFlag flags ready ∧
      (hasFlag flags (inFlight + unresolved) ∨ snapshot.empty ∨ snapshot.offline ≠ 0)

abbrev Receipt : Type := SnapshotReceipt Snapshot

end ShadowbaneLab.NavigationWire
