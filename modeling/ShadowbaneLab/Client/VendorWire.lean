/-
# Vendor payloads

`src/shadowbane_lab/client_extension/vendor_wire.py`: what the vendor, guard and navigation
payloads share, the outcomes of a native command and checked unsigned fields.
-/
import ShadowbaneLab.Client.MovementWire

namespace ShadowbaneLab

open Foundation

namespace VendorWire

open MovementWire (Host requestBytes requestBytes_iff requestBytes_uuidText)

inductive Outcome
  | observed
  | submitted
  | stale
  | unavailable
  | invalid
  | pending
  | uncertain
  | exhausted
deriving DecidableEq

instance : IntEnum Outcome where
  members := [.observed, .submitted, .stale, .unavailable, .invalid, .pending, .uncertain,
    .exhausted]
  value
    | .observed => 0
    | .submitted => 1
    | .stale => 2
    | .unavailable => 3
    | .invalid => 4
    | .pending => 5
    | .uncertain => 6
    | .exhausted => 7
  mem_members := by rintro ⟨⟩ <;> decide
  value_injective := by rintro ⟨⟩ ⟨⟩ <;> simp

/-- `uint`: an unsigned field of some bits. -/
def uint (value : Int) (bits : ℕ) : Option Int :=
  if 0 ≤ value ∧ value < 2 ^ bits then some value else none

/-- A field read from as many bytes passes the check. -/
theorem uint_of_holds {value : Int} {width : ℕ} (hvalue : 0 ≤ value ∧ value < 256 ^ width) :
    uint value (8 * width) = some value := by
  rw [uint, if_pos]
  rwa [pow_mul]

/-- `READY`. -/
def ready : Int := 1

/-- `IN_FLIGHT`. -/
def inFlight : Int := 2

/-- `UNRESOLVED`. -/
def unresolved : Int := 4

/-! ## Optional requests -/

/-- `request_bytes(value) if value else bytes(16)`. -/
def requestOrZeros : Option String → Option Bytes
  | none => some (zeros 16)
  | some value => if value = "" then some (zeros 16) else requestBytes value

/-- `str(uuid.UUID(bytes=data)) if any(data) else None`. -/
def decodedRequest (data : Bytes) : Option String :=
  if anySet data then some (uuidText data) else none

theorem requestBytes_of_anySet {data : Bytes} (hlength : data.length = 16)
    (hset : anySet data = true) : requestBytes (uuidText data) = some data :=
  requestBytes_iff.2 ⟨hlength, hset, rfl⟩

theorem requestOrZeros_decodedRequest {data : Bytes} (hlength : data.length = 16) :
    requestOrZeros (decodedRequest data) = some data := by
  rw [decodedRequest]
  split
  case isTrue hset =>
    have hwritten := requestBytes_of_anySet hlength hset
    have hne : uuidText data ≠ "" := by
      intro h
      rw [h] at hwritten
      cases hwritten
    rw [requestOrZeros, if_neg hne, hwritten]
  case isFalse hset =>
    rw [requestOrZeros, eq_zeros_of_anySet (Bool.eq_false_of_not_eq_true hset) hlength]

/-! ## Receipts -/

/-- The receipt of a window, guard or funding command, with the snapshot its channel takes. -/
structure SnapshotReceipt (Snapshot : Type) where
  requestKey : String
  host : Host
  window : Int
  outcome : Outcome
  flags : Int
  snapshot : Snapshot
  transitionRequest : Option String := none
deriving DecidableEq

/-- What the receipts of one channel fill in: `_RECEIPT` with its sizes, the magic number, the
known flags, the snapshots, and the contradictions that `decode` refuses. -/
structure ReceiptCodec (Snapshot : Type) where
  magic : Int
  flagMask : Int
  snapshotSize : ℕ
  paddingSize : ℕ
  encodeSnapshot : Snapshot → Option Bytes
  decodeSnapshot : Bytes → Option Snapshot
  decodeSnapshot_iff : ∀ {s data}, decodeSnapshot data = some s ↔ encodeSnapshot s = some data
  refuses : (flags : Int) → Snapshot → (transition : Bytes) → Bool

namespace ReceiptCodec

variable {Snapshot : Type} (codec : ReceiptCodec Snapshot)

/-- `_RECEIPT`. -/
def layout : Format (Bytes × Bytes × Int × Int × Int × Bytes × Bytes × Int × Bytes) :=
  .raw 16 ×ˢ .raw 16 ×ˢ .int 8 ×ˢ .int 4 ×ˢ .int 4 ×ˢ .raw codec.snapshotSize ×ˢ .raw 16 ×ˢ
    .int 4 ×ˢ .raw codec.paddingSize

def decode (data : Bytes) : Option (SnapshotReceipt Snapshot) := do
  if data.length ≠ 384 then none
  else
    let (key, host, window, outcome, flags, state, transition, magic, padding) ←
      codec.layout.unpack data
    if magic ≠ codec.magic ∨ hasOther flags codec.flagMask ∨ anySet padding ∨
        ¬ (0 < window ∧ window < 2 ^ 32) then none
    else
      let request := uuidText key
      let _ ← requestBytes request
      let snapshot ← codec.decodeSnapshot state
      if codec.refuses flags snapshot transition then none
      else
        let host ← Host.decode host
        let outcome ← IntEnum.ofValue outcome
        return ⟨request, host, window, outcome, flags, snapshot, decodedRequest transition⟩

/-- The record that `encode` packs. -/
def raw (receipt : SnapshotReceipt Snapshot) : Option Bytes := do
  let request ← requestBytes receipt.requestKey
  let host ← receipt.host.encode
  let state ← codec.encodeSnapshot receipt.snapshot
  let transition ← requestOrZeros receipt.transitionRequest
  codec.layout.pack (request, host, receipt.window, IntEnum.value receipt.outcome,
    receipt.flags, state, transition, codec.magic, zeros codec.paddingSize)

def encode [DecidableEq Snapshot] (receipt : SnapshotReceipt Snapshot) : Option Bytes := do
  let raw ← codec.raw receipt
  if codec.decode raw ≠ some receipt then none
  else return raw

variable {codec} {receipt : SnapshotReceipt Snapshot} {data : Bytes}

theorem raw_of_decode (h : codec.decode data = some receipt) : codec.raw receipt = some data := by
  simp only [decode, Option.bind_eq_bind, Option.ite_none_left_eq_some, not_not,
    Option.bind_eq_some_iff, Prod.exists, not_or, Bool.not_eq_true] at h
  obtain ⟨-, key, host, window, outcome, flags, state, transition, _, padding, hunpack,
    ⟨rfl, -, hpadding, -⟩, request, hrequest, snapshot, hstate, -, host', hhost, outcome',
    houtcome, h⟩ := h
  cases h
  have hholds := Format.holds_of_unpack hunpack
  simp only [layout, Format.holds_pair, Format.holds_raw] at hholds
  obtain ⟨hkey, -, -, -, -, -, htransition, -, hlength⟩ := hholds
  obtain rfl := requestBytes_uuidText hkey hrequest
  obtain rfl := IntEnum.ofValue_iff.1 houtcome
  rw [eq_zeros_of_anySet hpadding hlength] at hunpack
  simp only [raw, hrequest, Host.decode_iff.1 hhost, codec.decodeSnapshot_iff.1 hstate,
    requestOrZeros_decodedRequest htransition, codec.layout.pack_iff.2 hunpack,
    Option.bind_eq_bind, Option.bind_some]

/-- A receipt is decoded again before its bytes are returned. -/
theorem decode_iff [DecidableEq Snapshot] :
    codec.decode data = some receipt ↔ codec.encode receipt = some data := by
  rw [encode, Option.bind_eq_bind, Option.bind_eq_some_iff]
  constructor
  · intro h
    refine ⟨data, raw_of_decode h, ?_⟩
    rw [if_neg (not_not.2 h), Option.pure_def]
  · rintro ⟨raw, -, h⟩
    obtain ⟨hdecode, h⟩ := Option.ite_none_left_eq_some.1 h
    cases h
    exact not_not.1 hdecode

end ReceiptCodec

/-! ## Vendor windows -/

/-- The name of an outcome in lower case. -/
def Outcome.lowerName : Outcome → String
  | .observed => "observed"
  | .submitted => "submitted"
  | .stale => "stale"
  | .unavailable => "unavailable"
  | .invalid => "invalid"
  | .pending => "pending"
  | .uncertain => "uncertain"
  | .exhausted => "exhausted"

/-- `uint` of some values under one label, or the message of its error. -/
def checkUints (values : List Int) (bits : ℕ) (label : String) : Except String Unit :=
  if values.all fun value => (uint value bits).isSome then .ok ⟨⟩
  else .error (label ++ " must be uint" ++ toString bits)

/-- `struct.pack`; its fields were checked before. -/
def packFields (widths : List ℕ) (values : List Int) : Except String Bytes :=
  match (Format.ints widths).pack values with
  | some data => .ok data
  | none => .error "argument out of range"

structure Slot where
  entry : Int
  item : Int := 0
  state : Int := 0
deriving DecidableEq

def Slot.encode (s : Slot) : Except String Bytes := do
  checkUints [s.entry, s.item, s.state] 32 "slot field"
  if s.entry = 0 ∨ s.state > 2 ∨ ¬ (s.state = 0 ↔ s.item = 0) then .error "invalid vendor slot"
  else packFields [4, 4, 4] [s.entry, s.item, s.state]

structure Snapshot where
  scene : Int := 0
  revision : Int := 0
  root : Int := 0
  manager : Int := 0
  menu : Int := 0
  recipe : Int := 0
  inventory : Int := 0
  hireling : Int := 0
  building : Int := 0
  vendor : Int := 0
  itemTemplate : Int := 0
  itemPrefix : Int := 0
  itemSuffix : Int := 0
  mode : Int := 0
  table : Int := 0
  quantity : Int := 0
  multiple : Int := 0
  slots : List Slot := []
deriving DecidableEq

/-- The sentinel of a random prefix or suffix. -/
def randomSentinel : Int := 3362971591

namespace Snapshot

variable (s : Snapshot)

def empty : Bool := s = {}

def freeSlots : ℕ := s.slots.countP (·.state = 0)

def randomScepter : Bool :=
  s.recipe ≠ 0 ∧ s.itemTemplate = 26990 ∧ s.itemPrefix = randomSentinel ∧
    s.itemSuffix = randomSentinel ∧ s.mode = 1 ∧ s.table = 12 ∧ s.quantity = 1 ∧
    (s.multiple = 0 ∨ s.multiple = 1)

/-- The fields of a snapshot before its slots. -/
def values : List Int :=
  [s.scene, s.revision, s.root, s.manager, s.menu, s.recipe, s.inventory, s.hireling, s.building,
    s.vendor, s.itemTemplate, s.itemPrefix, s.itemSuffix, s.mode, s.table, s.quantity, s.multiple]

def encode : Except String Bytes := do
  checkUints [s.scene, s.revision] 64 "snapshot field"
  checkUints (s.values.drop 2) 32 "snapshot field"
  let items := (s.slots.map Slot.item).filter (· ≠ 0)
  if s.empty then .ok (zeros 288)
  else if (s.scene = 0 ∨ s.revision = 0 ∨ s.root = 0 ∨ s.manager = 0 ∨ s.menu = 0 ∨
      s.hireling = 0 ∨ s.building = 0 ∨ s.vendor = 0) ∨
      ¬ (1 ≤ s.slots.length ∧ s.slots.length ≤ 16) ∨ ¬ (s.slots.map Slot.entry).Nodup ∨
      ¬ items.Nodup then .error "invalid vendor snapshot"
  else
    let header ← packFields ([8, 8] ++ List.replicate 16 4) (s.values ++ [(s.slots.length : Int)])
    let slots ← s.slots.mapM Slot.encode
    return header ++ slots.flatten ++ zeros ((16 - s.slots.length) * 12 + 16)

end Snapshot

structure Receipt where
  requestKey : String
  host : Host
  window : Int
  outcome : Outcome
  flags : Int
  snapshot : Snapshot
  transitionItem : Int := 0
  transitionRequest : Option String := none
deriving DecidableEq

end VendorWire

end ShadowbaneLab
