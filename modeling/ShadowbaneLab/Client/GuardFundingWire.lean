/-
# Guard funding payloads

`src/shadowbane_lab/client_extension/guard_funding_wire.py`: withdrawals from a warehouse and
deposits to a structure, with the snapshot of the funding window and the receipts.
-/
import ShadowbaneLab.Client.VendorWire

namespace ShadowbaneLab.GuardFundingWire

open Foundation VendorWire
open MovementWire (Host requestBytes requestBytes_iff)

inductive Verb
  | inspect
  | transfer
  | openQuote
deriving DecidableEq

/-! ## Snapshots -/

structure Snapshot where
  scene : Int := 0
  revision : Int := 0
  root : Int := 0
  actor : Int := 0
  characterId : Int := 0
  characterType : Int := 0
  manager : Int := 0
  hud : Int := 0
  sourceObject : Int := 0
  sourceId : Int := 0
  sourceType : Int := 0
  direction : Int := 0
  resource : Int := 0
  balance : Int := 0
  reserve : Int := 0
  purse : Int := 0
  quote : Int := 0
  limit : Int := 0
  entered : Int := 0
  accept : Int := 0
  cancel : Int := 0
  helper : Int := 0
deriving DecidableEq

/-- `_SNAPSHOT`. -/
def snapshotLayout : Format (List Int) := .ints ([8, 8] ++ List.replicate 20 4)

variable {data : Bytes}

namespace Snapshot

variable (s : Snapshot)

def values : List Int :=
  [s.scene, s.revision, s.root, s.actor, s.characterId, s.characterType, s.manager, s.hud,
    s.sourceObject, s.sourceId, s.sourceType, s.direction, s.resource, s.balance, s.reserve,
    s.purse, s.quote, s.limit, s.entered, s.accept, s.cancel, s.helper]

/-- `cls(*values)`. -/
def ofValues : List Int → Option Snapshot
  | [scene, revision, root, actor, characterId, characterType, manager, hud, sourceObject, sourceId,
      sourceType, direction, resource, balance, reserve, purse, quote, limit, entered, accept,
      cancel, helper] =>
    some ⟨scene, revision, root, actor, characterId, characterType, manager, hud, sourceObject,
      sourceId, sourceType, direction, resource, balance, reserve, purse, quote, limit, entered,
      accept, cancel, helper⟩
  | _ => none

theorem ofValues_iff {values : List Int} {s : Snapshot} :
    ofValues values = some s ↔ s.values = values := by
  constructor
  · intro h
    unfold ofValues at h
    split at h
    · cases h
      rfl
    · cases h
  · rintro rfl
    rfl

def empty : Bool := s = {}

/-- `eligible`, of a snapshot and an amount that have passed their own checks. -/
def eligible (amount : Int) : Bool :=
  ¬ s.empty ∧ s.quote ≠ 0 ∧ 0 < amount ∧ amount ≤ s.limit ∧
    amount ≤ 2 ^ 31 - 1 - (if s.direction = 1 then s.purse else s.balance)

/-- `can_open`, of a snapshot that has passed its own checks. -/
def canOpen : Bool :=
  ¬ s.empty ∧ s.quote = 0 ∧
    if s.direction = 1 then s.balance > s.reserve ∧ s.purse < 2 ^ 31 - 1
    else s.purse ≠ 0 ∧ s.balance < 2 ^ 31 - 1

/-- The fields fit their widths. -/
def checked : Bool :=
  s.values.zipIdx.all fun (value, index) => (uint value (if index < 2 then 64 else 32)).isSome

/-- The contradictions that `encode` refuses: of ownership and balance, of the source, and of
the quote. -/
def invalid : Bool :=
  (s.scene = 0 ∨ s.revision = 0 ∨ s.root = 0 ∨ s.actor = 0 ∨ s.characterId = 0 ∨
      s.characterType = 0 ∨ s.manager = 0 ∨ s.hud = 0 ∨ s.sourceId = 0) ∨
    ¬ (s.direction = 1 ∨ s.direction = 2) ∨ max (max s.balance s.reserve) s.purse > 2 ^ 31 - 1 ∨
    (if s.direction = 1 then s.sourceObject = 0 ∨ s.sourceType ≠ 42 ∨ s.resource = 0
      else s.sourceObject ≠ 0 ∨ s.sourceType ≠ 8 ∨ s.resource ≠ 0 ∨ s.reserve ≠ 0) ∨
    if s.quote = 0 then
      s.limit ≠ 0 ∨ s.entered ≠ 0 ∨ s.accept ≠ 0 ∨ s.cancel ≠ 0 ∨ s.helper ≠ 0
    else
      s.quote = s.hud ∨ (s.accept = 0 ∨ s.cancel = 0 ∨ s.helper = 0) ∨
        (s.accept = s.cancel ∨ s.accept = s.helper ∨ s.cancel = s.helper) ∨
        s.limit > 2 ^ 31 - 1 ∨ s.entered > s.limit ∨
        s.limit ≠ if s.direction = 1 then max 0 (s.balance - s.reserve) else s.purse

def encode : Option Bytes :=
  if ¬ s.checked then none
  else if s.empty then some (zeros 96)
  else if s.invalid then none
  else snapshotLayout.pack s.values

def decode (data : Bytes) : Option Snapshot :=
  if data.length ≠ 96 then none
  else do
    let values ← snapshotLayout.unpack data
    let result ← ofValues values
    let _ ← result.encode
    return result

/-- An accepted snapshot is written field by field, the empty one as zeros. -/
theorem pack_of_encode {s : Snapshot} (h : s.encode = some data) :
    snapshotLayout.pack s.values = some data := by
  simp only [encode, Option.ite_none_left_eq_some] at h
  obtain ⟨-, h⟩ := h
  split at h
  case isTrue hempty =>
    have hs : s = {} := of_decide_eq_true hempty
    cases h
    rw [hs]
    decide
  case isFalse => exact (Option.ite_none_left_eq_some.1 h).2

theorem decode_iff {s : Snapshot} : decode data = some s ↔ s.encode = some data :=
  snapshotLayout.checked_decode_iff ofValues_iff pack_of_encode

def sameOwner (other : Snapshot) : Bool :=
  s.scene = other.scene ∧ s.root = other.root ∧ s.actor = other.actor ∧
    s.characterId = other.characterId ∧ s.characterType = other.characterType ∧
    s.manager = other.manager ∧ s.hud = other.hud ∧ s.sourceObject = other.sourceObject ∧
    s.sourceId = other.sourceId ∧ s.sourceType = other.sourceType ∧
    s.direction = other.direction ∧ s.resource = other.resource

end Snapshot

/-! ## Commands -/

structure Command where
  host : Host
  window : Int
  requestKey : String
  expected : Snapshot := {}
  direction : Int := 0
  amount : Int := 0
deriving DecidableEq

/-- `_COMMAND`. -/
def commandLayout : Format (Bytes × Int × Bytes × Bytes × Int × Int × Bytes) :=
  .raw 16 ×ˢ .int 8 ×ˢ .raw 16 ×ˢ .raw 96 ×ˢ .int 4 ×ˢ .int 4 ×ˢ .raw 432

namespace Command

/-- The checks of `encode` that depend on the verb. -/
def refuses (command : Command) : Verb → Bool
  | .inspect => ¬ command.expected.empty ∨ command.amount ≠ 0
  | .transfer =>
    command.direction ≠ command.expected.direction ∨ ¬ command.expected.eligible command.amount
  | .openQuote =>
    command.amount ≠ 0 ∨ command.direction ≠ command.expected.direction ∨
      ¬ command.expected.canOpen

def encode (command : Command) (verb : Verb) : Option Bytes := do
  let window ← uint command.window 32
  if window = 0 then none
  else
    let direction ← uint command.direction 32
    -- `Direction(self.direction)`
    if ¬ (direction = 1 ∨ direction = 2) then none
    else
      let _ ← uint command.amount 32
      let state ← command.expected.encode
      if command.refuses verb then none
      else
        let host ← command.host.encode
        let request ← requestBytes command.requestKey
        commandLayout.pack (host, command.window, request, state, command.direction,
          command.amount, zeros 432)

def decode (data : Bytes) (verb : Verb) : Option Command := do
  if data.length ≠ 576 then none
  else
    let (host, window, key, state, direction, amount, padding) ← commandLayout.unpack data
    if anySet padding then none
    else
      let host ← Host.decode host
      let expected ← Snapshot.decode state
      let result : Command := ⟨host, window, uuidText key, expected, direction, amount⟩
      if result.encode verb ≠ some data then none
      else return result

theorem decode_iff {command : Command} {verb : Verb} :
    decode data verb = some command ↔ command.encode verb = some data := by
  simp only [decode, Option.bind_eq_bind, Option.ite_none_left_eq_some, not_not,
    Option.bind_eq_some_iff, Prod.exists, Bool.not_eq_true]
  constructor
  · rintro ⟨-, _, _, _, _, _, _, _, -, -, _, -, _, -, hencode, h⟩
    cases h
    exact hencode
  · intro hencode
    obtain ⟨host, window, key, expected, direction, amount⟩ := command
    have h := hencode
    simp only [encode, Option.bind_eq_bind, Option.ite_none_left_eq_some,
      Option.bind_eq_some_iff] at h
    obtain ⟨_, -, -, _, -, -, _, -, _, hstate, -, _, hhost, _, hrequest, h⟩ := h
    obtain ⟨-, -, rfl⟩ := requestBytes_iff.1 hrequest
    exact ⟨commandLayout.length_pack h, _, _, _, _, _, _, _, commandLayout.pack_iff.1 h,
      anySet_zeros _, _, Host.decode_iff.2 hhost, _, Snapshot.decode_iff.2 hstate, hencode, rfl⟩

/-- The quote that the command asked for is open in the snapshot. -/
def opened (command : Command) (state : Snapshot) : Option Bool := do
  let _ ← command.encode .openQuote
  let _ ← state.encode
  let before := command.expected
  return ¬ state.empty ∧ before.sameOwner state ∧ state.quote ≠ 0 ∧
    state.balance = before.balance ∧ state.purse = before.purse ∧ state.reserve = before.reserve

/-- The transfer that the command asked for shows in both balances. -/
def confirmed (command : Command) (state : Snapshot) : Option Bool := do
  let _ ← command.encode .transfer
  let _ ← state.encode
  let before := command.expected
  if state.empty ∨ ¬ before.sameOwner state ∨ state.reserve ≠ before.reserve ∨ state.quote ≠ 0 then
    return false
  else
    let delta := if command.direction = 1 then -command.amount else command.amount
    return state.balance = before.balance + delta ∧ state.purse = before.purse - delta

end Command

/-! ## Receipts -/

/-- `_RECEIPT` and its checks: readiness needs a snapshot and nothing in flight. -/
def receiptCodec : ReceiptCodec Snapshot where
  magic := 0x57424631
  flagMask := 7
  snapshotSize := 96
  paddingSize := 220
  encodeSnapshot := Snapshot.encode
  decodeSnapshot := Snapshot.decode
  decodeSnapshot_iff := Snapshot.decode_iff
  refuses flags snapshot _ :=
    hasFlag flags ready ∧ (hasFlag flags (inFlight + unresolved) ∨ snapshot.empty)

abbrev Receipt : Type := SnapshotReceipt Snapshot

end ShadowbaneLab.GuardFundingWire
