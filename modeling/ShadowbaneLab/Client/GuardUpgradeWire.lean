/-
# Guard upgrade payloads

`src/shadowbane_lab/client_extension/guard_upgrade_wire.py`: the guard page as a navigation
snapshot with the upgrade's fields, the upgrade command and its receipts.
-/
import ShadowbaneLab.Client.NavigationWire

namespace ShadowbaneLab.GuardUpgradeWire

open Foundation VendorWire
open MovementWire (Host requestBytes requestBytes_iff)

/-- `REOPENED`; the other flags are those of the navigation receipts. -/
def reopened : Int := 8

inductive Verb
  | inspect
  | upgrade
deriving DecidableEq

/-! ## Snapshots -/

structure Snapshot where
  navigation : NavigationWire.Snapshot := {}
  rank : Int := 0
  cost : Int := 0
  funds : Int := 0
  upgrading : Int := 0
  canUpgrade : Int := 0
  controlFlags : Int := 0
  upgradeControl : Int := 0
  progressControl : Int := 0
deriving DecidableEq

/-- `_FIELDS`. -/
def fieldsLayout : Format (List Int) := .ints (List.replicate 8 4)

/-- The navigation snapshot and the fields after it. -/
def snapshotLayout : Format (Bytes × List Int) := .raw 96 ×ˢ fieldsLayout

variable {data : Bytes}

namespace Snapshot

variable (s : Snapshot)

def values : List Int :=
  [s.rank, s.cost, s.funds, s.upgrading, s.canUpgrade, s.controlFlags, s.upgradeControl,
    s.progressControl]

/-- `cls(navigation, *values)`. -/
def ofValues (navigation : NavigationWire.Snapshot) : List Int → Option Snapshot
  | [rank, cost, funds, upgrading, canUpgrade, controlFlags, upgradeControl, progressControl] =>
    some ⟨navigation, rank, cost, funds, upgrading, canUpgrade, controlFlags, upgradeControl,
      progressControl⟩
  | _ => none

theorem ofValues_iff {navigation : NavigationWire.Snapshot} {values : List Int} {s : Snapshot} :
    ofValues navigation values = some s ↔ s.navigation = navigation ∧ s.values = values := by
  constructor
  · intro h
    unfold ofValues at h
    split at h
    · cases h
      exact ⟨rfl, rfl⟩
    · cases h
  · rintro ⟨rfl, rfl⟩
    rfl

def empty : Bool := s = {}

def eligible : Bool :=
  ¬ s.empty ∧ s.upgrading = 0 ∧ s.canUpgrade ≠ 0 ∧ s.cost > 0 ∧ s.funds ≥ s.cost ∧
    s.controlFlags = 3

/-- The contradictions that `encode` refuses. -/
def invalid : Bool :=
  s.navigation.empty ∨ s.navigation.offline ≠ 0 ∨ s.navigation.visible ≠ 3 ∨
    s.navigation.vendorType ≠ 37 ∨ ¬ (0 < s.rank ∧ s.rank < 2 ^ 32 - 1) ∨
    s.cost > 2 ^ 31 - 1 ∨ s.funds > 2 ^ 31 - 1 ∨ s.upgrading > 1 ∨ s.canUpgrade > 1 ∨
    s.controlFlags > 7 ∨ s.upgradeControl = 0 ∨ s.progressControl = 0 ∨
    s.upgradeControl = s.progressControl

def encode : Option Bytes := do
  if ¬ s.values.all fun value => (uint value 32).isSome then none
  else
    let navigation ← s.navigation.encode
    if s.empty then return zeros 128
    else if s.invalid then none
    else snapshotLayout.pack (navigation, s.values)

def decode (data : Bytes) : Option Snapshot :=
  if data.length ≠ 128 then none
  else do
    let (navigation, values) ← snapshotLayout.unpack data
    let navigation ← NavigationWire.Snapshot.decode navigation
    let result ← ofValues navigation values
    let _ ← result.encode
    return result

/-- An accepted snapshot is written part by part, the empty one as zeros. -/
theorem pack_of_encode {s : Snapshot} (h : s.encode = some data) :
    ∃ navigation, s.navigation.encode = some navigation ∧
      snapshotLayout.pack (navigation, s.values) = some data := by
  simp only [encode, Option.bind_eq_bind, Option.ite_none_left_eq_some,
    Option.bind_eq_some_iff] at h
  obtain ⟨-, navigation, hnavigation, h⟩ := h
  refine ⟨navigation, hnavigation, ?_⟩
  split at h
  case isTrue hempty =>
    have hs : s = {} := of_decide_eq_true hempty
    subst hs
    cases h
    cases hnavigation
    decide
  case isFalse => exact (Option.ite_none_left_eq_some.1 h).2

theorem decode_iff {s : Snapshot} : decode data = some s ↔ s.encode = some data := by
  simp only [decode, Option.bind_eq_bind, Option.ite_none_left_eq_some, not_not,
    Option.bind_eq_some_iff, Prod.exists]
  constructor
  · rintro ⟨-, navigation, values, hunpack, navigation', hnavigation, result, hresult, again,
      hagain, h⟩
    cases h
    obtain ⟨rfl, rfl⟩ := ofValues_iff.1 hresult
    obtain ⟨written, hwritten, hpack⟩ := pack_of_encode hagain
    rw [NavigationWire.Snapshot.decode_iff.1 hnavigation, Option.some.injEq] at hwritten
    subst hwritten
    rw [hagain, ← hpack, snapshotLayout.pack_iff.2 hunpack]
  · intro h
    obtain ⟨navigation, hnavigation, hpack⟩ := pack_of_encode h
    exact ⟨snapshotLayout.length_pack hpack, _, _, snapshotLayout.pack_iff.1 hpack, _,
      NavigationWire.Snapshot.decode_iff.2 hnavigation, s, ofValues_iff.2 ⟨rfl, rfl⟩, data, h, rfl⟩

end Snapshot

/-! ## Commands -/

structure Command where
  host : Host
  window : Int
  requestKey : String
  expected : Snapshot := {}
deriving DecidableEq

/-- `_COMMAND`. -/
def commandLayout : Format (Bytes × Int × Bytes × Bytes × Bytes) :=
  .raw 16 ×ˢ .int 8 ×ˢ .raw 16 ×ˢ .raw 128 ×ˢ .raw 408

namespace Command

def encode (command : Command) (verb : Verb) : Option Bytes := do
  let window ← uint command.window 32
  if window = 0 then none
  else
    let state ← command.expected.encode
    if (verb = .inspect ∧ ¬ command.expected.empty) ∨
        (verb = .upgrade ∧ ¬ command.expected.eligible) then none
    else
      let host ← command.host.encode
      let request ← requestBytes command.requestKey
      commandLayout.pack (host, command.window, request, state, zeros 408)

def decode (data : Bytes) (verb : Verb) : Option Command := do
  if data.length ≠ 576 then none
  else
    let (host, window, request, state, padding) ← commandLayout.unpack data
    if anySet padding then none
    else
      let host ← Host.decode host
      let expected ← Snapshot.decode state
      let result : Command := ⟨host, window, uuidText request, expected⟩
      if result.encode verb ≠ some data then none
      else return result

theorem decode_iff {command : Command} {verb : Verb} :
    decode data verb = some command ↔ command.encode verb = some data := by
  simp only [decode, Option.bind_eq_bind, Option.ite_none_left_eq_some, not_not,
    Option.bind_eq_some_iff, Prod.exists, Bool.not_eq_true]
  constructor
  · rintro ⟨-, _, _, _, _, _, -, -, _, -, _, -, hencode, h⟩
    cases h
    exact hencode
  · intro hencode
    obtain ⟨host, window, key, expected⟩ := command
    have h := hencode
    simp only [encode, Option.bind_eq_bind, Option.ite_none_left_eq_some,
      Option.bind_eq_some_iff] at h
    obtain ⟨_, -, -, _, hstate, -, _, hhost, _, hrequest, h⟩ := h
    obtain ⟨-, -, rfl⟩ := requestBytes_iff.1 hrequest
    exact ⟨commandLayout.length_pack h, _, _, _, _, _, commandLayout.pack_iff.1 h,
      anySet_zeros _, _, Host.decode_iff.2 hhost, _, Snapshot.decode_iff.2 hstate, hencode, rfl⟩

end Command

/-! ## Receipts -/

/-- `_RECEIPT` and its checks: a reopened page names its transaction, and readiness needs a
snapshot and nothing in flight. -/
def receiptCodec : ReceiptCodec Snapshot where
  magic := 0x57424733
  flagMask := 15
  snapshotSize := 128
  paddingSize := 188
  encodeSnapshot := Snapshot.encode
  decodeSnapshot := Snapshot.decode
  decodeSnapshot_iff := Snapshot.decode_iff
  refuses flags snapshot transition :=
    (hasFlag flags reopened ∧ ¬ anySet transition) ∨
      (hasFlag flags ready ∧ (hasFlag flags (inFlight + unresolved) ∨ snapshot.empty))

abbrev Receipt : Type := SnapshotReceipt Snapshot

end ShadowbaneLab.GuardUpgradeWire
