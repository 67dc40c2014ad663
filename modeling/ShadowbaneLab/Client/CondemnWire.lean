/-
# Condemn payloads

`src/shadowbane_lab/client_extension/condemn_wire.py`: the scoped target, the snapshot of the
building's list, the commands and the receipts, and `key` of `condemn_evidence.py`.
-/
import ShadowbaneLab.Client.VendorWire

namespace ShadowbaneLab.CondemnWire

open Foundation VendorWire Option
open MovementWire (Host requestBytes requestBytes_iff requestBytes_uuidText)

/-! ## Keys and targets -/

/-- An object of the game: its number and its type. -/
abbrev Key : Type := Int × Int

/-- `key(value, kind=kind, empty=empty)` accepts the value. -/
def IsKey (kind : Option Int) (empty : Bool) (value : Key) : Prop :=
  ((0 ≤ value.1 ∧ value.1 ≤ 2 ^ 32 - 1) ∧ 0 ≤ value.2 ∧ value.2 ≤ 2 ^ 32 - 1) ∧
    ((empty = true ∧ value = (0, 0)) ∨
      (value.1 ≠ 0 ∧ value.2 ≠ 0) ∧ (kind = none ∨ kind = some value.2))

instance (kind : Option Int) (empty : Bool) (value : Key) : Decidable (IsKey kind empty value) :=
  inferInstanceAs (Decidable (_ ∧ _))

/-- A building and an identity to condemn, in the scope of a guild (4) or a nation (5). -/
structure Target where
  building : Key
  identity : Key
  scope : Int
  building_key : IsKey (some 8) false building
  identity_key : IsKey (some 23) false identity
  scope_ok : scope = 4 ∨ scope = 5

/-- `_TARGET`. -/
def targetLayout : Format (List Int) := .ints (List.replicate 5 4)

variable {data : Bytes}

namespace Target

@[ext] theorem ext {a b : Target} (hbuilding : a.building = b.building)
    (hidentity : a.identity = b.identity) (hscope : a.scope = b.scope) : a = b := by
  obtain ⟨⟩ := a
  obtain ⟨⟩ := b
  cases hbuilding
  cases hidentity
  cases hscope
  rfl

instance : DecidableEq Target := fun a b =>
  decidable_of_iff (a.building = b.building ∧ a.identity = b.identity ∧ a.scope = b.scope)
    ⟨fun h => ext h.1 h.2.1 h.2.2, fun h => h ▸ ⟨rfl, rfl, rfl⟩⟩

variable (target : Target)

def values : List Int :=
  [target.building.1, target.building.2, target.identity.1, target.identity.2, target.scope]

/-- `cls(values[:2], values[2:4], values[4])`. -/
def ofValues : List Int → Option Target
  | [building, buildingType, identity, identityType, scope] =>
    if h : IsKey (some 8) false (building, buildingType) ∧
        IsKey (some 23) false (identity, identityType) ∧ (scope = 4 ∨ scope = 5) then
      some ⟨(building, buildingType), (identity, identityType), scope, h.1, h.2.1, h.2.2⟩
    else none
  | _ => none

theorem ofValues_iff {values : List Int} {target : Target} :
    ofValues values = some target ↔ target.values = values := by
  constructor
  · intro h
    unfold ofValues at h
    split at h
    · split at h
      · cases h
        rfl
      · cases h
    · cases h
  · rintro rfl
    exact dif_pos ⟨target.building_key, target.identity_key, target.scope_ok⟩

def encode : Option Bytes := targetLayout.pack target.values

def decode (data : Bytes) : Option Target :=
  if data.length ≠ 20 then none
  else (targetLayout.unpack data).bind ofValues

theorem decode_iff {target : Target} : decode data = some target ↔ target.encode = some data := by
  simp only [decode, encode, ite_none_left_eq_some, not_not, bind_eq_some_iff]
  constructor
  · rintro ⟨-, values, hunpack, h⟩
    rw [ofValues_iff.1 h, targetLayout.pack_iff.2 hunpack]
  · intro h
    exact ⟨targetLayout.length_pack h, _, targetLayout.pack_iff.1 h, ofValues_iff.2 rfl⟩

end Target

/-! ## Snapshots -/

structure SnapshotFields where
  scene : Int := 0
  revision : Int := 0
  localKey : Key := (0, 0)
  root : Int := 0
  manager : Int := 0
  buildingHud : Int := 0
  front : Int := 0
  openButton : Int := 0
  building : Key := (0, 0)
  kos : Int := 0
  listControl : Int := 0
  selected : Int := 0
  listSelected : Int := 0
  count : Int := 0
  context : Key := (0, 0)
  pending : Key × Key × Key := ((0, 0), (0, 0), (0, 0))
  flags : Int := 0
  row : Int := 0
  entry : Int := 0
  enabled : Int := 0
  collision : Int := 0
  entryKey : Key := (0, 0)
deriving DecidableEq

/-- What `__post_init__` checks. -/
def SnapshotFields.KeysOk (s : SnapshotFields) : Prop :=
  ∀ value ∈ [s.localKey, s.building, s.context, s.entryKey, s.pending.1, s.pending.2.1,
    s.pending.2.2], IsKey none true value

instance (s : SnapshotFields) : Decidable s.KeysOk :=
  inferInstanceAs (Decidable (∀ value ∈ _, IsKey none true value))

/-- A snapshot of a building's list, with the keys its constructor accepts. -/
structure Snapshot extends SnapshotFields where
  keys : toSnapshotFields.KeysOk

/-- `_SNAPSHOT`. -/
def snapshotLayout : Format (List Int) := .ints ([8, 8] ++ List.replicate 29 4)

namespace Snapshot

theorem fields_injective {a b : Snapshot} (h : a.toSnapshotFields = b.toSnapshotFields) : a = b := by
  obtain ⟨a⟩ := a
  obtain ⟨b⟩ := b
  cases h
  rfl

instance : DecidableEq Snapshot := fun a b =>
  decidable_of_iff (a.toSnapshotFields = b.toSnapshotFields) ⟨fields_injective, fun h => h ▸ rfl⟩

/-- `Snapshot()`. -/
def blank : Snapshot where
  keys := by decide

variable (s : Snapshot)

def empty : Bool := s = blank

def owned (target : Target) : Bool :=
  s.scene ≠ 0 ∧ s.revision ≠ 0 ∧ s.localKey.1 ≠ 0 ∧ s.localKey.2 = 53 ∧ s.root ≠ 0 ∧
    s.manager ≠ 0 ∧ s.buildingHud ≠ 0 ∧ s.building = target.building ∧ s.collision = 0

def ownedList (target : Target) : Bool :=
  s.owned target ∧ s.kos ≠ 0 ∧ s.listControl ≠ 0 ∧ s.front = s.kos ∧
    s.context = target.building ∧ s.flags = 0

def eligible (target : Target) : Bool :=
  s.owned target ∧ ((s.front = s.buildingHud ∧ s.openButton ≠ 0) ∨
    (s.ownedList target ∧ (s.entry ≠ 0 ∨ s.count < 512)))

/-- The fields after the scene and the revision. -/
def values : List Int :=
  [s.localKey.1, s.localKey.2, s.root, s.manager, s.buildingHud, s.front, s.openButton,
    s.building.1, s.building.2, s.kos, s.listControl, s.selected, s.listSelected, s.count,
    s.context.1, s.context.2, s.pending.1.1, s.pending.1.2, s.pending.2.1.1, s.pending.2.1.2,
    s.pending.2.2.1, s.pending.2.2.2, s.flags, s.row, s.entry, s.enabled, s.collision,
    s.entryKey.1, s.entryKey.2]

/-- The snapshot that `decode` puts together. -/
def ofValues : List Int → Option Snapshot
  | [scene, revision, localId, localType, root, manager, buildingHud, front, openButton, building,
      buildingType, kos, listControl, selected, listSelected, count, context, contextType,
      pending1, pendingType1, pending2, pendingType2, pending3, pendingType3, flags, row, entry,
      enabled, collision, entryId, entryType] =>
    let fields : SnapshotFields := ⟨scene, revision, (localId, localType), root, manager,
      buildingHud, front, openButton, (building, buildingType), kos, listControl, selected,
      listSelected, count, (context, contextType),
      ((pending1, pendingType1), (pending2, pendingType2), (pending3, pendingType3)), flags, row,
      entry, enabled, collision, (entryId, entryType)⟩
    if h : fields.KeysOk then some ⟨fields, h⟩ else none
  | _ => none

variable {s : Snapshot}

theorem ofValues_iff {values : List Int} :
    ofValues values = some s ↔ s.scene :: s.revision :: s.values = values := by
  constructor
  · intro h
    unfold ofValues at h
    split at h
    · simp only [dite_none_right_eq_some, Option.some.injEq] at h
      obtain ⟨-, rfl⟩ := h
      rfl
    · cases h
  · rintro rfl
    exact dif_pos s.keys

/-- The contradictions that `encode` refuses in a snapshot that is not empty. -/
def invalid : Bool :=
  (s.scene = 0 ∨ s.revision = 0 ∨ s.root = 0 ∨ s.manager = 0 ∨ s.buildingHud = 0) ∨
    s.localKey.2 ≠ 53 ∨ s.localKey.1 = 0 ∨ s.building.2 ≠ 8 ∨ s.building.1 = 0 ∨
    s.count > 512 ∨ s.enabled > 1 ∨ s.collision > 1 ∨ hasOther s.flags 0x101 ∨
    ¬ (s.entry ≠ 0 ↔ s.row ≠ 0) ∨ ¬ (s.entry ≠ 0 ↔ s.entryKey.1 ≠ 0) ∨
    (s.entry ≠ 0 ∧ s.entryKey.2 ≠ 23) ∨ (s.entry = 0 ∧ s.enabled ≠ 0) ∨
    (s.kos ≠ 0 ∧ s.listControl = 0) ∨
    (s.kos = 0 ∧ (s.listControl ≠ 0 ∨ s.selected ≠ 0 ∨ s.listSelected ≠ 0 ∨ s.count ≠ 0 ∨
      s.context.1 ≠ 0 ∨ s.context.2 ≠ 0 ∨ s.flags ≠ 0 ∨ s.row ≠ 0 ∨ s.pending.1.1 ≠ 0 ∨
      s.pending.1.2 ≠ 0 ∨ s.pending.2.1.1 ≠ 0 ∨ s.pending.2.1.2 ≠ 0 ∨ s.pending.2.2.1 ≠ 0 ∨
      s.pending.2.2.2 ≠ 0))

def encode : Option Bytes := do
  let _ ← uint s.scene 64
  let _ ← uint s.revision 64
  if ¬ s.values.all fun value => (uint value 32).isSome then none
  else if ¬ s.empty ∧ s.invalid then none
  else snapshotLayout.pack (s.scene :: s.revision :: s.values)

def decode (data : Bytes) : Option Snapshot :=
  if data.length ≠ 132 then none
  else do
    let values ← snapshotLayout.unpack data
    let result ← ofValues values
    let _ ← result.encode
    return result

theorem pack_of_encode (h : s.encode = some data) :
    snapshotLayout.pack (s.scene :: s.revision :: s.values) = some data := by
  simp only [encode, bind_eq_bind, ite_none_left_eq_some,
    bind_eq_some_iff] at h
  obtain ⟨-, -, -, -, -, -, h⟩ := h
  exact h

theorem decode_iff : decode data = some s ↔ s.encode = some data :=
  snapshotLayout.checked_decode_iff ofValues_iff pack_of_encode

end Snapshot

/-! ## Commands -/

inductive Verb
  | inspect
  | ensure
deriving DecidableEq

inductive Phase
  | idle
  | opening
  | adding
  | enabling
  | verified
  | uncertain
  | existing
deriving DecidableEq

instance : IntEnum Phase where
  members := [.idle, .opening, .adding, .enabling, .verified, .uncertain, .existing]
  value
    | .idle => 0
    | .opening => 1
    | .adding => 2
    | .enabling => 3
    | .verified => 4
    | .uncertain => 5
    | .existing => 6
  mem_members := by rintro ⟨⟩ <;> decide
  value_injective := by rintro ⟨⟩ ⟨⟩ <;> simp

/-- `_optional_request`. -/
def optionalRequest : Option String → Option Bytes
  | none => some (zeros 16)
  | some value => requestBytes value

theorem optionalRequest_decodedRequest (hlength : data.length = 16) :
    optionalRequest (decodedRequest data) = some data := by
  rw [decodedRequest]
  split
  case isTrue hset => exact requestBytes_of_anySet hlength hset
  case isFalse hset =>
    rw [optionalRequest, eq_zeros_of_anySet (Bool.eq_false_of_not_eq_true hset) hlength]

theorem decodedRequest_of_optionalRequest {value : Option String}
    (h : optionalRequest value = some data) : decodedRequest data = value := by
  cases value with
  | none =>
    cases h
    rw [decodedRequest, anySet_zeros, if_neg Bool.false_ne_true]
  | some key =>
    obtain ⟨-, hset, rfl⟩ := requestBytes_iff.1 h
    rw [decodedRequest, if_pos hset]

structure Command where
  host : Host
  window : Int
  requestKey : String
  target : Target
  expected : Snapshot := .blank
  transitionRequest : Option String := none
deriving DecidableEq

/-- `_COMMAND`. -/
def commandLayout : Format (Bytes × Int × Bytes × Bytes × Bytes × Bytes × Bytes) :=
  .raw 16 ×ˢ .int 8 ×ˢ .raw 16 ×ˢ .raw 20 ×ˢ .raw 132 ×ˢ .raw 16 ×ˢ .raw 368

namespace Command

def encode (command : Command) (verb : Verb) : Option Bytes := do
  let window ← uint command.window 32
  if window = 0 then none
  else
    let state ← command.expected.encode
    if (verb = .inspect ∧ ¬ command.expected.empty) ∨
        (verb = .ensure ∧
          (command.transitionRequest ≠ none ∨ ¬ command.expected.eligible command.target)) then none
    else
      let host ← command.host.encode
      let request ← requestBytes command.requestKey
      let target ← command.target.encode
      let transition ← optionalRequest command.transitionRequest
      commandLayout.pack (host, command.window, request, target, state, transition, zeros 368)

def decode (data : Bytes) (verb : Verb) : Option Command := do
  if data.length ≠ 576 then none
  else
    let (host, window, request, target, snapshot, transition, padding) ← commandLayout.unpack data
    if anySet padding then none
    else
      let host ← Host.decode host
      let target ← Target.decode target
      let expected ← Snapshot.decode snapshot
      let result : Command :=
        ⟨host, window, uuidText request, target, expected, decodedRequest transition⟩
      if result.encode verb ≠ some data then none
      else return result

theorem decode_iff {command : Command} {verb : Verb} :
    decode data verb = some command ↔ command.encode verb = some data := by
  simp only [decode, bind_eq_bind, ite_none_left_eq_some, not_not,
    bind_eq_some_iff, Prod.exists, Bool.not_eq_true]
  constructor
  · rintro ⟨-, _, _, _, _, _, _, _, -, -, _, -, _, -, _, -, hencode, h⟩
    cases h
    exact hencode
  · intro hencode
    obtain ⟨host, window, key, target, expected, transition⟩ := command
    have h := hencode
    simp only [encode, bind_eq_bind, ite_none_left_eq_some,
      bind_eq_some_iff] at h
    obtain ⟨_, -, -, _, hstate, -, _, hhost, _, hrequest, _, htarget, _, htransition, h⟩ := h
    obtain ⟨-, -, rfl⟩ := requestBytes_iff.1 hrequest
    obtain rfl := decodedRequest_of_optionalRequest htransition
    exact ⟨commandLayout.length_pack h, _, _, _, _, _, _, _, commandLayout.pack_iff.1 h,
      anySet_zeros _, _, Host.decode_iff.2 hhost, _, Target.decode_iff.2 htarget, _,
      Snapshot.decode_iff.2 hstate, hencode, rfl⟩

theorem length_encode {command : Command} {verb : Verb} (h : command.encode verb = some data) :
    data.length = 576 :=
  not_not.1 (ite_none_left_eq_some.1 (decode_iff.2 h)).1

end Command

/-! ## Receipts -/

structure Receipt where
  requestKey : String
  host : Host
  window : Int
  outcome : Outcome
  flags : Int
  snapshot : Snapshot
  target : Option Target := none
  transitionTarget : Option Target := none
  transitionRequest : Option String := none
  phase : Phase := .idle
  actionTick : Int := 0
  responseFloor : Int := 0
  completionSequence : Int := 0
deriving DecidableEq

/-- `MAGIC`. -/
def magic : Int := 0x57424B31

/-- `_RECEIPT`. -/
def receiptLayout : Format (Bytes × Bytes × Int × Int × Int × Bytes × Bytes × Bytes × Bytes ×
    Int × Int × Int × Int × Int × Bytes) :=
  .raw 16 ×ˢ .raw 16 ×ˢ .int 8 ×ˢ .int 4 ×ˢ .int 4 ×ˢ .raw 132 ×ˢ .raw 20 ×ˢ .raw 20 ×ˢ .raw 16 ×ˢ
    .int 4 ×ˢ .int 4 ×ˢ .int 8 ×ˢ .int 8 ×ˢ .int 8 ×ˢ .raw 116

/-- `target.encode() if target else bytes(20)`. -/
def targetOrZeros : Option Target → Option Bytes
  | none => some (zeros 20)
  | some target => target.encode

/-- `Target.decode(data) if any(data) else None`. -/
def decodedTarget (data : Bytes) : Option (Option Target) :=
  if anySet data then (Target.decode data).map some else some none

theorem targetOrZeros_of_decodedTarget {target : Option Target} (hlength : data.length = 20)
    (h : decodedTarget data = some target) : targetOrZeros target = some data := by
  rw [decodedTarget] at h
  split at h
  case isTrue hset =>
    obtain ⟨target, htarget, rfl⟩ := map_eq_some_iff.1 h
    exact Target.decode_iff.1 htarget
  case isFalse hset =>
    cases h
    rw [targetOrZeros, eq_zeros_of_anySet (Bool.eq_false_of_not_eq_true hset) hlength]

namespace Receipt

/-- The contradictions of ownership, phase and evidence that `decode` refuses. -/
def contradictory (r : Receipt) : Bool :=
  (¬ r.snapshot.empty ∧ ∀ target ∈ r.target, r.snapshot.building ≠ target.building) ∨
    (hasFlag r.flags inFlight ∧ (r.transitionRequest = none ∨ r.target ≠ r.transitionTarget)) ∨
    ¬ (hasFlag r.flags unresolved ↔ r.phase = .uncertain) ∨
    (r.completionSequence ≠ 0 ∧
      ¬ (r.phase = .enabling ∨ r.phase = .verified ∨ r.phase = .uncertain)) ∨
    (r.actionTick = 0 ∧ (r.responseFloor ≠ 0 ∨ r.completionSequence ≠ 0)) ∨
    (hasFlag r.flags ready ∧ (hasFlag r.flags (inFlight + unresolved) ∨
      ¬ ∃ target ∈ r.target, r.snapshot.eligible target)) ∨
    ¬ (r.transitionRequest.isSome ↔ r.transitionTarget.isSome) ∨
    ((r.phase = .opening ∨ r.phase = .adding ∨ r.phase = .enabling) ∧
      (¬ hasFlag r.flags inFlight ∨ hasFlag r.flags unresolved ∨ r.transitionRequest = none ∨
        r.actionTick = 0)) ∨
    (r.phase = .uncertain ∧ ¬ hasFlag r.flags unresolved) ∨
    ((r.phase = .verified ∨ r.phase = .existing) ∧
      (hasFlag r.flags (inFlight + unresolved) ∨ r.transitionRequest = none)) ∨
    (r.phase = .verified ∧ (r.completionSequence = 0 ∨ r.completionSequence ≤ r.responseFloor ∨
      r.actionTick = 0)) ∨
    (r.phase = .existing ∧ r.completionSequence ≠ 0) ∨
    (r.responseFloor ≥ 2 ^ 63 ∨ r.completionSequence ≥ 2 ^ 63)

def decode (data : Bytes) : Option Receipt := do
  if data.length ≠ 384 then none
  else
    let (request, host, window, outcome, flags, state, target, transitionTarget, transition, phase,
      magic', tick, floor, complete, padding) ← receiptLayout.unpack data
    if magic' ≠ magic ∨ hasOther flags 7 ∨ anySet padding ∨ ¬ (0 < window ∧ window < 2 ^ 32) then
      none
    else
      let snapshot ← Snapshot.decode state
      let target ← decodedTarget target
      let transitionTarget ← decodedTarget transitionTarget
      let phase ← IntEnum.ofValue phase
      let request := uuidText request
      let _ ← requestBytes request
      let host ← Host.decode host
      let outcome ← IntEnum.ofValue outcome
      let result : Receipt := ⟨request, host, window, outcome, flags, snapshot, target,
        transitionTarget, decodedRequest transition, phase, tick, floor, complete⟩
      if result.contradictory then none
      else return result

/-- The record that `encode` packs. -/
def raw (receipt : Receipt) : Option Bytes := do
  let tick ← uint receipt.actionTick 64
  let floor ← uint receipt.responseFloor 64
  let complete ← uint receipt.completionSequence 64
  let flags ← uint receipt.flags 32
  let window ← uint receipt.window 32
  let request ← requestBytes receipt.requestKey
  let host ← receipt.host.encode
  let state ← receipt.snapshot.encode
  let target ← targetOrZeros receipt.target
  let transitionTarget ← targetOrZeros receipt.transitionTarget
  let transition ← optionalRequest receipt.transitionRequest
  receiptLayout.pack (request, host, window, IntEnum.value receipt.outcome, flags, state, target,
    transitionTarget, transition, IntEnum.value receipt.phase, magic, tick, floor, complete,
    zeros 116)

def encode (receipt : Receipt) : Option Bytes := do
  let raw ← receipt.raw
  if decode raw ≠ some receipt then none
  else return raw

variable {receipt : Receipt} {data : Bytes}

theorem raw_of_decode (h : decode data = some receipt) : receipt.raw = some data := by
  simp only [decode, bind_eq_bind, ite_none_left_eq_some, not_not,
    bind_eq_some_iff, Prod.exists, not_or, Bool.not_eq_true] at h
  obtain ⟨-, request, host, window, outcome, flags, state, target, transitionTarget, transition,
    phase, _, tick, floor, complete, padding, hunpack, ⟨rfl, -, hpadding, hwindow⟩, snapshot,
    hstate, target', htarget, transitionTarget', htransitionTarget, phase', hphase, request',
    hrequest, host', hhost, outcome', houtcome, -, h⟩ := h
  cases h
  have hholds := Format.holds_of_unpack hunpack
  simp only [receiptLayout, Format.holds_pair, Format.holds_raw, Format.holds_int] at hholds
  obtain ⟨hkey, -, -, -, hflags, -, htargetLength, htransitionTargetLength, htransition, -, -, htick,
    hfloor, hcomplete, hlength⟩ := hholds
  obtain rfl := requestBytes_uuidText hkey hrequest
  obtain rfl := IntEnum.ofValue_iff.1 houtcome
  obtain rfl := IntEnum.ofValue_iff.1 hphase
  rw [eq_zeros_of_anySet hpadding hlength] at hunpack
  have hwindow : uint window 32 = some window := if_pos ⟨hwindow.1.le, hwindow.2⟩
  have htick : uint tick 64 = some tick := uint_of_holds htick
  have hfloor : uint floor 64 = some floor := uint_of_holds hfloor
  have hcomplete : uint complete 64 = some complete := uint_of_holds hcomplete
  have hflags : uint flags 32 = some flags := uint_of_holds hflags
  simp only [raw, htick, hfloor, hcomplete, hflags, hwindow, hrequest,
    Host.decode_iff.1 hhost, Snapshot.decode_iff.1 hstate,
    targetOrZeros_of_decodedTarget htargetLength htarget,
    targetOrZeros_of_decodedTarget htransitionTargetLength htransitionTarget,
    optionalRequest_decodedRequest htransition, receiptLayout.pack_iff.2 hunpack,
    bind_eq_bind, bind_some]

theorem decode_iff : decode data = some receipt ↔ receipt.encode = some data := by
  rw [encode, bind_eq_bind, bind_eq_some_iff]
  constructor
  · intro h
    refine ⟨data, raw_of_decode h, ?_⟩
    rw [if_neg (not_not.2 h), pure_def]
  · rintro ⟨raw, -, h⟩
    obtain ⟨hdecode, h⟩ := ite_none_left_eq_some.1 h
    cases h
    exact not_not.1 hdecode

theorem length_encode (h : receipt.encode = some data) : data.length = 384 :=
  not_not.1 (ite_none_left_eq_some.1 (decode_iff.2 h)).1

end Receipt

end ShadowbaneLab.CondemnWire
