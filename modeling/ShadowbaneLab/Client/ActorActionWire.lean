/-
# Actor action payloads

`src/shadowbane_lab/client_extension/actor_action_wire.py`: the shared command of the actor and
action verbs, and its receipt.  A command's identity is the digest of its bytes.
-/
import ShadowbaneLab.Client.ActorFence

namespace ShadowbaneLab.ActorActionWire

open Foundation ActorFence Option
open MovementWire (Grant Host)

/-- `VERSION`. -/
def version : Int := 3

/-- `NO_SELECTOR`. -/
def noSelector : Int := 0xFFFFFFFF

/-! ## Enumerations -/

inductive Verb
  | openOwner
  | attachContext
  | submit
  | actionStatus
  | cancelAction
  | contextStatus
  | stopContext
  | ownerStatus
  | stopOwner
  | observeActor
  | registerSelectors
deriving DecidableEq

instance : IntEnum Verb where
  members := [.openOwner, .attachContext, .submit, .actionStatus, .cancelAction, .contextStatus,
    .stopContext, .ownerStatus, .stopOwner, .observeActor, .registerSelectors]
  value
    | .openOwner => 43
    | .attachContext => 44
    | .submit => 45
    | .actionStatus => 46
    | .cancelAction => 47
    | .contextStatus => 48
    | .stopContext => 49
    | .ownerStatus => 50
    | .stopOwner => 51
    | .observeActor => 52
    | .registerSelectors => 53
  mem_members := by rintro ⟨⟩ <;> decide
  value_injective := by rintro ⟨⟩ ⟨⟩ <;> simp

inductive Action
  | none
  | attack
  | cast
  | selfPower
  | useItem
  | track
  | groupChat
deriving DecidableEq

instance : IntEnum Action where
  members := [.none, .attack, .cast, .selfPower, .useItem, .track, .groupChat]
  value
    | .none => 0
    | .attack => 1
    | .cast => 2
    | .selfPower => 3
    | .useItem => 4
    | .track => 5
    | .groupChat => 6
  mem_members := by rintro ⟨⟩ <;> decide
  value_injective := by rintro ⟨⟩ ⟨⟩ <;> simp

inductive Recipient
  | none
  | actor
  | target
deriving DecidableEq

instance : IntEnum Recipient where
  members := [.none, .actor, .target]
  value
    | .none => 0
    | .actor => 1
    | .target => 2
  mem_members := by rintro ⟨⟩ <;> decide
  value_injective := by rintro ⟨⟩ ⟨⟩ <;> simp

/-- `Outcome` of `combat_wire_v2.py`. -/
inductive Outcome
  | observed
  | clientOutboundQueued
  | stale
  | unavailable
  | invalid
  | pending
  | uncertain
  | exhausted
  | engagementClosed
  | nativeRejected
  | bound
  | actionCancelled
  | deferred
  | historyExpired
  | powerReuseBlocked
deriving DecidableEq

instance : IntEnum Outcome where
  members := [.observed, .clientOutboundQueued, .stale, .unavailable, .invalid, .pending,
    .uncertain, .exhausted, .engagementClosed, .nativeRejected, .bound, .actionCancelled, .deferred,
    .historyExpired, .powerReuseBlocked]
  value
    | .observed => 0
    | .clientOutboundQueued => 1
    | .stale => 2
    | .unavailable => 3
    | .invalid => 4
    | .pending => 5
    | .uncertain => 6
    | .exhausted => 7
    | .engagementClosed => 8
    | .nativeRejected => 9
    | .bound => 10
    | .actionCancelled => 11
    | .deferred => 12
    | .historyExpired => 13
    | .powerReuseBlocked => 14
  mem_members := by rintro ⟨⟩ <;> decide
  value_injective := by rintro ⟨⟩ ⟨⟩ <;> simp

inductive Phase
  | unknown
  | bound
  | stopping
  | closed
  | retired
  | blocked
deriving DecidableEq

instance : IntEnum Phase where
  members := [.unknown, .bound, .stopping, .closed, .retired, .blocked]
  value
    | .unknown => 0
    | .bound => 1
    | .stopping => 2
    | .closed => 3
    | .retired => 4
    | .blocked => 5
  mem_members := by rintro ⟨⟩ <;> decide
  value_injective := by rintro ⟨⟩ ⟨⟩ <;> simp

inductive Entry
  | unknown
  | neverEntered
  | entered
deriving DecidableEq

instance : IntEnum Entry where
  members := [.unknown, .neverEntered, .entered]
  value
    | .unknown => 0
    | .neverEntered => 1
    | .entered => 2
  mem_members := by rintro ⟨⟩ <;> decide
  value_injective := by rintro ⟨⟩ ⟨⟩ <;> simp

inductive LocalSettlement
  | unknown
  | pending
  | settled
deriving DecidableEq

instance : IntEnum LocalSettlement where
  members := [.unknown, .pending, .settled]
  value
    | .unknown => 0
    | .pending => 1
    | .settled => 2
  mem_members := by rintro ⟨⟩ <;> decide
  value_injective := by rintro ⟨⟩ ⟨⟩ <;> simp

inductive Application
  | none
  | pending
  | observed
  | unknown
  | interrupted
deriving DecidableEq

instance : IntEnum Application where
  members := [.none, .pending, .observed, .unknown, .interrupted]
  value
    | .none => 0
    | .pending => 1
    | .observed => 2
    | .unknown => 3
    | .interrupted => 4
  mem_members := by rintro ⟨⟩ <;> decide
  value_injective := by rintro ⟨⟩ ⟨⟩ <;> simp

inductive Closure
  | none
  | neverBound
  | nativeStopped
  | sceneRetired
  | historyExpired
  | localReleased
deriving DecidableEq

instance : IntEnum Closure where
  members := [.none, .neverBound, .nativeStopped, .sceneRetired, .historyExpired, .localReleased]
  value
    | .none => 0
    | .neverBound => 1
    | .nativeStopped => 2
    | .sceneRetired => 3
    | .historyExpired => 4
    | .localReleased => 5
  mem_members := by rintro ⟨⟩ <;> decide
  value_injective := by rintro ⟨⟩ ⟨⟩ <;> simp

inductive ClosureScope
  | none
  | owner
  | context
deriving DecidableEq

instance : IntEnum ClosureScope where
  members := [.none, .owner, .context]
  value
    | .none => 0
    | .owner => 1
    | .context => 2
  mem_members := by rintro ⟨⟩ <;> decide
  value_injective := by rintro ⟨⟩ ⟨⟩ <;> simp

inductive Reason
  | none
  | powerReuse
  | recovery
  | initiation
  | stance
  | observation
  | item
  | targetOccupied
  | localAction
  | nativeUse
  | childCleanup
  | admissionChanged
  | manualActivity
deriving DecidableEq

instance : IntEnum Reason where
  members := [.none, .powerReuse, .recovery, .initiation, .stance, .observation, .item,
    .targetOccupied, .localAction, .nativeUse, .childCleanup, .admissionChanged, .manualActivity]
  value
    | .none => 0
    | .powerReuse => 1
    | .recovery => 2
    | .initiation => 3
    | .stance => 4
    | .observation => 5
    | .item => 6
    | .targetOccupied => 7
    | .localAction => 8
    | .nativeUse => 9
    | .childCleanup => 10
    | .admissionChanged => 11
    | .manualActivity => 12
  mem_members := by rintro ⟨⟩ <;> decide
  value_injective := by rintro ⟨⟩ ⟨⟩ <;> simp

/-- `OWNER_CLEANUP`. -/
def ownerCleanup : Int := 1

/-- `CONTEXT_CLEANUP`. -/
def contextCleanup : Int := 2

/-- `OUTBOUND_QUEUED`. -/
def outboundQueued : Int := 4

/-- `UNCERTAIN_HISTORY`. -/
def uncertainHistory : Int := 8

/-- `APPLICATION_PENDING`. -/
def applicationPending : Int := 16

/-- `_OWNED`. -/
def owned : List Phase := [.bound, .stopping, .blocked]

/-- `_ACTION_VERBS`. -/
def actionVerbs : List Verb := [.submit, .actionStatus, .cancelAction]

/-- `_READ_VERBS`. -/
def readVerbs : List Verb := [.observeActor, .registerSelectors]

/-- `_CONTEXT_VERBS`. -/
def contextVerbs : List Verb := [.attachContext, .contextStatus, .stopContext]

/-! ## Optional parts

An absent identifier or grant is written as zeros; a present one never is. -/

variable {data : Bytes}

section

variable {kind : OrdinalKind}

/-- `_id(value, kind, True)`. -/
def encodeId : Option (Ordinal kind) → Bytes
  | none => zeros 16
  | some value => value.encode

/-- `_decode_id`. -/
def decodeId (data : Bytes) : Option (Option (Ordinal kind)) :=
  if anySet data then (Ordinal.decode data).map some else some none

@[simp] theorem decodeId_encodeId (value : Option (Ordinal kind)) :
    decodeId (encodeId value) = some value := by
  cases value with
  | none => simp [encodeId, decodeId]
  | some value => simp [encodeId, decodeId, Ordinal.anySet_encode, Ordinal.decode_encode]

theorem encodeId_of_decodeId {value : Option (Ordinal kind)} (h : decodeId data = some value)
    (hlength : data.length = 16) : encodeId value = data := by
  rw [decodeId] at h
  split at h
  case isTrue =>
    obtain ⟨ordinal, hordinal, rfl⟩ := map_eq_some_iff.1 h
    exact Ordinal.encode_of_decode hordinal
  case isFalse hzero =>
    cases h
    exact (eq_zeros_of_anySet (Bool.eq_false_of_not_eq_true hzero) hlength).symm

end

/-- `_grant`. -/
def encodeGrant : Option Grant → Option Bytes
  | none => some (zeros 216)
  | some value => if value.owner = .automation then value.encode else none

/-- A grant, or the zeros of its absence. -/
def decodeGrant (data : Bytes) : Option (Option Grant) :=
  if anySet data then (Grant.decode data).map some else some none

theorem anySet_encode_grant {grant : Grant} (h : grant.encode = some data) :
    anySet data = true := by
  by_contra hzero
  have hdata := eq_zeros_of_anySet (Bool.eq_false_of_not_eq_true hzero) (Grant.length_encode h)
  have hnone : Grant.decode (zeros 216) = none := by decide +kernel
  rw [← Grant.decode_iff, hdata, hnone] at h
  cases h

variable {value : Option Grant}

theorem decodeGrant_of_encodeGrant (h : encodeGrant value = some data) :
    decodeGrant data = some value := by
  cases value with
  | none =>
    cases h
    simp [decodeGrant]
  | some grant =>
    obtain ⟨-, h⟩ := ite_none_right_eq_some.1 h
    rw [decodeGrant, if_pos (anySet_encode_grant h), Grant.decode_iff.2 h, map_some]

/-- What is read is written as the same bytes, if it is written at all. -/
theorem encodeGrant_of_decodeGrant {data written : Bytes} (h : decodeGrant data = some value)
    (hlength : data.length = 216) (hwritten : encodeGrant value = some written) :
    written = data := by
  rw [decodeGrant] at h
  split at h
  case isTrue =>
    obtain ⟨grant, hgrant, rfl⟩ := map_eq_some_iff.1 h
    obtain ⟨-, hwritten⟩ := ite_none_right_eq_some.1 hwritten
    exact Option.some.inj (hwritten.symm.trans (Grant.decode_iff.1 hgrant))
  case isFalse hzero =>
    cases h
    cases hwritten
    exact (eq_zeros_of_anySet (Bool.eq_false_of_not_eq_true hzero) hlength).symm

/-- `data.decode("ascii")`. -/
def decodeAscii (data : Bytes) : Option String :=
  if data.all (·.toNat < 128) then some (asciiText data) else none

/-! ## Commands -/

structure Command where
  host : Host
  window : Int
  grant : Option Grant
  request : RequestId
  parentId : Option OwnerId
  contextId : Option ContextId
  parentDigest : Bytes
  contextDigest : Bytes
  action : Action := .none
  powerId : Int := 0
  itemKey : Int × Int := (0, 0)
  templateKey : Int × Int := (0, 0)
  itemHint : Int := 0
  recipient : Recipient := .none
  templateHint : Int := 0
  selectorIndex : Int := noSelector
  manifestDigest : Bytes := zeros 32
  publicationRevision : Int := 0
  snapshotId : Bytes := zeros 16
  groupDigest : Bytes := zeros 32
  groupText : String := ""

/-- `_COMMAND`. -/
def commandLayout : Format (Bytes × Int × Bytes × Bytes × Bytes × Bytes × Bytes × Bytes × List Int ×
    Bytes × Int × Bytes × Int × Bytes) :=
  .raw 16 ×ˢ .int 8 ×ˢ .raw 216 ×ˢ .raw 16 ×ˢ .raw 16 ×ˢ .raw 16 ×ˢ .raw 32 ×ˢ .raw 32 ×ˢ
    .ints (List.replicate 10 4) ×ˢ .raw 32 ×ˢ .int 8 ×ˢ .raw 16 ×ˢ .int 4 ×ˢ .raw 124

/-- The reserved bytes of a group chat: digest, length and padded text. -/
def groupLayout : Format (Bytes × Int × Bytes) := .raw 32 ×ˢ .int 4 ×ˢ .raw 88

/-- A character that a group text may hold. -/
def groupCharacter (c : Char) : Bool := 32 ≤ c.toNat ∧ c.toNat ≤ 126 ∧ c ∉ ['/', '\\', '^', '<', '>']

namespace Command

variable (c : Command)

/-- A selector of the manifest is given. -/
def selected : Bool := c.selectorIndex ≠ noSelector

/-- The checks on the identifiers and digests. -/
def identitiesOk : Bool :=
  uintOk c.window 32 true ∧ digestOk c.parentDigest c.parentId.isNone ∧
    digestOk c.contextDigest c.contextId.isNone ∧ ¬ (c.contextId.isSome ∧ c.parentId.isNone) ∧
    ¬ (c.grant.isSome ∧ c.parentId.isNone) ∧ ¬ (c.grant.isNone ∧ c.contextId.isSome)

/-- The checks on the selector and its publication. -/
def publicationOk : Bool :=
  uintOk c.powerId 32 false ∧ uintOk c.selectorIndex 32 false ∧
    uintOk c.publicationRevision 64 false ∧ c.snapshotId.length = 16 ∧
    digestOk c.groupDigest (c.action ≠ .groupChat) ∧ digestOk c.manifestDigest (!c.selected) ∧
    ¬ (c.selected ∧ 32 ≤ c.selectorIndex) ∧
    ¬ (¬ c.selected ∧ (c.publicationRevision ≠ 0 ∨ anySet c.snapshotId)) ∧
    decide (c.publicationRevision ≠ 0) = anySet c.snapshotId

/-- The checks on the operand of an item. -/
def itemOk : Bool :=
  (∀ word ∈ [c.itemKey.1, c.itemKey.2, c.templateKey.1, c.templateKey.2, c.itemHint,
      c.templateHint], uintOk word 32 false) ∧
    if c.action = .useItem then
      keyOk c.itemKey ∧ uintOk c.templateKey.1 32 true ∧ c.templateKey.2 = 0 ∧
        addressOk c.itemHint ∧ addressOk c.templateHint ∧ c.itemHint ≠ c.templateHint
    else
      c.itemKey = (0, 0) ∧ c.templateKey = (0, 0) ∧ c.itemHint = 0 ∧ c.templateHint = 0

/-- The recipient that belongs to an action. -/
def expectedRecipient : Recipient :=
  if c.action = .none then .none
  else if c.action ∈ [.selfPower, .useItem, .track, .groupChat] then .actor
  else .target

/-- The checks on what an action needs. -/
def actionOk : Bool :=
  decide (c.powerId ≠ 0) = decide (c.action ∈ [.cast, .selfPower, .track]) ∧
    c.recipient = c.expectedRecipient ∧ ¬ (c.recipient = .target ∧ c.contextId.isNone) ∧
    ¬ (c.action ∈ [.track, .groupChat] ∧ (c.contextId.isSome ∨ c.selected)) ∧
    ¬ (c.action = .useItem ∧ c.contextId.isSome) ∧ ¬ (c.action ≠ .none ∧ c.parentId.isNone) ∧
    ¬ (c.action ∈ [.selfPower, .useItem] ∧ c.contextId.isNone ∧
      (¬ c.selected ∨ c.publicationRevision = 0))

/-- The reserved bytes. -/
def reserved : Option Bytes :=
  if c.action = .groupChat then
    let length := c.groupText.toList.length
    if ¬ (1 ≤ length ∧ length ≤ 88) ∨ ¬ c.groupText.toList.all groupCharacter then none
    else
      groupLayout.pack (c.groupDigest, length, asciiBytes c.groupText ++ zeros (88 - length))
  else if c.groupText ≠ "" then none
  else some (zeros 124)

def encode : Option Bytes := do
  let host ← c.host.encode
  if ¬ c.identitiesOk then none
  else
    let grant ← encodeGrant c.grant
    if ¬ c.publicationOk then none
    else
      let reserved ← c.reserved
      if ¬ c.itemOk ∨ ¬ c.actionOk then none
      else
        commandLayout.pack (host, c.window, grant, c.request.encode, encodeId c.parentId,
          encodeId c.contextId, c.parentDigest, c.contextDigest,
          [IntEnum.value c.action, c.powerId, c.itemKey.1, c.itemKey.2, c.templateKey.1,
            c.templateKey.2, c.itemHint, IntEnum.value c.recipient, c.templateHint,
            c.selectorIndex],
          c.manifestDigest, c.publicationRevision, c.snapshotId, version, reserved)

def decode (data : Bytes) : Option Command := do
  let (host, window, grant, request, parentId, contextId, parentDigest, contextDigest, words,
    manifestDigest, publicationRevision, snapshotId, version', reserved) ←
      commandLayout.unpack data
  if version' ≠ version then none
  else
    let (groupDigest, length, text) ← groupLayout.unpack reserved
    if 88 < length ∨ anySet (text.drop length.toNat) then none
    else
      match words with
      | [action, powerId, itemId, itemType, templateId, templateType, itemHint, recipient,
          templateHint, selectorIndex] =>
        let host ← Host.decode host
        let grant ← decodeGrant grant
        let request ← Ordinal.decode request
        let parentId ← decodeId parentId
        let contextId ← decodeId contextId
        let action ← IntEnum.ofValue action
        let recipient ← IntEnum.ofValue recipient
        let groupText ← decodeAscii (text.take length.toNat)
        let result : Command := ⟨host, window, grant, request, parentId, contextId, parentDigest,
          contextDigest, action, powerId, (itemId, itemType), (templateId, templateType), itemHint,
          recipient, templateHint, selectorIndex, manifestDigest, publicationRevision, snapshotId,
          groupDigest, groupText⟩
        let _ ← result.encode
        return result
      | _ => none

/-- What `encode` checks. -/
def Valid : Prop :=
  c.identitiesOk = true ∧ c.publicationOk = true ∧ c.itemOk = true ∧ c.actionOk = true

variable {c} {data : Bytes}

theorem encode_eq_some : c.encode = some data ↔ c.Valid ∧ ∃ host grant reserved,
    c.host.encode = some host ∧ encodeGrant c.grant = some grant ∧ c.reserved = some reserved ∧
    commandLayout.unpack data = some (host, c.window, grant, c.request.encode, encodeId c.parentId,
      encodeId c.contextId, c.parentDigest, c.contextDigest,
      [IntEnum.value c.action, c.powerId, c.itemKey.1, c.itemKey.2, c.templateKey.1,
        c.templateKey.2, c.itemHint, IntEnum.value c.recipient, c.templateHint, c.selectorIndex],
      c.manifestDigest, c.publicationRevision, c.snapshotId, version, reserved) := by
  simp only [encode, bind_eq_bind, bind_eq_some_iff, ite_none_left_eq_some,
    not_not, not_or, commandLayout.pack_iff, Valid]
  constructor
  · rintro ⟨host, hhost, hids, grant, hgrant, hpublication, reserved, hreserved, ⟨hitem, haction⟩, h⟩
    exact ⟨⟨hids, hpublication, hitem, haction⟩, host, grant, reserved, hhost, hgrant, hreserved, h⟩
  · rintro ⟨⟨hids, hpublication, hitem, haction⟩, host, grant, reserved, hhost, hgrant, hreserved, h⟩
    exact ⟨host, hhost, hids, grant, hgrant, hpublication, reserved, hreserved, ⟨hitem, haction⟩, h⟩

/-- The reserved bytes are read back as what they were written for. -/
theorem unpack_reserved (hdigest : digestOk c.groupDigest (c.action ≠ .groupChat) = true)
    (h : c.reserved = some data) : ∃ length text,
      groupLayout.unpack data = some (c.groupDigest, length, text) ∧ ¬ 88 < length ∧
        anySet (text.drop length.toNat) = false ∧
        decodeAscii (text.take length.toNat) = some c.groupText := by
  rw [reserved] at h
  split at h
  case isTrue hchat =>
    simp only [ite_none_left_eq_some, not_or, not_not, List.all_eq_true, groupCharacter,
      decide_eq_true_eq] at h
    obtain ⟨⟨hlength, hcharacters⟩, h⟩ := h
    have hsmall : ∀ character ∈ c.groupText.toList, character.toNat < 256 := by
      intro character hcharacter
      have hrange := hcharacters character hcharacter
      omega
    have hascii : (asciiBytes c.groupText).all (·.toNat < 128) = true := by
      rw [List.all_eq_true]
      intro b hb
      obtain ⟨character, hcharacter, rfl⟩ := List.mem_map.1 hb
      have hrange := hcharacters character hcharacter
      rw [decide_eq_true_eq, UInt8.toNat_ofNat']
      omega
    have hcount := length_asciiBytes c.groupText
    refine ⟨_, _, groupLayout.pack_iff.1 h, by omega, ?_, ?_⟩
    · rw [Int.toNat_natCast, List.drop_left' hcount, anySet_zeros]
    · rw [Int.toNat_natCast, List.take_left' hcount, decodeAscii, if_pos hascii,
        asciiText_asciiBytes hsmall]
  case isFalse hother =>
    obtain ⟨htext, h⟩ := ite_none_left_eq_some.1 h
    cases h
    simp only [digestOk, ne_eq, hother, not_false_eq_true, decide_true, Bool.not_true,
      decide_eq_true_eq] at hdigest
    rw [not_not] at htext
    refine ⟨0, zeros 88, ?_, by decide, by decide, ?_⟩
    · rw [eq_zeros_of_anySet hdigest.2 hdigest.1]
      decide +kernel
    · rw [htext]
      decide +kernel

/-- Reserved bytes that are accepted are written again. -/
theorem eq_of_reserved {written text : Bytes} {length : Int}
    (hdigest : digestOk c.groupDigest (c.action ≠ .groupChat) = true)
    (hunpack : groupLayout.unpack data = some (c.groupDigest, length, text))
    (hshort : ¬ 88 < length) (hpadding : anySet (text.drop length.toNat) = false)
    (htext : decodeAscii (text.take length.toNat) = some c.groupText)
    (h : c.reserved = some written) : written = data := by
  have hholds := Format.holds_of_unpack hunpack
  simp only [groupLayout, Format.holds_pair, Format.holds_raw, Format.holds_int] at hholds
  obtain ⟨-, ⟨hpositive, -⟩, hsize⟩ := hholds
  obtain ⟨-, htext⟩ := ite_none_right_eq_some.1 htext
  rw [Option.some.injEq] at htext
  have hbytes : asciiBytes c.groupText = text.take length.toNat := by
    rw [← htext, asciiBytes_asciiText]
  have hcount : c.groupText.toList.length = length.toNat := by
    rw [← length_asciiBytes, hbytes, List.length_take, hsize]
    omega
  have hzeros : text.drop length.toNat = zeros (88 - length.toNat) :=
    eq_zeros_of_anySet hpadding (by rw [List.length_drop, hsize])
  rw [reserved] at h
  split at h
  case isTrue hchat =>
    obtain ⟨-, h⟩ := ite_none_left_eq_some.1 h
    have hpack := groupLayout.pack_iff.1 h
    have hwritten := groupLayout.pack_iff.2 hunpack
    rw [hcount, hbytes, ← hzeros, List.take_append_drop, Int.toNat_of_nonneg hpositive,
      hwritten] at h
    exact (Option.some.inj h).symm
  case isFalse hother =>
    obtain ⟨hempty, h⟩ := ite_none_left_eq_some.1 h
    cases h
    simp only [digestOk, ne_eq, hother, not_false_eq_true, decide_true, Bool.not_true,
      decide_eq_true_eq] at hdigest
    rw [not_not] at hempty
    rw [hempty, String.toList_empty, List.length_nil] at hcount
    obtain rfl : length = 0 := by omega
    rw [Int.toNat_zero, List.drop_zero] at hzeros
    have hwritten := groupLayout.pack_iff.2 hunpack
    rw [hzeros, eq_zeros_of_anySet hdigest.2 hdigest.1] at hwritten
    have hpacked : groupLayout.pack (zeros 32, 0, zeros 88) = some (zeros 124) := by decide +kernel
    exact Option.some.inj (hpacked.symm.trans hwritten)

theorem groupDigest_ok (h : c.Valid) : digestOk c.groupDigest (c.action ≠ .groupChat) = true := by
  obtain ⟨-, hpublication, -⟩ := h
  rw [publicationOk, decide_eq_true_eq] at hpublication
  exact hpublication.2.2.2.2.1

/-- Bytes that are accepted are written again, although `decode` does not compare them. -/
theorem encode_of_decode (h : decode data = some c) : c.encode = some data := by
  rw [decode, bind_eq_bind, bind_eq_some_iff] at h
  obtain ⟨⟨host, window, grant, request, parentId, contextId, parentDigest, contextDigest, words,
    manifestDigest, publicationRevision, snapshotId, version', reserved⟩, hunpack, h⟩ := h
  change (if version' ≠ version then none else _) = some c at h
  rw [ite_none_left_eq_some, not_not, bind_eq_bind, bind_eq_some_iff] at h
  obtain ⟨rfl, ⟨groupDigest, length, text⟩, hgroup, h⟩ := h
  change (if 88 < length ∨ anySet (text.drop length.toNat) then none else _) = some c at h
  rw [ite_none_left_eq_some, not_or, Bool.not_eq_true] at h
  obtain ⟨⟨hshort, hpadding⟩, h⟩ := h
  split at h
  case h_2 => cases h
  case h_1 action powerId itemId itemType templateId templateType itemHint recipient templateHint
      selectorIndex =>
    simp only [bind_eq_bind, bind_eq_some_iff] at h
    obtain ⟨host', hhost, grant', hgrant, request', hrequest, parentId', hparent, contextId',
      hcontext, action', haction, recipient', hrecipient, groupText, htext, again, hagain, h⟩ := h
    cases h
    have hholds := Format.holds_of_unpack hunpack
    simp only [commandLayout, Format.holds_pair, Format.holds_raw] at hholds
    obtain ⟨-, -, hgrantLength, -, hparentLength, hcontextLength, -⟩ := hholds
    obtain ⟨hvalid, _, written, reserved', -, hwritten, hreserved, -⟩ := encode_eq_some.1 hagain
    obtain rfl := encodeGrant_of_decodeGrant hgrant hgrantLength hwritten
    obtain rfl := eq_of_reserved (groupDigest_ok hvalid) hgroup hshort hpadding htext hreserved
    obtain rfl := Ordinal.encode_of_decode hrequest
    obtain rfl := encodeId_of_decodeId hparent hparentLength
    obtain rfl := encodeId_of_decodeId hcontext hcontextLength
    obtain rfl := IntEnum.ofValue_iff.1 haction
    obtain rfl := IntEnum.ofValue_iff.1 hrecipient
    exact encode_eq_some.2 ⟨hvalid, host, _, _, Host.decode_iff.1 hhost, hwritten, hreserved,
      hunpack⟩

theorem decode_of_encode (h : c.encode = some data) : decode data = some c := by
  obtain ⟨hvalid, host, grant, reserved, hhost, hgrant, hreserved, hunpack⟩ := encode_eq_some.1 h
  obtain ⟨length, text, hgroup, hshort, hpadding, htext⟩ :=
    unpack_reserved (groupDigest_ok hvalid) hreserved
  have hpayload : ¬ (88 < length ∨ anySet (text.drop length.toNat) = true) := by
    rw [hpadding]
    exact not_or.2 ⟨hshort, Bool.false_ne_true⟩
  rw [decode, bind_eq_bind, bind_eq_some_iff]
  refine ⟨_, hunpack, ite_none_left_eq_some.2 ⟨not_not.2 rfl, ?_⟩⟩
  refine bind_eq_some_iff.2 ⟨_, hgroup, ite_none_left_eq_some.2 ⟨hpayload, ?_⟩⟩
  simp only [bind_eq_bind, bind_eq_some_iff]
  exact ⟨_, Host.decode_iff.2 hhost, _, decodeGrant_of_encodeGrant hgrant, _,
    Ordinal.decode_encode _, _, decodeId_encodeId _, _, decodeId_encodeId _, _,
    IntEnum.ofValue_value _, _, IntEnum.ofValue_value _, _, htext, data, h, rfl⟩

/-- A command is exactly its bytes. -/
theorem exact : Exact Command.encode decode := .of_iff ⟨encode_of_decode, decode_of_encode⟩

end Command

/-! ## Receipts -/

structure Receipt where
  request : RequestId
  host : Host
  window : Int
  outcome : Outcome
  flags : Int
  grant : Option Grant
  parentId : Option OwnerId
  contextId : Option ContextId
  commandDigest : Bytes
  verb : Verb
  action : Action
  entry : Entry := .unknown
  localSettlement : LocalSettlement := .unknown
  ownerPhase : Phase := .unknown
  contextPhase : Phase := .unknown
  closure : Closure := .none
  application : Application := .none
  mode : Int := 0
  actionState : Int := 0
  combatTargetPresent : Bool := false
  reason : Reason := .none
  closureScope : ClosureScope := .none

/-- `_RECEIPT`. -/
def receiptLayout : Format (Bytes × Bytes × Int × List Int × Bytes × Bytes × Bytes × Bytes ×
    List Int) :=
  .raw 16 ×ˢ .raw 16 ×ˢ .int 8 ×ˢ .ints [4, 4] ×ˢ .raw 216 ×ˢ .raw 16 ×ˢ .raw 16 ×ˢ .raw 32 ×ˢ
    .ints (List.replicate 14 4)

namespace Receipt

variable (r : Receipt)

/-- `history`: the receipt tells of possible effects of the action. -/
def history : Bool := hasFlag r.flags (outboundQueued + uncertainHistory)

/-- The action was settled before it entered. -/
def refused : Bool := r.entry = .neverEntered ∧ r.localSettlement = .settled ∧ ¬ r.history

/-- The checks on owner and context. -/
def ownershipOk : Bool :=
  decide (r.verb ∈ actionVerbs) = decide (r.action ≠ .none) ∧
    hasFlag r.flags ownerCleanup = decide (r.ownerPhase ∈ owned) ∧
    hasFlag r.flags contextCleanup = decide (r.contextPhase ∈ owned) ∧
    (if r.parentId.isNone then
      ¬ (r.grant.isSome ∨ r.contextId.isSome ∨ r.ownerPhase ≠ .unknown ∨ r.verb ∉ readVerbs)
    else r.verb ∉ readVerbs) ∧
    ¬ ((r.action ∈ [.attack, .cast] ∧ r.contextId.isNone) ∨
      (r.action ∈ [.useItem, .track, .groupChat] ∧ r.contextId.isSome)) ∧
    ¬ (r.action ∈ [.track, .groupChat] ∧ r.verb = .cancelAction) ∧
    ¬ (r.grant.isNone ∧ r.contextId.isSome) ∧
    ¬ (r.contextId.isNone ∧ r.contextPhase ≠ .unknown) ∧
    ¬ (r.verb ∈ contextVerbs ∧ r.contextId.isNone) ∧
    ¬ (r.verb ∈ [.openOwner, .ownerStatus, .stopOwner] ∧ r.contextId.isSome) ∧
    ¬ (r.contextPhase ∈ owned ∧ r.ownerPhase ∉ owned)

/-- The checks on what became of the action. -/
def settlementOk : Bool :=
  ¬ (r.action = .none ∧ (r.history ∨ r.entry ≠ .unknown ∨ r.localSettlement ≠ .unknown)) ∧
    ¬ (hasFlag r.flags outboundQueued ∧ r.entry ≠ .entered) ∧
    ¬ (r.entry = .neverEntered ∧ (r.history ∨ r.application ≠ .none)) ∧
    ¬ (r.entry = .neverEntered ∧ r.localSettlement ≠ .settled) ∧
    ¬ (r.outcome = .clientOutboundQueued ∧ ¬ hasFlag r.flags outboundQueued) ∧
    hasFlag r.flags applicationPending = decide (r.application ∈ [.pending, .unknown]) ∧
    ¬ (r.application = .interrupted ∧ (r.entry ≠ .entered ∨ ¬ hasFlag r.flags outboundQueued)) ∧
    ¬ (r.application ≠ .none ∧ r.action ∉ [.selfPower, .cast, .useItem])

/-- The checks on a closure that is neither absent nor expired. -/
def closedOk : Bool :=
  let scopePhase := if r.closureScope = .owner then r.ownerPhase else r.contextPhase
  let expected : Phase := if r.closure = .sceneRetired then .retired else .closed
  r.closureScope ≠ .none ∧ scopePhase = expected ∧
    ¬ (r.closureScope = .context ∧ r.contextId.isNone) ∧
    ¬ (r.closure = .nativeStopped ∧ (r.mode ≠ 1 ∨ r.combatTargetPresent)) ∧
    ¬ (r.action ≠ .none ∧ r.localSettlement ≠ .settled) ∧
    ¬ (r.closure = .neverBound ∧ r.action ≠ .none ∧ r.entry ≠ .neverEntered) ∧
    ¬ (r.closure = .neverBound ∧ r.entry = .entered)

/-- The checks on the closure of owner or context. -/
def closureOk : Bool :=
  decide (r.outcome = .historyExpired) = decide (r.closure = .historyExpired) ∧
    ¬ (r.closureScope = .context ∧ r.ownerPhase ∈ [.closed, .retired]) ∧
    ¬ (r.closureScope = .owner ∧ r.contextPhase ∈ [.closed, .retired] ∧
      r.contextPhase ≠ r.ownerPhase) ∧
    ¬ (r.closure = .historyExpired ∧ r.closureScope ≠ .none) ∧
    if r.closure = .none then
      ¬ (r.closureScope ≠ .none ∨ r.ownerPhase ∈ [.closed, .retired] ∨
        r.contextPhase ∈ [.closed, .retired])
    else if r.closure = .historyExpired then
      ¬ (r.outcome ≠ .historyExpired ∨ r.flags ≠ 0 ∨ r.entry ≠ .unknown ∨
        r.ownerPhase ≠ .unknown ∨ r.contextPhase ≠ .unknown ∨ r.localSettlement ≠ .unknown)
    else r.closedOk

/-- The checks on refusals. -/
def refusalOk : Bool :=
  ¬ (r.outcome ∈ [.deferred, .actionCancelled, .powerReuseBlocked] ∧ r.action ≠ .none ∧
      ¬ r.refused) ∧
    ¬ (r.reason ∈ [.targetOccupied, .localAction, .nativeUse, .childCleanup, .admissionChanged,
        .manualActivity] ∧
      (r.verb ∉ [.submit, .actionStatus] ∨ r.action = .none ∨ ¬ r.refused ∨
        r.application ≠ .none ∨ r.outcome ≠ .deferred)) ∧
    if r.outcome = .powerReuseBlocked then
      ¬ (r.action ∉ [.cast, .selfPower] ∨ r.verb ∉ [.submit, .actionStatus] ∨
        r.reason ≠ .powerReuse ∨ r.ownerPhase = .unknown)
    else r.reason ≠ .powerReuse

/-- The checks of `encode`. -/
def ok : Bool :=
  digestOk r.commandDigest false ∧ uintOk r.window 32 true ∧ uintOk r.flags 32 false ∧
    uintOk r.mode 32 false ∧ uintOk r.actionState 32 false ∧ ¬ hasOther r.flags 31 ∧
    r.ownershipOk ∧ r.settlementOk ∧ r.closureOk ∧ r.refusalOk

def encode : Option Bytes := do
  if ¬ r.ok then none
  else
    let host ← r.host.encode
    let grant ← encodeGrant r.grant
    receiptLayout.pack (r.request.encode, host, r.window, [IntEnum.value r.outcome, r.flags], grant,
      encodeId r.parentId, encodeId r.contextId, r.commandDigest,
      [version, IntEnum.value r.verb, IntEnum.value r.action, IntEnum.value r.entry,
        IntEnum.value r.localSettlement, IntEnum.value r.ownerPhase, IntEnum.value r.contextPhase,
        IntEnum.value r.closure, IntEnum.value r.application, r.mode, r.actionState,
        if r.combatTargetPresent then 1 else 0, IntEnum.value r.reason,
        IntEnum.value r.closureScope])

def decode (data : Bytes) : Option Receipt := do
  let (request, host, window, header, grant, parentId, contextId, commandDigest, words) ←
    receiptLayout.unpack data
  match header, words with
  | [outcome, flags], [version', verb, action, entry, localSettlement, ownerPhase, contextPhase,
      closure, application, mode, actionState, present, reason, closureScope] =>
    if version' ≠ version then none
    else
      let request ← Ordinal.decode request
      let host ← Host.decode host
      let outcome ← IntEnum.ofValue outcome
      let grant ← decodeGrant grant
      let parentId ← decodeId parentId
      let contextId ← decodeId contextId
      let verb ← IntEnum.ofValue verb
      let action ← IntEnum.ofValue action
      let entry ← IntEnum.ofValue entry
      let localSettlement ← IntEnum.ofValue localSettlement
      let ownerPhase ← IntEnum.ofValue ownerPhase
      let contextPhase ← IntEnum.ofValue contextPhase
      let closure ← IntEnum.ofValue closure
      let application ← IntEnum.ofValue application
      let reason ← IntEnum.ofValue reason
      let closureScope ← IntEnum.ofValue closureScope
      let result : Receipt := ⟨request, host, window, outcome, flags, grant, parentId, contextId,
        commandDigest, verb, action, entry, localSettlement, ownerPhase, contextPhase, closure,
        application, mode, actionState, present ≠ 0, reason, closureScope⟩
      if 1 < present ∨ result.encode ≠ some data then none
      else return result
  | _, _ => none

variable {r} {data : Bytes}

theorem encode_of_decode (h : decode data = some r) : r.encode = some data := by
  rw [decode, bind_eq_bind, bind_eq_some_iff] at h
  obtain ⟨⟨request, host, window, header, grant, parentId, contextId, commandDigest, words⟩, -, h⟩ :=
    h
  dsimp only at h
  split at h
  case h_2 => cases h
  case h_1 =>
    rw [ite_none_left_eq_some] at h
    obtain ⟨-, h⟩ := h
    -- one step for each part that is read
    iterate 16
      replace h := bind_eq_some_iff.1 h
      obtain ⟨_, -, h⟩ := h
    rw [ite_none_left_eq_some, not_or, not_not] at h
    obtain ⟨⟨-, hencode⟩, h⟩ := h
    cases h
    exact hencode

theorem decode_of_encode (h : r.encode = some data) : decode data = some r := by
  have hencode := h
  obtain ⟨-, h⟩ := ite_none_left_eq_some.1 h
  obtain ⟨host, hhost, h⟩ := bind_eq_some_iff.1 h
  obtain ⟨grant, hgrant, h⟩ := bind_eq_some_iff.1 h
  have hpresent : ¬ 1 < (if r.combatTargetPresent then 1 else 0 : Int) := by split <;> decide
  have hback : decide ((if r.combatTargetPresent then 1 else 0 : Int) ≠ 0) =
      r.combatTargetPresent := by
    cases r.combatTargetPresent <;> rfl
  rw [decode, bind_eq_bind, bind_eq_some_iff]
  refine ⟨_, receiptLayout.pack_iff.1 h, ?_⟩
  dsimp only
  refine ite_none_left_eq_some.2 ⟨not_not.2 rfl, ?_⟩
  refine bind_eq_some_iff.2 ⟨_, Ordinal.decode_encode _, ?_⟩
  refine bind_eq_some_iff.2 ⟨_, Host.decode_iff.2 hhost, ?_⟩
  refine bind_eq_some_iff.2 ⟨_, IntEnum.ofValue_value _, ?_⟩
  refine bind_eq_some_iff.2 ⟨_, decodeGrant_of_encodeGrant hgrant, ?_⟩
  refine bind_eq_some_iff.2 ⟨_, decodeId_encodeId _, ?_⟩
  refine bind_eq_some_iff.2 ⟨_, decodeId_encodeId _, ?_⟩
  iterate 10 refine bind_eq_some_iff.2 ⟨_, IntEnum.ofValue_value _, ?_⟩
  rw [hback]
  exact ite_none_left_eq_some.2 ⟨not_or.2 ⟨hpresent, not_not.2 hencode⟩, rfl⟩

/-- A receipt is exactly its bytes. -/
theorem exact : Exact Receipt.encode decode := .of_iff ⟨encode_of_decode, decode_of_encode⟩

end Receipt

end ShadowbaneLab.ActorActionWire
