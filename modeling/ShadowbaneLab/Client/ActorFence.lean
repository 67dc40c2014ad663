/-
# Actor and target fences

`src/shadowbane_lab/client_extension/actor_action_fence.py`: ordinals, checked digests, keys and
addresses, and the two fences with their states.  A fence is built only with the fields that its
constructor accepts.
-/
import ShadowbaneLab.Client.VendorWire

namespace ShadowbaneLab.ActorFence

open Foundation

/-! ## Checked values -/

/-- `uint(value, bits, positive=positive)` accepts the value. -/
def uintOk (value : Int) (bits : ℕ) (positive : Bool) : Bool :=
  (if positive then 1 else 0) ≤ value ∧ value < 2 ^ bits

/-- `digest(value, zero=zero)` accepts the value. -/
def digestOk (value : Bytes) (zero : Bool) : Bool := value.length = 32 ∧ anySet value = !zero

/-- `address(value)` accepts the value. -/
def addressOk (value : Int) : Bool :=
  uintOk value 32 true ∧ (0x10000 ≤ value ∧ value ≤ 0x7FFEFFFC) ∧ value % 4 = 0

/-- `key(value)` accepts the value. -/
def keyOk (value : Int × Int) : Bool := uintOk value.1 32 true ∧ uintOk value.2 32 true

/-! ## Ordinals -/

/-- The namespaces of ordinals: the subclasses of `Ordinal`. -/
inductive OrdinalKind
  | owner
  | context
  | request
deriving DecidableEq

/-- A positive number of 128 bits in one namespace. -/
@[ext] structure Ordinal (kind : OrdinalKind) where
  value : ℕ
  pos : 0 < value
  bound : value < 256 ^ 16

abbrev OwnerId : Type := Ordinal .owner
abbrev ContextId : Type := Ordinal .context
abbrev RequestId : Type := Ordinal .request

namespace Ordinal

variable {kind : OrdinalKind}

/-- `self.value.to_bytes(16, "big")`. -/
def encode (ordinal : Ordinal kind) : Bytes := (littleEndian 16 ordinal.value).reverse

def decode (data : Bytes) : Option (Ordinal kind) :=
  let value := ofLittleEndian data.reverse
  if h : data.length = 16 ∧ 0 < value ∧ value < 256 ^ 16 then some ⟨value, h.2.1, h.2.2⟩ else none

@[simp] theorem length_encode (ordinal : Ordinal kind) : ordinal.encode.length = 16 := by
  rw [encode, List.length_reverse, length_littleEndian]

theorem decode_encode (ordinal : Ordinal kind) : decode ordinal.encode = some ordinal := by
  have hvalue : ofLittleEndian ordinal.encode.reverse = ordinal.value := by
    rw [encode, List.reverse_reverse, ofLittleEndian_littleEndian ordinal.bound]
  simp only [decode, hvalue, length_encode, ordinal.pos, ordinal.bound, and_self, dite_true]

theorem encode_of_decode {data : Bytes} {ordinal : Ordinal kind} (h : decode data = some ordinal) :
    ordinal.encode = data := by
  simp only [decode, Option.dite_none_right_eq_some, Option.some.injEq] at h
  obtain ⟨⟨hlength, -⟩, rfl⟩ := h
  have hback := littleEndian_ofLittleEndian data.reverse
  rw [List.length_reverse, hlength] at hback
  rw [encode, hback, List.reverse_reverse]

theorem anySet_encode (ordinal : Ordinal kind) : anySet ordinal.encode = true := by
  by_contra hzero
  have hreverse : anySet ordinal.encode.reverse = false := by
    rw [anySet, List.any_reverse]
    exact Bool.eq_false_of_not_eq_true hzero
  rw [anySet_eq_false_iff_ofLittleEndian, encode, List.reverse_reverse,
    ofLittleEndian_littleEndian ordinal.bound] at hreverse
  exact ordinal.pos.ne' hreverse

end Ordinal

/-! ## Actor fences -/

inductive State
  | registering
  | pending
  | entered
  | revoked
  | enteredRevoked
deriving DecidableEq

instance : IntEnum State where
  members := [.registering, .pending, .entered, .revoked, .enteredRevoked]
  value
    | .registering => 0
    | .pending => 1
    | .entered => 2
    | .revoked => 3
    | .enteredRevoked => 4
  mem_members := by rintro ⟨⟩ <;> decide
  value_injective := by rintro ⟨⟩ ⟨⟩ <;> simp

inductive Purpose
  | combat
  | preparation
deriving DecidableEq

instance : IntEnum Purpose where
  members := [.combat, .preparation]
  value
    | .combat => 0
    | .preparation => 1
  mem_members := by rintro ⟨⟩ <;> decide
  value_injective := by rintro ⟨⟩ ⟨⟩ <;> simp

structure ActorBindingFields where
  clientPid : Int
  producerPid : Int
  clientCreation : Int
  producerCreation : Int
  producerGeneration : Int
  movementGeneration : Int
  scene : Int
  ownerId : OwnerId
  actorKey : Int × Int
  actorHint : Int
  localName : Bytes
  server : Bytes
  owner : Bytes
  operation : Bytes
  purpose : Purpose := .combat

/-- What `__post_init__` checks. -/
def ActorBindingFields.ok (b : ActorBindingFields) : Bool :=
  (uintOk b.clientPid 32 true ∧ uintOk b.producerPid 32 true) ∧
    (uintOk b.clientCreation 64 true ∧ uintOk b.producerCreation 64 true ∧
      uintOk b.producerGeneration 64 true ∧ uintOk b.scene 64 true) ∧
    uintOk b.movementGeneration 64 (b.purpose = .combat) ∧
    (b.purpose = .preparation → b.movementGeneration = 0) ∧
    (keyOk b.actorKey ∧ b.actorKey.2 = 53) ∧ addressOk b.actorHint ∧
    digestOk b.localName false ∧ digestOk b.server false ∧ digestOk b.owner false ∧
    digestOk b.operation false

structure ActorBinding extends ActorBindingFields where
  accepted : toActorBindingFields.ok = true

/-- `SIZE`. -/
def size : ℕ := 320

/-- `b"WBAOWN4\0"`. -/
def parentMagic : Bytes := asciiBytes "WBAOWN4" ++ zeros 1

/-- `_PARENT`. -/
def parentLayout : Format (Bytes × List Int × List Int × Bytes × List Int × Bytes × Bytes ×
    Bytes × Bytes × Bytes) :=
  .raw 8 ×ˢ .ints (List.replicate 6 4) ×ˢ .ints (List.replicate 5 8) ×ˢ .raw 16 ×ˢ
    .ints (List.replicate 4 4) ×ˢ .raw 32 ×ˢ .raw 32 ×ˢ .raw 32 ×ˢ .raw 32 ×ˢ .raw 88

namespace ActorBinding

def encode (b : ActorBinding) (state : State) : Option Bytes :=
  parentLayout.pack (parentMagic,
    [4, size, IntEnum.value state, IntEnum.value b.purpose, b.clientPid, b.producerPid],
    [b.clientCreation, b.producerCreation, b.producerGeneration, b.movementGeneration, b.scene],
    b.ownerId.encode, [b.actorKey.1, b.actorKey.2, b.actorHint, 0], b.localName, b.server, b.owner,
    b.operation, zeros 88)

def decode (data : Bytes) : Option (ActorBinding × State) := do
  if data.length ≠ size then none
  else
    let (magic, header, lifetimes, ownerId, actor, localName, server, owner, operation, padding) ←
      parentLayout.unpack data
    match header, lifetimes, actor with
    | [version, size', state, purpose, clientPid, producerPid],
        [clientCreation, producerCreation, producerGeneration, movementGeneration, scene],
        [actorId, actorType, actorHint, reserved] =>
      if magic ≠ parentMagic ∨ version ≠ 4 ∨ size' ≠ size ∨ reserved ≠ 0 ∨ anySet padding then none
      else
        let ownerId ← Ordinal.decode ownerId
        let purpose ← IntEnum.ofValue purpose
        let fields : ActorBindingFields := ⟨clientPid, producerPid, clientCreation,
          producerCreation, producerGeneration, movementGeneration, scene, ownerId,
          (actorId, actorType), actorHint, localName, server, owner, operation, purpose⟩
        if h : fields.ok = true then
          let state ← IntEnum.ofValue state
          return (⟨fields, h⟩, state)
        else none
    | _, _, _ => none

variable {b : ActorBinding} {state : State} {data : Bytes}

theorem encode_of_decode (h : decode data = some (b, state)) : b.encode state = some data := by
  simp only [decode, Option.bind_eq_bind, Option.ite_none_left_eq_some, Option.bind_eq_some_iff,
    Prod.exists] at h
  obtain ⟨-, magic, header, lifetimes, owner, actor, localName, server, ownerName, operation,
    padding, hunpack, h⟩ := h
  split at h
  case h_2 => cases h
  case h_1 =>
    simp only [Option.ite_none_left_eq_some, Option.bind_eq_some_iff, not_or, not_not,
      Bool.not_eq_true, Option.dite_none_right_eq_some] at h
    obtain ⟨⟨rfl, rfl, rfl, rfl, hpadding⟩, owner', howner, purpose', hpurpose, hok, state', hstate,
      h⟩ := h
    cases h
    have hholds := Format.holds_of_unpack hunpack
    simp only [parentLayout, Format.holds_pair, Format.holds_raw] at hholds
    obtain ⟨-, -, -, -, -, -, -, -, -, hlength⟩ := hholds
    obtain rfl := Ordinal.encode_of_decode howner
    rw [eq_zeros_of_anySet hpadding hlength, ← IntEnum.ofValue_iff.1 hpurpose,
      ← IntEnum.ofValue_iff.1 hstate] at hunpack
    exact parentLayout.pack_iff.2 hunpack

theorem decode_of_encode (h : b.encode state = some data) : decode data = some (b, state) := by
  have hlength : data.length = size := parentLayout.length_pack h
  have haccepted := b.accepted
  simp only [decode, hlength, parentLayout.pack_iff.1 h, Option.bind_eq_bind, Option.bind_some,
    Ordinal.decode_encode, IntEnum.ofValue_value, anySet_zeros, ne_eq, not_true_eq_false,
    Bool.false_eq_true, or_self, if_false, haccepted, dite_true, Option.pure_def]

/-- A fence with its state is exactly its bytes. -/
theorem exact : Exact (fun b : ActorBinding × State => b.1.encode b.2) decode :=
  .of_iff ⟨encode_of_decode, decode_of_encode⟩

end ActorBinding

/-! ## Context fences -/

inductive Authority
  | manualPlayer
  | npc
deriving DecidableEq

instance : IntEnum Authority where
  members := [.manualPlayer, .npc]
  value
    | .manualPlayer => 1
    | .npc => 2
  mem_members := by rintro ⟨⟩ <;> decide
  value_injective := by rintro ⟨⟩ ⟨⟩ <;> simp

structure ContextBindingFields where
  parentDigest : Bytes
  contextId : ContextId
  authority : Authority
  targetHint : Int
  targetKey : Int × Int
  revision : Int
  store : Bytes
  entry : Bytes
  targetName : Bytes

/-- What `__post_init__` checks. -/
def ContextBindingFields.ok (b : ContextBindingFields) : Bool :=
  let npc : Bool := b.authority = .npc
  digestOk b.parentDigest false ∧ (keyOk b.targetKey ∧ b.targetKey.2 = if npc then 37 else 53) ∧
    addressOk b.targetHint ∧ uintOk b.revision 64 (!npc) ∧ (npc → b.revision = 0) ∧
    digestOk b.store npc ∧ digestOk b.entry npc ∧ digestOk b.targetName npc

structure ContextBinding extends ContextBindingFields where
  accepted : toContextBindingFields.ok = true

/-- `b"WBACXT4\0"`. -/
def contextMagic : Bytes := asciiBytes "WBACXT4" ++ zeros 1

/-- `_CONTEXT`. -/
def contextLayout : Format (Bytes × List Int × Bytes × Bytes × List Int × Int × Bytes × Bytes ×
    Bytes × Bytes) :=
  .raw 8 ×ˢ .ints (List.replicate 4 4) ×ˢ .raw 32 ×ˢ .raw 16 ×ˢ .ints (List.replicate 4 4) ×ˢ
    .int 8 ×ˢ .raw 32 ×ˢ .raw 32 ×ˢ .raw 32 ×ˢ .raw 128

namespace ContextBinding

def encode (b : ContextBinding) (state : State) : Option Bytes :=
  contextLayout.pack (contextMagic, [4, size, IntEnum.value state, 0], b.parentDigest,
    b.contextId.encode, [IntEnum.value b.authority, b.targetHint, b.targetKey.1, b.targetKey.2],
    b.revision, b.store, b.entry, b.targetName, zeros 128)

def decode (data : Bytes) : Option (ContextBinding × State) := do
  if data.length ≠ size then none
  else
    let (magic, header, parentDigest, contextId, target, revision, store, entry, targetName,
      padding) ← contextLayout.unpack data
    match header, target with
    | [version, size', state, reserved], [authority, targetHint, targetId, targetType] =>
      if magic ≠ contextMagic ∨ version ≠ 4 ∨ size' ≠ size ∨ reserved ≠ 0 ∨ anySet padding then none
      else
        let contextId ← Ordinal.decode contextId
        let authority ← IntEnum.ofValue authority
        let fields : ContextBindingFields := ⟨parentDigest, contextId, authority, targetHint,
          (targetId, targetType), revision, store, entry, targetName⟩
        if h : fields.ok = true then
          let state ← IntEnum.ofValue state
          return (⟨fields, h⟩, state)
        else none
    | _, _ => none

variable {b : ContextBinding} {state : State} {data : Bytes}

theorem encode_of_decode (h : decode data = some (b, state)) : b.encode state = some data := by
  simp only [decode, Option.bind_eq_bind, Option.ite_none_left_eq_some, Option.bind_eq_some_iff,
    Prod.exists] at h
  obtain ⟨-, magic, header, parentDigest, context, target, revision, store, entry, targetName,
    padding, hunpack, h⟩ := h
  split at h
  case h_2 => cases h
  case h_1 =>
    simp only [Option.ite_none_left_eq_some, Option.bind_eq_some_iff, not_or, not_not,
      Bool.not_eq_true, Option.dite_none_right_eq_some] at h
    obtain ⟨⟨rfl, rfl, rfl, rfl, hpadding⟩, context', hcontext, authority', hauthority, hok, state',
      hstate, h⟩ := h
    cases h
    have hholds := Format.holds_of_unpack hunpack
    simp only [contextLayout, Format.holds_pair, Format.holds_raw] at hholds
    obtain ⟨-, -, -, -, -, -, -, -, -, hlength⟩ := hholds
    obtain rfl := Ordinal.encode_of_decode hcontext
    rw [eq_zeros_of_anySet hpadding hlength, ← IntEnum.ofValue_iff.1 hauthority,
      ← IntEnum.ofValue_iff.1 hstate] at hunpack
    exact contextLayout.pack_iff.2 hunpack

theorem decode_of_encode (h : b.encode state = some data) : decode data = some (b, state) := by
  have hlength : data.length = size := contextLayout.length_pack h
  have haccepted := b.accepted
  simp only [decode, hlength, contextLayout.pack_iff.1 h, Option.bind_eq_bind, Option.bind_some,
    Ordinal.decode_encode, IntEnum.ofValue_value, anySet_zeros, ne_eq, not_true_eq_false,
    Bool.false_eq_true, or_self, if_false, haccepted, dite_true, Option.pure_def]

theorem exact : Exact (fun b : ContextBinding × State => b.1.encode b.2) decode :=
  .of_iff ⟨encode_of_decode, decode_of_encode⟩

end ContextBinding

end ShadowbaneLab.ActorFence
