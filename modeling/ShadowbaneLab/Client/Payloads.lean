/-
# Payloads are exactly their bytes

The wire modules put together: each payload and fence is read back from the bytes it is written
as, accepted bytes are written again, and journals keep the bytes as hexadecimal text
(`guard_spending_journal.py`, `condemn_transaction.py`).
-/
import Mathlib.Data.Rat.Star
import ShadowbaneLab.Client.ActorActionWire
import ShadowbaneLab.Client.CondemnWire
import ShadowbaneLab.Client.GuardFundingWire
import ShadowbaneLab.Client.GuardUpgradeWire

namespace ShadowbaneLab

open Foundation

/-! ## Journals -/

/-- `codec.decode(bytes.fromhex(data))` of the guard journal. -/
def spendingRead {α : Type} (decode : Bytes → Option α) (text : List Char) : Option α := do
  let raw ← ofHexText text
  decode raw

/-- `_bytes` of the Condemn journal. -/
def condemnBytes (value : List Char) (size : ℕ) : Option Bytes := do
  if value.length ≠ size * 2 then none
  else
    let raw ← ofHexText value
    if hexText raw ≠ value then none
    else return raw

theorem condemnBytes_hexText (data : Bytes) :
    condemnBytes (hexText data) data.length = some data := by
  have hlength : (hexText data).length = data.length * 2 := by
    rw [length_hexText, mul_comm]
  rw [condemnBytes, if_neg (not_not.2 hlength), ofHexText_hexText]
  exact if_neg (not_not.2 rfl)

/-- An exact payload that a journal reads back from the text it keeps. -/
structure Journaled {α : Type} (encode : α → Option Bytes) (decode : Bytes → Option α)
    (read : List Char → Option α) : Prop extends Exact encode decode where
  read_hexText : ∀ {a data}, encode a = some data → read (hexText data) = some a

theorem Journaled.spending {α : Type} {encode : α → Option Bytes} {decode : Bytes → Option α}
    (exact : Exact encode decode) : Journaled encode decode (spendingRead decode) where
  toExact := exact
  read_hexText h := by
    rw [spendingRead, ofHexText_hexText, Option.bind_eq_bind, Option.bind_some,
      exact.decode_encode h]

/-- `decode(_bytes(value, size))` of the Condemn journal. -/
def condemnRead {α : Type} (decode : Bytes → Option α) (size : ℕ) (value : List Char) :
    Option α := do
  let raw ← condemnBytes value size
  decode raw

theorem Journaled.condemn {α : Type} {encode : α → Option Bytes} {decode : Bytes → Option α}
    {size : ℕ} (exact : Exact encode decode)
    (hsize : ∀ {a data}, encode a = some data → data.length = size) :
    Journaled encode decode (condemnRead decode size) where
  toExact := exact
  read_hexText {a data} h := by
    rw [condemnRead, ← hsize h, condemnBytes_hexText, Option.bind_eq_bind, Option.bind_some,
      exact.decode_encode h]

/-- The journaled commands, for every verb, and receipts are exactly their bytes, and the journal
that keeps them reads them back. -/
theorem journaled_payloads :
    (∀ verb, Journaled (GuardUpgradeWire.Command.encode · verb)
      (GuardUpgradeWire.Command.decode · verb)
      (spendingRead (GuardUpgradeWire.Command.decode · verb))) ∧
    Journaled GuardUpgradeWire.receiptCodec.encode GuardUpgradeWire.receiptCodec.decode
      (spendingRead GuardUpgradeWire.receiptCodec.decode) ∧
    (∀ verb, Journaled (GuardFundingWire.Command.encode · verb)
      (GuardFundingWire.Command.decode · verb)
      (spendingRead (GuardFundingWire.Command.decode · verb))) ∧
    Journaled GuardFundingWire.receiptCodec.encode GuardFundingWire.receiptCodec.decode
      (spendingRead GuardFundingWire.receiptCodec.decode) ∧
    (∀ verb, Journaled (NavigationWire.Command.encode · verb)
      (NavigationWire.Command.decode · verb)
      (spendingRead (NavigationWire.Command.decode · verb))) ∧
    Journaled NavigationWire.receiptCodec.encode NavigationWire.receiptCodec.decode
      (spendingRead NavigationWire.receiptCodec.decode) ∧
    (∀ verb, Journaled (CondemnWire.Command.encode · verb)
      (CondemnWire.Command.decode · verb)
      (condemnRead (CondemnWire.Command.decode · verb) 576)) ∧
    Journaled CondemnWire.Receipt.encode CondemnWire.Receipt.decode
      (condemnRead CondemnWire.Receipt.decode 384) :=
  ⟨fun _ => .spending (.of_iff GuardUpgradeWire.Command.decode_iff),
    .spending (.of_iff VendorWire.ReceiptCodec.decode_iff),
    fun _ => .spending (.of_iff GuardFundingWire.Command.decode_iff),
    .spending (.of_iff VendorWire.ReceiptCodec.decode_iff),
    fun _ => .spending (.of_iff NavigationWire.Command.decode_iff),
    .spending (.of_iff VendorWire.ReceiptCodec.decode_iff),
    fun _ => .condemn (.of_iff CondemnWire.Command.decode_iff) CondemnWire.Command.length_encode,
    .condemn (.of_iff CondemnWire.Receipt.decode_iff) CondemnWire.Receipt.length_encode⟩

/-! ## Actor actions -/

/-- Actor commands, receipts and the two fences in any state are exactly their bytes; so the bytes
that a command's or a fence's digest is taken of determine it. -/
theorem actor_payloads :
    Exact ActorActionWire.Command.encode ActorActionWire.Command.decode ∧
    Exact ActorActionWire.Receipt.encode ActorActionWire.Receipt.decode ∧
    Exact (fun b : ActorFence.ActorBinding × ActorFence.State => b.1.encode b.2)
      ActorFence.ActorBinding.decode ∧
    Exact (fun b : ActorFence.ContextBinding × ActorFence.State => b.1.encode b.2)
      ActorFence.ContextBinding.decode :=
  ⟨ActorActionWire.Command.exact, ActorActionWire.Receipt.exact, ActorFence.ActorBinding.exact,
    ActorFence.ContextBinding.exact⟩

/-! ## Movement -/

section

open MovementWire

/-- A payload whose values of single precision are read back from their bytes, and whose accepted
bytes are written again. -/
structure ExactSingle {α : Type} (single : α → Prop) (encode : α → Option Bytes)
    (decode : Bytes → Option α) : Prop where
  decode_encode : ∀ {a data}, single a → encode a = some data → decode data = some a
  encode_decode : ∀ {data a}, decode data = some a → encode a = some data

/-- Settings that `encode` accepts are decoded exactly when single precision does not round the
camera's speed to zero; all else that the movement payloads promise holds of every value. -/
theorem movement_payloads (verb : Verb) (s : Settings) (data : Bytes) :
    ExactSingle Command.Single (Command.encode · verb) (Command.decode · verb) ∧
    ExactSingle (fun receipt => receipt.settings.Single) Receipt.encode Receipt.decode ∧
    ExactSingle (fun snapshot => snapshot.settings.Single) Snapshot.encode Snapshot.decode ∧
    ExactSingle Settings.Single Settings.encode Settings.decode ∧
    (s.encode = some data →
      ((∃ s', Settings.decode data = some s') ↔
        2 ^ (-150 : ℤ) < s.cameraRadiansPerSecond.toRat)) :=
  ⟨⟨Command.decode_of_encode, Command.encode_of_decode⟩,
    ⟨Receipt.decode_of_encode, Receipt.encode_of_decode⟩,
    ⟨Snapshot.decode_of_encode, Snapshot.encode_of_decode⟩,
    ⟨Settings.decode_of_encode_single, Settings.encode_of_decode⟩,
    fun h => Option.isSome_iff_exists.symm.trans (Settings.decode_isSome_iff h)⟩

theorem movement_payloads_default :
    ∃ data, ({} : Settings).encode = some data ∧ ∃ s', Settings.decode data = some s' := by
  have hsome : ({} : Settings).encode.isSome = true := by decide +kernel
  have hfast : (2 : ℚ) ^ (-150 : ℤ) < ({} : Settings).cameraRadiansPerSecond.toRat := by
    norm_num [Floating.toRat]
  obtain ⟨data, hdata⟩ := Option.isSome_iff_exists.1 hsome
  exact ⟨data, hdata, ((movement_payloads .stop {} data).2.2.2.2 hdata).2 hfast⟩

/-- The default settings with a camera that hardly turns. -/
def slowCamera : Settings :=
  { cameraRadiansPerSecond := .finite false (1 / 2 ^ 200) (by positivity) }

/-- A speed that single precision rounds to zero is written and then refused. -/
theorem slowCamera_refused :
    ∃ data, slowCamera.encode = some data ∧ Settings.decode data = none := by
  have hsome : slowCamera.encode.isSome = true := by decide +kernel
  have hnone : slowCamera.encode.bind Settings.decode = none := by decide +kernel
  obtain ⟨data, hdata⟩ := Option.isSome_iff_exists.1 hsome
  rw [hdata] at hnone
  exact ⟨data, hdata, hnone⟩

end

end ShadowbaneLab
