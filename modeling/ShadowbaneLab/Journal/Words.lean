/-
# Native words as Python integers

What the two sides of a payload share: the client unpacks the words of a native structure as
integers, and its comparisons and masks agree with the native ones.
-/
import ShadowbaneLab.Client.VendorWire
import ShadowbaneLab.Native.Desk

namespace ShadowbaneLab.Native

open Foundation

/-- A word as the client unpacks it. -/
def unpacked32 (x : UInt32) : Int := x.toNat

def unpacked64 (x : UInt64) : Int := x.toNat

variable {x y : UInt32}

@[simp] theorem unpacked32_inj : unpacked32 x = unpacked32 y ↔ x = y := by
  rw [unpacked32, unpacked32, Nat.cast_inj, UInt32.toNat_inj]

@[simp] theorem unpacked64_inj {x y : UInt64} : unpacked64 x = unpacked64 y ↔ x = y := by
  rw [unpacked64, unpacked64, Nat.cast_inj, UInt64.toNat_inj]

@[simp] theorem unpacked32_le : unpacked32 x ≤ unpacked32 y ↔ x ≤ y := by
  rw [unpacked32, unpacked32, Nat.cast_le, UInt32.le_iff_toNat_le]

@[simp] theorem unpacked32_lt : unpacked32 x < unpacked32 y ↔ x < y := by
  rw [unpacked32, unpacked32, Nat.cast_lt, UInt32.lt_iff_toNat_lt]

@[simp] theorem unpacked64_le {x y : UInt64} : unpacked64 x ≤ unpacked64 y ↔ x ≤ y := by
  rw [unpacked64, unpacked64, Nat.cast_le, UInt64.le_iff_toNat_le]

theorem unpacked32_range (x : UInt32) : 0 ≤ unpacked32 x ∧ unpacked32 x < 2 ^ 32 := by
  have h : (x.toNat : Int) < 2 ^ 32 := by exact_mod_cast x.toNat_lt
  exact ⟨Int.natCast_nonneg _, h⟩

theorem unpacked64_range (x : UInt64) : 0 ≤ unpacked64 x ∧ unpacked64 x < 2 ^ 64 := by
  have h : (x.toNat : Int) < 2 ^ 64 := by exact_mod_cast x.toNat_lt
  exact ⟨Int.natCast_nonneg _, h⟩

@[simp] theorem uint_unpacked32 (x : UInt32) :
    VendorWire.uint (unpacked32 x) 32 = some (unpacked32 x) :=
  if_pos (unpacked32_range x)

@[simp] theorem uint_unpacked64 (x : UInt64) :
    VendorWire.uint (unpacked64 x) 64 = some (unpacked64 x) :=
  if_pos (unpacked64_range x)

@[simp] theorem unpacked32_eq_zero {x : UInt32} : unpacked32 x = 0 ↔ x = 0 :=
  unpacked32_inj (y := 0)

@[simp] theorem unpacked64_eq_zero {x : UInt64} : unpacked64 x = 0 ↔ x = 0 :=
  unpacked64_inj (y := 0)

/-- `value & mask`. -/
theorem hasFlag_unpacked32 (x mask : UInt32) :
    hasFlag (unpacked32 x) (unpacked32 mask) = decide (x &&& mask ≠ 0) := by
  have hland : Int.land (unpacked32 x) (unpacked32 mask) = unpacked32 (x &&& mask) := by
    rw [unpacked32, unpacked32, unpacked32, UInt32.toNat_and]
    rfl
  rw [hasFlag, hland, Bool.eq_iff_iff, bne_iff_ne, ne_eq, unpacked32_eq_zero, decide_eq_true_iff]

/-- The lease of a host as the client reads it. -/
def Host.read (host : Host) : MovementWire.Host :=
  ⟨unpacked32 host.process, unpacked32 host.generation, unpacked64 host.creation⟩

theorem Host.pack_read (host : Host) :
    MovementWire.hostLayout.pack (host.read.processId, host.read.leaseGeneration,
      host.read.creationFiletime) = some host.bytes :=
  Format.pack_pair (Format.pack_word (.of32 host.process))
    (Format.pack_pair (Format.pack_word (.of32 host.generation))
      (Format.pack_word (.of64 host.creation)))

theorem unpacked32_lease {x : UInt32} (hx : x ≠ 0) (hsmall : x ≤ 0x7fffffff) :
    1 ≤ unpacked32 x ∧ unpacked32 x < 2 ^ 31 := by
  have hrange := (unpacked32_range x).1
  have hne : unpacked32 x ≠ 0 := mt unpacked32_eq_zero.1 hx
  have hle : unpacked32 x ≤ 2147483647 := (unpacked32_le (y := 0x7fffffff)).2 hsmall
  omega

variable {host : Host}

/-- What the client reads from the bytes of a host is that host. -/
theorem Host.read_of_decode {lease : MovementWire.Host}
    (h : MovementWire.Host.decode host.bytes = some lease) : lease = host.read := by
  have hunpack := (MovementWire.Host.encode_eq_some.1 (MovementWire.Host.decode_iff.1 h)).2
  obtain ⟨process, generation, creation⟩ := lease
  rw [MovementWire.hostLayout.pack_iff.1 host.pack_read, Option.some.injEq, Prod.mk.injEq,
    Prod.mk.injEq] at hunpack
  obtain ⟨rfl, rfl, rfl⟩ := hunpack
  rfl

/-! ## Receipts -/

/-- An outcome as the client reads it. -/
def Outcome.read : Outcome → VendorWire.Outcome
  | .observed => .observed
  | .submitted => .submitted
  | .stale => .stale
  | .unavailable => .unavailable
  | .invalid => .invalid
  | .pending => .pending
  | .uncertain => .uncertain
  | .exhausted => .exhausted

theorem Outcome.ofValue_code (outcome : Outcome) :
    IntEnum.ofValue (unpacked32 outcome.code) = some outcome.read := by
  cases outcome <;> rfl

theorem Host.decode_bytes (h : host.valid = true) :
    MovementWire.Host.decode host.bytes = some host.read := by
  rw [valid, decide_eq_true_iff] at h
  obtain ⟨hprocess, hsmall, hgeneration, hsmall', hcreation⟩ := h
  refine MovementWire.Host.decode_iff.2 (MovementWire.Host.encode_eq_some.2
    ⟨⟨unpacked32_lease hprocess hsmall, unpacked32_lease hgeneration hsmall', ?_⟩,
      MovementWire.hostLayout.pack_iff.1 host.pack_read⟩)
  have hrange := unpacked64_range host.creation
  have hne : unpacked64 host.creation ≠ 0 := mt unpacked64_eq_zero.1 hcreation
  exact ⟨by change 1 ≤ unpacked64 host.creation; omega, hrange.2⟩

theorem anySet_request {n : ℕ} {request : Vector UInt8 n} (h : isZero request = false) :
    anySet request.toList = true := by
  rw [anySet, List.any_eq_true]
  rw [isZero, Vector.all_eq_false] at h
  obtain ⟨i, hi, hbyte⟩ := h
  exact ⟨request[i], Vector.mem_toList_iff.2 (Vector.getElem_mem hi), by simpa using hbyte⟩

/-- A request that the client accepts is read back from a receipt's bytes. -/
theorem decodedRequest_of_requestBytes {request : RequestKey} {data : Bytes}
    (h : MovementWire.requestBytes (uuidText request.toList) = some data) :
    VendorWire.decodedRequest request.toList = some (uuidText request.toList) := by
  obtain rfl := MovementWire.requestBytes_uuidText request.length_toList h
  exact if_pos (MovementWire.requestBytes_iff.1 h).2.1

/-- A receipt that keeps the checks of its channel is decoded as what it says. -/
theorem decode_receiptBytes {Snapshot : Type} (codec : VendorWire.ReceiptCodec Snapshot)
    {request transition : RequestKey} {window : UInt64} {outcome : Outcome}
    {flags signature : UInt32} {state : Bytes} {snapshot : Snapshot} {reserved : ℕ}
    (hrequest : isZero request = false) (hhost : host.valid = true)
    (hwindow : window ≠ 0 ∧ window ≤ 0xFFFFFFFF)
    (hflags : hasOther (unpacked32 flags) codec.flagMask = false)
    (hsize : state.length = codec.snapshotSize)
    (hsnapshot : codec.decodeSnapshot state = some snapshot)
    (hmagic : unpacked32 signature = codec.magic) (hreserved : reserved = codec.paddingSize)
    (hsizes : codec.snapshotSize + codec.paddingSize = 316)
    (hrefuses : codec.refuses (unpacked32 flags) snapshot transition.toList = false) :
    codec.decode (receiptBytes request host window outcome flags state transition signature
      reserved) = some ⟨uuidText request.toList, host.read, unpacked64 window, outcome.read,
        unpacked32 flags, snapshot, VendorWire.decodedRequest transition.toList⟩ := by
  have hpack : codec.layout.pack (request.toList, host.bytes, unpacked64 window,
      unpacked32 outcome.code, unpacked32 flags, state, transition.toList, codec.magic,
      zeros codec.paddingSize) = some (receiptBytes request host window outcome flags state
        transition signature reserved) := by
    rw [← hmagic, hreserved]
    refine Format.pack_pair (Format.pack_raw request.length_toList) ?_
    refine Format.pack_pair (Format.pack_raw host.length_bytes) ?_
    refine Format.pack_pair (Format.pack_word (.of64 window)) ?_
    refine Format.pack_pair (Format.pack_word (.of32 outcome.code)) ?_
    refine Format.pack_pair (Format.pack_word (.of32 flags)) ?_
    refine Format.pack_pair (Format.pack_raw hsize) ?_
    refine Format.pack_pair (Format.pack_raw transition.length_toList) ?_
    refine Format.pack_pair (Format.pack_word (.of32 signature)) ?_
    exact Format.pack_raw (length_zeros _)
  have hwide : 0 < unpacked64 window ∧ unpacked64 window < 2 ^ 32 := by
    have hrange := (unpacked64_range window).1
    have hne : unpacked64 window ≠ 0 := mt unpacked64_eq_zero.1 hwindow.1
    have hle : unpacked64 window ≤ 4294967295 := (unpacked64_le (y := 0xFFFFFFFF)).2 hwindow.2
    omega
  have hwritten := VendorWire.requestBytes_of_anySet request.length_toList (anySet_request hrequest)
  rw [VendorWire.ReceiptCodec.decode, if_neg (not_not.2 ?_), codec.layout.pack_iff.1 hpack]
  · simp only [Option.bind_eq_bind, Option.bind_some]
    rw [if_neg ?_]
    · rw [hwritten, hsnapshot]
      simp only [Option.bind_some]
      rw [if_neg (by simp [hrefuses]), Host.decode_bytes hhost, outcome.ofValue_code]
      rfl
    · simpa [hflags, hwide.1] using hwide.2
  · have hlength := codec.layout.length_pack hpack
    change _ = 16 + (16 + (8 + (4 + (4 + (codec.snapshotSize + (16 + (4 + codec.paddingSize)))))))
      at hlength
    omega

end ShadowbaneLab.Native
