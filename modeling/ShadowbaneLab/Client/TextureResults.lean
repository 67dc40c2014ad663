/-
# What an application changes

An application of a plan changes exactly the targeted resources, unless new data of a compressed
resource come out as long as its payload: then the file says that they are not compressed.
-/
import ShadowbaneLab.Client.TextureApply

namespace ShadowbaneLab.TextureCache

open Foundation World

variable {host : Host} {cache file : Bytes} {plan : TextureCachePlan}

/-! ## Records that were written -/

/-- The words of a record are read back. -/
theorem word_of_slice {offset size : ℕ} {words : List ℕ}
    (h : slice file offset size = packed32 words) (hfits : ∀ n ∈ words, n < 2 ^ 32)
    (hsize : words.length * 4 = size) {k : ℕ} (hk : k < words.length) :
    word file (offset + k * 4) = words[k] := by
  have hslice : slice file (offset + k * 4) 4 = littleEndian 4 words[k] := by
    rw [← slice_flatMap_littleEndian hk, ← packed32, ← h, slice_slice (by omega)]
  rw [word, hslice]
  exact ofLittleEndian_littleEndian (hfits _ (List.getElem_mem hk))

theorem entryAt_of_slice {i a b c d e : ℕ}
    (h : slice file (directoryOffset i) directoryEntrySize = packed32 [a, b, c, d, e])
    (hfits : ∀ n ∈ [a, b, c, d, e], n < 2 ^ 32) : entryAt file i = ⟨i, a, b, c, d, e⟩ := by
  have hword {k : ℕ} (hk : k < 5) :=
    word_of_slice h hfits rfl (show k < [a, b, c, d, e].length from hk)
  rw [entryAt, CacheResourceEntry.mk.injEq]
  exact ⟨rfl, hword (k := 0) (by decide), hword (k := 1) (by decide), hword (k := 2) (by decide),
    hword (k := 3) (by decide), hword (k := 4) (by decide)⟩

theorem headerAt_of_slice {a b c d : ℕ} (h : slice file 0 headerSize = packed32 [a, b, c, d])
    (hfits : ∀ n ∈ [a, b, c, d], n < 2 ^ 32) : headerAt file = ⟨a, b, c, d⟩ := by
  have hword {k : ℕ} (hk : k < 4) :=
    word_of_slice h hfits rfl (show k < [a, b, c, d].length from hk)
  rw [headerAt, CacheArchiveHeader.mk.injEq]
  exact ⟨hword (k := 0) (by decide), hword (k := 1) (by decide), hword (k := 2) (by decide),
    hword (k := 3) (by decide)⟩

variable {i : ℕ}

/-- Equal records are read as equal entries. -/
theorem entryAt_congr (h : slice file (directoryOffset i) directoryEntrySize =
      slice cache (directoryOffset i) directoryEntrySize) : entryAt file i = entryAt cache i := by
  have hword {k : ℕ} (hk : k + 4 ≤ directoryEntrySize) :
      word file (directoryOffset i + k) = word cache (directoryOffset i + k) := by
    rw [word, word, ← slice_slice hk, h, slice_slice hk]
  rw [entryAt, entryAt, CacheResourceEntry.mk.injEq]
  exact ⟨rfl, hword (k := 0) (by decide), hword (k := 4) (by decide), hword (k := 8) (by decide),
    hword (k := 12) (by decide), hword (k := 16) (by decide)⟩

/-! ## Payloads that are read -/

/-- What `read_resource` makes of the stored bytes of an entry. -/
def payloadOf (decompress : Bytes → Option Bytes) (entry : CacheResourceEntry) (stored : Bytes) :
    Except String Bytes :=
  if ¬ entry.isCompressed then return stored
  else
    match decompress stored with
    | none => throw s!"resource {entry.index} has invalid deflate data"
    | some payload =>
      if payload.length ≠ entry.uncompressedSize then
        throw (s!"resource {entry.index} inflated to {payload.length} bytes; " ++
          s!"expected {entry.uncompressedSize}")
      else return payload

theorem readResource_eq (decompress : Bytes → Option Bytes) (hi : i < (headerAt file).resourceCount)
    :
    (archiveOf file).readResource decompress (entryAt file i) =
      payloadOf decompress (entryAt file i)
        (slice file (entryAt file i).dataOffset (entryAt file i).storedSize) := by
  have hbelongs : (archiveOf file).entries[(entryAt file i).index]? = some (entryAt file i) :=
    getElem?_entries.2 ⟨hi, rfl⟩
  rw [CacheArchive.readResource, (check_eq_ok (u := ())).2 (decide_eq_true hbelongs), ok_bind]
  rfl

/-- A payload has the size that its entry says. -/
theorem length_of_payloadOf {decompress : Bytes → Option Bytes} {entry : CacheResourceEntry}
    {stored payload : Bytes} (h : payloadOf decompress entry stored = .ok payload) :
    if entry.isCompressed then payload.length = entry.uncompressedSize else payload = stored := by
  unfold payloadOf at h
  cases hcompressed : entry.isCompressed with
  | false =>
    rw [hcompressed, if_pos Bool.false_ne_true] at h
    cases h
    rfl
  | true =>
    rw [hcompressed, if_neg (not_not.2 rfl)] at h
    rw [if_pos rfl]
    split at h
    · cases h
    · split at h
      case isTrue => cases h
      case isFalse hlength =>
        cases h
        exact not_not.1 hlength

/-! ## Records of a plan -/

variable {write : TextureCacheWrite}

/-- A new payload is as long as its entry says. -/
theorem Planned.length_resultPayload (h : Planned host cache write) (hcache : WellFormed cache) :
    write.resultPayload.length = (entryAt cache write.entryIndex).uncompressedSize := by
  obtain ⟨source, hsource, -, hlength, -⟩ := h.source
  rw [readResource_eq host.decompress h.index] at hsource
  have hpayload := length_of_payloadOf hsource
  rw [hlength]
  cases hcompressed : (entryAt cache write.entryIndex).isCompressed with
  | true =>
    rw [hcompressed, if_pos rfl] at hpayload
    exact hpayload
  | false =>
    rw [hcompressed, if_neg Bool.false_ne_true] at hpayload
    rw [CacheResourceEntry.isCompressed, decide_eq_false_iff_not, not_not] at hcompressed
    rw [hpayload, length_slice (hcache.entries _ h.index).2, hcompressed]

variable {placement : TextureCacheWrite × ℕ}

theorem PlanFor.records_fit (hfor : PlanFor host cache plan)
    (hsmall : finalSize cache.length plan.writes < 2 ^ 32)
    (h : placement ∈ placements cache.length plan.writes) :
    ∀ n ∈ recordWords placement, n < 2 ^ 32 := by
  have hplan := hfor.writes _ (placement_cases h).1
  have hbounds := hfor.placement_bounds h
  have hkey := hplan.key
  rw [TextureCacheWrite.key, CacheResourceEntry.key, Prod.mk.injEq] at hkey
  intro n hn
  simp only [recordWords, List.mem_cons, List.not_mem_nil, or_false] at hn
  rcases hn with rfl | rfl | rfl | rfl | rfl
  · rw [hkey.1]
    exact word_lt ..
  · rw [hkey.2]
    exact word_lt ..
  · omega
  · rw [hplan.length_resultPayload hfor.wellFormed]
    exact word_lt ..
  · omega

theorem PlanFor.header_fits (hsmall : finalSize cache.length plan.writes < 2 ^ 32) :
    ∀ n ∈ headerWords (headerAt cache) (finalSize cache.length plan.writes), n < 2 ^ 32 := by
  intro n hn
  simp only [headerWords, List.mem_cons, List.not_mem_nil, or_false] at hn
  rcases hn with rfl | rfl | rfl | rfl
  · exact word_lt ..
  · exact word_lt ..
  · exact hsmall
  · exact word_lt ..

theorem PlanFor.exists_placement (_ : PlanFor host cache plan) (h : write ∈ plan.writes) :
    ∃ target, (write, target) ∈ placements cache.length plan.writes :=
  TextureCache.exists_placement h

section Applied

variable (hfor : PlanFor host cache plan) (hdata : DisjointData cache)
  (hsmall : finalSize cache.length plan.writes < 2 ^ 32)

include hfor hsmall in
theorem PlanFor.headerAt_applied : headerAt (applied cache plan.writes) =
    { headerAt cache with fileSize := finalSize cache.length plan.writes } :=
  headerAt_of_slice hfor.header_eq (PlanFor.header_fits hsmall)

include hfor hdata hsmall in
theorem PlanFor.entryAt_applied (h : placement ∈ placements cache.length plan.writes) :
    entryAt (applied cache plan.writes) placement.1.entryIndex =
      ⟨placement.1.entryIndex, placement.1.groupId, placement.1.resourceId, placement.2,
        placement.1.resultPayload.length, placement.1.resultStored.length⟩ :=
  entryAt_of_slice (hfor.placement_eq hdata h).2 (hfor.records_fit hsmall h)

include hfor hdata in
theorem PlanFor.entryAt_untouched (hi : i < (headerAt cache).resourceCount)
    (hother : ∀ write ∈ plan.writes, write.entryIndex ≠ i) :
    entryAt (applied cache plan.writes) i = entryAt cache i :=
  entryAt_congr (hfor.untouched_eq hdata hi hother).1

/-- An index is one of a write, or of none. -/
theorem index_cases (writes : List TextureCacheWrite) (i : ℕ) :
    (∃ write ∈ writes, write.entryIndex = i) ∨ ∀ write ∈ writes, write.entryIndex ≠ i := by
  by_cases h : ∃ write ∈ writes, write.entryIndex = i
  · exact .inl h
  · exact .inr fun write hwrite heq => h ⟨write, hwrite, heq⟩

include hfor hdata hsmall in
/-- Directory positions keep their keys. -/
theorem PlanFor.key_applied (hi : i < (headerAt cache).resourceCount) :
    (entryAt (applied cache plan.writes) i).key = (entryAt cache i).key := by
  rcases index_cases plan.writes i with ⟨write, hwrite, rfl⟩ | hother
  · obtain ⟨target, htarget⟩ := hfor.exists_placement hwrite
    rw [hfor.entryAt_applied hdata hsmall htarget, ← (hfor.writes write hwrite).key]
    rfl
  · rw [hfor.entryAt_untouched hdata hi hother]

include hfor hdata hsmall in
theorem PlanFor.wellFormed_applied : WellFormed (applied cache plan.writes) := by
  have hheader := hfor.headerAt_applied hsmall
  have hlength := length_applied cache plan.writes
  have hsize := le_finalSize cache.length plan.writes
  have hcache := hfor.wellFormed
  refine ⟨by rw [hlength]; exact hcache.header.trans hsize, ?_, ?_, ?_, fun i hi => ?_⟩
  · rw [hheader]
    exact hcache.directory
  · rw [hheader, hlength]
  · rw [hheader, hlength]
    exact hcache.data.trans hsize
  · rw [hheader] at hi ⊢
    rw [hlength]
    rcases index_cases plan.writes i with ⟨write, hwrite, rfl⟩ | hother
    · obtain ⟨target, htarget⟩ := hfor.exists_placement hwrite
      rw [hfor.entryAt_applied hdata hsmall htarget]
      exact hfor.placement_bounds htarget
    · rw [hfor.entryAt_untouched hdata hi hother]
      exact ⟨(hcache.entries i hi).1, (hcache.entries i hi).2.trans hsize⟩

include hfor hdata hsmall in
theorem PlanFor.keys_applied : (archiveOf (applied cache plan.writes)).entries.map
    CacheResourceEntry.key = (archiveOf cache).entries.map CacheResourceEntry.key := by
  rw [archiveOf, archiveOf, hfor.headerAt_applied hsmall, List.map_map, List.map_map]
  refine List.map_congr_left fun i hi => ?_
  exact hfor.key_applied hdata hsmall (List.mem_range.1 hi)

include hfor hdata hsmall in
/-- A resource that no write is of reads as before. -/
theorem PlanFor.read_untouched (hi : i < (headerAt cache).resourceCount)
    (hother : ∀ write ∈ plan.writes, write.entryIndex ≠ i) :
    (archiveOf (applied cache plan.writes)).readResource host.decompress
        (entryAt (applied cache plan.writes) i) =
      (archiveOf cache).readResource host.decompress (entryAt cache i) := by
  have hi' : i < (headerAt (applied cache plan.writes)).resourceCount := by
    rw [hfor.headerAt_applied hsmall]
    exact hi
  rw [readResource_eq host.decompress hi', readResource_eq host.decompress hi,
    hfor.entryAt_untouched hdata hi hother, (hfor.untouched_eq hdata hi hother).2]

include hfor hdata hsmall in
/-- A target reads as its new data say, if they are as long as its payload. -/
theorem PlanFor.read_target (hinflate : ∀ data, host.decompress (host.compress data) = some data)
    (hwrite : write ∈ plan.writes) :
    (archiveOf (applied cache plan.writes)).readResource host.decompress
        (entryAt (applied cache plan.writes) write.entryIndex) =
      .ok (if write.resultStored.length = write.resultPayload.length then write.resultStored
        else write.resultPayload) := by
  obtain ⟨target, htarget⟩ := hfor.exists_placement hwrite
  have hplan := hfor.writes write hwrite
  have hi : write.entryIndex < (headerAt (applied cache plan.writes)).resourceCount := by
    rw [hfor.headerAt_applied hsmall]
    exact hplan.index
  rw [readResource_eq host.decompress hi, hfor.entryAt_applied hdata hsmall htarget]
  dsimp only
  rw [(hfor.placement_eq hdata htarget).1, payloadOf]
  by_cases hlength : write.resultStored.length = write.resultPayload.length
  · rw [if_pos hlength, if_pos]
    · rfl
    · rw [CacheResourceEntry.isCompressed, decide_eq_true_eq]
      exact not_not.2 hlength.symm
  · -- what was not compressed keeps its length, so this was
    have hstored : write.resultStored = host.compress write.resultPayload := by
      have hresult := hplan.result
      split at hresult
      · exact hresult
      · exact absurd (congrArg List.length hresult) hlength
    rw [if_neg hlength, if_neg, hstored, hinflate]
    · dsimp only
      rw [if_neg (not_not.2 rfl)]
      rfl
    · rw [not_not, CacheResourceEntry.isCompressed, decide_eq_true_eq]
      exact Ne.symm hlength

end Applied

/-! ## The checks of an application -/

theorem PlanFor.length_writes_le (hfor : PlanFor host cache plan) :
    plan.writes.length ≤ (headerAt cache).resourceCount := by
  have hsub : (plan.writes.map TextureCacheWrite.entryIndex) ⊆
      List.range (headerAt cache).resourceCount := by
    intro i hi
    obtain ⟨write, hwrite, rfl⟩ := List.mem_map.1 hi
    exact List.mem_range.2 (hfor.writes write hwrite).index
  have hle := ((nodup_entryIndex hfor).subperm hsub).length_le
  rwa [List.length_map, List.length_range] at hle

variable {indexed : Dict (ℕ × ℕ) CacheResourceEntry}

/-- A write finds its resource by its key. -/
theorem Indexes.get?_entryAt (h : Indexes (archiveOf file).entries indexed)
    (hi : i < (headerAt file).resourceCount) {key : ℕ × ℕ} (hkey : (entryAt file i).key = key) :
    indexed.get? key = some (entryAt file i) :=
  (h.lookup _ _).2 ⟨List.mem_map.2 ⟨i, List.mem_range.2 hi, rfl⟩, hkey⟩

theorem Planned.checkWrite_eq (h : Planned host cache write) (hcache : WellFormed cache)
    (hindexed : Indexes (archiveOf cache).entries indexed) :
    checkWrite host cache (archiveOf cache) indexed write = .ok () := by
  obtain ⟨source, hsource, hdigest, -⟩ := h.source
  rw [checkWrite, hindexed.get?_entryAt h.index h.key.symm]
  refine check_bind_eq_ok.2 ⟨check_eq_ok.2 (decide_eq_true ?_), ?_⟩
  · exact ⟨rfl, h.offset.symm, h.rawSize.symm, h.storedSize.symm⟩
  refine bind_eq_ok.2 ⟨slice cache (entryAt cache write.entryIndex).dataOffset
    (entryAt cache write.entryIndex).storedSize, ?_, ?_⟩
  · refine check_bind_eq_ok.2 ⟨check_eq_ok.2 (decide_eq_true ?_), rfl⟩
    exact length_slice (hcache.entries _ h.index).2
  refine check_bind_eq_ok.2 ⟨check_eq_ok.2 (decide_eq_true ?_), ?_⟩
  · rw [h.stored, h.offset, h.storedSize]
  · refine bind_eq_ok.2 ⟨source, wrapped_eq_ok.2 hsource, check_eq_ok.2 (decide_eq_true ?_)⟩
    exact hdigest.symm

/-- A plan passes the checks on the cache that it was built for. -/
theorem PlanFor.checkWrites_eq (hfor : PlanFor host cache plan) :
    checkWrites host cache plan.sourceCacheSha256 plan.writes = .ok (headerAt cache) := by
  obtain ⟨indexed, hindexed⟩ := exists_entriesByKey hfor.unique
  refine check_bind_eq_ok.2 ⟨hfor.valid, check_bind_eq_ok.2 ⟨check_eq_ok.2 ?_, ?_⟩⟩
  · exact decide_eq_true hfor.sha256.symm
  refine bind_eq_ok.2 ⟨archiveOf cache, wrapped_eq_ok.2 (ofFile_eq_ok.2 ⟨hfor.wellFormed, rfl⟩), ?_⟩
  refine bind_eq_ok.2 ⟨indexed, hindexed, check_bind_eq_ok.2 ⟨check_eq_ok.2 ?_, ?_⟩⟩
  · exact decide_eq_true hfor.length_writes_le
  refine check_bind_eq_ok.2 ⟨forM_eq_ok.2 fun write hwrite => ?_, rfl⟩
  exact (hfor.writes write hwrite).checkWrite_eq hfor.wellFormed (indexes_of_entriesByKey hindexed)

/-- After its checks, an application does all its writes and then verifies them. -/
theorem PlanFor.run_apply (hfor : PlanFor host cache plan)
    (hsmall : finalSize cache.length plan.writes < 2 ^ 32) :
    (applyTextureCacheWrites host plan.sourceCacheSha256 plan.writes).run cache =
      match verifyWrites host (applied cache plan.writes) plan.writes with
      | .ok _ => .ok (host.sha256 (applied cache plan.writes),
          (applied cache plan.writes).length) (applied cache plan.writes)
      | .error message => .error message (applied cache plan.writes) := by
  have hops : writeOps (headerAt cache) (headerAt cache).fileSize plan.writes =
      (applyOps cache plan.writes, true) := by
    rw [hfor.wellFormed.fileSize]
    exact writeOps_eq (fun _ h => hfor.records_fit hsmall h) (PlanFor.header_fits hsmall)
  unfold applyTextureCacheWrites
  show EStateM.run ((raise (checkWrites host cache plan.sourceCacheSha256 plan.writes) :
    OnFile CacheArchiveHeader) >>= fun header => _) cache = _
  rw [hfor.checkWrites_eq]
  let result := writeOps (headerAt cache) (headerAt cache).fileSize plan.writes
  show EStateM.run ((raise (check result.2 "'I' format requires 0 <= number <= 4294967295") :
    OnFile Unit) >>= fun _ => get >>= fun cache =>
      raise (verifyWrites host cache plan.writes) >>= fun _ =>
        get >>= fun cache => pure (host.sha256 cache, cache.length)) (perform result.1 cache) = _
  rw [show result = _ from hops]
  show EStateM.run ((raise (verifyWrites host (applied cache plan.writes) plan.writes) :
    OnFile Unit) >>= fun _ => get >>= fun cache => pure (host.sha256 cache, cache.length))
      (applied cache plan.writes) = _
  cases verifyWrites host (applied cache plan.writes) plan.writes <;> rfl

/-! ## What an application changes -/

/-- New data of a compressed resource that are as long as its payload are its payload. -/
def Distinguishable (host : Host) (cache : Bytes) (plan : TextureCachePlan) : Prop :=
  ∀ write ∈ plan.writes, (entryAt cache write.entryIndex).isCompressed = true →
    (host.compress write.resultPayload).length = write.resultPayload.length →
      host.compress write.resultPayload = write.resultPayload

/-- A file has the planned payloads under the targeted keys, and everything else as the cache. -/
structure Exact (host : Host) (cache : Bytes) (plan : TextureCachePlan) (file : Bytes) : Prop where
  parses : CacheArchive.ofFile file = .ok (archiveOf file)
  resourceCount : (headerAt file).resourceCount = (headerAt cache).resourceCount
  dataOffset : (headerAt file).dataOffset = (headerAt cache).dataOffset
  marker : (headerAt file).marker = (headerAt cache).marker
  keys : ∀ i < (headerAt cache).resourceCount, (entryAt file i).key = (entryAt cache i).key
  targets : ∀ write ∈ plan.writes, (entryAt file write.entryIndex).key = write.key ∧
    (archiveOf file).readResource host.decompress (entryAt file write.entryIndex) =
      .ok write.resultPayload
  others : ∀ i < (headerAt cache).resourceCount,
    (∀ write ∈ plan.writes, write.key ≠ (entryAt cache i).key) →
      (archiveOf file).readResource host.decompress (entryAt file i) =
        (archiveOf cache).readResource host.decompress (entryAt cache i)

/-- What a target is read as is the planned payload, if new data can be told from payloads. -/
theorem Planned.read_eq_iff (h : Planned host cache write) :
    (if write.resultStored.length = write.resultPayload.length then write.resultStored
      else write.resultPayload) = write.resultPayload ↔
    ((entryAt cache write.entryIndex).isCompressed = true →
      (host.compress write.resultPayload).length = write.resultPayload.length →
        host.compress write.resultPayload = write.resultPayload) := by
  have hresult := h.result
  cases hcompressed : (entryAt cache write.entryIndex).isCompressed with
  | false =>
    rw [hcompressed, if_neg Bool.false_ne_true] at hresult
    rw [hresult, ite_self]
    exact ⟨fun _ h => absurd h Bool.false_ne_true, fun _ => rfl⟩
  | true =>
    rw [hcompressed, if_pos rfl] at hresult
    rw [hresult]
    split
    case isTrue hlength => exact ⟨fun h _ _ => h, fun h => h rfl hlength⟩
    case isFalse hlength => exact ⟨fun _ _ h => absurd h hlength, fun _ => rfl⟩

/-- An application of a plan changes exactly the targeted resources if and only if no new data of a
compressed resource are as long as its payload without being it. -/
theorem applies_exactly_iff {artifacts : Dict (ℕ × ℕ) String}
    (hplan : buildTextureCachePlan host cache artifacts = .ok plan) (hdata : DisjointData cache)
    (hsmall : finalSize cache.length plan.writes < 2 ^ 32)
    (hinflate : ∀ data, host.decompress (host.compress data) = some data) :
    (∃ result file, (applyTextureCacheWrites host plan.sourceCacheSha256 plan.writes).run cache =
      .ok result file ∧ Exact host cache plan file) ↔ Distinguishable host cache plan := by
  have hfor := planFor_of_build hplan
  have hrun := hfor.run_apply hsmall
  have hread {write : TextureCacheWrite} (hwrite : write ∈ plan.writes) :=
    hfor.read_target hdata hsmall hinflate hwrite
  constructor
  · rintro ⟨result, file, hok, hexact⟩ write hwrite
    have hfile : file = applied cache plan.writes := by
      rw [hrun] at hok
      split at hok
      · cases hok
        rfl
      · cases hok
    subst hfile
    have htarget := (hexact.targets write hwrite).2
    rw [hread hwrite, Except.ok.injEq] at htarget
    exact (hfor.writes write hwrite).read_eq_iff.1 htarget
  · intro hdistinct
    have htargets : ∀ write ∈ plan.writes, (archiveOf (applied cache plan.writes)).readResource
        host.decompress (entryAt (applied cache plan.writes) write.entryIndex) =
          .ok write.resultPayload := by
      intro write hwrite
      rw [hread hwrite, (hfor.writes write hwrite).read_eq_iff.2 (hdistinct write hwrite)]
    have hparses : CacheArchive.ofFile (applied cache plan.writes) =
        .ok (archiveOf (applied cache plan.writes)) :=
      ofFile_eq_ok.2 ⟨hfor.wellFormed_applied hdata hsmall, rfl⟩
    have hheader := hfor.headerAt_applied hsmall
    have hkey {write : TextureCacheWrite} (hwrite : write ∈ plan.writes) :
        (entryAt (applied cache plan.writes) write.entryIndex).key = write.key := by
      have hplanned := hfor.writes write hwrite
      rw [hfor.key_applied hdata hsmall hplanned.index, hplanned.key]
    have hverified : verifyWrites host (applied cache plan.writes) plan.writes = .ok () := by
      have hunique := hfor.unique
      rw [← hfor.keys_applied hdata hsmall] at hunique
      obtain ⟨indexed, hindexed⟩ := exists_entriesByKey hunique
      refine bind_eq_ok.2 ⟨_, wrapped_eq_ok.2 hparses, bind_eq_ok.2 ⟨indexed, hindexed, ?_⟩⟩
      refine forM_eq_ok.2 fun write hwrite => ?_
      have hindex : write.entryIndex < (headerAt (applied cache plan.writes)).resourceCount := by
        rw [hheader]
        exact (hfor.writes write hwrite).index
      rw [verifyWrite, (indexes_of_entriesByKey hindexed).get?_entryAt hindex (hkey hwrite)]
      refine bind_eq_ok.2 ⟨_, wrapped_eq_ok.2 (htargets write hwrite), check_eq_ok.2 ?_⟩
      exact decide_eq_true (hfor.writes write hwrite).digest.symm
    rw [hrun, hverified]
    refine ⟨_, _, rfl, hparses, by rw [hheader], by rw [hheader], by rw [hheader],
      fun i hi => hfor.key_applied hdata hsmall hi,
      fun write hwrite => ⟨hkey hwrite, htargets write hwrite⟩, fun i hi hother => ?_⟩
    refine hfor.read_untouched hdata hsmall hi fun write hwrite heq => hother write hwrite ?_
    rw [(hfor.writes write hwrite).key, heq]

/-! ## A texture that does not deflate -/

namespace Incompressible

/-- Seven by nine pixels of one channel. -/
def textureHeader : Bytes := [7, 0, 0, 0, 9, 0, 0, 0, 1, 0, 0, 0] ++ zeros 14

def pixels : Bytes :=
  [252, 193, 241, 197, 149, 177, 209, 206, 195, 244, 250, 182, 205, 189, 218, 171, 208, 161, 180,
    161, 240, 156, 223, 246, 176, 212, 234, 247, 221, 162, 183, 156, 237, 153, 252, 231, 186, 204,
    215, 156, 189, 199, 184, 222, 225, 170, 214, 205, 200, 254, 210, 177, 151, 247, 214, 145, 155,
    236, 251, 195, 234, 249, 244]

/-- What `zlib` makes of the black texture. -/
def blackDeflated : Bytes :=
  [120, 218, 99, 103, 96, 96, 224, 4, 98, 70, 6, 42, 3, 0, 6, 22, 0, 18]

/-- What `zlib` makes of the pixels after their header: as many bytes. -/
def pixelsDeflated : Bytes :=
  [120, 218, 99, 103, 96, 96, 224, 4, 98, 70, 6, 116, 240, 231, 224, 199, 163, 83, 55, 94, 60,
    119, 248, 203, 175, 109, 103, 247, 222, 90, 125, 97, 225, 150, 133, 31, 230, 220, 255, 182,
    225, 202, 171, 239, 119, 23, 109, 159, 243, 118, 230, 159, 231, 187, 206, 92, 159, 179, 247,
    248, 142, 123, 15, 87, 93, 59, 123, 226, 223, 165, 141, 211, 191, 95, 155, 56, 251, 205, 239,
    195, 175, 126, 126, 1, 0, 65, 83, 50, 66]

/-- One resource that is compressed. -/
def original : Bytes :=
  [1, 0, 0, 0, 36, 0, 0, 0, 54, 0, 0, 0, 0, 0, 0, 0] ++
    [7, 0, 0, 0, 9, 0, 0, 0, 36, 0, 0, 0, 89, 0, 0, 0, 18, 0, 0, 0] ++ blackDeflated

/-- The image of the pixels, upside down. -/
def png : Bytes :=
  [137, 80, 78, 71, 13, 10, 26, 10, 0, 0, 0, 13, 73, 72, 68, 82, 0, 0, 0, 7, 0, 0, 0, 9, 8, 0, 0,
    0, 0, 219, 51, 105, 127, 0, 0, 0, 83, 73, 68, 65, 84, 120, 218, 1, 72, 0, 183, 255, 0, 155,
    236, 251, 195, 234, 249, 244, 0, 254, 210, 177, 151, 247, 214, 145, 0, 184, 222, 225, 170,
    214, 205, 200, 0, 231, 186, 204, 215, 156, 189, 199, 0, 221, 162, 183, 156, 237, 153, 252, 0,
    156, 223, 246, 176, 212, 234, 247, 0, 218, 171, 208, 161, 180, 161, 240, 0, 206, 195, 244,
    250, 182, 205, 189, 0, 252, 193, 241, 197, 149, 177, 209, 28, 135, 50, 49, 185, 215, 209, 17,
    0, 0, 0, 0, 73, 69, 78, 68, 174, 66, 96, 130]

def libraries : Host where
  sha256 data :=
    if data = original then "ffb34ddc23806b032f82bce06f413eaddd45bce56af3ea6a57ba08f3b38c70b6"
    else if data = textureHeader ++ zeros 63 then
      "d61e94c1b5ff9ff2e562acc84d063316ba524a4374d5a05c22889cafde3fb6ed"
    else if data = textureHeader ++ pixels then
      "066c6dccd62a225dd710864161929ceb3ab70a793a5f10d516cc9c0a180908e4"
    else if data = png then "23d103de97d7f8983a606195f9a5da399b659fae2598e9765ad22a6b501f7c8f"
    else if data = pixelsDeflated then
      "e26f0d0f0a40b4174d16df9fb00dc2fd4c28e71c1bafc8be3563ef7fe5a213a0"
    else "752408c3f4e799d6447acbe54adf5baa605c7df1b2d67a1920891964ba2bea0e"
  compress data :=
    if data = textureHeader ++ pixels then pixelsDeflated
    else if data = textureHeader ++ zeros 63 then blackDeflated
    else 0 :: data
  decompress data :=
    if data = pixelsDeflated then some (textureHeader ++ pixels)
    else if data = blackDeflated then some (textureHeader ++ zeros 63)
    else some data.tail
  artifact path := if path = "pixels.png" then some ⟨path, png, some {
    isPng := true
    width := 7
    height := 9
    pixels := fun channels => if channels = 1 then pixels else List.replicate (7 * 9 * channels) 0
    length_pixels := fun channels => by
      split
      case isTrue h => exact h ▸ rfl
      case isFalse => exact List.length_replicate }⟩
    else none

def artifacts : Dict (ℕ × ℕ) String := .ofList [((7, 9), "pixels.png")]

theorem inflates (data : Bytes) : libraries.decompress (libraries.compress data) = some data := by
  have hdecompress (data : Bytes) : libraries.decompress data =
      if data = pixelsDeflated then some (textureHeader ++ pixels)
      else if data = blackDeflated then some (textureHeader ++ zeros 63) else some data.tail := rfl
  have hcompress : libraries.compress data =
      if data = textureHeader ++ pixels then pixelsDeflated
      else if data = textureHeader ++ zeros 63 then blackDeflated else 0 :: data := rfl
  have hblack : blackDeflated ≠ pixelsDeflated := by decide +kernel
  have hzero (tail : Bytes) : 0 :: data ≠ 120 :: tail := fun h => by
    have hhead := (List.cons.inj h).1
    revert hhead
    decide
  rw [hcompress]
  split
  case isTrue h => rw [hdecompress, if_pos rfl, h]
  case isFalse =>
    split
    case isTrue h => rw [hdecompress, if_neg hblack, if_pos rfl, h]
    case isFalse =>
      have hpixels : 0 :: data ≠ pixelsDeflated := hzero _
      have hblack : 0 :: data ≠ blackDeflated := hzero _
      rw [hdecompress, if_neg hpixels, if_neg hblack, List.tail_cons]

/-- One resource shares its place with no other. -/
theorem disjoint : DisjointData original := by
  have hcount : (headerAt original).resourceCount = 1 := by decide +kernel
  intro i hi j hj hne
  omega

theorem exists_plan : ∃ plan, buildTextureCachePlan libraries original artifacts = .ok plan ∧
    finalSize original.length plan.writes < 2 ^ 32 := by
  have hbuilt : (buildTextureCachePlan libraries original artifacts).toOption.any
      (fun plan => finalSize original.length plan.writes < 2 ^ 32) = true := by decide +kernel
  cases hplan : buildTextureCachePlan libraries original artifacts with
  | error message =>
    rw [hplan] at hbuilt
    cases hbuilt
  | ok plan =>
    rw [hplan] at hbuilt
    exact ⟨plan, rfl, of_decide_eq_true hbuilt⟩

/-- The application of the plan raises. -/
theorem raises {plan : TextureCachePlan}
    (hplan : buildTextureCachePlan libraries original artifacts = .ok plan) {result : String × ℕ}
    {file : Bytes} : (applyTextureCacheWrites libraries plan.sourceCacheSha256 plan.writes).run
      original ≠ .ok result file := by
  have hraises : (buildTextureCachePlan libraries original artifacts).toOption.all (fun plan =>
      match (applyTextureCacheWrites libraries plan.sourceCacheSha256 plan.writes).run original with
      | .ok _ _ => false
      | .error _ _ => true) = true := by decide +kernel
  intro hok
  rw [hplan] at hraises
  change (match (applyTextureCacheWrites libraries plan.sourceCacheSha256 plan.writes).run
    original with
    | .ok _ _ => false
    | .error _ _ => true) = true at hraises
  rw [hok] at hraises
  cases hraises

end Incompressible

theorem applies_exactly_iff_incompressible : ∃ plan,
    buildTextureCachePlan Incompressible.libraries Incompressible.original
      Incompressible.artifacts = .ok plan ∧
    ((∃ result file, (applyTextureCacheWrites Incompressible.libraries plan.sourceCacheSha256
      plan.writes).run Incompressible.original = .ok result file ∧
        Exact Incompressible.libraries Incompressible.original plan file) ↔
      Distinguishable Incompressible.libraries Incompressible.original plan) := by
  obtain ⟨plan, hplan, hsmall⟩ := Incompressible.exists_plan
  exact ⟨plan, hplan,
    applies_exactly_iff hplan Incompressible.disjoint hsmall Incompressible.inflates⟩

/-- An application raises after its writes when new data are as long as their payload. -/
theorem incompressible_raises : ¬ ∀ (host : Host) (cache : Bytes)
    (artifacts : Dict (ℕ × ℕ) String) (plan : TextureCachePlan),
    buildTextureCachePlan host cache artifacts = .ok plan → DisjointData cache →
      finalSize cache.length plan.writes < 2 ^ 32 →
        (∀ data, host.decompress (host.compress data) = some data) →
          ∃ result file, (applyTextureCacheWrites host plan.sourceCacheSha256 plan.writes).run
            cache = .ok result file ∧ Exact host cache plan file := by
  intro h
  obtain ⟨plan, hplan, hsmall⟩ := Incompressible.exists_plan
  obtain ⟨result, file, hok, -⟩ := h Incompressible.libraries Incompressible.original
    Incompressible.artifacts plan hplan Incompressible.disjoint hsmall Incompressible.inflates
  exact Incompressible.raises hplan hok

end ShadowbaneLab.TextureCache
