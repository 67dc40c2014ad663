/-
# What a plan holds

A plan that was built for a cache describes resources of the cache as they are.
-/
import ShadowbaneLab.Client.TextureCache

namespace ShadowbaneLab.TextureCache

open Foundation World

variable {host : Host} {cache : Bytes}

/-! ## Computations that raise -/

theorem wrapped_eq_ok {α : Type} {message : String} {result : Except String α} {a : α} :
    wrapped message result = .ok a ↔ result = .ok a := by
  cases result with
  | ok b => exact Iff.rfl
  | error cause => exact ⟨nofun, nofun⟩

/-! ## Resources by their keys -/

/-- `result` indexes the entries by their keys, of which there is one each. -/
structure Indexes (entries : List CacheResourceEntry)
    (result : Dict (ℕ × ℕ) CacheResourceEntry) : Prop where
  unique : (entries.map CacheResourceEntry.key).Nodup
  lookup : ∀ key entry, result.get? key = some entry ↔ entry ∈ entries ∧ entry.key = key

/-- Another entry is indexed if its key is new. -/
theorem Indexes.step {entries : List CacheResourceEntry}
    {before after : Dict (ℕ × ℕ) CacheResourceEntry} {entry : CacheResourceEntry}
    (h : Indexes entries before) (hafter : indexEntry before entry = .ok after) :
    Indexes (entries ++ [entry]) after := by
  unfold indexEntry at hafter
  split at hafter
  case isTrue => cases hafter
  case isFalse hvacant =>
    cases hafter
    have hfresh : entry.key ∉ entries.map CacheResourceEntry.key := by
      intro hmem
      obtain ⟨other, hother, hkey⟩ := List.mem_map.1 hmem
      refine hvacant (Dict.contains_iff.2 (Dict.mem_keys_iff.2 ⟨other, ?_⟩))
      exact (h.lookup _ _).2 ⟨hother, hkey⟩
    refine ⟨?_, fun key other => ?_⟩
    · rw [List.map_append, List.map_singleton]
      refine List.nodup_append.2 ⟨h.unique, List.nodup_singleton _, fun a ha b hb heq => ?_⟩
      rw [heq, List.mem_singleton.1 hb] at ha
      exact hfresh ha
    rw [Dict.get?_set, List.mem_append, List.mem_singleton]
    split
    case isTrue hkey =>
      constructor
      · intro h
        cases h
        exact ⟨.inr rfl, hkey⟩
      · rintro ⟨hmem | rfl, hother⟩
        · exact absurd (List.mem_map.2 ⟨other, hmem, hother.trans hkey.symm⟩) hfresh
        · rfl
    case isFalse hkey =>
      rw [h.lookup]
      refine and_congr_left fun hother => ⟨.inl, fun h => h.resolve_right ?_⟩
      rintro rfl
      exact hkey hother

theorem foldlM_indexEntry (entries : List CacheResourceEntry) :
    (∀ result, entries.foldlM indexEntry .empty = .ok result → Indexes entries result) ∧
      ((entries.map CacheResourceEntry.key).Nodup →
        ∃ result, entries.foldlM indexEntry .empty = .ok result) := by
  induction entries using List.reverseRecOn with
  | nil =>
    refine ⟨fun result h => ?_, fun _ => ⟨_, rfl⟩⟩
    cases h
    exact ⟨List.nodup_nil, fun _ _ => ⟨nofun, fun h => nomatch h.1⟩⟩
  | append_singleton entries entry ih =>
    have hlast : (entries ++ [entry]).foldlM indexEntry .empty =
        entries.foldlM indexEntry .empty >>= fun result => indexEntry result entry := by
      rw [List.foldlM_append]
      refine congrArg _ (funext fun result => ?_)
      cases hentry : indexEntry result entry <;> simp [hentry]
    rw [hlast]
    constructor
    · intro result h
      obtain ⟨before, hbefore, hafter⟩ := bind_eq_ok.1 h
      exact (ih.1 before hbefore).step hafter
    · intro hnodup
      rw [List.map_append, List.map_singleton, List.nodup_append] at hnodup
      obtain ⟨before, hbefore⟩ := ih.2 hnodup.1
      have hcontains : ¬ before.contains entry.key = true := by
        intro hcontains
        obtain ⟨other, hother⟩ := Dict.mem_keys_iff.1 (Dict.contains_iff.1 hcontains)
        obtain ⟨hmem, hkey⟩ := ((ih.1 before hbefore).lookup _ _).1 hother
        exact hnodup.2.2 _ (List.mem_map.2 ⟨other, hmem, hkey⟩) _ (List.mem_singleton_self _) rfl
      rw [hbefore, ok_bind, indexEntry, if_neg hcontains]
      exact ⟨_, rfl⟩

variable {archive : CacheArchive}

theorem indexes_of_entriesByKey {result : Dict (ℕ × ℕ) CacheResourceEntry}
    (h : entriesByKey archive = .ok result) : Indexes archive.entries result :=
  (foldlM_indexEntry _).1 result h

theorem exists_entriesByKey (h : (archive.entries.map CacheResourceEntry.key).Nodup) :
    ∃ result, entriesByKey archive = .ok result :=
  (foldlM_indexEntry _).2 h

/-! ## Payloads -/

variable {path : String}

/-- The header of a texture is kept and its pixels are replaced, so it keeps its size. -/
theorem length_of_encodePngPayload {source payload : Bytes} {info : TexturePayloadInfo}
    (h : encodePngPayload host path source = .ok (payload, info)) :
    payload.length = source.length ∧ textureHeaderBytes ≤ payload.length := by
  obtain ⟨parsed, hparsed, h⟩ := bind_eq_ok.1 h
  unfold parseTexturePayload at hparsed
  dsimp only at hparsed
  rw [check_bind_eq_ok, check_bind_eq_ok, check_bind_eq_ok, check_bind_eq_ok] at hparsed
  obtain ⟨hlong, -, -, hlength, hparsed⟩ := hparsed
  rw [check_eq_ok, decide_eq_true_eq] at hlong hlength
  cases hparsed
  dsimp only at h
  split at h
  · cases h
  split at h
  · cases h
  rw [check_bind_eq_ok, check_bind_eq_ok] at h
  obtain ⟨-, hsize, h⟩ := h
  rw [check_eq_ok, decide_eq_true_eq] at hsize
  obtain ⟨hwidth, hheight⟩ := hsize
  cases h
  rw [List.length_append, List.length_take, Picture.length_pixels, hwidth, hheight]
  omega

/-! ## Plans -/

/-- A write of a plan describes a resource of the cache. -/
structure Planned (host : Host) (cache : Bytes) (write : TextureCacheWrite) : Prop where
  index : write.entryIndex < (headerAt cache).resourceCount
  key : write.key = (entryAt cache write.entryIndex).key
  offset : write.originalDataOffset = (entryAt cache write.entryIndex).dataOffset
  rawSize : write.originalRawSize = (entryAt cache write.entryIndex).uncompressedSize
  storedSize : write.originalStoredSize = (entryAt cache write.entryIndex).storedSize
  stored : write.originalStored =
    slice cache write.originalDataOffset write.originalStoredSize
  source : ∃ source, (archiveOf cache).readResource host.decompress
      (entryAt cache write.entryIndex) = .ok source ∧
    write.sourcePayloadSha256 = host.sha256 source ∧
      write.resultPayload.length = source.length ∧
        textureHeaderBytes ≤ write.resultPayload.length
  digest : write.resultPayloadSha256 = host.sha256 write.resultPayload
  result : write.resultStored =
    if (entryAt cache write.entryIndex).isCompressed then host.compress write.resultPayload
    else write.resultPayload
  append : write.appendRequired = decide (write.resultStored.length > write.originalStoredSize)

theorem planWrite_spec {indexed : Dict (ℕ × ℕ) CacheResourceEntry}
    (hindexed : Indexes (archiveOf cache).entries indexed) {key : ℕ × ℕ} {write : TextureCacheWrite}
    (h : planWrite host cache (archiveOf cache) indexed key path = .ok write) :
    Planned host cache write ∧ write.key = key := by
  unfold planWrite at h
  split at h
  case h_1 => cases h
  case h_2 entry hentry =>
    obtain ⟨source, hsource, h⟩ := bind_eq_ok.1 h
    obtain ⟨⟨payload, info⟩, hpayload, h⟩ := bind_eq_ok.1 h
    obtain ⟨stored, hstored, h⟩ := bind_eq_ok.1 h
    rw [wrapped_eq_ok] at hsource
    rw [readStoredBytes, check_bind_eq_ok] at hstored
    obtain ⟨-, hstored⟩ := hstored
    cases hstored
    cases h
    obtain ⟨hmem, hkey⟩ := (hindexed.lookup _ _).1 hentry
    obtain ⟨index, hindex, rfl⟩ := List.mem_map.1 hmem
    have hsizes := length_of_encodePngPayload hpayload
    exact ⟨⟨List.mem_range.1 hindex, hkey.symm, rfl, rfl, rfl, rfl,
      ⟨source, hsource, rfl, hsizes.1, hsizes.2⟩, rfl, rfl, rfl⟩, rfl⟩

/-- What `build_texture_cache_plan` promises. -/
structure PlanFor (host : Host) (cache : Bytes) (plan : TextureCachePlan) : Prop where
  wellFormed : WellFormed cache
  unique : ((archiveOf cache).entries.map CacheResourceEntry.key).Nodup
  sha256 : plan.sourceCacheSha256 = host.sha256 cache
  size : plan.sourceCacheSize = cache.length
  writes : ∀ write ∈ plan.writes, Planned host cache write
  valid : validateWriteSet plan.writes = .ok ()

theorem validateWriteSet_of_keys {writes : List TextureCacheWrite} {items : List ((ℕ × ℕ) × String)}
    (hkeys : writes.map TextureCacheWrite.key = (sortBy (fun item => toLex item.1) items).map
      Prod.fst) (hne : items ≠ []) (hnodup : (items.map Prod.fst).Nodup) :
    validateWriteSet writes = .ok () := by
  refine check_bind_eq_ok.2 ⟨check_eq_ok.2 (decide_eq_true fun hnil => ?_),
    check_bind_eq_ok.2 ⟨check_eq_ok.2 (decide_eq_true ?_), check_eq_ok.2 (decide_eq_true ?_)⟩⟩
  · rw [hnil, List.map_nil, eq_comm, List.map_eq_nil_iff] at hkeys
    have hlength := length_sortBy (fun item : (ℕ × ℕ) × String => toLex item.1) items
    rw [hkeys, List.length_nil, eq_comm, List.length_eq_zero_iff] at hlength
    exact hne hlength
  · refine sortBy_eq_self _ ?_
    have hsorted := pairwise_sortBy (fun item : (ℕ × ℕ) × String => toLex item.1) items
    have hpairwise : ((sortBy (fun item : (ℕ × ℕ) × String => toLex item.1) items).map
        Prod.fst).Pairwise fun a b => toLex a ≤ toLex b := List.pairwise_map.2 hsorted
    rw [← hkeys] at hpairwise
    exact List.pairwise_map.1 hpairwise
  · rw [hkeys]
    exact ((sortBy_perm _ items).map Prod.fst).nodup_iff.2 hnodup

theorem planFor_of_build {artifacts : Dict (ℕ × ℕ) String} {plan : TextureCachePlan}
    (h : buildTextureCachePlan host cache artifacts = .ok plan) : PlanFor host cache plan := by
  unfold buildTextureCachePlan at h
  rw [check_bind_eq_ok, check_eq_ok, decide_eq_true_eq, check_bind_eq_ok] at h
  obtain ⟨⟨hne, -⟩, -, h⟩ := h
  obtain ⟨archive, harchive, h⟩ := bind_eq_ok.1 h
  obtain ⟨indexed, hindexed, h⟩ := bind_eq_ok.1 h
  obtain ⟨writes, hwrites, h⟩ := bind_eq_ok.1 h
  rw [wrapped_eq_ok, ofFile_eq_ok] at harchive
  obtain ⟨hwellFormed, rfl⟩ := harchive
  cases h
  have hindexes := indexes_of_entriesByKey hindexed
  have hall := forall₂_of_mapM hwrites
  have hkeys : writes.map TextureCacheWrite.key =
      (sortBy (fun item => toLex item.1) artifacts.items).map Prod.fst :=
    map_eq_map_of_forall₂ (hall.imp fun _ _ hwrite => (planWrite_spec hindexes hwrite).2)
  refine ⟨hwellFormed, hindexes.unique, rfl, hwellFormed.fileSize, fun write hwrite => ?_,
    validateWriteSet_of_keys hkeys hne artifacts.nodup⟩
  obtain ⟨item, -, hitem⟩ := exists_of_forall₂ hall hwrite
  exact (planWrite_spec hindexes hitem).1

end ShadowbaneLab.TextureCache
