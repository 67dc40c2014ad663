/-
# Restoring a cache

However far a plan was applied, and however often its restoration was broken off, the restoration
that comes to its end leaves the original file.
-/
import ShadowbaneLab.Client.TexturePlans

namespace ShadowbaneLab.TextureCache

open Foundation World List

variable {host : Host} {cache : Bytes} {plan : TextureCachePlan}

/-! ## What an application touches -/

/-- A place of the header, of the directory record of a write, or of the data that it replaces. -/
def Touched (writes : List TextureCacheWrite) (i : ℕ) : Prop :=
  i < headerSize ∨ ∃ write ∈ writes,
    (write.originalDataOffset ≤ i ∧ i < write.originalDataOffset + write.originalStoredSize) ∨
      (write.directoryOffset ≤ i ∧ i < write.directoryOffset + directoryEntrySize)

theorem length_packWords {words : List ℕ} {record : Bytes} (h : packWords words = some record) :
    record.length = words.length * 4 := by
  rw [packWords, Option.ite_none_right_eq_some, Option.some.injEq] at h
  rw [← h.2]
  clear h
  induction words with
  | nil => rfl
  | cons n words ih =>
    rw [flatMap_cons, length_append, length_littleEndian, ih, length_cons]
    omega

/-- The operations of an application only touch what is touched, or come after the original. -/
theorem writeOps_harmless (header : CacheArchiveHeader) {all writes : List TextureCacheWrite}
    (hall : ∀ write ∈ writes, write ∈ all) (hplanned : ∀ write ∈ writes, Planned host cache write)
    {fileSize : ℕ} (hsize : cache.length ≤ fileSize) :
    ∀ op ∈ (writeOps header fileSize writes).1, op.Harmless cache (Touched all) := by
  induction writes generalizing fileSize with
  | nil =>
    rw [writeOps]
    split
    · exact nofun
    case h_2 record hrecord =>
      have hlength : record.length = headerSize := length_packWords hrecord
      intro op hop
      simp only [mem_cons, not_mem_nil, or_false] at hop
      rcases hop with rfl | rfl
      · intro j hj _
        exact .inl (by omega)
      · exact hsize
  | cons write writes ih =>
    have hplan := hplanned write mem_cons_self
    have hmem := hall write mem_cons_self
    -- the data are appended, or they fit into the place of the original ones
    have hdata : (FileOp.write (if write.appendRequired then fileSize
        else write.originalDataOffset) write.resultStored).Harmless cache (Touched all) := by
      intro j hj hinside
      split at hinside
      case isTrue => omega
      case isFalse happend =>
        rw [hplan.append, decide_eq_true_eq, not_lt] at happend
        rw [if_neg (by rw [hplan.append, decide_eq_true_eq]; omega)]
        exact .inr ⟨write, hmem, .inl (by omega)⟩
    rw [writeOps]
    split
    case h_1 =>
      intro op hop
      rw [mem_singleton] at hop
      exact hop ▸ hdata
    case h_2 record hrecord =>
      have hlength : record.length = directoryEntrySize := length_packWords hrecord
      intro op hop
      simp only [mem_cons] at hop
      rcases hop with rfl | rfl | hop
      · exact hdata
      · intro j hj _
        exact .inr ⟨write, hmem, .inr (by omega)⟩
      · refine ih (fun other hother => hall other (mem_cons_of_mem write hother))
          (fun other hother => hplanned other (mem_cons_of_mem write hother)) ?_ op hop
        split
        · exact hsize.trans (Nat.le_add_right ..)
        · exact hsize

/-! ## What a backup holds -/

theorem blobName_injective {m n : ℕ} (h : blobName m = blobName n) : m = n := by
  have htexts := congrArg String.toList h
  simp only [blobName, String.toList_append, append_cancel_left_eq,
    append_cancel_right_eq] at htexts
  exact decimal_injective (String.toList_inj.1 htexts)

/-- Writes of different keys describe different resources. -/
theorem Planned.key_eq {write other : TextureCacheWrite} (h : Planned host cache write)
    (h' : Planned host cache other) (heq : write.entryIndex = other.entryIndex) :
    write.key = other.key := by
  rw [h.key, h'.key, heq]

variable {writes : List TextureCacheWrite}

/-- The keys of a plan are pairwise different. -/
theorem nodup_of_valid (h : validateWriteSet writes = .ok ()) :
    (writes.map TextureCacheWrite.key).Nodup := by
  rw [validateWriteSet, check_bind_eq_ok, check_bind_eq_ok] at h
  obtain ⟨-, -, h⟩ := h
  rw [check_eq_ok, decide_eq_true_eq] at h
  exact h

variable {write : TextureCacheWrite}

/-- Every write finds the blob of its own resource. -/
theorem get?_blobs (hplanned : ∀ write ∈ writes, Planned host cache write)
    (hnodup : (writes.map TextureCacheWrite.key).Nodup) (hwrite : write ∈ writes) :
    (Dict.ofList (writes.map fun write =>
      (blobName write.entryIndex, write.originalStored))).get? (blobName write.entryIndex) =
        some write.originalStored := by
  have hnames : ((writes.map fun write => (blobName write.entryIndex, write.originalStored)).map
      Prod.fst).Nodup := by
    rw [map_map]
    refine List.Nodup.map_on (fun a ha b hb heq => ?_) hnodup.of_map
    have hindex := blobName_injective heq
    exact inj_on_of_nodup_map hnodup ha hb ((hplanned a ha).key_eq (hplanned b hb) hindex)
  rw [Dict.get?_eq_some, Dict.items_ofList hnames]
  exact mem_map.2 ⟨write, hwrite, rfl⟩

/-- The operations that put back what one write replaces. -/
def restoreWrite (cache : Bytes) (write : TextureCacheWrite) : List FileOp :=
  [.write write.originalDataOffset write.originalStored,
    .write write.directoryOffset (slice cache write.directoryOffset directoryEntrySize)]

theorem restoreRecords_eq {blobs : Dict String Bytes} {records : List BackupRecord}
    (hrecords : writes.mapM (backupRecord host cache) = .ok records) (hblobs : ∀ write ∈ writes,
      blobs.get? (blobName write.entryIndex) = some write.originalStored) :
    restoreRecords host blobs records = (writes.flatMap (restoreWrite cache), none) := by
  induction writes generalizing records with
  | nil =>
    cases hrecords
    rfl
  | cons write writes ih =>
    rw [mapM_cons] at hrecords
    obtain ⟨record, hrecord, hrecords⟩ := bind_eq_ok.1 hrecords
    obtain ⟨rest, hrest, hrecords⟩ := bind_eq_ok.1 hrecords
    cases hrecords
    rw [backupRecord, check_bind_eq_ok] at hrecord
    obtain ⟨-, hrecord⟩ := hrecord
    cases hrecord
    have htail := ih hrest fun other hother => hblobs other (mem_cons_of_mem write hother)
    rw [restoreRecords]
    dsimp only
    rw [hblobs write mem_cons_self]
    dsimp only
    rw [if_neg (not_not.2 rfl), ofHexText_hexText, htail]
    rfl

variable {backup : Backup}

/-- A backup of a plan puts everything back and cuts off the rest. -/
theorem restoreOps_eq (hplan : PlanFor host cache plan)
    (hbackup : createResourceBackup host cache plan = .ok backup) :
    restoreOps host backup = (plan.writes.flatMap (restoreWrite cache) ++
      [.write 0 (slice cache 0 headerSize), .truncate cache.length], none) := by
  rw [createResourceBackup, check_bind_eq_ok, check_bind_eq_ok] at hbackup
  obtain ⟨-, hvalid, hbackup⟩ := hbackup
  obtain ⟨records, hrecords, hbackup⟩ := bind_eq_ok.1 hbackup
  cases hbackup
  rw [restoreOps]
  dsimp only
  rw [restoreRecords_eq hrecords fun write hwrite =>
    get?_blobs hplan.writes (nodup_of_valid hvalid) hwrite]
  dsimp only
  rw [ofHexText_hexText, hplan.size]

/-! ## Restoring -/

theorem slice_faithful {file : Bytes} {offset size : ℕ} (h : offset + size ≤ file.length) :
    (FileOp.write offset (slice file offset size)).Faithful file := by
  show slice file offset (slice file offset size).length = _
  rw [length_slice h]

/-- Directory records come before the data. -/
theorem Planned.directory_le (h : Planned host cache write) (hcache : WellFormed cache) :
    write.directoryOffset + directoryEntrySize ≤ cache.length := by
  have hdirectory := hcache.directory
  have hdata := hcache.data
  have hindex := h.index
  rw [World.directoryOffset] at hdirectory
  rw [TextureCacheWrite.directoryOffset, World.directoryOffset]
  have hstep : (write.entryIndex + 1) * directoryEntrySize ≤
      (headerAt cache).resourceCount * directoryEntrySize := Nat.mul_le_mul_right _ hindex
  rw [Nat.succ_mul] at hstep
  omega

theorem Planned.data_le (h : Planned host cache write) (hcache : WellFormed cache) :
    write.originalDataOffset + write.originalStoredSize ≤ cache.length := by
  rw [h.offset, h.storedSize]
  exact (hcache.entries _ h.index).2

/-- What is put back is what the cache had. -/
theorem restoreWrite_faithful (h : Planned host cache write) (hcache : WellFormed cache) :
    ∀ op ∈ restoreWrite cache write, op.Faithful cache := by
  intro op hop
  simp only [restoreWrite, mem_cons, not_mem_nil, or_false] at hop
  rcases hop with rfl | rfl
  · rw [h.stored]
    exact slice_faithful (h.data_le hcache)
  · exact slice_faithful (h.directory_le hcache)

/-- The operations of a restoration before it cuts off the rest. -/
def restorations (cache : Bytes) (writes : List TextureCacheWrite) : List FileOp :=
  writes.flatMap (restoreWrite cache) ++ [.write 0 (slice cache 0 headerSize)]

theorem restorations_faithful (hcache : WellFormed cache)
    (hplanned : ∀ write ∈ writes, Planned host cache write) :
    ∀ op ∈ restorations cache writes, op.Faithful cache := by
  intro op hop
  rcases mem_append.1 hop with hop | hop
  · obtain ⟨write, hwrite, hop⟩ := mem_flatMap.1 hop
    exact restoreWrite_faithful (hplanned write hwrite) hcache op hop
  · rw [mem_singleton] at hop
    subst hop
    exact slice_faithful (by rw [Nat.zero_add]; exact hcache.header)

/-- Everything that an application touches is put back. -/
theorem exists_restoration (hcache : WellFormed cache)
    (hplanned : ∀ write ∈ writes, Planned host cache write) {i : ℕ} (h : Touched writes i) :
    ∃ op ∈ restorations cache writes, op.Writes i := by
  rcases h with h | ⟨write, hwrite, h | h⟩
  · refine ⟨.write 0 (slice cache 0 headerSize), ?_, Nat.zero_le i, ?_⟩
    · exact mem_append_right _ (mem_singleton_self _)
    · rw [length_slice (by rw [Nat.zero_add]; exact hcache.header)]
      omega
  · refine ⟨.write write.originalDataOffset write.originalStored, ?_, h.1, ?_⟩
    · exact mem_append_left _ (mem_flatMap.2 ⟨write, hwrite, mem_cons_self⟩)
    · rw [(hplanned write hwrite).stored, length_slice ((hplanned write hwrite).data_le hcache)]
      exact h.2
  · refine ⟨.write write.directoryOffset
      (slice cache write.directoryOffset directoryEntrySize), ?_, h.1, ?_⟩
    · exact mem_append_left _ (mem_flatMap.2
        ⟨write, hwrite, mem_cons_of_mem _ mem_cons_self⟩)
    · rw [length_slice ((hplanned write hwrite).directory_le hcache)]
      exact h.2

theorem finalState_restore (hformat : backup.manifest.format = backupFormat)
    (hversion : backup.manifest.version = resourceBackupVersion) (file : Bytes) :
    finalState (restoreResourceBackup host backup) file =
      perform (restoreOps host backup).1 file := by
  unfold restoreResourceBackup
  rw [(check_eq_ok (u := ())).2 (decide_eq_true hformat),
    (check_eq_ok (u := ())).2 (decide_eq_true hversion)]
  cases hops : restoreOps host backup with
  | mk ops error =>
    cases error with
    | some message => rfl
    | none =>
      show finalState ((raise (validateCache host (perform ops file)) : OnFile Unit) >>= fun _ =>
        get >>= fun cache => raise (check (host.sha256 cache = backup.manifest.sourceCacheSha256)
          "restored cache SHA-256 differs from the backup source")) (perform ops file) = _
      cases validateCache host (perform ops file) with
      | error message => rfl
      | ok _ =>
        show finalState (raise (check (host.sha256 (perform ops file) =
          backup.manifest.sourceCacheSha256)
            "restored cache SHA-256 differs from the backup source") : OnFile Unit)
              (perform ops file) = _
        cases check (host.sha256 (perform ops file) = backup.manifest.sourceCacheSha256)
          "restored cache SHA-256 differs from the backup source" <;> rfl

theorem header_of_checkWrites {sha256 : String} {header : CacheArchiveHeader}
    (h : checkWrites host cache sha256 writes = .ok header) : header = headerAt cache := by
  rw [checkWrites, check_bind_eq_ok, check_bind_eq_ok] at h
  obtain ⟨-, -, h⟩ := h
  obtain ⟨archive, harchive, h⟩ := bind_eq_ok.1 h
  obtain ⟨indexed, -, h⟩ := bind_eq_ok.1 h
  rw [check_bind_eq_ok, check_bind_eq_ok] at h
  obtain ⟨-, -, h⟩ := h
  rw [wrapped_eq_ok, ofFile_eq_ok] at harchive
  cases h
  rw [harchive.2]
  rfl

/-- Whether an application raises or not, it leaves some of its operations performed. -/
theorem interrupted_finalState_apply (sha256 : String) (writes : List TextureCacheWrite)
    (file : Bytes) : Interrupted (writeOps (headerAt file) (headerAt file).fileSize writes).1 file
      (finalState (applyTextureCacheWrites host sha256 writes) file) := by
  unfold applyTextureCacheWrites
  show Interrupted _ file (finalState ((raise (checkWrites host file sha256 writes) :
    OnFile CacheArchiveHeader) >>= fun header => _) file)
  cases hcheck : checkWrites host file sha256 writes with
  | error message => exact ⟨0, rfl⟩
  | ok header =>
    rw [header_of_checkWrites hcheck]
    let result := writeOps (headerAt file) (headerAt file).fileSize writes
    show Interrupted result.1 file (finalState ((raise (check result.2
      "'I' format requires 0 <= number <= 4294967295") : OnFile Unit) >>= fun _ =>
        get >>= fun cache => raise (verifyWrites host cache writes) >>= fun _ =>
          get >>= fun cache => pure (host.sha256 cache, cache.length)) (perform result.1 file))
    generalize result = result
    obtain ⟨ops, completed⟩ := result
    refine Eq.mp (congrArg (Interrupted ops file) ?_) (interrupted_perform ops file)
    cases completed with
    | false => rfl
    | true =>
      show _ = finalState ((raise (verifyWrites host (perform ops file) writes) : OnFile Unit) >>=
        fun _ => get >>= fun cache => pure (host.sha256 cache, cache.length)) (perform ops file)
      cases verifyWrites host (perform ops file) writes <;> rfl

/-- A restoration that comes to its end leaves the original file: after any part of an application
of the plan and any number of restorations that were broken off. -/
theorem restored_original {artifacts : Dict (ℕ × ℕ) String}
    (hplan : buildTextureCachePlan host cache artifacts = .ok plan) {backup : Backup}
    (hbackup : createResourceBackup host cache plan = .ok backup) {applied restoring : Bytes}
    (happly : Interrupted (writeOps (headerAt cache) (headerAt cache).fileSize plan.writes).1 cache
      applied)
    (hrestore : Relation.ReflTransGen (Interrupted (restoreOps host backup).1) applied restoring) :
    Interrupted (writeOps (headerAt cache) (headerAt cache).fileSize plan.writes).1 cache
        (finalState (applyTextureCacheWrites host plan.sourceCacheSha256 plan.writes) cache) ∧
      (restoreOps host backup).2 = none ∧ perform (restoreOps host backup).1 restoring = cache ∧
        finalState (restoreResourceBackup host backup) restoring = cache := by
  have hfor := planFor_of_build hplan
  have hops := restoreOps_eq hfor hbackup
  have hfaithful := restorations_faithful hfor.wellFormed hfor.writes
  have hsize : cache.length ≤ (headerAt cache).fileSize := hfor.wellFormed.fileSize.ge
  have happlied : Agrees cache (Touched plan.writes) applied :=
    (Agrees.refl cache _).interrupted_harmless
      (writeOps_harmless _ (fun _ => id) hfor.writes hsize) happly
  have hall : ∀ op ∈ (restoreOps host backup).1, op.Faithful cache := by
    rw [hops]
    intro op hop
    rcases mem_append.1 hop with hop | hop
    · exact hfaithful op (mem_append_left _ hop)
    · simp only [mem_cons, not_mem_nil, or_false] at hop
      rcases hop with rfl | rfl
      · exact hfaithful _ (mem_append_right _ (mem_singleton_self _))
      · rfl
  have hrestoring : Agrees cache (Touched plan.writes) restoring := by
    clear happly
    induction hrestore with
    | refl => exact happlied
    | tail _ hstep ih => exact ih.interrupted_faithful hall hstep
  have hperform : perform (restoreOps host backup).1 restoring = cache := by
    rw [hops]
    have hsplit : plan.writes.flatMap (restoreWrite cache) ++
        [FileOp.write 0 (slice cache 0 headerSize), .truncate cache.length] =
          restorations cache plan.writes ++ [.truncate cache.length] := by
      rw [restorations, append_assoc]
      rfl
    rw [hsplit]
    exact hrestoring.restored hfaithful fun i _ hi =>
      exists_restoration hfor.wellFormed hfor.writes hi
  refine ⟨interrupted_finalState_apply _ _ _, by rw [hops], hperform, ?_⟩
  rw [createResourceBackup, check_bind_eq_ok, check_bind_eq_ok] at hbackup
  obtain ⟨-, -, hbackup⟩ := hbackup
  obtain ⟨records, -, hbackup⟩ := bind_eq_ok.1 hbackup
  have hmanifest : backup.manifest.format = backupFormat ∧
      backup.manifest.version = resourceBackupVersion := by
    cases hbackup
    exact ⟨rfl, rfl⟩
  rw [finalState_restore hmanifest.1 hmanifest.2, hperform]

/-! ## A cache of one texture -/

namespace OnePixel

def payload (pixel : UInt8) : Bytes :=
  [1, 0, 0, 0, 1, 0, 0, 0, 1, 0, 0, 0] ++ zeros 14 ++ [pixel]

/-- One resource that is not compressed. -/
def original : Bytes :=
  [1, 0, 0, 0, 36, 0, 0, 0, 63, 0, 0, 0, 0, 0, 0, 0] ++
    [7, 0, 0, 0, 9, 0, 0, 0, 36, 0, 0, 0, 27, 0, 0, 0, 27, 0, 0, 0] ++ payload 5

/-- A grey image of one pixel. -/
def png : Bytes :=
  [137, 80, 78, 71, 13, 10, 26, 10, 0, 0, 0, 13, 73, 72, 68, 82, 0, 0, 0, 1, 0, 0, 0, 1, 8, 0, 0,
    0, 0, 58, 126, 155, 85, 0, 0, 0, 10, 73, 68, 65, 84, 120, 218, 99, 56, 1, 0, 0, 202, 0, 201,
    52, 66, 39, 243, 0, 0, 0, 0, 73, 69, 78, 68, 174, 66, 96, 130]

def libraries : Host where
  sha256 data :=
    if data = original then "9c3ab87362421d64d5f049679916d3b850443fb60309bd358c03e069dea5422e"
    else if data = payload 5 then "499b135885840688432380de0c1da9bc29c818ab9a1bdd75fcdb4a08ab5e3452"
    else if data = payload 200 then
      "5a7317e0dd2f5c53ea44c07f1893c938d9824d5b44a601af77ff3d40b36280c5"
    else if data = png then "831975921c025d71cdb7d96f845b2e70e225e3d11c2a2413d2a03fd0b6a97c17"
    else "c380077a6faeb0c84dac6b1537797c1db0cdbcefb04d6549a097d3c030f1ce1c"
  compress := id
  decompress := some
  artifact path := if path = "pixel.png" then some ⟨path, png, some {
    isPng := true
    width := 1
    height := 1
    pixels := fun channels => List.replicate channels 200
    length_pixels := fun channels => by rw [List.length_replicate, Nat.one_mul] }⟩
    else none

def artifacts : Dict (ℕ × ℕ) String := .ofList [((7, 9), "pixel.png")]

/-- An application of a plan stops before the directory is written. -/
def applied (plan : TextureCachePlan) : Bytes :=
  perform (((writeOps (headerAt original) (headerAt original).fileSize plan.writes).1.flatMap
    FileOp.bytewise).take 27) original

/-- A restoration stops, too. -/
def restoring (plan : TextureCachePlan) (backup : Backup) : Bytes :=
  perform (((restoreOps libraries backup).1.flatMap FileOp.bytewise).take 10) (applied plan)

def broken (plan : TextureCachePlan) (backup : Backup) : Bool :=
  applied plan ≠ original && restoring plan backup ≠ original

end OnePixel

/-- The second restoration comes to its end. -/
theorem restored_onePixel : ∃ plan backup,
    buildTextureCachePlan OnePixel.libraries OnePixel.original OnePixel.artifacts = .ok plan ∧
      createResourceBackup OnePixel.libraries OnePixel.original plan = .ok backup ∧
        OnePixel.broken plan backup = true ∧
          perform (restoreOps OnePixel.libraries backup).1 (OnePixel.restoring plan backup) =
            OnePixel.original := by
  have hbuilt : (buildTextureCachePlan OnePixel.libraries OnePixel.original
      OnePixel.artifacts).toOption.any (fun plan =>
        (createResourceBackup OnePixel.libraries OnePixel.original plan).toOption.any
          (OnePixel.broken plan)) = true := by
    decide +kernel
  cases hplan : buildTextureCachePlan OnePixel.libraries OnePixel.original OnePixel.artifacts with
  | error message =>
    rw [hplan] at hbuilt
    cases hbuilt
  | ok plan =>
    rw [hplan] at hbuilt
    change (createResourceBackup OnePixel.libraries OnePixel.original plan).toOption.any
      (OnePixel.broken plan) = true at hbuilt
    cases hbackup : createResourceBackup OnePixel.libraries OnePixel.original plan with
    | error message =>
      rw [hbackup] at hbuilt
      cases hbuilt
    | ok backup =>
      rw [hbackup] at hbuilt
      exact ⟨plan, backup, rfl, hbackup, hbuilt, (restored_original hplan hbackup
        ⟨27, rfl⟩ (.single ⟨10, rfl⟩)).2.2.1⟩

end ShadowbaneLab.TextureCache
