/-
# Replacing textures of a cache

`client_extension/texture_cache.py`: the plan of a replacement, its writes to the file of the cache,
and the backup that restores it.  Hashing, deflation and the decoding of images are the host's.
-/
import Mathlib.Data.Prod.Lex
import ShadowbaneLab.Foundation.Dict
import ShadowbaneLab.Foundation.Hex
import ShadowbaneLab.Foundation.Stateful
import ShadowbaneLab.World.CacheArchive

namespace ShadowbaneLab.TextureCache

open Foundation World

/-! ## The host -/

/-- An image that was decoded; `pixels` are its bytes, flipped, for a number of channels. -/
structure Picture where
  isPng : Bool
  width : ℕ
  height : ℕ
  pixels : ℕ → Bytes
  length_pixels : ∀ channels, (pixels channels).length = width * height * channels

/-- A file that may hold an image; `name` is the last part of its path. -/
structure Artifact where
  name : String
  content : Bytes
  decoded : Option Picture

/-- The libraries of the host: `hashlib.sha256`, `zlib.compress` at its best level,
`zlib.decompress`, and the files that artifacts name. -/
structure Host where
  sha256 : Bytes → String
  compress : Bytes → Bytes
  decompress : Bytes → Option Bytes
  artifact : String → Option Artifact

/-! ## Textures -/

def textureHeaderBytes : ℕ := 26

def maxReplacements : ℕ := 256

structure TexturePayloadInfo where
  width : ℕ
  height : ℕ
  channels : ℕ
  header : Bytes

/-- `parse_texture_payload`. -/
def parseTexturePayload (payload : Bytes) : Except String TexturePayloadInfo := do
  check (textureHeaderBytes ≤ payload.length) "texture payload is smaller than its 26-byte header"
  let width := word payload 0
  let height := word payload 4
  let channels := word payload 8
  check (width ≠ 0 ∧ height ≠ 0) "texture payload dimensions must be positive"
  check (channels ∈ [1, 3, 4]) s!"unsupported texture channel count {channels}"
  let expected := textureHeaderBytes + width * height * channels
  check (payload.length = expected)
    s!"texture payload has {payload.length} bytes; expected {expected}"
  return ⟨width, height, channels, payload.take textureHeaderBytes⟩

/-- `encode_png_payload`. -/
def encodePngPayload (host : Host) (path : String) (sourcePayload : Bytes) :
    Except String (Bytes × TexturePayloadInfo) := do
  let info ← parseTexturePayload sourcePayload
  match host.artifact path with
  | none => throw s!"texture artifact does not exist: {path}"
  | some artifact =>
    match artifact.decoded with
    | none => throw s!"could not decode PNG {path}"
    | some picture => do
      check picture.isPng s!"texture artifact is not a PNG: {artifact.name}"
      check (picture.width = info.width ∧ picture.height = info.height)
        (s!"{artifact.name} is {picture.width}x{picture.height}; " ++
          s!"expected {info.width}x{info.height}")
      return (info.header ++ picture.pixels info.channels, info)

/-! ## Plans -/

structure TextureCacheWrite where
  groupId : ℕ
  resourceId : ℕ
  entryIndex : ℕ
  originalDataOffset : ℕ
  originalRawSize : ℕ
  originalStoredSize : ℕ
  originalStored : Bytes
  sourcePayloadSha256 : String
  artifactPath : String
  artifactSha256 : String
  resultPayload : Bytes
  resultPayloadSha256 : String
  resultStored : Bytes
  width : ℕ
  height : ℕ
  channels : ℕ
  appendRequired : Bool
deriving DecidableEq

def TextureCacheWrite.key (write : TextureCacheWrite) : ℕ × ℕ := (write.groupId, write.resourceId)

def TextureCacheWrite.directoryOffset (write : TextureCacheWrite) : ℕ :=
  World.directoryOffset write.entryIndex

structure TextureCachePlan where
  sourceCacheSha256 : String
  sourceCacheSize : ℕ
  resourceCount : ℕ
  writes : List TextureCacheWrite

/-- One entry of `entries_by_key`. -/
def indexEntry (result : Dict (ℕ × ℕ) CacheResourceEntry) (entry : CacheResourceEntry) :
    Except String (Dict (ℕ × ℕ) CacheResourceEntry) :=
  if result.contains entry.key then
    .error s!"cache has ambiguous texture resource {entry.groupId}:{entry.resourceId}"
  else .ok (result.set entry.key entry)

/-- `entries_by_key`. -/
def entriesByKey (archive : CacheArchive) : Except String (Dict (ℕ × ℕ) CacheResourceEntry) :=
  archive.entries.foldlM indexEntry .empty

/-- `read_stored_bytes`. -/
def readStoredBytes (cache : Bytes) (entry : CacheResourceEntry) : Except String Bytes := do
  let value := slice cache entry.dataOffset entry.storedSize
  check (value.length = entry.storedSize) s!"cache resource {entry.index} is truncated"
  return value

/-- `_validate_key`, of a pair of natural numbers. -/
def validateKey (key : ℕ × ℕ) : Except String Unit :=
  check (key.1 ≤ 0xFFFFFFFF ∧ key.2 ≤ 0xFFFFFFFF)
    "resource keys must be unsigned (group_id, resource_id) pairs"

/-- An error that is no `TextureCacheError` is raised as one. -/
def wrapped {α : Type} (message : String) (result : Except String α) : Except String α :=
  result.mapError fun cause => message ++ cause

section Host

variable (host : Host)

/-- One entry of the plan. -/
def planWrite (cache : Bytes) (archive : CacheArchive)
    (indexed : Dict (ℕ × ℕ) CacheResourceEntry) (key : ℕ × ℕ) (path : String) :
    Except String TextureCacheWrite := do
  match indexed.get? key with
  | none => throw s!"cache has no texture resource {key.1}:{key.2}"
  | some entry => do
    let sourcePayload ← wrapped "could not plan texture cache replacements: "
      (archive.readResource host.decompress entry)
    let (resultPayload, info) ← encodePngPayload host path sourcePayload
    let resultStored := if entry.isCompressed then host.compress resultPayload else resultPayload
    let originalStored ← readStoredBytes cache entry
    return {
      groupId := key.1
      resourceId := key.2
      entryIndex := entry.index
      originalDataOffset := entry.dataOffset
      originalRawSize := entry.uncompressedSize
      originalStoredSize := entry.storedSize
      originalStored := originalStored
      sourcePayloadSha256 := host.sha256 sourcePayload
      artifactPath := path
      artifactSha256 := ((host.artifact path).map fun artifact =>
        host.sha256 artifact.content).getD ""
      resultPayload := resultPayload
      resultPayloadSha256 := host.sha256 resultPayload
      resultStored := resultStored
      width := info.width
      height := info.height
      channels := info.channels
      appendRequired := decide (resultStored.length > entry.storedSize) }

/-- `build_texture_cache_plan`. -/
def buildTextureCachePlan (cache : Bytes) (artifacts : Dict (ℕ × ℕ) String) :
    Except String TextureCachePlan := do
  check (artifacts.items ≠ [] ∧ artifacts.items.length ≤ maxReplacements)
    "replacement count is outside supported bounds"
  artifacts.keys.forM validateKey
  let archive ← wrapped "could not plan texture cache replacements: " (CacheArchive.ofFile cache)
  let indexed ← entriesByKey archive
  let writes ← (sortBy (fun item => toLex item.1) artifacts.items).mapM fun item =>
    planWrite host cache archive indexed item.1 item.2
  return {
    sourceCacheSha256 := host.sha256 cache
    sourceCacheSize := archive.header.fileSize
    resourceCount := archive.header.resourceCount
    writes := writes }

/-- `_validate_write_set`. -/
def validateWriteSet (writes : List TextureCacheWrite) : Except String Unit := do
  check (writes ≠ []) "texture cache plan contains no writes"
  check (sortBy (fun write => toLex write.key) writes = writes)
    "texture cache writes must use canonical resource-key order"
  check (writes.map TextureCacheWrite.key).Nodup
    "texture cache writes contain duplicate resource keys"

/-! ## Applying a plan -/

/-- A write still fits the cache. -/
def checkWrite (cache : Bytes) (archive : CacheArchive)
    (indexed : Dict (ℕ × ℕ) CacheResourceEntry) (write : TextureCacheWrite) :
    Except String Unit := do
  match indexed.get? write.key with
  | none => throw s!"cache has no texture resource {write.groupId}:{write.resourceId}"
  | some entry => do
    check (entry.index = write.entryIndex ∧ entry.dataOffset = write.originalDataOffset ∧
        entry.uncompressedSize = write.originalRawSize ∧
        entry.storedSize = write.originalStoredSize)
      s!"cache directory changed for {write.groupId}:{write.resourceId}"
    let stored ← readStoredBytes cache entry
    check (stored = write.originalStored)
      s!"stored source bytes changed for {write.groupId}:{write.resourceId}"
    let payload ← wrapped "could not apply texture cache replacements: "
      (archive.readResource host.decompress entry)
    check (host.sha256 payload = write.sourcePayloadSha256)
      s!"source payload changed for {write.groupId}:{write.resourceId}"

/-- The operations on the file of a cache, and whether they come to their end: a word that is too
large for its record raises. -/
def writeOps (header : CacheArchiveHeader) : ℕ → List TextureCacheWrite → List FileOp × Bool
  | fileSize, [] =>
    match packWords [header.resourceCount, header.dataOffset, fileSize, header.marker] with
    | none => ([], false)
    | some record => ([.write 0 record, .truncate fileSize], true)
  | fileSize, write :: writes =>
    let target := if write.appendRequired then fileSize else write.originalDataOffset
    let fileSize :=
      if write.appendRequired then fileSize + write.resultStored.length else fileSize
    match packWords [write.groupId, write.resourceId, target, write.resultPayload.length,
        write.resultStored.length] with
    | none => ([.write target write.resultStored], false)
    | some record =>
      let (ops, completed) := writeOps header fileSize writes
      (.write target write.resultStored :: .write write.directoryOffset record :: ops, completed)

/-- The payload of a target is the planned one. -/
def verifyWrite (archive : CacheArchive) (indexed : Dict (ℕ × ℕ) CacheResourceEntry)
    (write : TextureCacheWrite) : Except String Unit := do
  match indexed.get? write.key with
  | none => throw s!"KeyError: {write.groupId}:{write.resourceId}"
  | some entry => do
    let actual ← wrapped "could not apply texture cache replacements: "
      (archive.readResource host.decompress entry)
    check (host.sha256 actual = write.resultPayloadSha256)
      s!"post-write validation failed for {write.groupId}:{write.resourceId}"

/-- A computation on the bytes of one file. -/
abbrev OnFile : Type → Type := EStateM String Bytes

def raise {α : Type} : Except String α → OnFile α
  | .ok a => pure a
  | .error message => throw message

/-- The checks of `apply_texture_cache_writes` before it opens the file for writing. -/
def checkWrites (cache : Bytes) (sourceCacheSha256 : String) (writes : List TextureCacheWrite) :
    Except String CacheArchiveHeader := do
  validateWriteSet writes
  check (host.sha256 cache = sourceCacheSha256)
    "texture cache changed after its replacement plan was built"
  let archive ← wrapped "could not apply texture cache replacements: " (CacheArchive.ofFile cache)
  let indexed ← entriesByKey archive
  check (writes.length ≤ archive.header.resourceCount)
    "texture cache plan has more writes than resources"
  writes.forM (checkWrite host cache archive indexed)
  return archive.header

/-- The checks of `apply_texture_cache_writes` after its writes. -/
def verifyWrites (cache : Bytes) (writes : List TextureCacheWrite) : Except String Unit := do
  let archive ← wrapped "could not apply texture cache replacements: " (CacheArchive.ofFile cache)
  let indexed ← entriesByKey archive
  writes.forM (verifyWrite host archive indexed)

/-- `apply_texture_cache_writes`. -/
def applyTextureCacheWrites (sourceCacheSha256 : String) (writes : List TextureCacheWrite) :
    OnFile (String × ℕ) := do
  let header ← raise (checkWrites host (← get) sourceCacheSha256 writes)
  let (ops, completed) := writeOps header header.fileSize writes
  modify (perform ops)
  raise (check completed "'I' format requires 0 <= number <= 4294967295")
  raise (verifyWrites host (← get) writes)
  let cache ← get
  return (host.sha256 cache, cache.length)

/-! ## Backups -/

structure BackupRecord where
  index : ℕ
  groupId : ℕ
  resourceId : ℕ
  dataOffset : ℕ
  rawSize : ℕ
  storedSize : ℕ
  directoryOffset : ℕ
  directoryRecordHex : List Char
  storedBlob : String
  storedSha256 : String

structure BackupManifest where
  format : String
  version : ℕ
  sourceCacheSha256 : String
  originalFileSize : ℕ
  originalHeaderHex : List Char
  resources : List BackupRecord

/-- The archive of a backup. -/
structure Backup where
  manifest : BackupManifest
  blobs : Dict String Bytes

def backupFormat : String := "wonderbane-texture-cache-backup"

def resourceBackupVersion : ℕ := 1

/-- The name of a blob. -/
def blobName (entryIndex : ℕ) : String := "resources/" ++ (decimal entryIndex ++ ".bin")

/-- The record of a write, with the directory record that the cache has. -/
def backupRecord (cache : Bytes) (write : TextureCacheWrite) : Except String BackupRecord := do
  let directory := slice cache write.directoryOffset directoryEntrySize
  check (directory.length = directoryEntrySize) "texture cache directory record is truncated"
  return {
    index := write.entryIndex
    groupId := write.groupId
    resourceId := write.resourceId
    dataOffset := write.originalDataOffset
    rawSize := write.originalRawSize
    storedSize := write.originalStoredSize
    directoryOffset := write.directoryOffset
    directoryRecordHex := hexText directory
    storedBlob := blobName write.entryIndex
    storedSha256 := host.sha256 write.originalStored }

/-- `create_resource_backup`, where there is no backup yet. -/
def createResourceBackup (cache : Bytes) (plan : TextureCachePlan) : Except String Backup := do
  check (host.sha256 cache = plan.sourceCacheSha256)
    "texture cache differs from the planned backup source"
  validateWriteSet plan.writes
  let records ← plan.writes.mapM (backupRecord host cache)
  return {
    manifest := {
      format := backupFormat
      version := resourceBackupVersion
      sourceCacheSha256 := plan.sourceCacheSha256
      originalFileSize := plan.sourceCacheSize
      originalHeaderHex := hexText (slice cache 0 headerSize)
      resources := records }
    blobs := .ofList (plan.writes.map fun write =>
      (blobName write.entryIndex, write.originalStored)) }

/-- The operations that restore some records, and the error that ends them, if any. -/
def restoreRecords (blobs : Dict String Bytes) : List BackupRecord → List FileOp × Option String
  | [] => ([], none)
  | record :: records =>
    match blobs.get? record.storedBlob with
    | none => ([], some s!"could not restore texture backup: {record.storedBlob}")
    | some stored =>
      if host.sha256 stored ≠ record.storedSha256 then
        ([], some s!"backup blob for resource {record.resourceId} is corrupt")
      else
        match ofHexText record.directoryRecordHex with
        | none => ([.write record.dataOffset stored],
            some "could not restore texture backup: non-hexadecimal number found")
        | some directory =>
          let (ops, error) := restoreRecords blobs records
          (.write record.dataOffset stored :: .write record.directoryOffset directory :: ops, error)

/-- The write phase of `restore_resource_backup`. -/
def restoreOps (backup : Backup) : List FileOp × Option String :=
  match restoreRecords host backup.blobs backup.manifest.resources with
  | (ops, some error) => (ops, some error)
  | (ops, none) =>
    match ofHexText backup.manifest.originalHeaderHex with
    | none => (ops, some "could not restore texture backup: non-hexadecimal number found")
    | some header => (ops ++ [.write 0 header, .truncate backup.manifest.originalFileSize], none)

/-- `validate_cache`. -/
def validateCache (cache : Bytes) : Except String Unit := do
  let archive ← wrapped "texture cache validation failed: " (CacheArchive.ofFile cache)
  let _ ← entriesByKey archive
  archive.entries.forM fun entry => do
    let _ ← wrapped "texture cache validation failed: " (archive.readResource host.decompress entry)

/-- `restore_resource_backup`. -/
def restoreResourceBackup (backup : Backup) : OnFile Unit := do
  raise (check (backup.manifest.format = backupFormat)
    "file is not a WonderBane texture-cache backup")
  raise (check (backup.manifest.version = resourceBackupVersion)
    s!"unsupported backup version {backup.manifest.version}")
  let (ops, error) := restoreOps host backup
  modify (perform ops)
  match error with
  | some message => throw message
  | none => do
    raise (validateCache host (← get))
    raise (check (host.sha256 (← get) = backup.manifest.sourceCacheSha256)
      "restored cache SHA-256 differs from the backup source")

end Host

end ShadowbaneLab.TextureCache
