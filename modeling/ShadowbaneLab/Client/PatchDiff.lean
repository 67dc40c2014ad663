/-
# Differences between client releases

`client_extension/patch_diff.py`: the records of the files and of the cache resources that changed
between two releases, each checked when it is built, and the comparisons that build them.
-/
import Mathlib.Data.Prod.Lex
import ShadowbaneLab.Foundation.Dict
import ShadowbaneLab.World.CacheArchive

namespace ShadowbaneLab.PatchDiff

open Foundation World

/-! ## The host -/

/-- The alphabet of a digest. -/
def hexadecimal : List Char := "0123456789abcdef".toList

/-- `str.casefold`, `hashlib.sha256`, `zlib.decompress`, the order in which a set is listed, and
`datetime.fromisoformat`, which says here whether the time has a zone. -/
structure Host where
  casefold : String → String
  sha256 : Bytes → String
  decompress : Bytes → Option Bytes
  setOrder : List String → List String
  fromisoformat : String → Option Bool
  casefold_hexadecimal : ∀ text, (∀ c ∈ text.toList, c ∈ hexadecimal) → casefold text = text
  length_sha256 : ∀ data, (sha256 data).toList.length = 64
  hexadecimal_sha256 : ∀ data, ∀ c ∈ (sha256 data).toList, c ∈ hexadecimal
  setOrder_perm : ∀ texts, (setOrder texts).Perm texts

/-! ## Paths -/

structure PurePosixPath where
  root : String
  tail : List String

namespace PurePosixPath

/-- Two slashes at the front are a root of their own; empty and dot segments are dropped. -/
def ofString (value : String) : PurePosixPath :=
  let (root, rest) := match value.toList with
    | '/' :: '/' :: '/' :: rest => ("/", rest)
    | '/' :: '/' :: rest => ("//", rest)
    | '/' :: rest => ("/", rest)
    | chars => ("", chars)
  ⟨root, ((rest.splitOn '/').map String.ofList).filter fun part => part ≠ "" ∧ part ≠ "."⟩

def isAbsolute (path : PurePosixPath) : Bool := path.root ≠ ""

def parts (path : PurePosixPath) : List String :=
  if path.root = "" then path.tail else path.root :: path.tail

def asPosix (path : PurePosixPath) : String :=
  if path.root = "" ∧ path.tail = [] then "." else path.root ++ "/".intercalate path.tail

/-- From the last dot of the name on, unless that is its first or its last character. -/
def suffix (path : PurePosixPath) : String :=
  let reversed := (path.tail.getLast?.getD "").toList.reverse
  let extension := reversed.takeWhile (· ≠ '.')
  let stem := reversed.drop (extension.length + 1)
  if stem = [] ∨ extension = [] then "" else String.ofList ('.' :: extension.reverse)

end PurePosixPath

/-- `_relative_path`. -/
def relativePath (value : String) : Except String Unit := do
  let path := PurePosixPath.ofString value
  check (value ≠ "" ∧ '\\' ∉ value.toList ∧ '\x00' ∉ value.toList)
    "relative path must be a non-empty POSIX-style path"
  check (¬ path.isAbsolute ∧ ∀ part ∈ path.parts, part ∉ ["", ".", ".."])
    "relative path must remain beneath the client root"
  check (path.asPosix = value) "relative path must be canonical POSIX form"

/-- `validate_relative_path`, of the records of an inventory. -/
def validateRelativePath (value : String) : Except String Unit := do
  let path := PurePosixPath.ofString value
  check (value ≠ "" ∧ '\x00' ∉ value.toList ∧ '\\' ∉ value.toList)
    "relative_path must be a non-empty canonical POSIX relative path"
  check (¬ path.isAbsolute ∧ value = path.asPosix)
    "relative_path must be a canonical POSIX relative path"
  check (∀ part ∈ path.parts, part ∉ ["", ".", ".."])
    "relative_path must not contain empty, dot, or parent segments"
  check (∀ part ∈ path.parts, part.toList.getLast? ≠ some '.' ∧ part.toList.getLast? ≠ some ' ')
    "relative_path contains a Windows-ambiguous segment"
  check (∀ part ∈ path.parts, ':' ∉ part.toList)
    "relative_path must not contain drive or stream separators"

/-! ## Numbers and digests -/

/-- `_unsigned_integer`. -/
def unsignedInteger (value : ℕ) (fieldName : String) : Except String Unit :=
  check (value ≤ 0xFFFFFFFF) s!"{fieldName} must be a 32-bit unsigned integer"

/-- `_sha256`. -/
def sha256 (host : Host) (value fieldName : String) : Except String Unit :=
  check (value.toList.length = 64 ∧ value = host.casefold value ∧
    value.toList.all (· ∈ hexadecimal)) s!"{fieldName} must be lowercase hexadecimal SHA-256"

/-- `validate_sha256`, of the records of an inventory. -/
def validateSha256 (value fieldName : String) : Except String Unit :=
  check (value.toList.length = 64 ∧ value.toList.all (· ∈ hexadecimal))
    s!"{fieldName} must be a lowercase SHA-256 digest"

/-! ## Files -/

structure BaselineFileFields where
  relativePath : String
  size : ℕ
  sha256 : String
deriving DecidableEq

def BaselineFileFields.postInit (fields : BaselineFileFields) : Except String Unit := do
  validateRelativePath fields.relativePath
  validateSha256 fields.sha256 "baseline file sha256"

abbrev BaselineFile : Type := Checked BaselineFileFields.postInit

structure FileFingerprintFields where
  size : ℕ
  sha256 : String
deriving DecidableEq

def FileFingerprintFields.postInit (host : Host) (fields : FileFingerprintFields) :
    Except String Unit :=
  PatchDiff.sha256 host fields.sha256 "file sha256"

abbrev FileFingerprint (host : Host) : Type := Checked (FileFingerprintFields.postInit host)

inductive FileChangeKind
  | added
  | removed
  | modified
  | renamed
deriving DecidableEq

def FileChangeKind.text : FileChangeKind → String
  | added => "added"
  | removed => "removed"
  | modified => "modified"
  | renamed => "renamed"

structure PatchFileChangeFields (host : Host) where
  kind : FileChangeKind
  beforePath : Option String
  before : Option (FileFingerprint host)
  afterPath : Option String
  after : Option (FileFingerprint host)
deriving DecidableEq

def PatchFileChangeFields.postInit {host : Host} (fields : PatchFileChangeFields host) :
    Except String Unit := do
  fields.beforePath.forM relativePath
  fields.afterPath.forM relativePath
  check (fields.beforePath.isNone = fields.before.isNone)
    "before path and fingerprint must either both be present or absent"
  check (fields.afterPath.isNone = fields.after.isNone)
    "after path and fingerprint must either both be present or absent"
  check (fields.kind = .added → fields.before.isNone ∧ fields.after.isSome)
    "added files require only an after value"
  check (fields.kind = .removed → fields.before.isSome ∧ fields.after.isNone)
    "removed files require only a before value"
  check (fields.kind ∈ [.modified, .renamed] → fields.before.isSome ∧ fields.after.isSome)
    s!"{fields.kind.text} files require before and after values"
  check (fields.kind = .modified →
      fields.beforePath.map host.casefold = fields.afterPath.map host.casefold)
    "modified files must retain their case-insensitive path"
  check (fields.kind = .modified → fields.before ≠ fields.after)
    "modified files must have different fingerprints"
  check (fields.kind = .renamed → fields.beforePath ≠ fields.afterPath)
    "renamed files must change path"
  check (fields.kind = .renamed → fields.before = fields.after)
    "renamed files must retain their exact fingerprint"

abbrev PatchFileChange (host : Host) : Type := Checked (@PatchFileChangeFields.postInit host)

/-- `_file_change_key`. -/
def fileChangeKey {host : Host} (change : PatchFileChange host) : String ×ₗ String ×ₗ String :=
  let fields := change.val
  toLex (host.casefold ((fields.beforePath.or fields.afterPath).getD ""),
    toLex (host.casefold (fields.afterPath.getD ""), fields.kind.text))

/-! ## Resources -/

structure CacheResourceFingerprintFields where
  uncompressedSize : ℕ
  storedSize : ℕ
  compressed : Bool
  payloadSha256 : String
deriving DecidableEq

def CacheResourceFingerprintFields.postInit (host : Host)
    (fields : CacheResourceFingerprintFields) : Except String Unit := do
  check (fields.compressed = decide (fields.uncompressedSize ≠ fields.storedSize))
    "resource compression flag disagrees with its sizes"
  PatchDiff.sha256 host fields.payloadSha256 "resource payload_sha256"

abbrev CacheResourceFingerprint (host : Host) : Type :=
  Checked (CacheResourceFingerprintFields.postInit host)

def logicalIdentity {host : Host} (fingerprint : CacheResourceFingerprint host) : ℕ × String :=
  (fingerprint.val.uncompressedSize, fingerprint.val.payloadSha256)

inductive ResourceChangeKind
  | added
  | removed
  | modified
  | repacked
deriving DecidableEq

def ResourceChangeKind.text : ResourceChangeKind → String
  | added => "added"
  | removed => "removed"
  | modified => "modified"
  | repacked => "repacked"

structure CacheResourceChangeFields (host : Host) where
  kind : ResourceChangeKind
  groupId : ℕ
  resourceId : ℕ
  before : Option (CacheResourceFingerprint host)
  after : Option (CacheResourceFingerprint host)
deriving DecidableEq

def CacheResourceChangeFields.postInit {host : Host} (fields : CacheResourceChangeFields host) :
    Except String Unit := do
  unsignedInteger fields.groupId "group_id"
  unsignedInteger fields.resourceId "resource_id"
  check (fields.kind = .added → fields.before.isNone ∧ fields.after.isSome)
    "added resources require only an after value"
  check (fields.kind = .removed → fields.before.isSome ∧ fields.after.isNone)
    "removed resources require only a before value"
  check (fields.kind ∈ [.modified, .repacked] → fields.before.isSome ∧ fields.after.isSome)
    s!"{fields.kind.text} resources require before and after values"
  check (fields.kind = .modified →
      fields.before.map logicalIdentity ≠ fields.after.map logicalIdentity)
    "modified resources must change logical payload"
  check (fields.kind = .repacked →
      fields.before.map logicalIdentity = fields.after.map logicalIdentity)
    "repacked resources must retain logical payload"
  check (fields.kind = .repacked → fields.before ≠ fields.after)
    "repacked resources must change storage representation"

abbrev CacheResourceChange (host : Host) : Type :=
  Checked (@CacheResourceChangeFields.postInit host)

/-- `(item.group_id, item.resource_id)`. -/
def resourceKey {host : Host} (change : CacheResourceChange host) : ℕ × ℕ :=
  (change.val.groupId, change.val.resourceId)

/-- `_kind_counts`, at one kind. -/
def kindCount {α κ : Type} [DecidableEq κ] (kind : α → κ) (changes : List α) (k : κ) : ℕ :=
  changes.countP fun change => kind change = k

structure CacheArchiveDiffFields (host : Host) where
  relativePath : String
  sourceResourceCount : ℕ
  targetResourceCount : ℕ
  unchangedResourceCount : ℕ
  changes : List (CacheResourceChange host)
deriving DecidableEq

def CacheArchiveDiffFields.postInit {host : Host} (fields : CacheArchiveDiffFields host) :
    Except String Unit := do
  PatchDiff.relativePath fields.relativePath
  check (host.casefold (PurePosixPath.ofString fields.relativePath).suffix = ".cache")
    "cache archive diff must name a .cache file"
  check (sortBy (fun change => toLex (resourceKey change)) fields.changes = fields.changes)
    "cache resource changes must use canonical key order"
  check ((fields.changes.map resourceKey).dedup.length = fields.changes.length)
    "cache archive diff contains duplicate resource keys"
  let counts := kindCount (fun change => change.val.kind) fields.changes
  let expectedSource := fields.unchangedResourceCount + counts .removed + counts .modified +
    counts .repacked
  let expectedTarget := fields.unchangedResourceCount + counts .added + counts .modified +
    counts .repacked
  check (expectedSource = fields.sourceResourceCount)
    "source cache resource accounting is inconsistent"
  check (expectedTarget = fields.targetResourceCount)
    "target cache resource accounting is inconsistent"

abbrev CacheArchiveDiff (host : Host) : Type :=
  Checked (@CacheArchiveDiffFields.postInit host)

/-! ## Resources of a cache archive -/

/-- `CacheResourceFingerprint(...)`, of a resource of an archive. -/
def resourceFingerprint (host : Host) (archive : CacheArchive) (entry : CacheResourceEntry) :
    Except String (CacheResourceFingerprint host) := do
  let payload ← archive.readResource host.decompress entry
  build (CacheResourceFingerprintFields.postInit host) {
    uncompressedSize := entry.uncompressedSize
    storedSize := entry.storedSize
    compressed := entry.isCompressed
    payloadSha256 := host.sha256 payload }

/-- A second resource of the same key raises. -/
def addResource (host : Host) (archive : CacheArchive)
    (results : Dict (ℕ × ℕ) (CacheResourceFingerprint host)) (entry : CacheResourceEntry) :
    Except String (Dict (ℕ × ℕ) (CacheResourceFingerprint host)) := do
  check (¬ results.contains entry.key)
    s!"cache contains duplicate resource key {entry.groupId}:{entry.resourceId}"
  return results.set entry.key (← resourceFingerprint host archive entry)

/-- `_cache_inventory`, of the bytes of a file if it can be read. -/
def cacheInventory (host : Host) (file : Except String Bytes) :
    Except String (Dict (ℕ × ℕ) (CacheResourceFingerprint host)) := do
  let archive ← CacheArchive.ofFile (← file)
  archive.entries.foldlM (addResource host archive) .empty

/-- `None` is for a resource that did not change. -/
def resourceChangeKind {host : Host} (before after : Option (CacheResourceFingerprint host)) :
    Option ResourceChangeKind :=
  match before, after with
  | none, _ => some .added
  | _, none => some .removed
  | some before, some after =>
    if before = after then none
    else if logicalIdentity before = logicalIdentity after then some .repacked
    else some .modified

/-- The changes and the number of unchanged resources, with those of one more key. -/
def compareResource {host : Host} (source target : Dict (ℕ × ℕ) (CacheResourceFingerprint host))
    (state : List (CacheResourceChange host) × ℕ) (key : ℕ × ℕ) :
    Except String (List (CacheResourceChange host) × ℕ) := do
  let before := source.get? key
  let after := target.get? key
  match resourceChangeKind before after with
  | none => return (state.1, state.2 + 1)
  | some kind =>
    let change ← build (@CacheResourceChangeFields.postInit host) {
      kind := kind
      groupId := key.1
      resourceId := key.2
      before := before
      after := after }
    return (state.1 ++ [change], state.2)

/-- `sorted(set(source) | set(target))`. -/
def allKeys {ν : Type} (source target : Dict (ℕ × ℕ) ν) : List (ℕ × ℕ) :=
  sortBy toLex (source.keys ++ target.keys.filter fun key => ¬ source.contains key)

/-- `except (CacheArchiveFormatError, OSError, ValueError)`, around the reading of the archives. -/
def cacheAnalysis {α : Type} (relativePath : String) : Except String α → Except String α
  | .ok a => .ok a
  | .error cause => .error s!"cache analysis failed for {relativePath}: {cause}"

/-- `compare_cache_archives`. -/
def compareCacheArchives (host : Host) (sourceFile targetFile : Except String Bytes)
    (relativePath : String) : Except String (CacheArchiveDiff host) := do
  let (source, target) ← cacheAnalysis relativePath do
    let source ← cacheInventory host sourceFile
    let target ← cacheInventory host targetFile
    return (source, target)
  let (changes, unchanged) ← (allKeys source target).foldlM (compareResource source target) ([], 0)
  build (@CacheArchiveDiffFields.postInit host) {
    relativePath := relativePath
    sourceResourceCount := source.items.length
    targetResourceCount := target.items.length
    unchangedResourceCount := unchanged
    changes := changes }

/-! ## Files of an inventory -/

/-- `VerifiedClientBaseline`: the records of its files, the digest of its executable, and what a
file under its directory holds. -/
structure VerifiedClientBaseline where
  files : List BaselineFile
  executableSha256 : String
  read : String → Except String Bytes

/-- `{item.relative_path.casefold(): item for item in files}`. -/
def byPath (host : Host) (files : List BaselineFile) : Dict String BaselineFile :=
  .ofList (files.map fun item => (host.casefold item.val.relativePath, item))

/-- `FileFingerprint(record.size, record.sha256)`. -/
def fileFingerprint (host : Host) (record : BaselineFile) : Except String (FileFingerprint host) :=
  build (FileFingerprintFields.postInit host) ⟨record.val.size, record.val.sha256⟩

/-- The changes and the number of unchanged files, with those of one more path of both releases. -/
def compareCommon (host : Host) (beforeByPath afterByPath : Dict String BaselineFile)
    (state : List (PatchFileChange host) × ℕ) (key : String) :
    Except String (List (PatchFileChange host) × ℕ) := do
  match beforeByPath.get? key, afterByPath.get? key with
  | some beforeRecord, some afterRecord =>
    let before ← fileFingerprint host beforeRecord
    let after ← fileFingerprint host afterRecord
    if before = after ∧ beforeRecord.val.relativePath = afterRecord.val.relativePath then
      return (state.1, state.2 + 1)
    else
      let change ← build (@PatchFileChangeFields.postInit host) {
        kind := if before = after then .renamed else .modified
        beforePath := some beforeRecord.val.relativePath
        before := some before
        afterPath := some afterRecord.val.relativePath
        after := some after }
      return (state.1 ++ [change], state.2)
  | _, _ => throw key

/-- `(record.size, record.sha256)`. -/
def contentKey (record : BaselineFile) : ℕ ×ₗ String := toLex (record.val.size, record.val.sha256)

/-- `removed_by_fingerprint`, and `added_by_fingerprint`. -/
def byFingerprint (records : Dict String BaselineFile) : Dict (ℕ ×ₗ String) (List String) :=
  records.items.foldl (fun keys item =>
    keys.set (contentKey item.2) (keys.getD (contentKey item.2) [] ++ [item.1])) .empty

/-- `set(records) - set(others)`, in the order in which it is listed, with the records. -/
def onlyIn (host : Host) (records others : Dict String BaselineFile) : Dict String BaselineFile :=
  .ofList ((host.setOrder (records.keys.filter fun key => ¬ others.contains key)).filterMap
    fun key => (records.get? key).map fun record => (key, record))

structure Matching (host : Host) where
  removed : Dict String BaselineFile
  added : Dict String BaselineFile
  changes : List (PatchFileChange host)

/-- A content that one removed and one added file have is a renamed file. -/
def matchContent (host : Host) (removedBy addedBy : Dict (ℕ ×ₗ String) (List String))
    (state : Matching host) (fingerprint : ℕ ×ₗ String) : Except String (Matching host) := do
  match removedBy.get? fingerprint, addedBy.get? fingerprint with
  | some [oldKey], some [newKey] =>
    match state.removed.get? oldKey, state.added.get? newKey with
    | some beforeRecord, some afterRecord =>
      let identity ← build (FileFingerprintFields.postInit host)
        ⟨(ofLex fingerprint).1, (ofLex fingerprint).2⟩
      let change ← build (@PatchFileChangeFields.postInit host) {
        kind := .renamed
        beforePath := some beforeRecord.val.relativePath
        before := some identity
        afterPath := some afterRecord.val.relativePath
        after := some identity }
      return {
        removed := state.removed.erase oldKey
        added := state.added.erase newKey
        changes := state.changes ++ [change] }
    | _, _ => throw "KeyError"
  | some _, some _ => return state
  | _, _ => throw "KeyError"

def removedChange (host : Host) (record : BaselineFile) : Except String (PatchFileChange host) := do
  let before ← fileFingerprint host record
  build (@PatchFileChangeFields.postInit host) {
    kind := .removed
    beforePath := some record.val.relativePath
    before := some before
    afterPath := none
    after := none }

def addedChange (host : Host) (record : BaselineFile) : Except String (PatchFileChange host) := do
  let after ← fileFingerprint host record
  build (@PatchFileChangeFields.postInit host) {
    kind := .added
    beforePath := none
    before := none
    afterPath := some record.val.relativePath
    after := some after }

/-- `_compare_file_inventories`. -/
def compareFileInventories (host : Host) (source target : List BaselineFile) :
    Except String (List (PatchFileChange host) × ℕ) := do
  let beforeByPath := byPath host source
  let afterByPath := byPath host target
  let common := sortBy id (beforeByPath.keys.filter fun key => afterByPath.contains key)
  let (changes, unchanged) ← common.foldlM (compareCommon host beforeByPath afterByPath) ([], 0)
  let removed := onlyIn host beforeByPath afterByPath
  let added := onlyIn host afterByPath beforeByPath
  let removedBy := byFingerprint removed
  let addedBy := byFingerprint added
  let contents := sortBy id (removedBy.keys.filter fun fingerprint => addedBy.contains fingerprint)
  let state ← contents.foldlM (matchContent host removedBy addedBy) ⟨removed, added, changes⟩
  let removals ← state.removed.values.mapM (removedChange host)
  let additions ← state.added.values.mapM (addedChange host)
  return (sortBy fileChangeKey (state.changes ++ removals ++ additions), unchanged)

/-! ## Releases -/

/-- `ClientTreeIdentity`, as far as a difference is checked against it. -/
structure ClientTreeIdentity where
  executableSha256 : String
  fileCount : ℕ

/-- `_tree_identity`. -/
def treeIdentity (baseline : VerifiedClientBaseline) : ClientTreeIdentity :=
  ⟨baseline.executableSha256, baseline.files.length⟩

/-- `_IDENTIFIER`. -/
def isIdentifier (value : String) : Bool :=
  match value.toList with
  | [] => false
  | c :: rest => (c.isLower || c.isDigit) && decide (rest.length ≤ 127) &&
    rest.all fun c => c.isLower || c.isDigit || c ∈ ['.', '_', '-']

/-- `value.replace("Z", "+00:00")`. -/
def replaceZone (value : String) : String :=
  String.ofList (value.toList.flatMap fun c => if c = 'Z' then "+00:00".toList else [c])

/-- `_timestamp`. -/
def timestamp (host : Host) (value : String) : Except String Unit :=
  match host.fromisoformat (replaceZone value) with
  | none => .error "compared_at_utc must be an ISO-8601 timestamp"
  | some zoned => check zoned "compared_at_utc must include a timezone"

structure ClientPatchDiffFields (host : Host) (Report : Type) where
  patchId : String
  comparedAtUtc : String
  source : ClientTreeIdentity
  target : ClientTreeIdentity
  unchangedFileCount : ℕ
  fileChanges : List (PatchFileChange host)
  cacheArchiveDiffs : List (CacheArchiveDiff host)
  executableAlignment : Option Report
  schemaVersion : ℕ := 1

/-- The order of the cache archives of a difference. -/
def archiveDiffKey {host : Host} (diff : CacheArchiveDiff host) : String :=
  host.casefold diff.val.relativePath

def ClientPatchDiffFields.postInit {host : Host} {Report : Type}
    (fields : ClientPatchDiffFields host Report) : Except String Unit := do
  check (fields.schemaVersion = 1) "unsupported client patch diff schema version"
  check (isIdentifier fields.patchId) "patch_id must be a canonical identifier"
  timestamp host fields.comparedAtUtc
  check (sortBy fileChangeKey fields.fileChanges = fields.fileChanges)
    "file changes must use canonical path order"
  check (sortBy archiveDiffKey fields.cacheArchiveDiffs = fields.cacheArchiveDiffs)
    "cache archive diffs must use canonical path order"
  let counts := kindCount (fun change => change.val.kind) fields.fileChanges
  let sourceCount := fields.unchangedFileCount + counts .removed + counts .modified +
    counts .renamed
  let targetCount := fields.unchangedFileCount + counts .added + counts .modified + counts .renamed
  check (sourceCount = fields.source.fileCount) "source file accounting is inconsistent"
  check (targetCount = fields.target.fileCount) "target file accounting is inconsistent"
  check (decide (fields.source.executableSha256 ≠ fields.target.executableSha256) =
    fields.executableAlignment.isSome)
    "executable alignment must be present exactly when the executable changed"

abbrev ClientPatchDiff (host : Host) (Report : Type) : Type :=
  Checked (@ClientPatchDiffFields.postInit host Report)

/-- The caches of which the resources are compared. -/
def isModifiedCache {host : Host} (change : PatchFileChange host) : Bool :=
  change.val.kind = .modified ∧
    change.val.afterPath.any fun path =>
      host.casefold (PurePosixPath.ofString path).suffix = ".cache"

/-- `compare_frozen_client_baselines`, of verified baselines; the alignment of the executables is a
parameter. -/
def compareFrozenClientBaselines (host : Host) {Report : Type}
    (source target : VerifiedClientBaseline) (patchId comparedAt : String) (analyzeCaches : Bool)
    (compareClientBuilds : Except String Report) : Except String (ClientPatchDiff host Report) := do
  let (fileChanges, unchanged) ← compareFileInventories host source.files target.files
  let caches := if analyzeCaches then fileChanges.filter isModifiedCache else []
  let cacheDiffs ← caches.mapM fun change => compareCacheArchives host
    (source.read (change.val.beforePath.getD "")) (target.read (change.val.afterPath.getD ""))
    (change.val.afterPath.getD "")
  let alignment ← if source.executableSha256 ≠ target.executableSha256
    then some <$> compareClientBuilds else pure none
  build (@ClientPatchDiffFields.postInit host Report) {
    patchId := patchId
    comparedAtUtc := comparedAt
    source := treeIdentity source
    target := treeIdentity target
    unchangedFileCount := unchanged
    fileChanges := fileChanges
    cacheArchiveDiffs := sortBy archiveDiffKey cacheDiffs
    executableAlignment := alignment }

end ShadowbaneLab.PatchDiff
