/-
# Cache archives

`world_data/cache.py`: the header and the directory of a `.cache` file, and the payloads of its
resources.  Inflation is a parameter.
-/
import ShadowbaneLab.Foundation.ByteFile
import ShadowbaneLab.Foundation.Host
import ShadowbaneLab.Foundation.Records

namespace ShadowbaneLab.World

open Foundation

structure CacheArchiveHeader where
  resourceCount : ℕ
  dataOffset : ℕ
  fileSize : ℕ
  marker : ℕ
deriving DecidableEq

structure CacheResourceEntry where
  index : ℕ
  groupId : ℕ
  resourceId : ℕ
  dataOffset : ℕ
  uncompressedSize : ℕ
  storedSize : ℕ
deriving DecidableEq

/-- Only the sizes say whether a resource is compressed. -/
def CacheResourceEntry.isCompressed (entry : CacheResourceEntry) : Bool :=
  entry.uncompressedSize ≠ entry.storedSize

def CacheResourceEntry.key (entry : CacheResourceEntry) : ℕ × ℕ := (entry.groupId, entry.resourceId)

/-! ## Words -/

/-- `_HEADER.size` and `_DIRECTORY_ENTRY.size`. -/
def headerSize : ℕ := 16

def directoryEntrySize : ℕ := 20

/-- The word at an offset. -/
def word (view : Bytes) (offset : ℕ) : ℕ := ofLittleEndian (slice view offset 4)

theorem word_lt (file : Bytes) (offset : ℕ) : word file offset < 2 ^ 32 := by
  have hbound := ofLittleEndian_lt (slice file offset 4)
  have hlength : (slice file offset 4).length ≤ 4 := by
    rw [slice, List.length_take]
    exact min_le_left ..
  exact hbound.trans_le (Nat.pow_le_pow_right (by decide) hlength)

/-- `struct.pack` of words, which raises when one is too large. -/
def packWords (words : List ℕ) : Option Bytes :=
  if words.all (· < 2 ^ 32) then some (words.flatMap (littleEndian 4)) else none

/-- Where the directory has the record of an index. -/
def directoryOffset (index : ℕ) : ℕ := headerSize + index * directoryEntrySize

def headerAt (view : Bytes) : CacheArchiveHeader where
  resourceCount := word view 0
  dataOffset := word view 4
  fileSize := word view 8
  marker := word view 12

def entryAt (view : Bytes) (index : ℕ) : CacheResourceEntry where
  index := index
  groupId := word view (directoryOffset index)
  resourceId := word view (directoryOffset index + 4)
  dataOffset := word view (directoryOffset index + 8)
  uncompressedSize := word view (directoryOffset index + 12)
  storedSize := word view (directoryOffset index + 16)

/-! ## The directory -/

/-- A resource whose data lie outside of the data of the file raises. -/
def checkedEntry (header : CacheArchiveHeader) (view : Bytes) (index : ℕ) :
    Except String CacheResourceEntry :=
  let entry := entryAt view index
  let dataEnd := entry.dataOffset + entry.storedSize
  if entry.dataOffset < header.dataOffset ∨ view.length < dataEnd then
    .error s!"resource {index} data range [{entry.dataOffset}, {dataEnd}) is out of bounds"
  else .ok entry

/-- `_parse_directory`. -/
def parseDirectory (view : Bytes) : Except String (CacheArchiveHeader × List CacheResourceEntry) := do
  let header := headerAt view
  let minimum := headerSize + header.resourceCount * directoryEntrySize
  check (headerSize ≤ view.length) "cache archive is smaller than its 16-byte header"
  check (minimum ≤ header.dataOffset)
    s!"cache data offset {header.dataOffset} overlaps the directory ending at {minimum}"
  check (header.fileSize = view.length)
    s!"cache header size is {header.fileSize}; actual size is {view.length}"
  check (header.dataOffset ≤ view.length) "cache directory extends past end of file"
  let entries ← (List.range header.resourceCount).mapM (checkedEntry header view)
  return (header, entries)

structure CacheArchive where
  view : Bytes
  header : CacheArchiveHeader
  entries : List CacheResourceEntry

/-- `CacheArchive`, of a file with these bytes. -/
def CacheArchive.ofFile (view : Bytes) : Except String CacheArchive := do
  check (view ≠ []) "cannot mmap an empty file"
  let (header, entries) ← parseDirectory view
  return ⟨view, header, entries⟩

/-- `read_resource`. -/
def CacheArchive.readResource (decompress : Bytes → Option Bytes) (archive : CacheArchive)
    (entry : CacheResourceEntry) : Except String Bytes := do
  check (archive.entries[entry.index]? = some entry)
    "cache resource entry does not belong to this archive"
  let stored := slice archive.view entry.dataOffset entry.storedSize
  if ¬ entry.isCompressed then return stored
  else
    match decompress stored with
    | none => throw s!"resource {entry.index} has invalid deflate data"
    | some payload =>
      if payload.length ≠ entry.uncompressedSize then
        throw (s!"resource {entry.index} inflated to {payload.length} bytes; " ++
          s!"expected {entry.uncompressedSize}")
      else return payload

/-! ## Archives that were accepted -/

/-- A file is an archive: what `_parse_directory` checks. -/
structure WellFormed (view : Bytes) : Prop where
  header : headerSize ≤ view.length
  directory : directoryOffset (headerAt view).resourceCount ≤ (headerAt view).dataOffset
  fileSize : (headerAt view).fileSize = view.length
  data : (headerAt view).dataOffset ≤ view.length
  entries : ∀ index < (headerAt view).resourceCount,
    (headerAt view).dataOffset ≤ (entryAt view index).dataOffset ∧
      (entryAt view index).dataOffset + (entryAt view index).storedSize ≤ view.length

/-- The archive of a well-formed file. -/
def archiveOf (view : Bytes) : CacheArchive :=
  ⟨view, headerAt view, (List.range (headerAt view).resourceCount).map (entryAt view)⟩

variable {α β : Type}

variable {f : α → Except String β}

theorem mapM_eq_ok_iff {g : α → β} {l : List α} {p : α → Prop}
    (hf : ∀ a b, f a = .ok b ↔ p a ∧ b = g a) {bs : List β} :
    l.mapM f = .ok bs ↔ (∀ a ∈ l, p a) ∧ bs = l.map g := by
  induction l generalizing bs with
  | nil =>
    rw [List.mapM_nil]
    constructor
    · intro h
      cases h
      exact ⟨nofun, rfl⟩
    · rintro ⟨-, rfl⟩
      rfl
  | cons a l ih =>
    rw [List.mapM_cons, bind_eq_ok]
    constructor
    · rintro ⟨b, hb, h⟩
      obtain ⟨bs', hbs, h⟩ := bind_eq_ok.1 h
      cases h
      obtain ⟨ha, rfl⟩ := (hf a b).1 hb
      obtain ⟨hl, rfl⟩ := ih.1 hbs
      exact ⟨List.forall_mem_cons.2 ⟨ha, hl⟩, rfl⟩
    · rintro ⟨hl, rfl⟩
      obtain ⟨ha, hl⟩ := List.forall_mem_cons.1 hl
      exact ⟨g a, (hf a _).2 ⟨ha, rfl⟩, bind_eq_ok.2 ⟨l.map g, ih.2 ⟨hl, rfl⟩, rfl⟩⟩

/-- What a computation that does not raise makes of each element. -/
theorem forall₂_of_mapM {l : List α} {bs : List β} (h : l.mapM f = .ok bs) :
    List.Forall₂ (fun a b => f a = .ok b) l bs := by
  induction l generalizing bs with
  | nil =>
    cases h
    exact .nil
  | cons a l ih =>
    rw [List.mapM_cons] at h
    obtain ⟨b, hb, h⟩ := bind_eq_ok.1 h
    obtain ⟨bs', hbs, h⟩ := bind_eq_ok.1 h
    cases h
    exact .cons hb (ih hbs)

theorem exists_of_forall₂ {R : α → β → Prop} {l : List α} {bs : List β} (h : List.Forall₂ R l bs)
    {b : β} (hb : b ∈ bs) : ∃ a ∈ l, R a b := by
  induction h with
  | nil => cases hb
  | cons hhead _ ih =>
    rcases List.mem_cons.1 hb with rfl | hb
    · exact ⟨_, List.mem_cons_self, hhead⟩
    · obtain ⟨a, ha, hR⟩ := ih hb
      exact ⟨a, List.mem_cons_of_mem _ ha, hR⟩

theorem map_eq_map_of_forall₂ {α β γ : Type} {f : α → γ} {g : β → γ} {l : List α} {bs : List β}
    (h : List.Forall₂ (fun a b => g b = f a) l bs) : bs.map g = l.map f := by
  induction h with
  | nil => rfl
  | cons hhead _ ih => rw [List.map_cons, List.map_cons, hhead, ih]

variable {view : Bytes}

variable {entry : CacheResourceEntry}

theorem checkedEntry_eq_ok {header : CacheArchiveHeader} {index : ℕ} :
    checkedEntry header view index = .ok entry ↔
      (header.dataOffset ≤ (entryAt view index).dataOffset ∧
        (entryAt view index).dataOffset + (entryAt view index).storedSize ≤ view.length) ∧
      entry = entryAt view index := by
  unfold checkedEntry
  dsimp only
  split
  case isTrue h => exact ⟨nofun, fun h' => by omega⟩
  case isFalse h =>
    rw [Except.ok.injEq, eq_comm]
    refine ⟨fun heq => ⟨by omega, heq⟩, fun h' => h'.2⟩

theorem parseDirectory_eq_ok {parsed : CacheArchiveHeader × List CacheResourceEntry} :
    parseDirectory view = .ok parsed ↔
      WellFormed view ∧ parsed = (headerAt view, (archiveOf view).entries) := by
  unfold parseDirectory
  dsimp only
  rw [check_bind_eq_ok, check_eq_ok, check_bind_eq_ok, check_eq_ok, check_bind_eq_ok, check_eq_ok,
    check_bind_eq_ok, check_eq_ok, bind_eq_ok]
  simp only [decide_eq_true_eq]
  constructor
  · rintro ⟨hheader, hdirectory, hsize, hdata, entries, hentries, hparsed⟩
    cases hparsed
    obtain ⟨hall, rfl⟩ := (mapM_eq_ok_iff fun _ _ => checkedEntry_eq_ok).1 hentries
    exact ⟨⟨hheader, hdirectory, hsize, hdata, fun i hi => hall i (List.mem_range.2 hi)⟩, rfl⟩
  · rintro ⟨h, rfl⟩
    refine ⟨h.header, h.directory, h.fileSize, h.data, _, ?_, rfl⟩
    exact (mapM_eq_ok_iff fun _ _ => checkedEntry_eq_ok).2
      ⟨fun i hi => h.entries i (List.mem_range.1 hi), rfl⟩

theorem ofFile_eq_ok {archive : CacheArchive} :
    CacheArchive.ofFile view = .ok archive ↔ WellFormed view ∧ archive = archiveOf view := by
  rw [CacheArchive.ofFile, check_bind_eq_ok, check_eq_ok, decide_eq_true_eq, bind_eq_ok]
  constructor
  · rintro ⟨-, parsed, hparsed, harchive⟩
    obtain ⟨h, rfl⟩ := parseDirectory_eq_ok.1 hparsed
    cases harchive
    exact ⟨h, rfl⟩
  · rintro ⟨h, rfl⟩
    have hne : view ≠ [] := List.ne_nil_of_length_pos (Nat.lt_of_lt_of_le (by decide) h.header)
    exact ⟨hne, _, parseDirectory_eq_ok.2 ⟨h, rfl⟩, rfl⟩

theorem getElem?_entries {index : ℕ} :
    (archiveOf view).entries[index]? = some entry ↔
      index < (headerAt view).resourceCount ∧ entry = entryAt view index := by
  rw [archiveOf, List.getElem?_map, Option.map_eq_some_iff]
  constructor
  · rintro ⟨i, hi, rfl⟩
    obtain ⟨hlt, rfl⟩ := List.getElem?_eq_some_iff.1 hi
    rw [List.length_range] at hlt
    rw [List.getElem_range]
    exact ⟨hlt, rfl⟩
  · rintro ⟨hlt, rfl⟩
    exact ⟨index, List.getElem?_range hlt, rfl⟩

end ShadowbaneLab.World
