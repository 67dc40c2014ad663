/-
# Applying a plan to a cache

The file after an application: where the writes of a plan put their data, that no two of them meet,
and what the archive then holds.
-/
import ShadowbaneLab.Client.TextureBackup

namespace ShadowbaneLab.TextureCache

open Foundation World List

variable {host : Host} {cache : Bytes}

/-! ## Where the data go -/

def targetOf (fileSize : ℕ) (write : TextureCacheWrite) : ℕ :=
  if write.appendRequired then fileSize else write.originalDataOffset

def sizeAfter (fileSize : ℕ) (write : TextureCacheWrite) : ℕ :=
  if write.appendRequired then fileSize + write.resultStored.length else fileSize

/-- The size of the file after some writes. -/
def finalSize (fileSize : ℕ) (writes : List TextureCacheWrite) : ℕ := writes.foldl sizeAfter fileSize

/-- The writes with their targets. -/
def placements : ℕ → List TextureCacheWrite → List (TextureCacheWrite × ℕ)
  | _, [] => []
  | fileSize, write :: writes =>
    (write, targetOf fileSize write) :: placements (sizeAfter fileSize write) writes

/-- The words of a directory record. -/
def recordWords (placement : TextureCacheWrite × ℕ) : List ℕ :=
  [placement.1.groupId, placement.1.resourceId, placement.2, placement.1.resultPayload.length,
    placement.1.resultStored.length]

def headerWords (header : CacheArchiveHeader) (fileSize : ℕ) : List ℕ :=
  [header.resourceCount, header.dataOffset, fileSize, header.marker]

def packed32 (words : List ℕ) : Bytes := words.flatMap (littleEndian 4)

/-- What is written for one target. -/
def placementOps (placement : TextureCacheWrite × ℕ) : List FileOp :=
  [.write placement.2 placement.1.resultStored,
    .write placement.1.directoryOffset (packed32 (recordWords placement))]

/-- What is written at the end. -/
def closingOps (header : CacheArchiveHeader) (fileSize : ℕ) : List FileOp :=
  [.write 0 (packed32 (headerWords header fileSize)), .truncate fileSize]

theorem packWords_of_fits {words : List ℕ} (h : ∀ n ∈ words, n < 2 ^ 32) :
    packWords words = some (packed32 words) :=
  if_pos (all_eq_true.2 fun n hn => decide_eq_true (h n hn))

theorem length_packed32 (words : List ℕ) : (packed32 words).length = words.length * 4 := by
  induction words with
  | nil => rfl
  | cons n words ih =>
    rw [packed32, flatMap_cons, length_append, length_littleEndian]
    change 4 + (packed32 words).length = _
    rw [ih, length_cons]
    omega

variable {writes : List TextureCacheWrite} {fileSize : ℕ}

variable {header : CacheArchiveHeader}

/-- If every word fits, the operations come to their end. -/
theorem writeOps_eq
    (hrecords : ∀ placement ∈ placements fileSize writes, ∀ n ∈ recordWords placement, n < 2 ^ 32)
    (hheader : ∀ n ∈ headerWords header (finalSize fileSize writes), n < 2 ^ 32) :
    writeOps header fileSize writes = ((placements fileSize writes).flatMap placementOps ++
      closingOps header (finalSize fileSize writes), true) := by
  induction writes generalizing fileSize with
  | nil =>
    rw [writeOps, show packWords [header.resourceCount, header.dataOffset, fileSize,
      header.marker] = _ from packWords_of_fits hheader]
    rfl
  | cons write writes ih =>
    have hrecord := packWords_of_fits
      (hrecords (write, targetOf fileSize write) mem_cons_self)
    have hrest := ih (fun placement hplacement =>
      hrecords placement (mem_cons_of_mem _ hplacement)) hheader
    rw [writeOps]
    dsimp only
    rw [show packWords [write.groupId, write.resourceId,
      if write.appendRequired then fileSize else write.originalDataOffset,
      write.resultPayload.length, write.resultStored.length] = _ from hrecord]
    dsimp only
    rw [show writeOps header (if write.appendRequired then
      fileSize + write.resultStored.length else fileSize) writes = _ from hrest]
    rfl

/-! ## Placements -/

theorem le_sizeAfter (fileSize : ℕ) (write : TextureCacheWrite) :
    fileSize ≤ sizeAfter fileSize write := by
  rw [sizeAfter]
  split
  · exact Nat.le_add_right ..
  · exact le_rfl

theorem le_finalSize (fileSize : ℕ) (writes : List TextureCacheWrite) :
    fileSize ≤ finalSize fileSize writes := by
  induction writes generalizing fileSize with
  | nil => exact le_rfl
  | cons write writes ih => exact (le_sizeAfter fileSize write).trans (ih _)

variable {placement : TextureCacheWrite × ℕ}

/-- A target is the old place of the data, or lies after the end of the file. -/
theorem placement_cases (h : placement ∈ placements fileSize writes) :
    placement.1 ∈ writes ∧ ((placement.1.appendRequired = true ∧ fileSize ≤ placement.2 ∧
        placement.2 + placement.1.resultStored.length ≤ finalSize fileSize writes) ∨
      (placement.1.appendRequired = false ∧ placement.2 = placement.1.originalDataOffset)) := by
  induction writes generalizing fileSize with
  | nil => cases h
  | cons write writes ih =>
    rcases mem_cons.1 h with rfl | h
    · refine ⟨mem_cons_self, ?_⟩
      cases happend : write.appendRequired with
      | false => exact .inr ⟨rfl, by rw [targetOf, happend]; rfl⟩
      | true =>
        have htarget : targetOf fileSize write = fileSize := by rw [targetOf, happend]; rfl
        have hsize : sizeAfter fileSize write = fileSize + write.resultStored.length := by
          rw [sizeAfter, happend]
          rfl
        refine .inl ⟨rfl, htarget.ge, ?_⟩
        show targetOf fileSize write + _ ≤ finalSize (sizeAfter fileSize write) writes
        rw [htarget, ← hsize]
        exact le_finalSize _ _
    · obtain ⟨hmem, hcases⟩ := ih h
      refine ⟨mem_cons_of_mem _ hmem, hcases.imp_left fun hcase => ?_⟩
      exact ⟨hcase.1, (le_sizeAfter fileSize write).trans hcase.2.1, hcase.2.2⟩

variable {write : TextureCacheWrite}

theorem exists_placement (h : write ∈ writes) :
    ∃ target, (write, target) ∈ placements fileSize writes := by
  induction writes generalizing fileSize with
  | nil => cases h
  | cons other writes ih =>
    rcases mem_cons.1 h with rfl | h
    · exact ⟨_, mem_cons_self⟩
    · obtain ⟨target, htarget⟩ := @ih (sizeAfter fileSize other) h
      exact ⟨target, mem_cons_of_mem _ htarget⟩

/-- The data of different resources do not share a place. -/
def DisjointData (cache : Bytes) : Prop :=
  ∀ i < (headerAt cache).resourceCount, ∀ j < (headerAt cache).resourceCount, i ≠ j → ∀ x,
    ¬ (((entryAt cache i).dataOffset ≤ x ∧
        x < (entryAt cache i).dataOffset + (entryAt cache i).storedSize) ∧
      ((entryAt cache j).dataOffset ≤ x ∧
        x < (entryAt cache j).dataOffset + (entryAt cache j).storedSize))

/-- Data that are not appended fit into their old place. -/
theorem Planned.fits (h : Planned host cache write) (happend : write.appendRequired = false) :
    write.resultStored.length ≤ write.originalStoredSize := by
  rw [h.append, decide_eq_false_iff_not, not_lt] at happend
  exact happend

/-- A place of a placement lies in the slot of its resource, or after the end of the cache. -/
theorem Planned.slot_or_end (h : Planned host cache write) {fileSize target x : ℕ}
    (hplacement : (write, target) ∈ placements fileSize writes)
    (hx : target ≤ x ∧ x < target + write.resultStored.length) :
    (write.appendRequired = false ∧ (entryAt cache write.entryIndex).dataOffset ≤ x ∧
      x < (entryAt cache write.entryIndex).dataOffset +
        (entryAt cache write.entryIndex).storedSize) ∨
      (write.appendRequired = true ∧ fileSize ≤ x) := by
  rcases (placement_cases hplacement).2 with ⟨happend, htarget, -⟩ | ⟨happend, htarget⟩
  · exact .inr ⟨happend, htarget.trans hx.1⟩
  · have hfits := h.fits happend
    dsimp only at htarget
    rw [← h.offset, ← h.storedSize]
    exact .inl ⟨happend, by omega, by omega⟩

/-- No two placements share a place. -/
theorem placements_apart (hdata : DisjointData cache) (hcache : WellFormed cache)
    (hplanned : ∀ write ∈ writes, Planned host cache write)
    (hnodup : (writes.map TextureCacheWrite.entryIndex).Nodup) (hsize : cache.length ≤ fileSize) :
    (placements fileSize writes).Pairwise fun first later => ∀ x,
      ¬ ((first.2 ≤ x ∧ x < first.2 + first.1.resultStored.length) ∧
        (later.2 ≤ x ∧ x < later.2 + later.1.resultStored.length)) := by
  induction writes generalizing fileSize with
  | nil => exact .nil
  | cons write writes ih =>
    rw [map_cons, nodup_cons] at hnodup
    have hrest (other : TextureCacheWrite) (hother : other ∈ writes) : Planned host cache other :=
      hplanned other (mem_cons_of_mem _ hother)
    have hlarger := hsize.trans (le_sizeAfter fileSize write)
    refine pairwise_cons.2 ⟨?_, ih hrest hnodup.2 hlarger⟩
    rintro ⟨other, target⟩ hlater x ⟨hfirst, hsecond⟩
    have hother := (placement_cases hlater).1
    have hplan := hplanned write mem_cons_self
    have hplan' := hrest other hother
    have hend' := (hcache.entries _ hplan'.index).2
    have hend := (hcache.entries _ hplan.index).2
    have hmem : (write, targetOf fileSize write) ∈ placements fileSize (write :: writes) :=
      mem_cons_self
    have hslot := hplan.slot_or_end hmem hfirst
    have hslot' := hplan'.slot_or_end hlater hsecond
    rcases hslot with ⟨happend, hslot⟩ | ⟨happend, hafter⟩
    · rcases hslot' with ⟨-, hslot'⟩ | ⟨-, hafter'⟩
      · refine hdata _ hplan.index _ hplan'.index (fun heq => ?_) x ⟨hslot, hslot'⟩
        exact hnodup.1 (heq ▸ mem_map_of_mem hother)
      · omega
    · rcases hslot' with ⟨-, hslot'⟩ | ⟨-, hafter'⟩
      · omega
      · -- both are appended, and the second one later
        have htarget : targetOf fileSize write = fileSize := by rw [targetOf, happend]; rfl
        have hnext : sizeAfter fileSize write = fileSize + write.resultStored.length := by
          rw [sizeAfter, happend]
          rfl
        dsimp only at hfirst
        omega

/-! ## The file after an application -/

/-- The operations of a whole application. -/
def applyOps (cache : Bytes) (writes : List TextureCacheWrite) : List FileOp :=
  (placements cache.length writes).flatMap placementOps ++
    closingOps (headerAt cache) (finalSize cache.length writes)

def applied (cache : Bytes) (writes : List TextureCacheWrite) : Bytes :=
  perform (applyOps cache writes) cache

theorem length_applied (cache : Bytes) (writes : List TextureCacheWrite) :
    (applied cache writes).length = finalSize cache.length writes := by
  rw [applied, applyOps, perform_append]
  exact length_resize ..

/-- A range that neither the data nor the record of a placement meets. -/
theorem placementOps_misses {offset size : ℕ} (hdata : ∀ x, ¬ ((offset ≤ x ∧ x < offset + size) ∧
      (placement.2 ≤ x ∧ x < placement.2 + placement.1.resultStored.length)))
    (hrecord : ∀ x, ¬ ((offset ≤ x ∧ x < offset + size) ∧ (placement.1.directoryOffset ≤ x ∧
      x < placement.1.directoryOffset + directoryEntrySize))) :
    ∀ op ∈ placementOps placement, op.Misses offset size := by
  intro op hop
  simp only [placementOps, mem_cons, not_mem_nil, or_false] at hop
  rcases hop with rfl | rfl
  · exact fun j hj hinside => hdata _ ⟨hinside, Nat.le_add_right .., by omega⟩
  · intro j hj hinside
    rw [length_packed32] at hj
    exact hrecord _ ⟨hinside, Nat.le_add_right .., Nat.add_lt_add_left hj _⟩

theorem closingOps_misses {fileSize offset size : ℕ} (hafter : headerSize ≤ offset)
    (hend : offset + size ≤ fileSize) :
    ∀ op ∈ closingOps header fileSize, op.Misses offset size := by
  intro op hop
  simp only [closingOps, mem_cons, not_mem_nil, or_false] at hop
  rcases hop with rfl | rfl
  · intro j hj hinside
    rw [length_packed32] at hj
    have hlength : (headerWords header fileSize).length * 4 = headerSize := rfl
    omega
  · exact hend

section Applied

variable {plan : TextureCachePlan}

/-- Directory records of different indices do not share a place. -/
theorem directory_apart {i j : ℕ} (h : i ≠ j) (x : ℕ) :
    ¬ ((directoryOffset i ≤ x ∧ x < directoryOffset i + directoryEntrySize) ∧
      (directoryOffset j ≤ x ∧ x < directoryOffset j + directoryEntrySize)) := by
  simp only [directoryOffset, directoryEntrySize]
  omega

theorem headerSize_le_directoryOffset (i : ℕ) : headerSize ≤ directoryOffset i :=
  Nat.le_add_right ..

variable {i : ℕ}

/-- Directory records lie before the data. -/
theorem directory_le_data (hcache : WellFormed cache) (hi : i < (headerAt cache).resourceCount) :
    directoryOffset i + directoryEntrySize ≤ (headerAt cache).dataOffset := by
  have hdirectory := hcache.directory
  simp only [directoryOffset, directoryEntrySize] at hdirectory ⊢
  omega

section

variable (hfor : PlanFor host cache plan)
include hfor

theorem nodup_entryIndex : (plan.writes.map TextureCacheWrite.entryIndex).Nodup := by
  have hkeys := nodup_of_valid hfor.valid
  refine List.Nodup.map_on (fun a ha b hb heq => ?_) hkeys.of_map
  exact inj_on_of_nodup_map hkeys ha hb ((hfor.writes a ha).key_eq (hfor.writes b hb) heq)

/-- Where a placement starts and ends. -/
theorem PlanFor.placement_bounds (h : placement ∈ placements cache.length plan.writes) :
    (headerAt cache).dataOffset ≤ placement.2 ∧
      placement.2 + placement.1.resultStored.length ≤ finalSize cache.length plan.writes := by
  obtain ⟨hmem, hcases⟩ := placement_cases h
  have hplan := hfor.writes _ hmem
  have hentry := hfor.wellFormed.entries _ hplan.index
  have hdata := hfor.wellFormed.data
  have hsize := le_finalSize cache.length plan.writes
  rcases hcases with ⟨-, htarget, hend⟩ | ⟨happend, htarget⟩
  · exact ⟨hdata.trans htarget, hend⟩
  · have hfits := hplan.fits happend
    rw [hplan.storedSize] at hfits
    rw [htarget, hplan.offset]
    omega

/-- A directory record is no part of the data of a placement. -/
theorem PlanFor.record_apart (h : placement ∈ placements cache.length plan.writes)
    (hi : i < (headerAt cache).resourceCount) (x : ℕ) :
    ¬ ((directoryOffset i ≤ x ∧ x < directoryOffset i + directoryEntrySize) ∧
      (placement.2 ≤ x ∧ x < placement.2 + placement.1.resultStored.length)) := by
  have hbefore := directory_le_data hfor.wellFormed hi
  have hbounds := hfor.placement_bounds h
  omega

theorem PlanFor.header_eq :
    slice (applied cache plan.writes) 0 headerSize =
      packed32 (headerWords (headerAt cache) (finalSize cache.length plan.writes)) := by
  have hlength : (packed32 (headerWords (headerAt cache)
      (finalSize cache.length plan.writes))).length = headerSize := length_packed32 _
  rw [applied, applyOps, closingOps, ← hlength]
  refine slice_perform_write fun op hop => ?_
  rw [mem_singleton.1 hop]
  show 0 + _ ≤ finalSize cache.length plan.writes
  rw [hlength, Nat.zero_add]
  exact hfor.wellFormed.header.trans (le_finalSize _ _)

/-- The data of a placement and its directory record stand in the file. -/
theorem PlanFor.placement_eq (hdata : DisjointData cache)
    (h : placement ∈ placements cache.length plan.writes) :
    slice (applied cache plan.writes) placement.2 placement.1.resultStored.length =
        placement.1.resultStored ∧
      slice (applied cache plan.writes) placement.1.directoryOffset directoryEntrySize =
        packed32 (recordWords placement) := by
  have hbounds := hfor.placement_bounds h
  have hmem := (placement_cases h).1
  have hindex := (hfor.writes _ hmem).index
  have hbefore := directory_le_data hfor.wellFormed hindex
  have hheader := headerSize_le_directoryOffset placement.1.entryIndex
  have happart := placements_apart hdata hfor.wellFormed hfor.writes (nodup_entryIndex hfor) le_rfl
  have hsub : ∀ later ∈ placements cache.length plan.writes,
      (headerAt cache).dataOffset ≤ later.2 := fun later hlater =>
    (hfor.placement_bounds hlater).1
  have hindices : (placements cache.length plan.writes).Pairwise fun first later =>
      first.1.entryIndex ≠ later.1.entryIndex := by
    have hmap (fileSize : ℕ) (writes : List TextureCacheWrite) :
        (placements fileSize writes).map Prod.fst = writes := by
      induction writes generalizing fileSize with
      | nil => rfl
      | cons write writes ih => rw [placements, map_cons, ih]
    have hnodup := nodup_entryIndex hfor
    rw [← hmap cache.length plan.writes, map_map] at hnodup
    exact pairwise_map.1 hnodup
  obtain ⟨before, after, hsplit⟩ := append_of_mem h
  rw [hsplit] at happart hindices hsub
  have hlater (later : TextureCacheWrite × ℕ) (hmem : later ∈ after) :
      (∀ x, ¬ ((placement.2 ≤ x ∧ x < placement.2 + placement.1.resultStored.length) ∧
        (later.2 ≤ x ∧ x < later.2 + later.1.resultStored.length))) ∧
      placement.1.entryIndex ≠ later.1.entryIndex ∧ (headerAt cache).dataOffset ≤ later.2 ∧
        later.1.entryIndex < (headerAt cache).resourceCount := by
    refine ⟨(pairwise_cons.1 (pairwise_append.1 happart).2.1).1 later hmem,
      (pairwise_cons.1 (pairwise_append.1 hindices).2.1).1 later hmem,
      hsub later (mem_append_right _ (mem_cons_of_mem _ hmem)), ?_⟩
    have hall : later ∈ placements cache.length plan.writes :=
      hsplit ▸ mem_append_right _ (mem_cons_of_mem _ hmem)
    exact (hfor.writes _ (placement_cases hall).1).index
  have hops : applyOps cache plan.writes = before.flatMap placementOps ++
      .write placement.2 placement.1.resultStored ::
        .write placement.1.directoryOffset (packed32 (recordWords placement)) ::
          (after.flatMap placementOps ++
            closingOps (headerAt cache) (finalSize cache.length plan.writes)) := by
    rw [applyOps, hsplit, flatMap_append, flatMap_cons, append_assoc,
      append_assoc]
    rfl
  have hrecordLength : (packed32 (recordWords placement)).length = directoryEntrySize :=
    length_packed32 _
  constructor
  · -- the record comes before the data, and what follows is elsewhere
    rw [applied, hops]
    refine slice_perform_write fun op hop => ?_
    rcases mem_cons.1 hop with rfl | hop
    · intro j hj hinside
      rw [hrecordLength] at hj
      rw [TextureCacheWrite.directoryOffset] at hinside
      omega
    rcases mem_append.1 hop with hop | hop
    · obtain ⟨later, hmem, hop⟩ := mem_flatMap.1 hop
      obtain ⟨hdata, -, hoffset, hlast⟩ := hlater later hmem
      refine placementOps_misses hdata (fun x hx => ?_) op hop
      have hrecord := directory_le_data hfor.wellFormed hlast
      rw [TextureCacheWrite.directoryOffset] at hx
      omega
    · exact closingOps_misses (by omega) hbounds.2 op hop
  · have hops' : applyOps cache plan.writes = (before.flatMap placementOps ++
        [.write placement.2 placement.1.resultStored]) ++
          .write placement.1.directoryOffset (packed32 (recordWords placement)) ::
            (after.flatMap placementOps ++
              closingOps (headerAt cache) (finalSize cache.length plan.writes)) := by
      rw [hops, append_assoc]
      rfl
    rw [applied, hops', ← hrecordLength]
    refine slice_perform_write fun op hop => ?_
    rw [hrecordLength]
    rcases mem_append.1 hop with hop | hop
    · obtain ⟨later, hmem, hop⟩ := mem_flatMap.1 hop
      obtain ⟨-, hne, hoffset, -⟩ := hlater later hmem
      refine placementOps_misses (fun x hx => ?_) (directory_apart hne) op hop
      omega
    · refine closingOps_misses hheader ?_ op hop
      omega

/-- A resource that no write is of keeps its record and its data. -/
theorem PlanFor.untouched_eq (hdata : DisjointData cache) (hi : i < (headerAt cache).resourceCount)
    (hother : ∀ write ∈ plan.writes, write.entryIndex ≠ i) :
    slice (applied cache plan.writes) (directoryOffset i) directoryEntrySize =
        slice cache (directoryOffset i) directoryEntrySize ∧
      slice (applied cache plan.writes) (entryAt cache i).dataOffset (entryAt cache i).storedSize =
        slice cache (entryAt cache i).dataOffset (entryAt cache i).storedSize := by
  have hentry := hfor.wellFormed.entries i hi
  have hend := hfor.wellFormed.data
  have hbefore := directory_le_data hfor.wellFormed hi
  have hsize := le_finalSize cache.length plan.writes
  have hheader := headerSize_le_directoryOffset i
  constructor
  · refine (slice_perform_of_misses (fun op hop => ?_) (by omega)).2
    rcases mem_append.1 hop with hop | hop
    · obtain ⟨placement, hplacement, hop⟩ := mem_flatMap.1 hop
      have hmem := (placement_cases hplacement).1
      exact placementOps_misses (hfor.record_apart hplacement hi)
        (directory_apart (hother _ hmem).symm) op hop
    · exact closingOps_misses hheader (by omega) op hop
  · refine (slice_perform_of_misses (fun op hop => ?_) hentry.2).2
    rcases mem_append.1 hop with hop | hop
    · obtain ⟨placement, hplacement, hop⟩ := mem_flatMap.1 hop
      have hmem := (placement_cases hplacement).1
      have hplan := hfor.writes _ hmem
      refine placementOps_misses (fun x hx => ?_) (fun x hx => ?_) op hop
      · rcases hplan.slot_or_end hplacement hx.2 with ⟨-, hslot⟩ | ⟨-, hafter⟩
        · exact hdata _ hplan.index i hi (hother _ hmem) x ⟨hslot, hx.1⟩
        · omega
      · have hrecord := directory_le_data hfor.wellFormed hplan.index
        rw [TextureCacheWrite.directoryOffset] at hx
        omega
    · exact closingOps_misses (by omega) (by omega) op hop

end

end Applied

end ShadowbaneLab.TextureCache
