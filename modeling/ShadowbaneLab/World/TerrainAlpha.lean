/-
# Terrain maps

`world_data/terrain.py`: the tiles of a cache archive are grouped to maps, and a complete map is
stitched to one raster.  Every cell of the raster is the sample of one tile (`stitching_exact`).
-/
import Mathlib.Data.Finset.Prod
import Mathlib.Data.List.MinMax
import Mathlib.Data.Nat.Digits.Defs
import Mathlib.Data.Prod.Lex
import ShadowbaneLab.Foundation.Dict
import ShadowbaneLab.World.CacheArchive

namespace ShadowbaneLab.World

open Foundation List

structure TerrainTileAddress where
  groupId : ℕ
  mapId : ℕ
  tileX : ℕ
  tileY : ℕ
deriving DecidableEq

/-- `08X`. -/
def upperHex8 (n : ℕ) : String :=
  String.ofList (((Nat.toDigits 16 n).map Char.toUpper).leftpad 8 '0')

/-- `TerrainTileAddress.from_entry`. -/
def TerrainTileAddress.fromEntry (entry : CacheResourceEntry) :
    Except String TerrainTileAddress :=
  let packedPosition := entry.resourceId % 2 ^ 24
  let column := packedPosition % 1000
  if column = 0 then
    .error s!"terrain resource 0x{upperHex8 entry.resourceId} has an invalid packed column"
  else .ok ⟨entry.groupId, entry.resourceId / 2 ^ 24, packedPosition / 1000, column - 1⟩

def TerrainTileAddress.position (address : TerrainTileAddress) : ℕ × ℕ :=
  (address.tileX, address.tileY)

/-! ## Tiles -/

structure TerrainAlphaTile where
  width : ℕ
  height : ℕ
  field3 : ℕ
  field4 : ℕ
  field5 : ℕ
  flag1 : ℕ
  flag2 : ℕ
  samples : Bytes

/-- `_TERRAIN_HEADER.size`. -/
def terrainHeaderSize : ℕ := 26

/-- `TerrainAlphaTile.parse`. -/
def TerrainAlphaTile.parse (payload : Bytes) : Except String TerrainAlphaTile := do
  let width := word payload 0
  let height := word payload 4
  let dataSize := word payload 22
  let expectedSize := terrainHeaderSize + dataSize
  check (terrainHeaderSize ≤ payload.length) "terrain resource is smaller than its 26-byte header"
  check (expectedSize = payload.length)
    s!"terrain resource contains {payload.length} bytes; expected {expectedSize}"
  check (0 < width ∧ 0 < height ∧ width * height = dataSize)
    s!"terrain dimensions {width}x{height} do not match {dataSize} samples"
  return {
    width := width
    height := height
    field3 := word payload 8
    field4 := word payload 12
    field5 := word payload 16
    flag1 := ofLittleEndian (slice payload 20 1)
    flag2 := ofLittleEndian (slice payload 21 1)
    samples := payload.drop terrainHeaderSize }

/-- `sample`, of a tile and of a raster; an `IndexError` where there is none. -/
def sampleAt (width height : ℕ) (samples : Bytes) (x y : ℕ) : Option UInt8 :=
  if x < width ∧ y < height then samples[y * width + x]? else none

def TerrainAlphaTile.sample (tile : TerrainAlphaTile) : ℕ → ℕ → Option UInt8 :=
  sampleAt tile.width tile.height tile.samples

/-! ## Maps -/

abbrev MapItem : Type := TerrainTileAddress × CacheResourceEntry

structure TerrainAlphaMap where
  groupId : ℕ
  mapId : ℕ
  widthTiles : ℕ
  heightTiles : ℕ
  entries : List MapItem

def TerrainAlphaMap.isComplete (terrainMap : TerrainAlphaMap) : Bool :=
  terrainMap.entries.length = terrainMap.widthTiles * terrainMap.heightTiles

/-- The map of a group of entries. -/
def mapOf (key : ℕ × ℕ) (items : List MapItem) : Except String TerrainAlphaMap := do
  check ((items.map fun item => item.1.position).dedup.length = items.length)
    s!"terrain map {key.1}:{key.2} has duplicate tile coordinates"
  return {
    groupId := key.1
    mapId := key.2
    widthTiles := (items.map fun item => item.1.tileX).foldr max 0 + 1
    heightTiles := (items.map fun item => item.1.tileY).foldr max 0 + 1
    entries := sortBy (fun item => toLex item.1.position) items }

/-- `index_terrain_alpha_maps`. -/
def indexTerrainAlphaMaps (archive : CacheArchive) : Except String (List TerrainAlphaMap) := do
  let grouped ← archive.entries.foldlM (fun (grouped : Dict (ℕ × ℕ) (List MapItem)) entry => do
    let address ← TerrainTileAddress.fromEntry entry
    let key := (address.groupId, address.mapId)
    return grouped.set key ((grouped.get? key).getD [] ++ [(address, entry)])) .empty
  (sortBy (fun item => toLex item.1) grouped.items).mapM fun item => mapOf item.1 item.2

/-! ## Rasters -/

structure TerrainAlphaRaster where
  groupId : ℕ
  mapId : ℕ
  width : ℕ
  height : ℕ
  samples : Bytes
  width_pos : 0 < width
  height_pos : 0 < height
  length_samples : samples.length = width * height

def TerrainAlphaRaster.sample (raster : TerrainAlphaRaster) : ℕ → ℕ → Option UInt8 :=
  sampleAt raster.width raster.height raster.samples

/-- The rows of a tile are written to their places in the raster. -/
def rowWrites (width tileWidth tileHeight : ℕ) (parsed : TerrainTileAddress × TerrainAlphaTile) :
    List FileOp :=
  (List.range tileHeight).map fun row =>
    .write ((parsed.1.tileY * tileHeight + row) * width + parsed.1.tileX * tileWidth)
      (slice parsed.2.samples (row * tileWidth) tileWidth)

section Reading

variable (decompress : Bytes → Option Bytes) (archive : CacheArchive)

def readTile (item : MapItem) : Except String (TerrainTileAddress × TerrainAlphaTile) := do
  let payload ← archive.readResource decompress item.2
  let tile ← TerrainAlphaTile.parse payload
  return (item.1, tile)

/-- `read_terrain_alpha_map`. -/
def readTerrainAlphaMap (terrainMap : TerrainAlphaMap) : Except String TerrainAlphaRaster := do
  check terrainMap.isComplete
    s!"terrain map {terrainMap.groupId}:{terrainMap.mapId} is incomplete"
  let parsed ← terrainMap.entries.mapM (readTile decompress archive)
  match parsed.head? with
  | none => throw "tuple index out of range"
  | some (_, first) => do
    check (parsed.all fun item => item.2.width = first.width ∧ item.2.height = first.height)
      s!"terrain map {terrainMap.groupId}:{terrainMap.mapId} has mixed tile sizes"
    let width := terrainMap.widthTiles * first.width
    let height := terrainMap.heightTiles * first.height
    let samples := perform (parsed.flatMap (rowWrites width first.width first.height))
      (zeros (width * height))
    if h : 0 < width ∧ 0 < height then
      if hlength : samples.length = width * height then
        return ⟨terrainMap.groupId, terrainMap.mapId, width, height, samples, h.1, h.2, hlength⟩
      else throw "terrain raster dimensions do not match its samples"
    else throw "terrain raster dimensions must be positive"

end Reading

/-! ## What is indexed -/

/-- The tiles of a map are in its bounds, and no two of them have one place. -/
structure TerrainAlphaMap.Indexed (terrainMap : TerrainAlphaMap) : Prop where
  nodup : (terrainMap.entries.map fun item => item.1.position).Nodup
  inside : ∀ item ∈ terrainMap.entries,
    item.1.tileX < terrainMap.widthTiles ∧ item.1.tileY < terrainMap.heightTiles
  pos : 0 < terrainMap.widthTiles * terrainMap.heightTiles

variable {terrainMap : TerrainAlphaMap}

theorem indexed_of_mapOf {key : ℕ × ℕ} {items : List MapItem} (h : mapOf key items = .ok terrainMap)
    : terrainMap.Indexed := by
  obtain ⟨hdistinct, hmap⟩ := check_bind_eq_ok.1 h
  cases hmap
  rw [check_eq_ok, decide_eq_true_eq] at hdistinct
  have hperm := sortBy_perm (fun item : MapItem => toLex item.1.position) items
  have hnodup : (items.map fun item => item.1.position).Nodup := by
    rw [← dedup_eq_self]
    refine (dedup_sublist _).eq_of_length ?_
    rw [hdistinct, length_map]
  refine ⟨(hperm.map _).nodup_iff.2 hnodup, fun item hitem => ?_,
    Nat.mul_pos (Nat.succ_pos _) (Nat.succ_pos _)⟩
  have hitem := hperm.mem_iff.1 hitem
  exact ⟨Nat.lt_succ_of_le (le_max_of_le (mem_map_of_mem hitem) le_rfl),
    Nat.lt_succ_of_le (le_max_of_le (mem_map_of_mem hitem) le_rfl)⟩

theorem indexed_of_index {archive : CacheArchive} {maps : List TerrainAlphaMap}
    (h : indexTerrainAlphaMaps archive = .ok maps) (hmem : terrainMap ∈ maps) :
    terrainMap.Indexed := by
  obtain ⟨grouped, -, hmaps⟩ := bind_eq_ok.1 h
  obtain ⟨item, -, hitem⟩ := exists_of_forall₂ (forall₂_of_mapM hmaps) hmem
  exact indexed_of_mapOf hitem

/-- A complete map has a tile at every place. -/
theorem TerrainAlphaMap.Indexed.exists_tile (h : terrainMap.Indexed)
    (hcomplete : terrainMap.isComplete = true) {place : ℕ × ℕ}
    (hx : place.1 < terrainMap.widthTiles) (hy : place.2 < terrainMap.heightTiles) :
    ∃ item ∈ terrainMap.entries, item.1.position = place := by
  have hsubset : (terrainMap.entries.map fun item => item.1.position).toFinset ⊆
      Finset.range terrainMap.widthTiles ×ˢ Finset.range terrainMap.heightTiles := by
    intro position hposition
    obtain ⟨item, hitem, rfl⟩ := mem_map.1 (mem_toFinset.1 hposition)
    rw [Finset.mem_product, Finset.mem_range, Finset.mem_range]
    exact h.inside item hitem
  have hcard := toFinset_card_of_nodup h.nodup
  rw [length_map, of_decide_eq_true hcomplete] at hcard
  have heq := Finset.eq_of_subset_of_card_le hsubset (by
    rw [Finset.card_product, Finset.card_range, Finset.card_range, hcard])
  have hplace : place ∈ (terrainMap.entries.map fun item => item.1.position).toFinset := by
    rw [heq, Finset.mem_product, Finset.mem_range, Finset.mem_range]
    exact ⟨hx, hy⟩
  exact mem_map.1 (mem_toFinset.1 hplace)

/-! ## Cells -/

theorem parse_eq_ok {payload : Bytes} {tile : TerrainAlphaTile}
    (h : TerrainAlphaTile.parse payload = .ok tile) :
    0 < tile.width ∧ 0 < tile.height ∧ tile.samples.length = tile.width * tile.height := by
  obtain ⟨-, h⟩ := check_bind_eq_ok.1 h
  obtain ⟨hsize, h⟩ := check_bind_eq_ok.1 h
  obtain ⟨hdimensions, h⟩ := check_bind_eq_ok.1 h
  rw [check_eq_ok, decide_eq_true_eq] at hsize hdimensions
  cases h
  refine ⟨hdimensions.1, hdimensions.2.1, ?_⟩
  dsimp only
  rw [length_drop, ← hsize, hdimensions.2.2]
  exact Nat.add_sub_cancel_left ..

/-- The digits of a number to some base are unique. -/
theorem eq_of_mul_add_eq {m a b a' b' : ℕ} (hb : b < m) (hb' : b' < m)
    (h : a * m + b = a' * m + b') : a = a' ∧ b = b' := by
  have hm : 0 < m := (Nat.zero_le b).trans_lt hb
  have hfirst := (Nat.div_mod_unique hm).2 ⟨show b + m * a = a * m + b by ring, hb⟩
  have hsecond := (Nat.div_mod_unique hm).2 ⟨show b' + m * a' = a' * m + b' by ring, hb'⟩
  rw [h] at hfirst
  exact ⟨hfirst.1.symm.trans hsecond.1, hfirst.2.symm.trans hsecond.2⟩

theorem mul_add_lt {n w x i : ℕ} (hx : x < n) (hi : i < w) : x * w + i < n * w := by
  calc x * w + i < (x + 1) * w := by rw [Nat.succ_mul]; exact Nat.add_lt_add_left hi _
    _ ≤ n * w := Nat.mul_le_mul_right w hx

/-- Cells of different rows or different columns of tiles are different. -/
theorem cell_inj {n w x x' y y' i i' : ℕ} (hx : x < n) (hx' : x' < n) (hi : i < w) (hi' : i' < w)
    (h : y * (n * w) + x * w + i = y' * (n * w) + x' * w + i') : y = y' ∧ x = x' := by
  rw [Nat.add_assoc, Nat.add_assoc] at h
  obtain ⟨hy, hrest⟩ := eq_of_mul_add_eq (mul_add_lt hx hi) (mul_add_lt hx' hi') h
  exact ⟨hy, (eq_of_mul_add_eq hi hi' hrest).1⟩

section Stitching

variable {n w h : ℕ} {parsed : List (TerrainTileAddress × TerrainAlphaTile)}

/-- The tiles have one size and different places. -/
structure Stitched (n w h : ℕ) (parsed : List (TerrainTileAddress × TerrainAlphaTile)) :
    Prop where
  inside : ∀ item ∈ parsed, item.1.tileX < n
  size : ∀ item ∈ parsed, item.2.samples.length = w * h
  apart : parsed.Pairwise fun item other => item.1.position ≠ other.1.position

variable {item : TerrainTileAddress × TerrainAlphaTile}

theorem Stitched.length_row (hparsed : Stitched n w h parsed) (hitem : item ∈ parsed) {row : ℕ}
    (hrow : row < h) : (slice item.2.samples (row * w) w).length = w := by
  refine length_slice ?_
  rw [hparsed.size item hitem, Nat.mul_comm w h, ← Nat.succ_mul]
  exact Nat.mul_le_mul_right w hrow

/-- No row is written over another one. -/
theorem Stitched.pairwise (hparsed : Stitched n w h parsed) :
    (parsed.flatMap (rowWrites (n * w) w h)).Pairwise fun op other =>
      ∀ offset data, op = .write offset data → other.Misses offset data.length := by
  have hmisses {item other : TerrainTileAddress × TerrainAlphaTile} (hitem : item ∈ parsed)
      (hother : other ∈ parsed) {row row' : ℕ} (hrow : row < h) (hrow' : row' < h)
      (hne : item.1.tileY * h + row ≠ other.1.tileY * h + row' ∨
        item.1.tileX ≠ other.1.tileX) :
      FileOp.Misses ((item.1.tileY * h + row) * (n * w) + item.1.tileX * w)
        (slice item.2.samples (row * w) w).length
        (.write ((other.1.tileY * h + row') * (n * w) + other.1.tileX * w)
          (slice other.2.samples (row' * w) w)) := by
    intro j hj hinside
    rw [hparsed.length_row hother hrow'] at hj
    rw [hparsed.length_row hitem hrow] at hinside
    obtain ⟨i, hi⟩ := Nat.exists_eq_add_of_le hinside.1
    obtain ⟨hy, hx⟩ := cell_inj (hparsed.inside other hother) (hparsed.inside item hitem) hj
      (by omega) hi
    rcases hne with hne | hne
    · exact hne hy.symm
    · exact hne hx.symm
  rw [pairwise_flatMap]
  constructor
  · intro item hitem
    rw [rowWrites, pairwise_map]
    refine pairwise_lt_range.imp_of_mem fun {row row'} hrow hrow' hlt => ?_
    rintro _ _ ⟨⟩
    exact hmisses hitem hitem (mem_range.1 hrow) (mem_range.1 hrow')
      (.inl (by omega))
  · refine hparsed.apart.imp_of_mem fun {item other} hitem hother hne => ?_
    intro op hop op' hop'
    obtain ⟨row, hrow, rfl⟩ := mem_map.1 hop
    obtain ⟨row', hrow', rfl⟩ := mem_map.1 hop'
    rintro _ _ ⟨⟩
    rw [mem_range] at hrow hrow'
    refine hmisses hitem hother hrow hrow' ?_
    by_contra hsame
    rw [not_or, not_not, not_not] at hsame
    have hy := eq_of_mul_add_eq hrow hrow' hsame.1
    exact hne (Prod.ext hsame.2 hy.1)

/-- Every sample of a tile is at its place in the raster. -/
theorem Stitched.getElem? (hparsed : Stitched n w h parsed) {file : Bytes} (hitem : item ∈ parsed)
    {i j : ℕ} (hi : i < w) (hj : j < h) :
    (perform (parsed.flatMap (rowWrites (n * w) w h)) file)[(item.1.tileY * h + j) * (n * w) +
      (item.1.tileX * w + i)]? = item.2.samples[j * w + i]? := by
  have hmem : FileOp.write ((item.1.tileY * h + j) * (n * w) + item.1.tileX * w)
      (slice item.2.samples (j * w) w) ∈ parsed.flatMap (rowWrites (n * w) w h) :=
    mem_flatMap.2 ⟨item, hitem, mem_map.2 ⟨j, mem_range.2 hj, rfl⟩⟩
  have hslice := congrArg (fun data => data[i]?)
    (slice_perform_of_pairwise hparsed.pairwise hmem file)
  rw [getElem?_slice, getElem?_slice, hparsed.length_row hitem hj, if_pos hi, if_pos hi] at hslice
  rw [← Nat.add_assoc]
  exact hslice

/-- The rows of the tiles are inside of the raster. -/
theorem Stitched.length_perform (hparsed : Stitched n w h parsed) {m : ℕ}
    (hinside : ∀ item ∈ parsed, item.1.tileY < m) :
    (perform (parsed.flatMap (rowWrites (n * w) w h)) (zeros (n * w * (m * h)))).length =
      n * w * (m * h) := by
  refine Foundation.length_perform (fun op hop => ?_) (length_zeros _)
  obtain ⟨item, hitem, hop⟩ := mem_flatMap.1 hop
  obtain ⟨row, hrow, rfl⟩ := mem_map.1 hop
  rw [mem_range] at hrow
  refine ⟨_, _, rfl, ?_⟩
  rw [hparsed.length_row hitem hrow]
  have hcolumn : item.1.tileX * w + w ≤ n * w := by
    rw [← Nat.succ_mul]
    exact Nat.mul_le_mul_right w (hparsed.inside item hitem)
  calc (item.1.tileY * h + row) * (n * w) + item.1.tileX * w + w
      ≤ (item.1.tileY * h + row) * (n * w) + n * w := by omega
    _ = (item.1.tileY * h + row + 1) * (n * w) := by rw [Nat.succ_mul]
    _ ≤ m * h * (n * w) := Nat.mul_le_mul_right _ (mul_add_lt (hinside item hitem) hrow)
    _ = n * w * (m * h) := Nat.mul_comm ..

end Stitching

section Reading

variable {decompress : Bytes → Option Bytes} {archive : CacheArchive}

theorem readTile_eq_ok {item : MapItem} {parsed : TerrainTileAddress × TerrainAlphaTile}
    (h : readTile decompress archive item = .ok parsed) :
    parsed.1 = item.1 ∧ 0 < parsed.2.width ∧ 0 < parsed.2.height ∧
      parsed.2.samples.length = parsed.2.width * parsed.2.height := by
  obtain ⟨payload, -, h⟩ := bind_eq_ok.1 h
  obtain ⟨tile, htile, h⟩ := bind_eq_ok.1 h
  cases h
  exact ⟨rfl, parse_eq_ok htile⟩

/-- **A complete map is stitched exactly**: the samples of its tiles are at their places, and every
cell of the raster is one of them. -/
theorem stitching_exact {maps : List TerrainAlphaMap} {terrainMap : TerrainAlphaMap} {w h : ℕ}
    (hindex : indexTerrainAlphaMaps archive = .ok maps) (hmem : terrainMap ∈ maps)
    (hcomplete : terrainMap.isComplete = true)
    (hsizes : ∀ item ∈ terrainMap.entries, ∃ parsed,
      readTile decompress archive item = .ok parsed ∧ parsed.2.width = w ∧ parsed.2.height = h) :
    ∃ raster, readTerrainAlphaMap decompress archive terrainMap = .ok raster ∧
      raster.width = terrainMap.widthTiles * w ∧ raster.height = terrainMap.heightTiles * h ∧
      (∀ item ∈ terrainMap.entries, ∀ parsed,
        readTile decompress archive item = .ok parsed → ∀ i < w, ∀ j < h,
          ∃ sample, parsed.2.sample i j = some sample ∧
            raster.sample (item.1.tileX * w + i) (item.1.tileY * h + j) = some sample) ∧
      ∀ x < raster.width, ∀ y < raster.height, ∃! cell : MapItem × ℕ × ℕ,
        cell.1 ∈ terrainMap.entries ∧ cell.2.1 < w ∧ cell.2.2 < h ∧
          x = cell.1.1.tileX * w + cell.2.1 ∧ y = cell.1.1.tileY * h + cell.2.2 := by
  have hindexed := indexed_of_index hindex hmem
  obtain ⟨parsed, hparsed⟩ := exists_mapM_eq_ok fun item hitem =>
    (hsizes item hitem).imp fun _ hread => hread.1
  have hall := forall₂_of_mapM hparsed
  -- what is parsed has the addresses of the entries, and the one size
  have haddresses : parsed.map Prod.fst = terrainMap.entries.map Prod.fst :=
    map_eq_map_of_forall₂ (hall.imp fun _ _ hread => (readTile_eq_ok hread).1)
  have htile : ∀ item ∈ parsed, item.1 ∈ terrainMap.entries.map Prod.fst ∧ 0 < w ∧ 0 < h ∧
      item.2.width = w ∧ item.2.height = h ∧ item.2.samples.length = w * h := by
    intro item hitem
    obtain ⟨entry, hentry, hread⟩ := exists_of_forall₂ hall hitem
    obtain ⟨_, hread', hwidth, hheight⟩ := hsizes entry hentry
    obtain rfl := Except.ok.inj (hread.symm.trans hread')
    obtain ⟨haddress, hw, hh, hlength⟩ := readTile_eq_ok hread
    rw [hwidth, hheight] at hlength
    exact ⟨haddress ▸ mem_map_of_mem hentry, hwidth ▸ hw, hheight ▸ hh, hwidth, hheight,
      hlength⟩
  have hinside : ∀ item ∈ parsed,
      item.1.tileX < terrainMap.widthTiles ∧ item.1.tileY < terrainMap.heightTiles := by
    intro item hitem
    obtain ⟨entry, hentry, heq⟩ := mem_map.1 (htile item hitem).1
    rw [← heq]
    exact hindexed.inside entry hentry
  have hstitched : Stitched terrainMap.widthTiles w h parsed := by
    refine ⟨fun item hitem => (hinside item hitem).1,
      fun item hitem => (htile item hitem).2.2.2.2.2, ?_⟩
    have hnodup : ((terrainMap.entries.map Prod.fst).map TerrainTileAddress.position).Nodup := by
      rw [map_map]
      exact hindexed.nodup
    rw [← haddresses, map_map] at hnodup
    exact pairwise_map.1 hnodup
  obtain ⟨first, hfirst⟩ : ∃ first, parsed.head? = some first := by
    rw [← Option.isSome_iff_exists, isSome_head?]
    intro hnil
    have hlength := congrArg List.length haddresses
    rw [hnil, length_map, length_map, of_decide_eq_true hcomplete] at hlength
    exact hindexed.pos.ne hlength
  obtain ⟨-, hw, hh, hwidth, hheight, -⟩ := htile first (mem_of_head? hfirst)
  have hlength := hstitched.length_perform fun item hitem => (hinside item hitem).2
  have hposW : 0 < terrainMap.widthTiles * w :=
    Nat.mul_pos (Nat.pos_of_mul_pos_right hindexed.pos) hw
  have hposH : 0 < terrainMap.heightTiles * h :=
    Nat.mul_pos (Nat.pos_of_mul_pos_left hindexed.pos) hh
  refine ⟨⟨terrainMap.groupId, terrainMap.mapId, _, _, _, hposW, hposH, hlength⟩, ?_, rfl, rfl,
    fun item hitem tile hread i hi j hj => ?_, fun x hx y hy => ?_⟩
  · have hsame : (parsed.all fun item =>
        item.2.width = first.2.width ∧ item.2.height = first.2.height) = true := by
      refine all_eq_true.2 fun item hitem => decide_eq_true ?_
      obtain ⟨-, -, -, hwidth', hheight', -⟩ := htile item hitem
      exact ⟨hwidth'.trans hwidth.symm, hheight'.trans hheight.symm⟩
    unfold readTerrainAlphaMap
    rw [check, if_pos hcomplete, ok_bind, hparsed, ok_bind, hfirst]
    dsimp only
    rw [check, if_pos hsame, ok_bind]
    simp only [hwidth, hheight]
    rw [dif_pos ⟨hposW, hposH⟩, dif_pos hlength]
    rfl
  · obtain ⟨tile', htile', hread'⟩ := exists_of_forall₂ hall.flip hitem
    obtain rfl := Except.ok.inj (hread.symm.trans hread')
    obtain ⟨-, -, -, hwidth', hheight', hsamples⟩ := htile tile htile'
    have haddress := (readTile_eq_ok hread).1
    have hinside' := hindexed.inside item hitem
    have hsample : tile.2.sample i j = tile.2.samples[j * w + i]? := by
      rw [TerrainAlphaTile.sample, sampleAt, hwidth', hheight', if_pos ⟨hi, hj⟩]
    obtain ⟨sample, hsome⟩ : ∃ sample, tile.2.samples[j * w + i]? = some sample := by
      refine ⟨_, List.getElem?_eq_getElem ?_⟩
      rw [hsamples, Nat.mul_comm w h]
      exact mul_add_lt hj hi
    refine ⟨sample, hsample.trans hsome, ?_⟩
    rw [TerrainAlphaRaster.sample, sampleAt,
      if_pos ⟨mul_add_lt hinside'.1 hi, mul_add_lt hinside'.2 hj⟩, ← hsome, ← haddress]
    exact hstitched.getElem? htile' hi hj
  · have hx' : x / w < terrainMap.widthTiles := (Nat.div_lt_iff_lt_mul hw).2 hx
    have hy' : y / h < terrainMap.heightTiles := (Nat.div_lt_iff_lt_mul hh).2 hy
    obtain ⟨item, hitem, hplace⟩ :=
      @hindexed.exists_tile _ hcomplete (x / w, y / h) hx' hy'
    have hplaceX : item.1.tileX = x / w := congrArg Prod.fst hplace
    have hplaceY : item.1.tileY = y / h := congrArg Prod.snd hplace
    refine ⟨(item, x % w, y % h), ⟨hitem, Nat.mod_lt x hw, Nat.mod_lt y hh, ?_, ?_⟩, ?_⟩
    · rw [hplaceX, Nat.div_add_mod']
    · rw [hplaceY, Nat.div_add_mod']
    · rintro ⟨item', i, j⟩ ⟨hitem', hi, hj, hxcell, hycell⟩
      obtain ⟨hx'', hi'⟩ := eq_of_mul_add_eq hi (Nat.mod_lt x hw)
        (hxcell.symm.trans (Nat.div_add_mod' x w).symm)
      obtain ⟨hy'', hj'⟩ := eq_of_mul_add_eq hj (Nat.mod_lt y hh)
        (hycell.symm.trans (Nat.div_add_mod' y h).symm)
      have hsame : item'.1.position = item.1.position :=
        Prod.ext (hx''.trans hplaceX.symm) (hy''.trans hplaceY.symm)
      have hitems : item' = item :=
        inj_on_of_nodup_map hindexed.nodup hitem' hitem hsame
      exact Prod.ext hitems (Prod.ext hi' hj')

end Reading

/-- A tile of two samples in one row. -/
def flatTile (first second : UInt8) : Bytes :=
  [2, 0, 0, 0, 1, 0, 0, 0] ++ zeros 14 ++ [2, 0, 0, 0, first, second]

/-- Two columns of two tiles, in no order. -/
def quadArchive : CacheArchive where
  view := flatTile 7 8 ++ flatTile 1 2 ++ flatTile 3 4 ++ flatTile 5 6
  header := ⟨4, 0, 112, 0⟩
  entries := [⟨0, 0, 1002, 0, 28, 28⟩, ⟨1, 0, 1, 28, 28, 28⟩, ⟨2, 0, 1001, 56, 28, 28⟩,
    ⟨3, 0, 2, 84, 28, 28⟩]

def quadMap : TerrainAlphaMap where
  groupId := 0
  mapId := 0
  widthTiles := 2
  heightTiles := 2
  entries := [(⟨0, 0, 0, 0⟩, ⟨1, 0, 1, 28, 28, 28⟩), (⟨0, 0, 0, 1⟩, ⟨3, 0, 2, 84, 28, 28⟩),
    (⟨0, 0, 1, 0⟩, ⟨2, 0, 1001, 56, 28, 28⟩), (⟨0, 0, 1, 1⟩, ⟨0, 0, 1002, 0, 28, 28⟩)]

theorem stitching_exact_quad : ∃ raster,
    readTerrainAlphaMap (fun _ => none) quadArchive quadMap = .ok raster ∧
      raster.sample 1 1 = some 6 := by
  have hread : ∀ item ∈ quadMap.entries, ∃ parsed,
      readTile (fun _ => none) quadArchive item = .ok parsed ∧ parsed.2.width = 2 ∧
        parsed.2.height = 1 := by
    simp only [quadMap, forall_mem_cons]
    exact ⟨⟨_, rfl, rfl, rfl⟩, ⟨_, rfl, rfl, rfl⟩, ⟨_, rfl, rfl, rfl⟩, ⟨_, rfl, rfl, rfl⟩, nofun⟩
  obtain ⟨raster, hraster, -, -, hsamples, -⟩ :=
    @stitching_exact (fun _ => none) quadArchive [quadMap] quadMap 2 1 rfl mem_cons_self rfl
      hread
  obtain ⟨sample, hsample, hat⟩ := hsamples _ (mem_cons_of_mem _ mem_cons_self) _ rfl
    1 (by decide) 0 (by decide)
  exact ⟨raster, hraster, hat.trans (hsample.symm.trans rfl)⟩

end ShadowbaneLab.World
