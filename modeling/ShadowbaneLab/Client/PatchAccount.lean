/-
# The account of the files

The changes between two inventories account for every file of both, and replaying them on the
first inventory gives the second one.
-/
import ShadowbaneLab.Client.PatchFiles

namespace ShadowbaneLab.PatchDiff

open Foundation List

variable {host : Host}

/-! ## Entries -/

/-- A path with what is there. -/
abbrev FileEntry (host : Host) : Type := String × FileFingerprint host

def entry (host : Host) (record : BaselineFile) : FileEntry host :=
  (record.val.relativePath, content host record)

/-- Paths that differ in case only are one place. -/
def keyed {host : Host} (file : FileEntry host) : String × FileEntry host :=
  (host.casefold file.1, file)

/-- The files of an inventory by their places. -/
def tree (host : Host) (files : List BaselineFile) : Dict String (FileEntry host) :=
  .ofList (files.map fun record => keyed (entry host record))

namespace PatchFileChangeFields

def beforeEntry (fields : PatchFileChangeFields host) : Option (FileEntry host) :=
  Option.map₂ Prod.mk fields.beforePath fields.before

def afterEntry (fields : PatchFileChangeFields host) : Option (FileEntry host) :=
  Option.map₂ Prod.mk fields.afterPath fields.after

/-- The old entry is taken out, and the new one put in. -/
def edit (fields : PatchFileChangeFields host) : Edit String (FileEntry host) where
  before := fields.beforeEntry.map keyed
  after := fields.afterEntry.map keyed

end PatchFileChangeFields

variable {files : List BaselineFile}

theorem items_tree (h : UniquePaths host files) :
    (tree host files).items = files.map fun record => keyed (entry host record) := by
  refine Dict.items_ofList ?_
  rw [map_map]
  exact h

theorem keys_tree (h : UniquePaths host files) :
    (tree host files).keys = files.map (fold host) := by
  rw [Dict.keys, items_tree h, map_map]
  rfl

/-! ## The changes account for both inventories -/

/-- The fields of all the changes. -/
def changeFields (host : Host) (both renamed : List (BaselineFile × BaselineFile))
    (removed added : List BaselineFile) : List (PatchFileChangeFields host) :=
  (both.filter fun p => ¬ p.1 = p.2).map (pairFields host) ++ renamed.map (pairFields host) ++
    removed.map (removedFields host) ++ added.map (addedFields host)

section Compared

variable {source target : List BaselineFile} {both renamed : List (BaselineFile × BaselineFile)}
  {removed added : List BaselineFile}

/-- One side of all the changes. -/
theorem filterMap_changeFields {side : PatchFileChangeFields host → Option (FileEntry host)}
    {of : BaselineFile × BaselineFile → BaselineFile}
    (hpair : ∀ p, side (pairFields host p) = some (entry host (of p))) :
    (changeFields host both renamed removed added).filterMap side =
      ((both.filter fun p => ¬ p.1 = p.2).map of).map (entry host) ++
        (renamed.map of).map (entry host) ++ removed.filterMap (side ∘ removedFields host) ++
          added.filterMap (side ∘ addedFields host) := by
  have hpairs (pairs : List (BaselineFile × BaselineFile)) :
      (pairs.map (pairFields host)).filterMap side = (pairs.map of).map (entry host) := by
    rw [filterMap_map, map_map, ← filterMap_eq_map]
    exact filterMap_congr fun p _ => hpair p
  rw [changeFields, filterMap_append, filterMap_append, filterMap_append, hpairs,
    hpairs, filterMap_map, filterMap_map]

theorem befores_changeFields :
    (changeFields host both renamed removed added).filterMap PatchFileChangeFields.beforeEntry =
      ((both.filter fun p => ¬ p.1 = p.2).map Prod.fst ++
        (renamed.map Prod.fst ++ removed)).map (entry host) := by
  have hremoved : removed.filterMap (PatchFileChangeFields.beforeEntry ∘ removedFields host) =
      removed.map (entry host) := congrFun filterMap_eq_map removed
  have hadded : added.filterMap (PatchFileChangeFields.beforeEntry ∘ addedFields host) = [] :=
    filterMap_eq_nil_iff.2 fun _ _ => rfl
  rw [@filterMap_changeFields _ _ _ _ _ _ Prod.fst fun _ => rfl, hremoved, hadded,
    append_nil, map_append, map_append, append_assoc]

theorem afters_changeFields :
    (changeFields host both renamed removed added).filterMap PatchFileChangeFields.afterEntry =
      ((both.filter fun p => ¬ p.1 = p.2).map Prod.snd ++
        (renamed.map Prod.snd ++ added)).map (entry host) := by
  have hremoved : removed.filterMap (PatchFileChangeFields.afterEntry ∘ removedFields host) = [] :=
    filterMap_eq_nil_iff.2 fun _ _ => rfl
  have hadded : added.filterMap (PatchFileChangeFields.afterEntry ∘ addedFields host) =
      added.map (entry host) := congrFun filterMap_eq_map added
  rw [@filterMap_changeFields _ _ _ _ _ _ Prod.snd fun _ => rfl, hremoved, hadded,
    append_nil, map_append, map_append, append_assoc]

theorem mem_changeFields {fields : PatchFileChangeFields host}
    (h : fields ∈ changeFields host both renamed removed added) :
    (∃ p ∈ both, fields = pairFields host p) ∨ (∃ p ∈ renamed, fields = pairFields host p) ∨
      (∃ f ∈ removed, fields = removedFields host f) ∨
        ∃ g ∈ added, fields = addedFields host g := by
  rw [changeFields, mem_append, mem_append, mem_append, mem_map, mem_map,
    mem_map, mem_map] at h
  obtain ((⟨p, hp, rfl⟩ | ⟨p, hp, rfl⟩) | ⟨f, hf, rfl⟩) | ⟨g, hg, rfl⟩ := h
  · exact .inl ⟨p, (mem_filter.1 hp).1, rfl⟩
  · exact .inr (.inl ⟨p, hp, rfl⟩)
  · exact .inr (.inr (.inl ⟨f, hf, rfl⟩))
  · exact .inr (.inr (.inr ⟨g, hg, rfl⟩))

theorem keyed_iff {record : BaselineFile} {k : String} :
    Edit.Keyed k (some (keyed (entry host record))) ↔ fold host record = k := by
  constructor
  · rintro ⟨v, hv⟩
    cases hv
    rfl
  · rintro rfl
    exact ⟨entry host record, rfl⟩

theorem split_perm (pairs : List (BaselineFile × BaselineFile)) :
    ((pairs.filter fun p => p.1 = p.2) ++ pairs.filter fun p => ¬ p.1 = p.2).Perm pairs := by
  simpa using filter_append_perm (fun p : BaselineFile × BaselineFile => decide (p.1 = p.2))
    pairs

namespace Compared

section

variable (h : Compared host source target both renamed removed added)
include h

/-- The unchanged files. -/
theorem source_split :
    source.Perm ((both.filter fun p => p.1 = p.2).map Prod.fst ++
      ((both.filter fun p => ¬ p.1 = p.2).map Prod.fst ++ (renamed.map Prod.fst ++ removed))) := by
  rw [← append_assoc, ← map_append]
  exact h.source_perm.trans (((split_perm both).symm.map Prod.fst).append_right _)

theorem target_split :
    target.Perm ((both.filter fun p => p.1 = p.2).map Prod.fst ++
      ((both.filter fun p => ¬ p.1 = p.2).map Prod.snd ++ (renamed.map Prod.snd ++ added))) := by
  have hsame : (both.filter fun p => p.1 = p.2).map Prod.fst =
      (both.filter fun p => p.1 = p.2).map Prod.snd := by
    refine map_congr_left fun p hp => ?_
    exact of_decide_eq_true (mem_filter.1 hp).2
  rw [hsame, ← append_assoc, ← map_append]
  exact h.target_perm.trans (((split_perm both).symm.map Prod.snd).append_right _)

/-- The unchanged files are the ones that both inventories have. -/
theorem unchanged_perm (hsource : UniquePaths host source) (htarget : UniquePaths host target) :
    ((both.filter fun p => p.1 = p.2).map Prod.fst).Perm (source.filter fun f => f ∈ target) := by
  have hnodup : ((both.filter fun p => p.1 = p.2).map Prod.fst).Nodup :=
    (h.source_split.nodup_iff.1 hsource.of_map).of_append_left
  refine (perm_ext_iff_of_nodup hnodup (hsource.of_map.filter _)).2 fun f => ?_
  rw [mem_filter, decide_eq_true_eq]
  constructor
  · intro hf
    exact ⟨h.source_split.mem_iff.2 (mem_append_left _ hf),
      h.target_split.mem_iff.2 (mem_append_left _ hf)⟩
  · rintro ⟨hf, hf'⟩
    rcases mem_append.1 (h.source_perm.mem_iff.1 hf) with hboth | hgone
    · obtain ⟨⟨_, g⟩, hp, rfl⟩ := mem_map.1 hboth
      dsimp only at hf'
      have hg : g ∈ target := h.target_perm.mem_iff.2 (mem_append_left _
        (mem_map.2 ⟨_, hp, rfl⟩))
      have heq := inj_on_of_nodup_map htarget hf' hg (h.both _ hp)
      exact mem_map.2 ⟨_, mem_filter.2 ⟨hp, decide_eq_true heq⟩, rfl⟩
    · exact absurd (mem_map.2 ⟨f, hf', rfl⟩) (h.gone f hgone)

/-- **The changes account for both inventories.** -/
theorem accounts (hsource : UniquePaths host source) (htarget : UniquePaths host target) :
    Accounts (tree host source) (tree host target)
      ((source.filter fun f => f ∈ target).map fun f => keyed (entry host f))
      ((changeFields host both renamed removed added).map PatchFileChangeFields.edit) := by
  have hunchanged := h.unchanged_perm hsource htarget
  constructor
  case source_perm =>
    have hbefore : ((changeFields host both renamed removed added).map
        PatchFileChangeFields.edit).filterMap Edit.before =
          ((changeFields host both renamed removed added).filterMap
            PatchFileChangeFields.beforeEntry).map keyed := by
      rw [filterMap_map, map_filterMap]
      rfl
    rw [items_tree hsource, hbefore, befores_changeFields, map_map]
    show (source.map _).Perm (_ ++ List.map (fun f => keyed (entry host f)) _)
    rw [← map_append]
    exact (h.source_split.trans (hunchanged.append_right _)).map _
  case target_perm =>
    have hafter : ((changeFields host both renamed removed added).map
        PatchFileChangeFields.edit).filterMap Edit.after =
          ((changeFields host both renamed removed added).filterMap
            PatchFileChangeFields.afterEntry).map keyed := by
      rw [filterMap_map, map_filterMap]
      rfl
    rw [items_tree htarget, hafter, afters_changeFields, map_map]
    show (target.map _).Perm (_ ++ List.map (fun f => keyed (entry host f)) _)
    rw [← map_append]
    exact (h.target_split.trans (hunchanged.append_right _)).map _
  case kept =>
    intro e he k hk hmem
    obtain ⟨fields, hfields, rfl⟩ := mem_map.1 he
    rw [keys_tree htarget] at hmem
    obtain ⟨p, hp, rfl⟩ | ⟨p, hp, rfl⟩ | ⟨f, hf, rfl⟩ | ⟨g, hg, rfl⟩ := mem_changeFields hfields
    · exact keyed_iff.2 ((h.both p hp).symm.trans (keyed_iff.1 hk))
    · refine absurd hmem (keyed_iff.1 hk ▸ h.gone p.1 ?_)
      exact mem_append_left _ (mem_map.2 ⟨p, hp, rfl⟩)
    · exact absurd hmem (keyed_iff.1 hk ▸ h.gone f (mem_append_right _ hf))
    · obtain ⟨_, hv⟩ := hk
      cases hv
  case fresh =>
    intro e he k hk hmem
    obtain ⟨fields, hfields, rfl⟩ := mem_map.1 he
    rw [keys_tree hsource] at hmem
    obtain ⟨p, hp, rfl⟩ | ⟨p, hp, rfl⟩ | ⟨f, hf, rfl⟩ | ⟨g, hg, rfl⟩ := mem_changeFields hfields
    · exact keyed_iff.2 ((h.both p hp).trans (keyed_iff.1 hk))
    · refine absurd hmem (keyed_iff.1 hk ▸ h.fresh p.2 ?_)
      exact mem_append_left _ (mem_map.2 ⟨p, hp, rfl⟩)
    · obtain ⟨_, hv⟩ := hk
      cases hv
    · exact absurd hmem (keyed_iff.1 hk ▸ h.fresh g (mem_append_right _ hg))

end

end Compared

end Compared

/-! ## Changes by their kinds -/

/-- The entries before the changes of one kind. -/
def befores (changes : List (PatchFileChange host)) (kind : FileChangeKind) :
    List (FileEntry host) :=
  ofKind (fun change => change.val.kind) (fun change => change.val.beforeEntry) changes kind

/-- The entries after the changes of one kind. -/
def afters (changes : List (PatchFileChange host)) (kind : FileChangeKind) :
    List (FileEntry host) :=
  ofKind (fun change => change.val.kind) (fun change => change.val.afterEntry) changes kind

theorem isNone_beforeEntry (change : PatchFileChange host) :
    change.val.beforeEntry.isNone ↔ change.val.kind = .added := by
  have hvalid := PatchFileChangeFields.postInit_eq_ok.1 change.property
  rw [← hvalid.before_isNone, PatchFileChangeFields.beforeEntry]
  have hside := hvalid.beforeSide
  cases hpath : change.val.beforePath with
  | none => exact iff_of_true rfl (hside ▸ hpath ▸ rfl)
  | some path =>
    cases change.val.before with
    | none => exact iff_of_true rfl rfl
    | some fingerprint => exact iff_of_false nofun nofun

theorem isNone_afterEntry (change : PatchFileChange host) :
    change.val.afterEntry.isNone ↔ change.val.kind = .removed := by
  have hvalid := PatchFileChangeFields.postInit_eq_ok.1 change.property
  rw [← hvalid.after_isNone, PatchFileChangeFields.afterEntry]
  have hside := hvalid.afterSide
  cases hpath : change.val.afterPath with
  | none => exact iff_of_true rfl (hside ▸ hpath ▸ rfl)
  | some path =>
    cases change.val.after with
    | none => exact iff_of_true rfl rfl
    | some fingerprint => exact iff_of_false nofun nofun

variable (changes : List (PatchFileChange host))

/-- Every change but an addition has an entry before it. -/
theorem befores_perm :
    (changes.filterMap fun change => change.val.beforeEntry).Perm
      (befores changes .removed ++ befores changes .modified ++ befores changes .renamed) :=
  filterMap_perm_ofKind _ (by decide) (fun change => by cases change.val.kind <;> decide)
    isNone_beforeEntry

/-- Every change but a removal has an entry after it. -/
theorem afters_perm :
    (changes.filterMap fun change => change.val.afterEntry).Perm
      (afters changes .added ++ afters changes .modified ++ afters changes .renamed) :=
  filterMap_perm_ofKind _ (by decide) (fun change => by cases change.val.kind <;> decide)
    isNone_afterEntry

variable {kind : FileChangeKind}

theorem length_befores (h : kind ≠ .added) : (befores changes kind).length =
      kindCount (fun change => change.val.kind) changes kind :=
  length_ofKind _ isNone_beforeEntry h

theorem length_afters (h : kind ≠ .removed) : (afters changes kind).length =
      kindCount (fun change => change.val.kind) changes kind :=
  length_ofKind _ isNone_afterEntry h

/-! ## Exact accounts -/

/-- The changes are an exact account: the files that both inventories have are unchanged, every
other file of the first one was removed, modified or renamed, every other file of the second one
was added, modified or renamed, and replaying the changes in any order makes the second inventory
of the first one. -/
structure FilesAccounted (source target : List BaselineFile)
    (changes : List (PatchFileChange host)) (unchanged : ℕ) : Prop where
  unchanged_eq : unchanged = (source.filter fun f => f ∈ target).length
  source_perm : (source.map (entry host)).Perm
    ((source.filter fun f => f ∈ target).map (entry host) ++
      (befores changes .removed ++ befores changes .modified ++ befores changes .renamed))
  target_perm : (target.map (entry host)).Perm
    ((source.filter fun f => f ∈ target).map (entry host) ++
      (afters changes .added ++ afters changes .modified ++ afters changes .renamed))
  replayed : ∀ order : List (PatchFileChange host), order.Perm changes →
    Edit.replay (order.map fun change => change.val.edit) (tree host source).get? =
      some (tree host target).get?

theorem exists_filesAccounted {source target : List BaselineFile}
    (hsource : UniquePaths host source) (htarget : UniquePaths host target) :
    ∃ (changes : List (PatchFileChange host)) (unchanged : ℕ),
      compareFileInventories host source target = .ok (sortBy fileChangeKey changes, unchanged) ∧
        FilesAccounted source target (sortBy fileChangeKey changes) unchanged := by
  obtain ⟨changes, both, renamed, removed, added, hrun, hfields, h⟩ :=
    exists_compareFileInventories hsource htarget
  refine ⟨changes, _, hrun, ?_⟩
  have hunchanged := h.unchanged_perm hsource htarget
  have hsorted : ((sortBy fileChangeKey changes).map Subtype.val).Perm
      (changeFields host both renamed removed added) := by
    rw [changeFields, ← hfields]
    exact (sortBy_perm fileChangeKey changes).map Subtype.val
  constructor
  case unchanged_eq =>
    rw [← hunchanged.length_eq, length_map, countP_eq_length_filter]
  case source_perm =>
    have hbefores := hsorted.filterMap PatchFileChangeFields.beforeEntry
    rw [befores_changeFields, filterMap_map] at hbefores
    refine ((h.source_split.trans (hunchanged.append_right _)).map (entry host)).trans ?_
    rw [map_append]
    exact (hbefores.symm.trans (befores_perm _)).append_left _
  case target_perm =>
    have hafters := hsorted.filterMap PatchFileChangeFields.afterEntry
    rw [afters_changeFields, filterMap_map] at hafters
    refine ((h.target_split.trans (hunchanged.append_right _)).map (entry host)).trans ?_
    rw [map_append]
    exact (hafters.symm.trans (afters_perm _)).append_left _
  case replayed =>
    intro order horder
    have hperm := ((horder.map Subtype.val).trans hsorted).map PatchFileChangeFields.edit
    rw [map_map] at hperm
    exact (h.accounts hsource htarget).replay_eq hperm

variable {source target : VerifiedClientBaseline}

variable {patchId comparedAt : String}

/-- What the constructor of a difference checks, once the changes are an exact account. -/
theorem FilesAccounted.postInit_eq_ok {Report : Type} {changes : List (PatchFileChange host)}
    {unchanged : ℕ}
    (h : FilesAccounted source.files target.files (sortBy fileChangeKey changes) unchanged)
    (hid : isIdentifier patchId) (htime : timestamp host comparedAt = .ok ())
    (archives : List (CacheArchiveDiff host)) {alignment : Option Report}
    (halignment : alignment.isSome ↔ source.executableSha256 ≠ target.executableSha256) :
    ClientPatchDiffFields.postInit {
      patchId := patchId
      comparedAtUtc := comparedAt
      source := treeIdentity source
      target := treeIdentity target
      unchangedFileCount := unchanged
      fileChanges := sortBy fileChangeKey changes
      cacheArchiveDiffs := sortBy archiveDiffKey archives
      executableAlignment := alignment } = .ok () := by
  have hsource := h.source_perm.length_eq
  have htarget := h.target_perm.length_eq
  rw [length_map, length_append, length_map, ← h.unchanged_eq, length_append,
    length_append] at hsource htarget
  rw [length_befores _ (by decide), length_befores _ (by decide), length_befores _ (by decide)]
    at hsource
  rw [length_afters _ (by decide), length_afters _ (by decide), length_afters _ (by decide)]
    at htarget
  unfold ClientPatchDiffFields.postInit
  dsimp only
  rw [check_bind_eq_ok, check_eq_ok, check_bind_eq_ok, check_eq_ok, check_bind_eq_ok, htime,
    check_bind_eq_ok, check_eq_ok, check_bind_eq_ok, check_eq_ok, check_bind_eq_ok, check_eq_ok,
    check_bind_eq_ok, check_eq_ok, check_eq_ok]
  refine ⟨decide_eq_true rfl, hid, rfl, decide_eq_true (sortBy_sortBy fileChangeKey changes),
    decide_eq_true (sortBy_sortBy archiveDiffKey archives), decide_eq_true ?_, decide_eq_true ?_,
    decide_eq_true ?_⟩
  · show _ = source.files.length
    omega
  · show _ = target.files.length
    omega
  · rw [Bool.eq_iff_iff, decide_eq_true_eq]
    exact halignment.symm

/-- Of inventories with unique paths, a comparison raises only where the caches or the executables
cannot be compared. -/
theorem exists_compareFrozenClientBaselines {Report : Type}
    (hsource : UniquePaths host source.files) (htarget : UniquePaths host target.files)
    (hid : isIdentifier patchId) (htime : timestamp host comparedAt = .ok ()) (report : Report) :
    ∃ diff, compareFrozenClientBaselines host source target patchId comparedAt false
      (.ok report) = .ok diff := by
  obtain ⟨changes, unchanged, hrun, h⟩ := exists_filesAccounted hsource htarget
  rw [compareFrozenClientBaselines, hrun, ok_bind]
  show ∃ diff, (pure [] >>= fun cacheDiffs => _) = Except.ok diff
  rw [pure_bind]
  by_cases hsame : source.executableSha256 = target.executableSha256
  · rw [if_neg (not_not.2 hsame), pure_bind]
    exact exists_build_iff.2 (h.postInit_eq_ok hid htime [] (by simp [hsame]))
  · rw [if_pos hsame]
    show ∃ diff, (Except.ok (some report) >>= fun alignment => _) = Except.ok diff
    rw [ok_bind]
    exact exists_build_iff.2 (h.postInit_eq_ok hid htime [] (by simp [hsame]))

end ShadowbaneLab.PatchDiff
