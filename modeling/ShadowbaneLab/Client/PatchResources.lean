/-
# The account of the resources

The comparison of two readable cache archives never raises, and accounts for every resource of
both; together with the account of the files this is what a difference of releases promises.
-/
import ShadowbaneLab.Client.PatchAccount

namespace ShadowbaneLab.PatchDiff

open Foundation World List Option

variable {host : Host}

/-! ## Readable archives -/

/-- The file is a cache archive, every resource of it can be read, and no two have one key. -/
structure Readable (host : Host) (file : Bytes) (archive : CacheArchive) : Prop where
  opens : CacheArchive.ofFile file = .ok archive
  reads : ∀ entry ∈ archive.entries, ∃ payload,
    archive.readResource host.decompress entry = .ok payload
  unique : (archive.entries.map CacheResourceEntry.key).Nodup

theorem sha256_digest (data : Bytes) (name : String) :
    sha256 host (host.sha256 data) name = .ok () := by
  have hall := host.hexadecimal_sha256 data
  refine check_eq_ok.2 (decide_eq_true ⟨host.length_sha256 data, ?_, by simpa using hall⟩)
  exact (host.casefold_hexadecimal _ hall).symm

/-- The bytes of a resource that can be read. -/
def payloadOf (host : Host) (archive : CacheArchive) (entry : CacheResourceEntry) : Bytes :=
  (archive.readResource host.decompress entry).toOption.getD []

/-- The fingerprint of a resource. -/
def resourceOf (host : Host) (archive : CacheArchive) (entry : CacheResourceEntry) :
    CacheResourceFingerprint host :=
  ⟨{ uncompressedSize := entry.uncompressedSize
     storedSize := entry.storedSize
     compressed := entry.isCompressed
     payloadSha256 := host.sha256 (payloadOf host archive entry) },
    check_bind_eq_ok.2 ⟨check_eq_ok.2 (decide_eq_true rfl), sha256_digest _ _⟩⟩

/-- The resources of an archive by their keys. -/
def resources (host : Host) (archive : CacheArchive) :
    Dict (ℕ × ℕ) (CacheResourceFingerprint host) :=
  .ofList (archive.entries.map fun entry => (entry.key, resourceOf host archive entry))

variable {archive : CacheArchive}

theorem resourceFingerprint_eq {entry : CacheResourceEntry}
    (h : ∃ payload, archive.readResource host.decompress entry = .ok payload) :
    resourceFingerprint host archive entry = .ok (resourceOf host archive entry) := by
  obtain ⟨payload, hpayload⟩ := h
  have hsame : payloadOf host archive entry = payload := by
    rw [payloadOf, hpayload]
    rfl
  rw [resourceFingerprint, hpayload, ok_bind, ← hsame]
  exact build_of_ok (resourceOf host archive entry).property

theorem foldlM_addResource {entries : List CacheResourceEntry}
    (hreads : ∀ entry ∈ entries, ∃ payload,
      archive.readResource host.decompress entry = .ok payload)
    (hunique : (entries.map CacheResourceEntry.key).Nodup)
    {results : Dict (ℕ × ℕ) (CacheResourceFingerprint host)}
    (hfresh : ∀ entry ∈ entries, entry.key ∉ results.keys) :
    entries.foldlM (addResource host archive) results =
      .ok ((entries.map fun entry => (entry.key, resourceOf host archive entry)).foldl
        (fun d item => d.set item.1 item.2) results) := by
  induction entries generalizing results with
  | nil => rfl
  | cons entry entries ih =>
    obtain ⟨hread, hreads⟩ := forall_mem_cons.1 hreads
    obtain ⟨hnew, hfresh⟩ := forall_mem_cons.1 hfresh
    rw [map_cons, nodup_cons] at hunique
    have hadd : addResource host archive results entry =
        .ok (results.set entry.key (resourceOf host archive entry)) := by
      have hvacant : ¬ results.contains entry.key = true := fun h => hnew (Dict.contains_iff.1 h)
      rw [addResource, check, if_pos (decide_eq_true hvacant), ok_bind,
        resourceFingerprint_eq hread, ok_bind, pure_eq_ok]
    rw [foldlM_cons, hadd, ok_bind, ih hreads hunique.2]
    · rfl
    · intro other hother hmem
      rcases Dict.mem_keys_set.1 hmem with heq | hmem
      · exact hunique.1 (mem_map.2 ⟨other, hother, heq⟩)
      · exact hfresh other hother hmem

variable {file : Bytes}

theorem Readable.cacheInventory_eq (h : Readable host file archive) :
    cacheInventory host (.ok file) = .ok (resources host archive) := by
  rw [cacheInventory, ok_bind, h.opens, ok_bind]
  exact foldlM_addResource h.reads h.unique fun entry _ hmem => nomatch hmem

theorem Readable.items_resources (h : Readable host file archive) :
    (resources host archive).items =
      archive.entries.map fun entry => (entry.key, resourceOf host archive entry) := by
  refine Dict.items_ofList ?_
  rw [List.map_map]
  exact h.unique

variable {key : ℕ × ℕ}

theorem Readable.key_le (h : Readable host file archive)
    (hkey : key ∈ (resources host archive).keys) : key.1 ≤ 0xFFFFFFFF ∧ key.2 ≤ 0xFFFFFFFF := by
  have hmem : key ∈ archive.entries.map CacheResourceEntry.key := by
    rw [resources, Dict.mem_keys_ofList, List.map_map] at hkey
    exact hkey
  rw [(ofFile_eq_ok.1 h.opens).2, archiveOf, List.map_map] at hmem
  obtain ⟨index, -, rfl⟩ := List.mem_map.1 hmem
  exact ⟨Nat.le_of_lt_succ (word_lt _ _), Nat.le_of_lt_succ (word_lt _ _)⟩

/-! ## The changes -/

/-- What the constructor of a change checks. -/
structure CacheResourceChangeFields.Valid (fields : CacheResourceChangeFields host) : Prop where
  groupId : fields.groupId ≤ 0xFFFFFFFF
  resourceId : fields.resourceId ≤ 0xFFFFFFFF
  before_isNone : fields.before.isNone ↔ fields.kind = .added
  after_isNone : fields.after.isNone ↔ fields.kind = .removed
  modified : fields.kind = .modified →
    fields.before.map logicalIdentity ≠ fields.after.map logicalIdentity
  repacked : fields.kind = .repacked →
    fields.before.map logicalIdentity = fields.after.map logicalIdentity ∧
      fields.before ≠ fields.after

variable {fields : CacheResourceChangeFields host}

theorem CacheResourceChangeFields.postInit_eq_ok : fields.postInit = .ok () ↔ fields.Valid := by
  unfold CacheResourceChangeFields.postInit unsignedInteger
  rw [check_bind_eq_ok, check_eq_ok, check_bind_eq_ok, check_eq_ok, check_bind_eq_ok, check_eq_ok,
    check_bind_eq_ok, check_eq_ok, check_bind_eq_ok, check_eq_ok, check_bind_eq_ok, check_eq_ok,
    check_bind_eq_ok, check_eq_ok, check_eq_ok]
  simp only [decide_eq_true_eq, mem_cons, not_mem_nil, or_false]
  have hsides := @sides_iff _ fields.before fields.after (fields.kind = .added)
    (fields.kind = .removed) (fields.kind = .modified ∨ fields.kind = .repacked)
    (by cases fields.kind <;> simp) (by cases fields.kind <;> simp)
    (by cases fields.kind <;> simp)
  constructor
  · rintro ⟨hgroup, hresource, hadded, hremoved, hboth, hmodified, hlogical, hstored⟩
    obtain ⟨hnone, hnone'⟩ := hsides.1 ⟨hadded, hremoved, hboth⟩
    exact ⟨hgroup, hresource, hnone, hnone', hmodified,
      fun hkind => ⟨hlogical hkind, hstored hkind⟩⟩
  · intro h
    obtain ⟨hadded, hremoved, hboth⟩ := hsides.2 ⟨h.before_isNone, h.after_isNone⟩
    exact ⟨h.groupId, h.resourceId, hadded, hremoved, hboth, h.modified,
      fun hkind => (h.repacked hkind).1, fun hkind => (h.repacked hkind).2⟩

/-- The change of the resource at a key, if it changed. -/
def changeAt (source target : Dict (ℕ × ℕ) (CacheResourceFingerprint host)) (key : ℕ × ℕ) :
    Option (CacheResourceChangeFields host) :=
  (resourceChangeKind (source.get? key) (target.get? key)).map fun kind => {
    kind := kind
    groupId := key.1
    resourceId := key.2
    before := source.get? key
    after := target.get? key }

theorem resourceChangeKind_eq_none {before after : Option (CacheResourceFingerprint host)} :
    resourceChangeKind before after = none ↔ before = after ∧ before ≠ none := by
  unfold resourceChangeKind
  split
  case h_1 => exact ⟨nofun, fun h => absurd rfl h.2⟩
  case h_2 before _ hnone =>
    exact ⟨nofun, fun h => absurd h.1 h.2⟩
  case h_3 before after =>
    split
    case isTrue heq => exact ⟨fun _ => ⟨congrArg some heq, nofun⟩, fun _ => rfl⟩
    case isFalse hne =>
      refine ⟨fun h => ?_, fun h => absurd (Option.some.inj h.1) hne⟩
      split at h <;> cases h

/-- A key that one of the archives has gives a change that passes its checks. -/
theorem valid_changeAt {source target : Dict (ℕ × ℕ) (CacheResourceFingerprint host)}
    (hkey : key.1 ≤ 0xFFFFFFFF ∧ key.2 ≤ 0xFFFFFFFF) (hmem : key ∈ source.keys ∨ key ∈ target.keys)
    (h : changeAt source target key = some fields) : fields.Valid := by
  obtain ⟨kind, hkind, rfl⟩ := map_eq_some_iff.1 h
  have hpresent : ¬ (source.get? key = none ∧ target.get? key = none) := by
    rintro ⟨hsource, htarget⟩
    exact hmem.elim (Dict.get?_eq_none.1 hsource) (Dict.get?_eq_none.1 htarget)
  unfold resourceChangeKind at hkind
  generalize source.get? key = before at *
  generalize target.get? key = after at *
  cases before with
  | none =>
    cases hkind
    cases after with
    | none => exact absurd ⟨rfl, rfl⟩ hpresent
    | some after =>
      exact ⟨hkey.1, hkey.2, ⟨fun _ => rfl, fun _ => rfl⟩, ⟨nofun, nofun⟩, nofun, nofun⟩
  | some before =>
    cases after with
    | none =>
      cases hkind
      exact ⟨hkey.1, hkey.2, ⟨nofun, nofun⟩, ⟨fun _ => rfl, fun _ => rfl⟩, nofun, nofun⟩
    | some after =>
      dsimp only at hkind
      split at hkind
      case isTrue => cases hkind
      case isFalse hne =>
        split at hkind
        case isTrue hlogical =>
          cases hkind
          exact ⟨hkey.1, hkey.2, ⟨nofun, nofun⟩, ⟨nofun, nofun⟩, nofun,
            fun _ => ⟨congrArg some hlogical, fun h => hne (Option.some.inj h)⟩⟩
        case isFalse hlogical =>
          cases hkind
          exact ⟨hkey.1, hkey.2, ⟨nofun, nofun⟩, ⟨nofun, nofun⟩,
            fun _ h => hlogical (Option.some.inj h), nofun⟩

variable {keys : List (ℕ × ℕ)}

theorem foldlM_compareResource {source target : Dict (ℕ × ℕ) (CacheResourceFingerprint host)}
    (hkeys : ∀ key ∈ keys, key.1 ≤ 0xFFFFFFFF ∧ key.2 ≤ 0xFFFFFFFF)
    (hmem : ∀ key ∈ keys, key ∈ source.keys ∨ key ∈ target.keys)
    (state : List (CacheResourceChange host) × ℕ) :
    ∃ changes, keys.foldlM (compareResource source target) state =
        .ok (state.1 ++ changes, state.2 + keys.countP fun key =>
          (changeAt source target key).isNone) ∧
      changes.map Subtype.val = keys.filterMap (changeAt source target) := by
  induction keys generalizing state with
  | nil => exact ⟨[], by rw [append_nil]; rfl, rfl⟩
  | cons key keys ih =>
    obtain ⟨hkey, hkeys⟩ := forall_mem_cons.1 hkeys
    obtain ⟨hhas, hmem⟩ := forall_mem_cons.1 hmem
    rw [foldlM_cons]
    cases hchange : changeAt source target key with
    | none =>
      obtain ⟨changes, hrun, hfields⟩ := ih hkeys hmem (state.1, state.2 + 1)
      have hkind := map_eq_none_iff.1 hchange
      refine ⟨changes, ?_, ?_⟩
      · rw [compareResource, hkind]
        dsimp only
        rw [pure_eq_ok, ok_bind, hrun, countP_cons_of_pos (by rw [hchange]; rfl),
          Nat.add_assoc, Nat.add_comm 1]
      · rw [hfields, filterMap_cons_none hchange]
    | some fields =>
      have hvalid := CacheResourceChangeFields.postInit_eq_ok.2 (valid_changeAt hkey hhas hchange)
      obtain ⟨kind, hkind, heq⟩ := map_eq_some_iff.1 hchange
      obtain ⟨changes, hrun, hfields⟩ := ih hkeys hmem (state.1 ++ [⟨fields, hvalid⟩], state.2)
      refine ⟨⟨fields, hvalid⟩ :: changes, ?_, ?_⟩
      · rw [compareResource, hkind]
        dsimp only
        rw [heq, build_of_ok hvalid, ok_bind, pure_eq_ok, ok_bind, hrun,
          countP_cons_of_neg (by rw [hchange]; exact nofun), append_assoc,
          singleton_append]
      · rw [map_cons, hfields, filterMap_cons_some hchange]

/-! ## The changes account for both archives -/

/-- The old resource is taken out, and the new one put in. -/
def CacheResourceChangeFields.edit (fields : CacheResourceChangeFields host) :
    Edit (ℕ × ℕ) (CacheResourceFingerprint host) where
  before := fields.before.map fun resource => ((fields.groupId, fields.resourceId), resource)
  after := fields.after.map fun resource => ((fields.groupId, fields.resourceId), resource)

section Accounts

variable {source target : Dict (ℕ × ℕ) (CacheResourceFingerprint host)}

theorem mem_allKeys : key ∈ allKeys source target ↔ key ∈ source.keys ∨ key ∈ target.keys := by
  rw [allKeys, mem_sortBy, mem_append, mem_filter, decide_eq_true_eq, Dict.contains_iff]
  tauto

theorem nodup_allKeys : (allKeys source target).Nodup := by
  refine nodup_sortBy toLex (nodup_append.2 ⟨source.nodup_keys,
    target.nodup_keys.filter _, ?_⟩)
  rintro key hsource _ htarget rfl
  rw [mem_filter, decide_eq_true_eq, Dict.contains_iff] at htarget
  exact htarget.2 hsource

theorem edit_of_changeAt (h : changeAt source target key = some fields) :
    fields.edit.before = (source.get? key).map (fun resource => (key, resource)) ∧
      fields.edit.after = (target.get? key).map fun resource => (key, resource) := by
  obtain ⟨kind, -, rfl⟩ := map_eq_some_iff.1 h
  exact ⟨rfl, rfl⟩

theorem changeAt_eq_none : changeAt source target key = none ↔
    source.get? key = target.get? key ∧ source.get? key ≠ none := by
  rw [changeAt, map_eq_none_iff, resourceChangeKind_eq_none]

/-- One side of the changes: the resources of one archive that the other one does not have. -/
theorem side_perm {d d' : Dict (ℕ × ℕ) (CacheResourceFingerprint host)} (hnodup : keys.Nodup)
    (hkeys : ∀ key ∈ d.keys, key ∈ keys)
    {side : ℕ × ℕ → Option ((ℕ × ℕ) × CacheResourceFingerprint host)}
    (hside : ∀ key entry, side key = some entry ↔
      entry.1 = key ∧ d.get? key = some entry.2 ∧ d'.get? key ≠ some entry.2) :
    d.items.Perm ((d.items.filter fun item => item ∈ d'.items) ++ keys.filterMap side) := by
  have hchanged : (keys.filterMap side).Perm (d.items.filter fun item => ¬ item ∈ d'.items) := by
    refine (perm_ext_iff_of_nodup (hnodup.filterMap ?_) (d.nodup_items.filter _)).2 ?_
    · intro key key' entry hentry hentry'
      exact ((hside key entry).1 hentry).1.symm.trans ((hside key' entry).1 hentry').1
    · intro entry
      rw [mem_filterMap, mem_filter, decide_eq_true_eq]
      constructor
      · rintro ⟨key, -, hentry⟩
        obtain ⟨rfl, hget, hother⟩ := (hside key entry).1 hentry
        exact ⟨Dict.get?_eq_some.1 hget, fun hmem => hother (Dict.get?_eq_some.2 hmem)⟩
      · rintro ⟨hmem, hother⟩
        have hget : d.get? entry.1 = some entry.2 := Dict.get?_eq_some.2 hmem
        refine ⟨entry.1, hkeys _ (Dict.mem_keys_iff.2 ⟨_, hget⟩), (hside _ _).2 ⟨rfl, hget, ?_⟩⟩
        exact fun hget' => hother (Dict.get?_eq_some.1 hget')
  have hsplit : ((d.items.filter fun item => item ∈ d'.items) ++
      d.items.filter fun item => ¬ item ∈ d'.items).Perm d.items := by
    simpa using filter_append_perm (fun item => decide (item ∈ d'.items)) d.items
  exact hsplit.symm.trans (hchanged.symm.append_left _)

variable {entry : (ℕ × ℕ) × CacheResourceFingerprint host}

/-- One side of a change. -/
theorem side_iff {d d' : Dict (ℕ × ℕ) (CacheResourceFingerprint host)}
    {side : CacheResourceChangeFields host → Option ((ℕ × ℕ) × CacheResourceFingerprint host)}
    (hside : ∀ {fields}, changeAt source target key = some fields →
      side fields = (d.get? key).map fun resource => (key, resource))
    (hnone : changeAt source target key = none ↔ d.get? key = d'.get? key ∧ d.get? key ≠ none) :
    (changeAt source target key).bind side = some entry ↔
      entry.1 = key ∧ d.get? key = some entry.2 ∧ d'.get? key ≠ some entry.2 := by
  obtain ⟨key', resource⟩ := entry
  cases hchange : changeAt source target key with
  | none =>
    obtain ⟨heq, -⟩ := hnone.1 hchange
    exact ⟨nofun, fun h => absurd (heq.symm.trans h.2.1) h.2.2⟩
  | some fields =>
    rw [bind_some, hside hchange, map_eq_some_iff]
    constructor
    · rintro ⟨_, hget, heq⟩
      cases heq
      refine ⟨rfl, hget, fun hget' => ?_⟩
      rw [hnone.2 ⟨hget.trans hget'.symm, by rw [hget]; exact nofun⟩] at hchange
      cases hchange
    · rintro ⟨rfl, hget, -⟩
      exact ⟨resource, hget, rfl⟩

theorem unchanged_symm : (target.items.filter fun item => item ∈ source.items).Perm
    (source.items.filter fun item => item ∈ target.items) := by
  refine (perm_ext_iff_of_nodup (target.nodup_items.filter _)
    (source.nodup_items.filter _)).2 fun item => ?_
  rw [mem_filter, mem_filter, decide_eq_true_eq, decide_eq_true_eq, and_comm]

/-- **The changes account for both archives.** -/
theorem accounts_resources : Accounts source target
    (source.items.filter fun item => item ∈ target.items)
    (((allKeys source target).filterMap (changeAt source target)).map
      CacheResourceChangeFields.edit) where
  source_perm := by
    rw [filterMap_map, filterMap_filterMap]
    exact side_perm nodup_allKeys (fun key hkey => mem_allKeys.2 (.inl hkey))
      fun _ _ => side_iff (fun h => (edit_of_changeAt h).1) changeAt_eq_none
  target_perm := by
    rw [filterMap_map, filterMap_filterMap]
    exact (side_perm nodup_allKeys (fun key hkey => mem_allKeys.2 (.inr hkey))
      fun _ _ => side_iff (fun h => (edit_of_changeAt h).2) (changeAt_eq_none.trans
        ⟨fun h => ⟨h.1.symm, h.1 ▸ h.2⟩, fun h => ⟨h.1.symm, h.1 ▸ h.2⟩⟩)).trans
          (unchanged_symm.append_right _)
  kept e he k hk hmem := by
    obtain ⟨fields, hfields, rfl⟩ := mem_map.1 he
    obtain ⟨key, -, hchange⟩ := mem_filterMap.1 hfields
    obtain ⟨hbefore, hafter⟩ := edit_of_changeAt hchange
    rw [hbefore] at hk
    obtain ⟨_, hk⟩ := hk
    obtain ⟨_, -, heq⟩ := map_eq_some_iff.1 hk
    cases heq
    obtain ⟨resource, hresource⟩ := Dict.mem_keys_iff.1 hmem
    exact ⟨resource, by rw [hafter, hresource]; rfl⟩
  fresh e he k hk hmem := by
    obtain ⟨fields, hfields, rfl⟩ := mem_map.1 he
    obtain ⟨key, -, hchange⟩ := mem_filterMap.1 hfields
    obtain ⟨hbefore, hafter⟩ := edit_of_changeAt hchange
    rw [hafter] at hk
    obtain ⟨_, hk⟩ := hk
    obtain ⟨_, -, heq⟩ := map_eq_some_iff.1 hk
    cases heq
    obtain ⟨resource, hresource⟩ := Dict.mem_keys_iff.1 hmem
    exact ⟨resource, by rw [hbefore, hresource]; rfl⟩

theorem countP_unchanged : ((allKeys source target).countP fun key =>
    (changeAt source target key).isNone) =
      (source.items.filter fun item => item ∈ target.items).length := by
  rw [countP_eq_length_filter]
  refine (List.Perm.length_eq ?_).trans (length_map Prod.fst)
  refine (perm_ext_iff_of_nodup (nodup_allKeys.filter _) ?_).2 ?_
  · exact (filter_sublist.map Prod.fst).nodup source.nodup
  · intro key
    rw [List.mem_filter, Option.isNone_iff_eq_none, changeAt_eq_none, List.mem_map, mem_allKeys]
    constructor
    · rintro ⟨-, heq, hne⟩
      obtain ⟨resource, hresource⟩ := ne_none_iff_exists'.1 hne
      refine ⟨(key, resource), mem_filter.2 ⟨Dict.get?_eq_some.1 hresource, ?_⟩, rfl⟩
      exact decide_eq_true (Dict.get?_eq_some.1 (heq.symm.trans hresource))
    · rintro ⟨item, hitem, rfl⟩
      rw [mem_filter, decide_eq_true_eq, ← Dict.get?_eq_some, ← Dict.get?_eq_some] at hitem
      refine ⟨Or.inl (Dict.mem_keys_iff.2 ⟨_, hitem.1⟩), hitem.1.trans hitem.2.symm, ?_⟩
      rw [hitem.1]
      exact nofun

end Accounts

/-! ## Exact accounts -/

/-- The resources before the changes of one kind. -/
def resourcesBefore (changes : List (CacheResourceChange host)) (kind : ResourceChangeKind) :
    List ((ℕ × ℕ) × CacheResourceFingerprint host) :=
  ofKind (fun change => change.val.kind) (fun change => change.val.edit.before) changes kind

/-- The resources after the changes of one kind. -/
def resourcesAfter (changes : List (CacheResourceChange host)) (kind : ResourceChangeKind) :
    List ((ℕ × ℕ) × CacheResourceFingerprint host) :=
  ofKind (fun change => change.val.kind) (fun change => change.val.edit.after) changes kind

theorem isNone_editBefore (change : CacheResourceChange host) :
    change.val.edit.before.isNone ↔ change.val.kind = .added := by
  rw [← (CacheResourceChangeFields.postInit_eq_ok.1 change.property).before_isNone,
    CacheResourceChangeFields.edit, isNone_map]

theorem isNone_editAfter (change : CacheResourceChange host) :
    change.val.edit.after.isNone ↔ change.val.kind = .removed := by
  rw [← (CacheResourceChangeFields.postInit_eq_ok.1 change.property).after_isNone,
    CacheResourceChangeFields.edit, isNone_map]

/-- The changes are an exact account: the resources that both archives have are unchanged, every
other resource of the first one was removed, modified or repacked, every other resource of the
second one was added, modified or repacked, and replaying the changes in any order makes the
resources of the second archive of those of the first one. -/
structure ResourcesAccounted (source target : Dict (ℕ × ℕ) (CacheResourceFingerprint host))
    (changes : List (CacheResourceChange host)) (unchanged : ℕ) : Prop where
  unchanged_eq : unchanged = (source.items.filter fun item => item ∈ target.items).length
  source_perm : source.items.Perm ((source.items.filter fun item => item ∈ target.items) ++
    (resourcesBefore changes .removed ++ resourcesBefore changes .modified ++
      resourcesBefore changes .repacked))
  target_perm : target.items.Perm ((source.items.filter fun item => item ∈ target.items) ++
    (resourcesAfter changes .added ++ resourcesAfter changes .modified ++
      resourcesAfter changes .repacked))
  replayed : ∀ order : List (CacheResourceChange host), order.Perm changes →
    Edit.replay (order.map fun change => change.val.edit) source.get? = some target.get?

variable {changes : List (CacheResourceChange host)}

theorem resourcesAccounted {source target : Dict (ℕ × ℕ) (CacheResourceFingerprint host)}
    (h : changes.map Subtype.val = (allKeys source target).filterMap (changeAt source target)) :
    ResourcesAccounted source target changes
      ((allKeys source target).countP fun key => (changeAt source target key).isNone) := by
  have haccounts : Accounts source target _ _ := accounts_resources
  rw [← h, List.map_map] at haccounts
  constructor
  case unchanged_eq => exact countP_unchanged
  case source_perm =>
    refine haccounts.source_perm.trans (.append_left _ ?_)
    rw [List.filterMap_map]
    exact filterMap_perm_ofKind _ (by decide) (fun change => by cases change.val.kind <;> decide)
      isNone_editBefore
  case target_perm =>
    refine haccounts.target_perm.trans (.append_left _ ?_)
    rw [List.filterMap_map]
    exact filterMap_perm_ofKind _ (by decide) (fun change => by cases change.val.kind <;> decide)
      isNone_editAfter
  case replayed => exact fun order horder => haccounts.replay_eq (horder.map _)

/-- The keys of the changes are some of the keys, in their order. -/
theorem map_resourceKey {source target : Dict (ℕ × ℕ) (CacheResourceFingerprint host)}
    (h : changes.map Subtype.val = (allKeys source target).filterMap (changeAt source target)) :
    (changes.map resourceKey).Sublist (allKeys source target) := by
  have hkeys : changes.map resourceKey = ((allKeys source target).filterMap
      (changeAt source target)).map fun fields => (fields.groupId, fields.resourceId) := by
    rw [← h, List.map_map]
    rfl
  rw [hkeys, map_filterMap]
  have hkey (key : ℕ × ℕ) : ((changeAt source target key).map fun fields =>
      (fields.groupId, fields.resourceId)) =
        if (changeAt source target key).isSome then some key else none := by
    cases hchange : changeAt source target key with
    | none => rfl
    | some fields =>
      obtain ⟨kind, -, rfl⟩ := map_eq_some_iff.1 hchange
      rfl
  rw [funext hkey]
  have hfilter : (allKeys source target).filterMap (fun key =>
      if (changeAt source target key).isSome then some key else none) =
        (allKeys source target).filter fun key => (changeAt source target key).isSome := by
    rw [← filterMap_eq_filter]
    rfl
  rw [hfilter]
  exact filter_sublist

theorem Readable.compareCacheArchives_eq {sourceFile targetFile : Bytes}
    {source target : CacheArchive} (hsource : Readable host sourceFile source)
    (htarget : Readable host targetFile target) {path : String} (hpath : relativePath path = .ok ())
    (hcache : host.casefold (PurePosixPath.ofString path).suffix = ".cache") :
    ∃ diff, compareCacheArchives host (.ok sourceFile) (.ok targetFile) path = .ok diff ∧
      diff.val.relativePath = path ∧ diff.val.sourceResourceCount = source.entries.length ∧
      diff.val.targetResourceCount = target.entries.length ∧
      ResourcesAccounted (resources host source) (resources host target) diff.val.changes
        diff.val.unchangedResourceCount := by
  have hkeys : ∀ key ∈ allKeys (resources host source) (resources host target),
      key.1 ≤ 0xFFFFFFFF ∧ key.2 ≤ 0xFFFFFFFF := by
    intro key hkey
    rcases mem_allKeys.1 hkey with hmem | hmem
    · exact hsource.key_le hmem
    · exact htarget.key_le hmem
  obtain ⟨changes, hrun, hfields⟩ := foldlM_compareResource hkeys
    (fun key hkey => mem_allKeys.1 hkey) ([], 0)
  have h := resourcesAccounted hfields
  have hsublist := map_resourceKey hfields
  rw [nil_append, Nat.zero_add] at hrun
  generalize ((allKeys (resources host source) (resources host target)).countP fun key =>
    (changeAt (resources host source) (resources host target) key).isNone) = unchanged at h hrun
  have hcheck : CacheArchiveDiffFields.postInit {
      relativePath := path
      sourceResourceCount := (resources host source).items.length
      targetResourceCount := (resources host target).items.length
      unchangedResourceCount := unchanged
      changes := changes } = .ok () := by
    have hsourceLength := h.source_perm.length_eq
    have htargetLength := h.target_perm.length_eq
    rw [length_append, ← h.unchanged_eq, length_append, length_append,
      resourcesBefore, resourcesBefore, resourcesBefore,
      length_ofKind _ isNone_editBefore (by decide), length_ofKind _ isNone_editBefore (by decide),
      length_ofKind _ isNone_editBefore (by decide)] at hsourceLength
    rw [length_append, ← h.unchanged_eq, length_append, length_append,
      resourcesAfter, resourcesAfter, resourcesAfter,
      length_ofKind _ isNone_editAfter (by decide), length_ofKind _ isNone_editAfter (by decide),
      length_ofKind _ isNone_editAfter (by decide)] at htargetLength
    have hkeyOrder : (allKeys (resources host source) (resources host target)).Pairwise
        fun a b => toLex a ≤ toLex b := pairwise_sortBy toLex _
    have hsorted : changes.Pairwise fun a b => toLex (resourceKey a) ≤ toLex (resourceKey b) :=
      pairwise_map.1 (hkeyOrder.sublist hsublist)
    unfold CacheArchiveDiffFields.postInit
    dsimp only
    rw [check_bind_eq_ok, hpath, check_bind_eq_ok, check_eq_ok, check_bind_eq_ok, check_eq_ok,
      check_bind_eq_ok, check_eq_ok, check_bind_eq_ok, check_eq_ok, check_eq_ok]
    refine ⟨rfl, decide_eq_true hcache, decide_eq_true (sortBy_eq_self _ hsorted),
      decide_eq_true ?_, decide_eq_true ?_, decide_eq_true ?_⟩
    · rw [dedup_eq_self.2 (hsublist.nodup nodup_allKeys), length_map]
    · rw [hsourceLength, kindCount, kindCount, kindCount]
      omega
    · rw [htargetLength, kindCount, kindCount, kindCount]
      omega
  refine ⟨⟨_, hcheck⟩, ?_, rfl, ?_, ?_, h⟩
  · rw [compareCacheArchives, hsource.cacheInventory_eq, ok_bind, htarget.cacheInventory_eq,
      ok_bind, pure_eq_ok, cacheAnalysis, ok_bind]
    dsimp only
    rw [hrun, ok_bind]
    exact build_of_ok hcheck
  · show (resources host source).items.length = source.entries.length
    rw [hsource.items_resources, length_map]
  · show (resources host target).items.length = target.entries.length
    rw [htarget.items_resources, length_map]

/-- **A difference is an exact account.**  Of two inventories with unique paths the comparison of
the files does not raise, nor does the difference that is built of its changes, and the changes
account for every file; of two readable archives the comparison of the resources does not raise
either, and its changes account for every resource. -/
theorem diff_exact (host : Host) :
    (∀ (source target : VerifiedClientBaseline), UniquePaths host source.files →
      UniquePaths host target.files → ∃ changes unchanged,
        compareFileInventories host source.files target.files = .ok (changes, unchanged) ∧
        FilesAccounted source.files target.files changes unchanged ∧
        ∀ (Report : Type) (patchId comparedAt : String) (archives : List (CacheArchiveDiff host))
          (alignment : Option Report), isIdentifier patchId →
          timestamp host comparedAt = .ok () →
          (alignment.isSome ↔ source.executableSha256 ≠ target.executableSha256) →
          ClientPatchDiffFields.postInit {
            patchId := patchId
            comparedAtUtc := comparedAt
            source := treeIdentity source
            target := treeIdentity target
            unchangedFileCount := unchanged
            fileChanges := changes
            cacheArchiveDiffs := sortBy archiveDiffKey archives
            executableAlignment := alignment } = .ok ()) ∧
    (∀ (sourceFile targetFile : Bytes) (source target : CacheArchive) (path : String),
      Readable host sourceFile source → Readable host targetFile target →
      relativePath path = .ok () →
      host.casefold (PurePosixPath.ofString path).suffix = ".cache" →
      ∃ diff, compareCacheArchives host (.ok sourceFile) (.ok targetFile) path = .ok diff ∧
        diff.val.relativePath = path ∧
        diff.val.sourceResourceCount = source.entries.length ∧
        diff.val.targetResourceCount = target.entries.length ∧
        ResourcesAccounted (resources host source) (resources host target) diff.val.changes
          diff.val.unchangedResourceCount) := by
  refine ⟨fun source target hsource htarget => ?_,
    fun sourceFile targetFile source target path hsource htarget hpath hcache =>
      hsource.compareCacheArchives_eq htarget hpath hcache⟩
  obtain ⟨changes, unchanged, hrun, h⟩ := exists_filesAccounted hsource htarget
  exact ⟨_, unchanged, hrun, h, fun Report patchId comparedAt archives alignment hid htime
    halignment => h.postInit_eq_ok hid htime archives halignment⟩

namespace Release

def digest (data : Bytes) : String :=
  if data = [1, 2, 3] then "039058c6f2c0cb492c533b0a4d14ef77cc0f78abccced5287d84a1a2011cfb81"
  else "d4b29a968c40173638ded8d174c86957afa211be479cee020dba5dfe127d91ca"

theorem casefold_hexadecimal (text : String) (h : ∀ c ∈ text.toList, c ∈ hexadecimal) :
    String.ofList (text.toList.map Char.toLower) = text := by
  have hlower : ∀ c ∈ hexadecimal, c.toLower = c := by
    have hall : hexadecimal.all (fun c => c.toLower = c) = true := by decide
    simpa using hall
  have hmap : text.toList.map Char.toLower = text.toList :=
    (map_congr_left fun c hc => hlower c (h c hc)).trans (map_id text.toList)
  rw [hmap, String.ofList_toList]

theorem digest_checked (data : Bytes) :
    (digest data).toList.length = 64 ∧ (digest data).toList.all (· ∈ hexadecimal) = true := by
  unfold digest
  split <;> decide +kernel

def libraries : Host where
  casefold text := String.ofList (text.toList.map Char.toLower)
  sha256 := digest
  decompress _ := none
  setOrder := id
  fromisoformat text := if text = "2026-08-31T12:00:00.000+00:00" then some true else none
  casefold_hexadecimal := casefold_hexadecimal
  length_sha256 data := (digest_checked data).1
  hexadecimal_sha256 data := by simpa using (digest_checked data).2
  setOrder_perm := List.Perm.refl

/-- One path changes its case, and one file its name. -/
def source : VerifiedClientBaseline where
  files := [
    ⟨⟨"Data/a.txt", 3, "ba7816bf8f01cfea414140de5dae2223b00361a396177a9cb410ff61f20015ad"⟩,
      by decide⟩,
    ⟨⟨"old.dat", 3, "cba06b5736faf67e54b07b561eae94395e774c517a7d910a54369e1263ccfbd4"⟩,
      by decide +kernel⟩]
  executableSha256 := "039058c6f2c0cb492c533b0a4d14ef77cc0f78abccced5287d84a1a2011cfb81"
  read _ := .error "absent"

def target : VerifiedClientBaseline where
  files := [
    ⟨⟨"Data/A.txt", 3, "ba7816bf8f01cfea414140de5dae2223b00361a396177a9cb410ff61f20015ad"⟩,
      by decide⟩,
    ⟨⟨"new.dat", 3, "cba06b5736faf67e54b07b561eae94395e774c517a7d910a54369e1263ccfbd4"⟩,
      by decide +kernel⟩]
  executableSha256 := "039058c6f2c0cb492c533b0a4d14ef77cc0f78abccced5287d84a1a2011cfb81"
  read _ := .error "absent"

/-- A cache archive with one resource of three bytes. -/
def archiveFile (payload : UInt8) : Bytes :=
  [1, 0, 0, 0, 36, 0, 0, 0, 39, 0, 0, 0, 0, 0, 0, 0] ++
    [7, 0, 0, 0, 9, 0, 0, 0, 36, 0, 0, 0, 3, 0, 0, 0, 3, 0, 0, 0] ++ [1, 2, payload]

theorem readable (payload : UInt8)
    (hreads : ((archiveOf (archiveFile payload)).entries.all fun entry =>
      ((archiveOf (archiveFile payload)).readResource libraries.decompress entry).toOption.isSome) =
        true) (hwell : WellFormed (archiveFile payload))
    (hunique : ((archiveOf (archiveFile payload)).entries.map CacheResourceEntry.key).Nodup) :
    Readable libraries (archiveFile payload) (archiveOf (archiveFile payload)) where
  opens := ofFile_eq_ok.2 ⟨hwell, rfl⟩
  reads entry hentry := by
    have hsome := all_eq_true.1 hreads entry hentry
    cases hread : (archiveOf (archiveFile payload)).readResource libraries.decompress entry with
    | error message =>
      rw [hread] at hsome
      cases hsome
    | ok data => exact ⟨data, rfl⟩
  unique := hunique

end Release

theorem diff_exact_release :
    (∃ changes unchanged,
      compareFileInventories Release.libraries Release.source.files Release.target.files =
        .ok (changes, unchanged) ∧
      FilesAccounted Release.source.files Release.target.files changes unchanged) ∧
    ∃ diff, compareCacheArchives Release.libraries (.ok (Release.archiveFile 3))
        (.ok (Release.archiveFile 4)) "Data/Objects.cache" = .ok diff ∧
      ResourcesAccounted (resources Release.libraries (archiveOf (Release.archiveFile 3)))
        (resources Release.libraries (archiveOf (Release.archiveFile 4))) diff.val.changes
          diff.val.unchangedResourceCount := by
  obtain ⟨hfiles, hresources⟩ := diff_exact Release.libraries
  have hwell (payload : UInt8) (h : payload = 3 ∨ payload = 4) :
      WellFormed (Release.archiveFile payload) := by
    rcases h with rfl | rfl <;>
      exact ⟨by decide, by decide, by decide, by decide,
        by decide⟩
  have hsource := Release.readable 3 (by decide) (hwell 3 (.inl rfl)) (by decide)
  have htarget := Release.readable 4 (by decide) (hwell 4 (.inr rfl)) (by decide)
  constructor
  · obtain ⟨changes, unchanged, hrun, haccounted, -⟩ := hfiles Release.source Release.target
      (show List.Nodup _ by decide) (show List.Nodup _ by decide)
    exact ⟨changes, unchanged, hrun, haccounted⟩
  · obtain ⟨diff, hrun, -, -, -, haccounted⟩ := hresources _ _ _ _ "Data/Objects.cache" hsource
      htarget (by decide) (by decide)
    exact ⟨diff, hrun, haccounted⟩

end ShadowbaneLab.PatchDiff
