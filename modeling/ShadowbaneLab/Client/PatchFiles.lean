/-
# Comparing the files of two releases

The comparison of two inventories never raises, and the changes it builds account for both: the
files of paths that both have are paired, so are the removed and added files of a content that only
one of each has, and the other files are removed and added.
-/
import ShadowbaneLab.Client.PatchDiff
import ShadowbaneLab.Foundation.Edits

namespace ShadowbaneLab.PatchDiff

open Foundation List Dict

variable {host : Host}

/-! ## Records that pass their checks -/

theorem relativePath_of_validate {value : String} (h : validateRelativePath value = .ok ()) :
    relativePath value = .ok () := by
  unfold validateRelativePath at h
  obtain ⟨htext, h⟩ := check_bind_eq_ok.1 h
  obtain ⟨hform, h⟩ := check_bind_eq_ok.1 h
  obtain ⟨hparts, -⟩ := check_bind_eq_ok.1 h
  rw [check_eq_ok, decide_eq_true_eq] at htext hform hparts
  unfold relativePath
  refine check_bind_eq_ok.2 ⟨check_eq_ok.2 (decide_eq_true ⟨htext.1, htext.2.2, htext.2.1⟩), ?_⟩
  refine check_bind_eq_ok.2 ⟨check_eq_ok.2 (decide_eq_true ⟨hform.1, hparts⟩), ?_⟩
  exact check_eq_ok.2 (decide_eq_true hform.2.symm)

theorem sha256_of_validate {value name name' : String} (h : validateSha256 value name = .ok ()) :
    sha256 host value name' = .ok () := by
  rw [validateSha256, check_eq_ok, decide_eq_true_eq] at h
  refine check_eq_ok.2 (decide_eq_true ⟨h.1, ?_, h.2⟩)
  have hall : ∀ c ∈ value.toList, c ∈ hexadecimal := by simpa using h.2
  exact (host.casefold_hexadecimal value hall).symm

variable (record : BaselineFile)

theorem relativePath_record : relativePath record.val.relativePath = .ok () :=
  relativePath_of_validate (check_bind_eq_ok.1 record.property).1

/-- The fingerprint of a record. -/
def content (host : Host) (record : BaselineFile) : FileFingerprint host :=
  ⟨⟨record.val.size, record.val.sha256⟩, sha256_of_validate (check_bind_eq_ok.1 record.property).2⟩

theorem fileFingerprint_eq : fileFingerprint host record = .ok (content host record) :=
  build_of_ok (content host record).property

variable {f g : BaselineFile}

theorem content_eq_iff : content host f = content host g ↔ contentKey f = contentKey g := by
  rw [← Subtype.val_inj, content, content, contentKey, contentKey, toLex_inj, Prod.mk.injEq,
    FileFingerprintFields.mk.injEq]

/-- What the constructor of a change checks. -/
structure PatchFileChangeFields.Valid (fields : PatchFileChangeFields host) : Prop where
  beforePath : ∀ path, fields.beforePath = some path → relativePath path = .ok ()
  afterPath : ∀ path, fields.afterPath = some path → relativePath path = .ok ()
  beforeSide : fields.beforePath.isNone = fields.before.isNone
  afterSide : fields.afterPath.isNone = fields.after.isNone
  before_isNone : fields.before.isNone ↔ fields.kind = .added
  after_isNone : fields.after.isNone ↔ fields.kind = .removed
  modified : fields.kind = .modified →
    fields.beforePath.map host.casefold = fields.afterPath.map host.casefold ∧
      fields.before ≠ fields.after
  renamed : fields.kind = .renamed →
    fields.beforePath ≠ fields.afterPath ∧ fields.before = fields.after

theorem option_forM_eq_ok {α : Type} {f : α → Except String Unit} {o : Option α} :
    o.forM f = .ok () ↔ ∀ a, o = some a → f a = .ok () := by
  cases o with
  | none => exact ⟨fun _ => nofun, fun _ => rfl⟩
  | some a =>
    constructor
    · intro h b hb
      cases hb
      exact h
    · exact fun h => h a rfl

/-- Which sides of a change are there: an addition has no old one, a removal has no new one, and
every other change has both. -/
theorem sides_iff {α : Type} {before after : Option α} {added removed both : Prop}
    (hall : added ∨ removed ∨ both) (hapart : ¬ (added ∧ removed))
    (hboth : both → ¬ added ∧ ¬ removed) :
    ((added → before.isNone ∧ after.isSome) ∧ (removed → before.isSome ∧ after.isNone) ∧
      (both → before.isSome ∧ after.isSome)) ↔
    (before.isNone ↔ added) ∧ (after.isNone ↔ removed) := by
  cases before <;> cases after <;> simp <;> tauto

variable {fields : PatchFileChangeFields host}

theorem PatchFileChangeFields.postInit_eq_ok : fields.postInit = .ok () ↔ fields.Valid := by
  unfold PatchFileChangeFields.postInit
  rw [check_bind_eq_ok, option_forM_eq_ok, check_bind_eq_ok, option_forM_eq_ok, check_bind_eq_ok,
    check_eq_ok, check_bind_eq_ok, check_eq_ok, check_bind_eq_ok, check_eq_ok, check_bind_eq_ok,
    check_eq_ok, check_bind_eq_ok, check_eq_ok, check_bind_eq_ok, check_eq_ok, check_bind_eq_ok,
    check_eq_ok, check_bind_eq_ok, check_eq_ok, check_eq_ok]
  simp only [decide_eq_true_eq, mem_cons, not_mem_nil, or_false]
  have hsides := @sides_iff _ fields.before fields.after (fields.kind = .added)
    (fields.kind = .removed) (fields.kind = .modified ∨ fields.kind = .renamed)
    (by cases fields.kind <;> simp) (by cases fields.kind <;> simp)
    (by cases fields.kind <;> simp)
  constructor
  · rintro ⟨hbeforePath, hafterPath, hbefore, hafter, hadded, hremoved, hboth, hpath, hcontent,
      hname, hsame⟩
    obtain ⟨hnone, hnone'⟩ := hsides.1 ⟨hadded, hremoved, hboth⟩
    exact ⟨hbeforePath, hafterPath, hbefore, hafter, hnone, hnone', fun h => ⟨hpath h, hcontent h⟩,
      fun h => ⟨hname h, hsame h⟩⟩
  · intro h
    obtain ⟨hadded, hremoved, hboth⟩ := hsides.2 ⟨h.before_isNone, h.after_isNone⟩
    exact ⟨h.beforePath, h.afterPath, h.beforeSide, h.afterSide, hadded, hremoved, hboth,
      fun hkind => (h.modified hkind).1, fun hkind => (h.modified hkind).2,
      fun hkind => (h.renamed hkind).1, fun hkind => (h.renamed hkind).2⟩

theorem exists_build (h : fields.Valid) :
    ∃ change, build (@PatchFileChangeFields.postInit host) fields = .ok change ∧
      change.val = fields :=
  ⟨⟨fields, PatchFileChangeFields.postInit_eq_ok.2 h⟩, build_of_ok _, rfl⟩

/-! ## The changes -/

/-- The change of a file into another one. -/
def pairFields (host : Host) (pair : BaselineFile × BaselineFile) : PatchFileChangeFields host where
  kind := if content host pair.1 = content host pair.2 then .renamed else .modified
  beforePath := some pair.1.val.relativePath
  before := some (content host pair.1)
  afterPath := some pair.2.val.relativePath
  after := some (content host pair.2)

def removedFields (host : Host) (record : BaselineFile) : PatchFileChangeFields host where
  kind := .removed
  beforePath := some record.val.relativePath
  before := some (content host record)
  afterPath := none
  after := none

def addedFields (host : Host) (record : BaselineFile) : PatchFileChangeFields host where
  kind := .added
  beforePath := none
  before := none
  afterPath := some record.val.relativePath
  after := some (content host record)

/-- The key of a file in an inventory. -/
def fold (host : Host) (record : BaselineFile) : String := host.casefold record.val.relativePath

theorem record_eq (hcontent : content host f = content host g)
    (hpath : f.val.relativePath = g.val.relativePath) : f = g := by
  obtain ⟨⟨path, size, sha⟩, hf⟩ := f
  obtain ⟨⟨path', size', sha'⟩, hg⟩ := g
  have hfields := congrArg Subtype.val hcontent
  obtain rfl : size = size' := congrArg FileFingerprintFields.size hfields
  obtain rfl : sha = sha' := congrArg FileFingerprintFields.sha256 hfields
  obtain rfl : path = path' := hpath
  rfl

theorem valid_pair (hne : f ≠ g)
    (hfold : content host f ≠ content host g → fold host f = fold host g) :
    (pairFields host (f, g)).Valid := by
  constructor
  case beforePath =>
    intro path hpath
    cases hpath
    exact relativePath_record f
  case afterPath =>
    intro path hpath
    cases hpath
    exact relativePath_record g
  case beforeSide => rfl
  case afterSide => rfl
  case before_isNone =>
    refine ⟨nofun, fun hkind => ?_⟩
    unfold pairFields at hkind
    dsimp only at hkind
    split at hkind <;> cases hkind
  case after_isNone =>
    refine ⟨nofun, fun hkind => ?_⟩
    unfold pairFields at hkind
    dsimp only at hkind
    split at hkind <;> cases hkind
  case modified =>
    intro hkind
    have hcontent : content host f ≠ content host g := by
      intro heq
      rw [pairFields, if_pos heq] at hkind
      cases hkind
    exact ⟨congrArg some (hfold hcontent), fun heq => hcontent (Option.some.inj heq)⟩
  case renamed =>
    intro hkind
    have hcontent : content host f = content host g := by
      by_contra hcontent
      rw [pairFields, if_neg hcontent] at hkind
      cases hkind
    exact ⟨fun heq => hne (record_eq hcontent (Option.some.inj heq)), congrArg some hcontent⟩

theorem valid_removed : (removedFields host record).Valid where
  beforePath path hpath := by
    cases hpath
    exact relativePath_record record
  afterPath := nofun
  beforeSide := rfl
  afterSide := rfl
  before_isNone := ⟨nofun, nofun⟩
  after_isNone := ⟨fun _ => rfl, fun _ => rfl⟩
  modified := nofun
  renamed := nofun

theorem valid_added : (addedFields host record).Valid where
  beforePath := nofun
  afterPath path hpath := by
    cases hpath
    exact relativePath_record record
  beforeSide := rfl
  afterSide := rfl
  before_isNone := ⟨fun _ => rfl, fun _ => rfl⟩
  after_isNone := ⟨nofun, nofun⟩
  modified := nofun
  renamed := nofun

/-- Building the changes of some records, one after the other. -/
theorem exists_mapM {make : BaselineFile → Except String (PatchFileChange host)}
    {fields : BaselineFile → PatchFileChangeFields host}
    (hmake : ∀ record, ∃ change, make record = .ok change ∧ change.val = fields record)
    (records : List BaselineFile) :
    ∃ changes, records.mapM make = .ok changes ∧ changes.map Subtype.val = records.map fields := by
  induction records with
  | nil => exact ⟨[], rfl, rfl⟩
  | cons record records ih =>
    obtain ⟨change, hchange, hfields⟩ := hmake record
    obtain ⟨changes, hchanges, hmap⟩ := ih
    refine ⟨change :: changes, ?_, ?_⟩
    · rw [mapM_cons, hchange, ok_bind, hchanges, ok_bind, pure_eq_ok]
    · rw [map_cons, hfields, hmap, map_cons]

theorem removedChange_spec :
    ∃ change, removedChange host record = .ok change ∧ change.val = removedFields host record := by
  rw [removedChange, fileFingerprint_eq, ok_bind]
  exact exists_build (valid_removed record)

theorem addedChange_spec :
    ∃ change, addedChange host record = .ok change ∧ change.val = addedFields host record := by
  rw [addedChange, fileFingerprint_eq, ok_bind]
  exact exists_build (valid_added record)

/-! ## Files of paths that both releases have -/

/-- Every file is listed under its folded path. -/
def Indexed (host : Host) (d : Dict String BaselineFile) : Prop :=
  ∀ key record, d.get? key = some record → fold host record = key

/-- The two files of each path. -/
def paired (before after : Dict String BaselineFile) (keys : List String) :
    List (BaselineFile × BaselineFile) :=
  keys.filterMap fun key => (before.get? key).bind fun f => (after.get? key).map fun g => (f, g)

variable {before after : Dict String BaselineFile} {key : String}

theorem compareCommon_self {f : BaselineFile} (hbefore : before.get? key = some f)
    (hafter : after.get? key = some f) (state : List (PatchFileChange host) × ℕ) :
    compareCommon host before after state key = .ok (state.1, state.2 + 1) := by
  rw [compareCommon, hbefore, hafter]
  dsimp only
  rw [fileFingerprint_eq, ok_bind, ok_bind, if_pos ⟨rfl, rfl⟩, pure_eq_ok]

theorem compareCommon_pair (hbefore : before.get? key = some f) (hafter : after.get? key = some g)
    (hne : f ≠ g) (hfold : fold host f = fold host g) (state : List (PatchFileChange host) × ℕ) :
    ∃ change, compareCommon host before after state key = .ok (state.1 ++ [change], state.2) ∧
      change.val = pairFields host (f, g) := by
  obtain ⟨change, hchange, hfields⟩ := exists_build (valid_pair hne fun _ => hfold)
  refine ⟨change, ?_, hfields⟩
  rw [compareCommon, hbefore, hafter]
  dsimp only
  rw [fileFingerprint_eq, ok_bind, fileFingerprint_eq, ok_bind,
    if_neg fun h => hne (record_eq h.1 h.2)]
  show (build _ (pairFields host (f, g)) >>= _) = _
  rw [hchange, ok_bind, pure_eq_ok]

variable {keys : List String}

theorem foldlM_compareCommon (hbefore : Indexed host before) (hafter : Indexed host after)
    (hkeys : ∀ key ∈ keys, key ∈ before.keys ∧ key ∈ after.keys)
    (state : List (PatchFileChange host) × ℕ) :
    ∃ changes, keys.foldlM (compareCommon host before after) state =
        .ok (state.1 ++ changes, state.2 + (paired before after keys).countP fun p => p.1 = p.2) ∧
      changes.map Subtype.val =
        ((paired before after keys).filter fun p => ¬ p.1 = p.2).map (pairFields host) := by
  induction keys generalizing state with
  | nil => exact ⟨[], by rw [append_nil]; rfl, rfl⟩
  | cons key keys ih =>
    obtain ⟨hkey, hkeys⟩ := forall_mem_cons.1 hkeys
    obtain ⟨f, hf⟩ := mem_keys_iff.1 hkey.1
    obtain ⟨g, hg⟩ := mem_keys_iff.1 hkey.2
    have hpaired : paired before after (key :: keys) = (f, g) :: paired before after keys := by
      refine filterMap_cons_some ?_
      rw [hf, hg]
      rfl
    rw [hpaired, foldlM_cons]
    rcases eq_or_ne f g with rfl | hne
    · obtain ⟨changes, hrun, hfields⟩ := ih hkeys (state.1, state.2 + 1)
      refine ⟨changes, ?_, ?_⟩
      · rw [compareCommon_self hf hg, ok_bind, hrun, countP_cons_of_pos (by simp),
          Nat.add_assoc, Nat.add_comm 1]
      · rw [hfields, filter_cons_of_neg (by simp)]
    · obtain ⟨change, hchange, hval⟩ := compareCommon_pair hf hg hne
        ((hbefore key f hf).trans (hafter key g hg).symm) state
      obtain ⟨changes, hrun, hfields⟩ := ih hkeys (state.1 ++ [change], state.2)
      refine ⟨change :: changes, ?_, ?_⟩
      · rw [hchange, ok_bind, hrun, countP_cons_of_neg (by simpa using hne),
          append_assoc, singleton_append]
      · rw [map_cons, hval, hfields, filter_cons_of_pos (by simpa using hne),
          map_cons]

/-! ## Files of one content -/

/-- The keys of the files that have a content. -/
def holders (d : Dict String BaselineFile) (fingerprint : ℕ ×ₗ String) : List String :=
  (d.items.filter fun item => contentKey item.2 = fingerprint).map Prod.fst

theorem get?_byFingerprint (d : Dict String BaselineFile) (fingerprint : ℕ ×ₗ String) :
    (byFingerprint d).get? fingerprint =
      if holders d fingerprint = [] then none else some (holders d fingerprint) := by
  unfold byFingerprint holders
  induction d.items using List.reverseRecOn with
  | nil => rfl
  | append_singleton items item ih =>
    rw [foldl_append, foldl_cons, foldl_nil, Dict.get?_set, filter_append,
      map_append]
    split
    case isTrue heq =>
      subst heq
      rw [filter_cons_of_pos (by simp), filter_nil, map_singleton,
        if_neg (by simp), Dict.getD, ih]
      split
      case isTrue hnil => rw [hnil, Option.getD_none]
      case isFalse hne => rw [Option.getD_some]
    case isFalse hne =>
      rw [ih, filter_cons_of_neg (by simpa using hne), filter_nil, map_nil,
        append_nil]

variable {d : Dict String BaselineFile} {fingerprint : ℕ ×ₗ String}

theorem mem_holders :
    key ∈ holders d fingerprint ↔
      ∃ record, d.get? key = some record ∧ contentKey record = fingerprint := by
  unfold holders
  rw [mem_map]
  constructor
  · rintro ⟨⟨_, record⟩, hmem, rfl⟩
    rw [mem_filter, decide_eq_true_eq] at hmem
    exact ⟨record, Dict.get?_eq_some.2 hmem.1, hmem.2⟩
  · rintro ⟨record, hrecord, hcontent⟩
    refine ⟨(key, record), mem_filter.2 ⟨Dict.get?_eq_some.1 hrecord, ?_⟩, rfl⟩
    exact decide_eq_true hcontent

variable {record : BaselineFile}

/-- The files of other contents stay. -/
theorem holders_erase (h : d.get? key = some record) (hne : contentKey record ≠ fingerprint) :
    holders (d.erase key) fingerprint = holders d fingerprint := by
  show ((d.items.filter fun item => item.1 ≠ key).filter _).map Prod.fst = _
  rw [filter_filter, holders]
  refine congrArg (List.map Prod.fst) (filter_congr fun item hitem => ?_)
  by_cases hkey : item.1 = key
  · have hrecord : item.2 = record := by
      have hget : d.get? item.1 = some item.2 := Dict.get?_eq_some.2 hitem
      rw [hkey, h] at hget
      exact (Option.some.inj hget).symm
    rw [hrecord, decide_eq_false hne, Bool.false_and]
  · rw [decide_eq_true hkey, Bool.and_true]

theorem values_perm_erase (h : d.get? key = some record) :
    d.values.Perm (record :: (d.erase key).values) := by
  have hmem : (key, record) ∈ d.items := Dict.get?_eq_some.1 h
  have hitems : d.items.Perm ((key, record) :: (d.erase key).items) := by
    refine (perm_ext_iff_of_nodup d.nodup_items ?_).2 fun item => ?_
    · refine nodup_cons.2 ⟨?_, (d.erase key).nodup_items⟩
      intro hmem'
      exact absurd rfl (of_decide_eq_true (mem_filter.1 hmem').2)
    · show item ∈ d.items ↔ item ∈ (key, record) :: d.items.filter fun item => item.1 ≠ key
      rw [mem_cons, mem_filter, decide_eq_true_eq]
      constructor
      · intro hitem
        by_cases hkey : item.1 = key
        · left
          have hget : d.get? item.1 = some item.2 := Dict.get?_eq_some.2 hitem
          rw [hkey, h] at hget
          exact Prod.ext hkey (Option.some.inj hget).symm
        · exact Or.inr ⟨hitem, hkey⟩
      · rintro (rfl | hitem)
        · exact hmem
        · exact hitem.1
  exact hitems.map Prod.snd

variable {removedBy addedBy : Dict (ℕ ×ₗ String) (List String)}

theorem matchContent_pair {state : Matching host} {oldKey newKey : String}
    (hold : removedBy.get? (contentKey f) = some [oldKey])
    (hnew : addedBy.get? (contentKey f) = some [newKey]) (hf : state.removed.get? oldKey = some f)
    (hg : state.added.get? newKey = some g) (hcontent : contentKey f = contentKey g) (hne : f ≠ g) :
    ∃ change, matchContent host removedBy addedBy state (contentKey f) = .ok
        ⟨state.removed.erase oldKey, state.added.erase newKey, state.changes ++ [change]⟩ ∧
      change.val = pairFields host (f, g) := by
  have hsame : content host f = content host g := content_eq_iff.2 hcontent
  obtain ⟨change, hchange, hfields⟩ :=
    exists_build (@valid_pair host f g hne fun h => absurd hsame h)
  refine ⟨change, ?_, hfields⟩
  have hidentity : build (FileFingerprintFields.postInit host)
      ⟨(ofLex (contentKey f)).1, (ofLex (contentKey f)).2⟩ = .ok (content host f) :=
    fileFingerprint_eq f
  rw [matchContent, hold, hnew]
  dsimp only
  rw [hf, hg]
  dsimp only
  rw [hidentity, ok_bind]
  rw [pairFields, if_pos hsame, ← hsame] at hchange
  rw [hchange, ok_bind, pure_eq_ok]

/-- A content that several files have is left alone. -/
theorem matchContent_skip {oldKeys newKeys : List String}
    (hold : removedBy.get? fingerprint = some oldKeys)
    (hnew : addedBy.get? fingerprint = some newKeys)
    (hmany : oldKeys.length ≠ 1 ∨ newKeys.length ≠ 1) (state : Matching host) :
    matchContent host removedBy addedBy state fingerprint = .ok state := by
  rw [matchContent, hold, hnew]
  split
  case h_1 h h' =>
    cases h
    cases h'
    exact absurd rfl (hmany.resolve_left fun h => h rfl)
  case h_2 => rfl
  case h_3 hnone => exact absurd rfl (hnone oldKeys newKeys rfl)

/-- Some removed and added files were matched: the ones that are left, and the pairs. -/
structure Matched (state state' : Matching host) (pairs : List (BaselineFile × BaselineFile)) :
    Prop where
  removed : state.removed.values.Perm (pairs.map Prod.fst ++ state'.removed.values)
  added : state.added.values.Perm (pairs.map Prod.snd ++ state'.added.values)
  changes : state'.changes.map Subtype.val =
    state.changes.map Subtype.val ++ pairs.map (pairFields host)
  content : ∀ p ∈ pairs, contentKey p.1 = contentKey p.2

theorem foldlM_matchContent {removed added : Dict String BaselineFile}
    {contents : List (ℕ ×ₗ String)} (hnodup : contents.Nodup) {state : Matching host}
    (hremoved : ∀ c ∈ contents, holders removed c ≠ [] ∧ holders state.removed c = holders removed c)
    (hadded : ∀ c ∈ contents, holders added c ≠ [] ∧ holders state.added c = holders added c)
    (hapart : ∀ f ∈ state.removed.values, f ∉ state.added.values) :
    ∃ state' pairs, contents.foldlM (matchContent host (byFingerprint removed)
      (byFingerprint added)) state = .ok state' ∧ Matched state state' pairs := by
  induction contents generalizing state with
  | nil =>
    refine ⟨state, [], rfl, .refl _, .refl _, ?_, nofun⟩
    rw [map_nil, append_nil]
  | cons c contents ih =>
    obtain ⟨hc, hnodups⟩ := nodup_cons.1 hnodup
    obtain ⟨⟨hold, hsame⟩, hremoveds⟩ := forall_mem_cons.1 hremoved
    obtain ⟨⟨hnew, hsame'⟩, haddeds⟩ := forall_mem_cons.1 hadded
    have hgetOld : (byFingerprint removed).get? c = some (holders removed c) := by
      rw [get?_byFingerprint, if_neg hold]
    have hgetNew : (byFingerprint added).get? c = some (holders added c) := by
      rw [get?_byFingerprint, if_neg hnew]
    rw [foldlM_cons]
    by_cases hone : (holders removed c).length = 1 ∧ (holders added c).length = 1
    · obtain ⟨oldKey, holdKey⟩ := length_eq_one_iff.1 hone.1
      obtain ⟨newKey, hnewKey⟩ := length_eq_one_iff.1 hone.2
      -- the state still has the files of a content that was not handled yet
      obtain ⟨f, hf, rfl⟩ := mem_holders.1 (by
        rw [hsame, holdKey]
        exact mem_singleton.2 rfl : oldKey ∈ holders state.removed c)
      obtain ⟨g, hg, hcontent⟩ := mem_holders.1 (by
        rw [hsame', hnewKey]
        exact mem_singleton.2 rfl : newKey ∈ holders state.added (contentKey f))
      have hne : f ≠ g := by
        rintro rfl
        exact hapart f (mem_values_iff.2 ⟨oldKey, hf⟩) (mem_values_iff.2 ⟨newKey, hg⟩)
      rw [holdKey] at hgetOld
      rw [hnewKey] at hgetNew
      obtain ⟨change, hrun, hval⟩ := matchContent_pair hgetOld hgetNew hf hg hcontent.symm hne
      have hpermOld := values_perm_erase hf
      have hpermNew := values_perm_erase hg
      have hremoved' : ∀ c' ∈ contents, holders removed c' ≠ [] ∧
          holders (state.removed.erase oldKey) c' = holders removed c' := by
        intro c' hc'
        rw [holders_erase hf fun heq => hc (heq ▸ hc')]
        exact hremoveds c' hc'
      have hadded' : ∀ c' ∈ contents, holders added c' ≠ [] ∧
          holders (state.added.erase newKey) c' = holders added c' := by
        intro c' hc'
        rw [holders_erase hg fun heq => hc (hcontent.symm.trans heq ▸ hc')]
        exact haddeds c' hc'
      obtain ⟨state', pairs, hrest, hmatched⟩ := @ih hnodups
        ⟨state.removed.erase oldKey, state.added.erase newKey, state.changes ++ [change]⟩
        hremoved' hadded' fun f' hf' hg' =>
          hapart f' (hpermOld.mem_iff.2 (mem_cons_of_mem f hf'))
            (hpermNew.mem_iff.2 (mem_cons_of_mem g hg'))
      refine ⟨state', (f, g) :: pairs, ?_, ?_, ?_, ?_, ?_⟩
      · rw [hrun, ok_bind, hrest]
      · exact hpermOld.trans (hmatched.removed.cons f)
      · exact hpermNew.trans (hmatched.added.cons g)
      · rw [hmatched.changes, map_append, map_singleton, hval, append_assoc,
          map_cons, singleton_append]
      · exact forall_mem_cons.2 ⟨hcontent.symm, hmatched.content⟩
    · obtain ⟨state', pairs, hrest, hmatched⟩ := ih hnodups hremoveds haddeds hapart
      refine ⟨state', pairs, ?_, hmatched⟩
      rw [matchContent_skip hgetOld hgetNew (not_and_or.1 hone), ok_bind, hrest]

/-! ## Inventories -/

/-- No two files have paths that differ in case only. -/
def UniquePaths (host : Host) (files : List BaselineFile) : Prop := (files.map (fold host)).Nodup

variable {files : List BaselineFile}

theorem items_byPath (h : UniquePaths host files) :
    (byPath host files).items = files.map fun item => (fold host item, item) := by
  refine items_ofList ?_
  rw [map_map]
  exact h

theorem get?_byPath (h : UniquePaths host files) :
    (byPath host files).get? key = some record ↔ record ∈ files ∧ fold host record = key := by
  rw [Dict.get?_eq_some, items_byPath h, mem_map]
  constructor
  · rintro ⟨_, hmem, heq⟩
    cases heq
    exact ⟨hmem, rfl⟩
  · rintro ⟨hmem, rfl⟩
    exact ⟨record, hmem, rfl⟩

theorem keys_byPath (h : UniquePaths host files) :
    (byPath host files).keys = files.map (fold host) := by
  rw [Dict.keys, items_byPath h, map_map]
  rfl

theorem indexed_byPath (h : UniquePaths host files) : Indexed host (byPath host files) :=
  fun _ _ hget => ((get?_byPath h).1 hget).2

theorem map_fold_values (h : Indexed host d) : d.values.map (fold host) = d.keys := by
  rw [Dict.values, Dict.keys, map_map]
  exact map_congr_left fun item hitem => h item.1 item.2 (Dict.get?_eq_some.2 hitem)

variable {records others : Dict String BaselineFile}

theorem get?_onlyIn :
    (onlyIn host records others).get? key = some record ↔
      records.get? key = some record ∧ key ∉ others.keys := by
  set order := host.setOrder (records.keys.filter fun key => ¬ others.contains key) with horder
  have hperm : order.Perm (records.keys.filter fun key => ¬ others.contains key) :=
    host.setOrder_perm _
  have hmem (k : String) : k ∈ order ↔ k ∈ records.keys ∧ k ∉ others.keys := by
    rw [hperm.mem_iff, List.mem_filter, decide_eq_true_eq, Dict.contains_iff]
  have hnodup : order.Nodup := hperm.nodup_iff.2 (records.nodup_keys.filter _)
  have hkeys : (order.filterMap fun key =>
      (records.get? key).map fun record => (key, record)).map Prod.fst = order := by
    rw [List.map_filterMap]
    refine Eq.trans (List.filterMap_congr fun k hk => ?_) (List.filterMap_some (l := order))
    obtain ⟨v, hv⟩ := Dict.mem_keys_iff.1 ((hmem k).1 hk).1
    rw [hv]
    rfl
  rw [Dict.get?_eq_some, onlyIn, Dict.items_ofList (hkeys.symm ▸ hnodup), List.mem_filterMap]
  constructor
  · rintro ⟨k, hk, hrecord⟩
    obtain ⟨v, hv, heq⟩ := Option.map_eq_some_iff.1 hrecord
    cases heq
    exact ⟨hv, ((hmem _).1 hk).2⟩
  · rintro ⟨hrecord, hothers⟩
    refine ⟨key, (hmem key).2 ⟨Dict.mem_keys_iff.2 ⟨record, hrecord⟩, hothers⟩, ?_⟩
    rw [hrecord]
    rfl

theorem mem_keys_onlyIn :
    key ∈ (onlyIn host records others).keys ↔ key ∈ records.keys ∧ key ∉ others.keys := by
  rw [mem_keys_iff, mem_keys_iff]
  constructor
  · rintro ⟨record, hrecord⟩
    exact ⟨⟨record, (get?_onlyIn.1 hrecord).1⟩, (get?_onlyIn.1 hrecord).2⟩
  · rintro ⟨⟨record, hrecord⟩, hothers⟩
    exact ⟨record, get?_onlyIn.2 ⟨hrecord, hothers⟩⟩

theorem mem_paired {p : BaselineFile × BaselineFile} : p ∈ paired before after keys ↔
      ∃ key ∈ keys, before.get? key = some p.1 ∧ after.get? key = some p.2 := by
  rw [paired, mem_filterMap]
  refine exists_congr fun key => and_congr_right fun _ => ?_
  rw [Option.bind_eq_some_iff]
  constructor
  · rintro ⟨f, hf, hp⟩
    obtain ⟨g, hg, rfl⟩ := Option.map_eq_some_iff.1 hp
    exact ⟨hf, hg⟩
  · rintro ⟨hf, hg⟩
    exact ⟨p.1, hf, Option.map_eq_some_iff.2 ⟨p.2, hg, rfl⟩⟩

theorem paired_swap : (paired before after keys).map Prod.swap = paired after before keys := by
  rw [paired, paired, map_filterMap]
  refine filterMap_congr fun key _ => ?_
  cases before.get? key with
  | none => cases after.get? key <;> rfl
  | some f => cases after.get? key <;> rfl

theorem map_fold_paired (hbefore : Indexed host before)
    (hkeys : ∀ key ∈ keys, key ∈ before.keys ∧ key ∈ after.keys) :
    ((paired before after keys).map Prod.fst).map (fold host) = keys := by
  rw [map_map, paired, map_filterMap]
  refine Eq.trans (filterMap_congr fun key hkey => ?_) (filterMap_some (l := keys))
  obtain ⟨f, hf⟩ := mem_keys_iff.1 (hkeys key hkey).1
  obtain ⟨g, hg⟩ := mem_keys_iff.1 (hkeys key hkey).2
  rw [hf, hg]
  exact congrArg some (hbefore key f hf)

/-- Every file of an inventory is one of a pair, or has a path that the other one does not have. -/
theorem files_perm (h : UniquePaths host files) (others : Dict String BaselineFile)
    (hnodup : keys.Nodup)
    (hkeys : ∀ key, key ∈ keys ↔ key ∈ (byPath host files).keys ∧ key ∈ others.keys) :
    files.Perm ((paired (byPath host files) others keys).map Prod.fst ++
      (onlyIn host (byPath host files) others).values) := by
  have hindexed : Indexed host (onlyIn host (byPath host files) others) :=
    fun key record hget => indexed_byPath h key record (get?_onlyIn.1 hget).1
  have hfold : ((paired (byPath host files) others keys).map Prod.fst ++
      (onlyIn host (byPath host files) others).values).map (fold host) =
        keys ++ (onlyIn host (byPath host files) others).keys := by
    rw [map_append, map_fold_paired (indexed_byPath h) fun key => (hkeys key).1,
      map_fold_values hindexed]
  refine (perm_ext_iff_of_nodup h.of_map (List.Nodup.of_map (fold host) ?_)).2 fun f => ?_
  · rw [hfold]
    refine nodup_append.2 ⟨hnodup, nodup_keys _, ?_⟩
    rintro key hkey _ honly rfl
    exact (mem_keys_onlyIn.1 honly).2 ((hkeys key).1 hkey).2
  rw [mem_append, mem_map, mem_values_iff]
  constructor
  · intro hf
    have hget : (byPath host files).get? (fold host f) = some f := (get?_byPath h).2 ⟨hf, rfl⟩
    by_cases hother : fold host f ∈ others.keys
    · obtain ⟨g, hg⟩ := mem_keys_iff.1 hother
      have hkey := (hkeys _).2 ⟨mem_keys_iff.2 ⟨f, hget⟩, hother⟩
      exact Or.inl ⟨(f, g), mem_paired.2 ⟨_, hkey, hget, hg⟩, rfl⟩
    · exact Or.inr ⟨fold host f, get?_onlyIn.2 ⟨hget, hother⟩⟩
  · rintro (⟨p, hp, rfl⟩ | ⟨key, hkey⟩)
    · obtain ⟨key, -, hget, -⟩ := mem_paired.1 hp
      exact ((get?_byPath h).1 hget).1
    · exact ((get?_byPath h).1 (get?_onlyIn.1 hkey).1).1

/-! ## The comparison -/

/-- The files of both inventories: those of a path that both have, those of a content that only one
removed and one added file have, and the other ones. -/
structure Compared (host : Host) (source target : List BaselineFile)
    (both renamed : List (BaselineFile × BaselineFile)) (removed added : List BaselineFile) :
    Prop where
  source_perm : source.Perm (both.map Prod.fst ++ (renamed.map Prod.fst ++ removed))
  target_perm : target.Perm (both.map Prod.snd ++ (renamed.map Prod.snd ++ added))
  both : ∀ p ∈ both, fold host p.1 = fold host p.2
  gone : ∀ f ∈ renamed.map Prod.fst ++ removed, fold host f ∉ target.map (fold host)
  fresh : ∀ g ∈ renamed.map Prod.snd ++ added, fold host g ∉ source.map (fold host)

theorem exists_compareFileInventories {source target : List BaselineFile}
    (hsource : UniquePaths host source) (htarget : UniquePaths host target) :
    ∃ changes both renamed removed added, compareFileInventories host source target =
        .ok (sortBy fileChangeKey changes, both.countP fun p => p.1 = p.2) ∧
      changes.map Subtype.val = (both.filter fun p => ¬ p.1 = p.2).map (pairFields host) ++
        renamed.map (pairFields host) ++ removed.map (removedFields host) ++
          added.map (addedFields host) ∧
      Compared host source target both renamed removed added := by
  set before := byPath host source with hbefore
  set after := byPath host target with hafter
  set common := sortBy id (before.keys.filter fun key => after.contains key) with hcommon
  have hmem (key : String) : key ∈ common ↔ key ∈ before.keys ∧ key ∈ after.keys := by
    rw [hcommon, mem_sortBy, List.mem_filter, Dict.contains_iff]
  have hnodup : common.Nodup := nodup_sortBy id (before.nodup_keys.filter _)
  obtain ⟨changes, hpaired, hchanges⟩ := foldlM_compareCommon (indexed_byPath hsource)
    (indexed_byPath htarget) (fun key => (hmem key).1) ([], 0)
  -- the files of paths that only one inventory has
  set gone := onlyIn host before after with hgone
  set fresh := onlyIn host after before with hfresh
  have hapart : ∀ f ∈ gone.values, f ∉ fresh.values := by
    intro f hf hf'
    obtain ⟨key, hkey⟩ := Dict.mem_values_iff.1 hf
    obtain ⟨key', hkey'⟩ := Dict.mem_values_iff.1 hf'
    have hpath := ((get?_byPath hsource).1 (get?_onlyIn.1 hkey).1).2
    have hpath' := ((get?_byPath htarget).1 (get?_onlyIn.1 hkey').1).2
    refine (get?_onlyIn.1 hkey).2 ?_
    rw [← hpath, hpath']
    exact Dict.mem_keys_iff.2 ⟨f, (get?_onlyIn.1 hkey').1⟩
  set contents := sortBy id ((byFingerprint gone).keys.filter fun fingerprint =>
    (byFingerprint fresh).contains fingerprint) with hcontents
  have hheld (c : ℕ ×ₗ String) (hc : c ∈ contents) :
      holders gone c ≠ [] ∧ holders fresh c ≠ [] := by
    rw [hcontents, mem_sortBy, List.mem_filter, Dict.contains_iff, Dict.mem_keys_iff,
      Dict.mem_keys_iff] at hc
    obtain ⟨⟨olds, holds⟩, news, hnews⟩ := hc
    rw [get?_byFingerprint] at holds hnews
    constructor
    · rintro hnil
      rw [if_pos hnil] at holds
      cases holds
    · rintro hnil
      rw [if_pos hnil] at hnews
      cases hnews
  obtain ⟨state, renamed, hmatch, hmatched⟩ := @foldlM_matchContent host gone fresh contents
    (nodup_sortBy id ((byFingerprint gone).nodup_keys.filter _)) ⟨gone, fresh, changes⟩
    (fun c hc => ⟨(hheld c hc).1, rfl⟩) (fun c hc => ⟨(hheld c hc).2, rfl⟩) hapart
  obtain ⟨removals, hremovals, hremoved⟩ :=
    exists_mapM (@removedChange_spec host) state.removed.values
  obtain ⟨additions, hadditions, hadded⟩ :=
    exists_mapM (@addedChange_spec host) state.added.values
  refine ⟨state.changes ++ removals ++ additions, paired before after common, renamed,
    state.removed.values, state.added.values, ?_, ?_, ?_⟩
  · rw [List.nil_append, Nat.zero_add] at hpaired
    unfold compareFileInventories
    dsimp only
    rw [← hbefore, ← hafter, ← hcommon, hpaired, ok_bind]
    dsimp only
    rw [← hgone, ← hfresh, ← hcontents, hmatch, ok_bind, hremovals, ok_bind, hadditions, ok_bind,
      pure_eq_ok]
  · rw [List.map_append, List.map_append, hremoved, hadded, hmatched.changes, hchanges]
  · have hkeys (key : String) : key ∈ common ↔ key ∈ after.keys ∧ key ∈ before.keys := by
      rw [hmem, and_comm]
    have hsnd : (paired before after common).map Prod.snd =
        (paired after before common).map Prod.fst := by
      rw [← paired_swap, List.map_map]
      rfl
    constructor
    case source_perm =>
      exact (files_perm hsource after hnodup hmem).trans (hmatched.removed.append_left _)
    case target_perm =>
      rw [hsnd]
      exact (files_perm htarget before hnodup hkeys).trans (hmatched.added.append_left _)
    case both =>
      intro p hp
      obtain ⟨key, -, hf, hg⟩ := mem_paired.1 hp
      rw [indexed_byPath hsource key p.1 hf, indexed_byPath htarget key p.2 hg]
    case gone =>
      intro f hf
      rw [← hmatched.removed.mem_iff] at hf
      obtain ⟨key, hkey⟩ := Dict.mem_values_iff.1 hf
      rw [((get?_byPath hsource).1 (get?_onlyIn.1 hkey).1).2, ← keys_byPath htarget]
      exact (get?_onlyIn.1 hkey).2
    case fresh =>
      intro g hg
      rw [← hmatched.added.mem_iff] at hg
      obtain ⟨key, hkey⟩ := Dict.mem_values_iff.1 hg
      rw [((get?_byPath htarget).1 (get?_onlyIn.1 hkey).1).2, ← keys_byPath hsource]
      exact (get?_onlyIn.1 hkey).2

end ShadowbaneLab.PatchDiff
