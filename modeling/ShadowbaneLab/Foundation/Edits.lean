/-
# Edits of keyed maps

An edit takes an entry out of a keyed map, puts an entry in, or does both.  Edits account for the
change from one map to another when the entries they take out, with the unchanged ones, are all
that the first map has, and the entries they put in, with the unchanged ones, all that the second
one has.  Such edits can be replayed in any order, and the result is the second map
(`Accounts.replay_eq`).
-/
import ShadowbaneLab.Foundation.Dict

namespace Foundation

open List

variable {κ ν : Type}

/-- An entry that is taken out and an entry that is put in. -/
structure Edit (κ ν : Type) where
  before : Option (κ × ν)
  after : Option (κ × ν)

variable {k : κ} {e : Edit κ ν}

namespace Edit

/-- The key is the one of the entry, if there is one. -/
def Keyed (k : κ) (entry : Option (κ × ν)) : Prop := ∃ v, entry = some (k, v)

def Touches (e : Edit κ ν) (k : κ) : Prop := Keyed k e.before ∨ Keyed k e.after

/-- No key is touched by both. -/
def Apart (e e' : Edit κ ν) : Prop := ∀ k, e.Touches k → ¬ e'.Touches k

section Apply

variable [DecidableEq κ]

/-- The map without an entry. -/
def without (f : κ → Option ν) : Option (κ × ν) → κ → Option ν
  | none => f
  | some entry => Function.update f entry.1 none

/-- The map with an entry. -/
def put (f : κ → Option ν) : Option (κ × ν) → κ → Option ν
  | none => f
  | some entry => Function.update f entry.1 (some entry.2)

variable [DecidableEq ν]

/-- Only an entry that is there can be taken out. -/
def remove (f : κ → Option ν) (entry : Option (κ × ν)) : Option (κ → Option ν) :=
  if entry.all fun entry => f entry.1 = some entry.2 then some (without f entry) else none

/-- Only a free key gets an entry. -/
def insert (f : κ → Option ν) (entry : Option (κ × ν)) : Option (κ → Option ν) :=
  if entry.all fun entry => (f entry.1).isNone then some (put f entry) else none

def apply (f : κ → Option ν) (e : Edit κ ν) : Option (κ → Option ν) := do
  let f ← remove f e.before
  insert f e.after

/-- One edit after the other; there is no result when an edit does not fit. -/
def replay (edits : List (Edit κ ν)) (f : κ → Option ν) : Option (κ → Option ν) :=
  edits.foldlM apply f

end Apply

/-! ## One edit -/

section Step

variable [DecidableEq κ]

/-- What an edit leaves at a key that it touches. -/
def outcome (e : Edit κ ν) (k : κ) : Option ν :=
  match e.after with
  | none => none
  | some entry => if entry.1 = k then some entry.2 else none

/-- The map after an edit that fits. -/
def result (e : Edit κ ν) (f : κ → Option ν) : κ → Option ν := put (without f e.before) e.after

/-- The entry taken out is there, and the key of the entry put in is free by then. -/
structure Fits (f : κ → Option ν) (e : Edit κ ν) : Prop where
  before : ∀ k v, e.before = some (k, v) → f k = some v
  after : ∀ k v, e.after = some (k, v) → Keyed k e.before ∨ f k = none

variable {f : κ → Option ν} {entry : Option (κ × ν)}

theorem without_of_keyed (h : Keyed k entry) : without f entry k = none := by
  obtain ⟨v, rfl⟩ := h
  exact Function.update_self k none f

theorem without_of_not_keyed (h : ¬ Keyed k entry) : without f entry k = f k := by
  cases entry with
  | none => rfl
  | some entry =>
    have hne : k ≠ entry.1 := by
      rintro rfl
      exact h ⟨entry.2, rfl⟩
    exact Function.update_of_ne hne none f

theorem put_of_not_keyed (h : ¬ Keyed k entry) : put f entry k = f k := by
  cases entry with
  | none => rfl
  | some entry =>
    have hne : k ≠ entry.1 := by
      rintro rfl
      exact h ⟨entry.2, rfl⟩
    exact Function.update_of_ne hne (some entry.2) f

theorem apply_eq_result [DecidableEq ν] (h : e.Fits f) : e.apply f = some (e.result f) := by
  have hremove : remove f e.before = some (without f e.before) := by
    refine if_pos ?_
    cases hbefore : e.before with
    | none => rfl
    | some entry => exact decide_eq_true (h.before entry.1 entry.2 hbefore)
  have hinsert : insert (without f e.before) e.after = some (e.result f) := by
    refine if_pos ?_
    cases hafter : e.after with
    | none => rfl
    | some entry =>
      show (without f e.before entry.1).isNone = true
      rw [Option.isNone_iff_eq_none]
      by_cases hkeyed : Keyed entry.1 e.before
      · exact without_of_keyed hkeyed
      · rw [without_of_not_keyed hkeyed]
        exact (h.after entry.1 entry.2 hafter).resolve_left hkeyed
  rw [apply, hremove]
  exact hinsert

theorem result_of_not_touches (e : Edit κ ν) (f : κ → Option ν) (h : ¬ e.Touches k) :
    e.result f k = f k := by
  obtain ⟨hbefore, hafter⟩ := not_or.1 h
  rw [result, put_of_not_keyed hafter, without_of_not_keyed hbefore]

theorem result_of_touches (e : Edit κ ν) (f : κ → Option ν) (h : e.Touches k) :
    e.result f k = e.outcome k := by
  unfold result outcome
  by_cases hafter : Keyed k e.after
  · obtain ⟨v, hv⟩ := hafter
    rw [hv]
    show Function.update (without f e.before) k (some v) k = if k = k then some v else none
    rw [Function.update_self, if_pos rfl]
  · rw [put_of_not_keyed hafter, without_of_keyed (h.resolve_right hafter)]
    cases hentry : e.after with
    | none => rfl
    | some entry =>
      refine (if_neg ?_).symm
      rintro rfl
      exact hafter ⟨entry.2, hentry⟩

/-- An edit that is apart does not change whether another one fits. -/
theorem Fits.result {e e' : Edit κ ν} (h : e'.Fits f) (hapart : e.Apart e') :
    e'.Fits (e.result f) := by
  have hsame (k : κ) (hk : e'.Touches k) : e.result f k = f k :=
    e.result_of_not_touches f fun hk' => hapart k hk' hk
  constructor
  · intro k v hk
    rw [hsame k (Or.inl ⟨v, hk⟩)]
    exact h.before k v hk
  · intro k v hk
    rw [hsame k (Or.inr ⟨v, hk⟩)]
    exact h.after k v hk

end Step

/-! ## Many edits -/

/-- Edits that are apart and fit lead to the map that has their outcomes, and the old entries
elsewhere. -/
theorem replay_eq_some [DecidableEq κ] [DecidableEq ν] {edits : List (Edit κ ν)}
    {f g : κ → Option ν} (hapart : edits.Pairwise Apart) (hfits : ∀ e ∈ edits, e.Fits f)
    (houtcome : ∀ e ∈ edits, ∀ k, e.Touches k → e.outcome k = g k)
    (hrest : ∀ k, (∀ e ∈ edits, ¬ e.Touches k) → f k = g k) :
    replay edits f = some g := by
  induction edits generalizing f with
  | nil =>
    have hfg : f = g := funext fun k => hrest k nofun
    rw [hfg]
    rfl
  | cons e edits ih =>
    obtain ⟨hhead, htail⟩ := pairwise_cons.1 hapart
    obtain ⟨he, hedits⟩ := forall_mem_cons.1 hfits
    show (e.apply f >>= fun f => replay edits f) = some g
    rw [apply_eq_result he]
    refine ih htail ?_ (fun e' he' => houtcome e' (mem_cons_of_mem e he')) ?_
    · intro e' he'
      exact (hedits e' he').result (hhead e' he')
    · intro k hk
      by_cases htouches : e.Touches k
      · rw [e.result_of_touches f htouches]
        exact houtcome e mem_cons_self k htouches
      · rw [e.result_of_not_touches f htouches]
        exact hrest k (forall_mem_cons.2 ⟨htouches, hk⟩)

end Edit

/-! ## Accounts -/

/-- The edits, with the unchanged entries, account for both maps; the entry at a key that both
maps have is edited in place. -/
structure Accounts (source target : Dict κ ν) (unchanged : List (κ × ν))
    (edits : List (Edit κ ν)) : Prop where
  source_perm : source.items.Perm (unchanged ++ edits.filterMap Edit.before)
  target_perm : target.items.Perm (unchanged ++ edits.filterMap Edit.after)
  kept : ∀ e ∈ edits, ∀ k, Edit.Keyed k e.before → k ∈ target.keys → Edit.Keyed k e.after
  fresh : ∀ e ∈ edits, ∀ k, Edit.Keyed k e.after → k ∈ source.keys → Edit.Keyed k e.before

namespace Accounts

variable {source target : Dict κ ν} {unchanged : List (κ × ν)} {edits edits' : List (Edit κ ν)}

/-- The order of the edits does not matter. -/
theorem perm (h : Accounts source target unchanged edits) (hperm : edits'.Perm edits) :
    Accounts source target unchanged edits' where
  source_perm := h.source_perm.trans ((hperm.filterMap Edit.before).symm.append_left unchanged)
  target_perm := h.target_perm.trans ((hperm.filterMap Edit.after).symm.append_left unchanged)
  kept e he := h.kept e (hperm.mem_iff.1 he)
  fresh e he := h.fresh e (hperm.mem_iff.1 he)

theorem mem_source (h : Accounts source target unchanged edits) {entry : κ × ν} :
    entry ∈ source.items ↔ entry ∈ unchanged ∨ ∃ e ∈ edits, e.before = some entry := by
  rw [h.source_perm.mem_iff, mem_append, mem_filterMap]

theorem mem_target (h : Accounts source target unchanged edits) {entry : κ × ν} :
    entry ∈ target.items ↔ entry ∈ unchanged ∨ ∃ e ∈ edits, e.after = some entry := by
  rw [h.target_perm.mem_iff, mem_append, mem_filterMap]

/-- Entries that are listed next to each other in a dictionary have different keys. -/
theorem pairwise_of_perm {d : Dict κ ν} {side : Edit κ ν → Option (κ × ν)}
    (h : d.items.Perm (unchanged ++ edits.filterMap side)) :
    edits.Pairwise fun e e' => ∀ k, Edit.Keyed k (side e) → ¬ Edit.Keyed k (side e') := by
  have hnodup : ((unchanged ++ edits.filterMap side).map Prod.fst).Nodup :=
    (h.map Prod.fst).nodup_iff.1 d.nodup
  rw [map_append] at hnodup
  have hside : (edits.filterMap side).Pairwise fun a b => a.1 ≠ b.1 :=
    pairwise_map.1 hnodup.of_append_right
  refine (pairwise_filterMap.1 hside).imp ?_
  rintro e e' hne k ⟨v, hv⟩ ⟨v', hv'⟩
  exact hne (k, v) hv (k, v') hv' rfl

theorem keyed_after (h : Accounts source target unchanged edits) (he : e ∈ edits)
    (hk : Edit.Keyed k e.after) : k ∈ target.keys := by
  obtain ⟨v, hv⟩ := hk
  exact mem_map.2 ⟨(k, v), h.mem_target.2 (.inr ⟨e, he, hv⟩), rfl⟩

theorem apart (h : Accounts source target unchanged edits) : edits.Pairwise Edit.Apart := by
  refine List.Pairwise.imp_of_mem ?_
    ((pairwise_of_perm h.source_perm).and (pairwise_of_perm h.target_perm))
  rintro e e' he he' ⟨hbefore, hafter⟩ k (hk | hk) (hk' | hk')
  · exact hbefore k hk hk'
  · -- a key of both maps is the key of both entries of an edit
    exact hafter k (h.kept e he k hk (h.keyed_after he' hk')) hk'
  · exact hafter k hk (h.kept e' he' k hk' (h.keyed_after he hk))
  · exact hafter k hk hk'

variable [DecidableEq κ]

section

variable (h : Accounts source target unchanged edits)
include h

theorem fits (he : e ∈ edits) : e.Fits source.get? := by
  constructor
  · intro k v hk
    exact Dict.get?_eq_some.2 (h.mem_source.2 (.inr ⟨e, he, hk⟩))
  · intro k v hk
    by_cases hmem : k ∈ source.keys
    · exact .inl (h.fresh e he k ⟨v, hk⟩ hmem)
    · exact .inr (Dict.get?_eq_none.2 hmem)

theorem outcome_eq (he : e ∈ edits) (hk : e.Touches k) : e.outcome k = target.get? k := by
  by_cases hafter : Edit.Keyed k e.after
  · obtain ⟨v, hv⟩ := hafter
    rw [Edit.outcome, hv, Dict.get?_eq_some.2 (h.mem_target.2 (Or.inr ⟨e, he, hv⟩))]
    exact if_pos rfl
  · have hnone : e.outcome k = none := by
      unfold Edit.outcome
      split
      · rfl
      · rename_i entry hentry
        refine if_neg fun heq => hafter ⟨entry.2, ?_⟩
        rw [hentry, ← heq]
    have hbefore : Edit.Keyed k e.before := hk.resolve_right hafter
    rw [hnone]
    exact (Dict.get?_eq_none.2 fun hmem => hafter (h.kept e he k hbefore hmem)).symm

/-- A key that no edit touches is the key of an unchanged entry, or of none. -/
theorem get?_eq_of_not_touches (hk : ∀ e ∈ edits, ¬ e.Touches k) :
    source.get? k = target.get? k := by
  ext v
  show source.get? k = some v ↔ target.get? k = some v
  rw [Dict.get?_eq_some, Dict.get?_eq_some, h.mem_source, h.mem_target, or_iff_left, or_iff_left]
  · rintro ⟨e, he, hv⟩
    exact hk e he (.inr ⟨v, hv⟩)
  · rintro ⟨e, he, hv⟩
    exact hk e he (.inl ⟨v, hv⟩)

/-- **Edits that account for a change, replayed in any order, make it.** -/
theorem replay_eq [DecidableEq ν] (hperm : edits'.Perm edits) :
    Edit.replay edits' source.get? = some target.get? := by
  have h' := h.perm hperm
  exact Edit.replay_eq_some h'.apart (fun e he => h'.fits he)
    (fun e he k hk => h'.outcome_eq he hk) fun k hk => h'.get?_eq_of_not_touches hk

end

end Accounts

/-! ## Members by their kinds -/

section Kinds

variable {α β ι : Type} [DecidableEq ι] (kind : α → ι)

/-- The members of one kind, as far as they have an image. -/
def ofKind (f : α → Option β) (l : List α) (k : ι) : List β :=
  (l.filter fun a => kind a = k).filterMap f

/-- Members listed kind by kind. -/
theorem perm_flatMap_filter {kinds : List ι} (hnodup : kinds.Nodup) {l : List α}
    (hall : ∀ a ∈ l, kind a ∈ kinds) :
    l.Perm (kinds.flatMap fun k => l.filter fun a => kind a = k) := by
  induction kinds generalizing l with
  | nil =>
    have hnil : l = [] := eq_nil_iff_forall_not_mem.2 fun a ha => not_mem_nil (hall a ha)
    rw [hnil]
    rfl
  | cons k kinds ih =>
    obtain ⟨hk, hkinds⟩ := nodup_cons.1 hnodup
    have hrest := @ih hkinds (l.filter fun a => ¬ kind a = k) (by
      intro a ha
      rw [mem_filter, decide_eq_true_eq] at ha
      exact (mem_cons.1 (hall a ha.1)).resolve_left ha.2)
    have hothers : (kinds.flatMap fun k' => (l.filter fun a => ¬ kind a = k).filter fun a =>
        kind a = k') = kinds.flatMap fun k' => l.filter fun a => kind a = k' := by
      refine flatMap_congr fun k' hk' => ?_
      rw [filter_filter]
      refine filter_congr fun a _ => ?_
      by_cases ha : kind a = k'
      · have hne : ¬ kind a = k := fun heq => hk (heq ▸ ha ▸ hk')
        rw [decide_eq_true ha, decide_eq_true hne, Bool.true_and]
      · rw [decide_eq_false ha, Bool.false_and]
    rw [flatMap_cons, ← hothers]
    have hsplit : (l.filter (fun a => kind a = k) ++ l.filter fun a => ¬ kind a = k).Perm l := by
      simpa using filter_append_perm (fun a => decide (kind a = k)) l
    exact hsplit.symm.trans (hrest.append_left _)

/-- Images listed kind by kind. -/
theorem filterMap_perm_flatMap_ofKind {kinds : List ι} (hnodup : kinds.Nodup) {l : List α}
    (f : α → Option β) (hall : ∀ a ∈ l, kind a ∈ kinds) :
    (l.filterMap f).Perm (kinds.flatMap (ofKind kind f l)) := by
  have hperm := (perm_flatMap_filter kind hnodup hall).filterMap f
  rwa [filterMap_flatMap] at hperm

/-- Where the members of one kind, and only these, have no image, the other three kinds have all
the images. -/
theorem filterMap_perm_ofKind {k₁ k₂ k₃ k₀ : ι} (hnodup : [k₁, k₂, k₃, k₀].Nodup) {l : List α}
    {f : α → Option β} (hall : ∀ a, kind a ∈ [k₁, k₂, k₃, k₀])
    (hnone : ∀ a, (f a).isNone ↔ kind a = k₀) : (l.filterMap f).Perm
      (ofKind kind f l k₁ ++ ofKind kind f l k₂ ++ ofKind kind f l k₃) := by
  have hperm : (l.filterMap f).Perm (ofKind kind f l k₁ ++ (ofKind kind f l k₂ ++
      (ofKind kind f l k₃ ++ (ofKind kind f l k₀ ++ [])))) :=
    filterMap_perm_flatMap_ofKind kind hnodup f fun a _ => hall a
  have hnil : ofKind kind f l k₀ = [] := by
    refine filterMap_eq_nil_iff.2 fun a ha => ?_
    rw [mem_filter, decide_eq_true_eq] at ha
    exact Option.isNone_iff_eq_none.1 ((hnone a).2 ha.2)
  rwa [hnil, append_nil, append_nil, ← append_assoc] at hperm

theorem length_ofKind {f : α → Option β} {l : List α} {k k₀ : ι}
    (hnone : ∀ a, (f a).isNone ↔ kind a = k₀) (hne : k ≠ k₀) :
    (ofKind kind f l k).length = l.countP fun a => kind a = k := by
  rw [ofKind, countP_eq_length_filter, length_filterMap_eq_countP,
    countP_eq_length]
  intro a ha
  rw [mem_filter, decide_eq_true_eq] at ha
  rw [← Option.isNone_eq_false_iff, Bool.eq_false_iff]
  exact fun h => hne (ha.2.symm.trans ((hnone a).1 h))

end Kinds

end Foundation
