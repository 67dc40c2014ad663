/-
# Insertion-ordered dictionaries

A `Dict κ ν` is a list of entries with pairwise distinct keys, kept in insertion order:
assigning to a present key replaces its value in place, assigning to an absent key
appends an entry, and erasing closes the gap.  The order is real data, since iteration
follows it; what a program can compute from a dictionary without looking at the order is
captured by `Dict.Rel` and its diagonal `Dict.Equiv`:

* equivalent dictionaries have the same keys up to permutation (`Rel.keys_perm`), hence
  the same keys in sorted order (`Rel.sortedKeys_eq`);
* replacing a value by a related one relates a dictionary to the result (`rel_set`,
  `rel_modify`);
* the sum of a measure over the values changes with a value as that value does
  (`total_modify`).
-/
import Mathlib.Algebra.BigOperators.Group.List.Basic
import Mathlib.Tactic.Abel
import ShadowbaneLab.Foundation.Sorting

namespace Foundation

open List

variable {κ ν μ : Type}

/-- A dictionary: entries in insertion order, no key twice. -/
structure Dict (κ ν : Type) where
  items : List (κ × ν)
  nodup : (items.map Prod.fst).Nodup

/-! ## Association lists -/

variable {k : κ} {l : List (κ × ν)} {v : ν}

section Assoc

variable [DecidableEq κ]

/-- The value recorded for `k`, if any. -/
def assocGet (k : κ) : List (κ × ν) → Option ν
  | [] => none
  | (k', v) :: l => if k' = k then some v else assocGet k l

/-- Record `v` for `k`: in place when `k` is present, at the end otherwise. -/
def assocSet (k : κ) (v : ν) : List (κ × ν) → List (κ × ν)
  | [] => [(k, v)]
  | (k', v') :: l => if k' = k then (k, v) :: l else (k', v') :: assocSet k v l

theorem assocGet_eq_none : assocGet k l = none ↔ k ∉ l.map Prod.fst := by
  induction l with
  | nil => simp [assocGet]
  | cons e l ih =>
    obtain ⟨k', v⟩ := e
    by_cases h : k' = k
    · simp [assocGet, h]
    · simp [assocGet, h, ih, Ne.symm h]

theorem assocGet_eq_some (h : (l.map Prod.fst).Nodup) : assocGet k l = some v ↔ (k, v) ∈ l := by
  induction l with
  | nil => simp [assocGet]
  | cons e l ih =>
    obtain ⟨k', v'⟩ := e
    rw [map_cons, nodup_cons] at h
    by_cases hk : k' = k
    · subst hk
      have hout : (k', v) ∉ l := fun hm => h.1 (mem_map.mpr ⟨(k', v), hm, rfl⟩)
      simp [assocGet, hout, eq_comm]
    · simp [assocGet, hk, ih h.2, Ne.symm hk]

theorem assocGet_assocSet (k j : κ) (v : ν) (l : List (κ × ν)) :
    assocGet j (assocSet k v l) = if k = j then some v else assocGet j l := by
  induction l with
  | nil => simp [assocSet, assocGet]
  | cons e l ih =>
    obtain ⟨k', v'⟩ := e
    by_cases hk : k' = k
    · subst hk
      by_cases hj : k' = j <;> simp [assocSet, assocGet, hj]
    · by_cases hj : k' = j
      · subst hj
        simp [assocSet, assocGet, hk, Ne.symm hk]
      · simp [assocSet, assocGet, hk, hj, ih]

theorem keys_assocSet (k : κ) (v : ν) (l : List (κ × ν)) :
    (assocSet k v l).map Prod.fst =
      if k ∈ l.map Prod.fst then l.map Prod.fst else l.map Prod.fst ++ [k] := by
  induction l with
  | nil => simp [assocSet]
  | cons e l ih =>
    obtain ⟨k', v'⟩ := e
    by_cases hk : k' = k
    · simp [assocSet, hk]
    · by_cases hm : k ∈ l.map Prod.fst
      · rw [if_pos hm] at ih
        simp [assocSet, hk, ih, hm]
      · rw [if_neg hm] at ih
        simp [assocSet, hk, ih, hm, Ne.symm hk]

theorem nodup_assocSet (h : (l.map Prod.fst).Nodup) : ((assocSet k v l).map Prod.fst).Nodup := by
  rw [keys_assocSet]
  split
  · exact h
  · rename_i hk
    rw [nodup_append]
    refine ⟨h, nodup_singleton k, ?_⟩
    intro a ha b hb
    rw [mem_singleton] at hb
    subst hb
    rintro rfl
    exact hk ha

theorem assocGet_filter (k j : κ) (l : List (κ × ν)) :
    assocGet j (l.filter (fun e => e.1 ≠ k)) = if k = j then none else assocGet j l := by
  induction l with
  | nil => simp [assocGet]
  | cons e l ih =>
    obtain ⟨k', v'⟩ := e
    by_cases hk : k' = k
    · subst hk
      by_cases hj : k' = j
      · simpa [hj] using ih
      · simpa [assocGet, hj] using ih
    · by_cases hj : k' = j
      · subst hj
        simp [assocGet, hk, Ne.symm hk]
      · simpa [assocGet, hk, hj] using ih

/-- A fold that minds one key only sees its value. -/
theorem foldl_assoc {α : Type} (f : ν → α → α) (h : (l.map Prod.fst).Nodup) (a : α) :
    l.foldl (fun a e => if e.1 = k then f e.2 a else a) a = (assocGet k l).elim a (f · a) := by
  induction l generalizing a with
  | nil => rfl
  | cons e l ih =>
    obtain ⟨k', v⟩ := e
    rw [map_cons, nodup_cons] at h
    rw [foldl_cons, ih h.2]
    by_cases hk : k' = k
    · subst hk
      simp [assocGet, assocGet_eq_none.2 h.1]
    · simp [assocGet, hk]

end Assoc

namespace Dict

/-! ## Operations -/

/-- The empty dictionary. -/
def empty : Dict κ ν := ⟨[], List.nodup_nil⟩

instance : EmptyCollection (Dict κ ν) := ⟨empty⟩

/-- The keys, in insertion order. -/
def keys (d : Dict κ ν) : List κ := d.items.map Prod.fst

/-- The values, in insertion order. -/
def values (d : Dict κ ν) : List ν := d.items.map Prod.snd

/-- Apply `f` to every value; keys and order stay. -/
def mapValues (f : ν → μ) (d : Dict κ ν) : Dict κ μ :=
  ⟨d.items.map (fun e => (e.1, f e.2)), by
    rw [List.map_map]
    exact d.nodup⟩

instance [DecidableEq κ] [DecidableEq ν] : DecidableEq (Dict κ ν) := fun a b =>
  decidable_of_iff (a.items = b.items) ⟨fun h => by cases a; cases b; cases h; rfl, fun h => h ▸ rfl⟩

section Operations

variable [DecidableEq κ]

/-- `d.get(k)`. -/
def get? (d : Dict κ ν) (k : κ) : Option ν := assocGet k d.items

/-- `d.get(k, default)`. -/
def getD (d : Dict κ ν) (k : κ) (default : ν) : ν := (d.get? k).getD default

/-- `k in d`. -/
def contains (d : Dict κ ν) (k : κ) : Bool := (d.get? k).isSome

/-- `d[k] = v`. -/
def set (d : Dict κ ν) (k : κ) (v : ν) : Dict κ ν :=
  ⟨assocSet k v d.items, nodup_assocSet d.nodup⟩

/-- `d.pop(k)`, leaving `d` alone when `k` is absent. -/
def erase (d : Dict κ ν) (k : κ) : Dict κ ν :=
  ⟨d.items.filter (fun e => e.1 ≠ k), d.nodup.sublist (List.filter_sublist.map Prod.fst)⟩

/-- Update the value at `k` in place, if there is one. -/
def modify (d : Dict κ ν) (k : κ) (f : ν → ν) : Dict κ ν :=
  match d.get? k with
  | none => d
  | some v => d.set k (f v)

/-- `d.setdefault(k, v)`. -/
def setDefault (d : Dict κ ν) (k : κ) (v : ν) : Dict κ ν := if d.contains k then d else d.set k v

/-- The entries that satisfy `keep`, in their order. -/
def filter (d : Dict κ ν) (keep : κ → ν → Bool) : Dict κ ν :=
  ⟨d.items.filter (fun e => keep e.1 e.2), d.nodup.sublist (List.filter_sublist.map Prod.fst)⟩

/-- `dict(pairs)`: later pairs overwrite earlier ones in place. -/
def ofList (l : List (κ × ν)) : Dict κ ν :=
  l.foldl (fun d e => d.set e.1 e.2) empty

end Operations

/-- `sorted(d)`. -/
def sortedKeys [LinearOrder κ] (d : Dict κ ν) : List κ := sortBy id d.keys

/-- `sorted(d.items())`, keys being distinct. -/
def sortedItems [LinearOrder κ] (d : Dict κ ν) : List (κ × ν) := sortBy Prod.fst d.items

/-- The entries without the first `n`. -/
def drop (n : ℕ) (d : Dict κ ν) : Dict κ ν :=
  ⟨d.items.drop n, d.nodup.sublist ((List.drop_sublist n d.items).map Prod.fst)⟩

/-! ## Lookup -/

theorem nodup_keys (d : Dict κ ν) : d.keys.Nodup := d.nodup

theorem nodup_items (d : Dict κ ν) : d.items.Nodup := d.nodup.of_map

variable {d : Dict κ ν}

section Lookup

variable [DecidableEq κ]

theorem get?_eq_some : d.get? k = some v ↔ (k, v) ∈ d.items :=
  assocGet_eq_some d.nodup

theorem get?_eq_none : d.get? k = none ↔ k ∉ d.keys :=
  assocGet_eq_none

@[simp] theorem get?_empty (k : κ) : (empty : Dict κ ν).get? k = none := rfl

theorem get?_set (d : Dict κ ν) (k j : κ) (v : ν) :
    (d.set k v).get? j = if k = j then some v else d.get? j :=
  assocGet_assocSet k j v d.items

@[simp] theorem get?_set_self (d : Dict κ ν) (k : κ) (v : ν) : (d.set k v).get? k = some v := by
  rw [get?_set, if_pos rfl]

variable {k j : κ}

theorem get?_set_ne (d : Dict κ ν) (v : ν) (h : k ≠ j) : (d.set k v).get? j = d.get? j := by
  rw [get?_set, if_neg h]

theorem get?_erase (d : Dict κ ν) (k j : κ) :
    (d.erase k).get? j = if k = j then none else d.get? j :=
  assocGet_filter k j d.items

/-- Dictionaries that agree without a key agree on the others. -/
theorem get?_eq_of_erase {d d' : Dict κ ν} (h : d'.erase k = d.erase k) (hne : j ≠ k) :
    d'.get? j = d.get? j := by
  have hget : (d'.erase k).get? j = (d.erase k).get? j := by rw [h]
  rwa [get?_erase, get?_erase, if_neg hne.symm, if_neg hne.symm] at hget

theorem get?_setDefault (d : Dict κ ν) (k j : κ) (v : ν) :
    (d.setDefault k v).get? j = if k = j then some ((d.get? k).getD v) else d.get? j := by
  unfold setDefault contains
  by_cases hj : k = j
  · subst hj
    cases h : d.get? k with
    | none => simp
    | some w => simp [h]
  · rw [if_neg hj]
    split
    · rfl
    · exact d.get?_set_ne v hj

theorem get?_filter (d : Dict κ ν) (keep : κ → ν → Bool) (k : κ) (v : ν) :
    (d.filter keep).get? k = some v ↔ d.get? k = some v ∧ keep k v = true := by
  rw [get?_eq_some, get?_eq_some]
  exact mem_filter

theorem get?_modify (d : Dict κ ν) (k j : κ) (f : ν → ν) :
    (d.modify k f).get? j = if k = j then (d.get? j).map f else d.get? j := by
  unfold modify
  cases h : d.get? k with
  | none =>
    by_cases hj : k = j
    · subst hj; simp [h]
    · simp [hj]
  | some v =>
    by_cases hj : k = j
    · subst hj; simp [h]
    · simp [get?_set, hj]

@[simp] theorem get?_modify_self (d : Dict κ ν) (k : κ) (f : ν → ν) :
    (d.modify k f).get? k = (d.get? k).map f := by
  rw [get?_modify, if_pos rfl]

theorem get?_modify_ne (d : Dict κ ν) (f : ν → ν) (h : k ≠ j) :
    (d.modify k f).get? j = d.get? j := by
  rw [get?_modify, if_neg h]

@[simp] theorem get?_mapValues (f : ν → μ) (d : Dict κ ν) (k : κ) :
    (d.mapValues f).get? k = (d.get? k).map f := by
  show assocGet k (d.items.map (fun e => (e.1, f e.2))) = (assocGet k d.items).map f
  induction d.items with
  | nil => rfl
  | cons e l ih =>
    obtain ⟨k', v⟩ := e
    by_cases h : k' = k
    · simp [assocGet, h]
    · simpa [assocGet, h] using ih

section Forall

variable {P : κ → ν → Prop} (h : ∀ j w, d.get? j = some w → P j w)

include h

/-- What holds of every entry, and of a new one, still holds when that is written. -/
theorem forall_set (hv : P k v) : ∀ j w, (d.set k v).get? j = some w → P j w := by
  intro j w hw
  rw [get?_set] at hw
  split at hw
  case isTrue hk =>
    cases hw
    exact hk ▸ hv
  case isFalse => exact h j w hw

theorem forall_erase : ∀ j w, (d.erase k).get? j = some w → P j w := by
  intro j w hw
  rw [get?_erase] at hw
  split at hw
  case isTrue => cases hw
  case isFalse => exact h j w hw

theorem forall_modify {f : ν → ν} (hf : ∀ w, d.get? k = some w → P k w → P k (f w)) :
    ∀ j w, (d.modify k f).get? j = some w → P j w := by
  intro j w hw
  rw [get?_modify] at hw
  split at hw
  case isTrue hk =>
    obtain ⟨old, hold, rfl⟩ := Option.map_eq_some_iff.1 hw
    subst hk
    exact hf old hold (h _ _ hold)
  case isFalse => exact h j w hw

end Forall

theorem contains_iff : d.contains k = true ↔ k ∈ d.keys := by
  rw [contains, Option.isSome_iff_ne_none, Ne, get?_eq_none, not_not]

theorem mem_keys_iff : k ∈ d.keys ↔ ∃ v, d.get? k = some v := by
  rw [← contains_iff, contains, Option.isSome_iff_exists]

theorem mem_values_iff : v ∈ d.values ↔ ∃ k, d.get? k = some v := by
  constructor
  · intro h
    obtain ⟨⟨k, v'⟩, hmem, rfl⟩ := mem_map.mp h
    exact ⟨k, get?_eq_some.mpr hmem⟩
  · rintro ⟨k, h⟩
    exact mem_map_of_mem (f := Prod.snd) (get?_eq_some.mp h)

theorem mem_keys_set : j ∈ (d.set k v).keys ↔ j = k ∨ j ∈ d.keys := by
  show j ∈ (assocSet k v d.items).map Prod.fst ↔ _
  rw [keys_assocSet]
  split
  · rename_i hk
    constructor
    · exact .inr
    · rintro (rfl | hj)
      · exact hk
      · exact hj
  · rw [mem_append, mem_singleton, or_comm]
    exact .rfl

theorem keys_modify (d : Dict κ ν) (k : κ) (f : ν → ν) : (d.modify k f).keys = d.keys := by
  unfold modify
  cases h : d.get? k with
  | none => rfl
  | some v =>
    have hk : k ∈ d.keys := mem_keys_iff.mpr ⟨v, h⟩
    show (assocSet k (f v) d.items).map Prod.fst = d.keys
    rw [keys_assocSet, if_pos (show k ∈ d.items.map Prod.fst from hk)]
    rfl

end Lookup

/-! ## Building from a list -/

section OfList

variable [DecidableEq κ]

/-- A list without repeated keys is the entry list of its dictionary. -/
theorem items_ofList (h : (l.map Prod.fst).Nodup) : (ofList l).items = l := by
  suffices hgen : ∀ (l : List (κ × ν)) (d : Dict κ ν),
      (d.items.map Prod.fst ++ l.map Prod.fst).Nodup →
      (l.foldl (fun d e => d.set e.1 e.2) d).items = d.items ++ l by
    have := hgen l empty (by simpa [empty] using h)
    simpa [ofList, empty] using this
  intro l
  induction l with
  | nil => intro d _; simp
  | cons e l ih =>
    intro d hd
    have hfresh : e.1 ∉ d.items.map Prod.fst := by
      intro hm
      rw [nodup_append] at hd
      exact hd.2.2 e.1 hm e.1 (by simp) rfl
    have hset : (d.set e.1 e.2).items = d.items ++ [e] := by
      show assocSet e.1 e.2 d.items = _
      clear hd ih
      revert hfresh
      induction d.items with
      | nil => intro _; rfl
      | cons e' t iht =>
        intro hf
        rw [map_cons, mem_cons, not_or] at hf
        show (if e'.1 = e.1 then _ else _) = _
        rw [if_neg (Ne.symm hf.1), iht hf.2]
        rfl
    rw [foldl_cons, ih]
    · rw [hset, append_assoc]
      rfl
    · rw [hset]
      simpa using hd

theorem mem_keys_ofList : k ∈ (ofList l).keys ↔ k ∈ l.map Prod.fst := by
  suffices hgen : ∀ (l : List (κ × ν)) (d : Dict κ ν),
      k ∈ (l.foldl (fun d e => d.set e.1 e.2) d).keys ↔ k ∈ d.keys ∨ k ∈ l.map Prod.fst by
    have hempty : k ∉ (empty : Dict κ ν).keys := by
      intro h
      cases h
    rw [ofList, hgen l empty, or_iff_right hempty]
  intro l
  induction l with
  | nil => intro d; simp
  | cons e l ih =>
    intro d
    rw [foldl_cons, ih, mem_keys_set, map_cons, mem_cons]
    tauto

/-- A value found in a dictionary built from a list is listed under its key. -/
theorem mem_of_get?_ofList (h : (ofList l).get? k = some v) : (k, v) ∈ l := by
  suffices hgen : ∀ (l : List (κ × ν)) (d : Dict κ ν),
      (l.foldl (fun d e => d.set e.1 e.2) d).get? k = some v →
        (k, v) ∈ l ∨ d.get? k = some v by
    rcases hgen l empty h with hmem | hempty
    · exact hmem
    · cases hempty
  intro l
  induction l with
  | nil => exact fun d h => .inr h
  | cons e l ih =>
    intro d h
    rcases ih (d.set e.1 e.2) h with hmem | hset
    · exact .inl (mem_cons_of_mem _ hmem)
    · rw [get?_set] at hset
      split at hset
      · rename_i hk
        cases hset
        exact .inl (hk ▸ mem_cons_self)
      · exact .inr hset

end OfList

/-! ## Renamed keys -/

variable {d₁ d₂ : Dict κ ν}

section Transport

variable {κ' : Type} (f : κ ↪ κ') (g : ν → μ)

/-- The same entries with other keys and values. -/
def transport (d : Dict κ ν) : Dict κ' μ :=
  ⟨d.items.map (Prod.map f g), by
    have hkeys : (d.items.map (Prod.map f g)).map Prod.fst = (d.items.map Prod.fst).map f := by
      rw [List.map_map, List.map_map]
      rfl
    rw [hkeys]
    exact d.nodup.map f.injective⟩

theorem items_injective (h : d₁.items = d₂.items) : d₁ = d₂ := by
  cases d₁
  cases d₂
  cases h
  rfl

theorem length_transport (d : Dict κ ν) : (d.transport f g).items.length = d.items.length :=
  length_map _

variable [DecidableEq κ] [DecidableEq κ']

theorem get?_transport (d : Dict κ ν) (k : κ) :
    (d.transport f g).get? (f k) = (d.get? k).map g := by
  show assocGet (f k) (d.items.map (Prod.map f g)) = (assocGet k d.items).map g
  induction d.items with
  | nil => rfl
  | cons e l ih =>
    obtain ⟨k', v⟩ := e
    by_cases h : k' = k
    · simp [assocGet, h]
    · simpa [assocGet, h] using ih

theorem contains_transport (d : Dict κ ν) (k : κ) :
    (d.transport f g).contains (f k) = d.contains k := by
  rw [contains, get?_transport, Option.isSome_map, contains]

theorem transport_set (d : Dict κ ν) (k : κ) (v : ν) :
    (d.set k v).transport f g = (d.transport f g).set (f k) (g v) := by
  refine items_injective ?_
  show (assocSet k v d.items).map (Prod.map f g) = assocSet (f k) (g v) (d.items.map (Prod.map f g))
  induction d.items with
  | nil => rfl
  | cons e l ih =>
    obtain ⟨k', v'⟩ := e
    by_cases h : k' = k
    · simp [assocSet, h]
    · simpa [assocSet, h] using ih

theorem transport_erase (d : Dict κ ν) (k : κ) :
    (d.erase k).transport f g = (d.transport f g).erase (f k) := by
  refine items_injective ?_
  show (d.items.filter fun e => e.1 ≠ k).map (Prod.map f g) =
    (d.items.map (Prod.map f g)).filter fun e => e.1 ≠ f k
  rw [filter_map]
  congr 2
  funext e
  simp

end Transport

/-! ## Equality up to insertion order -/

/-- Same keys, related values; insertion order is ignored. -/
def Rel [DecidableEq κ] (R : ν → μ → Prop) (d₁ : Dict κ ν) (d₂ : Dict κ μ) : Prop :=
  ∀ k, Option.Rel R (d₁.get? k) (d₂.get? k)

/-- Same entries; insertion order is ignored. -/
def Equiv [DecidableEq κ] (d₁ d₂ : Dict κ ν) : Prop := ∀ k, d₁.get? k = d₂.get? k

section Relation

variable [DecidableEq κ] {R : ν → ν → Prop} {d₁ d₂ : Dict κ ν}

section

variable (h : Rel R d₁ d₂)
include h

theorem Rel.of_eq_some (hv : d₁.get? k = some v) : ∃ w, d₂.get? k = some w ∧ R v w := by
  have hk := h k
  rw [hv] at hk
  cases hw : d₂.get? k with
  | none => rw [hw] at hk; cases hk
  | some w =>
    rw [hw] at hk
    cases hk with
    | some hr => exact ⟨w, rfl, hr⟩

theorem Rel.of_eq_some_right {w : ν} (hw : d₂.get? k = some w) :
    ∃ v, d₁.get? k = some v ∧ R v w := by
  have hk := h k
  rw [hw] at hk
  cases hv : d₁.get? k with
  | none => rw [hv] at hk; cases hk
  | some v =>
    rw [hv] at hk
    cases hk with
    | some hr => exact ⟨v, rfl, hr⟩

theorem Rel.none_iff (k : κ) : d₁.get? k = none ↔ d₂.get? k = none := by
  have hk := h k
  generalize d₁.get? k = o₁ at hk ⊢
  generalize d₂.get? k = o₂ at hk ⊢
  cases hk with
  | none => exact .rfl
  | some _ => exact ⟨fun h => (by cases h), fun h => (by cases h)⟩

theorem Rel.mem_keys_iff (k : κ) : k ∈ d₁.keys ↔ k ∈ d₂.keys := by
  rw [← not_iff_not, ← get?_eq_none, ← get?_eq_none]
  exact h.none_iff k

theorem Rel.contains_eq (k : κ) : d₁.contains k = d₂.contains k := by
  rw [Bool.eq_iff_iff, contains_iff, contains_iff]
  exact h.mem_keys_iff k

/-- Related dictionaries list the same keys, in some order. -/
theorem Rel.keys_perm : d₁.keys.Perm d₂.keys := by
  rw [perm_ext_iff_of_nodup d₁.nodup_keys d₂.nodup_keys]
  exact h.mem_keys_iff

end

/-- Equivalent dictionaries list the same entries, in some order. -/
theorem Equiv.items_perm (h : Equiv d₁ d₂) : d₁.items.Perm d₂.items := by
  rw [perm_ext_iff_of_nodup d₁.nodup_items d₂.nodup_items]
  rintro ⟨k, v⟩
  rw [← get?_eq_some, ← get?_eq_some, h k]

theorem Rel.mono {R' : ν → ν → Prop} (h : Rel R d₁ d₂) (hR : ∀ v w, R v w → R' v w) :
    Rel R' d₁ d₂ := by
  intro k
  have hk := h k
  revert hk
  generalize d₁.get? k = a
  generalize d₂.get? k = b
  rintro (hvw | _)
  · exact Option.Rel.some (hR _ _ hvw)
  · exact Option.Rel.none

theorem rel_refl (hR : ∀ v, R v v) (d : Dict κ ν) : Rel R d d := by
  intro k
  cases d.get? k with
  | none => exact Option.Rel.none
  | some v => exact Option.Rel.some (hR v)

theorem Rel.trans (hR : ∀ u v w, R u v → R v w → R u w) {d₃ : Dict κ ν} (h : Rel R d₁ d₂)
    (h' : Rel R d₂ d₃) : Rel R d₁ d₃ := by
  intro k
  have hk := h k
  have hk' := h' k
  generalize d₁.get? k = o₁ at hk ⊢
  generalize d₂.get? k = o₂ at hk hk'
  generalize d₃.get? k = o₃ at hk' ⊢
  cases hk with
  | none =>
    cases hk'
    exact Option.Rel.none
  | some hr =>
    cases hk' with
    | some hr' => exact Option.Rel.some (hR _ _ _ hr hr')

/-- Updating one value relates a dictionary to the result. -/
theorem rel_modify (hR : ∀ v, R v v) (d : Dict κ ν) (k : κ) {f : ν → ν}
    (hf : ∀ v, d.get? k = some v → R v (f v)) : Rel R d (d.modify k f) := by
  intro j
  rw [get?_modify]
  split
  · rename_i heq
    subst heq
    cases hv : d.get? k with
    | none => exact Option.Rel.none
    | some v => exact Option.Rel.some (hf v hv)
  · exact rel_refl hR d j

/-- Replacing one present value relates a dictionary to the result. -/
theorem rel_set (hR : ∀ v, R v v) {v w : ν} (hv : d.get? k = some v) (h : R v w) :
    Rel R d (d.set k w) := by
  intro j
  rw [get?_set]
  split
  · rename_i heq
    subst heq
    rw [hv]
    exact Option.Rel.some h
  · exact rel_refl hR d j

variable {f : ν → μ}

/-- A function that cannot tell related values apart gives equivalent dictionaries. -/
theorem Rel.mapValues (h : Rel R d₁ d₂) (hf : ∀ v w, R v w → f v = f w) :
    Equiv (d₁.mapValues f) (d₂.mapValues f) := by
  intro k
  rw [get?_mapValues, get?_mapValues]
  have hk := h k
  generalize d₁.get? k = o₁ at hk ⊢
  generalize d₂.get? k = o₂ at hk ⊢
  cases hk with
  | none => rfl
  | some hr => exact congrArg some (hf _ _ hr)

/-- Related dictionaries list the same images of their values, in some order. -/
theorem Rel.map_values_perm (h : Rel R d₁ d₂) (hf : ∀ v w, R v w → f v = f w) :
    (d₁.values.map f).Perm (d₂.values.map f) := by
  have hperm := (h.mapValues hf).items_perm.map Prod.snd
  have hvalues (d : Dict κ ν) : (d.mapValues f).items.map Prod.snd = d.values.map f := by
    show (d.items.map (fun e => (e.1, f e.2))).map Prod.snd = (d.items.map Prod.snd).map f
    rw [map_map, map_map]
    rfl
  rwa [hvalues, hvalues] at hperm

theorem Equiv.getD_eq (h : Equiv d₁ d₂) (k : κ) (v : ν) : d₁.getD k v = d₂.getD k v := by
  rw [getD, getD, h k]

end Relation

section Sorted

variable [LinearOrder κ] {R : ν → ν → Prop} {d₁ d₂ : Dict κ ν}

@[simp] theorem mem_sortedKeys : k ∈ d.sortedKeys ↔ k ∈ d.keys :=
  mem_sortBy id

/-- **Sorted iteration forgets insertion order.** -/
theorem Rel.sortedKeys_eq (h : Rel R d₁ d₂) : d₁.sortedKeys = d₂.sortedKeys :=
  sortBy_eq_of_perm id h.keys_perm (fun _ _ _ _ e => e)

end Sorted

/-! ## Sums over the values -/

section Total

variable [DecidableEq κ] {M : Type} [AddCommGroup M]

/-- The sum of a measure over all values. -/
def total (f : ν → M) (d : Dict κ ν) : M := (d.values.map f).sum

theorem sum_assocSet (f : ν → M) (w : ν) (h : assocGet k l = some v) :
    ((assocSet k w l).map (fun e => f e.2)).sum = (l.map (fun e => f e.2)).sum - f v + f w := by
  induction l with
  | nil => cases h
  | cons e l ih =>
    obtain ⟨k', v'⟩ := e
    by_cases hk : k' = k
    · rw [assocGet, if_pos hk] at h
      cases h
      simp only [assocSet, if_pos hk, map_cons, sum_cons]
      abel
    · rw [assocGet, if_neg hk] at h
      simp only [assocSet, if_neg hk, map_cons, sum_cons, ih h]
      abel

/-- **Updating one value changes the total by what that value changes.** -/
theorem total_modify (f : ν → M) (h : d.get? k = some v) (g : ν → ν) :
    (d.modify k g).total f = d.total f - f v + f (g v) := by
  unfold modify total values
  rw [h, map_map, map_map]
  exact sum_assocSet f (g v) h

/-- Related values of equal measure have equal totals. -/
theorem Rel.total_eq {R : ν → ν → Prop} (h : Rel R d₁ d₂) {f : ν → M}
    (hf : ∀ v w, R v w → f v = f w) : d₁.total f = d₂.total f :=
  (h.map_values_perm hf).sum_eq

end Total

end Dict

end Foundation
