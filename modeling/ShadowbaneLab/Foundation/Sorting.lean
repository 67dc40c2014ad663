/-
# Stable sorting by a key

The reference simulator leans on one library routine of its host language: a stable
sort by a key drawn from a linear order.  `sortBy` is that routine, in a form that
evaluates by structural recursion, together with the facts its callers need:

* a sort is a permutation of its input (`sortBy_perm`) with increasing keys
  (`pairwise_sortBy`);
* if the key separates the members, the sort does not depend on the order in which
  they were listed (`sortBy_eq_of_perm`);
* `sortedSet` lists a finite set in increasing order.
-/
import Mathlib.Data.List.Sort
import Mathlib.Data.Finset.Basic

namespace Foundation

variable {α β κ : Type}

/-! ## Sorting a list by a key -/

/-- The stable sort of `l` by `key`: members with equal keys keep their order. -/
def sortBy [LinearOrder κ] (key : α → κ) (l : List α) : List α :=
  l.insertionSort (fun a b => key a ≤ key b)

section SortBy

variable [LinearOrder κ] (key : α → κ)

instance keyOrder_total : Std.Total (fun a b : α => key a ≤ key b) :=
  ⟨fun a b => le_total (key a) (key b)⟩

instance keyOrder_trans : IsTrans α (fun a b : α => key a ≤ key b) :=
  ⟨fun _ _ _ => le_trans⟩

@[simp] theorem sortBy_nil : sortBy key [] = [] := rfl

theorem sortBy_perm (l : List α) : (sortBy key l).Perm l :=
  List.perm_insertionSort _ l

variable {l : List α}

@[simp] theorem mem_sortBy {a : α} : a ∈ sortBy key l ↔ a ∈ l :=
  (sortBy_perm key l).mem_iff

@[simp] theorem length_sortBy (l : List α) : (sortBy key l).length = l.length :=
  (sortBy_perm key l).length_eq

theorem pairwise_sortBy (l : List α) :
    (sortBy key l).Pairwise (fun a b => key a ≤ key b) :=
  List.pairwise_insertionSort _ l

theorem nodup_sortBy (h : l.Nodup) : (sortBy key l).Nodup :=
  (sortBy_perm key l).nodup_iff.mpr h

variable {l₁ l₂ : List α}

/-- Two key-increasing listings of the same members agree as soon as the key
separates those members. -/
theorem eq_of_perm_of_pairwise (hp : l₁.Perm l₂) (hinj : ∀ a ∈ l₁, ∀ b ∈ l₁, key a = key b → a = b)
    (h₁ : l₁.Pairwise (fun a b => key a ≤ key b)) (h₂ : l₂.Pairwise (fun a b => key a ≤ key b)) :
    l₁ = l₂ := by
  apply hp.eq_of_pairwise _ h₁ h₂
  intro a b ha hb hab hba
  exact hinj a ha b (hp.mem_iff.mpr hb) (le_antisymm hab hba)

/-- **Sorting forgets the listing order** when the key separates the members. -/
theorem sortBy_eq_of_perm (hp : l₁.Perm l₂) (hinj : ∀ a ∈ l₁, ∀ b ∈ l₁, key a = key b → a = b) :
    sortBy key l₁ = sortBy key l₂ := by
  apply eq_of_perm_of_pairwise key
  · exact (sortBy_perm key l₁).trans (hp.trans (sortBy_perm key l₂).symm)
  · intro a ha b hb
    exact hinj a ((mem_sortBy key).mp ha) b ((mem_sortBy key).mp hb)
  · exact pairwise_sortBy key l₁
  · exact pairwise_sortBy key l₂

/-- Sorting a list that is already in order changes nothing. -/
theorem sortBy_eq_self (h : l.Pairwise (fun a b => key a ≤ key b)) : sortBy key l = l :=
  List.Pairwise.insertionSort_eq h

@[simp] theorem sortBy_sortBy (l : List α) : sortBy key (sortBy key l) = sortBy key l :=
  sortBy_eq_self key (pairwise_sortBy key l)

/-- Sorting commutes with a map that keeps the keys. -/
theorem map_sortBy {key' : β → κ} (f : α → β) (hf : ∀ a, key' (f a) = key a) (l : List α) :
    (sortBy key l).map f = sortBy key' (l.map f) := by
  apply List.map_insertionSort
  intro a _ b _
  rw [hf, hf]

end SortBy

/-! ## Listing a finite set -/

/-- The members of a finite set in increasing order. -/
def sortedSet [LinearOrder α] (s : Finset α) : List α :=
  Quot.liftOn s.val (sortBy id) (fun _ _ h => sortBy_eq_of_perm id h (fun _ _ _ _ e => e))

section SortedSet

variable [LinearOrder α] (s : Finset α)

theorem coe_sortedSet : (sortedSet s : Multiset α) = s.val := by
  unfold sortedSet
  induction s.val using Quot.ind with
  | mk l => exact Multiset.coe_eq_coe.mpr (sortBy_perm id l)

@[simp] theorem mem_sortedSet {a : α} : a ∈ sortedSet s ↔ a ∈ s := by
  rw [← Multiset.mem_coe, coe_sortedSet, Finset.mem_val]

theorem nodup_sortedSet : (sortedSet s).Nodup := by
  rw [← Multiset.coe_nodup, coe_sortedSet]
  exact s.nodup

theorem pairwise_sortedSet : (sortedSet s).Pairwise (fun a b => id a ≤ id b) := by
  unfold sortedSet
  induction s.val using Quot.ind with
  | mk l => exact pairwise_sortBy id l

end SortedSet

end Foundation
