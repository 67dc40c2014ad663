/-
# The best of each place

Elements arrive one after the other, or are turned away; each has a place and a rank, and a place
keeps the first of its elements that has the least rank.  What is kept does not depend on the order of arrival, as far
as some view of the elements goes, if and only if the elements of least rank of a place look the
same (`elites_agree_iff`).
-/
import Mathlib.Data.List.MinMax
import ShadowbaneLab.Foundation.Dict

namespace Foundation

variable {α β κ ι : Type} [DecidableEq κ] [LinearOrder ι] {place : α → κ} {rank : α → ι}

/-- The element takes its place, unless one that is as good is there. -/
def Dict.challenge (place : α → κ) (rank : α → ι) (d : Dict κ α) (a : α) : Dict κ α :=
  match d.get? (place a) with
  | none => d.set (place a) a
  | some held => if rank a < rank held then d.set (place a) a else d

/-- What is kept of a list of elements. -/
def elites (place : α → κ) (rank : α → ι) (l : List α) : Dict κ α :=
  l.foldl (Dict.challenge place rank) .empty

/-- The first of the elements of a list that has the least rank. -/
def leastBy (rank : α → ι) (l : List α) : Option α := l.argmin rank

variable {l : List α}

theorem leastBy_eq_none : leastBy rank l = none ↔ l = [] := List.argmin_eq_none

variable {a : α}

theorem mem_of_leastBy (h : leastBy rank l = some a) : a ∈ l :=
  List.argmin_mem h

theorem le_of_leastBy {a b : α} (hb : b ∈ l) (h : leastBy rank l = some a) : rank a ≤ rank b :=
  List.le_of_mem_argmin hb h

/-! ## One challenge -/

variable {k : κ}

/-- Other places are left alone. -/
theorem Dict.get?_challenge_ne (d : Dict κ α) (h : place a ≠ k) :
    (d.challenge place rank a).get? k = d.get? k := by
  unfold Dict.challenge
  split
  · exact d.get?_set_ne a h
  · split
    · exact d.get?_set_ne a h
    · rfl

theorem Dict.get?_challenge_self (d : Dict κ α) (a : α) :
    (d.challenge place rank a).get? (place a) = match d.get? (place a) with
      | none => some a
      | some held => if rank a < rank held then some a else some held := by
  unfold Dict.challenge
  cases hheld : d.get? (place a) with
  | none => exact d.get?_set_self (place a) a
  | some held =>
    dsimp only
    split
    · exact d.get?_set_self (place a) a
    · exact hheld

/-- A place never gets worse. -/
theorem Dict.rank_challenge_le (d : Dict κ α) (a : α) {held : α} (h : d.get? k = some held) :
    ∃ held', (d.challenge place rank a).get? k = some held' ∧ rank held' ≤ rank held := by
  rcases ne_or_eq (place a) k with hne | rfl
  · exact ⟨held, (d.get?_challenge_ne hne).trans h, le_rfl⟩
  · rw [d.get?_challenge_self, h]
    dsimp only
    split
    case isTrue hlt => exact ⟨a, rfl, hlt.le⟩
    case isFalse => exact ⟨held, rfl, le_rfl⟩

/-! ## A list of elements -/

/-- A place holds the first of its elements that has the least rank. -/
theorem get?_elites (l : List α) (k : κ) :
    (elites place rank l).get? k = leastBy rank (l.filter fun a => place a = k) := by
  induction l using List.reverseRecOn with
  | nil => rfl
  | append_singleton l a ih =>
    rw [elites, List.foldl_concat, List.filter_append]
    change (Dict.challenge place rank (elites place rank l) a).get? k = _
    rcases ne_or_eq (place a) k with hne | rfl
    · rw [Dict.get?_challenge_ne _ hne, ih, List.filter_singleton, decide_eq_false hne]
      exact congrArg _ (List.append_nil _).symm
    · rw [Dict.get?_challenge_self, ih, List.filter_singleton, decide_eq_true rfl]
      change _ = leastBy rank (_ ++ [a])
      rw [leastBy, leastBy, List.argmin_concat]
      cases (l.filter fun b => place b = place a).argmin rank <;> rfl

/-- An element of a list is one of the least rank of its place. -/
structure Elite (place : α → κ) (rank : α → ι) (l : List α) (a : α) : Prop where
  mem : a ∈ l
  le : ∀ b ∈ l, place b = place a → rank a ≤ rank b

theorem Elite.of_get? (h : (elites place rank l).get? k = some a) :
    Elite place rank l a ∧ place a = k := by
  rw [get?_elites] at h
  obtain ⟨hmem, hplace⟩ := List.mem_filter.1 (mem_of_leastBy h)
  rw [decide_eq_true_eq] at hplace
  refine ⟨⟨hmem, fun b hb hsame => ?_⟩, hplace⟩
  exact le_of_leastBy (List.mem_filter.2 ⟨hb, decide_eq_true (hsame.trans hplace)⟩) h

/-- The place of an element is taken. -/
theorem exists_get?_elites (h : a ∈ l) : ∃ b, (elites place rank l).get? (place a) = some b := by
  rw [get?_elites, ← Option.ne_none_iff_exists']
  intro hnone
  have hnil := leastBy_eq_none.1 hnone
  exact List.ne_nil_of_mem (List.mem_filter.2 ⟨h, decide_eq_true rfl⟩) hnil

/-- An element of least rank that arrives first is kept. -/
theorem Elite.get?_cons (h : Elite place rank (a :: l) a) :
    (elites place rank (a :: l)).get? (place a) = some a := by
  rw [get?_elites, List.filter_cons, if_pos (decide_eq_true rfl), leastBy, List.argmin_cons]
  cases hrest : (l.filter fun b => place b = place a).argmin rank with
  | none => rfl
  | some b =>
    obtain ⟨hmem, hplace⟩ := List.mem_filter.1 (List.argmin_mem hrest)
    dsimp only
    rw [if_neg]
    exact not_lt.2 (h.le b (List.mem_cons_of_mem a hmem) (of_decide_eq_true hplace))

omit [DecidableEq κ] in
theorem Elite.perm {l l' : List α} (h : Elite place rank l a) (hperm : l.Perm l') :
    Elite place rank l' a :=
  ⟨hperm.mem_iff.1 h.mem, fun b hb => h.le b (hperm.mem_iff.2 hb)⟩

/-! ## Arrivals -/

variable {γ : Type} {propose : γ → Option α}

/-- Some order of arrival makes a place keep a given element of least rank. -/
theorem Elite.exists_perm {l : List γ} (h : Elite place rank (l.filterMap propose) a) :
    ∃ l' : List γ, l'.Perm l ∧ (elites place rank (l'.filterMap propose)).get? (place a) = some a := by
  obtain ⟨x, hx, hpropose⟩ := List.mem_filterMap.1 h.mem
  obtain ⟨before, after, rfl⟩ := List.append_of_mem hx
  have hperm : (before ++ x :: after).Perm (x :: (before ++ after)) := List.perm_middle
  refine ⟨_, hperm.symm, ?_⟩
  have hfirst := h.perm (hperm.filterMap propose)
  rw [List.filterMap_cons, hpropose] at hfirst ⊢
  exact hfirst.get?_cons

/-- **The order of arrival does not matter** for a view of what is kept, if and only if elements
of least rank of one place look the same. -/
theorem elites_agree_iff {view : α → β} {l : List γ} :
    (∀ l₁ l₂ : List γ, l₁.Perm l → l₂.Perm l →
      ((elites place rank (l₁.filterMap propose)).mapValues view).Equiv
        ((elites place rank (l₂.filterMap propose)).mapValues view)) ↔
    ∀ a b, Elite place rank (l.filterMap propose) a → Elite place rank (l.filterMap propose) b →
      place a = place b → view a = view b := by
  constructor
  · intro h a b ha hb hplace
    obtain ⟨l₁, hperm₁, hget₁⟩ := ha.exists_perm
    obtain ⟨l₂, hperm₂, hget₂⟩ := hb.exists_perm
    have hagree := h l₁ l₂ hperm₁ hperm₂ (place a)
    rw [Dict.get?_mapValues, Dict.get?_mapValues, hget₁, hplace, hget₂] at hagree
    exact Option.some.inj hagree
  · intro h l₁ l₂ hperm₁ hperm₂ k
    rw [Dict.get?_mapValues, Dict.get?_mapValues]
    -- both lists take the same places, with elements that look the same
    have htaken {l' l'' : List γ} (hl' : l'.Perm l) (hl'' : l''.Perm l) {a : α}
        (hget : (elites place rank (l'.filterMap propose)).get? k = some a) :
        ∃ b, (elites place rank (l''.filterMap propose)).get? k = some b ∧ view a = view b := by
      obtain ⟨ha, rfl⟩ := Elite.of_get? hget
      have hmem : a ∈ l''.filterMap propose :=
        ((hl'.trans hl''.symm).filterMap propose).mem_iff.1 ha.mem
      obtain ⟨b, hb⟩ : ∃ b, (elites place rank (l''.filterMap propose)).get? (place a) = some b :=
        exists_get?_elites hmem
      obtain ⟨helite, hplace⟩ := Elite.of_get? hb
      refine ⟨b, hb, h a b (ha.perm (hl'.filterMap propose)) ?_ hplace.symm⟩
      exact helite.perm (hl''.filterMap propose)
    cases hget₁ : (elites place rank (l₁.filterMap propose)).get? k with
    | some a =>
      obtain ⟨b, hb, hview⟩ := htaken hperm₁ hperm₂ hget₁
      rw [hb]
      exact congrArg some hview
    | none =>
      cases hget₂ : (elites place rank (l₂.filterMap propose)).get? k with
      | none => rfl
      | some b =>
        obtain ⟨a, ha, -⟩ := htaken hperm₂ hperm₁ hget₂
        exact absurd (hget₁.symm.trans ha) (Option.some_ne_none a).symm

end Foundation
