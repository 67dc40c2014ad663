/-
# Following a partial function

From an element a partial function leads to the next one, until it has none.  The elements met on
the way form a trail, which is finite exactly when nothing is met twice: a bounded walk that keeps
what it visited finds a repetition exactly on the way to a cycle.
-/
import Mathlib.Data.List.Perm.Subperm

namespace Foundation

variable {α : Type} (next : α → Option α)

/-- One step of the partial function. -/
def Leads (a b : α) : Prop := next a = some b

/-- What is met from an element up to one that leads nowhere. -/
inductive Trail : α → List α → Prop
  | nil {a : α} (h : next a = none) : Trail a []
  | cons {a b : α} {l : List α} (h : next a = some b) (rest : Trail b l) : Trail a (b :: l)

/-- The elements met from an element, a bounded number of them. -/
def follow : ℕ → α → List α
  | 0, _ => []
  | fuel + 1, a =>
    match next a with
    | none => []
    | some b => b :: follow fuel b

/-- A bounded walk meets an element twice, or runs out of fuel. -/
def revisits [DecidableEq α] : ℕ → List α → α → Bool
  | 0, _, _ => true
  | fuel + 1, visited, a =>
    match next a with
    | none => false
    | some b => if a ∈ visited then true else revisits fuel (a :: visited) b

variable {next}

/-! ## Trails -/

variable {a : α}

theorem Trail.unique {l l' : List α} (h : Trail next a l) (h' : Trail next a l') : l = l' := by
  induction h generalizing l' with
  | nil hnone =>
    cases h' with
    | nil _ => rfl
    | cons hsome _ => exact absurd (hnone.symm.trans hsome) nofun
  | cons hsome _ ih =>
    cases h' with
    | nil hnone => exact absurd (hnone.symm.trans hsome) nofun
    | cons hsome' rest' =>
      obtain rfl := Option.some.inj (hsome.symm.trans hsome')
      rw [ih rest']

variable {l : List α}

/-- What lies ahead on a trail has a shorter one. -/
theorem Trail.shorter {a b : α} (h : Trail next a l) (hab : Relation.TransGen (Leads next) a b) :
    ∃ l', Trail next b l' ∧ l'.length < l.length := by
  induction hab with
  | single hstep =>
    cases h with
    | nil hnone => exact absurd (hnone.symm.trans hstep) nofun
    | cons hsome rest =>
      obtain rfl := Option.some.inj (hsome.symm.trans hstep)
      exact ⟨_, rest, Nat.lt_succ_self _⟩
  | tail _ hstep ih =>
    obtain ⟨l', hl', hlt⟩ := ih
    cases hl' with
    | nil hnone => exact absurd (hnone.symm.trans hstep) nofun
    | cons hsome rest =>
      obtain rfl := Option.some.inj (hsome.symm.trans hstep)
      refine ⟨_, rest, ?_⟩
      rw [List.length_cons] at hlt
      omega

/-- An element with a trail lies on no cycle. -/
theorem Trail.acyclic (h : Trail next a l) : ¬Relation.TransGen (Leads next) a a := by
  intro hcycle
  obtain ⟨l', hl', hlt⟩ := h.shorter hcycle
  rw [h.unique hl'] at hlt
  omega

variable {fuel : ℕ}

/-- Enough fuel follows a trail to its end. -/
theorem Trail.follow_eq (h : Trail next a l) (hfuel : l.length ≤ fuel) :
    follow next fuel a = l := by
  induction h generalizing fuel with
  | nil hnone =>
    cases fuel with
    | zero => rfl
    | succ fuel => rw [follow, hnone]
  | cons hsome _ ih =>
    cases fuel with
    | zero => simp at hfuel
    | succ fuel =>
      rw [follow, hsome]
      dsimp only
      rw [ih (by simpa using hfuel)]

/-! ## Walks -/

section Walks

variable [DecidableEq α]

variable {visited : List α}

/-- A walk that meets nothing twice reaches the end of a trail. -/
theorem exists_trail (h : revisits next fuel visited a = false) :
    ∃ l, Trail next a l ∧ l.length < fuel := by
  induction fuel generalizing visited a with
  | zero => cases h
  | succ fuel ih =>
    rw [revisits] at h
    cases hnext : next a with
    | none => exact ⟨[], .nil hnext, Nat.succ_pos _⟩
    | some b =>
      rw [hnext] at h
      dsimp only at h
      split at h
      · cases h
      · obtain ⟨l, hl, hlt⟩ := ih h
        exact ⟨b :: l, .cons hnext hl, Nat.succ_lt_succ hlt⟩

/-- **Without a cycle a walk meets nothing twice**, and the elements that lead on bound it. -/
theorem revisits_eq_false {domain : List α} (hdomain : ∀ a b, next a = some b → a ∈ domain)
    (hacyclic : ∀ a, ¬Relation.TransGen (Leads next) a a) (hnodup : visited.Nodup)
    (hvisited : ∀ v ∈ visited, Relation.TransGen (Leads next) v a)
    (hfuel : domain.length < fuel + visited.length) : revisits next fuel visited a = false := by
  induction fuel generalizing visited a with
  | zero =>
    -- more elements were visited than there are
    have hsub : visited ⊆ domain := by
      intro v hv
      obtain ⟨b, hstep, -⟩ := Relation.TransGen.head'_iff.1 (hvisited v hv)
      exact hdomain v b hstep
    have hle := (List.subperm_of_subset hnodup hsub).length_le
    omega
  | succ fuel ih =>
    rw [revisits]
    cases hnext : next a with
    | none => rfl
    | some b =>
      have hnew : a ∉ visited := fun hmem => hacyclic a (hvisited a hmem)
      dsimp only
      rw [if_neg hnew]
      apply ih
      · exact List.nodup_cons.2 ⟨hnew, hnodup⟩
      · intro v hv
        rcases List.mem_cons.1 hv with rfl | hv
        · exact .single hnext
        · exact (hvisited v hv).tail hnext
      · rw [List.length_cons]
        omega

end Walks

end Foundation
