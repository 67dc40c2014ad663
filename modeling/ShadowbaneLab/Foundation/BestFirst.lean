/-
# Best-first search with re-opening

The tables of a search over a graph with positive weights: the cheapest cost found so far
for each node, the node it was found from, and an open list ordered by cost plus an
estimate.  Relaxing an edge may improve the cost of a node that was expanded before, which
opens the node again; outdated entries stay on the open list.

The invariant `Labels.Sound` says that every labelled node is open, or all its edges are
relaxed.  From it follow

* that the table of parents leads every labelled node back to the start, along a walk that
  costs no more than its label (`Sound.exists_trace`);
* that for every walk to a node where the search stops, the open list has an entry whose
  priority is at most `weight` times the cost of the walk, when the estimate is consistent
  up to that factor (`Sound.exists_open`).
-/
import Mathlib.Data.Finset.Card
import Mathlib.Data.Prod.Lex
import Mathlib.Tactic.Linarith
import ShadowbaneLab.Foundation.Dict

namespace Foundation

variable {V K : Type} [DecidableEq V] [CommRing K] [LinearOrder K]

/-! ## The tables -/

/-- An entry of the open list. -/
structure OpenEntry (V K : Type) where
  priority : K
  order : ℕ
  node : V

/-- Entries are taken by priority, then in the order they were pushed. -/
def OpenEntry.key (entry : OpenEntry V K) : K ×ₗ ℕ := toLex (entry.priority, entry.order)

/-- The tables of a search. -/
structure Labels (V K : Type) where
  frontier : List (OpenEntry V K)
  order : ℕ
  cameFrom : Dict V V
  costSoFar : Dict V K

namespace Labels

/-- Only the start is labelled, and open. -/
def init (start : V) : Labels V K where
  frontier := [⟨0, 0, start⟩]
  order := 0
  cameFrom := ∅
  costSoFar := Dict.empty.set start 0

/-- Take the first entry off the open list. -/
def pop (labels : Labels V K) : Option (OpenEntry V K × Labels V K) :=
  match sortBy OpenEntry.key labels.frontier with
  | [] => none
  | entry :: rest => some (entry, { labels with frontier := rest })

/-- Label a node with a cost and the node it was found from, and open it. -/
def label (node parent : V) (cost priority : K) (labels : Labels V K) : Labels V K where
  frontier := labels.frontier ++ [⟨priority, labels.order + 1, node⟩]
  order := labels.order + 1
  cameFrom := labels.cameFrom.set node parent
  costSoFar := labels.costSoFar.set node cost

/-- Relax an edge of a node; there is no answer if the node has no label. -/
def relax (estimate : V → K) (current : V) (labels : Labels V K) (edge : V × K) :
    Option (Labels V K) := do
  let cost ← labels.costSoFar.get? current
  let newCost := cost + edge.2
  if (labels.costSoFar.get? edge.1).any (fun known => known ≤ newCost) then pure labels
  else pure (labels.label edge.1 current newCost (newCost + estimate edge.1))

/-- Relax edges of a node, one after the other. -/
def expand (estimate : V → K) (current : V) (edges : List (V × K)) (labels : Labels V K) :
    Option (Labels V K) :=
  edges.foldlM (relax estimate current) labels

/-- Follow the parents of a node back to the start, for at most `fuel` nodes. -/
def trace (cameFrom : Dict V V) (start : V) : ℕ → V → Option (List V)
  | 0, _ => none
  | fuel + 1, node =>
    if node = start then some [start]
    else do
      let parent ← cameFrom.get? node
      let path ← trace cameFrom start fuel parent
      pure (path ++ [node])

end Labels

/-! ## Walks -/

/-- A walk from the start: the nodes it visits, the last of them, and its cost. -/
inductive Walk (successors : V → List (V × K)) (start : V) : List V → V → K → Prop
  | nil : Walk successors start [start] start 0
  | snoc {path : List V} {node next : V} {cost weight : K}
      (walk : Walk successors start path node cost) (edge : (next, weight) ∈ successors node) :
      Walk successors start (path ++ [next]) next (cost + weight)

/-! ## The invariant -/

/-- What the search relies on: positive weights and an estimate that is never negative. -/
structure Estimated (successors : V → List (V × K)) (estimate : V → K) : Prop where
  positive : ∀ node, ∀ edge ∈ successors node, 0 < edge.2
  nonneg : ∀ node, 0 ≤ estimate node

namespace Labels

variable (successors : V → List (V × K)) (start : V) (estimate : V → K) (stops : V → Prop)

/-- A node with a given cost is open. -/
def Opened (labels : Labels V K) (node : V) (cost : K) : Prop :=
  ∃ entry ∈ labels.frontier, entry.node = node ∧ entry.priority ≤ cost + estimate node

/-- An edge of a node with a given cost needs no relaxation. -/
def Relaxed (labels : Labels V K) (cost : K) (edge : V × K) : Prop :=
  ∃ known, labels.costSoFar.get? edge.1 = some known ∧ known ≤ cost + edge.2

/-- The invariant of a search, with some edges still to be relaxed. -/
structure Sound (pending : V → V × K → Prop) (labels : Labels V K) : Prop where
  rooted : labels.costSoFar.get? start = some 0
  nonneg : ∀ node cost, labels.costSoFar.get? node = some cost → 0 ≤ cost
  covered : ∀ node cost, labels.costSoFar.get? node = some cost →
    labels.Opened estimate node cost ∨
      ¬stops node ∧ ∀ edge ∈ successors node, pending node edge ∨ labels.Relaxed cost edge
  queued : ∀ entry ∈ labels.frontier,
    ∃ cost, labels.costSoFar.get? entry.node = some cost ∧ cost ≤ entry.priority
  found : ∀ node cost, labels.costSoFar.get? node = some cost → node = start ∨
    ∃ parent known weight, labels.cameFrom.get? node = some parent ∧
      labels.costSoFar.get? parent = some known ∧ (node, weight) ∈ successors parent ∧
        known + weight ≤ cost
  labelled : ∀ node parent, labels.cameFrom.get? node = some parent →
    ∃ cost, labels.costSoFar.get? node = some cost

/-- Nothing is left to relax. -/
def nothing : V → V × K → Prop := fun _ _ => False

variable {successors start estimate stops}

/-! ### Taking a node -/

variable {labels labels' : Labels V K}

variable {entry : OpenEntry V K}

omit [DecidableEq V] [CommRing K] in
theorem pop_eq_some (h : labels.pop = some (entry, labels')) :
    entry ∈ labels.frontier ∧ (∀ other ∈ labels.frontier, entry.priority ≤ other.priority) ∧
      ∃ rest, labels' = { labels with frontier := rest } ∧
        ∀ other, other ∈ labels.frontier ↔ other = entry ∨ other ∈ rest := by
  unfold pop at h
  split at h
  · cases h
  · rename_i first rest hsorted
    cases h
    have hmem (other : OpenEntry V K) : other ∈ labels.frontier ↔ other = entry ∨ other ∈ rest := by
      rw [← mem_sortBy OpenEntry.key, hsorted, List.mem_cons]
    refine ⟨(hmem entry).mpr (.inl rfl), ?_, rest, rfl, hmem⟩
    intro other hother
    have hpairwise := pairwise_sortBy OpenEntry.key labels.frontier
    rw [hsorted, List.pairwise_cons] at hpairwise
    rcases (hmem other).mp hother with rfl | hrest
    · exact le_refl _
    · have hkey := hpairwise.1 other hrest
      rcases Prod.Lex.le_iff.mp hkey with hlt | ⟨heq, _⟩
      · exact le_of_lt hlt
      · exact le_of_eq heq

variable {labels : Labels V K}

omit [DecidableEq V] [CommRing K] in
theorem pop_eq_none (h : labels.pop = none) : labels.frontier = [] := by
  unfold pop at h
  split at h
  · rename_i hsorted
    have hlength := congrArg List.length hsorted
    rw [length_sortBy] at hlength
    exact List.length_eq_zero_iff.mp hlength
  · cases h

/-- Taking a node at which the search does not stop leaves its edges to be relaxed. -/
theorem Sound.pop (h : labels.Sound successors start estimate stops nothing)
    (hpop : labels.pop = some (entry, labels')) (hgo : ¬stops entry.node) :
    labels'.Sound successors start estimate stops
      (fun node edge => node = entry.node ∧ edge ∈ successors entry.node) := by
  obtain ⟨_, _, rest, rfl, hmem⟩ := pop_eq_some hpop
  refine ⟨h.rooted, h.nonneg, ?_, ?_, h.found, h.labelled⟩
  · intro node cost hget
    by_cases hnode : node = entry.node
    · subst hnode
      exact .inr ⟨hgo, fun edge hedge => .inl ⟨rfl, hedge⟩⟩
    · rcases h.covered node cost hget with ⟨other, hother, hsame, hle⟩ | ⟨hgo', hedges⟩
      · rcases (hmem other).mp hother with rfl | hrest
        · exact absurd hsame.symm hnode
        · exact .inl ⟨other, hrest, hsame, hle⟩
      · refine .inr ⟨hgo', fun edge hedge => .inr ?_⟩
        exact (hedges edge hedge).resolve_left id
  · exact fun other hother => h.queued other ((hmem other).mpr (.inr hother))

/-! ### Relaxing an edge -/

variable {edge : V × K}

/-- Labelling a node with a cost below its old one keeps relaxed edges relaxed. -/
theorem Relaxed.label {node parent : V} {cost newCost priority : K} (h : labels.Relaxed cost edge)
    (hless : ∀ known, labels.costSoFar.get? node = some known → newCost < known) :
    (labels.label node parent newCost priority).Relaxed cost edge := by
  obtain ⟨known, hget, hle⟩ := h
  by_cases hnode : node = edge.1
  · subst hnode
    exact ⟨newCost, Dict.get?_set_self _ _ _, (le_of_lt (hless known hget)).trans hle⟩
  · exact ⟨known, (Dict.get?_set_ne _ _ hnode).trans hget, hle⟩

variable {current : V} {cost : K}

/-- A labelled node stays labelled when an edge is relaxed, and the relaxation succeeds. -/
theorem relax_isSome (h : labels.costSoFar.get? current = some cost) (edge : V × K) :
    ∃ labels', labels.relax estimate current edge = some labels' := by
  unfold Labels.relax
  rw [h]
  simp only [Option.bind_eq_bind, Option.bind_some]
  split <;> exact ⟨_, rfl⟩

theorem relax_labelled {current node : V}
    (hrelax : labels.relax estimate current edge = some labels')
    (h : labels.costSoFar.get? node = some cost) :
    ∃ cost', labels'.costSoFar.get? node = some cost' := by
  unfold Labels.relax at hrelax
  cases hcurrent : labels.costSoFar.get? current with
  | none =>
    rw [hcurrent] at hrelax
    cases hrelax
  | some known =>
    rw [hcurrent] at hrelax
    simp only [Option.bind_eq_bind, Option.bind_some] at hrelax
    split at hrelax
    · cases hrelax
      exact ⟨cost, h⟩
    · cases hrelax
      show ∃ cost', (labels.costSoFar.set edge.1 _).get? node = some cost'
      rw [Dict.get?_set]
      split
      · exact ⟨_, rfl⟩
      · exact ⟨cost, h⟩

theorem sound_init (h : Estimated successors estimate) :
    (init start : Labels V K).Sound successors start estimate stops nothing := by
  have hcost {node : V} {cost : K} (hget : (init start).costSoFar.get? node = some cost) :
      node = start ∧ cost = 0 := by
    have hset : ((Dict.empty : Dict V K).set start 0).get? node = some cost := hget
    rw [Dict.get?_set] at hset
    split at hset
    · rename_i heq
      cases hset
      exact ⟨heq.symm, rfl⟩
    · cases hset
  refine ⟨Dict.get?_set_self _ _ _, ?_, ?_, ?_, ?_, ?_⟩
  · intro node cost hget
    rw [(hcost hget).2]
  · intro node cost hget
    obtain ⟨rfl, rfl⟩ := hcost hget
    refine .inl ⟨⟨0, 0, node⟩, List.mem_singleton_self _, rfl, ?_⟩
    rw [zero_add]
    exact h.nonneg node
  · intro entry hentry
    obtain rfl := List.mem_singleton.mp hentry
    exact ⟨0, Dict.get?_set_self _ _ _, le_refl 0⟩
  · exact fun node cost hget => .inl (hcost hget).1
  · intro node parent hget
    cases hget

section Ordered

variable [IsStrictOrderedRing K]

/-- **Relaxing an edge keeps a search sound.** -/
theorem Sound.relax {rest : List (V × K)} (hest : Estimated successors estimate)
    (h : labels.Sound successors start estimate stops
      (fun node other => node = current ∧ other ∈ edge :: rest))
    (hedge : edge ∈ successors current) (hrelax : labels.relax estimate current edge = some labels')
    :
    labels'.Sound successors start estimate stops
      (fun node other => node = current ∧ other ∈ rest) := by
  unfold Labels.relax at hrelax
  cases hcurrent : labels.costSoFar.get? current with
  | none =>
    rw [hcurrent] at hrelax
    cases hrelax
  | some cost =>
    have hweight := hest.positive current edge hedge
    have hcost := h.nonneg current cost hcurrent
    rw [hcurrent] at hrelax
    simp only [Option.bind_eq_bind, Option.bind_some] at hrelax
    split at hrelax
    · -- the edge leads to a node that is labelled at least as well
      rename_i hknown
      rw [Option.any_eq_true] at hknown
      obtain ⟨known, hget, hle⟩ := hknown
      rw [decide_eq_true_eq] at hle
      cases hrelax
      refine ⟨h.rooted, h.nonneg, ?_, h.queued, h.found, h.labelled⟩
      intro node cost' hnode
      refine (h.covered node cost' hnode).imp_right (And.imp_right ?_)
      intro hedges other hother
      rcases hedges other hother with ⟨rfl, hpending⟩ | hrelaxed
      · rcases List.mem_cons.mp hpending with rfl | hrest
        · obtain rfl : cost = cost' := Option.some.inj (hcurrent.symm.trans hnode)
          exact .inr ⟨known, hget, hle⟩
        · exact .inl ⟨rfl, hrest⟩
      · exact .inr hrelaxed
    · rename_i hknown
      cases hrelax
      have hless : ∀ known, labels.costSoFar.get? edge.1 = some known → cost + edge.2 < known := by
        intro known hget
        rw [hget, Option.any_some, decide_eq_true_eq, not_le] at hknown
        exact hknown
      have hstart : edge.1 ≠ start := by
        intro heq
        have := hless 0 (heq ▸ h.rooted)
        linarith
      have hself : edge.1 ≠ current := by
        intro heq
        have := hless cost (heq ▸ hcurrent)
        linarith
      -- the labels after the edge: that of its target is new, the others are as before
      have hcases {node : V} {cost' : K}
          (hget : (labels.costSoFar.set edge.1 (cost + edge.2)).get? node = some cost') :
          node = edge.1 ∧ cost' = cost + edge.2 ∨
            node ≠ edge.1 ∧ labels.costSoFar.get? node = some cost' := by
        rw [Dict.get?_set] at hget
        split at hget
        · rename_i heq
          cases hget
          exact .inl ⟨heq.symm, rfl⟩
        · rename_i hne
          exact .inr ⟨Ne.symm hne, hget⟩
      have hlower {node : V} {cost' : K} (hget : labels.costSoFar.get? node = some cost') :
          ∃ lower, (labels.costSoFar.set edge.1 (cost + edge.2)).get? node = some lower ∧
            lower ≤ cost' := by
        rw [Dict.get?_set]
        split
        · rename_i heq
          exact ⟨_, rfl, le_of_lt (hless cost' (heq ▸ hget))⟩
        · exact ⟨cost', hget, le_refl _⟩
      refine ⟨(Dict.get?_set_ne _ _ hstart).trans h.rooted, ?_, ?_, ?_, ?_, ?_⟩
      · intro node cost' hget
        rcases hcases hget with ⟨_, rfl⟩ | ⟨_, hold⟩
        · linarith
        · exact h.nonneg node cost' hold
      · intro node cost' hget
        rcases hcases hget with ⟨rfl, rfl⟩ | ⟨hne, hold⟩
        · exact .inl ⟨_, List.mem_append_right _ (List.mem_singleton_self _), rfl, le_refl _⟩
        · rcases h.covered node cost' hold with ⟨entry, hentry, hopen⟩ | ⟨hgo, hedges⟩
          · exact .inl ⟨entry, List.mem_append_left _ hentry, hopen⟩
          · refine .inr ⟨hgo, fun other hother => ?_⟩
            rcases hedges other hother with ⟨rfl, hpending⟩ | hrelaxed
            · rcases List.mem_cons.mp hpending with rfl | hrest
              · obtain rfl : cost = cost' := Option.some.inj (hcurrent.symm.trans hold)
                exact .inr ⟨_, Dict.get?_set_self _ _ _, le_refl _⟩
              · exact .inl ⟨rfl, hrest⟩
            · exact .inr (hrelaxed.label hless)
      · intro entry hentry
        rcases List.mem_append.mp hentry with hentry | hentry
        · obtain ⟨cost', hget, hle⟩ := h.queued entry hentry
          obtain ⟨lower, hlow, hlt⟩ := hlower hget
          exact ⟨lower, hlow, hlt.trans hle⟩
        · obtain rfl := List.mem_singleton.mp hentry
          refine ⟨_, Dict.get?_set_self _ _ _, ?_⟩
          have := hest.nonneg edge.1
          show cost + edge.2 ≤ cost + edge.2 + estimate edge.1
          linarith
      · intro node cost' hget
        rcases hcases hget with ⟨rfl, rfl⟩ | ⟨hne, hold⟩
        · exact .inr ⟨current, cost, edge.2, Dict.get?_set_self _ _ _,
            (Dict.get?_set_ne _ _ hself).trans hcurrent, hedge, le_refl _⟩
        · refine (h.found node cost' hold).imp_right ?_
          rintro ⟨parent, known, weight, hparent, hknown', hsucc, hle⟩
          obtain ⟨lower, hlow, hlt⟩ := hlower hknown'
          exact ⟨parent, lower, weight, (Dict.get?_set_ne _ _ (Ne.symm hne)).trans hparent, hlow,
            hsucc, by linarith⟩
      · intro node parent hparent
        have hparent : (labels.cameFrom.set edge.1 current).get? node = some parent := hparent
        rw [Dict.get?_set] at hparent
        split at hparent
        · rename_i heq
          exact ⟨_, by rw [← heq]; exact Dict.get?_set_self _ _ _⟩
        · obtain ⟨cost', hget⟩ := h.labelled node parent hparent
          obtain ⟨lower, hlow, _⟩ := hlower hget
          exact ⟨lower, hlow⟩

/-- **Expanding a node keeps a search sound**, and never fails on a labelled node. -/
theorem Sound.expand {edges : List (V × K)} (hest : Estimated successors estimate)
    (h : labels.Sound successors start estimate stops
      (fun node edge => node = current ∧ edge ∈ edges))
    (hedges : ∀ edge ∈ edges, edge ∈ successors current)
    (hcurrent : labels.costSoFar.get? current = some cost) :
    ∃ labels', labels.expand estimate current edges = some labels' ∧
      labels'.Sound successors start estimate stops nothing ∧
        ∀ node cost', labels.costSoFar.get? node = some cost' →
          ∃ known, labels'.costSoFar.get? node = some known := by
  induction edges generalizing labels cost with
  | nil =>
    refine ⟨labels, rfl, ?_, fun node cost' hget => ⟨cost', hget⟩⟩
    refine ⟨h.rooted, h.nonneg, ?_, h.queued, h.found, h.labelled⟩
    intro node cost' hget
    refine (h.covered node cost' hget).imp_right (And.imp_right ?_)
    intro hrelaxed edge hedge
    refine (hrelaxed edge hedge).imp_left ?_
    rintro ⟨_, hmem⟩
    cases hmem
  | cons edge rest ih =>
    obtain ⟨labels₁, hrelax⟩ : ∃ labels₁, labels.relax estimate current edge = some labels₁ :=
      relax_isSome hcurrent edge
    have hsound := h.relax hest (hedges edge List.mem_cons_self) hrelax
    obtain ⟨cost₁, hcurrent₁⟩ := relax_labelled hrelax hcurrent
    obtain ⟨labels', hexpand, hsound', hkept⟩ := ih hsound
      (fun other hother => hedges other (List.mem_cons_of_mem _ hother)) hcurrent₁
    refine ⟨labels', ?_, hsound', ?_⟩
    · show (edge :: rest).foldlM (Labels.relax estimate current) labels = some labels'
      rw [List.foldlM_cons, hrelax]
      exact hexpand
    · intro node cost' hget
      obtain ⟨known, hknown⟩ := relax_labelled hrelax hget
      exact hkept node known hknown

/-! ### What a sound search knows -/

variable {path : List V}

/-- For every walk, its last node is labelled at most with its cost, or the open list has
an entry for a node before it. -/
theorem Sound.labelled_or_open {weight : K} {node : V} (hest : Estimated successors estimate)
    (h : labels.Sound successors start estimate stops nothing) (hweight : 1 ≤ weight)
    (hconsistent : ∀ node, ∀ edge ∈ successors node,
      estimate node ≤ weight * edge.2 + estimate edge.1)
    (walk : Walk successors start path node cost) :
    0 ≤ cost ∧ ((∃ known, labels.costSoFar.get? node = some known ∧ known ≤ cost) ∨
      ∃ entry ∈ labels.frontier, entry.priority ≤ weight * cost + estimate node) := by
  induction walk with
  | nil => exact ⟨le_refl 0, .inl ⟨0, h.rooted, le_refl 0⟩⟩
  | @snoc path node next cost step walk edge ih =>
    obtain ⟨hcost, ih⟩ := ih
    have hstep : 0 < step := hest.positive node _ edge
    have hnext : estimate node ≤ weight * step + estimate next := hconsistent node _ edge
    have hscaled : cost ≤ weight * cost := le_mul_of_one_le_left hcost hweight
    refine ⟨by linarith, ?_⟩
    rcases ih with ⟨known, hget, hle⟩ | ⟨entry, hentry, hle⟩
    · rcases h.covered node known hget with ⟨entry, hentry, _, hpriority⟩ | ⟨_, hrelaxed⟩
      · refine .inr ⟨entry, hentry, ?_⟩
        rw [mul_add]
        linarith
      · obtain ⟨known', hget', hle'⟩ := (hrelaxed _ edge).resolve_left id
        refine .inl ⟨known', hget', ?_⟩
        dsimp only at hle'
        linarith
    · refine .inr ⟨entry, hentry, ?_⟩
      rw [mul_add]
      linarith

/-- **An open entry for every walk.**  A walk to a node where the search stops leaves an
entry on the open list whose priority is at most `weight` times the cost of the walk. -/
theorem Sound.exists_open {weight : K} {goal : V} (hest : Estimated successors estimate)
    (h : labels.Sound successors start estimate stops nothing) (hweight : 1 ≤ weight)
    (hconsistent : ∀ node, ∀ edge ∈ successors node,
      estimate node ≤ weight * edge.2 + estimate edge.1)
    (hstops : stops goal) (hgoal : estimate goal = 0) (walk : Walk successors start path goal cost)
    :
    ∃ entry ∈ labels.frontier, entry.priority ≤ weight * cost := by
  obtain ⟨hcost, hwalk⟩ := h.labelled_or_open hest hweight hconsistent walk
  rw [hgoal, add_zero] at hwalk
  rcases hwalk with ⟨known, hget, hle⟩ | hopen
  · rcases h.covered goal known hget with ⟨entry, hentry, _, hpriority⟩ | ⟨hgo, _⟩
    · refine ⟨entry, hentry, ?_⟩
      have hscaled : cost ≤ weight * cost := le_mul_of_one_le_left hcost hweight
      rw [hgoal] at hpriority
      linarith
    · exact absurd hstops hgo
  · exact hopen

/-! ### Tracing back -/

/-- The parents with a label below a given cost. -/
def below (labels : Labels V K) (cost : K) : Finset V :=
  labels.cameFrom.keys.toFinset.filter
    (fun node => (labels.costSoFar.get? node).any (fun known => known < cost))

theorem Sound.trace_of_card (hest : Estimated successors estimate)
    (h : labels.Sound successors start estimate stops nothing) (n : ℕ) :
    ∀ node cost, labels.costSoFar.get? node = some cost → (labels.below cost).card < n →
      ∀ fuel, n < fuel → ∃ path total, trace labels.cameFrom start fuel node = some path ∧
        Walk successors start path node total ∧ total ≤ cost := by
  induction n with
  | zero =>
    intro node cost _ hcard
    cases hcard
  | succ n ih =>
    intro node cost hget hcard fuel hfuel
    obtain ⟨fuel, rfl⟩ : ∃ k, fuel = k + 1 := ⟨fuel - 1, by omega⟩
    by_cases hnode : node = start
    · subst hnode
      exact ⟨[node], 0, by rw [trace, if_pos rfl], .nil, h.nonneg node cost hget⟩
    · obtain ⟨parent, known, weight, hparent, hknown, hedge, hle⟩ :=
        (h.found node cost hget).resolve_left hnode
      have hpositive := hest.positive parent _ hedge
      dsimp only at hpositive
      -- the parent of a parent has a smaller label, so fewer parents are below it
      have hshorter : ∃ path total, trace labels.cameFrom start fuel parent = some path ∧
          Walk successors start path parent total ∧ total ≤ known := by
        by_cases hroot : parent = start
        · subst hroot
          obtain ⟨fuel, rfl⟩ : ∃ k, fuel = k + 1 := ⟨fuel - 1, by omega⟩
          exact ⟨[parent], 0, by rw [trace, if_pos rfl], .nil, h.nonneg parent known hknown⟩
        · refine ih parent known hknown ?_ fuel (by omega)
          refine lt_of_lt_of_le (Finset.card_lt_card ?_) (Nat.le_of_lt_succ hcard)
          rw [Finset.ssubset_iff_of_subset]
          · obtain ⟨grandparent, _, _, hgrand, _⟩ := (h.found parent known hknown).resolve_left hroot
            refine ⟨parent, ?_, ?_⟩
            · rw [below, Finset.mem_filter, List.mem_toFinset, hknown, Option.any_some,
                decide_eq_true_eq]
              exact ⟨Dict.mem_keys_iff.mpr ⟨grandparent, hgrand⟩, by linarith⟩
            · rw [below, Finset.mem_filter, hknown, Option.any_some, decide_eq_true_eq, not_and]
              exact fun _ => lt_irrefl known
          · intro other hother
            rw [below, Finset.mem_filter, Option.any_eq_true] at hother ⊢
            obtain ⟨hkey, value, hvalue, hless⟩ := hother
            rw [decide_eq_true_eq] at hless
            exact ⟨hkey, value, hvalue, decide_eq_true (by linarith)⟩
      obtain ⟨path, total, htrace, walk, htotal⟩ := hshorter
      refine ⟨path ++ [node], total + weight, ?_, walk.snoc hedge, by linarith⟩
      rw [trace, if_neg hnode, hparent]
      simp only [Option.bind_eq_bind, Option.bind_some, htrace]
      rfl

/-- **Parents lead back to the start**, along a walk that costs at most the label. -/
theorem Sound.exists_trace {node : V} {fuel : ℕ} (hest : Estimated successors estimate)
    (h : labels.Sound successors start estimate stops nothing)
    (hget : labels.costSoFar.get? node = some cost)
    (hfuel : labels.cameFrom.items.length + 1 < fuel) :
    ∃ path total, trace labels.cameFrom start fuel node = some path ∧
      Walk successors start path node total ∧ total ≤ cost := by
  refine h.trace_of_card hest (labels.cameFrom.items.length + 1) node cost hget ?_ fuel hfuel
  have hcard : (labels.below cost).card ≤ labels.cameFrom.keys.toFinset.card :=
    Finset.card_filter_le _ _
  have hkeys : labels.cameFrom.keys.toFinset.card ≤ labels.cameFrom.keys.length :=
    List.toFinset_card_le _
  rw [Dict.keys, List.length_map] at hkeys
  rw [Dict.keys] at hcard
  omega

end Ordered

end Labels

end Foundation
