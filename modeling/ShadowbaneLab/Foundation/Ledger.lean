/-
# Machines that call an outside party at most once

A machine answers inputs from its state; a run lists its inputs with the states that they are met
in.  A ledger is a machine that puts requests to an outside party and keeps a record of each: when
one step obeys its laws, no run puts a request twice or two requests at once.
-/
import Mathlib.Data.List.Basic

namespace Foundation

/-! ## Runs -/

section Runs

variable {σ ι : Type} (next : σ → ι → σ)

/-- The inputs of a run, each with the state it is met in. -/
def met : σ → List ι → List (σ × ι)
  | _, [] => []
  | s, i :: is => (s, i) :: met (next s i) is

variable {next}

variable {s : σ} {is : List ι}

/-- What holds at first and after every step holds wherever an input is met. -/
theorem invariant_of_mem_met {Inv : σ → Prop} (hnext : ∀ {s i}, Inv s → Inv (next s i)) (hs : Inv s)
    : ∀ x ∈ met next s is, Inv x.1 := by
  induction is generalizing s with
  | nil => intro x hx; cases hx
  | cons i is ih =>
    intro x hx
    rcases List.mem_cons.1 hx with rfl | hx
    · exact hs
    · exact ih (hnext hs) x hx

variable {P : List (σ × ι) → σ → Prop}

/-- What holds of the steps so far and the state they led to holds of a whole run. -/
theorem history_met (hnext : ∀ {h s i}, P h s → P (h ++ [(s, i)]) (next s i)) :
    ∀ {h}, P h s → P (h ++ met next s is) (is.foldl next s) := by
  induction is generalizing s with
  | nil =>
    intro h hs
    rwa [met, List.append_nil]
  | cons i is ih =>
    intro h hs
    have hrest := ih (hnext (i := i) hs)
    rwa [List.append_assoc, List.singleton_append] at hrest

variable {before after : List (σ × ι)}

/-- What holds of the steps so far and the state they led to holds where each input is met. -/
theorem history_of_met (hnext : ∀ {h s i}, P h s → P (h ++ [(s, i)]) (next s i)) {x : σ × ι}
    (hmet : met next s is = before ++ x :: after) : ∀ {h}, P h s → P (h ++ before) x.1 := by
  induction before generalizing s is with
  | nil =>
    intro h hs
    cases is with
    | nil => cases hmet
    | cons i is =>
      cases hmet
      rwa [List.append_nil]
  | cons y before ih =>
    intro h hs
    cases is with
    | nil => cases hmet
    | cons i is =>
      rw [met, List.cons_append, List.cons.injEq] at hmet
      obtain ⟨rfl, hmet⟩ := hmet
      have hrest := ih hmet (hnext (i := i) hs)
      rwa [List.append_assoc, List.singleton_append] at hrest

/-- A fact that a step leaves behind and that no later step destroys relates the step to every
later one. -/
theorem pairwise_met {I : σ → Prop} {F : σ × ι → σ → Prop} {R : σ × ι → σ × ι → Prop}
    (hnext : ∀ {s i}, I s → I (next s i)) (hleft : ∀ {s i}, I s → F (s, i) (next s i))
    (hkept : ∀ {x s i}, I s → F x s → F x (next s i)) (hlater : ∀ {x s i}, I s → F x s → R x (s, i))
    (hs : I s) : (met next s is).Pairwise R := by
  have hall : ∀ {x s} {is : List ι}, I s → F x s → ∀ y ∈ met next s is, R x y := by
    intro x s is hs hfact
    induction is generalizing s with
    | nil => intro y hy; cases hy
    | cons i is ih =>
      intro y hy
      rcases List.mem_cons.1 hy with rfl | hy
      · exact hlater hs hfact
      · exact ih (hnext hs) (hkept hs hfact) y hy
  induction is generalizing s with
  | nil => exact List.Pairwise.nil
  | cons i is ih =>
    exact List.pairwise_cons.2 ⟨hall (hnext hs) (hleft hs), ih (hnext hs)⟩

/-- What holds before a run and not after it is ended by one of its inputs. -/
theorem exists_ends {P : σ → Prop} (hs : P s) (hend : ¬ P (is.foldl next s)) :
    ∃ z ∈ met next s is, P z.1 ∧ ¬ P (next z.1 z.2) := by
  induction is generalizing s with
  | nil => exact absurd hs hend
  | cons i is ih =>
    by_cases hnext : P (next s i)
    · obtain ⟨z, hz, hends⟩ := ih hnext hend
      exact ⟨z, List.mem_cons_of_mem _ hz, hends⟩
    · exact ⟨(s, i), List.mem_cons_self, hs, hnext⟩

/-- What holds before a run and not when its last input is met is ended by an input in between. -/
theorem exists_ends_of_met {P : σ → Prop} {y : σ × ι} (hs : P s)
    (hmet : met next s is = before ++ y :: after) (hy : ¬ P y.1) :
    ∃ z ∈ before, P z.1 ∧ ¬ P (next z.1 z.2) := by
  induction before generalizing s is with
  | nil =>
    cases is with
    | nil => cases hmet
    | cons i is =>
      cases hmet
      exact absurd hs hy
  | cons x before ih =>
    cases is with
    | nil => cases hmet
    | cons i is =>
      rw [met, List.cons_append, List.cons.injEq] at hmet
      obtain ⟨rfl, hmet⟩ := hmet
      by_cases hnext : P (next s i)
      · obtain ⟨z, hz, hends⟩ := ih hnext hmet
        exact ⟨z, List.mem_cons_of_mem _ hz, hends⟩
      · exact ⟨(s, i), List.mem_cons_self, hs, hnext⟩

/-- A run from where one of its inputs is met. -/
theorem met_of_eq_append {x : σ × ι} (hmet : met next s is = before ++ x :: after) :
    ∃ js, met next (next x.1 x.2) js = after := by
  induction before generalizing s is with
  | nil =>
    cases is with
    | nil => cases hmet
    | cons i is =>
      cases hmet
      exact ⟨is, rfl⟩
  | cons y before ih =>
    cases is with
    | nil => cases hmet
    | cons i is =>
      rw [met, List.cons_append, List.cons.injEq] at hmet
      exact ih hmet.2

end Runs

theorem filterMap_append_single {α β : Type} {f : α → Option β} {l : List α} {x : α} :
    (l ++ [x]).filterMap f = l.filterMap f ++ (f x).toList := by
  rw [List.filterMap_append]
  cases hx : f x with
  | none => rw [List.filterMap_cons_none hx, List.filterMap_nil, Option.toList_none]
  | some b => rw [List.filterMap_cons_some hx, List.filterMap_nil, Option.toList_some]

/-! ## Ledgers -/

/-- A machine that puts requests to an outside party, and what it keeps of them. -/
structure Ledger (σ ι κ β ρ α : Type) where
  next : σ → ι → σ
  /-- The key and the content of the request that an input makes. -/
  request : ι → Option (κ × β)
  /-- What the party answers, should an input make the machine call it. -/
  answer : ι → Option α
  calls : σ → ι → Bool
  reply : σ → ι → Option ρ
  outcome : ρ → α
  /-- The content and the first reply that are kept for a key. -/
  record : σ → κ → Option (β × ρ)
  pending : σ → Bool
  unresolved : σ → Bool
  /-- The outcome that rejects a key which was used for something else. -/
  reused : α
  /-- The answers of the party that leave nothing to wait for. -/
  settled : α → Bool

namespace Ledger

variable {σ ι κ β ρ α : Type} (L : Ledger σ ι κ β ρ α)

/-- An input is the first with its key. -/
def Records (x : σ × ι) (k : κ) (b : β) (r : ρ) : Prop :=
  L.request x.2 = some (k, b) ∧ L.record x.1 k = none ∧ L.record (L.next x.1 x.2) k = some (b, r)

/-- What one step of a ledger must obey. -/
structure Lawful (Inv : σ → Prop) : Prop where
  inv_next : ∀ {s i}, Inv s → Inv (L.next s i)
  record_next : ∀ {s i k r}, Inv s → L.record s k = some r → L.record (L.next s i) k = some r
  reply_of_records : ∀ {s i k b r}, Inv s → L.Records (s, i) k b r → L.reply s i = some r
  known : ∀ {s i k b b' r}, Inv s → L.request i = some (k, b') → L.record s k = some (b, r) →
    L.calls s i = false ∧ (b' = b → L.reply s i = some r) ∧
      (b' ≠ b → ∃ r', L.reply s i = some r' ∧ L.outcome r' = L.reused)
  calls_idle : ∀ {s i}, Inv s → L.calls s i = true → L.pending s = false ∧ L.unresolved s = false
  calls_records : ∀ {s i}, Inv s → L.calls s i = true → ∃ k b r, L.Records (s, i) k b r
  calls_answer : ∀ {s i}, Inv s → L.calls s i = true →
    ∃ r, L.reply s i = some r ∧ L.answer i = some (L.outcome r)
  calls_open : ∀ {s i a}, Inv s → L.calls s i = true → L.answer i = some a →
    L.settled a = false → L.pending (L.next s i) = true ∨ L.unresolved (L.next s i) = true
  pending_ends : ∀ {s i}, Inv s → L.pending s = true → L.pending (L.next s i) = false →
    L.request i = none
  unresolved_next : ∀ {s i}, Inv s → L.unresolved s = true → L.unresolved (L.next s i) = true

/-- What a run of a ledger promises. -/
structure AtMostOnce (s : σ) (is : List ι) : Prop where
  /-- No key is used for two calls. -/
  once : (met L.next s is).Pairwise fun x y => ∀ k b b', L.calls x.1 x.2 = true →
    L.calls y.1 y.2 = true → L.request x.2 = some (k, b) → L.request y.2 ≠ some (k, b')
  /-- A call is made when nothing is pending or unresolved. -/
  idle : ∀ x ∈ met L.next s is, L.calls x.1 x.2 = true →
    L.pending x.1 = false ∧ L.unresolved x.1 = false
  /-- Between a call with an open answer and the next call, an input that makes no request ends
  the wait. -/
  settles : ∀ earlier x between y later,
    met L.next s is = earlier ++ x :: (between ++ y :: later) →
    L.calls x.1 x.2 = true → (∃ a, L.answer x.2 = some a ∧ L.settled a = false) →
    L.calls y.1 y.2 = true → ∃ z ∈ between, L.request z.2 = none ∧ L.pending z.1 = true ∧
      L.pending (L.next z.1 z.2) = false
  /-- Once unresolved, always unresolved and without calls. -/
  stays : (met L.next s is).Pairwise fun x y => L.unresolved x.1 = true →
    L.unresolved y.1 = true ∧ L.calls y.1 y.2 = false
  /-- A recorded request is answered with its first reply, and another with its key is
  rejected; neither is a call. -/
  repeated : (met L.next s is).Pairwise fun x y => ∀ k b b' r, L.Records x k b r →
    L.request y.2 = some (k, b') → L.calls y.1 y.2 = false ∧ L.reply x.1 x.2 = some r ∧
      (b' = b → L.reply y.1 y.2 = L.reply x.1 x.2) ∧
      (b' ≠ b → ∃ r', L.reply y.1 y.2 = some r' ∧ L.outcome r' = L.reused)
  /-- Every call is recorded, and its reply tells what the party answered. -/
  answered : ∀ x ∈ met L.next s is, L.calls x.1 x.2 = true → (∃ k b r, L.Records x k b r) ∧
    ∃ r, L.reply x.1 x.2 = some r ∧ L.answer x.2 = some (L.outcome r)

namespace Lawful

variable {L} {Inv : σ → Prop} (lawful : L.Lawful Inv) {s : σ} {is : List ι}
include lawful

theorem inv_of_mem (hs : Inv s) : ∀ x ∈ met L.next s is, Inv x.1 :=
  invariant_of_mem_met lawful.inv_next hs

/-- What a step records is on record from then on. -/
theorem pairwise_recorded (hs : Inv s) : (met L.next s is).Pairwise fun x y =>
    (Inv x.1 ∧ ∀ k b r, L.Records x k b r → L.record y.1 k = some (b, r)) ∧ Inv y.1 :=
  pairwise_met
    (F := fun x s => Inv x.1 ∧ ∀ k b r, L.Records x k b r → L.record s k = some (b, r))
    lawful.inv_next (fun hs => ⟨hs, fun _ _ _ h => h.2.2⟩)
    (fun hs hfact => ⟨hfact.1, fun k b r h => lawful.record_next hs (hfact.2 k b r h)⟩)
    (fun hs hfact => ⟨hfact, hs⟩) hs

theorem pairwise_unresolved (hs : Inv s) : (met L.next s is).Pairwise fun x y =>
    (L.unresolved x.1 = true → L.unresolved y.1 = true) ∧ Inv y.1 :=
  pairwise_met (F := fun x s => L.unresolved x.1 = true → L.unresolved s = true)
    lawful.inv_next lawful.unresolved_next
    (fun hs hfact h => lawful.unresolved_next hs (hfact h)) (fun hs hfact => ⟨hfact, hs⟩) hs

theorem settles (hs : Inv s) {earlier between later : List (σ × ι)} {x y : σ × ι}
    (hmet : met L.next s is = earlier ++ x :: (between ++ y :: later))
    (hx : L.calls x.1 x.2 = true) (hopen : ∃ a, L.answer x.2 = some a ∧ L.settled a = false)
    (hy : L.calls y.1 y.2 = true) : ∃ z ∈ between, L.request z.2 = none ∧ L.pending z.1 = true ∧
      L.pending (L.next z.1 z.2) = false := by
  have hinv : ∀ z ∈ earlier ++ x :: (between ++ y :: later), Inv z.1 := by
    rw [← hmet]
    exact lawful.inv_of_mem hs
  obtain ⟨a, hanswer, hopen⟩ := hopen
  obtain ⟨js, hrest⟩ := met_of_eq_append hmet
  obtain ⟨hpending, hunresolved⟩ := lawful.calls_idle (hinv y (by simp)) hy
  rcases lawful.calls_open (hinv x (by simp)) hx hanswer hopen with hwait | hwait
  · obtain ⟨z, hz, hzp, hends⟩ := exists_ends_of_met (P := fun s => L.pending s = true) hwait hrest
      (by simp [hpending])
    have hends := Bool.eq_false_iff.2 hends
    exact ⟨z, hz, lawful.pending_ends (hinv z (by simp [hz])) hzp hends, hzp, hends⟩
  · obtain ⟨z, hz, hzu, hends⟩ := exists_ends_of_met (P := fun s => L.unresolved s = true) hwait
      hrest (by simp [hunresolved])
    exact absurd (lawful.unresolved_next (hinv z (by simp [hz])) hzu) hends

/-- The run of a lawful ledger calls at most once for each request, and for one at a time. -/
theorem atMostOnce (hs : Inv s) : L.AtMostOnce s is where
  once := by
    refine (lawful.pairwise_recorded hs).imp ?_
    intro x y ⟨⟨hxs, hrecorded⟩, hys⟩ k b b' hx hy hreqx hreqy
    obtain ⟨k', b'', r, hrecords⟩ := lawful.calls_records hxs hx
    obtain ⟨rfl, rfl⟩ : k' = k ∧ b'' = b := by simpa [hrecords.1] using hreqx
    have hquiet := (lawful.known hys hreqy (hrecorded _ _ _ hrecords)).1
    rw [hy] at hquiet
    cases hquiet
  idle := fun x hx hcalls => lawful.calls_idle (lawful.inv_of_mem hs x hx) hcalls
  settles := fun _ _ _ _ _ => lawful.settles hs
  stays := by
    refine (lawful.pairwise_unresolved hs).imp ?_
    intro x y ⟨hkeeps, hys⟩ hx
    refine ⟨hkeeps hx, Bool.eq_false_iff.2 fun hcalls => ?_⟩
    have hidle := (lawful.calls_idle hys hcalls).2
    rw [hkeeps hx] at hidle
    cases hidle
  repeated := by
    refine (lawful.pairwise_recorded hs).imp ?_
    intro x y ⟨⟨hxs, hrecorded⟩, hys⟩ k b b' r hrecords hreqy
    obtain ⟨hquiet, hsame, hother⟩ := lawful.known hys hreqy (hrecorded _ _ _ hrecords)
    have hfirst := lawful.reply_of_records hxs hrecords
    exact ⟨hquiet, hfirst, fun h => (hsame h).trans hfirst.symm, hother⟩
  answered := fun x hx hcalls => ⟨lawful.calls_records (lawful.inv_of_mem hs x hx) hcalls,
    lawful.calls_answer (lawful.inv_of_mem hs x hx) hcalls⟩

end Lawful

end Ledger

end Foundation
