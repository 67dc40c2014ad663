/-
# Two programs side by side

Two programs run `Alike` if they answer alike from related states and leave them related; their
commands may differ.  The rules follow the construction of programs: alike parts make alike
sequences, branches and loops.
-/
import ShadowbaneLab.Foundation.Program

namespace Foundation

variable {ε σ τ α β γ : Type}

/-- Loops that run alike turn by turn run alike. -/
theorem Agree.foldlM {R : σ → τ → Prop} {f : σ → α → Except ε σ} {g : τ → α → Except ε τ}
    {l : List α} (h : ∀ a ∈ l, ∀ s t, R s t → Agree R (f s a) (g t a)) {s : σ} {t : τ}
    (hst : R s t) : Agree R (l.foldlM f s) (l.foldlM g t) := by
  induction l generalizing s t with
  | nil => exact hst
  | cons a l ih =>
    rw [List.foldlM_cons, List.foldlM_cons]
    apply (h a List.mem_cons_self s t hst).bind
    intro s' t' hst'
    exact ih (fun b hb => h b (List.mem_cons_of_mem _ hb)) hst'

/-- Agreeing computations, with what either is known to achieve by itself. -/
theorem Agree.achieving {Q : α → β → Prop} {P : α → Prop} {R : β → Prop} {x : Except ε α}
    {y : Except ε β} (h : Agree Q x y) (hx : ∀ a, x = .ok a → P a) (hy : ∀ b, y = .ok b → R b) :
    Agree (fun a b => Q a b ∧ P a ∧ R b) x y := by
  cases x with
  | error e =>
    cases y with
    | error e' => exact h
    | ok b => exact h.elim
  | ok a =>
    cases y with
    | error e' => exact h.elim
    | ok b => exact ⟨h, hx a rfl, hy b rfl⟩

namespace Program

variable {S S' : Signature} {handler : Handler S ε σ} {handler' : Handler S' ε τ}
  {R : σ → τ → Prop}

/-- Two programs answer alike from related states, and leave them related. -/
def Alike (handler : Handler S ε σ) (handler' : Handler S' ε τ) (R : σ → τ → Prop)
    (p : Program S ε α) (q : Program S' ε α) : Prop :=
  ∀ s t, R s t →
    Agree (fun x y => x.1 = y.1 ∧ R x.2 y.2) (p.run handler s) (q.run handler' t)

namespace Alike

theorem pure (a : α) :
    Alike handler handler' R (Pure.pure a : Program S ε α) (Pure.pure a) :=
  fun _ _ hst => ⟨rfl, hst⟩

theorem raise (e : ε) :
    Alike handler handler' R (Program.raise e : Program S ε α) (Program.raise e) :=
  fun _ _ _ => rfl

theorem ofExcept (x : Except ε α) :
    Alike handler handler' R (Program.ofExcept x : Program S ε α) (Program.ofExcept x) := by
  cases x with
  | error e => exact raise e
  | ok a => exact pure a

/-- Sequences of parts that run alike. -/
theorem bind {p : Program S ε α} {q : Program S' ε α} {f : α → Program S ε β}
    {g : α → Program S' ε β} (first : Alike handler handler' R p q)
    (next : ∀ a, Alike handler handler' R (f a) (g a)) :
    Alike handler handler' R (p >>= f) (q >>= g) := by
  intro s t hst
  rw [run_bind, run_bind]
  apply (first s t hst).bind
  rintro ⟨a, s'⟩ ⟨a', t'⟩ ⟨ha, hst'⟩
  obtain rfl : a = a' := ha
  exact next a s' t' hst'

theorem ite {c : Prop} [Decidable c] {p p' : Program S ε α} {q q' : Program S' ε α}
    (hp : Alike handler handler' R p q) (hp' : Alike handler handler' R p' q') :
    Alike handler handler' R (if c then p else p') (if c then q else q') := by
  split
  · exact hp
  · exact hp'

theorem forM {f : α → Program S ε PUnit} {g : α → Program S' ε PUnit} {l : List α}
    (h : ∀ a ∈ l, Alike handler handler' R (f a) (g a)) :
    Alike handler handler' R (l.forM f) (l.forM g) := by
  induction l with
  | nil => exact pure _
  | cons a rest ih =>
    show Alike handler handler' R (f a >>= fun _ => rest.forM f) (g a >>= fun _ => rest.forM g)
    exact bind (h a List.mem_cons_self) (fun _ => ih (fun b hb => h b (List.mem_cons_of_mem _ hb)))

end Alike

end Program

end Foundation
