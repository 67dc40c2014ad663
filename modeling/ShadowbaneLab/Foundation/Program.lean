/-
# Programs over a fixed set of commands

A `Program S ε α` calls the commands of a signature `S`, may raise an error of type `ε`
and otherwise returns an `α`.  A `Handler` gives every command a meaning on a state, and
`run` executes a program with it.  Since a program can touch the state through commands
only, what every command does is true of every program:

* a relation that contains each command's step contains, in its reflexive transitive
  closure, every run (`run_reaches`), and if it is reflexive and transitive, it contains
  the run itself (`run_within`).

Some facts hold of a few short programs but not of their single commands; a program that is
`Composed` of such blocks inherits what all of them preserve (`Composed.preserves`).
-/
import Mathlib.Logic.Relation

namespace Foundation

variable {ε ε' σ τ α β γ : Type}

/-! ## Comparing outcomes -/

/-- Two computations agree: both succeed with related results, or both fail alike. -/
def Agree (Q : α → β → Prop) : Except ε α → Except ε β → Prop
  | .ok a, .ok b => Q a b
  | .error e, .error e' => e = e'
  | _, _ => False

variable {x : Except ε α} {y : Except ε β}

theorem Agree.bind {Q : α → β → Prop} {α' β' : Type} {Q' : α' → β' → Prop} {f : α → Except ε α'}
    {g : β → Except ε β'} (h : Agree Q x y) (hf : ∀ a b, Q a b → Agree Q' (f a) (g b)) :
    Agree Q' (x >>= f) (y >>= g) := by
  cases x with
  | error e =>
    cases y with
    | error e' => exact h
    | ok b => exact h.elim
  | ok a =>
    cases y with
    | error e' => exact h.elim
    | ok b => exact hf a b h

theorem Agree.mono {Q Q' : α → β → Prop} (h : Agree Q x y) (hQ : ∀ a b, Q a b → Q' a b) :
    Agree Q' x y := by
  cases x with
  | error e =>
    cases y with
    | error e' => exact h
    | ok b => exact h.elim
  | ok a =>
    cases y with
    | error e' => exact h.elim
    | ok b => exact hQ a b h

/-- A computation agrees with itself. -/
theorem Agree.refl {Q : α → α → Prop} (hQ : ∀ a, Q a a) (x : Except ε α) : Agree Q x x := by
  cases x with
  | error e => exact rfl
  | ok a => exact hQ a

/-! ## Programs -/

/-- The commands a program may call, each with the type of its answer. -/
structure Signature where
  Op : Type 1
  Result : Op → Type

/-- A program: a value, a raised error, or a command followed by a program that depends
on its answer. -/
inductive Program (S : Signature) (ε α : Type) : Type 1 where
  | pure (value : α)
  | raise (error : ε)
  | call (op : S.Op) (next : S.Result op → Program S ε α)

/-- The meaning of every command on a state. -/
def Handler (S : Signature) (ε σ : Type) : Type 1 :=
  (op : S.Op) → σ → Except ε (S.Result op × σ)

namespace Program

variable {S : Signature}

/-- Sequencing. -/
def bind : Program S ε α → (α → Program S ε β) → Program S ε β
  | .pure a, f => f a
  | .raise e, _ => .raise e
  | .call op next, f => .call op (fun r => (next r).bind f)

instance : Monad (Program S ε) where
  pure := Program.pure
  bind := Program.bind

theorem bind_pure (p : Program S ε α) : p.bind .pure = p := by
  induction p with
  | pure a => rfl
  | raise e => rfl
  | call op next ih => exact congrArg (Program.call op) (funext ih)

theorem bind_assoc (p : Program S ε α) (f : α → Program S ε β) (g : β → Program S ε γ) :
    (p.bind f).bind g = p.bind (fun a => (f a).bind g) := by
  induction p with
  | pure a => rfl
  | raise e => rfl
  | call op next ih => exact congrArg (Program.call op) (funext ih)

instance : LawfulMonad (Program S ε) :=
  LawfulMonad.mk' (Program S ε) bind_pure (fun _ _ => rfl) bind_assoc

/-- The program that calls one command. -/
def command (op : S.Op) : Program S ε (S.Result op) := .call op .pure

/-- The value of a fallible computation. -/
def ofExcept : Except ε α → Program S ε α
  | .ok a => .pure a
  | .error e => .raise e

/-- Execute a program. -/
def run (handler : Handler S ε σ) : Program S ε α → σ → Except ε (α × σ)
  | .pure a, s => .ok (a, s)
  | .raise e, _ => .error e
  | .call op next, s =>
    match handler op s with
    | .error e => .error e
    | .ok (r, s') => (next r).run handler s'

/-- The states before and after each command that a program executes. -/
def steps (handler : Handler S ε σ) : Program S ε α → σ → List (σ × σ)
  | .pure _, _ => []
  | .raise _, _ => []
  | .call op next, s =>
    match handler op s with
    | .error _ => []
    | .ok (r, s') => (s, s') :: (next r).steps handler s'

variable {p : Program S ε α}

variable {s s' : σ} {a : α}

variable {P : σ → Prop}

section Rules

variable (handler : Handler S ε σ)

theorem run_call (op : S.Op) (next : S.Result op → Program S ε α) (s : σ) :
    (call op next).run handler s = handler op s >>= fun rs => (next rs.1).run handler rs.2 := by
  rw [run]
  cases handler op s with
  | error e => rfl
  | ok rs => rfl

@[simp] theorem run_command (op : S.Op) (s : σ) :
    (command op : Program S ε _).run handler s = handler op s := by
  rw [command, run_call]
  cases handler op s with
  | error e => rfl
  | ok rs => rfl

/-- A sequence runs its first part, then its second part from the state reached. -/
theorem run_bind (p : Program S ε α) (f : α → Program S ε β) (s : σ) :
    (p >>= f).run handler s = p.run handler s >>= fun as => (f as.1).run handler as.2 := by
  induction p generalizing s with
  | pure a => rfl
  | raise e => rfl
  | call op next ih =>
    show (call op (fun r => (next r) >>= f)).run handler s = _
    rw [run_call, run_call]
    cases handler op s with
    | error e => rfl
    | ok rs => exact ih rs.1 rs.2

variable {handler} in
/-- A sequence succeeds when its first part does, and its second part from there. -/
theorem run_bind_eq_ok {f : α → Program S ε β} {b : β} : (p >>= f).run handler s = .ok (b, s') ↔
    ∃ a s₁, p.run handler s = .ok (a, s₁) ∧ (f a).run handler s₁ = .ok (b, s') := by
  rw [run_bind]
  cases p.run handler s with
  | error e => exact ⟨nofun, nofun⟩
  | ok result =>
    constructor
    · exact fun h => ⟨result.1, result.2, rfl, h⟩
    · rintro ⟨a, s₁, heq, h⟩
      cases heq
      exact h

/-- **Runs are chains of command steps.** -/
theorem run_reaches (Step : σ → σ → Prop)
    (hstep : ∀ op s r s', handler op s = .ok (r, s') → Step s s')
    (h : p.run handler s = .ok (a, s')) : Relation.ReflTransGen Step s s' := by
  induction p generalizing s with
  | pure v =>
    cases h
    exact Relation.ReflTransGen.refl
  | raise e => cases h
  | call op next ih =>
    rw [run_call] at h
    cases hop : handler op s with
    | error e => rw [hop] at h; cases h
    | ok rs =>
      obtain ⟨r, s₁⟩ := rs
      rw [hop] at h
      exact Relation.ReflTransGen.head (hstep op s r s₁ hop) (ih r h)

/-- A reflexive and transitive relation that contains each command's step contains every
run. -/
theorem run_within (Step : σ → σ → Prop) (hrefl : ∀ s, Step s s)
    (htrans : ∀ s t u, Step s t → Step t u → Step s u)
    (hstep : ∀ op s r s', handler op s = .ok (r, s') → Step s s')
    (h : p.run handler s = .ok (a, s')) : Step s s' := by
  have hchain := run_reaches handler Step hstep h
  clear h
  induction hchain with
  | refl => exact hrefl s
  | tail _ hlast ih => exact htrans _ _ _ ih hlast

/-- What a command breaks, one of the steps of the program breaks. -/
theorem run_preserves_or {Q : σ × σ → Prop}
    (hstep : ∀ op s r s', handler op s = .ok (r, s') → P s → P s' ∨ Q (s, s'))
    (h : p.run handler s = .ok (a, s')) (hs : P s) : P s' ∨ ∃ x ∈ p.steps handler s, Q x := by
  induction p generalizing s with
  | pure v =>
    cases h
    exact .inl hs
  | raise e => cases h
  | call op next ih =>
    rw [run] at h
    rw [steps]
    cases hop : handler op s with
    | error e =>
      rw [hop] at h
      cases h
    | ok answered =>
      obtain ⟨r, s₁⟩ := answered
      rw [hop] at h
      rcases hstep op s r s₁ hop hs with hs₁ | hbroken
      · rcases ih r h hs₁ with hs' | ⟨x, hx, hbroken⟩
        · exact .inl hs'
        · exact .inr ⟨x, List.mem_cons_of_mem _ hx, hbroken⟩
      · exact .inr ⟨(s, s₁), List.mem_cons_self, hbroken⟩

end Rules

/-! ## Programs composed of blocks -/

/-- A program that only sequences blocks of a kind. -/
inductive Composed (B : (α : Type) → Program S ε α → Prop) :
    {α : Type} → Program S ε α → Prop
  | pure {α : Type} (a : α) : Composed B (Pure.pure a : Program S ε α)
  | raise {α : Type} (e : ε) : Composed B (Program.raise e : Program S ε α)
  | block {α : Type} {p : Program S ε α} (h : B α p) : Composed B p
  | bind {α β : Type} {p : Program S ε α} {f : α → Program S ε β} (first : Composed B p)
      (next : ∀ a, Composed B (f a)) : Composed B (p >>= f)

namespace Composed

variable {B : (α : Type) → Program S ε α → Prop}

theorem ofExcept (x : Except ε α) : Composed B (Program.ofExcept x : Program S ε α) := by
  cases x with
  | error e => exact .raise e
  | ok a => exact .pure a

theorem ite {c : Prop} [Decidable c] {p q : Program S ε α} (hp : Composed B p)
    (hq : Composed B q) : Composed B (if c then p else q) := by
  split
  · exact hp
  · exact hq

theorem forM {f : α → Program S ε PUnit} {l : List α} (hf : ∀ a ∈ l, Composed B (f a)) :
    Composed B (l.forM f) := by
  induction l with
  | nil => exact .pure _
  | cons a rest ih =>
    show Composed B (f a >>= fun _ => rest.forM f)
    exact .bind (hf a List.mem_cons_self)
      (fun _ => ih (fun b hb => hf b (List.mem_cons_of_mem _ hb)))

/-- **What all blocks preserve, a program composed of them preserves.** -/
theorem preserves {handler : Handler S ε σ}
    (hblock : ∀ {α : Type} {p : Program S ε α} {s s' : σ} {a : α}, B α p →
      p.run handler s = .ok (a, s') → P s → P s')
    (hp : Composed B p) (h : p.run handler s = .ok (a, s')) (hs : P s) : P s' := by
  induction hp generalizing s s' with
  | pure a =>
    cases h
    exact hs
  | raise e => cases h
  | block hb => exact hblock hb h hs
  | @bind α β p f _ _ ihp ihf =>
    rw [run_bind] at h
    cases hfirst : p.run handler s with
    | error e => rw [hfirst] at h; cases h
    | ok as =>
      obtain ⟨b, s₁⟩ := as
      rw [hfirst] at h
      exact ihf b h (ihp hfirst hs)

end Composed

end Program

end Foundation
