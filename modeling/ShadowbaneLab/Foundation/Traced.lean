/-
# Programs that call an environment

A traced program records each call it makes with the answer it got.  The environment answers from
the whole trace, so that it can behave in any way, and a rule for a call must allow any answer.
-/
import Mathlib.Data.List.Basic
import ShadowbaneLab.Foundation.Stateful

namespace Foundation

/-- A state with the trace of the calls that were made. -/
structure Traced (σ δ : Type) where
  state : σ
  trace : List δ := []

variable {ε σ δ α β : Type}

namespace Traced

/-- Calls the environment, which answers or raises. -/
def ask (answer : List δ → Except ε α) (event : Except ε α → δ) : EStateM ε (Traced σ δ) α := do
  let s ← get
  let result := answer s.trace
  set { s with trace := s.trace ++ [event result] }
  match result with
  | .ok a => return a
  | .error e => throw e

/-- Changes the state. -/
def update (f : σ → σ) : EStateM ε (Traced σ δ) Unit :=
  modify fun s => { s with state := f s.state }

variable {pre : Traced σ δ → Prop} {fails : ε → Traced σ δ → Prop}

/-- The rule of a call: whatever is answered, its event comes to the trace. -/
theorem ensures_ask {post : α → Traced σ δ → Prop} {answer : List δ → Except ε α}
    {event : Except ε α → δ}
    (hok : ∀ s a, pre s → post a { s with trace := s.trace ++ [event (.ok a)] })
    (herror : ∀ s e, pre s → fails e { s with trace := s.trace ++ [event (.error e)] }) :
    Ensures pre (ask answer event) post fails := by
  refine .get_bind fun s hs => ?_
  cases hanswer : answer s.trace with
  | ok a =>
    rintro _ rfl
    exact hok _ a hs
  | error e =>
    rintro _ rfl
    exact herror _ e hs

theorem ensures_update {post : Unit → Traced σ δ → Prop} {f : σ → σ}
    (h : ∀ s, pre s → post ⟨⟩ { s with state := f s.state }) : Ensures pre (update f) post fails :=
  .modify h

end Traced

/-! ## Histories -/

/-- A place in a history with one more event is the new event's or one before. -/
theorem split_append {history before after : List δ} {x y : δ}
    (h : history ++ [y] = before ++ x :: after) :
    (before = history ∧ x = y ∧ after = []) ∨
      ∃ rest, after = rest ++ [y] ∧ history = before ++ x :: rest := by
  rcases List.eq_nil_or_concat' after with rfl | ⟨rest, last, rfl⟩
  · obtain ⟨hhistory, hlast⟩ := List.append_inj' h rfl
    exact .inl ⟨hhistory.symm, (List.singleton_injective hlast).symm, rfl⟩
  · rw [← List.cons_append, ← List.append_assoc] at h
    obtain ⟨hhistory, hlast⟩ := List.append_inj' h rfl
    cases hlast
    exact .inr ⟨rest, rfl, hhistory⟩

/-- Every event of a trace was allowed by what came before it. -/
def Foreseen (P : List δ → δ → Prop) (trace : List δ) : Prop :=
  ∀ before e after, trace = before ++ e :: after → P before e

namespace Foreseen

variable {P : List δ → δ → Prop} {trace : List δ} {e : δ}

theorem nil : Foreseen P [] := fun before e after h => by cases before <;> cases h

theorem append (h : Foreseen P trace) (he : P trace e) : Foreseen P (trace ++ [e]) := by
  intro before x after heq
  rcases split_append heq with ⟨rfl, rfl, -⟩ | ⟨rest, -, hold⟩
  · exact he
  · exact h before x rest hold

theorem of_append (h : Foreseen P (trace ++ [e])) : Foreseen P trace ∧ P trace e :=
  ⟨fun before x after heq => h before x (after ++ [e]) (by rw [heq, List.append_assoc,
    List.cons_append]), h trace e [] rfl⟩

end Foreseen

/-! ## What is left open -/

/-- An event of a trace opened something that no later event closed. -/
def Unclosed (opens closes : δ → Prop) (trace : List δ) : Prop :=
  ∃ before e after, trace = before ++ e :: after ∧ opens e ∧ ∀ x ∈ after, ¬ closes x

namespace Unclosed

variable {opens closes : δ → Prop} {trace : List δ} {e : δ}

theorem not_nil : ¬ Unclosed opens closes [] := by
  rintro ⟨before, e, after, h, -⟩
  cases before <;> cases h

theorem append_singleton_iff :
    Unclosed opens closes (trace ++ [e]) ↔ opens e ∨ Unclosed opens closes trace ∧ ¬ closes e := by
  constructor
  · rintro ⟨before, x, after, heq, hopens, hafter⟩
    rcases split_append heq with ⟨-, rfl, -⟩ | ⟨rest, rfl, rfl⟩
    · exact .inl hopens
    · refine .inr ⟨⟨before, x, rest, rfl, hopens, fun z hz => ?_⟩, hafter e (by simp)⟩
      exact hafter z (List.mem_append_left _ hz)
  · rintro (hopens | ⟨⟨before, x, after, rfl, hopens, hafter⟩, hcloses⟩)
    · exact ⟨trace, e, [], rfl, hopens, nofun⟩
    · refine ⟨before, x, after ++ [e], by rw [List.append_assoc, List.cons_append], hopens, ?_⟩
      intro z hz
      rcases List.mem_append.1 hz with hz | hz
      · exact hafter z hz
      · rwa [List.mem_singleton.1 hz]

/-- Events that open and close nothing. -/
theorem append_iff {events : List δ} (h : ∀ x ∈ events, ¬ opens x ∧ ¬ closes x) :
    Unclosed opens closes (trace ++ events) ↔ Unclosed opens closes trace := by
  induction events generalizing trace with
  | nil => rw [List.append_nil]
  | cons x events ih =>
    obtain ⟨hopens, hcloses⟩ := h x List.mem_cons_self
    rw [← List.singleton_append, ← List.append_assoc,
      ih fun y hy => h y (List.mem_cons_of_mem x hy), append_singleton_iff]
    exact ⟨fun hx => hx.elim (absurd · hopens) And.left, fun hx => .inr ⟨hx, hcloses⟩⟩

end Unclosed

end Foundation
