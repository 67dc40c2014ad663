/-
# Computations that raise and keep what they did

Rules for `EStateM` without rollback: an exception leaves the state as it was when it was
raised.  `Ensures` says how a computation can end from some states, both ways.
-/
import Mathlib.Logic.Basic

namespace Foundation

variable {ε σ α β : Type}

/-- From every state of `pre`, a computation returns as `post` says, or raises as `fails` says. -/
def Ensures (pre : σ → Prop) (program : EStateM ε σ α) (post : α → σ → Prop)
    (fails : ε → σ → Prop) : Prop :=
  ∀ s, pre s → match program.run s with
    | .ok a s' => post a s'
    | .error e s' => fails e s'

/-- The state that a computation leaves, however it ends. -/
def finalState (program : EStateM ε σ α) (s : σ) : σ :=
  match program.run s with
  | .ok _ s' => s'
  | .error _ s' => s'

/-- A handler goes on from the state in which the exception was raised. -/
theorem run_tryCatch (program : EStateM ε σ α) (handler : ε → EStateM ε σ α) (s : σ) :
    (tryCatch program handler).run s = match program.run s with
      | .ok a s' => .ok a s'
      | .error e s' => (handler e).run s' := by
  show EStateM.tryCatch program handler s = _
  unfold EStateM.tryCatch
  cases hrun : program.run s <;> rw [show program s = _ from hrun] <;> rfl

variable {next : σ → EStateM ε σ α}

variable {handler : ε → EStateM ε σ α}

variable {body : α → EStateM ε σ PUnit}

variable {other : EStateM ε σ α}

namespace Ensures

variable {pre : σ → Prop} {program : EStateM ε σ α} {post : α → σ → Prop} {fails : ε → σ → Prop}

theorem ok (h : Ensures pre program post fails) {s s' : σ} {a : α} (hs : pre s)
    (hrun : program.run s = .ok a s') : post a s' := by
  have hends := h s hs
  rw [hrun] at hends
  exact hends

theorem error (h : Ensures pre program post fails) {s s' : σ} {e : ε} (hs : pre s)
    (hrun : program.run s = .error e s') : fails e s' := by
  have hends := h s hs
  rw [hrun] at hends
  exact hends

theorem finalState {inv : σ → Prop} (h : Ensures pre program (fun _ => inv) fun _ => inv) {s : σ}
    (hs : pre s) : inv (finalState program s) := by
  rw [Foundation.finalState]
  cases hrun : program.run s with
  | ok a s' => exact h.ok hs hrun
  | error e s' => exact h.error hs hrun

/-- The rule of consequence. -/
theorem weaken {pre' : σ → Prop} {post' : α → σ → Prop} {fails' : ε → σ → Prop}
    (h : Ensures pre program post fails) (hpre : ∀ s, pre' s → pre s)
    (hpost : ∀ a s, post a s → post' a s) (hfails : ∀ e s, fails e s → fails' e s) :
    Ensures pre' program post' fails' := by
  intro s hs
  cases hrun : program.run s with
  | ok a s' => exact hpost a s' (h.ok (hpre s hs) hrun)
  | error e s' => exact hfails e s' (h.error (hpre s hs) hrun)

theorem mono_pre {pre' : σ → Prop} (h : Ensures pre program post fails)
    (hpre : ∀ s, pre' s → pre s) : Ensures pre' program post fails :=
  fun s hs => h s (hpre s hs)

/-- A computation is followed from each state that it may start in. -/
theorem from_state (h : ∀ s₀, pre s₀ → Ensures (fun s => s = s₀) program post fails) :
    Ensures pre program post fails :=
  fun s hs => h s hs s rfl

/-- A fact that the state does not matter for is assumed once. -/
theorem assume {fact : Prop} (h : fact → Ensures pre program post fails) :
    Ensures (fun s => pre s ∧ fact) program post fails :=
  fun s hs => h hs.2 s hs.1

/-- Reading the state keeps what is known of it. -/
theorem get_keep (h : ∀ s₀, pre s₀ → Ensures (fun s => pre s ∧ s = s₀) (next s₀) post fails) :
    Ensures pre (get >>= next) post fails :=
  fun s hs => h s hs s ⟨hs, rfl⟩

theorem pure {a : α} (h : ∀ s, pre s → post a s) :
    Ensures pre (Pure.pure a : EStateM ε σ α) post fails := h

theorem throw {e : ε} (h : ∀ s, pre s → fails e s) :
    Ensures pre (MonadExcept.throw e : EStateM ε σ α) post fails := h

theorem bind {mid : α → σ → Prop} {next : α → EStateM ε σ β} {post : β → σ → Prop}
    (h : Ensures pre program mid fails) (hnext : ∀ a, Ensures (mid a) (next a) post fails) :
    Ensures pre (program >>= next) post fails := by
  intro s hs
  rw [EStateM.run_bind]
  cases hrun : program.run s with
  | ok a s' => exact hnext a s' (h.ok hs hrun)
  | error e s' => exact h.error hs hrun

/-- The rule of sequencing with what is known in between. -/
theorem bind_via (mid : α → σ → Prop) {next : α → EStateM ε σ β} {post : β → σ → Prop}
    (h : Ensures pre program mid fails) (hnext : ∀ a, Ensures (mid a) (next a) post fails) :
    Ensures pre (program >>= next) post fails :=
  bind h hnext

/-- What is read is the state. -/
theorem get_bind (h : ∀ s₀, pre s₀ → Ensures (fun s => s = s₀) (next s₀) post fails) :
    Ensures pre (get >>= next) post fails :=
  fun s hs => h s hs s rfl

theorem modify {f : σ → σ} {post : PUnit → σ → Prop} (h : ∀ s, pre s → post ⟨⟩ (f s)) :
    Ensures pre (modifyGet (fun s => (⟨⟩, f s)) : EStateM ε σ PUnit) post fails := h

theorem modifyGet {f : σ → α × σ} (h : ∀ s, pre s → post (f s).1 (f s).2) :
    Ensures pre (modifyGet f : EStateM ε σ α) post fails := h

theorem ite {condition : Prop} [Decidable condition]
    (h : condition → Ensures pre program post fails)
    (hother : ¬condition → Ensures pre other post fails) :
    Ensures pre (if condition then program else other) post fails := by
  split
  · exact h ‹_›
  · exact hother ‹_›

theorem tryCatch {mid : ε → σ → Prop} (h : Ensures pre program post mid)
    (hhandler : ∀ e, Ensures (mid e) (handler e) post fails) :
    Ensures pre (MonadExcept.tryCatch program handler) post fails := by
  intro s hs
  rw [run_tryCatch]
  cases hrun : program.run s with
  | ok a s' => exact h.ok hs hrun
  | error e s' => exact hhandler e s' (h.error hs hrun)

/-- A loop keeps an invariant that its body keeps. -/
theorem forM {inv : σ → Prop} {fails : ε → σ → Prop} {l : List α}
    (h : ∀ a ∈ l, Ensures inv (body a) (fun _ => inv) fails) :
    Ensures inv (l.forM body) (fun _ => inv) fails := by
  induction l with
  | nil => exact pure (fun _ => id)
  | cons a l ih =>
    exact bind (h a List.mem_cons_self) (fun _ => ih (fun b hb => h b (List.mem_cons_of_mem a hb)))

end Ensures

/-- A computation keeps an invariant, however it ends. -/
def Keeps (inv : σ → Prop) (program : EStateM ε σ α) : Prop :=
  Ensures inv program (fun _ => inv) (fun _ => inv)

namespace Keeps

variable {inv : σ → Prop} {program : EStateM ε σ α}

theorem pure (a : α) : Keeps inv (Pure.pure a : EStateM ε σ α) := fun _ => id

theorem throw (e : ε) : Keeps inv (MonadExcept.throw e : EStateM ε σ α) := fun _ => id

theorem bind {next : α → EStateM ε σ β} (h : Keeps inv program) (hnext : ∀ a, Keeps inv (next a)) :
    Keeps inv (program >>= next) :=
  Ensures.bind h hnext

theorem get_bind (h : ∀ s, Keeps inv (next s)) : Keeps inv (get >>= next) :=
  fun s hs => h s s hs

theorem modify {f : σ → σ} (h : ∀ s, inv s → inv (f s)) :
    Keeps inv (modifyGet (fun s => (⟨⟩, f s)) : EStateM ε σ PUnit) := h

theorem modifyGet {f : σ → α × σ} (h : ∀ s, inv s → inv (f s).2) :
    Keeps inv (MonadStateOf.modifyGet f : EStateM ε σ α) := h

theorem ite {condition : Prop} [Decidable condition] (h : Keeps inv program)
    (hother : Keeps inv other) : Keeps inv (if condition then program else other) :=
  Ensures.ite (fun _ => h) (fun _ => hother)

theorem tryCatch (h : Keeps inv program) (hhandler : ∀ e, Keeps inv (handler e)) :
    Keeps inv (MonadExcept.tryCatch program handler) :=
  Ensures.tryCatch h hhandler

theorem forM {l : List α} (h : ∀ a ∈ l, Keeps inv (body a)) : Keeps inv (l.forM body) :=
  Ensures.forM h

end Keeps

end Foundation
