/-
# Threads over a shared state

The code of a thread is a tree of atomic actions and answers from outside.  A thread is sound in a
role when each of its actions keeps the invariant and does what the role guarantees, whatever the
other threads do between two of them as far as the role relies on it.  Code that may fail has
triples (`Role.Triple`), over what a thread may know; a team of threads, each of which may start a
call, end it or crash, keeps the invariant that its roles share (`Team.inv_of_run`).
-/
import Mathlib.Tactic.Common
import Mathlib.Logic.Relation

namespace Foundation

/-- The code of a thread: it ends, does an atomic action, or asks the outside. -/
inductive Code (σ α : Type) : Type 1
  | ret (a : α)
  | act {β : Type} (f : σ → β × σ) (next : β → Code σ α)
  | ask {β : Type} (next : β → Code σ α)

namespace Code

variable {σ α β : Type}

def bind : Code σ α → (α → Code σ β) → Code σ β
  | ret a, k => k a
  | act f next, k => act f fun b => (next b).bind k
  | ask next, k => ask fun b => (next b).bind k

instance : Monad (Code σ) where
  pure := ret
  bind := bind

/-- One atomic action. -/
def atomically (f : σ → β × σ) : Code σ β := act f ret

/-- Any answer from outside. -/
def anything (β : Type) : Code σ β := ask fun b => ret b

/-- One step of a thread. -/
inductive Step : σ → Code σ α → σ → Code σ α → Prop
  | act {β : Type} {s : σ} {f : σ → β × σ} {next : β → Code σ α} :
      Step s (act f next) (f s).2 (next (f s).1)
  | ask {β : Type} {s : σ} {next : β → Code σ α} (b : β) : Step s (ask next) s (next b)

/-- Some steps of a thread alone. -/
inductive Steps : σ → Code σ α → σ → Code σ α → Prop
  | refl {s : σ} {code : Code σ α} : Steps s code s code
  | head {s s' s'' : σ} {code code' code'' : Code σ α} (hstep : Step s code s' code')
      (hsteps : Steps s' code' s'' code'') : Steps s code s'' code''

theorem Steps.trans {s s' s'' : σ} {code code' code'' : Code σ α} (h : Steps s code s' code')
    (h' : Steps s' code' s'' code'') : Steps s code s'' code'' := by
  induction h with
  | refl => exact h'
  | head hstep _ ih => exact .head hstep (ih h')

theorem Steps.bind {s s' : σ} {code code' : Code σ α} (h : Steps s code s' code')
    (k : α → Code σ β) : Steps s (code.bind k) s' (code'.bind k) := by
  induction h with
  | refl => exact .refl
  | head hstep _ ih =>
    cases hstep with
    | act => exact .head .act ih
    | ask b => exact .head (.ask b) ih

/-- Code that ends has ended before what comes after it. -/
theorem Steps.of_bind {s s'' : σ} {code : Code σ α} {k : α → Code σ β} {b : β}
    (h : Steps s (code.bind k) s'' (.ret b)) :
    ∃ s' a, Steps s code s' (.ret a) ∧ Steps s' (k a) s'' (.ret b) := by
  induction code generalizing s with
  | ret a => exact ⟨s, a, .refl, h⟩
  | act f next ih =>
    cases h with
    | head hstep hsteps =>
      cases hstep
      obtain ⟨s', a, hcode, hk⟩ := ih _ hsteps
      exact ⟨s', a, .head .act hcode, hk⟩
  | ask next ih =>
    cases h with
    | head hstep hsteps =>
      cases hstep with
      | ask answer =>
        obtain ⟨s', a, hcode, hk⟩ := ih _ hsteps
        exact ⟨s', a, .head (.ask answer) hcode, hk⟩

/-- Code that ends is followed by what comes after it. -/
theorem Steps.bind_ret {s s' s'' : σ} {code : Code σ α} {a : α} {k : α → Code σ β}
    {code' : Code σ β} (h : Steps s code s' (.ret a)) (hk : Steps s' (k a) s'' code') :
    Steps s (code >>= k) s'' code' :=
  (h.bind k).trans hk

/-- Alone, the code comes to a place from which the state may be changed by `f`. -/
def Ready (s : σ) (code : Code σ α) (s' : σ) (f : σ → σ) : Prop :=
  ∃ code', Steps s code s' code' ∧ ∀ t, ∃ code'', Steps t code' (f t) code''

theorem Ready.bind {s s' : σ} {code : Code σ α} {f : σ → σ} (h : Ready s code s' f)
    (k : α → Code σ β) : Ready s (code.bind k) s' f := by
  obtain ⟨code', hsteps, hnext⟩ := h
  refine ⟨code'.bind k, hsteps.bind k, ?_⟩
  intro t
  obtain ⟨code'', hcode⟩ := hnext t
  exact ⟨code''.bind k, hcode.bind k⟩

end Code

/-- What a thread may rely on, and what it guarantees to the others. -/
structure Role (σ : Type) where
  inv : σ → Prop
  rely : σ → σ → Prop
  guarantee : σ → σ → Prop
  rely_refl : ∀ s, rely s s
  rely_trans : ∀ {s s' s''}, rely s s' → rely s' s'' → rely s s''

namespace Role

variable {σ α β : Type} (role : Role σ)

/-- The code keeps the invariant and the guarantee from a state on, and ends as `post` says. -/
def Good (post : α → σ → Prop) : Code σ α → σ → Prop
  | .ret a, s => ∀ s', role.rely s s' → role.inv s' → post a s'
  | .act f next, s => ∀ s', role.rely s s' → role.inv s' →
    role.inv (f s').2 ∧ role.guarantee s' (f s').2 ∧ Good post (next (f s').1) (f s').2
  | .ask next, s => ∀ s', role.rely s s' → role.inv s' → ∀ b, Good post (next b) s'

variable {role} {post : α → σ → Prop} {code : Code σ α} {s s' : σ}

/-- What the others do does not matter. -/
theorem Good.stable (h : role.Good post code s) (hrely : role.rely s s') :
    role.Good post code s' := by
  cases code with
  | ret a => exact fun s'' hrely' => h s'' (role.rely_trans hrely hrely')
  | act f next => exact fun s'' hrely' => h s'' (role.rely_trans hrely hrely')
  | ask next => exact fun s'' hrely' => h s'' (role.rely_trans hrely hrely')

theorem Good.of_forall (h : ∀ s', role.rely s s' → role.inv s' → role.Good post code s') :
    role.Good post code s := by
  cases code with
  | ret a => exact fun s' hrely hinv => h s' hrely hinv s' (role.rely_refl s') hinv
  | act f next => exact fun s' hrely hinv => h s' hrely hinv s' (role.rely_refl s') hinv
  | ask next => exact fun s' hrely hinv => h s' hrely hinv s' (role.rely_refl s') hinv

theorem Good.bind {M : α → σ → Prop} {k : α → Code σ β} {post : β → σ → Prop}
    (h : role.Good M code s) (hk : ∀ a s', role.inv s' → M a s' → role.Good post (k a) s') :
    role.Good post (code >>= k) s := by
  show role.Good post (code.bind k) s
  induction code generalizing s with
  | ret a => exact of_forall fun s' hrely hinv => hk a s' hinv (h s' hrely hinv)
  | act f next ih =>
    intro s' hrely hinv
    obtain ⟨hinv', hguarantee, hnext⟩ := h s' hrely hinv
    exact ⟨hinv', hguarantee, ih _ hnext⟩
  | ask next ih => exact fun s' hrely hinv b => ih b (h s' hrely hinv b)

/-- The rule of consequence. -/
theorem Good.imp {post' : α → σ → Prop} (h : role.Good post code s)
    (himp : ∀ a s', role.inv s' → post a s' → post' a s') : role.Good post' code s := by
  induction code generalizing s with
  | ret a => exact fun s' hrely hinv => himp a s' hinv (h s' hrely hinv)
  | act f next ih =>
    intro s' hrely hinv
    obtain ⟨hinv', hguarantee, hnext⟩ := h s' hrely hinv
    exact ⟨hinv', hguarantee, ih _ hnext⟩
  | ask next ih => exact fun s' hrely hinv b => ih b (h s' hrely hinv b)

/-- What neither the others nor a guaranteed action destroys holds at every end. -/
theorem Good.keeps {P : σ → Prop} (h : role.Good post code s) (hstable : ∀ s s', role.rely s s' →
      role.inv s' → P s → P s') (hown : ∀ s s', role.guarantee s s' → P s → P s') (hs : P s) :
    role.Good (fun _ => P) code s := by
  induction code generalizing s with
  | ret a => exact fun s' hrely hinv => hstable s s' hrely hinv hs
  | act f next ih =>
    intro s' hrely hinv
    obtain ⟨hinv', hguarantee, hnext⟩ := h s' hrely hinv
    exact ⟨hinv', hguarantee, ih _ hnext (hown _ _ hguarantee (hstable s s' hrely hinv hs))⟩
  | ask next ih =>
    exact fun s' hrely hinv b => ih b (h s' hrely hinv b) (hstable s s' hrely hinv hs)

/-- A step of sound code keeps the invariant and the guarantee, and leaves sound code. -/
theorem Good.step {code' : Code σ α} (h : role.Good post code s) (hinv : role.inv s)
    (hstep : Code.Step s code s' code') :
    role.inv s' ∧ (s' = s ∨ role.guarantee s s') ∧ role.Good post code' s' := by
  cases hstep with
  | act =>
    obtain ⟨hinv', hguarantee, hnext⟩ := h s (role.rely_refl s) hinv
    exact ⟨hinv', .inr hguarantee, hnext⟩
  | ask b => exact ⟨hinv, .inl rfl, h s (role.rely_refl s) hinv b⟩

/-- Something known of the state that the others do not destroy. -/
def Stable (role : Role σ) (P : σ → Prop) : Prop :=
  ∀ s s', role.rely s s' → role.inv s' → P s → P s'

theorem Good.ret {a : α} (hstable : role.Stable (post a)) (h : post a s) :
    role.Good post (pure a) s :=
  fun s' hrely hinv => hstable s s' hrely hinv h

/-- The rule of one action, from what is known before it. -/
theorem Good.atomically {P : σ → Prop} {f : σ → β × σ} {Q : β → σ → Prop}
    (hstable : role.Stable P) (hs : P s) (h : ∀ s', role.inv s' → P s' →
      role.inv (f s').2 ∧ role.guarantee s' (f s').2 ∧ Q (f s').1 (f s').2)
    (hpost : ∀ b, role.Stable (Q b)) : role.Good Q (Code.atomically f) s := by
  intro s' hrely hinv
  obtain ⟨hinv', hguarantee, hpost'⟩ := h s' hinv (hstable s s' hrely hinv hs)
  exact ⟨hinv', hguarantee, fun s'' hrely' hinv'' => hpost _ _ _ hrely' hinv'' hpost'⟩

theorem Good.anything {P : σ → Prop} (hstable : role.Stable P) (hs : P s) :
    role.Good (fun (_ : β) => P) (Code.anything β) s :=
  fun _ hrely hinv _ _ hrely' hinv' => hstable _ _ hrely' hinv' (hstable _ _ hrely hinv hs)

end Role

/-! ## Code that may fail -/

/-- Code that answers or fails. -/
abbrev Fallible (σ ε α : Type) : Type 1 := ExceptT ε (Code σ) α

namespace Fallible

variable {σ ε α β : Type}

/-- One atomic action. -/
def act (f : σ → α × σ) : Fallible σ ε α := ExceptT.lift (Code.atomically f)

/-- One atomic action that may fail. -/
def tryAct (f : σ → Except ε α × σ) : Fallible σ ε α := ExceptT.mk (Code.atomically f)

/-- Any answer from outside. -/
def anything (α : Type) : Fallible σ ε α := ExceptT.lift (Code.anything α)

/-- Any answer or failure from outside. -/
def outside (α : Type) : Fallible σ ε α := ExceptT.mk (Code.anything (Except ε α))

/-- An answer or a failure that is there. -/
def result (r : Except ε α) : Fallible σ ε α := ExceptT.mk (Code.ret r)

/-- How the code ended. -/
def attempt (code : Fallible σ ε α) : Fallible σ ε (Except ε α) := ExceptT.lift code.run

/-- Alone, the code may end like this. -/
def Returns (s : σ) (code : Fallible σ ε α) (s' : σ) (r : Except ε α) : Prop :=
  Code.Steps s code.run s' (.ret r)

namespace Returns

variable {s s' s'' : σ} {code : Fallible σ ε α} {a : α} {e : ε} {r r' : Except ε α}

theorem ret : Returns s (pure a : Fallible σ ε α) s (.ok a) := .refl

theorem result : Returns s (Fallible.result r) s r := .refl

theorem act {f : σ → α × σ} (h : f s = (a, s')) : Returns s (Fallible.act f) s' (.ok a : Except ε α) := by
  have hstep : Code.Steps s (Fallible.act f : Fallible σ ε α).run (f s).2 (.ret (.ok (f s).1)) :=
    .head .act .refl
  rwa [h] at hstep

theorem tryAct {f : σ → Except ε α × σ} (h : f s = (r, s')) : Returns s (Fallible.tryAct f) s' r := by
  have hstep : Code.Steps s (Fallible.tryAct f).run (f s).2 (.ret (f s).1) := .head .act .refl
  rwa [h] at hstep

theorem outside (r : Except ε α) : Returns s (Fallible.outside α) s r := .head (.ask r) .refl

theorem anything (a : α) : Returns s (Fallible.anything α) s (.ok a : Except ε α) :=
  .head (.ask a) .refl

theorem attempt (h : Returns s code s' r) : Returns s (Fallible.attempt code) s' (.ok r) :=
  .bind h _

theorem bind {k : α → Fallible σ ε β} {r : Except ε β} (h : Returns s code s' (.ok a))
    (hk : Returns s' (k a) s'' r) : Returns s (code >>= k) s'' r :=
  (Code.Steps.bind h _).trans hk

theorem bind_error {k : α → Fallible σ ε β} (h : Returns s code s' (.error e)) :
    Returns s (code >>= k) s' (.error e) :=
  Code.Steps.bind h _

theorem of_bind {k : α → Fallible σ ε β} {b : β} (h : Returns s (code >>= k) s'' (.ok b)) :
    ∃ s' a, Returns s code s' (.ok a) ∧ Returns s' (k a) s'' (.ok b) := by
  obtain ⟨s', r, hcode, hk⟩ := Code.Steps.of_bind h
  cases r with
  | ok a => exact ⟨s', a, hcode, hk⟩
  | error e => cases hk with | head hstep => cases hstep

theorem of_result (h : Returns s (Fallible.result r) s' r') : r' = r := by
  cases h with
  | refl => rfl
  | head hstep => cases hstep

theorem of_attempt (h : Returns s (Fallible.attempt code) s' (.ok r)) : Returns s code s' r := by
  obtain ⟨s'', r', hcode, hk⟩ := Code.Steps.of_bind h
  cases hk with
  | refl => exact hcode
  | head hstep => cases hstep

/-- What comes after code that returns. -/
theorem ready {k : α → Fallible σ ε β} {f : σ → σ} (h : Returns s code s' (.ok a))
    (hk : Code.Ready s' (k a).run s'' f) : Code.Ready s (code >>= k).run s'' f := by
  obtain ⟨code', hsteps, hnext⟩ := hk
  exact ⟨code', (Code.Steps.bind h _).trans hsteps, hnext⟩

/-- Code that would return from every state. -/
theorem ready_now {f : σ → σ} (h : ∀ t, Returns t code (f t) r) : Code.Ready s code.run s f :=
  ⟨code.run, .refl, fun t => ⟨_, h t⟩⟩

end Returns

end Fallible

/-! ## Triples -/

namespace Role

variable {σ ε α β : Type} {role : Role σ}

/-- What a thread may know: the others do not destroy it. -/
structure Known (role : Role σ) where
  holds : σ → Prop
  stable : role.Stable holds

namespace Known

/-- Nothing is known. -/
def top : role.Known := ⟨fun _ => True, fun _ _ _ _ h => h⟩

/-- Both are known. -/
def and (P Q : role.Known) : role.Known :=
  ⟨fun s => P.holds s ∧ Q.holds s, fun s s' hrely hinv h =>
    ⟨P.stable s s' hrely hinv h.1, Q.stable s s' hrely hinv h.2⟩⟩

/-- What is known of an answer or of a failure. -/
def ends (Q : α → role.Known) (E : role.Known) : Except ε α → role.Known
  | .ok a => Q a
  | .error _ => E

theorem good_ret (K : α → role.Known) {a : α} {s : σ} (h : (K a).holds s) :
    role.Good (fun a => (K a).holds) (pure a) s :=
  .ret (K a).stable h

end Known

/-- From a state of which `P` is known the code ends with an answer as `Q` says, or fails as `E`
says. -/
def Triple (P : role.Known) (code : Fallible σ ε α) (Q : α → role.Known) (E : role.Known) : Prop :=
  ∀ s, role.inv s → P.holds s → role.Good (fun r => (Known.ends Q E r).holds) code.run s

namespace Triple

variable {P P' E E' : role.Known} {Q Q' : α → role.Known} {code : Fallible σ ε α}

theorem ret {a : α} (h : ∀ s, role.inv s → P.holds s → (Q a).holds s) :
    Triple P (pure a : Fallible σ ε α) Q E :=
  fun s hinv hs => Known.good_ret (Known.ends Q E) (h s hinv hs)

theorem fail {e : ε} (h : ∀ s, role.inv s → P.holds s → E.holds s) :
    Triple P (throw e : Fallible σ ε α) Q E :=
  fun s hinv hs => Known.good_ret (Known.ends Q E) (h s hinv hs)

theorem bind {R : α → role.Known} {Q : β → role.Known} {k : α → Fallible σ ε β}
    (h : Triple P code R E) (hk : ∀ a, Triple (R a) (k a) Q E) : Triple P (code >>= k) Q E := by
  intro s hinv hs
  refine .bind (h s hinv hs) ?_
  intro r s' hinv' hr
  cases r with
  | ok a => exact hk a s' hinv' hr
  | error e => exact Known.good_ret (Known.ends Q E) hr

theorem imp (h : Triple P code Q E) (hpre : ∀ s, role.inv s → P'.holds s → P.holds s)
    (hpost : ∀ a s, role.inv s → (Q a).holds s → (Q' a).holds s)
    (herror : ∀ s, role.inv s → E.holds s → E'.holds s) : Triple P' code Q' E' := by
  intro s hinv hs
  refine (h s hinv (hpre s hinv hs)).imp ?_
  intro r s' hinv' hr
  cases r with
  | ok a => exact hpost a s' hinv' hr
  | error e => exact herror s' hinv' hr

/-- The rule of one action. -/
theorem act {f : σ → α × σ} (h : ∀ s, role.inv s → P.holds s →
      role.inv (f s).2 ∧ role.guarantee s (f s).2 ∧ (Q (f s).1).holds (f s).2) :
    Triple P (Fallible.act f : Fallible σ ε α) Q E := by
  intro s _ hs
  refine .bind (.atomically (Q := fun a => (Q a).holds) P.stable hs h
    (fun a => (Q a).stable)) ?_
  intro a s' _ ha
  exact Known.good_ret (Known.ends Q E) ha

theorem tryAct {f : σ → Except ε α × σ}
    (h : ∀ s, role.inv s → P.holds s → role.inv (f s).2 ∧ role.guarantee s (f s).2 ∧
      (Known.ends Q E (f s).1).holds (f s).2) :
    Triple P (Fallible.tryAct f) Q E := by
  intro s _ hs
  exact .atomically (Q := fun r => (Known.ends Q E r).holds) P.stable hs h
    (fun r => (Known.ends Q E r).stable)

theorem anything : Triple P (Fallible.anything α : Fallible σ ε α) (fun _ => P) E := by
  intro s _ hs
  refine .bind (.anything P.stable hs) ?_
  intro a s' _ ha
  exact Known.good_ret (Known.ends (fun _ => P) E) ha

theorem outside : Triple P (Fallible.outside α : Fallible σ ε α) (fun _ => P) P := by
  intro s _ hs
  refine (Good.anything P.stable hs).imp ?_
  intro r s' _ hr
  cases r with
  | ok a => exact hr
  | error e => exact hr

theorem result {r : Except ε α} : Triple P (Fallible.result r) (fun _ => P) P := by
  cases r with
  | ok a => exact ret fun _ _ h => h
  | error e => exact fail fun _ _ h => h

/-- The rule of frame: what a guaranteed action does not destroy stays known, also of a failure. -/
theorem frame (h : Triple P code Q E)
    (hown : ∀ s s', role.guarantee s s' → P.holds s → P.holds s') :
    Triple P code (fun _ => P) P := by
  intro s hinv hs
  refine ((h s hinv hs).keeps P.stable hown hs).imp ?_
  intro r s' _ hr
  cases r with
  | ok a => exact hr
  | error e => exact hr

/-- The rule of code whose end is looked at. -/
theorem attempt {Q : Except ε α → role.Known} {F : role.Known}
    (h : Triple P code (fun a => Q (.ok a)) E) (herror : ∀ e s, E.holds s → (Q (.error e)).holds s) :
    Triple P (Fallible.attempt code) Q F := by
  intro s hinv hs
  refine .bind (h s hinv hs) ?_
  intro r s' _ hr
  refine Known.good_ret (Known.ends Q F) ?_
  cases r with
  | ok a => exact hr
  | error e => exact herror e s' hr

end Triple

end Role

/-! ## Teams -/

/-- Threads that keep one invariant, each relying on the others. -/
structure Team (ι σ : Type) where
  inv : σ → Prop
  rely : ι → σ → σ → Prop
  rely_refl : ∀ i s, rely i s s
  rely_trans : ∀ i {s s' s''}, rely i s s' → rely i s' s'' → rely i s s''

namespace Team

variable {ι σ : Type} (team : Team ι σ)

/-- A thread guarantees to every other what it relies on. -/
def role (i : ι) : Role σ where
  inv := team.inv
  rely := team.rely i
  guarantee := fun s s' => ∀ j, j ≠ i → team.rely j s s'
  rely_refl := team.rely_refl i
  rely_trans := team.rely_trans i

/-- The shared state, and what is left of the call of each thread. -/
structure System (ι σ : Type) where
  shared : σ
  threads : ι → Option (Code σ Unit)

variable [DecidableEq ι] (calls : ι → Code σ Unit → Prop) (crash : ι → σ → σ)

/-- One step of some thread: it starts a call, goes on, ends or crashes. -/
inductive Step : System ι σ → System ι σ → Prop
  | start {s : σ} {threads : ι → Option (Code σ Unit)} {i : ι} {code : Code σ Unit}
      (hidle : threads i = none) (hcall : calls i code) :
      Step ⟨s, threads⟩ ⟨s, Function.update threads i (some code)⟩
  | run {s s' : σ} {threads : ι → Option (Code σ Unit)} {i : ι} {code code' : Code σ Unit}
      (hcode : threads i = some code) (hstep : Code.Step s code s' code') :
      Step ⟨s, threads⟩ ⟨s', Function.update threads i (some code')⟩
  | finish {s : σ} {threads : ι → Option (Code σ Unit)} {i : ι}
      (hcode : threads i = some (.ret ())) : Step ⟨s, threads⟩ ⟨s, Function.update threads i none⟩
  | crash {s : σ} {threads : ι → Option (Code σ Unit)} (i : ι) :
      Step ⟨s, threads⟩ ⟨crash i s, Function.update threads i none⟩

/-- Every call under way is sound in the role of its thread. -/
def Sound (system : System ι σ) : Prop :=
  team.inv system.shared ∧ ∀ i code, system.threads i = some code →
    ∃ post, (team.role i).Good post code system.shared

variable {team calls crash}

variable {threads : ι → Option (Code σ Unit)}

/-- One thread goes on alone for a while. -/
theorem run_alone {s s' : σ} {i : ι} {code code' : Code σ Unit} (h : Code.Steps s code s' code')
    (hcode : threads i = some code) :
    Relation.ReflTransGen (Step calls crash) ⟨s, threads⟩
      ⟨s', Function.update threads i (some code')⟩ := by
  induction h generalizing threads with
  | refl => rw [← hcode, Function.update_eq_self]
  | @head s mid s' code next code' hstep _ ih =>
    have hrest := ih (Function.update_self i (some next) threads)
    rw [Function.update_idem] at hrest
    exact hrest.head (.run hcode hstep)

theorem Sound.update {s s' : σ} {i : ι} {next : Option (Code σ Unit)} (h : Sound team ⟨s, threads⟩)
    (hinv : team.inv s') (hothers : ∀ j, j ≠ i → team.rely j s s')
    (hnext : ∀ code, next = some code → ∃ post, (team.role i).Good post code s') :
    Sound team ⟨s', Function.update threads i next⟩ := by
  refine ⟨hinv, ?_⟩
  intro j code hcode
  by_cases hj : j = i
  · subst hj
    exact hnext code (by simpa using hcode)
  · obtain ⟨post, hgood⟩ := h.2 j code (by simpa [hj] using hcode)
    exact ⟨post, hgood.stable (hothers j hj)⟩

variable {system system' : System ι σ}

/-- A step keeps a team sound. -/
theorem Sound.step (h : Sound team system) (hstep : Step calls crash system system')
    (hcalls : ∀ i code s, calls i code → team.inv s → ∃ post, (team.role i).Good post code s)
    (hcrash : ∀ i s, team.inv s → team.inv (crash i s) ∧ ∀ j, j ≠ i → team.rely j s (crash i s)) :
    Sound team system' := by
  cases hstep with
  | start hidle hcall =>
    refine h.update h.1 (fun j _ => team.rely_refl j _) ?_
    intro code hcode
    cases hcode
    exact hcalls _ _ _ hcall h.1
  | @run s s' threads i code code' hcode hstep =>
    obtain ⟨post, hgood⟩ := h.2 i code hcode
    obtain ⟨hinv, hothers, hnext⟩ := hgood.step h.1 hstep
    refine h.update hinv ?_ ?_
    · intro j hj
      rcases hothers with rfl | hothers
      · exact team.rely_refl j _
      · exact hothers j hj
    · intro code hcode
      cases hcode
      exact ⟨post, hnext⟩
  | finish hcode => exact h.update h.1 (fun j _ => team.rely_refl j _) (by nofun)
  | crash i =>
    obtain ⟨hinv, hothers⟩ := hcrash i _ h.1
    exact h.update hinv hothers (by nofun)

/-- Sound calls keep the invariant in every run. -/
theorem inv_of_run (hrun : Relation.ReflTransGen (Step calls crash) system system')
    (h : Sound team system)
    (hcalls : ∀ i code s, calls i code → team.inv s → ∃ post, (team.role i).Good post code s)
    (hcrash : ∀ i s, team.inv s → team.inv (crash i s) ∧ ∀ j, j ≠ i → team.rely j s (crash i s)) :
    team.inv system'.shared := by
  have hsound : Sound team system' := by
    induction hrun with
    | refl => exact h
    | tail _ hstep ih => exact ih.step hstep hcalls hcrash
  exact hsound.1

end Team

end Foundation
