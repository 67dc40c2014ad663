/-
# What the movement controls leave alone

A property of runs that neither the answers of the actuator nor the calls that do not move can
end is kept by everything that stops, retires and inhibits.
-/
import ShadowbaneLab.Native.MovementControls

namespace ShadowbaneLab.Native.Movement

open Foundation

variable {F ρ : Type}

/-- The camera or the actor moves. -/
def Callback.moves : Callback F → Bool
  | .direction .. => true
  | .destination .. => true
  | .camera _ => true
  | .stop .. => false
  | .revoked .. => false
  | .sceneRetired _ => false

/-- A run with one more event. -/
def logged (s : Run F) (event : Event F) : Run F :=
  { s with trace := s.trace ++ [⟨s.state.grant, event⟩] }

namespace Controls

variable (actuator : Actuator F) (enter : List (Call F) → Run F → Run F)

/-- What a callback runs in. -/
def begun (s : Run F) (callback : Callback F) : Run F :=
  logged { s with state := { s.state with actuating := true } } (.begins callback)

/-- What the calls of a callback leave. -/
def nested (s : Run F) (callback : Callback F) : Run F :=
  enter (actuator.calls (begun s callback).trace callback) (begun s callback)

/-- What a callback answers. -/
def answer (s : Run F) (callback : Callback F) : Bool :=
  actuator.ok (nested actuator enter s callback).trace callback

/-- What a callback leaves. -/
def ended (s : Run F) (callback : Callback F) : Run F :=
  let s' := logged (nested actuator enter s callback)
    (.ends callback (answer actuator enter s callback))
  { s' with state := { s'.state with actuating := false } }

variable {actuator enter}

variable {pre : Run F → Prop} {fails : ρ → Run F → Prop} {callback : Callback F}

theorem ensures_ended {post : Bool → Run F → Prop}
    (h : ∀ s, pre s → post (answer actuator enter s callback) (ended actuator enter s callback)) :
    Ensures pre (Controls.callback actuator enter callback) post fails := h

/-- A property of runs that changes of the controls, questions and calls that do not move keep;
a change of the pending shutdown need not keep it. -/
structure Frame (actuator : Actuator F) (enter : List (Call F) → Run F → Run F)
    (inv : Run F → Prop) : Prop where
  update : ∀ s c, inv s → c.shutdownPending = s.state.shutdownPending → inv { s with state := c }
  interrupted : ∀ s, inv s → inv (logged s (.interrupted (actuator.interrupted s.trace)))
  ended : ∀ s callback, callback.moves = false → inv s → inv (ended actuator enter s callback)

/-- Reading the controls keeps what is known. -/
theorem ensures_reading {α : Type} {next : Controls F → M F ρ α} {post : α → Run F → Prop}
    (h : ∀ c, Ensures pre (next c) post fails) : Ensures pre (read >>= next) post fails :=
  fun s hs => h s.state s hs

namespace Frame

variable {inv : Run F → Prop} {fails : ρ → Run F → Prop}

section

variable (h : Frame actuator enter inv)
include h

theorem ensures_update {f : Controls F → Controls F}
    (hf : ∀ c, (f c).shutdownPending = c.shutdownPending) :
    Ensures inv (Traced.update f) (fun _ => inv) fails :=
  Traced.ensures_update fun s hs => h.update s _ hs (hf _)

theorem ensures_callback (hmoves : callback.moves = false) :
    Ensures inv (Controls.callback actuator enter callback) (fun _ => inv) fails :=
  ensures_ended fun s hs => h.ended s callback hmoves hs

theorem ensures_interrupted : Ensures inv (Controls.interrupted actuator) (fun _ => inv) fails :=
  fun s hs => h.interrupted s hs

theorem ensures_retryStop : Ensures inv (retryStop actuator enter) (fun _ => inv) fails := by
  refine ensures_reading fun c => .ite (fun _ => .pure fun _ hs => hs) fun _ => ?_
  refine .bind (h.ensures_callback rfl) fun ok => .ite (fun _ => ?_) fun _ =>
    .pure fun _ hs => hs
  exact .bind (h.ensures_update fun _ => rfl) fun _ => .pure fun _ hs => hs

theorem ensures_stopActive (reason : StopReason) :
    Ensures inv (stopActive actuator enter reason) (fun _ => inv) fails := by
  refine .bind h.ensures_retryStop fun ready => .ite (fun _ => ?_) fun _ =>
    .pure fun _ hs => hs
  refine ensures_reading fun c => .ite (fun _ => .pure fun _ hs => hs) fun _ => ?_
  refine .bind (h.ensures_update fun _ => rfl) fun _ => ?_
  refine .bind (h.ensures_callback rfl) fun ok => .ite
    (fun _ => .pure fun _ hs => hs) fun _ => ?_
  exact .bind (h.ensures_update fun _ => rfl) fun _ => .pure fun _ hs => hs

end

variable {reason : StopReason} {scene : Option UInt64}

variable {next : Owner} {token : Token}

section

variable (h : Frame actuator enter inv)
include h

theorem ensures_replaceGrant {old : Grant} :
    Ensures inv (replaceGrant actuator enter old reason next token scene) (fun _ => inv) fails := by
  refine ensures_reading fun c => .ite (fun _ => ?_) fun _ => ?_
  · exact .bind (h.ensures_update fun _ => rfl) fun _ => .pure fun _ hs => hs
  · refine .bind (h.ensures_update fun _ => rfl) fun _ => ensures_reading fun c => ?_
    exact .bind (h.ensures_callback rfl) fun _ => .pure fun _ hs => hs

theorem ensures_retireWith {inhibit : StopReason → M F ρ Unit}
    (hinhibit : ∀ reason, Ensures inv (inhibit reason) (fun _ => inv) fails) :
    Ensures inv (retireWith actuator enter inhibit reason next token scene) (fun _ => inv)
      fails := by
  refine ensures_reading fun c => .bind (h.ensures_stopActive reason) fun stopped => ?_
  refine .ite (fun _ => ?_) fun _ => .bind h.ensures_interrupted fun interruption => ?_
  · exact .bind h.ensures_replaceGrant fun _ => .pure fun _ hs => hs
  · cases interruption with
    | none => exact .bind h.ensures_replaceGrant fun _ => .pure fun _ hs => hs
    | some reason =>
      refine .bind h.ensures_replaceGrant fun replaced => ?_
      refine .bind_via (fun _ => inv) ?_ fun _ => .pure fun _ hs => hs
      exact .ite (fun _ => hinhibit reason) fun _ => .pure fun _ hs => hs

theorem ensures_inhibit (reason : StopReason) :
    Ensures inv (inhibit actuator enter reason) (fun _ => inv) fails := by
  refine ensures_reading fun c => .bind_via (fun _ => inv) ?_ fun _ =>
    h.ensures_update fun _ => rfl
  refine .ite (fun _ => ?_) fun _ => .pure fun _ hs => hs
  exact .bind (h.ensures_retireWith fun _ => .pure fun _ hs => hs) fun _ =>
    .pure fun _ hs => hs

theorem ensures_retire :
    Ensures inv (retire actuator enter reason next token scene) (fun _ => inv) fails :=
  h.ensures_retireWith h.ensures_inhibit

theorem ensures_continueInput :
    Ensures inv (continueInput actuator enter) (fun _ => inv) fails := by
  refine .bind h.ensures_interrupted fun interruption => ?_
  cases interruption with
  | none => exact .pure fun _ hs => hs
  | some reason =>
    exact .bind (h.ensures_inhibit reason) fun _ => .pure fun _ hs => hs

/-- A shutdown, when what is known does not depend on one that is pending. -/
theorem ensures_shutdown (hstate : ∀ s c, inv s → inv { s with state := c }) :
    Ensures inv (shutdown actuator enter) (fun _ => inv) fails := by
  refine ensures_reading fun c => .ite
    (fun _ => Traced.ensures_update fun s hs => hstate s _ hs) fun _ => ?_
  refine .bind_via (fun _ => inv) (Traced.ensures_update fun s hs => hstate s _ hs) fun _ => ?_
  refine .bind (h.ensures_inhibit _) fun _ => .bind h.ensures_retryStop fun _ => ?_
  exact h.ensures_update fun _ => rfl

end

end Frame

end Controls

end ShadowbaneLab.Native.Movement
