/-
# Runs of the movement controls

Whatever the actuator answers and whichever calls it makes while it runs, a grant that was
replaced never moves again, nothing moves while a failed stop is pending, and what moved under one
grant is stopped before anything moves under another.
-/
import ShadowbaneLab.Native.MovementControls

namespace ShadowbaneLab.Native.Movement

open Foundation List

variable {F ρ : Type}

/-! ## What an entry shows -/

namespace Event

/-- The grant under which a move begins. -/
def moved : Event F → Option Grant
  | .begins (.direction grant _ _) => some grant
  | .begins (.destination grant _ _) => some grant
  | _ => none

/-- The grant whose stop failed. -/
def failed : Event F → Option Grant
  | .ends (.stop grant _) false => some grant
  | _ => none

/-- A stop of the grant succeeded, or its scene was retired. -/
def retires (event : Event F) (grant : Grant) : Prop :=
  match event with
  | .ends (.stop grant' _) true => grant' = grant
  | .ends (.sceneRetired scene) _ => scene = grant.scene
  | _ => False

/-- An event that neither moves nor stops. -/
structure Quiet (event : Event F) : Prop where
  moved : event.moved = none
  failed : event.failed = none
  retires : ∀ grant, ¬ event.retires grant

end Event

/-- A stop of the grant failed, and nothing retired it since. -/
def Failed (grant : Grant) : List (Entry F) → Prop :=
  Unclosed (fun e => e.event.failed = some grant) fun e => e.event.retires grant

/-- Something moved under the grant, and nothing retired it since. -/
def Moved (grant : Grant) : List (Entry F) → Prop :=
  Unclosed (fun e => e.event.moved = some grant) fun e => e.event.retires grant

/-- A grant that may come after another: a later generation, or the last one without an owner. -/
def Succeeds (g g' : Grant) : Prop :=
  g' = g ∨ g.generation < g'.generation ∨
    g.generation = 0xFFFFFFFFFFFFFFFF ∧ g' = { g with owner := .none }

/-- A move is under the current grant, while no stop is pending and no other grant moved. -/
def Permitted (before : List (Entry F)) (e : Entry F) : Prop :=
  ∀ g, e.event.moved = some g →
    e.grant = g ∧ (∀ g', ¬ Failed g' before) ∧ ∀ g', Moved g' before → g' = g

theorem not_max_lt (x : UInt64) : ¬ (0xFFFFFFFFFFFFFFFF : UInt64) < x := by
  intro h
  have hlt := UInt64.lt_iff_toNat_lt.1 h
  have hmax := x.toNat_lt
  have hval : (0xFFFFFFFFFFFFFFFF : UInt64).toNat = 2 ^ 64 - 1 := rfl
  omega

theorem lt_succ_of_ne {x : UInt64} (h : x ≠ 0xFFFFFFFFFFFFFFFF) : x < x + 1 := by
  have hne : x.toNat ≠ 2 ^ 64 - 1 := fun heq => h (UInt64.toNat_inj.1 heq)
  have hlt := x.toNat_lt
  rw [UInt64.lt_iff_toNat_lt, UInt64.toNat_add, show (1 : UInt64).toNat = 1 from rfl,
    Nat.mod_eq_of_lt (by omega)]
  omega

theorem Succeeds.trans {g g' g'' : Grant} (h : Succeeds g g') (h' : Succeeds g' g'') :
    Succeeds g g'' := by
  rcases h with rfl | hlt | ⟨hmax, rfl⟩
  · exact h'
  · rcases h' with rfl | hlt' | ⟨hmax, rfl⟩
    · exact .inr (.inl hlt)
    · exact .inr (.inl (UInt64.lt_trans hlt hlt'))
    · exact .inr (.inl hlt)
  · rcases h' with rfl | hlt | ⟨-, rfl⟩
    · exact .inr (.inr ⟨hmax, rfl⟩)
    · rw [show ({ g with owner := Owner.none } : Grant).generation = g.generation from rfl,
        hmax] at hlt
      exact absurd hlt (not_max_lt _)
    · exact .inr (.inr ⟨hmax, rfl⟩)

/-- A grant that was replaced does not come back. -/
theorem Succeeds.eq_of_back {g g' : Grant} (h : Succeeds g g') (h' : Succeeds g' g) : g' = g := by
  rcases h with rfl | hlt | ⟨hmax, rfl⟩
  · rfl
  · rcases h' with rfl | hlt' | ⟨hmax, rfl⟩
    · rfl
    · exact absurd (UInt64.lt_trans hlt hlt') (UInt64.lt_irrefl _)
    · exact absurd hlt (UInt64.lt_irrefl _)
  · rcases h' with heq | hlt | ⟨-, heq⟩
    · exact heq.symm
    · exact absurd hlt (UInt64.lt_irrefl _)
    · exact heq.symm

/-- Another owner takes a later generation, or there is none at the last one. -/
theorem Succeeds.generation_lt {g g' : Grant} (h : Succeeds g g') (howner : g.owner ≠ g'.owner) :
    g.generation < g'.generation ∨ g'.generation = 0xFFFFFFFFFFFFFFFF ∧ g'.owner = .none := by
  rcases h with rfl | hlt | ⟨hmax, rfl⟩
  · exact absurd rfl howner
  · exact .inl hlt
  · exact .inr ⟨hmax, rfl⟩

/-! ## Chronicles -/

/-- A trace in which every move was permitted, and the grants came one after the other. -/
structure Chronicle (trace : List (Entry F)) (grant : Grant) : Prop where
  permitted : Foreseen Permitted trace
  ordered : trace.Pairwise fun e e' => Succeeds e.grant e'.grant
  current : ∀ e ∈ trace, Succeeds e.grant grant

variable {entries : List (Entry F)}

namespace Chronicle

variable {trace : List (Entry F)} {grant grant' : Grant} {e : Entry F}

theorem nil : Chronicle ([] : List (Entry F)) grant where
  permitted := .nil
  ordered := .nil
  current _ he := absurd he not_mem_nil

theorem push (h : Chronicle trace grant) (hgrant : e.grant = grant) (hpermitted : Permitted trace e) :
    Chronicle (trace ++ [e]) grant := by
  refine ⟨h.permitted.append hpermitted, ?_, fun x hx => ?_⟩
  · refine pairwise_append.2 ⟨h.ordered, pairwise_singleton _ _, fun x hx y hy => ?_⟩
    rw [mem_singleton.1 hy, hgrant]
    exact h.current x hx
  · rcases mem_append.1 hx with hx | hx
    · exact h.current x hx
    · rw [mem_singleton.1 hx, hgrant]
      exact .inl rfl

theorem quiet (h : Chronicle trace grant)
    (hentries : ∀ e ∈ entries, e.grant = grant ∧ e.event.Quiet) :
    Chronicle (trace ++ entries) grant := by
  induction entries generalizing trace with
  | nil => rwa [append_nil]
  | cons e entries ih =>
    obtain ⟨hgrant, hquiet⟩ := hentries e mem_cons_self
    rw [← singleton_append, ← append_assoc]
    refine ih (h.push hgrant fun g hg => ?_) fun x hx => hentries x (mem_cons_of_mem e hx)
    rw [hquiet.moved] at hg
    cases hg

theorem succeed (h : Chronicle trace grant) (hgrant : Succeeds grant grant') :
    Chronicle trace grant' :=
  ⟨h.permitted, h.ordered, fun e he => (h.current e he).trans hgrant⟩

end Chronicle

/-! ## The invariant -/

/-- What the controls know of who may move. -/
structure Authority where
  grant : Grant
  pendingGrant : Grant
  pendingStop : Bool
  actuating : Bool
  moving : Bool
  nativeActivity : Bool

def Controls.authority (c : Controls F) : Authority :=
  ⟨c.grant, c.pendingGrant, c.pendingStop, c.actuating, c.moving, c.nativeActivity⟩

/-- What holds between the calls of the actuator. -/
structure Inv (trace : List (Entry F)) (a : Authority) : Prop where
  idle : a.actuating = false
  chronicle : Chronicle trace a.grant
  stopped : a.pendingStop = true → a.moving = false ∧ a.pendingGrant.scene = a.grant.scene
  failed : ∀ g, Failed g trace → a.pendingStop = true ∧ a.pendingGrant = g
  moved : ∀ g, Moved g trace →
    a.moving = true ∧ a.grant = g ∨ a.pendingStop = true ∧ a.pendingGrant = g

variable {grant : Grant}

namespace Inv

variable {trace : List (Entry F)} {a : Authority}

theorem nil (hidle : a.actuating = false) (hstopped : a.pendingStop = false) :
    Inv ([] : List (Entry F)) a where
  idle := hidle
  chronicle := .nil
  stopped h := by rw [hstopped] at h; cases h
  failed _ h := absurd h Unclosed.not_nil
  moved _ h := absurd h Unclosed.not_nil

theorem quiet (h : Inv trace a) (hentries : ∀ e ∈ entries, e.grant = a.grant ∧ e.event.Quiet) :
    Inv (trace ++ entries) a where
  idle := h.idle
  chronicle := h.chronicle.quiet hentries
  stopped := h.stopped
  failed g hg := by
    refine h.failed g ((Unclosed.append_iff fun e he => ?_).1 hg)
    obtain ⟨-, hquiet⟩ := hentries e he
    rw [hquiet.failed]
    exact ⟨nofun, hquiet.retires g⟩
  moved g hg := by
    refine h.moved g ((Unclosed.append_iff fun e he => ?_).1 hg)
    obtain ⟨-, hquiet⟩ := hentries e he
    rw [hquiet.moved]
    exact ⟨nofun, hquiet.retires g⟩

theorem quiet_one {e : Entry F} (h : Inv trace a) (hgrant : e.grant = a.grant)
    (hquiet : e.event.Quiet) : Inv (trace ++ [e]) a := by
  refine h.quiet fun x hx => ?_
  rw [mem_singleton.1 hx]
  exact ⟨hgrant, hquiet⟩

/-- Nothing failed while no stop is pending. -/
theorem not_failed (h : Inv trace a) (hclear : a.pendingStop = false) (g : Grant) :
    ¬ Failed g trace := by
  intro hfailed
  rw [(h.failed g hfailed).1] at hclear
  cases hclear

/-- While no stop is pending, only the current grant may have moved. -/
theorem moved_of_clear (h : Inv trace a) (hclear : a.pendingStop = false) {g : Grant}
    (hmoved : Moved g trace) : a.moving = true ∧ a.grant = g := by
  rcases h.moved g hmoved with hmoved | ⟨hstop, -⟩
  · exact hmoved
  · rw [hstop] at hclear
    cases hclear

/-- Another grant may come when nothing moves. -/
theorem succeed (h : Inv trace a) (hmoving : a.moving = false) (hgrant : Succeeds a.grant grant)
    (hscene : a.pendingStop = true → grant.scene = a.grant.scene) :
    Inv trace { a with grant } where
  idle := h.idle
  chronicle := h.chronicle.succeed hgrant
  stopped hstop := ⟨hmoving, (h.stopped hstop).2.trans (hscene hstop).symm⟩
  failed := h.failed
  moved g hg := by
    rcases h.moved g hg with ⟨hmoving', -⟩ | hpending
    · exact absurd (hmoving.symm.trans hmoving') nofun
    · exact .inr hpending

end Inv

/-! ## Calls of the actuator -/

/-- Only calls were written down, and nothing about who may move has changed. -/
def Still (s s' : Run F) : Prop :=
  s'.state.authority = s.state.authority ∧ ∃ entries, s'.trace = s.trace ++ entries ∧
    ∀ e ∈ entries, e.grant = s.state.grant ∧ e.event.Quiet

namespace Still

variable {s s' s'' : Run F}

theorem refl (s : Run F) : Still s s :=
  ⟨rfl, [], (append_nil _).symm, fun _ he => absurd he not_mem_nil⟩

theorem trans (h : Still s s') (h' : Still s' s'') : Still s s'' := by
  obtain ⟨hauthority, entries, htrace, hquiet⟩ := h
  obtain ⟨hauthority', entries', htrace', hquiet'⟩ := h'
  refine ⟨hauthority'.trans hauthority, entries ++ entries', ?_, fun e he => ?_⟩
  · rw [htrace', htrace, append_assoc]
  · rcases mem_append.1 he with he | he
    · exact hquiet e he
    · obtain ⟨hgrant, hquiet⟩ := hquiet' e he
      exact ⟨hgrant.trans (congrArg Authority.grant hauthority), hquiet⟩

end Still

/-- Calls made while the actuator runs change nothing that matters. -/
def Guarded (enter : List (Call F) → Run F → Run F) : Prop :=
  ∀ calls s, s.state.actuating = true → Still s (enter calls s)

/-- A state in which the invariant holds, with something known of who may move. -/
def Sound (Q : Authority → Prop) (s : Run F) : Prop :=
  Inv s.trace s.state.authority ∧ Q s.state.authority

/-- Nothing is known. -/
abbrev Sane : Run F → Prop := Sound fun _ => True

/-- No stop is pending. -/
def Clear (a : Authority) : Prop := a.pendingStop = false

/-- Nothing needs to be stopped. -/
def Settled (a : Authority) : Prop :=
  a.pendingStop = false ∧ a.moving = false ∧ a.nativeActivity = false

variable {s : Run F}

theorem Sound.sane {Q : Authority → Prop} (h : Sound Q s) : Sane s := ⟨h.1, trivial⟩

theorem Sound.imp {Q Q' : Authority → Prop} (h : ∀ a, Q a → Q' a) (s : Run F) (hs : Sound Q s) :
    Sound Q' s := ⟨hs.1, h _ hs.2⟩

namespace Controls

/-! ### Rules -/

variable {condition : Bool} {value : ρ}

variable {ok : Bool}

section Rules

variable {Q : Authority → Prop} {α : Type} {post : α → Run F → Prop} {fails : ρ → Run F → Prop}

variable {next : Controls F → M F ρ α}

theorem ensures_read_state {s₀ : Run F} (h : Ensures (fun s => s = s₀) (next s₀.state) post fails) :
    Ensures (fun s => s = s₀) (read >>= next) post fails := by
  rintro s rfl
  exact h s rfl

/-- Reading the controls keeps what is known of them. -/
theorem ensures_read_keep
    (h : ∀ c : Controls F, Q c.authority → Ensures (Sound Q) (next c) post fails) :
    Ensures (Sound Q) (read >>= next) post fails :=
  fun s hs => h s.state hs.2 s hs

/-- Reading the controls tells who may move. -/
theorem ensures_read_eq (h : ∀ c : Controls F, Q c.authority →
      Ensures (Sound fun a => a = c.authority) (next c) post fails) :
    Ensures (Sound Q) (read >>= next) post fails :=
  fun s hs => h s.state hs.2 s ⟨hs.1, rfl⟩

/-- A fact that the controls do not matter for is assumed once. -/
theorem ensures_assume {fact : Prop} {program : M F ρ α}
    (h : fact → Ensures (Sound Q) program post fails) :
    Ensures (Sound fun a => Q a ∧ fact) program post fails :=
  fun s hs => h hs.2.2 s ⟨hs.1, hs.2.1⟩

variable {f : Controls F → Controls F} {fails : ρ → Run F → Prop}

theorem ensures_update {Q' : Authority → Prop}
    (h : ∀ (c : Controls F) (trace : List (Entry F)), Inv trace c.authority → Q c.authority →
      Inv trace (f c).authority ∧ Q' (f c).authority) :
    Ensures (Sound Q) (Traced.update f) (fun _ => Sound Q') fails :=
  Traced.ensures_update fun s hs => h s.state s.trace hs.1 hs.2

/-- A change of something else than who may move. -/
theorem ensures_set (h : ∀ c : Controls F, (f c).authority = c.authority) :
    Ensures (Sound Q) (Traced.update f) (fun _ => Sound Q) fails := by
  refine ensures_update fun c trace hinv hc => ?_
  rw [h c]
  exact ⟨hinv, hc⟩

theorem ensures_setSane (h : ∀ c : Controls F, (f c).authority = c.authority) :
    Ensures (Sound Q) (Traced.update f) (fun _ => Sane) fails :=
  (ensures_set h).weaken (fun _ hs => hs.sane) (fun _ _ hs => hs) fun _ _ hs => hs

theorem ensures_returnIf {pre : Run F → Prop} (h : ∀ s, pre s → fails value s) :
    Ensures pre (returnIf condition value) (fun _ s => pre s ∧ condition = false) fails := by
  cases condition with
  | false => exact .pure fun _ hs => ⟨hs, rfl⟩
  | true => exact .throw h

/-- What is known unless something failed, when it did not fail. -/
theorem ensures_returnUnless :
    Ensures (Sound fun a => ok = true → Q a)
      (returnIf (decide ¬ ok = true) value : M F ρ Unit) (fun _ => Sound Q) fun _ => Sane := by
  cases ok with
  | false => exact .throw fun _ hs => hs.sane
  | true => exact .pure (.imp fun _ h => h rfl)

theorem ensures_guard :
    Ensures (Sound Q) (returnIf condition value : M F ρ Unit) (fun _ => Sound Q) fun _ => Sane :=
  (ensures_returnIf fun _ hs => hs.sane).weaken (fun _ => id) (fun _ _ h => h.1) fun _ _ => id

theorem ensures_whenever {pre : Run F → Prop} {post : Unit → Run F → Prop} {program : M F ρ Unit}
    (h : condition = true → Ensures pre program post fails)
    (hskip : condition = false → ∀ s, pre s → post () s) :
    Ensures pre (whenever condition program) post fails := by
  cases condition with
  | false => exact .pure (hskip rfl)
  | true => exact h rfl

end Rules

section Callbacks

variable {actuator : Actuator F} {enter : List (Call F) → Run F → Run F}
  {Q : Authority → Prop} {fails : ρ → Run F → Prop}

/-- What a call of the actuator leaves: its own events around those of the calls that it made. -/
structure After (s : Run F) (callback : Callback F) (ok : Bool) (s' : Run F) : Prop where
  authority : s'.state.authority = s.state.authority
  trace : ∃ entries, s'.trace = s.trace ++ [⟨s.state.grant, .begins callback⟩] ++ entries ++
    [⟨s.state.grant, .ends callback ok⟩] ∧ ∀ e ∈ entries, e.grant = s.state.grant ∧ e.event.Quiet

theorem ensures_callback (henter : Guarded enter) (s₀ : Run F)
    (hidle : s₀.state.actuating = false) (callback : Callback F) :
    Ensures (fun s => s = s₀) (Controls.callback actuator enter callback)
      (After s₀ callback) fails := by
  rintro s rfl
  -- the calls that the actuator makes find the guard set
  let begun : Run F := ⟨{ s.state with actuating := true },
    s.trace ++ [⟨s.state.grant, .begins callback⟩]⟩
  obtain ⟨hauthority, entries, htrace, hquiet⟩ :=
    henter (actuator.calls begun.trace callback) begun rfl
  show After s callback _ _
  refine ⟨?_, entries, ?_, hquiet⟩
  · have hended := congrArg (fun a : Authority => { a with actuating := false }) hauthority
    refine hended.trans ?_
    show Authority.mk _ _ _ false _ _ = Authority.mk _ _ _ _ _ _
    rw [hidle]
    rfl
  · have hgrant : (enter (actuator.calls begun.trace callback) begun).state.grant = s.state.grant :=
      congrArg Authority.grant hauthority
    show _ ++ [Entry.mk _ _] = _
    rw [htrace, hgrant]

variable {callback : Callback F}

/-- A call of the actuator that neither moves nor stops. -/
theorem ensures_quiet (henter : Guarded enter)
    (hquiet : (Event.begins callback).Quiet ∧ ∀ ok, (Event.ends callback ok).Quiet) :
    Ensures (Sound Q) (Controls.callback actuator enter callback) (fun _ => Sound Q) fails := by
  refine .from_state fun s hs =>
    (ensures_callback henter s hs.1.idle callback).weaken (fun _ h => h) ?_ (fun _ _ h => h)
  rintro ok s' ⟨hauthority, entries, htrace, hentries⟩
  have hinv : Inv (s.trace ++ [⟨s.state.grant, .begins callback⟩]) s.state.authority :=
    hs.1.quiet_one rfl hquiet.1
  rw [Sound, hauthority, htrace]
  exact ⟨(hinv.quiet hentries).quiet_one rfl (hquiet.2 ok), hs.2⟩

/-- A move under the current grant, when no stop is pending. -/
theorem ensures_move (henter : Guarded enter) (hmoved : (Event.begins callback).moved = some grant)
    (hends : ∀ ok, (Event.ends callback ok).Quiet) :
    Ensures (Sound fun a => a.grant = grant ∧ Clear a ∧ a.moving = true)
      (Controls.callback actuator enter callback) (fun _ => Sane) fails := by
  refine .from_state fun s ⟨hinv, hgrant, hclear, hmoving⟩ =>
    (ensures_callback henter s hinv.idle callback).weaken (fun _ h => h) ?_ (fun _ _ h => h)
  subst hgrant
  rintro ok s' ⟨hauthority, entries, htrace, hentries⟩
  have hbegun : Inv (s.trace ++ [⟨s.state.grant, .begins callback⟩]) s.state.authority := by
    have hother (g : Grant) : ¬ (Event.begins callback).failed = some g ∧
        ¬ (Event.begins callback).retires g := ⟨nofun, id⟩
    refine ⟨hinv.idle, hinv.chronicle.push rfl fun g hg => ?_, hinv.stopped, fun g hg => ?_,
      fun g hg => ?_⟩
    · rw [hmoved] at hg
      cases hg
      exact ⟨rfl, hinv.not_failed hclear, fun g' hg' => (hinv.moved_of_clear hclear hg').2.symm⟩
    · rcases Unclosed.append_singleton_iff.1 hg with hg | ⟨hg, -⟩
      · exact absurd hg (hother g).1
      · exact hinv.failed g hg
    · rcases Unclosed.append_singleton_iff.1 hg with hg | ⟨hg, -⟩
      · rw [hmoved] at hg
        cases hg
        exact .inl ⟨hmoving, rfl⟩
      · exact hinv.moved g hg
  rw [Sane, Sound, hauthority, htrace]
  exact ⟨(hbegun.quiet hentries).quiet_one rfl (hends ok), trivial⟩

/-- What failed or moved and is open after a call of the actuator that begins quietly. -/
theorem After.unclosed {s s' : Run F} (h : After s callback ok s')
    (hquiet : (Event.begins callback).Quiet) (grant : Grant) :
    (Failed grant s'.trace → (Event.ends callback ok).failed = some grant ∨
      Failed grant s.trace ∧ ¬ (Event.ends callback ok).retires grant) ∧
    (Moved grant s'.trace → Moved grant s.trace ∧ ¬ (Event.ends callback ok).retires grant) := by
  obtain ⟨entries, htrace, hentries⟩ := h.trace
  have hbegins (e : Entry F) (he : e ∈ [Entry.mk s.state.grant (.begins callback)]) :
      e.event.Quiet := by rwa [mem_singleton.1 he]
  rw [htrace]
  constructor
  · intro hfailed
    rcases Unclosed.append_singleton_iff.1 hfailed with hfailed | ⟨hfailed, hretires⟩
    · exact .inl hfailed
    · refine .inr ⟨?_, hretires⟩
      have hfailed := (Unclosed.append_iff fun e he => ?_).1 hfailed
      · refine (Unclosed.append_iff fun e he => ?_).1 hfailed
        rw [(hbegins e he).failed]
        exact ⟨nofun, (hbegins e he).retires grant⟩
      · rw [(hentries e he).2.failed]
        exact ⟨nofun, (hentries e he).2.retires grant⟩
  · intro hmoved
    rcases Unclosed.append_singleton_iff.1 hmoved with hmoved | ⟨hmoved, hretires⟩
    · cases hmoved
    · refine ⟨?_, hretires⟩
      have hmoved := (Unclosed.append_iff fun e he => ?_).1 hmoved
      · refine (Unclosed.append_iff fun e he => ?_).1 hmoved
        rw [(hbegins e he).moved]
        exact ⟨nofun, (hbegins e he).retires grant⟩
      · rw [(hentries e he).2.moved]
        exact ⟨nofun, (hentries e he).2.retires grant⟩

/-- The grants after a call of the actuator that begins and ends without a move. -/
theorem After.chronicle {s s' : Run F} (h : After s callback ok s')
    (hquiet : (Event.begins callback).Quiet) (hchronicle : Chronicle s.trace s.state.grant) :
    Chronicle s'.trace s.state.grant := by
  obtain ⟨entries, htrace, hentries⟩ := h.trace
  rw [htrace]
  refine Chronicle.push ((hchronicle.quiet fun e he => ?_).quiet hentries) rfl fun g hg => ?_
  · rw [mem_singleton.1 he]
    exact ⟨rfl, hquiet⟩
  · cases hg

/-! ### Stops -/

theorem ensures_interrupted :
    Ensures (Sound Q) (interrupted actuator) (fun _ => Sound Q) fails := by
  rintro s ⟨hinv, hs⟩
  exact ⟨hinv.quiet_one rfl ⟨rfl, rfl, fun _ => id⟩, hs⟩

theorem ensures_leaseCurrent (grant : Grant) :
    Ensures (Sound Q) (leaseCurrent actuator grant) (fun _ => Sound Q) fails := by
  rintro s ⟨hinv, hs⟩
  exact ⟨hinv.quiet_one rfl ⟨rfl, rfl, fun _ => id⟩, hs⟩

/-- Only one grant is left to stop, if any. -/
structure Owing (a : Authority) (grant : Grant) (ok : Bool) (s : Run F) : Prop where
  authority : s.state.authority = a
  chronicle : Chronicle s.trace a.grant
  failed : ∀ g, Failed g s.trace → ok = false ∧ g = grant
  moved : ∀ g, Moved g s.trace → ok = false ∧ g = grant

/-- A stop leaves open what it was for, and only if it failed. -/
theorem ensures_stop (henter : Guarded enter) {a : Authority} (hidle : a.actuating = false)
    (grant : Grant) (reason : StopReason) :
    Ensures (Owing a grant false) (Controls.callback actuator enter (.stop grant reason))
      (Owing a grant) fails := by
  refine .from_state fun s hs => (ensures_callback henter s
    ((congrArg Authority.actuating hs.authority).trans hidle) _).weaken
      (fun _ h => h) ?_ (fun _ _ h => h)
  obtain ⟨rfl, hchronicle, hfailed, hmoved⟩ := hs
  intro ok s' hafter
  have hquiet : (Event.begins (F := F) (.stop grant reason)).Quiet := ⟨rfl, rfl, fun _ => id⟩
  have hclosed {g : Grant} (hretires : ¬ (Event.ends (F := F) (.stop grant reason) ok).retires g)
      (hg : g = grant) : ok = false := by
    cases ok with
    | false => rfl
    | true => exact absurd hg.symm hretires
  refine ⟨hafter.authority, hafter.chronicle hquiet hchronicle, fun g hg => ?_, fun g hg => ?_⟩
  · rcases (hafter.unclosed hquiet g).1 hg with hends | ⟨hg, hretires⟩
    · cases ok with
      | false =>
        cases hends
        exact ⟨rfl, rfl⟩
      | true => cases hends
    · exact ⟨hclosed hretires (hfailed g hg).2, (hfailed g hg).2⟩
  · obtain ⟨hg, hretires⟩ := (hafter.unclosed hquiet g).2 hg
    exact ⟨hclosed hretires (hmoved g hg).2, (hmoved g hg).2⟩

/-- After `RetryStop` a stop is pending only if it failed. -/
theorem ensures_retryStop (henter : Guarded enter) :
    Ensures Sane (retryStop actuator enter) (fun ok => Sound fun a => a.pendingStop = !ok)
      fails := by
  refine .from_state fun s₀ ⟨hinv, _⟩ => ensures_read_state ?_
  by_cases hpending : s₀.state.pendingStop = true
  · rw [if_neg (not_not.2 hpending)]
    obtain ⟨hmoving, hscene⟩ := hinv.stopped hpending
    have howing : Owing s₀.state.authority s₀.state.pendingGrant false s₀ := by
      refine ⟨rfl, hinv.chronicle, fun g hg => ⟨rfl, (hinv.failed g hg).2.symm⟩, fun g hg => ?_⟩
      rcases hinv.moved g hg with ⟨hmoving', -⟩ | ⟨-, hgrant⟩
      · exact absurd (hmoving.symm.trans hmoving') nofun
      · exact ⟨rfl, hgrant.symm⟩
    refine ((ensures_stop henter hinv.idle _ _).mono_pre fun s hs => hs ▸ howing).bind fun ok => ?_
    cases ok with
    | true =>
      refine .bind_via (fun _ => Sound Clear) (Traced.ensures_update fun s hs => ?_)
        fun _ => .pure fun _ hs => hs
      obtain ⟨hauthority, hchronicle, hfailed, hmoved⟩ := hs
      have hgrant : s.state.grant = s₀.state.grant := congrArg Authority.grant hauthority
      have hidle : s.state.actuating = false :=
        (congrArg Authority.actuating hauthority).trans hinv.idle
      refine ⟨⟨hidle, hgrant ▸ hchronicle, nofun, fun g hg => ?_, fun g hg => ?_⟩, rfl⟩
      · cases (hfailed g hg).1
      · cases (hmoved g hg).1
    | false =>
      refine .pure fun s hs => ?_
      obtain ⟨hauthority, hchronicle, hfailed, hmoved⟩ := hs
      rw [Sound, hauthority]
      refine ⟨⟨hinv.idle, hchronicle, fun _ => ⟨hmoving, hscene⟩, fun g hg => ?_, fun g hg => ?_⟩,
        hpending⟩
      · exact ⟨hpending, (hfailed g hg).2.symm⟩
      · exact .inr ⟨hpending, (hmoved g hg).2.symm⟩
  · rw [if_pos hpending]
    refine .pure fun s hs => ?_
    subst hs
    exact ⟨hinv, Bool.eq_false_iff.2 hpending⟩

/-- Without a pending stop `RetryStop` does nothing. -/
theorem ensures_retryStop_clear (hQ : ∀ a, Q a → Clear a) :
    Ensures (Sound Q) (retryStop actuator enter) (fun ok => Sound fun a => Q a ∧ ok = true)
      fails := by
  refine ensures_read_keep fun c hc => ?_
  have hclear : ¬ c.pendingStop = true := by
    rw [show c.pendingStop = false from hQ _ hc]
    exact nofun
  rw [if_pos hclear]
  exact .pure (.imp fun a ha => ⟨ha, rfl⟩)

/-- After `StopActive` nothing moves, and a stop is pending only if it failed. -/
theorem ensures_stopActive (henter : Guarded enter) (reason : StopReason) :
    Ensures Sane (stopActive actuator enter reason)
      (fun ok => Sound fun a => a.moving = false ∧ a.pendingStop = !ok) fails := by
  refine (ensures_retryStop henter).bind fun ok => ?_
  cases ok with
  | false => exact .pure fun s hs => ⟨hs.1, (hs.1.stopped hs.2).1, hs.2⟩
  | true =>
    refine .from_state fun s₀ ⟨hinv, hclear⟩ => ensures_read_state ?_
    by_cases hstill : ¬ s₀.state.moving = true ∧ ¬ s₀.state.nativeActivity = true ∧
        reason ≠ .takeover
    · rw [if_pos hstill]
      refine .pure fun s hs => ?_
      subst hs
      exact ⟨hinv, Bool.eq_false_iff.2 hstill.1, hclear⟩
    · rw [if_neg hstill]
      -- the stop is for the current grant, as no other may have moved
      refine .bind_via (fun _ => Owing
          { s₀.state.authority with moving := false, nativeActivity := false }
          s₀.state.grant false) (Traced.ensures_update fun s hs => ?_) fun _ =>
        (ensures_stop henter (by exact hinv.idle) _ _).bind fun ok => ?_
      · subst hs
        exact ⟨rfl, hinv.chronicle, fun g hg => absurd hg (hinv.not_failed hclear g),
          fun g hg => ⟨rfl, (hinv.moved_of_clear hclear hg).2.symm⟩⟩
      · cases ok with
        | true =>
          refine .pure fun s ⟨hauthority, hchronicle, hfailed, hmoved⟩ => ?_
          rw [Sound, hauthority]
          refine ⟨⟨hinv.idle, hchronicle, fun h => ?_, fun g hg => ?_, fun g hg => ?_⟩, rfl,
            hclear⟩
          · exact absurd (hclear.symm.trans h) nofun
          · cases (hfailed g hg).1
          · cases (hmoved g hg).1
        | false =>
          refine .bind_via (fun _ => Sound fun a =>
            a.moving = false ∧ a.pendingStop = true) (Traced.ensures_update fun s hs => ?_)
            fun _ => .pure fun _ hs => hs
          obtain ⟨hauthority, hchronicle, hfailed, hmoved⟩ := hs
          have hgrant : s.state.grant = s₀.state.grant := congrArg Authority.grant hauthority
          have hidle : s.state.actuating = false :=
            (congrArg Authority.actuating hauthority).trans hinv.idle
          have hmoving : s.state.moving = false := congrArg Authority.moving hauthority
          refine ⟨⟨hidle, hgrant ▸ hchronicle, fun _ => ⟨hmoving, rfl⟩, fun g hg => ⟨rfl, ?_⟩,
            fun g hg => .inr ⟨rfl, ?_⟩⟩, hmoving, rfl⟩
          · exact hgrant.trans (hfailed g hg).2.symm
          · exact hgrant.trans (hmoved g hg).2.symm

variable {reason : StopReason}

/-- `StopActive` does nothing where nothing needs to be stopped, unless something takes over. -/
theorem ensures_stopActive_settled (hreason : reason ≠ .takeover) :
    Ensures (Sound Settled) (stopActive actuator enter reason)
      (fun ok => Sound fun a => Settled a ∧ ok = true) fails := by
  refine (ensures_retryStop_clear fun a ha => ha.1).bind fun ok => ?_
  refine ensures_assume fun hok => ?_
  rw [if_pos hok]
  refine ensures_read_keep fun c hc => ?_
  obtain ⟨-, hmoving, hactivity⟩ := hc
  have hstill : ¬ c.moving = true ∧ ¬ c.nativeActivity = true ∧ reason ≠ .takeover :=
    ⟨Bool.eq_false_iff.1 hmoving, Bool.eq_false_iff.1 hactivity, hreason⟩
  rw [if_pos hstill]
  exact .pure (.imp fun a ha => ⟨ha, rfl⟩)

/-! ### Grants -/

variable (henter : Guarded enter)

include henter

theorem ensures_revoked (old new : Grant) (reason : StopReason) :
    Ensures (Sound Q) (Controls.callback actuator enter (.revoked old new reason))
      (fun _ => Sound Q) fails :=
  ensures_quiet henter ⟨⟨rfl, rfl, fun _ => id⟩, fun _ => ⟨rfl, rfl, fun _ => id⟩⟩

variable {next : Owner} {token : Token}

variable {scene : Option UInt64}

theorem ensures_replaceGrant {old : Grant} {clear : Prop} :
    Ensures (Sound fun a => a.moving = false ∧ (scene.isSome = true → Clear a) ∧ (clear → Clear a))
      (replaceGrant actuator enter old reason next token scene)
      (fun _ => Sound fun a => clear → Clear a) fails := by
  refine ensures_read_eq fun c ⟨hmoving, hscene, hclear⟩ => ?_
  by_cases hmax : c.grant.generation = 0xFFFFFFFFFFFFFFFF
  · rw [if_pos hmax]
    refine (ensures_update fun c' trace hinv hc' => ?_).bind fun _ => .pure fun _ hs => hs
    have hgeneration : c'.grant.generation = 0xFFFFFFFFFFFFFFFF := by
      rw [show c'.grant = c.grant from congrArg Authority.grant hc', hmax]
    refine ⟨hinv.succeed (hc' ▸ hmoving) (.inr (.inr ⟨hgeneration, rfl⟩)) fun _ => rfl, fun hp => ?_⟩
    exact (congrArg Authority.pendingStop hc').trans (hclear hp)
  · rw [if_neg hmax]
    refine .bind_via (fun _ => Sound fun a => clear → Clear a)
      (ensures_update fun c' trace hinv hc' => ?_) fun _ => ensures_read_keep fun c _ => (ensures_revoked henter _ _ _).bind fun _ =>
        .pure fun _ hs => hs
    have hgrant : c'.grant = c.grant := congrArg Authority.grant hc'
    have hpending : c'.pendingStop = c.pendingStop := congrArg Authority.pendingStop hc'
    refine ⟨hinv.succeed (hc' ▸ hmoving) (.inr (.inl ?_)) fun hstop => ?_, fun hp => ?_⟩
    · show c'.grant.generation < c'.grant.generation + 1
      rw [hgrant]
      exact lt_succ_of_ne hmax
    · -- the scene changes only where no stop is pending
      cases scene with
      | none => rfl
      | some scene =>
        have hclear : c.pendingStop = false := hscene rfl
        have hstop : c'.pendingStop = true := hstop
        rw [hpending, hclear] at hstop
        cases hstop
    · exact hpending.trans (hclear hp)

theorem ensures_retireWith {inhibit : StopReason → M F ρ Unit}
    (hinhibit : ∀ reason, Ensures Sane (inhibit reason) (fun _ => Sane) fails)
    (hreason : scene.isSome = true → reason ≠ .takeover) :
    Ensures (Sound fun a => scene.isSome = true → Settled a)
      (retireWith actuator enter inhibit reason next token scene)
      (fun ok => Sound fun a => ok = true → Clear a) fails := by
  refine ensures_read_keep fun c _ => ?_
  have hstop : Ensures (Sound fun a => scene.isSome = true → Settled a)
      (stopActive actuator enter reason) (fun stopped => Sound fun a =>
        a.moving = false ∧ (scene.isSome = true → Clear a) ∧ (stopped = true → Clear a)) fails := by
    cases scene with
    | none =>
      refine ((ensures_stopActive henter reason).mono_pre fun _ hs => hs.sane).weaken
        (fun _ hs => hs) (fun stopped s hs => ⟨hs.1, hs.2.1, nofun, fun h => ?_⟩) fun _ _ hs => hs
      rw [Clear, hs.2.2, h]
      rfl
    | some scene =>
      refine (ensures_stopActive_settled (hreason rfl)).weaken
        (.imp fun a ha => ha rfl) (fun _ => .imp fun a ha => ?_) fun _ _ hs => hs
      exact ⟨ha.1.2.1, fun _ => ha.1.1, fun _ => ha.1.1⟩
  refine hstop.bind fun stopped => ?_
  have hreplace {reason : StopReason} {next : Owner} {token : Token} :
      Ensures (Sound fun a => a.moving = false ∧ (scene.isSome = true → Clear a) ∧
          (stopped = true → Clear a))
        (replaceGrant actuator enter c.grant reason next token scene >>= fun replaced =>
          pure (replaced && stopped)) (fun ok => Sound fun a => ok = true → Clear a) fails := by
    refine (ensures_replaceGrant henter).bind fun replaced =>
      .pure (.imp fun a ha hok => ha ?_)
    exact (Bool.and_eq_true_iff.1 hok).2
  refine .ite (fun _ => hreplace) fun _ => ensures_interrupted.bind fun reason => ?_
  cases reason with
  | none => exact hreplace
  | some reason =>
    refine ((ensures_replaceGrant henter).mono_pre
      (.imp fun a ha => ⟨ha.1, ha.2.1, ha.2.2⟩)).bind fun replaced => ?_
    refine .bind_via (fun _ => Sane) ?_ fun _ => .pure fun s hs => ⟨hs.1, nofun⟩
    exact ensures_whenever (fun _ => (hinhibit reason).mono_pre fun _ hs => hs.sane)
      fun _ _ hs => hs.sane

/-- `Retire` in the same scene. -/
theorem ensures_retireHere {inhibit : StopReason → M F ρ Unit}
    (hinhibit : ∀ reason, Ensures Sane (inhibit reason) (fun _ => Sane) fails) :
    Ensures Sane (retireWith actuator enter inhibit reason next token none)
      (fun ok => Sound fun a => ok = true → Clear a) fails := by
  refine (ensures_retireWith henter hinhibit fun h => ?_).mono_pre
    (.imp fun _ _ h => ?_) <;> cases h

theorem ensures_inhibit (reason : StopReason) :
    Ensures Sane (inhibit actuator enter reason) (fun _ => Sane) fails := by
  refine ensures_read_keep fun c _ => .bind_via (fun _ => Sane) ?_ fun _ =>
    ensures_set fun _ => rfl
  refine ensures_whenever (fun _ => ?_) fun _ _ hs => hs
  exact (ensures_retireHere henter fun _ => .pure fun _ hs => hs).bind fun _ =>
    .pure fun _ hs => hs.sane

theorem ensures_retire :
    Ensures Sane (retire actuator enter reason next token none)
      (fun ok => Sound fun a => ok = true → Clear a) fails :=
  ensures_retireHere henter (ensures_inhibit henter)

theorem ensures_continueInput :
    Ensures (Sound Q) (continueInput actuator enter)
      (fun ok => Sound fun a => ok = true → Q a) fails := by
  refine ensures_interrupted.bind fun reason => ?_
  cases reason with
  | none => exact .pure (.imp fun a ha _ => ha)
  | some reason =>
    refine ((ensures_inhibit henter reason).mono_pre fun _ hs => hs.sane).bind fun _ =>
      .pure fun s hs => ⟨hs.1, nofun⟩

theorem ensures_shutdown :
    Ensures Sane (shutdown actuator enter) (fun _ => Sane) fails := by
  refine ensures_read_keep fun c _ => .ite (fun _ => ensures_set fun _ => rfl) fun _ => ?_
  refine .bind_via (fun _ => Sane) (ensures_set fun _ => rfl) fun _ =>
    (ensures_inhibit henter _).bind fun _ => (ensures_retryStop henter).bind fun _ => ?_
  exact ensures_setSane fun _ => rfl

theorem ensures_shutdownIfPending :
    Ensures (Sound Q) (shutdownIfPending actuator enter value) (fun _ => Sound Q)
      fun _ => Sane := by
  refine ensures_read_keep fun c _ => ensures_whenever (fun _ => ?_) fun _ _ hs => hs
  exact ((ensures_shutdown henter).mono_pre fun _ hs => hs.sane).bind fun _ =>
    .throw fun _ hs => hs

/-- After a scene was retired nothing needs to be stopped. -/
theorem ensures_retireScene :
    Ensures Sane (retireScene actuator enter) (fun _ => Sound Settled) fails := by
  refine .from_state fun s₀ ⟨hinv, _⟩ => ensures_read_state ?_
  refine (ensures_callback henter s₀ hinv.idle _).bind fun ok => Traced.ensures_update fun s hs => ?_
  have hquiet : (Event.begins (F := F) (.sceneRetired s₀.state.grant.scene)).Quiet :=
    ⟨rfl, rfl, fun _ => id⟩
  have hgrant : s.state.grant = s₀.state.grant := congrArg Authority.grant hs.authority
  have hidle : s.state.actuating = false :=
    (congrArg Authority.actuating hs.authority).trans hinv.idle
  -- what is pending is of the scene that was retired
  have hpending {g : Grant} (hstop : s₀.state.pendingStop = true)
      (hg : s₀.state.pendingGrant = g) : s₀.state.grant.scene = g.scene :=
    hg ▸ (hinv.stopped hstop).2.symm
  refine ⟨⟨hidle, hgrant ▸ hs.chronicle hquiet hinv.chronicle, nofun, fun g hg => ?_,
    fun g hg => ?_⟩, rfl, rfl, rfl⟩
  · rcases (hs.unclosed hquiet g).1 hg with hends | ⟨hg, hretires⟩
    · cases hends
    · obtain ⟨hstop, hg⟩ := hinv.failed g hg
      exact absurd (hpending hstop hg) hretires
  · obtain ⟨hg, hretires⟩ := (hs.unclosed hquiet g).2 hg
    rcases hinv.moved g hg with ⟨-, hg⟩ | ⟨hstop, hg⟩
    · exact absurd (congrArg Grant.scene hg) hretires
    · exact absurd (hpending hstop hg) hretires

/-- `Retire` after the old scene was retired. -/
theorem ensures_retire_scene {scene : UInt64} :
    Ensures (Sound Settled) (retire actuator enter .sceneChanged next token (some scene))
      (fun ok => Sound fun a => ok = true → Clear a) fails :=
  (ensures_retireWith henter (ensures_inhibit henter) fun _ => by decide).mono_pre
    (.imp fun _ ha _ => ha)

/-! ### Public calls -/

theorem ensures_retry :
    Ensures (Sound Q) (retryStop actuator enter) (fun ok => Sound fun a => ok = true → Clear a)
      fails := by
  refine (ensures_retryStop henter).weaken (fun _ hs => hs.sane)
    (fun ok => .imp fun a ha hok => ?_) fun _ _ hs => hs
  rw [Clear, ha, hok]
  rfl

theorem ensures_stopped (reason : StopReason) :
    Ensures (Sound Q) (stopActive actuator enter reason)
      (fun ok => Sound fun a => ok = true → Clear a) fails := by
  refine (ensures_stopActive henter reason).weaken (fun _ hs => hs.sane)
    (fun ok => .imp fun a ha hok => ?_) fun _ _ hs => hs
  rw [Clear, ha.2, hok]
  rfl

theorem ensures_inhibited (reason : StopReason) :
    Ensures (Sound Q) (inhibit actuator enter reason) (fun _ => Sane) fails :=
  (ensures_inhibit henter reason).mono_pre fun _ hs => hs.sane

theorem ensures_retired :
    Ensures (Sound Q) (retire actuator enter reason next token none)
      (fun ok => Sound fun a => ok = true → Clear a) fails :=
  (ensures_retire henter).mono_pre fun _ hs => hs.sane

/-- A move that the controls make on their own authority. -/
theorem ensures_begin_move (move : Grant → Bool → Callback F)
    {next : Bool → M F ρ α} {post : α → Run F → Prop}
    (hmoved : ∀ grant start, (Event.begins (move grant start)).moved = some grant)
    (hends : ∀ grant start ok, (Event.ends (move grant start) ok).Quiet)
    (hnext : ∀ ok, Ensures Sane (next ok) post fails) :
    Ensures (Sound Clear) (do
      let c ← read
      Traced.update fun c => { c with moving := true }
      let accepted ← Controls.callback actuator enter (move c.grant (¬ c.moving))
      next accepted) post fails := by
  refine ensures_read_eq fun c hclear => ?_
  refine .bind_via (fun _ => Sound fun a =>
    a.grant = c.grant ∧ Clear a ∧ a.moving = true) (ensures_update fun c' trace hinv hc' => ?_)
    fun _ => (ensures_move henter (hmoved _ _) (hends _ _)).bind hnext
  have hclear : c'.pendingStop = false := (congrArg Authority.pendingStop hc').trans hclear
  refine ⟨⟨hinv.idle, hinv.chronicle, fun h => ?_, hinv.failed, fun g hg => ?_⟩,
    congrArg Authority.grant hc', hclear, rfl⟩
  · rw [show c'.pendingStop = true from h] at hclear
    cases hclear
  · exact .inl ⟨rfl, (hinv.moved_of_clear hclear hg).2⟩

theorem ensures_disable :
    Ensures Sane (disable actuator enter) (fun _ => Sane) fails :=
  ensures_read_keep fun _ _ => .ite (fun _ => ensures_inhibit henter _) fun _ =>
    ensures_set fun _ => rfl

theorem ensures_configure [Single F] (settings : Settings F) :
    Ensures Sane (configure actuator enter settings) (fun _ => Sane) fun _ => Sane := by
  refine ensures_read_keep fun _ _ => ensures_guard.bind fun _ => ensures_guard.bind fun _ =>
    (ensures_disable henter).bind fun _ => (ensures_shutdownIfPending henter).bind fun _ => ?_
  exact .bind_via (fun _ => Sane) (ensures_set fun _ => rfl) fun _ =>
    ensures_read_keep fun _ _ => .pure fun _ hs => hs

theorem ensures_acquireAutomation (expected : UInt64) (token : Token) (coordinateOnly : Bool) :
    Ensures Sane (acquireAutomation actuator enter expected token coordinateOnly) (fun _ => Sane)
      fun _ => Sane := by
  refine ensures_read_keep fun _ _ => ensures_guard.bind fun _ => ensures_guard.bind fun _ =>
    ensures_guard.bind fun _ => ensures_guard.bind fun _ => ?_
  refine (ensures_continueInput henter).bind fun _ => ensures_returnUnless.bind fun _ =>
    ensures_read_keep fun _ _ => ensures_guard.bind fun _ => ?_
  refine (ensures_retry henter).bind fun _ => ensures_returnUnless.bind fun _ =>
    (ensures_retired henter).bind fun retired => ?_
  cases retired with
  | true =>
    refine (ensures_shutdownIfPending henter).bind fun _ => ?_
    refine .bind_via (fun _ => Sound fun a => true = true → Clear a)
      (ensures_set fun _ => rfl) fun _ => ?_
    exact ensures_read_keep fun _ _ => .pure fun _ hs => hs.sane
  | false => exact ensures_interrupted.bind fun _ => .throw fun _ hs => hs.sane

theorem ensures_automationDestination [Single F] (grant : Grant) (point : GroundPoint F) :
    Ensures Sane (automationDestination actuator enter grant point) (fun _ => Sane)
      fun _ => Sane := by
  refine ensures_read_keep fun _ _ => ensures_guard.bind fun _ => ensures_guard.bind fun _ =>
    ensures_guard.bind fun _ => ?_
  refine (ensures_continueInput henter).bind fun _ => ensures_returnUnless.bind fun _ =>
    ensures_read_keep fun _ _ => ensures_guard.bind fun _ => ?_
  refine (ensures_retry henter).bind fun _ => ensures_returnUnless.bind fun _ => ?_
  refine ensures_begin_move henter (fun grant start => .destination grant point start)
    (fun _ _ => rfl) (fun _ _ _ => ⟨rfl, rfl, fun _ => id⟩) fun accepted => ?_
  refine (ensures_continueInput henter).bind fun _ => ensures_returnUnless.bind fun _ =>
    (ensures_shutdownIfPending henter).bind fun _ => ?_
  refine .ite (fun _ => .pure fun _ hs => hs) fun _ => ?_
  refine (ensures_inhibit henter _).bind fun _ => ?_
  exact .bind_via (fun _ => Sane) (ensures_set fun _ => rfl) fun _ =>
    .pure fun _ hs => hs

theorem ensures_beginAutomationNativeAction (grant : Grant) :
    Ensures Sane (beginAutomationNativeAction actuator enter grant) (fun _ => Sane)
      fun _ => Sane := by
  refine ensures_read_keep fun _ _ => ensures_guard.bind fun _ => ensures_guard.bind fun _ =>
    ensures_guard.bind fun _ => ?_
  refine (ensures_continueInput henter).bind fun _ => ensures_returnUnless.bind fun _ =>
    ensures_read_keep fun _ _ => ensures_guard.bind fun _ => ?_
  refine (ensures_retry henter).bind fun _ => ensures_returnUnless.bind fun _ =>
    (ensures_continueInput henter).bind fun _ => ensures_returnUnless.bind fun _ =>
      ensures_read_keep fun _ _ => ensures_guard.bind fun _ => ?_
  refine .bind_via (fun _ => Sane) (ensures_update fun c trace hinv _ => ⟨?_, trivial⟩)
    fun _ => .pure fun _ hs => hs
  exact ⟨hinv.idle, hinv.chronicle, hinv.stopped, hinv.failed, hinv.moved⟩

theorem ensures_pauseAutomation (grant : Grant) :
    Ensures Sane (pauseAutomation actuator enter grant) (fun _ => Sane) fun _ => Sane := by
  refine ensures_read_keep fun _ _ => ensures_guard.bind fun _ => ensures_guard.bind fun _ => ?_
  refine (ensures_stopped henter _).bind fun _ => ensures_returnUnless.bind fun _ =>
    (ensures_continueInput henter).bind fun _ => ensures_returnUnless.bind fun _ => ?_
  exact .pure fun _ hs => hs.sane

theorem ensures_stop_call (grant : Grant) (reason : StopReason) :
    Ensures Sane (stop actuator enter grant reason) (fun _ => Sane) fun _ => Sane := by
  refine ensures_read_keep fun _ _ => ensures_guard.bind fun _ => ensures_guard.bind fun _ => ?_
  exact (ensures_retire henter).bind fun _ => .pure fun _ hs => hs.sane

theorem ensures_emergencyStop (grant : Grant) (reason : StopReason) :
    Ensures Sane (emergencyStop actuator enter grant reason) (fun _ => Sane) fun _ => Sane := by
  refine ensures_read_keep fun _ _ => ensures_guard.bind fun _ => ensures_guard.bind fun _ => ?_
  exact (ensures_inhibit henter _).bind fun _ => ensures_read_keep fun _ _ =>
    .pure fun _ hs => hs

theorem ensures_observeScene (scene : UInt64) :
    Ensures (Sound Q) (observeScene actuator enter scene) (fun _ => Sane) fails := by
  refine ensures_read_keep fun _ _ => .ite (fun _ => .pure fun _ hs => hs.sane)
    fun _ => ?_
  refine ((ensures_retireScene henter).mono_pre fun _ hs => hs.sane).bind fun _ =>
    (ensures_retire_scene henter).bind fun _ => (ensures_inhibited henter _).bind fun _ => ?_
  exact ensures_set fun _ => rfl

theorem ensures_observeCoordinateParentScene (scene : UInt64) (admitted : Bool) (tickMs : UInt64) :
    Ensures Sane (observeCoordinateParentScene actuator enter scene admitted tickMs)
      (fun _ => Sane) fun _ => Sane := by
  refine ensures_read_keep fun _ _ => ensures_guard.bind fun _ => ensures_interrupted.bind fun _ =>
    ensures_guard.bind fun _ => ?_
  refine (ensures_retireScene henter).bind fun _ => (ensures_retire_scene henter).bind fun _ =>
    ensures_returnUnless.bind fun _ => ?_
  refine .bind_via (fun _ => Sound Clear) (ensures_set fun _ => rfl) fun _ => ?_
  refine (ensures_stopped henter _).bind fun _ => ensures_returnUnless.bind fun _ =>
    (ensures_continueInput henter).bind fun _ => ensures_returnUnless.bind fun _ => ?_
  exact ensures_read_keep fun _ _ => .pure fun _ hs => hs.sane

theorem ensures_settleParentScene (preserve : Bool) (scene : UInt64) :
    Ensures (Sound Settled) (settleParentScene actuator enter preserve scene)
      (fun _ => Sane) fun _ => Sane := by
  refine (ensures_retire_scene henter).bind fun retired => ?_
  refine .bind_via (fun _ => Sane)
    (ensures_setSane fun _ => rfl) fun _ => ?_
  refine (ensures_whenever (fun _ => ensures_inhibit henter _) fun _ _ hs => hs).bind fun _ =>
    (ensures_stopped henter _).bind fun stopped => ?_
  refine .ite (fun _ => (ensures_inhibited henter _).bind fun _ =>
    .pure fun _ hs => hs) fun _ => (ensures_continueInput henter).bind fun ok => ?_
  refine .ite (fun _ => ensures_read_keep fun _ _ => .pure fun _ hs => hs.sane)
    fun _ => ?_
  exact (ensures_inhibited henter _).bind fun _ => .pure fun _ hs => hs

theorem ensures_observeParentScene (scene : UInt64) (manualAdmitted : Bool) (tickMs : UInt64) :
    Ensures Sane (observeParentScene actuator enter scene manualAdmitted tickMs)
      (fun _ => Sane) fun _ => Sane := by
  refine ensures_read_keep fun _ _ => ensures_guard.bind fun _ => ?_
  refine .ite (fun _ => (ensures_observeScene henter _).bind fun _ =>
    .pure fun _ hs => hs) fun _ => .ite (fun _ => ?_) fun _ => ?_
  · exact ensures_interrupted.bind fun _ => (ensures_retireScene henter).bind fun _ =>
      ensures_settleParentScene henter _ _
  · exact (ensures_retireScene henter).bind fun _ => ensures_settleParentScene henter _ _

/-! ### Ticks -/

section Ticks

variable {ready : Prop}

variable (input : Input F)

theorem ensures_moveCamera [Single F] (seconds : F) :
    Ensures (Sound Q) (moveCamera actuator enter input seconds) (fun _ => Sound Q)
      fun _ => Sane := by
  refine ensures_read_keep fun _ _ => (ensures_quiet henter
    ⟨⟨rfl, rfl, fun _ => id⟩, fun _ => ⟨rfl, rfl, fun _ => id⟩⟩).bind fun accepted => ?_
  refine (ensures_continueInput henter).bind fun _ => ensures_returnUnless.bind fun _ =>
    (ensures_shutdownIfPending henter).bind fun _ => ?_
  exact ensures_whenever (fun _ => ensures_set fun _ => rfl) fun _ _ hs => hs

theorem ensures_moveManually {move : Grant → Bool → Callback F}
    (hmoved : ∀ grant start, (Event.begins (move grant start)).moved = some grant)
    (hends : ∀ grant start ok, (Event.ends (move grant start) ok).Quiet) :
    Ensures (Sound Clear) (moveManually actuator enter move) (fun _ => Sane) fun _ => Sane := by
  refine ensures_read_keep fun _ _ => .bind_via (fun _ => Sound Clear) ?_ fun _ => ?_
  · refine ensures_whenever (fun _ => ?_) fun _ _ hs => hs
    exact (ensures_retired henter).bind fun _ => ensures_returnUnless
  · refine (ensures_shutdownIfPending henter).bind fun _ =>
      ensures_begin_move henter _ hmoved hends fun accepted => ?_
    refine (ensures_continueInput henter).bind fun _ => ensures_returnUnless.bind fun _ =>
      (ensures_shutdownIfPending henter).bind fun _ => ensures_whenever (fun _ => ?_)
        fun _ _ hs => hs
    exact (ensures_inhibit henter _).bind fun _ => ensures_set fun _ => rfl

theorem ensures_retryIfShutdown :
    Ensures Sane (retryIfShutdown actuator enter) (fun _ => Sane) fun _ => Sane := by
  refine ensures_read_keep fun _ _ => ensures_whenever (fun _ => ?_) fun _ _ hs => hs
  exact (ensures_retry henter).bind fun _ => .throw fun _ hs => hs.sane

theorem ensures_refuse (clockRegressed : Bool) :
    Ensures Sane (refuse actuator enter input clockRegressed) (fun _ => Sane) fun _ => Sane := by
  refine (ensures_inhibit henter _).bind fun _ => .bind_via (fun _ => Sane) ?_ fun _ =>
    .throw fun _ hs => hs
  exact ensures_whenever (fun _ => (ensures_retry henter).bind fun _ =>
    .pure fun _ hs => hs.sane) fun _ _ hs => hs

theorem ensures_checkLease (discontinuity : Bool) :
    Ensures (Sound Q) (checkLease actuator enter discontinuity) (fun _ => Sound Q)
      fun _ => Sane := by
  refine ensures_read_keep fun _ _ => ensures_whenever (fun _ => ?_) fun _ _ hs => hs
  refine (ensures_leaseCurrent _).bind fun _ => ensures_whenever (fun _ => ?_) fun _ _ hs => hs
  exact (ensures_inhibited henter _).bind fun _ => .throw fun _ hs => hs

theorem ensures_stopStalled (discontinuity : Bool) :
    Ensures (Sound fun a => ready → Clear a) (stopStalled actuator enter discontinuity)
      (fun _ => Sound fun a => ready → Clear a) fun _ => Sane := by
  refine ensures_read_keep fun _ _ => ensures_whenever (fun _ => ?_) fun _ _ hs => hs
  refine (ensures_stopped henter _).bind fun _ => ensures_returnUnless.bind fun _ =>
    (ensures_continueInput henter).bind fun _ => ensures_returnUnless.weaken (fun _ hs => hs)
      (fun _ => .imp fun _ ha _ => ha) fun _ _ hs => hs

theorem ensures_yieldToText :
    Ensures (Sound fun a => ready → Clear a) (yieldToText actuator enter)
      (fun _ => Sound fun a => ready → Clear a) fun _ => Sane := by
  refine ensures_read_keep fun _ _ => ensures_whenever (fun _ => ?_) fun _ _ hs => hs
  refine .bind_via (fun _ => Sound fun a => ready → Clear a) (ensures_set fun _ => rfl)
    fun _ => ensures_whenever (fun _ => ?_) fun _ _ hs => hs
  refine (ensures_retired henter).bind fun _ => ensures_returnUnless.bind fun _ =>
    (ensures_continueInput henter).bind fun _ => ensures_returnUnless.weaken (fun _ hs => hs)
      (fun _ => .imp fun _ ha _ => ha) fun _ _ hs => hs

theorem ensures_admitInput [Single F] (clockRegressed discontinuity : Bool) :
    Ensures Sane (admitInput actuator enter input clockRegressed discontinuity)
      (fun ready => Sound fun a => ready = true → Clear a) fun _ => Sane := by
  refine ensures_read_keep fun _ _ => .bind_via (fun _ => Sane)
    (ensures_whenever (fun _ => ensures_refuse henter _ _) fun _ _ hs => hs) fun _ => ?_
  refine .bind_via (fun _ => Sane) (ensures_set fun _ => rfl) fun _ => ?_
  refine (ensures_continueInput henter).bind fun _ => ensures_returnUnless.bind fun _ =>
    (ensures_checkLease henter _).bind fun _ => (ensures_retry henter).bind fun cleanupReady =>
      ensures_read_keep fun _ _ => ensures_guard.bind fun _ => ?_
  exact (ensures_stopStalled henter _).bind fun _ => (ensures_yieldToText henter).bind fun _ =>
    .pure fun _ hs => hs

theorem ensures_cancelMovement [Single F] (cleanupReady : Bool) :
    Ensures (Sound Q) (cancelMovement actuator enter input cleanupReady) (fun _ => Sound Q)
      fun _ => Sane := by
  refine ensures_read_keep fun _ _ => ensures_whenever (fun _ => ?_) fun _ _ hs => hs
  refine .ite (fun _ => (ensures_retired henter).bind fun _ => ?_) fun _ => ?_
  · exact .bind_via (fun _ => Sane)
      (ensures_setSane fun _ => rfl) fun _ =>
        .throw fun _ hs => hs
  · exact (ensures_inhibited henter _).bind fun _ => .throw fun _ hs => hs

theorem ensures_steer [Single F] (discontinuity cleanupReady lostController lostCapture : Bool)
    (direction : Vector2 F) :
    Ensures (Sound fun a => cleanupReady = true → Clear a)
      (steer actuator enter input discontinuity cleanupReady lostController lostCapture direction)
      (fun _ => Sane) fun _ => Sane := by
  refine ensures_read_keep fun _ _ => .ite (fun _ => ensures_inhibited henter _) fun _ => ?_
  refine .ite (fun _ => ensures_whenever (fun _ => ensures_inhibited henter _)
    fun _ _ hs => hs.sane) fun hready => ?_
  refine .ite (fun _ => ?_) fun _ => .ite (fun _ => ?_) fun _ =>
    .pure fun _ hs => hs.sane
  · refine (ensures_moveManually henter (fun grant start => ?_) fun grant start ok => ?_).mono_pre
      (.imp fun _ ha => ha (not_not.1 hready))
    · split <;> rfl
    · split <;> exact ⟨rfl, rfl, fun _ => id⟩
  · exact (ensures_stopped henter _).bind fun _ => .pure fun _ hs => hs.sane

omit henter in
theorem authority_pressed [Single F] (cleanupReady : Bool) (c : Controls F) :
    (pressed input cleanupReady c).authority = c.authority := by
  rw [pressed]
  split <;> rfl

omit henter in
theorem authority_dragged [Single F] (cleanupReady : Bool) (c : Controls F) :
    (dragged input cleanupReady c).1.authority = c.authority := by
  have hite {p : Prop} [Decidable p] {x y : Controls F} {a : Authority} (hx : x.authority = a)
      (hy : y.authority = a) : (if p then x else y).authority = a := by
    split
    · exact hx
    · exact hy
  -- the last of the four changes comes first
  have harmed : (if !(c.settings.drag && !c.textOwned && input.down c.settings.dragButton) &&
      !c.textOwned then { c with dragArmed := true } else c).authority = c.authority := hite rfl rfl
  have hpressed (p : Prop) [Decidable p] {c' : Controls F} (hc' : c'.authority = c.authority) :
      (if p then pressed input cleanupReady c' else c').authority = c.authority :=
    hite ((authority_pressed input cleanupReady c').trans hc') hc'
  refine hite (hite ?_ ?_) (hite ?_ ?_) <;> exact hpressed _ harmed

theorem ensures_useInput [Single F] (discontinuity cleanupReady : Bool) (seconds : F) :
    Ensures (Sound fun a => cleanupReady = true → Clear a)
      (useInput actuator enter input discontinuity cleanupReady seconds)
      (fun _ => Sane) fun _ => Sane := by
  refine ensures_read_keep fun _ _ =>
    .bind_via (fun _ => Sound fun a => cleanupReady = true → Clear a) ?_ fun _ => ?_
  · refine ensures_whenever (fun _ => ?_) fun _ _ hs => hs
    refine .bind_via (fun _ => Sane)
      (ensures_setSane fun _ => rfl) fun _ =>
        .throw fun _ hs => hs
  · refine .bind_via (fun _ => Sound fun a => cleanupReady = true → Clear a)
      (ensures_set fun _ => rfl) fun _ => ensures_read_keep fun _ _ => ?_
    refine (ensures_cancelMovement henter _ _).bind fun _ =>
      (ensures_whenever (fun _ => ensures_moveCamera henter _ _) fun _ _ hs => hs).bind fun _ =>
        ensures_read_keep fun _ _ => ?_
    refine .bind_via (fun _ => Sound fun a => cleanupReady = true → Clear a)
      (ensures_set fun c => authority_dragged input cleanupReady c) fun _ =>
        ensures_steer henter _ _ _ _ _ _

theorem ensures_tick [Single F] :
    Ensures Sane (tick actuator enter input) (fun _ => Sane) fun _ => Sane := by
  refine ensures_read_keep fun _ _ => ensures_guard.bind fun _ =>
    (ensures_retryIfShutdown henter).bind fun _ => (ensures_shutdownIfPending henter).bind fun _ =>
      (ensures_observeScene henter _).bind fun _ => (ensures_shutdownIfPending henter).bind fun _ =>
        ensures_read_keep fun _ _ => ?_
  refine .bind_via (fun _ => Sane) (ensures_set fun _ => rfl) fun _ => ?_
  exact (ensures_admitInput henter _ _ _).bind fun _ => ensures_useInput henter _ _ _ _

end Ticks

end Callbacks

/-! ## Runs -/

section Runs

variable {α : Type}

theorem finalState_throw {rest : M F ρ α} (h : condition = true) :
    finalState (do returnIf condition value; rest) s = s := by
  rw [returnIf, if_pos h]
  rfl

theorem finalState_pass {rest : M F ρ α} (h : ¬ condition = true) :
    finalState (do returnIf condition value; rest) s = finalState rest s := by
  rw [returnIf, if_neg h]
  rfl

/-- A call that returns at its first check changes nothing. -/
theorem finalState_returnIf {condition : Controls F → Bool} {rest : Controls F → M F ρ α}
    (h : condition s.state = true) :
    finalState (do let c ← read; returnIf (condition c) value; rest c) s = s :=
  finalState_throw h

variable [Single F] {actuator : Actuator F} {enter : List (Call F) → Run F → Run F}

/-- A call that is made while the actuator runs at most asks for the shutdown. -/
theorem still_call (hactuating : s.state.actuating = true) (c : Call F) :
    Still s (call actuator enter c s) := by
  have hsame {s' : Run F} (h : s' = s) : Still s s' := h ▸ Still.refl s
  have hor (b : Bool) : (s.state.actuating || b) = true := by rw [hactuating, Bool.true_or]
  cases c with
  | configure settings => exact hsame (finalState_returnIf (hor _))
  | tick input => exact hsame (finalState_returnIf hactuating)
  | observeScene scene =>
    refine hsame ?_
    show finalState (ite _ _ _) s = s
    rw [if_pos (.inl hactuating)]
    rfl
  | observeParentScene scene manualAdmitted tickMs =>
    refine hsame (finalState_returnIf ?_)
    simp only [Bool.or_assoc]
    exact hor _
  | acquireAutomation expected token coordinateOnly => exact hsame (finalState_returnIf (hor _))
  | observeCoordinateParentScene scene admitted tickMs =>
    refine hsame (finalState_returnIf ?_)
    simp only [Bool.or_assoc]
    exact hor _
  | automationDestination grant point => exact hsame (finalState_returnIf (hor _))
  | beginAutomationNativeAction grant =>
    by_cases hcoordinates : s.state.onlyCoordinates = true
    · exact hsame (finalState_returnIf hcoordinates)
    · exact hsame ((finalState_pass hcoordinates).trans (finalState_throw (hor _)))
  | pauseAutomation grant => exact hsame (finalState_returnIf (hor _))
  | stop grant reason => exact hsame (finalState_returnIf hactuating)
  | emergencyStop grant reason => exact hsame (finalState_returnIf hactuating)
  | shutdown =>
    have hpending : call actuator enter .shutdown s =
        ⟨{ s.state with shutdownPending := true }, s.trace⟩ := by
      show finalState (ite _ _ _) s = _
      rw [if_pos hactuating]
      rfl
    rw [hpending]
    exact ⟨rfl, [], (append_nil _).symm, fun _ he => absurd he not_mem_nil⟩

theorem still_enterCall (hactuating : s.state.actuating = true) (c : Call F) :
    Still s (enterCall actuator enter s c) := by
  let called : Run F := ⟨s.state, s.trace ++ [⟨s.state.grant, .called c⟩]⟩
  have hcalled : Still s called := by
    refine ⟨rfl, [⟨s.state.grant, .called c⟩], rfl, fun e he => ?_⟩
    rw [mem_singleton.1 he]
    exact ⟨rfl, rfl, rfl, fun _ => id⟩
  exact hcalled.trans (still_call (s := called) hactuating c)

theorem guarded_calls (actuator : Actuator F) (depth : ℕ) : Guarded (calls actuator depth) := by
  cases depth with
  | zero => exact fun _ s _ => Still.refl s
  | succ depth =>
    intro cs s hactuating
    show Still s (cs.foldl _ s)
    induction cs generalizing s with
    | nil => exact Still.refl s
    | cons c cs ih =>
      have hcall : Still s (enterCall actuator (calls actuator depth) s c) :=
        still_enterCall hactuating c
      exact hcall.trans (ih _ ((congrArg Authority.actuating hcall.1).trans hactuating))

/-- A public call keeps the invariant. -/
theorem sane_call (henter : Guarded enter) (c : Call F) (hs : Sane s) :
    Sane (call actuator enter c s) := by
  cases c with
  | configure settings => exact (ensures_configure henter settings).finalState hs
  | tick input => exact (ensures_tick henter input).finalState hs
  | observeScene scene => exact (ensures_observeScene henter scene).finalState hs
  | observeParentScene scene manualAdmitted tickMs =>
    exact (ensures_observeParentScene henter scene manualAdmitted tickMs).finalState hs
  | acquireAutomation expected token coordinateOnly =>
    exact (ensures_acquireAutomation henter expected token coordinateOnly).finalState hs
  | observeCoordinateParentScene scene admitted tickMs =>
    exact (ensures_observeCoordinateParentScene henter scene admitted tickMs).finalState hs
  | automationDestination grant point =>
    exact (ensures_automationDestination henter grant point).finalState hs
  | beginAutomationNativeAction grant =>
    exact (ensures_beginAutomationNativeAction henter grant).finalState hs
  | pauseAutomation grant => exact (ensures_pauseAutomation henter grant).finalState hs
  | stop grant reason => exact (ensures_stop_call henter grant reason).finalState hs
  | emergencyStop grant reason => exact (ensures_emergencyStop henter grant reason).finalState hs
  | shutdown => exact (ensures_shutdown henter).finalState hs

theorem sane_calls (actuator : Actuator F) (depth : ℕ) (cs : List (Call F)) (hs : Sane s) :
    Sane (calls actuator depth cs s) := by
  cases depth with
  | zero => exact hs
  | succ depth =>
    show Sane (cs.foldl _ s)
    induction cs generalizing s with
    | nil => exact hs
    | cons c cs ih =>
      have hcalled := hs.1.quiet_one (e := ⟨s.state.grant, .called c⟩) rfl
        ⟨rfl, rfl, fun _ => id⟩
      exact ih (sane_call (guarded_calls actuator depth) c ⟨hcalled, trivial⟩)

end Runs

end Controls

/-! ## Exclusive authority -/

/-- What a trace of the controls shows of who may move. -/
structure Exclusive (trace : List (Entry F)) : Prop where
  /-- Another owner comes with a later generation, or there is none at the last one. -/
  owners : trace.Pairwise fun e e' => e.grant.owner ≠ e'.grant.owner →
    e.grant.generation < e'.grant.generation ∨
      e'.grant.generation = 0xFFFFFFFFFFFFFFFF ∧ e'.grant.owner = .none
  /-- A grant that was replaced does not move again. -/
  replaced : ∀ e e' e'', [e, e', e''].Sublist trace → e'.grant ≠ e.grant →
    e''.event.moved ≠ some e.grant
  /-- Nothing moves while a failed stop is pending. -/
  stopped : ∀ before e after, trace = before ++ e :: after → e.event.moved ≠ none →
    ∀ grant, ¬ Failed grant before
  /-- What moved is stopped, or its scene retired, before another grant moves. -/
  retired : ∀ before e between e' after, trace = before ++ e :: between ++ e' :: after →
    ∀ grant grant', e.event.moved = some grant → e'.event.moved = some grant' → grant ≠ grant' →
      ∃ x ∈ between, x.event.retires grant

theorem Chronicle.exclusive {trace : List (Entry F)} (h : Chronicle trace grant) :
    Exclusive trace where
  owners := h.ordered.imp fun hsucceeds => hsucceeds.generation_lt
  replaced e e' e'' hsub hne hmoved := by
    have hordered := h.ordered.sublist hsub
    obtain ⟨hfirst, hrest⟩ := pairwise_cons.1 hordered
    obtain ⟨hsecond, -⟩ := pairwise_cons.1 hrest
    obtain ⟨before, after, heq⟩ := append_of_mem
      (hsub.subset (mem_cons_of_mem _ (mem_cons_of_mem _ mem_cons_self)))
    obtain ⟨hgrant, -⟩ := h.permitted before e'' after heq e.grant hmoved
    -- the grant was current at first and is again, so it was all the time
    have hback := hsecond e'' mem_cons_self
    rw [hgrant] at hback
    exact hne ((hfirst e' mem_cons_self).eq_of_back hback)
  stopped before e after heq hmoved grant := by
    cases hevent : e.event.moved with
    | none => exact absurd hevent hmoved
    | some g => exact (h.permitted before e after heq g hevent).2.1 grant
  retired before e between e' after heq grant grant' hmoved hmoved' hne := by
    by_contra hnone
    refine hne ((h.permitted _ e' after heq grant' hmoved').2.2 grant ?_)
    exact ⟨before, e, between, rfl, hmoved, fun x hx hretires => hnone ⟨x, hx, hretires⟩⟩

/-- Authority to move is exclusive and ends with a stop: whatever is called, from outside or while
the actuator runs, and whatever the actuator answers. -/
theorem movement_exclusive [Single F] (actuator : Actuator F) (depth : ℕ) (cs : List (Call F)) :
    Exclusive (Controls.calls actuator depth cs ⟨Controls.initial, []⟩).trace :=
  (Controls.sane_calls actuator depth cs ⟨Inv.nil rfl rfl, trivial⟩).1.chronicle.exclusive

end ShadowbaneLab.Native.Movement
