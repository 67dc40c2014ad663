/-
# Isolation of cancellations

Cancelling an execution puts its token in `_cancelled_tokens`, and the queue drops every
item that carries a cancelled token.  The token joins the actor and the correlation with
colons (`src/shadowbane_lab/sim/environment.py`, `_start_action`), and neither identifier
is escaped: two pairs get one token exactly when they cross at a colon
(`cancelToken_eq_iff`).  Cancellations are isolated precisely in the runs that accept no
two crossing pairs (`visited_cancellationIsolated_iff`).
-/
import ShadowbaneLab.Sim.Runs

namespace ShadowbaneLab

open Foundation

/-! ## Tokens -/

/-- The second pair moves a colon-separated part of the first one's correlation into its
actor. -/
def Crosses (k k' : ExecutionKey) : Prop :=
  ∃ part, (ofLex k').1 = (ofLex k).1 ++ ":" ++ part ∧ (ofLex k).2 = part ++ ":" ++ (ofLex k').2

/-- The token of a pair. -/
def ExecutionKey.token (k : ExecutionKey) : String := cancelToken (ofLex k).1 (ofLex k).2

/-- Splitting one list at two occurrences of a separator. -/
theorem append_cons_eq_append_cons {α : Type} {a a' c c' : List α} {x : α} :
    a ++ x :: c = a' ++ x :: c' ↔
      (a = a' ∧ c = c') ∨ (∃ part, a' = a ++ x :: part ∧ c = part ++ x :: c') ∨
        ∃ part, a = a' ++ x :: part ∧ c' = part ++ x :: c := by
  constructor
  · intro h
    rcases List.append_eq_append_iff.mp h with ⟨mid, ha', hc⟩ | ⟨mid, ha, hc⟩
    · cases mid with
      | nil =>
        rw [List.append_nil] at ha'
        rw [List.nil_append, List.cons.injEq] at hc
        exact .inl ⟨ha'.symm, hc.2⟩
      | cons y part =>
        rw [List.cons_append, List.cons.injEq] at hc
        obtain ⟨rfl, hc⟩ := hc
        exact .inr (.inl ⟨part, ha', hc⟩)
    · cases mid with
      | nil =>
        rw [List.append_nil] at ha
        rw [List.nil_append, List.cons.injEq] at hc
        exact .inl ⟨ha, hc.2.symm⟩
      | cons y part =>
        rw [List.cons_append, List.cons.injEq] at hc
        obtain ⟨rfl, hc⟩ := hc
        exact .inr (.inr ⟨part, ha, hc⟩)
  · rintro (⟨rfl, rfl⟩ | ⟨part, rfl, rfl⟩ | ⟨part, rfl, rfl⟩)
    · rfl
    · rw [List.append_assoc, List.cons_append]
    · rw [List.append_assoc, List.cons_append]

theorem toList_join (a b : String) : (a ++ ":" ++ b).toList = a.toList ++ ':' :: b.toList := by
  rw [String.toList_append, String.toList_append, List.append_assoc]
  rfl

variable {k k' : ExecutionKey}

theorem crosses_iff :
    Crosses k k' ↔ ∃ part : List Char, (ofLex k').1.toList = (ofLex k).1.toList ++ ':' :: part ∧
        (ofLex k).2.toList = part ++ ':' :: (ofLex k').2.toList := by
  constructor
  · rintro ⟨part, hactor, hcorrelation⟩
    exact ⟨part.toList, by rw [hactor, toList_join], by rw [hcorrelation, toList_join]⟩
  · rintro ⟨part, hactor, hcorrelation⟩
    refine ⟨String.ofList part, String.toList_injective ?_, String.toList_injective ?_⟩
    · rw [hactor, toList_join, String.toList_ofList]
    · rw [hcorrelation, toList_join, String.toList_ofList]

/-- **Two pairs have one token exactly when they are equal or cross.** -/
theorem cancelToken_eq_iff : k.token = k'.token ↔ k = k' ∨ Crosses k k' ∨ Crosses k' k := by
  have htoken (k : ExecutionKey) :
      k.token.toList = "cancel:".toList ++ ((ofLex k).1.toList ++ ':' :: (ofLex k).2.toList) := by
    rw [ExecutionKey.token, cancelToken, toList_join, String.toList_append, List.append_assoc]
  rw [← String.toList_inj, htoken, htoken, List.append_right_inj, append_cons_eq_append_cons,
    crosses_iff, crosses_iff, String.toList_inj, String.toList_inj]
  apply or_congr_left
  constructor
  · rintro ⟨hactor, hcorrelation⟩
    exact Prod.ext hactor hcorrelation
  · rintro rfl
    exact ⟨rfl, rfl⟩

/-! ## Isolation -/

namespace World

/-- Cancel one more token. -/
def cancel (world : World) (token : String) : World :=
  { world with cancelledTokens := insert token world.cancelledTokens }

/-- No two executions of a world cross. -/
def NoCrossing (world : World) : Prop :=
  ∀ k ∈ world.executions.keys, ∀ k' ∈ world.executions.keys, ¬ Crosses k k'

/-- Distinct executions have distinct tokens, and cancelling the token of one execution
leaves the queued items of the others as valid or invalid as they were. -/
structure CancellationIsolated (world : World) : Prop where
  tokens : ∀ k e k' e', k ≠ k' → world.executions.get? k = some e →
    world.executions.get? k' = some e' → e.cancelToken ≠ e'.cancelToken
  items : ∀ k e, world.executions.get? k = some e → ∀ item ∈ world.scheduled,
    item.executionKey ≠ k →
      (world.cancel e.cancelToken).scheduledItemIsValid item = world.scheduledItemIsValid item

end World

variable {world : World}

/-- A token an item does not carry does not matter to it. -/
theorem scheduledItemIsValid_cancel {item : ScheduledItem} {token : String}
    (h : item.cancelToken ≠ some token) :
    (world.cancel token).scheduledItemIsValid item = world.scheduledItemIsValid item := by
  have hcancelled : item.cancelToken.any (fun t => t ∈ insert token world.cancelledTokens) =
      item.cancelToken.any (fun t => t ∈ world.cancelledTokens) := by
    cases hitem : item.cancelToken with
    | none => rfl
    | some t =>
      have hne : t ≠ token := by
        intro heq
        exact h (heq ▸ hitem)
      simp [hne]
  show (if item.cancelToken.any (fun t => t ∈ insert token world.cancelledTokens) &&
    !world.detached item then _ else _) = _
  rw [hcancelled]
  rfl

/-- In a coherent world, the token of an execution is that of its key. -/
theorem Coherent.token_eq (hw : Coherent world) {k : ExecutionKey} {e : ActionExecutionState}
    (he : world.executions.get? k = some e) : e.cancelToken = k.token := by
  rw [hw.tokens k e he, ← hw.executions_keyed k e he]
  rfl

/-- **A coherent world isolates cancellations exactly when no two executions cross.** -/
theorem Coherent.cancellationIsolated_iff (hw : Coherent world) :
    world.CancellationIsolated ↔ world.NoCrossing := by
  constructor
  · intro h k hk k' hk' hcross
    obtain ⟨e, he⟩ := Dict.mem_keys_iff.mp hk
    obtain ⟨e', he'⟩ := Dict.mem_keys_iff.mp hk'
    have hne : k ≠ k' := by
      rintro rfl
      -- a pair cannot move a part of its own correlation into its actor
      obtain ⟨part, hactor, _⟩ := crosses_iff.mp hcross
      have := congrArg List.length hactor
      rw [List.length_append, List.length_cons] at this
      omega
    apply h.tokens k e k' e' hne he he'
    rw [hw.token_eq he, hw.token_eq he']
    exact cancelToken_eq_iff.mpr (.inr (.inl hcross))
  · intro h
    have htokens : ∀ k e k' e', k ≠ k' → world.executions.get? k = some e →
        world.executions.get? k' = some e' → e.cancelToken ≠ e'.cancelToken := by
      intro k e k' e' hne he he' heq
      rw [hw.token_eq he, hw.token_eq he'] at heq
      have hk := Dict.mem_keys_iff.mpr ⟨e, he⟩
      have hk' := Dict.mem_keys_iff.mpr ⟨e', he'⟩
      rcases cancelToken_eq_iff.mp heq with hkey | hcross | hcross
      · exact hne hkey
      · exact h k hk k' hk' hcross
      · exact h k' hk' k hk hcross
    refine ⟨htokens, ?_⟩
    intro k e he item hitem hkey
    apply scheduledItemIsValid_cancel
    rcases hw.owned item hitem with hfree | ⟨owner, howner, howned⟩
    · rw [hfree.cancelToken]
      exact Option.some_ne_none _ |>.symm
    · rw [howned.cancelToken, ne_eq, Option.some.injEq]
      exact htokens _ owner k e hkey howner he

/-- **In every run, cancellations are isolated exactly as long as no two accepted pairs
cross.** -/
theorem visited_cancellationIsolated_iff {rt : Runtime} {cfg : Config rt} {s : Frame}
    (h : Visited cfg s) : s.CancellationIsolated ↔ s.NoCrossing :=
  h.coherent.cancellationIsolated_iff

/-- A run whose pairs do not cross. -/
theorem visited_cancellationIsolated_waiting :
    ∃ (cfg : Config Runtime.sample) (s : Frame), Visited cfg s ∧
      s.executions.keys = [toLex ("a", "first"), toLex ("b", "second")] ∧
      (s.CancellationIsolated ↔ s.NoCrossing) := by
  have hrun : replays Runtime.sample (waitSetup 1000 ["a", "b"]) 8
      [[waitDecision 0 "a" "first", waitDecision 0 "b" "second"]]
      (fun _ _ world => decide
        (world.executions.keys = [toLex ("a", "first"), toLex ("b", "second")])) = true := by
    decide +kernel
  obtain ⟨cfg, events, world, hreplay, hkeys⟩ := exists_of_replays hrun
  have hvisited : Visited cfg { world with } := .boundary (replay_reachable hreplay)
  exact ⟨cfg, { world with }, hvisited, of_decide_eq_true hkeys,
    visited_cancellationIsolated_iff hvisited⟩

/-- **Two waiting actors whose pairs cross: cancelling the token of the first one's action
invalidates the completion of the second one's.** -/
theorem crossed_pairs_not_isolated :
    ∃ (cfg : Config Runtime.sample) (events : List Event) (world : World),
      replay Runtime.sample (waitSetup 1000 ["a", "a:b"]) 8
          [[waitDecision 0 "a" "b:c", waitDecision 0 "a:b" "c"]] = .ok (cfg, events, world) ∧
        Visited cfg { world with } ∧
        (∃ item ∈ world.scheduled, item.executionKey = toLex ("a:b", "c") ∧
          world.scheduledItemIsValid item = true ∧
          (world.cancel (cancelToken "a" "b:c")).scheduledItemIsValid item = false) ∧
        ¬ world.CancellationIsolated := by
  have hrun : replays Runtime.sample (waitSetup 1000 ["a", "a:b"]) 8
      [[waitDecision 0 "a" "b:c", waitDecision 0 "a:b" "c"]]
      (fun _ _ world => decide (∃ item ∈ world.scheduled,
        item.executionKey = toLex ("a:b", "c") ∧ world.scheduledItemIsValid item = true ∧
          (world.cancel (cancelToken "a" "b:c")).scheduledItemIsValid item = false) &&
        (world.executions.get? (toLex ("a", "b:c"))).any (fun e =>
          e.cancelToken = cancelToken "a" "b:c")) = true := by
    decide +kernel
  obtain ⟨cfg, events, world, hreplay, hworld⟩ := exists_of_replays hrun
  rw [Bool.and_eq_true, decide_eq_true_eq, Option.any_eq_true] at hworld
  obtain ⟨hinvalidated, e, he, htoken⟩ := hworld
  rw [decide_eq_true_eq] at htoken
  refine ⟨cfg, events, world, hreplay, .boundary (replay_reachable hreplay), hinvalidated, ?_⟩
  intro hisolated
  obtain ⟨item, hitem, hkey, hvalid, hinvalid⟩ := hinvalidated
  have hsame := hisolated.items _ e he item hitem (by rw [hkey]; decide)
  rw [htoken, hinvalid, hvalid] at hsame
  cases hsame

end ShadowbaneLab
