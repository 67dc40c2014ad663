/-
# Which decisions a step admits

What follows from the admission of a decision: its agent may act at the start of the step,
its binding was offered, its key is fresh, and no other admitted decision is its agent's.
-/
import ShadowbaneLab.Sim.Environment

namespace ShadowbaneLab

open Foundation

section Admission

variable {rt : Runtime} {cfg : Config rt} {world : World} {decision : DecisionMessage}
  {action : ActionSpec}

/-! ## Offers -/

variable {entities : Dict String EntityState} {tick nowMs : ℕ}

/-- An exchange is about an existing entity, and lists its affordances. -/
theorem exchange_eq_ok {agentId : String} {offered : AgentExchange}
    (h : exchange cfg entities tick nowMs agentId = .ok offered) :
    ∃ actor, entities.get? agentId = some actor ∧
      buildAffordances cfg entities tick nowMs actor = .ok offered.affordances.affordances ∧
      offered.observation.agentId = agentId := by
  unfold exchange at h
  split at h
  · cases h
  · rename_i actor hactor
    obtain ⟨observed, _, h⟩ := bind_eq_ok.mp h
    obtain ⟨affordances, haffordances, h⟩ := bind_eq_ok.mp h
    cases h
    exact ⟨actor, hactor, haffordances, rfl⟩

/-- Only an actor that may act is offered anything. -/
theorem mayAct_of_mem {actor : EntityState} {affordances : List Affordance}
    {affordance : Affordance} (h : buildAffordances cfg entities tick nowMs actor = .ok affordances)
    (hmem : affordance ∈ affordances) : mayAct nowMs actor = true := by
  unfold buildAffordances at h
  split at h
  · assumption
  · cases h
    cases hmem

/-- What a valid decision satisfies. -/
structure Offered (cfg : Config rt) (world : World) (decision : DecisionMessage)
    (action : ActionSpec) : Prop where
  actor : ∃ e, world.entities.get? decision.agentId = some e ∧ mayAct world.nowMs e = true
  binding : ∃ offered, exchange cfg world.entities world.tick world.nowMs decision.agentId =
      .ok offered ∧
    ∃ affordance ∈ offered.affordances.affordances, affordance.actionKey = decision.actionKey ∧
      affordance.binding = decision.binding
  known : cfg.catalog.find? decision.actionKey = some action

theorem validateDecision_eq_ok (h : validateDecision cfg world decision = .ok action) :
    Offered cfg world decision action := by
  unfold validateDecision at h
  obtain ⟨offered, hoffered, h⟩ := bind_eq_ok.mp h
  obtain ⟨selected, hselected, h⟩ := bind_eq_ok.mp h
  obtain ⟨hmem, hkey, hbinding⟩ := validateExchange_ok hselected
  obtain ⟨actor, hactor, haffordances, _⟩ := exchange_eq_ok hoffered
  refine ⟨⟨actor, hactor, mayAct_of_mem haffordances hmem⟩,
    ⟨offered, hoffered, selected, hmem, hkey, hbinding⟩, ?_⟩
  unfold ActionCatalog.get at h
  split at h
  · rename_i hfind
    cases h
    exact hfind
  · cases h

theorem verdict_eq_ok (h : verdict cfg world decision = .ok action) :
    Offered cfg world decision action ∧ world.executions.get? decision.executionKey = none := by
  unfold verdict at h
  split at h
  · cases h
  · rename_i found hvalid
    split at h
    · cases h
    · rename_i hfresh
      cases h
      refine ⟨validateDecision_eq_ok hvalid, ?_⟩
      rwa [Dict.contains, Bool.not_eq_true, Option.isSome_eq_false_iff,
        Option.isNone_iff_eq_none] at hfresh

/-! ## The verdicts of a step -/

variable {decisions : List DecisionMessage}

/-- An accepted decision was admitted, and its agent had no earlier decision. -/
theorem mem_accepted_admissions {seen : Finset String}
    (h : (decision, action) ∈ accepted (admissions cfg world seen decisions)) :
    decision ∈ decisions ∧ decision.agentId ∉ seen ∧ verdict cfg world decision = .ok action := by
  induction decisions generalizing seen with
  | nil => cases h
  | cons first rest ih =>
    rw [admissions] at h
    split at h
    · obtain ⟨hmem, hseen, hadmit⟩ := ih h
      exact ⟨List.mem_cons_of_mem _ hmem, hseen, hadmit⟩
    · rename_i hseen
      have hrest (h : (decision, action) ∈
          accepted (admissions cfg world (insert first.agentId seen) rest)) :
          decision ∈ first :: rest ∧ decision.agentId ∉ seen ∧
            verdict cfg world decision = .ok action := by
        obtain ⟨hmem, hseen', hadmit⟩ := ih h
        rw [Finset.mem_insert, not_or] at hseen'
        exact ⟨List.mem_cons_of_mem _ hmem, hseen'.2, hadmit⟩
      cases hverdict : verdict cfg world first with
      | error reason =>
        rw [hverdict] at h
        exact hrest h
      | ok found =>
        rw [hverdict] at h
        rcases List.mem_cons.mp h with heq | hmem
        · cases heq
          exact ⟨List.mem_cons_self, hseen, hverdict⟩
        · exact hrest hmem

theorem nodup_accepted_admissions (seen : Finset String) (decisions : List DecisionMessage) :
    ((accepted (admissions cfg world seen decisions)).map (fun a => a.1.agentId)).Nodup := by
  induction decisions generalizing seen with
  | nil => exact List.nodup_nil
  | cons first rest ih =>
    rw [admissions]
    split
    · exact ih seen
    · cases hverdict : verdict cfg world first with
      | error reason => exact ih (insert first.agentId seen)
      | ok found =>
        show (first.agentId :: _).Nodup
        rw [List.nodup_cons]
        refine ⟨?_, ih (insert first.agentId seen)⟩
        intro hmem
        obtain ⟨⟨decision, action⟩, hmem, heq⟩ := List.mem_map.mp hmem
        obtain ⟨_, hseen, _⟩ := mem_accepted_admissions hmem
        rw [Finset.mem_insert, not_or] at hseen
        exact hseen.1 heq

/-- **Every accepted decision was offered, and its key is fresh.** -/
theorem accepted_offered (h : (decision, action) ∈ accepted (verdicts cfg world decisions)) :
    Offered cfg world decision action ∧ world.executions.get? decision.executionKey = none :=
  verdict_eq_ok (mem_accepted_admissions h).2.2

/-- **At most one decision of an agent is accepted.** -/
theorem accepted_agents_nodup (decisions : List DecisionMessage) :
    ((accepted (verdicts cfg world decisions)).map (fun a => a.1.agentId)).Nodup :=
  nodup_accepted_admissions _ _

end Admission

end ShadowbaneLab
