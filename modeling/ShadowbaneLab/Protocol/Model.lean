/-
# Semantic messages

The versioned messages shared by policies and the simulator
(`src/shadowbane_lab/protocol/model.py`): entity and relation vocabularies, action
bindings, observations, affordances, decisions and events, and the cross-message check
of a decision against the exchange it answers (`protocol/validation.py`).
-/
import ShadowbaneLab.Foundation.Host

namespace ShadowbaneLab

open Foundation

/-! ## Vocabularies -/

inductive EntityKind where
  | actor
  | pet
  | summon
  | structure_
  | objective
  | item
  | projectile
  deriving DecidableEq, Repr

/-- Coarse relation of one entity to another. -/
inductive Relation where
  | self
  | ally
  | enemy
  | neutral
  deriving DecidableEq, Repr

/-- The string value of a relation. -/
def Relation.value : Relation → String
  | .self => "self"
  | .ally => "ally"
  | .enemy => "enemy"
  | .neutral => "neutral"

inductive TargetKind where
  | none
  | self
  | entity
  | position
  | direction
  deriving DecidableEq, Repr

/-- Event kinds: the members of `EventKind`, then the kinds the simulator emits as plain
strings. -/
inductive EventKind where
  | actionStarted
  | actionRejected
  | actionCompleted
  | actionInterrupted
  | targetChanged
  | movementChanged
  | attackRolled
  | passiveDefenseTriggered
  | absorberConsumed
  | damageApplied
  | attackResolved
  | passiveDefenseResolved
  | chanceResolved
  | resourceRestored
  | resourceTransferred
  | triggerChecked
  | triggerFired
  | effectAdded
  | effectBlocked
  | effectPulsed
  | effectRemoved
  | stanceChanged
  | entitySpawned
  | entityDied
  | objectiveChanged
  | resourceSpent
  | scalarModified
  | tagModified
  | itemTransferred
  | effectOutcomeResolved
  deriving DecidableEq, Repr

/-! ## Values -/

structure Vector2 where
  x : ℚ
  y : ℚ
  deriving DecidableEq, Repr

/-- The origin, also the default velocity. -/
def Vector2.zero : Vector2 := ⟨0, 0⟩

structure NamedScalar where
  name : String
  value : ℚ
  deriving DecidableEq, Repr

theorem pos_of_mem_none : ∀ q ∈ (none : Option ℚ), 0 < q := nofun

theorem identifier_of_mem_none : ∀ i ∈ (none : Option String), Identifier i := nofun

/-- Parameters bound to one semantic action candidate.  Of its constructor's checks, those
on the item and the quantity are part of the value; the others concern fields that every
call site fills from validated identifiers. -/
@[ext]
structure ActionBinding where
  actorId : String
  targetKind : TargetKind := .none
  targetEntityId : Option String := none
  position : Option Vector2 := none
  direction : Option Vector2 := none
  quantity : Option ℚ := none
  itemId : Option String := none
  objectiveId : Option String := none
  quantity_ok : ∀ q ∈ quantity, 0 < q := by first | exact pos_of_mem_none | simp
  itemId_ok : ∀ i ∈ itemId, Identifier i := by first | exact identifier_of_mem_none | simp

instance : DecidableEq ActionBinding := fun _ _ => decidable_of_iff' _ ActionBinding.ext_iff

/-! ## Observations, affordances and decisions -/

structure EntityObservation where
  entityId : String
  kind : EntityKind
  relation : Relation
  position : Vector2
  velocity : Vector2
  scalars : List NamedScalar
  tags : List String
  deriving DecidableEq, Repr

structure ObservationMessage where
  messageId : String
  observationId : String
  agentId : String
  lifeId : String
  tick : ℕ
  simTimeMs : ℕ
  entities : List EntityObservation
  active : Bool
  deriving DecidableEq, Repr

structure Affordance where
  affordanceId : String
  actionKey : String
  binding : ActionBinding
  features : List NamedScalar
  tags : List String
  deriving DecidableEq

structure AffordanceSetMessage where
  messageId : String
  observationId : String
  agentId : String
  tick : ℕ
  affordances : List Affordance
  deriving DecidableEq

/-- A policy's decision.  The identifier checks of its constructor, and that its binding
belongs to its agent, are part of the value. -/
@[ext]
structure DecisionMessage where
  messageId : String
  correlationId : String
  observationId : String
  agentId : String
  tick : ℕ
  affordanceId : String
  actionKey : String
  binding : ActionBinding
  messageId_ok : Identifier messageId
  correlationId_ok : Identifier correlationId
  observationId_ok : Identifier observationId
  agentId_ok : Identifier agentId
  affordanceId_ok : Identifier affordanceId
  actionKey_ok : Identifier actionKey
  binding_ok : binding.actorId = agentId

/-- The observation and the affordances of one agent at one tick. -/
structure AgentExchange where
  observation : ObservationMessage
  affordances : AffordanceSetMessage
  deriving DecidableEq

/-! ## Events -/

/-- An emitted event.  `number` is the running event number; the identifier the source
stores is its padded rendering `Event.eventId`. -/
structure Event where
  number : ℕ
  kind : EventKind
  tick : ℕ
  simTimeMs : ℕ
  correlationId : Option String := none
  sourceEntityId : Option String := none
  targetEntityId : Option String := none
  actionKey : Option String := none
  scalars : List NamedScalar := []
  tags : List String := []
  deriving DecidableEq, Repr

namespace Event

/-- `f"event:{number:012d}"`. -/
def eventId (event : Event) : String := "event:" ++ padded 12 event.number

/-- An absent field, or an identifier. -/
def optionalIdentifier (value : Option String) : Bool := value.all nonblank

/-- The checks of the event constructor, in its order. -/
def check (event : Event) : Except Fault Unit := do
  require (optionalIdentifier event.correlationId)
    (.valueError "correlation_id must be a non-empty string")
  require (optionalIdentifier event.sourceEntityId)
    (.valueError "source_entity_id must be a non-empty string")
  require (optionalIdentifier event.targetEntityId)
    (.valueError "target_entity_id must be a non-empty string")
  require (optionalIdentifier event.actionKey)
    (.valueError "action_key must be a non-empty string")
  require event.tags.Nodup (.valueError "tags must not contain duplicates")
  require (event.tags.all nonblank) (.valueError "tags must be a non-empty string")
  require (event.scalars.map NamedScalar.name).Nodup
    (.valueError "scalar names must not contain duplicates")
  require (event.scalars.all (fun s => nonblank s.name))
    (.valueError "scalar names must be a non-empty string")

end Event

structure EventBatchMessage where
  messageId : String
  tick : ℕ
  simTimeMs : ℕ
  events : List Event
  lifeTerminated : List String
  worldTerminated : Bool
  truncated : Bool
  deriving DecidableEq, Repr

/-- The checks of the batch constructor, in its order. -/
def EventBatchMessage.check (batch : EventBatchMessage) : Except Fault Unit := do
  require (nonblank batch.messageId) (.valueError "message_id must be a non-empty string")
  require batch.lifeTerminated.Nodup (.valueError "life_terminated must not contain duplicates")
  require (batch.lifeTerminated.all nonblank)
    (.valueError "life_terminated must be a non-empty string")
  require (batch.events.map Event.eventId).Nodup
    (.valueError "event ids must not contain duplicates")
  require ((batch.events.map Event.eventId).all nonblank)
    (.valueError "event ids must be a non-empty string")

/-! ## Validation of a decision -/

/-- `validate_exchange`: the exact affordance a decision selected.  The comparison
includes the complete binding, so a policy cannot alter a target or a parameter after
legality was calculated. -/
def validateExchange (observation : ObservationMessage) (affordanceSet : AffordanceSetMessage)
    (decision : DecisionMessage) : Except Fault Affordance :=
  let expected := (observation.observationId, observation.agentId, observation.tick)
  if (affordanceSet.observationId, affordanceSet.agentId, affordanceSet.tick) ≠ expected then
    .error (.protocolMismatch "affordance set does not match the observation")
  else if (decision.observationId, decision.agentId, decision.tick) ≠ expected then
    .error (.protocolMismatch "decision does not match the observation")
  else
    match affordanceSet.affordances.find? (fun a => a.affordanceId = decision.affordanceId) with
    | none => .error (.protocolMismatch "decision selected an unavailable affordance")
    | some selected =>
      if selected.actionKey ≠ decision.actionKey then
        .error (.protocolMismatch "decision action key does not match the affordance")
      else if selected.binding ≠ decision.binding then
        .error (.protocolMismatch "decision binding does not match the legal affordance")
      else .ok selected

/-- An accepted decision names an offered affordance, with its action and its binding. -/
theorem validateExchange_ok {observation : ObservationMessage}
    {affordanceSet : AffordanceSetMessage} {decision : DecisionMessage} {selected : Affordance}
    (h : validateExchange observation affordanceSet decision = .ok selected) :
    selected ∈ affordanceSet.affordances ∧ selected.actionKey = decision.actionKey ∧
      selected.binding = decision.binding := by
  simp only [validateExchange] at h
  split at h
  · cases h
  split at h
  · cases h
  split at h
  · cases h
  rename_i found hfound
  split at h
  · cases h
  rename_i hkey
  split at h
  · cases h
  rename_i hbinding
  cases h
  exact ⟨List.mem_of_find?_eq_some hfound, not_not.mp hkey, not_not.mp hbinding⟩

end ShadowbaneLab
