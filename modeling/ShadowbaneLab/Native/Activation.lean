/-
# The activation history

`ActivationHistory` of `combat_activation_lifecycle.h`: the local activity of one actor, followed
from the start of an activation to its end.  A counter advances with everything that could disturb
an activation, and what belongs to it must come with the counter's value of its own last step.
-/
import Mathlib.Data.Fintype.Basic
import ShadowbaneLab.Foundation.Ledger

namespace ShadowbaneLab.Native.Activation

open Foundation

/-! ## Records -/

/-- `std::uintptr_t` of the 32-bit client. -/
abbrev Pointer : Type := UInt32

/-- `ActivationIdentity`. -/
structure Identity where
  actor : Pointer := 0
  key : UInt32 × UInt32 := (0, 0)
  scene : UInt64 := 0
deriving DecidableEq

/-- `Valid`. -/
def Identity.valid (identity : Identity) : Bool :=
  identity.actor ≠ 0 ∧ identity.key.1 ≠ 0 ∧ identity.key.2 = 53 ∧ identity.scene ≠ 0

/-- `ActivationPhase`. -/
inductive Phase
  | unknown
  | awaitingStart
  | followingOwned
  | settingState
  | awaitingAppend
  | appending
  | awaitingStartReturn
  | active
  | moving
  | interrupted
  | completingState
  | awaitingFirstRemoval
  | removingFirst
  | awaitingTailRemoval
  | removingTail
  | awaitingProcessReturn
  | completed
deriving DecidableEq

/-- `Terminal`. -/
def Phase.terminal (phase : Phase) : Bool := phase = .interrupted ∨ phase = .completed

/-- The phases between the start of an activation and its end. -/
def Phase.started (phase : Phase) : Bool :=
  ¬ phase.terminal ∧ phase ≠ .unknown ∧ phase ≠ .awaitingStart

/-- `ActivationOrigin`. -/
inductive Origin
  | item
  | selfPower
deriving DecidableEq

structure Record where
  identity : Identity := {}
  ticket : UInt64 := 0
  power : UInt32 := 0
  phase : Phase := .unknown
  queued : Bool := false
  ownedFollowup : Bool := false
  localRelinquished : Bool := false
  origin : Origin := .item
deriving DecidableEq

/-- `ActivationHistory::capacity`. -/
abbrev capacity : ℕ := 32

/-- What a step of an activation must come with. -/
structure Transition where
  mutation : UInt64 := 0
  ticket : UInt64 := 0
  index : ℕ := capacity
deriving DecidableEq

/-- The native call that a step is observed in. -/
structure Frame where
  frame : Pointer := 0
  message : Pointer := 0
  definition : Pointer := 0
  thread : UInt32 := 0
deriving DecidableEq

/-- Everything about the frame is known. -/
def Frame.known (frame : Frame) : Bool :=
  frame.frame ≠ 0 ∧ frame.message ≠ 0 ∧ frame.definition ≠ 0 ∧ frame.thread ≠ 0

/-- A use by hand that may take over from the activations before it. -/
structure Manual where
  identity : Identity := {}
  power : UInt32 := 0
  phase : Phase := .unknown
  mutation : UInt64 := 0
  sendMutation : UInt64 := 0
  frame : Frame := {}
deriving DecidableEq

structure History where
  records : Fin capacity → Record := fun _ => {}
  bound : Identity := {}
  mutation : UInt64 := 0
  current : Transition := {}
  frame : Frame := {}
  manual : Manual := {}

namespace History

variable (s : History)

/-! ## Mutations -/

/-- The counter is at its maximum. -/
def full : Bool := s.mutation = 0xFFFFFFFFFFFFFFFF

/-- The records with other phases. -/
def withPhases (phase : Fin capacity → Phase) : History :=
  { s with records := fun i => { s.records i with phase := phase i } }

/-- `Advance` at the maximum: nothing is known any more. -/
def overflowed : History := s.withPhases fun _ => .unknown

/-- `Advance` below it. -/
def advanced : History := { s with mutation := s.mutation + 1 }

/-- `Relevant`. -/
def relevant (actor : Pointer) : Bool := s.bound.valid ∧ s.bound.actor = actor

/-- `InvalidateActive`. -/
def invalidateActive (actor : Pointer) : History :=
  s.withPhases fun i =>
    let record := s.records i
    if record.identity.actor = actor ∧ record.phase ≠ .awaitingStart ∧ ¬ record.phase.terminal then
      .unknown
    else record.phase

/-- One record replaced. -/
def replace (i : Fin capacity) (record : Record) : History :=
  { s with records := Function.update s.records i record }

theorem replace_self (i : Fin capacity) (record : Record) :
    (s.replace i record).records i = record := Function.update_self ..

theorem replace_ne {i j : Fin capacity} (h : j ≠ i) (record : Record) :
    (s.replace i record).records j = s.records j := Function.update_of_ne h ..

/-- One record in another phase. -/
def setPhase (i : Fin capacity) (phase : Phase) : History :=
  s.replace i { s.records i with phase := phase }

/-- `Exact`. -/
def exact (slot : ℕ) (ticket : UInt64) : Option (Fin capacity) :=
  if h : slot < capacity then
    if ticket ≠ 0 ∧ (s.records ⟨slot, h⟩).ticket = ticket then some ⟨slot, h⟩ else none
  else none

/-- `Current`. -/
def recordOf (token : Transition) (phase : Phase) : Option (Fin capacity) :=
  (s.exact token.index token.ticket).filter fun i =>
    token.mutation = s.mutation ∧ (s.records i).phase = phase

/-- `OtherActivity`. -/
def otherActivity (actor : Pointer) : History :=
  if ¬ s.relevant actor then s
  else if s.full then s.overflowed
  else s.advanced.invalidateActive actor

/-- `ForeignItemSend` and `ForeignPowerUse`. -/
def foreignItemSend (actor : Pointer) : History :=
  if ¬ s.relevant actor then s
  else if s.full then s.overflowed
  else s.advanced.withPhases fun i =>
    let record := s.records i
    if record.identity.actor = actor ∧ ¬ record.phase.terminal then .unknown else record.phase

/-! ## Arming -/

/-- `Arm`, with the ticket of the new record. -/
def arm (slot : ℕ) (identity : Identity) (power : UInt32) (origin : Origin) : History × UInt64 :=
  if h : slot < capacity then
    if ¬ identity.valid ∨ power = 0 ∨ (s.bound.valid ∧ s.bound ≠ identity) then (s, 0)
    else if s.full then (s.overflowed, 0)
    else
      let next := { s.advanced with bound := identity }.invalidateActive identity.actor
      let record : Record :=
        { identity, ticket := next.mutation, power, phase := .awaitingStart, origin }
      (next.replace ⟨slot, h⟩ record, next.mutation)
  else (s, 0)

/-- A record after the result of its queueing. -/
def Record.queuedAs (record : Record) (queued : Bool) : Record :=
  { record with
    queued := record.queued || queued
    phase := if record.queued || queued then record.phase else .unknown }

/-- `QueueResult`. -/
def queueResult (slot : ℕ) (ticket : UInt64) (queued : Bool) : History :=
  match s.exact slot ticket with
  | none => s
  | some i => s.replace i (Record.queuedAs (s.records i) queued)

/-- A record after a follow-up was seen. -/
def Record.followed (record : Record) (exact : Bool) : Record :=
  { record with ownedFollowup := record.ownedFollowup || exact }

/-- `OwnedFollowup`. -/
def ownedFollowup (slot : ℕ) (ticket : UInt64) (normalExact : Bool) : History :=
  match s.exact slot ticket with
  | none => s
  | some i =>
    if (s.records i).origin ≠ .selfPower then s
    else s.replace i (Record.followed (s.records i) normalExact)

/-- `ResetExactLifetime`; the counter goes on. -/
def resetExactLifetime (expected : Identity) : History × Bool :=
  if s.bound ≠ expected ∨ ¬ expected.valid then (s, false)
  else if s.full then (s.overflowed, false)
  else ({ mutation := s.mutation + 1 }, true)

/-! ## Steps of an activation -/

/-- A step of an activation returned. -/
def returned (token : Transition) (source target : Phase) (coherent : Bool) : History × Bool :=
  match s.recordOf token source with
  | none => (s, false)
  | some i => (s.setPhase i (if coherent then target else .unknown), coherent)

/-- The next step of the current activation begins, unless something in it is not the
activation's. -/
def proceed (actor : Pointer) (source target : Phase) (belongs : Record → Bool) :
    History × Transition :=
  match (s.recordOf s.current source).filter fun i => belongs (s.records i) with
  | none => (s.otherActivity actor, {})
  | some i =>
    if s.full then (s.overflowed, {})
    else
      let current := { s.current with mutation := s.mutation + 1 }
      ({ s.advanced.setPhase i target with current }, current)

/-- `BeginOwnedFollowup`. -/
def beginOwnedFollowup (slot : ℕ) (ticket : UInt64) : History × Transition :=
  match s.exact slot ticket with
  | none => (s, {})
  | some i =>
    let record := s.records i
    if record.origin ≠ .selfPower ∨ ¬ record.queued ∨ record.phase ≠ .awaitingStart then (s, {})
    else if s.full then (s.overflowed, {})
    else
      let next := s.advanced.invalidateActive record.identity.actor
      let current : Transition := ⟨next.mutation, ticket, slot⟩
      ({ next.setPhase i .followingOwned with current }, current)

/-- `OwnedFollowupReturned`. -/
def ownedFollowupReturned (token : Transition) (normalExact state6 : Bool) : History × Bool :=
  match s.recordOf token .followingOwned with
  | none => (s, false)
  | some i =>
    let phase := if ¬ normalExact then .unknown else if state6 then .active else .awaitingStart
    let record := { Record.followed (s.records i) normalExact with phase := phase }
    (s.replace i record, normalExact)

/-- The record may be the one that starts, after the counter advanced. -/
def startable (identity : Identity) (power : UInt32) (i : Fin capacity) : Bool :=
  let record := s.records i
  let direct := record.phase = .active ∧ record.origin = .selfPower ∧ record.ownedFollowup ∧
    s.current.index = i ∧ s.current.ticket = record.ticket ∧ s.current.mutation + 1 = s.mutation
  record.identity = identity ∧ record.power = power ∧ (record.phase = .awaitingStart ∨ direct)

/-- The queued records that may be the one that starts. -/
def candidates (identity : Identity) (power : UInt32) : List (Fin capacity) :=
  (List.finRange capacity).filter fun i => s.startable identity power i && (s.records i).queued

/-- The records that may not start because they are not queued are given up. -/
def withoutUnqueued (identity : Identity) (power : UInt32) : History :=
  s.withPhases fun i =>
    if s.startable identity power i ∧ ¬ (s.records i).queued then .unknown else (s.records i).phase

/-- All records of a power are given up. -/
def ambiguous (identity : Identity) (power : UInt32) : History :=
  s.withPhases fun i =>
    let record := s.records i
    if record.identity = identity ∧ record.power = power ∧ ¬ record.phase.terminal then .unknown
    else record.phase

/-- `BeginStart`. -/
def beginStart (identity : Identity) (power : UInt32) (frame : Frame) : History × Transition :=
  if ¬ s.relevant identity.actor then (s, {})
  else if s.full then (s.overflowed, {})
  else
    let next := (s.advanced.withoutUnqueued identity power).invalidateActive identity.actor
    match s.advanced.candidates identity power with
    | [] => (next, {})
    | [i] =>
      if ¬ frame.known then (next, {})
      else
        let current : Transition := ⟨next.mutation, (next.records i).ticket, i⟩
        ({ next.setPhase i .settingState with frame, current }, current)
    | _ => (next.ambiguous identity power, {})

/-- `StateReturned`. -/
def stateReturned (token : Transition) (coherent : Bool) : History × Bool :=
  s.returned token .settingState .awaitingAppend coherent

/-- `BeginAppend`. -/
def beginAppend (identity : Identity) (power : UInt32) (frame : Frame) : History × Transition :=
  s.proceed identity.actor .awaitingAppend .appending fun record =>
    record.identity = identity ∧ record.power = power ∧ s.frame = frame

/-- `AppendReturned`. -/
def appendReturned (token : Transition) (coherent : Bool) : History × Bool :=
  s.returned token .appending .awaitingStartReturn coherent

/-- `StartProcessReturned`. -/
def startProcessReturned (token : Transition) (normalExact : Bool) : History × Bool :=
  s.returned token .awaitingStartReturn .active normalExact

/-- `BeginMovement`. -/
def beginMovement (identity : Identity) : History × Transition :=
  s.proceed identity.actor .active .moving fun record => record.identity = identity

/-- `MovementReturned`. -/
def movementReturned (token : Transition) (coherent : Bool) : History × Bool :=
  s.returned token .moving .interrupted coherent

/-- `BeginCompletion`; the frame is the one that the removals must be in. -/
def beginCompletion (identity : Identity) (power : UInt32) (frame : Frame) :
    History × Transition :=
  let (next, current) := s.proceed identity.actor .active .completingState fun record =>
    record.identity = identity ∧ record.power = power ∧ frame.known
  (if current.mutation = 0 then next else { next with frame }, current)

/-- `CompletionStateReturned`. -/
def completionStateReturned (token : Transition) (coherent : Bool) : History × Bool :=
  s.returned token .completingState .awaitingFirstRemoval coherent

/-- `BeginRemoval`. -/
def beginRemoval (identity : Identity) (power : UInt32) (frame : Frame) (final : Bool) :
    History × Transition :=
  s.proceed identity.actor (if final then .awaitingTailRemoval else .awaitingFirstRemoval)
    (if final then .removingTail else .removingFirst) fun record =>
      record.identity = identity ∧ record.power = power ∧ s.frame = frame

/-- `RemovalReturned`. -/
def removalReturned (token : Transition) (final coherent : Bool) : History × Bool :=
  s.returned token (if final then .removingTail else .removingFirst)
    (if final then .awaitingProcessReturn else .awaitingTailRemoval) coherent

/-- `CompletionProcessReturned`. -/
def completionProcessReturned (token : Transition) (normalExact : Bool) : History × Bool :=
  s.returned token .awaitingProcessReturn .completed normalExact

/-! ## Uses by hand -/

/-- `ManualCurrent`. -/
def manualCurrent (phase : Phase) : Bool :=
  s.manual.mutation ≠ 0 ∧ s.manual.mutation = s.mutation ∧ s.manual.phase = phase

/-- The use by hand in another phase. -/
def setManual (phase : Phase) : History := { s with manual := { s.manual with phase } }

/-- `RelinquishManual`: only the control over the earlier activations is given up. -/
def relinquishManual : History :=
  { s with
    records := fun i =>
      let record := s.records i
      { record with
        localRelinquished := record.localRelinquished || decide (
          record.identity = s.manual.identity ∧ record.ticket < s.manual.sendMutation ∧
            record.queued ∧ record.ownedFollowup ∧ record.origin = .selfPower ∧
            ¬ record.phase.terminal) } }

/-- `ManualSend`. -/
def manualSend (actor : Pointer) (power : UInt32) : History :=
  if ¬ s.relevant actor ∨ power = 0 then s
  else
    let next := s.foreignItemSend actor
    let manual : Manual :=
      ⟨next.bound, power, .awaitingStart, next.mutation, next.mutation, {}⟩
    { next with manual }

/-- `BeginManualStart`, with the mutation of the step. -/
def beginManualStart (identity : Identity) (power : UInt32) (frame : Frame) : History × UInt64 :=
  if ¬ s.manualCurrent .awaitingStart then (s, 0)
  else if s.manual.identity ≠ identity ∨ s.manual.power ≠ power ∨ ¬ frame.known then
    (s.otherActivity identity.actor, 0)
  else if s.full then (s.overflowed, 0)
  else
    let manual := { s.manual with frame, phase := .settingState, mutation := s.mutation + 1 }
    ({ s.advanced with manual }, s.mutation + 1)

/-- A step of a use by hand returned. -/
def manualReturned (token : UInt64) (source target : Phase) (coherent : Bool) : History × Bool :=
  if token ≠ s.mutation ∨ ¬ s.manualCurrent source then (s, false)
  else (s.setManual (if coherent then target else .unknown), coherent)

/-- `ManualStateReturned`. -/
def manualStateReturned (token : UInt64) (coherent : Bool) : History × Bool :=
  s.manualReturned token .settingState .awaitingAppend coherent

/-- `BeginManualAppend`, with the mutation of the step. -/
def beginManualAppend (identity : Identity) (power : UInt32) (frame : Frame) : History × UInt64 :=
  if ¬ s.manualCurrent .awaitingAppend ∨ s.manual.identity ≠ identity ∨ s.manual.power ≠ power ∨
      s.manual.frame ≠ frame then
    (s.otherActivity identity.actor, 0)
  else if s.full then (s.overflowed, 0)
  else
    let manual := { s.manual with phase := .appending, mutation := s.mutation + 1 }
    ({ s.advanced with manual }, s.mutation + 1)

/-- `ManualAppendReturned`. -/
def manualAppendReturned (token : UInt64) (coherent : Bool) : History × Bool :=
  s.manualReturned token .appending .awaitingStartReturn coherent

/-- `ManualProcessReturned`. -/
def manualProcessReturned (token : UInt64) (normalExact : Bool) : History × Bool :=
  if token ≠ s.mutation ∨ ¬ s.manualCurrent .awaitingStartReturn then (s, false)
  else if ¬ normalExact then (s.setManual .unknown, false)
  else ((s.setManual .unknown).relinquishManual, true)

/-- `ManualDirectReturned`. -/
def manualDirectReturned (identity : Identity) (power : UInt32) (coherent : Bool) :
    History × Bool :=
  if ¬ coherent ∨ ¬ s.manualCurrent .awaitingStart ∨ s.manual.identity ≠ identity ∨
      s.manual.power ≠ power then (s, false)
  else ((s.setManual .unknown).relinquishManual, true)

end History

/-! ## Calls -/

/-- The calls of the public interface that change the history. -/
inductive Call
  | arm (slot : ℕ) (identity : Identity) (power : UInt32) (origin : Origin)
  | queueResult (slot : ℕ) (ticket : UInt64) (queued : Bool)
  | ownedFollowup (slot : ℕ) (ticket : UInt64) (normalExact : Bool)
  | beginOwnedFollowup (slot : ℕ) (ticket : UInt64)
  | ownedFollowupReturned (token : Transition) (normalExact state6 : Bool)
  | resetExactLifetime (expected : Identity)
  | foreignItemSend (actor : Pointer)
  | foreignPowerUse (actor : Pointer)
  | manualSend (actor : Pointer) (power : UInt32)
  | beginManualStart (identity : Identity) (power : UInt32) (frame : Frame)
  | manualStateReturned (token : UInt64) (coherent : Bool)
  | beginManualAppend (identity : Identity) (power : UInt32) (frame : Frame)
  | manualAppendReturned (token : UInt64) (coherent : Bool)
  | manualProcessReturned (token : UInt64) (normalExact : Bool)
  | manualDirectReturned (identity : Identity) (power : UInt32) (coherent : Bool)
  | otherActivity (actor : Pointer)
  | beginStart (identity : Identity) (power : UInt32) (frame : Frame)
  | stateReturned (token : Transition) (coherent : Bool)
  | beginAppend (identity : Identity) (power : UInt32) (frame : Frame)
  | appendReturned (token : Transition) (coherent : Bool)
  | startProcessReturned (token : Transition) (normalExact : Bool)
  | beginMovement (identity : Identity)
  | movementReturned (token : Transition) (coherent : Bool)
  | beginCompletion (identity : Identity) (power : UInt32) (frame : Frame)
  | completionStateReturned (token : Transition) (coherent : Bool)
  | beginRemoval (identity : Identity) (power : UInt32) (frame : Frame) (final : Bool)
  | removalReturned (token : Transition) (final coherent : Bool)
  | completionProcessReturned (token : Transition) (normalExact : Bool)

/-- The history after a call, and the token that the call returned if it begins a step. -/
def History.call (s : History) : Call → History × Transition
  | .arm slot identity power origin => ((s.arm slot identity power origin).1, {})
  | .queueResult slot ticket queued => (s.queueResult slot ticket queued, {})
  | .ownedFollowup slot ticket normalExact => (s.ownedFollowup slot ticket normalExact, {})
  | .beginOwnedFollowup slot ticket => s.beginOwnedFollowup slot ticket
  | .ownedFollowupReturned token normalExact state6 =>
    ((s.ownedFollowupReturned token normalExact state6).1, {})
  | .resetExactLifetime expected => ((s.resetExactLifetime expected).1, {})
  | .foreignItemSend actor => (s.foreignItemSend actor, {})
  | .foreignPowerUse actor => (s.foreignItemSend actor, {})
  | .manualSend actor power => (s.manualSend actor power, {})
  | .beginManualStart identity power frame => ((s.beginManualStart identity power frame).1, {})
  | .manualStateReturned token coherent => ((s.manualStateReturned token coherent).1, {})
  | .beginManualAppend identity power frame => ((s.beginManualAppend identity power frame).1, {})
  | .manualAppendReturned token coherent => ((s.manualAppendReturned token coherent).1, {})
  | .manualProcessReturned token normalExact => ((s.manualProcessReturned token normalExact).1, {})
  | .manualDirectReturned identity power coherent =>
    ((s.manualDirectReturned identity power coherent).1, {})
  | .otherActivity actor => (s.otherActivity actor, {})
  | .beginStart identity power frame => s.beginStart identity power frame
  | .stateReturned token coherent => ((s.stateReturned token coherent).1, {})
  | .beginAppend identity power frame => s.beginAppend identity power frame
  | .appendReturned token coherent => ((s.appendReturned token coherent).1, {})
  | .startProcessReturned token normalExact => ((s.startProcessReturned token normalExact).1, {})
  | .beginMovement identity => s.beginMovement identity
  | .movementReturned token coherent => ((s.movementReturned token coherent).1, {})
  | .beginCompletion identity power frame => s.beginCompletion identity power frame
  | .completionStateReturned token coherent => ((s.completionStateReturned token coherent).1, {})
  | .beginRemoval identity power frame final => s.beginRemoval identity power frame final
  | .removalReturned token final coherent => ((s.removalReturned token final coherent).1, {})
  | .completionProcessReturned token normalExact =>
    ((s.completionProcessReturned token normalExact).1, {})

def History.next (s : History) (call : Call) : History := (s.call call).1

/-- The slot whose record a call replaces with a new one. -/
def Call.arms : Call → Option ℕ
  | .arm slot .. => some slot
  | _ => none

/-- The call ends the lifetime that all records are of. -/
def Call.resets : Call → Bool
  | .resetExactLifetime _ => true
  | _ => false

/-! ## Chains -/

/-- The phase in which a call starts a queued record. -/
def Call.opens : Call → Option Phase
  | .beginOwnedFollowup .. => some .followingOwned
  | .beginStart .. => some .settingState
  | _ => none

/-- The phases between which a call takes the record that was started. -/
def Call.link : Call → Option (Phase × Phase)
  | .ownedFollowupReturned _ true true => some (.followingOwned, .active)
  | .stateReturned _ true => some (.settingState, .awaitingAppend)
  | .beginAppend .. => some (.awaitingAppend, .appending)
  | .appendReturned _ true => some (.appending, .awaitingStartReturn)
  | .startProcessReturned _ true => some (.awaitingStartReturn, .active)
  | .beginMovement _ => some (.active, .moving)
  | .movementReturned _ true => some (.moving, .interrupted)
  | .beginCompletion .. => some (.active, .completingState)
  | .completionStateReturned _ true => some (.completingState, .awaitingFirstRemoval)
  | .beginRemoval _ _ _ false => some (.awaitingFirstRemoval, .removingFirst)
  | .removalReturned _ false true => some (.removingFirst, .awaitingTailRemoval)
  | .beginRemoval _ _ _ true => some (.awaitingTailRemoval, .removingTail)
  | .removalReturned _ true true => some (.removingTail, .awaitingProcessReturn)
  | .completionProcessReturned _ true => some (.awaitingProcessReturn, .completed)
  | _ => none

section Chains

variable (i : Fin capacity) (ticket : UInt64)

/-- A call starts the queued record with a ticket. -/
structure Opens (x : History × Call) (phase : Phase) : Prop where
  opens : x.2.opens = some phase
  owner : (x.1.records i).ticket = ticket ∧ (x.1.records i).queued = true
  token : (x.1.call x.2).2.index = i ∧ (x.1.call x.2).2.ticket = ticket
  reached : ((x.1.next x.2).records i).phase = phase

/-- A call takes the record with a ticket, which is the current one, from one phase of its start
to the next. -/
structure Links (x : History × Call) (source target : Phase) : Prop where
  link : x.2.link = some (source, target)
  owner : (x.1.records i).ticket = ticket ∧ (x.1.records i).phase = source
  current : x.1.current = ⟨x.1.mutation, ticket, i⟩
  reached : ((x.1.next x.2).records i).phase = target

/-- The calls from the start of a record on, with nothing else that advances the counter. -/
inductive Chain : List (History × Call) → Phase → Prop
  | opens {x phase} : Opens i ticket x phase → Chain [x] phase
  | links {h phase x target} : Chain h phase → Links i ticket x phase target →
      Chain (h ++ [x]) target
  | idle {h phase x} : Chain h phase → (x.1.next x.2).mutation = x.1.mutation →
      Chain (h ++ [x]) phase

end Chains

/-! ## What a call does to the records -/

/-- A record that a call may have given up, but not started or ended. -/
structure Carried (r r' : Record) : Prop where
  ticket : r'.ticket = r.ticket
  identity : r'.identity = r.identity
  queued : r.queued = true → r'.queued = true
  phase : r'.phase = r.phase ∨ r.phase.terminal = false ∧
    (r'.phase = .unknown ∨ r.phase.started = true ∧ r'.phase = .awaitingStart)

theorem Carried.refl (r : Record) : Carried r r := ⟨rfl, rfl, id, .inl rfl⟩

/-- What a call does: it starts a record, takes the started one a step on, or disturbs it. -/
inductive Step (s : History) (call : Call) (s' : History) : Prop
  | quiet (hbound : s'.bound = s.bound) (hmutation : s'.mutation = s.mutation)
      (hcurrent : s'.current = s.current) (hmanual : s'.manual.mutation = s.manual.mutation)
      (hrecords : ∀ i, Carried (s.records i) (s'.records i))
  | disturbed (hfull : s.full = false) (hbound : s'.bound = s.bound)
      (hmutation : s'.mutation = s.mutation + 1) (hmanual : s'.manual.mutation ≤ s'.mutation)
      (hrecords : ∀ i, Carried (s.records i) (s'.records i) ∧
        (s'.records i).phase.started = false)
  | overflowed (hfull : s.full = true) (hmutation : s'.mutation = s.mutation)
      (hmanual : s'.manual.mutation ≤ s'.mutation)
      (hrecords : ∀ i, (s'.records i).phase = .unknown ∧
        (s'.records i).ticket = (s.records i).ticket)
  | reset (hcall : call.resets) (hfull : s.full = false) (hmutation : s'.mutation = s.mutation + 1)
      (hmanual : s'.manual.mutation ≤ s'.mutation) (hrecords : ∀ i, s'.records i = {})
  | armed (i : Fin capacity) (hcall : call.arms = some i.1) (hfull : s.full = false)
      (hmutation : s'.mutation = s.mutation + 1)
      (hmanual : s'.manual.mutation = s.manual.mutation)
      (hrecord : (s'.records i).ticket = s'.mutation ∧ (s'.records i).phase = .awaitingStart)
      (hothers : ∀ j ≠ i, Carried (s.records j) (s'.records j) ∧
        (s'.records j).phase.started = false)
      (hbound : ∀ j, (s'.records j).phase ≠ .unknown →
        s'.bound.valid = true ∧ (s'.records j).identity = s'.bound)
  | opened (i : Fin capacity) (phase : Phase) (hfull : s.full = false)
      (hopens : Opens i (s.records i).ticket (s, call) phase)
      (hbound : s'.bound = s.bound) (hmutation : s'.mutation = s.mutation + 1)
      (hcurrent : s'.current = ⟨s'.mutation, (s.records i).ticket, i⟩)
      (hmanual : s'.manual.mutation = s.manual.mutation)
      (hrecord : s'.records i = { s.records i with phase })
      (hphase : (s.records i).phase ≠ .unknown ∧ (s.records i).phase.terminal = false)
      (hothers : ∀ j ≠ i, Carried (s.records j) (s'.records j) ∧
        (s'.records j).phase.started = false)
  | linked (i : Fin capacity) (source target : Phase)
      (hlinks : Links i (s.records i).ticket (s, call) source target)
      (hbound : s'.bound = s.bound)
      (hcounter : s'.mutation = s.mutation ∧ s'.current = s.current ∨
        s.full = false ∧ s'.mutation = s.mutation + 1 ∧
          s'.current = { s.current with mutation := s'.mutation })
      (hmanual : s'.manual.mutation = s.manual.mutation)
      (hrecord : (s'.records i).ticket = (s.records i).ticket ∧
        (s'.records i).identity = (s.records i).identity ∧
        (s'.records i).queued = (s.records i).queued)
      (hothers : ∀ j ≠ i, s'.records j = s.records j)

/-- What holds of every history that calls lead to. -/
structure Inv (s : History) : Prop where
  bound : ∀ i, (s.records i).phase ≠ .unknown →
    s.bound.valid = true ∧ (s.records i).identity = s.bound
  ticket : ∀ i, (s.records i).ticket ≤ s.mutation
  started : ∀ i, (s.records i).phase.started = true →
    s.current = ⟨s.mutation, (s.records i).ticket, i⟩ ∧ (s.records i).queued = true
  terminal : ∀ i, (s.records i).phase.terminal = true → (s.records i).queued = true
  manual_le : s.manual.mutation ≤ s.mutation
  manual : s.manual.mutation = s.mutation → s.manual.mutation ≠ 0 →
    ∀ i, (s.records i).phase.started = false

variable {phase : Phase}

theorem Phase.started_iff : phase.started = true ↔
    phase.terminal = false ∧ phase ≠ .unknown ∧ phase ≠ .awaitingStart := by
  simp [Phase.started]

theorem Phase.not_started_of_terminal (h : phase.terminal = true) : phase.started = false := by
  simp [Phase.started, h]

variable {r r' : Record}

/-- A record that may have been given up is not started. -/
theorem Carried.unstarted (h : Carried r r') (hr : r.phase.started = false) :
    r'.phase.started = false := by
  rcases h.phase with hphase | ⟨-, hphase | ⟨hstarted, -⟩⟩
  · rw [hphase, hr]
  · rw [hphase]
    rfl
  · rw [hr] at hstarted
    cases hstarted

theorem Carried.terminal_iff (h : Carried r r') (ht : r'.phase.terminal = true) :
    r'.phase = r.phase := by
  rcases h.phase with hphase | ⟨-, hphase | ⟨-, hphase⟩⟩
  · exact hphase
  · rw [hphase] at ht
    cases ht
  · rw [hphase] at ht
    cases ht

theorem Carried.of_started (h : Carried r r') (ht : r'.phase.started = true) :
    r'.phase = r.phase := by
  rcases h.phase with hphase | ⟨-, hphase | ⟨-, hphase⟩⟩
  · exact hphase
  · rw [hphase] at ht
    cases ht
  · rw [hphase] at ht
    cases ht

theorem Carried.of_known (h : Carried r r') (hknown : r'.phase ≠ .unknown) :
    r.phase ≠ .unknown := by
  rcases h.phase with hphase | ⟨-, hphase | ⟨hstarted, -⟩⟩
  · rwa [← hphase]
  · exact absurd hphase hknown
  · exact (Phase.started_iff.1 hstarted).2.1

theorem Carried.trans {r r' r'' : Record} (h : Carried r r') (h' : Carried r' r'') :
    Carried r r'' := by
  refine ⟨h'.ticket.trans h.ticket, h'.identity.trans h.identity, fun hq => h'.queued (h.queued hq),
    ?_⟩
  rcases h'.phase with hphase | ⟨hterminal, hgiven⟩
  · rw [hphase]
    exact h.phase
  · have hterminal' : r.phase.terminal = false := by
      rcases h.phase with hphase | ⟨hterminal', -⟩
      · rwa [← hphase]
      · exact hterminal'
    refine .inr ⟨hterminal', hgiven.imp id fun ⟨hstarted, hwaiting⟩ => ⟨?_, hwaiting⟩⟩
    rwa [← h.of_started hstarted]

/-- A record that is given up under a condition that no ended one meets. -/
theorem Carried.giveUp (r : Record) {p : Prop} [Decidable p] (h : p → r.phase.terminal = false) :
    Carried r { r with phase := if p then .unknown else r.phase } := by
  refine ⟨rfl, rfl, id, ?_⟩
  by_cases hp : p
  · exact .inr ⟨h hp, .inl (if_pos hp)⟩
  · exact .inl (if_neg hp)

namespace History

variable {s : History} {call : Call}

theorem succ_mutation (hfull : s.full = false) :
    (s.mutation + 1).toNat = s.mutation.toNat + 1 := by
  have hne : s.mutation ≠ 0xFFFFFFFFFFFFFFFF := of_decide_eq_false hfull
  have hne' : s.mutation.toNat ≠ 2 ^ 64 - 1 := fun h => hne (UInt64.toNat_inj.1 h)
  have hlt := s.mutation.toNat_lt
  rw [UInt64.toNat_add, show (1 : UInt64).toNat = 1 from rfl, Nat.mod_eq_of_lt (by omega)]

theorem lt_succ_mutation (hfull : s.full = false) : s.mutation < s.mutation + 1 := by
  rw [UInt64.lt_iff_toNat_lt, succ_mutation hfull]
  omega

theorem le_succ_mutation (hfull : s.full = false) {x : UInt64} (h : x ≤ s.mutation) :
    x ≤ s.mutation + 1 :=
  UInt64.le_trans h (UInt64.le_of_lt (lt_succ_mutation hfull))

/-- `InvalidateActive` of the only actor leaves no record started. -/
theorem carried_invalidateActive {actor : Pointer}
    (hactor : ∀ i, (s.records i).phase ≠ .unknown → (s.records i).identity.actor = actor)
    (i : Fin capacity) : Carried (s.records i) ((s.invalidateActive actor).records i) ∧
      ((s.invalidateActive actor).records i).phase.started = false := by
  by_cases hstarted : (s.records i).phase.started = true
  · obtain ⟨hterminal, hknown, hwaiting⟩ := Phase.started_iff.1 hstarted
    have hphase : ((s.invalidateActive actor).records i).phase = .unknown :=
      if_pos ⟨hactor i hknown, hwaiting, by rw [hterminal]; decide⟩
    refine ⟨⟨rfl, rfl, id, .inr ⟨hterminal, .inl hphase⟩⟩, ?_⟩
    rw [hphase]
    rfl
  · have hcarried : Carried (s.records i) ((s.invalidateActive actor).records i) :=
      .giveUp _ fun hgiven => Bool.eq_false_of_not_eq_true hgiven.2.2
    exact ⟨hcarried, hcarried.unstarted (Bool.eq_false_of_not_eq_true hstarted)⟩

theorem step_overflowed (hfull : s.full = true) (h : Inv s) : Step s call s.overflowed :=
  .overflowed hfull rfl h.manual_le fun _ => ⟨rfl, rfl⟩

theorem step_self : Step s call s := .quiet rfl rfl rfl rfl fun _ => .refl _

theorem actor_of_relevant (h : Inv s) {actor : Pointer} (hrelevant : s.relevant actor = true)
    (i : Fin capacity) (hknown : (s.records i).phase ≠ .unknown) :
    (s.records i).identity.actor = actor := by
  rw [(h.bound i hknown).2]
  exact (of_decide_eq_true hrelevant).2

/-- Activity of another actor is ignored, and a full tracker overflows. -/
theorem step_activity (h : Inv s) {actor : Pointer} {s' : History}
    (h' : s.full = false → s.relevant actor = true → Step s call s') :
    Step s call (if ¬ s.relevant actor = true then s
      else if s.full = true then s.overflowed else s') := by
  split
  case isTrue => exact step_self
  case isFalse hrelevant =>
    split
    case isTrue hfull => exact step_overflowed hfull h
    case isFalse hfull => exact h' (Bool.eq_false_of_not_eq_true hfull) (not_not.1 hrelevant)

theorem step_otherActivity (h : Inv s) (actor : Pointer) :
    Step s call (s.otherActivity actor) :=
  step_activity h fun hfull hrelevant =>
    .disturbed hfull rfl rfl (le_succ_mutation hfull h.manual_le)
      (carried_invalidateActive (s := s.advanced) (actor_of_relevant h hrelevant))

theorem carried_foreignItemSend {actor : Pointer}
    (hactor : ∀ i, (s.records i).phase ≠ .unknown → (s.records i).identity.actor = actor)
    (i : Fin capacity) :
    let phase := if (s.records i).identity.actor = actor ∧ ¬ (s.records i).phase.terminal = true
      then Phase.unknown else (s.records i).phase
    Carried (s.records i) { s.records i with phase } ∧ phase.started = false := by
  intro phase
  by_cases hgiven : (s.records i).identity.actor = actor ∧ ¬ (s.records i).phase.terminal = true
  · have hphase : phase = .unknown := if_pos hgiven
    exact ⟨⟨rfl, rfl, id, .inr ⟨Bool.eq_false_of_not_eq_true hgiven.2, .inl hphase⟩⟩,
      by rw [hphase]; rfl⟩
  · have hphase : phase = (s.records i).phase := if_neg hgiven
    refine ⟨⟨rfl, rfl, id, .inl hphase⟩, ?_⟩
    rw [hphase]
    refine Bool.eq_false_of_not_eq_true fun hstarted => hgiven ?_
    obtain ⟨hterminal, hknown, -⟩ := Phase.started_iff.1 hstarted
    exact ⟨hactor i hknown, by rw [hterminal]; decide⟩

theorem step_foreignItemSend (h : Inv s) (actor : Pointer) :
    Step s call (s.foreignItemSend actor) :=
  step_activity h fun hfull hrelevant =>
    .disturbed hfull rfl rfl (le_succ_mutation hfull h.manual_le)
      (carried_foreignItemSend (s := s.advanced) (actor_of_relevant h hrelevant))

/-- A use by hand replaces what is known of the last one. -/
theorem step_manualSend (h : Inv s) (actor : Pointer) (power : UInt32) :
    Step s call (s.manualSend actor power) := by
  rw [manualSend]
  split
  case isTrue => exact step_self
  case isFalse hchecks =>
    rw [not_or, not_not] at hchecks
    rw [foreignItemSend, if_neg (not_not.2 hchecks.1)]
    split
    case isTrue hfull =>
      exact .overflowed hfull rfl (UInt64.le_refl _) fun _ => ⟨rfl, rfl⟩
    case isFalse hfull =>
      have hfull := Bool.eq_false_of_not_eq_true hfull
      refine .disturbed hfull rfl rfl (UInt64.le_refl _) ?_
      exact carried_foreignItemSend (s := s.advanced) (actor_of_relevant h hchecks.1)

/-- While a use by hand is current, no record is started. -/
theorem unstarted_of_manualCurrent (h : Inv s) (hcurrent : s.manualCurrent phase = true)
    (i : Fin capacity) : (s.records i).phase.started = false := by
  obtain ⟨hne, hmutation, -⟩ := of_decide_eq_true hcurrent
  exact h.manual hmutation hne i

theorem step_setManual (phase : Phase) : Step s call (s.setManual phase) :=
  .quiet rfl rfl rfl rfl fun _ => .refl _

theorem step_relinquished (phase : Phase) :
    Step s call (s.setManual phase).relinquishManual :=
  .quiet rfl rfl rfl rfl fun _ => ⟨rfl, rfl, id, .inl rfl⟩

theorem step_beginManual (h : Inv s) {source : Phase} (hcurrent : s.manualCurrent source = true)
    (hfull : ¬ s.full = true) {manual : Manual} (hmanual : manual.mutation = s.mutation + 1) :
    Step s call { s.advanced with manual } := by
  have hfull := Bool.eq_false_of_not_eq_true hfull
  refine .disturbed hfull rfl rfl ?_ fun i => ⟨.refl _, unstarted_of_manualCurrent h hcurrent i⟩
  rw [hmanual]
  exact UInt64.le_refl _

theorem step_beginManualStart (h : Inv s) (identity : Identity) (power : UInt32) (frame : Frame) :
    Step s call (s.beginManualStart identity power frame).1 := by
  rw [beginManualStart]
  split
  case isTrue => exact step_self
  case isFalse hcurrent =>
    split
    case isTrue => exact step_otherActivity h _
    case isFalse =>
      split
      case isTrue hfull => exact step_overflowed hfull h
      case isFalse hfull => exact step_beginManual h (not_not.1 hcurrent) hfull rfl

theorem step_manualReturned (token : UInt64) (source target : Phase) (coherent : Bool) :
    Step s call (s.manualReturned token source target coherent).1 := by
  rw [manualReturned]
  split
  case isTrue => exact step_self
  case isFalse => exact step_setManual _

theorem step_beginManualAppend (h : Inv s) (identity : Identity) (power : UInt32)
    (frame : Frame) : Step s call (s.beginManualAppend identity power frame).1 := by
  rw [beginManualAppend]
  split
  case isTrue => exact step_otherActivity h _
  case isFalse hchecks =>
    rw [not_or, not_not] at hchecks
    split
    case isTrue hfull => exact step_overflowed hfull h
    case isFalse hfull => exact step_beginManual h hchecks.1 hfull rfl

theorem step_manualProcessReturned (token : UInt64) (normalExact : Bool) :
    Step s call (s.manualProcessReturned token normalExact).1 := by
  rw [manualProcessReturned]
  split
  case isTrue => exact step_self
  case isFalse =>
    split
    case isTrue => exact step_setManual _
    case isFalse => exact step_relinquished _

theorem step_manualDirectReturned (identity : Identity) (power : UInt32) (coherent : Bool) :
    Step s call (s.manualDirectReturned identity power coherent).1 := by
  rw [manualDirectReturned]
  split
  case isTrue => exact step_self
  case isFalse => exact step_relinquished _

/-! ### Single records -/

variable {i : Fin capacity}

theorem exact_eq_some {slot : ℕ} {ticket : UInt64} (h : s.exact slot ticket = some i) :
    slot = i ∧ (s.records i).ticket = ticket := by
  rw [exact] at h
  split at h
  case isTrue =>
    obtain ⟨hchecks, h⟩ := Option.ite_none_right_eq_some.1 h
    cases h
    exact ⟨rfl, hchecks.2⟩
  case isFalse => cases h

theorem recordOf_eq_some {token : Transition} (h : s.recordOf token phase = some i) :
    token = ⟨s.mutation, (s.records i).ticket, i⟩ ∧ (s.records i).phase = phase := by
  obtain ⟨hexact, hcurrent⟩ := Option.filter_eq_some_iff.1 h
  obtain ⟨hindex, hticket⟩ := exact_eq_some hexact
  obtain ⟨hmutation, hphase⟩ := of_decide_eq_true hcurrent
  obtain ⟨mutation, ticket, index⟩ := token
  cases hindex
  cases hticket
  cases hmutation
  exact ⟨rfl, hphase⟩

theorem carried_replace {record : Record} (h : Carried (s.records i) record) (j : Fin capacity) :
    Carried (s.records j) ((s.replace i record).records j) := by
  by_cases hj : j = i
  · subst hj
    rwa [replace_self]
  · rw [replace_ne s hj]
    exact .refl _

theorem step_queueResult (h : Inv s) (slot : ℕ) (ticket : UInt64) (queued : Bool) :
    Step s call (s.queueResult slot ticket queued) := by
  rw [queueResult]
  split
  case h_1 => exact step_self
  case h_2 i hexact =>
    refine .quiet rfl rfl rfl rfl (carried_replace ⟨rfl, rfl, fun hq => ?_, ?_⟩)
    · show ((s.records i).queued || queued) = true
      rw [hq, Bool.true_or]
    · by_cases hq : ((s.records i).queued || queued) = true
      · exact .inl (if_pos hq)
      · refine .inr ⟨Bool.eq_false_of_not_eq_true fun hterminal => hq ?_, .inl (if_neg hq)⟩
        rw [h.terminal i hterminal, Bool.true_or]

theorem step_ownedFollowup (slot : ℕ) (ticket : UInt64) (normalExact : Bool) :
    Step s call (s.ownedFollowup slot ticket normalExact) := by
  rw [ownedFollowup]
  split
  case h_1 => exact step_self
  case h_2 =>
    split
    case isTrue => exact step_self
    case isFalse => exact .quiet rfl rfl rfl rfl (carried_replace ⟨rfl, rfl, id, .inl rfl⟩)

theorem step_resetExactLifetime (h : Inv s) (expected : Identity) :
    Step s (.resetExactLifetime expected) (s.resetExactLifetime expected).1 := by
  rw [resetExactLifetime]
  split
  case isTrue => exact step_self
  case isFalse =>
    split
    case isTrue hfull => exact step_overflowed hfull h
    case isFalse hfull =>
      exact .reset rfl (Bool.eq_false_of_not_eq_true hfull) rfl
        (UInt64.le_iff_toNat_le.2 (Nat.zero_le _)) fun _ => rfl

theorem step_arm (h : Inv s) (slot : ℕ) (identity : Identity) (power : UInt32) (origin : Origin) :
    Step s (.arm slot identity power origin) (s.arm slot identity power origin).1 := by
  rw [arm]
  split
  case isFalse => exact step_self
  case isTrue hslot =>
    split
    case isTrue => exact step_self
    case isFalse hchecks =>
      split
      case isTrue hfull => exact step_overflowed hfull h
      case isFalse hfull =>
        have hfull := Bool.eq_false_of_not_eq_true hfull
        simp only [not_or, not_not, not_and] at hchecks
        obtain ⟨hvalid, -, hbound⟩ := hchecks
        -- the records that are known belong to the identity that is armed
        have hsame (i : Fin capacity) (hknown : (s.records i).phase ≠ .unknown) :
            (s.records i).identity = identity := by
          obtain ⟨hboundValid, hidentity⟩ := h.bound i hknown
          rw [hidentity, hbound hboundValid]
        have hcarried := @carried_invalidateActive { s.advanced with bound := identity }
          identity.actor fun i hknown => congrArg Identity.actor (hsame i hknown)
        refine .armed ⟨slot, hslot⟩ rfl hfull rfl rfl ?_ ?_ ?_
        · dsimp only
          rw [replace_self]
          exact ⟨rfl, rfl⟩
        · intro j hj
          dsimp only
          rw [replace_ne _ hj]
          exact hcarried j
        · intro j hknown
          dsimp only at hknown ⊢
          refine ⟨hvalid, ?_⟩
          by_cases hj : j = ⟨slot, hslot⟩
          · subst hj
            rw [replace_self]
            rfl
          · rw [replace_ne _ hj] at hknown ⊢
            exact (hcarried j).1.identity.trans (hsame j ((hcarried j).1.of_known hknown))

/-! ### Steps of an activation -/

variable {source target : Phase}

theorem step_returned (h : Inv s) (token : Transition) {coherent : Bool}
    (hnext : (s.next call).records = (s.returned token source target coherent).1.records)
    (hsource : source.started = true) (hlink : coherent = true → call.link = some (source, target))
    :
    Step s call (s.returned token source target coherent).1 := by
  rw [returned] at hnext ⊢
  split at hnext
  case h_1 => exact step_self
  case h_2 i hrecord =>
    dsimp only at hnext ⊢
    obtain ⟨-, hphase⟩ := recordOf_eq_some hrecord
    have hstarted : (s.records i).phase.started = true := by rw [hphase, hsource]
    cases coherent with
    | true =>
      obtain ⟨hcurrent, -⟩ := h.started i hstarted
      refine .linked i source target ⟨hlink rfl, ⟨rfl, hphase⟩, hcurrent, ?_⟩ rfl
        (.inl ⟨rfl, rfl⟩) rfl ?_ fun j hj => replace_ne s hj _
      · show ((s.next call).records i).phase = target
        rw [hnext, setPhase, replace_self]
        rfl
      · rw [setPhase, replace_self]
        exact ⟨rfl, rfl, rfl⟩
    | false =>
      have hterminal := (Phase.started_iff.1 hstarted).1
      exact .quiet rfl rfl rfl rfl (carried_replace ⟨rfl, rfl, id, .inr ⟨hterminal, .inl rfl⟩⟩)

theorem step_proceed (h : Inv s) {actor : Pointer} {belongs : Record → Bool}
    (hnext : (s.next call).records = (s.proceed actor source target belongs).1.records)
    (hsource : source.started = true) (hlink : call.link = some (source, target)) :
    Step s call (s.proceed actor source target belongs).1 := by
  rw [proceed] at hnext ⊢
  split at hnext
  case h_1 => exact step_otherActivity h actor
  case h_2 i hrecord =>
    obtain ⟨-, hphase⟩ := recordOf_eq_some (Option.filter_eq_some_iff.1 hrecord).1
    have hstarted : (s.records i).phase.started = true := by rw [hphase, hsource]
    obtain ⟨hcurrent, -⟩ := h.started i hstarted
    split at hnext
    case isTrue hfull =>
      rw [if_pos hfull]
      exact step_overflowed hfull h
    case isFalse hfull =>
      rw [if_neg hfull]
      have hfull := Bool.eq_false_of_not_eq_true hfull
      refine .linked i source target ⟨hlink, ⟨rfl, hphase⟩, hcurrent, ?_⟩ rfl
        (.inr ⟨hfull, rfl, rfl⟩) rfl ?_ fun j hj => replace_ne s.advanced hj _
      · show ((s.next call).records i).phase = target
        rw [hnext, setPhase]
        dsimp only
        rw [replace_self]
      · dsimp only [setPhase]
        rw [replace_self]
        exact ⟨rfl, rfl, rfl⟩

/-- No law of a step is about the frame. -/
theorem step_setFrame {s' : History} (h : Step s call s') (frame : Frame) :
    Step s call { s' with frame } := by
  cases h with
  | quiet hbound hmutation hcurrent hmanual hrecords =>
    exact .quiet hbound hmutation hcurrent hmanual hrecords
  | disturbed hfull hbound hmutation hmanual hrecords =>
    exact .disturbed hfull hbound hmutation hmanual hrecords
  | overflowed hfull hmutation hmanual hrecords =>
    exact .overflowed hfull hmutation hmanual hrecords
  | reset hcall hfull hmutation hmanual hrecords =>
    exact .reset hcall hfull hmutation hmanual hrecords
  | armed i hcall hfull hmutation hmanual hrecord hothers hbound =>
    exact .armed i hcall hfull hmutation hmanual hrecord hothers hbound
  | opened i phase hfull hopens hbound hmutation hcurrent hmanual hrecord hphase hothers =>
    exact .opened i phase hfull hopens hbound hmutation hcurrent hmanual hrecord hphase hothers
  | linked i source target hlinks hbound hcounter hmanual hrecord hothers =>
    exact .linked i source target hlinks hbound hcounter hmanual hrecord hothers

theorem step_beginCompletion (h : Inv s) (identity : Identity) (power : UInt32) (frame : Frame) :
    Step s (.beginCompletion identity power frame) (s.beginCompletion identity power frame).1 := by
  have hrecords : (s.next (.beginCompletion identity power frame)).records =
      (s.proceed identity.actor .active .completingState fun record =>
        record.identity = identity ∧ record.power = power ∧ frame.known).1.records := by
    show (s.beginCompletion identity power frame).1.records = _
    rw [beginCompletion]
    dsimp only
    split <;> rfl
  have hstep := step_proceed h hrecords rfl rfl
  rw [beginCompletion]
  dsimp only
  split
  case isTrue => exact hstep
  case isFalse => exact step_setFrame hstep frame

theorem step_ownedFollowupReturned (h : Inv s) (token : Transition) (normalExact state6 : Bool) :
    Step s (.ownedFollowupReturned token normalExact state6)
      (s.ownedFollowupReturned token normalExact state6).1 := by
  have hnext : s.next (.ownedFollowupReturned token normalExact state6) =
    (s.ownedFollowupReturned token normalExact state6).1 := rfl
  rw [ownedFollowupReturned] at hnext ⊢
  split at hnext
  case h_1 => exact step_self
  case h_2 i hrecord =>
    dsimp only at hnext ⊢
    obtain ⟨-, hphase⟩ := recordOf_eq_some hrecord
    have hstarted : (s.records i).phase.started = true := by rw [hphase]; rfl
    have hterminal := (Phase.started_iff.1 hstarted).1
    -- only a normal return in the casting state takes the activation on
    rcases normalExact with - | - <;> rcases state6 with - | -
    · exact .quiet rfl rfl rfl rfl (carried_replace ⟨rfl, rfl, id, .inr ⟨hterminal, .inl rfl⟩⟩)
    · exact .quiet rfl rfl rfl rfl (carried_replace ⟨rfl, rfl, id, .inr ⟨hterminal, .inl rfl⟩⟩)
    · exact .quiet rfl rfl rfl rfl
        (carried_replace ⟨rfl, rfl, id, .inr ⟨hterminal, .inr ⟨hstarted, rfl⟩⟩⟩)
    · obtain ⟨hcurrent, -⟩ := h.started i hstarted
      refine .linked i .followingOwned .active ⟨rfl, ⟨rfl, hphase⟩, hcurrent, ?_⟩ rfl
        (.inl ⟨rfl, rfl⟩) rfl ?_ fun j hj => replace_ne s hj _
      · show ((s.next _).records i).phase = .active
        rw [hnext, replace_self]
        rfl
      · rw [replace_self]
        exact ⟨rfl, rfl, rfl⟩

/-! ### Starts -/

theorem step_beginOwnedFollowup (h : Inv s) (slot : ℕ) (ticket : UInt64) :
    Step s (.beginOwnedFollowup slot ticket) (s.beginOwnedFollowup slot ticket).1 := by
  have hnext : s.next (.beginOwnedFollowup slot ticket) = (s.beginOwnedFollowup slot ticket).1 :=
    rfl
  have htoken : (s.call (.beginOwnedFollowup slot ticket)).2 =
    (s.beginOwnedFollowup slot ticket).2 := rfl
  rw [beginOwnedFollowup] at hnext htoken ⊢
  split at hnext
  case h_1 => exact step_self
  case h_2 i hexact =>
    simp only [hexact] at htoken ⊢
    obtain ⟨rfl, hticket⟩ := exact_eq_some hexact
    by_cases hchecks : (s.records i).origin ≠ .selfPower ∨ ¬ (s.records i).queued = true ∨
        (s.records i).phase ≠ .awaitingStart
    · rw [if_pos hchecks]
      exact step_self
    · rw [if_neg hchecks] at hnext htoken ⊢
      simp only [not_or, not_not] at hchecks
      obtain ⟨-, hqueued, hwaiting⟩ := hchecks
      by_cases hfull : s.full = true
      · rw [if_pos hfull]
        exact step_overflowed hfull h
      · rw [if_neg hfull] at hnext htoken ⊢
        have hfull := Bool.eq_false_of_not_eq_true hfull
        have hknown : (s.records i).phase ≠ .unknown := by
          rw [hwaiting]
          exact nofun
        -- every record that is known is of the actor whose activation starts
        have hactor (j : Fin capacity) (hj : (s.records j).phase ≠ .unknown) :
            (s.records j).identity.actor = (s.records i).identity.actor := by
          rw [(h.bound j hj).2, (h.bound i hknown).2]
        have hcarried := carried_invalidateActive (s := s.advanced) hactor
        refine .opened i .followingOwned hfull ⟨rfl, ⟨rfl, hqueued⟩, ?_, ?_⟩ rfl rfl ?_ rfl ?_
          ⟨hknown, by rw [hwaiting]; rfl⟩ fun j hj => ?_
        · rw [htoken, hticket]
          exact ⟨rfl, rfl⟩
        · show ((s.next _).records i).phase = .followingOwned
          rw [hnext]
          dsimp only [setPhase]
          rw [replace_self]
        · rw [hticket]
          rfl
        · dsimp only [setPhase]
          rw [replace_self]
          rfl
        · dsimp only [setPhase]
          rw [replace_ne _ hj]
          exact hcarried j

variable {identity : Identity} {power : UInt32}

theorem startable_eq_true (h : s.startable identity power i = true) :
    (s.records i).identity = identity ∧ (s.records i).power = power ∧
      (s.records i).phase ≠ .unknown ∧ (s.records i).phase.terminal = false := by
  obtain ⟨hidentity, hpower, hphase⟩ := of_decide_eq_true h
  rcases hphase with hphase | ⟨hphase, -⟩ <;> rw [hphase]
  · exact ⟨hidentity, hpower, nofun, rfl⟩
  · exact ⟨hidentity, hpower, nofun, rfl⟩

theorem mem_candidates :
    i ∈ s.candidates identity power ↔
      s.startable identity power i = true ∧ (s.records i).queued = true := by
  simp [candidates]

/-- What `BeginStart` leaves before it looks at the candidates. -/
theorem carried_beginStart
    (hactor : ∀ i, (s.records i).phase ≠ .unknown → (s.records i).identity.actor = identity.actor)
    (i : Fin capacity) :
    let next := (s.withoutUnqueued identity power).invalidateActive identity.actor
    Carried (s.records i) (next.records i) ∧ (next.records i).phase.started = false := by
  have hwithout (j : Fin capacity) :
      Carried (s.records j) ((s.withoutUnqueued identity power).records j) :=
    .giveUp _ fun hgiven => (startable_eq_true hgiven.1).2.2.2
  have hinvalidated := carried_invalidateActive (s := s.withoutUnqueued identity power)
    (fun j hknown => hactor j ((hwithout j).of_known hknown)) i
  exact ⟨(hwithout i).trans hinvalidated.1, hinvalidated.2⟩

theorem carried_ambiguous (identity : Identity) (power : UInt32) (i : Fin capacity) :
    Carried (s.records i) ((s.ambiguous identity power).records i) :=
  .giveUp _ fun hgiven => Bool.eq_false_of_not_eq_true hgiven.2.2

theorem step_beginStart (h : Inv s) (identity : Identity) (power : UInt32) (frame : Frame) :
    Step s (.beginStart identity power frame) (s.beginStart identity power frame).1 := by
  have hnext : s.next (.beginStart identity power frame) =
    (s.beginStart identity power frame).1 := rfl
  have htoken : (s.call (.beginStart identity power frame)).2 =
    (s.beginStart identity power frame).2 := rfl
  rw [beginStart] at hnext htoken ⊢
  by_cases hrelevant : s.relevant identity.actor = true
  · rw [if_neg (not_not.2 hrelevant)] at hnext htoken ⊢
    by_cases hfull : s.full = true
    · rw [if_pos hfull]
      exact step_overflowed hfull h
    · rw [if_neg hfull] at hnext htoken ⊢
      have hfull := Bool.eq_false_of_not_eq_true hfull
      have hcarried := @carried_beginStart s.advanced identity power
        (actor_of_relevant h hrelevant)
      have hmanual := le_succ_mutation hfull h.manual_le
      dsimp only at hnext htoken hcarried ⊢
      split at hnext
      case h_1 => exact .disturbed hfull rfl rfl hmanual hcarried
      case h_2 i hone =>
        simp only [hone] at htoken ⊢
        by_cases hknown : frame.known = true
        · rw [if_neg (not_not.2 hknown)] at hnext htoken ⊢
          obtain ⟨hstartable, hqueued⟩ := mem_candidates.1 (hone ▸ List.mem_singleton_self i)
          obtain ⟨-, -, hphase⟩ := startable_eq_true hstartable
          have hticket := (hcarried i).1.ticket
          refine .opened i .settingState hfull ⟨rfl, ⟨rfl, hqueued⟩, ?_, ?_⟩ rfl rfl ?_ rfl ?_
            hphase fun j hj => ?_
          · rw [htoken]
            exact ⟨rfl, hticket⟩
          · show ((s.next _).records i).phase = .settingState
            rw [hnext]
            dsimp only [setPhase]
            rw [replace_self]
          · dsimp only
            rw [hticket]
            rfl
          · dsimp only [setPhase]
            rw [replace_self]
            rfl
          · dsimp only [setPhase]
            rw [replace_ne _ hj]
            exact hcarried j
        · rw [if_pos hknown]
          exact .disturbed hfull rfl rfl hmanual hcarried
      case h_3 =>
        -- the start may belong to several records, so it belongs to none
        refine .disturbed hfull rfl rfl hmanual fun i => ?_
        have hgiven := carried_ambiguous (s := (s.advanced.withoutUnqueued identity
          power).invalidateActive identity.actor) identity power i
        exact ⟨(hcarried i).1.trans hgiven, hgiven.unstarted (hcarried i).2⟩
  · rw [if_pos hrelevant]
    exact step_self

/-- Every call is one of the steps. -/
theorem step_next (h : Inv s) (call : Call) : Step s call (s.next call) := by
  cases call with
  | arm slot identity power origin => exact step_arm h slot identity power origin
  | queueResult slot ticket queued => exact step_queueResult h slot ticket queued
  | ownedFollowup slot ticket normalExact => exact step_ownedFollowup slot ticket normalExact
  | beginOwnedFollowup slot ticket => exact step_beginOwnedFollowup h slot ticket
  | ownedFollowupReturned token normalExact state6 =>
    exact step_ownedFollowupReturned h token normalExact state6
  | resetExactLifetime expected => exact step_resetExactLifetime h expected
  | foreignItemSend actor => exact step_foreignItemSend h actor
  | foreignPowerUse actor => exact step_foreignItemSend h actor
  | manualSend actor power => exact step_manualSend h actor power
  | beginManualStart identity power frame => exact step_beginManualStart h identity power frame
  | manualStateReturned token coherent => exact step_manualReturned token _ _ coherent
  | beginManualAppend identity power frame => exact step_beginManualAppend h identity power frame
  | manualAppendReturned token coherent => exact step_manualReturned token _ _ coherent
  | manualProcessReturned token normalExact => exact step_manualProcessReturned token normalExact
  | manualDirectReturned identity power coherent =>
    exact step_manualDirectReturned identity power coherent
  | otherActivity actor => exact step_otherActivity h actor
  | beginStart identity power frame => exact step_beginStart h identity power frame
  | stateReturned token coherent =>
    exact step_returned h token rfl rfl fun hcoherent => by rw [hcoherent]; rfl
  | beginAppend identity power frame => exact step_proceed h rfl rfl rfl
  | appendReturned token coherent =>
    exact step_returned h token rfl rfl fun hcoherent => by rw [hcoherent]; rfl
  | startProcessReturned token normalExact =>
    exact step_returned h token rfl rfl fun hcoherent => by rw [hcoherent]; rfl
  | beginMovement identity => exact step_proceed h rfl rfl rfl
  | movementReturned token coherent =>
    exact step_returned h token rfl rfl fun hcoherent => by rw [hcoherent]; rfl
  | beginCompletion identity power frame => exact step_beginCompletion h identity power frame
  | completionStateReturned token coherent =>
    exact step_returned h token rfl rfl fun hcoherent => by rw [hcoherent]; rfl
  | beginRemoval identity power frame final =>
    refine step_proceed h rfl ?_ ?_ <;> cases final <;> rfl
  | removalReturned token final coherent =>
    refine step_returned h token rfl ?_ fun hcoherent => ?_
    · cases final <;> rfl
    · rw [hcoherent]
      cases final <;> rfl
  | completionProcessReturned token normalExact =>
    exact step_returned h token rfl rfl fun hcoherent => by rw [hcoherent]; rfl

end History

end ShadowbaneLab.Native.Activation
