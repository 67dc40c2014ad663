/-
# The preparation policy

`pve/preparation.py`: which beneficial power or consumable an actor should apply next, from what
the client publishes about its effects and what became of the applications before.  Every value is
checked when it is built, and the checks are fields of the structures here.
-/
import Mathlib.Data.Finset.Sort
import Mathlib.Data.List.DropRight
import ShadowbaneLab.Foundation.Dict
import ShadowbaneLab.Foundation.Host

namespace ShadowbaneLab.Pve

open Foundation

/-! ## Checked values -/

/-- `_positive`. -/
abbrev Positive (bits : ℕ) : Type := {n : ℕ // 0 < n ∧ n < 2 ^ bits}

/-- `_text`: not empty, no white space around it, at most 128 characters, none a control. -/
def CanonicalText (s : String) : Prop :=
  s.toList ≠ [] ∧ ((s.toList.dropWhile isSpace).rdropWhile isSpace) = s.toList ∧
    s.toList.length ≤ 128 ∧ ∀ c ∈ s.toList, 32 ≤ c.toNat

/-- A string that `_text` accepts. -/
abbrev Text : Type := {s : String // CanonicalText s}

/-- `_key`. -/
abbrev NativeKey : Type := Positive 32 × Positive 32

/-- `_template_key`: a positive identifier, then zero. -/
abbrev TemplateKey : Type := {k : ℕ × ℕ // (0 < k.1 ∧ k.1 < 2 ^ 32) ∧ k.2 = 0}

/-- `Coverage`. -/
inductive Coverage
  | present
  | partial_
  | missing
  | unknown
deriving DecidableEq

/-- `Readiness`. -/
inductive Readiness
  | ready
  | notReady
  | unknown
deriving DecidableEq

/-- `Disposition`. -/
inductive Disposition
  | queued
  | deferred
  | notReady
  | rejected
  | uncertain
deriving DecidableEq

/-- `EntryState`. -/
inductive EntryState
  | neverEntered
  | entered
  | unknown
deriving DecidableEq

/-- `ApplicationState`. -/
inductive ApplicationState
  | pending
  | observed
  | interrupted
deriving DecidableEq

/-- `ActorIdentity`. -/
structure ActorIdentity where
  processId : Positive 32
  processCreation : Positive 64
  scene : Positive 64
  actorKey : NativeKey
  actorToken : Text
  player : actorKey.2.val = 53
deriving DecidableEq

/-- `PowerOperand` and `ItemOperand`. -/
inductive Operand
  | power (powerId : Positive 32)
  | item (itemKey : NativeKey) (itemToken : Text) (templateKey : TemplateKey)
deriving DecidableEq

/-- `PreparationAction`: exactly one of a power and an item template. -/
structure PreparationAction where
  actionId : Text
  powerId : Option (Positive 32)
  itemTemplate : Option TemplateKey
  exactlyOne : powerId.isNone ≠ itemTemplate.isNone
deriving DecidableEq

/-- `PreparationAction.matches`. -/
def PreparationAction.matches_ (action : PreparationAction) : Operand → Bool
  | .power powerId => action.powerId = some powerId
  | .item _ _ templateKey => action.itemTemplate = some templateKey

/-- `PreparationGroup`: one intent, its alternatives in order of preference. -/
structure PreparationGroup where
  groupId : Text
  alternatives : List PreparationAction
  bounded : 1 ≤ alternatives.length ∧ alternatives.length ≤ 16
  distinct : (alternatives.map PreparationAction.actionId).Nodup

/-! ## What the client publishes -/

/-- `CoverageEvidence`. -/
structure CoverageEvidence where
  groupId : Text
  state : Coverage
  renewalDue : Bool
  renewable : renewalDue = true → state = .present
deriving DecidableEq

/-- `ReadinessEvidence`. -/
structure ReadinessEvidence where
  actionId : Text
  state : Readiness
  operand : Option Operand
  resolved : state = .ready → operand.isSome = true
deriving DecidableEq

/-- `ApplicationSubmission`: a command digest and the revision at which it was submitted. -/
structure ApplicationSubmission where
  commandDigest : {b : List UInt8 // b.length = 32 ∧ ∃ x ∈ b, x ≠ 0}
  submittedRevision : Positive 64
deriving DecidableEq

/-- `ApplicationEvidence`: a terminal observation follows the submission. -/
structure ApplicationEvidence where
  groupId : Text
  submission : ApplicationSubmission
  state : ApplicationState
  terminalRevision : ℕ
  ordered : if state = .pending then terminalRevision = 0
    else submission.submittedRevision.val < terminalRevision ∧ terminalRevision < 2 ^ 64
deriving DecidableEq

/-- `PreparationObservation`. -/
structure PreparationObservation where
  actor : ActorIdentity
  publicationEpoch : Positive 64
  complete : Bool
  coverage : List CoverageEvidence
  readiness : List ReadinessEvidence
  admissionRevision : Positive 64
  admissionBlocks : ℕ
  pendingApplications : Finset Text
  captureSequence : {n : Positive 63 // n.val % 2 = 0}
  applicationHistory : List ApplicationEvidence
  blocks_known : admissionBlocks ≤ 63
  blocks_complete : complete = false → admissionBlocks = 0
  coverage_unique : coverage.length ≤ 256 ∧ (coverage.map CoverageEvidence.groupId).Nodup
  readiness_unique : readiness.length ≤ 256 ∧ (readiness.map ReadinessEvidence.actionId).Nodup
  pending_bounded : pendingApplications.card ≤ 32
  history_bounded : applicationHistory.length ≤ 32
  history_unique : (applicationHistory.map (fun v => v.submission.commandDigest)).Nodup
  history_complete : complete = false → applicationHistory = []
  history_dated : ∀ v ∈ applicationHistory,
    v.submission.submittedRevision.val ≤ publicationEpoch.val ∧
      v.terminalRevision ≤ publicationEpoch.val
  history_pending : ∀ v ∈ applicationHistory, v.state = .pending → v.groupId ∈ pendingApplications
deriving DecidableEq

namespace PreparationObservation

variable (o : PreparationObservation)

/-- The capture sequence as a number. -/
def capture : ℕ := o.captureSequence.val.val

/-- `replace(observation, capture_sequence=...)`. -/
def withCapture (last : PreparationObservation) : PreparationObservation :=
  { o with captureSequence := last.captureSequence }

/-- `coverage.get(group_id)`, where nothing is covered in an incomplete observation. -/
def coverageOf (group : Text) : Option Coverage :=
  if o.complete then (o.coverage.find? (·.groupId = group)).map (·.state) else none

/-- `renewal_due`. -/
def renewalDue (group : Text) : Bool := o.coverage.any (fun e => e.groupId = group ∧ e.renewalDue)

/-- `ready.get(action_id)`. -/
def ready (action : Text) : Option ReadinessEvidence := o.readiness.find? (·.actionId = action)

/-- `identified`: the groups of the pending evidence. -/
def identified : Finset Text :=
  ((o.applicationHistory.filter (·.state = .pending)).map (·.groupId)).toFinset

end PreparationObservation

/-! ## Proposals and their receipts -/

/-- `PreparationProposal`. -/
structure PreparationProposal where
  sequence : ℕ
  actor : ActorIdentity
  publicationEpoch : Positive 64
  groupId : Text
  action : PreparationAction
  operand : Operand
  admissionRevision : Positive 64
deriving DecidableEq

/-- `PreparationAcknowledgement`. -/
structure PreparationAcknowledgement where
  proposal : PreparationProposal
  disposition : Disposition
  entryState : EntryState
  localSettled : Bool
  submission : Option ApplicationSubmission
  submitted : ∀ v ∈ submission, v.submittedRevision = proposal.publicationEpoch
  queued_entered : disposition = .queued → entryState = .entered
  refused_settled : disposition ≠ .queued → disposition ≠ .uncertain →
    entryState = .neverEntered ∧ localSettled = true

/-- `GroupStatus`. -/
structure GroupStatus where
  groupId : Text
  coverage : Coverage
  applicationPending : Bool
deriving DecidableEq

/-- `PreparationDecision`. -/
structure PreparationDecision where
  proposal : Option PreparationProposal
  pollPending : Bool
  groups : List GroupStatus
  reason : String
deriving DecidableEq

/-! ## The policy -/

/-- What `PreparationPolicy` is configured with. -/
structure PreparationPolicy where
  actor : ActorIdentity
  groups : List PreparationGroup
  bounded : groups.length ≤ 32
  distinct : (groups.map PreparationGroup.groupId).Nodup
  actions_distinct : ((groups.flatMap PreparationGroup.alternatives).map
    PreparationAction.actionId).Nodup

namespace PreparationPolicy

variable (policy : PreparationPolicy)

/-- `_group_ids`. -/
def groupIds : Finset Text := (policy.groups.map PreparationGroup.groupId).toFinset

/-- `_actions`. -/
def actions : Dict Text PreparationAction :=
  Dict.ofList ((policy.groups.flatMap PreparationGroup.alternatives).map (fun a => (a.actionId, a)))

end PreparationPolicy

/-- What `PreparationPolicy` remembers, as long as no call has raised: the first that does stores
its fault, and every later call raises it again. -/
structure PolicyState where
  last : Option PreparationObservation
  pending : Option PreparationProposal
  queued : Bool
  entered : Bool
  applicationResolved : Bool
  pendingRenewal : Bool
  renewalApplications : Finset Text
  rejected : Finset Text
  refusedAt : Dict Text ℕ
  applications : Dict Text ℕ
  applicationSubmissions : Dict Text ApplicationSubmission
  nativeApplications : Dict ApplicationSubmission Text
  unidentifiedApplications : Dict Text ℕ
  pendingSubmission : Option ApplicationSubmission
  sequence : ℕ
  afterCapture : ℕ

namespace PolicyState

/-- `PreparationPolicy.__init__`. -/
def init : PolicyState where
  last := none
  pending := none
  queued := false
  entered := false
  applicationResolved := false
  pendingRenewal := false
  renewalApplications := ∅
  rejected := ∅
  refusedAt := ∅
  applications := ∅
  applicationSubmissions := ∅
  nativeApplications := ∅
  unidentifiedApplications := ∅
  pendingSubmission := none
  sequence := 0
  afterCapture := 0

variable (s : PolicyState) (o : PreparationObservation)

/-- `group in application_pending_groups`. -/
def applicationPending (group : Text) : Bool :=
  s.applications.contains group ∨ group ∈ s.nativeApplications.values ∨
    s.unidentifiedApplications.contains group

/-! ### Reconciliation -/

/-- `group in present`, in `_reconcile_applications`. -/
def present (group : Text) : Bool :=
  (∃ e ∈ o.coverage, e.groupId = group ∧ e.state = .present) ∧ group ∉ o.pendingApplications ∧
    group ∉ s.renewalApplications ∧
    ¬ (s.pendingRenewal = true ∧ ∃ p ∈ s.pending, p.groupId = group)

/-- The three loops that release what positive coverage resolves. -/
def release (present : Text → Bool) (epoch : ℕ) : PolicyState :=
  { s with
    applications := s.applications.filter (fun group at_ => !(present group && at_ < epoch))
    applicationSubmissions := s.applicationSubmissions.filter (fun group _ =>
      !(present group && (s.applications.get? group).any (· < epoch)))
    unidentifiedApplications := s.unidentifiedApplications.filter (fun group at_ =>
      !(present group && at_ < epoch))
    nativeApplications := s.nativeApplications.filter (fun submission group =>
      !(present group && submission.submittedRevision.val < epoch)) }

variable (v : ApplicationEvidence)

/-- Terminal evidence releases the native application it names. -/
def concludeNative : PolicyState :=
  if s.nativeApplications.get? v.submission = some v.groupId then
    { s with nativeApplications := s.nativeApplications.erase v.submission }
  else s

/-- Terminal evidence releases the acknowledged application it names. -/
def concludeLocal : PolicyState :=
  if s.applicationSubmissions.get? v.groupId = some v.submission then
    { s with
      applications := s.applications.erase v.groupId
      applicationSubmissions := s.applicationSubmissions.erase v.groupId
      renewalApplications := s.renewalApplications.erase v.groupId }
  else s

/-- Terminal evidence resolves the pending proposal it names. -/
def concludePending : PolicyState :=
  if (∃ p ∈ s.pending, p.groupId = v.groupId) ∧ s.pendingSubmission = some v.submission then
    { s with applicationResolved := true }
  else s

/-- The body of the loop over `application_history`. -/
def conclude : PolicyState :=
  if v.state = .pending then s
  else ((s.concludeNative v).concludeLocal v).concludePending v

/-- Positive coverage of the pending proposal is remembered. -/
def remember (present : Text → Bool) (epoch : ℕ) : PolicyState :=
  if ∃ p ∈ s.pending, present p.groupId = true ∧ p.publicationEpoch.val < epoch then
    { s with applicationResolved := true }
  else s

/-- `_reconcile_applications`. -/
def reconcile : PolicyState :=
  if o.complete = false then s
  else
    let present := s.present o
    let epoch := o.publicationEpoch.val
    (o.applicationHistory.foldl conclude (s.release present epoch)).remember present epoch

/-! ### `advance` -/

/-- The publication went back, or changed without a new epoch. -/
def regressed : Bool :=
  ∃ last ∈ s.last,
    o.capture < last.capture ∨ o.capture = last.capture ∧ o ≠ last ∨
    o.publicationEpoch.val < last.publicationEpoch.val ∨
    o.admissionRevision.val < last.admissionRevision.val ∨
    o.publicationEpoch = last.publicationEpoch ∧ o.withCapture last ≠ last

/-- Pending evidence identifies its group's application; a group without any is unidentified. -/
def receive : PolicyState :=
  let pending := o.applicationHistory.filter (·.state = .pending)
  let unidentified := (o.pendingApplications \ o.identified).sort (· ≤ ·)
  { s with
    last := some o
    nativeApplications :=
      pending.foldl (fun d v => d.set v.submission v.groupId) s.nativeApplications
    unidentifiedApplications :=
      unidentified.foldl (fun d group => d.setDefault group o.publicationEpoch.val)
        s.unidentifiedApplications }

/-- The operand with which an action may be proposed; a ready action has one. -/
def offer (action : PreparationAction) : Option Operand :=
  match o.ready action.actionId with
  | none => none
  | some evidence =>
    if evidence.state ≠ .ready ∨ action.actionId ∈ s.rejected ∨
        o.admissionRevision.val ≤ s.refusedAt.getD action.actionId 0 then none
    else evidence.operand

/-- The first action of the first group that is due. -/
def candidate (groups : List PreparationGroup) :
    Option (PreparationGroup × PreparationAction × Operand) :=
  groups.findSome? fun group =>
    if (o.coverageOf group.groupId ≠ some .missing ∧ o.renewalDue group.groupId = false) ∨
        s.applicationPending group.groupId = true then none
    else group.alternatives.findSome? fun action =>
      (s.offer o action).map (fun operand => (group, action, operand))

/-- The new proposal becomes the pending one. -/
def propose (proposal : PreparationProposal) : PolicyState :=
  { s with
    sequence := proposal.sequence
    pending := some proposal
    queued := false
    entered := false
    applicationResolved := false
    pendingRenewal := o.renewalDue proposal.groupId
    pendingSubmission := none }

end PolicyState

namespace PreparationPolicy

variable (policy : PreparationPolicy)

/-- The publication names something that is not configured. -/
def unconfigured (o : PreparationObservation) : Bool :=
  (∃ e ∈ o.coverage, e.groupId ∉ policy.groupIds) ∨ ¬ o.pendingApplications ⊆ policy.groupIds ∨
    (∃ v ∈ o.applicationHistory, v.groupId ∉ policy.groupIds) ∨
    ∃ e ∈ o.readiness, policy.actions.contains e.actionId = false

/-- A resolved operand is not the configured one. -/
def mismatched (o : PreparationObservation) : Bool :=
  ∃ e ∈ o.readiness, ∃ operand ∈ e.operand, ∃ action ∈ policy.actions.get? e.actionId,
    action.matches_ operand = false

/-- The status of every configured group. -/
def status (s : PolicyState) (o : PreparationObservation) : List GroupStatus :=
  policy.groups.map fun g =>
    ⟨g.groupId, (o.coverageOf g.groupId).getD .unknown, s.applicationPending g.groupId⟩

/-- What `advance` answers after reconciliation. -/
def answer (s : PolicyState) (o : PreparationObservation) : PreparationDecision × PolicyState :=
  let status := policy.status s o
  if s.pending.isSome then (⟨s.pending, true, status, "native_action_pending"⟩, s)
  else if o.complete = false then (⟨none, false, status, "observation_unknown"⟩, s)
  else if o.admissionBlocks ≠ 0 then (⟨none, false, status, "native_admission_blocked"⟩, s)
  else if o.capture ≤ s.afterCapture then
    (⟨none, false, status, "fresh_publication_required"⟩, s)
  else
    match s.candidate o policy.groups with
    | some (group, action, operand) =>
      let proposal := ⟨s.sequence + 1, policy.actor, o.publicationEpoch, group.groupId, action,
        operand, o.admissionRevision⟩
      (⟨some proposal, false, status, "submit"⟩, s.propose o proposal)
    | none =>
      (⟨none, false, status,
        if status.all (·.coverage = .present) then "covered" else "waiting"⟩, s)

/-- `advance`. -/
def advance (s : PolicyState) (o : PreparationObservation) :
    Except String (PreparationDecision × PolicyState) :=
  if o.actor ≠ policy.actor then .error "preparation actor identity changed"
  else if s.regressed o then .error "native publication regressed or changed without an epoch"
  else if policy.unconfigured o then
    .error "publication references unconfigured preparation intent"
  else if policy.mismatched o then
    .error "resolved operand differs from configured native identity"
  else .ok (policy.answer ((s.receive o).reconcile o) o)

end PreparationPolicy

/-! ### `acknowledge` -/

namespace PreparationAcknowledgement

variable (ack : PreparationAcknowledgement)

/-- The application may have reached the server. -/
def applied : Bool :=
  ack.disposition = .queued ∨ ack.disposition = .uncertain ∧ ack.entryState ≠ .neverEntered

/-- The application was refused before it was entered, for now. -/
def refused : Bool :=
  (ack.disposition = .deferred ∨ ack.disposition = .notReady) ∧ ack.entryState = .neverEntered ∧
    ack.localSettled = true

end PreparationAcknowledgement

namespace PolicyState

variable (s : PolicyState) (pending : PreparationProposal) (ack : PreparationAcknowledgement)

/-- The command of the pending proposal is kept. -/
def identify : PolicyState :=
  match ack.submission with
  | some submission => { s with pendingSubmission := some submission }
  | none => s

/-- What the receipt says of entry, rejection and the queue. -/
def record : PolicyState :=
  { s with
    entered := s.entered || ack.entryState = .entered
    rejected :=
      if ack.disposition = .rejected then insert pending.action.actionId s.rejected
      else s.rejected
    queued := s.queued || ack.disposition = .queued }

/-- A possible remote application suppresses its group. -/
def suppress : PolicyState :=
  if s.applicationResolved then s
  else
    { s with
      renewalApplications :=
        if s.pendingRenewal then insert pending.groupId s.renewalApplications
        else s.renewalApplications
      applications := s.applications.setDefault pending.groupId pending.publicationEpoch.val
      applicationSubmissions :=
        match s.pendingSubmission with
        | some submission => s.applicationSubmissions.set pending.groupId submission
        | none => s.applicationSubmissions }

/-- A refused action waits for another admission revision. -/
def refuse : PolicyState :=
  { s with refusedAt := s.refusedAt.set pending.action.actionId pending.admissionRevision.val }

/-- Local settlement: the next proposal needs a later capture. -/
def settle : PolicyState :=
  { s with
    afterCapture := (s.last.map PreparationObservation.capture).getD s.afterCapture
    pending := none
    pendingRenewal := false
    queued := false
    entered := false }

/-- `acknowledge` once its checks have passed; a pending proposal came from an observation. -/
def accept : PolicyState :=
  let s := (s.identify ack).record pending ack
  let s := if ack.applied then
      let s := s.suppress pending
      s.last.elim s s.reconcile
    else s
  let s := if ack.refused then s.refuse pending else s
  if ack.localSettled then s.settle else s

/-- `acknowledge`. -/
def acknowledge : Except String PolicyState :=
  match s.pending with
  | none => .error "receipt does not match the exact pending preparation proposal"
  | some pending =>
    if ack.proposal ≠ pending then
      .error "receipt does not match the exact pending preparation proposal"
    else if ∃ submission ∈ ack.submission, ∃ known ∈ s.pendingSubmission, submission ≠ known then
      .error "application command changed within immutable proposal"
    else if s.queued ∧ ack.disposition ≠ .queued ∧ ack.disposition ≠ .uncertain then
      .error "positive queue history cannot become never-entered refusal"
    else if s.entered ∧ ack.entryState = .neverEntered then
      .error "positive entry history cannot become never-entered refusal"
    else .ok (s.accept pending ack)

end PolicyState

end ShadowbaneLab.Pve
