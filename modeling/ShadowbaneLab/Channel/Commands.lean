/-
# The command channel

`command_channel.h`: the host writes commands into shared memory, a worker of the client hands
each to the thread that owns its family and writes the results back.  One command is under way
at a time; the header and the slots are read and written by the worker alone while it drains.
Counters of dropped entries and the last error are only ever written and left out.
-/
import ShadowbaneLab.Native.Desk

namespace ShadowbaneLab.CommandChannel

open Foundation Native

/-! ## The storage -/

/-- `kClientActionCommandCapacity`. -/
abbrev commandCapacity : ℕ := 32

/-- `kClientActionResultCapacity`. -/
abbrev resultCapacity : ℕ := 64

/-- `kClientActionResultDetailCapacity`. -/
def detailCapacity : ℕ := 72

/-- `kClientActionArgumentCapacity`. -/
def argumentCapacity : ℕ := 96

/-- `kClientActionPowerIdentifierCapacity`. -/
def powerIdentifierCapacity : ℕ := 32

/-- `kMaximumActionHostLeaseAgeMilliseconds`. -/
def maximumLeaseAge : ℕ := 1000

/-- `std::numeric_limits<LONG64>::max()`. -/
def int64Max : Int := 2 ^ 63 - 1

/-- The `ERROR_` codes that are returned or published. -/
inductive Code
  | success
  | invalidData
  | notSupported
  | revisionMismatch
  | timeout
  | requestAborted
  | ioPending
  | noData
  | retry
  | notEnoughQuota
  | notEnoughMemory
deriving DecidableEq

/-- The stages of `ClientActionResultStage` that are published. -/
inductive Stage
  | submittedToClient
  | rejectedByClient
  | failed
deriving DecidableEq

/-- What `HeaderIsValid` reads of a `ClientActionChannelHeader`. -/
structure Header where
  magic : String := "WBACTV1"
  schemaVersion : ℕ := 3
  headerSize : ℕ := 128
  commandSlotSize : ℕ := 768
  commandCapacity : ℕ := 32
  resultSlotSize : ℕ := 512
  resultCapacity : ℕ := 64
  processId : ℕ
  processCreation : ℕ
  capabilityFlags : UInt32
deriving DecidableEq

/-- `kKnownClientActionCapabilities`: bits 0 to 2 and 4 to 11. -/
def knownCapabilities : UInt32 := 0xff7

/-- `kClientActionTransportCapability`. -/
def transportCapability : UInt32 := 1

/-- `HeaderIsValid`. -/
def Header.valid (h : Header) : Bool :=
  h.magic = "WBACTV1" ∧ h.schemaVersion = 3 ∧ h.headerSize = 128 ∧ h.commandSlotSize = 768 ∧
    h.commandCapacity = 32 ∧ h.resultSlotSize = 512 ∧ h.resultCapacity = 64 ∧ h.processId ≠ 0 ∧
    h.processCreation ≠ 0 ∧ h.capabilityFlags &&& ~~~knownCapabilities = 0 ∧
    h.capabilityFlags &&& transportCapability ≠ 0

/-- `ClientActionCommandSlot`. -/
structure CommandSlot where
  committed : Int := 0
  id : ℕ := 0
  kind : ℕ := 0
  payloadVersion : ℕ := 0
  createdTick : ℕ := 0
  deadlineTick : ℕ := 0
  actionCode : Int := 0
  parameterOne : Int := 0
  parameterTwo : Int := 0
  argumentLength : ℕ := 0
  powerIdentifierLength : ℕ := 0
  flags : ℕ := 0
  argument : Bytes := zeros 96
  powerIdentifier : Bytes := zeros 32
  payload : Bytes := zeros 576

/-- `ClientActionResultSlot`; without a receipt its bytes are zeros. -/
structure ResultSlot where
  committed : Int := 0
  commandId : ℕ := 0
  commandSequence : Int := 0
  stage : Stage := .failed
  error : Code := .success
  observedTick : ℕ := 0
  consumerThread : ℕ := 0
  detail : String := ""
  receipt : Option Bytes := none

/-- The families of commands, each with a queue to the thread that owns it. -/
inductive Family
  | actor
  | movement
  | vendor
  | cityWindow
  | vendorNavigation
  | vendorMenu
  | condemn
  | guardUpgrade
  | guardFunding
deriving DecidableEq

/-- The states of a queued command: queued, executing on the owning thread, receipt published. -/
inductive Progress
  | queued
  | executing
  | published
deriving DecidableEq

/-- `QueuedCommand`; a receipt is read only once it is published. -/
structure Queued where
  id : ℕ
  sequence : Int
  deadline : ℕ
  verb : ℕ
  command : Bytes
  state : Progress := .queued
  receipt : Bytes := zeros 384
  diagnostic : List Char := []
  executionThread : ℕ := 0

/-- The storage, the queues and the `Runtime`.  Pending commands are shared between the runtime
and the queue of their family, so both hold an address. -/
structure Channel where
  header : Header
  commandWrite : Int := 0
  commandRead : Int := 0
  resultWrite : Int := 0
  resultRead : Int := 0
  hostProcess : Int := 0
  hostGeneration : Int := 0
  heartbeat : Int := 0
  commands : Fin commandCapacity → CommandSlot := fun _ => {}
  results : Fin resultCapacity → ResultSlot := fun _ => {}
  heap : ℕ → Queued
  fresh : ℕ := 0
  pending : Family → Option ℕ := fun _ => none
  queue : Family → Option ℕ := fun _ => none
  backed : Bool := true
  accepting : Bool := true

/-- What one drain reads from elsewhere. -/
structure Env where
  thread : ℕ
  tick : ℕ
  combatReady : Bool := false
  groupChatReady : Bool := false
  trackingReady : Bool := false
  allocatesLease : Bool := true
  allocatesCommand : Bool := true
  processCreation : ℕ → Option ℕ := fun _ => none
  running : ℕ → Bool := fun _ => false

/-- The codecs of the payloads: `wire::Valid` of each family, and the correlation and the stale
reply of an actor command, whose digests the system computes. -/
structure Wire where
  valid : Family → ℕ → Bytes → Bool
  correlated : Bytes → ℕ → Bytes → Bool
  stale : Bytes → ℕ → Bytes

/-! ## Results -/

section Results

variable (env : Env) (c : Channel)

theorem neZero_resultCapacity : NeZero resultCapacity := ⟨by decide⟩

/-- The slot of a result. -/
def resultIndex (sequence : Int) : Fin resultCapacity :=
  @Fin.ofNat resultCapacity neZero_resultCapacity sequence.toNat

/-- The counters of the ring are sound, and it has a free slot. -/
def Channel.ringFree : Bool :=
  0 ≤ c.resultWrite ∧ 0 ≤ c.resultRead ∧ c.resultRead ≤ c.resultWrite ∧
    c.resultWrite ≠ int64Max ∧ c.resultWrite - c.resultRead < (resultCapacity : Int)

/-- What is published of a command. -/
structure Answer where
  stage : Stage
  error : Code
  detail : String
  receipt : Option Bytes := none
  thread : ℕ := 0

/-- `TryPublishResult`. -/
def tryPublishResult (commandSequence : Int) (commandId : ℕ) (answer : Answer) (now : ℕ) :
    Option Channel :=
  if c.resultWrite < 0 ∨ c.resultRead < 0 ∨ c.resultWrite < c.resultRead ∨
      c.resultWrite = int64Max then none
  else if (resultCapacity : Int) ≤ c.resultWrite - c.resultRead then none
  else if detailCapacity < answer.detail.length then none
  else some { c with
    results := Function.update c.results (resultIndex c.resultWrite)
      { committed := c.resultWrite + 1
        commandId := commandId
        commandSequence := commandSequence
        stage := answer.stage
        error := answer.error
        observedTick := now
        consumerThread := if answer.thread ≠ 0 then answer.thread else env.thread
        detail := answer.detail
        receipt := answer.receipt }
    resultWrite := c.resultWrite + 1 }

end Results

/-! ## The queues of the families -/

section Queues

variable (c : Channel)

/-- `Queue`. -/
def Channel.enqueue (family : Family) (command : Queued) : Option Channel :=
  if (c.queue family).isSome then none
  else some { c with
    heap := Function.update c.heap c.fresh command
    fresh := c.fresh + 1
    queue := Function.update c.queue family (some c.fresh) }

/-- `Release`. -/
def Channel.release (family : Family) (command : ℕ) : Channel :=
  if c.queue family = some command then
    { c with queue := Function.update c.queue family none }
  else c

/-- `Complete`. -/
def Channel.complete (command : ℕ) (receipt : Bytes) (thread : ℕ) : Channel :=
  { c with heap := Function.update c.heap command { c.heap command with
      receipt := receipt
      diagnostic := []
      executionThread := thread
      state := .published } }

/-- A command past its deadline that is still queued is taken from its owner and answered. -/
def Channel.expire (command : ℕ) (reply : Queued → Bytes) (now thread : ℕ) : Channel :=
  if (c.heap command).deadline < now ∧ (c.heap command).state = .queued then
    c.complete command (reply (c.heap command)) thread
  else c

end Queues

/-! ## Completion -/

section Completion

variable (env : Env) (wire : Wire) (now : ℕ) (c : Channel)

/-- What the functions that finish a pending command share; with a reply, one that expired is
answered with it. -/
def finish (family : Family) (reply : Option (Queued → Bytes)) (answer : Queued → Answer) :
    Code × Channel :=
  match c.pending family with
  | none => (.success, c)
  | some command =>
    let c := match reply with
      | some reply => c.expire command reply now env.thread
      | none => c
    let pending := c.heap command
    if pending.state ≠ .published then (.ioPending, c)
    else match tryPublishResult env c pending.sequence pending.id
        { answer pending with thread := pending.executionThread } now with
      | none => (.notEnoughQuota, c)
      | some c =>
        let c := { c with commandRead := pending.sequence }.release family command
        (.success, { c with pending := Function.update c.pending family none })

/-- A word of a receipt or a payload. -/
def wordAt (offset : ℕ) (data : Bytes) : ℕ := ofLittleEndian ((data.drop offset).take 4)

/-- The answer to a command that a receipt accepts or rejects. -/
def receiptAnswer (accepted : Bool) (detail : String) (pending : Queued) : Answer where
  stage := if accepted then .submittedToClient else .rejectedByClient
  error := if accepted then .success else .requestAborted
  detail := detail
  receipt := some pending.receipt

/-- `FinishPending`. -/
def finishPending : Code × Channel :=
  finish env now c .movement none fun pending =>
    receiptAnswer (wordAt 368 pending.receipt = 0) "native_movement_receipt" pending

/-- `request` of a service's command or receipt. -/
def requestOf (command : Bytes) : Bytes := (command.drop 24).take 16

/-- The receipt of a service that is stale: its host, request and window are the command's, and
its signature stands at some offset. -/
def staleReceipt (offset : ℕ) (magic : ℕ) (pending : Queued) : Bytes :=
  let head := requestOf pending.command ++ pending.command.take 16 ++
    (pending.command.drop 16).take 8 ++ littleEndian 4 Outcome.stale.code.toNat
  head ++ zeros (offset - 44) ++ littleEndian 4 magic ++ zeros (380 - offset)

/-- The outcomes that a service's receipt accepts a command with: observed and submitted. -/
def serviceAccepts (pending : Queued) : Bool :=
  wordAt 40 pending.receipt = Outcome.observed.code.toNat ∨
    wordAt 40 pending.receipt = Outcome.submitted.code.toNat

/-- What the functions that finish the pending command of a service share. -/
def finishService (family : Family) (offset magic : ℕ) (accepts : Queued → Bool)
    (detail : String) : Code × Channel :=
  finish env now c family (some (staleReceipt offset magic)) fun pending =>
    receiptAnswer (accepts pending) detail pending

/-- `FinishVendorPending`. -/
def finishVendorPending : Code × Channel :=
  finishService env now c .vendor 336 0x57425631 serviceAccepts "native_vendor_receipt_v1"

/-- `FinishCityWindowPending`. -/
def finishCityWindowPending : Code × Channel :=
  finishService env now c .cityWindow 112 0x57424331 serviceAccepts
    "native_city_window_receipt_v1"

/-- `FinishVendorNavigationPending`. -/
def finishVendorNavigationPending : Code × Channel :=
  finishService env now c .vendorNavigation 160 0x57424e33 serviceAccepts
    "native_vendor_navigation_receipt_v3"

/-- `FinishVendorMenuPending`. -/
def finishVendorMenuPending : Code × Channel :=
  finishService env now c .vendorMenu 160 0x57424d31 serviceAccepts
    "native_vendor_menu_receipt_v1"

/-- A Condemn receipt also accepts a command whose own transition is pending. -/
def condemnAccepts (pending : Queued) : Bool :=
  serviceAccepts pending ∨ wordAt 40 pending.receipt = Outcome.pending.code.toNat ∧
    (pending.receipt.drop 220).take 16 = requestOf pending.command

/-- `FinishCondemnPending`. -/
def finishCondemnPending : Code × Channel :=
  finishService env now c .condemn 240 0x57424b31 condemnAccepts "native_condemn_receipt_v1"

/-- `FinishGuardUpgradePending`. -/
def finishGuardUpgradePending : Code × Channel :=
  finishService env now c .guardUpgrade 192 0x57424733 serviceAccepts
    "native_guard_upgrade_receipt_v3"

/-- `FinishGuardFundingPending`. -/
def finishGuardFundingPending : Code × Channel :=
  finishService env now c .guardFunding 160 0x57424631 serviceAccepts
    "native_guard_funding_receipt_v1"

/-- The diagnostic of a correlated receipt up to its first zero, at most 72 characters. -/
def combatDetail (correlated : Bool) (pending : Queued) : String :=
  if correlated then .ofList ((pending.diagnostic.take detailCapacity).takeWhile (· ≠ '\x00'))
  else ""

/-- `FinishCombatPending`. -/
def finishCombatPending : Code × Channel :=
  finish env now c .actor (some fun pending => wire.stale pending.command pending.verb)
    fun pending =>
      let correlated := wire.correlated pending.command pending.verb pending.receipt
      { stage := if correlated then .submittedToClient else .failed
        error := if correlated then .success else .invalidData
        detail := combatDetail correlated pending
        receipt := if correlated then some pending.receipt else none }

end Completion

/-! ## Taking commands -/

section Taking

variable (env : Env) (wire : Wire) (now : ℕ) (c : Channel)

/-- `HostLeaseIsActive`. -/
def Channel.hostLeaseActive : Bool :=
  let observed : Int := if 0 < c.heartbeat ∧ (now : Int) < c.heartbeat then env.tick else now
  0 < c.hostProcess ∧ 0 < c.heartbeat ∧ c.heartbeat ≤ observed ∧
    observed - c.heartbeat ≤ (maximumLeaseAge : Int)

/-- `MovementLeaseCurrent`. -/
def Channel.leaseCurrent (host : Host) : Bool :=
  c.accepting && c.header.valid && c.hostLeaseActive env now &&
    c.hostProcess = (host.process.toNat : Int) && c.hostGeneration = (host.generation.toNat : Int)

/-- `CaptureMovementLease`: whether there is one, unless there is no memory for it. -/
def captureMovementLease (host : Host) : Option Bool :=
  if ¬ host.valid ∨ ¬ c.leaseCurrent env now host then some false
  else if ¬ env.allocatesLease then none
  else some (env.processCreation host.process.toNat = some host.creation.toNat &&
    env.running host.process.toNat && c.leaseCurrent env now host)

/-- The host at the head of a payload. -/
def hostOf (payload : Bytes) : Host where
  process := .ofNat (wordAt 0 payload)
  generation := .ofNat (wordAt 4 payload)
  creation := .ofNat (ofLittleEndian ((payload.drop 8).take 8))

/-- The family that owns a kind of command. -/
def Family.ofKind (kind : ℕ) : Option Family :=
  if 43 ≤ kind ∧ kind ≤ 53 then some .actor
  else if 23 ≤ kind ∧ kind ≤ 24 then some .condemn
  else if 17 ≤ kind ∧ kind ≤ 18 then some .guardUpgrade
  else if 19 ≤ kind ∧ kind ≤ 21 then some .guardFunding
  else if (13 ≤ kind ∧ kind ≤ 16) ∨ kind = 22 then some .vendorNavigation
  else if 25 ≤ kind ∧ kind ≤ 31 then some .vendorMenu
  else if 11 ≤ kind ∧ kind ≤ 12 then some .cityWindow
  else if (8 ≤ kind ∧ kind ≤ 10) ∨ kind = 32 ∨ kind = 33 then some .vendor
  else if (3 ≤ kind ∧ kind ≤ 7) ∨ kind = 54 ∨ kind = 55 then some .movement
  else none

/-- The detail of a command that its family does not take. -/
def Family.refusal : Family → String
  | .actor => "invalid_or_unavailable_combat_command"
  | .movement => "invalid_or_expired_movement_lease"
  | .vendor => "invalid_or_expired_vendor_lease"
  | .cityWindow => "invalid_or_expired_city_window_lease"
  | .vendorNavigation => "invalid_or_expired_vendor_navigation_lease"
  | .vendorMenu => "invalid_or_expired_vendor_menu_lease"
  | .condemn => "invalid_or_expired_condemn_lease"
  | .guardUpgrade => "invalid_or_expired_guard_upgrade_lease"
  | .guardFunding => "invalid_or_expired_guard_funding_lease"

/-- A command that its family can take: only movement commands may have any time left. -/
def CommandSlot.acceptable (family : Family) (slot : CommandSlot) : Bool :=
  slot.id ≠ 0 && slot.payloadVersion = 1 && slot.createdTick ≠ 0 && slot.createdTick ≤ now &&
    now ≤ slot.deadlineTick &&
    (family = .movement || slot.deadlineTick - slot.createdTick ≤ 5000) && slot.flags = 0 &&
    slot.actionCode = 0 && slot.parameterOne = 0 && slot.parameterTwo = 0 &&
    slot.argumentLength = 0 && slot.powerIdentifierLength = 0 && !anySet slot.argument &&
    !anySet slot.powerIdentifier && wire.valid family slot.kind slot.payload

/-- The services that an actor command needs are ready; the action stands at byte 352. -/
def actorAvailable (slot : CommandSlot) : Bool :=
  (slot.kind ∉ [43, 44, 45] || env.combatReady) &&
    (slot.kind ≠ 45 || wordAt 352 slot.payload ≠ 5 || env.trackingReady) &&
    (slot.kind ≠ 45 || wordAt 352 slot.payload ≠ 6 || env.groupChatReady)

/-- `TextIsValid`. -/
def textIsValid (value : Bytes) (length capacity : ℕ) (allowEmpty : Bool) : Bool :=
  length ≤ capacity && (allowEmpty || length ≠ 0) &&
    (value.take length).all fun byte => 0x20 ≤ byte && byte ≤ 0x7E

/-- `PowerIdentifierIsValid`. -/
def powerIdentifierIsValid (value : Bytes) (length : ℕ) : Bool :=
  textIsValid value length powerIdentifierCapacity false &&
    (value.take length).all fun byte =>
      (0x41 ≤ byte && byte ≤ 0x5A) || (0x30 ≤ byte && byte ≤ 0x39) || byte = 0x2D || byte = 0x5F

/-- `ValidateCommand`: an error and its detail, or none. -/
def validateCommand (slot : CommandSlot) : Option (Code × String) :=
  if slot.payloadVersion ≠ 1 then
    some (.revisionMismatch, "unsupported_command_payload_version")
  else if slot.id = 0 then some (.invalidData, "invalid_command_id")
  else if slot.createdTick = 0 ∨ slot.deadlineTick < slot.createdTick then
    some (.invalidData, "invalid_command_deadline")
  else if slot.deadlineTick < now then some (.timeout, "command_deadline_expired")
  else if slot.flags ≠ 0 then some (.notSupported, "unsupported_command_flags")
  else if slot.kind = 1 then
    if slot.actionCode ≤ 0 ∨ slot.powerIdentifierLength ≠ 0 ∨
        ¬ textIsValid slot.argument slot.argumentLength argumentCapacity true then
      some (.invalidData, "invalid_native_action_payload")
    else none
  else if slot.kind = 2 then
    if slot.actionCode ≠ 0 ∨ slot.parameterOne ≠ 0 ∨ slot.parameterTwo ≠ 0 ∨
        slot.argumentLength ≠ 0 ∨
        ¬ powerIdentifierIsValid slot.powerIdentifier slot.powerIdentifierLength then
      some (.invalidData, "invalid_learned_power_payload")
    else none
  else some (.notSupported, "unsupported_client_action_kind")

/-- The answer to a command that no family takes; `DispatchClientAction` never succeeds. -/
def dispatchAnswer (slot : CommandSlot) : Answer :=
  match validateCommand now slot with
  | some (error, detail) =>
    { stage := .failed, error := error, detail := detail, thread := env.thread }
  | none =>
    { stage := .failed, error := .notSupported, detail := "reviewed_client_dispatcher_unavailable"
      thread := env.thread }

/-- What one round of the loop of `DrainCommands` comes to. -/
inductive Round
  | done (code : Code) (c : Channel)
  | again (c : Channel)

/-- A command is answered at once, and the next one looked at. -/
def answerAtOnce (slot : CommandSlot) (answer : Answer) : Round :=
  match tryPublishResult env c (c.commandRead + 1) slot.id answer now with
  | none => .done .notEnoughQuota c
  | some c => .again { c with commandRead := c.commandRead + 1 }

/-- The next command is handed to its family, or refused. -/
def handOver (family : Family) (slot : CommandSlot) : Round :=
  let available := family ≠ .actor || actorAvailable env slot
  let refused := answerAtOnce env now c slot
    { stage := .failed
      error := if available then .invalidData else .notSupported
      detail := family.refusal }
  if slot.acceptable wire now family ∧ available ∧ c.backed then
    match captureMovementLease env now c (hostOf slot.payload) with
    | none => .done .notEnoughMemory c
    | some false => refused
    | some true =>
      if ¬ env.allocatesCommand then .done .notEnoughMemory c
      else match c.enqueue family
          { id := slot.id
            sequence := c.commandRead + 1
            deadline := slot.deadlineTick
            verb := slot.kind
            command := slot.payload } with
        | none => .done .retry c
        | some c' => .done .ioPending
          { c' with pending := Function.update c'.pending family (some c.fresh) }
  else refused

/-- The slot of a command. -/
def commandIndex (sequence : Int) : Fin commandCapacity := Fin.ofNat _ sequence.toNat

/-- One round of the loop of `DrainCommands`. -/
def takeCommand : Round :=
  if c.commandWrite < 0 ∨ c.commandRead < 0 ∨ c.commandWrite < c.commandRead ∨
      (commandCapacity : Int) < c.commandWrite - c.commandRead then .done .invalidData c
  else if c.commandRead = c.commandWrite then .done .success c
  else
    let slot := c.commands (commandIndex c.commandRead)
    if slot.committed ≠ c.commandRead + 1 then .done .retry c
    else match Family.ofKind slot.kind with
      | some family => handOver env wire now c family slot
      | none => answerAtOnce env now c slot (dispatchAnswer env now slot)

end Taking

/-! ## Draining -/

section Draining

variable (env : Env) (wire : Wire) (now : ℕ)

variable {c c' : Channel}

variable {slot : CommandSlot} {answer : Answer}

variable {env wire now} in
theorem answerAtOnce_again (h : answerAtOnce env now c slot answer = .again c') :
    ∃ c₁, tryPublishResult env c (c.commandRead + 1) slot.id answer now = some c₁ ∧
      c' = { c₁ with commandRead := c₁.commandRead + 1 } := by
  rw [answerAtOnce] at h
  split at h
  case h_1 => cases h
  case h_2 c₁ hc₁ => exact ⟨c₁, hc₁, (Round.again.inj h).symm⟩

variable {env wire now} in
theorem handOver_again {family : Family} (h : handOver env wire now c family slot = .again c') :
    ∃ answer, answerAtOnce env now c slot answer = .again c' := by
  dsimp only [handOver] at h
  split at h
  · split at h
    case h_1 => cases h
    case h_2 => exact ⟨_, h⟩
    case h_3 =>
      split at h
      · cases h
      · split at h <;> cases h
  · exact ⟨_, h⟩

variable {env wire now} in
/-- A published result changes its slot and the counter of the ring. -/
theorem tryPublishResult_eq_some {sequence : Int} {id : ℕ}
    (h : tryPublishResult env c sequence id answer now = some c') :
    c.ringFree = true ∧ ∃ slot : ResultSlot, slot.committed = c.resultWrite + 1 ∧
      slot.commandSequence = sequence ∧ slot.commandId = id ∧
      c' = { c with
        results := Function.update c.results (resultIndex c.resultWrite) slot
        resultWrite := c.resultWrite + 1 } := by
  rw [tryPublishResult] at h
  split at h
  · cases h
  rename_i hcounters
  split at h
  · cases h
  rename_i hfree
  split at h
  · cases h
  cases h
  refine ⟨?_, _, rfl, rfl, rfl, rfl⟩
  rw [Channel.ringFree, decide_eq_true_eq]
  omega

variable {env wire now} in
/-- A round that goes on has consumed one command. -/
theorem takeCommand_again (h : takeCommand env wire now c = .again c') :
    c.commandRead < c.commandWrite ∧ ∃ slot answer,
      answerAtOnce env now c slot answer = .again c' := by
  rw [takeCommand] at h
  split at h
  · cases h
  rename_i hcounters
  split at h
  · cases h
  rename_i hmore
  refine ⟨by omega, ?_⟩
  dsimp only at h
  split at h
  · cases h
  · split at h
    · exact ⟨_, handOver_again h⟩
    · exact ⟨_, _, h⟩

variable {env wire now} in
theorem takeCommand_consumes (h : takeCommand env wire now c = .again c') :
    c.commandRead < c.commandWrite ∧ c'.commandWrite = c.commandWrite ∧
      c'.commandRead = c.commandRead + 1 := by
  obtain ⟨hmore, slot, answer, hanswer⟩ := takeCommand_again h
  obtain ⟨c₁, hc₁, rfl⟩ := answerAtOnce_again hanswer
  obtain ⟨-, slot', -, -, -, rfl⟩ := tryPublishResult_eq_some hc₁
  exact ⟨hmore, rfl, rfl⟩

/-- The loop of `DrainCommands`. -/
def takeCommands (c : Channel) : Code × Channel :=
  match _h : takeCommand env wire now c with
  | .done code c' => (code, c')
  | .again c' => takeCommands c'
termination_by (c.commandWrite - c.commandRead).toNat
decreasing_by
  obtain ⟨hmore, hwrite, hread⟩ := takeCommand_consumes _h
  omega

/-- `RefreshCombatCapability`: the retired receivers are cleared, the others follow their
services. -/
def refreshCombatCapability (c : Channel) : Channel :=
  let raise (flags : UInt32) (bits : UInt32) (ready : Bool) : UInt32 :=
    if ready then flags ||| bits else flags &&& ~~~bits
  let flags := c.header.capabilityFlags &&& ~~~(0x78 : UInt32)
  let flags := raise flags 0x380 env.combatReady
  let flags := raise flags 0x800 (env.combatReady && env.groupChatReady)
  let flags := raise flags 0x400 (env.combatReady && env.trackingReady)
  { c with header := { c.header with capabilityFlags := flags } }

/-- The next part of a drain, unless the part before it returns. -/
def next (before : Code × Channel) (after : Channel → Code × Channel) : Code × Channel :=
  if before.1 = .success then after before.2 else before

/-- `DrainCommands` of the storage of the runtime. -/
def drainCommands (c : Channel) : Code × Channel :=
  if ¬ c.header.valid then (.invalidData, c)
  else
    next (finishCombatPending env wire now (refreshCombatCapability env c)) fun c =>
    next (finishPending env now c) fun c =>
    next (finishVendorPending env now c) fun c =>
    next (finishCityWindowPending env now c) fun c =>
    next (finishVendorNavigationPending env now c) fun c =>
    next (finishVendorMenuPending env now c) fun c =>
    next (finishCondemnPending env now c) fun c =>
    next (finishGuardUpgradePending env now c) fun c =>
    next (finishGuardFundingPending env now c) fun c =>
    if ¬ c.hostLeaseActive env now then (.noData, c) else takeCommands env wire now c

end Draining

end ShadowbaneLab.CommandChannel
