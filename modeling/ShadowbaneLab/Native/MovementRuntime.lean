/-
# Movement commands of the runtime

`Runtime::Commands` of `movement_runtime.cpp`: what the owning thread makes of one queued command,
with the journal of the acquisitions.  `Controls`, the native adapter and the clock are services;
they may answer in any way, and the clock stands still between two of their calls.
-/
import ShadowbaneLab.Foundation.Dict
import ShadowbaneLab.Native.MovementWire

namespace ShadowbaneLab.Native.Movement

open Foundation
open MovementWire (Verb)

/-! ## Commands and receipts -/

/-- A shared `CommandLease`: where it is, and the host that it is of. -/
structure Lease where
  address : ℕ
  host : Bytes
deriving DecidableEq

/-- `QueuedCommand`, as its producer fills it in. -/
structure QueuedCommand where
  verb : Verb
  command : Bytes
  lease : Option Lease
  deadline : ℕ
deriving DecidableEq

/-- `wire::Receipt`. -/
structure Receipt where
  grant : Grant
  request : Bytes
  host : Bytes
  window : ℕ
  revision : ℕ
  settings : Settings Floating
  outcome : Result
  flags : ℕ

/-- The fields of a command that are read. -/
def hostOf (payload : Bytes) : Bytes := payload.take 16

def windowOf (payload : Bytes) : ℕ := ofLittleEndian ((payload.drop 16).take 8)

def expectedOf (payload : Bytes) : Bytes := (payload.drop 24).take 216

def requestOf (payload : Bytes) : Bytes := (payload.drop 240).take 16

def destinationOf (payload : Bytes) : Bytes := (payload.drop 256).take 12

def settingsBytesOf (payload : Bytes) : Bytes := (payload.drop 268).take 104

def revisionOf (payload : Bytes) : ℕ := ofLittleEndian ((payload.drop 372).take 8)

/-- `expected.generation` of a command as it stands in its bytes. -/
def generationOf (payload : Bytes) : ℕ := ofLittleEndian ((expectedOf payload).take 8)

/-! ## The journal of the acquisitions -/

/-- `Acquisition`. -/
structure Acquisition where
  verb : Verb
  request : Bytes
  receipt : Receipt

/-- `acquisitions` and `retired_acquisition_generation`. -/
structure Journal where
  acquisitions : Dict Bytes Acquisition := .empty
  retired : ℕ := 0

/-- `acquisition_capacity`. -/
def acquisitionCapacity : ℕ := 128

/-- The entries of a `std::map` in the order of their keys, which are as long as each other. -/
def Journal.ordered (j : Journal) : List (Bytes × Acquisition) :=
  sortBy (fun entry => ofLittleEndian entry.1.reverse) j.acquisitions.items

/-- The first entry of the least generation. -/
def oldest : List (Bytes × Acquisition) → Option (Bytes × Acquisition)
  | [] => none
  | first :: entries => some (entries.foldl (fun oldest entry =>
      if generationOf entry.2.request < generationOf oldest.2.request then entry else oldest) first)

/-- `RetireAcquisitionReceipt`. -/
def Journal.retire (j : Journal) : Journal :=
  if j.acquisitions.items.length < acquisitionCapacity then j
  else
    match oldest j.ordered with
    | none => j
    | some (request, acquisition) =>
      { acquisitions := j.acquisitions.erase request
        retired := max j.retired (generationOf acquisition.request) }

/-! ## The runtime -/

/-- What `Commands` calls and reads; `σ` is everything that these calls depend on and change. -/
structure Services (σ : Type) where
  clock : σ → ℕ
  leaseCurrent : Lease → ℕ → σ → Bool
  window : σ → ℕ
  epoch : σ → UInt64
  lifetimeCurrent : σ → Bool
  current : σ → Grant
  coordinateOnly : σ → Bool
  cleanupPending : σ → Bool
  ready : σ → Bool
  cameraReady : σ → Bool
  nativeAvailable : σ → Bool
  bindingsAvailable : σ → Bool
  interrupted : σ → Bool
  finished : σ → Bool
  preparationBlocks : σ → Bool
  allocates : σ → Bool
  execute : Option Lease → ℕ → σ → σ
  emergencyStop : Grant → StopReason → σ → σ
  stop : Grant → σ → Result × σ
  pause : Grant → σ → Result × σ
  pauseOwner : Grant → σ → Result × σ
  destination : Grant → Bytes → σ → Result × σ
  acquire : UInt64 → Token → Bool → σ → (Result × Grant) × σ
  configure : Settings Floating → σ → Result × σ
  configureInput : Settings Floating → σ → Bool × σ
  shutdown : σ → σ

/-- The journal, with a log of the acquisitions that were journaled and of the commands that
`AcquireAutomation` was called for; no code reads the log. -/
structure Books where
  journal : Journal := {}
  log : List Acquisition := []
  calls : List Bytes := []

/-- The fields of a `Runtime` that `Commands` reads or writes. -/
structure Runtime (σ : Type) where
  world : σ
  settings : Settings Floating
  revision : ℕ := 1
  automationLease : Option Lease := none
  automationGrant : Grant := {}
  coordinatePending : Bool := false
  coordinatePredecessor : Grant := {}
  coordinateDestination : Option Bytes := none
  coordinateReceipt : Option (Bytes × Receipt) := none
  books : Books := {}

/-- A command is handled to a result, or is answered with a receipt on the way. -/
abbrev Handling (σ : Type) : Type → Type := EStateM Receipt (Runtime σ)

section Handling

variable {σ α : Type} (services : Services σ) (phase : Bool) (command : QueuedCommand)

/-- A call of a service. -/
def call (f : σ → α × σ) : Handling σ α :=
  modifyGet fun r => ((f r.world).1, { r with world := (f r.world).2 })

/-- `Receipt`. -/
def Runtime.receipt (r : Runtime σ) (result : Result) : Receipt where
  grant := services.current r.world
  request := requestOf command.command
  host := hostOf command.command
  window := services.window r.world
  revision := r.revision
  settings := r.settings
  outcome := result
  flags := (if services.nativeAvailable r.world then 1 else 0) +
    (if services.ready r.world then 2 else 0) + (if services.cameraReady r.world then 4 else 0) +
    (if services.finished r.world then 8 else 0) +
    (if services.bindingsAvailable r.world ∧ services.cleanupPending r.world then 64 else 0)

/-- A lease that is held and current. -/
def Runtime.current (r : Runtime σ) (lease : Option Lease) : Bool :=
  lease.any fun lease => services.leaseCurrent lease (services.clock r.world) r.world

/-- `live`: the producer is there and the deadline is not over. -/
def Runtime.live (r : Runtime σ) : Bool :=
  r.current services command.lease && services.clock r.world ≤ command.deadline

/-- `exact`: the grant that a command expects, of the window and scene that there are. -/
def Runtime.exact (r : Runtime σ) : Option Grant :=
  (Wire.decodeGrant (expectedOf command.command)).filter fun expected =>
    phase && windowOf command.command = services.window r.world &&
      expected.scene = services.epoch r.world && services.lifetimeCurrent r.world

/-- `same_producer`. -/
def Runtime.sameProducer (r : Runtime σ) : Bool :=
  r.live services command && phase && services.coordinateOnly r.world &&
    r.automationGrant = services.current r.world && r.current services r.automationLease &&
    windowOf command.command = services.window r.world &&
    r.automationLease.any (·.host = hostOf command.command) && services.lifetimeCurrent r.world

/-- `old_coordinate`. -/
def Runtime.oldCoordinate (r : Runtime σ) : Bool :=
  r.sameProducer services phase command && r.coordinatePending &&
    Wire.decodeGrant (expectedOf command.command) = some r.coordinatePredecessor

/-- `accepted_coordinate`. -/
def Runtime.acceptedCoordinate (r : Runtime σ) : Bool :=
  r.sameProducer services phase command &&
    r.coordinateReceipt.any fun accepted =>
      (Wire.decodeGrant (expectedOf accepted.1)).isSome &&
        Wire.decodeGrant (expectedOf command.command) = Wire.decodeGrant (expectedOf accepted.1)

/-- The branch of `continue_parent`. -/
def continueParent : Handling σ Result := do
  let r ← get
  match r.coordinateReceipt.filter fun accepted =>
      requestOf accepted.1 = requestOf command.command with
  | some accepted =>
    if accepted.1 = command.command then throw accepted.2 else pure .invalid
  | none =>
    if r.oldCoordinate services phase command then do
      modify fun r => { r with
        coordinateDestination :=
          if revisionOf command.command = 0 then none else r.coordinateDestination }
      let result ← call (services.pause r.automationGrant)
      let r ← get
      if result = .accepted ∧ ¬ services.cleanupPending r.world then do
        let result ←
          if ¬ r.current services r.automationLease ∨
              r.automationGrant ≠ services.current r.world ∨
              ¬ services.lifetimeCurrent r.world ∨ services.interrupted r.world then
            pure Result.inhibited
          else
            match r.coordinateDestination.filter fun _ => revisionOf command.command ≠ 0 with
            | some destination =>
              if services.preparationBlocks r.world then pure Result.inhibited
              else call (services.destination r.automationGrant destination)
            | none => pure result
        modify fun r =>
          if result = .accepted then { r with
            coordinatePending := false
            coordinateReceipt := some (command.command, r.receipt services command result) }
          else r
        pure result
      else pure result
    else pure .stale

/-- The branch that cancels a coordinate edge. -/
def cancelCoordinate : Handling σ Result := do
  modify fun r => { r with coordinateDestination := none }
  let r ← get
  if command.verb = .stop then call (services.stop r.automationGrant)
  else call (services.pause r.automationGrant)

/-- A call of `AcquireAutomation` is logged. -/
def Runtime.counted (r : Runtime σ) : Runtime σ :=
  { r with books := { r.books with calls := r.books.calls ++ [command.command] } }

/-- `AcquireAutomation` is called, and its grant is taken over. -/
def acquireAutomation (expected : Grant) : Handling σ Result := do
  let r ← get
  if services.preparationBlocks r.world then pure .inhibited
  else
    match Wire.requestedToken command.command with
    | none => pure .invalid
    | some token => do
      modify fun r => r.counted command
      let answer ←
        call (services.acquire expected.generation token (command.verb = .acquireCoordinate))
      modify fun r =>
        if answer.1 = .accepted then { r with
          automationLease := command.lease
          automationGrant := answer.2
          coordinatePending := false
          coordinateDestination := none
          coordinateReceipt := none }
        else r
      pure answer.1

/-- The entry of a command. -/
def Runtime.acquisition (r : Runtime σ) (result : Result) : Acquisition :=
  ⟨command.verb, command.command, r.receipt services command result⟩

/-- An entry of the journal is written, or written again. -/
def Books.record (books : Books) (request : Bytes) (acquisition : Acquisition) : Books :=
  { books with journal := { books.journal with
      acquisitions := books.journal.acquisitions.set request acquisition } }

/-- Room is made in the journal. -/
def Runtime.retired (r : Runtime σ) : Runtime σ :=
  { r with books := { r.books with journal := r.books.journal.retire } }

/-- The acquisition is journaled before anything is stopped or granted. -/
def Runtime.announced (r : Runtime σ) : Runtime σ :=
  { r with
    books := r.books.record (requestOf command.command)
      (r.acquisition services command .unavailable) }

/-- The acquisition is journaled with its result. -/
def Runtime.concluded (r : Runtime σ) (result : Result) : Runtime σ :=
  let acquisition := r.acquisition services command result
  let books := r.books.record (requestOf command.command) acquisition
  { r with books := { books with log := books.log ++ [acquisition] } }

/-- The branch of `acquire` and `acquire_coordinate`. -/
def acquire (expected : Grant) : Handling σ Result := do
  let r ← get
  match r.books.journal.acquisitions.get? (requestOf command.command) with
  | some prior =>
    if prior.verb = command.verb ∧ prior.request = command.command then throw prior.receipt
    else pure .invalid
  | none =>
    if expected = services.current r.world ∧
        r.books.journal.retired < expected.generation.toNat then do
      modify Runtime.retired
      let r ← get
      if expected.generation.toNat ≤ r.books.journal.retired then
        throw (r.receipt services command .stale)
      else if ¬ services.allocates r.world then pure .unavailable
      else do
        modify fun r => r.announced services command
        let result ← acquireAutomation services command expected
        modify fun r => r.concluded services command result
        pure result
    else pure .stale

/-- The branch of the commands that need the current grant. -/
def operate (expected : Grant) : Handling σ Result := do
  let r ← get
  let sameHost := r.automationLease.any (·.host = hostOf command.command)
  match command.verb with
  | .stop | .pause =>
    if r.automationLease = command.lease ∨ sameHost then do
      modify fun r => { r with coordinateDestination := none }
      if command.verb = .pause then call (services.pauseOwner expected)
      else call (services.stop expected)
    else pure .stale
  | .configure =>
    if revisionOf command.command ≠ r.revision then pure .stale
    else
      match Wire.decodeSettings (settingsBytesOf command.command) with
      | none => pure .invalid
      | some next =>
        if r.revision = 2 ^ 64 - 1 then pure .invalid
        else do
          let result ← call (services.configure next)
          if result = .accepted ∨ result = .stopFailed then do
            let taken ← call (services.configureInput next)
            if taken then do
              modify fun r => { r with settings := next, revision := r.revision + 1 }
              pure result
            else do
              modify fun r => { r with world := services.shutdown r.world }
              pure .unavailable
          else pure result
  | .destination =>
    if sameHost then
      if r.coordinatePending ∨ services.preparationBlocks r.world then pure .inhibited
      else do
        let result ← call (services.destination expected (destinationOf command.command))
        modify fun r =>
          if result = .accepted ∧ services.coordinateOnly r.world then
            { r with coordinateDestination := some (destinationOf command.command) }
          else r
        pure result
    else pure .stale
  | _ => pure .stale

/-- What `Commands` makes of a command that it took. -/
def handle : Handling σ Result := do
  let r ← get
  if r.sameProducer services phase command ∧ command.verb = .continueParent then
    continueParent services phase command
  else if (r.oldCoordinate services phase command ∨ r.acceptedCoordinate services phase command) ∧
      command.verb ∈ [.stop, .pause] then cancelCoordinate services command
  else
    match (r.exact services phase command).filter fun _ => r.live services command with
    | none => pure .stale
    | some expected =>
      if command.verb.acquires then acquire services command expected
      else if expected = services.current r.world then operate services command expected
      else pure .stale

/-- What `Commands` does before it takes a command: a lease that is revoked or over is given up. -/
def Runtime.relinquished (r : Runtime σ) : Runtime σ :=
  let r := if r.automationLease.isSome ∧ r.automationGrant ≠ services.current r.world then
      { r with
        automationLease := none
        coordinatePending := false
        coordinateDestination := none }
    else r
  if r.automationLease.isSome ∧ ¬ r.current services r.automationLease then
    { r with
      world := services.emergencyStop r.automationGrant .stalled r.world
      automationLease := none }
  else r

/-- The runtime in which a command that was taken is handled. -/
def Runtime.taken (r : Runtime σ) : Runtime σ :=
  { r.relinquished services with
    world := services.execute command.lease command.deadline (r.relinquished services).world }

/-- `Commands` with a command to take: the receipt that completes it, and the runtime after. -/
def Runtime.commands (r : Runtime σ) : Receipt × Runtime σ :=
  let (receipt, r) :=
    match (handle services phase command).run (r.taken services command) with
    | .ok result r => (r.receipt services command result, r)
    | .error receipt r => (receipt, r)
  (receipt, { r with world := services.execute none 0 r.world })

/-- What happens to a runtime. -/
inductive Runtime.Event (σ : Type)
  | elsewhere (next : Runtime σ)
  | idle
  | command (phase : Bool) (command : QueuedCommand)

/-- Everything but the journal may change outside of `Commands`. -/
def Runtime.after (r : Runtime σ) : Runtime.Event σ → Runtime σ
  | .elsewhere next => { next with books := r.books }
  | .idle => r.relinquished services
  | .command phase command => (r.commands services phase command).2

/-- The runtime after some events, from one with an empty journal. -/
def Runtime.reached (initial : Runtime σ) (events : List (Runtime.Event σ)) : Runtime σ :=
  events.foldl (fun r event => r.after services event) { initial with books := {} }

end Handling

end ShadowbaneLab.Native.Movement
