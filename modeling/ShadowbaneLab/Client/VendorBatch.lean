/-
# Filling the slots of a vendor

`src/shadowbane_lab/client_extension/vendor_batch.py` and `RandomRecipeSpec` of `vendor_recipe.py`:
a batch of creations, each written to its journal before it is sent.
-/
import Mathlib.Data.Finset.Sort
import ShadowbaneLab.Client.VendorWire
import ShadowbaneLab.Foundation.Traced

namespace ShadowbaneLab.VendorBatch

open Foundation VendorWire

/-- An exception: the name of its type and its text. -/
structure Raised where
  name : String
  text : String
deriving DecidableEq

/-- `str(exc) or type(exc).__name__`. -/
def Raised.reason (e : Raised) : String := if e.text = "" then e.name else e.text

/-- `VendorBatchStopped`. -/
def stopped (text : String) : Raised := ⟨"VendorBatchStopped", text⟩

/-- What raises `ValueError`. -/
def valued {α : Type} : Except String α → Except Raised α
  | .ok a => .ok a
  | .error text => .error ⟨"ValueError", text⟩

/-! ## Recipes -/

structure RandomRecipeSpec where
  template : Int
  table : Int
  /-- `__post_init__`. -/
  nonzero : (0 < template ∧ template < 2 ^ 32) ∧ 0 < table ∧ table < 2 ^ 32
deriving DecidableEq

/-- `matches`, which encodes the snapshot first. -/
def RandomRecipeSpec.accepts (recipe : RandomRecipeSpec) (s : Snapshot) : Except String Bool := do
  let _ ← s.encode
  return s.recipe ≠ 0 ∧ s.itemTemplate = recipe.template ∧ s.table = recipe.table ∧ s.mode = 1 ∧
    s.itemPrefix = randomSentinel ∧ s.itemSuffix = randomSentinel ∧ s.quantity = 1 ∧ s.multiple = 0

/-! ## Records -/

inductive RequestState
  | prepared
  | submitted
  | observed
  | rejected
  | uncertain
deriving DecidableEq

structure Request where
  requestKey : String
  state : RequestState
  /-- In hexadecimal. -/
  expectedSnapshot : List Char
  expectedItemCount : Option ℕ := none
  itemIds : Option (List Int) := none
  itemId : Option Int := none
deriving DecidableEq

/-- The items that are attributed to a request. -/
def Request.attributed (request : Request) : List Int :=
  request.itemIds.getD request.itemId.toList

inductive State
  | running
  | cancelled
  | cancelledPending
  | complete
  | uncertain
  | stopped
deriving DecidableEq

/-- The journal, without the digests of its recipe and preparation. -/
structure Record where
  schemaVersion : ℕ
  batchId : String
  state : State := .running
  vendorId : Int
  window : Int
  processId : Int
  processCreation : Int
  /-- In hexadecimal. -/
  initialSnapshot : List Char
  plannedRolls : Int
  capacity : ℕ
  capacityHistory : List ℕ
  requests : List Request := []
  items : List Int := []
  recipeSpec : Option RandomRecipeSpec := none
  preparationJournal : Option String := none
  reason : Option String := none
deriving DecidableEq, Inhabited

namespace Record

/-- Changes the request that was appended last. -/
def setRequest (f : Request → Request) (record : Record) : Record :=
  { record with requests := record.requests.dropLast ++ (record.requests.getLast?.map f).toList }

/-- The state in which an exception leaves a batch. -/
def stateRaised (record : Record) : State :=
  match record.requests.getLast? with
  | none => .stopped
  | some request =>
    if request.state = .prepared ∨ request.state = .submitted ∨ request.state = .uncertain then
      .uncertain
    else .stopped

end Record

/-! ## The environment -/

/-- How a record was published: a publication that raises may have replaced the file or not. -/
inductive Publication
  | published
  | raised (e : Raised) (replaced : Bool)

/-- The calls of a batch with their answers. -/
inductive Event (Time : Type)
  | locked (answer : Except Raised Unit)
  | inspected (answer : Except Raised Receipt)
  | validated (answer : Except Raised String)
  | drew (key : String)
  | published (record : Record) (publication : Publication)
  | admitted (answer : Except Raised Unit)
  | cancelled (answer : Except Raised Bool)
  | clock (answer : Except Raised Time)
  | slept (answer : Except Raised Unit)
  | created (expected : Snapshot) (requestKey : String) (answer : Except Raised Receipt)

/-- What the session, the callbacks, the lock and the file system answer, which may depend on
everything before, and the arithmetic of the clock. -/
structure World (Time : Type) where
  lock : List (Event Time) → Except Raised Unit
  /-- `inspect_random` with a recipe, `inspect` without. -/
  inspect : (random : Bool) → List (Event Time) → Except Raised Receipt
  /-- `validate_recipe_preparation` and the decoded journal of the preparation. -/
  validate : RandomRecipeSpec → Receipt → List (Event Time) → Except Raised String
  /-- `str(uuid.uuid4())`. -/
  uuid4 : List (Event Time) → String
  publish : Record → List (Event Time) → Publication
  beforeAction : List (Event Time) → Except Raised Unit
  cancelled : List (Event Time) → Except Raised Bool
  clock : List (Event Time) → Except Raised Time
  sleeper : List (Event Time) → Except Raised Unit
  /-- `create_random` with a recipe, `create` without. -/
  create : (random : Bool) → Snapshot → String → List (Event Time) → Except Raised Receipt
  plus : Time → Time → Time
  /-- `now >= deadline`. -/
  reached : (now deadline : Time) → Bool
  /-- `0 < timeout <= 60`. -/
  allowed : Time → Bool

/-- The arguments of `fill_available_slots`. -/
structure Arguments (Time : Type) where
  processId : Int
  processCreation : Int
  vendorId : Int
  expectedOwner : Option Snapshot := none
  recipe : Option RandomRecipeSpec := none
  /-- `preparation_raw` is given. -/
  prepared : Bool := false
  acceptanceTimeout : Time

/-! ## The batch -/

/-- `_owner`. -/
def owner (s : Snapshot) : List Int :=
  [s.scene, s.root, s.manager, s.menu, s.hireling, s.building, s.vendor]

/-- `_items`. -/
def itemsOf (s : Snapshot) : Finset Int := ((s.slots.map Slot.item).filter (· ≠ 0)).toFinset

/-- What a batch knows from its first receipt. -/
structure Context where
  recipe : Option RandomRecipeSpec
  first : Receipt

namespace Context

variable (c : Context)

def initial : Snapshot := c.first.snapshot

/-- `baseline`. -/
def baseline : Finset Int := itemsOf c.initial

/-- `recipe.matches(s) if recipe else s.random_scepter`. -/
def accepts (s : Snapshot) : Except Raised Bool :=
  match c.recipe with
  | some recipe => valued (recipe.accepts s)
  | none => .ok s.randomScepter

/-- The condition under which `require_current` stops. -/
def changed (record : Record) (receipt : Receipt) (isPending : Bool) : Except Raised Bool :=
  let s := receipt.snapshot
  if receipt.outcome ≠ .observed ∨ receipt.window ≠ c.first.window ∨ owner s ≠ owner c.initial ∨
      s.slots.length < record.capacity ∨ hasFlag receipt.flags unresolved then .ok true
  else if isPending then .ok false
  else do
    let accepted ← c.accepts s
    return ¬ accepted ∨ s.multiple ≠ c.initial.multiple ∨
      (c.recipe.isSome ∧ s.recipe ≠ c.initial.recipe) ∨ ¬ hasFlag receipt.flags ready ∨
      hasFlag receipt.flags inFlight

end Context

variable {Time : Type}

/-- What a batch runs in: its record, and the trace of its calls. -/
abbrev Batch (Time : Type) : Type := Traced Record (Event Time)

abbrev BatchM (Time : Type) : Type → Type := EStateM Raised (Batch Time)

section Calls

variable (world : World Time)

/-- `save`. -/
def save : BatchM Time Unit := do
  let s ← get
  let publication := world.publish s.state s.trace
  set { s with trace := s.trace ++ [Event.published s.state publication] }
  match publication with
  | .published => return ⟨⟩
  | .raised e _ => throw e

/-- `str(uuid.uuid4())`. -/
def uuid4 : BatchM Time String := do
  let s ← get
  let key := world.uuid4 s.trace
  set { s with trace := s.trace ++ [Event.drew key] }
  return key

end Calls

/-- What is raised ends the computation. -/
def lift {α : Type} : Except Raised α → BatchM Time α
  | .ok a => return a
  | .error e => throw e

/-- `if condition: raise VendorBatchStopped(text)`. -/
def stopIf (condition : Bool) (text : String) : BatchM Time Unit :=
  if condition then throw (stopped text) else return ⟨⟩

section Loops

variable (world : World Time) (c : Context)

/-- `inspect()`. -/
def inspect : BatchM Time Receipt := Traced.ask (world.inspect c.recipe.isSome) .inspected

/-- `create(expected, request_key)`. -/
def create (expected : Snapshot) (requestKey : String) : BatchM Time Receipt :=
  Traced.ask (world.create c.recipe.isSome expected requestKey) (.created expected requestKey)

/-- `require_current`. -/
def requireCurrent (receipt : Receipt) (isPending : Bool) : BatchM Time Snapshot := do
  let record := (← get).state
  let changed ← lift (c.changed record receipt isPending)
  stopIf changed "vendor, session, recipe, or operation authority changed"
  let s := receipt.snapshot
  if record.capacity < s.slots.length then
    Traced.update fun record => { record with
      capacity := s.slots.length
      capacityHistory := record.capacityHistory ++ [s.slots.length]
      plannedRolls := s.slots.length - (c.baseline.card : Int) }
    save world
    return s
  else return s

/-- What a request waits for. -/
structure Awaited (Time : Type) where
  requestKey : String
  expectedItems : Finset Int
  expectedCount : ℕ
  deadline : Time

/-- How a loop ends: the record is returned, or the loop is left with a last snapshot. -/
inductive Exit
  | returned
  | broken (last : Snapshot)

/-- A receipt that names the request does not show exactly its items. -/
def mismatched (record : Record) (awaited : Awaited Time) (receipt : Receipt)
    (newItems : Finset Int) : Bool :=
  newItems.card ≠ awaited.expectedCount ∨ receipt.transitionItem ∉ newItems ∨
    (receipt.snapshot.freeSlots : Int) ≠
      record.plannedRolls - record.items.length - awaited.expectedCount ∨
    hasFlag receipt.flags inFlight ∨ hasFlag receipt.flags unresolved

/-- The record when a request was observed. -/
def Record.observe (record : Record) (receipt : Receipt) (newItems : Finset Int) : Record :=
  let items := newItems.sort (· ≤ ·)
  { record.setRequest fun request =>
      if c.initial.multiple ≠ 0 then { request with state := .observed, itemIds := some items }
      else { request with state := .observed, itemId := some receipt.transitionItem } with
    items := record.items ++ items }

/-- The loop that waits for a submitted request; `none` when it still waits after `fuel` turns. -/
def await (awaited : Awaited Time) : ℕ → Finset Int → BatchM Time (Option Exit)
  | 0, _ => return none
  | fuel + 1, seenItems => do
    if ← Traced.ask world.cancelled .cancelled then
      Traced.update fun record => { record with state := .cancelledPending }
      save world
      return some .returned
    else
      let now ← Traced.ask world.clock .clock
      if world.reached now awaited.deadline then
        Traced.update (Record.setRequest fun request => { request with state := .uncertain })
        throw (stopped "Create timed out; outcome is uncertain")
      else
        let receipt ← inspect world c
        let observed ← requireCurrent world c receipt true
        let observedItems := itemsOf observed
        let newItems := observedItems \ awaited.expectedItems
        stopIf (¬ seenItems ⊆ observedItems ∨ awaited.expectedCount < newItems.card)
          "ambiguous production transition"
        if receipt.transitionRequest = some awaited.requestKey then
          let record := (← get).state
          stopIf (mismatched record awaited receipt newItems) "ambiguous production transition"
          Traced.update fun record => record.observe c receipt newItems
          save world
          return some (.broken observed)
        else
          stopIf (¬ hasFlag receipt.flags inFlight) "native request ownership was lost"
          Traced.ask world.sleeper .slept
          await awaited fuel observedItems

/-- The receipt of a creation is not that of a submission. -/
def refused (fresh : Snapshot) (requestKey : String) (result : Receipt) : Bool :=
  result.requestKey ≠ requestKey ∨ result.window ≠ c.first.window ∨ result.outcome ≠ .submitted ∨
    result.snapshot ≠ fresh ∨ ¬ hasFlag result.flags inFlight ∨ hasFlag result.flags unresolved

/-- The state of a request whose creation was refused. -/
def refusedState (outcome : Outcome) : RequestState :=
  if outcome ∈ [.stale, .invalid, .unavailable, .pending, .exhausted] then .rejected
  else .uncertain

/-- The part of the main loop that submits a request, and what is then awaited. -/
def submit (acceptanceTimeout : Time) (fresh : Snapshot) (expectedItems : Finset Int) :
    BatchM Time (Awaited Time) := do
  let requestKey ← uuid4 world
  let encoded ← lift (valued fresh.encode)
  let expectedCount := if fresh.multiple ≠ 0 then fresh.freeSlots else 1
  let request : Request := {
    requestKey := requestKey
    state := .prepared
    expectedSnapshot := hexText encoded
    expectedItemCount := if c.initial.multiple ≠ 0 then some expectedCount else none }
  Traced.update fun record => { record with requests := record.requests ++ [request] }
  save world
  let result ← create world c fresh requestKey
  if refused c fresh requestKey result then
    Traced.update (Record.setRequest fun request =>
      { request with state := refusedState result.outcome })
    throw (stopped ("native Create outcome: " ++ result.outcome.lowerName))
  else
    Traced.update (Record.setRequest fun request => { request with state := .submitted })
    save world
    let now ← Traced.ask world.clock .clock
    return ⟨requestKey, expectedItems, expectedCount, world.plus now acceptanceTimeout⟩

/-- The main loop; `none` when it still runs after `fuel` turns. -/
def fill (acceptanceTimeout : Time) : ℕ → BatchM Time (Option Exit)
  | 0 => return none
  | fuel + 1 => do
    Traced.ask world.beforeAction .admitted
    if ← Traced.ask world.cancelled .cancelled then
      Traced.update fun record => { record with state := .cancelled }
      save world
      return some .returned
    else
      let receipt ← inspect world c
      let fresh ← requireCurrent world c receipt false
      let record := (← get).state
      let expectedItems := c.baseline ∪ record.items.toFinset
      stopIf (itemsOf fresh ≠ expectedItems ∨
          (fresh.freeSlots : Int) ≠ record.plannedRolls - record.items.length)
        "production changed outside this batch"
      if fresh.freeSlots = 0 then return some (.broken fresh)
      else
        let awaited ← submit world c acceptanceTimeout fresh expectedItems
        match ← await world c awaited fuel expectedItems with
        | none => return none
        | some .returned => return some .returned
        | some (.broken observed) =>
          -- multiple creation may close its recipe
          if c.initial.multiple ≠ 0 ∧ observed.freeSlots = 0 then return some (.broken observed)
          else fill acceptanceTimeout fuel

/-- The body of the `try` statement. -/
def run (acceptanceTimeout : Time) (fuel : ℕ) : BatchM Time (Option Record) := do
  match ← fill world c acceptanceTimeout fuel with
  | none => return none
  | some .returned => return some (← get).state
  | some (.broken _) =>
    Traced.update fun record => { record with state := .complete }
    save world
    return some (← get).state

/-- The `except` clause. -/
def recover (e : Raised) : BatchM Time (Option Record) := do
  Traced.update fun record => { record with
    state := record.stateRaised
    reason := some e.reason }
  save world
  throw e

end Loops

section Fill

variable (world : World Time) (args : Arguments Time)

/-- The first receipt is not that of the vendor, ready with its random recipe. -/
def unready (first : Receipt) : Except Raised Bool :=
  if first.outcome ≠ .observed ∨ ¬ hasFlag first.flags ready ∨ hasFlag first.flags inFlight ∨
      hasFlag first.flags unresolved ∨ first.snapshot.vendor ≠ args.vendorId then .ok true
  else return ¬ (← Context.accepts ⟨args.recipe, first⟩ first.snapshot)

/-- The owner or the production differs from the expected one. -/
def changedOwner (initial : Snapshot) : Bool :=
  match args.expectedOwner with
  | some expected => owner initial ≠ owner expected ∨ itemsOf initial ≠ itemsOf expected
  | none => false

/-- The record of a new batch. -/
def newRecord (first : Receipt) (batchId : String) (encoded : Bytes)
    (preparation : Option String) : Record where
  schemaVersion := if args.recipe.isSome then 3 else if first.snapshot.multiple ≠ 0 then 2 else 1
  batchId := batchId
  vendorId := args.vendorId
  window := first.window
  processId := args.processId
  processCreation := args.processCreation
  initialSnapshot := hexText encoded
  plannedRolls := first.snapshot.freeSlots
  capacity := first.snapshot.slots.length
  capacityHistory := [first.snapshot.slots.length]
  recipeSpec := args.recipe
  preparationJournal := preparation

/-- The checks of the arguments, with the text of their error. -/
def Arguments.refusal : Option String :=
  if ¬ (0 < args.vendorId ∧ args.vendorId < 2 ^ 32) then some "an exact vendor ID is required"
  else if ¬ world.allowed args.acceptanceTimeout then
    some "acceptance timeout must be between zero and 60 seconds"
  else if args.recipe.isSome ≠ args.prepared then
    some "random recipe and completed preparation evidence are required together"
  else none

/-- The preparation of a recipe is validated. -/
def validate (first : Receipt) : BatchM Time (Option String) :=
  match args.recipe with
  | some recipe => do
    let preparation ← Traced.ask (world.validate recipe first) .validated
    return some preparation
  | none => return none

/-- `fill_available_slots` on a journal that exists or not, for `fuel` turns of its loops. -/
def fillAvailableSlots (journalExists : Bool) (fuel : ℕ) : BatchM Time (Option Record) := do
  match args.refusal world with
  | some text => throw ⟨"ValueError", text⟩
  | none =>
    Traced.ask world.lock .locked
    stopIf journalExists "journal exists; inspect it without replaying requests"
    let first ← Traced.ask (world.inspect args.recipe.isSome) .inspected
    stopIf (← lift (unready args first)) "the requested vendor's random recipe is not ready"
    stopIf (changedOwner args first.snapshot)
      "vendor ownership or production changed before filling"
    let preparation ← validate world args first
    let batchId ← uuid4 world
    let encoded ← lift (valued first.snapshot.encode)
    Traced.update fun _ => newRecord args first batchId encoded preparation
    save world
    tryCatch (run world ⟨args.recipe, first⟩ args.acceptanceTimeout fuel) (recover world)

end Fill

end ShadowbaneLab.VendorBatch
