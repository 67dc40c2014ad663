/-
# The event channel

`event_channel.h` and `.cpp` publish the map destinations of a client into shared memory, and
`events.py` and `event_consumer.py` read and acknowledge them.  The two sides share the fields of
the storage, each of which is read and written at once.  Beside the memory a log is kept of what
they do; no code reads it.
-/
import Mathlib.Data.Fintype.Basic
import ShadowbaneLab.Foundation.Hex
import ShadowbaneLab.Foundation.Threads

namespace ShadowbaneLab.Channel

open Foundation

/-! ## The storage -/

/-- `kEventChannelCapacity`. -/
abbrev capacity : ℕ := 64

/-- The fields of `WorldMapDestinationSlot`, without the reserved bytes. -/
inductive Field
  | committed
  | kind
  | button
  | capturedAt
  | window
  | lt
  | lg
  | hash
  | screenX
  | screenY
  | clientX
  | clientY
deriving DecidableEq

/-- The fields of `EventChannelStorage`. -/
inductive Cell
  | magic
  | schemaVersion
  | headerSize
  | slotSize
  | capacity
  | processId
  | capabilities
  | creation
  | write
  | read
  | dropped
  | error
  | consumerProcess
  | heartbeat
  | slot (i : Fin Channel.capacity) (field : Field)
deriving DecidableEq

/-- What each field holds, the shorter ones with zeros above. -/
abbrev Memory : Type := Cell → UInt64

/-- `WorldMapDestination`; doubles are their bits, signed numbers their 32 bits. -/
structure Content where
  button : UInt32
  capturedAt : UInt64
  window : UInt64
  lt : UInt64
  lg : UInt64
  hash : UInt64
  screenX : UInt32
  screenY : UInt32
  clientX : UInt32
  clientY : UInt32
deriving DecidableEq

namespace Content

/-- What the fields of a slot hold for an event with a sequence number. -/
def field (content : Content) (sequence : UInt64) : Field → UInt64
  | .committed => sequence
  | .kind => 1
  | .button => content.button.toUInt64
  | .capturedAt => content.capturedAt
  | .window => content.window
  | .lt => content.lt
  | .lg => content.lg
  | .hash => content.hash
  | .screenX => content.screenX.toUInt64
  | .screenY => content.screenY.toUInt64
  | .clientX => content.clientX.toUInt64
  | .clientY => content.clientY.toUInt64

/-- The bits are of a finite double between zero and the largest unsigned 32-bit number. -/
def worldCoordinate (bits : UInt64) : Bool :=
  bits ≤ 0x41EFFFFFFFE00000 ∨ bits = 0x8000000000000000

/-- `EventIsValid`. -/
def valid (content : Content) : Bool :=
  (content.button = 1 ∨ content.button = 2) ∧ 0 < content.capturedAt ∧ 0 < content.window ∧
    worldCoordinate content.lt ∧ worldCoordinate content.lg

/-- The fields of a slot after `committed`, in the order in which they are written. -/
def fields : List Field :=
  [.kind, .button, .capturedAt, .window, .lt, .lg, .hash, .screenX, .screenY, .clientX, .clientY]

end Content

/-! ## Events and snapshots -/

/-- `ExtensionPointerButton`. -/
inductive Button
  | left
  | right
deriving DecidableEq

/-- `ExtensionWorldMapDestinationEvent`. -/
structure Event where
  sequence : ℕ
  processId : UInt64
  creation : UInt64
  capturedAt : UInt64
  window : UInt64
  button : Button
  lt : UInt64
  lg : UInt64
  snapshotToken : String
  screenX : ℤ
  screenY : ℤ
  clientX : ℤ
  clientY : ℤ
deriving DecidableEq

/-- `==` of two finite doubles: the two zeros are equal. -/
def sameDouble (x y : UInt64) : Bool :=
  x = y ∨ (x = 0 ∨ x = 0x8000000000000000) ∧ (y = 0 ∨ y = 0x8000000000000000)

/-- `==` of two events. -/
def Event.same (e e' : Event) : Bool :=
  sameDouble e.lt e'.lt ∧ sameDouble e.lg e'.lg ∧ e = { e' with lt := e.lt, lg := e.lg }

/-- `ExtensionEventChannelHeader`. -/
structure Header where
  processId : UInt64
  creation : UInt64
  write : ℕ
  read : ℕ
  dropped : UInt64
  error : UInt64
  capabilities : UInt64
  consumerProcess : UInt64
  heartbeat : UInt64
deriving DecidableEq

/-- `ExtensionEventChannelSnapshot`. -/
structure Snapshot where
  header : Header
  events : List Event

/-- `==` of two snapshots. -/
def Snapshot.same (x y : Snapshot) : Bool :=
  x.header = y.header ∧ x.events.length = y.events.length ∧
    ((x.events.zip y.events).all fun (e, e') => e.same e')

/-- The text of a 64-bit number with 16 hexadecimal digits. -/
def hexToken (n : UInt64) : String :=
  String.ofList ((List.range 16).reverse.map fun i => hexDigit (n.toNat / 16 ^ i % 16))

/-- The signed number with these 32 bits. -/
def signed32 (bits : UInt64) : ℤ :=
  if bits.toNat < 2 ^ 31 then bits.toNat else bits.toNat - 2 ^ 32

/-- An `ExtensionEventError` unless the condition holds. -/
def expect (condition : Bool) (text : String) : Except String Unit :=
  if condition then .ok () else .error text

/-- `ExtensionEventChannelHeader.__post_init__`. -/
def parseHeader (source : Memory) : Except String Header := do
  expect (source .schemaVersion = 1) "unsupported extension event channel version"
  expect (source .headerSize = 80) "extension event header size is unsupported"
  expect (source .slotSize = 80) "extension event slot size is unsupported"
  expect (source .capacity = 64) "extension event capacity is unsupported"
  expect (0 < source .processId) "process_id must be a bounded positive integer"
  expect (0 < source .creation) "process_creation_filetime_utc must be a bounded positive integer"
  expect (source .read ≤ source .write) "extension event sequences move backwards"
  expect ((source .write).toNat - (source .read).toNat ≤ (source .capacity).toNat)
    "extension event channel exceeds its bounded capacity"
  expect (source .capabilities &&& ~~~ (1 ||| 2) = 0)
    "extension event channel has unknown capabilities"
  expect (decide (source .consumerProcess = 0) = decide (source .heartbeat = 0))
    "extension event consumer lease is incomplete"
  return {
    processId := source .processId
    creation := source .creation
    write := (source .write).toNat
    read := (source .read).toNat
    dropped := source .dropped
    error := source .error
    capabilities := source .capabilities
    consumerProcess := source .consumerProcess
    heartbeat := source .heartbeat }

/-- `ExtensionPointerButtonCode`. -/
def buttonOf (code : UInt64) : Except String Button :=
  if code = 1 then .ok .left
  else if code = 2 then .ok .right
  else .error "extension pointer button is unknown"

/-- The event that the fields of a slot spell out. -/
def eventOf (header : Header) (sequence : ℕ) (button : Button) (slot : Field → UInt64) : Event where
  sequence := sequence
  processId := header.processId
  creation := header.creation
  capturedAt := slot .capturedAt
  window := slot .window
  button := button
  lt := slot .lt
  lg := slot .lg
  snapshotToken := hexToken (slot .hash)
  screenX := signed32 (slot .screenX)
  screenY := signed32 (slot .screenY)
  clientX := signed32 (slot .clientX)
  clientY := signed32 (slot .clientY)

/-- `_parse_world_map_slot`. -/
def parseSlot (header : Header) (sequence : ℕ) (slot : Field → UInt64) : Except String Event := do
  expect ((slot .committed).toNat = sequence) "extension event slot is not coherently committed"
  expect (slot .kind = 1) "extension event kind is unknown"
  let button ← buttonOf (slot .button)
  expect (0 < slot .capturedAt) "captured_at_filetime_utc must be a bounded positive integer"
  expect (header.creation ≤ slot .capturedAt) "extension event predates its process lifetime"
  expect (0 < slot .window) "window_handle must be a bounded positive integer"
  expect (Content.worldCoordinate (slot .lt)) "lt must be a finite non-negative world coordinate"
  expect (Content.worldCoordinate (slot .lg)) "lg must be a finite non-negative world coordinate"
  return eventOf header sequence button slot

/-- The slot of a sequence number. -/
def slotOf (sequence : ℕ) : Fin capacity := Fin.ofNat capacity (sequence - 1)

/-- The sequence numbers of the events that are pending. -/
def Header.pending (header : Header) : List ℕ :=
  (List.range (header.write - header.read)).map fun i => header.read + 1 + i

/-- `EXTENSION_EVENT_CHANNEL_MAGIC`, as a little-endian number. -/
def magic : UInt64 := 0x0031565458454257

/-- `parse_extension_event_channel`. -/
def parse (processId creation : UInt64) (source : Memory) : Except String Snapshot := do
  expect (source .magic = magic) "extension event channel magic is invalid"
  let header ← parseHeader source
  expect (header.processId = processId) "extension event channel belongs to another process"
  expect (header.creation = creation)
    "extension event channel belongs to another process lifetime"
  let events ← header.pending.mapM fun sequence =>
    parseSlot header sequence fun field => source (.slot (slotOf sequence) field)
  return ⟨header, events⟩

/-! ## Atomic accesses -/

/-- What the producer sees of the consumer's lease. -/
structure Lease where
  process : UInt64
  heartbeat : UInt64
  now : UInt64

/-- What the two sides do. -/
inductive Entry
  /-- The producer read how far the consumer is. -/
  | checked
  | published (content : Content)
  | dropped (content : Content)
  | invalid (content : Content)
  | unattended (content : Content) (lease : Lease)
  | returned (events : List Event)
  | acknowledged (event : Event)

/-- The shared memory, with the log. -/
structure Storage where
  memory : Memory
  log : List Entry := []

abbrev Program : Type → Type 1 := Code Storage

def load (x : Cell) : Program UInt64 := Code.atomically fun s => (s.memory x, s)

/-- Writes a field, and what that means into the log. -/
def storeWith (entries : List Entry) (x : Cell) (value : UInt64) : Program Unit :=
  Code.atomically fun s => ((), ⟨Function.update s.memory x value, s.log ++ entries⟩)

def store (x : Cell) (value : UInt64) : Program Unit := storeWith [] x value

/-- Only writes into the log. -/
def note (entry : Entry) : Program Unit :=
  Code.atomically fun s => ((), { s with log := s.log ++ [entry] })

/-! ## The producer -/

namespace Producer

/-- What `ConsumerLeaseIsActive` reads; the tick count is of no use without a process. -/
def consumerLease : Program Lease := do
  let process ← load .consumerProcess
  let heartbeat ← load .heartbeat
  let now ← Code.anything UInt64
  return ⟨process, heartbeat, now⟩

/-- What `ConsumerLeaseIsActive` returns; the numbers are signed. -/
def leaseIsActive (lease : Lease) : Bool :=
  ¬ (lease.process = 0 ∨ 2 ^ 31 ≤ lease.process.toNat ∨ lease.heartbeat = 0 ∨
      2 ^ 63 ≤ lease.heartbeat.toNat) ∧
    lease.heartbeat ≤ lease.now ∧ lease.now - lease.heartbeat ≤ 1000

/-- `RecordProducerError`, then `RecordDroppedEvent`. -/
def drop (content : Content) (error : UInt64) : Program Bool := do
  store .error error
  Code.atomically fun s => ((),
    ⟨Function.update s.memory .dropped (s.memory .dropped + 1), s.log ++ [.dropped content]⟩)
  return false

/-- The writes of a slot and of what makes it known. -/
def writeSlot (content : Content) (i : Fin capacity) (sequence : UInt64) : Program Bool := do
  store (.slot i .committed) 0
  Content.fields.forM fun field => store (.slot i field) (content.field sequence field)
  store (.slot i .committed) sequence
  storeWith [.published content] .write sequence
  store .error 0
  let error ← Code.anything UInt64
  if error = 0 then return true
  else
    store .error error
    return true

/-- The part of `TryPublishWorldMapDestination` after its first checks. -/
def publish (content : Content) : Program Bool := do
  let write ← load .write
  let read ← Code.atomically fun s => (s.memory .read, { s with log := s.log ++ [.checked] })
  if 2 ^ 63 ≤ write.toNat ∨ 2 ^ 63 ≤ read.toNat ∨ write < read ∨ write = 0x7FFFFFFFFFFFFFFF then
    drop content 13
  else if capacity ≤ (write - read).toNat then drop content 1816
  else writeSlot content (Fin.ofNat capacity write.toNat) (write + 1)

/-- `TryPublishWorldMapDestination`. -/
def tryPublish (content : Content) (requireActiveConsumer : Bool) : Program Bool := do
  if ¬ content.valid then
    storeWith [.invalid content] .error 13
    return false
  else if requireActiveConsumer then
    let lease ← consumerLease
    if leaseIsActive lease then publish content
    else
      note (.unattended content lease)
      return false
  else publish content

end Producer

/-! ## The consumer -/

/-- `ExtensionEventConsumer` with its transport, whose process has the number `own`. -/
structure Consumer where
  processId : UInt64
  creation : UInt64
  own : UInt64
  acknowledged : ℕ := 0
  observed : ℕ := 0
  claimed : Bool := false
  closed : Bool := false

namespace Consumer

/-- Reads every field, in any order. -/
def readAll : Program Memory := do
  let order ← Code.anything { order : List Cell // ∀ x, x ∈ order }
  order.1.foldlM (fun source x => do
    let value ← load x
    return Function.update source x value) fun _ => 0

variable (c : Consumer)

/-- `renew` of the transport. -/
def renew : Program (Consumer × Bool) := do
  if ¬ c.claimed then return (c, false)
  else
    let owner ← load .consumerProcess
    if owner ≠ c.own then return ({ c with claimed := false }, false)
    else
      let tick ← Code.anything UInt64
      store .heartbeat tick
      return (c, true)

/-- `close`. -/
def close : Program Consumer := do
  if c.closed then return c
  else if c.claimed then
    let owner ← load .consumerProcess
    if owner = c.own then
      store .heartbeat 0
      store .consumerProcess 0
      return { c with claimed := false, closed := true }
    else return { c with claimed := false, closed := true }
  else return { c with closed := true }

/-- The attempts of a coherent read. -/
def attempts : ℕ → Option String → Program (Consumer × Except String Snapshot)
  | 0, last =>
    return (c, .error (last.getD "extension event channel changed during every coherent read"))
  | n + 1, last => do
    let first ← readAll
    let second ← readAll
    match parse c.processId c.creation first, parse c.processId c.creation second with
    | .error text, _ => attempts n (some text)
    | .ok _, .error text => attempts n (some text)
    | .ok x, .ok y =>
      if ¬ x.same y then attempts n last
      else if x.header.read ≠ c.acknowledged then
        return (c, .error "extension event read sequence changed outside this consumer")
      else
        note (.returned x.events)
        return ({ c with observed := x.header.write }, .ok x)

/-- `snapshot`. -/
def snapshot : Program (Consumer × Except String Snapshot) := do
  if c.closed then return (c, .error "extension event consumer is closed")
  else
    let (c, held) ← c.renew
    if ¬ held then return (c, .error "extension event consumer lease was lost")
    else c.attempts 3 none

/-- `acknowledge`, with `advance` of the transport. -/
def acknowledge (event : Event) : Program (Consumer × Except String Unit) := do
  if c.closed then return (c, .error "extension event consumer is closed")
  else if ¬ (event.processId = c.processId ∧ event.creation = c.creation) then
    return (c, .error "cannot acknowledge an event from another process lifetime")
  else if event.sequence ≠ c.acknowledged + 1 then
    return (c, .error "extension events must be acknowledged contiguously")
  else if c.observed < event.sequence then
    return (c, .error "cannot acknowledge an event that was not observed")
  else
    let read ← load .read
    if read.toNat ≠ c.acknowledged then
      return (c, .error "extension event acknowledgement lost single-consumer ownership")
    else
      storeWith [.acknowledged event] .read (UInt64.ofNat event.sequence)
      return ({ c with acknowledged := event.sequence }, .ok ())

/-- `wait`; the signal itself says nothing. -/
def wait : Program (Consumer × Except String Unit) := do
  if c.closed then return (c, .error "extension event consumer is closed")
  else
    let (c, held) ← c.renew
    if ¬ held then return (c, .error "extension event consumer lease was lost")
    else
      let (c, held) ← c.renew
      return (c, if held then .ok () else .error "extension event consumer lease was lost")

/-- `ExtensionEventConsumer.__init__` under the lease; the object is closed if it raises. -/
def start : Program Consumer := do
  store .consumerProcess c.own
  let (c, held) ← { c with claimed := true }.renew
  if ¬ held then c.close
  else
    let source ← readAll
    match parse c.processId c.creation source with
    | .error _ => c.close
    | .ok initial =>
      let c := { c with acknowledged := initial.header.read, observed := initial.header.write }
      let (c, result) ← c.snapshot
      match result with
      | .error _ => c.close
      | .ok x => return { c with observed := x.header.write }

/-- The methods that a consumer's owner calls. -/
inductive Method
  | snapshot
  | acknowledge (event : Event)
  | wait
  | close

/-- A method, with the object that it leaves. -/
def method : Method → Program Consumer
  | .snapshot => do return (← c.snapshot).1
  | .acknowledge event => do return (← c.acknowledge event).1
  | .wait => do return (← c.wait).1
  | .close => c.close

end Consumer

/-! ## The system -/

/-- A consumer between two methods, or in one. -/
inductive Session
  | idle (c : Consumer)
  | busy (code : Program Consumer)

/-- The storage, the call of the one producer, and the consumer that holds the lease. -/
structure System where
  storage : Storage
  producer : Option (Program Bool) := none
  consumer : Option Session := none

/-- One step of either side; a consumer may be lost at any time, and another come after it. -/
inductive System.Step : System → System → Prop
  | publish {storage consumer} (content : Content) (requireActiveConsumer : Bool) :
      Step ⟨storage, none, consumer⟩
        ⟨storage, some (Producer.tryPublish content requireActiveConsumer), consumer⟩
  | produce {storage storage' code code' consumer} :
      Code.Step storage code storage' code' →
      Step ⟨storage, some code, consumer⟩ ⟨storage', some code', consumer⟩
  | published {storage consumer} (result : Bool) :
      Step ⟨storage, some (.ret result), consumer⟩ ⟨storage, none, consumer⟩
  | start {storage producer} (processId creation own : UInt64) :
      Step ⟨storage, producer, none⟩
        ⟨storage, producer, some (.busy (Consumer.start { processId, creation, own }))⟩
  | call {storage producer} (c : Consumer) (method : Consumer.Method) :
      Step ⟨storage, producer, some (.idle c)⟩
        ⟨storage, producer, some (.busy (c.method method))⟩
  | consume {storage storage' producer code code'} :
      Code.Step storage code storage' code' →
      Step ⟨storage, producer, some (.busy code)⟩ ⟨storage', producer, some (.busy code')⟩
  | returned {storage producer} (c : Consumer) :
      Step ⟨storage, producer, some (.busy (.ret c))⟩
        ⟨storage, producer, if c.closed then none else some (.idle c)⟩
  | lost {storage producer consumer} :
      Step ⟨storage, producer, consumer⟩ ⟨storage, producer, none⟩

/-- `InitializeEventChannel`. -/
def initialMemory (processId capabilities creation : UInt64) : Memory
  | .magic => magic
  | .schemaVersion => 1
  | .headerSize => 80
  | .slotSize => 80
  | .capacity => 64
  | .processId => processId
  | .capabilities => capabilities
  | .creation => creation
  | _ => 0

def initial (processId capabilities creation : UInt64) : System where
  storage := ⟨initialMemory processId capabilities creation, []⟩

end ShadowbaneLab.Channel
