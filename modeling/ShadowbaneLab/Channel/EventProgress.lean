/-
# The reader and the producer's events

When the reader takes the events that are published, and a consumer that holds the lease can
acknowledge the next one: what `EventIsValid` lets through beside what `_parse_world_map_slot` asks
for, and the steps of a consumer that works alone for a while.
-/
import ShadowbaneLab.Channel.EventReads

namespace ShadowbaneLab.Channel

open Foundation Function List

/-! ## Slots -/

variable {α : Type}

variable {condition : Bool} {text : String} {rest : Unit → Except String α}

theorem expect_bind (h : condition = true) : (expect condition text >>= rest) = rest ⟨⟩ := by
  rw [h]
  rfl

theorem expect_bind_error (h : condition = false) :
    (expect condition text >>= rest) = .error text := by
  rw [h]
  rfl

section Slots

variable {header : Header} {content : Content} {sequence : ℕ}

theorem buttonOf_valid (h : content.button = 1 ∨ content.button = 2) :
    buttonOf content.button.toUInt64 = .ok (if content.button = 1 then .left else .right) := by
  rcases h with h | h
  · rw [h]
    rfl
  · rw [h]
    rfl

/-- The one thing that the reader asks of an event and the producer does not. -/
theorem parseSlot_field (hvalid : content.valid = true) (hsequence : sequence < 2 ^ 64) :
    parseSlot header sequence (content.field (UInt64.ofNat sequence)) =
      if header.creation ≤ content.capturedAt then
        .ok (content.event header.processId header.creation sequence)
      else .error "extension event predates its process lifetime" := by
  obtain ⟨hbutton, hcaptured, hwindow, hlt, hlg⟩ := of_decide_eq_true hvalid
  have hcommitted : (content.field (UInt64.ofNat sequence) .committed).toNat = sequence := by
    rw [Content.field, UInt64.toNat_ofNat', Nat.mod_eq_of_lt hsequence]
  have hcode : buttonOf (content.field (UInt64.ofNat sequence) .button) =
      .ok (if content.button = 1 then .left else .right) := buttonOf_valid hbutton
  have hkind : content.field (UInt64.ofNat sequence) .kind = 1 := rfl
  rw [parseSlot, expect_bind (decide_eq_true hcommitted), expect_bind (decide_eq_true hkind), hcode]
  by_cases hlifetime : header.creation ≤ content.capturedAt
  · rw [if_pos hlifetime]
    refine (expect_bind (decide_eq_true hcaptured)).trans ?_
    refine (expect_bind (decide_eq_true hlifetime)).trans ?_
    refine (expect_bind (decide_eq_true hwindow)).trans ?_
    exact (expect_bind hlt).trans (expect_bind hlg)
  · rw [if_neg hlifetime]
    refine (expect_bind (decide_eq_true hcaptured)).trans ?_
    exact expect_bind_error (decide_eq_false hlifetime)

end Slots

/-! ## The whole channel -/

/-- The fields that only the initialization writes. -/
def Cell.constant : Cell → Bool
  | .magic | .schemaVersion | .headerSize | .slotSize | .capacity | .capabilities => true
  | _ => false

/-- These fields are as the initialization left them. -/
def Constant (capabilities : UInt64) (s : Storage) : Prop :=
  ∀ x : Cell, x.constant = true → s.memory x = initialMemory 0 capabilities 0 x

section Parse

variable {processId creation : UInt64} {s : Storage}

/-- The header that is read. -/
def headerOf (memory : Memory) : Header where
  processId := memory .processId
  creation := memory .creation
  write := (memory .write).toNat
  read := (memory .read).toNat
  dropped := memory .dropped
  error := memory .error
  capabilities := memory .capabilities
  consumerProcess := memory .consumerProcess
  heartbeat := memory .heartbeat

/-- The channel is read when all pending events are taken and the lease is complete. -/
theorem parse_of {capabilities : UInt64} (hinv : Inv processId creation s)
    (hconstant : Constant capabilities s) (hprocess : 0 < processId) (hcreation : 0 < creation)
    (hcapabilities : capabilities &&& ~~~ (1 ||| 2) = 0)
    (hlease : s.memory .consumerProcess ≠ 0 ∧ s.memory .heartbeat ≠ 0)
    (hevents : ∀ k content, (acknowledged s.log).length ≤ k → (published s.log)[k]? = some content →
      ∃ event, parseSlot (headerOf s.memory) (k + 1)
        (fun field => s.memory (.slot (slotOf (k + 1)) field)) = .ok event) :
    ∃ events, parse processId creation s.memory = .ok ⟨headerOf s.memory, events⟩ := by
  have hmagic : s.memory .magic = magic := hconstant .magic rfl
  have hversion : s.memory .schemaVersion = 1 := hconstant .schemaVersion rfl
  have hheader : s.memory .headerSize = 80 := hconstant .headerSize rfl
  have hslot : s.memory .slotSize = 80 := hconstant .slotSize rfl
  have hcapacity : s.memory .capacity = 64 := hconstant .capacity rfl
  have hflags : s.memory .capabilities = capabilities := hconstant .capabilities rfl
  have hwrite := hinv.write
  have hread := hinv.read
  have hbehind := hinv.behind
  have hahead : (published s.log).length ≤ (acknowledged s.log).length + 64 := hinv.ahead
  obtain ⟨events, hparsed⟩ : ∃ events, ((headerOf s.memory).pending.mapM fun sequence =>
      parseSlot (headerOf s.memory) sequence fun field =>
        s.memory (.slot (slotOf sequence) field)) = .ok events := by
    refine exists_mapM_eq_ok fun sequence hsequence => ?_
    obtain ⟨i, hi, rfl⟩ := mem_map.1 hsequence
    rw [mem_range] at hi
    have hi' : i < (s.memory .write).toNat - (s.memory .read).toNat := hi
    have hlt : (acknowledged s.log).length + i < (published s.log).length := by omega
    have hsequence : (headerOf s.memory).read + 1 + i = (acknowledged s.log).length + i + 1 := by
      rw [← hread]
      exact Nat.add_right_comm _ 1 i
    rw [hsequence]
    exact hevents _ _ (Nat.le_add_right _ _) (List.getElem?_eq_getElem hlt)
  have hparse : parseHeader s.memory = .ok (headerOf s.memory) := by
    have hle : s.memory .read ≤ s.memory .write := by
      rw [UInt64.le_iff_toNat_le]
      omega
    have hroom : (s.memory .write).toNat - (s.memory .read).toNat ≤ (s.memory .capacity).toNat := by
      rw [hcapacity]
      show _ ≤ 64
      omega
    rw [parseHeader, expect_bind (decide_eq_true hversion), expect_bind (decide_eq_true hheader),
      expect_bind (decide_eq_true hslot), expect_bind (decide_eq_true hcapacity),
      expect_bind (decide_eq_true (hinv.owner ▸ hprocess)),
      expect_bind (decide_eq_true (hinv.lifetime ▸ hcreation)), expect_bind (decide_eq_true hle),
      expect_bind (decide_eq_true hroom), expect_bind (decide_eq_true (hflags ▸ hcapabilities)),
      expect_bind (by simp [hlease.1, hlease.2])]
    rfl
  refine ⟨events, ?_⟩
  rw [parse, expect_bind (decide_eq_true hmagic), hparse]
  refine (expect_bind (decide_eq_true hinv.owner)).trans ?_
  refine (expect_bind (decide_eq_true hinv.lifetime)).trans ?_
  rw [hparsed]
  rfl

end Parse

/-! ## What nobody writes -/

section Constants

variable {capabilities : UInt64} {s : Storage} {content : Content}

variable {x : Cell}

theorem Constant.update (hs : Constant capabilities s) (hx : x.constant = false) (value : UInt64)
    (log : List Entry) : Constant capabilities ⟨update s.memory x value, log⟩ := by
  intro y hy
  have hne : y ≠ x := by
    rintro rfl
    rw [hx] at hy
    cases hy
  exact (update_of_ne hne _ _).trans (hs y hy)

/-- The consumer changes none of these fields. -/
theorem Constant.of_moves {s' : Storage} (hs : Constant capabilities s) (h : Moves true s s') :
    Constant capabilities s' := by
  intro x hx
  refine (h.memory x ?_).trans (hs x hx)
  cases x <;> first | rfl | cases hx

/-- Nothing is known beside these fields, whatever the others do. -/
def initialized (capabilities : UInt64) : Role Storage where
  inv := Constant capabilities
  rely _ _ := True
  guarantee _ _ := True
  rely_refl _ := trivial
  rely_trans _ _ := trivial

/-- The code does not write these fields. -/
def Spares (capabilities : UInt64) {α : Type} (code : Program α) : Prop :=
  ∀ s, (initialized capabilities).Good (fun _ _ => True) code s

namespace Spares

variable {α β : Type}

theorem ret (a : α) : Spares capabilities (pure a : Program α) :=
  fun _ _ _ _ => trivial

theorem bind {code : Program α} {next : α → Program β} (h : Spares capabilities code)
    (hnext : ∀ a, Spares capabilities (next a)) : Spares capabilities (code >>= next) :=
  fun s => (h s).bind fun a s _ _ => hnext a s

theorem atomically {f : Storage → α × Storage}
    (h : ∀ s, Constant capabilities s → Constant capabilities (f s).2) :
    Spares capabilities (Code.atomically f) :=
  fun _ s' _ hinv => ⟨h s' hinv, trivial, fun _ _ _ => trivial⟩

theorem anything : Spares capabilities (Code.anything α) :=
  fun _ _ _ _ _ _ _ _ => trivial

theorem load (x : Cell) : Spares capabilities (Channel.load x) := atomically fun _ => id

theorem storeWith (hx : x.constant = false) (entries : List Entry) (value : UInt64) :
    Spares capabilities (Channel.storeWith entries x value) :=
  atomically fun _ hs => hs.update hx value _

theorem store (hx : x.constant = false) (value : UInt64) :
    Spares capabilities (Channel.store x value) :=
  storeWith hx [] value

theorem forM {body : α → Program PUnit} (h : ∀ a, Spares capabilities (body a)) (l : List α) :
    Spares capabilities (l.forM body) := by
  induction l with
  | nil => exact ret _
  | cons a l ih => exact bind (h a) fun _ => ih

theorem ite {condition : Prop} [Decidable condition] {code other : Program α}
    (h : Spares capabilities code) (hother : Spares capabilities other) :
    Spares capabilities (if condition then code else other) := by
  split
  · exact h
  · exact hother

variable (content : Content)

theorem drop (error : UInt64) : Spares capabilities (Producer.drop content error) :=
  bind (store rfl error) fun _ => bind (atomically fun _ hs => hs.update rfl _ _) fun _ => ret false

theorem writeSlot (i : Fin capacity) (sequence : UInt64) :
    Spares capabilities (Producer.writeSlot content i sequence) := by
  refine bind (store rfl 0) fun _ => bind (forM (fun field => store rfl _) _) fun _ => ?_
  refine bind (store rfl sequence) fun _ => bind (storeWith rfl _ sequence) fun _ => ?_
  refine bind (store rfl 0) fun _ => bind anything fun error => ite (ret true) ?_
  exact bind (store rfl error) fun _ => ret true

theorem publish : Spares capabilities (Producer.publish content) := by
  refine bind (load .write) fun write => bind (atomically fun _ => id) fun read => ?_
  exact ite (drop content 13) (ite (drop content 1816) (writeSlot content _ _))

theorem tryPublish (requireActiveConsumer : Bool) :
    Spares capabilities (Producer.tryPublish content requireActiveConsumer) := by
  refine ite (bind (storeWith rfl _ 13) fun _ => ret false) (ite ?_ (publish content))
  refine bind (bind (load _) fun _ => bind (load _) fun _ => bind anything fun _ => ret _) fun lease => ?_
  exact ite (publish content) (bind (atomically fun _ => id) fun _ => ret false)

end Spares

/-- In every run, these fields are as they were, and the producer's code leaves them so. -/
theorem constant_of_run {processId creation : UInt64} {system : System}
    (h : Relation.ReflTransGen System.Step (initial processId capabilities creation) system) :
    Constant capabilities system.storage ∧ ∀ code, system.producer = some code →
      (initialized capabilities).Good (fun _ _ => True) code system.storage := by
  induction h with
  | refl =>
    refine ⟨fun x hx => ?_, nofun⟩
    cases x <;> first | rfl | cases hx
  | tail hrun hstep ih =>
    have hinv := System.Inv.run hrun
    obtain ⟨hconstant, hproducer⟩ := ih
    cases hstep with
    | publish content requireActiveConsumer =>
      refine ⟨hconstant, ?_⟩
      rintro _ ⟨⟩
      exact Spares.tryPublish content requireActiveConsumer _
    | produce hstep =>
      obtain ⟨hconstant, -, hcode⟩ := (hproducer _ rfl).step hconstant hstep
      refine ⟨hconstant, ?_⟩
      rintro _ ⟨⟩
      exact hcode
    | published result => exact ⟨hconstant, nofun⟩
    | consume hstep =>
      obtain ⟨-, hmoves, -⟩ := (hinv.busy _ rfl).step hinv.storage hstep
      have hmoves := hmoves.elim (fun heq => heq ▸ Moves.refl _ _) id
      exact ⟨hconstant.of_moves hmoves, fun code hcode => (hproducer code hcode).stable trivial⟩
    | start | call | returned | lost => exact ⟨hconstant, hproducer⟩

end Constants

/-! ## A consumer alone -/

namespace Consumer

open Code (Steps)

variable {s : Storage} {c : Consumer}

theorem steps_load (s : Storage) (x : Cell) : Steps s (load x) s (.ret (s.memory x)) :=
  .head .act .refl

theorem steps_storeWith (s : Storage) (entries : List Entry) (x : Cell) (value : UInt64) :
    Steps s (storeWith entries x value)
      ⟨update s.memory x value, s.log ++ entries⟩ (.ret ⟨⟩) :=
  .head .act .refl

theorem steps_store (s : Storage) (x : Cell) (value : UInt64) :
    Steps s (store x value) ⟨update s.memory x value, s.log⟩ (.ret ⟨⟩) := by
  have h := steps_storeWith s [] x value
  rwa [append_nil] at h

theorem steps_note (s : Storage) (entry : Entry) :
    Steps s (note entry) ⟨s.memory, s.log ++ [entry]⟩ (.ret ⟨⟩) :=
  .head .act .refl

theorem steps_anything (s : Storage) (a : α) : Steps s (Code.anything α) s (.ret a) :=
  .head (.ask a) .refl

/-- All fields of the storage. -/
def cells : List Cell :=
  [.magic, .schemaVersion, .headerSize, .slotSize, .capacity, .processId, .capabilities, .creation,
    .write, .read, .dropped, .error, .consumerProcess, .heartbeat] ++
  (List.finRange capacity).flatMap fun i => (Field.committed :: Content.fields).map (Cell.slot i)

theorem mem_cells (x : Cell) : x ∈ cells := by
  cases x with
  | slot i field =>
    refine mem_append_right _ (mem_flatMap.2 ⟨i, mem_finRange i, ?_⟩)
    refine mem_map.2 ⟨field, ?_, rfl⟩
    cases field <;> decide
  | _ => exact mem_append_left _ (by decide)

theorem steps_foldlM (s : Storage) (order : List Cell) (source : Memory) :
    Steps s (order.foldlM (fun source x => do
      let value ← load x
      return update source x value) source) s
      (.ret fun x => if x ∈ order then s.memory x else source x) := by
  induction order generalizing source with
  | nil =>
    have hsource : (fun x => if x ∈ ([] : List Cell) then s.memory x else source x) = source :=
      funext fun x => if_neg not_mem_nil
    rw [hsource]
    exact .refl
  | cons y order ih =>
    rw [foldlM_cons]
    refine ((steps_load s y).bind_ret .refl).bind_ret ?_
    have hsource : (fun x => if x ∈ order then s.memory x else
        update source y (s.memory y) x) =
        fun x => if x ∈ y :: order then s.memory x else source x := by
      funext x
      by_cases hx : x = y
      · subst hx
        simp
      · simp [hx]
    rw [← hsource]
    exact ih _

theorem steps_readAll (s : Storage) : Steps s readAll s (.ret s.memory) := by
  refine (steps_anything s ⟨cells, mem_cells⟩).bind_ret ?_
  have hread := steps_foldlM s cells fun _ => 0
  have hall : (fun x => if x ∈ cells then s.memory x else 0) = s.memory :=
    funext fun x => if_pos (mem_cells x)
  rwa [hall] at hread

theorem same_self (x : Snapshot) : x.same x = true := by
  rw [Snapshot.same, decide_eq_true_eq]
  refine ⟨rfl, rfl, all_eq_true.2 fun pair hpair => ?_⟩
  obtain ⟨e, e'⟩ := pair
  obtain rfl : e = e' := by
    obtain ⟨i, hi, heq⟩ := mem_iff_getElem.1 hpair
    rw [getElem_zip] at heq
    exact (congrArg Prod.fst heq).symm.trans (congrArg Prod.snd heq)
  exact decide_eq_true ⟨by simp [sameDouble], by simp [sameDouble], rfl⟩

/-- The lease is renewed with some tick. -/
theorem steps_renew (hclaimed : c.claimed = true) (hlease : s.memory .consumerProcess = c.own)
    (tick : UInt64) : Steps s c.renew ⟨update s.memory .heartbeat tick, s.log⟩
      (.ret (c, true)) := by
  rw [renew, if_neg (not_not.2 hclaimed)]
  refine (steps_load s .consumerProcess).bind_ret ?_
  rw [if_neg (not_not.2 hlease)]
  exact (steps_anything s tick).bind_ret ((steps_store s .heartbeat tick).bind_ret .refl)

theorem steps_attempts {x : Snapshot} (n : ℕ) (last : Option String)
    (hparse : parse c.processId c.creation s.memory = .ok x)
    (hread : x.header.read = c.acknowledged) :
    Steps s (c.attempts (n + 1) last) ⟨s.memory, s.log ++ [.returned x.events]⟩
      (.ret ({ c with observed := x.header.write }, .ok x)) := by
  rw [attempts]
  refine (steps_readAll s).bind_ret ((steps_readAll s).bind_ret ?_)
  rw [hparse]
  show Steps s (if ¬ x.same x = true then _ else if x.header.read ≠ c.acknowledged then _ else _) _ _
  rw [if_neg (not_not.2 (same_self x)), if_neg (not_not.2 hread)]
  exact (steps_note s _).bind_ret .refl

theorem steps_snapshot {x : Snapshot} (tick : UInt64) (hopen : c.closed = false)
    (hclaimed : c.claimed = true) (hlease : s.memory .consumerProcess = c.own)
    (hparse : parse c.processId c.creation (update s.memory .heartbeat tick) = .ok x)
    (hread : x.header.read = c.acknowledged) :
    Steps s c.snapshot ⟨update s.memory .heartbeat tick, s.log ++ [.returned x.events]⟩
      (.ret ({ c with observed := x.header.write }, .ok x)) := by
  rw [snapshot, if_neg (by simp [hopen])]
  refine (steps_renew hclaimed hlease tick).bind_ret ?_
  exact steps_attempts (s := ⟨update s.memory .heartbeat tick, s.log⟩) 2 none hparse hread

theorem steps_acknowledge (event : Event) (hopen : c.closed = false)
    (hprocess : event.processId = c.processId) (hcreation : event.creation = c.creation)
    (hsequence : event.sequence = c.acknowledged + 1) (hobserved : event.sequence ≤ c.observed)
    (hread : (s.memory .read).toNat = c.acknowledged) :
    Steps s (c.acknowledge event) ⟨update s.memory .read (UInt64.ofNat event.sequence),
        s.log ++ [.acknowledged event]⟩
      (.ret ({ c with acknowledged := event.sequence }, .ok ())) := by
  rw [acknowledge, if_neg (by simp [hopen]), if_neg (not_not.2 ⟨hprocess, hcreation⟩),
    if_neg (not_not.2 hsequence), if_neg (by omega)]
  refine (steps_load s .read).bind_ret ?_
  rw [if_neg (not_not.2 hread)]
  exact (steps_storeWith s _ .read _).bind_ret .refl

theorem steps_start {x : Snapshot} (hopen : c.closed = false)
    (hparse : parse c.processId c.creation
      (update (update s.memory .consumerProcess c.own) .heartbeat 1) = .ok x) :
    Steps s c.start
      ⟨update (update s.memory .consumerProcess c.own) .heartbeat 1,
        s.log ++ [.returned x.events]⟩
      (.ret { c with acknowledged := x.header.read, observed := x.header.write, claimed := true }) := by
  have hheld : update (update s.memory .consumerProcess c.own) .heartbeat 1
      .consumerProcess = c.own := by simp
  have hagain (memory : Memory) : update (update memory .heartbeat 1) .heartbeat 1 =
      update memory .heartbeat 1 := update_idem _ _ _
  refine (steps_store s .consumerProcess c.own).bind_ret ?_
  refine (steps_renew (c := { c with claimed := true }) rfl (by simp) 1).bind_ret ?_
  refine (steps_readAll _).bind_ret ?_
  rw [hparse]
  have hsnapshot := steps_snapshot
    (s := ⟨update (update s.memory .consumerProcess c.own) .heartbeat 1, s.log⟩)
    (c := { c with acknowledged := x.header.read, observed := x.header.write, claimed := true }) 1
    hopen rfl hheld (by rw [hagain]; exact hparse) rfl
  rw [hagain] at hsnapshot
  exact hsnapshot.bind_ret .refl

end Consumer

/-! ## Progress -/

/-- The consumer of a process, with its lease. -/
structure Attentive (processId creation : UInt64) (c : Consumer) (s : Storage) : Prop where
  process : c.processId = processId
  lifetime : c.creation = creation
  isOpen : c.closed = false
  claimed : c.claimed = true
  lease : s.memory .consumerProcess = c.own
  own : c.own ≠ 0

/-- The content is published, and its event was not acknowledged. -/
def Awaits (log : List Entry) (k : ℕ) (content : Content) : Prop :=
  (acknowledged log).length ≤ k ∧ (published log)[k]? = some content

/-- The reader takes every pending event, and a consumer can acknowledge the next. -/
structure Unwedged (processId creation : UInt64) (system : System) : Prop where
  accepted : ∀ header : Header, header.processId = processId → header.creation = creation →
    ∀ k content, Awaits system.storage.log k content →
      parseSlot header (k + 1) (fun field => system.storage.memory (.slot (slotOf (k + 1)) field)) =
        .ok (content.event processId creation (k + 1))
  progress : ∀ c, system.consumer = some (.idle c) → Attentive processId creation c system.storage →
    pending system.storage.log ≠ 0 → ∃ system' c', Relation.ReflTransGen System.Step system system' ∧
      system'.consumer = some (.idle c') ∧ Attentive processId creation c' system'.storage ∧
      (acknowledged system'.storage.log).length = (acknowledged system.storage.log).length + 1

section Progress

variable {processId capabilities creation : UInt64} {system : System}

variable {storage storage' : Storage} {producer : Option (Program Bool)}

/-- The steps of a consumer are steps of the system. -/
theorem System.consume {code code' : Program Consumer} (h : Code.Steps storage code storage' code')
    :
    Relation.ReflTransGen System.Step ⟨storage, producer, some (.busy code)⟩
      ⟨storage', producer, some (.busy code')⟩ := by
  induction h with
  | refl => exact .refl
  | head hstep _ ih => exact .head (.consume hstep) ih

/-- A method that ends and leaves the consumer open. -/
theorem System.method {c c' : Consumer} (method : Consumer.Method)
    (h : Code.Steps storage (c.method method) storage' (.ret c')) (hopen : c'.closed = false) :
    Relation.ReflTransGen System.Step ⟨storage, producer, some (.idle c)⟩
      ⟨storage', producer, some (.idle c')⟩ := by
  refine .head (.call c method) ((System.consume h).tail ?_)
  have hreturned : System.Step ⟨storage', producer, some (.busy (.ret c'))⟩
      ⟨storage', producer, if c'.closed then none else some (.idle c')⟩ := .returned c'
  rwa [hopen] at hreturned

variable {content : Content}

/-- What the slot of a pending event holds. -/
theorem slot_of_awaits {s : Storage} (hinv : Inv processId creation s) {k : ℕ}
    (h : Awaits s.log k content) :
    content.valid = true ∧ k + 1 < 2 ^ 64 ∧ (fun field => s.memory (.slot (slotOf (k + 1)) field)) =
        content.field (UInt64.ofNat (k + 1)) := by
  have hbounded := hinv.bounded
  have hlt := (List.getElem?_eq_some_iff.1 h.2).1
  refine ⟨?_, by omega, funext fun field => hinv.slots k content h.1 h.2 field⟩
  obtain ⟨e, he, heq⟩ := mem_filterMap.1 (mem_of_getElem? h.2)
  obtain ⟨before, after, -, hallowed⟩ := allowed_of_mem hinv.allowed he
  cases e with
  | published published =>
    cases heq
    exact hallowed.1
  | checked | dropped | invalid | unattended | returned | acknowledged => cases heq

/-- The reader takes a pending event exactly when it does not predate the process. -/
theorem accepts_iff {s : Storage} (hinv : Inv processId creation s) {k : ℕ}
    (h : Awaits s.log k content) (header : Header) (howner : header.processId = processId)
    (hlifetime : header.creation = creation) :
    parseSlot header (k + 1) (fun field => s.memory (.slot (slotOf (k + 1)) field)) =
        .ok (content.event processId creation (k + 1)) ↔ creation ≤ content.capturedAt := by
  obtain ⟨hvalid, hsequence, hslot⟩ := slot_of_awaits hinv h
  rw [hslot, parseSlot_field hvalid hsequence, howner, hlifetime]
  by_cases hpredates : creation ≤ content.capturedAt
  · simp [hpredates]
  · simp [hpredates]

/-- A consumer that works alone for a while acknowledges the next event, if none predates. -/
theorem exists_acknowledged (producer : Option (Program Bool)) {c : Consumer}
    (hinv : Inv processId creation storage) (hconstant : Constant capabilities storage)
    (hcurrent : Consumer.Current True c storage)
    (hattentive : Attentive processId creation c storage) (hprocess : processId ≠ 0)
    (hcreation : creation ≠ 0) (hcapabilities : capabilities &&& ~~~ (1 ||| 2) = 0)
    (hpredates : ∀ k content, Awaits storage.log k content → creation ≤ content.capturedAt)
    (hpending : pending storage.log ≠ 0) :
    ∃ system' c', Relation.ReflTransGen System.Step ⟨storage, producer, some (.idle c)⟩ system' ∧
      (system'.consumer = some (.idle c') ∧ Attentive processId creation c' system'.storage ∧
        (acknowledged system'.storage.log).length = (acknowledged storage.log).length + 1) ∧
      c'.own = c.own := by
  obtain ⟨howner, hlifetime, hopen, hclaimed, hlease, hown⟩ := hattentive
  have hrenewed : Inv processId creation ⟨update storage.memory .heartbeat 1, storage.log⟩ :=
    hinv.update 1 (by simp) fun _ _ _ _ => nofun
  have hheld : update storage.memory .heartbeat 1 .consumerProcess = c.own :=
    (update_of_ne (by decide) _ _).trans hlease
  have hpositive {n : UInt64} (h : n ≠ 0) : 0 < n := UInt64.pos_iff_ne_zero.2 h
  obtain ⟨events, hparse⟩ := parse_of hrenewed (hconstant.update rfl 1 storage.log)
    (hpositive hprocess) (hpositive hcreation) hcapabilities ⟨fun h => hown (hheld.symm.trans h), by simp⟩
    fun k content hle hcontent => ⟨_, (accepts_iff hrenewed ⟨hle, hcontent⟩ _ hrenewed.owner
      hrenewed.lifetime).2 (hpredates k content ⟨hle, hcontent⟩)⟩
  have hread : (headerOf (update storage.memory .heartbeat 1)).read = c.acknowledged :=
    hrenewed.read.trans hcurrent.acknowledged.symm
  have hwrite : (headerOf (update storage.memory .heartbeat 1)).write =
      (published storage.log).length := hrenewed.write
  rw [pending] at hpending
  have hacknowledged := hcurrent.acknowledged
  obtain ⟨content, -⟩ : ∃ content, (published storage.log)[c.acknowledged]? = some content :=
    ⟨_, List.getElem?_eq_getElem (by omega)⟩
  -- The next event is returned and then acknowledged.
  have hsnapshot := (Consumer.steps_snapshot 1 hopen hclaimed hlease
    (by rw [howner, hlifetime]; exact hparse) hread).bind_ret (k := fun result => pure result.1) .refl
  have hobserved : c.acknowledged + 1 ≤
      (headerOf (update storage.memory .heartbeat 1)).write := by omega
  have hacknowledge := (Consumer.steps_acknowledge
    (s := ⟨update storage.memory .heartbeat 1, storage.log ++ [.returned events]⟩)
    (c := { c with observed := (headerOf (update storage.memory .heartbeat 1)).write })
    (content.event processId creation (c.acknowledged + 1)) hopen howner.symm
    hlifetime.symm rfl hobserved hread).bind_ret (k := fun result => pure result.1) .refl
  refine ⟨_, _, (System.method .snapshot hsnapshot hopen).trans
    (System.method (.acknowledge _) hacknowledge hopen),
    ⟨rfl, ⟨howner, hlifetime, hopen, hclaimed, hlease, hown⟩, ?_⟩, rfl⟩
  simp only [acknowledged_append, acknowledged_singleton, length_append]
  rfl

/-- Another consumer can take over a channel, if no pending event predates the process. -/
theorem exists_started (producer : Option (Program Bool)) (hinv : Inv processId creation storage)
    (hconstant : Constant capabilities storage) (hprocess : processId ≠ 0) (hcreation : creation ≠ 0)
    (hcapabilities : capabilities &&& ~~~ (1 ||| 2) = 0)
    (hpredates : ∀ k content, Awaits storage.log k content → creation ≤ content.capturedAt)
    {own : UInt64} (hown : own ≠ 0) :
    ∃ storage' c, Relation.ReflTransGen System.Step ⟨storage, producer, none⟩
        ⟨storage', producer, some (.idle c)⟩ ∧
      Attentive processId creation c storage' ∧ c.own = own ∧
      published storage'.log = published storage.log ∧
      acknowledged storage'.log = acknowledged storage.log := by
  have hrenewed := (hinv.update own (x := .consumerProcess) (by simp) fun _ _ _ _ => nofun).update 1
    (x := .heartbeat) (by simp) fun _ _ _ _ => nofun
  have hpositive {n : UInt64} (h : n ≠ 0) : 0 < n := UInt64.pos_iff_ne_zero.2 h
  have hheld : update (update storage.memory .consumerProcess own) .heartbeat 1
      .consumerProcess = own := by simp
  obtain ⟨events, hparse⟩ := parse_of hrenewed
    ((hconstant.update rfl own storage.log).update rfl 1 storage.log)
    (hpositive hprocess) (hpositive hcreation) hcapabilities
    ⟨fun h => hown (hheld.symm.trans h), by simp⟩
    fun k content hle hcontent => ⟨_, (accepts_iff hrenewed ⟨hle, hcontent⟩ _ hrenewed.owner
      hrenewed.lifetime).2 (hpredates k content ⟨hle, hcontent⟩)⟩
  have hstart := Consumer.steps_start (s := storage) (c := { processId, creation, own }) rfl hparse
  exact ⟨_, _, .head (.start processId creation own) ((System.consume hstart).tail (.returned _)),
    ⟨rfl, rfl, rfl, rfl, hheld, hown⟩, rfl, (published_append _ _).trans (append_nil _),
    (acknowledged_append _ _).trans (append_nil _)⟩

/-- `InitializeEventChannel`. -/
def initializeEventChannel (processId capabilities creation : UInt64) : Option System :=
  if processId = 0 ∨ creation = 0 ∨ capabilities &&& ~~~ (1 ||| 2) ≠ 0 then none
  else some (initial processId capabilities creation)

/-- In every run of a channel, and at every moment of it: the reader takes all that is pending, and
a consumer can acknowledge the next event, exactly when no pending event predates the process. -/
theorem unwedged_iff {start : System}
    (hstart : initializeEventChannel processId capabilities creation = some start)
    (hrun : Relation.ReflTransGen System.Step start system) :
    Unwedged processId creation system ↔
      ∀ k content, Awaits system.storage.log k content → creation ≤ content.capturedAt := by
  rw [initializeEventChannel, Option.ite_none_left_eq_some, Option.some.injEq, not_or, not_or,
    not_not] at hstart
  obtain ⟨⟨hprocess, hcreation, hcapabilities⟩, rfl⟩ := hstart
  have hinv := System.Inv.run hrun
  constructor
  · intro h k content hawaits
    refine (accepts_iff hinv.storage hawaits ⟨processId, creation, 0, 0, 0, 0, 0, 0, 0⟩ rfl
      rfl).1 ?_
    exact h.accepted _ rfl rfl k content hawaits
  · intro hpredates
    constructor
    · intro header howner hlifetime k content hawaits
      exact (accepts_iff hinv.storage hawaits _ howner hlifetime).2 (hpredates k content hawaits)
    · intro c hidle hattentive hpending
      have hcurrent := (hinv.idle c hidle).resolve_left (by simp [hattentive.isOpen])
      obtain ⟨storage, producer, consumer⟩ := system
      obtain rfl : consumer = some (.idle c) := hidle
      obtain ⟨system', c', hsteps, h, -⟩ := exists_acknowledged producer hinv.storage
        (constant_of_run hrun).1 hcurrent hattentive hprocess hcreation hcapabilities hpredates hpending
      exact ⟨system', c', hsteps, h⟩

/-- A channel whose first event is a click. -/
theorem exists_run_click {creation : UInt64} (h : creation = 1 ∨ creation = 2) :
    ∃ s : Storage, s.log = [.checked, .published click] ∧
      Relation.ReflTransGen System.Step (initial 1 0 creation) ⟨s, none, none⟩ := by
  rcases h with rfl | rfl
  all_goals
    apply Exists.intro
    constructor
    rotate_left
    refine .head (.publish click false) ?_
    iterate 17 refine .head (.produce .act) ?_
    refine .head (.produce (.ask 0)) ?_
    exact .single (.published true)
    rfl

/-- A click at the first moment, in a process that was created then. -/
theorem unwedged_published : ∃ s : Storage, s.log = [.checked, .published click] ∧
    Unwedged 1 1 ⟨s, none, none⟩ := by
  obtain ⟨s, hlog, hrun⟩ := exists_run_click (.inl rfl)
  have hstart : initializeEventChannel 1 0 1 = some (initial 1 0 1) := rfl
  refine ⟨s, hlog, (unwedged_iff hstart hrun).2 ?_⟩
  rintro k content ⟨-, hcontent⟩
  rw [hlog] at hcontent
  have hmem : content ∈ [click] := mem_of_getElem? hcontent
  rw [mem_singleton.1 hmem]
  decide

/-- The same click, in a process that was created at the second moment, is published and never
read. -/
theorem not_unwedged_published : ¬ ∀ system : System,
    Relation.ReflTransGen System.Step (initial 1 0 2) system → Unwedged 1 2 system := by
  intro h
  obtain ⟨s, hlog, hrun⟩ := exists_run_click (.inr rfl)
  have hawaits : Awaits s.log 0 click := by
    rw [hlog]
    exact ⟨le_rfl, rfl⟩
  have haccepted := (h _ hrun).accepted ⟨1, 2, 0, 0, 0, 0, 0, 0, 0⟩ rfl rfl 0 click hawaits
  have hpredates := (accepts_iff (System.Inv.run hrun).storage hawaits
    ⟨1, 2, 0, 0, 0, 0, 0, 0, 0⟩ rfl rfl).1 haccepted
  exact absurd hpredates (by decide)

/-- A click that one consumer has returned and acknowledged before it was lost and another came. -/
theorem channel_lossless_replaced : ∃ (acknowledging replaced : System) (c c' : Consumer),
    acknowledging.consumer = some (.idle c) ∧ (acknowledged acknowledging.storage.log).length = 1 ∧
      Relation.ReflTransGen System.Step acknowledging replaced ∧
      replaced.consumer = some (.idle c') ∧ c.own ≠ c'.own ∧
      (acknowledged replaced.storage.log).length = 1 ∧ Lossless 1 1 replaced.storage := by
  have hpredates : ∀ system, Relation.ReflTransGen System.Step (initial 1 0 1) system →
      ∀ k content, Awaits system.storage.log k content → 1 ≤ content.capturedAt :=
    fun system hrun k content hawaits => UInt64.le_iff_toNat_le.2 (UInt64.lt_iff_toNat_lt.1
      (of_decide_eq_true (slot_of_awaits (System.Inv.run hrun).storage hawaits).1).2.1)
  obtain ⟨s, hlog, hrun⟩ := exists_run_click (.inl rfl)
  -- A consumer comes and finds the click.
  obtain ⟨s₁, c, hstart, hattentive, hc, hpublished, hacknowledged⟩ := exists_started none
    (System.Inv.run hrun).storage (constant_of_run hrun).1 (by decide) (by decide) (by decide)
    (hpredates _ hrun) (show (7 : UInt64) ≠ 0 by decide)
  have hrun₁ := hrun.trans hstart
  have hpending : pending s₁.log ≠ 0 ∧ (acknowledged s₁.log).length = 0 := by
    rw [pending, hpublished, hacknowledged, hlog]
    exact ⟨by decide, rfl⟩
  -- It returns the click and acknowledges it.
  obtain ⟨acknowledging, c₁, hsteps, ⟨hidle, -, hlength⟩, hc₁⟩ := exists_acknowledged
    none (System.Inv.run hrun₁).storage (constant_of_run hrun₁).1
    (((System.Inv.run hrun₁).idle c rfl).resolve_left (by simp [hattentive.isOpen])) hattentive
    (by decide) (by decide) (by decide) (hpredates _ hrun₁) hpending.1
  have hrun₂ := hrun₁.trans hsteps
  -- It is lost, and another one takes over what is left.
  obtain ⟨s₃, c₃, hrestart, -, hc₃, -, hkept⟩ := exists_started acknowledging.producer
    (System.Inv.run hrun₂).storage (constant_of_run hrun₂).1 (by decide) (by decide) (by decide)
    (hpredates _ hrun₂) (show (8 : UInt64) ≠ 0 by decide)
  have hreplaced : Relation.ReflTransGen System.Step acknowledging
      ⟨s₃, acknowledging.producer, some (.idle c₃)⟩ := .head .lost hrestart
  have hone := hlength.trans (congrArg (· + 1) hpending.2)
  refine ⟨acknowledging, _, c₁, c₃, hidle, hone, hreplaced, rfl, ?_, (congrArg _ hkept).trans hone,
    channel_lossless 1 0 1 _ (hrun₂.trans hreplaced)⟩
  rw [hc₁, hc, hc₃]
  decide

end Progress

end ShadowbaneLab.Channel
