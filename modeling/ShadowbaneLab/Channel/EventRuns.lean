/-
# Runs of the event channel

The log is read as a queue: the events published, of which the consumer has acknowledged the first
ones.  Each side is sound relying on what the other leaves alone: the producer keeps to the slots
that are free, and the consumer keeps to the slots that are pending, which the producer does not
touch until they are acknowledged.
-/
import ShadowbaneLab.Channel.Events
import ShadowbaneLab.Foundation.Traced

namespace ShadowbaneLab.Channel

open Foundation Foundation.Role List Function

/-! ## The queue in the log -/

namespace Entry

def published? : Entry → Option Content
  | .published content => some content
  | _ => none

def acknowledged? : Entry → Option Event
  | .acknowledged event => some event
  | _ => none

def isDropped : Entry → Bool
  | .dropped _ => true
  | _ => false

/-- The entries of the consumer. -/
def consumers : Entry → Bool
  | .returned _ | .acknowledged _ => true
  | _ => false

end Entry

/-- The fields that the consumer writes. -/
def Cell.consumers : Cell → Bool
  | .read | .heartbeat | .consumerProcess => true
  | _ => false

/-- The contents published, the first event first. -/
def published (log : List Entry) : List Content := log.filterMap Entry.published?

def acknowledged (log : List Entry) : List Event := log.filterMap Entry.acknowledged?

/-- How many events are published and not acknowledged. -/
def pending (log : List Entry) : ℕ := (published log).length - (acknowledged log).length

theorem published_append (log entries : List Entry) :
    published (log ++ entries) = published log ++ published entries :=
  filterMap_append

theorem acknowledged_append (log entries : List Entry) :
    acknowledged (log ++ entries) = acknowledged log ++ acknowledged entries :=
  filterMap_append

theorem published_singleton (e : Entry) : published [e] = e.published?.toList := by
  cases e <;> rfl

theorem acknowledged_singleton (e : Entry) : acknowledged [e] = e.acknowledged?.toList := by
  cases e <;> rfl

variable {entries : List Entry}

theorem published_eq_nil (h : ∀ e ∈ entries, e.consumers = true) : published entries = [] := by
  refine filterMap_eq_nil_iff.2 fun e he => ?_
  have hconsumers := h e he
  cases e <;> first | rfl | cases hconsumers

theorem acknowledged_eq_nil (h : ∀ e ∈ entries, e.consumers = false) :
    acknowledged entries = [] := by
  refine filterMap_eq_nil_iff.2 fun e he => ?_
  have hconsumers := h e he
  cases e <;> first | rfl | cases hconsumers

/-- The event that is published with a content. -/
def Content.event (processId creation : UInt64) (content : Content) (sequence : ℕ) : Event where
  sequence := sequence
  processId := processId
  creation := creation
  capturedAt := content.capturedAt
  window := content.window
  button := if content.button = 1 then .left else .right
  lt := content.lt
  lg := content.lg
  snapshotToken := hexToken content.hash
  screenX := signed32 content.screenX.toUInt64
  screenY := signed32 content.screenY.toUInt64
  clientX := signed32 content.clientX.toUInt64
  clientY := signed32 content.clientY.toUInt64

/-- All pending events up to some moment, each with the content that was published. -/
structure Faithful (processId creation : UInt64) (log : List Entry) (events : List Event) :
    Prop where
  contiguous : ∃ write, (acknowledged log).length ≤ write ∧ write ≤ (published log).length ∧
    events.map Event.sequence = (List.range (write - (acknowledged log).length)).map
      fun i => (acknowledged log).length + 1 + i
  content : ∀ e ∈ events, ∃ content, (published log)[e.sequence - 1]? = some content ∧
    e.same (content.event processId creation e.sequence) = true

/-- An event with this number was returned. -/
def Handed (log : List Entry) (sequence : ℕ) : Prop :=
  ∃ events, Entry.returned events ∈ log ∧ ∃ e ∈ events, e.sequence = sequence

/-- What may follow in the log. -/
def Allowed (processId creation : UInt64) (log : List Entry) : Entry → Prop
  | .checked => True
  | .published content => content.valid = true ∧ pending log < capacity ∧
    (published log).length < 2 ^ 63 - 1
  | .dropped content => content.valid = true ∧ ∃ earlier between,
    log = earlier ++ .checked :: between ∧ (∀ e ∈ between, e.consumers = true) ∧
      (pending earlier = capacity ∨ (published earlier).length = 2 ^ 63 - 1)
  | .invalid content => content.valid = false
  | .unattended content lease => content.valid = true ∧ Producer.leaseIsActive lease = false
  | .returned events => Faithful processId creation log events
  | .acknowledged event => event.sequence = (acknowledged log).length + 1 ∧
    event.sequence ≤ (published log).length ∧ Handed log event.sequence

/-- What holds between any two accesses. -/
structure Inv (processId creation : UInt64) (s : Storage) : Prop where
  owner : s.memory .processId = processId
  lifetime : s.memory .creation = creation
  write : (s.memory .write).toNat = (published s.log).length
  read : (s.memory .read).toNat = (acknowledged s.log).length
  dropped : s.memory .dropped = UInt64.ofNat (s.log.countP Entry.isDropped)
  bounded : (published s.log).length ≤ 2 ^ 63 - 1
  behind : (acknowledged s.log).length ≤ (published s.log).length
  ahead : (published s.log).length ≤ (acknowledged s.log).length + capacity
  slots : ∀ k content, (acknowledged s.log).length ≤ k → (published s.log)[k]? = some content →
    ∀ field, s.memory (.slot (slotOf (k + 1)) field) = content.field (UInt64.ofNat (k + 1)) field
  allowed : Foreseen (Allowed processId creation) s.log

/-! ## What each side leaves alone -/

/-- Only one side wrote. -/
structure Moves (side : Bool) (s s' : Storage) : Prop where
  memory : ∀ x : Cell, x.consumers = !side → s'.memory x = s.memory x
  log : ∃ entries, s'.log = s.log ++ entries ∧ ∀ e ∈ entries, e.consumers = side

namespace Moves

variable {side : Bool} {s s' s'' : Storage}

theorem refl (side : Bool) (s : Storage) : Moves side s s :=
  ⟨fun _ _ => rfl, [], (append_nil _).symm, nofun⟩

theorem trans (h : Moves side s s') (h' : Moves side s' s'') : Moves side s s'' := by
  obtain ⟨entries, hlog, hentries⟩ := h.log
  obtain ⟨entries', hlog', hentries'⟩ := h'.log
  refine ⟨fun x hx => (h'.memory x hx).trans (h.memory x hx), entries ++ entries', ?_, ?_⟩
  · rw [hlog', hlog, append_assoc]
  · intro e he
    rcases mem_append.1 he with he | he
    · exact hentries e he
    · exact hentries' e he

/-- The consumer publishes nothing. -/
theorem published_eq (h : Moves true s s') : published s'.log = published s.log := by
  obtain ⟨entries, hlog, hentries⟩ := h.log
  rw [hlog, published_append, published_eq_nil hentries, append_nil]

/-- The producer acknowledges nothing. -/
theorem acknowledged_eq (h : Moves false s s') : acknowledged s'.log = acknowledged s.log := by
  obtain ⟨entries, hlog, hentries⟩ := h.log
  rw [hlog, acknowledged_append, acknowledged_eq_nil hentries, append_nil]

theorem acknowledged_le (h : Moves side s s') :
    (acknowledged s.log).length ≤ (Channel.acknowledged s'.log).length := by
  obtain ⟨entries, hlog, -⟩ := h.log
  rw [hlog, acknowledged_append, length_append]
  omega

theorem published_eq_append (h : Moves side s s') :
    ∃ more, Channel.published s'.log = published s.log ++ more := by
  obtain ⟨entries, hlog, -⟩ := h.log
  exact ⟨_, by rw [hlog, published_append]⟩

end Moves

/-- The roles of the consumer (`true`) and of the producer. -/
def role (processId creation : UInt64) (side : Bool) : Role Storage where
  inv := Inv processId creation
  rely := Moves !side
  guarantee := Moves side
  rely_refl := Moves.refl _
  rely_trans := Moves.trans

/-! ## Single accesses -/

section Accesses

variable {processId creation : UInt64} {side : Bool} {s : Storage}

variable {x : Cell}

/-- A write to a field on which nothing depends. -/
theorem Inv.update (hs : Inv processId creation s) (value : UInt64)
    (hx : x ∉ [Cell.processId, .creation, .write, .read, .dropped])
    (hslot : ∀ k, (acknowledged s.log).length ≤ k → k < (published s.log).length →
      ∀ field, x ≠ .slot (slotOf (k + 1)) field) :
    Inv processId creation ⟨Function.update s.memory x value, s.log⟩ := by
  have hsame : ∀ y ∈ [Cell.processId, .creation, .write, .read, .dropped],
      Function.update s.memory x value y = s.memory y := by
    intro y hy
    rw [Function.update_of_ne]
    rintro rfl
    exact hx hy
  refine ⟨?_, ?_, ?_, ?_, ?_, hs.bounded, hs.behind, hs.ahead, ?_, hs.allowed⟩
  · exact (hsame .processId (by simp)).trans hs.owner
  · exact (hsame .creation (by simp)).trans hs.lifetime
  · exact (congrArg UInt64.toNat (hsame .write (by simp))).trans hs.write
  · exact (congrArg UInt64.toNat (hsame .read (by simp))).trans hs.read
  · exact (hsame .dropped (by simp)).trans hs.dropped
  · intro k content hk hcontent field
    have hlt : k < (published s.log).length := (List.getElem?_eq_some_iff.1 hcontent).1
    show Function.update s.memory x value _ = _
    rw [Function.update_of_ne (hslot k hk hlt field).symm]
    exact hs.slots k content hk hcontent field

variable {e : Entry}

/-- An entry that moves nothing in the queue. -/
theorem Inv.append (hs : Inv processId creation s) {memory : Memory}
    (hpublished : e.published? = none) (hacknowledged : e.acknowledged? = none)
    (hmemory : ∀ x, x ≠ .dropped → memory x = s.memory x)
    (hdropped : memory .dropped = UInt64.ofNat ((s.log ++ [e]).countP Entry.isDropped))
    (he : Allowed processId creation s.log e) : Inv processId creation ⟨memory, s.log ++ [e]⟩ := by
  have hp : published (s.log ++ [e]) = published s.log := by
    rw [published_append, published_singleton, hpublished, Option.toList_none, append_nil]
  have ha : acknowledged (s.log ++ [e]) = acknowledged s.log := by
    rw [acknowledged_append, acknowledged_singleton, hacknowledged, Option.toList_none,
      append_nil]
  refine ⟨?_, ?_, ?_, ?_, hdropped, ?_, ?_, ?_, ?_, hs.allowed.append he⟩
  · exact (hmemory .processId nofun).trans hs.owner
  · exact (hmemory .creation nofun).trans hs.lifetime
  · rw [hp, ← hs.write]
    exact congrArg UInt64.toNat (hmemory .write nofun)
  · rw [ha, ← hs.read]
    exact congrArg UInt64.toNat (hmemory .read nofun)
  · rw [hp]
    exact hs.bounded
  · rw [hp, ha]
    exact hs.behind
  · rw [hp, ha]
    exact hs.ahead
  · rw [hp, ha]
    exact fun k content hk hcontent field =>
      (hmemory (.slot (slotOf (k + 1)) field) nofun).trans (hs.slots k content hk hcontent field)

/-- An entry that nothing depends on. -/
theorem Inv.note (hs : Inv processId creation s) (hpublished : e.published? = none)
    (hacknowledged : e.acknowledged? = none) (hdropped : e.isDropped = false)
    (he : Allowed processId creation s.log e) :
    Inv processId creation ⟨s.memory, s.log ++ [e]⟩ := by
  refine hs.append hpublished hacknowledged (fun _ _ => rfl) ?_ he
  rw [countP_append, countP_cons_of_neg (by simp [hdropped]), countP_nil,
    Nat.add_zero]
  exact hs.dropped

theorem Moves.of_update (value : UInt64) (hx : x.consumers = side) :
    Moves side s ⟨update s.memory x value, s.log⟩ where
  memory y hy := by
    refine update_of_ne ?_ _ _
    rintro rfl
    rw [hx] at hy
    cases side <;> cases hy
  log := ⟨[], (append_nil _).symm, nofun⟩

theorem Moves.of_append (he : e.consumers = side) :
    Moves side s ⟨s.memory, s.log ++ [e]⟩ where
  memory _ _ := rfl
  log := ⟨[e], rfl, by simpa using he⟩

variable {P : Storage → Prop} {Q : UInt64 → Storage → Prop} {R : Unit → Storage → Prop}

theorem good_load (hP : (role processId creation side).Stable P) (hs : P s)
    (h : ∀ s, Inv processId creation s → P s → Q (s.memory x) s)
    (hQ : ∀ value, (role processId creation side).Stable (Q value)) :
    (role processId creation side).Good Q (load x) s :=
  .atomically hP hs (fun s' hinv hs' => ⟨hinv, Moves.refl _ _, h s' hinv hs'⟩) hQ

variable {value : UInt64}

theorem good_store (hx : x.consumers = side) (hP : (role processId creation side).Stable P)
    (hs : P s) (h : ∀ s, Inv processId creation s → P s →
      Inv processId creation ⟨update s.memory x value, s.log⟩ ∧
        R ⟨⟩ ⟨update s.memory x value, s.log⟩)
    (hR : ∀ u, (role processId creation side).Stable (R u)) :
    (role processId creation side).Good R (store x value) s := by
  refine .atomically hP hs (fun s' hinv hs' => ?_) hR
  rw [append_nil]
  exact ⟨(h s' hinv hs').1, Moves.of_update value hx, (h s' hinv hs').2⟩

theorem good_note (he : e.consumers = side) (hP : (role processId creation side).Stable P)
    (hs : P s) (h : ∀ s, Inv processId creation s → P s →
      Inv processId creation ⟨s.memory, s.log ++ [e]⟩ ∧ R ⟨⟩ ⟨s.memory, s.log ++ [e]⟩)
    (hR : ∀ u, (role processId creation side).Stable (R u)) :
    (role processId creation side).Good R (note e) s :=
  .atomically hP hs
    (fun s' hinv hs' => ⟨(h s' hinv hs').1, Moves.of_append he, (h s' hinv hs').2⟩) hR

theorem good_storeWith (hx : x.consumers = side) (he : e.consumers = side)
    (hP : (role processId creation side).Stable P) (hs : P s)
    (h : ∀ s, Inv processId creation s → P s →
      Inv processId creation ⟨update s.memory x value, s.log ++ [e]⟩ ∧
        R ⟨⟩ ⟨update s.memory x value, s.log ++ [e]⟩)
    (hR : ∀ u, (role processId creation side).Stable (R u)) :
    (role processId creation side).Good R (storeWith [e] x value) s :=
  .atomically hP hs
    (fun s' hinv hs' => ⟨(h s' hinv hs').1,
      (Moves.of_update value hx).trans (Moves.of_append he), (h s' hinv hs').2⟩) hR

end Accesses

/-! ## The producer is sound -/

namespace Producer

variable {processId creation : UInt64} {s s' : Storage} {content : Content} {w r : UInt64}

/-- The producer relies on the consumer's moves. -/
theorem stable {P : Storage → Prop} (h : ∀ s s', Moves true s s' → P s → P s') :
    (role processId creation false).Stable P :=
  fun s s' hmoves _ => h s s' hmoves

/-- What is known once both numbers are read. -/
structure Checked (w r : UInt64) (s : Storage) : Prop where
  write : w.toNat = (published s.log).length
  log : ∃ earlier between, s.log = earlier ++ .checked :: between ∧
    (∀ e ∈ between, e.consumers = true) ∧ r.toNat = (acknowledged earlier).length
  behind : r.toNat ≤ w.toNat
  ahead : w.toNat ≤ r.toNat + capacity
  bounded : w.toNat ≤ 2 ^ 63 - 1

theorem Checked.stable : (role processId creation false).Stable (Checked w r) := by
  refine Producer.stable fun s s' hmoves hs => ?_
  obtain ⟨earlier, between, hlog, hbetween, hread⟩ := hs.log
  obtain ⟨entries, hlog', hentries⟩ := hmoves.log
  refine ⟨hmoves.published_eq.symm ▸ hs.write, ⟨earlier, between ++ entries, ?_, ?_, hread⟩,
    hs.behind, hs.ahead, hs.bounded⟩
  · rw [hlog', hlog, append_assoc, cons_append]
  · intro e he
    rcases mem_append.1 he with he | he
    · exact hbetween e he
    · exact hentries e he

/-- The consumer moves on only. -/
theorem Checked.read_le (hs : Checked w r s) : r.toNat ≤ (acknowledged s.log).length := by
  obtain ⟨earlier, between, hlog, -, hread⟩ := hs.log
  rw [hlog, acknowledged_append, length_append]
  omega

theorem Checked.published_eq (hs : Checked w r s) {earlier between : List Entry}
    (hlog : s.log = earlier ++ .checked :: between) (hbetween : ∀ e ∈ between, e.consumers = true) :
    (published earlier).length = w.toNat := by
  have hnone : published (.checked :: between) = published between := rfl
  rw [hs.write, hlog, published_append, hnone, published_eq_nil hbetween, append_nil]

theorem good_drop {error : UInt64} (hs : Allowed processId creation s.log (.dropped content)) :
    (role processId creation false).Good (fun _ _ => True) (drop content error) s := by
  have hstable : (role processId creation false).Stable
      fun s => Allowed processId creation s.log (Entry.dropped content) := by
    refine Producer.stable fun s s' hmoves hs => ?_
    obtain ⟨hvalid, earlier, between, hlog, hbetween, hfull⟩ := hs
    obtain ⟨entries, hlog', hentries⟩ := hmoves.log
    refine ⟨hvalid, earlier, between ++ entries, ?_, ?_, hfull⟩
    · rw [hlog', hlog, append_assoc, cons_append]
    · intro e he
      rcases mem_append.1 he with he | he
      · exact hbetween e he
      · exact hentries e he
  refine .bind (good_store (R := fun _ s => Allowed processId creation s.log
    (Entry.dropped content)) rfl hstable hs (fun s hinv hs => ⟨?_, hs⟩) fun _ => hstable) ?_
  · exact hinv.update error (by decide) fun k _ _ field => nofun
  · intro _ s hinv hs
    refine .bind (.atomically (Q := fun _ _ => True) hstable hs ?_
      fun _ _ _ _ _ => id) fun _ _ _ _ => .ret (fun _ _ _ _ => id) trivial
    intro s hinv hs
    refine ⟨?_, ⟨?_, [.dropped content], rfl, by simp [Entry.consumers]⟩, trivial⟩
    · refine hinv.append rfl rfl (fun x hx => update_of_ne hx _ _) ?_ hs
      have hcount : (s.log ++ [Entry.dropped content]).countP Entry.isDropped =
          s.log.countP Entry.isDropped + 1 := by
        rw [countP_append]
        rfl
      rw [hcount, UInt64.ofNat_add, ← hinv.dropped]
      exact update_self ..
    · intro x hx
      refine update_of_ne ?_ _ _
      rintro rfl
      cases hx

/-- A slot is free, and some of its fields are written. -/
structure Filled (content : Content) (w : UInt64) (done : List Field) (s : Storage) : Prop where
  valid : content.valid = true
  write : w.toNat = (published s.log).length
  room : (published s.log).length < (acknowledged s.log).length + capacity
  bounded : w.toNat < 2 ^ 63 - 1
  fields : ∀ field ∈ done,
    s.memory (.slot (slotOf (w.toNat + 1)) field) = content.field (w + 1) field

variable {done : List Field}

theorem Filled.of_moves (hs : Filled content w done s) (hmoves : Moves true s s') :
    Filled content w done s' := by
  have hle := hmoves.acknowledged_le
  refine ⟨hs.valid, ?_, ?_, hs.bounded, fun field hfield => ?_⟩
  · rw [hmoves.published_eq]
    exact hs.write
  · have hroom := hs.room
    rw [hmoves.published_eq]
    omega
  · rw [hmoves.memory _ rfl]
    exact hs.fields field hfield

theorem Filled.stable : (role processId creation false).Stable (Filled content w done) :=
  Producer.stable fun _ _ hmoves hs => hs.of_moves hmoves

theorem slotOf_ne {j k : ℕ} (hlt : j < k) (h : k < j + capacity) :
    slotOf (j + 1) ≠ slotOf (k + 1) := by
  intro heq
  have hmod : j % 64 = k % 64 := congrArg Fin.val heq
  have h64 : k < j + 64 := h
  omega

/-- The slot after the last event belongs to no pending event. -/
theorem Filled.free (hs : Filled content w done s) (field : Field) {k : ℕ}
    (hk : (acknowledged s.log).length ≤ k) (hlt : k < (published s.log).length) (field' : Field) :
    Cell.slot (slotOf (w.toNat + 1)) field ≠ .slot (slotOf (k + 1)) field' := by
  intro heq
  have hslot := (Cell.slot.inj heq).1
  have hroom := hs.room
  have hwrite := hs.write
  exact slotOf_ne (by omega) (by omega) hslot.symm

theorem good_storeSlot {field : Field} (hs : Filled content w done s) (value : UInt64)
    (hvalue : field ∉ done ∨ value = content.field (w + 1) field) :
    (role processId creation false).Good
      (fun _ s => Filled content w done s ∧ s.memory (.slot (slotOf (w.toNat + 1)) field) = value)
      (store (.slot (slotOf (w.toNat + 1)) field) value) s := by
  refine good_store rfl Filled.stable hs (fun s hinv hs => ⟨?_, ?_, ?_⟩) fun _ => ?_
  · refine hinv.update value (by simp) fun k hk hlt field' => ?_
    exact hs.free field hk hlt field'
  · refine ⟨hs.valid, hs.write, hs.room, hs.bounded, fun field' hfield' => ?_⟩
    by_cases heq : field' = field
    · subst heq
      rcases hvalue with hnot | hvalue
      · exact absurd hfield' hnot
      · exact (update_self ..).trans hvalue
    · refine (update_of_ne ?_ _ _).trans (hs.fields field' hfield')
      exact fun hslot => heq (Cell.slot.inj hslot).2
  · exact update_self ..
  · refine Producer.stable fun s s' hmoves hs => ⟨?_, ?_⟩
    · exact hs.1.of_moves hmoves
    · exact (hmoves.memory _ rfl).trans hs.2

/-- The loop invariant of the writes of the fields. -/
theorem good_storeFields (fields done : List Field) (hs : Filled content w done s) :
    (role processId creation false).Good (fun _ s => Filled content w (fields ++ done) s)
      (fields.forM fun field => store (.slot (slotOf (w.toNat + 1)) field)
        (content.field (w + 1) field)) s := by
  induction fields generalizing done s with
  | nil => exact .ret Filled.stable hs
  | cons field fields ih =>
    refine .bind (good_storeSlot hs _ (.inr rfl)) fun _ s _ hs => ?_
    have hcons : Filled content w (field :: done) s := by
      refine ⟨hs.1.valid, hs.1.write, hs.1.room, hs.1.bounded, fun field' hfield' => ?_⟩
      rcases mem_cons.1 hfield' with rfl | hfield'
      · exact hs.2
      · exact hs.1.fields field' hfield'
    refine (ih (field :: done) hcons).imp fun _ s _ hs => ?_
    refine ⟨hs.valid, hs.write, hs.room, hs.bounded, fun field' hfield' => ?_⟩
    refine hs.fields field' (mem_append.2 ?_)
    rw [cons_append, mem_cons, mem_append] at hfield'
    rcases hfield' with rfl | hfield' | hfield'
    · exact .inr mem_cons_self
    · exact .inl hfield'
    · exact .inr (mem_cons_of_mem field hfield')

theorem toNat_add_one (h : w.toNat < 2 ^ 63 - 1) : (w + 1).toNat = w.toNat + 1 := by
  rw [UInt64.toNat_add, UInt64.toNat_one]
  omega

theorem add_one_eq_ofNat : w + 1 = UInt64.ofNat (w.toNat + 1) := by
  rw [UInt64.ofNat_add, UInt64.ofNat_toNat]
  rfl

/-- A full slot becomes the last event. -/
theorem Filled.inv (hs : Filled content w done s) (hinv : Inv processId creation s)
    (hdone : ∀ field, field ∈ done) :
    Inv processId creation
      ⟨update s.memory .write (w + 1), s.log ++ [.published content]⟩ := by
  have hp : published (s.log ++ [.published content]) = published s.log ++ [content] := by
    rw [published_append, published_singleton]
    rfl
  have ha : acknowledged (s.log ++ [.published content]) = acknowledged s.log := by
    rw [acknowledged_append, acknowledged_singleton]
    exact append_nil _
  have hwrite := hs.write
  have hbounded := hs.bounded
  have hroom := hs.room
  have hbehind := hinv.behind
  refine ⟨hinv.owner, hinv.lifetime, ?_, ?_, ?_, ?_, ?_, ?_, ?_, hinv.allowed.append ?_⟩
  · rw [hp, length_append, ← hwrite]
    show (update s.memory .write (w + 1) .write).toNat = _
    rw [update_self]
    exact toNat_add_one hbounded
  · rw [ha]
    exact hinv.read
  · rw [countP_append]
    exact hinv.dropped
  · rw [hp, length_append, length_singleton]
    omega
  · rw [hp, ha, length_append]
    omega
  · rw [hp, ha, length_append, length_singleton]
    omega
  · intro k content' hk hcontent field
    rw [ha] at hk
    rw [hp] at hcontent
    show s.memory _ = _
    -- the new event is in the slot just filled, and the others are as they were
    by_cases hlast : k = w.toNat
    · subst hlast
      rw [hwrite, List.getElem?_concat_length] at hcontent
      cases hcontent
      rw [← add_one_eq_ofNat]
      exact hs.fields field (hdone field)
    · have hlt : k < (published s.log).length := by
        have hlt := (List.getElem?_eq_some_iff.1 hcontent).1
        rw [length_append, length_singleton] at hlt
        omega
      rw [List.getElem?_append_left hlt] at hcontent
      exact hinv.slots k content' hk hcontent field
  · refine ⟨hs.valid, ?_, ?_⟩
    · show (published s.log).length - (acknowledged s.log).length < capacity
      have hcapacity : 0 < capacity := by decide
      omega
    · omega

theorem good_writeSlot (hs : Filled content w [] s) :
    (role processId creation false).Good (fun _ _ => True)
      (writeSlot content (Fin.ofNat capacity w.toNat) (w + 1)) s := by
  have htrue : (role processId creation false).Stable fun _ => True := fun _ _ _ _ => id
  have herror : ∀ value s, (role processId creation false).Good (fun _ _ => True)
      (store .error value) s := by
    intro value s
    refine good_store rfl htrue trivial (fun s hinv _ => ⟨?_, trivial⟩) fun _ => htrue
    exact hinv.update value (by decide) fun k _ _ field => nofun
  refine .bind (good_storeSlot hs 0 (.inl (not_mem_nil))) fun _ s _ hs => ?_
  refine .bind (good_storeFields Content.fields [] hs.1) fun _ s _ hs => ?_
  rw [append_nil] at hs
  refine .bind (good_storeSlot hs (w + 1) (.inl (by decide))) fun _ s _ hs => ?_
  have hall : Filled content w (.committed :: Content.fields) s := by
    refine ⟨hs.1.valid, hs.1.write, hs.1.room, hs.1.bounded, fun field hfield => ?_⟩
    rcases mem_cons.1 hfield with rfl | hfield
    · exact hs.2
    · exact hs.1.fields field hfield
  refine .bind (good_storeWith (R := fun _ _ => True) rfl rfl Filled.stable hall
    (fun s hinv hs => ⟨?_, trivial⟩) fun _ => htrue) fun _ s _ _ => ?_
  · exact hs.inv hinv fun field => by cases field <;> decide
  refine .bind (herror 0 s) fun _ s _ _ => ?_
  refine .bind (.anything htrue trivial) fun error s _ _ => ?_
  by_cases hzero : error = 0
  · rw [if_pos hzero]
    exact .ret htrue trivial
  · rw [if_neg hzero]
    exact .bind (herror error s) fun _ _ _ _ => .ret htrue trivial

/-- The number of the last event, which only the producer changes. -/
def Last (w : UInt64) (s : Storage) : Prop :=
  w.toNat = (published s.log).length ∧ w.toNat ≤ 2 ^ 63 - 1

theorem Last.stable : (role processId creation false).Stable (Last w) := by
  refine Producer.stable fun s s' hmoves hs => ⟨?_, hs.2⟩
  rw [hmoves.published_eq]
  exact hs.1

theorem Checked.of_inv (hinv : Inv processId creation s) (hlast : Last w s) :
    Checked w (s.memory .read) ⟨s.memory, s.log ++ [.checked]⟩ := by
  have hread := hinv.read
  have hbehind := hinv.behind
  have hahead := hinv.ahead
  refine ⟨?_, ⟨s.log, [], rfl, nofun, hread⟩, ?_, ?_, hlast.2⟩
  · rw [published_append, published_singleton]
    exact hlast.1.trans (congrArg List.length (append_nil _).symm)
  · have hwrite := hlast.1
    omega
  · have hwrite := hlast.1
    omega

/-- What the guards of a drop mean for the queue at the time of the check. -/
theorem Checked.droppable (hs : Checked w r s) (hvalid : content.valid = true)
    (hfull : w = 0x7FFFFFFFFFFFFFFF ∨ capacity ≤ (w - r).toNat) :
    Allowed processId creation s.log (.dropped content) := by
  obtain ⟨earlier, between, hlog, hbetween, hread⟩ := hs.log
  have hwrite := hs.published_eq hlog hbetween
  refine ⟨hvalid, earlier, between, hlog, hbetween, ?_⟩
  rcases hfull with rfl | hfull
  · exact .inr hwrite
  · left
    have hle : r ≤ w := UInt64.le_iff_toNat_le.2 hs.behind
    rw [UInt64.toNat_sub_of_le _ _ hle] at hfull
    have hahead := hs.ahead
    show (published earlier).length - (acknowledged earlier).length = capacity
    omega

theorem good_publish (hvalid : content.valid = true) :
    (role processId creation false).Good (fun _ _ => True) (publish content) s := by
  have htrue : (role processId creation false).Stable fun _ => True := fun _ _ _ _ => id
  refine .bind (good_load (Q := Last) htrue trivial
    (fun s hinv _ => ⟨hinv.write, hinv.write ▸ hinv.bounded⟩) fun _ => Last.stable)
    fun w s _ hlast => ?_
  refine .bind (.atomically (Q := Checked w) Last.stable hlast
    (fun s hinv hlast => ⟨hinv.note rfl rfl rfl trivial, Moves.of_append rfl,
      Checked.of_inv hinv hlast⟩) fun _ => Checked.stable) fun r s _ hs => ?_
  by_cases hbroken : 2 ^ 63 ≤ w.toNat ∨ 2 ^ 63 ≤ r.toNat ∨ w < r ∨ w = 0x7FFFFFFFFFFFFFFF
  · rw [if_pos hbroken]
    have hbounded := hs.bounded
    have hbehind := hs.behind
    refine good_drop (hs.droppable hvalid (.inl ?_))
    -- the numbers themselves are never out of range or order
    rcases hbroken with hw | hr | hlt | hlast
    · omega
    · omega
    · have hlt := UInt64.lt_iff_toNat_lt.1 hlt
      omega
    · exact hlast
  · rw [if_neg hbroken]
    by_cases hfull : capacity ≤ (w - r).toNat
    · rw [if_pos hfull]
      exact good_drop (hs.droppable hvalid (.inr hfull))
    · rw [if_neg hfull]
      have hle : r ≤ w := UInt64.le_iff_toNat_le.2 hs.behind
      rw [UInt64.toNat_sub_of_le _ _ hle] at hfull
      have hread := hs.read_le
      have hwrite := hs.write
      refine good_writeSlot ⟨hvalid, hs.write, by omega, ?_, nofun⟩
      have hne : w.toNat ≠ 2 ^ 63 - 1 := fun heq =>
        hbroken (.inr (.inr (.inr (UInt64.toNat_inj.1 heq))))
      have hbounded := hs.bounded
      omega

/-- Whatever the consumer does, publishing keeps the queue. -/
theorem good_tryPublish (content : Content) (requireActiveConsumer : Bool) (s : Storage) :
    (role processId creation false).Good (fun _ _ => True)
      (tryPublish content requireActiveConsumer) s := by
  have htrue : (role processId creation false).Stable fun _ => True := fun _ _ _ _ => id
  rw [tryPublish]
  by_cases hvalid : content.valid = true
  · rw [if_neg (not_not.2 hvalid)]
    cases requireActiveConsumer with
    | false => exact good_publish hvalid
    | true =>
      have hlease : (role processId creation false).Good (fun _ _ => True) consumerLease s :=
        .bind (good_load htrue trivial (fun _ _ => id) fun _ => htrue) fun _ s _ hs =>
          .bind (good_load htrue hs (fun _ _ => id) fun _ => htrue) fun _ s _ hs =>
            .bind (.anything htrue hs) fun _ s _ hs => .ret htrue hs
      refine .bind hlease fun lease s _ _ => ?_
      by_cases hactive : leaseIsActive lease = true
      · rw [if_pos hactive]
        exact good_publish hvalid
      · rw [if_neg hactive]
        refine .bind (good_note (R := fun _ _ => True) rfl htrue trivial
          (fun s hinv _ => ⟨hinv.note rfl rfl rfl ?_, trivial⟩) fun _ => htrue)
          fun _ _ _ _ => .ret htrue trivial
        exact ⟨hvalid, Bool.eq_false_iff.2 hactive⟩
  · rw [if_pos hvalid]
    refine .bind (good_storeWith (R := fun _ _ => True) rfl rfl htrue trivial
      (fun s hinv _ => ⟨?_, trivial⟩) fun _ => htrue) fun _ _ _ _ => .ret htrue trivial
    have hupdate := hinv.update (x := .error) 13 (by decide) fun k _ _ field => nofun
    exact hupdate.note rfl rfl rfl (Bool.eq_false_iff.2 hvalid)

end Producer

end ShadowbaneLab.Channel
