/-
# Runs of a vendor batch

Whatever the session, the callbacks and the file system answer, a creation is sent after it was
written down, one request at a time, and a complete batch accounts for every slot.
-/
import Mathlib.Data.Int.ConditionallyCompleteOrder
import ShadowbaneLab.Client.VendorBatch
import ShadowbaneLab.Foundation.Ledger

namespace ShadowbaneLab.VendorBatch

open Foundation VendorWire List

variable {Time : Type}

/-! ## What a trace shows -/

namespace Event

/-- The key of a creation. -/
def createdKey : Event Time → Option String
  | .created _ key _ => some key
  | _ => none

def drawnKey : Event Time → Option String
  | .drew key => some key
  | _ => none

/-- The receipt of an inspection. -/
def receipt : Event Time → Option Receipt
  | .inspected (.ok receipt) => some receipt
  | _ => none

/-- The record that is published. -/
def record : Event Time → Option Record
  | .published record _ => some record
  | _ => none

/-- The record that the journal holds from then on. -/
def replacement : Event Time → Option Record
  | .published record .published => some record
  | .published record (.raised _ true) => some record
  | _ => none

end Event

/-- What the journal holds after a trace. -/
def durable (trace : List (Event Time)) : Option Record :=
  (trace.filterMap Event.replacement).getLast?

/-- The journal holds the record, unless a publication raised. -/
def Stored (s : Batch Time) : Prop :=
  durable s.trace = some s.state ∨ ∃ record e replaced, .published record (.raised e replaced) ∈ s.trace

/-- A creation is in the journal, as the one request that is not yet observed, and the earlier
creations are in it too. -/
def Ahead (before : List (Event Time)) (e : Event Time) : Prop :=
  ∀ key, e.createdKey = some key → ∃ record done request, durable before = some record ∧
    record.requests = done ++ [request] ∧ request.requestKey = key ∧
    request.state = .prepared ∧ (∀ q ∈ done, q.state = .observed) ∧
    ∀ k ∈ before.filterMap Event.createdKey, ∃ q ∈ done, q.requestKey = k

/-- The items of a record are those of its requests; no item has two requests, and none was there
before. -/
structure Sound (baseline : Finset Int) (record : Record) : Prop where
  items : record.items = record.requests.flatMap Request.attributed
  nodup : record.items.Nodup
  fresh : ∀ i ∈ record.items, i ∉ baseline

/-- What the trace of a batch shows. -/
structure Journaled (trace : List (Event Time)) : Prop where
  ahead : Foreseen Ahead trace
  /-- Every creation takes a key of its own. -/
  keys : (trace.filterMap Event.createdKey).Sublist (trace.filterMap Event.drawnKey)
  sound : ∀ first, (trace.filterMap Event.receipt).head? = some first →
    ∀ record ∈ trace.filterMap Event.record, Sound (itemsOf first.snapshot) record

/-- A complete batch: what was seen last is what was there at first and what was recorded, and no
slot is free. -/
def Complete (trace : List (Event Time)) (record : Record) : Prop :=
  ∃ first last, (trace.filterMap Event.receipt).head? = some first ∧
    (trace.filterMap Event.receipt).getLast? = some last ∧
    itemsOf last.snapshot = itemsOf first.snapshot ∪ record.items.toFinset ∧
    last.snapshot.freeSlots = 0

/-! ## The invariant -/

variable {c : Context}

/-- What holds of a batch at any time. -/
structure Written (c : Context) (s : Batch Time) : Prop where
  ahead : Foreseen Ahead s.trace
  published : ∀ record ∈ s.trace.filterMap Event.record, Sound c.baseline record
  sound : Sound c.baseline s.state
  drawn : (s.state.requests.map Request.requestKey).Sublist (s.trace.filterMap Event.drawnKey)
  created : (s.trace.filterMap Event.createdKey).Sublist (s.state.requests.map Request.requestKey)
  first : (s.trace.filterMap Event.receipt).head? = some c.first

/-- A batch with something known of its record and the last receipt. -/
def Stands (c : Context) (P : Record → Option Receipt → Prop) (s : Batch Time) : Prop :=
  Written c s ∧ P s.state (s.trace.filterMap Event.receipt).getLast?

variable {e : Event Time}

variable {record : Record}

namespace Written

variable {s : Batch Time}

theorem journaled (hs : Written c s) : Journaled s.trace where
  ahead := hs.ahead
  keys := hs.created.trans hs.drawn
  sound := by
    intro first hfirst
    rw [hs.first] at hfirst
    cases hfirst
    exact hs.published

/-- A call that is no creation. -/
theorem call (hs : Written c s) (hcreated : e.createdKey = none)
    (hrecord : ∀ record, e.record = some record → Sound c.baseline record) :
    Written c { s with trace := s.trace ++ [e] } := by
  constructor
  · refine hs.ahead.append fun key hkey => ?_
    rw [hcreated] at hkey
    cases hkey
  · intro record hmem
    rw [filterMap_append_single, mem_append, Option.mem_toList] at hmem
    rcases hmem with hmem | hmem
    · exact hs.published record hmem
    · exact hrecord record hmem
  · exact hs.sound
  · rw [filterMap_append_single]
    exact hs.drawn.trans (sublist_append_left _ _)
  · rw [filterMap_append_single, hcreated, Option.toList_none, append_nil]
    exact hs.created
  · rw [filterMap_append_single, List.head?_append, hs.first, Option.some_or]

theorem quiet (hs : Written c s) (hcreated : e.createdKey = none) (hrecord : e.record = none) :
    Written c { s with trace := s.trace ++ [e] } := by
  refine hs.call hcreated fun record hr => ?_
  rw [hrecord] at hr
  cases hr

/-- A change of the record that keeps its keys. -/
theorem change (hs : Written c s) (hsound : Sound c.baseline record)
    (hkeys : record.requests.map Request.requestKey = s.state.requests.map Request.requestKey) :
    Written c { s with state := record } := by
  refine { hs with sound := hsound, drawn := ?_, created := ?_ }
  · rw [hkeys]
    exact hs.drawn
  · rw [hkeys]
    exact hs.created

end Written

/-! ## Rules of the calls -/

variable {fails : Raised → Batch Time → Prop}

variable {α : Type}

variable {answer : List (Event Time) → Except Raised α} {event : Except Raised α → Event Time}

section Rules

variable {world : World Time} {P : Record → Option Receipt → Prop}

/-- A call that is no inspection, publication or creation. -/
theorem ensures_call
    (h : ∀ r, (event r).createdKey = none ∧ (event r).record = none ∧ (event r).receipt = none) :
    Ensures (Stands c P) (Traced.ask answer event) (fun _ => Stands c P) fun _ => Written c := by
  have hcall {s : Batch Time} (hs : Stands c P s) (r : Except Raised α) :
      Stands c P { s with trace := s.trace ++ [event r] } := by
    obtain ⟨hcreated, hrecord, hreceipt⟩ := h r
    refine ⟨hs.1.quiet hcreated hrecord, ?_⟩
    rw [filterMap_append_single, hreceipt, Option.toList_none, append_nil]
    exact hs.2
  exact Traced.ensures_ask (fun s a hs => hcall hs (.ok a)) fun s e hs => (hcall hs (.error e)).1

theorem ensures_inspect {P : Record → Prop} :
    Ensures (Stands c fun record _ => P record) (inspect world c)
      (fun receipt => Stands c fun record last => P record ∧ last = some receipt)
      fun _ => Written c := by
  refine Traced.ensures_ask (fun s receipt hs => ⟨hs.1.quiet rfl rfl, hs.2, ?_⟩) fun s e hs =>
    hs.1.quiet rfl rfl
  rw [filterMap_append_single]
  exact List.getLast?_concat

/-- A publication: what it keeps is kept, and the record is in the journal or the trace says why
not. -/
theorem ensures_publish {pre kept : Batch Time → Prop} (h : ∀ s publication, pre s →
      kept { s with trace := s.trace ++ [Event.published s.state publication] }) :
    Ensures pre (save world) (fun _ s => kept s ∧ durable s.trace = some s.state)
      fun _ s => kept s ∧ Stored s := by
  refine .get_bind fun s₀ hs => ?_
  cases hpublish : world.publish s₀.state s₀.trace with
  | published =>
    rintro s rfl
    refine ⟨h _ _ hs, ?_⟩
    rw [durable, filterMap_append_single]
    exact List.getLast?_concat
  | raised e replaced =>
    rintro s rfl
    refine ⟨h _ _ hs, .inr ⟨s.state, e, replaced, ?_⟩⟩
    exact mem_append_right _ (mem_singleton_self _)

/-- A publication; what other events do not touch is kept. -/
theorem ensures_save_keeping {K : Record → List String → Prop} : Ensures
    (fun s => Stands c P s ∧ K s.state (s.trace.filterMap Event.createdKey)) (save world)
    (fun _ s => (Stands c P s ∧ durable s.trace = some s.state) ∧
      K s.state (s.trace.filterMap Event.createdKey)) fun _ => Written c := by
  refine (@ensures_publish _ _ _ (fun s =>
      Stands c P s ∧ K s.state (s.trace.filterMap Event.createdKey))
    fun s publication ⟨hs, hkept⟩ => ?_).weaken (fun _ hs => hs)
    (fun _ _ hs => ⟨⟨hs.1.1, hs.2⟩, hs.1.2⟩) fun _ _ hs => hs.1.1.1
  refine ⟨⟨hs.1.call rfl fun record hr => ?_, ?_⟩, ?_⟩
  · cases hr
    exact hs.1.sound
  · rw [filterMap_append_single]
    exact (append_nil _).symm ▸ hs.2
  · rw [filterMap_append_single]
    exact (append_nil _).symm ▸ hkept

theorem ensures_save : Ensures (Stands c P) (save world)
    (fun _ s => Stands c P s ∧ durable s.trace = some s.state) fun _ => Written c :=
  (ensures_save_keeping (K := fun _ _ => True)).weaken (fun _ hs => ⟨hs, trivial⟩)
    (fun _ _ hs => hs.1) fun _ _ hs => hs

theorem ensures_uuid4 : Ensures (Stands c P) (uuid4 world)
    (fun key s => Stands c P s ∧ ((s.state.requests.map Request.requestKey) ++ [key]).Sublist
      (s.trace.filterMap Event.drawnKey)) fun _ => Written c := by
  refine .get_bind fun s₀ hs => ?_
  rintro _ rfl
  refine ⟨⟨hs.1.quiet rfl rfl, ?_⟩, ?_⟩
  · rw [filterMap_append_single]
    exact (append_nil _).symm ▸ hs.2
  · rw [filterMap_append_single]
    exact hs.1.drawn.append (.refl _)

variable {pre : Batch Time → Prop}

theorem ensures_lift {result : Except Raised α} (h : ∀ e s, pre s → fails e s) :
    Ensures pre (lift result) (fun a s => pre s ∧ result = .ok a) fails := by
  cases result with
  | ok a => exact .pure fun s hs => ⟨hs, rfl⟩
  | error e => exact .throw fun s hs => h e s hs

theorem ensures_stopIf {condition : Bool} {text : String} (h : ∀ e s, pre s → fails e s) :
    Ensures pre (stopIf condition text) (fun _ s => pre s ∧ condition = false) fails := by
  cases condition with
  | false => exact .pure fun _ hs => ⟨hs, rfl⟩
  | true => exact .throw fun s hs => h _ s hs

/-- A change of the record after which something else is known. -/
theorem ensures_update {Q : Record → Option Receipt → Prop} {f : Record → Record}
    (hsound : ∀ record last, P record last → Sound c.baseline record → Sound c.baseline (f record))
    (hkeys : ∀ record last, P record last →
      (f record).requests.map Request.requestKey = record.requests.map Request.requestKey)
    (h : ∀ record last, P record last → Q (f record) last) :
    Ensures (Stands c P) (Traced.update f) (fun _ => Stands c Q) fails :=
  Traced.ensures_update fun _ hs =>
    ⟨hs.1.change (hsound _ _ hs.2 hs.1.sound) (hkeys _ _ hs.2), h _ _ hs.2⟩

end Rules

/-! ## The parts of a batch -/

section Parts

variable {world : World Time}

variable {receipt : Receipt}

theorem Context.multiple_of_changed (h : c.changed record receipt false = .ok false) :
    receipt.snapshot.multiple = c.initial.multiple := by
  unfold changed at h
  dsimp only at h
  split at h
  case isTrue => cases h
  case isFalse =>
    cases haccepts : c.accepts receipt.snapshot with
    | error e =>
      rw [haccepts] at h
      cases h
    | ok accepted =>
      rw [haccepts] at h
      simp [pure, Except.pure, bind, Except.bind] at h
      exact h.2.1

/-- The current snapshot is the one of the receipt, and growth of the capacity changes neither
requests nor items. -/
theorem ensures_requireCurrent {P : List Request → List Int → Prop} {isPending : Bool} :
    Ensures (Stands c fun record last => P record.requests record.items ∧ last = some receipt)
      (requireCurrent world c receipt isPending) (fun observed s => Stands c
          (fun record last => P record.requests record.items ∧ last = some receipt) s ∧
        observed = receipt.snapshot ∧ (isPending = false → observed.multiple = c.initial.multiple))
      fun _ => Written c := by
  refine .get_keep fun s₀ _ => ?_
  refine .mono_pre ?_ fun s hs => hs.1
  refine .bind (ensures_lift fun _ _ hs => hs.1) fun changed => ?_
  refine .bind (ensures_stopIf fun _ _ hs => hs.1.1) fun _ => ?_
  refine .mono_pre (?_ : Ensures (fun s => Stands c
    (fun record last => P record.requests record.items ∧ last = some receipt) s ∧
      (isPending = false → receipt.snapshot.multiple = c.initial.multiple)) _ _ _) ?_
  · refine .assume fun hmultiple => ?_
    refine .ite (fun _ => ?_) fun _ => .pure fun s hs => ⟨hs, rfl, hmultiple⟩
    refine .bind (ensures_update
      (Q := fun record last => P record.requests record.items ∧ last = some receipt)
      (fun _ _ _ hs => ⟨hs.1, hs.2, hs.3⟩) (fun _ _ _ => rfl) fun _ _ hs => hs) fun _ => ?_
    exact .bind ensures_save fun _ => .pure fun s hs => ⟨hs.1, rfl, hmultiple⟩
  · rintro s ⟨⟨hs, hchanged⟩, rfl⟩
    refine ⟨hs, ?_⟩
    rintro rfl
    exact Context.multiple_of_changed hchanged

/-- Every request is observed. -/
def Idle (requests : List Request) : Prop := ∀ q ∈ requests, q.state = .observed

/-- The last request alone is not observed, and has no items yet. -/
def Waits (key : String) (state : RequestState) (requests : List Request) : Prop :=
  ∃ done request, requests = done ++ [request] ∧ Idle done ∧ request.requestKey = key ∧
    request.state = state ∧ request.itemIds = none ∧ request.itemId = none

variable {key : String}

theorem Waits.setRequest {state : RequestState} (h : Waits key state record.requests)
    (f : Request → Request) :
    ∃ done request, record.requests = done ++ [request] ∧ Idle done ∧ request.requestKey = key ∧
      request.attributed = [] ∧ (record.setRequest f).requests = done ++ [f request] ∧
      (record.setRequest f).items = record.items := by
  obtain ⟨done, request, hrequests, hidle, hkey, -, hids, hid⟩ := h
  refine ⟨done, request, hrequests, hidle, hkey, ?_, ?_, rfl⟩
  · rw [Request.attributed, hids, hid]
    rfl
  · simp [Record.setRequest, hrequests]

variable {Q : List Int → Prop}

/-- Changing the state of the last request only. -/
theorem ensures_setRequest {before after : RequestState} :
    Ensures (Stands c fun record _ => Waits key before record.requests ∧ Q record.items)
      (Traced.update (Record.setRequest fun request => { request with state := after }))
      (fun _ => Stands c fun record _ => Waits key after record.requests ∧ Q record.items)
      fails := by
  refine ensures_update ?_ ?_ ?_
  · rintro record last ⟨hwaits, -⟩ ⟨hsum, hnodup, hfresh⟩
    obtain ⟨done, request, hrequests, -, -, hnone, hset, hitems⟩ :=
      hwaits.setRequest fun request => { request with state := after }
    refine ⟨?_, hnodup, hfresh⟩
    rw [hitems, hset, hsum, hrequests, flatMap_append, flatMap_append]
    rfl
  · rintro record last ⟨hwaits, -⟩
    obtain ⟨done, request, hrequests, -, -, -, hset, -⟩ :=
      hwaits.setRequest fun request => { request with state := after }
    rw [hset, hrequests, map_append, map_append]
    rfl
  · rintro record last ⟨⟨done, request, hrequests, hidle, hkey, -, hids, hid⟩, hitems⟩
    refine ⟨⟨done, { request with state := after }, ?_, hidle, hkey, rfl, hids, hid⟩, hitems⟩
    simp [Record.setRequest, hrequests]

/-- The items that a record knows of. -/
def knownItems (c : Context) (items : List Int) : Finset Int := c.baseline ∪ items.toFinset

variable {newItems : Finset Int}

/-- An observed request is attributed its new items. -/
theorem Waits.observe (hwaits : Waits key .submitted record.requests)
    (hsingle : c.initial.multiple = 0 → newItems.card = 1)
    (hmem : receipt.transitionItem ∈ newItems) :
    ∃ done request observed, record.requests = done ++ [request] ∧ Idle done ∧
      request.attributed = [] ∧ (record.observe c receipt newItems).requests = done ++ [observed] ∧
      observed.state = .observed ∧ observed.requestKey = request.requestKey ∧
      observed.attributed = newItems.sort (· ≤ ·) := by
  obtain ⟨done, request, hrequests, hidle, -, -, hids, hid⟩ := hwaits
  have hset (f : Request → Request) : (record.setRequest f).requests = done ++ [f request] := by
    simp [Record.setRequest, hrequests]
  refine ⟨done, request, _, hrequests, hidle, ?_, hset _, ?_, ?_, ?_⟩
  · rw [Request.attributed, hids, hid]
    rfl
  · split <;> rfl
  · split <;> rfl
  · split
    case isTrue => rfl
    case isFalse hmultiple =>
      obtain ⟨item, rfl⟩ := Finset.card_eq_one.1 (hsingle (not_not.1 hmultiple))
      rw [Finset.mem_singleton.1 hmem, Finset.sort_singleton]
      simp [Request.attributed, hids]

theorem sound_observe (hsound : Sound c.baseline record)
    (hwaits : Waits key .submitted record.requests)
    (hnew : Disjoint newItems (knownItems c record.items))
    (hsingle : c.initial.multiple = 0 → newItems.card = 1)
    (hmem : receipt.transitionItem ∈ newItems) :
    Sound c.baseline (record.observe c receipt newItems) := by
  obtain ⟨done, request, observed, hrequests, -, hnone, hobserve, -, -, hattributed⟩ :=
    hwaits.observe hsingle hmem
  obtain ⟨hsum, hnodup, hfresh⟩ := hsound
  have hitems : (record.observe c receipt newItems).items =
    record.items ++ newItems.sort (· ≤ ·) := rfl
  have hunknown : ∀ i ∈ newItems, i ∉ c.baseline ∧ i ∉ record.items := by
    intro i hi
    have hnot := Finset.disjoint_left.1 hnew hi
    rwa [knownItems, Finset.mem_union, mem_toFinset, not_or] at hnot
  constructor
  · rw [hitems, hobserve, hsum, hrequests, flatMap_append, flatMap_append,
      flatMap_singleton, flatMap_singleton, hnone, hattributed, append_nil]
  · rw [hitems, nodup_append]
    refine ⟨hnodup, Finset.sort_nodup _ _, ?_⟩
    rintro i hi _ hj rfl
    exact (hunknown i ((Finset.mem_sort _).1 hj)).2 hi
  · intro i hi
    rw [hitems, mem_append, Finset.mem_sort] at hi
    rcases hi with hi | hi
    · exact hfresh i hi
    · exact (hunknown i hi).1

theorem knownItems_observe {observed : Finset Int} (hknown : knownItems c record.items ⊆ observed) :
    knownItems c (record.observe c receipt (observed \ knownItems c record.items)).items =
      observed := by
  have hitems : (record.observe c receipt (observed \ knownItems c record.items)).items =
    record.items ++ (observed \ knownItems c record.items).sort (· ≤ ·) := rfl
  rw [hitems, knownItems, toFinset_append, ← Finset.union_assoc, ← knownItems,
    Finset.sort_toFinset, Finset.union_sdiff_of_subset hknown]

variable {awaited : Awaited Time}

/-- A receipt that shows exactly the new items makes the request observed. -/
theorem ensures_observe {record₀ : Record}
    (hsingle : c.initial.multiple = 0 → awaited.expectedCount = 1)
    (hexpected : awaited.expectedItems ⊆ itemsOf receipt.snapshot)
    (hmatched : mismatched record₀ awaited receipt
      (itemsOf receipt.snapshot \ awaited.expectedItems) = false) :
    Ensures (Stands c fun record last => (Waits awaited.requestKey .submitted record.requests ∧
        awaited.expectedItems = knownItems c record.items) ∧ last = some receipt)
      (Traced.update fun record =>
        record.observe c receipt (itemsOf receipt.snapshot \ awaited.expectedItems))
      (fun _ => Stands c fun record last => Idle record.requests ∧
        last.map Receipt.snapshot = some receipt.snapshot ∧
        itemsOf receipt.snapshot = knownItems c record.items) fails := by
  simp only [mismatched, decide_eq_false_iff_not, not_or, not_not] at hmatched
  obtain ⟨hcard, hmem, -⟩ := hmatched
  have hone (h : c.initial.multiple = 0) :
      (itemsOf receipt.snapshot \ awaited.expectedItems).card = 1 := hcard.trans (hsingle h)
  refine ensures_update ?_ ?_ ?_
  · rintro record last ⟨⟨hwaits, hknown⟩, -⟩ hsound
    refine sound_observe hsound hwaits ?_ hone hmem
    rw [hknown]
    exact Finset.sdiff_disjoint
  · rintro record last ⟨⟨hwaits, -⟩, -⟩
    obtain ⟨done, request, observed, hrequests, -, -, hobserve, -, hkey, -⟩ :=
      hwaits.observe hone hmem
    rw [hobserve, hrequests, map_append, map_append, map_singleton,
      map_singleton, hkey]
  · rintro record last ⟨⟨hwaits, hknown⟩, rfl⟩
    obtain ⟨done, request, observed, -, hidle, -, hobserve, hstate, -⟩ :=
      hwaits.observe hone hmem
    refine ⟨?_, rfl, ?_⟩
    · rw [hobserve]
      intro q hq
      rcases mem_append.1 hq with hq | hq
      · exact hidle q hq
      · rw [mem_singleton.1 hq]
        exact hstate
    · rw [hknown] at hexpected ⊢
      exact (knownItems_observe hexpected).symm

variable {fuel : ℕ}

/-- The loop that waits leaves with the request observed, or returns with it pending. -/
theorem ensures_await (hsingle : c.initial.multiple = 0 → awaited.expectedCount = 1)
    {seenItems : Finset Int} (hseen : awaited.expectedItems ⊆ seenItems) :
    Ensures (Stands c fun record _ => Waits awaited.requestKey .submitted record.requests ∧
        awaited.expectedItems = knownItems c record.items) (await world c awaited fuel seenItems)
      (fun exit s => Written c s ∧ (exit = some .returned → s.state.state ≠ .complete) ∧
        ∀ last, exit = some (.broken last) → Stands c (fun record receipt => Idle record.requests ∧
          receipt.map Receipt.snapshot = some last ∧ itemsOf last = knownItems c record.items) s)
      fun _ => Written c := by
  induction fuel generalizing seenItems with
  | zero => exact .pure fun s hs => ⟨hs.1, (by cases ·), fun _ h => by cases h⟩
  | succ fuel ih =>
    refine .bind (ensures_call fun _ => ⟨rfl, rfl, rfl⟩) fun cancelled => ?_
    refine .ite (fun _ => ?_) fun _ => ?_
    · refine .bind (ensures_update (Q := fun record _ => record.state = .cancelledPending)
        (fun _ _ _ hs => ⟨hs.1, hs.2, hs.3⟩) (fun _ _ _ => rfl) fun _ _ _ => rfl) fun _ => ?_
      refine .bind ensures_save fun _ => .pure ?_
      rintro s ⟨⟨hs, hstate⟩, -⟩
      refine ⟨hs, fun _ => ?_, fun _ h => by cases h⟩
      rw [hstate]
      exact State.noConfusion
    · refine .bind (ensures_call fun _ => ⟨rfl, rfl, rfl⟩) fun now => ?_
      refine .ite (fun _ => ?_) fun _ => ?_
      · refine .bind (ensures_setRequest
          (Q := fun items => awaited.expectedItems = knownItems c items)) fun _ => ?_
        exact .throw fun s hs => hs.1
      · refine .bind (ensures_inspect (P := fun record =>
          Waits awaited.requestKey .submitted record.requests ∧
            awaited.expectedItems = knownItems c record.items)) fun receipt => ?_
        refine .bind (ensures_requireCurrent (P := fun requests items =>
          Waits awaited.requestKey .submitted requests ∧
            awaited.expectedItems = knownItems c items)) fun observed => ?_
        refine .bind (ensures_stopIf fun _ _ hs => hs.1.1) fun _ => ?_
        refine .mono_pre (?_ : Ensures (fun s => (Stands c (fun record last =>
          (Waits awaited.requestKey .submitted record.requests ∧
            awaited.expectedItems = knownItems c record.items) ∧ last = some receipt) s) ∧
            observed = receipt.snapshot ∧ seenItems ⊆ itemsOf observed) _ _ _) ?_
        · refine .assume fun ⟨hobserved, hsubset⟩ => ?_
          subst hobserved
          refine .ite (fun _ => ?_) fun _ => ?_
          · refine .get_keep fun s₀ _ => ?_
            refine .bind (ensures_stopIf fun _ _ hs => hs.1.1) fun _ => ?_
            refine .mono_pre (.assume fun hmismatched => ?_) fun s hs =>
              ⟨hs.1.1, hs.2⟩
            refine .bind (ensures_observe hsingle (hseen.trans hsubset) hmismatched) fun _ => ?_
            refine .bind ensures_save fun _ => .pure fun s hs => ?_
            refine ⟨hs.1.1, (by cases ·), fun last hlast => ?_⟩
            cases hlast
            exact hs.1
          · refine .bind (ensures_stopIf fun _ _ hs => hs.1) fun _ => ?_
            refine .mono_pre ?_ fun s hs => hs.1
            refine .bind (ensures_call fun _ => ⟨rfl, rfl, rfl⟩) fun _ => ?_
            exact (ih (hseen.trans hsubset)).mono_pre fun s hs => ⟨hs.1, hs.2.1⟩
        · rintro s ⟨⟨hs, hobserved, -⟩, hcondition⟩
          refine ⟨hs, hobserved, ?_⟩
          by_contra hsubset
          simp [hsubset] at hcondition

variable {fresh : Snapshot}

/-- A request that is written down before its creation is sent. -/
theorem ensures_create :
    Ensures (fun s => (Stands c (fun record _ =>
          Waits key .prepared record.requests ∧ Q record.items) s ∧
        durable s.trace = some s.state) ∧ (s.trace.filterMap Event.createdKey).Sublist
          (s.state.requests.dropLast.map Request.requestKey)) (create world c fresh key)
      (fun _ => Stands c fun record _ => Waits key .prepared record.requests ∧ Q record.items)
      fun _ => Written c := by
  have hcall {s : Batch Time} (hs : Stands c (fun record _ =>
      Waits key .prepared record.requests ∧ Q record.items) s)
      (hdurable : durable s.trace = some s.state)
      (hunsent : (s.trace.filterMap Event.createdKey).Sublist
        (s.state.requests.dropLast.map Request.requestKey)) (r : Except Raised Receipt) :
      Stands c (fun record _ => Waits key .prepared record.requests ∧ Q record.items)
        { s with trace := s.trace ++ [Event.created fresh key r] } := by
    obtain ⟨hw, ⟨done, request, hrequests, hidle, hkey, hstate, hids, hid⟩, hitems⟩ := hs
    rw [hrequests, dropLast_concat] at hunsent
    refine ⟨⟨?_, ?_, hw.sound, ?_, ?_, ?_⟩,
      ⟨done, request, hrequests, hidle, hkey, hstate, hids, hid⟩, hitems⟩
    · refine hw.ahead.append fun k hk => ?_
      cases hk
      refine ⟨s.state, done, request, hdurable, hrequests, hkey, hstate, hidle, fun k hk => ?_⟩
      exact mem_map.1 (hunsent.subset hk)
    · rw [filterMap_append_single]
      exact (append_nil _).symm ▸ hw.published
    · rw [filterMap_append_single]
      exact (append_nil _).symm ▸ hw.drawn
    · rw [filterMap_append_single, hrequests, map_append, map_singleton, hkey]
      exact hunsent.append (.refl _)
    · rw [filterMap_append_single]
      exact (append_nil _).symm ▸ hw.first
  exact Traced.ensures_ask (fun s a hs => hcall hs.1.1 hs.1.2 hs.2 (.ok a))
    fun s e hs => (hcall hs.1.1 hs.1.2 hs.2 (.error e)).1

/-- A request is appended with a key that was drawn for it. -/
theorem ensures_append {request : Request} (hkey : request.requestKey = key)
    (hstate : request.state = .prepared) (hids : request.itemIds = none)
    (hid : request.itemId = none) :
    Ensures (fun s => Stands c (fun record _ => Idle record.requests ∧ Q record.items) s ∧
        ((s.state.requests.map Request.requestKey) ++ [key]).Sublist
          (s.trace.filterMap Event.drawnKey))
      (Traced.update fun record => { record with requests := record.requests ++ [request] })
      (fun _ s => Stands c (fun record _ =>
          Waits key .prepared record.requests ∧ Q record.items) s ∧
        (s.trace.filterMap Event.createdKey).Sublist
          (s.state.requests.dropLast.map Request.requestKey)) fails := by
  refine Traced.ensures_update fun s ⟨⟨hw, hidle, hitems⟩, hdrawn⟩ => ⟨⟨?_, ?_, hitems⟩, ?_⟩
  · obtain ⟨hsum, hnodup, hfresh⟩ := hw.sound
    refine { hw with sound := ⟨?_, hnodup, hfresh⟩, drawn := ?_, created := ?_ }
    · rw [flatMap_append, flatMap_singleton, Request.attributed, hids, hid, ← hsum]
      exact (append_nil _).symm
    · rw [map_append, map_singleton, hkey]
      exact hdrawn
    · rw [map_append]
      exact hw.created.trans (sublist_append_left _ _)
  · exact ⟨_, request, rfl, hidle, hkey, hstate, hids, hid⟩
  · rw [dropLast_concat]
    exact hw.created

variable {acceptanceTimeout : Time}

theorem ensures_submit {expectedItems : Finset Int}
    (hmultiple : fresh.multiple = c.initial.multiple) :
    Ensures (Stands c fun record _ => Idle record.requests ∧
        expectedItems = knownItems c record.items)
      (submit world c acceptanceTimeout fresh expectedItems)
      (fun awaited s => Stands c (fun record _ => Waits awaited.requestKey .submitted record.requests ∧
          awaited.expectedItems = knownItems c record.items) s ∧
        (c.initial.multiple = 0 → awaited.expectedCount = 1) ∧
        awaited.expectedItems = expectedItems) fun _ => Written c := by
  refine .bind ensures_uuid4 fun key => ?_
  refine .bind (ensures_lift fun _ _ hs => hs.1.1) fun encoded => ?_
  refine .mono_pre ?_ fun s hs => hs.1
  refine .bind (ensures_append
    (Q := fun items => expectedItems = knownItems c items) rfl rfl rfl rfl) fun _ => ?_
  refine .bind (ensures_save_keeping (K := fun record created =>
    created.Sublist (record.requests.dropLast.map Request.requestKey))) fun _ => ?_
  refine .bind (ensures_create
    (Q := fun items => expectedItems = knownItems c items)) fun result => ?_
  refine .ite (fun _ => ?_) fun _ => ?_
  · refine .bind (ensures_setRequest
      (Q := fun items => expectedItems = knownItems c items)) fun _ => ?_
    exact .throw fun s hs => hs.1
  · refine .bind (ensures_setRequest
      (Q := fun items => expectedItems = knownItems c items)) fun _ => ?_
    refine .bind ensures_save fun _ => ?_
    refine .mono_pre ?_ fun s hs => hs.1
    refine .bind (ensures_call fun _ => ⟨rfl, rfl, rfl⟩) fun now => ?_
    refine .pure fun s hs => ⟨hs, fun hsingle => ?_, rfl⟩
    exact if_neg (not_not.2 (hmultiple.trans hsingle))

/-- The main loop leaves with every slot filled, or returns. -/
theorem ensures_fill :
    Ensures (Stands c fun record _ => Idle record.requests) (fill world c acceptanceTimeout fuel)
      (fun exit s => Written c s ∧ (exit = some .returned → s.state.state ≠ .complete) ∧
        ∀ last, exit = some (.broken last) → Stands c (fun record receipt =>
          receipt.map Receipt.snapshot = some last ∧ itemsOf last = knownItems c record.items ∧
            last.freeSlots = 0) s) fun _ => Written c := by
  induction fuel with
  | zero => exact .pure fun s hs => ⟨hs.1, (by cases ·), fun _ h => by cases h⟩
  | succ fuel ih =>
    refine .bind (ensures_call fun _ => ⟨rfl, rfl, rfl⟩) fun _ => ?_
    refine .bind (ensures_call fun _ => ⟨rfl, rfl, rfl⟩) fun cancelled => ?_
    refine .ite (fun _ => ?_) fun _ => ?_
    · refine .bind (ensures_update (Q := fun record _ => record.state = .cancelled)
        (fun _ _ _ hs => ⟨hs.1, hs.2, hs.3⟩) (fun _ _ _ => rfl) fun _ _ _ => rfl) fun _ => ?_
      refine .bind ensures_save fun _ => .pure ?_
      rintro s ⟨⟨hs, hstate⟩, -⟩
      refine ⟨hs, fun _ => ?_, fun _ h => by cases h⟩
      rw [hstate]
      exact State.noConfusion
    · refine .bind (ensures_inspect (P := fun record => Idle record.requests))
        fun receipt => ?_
      refine .bind (ensures_requireCurrent (P := fun requests _ => Idle requests))
        fun fresh => ?_
      refine .assume fun ⟨hfresh, hmultiple⟩ => ?_
      subst hfresh
      refine .get_keep fun s₀ _ => ?_
      refine .bind (ensures_stopIf fun _ _ hs => hs.1.1) fun _ => ?_
      refine .mono_pre (?_ : Ensures (Stands c fun record last => (Idle record.requests ∧
        c.baseline ∪ s₀.state.items.toFinset = knownItems c record.items) ∧
          last = some receipt ∧ itemsOf receipt.snapshot = knownItems c record.items) _ _ _) ?_
      · refine .ite (fun hfull => .pure fun s hs => ?_) fun _ => ?_
        · refine ⟨hs.1, (by cases ·), fun last hlast => ?_⟩
          cases hlast
          exact ⟨hs.1, congrArg _ hs.2.2.1, hs.2.2.2, hfull⟩
        · refine .mono_pre (.bind (ensures_submit (hmultiple rfl)) fun awaited => ?_)
            fun s hs => ⟨hs.1, hs.2.1⟩
          refine .assume fun ⟨hsingle, hexpected⟩ => ?_
          refine .bind (ensures_await hsingle hexpected.subset) fun exit => ?_
          cases exit with
          | none => exact .pure fun s hs => ⟨hs.1, (by cases ·), fun _ h => by cases h⟩
          | some exit =>
            cases exit with
            | returned => exact .pure fun s hs => ⟨hs.1, hs.2.1, fun _ h => by cases h⟩
            | broken observed =>
              refine .ite (fun hfull => .pure fun s hs => ?_) fun _ => ?_
              · refine ⟨hs.1, (by cases ·), fun last hlast => ?_⟩
                cases hlast
                obtain ⟨hw, -, hlast, hitems⟩ := hs.2.2 observed rfl
                exact ⟨hw, hlast, hitems, hfull.2⟩
              · exact ih.mono_pre fun s hs => ⟨hs.1, (hs.2.2 observed rfl).2.1⟩
      · rintro s ⟨⟨hs, rfl⟩, hcondition⟩
        rw [decide_eq_false_iff_not, not_or, not_not] at hcondition
        exact ⟨hs.1, ⟨hs.2.1, rfl⟩, hs.2.2, hcondition.1⟩

theorem ensures_run :
    Ensures (Stands c fun record _ => Idle record.requests) (run world c acceptanceTimeout fuel)
      (fun result s => Written c s ∧ ∀ record, result = some record → record.state = .complete →
        Complete s.trace record) fun _ => Written c := by
  refine .bind ensures_fill fun exit => ?_
  cases exit with
  | none => exact .pure fun s hs => ⟨hs.1, fun _ h => by cases h⟩
  | some exit =>
    cases exit with
    | returned =>
      refine .get_keep fun s₀ hs₀ => .pure ?_
      rintro s ⟨hs, rfl⟩
      refine ⟨hs.1, fun record hrecord hcomplete => ?_⟩
      cases hrecord
      exact absurd hcomplete (hs.2.1 rfl)
    | broken last =>
      refine .mono_pre (?_ : Ensures (Stands c fun record receipt =>
        receipt.map Receipt.snapshot = some last ∧ itemsOf last = knownItems c record.items ∧
          last.freeSlots = 0) _ _ _) fun s hs => hs.2.2 last rfl
      refine .bind (ensures_update (Q := fun record receipt =>
          receipt.map Receipt.snapshot = some last ∧ itemsOf last = knownItems c record.items ∧
            last.freeSlots = 0) (fun _ _ _ hs => ⟨hs.1, hs.2, hs.3⟩) (fun _ _ _ => rfl)
        fun _ _ hs => hs) fun _ => ?_
      refine .bind ensures_save fun _ => ?_
      refine .get_keep fun s₀ _ => .pure ?_
      rintro s ⟨⟨⟨hs, hlast, hitems, hfull⟩, -⟩, rfl⟩
      refine ⟨hs, fun record hrecord _ => ?_⟩
      cases hrecord
      obtain ⟨receipt, hreceipt, rfl⟩ := Option.map_eq_some_iff.1 hlast
      exact ⟨c.first, receipt, hs.first, hreceipt, hitems, hfull⟩

/-- An exception ends a batch after its record was written again. -/
theorem ensures_recover {post : Option Record → Batch Time → Prop} (e : Raised) :
    Ensures (Written c) (recover world e) post fun _ => Written c := by
  refine .mono_pre (?_ : Ensures (Stands c fun _ _ => True) _ _ _) fun s hs => ⟨hs, trivial⟩
  refine .bind (ensures_update (Q := fun _ _ => True) (fun _ _ _ hs => ⟨hs.1, hs.2, hs.3⟩)
    (fun _ _ _ => rfl) fun _ _ _ => trivial) fun _ => ?_
  exact .bind ensures_save fun _ => .throw fun s hs => hs.1.1

end Parts

/-! ## Batches -/

/-- A batch that has no journal yet, and the receipts that it has seen. -/
def Begun (receipts : List Receipt) (s : Batch Time) : Prop :=
  s.trace.filterMap Event.createdKey = [] ∧ s.trace.filterMap Event.record = [] ∧
    s.trace.filterMap Event.receipt = receipts

namespace Begun

variable {receipts : List Receipt} {s : Batch Time}

theorem foreseen (hs : Begun receipts s) : Foreseen Ahead s.trace := by
  intro before e after htrace key hkey
  have hmem : key ∈ s.trace.filterMap Event.createdKey :=
    mem_filterMap.2 ⟨e, htrace ▸ mem_append_right _ mem_cons_self, hkey⟩
  rw [hs.1] at hmem
  cases hmem

theorem journaled (hs : Begun receipts s) : Journaled s.trace where
  ahead := hs.foreseen
  keys := by
    rw [hs.1]
    exact nil_sublist _
  sound first _ record hrecord := by
    rw [hs.2.1] at hrecord
    cases hrecord

theorem call (hs : Begun receipts s) (hcreated : e.createdKey = none) (hrecord : e.record = none) :
    Begun (receipts ++ e.receipt.toList) { s with trace := s.trace ++ [e] } := by
  obtain ⟨hkeys, hrecords, hreceipts⟩ := hs
  refine ⟨?_, ?_, ?_⟩
  · rw [filterMap_append_single, hkeys, hcreated, Option.toList_none, nil_append]
  · rw [filterMap_append_single, hrecords, hrecord, Option.toList_none, nil_append]
  · rw [filterMap_append_single, hreceipts]

/-- A call that is no inspection, publication or creation. -/
theorem ensures_call
    (h : ∀ r, (event r).createdKey = none ∧ (event r).record = none ∧ (event r).receipt = none)
    (hfails : ∀ e s, Begun receipts s → fails e s) :
    Ensures (Begun receipts) (Traced.ask answer event) (fun _ => Begun receipts) fails := by
  have hcall {s : Batch Time} (hs : Begun receipts s) (r : Except Raised α) :
      Begun receipts { s with trace := s.trace ++ [event r] } := by
    obtain ⟨hcreated, hrecord, hreceipt⟩ := h r
    have hnext := hs.call hcreated hrecord
    rwa [hreceipt, Option.toList_none, append_nil] at hnext
  exact Traced.ensures_ask (fun s a hs => hcall hs (.ok a))
    fun s e hs => hfails e _ (hcall hs (.error e))

variable {first : Receipt}

/-- The record of a new batch. -/
theorem stands (hs : Begun [first] s) (recipe : Option RandomRecipeSpec)
    (hrequests : record.requests = []) (hitems : record.items = []) :
    Stands ⟨recipe, first⟩ (fun record _ => Idle record.requests) { s with state := record } := by
  refine ⟨⟨hs.foreseen, ?_, ?_, ?_, ?_, ?_⟩, ?_⟩
  · intro record hrecord
    rw [hs.2.1] at hrecord
    cases hrecord
  · constructor
    · rw [hrequests, hitems, flatMap_nil]
    · rw [hitems]
      exact nodup_nil
    · rw [hitems]
      exact fun i hi => by cases hi
  · rw [hrequests]
    exact nil_sublist _
  · rw [hs.1]
    exact nil_sublist _
  · rw [hs.2.2]
    rfl
  · intro q hq
    rw [hrequests] at hq
    cases hq

variable {world : World Time}

theorem ensures_uuid4 : Ensures (Begun receipts) (uuid4 world) (fun _ => Begun receipts) fails := by
  refine .get_bind fun s₀ hs => ?_
  rintro s rfl
  have hnext := hs.call (e := Event.drew (world.uuid4 s.trace)) rfl rfl
  exact (append_nil receipts) ▸ hnext

theorem ensures_validate {args : Arguments Time} (hfails : ∀ e s, Begun receipts s → fails e s) :
    Ensures (Begun receipts) (validate world args first) (fun _ => Begun receipts) fails := by
  unfold validate
  split
  · exact .bind (Begun.ensures_call (fun _ => ⟨rfl, rfl, rfl⟩) hfails)
      fun _ => .pure fun s hs => hs
  · exact .pure fun s hs => hs

end Begun

variable (world : World Time) (args : Arguments Time) (fuel : ℕ)

theorem ensures_fillAvailableSlots :
    Ensures (fun s => s.trace = []) (fillAvailableSlots world args false fuel)
      (fun result s => Journaled s.trace ∧ ∀ record, result = some record →
        record.state = .complete → Complete s.trace record) fun _ s => Journaled s.trace := by
  refine .mono_pre (?_ : Ensures (Begun []) _ _ _) ?_
  · unfold fillAvailableSlots
    split
    case h_1 => exact .throw fun s hs => hs.journaled
    case h_2 =>
      refine .bind (Begun.ensures_call (fun _ => ⟨rfl, rfl, rfl⟩)
        fun _ _ hs => hs.journaled) fun _ => ?_
      refine .bind (ensures_stopIf fun _ _ hs => hs.journaled) fun _ => ?_
      refine .mono_pre ?_ fun s hs => hs.1
      refine .bind (Traced.ensures_ask (fun s first hs => hs.call rfl rfl)
        fun s e hs => (hs.call rfl rfl).journaled) fun first => ?_
      refine .mono_pre (?_ : Ensures (Begun [first]) _ _ _) fun s hs => hs
      refine .bind (ensures_lift fun _ _ hs => hs.journaled) fun unready => ?_
      refine .mono_pre ?_ fun s hs => hs.1
      refine .bind (ensures_stopIf fun _ _ hs => hs.journaled) fun _ => ?_
      refine .mono_pre ?_ fun s hs => hs.1
      refine .bind (ensures_stopIf fun _ _ hs => hs.journaled) fun _ => ?_
      refine .mono_pre ?_ fun s hs => hs.1
      refine .bind (Begun.ensures_validate fun _ _ hs => hs.journaled) fun preparation => ?_
      refine .bind Begun.ensures_uuid4 fun batchId => ?_
      refine .bind (ensures_lift fun _ _ hs => hs.journaled) fun encoded => ?_
      refine .bind (Traced.ensures_update fun s hs => hs.1.stands args.recipe rfl rfl :
        Ensures _ _ (fun _ => Stands ⟨args.recipe, first⟩ fun record _ => Idle record.requests) _)
        fun _ => ?_
      refine .bind (ensures_save.weaken (fun _ hs => hs) (fun _ _ hs => hs)
        fun _ _ hs => hs.journaled) fun _ => ?_
      refine .mono_pre ?_ fun s hs => hs.1
      refine (Ensures.tryCatch ensures_run fun e => ensures_recover e).weaken (fun _ hs => hs)
        (fun _ _ hs => ⟨hs.1.journaled, hs.2⟩) fun _ _ hs => hs.journaled
  · rintro s hs
    rw [Begun, hs]
    exact ⟨rfl, rfl, rfl⟩

/-- The batch that a run leaves. -/
def ended {α : Type} : EStateM.Result Raised (Batch Time) α → Batch Time
  | .ok _ s => s
  | .error _ s => s

/-- What a run of `fill_available_slots` promises. -/
structure Filled (journalExists : Bool) (result : EStateM.Result Raised (Batch Time) (Option Record)) :
    Prop where
  journaled : Journaled (ended result).trace
  /-- Keys that are drawn once are used once. -/
  distinct : ((ended result).trace.filterMap Event.drawnKey).Nodup →
    ((ended result).trace.filterMap Event.createdKey).Nodup
  /-- No item is attributed to two requests or was there at first. -/
  attributed : ∀ first, ((ended result).trace.filterMap Event.receipt).head? = some first →
    ∀ record ∈ (ended result).trace.filterMap Event.record,
      record.requests.Pairwise (fun q r => q.attributed.Disjoint r.attributed) ∧
        ∀ q ∈ record.requests, ∀ i ∈ q.attributed, i ∉ itemsOf first.snapshot
  complete : ∀ record s, result = .ok (some record) s → record.state = .complete →
    Complete s.trace record
  /-- An existing journal stops the run before it looks at the vendor. -/
  replayed : journalExists = true → (∃ e s, result = .error e s) ∧
    ∀ e ∈ (ended result).trace, ∃ answer, e = .locked answer

theorem Sound.disjoint {baseline : Finset Int} (h : Sound baseline record) :
    record.requests.Pairwise (fun q r => q.attributed.Disjoint r.attributed) ∧
      ∀ q ∈ record.requests, ∀ i ∈ q.attributed, i ∉ baseline := by
  obtain ⟨hitems, hnodup, hfresh⟩ := h
  rw [hitems] at hnodup hfresh
  exact ⟨(nodup_flatMap.1 hnodup).2,
    fun q hq i hi => hfresh i (mem_flatMap.2 ⟨q, hq, hi⟩)⟩

/-- Nothing but the lock is asked for when the journal exists. -/
theorem ensures_replayed : Ensures (fun s => s.trace = [])
    (fillAvailableSlots world args true fuel) (fun _ _ => False)
    fun _ s => ∀ e ∈ s.trace, ∃ answer, e = Event.locked answer := by
  unfold fillAvailableSlots
  split
  case h_1 => exact .throw fun s hs e he => by rw [hs] at he; cases he
  case h_2 =>
    have hlocked {s : Batch Time} (hs : s.trace = []) (r : Except Raised Unit) :
        ∀ e ∈ s.trace ++ [Event.locked r], ∃ answer, e = Event.locked answer := by
      rw [hs]
      exact fun e he => ⟨r, mem_singleton.1 he⟩
    refine .bind (Traced.ensures_ask (fun s a hs => hlocked hs (.ok a))
      (fun s e hs => hlocked hs (.error e)) : Ensures _ _
        (fun _ s => ∀ e ∈ s.trace, ∃ answer, e = Event.locked answer) _) fun _ => ?_
    refine .bind ((ensures_stopIf fun _ _ hs => hs).weaken (fun _ hs => hs)
      (fun _ _ hs => ?_) fun _ _ hs => hs : Ensures _ _ (fun _ _ => False) _)
      fun _ _ hs => False.elim hs
    cases hs.2

/-- A batch is written down before it is sent, one request at a time, whatever it meets. -/
theorem batch_filled (journalExists : Bool) : Filled journalExists
    ((fillAvailableSlots world args journalExists fuel).run ⟨default, []⟩) := by
  have hfilled {result : EStateM.Result Raised (Batch Time) (Option Record)}
      (h : Journaled (ended result).trace)
      (hcomplete : ∀ record s, result = .ok (some record) s → record.state = .complete →
        Complete s.trace record)
      (hreplayed : journalExists = true → (∃ e s, result = .error e s) ∧
        ∀ e ∈ (ended result).trace, ∃ answer, e = .locked answer) :
      Filled journalExists result :=
    ⟨h, fun hdrawn => h.keys.nodup hdrawn,
      fun first hfirst record hrecord => (h.sound first hfirst record hrecord).disjoint,
      hcomplete, hreplayed⟩
  cases journalExists with
  | false =>
    have hends := ensures_fillAvailableSlots world args fuel
    cases hrun : (fillAvailableSlots world args false fuel).run ⟨default, []⟩ with
    | ok a s =>
      obtain ⟨hjournaled, hcomplete⟩ := hends.ok rfl hrun
      refine hfilled hjournaled ?_ nofun
      intro record s' h
      cases h
      exact hcomplete record rfl
    | error e s => exact hfilled (hends.error rfl hrun) (fun _ _ h => by cases h) nofun
  | true =>
    have hends := ensures_replayed world args fuel
    cases hrun : (fillAvailableSlots world args true fuel).run ⟨default, []⟩ with
    | ok a s => exact (hends.ok rfl hrun).elim
    | error e s =>
      have hlocked := hends.error rfl hrun
      refine hfilled ?_ (fun _ _ h => by cases h) fun _ => ⟨⟨e, s, rfl⟩, hlocked⟩
      have hnone {β : Type} {f : Event Time → Option β} (hf : ∀ answer, f (.locked answer) = none) :
          s.trace.filterMap f = [] := by
        rw [filterMap_eq_nil_iff]
        intro e he
        obtain ⟨answer, rfl⟩ := hlocked e he
        exact hf answer
      exact Begun.journaled ⟨hnone fun _ => rfl, hnone fun _ => rfl, hnone fun _ => rfl⟩

end ShadowbaneLab.VendorBatch
