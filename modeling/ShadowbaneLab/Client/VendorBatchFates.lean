/-
# Where a vendor batch leaves its creations

What became of the creations of a run, as its trace shows it, against the state that the run leaves
in the journal.
-/
import ShadowbaneLab.Client.VendorBatchRuns

namespace ShadowbaneLab.VendorBatch

open Foundation VendorWire List

variable {Time : Type}

/-! ## What became of a creation -/

/-- The outcomes of a receipt that refuses. -/
def refusals : List Outcome := [.stale, .invalid, .unavailable, .pending, .exhausted]

/-- The receipt refuses the creation with a key, of which nothing is under way. -/
def Refuses (window : Int) (key : String) (receipt : Receipt) : Prop :=
  receipt.outcome ∈ refusals ∧ receipt.requestKey = key ∧ receipt.window = window ∧
    hasFlag receipt.flags inFlight = false ∧ hasFlag receipt.flags unresolved = false

instance {window : Int} {key : String} {receipt : Receipt} :
    Decidable (Refuses window key receipt) :=
  inferInstanceAs (Decidable (_ ∧ _))

/-- The receipt shows the transition of a request, which is over. -/
def Shows (key : String) (receipt : Receipt) : Prop :=
  receipt.transitionRequest = some key ∧ hasFlag receipt.flags inFlight = false ∧
    hasFlag receipt.flags unresolved = false

/-- Every creation was observed later or refused, but those with a key that is left out. -/
def AccountedBut (window : Int) (left : String → Prop) (trace : List (Event Time)) : Prop :=
  ∀ before after fresh key answer, trace = before ++ .created fresh key answer :: after →
    left key ∨ (∃ receipt ∈ after.filterMap Event.receipt, Shows key receipt) ∨
      ∃ receipt, answer = .ok receipt ∧ Refuses window key receipt

/-- No key is left out. -/
def noKey : String → Prop := fun _ => False

/-- Every creation was observed later or refused. -/
def Accounted (window : Int) (trace : List (Event Time)) : Prop := AccountedBut window noKey trace

/-- The key of a creation with its receipt. -/
def Event.reply : Event Time → Option (String × Receipt)
  | .created _ key (.ok receipt) => some (key, receipt)
  | _ => none

/-- A receipt that refuses a creation by its outcome refuses that creation. -/
def Clean (window : Int) (trace : List (Event Time)) : Prop :=
  ∀ reply ∈ trace.filterMap Event.reply, reply.2.outcome ∈ refusals →
    Refuses window reply.1 reply.2

instance {window : Int} {trace : List (Event Time)} : Decidable (Clean window trace) :=
  inferInstanceAs (Decidable (∀ reply ∈ _, _ → _))

/-- The last creation was refused by the outcome of a receipt that does not refuse it. -/
def Misjudged (window : Int) (trace : List (Event Time)) : Prop :=
  ∃ before after fresh key receipt,
    trace = before ++ .created fresh key (.ok receipt) :: after ∧
      receipt.outcome ∈ refusals ∧ ¬ Refuses window key receipt ∧
        ∀ e ∈ after, e.receipt = none ∧ e.createdKey = none

/-- The states in which nothing is under way. -/
def settledStates : List State := [.stopped, .complete, .cancelled]

/-- The states in which something may be under way. -/
def pendingStates : List State := [.uncertain, .cancelledPending]

/-- What the state of a journal says of the creations of its run. -/
structure Settles (record : Record) (trace : List (Event Time)) : Prop where
  settled : record.state ∈ settledStates → Accounted record.window trace
  pending : ¬ Accounted record.window trace → record.state ∈ pendingStates
  /-- A journal that was begun does not stay open. -/
  closed : (∃ other, .published other .published ∈ trace) →
    record.state ∈ settledStates ∨ record.state ∈ pendingStates

variable {fresh : Snapshot} {key : String}

section Traces

variable {window : Int} {left : String → Prop} {trace : List (Event Time)} {e : Event Time}

theorem AccountedBut.mono {left' : String → Prop} (h : AccountedBut window left trace)
    (hleft : ∀ key, left key → left' key) : AccountedBut window left' trace :=
  fun before after fresh key answer heq => (h before after fresh key answer heq).imp_left (hleft key)

theorem AccountedBut.append (h : AccountedBut window left trace) (he : e.createdKey = none) :
    AccountedBut window left (trace ++ [e]) := by
  intro before after fresh key answer heq
  rcases split_append heq with ⟨-, rfl, -⟩ | ⟨rest, rfl, hold⟩
  · cases he
  · refine (h before rest fresh key answer hold).imp_right (.imp_left ?_)
    rintro ⟨receipt, hmem, hshows⟩
    refine ⟨receipt, ?_, hshows⟩
    rw [filterMap_append]
    exact mem_append_left _ hmem

/-- A receipt accounts for the keys that it shows. -/
theorem AccountedBut.inspected (h : AccountedBut window left trace) (receipt : Receipt) :
    AccountedBut window (fun key => left key ∧ ¬ Shows key receipt)
      (trace ++ [.inspected (.ok receipt)]) := by
  intro before after fresh key answer heq
  rcases split_append heq with ⟨-, heq, -⟩ | ⟨rest, rfl, hold⟩
  · cases heq
  · rcases h before rest fresh key answer hold with hleft | ⟨other, hmem, hshows⟩ | hrefused
    · by_cases hshows : Shows key receipt
      · refine .inr (.inl ⟨receipt, ?_, hshows⟩)
        rw [filterMap_append_single]
        exact mem_append_right _ (mem_singleton_self receipt)
      · exact .inl ⟨hleft, hshows⟩
    · refine .inr (.inl ⟨other, ?_, hshows⟩)
      rw [filterMap_append]
      exact mem_append_left _ hmem
    · exact .inr (.inr hrefused)

variable {answer : Except Raised Receipt}

/-- A creation is accounted for by its receipt or left open. -/
theorem AccountedBut.created (h : Accounted window trace)
    (hkey : left key ∨ ∃ receipt, answer = .ok receipt ∧ Refuses window key receipt) :
    AccountedBut window left (trace ++ [.created fresh key answer]) := by
  intro before after fresh' key' answer' heq
  rcases split_append heq with ⟨-, heq, -⟩ | ⟨rest, rfl, hold⟩
  · cases heq
    exact hkey.imp_right .inr
  · rcases h before rest fresh' key' answer' hold with hleft | ⟨receipt, hmem, hshows⟩ | hrefused
    · cases hleft
    · refine .inr (.inl ⟨receipt, ?_, hshows⟩)
      rw [filterMap_append]
      exact mem_append_left _ hmem
    · exact .inr (.inr hrefused)

theorem reply_eq_none (he : e.createdKey = none) : e.reply = none := by
  cases e with
  | created => cases he
  | _ => rfl

theorem Clean.append (h : Clean window trace) (he : e.createdKey = none) :
    Clean window (trace ++ [e]) := by
  rwa [Clean, filterMap_append_single, reply_eq_none he, Option.toList_none, append_nil]

theorem Clean.created (h : Clean window trace)
    (hanswer : ∀ receipt, answer = .ok receipt → receipt.outcome ∈ refusals →
      Refuses window key receipt) : Clean window (trace ++ [.created fresh key answer]) := by
  intro reply hmem houtcome
  rw [filterMap_append_single, mem_append, Option.mem_toList] at hmem
  rcases hmem with hmem | hmem
  · exact h reply hmem houtcome
  · cases answer with
    | error raised => cases hmem
    | ok receipt =>
      cases hmem
      exact hanswer receipt rfl houtcome

theorem Misjudged.append (h : Misjudged window trace) (hreceipt : e.receipt = none)
    (he : e.createdKey = none) : Misjudged window (trace ++ [e]) := by
  obtain ⟨before, after, fresh, key, receipt, rfl, houtcome, hrefuses, hafter⟩ := h
  refine ⟨before, after ++ [e], fresh, key, receipt, ?_, houtcome, hrefuses, fun x hx => ?_⟩
  · rw [append_assoc, cons_append]
  · rcases mem_append.1 hx with hx | hx
    · exact hafter x hx
    · rw [mem_singleton.1 hx]
      exact ⟨hreceipt, he⟩

/-- A creation that was misjudged is not accounted for. -/
theorem Misjudged.not_accounted (h : Misjudged window trace) :
    ¬ Clean window trace ∧ ¬ Accounted window trace := by
  obtain ⟨before, after, fresh, key, receipt, rfl, houtcome, hrefuses, hafter⟩ := h
  refine ⟨fun hclean => hrefuses (hclean (key, receipt) ?_ houtcome), ?_⟩
  · exact mem_filterMap.2 ⟨_, mem_append_right _ mem_cons_self, rfl⟩
  intro haccounted
  rcases haccounted before after fresh key _ rfl with hleft | ⟨other, hmem, -⟩ | ⟨other, heq, hother⟩
  · cases hleft
  · obtain ⟨x, hx, hreceipt⟩ := mem_filterMap.1 hmem
    rw [(hafter x hx).1] at hreceipt
    cases hreceipt
  · cases heq
    exact hrefuses hother

end Traces

/-! ## The invariant -/

variable {c : Context}

/-- The state of the request that was appended last. -/
def lastState (record : Record) : Option RequestState := record.requests.getLast?.map Request.state

/-- The creations are accounted for but those with a key that is left out, and no refusal was
misjudged; the last request is in one of some states. -/
structure Tallied (c : Context) (left : String → Prop) (states : List (Option RequestState))
    (s : Batch Time) : Prop where
  window : s.state.window = c.first.window
  clean : Clean c.first.window s.trace
  accounted : AccountedBut c.first.window left s.trace
  last : lastState s.state ∈ states

/-- What is left out is recorded as a request that may be under way. -/
def Fair (left : String → Prop) (states : List (Option RequestState)) : Prop :=
  (∀ key, ¬ left key) ∨
    ∀ state ∈ states, state ∈ [some .prepared, some .submitted, some .uncertain]

/-- What holds of a batch when something is raised. -/
def Breaks (c : Context) (s : Batch Time) : Prop :=
  (∃ left states, Tallied c left states s ∧ Fair left states) ∨
    s.state.window = c.first.window ∧ Misjudged c.first.window s.trace ∧
      lastState s.state = some .rejected

/-- Every creation is accounted for, and every request was observed. -/
abbrev Rested (c : Context) : Batch Time → Prop := Tallied c noKey [none, some .observed]

/-- One request may be under way. -/
abbrev Pends (c : Context) (key : String) (state : RequestState) : Batch Time → Prop :=
  Tallied c (· = key) [some state]

variable {states : List (Option RequestState)}

theorem fair_noKey : Fair noKey states :=
  .inl fun _ h => h

variable {s : Batch Time} {record : Record}

variable {α : Type}

variable {text : String} {before : RequestState} {receipt : Receipt}

section Rules

variable {world : World Time} {left : String → Prop} {states : List (Option RequestState)}

theorem Tallied.call (hs : Tallied c left states s) {e : Event Time} (he : e.createdKey = none) :
    Tallied c left states { s with trace := s.trace ++ [e] } where
  window := hs.window
  clean := hs.clean.append he
  accounted := hs.accounted.append he
  last := hs.last

theorem Tallied.breaks (hs : Tallied c left states s) (hfair : Fair left states) :
    Breaks c s := .inl ⟨left, states, hs, hfair⟩

/-- A call that is no creation. -/
theorem tallied_call {answer : List (Event Time) → Except Raised α}
    {event : Except Raised α → Event Time} (hfair : Fair left states)
    (h : ∀ r, (event r).createdKey = none) :
    Ensures (Tallied c left states) (Traced.ask answer event) (fun _ => Tallied c left states)
      fun _ => Breaks c :=
  Traced.ensures_ask (fun _ _ hs => hs.call (h _)) fun _ _ hs => (hs.call (h _)).breaks hfair

theorem tallied_inspect (hfair : Fair left states) :
    Ensures (Tallied c left states) (inspect world c)
      (fun receipt => Tallied c (fun key => left key ∧ ¬ Shows key receipt) states)
      fun _ => Breaks c := by
  refine Traced.ensures_ask (fun s receipt hs => ?_) fun s e hs => (hs.call rfl).breaks hfair
  exact ⟨hs.window, hs.clean.append rfl, hs.accounted.inspected receipt, hs.last⟩

/-- A publication keeps the record. -/
theorem tallied_save_keeping {P : Record → Prop} :
    Ensures (fun s => Tallied c left states s ∧ P s.state) (save world)
      (fun _ s => (Tallied c left states s ∧ P s.state) ∧ durable s.trace = some s.state)
      fun _ s => (Tallied c left states s ∧ P s.state) ∧ Stored s :=
  ensures_publish fun _ _ hs => ⟨hs.1.call rfl, hs.2⟩

theorem tallied_save (hfair : Fair left states) :
    Ensures (Tallied c left states) (save world) (fun _ => Tallied c left states)
      fun _ => Breaks c :=
  (tallied_save_keeping (P := fun _ => True)).weaken (fun _ hs => ⟨hs, trivial⟩)
    (fun _ _ hs => hs.1.1) fun _ _ hs => hs.1.1.breaks hfair

variable {fails : Raised → Batch Time → Prop}

theorem tallied_uuid4 :
    Ensures (Tallied c left states) (uuid4 world) (fun _ => Tallied c left states) fails := by
  refine .get_bind fun s₀ hs => ?_
  rintro _ rfl
  exact hs.call rfl

theorem tallied_lift {result : Except Raised α} (hfair : Fair left states) :
    Ensures (Tallied c left states) (lift result : BatchM Time α)
      (fun _ => Tallied c left states) fun _ => Breaks c :=
  (ensures_lift fun _ _ hs => hs.breaks hfair).weaken (fun _ hs => hs) (fun _ _ hs => hs.1)
    fun _ _ hs => hs

theorem tallied_stopIf {condition : Bool} (hfair : Fair left states) :
    Ensures (Tallied c left states) (stopIf condition text : BatchM Time Unit)
      (fun _ s => Tallied c left states s ∧ condition = false) fun _ => Breaks c :=
  ensures_stopIf fun _ _ hs => hs.breaks hfair

/-- A change of the record that keeps its window. -/
theorem tallied_update {states' : List (Option RequestState)} {f : Record → Record}
    (hwindow : ∀ record, (f record).window = record.window)
    (hlast : ∀ record, lastState record ∈ states → lastState (f record) ∈ states') :
    Ensures (Tallied c left states) (Traced.update f) (fun _ => Tallied c left states') fails :=
  Traced.ensures_update fun _ hs =>
    ⟨(hwindow _).trans hs.window, hs.clean, hs.accounted, hlast _ hs.last⟩

theorem lastState_setRequest (f : Request → Request) :
    lastState (record.setRequest f) = (record.requests.getLast?.map f).map Request.state := by
  rw [lastState, Record.setRequest]
  cases hlast : record.requests.getLast? with
  | none => simp [List.getLast?_eq_none_iff.1 hlast]
  | some request => simp

theorem lastState_setState (after : RequestState) (h : lastState record = some before) :
    lastState (record.setRequest fun request => { request with state := after }) =
      some after := by
  rw [lastState, Option.map_eq_some_iff] at h
  obtain ⟨request, hrequest, -⟩ := h
  rw [lastState_setRequest, hrequest]
  rfl

/-- Changing the state of the last request only. -/
theorem tallied_setState {before after : RequestState} :
    Ensures (Tallied c left [some before])
      (Traced.update (Record.setRequest fun request => { request with state := after }))
      (fun _ => Tallied c left [some after]) fails := by
  refine tallied_update (fun _ => rfl) fun record hlast => ?_
  rw [mem_singleton] at hlast ⊢
  exact lastState_setState after hlast

theorem tallied_requireCurrent {isPending : Bool} (hfair : Fair left states) :
    Ensures (Tallied c left states) (requireCurrent world c receipt isPending)
      (fun _ => Tallied c left states) fun _ => Breaks c := by
  refine .get_bind fun s₀ hs₀ => ?_
  refine .mono_pre (?_ : Ensures (Tallied c left states) _ _ _) fun s hs => hs ▸ hs₀
  refine .bind (tallied_lift hfair) fun changed => ?_
  refine .bind (tallied_stopIf hfair) fun _ => ?_
  refine .mono_pre ?_ fun s hs => hs.1
  refine .ite (fun _ => ?_) fun _ => .pure fun s hs => hs
  refine .bind (tallied_update (fun _ => rfl) fun _ hlast => hlast) fun _ => ?_
  exact .bind (tallied_save hfair) fun _ => .pure fun s hs => hs

end Rules

/-! ## The parts of a batch -/

section Parts

variable {world : World Time}

/-- What holds after the answer to a creation. -/
def Answered (c : Context) (key : String) (result : Receipt) (s : Batch Time) : Prop :=
  if result.outcome ∈ refusals then
    Tallied c noKey [some .prepared] s ∨
      s.state.window = c.first.window ∧ Misjudged c.first.window s.trace ∧
        lastState s.state = some .prepared
  else Pends c key .prepared s

/-- A creation: a refusal is accounted for or misjudged, any other answer leaves the key open. -/
theorem tallied_create :
    Ensures (Tallied c noKey [some .prepared]) (create world c fresh key) (Answered c key)
      fun _ => Breaks c := by
  have hopen {s : Batch Time} (hs : Tallied c noKey [some .prepared] s)
      {answer : Except Raised Receipt}
      (hanswer : ∀ receipt, answer = .ok receipt → receipt.outcome ∉ refusals) :
      Pends c key .prepared { s with trace := s.trace ++ [.created fresh key answer] } := by
    refine ⟨hs.window, hs.clean.created fun receipt hreceipt hmem => ?_,
      AccountedBut.created hs.accounted (.inl rfl), hs.last⟩
    exact absurd hmem (hanswer receipt hreceipt)
  refine Traced.ensures_ask (fun s result hs => ?_) fun s e hs => ?_
  · unfold Answered
    split
    case isTrue hmem =>
      by_cases hrefuses : Refuses c.first.window key result
      · refine .inl ⟨hs.window, hs.clean.created fun receipt hreceipt _ => ?_,
          AccountedBut.created hs.accounted (.inr ⟨result, rfl, hrefuses⟩), hs.last⟩
        cases hreceipt
        exact hrefuses
      · refine .inr ⟨hs.window, ⟨s.trace, [], fresh, key, result, rfl, hmem, hrefuses, ?_⟩,
          mem_singleton.1 hs.last⟩
        exact fun e he => by cases he
    case isFalse hmem =>
      refine hopen hs fun receipt hreceipt => ?_
      cases hreceipt
      exact hmem
  · refine (hopen hs fun receipt hreceipt => by cases hreceipt).breaks (.inr ?_)
    simp

variable {left : String → Prop}

theorem fair_pending {state : RequestState}
    (h : some state ∈ [some RequestState.prepared, some .submitted, some .uncertain]) :
    Fair left [some state] :=
  .inr fun _ hother => mem_singleton.1 hother ▸ h

variable {result : Receipt}

/-- A refused creation ends the batch; its request is rejected or uncertain by the outcome alone. -/
theorem tallied_refused :
    Ensures (Answered c key result)
      (do
        Traced.update (Record.setRequest fun request =>
          { request with state := refusedState result.outcome })
        throw (stopped text) : BatchM Time (Awaited Time))
      (fun awaited => Pends c awaited.requestKey .submitted) fun _ => Breaks c := by
  refine .bind_via (fun _ => Breaks c) (Traced.ensures_update fun s hs => ?_)
    fun _ => .throw fun s hs => hs
  unfold Answered at hs
  split at hs
  case isTrue hmem =>
    have hrejected : refusedState result.outcome = .rejected := if_pos hmem
    rw [hrejected]
    rcases hs with hs | ⟨hwindow, hmisjudged, hlast⟩
    · refine .inl ⟨noKey, [some .rejected], ⟨hs.window, hs.clean, hs.accounted, ?_⟩, fair_noKey⟩
      exact mem_singleton.2 (lastState_setState _ (mem_singleton.1 hs.last))
    · exact .inr ⟨hwindow, hmisjudged, lastState_setState _ hlast⟩
  case isFalse hmem =>
    have huncertain : refusedState result.outcome = .uncertain := if_neg hmem
    rw [huncertain]
    refine .inl ⟨(· = key), [some .uncertain], ⟨hs.window, hs.clean, hs.accounted, ?_⟩,
      fair_pending (by simp)⟩
    exact mem_singleton.2 (lastState_setState _ (mem_singleton.1 hs.last))

theorem submitted_of_not_refused (h : refused c fresh key result = false) :
    result.outcome = .submitted := by
  simp only [refused, decide_eq_false_iff_not, not_or, not_not] at h
  exact h.2.2.1

variable {acceptanceTimeout : Time}

/-- A request that is submitted may be under way. -/
theorem tallied_submit {expectedItems : Finset Int} :
    Ensures (Rested c) (submit world c acceptanceTimeout fresh expectedItems)
      (fun awaited => Pends c awaited.requestKey .submitted) fun _ => Breaks c := by
  refine .bind tallied_uuid4 fun key => ?_
  refine .bind (tallied_lift fair_noKey) fun encoded => ?_
  refine .bind_via (fun _ => Tallied c noKey [some .prepared])
    (tallied_update (fun _ => rfl) fun record _ => ?_) fun _ => ?_
  · rw [lastState, List.getLast?_concat]
    exact mem_singleton_self _
  refine .bind (tallied_save fair_noKey) fun _ => ?_
  refine .bind tallied_create fun result => ?_
  refine .ite (fun _ => tallied_refused) fun hrefused => ?_
  rw [Bool.not_eq_true] at hrefused
  have hanswered (s : Batch Time) (hs : Answered c key result s) : Pends c key .prepared s := by
    rwa [Answered, submitted_of_not_refused hrefused, if_neg (by decide)] at hs
  refine .mono_pre ?_ hanswered
  refine .bind_via (fun _ => Pends c key .submitted) tallied_setState fun _ => ?_
  refine .bind (tallied_save (fair_pending (by simp))) fun _ => ?_
  refine .bind (tallied_call (fair_pending (by simp)) fun _ => rfl) fun now => ?_
  exact .pure fun s hs => hs

theorem lastState_observe {newItems : Finset Int} (h : lastState record = some before) :
    lastState (record.observe c receipt newItems) = some .observed := by
  rw [lastState, Option.map_eq_some_iff] at h
  obtain ⟨request, hrequest, -⟩ := h
  rw [show lastState (record.observe c receipt newItems) = lastState (record.setRequest _) from rfl,
    lastState_setRequest, hrequest, Option.map_some, Option.map_some]
  split <;> rfl

/-- What the state of a record that is written last says of the creations. -/
structure Fated (c : Context) (state : State) (s : Batch Time) : Prop where
  window : s.state.window = c.first.window
  fate : (Clean c.first.window s.trace ∧
      (Accounted c.first.window s.trace ∧ state ∈ settledStates ∨ state ∈ pendingStates)) ∨
    Misjudged c.first.window s.trace ∧ state = .stopped

/-- What holds when a batch has ended. -/
def Closed (c : Context) (s : Batch Time) : Prop := Fated c s.state.state s ∧ Stored s

/-- The record is written with its last state before what comes next. -/
theorem tallied_close {state : State} {next : BatchM Time α} {post : α → Batch Time → Prop}
    (hfair : Fair left states)
    (h : (∀ key, ¬ left key) ∧ state ∈ settledStates ∨ state ∈ pendingStates)
    (hnext : Ensures (Closed c) next post fun _ => Breaks c) :
    Ensures (Tallied c left states)
      (do
        Traced.update fun record => { record with state := state }
        save world
        next)
      post fun _ => Breaks c := by
  refine .bind_via
    (fun _ s => Tallied c left states s ∧ s.state.state = state)
    (Traced.ensures_update fun s hs => ⟨⟨hs.window, hs.clean, hs.accounted, hs.last⟩, rfl⟩)
    fun _ => ?_
  refine .bind ((tallied_save_keeping (P := fun record => record.state = state)).weaken
    (fun _ hs => hs) (fun _ s ⟨⟨hs, hstate⟩, hdurable⟩ => ?_)
    fun _ _ hs => hs.1.1.breaks hfair) fun _ => hnext
  refine ⟨⟨hs.window, .inl ⟨hs.clean, ?_⟩⟩, .inl hdurable⟩
  rw [hstate]
  rcases h with ⟨hleft, hsettled⟩ | hpending
  · exact .inl ⟨hs.accounted.mono fun key hkey => (hleft key hkey).elim, hsettled⟩
  · exact .inr hpending

/-- How the loops end. -/
def Leaves (c : Context) (exit : Option Exit) (s : Batch Time) : Prop :=
  match exit with
  | none => True
  | some .returned => Closed c s
  | some (.broken _) => Rested c s

variable {fuel : ℕ}

theorem tallied_await {awaited : Awaited Time} {seenItems : Finset Int} :
    Ensures (Pends c awaited.requestKey .submitted) (await world c awaited fuel seenItems)
      (Leaves c) fun _ => Breaks c := by
  have hfair {left : String → Prop} : Fair left [some RequestState.submitted] :=
    fair_pending (by simp)
  induction fuel generalizing seenItems with
  | zero => exact .pure fun s hs => trivial
  | succ fuel ih =>
    refine .bind (tallied_call hfair fun _ => rfl) fun cancelled => ?_
    refine .ite (fun _ => ?_) fun _ => ?_
    · exact tallied_close hfair (.inr (by decide)) (.pure fun s hs => hs)
    · refine .bind (tallied_call hfair fun _ => rfl) fun now => ?_
      refine .ite (fun _ => ?_) fun _ => ?_
      · refine .bind_via (fun _ => Pends c awaited.requestKey .uncertain)
          tallied_setState fun _ => ?_
        exact .throw fun s hs => hs.breaks (fair_pending (by simp))
      · refine .bind (tallied_inspect hfair) fun receipt => ?_
        refine .bind (tallied_requireCurrent hfair) fun observed => ?_
        refine .bind (tallied_stopIf hfair) fun _ => ?_
        refine .mono_pre ?_ fun s hs => hs.1
        refine .ite (fun htransition => ?_) fun _ => ?_
        · refine .get_keep fun s₀ _ => ?_
          refine .mono_pre ?_ fun s hs => hs.1
          refine .bind (tallied_stopIf hfair) fun _ => ?_
          refine .assume fun hmatched => ?_
          simp only [mismatched, decide_eq_false_iff_not, not_or, Bool.not_eq_true] at hmatched
          -- the receipt shows the one key that was left out
          have hshows : Shows awaited.requestKey receipt :=
            ⟨htransition, hmatched.2.2.2.1, hmatched.2.2.2.2⟩
          refine .bind_via (fun _ => Rested c) (Traced.ensures_update fun s hs =>
            ⟨hs.window, hs.clean, hs.accounted.mono ?_, ?_⟩) fun _ => ?_
          · rintro key ⟨rfl, hnot⟩
            exact hnot hshows
          · rw [lastState_observe (mem_singleton.1 hs.last)]
            simp
          exact .bind (tallied_save fair_noKey) fun _ => .pure fun s hs => hs
        · refine .bind (tallied_stopIf hfair) fun _ => ?_
          refine .mono_pre ?_ fun s hs => hs.1
          refine .bind (tallied_call hfair fun _ => rfl) fun _ => ?_
          refine ih.mono_pre fun s hs => ⟨hs.window, hs.clean, hs.accounted.mono ?_, hs.last⟩
          exact fun key hkey => hkey.1

theorem tallied_fill :
    Ensures (Rested c) (fill world c acceptanceTimeout fuel) (Leaves c) fun _ => Breaks c := by
  induction fuel with
  | zero => exact .pure fun s hs => trivial
  | succ fuel ih =>
    refine .bind (tallied_call fair_noKey fun _ => rfl) fun _ => ?_
    refine .bind (tallied_call fair_noKey fun _ => rfl) fun cancelled => ?_
    refine .ite (fun _ => ?_) fun _ => ?_
    · exact tallied_close fair_noKey (.inl ⟨fun _ h => h, by decide⟩)
        (.pure fun s hs => hs)
    · refine .bind ((tallied_inspect fair_noKey).weaken (fun _ hs => hs)
        (fun receipt s hs => ?_) fun _ _ hs => hs :
          Ensures _ _ (fun _ => Rested c) _) fun receipt => ?_
      · exact ⟨hs.window, hs.clean, hs.accounted.mono fun key hkey => hkey.1, hs.last⟩
      refine .bind (tallied_requireCurrent fair_noKey) fun fresh => ?_
      refine .get_keep fun s₀ _ => ?_
      refine .mono_pre ?_ fun s hs => hs.1
      refine .bind (tallied_stopIf fair_noKey) fun _ => ?_
      refine .mono_pre ?_ fun s hs => hs.1
      refine .ite (fun _ => .pure fun s hs => hs) fun _ => ?_
      refine .bind tallied_submit fun awaited => ?_
      refine .bind tallied_await fun exit => ?_
      cases exit with
      | none => exact .pure fun s hs => trivial
      | some exit =>
        cases exit with
        | returned => exact .pure fun s hs => hs
        | broken observed => exact .ite (fun _ => .pure fun s hs => hs) fun _ => ih

theorem tallied_run :
    Ensures (Rested c) (run world c acceptanceTimeout fuel)
      (fun result s => result ≠ none → Closed c s) fun _ => Breaks c := by
  refine .bind tallied_fill fun exit => ?_
  cases exit with
  | none => exact .pure fun s hs h => (h rfl).elim
  | some exit =>
    cases exit with
    | returned => exact .get_bind fun s₀ hs => .pure fun s heq _ => heq ▸ hs
    | broken last =>
      refine tallied_close fair_noKey (.inl ⟨fun _ h => h, by decide⟩) ?_
      exact .get_bind fun s₀ hs => .pure fun s heq _ => heq ▸ hs

theorem stateRaised_mem (record : Record) :
    record.stateRaised = .stopped ∨ record.stateRaised = .uncertain := by
  unfold Record.stateRaised
  split
  · exact .inl rfl
  · split
    · exact .inr rfl
    · exact .inl rfl

/-- A request that may be under way leaves the record uncertain. -/
theorem stateRaised_of_pending
    (h : lastState record ∈ [some RequestState.prepared, some .submitted, some .uncertain]) :
    record.stateRaised = .uncertain := by
  unfold Record.stateRaised
  rw [lastState] at h
  cases hlast : record.requests.getLast? with
  | none => simp [hlast] at h
  | some request => exact if_pos (by simpa [hlast] using h)

theorem stateRaised_of_rejected (h : lastState record = some .rejected) :
    record.stateRaised = .stopped := by
  unfold Record.stateRaised
  rw [lastState, Option.map_eq_some_iff] at h
  obtain ⟨request, hrequest, hstate⟩ := h
  rw [hrequest]
  exact if_neg (by simp [hstate])

/-- What an exception makes of the record, whatever was raised. -/
theorem Breaks.fated (hs : Breaks c s) : Fated c s.state.stateRaised s := by
  rcases hs with ⟨left, states, hs, hfair⟩ | ⟨hwindow, hmisjudged, hlast⟩
  · refine ⟨hs.window, .inl ⟨hs.clean, ?_⟩⟩
    rcases hfair with hleft | hpending
    · rcases stateRaised_mem s.state with hstate | hstate
      · refine .inl ⟨hs.accounted.mono fun key hkey => (hleft key hkey).elim, ?_⟩
        rw [hstate]
        decide
      · rw [hstate]
        exact .inr (by decide)
    · rw [stateRaised_of_pending (hpending _ hs.last)]
      exact .inr (by decide)
  · exact ⟨hwindow, .inr ⟨hmisjudged, stateRaised_of_rejected hlast⟩⟩

/-- The handler writes the record again, whatever comes of it. -/
theorem closed_recover {post : Option Record → Batch Time → Prop} (e : Raised) :
    Ensures (Breaks c) (recover world e) post fun _ => Closed c := by
  refine .bind_via (fun _ s => Fated c s.state.state s)
    (Traced.ensures_update fun s hs => ⟨hs.fated.window, hs.fated.fate⟩) fun _ => ?_
  refine .bind (ensures_publish fun s publication hs => ⟨hs.window, ?_⟩)
    fun _ => .throw fun s hs => ⟨hs.1, .inl hs.2⟩
  rcases hs.fate with ⟨hclean, hstate⟩ | ⟨hmisjudged, hstate⟩
  · exact .inl ⟨hclean.append rfl, hstate.imp_left fun h => ⟨h.1.append rfl, h.2⟩⟩
  · exact .inr ⟨hmisjudged.append rfl rfl, hstate⟩

end Parts

/-! ## Batches -/

/-- No journal was begun, and nothing was created. -/
def Unbegun (s : Batch Time) : Prop :=
  s.trace.filterMap Event.createdKey = [] ∧ ∀ record, .published record .published ∉ s.trace

theorem Begun.unbegun {receipts : List Receipt} (hs : Begun receipts s) : Unbegun s := by
  refine ⟨hs.1, fun record hmem => ?_⟩
  have hrecord : record ∈ s.trace.filterMap Event.record := mem_filterMap.2 ⟨_, hmem, rfl⟩
  rw [hs.2.1] at hrecord
  cases hrecord

theorem created_of_accounted {window : Int} {trace : List (Event Time)}
    (h : trace.filterMap Event.createdKey = []) : Clean window trace ∧ Accounted window trace := by
  have hnone (e : Event Time) (he : e ∈ trace) : e.createdKey = none :=
    filterMap_eq_nil_iff.1 h e he
  constructor
  · intro reply hmem
    obtain ⟨e, he, hreply⟩ := mem_filterMap.1 hmem
    rw [reply_eq_none (hnone e he)] at hreply
    cases hreply
  · rintro before after fresh key answer rfl
    cases hnone _ (mem_append_right _ mem_cons_self)

section Batches

variable {world : World Time} {args : Arguments Time} {fuel : ℕ}

variable {first : Receipt}

/-- A new journal starts with every creation accounted for. -/
theorem Begun.rested (hs : Begun [first] s) (recipe : Option RandomRecipeSpec)
    (hwindow : record.window = first.window) (hrequests : record.requests = []) :
    Rested ⟨recipe, first⟩ { s with state := record } where
  window := hwindow
  clean := (created_of_accounted hs.1).1
  accounted := (created_of_accounted hs.1).2
  last := by simp [lastState, hrequests]

/-- The first publication begins the journal, or nothing is begun. -/
theorem rested_save {recipe : Option RandomRecipeSpec} :
    Ensures (fun s => Begun [first] s ∧ Rested ⟨recipe, first⟩ s) (save world)
      (fun _ => Rested ⟨recipe, first⟩) fun _ => Unbegun := by
  refine .get_bind fun s₀ ⟨hbegun, hs⟩ => ?_
  cases hpublish : world.publish s₀.state s₀.trace with
  | published =>
    rintro s rfl
    exact hs.call rfl
  | raised e replaced =>
    rintro s rfl
    refine ⟨?_, fun record hmem => ?_⟩
    · rw [filterMap_append_single, hbegun.1]
      rfl
    · rcases mem_append.1 hmem with hmem | hmem
      · exact hbegun.unbegun.2 record hmem
      · cases mem_singleton.1 hmem

theorem fillAvailableSlots_closed (journalExists : Bool) :
    Ensures (fun s => s.trace = []) (fillAvailableSlots world args journalExists fuel)
      (fun result s => result ≠ none → Unbegun s ∨ ∃ c, Closed c s)
      fun _ s => Unbegun s ∨ ∃ c, Closed c s := by
  refine .mono_pre (?_ : Ensures (Begun []) _ _ _) ?_
  · have hunbegun {receipts : List Receipt} (e : Raised) (s : Batch Time)
        (hs : Begun receipts s) : Unbegun s ∨ ∃ c, Closed c s := .inl hs.unbegun
    unfold fillAvailableSlots
    split
    case h_1 => exact .throw fun s hs => .inl hs.unbegun
    case h_2 =>
      refine .bind (Begun.ensures_call (fun _ => ⟨rfl, rfl, rfl⟩) hunbegun) fun _ => ?_
      refine .bind (ensures_stopIf hunbegun) fun _ => ?_
      refine .mono_pre ?_ fun s hs => hs.1
      refine .bind (Traced.ensures_ask (fun s first hs => hs.call rfl rfl)
        fun s e hs => .inl (hs.call (e := .inspected (.error e)) rfl rfl).unbegun) fun first => ?_
      refine .mono_pre (?_ : Ensures (Begun [first]) _ _ _) fun s hs => hs
      refine .bind (ensures_lift hunbegun) fun unready => ?_
      refine .mono_pre ?_ fun s hs => hs.1
      refine .bind (ensures_stopIf hunbegun) fun _ => ?_
      refine .mono_pre ?_ fun s hs => hs.1
      refine .bind (ensures_stopIf hunbegun) fun _ => ?_
      refine .mono_pre ?_ fun s hs => hs.1
      refine .bind (Begun.ensures_validate hunbegun) fun preparation => ?_
      refine .bind Begun.ensures_uuid4 fun batchId => ?_
      refine .bind (ensures_lift hunbegun) fun encoded => ?_
      refine .bind_via
        (fun _ s => Begun [first] s ∧ Rested ⟨args.recipe, first⟩ s)
        (Traced.ensures_update fun s hs => ⟨hs.1, hs.1.rested args.recipe rfl rfl⟩) fun _ => ?_
      refine .bind (rested_save.weaken (fun _ hs => hs) (fun _ _ hs => hs)
        fun _ _ hs => .inl hs) fun _ => ?_
      exact (Ensures.tryCatch tallied_run fun e => closed_recover e).weaken (fun _ hs => hs)
        (fun _ _ hs hsome => .inr ⟨_, hs hsome⟩) fun _ _ hs => .inr ⟨_, hs⟩
  · rintro s hs
    rw [Begun, hs]
    exact ⟨rfl, rfl, rfl⟩

end Batches

theorem Closed.settles_iff (hs : Closed c s) :
    Settles s.state s.trace ↔ Clean s.state.window s.trace := by
  obtain ⟨⟨hwindow, hfate⟩, -⟩ := hs
  rw [hwindow]
  rcases hfate with ⟨hclean, hstate⟩ | ⟨hmisjudged, hstate⟩
  · refine iff_of_true ⟨fun hsettled => ?_, fun hopen => ?_, fun _ => ?_⟩ hclean
    · rw [hwindow]
      rcases hstate with ⟨haccounted, -⟩ | hpending
      · exact haccounted
      · cases hcase : s.state.state <;> rw [hcase] at hsettled hpending <;>
          simp [settledStates, pendingStates] at hsettled hpending
    · rw [hwindow] at hopen
      exact hstate.resolve_left fun h => hopen h.1
    · exact hstate.imp_left fun h => h.2
  · refine iff_of_false (fun h => ?_) hmisjudged.not_accounted.1
    have haccounted := h.settled (by rw [hstate]; decide)
    rw [hwindow] at haccounted
    exact hmisjudged.not_accounted.2 haccounted

theorem Unbegun.settles (hs : Unbegun s) :
    Settles s.state s.trace ∧ Clean s.state.window s.trace := by
  have hnone := @created_of_accounted _ s.state.window s.trace hs.1
  refine ⟨⟨fun _ => hnone.2, fun h => (h hnone.2).elim, ?_⟩, hnone.1⟩
  rintro ⟨other, hmem⟩
  exact (hs.2 other hmem).elim

/-- A run that did not run out of fuel. -/
def hasEnded : EStateM.Result Raised (Batch Time) (Option Record) → Bool
  | .ok none _ => false
  | _ => true

section Main

variable (world : World Time) (args : Arguments Time) (fuel : ℕ)

theorem fillAvailableSlots_ends (journalExists : Bool)
    (hended : hasEnded ((fillAvailableSlots world args journalExists fuel).run ⟨default, []⟩) =
      true)
    (hs : s = ended ((fillAvailableSlots world args journalExists fuel).run ⟨default, []⟩)) :
    Unbegun s ∨ ∃ c, Closed c s := by
  have hcloses := @fillAvailableSlots_closed _ world args fuel journalExists
  cases hrun : (fillAvailableSlots world args journalExists fuel).run ⟨default, []⟩ with
  | ok result s' =>
    rw [hrun] at hs hended
    refine hs ▸ hcloses.ok rfl hrun ?_
    rintro rfl
    cases hended
  | error e s' =>
    rw [hrun] at hs
    exact hs ▸ hcloses.error rfl hrun

/-- The state of the journal says what became of the creations if and only if every receipt that
refuses by its outcome refuses that creation. -/
theorem batch_settles_iff (journalExists : Bool)
    (hended : hasEnded ((fillAvailableSlots world args journalExists fuel).run ⟨default, []⟩) =
      true) {s : Batch Time}
    (hs : s = ended ((fillAvailableSlots world args journalExists fuel).run ⟨default, []⟩)) :
    (Settles s.state s.trace ↔ Clean s.state.window s.trace) ∧
      ((∃ record, .published record .published ∈ s.trace) → Stored s) := by
  rcases fillAvailableSlots_ends world args fuel journalExists hended hs with hbegun | ⟨c, hclosed⟩
  · refine ⟨iff_of_true hbegun.settles.1 hbegun.settles.2, ?_⟩
    rintro ⟨record, hmem⟩
    exact (hbegun.2 record hmem).elim
  · exact ⟨hclosed.settles_iff, fun _ => hclosed.2⟩

end Main

/-- A vendor with two free slots. -/
def freeVendor : Snapshot where
  scene := 1
  revision := 1
  root := 100
  manager := 200
  menu := 300
  recipe := 400
  hireling := 500
  building := 2229645
  vendor := 2517204
  itemTemplate := 26990
  itemPrefix := randomSentinel
  itemSuffix := randomSentinel
  mode := 1
  table := 12
  quantity := 1
  slots := [{ entry := 600 }, { entry := 700 }]

/-- A session in which every creation is answered alike, with its own key. -/
def answering (outcome : Outcome) (flags : Int) : World ℕ where
  lock _ := .ok ⟨⟩
  inspect _ _ := .ok ⟨"inspection", ⟨1, 1, 1⟩, 1000, .observed, ready, freeVendor, 0, none⟩
  validate _ _ _ := .ok ""
  uuid4 _ := "request"
  publish _ _ := .published
  beforeAction _ := .ok ⟨⟩
  cancelled _ := .ok false
  clock _ := .ok 0
  sleeper _ := .ok ⟨⟩
  create _ _ key _ := .ok ⟨key, ⟨1, 1, 1⟩, 1000, outcome, flags, freeVendor, 0, none⟩
  plus := (· + ·)
  reached now deadline := deadline ≤ now
  allowed timeout := 0 < timeout ∧ timeout ≤ 60

/-- The run of a batch in such a session. -/
def answeredRun (outcome : Outcome) (flags : Int) :
    EStateM.Result Raised (Batch ℕ) (Option Record) :=
  (fillAvailableSlots (answering outcome flags)
    { processId := 988, processCreation := 1234567, vendorId := 2517204, acceptanceTimeout := 15 }
    false 1).run ⟨default, []⟩

/-- A refusal of the creation itself. -/
theorem batch_settles_iff_stale :
    let s := ended (answeredRun .stale 0)
    (Settles s.state s.trace ↔ Clean s.state.window s.trace) ∧
      ((∃ record, .published record .published ∈ s.trace) → Stored s) :=
  batch_settles_iff _ _ _ _ (by decide +kernel) rfl

/-- An earlier creation is under way, so that this one is refused, and the batch is stopped. -/
theorem batch_stopped_in_flight :
    let s := ended (answeredRun .pending inFlight)
    s.state.state = .stopped ∧ ¬ Accounted s.state.window s.trace ∧
      ¬ Settles s.state s.trace := by
  intro s
  have hstate : s.state.state = .stopped := by decide +kernel +zetaReduce
  have hclean : ¬ Clean s.state.window s.trace := by decide +kernel +zetaReduce
  have hsettles : ¬ Settles s.state s.trace := by
    have hended : hasEnded (answeredRun .pending inFlight) = true := by decide +kernel
    rcases fillAvailableSlots_ends _ _ _ _ hended rfl with hbegun | ⟨c, hclosed⟩
    · exact (hclean hbegun.settles.2).elim
    · exact fun h => hclean (hclosed.settles_iff.1 h)
  refine ⟨hstate, fun haccounted => hsettles ⟨fun _ => haccounted, fun h => (h haccounted).elim,
    fun _ => .inl ?_⟩, hsettles⟩
  rw [hstate]
  decide

end ShadowbaneLab.VendorBatch
