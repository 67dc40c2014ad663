/-
# What the consumer of the event channel reads

A coherent snapshot is two equal readings.  Nothing is known of the first one but that its last
event was published before the second began, and then the slots that the second reads cannot be
written any more, so that its events, and with it those of the first, are the ones published.
-/
import ShadowbaneLab.Channel.EventRuns
import ShadowbaneLab.Foundation.Host

namespace ShadowbaneLab.Channel

open Foundation Foundation.Role List

/-! ## Accepted readings -/

theorem expect_bind_eq_ok {α : Type} {condition : Bool} {text : String}
    {rest : Unit → Except String α} {a : α} (h : (expect condition text >>= rest) = .ok a) :
    condition = true ∧ rest ⟨⟩ = .ok a := by
  cases condition with
  | true => exact ⟨rfl, h⟩
  | false => cases h

variable {source : Memory} {header : Header}

/-- The header has what the fields hold, and its numbers do not move backwards. -/
theorem parseHeader_ok (h : parseHeader source = .ok header) :
    header.processId = source .processId ∧ header.creation = source .creation ∧
      header.write = (source .write).toNat ∧ header.read = (source .read).toNat ∧
      header.read ≤ header.write := by
  iterate 6 obtain ⟨-, h⟩ := expect_bind_eq_ok h
  obtain ⟨hle, h⟩ := expect_bind_eq_ok h
  iterate 3 obtain ⟨-, h⟩ := expect_bind_eq_ok h
  cases h
  exact ⟨rfl, rfl, rfl, rfl, UInt64.le_iff_toNat_le.1 (of_decide_eq_true hle)⟩

theorem parseSlot_ok {sequence : ℕ} {slot : Field → UInt64} {e : Event}
    (h : parseSlot header sequence slot = .ok e) :
    ∃ button, buttonOf (slot .button) = .ok button ∧ e = eventOf header sequence button slot := by
  obtain ⟨-, h⟩ := expect_bind_eq_ok h
  obtain ⟨-, h⟩ := expect_bind_eq_ok h
  obtain ⟨button, hbutton, h⟩ := bind_eq_ok.1 h
  iterate 5 obtain ⟨-, h⟩ := expect_bind_eq_ok h
  cases h
  exact ⟨button, hbutton, rfl⟩

variable {events : List Event}

/-- The events of the slots, one for each number. -/
theorem parseSlots_ok {slot : ℕ → Field → UInt64} {sequences : List ℕ}
    (h : (sequences.mapM fun sequence => parseSlot header sequence (slot sequence)) = .ok events) :
    events.map Event.sequence = sequences ∧
      ∀ e ∈ events, parseSlot header e.sequence (slot e.sequence) = .ok e := by
  induction sequences generalizing events with
  | nil =>
    cases h
    exact ⟨rfl, nofun⟩
  | cons sequence sequences ih =>
    rw [mapM_cons] at h
    obtain ⟨e, he, h⟩ := bind_eq_ok.1 h
    obtain ⟨rest, hrest, h⟩ := bind_eq_ok.1 h
    cases h
    obtain ⟨hsequences, hevents⟩ := ih hrest
    have hsequence : e.sequence = sequence := by
      obtain ⟨button, -, rfl⟩ := parseSlot_ok he
      rfl
    constructor
    · rw [map_cons, hsequence, hsequences]
    · intro e' he'
      rcases mem_cons.1 he' with rfl | he'
      · rw [hsequence]
        exact he
      · exact hevents e' he'

/-- What a reading that is accepted has said. -/
structure Accepted (processId creation : UInt64) (source : Memory) (x : Snapshot) : Prop where
  header : parseHeader source = .ok x.header
  owner : x.header.processId = processId
  lifetime : x.header.creation = creation
  sequences : x.events.map Event.sequence = x.header.pending
  events : ∀ e ∈ x.events,
    parseSlot x.header e.sequence (fun field => source (.slot (slotOf e.sequence) field)) = .ok e

variable {processId creation : UInt64}

variable {x : Snapshot}

theorem parse_ok (h : parse processId creation source = .ok x) :
    Accepted processId creation source x := by
  obtain ⟨-, h⟩ := expect_bind_eq_ok h
  obtain ⟨header, hheader, h⟩ := bind_eq_ok.1 h
  obtain ⟨howner, h⟩ := expect_bind_eq_ok h
  obtain ⟨hlifetime, h⟩ := expect_bind_eq_ok h
  obtain ⟨events, hevents, h⟩ := bind_eq_ok.1 h
  cases h
  obtain ⟨hsequences, hevents⟩ := parseSlots_ok hevents
  exact ⟨hheader, of_decide_eq_true howner, of_decide_eq_true hlifetime, hsequences, hevents⟩

/-! ## Equal snapshots -/

theorem Event.same_sequence {e e' : Event} (h : e.same e' = true) : e.sequence = e'.sequence := by
  have hrest := (of_decide_eq_true h).2.2
  rw [hrest]

variable {x y : Snapshot}

/-- Snapshots that are equal for Python have equal headers, and equal events one by one. -/
theorem Snapshot.same_iff (h : x.same y = true) :
    x.header = y.header ∧ x.events.map Event.sequence = y.events.map Event.sequence ∧
      ∀ e ∈ x.events, ∃ e' ∈ y.events, e.same e' = true := by
  obtain ⟨hheader, hlength, hall⟩ := of_decide_eq_true h
  refine ⟨hheader, ?_, ?_⟩
  · generalize x.events = xs at hlength hall
    generalize y.events = ys at hlength hall
    induction xs generalizing ys with
    | nil =>
      cases ys with
      | nil => rfl
      | cons e' ys => cases hlength
    | cons e xs ih =>
      cases ys with
      | nil => cases hlength
      | cons e' ys =>
        rw [zip_cons_cons, all_cons, Bool.and_eq_true] at hall
        rw [map_cons, map_cons, Event.same_sequence hall.1,
          ih ys (Nat.succ.inj hlength) hall.2]
  · intro e he
    obtain ⟨i, hi, rfl⟩ := getElem_of_mem he
    have hi' : i < y.events.length := hlength ▸ hi
    refine ⟨y.events[i], getElem_mem hi', ?_⟩
    have hzip : (x.events[i], y.events[i]) ∈ x.events.zip y.events := by
      have hlt : i < (x.events.zip y.events).length := by
        rw [length_zip]
        omega
      rw [← getElem_zip (h := hlt)]
      exact getElem_mem hlt
    exact all_eq_true.1 hall _ hzip

/-! ## Readings of the queue -/

/-- What a field says while the events before the `contents.length`-th are all published and the
first `read` are acknowledged. -/
structure Reads (processId creation : UInt64) (read : ℕ) (contents : List Content) (x : Cell)
    (value : UInt64) : Prop where
  slots : ∀ (k : ℕ) (content : Content), read ≤ k → contents[k]? = some content → ∀ field,
    x = .slot (slotOf (k + 1)) field → value = content.field (UInt64.ofNat (k + 1)) field
  owner : x = .processId → value = processId
  lifetime : x = .creation → value = creation
  acknowledged : x = .read → value.toNat = read

theorem buttonOf_field {content : Content} {sequence : UInt64} {button : Button}
    (h : buttonOf (content.field sequence .button) = .ok button) :
    button = if content.button = 1 then .left else .right := by
  have hone : content.field sequence .button = 1 ↔ content.button = 1 := by
    show content.button.toUInt64 = 1 ↔ _
    rw [← UInt64.toNat_inj, ← UInt32.toNat_inj, UInt32.toNat_toUInt64]
    rfl
  rw [buttonOf] at h
  by_cases heq : content.button = 1
  · rw [if_pos (hone.2 heq)] at h
    cases h
    rw [if_pos heq]
  · rw [if_neg fun h => heq (hone.1 h)] at h
    rw [if_neg heq]
    by_cases htwo : content.field sequence .button = 2
    · rw [if_pos htwo] at h
      cases h
      rfl
    · rw [if_neg htwo] at h
      cases h

variable {contents : List Content}

/-- A reading that is accepted returns the events as they were published. -/
theorem Accepted.content {p c : UInt64} {read : ℕ} (hx : Accepted p c source x)
    (hreads : ∀ cell, Reads processId creation read contents cell (source cell))
    (hwrite : x.header.write ≤ contents.length) {e : Event} (he : e ∈ x.events) :
    ∃ content, contents[e.sequence - 1]? = some content ∧
      e = content.event processId creation e.sequence := by
  obtain ⟨howner, hlifetime, -, hread, -⟩ := parseHeader_ok hx.header
  rw [(hreads .processId).owner rfl] at howner
  rw [(hreads .creation).lifetime rfl] at hlifetime
  rw [(hreads .read).acknowledged rfl] at hread
  have hmem : e.sequence ∈ x.header.pending := by
    rw [← hx.sequences]
    exact mem_map_of_mem he
  obtain ⟨i, hi, hsequence⟩ := mem_map.1 hmem
  rw [mem_range] at hi
  have hk : e.sequence = (read + i) + 1 := by omega
  have hlt : read + i < contents.length := by omega
  refine ⟨contents[read + i], ?_, ?_⟩
  · rw [hk, Nat.add_sub_cancel]
    exact List.getElem?_eq_getElem hlt
  · have hfields : (fun field => source (.slot (slotOf e.sequence) field)) =
        contents[read + i].field (UInt64.ofNat e.sequence) := by
      funext field
      rw [hk]
      exact (hreads _).slots (read + i) _ (Nat.le_add_right _ _) (List.getElem?_eq_getElem hlt)
        field rfl
    have hslot := hx.events e he
    rw [hfields] at hslot
    obtain ⟨button, hbutton, heq⟩ := parseSlot_ok hslot
    rw [buttonOf_field hbutton] at heq
    rw [heq, eventOf, howner, hlifetime]
    rfl

/-! ## What the producer does not change -/

variable {log : List Entry}

theorem Handed.append {k : ℕ} (h : Handed log k) (entries : List Entry) :
    Handed (log ++ entries) k := by
  obtain ⟨events, hevents, h⟩ := h
  exact ⟨events, mem_append_left _ hevents, h⟩

/-- What the producer adds does not change what the returned events are. -/
theorem Faithful.of_moves {s s' : Storage} (hs : Faithful processId creation s.log events)
    (hmoves : Moves false s s') : Faithful processId creation s'.log events := by
  obtain ⟨more, hmore⟩ := hmoves.published_eq_append
  obtain ⟨write, hread, hwrite, hsequences⟩ := hs.contiguous
  constructor
  · rw [hmoves.acknowledged_eq, hmore, length_append]
    exact ⟨write, hread, by omega, hsequences⟩
  · intro e he
    obtain ⟨content, hcontent, hsame⟩ := hs.content e he
    refine ⟨content, ?_, hsame⟩
    rw [hmore, List.getElem?_append_left (List.getElem?_eq_some_iff.1 hcontent).1]
    exact hcontent

/-! ## The consumer is sound -/

namespace Consumer

section

variable {processId creation : UInt64} {s s' : Storage} {c : Consumer}

variable {P : Storage → Prop}

/-- The consumer relies on the producer's moves. -/
theorem stable (h : ∀ s s', Moves false s s' → P s → P s') :
    (role processId creation true).Stable P :=
  fun s s' hmoves _ => h s s' hmoves

/-- Every field is read at some moment. -/
theorem good_readAll {V : Cell → UInt64 → Storage → Prop}
    (hP : (role processId creation true).Stable P) (hs : P s)
    (hV : ∀ x value, (role processId creation true).Stable (V x value))
    (h : ∀ s, Inv processId creation s → P s → ∀ x, V x (s.memory x) s) :
    (role processId creation true).Good (fun source s => P s ∧ ∀ x, V x (source x) s)
      readAll s := by
  have hboth : ∀ (source : Memory) (cells : List Cell), (role processId creation true).Stable
      fun s => P s ∧ ∀ x ∈ cells, V x (source x) s := fun source cells s s' hrely hinv hs =>
    ⟨hP s s' hrely hinv hs.1, fun x hx => hV x _ s s' hrely hinv (hs.2 x hx)⟩
  have hfold : ∀ (order done : List Cell) (source : Memory) (s : Storage),
      (P s ∧ ∀ x ∈ done, V x (source x) s) →
      (role processId creation true).Good
        (fun source s => P s ∧ ∀ x ∈ order ++ done, V x (source x) s)
        (order.foldlM (fun source x => do
          let value ← load x
          return Function.update source x value) source) s := by
    intro order
    induction order with
    | nil => exact fun done source s hs => .ret (hboth source done) hs
    | cons x order ih =>
      intro done source s hs
      have hload : (role processId creation true).Good
          (fun value s => (P s ∧ ∀ x ∈ done, V x (source x) s) ∧ V x value s)
          (load x) s := by
        refine good_load (hboth source done) hs (fun s hinv hs => ⟨hs, h s hinv hs.1 x⟩) ?_
        exact fun value s s' hrely hinv hs =>
          ⟨hboth source done s s' hrely hinv hs.1, hV x value s s' hrely hinv hs.2⟩
      refine .bind (.bind hload fun value s _ hs => ?_)
        (M := fun source s => P s ∧ ∀ y ∈ x :: done, V y (source y) s) fun source s _ hs => ?_
      · refine .ret (hboth _ _) ⟨hs.1.1, fun y hy => ?_⟩
        by_cases heq : y = x
        · subst heq
          rw [Function.update_self]
          exact hs.2
        · rw [Function.update_of_ne heq]
          exact hs.1.2 y ((mem_cons.1 hy).resolve_left heq)
      · refine (ih (x :: done) source s hs).imp fun source s _ hs => ⟨hs.1, fun y hy => ?_⟩
        refine hs.2 y ?_
        simp only [cons_append, mem_cons, mem_append] at hy ⊢
        tauto
  refine .bind (.anything hP hs) fun order s _ hs => ?_
  refine (hfold order.1 [] _ s ⟨hs, nofun⟩).imp fun source s _ hs => ⟨hs.1, fun x => ?_⟩
  exact hs.2 x (mem_append_left _ (order.2 x))

/-- The consumer knows how far it is; if it has `seen` so much, all that it observed was returned. -/
structure Current (seen : Prop) (c : Consumer) (s : Storage) : Prop where
  acknowledged : c.acknowledged = (Channel.acknowledged s.log).length
  observed : c.observed ≤ (published s.log).length
  handed : seen → ∀ k, (Channel.acknowledged s.log).length < k → k ≤ c.observed → Handed s.log k

variable {seen : Prop}

theorem Current.of_moves (hs : Current seen c s) (hmoves : Moves false s s') :
    Current seen c s' := by
  obtain ⟨more, hmore⟩ := hmoves.published_eq_append
  obtain ⟨entries, hlog, -⟩ := hmoves.log
  refine ⟨?_, ?_, fun hseen k hk hle => ?_⟩
  · rw [hmoves.acknowledged_eq]
    exact hs.acknowledged
  · have hle := hs.observed
    rw [hmore, length_append]
    omega
  · rw [hmoves.acknowledged_eq] at hk
    rw [hlog]
    exact (hs.handed hseen k hk hle).append entries

theorem Current.stable : (role processId creation true).Stable (Current seen c) :=
  Consumer.stable fun _ _ hmoves hs => hs.of_moves hmoves

/-- What `snapshot` says of the consumer that it leaves. -/
def Snapped (seen : Prop) (result : Consumer × Except String Snapshot) (s : Storage) : Prop :=
  match result.2 with
  | .error _ => Current seen result.1 s
  | .ok x => result.1.observed = x.header.write ∧ Current True result.1 s

/-- Two equal readings, the second of which is of events that were all published before it. -/
theorem faithful_of_same {first second : Memory}
    (hread : c.acknowledged = (Channel.acknowledged s.log).length)
    (hx : parse c.processId c.creation first = .ok x)
    (hy : parse c.processId c.creation second = .ok y)
    (hfirst : (first .write).toNat ≤ contents.length)
    (hsecond : ∀ cell, Reads processId creation c.acknowledged contents cell (second cell))
    (hcontents : ∃ more, published s.log = contents ++ more) (hsame : x.same y = true) :
    Faithful processId creation s.log x.events := by
  obtain ⟨more, hmore⟩ := hcontents
  obtain ⟨hheader, -, hevents⟩ := Snapshot.same_iff hsame
  have hxa := parse_ok hx
  have hya := parse_ok hy
  obtain ⟨-, -, hxwrite, -, -⟩ := parseHeader_ok hxa.header
  obtain ⟨-, -, -, hyread, hyle⟩ := parseHeader_ok hya.header
  rw [(hsecond .read).acknowledged rfl] at hyread
  have hwrite : y.header.write ≤ contents.length := by
    rw [← hheader, hxwrite]
    exact hfirst
  constructor
  · refine ⟨x.header.write, ?_, ?_, ?_⟩
    · rw [← hread, ← hyread, hheader]
      exact hyle
    · rw [hheader, hmore, length_append]
      omega
    · rw [hxa.sequences, ← hread, ← hyread, ← hheader]
      rfl
  · intro e he
    obtain ⟨e', he', heq⟩ := hevents e he
    obtain ⟨content, hcontent, hevent⟩ := hya.content hsecond hwrite he'
    refine ⟨content, ?_, ?_⟩
    · rw [Event.same_sequence heq, hmore,
        List.getElem?_append_left (List.getElem?_eq_some_iff.1 hcontent).1]
      exact hcontent
    · rw [Event.same_sequence heq, ← hevent]
      exact heq

theorem Snapped.stable {result : Consumer × Except String Snapshot} :
    (role processId creation true).Stable (Snapped seen result) := by
  obtain ⟨c, result⟩ := result
  cases result with
  | error text => exact Current.stable
  | ok x => exact Consumer.stable fun _ _ hmoves hs => ⟨hs.1, hs.2.of_moves hmoves⟩

/-- Returned events were all observed. -/
theorem Current.returned (hs : Current seen c s) (hread : x.header.read = c.acknowledged)
    (hwrite : x.header.write ≤ (published s.log).length)
    (hsequences : x.events.map Event.sequence = x.header.pending) :
    Current True { c with observed := x.header.write } ⟨s.memory, s.log ++ [.returned x.events]⟩ := by
  have ha : Channel.acknowledged (s.log ++ [.returned x.events]) = Channel.acknowledged s.log := by
    rw [acknowledged_append, acknowledged_singleton]
    exact append_nil _
  refine ⟨?_, ?_, fun _ k hk hle => ?_⟩
  · rw [ha]
    exact hs.acknowledged
  · rw [published_append, length_append]
    exact Nat.le_add_right_of_le hwrite
  · rw [ha, ← hs.acknowledged, ← hread] at hk
    have hmem : k ∈ x.events.map Event.sequence := by
      rw [hsequences]
      refine mem_map.2 ⟨k - x.header.read - 1, mem_range.2 ?_, ?_⟩
      · have hle : k ≤ x.header.write := hle
        omega
      · omega
    obtain ⟨e, he, heq⟩ := mem_map.1 hmem
    exact ⟨x.events, mem_append_right _ mem_cons_self, e, he, heq⟩

theorem good_attempts (n : ℕ) (last : Option String) (hs : Current seen c s) :
    (role processId creation true).Good (Snapped seen) (c.attempts n last) s := by
  induction n generalizing last s with
  | zero => exact .ret Snapped.stable hs
  | succ n ih =>
    have hlength : ∀ (x : Cell) (value : UInt64), (role processId creation true).Stable fun s =>
        x = Cell.write → value.toNat ≤ (published s.log).length := by
      refine fun x value => Consumer.stable fun s s' hmoves hle hx => (hle hx).trans ?_
      obtain ⟨more, hmore⟩ := hmoves.published_eq_append
      rw [hmore, length_append]
      exact Nat.le_add_right _ _
    refine .bind (good_readAll (V := fun x value s =>
      x = Cell.write → value.toNat ≤ (published s.log).length) Current.stable hs hlength ?_)
      fun first s _ hfirst => ?_
    · rintro s hinv - _ rfl
      exact hinv.write.le
    -- from here on the events that the first reading may speak of stay as they are
    have hgrows : ∀ contents, (role processId creation true).Stable fun s =>
        Current seen c s ∧ ∃ more, published s.log = contents ++ more := by
      refine fun contents => Consumer.stable fun s s' hmoves hs => ⟨hs.1.of_moves hmoves, ?_⟩
      obtain ⟨more, hmore⟩ := hs.2
      obtain ⟨more', hmore'⟩ := hmoves.published_eq_append
      exact ⟨more ++ more', by rw [hmore', hmore, append_assoc]⟩
    have hwrite := hfirst.2 .write rfl
    generalize hcontents : published s.log = contents at hwrite
    refine .bind (good_readAll (V := fun x value _ =>
      Reads processId creation c.acknowledged contents x value) (hgrows contents)
      ⟨hfirst.1, [], hcontents ▸ (append_nil _).symm⟩ (fun _ _ _ _ _ _ => id) ?_)
      fun second s _ hsecond => ?_
    · rintro s hinv ⟨hs, more, hmore⟩ x
      refine ⟨fun k content hk hcontent field hx => ?_, ?_, ?_, ?_⟩
      · subst hx
        refine hinv.slots k content (hs.acknowledged ▸ hk) ?_ field
        rw [hmore, List.getElem?_append_left (List.getElem?_eq_some_iff.1 hcontent).1]
        exact hcontent
      · rintro rfl
        exact hinv.owner
      · rintro rfl
        exact hinv.lifetime
      · rintro rfl
        exact hinv.read.trans hs.acknowledged.symm
    obtain ⟨⟨hs, hmore⟩, hsecond⟩ := hsecond
    cases hx : parse c.processId c.creation first with
    | error text => exact ih (some text) hs
    | ok x =>
      cases hy : parse c.processId c.creation second with
      | error text => exact ih (some text) hs
      | ok y =>
        by_cases hsame : x.same y = true
        · by_cases hread : x.header.read = c.acknowledged
          · show (role processId creation true).Good (Snapped seen)
              (if ¬ x.same y then c.attempts n last else if x.header.read ≠ c.acknowledged then _
                else _) s
            rw [if_neg (not_not.2 hsame), if_neg (not_not.2 hread)]
            have hfaithful := faithful_of_same hs.acknowledged hx hy hwrite hsecond hmore hsame
            have hle : x.header.write ≤ (published s.log).length := by
              obtain ⟨more, hmore⟩ := hmore
              obtain ⟨-, -, hxwrite, -⟩ := parseHeader_ok (parse_ok hx).header
              rw [hxwrite, hmore, length_append]
              omega
            have hall : (role processId creation true).Stable fun s => Current seen c s ∧
                Faithful processId creation s.log x.events ∧
                  x.header.write ≤ (published s.log).length := by
              refine Consumer.stable fun s s' hmoves hs =>
                ⟨hs.1.of_moves hmoves, hs.2.1.of_moves hmoves, hs.2.2.trans ?_⟩
              obtain ⟨more, hmore⟩ := hmoves.published_eq_append
              rw [hmore, length_append]
              exact Nat.le_add_right _ _
            refine .bind (good_note (R := fun _ => Current True
              { c with observed := x.header.write }) rfl hall ⟨hs, hfaithful, hle⟩ ?_
              fun _ => Current.stable) fun _ s _ hs => .ret Snapped.stable ⟨rfl, hs⟩
            exact fun s hinv hs => ⟨hinv.note rfl rfl rfl hs.2.1,
              hs.1.returned hread hs.2.2 (parse_ok hx).sequences⟩
          · show (role processId creation true).Good (Snapped seen)
              (if ¬ x.same y then c.attempts n last else if x.header.read ≠ c.acknowledged then _
                else _) s
            rw [if_neg (not_not.2 hsame), if_pos hread]
            exact .ret Snapped.stable hs
        · show (role processId creation true).Good (Snapped seen)
            (if ¬ x.same y then c.attempts n last else _) s
          rw [if_pos hsame]
          exact ih last hs

/-- What is known of a consumer whatever its lease, and whatever the fields of the lease. -/
structure Lasting (processId creation : UInt64) (K : Consumer → Storage → Prop) : Prop where
  stable : ∀ c, (role processId creation true).Stable (K c)
  memory : ∀ c s memory, K c s → K c ⟨memory, s.log⟩
  claimed : ∀ c s claimed, K c s → K { c with claimed } s

theorem Current.lasting (seen : Prop) : Lasting processId creation (Current seen) where
  stable _ := Current.stable
  memory _ _ _ h := ⟨h.acknowledged, h.observed, h.handed⟩
  claimed _ _ _ h := ⟨h.acknowledged, h.observed, h.handed⟩

theorem Lasting.trivial : Lasting processId creation fun _ _ => True :=
  ⟨fun _ _ _ _ _ => id, fun _ _ _ => id, fun _ _ _ => id⟩

variable {K : Consumer → Storage → Prop}

/-- A write to a field of the lease. -/
theorem good_storeLease (hK : Lasting processId creation K) {x : Cell}
    (hx : x = .heartbeat ∨ x = .consumerProcess) (value : UInt64) (hs : K c s) :
    (role processId creation true).Good (fun _ => K c) (store x value) s := by
  refine good_store ?_ (hK.stable c) hs (fun s hinv hs => ⟨?_, hK.memory c s _ hs⟩)
    fun _ => hK.stable c
  · rcases hx with rfl | rfl <;> rfl
  · refine hinv.update value ?_ fun k _ _ field => ?_
    · rcases hx with rfl | rfl <;> decide
    · rcases hx with rfl | rfl <;> nofun

theorem good_loadOf (hK : Lasting processId creation K) (x : Cell) (hs : K c s) :
    (role processId creation true).Good (fun _ => K c) (load x) s :=
  good_load (hK.stable c) hs (fun _ _ => id) fun _ => hK.stable c

theorem good_renew (hK : Lasting processId creation K) (hs : K c s) :
    (role processId creation true).Good (fun result => K result.1) c.renew s := by
  rw [renew]
  by_cases hclaimed : c.claimed = true
  · rw [if_neg (not_not.2 hclaimed)]
    refine .bind (good_loadOf hK _ hs) fun owner s _ hs => ?_
    by_cases howner : owner = c.own
    · rw [if_neg (not_not.2 howner)]
      refine .bind (.anything (hK.stable c) hs) fun tick s _ hs => ?_
      exact .bind (good_storeLease hK (.inl rfl) tick hs) fun _ s _ hs =>
        .ret (hK.stable c) hs
    · rw [if_pos howner]
      exact .ret (hK.stable _) (hK.claimed c s false hs)
  · rw [if_pos hclaimed]
    exact .ret (hK.stable c) hs

/-- Between two methods: a consumer that is not closed knows how far it is. -/
def Tracks (c : Consumer) (s : Storage) : Prop := c.closed = true ∨ Current True c s

theorem Tracks.stable : (role processId creation true).Stable (Tracks c) :=
  Consumer.stable fun _ _ hmoves hs => hs.imp id fun h => h.of_moves hmoves

theorem good_close : (role processId creation true).Good Tracks c.close s := by
  have hlease : Lasting processId creation fun _ _ => True := Lasting.trivial
  rw [close]
  by_cases hclosed : c.closed = true
  · rw [if_pos hclosed]
    exact .ret .stable (.inl hclosed)
  · rw [if_neg hclosed]
    by_cases hclaimed : c.claimed = true
    · rw [if_pos hclaimed]
      refine .bind (good_loadOf (c := c) hlease _ True.intro) fun owner s _ _ => ?_
      by_cases howner : owner = c.own
      · rw [if_pos howner]
        refine .bind (good_storeLease (c := c) hlease (.inl rfl) 0 True.intro)
          fun _ s _ _ => ?_
        exact .bind (good_storeLease (c := c) hlease (.inr rfl) 0 True.intro)
          fun _ s _ _ => .ret .stable (.inl rfl)
      · rw [if_neg howner]
        exact .ret .stable (.inl rfl)
    · rw [if_neg hclaimed]
      exact .ret .stable (.inl rfl)

theorem good_snapshot (hs : Current seen c s) :
    (role processId creation true).Good (Snapped seen) c.snapshot s := by
  rw [snapshot]
  by_cases hclosed : c.closed = true
  · rw [if_pos hclosed]
    exact .ret Snapped.stable hs
  · rw [if_neg hclosed]
    refine .bind (good_renew (Current.lasting seen) hs) fun result s _ hs => ?_
    obtain ⟨c', held⟩ := result
    cases held with
    | false => exact .ret Snapped.stable hs
    | true => exact good_attempts 3 none hs

/-- The next event is acknowledged. -/
theorem Current.acknowledge (hinv : Inv processId creation s) (hs : Current True c s)
    {event : Event} (hsequence : event.sequence = c.acknowledged + 1)
    (hobserved : event.sequence ≤ c.observed) :
    Inv processId creation ⟨Function.update s.memory .read (UInt64.ofNat event.sequence),
        s.log ++ [.acknowledged event]⟩ ∧
      Current True { c with acknowledged := event.sequence }
        ⟨Function.update s.memory .read (UInt64.ofNat event.sequence),
          s.log ++ [.acknowledged event]⟩ := by
  have hp : published (s.log ++ [.acknowledged event]) = published s.log := by
    rw [published_append, published_singleton]
    exact append_nil _
  have ha : (Channel.acknowledged (s.log ++ [.acknowledged event])).length =
      (Channel.acknowledged s.log).length + 1 := by
    rw [acknowledged_append, acknowledged_singleton, length_append]
    rfl
  have hread := hs.acknowledged
  have hle := hs.observed
  have hbounded := hinv.bounded
  have hahead := hinv.ahead
  have hhanded := hs.handed True.intro event.sequence (by omega) hobserved
  constructor
  · refine ⟨hinv.owner, hinv.lifetime, ?_, ?_, ?_, ?_, ?_, ?_, ?_, hinv.allowed.append ?_⟩
    · rw [hp]
      exact hinv.write
    · show (Function.update s.memory .read (UInt64.ofNat event.sequence) .read).toNat = _
      rw [Function.update_self, ha, UInt64.toNat_ofNat_of_lt' (by simp only [UInt64.size]; omega)]
      omega
    · rw [countP_append]
      exact hinv.dropped
    · rw [hp]
      exact hbounded
    · rw [hp, ha]
      omega
    · rw [hp, ha]
      omega
    · rw [hp, ha]
      exact fun k content hk hcontent => hinv.slots k content (by omega) hcontent
    · exact ⟨by omega, by omega, hhanded⟩
  · refine ⟨?_, ?_, fun _ k hk hk' => ?_⟩
    · rw [ha, ← hread]
      exact hsequence
    · rw [hp]
      exact hle
    · rw [ha] at hk
      exact (hs.handed True.intro k (by omega) hk').append _

theorem good_acknowledge (event : Event) (hs : Tracks c s) :
    (role processId creation true).Good (fun result => Tracks result.1) (c.acknowledge event)
      s := by
  rw [acknowledge]
  by_cases hclosed : c.closed = true
  · rw [if_pos hclosed]
    exact .ret .stable hs
  rw [if_neg hclosed]
  have hs := hs.resolve_left hclosed
  by_cases hother : ¬ (event.processId = c.processId ∧ event.creation = c.creation)
  · rw [if_pos hother]
    exact .ret .stable (.inr hs)
  rw [if_neg hother]
  by_cases hsequence : event.sequence = c.acknowledged + 1
  swap
  · rw [if_pos hsequence]
    exact .ret .stable (.inr hs)
  rw [if_neg (not_not.2 hsequence)]
  by_cases hobserved : c.observed < event.sequence
  · rw [if_pos hobserved]
    exact .ret .stable (.inr hs)
  rw [if_neg hobserved]
  refine .bind (good_loadOf (Current.lasting True) _ hs) fun read s _ hs => ?_
  by_cases hread : read.toNat = c.acknowledged
  swap
  · rw [if_pos hread]
    exact .ret .stable (.inr hs)
  rw [if_neg (not_not.2 hread)]
  refine .bind (good_storeWith (R := fun _ => Current True
    { c with acknowledged := event.sequence }) rfl rfl Current.stable hs
    (fun s hinv hs => hs.acknowledge hinv hsequence (Nat.le_of_not_lt hobserved))
    fun _ => Current.stable) fun _ s _ hs => .ret .stable (.inr hs)

theorem good_wait (hs : Tracks c s) :
    (role processId creation true).Good (fun result => Tracks result.1) c.wait s := by
  rw [wait]
  by_cases hclosed : c.closed = true
  · rw [if_pos hclosed]
    exact .ret .stable hs
  rw [if_neg hclosed]
  refine .bind (good_renew (Current.lasting True) (hs.resolve_left hclosed))
    fun result s _ hs => ?_
  obtain ⟨c', held⟩ := result
  cases held with
  | false => exact .ret .stable (.inr hs)
  | true =>
    exact .bind (good_renew (Current.lasting True) hs) fun result s _ hs =>
      .ret .stable (.inr hs)

theorem good_start : (role processId creation true).Good Tracks c.start s := by
  have hlease : Lasting processId creation fun _ _ => True := Lasting.trivial
  rw [start]
  refine .bind (good_storeLease (c := c) hlease (.inr rfl) c.own True.intro)
    fun _ s _ _ => ?_
  refine .bind (good_renew hlease True.intro) fun result s _ _ => ?_
  obtain ⟨c', held⟩ := result
  cases held with
  | false => exact good_close
  | true =>
    have hseen : ∀ (x : Cell) (value : UInt64), (role processId creation true).Stable fun s =>
        (x = .read → value.toNat = (Channel.acknowledged s.log).length) ∧
          (x = .write → value.toNat ≤ (published s.log).length) := by
      refine fun x value => Consumer.stable fun s s' hmoves hs => ⟨fun hx => ?_, fun hx => ?_⟩
      · rw [hmoves.acknowledged_eq]
        exact hs.1 hx
      · obtain ⟨more, hmore⟩ := hmoves.published_eq_append
        rw [hmore, length_append]
        exact Nat.le_add_right_of_le (hs.2 hx)
    refine .bind (good_readAll (V := fun x value s =>
      (x = Cell.read → value.toNat = (Channel.acknowledged s.log).length) ∧
        (x = .write → value.toNat ≤ (published s.log).length)) (hlease.stable c') True.intro hseen ?_)
      fun source s _ hsource => ?_
    · intro s hinv _ x
      constructor
      · rintro rfl
        exact hinv.read
      · rintro rfl
        exact hinv.write.le
    cases hparse : parse c'.processId c'.creation source with
    | error text => exact good_close
    | ok first =>
      obtain ⟨-, -, hwrite, hread, -⟩ := parseHeader_ok (parse_ok hparse).header
      have hs : Current False { c' with
          acknowledged := first.header.read, observed := first.header.write } s :=
        ⟨hread.trans ((hsource.2 .read).1 rfl), hwrite.trans_le ((hsource.2 .write).2 rfl),
          False.elim⟩
      refine .bind (good_snapshot hs) fun result s _ hs => ?_
      obtain ⟨c'', result⟩ := result
      cases result with
      | error text => exact good_close
      | ok x =>
        have heq : { c'' with observed := x.header.write } = c'' := by
          rw [← hs.1]
        show (role processId creation true).Good Tracks (pure { c'' with observed := x.header.write }) s
        rw [heq]
        exact .ret .stable (.inr hs.2)

/-- Whatever the producer does, a method of the consumer keeps the queue. -/
theorem good_method (method : Method) (hs : Tracks c s) :
    (role processId creation true).Good Tracks (c.method method) s := by
  cases method with
  | snapshot =>
    by_cases hclosed : c.closed = true
    · show (role processId creation true).Good Tracks (c.snapshot >>= fun result => pure result.1) s
      rw [snapshot, if_pos hclosed]
      exact .ret .stable hs
    · refine .bind (good_snapshot (hs.resolve_left hclosed)) fun result s _ hs => ?_
      obtain ⟨c', result⟩ := result
      cases result with
      | error text => exact .ret .stable (.inr hs)
      | ok x => exact .ret .stable (.inr hs.2)
  | acknowledge event =>
    exact .bind (good_acknowledge event hs) fun _ _ _ hs => .ret .stable hs
  | wait => exact .bind (good_wait hs) fun _ _ _ hs => .ret .stable hs
  | close => exact good_close

end

end Consumer

/-! ## The system -/

/-- The queue is kept, by both sides. -/
structure System.Inv (processId creation : UInt64) (system : System) : Prop where
  storage : Channel.Inv processId creation system.storage
  producer : ∀ code, system.producer = some code →
    (role processId creation false).Good (fun _ _ => True) code system.storage
  idle : ∀ c, system.consumer = some (.idle c) → Consumer.Tracks c system.storage
  busy : ∀ code, system.consumer = some (.busy code) →
    (role processId creation true).Good Consumer.Tracks code system.storage

section

variable {processId creation : UInt64} {system system' : System}

/-- One step keeps the queue, whoever takes it. -/
theorem System.Inv.step (h : system.Inv processId creation)
    (hstep : System.Step system system') : system'.Inv processId creation := by
  cases hstep with
  | publish content requireActiveConsumer =>
    refine ⟨h.storage, ?_, h.idle, h.busy⟩
    rintro _ ⟨⟩
    exact Producer.good_tryPublish content requireActiveConsumer _
  | produce hstep =>
    obtain ⟨hinv, hmoves, hcode⟩ := (h.producer _ rfl).step h.storage hstep
    have hmoves := hmoves.elim (fun heq => heq ▸ Moves.refl _ _) id
    refine ⟨hinv, ?_, fun c hc => ?_, fun code hcode => (h.busy code hcode).stable hmoves⟩
    · rintro _ ⟨⟩
      exact hcode
    · exact (h.idle c hc).imp id fun hs => hs.of_moves hmoves
  | published result => exact ⟨h.storage, nofun, h.idle, h.busy⟩
  | start processId creation own =>
    refine ⟨h.storage, h.producer, nofun, ?_⟩
    rintro _ ⟨⟩
    exact Consumer.good_start
  | call c method =>
    refine ⟨h.storage, h.producer, nofun, ?_⟩
    rintro _ ⟨⟩
    exact Consumer.good_method method (h.idle c rfl)
  | consume hstep =>
    obtain ⟨hinv, hmoves, hcode⟩ := (h.busy _ rfl).step h.storage hstep
    have hmoves := hmoves.elim (fun heq => heq ▸ Moves.refl _ _) id
    refine ⟨hinv, fun code hcode => (h.producer code hcode).stable hmoves, nofun, ?_⟩
    rintro _ ⟨⟩
    exact hcode
  | returned c =>
    have htracks := h.busy _ rfl _ (Moves.refl _ _) h.storage
    by_cases hclosed : c.closed = true
    · rw [if_pos hclosed]
      exact ⟨h.storage, h.producer, nofun, nofun⟩
    · rw [if_neg hclosed]
      refine ⟨h.storage, h.producer, ?_, nofun⟩
      rintro _ ⟨⟩
      exact htracks
  | lost => exact ⟨h.storage, h.producer, nofun, nofun⟩

theorem System.Inv.initial (processId capabilities creation : UInt64) :
    (initial processId capabilities creation).Inv processId creation := by
  refine ⟨⟨rfl, rfl, rfl, rfl, rfl, Nat.zero_le _, le_refl _, Nat.zero_le _, ?_, .nil⟩,
    nofun, nofun, nofun⟩
  intro k content _ hcontent
  cases hcontent

theorem System.Inv.run {capabilities : UInt64}
    (h : Relation.ReflTransGen System.Step (Channel.initial processId capabilities creation)
      system) : system.Inv processId creation := by
  induction h with
  | refl => exact System.Inv.initial processId capabilities creation
  | tail _ hstep ih => exact ih.step hstep

/-- The numbers of the acknowledged events. -/
theorem acknowledged_sequences (h : Foreseen (Allowed processId creation) log) :
    (acknowledged log).map Event.sequence = (List.range (acknowledged log).length).map (· + 1) := by
  induction log using List.reverseRecOn with
  | nil => rfl
  | append_singleton log e ih =>
    obtain ⟨hlog, he⟩ := h.of_append
    have ih := ih hlog
    rw [acknowledged_append, acknowledged_singleton]
    cases e with
    | acknowledged event =>
      rw [map_append, ih, length_append]
      show _ ++ [event.sequence] = List.map _ (List.range (_ + 1))
      rw [range_succ, map_append, he.1]
      rfl
    | checked | published | dropped | invalid | unattended | returned =>
      simpa [Entry.acknowledged?] using ih

/-- Every entry was allowed when it came. -/
theorem allowed_of_mem (h : Foreseen (Allowed processId creation) log) {e : Entry} (he : e ∈ log) :
    ∃ before after, log = before ++ e :: after ∧ Allowed processId creation before e := by
  obtain ⟨before, after, heq⟩ := append_of_mem he
  exact ⟨before, after, heq, h before e after heq⟩

end

/-- What the channel promises of its log and its counter. -/
structure Lossless (processId creation : UInt64) (s : Storage) : Prop where
  sequences : (acknowledged s.log).map Event.sequence =
    (List.range (acknowledged s.log).length).map (· + 1)
  handed : ∀ event ∈ acknowledged s.log, Handed s.log event.sequence
  contents : ∀ events, Entry.returned events ∈ s.log → ∀ e ∈ events,
    ∃ content, (published s.log)[e.sequence - 1]? = some content ∧
      e.same (content.event processId creation e.sequence) = true
  behind : (acknowledged s.log).length ≤ (published s.log).length
  ahead : (published s.log).length ≤ (acknowledged s.log).length + capacity
  counted : s.memory .dropped = UInt64.ofNat (s.log.countP Entry.isDropped)
  allowed : Foreseen (Allowed processId creation) s.log

/-- In every run, whatever the order of the accesses and however often the consumer is lost:
the acknowledged events are `1, 2, 3, …`, each returned before as it was published, at most 64 are
pending, and only what found 64 pending, or no number left, is dropped and counted. -/
theorem channel_lossless (processId capabilities creation : UInt64) (system : System)
    (h : Relation.ReflTransGen System.Step (initial processId capabilities creation) system) :
    Lossless processId creation system.storage := by
  have hinv := (System.Inv.run h).storage
  refine ⟨acknowledged_sequences hinv.allowed, ?_, ?_, hinv.behind, hinv.ahead, hinv.dropped,
    hinv.allowed⟩
  · intro event hevent
    obtain ⟨e, he, heq⟩ := mem_filterMap.1 hevent
    obtain ⟨before, after, hlog, hallowed⟩ := allowed_of_mem hinv.allowed he
    cases e with
    | acknowledged event' =>
      cases heq
      rw [hlog]
      exact hallowed.2.2.append _
    | checked | published | dropped | invalid | unattended | returned => cases heq
  · intro events hevents e he
    obtain ⟨before, after, hlog, hallowed⟩ := allowed_of_mem hinv.allowed hevents
    obtain ⟨content, hcontent, hsame⟩ := Faithful.content hallowed e he
    refine ⟨content, ?_, hsame⟩
    rw [hlog, published_append,
      List.getElem?_append_left (List.getElem?_eq_some_iff.1 hcontent).1]
    exact hcontent

/-- A left click at the origin. -/
def click : Content := ⟨1, 1, 1, 0, 0, 0, 0, 0, 0, 0⟩

/-- A call without a consumer, up to its answer. -/
theorem unattended_run : ∃ memory, memory .dropped = 0 ∧
    Relation.ReflTransGen System.Step (initial 1 0 1)
      ⟨⟨memory, [.unattended click ⟨0, 0, 0⟩]⟩, none, none⟩ := by
  refine ⟨initialMemory 1 0 1, rfl, ?_⟩
  refine .head (.publish click true) ?_
  refine .head (.produce .act) ?_
  refine .head (.produce .act) ?_
  refine .head (.produce (.ask 0)) ?_
  refine .head (.produce .act) ?_
  exact .single (.published false)

/-- A valid event is discarded with nothing pending, and the counter stays at zero. -/
theorem channel_discards_unattended : ∃ system : System, click.valid = true ∧
    Relation.ReflTransGen System.Step (initial 1 0 1) system ∧
      Entry.unattended click ⟨0, 0, 0⟩ ∈ system.storage.log ∧
        published system.storage.log = [] ∧ pending system.storage.log = 0 ∧
          system.storage.memory .dropped = 0 := by
  obtain ⟨memory, hdropped, hrun⟩ := unattended_run
  exact ⟨_, by decide, hrun, mem_cons_self, rfl, rfl, hdropped⟩

end ShadowbaneLab.Channel
