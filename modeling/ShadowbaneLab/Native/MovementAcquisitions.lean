/-
# Acquisitions at most once

The journal of `Runtime::Commands` over whole runs: which acquisitions it holds, and which it will
not perform again.
-/
import ShadowbaneLab.Native.MovementRuntime

namespace ShadowbaneLab.Native.Movement

open Foundation
open MovementWire (Verb)

variable {σ α : Type} {services : Services σ} {phase : Bool} {command : QueuedCommand}

/-! ## Generations -/

/-- A decoded grant has the generation that stands in the bytes. -/
theorem generation_of_decodeGrant {data : Bytes} {grant : Grant}
    (h : Wire.decodeGrant data = some grant) :
    grant.generation.toNat = ofLittleEndian (data.take 8) := by
  rw [Wire.decodeGrant, Option.bind_eq_bind, Option.bind_eq_some_iff] at h
  obtain ⟨⟨generation, scene, owner, reserved, worker, operation⟩, hunpack, h⟩ := h
  have hread : (Format.int 8).unpack (data.take 8) = some generation := by
    obtain ⟨first, hfirst, hrest⟩ := Option.bind_eq_some_iff.1 hunpack
    obtain ⟨rest, -, heq⟩ := Option.map_eq_some_iff.1 hrest
    rw [← (Prod.mk.inj heq).1]
    exact hfirst
  have hgeneration : (data.take 8).length = 8 ∧ (ofLittleEndian (data.take 8) : Int) = generation := by
    change (if (data.take 8).length = 8 then some (ofLittleEndian (data.take 8) : Int) else none) =
      some generation at hread
    rw [Option.ite_none_right_eq_some, Option.some.injEq] at hread
    exact hread
  have hbound := ofLittleEndian_lt (data.take 8)
  rw [hgeneration.1] at hbound
  have hgrant : grant.generation = .ofNat generation.toNat := by
    dsimp only at h
    split at h
    · cases h
    · obtain ⟨token, -, h⟩ := Option.bind_eq_some_iff.1 h
      split at h
      · cases h
      split at h
      · cases h
      · exact (Option.some.inj h) ▸ rfl
  rw [hgrant, ← hgeneration.2, Int.toNat_natCast, UInt64.toNat_ofNat']
  exact Nat.mod_eq_of_lt hbound

/-! ## What a command leaves of the books -/

/-- The books are as they were. -/
abbrev Untouched (books : Books) (r : Runtime σ) : Prop := r.books = books

theorem call_keeps {books : Books} {f : σ → α × σ} : Keeps (Untouched books) (call f) :=
  .modifyGet fun _ h => h

variable {books : Books}

/-- A change of other fields before a result. -/
theorem modify_pure_keeps {f : Runtime σ → Runtime σ} (h : ∀ r, (f r).books = r.books) (a : α) :
    Keeps (Untouched books) (do modify f; pure a : Handling σ α) :=
  .bind (.modify fun r hr => (h r).trans hr) fun _ => .pure a

theorem continueParent_keeps :
    Keeps (Untouched books) (continueParent services phase command) := by
  refine .get_bind fun r => ?_
  split
  · exact .ite (.throw _) (.pure _)
  refine .ite ?_ (.pure _)
  refine .bind (.modify fun _ h => h) fun _ => call_keeps.bind fun result => ?_
  refine .get_bind fun r => .ite ?_ (.pure _)
  -- the destination is sent again, unless something changed or there is none
  refine .ite (modify_pure_keeps (fun r => by split <;> rfl) _) ?_
  split
  · exact .ite (modify_pure_keeps (fun r => by split <;> rfl) _)
      (call_keeps.bind fun _ => modify_pure_keeps (fun r => by split <;> rfl) _)
  · exact modify_pure_keeps (fun r => by split <;> rfl) _

theorem cancelCoordinate_keeps : Keeps (Untouched books) (cancelCoordinate services command) := by
  refine .bind (.modify fun _ h => h) fun _ => .get_bind fun r => ?_
  exact .ite call_keeps call_keeps

variable {expected : Grant}

theorem operate_keeps : Keeps (Untouched books) (operate services command expected) := by
  refine .get_bind fun r => ?_
  cases command.verb with
  | stop | pause =>
    refine .ite (.bind (.modify fun _ h => h) fun _ => ?_) (.pure _)
    exact .ite call_keeps call_keeps
  | configure =>
    refine .ite (.pure _) ?_
    split
    · exact .pure _
    refine .ite (.pure _) (call_keeps.bind fun _ => .ite ?_ (.pure _))
    refine call_keeps.bind fun _ => .ite ?_ ?_
    · exact .bind (.modify fun _ h => h) fun _ => .pure _
    · exact .bind (.modify fun _ h => h) fun _ => .pure _
  | destination =>
    refine .ite (.ite (.pure _) (call_keeps.bind fun _ => ?_)) (.pure _)
    exact modify_pure_keeps (fun r => by split <;> rfl) _
  | acquire | acquireCoordinate | continueParent => exact .pure _

/-- A call of `AcquireAutomation` is logged, and nothing else of the books changes. -/
def Called (command : QueuedCommand) (books books' : Books) : Prop :=
  books' = books ∨ books' = { books with calls := books.calls ++ [command.command] }

theorem acquireAutomation_spec {fails : Receipt → Runtime σ → Prop} :
    Ensures (Untouched books) (acquireAutomation services command expected)
      (fun _ r => Called command books r.books) fails := by
  refine .get_keep fun r _ => .mono_pre ?_ fun _ h => h.1
  refine .ite (fun _ => .pure fun _ h => .inl h) fun _ => ?_
  split
  · exact .pure fun _ h => .inl h
  · let called : Books := { books with calls := books.calls ++ [command.command] }
    refine .bind_via (fun _ => Untouched called) (.modify fun r h => ?_) fun _ => ?_
    · show ({ r.books with calls := r.books.calls ++ [command.command] } : Books) = called
      rw [h]
    refine .bind_via (fun _ => Untouched called) (.modifyGet fun r h => h)
      fun answer => ?_
    refine .bind_via (fun _ => Untouched called) (.modify fun r h => ?_) fun _ =>
      .pure fun _ h => .inr h
    split <;> exact h

/-! ## What an acquisition is answered -/

/-- The generation of a command's bytes is retired. -/
abbrev Books.Retired (books : Books) (payload : Bytes) : Prop :=
  generationOf payload ≤ books.journal.retired

/-- An acquisition is journaled: room was made for it, and it was not retired by that. -/
structure Journaled (command : QueuedCommand) (before : Books) (acquisition : Acquisition)
    (after : Books) : Prop where
  verb : acquisition.verb = command.verb
  request : acquisition.request = command.command
  vacant : before.journal.acquisitions.get? (requestOf command.command) = none
  live : before.journal.retire.retired < generationOf command.command
  lookup : ∀ key, after.journal.acquisitions.get? key =
    if requestOf command.command = key then some acquisition
    else before.journal.retire.acquisitions.get? key
  retired : after.journal.retired = before.journal.retire.retired
  log : after.log = before.log ++ [acquisition]
  calls : after.calls = before.calls ∨ after.calls = before.calls ++ [command.command]

/-- How an acquisition can be answered, and what it leaves of the books. -/
inductive Outcome (command : QueuedCommand) (before : Books) : Receipt → Books → Prop
  | replayed (prior : Acquisition)
      (retained : before.journal.acquisitions.get? (requestOf command.command) = some prior)
      (verb : prior.verb = command.verb) (request : prior.request = command.command) :
      Outcome command before prior.receipt before
  | conflicting (prior : Acquisition) (receipt : Receipt)
      (retained : before.journal.acquisitions.get? (requestOf command.command) = some prior)
      (other : ¬ (prior.verb = command.verb ∧ prior.request = command.command))
      (invalid : receipt.outcome = .invalid) : Outcome command before receipt before
  | stale (receipt : Receipt)
      (vacant : before.journal.acquisitions.get? (requestOf command.command) = none)
      (stale : receipt.outcome = .stale) : Outcome command before receipt before
  | retired (receipt : Receipt)
      (vacant : before.journal.acquisitions.get? (requestOf command.command) = none)
      (live : ¬ before.Retired command.command) :
      Outcome command before receipt { before with journal := before.journal.retire }
  | journaled (receipt : Receipt) (after : Books)
      (journaled : Journaled command before ⟨command.verb, command.command, receipt⟩ after) :
      Outcome command before receipt after

variable {r₀ : Runtime σ}

theorem acquire_spec (hexpected : Wire.decodeGrant (expectedOf command.command) = some expected) :
    Ensures (fun r => r = r₀) (acquire services command expected)
      (fun result r => Outcome command r₀.books (r.receipt services command result) r.books)
      fun receipt r => Outcome command r₀.books receipt r.books := by
  have hgeneration : expected.generation.toNat = generationOf command.command :=
    generation_of_decodeGrant hexpected
  refine .get_bind ?_
  rintro r rfl
  split
  case h_1 prior hprior =>
    refine .ite (fun hsame => .throw fun r' hr' => ?_) fun hother =>
      .pure fun r' hr' => ?_
    · rw [hr']
      exact .replayed prior hprior hsame.1 hsame.2
    · rw [hr']
      exact .conflicting prior _ hprior hother rfl
  case h_2 hvacant =>
    refine .ite (fun hlive => ?_) fun _ => .pure fun r' hr' => ?_
    swap
    · rw [hr']
      exact .stale _ hvacant rfl
    have hlive : ¬ r.books.Retired command.command := not_le.2 (hgeneration ▸ hlive.2)
    refine .bind_via (fun _ r' => r' = r.retired) (.modify fun r' hr' => ?_)
      fun _ => .get_bind ?_
    · exact congrArg Runtime.retired hr'
    rintro _ rfl
    refine .ite (fun _ => .throw fun r' hr' => ?_) fun hroom => ?_
    · rw [hr']
      exact .retired _ hvacant hlive
    refine .ite (fun _ => .pure fun r' hr' => ?_) fun _ => ?_
    · rw [hr']
      exact .retired _ hvacant hlive
    rw [not_le, hgeneration] at hroom
    let announced := r.retired.announced services command
    refine .bind_via (fun _ r' => Untouched announced.books r')
      (.modify fun r' hr' => congrArg (fun r => (r.announced services command).books) hr')
      fun _ => ?_
    refine .bind acquireAutomation_spec fun result => ?_
    refine .bind_via (fun _ r' => Outcome command r.books
      (r'.receipt services command result) r'.books) (.modify fun r' hcalled => ?_)
      fun _ => .pure fun _ h => h
    have hjournal : r'.books.journal = announced.books.journal := by
      rcases hcalled with h | h <;> rw [h]
    have hlog : r'.books.log = r.books.log := by
      rcases hcalled with h | h <;> rw [h] <;> rfl
    have hcalls : r'.books.calls = r.books.calls ∨
        r'.books.calls = r.books.calls ++ [command.command] :=
      hcalled.imp (fun h => by rw [h]; rfl) fun h => by rw [h]; rfl
    refine .journaled _ _ ⟨rfl, rfl, hvacant, hroom, fun key => ?_, ?_, ?_, hcalls⟩
    · show (r'.books.journal.acquisitions.set _ _).get? key = _
      rw [Dict.get?_set, hjournal]
      refine ite_congr rfl (fun _ => rfl) fun hne => ?_
      exact Dict.get?_set_ne _ _ hne
    · show r'.books.journal.retired = r.books.journal.retire.retired
      rw [hjournal]
      rfl
    · exact congrArg (· ++ [r'.acquisition services command result]) hlog

/-- A command asks for an acquisition, its producer is there, and what it expects is of the window
and scene that there are. -/
structure Runtime.Admits (services : Services σ) (phase : Bool) (command : QueuedCommand)
    (r : Runtime σ) : Prop where
  acquires : command.verb.acquires = true
  live : r.live services command = true
  exact : (r.exact services phase command).isSome = true

theorem Keeps.untouched {program : Handling σ Result} (h : Keeps (Untouched r₀.books) program) :
    Ensures (fun r => r = r₀) program
      (fun _ r => r.books = r₀.books) fun _ r => r.books = r₀.books :=
  .mono_pre h fun _ hr => congrArg Runtime.books hr

/-- An acquisition that is admitted is looked up in the journal. -/
theorem handle_admitted (h : r₀.Admits services phase command) :
    Ensures (fun r => r = r₀) (handle services phase command)
      (fun result r => Outcome command r₀.books (r.receipt services command result) r.books)
      fun receipt r => Outcome command r₀.books receipt r.books := by
  refine .get_bind ?_
  rintro r rfl
  have hacquires := h.acquires
  rw [if_neg, if_neg]
  · obtain ⟨expected, hexact⟩ := Option.isSome_iff_exists.1 h.exact
    have hfilter : (r.exact services phase command).filter
        (fun _ => r.live services command) = some expected := by
      rw [hexact, Option.filter_some, if_pos h.live]
    rw [hfilter]
    dsimp only
    rw [if_pos hacquires]
    exact acquire_spec (Option.filter_eq_some_iff.1 hexact).1
  · rintro ⟨-, hverb⟩
    revert hacquires hverb
    cases command.verb <;> decide
  · rintro ⟨-, hverb⟩
    rw [hverb] at hacquires
    cases hacquires

/-- Every other command leaves the books alone, and an acquisition is stale then. -/
theorem handle_refused (h : ¬ r₀.Admits services phase command) :
    Ensures (fun r => r = r₀) (handle services phase command)
      (fun result r => r.books = r₀.books ∧ (command.verb.acquires = true → result = .stale))
      fun _ r => r.books = r₀.books ∧ command.verb.acquires ≠ true := by
  have hother {program : Handling σ Result} (hverb : command.verb.acquires ≠ true)
      (hkeeps : Keeps (Untouched r₀.books) program) : Ensures (fun r => r = r₀) program
        (fun result r => r.books = r₀.books ∧ (command.verb.acquires = true → result = .stale))
        fun _ r => r.books = r₀.books ∧ command.verb.acquires ≠ true :=
    (Keeps.untouched hkeeps).weaken (fun _ h => h) (fun _ _ h => ⟨h, fun h => (hverb h).elim⟩)
      fun _ _ h => ⟨h, hverb⟩
  have hstale : Ensures (fun r => r = r₀) (pure .stale : Handling σ Result)
      (fun result r => r.books = r₀.books ∧ (command.verb.acquires = true → result = .stale))
      fun _ r => r.books = r₀.books ∧ command.verb.acquires ≠ true :=
    .pure fun r hr => ⟨congrArg Runtime.books hr, fun _ => rfl⟩
  refine .get_bind ?_
  rintro r rfl
  refine .ite (fun hcontinue => hother ?_ continueParent_keeps) fun _ => ?_
  · rw [hcontinue.2]
    decide
  refine .ite (fun hcancel => hother ?_ cancelCoordinate_keeps) fun _ => ?_
  · have hverb := hcancel.2
    revert hverb
    cases command.verb <;> decide
  split
  case h_1 => exact hstale
  case h_2 expected hfilter =>
    obtain ⟨hexact, hlive⟩ := Option.filter_eq_some_iff.1 hfilter
    refine .ite (fun hacquires => (h ⟨hacquires, hlive, ?_⟩).elim) fun hverb => ?_
    · rw [hexact]
      rfl
    · exact .ite (fun _ => hother hverb operate_keeps) fun _ => hstale

theorem relinquished_books (r : Runtime σ) : (r.relinquished services).books = r.books := by
  unfold Runtime.relinquished
  dsimp only
  split <;> split <;> rfl

variable {r : Runtime σ}

/-- A command that is taken is answered as it is handled. -/
theorem commands_of_handle {post : Receipt → Books → Prop}
    (h : Ensures (fun r' => r' = r.taken services command) (handle services phase command)
      (fun result r' => post (r'.receipt services command result) r'.books)
      fun receipt r' => post receipt r'.books) :
    post (r.commands services phase command).1 (r.commands services phase command).2.books := by
  unfold Runtime.commands
  cases hrun : (handle services phase command).run (r.taken services command) with
  | ok result r' =>
    have hpost : post (r'.receipt services command result) r'.books := h.ok rfl hrun
    exact hpost
  | error receipt r' =>
    have hpost : post receipt r'.books := h.error rfl hrun
    exact hpost

theorem commands_admitted (h : (r.taken services command).Admits services phase command) :
    Outcome command r.books (r.commands services phase command).1
      (r.commands services phase command).2.books := by
  have hbooks : (r.taken services command).books = r.books := relinquished_books r
  rw [← hbooks]
  exact commands_of_handle (handle_admitted h)

theorem commands_refused (h : ¬ (r.taken services command).Admits services phase command) :
    (r.commands services phase command).2.books = r.books ∧ (command.verb.acquires = true →
      (r.commands services phase command).1.outcome = .stale) := by
  have hbooks : (r.taken services command).books = r.books := relinquished_books r
  rw [← hbooks]
  refine @commands_of_handle _ services phase command r (fun receipt books =>
    books = (r.taken services command).books ∧ (command.verb.acquires = true →
      receipt.outcome = .stale)) ?_
  refine (handle_refused h).weaken (fun _ h => h) (fun _ _ h => h) fun _ _ h => ⟨h.1, fun hverb => ?_⟩
  exact (h.2 hverb).elim

/-! ## Retirement -/

theorem mem_foldl_oldest (entries : List (Bytes × Acquisition)) (first : Bytes × Acquisition) :
    entries.foldl (fun oldest entry => if generationOf entry.2.request <
      generationOf oldest.2.request then entry else oldest) first ∈ first :: entries := by
  induction entries generalizing first with
  | nil => exact List.mem_cons_self
  | cons entry entries ih =>
    rw [List.foldl_cons]
    rcases List.mem_cons.1 (ih (if generationOf entry.2.request < generationOf first.2.request
      then entry else first)) with heq | hmem
    · rw [heq]
      split
      · exact List.mem_cons_of_mem _ List.mem_cons_self
      · exact List.mem_cons_self
    · exact List.mem_cons_of_mem _ (List.mem_cons_of_mem _ hmem)

theorem mem_of_oldest {entries : List (Bytes × Acquisition)} {entry : Bytes × Acquisition}
    (h : oldest entries = some entry) : entry ∈ entries := by
  cases entries with
  | nil => cases h
  | cons first entries => exact Option.some.inj h ▸ mem_foldl_oldest entries first

/-- What a retirement leaves: entries stay as they are, or their generation is retired. -/
structure Retires (before after : Journal) : Prop where
  marks : before.retired ≤ after.retired
  entries : ∀ key acquisition, after.acquisitions.get? key = some acquisition →
    before.acquisitions.get? key = some acquisition
  retired : ∀ key acquisition, before.acquisitions.get? key = some acquisition →
    after.acquisitions.get? key = some acquisition ∨
      generationOf acquisition.request ≤ after.retired

theorem Journal.retire_spec (j : Journal) : Retires j j.retire := by
  have hsame : Retires j j := ⟨le_rfl, fun _ _ => id, fun _ _ => .inl⟩
  rw [Journal.retire]
  split
  case isTrue => exact hsame
  case isFalse =>
    cases holdest : oldest j.ordered with
    | none => exact hsame
    | some entry =>
      have hmem : entry ∈ j.acquisitions.items := (mem_sortBy _).1 (mem_of_oldest holdest)
      have hentry : j.acquisitions.get? entry.1 = some entry.2 := Dict.get?_eq_some.2 hmem
      refine ⟨le_max_left .., fun key acquisition h => ?_, fun key acquisition h => ?_⟩
      · dsimp only at h
        rw [Dict.get?_erase] at h
        split at h
        · cases h
        · exact h
      · dsimp only
        rw [Dict.get?_erase]
        rcases eq_or_ne entry.1 key with rfl | hne
        · rw [hentry] at h
          cases h
          exact .inr (le_max_right ..)
        · rw [if_neg hne]
          exact .inl h

/-! ## The invariant -/

/-- What holds of the books: an entry stands under its own key and was logged, what was logged is
retained or retired, and nothing was logged or called for twice. -/
structure Kept (books : Books) : Prop where
  keyed : ∀ key acquisition, books.journal.acquisitions.get? key = some acquisition →
    requestOf acquisition.request = key ∧ acquisition ∈ books.log
  settled : ∀ acquisition ∈ books.log,
    books.journal.acquisitions.get? (requestOf acquisition.request) = some acquisition ∨
      books.Retired acquisition.request
  once : (books.log.map Acquisition.request).Nodup
  called : books.calls.Sublist (books.log.map Acquisition.request)

theorem Kept.empty : Kept {} where
  keyed _ _ h := by cases h
  settled _ h := by cases h
  once := List.nodup_nil
  called := .refl _

theorem Kept.retire (h : Kept books) : Kept { books with journal := books.journal.retire } := by
  have hretires := books.journal.retire_spec
  refine ⟨fun key acquisition hentry => h.keyed key acquisition (hretires.entries _ _ hentry),
    fun acquisition hlogged => ?_, h.once, h.called⟩
  rcases h.settled acquisition hlogged with hentry | hretired
  · exact hretires.retired _ _ hentry
  · exact .inr (hretired.trans hretires.marks)

/-- An acquisition that is neither retained nor retired was not logged. -/
theorem Kept.fresh (h : Kept books) {payload : Bytes}
    (hvacant : books.journal.acquisitions.get? (requestOf payload) = none)
    (hlive : ¬ books.Retired payload) : payload ∉ books.log.map Acquisition.request := by
  rintro hlogged
  obtain ⟨acquisition, hmem, rfl⟩ := List.mem_map.1 hlogged
  rcases h.settled acquisition hmem with hentry | hretired
  · exact absurd (hentry.symm.trans hvacant) (Option.some_ne_none _)
  · exact hlive hretired

variable {before after : Books}

theorem Journaled.kept {acquisition : Acquisition} (h : Journaled command before acquisition after)
    (hkept : Kept before) : Kept after := by
  have hretired := hkept.retire
  have hfresh : command.command ∉ before.log.map Acquisition.request := by
    refine hkept.fresh h.vacant fun hretired => ?_
    exact absurd h.live (not_lt.2 (hretired.trans before.journal.retire_spec.marks))
  have hrequest : requestOf acquisition.request = requestOf command.command := by rw [h.request]
  have hlog : after.log.map Acquisition.request =
      before.log.map Acquisition.request ++ [command.command] := by
    rw [h.log, List.map_append, List.map_singleton, h.request]
  refine ⟨fun key entry hentry => ?_, fun entry hlogged => ?_, ?_, ?_⟩
  · rw [h.lookup] at hentry
    rw [h.log]
    split at hentry
    case isTrue hkey =>
      cases hentry
      exact ⟨hrequest.trans hkey, List.mem_append_right _ (List.mem_singleton_self _)⟩
    case isFalse =>
      obtain ⟨hkey, hmem⟩ := hretired.keyed key entry hentry
      exact ⟨hkey, List.mem_append_left _ hmem⟩
  · rw [h.log] at hlogged
    rw [h.lookup]
    rcases List.mem_append.1 hlogged with hmem | hmem
    · rcases hretired.settled entry hmem with hentry | hold
      · rw [if_neg]
        · exact .inl hentry
        · intro hkey
          have hvacant := h.vacant
          rw [hkey] at hvacant
          have hbefore := before.journal.retire_spec.entries _ _ hentry
          exact absurd (hbefore.symm.trans hvacant) (Option.some_ne_none _)
      · refine .inr ?_
        rw [Books.Retired, h.retired]
        exact hold
    · rw [List.mem_singleton.1 hmem, hrequest, if_pos rfl]
      exact .inl rfl
  · rw [hlog]
    exact List.nodup_append.2 ⟨hkept.once, List.nodup_singleton _, fun a ha b hb heq =>
      hfresh (List.mem_singleton.1 hb ▸ heq ▸ ha)⟩
  · rw [hlog]
    rcases h.calls with hcalls | hcalls
    · rw [hcalls]
      exact hkept.called.trans (List.sublist_append_left ..)
    · rw [hcalls]
      exact hkept.called.append (.refl _)

variable {receipt : Receipt}

theorem Outcome.kept (h : Outcome command before receipt after) (hkept : Kept before) :
    Kept after := by
  cases h with
  | replayed | conflicting | stale => exact hkept
  | retired => exact hkept.retire
  | journaled receipt after journaled => exact journaled.kept hkept

/-! ## Runs -/

theorem after_kept (h : Kept r.books) (event : Runtime.Event σ) :
    Kept (r.after services event).books := by
  cases event with
  | elsewhere next => exact h
  | idle =>
    show Kept (r.relinquished services).books
    rw [relinquished_books]
    exact h
  | command phase command =>
    show Kept (r.commands services phase command).2.books
    by_cases hadmits : (r.taken services command).Admits services phase command
    · exact (commands_admitted hadmits).kept h
    · rw [(commands_refused hadmits).1]
      exact h

/-- The books are kept in every state that is reached. -/
theorem reached_kept (services : Services σ) (initial : Runtime σ)
    (events : List (Runtime.Event σ)) : Kept (Runtime.reached services initial events).books := by
  induction events using List.reverseRecOn with
  | nil => exact Kept.empty
  | append_singleton events event ih =>
    rw [Runtime.reached, List.foldl_concat]
    exact after_kept ih event

/-! ## At most once -/

/-- A call of `AcquireAutomation` is one of an acquisition that is journaled. -/
theorem Outcome.log (h : Outcome command before receipt after) : after.log = before.log ∨
      after.log = before.log ++ [⟨command.verb, command.command, receipt⟩] := by
  cases h with
  | replayed | conflicting | stale | retired => exact .inl rfl
  | journaled receipt after journaled => exact .inr journaled.log

theorem Outcome.of_retained {prior : Acquisition} (h : Outcome command before receipt after)
    (hprior : before.journal.acquisitions.get? (requestOf command.command) = some prior) :
    after = before ∧ if prior.verb = command.verb ∧ prior.request = command.command then
      receipt = prior.receipt else receipt.outcome = .invalid := by
  have hvacant (hnone : before.journal.acquisitions.get? (requestOf command.command) = none) :
      False := Option.some_ne_none _ (hprior.symm.trans hnone)
  cases h with
  | replayed other retained verb request =>
    cases hprior.symm.trans retained
    exact ⟨rfl, by rw [if_pos ⟨verb, request⟩]⟩
  | conflicting other receipt retained differs invalid =>
    cases hprior.symm.trans retained
    exact ⟨rfl, by rw [if_neg differs]; exact invalid⟩
  | stale receipt vacant => exact (hvacant vacant).elim
  | retired receipt vacant => exact (hvacant vacant).elim
  | journaled receipt after journaled => exact (hvacant journaled.vacant).elim

/-- What was logged and is not retained is retired, and a retired acquisition is stale. -/
theorem Outcome.of_evicted (h : Outcome command before receipt after) (hkept : Kept before)
    (hvacant : before.journal.acquisitions.get? (requestOf command.command) = none)
    (hlogged : command.command ∈ before.log.map Acquisition.request) :
    after = before ∧ receipt.outcome = .stale := by
  have hretained {prior : Acquisition}
      (hsome : before.journal.acquisitions.get? (requestOf command.command) = some prior) :
      False := Option.some_ne_none _ (hsome.symm.trans hvacant)
  cases h with
  | replayed prior retained => exact (hretained retained).elim
  | conflicting prior receipt retained => exact (hretained retained).elim
  | stale receipt vacant stale => exact ⟨rfl, stale⟩
  | retired receipt vacant live => exact (hkept.fresh hvacant live hlogged).elim
  | journaled receipt after journaled =>
    refine (hkept.fresh hvacant (fun hretired => ?_) hlogged).elim
    exact absurd journaled.live (not_lt.2 (hretired.trans before.journal.retire_spec.marks))

/-- How a command is answered in a runtime, and what it leaves of the books. -/
structure AnsweredOnce (services : Services σ) (r : Runtime σ) (phase : Bool)
    (command : QueuedCommand) (answer : Receipt) (after : Books) : Prop where
  log : after.log = r.books.log ∨
    after.log = r.books.log ++ [⟨command.verb, command.command, answer⟩]
  refused : ¬ (r.taken services command).Admits services phase command →
    after = r.books ∧ (command.verb.acquires = true → answer.outcome = .stale)
  retained : (r.taken services command).Admits services phase command → ∀ prior,
    r.books.journal.acquisitions.get? (requestOf command.command) = some prior →
      prior ∈ r.books.log ∧ after = r.books ∧
        if prior.verb = command.verb ∧ prior.request = command.command then answer = prior.receipt
        else answer.outcome = .invalid
  evicted : (r.taken services command).Admits services phase command →
    r.books.journal.acquisitions.get? (requestOf command.command) = none →
      command.command ∈ r.books.log.map Acquisition.request →
        after = r.books ∧ answer.outcome = .stale

/-- `AcquireAutomation` is called at most once for a payload, and a payload that was answered is
answered again from the journal, or not at all. -/
theorem acquired_at_most_once (services : Services σ) (initial : Runtime σ)
    (events : List (Runtime.Event σ)) :
    let r := Runtime.reached services initial events
    r.books.calls.Nodup ∧ r.books.calls.Sublist (r.books.log.map Acquisition.request) ∧
      ∀ phase command, AnsweredOnce services r phase command
        (r.commands services phase command).1 (r.commands services phase command).2.books := by
  intro r
  have hkept : Kept r.books := reached_kept services initial events
  refine ⟨hkept.once.sublist hkept.called, hkept.called, fun phase command => ?_⟩
  by_cases hadmits : (r.taken services command).Admits services phase command
  · have houtcome := commands_admitted hadmits
    refine ⟨houtcome.log, fun h => (h hadmits).elim, fun _ prior hprior => ?_, fun _ => ?_⟩
    · exact ⟨(hkept.keyed _ _ hprior).2, houtcome.of_retained hprior⟩
    · exact houtcome.of_evicted hkept
  · have hrefused := commands_refused hadmits
    exact ⟨.inl (congrArg Books.log hrefused.1), fun _ => hrefused, fun h => (hadmits h).elim,
      fun h => (hadmits h).elim⟩

/-! ## A replay after the scene changed -/

namespace SceneChange

/-- A client that lives from one scene to the next and grants whatever it is asked for; its world is
the grant that it is in. -/
def client : Services Grant where
  clock _ := 10
  leaseCurrent _ _ _ := true
  window _ := 2
  epoch grant := grant.scene
  lifetimeCurrent _ := true
  current := id
  coordinateOnly _ := false
  cleanupPending _ := false
  ready _ := true
  cameraReady _ := true
  nativeAvailable _ := true
  bindingsAvailable _ := true
  interrupted _ := false
  finished _ := false
  preparationBlocks _ := false
  allocates _ := true
  execute _ _ := id
  emergencyStop _ _ := id
  stop _ := (.accepted, ·)
  pause _ := (.accepted, ·)
  pauseOwner _ := (.accepted, ·)
  destination _ _ := (.accepted, ·)
  acquire generation token _ grant :=
    ((.accepted, ⟨generation + 1, grant.scene, .automation, token⟩),
      ⟨generation + 1, grant.scene, .automation, token⟩)
  configure _ := (.accepted, ·)
  configureInput _ := (true, ·)
  shutdown := id

def settingsBytes : Bytes :=
  [0x43, 0x4D, 0x42, 0x57, 2, 0, 0, 0, 0, 0, 0, 0] ++
  [0x57, 0, 0, 0, 0x53, 0, 0, 0, 0x41, 0, 0, 0, 0x44, 0, 0, 0] ++ zeros 4 ++
  [0, 0, 0x80, 0x3E, 0, 0, 0x80, 0x3E, 0, 0, 0, 0x40, 0, 0, 0x80, 0x40] ++ [5, 0, 0, 0] ++
  (1 :: zeros 51)

/-- It expects the first generation of the scene 7 without an owner. -/
def payload : Bytes :=
  [1, 0, 0, 0, 1, 0, 0, 0, 1, 0, 0, 0, 0, 0, 0, 0] ++ (2 :: zeros 7) ++
  ((1 :: zeros 7) ++ (7 :: zeros 7) ++ zeros 200) ++ (9 :: zeros 15) ++ zeros 12 ++
  settingsBytes ++ zeros 8 ++ (0x77 :: zeros 95) ++ (0x6F :: zeros 95) ++ zeros 4

def acquisition : QueuedCommand := ⟨.acquire, payload, some ⟨1, payload.take 16⟩, 20⟩

/-- A runtime in a scene. -/
def inScene (grant : Grant) : Runtime Grant where
  world := grant
  settings := Wire.settingsOf 0 0x57 0x53 0x41 0x44 0 0x3E800000 0x3E800000 0x40000000 0x40800000 5
    .initial

def events : List (Runtime.Event Grant) :=
  [.command true acquisition, .elsewhere (inScene ⟨3, 8, .none, {}⟩)]

end SceneChange

/-- The receipt of an acquisition is retained, but a replay from another scene is stale. -/
theorem retained_not_replayed : ¬ ∀ (services : Services Grant) (initial : Runtime Grant)
    (events : List (Runtime.Event Grant)) (phase : Bool) (command : QueuedCommand)
    (prior : Acquisition),
    let r := Runtime.reached services initial events
    command.verb.acquires = true → Wire.valid command.verb command.command = true →
      r.books.journal.acquisitions.get? (requestOf command.command) = some prior →
        prior.verb = command.verb → prior.request = command.command →
          (r.commands services phase command).1 = prior.receipt := by
  intro h
  have hanswers := h SceneChange.client (SceneChange.inScene ⟨1, 7, .none, {}⟩) SceneChange.events
    true SceneChange.acquisition
  dsimp only at hanswers
  generalize hr : Runtime.reached SceneChange.client (SceneChange.inScene ⟨1, 7, .none, {}⟩)
    SceneChange.events = r at hanswers
  generalize hreplay : SceneChange.acquisition = replay at hanswers
  have hrun : (r.books.journal.acquisitions.get? (requestOf replay.command)).map
      (fun prior => (prior.verb, prior.request, prior.receipt.outcome)) =
        some (replay.verb, replay.command, .accepted) ∧
      (r.commands SceneChange.client true replay).1.outcome = .stale ∧
      Wire.valid replay.verb replay.command = true := by
    rw [← hr, ← hreplay]
    decide +kernel
  obtain ⟨hretained, hstale, hvalid⟩ := hrun
  obtain ⟨prior, hprior, heq⟩ := Option.map_eq_some_iff.1 hretained
  simp only [Prod.mk.injEq] at heq
  obtain ⟨hverb, hrequest, haccepted⟩ := heq
  have hacquires : replay.verb.acquires = true := hreplay ▸ rfl
  have hanswer := congrArg Receipt.outcome
    (hanswers prior hacquires hvalid hprior hverb hrequest)
  rw [hstale, haccepted] at hanswer
  cases hanswer

end ShadowbaneLab.Native.Movement
