/-
# Runs of the native Condemn controller

What each operation of the controller can do, and what follows for every run: each action of a
transaction is invoked at most once, in order and in time, and a transaction is verified only on
evidence.
-/
import ShadowbaneLab.Native.Condemn

namespace ShadowbaneLab.Native.Condemn

open Foundation List

/-! ## Actions -/

/-- The actions that a transaction may have invoked when it is in a phase. -/
def Phase.actions : Phase → List Action
  | .opening => [.opens]
  | .adding => [.opens, .add]
  | .enabling => [.opens, .add, .enable]
  | _ => []

theorem Phase.actions_sublist (phase : Phase) :
    phase.actions.Sublist [.opens, .add, .enable] := by
  cases phase <;> decide

variable {now : UInt64} {answers : Answers} {completed : List Proof} {batch : Option Batch}
   {call : Option Call} {e : Execution}

variable {target : Target}

variable {memory : Bool}

variable {valid : Bool}

namespace Controller

/-- The snapshot that an action would be invoked with is the current one. -/
def Mirrored (s : Controller) : Prop :=
  s.unresolved = false → s.current.toNativeSnapshot = s.nativeSnapshot

/-- A step leaves the transaction unresolved. -/
structure Failed (s s' : Controller) : Prop where
  records : s'.records = s.records
  unresolved : s'.unresolved = true
  unverified : s'.phase ≠ .verified

/-- A step ends the transaction, or leaves it unresolved. -/
structure Ended (s s' : Controller) : Prop where
  records : s'.records = s.records
  finished : s'.pending = false ∨ s'.unresolved = true
  unverified : s'.phase ≠ .verified
  mirrored : s.Mirrored → s'.Mirrored
  unresolved : s.unresolved = true → s'.unresolved = true

variable {s s' : Controller}

theorem Failed.ended (h : s.Failed s') : s.Ended s' where
  records := h.records
  finished := .inr h.unresolved
  unverified := h.unverified
  mirrored _ hresolved := by rw [h.unresolved] at hresolved; cases hresolved
  unresolved _ := h.unresolved

theorem failed_fail : s.Failed s.fail := ⟨rfl, rfl, nofun⟩

theorem ended_fail : s.Ended s.fail := failed_fail.ended

/-- What an action can do: fail or wait, or begin at the drained cursor. -/
theorem act_cases (action : Action) (now : UInt64) (answers : Answers) (initial : Bool) :
    ((s.act action now answers initial).2.2 = none ∧
      ((s.act action now answers initial).1 = s ∨ s.Ended (s.act action now answers initial).1)) ∨
    ∃ cursor, answers.act = some cursor ∧ s.evidence.map Window.current = some cursor ∧
      (s.act action now answers initial).2.2 =
        some ⟨action, s.transition.target, s.nativeSnapshot, cursor, answers.result⟩ ∧
      ((answers.result = .submitted ∧
        (s.act action now answers initial).1 = s.acting action now cursor) ∨
        (answers.result ≠ .submitted ∧ s.Ended (s.act action now answers initial).1)) := by
  unfold act
  split
  case h_2 => exact .inl ⟨rfl, .inr ended_fail⟩
  case h_1 cursor evidence hact hevidence =>
    split
    case isTrue => exact .inl ⟨rfl, .inr ended_fail⟩
    case isFalse =>
      split
      case isTrue =>
        refine .inl ⟨rfl, ?_⟩
        dsimp only
        split
        case isTrue => exact .inr ended_fail
        case isFalse => exact .inl rfl
      case isFalse hcursor =>
        refine .inr ⟨cursor, hact, ?_, ?_⟩
        · rw [hevidence, Option.map_some, not_not.1 hcursor]
        · dsimp only
          split
          case isTrue hresult => exact ⟨by rw [hresult], .inl ⟨hresult, rfl⟩⟩
          case isFalse hresult =>
            split
            case isTrue =>
              refine ⟨rfl, .inr ⟨hresult, ?_⟩⟩
              exact ⟨rfl, .inl rfl, nofun, id, id⟩
            case isFalse =>
              refine ⟨rfl, .inr ⟨hresult, ?_⟩⟩
              exact Failed.ended ⟨rfl, rfl, nofun⟩

/-- What advancing the transaction can do. -/
inductive Advanced (s : Controller) (now : UInt64) (answers : Answers) :
    Controller → Option Call → Prop
  | same : Advanced s now answers s none
  | ended {s' : Controller} (h : s.Ended s') : Advanced s now answers s' none
  | submitted {action : Action} {cursor : Cursor} (result : answers.result = .submitted)
    (legal : (s.phase.actions ++ [action]).Sublist action.phase.actions)
    (listed : action ≠ .opens → s.transition.target.lists s.current = true)
    (answered : answers.act = some cursor) (drained : s.evidence.map Window.current = some cursor) :
    Advanced s now answers (s.acting action now cursor)
      (some ⟨action, s.transition.target, s.nativeSnapshot, cursor, .submitted⟩)
  | failed {s' : Controller} {action : Action} {cursor : Cursor}
    (legal : (s.phase.actions ++ [action]).Sublist action.phase.actions)
    (answered : answers.act = some cursor) (drained : s.evidence.map Window.current = some cursor)
    (h : s.Ended s') (result : answers.result ≠ .submitted) :
    Advanced s now answers s'
      (some ⟨action, s.transition.target, s.nativeSnapshot, cursor, answers.result⟩)

theorem advanced_act {action : Action} {initial : Bool}
    (legal : (s.phase.actions ++ [action]).Sublist action.phase.actions)
    (listed : action ≠ .opens → s.transition.target.lists s.current = true) :
    Advanced s now answers (s.act action now answers initial).1
      (s.act action now answers initial).2.2 := by
  rcases s.act_cases action now answers initial with ⟨hcall, hsame | hended⟩ |
    ⟨cursor, hanswered, hdrained, hcall, ⟨hresult, hacting⟩ | ⟨hresult, hended⟩⟩
  · rw [hcall, hsame]
    exact .same
  · rw [hcall]
    exact .ended hended
  · rw [hcall, hacting, hresult]
    exact .submitted hresult legal listed hanswered hdrained
  · rw [hcall]
    exact .failed legal hanswered hdrained hended hresult

theorem advance_cases (now : UInt64) (answers : Answers) (initial : Bool) :
    Advanced s now answers (s.advance now answers initial).1
      (s.advance now answers initial).2.2 := by
  unfold advance
  dsimp only
  split
  case isTrue h =>
    refine advanced_act ?_ fun hne => absurd rfl hne
    rw [h.1]
    decide
  case isFalse =>
    split
    case isTrue => exact .same
    case isFalse hlists =>
      have hlists : s.transition.target.lists s.current = true := by
        rwa [Bool.not_eq_true, Bool.not_eq_false] at hlists
      split
      case isTrue => exact .same
      case isFalse henabling =>
        split
        case isTrue =>
          split
          case isTrue =>
            split
            case isTrue => exact .ended ended_fail
            case isFalse =>
              exact .ended ⟨rfl, .inl rfl, nofun, id, id⟩
          case isFalse =>
            refine advanced_act ?_ fun _ => hlists
            revert henabling
            cases s.phase <;> decide
        case isFalse =>
          split
          case isTrue => exact .same
          case isFalse hadding =>
            split
            case isTrue => exact .ended ended_fail
            case isFalse =>
              refine advanced_act ?_ fun _ => hlists
              revert henabling hadding
              cases s.phase <;> decide

/-! ## Observations -/

/-- A proof shows the entry of the action enabled, decoded after the action began. -/
def Proven (s : Controller) (proof : Proof) : Prop :=
  s.floor < proof.decoded.decodeSequence ∧
    proof.enabled s.transition.target.building s.actionOwner.entryKey = true

theorem foldlM_prove_error {failed : Controller}
    (h : completed.foldlM (prove now) s = .error failed) : s.Failed failed := by
  induction completed generalizing s with
  | nil => cases h
  | cons proof completed ih =>
    rw [foldlM_cons] at h
    unfold prove at h
    split at h
    case isTrue =>
      cases h
      exact failed_fail
    case isFalse =>
      split at h
      case isTrue => exact ih h
      case isFalse =>
        split at h
        case isTrue =>
          cases h
          exact failed_fail
        case isFalse =>
          obtain ⟨hrecords, hunresolved, hunverified⟩ := ih h
          exact ⟨hrecords, hunresolved, hunverified⟩

theorem foldlM_prove_ok (h : completed.foldlM (prove now) s = .ok s') :
    ∃ sequence tick, s' = { s with proofSequence := sequence, proofTick := tick } ∧
      (sequence = s.proofSequence ∨ ∃ proof ∈ completed, s.Proven proof) := by
  induction completed generalizing s with
  | nil =>
    cases h
    exact ⟨_, _, rfl, .inl rfl⟩
  | cons proof completed ih =>
    rw [foldlM_cons] at h
    unfold prove at h
    split at h
    case isTrue => cases h
    case isFalse =>
      split at h
      case isTrue =>
        obtain ⟨sequence, tick, heq, hproven⟩ := ih h
        exact ⟨sequence, tick, heq,
          hproven.imp_right fun ⟨p, hp, hs⟩ => ⟨p, mem_cons_of_mem _ hp, hs⟩⟩
      case isFalse hanswers =>
        split at h
        case isTrue => cases h
        case isFalse henabled =>
          obtain ⟨sequence, tick, heq, -⟩ := ih h
          refine ⟨sequence, tick, heq, .inr ⟨proof, mem_cons_self, ?_, ?_⟩⟩
          · simp only [answersAction, decide_eq_true_eq, not_not] at hanswers
            exact hanswers.2.2.2.1
          · simpa using henabled

/-- What the end of an observation can do. -/
inductive Concluded (s : Controller) (completed : List Proof) (valid : Bool) : Controller → Prop
  | failed {s' : Controller} (h : s.Failed s') : Concluded s completed valid s'
  | kept {sequence tick : UInt64}
    (owner : valid = true → s.sameOwner s.current = true)
    (proven : sequence = s.proofSequence ∨
      s.phase = .enabling ∧ ∃ proof ∈ completed, s.Proven proof) :
    Concluded s completed valid { s with proofSequence := sequence, proofTick := tick }
  | verified {sequence tick : UInt64} (shown : valid = true)
    (owner : s.sameOwner s.current = true) (enabling : s.phase = .enabling)
    (proven : sequence = s.proofSequence ∨ ∃ proof ∈ completed, s.Proven proof)
    (proved : sequence ≠ 0) (enabled : s.current.enabled ≠ 0)
    (list : s.current.kos = s.actionOwner.kos ∧ s.current.list = s.actionOwner.list)
    (entry : s.current.entryKey = s.actionOwner.entryKey ∧ s.current.row = s.actionOwner.row ∧
      s.current.entry = s.actionOwner.entry) :
    Concluded s completed valid { s with
      proofSequence := sequence, proofTick := tick, pending := false, phase := .verified }

theorem conclude_cases (completed : List Proof) (valid : Bool) (now : UInt64) :
    Concluded s completed valid (s.conclude completed valid now) := by
  unfold conclude
  split
  case isTrue => exact .failed failed_fail
  case isFalse howner =>
    have howner : valid = true → s.sameOwner s.current = true := by
      intro hvalid
      simpa [hvalid] using howner
    split
    case h_1 failed hfailed =>
      split at hfailed
      case isTrue => exact .failed (foldlM_prove_error hfailed)
      case isFalse => cases hfailed
    case h_2 s' hproved =>
      obtain ⟨sequence, tick, rfl, hproven⟩ : ∃ sequence tick,
          s' = { s with proofSequence := sequence, proofTick := tick } ∧
            (sequence = s.proofSequence ∨
              s.phase = .enabling ∧ ∃ proof ∈ completed, s.Proven proof) := by
        split at hproved
        case isTrue henabling =>
          obtain ⟨sequence, tick, heq, hproven⟩ := foldlM_prove_ok hproved
          exact ⟨sequence, tick, heq, hproven.imp_right fun h => ⟨henabling, h⟩⟩
        case isFalse =>
          cases hproved
          exact ⟨_, _, rfl, .inl rfl⟩
      dsimp only
      split
      case isTrue => exact .kept howner hproven
      case isFalse hvalid =>
        have hvalid : valid = true := by rwa [Bool.not_eq_true, Bool.not_eq_false] at hvalid
        split
        case isTrue => exact .failed ⟨rfl, rfl, nofun⟩
        case isFalse hlist =>
          split
          case isTrue henabling =>
            split
            case isTrue => exact .failed ⟨rfl, rfl, nofun⟩
            case isFalse hentry =>
              split
              case isTrue hdone =>
                simp only [henabling, or_true, true_and, not_or, not_not] at hlist
                simp only [not_or, not_not] at hentry
                exact .verified hvalid (howner hvalid) henabling
                  (hproven.imp_right And.right) hdone.1 hdone.2.1 hlist.2 hentry
              case isFalse => exact .kept howner hproven
          case isFalse => exact .kept howner hproven

/-- What an observation knows of the target when it correlates. -/
def seeing (s : Controller) (target : Target) (snapshot : NativeSnapshot) (revision : UInt64)
    (current : Snapshot) : Controller :=
  { s with
    revision := revision, currentTarget := target, nativeSnapshot := snapshot, current := current }

theorem observe_eq (target : Target) (snapshot : NativeSnapshot) (valid : Bool)
    (batch : Option Batch) (now : UInt64) (memory : Bool) :
    (∃ s', s.observe target snapshot valid batch now memory = some s' ∧ s.Failed s') ∨
    ∃ revision current, current.toNativeSnapshot = (if valid then snapshot else {}) ∧
      s.observe target snapshot valid batch now memory =
        (s.seeing target (if valid then snapshot else {}) revision current).correlate target valid
          batch now memory := by
  unfold observe
  dsimp only
  split
  case isTrue h =>
    refine .inr ⟨s.revision, _, ?_, rfl⟩
    rw [if_pos h.1]
    rfl
  case isFalse =>
    split
    case isTrue => exact .inl ⟨_, rfl, rfl, rfl, nofun⟩
    case isFalse =>
      refine .inr ⟨s.revision + 1, _, ?_, rfl⟩
      split <;> rfl

theorem correlate_idle (h : ¬ (s.pending = true ∧ s.unresolved = false)) :
    s.correlate target valid batch now memory = some s := by
  refine if_pos ?_
  cases hpending : s.pending with
  | false => exact .inl Bool.false_ne_true
  | true =>
    refine .inr ?_
    by_contra hunresolved
    exact h ⟨hpending, Bool.eq_false_iff.2 hunresolved⟩

/-- What correlating an observation with a running transaction can do. -/
theorem correlate_cases (target : Target) (valid : Bool) (batch : Option Batch) (now : UInt64)
    (memory : Bool) {evidence : Window} (hpending : s.pending = true)
    (hresolved : s.unresolved = false) (hevidence : s.evidence = some evidence) :
    ∃ s', s.correlate target valid batch now memory = some s' ∧ (s.Failed s' ∨
      ∃ records w completed, batch = some records ∧ target = s.transition.target ∧
        evidence.consume records memory = some (w, completed) ∧
        Concluded { s with evidence := some w, lastNow := now } completed valid s') := by
  unfold correlate
  split
  case isTrue h => simp [hpending, hresolved] at h
  case isFalse =>
    split
    case isTrue => exact ⟨_, rfl, .inl failed_fail⟩
    case isFalse htimes =>
      cases batch with
      | none => exact ⟨_, rfl, .inl failed_fail⟩
      | some records =>
        rw [hevidence]
        dsimp only
        cases hconsume : evidence.consume records memory with
        | none => exact ⟨_, rfl, .inl failed_fail⟩
        | some result =>
          obtain ⟨w, completed⟩ := result
          dsimp only
          split
          case isTrue => exact ⟨_, rfl, .inl ⟨rfl, rfl, nofun⟩⟩
          case isFalse =>
            refine ⟨_, rfl, .inr ⟨records, w, completed, rfl, ?_, hconsume, conclude_cases _ _ _⟩⟩
            by_contra hne
            exact htimes (.inl hne)

/-- What an observation can do. -/
inductive Observed (s : Controller) (target : Target) (snapshot : NativeSnapshot) (valid : Bool)
    (batch : Option Batch) (now : UInt64) (memory : Bool) : Controller → Prop
  | failed {s' : Controller} (h : s.Failed s') :
    Observed s target snapshot valid batch now memory s'
  | idle {revision : UInt64} {current : Snapshot}
    (quiet : ¬ (s.pending = true ∧ s.unresolved = false))
    (shown : current.toNativeSnapshot = if valid then snapshot else {}) :
    Observed s target snapshot valid batch now memory
      (s.seeing target (if valid then snapshot else {}) revision current)
  | correlated {revision : UInt64} {current : Snapshot} {evidence w : Window} {records : Batch}
    {completed : List Proof} {s' : Controller}
    (active : s.pending = true ∧ s.unresolved = false)
    (shown : current.toNativeSnapshot = if valid then snapshot else {})
    (kept : s.evidence = some evidence) (given : batch = some records)
    (same : target = s.transition.target)
    (consumed : evidence.consume records memory = some (w, completed))
    (h : Concluded { s.seeing target (if valid then snapshot else {}) revision current with
      evidence := some w, lastNow := now } completed valid s') :
    Observed s target snapshot valid batch now memory s'

theorem observe_cases (target : Target) (snapshot : NativeSnapshot) (valid : Bool)
    (batch : Option Batch) (now : UInt64) (memory : Bool)
    (hevidence : s.pending = true → s.unresolved = false → ∃ w, s.evidence = some w) :
    ∃ s', s.observe target snapshot valid batch now memory = some s' ∧
      s.Observed target snapshot valid batch now memory s' := by
  rcases s.observe_eq target snapshot valid batch now memory with
    ⟨s', hobserve, hfailed⟩ | ⟨revision, current, hshown, hobserve⟩
  · exact ⟨s', hobserve, .failed hfailed⟩
  · rw [hobserve]
    by_cases hactive : s.pending = true ∧ s.unresolved = false
    · obtain ⟨evidence, hevidence⟩ := hevidence hactive.1 hactive.2
      obtain ⟨s', hcorrelate, hfailed | ⟨records, w, completed, hgiven, hsame, hconsumed, h⟩⟩ :=
        (s.seeing target (if valid then snapshot else {}) revision current).correlate_cases
          target valid batch now memory hactive.1 hactive.2 hevidence
      · refine ⟨s', hcorrelate, .failed ?_⟩
        exact ⟨hfailed.records, hfailed.unresolved, hfailed.unverified⟩
      · exact ⟨s', hcorrelate, .correlated hactive hshown hevidence hgiven hsame hconsumed h⟩
    · exact ⟨_, correlate_idle hactive, .idle hactive hshown⟩

theorem Advanced.records (h : s.Advanced now answers s' call) : s'.records = s.records := by
  cases h with
  | same => rfl
  | ended h => exact h.records
  | submitted => rfl
  | failed _ _ _ h => exact h.records

theorem Advanced.unverified (h : s.Advanced now answers s' call) (hs : s.phase ≠ .verified) :
    s'.phase ≠ .verified := by
  cases h with
  | same => exact hs
  | ended h => exact h.unverified
  | @submitted action => cases action <;> exact nofun
  | failed _ _ _ h => exact h.unverified

/-- Advancing a transaction does not read the records. -/
theorem Advanced.withRecords (h : s.Advanced now answers s' call) (records : Dict RequestKey Entry)
    :
    Advanced { s with records := records } now answers { s' with records := records } call := by
  cases h with
  | same => exact .same
  | ended h => exact .ended ⟨rfl, h.finished, h.unverified, h.mirrored, h.unresolved⟩
  | submitted result legal listed answered drained =>
    exact .submitted result legal listed answered drained
  | failed legal answered drained h result =>
    exact .failed legal answered drained ⟨rfl, h.finished, h.unverified, h.mirrored, h.unresolved⟩
      result

/-! ## Executions -/

/-- A new request is accepted: the controller as its transaction begins, with its record. -/
structure Accepted (s : Controller) (e : Execution) (interval : Window) (s' : Controller) :
    Prop where
  verb : e.verb = .ensure
  fresh : s.records.get? e.command.request = none
  idle : s.pending = false ∧ s.unresolved = false
  expected : e.command.expected = s.current
  early : e.now.toNat + 45000 < UInt64.size
  cursor : ∃ cursor, e.answers.start = some cursor ∧
    interval = Window.start cursor s.current.scene s.current.localKey
  begins : ∃ entry, s' = { s.begin e interval with
    records := s.records.set e.command.request entry }

theorem admission_cases {interval : Window} {entry : Entry} (hverb : e.verb = .ensure)
    (hfresh : s.records.get? e.command.request = none) (h : s.admission e = .inr interval) :
    s.Accepted e interval { s.begin e interval with
      records := s.records.set e.command.request entry } := by
  unfold admission at h
  dsimp only at h
  split at h
  case isTrue => cases h
  case isFalse hbusy =>
    split at h
    case isTrue => cases h
    case isFalse =>
      split at h
      case isTrue => cases h
      case isFalse hexpected =>
        split at h
        case isTrue => cases h
        case isFalse hroom =>
          split at h
          case h_1 => cases h
          case h_2 cursor hstart =>
            split at h
            case isTrue => cases h
            case isFalse =>
              cases h
              refine ⟨hverb, hfresh, ?_, not_not.1 hexpected, ?_, ⟨cursor, hstart, rfl⟩, entry, rfl⟩
              · simpa [busy] using hbusy
              · have hnow := UInt64.not_lt.1 (not_or.1 hroom).2
                have hle : e.now.toNat ≤ (uint64Max - 45000).toNat := hnow
                have hmax : (uint64Max - 45000).toNat = 18446744073709506615 := rfl
                have hsize : UInt64.size = 18446744073709551616 := rfl
                omega

/-- What an execution can do: nothing, fail, or advance the transaction of an inspection or a new
one. -/
theorem execute_cases (e : Execution) :
    ((s.execute e).2.2 = none ∧ ((s.execute e).1 = s ∨ s.Failed (s.execute e).1) ∧
      (s.execute e).1.records = s.records) ∨
    (e.verb = .inspect ∧ s.pending = true ∧ s.unresolved = false ∧
      e.command.transitionRequest = s.transition.request ∧ e.now ≤ s.deadline ∧
      (s.execute e).1.records = s.records ∧
      s.Advanced e.now e.answers (s.execute e).1 (s.execute e).2.2) ∨
    ∃ interval s₀, s.Accepted e interval s₀ ∧
      s₀.Advanced e.now e.answers (s.execute e).1 (s.execute e).2.2 := by
  unfold execute
  dsimp only
  split
  case isTrue => exact .inl ⟨rfl, .inl rfl, rfl⟩
  case isFalse =>
    split
    case isTrue => exact .inl ⟨rfl, .inl rfl, rfl⟩
    case isFalse =>
      split
      case isTrue hverb =>
        split
        case isTrue hmay =>
          simp only [mayAdvance, decide_eq_true_eq] at hmay
          obtain ⟨hpending, hresolved, -, -, -, hrequest, -⟩ := hmay
          split
          case isTrue => exact .inl ⟨rfl, .inr failed_fail, rfl⟩
          case isFalse htime =>
            have hadvanced := s.advance_cases e.now e.answers false
            refine .inr (.inl ⟨hverb, hpending, ?_, hrequest, ?_, ?_, hadvanced⟩)
            · exact Bool.eq_false_iff.2 hresolved
            · exact UInt64.not_lt.1 (not_or.1 htime).2
            · exact hadvanced.records
        case isFalse => exact .inl ⟨rfl, .inl rfl, rfl⟩
      case isFalse hverb =>
        have hverb : e.verb = .ensure := by
          revert hverb
          cases e.verb <;> decide
        split
        case h_1 =>
          split
          case isTrue => exact .inl ⟨rfl, .inl rfl, rfl⟩
          case isFalse => exact .inl ⟨rfl, .inl rfl, rfl⟩
        case h_2 hfresh =>
          split
          case h_1 => exact .inl ⟨rfl, .inl rfl, rfl⟩
          case h_2 interval hinterval =>
            have hadvanced := (s.begin e interval).advance_cases e.now e.answers true
            refine .inr (.inr ⟨interval, _, ?_, hadvanced.withRecords _⟩)
            exact admission_cases hverb hfresh hinterval

end Controller

/-! ## Histories -/

/-- An input with the state it is met in. -/
abbrev Step : Type := Controller × Event

/-- The transaction that a command is about. -/
def Execution.transaction (e : Execution) : RequestKey :=
  match e.verb with
  | .inspect => e.command.transitionRequest
  | .ensure => e.command.request

/-- A step invokes an action for a transaction at some time. -/
def called (k : RequestKey) (x : Step) : Option (Call × UInt64) :=
  match x.2 with
  | .observe .. => none
  | .execute e => if e.transaction = k then (invoked x.1 x.2).map (·, e.now) else none

/-- A step accepts a new transaction at some time. -/
def begun (k : RequestKey) (x : Step) : Option UInt64 :=
  match x.2 with
  | .observe .. => none
  | .execute e =>
    if e.verb = .ensure ∧ e.command.request = k ∧ x.1.records.get? k = none ∧
        (next x.1 x.2).records.get? k ≠ none then some e.now
    else none

/-- The response cursor that an execution starts from or has drained. -/
def drainedCursor (s : Controller) (e : Execution) : Option Cursor :=
  match e.verb with
  | .inspect => s.evidence.map Window.current
  | .ensure => e.answers.start

/-- The proofs that a step drains. -/
def drained (x : Step) : List Proof :=
  match x.2, x.1.evidence with
  | .observe _ _ _ (some batch) _ memory, some w =>
    ((w.consume batch memory).map Prod.snd).getD []
  | _, _ => []

/-- A complete response, decoded after the call, that shows its entry enabled. -/
def Call.Proven (call : Call) (proof : Proof) : Prop :=
  proof.Complete ∧ call.cursor.sequence < proof.decoded.decodeSequence ∧
    proof.enabled call.target.building call.snapshot.entryKey = true

/-- The owner, the list, the row and the entry of two snapshots are the same. -/
structure NativeSnapshot.Same (before after : NativeSnapshot) : Prop where
  owner : after.scene = before.scene ∧ after.localKey = before.localKey ∧
    after.root = before.root ∧ after.manager = before.manager ∧
    after.buildingHud = before.buildingHud ∧ after.building = before.building
  list : after.kos = before.kos ∧ after.list = before.list
  entry : after.entryKey = before.entryKey ∧ after.row = before.row ∧ after.entry = before.entry

/-- A transaction was verified by a step: an action of it was submitted that enables an entry, a
complete response then proved the entry enabled, and the step's valid snapshot shows it enabled. -/
structure Verified (k : RequestKey) (earlier : List Step) (y : Step) (call : Call) : Prop where
  action : call.action = .enable
  submitted : call.result = .submitted
  proven : ∃ before x between now, earlier = before ++ x :: between ∧
    called k x = some (call, now) ∧ ∃ z ∈ between ++ [y], ∃ proof ∈ drained z, call.Proven proof
  shown : ∃ snapshot batch now memory,
    y.2 = .observe call.target snapshot true batch now memory ∧
      NativeSnapshot.Same call.snapshot snapshot ∧ snapshot.enabled ≠ 0

/-- A history repeats no action, acts only in time, and verifies only on evidence. -/
structure Careful (h : List Step) : Prop where
  /-- Within a transaction each action is invoked at most once, and in order. -/
  ordered : ∀ k, ((h.filterMap (called k)).map (·.1.action)).Sublist [.opens, .add, .enable]
  /-- An action belongs to the one transaction that was accepted under its key, and is invoked
  before its deadline. -/
  timely : ∀ k, ∀ c ∈ h.filterMap (called k),
    ∃ t, h.filterMap (begun k) = [t] ∧ c.2.toNat ≤ t.toNat + 45000
  /-- An action is invoked when nothing is unresolved, and at the drained cursor. -/
  invokes : ∀ s e, (s, Event.execute e) ∈ h → ∀ call, invoked s (.execute e) = some call →
    s.unresolved = false ∧ e.answers.act = some call.cursor ∧
      drainedCursor s e = some call.cursor
  /-- Once unresolved, always unresolved. -/
  stays : h.Pairwise fun x y => x.1.unresolved = true → y.1.unresolved = true
  verified : ∀ earlier y later, h = earlier ++ y :: later → y.1.phase ≠ .verified →
    (next y.1 y.2).phase = .verified → ∃ call, Verified y.1.transition.request earlier y call
  /-- A pending transaction has its evidence, unless it is unresolved. -/
  evidence : ∀ x ∈ h, x.1.pending = true → x.1.unresolved = false → x.1.evidence.isSome = true
  /-- No observation dereferences a null pointer. -/
  observed : ∀ s, ∀ target snapshot valid batch now memory,
    (s, Event.observe target snapshot valid batch now memory) ∈ h →
      (s.observe target snapshot valid batch now memory).isSome = true

/-! ## The invariant -/

/-- A call that the controller still waits for a proof of. -/
def Awaits (s : Controller) (call : Call) : Prop :=
  call.action = .enable ∧ call.result = .submitted ∧ call.cursor.sequence = s.floor ∧
    call.target = s.transition.target ∧ call.snapshot = s.actionOwner.toNativeSnapshot ∧
    s.sameOwner s.actionOwner = true

/-- What proves the action of a controller proves the call that it awaits. -/
theorem Awaits.proven {s : Controller} {call : Call} {z : Step} (h : Awaits s call)
    (hdrained : drained z = completed) (hcomplete : ∀ proof ∈ completed, proof.Complete)
    (hproven : ∃ proof ∈ completed, s.Proven proof) : ∃ proof ∈ drained z, call.Proven proof := by
  obtain ⟨-, -, hfloor, htarget, hsnapshot, -⟩ := h
  obtain ⟨proof, hproof, hlate, henabled⟩ := hproven
  rw [hdrained]
  refine ⟨proof, hproof, hcomplete proof hproof, ?_, ?_⟩
  · rwa [hfloor]
  · rwa [htarget, hsnapshot]

/-- What is known while a transaction runs: of the calls of the steps `h`, and of the transactions
that the steps `g` began. -/
structure Running (h g : List Step) (s : Controller) : Prop where
  window : ∃ w, s.evidence = some w ∧ w.Staged
  recorded : s.records.get? s.transition.request ≠ none
  actions : ((h.filterMap (called s.transition.request)).map (·.1.action)).Sublist s.phase.actions
  begun : ∃ t, g.filterMap (begun s.transition.request) = [t] ∧ s.deadline.toNat = t.toNat + 45000
  owner : s.current.scene = 0 ∨ s.sameOwner s.current = true
  unproved : s.phase ≠ .enabling → s.proofSequence = 0
  enabling : s.phase = .enabling → ∃ earlier x between call now, h = earlier ++ x :: between ∧
    called s.transition.request x = some (call, now) ∧ Awaits s call ∧
    (s.proofSequence ≠ 0 → ∃ z ∈ between, ∃ proof ∈ drained z, call.Proven proof)

/-- What is known of a controller; the calls of a step are counted after the transaction that it
may begin. -/
structure Tracked (h g : List Step) (s : Controller) : Prop where
  ordered : ∀ k, ((h.filterMap (called k)).map (·.1.action)).Sublist [.opens, .add, .enable]
  timely : ∀ k, ∀ c ∈ h.filterMap (called k),
    ∃ t, g.filterMap (begun k) = [t] ∧ c.2.toNat ≤ t.toNat + 45000
  fresh : ∀ k, s.records.get? k = none →
    h.filterMap (called k) = [] ∧ g.filterMap (begun k) = []
  mirrored : s.Mirrored
  running : s.pending = true → s.unresolved = false → Running h g s

variable {i : Event}

namespace Tracked

variable {h g : List Step} {s s' : Controller} {x : Step}

/-- A step that begins no transaction. -/
theorem begins_none (hs : Tracked h g s) (hx : ∀ k, begun k x = none) :
    Tracked h (g ++ [x]) s := by
  have hbegun (k : RequestKey) : (g ++ [x]).filterMap (begun k) = g.filterMap (begun k) := by
    rw [filterMap_append, filterMap_cons_none (hx k), filterMap_nil,
      append_nil]
  constructor
  · exact hs.ordered
  · intro k
    rw [hbegun]
    exact hs.timely k
  · intro k hk
    rw [hbegun]
    exact hs.fresh k hk
  · exact hs.mirrored
  · intro hpending hresolved
    have hr := hs.running hpending hresolved
    exact { hr with begun := by rw [hbegun]; exact hr.begun }

/-- A step that invokes nothing. -/
theorem invokes_none (hs : Tracked h g s) (hx : ∀ k, called k x = none) :
    Tracked (h ++ [x]) g s := by
  have hcalled (k : RequestKey) : (h ++ [x]).filterMap (called k) = h.filterMap (called k) := by
    rw [filterMap_append, filterMap_cons_none (hx k), filterMap_nil,
      append_nil]
  constructor
  · intro k
    rw [hcalled]
    exact hs.ordered k
  · intro k
    rw [hcalled]
    exact hs.timely k
  · intro k hk
    rw [hcalled]
    exact hs.fresh k hk
  · exact hs.mirrored
  · intro hpending hresolved
    have hr := hs.running hpending hresolved
    refine { hr with actions := by rw [hcalled]; exact hr.actions, enabling := ?_ }
    intro henabling
    obtain ⟨earlier, y, between, call, now, rfl, hy, hawaits, hproven⟩ := hr.enabling henabling
    refine ⟨earlier, y, between ++ [x], call, now, ?_, hy, hawaits, fun hsequence => ?_⟩
    · rw [append_assoc, cons_append]
    · obtain ⟨z, hz, hproof⟩ := hproven hsequence
      exact ⟨z, mem_append_left _ hz, hproof⟩

/-- The transaction ends, or is left unresolved. -/
theorem ended (hs : Tracked h g s) (hended : s.Ended s') : Tracked h g s' where
  ordered := hs.ordered
  timely := hs.timely
  fresh := by rw [hended.records]; exact hs.fresh
  mirrored := hended.mirrored hs.mirrored
  running hpending hresolved := by
    rcases hended.finished with hover | hover
    · rw [hover] at hpending
      cases hpending
    · rw [hover] at hresolved
      cases hresolved

/-- The running transaction invokes an action that its phase allows, in time. -/
theorem calls (hs : Tracked h g s) (hpending : s.pending = true) (hresolved : s.unresolved = false)
    {call : Call} (hmine : called s.transition.request x = some (call, now))
    (hother : ∀ k, s.transition.request ≠ k → called k x = none) (hnow : now ≤ s.deadline)
    (legal : (s.phase.actions ++ [call.action]).Sublist call.action.phase.actions) :
    Tracked (h ++ [x]) g { s with pending := false } ∧
      ((((h ++ [x]).filterMap (called s.transition.request)).map (·.1.action)).Sublist
        call.action.phase.actions) := by
  have hr := hs.running hpending hresolved
  have hcalled : (h ++ [x]).filterMap (called s.transition.request) =
      h.filterMap (called s.transition.request) ++ [(call, now)] := by
    rw [filterMap_append, filterMap_cons_some hmine, filterMap_nil]
  have hothers {k : RequestKey} (hk : s.transition.request ≠ k) :
      (h ++ [x]).filterMap (called k) = h.filterMap (called k) := by
    rw [filterMap_append, filterMap_cons_none (hother k hk), filterMap_nil,
      append_nil]
  have hactions : ((((h ++ [x]).filterMap (called s.transition.request)).map (·.1.action)).Sublist
      call.action.phase.actions) := by
    rw [hcalled, map_append]
    exact (hr.actions.append (.refl _)).trans legal
  refine ⟨⟨?_, ?_, ?_, hs.mirrored, nofun⟩, hactions⟩
  · intro k
    by_cases hk : s.transition.request = k
    · subst hk
      exact hactions.trans call.action.phase.actions_sublist
    · rw [hothers hk]
      exact hs.ordered k
  · intro k
    by_cases hk : s.transition.request = k
    · subst hk
      obtain ⟨t, hbegun, hdeadline⟩ := hr.begun
      intro c hc
      rw [hcalled, mem_append, mem_singleton] at hc
      rcases hc with hc | rfl
      · exact hs.timely _ c hc
      · exact ⟨t, hbegun, by rw [← hdeadline]; exact hnow⟩
    · rw [hothers hk]
      exact hs.timely k
  · intro k hk
    have hne : s.transition.request ≠ k := by
      rintro rfl
      exact hr.recorded hk
    rw [hothers hne]
    exact hs.fresh k hk

/-- What advancing the running transaction does is tracked. -/
theorem advanced (hs : Tracked h g s) (hpending : s.pending = true)
    (hresolved : s.unresolved = false) (hadvanced : s.Advanced now answers s' call)
    (hmine : called s.transition.request x = call.map (·, now))
    (hother : ∀ k, s.transition.request ≠ k → called k x = none) (hnow : now ≤ s.deadline) :
    Tracked (h ++ [x]) g s' := by
  have hquiet (hcall : call = none) : Tracked (h ++ [x]) g s := by
    refine hs.invokes_none fun k => ?_
    by_cases hk : s.transition.request = k
    · rw [← hk, hmine, hcall, Option.map_none]
    · exact hother k hk
  cases hadvanced with
  | same => exact hquiet rfl
  | ended hended => exact (hquiet rfl).ended hended
  | @submitted action cursor result legal listed answered drained =>
    obtain ⟨hcalls, hactions⟩ := hs.calls hpending hresolved hmine hother hnow legal
    have hr := hs.running hpending hresolved
    refine { hcalls with mirrored := hs.mirrored, running := fun _ _ => ?_ }
    have howner : action ≠ .opens → s.sameOwner s.current = true := by
      intro hne
      refine hr.owner.resolve_left ?_
      have hlisted := listed hne
      simp only [Target.lists, Target.owned, decide_eq_true_eq] at hlisted
      exact hlisted.1.1
    refine ⟨hr.window, hr.recorded, hactions, hr.begun, hr.owner, ?_, ?_⟩
    · intro _
      refine hr.unproved fun henabling => ?_
      rw [henabling] at legal
      revert legal
      cases action <;> decide
    · intro henabling
      have haction : action = .enable := by
        revert henabling
        cases action <;> simp [Controller.acting, Action.phase]
      subst haction
      refine ⟨h, x, [], _, now, rfl, hmine, ⟨rfl, rfl, rfl, rfl, ?_, howner nofun⟩, ?_⟩
      · exact (hs.mirrored hresolved).symm
      · intro hproved
        refine absurd (hr.unproved fun henabling => ?_) hproved
        rw [henabling] at legal
        revert legal
        decide
  | @failed _ action cursor legal answered drained hended result =>
    obtain ⟨hcalls, -⟩ := hs.calls hpending hresolved hmine hother hnow legal
    refine hcalls.ended ⟨hended.records, hended.finished, hended.unverified, ?_, ?_⟩
    · exact hended.mirrored
    · exact hended.unresolved

/-- A new transaction is tracked as it begins. -/
theorem accepted (hs : Tracked h g s) {interval : Window} (haccepted : s.Accepted e interval s')
    (hrecords : (s.execute e).1.records = s'.records) :
    Tracked h (g ++ [(s, Event.execute e)]) s' := by
  obtain ⟨hverb, hfresh, ⟨-, hresolved⟩, hexpected, htime, ⟨cursor, -, hinterval⟩, entry, rfl⟩ :=
    haccepted
  have hrecords : (next s (.execute e)).records = s.records.set e.command.request entry := hrecords
  have hbegun : begun e.command.request (s, Event.execute e) = some e.now := by
    refine if_pos ⟨hverb, rfl, hfresh, ?_⟩
    rw [hrecords, Dict.get?_set_self]
    exact Option.some_ne_none _
  have hother {k : RequestKey} (hk : e.command.request ≠ k) :
      (g ++ [(s, Event.execute e)]).filterMap (begun k) = g.filterMap (begun k) := by
    have hnone : begun k (s, Event.execute e) = none := if_neg fun h => hk h.2.1
    rw [filterMap_append, filterMap_cons_none hnone, filterMap_nil,
      append_nil]
  obtain ⟨hnone, hnone'⟩ := hs.fresh _ hfresh
  have hmine : (g ++ [(s, Event.execute e)]).filterMap (begun e.command.request) = [e.now] := by
    rw [filterMap_append, filterMap_cons_some hbegun, filterMap_nil, hnone',
      nil_append]
  constructor
  · exact hs.ordered
  · intro k c hc
    have hne : e.command.request ≠ k := by
      rintro rfl
      rw [hnone] at hc
      cases hc
    rw [hother hne]
    exact hs.timely k c hc
  · intro k hk
    have hne : e.command.request ≠ k := by
      rintro rfl
      rw [Dict.get?_set_self] at hk
      cases hk
    rw [Dict.get?_set_ne _ _ hne] at hk
    rw [hother hne]
    exact hs.fresh k hk
  · exact hs.mirrored
  · intro _ _
    refine ⟨⟨interval, rfl, ?_⟩, ?_, ?_, ⟨e.now, hmine, ?_⟩, .inr ?_, fun _ => rfl, nofun⟩
    · rw [hinterval]
      exact Window.staged_start _ _ _
    · change (s.records.set e.command.request entry).get? e.command.request ≠ none
      rw [Dict.get?_set_self]
      exact Option.some_ne_none _
    · change ((h.filterMap (called e.command.request)).map (·.1.action)).Sublist []
      rw [hnone]
      exact .refl _
    · change (e.now + 45000).toNat = e.now.toNat + 45000
      rw [UInt64.toNat_add]
      exact Nat.mod_eq_of_lt htime
    · simp [Controller.sameOwner, Controller.begin, hexpected]

theorem called_execute :
    called e.transaction (s, Event.execute e) = (s.execute e).2.2.map (·, e.now) := if_pos rfl

theorem called_of_ne {k : RequestKey} (hk : e.transaction ≠ k) :
    called k (s, Event.execute e) = none := if_neg hk

theorem called_of_none (hcall : (s.execute e).2.2 = none) (k : RequestKey) :
    called k (s, Event.execute e) = none := by
  by_cases hk : e.transaction = k
  · rw [← hk, called_execute, hcall, Option.map_none]
  · exact called_of_ne hk

theorem begun_of_records (hrecords : (s.execute e).1.records = s.records) (k : RequestKey) :
    begun k (s, Event.execute e) = none := by
  refine if_neg fun h => h.2.2.2 ?_
  change (s.execute e).1.records.get? k = none
  rw [hrecords]
  exact h.2.2.1

theorem execute (hs : Tracked h h s) :
    Tracked (h ++ [(s, Event.execute e)]) (h ++ [(s, Event.execute e)]) (s.execute e).1 := by
  rcases s.execute_cases e with ⟨hcall, hsame, hrecords⟩ |
    ⟨hverb, hpending, hresolved, hrequest, htime, hrecords, hadvanced⟩ |
    ⟨interval, s₀, haccepted, hadvanced⟩
  · have hquiet := (hs.invokes_none (called_of_none hcall)).begins_none (begun_of_records hrecords)
    rcases hsame with hsame | hfailed
    · rwa [hsame]
    · exact hquiet.ended hfailed.ended
  · have htransaction : e.transaction = s.transition.request := by
      rw [Execution.transaction, hverb]
      exact hrequest
    refine (hs.begins_none (begun_of_records hrecords)).advanced hpending hresolved hadvanced ?_ ?_
      htime
    · rw [← htransaction, called_execute]
    · intro k hk
      rw [← htransaction] at hk
      exact called_of_ne hk
  · have hstart := hs.accepted haccepted hadvanced.records
    obtain ⟨hverb, -, ⟨-, hresolved⟩, -, hearly, -, entry, rfl⟩ := haccepted
    have htransaction : e.transaction = e.command.request := by rw [Execution.transaction, hverb]
    refine hstart.advanced rfl hresolved hadvanced ?_ ?_ ?_
    · change called e.command.request _ = _
      rw [← htransaction, called_execute]
    · intro k hk
      change e.command.request ≠ k at hk
      rw [← htransaction] at hk
      exact called_of_ne hk
    · change e.now.toNat ≤ (e.now + 45000).toNat
      rw [UInt64.toNat_add]
      exact (Nat.le_add_right _ _).trans (Nat.mod_eq_of_lt hearly).ge

theorem window (hs : Tracked h g s) (hpending : s.pending = true)
    (hresolved : s.unresolved = false) : ∃ w, s.evidence = some w := by
  obtain ⟨w, hw, -⟩ := (hs.running hpending hresolved).window
  exact ⟨w, hw⟩

variable {snapshot : NativeSnapshot}

theorem drained_observe {evidence w : Window} {records : Batch}
    (hevidence : s.evidence = some evidence) (hbatch : batch = some records)
    (hconsume : evidence.consume records memory = some (w, completed)) :
    drained (s, Event.observe target snapshot valid batch now memory) = completed := by
  subst hbatch
  simp only [drained, hevidence, hconsume, Option.map_some, Option.getD_some]

/-- An observation is tracked. -/
theorem observed (hs : Tracked h h s)
    (hobserved : s.Observed target snapshot valid batch now memory s') :
    Tracked (h ++ [(s, Event.observe target snapshot valid batch now memory)])
      (h ++ [(s, Event.observe target snapshot valid batch now memory)]) s' := by
  have hquiet := (hs.invokes_none (x := (s, Event.observe target snapshot valid batch now memory))
    fun _ => rfl).begins_none (x := (s, Event.observe target snapshot valid batch now memory))
    fun _ => rfl
  cases hobserved with
  | failed hfailed => exact hquiet.ended hfailed.ended
  | idle quiet shown =>
    exact { hquiet with mirrored := fun _ => shown, running := fun hp hr => absurd ⟨hp, hr⟩ quiet }
  | correlated active shown kept given same consumed hconcluded =>
    cases hconcluded with
    | failed hfailed =>
      exact hquiet.ended (Controller.Failed.ended ⟨hfailed.1, hfailed.2, hfailed.3⟩)
    | verified =>
      exact { hquiet with mirrored := fun _ => shown, running := nofun }
    | kept owner proven =>
      refine { hquiet with mirrored := fun _ => shown, running := fun _ _ => ?_ }
      have hr := hquiet.running active.1 active.2
      obtain ⟨w, hw, hstaged⟩ := hr.window
      obtain rfl := Option.some.inj (hw.symm.trans kept)
      obtain ⟨hstaged, hcomplete⟩ := Window.consume_staged hstaged consumed
      refine ⟨⟨_, rfl, hstaged⟩, hr.recorded, hr.actions, hr.begun, ?_, ?_, ?_⟩
      · cases valid with
        | true => exact .inr (owner rfl)
        | false => exact .inl (congrArg NativeSnapshot.scene shown)
      · intro hphase
        rcases proven with hsame | ⟨henabling, -⟩
        · exact hsame.trans (hr.unproved hphase)
        · exact absurd henabling hphase
      · intro henabling
        obtain ⟨earlier, y, between, call, t, heq, hcalled, hawaits, hproven⟩ :=
          (hs.running active.1 active.2).enabling henabling
        refine ⟨earlier, y, between ++ [_], call, t, by rw [heq, append_assoc]; rfl, hcalled,
          hawaits, fun hsequence => ?_⟩
        rcases proven with hsame | ⟨-, hfound⟩
        · obtain ⟨z, hz, hproof⟩ := hproven (hsame ▸ hsequence)
          exact ⟨z, mem_append_left _ hz, hproof⟩
        · exact ⟨_, mem_append_right _ mem_cons_self,
            hawaits.proven (drained_observe kept given consumed) hcomplete hfound⟩

/-- Every step is tracked. -/
theorem next (hs : Tracked h h s) : Tracked (h ++ [(s, i)]) (h ++ [(s, i)]) (Condemn.next s i) := by
  cases i with
  | observe target snapshot valid batch now memory =>
    obtain ⟨s', hobserve, hobserved⟩ :=
      s.observe_cases target snapshot valid batch now memory hs.window
    have hnext : Condemn.next s (.observe target snapshot valid batch now memory) = s' := by
      simp only [Condemn.next, hobserve, Option.getD_some]
    rw [hnext]
    exact hs.observed hobserved
  | execute e => exact hs.execute

theorem empty : Tracked [] [] {} where
  ordered k := nil_sublist _
  timely k c hc := by cases hc
  fresh k _ := ⟨rfl, rfl⟩
  mirrored _ := rfl
  running := nofun

/-- An action is invoked when nothing is unresolved, and at the drained cursor. -/
theorem invokes {call : Call} (hcall : (s.execute e).2.2 = some call) :
    s.unresolved = false ∧ e.answers.act = some call.cursor ∧
      drainedCursor s e = some call.cursor := by
  have hadvanced {s s' : Controller}
      (h : s.Advanced e.now e.answers s' (some call)) :
      e.answers.act = some call.cursor ∧ s.evidence.map Window.current = some call.cursor := by
    cases h with
    | submitted _ _ _ answered drained => exact ⟨answered, drained⟩
    | failed _ answered drained => exact ⟨answered, drained⟩
  rcases s.execute_cases e with ⟨hnone, -, -⟩ | ⟨hverb, -, hresolved, -, -, -, h⟩ |
    ⟨interval, s₀, haccepted, h⟩
  · rw [hnone] at hcall
    cases hcall
  · rw [hcall] at h
    obtain ⟨hact, hevidence⟩ := hadvanced h
    refine ⟨hresolved, hact, ?_⟩
    rw [drainedCursor, hverb]
    exact hevidence
  · rw [hcall] at h
    obtain ⟨hact, hevidence⟩ := hadvanced h
    obtain ⟨hverb, -, ⟨-, hresolved⟩, -, -, ⟨cursor, hstart, rfl⟩, entry, rfl⟩ := haccepted
    refine ⟨hresolved, hact, ?_⟩
    rw [drainedCursor, hverb]
    exact hstart.trans hevidence

theorem sameOwner_trans {a b : Snapshot} (ha : s.sameOwner a = true) (hb : s.sameOwner b = true) :
    a.scene = b.scene ∧ a.localKey = b.localKey ∧ a.root = b.root ∧ a.manager = b.manager ∧
      a.buildingHud = b.buildingHud ∧ a.building = b.building := by
  simp only [Controller.sameOwner, decide_eq_true_eq] at ha hb
  simp only [ha, hb, and_self]

/-- A transaction that a step verifies has its evidence. -/
theorem verified (hs : Tracked h h s) (hbefore : s.phase ≠ .verified)
    (hafter : (Condemn.next s i).phase = .verified) :
    ∃ call, Verified s.transition.request h (s, i) call := by
  cases i with
  | execute e =>
    refine absurd hafter ?_
    change (s.execute e).1.phase ≠ .verified
    rcases s.execute_cases e with ⟨-, hsame | hfailed, -⟩ | ⟨-, -, -, -, -, -, hadvanced⟩ |
      ⟨interval, s₀, ⟨-, -, -, -, -, -, entry, rfl⟩, hadvanced⟩
    · rwa [hsame]
    · exact hfailed.unverified
    · exact hadvanced.unverified hbefore
    · exact hadvanced.unverified nofun
  | observe target snapshot valid batch now memory =>
    obtain ⟨s', hobserve, hobserved⟩ :=
      s.observe_cases target snapshot valid batch now memory hs.window
    have hnext : Condemn.next s (.observe target snapshot valid batch now memory) = s' := by
      simp only [Condemn.next, hobserve, Option.getD_some]
    rw [hnext] at hafter
    cases hobserved with
    | failed hfailed => exact absurd hafter hfailed.unverified
    | idle => exact absurd hafter hbefore
    | correlated active shown kept given same consumed hconcluded =>
      cases hconcluded with
      | failed hfailed => exact absurd hafter hfailed.unverified
      | kept => exact absurd hafter hbefore
      | @verified sequence tick hvalid owner enabling proven proved enabled list entry =>
        have hr := hs.running active.1 active.2
        obtain ⟨w, hw, hstaged⟩ := hr.window
        obtain rfl := Option.some.inj (hw.symm.trans kept)
        obtain ⟨-, hcomplete⟩ := Window.consume_staged hstaged consumed
        obtain ⟨earlier, x, between, call, t, heq, hcalled, hawaits, hproven⟩ := hr.enabling enabling
        obtain ⟨haction, hsubmitted, -, htarget, hsnapshot, howner⟩ := id hawaits
        refine ⟨call, haction, hsubmitted, ⟨earlier, x, between, t, heq, hcalled, ?_⟩,
          snapshot, batch, now, memory, ?_, ?_, ?_⟩
        · rcases proven with hsame | hfound
          · obtain ⟨z, hz, hproof⟩ := hproven (hsame ▸ proved)
            exact ⟨z, mem_append_left _ hz, hproof⟩
          · exact ⟨_, mem_append_right _ mem_cons_self,
              hawaits.proven (drained_observe kept given consumed) hcomplete hfound⟩
        · rw [htarget, ← same, ← hvalid]
        · rw [if_pos hvalid] at shown
          rw [hsnapshot, ← shown]
          exact ⟨sameOwner_trans owner howner, list, entry⟩
        · rw [if_pos hvalid] at shown
          rw [← shown]
          exact enabled

end Tracked

/-- A controller that is unresolved stays so. -/
theorem unresolved_next {s : Controller} (hs : s.unresolved = true) :
    (next s i).unresolved = true := by
  have hadvanced {s s' : Controller} {now : UInt64} {answers : Answers} {call : Option Call}
      (h : s.Advanced now answers s' call) (hs : s.unresolved = true) : s'.unresolved = true := by
    cases h with
    | same => exact hs
    | ended h => exact h.unresolved hs
    | submitted => exact hs
    | failed _ _ _ h => exact h.unresolved hs
  cases i with
  | observe target snapshot valid batch now memory =>
    obtain ⟨s', hobserve, hobserved⟩ :=
      s.observe_cases target snapshot valid batch now memory fun _ hresolved => by
        rw [hs] at hresolved
        cases hresolved
    have hnext : next s (.observe target snapshot valid batch now memory) = s' := by
      simp only [next, hobserve, Option.getD_some]
    rw [hnext]
    cases hobserved with
    | failed hfailed => exact hfailed.unresolved
    | idle => exact hs
    | correlated active => rw [hs] at active; cases active.2
  | execute e =>
    change (s.execute e).1.unresolved = true
    rcases s.execute_cases e with ⟨-, hsame | hfailed, -⟩ | ⟨-, -, hresolved, -⟩ |
      ⟨interval, s₀, ⟨-, -, ⟨-, hresolved⟩, -⟩, -⟩
    · rwa [hsame]
    · exact hfailed.unresolved
    · rw [hs] at hresolved
      cases hresolved
    · rw [hs] at hresolved
      cases hresolved

/-- The controller is careful in every run. -/
theorem careful (is : List Event) : Careful (met next {} is) := by
  have htracked {earlier later : List Step} {y : Step}
      (hmet : met next {} is = earlier ++ y :: later) : Tracked earlier earlier y.1 :=
    history_of_met (P := fun h s => Tracked h h s) .next hmet .empty
  have hall : Tracked (met next {} is) (met next {} is) (is.foldl next {}) :=
    history_met (P := fun h s => Tracked h h s) .next .empty
  constructor
  · exact hall.ordered
  · exact hall.timely
  · intro s e _ call hcall
    exact Tracked.invokes hcall
  · refine pairwise_met (I := fun _ => True)
      (F := fun (x : Step) (s : Controller) => x.1.unresolved = true → s.unresolved = true)
      (fun _ => trivial)
      (fun _ => unresolved_next) (fun _ hfact h => unresolved_next (hfact h)) (fun _ hfact => hfact)
      trivial
  · intro earlier y later hmet hbefore hafter
    exact (htracked hmet).verified hbefore hafter
  · intro x hx hpending hresolved
    obtain ⟨earlier, later, hmet⟩ := append_of_mem hx
    obtain ⟨w, hw⟩ := (htracked hmet).window hpending hresolved
    rw [hw, Option.isSome_some]
  · intro s target snapshot valid batch now memory hx
    obtain ⟨earlier, later, hmet⟩ := append_of_mem hx
    obtain ⟨s', hobserve, -⟩ :=
      s.observe_cases target snapshot valid batch now memory (htracked hmet).window
    rw [hobserve, Option.isSome_some]

end ShadowbaneLab.Native.Condemn
