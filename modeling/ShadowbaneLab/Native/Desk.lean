/-
# Native controllers

What the controllers of `src/native/wonderbane_extension` that spend or create share: the host,
the outcomes, and the way a request is looked up, refused or put to an invoker and recorded
(`vendor_controller.h`, `vendor_navigation_controller.h`, `guard_upgrade_controller.h`,
`guard_funding_controller.h`).
-/
import Mathlib.Data.Fintype.Basic
import ShadowbaneLab.Foundation.Dict
import ShadowbaneLab.Foundation.Ledger
import ShadowbaneLab.Foundation.Packed

namespace ShadowbaneLab.Native

open Foundation

/-! ## Shared wire types -/

/-- `movement::wire::Host`. -/
structure Host where
  process : UInt32 := 0
  generation : UInt32 := 0
  creation : UInt64 := 0
deriving DecidableEq

/-- `movement::wire::Valid(host)`. -/
def Host.valid (host : Host) : Bool :=
  host.process ≠ 0 ∧ host.process ≤ 0x7fffffff ∧ host.generation ≠ 0 ∧
    host.generation ≤ 0x7fffffff ∧ host.creation ≠ 0

/-- The bytes of a host. -/
def Host.bytes (host : Host) : Bytes :=
  packed [.of32 host.process, .of32 host.generation, .of64 host.creation]

theorem Host.length_bytes (host : Host) : host.bytes.length = 16 := by
  simp [bytes, length_packed]

abbrev RequestKey : Type := Vector UInt8 16

/-- `movement::wire::Zero`. -/
def isZero {n : ℕ} (bytes : Vector UInt8 n) : Bool := bytes.all (· == 0)

theorem isZero_replicate (n : ℕ) : isZero (.replicate n 0 : Vector UInt8 n) = true := by
  simp [isZero]

theorem isZero_replicate_of_ne {n : ℕ} {b : UInt8} (h : b ≠ 0) :
    ¬ isZero (.replicate (n + 1) b : Vector UInt8 (n + 1)) = true := by
  simp [isZero, h]

/-- `UINT64_MAX`. -/
def uint64Max : UInt64 := 0xFFFFFFFFFFFFFFFF

inductive Outcome
  | observed
  | submitted
  | stale
  | unavailable
  | invalid
  | pending
  | uncertain
  | exhausted
deriving DecidableEq

/-- The invoker answers that it did nothing. -/
def Outcome.refused (outcome : Outcome) : Bool := outcome = .stale ∨ outcome = .unavailable

/-- `ready`, `in_flight` and `unresolved` of a receipt's flags. -/
def readyFlag : UInt32 := 1

def inFlightFlag : UInt32 := 2

def unresolvedFlag : UInt32 := 4

/-- The number of an outcome. -/
def Outcome.code : Outcome → UInt32
  | .observed => 0
  | .submitted => 1
  | .stale => 2
  | .unavailable => 3
  | .invalid => 4
  | .pending => 5
  | .uncertain => 6
  | .exhausted => 7

/-- The bytes of a receipt whose reserved bytes are zero. -/
def receiptBytes (request : RequestKey) (host : Host) (window : UInt64) (outcome : Outcome)
    (flags : UInt32) (snapshot : Bytes) (transition : RequestKey) (signature : UInt32)
    (reserved : ℕ) : Bytes :=
  request.toList ++ (host.bytes ++ ((Word.of64 window).bytes ++ ((Word.of32 outcome.code).bytes ++
    ((Word.of32 flags).bytes ++ (snapshot ++ (transition.toList ++
      ((Word.of32 signature).bytes ++ zeros reserved)))))))

/-- Some flags, the first if its condition holds and so on. -/
def flagsOf (flags : List (Bool × UInt32)) : UInt32 :=
  flags.foldl (fun word flag => if flag.1 then word ||| flag.2 else word) 0

/-! ## Executions -/

/-- The arguments of `Execute`, with what its invoker would answer and whether a record can be
allocated. -/
structure Execution (Verb Command : Type) where
  verb : Verb
  command : Command
  live : Bool
  ready : Bool
  now : UInt64
  answer : Outcome
  memory : Bool := true

/-- A controller that keeps a record of each request it put to its invoker: an observation `ο`
changes what it knows, an execution returns a receipt and whether the invoker was called. -/
structure Desk (σ ο Verb Command Receipt Entry : Type) where
  observe : σ → ο → σ
  execute : σ → Execution Verb Command → σ × Receipt × Bool
  records : σ → Dict RequestKey Entry
  pending : σ → Bool
  unresolved : σ → Bool
  request : Command → RequestKey
  valid : Verb → Command → Bool
  inspects : Verb → Bool
  content : Entry → Verb × Command
  receipt : Entry → Receipt
  outcome : Receipt → Outcome
  /-- The answers after which nothing is pending. -/
  settled : Outcome → Bool

inductive Input (ο Verb Command : Type)
  | observe (observation : ο)
  | execute (execution : Execution Verb Command)

namespace Desk

variable {σ ο Verb Command Receipt Entry : Type} (D : Desk σ ο Verb Command Receipt Entry)

/-- An execution leaves the records alone and calls nobody. -/
structure Quiet (s s' : σ) : Prop where
  records : D.records s' = D.records s
  pending : D.pending s' = D.pending s
  unresolved : D.unresolved s = true → D.unresolved s' = true

/-- An execution records its request: it was new and valid, nothing was pending, and a call's
answer is the outcome. -/
structure Submitted (s : σ) (e : Execution Verb Command) (s' : σ) (receipt : Receipt)
    (called : Bool) : Prop where
  valid : D.valid e.verb e.command = true
  live : e.live = true
  inspects : D.inspects e.verb = false
  fresh : (D.records s).get? (D.request e.command) = none
  pending : D.pending s = false
  unresolved : D.unresolved s = false
  records : ∃ entry, D.records s' = (D.records s).set (D.request e.command) entry ∧
    D.content entry = (e.verb, e.command) ∧ D.receipt entry = receipt
  outcome : called = true → D.outcome receipt = e.answer
  waits : called = true → D.settled e.answer = false →
    D.pending s' = true ∨ D.unresolved s' = true

/-- What the controllers have in common. -/
structure Lawful : Prop where
  observe_records : ∀ s o, D.records (D.observe s o) = D.records s
  observe_unresolved : ∀ s o, D.unresolved s = true → D.unresolved (D.observe s o) = true
  execute_cases : ∀ s e,
    (D.Quiet s (D.execute s e).1 ∧ (D.execute s e).2.2 = false) ∨
      D.Submitted s e (D.execute s e).1 (D.execute s e).2.1 (D.execute s e).2.2
  /-- A live request with a recorded key is answered with the recorded receipt if it is the same
  and rejected if it is another. -/
  execute_known : ∀ s e entry, (D.records s).get? (D.request e.command) = some entry →
    D.valid (D.content entry).1 (D.content entry).2 = true → e.live = true →
    D.inspects e.verb = false → (D.execute s e).2.2 = false ∧
      (D.content entry = (e.verb, e.command) → (D.execute s e).2.1 = D.receipt entry) ∧
      (D.content entry ≠ (e.verb, e.command) → D.outcome (D.execute s e).2.1 = .invalid)

variable {D} in
/-- An execution that leaves the controller as it is or submits keeps the law of executions. -/
theorem cases_of_eq {s : σ} {e : Execution Verb Command} {x y : σ × Receipt × Bool} {p q r : Prop}
    (h : (x.1 = s ∧ x.2.2 = false) ∨ p ∧ q ∧ r ∧ x = y)
    (hy : p → q → r → D.Submitted s e y.1 y.2.1 y.2.2) :
    (D.Quiet s x.1 ∧ x.2.2 = false) ∨ D.Submitted s e x.1 x.2.1 x.2.2 := by
  rcases h with ⟨hsame, hquiet⟩ | ⟨hp, hq, hr, rfl⟩
  · exact Or.inl ⟨hsame.symm ▸ ⟨rfl, rfl, id⟩, hquiet⟩
  · exact Or.inr (hy hp hq hr)

variable {D} in
/-- An answer from the records keeps the law of recorded requests. -/
theorem known_of_eq {s : σ} {x : σ × Receipt × Bool} {verb verb' : Verb} {c c' : Command}
    [Decidable (verb = verb' ∧ c = c')] {kept rejection : Receipt}
    (h : x = (s, if verb = verb' ∧ c = c' then kept else rejection, false))
    (hrejection : D.outcome rejection = .invalid) :
    x.2.2 = false ∧ ((verb, c) = (verb', c') → x.2.1 = kept) ∧
      ((verb, c) ≠ (verb', c') → D.outcome x.2.1 = .invalid) := by
  rw [h, ne_eq, Prod.mk.injEq]
  refine ⟨rfl, fun hsame => if_pos hsame, fun hother => ?_⟩
  rw [if_neg hother]
  exact hrejection

/-- The controller as a ledger; a request is a live execution of a verb that does not inspect. -/
def ledger : Ledger σ (Input ο Verb Command) RequestKey (Verb × Command) Receipt Outcome where
  next s
    | .observe o => D.observe s o
    | .execute e => (D.execute s e).1
  request
    | .observe _ => none
    | .execute e =>
      if e.live ∧ D.inspects e.verb = false then some (D.request e.command, e.verb, e.command)
      else none
  answer
    | .observe _ => none
    | .execute e => some e.answer
  calls s
    | .observe _ => false
    | .execute e => (D.execute s e).2.2
  reply s
    | .observe _ => none
    | .execute e => some (D.execute s e).2.1
  outcome := D.outcome
  record s k := ((D.records s).get? k).map fun entry => (D.content entry, D.receipt entry)
  pending := D.pending
  unresolved := D.unresolved
  reused := .invalid
  settled := D.settled

/-- Every record is of a valid request under its own key. -/
def Recorded (s : σ) : Prop :=
  ∀ k entry, (D.records s).get? k = some entry → D.request (D.content entry).2 = k ∧
    D.valid (D.content entry).1 (D.content entry).2 = true ∧
    D.inspects (D.content entry).1 = false

variable {D}

variable {i : Input ο Verb Command} {k : RequestKey}

variable {b : Verb × Command}

theorem request_eq_some :
    D.ledger.request i = some (k, b) ↔ ∃ e, i = .execute e ∧ e.live = true ∧
      D.inspects e.verb = false ∧ D.request e.command = k ∧ (e.verb, e.command) = b := by
  cases i with
  | observe o => simp [ledger]
  | execute e => simp [ledger, and_assoc]

variable {s : σ}

theorem record_eq_some {r : Receipt} :
    D.ledger.record s k = some (b, r) ↔
      ∃ entry, (D.records s).get? k = some entry ∧ D.content entry = b ∧ D.receipt entry = r := by
  simp [ledger]

theorem record_eq_none : D.ledger.record s k = none ↔ (D.records s).get? k = none := by
  simp [ledger]

/-- What an execution that records its request does to the records. -/
theorem Submitted.get? {s s' : σ} {e : Execution Verb Command} {receipt : Receipt} {called : Bool}
    (h : D.Submitted s e s' receipt called) : ∃ entry, D.content entry = (e.verb, e.command) ∧
      D.receipt entry = receipt ∧ (D.records s').get? (D.request e.command) = some entry ∧
      ∀ k, k ≠ D.request e.command → (D.records s').get? k = (D.records s).get? k := by
  obtain ⟨entry, hrecords, hcontent, hreceipt⟩ := h.records
  refine ⟨entry, hcontent, hreceipt, ?_, ?_⟩
  · rw [hrecords, Dict.get?_set_self]
  · intro k hk
    rw [hrecords, Dict.get?_set_ne _ _ hk.symm]

variable {entry : Entry}

/-- A record after a step was there before, or the step submitted its request. -/
theorem Lawful.records_next (lawful : D.Lawful)
    (h : (D.records (D.ledger.next s i)).get? k = some entry) :
    (D.records s).get? k = some entry ∨ ∃ e, i = .execute e ∧ k = D.request e.command ∧
      D.content entry = (e.verb, e.command) ∧ D.receipt entry = (D.execute s e).2.1 ∧
      D.Submitted s e (D.execute s e).1 (D.execute s e).2.1 (D.execute s e).2.2 := by
  cases i with
  | observe o =>
    left
    exact lawful.observe_records s o ▸ h
  | execute e =>
    rcases lawful.execute_cases s e with ⟨hquiet, -⟩ | hsubmitted
    · left
      exact hquiet.records ▸ h
    · obtain ⟨entry', hcontent, hreceipt, hself, hother⟩ := hsubmitted.get?
      change (D.records (D.execute s e).1).get? k = some entry at h
      by_cases hk : k = D.request e.command
      · subst hk
        rw [hself, Option.some.injEq] at h
        subst h
        exact Or.inr ⟨e, rfl, rfl, hcontent, hreceipt, hsubmitted⟩
      · left
        rwa [hother k hk] at h

theorem Lawful.get?_next (lawful : D.Lawful) (i : Input ο Verb Command)
    (h : (D.records s).get? k = some entry) :
    (D.records (D.ledger.next s i)).get? k = some entry := by
  cases i with
  | observe o => exact (lawful.observe_records s o).symm ▸ h
  | execute e =>
    rcases lawful.execute_cases s e with ⟨hquiet, -⟩ | hsubmitted
    · exact hquiet.records.symm ▸ h
    · obtain ⟨-, -, -, -, hother⟩ := hsubmitted.get?
      change (D.records (D.execute s e).1).get? k = some entry
      rw [hother k, h]
      rintro rfl
      rw [hsubmitted.fresh] at h
      cases h

/-- An execution that calls records its request. -/
theorem Lawful.submitted_of_calls (lawful : D.Lawful) (h : D.ledger.calls s i = true) :
    ∃ e, i = .execute e ∧
      D.Submitted s e (D.execute s e).1 (D.execute s e).2.1 (D.execute s e).2.2 := by
  cases i with
  | observe o => cases h
  | execute e =>
    refine ⟨e, rfl, ?_⟩
    rcases lawful.execute_cases s e with ⟨-, hquiet⟩ | hsubmitted
    · exact absurd (hquiet.symm.trans h) Bool.false_ne_true
    · exact hsubmitted

/-- The controllers obey the laws of a ledger. -/
theorem Lawful.ledger (lawful : D.Lawful) : D.ledger.Lawful D.Recorded where
  inv_next {s i} hs k entry h := by
    rcases lawful.records_next h with hold | ⟨e, rfl, rfl, hcontent, -, hsubmitted⟩
    · exact hs k entry hold
    · rw [hcontent]
      exact ⟨rfl, hsubmitted.valid, hsubmitted.inspects⟩
  record_next {s i k r} hs h := by
    obtain ⟨b, r⟩ := r
    obtain ⟨entry, hentry, rfl, rfl⟩ := record_eq_some.1 h
    exact record_eq_some.2 ⟨entry, lawful.get?_next i hentry, rfl, rfl⟩
  reply_of_records {s i k b r} hs h := by
    obtain ⟨entry, hentry, -, rfl⟩ := record_eq_some.1 h.2.2
    rcases lawful.records_next hentry with hold | ⟨e, rfl, -, -, hreceipt, -⟩
    · rw [record_eq_none.1 h.2.1] at hold
      cases hold
    · exact congrArg some hreceipt.symm
  known {s i k b b' r} hs hrequest hrecord := by
    obtain ⟨e, rfl, hlive, hverb, rfl, rfl⟩ := request_eq_some.1 hrequest
    obtain ⟨entry, hentry, rfl, rfl⟩ := record_eq_some.1 hrecord
    obtain ⟨hquiet, hsame, hother⟩ :=
      lawful.execute_known s e entry hentry (hs _ _ hentry).2.1 hlive hverb
    exact ⟨hquiet, fun h => congrArg some (hsame h.symm), fun h => ⟨_, rfl, hother (Ne.symm h)⟩⟩
  calls_idle {s i} hs h := by
    obtain ⟨e, rfl, hsubmitted⟩ := lawful.submitted_of_calls h
    exact ⟨hsubmitted.pending, hsubmitted.unresolved⟩
  calls_records {s i} hs h := by
    obtain ⟨e, rfl, hsubmitted⟩ := lawful.submitted_of_calls h
    obtain ⟨entry, hcontent, hreceipt, hself, -⟩ := hsubmitted.get?
    exact ⟨_, _, _, request_eq_some.2 ⟨e, rfl, hsubmitted.live, hsubmitted.inspects, rfl, rfl⟩,
      record_eq_none.2 hsubmitted.fresh, record_eq_some.2 ⟨entry, hself, hcontent, hreceipt⟩⟩
  calls_answer {s i} hs h := by
    obtain ⟨e, rfl, hsubmitted⟩ := lawful.submitted_of_calls h
    exact ⟨_, rfl, congrArg some (hsubmitted.outcome h).symm⟩
  calls_open {s i a} hs h hanswer hopen := by
    obtain ⟨e, rfl, hsubmitted⟩ := lawful.submitted_of_calls h
    cases hanswer
    exact hsubmitted.waits h hopen
  pending_ends {s i} hs h hends := by
    cases i with
    | observe o => rfl
    | execute e =>
      rcases lawful.execute_cases s e with ⟨hquiet, -⟩ | hsubmitted
      · exact absurd ((hquiet.pending.trans h).symm.trans hends) (by simp)
      · exact absurd (hsubmitted.pending.symm.trans h) (by simp)
  unresolved_next {s i} hs h := by
    cases i with
    | observe o => exact lawful.observe_unresolved s o h
    | execute e =>
      rcases lawful.execute_cases s e with ⟨hquiet, -⟩ | hsubmitted
      · exact hquiet.unresolved h
      · exact absurd (hsubmitted.unresolved.symm.trans h) (by simp)

/-- A controller without records calls its invoker at most once for each request, in every run. -/
theorem Lawful.atMostOnce (lawful : D.Lawful) (hs : ∀ k, (D.records s).get? k = none)
    (is : List (Input ο Verb Command)) : D.ledger.AtMostOnce s is :=
  lawful.ledger.atMostOnce fun k entry h => by
    rw [hs k] at h
    cases h

end Desk

end ShadowbaneLab.Native
