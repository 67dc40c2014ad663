/-
# Completed funding and the spending journal

A transfer or an opened quote that the native controller takes as done, against the command's own
test of `guard_funding_wire.py`, which `guard_spending_journal.py` asks before it releases the
intent.
-/
import ShadowbaneLab.Client.SpendingJournal
import ShadowbaneLab.Journal.Words
import ShadowbaneLab.Native.GuardFunding

namespace ShadowbaneLab.Native.GuardFunding

open Foundation

/-! ## Payloads -/

/-- A snapshot as the client reads it. -/
def Snapshot.read (s : Snapshot) : GuardFundingWire.Snapshot where
  scene := unpacked64 s.scene
  revision := unpacked64 s.revision
  root := unpacked32 s.root
  actor := unpacked32 s.actor
  characterId := unpacked32 s.character.1
  characterType := unpacked32 s.character.2
  manager := unpacked32 s.manager
  hud := unpacked32 s.hud
  sourceObject := unpacked32 s.sourceObject
  sourceId := unpacked32 s.source.1
  sourceType := unpacked32 s.source.2
  direction := unpacked32 s.direction
  resource := unpacked32 s.resource
  balance := unpacked32 s.balance
  reserve := unpacked32 s.reserve
  purse := unpacked32 s.purse
  quote := unpacked32 s.quote
  limit := unpacked32 s.limit
  entered := unpacked32 s.entered
  accept := unpacked32 s.accept
  cancel := unpacked32 s.cancel
  helper := unpacked32 s.helper

/-- A command as the client reads it. -/
def Command.read (c : Command) : GuardFundingWire.Command where
  host := c.host.read
  window := unpacked64 c.window
  requestKey := uuidText c.request.toList
  expected := c.expected.read
  direction := unpacked32 c.direction
  amount := unpacked32 c.amount

/-- The verb of the same number. -/
def Verb.read : Verb → GuardFundingWire.Verb
  | .inspect => .inspect
  | .transfer => .transfer
  | .openQuote => .openQuote

variable {direction : UInt32}

namespace Snapshot

variable {s : Snapshot}

theorem pack_read (s : Snapshot) :
    GuardFundingWire.snapshotLayout.pack s.read.values = some s.bytes :=
  Format.pack_packed s.words

/-- What the client reads from the bytes of a snapshot is that snapshot. -/
theorem read_of_decode {state : GuardFundingWire.Snapshot}
    (h : GuardFundingWire.Snapshot.decode s.bytes = some state) : state = s.read := by
  have hpack := GuardFundingWire.Snapshot.pack_of_encode (GuardFundingWire.Snapshot.decode_iff.1 h)
  have hvalues := GuardFundingWire.snapshotLayout.pack_injective hpack s.pack_read
  exact Option.some.inj ((GuardFundingWire.Snapshot.ofValues_iff.2 hvalues).symm.trans
    (GuardFundingWire.Snapshot.ofValues_iff.2 rfl))

theorem checked_read (s : Snapshot) : s.read.checked = true := by
  simp [GuardFundingWire.Snapshot.checked, GuardFundingWire.Snapshot.values, read]

theorem directed_read : unpacked32 direction = 1 ↔ direction = 1 :=
  unpacked32_inj (y := 1)

/-- The balance above the reserve, as the client computes it. -/
theorem available_read (h : s.valid = true) :
    unpacked32 s.available = max 0 (s.read.balance - s.read.reserve) := by
  have havailable := (unwrapped_of_valid h).2.2
  change (s.available.toNat : Int) = max 0 ((s.balance.toNat : Int) - s.reserve.toNat)
  omega

/-- The client refuses no snapshot that the controller takes as valid. -/
theorem not_invalid_read (h : s.valid = true) : s.read.invalid = false := by
  have havailable := available_read h
  simp only [valid, decide_eq_true_eq] at h
  obtain ⟨⟨hscene, hrevision, hroot, hactor, hcharacter, hcharacter', hmanager, hhud, hsource,
    hdirection, hbalance, hreserve, hpurse⟩, hsides, hquote⟩ := h
  rw [GuardFundingWire.Snapshot.invalid, decide_eq_false_iff_not]
  simp only [not_or]
  refine ⟨⟨?_, ?_, ?_, ?_, ?_, ?_, ?_, ?_, ?_⟩, ?_, ?_, ?_, ?_⟩
  · exact mt unpacked64_eq_zero.1 hscene
  · exact mt unpacked64_eq_zero.1 hrevision
  · exact mt unpacked32_eq_zero.1 hroot
  · exact mt unpacked32_eq_zero.1 hactor
  · exact mt unpacked32_eq_zero.1 hcharacter
  · exact mt unpacked32_eq_zero.1 hcharacter'
  · exact mt unpacked32_eq_zero.1 hmanager
  · exact mt unpacked32_eq_zero.1 hhud
  · exact mt unpacked32_eq_zero.1 hsource
  · rw [directionValid, decide_eq_true_iff] at hdirection
    exact fun hnone => hdirection.elim (mt directed_read.2 hnone.1)
      (mt (unpacked32_inj (y := 2)).2 hnone.2)
  · have hbalance : s.read.balance ≤ 2147483647 := (unpacked32_le (y := int32Max)).2 hbalance
    have hreserve : s.read.reserve ≤ 2147483647 := (unpacked32_le (y := int32Max)).2 hreserve
    have hpurse : s.read.purse ≤ 2147483647 := (unpacked32_le (y := int32Max)).2 hpurse
    omega
  · have hdirected : s.read.direction = 1 ↔ s.direction = 1 := directed_read
    by_cases hone : s.direction = 1
    · rw [if_pos hone] at hsides
      rw [if_pos (hdirected.2 hone)]
      simp only [not_or, not_not]
      exact ⟨mt unpacked32_eq_zero.1 hsides.1, (unpacked32_inj (y := 42)).2 hsides.2.1,
        mt unpacked32_eq_zero.1 hsides.2.2⟩
    · rw [if_neg hone] at hsides
      rw [if_neg (mt hdirected.1 hone)]
      simp only [not_or, not_not]
      exact ⟨unpacked32_eq_zero.2 hsides.1, (unpacked32_inj (y := 8)).2 hsides.2.1,
        unpacked32_eq_zero.2 hsides.2.2.1, unpacked32_eq_zero.2 hsides.2.2.2⟩
  · have hnone : s.read.quote = 0 ↔ s.quote = 0 := unpacked32_eq_zero
    by_cases hzero : s.quote = 0
    · rw [if_pos hzero] at hquote
      rw [if_pos (hnone.2 hzero)]
      simp only [not_or, not_not]
      exact ⟨unpacked32_eq_zero.2 hquote.1, unpacked32_eq_zero.2 hquote.2.1,
        unpacked32_eq_zero.2 hquote.2.2.1, unpacked32_eq_zero.2 hquote.2.2.2.1,
        unpacked32_eq_zero.2 hquote.2.2.2.2⟩
    · rw [if_neg hzero] at hquote
      rw [if_neg (mt hnone.1 hzero)]
      obtain ⟨⟨hother, haccept, hcancel, hhelper, hac, hah, hch, hlimit, hentered⟩, hbound⟩ := hquote
      simp only [not_or, not_not]
      refine ⟨mt unpacked32_inj.1 hother, ⟨mt unpacked32_eq_zero.1 haccept,
        mt unpacked32_eq_zero.1 hcancel, mt unpacked32_eq_zero.1 hhelper⟩,
        ⟨mt unpacked32_inj.1 hac, mt unpacked32_inj.1 hah, mt unpacked32_inj.1 hch⟩,
        Int.not_lt.2 ((unpacked32_le (y := int32Max)).2 hlimit),
        Int.not_lt.2 (unpacked32_le.2 hentered), ?_⟩
      have hdirected : s.read.direction = 1 ↔ s.direction = 1 := directed_read
      change unpacked32 s.limit = _
      by_cases hone : s.direction = 1
      · rw [if_pos hone] at hbound
        rw [if_pos (hdirected.2 hone), hbound, havailable]
      · rw [if_neg hone] at hbound
        rw [if_neg (mt hdirected.1 hone), hbound]
        rfl

theorem not_empty_read (h : s.valid = true) : s.read.empty = false := by
  simp only [valid, decide_eq_true_eq] at h
  rw [GuardFundingWire.Snapshot.empty, decide_eq_false_iff_not]
  intro hempty
  exact h.1.1 (unpacked64_eq_zero.1 (congrArg GuardFundingWire.Snapshot.scene hempty))

theorem encode_read (h : s.valid = true) : s.read.encode = some s.bytes := by
  rw [GuardFundingWire.Snapshot.encode, if_neg (by simp [checked_read]),
    if_neg (by simp [not_empty_read h]), if_neg (by simp [not_invalid_read h]), pack_read]

theorem decode_bytes (h : s.valid = true) :
    GuardFundingWire.Snapshot.decode s.bytes = some s.read :=
  GuardFundingWire.Snapshot.decode_iff.2 (encode_read h)

theorem sameOwner_read {a b : Snapshot} (h : a.sameOwner b = true) :
    a.read.sameOwner b.read = true := by
  simp only [sameOwner, decide_eq_true_eq] at h
  obtain ⟨hscene, hroot, hactor, hcharacter, hmanager, hhud, hobject, hsource, hdirection,
    hresource⟩ := h
  simp [GuardFundingWire.Snapshot.sameOwner, read, hscene, hroot, hactor, hcharacter, hmanager,
    hhud, hobject, hsource, hdirection, hresource]

end Snapshot

variable {c : Command} {command : GuardFundingWire.Command}

variable {verb : GuardFundingWire.Verb}

/-- What the client reads from the bytes of a command is that command. -/
theorem Command.read_of_decode (h : GuardFundingWire.Command.decode c.bytes verb = some command) :
    command = c.read := by
  have hunpack : GuardFundingWire.commandLayout.unpack c.bytes = some (c.host.bytes,
      unpacked64 c.window, c.request.toList, c.expected.bytes, unpacked32 c.direction,
      unpacked32 c.amount, c.reserved.toList) := by
    rw [← GuardFundingWire.commandLayout.pack_iff]
    refine Format.pack_pair (Format.pack_raw c.host.length_bytes) ?_
    refine Format.pack_pair (Format.pack_word (.of64 c.window)) ?_
    refine Format.pack_pair (Format.pack_raw c.request.length_toList) ?_
    refine Format.pack_pair (Format.pack_raw c.expected.length_bytes) ?_
    refine Format.pack_pair (Format.pack_word (.of32 c.direction)) ?_
    refine Format.pack_pair (Format.pack_word (.of32 c.amount)) ?_
    exact Format.pack_raw c.reserved.length_toList
  simp only [GuardFundingWire.Command.decode, hunpack, Option.bind_eq_bind, Option.bind_some,
    Option.ite_none_left_eq_some, Option.bind_eq_some_iff, Option.pure_def] at h
  obtain ⟨-, -, host, hhost, expected, hexpected, -, h⟩ := h
  cases h
  rw [Command.read, Snapshot.read_of_decode hexpected, Host.read_of_decode hhost]

/-- The key of a command that the client accepts is set. -/
theorem Command.request_of_decode (h : GuardFundingWire.Command.decode c.bytes verb = some command) :
    VendorWire.decodedRequest c.request.toList = some command.requestKey := by
  have hread := Command.read_of_decode h
  have hencode := GuardFundingWire.Command.decode_iff.1 h
  simp only [GuardFundingWire.Command.encode, Option.bind_eq_bind, Option.ite_none_left_eq_some,
    Option.bind_eq_some_iff] at hencode
  obtain ⟨-, -, -, -, -, -, -, -, -, -, -, -, -, request, hrequest, -⟩ := hencode
  rw [hread] at hrequest ⊢
  exact decodedRequest_of_requestBytes hrequest

/-! ## Completions -/

variable {snapshot : Snapshot}

namespace Controller

variable {s : Controller}

/-- The page shows what the pending request was for. -/
def Done (s : Controller) (snapshot : Snapshot) : Prop :=
  if s.transitionVerb = .openQuote then s.transition.opened snapshot = true
  else s.transition.confirmed snapshot = true

/-- A request is completed by a snapshot of its direction that shows it done. -/
theorem correlate_completes {valid : Bool} {now : UInt64} (hpending : s.pending = true)
    (hcleared : (s.correlate direction snapshot valid now).pending = false) :
    s.correlate direction snapshot valid now = { s with pending := false } ∧
      s.needsObservation direction = true ∧ valid = true ∧ s.Done snapshot := by
  have hkept {p : Prop} (h : s.pending = false) : p :=
    absurd (hpending.symm.trans h) (by simp)
  unfold correlate at hcleared ⊢
  dsimp only at hcleared ⊢
  split at hcleared
  case isTrue => exact hkept hcleared
  case isFalse hneeds =>
    rw [if_neg hneeds]
    rw [not_not] at hneeds
    split at hcleared
    case isTrue => exact hkept hcleared
    case isFalse howner =>
      rw [if_neg howner]
      split at hcleared
      case isTrue => exact hkept hcleared
      case isFalse hvalid =>
        rw [if_neg hvalid]
        rw [not_not] at hvalid
        rw [Done]
        split at hcleared
        case isTrue hquote =>
          rw [if_pos hquote]
          split at hcleared
          case isTrue => exact hkept hcleared
          case isFalse hbounds =>
            rw [if_neg hbounds, if_pos hquote]
            split at hcleared
            case isTrue hopened =>
              rw [if_pos hopened]
              exact ⟨rfl, hneeds, hvalid, hopened⟩
            case isFalse => exact hkept hcleared
        case isFalse hquote =>
          rw [if_neg hquote]
          split at hcleared
          case isTrue => exact hkept hcleared
          case isFalse hbounds =>
            rw [if_neg hbounds, if_neg hquote]
            split at hcleared
            case isTrue hconfirmed =>
              rw [if_pos hconfirmed]
              exact ⟨rfl, hneeds, hvalid, hconfirmed⟩
            case isFalse => exact hkept hcleared

theorem current_setCurrent (direction : UInt32) (snapshot : Snapshot) :
    (s.setCurrent direction snapshot).current direction = snapshot := by
  unfold setCurrent current
  split_ifs <;> rfl

/-- The controller with another current snapshot for a direction. -/
structure Shows (s t : Controller) (direction : UInt32) (current : Snapshot) : Prop where
  pending : t.pending = s.pending
  unresolved : t.unresolved = s.unresolved
  transition : t.transition = s.transition
  transitionVerb : t.transitionVerb = s.transitionVerb
  current : t.current direction = current

theorem shows_setCurrent (direction : UInt32) (current : Snapshot) :
    Shows s (s.setCurrent direction current) direction current := by
  refine ⟨?_, ?_, ?_, ?_, current_setCurrent direction current⟩ <;>
  · unfold setCurrent
    split <;> rfl

/-- An observation does nothing, ends the numbering of snapshots, or is correlated as the current
one of its direction. -/
theorem observe_cases (direction : UInt32) (snapshot : Snapshot) (valid : Bool) (now : UInt64) :
    s.observe direction snapshot valid now = s ∨
    s.observe direction snapshot valid now = { s.setCurrent direction {} with unresolved := true } ∨
    ∃ (t : Controller) (current observed : Snapshot),
      s.observe direction snapshot valid now = t.correlate direction observed valid now ∧
      Shows s t direction current ∧
      (valid = true → observed.direction = direction → current = observed) := by
  unfold observe
  dsimp only
  split
  case isTrue => exact .inl rfl
  case isFalse =>
    split
    case isTrue => exact .inr (.inr ⟨_, _, _, rfl, shows_setCurrent _ _, fun _ h => if_pos h⟩)
    case isFalse =>
      split
      case isTrue => exact .inr (.inl rfl)
      case isFalse =>
        obtain ⟨hpending, hunresolved, htransition, hverb, hcurrent⟩ := shows_setCurrent
          (s := s) direction _
        exact .inr (.inr ⟨_, _, _, rfl, ⟨hpending, hunresolved, htransition, hverb, hcurrent⟩,
          fun hvalid h => if_pos ⟨hvalid, h⟩⟩)

theorem sameOwner_of_done (h : s.Done snapshot) :
    snapshot.valid = true ∧ s.transition.expected.sameOwner snapshot = true := by
  rw [Done] at h
  split at h
  case isTrue =>
    simp only [Command.opened, decide_eq_true_eq] at h
    exact ⟨h.1, h.2.1⟩
  case isFalse =>
    simp only [Command.confirmed, decide_eq_true_eq] at h
    exact ⟨h.1, h.2.1⟩

theorem done_of_eq {t : Controller} (hverb : t.transitionVerb = s.transitionVerb)
    (htransition : t.transition = s.transition) (h : t.Done snapshot) : s.Done snapshot := by
  rwa [Done, hverb, htransition] at h

/-- What is observed is the current snapshot that shows the request done. -/
theorem observe_completes {valid : Bool} {now : UInt64}
    (hfunded : s.transition.direction = s.transition.expected.direction)
    (hpending : s.pending = true)
    (hcleared : (s.observe direction snapshot valid now).pending = false) :
    ((s.observe direction snapshot valid now).unresolved = false ∧
      (s.observe direction snapshot valid now).transition = s.transition) ∧
      s.Done ((s.observe direction snapshot valid now).current s.transition.direction) := by
  rcases s.observe_cases direction snapshot valid now with
    h | h | ⟨t, current, observed, h, hshows, hcurrent⟩
  · rw [h] at hcleared
    exact absurd (hpending.symm.trans hcleared) (by simp)
  · rw [h] at hcleared
    have hset := (shows_setCurrent (s := s) direction {}).pending.trans hpending
    exact absurd (hset.symm.trans hcleared) (by simp)
  · rw [h] at hcleared ⊢
    obtain ⟨heq, hneeds, hvalid, hdone⟩ :=
      correlate_completes (hshows.pending.trans hpending) hcleared
    have hdone := done_of_eq hshows.transitionVerb hshows.transition hdone
    simp only [needsObservation, decide_eq_true_eq] at hneeds
    obtain ⟨-, hunresolved, hdirection⟩ := hneeds
    rw [hshows.transition] at hdirection
    have hdirected : observed.direction = direction := by
      have howner := (sameOwner_of_done hdone).2
      simp only [Snapshot.sameOwner, decide_eq_true_eq] at howner
      obtain ⟨-, -, -, -, -, -, -, -, hside, -⟩ := howner
      rw [← hside, ← hfunded, hdirection]
    obtain rfl := hcurrent hvalid hdirected
    rw [heq, hdirection]
    refine ⟨⟨Bool.eq_false_of_not_eq_true hunresolved, hshows.transition⟩, ?_⟩
    have hshown : ({ t with pending := false } : Controller).current direction = current :=
      hshows.current
    exact hshown.symm ▸ hdone

end Controller

variable {e : Execution Verb Command}

variable {s : Controller}

namespace Controller

theorem execute_submits (hvalid : e.command.valid e.verb = true) (hlive : e.live = true)
    (hverb : e.verb ≠ .inspect) (hnew : s.records.get? e.command.request = none)
    (hrefusal : s.refusal e = none) : s.execute e = s.submit e := by
  unfold execute
  simp only [hvalid, hlive, hverb, hnew, hrefusal, not_true_eq_false, if_false]

end Controller

/-! ## Receipts -/

/-- The quote that was opened, as the client looks for it. -/
theorem opened_read (hcommand : GuardFundingWire.Command.decode c.bytes .openQuote = some command)
    (hopened : c.opened snapshot = true) : command.opened snapshot.read = some true := by
  have hencode := GuardFundingWire.Command.decode_iff.1 hcommand
  have hexpected := congrArg GuardFundingWire.Command.expected (Command.read_of_decode hcommand)
  simp only [Command.opened, decide_eq_true_eq] at hopened
  obtain ⟨hvalid, howner, hquote, hbalance, hpurse, hreserve⟩ := hopened
  rw [GuardFundingWire.Command.opened, hencode, Snapshot.encode_read hvalid, hexpected]
  exact congrArg some (decide_eq_true ⟨by simp [Snapshot.not_empty_read hvalid],
    Snapshot.sameOwner_read howner, mt unpacked32_eq_zero.1 hquote,
    congrArg unpacked32 hbalance, congrArg unpacked32 hpurse, congrArg unpacked32 hreserve⟩)

/-- The balances after the transfer, as the client computes them. -/
theorem transferred_read (hunwrapped : c.Unwrapped)
    (hbalance : snapshot.balance = c.balanceAfter c.direction)
    (hpurse : snapshot.purse = c.purseAfter c.direction) :
    let delta := if c.read.direction = 1 then -c.read.amount else c.read.amount
    snapshot.read.balance = c.read.expected.balance + delta ∧
      snapshot.read.purse = c.read.expected.purse - delta := by
  have hdirected : c.read.direction = 1 ↔ c.direction = 1 := Snapshot.directed_read
  change (snapshot.balance.toNat : Int) = (c.expected.balance.toNat : Int) + _ ∧
    (snapshot.purse.toNat : Int) = (c.expected.purse.toNat : Int) - _
  rw [hbalance, hpurse]
  by_cases hone : c.direction = 1
  · rw [Command.Unwrapped, if_pos hone] at hunwrapped
    rw [if_pos (hdirected.2 hone)]
    change _ = _ + -(c.amount.toNat : Int) ∧ _ = _ - -(c.amount.toNat : Int)
    omega
  · rw [Command.Unwrapped, if_neg hone] at hunwrapped
    rw [if_neg (mt hdirected.1 hone)]
    change _ = _ + (c.amount.toNat : Int) ∧ _ = _ - (c.amount.toNat : Int)
    omega

/-- The transfer that was made, as the client looks for it. -/
theorem confirmed_read (hcommand : GuardFundingWire.Command.decode c.bytes .transfer = some command)
    (hunwrapped : c.Unwrapped) (hconfirmed : c.confirmed snapshot = true) :
    command.confirmed snapshot.read = some true := by
  have hencode := GuardFundingWire.Command.decode_iff.1 hcommand
  obtain rfl := Command.read_of_decode hcommand
  simp only [Command.confirmed, decide_eq_true_eq] at hconfirmed
  obtain ⟨hvalid, howner, hreserve, hquote, hbalance, hpurse⟩ := hconfirmed
  have htransferred := transferred_read hunwrapped hbalance hpurse
  have hsame : c.read.expected.sameOwner snapshot.read = true := Snapshot.sameOwner_read howner
  have hreserved : snapshot.read.reserve = c.read.expected.reserve := congrArg unpacked32 hreserve
  have hclosed : snapshot.read.quote = 0 := unpacked32_eq_zero.2 hquote
  rw [GuardFundingWire.Command.confirmed, hencode, Snapshot.encode_read hvalid]
  simp only [Option.bind_eq_bind, Option.bind_some]
  rw [if_neg (by simp [Snapshot.not_empty_read hvalid, hsame, hreserved, hclosed])]
  exact congrArg some (decide_eq_true htransferred)

/-- The state after a run. -/
def after (is : List (Input Observation Verb Command)) : Controller :=
  is.foldl desk.ledger.next {}

/-- The flags of a receipt when nothing is pending or unresolved. -/
theorem idleFlags_read : ∀ ready : Bool,
    let flags := unpacked32 (flagsOf [(false, inFlightFlag), (false, unresolvedFlag),
      (ready, readyFlag)])
    hasOther flags 7 = false ∧
      hasFlag flags (VendorWire.inFlight + VendorWire.unresolved) = false := by
  decide +kernel

/-- The receipt of an inspection after a request was done is what the client asks for. -/
theorem receipt_confirmed {verb : Verb} {operation : SpendingJournal.Operation}
    (hoperation : operation = if verb = .openQuote then .openQuote else .transfer)
    (hidle : s.pending = false ∧ s.unresolved = false) (htransition : s.transition = c)
    (hspends : verb ≠ .inspect) (hfunded : c.valid verb = true)
    (hcommand : GuardFundingWire.Command.decode c.bytes verb.read = some command)
    (hdone : if verb = .openQuote then c.opened (s.current c.direction) = true
      else c.confirmed (s.current c.direction) = true)
    (hvalid : e.command.valid e.verb = true) (hlive : e.live = true) (hverb : e.verb = .inspect)
    (hdirection : e.command.direction = c.direction) :
    ∃ receipt, GuardFundingWire.receiptCodec.decode (s.execute e).2.1.bytes = some receipt ∧
      SpendingJournal.confirmed (.funding command) (.funding receipt) operation = some true := by
  have hkey := Command.request_of_decode hcommand
  have hsnapshot : (s.current c.direction).valid = true := by
    split at hdone
    case isTrue =>
      simp only [Command.opened, decide_eq_true_eq] at hdone
      exact hdone.1
    case isFalse =>
      simp only [Command.confirmed, decide_eq_true_eq] at hdone
      exact hdone.1
  have hparts := hvalid
  rw [Command.valid, decide_eq_true_iff] at hparts
  obtain ⟨⟨hhost, hwindow, hwindow', hdirected, hrequest, -⟩, -⟩ := hparts
  have hshown : (s.receipt e.command .observed e.ready).snapshot = s.current c.direction := by
    rw [Controller.receipt, if_pos hdirected, hdirection]
  obtain ⟨flags, hflags, hother, hquiet⟩ : ∃ flags,
      (s.receipt e.command .observed e.ready).flags = flags ∧
      hasOther (unpacked32 flags) 7 = false ∧
      hasFlag (unpacked32 flags) (VendorWire.inFlight + VendorWire.unresolved) = false := by
    rw [Controller.receipt, hidle.1, hidle.2]
    exact ⟨_, rfl, idleFlags_read _⟩
  have hdecode : GuardFundingWire.receiptCodec.decode (s.receipt e.command .observed e.ready).bytes =
      some ⟨uuidText e.command.request.toList, e.command.host.read, unpacked64 e.command.window,
        .observed, unpacked32 flags, (s.current c.direction).read,
        VendorWire.decodedRequest c.request.toList⟩ := by
    rw [Receipt.bytes, hshown, ← htransition, ← hflags]
    refine decode_receiptBytes GuardFundingWire.receiptCodec
      (Bool.eq_false_of_not_eq_true hrequest) hhost ⟨hwindow, hwindow'⟩ (hflags ▸ hother)
      (Snapshot.length_bytes _) (Snapshot.decode_bytes (htransition ▸ hsnapshot)) rfl rfl rfl ?_
    rw [hflags, htransition]
    simp [GuardFundingWire.receiptCodec, hquiet, Snapshot.not_empty_read hsnapshot]
  have hexecute : (s.execute e).2.1 = s.receipt e.command .observed e.ready := by
    rw [Controller.execute, if_neg (not_not.2 hvalid), if_neg (not_not.2 hlive), if_pos hverb]
  rw [hexecute]
  refine ⟨_, hdecode, ?_⟩
  have hamount : command.amount = 0 ↔ verb = .openQuote := by
    rw [Command.read_of_decode hcommand]
    rw [Command.valid, decide_eq_true_iff, if_neg hspends] at hfunded
    obtain ⟨-, hfunded⟩ := hfunded
    change unpacked32 c.amount = 0 ↔ _
    rw [unpacked32_eq_zero]
    split at hfunded
    case isTrue hquote => exact iff_of_true hfunded.1 hquote
    case isFalse hquote =>
      simp only [Snapshot.eligible, decide_eq_true_eq] at hfunded
      exact iff_of_false hfunded.2.2.2.1 hquote
  have hsettled : SpendingJournal.settled (⟨uuidText e.command.request.toList,
      e.command.host.read, unpacked64 e.command.window, .observed, unpacked32 flags,
      (s.current c.direction).read, VendorWire.decodedRequest c.request.toList⟩ :
        GuardFundingWire.Receipt) command.requestKey = true := by
    simp [SpendingJournal.settled, hkey, hquiet]
  rw [SpendingJournal.confirmed, hoperation]
  cases verb with
  | inspect => exact absurd rfl hspends
  | openQuote =>
    dsimp only
    rw [if_neg (by simp [SpendingJournal.Receipt.suits]), if_neg (not_not.2 hsettled), if_neg (not_not.2 (hamount.2 rfl))]
    exact opened_read hcommand hdone
  | transfer =>
    have hfunds : c.Unwrapped := by
      simp only [Command.valid, reduceCtorEq, if_false, decide_eq_true_eq] at hfunded
      exact Command.unwrapped_of_eligible hfunded.2.1 hfunded.2.2
    dsimp only
    rw [if_neg (by simp [SpendingJournal.Receipt.suits]), if_neg (not_not.2 hsettled), if_pos (mt hamount.1 (by decide))]
    exact confirmed_read hcommand hfunds hdone

/-- When an observation completes the request of some run and the client accepts its command, the
client accepts the receipt of any inspection of that direction that follows and releases the
intent. -/
theorem completion_releases (is : List (Input Observation Verb Command)) (o : Observation)
    (hpending : (after is).pending = true) (hcleared : (desk.observe (after is) o).pending = false)
    (hcommand : GuardFundingWire.Command.decode
      (after is).transition.bytes (after is).transitionVerb.read = some command)
    (hvalid : e.command.valid e.verb = true) (hlive : e.live = true) (hverb : e.verb = .inspect)
    (hdirection : e.command.direction = (after is).transition.direction) :
    ∃ receipt, GuardFundingWire.receiptCodec.decode
        ((desk.observe (after is) o).execute e).2.1.bytes = some receipt ∧
      SpendingJournal.confirmed (.funding command) (.funding receipt)
        (if (after is).transitionVerb = .openQuote then .openQuote else .transfer) = some true := by
  have hasked : Funded (after is) := List.foldlRecOn is desk.ledger.next (motive := Funded)
    (fun h => absurd h Bool.false_ne_true) fun _ hs _ _ => funded_next hs
  obtain ⟨hspends, hfunded⟩ := hasked hpending
  have hsides : (after is).transition.direction = (after is).transition.expected.direction := by
    rw [Command.valid, decide_eq_true_iff, if_neg hspends] at hfunded
    obtain ⟨-, hfunded⟩ := hfunded
    split at hfunded
    case isTrue => exact hfunded.2.1
    case isFalse => exact hfunded.1
  obtain ⟨⟨hunresolved, htransition⟩, hdone⟩ :=
    Controller.observe_completes hsides hpending hcleared
  exact receipt_confirmed rfl ⟨hcleared, hunresolved⟩ htransition hspends hfunded hcommand hdone
    hvalid hlive hverb hdirection

end ShadowbaneLab.Native.GuardFunding
