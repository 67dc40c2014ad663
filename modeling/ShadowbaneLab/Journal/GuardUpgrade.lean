/-
# Completed upgrades and the spending journal

An upgrade that the native controller takes as paid for, against what
`guard_spending_journal.py` asks before it releases the intent.
-/
import ShadowbaneLab.Client.SpendingJournal
import ShadowbaneLab.Journal.Navigation
import ShadowbaneLab.Native.GuardUpgrade

namespace ShadowbaneLab.Native.GuardUpgrade

open Foundation
open GuardUpgradeWire (receiptCodec snapshotLayout commandLayout)

/-! ## Payloads -/

/-- A snapshot as the client reads it. -/
def Snapshot.read (s : Snapshot) : GuardUpgradeWire.Snapshot where
  navigation := s.navigation.read
  rank := unpacked32 s.rank
  cost := unpacked32 s.cost
  funds := unpacked32 s.funds
  upgrading := unpacked32 s.upgrading
  canUpgrade := unpacked32 s.canUpgrade
  controlFlags := unpacked32 s.controlFlags
  upgradeControl := unpacked32 s.upgradeControl
  progressControl := unpacked32 s.progressControl

/-- A command as the client reads it. -/
def Command.read (c : Command) : GuardUpgradeWire.Command where
  host := c.host.read
  window := unpacked64 c.window
  requestKey := uuidText c.request.toList
  expected := c.expected.read

namespace Snapshot

variable {s : Snapshot}

theorem pack_fields (s : Snapshot) :
    GuardUpgradeWire.fieldsLayout.pack s.read.values = some (packed s.words) :=
  Format.pack_packed s.words

theorem pack_read (s : Snapshot) :
    snapshotLayout.pack (s.navigation.bytes, s.read.values) = some s.bytes := by
  rw [snapshotLayout, bytes]
  exact Format.pack_pair (Format.pack_raw s.navigation.length_bytes) s.pack_fields

/-- What the client reads from the bytes of a snapshot is that snapshot. -/
theorem read_of_decode {state : GuardUpgradeWire.Snapshot}
    (h : GuardUpgradeWire.Snapshot.decode s.bytes = some state) : state = s.read := by
  obtain ⟨navigation, hnavigation, hpack⟩ :=
    GuardUpgradeWire.Snapshot.pack_of_encode (GuardUpgradeWire.Snapshot.decode_iff.1 h)
  have hparts := snapshotLayout.pack_injective hpack s.pack_read
  obtain ⟨rfl, hvalues⟩ := Prod.mk.injEq .. ▸ hparts
  have hsame := Navigation.Snapshot.read_of_decode
    (NavigationWire.Snapshot.decode_iff.2 hnavigation)
  exact Option.some.inj ((GuardUpgradeWire.Snapshot.ofValues_iff.2 ⟨hsame, hvalues⟩).symm.trans
    (GuardUpgradeWire.Snapshot.ofValues_iff.2 ⟨rfl, rfl⟩))

/-- The client refuses no snapshot that the controller takes as valid. -/
theorem not_invalid_read (h : s.valid = true) : s.read.invalid = false := by
  simp only [valid, decide_eq_true_eq] at h
  obtain ⟨⟨hnavigation, hoffline, hvisible, htyped⟩, ⟨hrank, hbound⟩, hcost, hfunds, hupgrading,
    hcan, hflags, hupgrade, hprogress, hcontrols⟩ := h
  rw [GuardUpgradeWire.Snapshot.invalid, decide_eq_false_iff_not]
  simp only [not_or]
  refine ⟨?_, ?_, ?_, ?_, ?_, ?_, ?_, ?_, ?_, ?_, ?_, ?_, ?_⟩
  · simp [read, Navigation.Snapshot.not_empty_read hnavigation]
  · exact not_not.2 (unpacked32_eq_zero.2 hoffline)
  · exact not_not.2 ((unpacked32_inj (y := 3)).2 hvisible)
  · exact not_not.2 (Navigation.Snapshot.typed_read htyped).2
  · have hpos := (unpacked32_range s.rank).1
    have hne : unpacked32 s.rank ≠ 0 := mt unpacked32_eq_zero.1 hrank
    have hlt : unpacked32 s.rank < 4294967295 := (unpacked32_lt (y := 0xFFFFFFFF)).2 hbound
    exact not_not.2 ⟨by change 0 < unpacked32 s.rank; omega, hlt⟩
  · exact Int.not_lt.2 ((unpacked32_le (y := 0x7fffffff)).2 hcost)
  · exact Int.not_lt.2 ((unpacked32_le (y := 0x7fffffff)).2 hfunds)
  · exact Int.not_lt.2 ((unpacked32_le (y := 1)).2 hupgrading)
  · exact Int.not_lt.2 ((unpacked32_le (y := 1)).2 hcan)
  · exact Int.not_lt.2 ((unpacked32_le (y := 7)).2 hflags)
  · exact mt unpacked32_eq_zero.1 hupgrade
  · exact mt unpacked32_eq_zero.1 hprogress
  · exact mt unpacked32_inj.1 hcontrols

theorem not_empty_read (h : s.valid = true) : s.read.empty = false := by
  simp only [valid, decide_eq_true_eq] at h
  rw [GuardUpgradeWire.Snapshot.empty, decide_eq_false_iff_not]
  intro hempty
  exact h.2.1.1 (unpacked32_eq_zero.1 (congrArg GuardUpgradeWire.Snapshot.rank hempty))

theorem checked_read (s : Snapshot) :
    s.read.values.all (fun value => (VendorWire.uint value 32).isSome) = true := by
  simp [GuardUpgradeWire.Snapshot.values, read]

theorem decode_bytes (h : s.valid = true) :
    GuardUpgradeWire.Snapshot.decode s.bytes = some s.read := by
  have hnavigation : s.navigation.valid = true := by
    simp only [valid, decide_eq_true_eq] at h
    exact h.1.1
  rw [GuardUpgradeWire.Snapshot.decode_iff, GuardUpgradeWire.Snapshot.encode,
    if_neg (by simp [checked_read])]
  change (s.navigation.read.encode.bind fun navigation => _) = _
  rw [Navigation.Snapshot.encode_read hnavigation, Option.bind_some, if_neg, if_neg, pack_read]
  · simp [not_invalid_read h]
  · simp [not_empty_read h]

variable {a b : Snapshot}

theorem sameGuard_of_sameOwner (h : a.sameOwner b = true) : a.sameGuard b = true := by
  simp only [sameOwner, decide_eq_true_eq] at h
  obtain ⟨hscene, hroot, hmanager, -, -, -, hbuilding, hvendor, -⟩ := h
  exact decide_eq_true ⟨hscene, hroot, hmanager, hbuilding, hvendor⟩

theorem sameGuard_read (h : a.sameGuard b = true) :
    a.read.navigation.scene = b.read.navigation.scene ∧
      a.read.navigation.root = b.read.navigation.root ∧
      a.read.navigation.manager = b.read.navigation.manager ∧
      (a.read.navigation.buildingId, a.read.navigation.buildingType, a.read.navigation.vendorId,
        a.read.navigation.vendorType) = (b.read.navigation.buildingId,
        b.read.navigation.buildingType, b.read.navigation.vendorId,
        b.read.navigation.vendorType) := by
  simp only [sameGuard, decide_eq_true_eq] at h
  obtain ⟨hscene, hroot, hmanager, hbuilding, hvendor⟩ := h
  simp [read, Navigation.Snapshot.read, hscene, hroot, hmanager, hbuilding, hvendor]

theorem eligible_read (h : s.eligible = true) : s.read.eligible = true := by
  simp only [eligible, decide_eq_true_eq] at h
  obtain ⟨hvalid, hupgrading, hcan, hcost, hfunds, hflags⟩ := h
  have hpos := (unpacked32_range s.cost).1
  have hne : unpacked32 s.cost ≠ 0 := mt unpacked32_eq_zero.1 hcost
  refine decide_eq_true ⟨by simp [not_empty_read hvalid], unpacked32_eq_zero.2 hupgrading,
    mt unpacked32_eq_zero.1 hcan, ?_, unpacked32_le.2 hfunds, (unpacked32_inj (y := 3)).2 hflags⟩
  change 0 < unpacked32 s.cost
  omega

end Snapshot

variable {command : GuardUpgradeWire.Command}

variable {c : Command}

variable {verb : GuardUpgradeWire.Verb}

/-- What the client reads from the bytes of a command is that command. -/
theorem Command.read_of_decode (h : GuardUpgradeWire.Command.decode c.bytes verb = some command) :
    command = c.read := by
  have hunpack : commandLayout.unpack c.bytes = some (c.host.bytes,
      unpacked64 c.window, c.request.toList, c.expected.bytes, c.reserved.toList) := by
    rw [← commandLayout.pack_iff]
    refine Format.pack_pair (Format.pack_raw c.host.length_bytes) ?_
    refine Format.pack_pair (Format.pack_word (.of64 c.window)) ?_
    refine Format.pack_pair (Format.pack_raw c.request.length_toList) ?_
    refine Format.pack_pair (Format.pack_raw c.expected.length_bytes) ?_
    exact Format.pack_raw c.reserved.length_toList
  simp only [GuardUpgradeWire.Command.decode, hunpack, Option.bind_eq_bind, Option.bind_some,
    Option.ite_none_left_eq_some, Option.bind_eq_some_iff, Option.pure_def] at h
  obtain ⟨-, -, host, hhost, expected, hexpected, -, h⟩ := h
  cases h
  rw [Command.read, Snapshot.read_of_decode hexpected, Host.read_of_decode hhost]

/-- The key of a command that the client accepts is set. -/
theorem Command.request_of_decode (h : GuardUpgradeWire.Command.decode c.bytes verb = some command) :
    VendorWire.decodedRequest c.request.toList = some command.requestKey := by
  have hread := Command.read_of_decode h
  have hencode := GuardUpgradeWire.Command.decode_iff.1 h
  simp only [GuardUpgradeWire.Command.encode, Option.bind_eq_bind, Option.ite_none_left_eq_some,
    Option.bind_eq_some_iff] at hencode
  obtain ⟨-, -, -, -, -, -, -, -, request, hrequest, -⟩ := hencode
  rw [hread] at hrequest ⊢
  exact decodedRequest_of_requestBytes hrequest

/-! ## Completions -/

namespace Controller

variable {s : Controller}

variable {snapshot : Snapshot}

/-- An upgrade is completed by a snapshot of its guard with the debit and the progress. -/
theorem correlate_completes {valid : Bool} {now : UInt64} (hpending : s.pending = true)
    (hcleared : (s.correlate snapshot valid now).pending = false) :
    s.correlate snapshot valid now = { s with pending := false } ∧ s.unresolved = false ∧
      valid = true ∧ s.sameTransition snapshot = true ∧
      snapshot.funds = s.transition.expected.funds - s.transition.expected.cost ∧
      s.transition.expected.advanced snapshot = true := by
  have hkept {p : Prop} (h : s.pending = false) : p :=
    absurd (hpending.symm.trans h) (by simp)
  unfold correlate at hcleared ⊢
  dsimp only at hcleared ⊢
  split at hcleared
  case isTrue => exact hkept hcleared
  case isFalse hwaits =>
    split at hcleared
    case isTrue => exact hkept hcleared
    case isFalse hsame =>
      split at hcleared
      case isTrue => exact hkept hcleared
      case isFalse hvalid =>
        split at hcleared
        case isTrue => exact hkept hcleared
        case isFalse hbounds =>
          split at hcleared
          case isFalse => exact hkept hcleared
          case isTrue hdone =>
            rw [if_neg hwaits, if_neg hsame, if_neg hvalid, if_neg hbounds, if_pos hdone]
            rw [not_or, not_not, Bool.not_eq_true] at hwaits
            rw [not_or, not_and, not_not] at hsame
            rw [not_not] at hvalid
            exact ⟨rfl, hwaits.2, hvalid, hsame.2 hvalid, hdone⟩

/-- An observation ends the numbering of snapshots, or it is correlated as the current one. -/
theorem observe_cases (snapshot : Snapshot) (valid : Bool) (now : UInt64) :
    s.observe snapshot valid now = { s with current := {}, unresolved := true } ∨
      ∃ (current observed : Snapshot) (revision : UInt64), s.observe snapshot valid now =
        { s with current := current, revision := revision }.correlate observed valid now ∧
        (valid = true → current = observed) := by
  unfold observe
  dsimp only
  split
  case isTrue => exact .inr ⟨_, _, _, rfl, fun _ => rfl⟩
  case isFalse =>
    split
    case isTrue => exact .inl rfl
    case isFalse => exact .inr ⟨_, _, _, rfl, fun hvalid => if_pos hvalid⟩

/-- What is observed is the current snapshot that completes the upgrade. -/
theorem observe_completes {valid : Bool} {now : UInt64} (hpending : s.pending = true)
    (hcleared : (s.observe snapshot valid now).pending = false) :
    ∃ current revision, s.observe snapshot valid now =
        { s with current := current, revision := revision, pending := false } ∧
      s.unresolved = false ∧ s.sameTransition current = true ∧
      current.funds = s.transition.expected.funds - s.transition.expected.cost ∧
      s.transition.expected.advanced current = true := by
  rcases s.observe_cases snapshot valid now with h | ⟨current, observed, revision, h, hcurrent⟩
  · rw [h] at hcleared
    exact absurd (hpending.symm.trans hcleared) (by simp)
  · rw [h] at hcleared
    obtain ⟨hdone, hunresolved, hvalid, hcompletes⟩ := correlate_completes (by exact hpending) hcleared
    obtain rfl := hcurrent hvalid
    exact ⟨current, revision, h.trans hdone, hunresolved, hcompletes⟩

end Controller

variable {s : Controller}

/-- What the client asks of the receipt holds of the snapshot that completes the upgrade. -/
theorem upgradeConfirmed_read {receipt : GuardUpgradeWire.Receipt}
    (hcommand : command.expected = c.expected.read) (hpriced : c.expected.eligible = true)
    (htransition : s.transition = c) (hvalid : s.current.valid = true)
    (hsnapshot : receipt.snapshot = s.current.read)
    (hreopened : hasFlag receipt.flags GuardUpgradeWire.reopened = s.reopened)
    (hsettled : SpendingJournal.settled receipt command.requestKey = true)
    (hsame : s.sameTransition s.current = true)
    (hfunds : s.current.funds = c.expected.funds - c.expected.cost)
    (hadvanced : c.expected.advanced s.current = true) :
    SpendingJournal.upgradeConfirmed command receipt = true := by
  obtain ⟨hrank, hcost⟩ := Snapshot.unwrapped_of_eligible hpriced
  have hguard : c.expected.sameGuard s.current = true := by
    simp only [Controller.sameTransition, htransition] at hsame
    split at hsame
    case isTrue => exact (of_decide_eq_true hsame).1
    case isFalse =>
      rcases of_decide_eq_true hsame with howner | hresponse
      · exact Snapshot.sameGuard_of_sameOwner howner
      · simp only [Snapshot.confirmedGuardResponse, decide_eq_true_eq] at hresponse
        exact hresponse.2.2.1
  have hpaid : s.current.read.funds = c.expected.read.funds - c.expected.read.cost := by
    change (s.current.funds.toNat : Int) = c.expected.funds.toNat - c.expected.cost.toNat
    rw [hfunds]
    omega
  have hprogress : (s.current.read.rank = c.expected.read.rank ∧ s.current.read.upgrading ≠ 0 ∧
      hasFlag s.current.read.controlFlags 4 = true) ∨
      s.current.read.rank = c.expected.read.rank + 1 := by
    simp only [Snapshot.advanced, decide_eq_true_eq] at hadvanced
    rcases hadvanced with ⟨hsame, hupgrading, hcontrol⟩ | hnext
    · exact .inl ⟨congrArg unpacked32 hsame, mt unpacked32_eq_zero.1 hupgrading,
        (hasFlag_unpacked32 _ 4).trans hcontrol⟩
    · refine .inr ?_
      change (s.current.rank.toNat : Int) = c.expected.rank.toNat + 1
      rw [hnext]
      omega
  have hwindows : (c.expected.read.navigation.buildingHud = s.current.read.navigation.buildingHud ∧
      c.expected.read.navigation.vendorHud = s.current.read.navigation.vendorHud ∧
      c.expected.read.navigation.selectedEntry = s.current.read.navigation.selectedEntry ∧
      c.expected.read.upgradeControl = s.current.read.upgradeControl ∧
      c.expected.read.progressControl = s.current.read.progressControl) ∨
      (s.reopened = true ∧
        s.current.read.navigation.frontHud = s.current.read.navigation.vendorHud) ∨
      (¬ s.reopened = true ∧ c.expected.read.eligible = true ∧
        ¬ s.current.read.empty = true ∧
        c.expected.read.navigation.frontHud = c.expected.read.navigation.vendorHud ∧
        s.current.read.navigation.frontHud = s.current.read.navigation.vendorHud ∧
        s.current.read.navigation.mode = 6 ∧ s.current.read.cost = c.expected.read.cost) := by
    simp only [Controller.sameTransition, htransition] at hsame
    split at hsame
    case isTrue hreopened =>
      exact .inr (.inl ⟨hreopened, congrArg unpacked32 (of_decide_eq_true hsame).2.2⟩)
    case isFalse hreopened =>
      rcases of_decide_eq_true hsame with howner | hresponse
      · simp only [Snapshot.sameOwner, decide_eq_true_eq] at howner
        obtain ⟨-, -, -, hhud, hvendor, hentry, -, -, hupgrade, hprogress⟩ := howner
        exact .inl ⟨congrArg unpacked32 hhud, congrArg unpacked32 hvendor,
          congrArg unpacked32 hentry, congrArg unpacked32 hupgrade, congrArg unpacked32 hprogress⟩
      · simp only [Snapshot.confirmedGuardResponse, decide_eq_true_eq] at hresponse
        obtain ⟨heligible, -, -, hfront, hfront', hmode, hcost, -⟩ := hresponse
        exact .inr (.inr ⟨hreopened, Snapshot.eligible_read heligible,
          by simp [Snapshot.not_empty_read hvalid], congrArg unpacked32 hfront,
          congrArg unpacked32 hfront', (unpacked32_inj (y := 6)).2 hmode,
          congrArg unpacked32 hcost⟩)
  rw [SpendingJournal.upgradeConfirmed, decide_eq_true_iff, hcommand, hsnapshot, hreopened]
  exact ⟨⟨Snapshot.sameGuard_read hguard, hwindows⟩, hsettled, hpaid, hprogress⟩

/-! ## Receipts -/

/-- The flags of a receipt when nothing is pending or unresolved. -/
theorem idleFlags_read : ∀ reopened ready : Bool,
    let flags := unpacked32 (flagsOf [(false, inFlightFlag), (false, unresolvedFlag),
      (reopened, reopenedFlag), (ready, readyFlag)])
    hasOther flags 15 = false ∧ hasFlag flags GuardUpgradeWire.reopened = reopened ∧
      hasFlag flags (VendorWire.inFlight + VendorWire.unresolved) = false := by
  decide +kernel

variable {e : Execution Verb Command}

theorem Controller.execute_submits (hvalid : e.command.valid e.verb = true) (hlive : e.live = true)
    (hverb : e.verb ≠ .inspect) (hnew : s.records.get? e.command.request = none)
    (hrefusal : s.refusal e = none) : s.execute e = s.submit e := by
  unfold execute
  simp only [hvalid, hlive, hverb, hnew, hrefusal, not_true_eq_false, if_false]

/-- An inspection when nothing is pending is answered with what is current. -/
theorem execute_inspect (hvalid : e.command.valid e.verb = true) (hlive : e.live = true)
    (hverb : e.verb = .inspect) (hidle : s.pending = false) :
    (s.execute e).2.1 = s.receipt e.command .observed e.ready := by
  have hquiet : s.mayReopen e.command e.now = false := by
    simp [Controller.mayReopen, Controller.pendingReturn, hidle]
  rw [Controller.execute, if_neg (not_not.2 hvalid), if_neg (not_not.2 hlive), if_pos hverb,
    if_neg (by simp [hquiet])]

/-- The state after a run. -/
def after (is : List (Input Observation Verb Command)) : Controller :=
  is.foldl desk.ledger.next {}

/-- The receipt of an inspection after an upgrade was completed is what the client asks for. -/
theorem receipt_confirmed (hidle : s.pending = false ∧ s.unresolved = false)
    (htransition : s.transition = c)
    (hcommand : GuardUpgradeWire.Command.decode c.bytes .upgrade = some command)
    (hpriced : c.expected.eligible = true) (hsnapshot : s.current.valid = true)
    (hsame : s.sameTransition s.current = true)
    (hfunds : s.current.funds = c.expected.funds - c.expected.cost)
    (hadvanced : c.expected.advanced s.current = true) (hvalid : e.command.valid e.verb = true)
    (hlive : e.live = true) (hverb : e.verb = .inspect) :
    ∃ receipt, receiptCodec.decode (s.execute e).2.1.bytes = some receipt ∧
      SpendingJournal.confirmed (.upgrade command) (.upgrade receipt) .upgrade = some true := by
  have hkey := Command.request_of_decode hcommand
  have hset : anySet c.request.toList = true := by
    rw [VendorWire.decodedRequest, Option.ite_none_right_eq_some] at hkey
    exact hkey.1
  obtain ⟨flags, hflags, hother, hreopened, hdone⟩ : ∃ flags,
      (s.receipt e.command .observed e.ready).flags = flags ∧
      hasOther (unpacked32 flags) 15 = false ∧
      hasFlag (unpacked32 flags) GuardUpgradeWire.reopened = s.reopened ∧
      hasFlag (unpacked32 flags) (VendorWire.inFlight + VendorWire.unresolved) = false := by
    rw [Controller.receipt, hidle.1, hidle.2]
    exact ⟨_, rfl, idleFlags_read s.reopened _⟩
  have hparts := hvalid
  rw [Command.valid, decide_eq_true_iff] at hparts
  obtain ⟨⟨hhost, hwindow, hwindow', hrequest, -⟩, -⟩ := hparts
  have hdecode : receiptCodec.decode (s.receipt e.command .observed e.ready).bytes =
      some ⟨uuidText e.command.request.toList, e.command.host.read, unpacked64 e.command.window,
        .observed, unpacked32 flags, s.current.read,
        VendorWire.decodedRequest c.request.toList⟩ := by
    rw [← htransition, ← hflags]
    refine decode_receiptBytes receiptCodec
      (Bool.eq_false_of_not_eq_true hrequest) hhost ⟨hwindow, hwindow'⟩ (hflags ▸ hother)
      s.current.length_bytes (Snapshot.decode_bytes hsnapshot) rfl rfl rfl ?_
    change receiptCodec.refuses _ _ s.transition.request.toList = false
    rw [htransition, hflags]
    simp [receiptCodec, hset, hdone, Snapshot.not_empty_read hsnapshot]
  rw [execute_inspect hvalid hlive hverb hidle.1]
  refine ⟨_, hdecode, congrArg some (upgradeConfirmed_read (c := c) (s := s) ?_ hpriced htransition
    hsnapshot rfl hreopened ?_ hsame hfunds hadvanced)⟩
  · rw [Command.read_of_decode hcommand]
    rfl
  · simp [SpendingJournal.settled, hkey, hdone]

/-- When an observation completes the upgrade of some run and the client accepts its command, the
client accepts the receipt of any inspection that follows and releases the intent. -/
theorem completion_releases (is : List (Input Observation Verb Command)) (o : Observation)
    (hpending : (after is).pending = true) (hcleared : (desk.observe (after is) o).pending = false)
    (hsnapshot : (desk.observe (after is) o).current.valid = true) (hcommand :
      GuardUpgradeWire.Command.decode (after is).transition.bytes .upgrade = some command)
    (hvalid : e.command.valid e.verb = true) (hlive : e.live = true) (hverb : e.verb = .inspect) :
    ∃ receipt, receiptCodec.decode
        ((desk.observe (after is) o).execute e).2.1.bytes = some receipt ∧
      SpendingJournal.confirmed (.upgrade command) (.upgrade receipt) .upgrade = some true := by
  have hpriced : Priced (after is) := List.foldlRecOn is desk.ledger.next (motive := Priced)
    (fun h => absurd h Bool.false_ne_true) fun _ hs _ _ => priced_next hs
  cases o with
  | returned snapshot valid => exact absurd (hpending.symm.trans hcleared) (by simp)
  | page snapshot valid now =>
    obtain ⟨current, revision, h, hunresolved, hsame, hfunds, hadvanced⟩ :=
      Controller.observe_completes hpending hcleared
    change ((after is).observe snapshot valid now).current.valid = true at hsnapshot
    change ∃ receipt, receiptCodec.decode
      (((after is).observe snapshot valid now).execute e).2.1.bytes = some receipt ∧ _
    rw [h] at hsnapshot ⊢
    exact receipt_confirmed
      (s := { after is with current := current, revision := revision, pending := false })
      ⟨rfl, hunresolved⟩ rfl hcommand (hpriced hpending) hsnapshot hsame
      hfunds hadvanced hvalid hlive hverb

end ShadowbaneLab.Native.GuardUpgrade
