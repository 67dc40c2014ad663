/-
# Completed openings and the spending journal

A page that the native navigation controller takes as opened, against the command's own test of
`vendor_navigation_wire.py`, which `guard_spending_journal.py` asks before it releases an intent.
-/
import ShadowbaneLab.Client.NavigationWire
import ShadowbaneLab.Native.Navigation
import ShadowbaneLab.Journal.Words

namespace ShadowbaneLab.Native.Navigation

open Foundation

/-! ## Snapshots -/

/-- A snapshot as the client reads it. -/
def Snapshot.read (s : Snapshot) : NavigationWire.Snapshot where
  scene := unpacked64 s.scene
  revision := unpacked64 s.revision
  root := unpacked32 s.root
  manager := unpacked32 s.manager
  frontHud := unpacked32 s.frontHud
  mode := unpacked32 s.mode
  buildingHud := unpacked32 s.buildingHud
  vendorHud := unpacked32 s.vendorHud
  selectedEntry := unpacked32 s.selectedEntry
  visible := unpacked32 s.visible
  buildingId := unpacked32 s.building.1
  buildingType := unpacked32 s.building.2
  vendorId := unpacked32 s.vendor.1
  vendorType := unpacked32 s.vendor.2
  initialized := unpacked32 s.initialized
  capacity := unpacked32 s.capacity
  occupied := unpacked32 s.occupied
  offline := unpacked32 s.offline
  warehouseHud := unpacked32 s.warehouseHud
  warehouseObject := unpacked32 s.warehouseObject
  warehouseId := unpacked32 s.warehouse.1
  warehouseType := unpacked32 s.warehouse.2

/-- The verb of the same number. -/
def Verb.read : Verb → NavigationWire.Verb
  | .inspect => .inspect
  | .building => .building
  | .vendor => .vendor
  | .guard => .guard
  | .warehouse => .warehouse

variable {type : UInt32}

namespace Snapshot

variable {s : Snapshot}

theorem pack_read (s : Snapshot) :
    NavigationWire.snapshotLayout.pack s.read.values = some s.bytes :=
  Format.pack_packed s.words

/-- What the client reads from the bytes of a snapshot is that snapshot. -/
theorem read_of_decode {state : NavigationWire.Snapshot}
    (h : NavigationWire.Snapshot.decode s.bytes = some state) : state = s.read := by
  have hpack := NavigationWire.Snapshot.pack_of_encode (NavigationWire.Snapshot.decode_iff.1 h)
  have hvalues := NavigationWire.snapshotLayout.pack_injective hpack s.pack_read
  exact Option.some.inj ((NavigationWire.Snapshot.ofValues_iff.2 hvalues).symm.trans
    (NavigationWire.Snapshot.ofValues_iff.2 rfl))

theorem checked_read (s : Snapshot) : s.read.checked = true := by
  simp [NavigationWire.Snapshot.checked, NavigationWire.Snapshot.values, read]

theorem hasFlag_visible (bit : UInt32) :
    hasFlag s.read.visible (unpacked32 bit) = s.shows bit :=
  hasFlag_unpacked32 s.visible bit

theorem typed_read {key : Key} (h : typed key type = true) :
    unpacked32 key.1 ≠ 0 ∧ unpacked32 key.2 = unpacked32 type := by
  rw [typed, decide_eq_true_iff] at h
  exact ⟨mt unpacked32_eq_zero.1 h.1, unpacked32_inj.2 h.2⟩

theorem hireling_read {key : Key} (h : hireling key = true) :
    unpacked32 key.1 ≠ 0 ∧ (unpacked32 key.2 = 37 ∨ unpacked32 key.2 = 42) := by
  rw [hireling, decide_eq_true_iff] at h
  rcases h with h | h
  · exact ⟨(typed_read h).1, .inr (typed_read h).2⟩
  · exact ⟨(typed_read h).1, .inl (typed_read h).2⟩

/-- The client refuses no snapshot that the controller takes as valid. -/
theorem not_invalid_read (h : s.valid = true) : s.read.invalid = false := by
  rw [valid, decide_eq_true_iff] at h
  obtain ⟨⟨hscene, hrevision, hroot, hmanager, hmode, hvisible, hinitialized, hoffline, hoccupied,
    hcapacity⟩, hbuilding, hvendor, hselected, hfirst, hsecond, hwarehouse⟩ := h
  rw [NavigationWire.Snapshot.invalid, decide_eq_false_iff_not]
  simp only [not_or]
  refine ⟨⟨?_, ?_, ?_, ?_⟩, ?_, ?_, ?_, ?_, ?_, ?_, ?_, ?_, ?_, ?_, ?_⟩
  · exact fun h => hscene (unpacked64_eq_zero.1 h)
  · exact fun h => hrevision (unpacked64_eq_zero.1 h)
  · exact fun h => hroot (unpacked32_eq_zero.1 h)
  · exact fun h => hmanager (unpacked32_eq_zero.1 h)
  · exact Int.not_lt.2 ((unpacked32_le (y := 64)).2 hmode)
  · exact Int.not_lt.2 ((unpacked32_le (y := 3)).2 hvisible)
  · exact Int.not_lt.2 ((unpacked32_le (y := 1)).2 hinitialized)
  · exact Int.not_lt.2 ((unpacked32_le (y := 1)).2 hoffline)
  · exact not_not.2 ⟨(unpacked32_range _).1, unpacked32_le.2 hoccupied,
      (unpacked32_le (y := 128)).2 hcapacity⟩
  · rintro ⟨hkey, hother⟩
    rcases hbuilding with hnone | htyped
    · exact hkey (by rw [read, hnone]; rfl)
    · exact hother (typed_read htyped)
  · rintro ⟨hkey, hother⟩
    rcases hvendor with hnone | htyped
    · exact hkey (by rw [read, hnone]; rfl)
    · exact hother (hireling_read htyped)
  · rintro ⟨hkey, hentry⟩
    rcases hselected with hnone | hselected
    · exact hkey (by rw [read, hnone]; rfl)
    · exact hselected (unpacked32_eq_zero.1 hentry)
  · rintro ⟨hsome, hother⟩
    rcases hwarehouse with ⟨hhud, hobject, hkey⟩ | ⟨hhud, hobject, htyped⟩
    · simp [read, hhud, hobject, hkey] at hsome
    · exact hother ⟨mt unpacked32_eq_zero.1 hhud, mt unpacked32_eq_zero.1 hobject,
        typed_read htyped⟩
  · rintro ⟨hshown, hother⟩
    obtain ⟨hhud, hinit, hmode, htyped⟩ := hfirst ((hasFlag_visible 1).symm.trans hshown)
    exact hother ⟨mt unpacked32_eq_zero.1 hhud, mt unpacked32_eq_zero.1 hinit,
      hmode.imp unpacked32_eq_zero.2 (unpacked32_inj (y := 6)).2, (typed_read htyped).1⟩
  · rintro ⟨hshown, hother⟩
    obtain ⟨hhud, hentry, hhire, htyped⟩ := hsecond ((hasFlag_visible 2).symm.trans hshown)
    exact hother ⟨mt unpacked32_eq_zero.1 hhud, mt unpacked32_eq_zero.1 hentry,
      (hireling_read hhire).1, (typed_read htyped).1⟩

theorem not_empty_read (h : s.valid = true) : s.read.empty = false := by
  rw [valid, decide_eq_true_iff] at h
  rw [NavigationWire.Snapshot.empty, decide_eq_false_iff_not]
  intro hempty
  exact h.1.1 (unpacked64_eq_zero.1 (congrArg NavigationWire.Snapshot.scene hempty))

theorem encode_read (h : s.valid = true) : s.read.encode = some s.bytes := by
  rw [NavigationWire.Snapshot.encode, if_neg (by simp [checked_read]),
    if_neg (by simp [not_empty_read h]), if_neg (by simp [not_invalid_read h]), pack_read]

theorem decode_bytes (h : s.valid = true) :
    NavigationWire.Snapshot.decode s.bytes = some s.read :=
  NavigationWire.Snapshot.decode_iff.2 (encode_read h)

end Snapshot

/-! ## Commands -/

/-- A command as the client reads it. -/
def Command.read (c : Command) : NavigationWire.Command where
  host := c.host.read
  window := unpacked64 c.window
  requestKey := uuidText c.request.toList
  expected := c.expected.read
  buildingId := unpacked32 c.building.1
  vendorId := unpacked32 c.vendor.1

variable {c : Command}

variable {command : NavigationWire.Command}

/-- What the client reads from the bytes of a command is that command. -/
theorem Command.read_of_decode {verb : NavigationWire.Verb}
    (h : NavigationWire.Command.decode c.bytes verb = some command) : command = c.read := by
  have hunpack : NavigationWire.commandLayout.unpack c.bytes = some (c.host.bytes,
      unpacked64 c.window, c.request.toList, c.expected.bytes, unpacked32 c.building.1,
      unpacked32 c.building.2, unpacked32 c.vendor.1, unpacked32 c.vendor.2,
      c.reserved.toList) := by
    rw [← NavigationWire.commandLayout.pack_iff]
    refine Format.pack_pair (Format.pack_raw c.host.length_bytes) ?_
    refine Format.pack_pair (Format.pack_word (.of64 c.window)) ?_
    refine Format.pack_pair (Format.pack_raw c.request.length_toList) ?_
    refine Format.pack_pair (Format.pack_raw c.expected.length_bytes) ?_
    refine Format.pack_pair (Format.pack_word (.of32 c.building.1)) ?_
    refine Format.pack_pair (Format.pack_word (.of32 c.building.2)) ?_
    refine Format.pack_pair (Format.pack_word (.of32 c.vendor.1)) ?_
    refine Format.pack_pair (Format.pack_word (.of32 c.vendor.2)) ?_
    exact Format.pack_raw c.reserved.length_toList
  simp only [NavigationWire.Command.decode, hunpack, Option.bind_eq_bind, Option.bind_some,
    Option.ite_none_left_eq_some, Option.bind_eq_some_iff, Option.pure_def] at h
  obtain ⟨-, -, host, hhost, expected, hexpected, -, h⟩ := h
  cases h
  rw [Command.read, Snapshot.read_of_decode hexpected, Host.read_of_decode hhost]

/-! ## Completions -/

variable {s : Snapshot}

/-- The page of a vendor or a guard, as the client looks for it. -/
theorem Snapshot.hireling_page (hhire : unpacked32 type = 37 ∨ unpacked32 type = 42)
    (hread : s.read.offline = 0 ∧ s.read.buildingId = c.read.buildingId ∧ s.read.buildingType = 8)
    (hid : c.vendor.1 ≠ 0) (htype : c.vendor.2 = type) (hshows : s.shows 2 = true)
    (hsame : s.vendor = c.vendor) (hshown : s.frontHud = s.vendorHud) :
    s.read.opened c.read.buildingId c.read.vendorId (unpacked32 type) = true := by
  have hkey : c.read.vendorId ≠ 0 := mt unpacked32_eq_zero.1 hid
  refine decide_eq_true ⟨hread.1, hread.2.1, hread.2.2, ?_⟩
  rw [if_pos hkey]
  exact ⟨(hasFlag_visible 2).trans hshows, congrArg unpacked32 hshown,
    congrArg (fun key : Key => unpacked32 key.1) hsame,
    congrArg unpacked32 (hsame ▸ htype), hhire⟩

/-- The command's own page, as the client looks for it. -/
theorem Snapshot.page_read {verb : Verb} (hvalid : c.valid verb = true) (hverb : verb ≠ .inspect)
    (hopened : s.opened verb c.building c.vendor = true) :
    (if verb.read = .warehouse then s.read.warehouseOpened c.read.buildingId c.read.vendorId
      else s.read.opened c.read.buildingId c.read.vendorId
        (if verb.read = .guard then 37 else 42)) = true := by
  have hkey : c.building.2 = 8 ∧ (verb = .building → c.vendor = (0, 0)) := by
    rw [Command.valid, decide_eq_true_iff, if_neg hverb] at hvalid
    obtain ⟨-, ⟨-, -, htyped⟩, htarget⟩ := hvalid
    rw [typed, decide_eq_true_iff] at htyped
    refine ⟨htyped.2, fun hbuilding => ?_⟩
    rcases htarget with ⟨-, hnone⟩ | ⟨hhire, -⟩
    · exact hnone
    · rw [hbuilding] at hhire
      simp [Verb.suits] at hhire
  rw [opened] at hopened
  split at hopened
  case isTrue => cases hopened
  case isFalse hpage =>
    simp only [not_or, not_not, ne_eq] at hpage
    obtain ⟨hoffline, hbuilding, -⟩ := hpage
    have hread : s.read.offline = 0 ∧ s.read.buildingId = c.read.buildingId ∧
        s.read.buildingType = 8 :=
      ⟨unpacked32_eq_zero.2 hoffline, congrArg (fun key : Key => unpacked32 key.1) hbuilding,
        (unpacked32_inj (y := 8)).2 (by rw [hbuilding, hkey.1])⟩
    cases verb with
    | inspect => exact absurd rfl hverb
    | building =>
      simp only [reduceCtorEq, if_false, if_true, ownsBuilding, Bool.decide_and, Bool.and_eq_true,
        decide_eq_true_eq] at hopened
      obtain ⟨⟨-, -, hshows⟩, hshown⟩ := hopened
      have hnone : c.read.vendorId = 0 := by rw [Command.read, hkey.2 rfl]; rfl
      exact decide_eq_true ⟨hread.1, hread.2.1, hread.2.2, by
        rw [if_neg (not_not.2 hnone)]
        exact ⟨(hasFlag_visible 1).trans hshows, congrArg unpacked32 hshown⟩⟩
    | warehouse =>
      simp only [if_true, typed, Bool.decide_and, Bool.and_eq_true, decide_eq_true_eq,
        ne_eq] at hopened
      obtain ⟨⟨hid, htype⟩, hhud, hobject, hsame, hshown⟩ := hopened
      exact decide_eq_true ⟨hread.1, hread.2.1, hread.2.2, congrArg unpacked32 hshown,
        mt unpacked32_eq_zero.1 hhud, mt unpacked32_eq_zero.1 hobject,
        congrArg (fun key : Key => unpacked32 key.1) hsame, mt unpacked32_eq_zero.1 hid,
        (unpacked32_inj (y := 42)).2 (by rw [hsame, htype])⟩
    | vendor =>
      simp only [reduceCtorEq, if_false, Verb.suits, typed, true_and, false_and, or_false,
        Bool.decide_and, Bool.and_eq_true, decide_eq_true_eq, ne_eq] at hopened
      obtain ⟨⟨hid, htype⟩, hshows, hsame, hshown⟩ := hopened
      exact hireling_page (.inr rfl) hread hid htype hshows hsame hshown
    | guard =>
      simp only [reduceCtorEq, if_false, Verb.suits, typed, true_and, false_and, false_or,
        Bool.decide_and, Bool.and_eq_true, decide_eq_true_eq, ne_eq] at hopened
      obtain ⟨⟨hid, htype⟩, hshows, hsame, hshown⟩ := hopened
      exact hireling_page (.inl rfl) hread hid htype hshows hsame hshown

/-- On a page that the controller takes as the command's, the client asks in addition for the
root and the manager that the command was built on. -/
theorem opened_iff {verb : Verb} (hvalid : c.valid verb = true) (hverb : verb ≠ .inspect)
    (hs : s.valid = true) (hscene : s.scene = c.expected.scene)
    (hopened : s.opened verb c.building c.vendor = true)
    (hcommand : NavigationWire.Command.decode c.bytes verb.read = some command) :
    command.opened verb.read s.read = some true ↔
      s.root = c.expected.root ∧ s.manager = c.expected.manager := by
  have hencode := NavigationWire.Command.decode_iff.1 hcommand
  have hpage := Snapshot.page_read hvalid hverb hopened
  cases Command.read_of_decode hcommand
  rw [NavigationWire.Command.opened, hencode, Snapshot.encode_read hs]
  simp only [Option.bind_eq_bind, Option.bind_some]
  have howner : (s.read.scene, s.read.root, s.read.manager) = (c.read.expected.scene,
      c.read.expected.root, c.read.expected.manager) ↔
      s.root = c.expected.root ∧ s.manager = c.expected.manager := by
    simp [Command.read, Snapshot.read, hscene]
  rw [← howner]
  by_cases hsame : (s.read.scene, s.read.root, s.read.manager) = (c.read.expected.scene,
      c.read.expected.root, c.read.expected.manager)
  · refine iff_of_true ?_ hsame
    rw [if_neg (by simp [Snapshot.not_empty_read hs, hsame])]
    split at hpage
    case isTrue hwarehouse => rw [if_pos hwarehouse, hpage, Option.pure_def]
    case isFalse hwarehouse =>
      rw [if_neg hwarehouse, hpage, Option.pure_def]
      cases verb <;> simp [Verb.read] at hverb hwarehouse ⊢
  · refine iff_of_false ?_ hsame
    rw [if_pos (.inr hsame)]
    exact fun h => Bool.false_ne_true (Option.some.inj h)

/-! ## Runs -/

/-- What is pending is a valid request to open a page. -/
def Asked (s : Controller) : Prop :=
  s.pending = true → s.transition.valid s.transitionVerb = true ∧ s.transitionVerb ≠ .inspect

namespace Controller

variable {s : Controller}

variable {snapshot : Snapshot} {valid : Bool} {now : UInt64}

theorem correlate_pending (h : (s.correlate snapshot valid now).pending = true) :
    s.pending = true := by
  unfold correlate at h
  split_ifs at h <;> exact h

theorem correlate_transition (snapshot : Snapshot) (valid : Bool) (now : UInt64) :
    (s.correlate snapshot valid now).transition = s.transition ∧
      (s.correlate snapshot valid now).transitionVerb = s.transitionVerb ∧
      (s.correlate snapshot valid now).current = s.current := by
  unfold correlate
  split_ifs <;> exact ⟨rfl, rfl, rfl⟩

/-- A request is completed by a snapshot of its scene in which its page is open. -/
theorem correlate_completes (hpending : s.pending = true)
    (hcleared : (s.correlate snapshot valid now).pending = false) :
    valid = true ∧ snapshot.scene = s.transition.expected.scene ∧
      snapshot.opened s.transitionVerb s.transition.building s.transition.vendor = true := by
  unfold correlate at hcleared
  split at hcleared
  case isFalse => exact absurd (hpending.symm.trans hcleared) (by simp)
  case isTrue =>
    split at hcleared
    case isTrue => exact absurd (hpending.symm.trans hcleared) (by simp)
    case isFalse hscene =>
      split at hcleared
      case isFalse => exact absurd (hpending.symm.trans hcleared) (by simp)
      case isTrue hopened =>
        refine ⟨hopened.1, ?_, hopened.2⟩
        by_contra hother
        exact hscene (.inr ⟨hopened.1, hother⟩)

/-- An observation ends the numbering of snapshots, or it is correlated as the current one. -/
theorem observe_cases (snapshot : Snapshot) (valid : Bool) (now : UInt64) :
    s.observe snapshot valid now = { s with current := {}, unresolved := true } ∨
      ∃ (t : Controller) (current : Snapshot),
        s.observe snapshot valid now = t.correlate current valid now ∧
        (t.pending = s.pending ∧ t.transition = s.transition ∧
          t.transitionVerb = s.transitionVerb) ∧ (valid = true → t.current = current) := by
  unfold observe
  dsimp only
  split
  case isTrue => exact .inr ⟨_, _, rfl, ⟨rfl, rfl, rfl⟩, fun _ => rfl⟩
  case isFalse =>
    split
    case isTrue => exact .inl rfl
    case isFalse => exact .inr ⟨_, _, rfl, ⟨rfl, rfl, rfl⟩, fun hvalid => if_pos hvalid⟩

/-- What is observed is the current snapshot that completes the request. -/
theorem observe_completes (hpending : s.pending = true)
    (hcleared : (s.observe snapshot valid now).pending = false) :
    (s.observe snapshot valid now).current.scene = s.transition.expected.scene ∧
      (s.observe snapshot valid now).current.opened s.transitionVerb s.transition.building
        s.transition.vendor = true := by
  rcases s.observe_cases snapshot valid now with
    h | ⟨t, current, h, ⟨hsame, htransition, hverb⟩, hcurrent⟩
  · rw [h] at hcleared
    exact absurd (hpending.symm.trans hcleared) (by simp)
  · rw [h] at hcleared ⊢
    obtain ⟨hvalid, hcompletes⟩ := correlate_completes (hsame.trans hpending) hcleared
    rw [(t.correlate_transition _ _ _).2.2, hcurrent hvalid, ← htransition, ← hverb]
    exact hcompletes

theorem observe_transition (snapshot : Snapshot) (valid : Bool) (now : UInt64) :
    (s.observe snapshot valid now).transition = s.transition ∧
      (s.observe snapshot valid now).transitionVerb = s.transitionVerb := by
  rcases s.observe_cases snapshot valid now with h | ⟨t, current, h, ⟨-, htransition, hverb⟩, -⟩
  · rw [h]
    exact ⟨rfl, rfl⟩
  · obtain ⟨htransition', hverb', -⟩ := t.correlate_transition current valid now
    rw [h, htransition', hverb']
    exact ⟨htransition, hverb⟩

theorem observe_pending (h : (s.observe snapshot valid now).pending = true) : s.pending = true := by
  rcases s.observe_cases snapshot valid now with hobserve | ⟨t, current, hobserve, ⟨hsame, -⟩, -⟩
  · rwa [hobserve] at h
  · rw [hobserve] at h
    exact hsame.symm.trans (correlate_pending h)

theorem execute_submits {e : Execution Verb Command} (hvalid : e.command.valid e.verb = true)
    (hlive : e.live = true) (hverb : e.verb ≠ .inspect)
    (hnew : s.records.get? e.command.request = none) (hrefusal : s.refusal e = none) :
    s.execute e = s.submit e := by
  unfold execute
  simp only [hvalid, hlive, hverb, hnew, hrefusal, not_true_eq_false, if_false]

theorem submit_transition (e : Execution Verb Command) :
    (s.submit e).1.transition = e.command ∧ (s.submit e).1.transitionVerb = e.verb := by
  unfold submit
  dsimp only
  split_ifs <;> exact ⟨rfl, rfl⟩

end Controller

theorem asked_next {s : Controller} {i : Input Observation Verb Command} (hs : Asked s) :
    Asked (desk.ledger.next s i) := by
  intro hpending
  cases i with
  | observe o =>
    obtain ⟨htransition, hverb⟩ := s.observe_transition o.snapshot o.valid o.now
    have hasked := hs (Controller.observe_pending hpending)
    change (s.observe o.snapshot o.valid o.now).transition.valid
      (s.observe o.snapshot o.valid o.now).transitionVerb = true ∧ _ ≠ _
    rw [htransition]
    exact hverb.symm ▸ hasked
  | execute e =>
    change ((s.execute e).1).pending = true at hpending
    change (s.execute e).1.transition.valid (s.execute e).1.transitionVerb = true ∧
      (s.execute e).1.transitionVerb ≠ .inspect
    rcases s.execute_cases (e := e) with ⟨hsame, -⟩ | ⟨⟨hvalid, -, hverb⟩, -, -, hsubmit⟩
    · rw [hsame] at hpending ⊢
      exact hs hpending
    · rw [hsubmit, (s.submit_transition e).1, (s.submit_transition e).2]
      exact ⟨hvalid, hverb⟩

theorem next_observe (s : Controller) (o : Observation) :
    desk.ledger.next s (.observe o) = s.observe o.snapshot o.valid o.now := rfl

theorem next_execute (s : Controller) (e : Execution Verb Command) :
    desk.ledger.next s (.execute e) = (s.execute e).1 := rfl

/-- The state after a run. -/
def after (is : List (Input Observation Verb Command)) : Controller :=
  is.foldl desk.ledger.next {}

/-- When an observation completes the request of some run and the client accepts the request's
bytes, it reads the completing snapshot, and takes its page as opened exactly if the root and the
manager are those that the request was built on. -/
theorem completion_opens (is : List (Input Observation Verb Command)) (o : Observation)
    (hpending : (after is).pending = true)
    (hcleared : (desk.observe (after is) o).pending = false)
    (hsnapshot : (desk.observe (after is) o).current.valid = true)
    {command : NavigationWire.Command}
    (hcommand : NavigationWire.Command.decode (after is).transition.bytes
      (after is).transitionVerb.read = some command) :
    ∃ state, NavigationWire.Snapshot.decode
        (desk.observe (after is) o).current.bytes = some state ∧
      (command.opened (after is).transitionVerb.read state = some true ↔
        (desk.observe (after is) o).current.root =
          (after is).transition.expected.root ∧
        (desk.observe (after is) o).current.manager =
          (after is).transition.expected.manager) := by
  have hasked : Asked (after is) := List.foldlRecOn is desk.ledger.next (motive := Asked)
    (fun h => absurd h Bool.false_ne_true) fun _ hs _ _ => asked_next hs
  obtain ⟨hvalid, hverb⟩ := hasked hpending
  obtain ⟨hscene, hopened⟩ := Controller.observe_completes hpending hcleared
  exact ⟨_, Snapshot.decode_bytes hsnapshot,
    opened_iff hvalid hverb hsnapshot hscene hopened hcommand⟩

/-- A page of the client's windows, without its revision. -/
def page (manager visible : UInt32) : Snapshot where
  scene := 1
  root := 100
  manager := manager
  frontHud := 300
  buildingHud := 300
  visible := visible
  building := (7, 8)
  initialized := 1

def openPage : Command where
  host := ⟨1, 1, 1⟩
  window := 1
  request := .replicate 16 1
  expected := { page 200 0 with revision := 1 }
  building := (7, 8)

def asksPage : List (Input Observation Verb Command) :=
  [.observe ⟨page 200 0, true, 0⟩,
    .execute ⟨.building, openPage, true, true, 0, .submitted, true⟩]

theorem openPage_valid : openPage.valid .building = true := by
  rw [Command.valid, decide_eq_true_iff]
  exact ⟨⟨by decide, by decide, by decide, isZero_replicate_of_ne (by decide),
    isZero_replicate 424⟩, by decide⟩

theorem after_asksPage : after asksPage = ((Controller.observe {} (page 200 0) true 0).submit
      ⟨.building, openPage, true, true, 0, .submitted, true⟩).1 := by
  rw [after, asksPage, List.foldl_cons, List.foldl_cons, List.foldl_nil, next_observe,
    next_execute, Controller.execute_submits openPage_valid rfl (by decide) rfl (by decide)]

theorem asksPage_shown :
    (NavigationWire.Command.decode (after asksPage).transition.bytes
      (after asksPage).transitionVerb.read).isSome = true ∧ (after asksPage).pending = true ∧
    (desk.observe (after asksPage) ⟨page 200 1, true, 1⟩).pending = false ∧
    (desk.observe (after asksPage) ⟨page 200 1, true, 1⟩).current.valid = true ∧
    (desk.observe (after asksPage) ⟨page 200 1, true, 1⟩).current.root =
      (after asksPage).transition.expected.root ∧
    (desk.observe (after asksPage) ⟨page 200 1, true, 1⟩).current.manager =
      (after asksPage).transition.expected.manager := by
  rw [after_asksPage]
  decide +kernel

/-- The page is opened under the manager it was asked of. -/
theorem completion_of_page :
    ∃ command state, NavigationWire.Command.decode (after asksPage).transition.bytes
        (after asksPage).transitionVerb.read = some command ∧
      NavigationWire.Snapshot.decode
        (desk.observe (after asksPage) ⟨page 200 1, true, 1⟩).current.bytes = some state ∧
      command.opened (after asksPage).transitionVerb.read state = some true := by
  obtain ⟨hsome, hpending, hcleared, hvalid, hsame⟩ := asksPage_shown
  obtain ⟨command, hcommand⟩ := Option.isSome_iff_exists.1 hsome
  obtain ⟨state, hstate, hopened⟩ :=
    completion_opens asksPage ⟨page 200 1, true, 1⟩ hpending hcleared hvalid hcommand
  exact ⟨command, state, hcommand, hstate, hopened.2 hsame⟩

/-- The request is completed by the page of another manager, which the client does not take as
opened. -/
theorem completion_under_another_manager :
    let t := desk.observe (after asksPage) ⟨page 201 1, true, 1⟩
    (after asksPage).pending = true ∧ t.pending = false ∧ t.current.valid = true ∧
      ((NavigationWire.Command.decode (after asksPage).transition.bytes .building).bind fun command =>
        (NavigationWire.Snapshot.decode t.current.bytes).bind (command.opened .building)) =
          some false := by
  rw [after_asksPage]
  decide +kernel

end ShadowbaneLab.Native.Navigation
