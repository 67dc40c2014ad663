/-
# Spends that complete release their intents

An upgrade, a transfer or an opened quote that a native controller takes as done is released by
`guard_spending_journal.py` on the receipt that follows.
-/
import ShadowbaneLab.Journal.GuardFunding
import ShadowbaneLab.Journal.GuardUpgrade

namespace ShadowbaneLab.Native

open Foundation

/-- In any run of the two controllers, when an observation completes the pending request, the
client accepts the receipt of an inspection that follows, and it confirms the request. -/
theorem completions_release :
    (∀ (is : List (Input GuardUpgrade.Observation GuardUpgrade.Verb GuardUpgrade.Command))
        (o : GuardUpgrade.Observation) (command : GuardUpgradeWire.Command)
        (e : Execution GuardUpgrade.Verb GuardUpgrade.Command),
      let s := GuardUpgrade.after is
      let t := GuardUpgrade.desk.observe s o
      s.pending = true → t.pending = false → t.current.valid = true →
      GuardUpgradeWire.Command.decode s.transition.bytes .upgrade = some command →
      e.command.valid e.verb = true → e.live = true → e.verb = .inspect →
      ∃ receipt, GuardUpgradeWire.receiptCodec.decode (t.execute e).2.1.bytes = some receipt ∧
        SpendingJournal.confirmed (.upgrade command) (.upgrade receipt) .upgrade = some true) ∧
    ∀ (is : List (Input GuardFunding.Observation GuardFunding.Verb GuardFunding.Command))
        (o : GuardFunding.Observation) (command : GuardFundingWire.Command)
        (e : Execution GuardFunding.Verb GuardFunding.Command),
      let s := GuardFunding.after is
      let t := GuardFunding.desk.observe s o
      s.pending = true → t.pending = false →
      GuardFundingWire.Command.decode s.transition.bytes s.transitionVerb.read = some command →
      e.command.valid e.verb = true → e.live = true → e.verb = .inspect →
      e.command.direction = s.transition.direction →
      ∃ receipt, GuardFundingWire.receiptCodec.decode (t.execute e).2.1.bytes = some receipt ∧
        SpendingJournal.confirmed (.funding command) (.funding receipt)
          (if s.transitionVerb = .openQuote then .openQuote else .transfer) = some true :=
  ⟨fun is o _ _ hpending hcleared hsnapshot hcommand hvalid hlive hverb =>
    GuardUpgrade.completion_releases is o hpending hcleared hsnapshot hcommand hvalid hlive hverb,
    fun is o _ _ hpending hcleared hcommand hvalid hlive hverb hdirection =>
    GuardFunding.completion_releases is o hpending hcleared hcommand hvalid hlive hverb
      hdirection⟩

/-! ## A transfer -/

namespace GuardFunding

/-- A warehouse page, with or without an open quote. -/
def warehousePage (balance purse quote : UInt32) : Snapshot where
  scene := 1
  root := 100
  actor := 200
  character := (1, 53)
  manager := 300
  hud := 400
  sourceObject := 500
  source := (7, 42)
  direction := 1
  resource := 600
  balance := balance
  purse := purse
  quote := quote
  limit := if quote = 0 then 0 else balance
  accept := if quote = 0 then 0 else 1
  cancel := if quote = 0 then 0 else 2
  helper := if quote = 0 then 0 else 3

def transferTen : Command where
  host := ⟨1, 1, 1⟩
  window := 1
  request := .replicate 16 1
  expected := { warehousePage 100 5 700 with revision := 1 }
  direction := 1
  amount := 10

def inspectWarehouse : Command where
  host := ⟨1, 1, 1⟩
  window := 1
  request := .replicate 16 2
  direction := 1

def asksTransfer : List (Input Observation Verb Command) :=
  [.observe ⟨1, warehousePage 100 5 700, true, 0⟩,
    .execute ⟨.transfer, transferTen, true, true, 0, .submitted, true⟩]

theorem transferTen_valid : transferTen.valid .transfer = true := by
  rw [Command.valid, decide_eq_true_iff]
  exact ⟨⟨by decide, by decide, by decide, by decide, isZero_replicate_of_ne (by decide),
    isZero_replicate 432⟩, by decide⟩

theorem inspectWarehouse_valid : inspectWarehouse.valid .inspect = true := by
  rw [Command.valid, decide_eq_true_iff]
  exact ⟨⟨by decide, by decide, by decide, by decide, isZero_replicate_of_ne (by decide),
    isZero_replicate 432⟩, by decide⟩

theorem next_observe (s : Controller) (o : Observation) :
    desk.ledger.next s (.observe o) = s.observe o.direction o.snapshot o.valid o.now := rfl

theorem next_execute (s : Controller) (e : Execution Verb Command) :
    desk.ledger.next s (.execute e) = (s.execute e).1 := rfl

theorem after_asksTransfer : after asksTransfer =
    ((Controller.observe {} 1 (warehousePage 100 5 700) true 0).submit
      ⟨.transfer, transferTen, true, true, 0, .submitted, true⟩).1 := by
  rw [after, asksTransfer, List.foldl_cons, List.foldl_cons, List.foldl_nil, next_observe,
    next_execute, Controller.execute_submits transferTen_valid rfl (by decide) rfl
      (by decide)]

/-- The page after the transfer. -/
def transferred : Controller :=
  desk.observe (after asksTransfer) ⟨1, warehousePage 90 15 0, true, 1⟩

theorem asksTransfer_shown :
    (GuardFundingWire.Command.decode (after asksTransfer).transition.bytes
      (after asksTransfer).transitionVerb.read).isSome = true ∧
    (after asksTransfer).pending = true ∧ transferred.pending = false ∧
    inspectWarehouse.direction = (after asksTransfer).transition.direction := by
  rw [transferred, after_asksTransfer]
  decide +kernel

end GuardFunding

/-! ## An upgrade -/

namespace GuardUpgrade

/-- The page of a guard, before or after the payment for its second rank. -/
def guardPage (rank funds : UInt32) : Snapshot where
  navigation :=
    { scene := 1, root := 100, manager := 200, frontHud := 400, buildingHud := 300, vendorHud := 400
      selectedEntry := 500, visible := 3, building := (7, 8), vendor := (9, 37), initialized := 1 }
  rank := rank
  cost := 10
  funds := funds
  canUpgrade := 1
  controlFlags := 3
  upgradeControl := 1
  progressControl := 2

def payTen : Command where
  host := ⟨1, 1, 1⟩
  window := 1
  request := .replicate 16 1
  expected := { guardPage 1 100 with navigation.revision := 1 }

def inspectGuard : Command where
  host := ⟨1, 1, 1⟩
  window := 1
  request := .replicate 16 2

def asksUpgrade : List (Input Observation Verb Command) :=
  [.observe (.page (guardPage 1 100) true 0),
    .execute ⟨.upgrade, payTen, true, true, 0, .submitted, true⟩]

/-- The page after the upgrade. -/
def upgraded : Controller := desk.observe (after asksUpgrade) (.page (guardPage 2 90) true 1)

theorem payTen_valid : payTen.valid .upgrade = true := by
  rw [Command.valid, decide_eq_true_iff]
  exact ⟨⟨by decide, by decide, by decide, isZero_replicate_of_ne (by decide),
    isZero_replicate 408⟩, by decide⟩

theorem inspectGuard_valid : inspectGuard.valid .inspect = true := by
  rw [Command.valid, decide_eq_true_iff]
  exact ⟨⟨by decide, by decide, by decide, isZero_replicate_of_ne (by decide),
    isZero_replicate 408⟩, by decide⟩

theorem next_page (s : Controller) (snapshot : Snapshot) (valid : Bool) (now : UInt64) :
    desk.ledger.next s (.observe (.page snapshot valid now)) = s.observe snapshot valid now := rfl

theorem next_execute (s : Controller) (e : Execution Verb Command) :
    desk.ledger.next s (.execute e) = (s.execute e).1 := rfl

theorem after_asksUpgrade : after asksUpgrade =
    ((Controller.observe {} (guardPage 1 100) true 0).submit
      ⟨.upgrade, payTen, true, true, 0, .submitted, true⟩).1 := by
  rw [after, asksUpgrade, List.foldl_cons, List.foldl_cons, List.foldl_nil, next_page,
    next_execute, Controller.execute_submits payTen_valid rfl (by decide) rfl (by decide)]

theorem asksUpgrade_shown :
    (GuardUpgradeWire.Command.decode (after asksUpgrade).transition.bytes .upgrade).isSome = true ∧
    (after asksUpgrade).pending = true ∧ upgraded.pending = false ∧
    upgraded.current.valid = true := by
  rw [upgraded, after_asksUpgrade]
  decide +kernel

end GuardUpgrade

/-- A guard is upgraded for ten pieces of gold, and ten are withdrawn from a warehouse: the journal
releases both spends. -/
theorem completions_release_asked :
    (∃ command receipt, GuardUpgradeWire.Command.decode
        (GuardUpgrade.after GuardUpgrade.asksUpgrade).transition.bytes .upgrade = some command ∧
      GuardUpgradeWire.receiptCodec.decode (GuardUpgrade.upgraded.execute
        ⟨.inspect, GuardUpgrade.inspectGuard, true, true, 2, .observed, true⟩).2.1.bytes =
        some receipt ∧
      SpendingJournal.confirmed (.upgrade command) (.upgrade receipt) .upgrade = some true) ∧
    ∃ command receipt, GuardFundingWire.Command.decode
        (GuardFunding.after GuardFunding.asksTransfer).transition.bytes
        (GuardFunding.after GuardFunding.asksTransfer).transitionVerb.read = some command ∧
      GuardFundingWire.receiptCodec.decode (GuardFunding.transferred.execute
        ⟨.inspect, GuardFunding.inspectWarehouse, true, true, 2, .observed, true⟩).2.1.bytes =
        some receipt ∧
      SpendingJournal.confirmed (.funding command) (.funding receipt)
        (if (GuardFunding.after GuardFunding.asksTransfer).transitionVerb = .openQuote then
          .openQuote else .transfer) = some true := by
  constructor
  · obtain ⟨hsome, hpending, hcleared, hsnapshot⟩ := GuardUpgrade.asksUpgrade_shown
    obtain ⟨command, hcommand⟩ := Option.isSome_iff_exists.1 hsome
    obtain ⟨receipt, hreceipt, hconfirmed⟩ := completions_release.1 GuardUpgrade.asksUpgrade
      (.page (GuardUpgrade.guardPage 2 90) true 1) command
      ⟨.inspect, GuardUpgrade.inspectGuard, true, true, 2, .observed, true⟩ hpending hcleared
      hsnapshot hcommand GuardUpgrade.inspectGuard_valid rfl rfl
    exact ⟨command, receipt, hcommand, hreceipt, hconfirmed⟩
  · obtain ⟨hsome, hpending, hcleared, hdirection⟩ := GuardFunding.asksTransfer_shown
    obtain ⟨command, hcommand⟩ := Option.isSome_iff_exists.1 hsome
    obtain ⟨receipt, hreceipt, hconfirmed⟩ := completions_release.2 GuardFunding.asksTransfer
      ⟨1, GuardFunding.warehousePage 90 15 0, true, 1⟩ command
      ⟨.inspect, GuardFunding.inspectWarehouse, true, true, 2, .observed, true⟩ hpending hcleared
      hcommand GuardFunding.inspectWarehouse_valid rfl rfl hdirection
    exact ⟨command, receipt, hcommand, hreceipt, hconfirmed⟩

end ShadowbaneLab.Native
