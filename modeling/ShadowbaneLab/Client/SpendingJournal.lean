/-
# Spending intents

`src/shadowbane_lab/client_extension/guard_spending_journal.py`: what a command that spends, or
opens a page to spend from, must have shown before its intent is released.
-/
import ShadowbaneLab.Client.GuardFundingWire
import ShadowbaneLab.Client.GuardUpgradeWire

namespace ShadowbaneLab.SpendingJournal

open Foundation VendorWire

/-- `Command`. -/
inductive Command
  | upgrade (command : GuardUpgradeWire.Command)
  | funding (command : GuardFundingWire.Command)
  | navigation (command : NavigationWire.Command)
deriving DecidableEq

/-- `Receipt`. -/
inductive Receipt
  | upgrade (receipt : GuardUpgradeWire.Receipt)
  | funding (receipt : GuardFundingWire.Receipt)
  | navigation (receipt : NavigationWire.Receipt)
deriving DecidableEq

/-- The operations that a record names. -/
inductive Operation
  | navigateBuilding
  | navigateGuard
  | navigateWarehouse
  | upgrade
  | openQuote
  | transfer
deriving DecidableEq

/-- `_NAVIGATION`. -/
def Operation.navigation : Operation → Option NavigationWire.Verb
  | .navigateBuilding => some .building
  | .navigateGuard => some .guard
  | .navigateWarehouse => some .warehouse
  | _ => none

/-- `type(receipt) is _codec(operation)[2]`. -/
def Receipt.suits : Receipt → Operation → Bool
  | .upgrade _, operation => operation = .upgrade
  | .funding _, operation => operation = .openQuote ∨ operation = .transfer
  | .navigation _, operation => operation.navigation.isSome

/-- The receipt is of an observation at which the request with a key was the last and done. -/
def settled {Snapshot : Type} (receipt : SnapshotReceipt Snapshot) (requestKey : String) : Bool :=
  receipt.outcome = .observed ∧ receipt.transitionRequest = some requestKey ∧
    ¬ hasFlag receipt.flags (inFlight + unresolved)

/-- The guard that was paid for is there in the receipt, with the debit and the progress. -/
def upgradeConfirmed (command : GuardUpgradeWire.Command) (receipt : GuardUpgradeWire.Receipt) :
    Bool :=
  let before := command.expected
  let after := receipt.snapshot
  let a := before.navigation
  let b := after.navigation
  let reopened := hasFlag receipt.flags GuardUpgradeWire.reopened
  let sameIdentity := a.scene = b.scene ∧ a.root = b.root ∧ a.manager = b.manager ∧
    (a.buildingId, a.buildingType, a.vendorId, a.vendorType) =
      (b.buildingId, b.buildingType, b.vendorId, b.vendorType)
  let sameWindows := a.buildingHud = b.buildingHud ∧ a.vendorHud = b.vendorHud ∧
    a.selectedEntry = b.selectedEntry ∧ before.upgradeControl = after.upgradeControl ∧
    before.progressControl = after.progressControl
  let ownedResponse := before.eligible ∧ ¬ after.empty ∧ a.frontHud = a.vendorHud ∧
    b.frontHud = b.vendorHud ∧ b.mode = 6 ∧ after.cost = before.cost
  let same := sameIdentity ∧
    (sameWindows ∨ (reopened ∧ b.frontHud = b.vendorHud) ∨ (¬ reopened ∧ ownedResponse))
  same ∧ settled receipt command.requestKey ∧ after.funds = before.funds - before.cost ∧
    ((after.rank = before.rank ∧ after.upgrading ≠ 0 ∧ hasFlag after.controlFlags 4) ∨
      after.rank = before.rank + 1)

/-- `_confirmed`; a command is kept under its own operation, so the receipts that suit the
operation and not the command do not come up. -/
def confirmed (command : Command) (receipt : Receipt) (operation : Operation) : Option Bool :=
  if ¬ receipt.suits operation then some false
  else match command, receipt with
    | .navigation command, .navigation receipt =>
      if ¬ settled receipt command.requestKey then some false
      else operation.navigation.bind fun verb => command.opened verb receipt.snapshot
    | .funding command, .funding receipt =>
      if ¬ settled receipt command.requestKey then some false
      else if command.amount ≠ 0 then command.confirmed receipt.snapshot
      else command.opened receipt.snapshot
    | .upgrade command, .upgrade receipt => some (upgradeConfirmed command receipt)
    | _, _ => none

end ShadowbaneLab.SpendingJournal
