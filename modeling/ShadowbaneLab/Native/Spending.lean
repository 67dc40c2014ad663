/-
# The native controllers act at most once

The vendor, navigation, guard-upgrade and guard-funding controllers over any run of observations
and executions, from a fresh client process.
-/
import ShadowbaneLab.Native.Vendor
import ShadowbaneLab.Native.GuardUpgrade
import ShadowbaneLab.Native.GuardFunding

namespace ShadowbaneLab.Native

open Foundation

/-- Each controller puts a request to its invoker at most once, one at a time and never when
unresolved, and answers a recorded key from its record; a page is reopened in its pace, and the
numbers that spending is checked against do not wrap. -/
theorem controllers_atMostOnce :
    (∀ is, Vendor.desk.ledger.AtMostOnce {} is) ∧
    (∀ is, Navigation.desk.ledger.AtMostOnce {} is) ∧
    (∀ is, GuardUpgrade.desk.ledger.AtMostOnce {} is) ∧
    (∀ is, GuardFunding.desk.ledger.AtMostOnce {} is) ∧
    (∀ is k, GuardUpgrade.Paced (met GuardUpgrade.desk.ledger.next {} is) k) ∧
    (∀ is, ∀ x ∈ met GuardUpgrade.desk.ledger.next {} is, x.1.pending = true →
      x.1.transition.expected.Unwrapped) ∧
    (∀ is, ∀ x ∈ met GuardFunding.desk.ledger.next {} is, x.1.pending = true →
      x.1.transitionVerb = .transfer → x.1.transition.Unwrapped) ∧
    (∀ s : GuardUpgrade.Snapshot, s.eligible = true → s.Unwrapped) ∧
    ∀ s : GuardFunding.Snapshot, s.valid = true →
      (GuardFunding.int32Max - s.purse).toNat + s.purse.toNat = GuardFunding.int32Max.toNat ∧
      (GuardFunding.int32Max - s.balance).toNat + s.balance.toNat = GuardFunding.int32Max.toNat ∧
      s.available.toNat = s.balance.toNat - s.reserve.toNat :=
  ⟨Vendor.desk_lawful.atMostOnce fun _ => rfl, Navigation.desk_lawful.atMostOnce fun _ => rfl,
    GuardUpgrade.desk_lawful.atMostOnce fun _ => rfl,
    GuardFunding.desk_lawful.atMostOnce fun _ => rfl, GuardUpgrade.paced, GuardUpgrade.unwrapped,
    GuardFunding.unwrapped, fun _ => GuardUpgrade.Snapshot.unwrapped_of_eligible,
    fun _ => GuardFunding.Snapshot.unwrapped_of_valid⟩

/-- A page to open: the client shows nothing yet. -/
def firstPage : Navigation.Snapshot := { scene := 1, revision := 1, root := 1, manager := 1 }

def openBuilding : Navigation.Command where
  host := ⟨1, 1, 1⟩
  window := 1
  request := .replicate 16 1
  expected := firstPage
  building := (1, 8)

theorem openBuilding_valid {window : UInt64} (hset : window ≠ 0) (hlimit : window ≤ 0xFFFFFFFF) :
    { openBuilding with window := window }.valid .building = true := by
  have hhost : openBuilding.host.valid = true := by decide
  have hrequest : ¬ isZero openBuilding.request = true := isZero_replicate_of_ne (by decide)
  have hreserved : isZero openBuilding.reserved = true := isZero_replicate 424
  have hexpected : openBuilding.expected.valid = true := by decide
  simp [Navigation.Command.valid, hset, hlimit, hhost, hrequest, hreserved, hexpected]
  decide

variable {s : Navigation.Controller} {e : Execution Navigation.Verb Navigation.Command}

/-- A request without a record is judged by the refusals alone. -/
theorem execute_of_new (hvalid : e.command.valid e.verb = true) (hlive : e.live = true)
    (hverb : e.verb ≠ .inspect) (hnew : s.records.get? e.command.request = none) :
    s.execute e = match s.refusal e with
      | some receipt => (s, receipt, false)
      | none => s.submit e := by
  unfold Navigation.Controller.execute
  cases hrefusal : s.refusal e with
  | some receipt => simp only [hvalid, hlive, hverb, hnew, not_true_eq_false, if_false]
  | none => simp only [hvalid, hlive, hverb, hnew, not_true_eq_false, if_false]

/-- The producer of a valid request is gone. -/
theorem execute_of_gone (hvalid : e.command.valid e.verb = true) (hlive : e.live = false) :
    (s.execute e).2.1.outcome = .stale := by
  unfold Navigation.Controller.execute
  simp only [hvalid, hlive, not_true_eq_false, if_false]
  rfl

/-- What a request for a page that is not open is answered, apart from its record. -/
theorem submit_of_closed
    (hclosed : s.current.opened e.verb e.command.building e.command.vendor = false) :
    (s.submit e).2 = ((s.submit e).1.receipt e.command e.answer (e.answer = .observed), true) := by
  unfold Navigation.Controller.submit
  simp only [hclosed]
  rfl

/-- A request that was refused without a record is judged anew, and a call that the invoker answers
with `invalid` is reported as invalid; a request of a producer that is gone is stale, also when its
key was used for another. -/
theorem refused_request_is_judged_anew :
    let ask (ready live : Bool) (answer : Outcome) (window : UInt64) :
        Execution Navigation.Verb Navigation.Command :=
      { verb := .building
        command := { openBuilding with window := window }
        live := live
        ready := ready
        now := 0
        answer := answer }
    let fresh : Navigation.Controller := {}
    let refused := fresh.execute (ask false true .submitted 1)
    let shown := refused.1.observe firstPage true 0
    refused.2.1.outcome = .unavailable ∧
      (shown.execute (ask true true .submitted 1)).2.1.outcome = .submitted ∧
      (shown.execute (ask true true .invalid 1)).2 =
        ((shown.execute (ask true true .invalid 1)).1.receipt openBuilding .invalid false, true) ∧
      ((shown.execute (ask true true .submitted 1)).1.execute
        (ask true false .submitted 2)).2.1.outcome = .stale := by
  intro ask fresh refused shown
  have hvalid : openBuilding.valid .building = true :=
    openBuilding_valid (by decide) (by decide)
  have hfresh : fresh.execute (ask false true .submitted 1) =
      (fresh, fresh.receipt openBuilding .unavailable false, false) :=
    execute_of_new hvalid rfl (by decide) rfl
  have hrefused : refused = (fresh, fresh.receipt openBuilding .unavailable false, false) := hfresh
  have hshown : shown = fresh.observe firstPage true 0 := by
    show refused.1.observe firstPage true 0 = _
    rw [hrefused]
  have hnew : shown.records.get? openBuilding.request = none := by
    rw [hshown]
    rfl
  have hcurrent : shown.current = firstPage := by
    rw [hshown]
    decide
  have hidle : shown.busy = false := by
    rw [hshown]
    rfl
  have hrecords : shown.records.items.length = 0 := by
    rw [hshown]
    rfl
  clear_value shown
  have hsubmit : ∀ answer, shown.execute (ask true true answer 1) =
      shown.submit (ask true true answer 1) := by
    intro answer
    have hpage : firstPage.valid = true := by decide
    have hrefusal : shown.refusal (ask true true answer 1) = none := by
      simp only [Navigation.Controller.refusal, ask, hidle, hcurrent, hrecords, hpage]
      rfl
    rw [execute_of_new hvalid rfl (by nofun) hnew, hrefusal]
  have hclosed :
      shown.current.opened .building openBuilding.building openBuilding.vendor = false := by
    rw [hcurrent]
    decide
  have hanswer : ∀ answer, (shown.execute (ask true true answer 1)).2 =
      ((shown.execute (ask true true answer 1)).1.receipt openBuilding answer (answer = .observed),
        true) := by
    intro answer
    rw [hsubmit]
    exact submit_of_closed hclosed
  refine ⟨?_, ?_, hanswer .invalid, ?_⟩
  · rw [hrefused]
    rfl
  · rw [hanswer]
    rfl
  · exact execute_of_gone (openBuilding_valid (by decide) (by decide)) rfl

end ShadowbaneLab.Native
