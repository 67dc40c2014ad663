/-
# Expired commands

A command that its owner never started is finished by the next drain once its deadline is over,
whichever family it is of, except for movement.
-/
import ShadowbaneLab.Channel.Commands

namespace ShadowbaneLab.CommandChannel

open Foundation Native Function

variable {env : Env} {wire : Wire} {now : ℕ}

/-! ## What a drain keeps -/

/-- What later parts of a drain leave of a channel: results that are not read stay, and what they
hand over is new. -/
structure Later (c c' : Channel) : Prop where
  resultRead : c'.resultRead = c.resultRead
  resultWrite : c.resultWrite ≤ c'.resultWrite
  results : ∀ n, c.resultRead ≤ n → n < c.resultWrite →
    c'.results (resultIndex n) = c.results (resultIndex n)
  commandRead : c.commandRead ≤ c'.commandRead
  fresh : c.fresh ≤ c'.fresh
  pending : ∀ family command, c'.pending family = some command →
    c.pending family = some command ∨ c.fresh ≤ command
  queue : ∀ family command, c'.queue family = some command →
    c.queue family = some command ∨ c.fresh ≤ command

theorem Later.refl (c : Channel) : Later c c :=
  ⟨rfl, le_rfl, fun _ _ _ => rfl, le_rfl, le_rfl, fun _ _ => .inl, fun _ _ => .inl⟩

theorem Later.trans {c c₁ c₂ : Channel} (h : Later c c₁) (h' : Later c₁ c₂) : Later c c₂ where
  resultRead := h'.resultRead.trans h.resultRead
  resultWrite := h.resultWrite.trans h'.resultWrite
  results n hread hwrite := by
    rw [h'.results n (h.resultRead ▸ hread) (hwrite.trans_le h.resultWrite)]
    exact h.results n hread hwrite
  commandRead := h.commandRead.trans h'.commandRead
  fresh := h.fresh.trans h'.fresh
  pending family command hpending :=
    (h'.pending family command hpending).elim (h.pending family command)
      fun hfresh => .inr (h.fresh.trans hfresh)
  queue family command hqueue :=
    (h'.queue family command hqueue).elim (h.queue family command)
      fun hfresh => .inr (h.fresh.trans hfresh)

/-- The slot of the next result is none of the slots that are not read. -/
theorem resultIndex_ne {c : Channel} (hfree : c.ringFree = true) {n : Int}
    (hread : c.resultRead ≤ n) (hwrite : n < c.resultWrite) :
    resultIndex n ≠ resultIndex c.resultWrite := by
  rw [Channel.ringFree, decide_eq_true_eq] at hfree
  obtain ⟨-, hpositive, -, -, hroom⟩ := hfree
  intro heq
  have hmod : n.toNat % 64 = c.resultWrite.toNat % 64 := congrArg Fin.val heq
  have hcapacity : (resultCapacity : Int) = 64 := rfl
  omega

variable {c c' : Channel}

theorem tryPublishResult_later {sequence : Int} {id : ℕ} {answer : Answer}
    (h : tryPublishResult env c sequence id answer now = some c') : Later c c' := by
  obtain ⟨hfree, slot, -, -, -, rfl⟩ := tryPublishResult_eq_some h
  refine ⟨rfl, ?_, fun n hread hwrite => ?_, le_rfl, le_rfl, fun _ _ => .inl, fun _ _ => .inl⟩
  · show c.resultWrite ≤ c.resultWrite + 1
    omega
  · exact update_of_ne (resultIndex_ne hfree hread hwrite) ..

variable {slot : CommandSlot}

theorem answerAtOnce_later {answer : Answer} (h : answerAtOnce env now c slot answer = .again c') :
    Later c c' := by
  obtain ⟨c₁, hc₁, rfl⟩ := answerAtOnce_again h
  refine (tryPublishResult_later hc₁).trans ?_
  refine ⟨rfl, le_rfl, fun _ _ _ => rfl, ?_, le_rfl, fun _ _ => .inl, fun _ _ => .inl⟩
  show c₁.commandRead ≤ c₁.commandRead + 1
  omega

variable {code : Code}

theorem answerAtOnce_done {answer : Answer} (h : answerAtOnce env now c slot answer = .done code c')
    : c' = c := by
  rw [answerAtOnce] at h
  split at h
  case h_1 => exact (Round.done.inj h).2.symm
  case h_2 => cases h

variable {family : Family}

/-- A command that is handed over is new. -/
theorem enqueue_later {command : Queued} (h : c.enqueue family command = some c') :
    Later c { c' with pending := update c'.pending family (some c.fresh) } := by
  rw [Channel.enqueue] at h
  split at h
  case isTrue => cases h
  case isFalse =>
    cases h
    have hnew {slots : Family → Option ℕ} {other : Family} {p : ℕ}
        (h : update slots family (some c.fresh) other = some p) :
        slots other = some p ∨ c.fresh ≤ p := by
      rcases eq_or_ne other family with rfl | hne
      · rw [update_self] at h
        exact .inr (Option.some.inj h).le
      · rw [update_of_ne hne] at h
        exact .inl h
    exact ⟨rfl, le_rfl, fun _ _ _ => rfl, le_rfl, Nat.le_succ _, fun _ _ => hnew, fun _ _ => hnew⟩

theorem handOver_done (h : handOver env wire now c family slot = .done code c') : Later c c' := by
  have hrefused {answer : Answer} (h : answerAtOnce env now c slot answer = .done code c') :
      Later c c' := answerAtOnce_done h ▸ Later.refl c
  dsimp only [handOver] at h
  split at h
  · split at h
    case h_1 => exact (Round.done.inj h).2 ▸ Later.refl c
    case h_2 => exact hrefused h
    case h_3 =>
      split at h
      · exact (Round.done.inj h).2 ▸ Later.refl c
      · split at h
        case h_1 => exact (Round.done.inj h).2 ▸ Later.refl c
        case h_2 c₁ hc₁ => exact (Round.done.inj h).2 ▸ enqueue_later hc₁
  · exact hrefused h

theorem takeCommand_done (h : takeCommand env wire now c = .done code c') : Later c c' := by
  have hsame {code' : Code} (h : Round.done code' c = .done code c') : Later c c' :=
    (Round.done.inj h).2 ▸ Later.refl c
  rw [takeCommand] at h
  split at h
  · exact hsame h
  split at h
  · exact hsame h
  dsimp only at h
  split at h
  · exact hsame h
  · split at h
    · exact handOver_done h
    · exact answerAtOnce_done h ▸ Later.refl c

/-- However many commands are taken, what was published before stays. -/
theorem takeCommands_later (c : Channel) : Later c (takeCommands env wire now c).2 := by
  induction c using takeCommands.induct env wire now with
  | case1 c code c' hround =>
    rw [takeCommands, hround]
    exact takeCommand_done hround
  | case2 c c' hround ih =>
    rw [takeCommands, hround]
    obtain ⟨-, slot, answer, hanswer⟩ := takeCommand_again hround
    exact (answerAtOnce_later hanswer).trans ih

/-! ## Completion -/

/-- A pending command is finished: its result stands in the ring, it is read, and its slot and
queue are free of it. -/
structure Finished (c c' : Channel) (family : Family) (command : ℕ) : Prop where
  published : ∃ slot : ResultSlot, c'.results (resultIndex c.resultWrite) = slot ∧
    slot.committed = c.resultWrite + 1 ∧
    slot.commandSequence = (c.heap command).sequence ∧ slot.commandId = (c.heap command).id
  counted : c.resultWrite < c'.resultWrite
  advanced : (c.heap command).sequence ≤ c'.commandRead
  cleared : c'.pending family ≠ some command
  released : c'.queue family ≠ some command

theorem Finished.later {c c₁ c₂ : Channel} {command : ℕ} (h : Finished c c₁ family command)
    (hlater : Later c₁ c₂) (hread : c₁.resultRead ≤ c.resultWrite) (hallocated : command < c₁.fresh)
    : Finished c c₂ family command where
  published := by
    rw [hlater.results c.resultWrite hread h.counted]
    exact h.published
  counted := h.counted.trans_le hlater.resultWrite
  advanced := h.advanced.trans hlater.commandRead
  cleared hpending := (hlater.pending family command hpending).elim h.cleared
    fun hfresh => absurd hallocated (not_lt.2 hfresh)
  released hqueue := (hlater.queue family command hqueue).elim h.released
    fun hfresh => absurd hallocated (not_lt.2 hfresh)

/-- The one pending command is queued past its deadline, and its result has room. -/
structure Overdue (now : ℕ) (c : Channel) (family : Family) (command : ℕ) : Prop where
  pending : c.pending family = some command
  others : ∀ other, other ≠ family → c.pending other = none
  allocated : command < c.fresh
  queued : (c.heap command).state = .queued
  late : (c.heap command).deadline < now
  free : c.ringFree = true

theorem tryPublishResult_of_free {c : Channel} {sequence : Int} {id : ℕ} {answer : Answer}
    (hfree : c.ringFree = true) (hdetail : answer.detail.length ≤ detailCapacity) :
    ∃ slot : ResultSlot, slot.committed = c.resultWrite + 1 ∧ slot.commandSequence = sequence ∧
      slot.commandId = id ∧ tryPublishResult env c sequence id answer now = some { c with
        results := update c.results (resultIndex c.resultWrite) slot
        resultWrite := c.resultWrite + 1 } := by
  rw [Channel.ringFree, decide_eq_true_eq] at hfree
  rw [tryPublishResult, if_neg (by omega), if_neg (by omega), if_neg (by omega)]
  exact ⟨_, rfl, rfl, rfl, rfl⟩

section Completion

variable {c : Channel} {family : Family} {command : ℕ} {reply : Option (Queued → Bytes)}
  {answer : Queued → Answer}

theorem finish_none (h : c.pending family = none) :
    finish env now c family reply answer = (.success, c) := by
  rw [finish, h]

theorem release_queue (c : Channel) (family : Family) (command : ℕ) :
    (c.release family command).queue family ≠ some command := by
  rw [Channel.release]
  split
  case isTrue =>
    dsimp only
    rw [update_self]
    nofun
  case isFalse h => exact h

/-- A release changes the queue alone. -/
theorem release_eq (c : Channel) (family : Family) (command : ℕ) :
    ∃ queue, c.release family command = { c with queue := queue } := by
  rw [Channel.release]
  split
  · exact ⟨_, rfl⟩
  · exact ⟨c.queue, rfl⟩

/-- An expired command is answered by the one who finds it. -/
theorem finish_expired {reply : Queued → Bytes} (h : Overdue now c family command)
    (hdetail : ∀ pending, (answer pending).detail.length ≤ detailCapacity) :
    ∃ c', finish env now c family (some reply) answer = (.success, c') ∧
      Finished c c' family command ∧ c'.resultRead = c.resultRead ∧ c'.fresh = c.fresh ∧
      ∀ other, c'.pending other = none := by
  let pending : Queued := { c.heap command with
    receipt := reply (c.heap command)
    diagnostic := []
    executionThread := env.thread
    state := .published }
  let c₁ : Channel := { c with heap := update c.heap command pending }
  have hexpired : c.expire command reply now env.thread = c₁ := if_pos ⟨h.late, h.queued⟩
  have hheap : c₁.heap command = pending := update_self ..
  obtain ⟨slot, hcommitted, hsequence, hid, hpublished⟩ := @tryPublishResult_of_free env now c₁
    pending.sequence pending.id { answer pending with thread := pending.executionThread } h.free
    (hdetail pending)
  let c₂ : Channel := { c₁ with
    results := update c₁.results (resultIndex c₁.resultWrite) slot
    resultWrite := c₁.resultWrite + 1
    commandRead := pending.sequence }
  obtain ⟨queue, hqueue⟩ := release_eq c₂ family command
  let c₃ : Channel := { c₂ with
    queue := queue
    pending := update c₂.pending family none }
  have hreleased : queue family ≠ some command := by
    have h := release_queue c₂ family command
    rw [hqueue] at h
    exact h
  refine ⟨c₃, ?_, ?_, rfl, rfl, fun other => ?_⟩
  · rw [finish, h.pending]
    dsimp only
    rw [hexpired, hheap, if_neg (not_not.2 rfl), hpublished]
    exact congrArg (fun c : Channel =>
      (Code.success, { c with pending := update c.pending family none })) hqueue
  · refine ⟨⟨slot, update_self .., hcommitted, hsequence, hid⟩, ?_, le_rfl, ?_,
      hreleased⟩
    · show c.resultWrite < c.resultWrite + 1
      omega
    · show update c₂.pending family none family ≠ some command
      rw [update_self]
      nofun
  · show update c.pending family none other = none
    rcases eq_or_ne other family with rfl | hne
    · exact update_self ..
    · rw [update_of_ne hne]
      exact h.others other hne

end Completion

/-! ## One drain -/

section Drain

variable {c : Channel} {family : Family} {command : ℕ}

/-- The function that finishes the pending command of a family. -/
def finishOf (env : Env) (wire : Wire) (now : ℕ) (c : Channel) : Family → Code × Channel
  | .actor => finishCombatPending env wire now c
  | .movement => finishPending env now c
  | .vendor => finishVendorPending env now c
  | .cityWindow => finishCityWindowPending env now c
  | .vendorNavigation => finishVendorNavigationPending env now c
  | .vendorMenu => finishVendorMenuPending env now c
  | .condemn => finishCondemnPending env now c
  | .guardUpgrade => finishGuardUpgradePending env now c
  | .guardFunding => finishGuardFundingPending env now c

theorem length_combatDetail (correlated : Bool) (pending : Queued) :
    (combatDetail correlated pending).length ≤ detailCapacity := by
  rw [combatDetail]
  split
  · rw [String.length_ofList]
    exact (List.takeWhile_sublist _).length_le.trans (List.length_take_le ..)
  · decide

/-- A family finishes its command as they all do, and answers it with a reply if it expired. -/
def Expires (finished : Code × Channel) (env : Env) (now : ℕ) (c : Channel) (family : Family) :
    Prop :=
  ∃ reply answer, finished = finish env now c family (some reply) answer ∧
    ∀ pending, (answer pending).detail.length ≤ detailCapacity

theorem finishService_expires {offset magic : ℕ} {accepts : Queued → Bool} {detail : String}
    (h : detail.length ≤ detailCapacity) :
    Expires (finishService env now c family offset magic accepts detail) env now c family :=
  ⟨staleReceipt offset magic, fun pending => receiptAnswer (accepts pending) detail pending, rfl,
    fun _ => h⟩

theorem finishCombatPending_expires : Expires (finishCombatPending env wire now c) env now c .actor := by
  unfold finishCombatPending
  exact ⟨_, _, rfl, fun pending => length_combatDetail _ _⟩

/-- Every family but movement. -/
theorem finishOf_expires (hfamily : family ≠ .movement) :
    Expires (finishOf env wire now c family) env now c family := by
  cases family with
  | actor => exact finishCombatPending_expires
  | movement => exact (hfamily rfl).elim
  | vendor => exact finishService_expires (by decide)
  | cityWindow => exact finishService_expires (by decide)
  | vendorNavigation => exact finishService_expires (by decide)
  | vendorMenu => exact finishService_expires (by decide)
  | condemn => exact finishService_expires (by decide)
  | guardUpgrade => exact finishService_expires (by decide)
  | guardFunding => exact finishService_expires (by decide)

theorem finishOf_none (h : c.pending family = none) :
    finishOf env wire now c family = (.success, c) := by
  rcases eq_or_ne family .movement with rfl | hfamily
  · show finishPending env now c = _
    rw [finishPending, finish_none h]
  · obtain ⟨reply, answer, heq, -⟩ := finishOf_expires hfamily
    rw [heq, finish_none h]

/-- Every family but movement answers its expired command. -/
theorem finishOf_expired (h : Overdue now c family command) (hfamily : family ≠ .movement) :
    ∃ c', finishOf env wire now c family = (.success, c') ∧ Finished c c' family command ∧
      c'.resultRead = c.resultRead ∧ c'.fresh = c.fresh ∧ ∀ other, c'.pending other = none := by
  obtain ⟨reply, answer, heq, hdetail⟩ := finishOf_expires hfamily
  rw [heq]
  exact finish_expired h hdetail

/-- A movement command waits for its owner, expired or not. -/
theorem finishOf_movement (h : Overdue now c .movement command) :
    finishOf env wire now c .movement = (.ioPending, c) := by
  show finishPending env now c = _
  rw [finishPending, finish, h.pending]
  dsimp only
  rw [if_pos]
  rw [h.queued]
  decide

theorem next_success (c : Channel) (after : Channel → Code × Channel) :
    next (.success, c) after = after c := if_pos rfl

/-- Pending commands are finished one family after the other. -/
def finishAll (env : Env) (wire : Wire) (now : ℕ) (rest : Channel → Code × Channel) :
    List Family → Channel → Code × Channel
  | [], c => rest c
  | family :: families, c =>
    next (finishOf env wire now c family) (finishAll env wire now rest families)

variable {rest : Channel → Code × Channel}

variable {families : List Family}

theorem finishAll_none (h : ∀ family ∈ families, c.pending family = none) :
    finishAll env wire now rest families c = rest c := by
  induction families with
  | nil => rfl
  | cons family families ih =>
    rw [finishAll, finishOf_none (h family List.mem_cons_self), next_success]
    exact ih fun other hother => h other (List.mem_cons_of_mem _ hother)

/-- The one pending command decides how they are finished. -/
theorem finishAll_eq {c' : Channel} (hmem : family ∈ families) (hnodup : families.Nodup)
    (hothers : ∀ other, other ≠ family → c.pending other = none)
    (hfinish : finishOf env wire now c family = (code, c'))
    (hrest : ∀ other, other ≠ family → c'.pending other = none) :
    finishAll env wire now rest families c = next (code, c') rest := by
  induction families with
  | nil => cases hmem
  | cons first families ih =>
    obtain ⟨hfirst, hnodup⟩ := List.nodup_cons.1 hnodup
    rw [finishAll]
    rcases eq_or_ne first family with rfl | hne
    · rw [hfinish, next, next]
      refine ite_congr rfl (fun _ => ?_) fun _ => rfl
      exact finishAll_none fun other hother => hrest other fun heq => hfirst (heq ▸ hother)
    · rw [finishOf_none (hothers first hne), next_success]
      exact ih ((List.mem_cons.1 hmem).resolve_left hne.symm) hnodup

/-- The families in the order of `DrainCommands`. -/
def finishOrder : List Family :=
  [.actor, .movement, .vendor, .cityWindow, .vendorNavigation, .vendorMenu, .condemn,
    .guardUpgrade, .guardFunding]

theorem drainCommands_eq (hvalid : c.header.valid = true) : drainCommands env wire now c =
    finishAll env wire now (fun c =>
      if ¬ c.hostLeaseActive env now then (.noData, c) else takeCommands env wire now c)
      finishOrder (refreshCombatCapability env c) := by
  rw [drainCommands, if_neg (not_not.2 hvalid)]
  rfl

/-- What is refreshed of a header changes nothing else. -/
theorem Overdue.refresh (h : Overdue now c family command) :
    Overdue now (refreshCombatCapability env c) family command :=
  ⟨h.pending, h.others, h.allocated, h.queued, h.late, h.free⟩

theorem Channel.ringFree_resultRead {c : Channel} (h : c.ringFree = true) :
    c.resultRead ≤ c.resultWrite := by
  rw [Channel.ringFree, decide_eq_true_eq] at h
  exact h.2.2.1

/-- A drain finishes the one pending command, past its deadline and never started, exactly when
the header is sound and the command is not one of movement. -/
theorem finished_iff (h : Overdue now c family command) :
    Finished c (drainCommands env wire now c).2 family command ↔
      c.header.valid = true ∧ family ≠ .movement := by
  have hmem : family ∈ finishOrder := by cases family <;> decide
  have hrefreshed : Overdue now (refreshCombatCapability env c) family command := h.refresh
  constructor
  · intro hfinished
    by_contra hnot
    refine hfinished.cleared ?_
    by_cases hvalid : c.header.valid = true
    · have hmovement : family = .movement := by
        by_contra hfamily
        exact hnot ⟨hvalid, hfamily⟩
      subst hmovement
      rw [drainCommands_eq hvalid, finishAll_eq hmem (by decide) hrefreshed.others
        (finishOf_movement hrefreshed) hrefreshed.others]
      exact h.pending
    · rw [drainCommands, if_pos hvalid]
      exact h.pending
  · rintro ⟨hvalid, hfamily⟩
    obtain ⟨c', hfinish, hfinished, hread, hfresh, hrest⟩ :=
      @finishOf_expired env wire _ _ _ _ hrefreshed hfamily
    rw [drainCommands_eq hvalid, finishAll_eq hmem (by decide) hrefreshed.others hfinish
      fun other _ => hrest other, next_success]
    have hfinished' : Finished c c' family command :=
      ⟨hfinished.published, hfinished.counted, hfinished.advanced, hfinished.cleared,
        hfinished.released⟩
    have hallocated : command < c'.fresh := hfresh ▸ h.allocated
    have hread' : c'.resultRead ≤ c.resultWrite := hread ▸ Channel.ringFree_resultRead h.free
    split
    · exact hfinished'
    · exact hfinished'.later (takeCommands_later c') hread' hallocated

end Drain

/-! ## A client that is minimised -/

/-- A command of a family is pending, and its owner does not run. -/
def minimised (family : Family) : Channel where
  header := { processId := 7, processCreation := 9, capabilityFlags := 1 }
  commandWrite := 1
  heap _ := { id := 3, sequence := 1, deadline := 5, verb := 8, command := zeros 576 }
  fresh := 1
  pending other := if other = family then some 0 else none
  queue other := if other = family then some 0 else none

/-- A worker that drains it, with no actor service. -/
def worker : Env where
  thread := 4
  tick := 6

/-- No payload is valid, and no actor receipt is correlated. -/
def noWire : Wire where
  valid _ _ _ := false
  correlated _ _ _ := false
  stale _ _ := zeros 384

theorem minimised_overdue (family : Family) : Overdue 6 (minimised family) family 0 where
  pending := if_pos rfl
  others _ hother := if_neg hother
  allocated := Nat.one_pos
  queued := rfl
  late := Nat.lt_succ_self 5
  free := rfl

theorem finished_iff_minimised : Finished (minimised .vendor)
    (drainCommands worker noWire 6 (minimised .vendor)).2 .vendor 0 ↔
      (minimised .vendor).header.valid = true ∧ Family.vendor ≠ .movement :=
  finished_iff (minimised_overdue .vendor)

/-- A movement command is not finished. -/
theorem movement_not_finished : ¬ ∀ (env : Env) (wire : Wire) (now : ℕ) (c : Channel)
    (family : Family) (command : ℕ), c.header.valid = true → Overdue now c family command →
    Finished c (drainCommands env wire now c).2 family command := by
  intro h
  have hpending : (drainCommands worker noWire 6 (minimised .movement)).2.pending .movement =
      some 0 := by decide +kernel
  exact (h worker noWire 6 _ .movement 0 rfl (minimised_overdue .movement)).cleared hpending

end ShadowbaneLab.CommandChannel
