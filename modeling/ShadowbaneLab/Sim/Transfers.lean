/-
# What a resource transfer conserves

`_transfer_resource` reads negative values as zero and writes back what it has read.  So it
conserves the resource of a source that is not negative, if the destination is not negative
either or its maximum keeps it as low.
-/
import ShadowbaneLab.Sim.Environment

namespace ShadowbaneLab

open Foundation

variable {rt : Runtime} {scope : Scope} {s s' : Frame}

/-! ## Amounts are not negative -/

theorem DeterministicRandom.random_nonneg (rng : DeterministicRandom) : 0 ≤ rng.random.1 := by
  show (0 : ℚ) ≤ (rng.nextUint32.1 : ℚ) / 2 ^ 32
  exact div_nonneg (Nat.cast_nonneg _) (by norm_num)

theorem DeterministicRandom.uniform_nonneg {minimum maximum : ℚ} (hminimum : 0 < minimum)
    (hordered : minimum < maximum) (rng : DeterministicRandom) :
    0 ≤ (rng.uniform minimum maximum).1 := by
  have hroll := mul_nonneg (sub_nonneg.2 hordered.le) rng.random_nonneg
  show 0 ≤ minimum + (maximum - minimum) * rng.random.1
  linarith

theorem triangularRoll_nonneg {minimum maximum first second amount : ℚ} (hminimum : 0 < minimum)
    (h : triangularRoll rt minimum maximum first second = .ok amount) : 0 ≤ amount := by
  obtain ⟨hordered, h⟩ := check_bind_eq_ok.1 h
  obtain ⟨hfirst, h⟩ := check_bind_eq_ok.1 h
  obtain ⟨hsecond, h⟩ := check_bind_eq_ok.1 h
  rw [require_eq_ok, decide_eq_true_eq] at hordered hfirst hsecond
  cases h
  -- every rounding keeps what is not negative
  have hspan := rt.f32_nonneg _ (sub_nonneg.2 hordered)
  have hfirst := rt.f32_nonneg _ (mul_nonneg hfirst.1 hspan)
  have hsecond := rt.f32_nonneg _ (mul_nonneg hsecond.1 hspan)
  have hsum := rt.f32_nonneg _ (add_nonneg hfirst hsecond)
  have hhalf := rt.f32_nonneg _ (mul_nonneg hsum (rt.f32_nonneg (1 / 2) (by norm_num)))
  exact rt.f32_nonneg _ (add_nonneg hhalf hminimum.le)

theorem selectOutcome_mem {outcomes : List (ℚ × ℕ)} {selected cumulative : ℕ} {value : ℚ}
    (h : selectOutcome selected cumulative outcomes = some value) :
    ∃ weight, (value, weight) ∈ outcomes := by
  induction outcomes generalizing cumulative with
  | nil => cases h
  | cons outcome outcomes ih =>
    obtain ⟨first, weight⟩ := outcome
    rw [selectOutcome] at h
    by_cases hlt : selected < cumulative + weight
    · rw [if_pos hlt] at h
      cases h
      exact ⟨weight, List.mem_cons_self⟩
    · rw [if_neg hlt] at h
      obtain ⟨weight', hmem⟩ := ih h
      exact ⟨weight', List.mem_cons_of_mem _ hmem⟩

/-- A draw leaves the entities as they are. -/
theorem draw_eq_ok {β : Type} {f : DeterministicRandom → β × DeterministicRandom} {value : β}
    (h : (draw f : Exec scope β).run (execute scope) s = .ok (value, s')) :
    value = (f s.random).1 ∧ s'.entities = s.entities := by
  cases h
  exact ⟨rfl, rfl⟩

variable {requested : ℚ}

/-- Resolving an amount draws from the random source and nothing else. -/
theorem resolveAmount_run {amount : AmountSpec}
    (h : (resolveAmount rt amount).run (execute scope) s = .ok (requested, s')) :
    0 ≤ requested ∧ s'.entities = s.entities := by
  cases amount with
  | fixed value positive =>
    cases h
    exact ⟨positive.le, rfl⟩
  | uniform a =>
    obtain ⟨hvalue, hentities⟩ := draw_eq_ok h
    rw [hvalue]
    exact ⟨DeterministicRandom.uniform_nonneg a.minimum_pos a.ordered s.random, hentities⟩
  | triangular a =>
    rw [resolveAmount] at h
    obtain ⟨first, s₁, hfirst, h⟩ := Program.run_bind_eq_ok.1 h
    obtain ⟨second, s₂, hsecond, h⟩ := Program.run_bind_eq_ok.1 h
    dsimp only [attempt] at h
    have hentities := (draw_eq_ok hsecond).2.trans (draw_eq_ok hfirst).2
    generalize hroll : triangularRoll rt a.minimum a.maximum first second = roll at h
    cases roll with
    | error fault => cases h
    | ok value =>
      cases h
      exact ⟨triangularRoll_nonneg a.minimum_pos hroll, hentities⟩
  | uniformInteger a =>
    rw [resolveAmount] at h
    obtain ⟨offset, s₁, hoffset, h⟩ := Program.run_bind_eq_ok.1 h
    cases h
    exact ⟨Nat.cast_nonneg _, (draw_eq_ok hoffset).2⟩
  | weighted a =>
    rw [resolveAmount] at h
    obtain ⟨selected, s₁, hselected, h⟩ := Program.run_bind_eq_ok.1 h
    generalize hselect : selectOutcome selected 0 a.outcomes = outcome at h
    cases outcome with
    | none => cases h
    | some value =>
      cases h
      obtain ⟨weight, hmem⟩ := selectOutcome_mem hselect
      exact ⟨(a.positive _ hmem).1.le, (draw_eq_ok hselected).2⟩

/-! ## One transfer -/

/-- The value of a scalar, zero where there is none. -/
def Frame.value (frame : Frame) (entityId key : String) : ℚ :=
  ((frame.entities.get? entityId).map fun e => e.scalar key).getD 0

theorem Frame.value_eq {entityId : String} {e : EntityState}
    (h : s.entities.get? entityId = some e) (key : String) :
    s.value entityId key = e.scalar key := by
  rw [value, h]
  rfl

/-- A scalar is written by a rule that reads its value and its maximum. -/
theorem adjust_eq_ok {subject : Living scope} {key : String} {change : ScalarChange}
    {key_ok : Identifier key} {pair : ℚ × ℚ}
    (h : (adjust subject key change key_ok).run (execute scope) s = .ok (pair, s')) :
    ∃ e, s.entities.get? subject.id = some e ∧ pair.1 = change.before (e.scalar key) ∧
      s'.entities = s.entities.modify subject.id (EntityState.adjust key change) := by
  have h := (Program.run_command (execute scope) (.adjust subject key change key_ok) s).symm.trans h
  obtain ⟨e, he, h⟩ := bind_eq_ok.1 h
  rw [Frame.entity] at he
  cases hget : s.entities.get? subject.id with
  | none =>
    rw [hget] at he
    cases he
  | some e' =>
    rw [hget] at he
    cases he
    cases h
    exact ⟨e, rfl, rfl, rfl⟩

theorem emit_inv {draft : EventDraft} {allowed : draft.kind.reserved = false}
    (h : (emit draft allowed : Exec scope Unit).run (execute scope) s = .ok ((), s')) :
    s' = s.record (draft.event scope.tickDurationMs scope.dueTime s.nextEventNumber) := by
  have h := (Program.run_command (execute scope) (.emit draft allowed) s).symm.trans h
  obtain ⟨frame, hframe, h⟩ := bind_eq_ok.1 h
  obtain ⟨_, _, hframe⟩ := bind_eq_ok.1 hframe
  cases hframe
  cases h
  rfl

theorem scalar_adjust (e : EntityState) (key : String) (change : ScalarChange) :
    (e.adjust key change).scalar key = change.after (e.maximums.get? key) (e.scalar key) := by
  rw [EntityState.scalar, EntityState.adjust, Dict.getD, Dict.get?_set_self]
  rfl

/-- The two writes of a transfer: a drain of the source, then a credit of what is there. -/
theorem transferResource_entities {ctx : ItemContext} {effect : TransferResource}
    {source destination : Living scope} {s₁ : Frame} {a : EntityState}
    (hsource : s.entities.get? source.id = some a)
    (hamount : (resolveAmount rt effect.amount).run (execute scope) s = .ok (requested, s₁))
    (h : (transferResource rt ctx effect source destination).run (execute scope) s = .ok ((), s')) :
    s'.entities = (s.entities.modify source.id
        (EntityState.adjust effect.resourceKey (.drain requested))).modify destination.id
      (EntityState.adjust effect.resourceKey
        (.credit (min requested (max 0 (a.scalar effect.resourceKey)) * effect.efficiency))) := by
  rw [transferResource, Program.run_bind, hamount, ok_bind] at h
  obtain ⟨pair, s₂, hdrain, h⟩ := Program.run_bind_eq_ok.1 h
  obtain ⟨sourceBefore, sourceAfter⟩ := pair
  obtain ⟨pair', s₃, hcredit, h⟩ := Program.run_bind_eq_ok.1 h
  obtain ⟨-, hs₁⟩ := resolveAmount_run hamount
  obtain ⟨a', ha', hbefore, hs₂⟩ := adjust_eq_ok hdrain
  obtain ⟨b', -, -, hs₃⟩ := adjust_eq_ok hcredit
  rw [hs₁, hsource] at ha'
  cases ha'
  rw [emit_inv h]
  show s₃.entities = _
  rw [hs₃, hs₂, hs₁, show sourceBefore = _ from hbefore]
  rfl

/-- No resource is created between two entities, or within one. -/
structure Conserves (efficiency source destination source' destination' : ℚ) : Prop where
  drain : source' ≤ source
  sum : source' + destination' ≤ source + destination
  gain : destination' - destination ≤ efficiency * (source - source')

/-- A sum, at most the maximum. -/
def capped : Option ℚ → ℚ → ℚ
  | some maximum, sum => min sum maximum
  | none, sum => sum

variable {maximum : Option ℚ}

theorem credit_after (amount value : ℚ) :
    (ScalarChange.credit amount).after maximum value = capped maximum (max 0 value + amount) := by
  cases maximum <;> rfl

theorem capped_le_iff {sum bound : ℚ} :
    capped maximum sum ≤ bound ↔ sum ≤ bound ∨ ∃ m, maximum = some m ∧ m ≤ bound := by
  cases maximum with
  | none => simp [capped]
  | some m => simp [capped]

variable {efficiency : ℚ} (hefficiency : 0 < efficiency ∧ efficiency ≤ 1) (hrequested : 0 ≤ requested)
include hefficiency hrequested

/-- Two entities: the source has something, and the destination is not lifted to zero. -/
theorem conserves_iff {source destination : ℚ} :
    Conserves efficiency source destination (max 0 source - min requested (max 0 source))
        (capped maximum (max 0 destination + min requested (max 0 source) * efficiency)) ↔
      0 ≤ source ∧ (0 ≤ destination ∨
        ∃ m, maximum = some m ∧ m ≤ destination + efficiency * min requested source) := by
  by_cases hsource : 0 ≤ source
  · rw [max_eq_right hsource]
    have hdrained : 0 ≤ min requested source := le_min hrequested hsource
    have hcredit : min requested source * efficiency ≤ min requested source :=
      mul_le_of_le_one_right hdrained hefficiency.2
    have hnonneg : 0 ≤ min requested source * efficiency :=
      mul_nonneg hdrained hefficiency.1.le
    -- what counts is how much the destination gains
    have hgain : ∀ after, Conserves efficiency source destination
        (source - min requested source) after ↔
          after ≤ destination + efficiency * min requested source := by
      intro after
      constructor
      · intro h
        have hle := h.gain
        rw [sub_sub_cancel] at hle
        linarith
      · intro h
        refine ⟨by linarith, by linarith [mul_comm efficiency (min requested source)], ?_⟩
        rw [sub_sub_cancel]
        linarith
    rw [hgain, capped_le_iff, mul_comm efficiency, add_le_add_iff_right, max_le_iff]
    simp [hsource]
  · -- a negative source is lifted to zero
    have hnegative := not_le.1 hsource
    rw [max_eq_left hnegative.le, min_eq_right hrequested]
    constructor
    · intro h
      have hle := h.drain
      linarith
    · intro h
      exact absurd h.1 hsource

/-- One entity: it is not lifted to zero. -/
theorem conserves_self_iff {value after : ℚ} (hafter : after = capped maximum
      (max 0 (max 0 value - min requested (max 0 value)) +
        min requested (max 0 value) * efficiency)) :
    Conserves efficiency value value after after ↔
      0 ≤ value ∨ ∃ m, maximum = some m ∧ m ≤ value := by
  have hgain : Conserves efficiency value value after after ↔ after ≤ value := by
    constructor
    · exact Conserves.drain
    · intro h
      refine ⟨h, by linarith, ?_⟩
      have hnonneg := mul_nonneg hefficiency.1.le (sub_nonneg.2 h)
      linarith
  have hdrained : 0 ≤ min requested (max 0 value) := le_min hrequested (le_max_left 0 value)
  have hcredit : min requested (max 0 value) * efficiency ≤ min requested (max 0 value) :=
    mul_le_of_le_one_right hdrained hefficiency.2
  rw [hgain, hafter, capped_le_iff]
  refine or_congr_left ⟨fun h => ?_, fun h => ?_⟩
  · have hnonneg := mul_nonneg hdrained hefficiency.1.le
    exact (add_nonneg (le_max_left _ _) hnonneg).trans h
  · rw [max_eq_right h] at hcredit ⊢
    rw [max_eq_right (sub_nonneg.2 (min_le_right _ _))]
    linarith

omit hefficiency hrequested

/-- The code lifts no value to zero: of one entity, or of a source and of a destination. -/
def Liftless (effect : TransferResource) (requested : ℚ) (same : Bool) (a b : EntityState) : Prop :=
  if same then
    0 ≤ a.scalar effect.resourceKey ∨
      ∃ m, a.maximums.get? effect.resourceKey = some m ∧ m ≤ a.scalar effect.resourceKey
  else
    0 ≤ a.scalar effect.resourceKey ∧ (0 ≤ b.scalar effect.resourceKey ∨
      ∃ m, b.maximums.get? effect.resourceKey = some m ∧ m ≤ b.scalar effect.resourceKey +
        effect.efficiency * min requested (a.scalar effect.resourceKey))

namespace TransferResource

variable (effect : TransferResource) (requested : ℚ) (same : Bool) (a b : EntityState)

/-- What is drained of the source. -/
def drained : ℚ := min requested (max 0 (a.scalar effect.resourceKey))

/-- The value of the source after the drain. -/
def sourceAfter : ℚ := max 0 (a.scalar effect.resourceKey) - effect.drained requested a

/-- The value of the destination, which may be the source, with the credit. -/
def credited : ℚ :=
  max 0 (if same then effect.sourceAfter requested a else b.scalar effect.resourceKey) +
    effect.drained requested a * effect.efficiency

/-- Every result of the transfer is a number of the host: nothing is rounded. -/
structure Unrounded (round : ℚ → ℚ) : Prop where
  source : round (effect.sourceAfter requested a) = effect.sourceAfter requested a
  credit : round (effect.drained requested a * effect.efficiency) =
    effect.drained requested a * effect.efficiency
  sum : round (effect.credited requested same a b) = effect.credited requested same a b

/-- The values that `_transfer_resource` leaves on a host that rounds its results. -/
def rounded (round : ℚ → ℚ) : ℚ × ℚ :=
  let sourceAfter := round (effect.sourceAfter requested a)
  let sum := round (max 0 (if same then sourceAfter else b.scalar effect.resourceKey) +
    round (effect.drained requested a * effect.efficiency))
  let destinationAfter := capped (b.maximums.get? effect.resourceKey) sum
  (if same then destinationAfter else sourceAfter, destinationAfter)

variable {effect requested same a b} in
theorem Unrounded.rounded_eq {round : ℚ → ℚ} (h : effect.Unrounded requested same a b round) :
    effect.rounded requested same a b round = effect.rounded requested same a b id := by
  have hsum := h.sum
  rw [credited] at hsum
  simp only [rounded, h.source, h.credit, hsum, id_eq]

end TransferResource

section Results

variable {ctx : ItemContext} {effect : TransferResource} {source destination : Living scope}
  {s₁ : Frame} {a b : EntityState} (hsource : s.entities.get? source.id = some a)
  (hdestination : s.entities.get? destination.id = some b)
  (hamount : (resolveAmount rt effect.amount).run (execute scope) s = .ok (requested, s₁))
  (h : (transferResource rt ctx effect source destination).run (execute scope) s = .ok ((), s'))
include hsource hdestination hamount h

/-- The model leaves the values of a host that rounds nothing. -/
theorem transferResource_values :
    (s'.value source.id effect.resourceKey, s'.value destination.id effect.resourceKey) =
      effect.rounded requested (source.id = destination.id) a b id := by
  have hentities := transferResource_entities hsource hamount h
  by_cases hsame : source.id = destination.id
  · -- both ends are one entity, which is drained and then credited
    rw [hsame] at hsource ⊢
    cases hsource.symm.trans hdestination
    have hget : s'.entities.get? destination.id = some ((a.adjust effect.resourceKey
        (.drain requested)).adjust effect.resourceKey (.credit (min requested
          (max 0 (a.scalar effect.resourceKey)) * effect.efficiency))) := by
      rw [hentities, hsame, Dict.get?_modify_self, Dict.get?_modify_self, hdestination]
      rfl
    rw [Frame.value_eq hget, scalar_adjust, scalar_adjust, credit_after, decide_eq_true rfl]
    rfl
  · have hget : s'.entities.get? source.id = some (a.adjust effect.resourceKey
        (.drain requested)) := by
      rw [hentities, Dict.get?_modify_ne _ _ (Ne.symm hsame), Dict.get?_modify_self, hsource]
      rfl
    have hget' : s'.entities.get? destination.id = some (b.adjust effect.resourceKey
        (.credit (min requested (max 0 (a.scalar effect.resourceKey)) * effect.efficiency))) := by
      rw [hentities, Dict.get?_modify_self, Dict.get?_modify_ne _ _ hsame, hdestination]
      rfl
    rw [Frame.value_eq hget, Frame.value_eq hget', scalar_adjust, scalar_adjust, credit_after,
      decide_eq_false hsame]
    rfl

/-- **A transfer of which nothing is rounded creates no resource exactly when it lifts no negative
value to zero.** -/
theorem transferResource_conserves_iff {round : ℚ → ℚ}
    (hround : effect.Unrounded requested (source.id = destination.id) a b round) :
    effect.rounded requested (source.id = destination.id) a b round =
        (s'.value source.id effect.resourceKey, s'.value destination.id effect.resourceKey) ∧
      (Conserves effect.efficiency (a.scalar effect.resourceKey) (b.scalar effect.resourceKey)
        (s'.value source.id effect.resourceKey) (s'.value destination.id effect.resourceKey) ↔
      Liftless effect requested (source.id = destination.id) a b) := by
  have hvalues := transferResource_values hsource hdestination hamount h
  refine ⟨hround.rounded_eq.trans hvalues.symm, ?_⟩
  obtain ⟨hsource', hdestination'⟩ := Prod.mk.inj hvalues
  have hrequested := (resolveAmount_run hamount).1
  rw [hsource', hdestination', Liftless]
  by_cases hsame : source.id = destination.id
  · rw [hsame] at hsource ⊢
    cases hsource.symm.trans hdestination
    rw [if_pos (decide_eq_true rfl), decide_eq_true rfl]
    exact conserves_self_iff effect.efficiency_ok hrequested rfl
  · rw [if_neg (by simpa using hsame), decide_eq_false hsame]
    exact conserves_iff effect.efficiency_ok hrequested

end Results

/-! ## Two drains -/

/-- Half of at most five mana goes from the target to the actor. -/
def manaDrain : TransferResource where
  fromSubject := .target
  toSubject := .actor
  resourceKey := "mana"
  amount := .fixed 5 (by decide)
  efficiency := 1 / 2
  subjects_ne := by decide
  entities := by decide
  resourceKey_ok := by decide
  efficiency_ok := by norm_num

def drainContext : ItemContext where
  actorId := "caster"
  correlationId := "drain"
  actionKey := "drain"
  binding := { actorId := "caster" }
  actorId_ok := by decide
  correlationId_ok := by decide
  actionKey_ok := by decide

def drainScope : Scope := ⟨100, {"caster", "target"}, 0⟩

/-- An actor with mana. -/
def manaHolder (entityId : String) (mana : ℚ) : EntityState where
  entityId := entityId
  lifeId := "life:" ++ entityId
  kind := .actor
  teamId := none
  position := Vector2.zero
  scalars := Dict.ofList [("mana", mana)]

def drainFrame (casterMana targetMana : ℚ) : Frame where
  tick := 0
  nowMs := 0
  random := DeterministicRandom.init 0
  entities := Dict.ofList
    [("caster", manaHolder "caster" casterMana), ("target", manaHolder "target" targetMana)]
  scheduled := []
  executions := ∅
  cancelledTokens := ∅
  nextScheduleOrder := 0
  nextEventNumber := 0

def drainCaster : Living drainScope := ⟨"caster", by decide⟩

def drainTarget : Living drainScope := ⟨"target", by decide⟩

/-- The drain runs; `P` holds of the mana that is left and of the mana that the actor has. -/
theorem drain_run (casterMana targetMana : ℚ) (P : ℚ → ℚ → Bool)
    (h : (match (transferResource Runtime.sample drainContext manaDrain drainTarget
        drainCaster).run (execute drainScope) (drainFrame casterMana targetMana) with
      | .ok (_, s') => P (s'.value "target" "mana") (s'.value "caster" "mana")
      | .error _ => false) = true) :
    ∃ s', (transferResource Runtime.sample drainContext manaDrain drainTarget drainCaster).run
        (execute drainScope) (drainFrame casterMana targetMana) = .ok ((), s') ∧
      P (s'.value "target" "mana") (s'.value "caster" "mana") = true := by
  split at h
  · rename_i s' hrun
    exact ⟨s', hrun, h⟩
  · cases h

/-- A target that is one mana below zero is left with zero, and the actor has none the less. -/
theorem transferResource_lifts :
    ∃ s', (transferResource Runtime.sample drainContext manaDrain drainTarget drainCaster).run
        (execute drainScope) (drainFrame 2 (-1)) = .ok ((), s') ∧
      ¬ Conserves manaDrain.efficiency (-1) 2 (s'.value "target" "mana")
        (s'.value "caster" "mana") := by
  obtain ⟨s', hrun, hvalues⟩ := drain_run 2 (-1)
    (fun target caster => target = 0 ∧ caster = 2) (by decide +kernel)
  refine ⟨s', hrun, fun h => ?_⟩
  have hdrain := h.drain
  rw [(of_decide_eq_true hvalues).1] at hdrain
  norm_num at hdrain

/-- Three mana are drained, of which half arrives. -/
theorem transferResource_conserves_three :
    ∃ s', (transferResource Runtime.sample drainContext manaDrain drainTarget drainCaster).run
        (execute drainScope) (drainFrame 2 3) = .ok ((), s') ∧
      s'.value "target" "mana" = 0 ∧ s'.value "caster" "mana" = 7 / 2 ∧
        Conserves (1 / 2) 3 2 (s'.value "target" "mana") (s'.value "caster" "mana") := by
  obtain ⟨s', hrun, hvalues⟩ := drain_run 2 3
    (fun target caster => target = 0 ∧ caster = 7 / 2) (by decide +kernel)
  obtain ⟨htarget, hcaster⟩ := of_decide_eq_true hvalues
  refine ⟨s', hrun, htarget, hcaster, ?_⟩
  have hamount : (resolveAmount Runtime.sample manaDrain.amount).run (execute drainScope)
      (drainFrame 2 3) = .ok (5, drainFrame 2 3) := rfl
  have hround : manaDrain.Unrounded 5 (drainTarget.id = drainCaster.id) (manaHolder "target" 3)
      (manaHolder "caster" 2) id := ⟨rfl, rfl, rfl⟩
  refine (transferResource_conserves_iff rfl rfl hamount hrun hround).2.2 ?_
  rw [Liftless, if_neg (by decide)]
  refine ⟨?_, .inl ?_⟩
  · show (0 : ℚ) ≤ 3
    norm_num
  · show (0 : ℚ) ≤ 2
    norm_num

end ShadowbaneLab
