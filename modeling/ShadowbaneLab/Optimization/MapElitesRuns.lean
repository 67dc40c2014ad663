/-
# What an archive keeps

Each cell of an archive holds an evaluation that no other of the cell beats; a search never loses
quality and evaluates no candidate twice.
-/
import ShadowbaneLab.Optimization.MapElitesOrder

namespace ShadowbaneLab.MapElites

open Foundation List

variable {T σ α : Type}

variable {insertions : List (Insertion T)}

variable {i : Insertion T}

namespace MapElitesArchive

/-! ## Insertions into an archive without cells -/

/-- An insertion is admitted, and belongs to the cell of some coordinates. -/
def Lands (archive : MapElitesArchive T) (i : Insertion T) (coordinates : List ℕ) : Prop :=
  archive.Admits i.evaluation ∧ coordinatesFor archive.axes i.evaluation = .ok coordinates

variable {cell : MapElitesCell T}

theorem proposal_eq_some {archive : MapElitesArchive T} :
    archive.proposal i = some cell ↔
      archive.Lands i cell.coordinates ∧ cell.candidate = i.candidate ∧
        cell.evaluation = i.evaluation := by
  rw [proposal, Lands, Admits, ← not_lt]
  split
  case isTrue hlow =>
    constructor
    · intro h
      cases h
    · exact fun h => absurd hlow h.1.1
  case isFalse hhigh =>
    cases hcoordinates : coordinatesFor archive.axes i.evaluation with
    | error message =>
      constructor
      · intro h
        cases h
      · intro h
        cases h.1.2
    | ok coordinates =>
      constructor
      · intro h
        cases h
        exact ⟨⟨hhigh, rfl⟩, rfl, rfl⟩
      · rintro ⟨⟨-, heq⟩, hcandidate, hevaluation⟩
        cases heq
        rw [← hcandidate, ← hevaluation]

/-- Different evaluations of one cell do not tie for the best of the insertions. -/
def Settled (archive : MapElitesArchive T) (insertions : List (Insertion T)) : Prop :=
  ∀ i ∈ insertions, ∀ j ∈ insertions, ∀ coordinates,
    archive.Lands i coordinates → archive.Lands j coordinates →
      (∀ k ∈ insertions, archive.Lands k coordinates →
        better k.evaluation i.evaluation = false ∧ better k.evaluation j.evaluation = false) →
      i.evaluation = j.evaluation

theorem elite_iff {archive : MapElitesArchive T} :
    Elite MapElitesCell.coordinates MapElitesCell.standing
        (insertions.filterMap archive.proposal) cell ↔
      (∃ i ∈ insertions, archive.proposal i = some cell) ∧ ∀ k ∈ insertions,
        archive.Lands k cell.coordinates → better k.evaluation cell.evaluation = false := by
  constructor
  · rintro ⟨hmem, hle⟩
    refine ⟨mem_filterMap.1 hmem, fun k hk hlands => ?_⟩
    have hproposal : archive.proposal k = some ⟨cell.coordinates, k.candidate, k.evaluation⟩ :=
      proposal_eq_some.2 ⟨hlands, rfl, rfl⟩
    have hstanding := hle _ (mem_filterMap.2 ⟨k, hk, hproposal⟩) rfl
    exact Bool.eq_false_iff.2 fun hbetter => absurd (better_iff.1 hbetter) (not_lt.2 hstanding)
  · rintro ⟨hmem, hbest⟩
    refine ⟨mem_filterMap.2 hmem, fun other hother hplace => ?_⟩
    obtain ⟨k, hk, hproposal⟩ := mem_filterMap.1 hother
    obtain ⟨hlands, -, hevaluation⟩ := proposal_eq_some.1 hproposal
    have hworse := hbest k hk (hplace ▸ hlands)
    rw [← hevaluation] at hworse
    exact not_lt.1 fun hlt => Bool.eq_false_iff.1 hworse (better_iff.2 hlt)

theorem settled_iff {archive : MapElitesArchive T} :
    archive.Settled insertions ↔ ∀ a b, Elite MapElitesCell.coordinates MapElitesCell.standing
        (insertions.filterMap archive.proposal) a →
      Elite MapElitesCell.coordinates MapElitesCell.standing
        (insertions.filterMap archive.proposal) b →
      a.coordinates = b.coordinates → a.evaluation = b.evaluation := by
  constructor
  · intro h a b ha hb hplace
    obtain ⟨⟨i, hi, ha⟩, hbest⟩ := elite_iff.1 ha
    obtain ⟨⟨j, hj, hb⟩, hbest'⟩ := elite_iff.1 hb
    obtain ⟨hlands, -, hevaluation⟩ := proposal_eq_some.1 ha
    obtain ⟨hlands', -, hevaluation'⟩ := proposal_eq_some.1 hb
    rw [← hplace] at hlands' hbest'
    rw [hevaluation, hevaluation']
    refine h i hi j hj a.coordinates hlands hlands' fun k hk hk' => ?_
    exact ⟨hevaluation ▸ hbest k hk hk', hevaluation' ▸ hbest' k hk hk'⟩
  · intro h i hi j hj coordinates hlands hlands' hbest
    let cellOf (k : Insertion T) : MapElitesCell T := ⟨coordinates, k.candidate, k.evaluation⟩
    refine h (cellOf i) (cellOf j) (elite_iff.2 ⟨⟨i, hi, ?_⟩, fun k hk hk' => (hbest k hk hk').1⟩)
      (elite_iff.2 ⟨⟨j, hj, ?_⟩, fun k hk hk' => (hbest k hk hk').2⟩) rfl
    · exact proposal_eq_some.2 ⟨hlands, rfl, rfl⟩
    · exact proposal_eq_some.2 ⟨hlands', rfl, rfl⟩

/-- What insertions leave of an archive that had no cells. -/
structure Elitist (archive : MapElitesArchive T) (insertions : List (Insertion T))
    (final : MapElitesArchive T) : Prop where
  admitted : ∀ coordinates cell, final.cells.get? coordinates = some cell →
    archive.Admits cell.evaluation
  inserted : ∀ coordinates cell, final.cells.get? coordinates = some cell →
    ∃ i ∈ insertions, archive.Lands i coordinates ∧ cell = ⟨coordinates, i.candidate, i.evaluation⟩
  unbeaten : ∀ coordinates cell, final.cells.get? coordinates = some cell → ∀ i ∈ insertions,
    archive.Lands i coordinates → better i.evaluation cell.evaluation = false
  filled : ∀ i ∈ insertions, ∀ coordinates, archive.Lands i coordinates →
    ∃ cell, final.cells.get? coordinates = some cell

/-- What accepted insertions into an archive without cells end with. -/
def filled (archive : MapElitesArchive T) (insertions : List (Insertion T)) : MapElitesArchive T :=
  { archive with
    cells := elites MapElitesCell.coordinates MapElitesCell.standing
      (insertions.filterMap archive.proposal) }

theorem insertAll_eq_filled {archive : MapElitesArchive T} (hempty : archive.cells = .empty)
    (h : ∀ i ∈ insertions, archive.Accepts i) :
    archive.insertAll insertions = .ok (archive.filled insertions) := by
  rw [insertAll_spec h, hempty]
  rfl

theorem filled_filed (archive : MapElitesArchive T) (insertions : List (Insertion T)) :
    (archive.filled insertions).Filed :=
  fun _ _ h => (Elite.of_get? h).2

theorem filled_elitist (archive : MapElitesArchive T) (insertions : List (Insertion T)) :
    archive.Elitist insertions (archive.filled insertions) := by
  have hcell {coordinates : List ℕ} {cell : MapElitesCell T}
      (h : (archive.filled insertions).cells.get? coordinates = some cell) :
      (∃ i ∈ insertions, archive.Lands i coordinates ∧
        cell = ⟨coordinates, i.candidate, i.evaluation⟩) ∧ ∀ i ∈ insertions,
          archive.Lands i coordinates → better i.evaluation cell.evaluation = false := by
    obtain ⟨helite, rfl⟩ := Elite.of_get? h
    obtain ⟨⟨i, hi, hproposal⟩, hbest⟩ := elite_iff.1 helite
    obtain ⟨hlands, hcandidate, hevaluation⟩ := proposal_eq_some.1 hproposal
    refine ⟨⟨i, hi, hlands, ?_⟩, hbest⟩
    rw [← hcandidate, ← hevaluation]
  refine ⟨fun coordinates cell h => ?_, fun _ _ h => (hcell h).1, fun _ _ h => (hcell h).2,
    fun i hi coordinates hlands => ?_⟩
  · obtain ⟨i, -, hlands, rfl⟩ := (hcell h).1
    exact hlands.1
  · let cell : MapElitesCell T := ⟨coordinates, i.candidate, i.evaluation⟩
    have hproposal : archive.proposal i = some cell := proposal_eq_some.2 ⟨hlands, rfl, rfl⟩
    have hmem : cell ∈ insertions.filterMap archive.proposal :=
      mem_filterMap.2 ⟨i, hi, hproposal⟩
    exact exists_get?_elites hmem

/-! ## The best quality -/

theorem fst_le_of_toLex_le {β γ : Type} [LinearOrder β] [LinearOrder γ] {a b : β} {x y : γ}
    (h : toLex (a, x) ≤ toLex (b, y)) : a ≤ b := by
  rcases Prod.Lex.toLex_le_toLex.1 h with hlt | ⟨heq, -⟩
  · exact le_of_lt hlt
  · exact le_of_eq heq

theorem exists_best {archive : MapElitesArchive T} (h : cell ∈ archive.cells.values) :
    ∃ best, archive.best = some best ∧ cell.evaluation.quality ≤ best.evaluation.quality := by
  cases hbest : archive.best with
  | none =>
    rw [leastBy_eq_none.1 hbest] at h
    cases h
  | some best =>
    refine ⟨best, rfl, ?_⟩
    exact neg_le_neg_iff.1 (fst_le_of_toLex_le (le_of_leastBy h hbest))

/-- A proposal does not lower the best quality. -/
theorem bestQuality_le_challenged (archive : MapElitesArchive T)
    (proposal : Option (MapElitesCell T)) :
    archive.bestQuality ≤ (archive.challenged proposal).bestQuality := by
  cases proposal with
  | none => exact le_rfl
  | some cell =>
    cases hbest : archive.best with
    | none =>
      have hbottom : archive.bestQuality = ⊥ := congrArg (Option.map _) hbest
      rw [hbottom]
      exact bot_le
    | some best =>
      obtain ⟨coordinates, hget⟩ := Dict.mem_values_iff.1 (mem_of_leastBy hbest)
      obtain ⟨held, hheld, hstanding⟩ : ∃ held, (archive.challenged (some cell)).cells.get?
          coordinates = some held ∧ held.standing ≤ best.standing :=
        archive.cells.rank_challenge_le cell hget
      obtain ⟨best', hbest', hquality⟩ := exists_best (Dict.mem_values_iff.2 ⟨coordinates, hheld⟩)
      have hle : best.evaluation.quality ≤ held.evaluation.quality :=
        neg_le_neg_iff.1 (fst_le_of_toLex_le hstanding)
      rw [bestQuality, bestQuality, hbest, hbest']
      exact WithBot.coe_le_coe.2 (hle.trans hquality)

end MapElitesArchive

/-! ## Searches -/

/-- No candidate was evaluated twice, and the best quality never went down. -/
structure Sound (s : Search T σ) : Prop where
  once : s.evaluations.Nodup
  seen : ∀ value ∈ s.evaluations, value ∈ s.seen
  rises : s.bests.Pairwise (· ≤ ·)
  latest : s.bests.getLast? = some s.archive.bestQuality

variable {s : Search T σ}

theorem Sound.le_latest (h : Sound s) : ∀ quality ∈ s.bests, quality ≤ s.archive.bestQuality := by
  obtain ⟨before, hbests⟩ := List.getLast?_eq_some_iff.1 h.latest
  intro quality hquality
  rw [hbests, mem_append, mem_singleton] at hquality
  rcases hquality with hmem | rfl
  · have hrises := h.rises
    rw [hbests] at hrises
    exact (pairwise_append.1 hrises).2.2 quality hmem _ (mem_singleton_self _)
  · exact le_rfl

/-- An insertion that does not raise keeps a search sound. -/
theorem Sound.inserted (h : Sound s) {result : MapElitesInsertStatus × MapElitesArchive T}
    (hresult : s.archive.insert i.candidate i.evaluation i.candidateDigest = .ok result) :
    Sound (s.inserted result) := by
  have hle : s.archive.bestQuality ≤ result.2.bestQuality := by
    rw [MapElitesArchive.insert_spec hresult]
    exact s.archive.bestQuality_le_challenged _
  refine ⟨h.once, h.seen, ?_, List.getLast?_concat⟩
  refine pairwise_append.2 ⟨h.rises, pairwise_singleton _ _, fun q hq q' hq' => ?_⟩
  rw [mem_singleton.1 hq']
  exact (h.le_latest q hq).trans hle

/-- A digest that was not seen before is evaluated. -/
theorem Sound.evaluates (h : Sound s) {value : String} (hnew : value ∉ s.seen) :
    Sound { s with seen := value :: s.seen, evaluations := s.evaluations ++ [value] } := by
  refine ⟨?_, fun other hother => ?_, h.rises, h.latest⟩
  · refine nodup_append.2 ⟨h.once, nodup_singleton _, fun a ha b hb hab => ?_⟩
    rw [hab, mem_singleton.1 hb] at ha
    exact hnew (h.seen _ ha)
  · rcases mem_append.1 hother with hmem | hmem
    · exact mem_cons_of_mem _ (h.seen _ hmem)
    · exact mem_singleton.1 hmem ▸ mem_cons_self

variable {mechanics : Mechanics T σ}

theorem raise_keeps {inv : Search T σ → Prop} (x : Except String α) :
    Keeps inv (raise x : Step T σ α) := by
  cases x with
  | ok a => exact .pure a
  | error message => exact .throw message

theorem call_keeps {f : σ → Except String α × σ} : Keeps Sound (call f : Step T σ α) :=
  .bind (.modifyGet fun _ h => ⟨h.once, h.seen, h.rises, h.latest⟩) raise_keeps

theorem digestOf_keeps (candidate : T) : Keeps Sound (digestOf mechanics candidate) :=
  call_keeps.bind fun _ => (raise_keeps _).bind fun _ => .pure _

theorem consider_keeps (candidate : T) : Keeps Sound (consider mechanics candidate) := by
  refine (digestOf_keeps candidate).bind fun value => .get_keep fun s hs => ?_
  refine .ite (fun _ => .modify fun s' hs' => ?_) fun hnew => ?_
  · exact ⟨hs'.1.once, hs'.1.seen, hs'.1.rises, hs'.1.latest⟩
  refine .bind_via (fun _ => Sound) (.modify fun s' hs' => ?_) fun _ => ?_
  · rw [hs'.2]
    exact hs.evaluates hnew
  refine call_keeps.bind fun evaluation => ?_
  cases evaluation with
  | none => exact .modify fun _ h => ⟨h.once, h.seen, h.rises, h.latest⟩
  | some evaluation =>
    refine .bind (.modify fun _ h => ⟨h.once, h.seen, h.rises, h.latest⟩) fun _ => ?_
    refine .get_keep fun s hs => ?_
    cases hinsert : s.archive.insert candidate evaluation value with
    | error message => exact .throw fun s' hs' => hs'.1
    | ok result =>
      refine .modify fun s' hs' => ?_
      rw [hs'.2]
      exact hs.inserted (i := ⟨candidate, evaluation, value⟩) hinsert

theorem collect_keeps (candidates : List T) (initial : Dict String T) :
    Keeps Sound (candidates.foldlM (collect mechanics) initial) := by
  induction candidates generalizing initial with
  | nil => exact .pure initial
  | cons candidate candidates ih =>
    rw [foldlM_cons]
    refine .bind ?_ ih
    exact (digestOf_keeps candidate).bind fun _ => .ite (.throw _) (.pure _)

theorem iterate_keeps (initialPool : List T) (random : DeterministicRandom) :
    Keeps Sound (iterate mechanics initialPool random) := by
  refine .get_bind fun s => (raise_keeps _).bind fun drawn => ?_
  dsimp only
  split
  · exact .throw _
  · refine call_keeps.bind fun mutated => ?_
    split
    · refine .bind (.modify fun _ h => ?_) fun _ => .pure _
      exact ⟨h.once, h.seen, h.rises, h.latest⟩
    · exact .bind (consider_keeps _) fun _ => .pure _

theorem iterations_keeps (initialPool : List T) (n : ℕ) (random : DeterministicRandom) :
    Keeps Sound (iterations mechanics initialPool n random) := by
  induction n generalizing random with
  | zero => exact .pure _
  | succ n ih => exact (iterate_keeps initialPool random).bind ih

theorem runMapElites_keeps (initialCandidates : List T) (count seed : ℤ) :
    Keeps Sound (runMapElites mechanics initialCandidates count seed) := by
  refine (raise_keeps _).bind fun _ => (raise_keeps _).bind fun _ => (raise_keeps _).bind fun _ => ?_
  refine (collect_keeps initialCandidates .empty).bind fun initial => ?_
  refine .bind (.forM fun candidate _ => consider_keeps candidate) fun _ => ?_
  refine (iterations_keeps _ _ _).bind fun _ => .get_bind fun s => .pure _

/-! ## The order of insertions -/

/-- Any two orders of the insertions end with the same cells. -/
def OrderIrrelevant (canonicalDigest : ArchiveDict → String) (archive : MapElitesArchive T)
    (insertions : List (Insertion T)) : Prop :=
  ∀ l₁ l₂ : List (Insertion T), l₁.Perm insertions → l₂.Perm insertions →
    ∃ end₁ end₂, archive.insertAll l₁ = .ok end₁ ∧ archive.insertAll l₂ = .ok end₂ ∧
      SameCells canonicalDigest end₁ end₂

theorem init_cells {axes : List DescriptorAxis} {requiredAdmission : ArchiveAdmission}
    {archive : MapElitesArchive T} (h : MapElitesArchive.init axes requiredAdmission = .ok archive) :
    archive.cells = .empty := by
  rw [MapElitesArchive.init, check_bind_eq_ok, check_bind_eq_ok] at h
  obtain ⟨-, -, h⟩ := h
  cases h
  rfl

theorem orderIrrelevant_iff_settled {canonicalDigest : ArchiveDict → String}
    {archive : MapElitesArchive T} (hempty : archive.cells = .empty)
    (haccepts : ∀ i ∈ insertions, archive.Accepts i) :
    OrderIrrelevant canonicalDigest archive insertions ↔ archive.Settled insertions := by
  have hends {l : List (Insertion T)} (hperm : l.Perm insertions) :
      archive.insertAll l = .ok (archive.filled l) :=
    MapElitesArchive.insertAll_eq_filled hempty fun i hi => haccepts i (hperm.mem_iff.1 hi)
  rw [MapElitesArchive.settled_iff, ← elites_agree_iff]
  constructor
  · intro h l₁ l₂ hperm₁ hperm₂
    obtain ⟨end₁, end₂, hend₁, hend₂, hsame⟩ := h l₁ l₂ hperm₁ hperm₂
    rw [hends hperm₁] at hend₁
    rw [hends hperm₂] at hend₂
    cases hend₁
    cases hend₂
    exact hsame.cells
  · intro h l₁ l₂ hperm₁ hperm₂
    refine ⟨_, _, hends hperm₁, hends hperm₂, ?_⟩
    exact sameCells_of_cells rfl rfl (archive.filled_filed l₁) (archive.filled_filed l₂)
      (h l₁ l₂ hperm₁ hperm₂)

/-- The order of accepted insertions does not matter if and only if no two different evaluations of
a cell tie for its best; each order leaves the best admitted ones, and a search neither loses quality
nor evaluates a candidate twice. -/
theorem orderIrrelevant_iff (canonicalDigest : ArchiveDict → String) {axes : List DescriptorAxis}
    {requiredAdmission : ArchiveAdmission} {archive : MapElitesArchive T}
    (hinit : MapElitesArchive.init axes requiredAdmission = .ok archive)
    {insertions : List (Insertion T)} (haccepts : ∀ i ∈ insertions, archive.Accepts i) :
    (OrderIrrelevant canonicalDigest archive insertions ↔ archive.Settled insertions) ∧
      (∀ l final, l.Perm insertions → archive.insertAll l = .ok final →
        archive.Elitist insertions final) ∧
      ∀ (σ : Type) (mechanics : Mechanics T σ) (world : σ) (start : MapElitesArchive T)
        (initialCandidates : List T) (count seed : ℤ),
        Sound (finalState (runMapElites mechanics initialCandidates count seed)
          { world := world, archive := start, bests := [start.bestQuality] }) := by
  have hempty := init_cells hinit
  refine ⟨orderIrrelevant_iff_settled hempty haccepts, fun l final hperm hend => ?_, ?_⟩
  · rw [MapElitesArchive.insertAll_eq_filled hempty fun i hi =>
      haccepts i (hperm.mem_iff.1 hi)] at hend
    cases hend
    have helitist := archive.filled_elitist l
    refine ⟨helitist.admitted, fun coordinates cell h => ?_, fun coordinates cell h i hi => ?_,
      fun i hi => helitist.filled i (hperm.mem_iff.2 hi)⟩
    · obtain ⟨i, hi, hlands⟩ := helitist.inserted coordinates cell h
      exact ⟨i, hperm.mem_iff.1 hi, hlands⟩
    · exact helitist.unbeaten coordinates cell h i (hperm.mem_iff.2 hi)
  · intro σ mechanics world start initialCandidates count seed
    refine Ensures.finalState (runMapElites_keeps initialCandidates count seed) ?_
    exact ⟨nodup_nil, nofun, pairwise_singleton _ _, rfl⟩

/-! ## One candidate that is measured twice -/

namespace Remeasured

def one : Floating := .finite false 1 zero_le_one

def two : Floating := .finite false 2 zero_le_two

def axis : DescriptorAxis := ⟨⟨"pace", [one]⟩, by decide⟩

def fields (quality wins : Floating) : EvaluationFields where
  candidateDigest := String.ofList (List.replicate 64 'a')
  quality := quality
  admission := .strict
  features := [("pace", one)]
  metrics := [("wins", wins)]

def first : Insertion Unit :=
  ⟨(), ⟨fields one one, by decide⟩, (fields one one).candidateDigest⟩

def second : Insertion Unit :=
  ⟨(), ⟨fields one two, by decide +kernel⟩, (fields one two).candidateDigest⟩

/-- A third measurement, of a higher quality. -/
def third : Insertion Unit :=
  ⟨(), ⟨fields two two, by decide +kernel⟩, (fields two two).candidateDigest⟩

def archive : MapElitesArchive Unit := ⟨[axis], .strict, .empty⟩

theorem init_archive : MapElitesArchive.init [axis] .strict = .ok archive := by
  refine check_bind_eq_ok.2 ⟨check_eq_ok.2 (by decide), ?_⟩
  exact check_bind_eq_ok.2 ⟨check_eq_ok.2 (by decide), rfl⟩

theorem accepts : ∀ i ∈ [first, second, third], archive.Accepts i := by
  have hok : ∀ i ∈ [first, second, third],
      (archive.insert i.candidate i.evaluation i.candidateDigest).toOption.isSome = true := by
    intro i hi
    simp only [mem_cons, not_mem_nil, or_false] at hi
    rcases hi with rfl | rfl | rfl
    · decide +kernel
    · decide +kernel
    · decide +kernel
  intro i hi
  have hi := hok i hi
  unfold MapElitesArchive.Accepts
  cases hinsert : archive.insert i.candidate i.evaluation i.candidateDigest with
  | ok result => exact ⟨result, rfl⟩
  | error message =>
    rw [hinsert] at hi
    cases hi

theorem accepts_tied : ∀ i ∈ [first, second], archive.Accepts i :=
  fun i hi => accepts i (mem_append_left [third] hi)

/-- The third measurement beats the others, which tie. -/
theorem settled : archive.Settled [first, second, third] := by
  -- Nothing but the third measurement is unbeaten, so nothing ties with it.
  have hthird : ∀ i ∈ [first, second, third], ∀ coordinates, archive.Lands i coordinates →
      (∀ k ∈ [first, second, third], archive.Lands k coordinates →
        better k.evaluation i.evaluation = false) → i = third := by
    intro i hi coordinates hlands hbest
    have hbest := hbest third (by simp)
    simp only [mem_cons, not_mem_nil, or_false] at hi
    rcases hi with rfl | rfl | rfl
    · exact absurd (hbest hlands) (by decide +kernel)
    · exact absurd (hbest hlands) (by decide +kernel)
    · rfl
  intro i hi j hj coordinates hlands hlands' hbest
  rw [hthird i hi coordinates hlands fun k hk hk' => (hbest k hk hk').1,
    hthird j hj coordinates hlands' fun k hk hk' => (hbest k hk hk').2]

/-- The metrics in the one cell that is filled. -/
def metricsAfter (insertions : List (Insertion Unit)) : Option (Option (List (String × Floating))) :=
  (archive.insertAll insertions).toOption.map fun final =>
    ((final.cells.mapValues MapElitesCell.evaluation).get? [1]).map (·.val.metrics)

end Remeasured

theorem orderIrrelevant_iff_remeasured :
    (OrderIrrelevant (fun _ => "") Remeasured.archive [Remeasured.first, Remeasured.second] ↔
      Remeasured.archive.Settled [Remeasured.first, Remeasured.second]) ∧
    OrderIrrelevant (fun _ => "") Remeasured.archive
      [Remeasured.first, Remeasured.second, Remeasured.third] :=
  ⟨(orderIrrelevant_iff _ Remeasured.init_archive Remeasured.accepts_tied).1,
    (orderIrrelevant_iff _ Remeasured.init_archive Remeasured.accepts).1.2 Remeasured.settled⟩

/-- The cell keeps whichever measurement is inserted first. -/
theorem remeasured_first_wins : ¬ ∀ (canonicalDigest : ArchiveDict → String)
    (axes : List DescriptorAxis) (requiredAdmission : ArchiveAdmission)
    (archive : MapElitesArchive Unit) (insertions : List (Insertion Unit)),
    MapElitesArchive.init axes requiredAdmission = .ok archive →
      (∀ i ∈ insertions, archive.Accepts i) →
        OrderIrrelevant canonicalDigest archive insertions := by
  intro h
  obtain ⟨end₁, end₂, hend₁, hend₂, hsame⟩ := h (fun _ => "") [Remeasured.axis] .strict
    Remeasured.archive [Remeasured.first, Remeasured.second] Remeasured.init_archive
    Remeasured.accepts_tied [Remeasured.first, Remeasured.second]
    [Remeasured.second, Remeasured.first]
    (.refl _) (.swap _ _ _)
  have hfirst : Remeasured.metricsAfter [Remeasured.first, Remeasured.second] =
      some (some [("wins", Remeasured.one)]) := by decide +kernel
  have hsecond : Remeasured.metricsAfter [Remeasured.second, Remeasured.first] =
      some (some [("wins", Remeasured.two)]) := by decide +kernel
  rw [Remeasured.metricsAfter, hend₁] at hfirst
  rw [Remeasured.metricsAfter, hend₂] at hsecond
  have hcell := hsame.cells [1]
  change some (((end₁.cells.mapValues MapElitesCell.evaluation).get? [1]).map _) = _ at hfirst
  change some (((end₂.cells.mapValues MapElitesCell.evaluation).get? [1]).map _) = _ at hsecond
  rw [hcell, hsecond] at hfirst
  exact absurd hfirst (by decide)

end ShadowbaneLab.MapElites
