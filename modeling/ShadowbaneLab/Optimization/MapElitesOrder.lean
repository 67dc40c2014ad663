/-
# The order of insertions

An archive holds the best evaluation of each cell.  Which one it holds depends on the order of the
insertions exactly when two different evaluations tie for the best.
-/
import ShadowbaneLab.Optimization.MapElites

namespace ShadowbaneLab.MapElites

open Foundation

variable {T σ α : Type}

/-! ## The order that `better` is of -/

/-- What `better` compares evaluations by. -/
def MapElitesEvaluation.standing (e : MapElitesEvaluation) : ℚ ×ₗ ℤ ×ₗ String ×ₗ String :=
  toLex (-e.quality, toLex (-(e.val.admission.rank : ℤ), toLex (e.val.candidateDigest, e.evidence)))

theorem better_iff {proposed current : MapElitesEvaluation} :
    better proposed current = true ↔ proposed.standing < current.standing := by
  simp only [MapElitesEvaluation.standing, Prod.Lex.toLex_lt_toLex, better]
  rcases lt_trichotomy proposed.quality current.quality with h | h | h
  · rw [if_pos h.ne, decide_eq_true_eq]
    constructor
    · exact fun hlt => absurd hlt (not_lt.2 h.le)
    · rintro (hlt | ⟨heq, -⟩)
      · exact neg_lt_neg_iff.1 hlt
      · exact absurd (neg_inj.1 heq) h.ne
  · rw [if_neg (not_not.2 h)]
    have hquality : ¬ -proposed.quality < -current.quality := by rw [h]; exact lt_irrefl _
    rw [or_iff_right hquality, and_iff_right (congrArg _ h)]
    rcases lt_trichotomy proposed.val.admission.rank current.val.admission.rank with h | h | h
    · rw [if_pos h.ne, decide_eq_true_eq]
      omega
    · rw [if_neg (not_not.2 h)]
      have hrank : ¬ -(proposed.val.admission.rank : ℤ) < -current.val.admission.rank := by omega
      rw [or_iff_right hrank, and_iff_right (by omega)]
      split
      case isTrue hne => rw [decide_eq_true_eq, or_iff_left (fun h => hne h.1)]
      case isFalse heq =>
        rw [not_not] at heq
        rw [decide_eq_true_eq, heq, or_iff_right (lt_irrefl _), and_iff_right rfl]
    · rw [if_pos h.ne', decide_eq_true_eq]
      omega
  · rw [if_pos h.ne', decide_eq_true_eq]
    exact ⟨fun hlt => .inl (neg_lt_neg hlt), fun _ => h⟩

/-- Where a cell stands among those of its coordinates. -/
def MapElitesCell.standing (cell : MapElitesCell T) : ℚ ×ₗ ℤ ×ₗ String ×ₗ String :=
  cell.evaluation.standing

/-! ## Insertions -/

/-- The arguments of an `insert`. -/
structure Insertion (T : Type) where
  candidate : T
  evaluation : MapElitesEvaluation
  candidateDigest : String

variable {archive archive' : MapElitesArchive T}

variable {archive : MapElitesArchive T}

namespace MapElitesArchive

/-- An insertion does not raise. -/
def Accepts (archive : MapElitesArchive T) (i : Insertion T) : Prop :=
  ∃ result, archive.insert i.candidate i.evaluation i.candidateDigest = .ok result

/-- The evaluation has the admission that an archive requires. -/
def Admits (archive : MapElitesArchive T) (e : MapElitesEvaluation) : Prop :=
  archive.requiredAdmission.rank ≤ e.val.admission.rank

/-- Insertions, one after the other. -/
def insertAll (archive : MapElitesArchive T) (insertions : List (Insertion T)) :
    Except String (MapElitesArchive T) :=
  insertions.foldlM (fun archive i =>
    Prod.snd <$> archive.insert i.candidate i.evaluation i.candidateDigest) archive

/-- The cell that an insertion proposes. -/
def proposal (archive : MapElitesArchive T) (i : Insertion T) : Option (MapElitesCell T) :=
  if i.evaluation.val.admission.rank < archive.requiredAdmission.rank then none
  else
    match coordinatesFor archive.axes i.evaluation with
    | .ok coordinates => some ⟨coordinates, i.candidate, i.evaluation⟩
    | .error _ => none

/-- The cells after a proposal. -/
def challenged (archive : MapElitesArchive T) : Option (MapElitesCell T) → MapElitesArchive T
  | none => archive
  | some cell => { archive with
      cells := archive.cells.challenge MapElitesCell.coordinates MapElitesCell.standing cell }

variable {i : Insertion T}

/-- An insertion that does not raise leaves the better cell. -/
theorem insert_spec {result : MapElitesInsertStatus × MapElitesArchive T}
    (h : archive.insert i.candidate i.evaluation i.candidateDigest = .ok result) :
    result.2 = archive.challenged (archive.proposal i) := by
  rw [insert, check_bind_eq_ok, check_bind_eq_ok] at h
  obtain ⟨-, -, h⟩ := h
  rw [proposal]
  split at h
  case isTrue hlow =>
    cases h
    rw [if_pos hlow]
    rfl
  case isFalse hhigh =>
    rw [if_neg hhigh]
    obtain ⟨coordinates, hcoordinates, h⟩ := bind_eq_ok.1 h
    rw [hcoordinates]
    show _ = { archive with cells := archive.cells.challenge _ _ _ }
    dsimp only at h
    unfold Dict.challenge
    split at h
    case h_1 hvacant =>
      cases h
      rw [hvacant]
    case h_2 current hcurrent =>
      let proposed : MapElitesCell T := ⟨coordinates, i.candidate, i.evaluation⟩
      rw [hcurrent]
      dsimp only
      split at h
      case isTrue hworse =>
        have hlt : ¬ proposed.standing < current.standing := fun hlt => hworse (better_iff.2 hlt)
        cases h
        rw [if_neg hlt]
      case isFalse hbetter =>
        have hlt : proposed.standing < current.standing := better_iff.1 (not_not.1 hbetter)
        cases h
        rw [if_pos hlt]

/-- Whether an insertion raises does not depend on the cells. -/
theorem accepts_congr (haxes : archive'.axes = archive.axes)
    (hrequired : archive'.requiredAdmission = archive.requiredAdmission) (h : archive.Accepts i) :
    archive'.Accepts i := by
  obtain ⟨result, h⟩ := h
  rw [insert, check_bind_eq_ok, check_bind_eq_ok] at h
  obtain ⟨hdigest, hsame, h⟩ := h
  unfold Accepts insert
  rw [hdigest, ok_bind, hsame, ok_bind, hrequired, haxes]
  split at h
  case isTrue hlow => exact ⟨_, if_pos hlow⟩
  case isFalse hhigh =>
    obtain ⟨coordinates, hcoordinates, -⟩ := bind_eq_ok.1 h
    rw [if_neg hhigh, hcoordinates, ok_bind]
    dsimp only
    split
    · exact ⟨_, rfl⟩
    · split
      · exact ⟨_, rfl⟩
      · exact ⟨_, rfl⟩

theorem challenged_axes (archive : MapElitesArchive T) (cell : Option (MapElitesCell T)) :
    (archive.challenged cell).axes = archive.axes := by
  cases cell <;> rfl

theorem challenged_required (archive : MapElitesArchive T) (cell : Option (MapElitesCell T)) :
    (archive.challenged cell).requiredAdmission = archive.requiredAdmission := by
  cases cell <;> rfl

/-- Accepted insertions leave the best proposal of each cell. -/
theorem insertAll_spec {insertions : List (Insertion T)} (h : ∀ i ∈ insertions, archive.Accepts i) :
    archive.insertAll insertions = .ok { archive with
      cells := (insertions.filterMap archive.proposal).foldl
        (Dict.challenge MapElitesCell.coordinates MapElitesCell.standing) archive.cells } := by
  induction insertions generalizing archive with
  | nil => rfl
  | cons i insertions ih =>
    obtain ⟨result, hresult⟩ := h i List.mem_cons_self
    have hspec := insert_spec hresult
    have haxes : result.2.axes = archive.axes := hspec ▸ challenged_axes archive _
    have hrequired : result.2.requiredAdmission = archive.requiredAdmission :=
      hspec ▸ challenged_required archive _
    have hproposal : result.2.proposal = archive.proposal := by
      funext i
      rw [proposal, proposal, haxes, hrequired]
    have haccepts : ∀ j ∈ insertions, result.2.Accepts j := fun j hj =>
      accepts_congr haxes hrequired (h j (List.mem_cons_of_mem i hj))
    have hrest := ih haccepts
    rw [insertAll, List.foldlM_cons, hresult]
    change result.2.insertAll insertions = _
    rw [hrest, hproposal, List.filterMap_cons, hspec]
    cases archive.proposal i <;> rfl

end MapElitesArchive

/-! ## What an archive shows -/

variable {canonicalDigest : ArchiveDict → String}

/-- Every cell is filed under its coordinates. -/
def MapElitesArchive.Filed (archive : MapElitesArchive T) : Prop :=
  ∀ coordinates cell, archive.cells.get? coordinates = some cell → cell.coordinates = coordinates

/-- Archives have the same cells with the same evaluations, and with them the same digest and the
same best cell. -/
structure SameCells (canonicalDigest : ArchiveDict → String) (archive archive' : MapElitesArchive T) :
    Prop where
  cells : (archive.cells.mapValues MapElitesCell.evaluation).Equiv
    (archive'.cells.mapValues MapElitesCell.evaluation)
  digest : archive.archiveDigest canonicalDigest = archive'.archiveDigest canonicalDigest
  best : archive.best.map (fun cell => (cell.coordinates, cell.evaluation)) =
    archive'.best.map fun cell => (cell.coordinates, cell.evaluation)

theorem MapElitesArchive.Filed.map_sortedCells (h : archive.Filed) :
    archive.sortedCells.map (fun cell => (cell.coordinates, cell.evaluation)) =
      (archive.cells.mapValues MapElitesCell.evaluation).sortedItems := by
  have hsorted : (archive.cells.mapValues MapElitesCell.evaluation).sortedItems =
      archive.cells.sortedItems.map fun entry => (entry.1, entry.2.evaluation) :=
    (map_sortBy Prod.fst (fun entry : List ℕ × MapElitesCell T => (entry.1, entry.2.evaluation))
      (fun _ => rfl) _).symm
  rw [hsorted, sortedCells, List.map_map]
  refine List.map_congr_left fun entry hentry => ?_
  have hget : archive.cells.get? entry.1 = some entry.2 :=
    Dict.get?_eq_some.2 ((mem_sortBy _).1 hentry)
  exact congrArg (·, entry.2.evaluation) (h _ _ hget)

/-- A cell of one archive has its like in the other. -/
theorem exists_like (hfiled : archive.Filed) (hfiled' : archive'.Filed)
    (hcells : (archive.cells.mapValues MapElitesCell.evaluation).Equiv
      (archive'.cells.mapValues MapElitesCell.evaluation))
    {cell : MapElitesCell T} (h : cell ∈ archive.cells.values) :
    ∃ cell' ∈ archive'.cells.values,
      cell'.coordinates = cell.coordinates ∧ cell'.evaluation = cell.evaluation := by
  obtain ⟨coordinates, hget⟩ := Dict.mem_values_iff.1 h
  have hlike := hcells coordinates
  rw [Dict.get?_mapValues, Dict.get?_mapValues, hget] at hlike
  obtain ⟨cell', hget', hevaluation⟩ := Option.map_eq_some_iff.1 hlike.symm
  refine ⟨cell', Dict.mem_values_iff.2 ⟨_, hget'⟩, ?_, hevaluation⟩
  exact (hfiled' _ _ hget').trans (hfiled _ _ hget).symm

theorem sameCells_of_cells (haxes : archive'.axes = archive.axes)
    (hrequired : archive'.requiredAdmission = archive.requiredAdmission) (hfiled : archive.Filed)
    (hfiled' : archive'.Filed) (hcells : (archive.cells.mapValues MapElitesCell.evaluation).Equiv
      (archive'.cells.mapValues MapElitesCell.evaluation)) :
    SameCells canonicalDigest archive archive' := by
  refine ⟨hcells, ?_, ?_⟩
  · have hsorted : archive.sortedCells.map (fun cell => (cell.coordinates, cell.evaluation)) =
        archive'.sortedCells.map fun cell => (cell.coordinates, cell.evaluation) := by
      rw [hfiled.map_sortedCells, hfiled'.map_sortedCells]
      refine sortBy_eq_of_perm _ hcells.items_perm fun a ha b hb hkey => ?_
      have hvalue := Dict.get?_eq_some.2 ha
      rw [hkey, Dict.get?_eq_some.2 hb] at hvalue
      exact Prod.ext hkey (Option.some.inj hvalue).symm
    have hdicts := congrArg (List.map fun cell : List ℕ × MapElitesEvaluation =>
      (cell.1, cell.2.asDict)) hsorted
    rw [List.map_map, List.map_map] at hdicts
    unfold MapElitesArchive.archiveDigest
    rw [haxes, hrequired]
    exact congrArg (fun cells => canonicalDigest ⟨_, _, cells⟩) hdicts
  · unfold MapElitesArchive.best
    cases hbest : leastBy MapElitesArchive.bestKey archive.cells.values with
    | none =>
      have hnone : leastBy MapElitesArchive.bestKey archive'.cells.values = none := by
        rw [leastBy_eq_none] at hbest ⊢
        refine List.eq_nil_iff_forall_not_mem.2 fun cell hcell => ?_
        obtain ⟨cell', hcell', -⟩ := exists_like hfiled' hfiled (fun k => (hcells k).symm) hcell
        exact List.eq_nil_iff_forall_not_mem.1 hbest cell' hcell'
      rw [hnone]
    | some cell =>
      obtain ⟨like, hlike, hcoordinates, hevaluation⟩ :=
        exists_like hfiled hfiled' hcells (mem_of_leastBy hbest)
      cases hbest' : leastBy MapElitesArchive.bestKey archive'.cells.values with
      | none =>
        rw [leastBy_eq_none.1 hbest'] at hlike
        cases hlike
      | some cell' =>
        obtain ⟨like', hlike', hcoordinates', hevaluation'⟩ :=
          exists_like hfiled' hfiled (fun k => (hcells k).symm) (mem_of_leastBy hbest')
        -- each of them is no worse than the like of the other
        have hle : MapElitesArchive.bestKey cell' ≤ MapElitesArchive.bestKey like :=
          le_of_leastBy hlike hbest'
        have hle' : MapElitesArchive.bestKey cell ≤ MapElitesArchive.bestKey like' :=
          le_of_leastBy hlike' hbest
        have hsame : MapElitesArchive.bestKey like = MapElitesArchive.bestKey cell := by
          rw [MapElitesArchive.bestKey, MapElitesArchive.bestKey, hcoordinates, hevaluation]
        have hsame' : MapElitesArchive.bestKey like' = MapElitesArchive.bestKey cell' := by
          rw [MapElitesArchive.bestKey, MapElitesArchive.bestKey, hcoordinates', hevaluation']
        have hkey := le_antisymm (hsame ▸ hle) (hsame' ▸ hle')
        simp only [MapElitesArchive.bestKey, EmbeddingLike.apply_eq_iff_eq, Prod.mk.injEq] at hkey
        obtain ⟨-, -, -, hplace⟩ := hkey
        obtain ⟨k, hget⟩ := Dict.mem_values_iff.1 (mem_of_leastBy hbest')
        obtain ⟨k', hget'⟩ := Dict.mem_values_iff.1 hlike
        have hk := hfiled' _ _ hget
        have hk' := hfiled' _ _ hget'
        rw [← hk, hplace, ← hcoordinates, hk', hget'] at hget
        cases hget
        rw [Option.map_some, Option.map_some, hcoordinates, hevaluation]

end ShadowbaneLab.MapElites
