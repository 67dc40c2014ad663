/-
# MAP-Elites archives

`optimization/map_elites.py`: axes, evaluations and the archive of the best evaluation of each cell,
and the search that fills an archive.  The candidates, their evaluation and their mutation are the
caller's, and may do anything but touch the archive.
-/
import ShadowbaneLab.Foundation.Binary32
import ShadowbaneLab.Foundation.Elites
import ShadowbaneLab.Foundation.Records
import ShadowbaneLab.Foundation.Stateful
import ShadowbaneLab.Sim.BoundedDraws

namespace ShadowbaneLab.MapElites

open Foundation

inductive ArchiveAdmission
  | candidate
  | strict
deriving DecidableEq

/-- `_ADMISSION_RANK`. -/
def ArchiveAdmission.rank : ArchiveAdmission → ℕ
  | candidate => 0
  | strict => 1

inductive MapElitesInsertStatus
  | added
  | replaced
  | rejectedAdmission
  | rejectedNotBetter
deriving DecidableEq

/-! ## Checks -/

/-- `_identifier`. -/
def identifier (value fieldName : String) : Except String Unit :=
  check (nonblank value) s!"{fieldName} must be a non-empty string"

/-- `_DIGEST_PATTERN.fullmatch`. -/
def isDigest (value : String) : Bool :=
  value.toList.length = 64 ∧
    value.toList.all fun c => ('0' ≤ c ∧ c ≤ '9') ∨ ('a' ≤ c ∧ c ≤ 'f')

/-- `_digest`. -/
def digest (value fieldName : String) : Except String Unit := do
  identifier value fieldName
  check (isDigest value) s!"{fieldName} must be a lowercase SHA-256 digest"

/-- `_finite`. -/
def finite (value : Floating) (fieldName : String) : Except String Unit :=
  check value.isFinite s!"{fieldName} must be a finite number"

/-- `_non_negative_integer`. -/
def nonNegativeInteger (value : ℤ) (fieldName : String) : Except String Unit :=
  check (0 ≤ value) s!"{fieldName} must be a non-negative integer"

/-- `_numeric_pairs`. -/
def numericPairs (values : List (String × Floating)) (fieldName : String) : Except String Unit := do
  check (values.map Prod.fst).Nodup s!"{fieldName} keys must not contain duplicates"
  values.forM fun (key, value) => do
    identifier key s!"{fieldName} key"
    finite value s!"{fieldName}.{key}"

/-- `_unique_text`. -/
def uniqueText (values : List String) (fieldName : String) : Except String Unit := do
  check values.Nodup s!"{fieldName} must not contain duplicates"
  values.forM (identifier · fieldName)

/-! ## Axes and evaluations -/

structure AxisFields where
  name : String
  boundaries : List Floating
deriving DecidableEq

def AxisFields.postInit (axis : AxisFields) : Except String Unit := do
  identifier axis.name "descriptor axis name"
  axis.boundaries.forM (finite · s!"{axis.name} boundary")
  check (¬ (axis.boundaries.zip axis.boundaries.tail).any fun (left, right) => right.atMost left)
    "descriptor boundaries must be strictly increasing"

abbrev DescriptorAxis : Type := Checked AxisFields.postInit

def DescriptorAxis.name (axis : DescriptorAxis) : String := axis.val.name

def DescriptorAxis.binCount (axis : DescriptorAxis) : ℕ := axis.val.boundaries.length + 1

/-- `bisect_right` of the boundaries. -/
def DescriptorAxis.locate (axis : DescriptorAxis) (value : Floating) : Except String ℕ := do
  finite value axis.name
  return (axis.val.boundaries.takeWhile (·.atMost value)).length

structure EvaluationFields where
  candidateDigest : String
  quality : Floating
  admission : ArchiveAdmission
  features : List (String × Floating)
  metrics : List (String × Floating) := []
  evidenceDigest : Option String := none
  notes : List String := []
deriving DecidableEq

def EvaluationFields.postInit (e : EvaluationFields) : Except String Unit := do
  digest e.candidateDigest "candidate_digest"
  finite e.quality "quality"
  numericPairs e.features "features"
  numericPairs e.metrics "metrics"
  match e.evidenceDigest with
  | some evidence => digest evidence "evidence_digest"
  | none => pure ()
  uniqueText e.notes "notes"

abbrev MapElitesEvaluation : Type := Checked EvaluationFields.postInit

namespace MapElitesEvaluation

def quality (e : MapElitesEvaluation) : ℚ := e.val.quality.toRat

def feature (e : MapElitesEvaluation) (name : String) : Except String Floating :=
  match (Dict.ofList e.val.features).get? name with
  | some value => .ok value
  | none => .error s!"evaluation is missing descriptor feature {name}"

/-- `evidence_digest or "f" * 64`. -/
def evidence (e : MapElitesEvaluation) : String :=
  e.val.evidenceDigest.getD (String.ofList (List.replicate 64 'f'))

end MapElitesEvaluation

/-- `_better`. -/
def better (proposed current : MapElitesEvaluation) : Bool :=
  if proposed.quality ≠ current.quality then proposed.quality > current.quality
  else if proposed.val.admission.rank ≠ current.val.admission.rank then
    proposed.val.admission.rank > current.val.admission.rank
  else if proposed.val.candidateDigest ≠ current.val.candidateDigest then
    proposed.val.candidateDigest < current.val.candidateDigest
  else proposed.evidence < current.evidence

/-- The descriptor features that an evaluation lacks, and those that no axis is named after. -/
def featureFaults (axes : List DescriptorAxis) (e : MapElitesEvaluation) : List String :=
  let expected := axes.map DescriptorAxis.name
  let supplied := e.val.features.map Prod.fst
  let missing := sortBy id (expected.filter (· ∉ supplied))
  let extra := sortBy id (supplied.filter (· ∉ expected))
  (if missing = [] then [] else ["missing: " ++ ", ".intercalate missing]) ++
    (if extra = [] then [] else ["extra: " ++ ", ".intercalate extra])

/-- `coordinates_for`. -/
def coordinatesFor (axes : List DescriptorAxis) (e : MapElitesEvaluation) :
    Except String (List ℕ) := do
  check (featureFaults axes e = [])
    ("evaluation descriptor features do not match archive axes (" ++
      "; ".intercalate (featureFaults axes e) ++ ")")
  axes.mapM fun axis => do axis.locate (← e.feature axis.name)

/-! ## The archive -/

structure MapElitesCell (T : Type) where
  coordinates : List ℕ
  candidate : T
  evaluation : MapElitesEvaluation

structure MapElitesArchive (T : Type) where
  axes : List DescriptorAxis
  requiredAdmission : ArchiveAdmission
  cells : Dict (List ℕ) (MapElitesCell T) := .empty

namespace MapElitesArchive

variable {T : Type}

def init (axes : List DescriptorAxis) (requiredAdmission : ArchiveAdmission) :
    Except String (MapElitesArchive T) := do
  check (axes ≠ []) "axes must contain at least one DescriptorAxis"
  check (axes.map DescriptorAxis.name).Nodup "descriptor axis names must be unique"
  return { axes := axes, requiredAdmission := requiredAdmission }

/-- `cells`. -/
def sortedCells (archive : MapElitesArchive T) : List (MapElitesCell T) :=
  archive.cells.sortedItems.map Prod.snd

/-- What `best` compares the cells by. -/
def bestKey (cell : MapElitesCell T) : ℚ ×ₗ ℤ ×ₗ String ×ₗ List ℕ :=
  toLex (-cell.evaluation.quality, toLex (-(cell.evaluation.val.admission.rank : ℤ),
    toLex (cell.evaluation.val.candidateDigest, cell.coordinates)))

def best (archive : MapElitesArchive T) : Option (MapElitesCell T) :=
  leastBy bestKey archive.cells.values

/-- `insert`. -/
def insert (archive : MapElitesArchive T) (candidate : T) (evaluation : MapElitesEvaluation)
    (candidateDigest : String) : Except String (MapElitesInsertStatus × MapElitesArchive T) := do
  digest candidateDigest "candidate_digest"
  check (evaluation.val.candidateDigest = candidateDigest)
    "evaluation candidate digest does not match the candidate"
  if evaluation.val.admission.rank < archive.requiredAdmission.rank then
    return (.rejectedAdmission, archive)
  else
    let coordinates ← coordinatesFor archive.axes evaluation
    let proposed := ⟨coordinates, candidate, evaluation⟩
    match archive.cells.get? coordinates with
    | none => return (.added, { archive with cells := archive.cells.set coordinates proposed })
    | some current =>
      if ¬ better proposed.evaluation current.evaluation then
        return (.rejectedNotBetter, archive)
      else
        return (.replaced, { archive with cells := archive.cells.set coordinates proposed })

end MapElitesArchive

/-! ## The digest of an archive -/

structure EvaluationDict where
  candidateDigest : String
  quality : Floating
  admission : ArchiveAdmission
  features : List (String × Floating)
  metrics : List (String × Floating)
  evidenceDigest : Option String
  notes : List String

structure AxisDict where
  name : String
  boundaries : List Floating
  binCount : ℕ

structure ArchiveDict where
  requiredAdmission : ArchiveAdmission
  axes : List AxisDict
  cells : List (List ℕ × EvaluationDict)

def MapElitesEvaluation.asDict (e : MapElitesEvaluation) : EvaluationDict where
  candidateDigest := e.val.candidateDigest
  quality := e.val.quality
  admission := e.val.admission
  features := sortBy Prod.fst e.val.features
  metrics := sortBy Prod.fst e.val.metrics
  evidenceDigest := e.val.evidenceDigest
  notes := e.val.notes

/-- `archive_digest`; `canonicalDigest` hashes the canonical text of what is digested. -/
def MapElitesArchive.archiveDigest {T : Type} (canonicalDigest : ArchiveDict → String)
    (archive : MapElitesArchive T) : String :=
  canonicalDigest {
    requiredAdmission := archive.requiredAdmission
    axes := archive.axes.map fun axis => ⟨axis.name, axis.val.boundaries, axis.binCount⟩
    cells := archive.sortedCells.map fun cell => (cell.coordinates, cell.evaluation.asDict) }

/-! ## The search -/

/-- The mechanics of the candidates; `σ` is everything that they depend on and change. -/
structure Mechanics (T σ : Type) where
  candidateDigest : T → σ → Except String String × σ
  evaluate : T → σ → Except String (Option MapElitesEvaluation) × σ
  mutate : T → DeterministicRandom → σ → Except String (Option T × DeterministicRandom) × σ

/-- A run in progress, with a log of the digests that `evaluate` was called for and of the best
quality whenever a candidate was considered; no code reads the log. -/
structure Search (T σ : Type) where
  world : σ
  archive : MapElitesArchive T
  seen : List String := []
  insertionCounts : MapElitesInsertStatus → ℕ := fun _ => 0
  evaluatedCount : ℕ := 0
  invalidCount : ℕ := 0
  duplicateCount : ℕ := 0
  evaluations : List String := []
  bests : List (WithBot ℚ) := []

section Search

variable {T σ α : Type} (mechanics : Mechanics T σ)

/-- A step of a run, which may raise. -/
abbrev Step (T σ : Type) : Type → Type := EStateM String (Search T σ)

/-- What raises nothing of its own is lifted. -/
def raise : Except String α → Step T σ α
  | .ok a => pure a
  | .error message => throw message

/-- A call of the mechanics. -/
def call (f : σ → Except String α × σ) : Step T σ α := do
  let result ← modifyGet fun s => ((f s.world).1, { s with world := (f s.world).2 })
  raise result

/-- The digest of a candidate. -/
def digestOf (candidate : T) : Step T σ String := do
  let value ← call (mechanics.candidateDigest candidate)
  raise (digest value "candidate digest")
  return value

/-- The quality of the best cell. -/
def MapElitesArchive.bestQuality (archive : MapElitesArchive T) : WithBot ℚ :=
  archive.best.map fun cell => cell.evaluation.quality

/-- The status of an insertion is counted, in the archive that it left. -/
def Search.inserted (s : Search T σ) (result : MapElitesInsertStatus × MapElitesArchive T) :
    Search T σ :=
  { s with
    archive := result.2
    insertionCounts := fun status =>
      s.insertionCounts status + if status = result.1 then 1 else 0
    bests := s.bests ++ [result.2.bestQuality] }

/-- `consider`. -/
def consider (candidate : T) : Step T σ Unit := do
  let value ← digestOf mechanics candidate
  let s ← get
  if value ∈ s.seen then modify fun s => { s with duplicateCount := s.duplicateCount + 1 }
  else do
    modify fun s => { s with seen := value :: s.seen, evaluations := s.evaluations ++ [value] }
    match ← call (mechanics.evaluate candidate) with
    | none => modify fun s => { s with invalidCount := s.invalidCount + 1 }
    | some evaluation => do
      modify fun s => { s with evaluatedCount := s.evaluatedCount + 1 }
      let s ← get
      let result ← raise (s.archive.insert candidate evaluation value)
      modify fun s => s.inserted result

/-- `initial_by_digest`. -/
def collect (initial : Dict String T) (candidate : T) : Step T σ (Dict String T) := do
  let value ← digestOf mechanics candidate
  if initial.contains value then throw "initial candidate digests must be unique"
  else return initial.set value candidate

/-- One iteration of the search. -/
def iterate (initialPool : List T) (random : DeterministicRandom) : Step T σ DeterministicRandom := do
  let s ← get
  let archivePool := s.archive.sortedCells.map MapElitesCell.candidate
  let pool := if archivePool = [] then initialPool else archivePool
  let (index, random) ← raise (random.drawBelow pool.length)
  match pool[index]? with
  | none => throw "tuple index out of range"
  | some parent => do
    let (child, random) ← call (mechanics.mutate parent random)
    match child with
    | none => modify fun s => { s with invalidCount := s.invalidCount + 1 }
    | some child => consider mechanics child
    return random

/-- `for _ in range(iterations)`. -/
def iterations (initialPool : List T) : ℕ → DeterministicRandom → Step T σ Unit
  | 0, _ => pure ()
  | n + 1, random => do
    let random ← iterate mechanics initialPool random
    iterations initialPool n random

structure MapElitesRun (T : Type) where
  archive : MapElitesArchive T
  seed : ℤ
  iterations : ℤ
  initialCandidateCount : ℕ
  evaluatedCandidateCount : ℕ
  invalidCandidateCount : ℕ
  duplicateCandidateCount : ℕ
  insertionCounts : MapElitesInsertStatus → ℕ

/-- `run_map_elites` on the archive of the state. -/
def runMapElites (initialCandidates : List T) (count seed : ℤ) : Step T σ (MapElitesRun T) := do
  raise (check (¬ initialCandidates.isEmpty) "initial_candidates must not be empty")
  raise (nonNegativeInteger count "iterations")
  raise (nonNegativeInteger seed "seed")
  let initial ← initialCandidates.foldlM (collect mechanics) .empty
  let initialPool := initial.sortedItems.map Prod.snd
  initialPool.forM (consider mechanics)
  iterations mechanics initialPool count.toNat (.init seed)
  let s ← get
  return {
    archive := s.archive
    seed := seed
    iterations := count
    initialCandidateCount := initialCandidates.length
    evaluatedCandidateCount := s.evaluatedCount
    invalidCandidateCount := s.invalidCount
    duplicateCandidateCount := s.duplicateCount
    insertionCounts := s.insertionCounts }

end Search

end ShadowbaneLab.MapElites
