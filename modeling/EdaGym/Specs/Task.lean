import EdaGym.Specs.Common

/-!
# Task specification and evaluator graph

The part of a task that runs read: its identity, its resources, the evaluator graph, the scorer
and the measurements. A `TaskSpec` is a document together with the fact that the checks of
`validateTask` on these parts pass.
-/

namespace EdaGym

inductive StagePurpose
  | hardGate | observation
deriving DecidableEq, Repr

inductive MetricDirection
  | none | minimize | maximize | target
deriving DecidableEq, Repr

inductive Aggregation
  | minimum | maximum | mean | median | worst
deriving DecidableEq, Repr

inductive MeasurementUnit
  | dimensionless | boolean | count | byte | second | nanosecond | picosecond | hertz | megahertz
  | watt | milliwatt | microwatt | volt | ampere | ohm | farad | micrometer | squareMicrometer
  | percent
deriving DecidableEq, Repr

structure ResourceSpec where
  resourceId : Identifier
  contentDigest : Digest
  mediaType : MediaType

structure EvaluatorSpec where
  evaluatorId : Identifier
  capability : Capability
  implementationResource : Identifier
  revisionDigest : Digest

/-- One node of the evaluator graph; references are normalised to sorted, unique tuples. -/
structure StageSpec where
  stageId : Identifier
  evaluatorId : Identifier
  dependsOn : List Identifier := []
  purpose : StagePurpose
  requirementIds : List Identifier := []
  dependsOn_sorted : dependsOn.Pairwise (· < ·) := by
    first | exact sorted_nil | exact sorted_singleton _ | decide
  requirementIds_sorted : requirementIds.Pairwise (· < ·) := by
    first | exact sorted_nil | exact sorted_singleton _ | decide

/-! The defaults of a measurement hold by these facts. -/

lemma repetitions_one : 1 ≤ 1 ∧ 1 ≤ 1000 := by decide

lemma precision_default : 1 ≤ 34 ∧ 34 ≤ 100 := by decide

lemma range_open :
    ∀ lo ∈ (none : Option CanonicalDecimal), ∀ hi ∈ (none : Option CanonicalDecimal), lo ≤ hi :=
  fun _ h => by cases h

lemma minimize_targetless :
    MetricDirection.minimize = .target ↔ (none : Option CanonicalDecimal).isSome := by decide

lemma mean_objective (direction : MetricDirection) :
    Aggregation.mean = .worst → direction ≠ .none := fun h => by cases h

structure MeasurementSpec where
  measurementId : Identifier
  producerStageId : Identifier
  unit : MeasurementUnit
  libraryId : Identifier
  libraryDigest : Digest
  corner : Identifier
  mode : Identifier
  direction : MetricDirection
  repetitions : Nat
  aggregation : Aggregation
  aggregationPrecisionDigits : Nat := 34
  validMinimum : Option CanonicalDecimal := none
  validMaximum : Option CanonicalDecimal := none
  target : Option CanonicalDecimal := none
  repetitions_bound : 1 ≤ repetitions ∧ repetitions ≤ 1000 := by
    first | exact repetitions_one | decide
  precision_bound : 1 ≤ aggregationPrecisionDigits ∧ aggregationPrecisionDigits ≤ 100 := by
    first | exact precision_default | decide
  range_valid : ∀ lo ∈ validMinimum, ∀ hi ∈ validMaximum, lo ≤ hi := by
    first | exact range_open | simp
  target_iff : direction = .target ↔ target.isSome := by
    first | exact minimize_targetless | decide
  worst_objective : aggregation = .worst → direction ≠ .none := by
    first | exact mean_objective _ | decide

structure ScorerTerm where
  measurementId : Identifier
  coefficient : CanonicalDecimal
  coefficient_ne_zero : coefficient ≠ 0

/-- The weighted-sum scorer, the only kind. -/
structure ScorerRef where
  implementationResource : Identifier
  direction : MetricDirection
  precisionDigits : Nat := 34
  intercept : CanonicalDecimal := 0
  terms : List ScorerTerm
  /-- The digest of the canonical scorer definition. -/
  implementationDigest : Digest
  revisionDigest : Digest
  direction_valid : direction = .minimize ∨ direction = .maximize
  precision_bound : 1 ≤ precisionDigits ∧ precisionDigits ≤ 100 := by
    first | exact precision_default | decide
  terms_bound : 1 ≤ terms.length ∧ terms.length ≤ 1000
  terms_sorted : (terms.map ScorerTerm.measurementId).Pairwise (· < ·)

structure EvaluationGraph where
  evaluators : List EvaluatorSpec
  stages : List StageSpec
  scorer : Option ScorerRef := none

structure TaskIdentity where
  family : Identifier
  authoringRevision : Nat

structure TaskDocument where
  identity : TaskIdentity
  resources : List ResourceSpec
  requirements : List Identifier
  evaluation : EvaluationGraph
  measurements : List MeasurementSpec := []
  /-- The canonical digest of the whole document, the parts not modelled here included. -/
  digest : Digest

namespace TaskDocument

def stageIndex (t : TaskDocument) : Dict Identifier StageSpec :=
  Dict.ofList (t.evaluation.stages.map fun stage => (stage.stageId, stage))

def stageIds (t : TaskDocument) : List Identifier := t.evaluation.stages.map StageSpec.stageId

def measurementIds (t : TaskDocument) : List Identifier :=
  t.measurements.map MeasurementSpec.measurementId

/-- The depth-first acyclicity check, threading the sets `visiting` and `visited`. The recursion
is at most as deep as there are stages, because `visiting` holds distinct known stages. -/
def visit (stages : Dict Identifier StageSpec) :
    Nat → List Identifier × List Identifier → Identifier →
      Except String (List Identifier × List Identifier)
  | 0, _, _ => .error "evaluation stages must form an acyclic graph"
  | fuel + 1, (visiting, visited), stageId =>
    if stageId ∈ visiting then
      .error "evaluation stages must form an acyclic graph"
    else if stageId ∈ visited then
      .ok (visiting, visited)
    else do
      let stage ← orRaise (stages.get? stageId) s!"{stageId}"
      let (visiting, visited) ←
        foldSteps (visit stages fuel) (stageId :: visiting, visited) stage.dependsOn
      .ok (visiting.erase stageId, stageId :: visited)

def checkStage (t : TaskDocument) (_ : Unit) (stage : StageSpec) : Except String Unit := do
  raiseIf (stage.evaluatorId ∉ t.evaluation.evaluators.map EvaluatorSpec.evaluatorId)
    s!"stage {reprString stage.stageId} references an unknown evaluator"
  raiseIf (¬ ∀ d ∈ stage.dependsOn, d ∈ t.stageIds)
    s!"stage {reprString stage.stageId} has unknown dependencies"
  raiseIf (stage.stageId ∈ stage.dependsOn) "stages cannot depend on themselves"
  raiseIf (¬ ∀ r ∈ stage.requirementIds, r ∈ t.requirements)
    s!"stage {reprString stage.stageId} references unknown requirements"

/-- The checks of the task validator on evaluators, stages, measurements and scorer, in the
order the source makes them. Tuples are already normalised by their field validators. -/
def validateTask (t : TaskDocument) : Except String Unit := do
  raiseIf (¬ (t.resources.map ResourceSpec.resourceId).Nodup ∨ t.resources = [])
    "resource identifiers must be unique and non-empty"
  raiseIf (t.evaluation.scorer.isSome ∧ t.measurements = [])
    "a bound scorer requires measurement inputs"
  raiseIf (¬ (t.evaluation.evaluators.map EvaluatorSpec.evaluatorId).Nodup ∨
      t.evaluation.evaluators = [])
    "evaluator identifiers must be unique and non-empty"
  raiseIf (¬ t.stageIds.Nodup ∨ t.evaluation.stages = [])
    "stage identifiers must be unique and non-empty"
  foldSteps t.checkStage ⟨⟩ t.evaluation.stages
  let _ ← foldSteps (visit t.stageIndex (t.evaluation.stages.length + 1)) ([], []) t.stageIds
  let hardGates := t.evaluation.stages.filter fun stage => stage.purpose = .hardGate
  raiseIf (hardGates = []) "evaluation requires at least one hard gate"
  raiseIf (¬ ∀ r ∈ t.requirements, ∃ stage ∈ hardGates, r ∈ stage.requirementIds)
    "every hard requirement must be checked by a hard-gate stage"
  raiseIf (¬ t.measurementIds.Nodup) "measurement identifiers must be unique"
  raiseIf (t.measurements ≠ [] ∧ t.evaluation.scorer = none ∧
      ∀ measurement ∈ t.measurements, measurement.direction = .none)
    "raw-vector scoring requires at least one objective"
  raiseIf (∃ scorer ∈ t.evaluation.scorer, ∃ term ∈ scorer.terms,
      term.measurementId ∉ t.measurementIds)
    "scorer terms must reference declared measurements"
  raiseIf (∃ measurement ∈ t.measurements, measurement.producerStageId ∉ t.stageIds)
    "measurement references an unknown producer stage"
  raiseIf (∃ m ∈ t.measurements, ∃ m' ∈ t.measurements,
      m.producerStageId = m'.producerStageId ∧ m.repetitions ≠ m'.repetitions)
    "measurements from one stage must share a repetition count"

end TaskDocument

/-- A validated task document; its tuples are sorted by identifier. -/
structure TaskSpec extends TaskDocument where
  evaluators_sorted : (evaluation.evaluators.map EvaluatorSpec.evaluatorId).Pairwise (· ≤ ·)
  stages_sorted : (evaluation.stages.map StageSpec.stageId).Pairwise (· ≤ ·)
  measurements_sorted : (measurements.map MeasurementSpec.measurementId).Pairwise (· ≤ ·)
  valid : toTaskDocument.validateTask = .ok ⟨⟩

namespace TaskSpec

lemma stageIds_nodup (t : TaskSpec) : t.stageIds.Nodup := by
  have h := t.valid
  simp only [TaskDocument.validateTask, raiseIf_bind_eq_ok] at h
  by_contra hn
  exact h.2.2.2.1 (Or.inl hn)

end TaskSpec

end EdaGym
