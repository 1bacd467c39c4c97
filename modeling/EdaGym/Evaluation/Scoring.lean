import EdaGym.Evaluation.Promotion
import EdaGym.Lib.Rounding

/-!
# Measurement aggregation and task-bound score derivation
-/

namespace EdaGym

/-- Decimal division of numerator by denominator, rounded half-even in a context of the given
number of significant digits. -/
def roundedFraction (value : ℚ) (precisionDigits : Nat) : Except String CanonicalDecimal :=
  orRaise ((decimalContext precisionDigits).round value) DECIMAL_OVERFLOW

/-- The sample farthest from the target, the larger one on a tie. -/
def farthestFrom (target : ℚ) : ℚ → List ℚ → ℚ
  | best, [] => best
  | best, v :: vs =>
    if |best - target| < |v - target| ∨ (|best - target| = |v - target| ∧ best < v) then
      farthestFrom target v vs
    else farthestFrom target best vs

/-- Apply the aggregation declared by one measurement specification. -/
def aggregateSamples (specification : MeasurementSpec) (samples : List CanonicalDecimal) :
    Except String CanonicalDecimal := do
  raiseIf (samples.length ≠ specification.repetitions)
    "measurement sample count differs from its specification"
  match samples.insertionSort (· ≤ ·) with
  | [] => .error "measurement aggregation requires at least one sample"
  | least :: rest =>
    let ordered := least :: rest
    let greatest := ordered.getLastD least
    match specification.aggregation with
    | .minimum => return least
    | .maximum => return greatest
    | .mean =>
      roundedFraction (ordered.sum / ordered.length)
        specification.aggregationPrecisionDigits
    | .median =>
      let midpoint := ordered.length / 2
      if ordered.length % 2 = 1 then return ordered.getD midpoint least
      roundedFraction
        ((ordered.getD (midpoint - 1) least + ordered.getD midpoint least) / 2)
        specification.aggregationPrecisionDigits
    | .worst =>
      match specification.direction with
      | .minimize => return greatest
      | .maximize => return least
      | .target =>
        match specification.target with
        | none => .error "target measurement has no target value"
        | some target => return farthestFrom target least rest
      | .none => .error "worst aggregation requires an optimization direction"

/-- As many samples as a measurement asks for have a least one. -/
lemma exists_ordered {spec : MeasurementSpec} {samples : List CanonicalDecimal}
    (hlength : samples.length = spec.repetitions) :
    ∃ least rest, samples.insertionSort (· ≤ ·) = least :: rest := by
  apply List.exists_cons_of_ne_nil
  intro hnil
  have hsame := (List.perm_insertionSort (· ≤ ·) samples).length_eq
  have hbound := spec.repetitions_bound.1
  rw [hnil, hlength, List.length_nil] at hsame
  omega

section Score

variable (task : TaskSpec)

def aggregateOne (evidence : Dict Identifier MeasurementEvidence)
    (vector : List AggregatedMeasurement) (specification : MeasurementSpec) :
    Except String (List AggregatedMeasurement) := do
  let item ← orRaise (evidence.get? specification.measurementId)
    (reprString specification.measurementId)
  let value ← aggregateSamples specification item.samples
  return vector ++ [{ measurementId := specification.measurementId, value }]

/-- The exact aggregate vector declared by a task. -/
def aggregateMeasurements (results : List StageResult) :
    Except String (List AggregatedMeasurement) := do
  let eligibility ← scorerEligibility task results
  raiseIf (eligibility.state ≠ .ready)
    "measurements can be aggregated only when scoring is ready"
  let validated ← validateStageResults task results
  let evidence := Dict.ofList
    (validated.flatMap fun result => result.measurements.map fun m => (m.measurementId, m))
  foldSteps (aggregateOne evidence) [] task.measurements

def weightedTerm (values : Dict Identifier ℚ) (total : ℚ) (term : ScorerTerm) :
    Except String ℚ := do
  let value ← orRaise (values.get? term.measurementId) (reprString term.measurementId)
  return total + term.coefficient * value

/-- Bind one already derived vector to the task's scoring mode. -/
def buildScoreFromAggregates (measurements : List AggregatedMeasurement) :
    Except String CandidateScore := do
  let expectedIds := task.measurements.map MeasurementSpec.measurementId
  let actualIds := measurements.map AggregatedMeasurement.measurementId
  raiseIf (actualIds ≠ expectedIds ∨ measurements = [])
    "aggregate vector differs from the task measurement schema"
  match task.evaluation.scorer with
  | none => return .paretoVector measurements
  | some scorer =>
    let values := Dict.ofList (measurements.map fun m => (m.measurementId, m.value))
    let weightedSum ← foldSteps (weightedTerm values) scorer.intercept scorer.terms
    let value ← roundedFraction weightedSum scorer.precisionDigits
    return .scalar measurements value scorer.direction scorer.revisionDigest

/-- A raw Pareto vector or an explicitly configured scalar score. -/
def buildCandidateScore (results : List StageResult) : Except String CandidateScore := do
  let measurements ← aggregateMeasurements task results
  buildScoreFromAggregates task measurements

end Score

/-! ### Pareto dominance -/

/-- `(left > right) - (left < right)`. -/
def compareValues (left right : ℚ) : Int :=
  (if left > right then 1 else 0) - (if left < right then 1 else 0)

/-- `_objective_comparison`. -/
def objectiveComparison (specification : MeasurementSpec) (left right : CanonicalDecimal) :
    Except String Int :=
  match specification.direction with
  | .minimize => .ok (compareValues (-left) (-right))
  | .maximize => .ok (compareValues left right)
  | .target =>
    match specification.target with
    | none => .error "target measurement has no target value"
    | some target => .ok (compareValues (-|left - target|) (-|right - target|))
  | .none => .error "non-objective measurement cannot be compared"

/-- `_score_values`. -/
def scoreValues (measurements : List AggregatedMeasurement) : Dict Identifier CanonicalDecimal :=
  Dict.ofList (measurements.map fun m => (m.measurementId, m.value))

/-- The loop of `pareto_dominates` over the measurements in order. -/
def compareObjectives (specifications : Dict Identifier MeasurementSpec)
    (left right : Dict Identifier CanonicalDecimal) :
    List Identifier → Bool → Bool → Except String Bool
  | [], hasObjective, strictlyBetter => .ok (hasObjective && strictlyBetter)
  | id :: ids, hasObjective, strictlyBetter => do
    let specification ← orRaise (specifications.get? id) (reprString id)
    if specification.direction = .none then
      compareObjectives specifications left right ids hasObjective strictlyBetter
    else
      let leftValue ← orRaise (left.get? id) (reprString id)
      let rightValue ← orRaise (right.get? id) (reprString id)
      let comparison ← objectiveComparison specification leftValue rightValue
      if comparison < 0 then pure false
      else
        compareObjectives specifications left right ids true
          (strictlyBetter || decide (comparison > 0))

/-- Whether the left raw vector is no worse and strictly better. -/
def paretoDominates (task : TaskSpec) (left right : List AggregatedMeasurement) :
    Except String Bool := do
  let specifications := Dict.ofList (task.measurements.map fun m => (m.measurementId, m))
  let expected := sortedStrings specifications.keys
  let leftValues := scoreValues left
  let rightValues := scoreValues right
  raiseIf (sortedStrings leftValues.keys ≠ expected ∨ sortedStrings rightValues.keys ≠ expected)
    "Pareto vectors do not match the task measurement schema"
  compareObjectives specifications leftValues rightValues expected false false

end EdaGym
