import EdaGym.Evaluation.Model
import Mathlib.Algebra.GroupWithZero.Nat
import Mathlib.Data.List.Dedup

/-!
# Evaluation traversal and promotion rules

Set-valued intermediate results of the source are lists here; they are sorted before they reach a
result record, as the record validators do.
-/

namespace EdaGym

/-- Whether an outcome permits dependent work to run. -/
def outcomePromotes (outcome : OutcomeKind) : Bool := outcome = .passed ∨ outcome = .proved

/-- Sort and deduplicate, as the tuples of eligibility records are. -/
def normalizeIds (ids : List Identifier) : List Identifier := sortedStrings ids.dedup

@[simp] lemma mem_normalizeIds {x : Identifier} {ids : List Identifier} :
    x ∈ normalizeIds ids ↔ x ∈ ids := by
  simp [normalizeIds]

section Promotion

variable (task : TaskSpec)

/-- Take one edge away: a child whose last dependency is gone becomes ready. -/
def releaseChild (state : Dict Identifier Int × List Identifier) (childId : Identifier) :
    Dict Identifier Int × List Identifier :=
  let degree := (state.1.get? childId).getD 0 - 1
  (state.1.insert childId degree,
    if degree = 0 then sortedStrings (state.2 ++ [childId]) else state.2)

/-- The `while ready` loop. A stage enters `ready` once, when its last dependency is taken, so
one round per stage is enough. -/
def topologicalLoop (children : Identifier → List Identifier) :
    Nat → Dict Identifier Int → List Identifier → List Identifier → List Identifier
  | 0, _, _, ordered => ordered
  | _ + 1, _, [], ordered => ordered
  | fuel + 1, indegree, stageId :: ready, ordered =>
    let (indegree, ready) := (sortedStrings (children stageId)).foldl releaseChild (indegree, ready)
    topologicalLoop children fuel indegree ready (ordered ++ [stageId])

/-- The task stages in stable dependency order. -/
def topologicalStageIds : Except String (List Identifier) := do
  let stages := task.evaluation.stages
  let indegree := Dict.ofList (stages.map fun st => (st.stageId, (st.dependsOn.length : Int)))
  let children := fun s => (stages.filter fun st => s ∈ st.dependsOn).map StageSpec.stageId
  let ready := sortedStrings
    ((stages.filter fun st => st.dependsOn.length = 0).map StageSpec.stageId)
  let ordered := topologicalLoop children stages.length indegree ready []
  raiseIf (ordered.length ≠ stages.length) "evaluation stages must form an acyclic graph"
  return ordered

def resultIndex (results : List StageResult) : Except String (Dict Identifier StageResult) := do
  let indexed := Dict.ofList (results.map fun result => (result.stageId, result))
  raiseIf (indexed.entries.length ≠ results.length)
    "a result snapshot can contain only one result per stage"
  return indexed

def measurementIndex : Dict Identifier MeasurementSpec :=
  Dict.ofList (task.measurements.map fun m => (m.measurementId, m))

def validateSample (specification : MeasurementSpec) (evidenceId : Identifier) (_ : Unit)
    (sample : CanonicalDecimal) : Except String Unit := do
  raiseIf (∃ lo ∈ specification.validMinimum, sample < lo)
    s!"measurement {reprString evidenceId} is below its valid minimum"
  raiseIf (∃ hi ∈ specification.validMaximum, hi < sample)
    s!"measurement {reprString evidenceId} is above its valid maximum"

def validateEvidenceSamples (specifications : Dict Identifier MeasurementSpec) (_ : Unit)
    (evidence : MeasurementEvidence) : Except String Unit := do
  let specification ← orRaise (specifications.get? evidence.measurementId)
    (reprString evidence.measurementId)
  raiseIf (evidence.samples.length ≠ specification.repetitions)
    s!"measurement {reprString evidence.measurementId} has an invalid sample count"
  foldSteps (validateSample specification evidence.measurementId) ⟨⟩ evidence.samples

def validateMeasurementEvidence (result : StageResult)
    (specifications : Dict Identifier MeasurementSpec) (expected : List Identifier) :
    Except String Unit := do
  let actual := result.measurements.map MeasurementEvidence.measurementId
  let unknown := actual.filter (· ∉ specifications)
  raiseIf (unknown ≠ [])
    s!"stage result references unknown measurements: {reprStrings (sortedStrings unknown)}"
  let misplaced := actual.filter fun m =>
    (specifications.get? m).map MeasurementSpec.producerStageId ≠ some result.stageId
  raiseIf (misplaced ≠ [])
    ("stage result contains measurements from another stage: " ++
      reprStrings (sortedStrings misplaced))
  raiseIf (outcomePromotes result.outcome ∧ ¬ (actual ⊆ expected ∧ expected ⊆ actual))
    "a promoting result must contain every measurement produced by its stage"
  foldSteps (validateEvidenceSamples specifications) ⟨⟩ result.measurements

/-- The measurements the task expects of one stage. -/
def expectedMeasurements (stageId : Identifier) : List Identifier :=
  (task.measurements.filter fun m => m.producerStageId = stageId).map MeasurementSpec.measurementId

def validateDependency (index : Dict Identifier StageResult) (stageId : Identifier) (_ : Unit)
    (dependency : Identifier) : Except String Unit :=
  raiseIf (¬ ∃ r ∈ index.get? dependency, outcomePromotes r.outcome = true)
    (s!"stage {reprString stageId} completed without a promoting dependency " ++
      reprString dependency)

def validateStage (index : Dict Identifier StageResult) (_ : Unit) (stageId : Identifier) :
    Except String Unit :=
  match index.get? stageId with
  | none => .ok ⟨⟩
  | some result => do
    let stage ← orRaise (task.stageIndex.get? stageId) (reprString stageId)
    foldSteps (validateDependency index stageId) ⟨⟩ stage.dependsOn
    validateMeasurementEvidence result (measurementIndex task) (expectedMeasurements task stageId)

/-- Validate a partial result snapshot and return it in topological order. -/
def validateStageResults (results : List StageResult) : Except String (List StageResult) := do
  let index ← resultIndex results
  let unknown := index.keys.filter (· ∉ task.stageIndex)
  raiseIf (unknown ≠ [])
    s!"results reference unknown stages: {reprStrings (sortedStrings unknown)}"
  let ordered ← topologicalStageIds task
  foldSteps (validateStage task index) ⟨⟩ ordered
  return ordered.filterMap index.get?

/-- The transitive dependencies of a stage, by the worklist of the source. Every round either
drops a known ancestor or adds a new one, whose dependencies are then pending. -/
def ancestorLoop (stages : Dict Identifier StageSpec) :
    Nat → List Identifier → List Identifier → List Identifier
  | 0, ancestors, _ => ancestors
  | _ + 1, ancestors, [] => ancestors
  | fuel + 1, ancestors, dependency :: pending =>
    if dependency ∈ ancestors then
      ancestorLoop stages fuel ancestors pending
    else
      let next := ((stages.get? dependency).map StageSpec.dependsOn).getD []
      ancestorLoop stages fuel (dependency :: ancestors) (next.reverse ++ pending)

def ancestorIds (stageId : Identifier) : List Identifier :=
  let stages := task.stageIndex
  let own := ((stages.get? stageId).map StageSpec.dependsOn).getD []
  let edges := (task.evaluation.stages.map fun st => st.dependsOn.length).sum
  sortedStrings (ancestorLoop stages (edges + own.length) [] own.reverse)

/-- Whether a stage is complete, runnable, waiting, or blocked. -/
def stageEligibility (results : List StageResult) (stageId : Identifier) :
    Except String StageEligibility := do
  let stage ← orRaise (task.stageIndex.get? stageId)
    s!"unknown evaluation stage {reprString stageId}"
  let validated ← validateStageResults task results
  let index ← resultIndex validated
  if stageId ∈ index then
    return { stageId, state := .completed }
  let blockers := (ancestorIds task stageId).filter fun ancestor =>
    ((index.get? ancestor).any fun r => !outcomePromotes r.outcome)
  if blockers ≠ [] then
    return { stageId, state := .blocked, blockingStageIds := blockers }
  let waiting := stage.dependsOn.filter (· ∉ index)
  if waiting ≠ [] then
    return { stageId, state := .waiting, waitingStageIds := waiting }
  return { stageId, state := .ready }

/-- The running tuple `(failed_gates, blockers, pending_gates)` of the hard-gate scan. -/
structure GateScan where
  failed : List Identifier := []
  blockers : List Identifier := []
  pending : List Identifier := []

def scanGate (validated : List StageResult) (index : Dict Identifier StageResult)
    (scan : GateScan) (gate : StageSpec) : Except String GateScan :=
  match index.get? gate.stageId with
  | some result =>
    .ok (if outcomePromotes result.outcome then scan
      else { scan with failed := scan.failed ++ [gate.stageId] })
  | none => do
    let eligibility ← stageEligibility task validated gate.stageId
    if eligibility.state = .blocked then
      return { scan with blockers := scan.blockers ++ eligibility.blockingStageIds }
    return { scan with pending := scan.pending ++ [gate.stageId] }

def hardGates : List StageSpec := task.evaluation.stages.filter fun st => st.purpose = .hardGate

/-- Gate success, without treating observation success as gate success. -/
def hardGateStatus (results : List StageResult) : Except String HardGateStatus := do
  let validated ← validateStageResults task results
  let index ← resultIndex validated
  let scan ← foldSteps (scanGate task validated index) {} (hardGates task)
  if scan.failed ≠ [] ∨ scan.blockers ≠ [] then
    return { state := .failed, failedGateIds := sortedStrings scan.failed,
             blockingStageIds := normalizeIds scan.blockers,
             pendingGateIds := sortedStrings scan.pending }
  if scan.pending ≠ [] then
    return { state := .pending, pendingGateIds := sortedStrings scan.pending }
  return { state := .succeeded }

/-- The running pair `(blocked, waiting)` over the missing measurement producers. -/
structure ProducerScan where
  blocked : List Identifier := []
  waiting : List Identifier := []

def scanProducer (validated : List StageResult) (scan : ProducerScan) (stageId : Identifier) :
    Except String ProducerScan := do
  let eligibility ← stageEligibility task validated stageId
  if eligibility.state = .blocked then
    return { scan with blocked := scan.blocked ++ eligibility.blockingStageIds }
  return { scan with waiting := scan.waiting ++ [stageId] }

def producerStageIds : List Identifier :=
  (task.measurements.map MeasurementSpec.producerStageId).dedup

/-- Whether task-bound scoring has complete, promoted inputs. -/
def scorerEligibility (results : List StageResult) : Except String ScorerEligibility := do
  let validated ← validateStageResults task results
  let index ← resultIndex validated
  let gateStatus ← hardGateStatus task validated
  if gateStatus.state = .failed then
    return { state := .blocked,
             blockingStageIds :=
               normalizeIds (gateStatus.failedGateIds ++ gateStatus.blockingStageIds) }
  if gateStatus.state = .pending then
    return { state := .waiting, waitingStageIds := gateStatus.pendingGateIds }
  if task.measurements = [] then
    return { state := .notConfigured }
  let nonpromoting := (producerStageIds task).filter fun stageId =>
    ((index.get? stageId).any fun r => !outcomePromotes r.outcome)
  if nonpromoting ≠ [] then
    return { state := .blocked, blockingStageIds := sortedStrings nonpromoting }
  let missing := (producerStageIds task).filter (· ∉ index)
  let scan ← foldSteps (scanProducer task validated) {} missing
  if scan.blocked ≠ [] then
    return { state := .blocked, blockingStageIds := normalizeIds scan.blocked }
  if scan.waiting ≠ [] then
    return { state := .waiting, waitingStageIds := sortedStrings scan.waiting }
  return { state := .ready }

/-! ### Reading result snapshots -/

variable {task} {index : Dict Identifier StageResult} {results : List StageResult}

lemma resultIndex_eq_ok :
    resultIndex results = .ok index ↔ (results.map StageResult.stageId).Nodup ∧
      index = Dict.ofList (results.map fun result => (result.stageId, result)) := by
  have hkeys : (results.map fun result => (result.stageId, result)).map Prod.fst =
      results.map StageResult.stageId := by
    simp [List.map_map, Function.comp_def]
  have hlen : (Dict.ofList (results.map fun r => (r.stageId, r))).entries.length = results.length ↔
      (results.map StageResult.stageId).Nodup := by
    rw [← hkeys, ← Dict.length_entries_ofList, List.length_map]
  simp only [resultIndex, bind_eq_ok, raiseIf_eq_ok, exists_const, pure_eq_ok, not_not, hlen]
  exact and_congr_right fun _ => eq_comm

variable {stageId : Identifier}

lemma get?_resultIndex
    (h : resultIndex results = .ok index) {result : StageResult} :
    index.get? stageId = some result ↔ result ∈ results ∧ result.stageId = stageId := by
  obtain ⟨hnodup, rfl⟩ := resultIndex_eq_ok.mp h
  rw [Dict.get?_ofList (by simpa [List.map_map, Function.comp_def] using hnodup), List.mem_map]
  constructor
  · rintro ⟨r, hr, heq⟩
    obtain ⟨rfl, rfl⟩ := Prod.mk.inj heq
    exact ⟨hr, rfl⟩
  · rintro ⟨hr, rfl⟩
    exact ⟨result, hr, rfl⟩

lemma mem_resultIndex
    (h : resultIndex results = .ok index) :
    stageId ∈ index ↔ ∃ result ∈ results, result.stageId = stageId := by
  rw [Dict.mem_iff]
  simp only [get?_resultIndex h]

/-- A snapshot is accepted exactly when it has one result per stage, of known stages, each of
them valid. -/
lemma validateStageResults_eq_ok {results validated : List StageResult} :
    validateStageResults task results = .ok validated ↔
      ∃ index ordered, resultIndex results = .ok index ∧
        (∀ result ∈ results, result.stageId ∈ task.stageIndex) ∧
        topologicalStageIds task = .ok ordered ∧
        (∀ stageId ∈ ordered, validateStage task index ⟨⟩ stageId = .ok ⟨⟩) ∧
        validated = ordered.filterMap index.get? := by
  have hknown : ∀ {index : Dict Identifier StageResult}, resultIndex results = .ok index →
      (index.keys.filter (fun s => decide (s ∉ task.stageIndex)) = [] ↔
        ∀ result ∈ results, result.stageId ∈ task.stageIndex) := by
    intro index hi
    simp only [List.filter_eq_nil_iff, decide_eq_true_eq, not_not, Dict.mem_keys,
      mem_resultIndex hi]
    constructor
    · intro h result hr
      exact h _ ⟨result, hr, rfl⟩
    · rintro h _ ⟨result, hr, rfl⟩
      exact h result hr
  simp only [validateStageResults, bind_eq_ok, raiseIf_eq_ok, exists_const, pure_eq_ok, not_not,
    foldSteps_unit_eq_ok]
  constructor
  · rintro ⟨index, hi, hk, ordered, ho, hv, rfl⟩
    exact ⟨index, ordered, hi, (hknown hi).mp hk, ho, hv, rfl⟩
  · rintro ⟨index, ordered, hi, hk, ho, hv, rfl⟩
    exact ⟨index, hi, (hknown hi).mpr hk, ordered, ho, hv, rfl⟩

lemma mem_of_mem_validated {results validated : List StageResult}
    (h : validateStageResults task results = .ok validated) {result : StageResult}
    (hr : result ∈ validated) : result ∈ results := by
  obtain ⟨index, ordered, hi, -, -, -, rfl⟩ := validateStageResults_eq_ok.mp h
  obtain ⟨stageId, -, hs⟩ := List.mem_filterMap.mp hr
  exact ((get?_resultIndex hi).mp hs).1

/-! ### Hard gates -/

lemma stageEligibility_blocked {eligibility : StageEligibility}
    (h : stageEligibility task results stageId = .ok eligibility)
    (hb : eligibility.state = .blocked) : eligibility.blockingStageIds ≠ [] := by
  simp only [stageEligibility, bind_eq_ok, orRaise_eq_ok] at h
  obtain ⟨stage, -, validated, -, index, -, h⟩ := h
  split_ifs at h with h₁ h₂ h₃
  all_goals
    rw [pure_eq_ok] at h
    subst h
  · cases hb
  · exact h₂
  · cases hb
  · cases hb

/-- A step of the gate scan that leaves everything empty has found a promoting result. -/
lemma scanGate_clear {validated : List StageResult}
    {scan scan' : GateScan} {gate : StageSpec}
    (h : scanGate task validated index scan gate = .ok scan')
    (hclear : scan'.failed = [] ∧ scan'.blockers = [] ∧ scan'.pending = []) :
    (scan.failed = [] ∧ scan.blockers = [] ∧ scan.pending = []) ∧
      ∃ result, index.get? gate.stageId = some result ∧ outcomePromotes result.outcome = true := by
  unfold scanGate at h
  cases hg : index.get? gate.stageId with
  | some result =>
    simp only [hg, Except.ok.injEq] at h
    by_cases hp : outcomePromotes result.outcome = true
    · rw [if_pos hp] at h
      subst h
      exact ⟨hclear, result, rfl, hp⟩
    · rw [if_neg hp] at h
      subst h
      simp at hclear
  | none =>
    simp only [hg, bind_eq_ok] at h
    obtain ⟨eligibility, he, h⟩ := h
    split_ifs at h with hb
    all_goals
      rw [pure_eq_ok] at h
      subst h
    · exact absurd (by simpa using hclear.2.1 : _ ∧ _).2 (stageEligibility_blocked he hb)
    · simp at hclear

lemma scanGates_clear {validated : List StageResult}
    {gates : List StageSpec} {scan scan' : GateScan}
    (h : foldSteps (scanGate task validated index) scan gates = .ok scan')
    (hclear : scan'.failed = [] ∧ scan'.blockers = [] ∧ scan'.pending = []) :
    ∀ gate ∈ gates, ∃ result, index.get? gate.stageId = some result ∧
      outcomePromotes result.outcome = true := by
  induction gates using List.reverseRecOn generalizing scan' with
  | nil => simp
  | append_singleton gates gate ih =>
    obtain ⟨m, hm, hlast⟩ := foldSteps_concat_eq_ok.mp h
    obtain ⟨hclear', hgate⟩ := scanGate_clear hlast hclear
    intro g hg
    rcases List.mem_append.mp hg with hg | hg
    · exact ih hm hclear' g hg
    · rw [List.mem_singleton] at hg
      subst hg
      exact hgate

/-- Gate success rests on a promoting result of every hard gate. -/
theorem hardGateStatus_succeeded {status : HardGateStatus}
    (h : hardGateStatus task results = .ok status) (hs : status.state = .succeeded) :
    ∀ gate ∈ task.evaluation.stages, gate.purpose = .hardGate →
      ∃ result ∈ results, result.stageId = gate.stageId ∧
        outcomePromotes result.outcome = true := by
  simp only [hardGateStatus, bind_eq_ok] at h
  obtain ⟨validated, hv, index, hi, scan, hscan, h⟩ := h
  have hclear : scan.failed = [] ∧ scan.blockers = [] ∧ scan.pending = [] := by
    split_ifs at h with h₁ h₂
    all_goals
      rw [pure_eq_ok] at h
      subst h
    · cases hs
    · cases hs
    · simp only [not_or, not_not] at h₁ h₂
      exact ⟨h₁.1, h₁.2, h₂⟩
  intro gate hgate hpurpose
  have hmem : gate ∈ hardGates task := by
    simp [hardGates, hgate, hpurpose]
  obtain ⟨result, hr, hp⟩ := scanGates_clear hscan hclear gate hmem
  obtain ⟨hr, hid⟩ := (get?_resultIndex hi).mp hr
  exact ⟨result, mem_of_mem_validated hv hr, hid, hp⟩

end Promotion

end EdaGym
