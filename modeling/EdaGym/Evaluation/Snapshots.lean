import EdaGym.Evaluation.Topology
import EdaGym.Evaluation.Scoring

/-!
# Result snapshots

A snapshot is accepted when every result is well formed for its stage and the dependencies of its
stage have promoting results. What the promotion rules say of a snapshot depends on no order of its
results.
-/

namespace EdaGym

section Evidence

variable {task : TaskSpec} {result : StageResult}

/-- The measurements of a result belong to its stage, and a promoting result has all of them. -/
structure WellFormedResult (task : TaskSpec) (result : StageResult) : Prop where
  known : ∀ m ∈ result.measurements, ∃ spec ∈ task.measurements,
    spec.measurementId = m.measurementId ∧ spec.producerStageId = result.stageId ∧
      m.samples.length = spec.repetitions ∧
      ∀ sample ∈ m.samples, (∀ lo ∈ spec.validMinimum, lo ≤ sample) ∧
        ∀ hi ∈ spec.validMaximum, sample ≤ hi
  complete : outcomePromotes result.outcome = true → ∀ spec ∈ task.measurements,
    spec.producerStageId = result.stageId →
      ∃ m ∈ result.measurements, m.measurementId = spec.measurementId

lemma get?_measurementIndex {id : Identifier} {spec : MeasurementSpec} :
    (measurementIndex task).get? id = some spec ↔
      spec ∈ task.measurements ∧ spec.measurementId = id := by
  have hnodup : ((task.measurements.map fun m => (m.measurementId, m)).map Prod.fst).Nodup := by
    simpa [List.map_map, Function.comp_def, TaskDocument.measurementIds]
      using task.checked.measurements_nodup
  rw [measurementIndex, Dict.get?_ofList hnodup, List.mem_map]
  constructor
  · rintro ⟨spec', hmem, heq⟩
    obtain ⟨rfl, rfl⟩ := Prod.mk.inj heq
    exact ⟨hmem, rfl⟩
  · rintro ⟨hmem, rfl⟩
    exact ⟨spec, hmem, rfl⟩

lemma mem_expectedMeasurements {s id : Identifier} : id ∈ expectedMeasurements task s ↔
    ∃ spec ∈ task.measurements, spec.producerStageId = s ∧ spec.measurementId = id := by
  simp [expectedMeasurements, and_assoc]

lemma validateEvidenceSamples_eq_ok {evidence : MeasurementEvidence} {spec : MeasurementSpec}
    (hspec : (measurementIndex task).get? evidence.measurementId = some spec) :
    validateEvidenceSamples (measurementIndex task) ⟨⟩ evidence = .ok ⟨⟩ ↔
      evidence.samples.length = spec.repetitions ∧
        ∀ sample ∈ evidence.samples, (∀ lo ∈ spec.validMinimum, lo ≤ sample) ∧
          ∀ hi ∈ spec.validMaximum, sample ≤ hi := by
  simp only [validateEvidenceSamples, hspec, orRaise, bind_eq_ok, raiseIf_eq_ok, exists_const,
    not_not, foldSteps_unit_eq_ok, validateSample, Except.ok.injEq, exists_eq_left',
    not_exists, not_and, not_lt]

lemma validateMeasurementEvidence_eq_ok :
    validateMeasurementEvidence result (measurementIndex task)
      (expectedMeasurements task result.stageId) = .ok ⟨⟩ ↔ WellFormedResult task result := by
  simp only [validateMeasurementEvidence, bind_eq_ok, raiseIf_eq_ok, exists_const, not_not,
    foldSteps_unit_eq_ok, List.filter_eq_nil_iff, List.forall_mem_map, decide_eq_true_eq,
    not_and_not_right]
  constructor
  · rintro ⟨-, hplaced, hcomplete, hsamples⟩
    refine ⟨?_, ?_⟩
    · intro m hm
      obtain ⟨spec, hspec, hproducer⟩ := Option.map_eq_some_iff.mp (hplaced m hm)
      obtain ⟨hmem, hid⟩ := get?_measurementIndex.mp hspec
      exact ⟨spec, hmem, hid, hproducer, (validateEvidenceSamples_eq_ok hspec).mp (hsamples m hm)⟩
    · intro hpromotes spec hspec hproducer
      obtain ⟨-, hall⟩ := hcomplete hpromotes
      exact List.mem_map.mp (hall (mem_expectedMeasurements.mpr ⟨spec, hspec, hproducer, rfl⟩))
  · intro h
    have hindex : ∀ m ∈ result.measurements, ∃ spec,
        (measurementIndex task).get? m.measurementId = some spec ∧
          spec.producerStageId = result.stageId ∧
          validateEvidenceSamples (measurementIndex task) ⟨⟩ m = .ok ⟨⟩ := by
      intro m hm
      obtain ⟨spec, hmem, hid, hproducer, hsamples⟩ := h.known m hm
      have hspec := get?_measurementIndex.mpr ⟨hmem, hid⟩
      exact ⟨spec, hspec, hproducer, (validateEvidenceSamples_eq_ok hspec).mpr hsamples⟩
    refine ⟨?_, ?_, ?_, ?_⟩
    · intro m hm
      obtain ⟨spec, hspec, -⟩ := hindex m hm
      exact Dict.mem_of_get? hspec
    · intro m hm
      obtain ⟨spec, hspec, hproducer, -⟩ := hindex m hm
      rw [hspec, Option.map_some, hproducer]
    · intro hpromotes
      refine ⟨?_, ?_⟩
      · intro id hid
        obtain ⟨m, hm, rfl⟩ := List.mem_map.mp hid
        obtain ⟨spec, hmem, hid, hproducer, -⟩ := h.known m hm
        exact mem_expectedMeasurements.mpr ⟨spec, hmem, hproducer, hid⟩
      · intro id hid
        obtain ⟨spec, hmem, hproducer, rfl⟩ := mem_expectedMeasurements.mp hid
        exact List.mem_map.mpr (h.complete hpromotes spec hmem hproducer)
    · intro m hm
      obtain ⟨spec, -, -, hsamples⟩ := hindex m hm
      exact hsamples

end Evidence

/-! ### Accepted snapshots -/

section Snapshots

variable {task : TaskSpec} {results results' : List StageResult} {s : Identifier}

def HasResult (results : List StageResult) (s : Identifier) : Prop :=
  ∃ result ∈ results, result.stageId = s

/-- The stage has a promoting result. -/
def Promoted (results : List StageResult) (s : Identifier) : Prop :=
  ∃ result ∈ results, result.stageId = s ∧ outcomePromotes result.outcome = true

/-- The stage has a result that does not promote. -/
def Halted (results : List StageResult) (s : Identifier) : Prop :=
  ∃ result ∈ results, result.stageId = s ∧ outcomePromotes result.outcome = false

structure Snapshot (task : TaskSpec) (results : List StageResult) : Prop where
  nodup : (results.map StageResult.stageId).Nodup
  known : ∀ result ∈ results, result.stageId ∈ task.stageIds
  promoted : ∀ result ∈ results, ∀ d, task.Depends result.stageId d → Promoted results d
  wellFormed : ∀ result ∈ results, WellFormedResult task result

lemma Promoted.hasResult (h : Promoted results s) : HasResult results s := by
  obtain ⟨result, hmem, hid, -⟩ := h
  exact ⟨result, hmem, hid⟩

lemma Halted.hasResult (h : Halted results s) : HasResult results s := by
  obtain ⟨result, hmem, hid, -⟩ := h
  exact ⟨result, hmem, hid⟩

lemma HasResult.promoted_or_halted (h : HasResult results s) :
    Promoted results s ∨ Halted results s := by
  obtain ⟨result, hmem, hid⟩ := h
  cases hpromotes : outcomePromotes result.outcome with
  | true => exact Or.inl ⟨result, hmem, hid, hpromotes⟩
  | false => exact Or.inr ⟨result, hmem, hid, hpromotes⟩

lemma Snapshot.result_unique (h : Snapshot task results) {result result' : StageResult}
    (hr : result ∈ results) (hr' : result' ∈ results) (hid : result.stageId = result'.stageId) :
    result = result' :=
  List.inj_on_of_nodup_map h.nodup hr hr' hid

lemma Snapshot.not_halted (h : Snapshot task results) (hp : Promoted results s) :
    ¬ Halted results s := by
  rintro ⟨result, hr, hid, hhalts⟩
  obtain ⟨result', hr', hid', hpromotes⟩ := hp
  obtain rfl := h.result_unique hr hr' (hid.trans hid'.symm)
  rw [hhalts] at hpromotes
  cases hpromotes

lemma validateStage_eq_ok {index : Dict Identifier StageResult}
    (hindex : resultIndex results = .ok index) (hs : s ∈ task.stageIds) :
    validateStage task index ⟨⟩ s = .ok ⟨⟩ ↔ ∀ result ∈ results, result.stageId = s →
      (∀ d, task.Depends s d → Promoted results d) ∧ WellFormedResult task result := by
  obtain ⟨stage, hmem, rfl⟩ := List.mem_map.mp hs
  have hstage : task.stageIndex.get? stage.stageId = some stage := get?_stageIndex.mpr ⟨hmem, rfl⟩
  have hdepends : ∀ d, task.Depends stage.stageId d ↔ d ∈ stage.dependsOn := by
    intro d
    simp [TaskDocument.Depends, hstage]
  have hpromoted : ∀ d, validateDependency index stage.stageId ⟨⟩ d = .ok ⟨⟩ ↔
      Promoted results d := by
    intro d
    simp only [validateDependency, raiseIf_eq_ok, not_not, Option.mem_def, get?_resultIndex hindex,
      Promoted, and_assoc]
  unfold validateStage
  cases hget : index.get? stage.stageId with
  | none =>
    have hnone : ∀ result ∈ results, result.stageId ≠ stage.stageId := by
      intro result hr hid
      have hsome := (get?_resultIndex hindex).mpr ⟨hr, hid⟩
      rw [hget] at hsome
      cases hsome
    simp only [true_iff]
    intro result hr hid
    exact absurd hid (hnone result hr)
  | some result =>
    obtain ⟨hr, hid⟩ := (get?_resultIndex hindex).mp hget
    simp only [hstage, orRaise, bind_eq_ok, Except.ok.injEq, exists_eq_left', foldSteps_unit_eq_ok,
      exists_const, hpromoted, hdepends]
    rw [← hid, validateMeasurementEvidence_eq_ok]
    constructor
    · rintro ⟨hdeps, hwell⟩ result' hr' hid'
      obtain rfl : result = result' := by
        have hsome := (get?_resultIndex hindex).mpr ⟨hr', hid'.trans hid⟩
        exact Option.some.inj (hget.symm.trans hsome)
      exact ⟨hdeps, hwell⟩
    · intro h
      exact h result hr rfl

/-- The snapshots that `validateStageResults` accepts, and what it returns. -/
theorem validateStageResults_eq_ok_iff {validated : List StageResult} :
    validateStageResults task results = .ok validated ↔ Snapshot task results ∧
      ∃ index ordered, resultIndex results = .ok index ∧
        topologicalStageIds task = .ok ordered ∧ validated = ordered.filterMap index.get? := by
  obtain ⟨ordered, hordered, hperm, -⟩ := topologicalStageIds_eq_ok task
  rw [validateStageResults_eq_ok]
  constructor
  · rintro ⟨index, ordered', hindex, hknown, hordered', hstages, rfl⟩
    obtain rfl := Except.ok.inj (hordered.symm.trans hordered')
    have hknown' : ∀ result ∈ results, result.stageId ∈ task.stageIds := fun result hr =>
      mem_stageIndex.mp (hknown result hr)
    have hall : ∀ result ∈ results, (∀ d, task.Depends result.stageId d → Promoted results d) ∧
        WellFormedResult task result := by
      intro result hr
      have hstage := hstages result.stageId (hperm.mem_iff.mpr (hknown' result hr))
      exact (validateStage_eq_ok hindex (hknown' result hr)).mp hstage result hr rfl
    exact ⟨⟨(resultIndex_eq_ok.mp hindex).1, hknown', fun result hr => (hall result hr).1,
      fun result hr => (hall result hr).2⟩, index, ordered, hindex, hordered, rfl⟩
  · rintro ⟨hsnapshot, index, ordered', hindex, hordered', rfl⟩
    obtain rfl := Except.ok.inj (hordered.symm.trans hordered')
    refine ⟨index, ordered, hindex, ?_, hordered, ?_, rfl⟩
    · intro result hr
      exact mem_stageIndex.mpr (hsnapshot.known result hr)
    · intro s hs
      refine (validateStage_eq_ok hindex (hperm.mem_iff.mp hs)).mpr ?_
      rintro result hr rfl
      exact ⟨hsnapshot.promoted result hr, hsnapshot.wellFormed result hr⟩

theorem accepted_iff_snapshot :
    (∃ validated, validateStageResults task results = .ok validated) ↔ Snapshot task results := by
  constructor
  · rintro ⟨validated, h⟩
    exact (validateStageResults_eq_ok_iff.mp h).1
  · intro h
    obtain ⟨ordered, hordered, -⟩ := topologicalStageIds_eq_ok task
    exact ⟨_, validateStageResults_eq_ok_iff.mpr
      ⟨h, _, ordered, resultIndex_eq_ok.mpr ⟨h.nodup, rfl⟩, hordered, rfl⟩⟩

lemma nodup_filterMap_index {index : Dict Identifier StageResult}
    (hindex : resultIndex results = .ok index) {ids : List Identifier} (hids : ids.Nodup) :
    (ids.filterMap index.get?).Nodup := by
  refine List.Nodup.filterMap ?_ hids
  intro s s' result hs hs'
  exact ((get?_resultIndex hindex).mp hs).2.symm.trans ((get?_resultIndex hindex).mp hs').2

/-- Validation reorders a snapshot. -/
lemma perm_of_validated {validated : List StageResult}
    (h : validateStageResults task results = .ok validated) : validated.Perm results := by
  obtain ⟨hsnapshot, index, ordered, hindex, hordered, rfl⟩ := validateStageResults_eq_ok_iff.mp h
  obtain ⟨ordered', hordered', hperm, -⟩ := topologicalStageIds_eq_ok task
  obtain rfl := Except.ok.inj (hordered.symm.trans hordered')
  have hnodup := nodup_filterMap_index hindex (hperm.nodup_iff.mpr task.stageIds_nodup)
  refine (List.perm_ext_iff_of_nodup hnodup (List.Nodup.of_map _ hsnapshot.nodup)).mpr ?_
  intro result
  rw [List.mem_filterMap]
  constructor
  · rintro ⟨s, -, hs⟩
    exact ((get?_resultIndex hindex).mp hs).1
  · intro hr
    exact ⟨result.stageId, hperm.mem_iff.mpr (hsnapshot.known result hr),
      (get?_resultIndex hindex).mpr ⟨hr, rfl⟩⟩

/-! ### Order of the results -/

lemma resultIndex_error (h : ¬ (results.map StageResult.stageId).Nodup) :
    resultIndex results =
      .error "a result snapshot can contain only one result per stage" := by
  have hlength : (Dict.ofList (results.map fun r => (r.stageId, r))).entries.length ≠
      results.length := by
    intro heq
    rw [← List.length_map (fun r : StageResult => (r.stageId, r)), Dict.length_entries_ofList,
      List.map_map] at heq
    exact h heq
  rw [resultIndex, raiseIf, if_pos hlength]
  rfl

lemma hasResult_perm (h : results.Perm results') : HasResult results s ↔ HasResult results' s := by
  simp only [HasResult, h.mem_iff]

lemma promoted_perm (h : results.Perm results') : Promoted results s ↔ Promoted results' s := by
  simp only [Promoted, h.mem_iff]

lemma halted_perm (h : results.Perm results') : Halted results s ↔ Halted results' s := by
  simp only [Halted, h.mem_iff]

lemma Snapshot.perm (h : Snapshot task results) (hperm : results.Perm results') :
    Snapshot task results' where
  nodup := (hperm.map _).nodup_iff.mp h.nodup
  known result hr := h.known result (hperm.mem_iff.mpr hr)
  promoted result hr d hd :=
    (promoted_perm hperm).mp (h.promoted result (hperm.mem_iff.mpr hr) d hd)
  wellFormed result hr := h.wellFormed result (hperm.mem_iff.mpr hr)

/-- A snapshot is validated as a whole, whatever the order of its results; even a rejected one gets
the same error. -/
theorem validateStageResults_perm (task : TaskSpec) (h : results.Perm results') :
    validateStageResults task results = validateStageResults task results' := by
  by_cases hnodup : (results.map StageResult.stageId).Nodup
  · have hnodup' := (h.map StageResult.stageId).nodup_iff.mp hnodup
    have hindex := resultIndex_eq_ok.mpr ⟨hnodup, rfl⟩
    have hindex' := resultIndex_eq_ok.mpr ⟨hnodup', rfl⟩
    have hkeys : ∀ {rs : List StageResult}, (rs.map StageResult.stageId).Nodup →
        (Dict.ofList (rs.map fun r => (r.stageId, r))).keys = rs.map StageResult.stageId := by
      intro rs hrs
      rw [Dict.keys, Dict.entries_ofList (by simpa [List.map_map, Function.comp_def] using hrs)]
      simp [List.map_map, Function.comp_def]
    have hget : (Dict.ofList (results.map fun r => (r.stageId, r))).get? =
        (Dict.ofList (results'.map fun r => (r.stageId, r))).get? := by
      funext s
      ext result
      rw [get?_resultIndex hindex, get?_resultIndex hindex', h.mem_iff]
    have hstage : validateStage task (Dict.ofList (results.map fun r => (r.stageId, r))) =
        validateStage task (Dict.ofList (results'.map fun r => (r.stageId, r))) := by
      have hdependency : validateDependency (Dict.ofList (results.map fun r => (r.stageId, r))) =
          validateDependency (Dict.ofList (results'.map fun r => (r.stageId, r))) := by
        funext s u d
        simp only [validateDependency, hget]
      funext u s
      simp only [validateStage, hdependency, hget]
    have hunknown := ((h.map StageResult.stageId).filter fun s => s ∉ task.stageIndex)
    simp only [validateStageResults, hindex, hindex', ok_bind, hkeys hnodup, hkeys hnodup',
      sortedStrings_eq_of_perm hunknown, hstage, hget, ne_eq, ← List.length_eq_zero_iff,
      hunknown.length_eq]
  · have hnodup' := mt (h.map StageResult.stageId).nodup_iff.mpr hnodup
    rw [validateStageResults, validateStageResults, resultIndex_error hnodup,
      resultIndex_error hnodup']

theorem stageEligibility_perm (task : TaskSpec) (h : results.Perm results') (s : Identifier) :
    stageEligibility task results s = stageEligibility task results' s := by
  rw [stageEligibility, stageEligibility, validateStageResults_perm task h]

theorem hardGateStatus_perm (task : TaskSpec) (h : results.Perm results') :
    hardGateStatus task results = hardGateStatus task results' := by
  rw [hardGateStatus, hardGateStatus, validateStageResults_perm task h]

theorem scorerEligibility_perm (task : TaskSpec) (h : results.Perm results') :
    scorerEligibility task results = scorerEligibility task results' := by
  rw [scorerEligibility, scorerEligibility, validateStageResults_perm task h]

theorem buildCandidateScore_perm (task : TaskSpec) (h : results.Perm results') :
    buildCandidateScore task results = buildCandidateScore task results' := by
  rw [buildCandidateScore, buildCandidateScore, aggregateMeasurements, aggregateMeasurements,
    scorerEligibility_perm task h, validateStageResults_perm task h]

end Snapshots

end EdaGym
