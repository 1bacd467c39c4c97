import EdaGym.Evaluation.Eligibility

/-!
# Progress of an evaluation

The accepted snapshots are those that can be built one ready stage after the other. Results that are
added neither make a ready stage wait nor change a decided gate, and as long as something is pending
some stage is ready.
-/

namespace EdaGym

open Relation

section Progress

variable {task : TaskSpec} {results results' : List StageResult} {s : Identifier}

/-- Every result is well formed and its stage was ready when it came. -/
def Buildable (task : TaskSpec) (order : List StageResult) : Prop :=
  ∀ pre result post, order = pre ++ result :: post →
    IsReady task pre result.stageId ∧ WellFormedResult task result

lemma Snapshot.nil : Snapshot task [] :=
  ⟨by simp, by simp, by simp, by simp⟩

/-- A ready stage may get any well formed result. -/
lemma Snapshot.concat {result : StageResult} (hready : IsReady task results result.stageId)
    (hwell : WellFormedResult task result) : Snapshot task (results ++ [result]) := by
  obtain ⟨hsnapshot, hknown, hnone, hdeps⟩ := isReady_iff.mp hready
  have hmono : ∀ d, Promoted results d → Promoted (results ++ [result]) d := by
    rintro d ⟨r, hr, hid, hp⟩
    exact ⟨r, List.mem_append_left _ hr, hid, hp⟩
  refine ⟨?_, ?_, ?_, ?_⟩
  · rw [List.map_append, List.nodup_append]
    refine ⟨hsnapshot.nodup, by simp, ?_⟩
    rintro id hid _ hid' rfl
    obtain ⟨r, hr, rfl⟩ := List.mem_map.mp hid
    rw [List.map_singleton, List.mem_singleton] at hid'
    exact hnone ⟨r, hr, hid'⟩
  · rw [List.forall_mem_append]
    exact ⟨hsnapshot.known, by simpa using hknown⟩
  · rw [List.forall_mem_append]
    refine ⟨fun r hr d hd => hmono d (hsnapshot.promoted r hr d hd), ?_⟩
    intro r hr d hd
    rw [List.mem_singleton.mp hr] at hd
    exact hmono d (hdeps d hd)
  · rw [List.forall_mem_append]
    exact ⟨hsnapshot.wellFormed, by simpa using hwell⟩

lemma snapshot_of_buildable {order : List StageResult} (h : Buildable task order) :
    Snapshot task order := by
  rcases List.eq_nil_or_concat order with rfl | ⟨pre, result, rfl⟩
  · exact Snapshot.nil
  · rw [List.concat_eq_append] at h ⊢
    obtain ⟨hready, hwell⟩ := h pre result [] rfl
    exact Snapshot.concat hready hwell

lemma mem_filterMap_index {index : Dict Identifier StageResult}
    (hindex : resultIndex results = .ok index) {ids : List Identifier} (result : StageResult) :
    result ∈ ids.filterMap index.get? ↔ result ∈ results ∧ result.stageId ∈ ids := by
  rw [List.mem_filterMap]
  constructor
  · rintro ⟨s, hs, hget⟩
    obtain ⟨hr, rfl⟩ := (get?_resultIndex hindex).mp hget
    exact ⟨hr, hs⟩
  · rintro ⟨hr, hs⟩
    exact ⟨result.stageId, hs, (get?_resultIndex hindex).mpr ⟨hr, rfl⟩⟩

/-- The results of some stages that contain all they depend on are a snapshot. -/
lemma Snapshot.restrict (h : Snapshot task results) {index : Dict Identifier StageResult}
    (hindex : resultIndex results = .ok index) {ids : List Identifier} (hids : ids.Nodup)
    (hclosed : ∀ s ∈ ids, ∀ d, task.Depends s d → d ∈ ids) :
    Snapshot task (ids.filterMap index.get?) := by
  have hmem : ∀ result, result ∈ ids.filterMap index.get? ↔
      result ∈ results ∧ result.stageId ∈ ids := mem_filterMap_index hindex
  refine ⟨?_, ?_, ?_, ?_⟩
  · refine (nodup_filterMap_index hindex hids).map_on ?_
    intro result hr result' hr' hid
    exact h.result_unique ((hmem result).mp hr).1 ((hmem result').mp hr').1 hid
  · intro result hr
    exact h.known result ((hmem result).mp hr).1
  · intro result hr d hd
    obtain ⟨hr, hs⟩ := (hmem result).mp hr
    obtain ⟨r, hr', rfl, hp⟩ := h.promoted result hr d hd
    exact ⟨r, (hmem r).mpr ⟨hr', hclosed _ hs _ hd⟩, rfl, hp⟩
  · intro result hr
    exact h.wellFormed result ((hmem result).mp hr).1

/-- In the order of the stages, every result of a snapshot comes when its stage is ready. -/
lemma Snapshot.buildable (h : Snapshot task results) :
    ∃ order : List StageResult, order.Perm results ∧ Buildable task order := by
  obtain ⟨validated, hvalidated⟩ := accepted_iff_snapshot.mpr h
  refine ⟨validated, perm_of_validated hvalidated, ?_⟩
  obtain ⟨-, index, ordered, hindex, hordered, rfl⟩ := validateStageResults_eq_ok_iff.mp hvalidated
  obtain ⟨ordered', hordered', hperm, hdependency⟩ := topologicalStageIds_eq_ok task
  obtain rfl := Except.ok.inj (hordered.symm.trans hordered')
  have hnodup : ordered.Nodup := hperm.nodup_iff.mpr task.stageIds_nodup
  intro pre result post heq
  obtain ⟨ids, rest, rfl, rfl, hrest⟩ := List.filterMap_eq_append_iff.mp heq
  obtain ⟨skipped, s, tail, rfl, hskipped, hs, -⟩ := List.filterMap_eq_cons_iff.mp hrest
  obtain ⟨hr, rfl⟩ := (get?_resultIndex hindex).mp hs
  rw [← List.append_assoc] at hnodup hdependency
  -- the stages without a result are dropped, so all earlier stages have given the earlier results
  have hpre : ids.filterMap index.get? = (ids ++ skipped).filterMap index.get? := by
    rw [List.filterMap_append, List.filterMap_eq_nil_iff.mpr hskipped, List.append_nil]
  rw [hpre]
  have hmem : ∀ r, r ∈ (ids ++ skipped).filterMap index.get? ↔
      r ∈ results ∧ r.stageId ∈ ids ++ skipped := mem_filterMap_index hindex
  refine ⟨isReady_iff.mpr ⟨?_, h.known result hr, ?_, ?_⟩, h.wellFormed result hr⟩
  · exact h.restrict hindex (List.nodup_append.mp hnodup).1
      fun s hs d hd => hdependency.of_append.closed hs hd
  · rintro ⟨r, hr', hid⟩
    exact (List.nodup_append.mp hnodup).2.2 _ (hid ▸ ((hmem r).mp hr').2) _ List.mem_cons_self rfl
  · intro d hd
    obtain ⟨r, hr', rfl, hp⟩ := h.promoted result hr d hd
    exact ⟨r, (hmem r).mpr ⟨hr', hdependency _ _ _ rfl _ hd⟩, rfl, hp⟩

/-! ### Adding results -/

lemma Promoted.mono (h : Promoted results s) (hsub : results ⊆ results') : Promoted results' s := by
  obtain ⟨result, hr, hid, hp⟩ := h
  exact ⟨result, hsub hr, hid, hp⟩

lemma Halted.mono (h : Halted results s) (hsub : results ⊆ results') : Halted results' s := by
  obtain ⟨result, hr, hid, hh⟩ := h
  exact ⟨result, hsub hr, hid, hh⟩

lemma IsReady.mono (h : IsReady task results s) (hsnapshot : Snapshot task results')
    (hsub : results ⊆ results') (hnone : ¬ HasResult results' s) : IsReady task results' s := by
  obtain ⟨-, hknown, -, hdeps⟩ := isReady_iff.mp h
  exact isReady_iff.mpr ⟨hsnapshot, hknown, hnone, fun d hd => (hdeps d hd).mono hsub⟩

/-- A stage that was cut off stays so: with a result it would need what has halted. -/
lemma GatesFail.mono (h : GatesFail task results) (hsnapshot : Snapshot task results')
    (hsub : results ⊆ results') : GatesFail task results' := by
  obtain ⟨gate, hgate, hhalted | ⟨a, hcut⟩⟩ := h
  · exact ⟨gate, hgate, Or.inl (hhalted.mono hsub)⟩
  · refine ⟨gate, hgate, Or.inr ⟨a, ?_, hcut.2.1, hcut.2.2.mono hsub⟩⟩
    intro hresult
    exact hsnapshot.not_halted (hsnapshot.promoted_ancestor hresult hcut.2.1)
      (hcut.2.2.mono hsub)

/-- The accepted snapshots are those that can be built from ready stages. They do not depend on the
order of their results, and adding results undoes nothing that was decided. -/
theorem snapshots_built_in_order (task : TaskSpec) :
    (∀ results, (∃ validated, validateStageResults task results = .ok validated) ↔
      ∃ order : List StageResult, order.Perm results ∧ Buildable task order) ∧
    (∀ results results' s, IsReady task results s →
      (∃ validated, validateStageResults task results' = .ok validated) → results ⊆ results' →
      ¬ HasResult results' s → IsReady task results' s) ∧
    (∀ results results' status, hardGateStatus task results = .ok status →
      (∃ validated, validateStageResults task results' = .ok validated) → results ⊆ results' →
      ∃ status', hardGateStatus task results' = .ok status' ∧
        (status.state = .failed → status'.state = .failed) ∧
        (status.state = .succeeded → status'.state = .succeeded)) ∧
    ∀ results results' : List StageResult, results.Perm results' →
      validateStageResults task results = validateStageResults task results' ∧
      (∀ s, stageEligibility task results s = stageEligibility task results' s) ∧
      hardGateStatus task results = hardGateStatus task results' ∧
      scorerEligibility task results = scorerEligibility task results' ∧
      buildCandidateScore task results = buildCandidateScore task results' := by
  refine ⟨?_, ?_, ?_, ?_⟩
  · intro results
    rw [accepted_iff_snapshot]
    constructor
    · exact Snapshot.buildable
    · rintro ⟨order, hperm, hbuildable⟩
      exact (snapshot_of_buildable hbuildable).perm hperm
  · intro results results' s hready haccepted hsub hnone
    exact hready.mono (accepted_iff_snapshot.mp haccepted) hsub hnone
  · intro results results' status hstatus haccepted hsub
    have hsnapshot : Snapshot task results := by
      simp only [hardGateStatus, bind_eq_ok] at hstatus
      obtain ⟨validated, hvalidated, -⟩ := hstatus
      exact accepted_iff_snapshot.mp ⟨validated, hvalidated⟩
    have hsnapshot' := accepted_iff_snapshot.mp haccepted
    obtain ⟨status₀, hstatus₀, hverdict⟩ := hsnapshot.gates
    obtain rfl := Except.ok.inj (hstatus.symm.trans hstatus₀)
    obtain ⟨status', hstatus', hverdict'⟩ := hsnapshot'.gates
    refine ⟨status', hstatus', ?_, ?_⟩
    · intro hfailed
      exact hverdict'.failed_iff.mpr ((hverdict.failed_iff.mp hfailed).mono hsnapshot' hsub)
    · intro hsucceeded
      refine hverdict'.succeeded_iff.mpr ?_
      intro gate hgate
      exact (hverdict.succeeded_iff.mp hsucceeded gate hgate).mono hsub
  · intro results results' hperm
    exact ⟨validateStageResults_perm task hperm, stageEligibility_perm task hperm,
      hardGateStatus_perm task hperm, scorerEligibility_perm task hperm,
      buildCandidateScore_perm task hperm⟩

lemma unmeasured_sorted :
    (([] : List MeasurementSpec).map MeasurementSpec.measurementId).Pairwise (· ≤ ·) := .nil

/-- Two gates side by side, and a third one behind the second. -/
def threeGates : TaskSpec where
  identity := { family := "adder", authoringRevision := 3 }
  resources := [{ resourceId := "rtl", contentDigest := "d-rtl", mediaType := "text/plain" }]
  requirements := []
  evaluation := {
    evaluators := [{ evaluatorId := "formal", capability := .rtlLint,
                     implementationResource := "rtl", revisionDigest := "d-formal" }]
    stages := [{ stageId := "lec", evaluatorId := "formal", purpose := .hardGate },
      { stageId := "lint", evaluatorId := "formal", purpose := .hardGate },
      { stageId := "sta", evaluatorId := "formal", dependsOn := ["lint"], purpose := .hardGate }] }
  digest := "d-task"
  evaluators_sorted := by decide
  stages_sorted := by decide
  measurements_sorted := unmeasured_sorted
  valid := by decide

/-- The results of the last two gates come in either order, and leave the first one ready; it cannot
mend a gate that has failed. -/
theorem threeGates_built_in_order :
    (∃ order : List StageResult,
      order.Perm [{ stageId := "sta", outcome := .passed },
        { stageId := "lint", outcome := .passed }] ∧ Buildable threeGates order) ∧
    IsReady threeGates [{ stageId := "sta", outcome := .passed },
      { stageId := "lint", outcome := .passed }] "lec" ∧
    (∃ status, hardGateStatus threeGates [{ stageId := "lec", outcome := .passed },
      { stageId := "lint", outcome := .candidateFailure }] = .ok status ∧
        status.state = .failed) ∧
    scorerEligibility threeGates [{ stageId := "sta", outcome := .passed },
        { stageId := "lint", outcome := .passed }] =
      scorerEligibility threeGates [{ stageId := "lint", outcome := .passed },
        { stageId := "sta", outcome := .passed }] := by
  obtain ⟨hbuilt, hready, hgates, horder⟩ := snapshots_built_in_order threeGates
  have haccepted : ∃ validated, validateStageResults threeGates
      [{ stageId := "sta", outcome := .passed }, { stageId := "lint", outcome := .passed }] =
        .ok validated :=
    Except.exists_of_isOk (by decide +kernel)
  refine ⟨(hbuilt _).mp haccepted, ?_, ?_, ?_⟩
  · refine hready [] _ "lec" ?_ haccepted (List.nil_subset _) ?_
    · refine isReady_iff.mpr ⟨Snapshot.nil, by decide, by simp [HasResult], ?_⟩
      rintro d ⟨stage, hget, hd⟩
      have hnone : (threeGates.stageIndex.get? "lec").all fun stage => stage.dependsOn.isEmpty := by
        decide +kernel
      rw [hget] at hnone
      exact absurd hd (List.isEmpty_iff.mp hnone ▸ List.not_mem_nil)
    · simp [HasResult]
  · obtain ⟨status, hstatus⟩ := Except.exists_of_isOk (x := hardGateStatus threeGates
      [{ stageId := "lint", outcome := .candidateFailure }]) (by decide +kernel)
    obtain ⟨status', hstatus', hfailed, -⟩ := hgates _ [{ stageId := "lec", outcome := .passed },
      { stageId := "lint", outcome := .candidateFailure }] status hstatus
      (Except.exists_of_isOk (by decide +kernel)) (List.subset_cons_self _ _)
    refine ⟨status', hstatus', hfailed ?_⟩
    have hstate : (hardGateStatus threeGates
        [{ stageId := "lint", outcome := .candidateFailure }]).toOption.any
          (fun status => decide (status.state = .failed)) = true := by
      decide +kernel
    rw [hstatus] at hstate
    exact of_decide_eq_true hstate
  · exact (horder _ _ (.swap _ _ _)).2.2.2.1

/-! ### Pending stages -/

/-- Before a pending stage there is a ready one: the least ancestor without a result. -/
theorem Snapshot.exists_ready (h : Snapshot task results) (hpending : Pending task results s) :
    ∃ r ∈ task.stageIds, IsReady task results r := by
  obtain ⟨ordered, -, hperm, hordered⟩ := topologicalStageIds_eq_ok task
  obtain ⟨r, hr, ⟨hreach, hnone⟩, hleast⟩ := hordered.exists_least
    (P := fun r => ReflTransGen task.Depends s r ∧ ¬ HasResult results r)
    (hperm.mem_iff.mpr hpending.known) ⟨.refl, hpending.no_result⟩
  have hknown := hperm.mem_iff.mp hr
  refine ⟨r, hknown, isReady_iff.mpr ⟨h, hknown, hnone, ?_⟩⟩
  intro d hd
  have hancestor : TransGen task.Depends s d := TransGen.tail' hreach hd
  have hresult : HasResult results d := by
    by_contra hout
    exact hleast d hd ⟨hancestor.to_reflTransGen, hout⟩
  rcases hresult.promoted_or_halted with hp | hh
  · exact hp
  · exact absurd hh (hpending.clear d hancestor)

/-! ### Derived scores -/

lemma roundedFraction_cases (value : ℚ) (precisionDigits : Nat) :
    (∃ rounded, roundedFraction value precisionDigits = .ok rounded) ∨
      roundedFraction value precisionDigits = .error DECIMAL_OVERFLOW := by
  unfold roundedFraction
  cases (decimalContext precisionDigits).round value with
  | none => exact .inr rfl
  | some rounded => exact .inl ⟨rounded, rfl⟩

/-- Samples of the declared number have an aggregate, unless it is too large for the context it is
rounded in. -/
lemma aggregateSamples_cases {spec : MeasurementSpec} {samples : List CanonicalDecimal}
    (hlength : samples.length = spec.repetitions) :
    (∃ value, aggregateSamples spec samples = .ok value) ∨
      aggregateSamples spec samples = .error DECIMAL_OVERFLOW := by
  obtain ⟨least, rest, hsorted⟩ := exists_ordered hlength
  simp only [aggregateSamples, raiseIf, hlength, ne_eq, not_true_eq_false, if_false, ok_bind,
    hsorted]
  cases haggregation : spec.aggregation with
  | minimum => exact .inl ⟨_, rfl⟩
  | maximum => exact .inl ⟨_, rfl⟩
  | mean => exact roundedFraction_cases _ _
  | median =>
    dsimp only
    split_ifs
    · exact .inl ⟨_, rfl⟩
    · exact roundedFraction_cases _ _
  | worst =>
    have hobjective := spec.worst_objective haggregation
    cases hdirection : spec.direction with
    | minimize => exact .inl ⟨_, rfl⟩
    | maximize => exact .inl ⟨_, rfl⟩
    | none => exact absurd hdirection hobjective
    | target =>
      obtain ⟨target, htarget⟩ := Option.isSome_iff_exists.mp (spec.target_iff.mp hdirection)
      simp only [htarget]
      exact .inl ⟨_, rfl⟩

/-- The aggregate vector lists the measurements of the task in their order. -/
lemma aggregateMeasurements_fold {evidence : Dict Identifier MeasurementEvidence}
    {specs : List MeasurementSpec}
    (hevidence : ∀ spec ∈ specs, ∃ m, evidence.get? spec.measurementId = some m ∧
      m.samples.length = spec.repetitions) (start : List AggregatedMeasurement) :
    (∃ vector, foldSteps (aggregateOne evidence) start specs = .ok vector ∧
      vector.map AggregatedMeasurement.measurementId =
        start.map AggregatedMeasurement.measurementId ++ specs.map MeasurementSpec.measurementId) ∨
      foldSteps (aggregateOne evidence) start specs = .error DECIMAL_OVERFLOW := by
  induction specs generalizing start with
  | nil => exact .inl ⟨start, rfl, (List.append_nil _).symm⟩
  | cons spec specs ih =>
    rw [List.forall_mem_cons] at hevidence
    obtain ⟨⟨m, hget, hlength⟩, hrest⟩ := hevidence
    rcases aggregateSamples_cases hlength with ⟨value, hvalue⟩ | hoverflow
    · have hstep : aggregateOne evidence start spec =
          .ok (start ++ [{ measurementId := spec.measurementId, value }]) := by
        simp only [aggregateOne, hget, orRaise, hvalue, ok_bind]
        rfl
      rw [foldSteps, hstep, ok_bind]
      rcases ih hrest _ with ⟨vector, hfold, hids⟩ | hoverflow
      · exact .inl ⟨vector, hfold, by simpa using hids⟩
      · exact .inr hoverflow
    · refine .inr ?_
      simp only [foldSteps, aggregateOne, hget, orRaise, hoverflow, ok_bind]
      rfl

lemma weightedTerms_eq_ok {values : Dict Identifier ℚ} {terms : List ScorerTerm} (total : ℚ)
    (hterms : ∀ term ∈ terms, term.measurementId ∈ values) :
    ∃ sum, foldSteps (weightedTerm values) total terms = .ok sum := by
  induction terms generalizing total with
  | nil => exact ⟨total, rfl⟩
  | cons term terms ih =>
    rw [List.forall_mem_cons] at hterms
    obtain ⟨value, hvalue⟩ := Dict.mem_iff.mp hterms.1
    obtain ⟨sum, hsum⟩ := ih (total + term.coefficient * value) hterms.2
    refine ⟨sum, ?_⟩
    simp only [foldSteps, weightedTerm, hvalue, orRaise, ok_bind] at hsum ⊢
    exact hsum

/-- When scoring is ready, every measurement has its samples. -/
lemma Snapshot.evidence (h : Snapshot task results)
    (hproduced : ∀ m ∈ task.measurements, Promoted results m.producerStageId) :
    ∀ spec ∈ task.measurements, ∃ m, (Dict.ofList (results.flatMap fun result =>
        result.measurements.map fun m => (m.measurementId, m))).get? spec.measurementId = some m ∧
      m.samples.length = spec.repetitions := by
  intro spec hspec
  obtain ⟨result, hr, hid, hpromotes⟩ := hproduced spec hspec
  obtain ⟨m, hm, hmid⟩ := (h.wellFormed result hr).complete hpromotes spec hspec hid.symm
  have hmem : spec.measurementId ∈ Dict.ofList (results.flatMap fun result =>
      result.measurements.map fun m => (m.measurementId, m)) := by
    refine Dict.mem_ofList.mpr (List.mem_map.mpr ⟨(m.measurementId, m), ?_, hmid⟩)
    exact List.mem_flatMap.mpr ⟨result, hr, List.mem_map_of_mem hm⟩
  obtain ⟨found, hfound⟩ := Dict.mem_iff.mp hmem
  refine ⟨found, hfound, ?_⟩
  -- whichever result it comes from, the samples were counted against the same specification
  obtain ⟨result', hr', hin⟩ := List.mem_flatMap.mp (Dict.mem_of_get?_ofList hfound)
  obtain ⟨found', hfound', heq⟩ := List.mem_map.mp hin
  obtain ⟨hid', rfl⟩ := Prod.mk.inj heq
  obtain ⟨spec', hspec', hsame, -, hlength, -⟩ := (h.wellFormed result' hr').known found' hfound'
  obtain rfl : spec' = spec :=
    List.inj_on_of_nodup_map task.checked.measurements_nodup hspec' hspec (hsame.trans hid')
  exact hlength

/-- A ready scorer derives a score, unless a number is too large for the context it is rounded in.
-/
theorem Snapshot.score (h : Snapshot task results) {eligibility : ScorerEligibility}
    (heligibility : scorerEligibility task results = .ok eligibility)
    (hready : eligibility.state = .ready) :
    (∃ score, buildCandidateScore task results = .ok score) ∨
      buildCandidateScore task results = .error DECIMAL_OVERFLOW := by
  obtain ⟨eligibility', heligibility', hverdict⟩ := h.scorer
  obtain rfl := Except.ok.inj (heligibility.symm.trans heligibility')
  obtain ⟨hne, hproduced⟩ := hverdict.produced hready
  obtain ⟨validated, hvalidated⟩ := accepted_iff_snapshot.mpr h
  have hperm := perm_of_validated hvalidated
  have hproduced' : ∀ m ∈ task.measurements, Promoted validated m.producerStageId := by
    intro m hm
    exact (promoted_perm hperm.symm).mp (hproduced m hm)
  rcases aggregateMeasurements_fold ((h.perm hperm.symm).evidence hproduced') [] with
    ⟨vector, hfold, hids⟩ | hoverflow
  swap
  · refine .inr ?_
    simp only [buildCandidateScore, aggregateMeasurements, heligibility, hready, raiseIf, ne_eq,
      not_true_eq_false, if_false, ok_bind, hvalidated, hoverflow]
    rfl
  rw [List.map_nil, List.nil_append] at hids
  have hvector : vector ≠ [] := by
    rintro rfl
    exact hne (List.map_eq_nil_iff.mp hids.symm)
  simp only [buildCandidateScore, aggregateMeasurements, heligibility, hready, raiseIf, ne_eq,
    not_true_eq_false, if_false, ok_bind, hvalidated, hfold, buildScoreFromAggregates, hids,
    hvector, or_false]
  cases hscorer : task.evaluation.scorer with
  | none => exact .inl ⟨_, rfl⟩
  | some scorer =>
    have hterms : ∀ term ∈ scorer.terms, term.measurementId ∈
        Dict.ofList (vector.map fun m => (m.measurementId, m.value)) := by
      intro term hterm
      rw [Dict.mem_ofList, List.map_map, Function.comp_def, hids]
      exact task.checked.terms scorer hscorer term hterm
    obtain ⟨sum, hsum⟩ := weightedTerms_eq_ok scorer.intercept hterms
    simp only [hsum, ok_bind]
    rcases roundedFraction_cases sum scorer.precisionDigits with ⟨value, hvalue⟩ | hoverflow
    · rw [hvalue]
      exact .inl ⟨_, rfl⟩
    · rw [hoverflow]
      exact .inr rfl

end Progress

end EdaGym
