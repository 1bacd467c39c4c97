import EdaGym.Evaluation.Progress
import EdaGym.Evaluation.ScoringLaws
import EdaGym.Run.Terminal
import EdaGym.Specs.Session

/-!
# Deciding how a run advances

The part of `_advance_once` that reads the replayed state: which stage is evaluated next, which
scoring decision is recorded, and how the run goes on once its last candidate is scored.
-/

namespace EdaGym

/-- Why no scoring decision or no stop reason could be derived. -/
inductive ScoringError
  | valueError (message : String)
  /-- The error "task-bound score derivation failed", with its cause. -/
  | derivationFailed (cause : String)
  /-- The error "scoring blockers do not have terminal evaluator outcomes". -/
  | blockersWithoutOutcome
deriving DecidableEq, Repr

/-- The validator of a scoring decision. -/
def scoringDecision (eligibility : ScorerEligibility) (score : Option CandidateScore) :
    Except String ScoringDecision :=
  if hscore : eligibility.state = .ready ↔ score.isSome then
    if hwaiting : eligibility.state = .waiting then
      .error "a waiting scoring decision is not terminal"
    else .ok { eligibility, score, score_iff_ready := hscore, not_waiting := hwaiting }
  else .error "a score exists exactly when scoring is ready"

section Advance

variable (task : TaskSpec)

/-- The decision that `_record_scoring` journals. -/
def deriveScoring (results : List StageResult) : Except ScoringError ScoringDecision := do
  let eligibility ← (scorerEligibility task results).mapError .valueError
  let derived : Except String ScoringDecision := do
    let score ←
      if eligibility.state = .ready then (buildCandidateScore task results).map some
      else pure none
    scoringDecision eligibility score
  derived.mapError .derivationFailed

/-- The stop reason of a candidate that cannot be ranked. -/
def scoringFailureStopReason (results : List StageResult) (blockingStageIds : List Identifier) :
    Except ScoringError StopReason := do
  let outcomes := Dict.ofList
    ((results.filter fun result => result.stageId ∈ blockingStageIds).map fun result =>
      (result.stageId, result.outcome))
  raiseIf (¬ (outcomes.keys ⊆ blockingStageIds ∧ blockingStageIds ⊆ outcomes.keys))
    .blockersWithoutOutcome
  if .securityViolation ∈ outcomes.values then
    return .securityFailure
  if .infrastructureFailure ∈ outcomes.values ∨ .licenseUnavailable ∈ outcomes.values then
    return .infrastructureFailure
  return .unrankable

/-- The results of one candidate, in the order of the journal. -/
def RunState.resultsOf (state : RunState) (candidateId : Identifier) : List StageResult :=
  (state.stageResults.filter fun item => item.candidateId = candidateId).map
    CandidateStageResult.result

/-- The scoring decision recorded for one candidate. -/
def RunState.scoringOf (state : RunState) (candidateId : Identifier) : Option ScoringDecision :=
  (state.scoring.find? fun item => item.candidateId = candidateId).map
    CandidateScoringState.decision

def collectReady (results : List StageResult) (ready : List Identifier) (stageId : Identifier) :
    Except String (List Identifier) := do
  let eligibility ← stageEligibility task results stageId
  return if eligibility.state = .ready then ready ++ [stageId] else ready

/-- The stages that can be started, in dependency order. -/
def readyStages (results : List StageResult) : Except String (List Identifier) := do
  let ordered ← topologicalStageIds task
  foldSteps (collectReady task results) [] ordered

/-- What is left to do with a candidate. -/
inductive CandidatePlan
  | evaluate (stageId : Identifier)
  | score
deriving DecidableEq, Repr

/-- A gate that failed stops the evaluation; otherwise the first ready stage is next. -/
def planCandidate (results : List StageResult) :
    Except String (HardGateStatus × CandidatePlan) := do
  let gateStatus ← hardGateStatus task results
  if gateStatus.state ≠ .failed then
    let ready ← readyStages task results
    match ready with
    | stageId :: _ => return (gateStatus, .evaluate stageId)
    | [] => return (gateStatus, .score)
  return (gateStatus, .score)

end Advance

/-- How the run goes on after its last candidate is scored. -/
inductive Conclusion
  | stop (reason : StopReason) (candidateId : Option Identifier)
  /-- The participant acts again, unless a budget is exhausted. -/
  | participant
deriving DecidableEq, Repr

def concludeCandidate (mode : SessionMode) (candidateId : Identifier) (gateStatus : HardGateStatus)
    (results : List StageResult) (decision : ScoringDecision) : Except ScoringError Conclusion :=
  let eligibility := decision.eligibility
  match mode with
  | .training => do
    if eligibility.state = .blocked then
      let failureReason ← scoringFailureStopReason results eligibility.blockingStageIds
      if failureReason = .securityFailure then
        return .stop failureReason none
    return .participant
  | .benchmark _ | .course _ _ => do
    if gateStatus.state = .succeeded ∧
        (eligibility.state = .ready ∨ eligibility.state = .notConfigured) then
      return .stop .verifierSuccess (some candidateId)
    let failureReason ← scoringFailureStopReason results eligibility.blockingStageIds
    return .stop failureReason none

/-! ### Decisions on snapshots -/

section Decisions

variable {task : TaskSpec} {results : List StageResult}

lemma readyStages_fold {ids : List Identifier} (h : Snapshot task results)
    (hids : ∀ s ∈ ids, s ∈ task.stageIds) :
    ∃ ready, foldSteps (collectReady task results) [] ids = .ok ready ∧
      ∀ s, s ∈ ready ↔ s ∈ ids ∧ IsReady task results s := by
  induction ids using List.reverseRecOn with
  | nil => exact ⟨[], rfl, by simp⟩
  | append_singleton ids s ih =>
    obtain ⟨ready, hfold, hready⟩ := ih fun s hs => hids s (List.mem_append_left _ hs)
    obtain ⟨eligibility, heligibility, -⟩ := h.eligible (hids s (by simp))
    have hs : IsReady task results s ↔ eligibility.state = .ready := by
      simp only [IsReady, heligibility, Except.ok.injEq, exists_eq_left']
    refine ⟨if eligibility.state = .ready then ready ++ [s] else ready, ?_, ?_⟩
    · refine foldSteps_concat_eq_ok.mpr ⟨ready, hfold, ?_⟩
      simp only [collectReady, heligibility, ok_bind]
      rfl
    · intro x
      split_ifs with hstate
      · rw [List.mem_append, List.mem_append, hready, List.mem_singleton, or_and_right]
        refine or_congr Iff.rfl ?_
        constructor
        · rintro rfl
          exact ⟨rfl, hs.mpr hstate⟩
        · exact And.left
      · rw [List.mem_append, hready, List.mem_singleton]
        constructor
        · rintro ⟨hx, hr⟩
          exact ⟨Or.inl hx, hr⟩
        · rintro ⟨hx | rfl, hr⟩
          · exact ⟨hx, hr⟩
          · exact absurd (hs.mp hr) hstate

/-- The ready stages are those that can be started. -/
lemma Snapshot.readyStages (h : Snapshot task results) :
    ∃ ready, EdaGym.readyStages task results = .ok ready ∧
      ∀ s, s ∈ ready ↔ s ∈ task.stageIds ∧ IsReady task results s := by
  obtain ⟨ordered, hordered, hperm, -⟩ := topologicalStageIds_eq_ok task
  obtain ⟨ready, hfold, hready⟩ := readyStages_fold h fun s hs => hperm.mem_iff.mp hs
  refine ⟨ready, ?_, ?_⟩
  · simp only [EdaGym.readyStages, hordered, ok_bind, hfold]
  · simpa only [hperm.mem_iff] using hready

/-- When nothing can be started any more, the scorer does not wait. -/
lemma Snapshot.not_waiting (h : Snapshot task results)
    (hstuck : ∀ s ∈ task.stageIds, ¬ IsReady task results s) {eligibility : ScorerEligibility}
    (heligibility : scorerEligibility task results = .ok eligibility) :
    eligibility.state ≠ .waiting := by
  intro hwaiting
  obtain ⟨eligibility', heligibility', hverdict⟩ := h.scorer
  obtain rfl := Except.ok.inj (heligibility.symm.trans heligibility')
  obtain ⟨s, hpending⟩ := hverdict.waiting hwaiting
  obtain ⟨r, hr, hready⟩ := h.exists_ready hpending
  exact hstuck r hr hready

/-- A failed gate blocks the scorer. -/
lemma Snapshot.blocked_of_failed (h : Snapshot task results) {status : HardGateStatus}
    (hstatus : hardGateStatus task results = .ok status) (hfailed : status.state = .failed)
    {eligibility : ScorerEligibility}
    (heligibility : scorerEligibility task results = .ok eligibility) :
    eligibility.state = .blocked := by
  obtain ⟨validated, hvalidated⟩ := accepted_iff_snapshot.mpr h
  have hperm := perm_of_validated hvalidated
  have hindex := resultIndex_eq_ok.mpr ⟨(h.perm hperm.symm).nodup, rfl⟩
  rw [← hardGateStatus_perm task hperm] at hstatus
  simp only [scorerEligibility, hvalidated, hindex, hstatus, ok_bind, hfailed, if_true,
    pure_eq_ok] at heligibility
  rw [← heligibility]

/-- Once a candidate has nothing left to evaluate, a decision on its score can be recorded, unless
the score is too large. -/
lemma Snapshot.deriveScoring (h : Snapshot task results) {status : HardGateStatus}
    (hplan : planCandidate task results = .ok (status, .score)) :
    (∃ decision, EdaGym.deriveScoring task results = .ok decision ∧
      scorerEligibility task results = .ok decision.eligibility) ∨
    EdaGym.deriveScoring task results = .error (.derivationFailed DECIMAL_OVERFLOW) := by
  obtain ⟨eligibility, heligibility, -⟩ := h.scorer
  have hwaiting : eligibility.state ≠ .waiting := by
    simp only [planCandidate, bind_eq_ok] at hplan
    obtain ⟨status', hstatus, hplan⟩ := hplan
    split_ifs at hplan with hfailed
    · obtain ⟨ready, hready, hmem⟩ := h.readyStages
      rw [hready, ok_bind] at hplan
      cases ready with
      | nil =>
        refine h.not_waiting ?_ heligibility
        intro s hs hr
        exact absurd ((hmem s).mpr ⟨hs, hr⟩) List.not_mem_nil
      | cons s rest => cases hplan
    · rw [not_not] at hfailed
      rw [h.blocked_of_failed hstatus hfailed heligibility]
      simp
  by_cases hready : eligibility.state = .ready
  · rcases h.score heligibility hready with ⟨score, hscore⟩ | hoverflow
    · refine .inl ⟨{ eligibility, score := some score, score_iff_ready := by simpa using hready,
                     not_waiting := hwaiting }, ?_, heligibility⟩
      simp [EdaGym.deriveScoring, heligibility, hready, hscore, scoringDecision, Except.mapError,
        Except.map, ok_bind]
    · refine .inr ?_
      simp [EdaGym.deriveScoring, heligibility, hready, hoverflow, Except.mapError, Except.map,
        ok_bind]
      rfl
  · refine .inl ⟨{ eligibility, score_iff_ready := by simpa using hready, not_waiting := hwaiting },
      ?_, heligibility⟩
    simp [EdaGym.deriveScoring, heligibility, hready, hwaiting, scoringDecision, Except.mapError,
      ok_bind]

lemma scoringFailureStopReason_eq_ok {blocking : List Identifier}
    (hblocking : ∀ id ∈ blocking, HasResult results id) :
    ∃ reason, scoringFailureStopReason results blocking = .ok reason := by
  have hkeys : ∀ id, id ∈ (Dict.ofList ((results.filter fun result =>
      result.stageId ∈ blocking).map fun result => (result.stageId, result.outcome))).keys ↔
      id ∈ blocking := by
    intro id
    simp only [Dict.mem_keys, Dict.mem_ofList, List.map_map, Function.comp_def, List.mem_map,
      List.mem_filter, decide_eq_true_eq]
    constructor
    · rintro ⟨result, ⟨-, hmem⟩, rfl⟩
      exact hmem
    · intro hid
      obtain ⟨result, hr, rfl⟩ := hblocking id hid
      exact ⟨result, ⟨hr, hid⟩, rfl⟩
  have hsame : ¬ ¬ ((Dict.ofList ((results.filter fun result =>
      result.stageId ∈ blocking).map fun result => (result.stageId, result.outcome))).keys ⊆
        blocking ∧
      blocking ⊆ (Dict.ofList ((results.filter fun result =>
        result.stageId ∈ blocking).map fun result => (result.stageId, result.outcome))).keys) := by
    rw [not_not]
    exact ⟨fun id hid => (hkeys id).mp hid, fun id hid => (hkeys id).mpr hid⟩
  rw [scoringFailureStopReason, raiseIf, if_neg hsame, ok_bind]
  split_ifs
  · exact ⟨_, rfl⟩
  · exact ⟨_, rfl⟩
  · exact ⟨_, rfl⟩

/-- The blockers of a scorer all have outcomes, so a scored candidate can be concluded. -/
lemma Snapshot.conclude (h : Snapshot task results) {decision : ScoringDecision}
    (hdecision : scorerEligibility task results = .ok decision.eligibility) (mode : SessionMode)
    (candidateId : Identifier) (status : HardGateStatus) :
    ∃ conclusion, concludeCandidate mode candidateId status results decision = .ok conclusion := by
  obtain ⟨eligibility, heligibility, hverdict⟩ := h.scorer
  obtain rfl := Except.ok.inj (heligibility.symm.trans hdecision)
  obtain ⟨reason, hreason⟩ := scoringFailureStopReason_eq_ok
    fun id hid => (hverdict.blocked id hid).hasResult
  cases mode with
  | training =>
    simp only [concludeCandidate, hreason, ok_bind]
    split_ifs
    · exact ⟨_, rfl⟩
    · exact ⟨_, rfl⟩
    · exact ⟨_, rfl⟩
  | benchmark trialCount =>
    simp only [concludeCandidate, hreason, ok_bind]
    split_ifs
    · exact ⟨_, rfl⟩
    · exact ⟨_, rfl⟩
  | course rubric oral =>
    simp only [concludeCandidate, hreason, ok_bind]
    split_ifs
    · exact ⟨_, rfl⟩
    · exact ⟨_, rfl⟩

end Decisions

/-! ### Decisions on journals -/

section Journal

variable [Canonical] {header : RunHeader} {task : TaskSpec} {events : List RunEvent}
  {st : ReplayState}

lemma replayLoop_stageResults (h : replayLoop header task events = .ok st) (c : Identifier) :
    (st.stageResults.filter fun item => item.candidateId = c).map CandidateStageResult.result =
      st.results c := by
  rw [(replayLoop_resultsRecorded h).results c]
  refine replayLoop_induction (P := fun st =>
    (st.stageResults.filter fun item => item.candidateId = c).map CandidateStageResult.result =
      candidateResults st.prior c) rfl ?_ h
  intro st event lifecycle hst hadm
  clear hadm
  rw [ReplayState.prior_apply, candidateResults, List.filterMap_append, ← candidateResults, ← hst]
  cases event
  case evaluationCompleted e =>
    by_cases hc : e.payload.candidateId = c
    · simp [ReplayState.apply, ReplayState.effect, hc]
    · simp [ReplayState.apply, ReplayState.effect, hc]
  all_goals simp [ReplayState.apply, ReplayState.effect]

/-- The results of every candidate are an accepted snapshot. -/
lemma replayLoop_snapshot (h : replayLoop header task events = .ok st) (c : Identifier) :
    Snapshot task (st.results c) := by
  suffices hpair : st.ResultsRecorded header task ∧ ∀ c, Snapshot task (st.results c) from hpair.2 c
  refine replayLoop_induction (P := fun st => st.ResultsRecorded header task ∧
    ∀ c, Snapshot task (st.results c)) ⟨resultsRecorded_initial, fun _ => Snapshot.nil⟩ ?_ h
  rintro st event lifecycle ⟨hrecorded, hst⟩ hadm
  refine ⟨resultsRecorded_apply hrecorded hadm, ?_⟩
  intro c
  cases event
  case candidateSubmitted e =>
    have hk : CandidateSubmittedAdmitted st e := hadm.kind
    rw [results_candidateSubmitted hrecorded hk c]
    exact hst c
  case evaluationCompleted e =>
    have hk : EvaluationCompletedAdmitted header task st e := hadm.kind
    obtain ⟨results, hget, hvalidated⟩ := hk.results
    rw [results_evaluationCompleted]
    by_cases hc : e.payload.candidateId = c
    · rw [if_pos hc, ← hc, ReplayState.results_of_get? hget]
      exact accepted_iff_snapshot.mp hvalidated
    · rw [if_neg hc, List.append_nil]
      exact hst c
  all_goals exact hst c

/-- A scoring decision of the run state is one of the replay's table. -/
lemma replayLoop_scoringOf (h : replayLoop header task events = .ok st) {c : Identifier}
    {decision : ScoringDecision} (hdecision : (st.runState header).scoringOf c = some decision) :
    ∃ scored, st.scoring.get? c = some scored ∧ scored.decision = decision := by
  have hkeys : ∀ k scored, st.scoring.get? k = some scored → scored.candidateId = k := by
    refine replayLoop_induction (P := fun st => ∀ k scored, st.scoring.get? k = some scored →
      scored.candidateId = k) ?_ ?_ h
    · intro k scored hget
      cases hget
    · intro st event lifecycle hst hadm k scored hget
      clear hadm
      cases event
      case scoringRecorded e =>
        simp only [ReplayState.apply, ReplayState.effect, Dict.get?_insert] at hget
        split_ifs at hget with hk
        · cases hget
          exact hk.symm
        · exact hst k scored hget
      all_goals exact hst k scored hget
  obtain ⟨scored, hfind, rfl⟩ := Option.map_eq_some_iff.mp hdecision
  have hid : scored.candidateId = c := by simpa using List.find?_some hfind
  obtain ⟨k, hget⟩ := Dict.mem_values.mp (List.mem_of_find?_eq_some hfind)
  obtain rfl := hkeys k scored hget
  exact ⟨scored, hid ▸ hget, rfl⟩

/-- The recorded decisions still say what the results of their candidate say. -/
lemma replayLoop_scored (h : replayLoop header task events = .ok st) {c : Identifier}
    {decision : ScoringDecision} (hdecision : (st.runState header).scoringOf c = some decision) :
    scorerEligibility task (st.results c) = .ok decision.eligibility := by
  obtain ⟨scored, hget, rfl⟩ := replayLoop_scoringOf h hdecision
  have hvalid := ((replayLoop_resultsRecorded h).frozen c scored hget).1
  simp only [validateScoringDecision, bind_eq_ok, raiseIf_eq_ok, exists_const, not_not] at hvalid
  obtain ⟨expected, hexpected, heq, -⟩ := hvalid
  rw [heq]
  cases heligibility : scorerEligibility task (st.results c) with
  | error e =>
    rw [heligibility] at hexpected
    cases hexpected
  | ok eligibility =>
    rw [heligibility] at hexpected
    cases hexpected
    rfl

/-- An evaluation never gets stuck: as long as no gate has failed, some stage is ready or the scorer
does not wait, and what blocks a scorer has an outcome. So every candidate of a journal is evaluated
further or scored, and a scored candidate always leads on. -/
theorem evaluation_progress (task : TaskSpec) :
    (∀ results, (∃ validated, validateStageResults task results = .ok validated) →
      ∃ status eligibility, hardGateStatus task results = .ok status ∧
        scorerEligibility task results = .ok eligibility ∧
        (status.state ≠ .failed → (∀ s ∈ task.stageIds, ¬ IsReady task results s) →
          eligibility.state ≠ .waiting) ∧
        (eligibility.state = .blocked → ∀ id ∈ eligibility.blockingStageIds,
          ∃ result ∈ results, result.stageId = id ∧ outcomePromotes result.outcome = false)) ∧
    ∀ header events state, replay header task events = .ok state →
      ∀ candidate ∈ state.candidates, ∃ gateStatus plan,
        planCandidate task (state.resultsOf candidate.candidateId) = .ok (gateStatus, plan) ∧
        (plan = .score →
          ((∃ decision, deriveScoring task (state.resultsOf candidate.candidateId) = .ok decision) ∨
            deriveScoring task (state.resultsOf candidate.candidateId) =
              .error (.derivationFailed DECIMAL_OVERFLOW)) ∧
          ∀ decision, state.scoringOf candidate.candidateId = some decision ∨
              deriveScoring task (state.resultsOf candidate.candidateId) = .ok decision →
            ∀ mode, ∃ conclusion, concludeCandidate mode candidate.candidateId gateStatus
              (state.resultsOf candidate.candidateId) decision = .ok conclusion) := by
  refine ⟨?_, ?_⟩
  · intro results haccepted
    have hsnapshot := accepted_iff_snapshot.mp haccepted
    obtain ⟨status, hstatus, -⟩ := hsnapshot.gates
    obtain ⟨eligibility, heligibility, hverdict⟩ := hsnapshot.scorer
    refine ⟨status, eligibility, hstatus, heligibility, ?_, ?_⟩
    · intro _ hstuck
      exact hsnapshot.not_waiting hstuck heligibility
    · intro _ id hid
      exact hverdict.blocked id hid
  · intro header events state hreplay candidate _
    obtain ⟨-, -, st, -, hst, -, -, rfl⟩ := replay_eq_ok_iff.mp hreplay
    generalize candidate.candidateId = c
    have hresults : (st.runState header).resultsOf c = st.results c :=
      replayLoop_stageResults hst c
    have hsnapshot := replayLoop_snapshot hst c
    rw [hresults]
    obtain ⟨status, hstatus, -⟩ := hsnapshot.gates
    obtain ⟨ready, hready, -⟩ := hsnapshot.readyStages
    obtain ⟨plan, hplan⟩ : ∃ plan, planCandidate task (st.results c) = .ok (status, plan) := by
      simp only [planCandidate, hstatus, hready, ok_bind]
      split_ifs
      · cases ready with
        | nil => exact ⟨_, rfl⟩
        | cons s rest => exact ⟨_, rfl⟩
      · exact ⟨_, rfl⟩
    refine ⟨status, plan, hplan, ?_⟩
    rintro rfl
    have hscoring := hsnapshot.deriveScoring hplan
    refine ⟨hscoring.imp_left fun h => ⟨h.choose, h.choose_spec.1⟩, ?_⟩
    rintro decision' (hrecorded | hderived) mode
    · exact hsnapshot.conclude (replayLoop_scored hst hrecorded) mode c status
    · rcases hscoring with ⟨decision, hdecision, heligibility⟩ | hoverflow
      · obtain rfl := Except.ok.inj (hdecision.symm.trans hderived)
        exact hsnapshot.conclude heligibility mode c status
      · rw [hoverflow] at hderived
        cases hderived

end Journal

section SmallRun

local instance advanceCanonical : Canonical := plainCanonical

/-- A failed gate blocks the scorer, and the candidate of the small run is scored and leads on. -/
theorem evaluation_progress_small :
    (∃ eligibility, scorerEligibility delayTask [{ stageId := "gate", outcome := .timeout }] =
        .ok eligibility ∧ eligibility.state = .blocked ∧
      ∀ id ∈ eligibility.blockingStageIds,
        ∃ result ∈ [({ stageId := "gate", outcome := .timeout } : StageResult)],
          result.stageId = id ∧ outcomePromotes result.outcome = false) ∧
    ∃ gateStatus, planCandidate gateTask (passingState.resultsOf "c0") = .ok (gateStatus, .score) ∧
      ∀ mode, ∃ conclusion, concludeCandidate mode "c0" gateStatus (passingState.resultsOf "c0")
        unrankedDecision = .ok conclusion := by
  refine ⟨?_, ?_⟩
  · obtain ⟨status, eligibility, -, heligibility, -, hblocked⟩ := (evaluation_progress delayTask).1
      [{ stageId := "gate", outcome := .timeout }] (Except.exists_of_isOk (by decide +kernel))
    have hstate : (scorerEligibility delayTask
        [{ stageId := "gate", outcome := .timeout }]).toOption.any
          (fun eligibility => decide (eligibility.state = .blocked)) = true := by
      decide +kernel
    rw [heligibility] at hstate
    exact ⟨eligibility, heligibility, of_decide_eq_true hstate,
      hblocked (of_decide_eq_true hstate)⟩
  · have hreplay : replay gateHeader gateTask (passingRun ++ [.runEnded passingEnd]) =
        .ok passingState := by
      decide +kernel
    obtain ⟨gateStatus, plan, hplan, hscored⟩ := (evaluation_progress gateTask).2 _ _ _ hreplay
      { candidateId := "c0", digest := "d-c0", parentCandidateId := none, actor := "alice" }
      List.mem_cons_self
    have hscore : (planCandidate gateTask (passingState.resultsOf "c0")).toOption.any
        (fun planned => decide (planned.2 = .score)) = true := by
      decide +kernel
    rw [hplan] at hscore
    obtain rfl : plan = .score := of_decide_eq_true hscore
    exact ⟨gateStatus, hplan, (hscored rfl).2 unrankedDecision (.inl (by decide))⟩

end SmallRun

end EdaGym
