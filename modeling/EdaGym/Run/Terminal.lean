import EdaGym.Run.Invariants

/-!
# Terminal soundness

When a journal ends, everything it opened is closed, and a verifier success rests on the complete
set of results of its candidate: recording a score freezes them.
-/

namespace EdaGym

section Soundness

variable [Canonical]

/-! ### Readings of a journal -/

/-- The states of one job in the order the journal records them. -/
def jobHistory (events : List RunEvent) (jobId : Identifier) : List JobStateKind :=
  events.filterMap fun
    | .evaluationStarted e => if e.payload.jobId = jobId then some .queued else none
    | .jobStateChanged e => if e.payload.jobId = jobId then some e.payload.state else none
    | _ => none

/-- The stage results the journal records for one candidate. -/
def candidateResults (events : List RunEvent) (candidateId : Identifier) : List StageResult :=
  events.filterMap fun
    | .evaluationCompleted e =>
      if e.payload.candidateId = candidateId then some e.payload.result else none
    | _ => none

/-- The scoring decisions the journal records for one candidate. -/
def scoringDecisions (events : List RunEvent) (candidateId : Identifier) :
    List ScoringDecision :=
  events.filterMap fun
    | .scoringRecorded e =>
      if e.payload.candidateId = candidateId then some e.payload.decision else none
    | _ => none

def RunEvent.isRunEnded : RunEvent → Bool
  | .runEnded _ => true
  | _ => false

/-! ### Job histories -/

section Jobs

variable {header : RunHeader} {task : TaskSpec} {lifecycle : ParticipantIncarnationLifecycle}
  {st : ReplayState} {event : RunEvent}

/-- The state map holds the last entry of every job history. -/
def ReplayState.JobsRecorded (st : ReplayState) : Prop :=
  ∀ jobId, st.jobStates.get? jobId = (jobHistory st.prior jobId).getLast?

lemma jobsRecorded_apply (h : st.JobsRecorded) :
    (st.apply header event).JobsRecorded := by
  intro jobId
  have hj := h jobId
  cases event with
  | evaluationStarted e =>
    by_cases hk : jobId = e.payload.jobId
    · simp [ReplayState.apply, ReplayState.effect, jobHistory, hk]
    · have hk' : ¬ e.payload.jobId = jobId := fun h => hk h.symm
      simpa [ReplayState.apply, ReplayState.effect, jobHistory, hk', Dict.get?_insert_of_ne _ _ hk]
        using hj
  | jobStateChanged e =>
    by_cases hk : jobId = e.payload.jobId
    · simp [ReplayState.apply, ReplayState.effect, jobHistory, hk]
    · have hk' : ¬ e.payload.jobId = jobId := fun h => hk h.symm
      simpa [ReplayState.apply, ReplayState.effect, jobHistory, hk', Dict.get?_insert_of_ne _ _ hk]
        using hj
  | _ => simpa [ReplayState.apply, ReplayState.effect, jobHistory] using hj

lemma replayLoop_jobsRecorded {events : List RunEvent}
    (h : replayLoop header task events = .ok st) : st.JobsRecorded :=
  replayLoop_induction (fun _ => rfl) (fun _ _ _ hj _ => jobsRecorded_apply hj) h

lemma jobHistory_ne_nil {events : List RunEvent} {start : EvaluationStartedEvent}
    (h : .evaluationStarted start ∈ events) : jobHistory events start.payload.jobId ≠ [] := by
  intro hnil
  have hmem : JobStateKind.queued ∈ jobHistory events start.payload.jobId :=
    List.mem_filterMap.mpr ⟨_, h, by simp⟩
  rw [hnil] at hmem
  cases hmem

end Jobs

/-! ### Results and scores -/

section Results

variable {header : RunHeader} {task : TaskSpec} {lifecycle : ParticipantIncarnationLifecycle}
  {st : ReplayState} {event : RunEvent}

/-- The result and scoring maps agree with the journal, and a recorded score is still the right
one: no job of a scored candidate is active. -/
structure ReplayState.ResultsRecorded (header : RunHeader) (task : TaskSpec) (st : ReplayState) :
    Prop where
  keys : ∀ c, c ∈ st.resultsByCandidate ↔ c ∈ st.candidates
  results : ∀ c, st.results c = candidateResults st.prior c
  decisions : ∀ c, scoringDecisions st.prior c =
    ((st.scoring.get? c).map CandidateScoringState.decision).toList
  scored_mem : ∀ c ∈ st.scoring, c ∈ st.candidates
  frozen : ∀ c scored, st.scoring.get? c = some scored →
    validateScoringDecision header task (st.results c) scored.decision = .ok ⟨⟩ ∧
      ∀ jobId stageId, st.activeJobs.get? jobId ≠ some (c, stageId)

lemma resultsRecorded_initial :
    (ReplayState.initial header).ResultsRecorded header task where
  keys _ := Iff.rfl
  results _ := rfl
  decisions _ := rfl
  scored_mem c hc := absurd hc (Dict.not_mem_empty c)
  frozen c scored hs := by cases hs

lemma ReplayState.results_of_get? {c : Identifier} {rs : List StageResult}
    (h : st.resultsByCandidate.get? c = some rs) : st.results c = rs := by
  simp [ReplayState.results, h]

/-- An event that touches none of the result and scoring maps. -/
lemma resultsRecorded_frame {st' : ReplayState} (h : st.ResultsRecorded header task)
    (hc : st'.candidates = st.candidates) (hr : st'.resultsByCandidate = st.resultsByCandidate)
    (hs : st'.scoring = st.scoring)
    (hjobs : ∀ c ∈ st.scoring, ∀ jobId stageId, st.activeJobs.get? jobId ≠ some (c, stageId) →
      st'.activeJobs.get? jobId ≠ some (c, stageId))
    (hres : ∀ c, candidateResults st'.prior c = candidateResults st.prior c)
    (hdec : ∀ c, scoringDecisions st'.prior c = scoringDecisions st.prior c) :
    st'.ResultsRecorded header task where
  keys c := by rw [hc, hr, h.keys c]
  results c := by rw [hres c, ← h.results c, ReplayState.results, hr, ReplayState.results]
  decisions c := by rw [hdec c, hs, h.decisions c]
  scored_mem c := by rw [hc, hs]; exact h.scored_mem c
  frozen c scored := by
    rw [hs, ReplayState.results, hr]
    intro hsc
    obtain ⟨h₁, h₂⟩ := h.frozen c scored hsc
    refine ⟨h₁, fun jobId stageId => ?_⟩
    exact hjobs c (Dict.mem_of_get? hsc) jobId stageId (h₂ jobId stageId)

/-- Submitting a candidate leaves all results as they are. -/
lemma results_candidateSubmitted (h : st.ResultsRecorded header task)
    {e : CandidateSubmittedEvent} (hk : CandidateSubmittedAdmitted st e) (c : Identifier) :
    (st.apply header (.candidateSubmitted e)).results c = st.results c := by
  simp only [ReplayState.results, ReplayState.apply, ReplayState.effect]
  by_cases hc : c = e.payload.candidateId
  · subst hc
    have hnone := Dict.get?_eq_none_iff.mpr (mt (h.keys _).mp hk.fresh)
    rw [Dict.get?_insert_self, hnone]
    rfl
  · rw [Dict.get?_insert_of_ne _ _ hc]

lemma results_evaluationCompleted (header : RunHeader) (st : ReplayState)
    (e : EvaluationCompletedEvent) (c : Identifier) :
    (st.apply header (.evaluationCompleted e)).results c =
      st.results c ++ if e.payload.candidateId = c then [e.payload.result] else [] := by
  simp only [ReplayState.results, ReplayState.apply, ReplayState.effect]
  by_cases hc : c = e.payload.candidateId
  · subst hc
    simp
  · have hc' : ¬ e.payload.candidateId = c := fun h => hc h.symm
    simp [Dict.get?_insert_of_ne _ _ hc, hc']

lemma resultsRecorded_apply (h : st.ResultsRecorded header task)
    (hadm : Admitted header task st event lifecycle) :
    (st.apply header event).ResultsRecorded header task := by
  cases event with
  | candidateSubmitted e =>
    have hk : CandidateSubmittedAdmitted st e := hadm.kind
    have hresults := results_candidateSubmitted h hk
    refine ⟨fun c => ?_, fun c => ?_, fun c => ?_, fun c hc => ?_, fun c scored hs => ?_⟩
    · simp only [ReplayState.apply, ReplayState.effect, Dict.mem_insert, h.keys c]
    · rw [hresults c, h.results c]
      simp [candidateResults]
    · simpa [scoringDecisions, ReplayState.apply, ReplayState.effect] using h.decisions c
    · exact Dict.mem_insert.mpr (Or.inr (h.scored_mem c hc))
    · rw [hresults c]
      exact h.frozen c scored hs
  | evaluationStarted e =>
    have hk : EvaluationStartedAdmitted task st e.payload := hadm.kind
    refine resultsRecorded_frame h rfl rfl rfl ?_ ?_ ?_
    · intro c hc jobId stageId hne
      simp only [ReplayState.apply, ReplayState.effect, Dict.get?_insert]
      split_ifs with hj
      · intro heq
        rw [Option.some.injEq, Prod.mk.injEq] at heq
        exact hk.unscored (heq.1 ▸ hc)
      · exact hne
    · intro c
      simp [candidateResults]
    · intro c
      simp [scoringDecisions]
  | evaluationCompleted e =>
    have hk : EvaluationCompletedAdmitted header task st e := hadm.kind
    obtain ⟨rs, hget, -⟩ := hk.results
    have hresults := results_evaluationCompleted header st e
    refine ⟨fun c => ?_, fun c => ?_, fun c => ?_, h.scored_mem, fun c scored hs => ?_⟩
    · simp only [ReplayState.apply, ReplayState.effect, Dict.mem_insert, ← h.keys c,
        or_iff_right_iff_imp]
      rintro rfl
      exact Dict.mem_of_get? hget
    · rw [hresults c, h.results c]
      by_cases hc : e.payload.candidateId = c
      · simp [candidateResults, hc]
      · simp [candidateResults, hc]
    · simpa [scoringDecisions, ReplayState.apply, ReplayState.effect] using h.decisions c
    · -- a scored candidate has no active job, so the completed one belongs to another candidate
      obtain ⟨hdec, hjobs⟩ := h.frozen c scored hs
      have hne : ¬ e.payload.candidateId = c := by
        intro heq
        exact hjobs e.payload.jobId e.payload.result.stageId (heq ▸ hk.active)
      refine ⟨?_, fun jobId stageId => ?_⟩
      · rw [hresults c]
        simpa [hne] using hdec
      · simp only [ReplayState.apply, ReplayState.effect, Dict.get?_erase]
        split_ifs with hj
        · simp
        · exact hjobs jobId stageId
  | scoringRecorded e =>
    have hk : ScoringRecordedAdmitted header task st e := hadm.kind
    obtain ⟨rs, hget, hdecision⟩ := hk.decision
    refine ⟨h.keys, fun c => ?_, fun c => ?_, fun c hc => ?_, fun c scored hs => ?_⟩
    · have hr := h.results c
      simpa [candidateResults, ReplayState.results, ReplayState.apply, ReplayState.effect] using hr
    · have hd := h.decisions c
      by_cases hc : c = e.payload.candidateId
      · subst hc
        have hnone := Dict.get?_eq_none_iff.mpr hk.unscored
        rw [hnone, Option.map_none, Option.toList_none] at hd
        simp only [scoringDecisions] at hd
        simp [scoringDecisions, hd, ReplayState.apply, ReplayState.effect]
      · have hc' : ¬ e.payload.candidateId = c := fun h => hc h.symm
        simpa [scoringDecisions, hc', ReplayState.apply, ReplayState.effect,
          Dict.get?_insert_of_ne _ _ hc] using hd
    · rcases Dict.mem_insert.mp hc with rfl | hc
      · exact hk.candidate
      · exact h.scored_mem c hc
    · simp only [ReplayState.apply, ReplayState.effect, Dict.get?_insert] at hs
      split_ifs at hs with hc
      · rw [Option.some.injEq] at hs
        subst hs hc
        refine ⟨?_, fun jobId stageId hjob => ?_⟩
        · change validateScoringDecision header task (st.results _) _ = _
          rw [ReplayState.results_of_get? hget]
          exact hdecision
        · exact hk.settled _ (Dict.mem_values.mpr ⟨jobId, hjob⟩) rfl
      · exact h.frozen c scored hs
  | _ =>
    refine resultsRecorded_frame h rfl rfl rfl (fun _ _ _ _ hne => hne) ?_ ?_
    · intro c
      simp [candidateResults]
    · intro c
      simp [scoringDecisions]

theorem replayLoop_resultsRecorded {events : List RunEvent}
    (h : replayLoop header task events = .ok st) : st.ResultsRecorded header task :=
  replayLoop_induction resultsRecorded_initial
    (fun _ _ _ hr hadm => resultsRecorded_apply hr hadm) h

/-- A ready decision carries the score derived from the results it was validated against. -/
lemma validateScoringDecision_ready {results : List StageResult} {decision : ScoringDecision}
    (h : validateScoringDecision header task results decision = .ok ⟨⟩)
    (hready : decision.eligibility.state = .ready) :
    ∃ score, decision.score = some score ∧ buildCandidateScore task results = .ok score := by
  obtain ⟨score, hscore⟩ := Option.isSome_iff_exists.mp (decision.score_iff_ready.mp hready)
  refine ⟨score, hscore, ?_⟩
  simp only [validateScoringDecision, bind_eq_ok, Except.mapError_eq_ok_iff, raiseIf_eq_ok,
    exists_const, hscore, not_not] at h
  obtain ⟨-, -, -, -, -, -, derived, hderived, rfl, -⟩ := h
  exact hderived

end Results

/-! ### The end of a run -/

section Terminal

variable {header : RunHeader} {task : TaskSpec} {lifecycle : ParticipantIncarnationLifecycle}
  {st : ReplayState} {event : RunEvent}

lemma replayLoop_live {events : List RunEvent} (h : replayLoop header task events = .ok st)
    (hlive : st.terminalReason = none) : ∀ e ∈ events, e.isRunEnded = false := by
  have hinv : st.terminalReason = none → ∀ e ∈ st.prior, e.isRunEnded = false := by
    refine replayLoop_induction
      (P := fun st => st.terminalReason = none → ∀ e ∈ st.prior, e.isRunEnded = false)
      ?_ ?_ h
    · intro _ e he
      cases he
    · intro m a _ hm _ hnone e he
      rcases List.mem_append.mp he with he | he
      · refine hm ?_ e he
        cases a <;> first | exact hnone | cases hnone
      · rw [List.mem_singleton] at he
        subst he
        cases e <;> first | rfl | cases hnone
  rw [← replayLoop_prior h]
  exact hinv hlive

lemma openProviderRequest_eq_none (h : ¬ st.HasUnsettledProviderRequest) (k : Identifier) :
    st.openProviderRequest k = none := by
  rw [ReplayState.openProviderRequest, Option.filter_eq_none_iff]
  intro request hget hstatus
  exact h ⟨request, Dict.mem_values.mpr ⟨k, hget⟩, of_decide_eq_true hstatus⟩

lemma openToolRequest_eq_none (h : ¬ st.HasUnresolvedToolRequest) (k : Identifier) :
    st.openToolRequest k = none := by
  simp only [ReplayState.openToolRequest]
  split_ifs with hres
  · rfl
  · rw [Option.filter_eq_none_iff]
    intro request hget hdir
    exact h ⟨(k, request), Dict.mem_entries.mpr hget, of_decide_eq_true hdir, hres⟩

lemma openDispatch_eq_none (h : ¬ st.HasOpenToolDispatch) (k : Identifier) :
    st.openDispatch k = none := by
  have hsame := Dict.sameKeys_iff.mp (not_not.mp h) k
  simp only [ReplayState.openDispatch]
  split_ifs with hterm
  · rfl
  · exact Dict.get?_eq_none_iff.mpr (mt hsame.mp hterm)

/-- What an ended journal promises. -/
structure TerminalSound (task : TaskSpec) (events : List RunEvent) (ended : RunEndedEvent) :
    Prop where
  evaluations : evaluationBracket.ClosedExactlyOnce events
  jobs : ∀ start, .evaluationStarted start ∈ events →
    ∃ state, (jobHistory events start.payload.jobId).getLast? = some state ∧
      state.isTerminal = true
  leases : leaseBracket.ClosedExactlyOnce events
  providers : providerBracket.ClosedExactlyOnce events
  tools : toolBracket.ClosedExactlyOnce events
  dispatches : dispatchBracket.ClosedExactlyOnce events
  ended_once : ∃ before, events = before ++ [.runEnded ended] ∧
    ∀ e ∈ before, e.isRunEnded = false
  success : ended.payload.reason = .verifierSuccess →
    ∃ c, ended.payload.successfulCandidateId = some c ∧
      (∀ stage ∈ task.evaluation.stages, stage.purpose = .hardGate →
        ∃ result ∈ candidateResults events c, result.stageId = stage.stageId ∧
          (result.outcome = .passed ∨ result.outcome = .proved)) ∧
      ∃ decision, scoringDecisions events c = [decision] ∧
        (decision.eligibility.state = .ready ∨ decision.eligibility.state = .notConfigured) ∧
        (decision.eligibility.state = .ready → ∃ score, decision.score = some score ∧
          buildCandidateScore task (candidateResults events c) = .ok score)

/-- The success part, on the state in which the run ends. -/
lemma successAdmitted_sound (h : st.ResultsRecorded header task) {c : Identifier}
    (hs : SuccessAdmitted task st c) :
    (∀ stage ∈ task.evaluation.stages, stage.purpose = .hardGate →
      ∃ result ∈ candidateResults st.prior c, result.stageId = stage.stageId ∧
        (result.outcome = .passed ∨ result.outcome = .proved)) ∧
    ∃ decision, scoringDecisions st.prior c = [decision] ∧
      (decision.eligibility.state = .ready ∨ decision.eligibility.state = .notConfigured) ∧
      (decision.eligibility.state = .ready → ∃ score, decision.score = some score ∧
        buildCandidateScore task (candidateResults st.prior c) = .ok score) := by
  obtain ⟨results, hget, gates, hgates, hsucceeded⟩ := hs.gates
  obtain ⟨scored, hscored, hstate⟩ := hs.scored
  have hresults : results = candidateResults st.prior c := by
    rw [← h.results c, ReplayState.results_of_get? hget]
  refine ⟨?_, scored.decision, ?_, hstate, ?_⟩
  · intro stage hstage hpurpose
    obtain ⟨result, hr, hid, hp⟩ := hardGateStatus_succeeded hgates hsucceeded stage hstage hpurpose
    exact ⟨result, hresults ▸ hr, hid, of_decide_eq_true hp⟩
  · rw [h.decisions c, hscored]
    rfl
  · intro hready
    have hdecision := (h.frozen c scored hscored).1
    rw [h.results c] at hdecision
    exact validateScoringDecision_ready hdecision hready

lemma replay_eq_ok_iff {events : List RunEvent} {state : RunState} :
    replay header task events = .ok state ↔
      task.digest = header.binding.task.taskSpecDigest ∧
      validateTaskBinding header task = .ok ⟨⟩ ∧
      ∃ st l, replayLoop header task events = .ok st ∧
        participantIncarnationLifecycle events = .ok l ∧
        ¬ (events ≠ [] ∧ header.binding.purpose ≠ .standard ∧ l.incarnations = []) ∧
        st.runState header = state := by
  simp only [replay, bind_eq_ok, raiseIf_eq_ok, exists_const, pure_eq_ok, not_not]
  constructor
  · rintro ⟨hdigest, _, hbinding, st, hloop, l, hl, hinc, rfl⟩
    exact ⟨hdigest, hbinding, st, l, hloop, hl, hinc, rfl⟩
  · rintro ⟨hdigest, hbinding, st, l, hloop, hl, hinc, rfl⟩
    exact ⟨hdigest, ⟨⟩, hbinding, st, hloop, l, hl, hinc, rfl⟩

/-- Terminal soundness: whatever an accepted journal opened before it ended was closed exactly
once, and a verifier success has its gates and its score on the final results. -/
theorem replay_terminal_sound (header : RunHeader) (task : TaskSpec) (before : List RunEvent)
    (ended : RunEndedEvent) (state : RunState)
    (h : replay header task (before ++ [.runEnded ended]) = .ok state) :
    TerminalSound task (before ++ [.runEnded ended]) ended := by
  obtain ⟨-, -, _, -, hloop, -⟩ := replay_eq_ok_iff.mp h
  obtain ⟨st, hst, ⟨lifecycle, hadm⟩, rfl⟩ := replayLoop_concat_iff.mp hloop
  have hk : RunEndedAdmitted header task lifecycle st ended := hadm.kind
  have hprior := replayLoop_prior hst
  have hq := hk.quiescent
  have htracked := tracked_apply (replayLoop_tracked hst) hadm
  have hresults := resultsRecorded_apply (replayLoop_resultsRecorded hst) hadm
  have hjobs : (st.apply header (.runEnded ended)).JobsRecorded :=
    jobsRecorded_apply (replayLoop_jobsRecorded hst)
  have hall : (st.apply header (.runEnded ended)).prior = before ++ [.runEnded ended] := by
    rw [ReplayState.prior_apply, hprior]
  rw [← hall]
  refine ⟨?_, ?_, ?_, ?_, ?_, ?_, ⟨before, hall, ?_⟩, ?_⟩
  · exact htracked.evaluations.closedExactlyOnce (Dict.isEmpty_iff.mp hq.jobs)
  · intro start hstart
    obtain ⟨state, hstate⟩ := Option.ne_none_iff_exists'.mp
      (mt List.getLast?_eq_none_iff.mp (jobHistory_ne_nil hstart))
    refine ⟨state, hstate, ?_⟩
    rw [← hjobs] at hstate
    by_contra hterm
    exact hk.executor ⟨state, Dict.mem_values.mpr ⟨_, hstate⟩, by simpa using hterm⟩
  · exact htracked.leases.closedExactlyOnce (Dict.isEmpty_iff.mp hq.leases)
  · exact htracked.providers.closedExactlyOnce (openProviderRequest_eq_none hq.providers)
  · exact htracked.tools.closedExactlyOnce (openToolRequest_eq_none hq.tools)
  · exact htracked.dispatches.closedExactlyOnce (openDispatch_eq_none hq.dispatches)
  · exact replayLoop_live hst hadm.envelope.live
  · intro hreason
    obtain ⟨c, hc, hsuccess⟩ := hk.success hreason
    -- ending the run changes neither the results nor the scores
    have hsuccess' : SuccessAdmitted task (st.apply header (.runEnded ended)) c :=
      ⟨hsuccess.candidate, hsuccess.gates, hsuccess.scored⟩
    exact ⟨c, hc, successAdmitted_sound hresults hsuccess'⟩

end Terminal

end Soundness

/-! ### A small run -/

/-- Readable stand-ins for the hash-derived identities. -/
@[reducible] def plainCanonical : Canonical where
  runBinding b := "run:" ++ b.trialKey
  measurementSchema ms := "schema:" ++ reprStrings (ms.map MeasurementSpec.measurementId)
  measurementSampleSeed seed measurementId n := seed ++ ":" ++ measurementId ++ ":" ++ toString n
  participantProcess p := toString p.processId ++ ":" ++ toString p.startTimeTicks
  participantIncarnation i := "incarnation:" ++ toString i.generation
  participantToolInvocationId runId requestId := runId ++ ":" ++ requestId
  providerTranscriptArtifactId requestId
    | .request => requestId ++ ".request"
    | .response => requestId ++ ".response"

/-- One hard gate that checks one requirement. -/
def gateTask : TaskSpec where
  identity := { family := "adder", authoringRevision := 1 }
  resources := [{ resourceId := "rtl", contentDigest := "d-rtl", mediaType := "text/plain" }]
  requirements := ["r0"]
  evaluation := {
    evaluators := [{ evaluatorId := "lint", capability := .rtlLint,
                     implementationResource := "rtl", revisionDigest := "d-lint" }]
    stages := [{ stageId := "gate", evaluatorId := "lint", purpose := .hardGate,
                 requirementIds := ["r0"] }] }
  digest := "d-task"
  evaluators_sorted := by decide
  stages_sorted := by decide
  measurements_sorted := by decide
  valid := by decide

section SmallRun

local instance : Canonical := plainCanonical

def gateHeader : RunHeader where
  runId := "run:t0"
  binding := {
    task := { family := "adder", authoringRevision := 1, taskSpecDigest := "d-task",
              instanceSeed := "s0", instanceDigest := "d-inst", releaseDigest := "d-rel" }
    environment := {
      environmentSpecDigest := "d-env", executorId := "ex", executorDigest := "d-ex",
      policyDigest := "d-pol"
      tools := [{ capability := .rtlLint, toolId := "verilator", toolVersion := "5",
                  driverDigest := "d-drv", deploymentAttestationDigest := "d-att" }] }
    session := {
      sessionSpecDigest := "d-ses", actors := [.human "alice" "d-ad"], initialWriter := "alice"
      handoffEnabled := false, feedbackPolicyDigest := "d-fb", budgetDigest := "d-bud" }
    evaluators := [{ evaluatorId := "lint", revisionDigest := "d-lint" }]
    measurementSchemaDigest := "schema:[]"
    trialKey := "t0" }
  runId_eq := by decide

lemma gateTools_ne_nil : gateHeader.binding.environment.tools ≠ [] := by decide

lemma gateTools_nodup :
    (gateHeader.binding.environment.tools.map ResolvedToolBinding.capability).Nodup := by decide

lemma gateEvaluators_sorted :
    (gateHeader.binding.evaluators.map EvaluatorRunBinding.evaluatorId).Pairwise (· < ·) := by
  decide

/-- The envelope of the `n`-th event. -/
def gateBase (n : Nat) (producer : ProducerKind)
    (hp : producer ≠ .participant := by
      first
      | exact ProducerKind.controller_ne
      | exact ProducerKind.executor_ne
      | exact ProducerKind.evaluator_ne
      | decide) :
    EventBase where
  runId := "run:t0"
  sequence := n
  eventId := n
  timestamp := n
  producer := producer
  visibility := .verifier
  actor_iff := ProducerKind.actorless hp

def aliceBase (n : Nat) : EventBase where
  runId := "run:t0"
  sequence := n
  eventId := n
  timestamp := n
  producer := .participant
  actor := some "alice"
  visibility := .participant

def unrankedDecision : ScoringDecision where
  eligibility := { state := .notConfigured }
  score_iff_ready := by decide
  not_waiting := by decide

/-- A candidate is submitted, passes the gate and is scored. -/
def passingRun : List RunEvent :=
  [.runStarted {
     toEventBase := gateBase 0 .controller
     payload := { bindingDigest := "run:t0" } },
   .candidateSubmitted {
     toEventBase := aliceBase 1
     payload := { candidateId := "c0", candidateDigest := "d-c0" } },
   .evaluationStarted {
     toEventBase := gateBase 2 .evaluator
     payload := { stageId := "gate", candidateId := "c0", jobId := "j0" } },
   .jobStateChanged {
     toEventBase := gateBase 3 .executor
     payload := { jobId := "j0", state := .running } },
   .jobStateChanged {
     toEventBase := gateBase 4 .executor
     payload := { jobId := "j0", state := .completed } },
   .evaluationCompleted {
     toEventBase := gateBase 5 .evaluator
     payload := { candidateId := "c0", jobId := "j0",
                  result := { stageId := "gate", outcome := .passed } } },
   .scoringRecorded {
     toEventBase := gateBase 6 .evaluator
     payload := { candidateId := "c0", decision := unrankedDecision } }]

def passingEnd : RunEndedEvent where
  toEventBase := gateBase 7 .controller
  payload := { reason := .verifierSuccess, successfulCandidateId := some "c0" }

def passingState : RunState where
  runId := "run:t0"
  nextSequence := 8
  currentWriter := "alice"
  candidates := [{ candidateId := "c0", digest := "d-c0", parentCandidateId := none,
                   actor := "alice" }]
  stageResults := [{ candidateId := "c0", result := { stageId := "gate", outcome := .passed } }]
  scoring := [{ candidateId := "c0", decision := unrankedDecision }]
  artifacts := []
  checkpointIds := []
  interactionIds := []
  providerRequests := []
  jobs := [{ jobId := "j0", state := .completed }]
  terminalReason := some .verifierSuccess
  successfulCandidateId := some "c0"

theorem passingRun_sound :
    replay gateHeader gateTask (passingRun ++ [.runEnded passingEnd]) = .ok passingState ∧
      TerminalSound gateTask (passingRun ++ [.runEnded passingEnd]) passingEnd := by
  have h : replay gateHeader gateTask (passingRun ++ [.runEnded passingEnd]) =
      .ok passingState := by
    decide +kernel
  exact ⟨h, replay_terminal_sound _ _ _ _ _ h⟩

end SmallRun

end EdaGym
