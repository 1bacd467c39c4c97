import EdaGym.Providers.Budget
import EdaGym.Run.Projections

/-!
# The bill of an ended run

The campaign pays for a run by what its journal records: the running time of its evaluation jobs,
the time its licences were held and the tool reservations of its participant. The replay admits job
histories that the first of these does not cover.
-/

namespace EdaGym

section Evidence

variable [Canonical]

/-! ### Durations -/

/-- `(finished - started).total_seconds()`. -/
def totalSeconds (started finished : Datetime) : ℚ := toDouble ((finished - started) / 10 ^ 6)

def ceilingSeconds (started finished : Datetime) : Nat :=
  ⌈max 0 (totalSeconds started finished)⌉.toNat

def datetimeMilliseconds (started finished : Datetime) : Nat :=
  ⌈toDouble (max 0 (totalSeconds started finished) * 1000)⌉.toNat

/-- `math.ceil(milliseconds / 1000)`. -/
def ceilingOfMilliseconds (milliseconds : Nat) : Nat := ⌈toDouble (milliseconds / 1000)⌉.toNat

/-! ### Evaluation jobs -/

/-- The dictionaries `running` and `terminal` of the evaluator projection. -/
structure ElapsedScan where
  running : Dict Identifier Datetime := Dict.empty
  terminal : Dict Identifier Datetime := Dict.empty

def elapsedStep (scan : ElapsedScan) : RunEvent → ElapsedScan
  | .jobStateChanged event =>
    if event.payload.state = .running then
      { scan with
        running :=
          if event.payload.jobId ∈ scan.running then scan.running
          else scan.running.insert event.payload.jobId event.timestamp }
    else if event.payload.state.isTerminal then
      { scan with terminal := scan.terminal.insert event.payload.jobId event.timestamp }
    else scan
  | _ => scan

def evaluatorElapsedMilliseconds (events : List RunEvent) : Except JournalError Nat := do
  let scan := events.foldl elapsedStep {}
  raiseIf (¬ scan.running.SameKeys scan.terminal)
    (.valueError "terminal run has an incomplete evaluator duration")
  return (scan.running.entries.map fun (jobId, started) =>
    datetimeMilliseconds started ((scan.terminal.get? jobId).getD started)).sum

/-! ### Licences -/

/-- The dictionary `active` and the total `elapsed` of the licence projection. -/
structure LicenseScan where
  active : Dict Identifier Datetime := Dict.empty
  elapsed : Nat := 0

def LicenseScan.close (scan : LicenseScan) (jobId : Identifier) (timestamp : Datetime) :
    Except JournalError LicenseScan := do
  let started ← orRaise (scan.active.get? jobId)
    (.valueError "license release has no acquisition")
  return { active := scan.active.erase jobId
           elapsed := scan.elapsed + datetimeMilliseconds started timestamp }

def licenseStep (participantInvocations : List Identifier) (scan : LicenseScan) :
    RunEvent → Except JournalError LicenseScan
  | .licenseLeaseAcquired event =>
    if event.payload.jobId ∈ participantInvocations then .ok scan
    else .ok { scan with active := scan.active.insert event.payload.jobId event.timestamp }
  | .licenseLeaseReleased event =>
    if event.payload.jobId ∈ participantInvocations then .ok scan
    else scan.close event.payload.jobId event.timestamp
  | .licenseLeaseLost event =>
    if event.payload.jobId ∈ participantInvocations then .ok scan
    else scan.close event.payload.jobId event.timestamp
  | _ => .ok scan

def evaluatorLicenseMilliseconds (events : List RunEvent) : Except JournalError Nat := do
  let dispatches ← participantToolDispatches events
  let participantInvocations := dispatches.map fun d => d.2.reservation.payload.invocationId
  let scan ← foldSteps (licenseStep participantInvocations) {} events
  raiseIf (scan.active.isEmpty = false)
    (.valueError "terminal run has an unreleased evaluator license")
  return scan.elapsed

/-! ### The resources of a run -/

def RunEvent.isToolRequest : RunEvent → Bool
  | .interactionRecorded event => event.payload.direction = .toolRequest
  | _ => false

/-- The events that complete one action of the participant. -/
def RunEvent.isAction : RunEvent → Bool
  | .candidateSubmitted _ | .controlTransferred _ => true
  | .interactionRecorded event => event.payload.direction = .participantOutput
  | .runEnded event => event.producer = .participant
  | _ => false

def RunEvent.isProviderRequest : RunEvent → Bool
  | .providerRequestStarted _ => true
  | _ => false

/-- The completed actions, and one more when the run ended in the middle of an action. -/
def participantTurns (events : List RunEvent) : Nat :=
  let actions := events.filter RunEvent.isAction
  let lastActionSequence : Int :=
    (actions.map fun e => (e.base.sequence : Int)).foldl max (-1)
  let unfinished := events.any fun e =>
    e.isProviderRequest ∧ lastActionSequence < (e.base.sequence : Int)
  let endedByParticipant := events.getLast?.any fun e => e.base.producer = .participant
  actions.length + if unfinished ∧ ¬ endedByParticipant then 1 else 0

def campaignAmounts (events : List RunEvent) (elapsed license : Nat) (usage : ParticipantToolUsage)
    (artifactBytes : Nat) : ResourceVector Nat where
  requests := 0
  inputTokens := 0
  outputTokens := 0
  turns := participantTurns events
  toolCalls := (events.filter RunEvent.isToolRequest).length
  wallSeconds := ceilingSeconds ((events.head?.map fun e => e.base.timestamp).getD 0)
    ((events.getLast?.map fun e => e.base.timestamp).getD 0)
  edaComputeSeconds := ceilingOfMilliseconds (elapsed + usage.edaComputeMilliseconds)
  licenseSeconds := ceilingOfMilliseconds (license + usage.licenseMilliseconds)
  artifactBytes := artifactBytes

/-- The journal records such a state of the job. -/
def JobReached (events : List RunEvent) (jobId : Identifier) (p : JobStateKind → Prop) : Prop :=
  ∃ e : JobStateChangedEvent, .jobStateChanged e ∈ events ∧ e.payload.jobId = jobId ∧
    p e.payload.state

section Billing

variable {header : RunHeader} {task : TaskSpec} {st : ReplayState} {events : List RunEvent}
  {event : RunEvent} {scan : ElapsedScan} {k : Identifier}

lemma jobReached_concat {p : JobStateKind → Prop} :
    JobReached (events ++ [event]) k p ↔ JobReached events k p ∨ JobReached [event] k p := by
  simp only [JobReached, List.mem_append, or_and_right, exists_or]

lemma mem_running_step :
    k ∈ (elapsedStep scan event).running ↔
      k ∈ scan.running ∨ JobReached [event] k (· = .running) := by
  cases event with
  | jobStateChanged e =>
    simp only [elapsedStep, JobReached, List.mem_singleton, RunEvent.jobStateChanged.injEq,
      exists_eq_left]
    by_cases hrun : e.payload.state = .running
    · by_cases hmem : e.payload.jobId ∈ scan.running
      · simp only [hrun, hmem, if_true, and_true]
        constructor
        · exact Or.inl
        · rintro (hk | rfl)
          · exact hk
          · exact hmem
      · simp [hrun, hmem, or_comm, eq_comm]
    · simp only [hrun, if_false, and_false, or_false]
      split_ifs <;> rfl
  | _ => simp [elapsedStep, JobReached]

lemma mem_terminal_step :
    k ∈ (elapsedStep scan event).terminal ↔
      k ∈ scan.terminal ∨ JobReached [event] k (·.isTerminal = true) := by
  cases event with
  | jobStateChanged e =>
    simp only [elapsedStep, JobReached, List.mem_singleton, RunEvent.jobStateChanged.injEq,
      exists_eq_left]
    by_cases hrun : e.payload.state = .running
    · simp [hrun, JobStateKind.isTerminal]
    · by_cases hterm : e.payload.state.isTerminal = true
      · simp [hrun, hterm, or_comm, eq_comm]
      · simp [hrun, hterm]
  | _ => simp [elapsedStep, JobReached]

lemma mem_running_scan :
    k ∈ (events.foldl elapsedStep {}).running ↔ JobReached events k (· = .running) := by
  induction events using List.reverseRecOn with
  | nil => simp [JobReached]
  | append_singleton events event ih =>
    rw [List.foldl_concat, mem_running_step, jobReached_concat, ih]

lemma mem_terminal_scan :
    k ∈ (events.foldl elapsedStep {}).terminal ↔
      JobReached events k (·.isTerminal = true) := by
  induction events using List.reverseRecOn with
  | nil => simp [JobReached]
  | append_singleton events event ih =>
    rw [List.foldl_concat, mem_terminal_step, jobReached_concat, ih]

lemma evaluatorElapsed_iff :
    (∃ ms, evaluatorElapsedMilliseconds events = .ok ms) ↔
      ∀ k, JobReached events k (· = .running) ↔ JobReached events k (·.isTerminal = true) := by
  simp only [evaluatorElapsedMilliseconds, bind_eq_ok, raiseIf_eq_ok, exists_const, pure_eq_ok,
    not_not, exists_and_left, exists_eq', and_true, Dict.sameKeys_iff,
    mem_running_scan, mem_terminal_scan]

lemma started_of_jobState (h : replayLoop header task events = .ok st) (hk : k ∈ st.jobStates) :
    ∃ start : EvaluationStartedEvent, .evaluationStarted start ∈ st.prior ∧
      start.payload.jobId = k := by
  refine replayLoop_induction (P := fun st => ∀ k ∈ st.jobStates,
    ∃ start : EvaluationStartedEvent, .evaluationStarted start ∈ st.prior ∧
      start.payload.jobId = k) ?_ ?_ h k hk
  · intro k hk
    exact absurd hk (Dict.not_mem_empty k)
  · intro st event lifecycle ih hadm k hk
    have hkeep : k ∈ st.jobStates → ∃ start : EvaluationStartedEvent,
        .evaluationStarted start ∈ (st.apply header event).prior ∧ start.payload.jobId = k := by
      intro hk
      obtain ⟨start, hstart, hid⟩ := ih k hk
      exact ⟨start, List.mem_append_left _ hstart, hid⟩
    cases event with
    | evaluationStarted e =>
      rcases Dict.mem_insert.mp hk with rfl | hk
      · exact ⟨e, by simp, rfl⟩
      · exact hkeep hk
    | jobStateChanged e =>
      have hadm' : JobStateChangedAdmitted st e.payload := hadm.kind
      obtain ⟨previous, hprevious, -⟩ := hadm'.allowed
      rcases Dict.mem_insert.mp hk with rfl | hk
      · exact hkeep (Dict.mem_of_get? hprevious)
      · exact hkeep hk
    | _ => exact hkeep hk

/-- Only started jobs change their state. -/
lemma started_of_jobReached (h : replayLoop header task events = .ok st)
    {p : JobStateKind → Prop} (hk : JobReached events k p) :
    ∃ start : EvaluationStartedEvent, .evaluationStarted start ∈ events ∧
      start.payload.jobId = k := by
  obtain ⟨e, he, rfl, -⟩ := hk
  have hprior := replayLoop_prior h
  have hmem : e.payload.jobId ∈ st.jobStates := by
    have hhistory : e.payload.state ∈ jobHistory st.prior e.payload.jobId := by
      rw [hprior]
      exact List.mem_filterMap.mpr ⟨_, he, by simp⟩
    obtain ⟨last, hlast⟩ := Option.ne_none_iff_exists'.mp
      (mt List.getLast?_eq_none_iff.mp (List.ne_nil_of_mem hhistory))
    rw [← replayLoop_jobsRecorded h] at hlast
    exact Dict.mem_of_get? hlast
  rw [← hprior]
  exact started_of_jobState h hmem

/-- Where no job is active, every started job has reached a terminal state. -/
lemma terminal_of_inactive (h : replayLoop header task events = .ok st)
    (hinactive : ¬ st.HasActiveExecutorJob) {start : EvaluationStartedEvent}
    (hstart : .evaluationStarted start ∈ events) :
    JobReached events start.payload.jobId (·.isTerminal = true) := by
  obtain ⟨state, hstate⟩ := Option.ne_none_iff_exists'.mp
    (mt List.getLast?_eq_none_iff.mp (jobHistory_ne_nil hstart))
  have hmem := List.mem_of_getLast? hstate
  have hterm : state.isTerminal = true := by
    rw [← replayLoop_prior h, ← replayLoop_jobsRecorded h] at hstate
    by_contra hn
    exact hinactive ⟨state, Dict.mem_values.mpr ⟨_, hstate⟩, by simpa using hn⟩
  obtain ⟨e, he, heq⟩ := List.mem_filterMap.mp hmem
  cases e with
  | evaluationStarted e =>
    simp only [Option.ite_none_right_eq_some, Option.some.injEq] at heq
    rw [← heq.2] at hterm
    cases hterm
  | jobStateChanged e =>
    simp only [Option.ite_none_right_eq_some, Option.some.injEq] at heq
    exact ⟨e, he, heq.1, heq.2 ▸ hterm⟩
  | _ => cases heq

/-- The licence projection follows the active leases, those of the participant's tools apart. -/
def LicenseScan.Follows (scan : LicenseScan) (invocations : List Identifier) (st : ReplayState) :
    Prop :=
  ∀ k, k ∈ scan.active ↔ k ∈ st.activeLicenseLeases ∧ k ∉ invocations

variable {invocations : List Identifier} {scan : LicenseScan}

lemma LicenseScan.Follows.close
    (h : scan.Follows invocations st) {fact : LicenseLeaseBindingPayload} {timestamp : Datetime}
    (hk : LicenseClosedAdmitted st fact timestamp) (hnot : fact.jobId ∉ invocations) :
    ∃ scan', scan.close fact.jobId timestamp = .ok scan' ∧
      ∀ k, k ∈ scan'.active ↔ k ∈ st.activeLicenseLeases.erase fact.jobId ∧ k ∉ invocations := by
  obtain ⟨acquired, hget, -⟩ := hk.acquired
  obtain ⟨started, hstarted⟩ := Dict.mem_iff.mp ((h _).mpr ⟨Dict.mem_of_get? hget, hnot⟩)
  refine ⟨{ active := scan.active.erase fact.jobId
            elapsed := scan.elapsed + datetimeMilliseconds started timestamp }, ?_, fun k => ?_⟩
  · simp only [LicenseScan.close, bind_eq_ok, orRaise_eq_ok, pure_eq_ok]
    exact ⟨started, hstarted, rfl⟩
  · rw [Dict.mem_erase, Dict.mem_erase, h k, and_assoc]

/-- A lease that is closed but not billed was never entered. -/
lemma LicenseScan.Follows.skip
    (h : scan.Follows invocations st) {jobId : Identifier} (hin : jobId ∈ invocations) :
    ∀ k, k ∈ scan.active ↔ k ∈ st.activeLicenseLeases.erase jobId ∧ k ∉ invocations := by
  intro k
  rw [Dict.mem_erase, h k]
  constructor
  · rintro ⟨hmem, hnot⟩
    refine ⟨⟨?_, hmem⟩, hnot⟩
    rintro rfl
    exact hnot hin
  · rintro ⟨⟨-, hmem⟩, hnot⟩
    exact ⟨hmem, hnot⟩

lemma licenseStep_follows
    {lifecycle : ParticipantIncarnationLifecycle} (h : scan.Follows invocations st)
    (hadm : Admitted header task st event lifecycle) :
    ∃ scan', licenseStep invocations scan event = .ok scan' ∧
      scan'.Follows invocations (st.apply header event) := by
  cases event with
  | licenseLeaseAcquired e =>
    by_cases hin : e.payload.jobId ∈ invocations
    · refine ⟨scan, by simp [licenseStep, hin], fun k => ?_⟩
      rw [h k]
      simp only [ReplayState.apply, ReplayState.effect, Dict.mem_insert, or_and_right]
      constructor
      · exact Or.inr
      · rintro (⟨rfl, hnot⟩ | hk)
        · exact absurd hin hnot
        · exact hk
    · refine ⟨{ scan with active := scan.active.insert e.payload.jobId e.timestamp },
        by simp [licenseStep, hin], fun k => ?_⟩
      simp only [ReplayState.apply, ReplayState.effect, Dict.mem_insert, h k, or_and_right]
      constructor
      · rintro (rfl | hk)
        · exact Or.inl ⟨rfl, hin⟩
        · exact Or.inr hk
      · rintro (⟨rfl, -⟩ | hk)
        · exact Or.inl rfl
        · exact Or.inr hk
  | licenseLeaseReleased e =>
    by_cases hin : e.payload.jobId ∈ invocations
    · exact ⟨scan, by simp [licenseStep, hin], h.skip hin⟩
    · rw [licenseStep, if_neg hin]
      exact h.close hadm.kind hin
  | licenseLeaseLost e =>
    by_cases hin : e.payload.jobId ∈ invocations
    · exact ⟨scan, by simp [licenseStep, hin], h.skip hin⟩
    · rw [licenseStep, if_neg hin]
      exact h.close hadm.kind hin
  | _ => exact ⟨scan, rfl, h⟩

lemma licenseScan_follows (invocations : List Identifier)
    (h : replayLoop header task events = .ok st) :
    ∃ scan, foldSteps (licenseStep invocations) {} events = .ok scan ∧
      scan.Follows invocations st := by
  rw [← replayLoop_prior h]
  refine replayLoop_induction (P := fun st => ∃ scan,
    foldSteps (licenseStep invocations) {} st.prior = .ok scan ∧ scan.Follows invocations st)
    ?_ ?_ h
  · exact ⟨_, rfl, by simp [LicenseScan.Follows, ReplayState.initial]⟩
  · rintro st event lifecycle ⟨scan, hscan, hfollows⟩ hadm
    obtain ⟨scan', hstep, hfollows'⟩ := licenseStep_follows hfollows hadm
    exact ⟨scan', foldSteps_concat_eq_ok.mpr ⟨scan, hscan, hstep⟩, hfollows'⟩

/-- Where no lease is open, the licence bill is defined. -/
lemma evaluatorLicense_of_released (h : replayLoop header task events = .ok st)
    (hempty : ∀ k, k ∉ st.activeLicenseLeases) :
    ∃ ms, evaluatorLicenseMilliseconds events = .ok ms := by
  obtain ⟨scan, hscan, hfollows⟩ := licenseScan_follows
    (st.participantToolReservations.entries.map fun d => d.2.payload.invocationId) h
  refine ⟨scan.elapsed, ?_⟩
  simp only [evaluatorLicenseMilliseconds, participantToolDispatches, dispatchScan_eq h, bind_eq_ok,
    pure_eq_ok, raiseIf_eq_ok, exists_const]
  refine ⟨_, ⟨_, rfl, rfl⟩, scan, ?_, ?_, rfl⟩
  · simpa [Function.comp_def] using hscan
  · rw [Bool.not_eq_false, Dict.isEmpty_iff]
    exact fun k => Dict.get?_eq_none_iff.mpr fun hk => hempty k ((hfollows k).mp hk).1

/-- The time from the first RUNNING state of each job to its last terminal one. -/
def runningMilliseconds (events : List RunEvent) : Nat :=
  let scan := events.foldl elapsedStep {}
  (scan.running.entries.map fun (jobId, started) =>
    datetimeMilliseconds started ((scan.terminal.get? jobId).getD started)).sum

/-- The job of a lease that an event opens or closes, and when. -/
def RunEvent.leaseChange? : RunEvent → Option (Bool × Identifier × Datetime)
  | .licenseLeaseAcquired event => some (true, event.payload.jobId, event.timestamp)
  | .licenseLeaseReleased event => some (false, event.payload.jobId, event.timestamp)
  | .licenseLeaseLost event => some (false, event.payload.jobId, event.timestamp)
  | _ => none

def leaseChanges (participantInvocations : List Identifier) (events : List RunEvent) :
    List (Bool × Identifier × Datetime) :=
  (events.filterMap RunEvent.leaseChange?).filter (·.2.1 ∉ participantInvocations)

/-- How long the leases were held, where `active` tells since when one has been. -/
def heldMilliseconds : Dict Identifier Datetime → List (Bool × Identifier × Datetime) → Nat
  | _, [] => 0
  | active, (true, jobId, t) :: changes => heldMilliseconds (active.insert jobId t) changes
  | active, (false, jobId, t) :: changes =>
    datetimeMilliseconds ((active.get? jobId).getD t) t +
      heldMilliseconds (active.erase jobId) changes

/-- The dispatches of the participant's tools that the record holds. -/
def recordedDispatches (events : List RunEvent) : List (Identifier × ParticipantToolDispatch) :=
  (participantToolDispatches events).toOption.getD []

/-- The totals that the resources are made from are JSON-safe. -/
structure AmountsFit (events : List RunEvent) (artifactBytes : Nat) : Prop where
  compute : totalCompute (recordedDispatches events) ≤ JCS_INTEGER_MAX
  license : totalLicense (recordedDispatches events) ≤ JCS_INTEGER_MAX
  amounts : ∀ item, (campaignAmounts events (runningMilliseconds events)
    (heldMilliseconds Dict.empty (leaseChanges
      ((recordedDispatches events).map fun d => d.2.reservation.payload.invocationId) events))
    ⟨totalCompute (recordedDispatches events), totalLicense (recordedDispatches events)⟩
    artifactBytes).get item ≤ JCS_INTEGER_MAX

end Billing

end Evidence

/-! ### A job that fails before it runs -/

section NeverRan

local instance evidenceCanonical : Canonical := plainCanonical

/-- The gate job fails while it is queued, as it does when its licence is denied. -/
def neverRan : List RunEvent :=
  passingRun.take 3 ++
    [.jobStateChanged {
       toEventBase := gateBase 3 .executor
       payload := { jobId := "j0", state := .failed } },
     .evaluationCompleted {
       toEventBase := gateBase 4 .evaluator
       payload := { candidateId := "c0", jobId := "j0",
                    result := { stageId := "gate", outcome := .infrastructureFailure } } }]

end NeverRan

end EdaGym
