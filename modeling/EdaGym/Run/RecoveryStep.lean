import EdaGym.Run.DeadEnd
import EdaGym.Run.Recovery

/-!
# The commits of a recovery

A recovery commits one batch for every open evaluation and one for every open tool request. What a
batch does to the open work does not depend on its identifiers and timestamps, and whether it is
accepted depends on them only as far as the envelope does.
-/

namespace EdaGym

variable [Canonical]

/-! ### Events that serve open work -/

/-- The event closes a part of an evaluation, a dispatch or a tool request that is open. -/
inductive Serves (log : List RunEvent) : RunEvent → Prop
  | job {e : JobStateChangedEvent} {v : Identifier × Identifier}
      (h : evaluationBracket.Pending log e.payload.jobId v) : Serves log (.jobStateChanged e)
  | jobLease {e : LicenseLeaseLostEvent} {v : Identifier × Identifier}
      (h : evaluationBracket.Pending log e.payload.jobId v) : Serves log (.licenseLeaseLost e)
  | evaluation {e : EvaluationCompletedEvent} {v : Identifier × Identifier}
      (h : evaluationBracket.Pending log e.payload.jobId v) : Serves log (.evaluationCompleted e)
  | invocationLease {e : LicenseLeaseLostEvent} {k : Identifier}
      {reserved : ParticipantToolReservedEvent} (h : dispatchBracket.Pending log k reserved)
      (hjob : e.payload.jobId = reserved.payload.invocationId) : Serves log (.licenseLeaseLost e)
  | dispatch {e : ParticipantToolLostEvent} {reserved : ParticipantToolReservedEvent}
      (h : dispatchBracket.Pending log e.payload.requestInteractionId reserved) :
      Serves log (.participantToolLost e)
  | result {e : InteractionRecordedEvent} {k : Identifier} {request : InteractionRecordedEvent}
      (h : toolBracket.Pending log k request)
      (hrel : e.payload.relatedInteractionId = some k) : Serves log (.interactionRecorded e)

/-! ### Evaluations -/

/-- The tool side of the run is as it was. -/
structure SameTools (st st' : ReplayState) : Prop where
  interactions : st'.interactions = st.interactions
  resolved : st'.resolvedToolRequests = st.resolvedToolRequests
  reservations : st'.participantToolReservations = st.participantToolReservations
  terminals : st'.participantToolTerminals = st.participantToolTerminals
  writer : st'.currentWriter = st.currentWriter

/-- The evaluation of job `k` is closed, and nothing else. -/
structure ClosesEvaluation (st st' : ReplayState) (k c s : Identifier) : Prop where
  active : st.activeJobs.get? k = some (c, s)
  unresulted : ∀ r ∈ st.results c, r.stageId ≠ s
  activeJobs : st'.activeJobs = st.activeJobs.erase k
  results : ∀ c', st'.results c' = st.results c' ++ if c = c' then [failedResult s] else []
  custody : k ∉ st'.activeLicenseLeases
  leases : ∀ k', k' ≠ k → st'.activeLicenseLeases.get? k' = st.activeLicenseLeases.get? k'
  tools : SameTools st st'

section Evaluations

variable {header : RunHeader} {task : TaskSpec} {st st' : ReplayState} {timestamp : Datetime}
  {eventIds : Nat → UUID} {sequence issued : Nat}

lemma accepts_single {event : RunEvent} :
    foldSteps (replayStep header task) st [event] = .ok st' ↔
      (∃ lifecycle, Admitted header task st event lifecycle) ∧ st' = st.apply header event := by
  simp only [foldSteps_cons_eq_ok, foldSteps_nil, replayStep_eq_ok_iff, Except.ok.injEq]
  constructor
  · rintro ⟨_, h, rfl⟩
    exact h
  · intro h
    exact ⟨_, h, rfl⟩

lemma SameTools.refl (st : ReplayState) : SameTools st st := ⟨rfl, rfl, rfl, rfl, rfl⟩

omit [Canonical] in
lemma results_unresulted {results validated : List StageResult} {r : StageResult}
    (h : validateStageResults task (results ++ [r]) = .ok validated) :
    ∀ r' ∈ results, r'.stageId ≠ r.stageId := by
  have hnodup := nodup_of_validated h
  rw [List.map_append, List.nodup_append] at hnodup
  intro r' hr'
  exact hnodup.2.2 _ (List.mem_map_of_mem hr') _ (by simp)

/-- Every accepted batch for an evaluation closes it together with its job and its lease. -/
lemma closesEvaluation_of_accepted (ht : st.Tracked) {started : EvaluationStartedEvent}
    {terminal : Bool} {acquisition : Option LicenseLeaseAcquiredEvent}
    (hjob : ∀ a ∈ acquisition, a.payload.jobId = started.payload.jobId)
    (hlease : started.payload.jobId ∈ st.activeLicenseLeases → acquisition.isSome = true)
    (h : foldSteps (replayStep header task) st (interruptedEvaluationEvents header timestamp
      eventIds sequence issued started terminal acquisition) = .ok st') :
    ClosesEvaluation st st' started.payload.jobId started.payload.candidateId
        started.payload.stageId ∧
      ∀ e ∈ interruptedEvaluationEvents header timestamp eventIds sequence issued started terminal
        acquisition, Serves st.prior e := by
  simp only [interruptedEvaluationEvents, foldSteps_append_eq_ok, accepts_single] at h
  obtain ⟨st₂, ⟨st₁, h₁, h₂⟩, ⟨l, hadm⟩, rfl⟩ := h
  obtain ⟨hjobs₁, hresults₁, hleases₁, htools₁⟩ : st₁.activeJobs = st.activeJobs ∧
      st₁.resultsByCandidate = st.resultsByCandidate ∧
      st₁.activeLicenseLeases = st.activeLicenseLeases ∧ SameTools st st₁ := by
    cases terminal with
    | true =>
      cases h₁
      exact ⟨rfl, rfl, rfl, .refl st⟩
    | false =>
      obtain ⟨-, rfl⟩ := accepts_single.mp h₁
      exact ⟨rfl, rfl, rfl, rfl, rfl, rfl, rfl, rfl⟩
  obtain ⟨hjobs₂, hresults₂, hcustody, hleases₂, htools₂⟩ : st₂.activeJobs = st.activeJobs ∧
      st₂.resultsByCandidate = st.resultsByCandidate ∧
      started.payload.jobId ∉ st₂.activeLicenseLeases ∧
      (∀ k', k' ≠ started.payload.jobId →
        st₂.activeLicenseLeases.get? k' = st.activeLicenseLeases.get? k') ∧ SameTools st st₂ := by
    cases acquisition with
    | none =>
      cases h₂
      refine ⟨hjobs₁, hresults₁, fun hmem => ?_, fun k' _ => by rw [hleases₁], htools₁⟩
      rw [hleases₁] at hmem
      cases hlease hmem
    | some acquired =>
      obtain ⟨-, rfl⟩ := accepts_single.mp h₂
      have hacq := hjob acquired rfl
      refine ⟨hjobs₁, hresults₁, ?_, fun k' hne => ?_, htools₁.1, htools₁.2, htools₁.3, htools₁.4,
        htools₁.5⟩
      · simp [ReplayState.apply, ReplayState.effect, leaseLostEvent, hacq]
      · simp only [ReplayState.apply, ReplayState.effect, leaseLostEvent, hacq]
        rw [Dict.get?_erase_of_ne _ hne, hleases₁]
  have hk : EvaluationCompletedAdmitted header task st₂ _ := hadm.kind
  have hactive : st.activeJobs.get? started.payload.jobId =
      some (started.payload.candidateId, started.payload.stageId) := by
    rw [← hjobs₂]
    exact hk.active
  have hresults : ∀ c, st₂.results c = st.results c := fun c => by
    rw [ReplayState.results, hresults₂, ReplayState.results]
  refine ⟨⟨hactive, ?_, ?_, fun c' => ?_, hcustody, hleases₂, htools₂.1, htools₂.2, htools₂.3,
    htools₂.4, htools₂.5⟩, ?_⟩
  · obtain ⟨results, hget, validated, hvalid⟩ := hk.results
    have hget' : st₂.resultsByCandidate.get? started.payload.candidateId = some results := hget
    rw [← hresults, ReplayState.results_of_get? hget']
    exact results_unresulted hvalid
  · rw [← hjobs₂]
    rfl
  · rw [results_evaluationCompleted, hresults]
    rfl
  · have hpending := (ht.evaluations.table_iff _ _).mp hactive
    intro e he
    simp only [interruptedEvaluationEvents, List.mem_append, List.mem_singleton] at he
    rcases he with (he | he) | rfl
    · cases terminal with
      | true => cases he
      | false =>
        obtain rfl := List.mem_singleton.mp he
        exact .job hpending
    · cases acquisition with
      | none => cases he
      | some acquired =>
        obtain rfl := List.mem_singleton.mp he
        refine .jobLease (v := (started.payload.candidateId, started.payload.stageId)) ?_
        change evaluationBracket.Pending _ acquired.payload.jobId _
        rw [hjob acquired rfl]
        exact hpending
    · exact .evaluation hpending

end Evaluations

/-! ### Tool requests -/

variable [ToolIdentities]

/-- The interaction under which the recovery records the result of a request. -/
def recoveredResultId (requestId toolName : Identifier) : Identifier :=
  ToolIdentities.participantToolInteractionId requestId toolName "result"

/-- The tools whose requests a recovery can close. -/
def recoverableToolNames : List Identifier :=
  EXECUTOR_PARTICIPANT_TOOL_NAME :: CONTROLLER_PARTICIPANT_TOOL_NAMES

/-- The recovery can record a result for the request `k`. -/
structure RequestRecoverable (header : RunHeader) (st : ReplayState) (k : Identifier)
    (request : InteractionRecordedEvent) (name : Identifier) : Prop where
  actor : request.actor = some st.currentWriter
  tool : request.payload.toolName = some name
  known : name ∈ recoverableToolNames
  fresh : recoveredResultId k name ∉ st.interactions
  identity : ∀ reserved, st.participantToolReservations.get? k = some reserved →
    reserved.payload.invocationId = Canonical.participantToolInvocationId header.runId k

/-- The tool request `k` and its dispatch are closed, and nothing else. -/
structure ClosesRequest (header : RunHeader) (st st' : ReplayState) (k name : Identifier) :
    Prop where
  request : ∃ request, st.openToolRequest k = some request ∧
    RequestRecoverable header st k request name
  closed : st'.openToolRequest k = none
  others : ∀ k', k' ≠ k → st'.openToolRequest k' = st.openToolRequest k'
  interactions : ∀ k', k' ∈ st'.interactions ↔ k' = recoveredResultId k name ∨ k' ∈ st.interactions
  undispatched : st'.openDispatch k = none
  dispatches : ∀ k', k' ≠ k → st'.openDispatch k' = st.openDispatch k'
  custody : ∀ reserved, st.openDispatch k = some reserved →
    reserved.payload.invocationId ∉ st'.activeLicenseLeases
  leases : ∀ k' acquired, st'.activeLicenseLeases.get? k' = some acquired →
    st.activeLicenseLeases.get? k' = some acquired
  reservations : st'.participantToolReservations = st.participantToolReservations
  writer : st'.currentWriter = st.currentWriter
  activeJobs : st'.activeJobs = st.activeJobs
  results : ∀ c, st'.results c = st.results c

/-- One commit of a recovery. -/
structure RecoveryStep (header : RunHeader) (task : TaskSpec) (st : ReplayState)
    (batch : List RunEvent) (st' : ReplayState) : Prop where
  accepted : foldSteps (replayStep header task) st batch = .ok st'
  serves : ∀ e ∈ batch, Serves st.prior e
  closes : (∃ k c s, ClosesEvaluation st st' k c s) ∨ ∃ k name, ClosesRequest header st st' k name

section Requests

variable {header : RunHeader} {task : TaskSpec} {st st' : ReplayState} {timestamp : Datetime}
  {eventIds : Nat → UUID} {sequence issued : Nat} {k name : Identifier}

omit [ToolIdentities] in
lemma openDispatch_eq_some {reserved : ParticipantToolReservedEvent} :
    st.openDispatch k = some reserved ↔
      k ∉ st.participantToolTerminals ∧ st.participantToolReservations.get? k = some reserved := by
  rw [ReplayState.openDispatch, Option.ite_none_left_eq_some]

omit [ToolIdentities] in
lemma openToolRequest_eq_some {request : InteractionRecordedEvent} :
    st.openToolRequest k = some request ↔
      k ∉ st.resolvedToolRequests ∧ st.interactions.get? k = some request ∧
        request.payload.direction = .toolRequest := by
  rw [ReplayState.openToolRequest, Option.ite_none_left_eq_some, Option.filter_eq_some_iff,
    decide_eq_true_eq]

/-- The state before the result is recorded: the dispatch of the request is closed. -/
structure DispatchClosed (st st₁ : ReplayState) (k : Identifier) : Prop where
  interactions : st₁.interactions = st.interactions
  resolved : st₁.resolvedToolRequests = st.resolvedToolRequests
  reservations : st₁.participantToolReservations = st.participantToolReservations
  terminals : ∀ k', k' ≠ k →
    (k' ∈ st₁.participantToolTerminals ↔ k' ∈ st.participantToolTerminals)
  writer : st₁.currentWriter = st.currentWriter
  activeJobs : st₁.activeJobs = st.activeJobs
  resultsByCandidate : st₁.resultsByCandidate = st.resultsByCandidate
  undispatched : st₁.openDispatch k = none
  custody : ∀ reserved, st.openDispatch k = some reserved →
    reserved.payload.invocationId ∉ st₁.activeLicenseLeases
  leases : ∀ k' acquired, st₁.activeLicenseLeases.get? k' = some acquired →
    st.activeLicenseLeases.get? k' = some acquired

variable {eventId : UUID}

lemma DispatchClosed.closesRequest {st₁ : ReplayState} (h : DispatchClosed st st₁ k)
    (hknown : name ∈ recoverableToolNames)
    (hidentity : ∀ reserved, st.participantToolReservations.get? k = some reserved →
      reserved.payload.invocationId = Canonical.participantToolInvocationId header.runId k)
    (hk : InteractionAdmitted st₁ (toolResultEvent header sequence eventId timestamp
      (recoveredResultId k name) k name)) :
    ClosesRequest header st (st₁.apply header (.interactionRecorded (toolResultEvent header sequence
      eventId timestamp (recoveredResultId k name) k name))) k name := by
  obtain ⟨⟨request, hget, hdir, hactor, htool⟩, hunresolved, -⟩ := hk.related k rfl
  have hget' : st.interactions.get? k = some request := h.interactions ▸ hget
  have hfresh : recoveredResultId k name ∉ st.interactions := h.interactions ▸ hk.fresh
  have hfresh₁ : recoveredResultId k name ∉ st₁.interactions := hk.fresh
  have hopen : st.openToolRequest k = some request :=
    openToolRequest_eq_some.mpr ⟨h.resolved ▸ hunresolved, hget', hdir⟩
  have hactor' : request.actor = some st.currentWriter := h.writer ▸ hactor
  refine {
    request := ⟨request, hopen, hactor', htool, hknown, hfresh, hidentity⟩
    closed := ?closed
    others := ?others
    interactions := ?interactions
    undispatched := h.undispatched
    dispatches := ?dispatches
    custody := h.custody
    leases := h.leases
    reservations := h.reservations
    writer := h.writer
    activeJobs := h.activeJobs
    results := ?results }
  case closed =>
    simp [ReplayState.openToolRequest, ReplayState.apply, ReplayState.effect, toolResultEvent]
  case others =>
    intro k' hne
    refine Option.ext fun r => ?_
    rw [openToolRequest_eq_some, openToolRequest_eq_some, ← h.interactions, ← h.resolved]
    simp only [ReplayState.apply, ReplayState.effect, toolResultEvent, Option.toList_some,
      List.singleton_append, List.mem_cons, hne, false_or, Dict.get?_insert]
    split_ifs with hk'
    · -- the new interaction is a result, and its identifier was not in use
      subst hk'
      rw [Dict.get?_eq_none_iff.mpr hfresh₁]
      constructor
      · rintro ⟨-, heq, hdir'⟩
        cases heq
        cases hdir'
      · rintro ⟨-, heq, -⟩
        cases heq
    · exact Iff.rfl
  case interactions =>
    intro k'
    rw [← h.interactions]
    exact Dict.mem_insert
  case dispatches =>
    intro k' hne
    change (if k' ∈ st₁.participantToolTerminals then none
      else st₁.participantToolReservations.get? k') = _
    rw [ReplayState.openDispatch, h.reservations]
    simp only [h.terminals k' hne]
  case results =>
    intro c
    rw [ReplayState.results, ReplayState.results, ← h.resultsByCandidate]
    rfl

/-- A result that is accepted at once finds no running dispatch. -/
lemma dispatchClosed_none (hts : st.ToolsSound header)
    (hk : InteractionAdmitted st (toolResultEvent header sequence eventId timestamp
      (recoveredResultId k name) k name)) : DispatchClosed st st k := by
  have hnone : st.openDispatch k = none := by
    refine Option.eq_none_iff_forall_ne_some.mpr fun reserved hopen => ?_
    obtain ⟨hterm, hget⟩ := openDispatch_eq_some.mp hopen
    have hmem := Dict.mem_of_get? hget
    obtain ⟨⟨request, hrequest, -, -, htool⟩, -, hrefused⟩ := hk.related k rfl
    obtain ⟨request', hrequest', -, htool'⟩ := hts.reserved k hmem
    rw [Option.mem_def.mp hrequest, Option.some.injEq] at hrequest'
    subst hrequest'
    exact hrefused ⟨htool.symm.trans htool', hmem, hterm⟩
  refine ⟨rfl, rfl, rfl, fun _ _ => Iff.rfl, rfl, rfl, rfl, hnone, fun reserved hopen => ?_,
    fun _ _ hget => hget⟩
  rw [hnone] at hopen
  cases hopen

section

omit [ToolIdentities]

/-- A reserved dispatch is filed under its own request. -/
lemma dispatch_requestId (ht : st.Tracked) {reserved : ParticipantToolReservedEvent}
    (hopen : st.openDispatch k = some reserved) : reserved.payload.requestInteractionId = k := by
  obtain ⟨⟨e, -, ho⟩, -⟩ := (ht.dispatches.table_iff k reserved).mp hopen
  cases e with
  | participantToolReserved r =>
    obtain ⟨h₁, h₂⟩ := Prod.mk.inj (Option.some.inj ho)
    rw [← h₂]
    exact h₁
  | _ => cases ho

/-- An open tool request is filed under its own interaction. -/
lemma toolRequest_interactionId (ht : st.Tracked) {request : InteractionRecordedEvent}
    (hopen : st.openToolRequest k = some request) : request.payload.interactionId = k := by
  obtain ⟨⟨e, -, ho⟩, -⟩ := (ht.tools.table_iff k request).mp hopen
  cases e with
  | interactionRecorded e =>
    simp only [toolBracket, Option.ite_none_right_eq_some, Option.some.injEq, Prod.mk.injEq] at ho
    obtain ⟨-, rfl, rfl⟩ := ho
    rfl
  | _ => cases ho

lemma dispatchClosed_lost (ht : st.Tracked) {reserved : ParticipantToolReservedEvent}
    (hopen : st.openDispatch k = some reserved)
    (h : foldSteps (replayStep header task) st (lostDispatchEvents header timestamp eventIds
      sequence issued st.activeLicenseLeases reserved.payload) = .ok st') :
    DispatchClosed st st' k ∧
      ∀ e ∈ lostDispatchEvents header timestamp eventIds sequence issued st.activeLicenseLeases
        reserved.payload, Serves st.prior e := by
  obtain rfl := dispatch_requestId ht hopen
  have hpending := (ht.dispatches.table_iff _ _).mp hopen
  simp only [lostDispatchEvents, foldSteps_append_eq_ok, accepts_single] at h
  obtain ⟨st₁, h₁, ⟨l, hadm⟩, rfl⟩ := h
  have hk : ToolLostAdmitted st₁ _ := hadm.kind
  obtain ⟨hsame, hleases⟩ : (SameTools st st₁ ∧ st₁.activeJobs = st.activeJobs ∧
      st₁.resultsByCandidate = st.resultsByCandidate) ∧
      ∀ k' acquired, st₁.activeLicenseLeases.get? k' = some acquired →
        st.activeLicenseLeases.get? k' = some acquired := by
    cases hlease : st.activeLicenseLeases.get? reserved.payload.invocationId with
    | none =>
      rw [hlease] at h₁
      cases h₁
      exact ⟨⟨.refl st, rfl, rfl⟩, fun _ _ hget => hget⟩
    | some acquired =>
      rw [hlease] at h₁
      obtain ⟨-, rfl⟩ := accepts_single.mp h₁
      refine ⟨⟨⟨rfl, rfl, rfl, rfl, rfl⟩, rfl, rfl⟩, fun k' acquired' hget => ?_⟩
      simp only [ReplayState.apply, ReplayState.effect, Dict.get?_erase] at hget
      split_ifs at hget
      exact hget
  obtain ⟨htools, hjobs, hresults⟩ := hsame
  refine ⟨⟨htools.interactions, htools.resolved, htools.reservations, fun k' hne => ?_,
    htools.writer, hjobs, hresults, ?_, fun reserved' hopen' => ?_, hleases⟩, fun e he => ?_⟩
  · rw [← htools.terminals]
    simp [ReplayState.apply, ReplayState.effect, toolLostEvent, hne]
  · simp [ReplayState.openDispatch, ReplayState.apply, ReplayState.effect, toolLostEvent]
  · rw [hopen, Option.some.injEq] at hopen'
    subst hopen'
    obtain ⟨_, hterminal⟩ := hk.terminal
    exact hterminal.custody
  · simp only [lostDispatchEvents, List.mem_append, List.mem_singleton] at he
    rcases he with he | rfl
    · cases hlease : st.activeLicenseLeases.get? reserved.payload.invocationId with
      | none =>
        rw [hlease] at he
        cases he
      | some acquired =>
        rw [hlease] at he
        obtain rfl := List.mem_singleton.mp he
        exact .invocationLease hpending (lease_jobId ht hlease)
    · exact .dispatch hpending

end

/-- Every accepted batch for a request closes it together with its dispatch and its lease. -/
lemma closesRequest_of_accepted (ht : st.Tracked) (hts : st.ToolsSound header)
    (hknown : name ∈ recoverableToolNames)
    (hidentity : ∀ reserved, st.participantToolReservations.get? k = some reserved →
      reserved.payload.invocationId = Canonical.participantToolInvocationId header.runId k)
    {closing : List RunEvent} {sequence' : Nat}
    (hclosing : closing = [] ∨ ∃ reserved, st.openDispatch k = some reserved ∧
      closing = lostDispatchEvents header timestamp eventIds sequence issued
        st.activeLicenseLeases reserved.payload)
    (h : foldSteps (replayStep header task) st (closing ++ [.interactionRecorded (toolResultEvent
      header sequence' eventId timestamp (recoveredResultId k name) k name)]) = .ok st') :
    ClosesRequest header st st' k name ∧
      ∀ e ∈ closing ++ [.interactionRecorded (toolResultEvent header sequence' eventId timestamp
        (recoveredResultId k name) k name)], Serves st.prior e := by
  simp only [foldSteps_append_eq_ok, accepts_single] at h
  obtain ⟨st₁, h₁, ⟨l, hadm⟩, rfl⟩ := h
  have hk : InteractionAdmitted st₁ _ := hadm.kind
  obtain ⟨hclosed, hserves⟩ : DispatchClosed st st₁ k ∧ ∀ e ∈ closing, Serves st.prior e := by
    rcases hclosing with rfl | ⟨reserved, hopen, rfl⟩
    · cases h₁
      exact ⟨dispatchClosed_none hts hk, by simp⟩
    · exact dispatchClosed_lost ht hopen h₁
  have hcloses := hclosed.closesRequest hknown hidentity hk
  refine ⟨hcloses, fun e he => ?_⟩
  rcases List.mem_append.mp he with he | he
  · exact hserves e he
  · obtain rfl := List.mem_singleton.mp he
    obtain ⟨request, hopen, -⟩ := hcloses.request
    exact .result ((ht.tools.table_iff _ _).mp hopen) rfl

end Requests

/-! ### Accepting a batch -/

section Progress

variable {header : RunHeader} {task : TaskSpec} {st : ReplayState} {timestamp : Datetime}
  {eventIds : Nat → UUID} {issued : Nat} {k name : Identifier}

/-- The run accepts events, and the identifiers from `issued` on are not in use. -/
structure ReadyFor (header : RunHeader) (eventIds : Nat → UUID) (issued : Nat)
    (st : ReplayState) : Prop where
  running : st.Running header
  unique : Function.Injective eventIds
  fresh : ∀ n, issued ≤ n → eventIds n ∉ st.prior.map fun e => e.base.eventId

section

omit [ToolIdentities]

lemma ReadyFor.accept (task : TaskSpec) (h : ReadyFor header eventIds issued st) (event : RunEvent)
    {producer : ProducerKind} {visibility : Visibility} (hp : producer ≠ .participant)
    (hbase : event.base =
      componentBase header st.prior.length (eventIds issued) timestamp producer visibility hp)
    (hproducer : validateEventProducer event = .ok ⟨⟩) (hstart : event.isRunStarted = false)
    (hinc : event.isIncarnationEvent = false) (hend : event.isRunEnded = false)
    (hkind : ∀ l, KindAdmitted header task l st event) :
    foldSteps (replayStep header task) st [event] = .ok (st.apply header event) ∧
      ReadyFor header eventIds (issued + 1) (st.apply header event) := by
  obtain ⟨l, henv, -⟩ := h.running.envelope
    (envelopeFits_component event hp (h.fresh issued le_rfl) hbase hproducer hstart)
  refine ⟨accepts_single.mpr ⟨⟨l, henv, hkind l⟩, rfl⟩, h.running.apply hinc hend, h.unique, ?_⟩
  intro n hn hmem
  rw [ReplayState.prior_apply, List.map_append, List.mem_append] at hmem
  rcases hmem with hmem | hmem
  · exact h.fresh n (by omega) hmem
  · rw [List.map_singleton, List.mem_singleton, hbase] at hmem
    have := h.unique hmem
    omega

/-- A job that is still active can be failed. -/
lemma ReadyFor.failJob (task : TaskSpec) (timestamp : Datetime)
    (h : ReadyFor header eventIds issued st)
    {state : JobStateKind} (hstate : st.jobStates.get? k = some state) {failed : List RunEvent}
    (hfailed : failed = if state.isTerminal then [] else [.jobStateChanged (jobFailedEvent header
      st.prior.length (eventIds issued) timestamp k (some "runner_restart"))]) :
    ∃ jobStates prior, foldSteps (replayStep header task) st failed =
        .ok { st with jobStates := jobStates, prior := prior } ∧
      ReadyFor header eventIds (issued + failed.length)
        { st with jobStates := jobStates, prior := prior } ∧
      prior.length = st.prior.length + failed.length ∧
      ∃ state', jobStates.get? k = some state' ∧ state'.isTerminal = true := by
  by_cases hterm : state.isTerminal = true
  · rw [if_pos hterm] at hfailed
    subst hfailed
    exact ⟨st.jobStates, st.prior, rfl, h, rfl, state, hstate, hterm⟩
  · rw [if_neg hterm] at hfailed
    subst hfailed
    have hallowed : JobStateKind.failed ∈ state.transitions := by
      cases state <;> first | decide | exact absurd rfl hterm
    obtain ⟨hacc, hready⟩ := h.accept task (.jobStateChanged (jobFailedEvent header
      st.prior.length (eventIds issued) timestamp k (some "runner_restart")))
      (by decide) rfl rfl rfl rfl rfl (fun _ => ⟨state, hstate, hallowed⟩)
    exact ⟨_, _, hacc, hready, by simp, .failed, Dict.get?_insert_self _ _ _, rfl⟩

/-- A lease that is still open can be lost. -/
lemma ReadyFor.loseLease (task : TaskSpec) (timestamp : Datetime)
    (h : ReadyFor header eventIds issued st)
    (hkey : ∀ a ∈ st.activeLicenseLeases.get? k, a.payload.jobId = k)
    (hlate : ∀ a ∈ st.activeLicenseLeases.get? k, a.timestamp ≤ timestamp)
    {lost : List RunEvent}
    (hlost : lost = (st.activeLicenseLeases.get? k).toList.map fun acquired =>
      .licenseLeaseLost (leaseLostEvent header st.prior.length (eventIds issued) timestamp
        acquired.payload)) :
    ∃ leases prior, foldSteps (replayStep header task) st lost =
        .ok { st with activeLicenseLeases := leases, prior := prior } ∧
      ReadyFor header eventIds (issued + lost.length)
        { st with activeLicenseLeases := leases, prior := prior } ∧
      prior.length = st.prior.length + lost.length ∧ k ∉ leases := by
  cases hlease : st.activeLicenseLeases.get? k with
  | none =>
    rw [hlease] at hlost
    subst hlost
    exact ⟨st.activeLicenseLeases, st.prior, rfl, h, rfl, Dict.get?_eq_none_iff.mp hlease⟩
  | some acquired =>
    rw [hlease] at hlost hlate hkey
    subst hlost
    obtain rfl := hkey acquired rfl
    obtain ⟨hacc, hready⟩ := h.accept task (.licenseLeaseLost (leaseLostEvent header
      st.prior.length (eventIds issued) timestamp acquired.payload))
      (by decide) rfl rfl rfl rfl rfl (fun _ => ⟨acquired, hlease, rfl, rfl, rfl, hlate _ rfl⟩)
    exact ⟨_, _, hacc, hready, by simp, by simp [ReplayState.effect, leaseLostEvent]⟩

/-- The batch of an open evaluation whose stage has no result is accepted. -/
lemma accept_evaluation (hst : replayLoop header task st.prior = .ok st)
    (h : ReadyFor header eventIds issued st) {started : EvaluationStartedEvent}
    (hactive : st.activeJobs.get? started.payload.jobId =
      some (started.payload.candidateId, started.payload.stageId))
    (hunresulted : ∀ r ∈ st.results started.payload.candidateId,
      r.stageId ≠ started.payload.stageId)
    {state : JobStateKind} (hstate : st.jobStates.get? started.payload.jobId = some state)
    (hlate : ∀ a ∈ st.activeLicenseLeases.get? started.payload.jobId, a.timestamp ≤ timestamp)
    {batch : List RunEvent}
    (hbatch : batch = interruptedEvaluationEvents header timestamp eventIds st.prior.length issued
      started state.isTerminal (st.activeLicenseLeases.get? started.payload.jobId)) :
    ∃ st', foldSteps (replayStep header task) st batch = .ok st' ∧
      ReadyFor header eventIds (issued + batch.length) st' := by
  have ht := replayLoop_tracked hst
  obtain ⟨hmem, hresultsReady⟩ := (replayLoop_jobsSound hst).ready _ _ _ hactive
  obtain ⟨results, hresults⟩ := Dict.mem_iff.mp hmem
  have hfail := hresultsReady.fail hunresulted
  rw [ReplayState.results_of_get? hresults] at hfail
  obtain ⟨failed, hfailed⟩ : ∃ failed : List RunEvent, failed = if state.isTerminal then [] else
    [.jobStateChanged (jobFailedEvent header st.prior.length (eventIds issued) timestamp
      started.payload.jobId (some "runner_restart"))] := ⟨_, rfl⟩
  obtain ⟨lost, hlost⟩ : ∃ lost : List RunEvent, lost =
    (st.activeLicenseLeases.get? started.payload.jobId).toList.map fun acquired =>
      .licenseLeaseLost (leaseLostEvent header (st.prior.length + failed.length)
        (eventIds (issued + failed.length)) timestamp acquired.payload) := ⟨_, rfl⟩
  obtain ⟨jobStates, prior₁, h₁, hready₁, hlen₁, state', hstate', hterm⟩ :=
    h.failJob task timestamp hstate hfailed
  obtain ⟨leases, prior₂, h₂, hready₂, hlen₂, -⟩ := hready₁.loseLease task timestamp
    (fun a ha => lease_jobId ht ha) hlate (hlost.trans (by rw [hlen₁]))
  have hlen : prior₂.length = st.prior.length + (failed.length + lost.length) := by
    rw [hlen₂, hlen₁, Nat.add_assoc]
  rw [Nat.add_assoc] at hready₂
  obtain ⟨hacc, hready⟩ := hready₂.accept task (.evaluationCompleted
    (evaluationFailedEvent header prior₂.length _ timestamp started.payload.jobId
      started.payload.candidateId started.payload.stageId started.visibility))
    (by decide) rfl rfl rfl rfl rfl
    (fun _ => ⟨hactive, ⟨state', hstate', hterm⟩, by simp [evaluationFailedEvent, failedResult],
      rfl, results, hresults, hfail⟩)
  rw [hlen] at hacc hready
  have heq : batch = failed ++ lost ++ [.evaluationCompleted (evaluationFailedEvent header
      (st.prior.length + (failed.length + lost.length))
      (eventIds (issued + (failed.length + lost.length))) timestamp started.payload.jobId
      started.payload.candidateId started.payload.stageId started.visibility)] := by
    rw [hbatch, hlost, hfailed]
    rfl
  have hrun := foldSteps_append_eq_ok.mpr ⟨_, foldSteps_append_eq_ok.mpr ⟨_, h₁, h₂⟩, hacc⟩
  rw [← heq] at hrun
  refine ⟨_, hrun, ?_⟩
  have hlength : issued + batch.length = issued + (failed.length + lost.length) + 1 := by
    simp [heq, Nat.add_assoc]
  rw [hlength]
  exact hready

end

/-- The batch of an open request that the recovery can answer is accepted. -/
lemma accept_request (ht : st.Tracked) (h : ReadyFor header eventIds issued st)
    {request : InteractionRecordedEvent}
    (hopen : st.openToolRequest k = some request)
    (hrec : RequestRecoverable header st k request name)
    (hlate : ∀ reserved, st.openDispatch k = some reserved → reserved.timestamp ≤ timestamp ∧
      ∀ a ∈ st.activeLicenseLeases.get? reserved.payload.invocationId, a.timestamp ≤ timestamp)
    {closing batch : List RunEvent}
    (hclosing : closing = match st.openDispatch k with
      | none => []
      | some reserved => lostDispatchEvents header timestamp eventIds st.prior.length issued
        st.activeLicenseLeases reserved.payload)
    (hbatch : batch = closing ++ [.interactionRecorded (toolResultEvent header
      (st.prior.length + closing.length) (eventIds (issued + closing.length)) timestamp
      (recoveredResultId k name) k name)]) :
    ∃ st', foldSteps (replayStep header task) st batch = .ok st' ∧
      ReadyFor header eventIds (issued + batch.length) st' := by
  obtain ⟨hunresolved, hget, hdir⟩ := openToolRequest_eq_some.mp hopen
  obtain ⟨leases, prior₁, terminals, h₁, hready₁, hlen₁, hclosed⟩ :
      ∃ leases prior₁ terminals, foldSteps (replayStep header task) st closing = .ok
          { st with activeLicenseLeases := leases, prior := prior₁,
                    participantToolTerminals := terminals } ∧
        ReadyFor header eventIds (issued + closing.length)
          { st with activeLicenseLeases := leases, prior := prior₁,
                    participantToolTerminals := terminals } ∧
        prior₁.length = st.prior.length + closing.length ∧
        (k ∈ st.participantToolReservations → k ∈ terminals) := by
    cases hdispatch : st.openDispatch k with
    | none =>
      rw [hdispatch] at hclosing
      subst hclosing
      refine ⟨st.activeLicenseLeases, st.prior, st.participantToolTerminals, rfl, h, rfl, ?_⟩
      intro hres
      obtain ⟨reserved, hreserved⟩ := Dict.mem_iff.mp hres
      by_contra hterm
      rw [openDispatch_eq_some.mpr ⟨hterm, hreserved⟩] at hdispatch
      cases hdispatch
    | some reserved =>
      rw [hdispatch] at hclosing
      obtain rfl := dispatch_requestId ht hdispatch
      obtain ⟨hterm, hreserved⟩ := openDispatch_eq_some.mp hdispatch
      obtain ⟨hordered, hleases⟩ := hlate reserved hdispatch
      obtain ⟨lost, hlost⟩ : ∃ lost : List RunEvent, lost =
        (st.activeLicenseLeases.get? reserved.payload.invocationId).toList.map fun lease =>
          .licenseLeaseLost (leaseLostEvent header st.prior.length (eventIds issued) timestamp
            lease.payload) := ⟨_, rfl⟩
      obtain ⟨leases, prior₁, h₁, hready₁, hlen₁, hcustody⟩ := h.loseLease task timestamp
        (fun a ha => lease_jobId ht ha) hleases hlost
      obtain ⟨hacc, hready⟩ := hready₁.accept task (.participantToolLost
        (toolLostEvent header prior₁.length _ timestamp reserved.payload))
        (by decide) rfl rfl rfl rfl rfl
        (fun _ => ⟨reserved, hreserved, hterm, hunresolved, rfl, rfl, hordered, hcustody⟩)
      rw [hlen₁] at hacc hready
      have heq : closing = lost ++ [.participantToolLost (toolLostEvent header
          (st.prior.length + lost.length) (eventIds (issued + lost.length)) timestamp
          reserved.payload)] := by
        rw [hclosing, hlost]
        rfl
      have hrun := foldSteps_append_eq_ok.mpr ⟨_, h₁, hacc⟩
      rw [← heq] at hrun
      refine ⟨_, _, _, hrun, ?_, ?_, ?_⟩
      · rw [heq, List.length_append]
        exact hready
      · simp [heq, hlen₁, Nat.add_assoc]
      · intro _
        exact Dict.mem_insert.mpr (Or.inl rfl)
  have hkind : InteractionAdmitted
      { st with activeLicenseLeases := leases, prior := prior₁,
                participantToolTerminals := terminals }
      (toolResultEvent header prior₁.length (eventIds (issued + closing.length)) timestamp
        (recoveredResultId k name) k name) := by
    refine ⟨hrec.fresh, by simp [toolResultEvent, componentBase], ?_⟩
    rintro _ ⟨⟩
    refine ⟨⟨request, hget, hdir, hrec.actor, hrec.tool⟩, hunresolved, ?_⟩
    rintro ⟨-, hres, hterm⟩
    exact hterm (hclosed hres)
  obtain ⟨hacc, hready⟩ := hready₁.accept task (.interactionRecorded (toolResultEvent header
    prior₁.length _ timestamp (recoveredResultId k name) k name))
    (by decide) rfl rfl rfl rfl rfl (fun _ => hkind)
  rw [hlen₁] at hacc hready
  have hrun := foldSteps_append_eq_ok.mpr ⟨_, h₁, hacc⟩
  rw [← hbatch] at hrun
  refine ⟨_, hrun, ?_⟩
  rw [hbatch, List.length_append]
  exact hready

end Progress

end EdaGym
