import EdaGym.Run.Replay

/-!
# What a replayed event may do

`replayStep` accepts an event exactly when the envelope checks and the checks of the event's own
kind hold, and its effect on the replay state is then the total function `ReplayState.apply`.
Every later invariant is derived from `replayStep_eq_ok_iff` and the projections of `apply`; no
handler is unfolded again.
-/

namespace EdaGym

variable [Canonical]

/-! ### The envelope -/

structure EnvelopeAdmitted (header : RunHeader) (st : ReplayState)
    (lifecycle : ParticipantIncarnationLifecycle) (event : RunEvent) : Prop where
  run : event.base.runId = header.runId
  sequence : event.base.sequence = st.prior.length
  fresh : event.base.eventId ∉ st.prior.map fun e => e.base.eventId
  live : st.terminalReason = none
  actor : ∀ actor ∈ event.base.actor, actor ∈ header.actorIds
  producer : validateEventProducer event = .ok ⟨⟩
  references : validateArtifactReferences event st.artifacts = .ok ⟨⟩
  position : validatePosition header st.prior.length event = .ok ⟨⟩
  lifecycle_eq : participantIncarnationLifecycle st.prior = .ok lifecycle
  incarnation_first : ¬ (st.prior.length = 1 ∧ header.binding.purpose ≠ .standard ∧
    event.isIncarnationStarted = false)
  restore_first : ¬ (lifecycle.pendingTermination.isSome ∧ event.isIncarnationRestored = false)

lemma validateEnvelope_eq_ok_iff {header : RunHeader} {st : ReplayState} {event : RunEvent}
    {lifecycle : ParticipantIncarnationLifecycle} :
    validateEnvelope header st event = .ok lifecycle ↔
      EnvelopeAdmitted header st lifecycle event := by
  simp only [validateEnvelope, bind_eq_ok, raiseIf_eq_ok, exists_const, pure_eq_ok, not_not]
  constructor
  · rintro ⟨h₁, h₂, h₃, h₄, h₅, _, h₆, _, h₇, _, h₈, l, h₉, h₁₀, h₁₁, rfl⟩
    refine ⟨h₁, h₂, h₃, h₄, ?_, h₆, h₇, h₈, h₉, h₁₀, h₁₁⟩
    intro actor hactor
    by_contra hn
    exact h₅ ⟨actor, hactor, hn⟩
  · intro h
    refine ⟨h.run, h.sequence, h.fresh, h.live, ?_, ⟨⟩, h.producer, ⟨⟩, h.references, ⟨⟩,
      h.position, lifecycle, h.lifecycle_eq, h.incarnation_first, h.restore_first, rfl⟩
    rintro ⟨actor, hactor, hn⟩
    exact hn (h.actor actor hactor)

/-! ### The checks of each kind -/

section Kinds

variable (header : RunHeader) (task : TaskSpec) (lifecycle : ParticipantIncarnationLifecycle)
  (st : ReplayState)

structure IncarnationStartedAdmitted (event : ParticipantIncarnationStartedEvent) : Prop where
  second : st.prior.length = 1
  chain : ∃ l, participantIncarnationLifecycle
    (st.prior ++ [.participantIncarnationStarted event]) = .ok l

/-- No work that another process could still finish. -/
structure ReplayState.Quiescent : Prop where
  jobs : st.activeJobs.isEmpty = true
  leases : st.activeLicenseLeases.isEmpty = true
  providers : ¬ st.HasUnsettledProviderRequest
  tools : ¬ st.HasUnresolvedToolRequest
  dispatches : ¬ st.HasOpenToolDispatch

structure IncarnationTerminatedAdmitted (event : ParticipantIncarnationTerminatedEvent) :
    Prop where
  active : lifecycle.activeIncarnation.map Canonical.participantIncarnation =
    some event.payload.incarnationDigest
  latest : st.checkpoints.getLast? = some event.payload.checkpointId
  manifest : (st.checkpointEvents.get? event.payload.checkpointId).map
    (fun committed => committed.payload.manifestDigest) =
      some event.payload.checkpointManifestDigest
  quiescent : st.Quiescent
  chain : ∃ l, participantIncarnationLifecycle
    (st.prior ++ [.participantIncarnationTerminated event]) = .ok l

structure IncarnationRestoredAdmitted (event : ParticipantIncarnationRestoredEvent) : Prop where
  pending : lifecycle.pendingTermination ≠ none
  manifest : (st.checkpointEvents.get? event.payload.checkpointId).map
    (fun committed => committed.payload.manifestDigest) =
      some event.payload.checkpointManifestDigest
  chain : ∃ l, participantIncarnationLifecycle
    (st.prior ++ [.participantIncarnationRestored event]) = .ok l

/-- The attestation all provider requests of a campaign run share. -/
def ProviderRequestStartedPayload.security (p : ProviderRequestStartedPayload) :
    Digest × Digest × ProviderSecurityBinding × Identifier :=
  (p.providerProfileDigest, p.providerConfigDigest, p.securityBinding,
    p.securityEvidenceArtifactId)

structure ProviderRequestAdmitted (event : ProviderRequestStartedEvent) : Prop where
  purpose : header.binding.purpose ≠ .syntheticPreflight
  route : header.harnessRoute? event.payload.actorId = some event.payload.requestedModel
  writer : event.payload.actorId = st.currentWriter
  tier : ∀ campaign ∈ header.binding.campaign,
    event.payload.requestedServiceTier = some campaign.serviceTier
  attestation : header.binding.campaign.isSome →
    ∀ security ∈ st.campaignProviderSecurity, event.payload.security = security
  fresh : event.payload.requestId ∉ st.providerRequests
  transcript : validateRequestTranscript event st.artifacts = .ok ⟨⟩

structure ProviderResponseAdmitted (event : ProviderResponseRecordedEvent) : Prop where
  request : ∃ request, st.providerRequests.get? event.payload.requestId = some request ∧
    request.status = none
  transcript : validateResponseTranscript event st.artifacts = .ok ⟨⟩

structure InteractionAdmitted (event : InteractionRecordedEvent) : Prop where
  fresh : event.payload.interactionId ∉ st.interactions
  writer : event.producer = .participant → event.actor = some st.currentWriter
  related : ∀ relatedId ∈ event.payload.relatedInteractionId,
    (∃ related ∈ st.interactions.get? relatedId, answersRequest st event related) ∧
    relatedId ∉ st.resolvedToolRequests ∧
    ¬ (event.payload.toolName = some EXECUTOR_PARTICIPANT_TOOL_NAME ∧
      relatedId ∈ st.participantToolReservations ∧ relatedId ∉ st.participantToolTerminals)

structure ToolReservedAdmitted (event : ParticipantToolReservedEvent) : Prop where
  request : ∃ request ∈ st.interactions.get? event.payload.requestInteractionId,
    request.payload.direction = .toolRequest ∧
    request.payload.toolName = some EXECUTOR_PARTICIPANT_TOOL_NAME
  unresolved : event.payload.requestInteractionId ∉ st.resolvedToolRequests
  fresh : event.payload.requestInteractionId ∉ st.participantToolReservations
  executor : event.payload.executorId = header.binding.environment.executorId
  budget : event.payload.budgetDigest = header.binding.session.budgetDigest
  operation : (header.binding.environment.participantOperations.filter fun operation =>
    operation.operationId = event.payload.operationId ∧
    operation.operationDigest = event.payload.operationDigest ∧
    operation.toolId = event.payload.toolId ∧
    operation.capability = event.payload.capability).length = 1
  tool : (header.binding.environment.tools.filter fun tool =>
    tool.toolId = event.payload.toolId ∧
    tool.capability = event.payload.capability).length = 1

/-- The checks shared by settled and lost facts about the reservation `reserved`. -/
structure ToolTerminalAdmitted (reserved : ParticipantToolReservedEvent)
    (requestInteractionId invocationId : Identifier) (invocationDigest : Digest)
    (timestamp : Datetime) : Prop where
  reservation : st.participantToolReservations.get? requestInteractionId = some reserved
  running : requestInteractionId ∉ st.participantToolTerminals
  unresolved : requestInteractionId ∉ st.resolvedToolRequests
  invocation : invocationId = reserved.payload.invocationId
  digest : invocationDigest = reserved.payload.invocationDigest
  ordered : reserved.timestamp ≤ timestamp
  custody : invocationId ∉ st.activeLicenseLeases

structure ToolSettledAdmitted (event : ParticipantToolSettledEvent) : Prop where
  terminal : ∃ reserved, ToolTerminalAdmitted st reserved event.payload.requestInteractionId
      event.payload.invocationId event.payload.invocationDigest event.timestamp ∧
    event.payload.operationId = reserved.payload.operationId ∧
    event.payload.operationDigest = reserved.payload.operationDigest ∧
    event.payload.inputManifestDigest = reserved.payload.inputManifestDigest ∧
    event.payload.elapsedMilliseconds ≤ reserved.payload.reservedComputeMilliseconds ∧
    event.payload.licenseMilliseconds ≤ reserved.payload.reservedLicenseMilliseconds
  evidence : ∃ artifact, st.artifacts.get? event.payload.evidenceArtifactId = some artifact ∧
    artifact.artifactClass = .evidence

structure ToolLostAdmitted (event : ParticipantToolLostEvent) : Prop where
  terminal : ∃ reserved, ToolTerminalAdmitted st reserved event.payload.requestInteractionId
    event.payload.invocationId event.payload.invocationDigest event.timestamp

structure ControlTransferredAdmitted (event : ControlTransferredEvent) : Prop where
  handoff : header.binding.session.handoffEnabled = true
  previous : event.payload.previousWriter = st.currentWriter
  next : event.payload.nextWriter ∈ header.actorIds
  actor : event.actor = some st.currentWriter

structure CandidateSubmittedAdmitted (event : CandidateSubmittedEvent) : Prop where
  actor : event.actor = some st.currentWriter
  fresh : event.payload.candidateId ∉ st.candidates
  parent : ∀ parent ∈ event.payload.parentCandidateId, parent ∈ st.candidates

structure EvaluationStartedAdmitted (started : EvaluationStartedPayload) : Prop where
  candidate : started.candidateId ∈ st.candidates
  unscored : started.candidateId ∉ st.scoring
  stage : started.stageId ∈ task.stageIds
  fresh : started.jobId ∉ st.jobStates
  eligible : ∃ results, st.resultsByCandidate.get? started.candidateId = some results ∧
    (∀ result ∈ results, result.stageId ≠ started.stageId) ∧
    ∃ eligibility, stageEligibility task results started.stageId = .ok eligibility ∧
      eligibility.state = .ready

structure JobStateChangedAdmitted (changed : JobStateChangedPayload) : Prop where
  allowed : ∃ previous, st.jobStates.get? changed.jobId = some previous ∧
    changed.state ∈ previous.transitions

structure EvaluationCompletedAdmitted (event : EvaluationCompletedEvent) : Prop where
  active : st.activeJobs.get? event.payload.jobId =
    some (event.payload.candidateId, event.payload.result.stageId)
  terminal : ∃ state, st.jobStates.get? event.payload.jobId = some state ∧ state.isTerminal = true
  evidence : ∀ evidence ∈ event.payload.result.evidence, evidence.artifactId ∈ event.artifactRefs
  provenance :
    validateMeasurementProvenance header task event.payload.result st.artifacts = .ok ⟨⟩
  results : ∃ results, st.resultsByCandidate.get? event.payload.candidateId = some results ∧
    ∃ validated, validateStageResults task (results ++ [event.payload.result]) = .ok validated

structure ScoringRecordedAdmitted (event : ScoringRecordedEvent) : Prop where
  candidate : event.payload.candidateId ∈ st.candidates
  unscored : event.payload.candidateId ∉ st.scoring
  settled : ∀ job ∈ st.activeJobs.values, job.1 ≠ event.payload.candidateId
  decision : ∃ results, st.resultsByCandidate.get? event.payload.candidateId = some results ∧
    validateScoringDecision header task results event.payload.decision = .ok ⟨⟩

structure LicenseDecisionAdmitted (fact : LicenseLeaseBindingPayload) : Prop where
  admitted : licenseAdmitted st fact
  undecided : fact.jobId ∉ st.licenseDecisions

structure LicenseClosedAdmitted (fact : LicenseLeaseBindingPayload) (timestamp : Datetime) :
    Prop where
  acquired : ∃ acquired, st.activeLicenseLeases.get? fact.jobId = some acquired ∧
    fact.licenseBindingId = acquired.payload.licenseBindingId ∧
    fact.providerId = acquired.payload.providerId ∧
    fact.featureClass = acquired.payload.featureClass ∧
    acquired.timestamp ≤ timestamp

structure CheckpointCommittedAdmitted (event : CheckpointCommittedEvent) : Prop where
  fresh : event.payload.checkpointId ∉ st.checkpoints
  parent : ∀ parent ∈ event.payload.parentCheckpointId, parent ∈ st.checkpoints
  artifact : ∃ reference, event.artifactRefs.head? = some reference ∧
    ∃ artifact, st.artifacts.get? reference = some artifact ∧
      artifact.artifactClass = .checkpoint

/-- What a verifier success asserts about its candidate. -/
structure SuccessAdmitted (candidateId : Identifier) : Prop where
  candidate : candidateId ∈ st.candidates
  gates : ∃ results, st.resultsByCandidate.get? candidateId = some results ∧
    ∃ gates, hardGateStatus task results = .ok gates ∧ gates.state = .succeeded
  scored : ∃ scored, st.scoring.get? candidateId = some scored ∧
    (scored.decision.eligibility.state = .ready ∨
      scored.decision.eligibility.state = .notConfigured)

structure RunEndedAdmitted (event : RunEndedEvent) : Prop where
  incarnation : header.binding.purpose ≠ .standard → lifecycle.activeIncarnation ≠ none
  writer : event.producer = .participant → event.actor = some st.currentWriter
  quiescent : st.Quiescent
  executor : ¬ st.HasActiveExecutorJob
  success : event.payload.reason = .verifierSuccess →
    ∃ candidateId, event.payload.successfulCandidateId = some candidateId ∧
      SuccessAdmitted task st candidateId

/-- The checks of the event's own kind. -/
def KindAdmitted : RunEvent → Prop
  | .runStarted _ => True
  | .participantIncarnationStarted event => IncarnationStartedAdmitted st event
  | .participantIncarnationTerminated event => IncarnationTerminatedAdmitted lifecycle st event
  | .participantIncarnationRestored event => IncarnationRestoredAdmitted lifecycle st event
  | .providerRequestStarted event => ProviderRequestAdmitted header st event
  | .providerResponseRecorded event => ProviderResponseAdmitted st event
  | .interactionRecorded event => InteractionAdmitted st event
  | .participantToolReserved event => ToolReservedAdmitted header st event
  | .participantToolSettled event => ToolSettledAdmitted st event
  | .participantToolLost event => ToolLostAdmitted st event
  | .controlTransferred event => ControlTransferredAdmitted header st event
  | .candidateSubmitted event => CandidateSubmittedAdmitted st event
  | .evaluationStarted event => EvaluationStartedAdmitted task st event.payload
  | .evaluationCompleted event => EvaluationCompletedAdmitted header task st event
  | .scoringRecorded event => ScoringRecordedAdmitted header task st event
  | .licenseLeaseAcquired event => LicenseDecisionAdmitted st event.payload
  | .licenseLeaseDenied event =>
    LicenseDecisionAdmitted st event.payload.toLicenseLeaseBindingPayload
  | .licenseLeaseLost event => LicenseClosedAdmitted st event.payload event.timestamp
  | .licenseLeaseReleased event => LicenseClosedAdmitted st event.payload event.timestamp
  | .artifactRecorded event => event.payload.record.logicalId ∉ st.artifacts
  | .checkpointCommitted event => CheckpointCommittedAdmitted st event
  | .jobStateChanged event => JobStateChangedAdmitted st event.payload
  | .policyDecision _ => True
  | .runEnded event => RunEndedAdmitted header task lifecycle st event

end Kinds

/-! ### The effect of an admitted event -/

def ProviderRequestState.respond (request : ProviderRequestState)
    (response : ProviderResponseRecordedPayload) : ProviderRequestState :=
  { request with
    providerReportedModel := some response.providerReportedModel
    providerReportedServiceTier := response.providerReportedServiceTier
    status := some response.status
    usage := response.usage }

namespace ReplayState

/-- The results recorded for a candidate. -/
def results (st : ReplayState) (candidateId : Identifier) : List StageResult :=
  (st.resultsByCandidate.get? candidateId).getD []

def effect (header : RunHeader) (st : ReplayState) : RunEvent → ReplayState
  | .runStarted _ | .participantIncarnationStarted _ | .participantIncarnationTerminated _
  | .participantIncarnationRestored _ | .policyDecision _ => st
  | .providerRequestStarted event =>
    { st with
      campaignProviderSecurity :=
        if header.binding.campaign.isSome then some event.payload.security
        else st.campaignProviderSecurity
      providerRequests :=
        st.providerRequests.insert event.payload.requestId event.payload.requestState }
  | .providerResponseRecorded event =>
    { st with
      providerRequests :=
        match st.providerRequests.get? event.payload.requestId with
        | none => st.providerRequests
        | some request =>
          st.providerRequests.insert event.payload.requestId (request.respond event.payload) }
  | .interactionRecorded event =>
    { st with
      resolvedToolRequests :=
        event.payload.relatedInteractionId.toList ++ st.resolvedToolRequests
      interactions := st.interactions.insert event.payload.interactionId event }
  | .participantToolReserved event =>
    { st with
      participantToolReservations :=
        st.participantToolReservations.insert event.payload.requestInteractionId event }
  | .participantToolSettled event =>
    { st with
      participantToolTerminals :=
        st.participantToolTerminals.insert event.payload.requestInteractionId (.settled event) }
  | .participantToolLost event =>
    { st with
      participantToolTerminals :=
        st.participantToolTerminals.insert event.payload.requestInteractionId (.lost event) }
  | .controlTransferred event => { st with currentWriter := event.payload.nextWriter }
  | .candidateSubmitted event =>
    { st with
      candidates := st.candidates.insert event.payload.candidateId
        { candidateId := event.payload.candidateId, digest := event.payload.candidateDigest,
          parentCandidateId := event.payload.parentCandidateId, actor := st.currentWriter }
      resultsByCandidate := st.resultsByCandidate.insert event.payload.candidateId [] }
  | .evaluationStarted event =>
    { st with
      activeJobs := st.activeJobs.insert event.payload.jobId
        (event.payload.candidateId, event.payload.stageId)
      jobStates := st.jobStates.insert event.payload.jobId .queued }
  | .evaluationCompleted event =>
    { st with
      resultsByCandidate := st.resultsByCandidate.insert event.payload.candidateId
        (st.results event.payload.candidateId ++ [event.payload.result])
      stageResults := st.stageResults ++
        [{ candidateId := event.payload.candidateId, result := event.payload.result }]
      activeJobs := st.activeJobs.erase event.payload.jobId }
  | .scoringRecorded event =>
    { st with
      scoring := st.scoring.insert event.payload.candidateId
        { candidateId := event.payload.candidateId, decision := event.payload.decision } }
  | .licenseLeaseAcquired event =>
    { st with
      licenseDecisions := event.payload.jobId :: st.licenseDecisions
      activeLicenseLeases := st.activeLicenseLeases.insert event.payload.jobId event }
  | .licenseLeaseDenied event =>
    { st with licenseDecisions := event.payload.jobId :: st.licenseDecisions }
  | .licenseLeaseLost event =>
    { st with activeLicenseLeases := st.activeLicenseLeases.erase event.payload.jobId }
  | .licenseLeaseReleased event =>
    { st with activeLicenseLeases := st.activeLicenseLeases.erase event.payload.jobId }
  | .artifactRecorded event =>
    { st with
      artifacts := st.artifacts.insert event.payload.record.logicalId event.payload.record }
  | .checkpointCommitted event =>
    { st with
      checkpoints := st.checkpoints ++ [event.payload.checkpointId]
      checkpointEvents := st.checkpointEvents.insert event.payload.checkpointId event }
  | .jobStateChanged event =>
    { st with jobStates := st.jobStates.insert event.payload.jobId event.payload.state }
  | .runEnded event =>
    { st with
      terminalReason := some event.payload.reason
      successfulCandidateId := event.payload.successfulCandidateId.or st.successfulCandidateId }

/-- The state after an admitted event. -/
def apply (header : RunHeader) (st : ReplayState) (event : RunEvent) : ReplayState :=
  { st.effect header event with prior := st.prior ++ [event] }

end ReplayState

/-! ### Inversion of the handlers -/

section Inversion

variable {header : RunHeader} {task : TaskSpec} {lifecycle : ParticipantIncarnationLifecycle}
  {st st' : ReplayState}

lemma validateQuiescent_eq_ok_iff :
    validateQuiescent st = .ok ⟨⟩ ↔ st.Quiescent ∧ ¬ st.HasActiveExecutorJob := by
  simp only [validateQuiescent, bind_eq_ok, raiseIf_eq_ok, exists_const, Bool.not_eq_false]
  constructor
  · rintro ⟨h₁, h₂, h₃, h₄, h₅, h₆⟩
    exact ⟨⟨h₁, h₃, h₄, h₅, h₆⟩, h₂⟩
  · rintro ⟨h, h'⟩
    exact ⟨h.jobs, h', h.leases, h.providers, h.tools, h.dispatches⟩

lemma onIncarnationStarted_eq_ok {event : ParticipantIncarnationStartedEvent} :
    onIncarnationStarted st event = .ok st' ↔
      IncarnationStartedAdmitted st event ∧ st' = st := by
  simp only [onIncarnationStarted, bind_eq_ok, raiseIf_eq_ok, exists_const, pure_eq_ok, not_not]
  constructor
  · rintro ⟨h, l, hl, rfl⟩
    exact ⟨⟨h, l, hl⟩, rfl⟩
  · rintro ⟨⟨h, l, hl⟩, rfl⟩
    exact ⟨h, l, hl, rfl⟩

lemma onIncarnationTerminated_eq_ok {event : ParticipantIncarnationTerminatedEvent} :
    onIncarnationTerminated lifecycle st event = .ok st' ↔
      IncarnationTerminatedAdmitted lifecycle st event ∧ st' = st := by
  simp only [onIncarnationTerminated, bind_eq_ok, raiseIf_eq_ok, exists_const, pure_eq_ok, not_not,
    not_or, Bool.not_eq_false]
  constructor
  · rintro ⟨h₁, ⟨h₂, h₃⟩, ⟨q₁, q₂, q₃, q₄, q₅⟩, l, hl, rfl⟩
    exact ⟨⟨h₁, h₂, h₃, ⟨q₁, q₂, q₃, q₄, q₅⟩, l, hl⟩, rfl⟩
  · rintro ⟨⟨h₁, h₂, h₃, ⟨q₁, q₂, q₃, q₄, q₅⟩, l, hl⟩, rfl⟩
    exact ⟨h₁, ⟨h₂, h₃⟩, ⟨q₁, q₂, q₃, q₄, q₅⟩, l, hl, rfl⟩

lemma onIncarnationRestored_eq_ok {event : ParticipantIncarnationRestoredEvent} :
    onIncarnationRestored lifecycle st event = .ok st' ↔
      IncarnationRestoredAdmitted lifecycle st event ∧ st' = st := by
  simp only [onIncarnationRestored, bind_eq_ok, raiseIf_eq_ok, exists_const, pure_eq_ok, not_not,
    not_or]
  constructor
  · rintro ⟨⟨h₁, h₂⟩, l, hl, rfl⟩
    exact ⟨⟨h₁, h₂, l, hl⟩, rfl⟩
  · rintro ⟨⟨h₁, h₂, l, hl⟩, rfl⟩
    exact ⟨⟨h₁, h₂⟩, l, hl, rfl⟩

lemma onProviderRequestStarted_eq_ok {event : ProviderRequestStartedEvent} :
    onProviderRequestStarted header st event = .ok st' ↔
      ProviderRequestAdmitted header st event ∧
        st' = st.effect header (.providerRequestStarted event) := by
  simp only [onProviderRequestStarted, bind_eq_ok, raiseIf_eq_ok, exists_const, orRaise_eq_ok,
    pure_eq_ok, not_not]
  constructor
  · rintro ⟨h₁, route, h₂, h₃, h₄, h₅, h₆, h₇, _, h₈, rfl⟩
    refine ⟨⟨h₁, ?_, h₃, ?_, ?_, h₇, h₈⟩, rfl⟩
    · rw [h₂, h₄]
    · intro campaign hc
      by_contra hn
      exact h₅ ⟨campaign, hc, hn⟩
    · intro hc security hs
      by_contra hn
      exact h₆ ⟨hc, security, hs, hn⟩
  · rintro ⟨h, rfl⟩
    refine ⟨h.purpose, _, h.route, h.writer, rfl, ?_, ?_, h.fresh, ⟨⟩, h.transcript, rfl⟩
    · rintro ⟨campaign, hc, hn⟩
      exact hn (h.tier campaign hc)
    · rintro ⟨hc, security, hs, hn⟩
      exact hn (h.attestation hc security hs)

lemma onProviderResponseRecorded_eq_ok {event : ProviderResponseRecordedEvent} :
    onProviderResponseRecorded st event = .ok st' ↔
      ProviderResponseAdmitted st event ∧
        st' = st.effect header (.providerResponseRecorded event) := by
  simp only [onProviderResponseRecorded, bind_eq_ok, raiseIf_eq_ok, exists_const, orRaise_eq_ok,
    pure_eq_ok, not_not]
  constructor
  · rintro ⟨request, h₁, h₂, _, h₃, rfl⟩
    refine ⟨⟨⟨request, h₁, h₂⟩, h₃⟩, ?_⟩
    simp only [ReplayState.effect, h₁]
    rfl
  · rintro ⟨⟨⟨request, h₁, h₂⟩, h₃⟩, rfl⟩
    refine ⟨request, h₁, h₂, ⟨⟩, h₃, ?_⟩
    simp only [ReplayState.effect, h₁]
    rfl

lemma onInteractionRecorded_eq_ok {event : InteractionRecordedEvent} :
    onInteractionRecorded st event = .ok st' ↔
      InteractionAdmitted st event ∧ st' = st.effect header (.interactionRecorded event) := by
  simp only [onInteractionRecorded, bind_eq_ok, raiseIf_eq_ok, exists_const]
  constructor
  · rintro ⟨h₁, h₂, h₃⟩
    have hwriter : event.producer = .participant → event.actor = some st.currentWriter := by
      intro hp
      by_contra hn
      exact h₂ ⟨hp, hn⟩
    cases hrel : event.payload.relatedInteractionId with
    | none =>
      simp only [hrel, pure_eq_ok] at h₃
      refine ⟨⟨h₁, hwriter, by simp [hrel]⟩, ?_⟩
      simp [← h₃, ReplayState.effect, hrel]
    | some relatedId =>
      simp only [hrel, bind_eq_ok, raiseIf_eq_ok, exists_const, pure_eq_ok, not_not] at h₃
      obtain ⟨h₃, h₄, h₅, rfl⟩ := h₃
      refine ⟨⟨h₁, hwriter, ?_⟩, ?_⟩
      · intro r hr
        rw [hrel, Option.mem_def, Option.some.injEq] at hr
        subst hr
        exact ⟨h₃, h₄, h₅⟩
      · simp [ReplayState.effect, hrel]
  · rintro ⟨⟨h₁, h₂, h₃⟩, rfl⟩
    refine ⟨h₁, fun h => h.2 (h₂ h.1), ?_⟩
    cases hrel : event.payload.relatedInteractionId with
    | none => simp [ReplayState.effect, hrel]
    | some relatedId =>
      obtain ⟨h₃, h₄, h₅⟩ := h₃ relatedId (by simp [hrel])
      simp only [bind_eq_ok, raiseIf_eq_ok, exists_const, pure_eq_ok, not_not]
      exact ⟨h₃, h₄, h₅, by simp [ReplayState.effect, hrel]⟩

lemma onParticipantToolReserved_eq_ok {event : ParticipantToolReservedEvent} :
    onParticipantToolReserved header st event = .ok st' ↔
      ToolReservedAdmitted header st event ∧
        st' = st.effect header (.participantToolReserved event) := by
  simp only [onParticipantToolReserved, bind_eq_ok, raiseIf_eq_ok, exists_const, pure_eq_ok,
    not_not, not_or]
  constructor
  · rintro ⟨⟨h₁, h₂⟩, h₃, h₄, h₅, h₆, h₇, rfl⟩
    exact ⟨⟨h₁, h₂, h₃, h₄, h₅, h₆, h₇⟩, rfl⟩
  · rintro ⟨h, rfl⟩
    exact ⟨⟨h.request, h.unresolved⟩, h.fresh, h.executor, h.budget, h.operation, h.tool, rfl⟩

lemma validateToolTerminal_eq_ok {requestInteractionId invocationId : Identifier}
    {invocationDigest : Digest} {timestamp : Datetime}
    {reservation : ParticipantToolReservedPayload} :
    validateToolTerminal st requestInteractionId invocationId invocationDigest timestamp =
        .ok reservation ↔
      ∃ reserved, ToolTerminalAdmitted st reserved requestInteractionId invocationId
        invocationDigest timestamp ∧ reserved.payload = reservation := by
  simp only [validateToolTerminal, bind_eq_ok, raiseIf_eq_ok, exists_const, orRaise_eq_ok,
    pure_eq_ok, not_not, not_or, Int.not_lt]
  constructor
  · rintro ⟨reserved, h₁, h₂, ⟨h₃, h₄, h₅⟩, h₆, h₇, h₈⟩
    exact ⟨reserved, ⟨h₁, h₂, h₃, h₄, h₅, h₆, h₇⟩, h₈⟩
  · rintro ⟨reserved, ⟨h₁, h₂, h₃, h₄, h₅, h₆, h₇⟩, h₈⟩
    exact ⟨reserved, h₁, h₂, ⟨h₃, h₄, h₅⟩, h₆, h₇, h₈⟩

lemma onParticipantToolSettled_eq_ok {event : ParticipantToolSettledEvent} :
    onParticipantToolSettled st event = .ok st' ↔
      ToolSettledAdmitted st event ∧
        st' = st.effect header (.participantToolSettled event) := by
  simp only [onParticipantToolSettled, bind_eq_ok, raiseIf_eq_ok, exists_const, orRaise_eq_ok,
    pure_eq_ok, validateToolTerminal_eq_ok, not_not, not_or, Nat.not_lt]
  constructor
  · rintro ⟨_, ⟨reserved, h, rfl⟩, ⟨h₁, h₂, h₃⟩, ⟨h₄, h₅⟩, artifact, h₆, h₇, rfl⟩
    exact ⟨⟨⟨reserved, h, h₁, h₂, h₃, h₄, h₅⟩, artifact, h₆, h₇⟩, rfl⟩
  · rintro ⟨⟨⟨reserved, h, h₁, h₂, h₃, h₄, h₅⟩, artifact, h₆, h₇⟩, rfl⟩
    exact ⟨_, ⟨reserved, h, rfl⟩, ⟨h₁, h₂, h₃⟩, ⟨h₄, h₅⟩, artifact, h₆, h₇, rfl⟩

lemma onParticipantToolLost_eq_ok {event : ParticipantToolLostEvent} :
    onParticipantToolLost st event = .ok st' ↔
      ToolLostAdmitted st event ∧ st' = st.effect header (.participantToolLost event) := by
  simp only [onParticipantToolLost, bind_eq_ok, pure_eq_ok, validateToolTerminal_eq_ok]
  constructor
  · rintro ⟨_, ⟨reserved, h, -⟩, rfl⟩
    exact ⟨⟨reserved, h⟩, rfl⟩
  · rintro ⟨⟨reserved, h⟩, rfl⟩
    exact ⟨_, ⟨reserved, h, rfl⟩, rfl⟩

lemma onControlTransferred_eq_ok {event : ControlTransferredEvent} :
    onControlTransferred header st event = .ok st' ↔
      ControlTransferredAdmitted header st event ∧
        st' = st.effect header (.controlTransferred event) := by
  simp only [onControlTransferred, bind_eq_ok, raiseIf_eq_ok, exists_const, pure_eq_ok, not_not,
    Bool.not_eq_false]
  constructor
  · rintro ⟨h₁, h₂, h₃, h₄, rfl⟩
    exact ⟨⟨h₁, h₂, h₃, h₄⟩, rfl⟩
  · rintro ⟨h, rfl⟩
    exact ⟨h.handoff, h.previous, h.next, h.actor, rfl⟩

lemma onCandidateSubmitted_eq_ok {event : CandidateSubmittedEvent} :
    onCandidateSubmitted st event = .ok st' ↔
      CandidateSubmittedAdmitted st event ∧
        st' = st.effect header (.candidateSubmitted event) := by
  simp only [onCandidateSubmitted, bind_eq_ok, raiseIf_eq_ok, exists_const, pure_eq_ok, not_not]
  constructor
  · rintro ⟨h₁, h₂, h₃, rfl⟩
    refine ⟨⟨h₁, h₂, ?_⟩, rfl⟩
    intro parent hp
    by_contra hn
    exact h₃ ⟨parent, hp, hn⟩
  · rintro ⟨h, rfl⟩
    refine ⟨h.actor, h.fresh, ?_, rfl⟩
    rintro ⟨parent, hp, hn⟩
    exact hn (h.parent parent hp)

lemma onEvaluationStarted_eq_ok {event : EvaluationStartedEvent} :
    onEvaluationStarted task st event = .ok st' ↔
      EvaluationStartedAdmitted task st event.payload ∧
        st' = st.effect header (.evaluationStarted event) := by
  simp only [onEvaluationStarted, bind_eq_ok, raiseIf_eq_ok, exists_const, orRaise_eq_ok,
    Except.mapError_eq_ok_iff, pure_eq_ok, not_not]
  constructor
  · rintro ⟨h₁, h₂, h₃, h₄, results, h₅, h₆, eligibility, h₇, h₈, rfl⟩
    refine ⟨⟨h₁, h₂, h₃, h₄, results, h₅, ?_, eligibility, h₇, h₈⟩, rfl⟩
    intro result hr hs
    exact h₆ ⟨result, hr, hs⟩
  · rintro ⟨⟨h₁, h₂, h₃, h₄, results, h₅, h₆, eligibility, h₇, h₈⟩, rfl⟩
    refine ⟨h₁, h₂, h₃, h₄, results, h₅, ?_, eligibility, h₇, h₈, rfl⟩
    rintro ⟨result, hr, hs⟩
    exact h₆ result hr hs

lemma onJobStateChanged_eq_ok {event : JobStateChangedEvent} :
    onJobStateChanged st event = .ok st' ↔
      JobStateChangedAdmitted st event.payload ∧
        st' = st.effect header (.jobStateChanged event) := by
  simp only [onJobStateChanged, bind_eq_ok, raiseIf_eq_ok, exists_const, orRaise_eq_ok, pure_eq_ok,
    not_not]
  constructor
  · rintro ⟨previous, h₁, h₂, rfl⟩
    exact ⟨⟨previous, h₁, h₂⟩, rfl⟩
  · rintro ⟨⟨previous, h₁, h₂⟩, rfl⟩
    exact ⟨previous, h₁, h₂, rfl⟩

lemma onEvaluationCompleted_eq_ok {event : EvaluationCompletedEvent} :
    onEvaluationCompleted header task st event = .ok st' ↔
      EvaluationCompletedAdmitted header task st event ∧
        st' = st.effect header (.evaluationCompleted event) := by
  simp only [onEvaluationCompleted, bind_eq_ok, raiseIf_eq_ok, exists_const, orRaise_eq_ok,
    Except.mapError_eq_ok_iff, pure_eq_ok, not_not, Bool.not_eq_false]
  constructor
  · rintro ⟨_, h₁, rfl, state, h₂, h₃, h₄, _, h₅, results, h₆, validated, h₇, rfl⟩
    refine ⟨⟨h₁, ⟨state, h₂, h₃⟩, ?_, h₅, results, h₆, validated, h₇⟩, ?_⟩
    · intro evidence he
      by_contra hn
      exact h₄ ⟨evidence, he, hn⟩
    · simp [ReplayState.effect, ReplayState.results, h₆]
  · rintro ⟨⟨h₁, ⟨state, h₂, h₃⟩, h₄, h₅, results, h₆, validated, h₇⟩, rfl⟩
    refine ⟨_, h₁, rfl, state, h₂, h₃, ?_, ⟨⟩, h₅, results, h₆, validated, h₇, ?_⟩
    · rintro ⟨evidence, he, hn⟩
      exact hn (h₄ evidence he)
    · simp [ReplayState.effect, ReplayState.results, h₆]

lemma onScoringRecorded_eq_ok {event : ScoringRecordedEvent} :
    onScoringRecorded header task st event = .ok st' ↔
      ScoringRecordedAdmitted header task st event ∧
        st' = st.effect header (.scoringRecorded event) := by
  simp only [onScoringRecorded, bind_eq_ok, raiseIf_eq_ok, exists_const, orRaise_eq_ok, pure_eq_ok,
    not_not]
  constructor
  · rintro ⟨h₁, h₂, h₃, results, h₄, _, h₅, rfl⟩
    refine ⟨⟨h₁, h₂, ?_, results, h₄, h₅⟩, rfl⟩
    intro job hj hc
    exact h₃ ⟨job, hj, hc⟩
  · rintro ⟨⟨h₁, h₂, h₃, results, h₄, h₅⟩, rfl⟩
    refine ⟨h₁, h₂, ?_, results, h₄, ⟨⟩, h₅, rfl⟩
    rintro ⟨job, hj, hc⟩
    exact h₃ job hj hc

lemma validateLicenseDecision_eq_ok {fact : LicenseLeaseBindingPayload} :
    validateLicenseDecision st fact = .ok ⟨⟩ ↔ LicenseDecisionAdmitted st fact := by
  simp only [validateLicenseDecision, bind_eq_ok, raiseIf_eq_ok, exists_const, not_not]
  exact ⟨fun h => ⟨h.1, h.2⟩, fun h => ⟨h.admitted, h.undecided⟩⟩

lemma onLicenseLeaseClosed_eq_ok {fact : LicenseLeaseBindingPayload} {timestamp : Datetime} :
    onLicenseLeaseClosed st fact timestamp = .ok st' ↔
      LicenseClosedAdmitted st fact timestamp ∧
        st' = { st with activeLicenseLeases := st.activeLicenseLeases.erase fact.jobId } := by
  simp only [onLicenseLeaseClosed, bind_eq_ok, raiseIf_eq_ok, exists_const, orRaise_eq_ok,
    pure_eq_ok, not_not, not_or, Int.not_lt]
  constructor
  · rintro ⟨acquired, h₁, ⟨h₂, h₃, h₄⟩, h₅, rfl⟩
    exact ⟨⟨acquired, h₁, h₂, h₃, h₄, h₅⟩, rfl⟩
  · rintro ⟨⟨acquired, h₁, h₂, h₃, h₄, h₅⟩, rfl⟩
    exact ⟨acquired, h₁, ⟨h₂, h₃, h₄⟩, h₅, rfl⟩

lemma onCheckpointCommitted_eq_ok {event : CheckpointCommittedEvent} :
    onCheckpointCommitted st event = .ok st' ↔
      CheckpointCommittedAdmitted st event ∧
        st' = st.effect header (.checkpointCommitted event) := by
  simp only [onCheckpointCommitted, bind_eq_ok, raiseIf_eq_ok, exists_const, orRaise_eq_ok,
    pure_eq_ok, not_not]
  constructor
  · rintro ⟨h₁, h₂, reference, h₃, artifact, h₄, h₅, rfl⟩
    refine ⟨⟨h₁, ?_, reference, h₃, artifact, h₄, h₅⟩, rfl⟩
    intro parent hp
    by_contra hn
    exact h₂ ⟨parent, hp, hn⟩
  · rintro ⟨⟨h₁, h₂, reference, h₃, artifact, h₄, h₅⟩, rfl⟩
    refine ⟨h₁, ?_, reference, h₃, artifact, h₄, h₅, rfl⟩
    rintro ⟨parent, hp, hn⟩
    exact hn (h₂ parent hp)

lemma validateSuccess_eq_ok {payload : RunEndedPayload} {candidateId : Identifier} :
    validateSuccess task st payload = .ok candidateId ↔
      payload.successfulCandidateId = some candidateId ∧ SuccessAdmitted task st candidateId := by
  simp only [validateSuccess, bind_eq_ok, raiseIf_eq_ok, exists_const, orRaise_eq_ok,
    Except.mapError_eq_ok_iff, pure_eq_ok, not_not, Option.filter_eq_some_iff, decide_eq_true_eq,
    not_and_or]
  constructor
  · rintro ⟨c, ⟨h₁, h₂⟩, results, h₃, gates, h₄, h₅, scored, h₆, h₇, rfl⟩
    exact ⟨h₁, h₂, ⟨results, h₃, gates, h₄, h₅⟩, scored, h₆, h₇⟩
  · rintro ⟨h₁, h₂, ⟨results, h₃, gates, h₄, h₅⟩, scored, h₆, h₇⟩
    exact ⟨candidateId, ⟨h₁, h₂⟩, results, h₃, gates, h₄, h₅, scored, h₆, h₇, rfl⟩

lemma onRunEnded_eq_ok {event : RunEndedEvent} :
    onRunEnded header task lifecycle st event = .ok st' ↔
      RunEndedAdmitted header task lifecycle st event ∧
        st' = st.effect header (.runEnded event) := by
  have hiff := event.payload.success_iff
  simp only [onRunEnded, bind_eq_ok, raiseIf_eq_ok, exists_const]
  constructor
  · rintro ⟨h₁, h₂, _, h₃, h₄⟩
    obtain ⟨hq, hx⟩ := validateQuiescent_eq_ok_iff.mp h₃
    have hinc : header.binding.purpose ≠ .standard → lifecycle.activeIncarnation ≠ none :=
      fun hp hn => h₁ ⟨hp, hn⟩
    have hwriter : event.producer = .participant → event.actor = some st.currentWriter := by
      intro hp
      by_contra hn
      exact h₂ ⟨hp, hn⟩
    by_cases hs : event.payload.reason = .verifierSuccess
    · simp only [hs, if_true, bind_eq_ok, validateSuccess_eq_ok, pure_eq_ok] at h₄
      obtain ⟨candidateId, ⟨hc, hsucc⟩, rfl⟩ := h₄
      exact ⟨⟨hinc, hwriter, hq, hx, fun _ => ⟨candidateId, hc, hsucc⟩⟩,
        by simp [ReplayState.effect, hc, hs]⟩
    · have hnone : event.payload.successfulCandidateId = none := by
        simpa using mt hiff.mpr hs
      simp only [hs, if_false, pure_eq_ok] at h₄
      exact ⟨⟨hinc, hwriter, hq, hx, fun h => absurd h hs⟩,
        by simp [ReplayState.effect, hnone, ← h₄]⟩
  · rintro ⟨h, rfl⟩
    refine ⟨fun hn => h.incarnation hn.1 hn.2, fun hn => hn.2 (h.writer hn.1), ⟨⟩,
      validateQuiescent_eq_ok_iff.mpr ⟨h.quiescent, h.executor⟩, ?_⟩
    by_cases hs : event.payload.reason = .verifierSuccess
    · obtain ⟨candidateId, hc, hsucc⟩ := h.success hs
      simp only [hs, if_true, bind_eq_ok, validateSuccess_eq_ok, pure_eq_ok]
      exact ⟨candidateId, ⟨hc, hsucc⟩, by simp [ReplayState.effect, hc, hs]⟩
    · have hnone : event.payload.successfulCandidateId = none := by
        simpa using mt hiff.mpr hs
      simp only [hs, if_false, pure_eq_ok]
      simp [ReplayState.effect, hnone]

theorem handleEvent_eq_ok_iff {event : RunEvent} :
    handleEvent header task lifecycle st event = .ok st' ↔
      KindAdmitted header task lifecycle st event ∧ st' = st.effect header event := by
  cases event with
  | runStarted event => simp [handleEvent, KindAdmitted, ReplayState.effect, eq_comm]
  | policyDecision event => simp [handleEvent, KindAdmitted, ReplayState.effect, eq_comm]
  | participantIncarnationStarted event => exact onIncarnationStarted_eq_ok
  | participantIncarnationTerminated event => exact onIncarnationTerminated_eq_ok
  | participantIncarnationRestored event => exact onIncarnationRestored_eq_ok
  | providerRequestStarted event => exact onProviderRequestStarted_eq_ok
  | providerResponseRecorded event => exact onProviderResponseRecorded_eq_ok
  | interactionRecorded event => exact onInteractionRecorded_eq_ok
  | participantToolReserved event => exact onParticipantToolReserved_eq_ok
  | participantToolSettled event => exact onParticipantToolSettled_eq_ok
  | participantToolLost event => exact onParticipantToolLost_eq_ok
  | controlTransferred event => exact onControlTransferred_eq_ok
  | candidateSubmitted event => exact onCandidateSubmitted_eq_ok
  | evaluationStarted event => exact onEvaluationStarted_eq_ok
  | evaluationCompleted event => exact onEvaluationCompleted_eq_ok
  | scoringRecorded event => exact onScoringRecorded_eq_ok
  | licenseLeaseAcquired event =>
    simp only [handleEvent, onLicenseLeaseAcquired, bind_eq_ok, pure_eq_ok]
    exact ⟨fun h => h.elim fun _ h => ⟨validateLicenseDecision_eq_ok.mp h.1, h.2.symm⟩,
      fun h => ⟨⟨⟩, validateLicenseDecision_eq_ok.mpr h.1, h.2.symm⟩⟩
  | licenseLeaseDenied event =>
    simp only [handleEvent, onLicenseLeaseDenied, bind_eq_ok, pure_eq_ok]
    exact ⟨fun h => h.elim fun _ h => ⟨validateLicenseDecision_eq_ok.mp h.1, h.2.symm⟩,
      fun h => ⟨⟨⟩, validateLicenseDecision_eq_ok.mpr h.1, h.2.symm⟩⟩
  | licenseLeaseLost event => exact onLicenseLeaseClosed_eq_ok
  | licenseLeaseReleased event => exact onLicenseLeaseClosed_eq_ok
  | artifactRecorded event =>
    simp only [handleEvent, onArtifactRecorded, bind_eq_ok, raiseIf_eq_ok, exists_const, pure_eq_ok,
      KindAdmitted]
    exact and_congr_right fun _ => eq_comm
  | checkpointCommitted event => exact onCheckpointCommitted_eq_ok
  | jobStateChanged event => exact onJobStateChanged_eq_ok
  | runEnded event => exact onRunEnded_eq_ok

/-- The whole of what one step of the replay can do. -/
structure Admitted (header : RunHeader) (task : TaskSpec) (st : ReplayState) (event : RunEvent)
    (lifecycle : ParticipantIncarnationLifecycle) : Prop where
  envelope : EnvelopeAdmitted header st lifecycle event
  kind : KindAdmitted header task lifecycle st event

theorem replayStep_eq_ok_iff {event : RunEvent} :
    replayStep header task st event = .ok st' ↔
      (∃ lifecycle, Admitted header task st event lifecycle) ∧ st' = st.apply header event := by
  simp only [replayStep, bind_eq_ok, validateEnvelope_eq_ok_iff, handleEvent_eq_ok_iff, pure_eq_ok]
  constructor
  · rintro ⟨lifecycle, henv, _, ⟨hkind, rfl⟩, rfl⟩
    exact ⟨⟨lifecycle, henv, hkind⟩, rfl⟩
  · rintro ⟨⟨lifecycle, henv, hkind⟩, rfl⟩
    exact ⟨lifecycle, henv, _, ⟨hkind, rfl⟩, rfl⟩

end Inversion

end EdaGym
