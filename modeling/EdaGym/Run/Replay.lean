import EdaGym.Run.Model

/-!
# Deterministic state replay of the run journal

`replay` folds `replayStep` over the journal. A step makes the checks common to all events, then
the checks of the event's own kind, and returns the updated maps.
-/

namespace EdaGym

variable [Canonical]

/-- How a participant's channel failed. -/
inductive ParticipantFailureKind
  | responseBound | invalidIntent | actorMismatch | channelFailure | commandCancelled | commandExit
  | commandTimeout | toolBudget | wallBudget | edaComputeBudget | licenseBudget
  | providerBudgetOverrun | endOfInput | candidateSnapshot
deriving DecidableEq, Repr

inductive JournalError
  | corruption (message : String)
  | eventConflict (message : String)
  | invalidTransition (message : String)
  | valueError (message : String)
  | arithmeticError (message : String)
  | lookupError (message : String)
  | osError (message : String)
  | recoveryError (message : String)
  | adapterError (kind : ParticipantFailureKind)
  | outOfFuel
deriving DecidableEq, Repr

def SANITIZED_MEASUREMENTS_MEDIA_TYPE : MediaType := "application/vnd.edagym.measurements+json"

def PROVIDER_TRANSCRIPT_MEDIA_TYPE : MediaType :=
  "application/vnd.edagym.provider-transcript+json"

def PROVIDER_CANARY_EVIDENCE_MEDIA_TYPE : MediaType :=
  "application/vnd.edagym.provider-canary-evidence+json"

def EXECUTOR_PARTICIPANT_TOOL_NAME : Identifier := "edagym_run_tool"

def JobStateKind.isTerminal : JobStateKind → Bool
  | .completed | .failed | .cancelled => true
  | .queued | .running | .checkpointing => false

/-- The allowed successors of a job state. -/
def JobStateKind.transitions : JobStateKind → List JobStateKind
  | .queued => [.running, .failed, .cancelled]
  | .running => [.checkpointing, .completed, .failed, .cancelled]
  | .checkpointing => [.running, .completed, .failed, .cancelled]
  | .completed | .failed | .cancelled => []

/-! ### Projections of a journal prefix -/

/-- Tool requests without a corresponding tool result. -/
def unresolvedToolRequests (events : List RunEvent) (toolName : Option Identifier := none) :
    List InteractionRecordedEvent :=
  let interactions := events.filterMap fun
    | .interactionRecorded event => some event
    | _ => none
  let resolved := (interactions.filter fun e => e.payload.direction = .toolResult).filterMap
    fun e => e.payload.relatedInteractionId
  interactions.filter fun e =>
    e.payload.direction = .toolRequest ∧ e.payload.interactionId ∉ resolved ∧
      (toolName = none ∨ e.payload.toolName = toolName)

/-- The dictionaries `reservations` and `terminals` of the dispatch projection. -/
structure DispatchScan where
  reservations : Dict Identifier ParticipantToolReservedEvent := Dict.empty
  terminals : Dict Identifier ParticipantToolTerminal := Dict.empty

def DispatchScan.close (scan : DispatchScan) (requestId : Identifier)
    (terminal : ParticipantToolTerminal) : Except JournalError DispatchScan := do
  raiseIf (requestId ∉ scan.reservations)
    (.invalidTransition "participant tool terminal fact has no reservation")
  raiseIf (requestId ∈ scan.terminals)
    (.invalidTransition "participant tool reservation is already terminal")
  return { scan with terminals := scan.terminals.insert requestId terminal }

def dispatchStep (scan : DispatchScan) : RunEvent → Except JournalError DispatchScan
  | .participantToolReserved event => do
    let requestId := event.payload.requestInteractionId
    raiseIf (requestId ∈ scan.reservations)
      (.invalidTransition "participant tool request is already reserved")
    return { scan with reservations := scan.reservations.insert requestId event }
  | .participantToolSettled event => scan.close event.payload.requestInteractionId (.settled event)
  | .participantToolLost event => scan.close event.payload.requestInteractionId (.lost event)
  | _ => .ok scan

/-- Participant executor lifecycles, keyed by request in the order of reservation. -/
def participantToolDispatches (events : List RunEvent) :
    Except JournalError (List (Identifier × ParticipantToolDispatch)) := do
  let scan ← foldSteps dispatchStep {} events
  return scan.reservations.entries.map fun (requestId, reservation) =>
    (requestId, { reservation, terminal := scan.terminals.get? requestId })

def ParticipantToolDispatch.computeMilliseconds (dispatch : ParticipantToolDispatch) : Nat :=
  match dispatch.terminal with
  | some (.settled event) => event.payload.elapsedMilliseconds
  | _ => dispatch.reservation.payload.reservedComputeMilliseconds

def ParticipantToolDispatch.licenseMilliseconds (dispatch : ParticipantToolDispatch) : Nat :=
  match dispatch.terminal with
  | some (.settled event) => event.payload.licenseMilliseconds
  | _ => dispatch.reservation.payload.reservedLicenseMilliseconds

/-- Settled usage or conservative reservations; both totals are JSON-safe integers. -/
def participantToolUsage (events : List RunEvent) : Except JournalError ParticipantToolUsage := do
  let dispatches ← participantToolDispatches events
  let compute := (dispatches.map fun d => d.2.computeMilliseconds).sum
  let license := (dispatches.map fun d => d.2.licenseMilliseconds).sum
  raiseIf (JCS_INTEGER_MAX < compute ∨ JCS_INTEGER_MAX < license)
    (.valueError "Input should be less than or equal to 9007199254740991")
  return { edaComputeMilliseconds := compute, licenseMilliseconds := license }

def lifecycleStep (l : ParticipantIncarnationLifecycle) :
    RunEvent → Except JournalError ParticipantIncarnationLifecycle
  | .participantIncarnationStarted event => do
    raiseIf (l.incarnations ≠ [] ∨ l.activeIncarnation.isSome ∨ l.pendingTermination.isSome)
      (.invalidTransition "participant incarnation is already started")
    raiseIf (event.payload.incarnation.generation ≠ 0)
      (.invalidTransition "initial participant incarnation must be generation zero")
    return { l with
      activeIncarnation := some event.payload.incarnation
      incarnations := l.incarnations ++ [event.payload.incarnation]
      initialStartedSequence := some event.sequence }
  | .participantIncarnationTerminated event =>
    match l.activeIncarnation, l.pendingTermination with
    | some active, none => do
      raiseIf (event.payload.incarnationDigest ≠ Canonical.participantIncarnation active)
        (.invalidTransition "participant termination names a stale incarnation")
      return { l with
        pendingTermination := some event.payload
        pendingTerminationSequence := some event.sequence
        activeIncarnation := none }
    | _, _ => .error (.invalidTransition "participant termination has no active incarnation")
  | .participantIncarnationRestored event =>
    match l.pendingTermination, l.pendingTerminationSequence, l.activeIncarnation,
        l.incarnations.getLast? with
    | some pending, some pendingSequence, none, some prior => do
      let payload := event.payload
      raiseIf (payload.predecessorIncarnationDigest ≠ Canonical.participantIncarnation prior ∨
          payload.predecessorIncarnationDigest ≠ pending.incarnationDigest ∨
          payload.checkpointId ≠ pending.checkpointId ∨
          payload.checkpointManifestDigest ≠ pending.checkpointManifestDigest ∨
          payload.incarnation.generation ≠ prior.generation + 1 ∨
          Canonical.participantProcess payload.incarnation.process =
            Canonical.participantProcess prior.process ∨
          payload.incarnation.workspaceIdentityDigest = prior.workspaceIdentityDigest ∨
          payload.incarnation.artifactDirectoryIdentityDigest =
            prior.artifactDirectoryIdentityDigest)
        (.invalidTransition "participant restore differs from its terminated generation")
      raiseIf (event.sequence ≤ pendingSequence)
        (.valueError "participant restore must follow its termination")
      raiseIf (payload.restoredManifestDigest ≠ pending.checkpointManifestDigest)
        (.valueError "participant recovery manifests must be identical")
      return { l with
        activeIncarnation := some payload.incarnation
        incarnations := l.incarnations ++ [payload.incarnation]
        recoveries := l.recoveries ++ [{
          termination := pending
          terminatedSequence := pendingSequence
          restoredSequence := event.sequence
          restoredIncarnationDigest := Canonical.participantIncarnation payload.incarnation
          restoredManifestDigest := payload.restoredManifestDigest }]
        pendingTermination := none
        pendingTerminationSequence := none }
    | _, _, _, _ => .error (.invalidTransition "participant restore has no terminated incarnation")
  | _ => .ok l

/-- The participant controller generation chain. -/
def participantIncarnationLifecycle (events : List RunEvent) :
    Except JournalError ParticipantIncarnationLifecycle := do
  let l ← foldSteps lifecycleStep {} events
  raiseIf (l.initialStartedSequence.isNone ≠ l.incarnations.isEmpty)
    (.valueError "participant lifecycle start sequence differs from its generations")
  raiseIf (l.pendingTermination.isNone ≠ l.pendingTerminationSequence.isNone)
    (.valueError "pending participant termination requires its event sequence")
  raiseIf (l.recoveries.length + 1 ≠ l.incarnations.length ∧ l.incarnations ≠ [])
    (.valueError "participant lifecycle recoveries do not connect every generation")
  return l

def leaseStep (active : Dict Identifier LicenseLeaseAcquiredEvent) :
    RunEvent → Except JournalError (Dict Identifier LicenseLeaseAcquiredEvent)
  | .licenseLeaseAcquired event => do
    raiseIf (event.payload.jobId ∈ active)
      (.invalidTransition "execution job already has an active license lease")
    return active.insert event.payload.jobId event
  | .licenseLeaseReleased event => do
    raiseIf (event.payload.jobId ∉ active)
      (.invalidTransition "license closure has no active acquisition")
    return active.erase event.payload.jobId
  | .licenseLeaseLost event => do
    raiseIf (event.payload.jobId ∉ active)
      (.invalidTransition "license closure has no active acquisition")
    return active.erase event.payload.jobId
  | _ => .ok active

/-- Acquisitions whose release or custody loss is not yet journaled. -/
def activeLicenseLeases (events : List RunEvent) :
    Except JournalError (Dict Identifier LicenseLeaseAcquiredEvent) :=
  foldSteps leaseStep Dict.empty events

/-! ### The replay state -/

/-- The local variables of the replay loop. `prior` is the prefix replayed so far; the set of
committed event identifiers is read off it. -/
structure ReplayState where
  prior : List RunEvent := []
  currentWriter : Identifier
  interactions : Dict Identifier InteractionRecordedEvent := Dict.empty
  resolvedToolRequests : List Identifier := []
  participantToolReservations : Dict Identifier ParticipantToolReservedEvent := Dict.empty
  participantToolTerminals : Dict Identifier ParticipantToolTerminal := Dict.empty
  providerRequests : Dict Identifier ProviderRequestState := Dict.empty
  campaignProviderSecurity :
    Option (Digest × Digest × ProviderSecurityBinding × Identifier) := none
  candidates : Dict Identifier CandidateState := Dict.empty
  resultsByCandidate : Dict Identifier (List StageResult) := Dict.empty
  stageResults : List CandidateStageResult := []
  scoring : Dict Identifier CandidateScoringState := Dict.empty
  artifacts : Dict Identifier ArtifactRecord := Dict.empty
  checkpoints : List Identifier := []
  checkpointEvents : Dict Identifier CheckpointCommittedEvent := Dict.empty
  activeJobs : Dict Identifier (Identifier × Identifier) := Dict.empty
  jobStates : Dict Identifier JobStateKind := Dict.empty
  licenseDecisions : List Identifier := []
  activeLicenseLeases : Dict Identifier LicenseLeaseAcquiredEvent := Dict.empty
  terminalReason : Option StopReason := none
  successfulCandidateId : Option Identifier := none

namespace ReplayState

def HasUnsettledProviderRequest (st : ReplayState) : Prop :=
  ∃ request ∈ st.providerRequests.values, request.status = none

def HasUnresolvedToolRequest (st : ReplayState) : Prop :=
  ∃ p ∈ st.interactions.entries,
    p.2.payload.direction = .toolRequest ∧ p.1 ∉ st.resolvedToolRequests

def HasActiveExecutorJob (st : ReplayState) : Prop :=
  ∃ state ∈ st.jobStates.values, state.isTerminal = false

def HasOpenToolDispatch (st : ReplayState) : Prop :=
  ¬ st.participantToolReservations.SameKeys st.participantToolTerminals

instance (st : ReplayState) : Decidable st.HasUnsettledProviderRequest :=
  inferInstanceAs (Decidable (∃ request ∈ st.providerRequests.values, request.status = none))

instance (st : ReplayState) : Decidable st.HasUnresolvedToolRequest :=
  inferInstanceAs (Decidable (∃ p ∈ st.interactions.entries,
    p.2.payload.direction = .toolRequest ∧ p.1 ∉ st.resolvedToolRequests))

instance (st : ReplayState) : Decidable st.HasActiveExecutorJob :=
  inferInstanceAs (Decidable (∃ state ∈ st.jobStates.values, state.isTerminal = false))

instance (st : ReplayState) : Decidable st.HasOpenToolDispatch :=
  inferInstanceAs (Decidable (¬ _))

end ReplayState

def RunHeader.actorIds (header : RunHeader) : List Identifier :=
  header.binding.session.actors.map RunActor.actorId

/-- The model route of a bound harness actor. -/
def RunHeader.harnessRoute? (header : RunHeader) (actorId : Identifier) : Option ModelLabel :=
  header.binding.session.actors.findSome? fun
    | .harness id _ _ route => if id = actorId then some route else none
    | .human _ _ => none

/-! ### Checks common to all events -/

/-- The producers allowed for an event. -/
def allowedProducers : RunEvent → List ProducerKind
  | .runStarted _ | .participantIncarnationStarted _ | .participantIncarnationTerminated _
  | .participantIncarnationRestored _ | .providerRequestStarted _ | .providerResponseRecorded _
  | .participantToolReserved _ | .participantToolSettled _ | .participantToolLost _
  | .licenseLeaseAcquired _ | .licenseLeaseDenied _ | .licenseLeaseLost _
  | .licenseLeaseReleased _ => [.controller]
  | .controlTransferred _ | .candidateSubmitted _ => [.participant]
  | .runEnded event =>
    if event.payload.reason = .verifierSuccess then [.controller, .participant] else [.controller]
  | .interactionRecorded _ => [.participant, .controller]
  | .evaluationStarted _ | .evaluationCompleted _ | .scoringRecorded _ => [.evaluator]
  | .artifactRecorded _ | .checkpointCommitted _ => [.controller]
  | .jobStateChanged _ => [.executor]
  | .policyDecision _ => [.policy]

def allowedDirections (producer : ProducerKind) : List InteractionDirection :=
  if producer = .participant then [.participantOutput, .toolRequest]
  else [.participantInput, .toolResult]

def validateEventProducer (event : RunEvent) : Except JournalError Unit := do
  raiseIf (event.base.producer ∉ allowedProducers event)
    (.invalidTransition "event producer is not allowed for its kind")
  match event with
  | .interactionRecorded interaction =>
    raiseIf (interaction.payload.direction ∉ allowedDirections interaction.producer)
      (.invalidTransition "interaction direction does not match its producer")
  | _ => return

def validateArtifactReferences (event : RunEvent) (artifacts : Dict Identifier ArtifactRecord) :
    Except JournalError Unit := do
  raiseIf (∃ a ∈ event.base.artifactRefs, a ∉ artifacts)
    (.invalidTransition "event references an artifact that is not registered")
  raiseIf (∃ a ∈ event.base.artifactRefs, ∃ record ∈ artifacts.get? a,
      record.visibility ∉ event.base.visibility.mayReference)
    (.invalidTransition "event visibility would disclose a referenced artifact")

def validatePosition (header : RunHeader) (expectedSequence : Nat) (event : RunEvent) :
    Except JournalError Unit :=
  match event with
  | .runStarted started =>
    if expectedSequence = 0 then
      raiseIf (started.payload.bindingDigest ≠ Canonical.runBinding header.binding)
        (.corruption "run-started event has the wrong binding digest")
    else .error (.corruption "a run may be started only once")
  | _ =>
    raiseIf (expectedSequence = 0) (.corruption "the first journal event must start the run")

def RunEvent.isIncarnationStarted : RunEvent → Bool
  | .participantIncarnationStarted _ => true
  | _ => false

def RunEvent.isIncarnationRestored : RunEvent → Bool
  | .participantIncarnationRestored _ => true
  | _ => false

/-- The checks made on every event before those of its own kind. -/
def validateEnvelope (header : RunHeader) (st : ReplayState) (event : RunEvent) :
    Except JournalError ParticipantIncarnationLifecycle := do
  let expectedSequence := st.prior.length
  raiseIf (event.base.runId ≠ header.runId)
    (.corruption "journal event belongs to another run")
  raiseIf (event.base.sequence ≠ expectedSequence)
    (.corruption "journal event sequence is not contiguous")
  raiseIf (event.base.eventId ∈ st.prior.map fun e => e.base.eventId)
    (.corruption "journal contains a duplicate event identifier")
  raiseIf (st.terminalReason ≠ none)
    (.corruption "journal contains an event after run termination")
  raiseIf (∃ actor ∈ event.base.actor, actor ∉ header.actorIds)
    (.invalidTransition "event actor is not bound to this run")
  validateEventProducer event
  validateArtifactReferences event st.artifacts
  validatePosition header expectedSequence event
  let lifecycle ← participantIncarnationLifecycle st.prior
  raiseIf (expectedSequence = 1 ∧ header.binding.purpose ≠ .standard ∧
      event.isIncarnationStarted = false)
    (.invalidTransition "campaign and preflight runs require an initial participant incarnation")
  raiseIf (lifecycle.pendingTermination.isSome ∧ event.isIncarnationRestored = false)
    (.invalidTransition "terminated participant incarnation must be restored first")
  return lifecycle

/-! ### One handler per kind -/

section Handlers

variable (header : RunHeader) (task : TaskSpec) (lifecycle : ParticipantIncarnationLifecycle)
  (st : ReplayState)

def onIncarnationStarted (event : ParticipantIncarnationStartedEvent) :
    Except JournalError ReplayState := do
  raiseIf (st.prior.length ≠ 1)
    (.invalidTransition "participant incarnation may be started only after the run")
  let _ ← participantIncarnationLifecycle (st.prior ++ [.participantIncarnationStarted event])
  return st

def onIncarnationTerminated (event : ParticipantIncarnationTerminatedEvent) :
    Except JournalError ReplayState := do
  raiseIf (lifecycle.activeIncarnation.map Canonical.participantIncarnation ≠
      some event.payload.incarnationDigest)
    (.invalidTransition "participant termination names no active incarnation")
  raiseIf (st.checkpoints.getLast? ≠ some event.payload.checkpointId ∨
      (st.checkpointEvents.get? event.payload.checkpointId).map
        (fun committed => committed.payload.manifestDigest) ≠
          some event.payload.checkpointManifestDigest)
    (.invalidTransition "participant termination requires the latest committed checkpoint")
  raiseIf (st.activeJobs.isEmpty = false ∨ st.activeLicenseLeases.isEmpty = false ∨
      st.HasUnsettledProviderRequest ∨ st.HasUnresolvedToolRequest ∨ st.HasOpenToolDispatch)
    (.invalidTransition "participant termination requires quiescent durable work")
  let _ ← participantIncarnationLifecycle (st.prior ++ [.participantIncarnationTerminated event])
  return st

def onIncarnationRestored (event : ParticipantIncarnationRestoredEvent) :
    Except JournalError ReplayState := do
  raiseIf (lifecycle.pendingTermination = none ∨
      (st.checkpointEvents.get? event.payload.checkpointId).map
        (fun committed => committed.payload.manifestDigest) ≠
          some event.payload.checkpointManifestDigest)
    (.invalidTransition "participant restore differs from its checkpoint")
  let _ ← participantIncarnationLifecycle (st.prior ++ [.participantIncarnationRestored event])
  return st

/-- The registration policy of one raw transcript artifact. -/
def validateTranscriptRecord (visibility : Visibility) (record : ArtifactRecord)
    (requestId : Identifier) (role : ProviderTranscriptRole) : Except JournalError Unit := do
  raiseIf (visibility ≠ .author)
    (.invalidTransition "provider transcript facts require author visibility")
  raiseIf (record.logicalId ≠ Canonical.providerTranscriptArtifactId requestId role ∨
      record.mediaType ≠ PROVIDER_TRANSCRIPT_MEDIA_TYPE)
    (.invalidTransition "provider transcript identity or media type is invalid")
  raiseIf (record.artifactClass ≠ .training ∨ record.sensitivity ≠ .confidential ∨
      record.visibility ≠ .author ∨ record.redistribution ≠ .forbidden)
    (.invalidTransition "provider transcript artifact policy is invalid")

def validateRequestTranscript (event : ProviderRequestStartedEvent)
    (artifacts : Dict Identifier ArtifactRecord) : Except JournalError Unit := do
  let record ← orRaise (artifacts.get? event.payload.requestArtifactId)
    (.lookupError event.payload.requestArtifactId)
  validateTranscriptRecord event.visibility record event.payload.requestId .request
  let canary ← orRaise (artifacts.get? event.payload.securityEvidenceArtifactId)
    (.lookupError event.payload.securityEvidenceArtifactId)
  raiseIf (canary.mediaType ≠ PROVIDER_CANARY_EVIDENCE_MEDIA_TYPE ∨
      canary.artifactClass ≠ .evidence ∨ canary.visibility ≠ .author)
    (.invalidTransition "provider canary evidence artifact policy is invalid")

def validateResponseTranscript (event : ProviderResponseRecordedEvent)
    (artifacts : Dict Identifier ArtifactRecord) : Except JournalError Unit := do
  let reference ← orRaise event.artifactRefs.head? (.lookupError "artifact_refs")
  let record ← orRaise (artifacts.get? reference) (.lookupError reference)
  validateTranscriptRecord event.visibility record event.payload.requestId .response

def ProviderRequestStartedPayload.requestState (p : ProviderRequestStartedPayload) :
    ProviderRequestState :=
  { requestId := p.requestId, actorId := p.actorId, requestArtifactId := p.requestArtifactId,
    securityEvidenceArtifactId := p.securityEvidenceArtifactId,
    providerProfileDigest := p.providerProfileDigest,
    providerConfigDigest := p.providerConfigDigest,
    requestedModel := p.requestedModel, requestedServiceTier := p.requestedServiceTier,
    observedInputTokenFloor := p.observedInputTokenFloor, securityBinding := p.securityBinding,
    reservedInputTokens := p.reservedInputTokens,
    reservedOutputTokens := p.reservedOutputTokens }

def onProviderRequestStarted (event : ProviderRequestStartedEvent) :
    Except JournalError ReplayState := do
  let started := event.payload
  raiseIf (header.binding.purpose = .syntheticPreflight)
    (.invalidTransition "synthetic preflight runs cannot dispatch a provider")
  let route ← orRaise (header.harnessRoute? started.actorId)
    (.invalidTransition "provider request actor is not a bound harness")
  raiseIf (started.actorId ≠ st.currentWriter)
    (.invalidTransition "provider request actor is not the current workspace writer")
  raiseIf (started.requestedModel ≠ route)
    (.invalidTransition "provider request model differs from its run binding")
  raiseIf (∃ campaign ∈ header.binding.campaign,
      started.requestedServiceTier ≠ some campaign.serviceTier)
    (.invalidTransition "campaign provider requests require their paid security binding")
  let requestSecurity := (started.providerProfileDigest, started.providerConfigDigest,
    started.securityBinding, started.securityEvidenceArtifactId)
  raiseIf (header.binding.campaign.isSome ∧
      ∃ security ∈ st.campaignProviderSecurity, requestSecurity ≠ security)
    (.invalidTransition "campaign provider requests must share one security attestation")
  raiseIf (started.requestId ∈ st.providerRequests)
    (.invalidTransition "provider request identifier already exists")
  validateRequestTranscript event st.artifacts
  return { st with
    campaignProviderSecurity :=
      if header.binding.campaign.isSome then some requestSecurity else st.campaignProviderSecurity
    providerRequests := st.providerRequests.insert started.requestId started.requestState }

def onProviderResponseRecorded (event : ProviderResponseRecordedEvent) :
    Except JournalError ReplayState := do
  let response := event.payload
  let request ← orRaise (st.providerRequests.get? response.requestId)
    (.invalidTransition "provider response has no matching request")
  raiseIf (request.status ≠ none)
    (.invalidTransition "provider request already has a response")
  validateResponseTranscript event st.artifacts
  return { st with
    providerRequests := st.providerRequests.insert response.requestId { request with
      providerReportedModel := some response.providerReportedModel
      providerReportedServiceTier := response.providerReportedServiceTier
      status := some response.status
      usage := response.usage } }

/-- Whether a stored interaction is the request a tool result may answer. -/
def answersRequest (event related : InteractionRecordedEvent) : Prop :=
  related.payload.direction = .toolRequest ∧ related.actor = some st.currentWriter ∧
    related.payload.toolName = event.payload.toolName

instance (event related : InteractionRecordedEvent) : Decidable (answersRequest st event related) :=
  inferInstanceAs (Decidable (_ ∧ _ ∧ _))

def onInteractionRecorded (event : InteractionRecordedEvent) : Except JournalError ReplayState := do
  let interactionId := event.payload.interactionId
  raiseIf (interactionId ∈ st.interactions)
    (.invalidTransition "interaction identifier already exists")
  raiseIf (event.producer = .participant ∧ event.actor ≠ some st.currentWriter)
    (.invalidTransition "only the workspace writer may emit participant interaction")
  match event.payload.relatedInteractionId with
  | none => return { st with interactions := st.interactions.insert interactionId event }
  | some relatedId => do
    raiseIf (¬ ∃ related ∈ st.interactions.get? relatedId, answersRequest st event related)
      (.invalidTransition "tool result relation does not name the active writer request")
    raiseIf (relatedId ∈ st.resolvedToolRequests)
      (.invalidTransition "tool request already has a result")
    raiseIf (event.payload.toolName = some EXECUTOR_PARTICIPANT_TOOL_NAME ∧
        relatedId ∈ st.participantToolReservations ∧ relatedId ∉ st.participantToolTerminals)
      (.invalidTransition "participant executor result requires a terminal dispatch fact")
    return { st with
      resolvedToolRequests := relatedId :: st.resolvedToolRequests
      interactions := st.interactions.insert interactionId event }

def onParticipantToolReserved (event : ParticipantToolReservedEvent) :
    Except JournalError ReplayState := do
  let reservation := event.payload
  raiseIf (¬ (∃ request ∈ st.interactions.get? reservation.requestInteractionId,
        request.payload.direction = .toolRequest ∧
        request.payload.toolName = some EXECUTOR_PARTICIPANT_TOOL_NAME) ∨
      reservation.requestInteractionId ∈ st.resolvedToolRequests)
    (.invalidTransition "participant tool reservation has no unresolved executor request")
  raiseIf (reservation.requestInteractionId ∈ st.participantToolReservations)
    (.invalidTransition "participant tool request is already reserved")
  raiseIf (reservation.executorId ≠ header.binding.environment.executorId)
    (.invalidTransition "participant tool reservation has the wrong executor")
  raiseIf (reservation.budgetDigest ≠ header.binding.session.budgetDigest)
    (.invalidTransition "participant tool reservation has the wrong budget")
  raiseIf ((header.binding.environment.participantOperations.filter fun operation =>
      operation.operationId = reservation.operationId ∧
      operation.operationDigest = reservation.operationDigest ∧
      operation.toolId = reservation.toolId ∧
      operation.capability = reservation.capability).length ≠ 1)
    (.invalidTransition "participant tool reservation is not a run-resolved operation")
  raiseIf ((header.binding.environment.tools.filter fun tool =>
      tool.toolId = reservation.toolId ∧ tool.capability = reservation.capability).length ≠ 1)
    (.invalidTransition "participant tool reservation is not run-resolved")
  return { st with
    participantToolReservations :=
      st.participantToolReservations.insert reservation.requestInteractionId event }

/-- The checks shared by settled and lost facts; returns the reservation they close. -/
def validateToolTerminal (requestInteractionId invocationId : Identifier)
    (invocationDigest : Digest) (timestamp : Datetime) :
    Except JournalError ParticipantToolReservedPayload := do
  let reservationEvent ← orRaise (st.participantToolReservations.get? requestInteractionId)
    (.invalidTransition "participant tool terminal fact has no reservation")
  raiseIf (requestInteractionId ∈ st.participantToolTerminals)
    (.invalidTransition "participant tool reservation is already terminal")
  let reservation := reservationEvent.payload
  raiseIf (requestInteractionId ∈ st.resolvedToolRequests ∨
      invocationId ≠ reservation.invocationId ∨ invocationDigest ≠ reservation.invocationDigest)
    (.invalidTransition "participant tool terminal fact differs from its reservation")
  raiseIf (timestamp < reservationEvent.timestamp)
    (.invalidTransition "participant tool terminal fact precedes its reservation")
  raiseIf (invocationId ∈ st.activeLicenseLeases)
    (.invalidTransition "participant tool terminal fact requires closed license custody")
  return reservation

def onParticipantToolSettled (event : ParticipantToolSettledEvent) :
    Except JournalError ReplayState := do
  let settled := event.payload
  let reservation ← validateToolTerminal st settled.requestInteractionId settled.invocationId
    settled.invocationDigest event.timestamp
  raiseIf (settled.operationId ≠ reservation.operationId ∨
      settled.operationDigest ≠ reservation.operationDigest ∨
      settled.inputManifestDigest ≠ reservation.inputManifestDigest)
    (.invalidTransition "participant tool settlement differs from its reserved operation")
  raiseIf (reservation.reservedComputeMilliseconds < settled.elapsedMilliseconds ∨
      reservation.reservedLicenseMilliseconds < settled.licenseMilliseconds)
    (.invalidTransition "participant tool settlement exceeds its resource reservation")
  let artifact ← orRaise (st.artifacts.get? settled.evidenceArtifactId)
    (.lookupError settled.evidenceArtifactId)
  raiseIf (artifact.artifactClass ≠ .evidence)
    (.invalidTransition "participant tool settlement must reference execution evidence")
  return { st with
    participantToolTerminals :=
      st.participantToolTerminals.insert settled.requestInteractionId (.settled event) }

def onParticipantToolLost (event : ParticipantToolLostEvent) :
    Except JournalError ReplayState := do
  let lost := event.payload
  let _ ← validateToolTerminal st lost.requestInteractionId lost.invocationId
    lost.invocationDigest event.timestamp
  return { st with
    participantToolTerminals :=
      st.participantToolTerminals.insert lost.requestInteractionId (.lost event) }

def onControlTransferred (event : ControlTransferredEvent) : Except JournalError ReplayState := do
  raiseIf (header.binding.session.handoffEnabled = false)
    (.invalidTransition "this run does not permit control handoff")
  raiseIf (event.payload.previousWriter ≠ st.currentWriter)
    (.invalidTransition "control transfer names a stale writer")
  raiseIf (event.payload.nextWriter ∉ header.actorIds)
    (.invalidTransition "control transfer targets an unknown actor")
  raiseIf (event.actor ≠ some st.currentWriter)
    (.invalidTransition "control transfer must be attributed to the current writer")
  return { st with currentWriter := event.payload.nextWriter }

def onCandidateSubmitted (event : CandidateSubmittedEvent) : Except JournalError ReplayState := do
  let candidate := event.payload
  raiseIf (event.actor ≠ some st.currentWriter)
    (.invalidTransition "candidate submission requires the current workspace writer")
  raiseIf (candidate.candidateId ∈ st.candidates)
    (.invalidTransition "candidate identifier already exists")
  raiseIf (∃ parent ∈ candidate.parentCandidateId, parent ∉ st.candidates)
    (.invalidTransition "candidate parent does not exist")
  return { st with
    candidates := st.candidates.insert candidate.candidateId
      { candidateId := candidate.candidateId, digest := candidate.candidateDigest,
        parentCandidateId := candidate.parentCandidateId, actor := st.currentWriter }
    resultsByCandidate := st.resultsByCandidate.insert candidate.candidateId [] }

def onEvaluationStarted (event : EvaluationStartedEvent) : Except JournalError ReplayState := do
  let started := event.payload
  raiseIf (started.candidateId ∉ st.candidates)
    (.invalidTransition "evaluation references an unknown candidate")
  raiseIf (started.candidateId ∈ st.scoring)
    (.invalidTransition "a scored candidate cannot start another evaluation")
  raiseIf (started.stageId ∉ task.stageIds)
    (.invalidTransition "evaluation references an unknown task stage")
  raiseIf (started.jobId ∈ st.jobStates)
    (.invalidTransition "evaluation job identifier was already used")
  let results ← orRaise (st.resultsByCandidate.get? started.candidateId)
    (.lookupError started.candidateId)
  raiseIf (∃ result ∈ results, result.stageId = started.stageId)
    (.invalidTransition "candidate stage already has a terminal result")
  let eligibility ← (stageEligibility task results started.stageId).mapError .valueError
  raiseIf (eligibility.state ≠ .ready)
    (.invalidTransition "evaluation stage is not eligible to start")
  return { st with
    activeJobs := st.activeJobs.insert started.jobId (started.candidateId, started.stageId)
    jobStates := st.jobStates.insert started.jobId .queued }

def onJobStateChanged (event : JobStateChangedEvent) : Except JournalError ReplayState := do
  let changed := event.payload
  let previous ← orRaise (st.jobStates.get? changed.jobId)
    (.invalidTransition "job state event references an unknown job")
  raiseIf (changed.state ∉ previous.transitions)
    (.invalidTransition "job state transition is not allowed")
  return { st with jobStates := st.jobStates.insert changed.jobId changed.state }

/-- The immutable sample schedule of one measurement vector. -/
def measurementSampleSeeds (taskSeed : Seed128Hex) (measurementId : Identifier)
    (repetitions : Nat) : Except JournalError (List Seed128Hex) := do
  let seeds := (List.range repetitions).map
    (Canonical.measurementSampleSeed taskSeed measurementId)
  raiseIf (repetitions < 1)
    (.valueError "measurement sampling requires at least one repetition")
  raiseIf (¬ seeds.Nodup)
    (.valueError "measurement sample seed derivation produced a collision")
  return seeds

def validateProvenance (result : StageResult) (tool : ResolvedToolBinding)
    (artifacts : Dict Identifier ArtifactRecord) (_ : Unit) (measurement : MeasurementEvidence) :
    Except JournalError Unit := do
  let specification ← orRaise ((measurementIndex task).get? measurement.measurementId)
    (.lookupError measurement.measurementId)
  let provenance ← orRaise measurement.provenance
    (.invalidTransition "persisted measurements require complete provenance")
  let source ← orRaise ((artifacts.get? provenance.sourceArtifactId).filter
      fun source => source.blob.digest = provenance.sourceDigest)
    (.invalidTransition "measurement source artifact is not registered or changed")
  raiseIf (source.artifactClass ≠ .measurement ∨
      source.mediaType ≠ SANITIZED_MEASUREMENTS_MEDIA_TYPE)
    (.invalidTransition "measurement provenance must reference a sanitized measurement artifact")
  raiseIf (provenance.sourceArtifactId ∉ result.evidence.map ArtifactEvidence.artifactId)
    (.invalidTransition "measurement source is not declared as stage evidence")
  let instanceSeed := header.binding.task.instanceSeed
  raiseIf (provenance.unit ≠ specification.unit ∨ provenance.toolId ≠ tool.toolId ∨
      provenance.toolVersion ≠ tool.toolVersion ∨
      provenance.libraryId ≠ specification.libraryId ∨
      provenance.libraryDigest ≠ specification.libraryDigest ∨
      provenance.corner ≠ specification.corner ∨ provenance.mode ≠ specification.mode ∨
      provenance.taskSeed ≠ instanceSeed)
    (.invalidTransition "measurement provenance differs from the run binding")
  let seeds ← measurementSampleSeeds instanceSeed specification.measurementId
    specification.repetitions
  raiseIf (provenance.sampleSeeds ≠ seeds)
    (.invalidTransition "measurement sample seeds differ from the run binding")
  match header.binding.environment.assets.find? fun a => a.assetId = provenance.libraryId with
  | some asset =>
    raiseIf (asset.restrictedDigest ≠ provenance.libraryDigest)
      (.invalidTransition "measurement library digest differs from its run asset")
  | none =>
    raiseIf (provenance.libraryId ≠ "not_applicable" ∧
        ∀ resource ∈ task.resources, resource.resourceId = provenance.libraryId →
          provenance.libraryDigest ≠ resource.contentDigest)
      (.invalidTransition "measurement library is not a resolved run or task asset")

def validateMeasurementProvenance (result : StageResult)
    (artifacts : Dict Identifier ArtifactRecord) : Except JournalError Unit :=
  if result.measurements = [] then .ok ⟨⟩
  else do
    let stage ← orRaise (task.stageIndex.get? result.stageId) (.lookupError result.stageId)
    let evaluator ← orRaise
      (task.evaluation.evaluators.find? fun e => e.evaluatorId = stage.evaluatorId)
      (.lookupError stage.evaluatorId)
    let tool ← orRaise
      (header.binding.environment.tools.find? fun t => t.capability = evaluator.capability)
      (.lookupError "capability")
    foldSteps (validateProvenance header task result tool artifacts) ⟨⟩ result.measurements

def onEvaluationCompleted (event : EvaluationCompletedEvent) : Except JournalError ReplayState := do
  let completed := event.payload
  let expected ← orRaise (st.activeJobs.get? completed.jobId)
    (.invalidTransition "evaluation completion has no matching active job")
  raiseIf (expected ≠ (completed.candidateId, completed.result.stageId))
    (.invalidTransition "evaluation completion does not match the started job")
  let state ← orRaise (st.jobStates.get? completed.jobId) (.lookupError completed.jobId)
  raiseIf (state.isTerminal = false)
    (.invalidTransition "evaluation completion requires a terminal executor job")
  raiseIf (∃ evidence ∈ completed.result.evidence, evidence.artifactId ∉ event.artifactRefs)
    (.invalidTransition "evaluation evidence is not declared by its event")
  validateMeasurementProvenance header task completed.result st.artifacts
  let results ← orRaise (st.resultsByCandidate.get? completed.candidateId)
    (.lookupError completed.candidateId)
  let prospective := results ++ [completed.result]
  let _ ← (validateStageResults task prospective).mapError .valueError
  return { st with
    resultsByCandidate := st.resultsByCandidate.insert completed.candidateId prospective
    stageResults := st.stageResults ++
      [{ candidateId := completed.candidateId, result := completed.result }]
    activeJobs := st.activeJobs.erase completed.jobId }

/-- The exception of a failed derivation of a score. -/
def scoringFailure (cause : String) : JournalError :=
  if cause = DECIMAL_OVERFLOW then .arithmeticError cause else .valueError cause

def validateScoringDecision (results : List StageResult) (decision : ScoringDecision) :
    Except JournalError Unit := do
  let expected ← (scorerEligibility task results).mapError .valueError
  raiseIf (decision.eligibility ≠ expected)
    (.invalidTransition "scoring eligibility differs from evaluator facts")
  match decision.score with
  | none => return
  | some score => do
    let gates ← (hardGateStatus task results).mapError .valueError
    raiseIf (gates.state ≠ .succeeded)
      (.invalidTransition "a score requires every hard gate to pass")
    let derived ← (buildCandidateScore task results).mapError scoringFailure
    raiseIf (score ≠ derived)
      (.invalidTransition "score differs from task-bound derivation")
    raiseIf (∃ scorer ∈ task.evaluation.scorer,
        some scorer.revisionDigest ≠ header.binding.scorerRevisionDigest)
      (.invalidTransition "scalar score differs from its run binding")

def onScoringRecorded (event : ScoringRecordedEvent) : Except JournalError ReplayState := do
  let candidateId := event.payload.candidateId
  raiseIf (candidateId ∉ st.candidates)
    (.invalidTransition "scoring references an unknown candidate")
  raiseIf (candidateId ∈ st.scoring)
    (.invalidTransition "candidate scoring is already recorded")
  raiseIf (∃ job ∈ st.activeJobs.values, job.1 = candidateId)
    (.invalidTransition "candidate scoring requires settled evaluations")
  let results ← orRaise (st.resultsByCandidate.get? candidateId) (.lookupError candidateId)
  validateScoringDecision header task results event.payload.decision
  return { st with
    scoring := st.scoring.insert candidateId
      { candidateId, decision := event.payload.decision } }

/-- A licence decision is admitted for a queued evaluation job or an open participant dispatch. -/
def licenseAdmitted (fact : LicenseLeaseBindingPayload) : Prop :=
  st.jobStates.get? fact.jobId = some .queued ∨
    ∃ reserved ∈ st.participantToolReservations.values.find? fun reserved =>
        reserved.payload.invocationId = fact.jobId,
      reserved.payload.requestInteractionId ∉ st.participantToolTerminals ∧
        reserved.payload.licenseBindingId = some fact.licenseBindingId

instance (fact : LicenseLeaseBindingPayload) : Decidable (licenseAdmitted st fact) :=
  inferInstanceAs (Decidable (_ ∨ _))

def validateLicenseDecision (fact : LicenseLeaseBindingPayload) : Except JournalError Unit := do
  raiseIf (¬ licenseAdmitted st fact)
    (.invalidTransition "license decisions require queued evaluation or participant work")
  raiseIf (fact.jobId ∈ st.licenseDecisions)
    (.invalidTransition "execution job already has a license decision")

def onLicenseLeaseAcquired (event : LicenseLeaseAcquiredEvent) :
    Except JournalError ReplayState := do
  validateLicenseDecision st event.payload
  return { st with
    licenseDecisions := event.payload.jobId :: st.licenseDecisions
    activeLicenseLeases := st.activeLicenseLeases.insert event.payload.jobId event }

def onLicenseLeaseDenied (event : LicenseLeaseDeniedEvent) : Except JournalError ReplayState := do
  validateLicenseDecision st event.payload.toLicenseLeaseBindingPayload
  return { st with licenseDecisions := event.payload.jobId :: st.licenseDecisions }

/-- The shared body of released and lost leases. -/
def onLicenseLeaseClosed (fact : LicenseLeaseBindingPayload) (timestamp : Datetime) :
    Except JournalError ReplayState := do
  let acquired ← orRaise (st.activeLicenseLeases.get? fact.jobId)
    (.invalidTransition "license release has no active acquisition")
  raiseIf (fact.licenseBindingId ≠ acquired.payload.licenseBindingId ∨
      fact.providerId ≠ acquired.payload.providerId ∨
      fact.featureClass ≠ acquired.payload.featureClass)
    (.invalidTransition "license release differs from its acquisition")
  raiseIf (timestamp < acquired.timestamp)
    (.invalidTransition "license release precedes its acquisition")
  return { st with activeLicenseLeases := st.activeLicenseLeases.erase fact.jobId }

def onArtifactRecorded (event : ArtifactRecordedEvent) : Except JournalError ReplayState := do
  let record := event.payload.record
  raiseIf (record.logicalId ∈ st.artifacts)
    (.invalidTransition "artifact logical identifier already exists")
  return { st with artifacts := st.artifacts.insert record.logicalId record }

def onCheckpointCommitted (event : CheckpointCommittedEvent) : Except JournalError ReplayState := do
  let checkpoint := event.payload
  raiseIf (checkpoint.checkpointId ∈ st.checkpoints)
    (.invalidTransition "checkpoint identifier already exists")
  raiseIf (∃ parent ∈ checkpoint.parentCheckpointId, parent ∉ st.checkpoints)
    (.invalidTransition "checkpoint parent does not exist")
  let reference ← orRaise event.artifactRefs.head? (.lookupError "artifact_refs")
  let artifact ← orRaise (st.artifacts.get? reference) (.lookupError reference)
  raiseIf (artifact.artifactClass ≠ .checkpoint)
    (.invalidTransition "checkpoint event must reference a checkpoint artifact")
  return { st with
    checkpoints := st.checkpoints ++ [checkpoint.checkpointId]
    checkpointEvents := st.checkpointEvents.insert checkpoint.checkpointId event }

/-- The extra checks of a verifier success; returns the successful candidate. -/
def validateSuccess (payload : RunEndedPayload) : Except JournalError Identifier := do
  let candidateId ← orRaise (payload.successfulCandidateId.filter fun c => c ∈ st.candidates)
    (.invalidTransition "verifier success names an unknown candidate")
  let results ← orRaise (st.resultsByCandidate.get? candidateId) (.lookupError candidateId)
  let gates ← (hardGateStatus task results).mapError .valueError
  raiseIf (gates.state ≠ .succeeded)
    (.invalidTransition "verifier success requires every hard gate to pass")
  let scored ← orRaise (st.scoring.get? candidateId)
    (.invalidTransition "verifier success requires a scoring decision")
  raiseIf (scored.decision.eligibility.state ≠ .ready ∧
      scored.decision.eligibility.state ≠ .notConfigured)
    (.invalidTransition "verifier success requires rankable scoring")
  return candidateId

/-- The conditions under which a run may end, whatever the reason. -/
def validateQuiescent : Except JournalError Unit := do
  raiseIf (st.activeJobs.isEmpty = false)
    (.invalidTransition "run cannot end with active evaluations")
  raiseIf st.HasActiveExecutorJob
    (.invalidTransition "run cannot end with active executor jobs")
  raiseIf (st.activeLicenseLeases.isEmpty = false)
    (.invalidTransition "run cannot end with active license leases")
  raiseIf st.HasUnsettledProviderRequest
    (.invalidTransition "run cannot end with unsettled provider requests")
  raiseIf st.HasUnresolvedToolRequest
    (.invalidTransition "run cannot end with unresolved participant tools")
  raiseIf st.HasOpenToolDispatch
    (.invalidTransition "run cannot end with active participant tool dispatches")

def onRunEnded (event : RunEndedEvent) : Except JournalError ReplayState := do
  raiseIf (header.binding.purpose ≠ .standard ∧ lifecycle.activeIncarnation = none)
    (.invalidTransition "run termination requires an active participant incarnation")
  raiseIf (event.producer = .participant ∧ event.actor ≠ some st.currentWriter)
    (.invalidTransition "participant termination requires the current workspace writer")
  validateQuiescent st
  if event.payload.reason = .verifierSuccess then
    let candidateId ← validateSuccess task st event.payload
    return { st with
      terminalReason := some event.payload.reason
      successfulCandidateId := some candidateId }
  return { st with terminalReason := some event.payload.reason }

/-- The checks and the update of one event's own kind. -/
def handleEvent : RunEvent → Except JournalError ReplayState
  | .runStarted _ => .ok st
  | .participantIncarnationStarted event => onIncarnationStarted st event
  | .participantIncarnationTerminated event => onIncarnationTerminated lifecycle st event
  | .participantIncarnationRestored event => onIncarnationRestored lifecycle st event
  | .providerRequestStarted event => onProviderRequestStarted header st event
  | .providerResponseRecorded event => onProviderResponseRecorded st event
  | .interactionRecorded event => onInteractionRecorded st event
  | .participantToolReserved event => onParticipantToolReserved header st event
  | .participantToolSettled event => onParticipantToolSettled st event
  | .participantToolLost event => onParticipantToolLost st event
  | .controlTransferred event => onControlTransferred header st event
  | .candidateSubmitted event => onCandidateSubmitted st event
  | .evaluationStarted event => onEvaluationStarted task st event
  | .evaluationCompleted event => onEvaluationCompleted header task st event
  | .scoringRecorded event => onScoringRecorded header task st event
  | .licenseLeaseAcquired event => onLicenseLeaseAcquired st event
  | .licenseLeaseDenied event => onLicenseLeaseDenied st event
  | .licenseLeaseLost event => onLicenseLeaseClosed st event.payload event.timestamp
  | .licenseLeaseReleased event => onLicenseLeaseClosed st event.payload event.timestamp
  | .artifactRecorded event => onArtifactRecorded st event
  | .checkpointCommitted event => onCheckpointCommitted st event
  | .jobStateChanged event => onJobStateChanged st event
  | .policyDecision _ => .ok st
  | .runEnded event => onRunEnded header task lifecycle st event

end Handlers

/-! ### Replay -/

def replayStep (header : RunHeader) (task : TaskSpec) (st : ReplayState) (event : RunEvent) :
    Except JournalError ReplayState := do
  let lifecycle ← validateEnvelope header st event
  let st' ← handleEvent header task lifecycle st event
  return { st' with prior := st.prior ++ [event] }

def validateTaskBinding (header : RunHeader) (task : TaskSpec) : Except JournalError Unit := do
  let binding := header.binding
  raiseIf (binding.task.family ≠ task.identity.family ∨
      binding.task.authoringRevision ≠ task.identity.authoringRevision ∨
      binding.measurementSchemaDigest ≠ Canonical.measurementSchema task.measurements ∨
      binding.scorerRevisionDigest ≠ task.evaluation.scorer.map ScorerRef.revisionDigest)
    (.corruption "task-derived run binding facts have diverged")
  let expected : List (Identifier × Digest) :=
    task.evaluation.evaluators.map fun e => (e.evaluatorId, e.revisionDigest)
  let bound : List (Identifier × Digest) :=
    binding.evaluators.map fun e => (e.evaluatorId, e.revisionDigest)
  raiseIf (¬ ((∀ pair ∈ bound, pair ∈ expected) ∧ ∀ pair ∈ expected, pair ∈ bound))
    (.corruption "evaluator run bindings differ from the task")

def ReplayState.initial (header : RunHeader) : ReplayState :=
  { currentWriter := header.binding.session.initialWriter }

def replayLoop (header : RunHeader) (task : TaskSpec) (events : List RunEvent) :
    Except JournalError ReplayState :=
  foldSteps (replayStep header task) (ReplayState.initial header) events

def ReplayState.runState (header : RunHeader) (st : ReplayState) : RunState where
  runId := header.runId
  nextSequence := st.prior.length
  currentWriter := st.currentWriter
  candidates := st.candidates.values
  stageResults := st.stageResults
  scoring := st.scoring.values
  artifacts := st.artifacts.values
  checkpointIds := st.checkpoints
  interactionIds := sortedStrings st.interactions.keys
  providerRequests := st.providerRequests.values
  jobs := (sortedBy Prod.fst st.jobStates.entries).map fun (jobId, state) => { jobId, state }
  terminalReason := st.terminalReason
  successfulCandidateId := st.successfulCandidateId

/-- Reconstruct run state while rechecking task evaluation semantics. -/
def replay (header : RunHeader) (task : TaskSpec) (events : List RunEvent) :
    Except JournalError RunState := do
  raiseIf (task.digest ≠ header.binding.task.taskSpecDigest)
    (.corruption "task identity does not match the run binding")
  validateTaskBinding header task
  let st ← replayLoop header task events
  let lifecycle ← participantIncarnationLifecycle events
  raiseIf (events ≠ [] ∧ header.binding.purpose ≠ .standard ∧ lifecycle.incarnations = [])
    (.invalidTransition "campaign and preflight runs require a participant incarnation")
  return st.runState header

end EdaGym
