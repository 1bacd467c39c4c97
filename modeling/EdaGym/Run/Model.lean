import EdaGym.Evaluation.Scoring

/-!
# Run binding and typed event envelopes

One structure per event class of the source, with the class validators as fields, so that an event
the source cannot construct cannot be written down here either.
-/

namespace EdaGym

inductive ProducerKind
  | controller | participant | executor | evaluator | policy
deriving DecidableEq, Repr

lemma ProducerKind.controller_ne : ProducerKind.controller ≠ .participant := by decide

lemma ProducerKind.executor_ne : ProducerKind.executor ≠ .participant := by decide

lemma ProducerKind.evaluator_ne : ProducerKind.evaluator ≠ .participant := by decide

lemma ProducerKind.actorless {producer : ProducerKind} (h : producer ≠ .participant) :
    producer = .participant ↔ (none : Option Identifier).isSome := by simp [h]

inductive RunPurpose
  | standard | campaignTrial | syntheticPreflight
deriving DecidableEq, Repr

inductive StopReason
  | verifierSuccess | wallBudget | edaComputeBudget | experimentBudget | interactionBudget
  | toolCallBudget | tokenBudget | licenseBudget | storageBudget | providerBudgetOverrun
  | explicitCancel | policyFailure | securityFailure | infrastructureFailure | unrankable
deriving DecidableEq, Repr

inductive InteractionDirection
  | participantInput | participantOutput | toolRequest | toolResult
deriving DecidableEq, Repr

lemma InteractionDirection.request_unrelated :
    InteractionDirection.toolRequest = .toolResult ↔ (none : Option Identifier).isSome := by decide

lemma InteractionDirection.result_related (id : Identifier) :
    InteractionDirection.toolResult = .toolResult ↔ (some id).isSome := by simp

lemma InteractionDirection.request_named (name : Identifier) :
    (InteractionDirection.toolRequest = .toolRequest ∨
      InteractionDirection.toolRequest = .toolResult) ↔ (some name).isSome := by simp

inductive JobStateKind
  | queued | running | checkpointing | completed | failed | cancelled
deriving DecidableEq, Repr

inductive PolicyDecisionKind
  | allowed | denied
deriving DecidableEq, Repr

inductive LicenseDenialReason
  | providerUnavailable | featureUnavailable | invalidLease | providerFailure
deriving DecidableEq, Repr

inductive CheckpointKind
  | application | filesystem
deriving DecidableEq, Repr

inductive ProviderTranscriptRole
  | request | response
deriving DecidableEq, Repr

structure BlobRef where
  digest : Digest
  sizeBytes : Nat
deriving DecidableEq

@[ext]
structure ArtifactRecord where
  logicalId : Identifier
  blob : BlobRef
  mediaType : MediaType
  artifactClass : ArtifactClass
  sensitivity : Sensitivity
  visibility : Visibility
  redistribution : Redistribution
  not_secret : sensitivity ≠ .secret := by
    first | exact Sensitivity.internal_ne_secret | exact Sensitivity.confidential_ne_secret | decide
  public_policy : visibility = .pub → sensitivity = .pub ∧ redistribution = .allowed := by
    first
    | exact Visibility.participant_private _ _
    | exact Visibility.verifier_private _ _
    | exact Visibility.author_private _ _
    | decide

instance : DecidableEq ArtifactRecord := fun _ _ => decidable_of_iff _ ArtifactRecord.ext_iff.symm

/-! ### The run binding -/

/-! The defaults of a binding hold by these facts. -/

lemma handoff_alone : false = true ↔ 1 < 1 := by decide

lemma standard_trialless : RunPurpose.standard ≠ .standard ↔ (none : Option α).isSome := by simp

lemma filesystem_driverless :
    CheckpointKind.filesystem = .application ↔ (none : Option Digest).isSome := by decide

lemma infrastructure_candidateless :
    StopReason.infrastructureFailure = .verifierSuccess ↔ (none : Option Identifier).isSome := by
  decide

structure TaskRunBinding where
  family : Identifier
  authoringRevision : Nat
  taskSpecDigest : Digest
  instanceSeed : Seed128Hex
  instanceDigest : Digest
  releaseDigest : Digest
deriving DecidableEq

structure ResolvedToolBinding where
  capability : Capability
  toolId : Identifier
  toolVersion : String
  driverDigest : Digest
  deploymentAttestationDigest : Digest
deriving DecidableEq

structure ResolvedParticipantOperationBinding where
  operationId : Identifier
  operationDigest : Digest
  capability : Capability
  toolId : Identifier
deriving DecidableEq

structure ResolvedAssetBinding where
  assetId : Identifier
  restrictedDigest : Digest
deriving DecidableEq

structure EnvironmentRunBinding where
  environmentSpecDigest : Digest
  executorId : Identifier
  executorDigest : Digest
  policyDigest : Digest
  tools : List ResolvedToolBinding
  participantOperations : List ResolvedParticipantOperationBinding := []
  assets : List ResolvedAssetBinding := []
  tools_ne_nil : tools ≠ [] := by decide
  tools_nodup : (tools.map ResolvedToolBinding.capability).Nodup := by decide
  assets_sorted : (assets.map ResolvedAssetBinding.assetId).Pairwise (· < ·) := by
    first | exact sorted_nil | decide
  operations_sorted :
    (participantOperations.map ResolvedParticipantOperationBinding.operationId).Pairwise (· < ·)
    := by first | exact sorted_nil | decide
  operations_resolved : ∀ o ∈ participantOperations, ∃ t ∈ tools,
    t.capability = o.capability ∧ t.toolId = o.toolId := by decide
deriving DecidableEq

inductive RunActor
  | human (actorId : Identifier) (adapterDigest : Digest)
  | harness (actorId : Identifier) (harnessDigest scaffoldDigest : Digest)
      (requestedModelRoute : ModelLabel)
deriving DecidableEq, Repr

def RunActor.actorId : RunActor → Identifier
  | .human actorId _ => actorId
  | .harness actorId _ _ _ => actorId

structure SessionRunBinding where
  sessionSpecDigest : Digest
  actors : List RunActor
  initialWriter : Identifier
  handoffEnabled : Bool
  feedbackPolicyDigest : Digest
  budgetDigest : Digest
  actors_sorted : (actors.map RunActor.actorId).Pairwise (· < ·) := by decide
  writer_bound : initialWriter ∈ actors.map RunActor.actorId := by decide
  handoff_iff : handoffEnabled = true ↔ 1 < actors.length := by
    first | exact handoff_alone | decide
deriving DecidableEq

structure EvaluatorRunBinding where
  evaluatorId : Identifier
  revisionDigest : Digest
deriving DecidableEq

/-- The frozen campaign trial represented by a run. -/
structure CampaignTrialRunBinding where
  campaignDigest : Digest
  scheduleDigest : Digest
  scheduledTrialDigest : Digest
  pairedSeed : Seed128Hex
  repetitionIndex : Nat
  routeId : Identifier
  reasoningEffort : String
  serviceTier : ServiceTierLabel
deriving DecidableEq

structure RunBinding where
  purpose : RunPurpose := .standard
  task : TaskRunBinding
  environment : EnvironmentRunBinding
  session : SessionRunBinding
  evaluators : List EvaluatorRunBinding
  measurementSchemaDigest : Digest
  scorerRevisionDigest : Option Digest := none
  trialKey : Identifier
  campaign : Option CampaignTrialRunBinding := none
  purpose_iff : purpose ≠ .standard ↔ campaign.isSome := by
    first | exact standard_trialless | decide
  evaluators_sorted :
    (evaluators.map EvaluatorRunBinding.evaluatorId).Pairwise (· < ·) := by decide
deriving DecidableEq

/-- Linux process incarnation used to prove controller replacement. -/
structure ParticipantProcessIdentity where
  processId : Nat
  startTimeTicks : Nat
  bootIdDigest : Digest
deriving DecidableEq

/-- Path-free identity of one participant controller and private workspace. -/
structure ParticipantIncarnationBinding where
  generation : Nat
  process : ParticipantProcessIdentity
  workspaceIdentityDigest : Digest
  artifactDirectoryIdentityDigest : Digest
deriving DecidableEq

/-- The identities derived by hashing a canonical JSON encoding. The encoder and the hash function
are libraries, so the derivations are parameters of the development. -/
class Canonical where
  runBinding : RunBinding → Digest
  measurementSchema : List MeasurementSpec → Digest
  measurementSampleSeed : Seed128Hex → Identifier → Nat → Seed128Hex
  participantProcess : ParticipantProcessIdentity → Digest
  participantIncarnation : ParticipantIncarnationBinding → Digest
  participantToolInvocationId : Digest → Identifier → Identifier
  providerTranscriptArtifactId : Identifier → ProviderTranscriptRole → Identifier

variable [Canonical]

structure RunHeader where
  runId : Digest
  binding : RunBinding
  runId_eq : runId = Canonical.runBinding binding

/-! ### Payloads -/

structure RunStartedPayload where
  bindingDigest : Digest
deriving DecidableEq

structure ParticipantIncarnationStartedPayload where
  incarnation : ParticipantIncarnationBinding
deriving DecidableEq

structure ParticipantIncarnationTerminatedPayload where
  incarnationDigest : Digest
  checkpointId : Identifier
  checkpointManifestDigest : Digest
deriving DecidableEq

structure ParticipantIncarnationRestoredPayload where
  predecessorIncarnationDigest : Digest
  incarnation : ParticipantIncarnationBinding
  checkpointId : Identifier
  checkpointManifestDigest : Digest
  restoredManifestDigest : Digest
  restored_eq : restoredManifestDigest = checkpointManifestDigest
deriving DecidableEq

structure InteractionRecordedPayload where
  direction : InteractionDirection
  interactionId : Identifier
  relatedInteractionId : Option Identifier := none
  toolName : Option Identifier := none
  related_iff : direction = .toolResult ↔ relatedInteractionId.isSome := by
    first
    | exact InteractionDirection.request_unrelated
    | exact InteractionDirection.result_related _
    | decide
  tool_iff : (direction = .toolRequest ∨ direction = .toolResult) ↔ toolName.isSome := by
    first | exact InteractionDirection.request_named _ | decide
deriving DecidableEq

@[ext]
structure ParticipantToolReservedPayload where
  requestInteractionId : Identifier
  invocationId : Identifier
  invocationDigest : Digest
  operationId : Identifier
  operationDigest : Digest
  inputManifestDigest : Digest
  toolId : Identifier
  capability : Capability
  executorId : Identifier
  licenseBindingId : Option Identifier := none
  budgetDigest : Digest
  reservedComputeMilliseconds : Nat
  reservedLicenseMilliseconds : Nat
  compute_bound : 1 ≤ reservedComputeMilliseconds ∧
    reservedComputeMilliseconds ≤ JCS_INTEGER_MAX := by decide
  license_iff : licenseBindingId = none ↔ reservedLicenseMilliseconds = 0 := by decide
  license_le : reservedLicenseMilliseconds ≤ reservedComputeMilliseconds := by
    first | exact Nat.zero_le _ | decide

instance : DecidableEq ParticipantToolReservedPayload := fun _ _ =>
  decidable_of_iff _ ParticipantToolReservedPayload.ext_iff.symm

@[ext]
structure ParticipantToolSettledPayload where
  requestInteractionId : Identifier
  invocationId : Identifier
  invocationDigest : Digest
  operationId : Identifier
  operationDigest : Digest
  inputManifestDigest : Digest
  evidenceArtifactId : Identifier
  elapsedMilliseconds : Nat
  licenseMilliseconds : Nat
  elapsed_bound : elapsedMilliseconds ≤ JCS_INTEGER_MAX := by decide
  license_le : licenseMilliseconds ≤ elapsedMilliseconds := by decide

instance : DecidableEq ParticipantToolSettledPayload := fun _ _ =>
  decidable_of_iff _ ParticipantToolSettledPayload.ext_iff.symm

structure ParticipantToolLostPayload where
  requestInteractionId : Identifier
  invocationId : Identifier
  invocationDigest : Digest
deriving DecidableEq

structure ProviderUsageFact where
  inputTokens : Nat
  outputTokens : Nat
  totalTokens : Nat
  cachedInputTokens : Option Nat := none
  reasoningTokens : Option Nat := none
  total_eq : totalTokens = inputTokens + outputTokens := by decide
  total_bound : totalTokens ≤ JCS_INTEGER_MAX := by decide
  cached_le : ∀ n ∈ cachedInputTokens, n ≤ inputTokens := by simp
  reasoning_le : ∀ n ∈ reasoningTokens, n ≤ outputTokens := by simp
deriving DecidableEq

structure ProviderSecurityBinding where
  canaryReceiptDigest : Digest
  runtimeSurfaceManifestDigest : Digest
  budgetBindingDigest : Digest
deriving DecidableEq

structure ProviderRequestStartedPayload where
  requestId : Identifier
  actorId : Identifier
  requestArtifactId : Identifier
  securityEvidenceArtifactId : Identifier
  providerProfileDigest : Digest
  providerConfigDigest : Digest
  requestedModel : ModelLabel
  requestedServiceTier : Option ServiceTierLabel := none
  observedInputTokenFloor : Nat := 0
  securityBinding : ProviderSecurityBinding
  reservedInputTokens : Nat
  reservedOutputTokens : Nat
  input_bound : reservedInputTokens ≤ JCS_INTEGER_MAX := by decide
  output_bound : 1 ≤ reservedOutputTokens ∧ reservedOutputTokens ≤ JCS_INTEGER_MAX := by decide
  floor_lt : observedInputTokenFloor < reservedInputTokens := by
    first | exact Nat.zero_lt_one | decide
deriving DecidableEq

structure ProviderResponseRecordedPayload where
  requestId : Identifier
  providerReportedModel : ModelLabel
  providerReportedServiceTier : Option ServiceTierLabel := none
  status : ProviderResponseStatus
  usage : Option ProviderUsageFact := none
deriving DecidableEq

structure ControlTransferredPayload where
  previousWriter : Identifier
  nextWriter : Identifier
  writer_ne : previousWriter ≠ nextWriter
deriving DecidableEq

structure CandidateSubmittedPayload where
  candidateId : Identifier
  candidateDigest : Digest
  parentCandidateId : Option Identifier := none
deriving DecidableEq

structure EvaluationStartedPayload where
  stageId : Identifier
  candidateId : Identifier
  jobId : Identifier
deriving DecidableEq

structure EvaluationCompletedPayload where
  candidateId : Identifier
  jobId : Identifier
  result : StageResult
deriving DecidableEq

structure ScoringRecordedPayload where
  candidateId : Identifier
  decision : ScoringDecision
deriving DecidableEq

structure LicenseLeaseBindingPayload where
  jobId : Identifier
  licenseBindingId : Identifier
  providerId : Identifier
  featureClass : Identifier
deriving DecidableEq

structure LicenseLeaseDeniedPayload extends LicenseLeaseBindingPayload where
  reason : LicenseDenialReason
deriving DecidableEq

structure ArtifactRecordedPayload where
  record : ArtifactRecord
deriving DecidableEq

structure CheckpointCommittedPayload where
  checkpointId : Identifier
  manifestDigest : Digest
  parentCheckpointId : Option Identifier := none
  checkpointKind : CheckpointKind := .filesystem
  driverDigest : Option Digest := none
  driver_iff : checkpointKind = .application ↔ driverDigest.isSome := by
    first | exact filesystem_driverless | decide
deriving DecidableEq

structure JobStateChangedPayload where
  jobId : Identifier
  state : JobStateKind
  reasonCode : Option Identifier := none
deriving DecidableEq

structure PolicyDecisionPayload where
  ruleId : Identifier
  decision : PolicyDecisionKind
  reasonCode : Identifier
deriving DecidableEq

structure RunEndedPayload where
  reason : StopReason
  successfulCandidateId : Option Identifier := none
  success_iff : reason = .verifierSuccess ↔ successfulCandidateId.isSome := by
    first | exact infrastructure_candidateless | decide
deriving DecidableEq

/-! ### Envelopes -/

@[ext]
structure EventBase where
  runId : Digest
  sequence : Nat
  eventId : UUID
  timestamp : Datetime
  producer : ProducerKind
  actor : Option Identifier := none
  visibility : Visibility
  artifactRefs : List Identifier := []
  refs_sorted : artifactRefs.Pairwise (· < ·) := by first | exact sorted_nil | simp
  actor_iff : producer = .participant ↔ actor.isSome := by
    first | exact ProducerKind.actorless ProducerKind.controller_ne | decide

instance : DecidableEq EventBase := fun _ _ => decidable_of_iff _ EventBase.ext_iff.symm

structure RunStartedEvent extends EventBase where
  payload : RunStartedPayload
deriving DecidableEq

structure ParticipantIncarnationEventBase extends EventBase where
  producer_eq : producer = .controller := by rfl
  visibility_eq : visibility = .verifier := by rfl
  no_refs : artifactRefs = [] := by rfl
deriving DecidableEq

structure ParticipantIncarnationStartedEvent extends ParticipantIncarnationEventBase where
  payload : ParticipantIncarnationStartedPayload
deriving DecidableEq

structure ParticipantIncarnationTerminatedEvent extends ParticipantIncarnationEventBase where
  payload : ParticipantIncarnationTerminatedPayload
deriving DecidableEq

structure ParticipantIncarnationRestoredEvent extends ParticipantIncarnationEventBase where
  payload : ParticipantIncarnationRestoredPayload
deriving DecidableEq

structure ProviderRequestStartedEvent extends EventBase where
  payload : ProviderRequestStartedPayload
  artifacts_ne : payload.requestArtifactId ≠ payload.securityEvidenceArtifactId
  refs_eq : ∀ a, a ∈ artifactRefs ↔
    a = payload.requestArtifactId ∨ a = payload.securityEvidenceArtifactId
deriving DecidableEq

structure ProviderResponseRecordedEvent extends EventBase where
  payload : ProviderResponseRecordedPayload
  one_ref : artifactRefs.length = 1 := by rfl
deriving DecidableEq

structure InteractionRecordedEvent extends EventBase where
  payload : InteractionRecordedPayload
deriving DecidableEq

structure ParticipantToolReservedEvent extends EventBase where
  payload : ParticipantToolReservedPayload
  producer_eq : producer = .controller := by rfl
  visibility_eq : visibility = .verifier := by rfl
  no_refs : artifactRefs = [] := by rfl
  invocation_eq : payload.invocationId =
    Canonical.participantToolInvocationId runId payload.requestInteractionId
deriving DecidableEq

structure ParticipantToolSettledEvent extends EventBase where
  payload : ParticipantToolSettledPayload
  producer_eq : producer = .controller := by rfl
  visibility_eq : visibility = .author := by rfl
  refs_eq : artifactRefs = [payload.evidenceArtifactId]
deriving DecidableEq

structure ParticipantToolLostEvent extends EventBase where
  payload : ParticipantToolLostPayload
  producer_eq : producer = .controller := by rfl
  visibility_eq : visibility = .verifier := by rfl
  no_refs : artifactRefs = [] := by rfl
deriving DecidableEq

structure ControlTransferredEvent extends EventBase where
  payload : ControlTransferredPayload
deriving DecidableEq

structure CandidateSubmittedEvent extends EventBase where
  payload : CandidateSubmittedPayload
deriving DecidableEq

structure EvaluationStartedEvent extends EventBase where
  payload : EvaluationStartedPayload
deriving DecidableEq

structure EvaluationCompletedEvent extends EventBase where
  payload : EvaluationCompletedPayload
deriving DecidableEq

structure ScoringRecordedEvent extends EventBase where
  payload : ScoringRecordedPayload
  no_refs : artifactRefs = [] := by rfl
deriving DecidableEq

structure LicenseLeaseEventBase extends EventBase where
  producer_eq : producer = .controller := by rfl
  visibility_eq : visibility = .verifier := by rfl
  no_refs : artifactRefs = [] := by rfl
deriving DecidableEq

structure LicenseLeaseAcquiredEvent extends LicenseLeaseEventBase where
  payload : LicenseLeaseBindingPayload
deriving DecidableEq

structure LicenseLeaseDeniedEvent extends LicenseLeaseEventBase where
  payload : LicenseLeaseDeniedPayload
deriving DecidableEq

/-- Restart recovery lost custody of an opaque active lease. -/
structure LicenseLeaseLostEvent extends LicenseLeaseEventBase where
  payload : LicenseLeaseBindingPayload
deriving DecidableEq

structure LicenseLeaseReleasedEvent extends LicenseLeaseEventBase where
  payload : LicenseLeaseBindingPayload
deriving DecidableEq

structure ArtifactRecordedEvent extends EventBase where
  payload : ArtifactRecordedPayload
  no_refs : artifactRefs = [] := by first | exact refs_nil | rfl
deriving DecidableEq

structure CheckpointCommittedEvent extends EventBase where
  payload : CheckpointCommittedPayload
  one_ref : artifactRefs.length = 1 := by rfl
deriving DecidableEq

structure JobStateChangedEvent extends EventBase where
  payload : JobStateChangedPayload
deriving DecidableEq

structure PolicyDecisionEvent extends EventBase where
  payload : PolicyDecisionPayload
deriving DecidableEq

structure RunEndedEvent extends EventBase where
  payload : RunEndedPayload
deriving DecidableEq

inductive RunEvent
  | runStarted (event : RunStartedEvent)
  | participantIncarnationStarted (event : ParticipantIncarnationStartedEvent)
  | participantIncarnationTerminated (event : ParticipantIncarnationTerminatedEvent)
  | participantIncarnationRestored (event : ParticipantIncarnationRestoredEvent)
  | providerRequestStarted (event : ProviderRequestStartedEvent)
  | providerResponseRecorded (event : ProviderResponseRecordedEvent)
  | interactionRecorded (event : InteractionRecordedEvent)
  | participantToolReserved (event : ParticipantToolReservedEvent)
  | participantToolSettled (event : ParticipantToolSettledEvent)
  | participantToolLost (event : ParticipantToolLostEvent)
  | controlTransferred (event : ControlTransferredEvent)
  | candidateSubmitted (event : CandidateSubmittedEvent)
  | evaluationStarted (event : EvaluationStartedEvent)
  | evaluationCompleted (event : EvaluationCompletedEvent)
  | scoringRecorded (event : ScoringRecordedEvent)
  | licenseLeaseAcquired (event : LicenseLeaseAcquiredEvent)
  | licenseLeaseDenied (event : LicenseLeaseDeniedEvent)
  | licenseLeaseLost (event : LicenseLeaseLostEvent)
  | licenseLeaseReleased (event : LicenseLeaseReleasedEvent)
  | artifactRecorded (event : ArtifactRecordedEvent)
  | checkpointCommitted (event : CheckpointCommittedEvent)
  | jobStateChanged (event : JobStateChangedEvent)
  | policyDecision (event : PolicyDecisionEvent)
  | runEnded (event : RunEndedEvent)
deriving DecidableEq

def RunEvent.base : RunEvent → EventBase
  | .runStarted event => event.toEventBase
  | .participantIncarnationStarted event => event.toEventBase
  | .participantIncarnationTerminated event => event.toEventBase
  | .participantIncarnationRestored event => event.toEventBase
  | .providerRequestStarted event => event.toEventBase
  | .providerResponseRecorded event => event.toEventBase
  | .interactionRecorded event => event.toEventBase
  | .participantToolReserved event => event.toEventBase
  | .participantToolSettled event => event.toEventBase
  | .participantToolLost event => event.toEventBase
  | .controlTransferred event => event.toEventBase
  | .candidateSubmitted event => event.toEventBase
  | .evaluationStarted event => event.toEventBase
  | .evaluationCompleted event => event.toEventBase
  | .scoringRecorded event => event.toEventBase
  | .licenseLeaseAcquired event => event.toEventBase
  | .licenseLeaseDenied event => event.toEventBase
  | .licenseLeaseLost event => event.toEventBase
  | .licenseLeaseReleased event => event.toEventBase
  | .artifactRecorded event => event.toEventBase
  | .checkpointCommitted event => event.toEventBase
  | .jobStateChanged event => event.toEventBase
  | .policyDecision event => event.toEventBase
  | .runEnded event => event.toEventBase

/-! ### Derived records -/

/-- A settled or lost participant tool fact. -/
inductive ParticipantToolTerminal
  | settled (event : ParticipantToolSettledEvent)
  | lost (event : ParticipantToolLostEvent)
deriving DecidableEq

/-- One participant executor reservation and its optional terminal fact. -/
structure ParticipantToolDispatch where
  reservation : ParticipantToolReservedEvent
  terminal : Option ParticipantToolTerminal := none
deriving DecidableEq

structure ParticipantIncarnationRecovery where
  termination : ParticipantIncarnationTerminatedPayload
  terminatedSequence : Nat
  restoredSequence : Nat
  restoredIncarnationDigest : Digest
  restoredManifestDigest : Digest

/-- Participant controller generations of one journal prefix. -/
structure ParticipantIncarnationLifecycle where
  incarnations : List ParticipantIncarnationBinding := []
  initialStartedSequence : Option Nat := none
  recoveries : List ParticipantIncarnationRecovery := []
  activeIncarnation : Option ParticipantIncarnationBinding := none
  pendingTermination : Option ParticipantIncarnationTerminatedPayload := none
  pendingTerminationSequence : Option Nat := none

structure CandidateState where
  candidateId : Identifier
  digest : Digest
  parentCandidateId : Option Identifier
  actor : Identifier
deriving DecidableEq

structure CandidateStageResult where
  candidateId : Identifier
  result : StageResult
deriving DecidableEq

structure CandidateScoringState where
  candidateId : Identifier
  decision : ScoringDecision
deriving DecidableEq

structure JobStateSnapshot where
  jobId : Identifier
  state : JobStateKind
deriving DecidableEq

/-- A request fact, completed by the facts of its response once that is recorded. -/
structure ProviderRequestState where
  requestId : Identifier
  actorId : Identifier
  requestArtifactId : Identifier
  securityEvidenceArtifactId : Identifier
  providerProfileDigest : Digest
  providerConfigDigest : Digest
  requestedModel : ModelLabel
  requestedServiceTier : Option ServiceTierLabel
  observedInputTokenFloor : Nat
  securityBinding : ProviderSecurityBinding
  reservedInputTokens : Nat
  reservedOutputTokens : Nat
  providerReportedModel : Option ModelLabel := none
  providerReportedServiceTier : Option ServiceTierLabel := none
  status : Option ProviderResponseStatus := none
  usage : Option ProviderUsageFact := none
deriving DecidableEq

/-- Conservative journal-derived participant execution usage. -/
structure ParticipantToolUsage where
  edaComputeMilliseconds : Nat
  licenseMilliseconds : Nat

structure RunState where
  runId : Digest
  nextSequence : Nat
  currentWriter : Identifier
  candidates : List CandidateState
  stageResults : List CandidateStageResult
  scoring : List CandidateScoringState
  artifacts : List ArtifactRecord
  checkpointIds : List Identifier
  interactionIds : List Identifier
  providerRequests : List ProviderRequestState
  jobs : List JobStateSnapshot
  terminalReason : Option StopReason
  successfulCandidateId : Option Identifier
deriving DecidableEq

end EdaGym
