import EdaGym.Providers.Budget
import EdaGym.Run.Model

/-!
# Campaign envelopes and accounting events

The parts of a campaign header that the accounting replay reads, and the durable events of a
campaign journal. Digests of whole documents are fields of the documents.
-/

namespace EdaGym

inductive RetryCondition
  | connectFailure | serverUnavailable | rateLimited
deriving DecidableEq, Repr

inductive AttemptDisposition
  | completed | retryableFailure | terminalFailure
deriving DecidableEq, Repr

inductive TrialDisposition
  | completedRun | failedBeforeRun | notDispatched
deriving DecidableEq, Repr

inductive UnknownSpendReason
  | providerReportingUnavailable | providerReportingIncomplete | trialNotDispatched
deriving DecidableEq, Repr

inductive SpendObservation
  | known (currency : String) (amount : CanonicalDecimal) (nonneg : 0 ≤ amount)
  | unknown (reason : UnknownSpendReason)
deriving DecidableEq

/-! ### The frozen header -/

@[ext]
structure RetryPolicy where
  maxRequestAttempts : Nat
  backoffMilliseconds : Nat
  retryConditions : List RetryCondition := []
  attempts_pos : 1 ≤ maxRequestAttempts := by first | exact Nat.zero_lt_one | decide
  conditions_nodup : retryConditions.Nodup := by first | exact List.nodup_nil | decide
  conditions_iff : 1 < maxRequestAttempts ↔ retryConditions ≠ [] := by decide

instance : DecidableEq RetryPolicy := fun _ _ => decidable_of_iff _ RetryPolicy.ext_iff.symm

structure CampaignSpec where
  feedbackPolicyDigest : Digest
  retryPolicy : RetryPolicy
  tokenLimits : CampaignTokenLimits
  executionLimits : CampaignExecutionLimits
  digest : Digest
  retries_le : retryPolicy.maxRequestAttempts ≤ tokenLimits.maxRequestsPerTrial := by decide

/-- Provider-backed harness identity admissible for paid campaign tasks. -/
structure MeteredProviderHarnessBinding where
  providerProfileDigest : Digest
  providerConfigDigest : Digest
  scaffoldDigest : Digest
  digest : Digest
deriving DecidableEq

structure CampaignTask where
  taskReleaseDigest : Digest
  evaluatorStageIds : List Identifier
  stages_nodup : evaluatorStageIds.Nodup := by first | exact List.nodup_singleton _ | decide
deriving DecidableEq

structure TrialBinding where
  campaignDigest : Digest
  taskReleaseDigest : Digest
  taskFamily : Identifier
  environmentDigest : Digest
  harness : MeteredProviderHarnessBinding
  routeId : Identifier
  requestedModel : ModelLabel
  reasoningEffort : String
  serviceTier : ServiceTierLabel
  observedInputTokenFloor : Nat
  pairedSeed : Seed128Hex
  repetitionIndex : Nat
deriving DecidableEq

structure ScheduledTrial where
  trialId : Identifier
  binding : TrialBinding
  digest : Digest
deriving DecidableEq

structure CampaignSchedule where
  trials : List ScheduledTrial
  digest : Digest
  trials_ne_nil : trials ≠ [] := by decide
  trials_nodup : (trials.map ScheduledTrial.trialId).Nodup := by decide

/-- The digests of a resolved provider configuration and of its profile. The wire protocol has
one value, so comparing it decides nothing. -/
structure ResolvedProviderConfig where
  profileDigest : Digest
  digest : Digest

structure CampaignHeader where
  campaign : CampaignSpec
  providerConfig : ResolvedProviderConfig
  tasks : List CampaignTask
  schedule : CampaignSchedule
  tasks_nodup : (tasks.map CampaignTask.taskReleaseDigest).Nodup := by decide

/-- The digest of the budget bounds approved before dispatch, a function of campaign and
schedule. -/
class CampaignCanonical where
  budgetProjection : CampaignSpec → CampaignSchedule → Digest

/-! ### Attempts and outcomes -/

@[ext]
structure RequestTokenClaim where
  inputTokens : Nat
  outputTokens : Nat
  observedInputTokenFloor : Nat := 0
  input_bound : inputTokens ≤ JCS_INTEGER_MAX := by decide
  output_bound : 1 ≤ outputTokens ∧ outputTokens ≤ JCS_INTEGER_MAX := by decide
  floor_lt : observedInputTokenFloor < inputTokens := by decide

instance : DecidableEq RequestTokenClaim := fun _ _ =>
  decidable_of_iff _ RequestTokenClaim.ext_iff.symm

@[ext]
structure UsageCounters where
  inputTokens : Nat
  outputTokens : Nat
  totalTokens : Nat
  cachedInputTokens : Option Nat := none
  reasoningTokens : Option Nat := none
  total_eq : totalTokens = inputTokens + outputTokens := by decide
  total_bound : totalTokens ≤ JCS_INTEGER_MAX := by decide
  cached_le : ∀ n ∈ cachedInputTokens, n ≤ inputTokens := by simp
  reasoning_le : ∀ n ∈ reasoningTokens, n ≤ outputTokens := by simp

instance : DecidableEq UsageCounters := fun _ _ => decidable_of_iff _ UsageCounters.ext_iff.symm

/-- One request and its tokens, no execution resources. -/
def CampaignResources.ProviderOnly (r : CampaignResources) : Prop :=
  r.requests = 1 ∧ r.turns = 0 ∧ r.toolCalls = 0 ∧ r.wallSeconds = 0 ∧
    r.edaComputeSeconds = 0 ∧ r.licenseSeconds = 0 ∧ r.artifactBytes = 0

instance (r : CampaignResources) : Decidable r.ProviderOnly :=
  inferInstanceAs (Decidable (_ ∧ _))

structure ProviderAttemptRecord where
  requestKey : Identifier
  attemptNumber : Nat
  reservedTokenClaim : RequestTokenClaim
  disposition : AttemptDisposition
  failureCondition : Option RetryCondition := none
  requestedModel : ModelLabel
  requestedServiceTier : ServiceTierLabel
  securityBinding : ProviderSecurityBinding
  providerReportedModel : Option ModelLabel := none
  providerReportedServiceTier : Option ServiceTierLabel := none
  providerResponseStatus : Option ProviderResponseStatus := none
  providerUsage : Option UsageCounters := none
  chargedResources : CampaignResources
  retryable_iff : disposition = .retryableFailure ↔ failureCondition.isSome := by decide
  completed_facts : disposition = .completed →
    providerReportedModel.isSome ∧ providerResponseStatus.isSome := by decide
  failed_facts : disposition ≠ .completed →
    providerReportedModel = none ∧ providerResponseStatus = none ∧
      providerReportedServiceTier = none := by decide
  charged_provider : chargedResources.ProviderOnly
  charged_usage : ∀ usage ∈ providerUsage, chargedResources.inputTokens = usage.inputTokens ∧
    chargedResources.outputTokens = usage.outputTokens
deriving DecidableEq

/-! The defaults of an outcome hold by these facts. -/

lemma resultKeys_nil :
    (([] : List CandidateStageResult).map fun r => (r.candidateId, r.result.stageId)).Nodup :=
  List.nodup_nil

lemma failed_runless {α : Type} :
    TrialDisposition.failedBeforeRun = .completedRun ↔ (none : Option α).isSome := by simp

lemma failed_resultless : TrialDisposition.failedBeforeRun ≠ .completedRun →
    ([] : List CandidateStageResult) = [] ∧ ([] : List ProviderRequestState) = [] :=
  fun _ => ⟨rfl, rfl⟩

lemma infrastructure_unsuccessful (disposition : TrialDisposition) :
    StopReason.infrastructureFailure = .verifierSuccess → disposition = .completedRun :=
  fun h => by cases h

/-- Typed terminal facts ingested from a real run or an explicit non-run. -/
structure TrialRunOutcome [Canonical] where
  disposition : TrialDisposition
  terminalReason : StopReason
  runId : Option Digest := none
  runBinding : Option RunBinding := none
  stageResults : List CandidateStageResult := []
  providerRequests : List ProviderRequestState := []
  providerSpend : SpendObservation
  results_nodup :
    (stageResults.map fun r => (r.candidateId, r.result.stageId)).Nodup := by
      first | exact resultKeys_nil | simp
  completed_iff : disposition = .completedRun ↔ runId.isSome := by
    first | exact failed_runless | decide
  binding_iff : disposition = .completedRun ↔ runBinding.isSome := by
    first | exact failed_runless | decide
  run_eq : ∀ binding ∈ runBinding, runId = some (Canonical.runBinding binding) := by simp
  not_completed : disposition ≠ .completedRun → stageResults = [] ∧ providerRequests = [] := by
    first | exact failed_resultless | simp
  requests_nodup : (providerRequests.map ProviderRequestState.requestId).Nodup := by
    first | exact List.nodup_nil | simp
  success_completed : terminalReason = .verifierSuccess → disposition = .completedRun := by
    first | exact infrastructure_unsuccessful _ | decide
  not_dispatched_spend : disposition = .notDispatched →
    ∃ reason, providerSpend = .unknown reason := by simp

/-! ### Events -/

structure ProviderReservationBinding where
  requestKey : Identifier
  attemptNumber : Nat
  observedInputTokenFloor : Nat
  securityBinding : ProviderSecurityBinding
deriving DecidableEq

structure ReservationCreatedPayload where
  reservationId : Identifier
  trialId : Identifier
  claim : CampaignResources
  provider : Option ProviderReservationBinding := none

structure ReservationDispatchedPayload where
  reservationId : Identifier

structure ReservationCancelledPayload where
  reservationId : Identifier

structure WorkSettledPayload where
  reservationId : Identifier
  actual : CampaignResources

structure ProviderAttemptSettledPayload where
  reservationId : Identifier
  attempt : ProviderAttemptRecord

structure TrialOutcomeRecordedPayload [Canonical] where
  trialId : Identifier
  outcome : TrialRunOutcome

structure BudgetStoppedPayload where
  dimension : BudgetDimension
  trialId : Identifier
  perTrial : Bool
  rejectedClaim : CampaignResources

inductive CampaignEventPayload [Canonical]
  | reservationCreated (payload : ReservationCreatedPayload)
  | reservationDispatched (payload : ReservationDispatchedPayload)
  | reservationCancelled (payload : ReservationCancelledPayload)
  | workSettled (payload : WorkSettledPayload)
  | providerAttemptSettled (payload : ProviderAttemptSettledPayload)
  | trialOutcomeRecorded (payload : TrialOutcomeRecordedPayload)
  | budgetStopped (payload : BudgetStoppedPayload)

structure CampaignEvent [Canonical] where
  eventId : UUID
  sequence : Nat
  payload : CampaignEventPayload

end EdaGym
