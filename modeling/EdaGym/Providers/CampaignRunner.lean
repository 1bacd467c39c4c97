import EdaGym.Participants.Recorder
import EdaGym.Providers.CampaignReplay

/-!
# The provider accounting of a campaign runner

Every operation replays the committed events of the campaign journal, builds its events against the
result and commits them. A reservation handle serves one request and is spent when that request has
been cancelled or settled, so the flags that forbid a second use of it never refuse.
-/

namespace EdaGym

variable [Canonical] [CampaignCanonical]

/-! ### The journal -/

section Journal

variable (header : CampaignHeader) (committed : List CampaignEvent)

/-- `CampaignJournal.transact` with the events its factory has built. -/
def transactCampaign (requested : List CampaignEvent) :
    Except CampaignError (List CampaignEvent) := do
  raiseIf (requested = [])
    (.valueError "a campaign transaction must contain at least one event")
  raiseIf (requested.map CampaignEvent.sequence ≠
      List.range' committed.length requested.length)
    (.conflict "campaign transaction does not own its event positions")
  raiseIf (¬ (requested.map CampaignEvent.eventId).Nodup ∨
      ∃ e ∈ requested, e.eventId ∈ committed.map CampaignEvent.eventId)
    (.conflict "campaign event identifier is already owned")
  let _ ← replayCampaign header (committed ++ requested)
  return committed ++ requested

/-- Apply one event to the replayed record, then commit it. -/
def commitCampaignEvent (eventId : UUID) (payload : CampaignEventPayload) :
    Except CampaignError (List CampaignEvent) := do
  let state ← replayCampaign header committed
  let event := { eventId, sequence := committed.length, payload }
  let _ ← applyCampaignEvent header state event
  transactCampaign header committed [event]

end Journal

/-! ### Reservations -/

/-- A pre-dispatch reservation owned by the runner. -/
structure CampaignReservation where
  trialId : Identifier
  reservationId : Identifier
  claim : CampaignResources
  provider : ProviderReservationBinding
deriving DecidableEq

def RequestTokenClaim.resources (claim : RequestTokenClaim) : CampaignResources where
  requests := 1
  inputTokens := claim.inputTokens
  outputTokens := claim.outputTokens
  turns := 0
  toolCalls := 0
  wallSeconds := 0
  edaComputeSeconds := 0
  licenseSeconds := 0
  artifactBytes := 0
  bounded := by
    intro item
    have h₁ := claim.input_bound
    have h₂ := claim.output_bound.2
    cases item <;> simp only [ResourceVector.get] <;> first | assumption | decide

section Runner

variable (header : CampaignHeader)

/-- The checks of a retry against the attempts already settled for its request. -/
def validateRetry (attempts : List ProviderAttemptRecord) (requestKey : Identifier) :
    Except CampaignError Unit :=
  let matching := attempts.filter fun attempt => attempt.requestKey = requestKey
  match matching.getLast? with
  | none => .ok ⟨⟩
  | some previous => do
    raiseIf (previous.disposition ≠ .retryableFailure)
      (.accounting "only retryable failures admit another attempt")
    raiseIf (header.campaign.retryPolicy.maxRequestAttempts < matching.length + 1)
      (.accounting "provider retry policy is exhausted")
    raiseIf (¬ ∃ condition ∈ previous.failureCondition,
        condition ∈ header.campaign.retryPolicy.retryConditions)
      (.accounting "provider failure is not admitted by retry policy")

/-- Reserve one provider attempt. A claim beyond the budget is journaled as a stop, and the second
component says what to raise. -/
def reserveProviderAttempt (trialId requestKey : Identifier) (requestedModel : ModelLabel)
    (tokenClaim : RequestTokenClaim) (securityBinding : ProviderSecurityBinding)
    (reservationId : Identifier) (eventId : UUID) (committed : List CampaignEvent) :
    Except CampaignError (List CampaignEvent × Except BudgetRejection CampaignReservation) := do
  let claim := tokenClaim.resources
  let state ← replayCampaign header committed
  let trial ← scheduledTrial header trialId
  raiseIf (requestedModel ≠ trial.binding.requestedModel)
    (.accounting "provider request model does not match the frozen trial route")
  raiseIf (tokenClaim.observedInputTokenFloor ≠ trial.binding.observedInputTokenFloor)
    (.accounting "observed input token floor does not match the frozen trial route")
  raiseIf (securityBinding.budgetBindingDigest ≠
      CampaignCanonical.budgetProjection header.campaign header.schedule)
    (.accounting "provider security binding has the wrong campaign budget")
  let ledger ← readyCampaignProjection state trialId
  validateRetry header ledger.attempts requestKey
  let provider : ProviderReservationBinding := {
    requestKey
    attemptNumber :=
      (ledger.attempts.filter fun attempt => attempt.requestKey = requestKey).length + 1
    observedInputTokenFloor := tokenClaim.observedInputTokenFloor
    securityBinding }
  let rejection ← reservationRejection state header.campaign trialId claim true
  match rejection with
  | some rejection => do
    let committed ← commitCampaignEvent header committed eventId (.budgetStopped {
      dimension := rejection.dimension, trialId, perTrial := rejection.perTrial,
      rejectedClaim := claim })
    return (committed, .error rejection)
  | none => do
    let committed ← commitCampaignEvent header committed eventId (.reservationCreated {
      reservationId, trialId, claim, provider := some provider })
    return (committed, .ok { trialId, reservationId, claim, provider })

def markDispatched (reservation : CampaignReservation) (eventId : UUID)
    (committed : List CampaignEvent) : Except CampaignError (List CampaignEvent) :=
  commitCampaignEvent header committed eventId
    (.reservationDispatched { reservationId := reservation.reservationId })

def cancel (reservation : CampaignReservation) (eventId : UUID) (committed : List CampaignEvent) :
    Except CampaignError (List CampaignEvent) :=
  commitCampaignEvent header committed eventId
    (.reservationCancelled { reservationId := reservation.reservationId })

/-! ### Settlement -/

/-- The charged resources: what the provider reported, or else the whole claim. -/
def chargedResources (claim : CampaignResources) (usage : Option UsageCounters) :
    CampaignResources where
  requests := 1
  inputTokens := usage.elim claim.inputTokens UsageCounters.inputTokens
  outputTokens := usage.elim claim.outputTokens UsageCounters.outputTokens
  turns := 0
  toolCalls := 0
  wallSeconds := 0
  edaComputeSeconds := 0
  licenseSeconds := 0
  artifactBytes := 0
  bounded := by
    intro item
    cases usage with
    | none =>
      have h₁ := claim.bounded .inputTokens
      have h₂ := claim.bounded .outputTokens
      cases item <;> simp only [ResourceVector.get] <;> first | assumption | decide
    | some counters =>
      have h₁ := counters.total_eq
      have h₂ := counters.total_bound
      cases item <;> simp only [ResourceVector.get, Option.elim] <;> first | omega | decide

/-- The facts of a response that a completed attempt repeats. -/
structure ResponseFacts where
  model : Option ModelLabel := none
  serviceTier : Option ServiceTierLabel := none
  status : Option ProviderResponseStatus := none

/-- `ProviderAttemptRecord(...)` for a reservation of the trial, with its validators. -/
def attemptRecord (trial : ScheduledTrial) (claim : CampaignResources)
    (provider : ProviderReservationBinding) (disposition : AttemptDisposition)
    (failureCondition : Option RetryCondition) (facts : ResponseFacts)
    (usage : Option UsageCounters) : Except CampaignError ProviderAttemptRecord :=
  if hclaim : 1 ≤ claim.outputTokens ∧ provider.observedInputTokenFloor < claim.inputTokens then
    if hretry : disposition = .retryableFailure ↔ failureCondition.isSome then
      if hcompleted : disposition = .completed → facts.model.isSome ∧ facts.status.isSome then
        if hfailed : disposition ≠ .completed →
            facts.model = none ∧ facts.status = none ∧ facts.serviceTier = none then
          .ok {
            requestKey := provider.requestKey
            attemptNumber := provider.attemptNumber
            reservedTokenClaim := {
              inputTokens := claim.inputTokens
              outputTokens := claim.outputTokens
              observedInputTokenFloor := provider.observedInputTokenFloor
              input_bound := claim.bounded .inputTokens
              output_bound := ⟨hclaim.1, claim.bounded .outputTokens⟩
              floor_lt := hclaim.2 }
            disposition, failureCondition
            requestedModel := trial.binding.requestedModel
            requestedServiceTier := trial.binding.serviceTier
            securityBinding := provider.securityBinding
            providerReportedModel := facts.model
            providerReportedServiceTier := facts.serviceTier
            providerResponseStatus := facts.status
            providerUsage := usage
            chargedResources := chargedResources claim usage
            retryable_iff := hretry
            completed_facts := hcompleted
            failed_facts := hfailed
            charged_provider := ⟨rfl, rfl, rfl, rfl, rfl, rfl, rfl⟩
            charged_usage := by
              rintro counters rfl
              exact ⟨rfl, rfl⟩ }
        else .error (.valueError "failed provider attempts cannot carry response facts")
      else
        .error (.valueError "completed provider attempts require response identity and status")
    else
      .error (.valueError "retryable provider failures require exactly one retry condition")
  else .error (.valueError "input token reservation must exceed the observed route floor")

def UsageCounters.fromProviderUsage (usage : ProviderUsage) : Except CampaignError UsageCounters :=
  if h : usage.totalTokens ≤ JCS_INTEGER_MAX then .ok {
    inputTokens := usage.inputTokens
    outputTokens := usage.outputTokens
    totalTokens := usage.totalTokens
    cachedInputTokens := usage.cachedInputTokens
    reasoningTokens := usage.reasoningTokens
    total_eq := usage.total_eq
    total_bound := h
    cached_le := usage.cached_le
    reasoning_le := usage.reasoning_le }
  else .error (.valueError "Input should be less than or equal to 9007199254740991")

/-- Settle a dispatched provider attempt. -/
def settleProvider (reservation : CampaignReservation) (disposition : AttemptDisposition)
    (usage : Option ProviderUsage) (facts : ResponseFacts)
    (failureCondition : Option RetryCondition) (eventId : UUID) (committed : List CampaignEvent) :
    Except CampaignError (List CampaignEvent) := do
  raiseIf (∃ label ∈ facts.model, ¬ IsModelLabel label)
    (.valueError "String should match pattern")
  raiseIf (¬ (disposition = .retryableFailure ↔ failureCondition.isSome))
    (.valueError "retryable provider failures require exactly one retry condition")
  raiseIf (∃ condition ∈ failureCondition,
      condition ∉ header.campaign.retryPolicy.retryConditions)
    (.valueError "provider failure condition is not admitted by retry policy")
  raiseIf (disposition = .completed ∧ (facts.model = none ∨ facts.status = none))
    (.valueError "completed provider attempts require response identity and status")
  raiseIf (disposition ≠ .completed ∧ (facts.model ≠ none ∨ facts.serviceTier ≠ none ∨
      facts.status ≠ none ∨ usage ≠ none))
    (.valueError "failed provider attempts cannot carry response facts")
  let providerUsage ← usage.mapM UsageCounters.fromProviderUsage
  let trial ← scheduledTrial header reservation.trialId
  let attempt ← attemptRecord trial reservation.claim reservation.provider disposition
    failureCondition facts providerUsage
  commitCampaignEvent header committed eventId
    (.providerAttemptSettled { reservationId := reservation.reservationId, attempt })

def settleCompleted (reservation : CampaignReservation) (result : ResponsesResult) :
    UUID → List CampaignEvent → Except CampaignError (List CampaignEvent) :=
  settleProvider header reservation .completed result.usage
    { model := some result.reportedModel, serviceTier := result.reportedServiceTier,
      status := some result.status } none

def settleFailed (reservation : CampaignReservation) (failureCondition : Option RetryCondition) :
    UUID → List CampaignEvent → Except CampaignError (List CampaignEvent) :=
  let admitted := failureCondition.filter fun condition =>
    condition ∈ header.campaign.retryPolicy.retryConditions
  settleProvider header reservation
    (if admitted.isSome then .retryableFailure else .terminalFailure) none {} admitted

/-! ### Recovery -/

/-- The run request a reservation stands for is another one. -/
def RequestDiffers (trial : ScheduledTrial) (reservation : ReservationLedger)
    (provider : ProviderReservationBinding) (request : ProviderRequestState) : Prop :=
  request.providerProfileDigest ≠ trial.binding.harness.providerProfileDigest ∨
    request.providerConfigDigest ≠ trial.binding.harness.providerConfigDigest ∨
    request.requestedModel ≠ trial.binding.requestedModel ∨
    request.requestedServiceTier ≠ some trial.binding.serviceTier ∨
    request.observedInputTokenFloor ≠ provider.observedInputTokenFloor ∨
    request.securityBinding ≠ provider.securityBinding ∨
    request.reservedInputTokens ≠ reservation.claim.inputTokens ∨
    request.reservedOutputTokens ≠ reservation.claim.outputTokens

instance (trial : ScheduledTrial) (reservation : ReservationLedger)
    (provider : ProviderReservationBinding) (request : ProviderRequestState) :
    Decidable (RequestDiffers trial reservation provider request) :=
  inferInstanceAs (Decidable (_ ∨ _))

def UsageCounters.ofFact (fact : ProviderUsageFact) : UsageCounters where
  inputTokens := fact.inputTokens
  outputTokens := fact.outputTokens
  totalTokens := fact.totalTokens
  cachedInputTokens := fact.cachedInputTokens
  reasoningTokens := fact.reasoningTokens
  total_eq := fact.total_eq
  total_bound := fact.total_bound
  cached_le := fact.cached_le
  reasoning_le := fact.reasoning_le

/-- The event that closes a provider reservation whose owner is gone. -/
def recoveryPayload (trial : ScheduledTrial) (requests : Dict Identifier ProviderRequestState)
    (reservationId : Identifier) (reservation : ReservationLedger)
    (provider : ProviderReservationBinding) : Except CampaignError CampaignEventPayload := do
  let request := requests.get? provider.requestKey
  raiseIf (∃ r ∈ request, RequestDiffers trial reservation provider r)
    (.accounting "run provider request differs from its campaign reservation")
  if reservation.dispatched = false then
    raiseIf (∃ r ∈ request, r.status ≠ none)
      (.accounting "an undispatched provider reservation has response evidence")
    return .reservationCancelled { reservationId }
  let request ← orRaise request
    (.accounting "a dispatched provider reservation lacks run request evidence")
  raiseIf (request.status ≠ none ∧ request.providerReportedModel = none)
    (.accounting "a completed provider request lacks response identity")
  let attempt ← attemptRecord trial reservation.claim provider
    (if request.status ≠ none then .completed else .terminalFailure) none
    (if request.status ≠ none then
      { model := request.providerReportedModel
        serviceTier := request.providerReportedServiceTier
        status := request.status }
    else {})
    (request.usage.map UsageCounters.ofFact)
  return .providerAttemptSettled { reservationId, attempt }

/-- The projection and the events a recovery has built so far. -/
structure CampaignRecovery where
  state : CampaignProjection
  events : List CampaignEvent := []
  reservationIds : List Identifier := []

def recoverReservation (trial : ScheduledTrial) (requests : Dict Identifier ProviderRequestState)
    (eventIds : Nat → UUID) (committed : Nat) (recovery : CampaignRecovery)
    (entry : Identifier × ReservationLedger) : Except CampaignError CampaignRecovery :=
  match entry.2.provider with
  | none => .ok recovery
  | some provider =>
    if entry.2.trialId ≠ trial.trialId then .ok recovery
    else do
      let payload ← recoveryPayload trial requests entry.1 entry.2 provider
      let event := {
        eventId := eventIds recovery.events.length
        sequence := committed + recovery.events.length
        payload }
      let state ← applyCampaignEvent header recovery.state event
      return {
        state
        events := recovery.events ++ [event]
        reservationIds := recovery.reservationIds ++ [entry.1] }

/-- Reconcile the provider reservations of a trial against its resumed run journal; the result is
the campaign journal and, if there was anything to do, the reservations that were closed. -/
def recoverIncompleteProviderDispatches (trialId : Identifier)
    (providerRequests : List ProviderRequestState) (eventIds : Nat → UUID)
    (committed : List CampaignEvent) :
    Except CampaignError (List CampaignEvent × Option (List Identifier)) := do
  let requests := Dict.ofList (providerRequests.map fun request => (request.requestId, request))
  raiseIf (requests.entries.length ≠ providerRequests.length)
    (.accounting "run provider request identities are duplicated")
  let state ← replayCampaign header committed
  if ¬ ∃ reservation ∈ state.reservations.values,
      reservation.trialId = trialId ∧ reservation.provider.isSome then
    return (committed, none)
  let trial ← scheduledTrial header trialId
  let recovery ← foldSteps
    (recoverReservation header trial requests eventIds committed.length) { state }
    (sortedBy Prod.fst state.reservations.entries)
  let committed ← transactCampaign header committed recovery.events
  return (committed, some recovery.reservationIds)

end Runner

end EdaGym
