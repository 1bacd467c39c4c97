import EdaGym.Providers.Campaign

/-!
# Replay of campaign accounting events

`replayCampaign` folds `applyCampaignEvent` over the events of a campaign journal. The state holds
one ledger for the campaign and one for each scheduled trial.
-/

namespace EdaGym

variable [Canonical] [CampaignCanonical]

inductive CampaignError
  | accounting (message : String)
  | budgetExceeded (dimension : BudgetDimension) (perTrial : Bool)
  | valueError (message : String)
  | arithmeticError (message : String)
  | lookupError (message : String)
  | conflict (message : String)
deriving DecidableEq, Repr

structure TrialProjection where
  committed : MutableResources := .zero
  reserved : MutableResources := .zero
  attempts : List ProviderAttemptRecord := []
  cancelledProviderRequests : List Identifier := []
  outcome : Option TrialRunOutcome := none
  accountingViolation : Bool := false

structure ReservationLedger where
  trialId : Identifier
  claim : CampaignResources
  provider : Option ProviderReservationBinding
  dispatched : Bool := false
deriving DecidableEq

structure CampaignProjection where
  ledgers : Dict Identifier TrialProjection
  reservations : Dict Identifier ReservationLedger := Dict.empty
  committed : MutableResources := .zero
  reserved : MutableResources := .zero
  runIds : List Digest := []
  globalStopDimension : Option BudgetDimension := none
  trialStopDimensions : Dict Identifier BudgetDimension := Dict.empty
  budgetViolation : Bool := false

def CampaignProjection.initial (header : CampaignHeader) : CampaignProjection where
  ledgers := Dict.ofList (header.schedule.trials.map fun trial => (trial.trialId, {}))

/-- A dispatch rejected before any external side effect. -/
structure BudgetRejection where
  dimension : BudgetDimension
  perTrial : Bool
deriving DecidableEq

section Replay

variable (header : CampaignHeader) (state : CampaignProjection)

/-- The ledger of a trial that may dispatch more work. -/
def readyCampaignProjection (trialId : Identifier) : Except CampaignError TrialProjection := do
  let ledger ← orRaise (state.ledgers.get? trialId)
    (.valueError "trial is not part of the frozen campaign schedule")
  raiseIf (ledger.outcome.isSome)
    (.accounting "terminal trials cannot dispatch more work")
  match state.globalStopDimension with
  | some dimension => .error (.budgetExceeded dimension false)
  | none =>
    match state.trialStopDimensions.get? trialId with
    | some dimension => .error (.budgetExceeded dimension true)
    | none =>
      raiseIf (state.budgetViolation = true)
        (.accounting "campaign accounting is poisoned by a prior violation")
      return ledger

def reservationRejection (campaign : CampaignSpec) (trialId : Identifier)
    (claim : CampaignResources) (providerRequest : Bool) :
    Except CampaignError (Option BudgetRejection) := do
  let trial ← readyCampaignProjection state trialId
  let token := campaign.tokenLimits
  let execution := campaign.executionLimits
  if providerRequest = true ∧ token.maxInputTokensPerRequest < claim.inputTokens then
    return some { dimension := .inputTokens, perTrial := true }
  if providerRequest = true ∧ token.maxOutputTokensPerRequest < claim.outputTokens then
    return some { dimension := .outputTokens, perTrial := true }
  let globalCurrent := MutableResources.sumResources state.committed state.reserved
  let trialCurrent := MutableResources.sumResources trial.committed trial.reserved
  match firstExceeded globalCurrent claim (limits token execution false) with
  | some dimension => return some { dimension, perTrial := false }
  | none =>
    match firstExceeded trialCurrent claim (limits token execution true) with
    | some dimension => return some { dimension, perTrial := true }
    | none => return none

def reservation (reservationId : Identifier) : Except CampaignError ReservationLedger :=
  orRaise (state.reservations.get? reservationId)
    (.accounting "campaign reservation is not active")

def scheduledTrial (trialId : Identifier) : Except CampaignError ScheduledTrial :=
  orRaise (header.schedule.trials.find? fun trial => trial.trialId = trialId)
    (.valueError "trial is not part of the frozen campaign schedule")

/-- The checks of a provider reservation against its route and the earlier attempts. -/
def validateProviderReservation (payload : ReservationCreatedPayload)
    (provider : ProviderReservationBinding) (ledger : TrialProjection) :
    Except CampaignError Unit := do
  let claim := payload.claim
  raiseIf (¬ claim.ProviderOnly)
    (.accounting "provider reservation may contain one request and token claims only")
  let trial ← scheduledTrial header payload.trialId
  raiseIf (claim.inputTokens ≤ provider.observedInputTokenFloor ∨
      provider.observedInputTokenFloor ≠ trial.binding.observedInputTokenFloor ∨
      provider.securityBinding.budgetBindingDigest ≠
        CampaignCanonical.budgetProjection header.campaign header.schedule)
    (.accounting "provider reservation floor differs from its frozen route")
  let matching := ledger.attempts.filter fun attempt => attempt.requestKey = provider.requestKey
  raiseIf (provider.attemptNumber ≠ matching.length + 1)
    (.accounting "provider retry ordinal differs from durable attempts")
  raiseIf (∃ active ∈ state.reservations.values, active.trialId = payload.trialId ∧
      ∃ p ∈ active.provider, p.requestKey = provider.requestKey)
    (.accounting "provider request already has an active reservation")
  match matching.getLast? with
  | none => return
  | some previous => do
    let retryPolicy := header.campaign.retryPolicy
    raiseIf (previous.reservedTokenClaim.inputTokens ≠ claim.inputTokens ∨
        previous.reservedTokenClaim.outputTokens ≠ claim.outputTokens ∨
        previous.reservedTokenClaim.observedInputTokenFloor ≠ provider.observedInputTokenFloor ∨
        previous.securityBinding ≠ provider.securityBinding)
      (.accounting "provider retries must preserve the request token claim")
    raiseIf (previous.disposition ≠ .retryableFailure)
      (.accounting "only retryable failures admit another attempt")
    raiseIf (retryPolicy.maxRequestAttempts < provider.attemptNumber)
      (.accounting "provider retry policy is exhausted")
    raiseIf (¬ ∃ condition ∈ previous.failureCondition, condition ∈ retryPolicy.retryConditions)
      (.accounting "provider failure is not admitted by retry policy")

/-- Work reservations carry no provider resources; provider reservations have their own checks. -/
def validateReservationKind (payload : ReservationCreatedPayload) (ledger : TrialProjection) :
    Except CampaignError Unit :=
  match payload.provider with
  | none =>
    raiseIf (payload.claim.requests ≠ 0 ∨ payload.claim.inputTokens ≠ 0 ∨
        payload.claim.outputTokens ≠ 0)
      (.accounting "work reservation contains provider resources")
  | some provider => validateProviderReservation header state payload provider ledger

def applyReservationCreated (payload : ReservationCreatedPayload) :
    Except CampaignError CampaignProjection := do
  raiseIf (payload.reservationId ∈ state.reservations)
    (.accounting "campaign reservation identifier already exists")
  raiseIf payload.claim.IsZero
    (.accounting "campaign reservation claim cannot be empty")
  let ledger ← readyCampaignProjection state payload.trialId
  validateReservationKind header state payload ledger
  let rejection ← reservationRejection state header.campaign payload.trialId payload.claim
    payload.provider.isSome
  raiseIf (rejection ≠ none)
    (.accounting "campaign reservation exceeds a hard budget")
  return { state with
    reserved := state.reserved.add payload.claim
    ledgers := state.ledgers.insert payload.trialId
      { ledger with reserved := ledger.reserved.add payload.claim }
    reservations := state.reservations.insert payload.reservationId
      { trialId := payload.trialId, claim := payload.claim, provider := payload.provider } }

/-- `_release_reservation`: the claim leaves both ledgers. -/
def releaseReservation (reservationId : Identifier) (active : ReservationLedger) :
    Except CampaignError CampaignProjection := do
  let ledger ← orRaise (state.ledgers.get? active.trialId) (.lookupError active.trialId)
  return { state with
    reserved := state.reserved.subtract active.claim
    ledgers := state.ledgers.insert active.trialId
      { ledger with reserved := ledger.reserved.subtract active.claim }
    reservations := state.reservations.erase reservationId }

/-- `_settle`: the claim leaves both ledgers and the actual amounts are committed in both. -/
def settle (reservationId : Identifier) (active : ReservationLedger)
    (actual : CampaignResources) : Except CampaignError CampaignProjection := do
  let ledger ← orRaise (state.ledgers.get? active.trialId) (.lookupError active.trialId)
  return { state with
    reserved := state.reserved.subtract active.claim
    committed := state.committed.add actual
    ledgers := state.ledgers.insert active.trialId { ledger with
      reserved := ledger.reserved.subtract active.claim
      committed := ledger.committed.add actual
      accountingViolation := ledger.accountingViolation || decide (Exceeds actual active.claim) }
    budgetViolation := state.budgetViolation || decide (Exceeds actual active.claim)
    reservations := state.reservations.erase reservationId }

def applyReservationDispatched (payload : ReservationDispatchedPayload) :
    Except CampaignError CampaignProjection := do
  let active ← reservation state payload.reservationId
  raiseIf (active.dispatched = true)
    (.accounting "campaign reservation was already dispatched")
  return { state with
    reservations := state.reservations.insert payload.reservationId
      { active with dispatched := true } }

def applyReservationCancelled (payload : ReservationCancelledPayload) :
    Except CampaignError CampaignProjection := do
  let active ← reservation state payload.reservationId
  raiseIf (active.dispatched = true)
    (.accounting "a dispatched reservation cannot be cancelled")
  match active.provider with
  | none => releaseReservation state payload.reservationId active
  | some provider => do
    let ledger ← orRaise (state.ledgers.get? active.trialId) (.lookupError active.trialId)
    let cancelled := provider.requestKey :: ledger.cancelledProviderRequests
    let state' := { state with
      ledgers := state.ledgers.insert active.trialId
        { ledger with cancelledProviderRequests := cancelled } }
    releaseReservation state' payload.reservationId active

def applyWorkSettled (payload : WorkSettledPayload) : Except CampaignError CampaignProjection := do
  let active ← reservation state payload.reservationId
  raiseIf (active.provider.isSome)
    (.accounting "provider reservation cannot settle as work")
  raiseIf (active.dispatched = false)
    (.accounting "work settlement requires a dispatched reservation")
  raiseIf (payload.actual.requests ≠ 0 ∨ payload.actual.inputTokens ≠ 0 ∨
      payload.actual.outputTokens ≠ 0)
    (.accounting "work settlement cannot contain provider resources")
  settle state payload.reservationId active payload.actual

def applyProviderSettlement (payload : ProviderAttemptSettledPayload) :
    Except CampaignError CampaignProjection := do
  let active ← reservation state payload.reservationId
  let provider ← orRaise active.provider
    (.accounting "work reservation cannot settle as a provider attempt")
  raiseIf (active.dispatched = false)
    (.accounting "provider settlement requires a dispatched reservation")
  let attempt := payload.attempt
  let trial ← scheduledTrial header active.trialId
  raiseIf (attempt.requestKey ≠ provider.requestKey ∨
      attempt.attemptNumber ≠ provider.attemptNumber ∨
      attempt.requestedModel ≠ trial.binding.requestedModel ∨
      attempt.requestedServiceTier ≠ trial.binding.serviceTier ∨
      attempt.reservedTokenClaim.inputTokens ≠ active.claim.inputTokens ∨
      attempt.reservedTokenClaim.outputTokens ≠ active.claim.outputTokens ∨
      attempt.reservedTokenClaim.observedInputTokenFloor ≠ provider.observedInputTokenFloor ∨
      attempt.securityBinding ≠ provider.securityBinding)
    (.accounting "provider attempt differs from its reservation or route")
  raiseIf (∃ condition ∈ attempt.failureCondition,
      condition ∉ header.campaign.retryPolicy.retryConditions)
    (.accounting "provider failure is not admitted by retry policy")
  let settled ← settle state payload.reservationId active attempt.chargedResources
  let ledger ← orRaise (settled.ledgers.get? active.trialId) (.lookupError active.trialId)
  -- an attempt without reported usage poisons the ledgers
  let unknown := decide (attempt.providerUsage = none)
  return { settled with
    budgetViolation := settled.budgetViolation || unknown
    ledgers := settled.ledgers.insert active.trialId { ledger with
      accountingViolation := ledger.accountingViolation || unknown
      attempts := ledger.attempts ++ [attempt] } }

/-! ### Trial outcomes -/

def harnessActors (binding : RunBinding) : List (Identifier × Digest × Digest × ModelLabel) :=
  binding.session.actors.filterMap fun
    | .harness actorId harnessDigest scaffoldDigest route =>
      some (actorId, harnessDigest, scaffoldDigest, route)
    | .human _ _ => none

def validateRunBinding (trial : ScheduledTrial) (runBinding : Option RunBinding) :
    Except CampaignError Unit := do
  let run ← orRaise runBinding
    (.valueError "completed campaign outcomes require a concrete run binding")
  let binding := trial.binding
  let campaign ← orRaise run.campaign
    (.valueError "completed campaign runs require a campaign trial binding")
  raiseIf (run.trialKey ≠ trial.trialId ∨ run.task.family ≠ binding.taskFamily ∨
      run.task.releaseDigest ≠ binding.taskReleaseDigest ∨
      run.environment.environmentSpecDigest ≠ binding.environmentDigest ∨
      run.session.feedbackPolicyDigest ≠ header.campaign.feedbackPolicyDigest ∨
      campaign.campaignDigest ≠ binding.campaignDigest ∨
      campaign.scheduleDigest ≠ header.schedule.digest ∨
      campaign.scheduledTrialDigest ≠ trial.digest ∨
      campaign.pairedSeed ≠ binding.pairedSeed ∨
      campaign.repetitionIndex ≠ binding.repetitionIndex ∨
      campaign.routeId ≠ binding.routeId ∨
      campaign.reasoningEffort ≠ binding.reasoningEffort ∨
      campaign.serviceTier ≠ binding.serviceTier)
    (.valueError "run binding does not represent the scheduled campaign trial")
  match harnessActors run with
  | [(_, harnessDigest, scaffoldDigest, route)] =>
    raiseIf (harnessDigest ≠ binding.harness.digest ∨
        scaffoldDigest ≠ binding.harness.scaffoldDigest ∨ route ≠ binding.requestedModel)
      (.valueError "run harness does not match the scheduled campaign trial")
  | _ => .error (.valueError "run harness does not match the scheduled campaign trial")

/-- The usage of a run request and of a campaign attempt agree in every counter. -/
def SameUsage : Option ProviderUsageFact → Option UsageCounters → Prop
  | none, none => True
  | some fact, some counters => fact.inputTokens = counters.inputTokens ∧
      fact.outputTokens = counters.outputTokens ∧ fact.totalTokens = counters.totalTokens ∧
      fact.cachedInputTokens = counters.cachedInputTokens ∧
      fact.reasoningTokens = counters.reasoningTokens
  | _, _ => False

instance : (a : Option ProviderUsageFact) → (b : Option UsageCounters) → Decidable (SameUsage a b)
  | none, none => isTrue trivial
  | some _, some _ => inferInstanceAs (Decidable (_ ∧ _))
  | some _, none => isFalse id
  | none, some _ => isFalse id

/-- A request of an ended run against the attempts the campaign settled for it. -/
def validateProviderRequest (trial : ScheduledTrial) (actorId : Identifier)
    (ledger : TrialProjection) (_ : Unit) (request : ProviderRequestState) :
    Except CampaignError Unit := do
  let harness := trial.binding.harness
  raiseIf (request.actorId ≠ actorId ∨
      request.providerProfileDigest ≠ harness.providerProfileDigest ∨
      request.providerConfigDigest ≠ harness.providerConfigDigest ∨
      request.requestedModel ≠ trial.binding.requestedModel ∨
      request.requestedServiceTier ≠ some trial.binding.serviceTier)
    (.valueError "run provider request identity differs from its campaign harness")
  let attempts := ledger.attempts.filter fun attempt => attempt.requestKey = request.requestId
  match attempts.getLast? with
  | none =>
    raiseIf (request.requestId ∉ ledger.cancelledProviderRequests ∨ request.status ≠ none ∨
        request.providerReportedModel ≠ none ∨ request.providerReportedServiceTier ≠ none ∨
        request.usage ≠ none)
      (.valueError "cancelled provider requests cannot carry response facts")
  | some final => do
    let claim := final.reservedTokenClaim
    raiseIf (request.reservedInputTokens ≠ claim.inputTokens ∨
        request.reservedOutputTokens ≠ claim.outputTokens ∨
        request.observedInputTokenFloor ≠ claim.observedInputTokenFloor ∨
        request.securityBinding ≠ final.securityBinding)
      (.valueError "run provider reservation differs from campaign dispatch evidence")
    raiseIf (¬ (final.disposition = .completed ↔ request.status ≠ none))
      (.valueError "run provider response differs from campaign dispatch evidence")
    raiseIf (final.disposition = .completed ∧
        (request.providerReportedModel ≠ final.providerReportedModel ∨
          request.providerReportedServiceTier ≠ final.providerReportedServiceTier ∨
          request.requestedServiceTier ≠ some final.requestedServiceTier ∨
          request.status ≠ final.providerResponseStatus ∨
          ¬ SameUsage request.usage final.providerUsage))
      (.valueError "run provider response differs from campaign dispatch evidence")
    raiseIf (final.disposition ≠ .completed ∧ (request.providerReportedModel ≠ none ∨
        request.providerReportedServiceTier ≠ none ∨ request.usage ≠ none))
      (.valueError "failed provider dispatches cannot carry run response facts")

def validateProviderRequests (trial : ScheduledTrial) (outcome : TrialRunOutcome)
    (ledger : TrialProjection) : Except CampaignError Unit := do
  let requests := outcome.providerRequests
  raiseIf (requests = [])
    (.valueError "completed campaign runs require metered provider request facts")
  let attempted := ledger.attempts.map ProviderAttemptRecord.requestKey
  let requested := requests.map ProviderRequestState.requestId
  raiseIf (¬ (∀ key ∈ attempted, key ∈ requested) ∨
      ¬ ∀ key ∈ requested, key ∈ attempted ∨ key ∈ ledger.cancelledProviderRequests)
    (.valueError "run provider requests differ from campaign dispatch evidence")
  let run ← orRaise outcome.runBinding
    (.valueError "completed campaign outcomes require a concrete run binding")
  match harnessActors run with
  | [(actorId, _, _, _)] =>
    foldSteps (validateProviderRequest trial actorId ledger) ⟨⟩ requests
    raiseIf (trial.binding.harness.providerProfileDigest ≠ header.providerConfig.profileDigest ∨
        trial.binding.harness.providerConfigDigest ≠ header.providerConfig.digest)
      (.valueError "campaign harness provider identity differs from its header")
  | _ => .error (.valueError "completed campaign runs require one metered harness")

/-- The checks of an outcome that carries a run; returns its identifier. -/
def validateCompletedRun (trial : ScheduledTrial) (outcome : TrialRunOutcome)
    (ledger : TrialProjection) : Except CampaignError (List Digest) :=
  match outcome.runId with
  | none => .ok []
  | some runId => do
    raiseIf (runId ∈ state.runIds) (.valueError "campaign run identifiers must be unique")
    validateRunBinding header trial outcome.runBinding
    validateProviderRequests header trial outcome ledger
    return [runId]

/-- `committed.snapshot().is_zero`; the snapshot must be made of JSON-safe integers. -/
def snapshotIsZero (committed : MutableResources) : Except CampaignError Bool := do
  raiseIf (∃ item, committed.get item < 0 ∨ (JCS_INTEGER_MAX : Int) < committed.get item)
    (.valueError "Input should be less than or equal to 9007199254740991")
  return decide (∀ item, committed.get item = 0)

/-- A trial that was not dispatched has neither committed resources nor attempts. -/
def validateNotDispatched (outcome : TrialRunOutcome) (ledger : TrialProjection) :
    Except CampaignError Unit :=
  if outcome.disposition = .notDispatched then do
    let zero ← snapshotIsZero ledger.committed
    raiseIf (zero = false ∨ ledger.attempts ≠ [])
      (.valueError "a trial with committed resources was dispatched")
  else .ok ⟨⟩

def applyTrialOutcome (payload : TrialOutcomeRecordedPayload) :
    Except CampaignError CampaignProjection := do
  let trial ← scheduledTrial header payload.trialId
  let ledger ← orRaise (state.ledgers.get? payload.trialId) (.lookupError payload.trialId)
  raiseIf (ledger.outcome.isSome)
    (.accounting "campaign trial already has a terminal outcome")
  raiseIf (∃ active ∈ state.reservations.values, active.trialId = payload.trialId)
    (.accounting "trial outcome cannot precede dispatch settlement")
  let outcome := payload.outcome
  let task ← orRaise
    (header.tasks.find? fun item => item.taskReleaseDigest = trial.binding.taskReleaseDigest)
    (.lookupError trial.binding.taskReleaseDigest)
  raiseIf (∃ item ∈ outcome.stageResults, item.result.stageId ∉ task.evaluatorStageIds)
    (.valueError "trial outcome contains an undeclared evaluator stage")
  let runIds ← validateCompletedRun header state trial outcome ledger
  validateNotDispatched outcome ledger
  return { state with
    runIds := runIds ++ state.runIds
    ledgers := state.ledgers.insert payload.trialId { ledger with outcome := some outcome } }

def applyBudgetStopped (payload : BudgetStoppedPayload) :
    Except CampaignError CampaignProjection := do
  let expected ← reservationRejection state header.campaign payload.trialId payload.rejectedClaim
    (payload.rejectedClaim.requests ≠ 0)
  raiseIf (expected ≠ some { dimension := payload.dimension, perTrial := payload.perTrial })
    (.accounting "campaign budget stop lacks matching rejected usage")
  if payload.perTrial = true then
    return { state with
      trialStopDimensions := state.trialStopDimensions.insert payload.trialId payload.dimension }
  return { state with globalStopDimension := some payload.dimension }

end Replay

def applyCampaignEvent (header : CampaignHeader) (state : CampaignProjection)
    (event : CampaignEvent) : Except CampaignError CampaignProjection :=
  match event.payload with
  | .reservationCreated payload => applyReservationCreated header state payload
  | .reservationDispatched payload => applyReservationDispatched state payload
  | .reservationCancelled payload => applyReservationCancelled state payload
  | .workSettled payload => applyWorkSettled state payload
  | .providerAttemptSettled payload => applyProviderSettlement header state payload
  | .trialOutcomeRecorded payload => applyTrialOutcome header state payload
  | .budgetStopped payload => applyBudgetStopped header state payload

def replayCampaign (header : CampaignHeader) (events : List CampaignEvent) :
    Except CampaignError CampaignProjection :=
  foldSteps (applyCampaignEvent header) (CampaignProjection.initial header) events

end EdaGym
