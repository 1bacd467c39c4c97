import EdaGym.Providers.CampaignRunner

/-!
# The operations of a campaign runner

The operations that concern no single provider request: work reservations, outcomes, the closing of
every reservation a crashed controller has left and the closing of every unfinished trial. Together
with the provider accounting they are everything that writes to a campaign journal.
-/

namespace EdaGym

variable [Canonical] [CampaignCanonical]

/-- A work reservation owned by the runner. -/
structure WorkReservation where
  trialId : Identifier
  reservationId : Identifier
  claim : CampaignResources
  dispatched : Bool := false

section Work

variable (header : CampaignHeader)

/-- Reserve execution resources. As for a provider attempt, a claim beyond the budget is journaled
as a stop. -/
def reserveWork (trialId : Identifier) (claim : CampaignResources) (reservationId : Identifier)
    (eventId : UUID) (committed : List CampaignEvent) :
    Except CampaignError (List CampaignEvent × Except BudgetRejection WorkReservation) := do
  raiseIf claim.IsZero
    (.valueError "work reservations require a non-zero resource claim")
  raiseIf (claim.requests ≠ 0 ∨ claim.inputTokens ≠ 0 ∨ claim.outputTokens ≠ 0)
    (.valueError "provider request resources require a provider reservation")
  let state ← replayCampaign header committed
  let _ ← scheduledTrial header trialId
  let _ ← readyCampaignProjection state trialId
  let rejection ← reservationRejection state header.campaign trialId claim false
  match rejection with
  | some rejection => do
    let committed ← commitCampaignEvent header committed eventId (.budgetStopped {
      dimension := rejection.dimension, trialId, perTrial := rejection.perTrial,
      rejectedClaim := claim })
    return (committed, .error rejection)
  | none => do
    let committed ← commitCampaignEvent header committed eventId (.reservationCreated {
      reservationId, trialId, claim })
    return (committed, .ok { trialId, reservationId, claim })

/-- Settle work; the second component says that it exceeded its reservation, which is raised after
the commit. -/
def settleWork (reservation : WorkReservation) (actual : CampaignResources) (eventId : UUID)
    (committed : List CampaignEvent) : Except CampaignError (List CampaignEvent × Bool) := do
  raiseIf (actual.requests ≠ 0 ∨ actual.inputTokens ≠ 0 ∨ actual.outputTokens ≠ 0)
    (.valueError "work settlement cannot report provider request resources")
  let committed ← commitCampaignEvent header committed eventId
    (.workSettled { reservationId := reservation.reservationId, actual })
  return (committed, decide (Exceeds actual reservation.claim))

/-- Settle work and record the outcome of its run in one transaction. -/
def finalizeRun (reservation : WorkReservation) (actual : CampaignResources)
    (outcome : TrialRunOutcome) (settledId terminalId : UUID) (committed : List CampaignEvent) :
    Except CampaignError (List CampaignEvent × Bool) := do
  raiseIf (actual.requests ≠ 0 ∨ actual.inputTokens ≠ 0 ∨ actual.outputTokens ≠ 0)
    (.valueError "run work settlement cannot report provider request resources")
  let state ← replayCampaign header committed
  let settled := {
    eventId := settledId
    sequence := committed.length
    payload := .workSettled { reservationId := reservation.reservationId, actual } }
  let state ← applyCampaignEvent header state settled
  let terminal := {
    eventId := terminalId
    sequence := committed.length + 1
    payload := .trialOutcomeRecorded { trialId := reservation.trialId, outcome } }
  let _ ← applyCampaignEvent header state terminal
  let committed ← transactCampaign header committed [settled, terminal]
  return (committed, decide (Exceeds actual reservation.claim))

def recordOutcome (trialId : Identifier) (outcome : TrialRunOutcome) (eventId : UUID)
    (committed : List CampaignEvent) : Except CampaignError (List CampaignEvent) :=
  commitCampaignEvent header committed eventId (.trialOutcomeRecorded { trialId, outcome })

end Work

/-! ### Closing a campaign -/

/-- The projection and the events a transaction has built so far. -/
structure CampaignBatch where
  state : CampaignProjection
  events : List CampaignEvent := []

/-- The outcome of a trial that is stopped before it has one. -/
def stopOutcome (reason : StopReason) (hreason : reason ≠ .verifierSuccess) (dispatched : Bool) :
    TrialRunOutcome where
  disposition := if dispatched then .failedBeforeRun else .notDispatched
  terminalReason := reason
  providerSpend :=
    .unknown (if dispatched then .providerReportingIncomplete else .trialNotDispatched)
  completed_iff := by cases dispatched <;> decide
  binding_iff := by cases dispatched <;> decide
  success_completed h := absurd h hreason

section Closing

variable (header : CampaignHeader) (eventIds : Nat → UUID)

def CampaignBatch.push (committed : Nat) (batch : CampaignBatch)
    (payload : CampaignEventPayload) : Except CampaignError CampaignBatch := do
  let event := {
    eventId := eventIds batch.events.length
    sequence := committed + batch.events.length
    payload }
  let state ← applyCampaignEvent header batch.state event
  return { state, events := batch.events ++ [event] }

def stopTrial (reason : StopReason) (hreason : reason ≠ .verifierSuccess) (committed : Nat)
    (batch : CampaignBatch) (trial : ScheduledTrial) : Except CampaignError CampaignBatch := do
  let ledger ← orRaise (batch.state.ledgers.get? trial.trialId) (.lookupError trial.trialId)
  if ledger.outcome.isSome then
    return batch
  let zero ← snapshotIsZero ledger.committed
  let dispatched := !zero || decide (ledger.attempts ≠ [])
  batch.push header eventIds committed (.trialOutcomeRecorded {
    trialId := trial.trialId, outcome := stopOutcome reason hreason dispatched })

/-- Record a terminal outcome for every trial that has none. -/
def stopUnfinished (reason : StopReason) (committed : List CampaignEvent) :
    Except CampaignError (List CampaignEvent) :=
  if hreason : reason = .verifierSuccess then
    .error (.valueError "unfinished trials cannot be materialized as successful")
  else do
    let state ← replayCampaign header committed
    raiseIf (state.reservations.isEmpty = false)
      (.accounting "active dispatches must settle before campaign stop")
    let batch ← foldSteps (stopTrial header eventIds reason hreason committed.length) { state }
      header.schedule.trials
    raiseIf (batch.events = []) (.accounting "campaign has no unfinished trials")
    transactCampaign header committed batch.events

/-- `ProviderAttemptRecord(...)` for an attempt nobody can account for: the whole claim is charged.
-/
def abandonedAttempt (trial : ScheduledTrial) (claim : CampaignResources)
    (provider : ProviderReservationBinding) : Except CampaignError ProviderAttemptRecord :=
  if houtput : 1 ≤ claim.outputTokens then
    if hfloor : provider.observedInputTokenFloor < claim.inputTokens then
      if hcharged : claim.ProviderOnly then .ok {
        requestKey := provider.requestKey
        attemptNumber := provider.attemptNumber
        reservedTokenClaim := {
          inputTokens := claim.inputTokens
          outputTokens := claim.outputTokens
          observedInputTokenFloor := provider.observedInputTokenFloor
          input_bound := claim.bounded .inputTokens
          output_bound := ⟨houtput, claim.bounded .outputTokens⟩
          floor_lt := hfloor }
        disposition := .terminalFailure
        requestedModel := trial.binding.requestedModel
        requestedServiceTier := trial.binding.serviceTier
        securityBinding := provider.securityBinding
        chargedResources := claim
        charged_provider := hcharged
        charged_usage := by simp }
      else .error
        (.valueError "provider attempt resources may contain only one request and tokens")
    else .error (.valueError "input token reservation must exceed the observed route floor")
  else .error (.valueError "Input should be greater than or equal to 1")

/-- The event that closes a reservation whose owner is gone, without evidence of what it used. -/
def closingPayload (reservationId : Identifier) (reservation : ReservationLedger) :
    Except CampaignError CampaignEventPayload :=
  if reservation.dispatched = false then .ok (.reservationCancelled { reservationId })
  else
    match reservation.provider with
    | none => .ok (.workSettled { reservationId, actual := reservation.claim })
    | some provider => do
      let trial ← orRaise
        (header.schedule.trials.find? fun trial => trial.trialId = reservation.trialId)
        (.lookupError reservation.trialId)
      let attempt ← abandonedAttempt trial reservation.claim provider
      return .providerAttemptSettled { reservationId, attempt }

def closeReservation (committed : Nat) (batch : CampaignBatch)
    (entry : Identifier × ReservationLedger) : Except CampaignError CampaignBatch := do
  let payload ← closingPayload header entry.1 entry.2
  batch.push header eventIds committed payload

/-- Conservatively close reservations left by a controller crash; returns the reservations and their
trials as well. -/
def recoverIncompleteDispatches (committed : List CampaignEvent) :
    Except CampaignError (List CampaignEvent × List Identifier × List Identifier) := do
  let state ← replayCampaign header committed
  let entries := sortedBy Prod.fst state.reservations.entries
  let batch ← foldSteps (closeReservation header eventIds committed.length) { state } entries
  raiseIf (batch.events = [])
    (.accounting "campaign has no incomplete dispatch reservations")
  let committed ← transactCampaign header committed batch.events
  return (committed, entries.map Prod.fst,
    sortedBy id (entries.map fun entry => entry.2.trialId).dedup)

end Closing

/-! ### Runs -/

/-- One call to a runner. Its handles are arbitrary: those that runners give out are among them, and
marking as dispatched and cancelling read only the identifier of one. -/
inductive RunnerOperation
  | reserveProviderAttempt (trialId requestKey : Identifier) (requestedModel : ModelLabel)
      (tokenClaim : RequestTokenClaim) (securityBinding : ProviderSecurityBinding)
      (reservationId : Identifier) (eventId : UUID)
  | reserveWork (trialId : Identifier) (claim : CampaignResources) (reservationId : Identifier)
      (eventId : UUID)
  | markDispatched (reservationId : Identifier) (eventId : UUID)
  | cancel (reservationId : Identifier) (eventId : UUID)
  | settleProvider (reservation : CampaignReservation) (disposition : AttemptDisposition)
      (usage : Option ProviderUsage) (facts : ResponseFacts)
      (failureCondition : Option RetryCondition) (eventId : UUID)
  | settleWork (reservation : WorkReservation) (actual : CampaignResources) (eventId : UUID)
  | finalizeRun (reservation : WorkReservation) (actual : CampaignResources)
      (outcome : TrialRunOutcome) (settledId terminalId : UUID)
  | recordOutcome (trialId : Identifier) (outcome : TrialRunOutcome) (eventId : UUID)
  | recoverProviderDispatches (trialId : Identifier) (providerRequests : List ProviderRequestState)
      (eventIds : Nat → UUID)
  | recoverDispatches (eventIds : Nat → UUID)
  | stopUnfinished (reason : StopReason) (eventIds : Nat → UUID)

section Operations

variable (header : CampaignHeader)

/-- The journal after a call that has committed something. -/
def RunnerOperation.perform (committed : List CampaignEvent) :
    RunnerOperation → Except CampaignError (List CampaignEvent)
  | .reserveProviderAttempt trialId requestKey requestedModel tokenClaim securityBinding
      reservationId eventId =>
    Prod.fst <$> EdaGym.reserveProviderAttempt header trialId requestKey requestedModel tokenClaim
      securityBinding reservationId eventId committed
  | .reserveWork trialId claim reservationId eventId =>
    Prod.fst <$> EdaGym.reserveWork header trialId claim reservationId eventId committed
  | .markDispatched reservationId eventId =>
    commitCampaignEvent header committed eventId (.reservationDispatched { reservationId })
  | .cancel reservationId eventId =>
    commitCampaignEvent header committed eventId (.reservationCancelled { reservationId })
  | .settleProvider reservation disposition usage facts failureCondition eventId =>
    EdaGym.settleProvider header reservation disposition usage facts failureCondition eventId
      committed
  | .settleWork reservation actual eventId =>
    Prod.fst <$> EdaGym.settleWork header reservation actual eventId committed
  | .finalizeRun reservation actual outcome settledId terminalId =>
    Prod.fst <$> EdaGym.finalizeRun header reservation actual outcome settledId terminalId committed
  | .recordOutcome trialId outcome eventId =>
    EdaGym.recordOutcome header trialId outcome eventId committed
  | .recoverProviderDispatches trialId providerRequests eventIds =>
    Prod.fst <$> recoverIncompleteProviderDispatches header trialId providerRequests eventIds
      committed
  | .recoverDispatches eventIds =>
    Prod.fst <$> recoverIncompleteDispatches header eventIds committed
  | .stopUnfinished reason eventIds => EdaGym.stopUnfinished header eventIds reason committed

/-- The journal after the calls of any number of runners, in the order in which they took the lock
of the journal. A call that raises leaves it as it was. -/
def runOperations (operations : List RunnerOperation) : List CampaignEvent :=
  operations.foldl (fun committed operation =>
    match operation.perform header committed with
    | .ok campaign => campaign
    | .error _ => committed) []

end Operations

end EdaGym
