import EdaGym.Providers.CampaignRunner

/-!
# Provider requests of a trial

`ResponsesCampaign.request` reserves an attempt in the campaign journal, lets its observer record
the request in the run journal, marks the reservation as dispatched, exchanges the bytes, lets the
observer record the response and settles the reservation. `ExchangeState.step` is one of these
pieces, from one journal commit to the next, so that a crash or another writer may come between any
two of them.
-/

namespace EdaGym

/-- The failures of the bytes exchange and of the decoding of its answer, as far as the retry policy
tells them apart. -/
inductive ExchangeError
  | http (status : Nat)
  | transport
  | other
deriving DecidableEq, Repr

def retryCondition : ExchangeError → Option RetryCondition
  | .http status =>
    if status = 429 then some .rateLimited
    else if 500 ≤ status ∧ status < 600 then some .serverUnavailable
    else none
  | .transport => some .connectFailure
  | .other => none

/-- Where a call of `request` stands. -/
inductive RequestPhase
  | idle
  /-- The reservation is made; the request is being authorised and recorded. -/
  | reserved (recorder : JournalExchangeRecorder) (reservation : CampaignReservation)
  /-- Authorising or recording has failed. -/
  | cancelling (reservation : CampaignReservation)
  | recorded (recorder : JournalExchangeRecorder) (reservation : CampaignReservation)
  | dispatched (recorder : JournalExchangeRecorder) (reservation : CampaignReservation)
  /-- The exchange or the decoding has failed. -/
  | failed (reservation : CampaignReservation) (error : ExchangeError)
  | answered (recorder : JournalExchangeRecorder) (reservation : CampaignReservation)
      (result : ResponsesResult)
  /-- The observer has returned or raised. -/
  | settling (reservation : CampaignReservation) (result : ResponsesResult)
deriving DecidableEq

/-- How a call of an observer ends. -/
inductive ObserverOutcome (ι : Type)
  | raisesBeforeCommit
  | returns (inputs : ι)
  | raisesAfterCommit (inputs : ι)

def ObserverOutcome.inputs {ι : Type} : ObserverOutcome ι → Option ι
  | .raisesBeforeCommit => none
  | .returns inputs | .raisesAfterCommit inputs => some inputs

variable [Canonical]

inductive ExchangeAction
  | reserve (recorder : JournalExchangeRecorder) (reservationId : Identifier) (eventId : UUID)
  | recordRequest (outcome : ObserverOutcome RequestInputs)
  | cancel (eventId : UUID)
  | markDispatched (eventId : UUID)
  | exchange (outcome : Except ExchangeError ResponsesResult)
  | settleFailed (eventId : UUID)
  | recordResponse (outcome : ObserverOutcome ResponseInputs)
  | settleCompleted (eventId : UUID)
  /-- The process ends, or an exception of the runner leaves `request`. -/
  | crash
  | recover (eventIds : Nat → UUID)
  /-- A commit of another trial, or of other work of this one. -/
  | commitCampaign (events : List CampaignEvent)
  /-- A commit of another writer of the run. -/
  | commitRun (events : List RunEvent)

/-- The two journals and the call under way. -/
structure ExchangeState where
  campaign : List CampaignEvent
  run : List RunEvent
  phase : RequestPhase := .idle

variable [CampaignCanonical]

/-- A reservation of the trial for a provider request. -/
def CampaignProjection.OwnsProvider (state : CampaignProjection)
    (trialId reservationId : Identifier) :
    Prop :=
  ∃ reservation ∈ state.reservations.get? reservationId,
    reservation.trialId = trialId ∧ reservation.provider.isSome

instance (state : CampaignProjection) (trialId reservationId : Identifier) :
    Decidable (state.OwnsProvider trialId reservationId) :=
  inferInstanceAs (Decidable (∃ _ ∈ _, _))

/-- The event makes no provider reservation of the trial and touches none. -/
def CampaignEventPayload.Foreign (trialId : Identifier) (state : CampaignProjection) :
    CampaignEventPayload → Prop
  | .reservationCreated payload => ¬ (payload.trialId = trialId ∧ payload.provider.isSome)
  | .reservationDispatched payload => ¬ state.OwnsProvider trialId payload.reservationId
  | .reservationCancelled payload => ¬ state.OwnsProvider trialId payload.reservationId
  | .workSettled payload => ¬ state.OwnsProvider trialId payload.reservationId
  | .providerAttemptSettled payload => ¬ state.OwnsProvider trialId payload.reservationId
  | .trialOutcomeRecorded _ => True
  | .budgetStopped _ => True

instance (trialId : Identifier) (state : CampaignProjection) :
    (payload : CampaignEventPayload) → Decidable (payload.Foreign trialId state)
  | .reservationCreated _ => inferInstanceAs (Decidable (¬ _))
  | .reservationDispatched _ => inferInstanceAs (Decidable (¬ _))
  | .reservationCancelled _ => inferInstanceAs (Decidable (¬ _))
  | .workSettled _ => inferInstanceAs (Decidable (¬ _))
  | .providerAttemptSettled _ => inferInstanceAs (Decidable (¬ _))
  | .trialOutcomeRecorded _ => isTrue trivial
  | .budgetStopped _ => isTrue trivial

namespace ExchangeState

variable (campaignHeader : CampaignHeader) (header : RunHeader) (task : TaskSpec)
  (sender : ResponsesCampaign)

/-- Take a commit of the campaign journal over and go on with `phase`; an exception of the runner
leaves the call. -/
def committed (s : ExchangeState) (phase : RequestPhase) :
    Except CampaignError (List CampaignEvent) → ExchangeState
  | .ok campaign => { s with campaign, phase }
  | .error _ => { s with phase := .idle }

def reserve (s : ExchangeState) (recorder : JournalExchangeRecorder) (reservationId : Identifier)
    (eventId : UUID) : ExchangeState :=
  match reserveProviderAttempt campaignHeader header.binding.trialKey recorder.requestId
      recorder.requestedModelRoute recorder.tokenClaim sender.securityBinding reservationId eventId
      s.campaign with
  | .ok (campaign, .ok reservation) => { s with campaign, phase := .reserved recorder reservation }
  | .ok (campaign, .error _) => { s with campaign }
  | .error _ => s

/-- The first `try` block: only an observer that returns lets the request leave. -/
def recordRequest (s : ExchangeState) (recorder : JournalExchangeRecorder)
    (reservation : CampaignReservation) : ObserverOutcome RequestInputs → ExchangeState
  | .raisesBeforeCommit => { s with phase := .cancelling reservation }
  | .returns inputs =>
    match recorder.requestReserved sender header task reservation.trialId inputs s.run with
    | .ok run => { s with run, phase := .recorded recorder reservation }
    | .error _ => { s with phase := .cancelling reservation }
  | .raisesAfterCommit inputs =>
    match recorder.requestReserved sender header task reservation.trialId inputs s.run with
    | .ok run => { s with run, phase := .cancelling reservation }
    | .error _ => { s with phase := .cancelling reservation }

/-- The last `try` block: whatever the observer does, the reservation is settled as completed. -/
def recordResponse (s : ExchangeState) (recorder : JournalExchangeRecorder)
    (reservation : CampaignReservation) (result : ResponsesResult)
    (outcome : ObserverOutcome ResponseInputs) : ExchangeState :=
  match outcome.inputs.map fun inputs =>
      recorder.responseReceived header task result inputs s.run with
  | some (.ok run) => { s with run, phase := .settling reservation result }
  | _ => { s with phase := .settling reservation result }

def recover (s : ExchangeState) (eventIds : Nat → UUID) : ExchangeState :=
  match replay header task s.run with
  | .error _ => s
  | .ok state =>
    match recoverIncompleteProviderDispatches campaignHeader header.binding.trialKey
        state.providerRequests eventIds s.campaign with
    | .ok (campaign, _) => { s with campaign }
    | .error _ => s

def commitCampaign (s : ExchangeState) (events : List CampaignEvent) : ExchangeState :=
  match replayCampaign campaignHeader s.campaign,
      transactCampaign campaignHeader s.campaign events with
  | .ok state, .ok campaign =>
    if ∀ event ∈ events, event.payload.Foreign header.binding.trialKey state then
      { s with campaign }
    else s
  | _, _ => s

def commitRun (s : ExchangeState) (events : List RunEvent) : ExchangeState :=
  match admitTransact header task (fun _ => .ok events) s.run with
  | .ok _ =>
    if ∀ event ∈ events, event.isProviderFact = false then { s with run := s.run ++ events } else s
  | .error _ => s

/-- One piece of a call, of a recovery or of another writer; an action that is not due changes
nothing. -/
def step (s : ExchangeState) : ExchangeAction → ExchangeState
  | .reserve recorder reservationId eventId =>
    match s.phase with
    | .idle => s.reserve campaignHeader header sender recorder reservationId eventId
    | _ => s
  | .recordRequest outcome =>
    match s.phase with
    | .reserved recorder reservation =>
      s.recordRequest header task sender recorder reservation outcome
    | _ => s
  | .cancel eventId =>
    match s.phase with
    | .cancelling reservation =>
      s.committed .idle (EdaGym.cancel campaignHeader reservation eventId s.campaign)
    | _ => s
  | .markDispatched eventId =>
    match s.phase with
    | .recorded recorder reservation =>
      s.committed (.dispatched recorder reservation)
        (EdaGym.markDispatched campaignHeader reservation eventId s.campaign)
    | _ => s
  | .exchange outcome =>
    match s.phase, outcome with
    | .dispatched recorder reservation, .ok result =>
      { s with phase := .answered recorder reservation result }
    | .dispatched _ reservation, .error error => { s with phase := .failed reservation error }
    | _, _ => s
  | .settleFailed eventId =>
    match s.phase with
    | .failed reservation error =>
      s.committed .idle (EdaGym.settleFailed campaignHeader reservation (retryCondition error)
        eventId s.campaign)
    | _ => s
  | .recordResponse outcome =>
    match s.phase with
    | .answered recorder reservation result =>
      s.recordResponse header task recorder reservation result outcome
    | _ => s
  | .settleCompleted eventId =>
    match s.phase with
    | .settling reservation result =>
      s.committed .idle
        (EdaGym.settleCompleted campaignHeader reservation result eventId s.campaign)
    | _ => s
  | .crash => { s with phase := .idle }
  | .recover eventIds =>
    match s.phase with
    | .idle => s.recover campaignHeader header task eventIds
    | _ => s
  | .commitCampaign events => s.commitCampaign campaignHeader header events
  | .commitRun events => s.commitRun header task events

end ExchangeState

end EdaGym
