import EdaGym.Providers.CampaignEffects
import EdaGym.Providers.CampaignOperations

/-!
# Paid dispatches

A request of a trial is dispatched at most once, whatever the retry policy allows. An active
reservation forbids a second one for its request, and so does an attempt that failed for good or
completed. A retryable failure is settled without usage, which poisons the campaign, so that nothing
is reserved after it.
-/

namespace EdaGym

variable [Canonical]

/-! ### What runners write -/

/-- A retryable failure that is settled reports no usage. -/
def CampaignEventPayload.Reported (payload : CampaignEventPayload) : Prop :=
  ∀ settled, payload = .providerAttemptSettled settled →
    settled.attempt.disposition = .retryableFailure → settled.attempt.providerUsage = none

variable {provider : ProviderReservationBinding} {trial : ScheduledTrial}
  {claim : CampaignResources}

omit [Canonical] in
lemma attemptRecord_eq_ok {disposition : AttemptDisposition}
    {failureCondition : Option RetryCondition} {facts : ResponseFacts}
    {usage : Option UsageCounters} {attempt : ProviderAttemptRecord}
    (h : attemptRecord trial claim provider disposition failureCondition facts usage =
      .ok attempt) :
    attempt.disposition = disposition ∧ attempt.providerUsage = usage := by
  unfold attemptRecord at h
  split_ifs at h
  cases h
  exact ⟨rfl, rfl⟩

omit [Canonical] in
lemma abandonedAttempt_eq_ok {attempt : ProviderAttemptRecord}
    (h : abandonedAttempt trial claim provider = .ok attempt) :
    attempt.disposition = .terminalFailure ∧ attempt.providerUsage = none ∧
      attempt.chargedResources = claim := by
  unfold abandonedAttempt at h
  split_ifs at h
  cases h
  exact ⟨rfl, rfl, rfl⟩

variable [CampaignCanonical] {header : CampaignHeader}
  {committed requested campaign : List CampaignEvent}

/-- The journal grows by events that report, and is accepted. -/
def Writes (header : CampaignHeader) (committed campaign : List CampaignEvent) : Prop :=
  ∃ requested, campaign = committed ++ requested ∧ (∀ event ∈ requested, event.payload.Reported) ∧
    ∃ state, replayCampaign header campaign = .ok state

lemma writes_of_transact (h : transactCampaign header committed requested = .ok campaign)
    (hreported : ∀ event ∈ requested, event.payload.Reported) :
    Writes header committed campaign := by
  obtain ⟨rfl, state, hstate⟩ := transactCampaign_eq_ok h
  exact ⟨requested, rfl, hreported, state, hstate⟩

variable {payload : CampaignEventPayload} {eventId : UUID}

lemma writes_of_commit
    (h : commitCampaignEvent header committed eventId payload = .ok campaign)
    (hreported : payload.Reported) : Writes header committed campaign := by
  simp only [commitCampaignEvent, bind_eq_ok] at h
  obtain ⟨state, -, state', -, htransact⟩ := h
  refine writes_of_transact htransact ?_
  intro event hevent
  rw [List.mem_singleton] at hevent
  subst hevent
  exact hreported

variable {reservationId : Identifier}

/-- A reservation of a provider attempt is rejected, or created. -/
lemma reserveProviderAttempt_eq_ok {trialId requestKey : Identifier} {requestedModel : ModelLabel}
    {tokenClaim : RequestTokenClaim} {securityBinding : ProviderSecurityBinding}
    {result : Except BudgetRejection CampaignReservation}
    (h : reserveProviderAttempt header trialId requestKey requestedModel tokenClaim securityBinding
      reservationId eventId committed = .ok (campaign, result)) :
    (∃ rejection payload, result = .error rejection ∧
      commitCampaignEvent header committed eventId (.budgetStopped payload) = .ok campaign) ∨
    ∃ reservation, result = .ok reservation ∧ reservation.reservationId = reservationId ∧
      reservation.trialId = trialId ∧ reservation.provider.requestKey = requestKey ∧
      1 ≤ reservation.claim.outputTokens ∧
      commitCampaignEvent header committed eventId (.reservationCreated {
        reservationId, trialId, claim := reservation.claim
        provider := some reservation.provider }) = .ok campaign := by
  simp only [reserveProviderAttempt, bind_eq_ok, raiseIf_eq_ok, exists_const] at h
  obtain ⟨state, -, trial, -, -, -, -, ledger, -, _, -, rejection, -, h⟩ := h
  cases rejection with
  | some rejection =>
    simp only [bind_eq_ok, pure_eq_ok, Prod.mk.injEq] at h
    obtain ⟨_, hcommit, rfl, rfl⟩ := h
    exact Or.inl ⟨rejection, _, rfl, hcommit⟩
  | none =>
    simp only [bind_eq_ok, pure_eq_ok, Prod.mk.injEq] at h
    obtain ⟨_, hcommit, rfl, rfl⟩ := h
    exact Or.inr ⟨_, rfl, rfl, rfl, rfl, tokenClaim.output_bound.1, hcommit⟩

lemma writes_reserveWork {trialId : Identifier} {result : Except BudgetRejection WorkReservation}
    (h : reserveWork header trialId claim reservationId eventId committed =
      .ok (campaign, result)) :
    Writes header committed campaign := by
  simp only [reserveWork, bind_eq_ok, raiseIf_eq_ok, exists_const] at h
  obtain ⟨-, -, state, -, trial, -, ledger, -, rejection, -, h⟩ := h
  cases rejection with
  | some rejection =>
    simp only [bind_eq_ok, pure_eq_ok, Prod.mk.injEq] at h
    obtain ⟨_, hcommit, rfl, -⟩ := h
    exact writes_of_commit hcommit (by simp [CampaignEventPayload.Reported])
  | none =>
    simp only [bind_eq_ok, pure_eq_ok, Prod.mk.injEq] at h
    obtain ⟨_, hcommit, rfl, -⟩ := h
    exact writes_of_commit hcommit (by simp [CampaignEventPayload.Reported])

lemma writes_settleProvider {reservation : CampaignReservation} {disposition : AttemptDisposition}
    {usage : Option ProviderUsage} {facts : ResponseFacts}
    {failureCondition : Option RetryCondition}
    (h : settleProvider header reservation disposition usage facts failureCondition eventId
      committed = .ok campaign) :
    Writes header committed campaign := by
  simp only [settleProvider, bind_eq_ok, raiseIf_eq_ok, exists_const] at h
  obtain ⟨-, -, -, -, hfailed, counters, hcounters, trial, -, attempt, hattempt, hcommit⟩ := h
  refine writes_of_commit hcommit ?_
  rintro settled hsettled hretryable
  cases hsettled
  obtain ⟨hdisposition, husage⟩ := attemptRecord_eq_ok hattempt
  rw [husage]
  rw [hdisposition] at hretryable
  -- only a completed attempt may carry usage
  have hnone : usage = none := by
    by_contra hsome
    exact hfailed ⟨by simp [hretryable], Or.inr (Or.inr (Or.inr hsome))⟩
  subst hnone
  cases hcounters
  rfl

lemma writes_settleWork {reservation : WorkReservation} {actual : CampaignResources}
    {exceeded : Bool}
    (h : settleWork header reservation actual eventId committed = .ok (campaign, exceeded)) :
    Writes header committed campaign := by
  simp only [settleWork, bind_eq_ok, raiseIf_eq_ok, exists_const, pure_eq_ok, Prod.mk.injEq] at h
  obtain ⟨-, _, hcommit, rfl, -⟩ := h
  exact writes_of_commit hcommit (by simp [CampaignEventPayload.Reported])

lemma writes_finalizeRun {reservation : WorkReservation} {actual : CampaignResources}
    {outcome : TrialRunOutcome} {settledId terminalId : UUID} {exceeded : Bool}
    (h : finalizeRun header reservation actual outcome settledId terminalId committed =
      .ok (campaign, exceeded)) :
    Writes header committed campaign := by
  simp only [finalizeRun, bind_eq_ok, raiseIf_eq_ok, exists_const, pure_eq_ok, Prod.mk.injEq] at h
  obtain ⟨-, state, -, state', -, state'', -, _, htransact, rfl, -⟩ := h
  refine writes_of_transact htransact ?_
  simp [CampaignEventPayload.Reported]

/-! ### Recoveries -/

omit [CampaignCanonical] in
lemma recoveryPayload_reported
    {requests : Dict Identifier ProviderRequestState}
    {reservation : ReservationLedger}
    (h : recoveryPayload trial requests reservationId reservation provider = .ok payload) :
    payload.Reported := by
  simp only [recoveryPayload, bind_eq_ok, raiseIf_eq_ok, exists_const] at h
  obtain ⟨-, h⟩ := h
  split_ifs at h with hdispatched
  · simp only [bind_eq_ok, raiseIf_eq_ok, exists_const, pure_eq_ok] at h
    obtain ⟨-, rfl⟩ := h
    simp [CampaignEventPayload.Reported]
  · simp only [bind_eq_ok, raiseIf_eq_ok, exists_const, pure_eq_ok] at h
    obtain ⟨request, -, -, attempt, hattempt, rfl⟩ := h
    rintro settled hsettled hretryable
    cases hsettled
    rw [(attemptRecord_eq_ok hattempt).1] at hretryable
    split_ifs at hretryable

variable {eventIds : Nat → UUID}

lemma recoverReservation_reported
    {requests : Dict Identifier ProviderRequestState} {length : Nat}
    {recovery recovery' : CampaignRecovery} {entry : Identifier × ReservationLedger}
    (h : recoverReservation header trial requests eventIds length recovery entry = .ok recovery')
    (hrecovery : ∀ event ∈ recovery.events, event.payload.Reported) :
    ∀ event ∈ recovery'.events, event.payload.Reported := by
  unfold recoverReservation at h
  split at h
  · cases h
    exact hrecovery
  · split_ifs at h
    · cases h
      exact hrecovery
    · simp only [bind_eq_ok, pure_eq_ok] at h
      obtain ⟨payload, hpayload, state, -, rfl⟩ := h
      intro event hevent
      rcases List.mem_append.mp hevent with hevent | hevent
      · exact hrecovery event hevent
      · rw [List.mem_singleton] at hevent
        subst hevent
        exact recoveryPayload_reported hpayload

lemma writes_recoverProviderDispatches {trialId : Identifier}
    {providerRequests : List ProviderRequestState}
    {recovered : Option (List Identifier)}
    (h : recoverIncompleteProviderDispatches header trialId providerRequests eventIds committed =
      .ok (campaign, recovered)) :
    Writes header committed campaign := by
  simp only [recoverIncompleteProviderDispatches, bind_eq_ok, raiseIf_eq_ok, exists_const] at h
  obtain ⟨-, state, hstate, h⟩ := h
  split_ifs at h
  · simp only [bind_eq_ok, pure_eq_ok, Prod.mk.injEq] at h
    obtain ⟨trial, -, recovery, hrecovery, _, htransact, rfl, -⟩ := h
    refine writes_of_transact htransact ?_
    exact foldSteps_induction
      (P := fun _ (recovery : CampaignRecovery) =>
        ∀ event ∈ recovery.events, event.payload.Reported)
      (fun _ _ _ _ ih hstep => recoverReservation_reported hstep ih) (by simp) hrecovery
  · simp only [pure_eq_ok, Prod.mk.injEq] at h
    obtain ⟨rfl, -⟩ := h
    exact ⟨[], (List.append_nil _).symm, by simp, state, hstate⟩

lemma push_reported {length : Nat} {batch batch' : CampaignBatch}
    (h : batch.push header eventIds length payload = .ok batch') (hpayload : payload.Reported)
    (hbatch : ∀ event ∈ batch.events, event.payload.Reported) :
    ∀ event ∈ batch'.events, event.payload.Reported := by
  simp only [CampaignBatch.push, bind_eq_ok, pure_eq_ok] at h
  obtain ⟨state, -, rfl⟩ := h
  intro event hevent
  rcases List.mem_append.mp hevent with hevent | hevent
  · exact hbatch event hevent
  · rw [List.mem_singleton] at hevent
    subst hevent
    exact hpayload

omit [CampaignCanonical] in
lemma closingPayload_reported {reservation : ReservationLedger}
    (h : closingPayload header reservationId reservation = .ok payload) : payload.Reported := by
  unfold closingPayload at h
  split_ifs at h with hdispatched
  · cases h
    simp [CampaignEventPayload.Reported]
  · split at h
    · cases h
      simp [CampaignEventPayload.Reported]
    · simp only [bind_eq_ok, pure_eq_ok] at h
      obtain ⟨trial, -, attempt, hattempt, rfl⟩ := h
      rintro settled hsettled hretryable
      cases hsettled
      exact (abandonedAttempt_eq_ok hattempt).2.1

lemma writes_recoverDispatches {recovered : List Identifier × List Identifier}
    (h : recoverIncompleteDispatches header eventIds committed = .ok (campaign, recovered)) :
    Writes header committed campaign := by
  simp only [recoverIncompleteDispatches, bind_eq_ok, raiseIf_eq_ok, exists_const, pure_eq_ok,
    Prod.mk.injEq] at h
  obtain ⟨state, -, batch, hbatch, -, _, htransact, rfl, -⟩ := h
  refine writes_of_transact htransact ?_
  refine foldSteps_induction
    (P := fun _ (batch : CampaignBatch) => ∀ event ∈ batch.events, event.payload.Reported)
    ?_ (by simp) hbatch
  intro _ batch entry batch' ih hstep
  simp only [closeReservation, bind_eq_ok] at hstep
  obtain ⟨payload, hpayload, hpush⟩ := hstep
  exact push_reported hpush (closingPayload_reported hpayload) ih

lemma writes_stopUnfinished {reason : StopReason}
    (h : stopUnfinished header eventIds reason committed = .ok campaign) :
    Writes header committed campaign := by
  unfold stopUnfinished at h
  split_ifs at h with hreason
  simp only [bind_eq_ok, raiseIf_eq_ok, exists_const] at h
  obtain ⟨state, -, -, batch, hbatch, -, htransact⟩ := h
  refine writes_of_transact htransact ?_
  refine foldSteps_induction
    (P := fun _ (batch : CampaignBatch) => ∀ event ∈ batch.events, event.payload.Reported)
    ?_ (by simp) hbatch
  intro _ batch trial batch' ih hstep
  simp only [stopTrial, bind_eq_ok, orRaise_eq_ok] at hstep
  obtain ⟨ledger, -, hstep⟩ := hstep
  split_ifs at hstep
  · rw [pure_eq_ok] at hstep
    subst hstep
    exact ih
  · simp only [bind_eq_ok] at hstep
    obtain ⟨zero, -, hpush⟩ := hstep
    exact push_reported hpush (by simp [CampaignEventPayload.Reported]) ih

theorem writes_of_perform {operation : RunnerOperation}
    (h : operation.perform header committed = .ok campaign) : Writes header committed campaign := by
  cases operation with
  | reserveProviderAttempt =>
    obtain ⟨⟨_, result⟩, hcall, rfl⟩ := Except.map_eq_ok_iff.mp h
    rcases reserveProviderAttempt_eq_ok hcall with ⟨_, _, -, hcommit⟩ | ⟨_, -, -, -, -, -, hcommit⟩
    · exact writes_of_commit hcommit (by simp [CampaignEventPayload.Reported])
    · exact writes_of_commit hcommit (by simp [CampaignEventPayload.Reported])
  | reserveWork =>
    obtain ⟨⟨_, result⟩, hcall, rfl⟩ := Except.map_eq_ok_iff.mp h
    exact writes_reserveWork hcall
  | markDispatched => exact writes_of_commit h (by simp [CampaignEventPayload.Reported])
  | cancel => exact writes_of_commit h (by simp [CampaignEventPayload.Reported])
  | settleProvider => exact writes_settleProvider h
  | settleWork =>
    obtain ⟨⟨_, exceeded⟩, hcall, rfl⟩ := Except.map_eq_ok_iff.mp h
    exact writes_settleWork hcall
  | finalizeRun =>
    obtain ⟨⟨_, exceeded⟩, hcall, rfl⟩ := Except.map_eq_ok_iff.mp h
    exact writes_finalizeRun hcall
  | recordOutcome => exact writes_of_commit h (by simp [CampaignEventPayload.Reported])
  | recoverProviderDispatches =>
    obtain ⟨⟨_, recovered⟩, hcall, rfl⟩ := Except.map_eq_ok_iff.mp h
    exact writes_recoverProviderDispatches hcall
  | recoverDispatches =>
    obtain ⟨⟨_, recovered⟩, hcall, rfl⟩ := Except.map_eq_ok_iff.mp h
    exact writes_recoverDispatches hcall
  | stopUnfinished => exact writes_stopUnfinished h

/-- Whatever runners do, the journal is accepted and its events report. -/
theorem runOperations_reported (header : CampaignHeader) (operations : List RunnerOperation) :
    (∀ event ∈ runOperations header operations, event.payload.Reported) ∧
      ∃ state, replayCampaign header (runOperations header operations) = .ok state := by
  induction operations using List.reverseRecOn with
  | nil => exact ⟨by simp [runOperations], CampaignProjection.initial header, rfl⟩
  | append_singleton operations operation ih =>
    rw [runOperations, List.foldl_append, List.foldl_cons, List.foldl_nil, ← runOperations]
    cases hperform : operation.perform header (runOperations header operations) with
    | error => exact ih
    | ok campaign =>
      obtain ⟨requested, rfl, hreported, hstate⟩ := writes_of_perform hperform
      refine ⟨?_, hstate⟩
      intro event hevent
      rcases List.mem_append.mp hevent with hevent | hevent
      · exact ih.1 event hevent
      · exact hreported event hevent

/-! ### The dispatches of a request -/

omit [CampaignCanonical]

/-- The latest reservation created under an identifier. -/
def reservationOf (events : List CampaignEvent) (reservationId : Identifier) :
    Option ReservationCreatedPayload :=
  events.foldl (fun found event =>
    match event.payload with
    | .reservationCreated payload =>
      if payload.reservationId = reservationId then some payload else found
    | _ => found) none

/-- Event `i` marks a provider reservation for this request of the trial as dispatched. -/
def DispatchedAt (events : List CampaignEvent) (trialId requestKey : Identifier) (i : Nat) : Prop :=
  ∃ event payload created provider, events[i]? = some event ∧
    event.payload = .reservationDispatched payload ∧
    reservationOf (events.take i) payload.reservationId = some created ∧
    created.trialId = trialId ∧ created.provider = some provider ∧
    provider.requestKey = requestKey

/-- The attempts charged for a request of the trial. -/
def CampaignProjection.attemptsFor (state : CampaignProjection) (trialId requestKey : Identifier) :
    List ProviderAttemptRecord :=
  (state.attempts trialId).filter fun attempt => attempt.requestKey = requestKey

/-- A reservation for this request of the trial. -/
def ReservationLedger.For (active : ReservationLedger) (trialId requestKey : Identifier) : Prop :=
  active.trialId = trialId ∧ ∃ provider ∈ active.provider, provider.requestKey = requestKey

variable {events : List CampaignEvent} {event : CampaignEvent} {trialId requestKey : Identifier}
  {state state' : CampaignProjection}

lemma reservationOf_concat {k : Identifier} :
    reservationOf (events ++ [event]) k =
      match event.payload with
      | .reservationCreated payload =>
        if payload.reservationId = k then some payload else reservationOf events k
      | _ => reservationOf events k := by
  rw [reservationOf, List.foldl_append]
  rfl

lemma DispatchedAt.lt {i : Nat} (h : DispatchedAt events trialId requestKey i) :
    i < events.length := by
  obtain ⟨event, -, -, -, hevent, -⟩ := h
  exact (List.getElem?_eq_some_iff.mp hevent).1

lemma DispatchedAt.concat_iff {i : Nat} :
    DispatchedAt (events ++ [event]) trialId requestKey i ↔
      DispatchedAt events trialId requestKey i ∨
        i = events.length ∧ ∃ payload created provider,
          event.payload = .reservationDispatched payload ∧
          reservationOf events payload.reservationId = some created ∧
          created.trialId = trialId ∧ created.provider = some provider ∧
          provider.requestKey = requestKey := by
  rcases lt_trichotomy i events.length with hi | rfl | hi
  · have htake : (events ++ [event]).take i = events.take i :=
      List.take_append_of_le_length hi.le
    have hget : (events ++ [event])[i]? = events[i]? := List.getElem?_append_left hi
    simp only [DispatchedAt, htake, hget, hi.ne, false_and, or_false]
  · have hnot : ¬ DispatchedAt events trialId requestKey events.length :=
      fun h => lt_irrefl _ h.lt
    simp only [hnot, false_or, true_and]
    simp only [DispatchedAt, List.getElem?_concat_length, List.take_left', Option.some.injEq]
    constructor
    · rintro ⟨_, payload, created, provider, rfl, h⟩
      exact ⟨payload, created, provider, h⟩
    · rintro ⟨payload, created, provider, h⟩
      exact ⟨event, payload, created, provider, rfl, h⟩
  · constructor
    · intro h
      have hlt := h.lt
      rw [List.length_append, List.length_singleton] at hlt
      omega
    · rintro (h | ⟨rfl, -⟩)
      · exact absurd h.lt (by omega)
      · omega

/-- How far the request has come. -/
inductive PaidPhase (events : List CampaignEvent) (state : CampaignProjection)
    (trialId requestKey : Identifier) : Prop
  | untouched
      (hfree : ∀ k active, state.reservations.get? k = some active →
        ¬ active.For trialId requestKey)
      (hattempts : state.attemptsFor trialId requestKey = [])
      (hnone : ∀ i, ¬ DispatchedAt events trialId requestKey i)
  | reserved (k : Identifier) (active : ReservationLedger)
      (hactive : state.reservations.get? k = some active) (hfor : active.For trialId requestKey)
      (hsole : ∀ k' active', state.reservations.get? k' = some active' →
        active'.For trialId requestKey → k' = k)
      (hdispatched : active.dispatched = false)
      (hattempts : state.attemptsFor trialId requestKey = [])
      (hnone : ∀ i, ¬ DispatchedAt events trialId requestKey i)
  | dispatched (k : Identifier) (active : ReservationLedger) (i : Nat)
      (hactive : state.reservations.get? k = some active) (hfor : active.For trialId requestKey)
      (hsole : ∀ k' active', state.reservations.get? k' = some active' →
        active'.For trialId requestKey → k' = k)
      (hdispatched : active.dispatched = true)
      (hattempts : state.attemptsFor trialId requestKey = [])
      (honce : ∀ j, DispatchedAt events trialId requestKey j → j = i)
  | charged (attempt : ProviderAttemptRecord) (i : Nat)
      (hfree : ∀ k active, state.reservations.get? k = some active →
        ¬ active.For trialId requestKey)
      (hattempts : state.attemptsFor trialId requestKey = [attempt])
      (honce : ∀ j, DispatchedAt events trialId requestKey j → j = i)

lemma PaidPhase.dispatched_unique (h : PaidPhase events state trialId requestKey) {i j : Nat}
    (hi : DispatchedAt events trialId requestKey i)
    (hj : DispatchedAt events trialId requestKey j) : i = j := by
  cases h with
  | untouched hfree hattempts hnone => exact absurd hi (hnone i)
  | reserved k active hactive hfor hsole hdispatched hattempts hnone => exact absurd hi (hnone i)
  | dispatched k active i' hactive hfor hsole hdispatched hattempts honce =>
    exact (honce i hi).trans (honce j hj).symm
  | charged attempt i' hfree hattempts honce => exact (honce i hi).trans (honce j hj).symm

lemma PaidPhase.length_attemptsFor (h : PaidPhase events state trialId requestKey) :
    (state.attemptsFor trialId requestKey).length ≤ 1 := by
  cases h with
  | untouched hfree hattempts hnone => simp [hattempts]
  | reserved k active hactive hfor hsole hdispatched hattempts hnone => simp [hattempts]
  | dispatched k active i' hactive hfor hsole hdispatched hattempts honce => simp [hattempts]
  | charged attempt i' hfree hattempts honce => simp [hattempts]

/-! ### Steps -/

/-- An event about other requests leaves the phase as it was. -/
lemma PaidPhase.of_same (h : PaidPhase events state trialId requestKey)
    (hsame : ∀ k active, active.For trialId requestKey →
      (state'.reservations.get? k = some active ↔ state.reservations.get? k = some active))
    (hattempts' : state'.attemptsFor trialId requestKey = state.attemptsFor trialId requestKey)
    (hnew : ∀ i, DispatchedAt (events ++ [event]) trialId requestKey i →
      DispatchedAt events trialId requestKey i) :
    PaidPhase (events ++ [event]) state' trialId requestKey := by
  cases h with
  | untouched hfree hattempts hnone =>
    refine .untouched ?_ (hattempts'.trans hattempts) fun i hi => hnone i (hnew i hi)
    intro k active hactive hfor
    exact hfree k active ((hsame k active hfor).mp hactive) hfor
  | reserved k active hactive hfor hsole hdispatched hattempts hnone =>
    refine .reserved k active ((hsame k active hfor).mpr hactive) hfor ?_ hdispatched
      (hattempts'.trans hattempts) fun i hi => hnone i (hnew i hi)
    intro k' active' hactive' hfor'
    exact hsole k' active' ((hsame k' active' hfor').mp hactive') hfor'
  | dispatched k active i hactive hfor hsole hdispatched hattempts honce =>
    refine .dispatched k active i ((hsame k active hfor).mpr hactive) hfor ?_ hdispatched
      (hattempts'.trans hattempts) fun j hj => honce j (hnew j hj)
    intro k' active' hactive' hfor'
    exact hsole k' active' ((hsame k' active' hfor').mp hactive') hfor'
  | charged attempt i hfree hattempts honce =>
    refine .charged attempt i ?_ (hattempts'.trans hattempts) fun j hj => honce j (hnew j hj)
    intro k active hactive hfor
    exact hfree k active ((hsame k active hfor).mp hactive) hfor

lemma SameAttempts.attemptsFor (h : SameAttempts state state') :
    state'.attemptsFor trialId requestKey = state.attemptsFor trialId requestKey := by
  rw [CampaignProjection.attemptsFor, h.attempts, ← CampaignProjection.attemptsFor]

/-- Only a dispatch adds a dispatch. -/
lemma dispatchedAt_of_concat (hpayload : ∀ payload, event.payload ≠ .reservationDispatched payload)
    {i : Nat} (h : DispatchedAt (events ++ [event]) trialId requestKey i) :
    DispatchedAt events trialId requestKey i := by
  rcases DispatchedAt.concat_iff.mp h with h | ⟨-, payload, _, _, hp, -⟩
  · exact h
  · exact absurd hp (hpayload payload)

section Accepted

variable [CampaignCanonical] {header : CampaignHeader}

/-- No other reservation for the request is active, and its last attempt was retryable. -/
lemma validateProviderReservation_eq_ok {payload : ReservationCreatedPayload}
    {provider : ProviderReservationBinding} {ledger : TrialProjection}
    (h : validateProviderReservation header state payload provider ledger = .ok ⟨⟩) :
    (∀ active ∈ state.reservations.values, ¬ active.For payload.trialId provider.requestKey) ∧
      ∀ previous, (ledger.attempts.filter fun attempt =>
          attempt.requestKey = provider.requestKey).getLast? = some previous →
        previous.disposition = .retryableFailure := by
  simp only [validateProviderReservation, bind_eq_ok, raiseIf_eq_ok, exists_const] at h
  obtain ⟨-, trial, -, -, -, hactive, h⟩ := h
  constructor
  · intro active hmem hfor
    exact hactive ⟨active, hmem, hfor.1, hfor.2⟩
  · intro previous hprevious
    simp only [hprevious, bind_eq_ok, raiseIf_eq_ok, exists_const, not_not] at h
    exact h.2.1

lemma budgetViolation_of_created {payload : ReservationCreatedPayload}
    (h : applyCampaignEvent header state event = .ok state')
    (hpayload : event.payload = .reservationCreated payload) : state.budgetViolation = false := by
  rw [applyCampaignEvent, hpayload] at h
  exact (applyReservationCreated_eq_ok h).2.1

omit [CampaignCanonical] in
lemma provider_of_workSettled {payload : WorkSettledPayload} {active : ReservationLedger}
    (h : applyWorkSettled state payload = .ok state')
    (hactive : state.reservations.get? payload.reservationId = some active) :
    active.provider = none := by
  simp only [applyWorkSettled, reservation, bind_eq_ok, orRaise_eq_ok, raiseIf_eq_ok, exists_const,
    Option.not_isSome_iff_eq_none] at h
  obtain ⟨active', hactive', hprovider, -⟩ := h
  rw [hactive'] at hactive
  cases hactive
  exact hprovider

end Accepted

section Phases

variable {k : Identifier} {active : ReservationLedger}

/-- A first reservation for the request. -/
lemma PaidPhase.reserve (h : PaidPhase events state trialId requestKey)
    (hfree : ∀ k active, state.reservations.get? k = some active →
      ¬ active.For trialId requestKey)
    (hattempts : state.attemptsFor trialId requestKey = [])
    (hreservations : state'.reservations = state.reservations.insert k active)
    (hfor : active.For trialId requestKey) (hdispatched : active.dispatched = false)
    (hsame : SameAttempts state state')
    (hpayload : ∀ payload, event.payload ≠ .reservationDispatched payload) :
    PaidPhase (events ++ [event]) state' trialId requestKey := by
  have hnone : ∀ i, ¬ DispatchedAt events trialId requestKey i := by
    cases h with
    | untouched _ _ hnone => exact hnone
    | reserved k' active' hactive' hfor' => exact absurd hfor' (hfree k' active' hactive')
    | dispatched k' active' i hactive' hfor' => exact absurd hfor' (hfree k' active' hactive')
    | charged attempt i _ hcharged => simp [hattempts] at hcharged
  refine .reserved k active (by rw [hreservations, Dict.get?_insert_self]) hfor ?_ hdispatched
    (hsame.attemptsFor.trans hattempts) fun i hi => hnone i (dispatchedAt_of_concat hpayload hi)
  intro k' active' hactive' hfor'
  rw [hreservations, Dict.get?_insert] at hactive'
  split_ifs at hactive' with hk
  · exact hk
  · exact absurd hfor' (hfree k' active' hactive')

/-- The only dispatch of the request. -/
lemma PaidPhase.dispatch (h : PaidPhase events state trialId requestKey)
    (hactive : state.reservations.get? k = some active) (hfor : active.For trialId requestKey)
    (hdispatched : active.dispatched = false)
    (hreservations : state'.reservations =
      state.reservations.insert k { active with dispatched := true })
    (hsame : SameAttempts state state') :
    PaidPhase (events ++ [event]) state' trialId requestKey := by
  cases h with
  | untouched hfree => exact absurd hfor (hfree k active hactive)
  | reserved k' active' hactive' hfor' hsole hdispatched' hattempts hnone =>
    refine .dispatched k { active with dispatched := true } events.length
      (by rw [hreservations, Dict.get?_insert_self]) hfor ?_ rfl
      (hsame.attemptsFor.trans hattempts) ?_
    · intro l active'' hactive'' hfor''
      rw [hreservations, Dict.get?_insert] at hactive''
      split_ifs at hactive'' with hl
      · exact hl
      · exact (hsole l active'' hactive'' hfor'').trans (hsole k active hactive hfor).symm
    · intro j hj
      rcases DispatchedAt.concat_iff.mp hj with hj | ⟨rfl, -⟩
      · exact absurd hj (hnone j)
      · rfl
  | dispatched k' active' i hactive' hfor' hsole hdispatched' =>
    obtain rfl := hsole k active hactive hfor
    rw [hactive] at hactive'
    cases hactive'
    simp [hdispatched] at hdispatched'
  | charged attempt i hfree => exact absurd hfor (hfree k active hactive)

/-- No reservation for the request is left once the only one is erased. -/
lemma not_for_of_erase
    (hsole : ∀ k' active', state.reservations.get? k' = some active' →
      active'.For trialId requestKey → k' = k)
    (hreservations : state'.reservations = state.reservations.erase k) (l : Identifier)
    (other : ReservationLedger) (hother : state'.reservations.get? l = some other) :
    ¬ other.For trialId requestKey := by
  intro hfor
  rw [hreservations, Dict.get?_erase] at hother
  split_ifs at hother with hl
  exact hl (hsole l other hother hfor)

lemma PaidPhase.cancel (h : PaidPhase events state trialId requestKey)
    (hactive : state.reservations.get? k = some active) (hfor : active.For trialId requestKey)
    (hdispatched : active.dispatched = false)
    (hreservations : state'.reservations = state.reservations.erase k)
    (hsame : SameAttempts state state')
    (hpayload : ∀ payload, event.payload ≠ .reservationDispatched payload) :
    PaidPhase (events ++ [event]) state' trialId requestKey := by
  cases h with
  | untouched hfree => exact absurd hfor (hfree k active hactive)
  | reserved k' active' hactive' hfor' hsole hdispatched' hattempts hnone =>
    obtain rfl := hsole k active hactive hfor
    exact .untouched (not_for_of_erase hsole hreservations) (hsame.attemptsFor.trans hattempts)
      fun i hi => hnone i (dispatchedAt_of_concat hpayload hi)
  | dispatched k' active' i hactive' hfor' hsole hdispatched' =>
    obtain rfl := hsole k active hactive hfor
    rw [hactive] at hactive'
    cases hactive'
    simp [hdispatched] at hdispatched'
  | charged attempt i hfree => exact absurd hfor (hfree k active hactive)

lemma PaidPhase.settle (h : PaidPhase events state trialId requestKey)
    (attempt : ProviderAttemptRecord)
    (hactive : state.reservations.get? k = some active) (hfor : active.For trialId requestKey)
    (hdispatched : active.dispatched = true)
    (hreservations : state'.reservations = state.reservations.erase k)
    (hattempts' : state'.attemptsFor trialId requestKey =
      state.attemptsFor trialId requestKey ++ [attempt])
    (hpayload : ∀ payload, event.payload ≠ .reservationDispatched payload) :
    PaidPhase (events ++ [event]) state' trialId requestKey := by
  cases h with
  | untouched hfree => exact absurd hfor (hfree k active hactive)
  | reserved k' active' hactive' hfor' hsole hdispatched' =>
    obtain rfl := hsole k active hactive hfor
    rw [hactive] at hactive'
    cases hactive'
    simp [hdispatched] at hdispatched'
  | dispatched k' active' i hactive' hfor' hsole hdispatched' hattempts honce =>
    obtain rfl := hsole k active hactive hfor
    refine .charged attempt i (not_for_of_erase hsole hreservations) ?_
      fun j hj => honce j (dispatchedAt_of_concat hpayload hj)
    rw [hattempts', hattempts, List.nil_append]
  | charged attempt i hfree => exact absurd hfor (hfree k active hactive)

/-- A reservation for another request may go or change. -/
lemma get?_insert_of_not_for (hactive : ¬ active.For trialId requestKey)
    (hbefore : ∀ other, state.reservations.get? k = some other → ¬ other.For trialId requestKey)
    (hreservations : state'.reservations = state.reservations.insert k active) (l : Identifier)
    (other : ReservationLedger) (hother : other.For trialId requestKey) :
    state'.reservations.get? l = some other ↔ state.reservations.get? l = some other := by
  rw [hreservations, Dict.get?_insert]
  split_ifs with hl
  · subst hl
    constructor
    · intro h
      obtain rfl := Option.some.inj h
      exact absurd hother hactive
    · intro h
      exact absurd hother (hbefore other h)
  · rfl

lemma get?_erase_of_not_for (hactive : state.reservations.get? k = some active)
    (hfor : ¬ active.For trialId requestKey)
    (hreservations : state'.reservations = state.reservations.erase k) (l : Identifier)
    (other : ReservationLedger) (hother : other.For trialId requestKey) :
    state'.reservations.get? l = some other ↔ state.reservations.get? l = some other := by
  rw [hreservations, Dict.get?_erase]
  split_ifs with hl
  · subst hl
    constructor
    · intro h
      cases h
    · intro h
      rw [hactive] at h
      obtain rfl := Option.some.inj h
      exact absurd hother hfor
  · rfl

end Phases

/-! ### Runs -/

/-- What holds along a journal whose events report. -/
structure PaidOnce (events : List CampaignEvent) (state : CampaignProjection) : Prop where
  owned : ∀ k active, state.reservations.get? k = some active →
    ∃ created, reservationOf events k = some created ∧ created.trialId = active.trialId ∧
      created.provider = active.provider
  poisoned : ∀ t, ∀ attempt ∈ state.attempts t, attempt.disposition = .retryableFailure →
    state.budgetViolation = true
  phase : ∀ t key, PaidPhase events state t key

section Run

variable [CampaignCanonical] {header : CampaignHeader}

omit [CampaignCanonical] in
lemma paidOnce_initial : PaidOnce [] (CampaignProjection.initial header) where
  owned k active h := by simp [CampaignProjection.initial] at h
  poisoned t attempt hattempt := by
    rw [initial_attempts] at hattempt
    exact absurd hattempt List.not_mem_nil
  phase t key := by
    refine .untouched ?_ ?_ ?_
    · intro k active h
      simp [CampaignProjection.initial] at h
    · rw [CampaignProjection.attemptsFor, initial_attempts, List.filter_nil]
    · intro i hi
      exact absurd hi.lt (Nat.not_lt_zero i)

lemma owned_step (h : PaidOnce events state)
    (hstep : applyCampaignEvent header state event = .ok state') (k : Identifier)
    (active : ReservationLedger) (hactive : state'.reservations.get? k = some active) :
    ∃ created, reservationOf (events ++ [event]) k = some created ∧
      created.trialId = active.trialId ∧ created.provider = active.provider := by
  rw [reservationOf_concat]
  rcases mem_reservations_step hstep hactive with
    ⟨hold, hother⟩ | ⟨payload, hpayload, rfl, rfl⟩ | ⟨payload, before, hpayload, hbefore, rfl⟩
  · obtain ⟨created, hcreated, hsame⟩ := h.owned k active hold
    refine ⟨created, ?_, hsame⟩
    split
    · rename_i payload hpayload
      exact (if_neg (hother payload hpayload)).trans hcreated
    · exact hcreated
  · rw [hpayload]
    exact ⟨payload, if_pos rfl, rfl, rfl⟩
  · rw [hpayload]
    exact h.owned k before hbefore

lemma poisoned_step (h : PaidOnce events state)
    (hstep : applyCampaignEvent header state event = .ok state')
    (hreported : event.payload.Reported) (t : Identifier) (attempt : ProviderAttemptRecord)
    (hattempt : attempt ∈ state'.attempts t)
    (hretryable : attempt.disposition = .retryableFailure) : state'.budgetViolation = true := by
  rcases mem_attempts_step hstep hattempt with hold | ⟨payload, hpayload, rfl⟩
  · exact (applyCampaignEvent_ledgerStep hstep).violation (h.poisoned t attempt hold hretryable)
  · have husage := hreported payload hpayload hretryable
    rw [applyCampaignEvent, hpayload] at hstep
    exact budgetViolation_of_unknown hstep husage

/-- A request with an attempt that is not poisoned admits no further reservation. -/
lemma attemptsFor_eq_nil_of_created (h : PaidOnce events state)
    {payload : ReservationCreatedPayload} {provider : ProviderReservationBinding}
    {ledger : TrialProjection} (hledger : state.ledgers.get? payload.trialId = some ledger)
    (hclean : state.budgetViolation = false)
    (hvalid : validateProviderReservation header state payload provider ledger = .ok ⟨⟩) :
    state.attemptsFor payload.trialId provider.requestKey = [] := by
  rw [CampaignProjection.attemptsFor, attempts_of_get? hledger]
  by_contra hne
  obtain ⟨previous, hprevious⟩ :=
    Option.ne_none_iff_exists'.mp (mt List.getLast?_eq_none_iff.mp hne)
  have hretryable := (validateProviderReservation_eq_ok hvalid).2 previous hprevious
  have hmem := List.mem_of_mem_filter (List.mem_of_getLast? hprevious)
  rw [← attempts_of_get? hledger] at hmem
  have hpoisoned := h.poisoned payload.trialId previous hmem hretryable
  simp [hclean] at hpoisoned

lemma phase_created (h : PaidOnce events state) {payload : ReservationCreatedPayload}
    (hpayload : event.payload = .reservationCreated payload)
    (hstep : applyCampaignEvent header state event = .ok state') :
    PaidPhase (events ++ [event]) state' trialId requestKey := by
  have hclean := budgetViolation_of_created hstep hpayload
  have hother : ∀ p, event.payload ≠ .reservationDispatched p := by simp [hpayload]
  have heffect := ReservationEffect.of_apply hstep
  rw [hpayload] at heffect
  cases heffect with
  | created _ ledger hfresh hledger hprovider hreservations hattempts =>
    by_cases hfor : ReservationLedger.For
        { trialId := payload.trialId, claim := payload.claim, provider := payload.provider }
        trialId requestKey
    · obtain ⟨rfl, provider, hmem, rfl⟩ := hfor
      have hvalid := hprovider provider hmem
      have hnil := attemptsFor_eq_nil_of_created h hledger hclean hvalid
      refine (h.phase payload.trialId provider.requestKey).reserve ?_ hnil hreservations
        ⟨rfl, provider, hmem, rfl⟩ rfl hattempts hother
      intro k active hactive
      exact (validateProviderReservation_eq_ok hvalid).1 active
        (Dict.mem_values.mpr ⟨k, hactive⟩)
    · refine (h.phase trialId requestKey).of_same ?_ hattempts.attemptsFor
        fun i hi => dispatchedAt_of_concat hother hi
      refine get?_insert_of_not_for hfor ?_ hreservations
      intro other hget
      exact absurd (Dict.mem_of_get? hget) hfresh

lemma phase_dispatched (h : PaidOnce events state) {payload : ReservationDispatchedPayload}
    (hpayload : event.payload = .reservationDispatched payload)
    (hstep : applyCampaignEvent header state event = .ok state') :
    PaidPhase (events ++ [event]) state' trialId requestKey := by
  have heffect := ReservationEffect.of_apply hstep
  rw [hpayload] at heffect
  cases heffect with
  | dispatched _ active hactive hdispatched hreservations hattempts =>
    by_cases hfor : active.For trialId requestKey
    · exact (h.phase trialId requestKey).dispatch hactive hfor hdispatched hreservations hattempts
    · refine (h.phase trialId requestKey).of_same ?_ hattempts.attemptsFor ?_
      · have hfor' :
            ¬ ReservationLedger.For { active with dispatched := true } trialId requestKey :=
          hfor
        refine get?_insert_of_not_for hfor' ?_ hreservations
        intro other hget
        rw [hactive] at hget
        obtain rfl := Option.some.inj hget
        exact hfor
      · -- the reservation created under this identifier is the active one
        intro i hi
        rcases DispatchedAt.concat_iff.mp hi with
          hi | ⟨-, p, created, provider, hp, hcreated, hrest⟩
        · exact hi
        · rw [hpayload] at hp
          cases hp
          obtain ⟨created', hcreated', htrial, hprovider⟩ := h.owned _ active hactive
          rw [hcreated] at hcreated'
          obtain rfl := Option.some.inj hcreated'
          exact absurd ⟨htrial ▸ hrest.1, provider, hprovider ▸ hrest.2.1, hrest.2.2⟩ hfor

lemma phase_settled (h : PaidOnce events state) {payload : ProviderAttemptSettledPayload}
    (hpayload : event.payload = .providerAttemptSettled payload)
    (hstep : applyCampaignEvent header state event = .ok state') :
    PaidPhase (events ++ [event]) state' trialId requestKey := by
  have hother : ∀ p, event.payload ≠ .reservationDispatched p := by simp [hpayload]
  have heffect := ReservationEffect.of_apply hstep
  rw [hpayload] at heffect
  cases heffect with
  | providerSettled _ active provider hactive hprovider hdispatched hkey hreservations hattempts =>
    by_cases hfor : active.For trialId requestKey
    · refine (h.phase trialId requestKey).settle payload.attempt hactive hfor hdispatched
        hreservations ?_ hother
      obtain ⟨rfl, provider', hmem, rfl⟩ := hfor
      rw [hprovider] at hmem
      cases hmem
      rw [CampaignProjection.attemptsFor, hattempts, if_pos rfl, List.filter_append]
      simp [hkey, CampaignProjection.attemptsFor]
    · refine (h.phase trialId requestKey).of_same
        (get?_erase_of_not_for hactive hfor hreservations) ?_
        fun i hi => dispatchedAt_of_concat hother hi
      rw [CampaignProjection.attemptsFor, hattempts]
      split_ifs with ht
      · have hne : payload.attempt.requestKey ≠ requestKey := by
          intro heq
          exact hfor ⟨ht.symm, provider, hprovider, hkey ▸ heq⟩
        simp [List.filter_append, hne, CampaignProjection.attemptsFor]
      · rfl

/-- The phase of a request after any accepted event. -/
lemma phase_step (h : PaidOnce events state)
    (hstep : applyCampaignEvent header state event = .ok state') :
    PaidPhase (events ++ [event]) state' trialId requestKey := by
  have heffect := ReservationEffect.of_apply hstep
  cases hpayload : event.payload with
  | reservationCreated payload => exact phase_created h hpayload hstep
  | reservationDispatched payload => exact phase_dispatched h hpayload hstep
  | providerAttemptSettled payload => exact phase_settled h hpayload hstep
  | reservationCancelled payload =>
    have hother : ∀ p, event.payload ≠ .reservationDispatched p := by simp [hpayload]
    rw [hpayload] at heffect
    cases heffect with
    | cancelled _ active hactive hdispatched hreservations hattempts =>
      by_cases hfor : active.For trialId requestKey
      · exact (h.phase trialId requestKey).cancel hactive hfor hdispatched hreservations hattempts
          hother
      · exact (h.phase trialId requestKey).of_same
          (get?_erase_of_not_for hactive hfor hreservations) hattempts.attemptsFor
          fun i hi => dispatchedAt_of_concat hother hi
  | workSettled payload =>
    have hother : ∀ p, event.payload ≠ .reservationDispatched p := by simp [hpayload]
    rw [hpayload] at heffect
    rw [applyCampaignEvent, hpayload] at hstep
    cases heffect with
    | workSettled _ active hactive hreservations hattempts =>
      have hfor : ¬ active.For trialId requestKey := by
        rintro ⟨-, provider, hmem, -⟩
        rw [provider_of_workSettled hstep hactive] at hmem
        cases hmem
      exact (h.phase trialId requestKey).of_same
        (get?_erase_of_not_for hactive hfor hreservations) hattempts.attemptsFor
        fun i hi => dispatchedAt_of_concat hother hi
  | trialOutcomeRecorded payload =>
    have hother : ∀ p, event.payload ≠ .reservationDispatched p := by simp [hpayload]
    rw [hpayload] at heffect
    cases heffect with
    | outcome _ hreservations hattempts =>
      exact (h.phase trialId requestKey).of_same (fun k active _ => by rw [hreservations])
        hattempts.attemptsFor fun i hi => dispatchedAt_of_concat hother hi
  | budgetStopped payload =>
    have hother : ∀ p, event.payload ≠ .reservationDispatched p := by simp [hpayload]
    rw [hpayload] at heffect
    cases heffect with
    | budgetStopped _ hreservations hattempts =>
      exact (h.phase trialId requestKey).of_same (fun k active _ => by rw [hreservations])
        hattempts.attemptsFor fun i hi => dispatchedAt_of_concat hother hi

theorem replayCampaign_paidOnce (h : replayCampaign header events = .ok state)
    (hreported : ∀ event ∈ events, event.payload.Reported) : PaidOnce events state := by
  refine foldSteps_induction (P := fun events (state : CampaignProjection) =>
    (∀ event ∈ events, event.payload.Reported) → PaidOnce events state) ?_
    (fun _ => paidOnce_initial) h hreported
  intro pre m event m' ih hstep hall
  have hpre : PaidOnce pre m := ih fun e he => hall e (List.mem_append_left _ he)
  have hevent : event.payload.Reported :=
    hall event (List.mem_append_right _ (List.mem_singleton_self _))
  exact ⟨owned_step hpre hstep, poisoned_step hpre hstep hevent, fun t key => phase_step hpre hstep⟩

/-- Whatever the calls to runners and their order, a request of a trial is dispatched at most once
and charged at most once. -/
theorem runOperations_paid_at_most_once (header : CampaignHeader)
    (operations : List RunnerOperation) (trialId requestKey : Identifier) :
    (∀ i j, DispatchedAt (runOperations header operations) trialId requestKey i →
      DispatchedAt (runOperations header operations) trialId requestKey j → i = j) ∧
    ∃ state, replayCampaign header (runOperations header operations) = .ok state ∧
      (state.attemptsFor trialId requestKey).length ≤ 1 := by
  obtain ⟨hreported, state, hstate⟩ := runOperations_reported header operations
  have hphase := (replayCampaign_paidOnce hstate hreported).phase trialId requestKey
  exact ⟨fun i j => hphase.dispatched_unique, state, hstate, hphase.length_attemptsFor⟩

end Run

end EdaGym
