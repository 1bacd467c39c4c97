import EdaGym.Providers.JournalAgreement
import EdaGym.Providers.ProviderCall

/-!
# Every outcome closes its reservation

From its reservation on, a call holds the reservation active. Cancelling it, marking it as
dispatched and settling it as failed always succeed; settling it as completed succeeds exactly when
the model label and the token counters of the response fit the event models.
-/

namespace EdaGym

section Calls

variable [Canonical] [CampaignCanonical] {header : CampaignHeader}
  {state state' : CampaignProjection} {events committed : List CampaignEvent}

/-! ### Commits that succeed -/

lemma commitCampaignEvent_of_apply {eventId : UUID} {payload : CampaignEventPayload}
    (hstate : replayCampaign header committed = .ok state)
    (happly : applyCampaignEvent header state { eventId, sequence := committed.length, payload } =
      .ok state')
    (hfresh : eventId ∉ committed.map CampaignEvent.eventId) :
    commitCampaignEvent header committed eventId payload =
      .ok (committed ++ [{ eventId, sequence := committed.length, payload }]) := by
  have hreplay : replayCampaign header
      (committed ++ [{ eventId, sequence := committed.length, payload }]) = .ok state' :=
    foldSteps_concat_eq_ok.mpr ⟨state, hstate, happly⟩
  simp only [commitCampaignEvent, transactCampaign, bind_eq_ok, raiseIf_eq_ok, exists_const,
    pure_eq_ok]
  refine ⟨state, hstate, state', happly, by simp, by simp, ?_, state', hreplay, trivial⟩
  simpa using hfresh

variable {k : Identifier}

/-- Events about other reservations leave a reservation as it is. -/
lemma reservation_of_other {event : CampaignEvent}
    (h : applyCampaignEvent header state event = .ok state')
    (hother : event.payload.reservationId? ≠ some k) :
    state'.reservations.get? k = state.reservations.get? k := by
  have heffect := ReservationEffect.of_apply h
  generalize event.payload = payload at heffect hother
  cases heffect with
  | created payload ledger hfresh hledger hprovider hreservations hattempts =>
    have hk : k ≠ payload.reservationId := fun hk => hother (congrArg some hk.symm)
    rw [hreservations, Dict.get?_insert_of_ne _ _ hk]
  | dispatched payload active hactive hdispatched hreservations hattempts =>
    have hk : k ≠ payload.reservationId := fun hk => hother (congrArg some hk.symm)
    rw [hreservations, Dict.get?_insert_of_ne _ _ hk]
  | cancelled payload active hactive hdispatched hreservations hattempts =>
    have hk : k ≠ payload.reservationId := fun hk => hother (congrArg some hk.symm)
    rw [hreservations, Dict.get?_erase_of_ne _ hk]
  | workSettled payload active hactive hreservations hattempts =>
    have hk : k ≠ payload.reservationId := fun hk => hother (congrArg some hk.symm)
    rw [hreservations, Dict.get?_erase_of_ne _ hk]
  | providerSettled payload active provider hactive hprovider hdispatched hkey hreservations =>
    have hk : k ≠ payload.reservationId := fun hk => hother (congrArg some hk.symm)
    rw [hreservations, Dict.get?_erase_of_ne _ hk]
  | outcome payload hreservations hattempts => rw [hreservations]
  | budgetStopped payload hreservations hattempts => rw [hreservations]

lemma reservation_of_others {requested : List CampaignEvent}
    (h : foldSteps (applyCampaignEvent header) state requested = .ok state')
    (hother : ∀ event ∈ requested, event.payload.reservationId? ≠ some k) :
    state'.reservations.get? k = state.reservations.get? k := by
  induction requested generalizing state with
  | nil =>
    cases h
    rfl
  | cons event requested ih =>
    obtain ⟨m, hm, hrest⟩ := foldSteps_cons_eq_ok.mp h
    rw [List.forall_mem_cons] at hother
    rw [ih hrest hother.2, reservation_of_other hm hother.1]

/-! ### Settling a provider attempt -/

/-- The record of an attempt repeats its reservation and the route of its trial. -/
structure ProviderAttemptRecord.RecordOf (attempt : ProviderAttemptRecord)
    (trial : ScheduledTrial) (claim : CampaignResources) (provider : ProviderReservationBinding) :
    Prop where
  requestKey : attempt.requestKey = provider.requestKey
  attemptNumber : attempt.attemptNumber = provider.attemptNumber
  requestedModel : attempt.requestedModel = trial.binding.requestedModel
  requestedServiceTier : attempt.requestedServiceTier = trial.binding.serviceTier
  inputTokens : attempt.reservedTokenClaim.inputTokens = claim.inputTokens
  outputTokens : attempt.reservedTokenClaim.outputTokens = claim.outputTokens
  floor : attempt.reservedTokenClaim.observedInputTokenFloor = provider.observedInputTokenFloor
  securityBinding : attempt.securityBinding = provider.securityBinding

omit [Canonical] [CampaignCanonical] in
lemma exists_attemptRecord (trial : ScheduledTrial) {claim : CampaignResources}
    {provider : ProviderReservationBinding} {disposition : AttemptDisposition}
    {failureCondition : Option RetryCondition} {facts : ResponseFacts}
    (usage : Option UsageCounters) (houtput : 1 ≤ claim.outputTokens)
    (hfloor : provider.observedInputTokenFloor < claim.inputTokens)
    (hretry : disposition = .retryableFailure ↔ failureCondition.isSome)
    (hcompleted : disposition = .completed → facts.model.isSome ∧ facts.status.isSome)
    (hfailed : disposition ≠ .completed →
      facts.model = none ∧ facts.status = none ∧ facts.serviceTier = none) :
    ∃ attempt, attemptRecord trial claim provider disposition failureCondition facts usage =
        .ok attempt ∧ attempt.RecordOf trial claim provider ∧
      attempt.disposition = disposition ∧ attempt.failureCondition = failureCondition := by
  unfold attemptRecord
  rw [dif_pos ⟨houtput, hfloor⟩, dif_pos hretry, dif_pos hcompleted, dif_pos hfailed]
  exact ⟨_, rfl, ⟨rfl, rfl, rfl, rfl, rfl, rfl, rfl, rfl⟩, rfl, rfl⟩

lemma exists_apply_settlement (h : replayCampaign header events = .ok state)
    {active : ReservationLedger} (hactive : state.reservations.get? k = some active)
    {provider : ProviderReservationBinding} (hprovider : active.provider = some provider)
    (hdispatched : active.dispatched = true) {trial : ScheduledTrial}
    (htrial : scheduledTrial header active.trialId = .ok trial) {attempt : ProviderAttemptRecord}
    (hattempt : attempt.RecordOf trial active.claim provider)
    (hadmitted : ∀ condition ∈ attempt.failureCondition,
      condition ∈ header.campaign.retryPolicy.retryConditions) (eventId : UUID) (sequence : Nat) :
    ∃ state', applyCampaignEvent header state
      { eventId, sequence, payload := .providerAttemptSettled { reservationId := k, attempt } } =
        .ok state' := by
  have howner := owner_of_reservation h hactive
  obtain ⟨settled, hsettle⟩ := settle_isOk howner k attempt.chargedResources
  have howner' : active.trialId ∈ settled.ledgers :=
    ((settle_effect hsettle).2.trials active.trialId).mpr howner
  obtain ⟨ledger, hledger⟩ := Dict.mem_iff.mp howner'
  simp only [applyCampaignEvent, applyProviderSettlement, reservation, bind_eq_ok, orRaise_eq_ok,
    raiseIf_eq_ok, exists_const, pure_eq_ok]
  refine ⟨_, active, hactive, provider, hprovider, by simp [hdispatched], trial, htrial, ?_, ?_,
    settled, hsettle, ledger, hledger, rfl⟩
  · simp [hattempt.requestKey, hattempt.attemptNumber, hattempt.requestedModel,
      hattempt.requestedServiceTier, hattempt.inputTokens, hattempt.outputTokens, hattempt.floor,
      hattempt.securityBinding]
  · rintro ⟨condition, hcondition, hnot⟩
    exact hnot (hadmitted condition hcondition)

/-! ### The reservation of a call -/

def DispatchedIn (reservationId : Identifier) (events : List CampaignEvent) : Prop :=
  ∃ event ∈ events, event.payload = .reservationDispatched { reservationId }

/-- What a call leaves behind: the reservation is no longer active. It was cancelled if nothing was
dispatched, and settled otherwise, as completed exactly when the response was accepted. -/
structure ClosesReservation (header : CampaignHeader) (reservationId : Identifier) (accepted : Prop)
    (committed new : List CampaignEvent) : Prop where
  idle : ∃ state, replayCampaign header (committed ++ new) = .ok state ∧
    reservationId ∉ state.reservations
  cancelled : ¬ DispatchedIn reservationId new →
    ∃ event ∈ new, event.payload = .reservationCancelled { reservationId }
  settled : DispatchedIn reservationId new →
    ∃ event ∈ new, ∃ attempt, event.payload = .providerAttemptSettled { reservationId, attempt } ∧
      (attempt.disposition = .completed ↔ accepted)

lemma commitCampaignEvent_concat {eventId : UUID} {payload : CampaignEventPayload}
    {campaign : List CampaignEvent}
    (h : commitCampaignEvent header committed eventId payload = .ok campaign) :
    campaign = committed ++ [{ eventId, sequence := committed.length, payload }] := by
  simp only [commitCampaignEvent, bind_eq_ok] at h
  obtain ⟨_, -, _, -, htransact⟩ := h
  exact (transactCampaign_eq_ok htransact).1

namespace ProviderCall

variable {call : ProviderCall} {reservation : CampaignReservation} {used : Nat} {dispatched : Bool}
  {journal : List CampaignEvent}

/-- The commits of other work during the call. -/
def others (call : ProviderCall) : List CampaignEvent :=
  (call.beforeDispatch ++ call.afterDispatch).flatten

/-- The reservation is active in a journal that the call and other work have extended, and the call
has used its first event identifiers. -/
structure Holds (header : CampaignHeader) (call : ProviderCall) (committed : List CampaignEvent)
    (reservation : CampaignReservation) (used : Nat) (dispatched : Bool)
    (journal : List CampaignEvent) : Prop where
  reservationId : reservation.reservationId = call.reservationId
  output : 1 ≤ reservation.claim.outputTokens
  active : ∃ state, replayCampaign header journal = .ok state ∧
    state.reservations.get? call.reservationId = some {
      trialId := reservation.trialId, claim := reservation.claim
      provider := some reservation.provider, dispatched }
  grown : ∃ new, journal = committed ++ new ∧
    (DispatchedIn call.reservationId new ↔ dispatched = true)
  ids : ∀ event ∈ journal, event.eventId ∈ (committed ++ call.others).map CampaignEvent.eventId ∨
    ∃ i < used, event.eventId = call.eventIds i

lemma Holds.fresh (h : Holds header call committed reservation used dispatched journal)
    (hids : FreshIds call.eventIds (committed ++ call.others)) {n : Nat} (hn : used ≤ n) :
    call.eventIds n ∉ journal.map CampaignEvent.eventId := by
  intro hmem
  obtain ⟨event, hevent, heq⟩ := List.mem_map.mp hmem
  rcases h.ids event hevent with hknown | ⟨i, hi, hused⟩
  · exact hids.fresh n (heq ▸ hknown)
  · have hin : i = n := hids.injective (hused.symm.trans heq)
    omega

lemma holds_of_admission
    (h : (call.admission header).exec committed = (.ok reservation, journal)) :
    Holds header call committed reservation 1 false journal := by
  rw [admission, Process.exec_bind_eq_ok] at h
  obtain ⟨_, _, hguards, h⟩ := h
  obtain ⟨-, rfl⟩ := Prod.mk.injEq .. ▸ hguards
  rw [Process.exec_bind_eq_ok] at h
  obtain ⟨outcome, m, hreserve, h⟩ := h
  cases outcome with
  | error rejection => cases h
  | ok reservation' =>
    obtain ⟨hresult, rfl⟩ : Except.ok reservation' = Except.ok reservation ∧ m = journal :=
      Prod.mk.inj h
    obtain rfl := Except.ok.inj hresult
    rw [Process.exec_transact_eq_ok, reserve] at hreserve
    split at hreserve
    next journal' outcome' hok =>
      obtain ⟨rfl, rfl⟩ := Prod.mk.inj (Except.ok.inj hreserve)
      obtain ⟨_, hresult, hid, htrial, -, houtput, hcommit⟩ :=
        (reserveProviderAttempt_eq_ok hok).resolve_left fun ⟨_, _, hrejected, _⟩ =>
          nomatch hrejected
      obtain rfl := Except.ok.inj hresult
      rw [← htrial] at hcommit
      obtain ⟨state, state', -, hstate', heffect⟩ := commitCampaignEvent_eq_ok hcommit
      obtain rfl := commitCampaignEvent_concat hcommit
      refine ⟨hid, houtput, ⟨state', hstate', ?_⟩, ⟨_, rfl, ?_⟩, ?_⟩
      · cases heffect with
        | created payload ledger hfresh hledger hprovider hreservations hattempts =>
          rw [hreservations, Dict.get?_insert_self]
      · simp [DispatchedIn]
      · intro event hevent
        rcases List.mem_append.mp hevent with hold | hnew
        · exact Or.inl (List.mem_map_of_mem (List.mem_append_left _ hold))
        · rw [List.mem_singleton.mp hnew]
          exact Or.inr ⟨0, Nat.one_pos, rfl⟩
    next => cases hreserve

/-- Other work leaves the reservation alone. -/
lemma Holds.otherCommit (h : Holds header call committed reservation used dispatched journal)
    {events : List CampaignEvent} (hevents : ∀ event ∈ events, event ∈ call.others) :
    Holds header call committed reservation used dispatched
      (call.otherCommit header journal events) := by
  unfold ProviderCall.otherCommit
  split
  next journal' htransact =>
    split_ifs with habout
    · exact h
    · obtain ⟨rfl, state', hstate'⟩ := transactCampaign_eq_ok htransact
      obtain ⟨state, hstate, hactive⟩ := h.active
      obtain ⟨new, hnew, hdispatched⟩ := h.grown
      obtain ⟨m, hm, hrun⟩ := foldSteps_append_eq_ok.mp hstate'
      obtain rfl : state = m := Except.ok.inj (hstate.symm.trans hm)
      have hother : ∀ event ∈ events, event.payload.reservationId? ≠ some call.reservationId :=
        fun event hevent heq => habout ⟨event, hevent, heq⟩
      refine ⟨h.reservationId, h.output, ⟨state', hstate', ?_⟩, ⟨new ++ events, ?_, ?_⟩, ?_⟩
      · rw [reservation_of_others hrun hother, hactive]
      · rw [hnew, List.append_assoc]
      · rw [← hdispatched]
        constructor
        · rintro ⟨event, hevent, hpayload⟩
          rcases List.mem_append.mp hevent with hold | hlate
          · exact ⟨event, hold, hpayload⟩
          · exact absurd (congrArg CampaignEventPayload.reservationId? hpayload)
              (hother event hlate)
        · rintro ⟨event, hevent, hpayload⟩
          exact ⟨event, List.mem_append_left _ hevent, hpayload⟩
      · intro event hevent
        rcases List.mem_append.mp hevent with hold | hlate
        · exact h.ids event hold
        · exact Or.inl (List.mem_map_of_mem (List.mem_append_right _ (hevents event hlate)))
  next => exact h

lemma Holds.meanwhile (h : Holds header call committed reservation used dispatched journal)
    {batches : List (List CampaignEvent)}
    (hbatches : ∀ events ∈ batches, ∀ event ∈ events, event ∈ call.others) :
    Holds header call committed reservation used dispatched
      (batches.foldl (call.otherCommit header) journal) := by
  induction batches generalizing journal with
  | nil => exact h
  | cons events batches ih =>
    rw [List.forall_mem_cons] at hbatches
    exact ih (h.otherCommit hbatches.1) hbatches.2

/-! ### Its transactions -/

/-- The commit of an event that closes the reservation. -/
lemma Holds.commitClosing (h : Holds header call committed reservation used dispatched journal)
    (hids : FreshIds call.eventIds (committed ++ call.others)) {n : Nat} (hn : used ≤ n)
    {event : CampaignEvent} (hevent : event.eventId = call.eventIds n)
    (hsequence : event.sequence = journal.length)
    (hcloses : event.closesReservation = some call.reservationId)
    (happly : ∃ state state', replayCampaign header journal = .ok state ∧
      applyCampaignEvent header state event = .ok state') :
    ∃ new, commitCampaignEvent header journal (call.eventIds n) event.payload =
        .ok (committed ++ (new ++ [event])) ∧
      (DispatchedIn call.reservationId (new ++ [event]) ↔ dispatched = true) ∧
      ∃ state', replayCampaign header (committed ++ (new ++ [event])) = .ok state' ∧
        call.reservationId ∉ state'.reservations := by
  obtain ⟨eventId, sequence, payload⟩ := event
  obtain rfl : eventId = call.eventIds n := hevent
  obtain rfl : sequence = journal.length := hsequence
  obtain ⟨state, state', hstate, happly⟩ := happly
  obtain ⟨new, rfl, hdispatched⟩ := h.grown
  have hcommit := commitCampaignEvent_of_apply hstate happly (h.fresh hids hn)
  rw [List.append_assoc] at hcommit
  refine ⟨new, hcommit, ?_, state', ?_, ?_⟩
  · rw [← hdispatched]
    constructor
    · rintro ⟨event, hevent, hpayload⟩
      rcases List.mem_append.mp hevent with hold | hlast
      · exact ⟨event, hold, hpayload⟩
      · obtain rfl := List.mem_singleton.mp hlast
        rw [CampaignEvent.closesReservation, hpayload] at hcloses
        cases hcloses
    · rintro ⟨event, hevent, hpayload⟩
      exact ⟨event, List.mem_append_left _ hevent, hpayload⟩
  · rw [← List.append_assoc]
    exact foldSteps_concat_eq_ok.mpr ⟨state, hstate, happly⟩
  · rw [reservations_of_closes happly hcloses]
    simp [Dict.mem_erase]

/-- Cancelling closes a reservation that was not dispatched. -/
lemma Holds.cancel (h : Holds header call committed reservation 1 false journal)
    (hids : FreshIds call.eventIds (committed ++ call.others)) (accepted : Prop) :
    ∃ new, EdaGym.cancel header reservation (call.eventIds 1) journal = .ok (committed ++ new) ∧
      ClosesReservation header call.reservationId accepted committed new := by
  obtain ⟨state, hstate, hactive⟩ := h.active
  have hclosing : closingPayload header call.reservationId {
      trialId := reservation.trialId, claim := reservation.claim
      provider := some reservation.provider } =
        .ok (.reservationCancelled { reservationId := call.reservationId }) := rfl
  obtain ⟨state', happly⟩ := applyCampaignEvent_closing hstate hactive hclosing
    (call.eventIds 1) journal.length
  obtain ⟨new, hcommit, hdispatched, hidle⟩ :=
    h.commitClosing hids le_rfl rfl rfl rfl ⟨state, state', hstate, happly⟩
  refine ⟨_, ?_, hidle, ?_, ?_⟩
  · rw [EdaGym.cancel, h.reservationId, hcommit]
  · intro _
    exact ⟨_, List.mem_append_right _ (List.mem_singleton_self _), rfl⟩
  · intro hin
    exact absurd (hdispatched.mp hin) Bool.false_ne_true

lemma Holds.markDispatched (h : Holds header call committed reservation 1 false journal)
    (hids : FreshIds call.eventIds (committed ++ call.others)) :
    ∃ journal', EdaGym.markDispatched header reservation (call.eventIds 1) journal = .ok journal' ∧
      Holds header call committed reservation 2 true journal' := by
  obtain ⟨state, hstate, hactive⟩ := h.active
  obtain ⟨new, rfl, hdispatched⟩ := h.grown
  obtain ⟨state', happly⟩ : ∃ state', applyCampaignEvent header state
      { eventId := call.eventIds 1, sequence := (committed ++ new).length
        payload := .reservationDispatched { reservationId := call.reservationId } } =
          .ok state' := by
    simp [applyCampaignEvent, applyReservationDispatched, EdaGym.reservation, hactive, orRaise,
      raiseIf, bind, Except.bind, pure, Except.pure]
  have hcommit := commitCampaignEvent_of_apply hstate happly (h.fresh hids le_rfl)
  refine ⟨_, ?_, h.reservationId, h.output, ⟨state',
    foldSteps_concat_eq_ok.mpr ⟨state, hstate, happly⟩, ?_⟩,
    ⟨_, List.append_assoc _ _ _, ?_⟩, ?_⟩
  · rw [EdaGym.markDispatched, h.reservationId, hcommit]
  · have heffect := ReservationEffect.of_apply happly
    cases heffect with
    | dispatched payload active hbefore hdispatched hreservations hattempts =>
      rw [hreservations, Dict.get?_insert_self]
      rw [hactive] at hbefore
      obtain rfl := Option.some.inj hbefore
      rfl
  · refine ⟨fun _ => rfl, fun _ => ?_⟩
    exact ⟨_, List.mem_append_right _ (List.mem_singleton_self _), rfl⟩
  · intro event hevent
    rcases List.mem_append.mp hevent with hold | hlast
    · rcases h.ids event hold with hknown | ⟨i, hi, hused⟩
      · exact Or.inl hknown
      · exact Or.inr ⟨i, Nat.lt_succ_of_lt hi, hused⟩
    · rw [List.mem_singleton.mp hlast]
      exact Or.inr ⟨1, Nat.one_lt_two, rfl⟩

variable {accepted : Prop}

/-- A settlement that passes the checks of the runner and of the event models is committed. -/
lemma Holds.settleProvider (h : Holds header call committed reservation 2 true journal)
    (hids : FreshIds call.eventIds (committed ++ call.others))
    (disposition : AttemptDisposition) (facts : ResponseFacts)
    (failureCondition : Option RetryCondition) {usage : Option ProviderUsage}
    (hlabel : ∀ label ∈ facts.model, IsModelLabel label)
    (hretry : disposition = .retryableFailure ↔ failureCondition.isSome)
    (hadmitted : ∀ condition ∈ failureCondition,
      condition ∈ header.campaign.retryPolicy.retryConditions)
    (hcompleted : disposition = .completed → facts.model.isSome ∧ facts.status.isSome)
    (hfailed : disposition ≠ .completed →
      facts.model = none ∧ facts.serviceTier = none ∧ facts.status = none ∧ usage = none)
    (hsafe : ∀ counters ∈ usage, counters.totalTokens ≤ JCS_INTEGER_MAX)
    (haccepted : disposition = .completed ↔ accepted) :
    ∃ new, EdaGym.settleProvider header reservation disposition usage facts failureCondition
        (call.eventIds 2) journal = .ok (committed ++ new) ∧
      ClosesReservation header call.reservationId accepted committed new := by
  obtain ⟨state, hstate, hactive⟩ := h.active
  have hsound := replayCampaign_sound hstate hactive
  obtain ⟨trial, htrial⟩ := hsound.scheduled rfl
  have hscheduled : scheduledTrial header reservation.trialId = .ok trial :=
    orRaise_eq_ok.mpr htrial
  obtain ⟨counters, hcounters⟩ :
      ∃ counters, usage.mapM UsageCounters.fromProviderUsage = .ok counters := by
    cases usage with
    | none => exact ⟨none, rfl⟩
    | some counters =>
      have hbound := hsafe counters rfl
      simp [UsageCounters.fromProviderUsage, hbound, Option.mapM, Functor.map, Except.map]
  obtain ⟨attempt, hattempt, hrecord, rfl, rfl⟩ := exists_attemptRecord trial counters
    h.output (hsound.floor _ rfl) hretry hcompleted
    fun hnot => ⟨(hfailed hnot).1, (hfailed hnot).2.2.1, (hfailed hnot).2.1⟩
  obtain ⟨state', happly⟩ := exists_apply_settlement hstate hactive rfl rfl hscheduled hrecord
    hadmitted (call.eventIds 2) journal.length
  obtain ⟨new, hcommit, hdispatched, hidle⟩ :=
    h.commitClosing hids le_rfl rfl rfl rfl ⟨state, state', hstate, happly⟩
  refine ⟨_, ?_, hidle, ?_, ?_⟩
  · simp only [EdaGym.settleProvider, bind_eq_ok, raiseIf_eq_ok, exists_const]
    refine ⟨?_, ?_, ?_, ?_, ?_, counters, hcounters, trial, hscheduled, attempt, hattempt, ?_⟩
    · rintro ⟨label, hmem, hnot⟩
      exact hnot (hlabel label hmem)
    · exact fun hnot => hnot hretry
    · rintro ⟨condition, hmem, hnot⟩
      exact hnot (hadmitted condition hmem)
    · rintro ⟨hdone, hmissing⟩
      obtain ⟨hmodel, hstatus⟩ := hcompleted hdone
      rcases hmissing with hnone | hnone
      · simp [hnone] at hmodel
      · simp [hnone] at hstatus
    · rintro ⟨hnot, hpresent⟩
      obtain ⟨hmodel, htier, hstatus, husage⟩ := hfailed hnot
      simp [hmodel, htier, hstatus, husage] at hpresent
    · rw [h.reservationId, hcommit]
  · intro hnot
    exact absurd (hdispatched.mpr rfl) hnot
  · intro _
    exact ⟨_, List.mem_append_right _ (List.mem_singleton_self _), attempt, rfl, haccepted⟩

lemma Holds.settleFailed (h : Holds header call committed reservation 2 true journal)
    (hids : FreshIds call.eventIds (committed ++ call.others))
    (hrefused : ¬ accepted) (condition : Option RetryCondition) :
    ∃ new, EdaGym.settleFailed header reservation condition (call.eventIds 2) journal =
        .ok (committed ++ new) ∧
      ClosesReservation header call.reservationId accepted committed new := by
  unfold EdaGym.settleFailed
  refine h.settleProvider hids _ {} _ (by simp) ?_ ?_ ?_ ?_ (by simp) ?_
  · split_ifs with hadmitted
    · simp [hadmitted]
    · simp [hadmitted]
  · intro condition hcondition
    rw [Option.mem_def, Option.filter_eq_some_iff] at hcondition
    exact of_decide_eq_true hcondition.2
  · split_ifs <;> simp
  · exact fun _ => ⟨rfl, rfl, rfl, rfl⟩
  · split_ifs
    · simp [hrefused]
    · simp [hrefused]

/-- A result fits the event models. -/
structure Settles (result : DecodedResult) : Prop where
  model : ∃ label ∈ result.reportedModel.toString?, IsModelLabel label
  serviceTier : ∀ tier ∈ result.reportedServiceTier, IsServiceTierLabel tier
  usage : ∀ usage ∈ result.usage, usage.totalTokens ≤ JCS_INTEGER_MAX

variable {result : DecodedResult}

lemma Holds.settleDecoded (h : Holds header call committed reservation 2 true journal)
    (hids : FreshIds call.eventIds (committed ++ call.others))
    (haccepted : accepted) (hsettles : Settles result) :
    ∃ new, EdaGym.settleDecoded header reservation result (call.eventIds 2) journal =
        .ok (committed ++ new) ∧
      ClosesReservation header call.reservationId accepted committed new := by
  obtain ⟨⟨label, hlabel, hmodel⟩, htier, hsafe⟩ := hsettles
  obtain ⟨new, hsettle, hcloses⟩ := h.settleProvider hids .completed
    { model := some label, serviceTier := result.reportedServiceTier, status := some result.status }
    none (by simpa using hmodel) (iff_of_false (by simp) (by simp)) (by simp) (by simp)
    (by simp) hsafe
    (iff_of_true rfl haccepted)
  refine ⟨new, ?_, hcloses⟩
  simp only [EdaGym.settleDecoded, bind_eq_ok, raiseIf_eq_ok, orRaise_eq_ok, exists_const]
  refine ⟨label, hlabel, ?_, hsettle⟩
  rintro ⟨tier, hmem, hnot⟩
  exact hnot (htier tier hmem)

omit [CampaignCanonical] in
lemma settles_of_settleDecoded [CampaignCanonical] {eventId : UUID}
    {journal' : List CampaignEvent}
    (h : EdaGym.settleDecoded header reservation result eventId journal = .ok journal') :
    Settles result := by
  simp only [EdaGym.settleDecoded, bind_eq_ok, raiseIf_eq_ok, orRaise_eq_ok, exists_const] at h
  obtain ⟨label, hlabel, htier, hsettle⟩ := h
  obtain ⟨hmodel, counters, attempt, hcounters, -⟩ := settleProvider_eq_ok hsettle
  refine ⟨⟨label, hlabel, hmodel label rfl⟩, ?_, ?_⟩
  · intro tier hmem
    by_contra hnot
    exact htier ⟨tier, hmem, hnot⟩
  · intro usage husage
    rw [Option.mem_def.mp husage] at hcounters
    by_contra hbound
    simp [UsageCounters.fromProviderUsage, hbound, Option.mapM, Functor.map, Except.map]
      at hcounters

/-! ### Whole calls -/

omit [CampaignCanonical] in
lemma exec_commit_ok {f : Journal → Except CampaignError Journal} {journal journal' : Journal}
    (h : f journal = .ok journal') : (commit f).exec journal = (.ok ⟨⟩, journal') := by
  refine Process.exec_transact_ok ?_
  rw [h]

omit [CampaignCanonical] in
/-- A refused transaction leaves the journal as it is. -/
lemma exec_commit_error {f : Journal → Except CampaignError Journal} {journal : Journal}
    {error : CampaignError} (h : f journal = .error error) :
    (commit f).exec journal = (.error (.campaign error), journal) := by
  refine Process.exec_transact_error ?_
  rw [h]

variable [TextRuntime]

/-- An accepted response names a model label and counts a safe number of tokens; where nothing was
dispatched or the response was refused, nothing is asked for. -/
def Settleable (call : ProviderCall) : Prop :=
  call.prepared.isOk = true → call.answer.isOk = true → ∀ raw document, call.exchange = .ok raw →
    TextRuntime.loads raw.body = .ok document → document.NamesModel ∧ document.CountsSafely

omit [CampaignCanonical] in
lemma answer_eq_ok (h : call.answer = .ok result) :
    ∃ raw document, call.exchange = .ok raw ∧ TextRuntime.loads raw.body = .ok document ∧
      decodeDocument document = .ok result := by
  simp only [answer, bind_eq_ok, raiseIf_eq_ok, exists_const, pure_eq_ok] at h
  obtain ⟨raw, hraw, -, -, result', hdecode, -, -, rfl⟩ := h
  unfold decodeResult at hdecode
  split at hdecode
  · cases hdecode
  · cases hdecode
  next document hdocument => exact ⟨raw, document, hraw, hdocument, hdecode⟩

omit [Canonical] [CampaignCanonical] in
lemma settles_iff {document : Json}
    (h : decodeDocument document = .ok result) :
    Settles result ↔ document.NamesModel ∧ document.CountsSafely := by
  obtain ⟨hmodel, htier, htotal⟩ := decodeDocument_eq_ok h
  unfold Json.NamesModel Json.CountsSafely
  rw [hmodel, htotal, Option.bind_some]
  constructor
  · rintro ⟨hlabel, -, hsafe⟩
    refine ⟨hlabel, ?_⟩
    intro n hn
    obtain ⟨usage, husage, rfl⟩ := Option.map_eq_some_iff.mp hn
    exact hsafe usage husage
  · rintro ⟨hlabel, hsafe⟩
    exact ⟨hlabel, htier, fun usage husage => hsafe _ (Option.mem_map_of_mem _ husage)⟩

omit [CampaignCanonical] in
lemma settleable_iff : call.Settleable ↔
    (call.prepared.isOk = true → ∀ result, call.answer = .ok result → Settles result) := by
  constructor
  · intro h hprepared result hanswer
    obtain ⟨raw, document, hraw, hdocument, hdecode⟩ := answer_eq_ok hanswer
    refine (settles_iff hdecode).mpr (h hprepared ?_ raw document hraw hdocument)
    rw [hanswer]
    rfl
  · intro h hprepared hok raw document hraw hdocument
    obtain ⟨result, hanswer⟩ := Except.exists_of_isOk hok
    obtain ⟨raw', document', hraw', hdocument', hdecode⟩ := answer_eq_ok hanswer
    obtain rfl := Except.ok.inj (hraw.symm.trans hraw')
    obtain rfl := Except.ok.inj (hdocument.symm.trans hdocument')
    exact (settles_iff hdecode).mp (h hprepared result hanswer)

/-- The journal after the call, from a journal in which it has made its reservation. -/
def after (header : CampaignHeader) (call : ProviderCall) (reservation : CampaignReservation)
    (journal : Journal) : Journal :=
  ((call.dispatch header reservation).exec journal).2

omit [TextRuntime] in
lemma exec_meanwhile (batches : List (List CampaignEvent)) (journal : Journal) :
    (call.meanwhile header batches).exec journal =
      (.ok ⟨⟩, batches.foldl (call.otherCommit header) journal) := rfl

/-- When the preparation raises nothing is dispatched. -/
lemma Holds.unprepared (h : Holds header call committed reservation 1 false journal)
    (hids : FreshIds call.eventIds (committed ++ call.others)) {error : RequestError}
    (hprepared : call.prepared = .error error) (accepted : Prop) :
    ∃ new, call.after header reservation journal = committed ++ new ∧
      ClosesReservation header call.reservationId accepted committed new := by
  have hwait := h.meanwhile fun events hevents event hevent => List.mem_flatten.mpr
    ⟨events, List.mem_append_left call.afterDispatch hevents, hevent⟩
  obtain ⟨new, hcancel, hcloses⟩ := hwait.cancel hids accepted
  refine ⟨new, ?_, hcloses⟩
  rw [after, dispatch, Process.exec_bind_ok (exec_meanwhile _ _), hprepared]
  obtain ⟨e, hrun⟩ : ∃ e, ((Process.ofExcept (.error error)).onRaise fun _ =>
      commit (EdaGym.cancel header reservation (call.eventIds 1))).exec
        (call.beforeDispatch.foldl (call.otherCommit header) journal) =
          ((.error e : Except RequestError Unit), committed ++ new) :=
    Process.exec_onRaise_error (Process.exec_ofExcept _ _) (exec_commit_ok hcancel)
  rw [Process.exec_bind_error hrun]

/-- A prepared call dispatches its request and goes on to the exchange. -/
lemma Holds.prepared (h : Holds header call committed reservation 1 false journal)
    (hids : FreshIds call.eventIds (committed ++ call.others))
    (hprepared : call.prepared = .ok ⟨⟩) :
    ∃ journal', Holds header call committed reservation 2 true journal' ∧
      call.after header reservation journal =
        ((call.conclude header reservation).exec journal').2 := by
  have hwait := h.meanwhile fun events hevents event hevent => List.mem_flatten.mpr
    ⟨events, List.mem_append_left call.afterDispatch hevents, hevent⟩
  obtain ⟨journal', hmark, hmarked⟩ := hwait.markDispatched hids
  refine ⟨_, hmarked.meanwhile fun events hevents event hevent => List.mem_flatten.mpr
    ⟨events, List.mem_append_right call.beforeDispatch hevents, hevent⟩, ?_⟩
  rw [after, dispatch, Process.exec_bind_ok (exec_meanwhile _ _), hprepared,
    Process.exec_bind_ok (Process.exec_onRaise_ok (Process.exec_ofExcept _ _)),
    Process.exec_bind_ok (exec_commit_ok hmark), Process.exec_bind_ok (exec_meanwhile _ _)]

lemma Holds.refused (h : Holds header call committed reservation 2 true journal)
    (hids : FreshIds call.eventIds (committed ++ call.others)) {error : RequestError}
    (hanswer : call.answer = .error error) (haccepted : ¬ accepted) :
    ∃ new, ((call.conclude header reservation).exec journal).2 = committed ++ new ∧
      ClosesReservation header call.reservationId accepted committed new := by
  obtain ⟨new, hsettle, hcloses⟩ :=
    h.settleFailed hids haccepted (retryCondition error.exchange)
  refine ⟨new, ?_, hcloses⟩
  rw [conclude, hanswer]
  obtain ⟨e, hrun⟩ : ∃ e, ((Process.ofExcept (.error error)).onRaise fun error =>
      commit (EdaGym.settleFailed header reservation (retryCondition error.exchange)
        (call.eventIds 2))).exec journal =
          ((.error e : Except RequestError DecodedResult), committed ++ new) :=
    Process.exec_onRaise_error (Process.exec_ofExcept _ _) (exec_commit_ok hsettle)
  rw [Process.exec_bind_error hrun]

/-- After an accepted response the observer makes no difference to the settlement. -/
lemma conclude_answered (hanswer : call.answer = .ok result) :
    ((call.conclude header reservation).exec journal).2 =
      ((commit (EdaGym.settleDecoded header reservation result (call.eventIds 2))).exec
        journal).2 := by
  rw [conclude, hanswer,
    Process.exec_bind_ok (Process.exec_onRaise_ok (Process.exec_ofExcept _ _))]
  obtain ⟨x, journal', hsettle⟩ : ∃ x journal',
      (commit (EdaGym.settleDecoded header reservation result (call.eventIds 2))).exec journal =
        (x, journal') := ⟨_, _, rfl⟩
  cases hrecorded : call.recorded with
  | error error =>
    obtain ⟨e, hrun⟩ : ∃ e, ((Process.ofExcept (.error error)).onRaise fun _ =>
        commit (EdaGym.settleDecoded header reservation result (call.eventIds 2))).exec journal =
          ((.error e : Except RequestError Unit), journal') :=
      Process.exec_onRaise_error (Process.exec_ofExcept _ _) hsettle
    rw [Process.exec_bind_error hrun, hsettle]
  | ok u =>
    rw [Process.exec_bind_ok (Process.exec_onRaise_ok (Process.exec_ofExcept _ _))]
    cases x with
    | error e => rw [Process.exec_bind_error hsettle, hsettle]
    | ok u => rw [Process.exec_bind_ok hsettle, Process.exec_pure, hsettle]

lemma Holds.answered (h : Holds header call committed reservation 2 true journal)
    (hids : FreshIds call.eventIds (committed ++ call.others))
    (hanswer : call.answer = .ok result) (haccepted : accepted) :
    (∃ new, ((call.conclude header reservation).exec journal).2 = committed ++ new ∧
      ClosesReservation header call.reservationId accepted committed new) ↔ Settles result := by
  rw [conclude_answered hanswer]
  constructor
  · rintro ⟨new, hnew, hcloses⟩
    cases hsettle : EdaGym.settleDecoded header reservation result (call.eventIds 2) journal with
    | ok journal' => exact settles_of_settleDecoded hsettle
    | error e =>
      -- the refused settlement leaves the reservation active
      rw [exec_commit_error hsettle] at hnew
      obtain rfl : journal = committed ++ new := hnew
      obtain ⟨state, hstate, hactive⟩ := h.active
      obtain ⟨state', hstate', hidle⟩ := hcloses.idle
      obtain rfl := Except.ok.inj (hstate.symm.trans hstate')
      exact absurd (Dict.mem_of_get? hactive) hidle
  · intro hsettles
    obtain ⟨new, hsettle, hcloses⟩ := h.settleDecoded hids haccepted hsettles
    refine ⟨new, ?_, hcloses⟩
    rw [exec_commit_ok hsettle]

lemma closes_iff_settleable (header : CampaignHeader) (call : ProviderCall)
    (committed : List CampaignEvent)
    (admitted : ((call.admission header).exec committed).1.isOk = true)
    (ids : FreshIds call.eventIds (committed ++ call.others)) :
    (∃ new, ((call.request header).exec committed).2 = committed ++ new ∧
      ClosesReservation header call.reservationId (call.answer.isOk = true) committed new) ↔
        call.Settleable := by
  obtain ⟨reservation, hreservation⟩ := Except.exists_of_isOk admitted
  have hadmission : (call.admission header).exec committed =
      (.ok reservation, ((call.admission header).exec committed).2) := Prod.ext hreservation rfl
  have hholds := holds_of_admission hadmission
  rw [request, Process.exec_bind_ok hadmission, settleable_iff]
  cases hprepared : call.prepared with
  | error error =>
    refine iff_of_true (hholds.unprepared ids hprepared _) ?_
    exact fun hok => absurd hok Bool.false_ne_true
  | ok u =>
    obtain ⟨journal, hdispatched, hafter⟩ := hholds.prepared ids hprepared
    rw [after] at hafter
    rw [hafter]
    cases hanswer : call.answer with
    | error error =>
      refine iff_of_true (hdispatched.refused ids hanswer Bool.false_ne_true) ?_
      rintro - result hresult
      cases hresult
    | ok result =>
      have haccepted : (Except.ok result : Except RequestError DecodedResult).isOk = true := rfl
      rw [hdispatched.answered ids hanswer haccepted]
      constructor
      · rintro hsettles - result' hresult
        obtain rfl := Except.ok.inj hresult
        exact hsettles
      · exact fun hsettles => hsettles rfl result rfl

end ProviderCall

/-- For every transport and observer outcome, and whatever other work of the campaign commits
meanwhile, an admitted call closes its reservation if and only if it can settle the response it
accepts. A decoded result fits the event models if and only if its document names a model label and
counts a safe number of tokens. -/
theorem provider_outcome_closes_iff [TextRuntime] (header : CampaignHeader) (call : ProviderCall)
    (committed : List CampaignEvent)
    (admitted : ((call.admission header).exec committed).1.isOk = true)
    (ids : FreshIds call.eventIds (committed ++ call.others)) :
    ((∃ new, ((call.request header).exec committed).2 = committed ++ new ∧
      ClosesReservation header call.reservationId (call.answer.isOk = true) committed new) ↔
        call.Settleable) ∧
    ∀ raw document result, TextRuntime.loads raw = .ok document → decodeResult raw = .ok result →
      (ProviderCall.Settles result ↔ document.NamesModel ∧ document.CountsSafely) := by
  refine ⟨call.closes_iff_settleable header committed admitted ids, ?_⟩
  intro raw document result hdocument hresult
  rw [decodeResult, hdocument] at hresult
  exact ProviderCall.settles_iff hresult

end Calls

/-! ### A response that names no model -/

section BlankModel

local instance blankCanonical : Canonical := plainCanonical
local instance blankCampaignCanonical : CampaignCanonical := plainCampaignCanonical

def bytesOf (text : String) : List UInt8 := text.toList.map fun c => UInt8.ofNat c.toNat

def completedDocument (model : String) (counters : List (PyStr × Json)) : Json :=
  .obj [
    (.ofString "id", .str (.ofString "x")), (.ofString "model", .str (.ofString model)),
    (.ofString "status", .str (.ofString "completed")), (.ofString "output", .arr []),
    (.ofString "usage", .obj counters)]

def smallCounters : List (PyStr × Json) :=
  [(.ofString "input_tokens", .int 40), (.ofString "output_tokens", .int 20),
   (.ofString "total_tokens", .int 60)]

def responseText (model : String) : String :=
  "\x7b\"id\":\"x\",\"model\":\"" ++ model ++ "\",\"status\":\"completed\",\"output\":[]," ++
    "\"usage\":\x7b\"input_tokens\":40,\"output_tokens\":20,\"total_tokens\":60\x7d\x7d"

/-- The decoder on the two responses below; their header is in lower case. -/
local instance twoResponses : TextRuntime where
  loads raw :=
    if raw = bytesOf (responseText "") then .ok (completedDocument "" smallCounters)
    else if raw = bytesOf (responseText "m0") then .ok (completedDocument "m0" smallCounters)
    else .error .malformed
  loadsText _ := .error .malformed
  casefold text := text

def jsonResponse (model : String) : RawHttpResponse where
  status := 200
  headers := Dict.ofList [("content-type", "application/json")]
  body := bytesOf (responseText model)

def respondedCall (model : String) : ProviderCall where
  sender := { toResponsesCampaign := trialSender }
  trialId := "trial_0"
  requestKey := "q0"
  responsesRequest := {
    model := "m0", tools := [], toolChoiceRequired := false, tokenClaim := trialClaim
    wireBody := [] }
  observer := none
  authorize := .ok ⟨⟩
  exchange := .ok (jsonResponse model)
  reservationId := "r0"
  eventIds := (0 + ·)

/-- The response is accepted and paid for, its settlement is refused, and the reservation stays
active. -/
theorem blankModel_stays_open :
    (((respondedCall "").admission twoRequestHeader).exec []).1.isOk = true ∧
    FreshIds (respondedCall "").eventIds ([] ++ (respondedCall "").others) ∧
    (respondedCall "").answer.isOk = true ∧
    ¬ ∃ new, (((respondedCall "").request twoRequestHeader).exec []).2 = [] ++ new ∧
      ClosesReservation twoRequestHeader (respondedCall "").reservationId
        ((respondedCall "").answer.isOk = true) [] new := by
  refine ⟨by decide +kernel, freshIds_from 0 (by simp [respondedCall, ProviderCall.others]),
    by decide +kernel, ?_⟩
  have hactive : (replayCampaign twoRequestHeader
      (((respondedCall "").request twoRequestHeader).exec []).2).toOption.map
        (fun state => state.reservations.keys) = some ["r0"] := by
    decide +kernel
  rintro ⟨new, hnew, hcloses⟩
  obtain ⟨state, hstate, hidle⟩ := hcloses.idle
  rw [hnew, hstate] at hactive
  have hkeys : state.reservations.keys = ["r0"] := Option.some.inj hactive
  exact hidle (Dict.mem_keys.mp (hkeys ▸ List.mem_singleton_self _))

/-- The same call with a model in its response. -/
theorem namedModel_closes :
    (∃ new, (((respondedCall "m0").request twoRequestHeader).exec []).2 = [] ++ new ∧
      ClosesReservation twoRequestHeader (respondedCall "m0").reservationId
        ((respondedCall "m0").answer.isOk = true) [] new) ∧
    (completedDocument "m0" smallCounters).NamesModel := by
  have hnames : (completedDocument "m0" smallCounters).NamesModel := by
    refine ⟨"m0", ?_, by decide⟩
    decide
  have hsafe : (completedDocument "m0" smallCounters).CountsSafely := by
    intro n hn
    obtain rfl : 60 = n := Option.some.inj hn
    decide +kernel
  refine ⟨(provider_outcome_closes_iff twoRequestHeader (respondedCall "m0") [] (by decide +kernel)
    (freshIds_from 0 (by simp [respondedCall, ProviderCall.others]))).1.mpr ?_, hnames⟩
  have hother : bytesOf (responseText "m0") ≠ bytesOf (responseText "") := by decide +kernel
  have hloads : TextRuntime.loads (bytesOf (responseText "m0")) =
      .ok (completedDocument "m0" smallCounters) :=
    (if_neg hother).trans (if_pos rfl)
  intro hprepared hanswer raw document hraw hdocument
  obtain rfl : jsonResponse "m0" = raw := Except.ok.inj hraw
  simp only [jsonResponse] at hdocument
  rw [hloads] at hdocument
  obtain rfl := Except.ok.inj hdocument
  exact ⟨hnames, hsafe⟩

end BlankModel

end EdaGym
