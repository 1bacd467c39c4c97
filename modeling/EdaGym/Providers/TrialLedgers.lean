import EdaGym.Providers.PaidDispatch

/-!
# Trial ledgers along a campaign journal

An accepted event changes the ledger of at most one trial: it keeps what a report reads, settles a
reservation of the trial, or ends the trial. From these three cases follows what a report can rely
on: a violation of the campaign is one of a trial, an ended trial is left alone, and the attempts of
a request are numbered from one.
-/

namespace EdaGym

variable [Canonical]

/-- What may happen to the ledger of a trial. -/
inductive LedgerChange (state state' : CampaignProjection) (t : Identifier)
    (ledger ledger' : TrialProjection) : Prop
  | kept (houtcome : ledger'.outcome = ledger.outcome)
      (hcommitted : ledger'.committed = ledger.committed)
      (hattempts : ledger'.attempts = ledger.attempts)
      (hviolation : ledger'.accountingViolation = ledger.accountingViolation)
      (hcampaign : state'.budgetViolation = state.budgetViolation)
  | settled (k : Identifier) (active : ReservationLedger) (violation : Bool)
      (hactive : state.reservations.get? k = some active) (htrial : active.trialId = t)
      (houtcome : ledger'.outcome = ledger.outcome)
      (hviolation : ledger'.accountingViolation = (ledger.accountingViolation || violation))
      (hcampaign : state'.budgetViolation = (state.budgetViolation || violation))
  | ended (outcome : TrialRunOutcome) (hopen : ledger.outcome = none)
      (houtcome : ledger'.outcome = some outcome)
      (hcommitted : ledger'.committed = ledger.committed)
      (hattempts : ledger'.attempts = ledger.attempts)
      (hviolation : ledger'.accountingViolation = ledger.accountingViolation)
      (hcampaign : state'.budgetViolation = state.budgetViolation)
      (hidle : ∀ k active, state.reservations.get? k = some active → active.trialId ≠ t)
      (hzero : outcome.disposition = .notDispatched →
        (∀ item, ledger.committed.get item = 0) ∧ ledger.attempts = [])

/-- What an accepted event does to the ledgers of the trials. -/
inductive TrialEffect (state state' : CampaignProjection) : Prop
  | quiet (hledgers : state'.ledgers = state.ledgers)
      (hcampaign : state'.budgetViolation = state.budgetViolation)
  | changed (t : Identifier) (ledger ledger' : TrialProjection)
      (hledger : state.ledgers.get? t = some ledger)
      (hledgers : ∀ t', state'.ledgers.get? t' =
        if t' = t then some ledger' else state.ledgers.get? t')
      (hchange : LedgerChange state state' t ledger ledger')

variable {header : CampaignHeader} {state state' : CampaignProjection} {event : CampaignEvent}
  {events : List CampaignEvent}

variable {active : ReservationLedger} {k : Identifier}

lemma releaseReservation_trialEffect
    (h : releaseReservation state k active = .ok state') : TrialEffect state state' := by
  simp only [releaseReservation, bind_eq_ok, orRaise_eq_ok, pure_eq_ok] at h
  obtain ⟨ledger, hledger, rfl⟩ := h
  exact .changed active.trialId ledger _ hledger (Dict.get?_insert _ _ · _)
    (.kept rfl rfl rfl rfl rfl)

lemma trialEffect_cancelled {payload : ReservationCancelledPayload}
    (h : applyReservationCancelled state payload = .ok state') : TrialEffect state state' := by
  simp only [applyReservationCancelled, reservation, bind_eq_ok, orRaise_eq_ok, raiseIf_eq_ok,
    exists_const] at h
  obtain ⟨active, -, -, h⟩ := h
  cases hprovider : active.provider with
  | none =>
    rw [hprovider] at h
    exact releaseReservation_trialEffect h
  | some provider =>
    simp only [hprovider, releaseReservation, bind_eq_ok, orRaise_eq_ok, pure_eq_ok,
      Dict.get?_insert_self, Option.some.injEq] at h
    obtain ⟨ledger, hledger, _, rfl, rfl⟩ := h
    exact .changed active.trialId ledger _ hledger (Dict.get?_insert_insert _ _ · _ _)
      (.kept rfl rfl rfl rfl rfl)

lemma settle_trialEffect {actual : CampaignResources}
    (hactive : state.reservations.get? k = some active)
    (h : settle state k active actual = .ok state') : TrialEffect state state' := by
  simp only [settle, bind_eq_ok, orRaise_eq_ok, pure_eq_ok] at h
  obtain ⟨ledger, hledger, rfl⟩ := h
  exact .changed active.trialId ledger _ hledger (Dict.get?_insert _ _ · _)
    (.settled k active _ hactive rfl rfl rfl rfl)

lemma trialEffect_providerSettled {payload : ProviderAttemptSettledPayload}
    (h : applyProviderSettlement header state payload = .ok state') : TrialEffect state state' := by
  simp only [applyProviderSettlement, settle, reservation, bind_eq_ok, orRaise_eq_ok, raiseIf_eq_ok,
    exists_const, pure_eq_ok] at h
  obtain ⟨active, hactive, provider, -, -, trial, -, -, -, settled, ⟨ledger, hledger, rfl⟩, ledger',
    hledger', rfl⟩ := h
  rw [Dict.get?_insert_self, Option.some.injEq] at hledger'
  subst hledger'
  exact .changed active.trialId ledger _ hledger (Dict.get?_insert_insert _ _ · _ _)
    (.settled _ active _ hactive rfl rfl (Bool.or_assoc _ _ _) (Bool.or_assoc _ _ _))

variable {ledger : TrialProjection}

lemma validateNotDispatched_eq_ok {outcome : TrialRunOutcome}
    (h : validateNotDispatched outcome ledger = .ok ⟨⟩)
    (hdisposition : outcome.disposition = .notDispatched) :
    (∀ item, ledger.committed.get item = 0) ∧ ledger.attempts = [] := by
  simp only [validateNotDispatched, hdisposition, if_true, snapshotIsZero, bind_eq_ok,
    raiseIf_eq_ok, exists_const, pure_eq_ok] at h
  obtain ⟨zero, ⟨-, hzero⟩, hclean⟩ := h
  simp only [not_or, Bool.not_eq_false, not_not] at hclean
  rw [hclean.1, decide_eq_true_eq] at hzero
  exact ⟨hzero, hclean.2⟩

lemma trialEffect_outcome {payload : TrialOutcomeRecordedPayload}
    (h : applyTrialOutcome header state payload = .ok state') : TrialEffect state state' := by
  simp only [applyTrialOutcome, bind_eq_ok, orRaise_eq_ok, raiseIf_eq_ok, exists_const, pure_eq_ok,
    Option.not_isSome_iff_eq_none] at h
  obtain ⟨trial, -, ledger, hledger, hopen, hidle, task, -, -, runIds, -, _, hvalid, rfl⟩ := h
  refine .changed payload.trialId ledger _ hledger (Dict.get?_insert _ _ · _)
    (.ended payload.outcome hopen rfl rfl rfl rfl rfl ?_ (validateNotDispatched_eq_ok hvalid))
  intro k active hactive htrial
  exact hidle ⟨active, Dict.mem_values.mpr ⟨k, hactive⟩, htrial⟩

variable {ledger' : TrialProjection} {t : Identifier}

/-- The ledger of a trial is as it was, or has changed. -/
lemma TrialEffect.at (h : TrialEffect state state')
    (hget : state'.ledgers.get? t = some ledger') :
    state.ledgers.get? t = some ledger' ∨
      ∃ ledger, state.ledgers.get? t = some ledger ∧
        LedgerChange state state' t ledger ledger' := by
  cases h with
  | quiet hledgers hcampaign => exact Or.inl (hledgers ▸ hget)
  | changed t₀ ledger ledger₁ hledger hledgers hchange =>
    rw [hledgers] at hget
    split_ifs at hget with ht
    · obtain rfl := Option.some.inj hget
      exact Or.inr ⟨ledger, ht ▸ hledger, ht ▸ hchange⟩
    · exact Or.inl hget

variable [CampaignCanonical]

theorem TrialEffect.of_apply (h : applyCampaignEvent header state event = .ok state') :
    TrialEffect state state' := by
  unfold applyCampaignEvent at h
  cases hp : event.payload with
  | reservationCreated payload =>
    rw [hp] at h
    obtain ⟨-, -, ledger, hledger, -, rfl⟩ := applyReservationCreated_eq_ok h
    exact .changed payload.trialId ledger _ hledger (Dict.get?_insert _ _ · _)
      (.kept rfl rfl rfl rfl rfl)
  | reservationDispatched payload =>
    simp only [hp, applyReservationDispatched, reservation, bind_eq_ok, orRaise_eq_ok,
      raiseIf_eq_ok, exists_const, pure_eq_ok] at h
    obtain ⟨active, -, -, rfl⟩ := h
    exact .quiet rfl rfl
  | reservationCancelled payload =>
    rw [hp] at h
    exact trialEffect_cancelled h
  | workSettled payload =>
    simp only [hp, applyWorkSettled, reservation, bind_eq_ok, orRaise_eq_ok, raiseIf_eq_ok,
      exists_const] at h
    obtain ⟨active, hactive, -, -, -, h⟩ := h
    exact settle_trialEffect hactive h
  | providerAttemptSettled payload =>
    rw [hp] at h
    exact trialEffect_providerSettled h
  | trialOutcomeRecorded payload =>
    rw [hp] at h
    exact trialEffect_outcome h
  | budgetStopped payload =>
    rw [hp] at h
    obtain ⟨_, _, rfl⟩ := applyBudgetStopped_eq_ok h
    exact .quiet rfl rfl

omit [CampaignCanonical] in
lemma initial_ledger
    (h : (CampaignProjection.initial header).ledgers.get? t = some ledger) : ledger = {} := by
  obtain ⟨trial, -, heq⟩ := List.mem_map.mp (Dict.mem_of_get?_ofList h)
  exact (Prod.mk.inj heq).2.symm

/-! ### Violations -/

/-- The campaign is poisoned exactly when one of its trials is. -/
structure ViolationsAgree (state : CampaignProjection) : Prop where
  of_trial : ∀ t ledger, state.ledgers.get? t = some ledger →
    ledger.accountingViolation = true → state.budgetViolation = true
  of_campaign : state.budgetViolation = true →
    ∃ t ledger, state.ledgers.get? t = some ledger ∧ ledger.accountingViolation = true

omit [CampaignCanonical] in
lemma violationsAgree_step (h : ViolationsAgree state) (heffect : TrialEffect state state') :
    ViolationsAgree state' := by
  cases heffect with
  | quiet hledgers hcampaign =>
    constructor
    · rw [hledgers, hcampaign]
      exact h.of_trial
    · rw [hledgers, hcampaign]
      exact h.of_campaign
  | changed t ledger ledger' hledger hledgers hchange =>
    -- the flag of the trial is raised together with that of the campaign
    obtain ⟨v, hviolation, hcampaign⟩ : ∃ v,
        ledger'.accountingViolation = (ledger.accountingViolation || v) ∧
          state'.budgetViolation = (state.budgetViolation || v) := by
      cases hchange with
      | kept _ _ _ hviolation hcampaign => exact ⟨false, by simp [hviolation], by simp [hcampaign]⟩
      | settled _ _ v _ _ _ hviolation hcampaign => exact ⟨v, hviolation, hcampaign⟩
      | ended _ _ _ _ _ hviolation hcampaign =>
        exact ⟨false, by simp [hviolation], by simp [hcampaign]⟩
    constructor
    · intro t' ledger₁ hget hraised
      rw [hledgers] at hget
      rw [hcampaign, Bool.or_eq_true]
      split_ifs at hget with ht
      · obtain rfl := Option.some.inj hget
        rw [hviolation, Bool.or_eq_true] at hraised
        exact hraised.imp_left (h.of_trial t ledger hledger)
      · exact Or.inl (h.of_trial t' ledger₁ hget hraised)
    · intro hraised
      rw [hcampaign, Bool.or_eq_true] at hraised
      rcases hraised with hraised | hv
      · obtain ⟨t', ledger₁, hget, hraised₁⟩ := h.of_campaign hraised
        by_cases ht : t' = t
        · subst ht
          rw [hledger, Option.some.injEq] at hget
          subst hget
          exact ⟨t', ledger', by rw [hledgers, if_pos rfl],
            by rw [hviolation, hraised₁, Bool.true_or]⟩
        · exact ⟨t', ledger₁, by rw [hledgers, if_neg ht, hget], hraised₁⟩
      · exact ⟨t, ledger', by rw [hledgers, if_pos rfl], by rw [hviolation, hv, Bool.or_true]⟩

theorem replayCampaign_violationsAgree (h : replayCampaign header events = .ok state) :
    ViolationsAgree state := by
  refine foldSteps_induction (P := fun _ (state : CampaignProjection) => ViolationsAgree state)
    (fun _ _ _ _ ih hstep => violationsAgree_step ih (TrialEffect.of_apply hstep)) ?_ h
  constructor
  · intro t ledger hget hraised
    rw [initial_ledger hget] at hraised
    cases hraised
  · intro hraised
    cases hraised

/-! ### Ended trials -/

/-- An ended trial has no active reservation; one that was not dispatched has used nothing. -/
structure EndedIdle (state : CampaignProjection) : Prop where
  idle : ∀ t ledger, state.ledgers.get? t = some ledger → ledger.outcome.isSome →
    ∀ k active, state.reservations.get? k = some active → active.trialId ≠ t
  unused : ∀ t ledger outcome, state.ledgers.get? t = some ledger →
    ledger.outcome = some outcome → outcome.disposition = .notDispatched →
    (∀ item, ledger.committed.get item = 0) ∧ ledger.attempts = []

variable {payload : ReservationCreatedPayload}

lemma outcome_of_created
    (h : applyReservationCreated header state payload = .ok state')
    (hget : state'.ledgers.get? payload.trialId = some ledger') : ledger'.outcome = none := by
  simp only [applyReservationCreated, bind_eq_ok, raiseIf_eq_ok, exists_const, pure_eq_ok] at h
  obtain ⟨-, -, ledger, hready, _, -, _, -, -, rfl⟩ := h
  rw [Dict.get?_insert_self, Option.some.injEq] at hget
  rw [← hget]
  exact (readyCampaignProjection_eq_ok.mp hready).2.1

lemma idle_step (h : EndedIdle state) (hstep : applyCampaignEvent header state event = .ok state')
    (hget : state'.ledgers.get? t = some ledger')
    (hended : ledger'.outcome.isSome)
    (hactive : state'.reservations.get? k = some active) : active.trialId ≠ t := by
  -- a reservation that was active before
  have hbefore : ∀ k before, state.reservations.get? k = some before → before.trialId ≠ t := by
    intro k before hbefore
    rcases (TrialEffect.of_apply hstep).at hget with hsame | ⟨ledger, hledger, hchange⟩
    · exact h.idle t ledger' hsame hended k before hbefore
    · cases hchange with
      | kept houtcome => exact h.idle t ledger hledger (houtcome ▸ hended) k before hbefore
      | settled _ _ _ _ _ houtcome =>
        exact h.idle t ledger hledger (houtcome ▸ hended) k before hbefore
      | ended _ _ _ _ _ _ _ hidle => exact hidle k before hbefore
  rcases mem_reservations_step hstep hactive with
    ⟨hold, -⟩ | ⟨payload, hpayload, -, rfl⟩ | ⟨payload, before, -, hold, rfl⟩
  · exact hbefore k active hold
  · rintro rfl
    rw [applyCampaignEvent, hpayload] at hstep
    simp [outcome_of_created hstep hget] at hended
  · exact hbefore k before hold

lemma unused_step (h : EndedIdle state) (hstep : applyCampaignEvent header state event = .ok state')
    {outcome : TrialRunOutcome}
    (hget : state'.ledgers.get? t = some ledger') (houtcome' : ledger'.outcome = some outcome)
    (hdisposition : outcome.disposition = .notDispatched) :
    (∀ item, ledger'.committed.get item = 0) ∧ ledger'.attempts = [] := by
  rcases (TrialEffect.of_apply hstep).at hget with hsame | ⟨ledger, hledger, hchange⟩
  · exact h.unused t ledger' outcome hsame houtcome' hdisposition
  · cases hchange with
    | kept houtcome hcommitted hattempts =>
      rw [hcommitted, hattempts]
      exact h.unused t ledger outcome hledger (houtcome ▸ houtcome') hdisposition
    | settled k active _ hactive htrial houtcome =>
      exact absurd htrial
        (h.idle t ledger hledger (by rw [← houtcome, houtcome', Option.isSome_some])
          k active hactive)
    | ended outcome₁ _ houtcome hcommitted hattempts _ _ _ hzero =>
      rw [houtcome', Option.some.injEq] at houtcome
      rw [hcommitted, hattempts]
      exact hzero (houtcome ▸ hdisposition)

theorem replayCampaign_endedIdle (h : replayCampaign header events = .ok state) :
    EndedIdle state := by
  refine foldSteps_induction (P := fun _ (state : CampaignProjection) => EndedIdle state) ?_ ?_ h
  · intro _ m event m' ih hstep
    exact ⟨fun t ledger hget hended k active hactive => idle_step ih hstep hget hended hactive,
      fun t ledger outcome hget houtcome hdisposition =>
        unused_step ih hstep hget houtcome hdisposition⟩
  · constructor
    · intro t ledger hget hended
      rw [initial_ledger hget] at hended
      cases hended
    · intro t ledger outcome hget houtcome
      rw [initial_ledger hget] at houtcome
      cases houtcome

/-! ### Attempts -/

omit [CampaignCanonical] in
/-- A settled attempt continues the reservation it settles. -/
lemma attempt_of_settled {payload : ProviderAttemptSettledPayload}
    (h : applyProviderSettlement header state payload = .ok state') :
    ∃ active provider trial, state.reservations.get? payload.reservationId = some active ∧
      active.provider = some provider ∧ trial ∈ header.schedule.trials ∧
      payload.attempt.attemptNumber = provider.attemptNumber ∧
      payload.attempt.requestedServiceTier = trial.binding.serviceTier := by
  simp only [applyProviderSettlement, reservation, scheduledTrial, bind_eq_ok, orRaise_eq_ok,
    raiseIf_eq_ok, exists_const, not_or, not_not] at h
  obtain ⟨active, hactive, provider, hprovider, -, trial, htrial, hsame, -⟩ := h
  exact ⟨active, provider, trial, hactive, hprovider, List.mem_of_find?_eq_some htrial, hsame.2.1,
    hsame.2.2.2.1⟩

variable {attempt : ProviderAttemptRecord}

/-- Every attempt asked for the service tier of a scheduled trial. -/
theorem tier_of_attempt (h : replayCampaign header events = .ok state)
    (hattempt : attempt ∈ state.attempts t) :
    ∃ trial ∈ header.schedule.trials,
      attempt.requestedServiceTier = trial.binding.serviceTier := by
  refine foldSteps_induction (P := fun _ (state : CampaignProjection) =>
    ∀ t, ∀ attempt ∈ state.attempts t, ∃ trial ∈ header.schedule.trials,
      attempt.requestedServiceTier = trial.binding.serviceTier) ?_ ?_ h t attempt hattempt
  · intro _ m event m' ih hstep t attempt hattempt
    rcases mem_attempts_step hstep hattempt with hold | ⟨payload, hpayload, rfl⟩
    · exact ih t attempt hold
    · rw [applyCampaignEvent, hpayload] at hstep
      obtain ⟨-, -, trial, -, -, htrial, -, htier⟩ := attempt_of_settled hstep
      exact ⟨trial, htrial, htier⟩
  · intro t attempt hattempt
    rw [initial_attempts] at hattempt
    exact absurd hattempt List.not_mem_nil

/-- The attempts of a request are numbered from one, and its reservation, of which there is one at
most, carries the next number. -/
structure AttemptsNumbered (state : CampaignProjection) : Prop where
  contiguous : ∀ t key, (state.attemptsFor t key).map ProviderAttemptRecord.attemptNumber =
    List.range' 1 (state.attemptsFor t key).length
  next : ∀ k active provider, state.reservations.get? k = some active →
    active.provider = some provider →
    provider.attemptNumber = (state.attemptsFor active.trialId provider.requestKey).length + 1
  sole : ∀ t key k k' active active', state.reservations.get? k = some active →
    active.For t key → state.reservations.get? k' = some active' → active'.For t key → k = k'

omit [CampaignCanonical] in
/-- Reservations may go, and those that stay keep their trial and request. -/
lemma AttemptsNumbered.of_same (h : AttemptsNumbered state) (hattempts : SameAttempts state state')
    (hreservations : ∀ k active, state'.reservations.get? k = some active →
      ∃ before, state.reservations.get? k = some before ∧ before.trialId = active.trialId ∧
        before.provider = active.provider) : AttemptsNumbered state' := by
  refine ⟨?_, ?_, ?_⟩
  · intro t key
    rw [hattempts.attemptsFor]
    exact h.contiguous t key
  · intro k active provider hactive hprovider
    obtain ⟨before, hbefore, htrial, hsame⟩ := hreservations k active hactive
    rw [hattempts.attemptsFor, ← htrial]
    exact h.next k before provider hbefore (hsame.trans hprovider)
  · intro t key k k' active active' hactive hfor hactive' hfor'
    obtain ⟨before, hbefore, htrial, hsame⟩ := hreservations k active hactive
    obtain ⟨before', hbefore', htrial', hsame'⟩ := hreservations k' active' hactive'
    refine h.sole t key k k' before before' hbefore ?_ hbefore' ?_
    · rw [ReservationLedger.For, htrial, hsame]
      exact hfor
    · rw [ReservationLedger.For, htrial', hsame']
      exact hfor'

omit [CampaignCanonical] in
lemma erase_kept (hreservations : state'.reservations = state.reservations.erase k)
    (k' : Identifier) (active : ReservationLedger)
    (hactive : state'.reservations.get? k' = some active) :
    ∃ before, state.reservations.get? k' = some before ∧ before.trialId = active.trialId ∧
      before.provider = active.provider := by
  rw [hreservations, Dict.get?_erase] at hactive
  split_ifs at hactive
  exact ⟨active, hactive, rfl, rfl⟩

/-- A new reservation takes the next number, which no other one has. -/
lemma number_of_created {provider : ProviderReservationBinding}
    (hledger : state.ledgers.get? payload.trialId = some ledger)
    (h : validateProviderReservation header state payload provider ledger = .ok ⟨⟩) :
    provider.attemptNumber =
      (state.attemptsFor payload.trialId provider.requestKey).length + 1 := by
  simp only [validateProviderReservation, bind_eq_ok, raiseIf_eq_ok, exists_const, not_not] at h
  obtain ⟨-, trial, -, -, hnumber, -⟩ := h
  rw [hnumber, CampaignProjection.attemptsFor, attempts_of_get? hledger]

lemma attemptsNumbered_created (h : AttemptsNumbered state)
    (hledger : state.ledgers.get? payload.trialId = some ledger)
    (hprovider : ∀ provider ∈ payload.provider,
      validateProviderReservation header state payload provider ledger = .ok ⟨⟩)
    (hreservations : state'.reservations = state.reservations.insert payload.reservationId
      { trialId := payload.trialId, claim := payload.claim, provider := payload.provider })
    (hattempts : SameAttempts state state') : AttemptsNumbered state' := by
  have hother : ∀ t key k active, state.reservations.get? k = some active → active.For t key →
      ¬ (ReservationLedger.For
        { trialId := payload.trialId, claim := payload.claim, provider := payload.provider }
        t key) := by
    rintro t key k active hactive hfor ⟨rfl, provider, hsome, rfl⟩
    exact (validateProviderReservation_eq_ok (hprovider provider hsome)).1 active
      (Dict.mem_values.mpr ⟨k, hactive⟩) hfor
  refine ⟨?_, ?_, ?_⟩
  · intro t key
    rw [hattempts.attemptsFor]
    exact h.contiguous t key
  · intro k active provider hactive hsome
    rw [hattempts.attemptsFor]
    rw [hreservations, Dict.get?_insert] at hactive
    split_ifs at hactive with hk
    · obtain rfl := Option.some.inj hactive
      exact number_of_created hledger (hprovider provider hsome)
    · exact h.next k active provider hactive hsome
  · intro t key k k' active active' hactive hfor hactive' hfor'
    rw [hreservations, Dict.get?_insert] at hactive hactive'
    split_ifs at hactive hactive' with hk hk' hk'
    · rw [hk, hk']
    · obtain rfl := Option.some.inj hactive
      exact absurd hfor (hother t key k' active' hactive' hfor')
    · obtain rfl := Option.some.inj hactive'
      exact absurd hfor' (hother t key k active hactive hfor)
    · exact h.sole t key k k' active active' hactive hfor hactive' hfor'

omit [CampaignCanonical] in
/-- A settled attempt is the last one of its request and of no other. -/
lemma attemptsFor_settled {trialId : Identifier}
    (hattempts : ∀ t, state'.attempts t =
      if t = trialId then state.attempts t ++ [attempt] else state.attempts t)
    (t key : Identifier) :
    state'.attemptsFor t key = if t = trialId ∧ attempt.requestKey = key then
      state.attemptsFor t key ++ [attempt] else state.attemptsFor t key := by
  rw [CampaignProjection.attemptsFor, hattempts, CampaignProjection.attemptsFor]
  by_cases ht : t = trialId
  · by_cases hkey : attempt.requestKey = key
    · simp [ht, hkey]
    · simp [ht, hkey]
  · simp [ht]

omit [CampaignCanonical] in
lemma attemptsNumbered_settled (h : AttemptsNumbered state)
    {provider : ProviderReservationBinding}
    (hactive : state.reservations.get? k = some active)
    (hprovider : active.provider = some provider)
    (hkey : attempt.requestKey = provider.requestKey)
    (hnumber : attempt.attemptNumber = provider.attemptNumber)
    (hreservations : state'.reservations = state.reservations.erase k)
    (hattempts : ∀ t, state'.attempts t =
      if t = active.trialId then state.attempts t ++ [attempt] else state.attempts t) :
    AttemptsNumbered state' := by
  have hnext := h.next k active provider hactive hprovider
  refine ⟨?_, ?_, ?_⟩
  · intro t key
    rw [attemptsFor_settled hattempts]
    split_ifs with hsame
    · obtain ⟨rfl, rfl⟩ := hsame
      rw [List.map_append, h.contiguous, List.length_append, List.length_singleton,
        List.range'_1_concat, List.map_singleton, hnumber, hnext, hkey, Nat.add_comm 1]
    · exact h.contiguous t key
  · intro k' other provider' hother hprovider'
    rw [hreservations, Dict.get?_erase] at hother
    split_ifs at hother with hk
    have hne : ¬ (other.trialId = active.trialId ∧ attempt.requestKey = provider'.requestKey) := by
      rintro ⟨htrial, hsame⟩
      exact hk (h.sole active.trialId provider.requestKey k' k other active hother
        ⟨htrial, provider', hprovider', by rw [← hsame, hkey]⟩ hactive
        ⟨rfl, provider, hprovider, rfl⟩)
    rw [attemptsFor_settled hattempts, if_neg hne]
    exact h.next k' other provider' hother hprovider'
  · intro t key k₁ k₂ active₁ active₂ h₁ hfor₁ h₂ hfor₂
    rw [hreservations, Dict.get?_erase] at h₁ h₂
    split_ifs at h₁ h₂
    exact h.sole t key k₁ k₂ active₁ active₂ h₁ hfor₁ h₂ hfor₂

lemma attemptsNumbered_step (h : AttemptsNumbered state)
    (hstep : applyCampaignEvent header state event = .ok state') : AttemptsNumbered state' := by
  have heffect := ReservationEffect.of_apply hstep
  have hsettled : ∀ payload, event.payload = .providerAttemptSettled payload →
      ∃ active provider, state.reservations.get? payload.reservationId = some active ∧
        active.provider = some provider ∧
        payload.attempt.attemptNumber = provider.attemptNumber := by
    intro payload hpayload
    rw [applyCampaignEvent, hpayload] at hstep
    obtain ⟨active, provider, -, hactive, hprovider, -, hnumber, -⟩ := attempt_of_settled hstep
    exact ⟨active, provider, hactive, hprovider, hnumber⟩
  generalize event.payload = payload at heffect hsettled
  cases heffect with
  | created payload ledger hfresh hledger hprovider hreservations hattempts =>
    exact attemptsNumbered_created h hledger hprovider hreservations hattempts
  | dispatched payload active hactive hdispatched hreservations hattempts =>
    refine h.of_same hattempts ?_
    intro k other hother
    rw [hreservations, Dict.get?_insert] at hother
    split_ifs at hother with hk
    · obtain rfl := Option.some.inj hother
      exact ⟨active, hk ▸ hactive, rfl, rfl⟩
    · exact ⟨other, hother, rfl, rfl⟩
  | cancelled payload active hactive hdispatched hreservations hattempts =>
    exact h.of_same hattempts (erase_kept hreservations)
  | workSettled payload active hactive hreservations hattempts =>
    exact h.of_same hattempts (erase_kept hreservations)
  | providerSettled payload active provider hactive hprovider hdispatched hkey hreservations
      hattempts htrials =>
    obtain ⟨active', provider', hactive', hprovider', hnumber⟩ := hsettled payload rfl
    rw [hactive, Option.some.injEq] at hactive'
    subst hactive'
    rw [hprovider, Option.some.injEq] at hprovider'
    subst hprovider'
    exact attemptsNumbered_settled h hactive hprovider hkey hnumber hreservations hattempts
  | outcome payload hreservations hattempts =>
    exact h.of_same hattempts fun k active hactive => ⟨active, hreservations ▸ hactive, rfl, rfl⟩
  | budgetStopped payload hreservations hattempts =>
    exact h.of_same hattempts fun k active hactive => ⟨active, hreservations ▸ hactive, rfl, rfl⟩

theorem replayCampaign_attemptsNumbered (h : replayCampaign header events = .ok state) :
    AttemptsNumbered state := by
  refine foldSteps_induction (P := fun _ (state : CampaignProjection) => AttemptsNumbered state)
    (fun _ _ _ _ ih hstep => attemptsNumbered_step ih hstep) ?_ h
  refine ⟨?_, ?_, ?_⟩
  · intro t key
    rw [CampaignProjection.attemptsFor, initial_attempts]
    rfl
  · intro k active provider hactive
    simp [CampaignProjection.initial] at hactive
  · intro t key k k' active active' hactive
    simp [CampaignProjection.initial] at hactive

end EdaGym
