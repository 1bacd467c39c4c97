import EdaGym.Providers.CampaignLedger
import EdaGym.Providers.CampaignRunner

/-!
# Reservations and attempts along a campaign journal

What an accepted campaign event does to the active reservations and to the attempts settled for each
trial, the amounts of both ledgers apart.
-/

namespace EdaGym

variable [Canonical]

def CampaignProjection.attempts (state : CampaignProjection) (trialId : Identifier) :
    List ProviderAttemptRecord :=
  (state.ledgers.get? trialId).elim [] TrialProjection.attempts

/-- The same trials, with the same attempts. -/
structure SameAttempts (state state' : CampaignProjection) : Prop where
  attempts : ∀ t, state'.attempts t = state.attempts t
  trials : ∀ t, t ∈ state'.ledgers ↔ t ∈ state.ledgers

lemma SameAttempts.trans {s₁ s₂ s₃ : CampaignProjection} (h : SameAttempts s₁ s₂)
    (h' : SameAttempts s₂ s₃) : SameAttempts s₁ s₃ where
  attempts t := (h'.attempts t).trans (h.attempts t)
  trials t := (h'.trials t).trans (h.trials t)

variable {state state' : CampaignProjection}

lemma sameAttempts_of_ledgers
    (h : state'.ledgers = state.ledgers) : SameAttempts state state' where
  attempts t := by rw [CampaignProjection.attempts, CampaignProjection.attempts, h]
  trials t := by rw [h]

variable {trialId : Identifier}

lemma attempts_insert
    {ledger : TrialProjection} (h : state'.ledgers = state.ledgers.insert trialId ledger)
    (t : Identifier) :
    state'.attempts t = if t = trialId then ledger.attempts else state.attempts t := by
  rw [CampaignProjection.attempts, h, Dict.get?_insert]
  split_ifs <;> rfl

lemma trials_insert
    {ledger ledger' : TrialProjection} (h : state'.ledgers = state.ledgers.insert trialId ledger')
    (hledger : state.ledgers.get? trialId = some ledger) (t : Identifier) :
    t ∈ state'.ledgers ↔ t ∈ state.ledgers := by
  rw [h, Dict.mem_insert]
  constructor
  · rintro (rfl | ht)
    · exact Dict.mem_of_get? hledger
    · exact ht
  · exact Or.inr

lemma attempts_of_get? {state : CampaignProjection} {ledger : TrialProjection}
    (h : state.ledgers.get? trialId = some ledger) : state.attempts trialId = ledger.attempts := by
  rw [CampaignProjection.attempts, h, Option.elim_some]

lemma sameAttempts_of_insert
    {ledger ledger' : TrialProjection} (h : state'.ledgers = state.ledgers.insert trialId ledger')
    (hledger : state.ledgers.get? trialId = some ledger)
    (hattempts : ledger'.attempts = ledger.attempts) : SameAttempts state state' where
  attempts t := by
    rw [attempts_insert h]
    split_ifs with ht
    · rw [hattempts, ht, attempts_of_get? hledger]
    · rfl
  trials := trials_insert h hledger

variable [CampaignCanonical]

/-- What an accepted event does to reservations and attempts. -/
inductive ReservationEffect (header : CampaignHeader) (state state' : CampaignProjection) :
    CampaignEventPayload → Prop
  | created (payload : ReservationCreatedPayload) (ledger : TrialProjection)
      (hfresh : payload.reservationId ∉ state.reservations)
      (hledger : state.ledgers.get? payload.trialId = some ledger)
      (hprovider : ∀ provider ∈ payload.provider,
        validateProviderReservation header state payload provider ledger = .ok ⟨⟩)
      (hreservations : state'.reservations = state.reservations.insert payload.reservationId
        { trialId := payload.trialId, claim := payload.claim, provider := payload.provider })
      (hattempts : SameAttempts state state') :
      ReservationEffect header state state' (.reservationCreated payload)
  | dispatched (payload : ReservationDispatchedPayload) (active : ReservationLedger)
      (hactive : state.reservations.get? payload.reservationId = some active)
      (hdispatched : active.dispatched = false)
      (hreservations : state'.reservations = state.reservations.insert payload.reservationId
        { active with dispatched := true })
      (hattempts : SameAttempts state state') :
      ReservationEffect header state state' (.reservationDispatched payload)
  | cancelled (payload : ReservationCancelledPayload) (active : ReservationLedger)
      (hactive : state.reservations.get? payload.reservationId = some active)
      (hdispatched : active.dispatched = false)
      (hreservations : state'.reservations = state.reservations.erase payload.reservationId)
      (hattempts : SameAttempts state state') :
      ReservationEffect header state state' (.reservationCancelled payload)
  | workSettled (payload : WorkSettledPayload) (active : ReservationLedger)
      (hactive : state.reservations.get? payload.reservationId = some active)
      (hreservations : state'.reservations = state.reservations.erase payload.reservationId)
      (hattempts : SameAttempts state state') :
      ReservationEffect header state state' (.workSettled payload)
  | providerSettled (payload : ProviderAttemptSettledPayload) (active : ReservationLedger)
      (provider : ProviderReservationBinding)
      (hactive : state.reservations.get? payload.reservationId = some active)
      (hprovider : active.provider = some provider) (hdispatched : active.dispatched = true)
      (hkey : payload.attempt.requestKey = provider.requestKey)
      (hreservations : state'.reservations = state.reservations.erase payload.reservationId)
      (hattempts : ∀ t, state'.attempts t =
        if t = active.trialId then state.attempts t ++ [payload.attempt] else state.attempts t)
      (htrials : ∀ t, t ∈ state'.ledgers ↔ t ∈ state.ledgers) :
      ReservationEffect header state state' (.providerAttemptSettled payload)
  | outcome (payload : TrialOutcomeRecordedPayload)
      (hreservations : state'.reservations = state.reservations)
      (hattempts : SameAttempts state state') :
      ReservationEffect header state state' (.trialOutcomeRecorded payload)
  | budgetStopped (payload : BudgetStoppedPayload)
      (hreservations : state'.reservations = state.reservations)
      (hattempts : SameAttempts state state') :
      ReservationEffect header state state' (.budgetStopped payload)

section Effect

variable {header : CampaignHeader} {state state' : CampaignProjection} {event : CampaignEvent}
  {active : ReservationLedger}

omit [CampaignCanonical] in
lemma releaseReservation_effect {reservationId : Identifier}
    (h : releaseReservation state reservationId active = .ok state') :
    state'.reservations = state.reservations.erase reservationId ∧ SameAttempts state state' := by
  simp only [releaseReservation, bind_eq_ok, orRaise_eq_ok, pure_eq_ok] at h
  obtain ⟨ledger, hl, rfl⟩ := h
  exact ⟨rfl, sameAttempts_of_insert rfl hl rfl⟩

omit [CampaignCanonical] in
lemma settle_effect {reservationId : Identifier}
    {actual : CampaignResources} (h : settle state reservationId active actual = .ok state') :
    state'.reservations = state.reservations.erase reservationId ∧ SameAttempts state state' := by
  simp only [settle, bind_eq_ok, orRaise_eq_ok, pure_eq_ok] at h
  obtain ⟨ledger, hl, rfl⟩ := h
  exact ⟨rfl, sameAttempts_of_insert rfl hl rfl⟩

lemma reservationEffect_created {payload : ReservationCreatedPayload}
    (h : applyReservationCreated header state payload = .ok state') :
    ReservationEffect header state state' (.reservationCreated payload) := by
  simp only [applyReservationCreated, bind_eq_ok, raiseIf_eq_ok, exists_const] at h
  obtain ⟨hid, -, ledger, hready, _, hkind, _, -, -, hst⟩ := h
  obtain ⟨hl, -⟩ := readyCampaignProjection_eq_ok.mp hready
  rw [pure_eq_ok] at hst
  subst hst
  refine .created payload ledger hid hl ?_ rfl (sameAttempts_of_insert rfl hl rfl)
  intro provider hprovider
  rw [validateReservationKind, Option.mem_def.mp hprovider] at hkind
  exact hkind

omit [CampaignCanonical] in
lemma reservationEffect_cancelled {payload : ReservationCancelledPayload}
    (h : applyReservationCancelled state payload = .ok state') :
    ∃ active, state.reservations.get? payload.reservationId = some active ∧
      active.dispatched = false ∧
      state'.reservations = state.reservations.erase payload.reservationId ∧
      SameAttempts state state' := by
  simp only [applyReservationCancelled, reservation, bind_eq_ok, orRaise_eq_ok, raiseIf_eq_ok,
    exists_const, Bool.not_eq_true] at h
  obtain ⟨active, hactive, hdispatched, h⟩ := h
  refine ⟨active, hactive, hdispatched, ?_⟩
  cases hprov : active.provider with
  | none =>
    rw [hprov] at h
    exact releaseReservation_effect h
  | some provider =>
    simp only [hprov, bind_eq_ok, orRaise_eq_ok] at h
    obtain ⟨ledger, hl, h⟩ := h
    obtain ⟨hreservations, hattempts⟩ := releaseReservation_effect h
    refine ⟨hreservations, SameAttempts.trans ?_ hattempts⟩
    exact sameAttempts_of_insert rfl hl rfl

omit [CampaignCanonical] in
lemma reservationEffect_providerSettled {payload : ProviderAttemptSettledPayload}
    (h : applyProviderSettlement header state payload = .ok state') :
    ∃ active provider, state.reservations.get? payload.reservationId = some active ∧
      active.provider = some provider ∧ active.dispatched = true ∧
      payload.attempt.requestKey = provider.requestKey ∧
      state'.reservations = state.reservations.erase payload.reservationId ∧
      (∀ t, state'.attempts t =
        if t = active.trialId then state.attempts t ++ [payload.attempt] else state.attempts t) ∧
      ∀ t, t ∈ state'.ledgers ↔ t ∈ state.ledgers := by
  simp only [applyProviderSettlement, reservation, bind_eq_ok, orRaise_eq_ok, raiseIf_eq_ok,
    exists_const, pure_eq_ok, Bool.not_eq_false, not_or, not_not] at h
  obtain ⟨active, hactive, provider, hprovider, hdispatched, trial, -, hsame, -, settled, hsettle,
    ledger, hl, rfl⟩ := h
  obtain ⟨hreservations, hattempts⟩ := settle_effect hsettle
  refine ⟨active, provider, hactive, hprovider, hdispatched, hsame.1, hreservations, ?_, ?_⟩
  · intro t
    rw [attempts_insert rfl, ← hattempts.attempts t]
    split_ifs with ht
    · rw [ht, attempts_of_get? hl]
    · rfl
  · exact fun t => (trials_insert rfl hl t).trans (hattempts.trials t)

theorem ReservationEffect.of_apply (h : applyCampaignEvent header state event = .ok state') :
    ReservationEffect header state state' event.payload := by
  unfold applyCampaignEvent at h
  cases hp : event.payload with
  | reservationCreated payload =>
    rw [hp] at h
    exact reservationEffect_created h
  | reservationDispatched payload =>
    simp only [hp, applyReservationDispatched, reservation, bind_eq_ok, orRaise_eq_ok,
      raiseIf_eq_ok, exists_const, pure_eq_ok, Bool.not_eq_true] at h
    obtain ⟨active, hactive, hdispatched, rfl⟩ := h
    exact .dispatched payload active hactive hdispatched rfl (sameAttempts_of_ledgers rfl)
  | reservationCancelled payload =>
    rw [hp] at h
    obtain ⟨active, hactive, hdispatched, hreservations, hattempts⟩ :=
      reservationEffect_cancelled h
    exact .cancelled payload active hactive hdispatched hreservations hattempts
  | workSettled payload =>
    simp only [hp, applyWorkSettled, reservation, bind_eq_ok, orRaise_eq_ok, raiseIf_eq_ok,
      exists_const] at h
    obtain ⟨active, hactive, -, -, -, h⟩ := h
    obtain ⟨hreservations, hattempts⟩ := settle_effect h
    exact .workSettled payload active hactive hreservations hattempts
  | providerAttemptSettled payload =>
    rw [hp] at h
    obtain ⟨active, provider, hactive, hprovider, hdispatched, hkey, hreservations, hattempts,
      htrials⟩ := reservationEffect_providerSettled h
    exact .providerSettled payload active provider hactive hprovider hdispatched hkey hreservations
      hattempts htrials
  | trialOutcomeRecorded payload =>
    simp only [hp, applyTrialOutcome, bind_eq_ok, orRaise_eq_ok, raiseIf_eq_ok, exists_const,
      pure_eq_ok] at h
    obtain ⟨trial, -, ledger, hl, -, -, task, -, -, runIds, -, _, -, rfl⟩ := h
    exact .outcome payload rfl (sameAttempts_of_insert rfl hl rfl)
  | budgetStopped payload =>
    rw [hp] at h
    obtain ⟨_, _, rfl⟩ := applyBudgetStopped_eq_ok h
    exact .budgetStopped payload rfl (sameAttempts_of_ledgers rfl)

variable {k : Identifier}

/-- An active reservation was there before, is new, or has been marked as dispatched. -/
lemma mem_reservations_step (h : applyCampaignEvent header state event = .ok state')
    (hactive : state'.reservations.get? k = some active) :
    (state.reservations.get? k = some active ∧
        ∀ payload, event.payload = .reservationCreated payload → payload.reservationId ≠ k) ∨
      (∃ payload, event.payload = .reservationCreated payload ∧ payload.reservationId = k ∧
        active = { trialId := payload.trialId, claim := payload.claim,
                   provider := payload.provider }) ∨
      ∃ payload before, event.payload = .reservationDispatched payload ∧
        state.reservations.get? k = some before ∧ active = { before with dispatched := true } := by
  have heffect := ReservationEffect.of_apply h
  generalize event.payload = payload at heffect
  cases heffect with
  | created payload ledger hfresh hledger hprovider hreservations hattempts =>
    rw [hreservations, Dict.get?_insert] at hactive
    split_ifs at hactive with hk
    · exact Or.inr (Or.inl ⟨payload, rfl, hk.symm, (Option.some.inj hactive).symm⟩)
    · refine Or.inl ⟨hactive, ?_⟩
      rintro _ hcreated rfl
      cases hcreated
      exact hk rfl
  | dispatched payload before hbefore hdispatched hreservations hattempts =>
    rw [hreservations, Dict.get?_insert] at hactive
    split_ifs at hactive with hk
    · subst hk
      exact Or.inr (Or.inr ⟨payload, before, rfl, hbefore, (Option.some.inj hactive).symm⟩)
    · exact Or.inl ⟨hactive, by simp⟩
  | cancelled payload before hbefore hdispatched hreservations hattempts =>
    rw [hreservations, Dict.get?_erase] at hactive
    split_ifs at hactive
    exact Or.inl ⟨hactive, by simp⟩
  | workSettled payload before hbefore hreservations hattempts =>
    rw [hreservations, Dict.get?_erase] at hactive
    split_ifs at hactive
    exact Or.inl ⟨hactive, by simp⟩
  | providerSettled payload before provider hbefore hprovider hdispatched hkey hreservations =>
    rw [hreservations, Dict.get?_erase] at hactive
    split_ifs at hactive
    exact Or.inl ⟨hactive, by simp⟩
  | outcome payload hreservations hattempts => exact Or.inl ⟨hreservations ▸ hactive, by simp⟩
  | budgetStopped payload hreservations hattempts =>
    exact Or.inl ⟨hreservations ▸ hactive, by simp⟩

variable {events : List CampaignEvent}

/-- What holds of every created reservation, and does not depend on its dispatch, holds of every
active one. -/
theorem reservation_induction {P : ReservationLedger → Prop}
    (hcreated : ∀ m m' payload, applyReservationCreated header m payload = .ok m' →
      P { trialId := payload.trialId, claim := payload.claim, provider := payload.provider })
    (hdispatched : ∀ active, P active → P { active with dispatched := true })
    (h : replayCampaign header events = .ok state)
    (hactive : state.reservations.get? k = some active) :
    P active := by
  refine foldSteps_induction (P := fun _ (state : CampaignProjection) =>
    ∀ k active, state.reservations.get? k = some active → P active) ?_ ?_ h k active hactive
  · intro _ m event m' ih hstep k active hactive
    rcases mem_reservations_step hstep hactive with
      ⟨hold, -⟩ | ⟨payload, hpayload, -, rfl⟩ | ⟨payload, before, -, hbefore, rfl⟩
    · exact ih k active hold
    · rw [applyCampaignEvent, hpayload] at hstep
      exact hcreated m m' payload hstep
    · exact hdispatched before (ih k before hbefore)
  · intro k active hactive
    simp [CampaignProjection.initial] at hactive

/-- An attempt is there because it has been settled. -/
lemma mem_attempts_step (h : applyCampaignEvent header state event = .ok state') {t : Identifier}
    {attempt : ProviderAttemptRecord} (hattempt : attempt ∈ state'.attempts t) :
    attempt ∈ state.attempts t ∨
      ∃ payload, event.payload = .providerAttemptSettled payload ∧ payload.attempt = attempt := by
  have heffect := ReservationEffect.of_apply h
  generalize event.payload = payload at heffect
  cases heffect with
  | created payload ledger hfresh hledger hprovider hreservations hattempts =>
    exact Or.inl (hattempts.attempts t ▸ hattempt)
  | dispatched payload active hactive hdispatched hreservations hattempts =>
    exact Or.inl (hattempts.attempts t ▸ hattempt)
  | cancelled payload active hactive hdispatched hreservations hattempts =>
    exact Or.inl (hattempts.attempts t ▸ hattempt)
  | workSettled payload active hactive hreservations hattempts =>
    exact Or.inl (hattempts.attempts t ▸ hattempt)
  | providerSettled payload active provider hactive hprovider hdispatched hkey hreservations
      hattempts htrials =>
    rw [hattempts] at hattempt
    split_ifs at hattempt
    · rcases List.mem_append.mp hattempt with hattempt | hattempt
      · exact Or.inl hattempt
      · exact Or.inr ⟨payload, rfl, (List.mem_singleton.mp hattempt).symm⟩
    · exact Or.inl hattempt
  | outcome payload hreservations hattempts => exact Or.inl (hattempts.attempts t ▸ hattempt)
  | budgetStopped payload hreservations hattempts =>
    exact Or.inl (hattempts.attempts t ▸ hattempt)

omit [CampaignCanonical] in
/-- An attempt without reported usage poisons the campaign. -/
lemma budgetViolation_of_unknown {payload : ProviderAttemptSettledPayload}
    (h : applyProviderSettlement header state payload = .ok state')
    (husage : payload.attempt.providerUsage = none) : state'.budgetViolation = true := by
  simp only [applyProviderSettlement, reservation, bind_eq_ok, orRaise_eq_ok, raiseIf_eq_ok,
    exists_const, pure_eq_ok] at h
  obtain ⟨active, -, provider, -, -, trial, -, -, -, settled, -, ledger, -, rfl⟩ := h
  simp [husage]

omit [CampaignCanonical] in
lemma initial_attempts (t : Identifier) :
    (CampaignProjection.initial header).attempts t = [] := by
  rw [CampaignProjection.attempts]
  cases hledger : (CampaignProjection.initial header).ledgers.get? t with
  | none => rfl
  | some ledger =>
    have hmem := Dict.mem_of_get?_ofList hledger
    obtain ⟨trial, -, heq⟩ := List.mem_map.mp hmem
    cases heq
    rfl

/-- As long as the campaign is not poisoned, every attempt has reported its usage. -/
theorem usage_of_clean
    (h : replayCampaign header events = .ok state) (hclean : state.budgetViolation = false)
    {t : Identifier} {attempt : ProviderAttemptRecord} (hattempt : attempt ∈ state.attempts t) :
    ∃ usage, attempt.providerUsage = some usage := by
  have hinv : ∀ t, ∀ attempt ∈ state.attempts t, attempt.providerUsage = none →
      state.budgetViolation = true := by
    refine foldSteps_induction (P := fun _ (state : CampaignProjection) =>
      ∀ t, ∀ attempt ∈ state.attempts t, attempt.providerUsage = none →
        state.budgetViolation = true) ?_ ?_ h
    · intro _ m event m' ih hstep t attempt hmem husage
      rcases mem_attempts_step hstep hmem with hold | ⟨payload, hpayload, rfl⟩
      · exact (applyCampaignEvent_ledgerStep hstep).violation (ih t attempt hold husage)
      · rw [applyCampaignEvent, hpayload] at hstep
        exact budgetViolation_of_unknown hstep husage
    · intro t attempt hmem
      rw [initial_attempts] at hmem
      exact absurd hmem List.not_mem_nil
  refine Option.ne_none_iff_exists'.mp ?_
  intro husage
  have hviolation := hinv t attempt hattempt husage
  simp [hclean] at hviolation

/-- Events neither add nor drop trials. -/
lemma trials_step (h : applyCampaignEvent header state event = .ok state') (t : Identifier) :
    t ∈ state'.ledgers ↔ t ∈ state.ledgers := by
  have heffect := ReservationEffect.of_apply h
  generalize event.payload = payload at heffect
  cases heffect with
  | created _ _ _ _ _ _ hattempts => exact hattempts.trials t
  | dispatched _ _ _ _ _ hattempts => exact hattempts.trials t
  | cancelled _ _ _ _ _ hattempts => exact hattempts.trials t
  | workSettled _ _ _ _ hattempts => exact hattempts.trials t
  | providerSettled _ _ _ _ _ _ _ _ _ htrials => exact htrials t
  | outcome _ _ hattempts => exact hattempts.trials t
  | budgetStopped _ _ hattempts => exact hattempts.trials t

/-- The trials of a ledger are those of the schedule. -/
lemma trials_eq (h : replayCampaign header events = .ok state)
    (t : Identifier) : t ∈ state.ledgers ↔ t ∈ (CampaignProjection.initial header).ledgers := by
  refine foldSteps_induction (P := fun _ (state : CampaignProjection) =>
    ∀ t, t ∈ state.ledgers ↔ t ∈ (CampaignProjection.initial header).ledgers) ?_ ?_ h t
  · intro _ m event m' ih hstep t
    rw [trials_step hstep, ih]
  · exact fun _ => Iff.rfl

/-- An active reservation belongs to a trial of the ledgers. -/
lemma owner_of_reservation
    (h : replayCampaign header events = .ok state)
    (hactive : state.reservations.get? k = some active) : active.trialId ∈ state.ledgers := by
  refine foldSteps_induction (P := fun _ (state : CampaignProjection) =>
    ∀ k active, state.reservations.get? k = some active → active.trialId ∈ state.ledgers)
    ?_ ?_ h k active hactive
  · intro _ m event m' ih hstep k active hactive
    rw [trials_step hstep]
    rcases mem_reservations_step hstep hactive with
      ⟨hold, -⟩ | ⟨payload, hpayload, -, rfl⟩ | ⟨payload, before, -, hbefore, rfl⟩
    · exact ih k active hold
    · rw [applyCampaignEvent, hpayload] at hstep
      obtain ⟨-, -, ledger, hledger, -⟩ := applyReservationCreated_eq_ok hstep
      exact Dict.mem_of_get? hledger
    · exact ih k before hbefore
  · intro k active hactive
    simp [CampaignProjection.initial] at hactive

/-! ### Commits -/

variable {committed requested campaign : List CampaignEvent}

lemma transactCampaign_eq_ok (h : transactCampaign header committed requested = .ok campaign) :
    campaign = committed ++ requested ∧
      ∃ state, replayCampaign header (committed ++ requested) = .ok state := by
  simp only [transactCampaign, bind_eq_ok, raiseIf_eq_ok, exists_const, pure_eq_ok] at h
  obtain ⟨-, -, -, state, hstate, rfl⟩ := h
  exact ⟨rfl, state, hstate⟩

lemma commitCampaignEvent_eq_ok {eventId : UUID} {payload : CampaignEventPayload}
    (h : commitCampaignEvent header committed eventId payload = .ok campaign) :
    ∃ state state', replayCampaign header committed = .ok state ∧
      replayCampaign header campaign = .ok state' ∧
      ReservationEffect header state state' payload := by
  simp only [commitCampaignEvent, bind_eq_ok] at h
  obtain ⟨state, hstate, state', happly, htransact⟩ := h
  obtain ⟨rfl, -⟩ := transactCampaign_eq_ok htransact
  exact ⟨state, state', hstate, foldSteps_concat_eq_ok.mpr ⟨state, hstate, happly⟩,
    ReservationEffect.of_apply happly⟩

end Effect

end EdaGym
