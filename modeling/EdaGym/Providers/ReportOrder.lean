import EdaGym.Providers.ReportPartition

/-!
# Reports and the order of a record

The reservation that a settlement closes names its trial and its claim. Where no identifier is used
by two reservations, the ledger of a trial is a tally of its settlements: sums that no order
changes, and the attempts one after the other.
-/

namespace EdaGym

section Order

variable [Canonical]

/-! ### Settlements -/

def CampaignEventPayload.created? : CampaignEventPayload → Option ReservationCreatedPayload
  | .reservationCreated payload => some payload
  | _ => none

/-- The reservations that a record creates. -/
def createdReservations (payloads : List CampaignEventPayload) : List ReservationCreatedPayload :=
  payloads.filterMap CampaignEventPayload.created?

def ReservationsDistinct (payloads : List CampaignEventPayload) : Prop :=
  ((createdReservations payloads).map ReservationCreatedPayload.reservationId).Nodup

/-- The reservation with a given identifier. -/
def owner (payloads : List CampaignEventPayload) (reservationId : Identifier) :
    Option ReservationCreatedPayload :=
  (createdReservations payloads).find? fun payload => payload.reservationId = reservationId

structure Settlement where
  trialId : Identifier
  claim : CampaignResources
  actual : CampaignResources
  attempt : Option ProviderAttemptRecord

/-- A settlement that poisons the ledgers. -/
def Settlement.violates (settlement : Settlement) : Bool :=
  decide (Exceeds settlement.actual settlement.claim) ||
    settlement.attempt.any fun attempt => attempt.providerUsage = none

def settlement? (own : Identifier → Option ReservationCreatedPayload) :
    CampaignEventPayload → Option Settlement
  | .workSettled payload => (own payload.reservationId).map fun created =>
    { trialId := created.trialId, claim := created.claim, actual := payload.actual
      attempt := none }
  | .providerAttemptSettled payload => (own payload.reservationId).map fun created =>
    { trialId := created.trialId, claim := created.claim,
      actual := payload.attempt.chargedResources, attempt := some payload.attempt }
  | _ => none

/-- The settlements of one trial, in the order of the record. -/
def tally (own : Identifier → Option ReservationCreatedPayload)
    (payloads : List CampaignEventPayload) (trialId : Identifier) : List Settlement :=
  (payloads.filterMap (settlement? own)).filter fun settlement => settlement.trialId = trialId

/-- The attempts of one trial, in the order of the record. -/
def trialAttempts (payloads : List CampaignEventPayload) (trialId : Identifier) :
    List ProviderAttemptRecord :=
  (tally (owner payloads) payloads trialId).filterMap Settlement.attempt

omit [Canonical] in
/-- A ledger whose amounts are those of a list of settlements. -/
structure Tallied (entries : List Settlement) (ledger : TrialProjection) : Prop where
  committed : ∀ item, ledger.committed.get item =
    (entries.map fun settlement => (settlement.actual.get item : Int)).sum
  attempts : ledger.attempts = entries.filterMap Settlement.attempt
  violation : ledger.accountingViolation = entries.any Settlement.violates

variable {entries : List Settlement} {ledger ledger' : TrialProjection}

lemma Tallied.congr (h : Tallied entries ledger) (hcommitted : ledger'.committed = ledger.committed)
    (hattempts : ledger'.attempts = ledger.attempts)
    (hviolation : ledger'.accountingViolation = ledger.accountingViolation) :
    Tallied entries ledger' where
  committed item := by
    rw [hcommitted]
    exact h.committed item
  attempts := hattempts.trans h.attempts
  violation := hviolation.trans h.violation

lemma Tallied.concat (h : Tallied entries ledger) (settlement : Settlement)
    (hcommitted : ledger'.committed = ledger.committed.add settlement.actual)
    (hattempts : ledger'.attempts = ledger.attempts ++ settlement.attempt.toList)
    (hviolation : ledger'.accountingViolation =
      (ledger.accountingViolation || settlement.violates)) :
    Tallied (entries ++ [settlement]) ledger' where
  committed item := by
    rw [hcommitted, MutableResources.get_add, h.committed, List.map_append, List.sum_append,
      List.map_singleton, List.sum_singleton]
  attempts := by
    rw [hattempts, h.attempts, List.filterMap_append]
    cases hattempt : settlement.attempt <;> simp [hattempt]
  violation := by
    rw [hviolation, h.violation, List.any_append, List.any_cons, List.any_nil, Bool.or_false]

/-- Nothing but the order of the attempts depends on the order of the settlements. -/
lemma Tallied.perm {entries' : List Settlement} (h : Tallied entries ledger)
    (h' : Tallied entries' ledger') (hperm : entries'.Perm entries)
    (hattempts : entries'.filterMap Settlement.attempt = entries.filterMap Settlement.attempt) :
    ledger'.committed = ledger.committed ∧ ledger'.attempts = ledger.attempts ∧
      ledger'.accountingViolation = ledger.accountingViolation := by
  refine ⟨?_, ?_, ?_⟩
  · refine ResourceVector.ext_get ?_
    intro item
    rw [h.committed, h'.committed]
    exact (hperm.map _).sum_eq
  · rw [h.attempts, h'.attempts, hattempts]
  · rw [h.violation, h'.violation, Bool.eq_iff_iff, List.any_eq_true, List.any_eq_true]
    simp only [hperm.mem_iff]

/-! ### What an accepted event adds to a tally -/

variable {header : CampaignHeader} {state state' : CampaignProjection} {event : CampaignEvent}

/-- The same amounts, attempts and outcome. -/
structure SameFacts (ledger ledger' : TrialProjection) : Prop where
  committed : ledger'.committed = ledger.committed
  attempts : ledger'.attempts = ledger.attempts
  violation : ledger'.accountingViolation = ledger.accountingViolation
  outcome : ledger'.outcome = ledger.outcome

lemma SameFacts.refl (ledger : TrialProjection) : SameFacts ledger ledger := ⟨rfl, rfl, rfl, rfl⟩

def CampaignEventPayload.outcome? : CampaignEventPayload → Option (Identifier × TrialRunOutcome)
  | .trialOutcomeRecorded payload => some (payload.trialId, payload.outcome)
  | _ => none

/-- What an accepted event does to what reports read of the ledgers. -/
inductive AccountEffect (state state' : CampaignProjection) (payload : CampaignEventPayload) : Prop
  | kept (hsettlement : ∀ own, settlement? own payload = none) (houtcome : payload.outcome? = none)
      (hledgers : ∀ t ledger', state'.ledgers.get? t = some ledger' →
        ∃ ledger, state.ledgers.get? t = some ledger ∧ SameFacts ledger ledger')
  | settled (k : Identifier) (active : ReservationLedger) (ledger ledger' : TrialProjection)
      (actual : CampaignResources) (attempt : Option ProviderAttemptRecord)
      (hsettlement : ∀ own, settlement? own payload = (own k).map fun created =>
        { trialId := created.trialId, claim := created.claim, actual, attempt })
      (houtcome : payload.outcome? = none)
      (hactive : state.reservations.get? k = some active)
      (hledger : state.ledgers.get? active.trialId = some ledger)
      (hledgers : ∀ t, state'.ledgers.get? t =
        if t = active.trialId then some ledger' else state.ledgers.get? t)
      (hcommitted : ledger'.committed = ledger.committed.add actual)
      (hattempts : ledger'.attempts = ledger.attempts ++ attempt.toList)
      (hviolation : ledger'.accountingViolation = (ledger.accountingViolation ||
        Settlement.violates { trialId := active.trialId, claim := active.claim, actual, attempt }))
      (hended : ledger'.outcome = ledger.outcome)
  | ended (t : Identifier) (outcome : TrialRunOutcome) (ledger : TrialProjection)
      (hsettlement : ∀ own, settlement? own payload = none)
      (houtcome : payload.outcome? = some (t, outcome))
      (hledger : state.ledgers.get? t = some ledger) (hopen : ledger.outcome = none)
      (hledgers : ∀ t', state'.ledgers.get? t' =
        if t' = t then some { ledger with outcome := some outcome } else state.ledgers.get? t')

variable {found : TrialProjection} {t : Identifier}

/-- One ledger is replaced by one with the same facts. -/
lemma kept_of_insert (hledger : state.ledgers.get? t = some ledger)
    (hledgers : ∀ t', state'.ledgers.get? t' =
      if t' = t then some ledger' else state.ledgers.get? t')
    (hsame : SameFacts ledger ledger') {t' : Identifier}
    (hfound : state'.ledgers.get? t' = some found) :
    ∃ ledger, state.ledgers.get? t' = some ledger ∧ SameFacts ledger found := by
  rw [hledgers] at hfound
  split_ifs at hfound with ht
  · subst ht
    obtain rfl := Option.some.inj hfound
    exact ⟨ledger, hledger, hsame⟩
  · exact ⟨found, hfound, .refl found⟩

lemma kept_of_release {k : Identifier} {active : ReservationLedger}
    (h : releaseReservation state k active = .ok state')
    (hfound : state'.ledgers.get? t = some found) :
    ∃ ledger, state.ledgers.get? t = some ledger ∧ SameFacts ledger found := by
  simp only [releaseReservation, bind_eq_ok, orRaise_eq_ok, pure_eq_ok] at h
  obtain ⟨ledger, hledger, rfl⟩ := h
  refine kept_of_insert hledger (Dict.get?_insert _ _ · _) ?_ hfound
  exact ⟨rfl, rfl, rfl, rfl⟩

lemma kept_of_cancelled {payload : ReservationCancelledPayload}
    (h : applyReservationCancelled state payload = .ok state')
    (hfound : state'.ledgers.get? t = some found) :
    ∃ ledger, state.ledgers.get? t = some ledger ∧ SameFacts ledger found := by
  simp only [applyReservationCancelled, reservation, bind_eq_ok, orRaise_eq_ok, raiseIf_eq_ok,
    exists_const] at h
  obtain ⟨active, -, -, h⟩ := h
  cases hprovider : active.provider with
  | none =>
    rw [hprovider] at h
    exact kept_of_release h hfound
  | some provider =>
    simp only [hprovider, releaseReservation, bind_eq_ok, orRaise_eq_ok, pure_eq_ok,
      Dict.get?_insert_self, Option.some.injEq] at h
    obtain ⟨ledger, hledger, _, rfl, rfl⟩ := h
    refine kept_of_insert hledger (Dict.get?_insert_insert _ _ · _ _) ?_ hfound
    exact ⟨rfl, rfl, rfl, rfl⟩

lemma settled_of_work {payload : WorkSettledPayload}
    (h : applyWorkSettled state payload = .ok state') :
    AccountEffect state state' (.workSettled payload) := by
  simp only [applyWorkSettled, settle, reservation, bind_eq_ok, orRaise_eq_ok, raiseIf_eq_ok,
    exists_const, pure_eq_ok] at h
  obtain ⟨active, hactive, -, -, -, ledger, hledger, rfl⟩ := h
  exact .settled payload.reservationId active ledger _ payload.actual none (fun _ => rfl)
    rfl hactive
    hledger (Dict.get?_insert _ _ · _) rfl (List.append_nil _).symm
    (by simp [Settlement.violates]) rfl

lemma settled_of_provider {payload : ProviderAttemptSettledPayload}
    (h : applyProviderSettlement header state payload = .ok state') :
    AccountEffect state state' (.providerAttemptSettled payload) := by
  simp only [applyProviderSettlement, settle, reservation, bind_eq_ok, orRaise_eq_ok, raiseIf_eq_ok,
    exists_const, pure_eq_ok] at h
  obtain ⟨active, hactive, provider, -, -, trial, -, -, -, settled, ⟨ledger, hledger, rfl⟩, ledger',
    hledger', rfl⟩ := h
  rw [Dict.get?_insert_self, Option.some.injEq] at hledger'
  subst hledger'
  exact .settled payload.reservationId active ledger _ payload.attempt.chargedResources
    (some payload.attempt) (fun _ => rfl) rfl hactive hledger
    (Dict.get?_insert_insert _ _ · _ _) rfl
    rfl (by simp [Settlement.violates, Bool.or_assoc]) rfl

variable [CampaignCanonical]

theorem AccountEffect.of_apply (h : applyCampaignEvent header state event = .ok state') :
    AccountEffect state state' event.payload := by
  unfold applyCampaignEvent at h
  cases hp : event.payload with
  | reservationCreated payload =>
    rw [hp] at h
    obtain ⟨-, -, ledger, hledger, -, rfl⟩ := applyReservationCreated_eq_ok h
    refine .kept (fun _ => rfl) rfl fun _ _ hfound => ?_
    refine kept_of_insert hledger (Dict.get?_insert _ _ · _) ?_ hfound
    exact ⟨rfl, rfl, rfl, rfl⟩
  | reservationDispatched payload =>
    simp only [hp, applyReservationDispatched, reservation, bind_eq_ok, orRaise_eq_ok,
      raiseIf_eq_ok, exists_const, pure_eq_ok] at h
    obtain ⟨active, -, -, rfl⟩ := h
    exact .kept (fun _ => rfl) rfl fun _ ledger hledger => ⟨ledger, hledger, .refl ledger⟩
  | reservationCancelled payload =>
    rw [hp] at h
    exact .kept (fun _ => rfl) rfl fun _ _ => kept_of_cancelled h
  | workSettled payload =>
    rw [hp] at h
    exact settled_of_work h
  | providerAttemptSettled payload =>
    rw [hp] at h
    exact settled_of_provider h
  | trialOutcomeRecorded payload =>
    simp only [hp, applyTrialOutcome, bind_eq_ok, orRaise_eq_ok, raiseIf_eq_ok, exists_const,
      pure_eq_ok, Option.not_isSome_iff_eq_none] at h
    obtain ⟨trial, -, ledger, hledger, hopen, -, task, -, -, runIds, -, _, -, rfl⟩ := h
    exact .ended payload.trialId payload.outcome ledger (fun _ => rfl) rfl hledger hopen
      (Dict.get?_insert _ _ · _)
  | budgetStopped payload =>
    rw [hp] at h
    obtain ⟨_, _, rfl⟩ := applyBudgetStopped_eq_ok h
    exact .kept (fun _ => rfl) rfl fun _ ledger hledger => ⟨ledger, hledger, .refl ledger⟩

/-! ### Ledgers as tallies -/

/-- The state of a record prefix, with every settlement attributed by the reservations `own`. -/
structure Attributed (own : Identifier → Option ReservationCreatedPayload)
    (payloads : List CampaignEventPayload) (state : CampaignProjection) : Prop where
  active : ∀ k active, state.reservations.get? k = some active →
    ∃ created, own k = some created ∧ created.trialId = active.trialId ∧
      created.claim = active.claim
  tallied : ∀ t ledger, state.ledgers.get? t = some ledger → Tallied (tally own payloads t) ledger
  outcome : ∀ t ledger, state.ledgers.get? t = some ledger →
    ∀ outcome, ledger.outcome = some outcome ↔
      ∃ payload ∈ payloads, payload.outcome? = some (t, outcome)

omit [CampaignCanonical] in
lemma tally_concat (own : Identifier → Option ReservationCreatedPayload)
    (payloads : List CampaignEventPayload) (payload : CampaignEventPayload) (t : Identifier) :
    tally own (payloads ++ [payload]) t = tally own payloads t ++
      ((settlement? own payload).toList.filter fun settlement => settlement.trialId = t) := by
  rw [tally, List.filterMap_append, List.filter_append, ← tally]
  cases hsettlement : settlement? own payload <;> simp [hsettlement]

variable {payloads : List CampaignEventPayload}

omit [CampaignCanonical] in
lemma exists_outcome_concat {payload : CampaignEventPayload}
    {entry : Identifier × TrialRunOutcome} :
    (∃ p ∈ payloads ++ [payload], p.outcome? = some entry) ↔
      (∃ p ∈ payloads, p.outcome? = some entry) ∨ payload.outcome? = some entry := by
  simp only [List.mem_append, List.mem_singleton, or_and_right, exists_or, exists_eq_left]

lemma attributed_active {own : Identifier → Option ReservationCreatedPayload}
    (h : Attributed own payloads state)
    (hstep : applyCampaignEvent header state event = .ok state')
    (hown : ∀ created, event.payload = .reservationCreated created →
      own created.reservationId = some created) :
    ∀ k active, state'.reservations.get? k = some active →
      ∃ created, own k = some created ∧ created.trialId = active.trialId ∧
        created.claim = active.claim := by
  intro k active hactive
  rcases mem_reservations_step hstep hactive with ⟨hbefore, -⟩ | ⟨created, hcreated, rfl, rfl⟩ |
    ⟨_, before, -, hbefore, rfl⟩
  · exact h.active k active hbefore
  · exact ⟨created, hown created hcreated, rfl, rfl⟩
  · exact h.active k before hbefore

/-- An accepted event keeps the attribution. -/
lemma attributed_step {own : Identifier → Option ReservationCreatedPayload}
    (h : Attributed own payloads state)
    (hstep : applyCampaignEvent header state event = .ok state')
    (hown : ∀ created, event.payload = .reservationCreated created →
      own created.reservationId = some created) :
    Attributed own (payloads ++ [event.payload]) state' := by
  refine ⟨attributed_active h hstep hown, ?_, ?_⟩
  · intro t ledger' hget
    rw [tally_concat]
    cases AccountEffect.of_apply hstep with
    | kept hsettlement _ hledgers =>
      obtain ⟨ledger, hledger, hsame⟩ := hledgers t ledger' hget
      rw [hsettlement, Option.toList_none, List.filter_nil, List.append_nil]
      exact (h.tallied t ledger hledger).congr hsame.committed hsame.attempts hsame.violation
    | settled k active ledger found actual attempt hsettlement _ hactive hledger hledgers hcommitted
        hattempts hviolation _ =>
      obtain ⟨created, hcreated, htrial, hclaim⟩ := h.active k active hactive
      rw [hsettlement, hcreated, Option.map_some, Option.toList_some]
      rw [hledgers] at hget
      split_ifs at hget with ht
      · obtain rfl := Option.some.inj hget
        rw [List.filter_cons_of_pos (by simpa [htrial] using ht.symm), List.filter_nil, ht]
        refine (h.tallied _ ledger hledger).concat _ hcommitted hattempts ?_
        rw [hviolation, htrial, hclaim]
      · rw [List.filter_cons_of_neg (by simpa [htrial] using Ne.symm ht), List.filter_nil,
          List.append_nil]
        exact h.tallied t ledger' hget
    | ended t₀ outcome ledger hsettlement _ hledger _ hledgers =>
      rw [hsettlement, Option.toList_none, List.filter_nil, List.append_nil]
      rw [hledgers] at hget
      split_ifs at hget with ht
      · obtain rfl := Option.some.inj hget
        rw [ht]
        exact (h.tallied t₀ ledger hledger).congr rfl rfl rfl
      · exact h.tallied t ledger' hget
  · intro t ledger' hget outcome
    rw [exists_outcome_concat]
    cases AccountEffect.of_apply hstep with
    | kept _ houtcome hledgers =>
      obtain ⟨ledger, hledger, hsame⟩ := hledgers t ledger' hget
      rw [houtcome, hsame.outcome, h.outcome t ledger hledger outcome]
      simp
    | settled k active ledger found actual attempt _ houtcome hactive hledger hledgers _ _ _
        hended =>
      rw [houtcome]
      rw [hledgers] at hget
      split_ifs at hget with ht
      · obtain rfl := Option.some.inj hget
        rw [hended, ht, h.outcome _ ledger hledger outcome]
        simp
      · rw [h.outcome t ledger' hget outcome]
        simp
    | ended t₀ recorded ledger _ houtcome hledger hopen hledgers =>
      rw [houtcome]
      rw [hledgers] at hget
      split_ifs at hget with ht
      · subst ht
        obtain rfl := Option.some.inj hget
        have hnone : ¬ ∃ p ∈ payloads, p.outcome? = some (t, outcome) := by
          rw [← h.outcome t ledger hledger outcome, hopen]
          simp
        simp only [hnone, false_or, Option.some.injEq, Prod.mk.injEq, true_and]
      · rw [h.outcome t ledger' hget outcome]
        simp [Ne.symm ht]

omit [CampaignCanonical] in
lemma initial_attributed (header : CampaignHeader)
    (own : Identifier → Option ReservationCreatedPayload) :
    Attributed own [] (CampaignProjection.initial header) where
  active k active h := by
    change (Dict.empty : Dict Identifier ReservationLedger).get? k = some active at h
    cases h
  tallied t ledger h := by
    rw [initial_ledger h]
    exact ⟨fun item => MutableResources.get_zero item, rfl, rfl⟩
  outcome t ledger h outcome := by
    rw [initial_ledger h]
    simp

omit [CampaignCanonical] in
lemma owner_of_mem (h : ReservationsDistinct payloads)
    {created : ReservationCreatedPayload} (hmem : .reservationCreated created ∈ payloads) :
    owner payloads created.reservationId = some created := by
  refine (Schedule.find?_key_eq_some h).mpr ⟨?_, rfl⟩
  exact List.mem_filterMap.mpr ⟨_, hmem, rfl⟩

/-- Where identifiers are used once, the ledgers are the tallies of the record. -/
theorem replayCampaign_attributed {events : List CampaignEvent}
    (hdistinct : ReservationsDistinct (events.map CampaignEvent.payload))
    (h : replayCampaign header events = .ok state) :
    Attributed (owner (events.map CampaignEvent.payload)) (events.map CampaignEvent.payload)
      state := by
  have hrun := foldSteps_induction
    (P := fun (pre : List CampaignEvent) (state : CampaignProjection) =>
      (∀ event ∈ pre, event ∈ events) →
        Attributed (owner (events.map CampaignEvent.payload)) (pre.map CampaignEvent.payload) state)
    ?_ (fun _ => initial_attributed header _) h
  · exact hrun fun _ hevent => hevent
  · intro pre m event m' ih hstep hsub
    rw [List.map_append, List.map_singleton]
    refine attributed_step (ih fun e he => hsub e (List.mem_append_left _ he)) hstep ?_
    intro created hcreated
    refine owner_of_mem hdistinct ?_
    rw [← hcreated]
    exact List.mem_map_of_mem (hsub event (by simp))

omit [CampaignCanonical] in
lemma owner_perm {payloads payloads' : List CampaignEventPayload}
    (hdistinct : ReservationsDistinct payloads) (hperm : payloads'.Perm payloads) :
    owner payloads' = owner payloads := by
  have hcreated : (createdReservations payloads').Perm (createdReservations payloads) :=
    hperm.filterMap _
  have hdistinct' : ReservationsDistinct payloads' := (hcreated.map _).nodup_iff.mpr hdistinct
  funext k
  apply Option.ext
  intro created
  rw [owner, owner, Schedule.find?_key_eq_some hdistinct', Schedule.find?_key_eq_some hdistinct,
    hcreated.mem_iff]

/-- Two records with the same events, whose attempts of each trial are in the same order, leave the
same facts in every ledger. -/
theorem sameFacts_of_perm {events events' : List CampaignEvent}
    (hdistinct : ReservationsDistinct (events.map CampaignEvent.payload))
    (hperm : (events'.map CampaignEvent.payload).Perm (events.map CampaignEvent.payload))
    (hattempts : ∀ t, trialAttempts (events'.map CampaignEvent.payload) t =
      trialAttempts (events.map CampaignEvent.payload) t)
    (h : replayCampaign header events = .ok state)
    (h' : replayCampaign header events' = .ok state')
    (hledger : state.ledgers.get? t = some ledger)
    (hledger' : state'.ledgers.get? t = some ledger') : SameFacts ledger ledger' := by
  have hdistinct' : ReservationsDistinct (events'.map CampaignEvent.payload) :=
    ((hperm.filterMap _).map _).nodup_iff.mpr hdistinct
  have hat := replayCampaign_attributed hdistinct h
  have hat' := replayCampaign_attributed hdistinct' h'
  have hordered := hattempts t
  rw [trialAttempts, trialAttempts] at hordered
  rw [owner_perm hdistinct hperm] at hat' hordered
  obtain ⟨hcommitted, hsame, hviolation⟩ := (hat.tallied t ledger hledger).perm
    (hat'.tallied t ledger' hledger') ((hperm.filterMap _).filter _) hordered
  refine ⟨hcommitted, hsame, hviolation, ?_⟩
  apply Option.ext
  intro outcome
  rw [hat'.outcome t ledger' hledger' outcome, hat.outcome t ledger hledger outcome]
  simp only [hperm.mem_iff]

/-! ### Reports -/

section Report

variable [ScheduleCanonical] {reportHeader : ReportHeader} {recordDigest : Digest}
  {events : List CampaignEvent} {report : CampaignReport}

/-- How a record becomes a report. -/
structure Projected (header : ReportHeader) (recordDigest : Digest) (events : List CampaignEvent)
    (report : CampaignReport) (state : CampaignProjection) (resources : CampaignResources) :
    Prop where
  replayed : replayCampaign header.toCampaignHeader events = .ok state
  reports : header.reportTrials.mapM (trialReport state) = .ok report.trials
  committed : state.committed.snapshot = .ok resources
  built : buildCampaignReport header report.trials recordDigest state.budgetViolation resources =
    .ok report

lemma projected_of_report
    (h : projectCampaignReport reportHeader recordDigest events = .ok report) :
    ∃ state resources, Projected reportHeader recordDigest events report state resources := by
  simp only [projectCampaignReport, bind_eq_ok] at h
  obtain ⟨state, hstate, _, -, _, -, reports, hreports, resources, hresources, hbuild⟩ := h
  obtain ⟨rfl, -⟩ := buildCampaignReport_eq_ok hbuild
  exact ⟨state, resources, hstate, hreports, hresources, hbuild⟩

variable {resources : CampaignResources}

lemma Projected.reportsOf
    (h : Projected reportHeader recordDigest events report state resources) :
    ReportsOf reportHeader state report.trials :=
  (mapM_eq_ok_iff.mp h.reports).imp fun _ _ hreport => repeats_of_trialReport hreport

omit [CampaignCanonical] [ScheduleCanonical] in
/-- The report of a trial reads only these facts. -/
lemma trialReport_congr {trial : ReportTrial}
    (hledger : state.ledgers.get? trial.trialId = some ledger)
    (hledger' : state'.ledgers.get? trial.trialId = some ledger') (h : SameFacts ledger ledger') :
    trialReport state' trial = trialReport state trial := by
  simp only [trialReport, hledger, hledger', h.committed, h.attempts, h.violation, h.outcome,
    orRaise, ok_bind]

omit [CampaignCanonical] in
/-- The digest of the record is copied and nothing else is derived from it. -/
lemma build_recordDigest {reports : List TrialReport} {budgetViolation : Bool}
    (h : buildCampaignReport reportHeader reports recordDigest budgetViolation resources =
      .ok report) (recordDigest' : Digest) :
    buildCampaignReport reportHeader reports recordDigest' budgetViolation resources =
      .ok { report with campaignRecordDigest := recordDigest' } := by
  simp only [buildCampaignReport, bind_eq_ok, pure_eq_ok] at h ⊢
  obtain ⟨tasks, htasks, devices, hdevices, models, hmodels, efforts, hefforts, categories,
    hcategories, rows, hrows, funnel, hfunnel, accounting, haccounting, tiers, htiers, spend,
    hspend, _, hvalid, rfl⟩ := h
  exact ⟨tasks, htasks, devices, hdevices, models, hmodels, efforts, hefforts, categories,
    hcategories, rows, hrows, funnel, hfunnel, accounting, haccounting, tiers, htiers, spend,
    hspend, ⟨⟩, hvalid, rfl⟩

/-- Records with the same events and the same order of attempts in each trial have the same report,
the digest of the record apart. -/
theorem report_of_perm {events' : List CampaignEvent} {recordDigest' : Digest}
    {report' : CampaignReport}
    (hdistinct : ReservationsDistinct (events.map CampaignEvent.payload))
    (hperm : (events'.map CampaignEvent.payload).Perm (events.map CampaignEvent.payload))
    (hattempts : ∀ t, trialAttempts (events'.map CampaignEvent.payload) t =
      trialAttempts (events.map CampaignEvent.payload) t)
    (h : projectCampaignReport reportHeader recordDigest events = .ok report)
    (h' : projectCampaignReport reportHeader recordDigest' events' = .ok report') :
    report' = { report with campaignRecordDigest := recordDigest' } := by
  obtain ⟨state, resources, hp⟩ := projected_of_report h
  obtain ⟨state', resources', hp'⟩ := projected_of_report h'
  have hsame : ∀ trial ∈ reportHeader.reportTrials,
      trialReport state' trial = trialReport state trial := by
    intro trial htrial
    obtain ⟨ledger, hledger⟩ := ledger_of_scheduled hp.replayed (scheduled_of_mem htrial)
    obtain ⟨ledger', hledger'⟩ := ledger_of_scheduled hp'.replayed (scheduled_of_mem htrial)
    exact trialReport_congr hledger hledger'
      (sameFacts_of_perm hdistinct hperm hattempts hp.replayed hp'.replayed hledger hledger')
  have htrials : report'.trials = report.trials := by
    have hreports' := hp'.reports
    rw [mapM_congr hsame, hp.reports] at hreports'
    exact (Except.ok.inj hreports').symm
  have hcommitted : state'.committed = state.committed := by
    refine ResourceVector.ext_get ?_
    intro item
    rw [← hp.reportsOf.reportedAmount_eq hp.replayed item,
      ← hp'.reportsOf.reportedAmount_eq hp'.replayed item, htrials]
  have hviolation : state'.budgetViolation = state.budgetViolation := by
    rw [hp.reportsOf.violation_eq hp.replayed, hp'.reportsOf.violation_eq hp'.replayed, htrials]
  have hresources : resources' = resources := by
    have := hp'.committed
    rw [hcommitted, hp.committed] at this
    exact (Except.ok.inj this).symm
  have hbuilt' := hp'.built
  rw [htrials, hviolation, hresources, build_recordDigest hp.built recordDigest'] at hbuilt'
  exact (Except.ok.inj hbuilt').symm

/-! ### Faithful reports -/

/-- What the sections of a report say about the trials and about the ledger. -/
structure FaithfulReport (header : ProductHeader) (events : List CampaignEvent)
    (report : CampaignReport) : Prop where
  scheduled : report.trials.map TrialReport.trial = header.reportTrials
  tasks : Partitions report.trials TrialReport.release report.taskAggregates
    TaskAggregate.taskReleaseDigest TaskAggregate.toGroupTotals
  devices : Partitions report.trials TrialReport.device report.deviceAggregates
    DeviceAggregate.deviceCapability DeviceAggregate.toGroupTotals
  models : Partitions report.trials TrialReport.route report.modelAggregates
    (fun aggregate => aggregate.route.routeId) ModelAggregate.toGroupTotals
  efforts : Partitions report.trials (fun report => (report.route, report.effort))
    report.modelEffortAggregates (fun aggregate => (aggregate.routeId, aggregate.reasoningEffort))
    ModelEffortAggregate.toGroupTotals
  task_sums : ∀ amount, (report.taskAggregates.map fun aggregate =>
    aggregate.toGroupTotals.amount amount).sum = report.totals.amount amount
  device_sums : ∀ amount, (report.deviceAggregates.map fun aggregate =>
    aggregate.toGroupTotals.amount amount).sum = report.totals.amount amount
  model_sums : ∀ amount, (report.modelAggregates.map fun aggregate =>
    aggregate.toGroupTotals.amount amount).sum = report.totals.amount amount
  effort_sums : ∀ amount, (report.modelEffortAggregates.map fun aggregate =>
    aggregate.toGroupTotals.amount amount).sum = report.totals.amount amount
  ledger : ∃ state, replayCampaign header.toCampaignHeader events = .ok state ∧
    ∀ item, (report.resources.get item : Int) = state.committed.get item
  rows : ∀ row ∈ report.successAtK, row.Counts header report.trials
  rows_exist : ∀ routeId ∈ header.routeIds, ∀ effort ∈ header.reasoningEfforts, ∀ k, 1 ≤ k →
    k ≤ header.repetitions → ∃ row ∈ report.successAtK,
      row.routeId = routeId ∧ row.reasoningEffort = effort ∧ row.k = k
  rows_mono : ∀ row ∈ report.successAtK, ∀ row' ∈ report.successAtK,
    row'.routeId = row.routeId → row'.reasoningEffort = row.reasoningEffort → row.k ≤ row'.k →
      row.success.numerator ≤ row'.success.numerator
  rows_last : ∀ row ∈ report.successAtK, row.k = header.repetitions →
    row.success.numerator =
      (solvedAtAll header report.trials row.routeId row.reasoningEffort).length
  funnel : ∀ row ∈ report.evaluatorFunnel,
    row.passed.numerator ≤ row.reached.numerator ∧
      row.reached.numerator ≤
        (report.trials.filter fun trial => trial.release = row.taskReleaseDigest).length ∧
      row.reached.denominator =
        (report.trials.filter fun trial => trial.release = row.taskReleaseDigest).length ∧
      row.passed.denominator = row.reached.denominator

lemma faithful_of_projected {header : ProductHeader}
    (h : Projected header.toReportHeader recordDigest events report state resources) :
    FaithfulReport header events report := by
  have hderived := derived_of_build h.built
  have htrials := h.reportsOf.trials
  have htotals := amount_of_groupTotals hderived.totals
  constructor
  case scheduled => exact htrials
  case tasks => exact hderived.task_partition
  case devices => exact hderived.device_partition
  case models => exact hderived.model_partition
  case efforts => exact hderived.effort_partition
  case task_sums =>
    intro amount
    rw [hderived.task_partition.sum_amount, htotals]
  case device_sums =>
    intro amount
    rw [hderived.device_partition.sum_amount, htotals]
  case model_sums =>
    intro amount
    rw [hderived.model_partition.sum_amount, htotals]
  case effort_sums =>
    intro amount
    rw [hderived.effort_partition.sum_amount, htotals]
  case ledger =>
    refine ⟨state, h.replayed, ?_⟩
    intro item
    rw [← h.reportsOf.reportedAmount_eq h.replayed item]
    exact Int.ofNat_inj.mpr (htotals (.resource item))
  case rows =>
    intro row hrow
    exact hderived.row_counts htrials hrow
  case rows_exist =>
    intro routeId hroute effort heffort k hpos hk
    exact hderived.exists_row htrials hroute heffort hpos hk
  case rows_mono =>
    intro row hrow row' hrow' hroute heffort hk
    rw [(hderived.row_counts htrials hrow).numerator, (hderived.row_counts htrials hrow').numerator,
      hroute, heffort]
    exact solvedTasks_mono header report.trials row.routeId row.reasoningEffort hk
  case rows_last =>
    intro row hrow hk
    rw [(hderived.row_counts htrials hrow).numerator, hk, solvedTasks_repetitions htrials]
  case funnel =>
    intro row hrow
    exact hderived.funnel_le hrow

theorem campaign_report_faithful (header : ProductHeader) (recordDigest : Digest)
    (events : List CampaignEvent) (report : CampaignReport)
    (h : projectCampaignReport header.toReportHeader recordDigest events = .ok report) :
    FaithfulReport header events report ∧
      (ReservationsDistinct (events.map CampaignEvent.payload) →
        ∀ recordDigest' events' report',
          (events'.map CampaignEvent.payload).Perm (events.map CampaignEvent.payload) →
          (∀ t, trialAttempts (events'.map CampaignEvent.payload) t =
            trialAttempts (events.map CampaignEvent.payload) t) →
          projectCampaignReport header.toReportHeader recordDigest' events' = .ok report' →
          report' = { report with campaignRecordDigest := recordDigest' }) := by
  obtain ⟨state, resources, hp⟩ := projected_of_report h
  refine ⟨faithful_of_projected hp, ?_⟩
  intro hdistinct recordDigest' events' report' hperm hattempts h'
  exact report_of_perm hdistinct hperm hattempts h h'

end Report

omit [CampaignCanonical] in
/-- Without provider settlements there are no attempts to order. -/
lemma trialAttempts_eq_nil
    (h : ∀ payload ∈ payloads, ∀ settled, payload ≠ .providerAttemptSettled settled)
    (t : Identifier) : trialAttempts payloads t = [] := by
  rw [trialAttempts, List.filterMap_eq_nil_iff]
  intro settlement hsettlement
  obtain ⟨payload, hpayload, heq⟩ := List.mem_filterMap.mp (List.mem_of_mem_filter hsettlement)
  cases payload with
  | providerAttemptSettled settled => exact absurd rfl (h _ hpayload settled)
  | workSettled settled =>
    simp only [settlement?, Option.map_eq_some_iff] at heq
    obtain ⟨created, -, rfl⟩ := heq
    rfl
  | reservationCreated _ | reservationDispatched _ | reservationCancelled _
  | trialOutcomeRecorded _ | budgetStopped _ => cases heq

end Order

/-! ### A reservation identifier that is used twice -/

section Reused

local instance reusedCanonical : Canonical := plainCanonical
local instance reusedCampaignCanonical : CampaignCanonical := plainCampaignCanonical
local instance reusedScheduleCanonical : ScheduleCanonical := plainScheduleCanonical

def taskTrial (trialId release digest : String) : ScheduledTrial where
  trialId
  digest
  binding := {
    campaignDigest := "d-camp", taskReleaseDigest := release, taskFamily := "adder",
    environmentDigest := "d-env"
    harness := { providerProfileDigest := "d-prof", providerConfigDigest := "d-conf",
                 scaffoldDigest := "d-scaf", digest := "d-harn" }
    routeId := "route", requestedModel := "m0", reasoningEffort := "low",
    serviceTier := "default", observedInputTokenFloor := 10, pairedSeed := "s0",
    repetitionIndex := 0 }

/-- One trial for each of two tasks. -/
def twoTaskReport : ProductHeader where
  toCampaignHeader := { oneTrialHeader with
    tasks := [{ taskReleaseDigest := "d-one", evaluatorStageIds := ["gate"] },
      { taskReleaseDigest := "d-two", evaluatorStageIds := ["gate"] }]
    schedule := {
      trials := [taskTrial "trial_0" "d-one" "d-t0", taskTrial "trial_1" "d-two" "d-t1"]
      digest := "d-camp/d-models/d-one/d-two/d-t0/d-t1" }
    tasks_nodup := by decide }
  scope := .expandedBreadth
  serviceTier := "default"
  repetitions := 1
  modelSetDigest := "d-models"
  routes := [{
    routeId := "route", requestedModel := "m0", providerReportedModel := "m0",
    referenceKind := .snapshot, categories := [.codingAgent] }]
  reportTasks := [
    { taskReleaseDigest := "d-one", evaluatorStageIds := ["gate"], taskFamily := "adder",
      role := .rtlGeneration },
    { taskReleaseDigest := "d-two", evaluatorStageIds := ["gate"], taskFamily := "adder",
      role := .rtlGeneration }]
  orderedTaskReleaseDigests := ["d-one", "d-two"]
  reportTrials := [
    { taskTrial "trial_0" "d-one" "d-t0" with
      ordinal := 0, taskOrderIndex := 0, deviceCapability := .rtlSimulation },
    { taskTrial "trial_1" "d-two" "d-t1" with
      ordinal := 1, taskOrderIndex := 1, deviceCapability := .rtlSimulation }]
  tasks_eq := by decide
  trials_eq := by decide
  schedule_valid := by decide
  schedule_digest := by decide
  task_mem := by decide
  route_mem := by decide
  profile_eq := by decide
  config_eq := by decide
  tier_eq := by decide
  pairedTrialSeeds := ["s0"]
  routeIds := ["route"]
  reasoningEfforts := ["low"]
  repetitions_eq := rfl
  seeds_nodup := by decide
  routeIds_nodup := by decide
  efforts_nodup := by decide
  product := by decide
  repetition_at := by decide

def failedOutcome (trialId : Identifier) : CampaignEventPayload :=
  .trialOutcomeRecorded {
    trialId
    outcome := {
      disposition := .failedBeforeRun
      terminalReason := .infrastructureFailure
      providerSpend := .unknown .providerReportingUnavailable } }

/-- Both trials reserve work under the identifier `r`, one after the other. -/
def reusedPayloads (first second : CampaignResources) : List CampaignEventPayload :=
  [.reservationCreated { reservationId := "r", trialId := "trial_0", claim := turnResources 3 },
   .reservationDispatched { reservationId := "r" },
   .workSettled { reservationId := "r", actual := first },
   .reservationCreated { reservationId := "r", trialId := "trial_1", claim := turnResources 3 },
   .reservationDispatched { reservationId := "r" },
   .workSettled { reservationId := "r", actual := second },
   failedOutcome "trial_0",
   failedOutcome "trial_1"]

def numberEvents (payloads : List CampaignEventPayload) : List CampaignEvent :=
  payloads.zipIdx.map fun entry =>
    { eventId := entry.2, sequence := entry.2, payload := entry.1 }

lemma numberEvents_payload (payloads : List CampaignEventPayload) :
    (numberEvents payloads).map CampaignEvent.payload = payloads := by
  rw [numberEvents, List.map_map]
  exact List.zipIdx_map_fst 0 payloads

lemma reusedPayloads_perm (first second : CampaignResources) :
    (reusedPayloads first second).Perm (reusedPayloads second first) := by
  have hexchange : ∀ (a b c d : CampaignEventPayload) (rest : List CampaignEventPayload),
      (a :: c :: d :: b :: rest).Perm (b :: c :: d :: a :: rest) := by
    intro a b c d rest
    have hmiddle : ∀ e : CampaignEventPayload, ([c, d] ++ e :: rest).Perm (e :: ([c, d] ++ rest)) :=
      fun _ => List.perm_middle
    calc (a :: c :: d :: b :: rest).Perm (a :: b :: c :: d :: rest) := (hmiddle b).cons a
      _ |>.Perm (b :: a :: c :: d :: rest) := .swap b a _
      _ |>.Perm (b :: c :: d :: a :: rest) := (hmiddle a).symm.cons b
  exact .cons _ (.cons _ (hexchange _ _ _ _ _))

def turnsByTask (report : CampaignReport) : List Nat :=
  report.taskAggregates.map fun aggregate => aggregate.resources.turns

/-- Two settlements exchange their places and with them their trials. -/
theorem report_depends_on_order :
    ¬ ∀ (header : ProductHeader) (recordDigest : Digest) (events events' : List CampaignEvent)
        (report report' : CampaignReport),
        projectCampaignReport header.toReportHeader recordDigest events = .ok report →
        (events'.map CampaignEvent.payload).Perm (events.map CampaignEvent.payload) →
        (∀ t, trialAttempts (events'.map CampaignEvent.payload) t =
          trialAttempts (events.map CampaignEvent.payload) t) →
        projectCampaignReport header.toReportHeader recordDigest events' = .ok report' →
        report' = report := by
  intro hclaim
  have hok : (projectCampaignReport twoTaskReport.toReportHeader "d-record"
      (numberEvents (reusedPayloads (turnResources 1) (turnResources 2)))).toOption.map
        turnsByTask = some [1, 2] := by
    decide +kernel
  have hok' : (projectCampaignReport twoTaskReport.toReportHeader "d-record"
      (numberEvents (reusedPayloads (turnResources 2) (turnResources 1)))).toOption.map
        turnsByTask = some [2, 1] := by
    decide +kernel
  cases hreport : projectCampaignReport twoTaskReport.toReportHeader "d-record"
      (numberEvents (reusedPayloads (turnResources 1) (turnResources 2))) with
  | error e =>
    rw [hreport] at hok
    cases hok
  | ok report =>
    cases hreport' : projectCampaignReport twoTaskReport.toReportHeader "d-record"
        (numberEvents (reusedPayloads (turnResources 2) (turnResources 1))) with
    | error e =>
      rw [hreport'] at hok'
      cases hok'
    | ok report' =>
      have hsame := hclaim twoTaskReport "d-record" _ _ report report' hreport
        (by
          rw [numberEvents_payload, numberEvents_payload]
          exact reusedPayloads_perm _ _)
        (by
          intro t
          rw [numberEvents_payload, numberEvents_payload,
            trialAttempts_eq_nil (by simp [reusedPayloads, failedOutcome]),
            trialAttempts_eq_nil (by simp [reusedPayloads, failedOutcome])])
        hreport'
      rw [hreport] at hok
      rw [hreport', hsame] at hok'
      exact absurd (hok.symm.trans hok') (by decide)

/-- One unit of work of a trial. -/
def workPayloads (reservationId trialId : Identifier) (actual : CampaignResources) :
    List CampaignEventPayload :=
  [.reservationCreated { reservationId, trialId, claim := turnResources 3 },
   .reservationDispatched { reservationId },
   .workSettled { reservationId, actual }]

/-- With an identifier for each reservation either trial may come first. -/
theorem twoTaskReport_faithful :
    ∃ report, projectCampaignReport twoTaskReport.toReportHeader "d-record"
        (numberEvents (workPayloads "r0" "trial_0" (turnResources 1) ++
          workPayloads "r1" "trial_1" (turnResources 2) ++
          [failedOutcome "trial_0", failedOutcome "trial_1"])) = .ok report ∧
      FaithfulReport twoTaskReport
        (numberEvents (workPayloads "r0" "trial_0" (turnResources 1) ++
          workPayloads "r1" "trial_1" (turnResources 2) ++
          [failedOutcome "trial_0", failedOutcome "trial_1"])) report ∧
      projectCampaignReport twoTaskReport.toReportHeader "d-other"
        (numberEvents (workPayloads "r1" "trial_1" (turnResources 2) ++
          workPayloads "r0" "trial_0" (turnResources 1) ++
          [failedOutcome "trial_0", failedOutcome "trial_1"])) =
        .ok { report with campaignRecordDigest := "d-other" } := by
  obtain ⟨report, hreport⟩ := Except.exists_of_isOk
    (show (projectCampaignReport twoTaskReport.toReportHeader "d-record"
        (numberEvents (workPayloads "r0" "trial_0" (turnResources 1) ++
          workPayloads "r1" "trial_1" (turnResources 2) ++
          [failedOutcome "trial_0", failedOutcome "trial_1"]))).isOk = true by decide +kernel)
  obtain ⟨report', hreport'⟩ := Except.exists_of_isOk
    (show (projectCampaignReport twoTaskReport.toReportHeader "d-other"
        (numberEvents (workPayloads "r1" "trial_1" (turnResources 2) ++
          workPayloads "r0" "trial_0" (turnResources 1) ++
          [failedOutcome "trial_0", failedOutcome "trial_1"]))).isOk = true by decide +kernel)
  obtain ⟨hfaithful, horder⟩ := campaign_report_faithful twoTaskReport "d-record" _ report hreport
  refine ⟨report, hreport, hfaithful, ?_⟩
  rw [hreport', horder ?_ "d-other" _ report' ?_ ?_ hreport']
  · rw [numberEvents_payload]
    unfold ReservationsDistinct
    decide +kernel
  · rw [numberEvents_payload, numberEvents_payload]
    exact List.perm_append_comm.append_right _
  · intro t
    rw [numberEvents_payload, numberEvents_payload,
      trialAttempts_eq_nil (by simp [workPayloads, failedOutcome]),
      trialAttempts_eq_nil (by simp [workPayloads, failedOutcome])]

end Reused

end EdaGym
