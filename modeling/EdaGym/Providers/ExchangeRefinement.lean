import EdaGym.Lib.Exchange
import EdaGym.Providers.PaidDispatch
import EdaGym.Providers.Responses
import Mathlib.Control.Traversable.Instances

/-!
# Provider calls refine the exchanges of two journals

The two journals of a trial refine the exchanges of `EdaGym.Lib.Exchange`: the run journal records
requests and responses, the campaign journal reserves, dispatches and settles them. Every piece of a
call, of a recovery and of another writer is a step of the exchanges, or none.
-/

namespace EdaGym

/-- What is known of the answer to a request. -/
abbrev AnswerFacts := ResponseFacts × Option UsageCounters

def ProviderRequestState.answer (request : ProviderRequestState) : Option AnswerFacts :=
  if request.status = none then none
  else some ({ model := request.providerReportedModel
               serviceTier := request.providerReportedServiceTier
               status := request.status }, request.usage.map UsageCounters.ofFact)

def ProviderAttemptRecord.answer (attempt : ProviderAttemptRecord) : Option AnswerFacts :=
  if attempt.disposition = .completed then
    some ({ model := attempt.providerReportedModel
            serviceTier := attempt.providerReportedServiceTier
            status := attempt.providerResponseStatus }, attempt.providerUsage)
  else none

/-- The exchange a reservation stands for, if it is a provider reservation of the trial. -/
def ReservationLedger.exchange (active : ReservationLedger) (trialId : Identifier) :
    Option (Identifier × Bool) :=
  if active.trialId = trialId then
    active.provider.map fun provider => (provider.requestKey, active.dispatched)
  else none

variable [Canonical]

/-- The exchanges of a trial, as its two journals know them. -/
def exchanges (trialId : Identifier) (state : CampaignProjection)
    (requests : Dict Identifier ProviderRequestState) :
    Exchanges Identifier Identifier AnswerFacts where
  requests k := (requests.get? k).map ProviderRequestState.answer
  opened i := (state.reservations.get? i).bind fun active => active.exchange trialId
  settled := (state.attempts trialId).map fun attempt => (attempt.requestKey, attempt.answer)

section View

variable {trialId : Identifier} {state state' : CampaignProjection}
  {requests : Dict Identifier ProviderRequestState} {i : Identifier} {active : ReservationLedger}

variable (trialId requests) in
lemma opened_of_get? (h : state.reservations.get? i = some active) :
    (exchanges trialId state requests).opened i = active.exchange trialId := by
  simp [exchanges, h]

variable {k : Identifier}

omit [Canonical] in
lemma exchange_eq_some {dispatched : Bool} :
    active.exchange trialId = some (k, dispatched) ↔
      active.For trialId k ∧ active.dispatched = dispatched := by
  rw [ReservationLedger.exchange, ReservationLedger.For]
  split_ifs with htrial
  · rw [Option.map_eq_some_iff]
    constructor
    · rintro ⟨provider, hprovider, heq⟩
      obtain ⟨rfl, rfl⟩ := Prod.mk.inj heq
      exact ⟨⟨htrial, provider, hprovider, rfl⟩, rfl⟩
    · rintro ⟨⟨-, provider, hprovider, rfl⟩, rfl⟩
      exact ⟨provider, hprovider, rfl⟩
  · constructor
    · intro h
      cases h
    · rintro ⟨⟨heq, -⟩, -⟩
      exact absurd heq htrial

/-- An open exchange is an active reservation for its request. -/
lemma opened_eq_some {dispatched : Bool} :
    (exchanges trialId state requests).opened i = some (k, dispatched) ↔
      ∃ active, state.reservations.get? i = some active ∧ active.For trialId k ∧
        active.dispatched = dispatched := by
  rw [exchanges, Option.bind_eq_some_iff]
  simp only [exchange_eq_some]

variable (trialId requests) in
lemma opened_insert (h : state'.reservations = state.reservations.insert i active) :
    (exchanges trialId state' requests).opened =
      Function.update (exchanges trialId state requests).opened i (active.exchange trialId) := by
  funext j
  simp only [exchanges, h, Dict.get?_insert, Function.update_apply]
  split_ifs <;> rfl

variable (trialId requests) in
lemma opened_erase (h : state'.reservations = state.reservations.erase i) :
    (exchanges trialId state' requests).opened =
      Function.update (exchanges trialId state requests).opened i none := by
  funext j
  simp only [exchanges, h, Dict.get?_erase, Function.update_apply]
  split_ifs <;> rfl

lemma requests_insert {request : ProviderRequestState} :
    (exchanges trialId state (requests.insert k request)).requests =
      Function.update (exchanges trialId state requests).requests k (some request.answer) := by
  funext j
  simp only [exchanges, Dict.get?_insert, Function.update_apply]
  split_ifs <;> rfl

lemma settled_of_same (h : SameAttempts state state') :
    (exchanges trialId state' requests).settled = (exchanges trialId state requests).settled := by
  simp only [exchanges, h.attempts]

lemma mem_settled {v : Option AnswerFacts} :
    (k, v) ∈ (exchanges trialId state requests).settled ↔
      ∃ attempt ∈ state.attempts trialId, attempt.requestKey = k ∧ attempt.answer = v := by
  simp only [exchanges, List.mem_map, Prod.mk.injEq]

end View

/-! ### Campaign events -/

section Campaign

variable [CampaignCanonical] {header : CampaignHeader} {trialId : Identifier}
  {state state' : CampaignProjection} {requests : Dict Identifier ProviderRequestState}

variable (requests) in
lemma step_created {payload : ReservationCreatedPayload} {provider : ProviderReservationBinding}
    (h : ReservationEffect header state state' (.reservationCreated payload))
    (htrial : payload.trialId = trialId) (hprovider : payload.provider = some provider) :
    Exchanges.Step (exchanges trialId state requests) (exchanges trialId state' requests) ∧
      (exchanges trialId state' requests).opened payload.reservationId =
        some (provider.requestKey, false) := by
  cases h with
  | created _ ledger hfresh hledger hvalid hreservations hattempts =>
    have hopened := opened_insert trialId requests hreservations
    simp only [ReservationLedger.exchange, htrial, hprovider, if_true, Option.map_some] at hopened
    obtain ⟨hfree, hlast⟩ := validateProviderReservation_eq_ok (hvalid provider hprovider)
    refine ⟨?_, by rw [hopened, Function.update_self]⟩
    have heq : exchanges trialId state' requests = { exchanges trialId state requests with
        opened := Function.update (exchanges trialId state requests).opened payload.reservationId
          (some (provider.requestKey, false)) } :=
      Exchanges.ext rfl hopened (settled_of_same hattempts)
    rw [heq]
    refine .reserve _ _ ?_ ?_ ?_
    · simp [exchanges, Dict.get?_eq_none_iff.mpr hfresh]
    · intro j d hj
      obtain ⟨active, hactive, hfor, -⟩ := opened_eq_some.mp hj
      exact hfree active (Dict.mem_values.mpr ⟨j, hactive⟩) (htrial ▸ hfor)
    · rintro ⟨v, hv⟩
      obtain ⟨attempt, hattempt, hkey, -⟩ := mem_settled.mp hv
      rw [← htrial, attempts_of_get? hledger] at hattempt
      have hne : ledger.attempts.filter (fun attempt => attempt.requestKey = provider.requestKey) ≠
          [] := List.ne_nil_of_mem (List.mem_filter.mpr ⟨hattempt, decide_eq_true hkey⟩)
      -- the last attempt for the request has failed, so it is settled without an answer
      obtain ⟨previous, hgetLast⟩ :=
        Option.ne_none_iff_exists'.mp (mt List.getLast?_eq_none_iff.mp hne)
      have hprevious := hlast previous hgetLast
      obtain ⟨hin, hsame⟩ := List.mem_filter.mp (List.mem_of_getLast? hgetLast)
      refine mem_settled.mpr ⟨previous, ?_, of_decide_eq_true hsame, ?_⟩
      · rw [← htrial, attempts_of_get? hledger]
        exact hin
      · simp [ProviderAttemptRecord.answer, hprevious]

lemma step_dispatched {payload : ReservationDispatchedPayload} {k : Identifier}
    (h : ReservationEffect header state state' (.reservationDispatched payload))
    (hopened : (exchanges trialId state requests).opened payload.reservationId = some (k, false))
    (hk : (exchanges trialId state requests).requests k ≠ none)
    (hnew : ∀ v, (k, v) ∉ (exchanges trialId state requests).settled) :
    Exchanges.Step (exchanges trialId state requests) (exchanges trialId state' requests) ∧
      (exchanges trialId state' requests).opened payload.reservationId = some (k, true) := by
  cases h with
  | dispatched _ active hactive hdispatched hreservations hattempts =>
    have hexchange : ReservationLedger.exchange { active with dispatched := true } trialId =
        some (k, true) := by
      rw [opened_of_get? trialId requests hactive] at hopened
      obtain ⟨hfor, -⟩ := exchange_eq_some.mp hopened
      exact exchange_eq_some.mpr ⟨hfor, rfl⟩
    have hopened' := opened_insert trialId requests hreservations
    rw [hexchange] at hopened'
    refine ⟨?_, by rw [hopened', Function.update_self]⟩
    have heq : exchanges trialId state' requests = { exchanges trialId state requests with
        opened := Function.update (exchanges trialId state requests).opened payload.reservationId
          (some (k, true)) } :=
      Exchanges.ext rfl hopened' (settled_of_same hattempts)
    rw [heq]
    exact .dispatch _ k hopened hk hnew

/-- Cancelling closes an exchange that was not dispatched, or one of another trial. -/
lemma step_cancelled {payload : ReservationCancelledPayload}
    (h : ReservationEffect header state state' (.reservationCancelled payload)) :
    exchanges trialId state' requests = exchanges trialId state requests ∨
      Exchanges.Step (exchanges trialId state requests) (exchanges trialId state' requests) := by
  cases h with
  | cancelled _ active hactive hdispatched hreservations hattempts =>
    have heq : exchanges trialId state' requests = { exchanges trialId state requests with
        opened := Function.update (exchanges trialId state requests).opened payload.reservationId
          none } :=
      Exchanges.ext rfl (opened_erase trialId requests hreservations) (settled_of_same hattempts)
    rw [heq]
    have hopened := opened_of_get? trialId requests hactive
    cases hexchange : active.exchange trialId with
    | none =>
      rw [hexchange] at hopened
      refine Or.inl (Exchanges.ext rfl ?_ rfl)
      rw [← hopened, Function.update_eq_self]
    | some entry =>
      obtain ⟨k, d⟩ := entry
      rw [hexchange] at hopened
      obtain rfl : active.dispatched = d := (exchange_eq_some.mp hexchange).2
      exact Or.inr (.cancel _ k (hdispatched ▸ hopened))

lemma step_settled {payload : ProviderAttemptSettledPayload} {k : Identifier}
    (h : ReservationEffect header state state' (.providerAttemptSettled payload))
    (hopened : (exchanges trialId state requests).opened payload.reservationId = some (k, true))
    (hanswer : (exchanges trialId state requests).requests k = some payload.attempt.answer) :
    Exchanges.Step (exchanges trialId state requests) (exchanges trialId state' requests) := by
  cases h with
  | providerSettled _ active provider hactive hprovider hdispatched hkey hreservations hattempts
      htrials =>
    rw [opened_of_get? trialId requests hactive] at hopened
    obtain ⟨⟨htrial, provider', hprovider', rfl⟩, -⟩ := exchange_eq_some.mp hopened
    obtain rfl := Option.some.inj (hprovider.symm.trans hprovider')
    have heq : exchanges trialId state' requests = { exchanges trialId state requests with
        opened := Function.update (exchanges trialId state requests).opened payload.reservationId
          none
        settled := (exchanges trialId state requests).settled ++
          [(provider.requestKey, payload.attempt.answer)] } := by
      refine Exchanges.ext rfl (opened_erase trialId requests hreservations) ?_
      simp only [exchanges, hattempts, htrial, if_true, List.map_append, List.map_cons,
        List.map_nil, hkey]
    rw [heq]
    refine .settle _ _ _ ?_ hanswer
    rw [opened_of_get? trialId requests hactive]
    exact hopened

variable (trialId requests) in
/-- An event of another trial, or of other work, leaves the exchanges as they are. -/
lemma exchanges_foreign {payload : CampaignEventPayload}
    (h : ReservationEffect header state state' payload) (hforeign : payload.Foreign trialId state) :
    exchanges trialId state' requests = exchanges trialId state requests := by
  -- a reservation that is no provider reservation of the trial stands for no exchange
  have hnone : ∀ {k active}, state.reservations.get? k = some active →
      ¬ state.OwnsProvider trialId k → active.exchange trialId = none := by
    intro k active hactive hnot
    refine Option.eq_none_iff_forall_ne_some.mpr ?_
    rintro ⟨key, d⟩ hexchange
    obtain ⟨⟨htrial, provider, hprovider, -⟩, -⟩ := exchange_eq_some.mp hexchange
    exact hnot ⟨active, hactive, htrial, Option.isSome_iff_exists.mpr ⟨provider, hprovider⟩⟩
  have herase : ∀ {k active}, state.reservations.get? k = some active →
      ¬ state.OwnsProvider trialId k → state'.reservations = state.reservations.erase k →
      (exchanges trialId state' requests).opened = (exchanges trialId state requests).opened := by
    intro k active hactive hnot hreservations
    rw [opened_erase trialId requests hreservations, ← hnone hactive hnot,
      ← opened_of_get? trialId requests hactive, Function.update_eq_self]
  cases h with
  | created payload ledger hfresh hledger hvalid hreservations hattempts =>
    refine Exchanges.ext rfl ?_ (settled_of_same hattempts)
    have hexchange : ReservationLedger.exchange
        { trialId := payload.trialId, claim := payload.claim, provider := payload.provider }
        trialId = (exchanges trialId state requests).opened payload.reservationId := by
      have hopened : (exchanges trialId state requests).opened payload.reservationId = none := by
        simp [exchanges, Dict.get?_eq_none_iff.mpr hfresh]
      rw [hopened]
      refine Option.eq_none_iff_forall_ne_some.mpr ?_
      rintro ⟨key, d⟩ hexchange
      obtain ⟨⟨htrial, provider, hprovider, -⟩, -⟩ := exchange_eq_some.mp hexchange
      exact hforeign ⟨htrial, Option.isSome_iff_exists.mpr ⟨provider, hprovider⟩⟩
    rw [opened_insert trialId requests hreservations, hexchange, Function.update_eq_self]
  | dispatched payload active hactive hdispatched hreservations hattempts =>
    refine Exchanges.ext rfl ?_ (settled_of_same hattempts)
    have hexchange : ReservationLedger.exchange { active with dispatched := true } trialId =
        (exchanges trialId state requests).opened payload.reservationId := by
      rw [opened_of_get? trialId requests hactive, hnone hactive hforeign]
      have hold := hnone hactive hforeign
      unfold ReservationLedger.exchange at hold ⊢
      split_ifs at hold ⊢ with htrial
      · rw [Option.map_eq_none_iff] at hold ⊢
        exact hold
      · rfl
    rw [opened_insert trialId requests hreservations, hexchange, Function.update_eq_self]
  | cancelled payload active hactive hdispatched hreservations hattempts =>
    exact Exchanges.ext rfl (herase hactive hforeign hreservations) (settled_of_same hattempts)
  | workSettled payload active hactive hreservations hattempts =>
    exact Exchanges.ext rfl (herase hactive hforeign hreservations) (settled_of_same hattempts)
  | providerSettled payload active provider hactive hprovider hdispatched hkey hreservations
      hattempts htrials =>
    refine Exchanges.ext rfl (herase hactive hforeign hreservations) ?_
    have hne : trialId ≠ active.trialId := by
      intro heq
      exact hforeign ⟨active, hactive, heq.symm, Option.isSome_iff_exists.mpr ⟨provider, hprovider⟩⟩
    simp only [exchanges, hattempts, hne, if_false]
  | outcome payload hreservations hattempts =>
    exact Exchanges.ext rfl (by simp only [exchanges, hreservations]) (settled_of_same hattempts)
  | budgetStopped payload hreservations hattempts =>
    exact Exchanges.ext rfl (by simp only [exchanges, hreservations]) (settled_of_same hattempts)

end Campaign

/-! ### Settlements -/

/-- The facts of a result, as both journals repeat them. -/
def ResponsesResult.Answers (result : ResponsesResult) (facts : AnswerFacts) : Prop :=
  facts.1 = { model := some result.reportedModel, serviceTier := result.reportedServiceTier,
              status := some result.status } ∧
    result.usage.mapM UsageCounters.fromProviderUsage = .ok facts.2

section Settlements

omit [Canonical]

lemma ResponsesResult.Answers.unique {result : ResponsesResult} {facts facts' : AnswerFacts}
    (h : result.Answers facts) (h' : result.Answers facts') : facts = facts' :=
  Prod.ext (h.1.trans h'.1.symm) (Except.ok.inj (h.2.symm.trans h'.2))

/-- A recorded response carries the facts of its result. -/
lemma answers_of_responsePayload {recorder : JournalExchangeRecorder} {result : ResponsesResult}
    {payload : ProviderResponseRecordedPayload}
    (h : recorder.responsePayload result = .ok payload) (request : ProviderRequestState) :
    ∃ facts, result.Answers facts ∧ (request.respond payload).answer = some facts := by
  unfold JournalExchangeRecorder.responsePayload at h
  split_ifs at h with hrecordable
  obtain rfl := Except.ok.inj h
  refine ⟨_, ⟨rfl, ?_⟩, rfl⟩
  obtain ⟨reportedModel, reportedServiceTier, status, outputs, usage⟩ := result
  cases usage with
  | none => rfl
  | some usage =>
    have hbound : usage.totalTokens ≤ JCS_INTEGER_MAX := hrecordable.2 usage rfl
    simp [UsageCounters.fromProviderUsage, hbound, Option.mapM, ProviderRequestState.respond,
      UsageCounters.ofFact, Functor.map, Except.map]

lemma attemptRecord_answer {trial : ScheduledTrial} {claim : CampaignResources}
    {provider : ProviderReservationBinding} {disposition : AttemptDisposition}
    {failureCondition : Option RetryCondition} {facts : ResponseFacts}
    {usage : Option UsageCounters} {attempt : ProviderAttemptRecord}
    (h : attemptRecord trial claim provider disposition failureCondition facts usage =
      .ok attempt) :
    attempt.answer = if disposition = .completed then some (facts, usage) else none := by
  unfold attemptRecord at h
  split_ifs at h
  obtain rfl := Except.ok.inj h
  rfl

end Settlements

section Runner

variable [CampaignCanonical] {header : CampaignHeader} {committed campaign : List CampaignEvent}
  {reservation : CampaignReservation} {eventId : UUID}

lemma settleProvider_eq_ok {disposition : AttemptDisposition} {usage : Option ProviderUsage}
    {facts : ResponseFacts} {failureCondition : Option RetryCondition}
    (h : settleProvider header reservation disposition usage facts failureCondition eventId
      committed = .ok campaign) :
    (∀ label ∈ facts.model, IsModelLabel label) ∧ ∃ counters attempt,
      usage.mapM UsageCounters.fromProviderUsage = .ok counters ∧
      attempt.answer = (if disposition = .completed then some (facts, counters) else none) ∧
      commitCampaignEvent header committed eventId
        (.providerAttemptSettled { reservationId := reservation.reservationId, attempt }) =
          .ok campaign := by
  simp only [settleProvider, bind_eq_ok, raiseIf_eq_ok, exists_const, not_exists, not_and,
    not_not] at h
  obtain ⟨hlabel, -, -, -, -, counters, hcounters, trial, -, attempt, hattempt, hcommit⟩ := h
  exact ⟨hlabel, counters, attempt, hcounters, attemptRecord_answer hattempt, hcommit⟩

/-- A completed attempt repeats the facts of a result that both journals accept. -/
lemma settleCompleted_eq_ok {result : ResponsesResult}
    (h : settleCompleted header reservation result eventId committed = .ok campaign) :
    result.Recordable ∧ ∃ facts attempt, result.Answers facts ∧ attempt.answer = some facts ∧
      commitCampaignEvent header committed eventId
        (.providerAttemptSettled { reservationId := reservation.reservationId, attempt }) =
          .ok campaign := by
  obtain ⟨hlabel, counters, attempt, hcounters, hanswer, hcommit⟩ := settleProvider_eq_ok h
  refine ⟨⟨hlabel _ rfl, ?_⟩, (_, counters), attempt, ⟨rfl, hcounters⟩, hanswer, hcommit⟩
  intro usage husage
  rw [Option.mem_def.mp husage] at hcounters
  by_contra hbound
  simp [UsageCounters.fromProviderUsage, hbound, Option.mapM, Functor.map, Except.map] at hcounters

lemma settleFailed_eq_ok {failureCondition : Option RetryCondition}
    (h : settleFailed header reservation failureCondition eventId committed = .ok campaign) :
    ∃ attempt : ProviderAttemptRecord, attempt.answer = none ∧
      commitCampaignEvent header committed eventId
        (.providerAttemptSettled { reservationId := reservation.reservationId, attempt }) =
          .ok campaign := by
  obtain ⟨-, counters, attempt, -, hanswer, hcommit⟩ := settleProvider_eq_ok h
  refine ⟨attempt, ?_, hcommit⟩
  rw [hanswer, if_neg]
  split_ifs
  · exact not_false
  · exact not_false

end Runner

/-! ### Recovery -/

section Recovery

variable [CampaignCanonical] {header : CampaignHeader} {trial : ScheduledTrial}
  {requests : Dict Identifier ProviderRequestState} {state : CampaignProjection}

omit [CampaignCanonical] in
/-- Recovery cancels what was not dispatched and settles the rest as the run knows it. -/
lemma recoveryPayload_eq_ok {reservationId : Identifier} {reservation : ReservationLedger}
    {provider : ProviderReservationBinding} {payload : CampaignEventPayload}
    (h : recoveryPayload trial requests reservationId reservation provider = .ok payload) :
    payload = .reservationCancelled { reservationId } ∨
      ∃ request attempt, requests.get? provider.requestKey = some request ∧
        reservation.dispatched = true ∧
        payload = .providerAttemptSettled { reservationId, attempt } ∧
        attempt.answer = request.answer := by
  simp only [recoveryPayload, bind_eq_ok, raiseIf_eq_ok, exists_const] at h
  obtain ⟨-, h⟩ := h
  split_ifs at h with hdispatched
  · simp only [bind_eq_ok, raiseIf_eq_ok, exists_const, pure_eq_ok] at h
    exact Or.inl h.2.symm
  · simp only [bind_eq_ok, raiseIf_eq_ok, exists_const, pure_eq_ok, orRaise_eq_ok] at h
    obtain ⟨request, hrequest, -, attempt, hattempt, rfl⟩ := h
    refine Or.inr ⟨request, attempt, hrequest, Bool.not_eq_false _ ▸ hdispatched, rfl, ?_⟩
    rw [attemptRecord_answer hattempt, ProviderRequestState.answer]
    by_cases hstatus : request.status = none
    · simp [hstatus]
    · simp [hstatus]

variable (state) in
/-- Closing one reservation after the other keeps the journals consistent. -/
lemma recoverReservation_run {eventIds : Nat → UUID} {length : Nat}
    {entries : List (Identifier × ReservationLedger)} {recovery recovery' : CampaignRecovery}
    (hnodup : (entries.map Prod.fst).Nodup)
    (hentries : ∀ entry ∈ entries, recovery.state.reservations.get? entry.1 = some entry.2)
    (hreplay : foldSteps (applyCampaignEvent header) state recovery.events = .ok recovery.state)
    (hconsistent : (exchanges trial.trialId recovery.state requests).Consistent)
    (h : foldSteps (recoverReservation header trial requests eventIds length) recovery entries =
      .ok recovery') :
    foldSteps (applyCampaignEvent header) state recovery'.events = .ok recovery'.state ∧
      (exchanges trial.trialId recovery'.state requests).Consistent := by
  induction entries generalizing recovery with
  | nil =>
    obtain rfl := Except.ok.inj h
    exact ⟨hreplay, hconsistent⟩
  | cons entry entries ih =>
    obtain ⟨recovery₁, hstep, hrest⟩ := foldSteps_cons_eq_ok.mp h
    rw [List.map_cons, List.nodup_cons] at hnodup
    rw [List.forall_mem_cons] at hentries
    unfold recoverReservation at hstep
    cases hprovider : entry.2.provider with
    | none =>
      rw [hprovider] at hstep
      obtain rfl := Except.ok.inj hstep
      exact ih hnodup.2 hentries.2 hreplay hconsistent hrest
    | some provider =>
      simp only [hprovider] at hstep
      split_ifs at hstep with htrial
      · obtain rfl := Except.ok.inj hstep
        exact ih hnodup.2 hentries.2 hreplay hconsistent hrest
      · rw [not_not] at htrial
        simp only [bind_eq_ok, pure_eq_ok] at hstep
        obtain ⟨payload, hpayload, state₁, happly, rfl⟩ := hstep
        have heffect := ReservationEffect.of_apply happly
        have hopened : (exchanges trial.trialId recovery.state requests).opened entry.1 =
            some (provider.requestKey, entry.2.dispatched) := by
          rw [opened_of_get? _ _ hentries.1]
          exact exchange_eq_some.mpr ⟨⟨htrial, provider, hprovider, rfl⟩, rfl⟩
        have hnext : (exchanges trial.trialId state₁ requests).Consistent ∧
            state₁.reservations = recovery.state.reservations.erase entry.1 := by
          rcases recoveryPayload_eq_ok hpayload with
            rfl | ⟨request, attempt, hrequest, hdispatched, rfl, hanswer⟩
          · refine ⟨?_, by cases heffect; assumption⟩
            rcases step_cancelled heffect with heq | hstep
            · exact heq ▸ hconsistent
            · exact hstep.consistent hconsistent
          · refine ⟨?_, by cases heffect; assumption⟩
            rw [hdispatched] at hopened
            refine (step_settled heffect hopened ?_).consistent hconsistent
            simp only [exchanges, hrequest, Option.map_some, hanswer]
        refine ih hnodup.2 ?_ ?_ hnext.1 hrest
        · intro other hother
          have hne : other.1 ≠ entry.1 := by
            intro heq
            exact hnodup.1 (heq ▸ List.mem_map_of_mem hother)
          rw [hnext.2, Dict.get?_erase_of_ne _ hne]
          exact hentries.2 other hother
        · exact foldSteps_concat_eq_ok.mpr ⟨recovery.state, hreplay, happly⟩

end Recovery

/-! ### Calls -/

section Calls

variable {campaignHeader : CampaignHeader} {header : RunHeader} {task : TaskSpec}
  {sender : ResponsesCampaign} {s : ExchangeState} {state : CampaignProjection} {st : ReplayState}

/-- What both journals hold while a call stands at the given point. -/
def PhaseHolds (x : Exchanges Identifier Identifier AnswerFacts) : RequestPhase → Prop
  | .idle | .cancelling _ => True
  | .reserved recorder reservation =>
    x.opened reservation.reservationId = some (recorder.requestId, false)
  | .recorded recorder reservation =>
    x.opened reservation.reservationId = some (recorder.requestId, false) ∧
      x.requests recorder.requestId = some none ∧ ∀ v, (recorder.requestId, v) ∉ x.settled
  | .dispatched recorder reservation | .answered recorder reservation _ =>
    x.opened reservation.reservationId = some (recorder.requestId, true) ∧
      x.requests recorder.requestId = some none
  | .failed reservation _ =>
    ∃ k, x.opened reservation.reservationId = some (k, true) ∧ x.requests k = some none
  | .settling reservation result =>
    ∃ k, x.opened reservation.reservationId = some (k, true) ∧
      (result.Recordable → ∃ facts, result.Answers facts ∧ x.requests k = some (some facts))

/-- Both journals are accepted and agree, and the call stands where they say. -/
structure ExchangeState.Linked [CampaignCanonical] (campaignHeader : CampaignHeader)
    (header : RunHeader) (task : TaskSpec) (s : ExchangeState) (state : CampaignProjection)
    (st : ReplayState) : Prop where
  campaign : replayCampaign campaignHeader s.campaign = .ok state
  run : replayLoop header task s.run = .ok st
  consistent : (exchanges header.binding.trialKey state st.providerRequests).Consistent
  phase : PhaseHolds (exchanges header.binding.trialKey state st.providerRequests) s.phase

/-- Requests are kept under their own identifiers. -/
lemma requestId_of_get? {events : List RunEvent} (h : replayLoop header task events = .ok st)
    {k : Identifier} {request : ProviderRequestState}
    (hget : st.providerRequests.get? k = some request) : request.requestId = k := by
  refine foldSteps_induction (P := fun _ (st : ReplayState) => ∀ k request,
    st.providerRequests.get? k = some request → request.requestId = k) ?_ ?_ h k request hget
  · intro _ st event st' ih hstep k request hget
    by_cases hfact : event.isProviderFact = false
    · exact ih k request (providerRequests_step hstep hfact ▸ hget)
    · obtain ⟨-, rfl⟩ := replayStep_eq_ok_iff.mp hstep
      cases event with
      | providerRequestStarted e =>
        simp only [ReplayState.apply, ReplayState.effect, Dict.get?_insert] at hget
        split_ifs at hget with hk
        · obtain rfl := Option.some.inj hget
          exact hk.symm
        · exact ih k request hget
      | providerResponseRecorded e =>
        simp only [ReplayState.apply, ReplayState.effect] at hget
        cases hrequest : st.providerRequests.get? e.payload.requestId with
        | none =>
          rw [hrequest] at hget
          exact ih k request hget
        | some before =>
          rw [hrequest] at hget
          simp only [Dict.get?_insert] at hget
          split_ifs at hget with hk
          · obtain rfl := Option.some.inj hget
            exact (ih _ before hrequest).trans hk.symm
          · exact ih k request hget
      | _ => exact absurd rfl hfact
  · intro k request hget
    simp [ReplayState.initial] at hget

section Actions

variable [CampaignCanonical] {trialId : Identifier} {campaign : List CampaignEvent} {eventId : UUID}

/-- A committed event moves the ledger by its effect. -/
lemma ExchangeState.Linked.commit (h : s.Linked campaignHeader header task state st)
    {payload : CampaignEventPayload}
    (hcommit : commitCampaignEvent campaignHeader s.campaign eventId payload = .ok campaign) :
    ∃ state', replayCampaign campaignHeader campaign = .ok state' ∧
      ReservationEffect campaignHeader state state' payload := by
  obtain ⟨before, state', hbefore, hstate', heffect⟩ := commitCampaignEvent_eq_ok hcommit
  obtain rfl := Except.ok.inj (h.campaign.symm.trans hbefore)
  exact ⟨state', hstate', heffect⟩

lemma ExchangeState.Linked.idle (h : s.Linked campaignHeader header task state st) :
    ExchangeState.Linked campaignHeader header task { s with phase := .idle } state st :=
  ⟨h.campaign, h.run, h.consistent, trivial⟩

variable (sender) in
lemma ExchangeState.Linked.reserve (h : s.Linked campaignHeader header task state st)
    (recorder : JournalExchangeRecorder) (reservationId : Identifier)
    (eventId : UUID) : ∃ state', ExchangeState.Linked campaignHeader header task
      (s.reserve campaignHeader header sender recorder reservationId eventId) state' st := by
  unfold ExchangeState.reserve
  split
  · next campaign reservation hreserve =>
    rcases reserveProviderAttempt_eq_ok hreserve with
      ⟨rejection, payload, houtcome, -⟩ | ⟨reservation', houtcome, hid, -, hkey, -, hcommit⟩
    · cases houtcome
    · obtain rfl := Except.ok.inj houtcome
      obtain ⟨state', hstate', heffect⟩ := h.commit hcommit
      obtain ⟨hstep, hopened⟩ := step_created st.providerRequests heffect rfl rfl
      refine ⟨state', hstate', h.run, hstep.consistent h.consistent, ?_⟩
      rw [hkey] at hopened
      rw [← hid] at hopened
      exact hopened
  · next campaign rejection hreserve =>
    rcases reserveProviderAttempt_eq_ok hreserve with
      ⟨rejection', payload, -, hcommit⟩ | ⟨reservation', houtcome, -⟩
    · obtain ⟨state', hstate', heffect⟩ := h.commit hcommit
      have heq := exchanges_foreign header.binding.trialKey st.providerRequests heffect trivial
      exact ⟨state', hstate', h.run, heq ▸ h.consistent, by rw [heq]; exact h.phase⟩
    · cases houtcome
  · exact ⟨state, h⟩

variable {reservation : CampaignReservation} {recorder : JournalExchangeRecorder}

/-- A recorded request is new, so it was never settled. -/
lemma ExchangeState.Linked.recorded (h : s.Linked campaignHeader header task state st)
    (hphase : s.phase = .reserved recorder reservation) {inputs : RequestInputs}
    {run : List RunEvent}
    (hrun : recorder.requestReserved sender header task reservation.trialId inputs s.run =
      .ok run) :
    ∃ st', ExchangeState.Linked campaignHeader header task
      { s with run, phase := .recorded recorder reservation } state st' := by
  obtain ⟨-, before, st', hbefore, hst', hfresh, hrequests⟩ :=
    JournalExchangeRecorder.requestReserved_eq_ok hrun
  obtain rfl := Except.ok.inj (h.run.symm.trans hbefore)
  have hopened := h.phase
  rw [hphase] at hopened
  have hnone : (exchanges header.binding.trialKey state st.providerRequests).requests
      recorder.requestId = none := by
    simp [exchanges, Dict.get?_eq_none_iff.mpr hfresh]
  have heq : exchanges header.binding.trialKey state st'.providerRequests =
      { exchanges header.binding.trialKey state st.providerRequests with
        requests := Function.update
          (exchanges header.binding.trialKey state st.providerRequests).requests
          recorder.requestId (some none) } := by
    rw [hrequests]
    exact Exchanges.ext requests_insert rfl rfl
  have hconsistent := (Exchanges.Step.record _ hnone).consistent h.consistent
  rw [← heq] at hconsistent
  refine ⟨st', h.campaign, hst', hconsistent, ?_, ?_, ?_⟩
  · rw [heq]
    exact hopened
  · rw [heq]
    exact Function.update_self _ _ _
  · intro v hv
    rw [heq] at hv
    have hagrees := h.consistent.agrees _ v hv
    rw [hnone] at hagrees
    cases hagrees

lemma ExchangeState.Linked.recordRequest (h : s.Linked campaignHeader header task state st)
    (hphase : s.phase = .reserved recorder reservation) (outcome : ObserverOutcome RequestInputs) :
    ∃ st', ExchangeState.Linked campaignHeader header task
      (s.recordRequest header task sender recorder reservation outcome) state st' := by
  have hcancelling : ExchangeState.Linked campaignHeader header task
      { s with phase := .cancelling reservation } state st :=
    ⟨h.campaign, h.run, h.consistent, trivial⟩
  unfold ExchangeState.recordRequest
  split
  · exact ⟨st, hcancelling⟩
  · split
    · next run hrun => exact h.recorded hphase hrun
    · exact ⟨st, hcancelling⟩
  · split
    · next run hrun =>
      obtain ⟨st', hlinked⟩ := h.recorded hphase hrun
      exact ⟨st', hlinked.campaign, hlinked.run, hlinked.consistent, trivial⟩
    · exact ⟨st, hcancelling⟩

lemma ExchangeState.Linked.cancel (h : s.Linked campaignHeader header task state st)
    (reservation : CampaignReservation) (eventId : UUID) :
    ∃ state', ExchangeState.Linked campaignHeader header task
      (s.committed .idle (EdaGym.cancel campaignHeader reservation eventId s.campaign))
        state' st := by
  unfold ExchangeState.committed
  split
  · next campaign hcommit =>
    obtain ⟨state', hstate', heffect⟩ := h.commit hcommit
    refine ⟨state', hstate', h.run, ?_, trivial⟩
    rcases step_cancelled heffect with heq | hstep
    · exact heq ▸ h.consistent
    · exact hstep.consistent h.consistent
  · exact ⟨state, h.idle⟩

lemma ExchangeState.Linked.markDispatched (h : s.Linked campaignHeader header task state st)
    (hphase : s.phase = .recorded recorder reservation) (eventId : UUID) :
    ∃ state', ExchangeState.Linked campaignHeader header task
      (s.committed (.dispatched recorder reservation)
        (EdaGym.markDispatched campaignHeader reservation eventId s.campaign)) state' st := by
  have hheld := h.phase
  rw [hphase] at hheld
  obtain ⟨hopened, hrequest, hnew⟩ := hheld
  unfold ExchangeState.committed
  split
  · next campaign hcommit =>
    obtain ⟨state', hstate', heffect⟩ := h.commit hcommit
    obtain ⟨hstep, hopened'⟩ := step_dispatched heffect hopened (by rw [hrequest]; simp) hnew
    exact ⟨state', hstate', h.run, hstep.consistent h.consistent, hopened', hrequest⟩
  · exact ⟨state, h.idle⟩

lemma ExchangeState.Linked.settleFailed (h : s.Linked campaignHeader header task state st)
    {error : ExchangeError}
    (hphase : s.phase = .failed reservation error) (eventId : UUID) :
    ∃ state', ExchangeState.Linked campaignHeader header task
      (s.committed .idle (EdaGym.settleFailed campaignHeader reservation (retryCondition error)
        eventId s.campaign)) state' st := by
  have hheld := h.phase
  rw [hphase] at hheld
  obtain ⟨k, hopened, hrequest⟩ := hheld
  unfold ExchangeState.committed
  split
  · next campaign hsettle =>
    obtain ⟨attempt, hanswer, hcommit⟩ := settleFailed_eq_ok hsettle
    obtain ⟨state', hstate', heffect⟩ := h.commit hcommit
    have hstep := step_settled heffect hopened (by rw [hrequest, hanswer])
    exact ⟨state', hstate', h.run, hstep.consistent h.consistent, trivial⟩
  · exact ⟨state, h.idle⟩

lemma ExchangeState.Linked.settleCompleted (h : s.Linked campaignHeader header task state st)
    {result : ResponsesResult}
    (hphase : s.phase = .settling reservation result) (eventId : UUID) :
    ∃ state', ExchangeState.Linked campaignHeader header task
      (s.committed .idle (EdaGym.settleCompleted campaignHeader reservation result eventId
        s.campaign)) state' st := by
  have hheld := h.phase
  rw [hphase] at hheld
  obtain ⟨k, hopened, hanswers⟩ := hheld
  unfold ExchangeState.committed
  split
  · next campaign hsettle =>
    obtain ⟨hrecordable, facts, attempt, hfacts, hanswer, hcommit⟩ := settleCompleted_eq_ok hsettle
    obtain ⟨facts', hfacts', hrequest⟩ := hanswers hrecordable
    obtain rfl := hfacts.unique hfacts'
    obtain ⟨state', hstate', heffect⟩ := h.commit hcommit
    have hstep := step_settled heffect hopened (by rw [hrequest, hanswer])
    exact ⟨state', hstate', h.run, hstep.consistent h.consistent, trivial⟩
  · exact ⟨state, h.idle⟩

lemma ExchangeState.Linked.recordResponse (h : s.Linked campaignHeader header task state st)
    {result : ResponsesResult} (hphase : s.phase = .answered recorder reservation result)
    {outcome : ObserverOutcome ResponseInputs}
    (hcommits : result.Recordable → ∃ inputs run, outcome.inputs = some inputs ∧
      recorder.responseReceived header task result inputs s.run = .ok run) :
    ∃ st', ExchangeState.Linked campaignHeader header task
      (s.recordResponse header task recorder reservation result outcome) state st' := by
  have hheld := h.phase
  rw [hphase] at hheld
  obtain ⟨hopened, hrequest⟩ := hheld
  unfold ExchangeState.recordResponse
  split
  · next run hsome =>
    obtain ⟨inputs, -, hrun⟩ := Option.map_eq_some_iff.mp hsome
    obtain ⟨before, st', payload, request, hbefore, hst', hpayload, -, -, hrequests⟩ :=
      JournalExchangeRecorder.responseReceived_eq_ok hrun
    obtain rfl := Except.ok.inj (h.run.symm.trans hbefore)
    obtain ⟨facts, hfacts, hanswer⟩ := answers_of_responsePayload hpayload request
    have heq : exchanges header.binding.trialKey state st'.providerRequests =
        { exchanges header.binding.trialKey state st.providerRequests with
          requests := Function.update
            (exchanges header.binding.trialKey state st.providerRequests).requests
            recorder.requestId (some (some facts)) } := by
      rw [hrequests, ← hanswer]
      exact Exchanges.ext requests_insert rfl rfl
    have hconsistent := (Exchanges.Step.respond _ _ facts hopened hrequest).consistent h.consistent
    rw [← heq] at hconsistent
    refine ⟨st', h.campaign, hst', hconsistent, recorder.requestId, ?_, ?_⟩
    · rw [heq]
      exact hopened
    · intro _
      refine ⟨facts, hfacts, ?_⟩
      rw [heq]
      exact Function.update_self _ _ _
  · next hnot =>
    refine ⟨st, h.campaign, h.run, h.consistent, recorder.requestId, hopened, ?_⟩
    -- an answer that both journals accept has been recorded
    intro hrecordable
    obtain ⟨inputs, run, hinputs, hrun⟩ := hcommits hrecordable
    exact absurd (by rw [hinputs, Option.map_some, hrun]) (hnot run)

omit [CampaignCanonical] in
/-- The run hands its requests to recovery under their own identifiers. -/
lemma requests_eq {events : List RunEvent} (h : replayLoop header task events = .ok st) :
    Dict.ofList (st.providerRequests.values.map fun request => (request.requestId, request)) =
      st.providerRequests := by
  have hentries : st.providerRequests.values.map (fun request => (request.requestId, request)) =
      st.providerRequests.entries := by
    rw [Dict.values, List.map_map]
    conv_rhs => rw [← List.map_id st.providerRequests.entries]
    refine List.map_congr_left ?_
    intro entry hentry
    exact Prod.ext (requestId_of_get? h (Dict.mem_entries.mp hentry)) rfl
  apply Dict.ext_entries
  rw [hentries, Dict.entries_ofList st.providerRequests.nodup]

lemma ExchangeState.Linked.recover (h : s.Linked campaignHeader header task state st)
    (hphase : s.phase = .idle) (eventIds : Nat → UUID) :
    ∃ state', ExchangeState.Linked campaignHeader header task
      (s.recover campaignHeader header task eventIds) state' st := by
  unfold ExchangeState.recover
  split
  · exact ⟨state, h⟩
  · next runState hrunState =>
    obtain ⟨-, -, before, -, hbefore, -, -, rfl⟩ := replay_eq_ok_iff.mp hrunState
    obtain rfl := Except.ok.inj (h.run.symm.trans hbefore)
    split
    · next campaign closed hrecover =>
      simp only [recoverIncompleteProviderDispatches, ReplayState.runState, requests_eq h.run,
        bind_eq_ok, raiseIf_eq_ok, exists_const] at hrecover
      obtain ⟨-, cs, hcs, hrecover⟩ := hrecover
      obtain rfl := Except.ok.inj (h.campaign.symm.trans hcs)
      split_ifs at hrecover with hsome
      · simp only [bind_eq_ok, pure_eq_ok, Prod.mk.injEq, scheduledTrial, orRaise_eq_ok] at hrecover
        obtain ⟨trial, htrial, recovery, hfold, committed, htransact, rfl, -⟩ := hrecover
        have htrialId : trial.trialId = header.binding.trialKey := by
          simpa using List.find?_some htrial
        have hnodup : ((sortedBy Prod.fst state.reservations.entries).map Prod.fst).Nodup :=
          ((sortedBy_perm _ _).map Prod.fst).nodup_iff.mpr state.reservations.nodup
        have hentries : ∀ entry ∈ sortedBy Prod.fst state.reservations.entries,
            state.reservations.get? entry.1 = some entry.2 := by
          intro entry hentry
          exact Dict.mem_entries.mp (mem_sortedBy.mp hentry)
        obtain ⟨hreplay, hconsistent⟩ := recoverReservation_run state hnodup hentries rfl
          (htrialId ▸ h.consistent) hfold
        obtain ⟨rfl, -⟩ := transactCampaign_eq_ok htransact
        refine ⟨recovery.state, foldSteps_append_eq_ok.mpr ⟨state, h.campaign, hreplay⟩, h.run,
          htrialId ▸ hconsistent, ?_⟩
        rw [hphase]
        trivial
      · simp only [pure_eq_ok, Prod.mk.injEq] at hrecover
        obtain ⟨rfl, -⟩ := hrecover
        exact ⟨state, h⟩
    · exact ⟨state, h⟩

omit [CampaignCanonical] in
lemma ownsProvider_iff (requests : Dict Identifier ProviderRequestState) {i : Identifier} :
    state.OwnsProvider trialId i ↔
      ∃ k d, (exchanges trialId state requests).opened i = some (k, d) := by
  simp only [opened_eq_some]
  constructor
  · rintro ⟨active, hactive, htrial, hprovider⟩
    obtain ⟨provider, hprovider⟩ := Option.isSome_iff_exists.mp hprovider
    exact ⟨provider.requestKey, active.dispatched, active, hactive,
      ⟨htrial, provider, hprovider, rfl⟩, rfl⟩
  · rintro ⟨k, d, active, hactive, ⟨htrial, provider, hprovider, -⟩, -⟩
    exact ⟨active, hactive, htrial, Option.isSome_iff_exists.mpr ⟨provider, hprovider⟩⟩

omit [CampaignCanonical] in
lemma foreign_of_owned {state' : CampaignProjection} {payload : CampaignEventPayload}
    (h : payload.Foreign trialId state)
    (howned : ∀ i, state'.OwnsProvider trialId i → state.OwnsProvider trialId i) :
    payload.Foreign trialId state' := by
  cases payload with
  | reservationCreated payload => exact h
  | reservationDispatched payload => exact fun hown => h (howned _ hown)
  | reservationCancelled payload => exact fun hown => h (howned _ hown)
  | workSettled payload => exact fun hown => h (howned _ hown)
  | providerAttemptSettled payload => exact fun hown => h (howned _ hown)
  | trialOutcomeRecorded payload => trivial
  | budgetStopped payload => trivial

/-- A batch that is foreign to the trial leaves its exchanges as they are. -/
lemma exchanges_foreign_run {m m' : CampaignProjection} {events : List CampaignEvent}
    (requests : Dict Identifier ProviderRequestState)
    (h : foldSteps (applyCampaignEvent campaignHeader) m events = .ok m')
    (hforeign : ∀ event ∈ events, event.payload.Foreign trialId state)
    (hsame : exchanges trialId m requests = exchanges trialId state requests) :
    exchanges trialId m' requests = exchanges trialId state requests := by
  induction events generalizing m with
  | nil =>
    obtain rfl := Except.ok.inj h
    exact hsame
  | cons event events ih =>
    obtain ⟨m₁, hstep, hrest⟩ := foldSteps_cons_eq_ok.mp h
    rw [List.forall_mem_cons] at hforeign
    have howned : ∀ i, m.OwnsProvider trialId i → state.OwnsProvider trialId i := by
      intro i hown
      rw [ownsProvider_iff requests, hsame, ← ownsProvider_iff requests] at hown
      exact hown
    have heq := exchanges_foreign trialId requests (ReservationEffect.of_apply hstep)
      (foreign_of_owned hforeign.1 howned)
    exact ih hrest hforeign.2 (heq.trans hsame)

lemma ExchangeState.Linked.commitCampaign (h : s.Linked campaignHeader header task state st)
    (events : List CampaignEvent) :
    ∃ state', ExchangeState.Linked campaignHeader header task
      (s.commitCampaign campaignHeader header events) state' st := by
  unfold ExchangeState.commitCampaign
  split
  · next before campaign hbefore htransact =>
    obtain rfl := Except.ok.inj (h.campaign.symm.trans hbefore)
    split_ifs with hforeign
    · obtain ⟨rfl, state', hstate'⟩ := transactCampaign_eq_ok htransact
      obtain ⟨m, hm, hrun⟩ := foldSteps_append_eq_ok.mp hstate'
      obtain rfl := Except.ok.inj (h.campaign.symm.trans hm)
      have heq := exchanges_foreign_run st.providerRequests hrun hforeign rfl
      exact ⟨state', hstate', h.run, heq ▸ h.consistent, by rw [heq]; exact h.phase⟩
    · exact ⟨state, h⟩
  · exact ⟨state, h⟩

lemma ExchangeState.Linked.commitRun (h : s.Linked campaignHeader header task state st)
    (events : List RunEvent) :
    ∃ st', ExchangeState.Linked campaignHeader header task (s.commitRun header task events) state
      st' := by
  unfold ExchangeState.commitRun
  split
  · next admitted hadmit =>
    obtain ⟨runState, requested⟩ := admitted
    split_ifs with hfacts
    · obtain ⟨before, st', hbefore, hfactory, hrun, hst', -⟩ := admitTransact_eq_ok hadmit
      obtain rfl := Except.ok.inj hfactory
      obtain rfl := Except.ok.inj (h.run.symm.trans hbefore)
      have hsame := providerRequests_run hrun hfacts
      refine ⟨st', h.campaign, hst', ?_, ?_⟩
      · rw [hsame]
        exact h.consistent
      · rw [hsame]
        exact h.phase
    · exact ⟨st, h⟩
  · exact ⟨st, h⟩

end Actions

end Calls

end EdaGym
