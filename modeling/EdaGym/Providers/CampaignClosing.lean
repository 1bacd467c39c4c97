import EdaGym.Providers.CampaignOperations
import EdaGym.Providers.TrialAdmission

/-!
# Closing a campaign

When a controller has crashed, every active reservation is closed in one transaction; when the
campaign is over, every trial without an outcome gets one. Both build a batch of events against the
replayed ledger and commit it.
-/

namespace EdaGym

variable [Canonical] [CampaignCanonical] {header : CampaignHeader}
  {state state' : CampaignProjection}
  {events committed : List CampaignEvent} {eventIds : Nat → UUID}

/-! ### Batches -/

/-- Identifiers nobody has used. -/
structure FreshIds (eventIds : Nat → UUID) (committed : List CampaignEvent) : Prop where
  injective : Function.Injective eventIds
  fresh : ∀ i, eventIds i ∉ committed.map CampaignEvent.eventId

omit [CampaignCanonical] in
lemma freshIds_from (n : Nat) {committed : List CampaignEvent}
    (h : ∀ event ∈ committed, event.eventId < n) : FreshIds (n + ·) committed where
  injective := add_right_injective n
  fresh i hmem := by
    obtain ⟨event, hevent, heq⟩ := List.mem_map.mp hmem
    have hlt := h event hevent
    rw [heq] at hlt
    exact absurd hlt (Nat.not_lt.mpr (Nat.le_add_right n i))

/-- The events of the batch follow the journal and lead to its state. -/
structure CampaignBatch.Built (header : CampaignHeader) (eventIds : Nat → UUID)
    (start : CampaignProjection) (length : Nat) (batch : CampaignBatch) : Prop where
  replay : foldSteps (applyCampaignEvent header) start batch.events = .ok batch.state
  sequences : batch.events.map CampaignEvent.sequence = List.range' length batch.events.length
  ids : batch.events.map CampaignEvent.eventId = (List.range batch.events.length).map eventIds

variable {payload : CampaignEventPayload}

lemma CampaignBatch.push_eq_ok {batch batch' : CampaignBatch} {length : Nat} :
    batch.push header eventIds length payload = .ok batch' ↔
      ∃ event, event = { eventId := eventIds batch.events.length,
                         sequence := length + batch.events.length, payload } ∧
        applyCampaignEvent header batch.state event = .ok batch'.state ∧
        batch'.events = batch.events ++ [event] := by
  simp only [CampaignBatch.push, bind_eq_ok, pure_eq_ok]
  constructor
  · rintro ⟨state, happly, rfl⟩
    exact ⟨_, rfl, happly, rfl⟩
  · rintro ⟨event, rfl, happly, hevents⟩
    refine ⟨batch'.state, happly, ?_⟩
    rw [← hevents]

lemma CampaignBatch.Built.push {start : CampaignProjection} {batch batch' : CampaignBatch}
    {length : Nat}
    (h : batch.Built header eventIds start length)
    (hpush : batch.push header eventIds length payload = .ok batch') :
    batch'.Built header eventIds start length := by
  obtain ⟨event, rfl, happly, hevents⟩ := CampaignBatch.push_eq_ok.mp hpush
  refine ⟨?_, ?_, ?_⟩
  · rw [hevents]
    exact foldSteps_concat_eq_ok.mpr ⟨batch.state, h.replay, happly⟩
  · rw [hevents, List.map_append, h.sequences, List.length_append, List.length_singleton,
      List.range'_1_concat]
    rfl
  · rw [hevents, List.map_append, h.ids, List.length_append, List.length_singleton,
      List.range_succ, List.map_append]
    rfl

/-- A batch built against the replayed journal is committed. -/
lemma CampaignBatch.Built.transact {batch : CampaignBatch}
    (h : batch.Built header eventIds state committed.length)
    (hreplay : replayCampaign header committed = .ok state) (hids : FreshIds eventIds committed)
    (hne : batch.events ≠ []) :
    transactCampaign header committed batch.events = .ok (committed ++ batch.events) ∧
      replayCampaign header (committed ++ batch.events) = .ok batch.state := by
  have hafter : replayCampaign header (committed ++ batch.events) = .ok batch.state :=
    foldSteps_append_eq_ok.mpr ⟨state, hreplay, h.replay⟩
  refine ⟨?_, hafter⟩
  simp only [transactCampaign, bind_eq_ok, raiseIf_eq_ok, exists_const, pure_eq_ok, not_not, not_or,
    not_exists, not_and]
  refine ⟨hne, h.sequences, ⟨?_, ?_⟩, batch.state, hafter, trivial⟩
  · rw [h.ids]
    exact List.nodup_range.map hids.injective
  · intro event hevent hmem
    have hid : event.eventId ∈ batch.events.map CampaignEvent.eventId :=
      List.mem_map_of_mem hevent
    rw [h.ids] at hid
    obtain ⟨i, -, hi⟩ := List.mem_map.mp hid
    exact hids.fresh i (hi ▸ hmem)

/-! ### Closing the active reservations -/

/-- What replay has checked about a reservation. -/
structure ReservationLedger.Sound (header : CampaignHeader) (active : ReservationLedger) :
    Prop where
  kind : active.KindHolds
  floor : ∀ provider ∈ active.provider,
    provider.observedInputTokenFloor < active.claim.inputTokens
  scheduled : active.provider.isSome →
    ∃ trial, header.schedule.trials.find? (fun trial => trial.trialId = active.trialId) = some trial

lemma sound_created {payload : ReservationCreatedPayload}
    (h : applyReservationCreated header state payload = .ok state') :
    ReservationLedger.Sound header
      { trialId := payload.trialId, claim := payload.claim, provider := payload.provider } := by
  refine ⟨kindHolds_created h, ?_, ?_⟩
  all_goals
    simp only [applyReservationCreated, bind_eq_ok, raiseIf_eq_ok, exists_const] at h
    obtain ⟨-, -, ledger, -, _, hkind, -⟩ := h
  · intro provider hprovider
    have hsome : payload.provider = some provider := hprovider
    simp only [validateReservationKind, hsome, validateProviderReservation, bind_eq_ok,
      raiseIf_eq_ok, exists_const, not_or, not_le] at hkind
    obtain ⟨-, trial, -, ⟨hfloor, -⟩, -⟩ := hkind
    exact hfloor
  · intro hprovider
    obtain ⟨provider, hsome⟩ : ∃ provider, payload.provider = some provider :=
      Option.isSome_iff_exists.mp hprovider
    simp only [validateReservationKind, hsome, validateProviderReservation, scheduledTrial,
      bind_eq_ok, raiseIf_eq_ok, orRaise_eq_ok, exists_const] at hkind
    obtain ⟨-, trial, htrial, -⟩ := hkind
    exact ⟨trial, htrial⟩

variable {active : ReservationLedger} {k : Identifier}

lemma replayCampaign_sound (h : replayCampaign header events = .ok state)
    (hactive : state.reservations.get? k = some active) :
    active.Sound header :=
  reservation_induction (fun _ _ _ hcreated => sound_created hcreated)
    (fun _ hactive => ⟨hactive.kind, hactive.floor, hactive.scheduled⟩) h hactive

/-- A dispatched provider reservation that claims no output cannot be closed. -/
def ReservationLedger.Closable (active : ReservationLedger) : Prop :=
  active.dispatched = true → active.provider.isSome → 1 ≤ active.claim.outputTokens

omit [CampaignCanonical] in
lemma closingPayload_isOk_iff
    (hsound : active.Sound header) :
    (∃ payload, closingPayload header k active = .ok payload) ↔ active.Closable := by
  unfold closingPayload ReservationLedger.Closable
  cases hdispatched : active.dispatched with
  | false => simp
  | true =>
    cases hprovider : active.provider with
    | none => simp
    | some provider =>
      obtain ⟨trial, htrial⟩ := hsound.scheduled (by simp [hprovider])
      have hfloor := hsound.floor provider hprovider
      have honly := hsound.kind.2 (by simp [hprovider])
      simp only [Bool.true_eq_false, if_false, htrial, bind_eq_ok, orRaise_eq_ok, Option.some.injEq,
        pure_eq_ok, abandonedAttempt, hfloor, honly, dif_pos,
        Option.isSome_some, forall_const]
      by_cases houtput : 1 ≤ active.claim.outputTokens
      · simp [houtput]
      · simp [houtput]

/-- The event charges the whole claim of a dispatched reservation, and nothing of another one. -/
structure ClosedBy (entry : Identifier × ReservationLedger) (event : CampaignEvent) : Prop where
  closes : event.closesReservation = some entry.1
  charges : event.settledAmount = if entry.2.dispatched = true then some entry.2.claim else none

omit [CampaignCanonical] in
lemma closedBy_of_closingPayload
    (h : closingPayload header k active = .ok payload)
    (eventId : UUID) (sequence : Nat) :
    ClosedBy (k, active) { eventId, sequence, payload } := by
  unfold closingPayload at h
  split_ifs at h with hdispatched
  · cases h
    exact ⟨rfl, by simp [CampaignEvent.settledAmount, hdispatched]⟩
  · rw [Bool.not_eq_false] at hdispatched
    split at h
    · cases h
      exact ⟨rfl, by simp [CampaignEvent.settledAmount, hdispatched]⟩
    · simp only [bind_eq_ok, pure_eq_ok] at h
      obtain ⟨trial, -, attempt, hattempt, rfl⟩ := h
      refine ⟨rfl, ?_⟩
      unfold abandonedAttempt at hattempt
      split_ifs at hattempt
      cases hattempt
      simp [CampaignEvent.settledAmount, hdispatched]

/-- An event that closes a reservation takes it out of the table. -/
lemma reservations_of_closes {event : CampaignEvent}
    (h : applyCampaignEvent header state event = .ok state')
    (hcloses : event.closesReservation = some k) :
    state'.reservations = state.reservations.erase k := by
  have heffect := ReservationEffect.of_apply h
  unfold CampaignEvent.closesReservation at hcloses
  generalize event.payload = payload at heffect hcloses
  cases heffect with
  | cancelled payload active hactive hdispatched hreservations hattempts =>
    cases hcloses
    exact hreservations
  | workSettled payload active hactive hreservations hattempts =>
    cases hcloses
    exact hreservations
  | providerSettled payload active provider hactive hprovider hdispatched hkey hreservations =>
    cases hcloses
    exact hreservations
  | _ => cases hcloses

omit [CampaignCanonical] in
lemma settle_isOk (howner : active.trialId ∈ state.ledgers)
    (k : Identifier) (actual : CampaignResources) :
    ∃ state', settle state k active actual = .ok state' := by
  obtain ⟨ledger, hledger⟩ := Dict.mem_iff.mp howner
  simp [settle, hledger, orRaise, bind, Except.bind, pure, Except.pure]

/-- The ledger accepts the event that closes an active reservation. -/
lemma applyCampaignEvent_closing (h : replayCampaign header events = .ok state)
    (hactive : state.reservations.get? k = some active)
    (hpayload : closingPayload header k active = .ok payload)
    (eventId : UUID) (sequence : Nat) :
    ∃ state', applyCampaignEvent header state { eventId, sequence, payload } = .ok state' := by
  have howner := owner_of_reservation h hactive
  obtain ⟨ledger, hledger⟩ := Dict.mem_iff.mp howner
  have hsound := replayCampaign_sound h hactive
  unfold closingPayload at hpayload
  split_ifs at hpayload with hdispatched
  · cases hpayload
    cases hprovider : active.provider with
    | none =>
      simp [applyCampaignEvent, applyReservationCancelled, reservation, hactive, hdispatched,
        hprovider, releaseReservation, hledger, orRaise, raiseIf, bind, Except.bind, pure,
        Except.pure]
    | some provider =>
      simp [applyCampaignEvent, applyReservationCancelled, reservation, hactive, hdispatched,
        hprovider, releaseReservation, hledger, orRaise, raiseIf, bind, Except.bind, pure,
        Except.pure]
  · rw [Bool.not_eq_false] at hdispatched
    split at hpayload
    next hprovider =>
      cases hpayload
      obtain ⟨state', hsettle⟩ := settle_isOk howner k active.claim
      have hzero := hsound.kind.1 hprovider
      refine ⟨state', ?_⟩
      simp only [applyCampaignEvent, applyWorkSettled, reservation, bind_eq_ok, orRaise_eq_ok,
        raiseIf_eq_ok, exists_const]
      refine ⟨active, hactive, by simp [hprovider], by simp [hdispatched], ?_, hsettle⟩
      have hrequests := hzero .requests (Or.inl rfl)
      have hinput := hzero .inputTokens (Or.inr (Or.inl rfl))
      have houtput := hzero .outputTokens (Or.inr (Or.inr rfl))
      simp only [ResourceVector.get] at hrequests hinput houtput
      simp [hrequests, hinput, houtput]
    next provider hprovider =>
      simp only [bind_eq_ok, orRaise_eq_ok, pure_eq_ok] at hpayload
      obtain ⟨trial, htrial, attempt, hattempt, rfl⟩ := hpayload
      obtain ⟨settled, hsettle⟩ := settle_isOk howner k active.claim
      unfold abandonedAttempt at hattempt
      split_ifs at hattempt with houtput hfloor honly
      cases hattempt
      have howner' : active.trialId ∈ settled.ledgers :=
        ((settle_effect hsettle).2.trials active.trialId).mpr howner
      obtain ⟨ledger', hledger'⟩ := Dict.mem_iff.mp howner'
      simp only [applyCampaignEvent, applyProviderSettlement, reservation, scheduledTrial,
        bind_eq_ok, orRaise_eq_ok, raiseIf_eq_ok, exists_const, pure_eq_ok]
      refine ⟨_, active, hactive, provider, hprovider, by simp [hdispatched], trial, htrial,
        by simp, by simp, settled, hsettle, ledger', hledger', rfl⟩

/-- The active reservations are the given entries. -/
structure ActiveEntries (state : CampaignProjection)
    (entries : List (Identifier × ReservationLedger)) : Prop where
  nodup : (entries.map Prod.fst).Nodup
  mem_iff : ∀ entry, entry ∈ entries ↔ state.reservations.get? entry.1 = some entry.2

omit [CampaignCanonical] in
lemma activeEntries_sorted (state : CampaignProjection) :
    ActiveEntries state (sortedBy Prod.fst state.reservations.entries) where
  nodup := ((sortedBy_perm _ _).map Prod.fst).nodup_iff.mpr state.reservations.nodup
  mem_iff entry := by rw [mem_sortedBy, Dict.mem_entries]

omit [CampaignCanonical] in
lemma ActiveEntries.tail {entry : Identifier × ReservationLedger}
    {entries : List (Identifier × ReservationLedger)} (h : ActiveEntries state (entry :: entries))
    (herase : state'.reservations = state.reservations.erase entry.1) :
    ActiveEntries state' entries := by
  have hnodup := h.nodup
  rw [List.map_cons, List.nodup_cons] at hnodup
  refine ⟨hnodup.2, ?_⟩
  intro other
  rw [herase, Dict.get?_erase]
  constructor
  · intro hother
    have hne : other.1 ≠ entry.1 := by
      intro heq
      exact hnodup.1 (heq ▸ List.mem_map_of_mem hother)
    rw [if_neg hne]
    exact (h.mem_iff other).mp (List.mem_cons_of_mem _ hother)
  · intro hget
    split_ifs at hget with hne
    rcases List.mem_cons.mp ((h.mem_iff other).mpr hget) with rfl | hother
    · exact absurd rfl hne
    · exact hother

/-- Closing one reservation after the other succeeds when each of them can be closed. -/
lemma closeReservation_run (hreplay : replayCampaign header committed = .ok state)
    {entries : List (Identifier × ReservationLedger)} {batch : CampaignBatch}
    (hbuilt : batch.Built header eventIds state committed.length)
    (hactive : ActiveEntries batch.state entries)
    (hclosable : ∀ entry ∈ entries, entry.2.Closable) :
    ∃ batch' requested,
      foldSteps (closeReservation header eventIds committed.length) batch entries = .ok batch' ∧
      batch'.Built header eventIds state committed.length ∧ ActiveEntries batch'.state [] ∧
      batch'.events = batch.events ++ requested ∧ List.Forall₂ ClosedBy entries requested := by
  induction entries generalizing batch with
  | nil => exact ⟨batch, [], rfl, hbuilt, hactive, (List.append_nil _).symm, List.Forall₂.nil⟩
  | cons entry entries ih =>
    have hreach : replayCampaign header (committed ++ batch.events) = .ok batch.state :=
      foldSteps_append_eq_ok.mpr ⟨state, hreplay, hbuilt.replay⟩
    have hentry := (hactive.mem_iff entry).mp List.mem_cons_self
    obtain ⟨payload, hpayload⟩ := (closingPayload_isOk_iff (replayCampaign_sound hreach hentry)
      (k := entry.1)).mpr (hclosable entry List.mem_cons_self)
    have hclosed := closedBy_of_closingPayload hpayload (eventIds batch.events.length)
      (committed.length + batch.events.length)
    obtain ⟨state', happly⟩ := applyCampaignEvent_closing hreach hentry hpayload
      (eventIds batch.events.length) (committed.length + batch.events.length)
    have hpush : batch.push header eventIds committed.length payload = .ok
        { state := state', events := batch.events ++ [{
            eventId := eventIds batch.events.length
            sequence := committed.length + batch.events.length, payload }] } :=
      CampaignBatch.push_eq_ok.mpr ⟨_, rfl, happly, rfl⟩
    have hrest : ActiveEntries state' entries :=
      hactive.tail (reservations_of_closes happly hclosed.closes)
    obtain ⟨batch', requested, hfold, hbuilt', hempty, hevents, hforall⟩ := ih (hbuilt.push hpush)
      hrest fun other hother => hclosable other (List.mem_cons_of_mem _ hother)
    refine ⟨batch', _ :: requested, ?_, hbuilt', hempty, ?_, List.Forall₂.cons hclosed hforall⟩
    · refine foldSteps_cons_eq_ok.mpr ⟨_, ?_, hfold⟩
      exact bind_eq_ok.mpr ⟨payload, hpayload, hpush⟩
    · rw [hevents, List.append_assoc, List.singleton_append]

/-- The recovery commits a batch that charges every dispatched reservation its whole claim and
the other ones nothing, after which none is active. -/
def RecoversDispatches (header : CampaignHeader) (eventIds : Nat → UUID)
    (committed : List CampaignEvent) (state : CampaignProjection) : Prop :=
  ∃ requested closed trials after,
    recoverIncompleteDispatches header eventIds committed =
      .ok (committed ++ requested, closed, trials) ∧
    replayCampaign header (committed ++ requested) = .ok after ∧
    after.reservations.isEmpty = true ∧
    List.Forall₂ ClosedBy (sortedBy Prod.fst state.reservations.entries) requested

/-- Recovery succeeds exactly when every active reservation can be closed. -/
theorem recoversDispatches_iff (hreplay : replayCampaign header committed = .ok state)
    (hids : FreshIds eventIds committed) (hactive : state.reservations.isEmpty = false) :
    RecoversDispatches header eventIds committed state ↔
      ∀ k active, state.reservations.get? k = some active → active.Closable := by
  have hsorted := activeEntries_sorted state
  constructor
  · rintro ⟨requested, closed, trials, after, hrecover, -⟩ k active hk
    simp only [recoverIncompleteDispatches, bind_eq_ok] at hrecover
    obtain ⟨state₁, hstate₁, batch, hfold, -⟩ := hrecover
    rw [hreplay, Except.ok.injEq] at hstate₁
    subst hstate₁
    have hmem : (k, active) ∈ sortedBy Prod.fst state.reservations.entries :=
      (hsorted.mem_iff (k, active)).mpr hk
    obtain ⟨i, hi⟩ := List.mem_iff_getElem?.mp hmem
    obtain ⟨m, m', -, hstep⟩ := foldSteps_at hfold hi
    obtain ⟨payload, hpayload, -⟩ := bind_eq_ok.mp hstep
    exact (closingPayload_isOk_iff (replayCampaign_sound hreplay hk)).mp ⟨payload, hpayload⟩
  · intro hclosable
    have hbuilt : CampaignBatch.Built header eventIds state committed.length { state } :=
      ⟨rfl, rfl, rfl⟩
    obtain ⟨batch, requested, hfold, hbuilt', hempty, hevents, hforall⟩ :=
      closeReservation_run hreplay hbuilt hsorted fun entry hentry =>
        hclosable entry.1 entry.2 ((hsorted.mem_iff entry).mp hentry)
    rw [List.nil_append] at hevents
    have hne : batch.events ≠ [] := by
      intro hnil
      rw [← hevents, hnil] at hforall
      have hentries := (sortedBy_perm Prod.fst state.reservations.entries).symm
      rw [List.forall₂_nil_right_iff.mp hforall] at hentries
      rw [Dict.isEmpty, hentries.eq_nil] at hactive
      cases hactive
    obtain ⟨htransact, hafter⟩ := hbuilt'.transact hreplay hids hne
    rw [hevents] at htransact hafter
    let entries := sortedBy Prod.fst state.reservations.entries
    refine ⟨requested, entries.map Prod.fst,
      sortedBy id (entries.map fun entry => entry.2.trialId).dedup, batch.state, ?_, hafter, ?_,
      hforall⟩
    · simp only [recoverIncompleteDispatches, bind_eq_ok, raiseIf_eq_ok, exists_const, pure_eq_ok]
      exact ⟨state, hreplay, batch, hfold, hne, _, hevents ▸ htransact, rfl⟩
    · rw [Dict.isEmpty_iff]
      intro k
      refine Option.eq_none_iff_forall_ne_some.mpr ?_
      intro active hget
      exact List.not_mem_nil ((hempty.mem_iff (k, active)).mpr hget)

/-! ### Stopping the unfinished trials -/

/-- The counters fit into immutable resource amounts. -/
def MutableResources.JsonSafe (r : MutableResources) : Prop :=
  ∀ item, r.get item ≤ JCS_INTEGER_MAX

omit [Canonical] [CampaignCanonical] in
lemma snapshotIsZero_eq_ok {r : MutableResources} (hnonneg : ∀ item, 0 ≤ r.get item)
    {zero : Bool} :
    snapshotIsZero r = .ok zero ↔ r.JsonSafe ∧ zero = decide (∀ item, r.get item = 0) := by
  simp only [snapshotIsZero, bind_eq_ok, raiseIf_eq_ok, exists_const, pure_eq_ok, not_exists,
    not_or, not_lt, MutableResources.JsonSafe]
  constructor
  · rintro ⟨hbounds, rfl⟩
    exact ⟨fun item => (hbounds item).2, rfl⟩
  · rintro ⟨hsafe, rfl⟩
    exact ⟨fun item => ⟨hnonneg item, hsafe item⟩, rfl⟩

/-- The trial is waiting for its outcome. -/
def CampaignProjection.unfinished (state : CampaignProjection) (trial : ScheduledTrial) : Bool :=
  (state.ledgers.get? trial.trialId).any fun ledger => ledger.outcome.isNone

/-- The event records an outcome of the trial, for the given reason. -/
def StoppedBy (reason : StopReason) (trial : ScheduledTrial) (event : CampaignEvent) : Prop :=
  ∃ outcome, event.payload = .trialOutcomeRecorded { trialId := trial.trialId, outcome } ∧
    outcome.terminalReason = reason

/-- Every scheduled trial has a task in the header. -/
def TasksScheduled (header : CampaignHeader) : Prop :=
  ∀ trial ∈ header.schedule.trials, ∃ task ∈ header.tasks,
    task.taskReleaseDigest = trial.binding.taskReleaseDigest

section Stop

variable {reason : StopReason} {hreason : reason ≠ .verifierSuccess} {trial : ScheduledTrial}
  {ledger : TrialProjection} {batch batch' : CampaignBatch} {length : Nat}

omit [Canonical] [CampaignCanonical] in
lemma find?_scheduled (htrial : trial ∈ header.schedule.trials) :
    header.schedule.trials.find? (fun other => other.trialId = trial.trialId) = some trial := by
  obtain ⟨other, hmem, hother, hid⟩ := exists_find?_eq_some
    (p := fun other : ScheduledTrial => other.trialId = trial.trialId) htrial rfl
  rw [hother, List.inj_on_of_nodup_map header.schedule.trials_nodup hmem htrial hid]

omit [CampaignCanonical] in
/-- The ledger accepts the outcome of a stopped trial. -/
lemma applyTrialOutcome_stop (htasks : TasksScheduled header)
    (htrial : trial ∈ header.schedule.trials)
    (hledger : state.ledgers.get? trial.trialId = some ledger) (houtcome : ledger.outcome = none)
    (hempty : state.reservations.isEmpty = true) (hsafe : ledger.committed.JsonSafe)
    (hnonneg : ∀ item, 0 ≤ ledger.committed.get item) {dispatched : Bool}
    (hdispatched : dispatched =
      (!decide (∀ item, ledger.committed.get item = 0) || decide (ledger.attempts ≠ []))) :
    applyTrialOutcome header state
        { trialId := trial.trialId, outcome := stopOutcome reason hreason dispatched } =
      .ok { state with
        ledgers := state.ledgers.insert trial.trialId
          { ledger with outcome := some (stopOutcome reason hreason dispatched) } } := by
  obtain ⟨task, htask, hrelease⟩ := htasks trial htrial
  obtain ⟨task', -, htask', -⟩ := exists_find?_eq_some
    (p := fun item : CampaignTask => item.taskReleaseDigest = trial.binding.taskReleaseDigest)
    htask hrelease
  simp only [applyTrialOutcome, scheduledTrial, bind_eq_ok, orRaise_eq_ok, raiseIf_eq_ok,
    exists_const, pure_eq_ok]
  refine ⟨trial, find?_scheduled htrial, ledger, hledger, by simp [houtcome], ?_, task', htask',
    by simp [stopOutcome], [], rfl, ⟨⟩, ?_, rfl⟩
  · rintro ⟨active, hactive, -⟩
    obtain ⟨k, hk⟩ := Dict.mem_values.mp hactive
    rw [Dict.isEmpty_iff.mp hempty k] at hk
    cases hk
  · cases dispatched with
    | true => rfl
    | false =>
      have hclean := hdispatched.symm
      simp only [Bool.or_eq_false_iff, Bool.not_eq_false', decide_eq_true_eq,
        decide_eq_false_iff_not, not_not] at hclean
      simp only [validateNotDispatched, stopOutcome, Bool.false_eq_true, if_false, if_true,
        bind_eq_ok, raiseIf_eq_ok]
      exact ⟨_, (snapshotIsZero_eq_ok hnonneg).mpr ⟨hsafe, rfl⟩, by simp [hclean]⟩

lemma stopTrial_finished (hledger : batch.state.ledgers.get? trial.trialId = some ledger)
    (houtcome : ledger.outcome.isSome) :
    stopTrial header eventIds reason hreason length batch trial = .ok batch := by
  simp [stopTrial, hledger, houtcome, orRaise, bind, Except.bind, pure, Except.pure]

lemma jsonSafe_of_stopTrial (hledger : batch.state.ledgers.get? trial.trialId = some ledger)
    (houtcome : ledger.outcome = none) (hnonneg : ∀ item, 0 ≤ ledger.committed.get item)
    (h : stopTrial header eventIds reason hreason length batch trial = .ok batch') :
    ledger.committed.JsonSafe := by
  simp only [stopTrial, bind_eq_ok, orRaise_eq_ok] at h
  obtain ⟨ledger', hledger', h⟩ := h
  rw [hledger, Option.some.injEq] at hledger'
  subst hledger'
  simp only [houtcome, Option.isSome_none, Bool.false_eq_true, if_false, bind_eq_ok] at h
  obtain ⟨zero, hzero, -⟩ := h
  exact ((snapshotIsZero_eq_ok hnonneg).mp hzero).1

variable (eventIds hreason length) in
lemma stopTrial_unfinished (htasks : TasksScheduled header)
    (htrial : trial ∈ header.schedule.trials)
    (hledger : batch.state.ledgers.get? trial.trialId = some ledger)
    (houtcome : ledger.outcome = none) (hempty : batch.state.reservations.isEmpty = true)
    (hsafe : ledger.committed.JsonSafe) (hnonneg : ∀ item, 0 ≤ ledger.committed.get item) :
    ∃ batch' event outcome,
      stopTrial header eventIds reason hreason length batch trial = .ok batch' ∧
      batch.push header eventIds length event.payload = .ok batch' ∧
      batch'.events = batch.events ++ [event] ∧ StoppedBy reason trial event ∧
      batch'.state = { batch.state with
        ledgers := batch.state.ledgers.insert trial.trialId
          { ledger with outcome := some outcome } } := by
  let dispatched := !decide (∀ item, ledger.committed.get item = 0) || decide (ledger.attempts ≠ [])
  let outcome := stopOutcome reason hreason dispatched
  have happly : applyTrialOutcome header batch.state { trialId := trial.trialId, outcome } = _ :=
    applyTrialOutcome_stop htasks htrial hledger houtcome hempty hsafe hnonneg rfl
  let event : CampaignEvent := {
    eventId := eventIds batch.events.length
    sequence := length + batch.events.length
    payload := .trialOutcomeRecorded { trialId := trial.trialId, outcome } }
  have hpush : batch.push header eventIds length event.payload = .ok {
      state := { batch.state with
        ledgers := batch.state.ledgers.insert trial.trialId
          { ledger with outcome := some outcome } }
      events := batch.events ++ [event] } :=
    CampaignBatch.push_eq_ok.mpr ⟨event, rfl, happly, rfl⟩
  refine ⟨_, event, outcome, ?_, hpush, rfl, ⟨outcome, rfl, rfl⟩, rfl⟩
  simp only [stopTrial, bind_eq_ok, orRaise_eq_ok]
  refine ⟨ledger, hledger, ?_⟩
  rw [if_neg (by simp [houtcome]), bind_eq_ok]
  exact ⟨_, (snapshotIsZero_eq_ok hnonneg).mpr ⟨hsafe, rfl⟩, hpush⟩

/-- The ledgers of the given trials are those of the replayed journal. -/
def SameLedgers (state state' : CampaignProjection) (trials : List ScheduledTrial) : Prop :=
  ∀ trial ∈ trials, ∃ ledger, state.ledgers.get? trial.trialId = some ledger ∧
    state'.ledgers.get? trial.trialId = some ledger

/-- The counters of every unfinished trial fit into immutable resource amounts. -/
def UnfinishedJsonSafe (state : CampaignProjection) (trials : List ScheduledTrial) : Prop :=
  ∀ trial ∈ trials, ∀ ledger, state.ledgers.get? trial.trialId = some ledger →
    ledger.outcome = none → ledger.committed.JsonSafe

variable {trials : List ScheduledTrial}

omit [CampaignCanonical] in
lemma SameLedgers.tail {m m' : CampaignProjection} (h : SameLedgers state m (trial :: trials))
    (hnodup : ((trial :: trials).map ScheduledTrial.trialId).Nodup)
    (hledgers : m'.ledgers = m.ledgers.insert trial.trialId ledger) :
    SameLedgers state m' trials := by
  rw [List.map_cons, List.nodup_cons] at hnodup
  intro other hother
  obtain ⟨ledger', hledger', hm⟩ := h other (List.mem_cons_of_mem _ hother)
  have hne : other.trialId ≠ trial.trialId := by
    intro heq
    exact hnodup.1 (heq ▸ List.mem_map_of_mem hother)
  exact ⟨ledger', hledger', by rw [hledgers, Dict.get?_insert_of_ne _ _ hne, hm]⟩

omit [CampaignCanonical] in
lemma unfinished_eq (hledger : state.ledgers.get? trial.trialId = some ledger) :
    state.unfinished trial = ledger.outcome.isNone := by
  rw [CampaignProjection.unfinished, hledger, Option.any_some]

variable (hreason) in
/-- Stopping one trial after the other records an outcome for each that has none. -/
lemma stopTrial_run (htasks : TasksScheduled header)
    (hnonneg : ∀ t ledger, state.ledgers.get? t = some ledger →
      ∀ item, 0 ≤ ledger.committed.get item)
    (hnodup : (trials.map ScheduledTrial.trialId).Nodup)
    (hscheduled : ∀ trial ∈ trials, trial ∈ header.schedule.trials)
    (hsafe : UnfinishedJsonSafe state trials) (hbuilt : batch.Built header eventIds state length)
    (hempty : batch.state.reservations.isEmpty = true)
    (hsame : SameLedgers state batch.state trials) :
    ∃ batch' requested,
      foldSteps (stopTrial header eventIds reason hreason length) batch trials = .ok batch' ∧
      batch'.Built header eventIds state length ∧ batch'.events = batch.events ++ requested ∧
      List.Forall₂ (StoppedBy reason) (trials.filter state.unfinished) requested ∧
      (∀ t ∉ trials.map ScheduledTrial.trialId,
        batch'.state.ledgers.get? t = batch.state.ledgers.get? t) ∧
      ∀ trial ∈ trials, batch'.state.unfinished trial = false := by
  induction trials generalizing batch with
  | nil =>
    exact ⟨batch, [], rfl, hbuilt, (List.append_nil _).symm, List.Forall₂.nil, fun _ _ => rfl,
      by simp⟩
  | cons trial trials ih =>
    have hnodup' := hnodup
    rw [List.map_cons, List.nodup_cons] at hnodup'
    have hscheduled' := fun other hother => hscheduled other (List.mem_cons_of_mem trial hother)
    have hsafe' : UnfinishedJsonSafe state trials :=
      fun other hother => hsafe other (List.mem_cons_of_mem trial hother)
    obtain ⟨ledger, hledger, hm⟩ := hsame trial List.mem_cons_self
    have hstate := unfinished_eq hledger
    cases houtcome : ledger.outcome with
    | some outcome =>
      have hstep : stopTrial header eventIds reason hreason length batch trial = .ok batch :=
        stopTrial_finished hm (by simp [houtcome])
      obtain ⟨batch', requested, hfold, hbuilt', hevents, hforall, hframe, hdone⟩ := ih hnodup'.2
        hscheduled' hsafe' hbuilt hempty
        fun other hother => hsame other (List.mem_cons_of_mem _ hother)
      refine ⟨batch', requested, foldSteps_cons_eq_ok.mpr ⟨batch, hstep, hfold⟩, hbuilt', hevents,
        ?_, ?_, ?_⟩
      · rwa [List.filter_cons_of_neg (by simp [hstate, houtcome])]
      · intro t ht
        exact hframe t fun hmem => ht (List.mem_cons_of_mem _ hmem)
      · intro other hother
        rcases List.mem_cons.mp hother with rfl | hother
        · rw [unfinished_eq ((hframe _ hnodup'.1).trans hm), houtcome, Option.isNone_some]
        · exact hdone other hother
    | none =>
      obtain ⟨batch₁, event, outcome, hstep, hpush, hevents₁, hstopped, hstate₁⟩ :=
        stopTrial_unfinished eventIds hreason length htasks
          (hscheduled trial List.mem_cons_self) hm houtcome hempty
          (hsafe trial List.mem_cons_self ledger hledger houtcome) (hnonneg _ ledger hledger)
      have hledgers₁ := congrArg CampaignProjection.ledgers hstate₁
      have hempty₁ : batch₁.state.reservations.isEmpty = true := by rw [hstate₁]; exact hempty
      obtain ⟨batch', requested, hfold, hbuilt', hevents, hforall, hframe, hdone⟩ := ih hnodup'.2
        hscheduled' hsafe' (hbuilt.push hpush) hempty₁ (hsame.tail hnodup hledgers₁)
      refine ⟨batch', event :: requested, foldSteps_cons_eq_ok.mpr ⟨batch₁, hstep, hfold⟩, hbuilt',
        ?_, ?_, ?_, ?_⟩
      · rw [hevents, hevents₁, List.append_assoc, List.singleton_append]
      · rw [List.filter_cons_of_pos (by simp [hstate, houtcome])]
        exact List.Forall₂.cons hstopped hforall
      · intro t ht
        rw [List.map_cons, List.mem_cons, not_or] at ht
        rw [hframe t ht.2, hledgers₁, Dict.get?_insert_of_ne _ _ ht.1]
      · intro other hother
        rcases List.mem_cons.mp hother with rfl | hother
        · have hget := hframe _ hnodup'.1
          rw [hledgers₁, Dict.get?_insert_self] at hget
          rw [unfinished_eq hget, Option.isNone_some]
        · exact hdone other hother

/-- A trial whose counters do not fit cannot be stopped. -/
lemma unfinishedJsonSafe_of_run (htasks : TasksScheduled header)
    (hnonneg : ∀ t ledger, state.ledgers.get? t = some ledger →
      ∀ item, 0 ≤ ledger.committed.get item)
    (hnodup : (trials.map ScheduledTrial.trialId).Nodup)
    (hscheduled : ∀ trial ∈ trials, trial ∈ header.schedule.trials)
    (hempty : batch.state.reservations.isEmpty = true)
    (hsame : SameLedgers state batch.state trials)
    (h : foldSteps (stopTrial header eventIds reason hreason length) batch trials = .ok batch') :
    UnfinishedJsonSafe state trials := by
  induction trials generalizing batch with
  | nil =>
    intro trial htrial
    exact absurd htrial List.not_mem_nil
  | cons trial trials ih =>
    have hnodup' := hnodup
    rw [List.map_cons, List.nodup_cons] at hnodup'
    obtain ⟨batch₁, hstep, hrest⟩ := foldSteps_cons_eq_ok.mp h
    obtain ⟨ledger, hledger, hm⟩ := hsame trial List.mem_cons_self
    have hhead : ledger.outcome = none → ledger.committed.JsonSafe := fun houtcome =>
      jsonSafe_of_stopTrial hm houtcome (hnonneg _ ledger hledger) hstep
    have hnext : batch₁.state.reservations.isEmpty = true ∧
        SameLedgers state batch₁.state trials := by
      cases houtcome : ledger.outcome with
      | some outcome =>
        rw [stopTrial_finished hm (by simp [houtcome]), Except.ok.injEq] at hstep
        subst hstep
        exact ⟨hempty, fun other hother => hsame other (List.mem_cons_of_mem _ hother)⟩
      | none =>
        obtain ⟨batch₂, event, outcome, hstep₂, -, -, -, hstate₂⟩ :=
          stopTrial_unfinished eventIds hreason length htasks
            (hscheduled trial List.mem_cons_self) hm houtcome hempty (hhead houtcome)
            (hnonneg _ ledger hledger)
        rw [hstep, Except.ok.injEq] at hstep₂
        subst hstep₂
        exact ⟨by rw [hstate₂]; exact hempty,
          hsame.tail hnodup (congrArg CampaignProjection.ledgers hstate₂)⟩
    have htail :=
      ih hnodup'.2 (fun other hother => hscheduled other (List.mem_cons_of_mem _ hother))
      hnext.1 hnext.2 hrest
    intro other hother ledger' hledger' houtcome
    rcases List.mem_cons.mp hother with rfl | hother
    · rw [hledger, Option.some.injEq] at hledger'
      subst hledger'
      exact hhead houtcome
    · exact htail other hother ledger' hledger' houtcome

end Stop

/-- Every scheduled trial has a ledger. -/
lemma ledger_of_scheduled (h : replayCampaign header events = .ok state) {trial : ScheduledTrial}
    (htrial : trial ∈ header.schedule.trials) :
    ∃ ledger, state.ledgers.get? trial.trialId = some ledger := by
  refine Dict.mem_iff.mp ((trials_eq h trial.trialId).mpr ?_)
  rw [CampaignProjection.initial, Dict.mem_ofList, List.map_map]
  exact List.mem_map_of_mem (f := ScheduledTrial.trialId) htrial

/-- Stopping commits one outcome for each trial that has none, whatever the reason. -/
def StopsUnfinished (header : CampaignHeader) (eventIds : Nat → UUID)
    (committed : List CampaignEvent) (state : CampaignProjection) : Prop :=
  ∀ reason : StopReason, reason ≠ .verifierSuccess → ∃ requested after,
    stopUnfinished header eventIds reason committed = .ok (committed ++ requested) ∧
    List.Forall₂ (StoppedBy reason) (header.schedule.trials.filter state.unfinished) requested ∧
    replayCampaign header (committed ++ requested) = .ok after ∧
    ∀ trial ∈ header.schedule.trials, after.unfinished trial = false

/-- Stopping succeeds exactly when the counters of every unfinished trial are JSON-safe. -/
theorem stopsUnfinished_iff (hreplay : replayCampaign header committed = .ok state)
    (hids : FreshIds eventIds committed) (htasks : TasksScheduled header)
    (hempty : state.reservations.isEmpty = true)
    (hunfinished : ∃ trial ∈ header.schedule.trials, state.unfinished trial = true) :
    StopsUnfinished header eventIds committed state ↔
      UnfinishedJsonSafe state header.schedule.trials := by
  have hnonneg : ∀ t ledger, state.ledgers.get? t = some ledger →
      ∀ item, 0 ≤ ledger.committed.get item := fun t ledger hledger item =>
    ((replayCampaign_countersConserved hreplay).trial_nonneg t ledger hledger item).2
  have hsame : SameLedgers state state header.schedule.trials := by
    intro trial htrial
    obtain ⟨ledger, hledger⟩ := ledger_of_scheduled hreplay htrial
    exact ⟨ledger, hledger, hledger⟩
  constructor
  · intro hstops
    obtain ⟨requested, after, hstop, -⟩ := hstops .explicitCancel (by decide)
    rw [stopUnfinished, dif_neg (by decide)] at hstop
    simp only [bind_eq_ok] at hstop
    obtain ⟨state₁, hstate₁, _, -, batch, hfold, -⟩ := hstop
    rw [hreplay, Except.ok.injEq] at hstate₁
    subst hstate₁
    exact unfinishedJsonSafe_of_run htasks hnonneg header.schedule.trials_nodup
      (fun _ htrial => htrial) hempty hsame hfold
  · intro hsafe reason hreason
    have hbuilt : CampaignBatch.Built header eventIds state committed.length { state } :=
      ⟨rfl, rfl, rfl⟩
    obtain ⟨batch, requested, hfold, hbuilt', hevents, hforall, -, hdone⟩ :=
      stopTrial_run hreason htasks hnonneg
        header.schedule.trials_nodup (fun _ htrial => htrial) hsafe hbuilt hempty hsame
    rw [List.nil_append] at hevents
    have hne : batch.events ≠ [] := by
      intro hnil
      rw [← hevents, hnil] at hforall
      obtain ⟨trial, htrial, hopen⟩ := hunfinished
      have hmem : trial ∈ header.schedule.trials.filter state.unfinished :=
        List.mem_filter.mpr ⟨htrial, hopen⟩
      rw [List.forall₂_nil_right_iff.mp hforall] at hmem
      exact List.not_mem_nil hmem
    obtain ⟨htransact, hafter⟩ := hbuilt'.transact hreplay hids hne
    refine ⟨requested, batch.state, ?_, hforall, hevents ▸ hafter, hdone⟩
    rw [stopUnfinished, dif_neg hreason]
    simp only [bind_eq_ok, raiseIf_eq_ok, exists_const]
    exact ⟨state, hreplay, by simp [hempty], batch, hfold, hne, hevents ▸ htransact⟩

end EdaGym
