import EdaGym.Providers.CampaignReplay
import EdaGym.Lib.Ledger
import EdaGym.Run.Terminal
import Mathlib.Algebra.BigOperators.Pi
import Mathlib.Algebra.Order.Group.Int
import Mathlib.Algebra.Order.Pi

/-!
# The campaign replay refines a reservation ledger

Every accepted accounting event is one operation of the abstract ledger of `EdaGym.Lib.Ledger`, or
leaves it as it is. Conservation and the hard caps are then facts about the ledger.
-/

namespace EdaGym

/-! ### The abstract ledger of a projection -/

/-- The counters of a resource record as one vector. -/
def CampaignResources.vector (r : CampaignResources) : ResourceField → Int :=
  fun item => r.get item

lemma vector_nonneg (r : CampaignResources) : 0 ≤ r.vector := by
  intro item
  exact Int.natCast_nonneg _

lemma get_add_vector (r : MutableResources) (value : CampaignResources) :
    (r.add value).get = r.get + value.vector :=
  funext fun item => MutableResources.get_add r value item

lemma get_subtract_vector (r : MutableResources) (value : CampaignResources) :
    (r.subtract value).get = r.get - value.vector :=
  funext fun item => MutableResources.get_subtract r value item

section Refinement

variable [Canonical]

def TrialProjection.account (trial : TrialProjection) : Account (ResourceField → Int) where
  reserved := trial.reserved.get
  committed := trial.committed.get

def CampaignProjection.ledger (state : CampaignProjection) :
    Ledger Identifier Identifier (ResourceField → Int) where
  active := state.reservations.mapVal fun r => (r.trialId, r.claim.vector)
  accounts := state.ledgers.mapVal TrialProjection.account
  reserved := state.reserved.get
  committed := state.committed.get

/-- The ledger operation of an accounting event. -/
def CampaignEvent.ledgerOp (event : CampaignEvent) :
    Option (LedgerOp Identifier Identifier (ResourceField → Int)) :=
  match event.payload with
  | .reservationCreated p => some (.reserve p.reservationId p.trialId p.claim.vector)
  | .reservationCancelled p => some (.release p.reservationId)
  | .workSettled p => some (.settle p.reservationId p.actual.vector)
  | .providerAttemptSettled p => some (.settle p.reservationId p.attempt.chargedResources.vector)
  | .reservationDispatched _ | .trialOutcomeRecorded _ | .budgetStopped _ => none

variable {header : CampaignHeader} {state state' : CampaignProjection} {event : CampaignEvent}

/-! ### Inversion of the accounting steps -/

variable {trialId : Identifier}

lemma readyCampaignProjection_eq_ok {ledger : TrialProjection} :
    readyCampaignProjection state trialId = .ok ledger ↔
      state.ledgers.get? trialId = some ledger ∧ ledger.outcome = none ∧
        state.globalStopDimension = none ∧ state.trialStopDimensions.get? trialId = none ∧
        state.budgetViolation = false := by
  simp only [readyCampaignProjection, bind_eq_ok, orRaise_eq_ok, raiseIf_eq_ok, exists_const,
    Option.not_isSome_iff_eq_none]
  constructor
  · rintro ⟨l, hl, hout, h⟩
    cases hg : state.globalStopDimension with
    | some d => simp [hg] at h
    | none =>
      cases ht : state.trialStopDimensions.get? trialId with
      | some d => simp [hg, ht] at h
      | none =>
        simp only [hg, ht, bind_eq_ok, raiseIf_eq_ok, exists_const, pure_eq_ok,
          Bool.not_eq_true] at h
        obtain ⟨hv, rfl⟩ := h
        exact ⟨hl, hout, rfl, rfl, hv⟩
  · rintro ⟨hl, hout, hg, ht, hv⟩
    refine ⟨ledger, hl, hout, ?_⟩
    simp only [hg, ht, bind_eq_ok, raiseIf_eq_ok, exists_const, pure_eq_ok, hv]
    exact ⟨Bool.false_ne_true, trivial⟩

lemma reservationRejection_eq_none {campaign : CampaignSpec}
    {claim : CampaignResources} {providerRequest : Bool}
    (h : reservationRejection state campaign trialId claim providerRequest = .ok none) :
    ∃ trial, state.ledgers.get? trialId = some trial ∧
      (∀ d, d.amount ((MutableResources.sumResources state.committed state.reserved).add claim) ≤
        limits campaign.tokenLimits campaign.executionLimits false d) ∧
      ∀ d, d.amount ((MutableResources.sumResources trial.committed trial.reserved).add claim) ≤
        limits campaign.tokenLimits campaign.executionLimits true d := by
  simp only [reservationRejection, bind_eq_ok] at h
  obtain ⟨trial, htrial, h⟩ := h
  split_ifs at h with h₁ h₂
  · cases h
  · cases h
  · cases hglobal : firstExceeded
        (MutableResources.sumResources state.committed state.reserved) claim
        (limits campaign.tokenLimits campaign.executionLimits false) with
    | some d =>
      rw [hglobal] at h
      cases h
    | none =>
      cases hlocal : firstExceeded
          (MutableResources.sumResources trial.committed trial.reserved) claim
          (limits campaign.tokenLimits campaign.executionLimits true) with
      | some d =>
        rw [hglobal, hlocal] at h
        cases h
      | none =>
        exact ⟨trial, (readyCampaignProjection_eq_ok.mp htrial).1,
          firstExceeded_eq_none.mp hglobal, firstExceeded_eq_none.mp hlocal⟩

variable {reservationId : Identifier} {active : ReservationLedger}

lemma releaseReservation_ledger (h : releaseReservation state reservationId active = .ok state')
    (hactive : state.reservations.get? reservationId = some active) :
    state.ledger.step (.release reservationId) = some state'.ledger ∧
      state'.budgetViolation = state.budgetViolation := by
  simp only [releaseReservation, bind_eq_ok, orRaise_eq_ok, pure_eq_ok] at h
  obtain ⟨ledger, hl, rfl⟩ := h
  refine ⟨Ledger.close_eq_some.mpr ⟨active.trialId, active.claim.vector, ledger.account,
    ?_, ?_, ?_⟩, rfl⟩
  · simp [CampaignProjection.ledger, Dict.get?_mapVal, hactive]
  · simp [CampaignProjection.ledger, Dict.get?_mapVal, hl]
  · simp [CampaignProjection.ledger, Dict.mapVal_insert, Dict.mapVal_erase,
      TrialProjection.account, get_subtract_vector]

/-- Settling is the ledger's settlement; exceeding the claim raises the violation flag. -/
lemma settle_ledger {actual : CampaignResources}
    (hactive : state.reservations.get? reservationId = some active)
    (h : settle state reservationId active actual = .ok state') :
    state.ledger.step (.settle reservationId actual.vector) = some state'.ledger ∧
      state'.budgetViolation =
        (state.budgetViolation || decide (Exceeds actual active.claim)) := by
  simp only [settle, bind_eq_ok, orRaise_eq_ok, pure_eq_ok] at h
  obtain ⟨ledger, hl, rfl⟩ := h
  refine ⟨Ledger.close_eq_some.mpr ⟨active.trialId, active.claim.vector, ledger.account,
    ?_, ?_, ?_⟩, rfl⟩
  · simp [CampaignProjection.ledger, Dict.get?_mapVal, hactive]
  · simp [CampaignProjection.ledger, Dict.get?_mapVal, hl]
  · simp [CampaignProjection.ledger, Dict.mapVal_insert, Dict.mapVal_erase,
      TrialProjection.account, get_subtract_vector, get_add_vector]

/-- Rewriting a trial's ledger without touching its totals leaves the abstract ledger alone. -/
lemma ledger_insert_trial {trial trial' : TrialProjection}
    (hget : state.ledgers.get? trialId = some trial)
    (hledgers : state'.ledgers = state.ledgers.insert trialId trial')
    (haccount : trial'.account = trial.account)
    (hreservations : state'.reservations = state.reservations)
    (hreserved : state'.reserved = state.reserved)
    (hcommitted : state'.committed = state.committed) : state'.ledger = state.ledger := by
  have hsame : state.ledger.accounts.insert trialId trial.account = state.ledger.accounts := by
    apply Dict.insert_get?
    simp [CampaignProjection.ledger, Dict.get?_mapVal, hget]
  simp only [CampaignProjection.ledger] at hsame
  simp [CampaignProjection.ledger, hledgers, hreservations, hreserved, hcommitted,
    Dict.mapVal_insert, haccount, hsame]

/-! ### One step -/

/-- What an accepted event does to the abstract ledger and to the violation flag. -/
structure LedgerStep (state : CampaignProjection) (event : CampaignEvent)
    (state' : CampaignProjection) : Prop where
  ledger : match event.ledgerOp with
    | none => state'.ledger = state.ledger
    | some op => state.ledger.step op = some state'.ledger
  violation : state.budgetViolation = true → state'.budgetViolation = true
  within : ∀ k actual, event.ledgerOp = some (.settle k actual) → state'.budgetViolation = false →
    ∀ owner claim, state.ledger.active.get? k = some (owner, claim) → actual ≤ claim

/-- A settlement that raises no violation stays within the claim. -/
lemma within_of_not_exceeds {actual : CampaignResources}
    (hactive : state.reservations.get? reservationId = some active)
    (hnot : ¬ Exceeds actual active.claim) :
    ∀ owner claim, state.ledger.active.get? reservationId = some (owner, claim) →
      actual.vector ≤ claim := by
  intro owner claim hget
  simp only [CampaignProjection.ledger, Dict.get?_mapVal, hactive, Option.map_some,
    Option.some.injEq, Prod.mk.injEq] at hget
  rw [← hget.2]
  intro item
  exact Int.ofNat_le.mpr (le_of_not_exceeds hnot item)

lemma ledgerStep_dispatched {payload : ReservationDispatchedPayload}
    (hp : event.payload = .reservationDispatched payload)
    (h : applyReservationDispatched state payload = .ok state') :
    LedgerStep state event state' := by
  simp only [applyReservationDispatched, reservation, bind_eq_ok, orRaise_eq_ok, raiseIf_eq_ok,
    exists_const, pure_eq_ok] at h
  obtain ⟨active, hactive, -, rfl⟩ := h
  refine ⟨?_, fun hv => hv, ?_⟩
  · simp only [CampaignEvent.ledgerOp, hp]
    have hsame : state.ledger.active.insert payload.reservationId
        (active.trialId, active.claim.vector) = state.ledger.active := by
      apply Dict.insert_get?
      simp [CampaignProjection.ledger, Dict.get?_mapVal, hactive]
    simp only [CampaignProjection.ledger] at hsame
    simp [CampaignProjection.ledger, Dict.mapVal_insert, hsame]
  · intro k actual hop
    simp [CampaignEvent.ledgerOp, hp] at hop

lemma ledgerStep_cancelled {payload : ReservationCancelledPayload}
    (hp : event.payload = .reservationCancelled payload)
    (h : applyReservationCancelled state payload = .ok state') :
    LedgerStep state event state' := by
  simp only [applyReservationCancelled, reservation, bind_eq_ok, orRaise_eq_ok, raiseIf_eq_ok,
    exists_const] at h
  obtain ⟨active, hactive, -, h⟩ := h
  have hrelease : state.ledger.step (.release payload.reservationId) = some state'.ledger ∧
      state'.budgetViolation = state.budgetViolation := by
    cases hprov : active.provider with
    | none =>
      rw [hprov] at h
      exact releaseReservation_ledger h hactive
    | some provider =>
      simp only [hprov, bind_eq_ok, orRaise_eq_ok] at h
      obtain ⟨ledger, hl, h⟩ := h
      -- the cancelled key is noted first; that does not touch the totals
      obtain ⟨hstep, hviol⟩ := releaseReservation_ledger h hactive
      refine ⟨?_, hviol⟩
      rw [← hstep]
      congr 1
      symm
      exact ledger_insert_trial hl rfl rfl rfl rfl rfl
  refine ⟨?_, ?_, ?_⟩
  · simp only [CampaignEvent.ledgerOp, hp]
    exact hrelease.1
  · intro hv
    rw [hrelease.2, hv]
  · intro k actual hop
    simp [CampaignEvent.ledgerOp, hp] at hop

lemma ledgerStep_workSettled {payload : WorkSettledPayload}
    (hp : event.payload = .workSettled payload)
    (h : applyWorkSettled state payload = .ok state') : LedgerStep state event state' := by
  simp only [applyWorkSettled, reservation, bind_eq_ok, orRaise_eq_ok, raiseIf_eq_ok,
    exists_const] at h
  obtain ⟨active, hactive, -, -, -, h⟩ := h
  obtain ⟨hstep, hviol⟩ := settle_ledger hactive h
  refine ⟨?_, ?_, ?_⟩
  · simp only [CampaignEvent.ledgerOp, hp]
    exact hstep
  · intro hv
    rw [hviol, hv, Bool.true_or]
  · intro k actual hop hfalse
    simp only [CampaignEvent.ledgerOp, hp, Option.some.injEq, LedgerOp.settle.injEq] at hop
    obtain ⟨rfl, rfl⟩ := hop
    rw [hviol, Bool.or_eq_false_iff] at hfalse
    exact within_of_not_exceeds hactive (of_decide_eq_false hfalse.2)

lemma ledgerStep_providerSettled {payload : ProviderAttemptSettledPayload}
    (hp : event.payload = .providerAttemptSettled payload)
    (h : applyProviderSettlement header state payload = .ok state') :
    LedgerStep state event state' := by
  simp only [applyProviderSettlement, reservation, bind_eq_ok, orRaise_eq_ok, raiseIf_eq_ok,
    exists_const, pure_eq_ok] at h
  obtain ⟨active, hactive, provider, -, -, trial, -, -, -, settled, hsettle, ledger, hl, rfl⟩ := h
  obtain ⟨hstep, hviol⟩ := settle_ledger hactive hsettle
  refine ⟨?_, ?_, ?_⟩
  · simp only [CampaignEvent.ledgerOp, hp]
    rw [hstep, Option.some.injEq]
    symm
    exact ledger_insert_trial hl rfl rfl rfl rfl rfl
  · intro hv
    simp [hviol, hv]
  · intro k actual hop hfalse
    simp only [CampaignEvent.ledgerOp, hp, Option.some.injEq, LedgerOp.settle.injEq] at hop
    obtain ⟨rfl, rfl⟩ := hop
    simp only [hviol, Bool.or_eq_false_iff] at hfalse
    exact within_of_not_exceeds hactive (of_decide_eq_false hfalse.1.2)

lemma ledgerStep_outcome {payload : TrialOutcomeRecordedPayload}
    (hp : event.payload = .trialOutcomeRecorded payload)
    (h : applyTrialOutcome header state payload = .ok state') :
    LedgerStep state event state' := by
  simp only [applyTrialOutcome, bind_eq_ok, orRaise_eq_ok, raiseIf_eq_ok, exists_const,
    pure_eq_ok] at h
  obtain ⟨trial, -, ledger, hl, -, -, task, -, -, runIds, -, _, -, rfl⟩ := h
  refine ⟨?_, fun hv => hv, ?_⟩
  · simp only [CampaignEvent.ledgerOp, hp]
    exact ledger_insert_trial hl rfl rfl rfl rfl rfl
  · intro k actual hop
    simp [CampaignEvent.ledgerOp, hp] at hop

lemma applyBudgetStopped_eq_ok {payload : BudgetStoppedPayload}
    (h : applyBudgetStopped header state payload = .ok state') :
    ∃ trialStops globalStop, state' =
      { state with trialStopDimensions := trialStops, globalStopDimension := globalStop } := by
  simp only [applyBudgetStopped, bind_eq_ok, raiseIf_eq_ok, exists_const] at h
  obtain ⟨expected, -, -, h⟩ := h
  split_ifs at h
  · exact ⟨_, _, (Except.ok.inj h).symm⟩
  · exact ⟨_, _, (Except.ok.inj h).symm⟩

lemma ledgerStep_budgetStopped {payload : BudgetStoppedPayload}
    (hp : event.payload = .budgetStopped payload)
    (h : applyBudgetStopped header state payload = .ok state') :
    LedgerStep state event state' := by
  obtain ⟨_, _, rfl⟩ := applyBudgetStopped_eq_ok h
  refine ⟨by simp only [CampaignEvent.ledgerOp, hp]; rfl, fun hv => hv, ?_⟩
  · intro k actual hop
    simp [CampaignEvent.ledgerOp, hp] at hop

variable [CampaignCanonical] {payload : ReservationCreatedPayload}

lemma applyReservationCreated_eq_ok
    (h : applyReservationCreated header state payload = .ok state') :
    payload.reservationId ∉ state.reservations ∧ state.budgetViolation = false ∧
      ∃ ledger, state.ledgers.get? payload.trialId = some ledger ∧
        reservationRejection state header.campaign payload.trialId payload.claim
          payload.provider.isSome = .ok none ∧
        state' = { state with
          reserved := state.reserved.add payload.claim
          ledgers := state.ledgers.insert payload.trialId
            { ledger with reserved := ledger.reserved.add payload.claim }
          reservations := state.reservations.insert payload.reservationId
            { trialId := payload.trialId, claim := payload.claim,
              provider := payload.provider } } := by
  simp only [applyReservationCreated, bind_eq_ok, raiseIf_eq_ok, exists_const] at h
  obtain ⟨hid, -, ledger, hready, _, -, rejection, hrej, hnone, hst⟩ := h
  rw [not_not] at hnone
  subst hnone
  rw [pure_eq_ok] at hst
  obtain ⟨hl, -, -, -, hv⟩ := readyCampaignProjection_eq_ok.mp hready
  exact ⟨hid, hv, ledger, hl, hrej, hst.symm⟩

lemma ledgerStep_created
    (hp : event.payload = .reservationCreated payload)
    (h : applyReservationCreated header state payload = .ok state') :
    LedgerStep state event state' := by
  obtain ⟨hid, hv, ledger, hl, -, rfl⟩ := applyReservationCreated_eq_ok h
  refine ⟨?_, ?_, ?_⟩
  · simp only [CampaignEvent.ledgerOp, hp]
    refine Ledger.reserve_eq_some.mpr ⟨?_, ledger.account, ?_, ?_⟩
    · simpa [CampaignProjection.ledger] using hid
    · simp [CampaignProjection.ledger, Dict.get?_mapVal, hl]
    · simp [CampaignProjection.ledger, Dict.mapVal_insert, TrialProjection.account,
        get_add_vector]
  · intro hvt
    rw [hv] at hvt
    cases hvt
  · intro k actual hop
    simp [CampaignEvent.ledgerOp, hp] at hop

/-- Every accepted event is an operation of the ledger, or none. -/
theorem applyCampaignEvent_ledgerStep (h : applyCampaignEvent header state event = .ok state') :
    LedgerStep state event state' := by
  unfold applyCampaignEvent at h
  cases hp : event.payload with
  | reservationCreated payload =>
    rw [hp] at h
    exact ledgerStep_created hp h
  | reservationDispatched payload =>
    rw [hp] at h
    exact ledgerStep_dispatched hp h
  | reservationCancelled payload =>
    rw [hp] at h
    exact ledgerStep_cancelled hp h
  | workSettled payload =>
    rw [hp] at h
    exact ledgerStep_workSettled hp h
  | providerAttemptSettled payload =>
    rw [hp] at h
    exact ledgerStep_providerSettled hp h
  | trialOutcomeRecorded payload =>
    rw [hp] at h
    exact ledgerStep_outcome hp h
  | budgetStopped payload =>
    rw [hp] at h
    exact ledgerStep_budgetStopped hp h

/-- A whole accepted journal is a run of the ledger. -/
theorem replayCampaign_refines {events : List CampaignEvent}
    (h : replayCampaign header events = .ok state) :
    (CampaignProjection.initial header).ledger.run (events.filterMap CampaignEvent.ledgerOp) =
      some state.ledger := by
  refine foldSteps_induction
    (P := fun pre (state : CampaignProjection) => (CampaignProjection.initial header).ledger.run
      (pre.filterMap CampaignEvent.ledgerOp) = some state.ledger) ?_ rfl h
  intro pre m a m' hm hstep
  have hl := (applyCampaignEvent_ledgerStep hstep).ledger
  rw [List.filterMap_append]
  cases hop : a.ledgerOp with
  | none =>
    rw [hop] at hl
    simp [hop, hm, hl]
  | some op =>
    rw [hop] at hl
    simp [hop, Ledger.run_concat, hm, hl]

/-! ### Hard caps -/

/-- What is committed or reserved stays within the limits, for the campaign and for each trial. -/
structure CapsHold (campaign : CampaignSpec) (state : CampaignProjection) : Prop where
  total : ∀ d : BudgetDimension,
    d.amount (MutableResources.sumResources state.committed state.reserved) ≤
      limits campaign.tokenLimits campaign.executionLimits false d
  trial : ∀ trialId ledger, state.ledgers.get? trialId = some ledger → ∀ d : BudgetDimension,
    d.amount (MutableResources.sumResources ledger.committed ledger.reserved) ≤
      limits campaign.tokenLimits campaign.executionLimits true d

omit [CampaignCanonical] in
lemma capsHold_initial : CapsHold header.campaign (CampaignProjection.initial header) := by
  have hzero : ∀ d : BudgetDimension,
      d.amount (MutableResources.sumResources MutableResources.zero MutableResources.zero) = 0 := by
    intro d
    cases d <;> decide
  constructor
  · intro d
    exact (hzero d).trans_le (Int.natCast_nonneg _)
  · intro trialId ledger hget d
    have hmem := Dict.mem_of_get?_ofList hget
    obtain ⟨trial, -, heq⟩ := List.mem_map.mp hmem
    obtain ⟨-, rfl⟩ := Prod.mk.inj heq
    exact (hzero d).trans_le (Int.natCast_nonneg _)

lemma capsHold_created
    (hcaps : CapsHold header.campaign state)
    (h : applyReservationCreated header state payload = .ok state') :
    CapsHold header.campaign state' := by
  obtain ⟨-, -, ledger, hl, hrej, rfl⟩ := applyReservationCreated_eq_ok h
  obtain ⟨trial, htrial, hglobal, hlocal⟩ := reservationRejection_eq_none hrej
  rw [hl, Option.some.injEq] at htrial
  subst htrial
  -- adding the claim to what is reserved is adding it to the sum that was checked
  have hmove : ∀ c r : MutableResources, ∀ item,
      (MutableResources.sumResources c (r.add payload.claim)).get item ≤
        ((MutableResources.sumResources c r).add payload.claim).get item := by
    intro c r item
    simp [add_assoc]
  constructor
  · intro d
    exact (BudgetDimension.amount_mono (hmove _ _) d).trans (hglobal d)
  · intro trialId ledger' hget d
    rw [Dict.get?_insert] at hget
    split_ifs at hget with heq
    · rw [Option.some.injEq] at hget
      subst hget
      exact (BudgetDimension.amount_mono (hmove _ _) d).trans (hlocal d)
    · exact hcaps.trial trialId ledger' hget d

omit [CampaignCanonical] in
/-- Two projections with comparable ledgers: the smaller one meets the caps of the larger. -/
lemma capsHold_of_le (hcaps : CapsHold header.campaign state)
    (hglobal : state'.ledger.committed + state'.ledger.reserved ≤
      state.ledger.committed + state.ledger.reserved)
    (hlocal : ∀ owner account', state'.ledger.accounts.get? owner = some account' →
      ∃ account, state.ledger.accounts.get? owner = some account ∧
        account'.committed + account'.reserved ≤ account.committed + account.reserved) :
    CapsHold header.campaign state' := by
  constructor
  · intro d
    refine (BudgetDimension.amount_mono ?_ d).trans (hcaps.total d)
    intro item
    simpa [CampaignProjection.ledger] using hglobal item
  · intro trialId ledger' hget d
    obtain ⟨account, haccount, hle⟩ := hlocal trialId ledger'.account
      (by simp [CampaignProjection.ledger, Dict.get?_mapVal, hget])
    simp only [CampaignProjection.ledger, Dict.get?_mapVal, Option.map_eq_some_iff] at haccount
    obtain ⟨ledger, hl, rfl⟩ := haccount
    refine (BudgetDimension.amount_mono ?_ d).trans (hcaps.trial trialId ledger hl d)
    intro item
    simpa [TrialProjection.account] using hle item

lemma capsHold_step (hcaps : CapsHold header.campaign state)
    (h : applyCampaignEvent header state event = .ok state')
    (hfalse : state'.budgetViolation = false) : CapsHold header.campaign state' := by
  have hspec := applyCampaignEvent_ledgerStep h
  have hl := hspec.ledger
  cases hop : event.ledgerOp with
  | none =>
    rw [hop] at hl
    refine capsHold_of_le hcaps (by rw [hl]) ?_
    intro owner account' hget
    rw [hl] at hget
    exact ⟨account', hget, le_refl _⟩
  | some op =>
    rw [hop] at hl
    cases op with
    | reserve k owner claim =>
      cases hp : event.payload with
      | reservationCreated payload =>
        simp only [applyCampaignEvent, hp] at h
        exact capsHold_created hcaps h
      | _ => simp [CampaignEvent.ledgerOp, hp] at hop
    | release k =>
      have hle := Ledger.close_le (l := state.ledger) (k := k) hl (by
        intro owner claim hget
        simp only [CampaignProjection.ledger, Dict.get?_mapVal, Option.map_eq_some_iff] at hget
        obtain ⟨active, -, hactive⟩ := hget
        rw [← (Prod.mk.inj hactive).2]
        exact vector_nonneg _)
      exact capsHold_of_le hcaps hle.1 hle.2
    | settle k actual =>
      have hle := Ledger.close_le (l := state.ledger) (k := k) hl (hspec.within k actual hop hfalse)
      exact capsHold_of_le hcaps hle.1 hle.2

lemma replayCampaign_violation {pre post : List CampaignEvent} {mid : CampaignProjection}
    (hpre : replayCampaign header pre = .ok mid)
    (hpost : foldSteps (applyCampaignEvent header) mid post = .ok state)
    (hv : mid.budgetViolation = true) :
    state.budgetViolation = true ∧
      ∀ e ∈ post, ∀ payload, e.payload ≠ .reservationCreated payload := by
  induction post generalizing pre mid with
  | nil =>
    cases hpost
    exact ⟨hv, by simp⟩
  | cons e post ih =>
    obtain ⟨m, hm, hrest⟩ := foldSteps_cons_eq_ok.mp hpost
    have hv' := (applyCampaignEvent_ledgerStep hm).violation hv
    have hpre' : replayCampaign header (pre ++ [e]) = .ok m :=
      foldSteps_concat_eq_ok.mpr ⟨mid, hpre, hm⟩
    obtain ⟨hend, hno⟩ := ih hpre' hrest hv'
    refine ⟨hend, ?_⟩
    intro e' he' payload hp
    rcases List.mem_cons.mp he' with rfl | he'
    · simp only [applyCampaignEvent, hp] at hm
      obtain ⟨-, hfalse, -⟩ := applyReservationCreated_eq_ok hm
      rw [hv] at hfalse
      cases hfalse
    · exact hno e' he' payload hp

theorem replayCampaign_capsHold {events : List CampaignEvent}
    (h : replayCampaign header events = .ok state) (hfalse : state.budgetViolation = false) :
    CapsHold header.campaign state := by
  have hinv : state.budgetViolation = false → CapsHold header.campaign state := by
    refine foldSteps_induction
      (P := fun _ (state : CampaignProjection) => state.budgetViolation = false →
        CapsHold header.campaign state) ?_ (fun _ => capsHold_initial) h
    intro pre m a m' hm hstep hfalse'
    refine capsHold_step (hm ?_) hstep hfalse'
    -- the flag is never cleared, so it was down before the step too
    by_contra hv
    rw [(applyCampaignEvent_ledgerStep hstep).violation (by simpa using hv)] at hfalse'
    cases hfalse'
  exact hinv hfalse

/-- The hard caps of a campaign: at every prefix of an accepted journal without a violation, what
is committed or reserved is within the limits of the campaign and of each trial; once there is a
violation, no reservation is accepted any more. -/
theorem campaign_hard_caps (header : CampaignHeader) (pre post : List CampaignEvent)
    (state : CampaignProjection) (h : replayCampaign header (pre ++ post) = .ok state) :
    ∃ mid, replayCampaign header pre = .ok mid ∧
      (mid.budgetViolation = false → CapsHold header.campaign mid) ∧
      (mid.budgetViolation = true →
        ∀ e ∈ post, ∀ payload, e.payload ≠ .reservationCreated payload) := by
  obtain ⟨mid, hpre, hpost⟩ := foldSteps_append_eq_ok.mp h
  refine ⟨mid, hpre, replayCampaign_capsHold hpre, ?_⟩
  intro hv
  exact (replayCampaign_violation hpre hpost hv).2

end Refinement

/-! ### A small campaign -/

@[reducible] def plainCampaignCanonical : CampaignCanonical where
  budgetProjection campaign schedule := campaign.digest ++ "/" ++ schedule.digest

def oneTrialHeader : CampaignHeader where
  campaign := {
    feedbackPolicyDigest := "d-fb"
    retryPolicy := { maxRequestAttempts := 1, backoffMilliseconds := 0 }
    tokenLimits := {
      maxRequests := 4, maxRequestsPerTrial := 4, maxInputTokensPerRequest := 100,
      maxOutputTokensPerRequest := 50, maxInputTokensPerTrial := 400,
      maxOutputTokensPerTrial := 200, maxTotalTokensPerTrial := 600, maxInputTokens := 400,
      maxOutputTokens := 200, maxTotalTokens := 600 }
    executionLimits := {
      maxTurnsPerTrial := 8, maxToolCallsPerTrial := 8, maxWallSecondsPerTrial := 60,
      maxEdaComputeSecondsPerTrial := 60, maxLicenseSecondsPerTrial := 0,
      maxArtifactBytesPerTrial := 1000, maxTurns := 8, maxToolCalls := 8, maxWallSeconds := 60,
      maxEdaComputeSeconds := 60, maxLicenseSeconds := 0, maxArtifactBytes := 1000 }
    digest := "d-camp" }
  providerConfig := { profileDigest := "d-prof", digest := "d-conf" }
  tasks := [{ taskReleaseDigest := "d-rel", evaluatorStageIds := ["gate"] }]
  schedule := {
    trials := [{
      trialId := "trial_0"
      binding := {
        campaignDigest := "d-camp", taskReleaseDigest := "d-rel", taskFamily := "adder",
        environmentDigest := "d-env"
        harness := { providerProfileDigest := "d-prof", providerConfigDigest := "d-conf",
                     scaffoldDigest := "d-scaf", digest := "d-harn" }
        routeId := "route", requestedModel := "m0", reasoningEffort := "low",
        serviceTier := "default", observedInputTokenFloor := 10, pairedSeed := "s0",
        repetitionIndex := 0 }
      digest := "d-trial" }]
    digest := "d-sched" }

section SmallCampaign

local instance : Canonical := plainCanonical
local instance : CampaignCanonical := plainCampaignCanonical

/-- Some turns, at most as many as a field counts. -/
def turnResources (n : Nat) : CampaignResources where
  requests := 0
  inputTokens := 0
  outputTokens := 0
  turns := min n JCS_INTEGER_MAX
  toolCalls := 0
  wallSeconds := 0
  edaComputeSeconds := 0
  licenseSeconds := 0
  artifactBytes := 0
  bounded := by intro item; cases item <;> first | exact Nat.min_le_right _ _ | exact Nat.zero_le _

/-- One unit of work is reserved and dispatched. -/
def workJournal : List CampaignEvent :=
  [{ eventId := 0, sequence := 0
     payload := .reservationCreated {
       reservationId := "r0", trialId := "trial_0", claim := turnResources 2 } },
   { eventId := 1, sequence := 1
     payload := .reservationDispatched { reservationId := "r0" } }]

/-- The work takes more turns than it reserved. -/
def overrunJournal : List CampaignEvent :=
  [{ eventId := 2, sequence := 2
     payload := .workSettled { reservationId := "r0", actual := turnResources 3 } }]

theorem workJournal_hard_caps :
    (∃ state, replayCampaign oneTrialHeader (workJournal ++ overrunJournal) = .ok state) ∧
    ∃ mid, replayCampaign oneTrialHeader workJournal = .ok mid ∧
      (mid.budgetViolation = false → CapsHold oneTrialHeader.campaign mid) ∧
      (mid.budgetViolation = true →
        ∀ e ∈ overrunJournal, ∀ payload, e.payload ≠ .reservationCreated payload) := by
  have hok : (replayCampaign oneTrialHeader (workJournal ++ overrunJournal)).isOk = true := by
    decide +kernel
  obtain ⟨state, hstate⟩ := Except.exists_of_isOk hok
  exact ⟨⟨state, hstate⟩, campaign_hard_caps _ _ _ _ hstate⟩

end SmallCampaign

end EdaGym
