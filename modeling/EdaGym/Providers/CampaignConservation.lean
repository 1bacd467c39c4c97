import EdaGym.Providers.CampaignLedger
import Mathlib.Data.Int.ConditionallyCompleteOrder

/-!
# Conservation of the campaign ledger

The counters of an accepted campaign journal are the sums they stand for, at both levels; none is
negative, and a reservation is closed at most once between two creations of its identifier.
-/

namespace EdaGym

section Conservation

variable [Canonical]

/-- The amounts a settlement event commits. -/
def CampaignEvent.settledAmount (event : CampaignEvent) : Option CampaignResources :=
  match event.payload with
  | .workSettled p => some p.actual
  | .providerAttemptSettled p => some p.attempt.chargedResources
  | _ => none

/-- The reservation an event closes, by cancelling or settling it. -/
def CampaignEvent.closesReservation (event : CampaignEvent) : Option Identifier :=
  match event.payload with
  | .reservationCancelled p => some p.reservationId
  | .workSettled p => some p.reservationId
  | .providerAttemptSettled p => some p.reservationId
  | _ => none

def CampaignEvent.createsReservation (event : CampaignEvent) : Option Identifier :=
  match event.payload with
  | .reservationCreated p => some p.reservationId
  | _ => none

/-- The counters of a projection are the sums they stand for, in every resource. -/
structure CountersConserved (events : List CampaignEvent) (state : CampaignProjection) :
    Prop where
  reserved_eq : ∀ item, state.reserved.get item =
    (state.reservations.values.map fun r => (r.claim.get item : Int)).sum
  trial_reserved_eq : ∀ trialId ledger, state.ledgers.get? trialId = some ledger →
    ∀ item, ledger.reserved.get item =
      ((state.reservations.values.filter fun r => r.trialId = trialId).map
        fun r => (r.claim.get item : Int)).sum
  reserved_sum : ∀ item, state.reserved.get item =
    (state.ledgers.values.map fun ledger => ledger.reserved.get item).sum
  committed_sum : ∀ item, state.committed.get item =
    (state.ledgers.values.map fun ledger => ledger.committed.get item).sum
  committed_eq : ∀ item, state.committed.get item =
    ((events.filterMap CampaignEvent.settledAmount).map fun r => (r.get item : Int)).sum
  nonneg : ∀ item, 0 ≤ state.reserved.get item ∧ 0 ≤ state.committed.get item
  trial_nonneg : ∀ trialId ledger, state.ledgers.get? trialId = some ledger →
    ∀ item, 0 ≤ ledger.reserved.get item ∧ 0 ≤ ledger.committed.get item

/-! ### The initial ledger -/

lemma initial_account {header : CampaignHeader} {trialId : Identifier}
    {account : Account (ResourceField → Int)}
    (h : (CampaignProjection.initial header).ledger.accounts.get? trialId = some account) :
    account = { reserved := 0, committed := 0 } := by
  simp only [CampaignProjection.ledger, Dict.get?_mapVal, Option.map_eq_some_iff] at h
  obtain ⟨trial, hget, rfl⟩ := h
  obtain ⟨scheduled, -, heq⟩ := List.mem_map.mp (Dict.mem_of_get?_ofList hget)
  obtain ⟨-, rfl⟩ := Prod.mk.inj heq
  simp only [TrialProjection.account, Account.mk.injEq]
  exact ⟨funext fun _ => by simp, funext fun _ => by simp⟩

lemma initial_accounts_sum {header : CampaignHeader}
    {f : Account (ResourceField → Int) → ResourceField → Int}
    (hf : f { reserved := 0, committed := 0 } = 0) :
    (CampaignProjection.initial header).ledger.accounts.sum f = 0 := by
  apply List.sum_eq_zero
  intro x hx
  obtain ⟨account, haccount, rfl⟩ := List.mem_map.mp hx
  obtain ⟨trialId, hget⟩ := Dict.mem_values.mp haccount
  rw [initial_account hget, hf]

lemma initial_balanced (header : CampaignHeader) :
    (CampaignProjection.initial header).ledger.Balanced where
  reserved_eq := by
    funext item
    simp [CampaignProjection.ledger, CampaignProjection.initial, Dict.sum, Dict.values,
      Dict.mapVal, Dict.empty]
  account_eq owner account h := by
    rw [initial_account h]
    simp [CampaignProjection.ledger, CampaignProjection.initial, Dict.sum, Dict.values,
      Dict.mapVal, Dict.empty]
  reserved_sum := by
    rw [initial_accounts_sum rfl]
    exact funext fun _ => by simp [CampaignProjection.ledger, CampaignProjection.initial]
  committed_sum := by
    rw [initial_accounts_sum rfl]
    exact funext fun _ => by simp [CampaignProjection.ledger, CampaignProjection.initial]

lemma initial_nonNegative (header : CampaignHeader) :
    (CampaignProjection.initial header).ledger.NonNegative where
  claims k owner claim h := by
    simp [CampaignProjection.ledger, CampaignProjection.initial, Dict.get?_mapVal] at h
  committed := by
    intro item
    simp [CampaignProjection.ledger, CampaignProjection.initial]
  accounts owner account h := by
    rw [initial_account h]

lemma ledgerOp_nonNegative {event : CampaignEvent}
    {op : LedgerOp Identifier Identifier (ResourceField → Int)} (h : event.ledgerOp = some op) :
    Ledger.OpNonNegative op := by
  unfold CampaignEvent.ledgerOp at h
  cases hp : event.payload with
  | reservationCreated p =>
    simp only [hp, Option.some.injEq] at h
    rw [← h]
    exact vector_nonneg _
  | reservationCancelled p =>
    simp only [hp, Option.some.injEq] at h
    rw [← h]
    trivial
  | workSettled p =>
    simp only [hp, Option.some.injEq] at h
    rw [← h]
    exact vector_nonneg _
  | providerAttemptSettled p =>
    simp only [hp, Option.some.injEq] at h
    rw [← h]
    exact vector_nonneg _
  | _ => simp [hp] at h

/-- The committed amounts of the ledger operations are those of the settlement events. -/
lemma sum_commits (events : List CampaignEvent) (item : ResourceField) :
    ((events.filterMap CampaignEvent.ledgerOp).map Ledger.commits).sum item =
      ((events.filterMap CampaignEvent.settledAmount).map fun r => (r.get item : Int)).sum := by
  induction events with
  | nil => rfl
  | cons e events ih =>
    cases hp : e.payload with
    | workSettled p =>
      simp [CampaignEvent.ledgerOp, CampaignEvent.settledAmount, hp, Ledger.commits,
        CampaignResources.vector] at ih ⊢
      exact ih
    | providerAttemptSettled p =>
      simp [CampaignEvent.ledgerOp, CampaignEvent.settledAmount, hp, Ledger.commits,
        CampaignResources.vector] at ih ⊢
      exact ih
    | _ =>
      simp [CampaignEvent.ledgerOp, CampaignEvent.settledAmount, hp, Ledger.commits] at ih ⊢
      exact ih

/-! ### Counters -/

section Counters

variable [CampaignCanonical] {header : CampaignHeader} {state : CampaignProjection}
  {events : List CampaignEvent}

lemma replayCampaign_balanced (h : replayCampaign header events = .ok state) :
    state.ledger.Balanced :=
  Ledger.balanced_run (initial_balanced header) (replayCampaign_refines h)

lemma replayCampaign_nonNegative (h : replayCampaign header events = .ok state) :
    state.ledger.NonNegative := by
  refine Ledger.nonNegative_run (initial_nonNegative header) ?_ (replayCampaign_refines h)
  intro op hop
  obtain ⟨e, -, he⟩ := List.mem_filterMap.mp hop
  exact ledgerOp_nonNegative he

theorem replayCampaign_countersConserved (h : replayCampaign header events = .ok state) :
    CountersConserved events state := by
  have hb := replayCampaign_balanced h
  have hn := replayCampaign_nonNegative h
  have hpos := hb.reserved_nonneg hn
  have haccount : ∀ {trialId ledger}, state.ledgers.get? trialId = some ledger →
      state.ledger.accounts.get? trialId = some ledger.account := by
    intro trialId ledger hget
    simp [CampaignProjection.ledger, Dict.get?_mapVal, hget]
  refine ⟨?_, ?_, ?_, ?_, ?_, ?_, ?_⟩
  · intro item
    have hr := congrFun hb.reserved_eq item
    simpa [CampaignProjection.ledger, Dict.sum, Pi.list_sum_apply, List.map_map,
      Function.comp_def, CampaignResources.vector] using hr
  · intro trialId ledger hget item
    have hr := congrFun (hb.account_eq trialId _ (haccount hget)) item
    simp only [TrialProjection.account, CampaignProjection.ledger, Dict.sum, Dict.values_mapVal,
      List.map_map, Function.comp_def, Pi.list_sum_apply] at hr
    have hite : ∀ r ∈ state.reservations.values,
        (if r.trialId = trialId then r.claim.vector else 0) item =
          if r.trialId = trialId then (r.claim.get item : Int) else 0 := by
      intro r _
      split_ifs
      · rfl
      · rfl
    rw [hr, List.map_congr_left hite, List.sum_map_ite]
    simp
  · intro item
    have hr := congrFun hb.reserved_sum item
    simpa [CampaignProjection.ledger, Dict.sum, Pi.list_sum_apply, List.map_map,
      Function.comp_def, TrialProjection.account] using hr
  · intro item
    have hr := congrFun hb.committed_sum item
    simpa [CampaignProjection.ledger, Dict.sum, Pi.list_sum_apply, List.map_map,
      Function.comp_def, TrialProjection.account] using hr
  · intro item
    have hr := congrFun (Ledger.committed_run (replayCampaign_refines h)) item
    rw [Pi.add_apply, sum_commits] at hr
    simpa [CampaignProjection.ledger, CampaignProjection.initial] using hr
  · intro item
    exact ⟨hpos.1 item, hn.committed item⟩
  · intro trialId ledger hget item
    exact ⟨hpos.2 trialId _ (haccount hget) item, hn.accounts trialId _ (haccount hget) item⟩

/-! ### Closing and cancelling -/

variable {event : CampaignEvent} {k : Identifier}

omit [CampaignCanonical] in
lemma ledgerOp_of_closes (h : event.closesReservation = some k) :
    ∃ op, event.ledgerOp = some op ∧ Ledger.closes op = some k := by
  unfold CampaignEvent.closesReservation at h
  unfold CampaignEvent.ledgerOp
  cases hp : event.payload with
  | reservationCancelled p =>
    rw [hp] at h
    exact ⟨_, rfl, h⟩
  | workSettled p =>
    rw [hp] at h
    exact ⟨_, rfl, h⟩
  | providerAttemptSettled p =>
    rw [hp] at h
    exact ⟨_, rfl, h⟩
  | _ => simp [hp] at h

omit [CampaignCanonical] in
lemma creates_of_reserve {k owner : Identifier}
    {claim : ResourceField → Int} (h : event.ledgerOp = some (.reserve k owner claim)) :
    event.createsReservation = some k := by
  unfold CampaignEvent.ledgerOp at h
  unfold CampaignEvent.createsReservation
  cases hp : event.payload with
  | reservationCreated p =>
    simp only [hp, Option.some.injEq, LedgerOp.reserve.injEq] at h
    simp [h.1]
  | _ => simp [hp] at h

/-- A key out of the table stays out until it is created again. -/
lemma not_active_run {mid : List CampaignEvent} {m m' : CampaignProjection}
    (h : foldSteps (applyCampaignEvent header) m mid = .ok m') (hk : k ∉ m.ledger.active)
    (hno : ∀ e ∈ mid, e.createsReservation ≠ some k) : k ∉ m'.ledger.active := by
  induction mid generalizing m with
  | nil =>
    cases h
    exact hk
  | cons e mid ih =>
    obtain ⟨m₁, hm₁, hrest⟩ := foldSteps_cons_eq_ok.mp h
    rw [List.forall_mem_cons] at hno
    refine ih hrest ?_ hno.2
    have hl := (applyCampaignEvent_ledgerStep hm₁).ledger
    cases hop : e.ledgerOp with
    | none =>
      rw [hop] at hl
      rw [hl]
      exact hk
    | some op =>
      rw [hop] at hl
      refine Ledger.not_mem_step hl hk ?_
      rintro owner claim rfl
      exact hno.1 (creates_of_reserve hop)

lemma closed_once {pre mid post : List CampaignEvent} {c c' : CampaignEvent}
    (h : replayCampaign header (pre ++ c :: (mid ++ c' :: post)) = .ok state)
    (hc : c.closesReservation = some k) (hc' : c'.closesReservation = some k) :
    ∃ e ∈ mid, e.createsReservation = some k := by
  obtain ⟨m₀, -, h⟩ := foldSteps_append_eq_ok.mp h
  obtain ⟨m₁, hm₁, h⟩ := foldSteps_cons_eq_ok.mp h
  obtain ⟨m₂, hm₂, h⟩ := foldSteps_append_eq_ok.mp h
  obtain ⟨m₃, hm₃, -⟩ := foldSteps_cons_eq_ok.mp h
  by_contra hno
  have hno' : ∀ e ∈ mid, e.createsReservation ≠ some k := fun e he hek => hno ⟨e, he, hek⟩
  obtain ⟨op, hop, hopk⟩ := ledgerOp_of_closes hc
  obtain ⟨op', hop', hopk'⟩ := ledgerOp_of_closes hc'
  have hl := (applyCampaignEvent_ledgerStep hm₁).ledger
  have hl' := (applyCampaignEvent_ledgerStep hm₃).ledger
  rw [hop] at hl
  rw [hop'] at hl'
  have hout := not_active_run hm₂ (Ledger.not_mem_of_closes hl hopk).2 hno'
  exact hout (Ledger.not_mem_of_closes hl' hopk').1

/-- Cancelling commits nothing, at either level. -/
lemma cancel_commits_nothing {state' : CampaignProjection}
    {payload : ReservationCancelledPayload} (hp : event.payload = .reservationCancelled payload)
    (h : applyCampaignEvent header state event = .ok state') :
    state'.committed = state.committed ∧
      ∀ trialId ledger', state'.ledgers.get? trialId = some ledger' →
        ∃ ledger, state.ledgers.get? trialId = some ledger ∧
          ledger'.committed = ledger.committed := by
  have hl := (applyCampaignEvent_ledgerStep h).ledger
  simp only [CampaignEvent.ledgerOp, hp] at hl
  obtain ⟨owner, claim, account, -, ho, hl'⟩ := Ledger.close_eq_some.mp hl
  constructor
  · apply ResourceVector.ext_get
    intro item
    have hc := congrFun (congrArg Ledger.committed hl') item
    simpa [CampaignProjection.ledger] using hc
  · intro trialId ledger' hget
    have haccount : state'.ledger.accounts.get? trialId = some ledger'.account := by
      simp [CampaignProjection.ledger, Dict.get?_mapVal, hget]
    have hfind : ∀ {acct : Account (ResourceField → Int)},
        state.ledger.accounts.get? trialId = some acct → acct.committed = ledger'.committed.get →
        ∃ ledger, state.ledgers.get? trialId = some ledger ∧
          ledger'.committed = ledger.committed := by
      intro acct hacct heq
      simp only [CampaignProjection.ledger, Dict.get?_mapVal, Option.map_eq_some_iff] at hacct
      obtain ⟨ledger, hledger, rfl⟩ := hacct
      refine ⟨ledger, hledger, ResourceVector.ext_get fun item => ?_⟩
      exact (congrFun heq item).symm
    rw [hl', Dict.get?_insert] at haccount
    split_ifs at haccount with heq
    · rw [Option.some.injEq] at haccount
      subst heq
      refine hfind ho ?_
      have hc := congrArg Account.committed haccount
      simpa [TrialProjection.account] using hc
    · exact hfind haccount rfl

end Counters

/-- What every accepted campaign journal conserves. -/
structure CampaignConserved [CampaignCanonical] (header : CampaignHeader)
    (events : List CampaignEvent) (state : CampaignProjection) : Prop where
  counters : CountersConserved events state
  closed_at_most_once : ∀ pre c mid c' post k, events = pre ++ c :: (mid ++ c' :: post) →
    c.closesReservation = some k → c'.closesReservation = some k →
    ∃ e ∈ mid, e.createsReservation = some k
  cancelled_commits_nothing : ∀ pre c post payload, events = pre ++ c :: post →
    c.payload = .reservationCancelled payload →
    ∃ before after, replayCampaign header pre = .ok before ∧
      replayCampaign header (pre ++ [c]) = .ok after ∧
      after.committed = before.committed ∧
      ∀ trialId ledger', after.ledgers.get? trialId = some ledger' →
        ∃ ledger, before.ledgers.get? trialId = some ledger ∧
          ledger'.committed = ledger.committed

/-- Conservation of the campaign ledger along every accepted journal. -/
theorem campaign_ledger_conserved [CampaignCanonical] (header : CampaignHeader)
    (events : List CampaignEvent) (state : CampaignProjection)
    (h : replayCampaign header events = .ok state) :
    CampaignConserved header events state := by
  refine ⟨replayCampaign_countersConserved h, ?_, ?_⟩
  · rintro pre c mid c' post k rfl hc hc'
    exact closed_once h hc hc'
  · rintro pre c post payload rfl hp
    obtain ⟨before, hbefore, hrest⟩ := foldSteps_append_eq_ok.mp h
    obtain ⟨after, hafter, -⟩ := foldSteps_cons_eq_ok.mp hrest
    exact ⟨before, after, hbefore, foldSteps_concat_eq_ok.mpr ⟨before, hbefore, hafter⟩,
      cancel_commits_nothing hp hafter⟩

end Conservation

section SmallCampaign

local instance : Canonical := plainCanonical
local instance : CampaignCanonical := plainCampaignCanonical

theorem overrunJournal_conserved :
    ∃ state, replayCampaign oneTrialHeader (workJournal ++ overrunJournal) = .ok state ∧
      CampaignConserved oneTrialHeader (workJournal ++ overrunJournal) state := by
  have hok : (replayCampaign oneTrialHeader (workJournal ++ overrunJournal)).isOk = true := by
    decide +kernel
  obtain ⟨state, hstate⟩ := Except.exists_of_isOk hok
  exact ⟨state, hstate, campaign_ledger_conserved _ _ _ hstate⟩

end SmallCampaign

end EdaGym
