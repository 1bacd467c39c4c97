import EdaGym.Providers.CampaignConservation
import EdaGym.Providers.CampaignEffects
import EdaGym.Run.RunRecord
import EdaGym.Specs.Session
import Mathlib.Algebra.BigOperators.Ring.Finset

/-!
# Request budgets of a run and of its trial

A provider request of a campaign run passes two checks: the run compares the requests in its journal
with the budget of its session, and the campaign compares the ledger of the trial with the limits of
the campaign. The session of an admitted trial fits these limits.
-/

namespace EdaGym

/-! ### The inputs of a trial -/

inductive TaskOrigin
  | nativeSealed (provenance : List String)
  | publicCalibration (sourceId : Identifier) (sourceSnapshotDigest : Digest)
      (sourceResourceIds : List Identifier) (licenseSpdxExpression : String)
      (redistribution : Redistribution) (provenance : List String)
deriving DecidableEq, Repr

def requirePaidCampaignTaskOrigin : TaskOrigin → Except CampaignError Unit
  | .nativeSealed _ => .ok ⟨⟩
  | .publicCalibration .. => .error (.valueError "paid campaigns require native sealed tasks")

/-- A harness binding with the parts the accounting does not read. -/
structure FrozenHarness extends MeteredProviderHarnessBinding where
  harnessId : Identifier
  instructionDigest : Digest
  toolSchemaDigest : Digest
  maximumRequestsPerAction : Nat
deriving DecidableEq

/-- A scheduled trial with the parts of its binding that the accounting does not read. -/
structure FrozenTrial where
  trial : ScheduledTrial
  taskOrigin : TaskOrigin
  deviceCapability : Capability
  harness : FrozenHarness
  harness_eq : trial.binding.harness = harness.toMeteredProviderHarnessBinding := by decide

structure FrozenTask where
  taskFamily : Identifier
  taskOrigin : TaskOrigin
  environmentDigest : Digest
  harness : FrozenHarness
  evaluatorStageIds : List Identifier

/-- The session harness a trial selects. -/
def SelectsHarness (frozen : FrozenTrial) : ActorSpec → Prop
  | .human .. => False
  | .harness _ harnessId harnessDigest scaffoldDigest requestedModelRoute =>
    harnessId = frozen.harness.harnessId ∧ harnessDigest = frozen.harness.digest ∧
      scaffoldDigest = frozen.harness.scaffoldDigest ∧
      requestedModelRoute = frozen.trial.binding.requestedModel

instance (frozen : FrozenTrial) : DecidablePred (SelectsHarness frozen)
  | .human .. => isFalse id
  | .harness .. => inferInstanceAs (Decidable (_ ∧ _))

def campaignTrialHarnessActor (frozen : FrozenTrial) (session : SessionSpec) :
    Except CampaignError ActorSpec :=
  match session.actors.filter fun actor => SelectsHarness frozen actor with
  | [actor] => .ok actor
  | _ => .error (.valueError "runtime surface session has no unique frozen harness")

/-- The budgets of a session against the limits of a trial. -/
def SessionFits (campaign : CampaignSpec) (resources : ResourceBudget) (model : ModelBudget) :
    Prop :=
  let token := campaign.tokenLimits
  let execution := campaign.executionLimits
  token.maxInputTokensPerRequest ≤ model.maxInputTokensPerRequest ∧
    token.maxOutputTokensPerRequest ≤ model.maxOutputTokensPerRequest ∧
    model.maxRequests ≤ token.maxRequestsPerTrial ∧
    model.maxTotalInputTokens ≤ token.maxInputTokensPerTrial ∧
    model.maxTotalOutputTokens ≤ token.maxOutputTokensPerTrial ∧
    model.maxTotalTokens ≤ token.maxTotalTokensPerTrial ∧
    resources.maxTurns ≤ execution.maxTurnsPerTrial ∧
    resources.maxToolCalls ≤ execution.maxToolCallsPerTrial ∧
    resources.maxWallSeconds ≤ execution.maxWallSecondsPerTrial ∧
    resources.maxEdaComputeSeconds ≤ execution.maxEdaComputeSecondsPerTrial ∧
    resources.maxLicenseSeconds ≤ execution.maxLicenseSecondsPerTrial ∧
    resources.maxArtifactBytes ≤ execution.maxArtifactBytesPerTrial

instance (campaign : CampaignSpec) (resources : ResourceBudget) (model : ModelBudget) :
    Decidable (SessionFits campaign resources model) :=
  inferInstanceAs (Decidable (_ ∧ _))

/-- The inputs of a trial against the frozen schedule. `feedbackDigest` is the canonical digest of a
feedback policy. -/
def validateTrialInputs (feedbackDigest : FeedbackPolicy → Digest) (campaign : CampaignSpec)
    (frozen : FrozenTrial) (campaignTask : FrozenTask) (task : TaskSpec) (origin : TaskOrigin)
    (releaseDigest environmentDigest : Digest) (session : SessionSpec) :
    Except CampaignError Unit := do
  let binding := frozen.trial.binding
  raiseIf (binding.campaignDigest ≠ campaign.digest ∨ binding.taskReleaseDigest ≠ releaseDigest ∨
      binding.taskFamily ≠ task.identity.family ∨ frozen.taskOrigin ≠ origin ∨
      binding.environmentDigest ≠ environmentDigest ∨
      campaignTask.taskFamily ≠ task.identity.family ∨ campaignTask.taskOrigin ≠ origin ∨
      campaignTask.environmentDigest ≠ environmentDigest ∨ campaignTask.harness ≠ frozen.harness)
    (.valueError "campaign trial inputs differ from the frozen schedule")
  requirePaidCampaignTaskOrigin origin
  let stageIds := task.evaluation.stages.map StageSpec.stageId
  raiseIf (¬ ((∀ stageId ∈ campaignTask.evaluatorStageIds, stageId ∈ stageIds) ∧
      ∀ stageId ∈ stageIds, stageId ∈ campaignTask.evaluatorStageIds))
    (.valueError "campaign task evaluator stages differ from the TaskSpec")
  raiseIf (frozen.deviceCapability ∉ task.evaluation.evaluators.map EvaluatorSpec.capability)
    (.valueError "campaign device capability is absent from the TaskSpec")
  let actor ← campaignTrialHarnessActor frozen session
  raiseIf (¬ SelectsHarness frozen actor ∨
      feedbackDigest session.feedback ≠ campaign.feedbackPolicyDigest)
    (.valueError "campaign session differs from the scheduled metered harness")
  let model ← orRaise session.modelBudget
    (.valueError "campaign session requires a provider model budget")
  raiseIf (¬ SessionFits campaign session.resources model)
    (.valueError "session budgets do not fit the frozen campaign trial limits")
  raiseIf (model.maxRequests < frozen.harness.maximumRequestsPerAction)
    (.valueError "campaign harness request bound exceeds its session budget")

/-- The claim of every request of a trial: the largest exchange the campaign admits. -/
def requestTokenClaim (campaign : CampaignSpec) (trial : ScheduledTrial) :
    Except CampaignError RequestTokenClaim :=
  let token := campaign.tokenLimits
  if hinput : token.maxInputTokensPerRequest ≤ JCS_INTEGER_MAX then
    if houtput : 1 ≤ token.maxOutputTokensPerRequest ∧
        token.maxOutputTokensPerRequest ≤ JCS_INTEGER_MAX then
      if hfloor : trial.binding.observedInputTokenFloor < token.maxInputTokensPerRequest then .ok {
        inputTokens := token.maxInputTokensPerRequest
        outputTokens := token.maxOutputTokensPerRequest
        observedInputTokenFloor := trial.binding.observedInputTokenFloor
        input_bound := hinput
        output_bound := houtput
        floor_lt := hfloor }
      else .error (.valueError "input token reservation must exceed the observed route floor")
    else .error (.valueError "Input should be greater than or equal to 1")
  else .error (.valueError "Input should be less than or equal to 9007199254740991")

/-! ### The budget of the run -/

/-- What a request counts for: its usage once it is known, and what it reserved until then. -/
def ProviderRequestState.countedInputTokens (request : ProviderRequestState) : Nat :=
  request.usage.elim request.reservedInputTokens ProviderUsageFact.inputTokens

def ProviderRequestState.countedOutputTokens (request : ProviderRequestState) : Nat :=
  request.usage.elim request.reservedOutputTokens ProviderUsageFact.outputTokens

def requireRequestBudget (session : SessionSpec) (run : RunState) (claim : RequestTokenClaim) :
    Except ParticipantFailureKind Unit := do
  let budget ← orRaise session.modelBudget .channelFailure
  let requests := run.providerRequests
  let inputTokens := (requests.map ProviderRequestState.countedInputTokens).sum
  let outputTokens := (requests.map ProviderRequestState.countedOutputTokens).sum
  raiseIf (budget.maxRequests < requests.length + 1 ∨
      budget.maxTotalInputTokens < inputTokens + claim.inputTokens ∨
      budget.maxTotalOutputTokens < outputTokens + claim.outputTokens ∨
      budget.maxTotalTokens <
        inputTokens + outputTokens + (claim.inputTokens + claim.outputTokens))
    .channelFailure

/-! ### Runs and ledgers of the same requests -/

/-- The attempt and the run request stand for the same exchange. -/
structure SettledAs (attempt : ProviderAttemptRecord) (request : ProviderRequestState) : Prop where
  input : request.reservedInputTokens = attempt.reservedTokenClaim.inputTokens
  output : request.reservedOutputTokens = attempt.reservedTokenClaim.outputTokens
  usage : SameUsage request.usage attempt.providerUsage

/-- The active reservation and the run request stand for the same exchange, which is not over. -/
structure HeldAs (reservation : ReservationLedger) (request : ProviderRequestState) : Prop where
  input : request.reservedInputTokens = reservation.claim.inputTokens
  output : request.reservedOutputTokens = reservation.claim.outputTokens
  usage : request.usage = none

section Ledgers

variable [Canonical]

/-- The active provider reservations of a trial. -/
def CampaignProjection.providerReservations (state : CampaignProjection) (trialId : Identifier) :
    List ReservationLedger :=
  state.reservations.values.filter fun reservation =>
    reservation.trialId = trialId ∧ reservation.provider.isSome

/-- Every attempt and every active provider reservation of the trial has a run request of its own.
-/
def Corresponds (requests : List ProviderRequestState) (state : CampaignProjection)
    (trialId : Identifier) : Prop :=
  ∃ settled held, (settled ++ held).Subperm requests ∧
    List.Forall₂ SettledAs (state.attempts trialId) settled ∧
    List.Forall₂ HeldAs (state.providerReservations trialId) held

/-! ### Provider amounts of a trial -/

/-- The counters of provider requests. -/
def ResourceField.IsProvider (item : ResourceField) : Prop :=
  item = .requests ∨ item = .inputTokens ∨ item = .outputTokens

/-- A reservation claims provider resources only, or none of them. -/
def ReservationLedger.KindHolds (active : ReservationLedger) : Prop :=
  (active.provider = none → ∀ item : ResourceField, item.IsProvider → active.claim.get item = 0) ∧
    (active.provider.isSome → active.claim.ProviderOnly)

variable [CampaignCanonical] {header : CampaignHeader} {state state' : CampaignProjection}
  {event : CampaignEvent} {events : List CampaignEvent} {trialId : Identifier}
  {item : ResourceField}

omit [Canonical] [CampaignCanonical] in
lemma provider_amounts_zero {claim : CampaignResources}
    (h : ¬ (claim.requests ≠ 0 ∨ claim.inputTokens ≠ 0 ∨ claim.outputTokens ≠ 0))
    (hitem : item.IsProvider) : claim.get item = 0 := by
  simp only [not_or, not_not] at h
  rcases hitem with rfl | rfl | rfl
  · exact h.1
  · exact h.2.1
  · exact h.2.2

lemma kindHolds_created {payload : ReservationCreatedPayload}
    (h : applyReservationCreated header state payload = .ok state') :
    ReservationLedger.KindHolds
      { trialId := payload.trialId, claim := payload.claim, provider := payload.provider } := by
  simp only [applyReservationCreated, bind_eq_ok, raiseIf_eq_ok, exists_const] at h
  obtain ⟨-, -, ledger, -, _, hkind, -⟩ := h
  cases hprovider : payload.provider with
  | none =>
    rw [validateReservationKind, hprovider] at hkind
    exact ⟨fun _ item hitem => provider_amounts_zero (raiseIf_eq_ok.mp hkind) hitem, by simp⟩
  | some provider =>
    simp only [validateReservationKind, hprovider, validateProviderReservation, bind_eq_ok,
      raiseIf_eq_ok, exists_const, not_not] at hkind
    exact ⟨by simp, fun _ => hkind.1⟩

lemma replayCampaign_kindHolds (h : replayCampaign header events = .ok state) {k : Identifier}
    {active : ReservationLedger} (hactive : state.reservations.get? k = some active) :
    active.KindHolds :=
  reservation_induction (fun _ _ _ hcreated => kindHolds_created hcreated)
    (fun _ hactive => hactive) h hactive

/-- What the attempts of a trial were charged. -/
def CampaignProjection.charged (state : CampaignProjection) (trialId : Identifier)
    (item : ResourceField) : Int :=
  ((state.attempts trialId).map fun attempt => (attempt.chargedResources.get item : Int)).sum

/-- The provider counters committed for a trial are those of its attempts. -/
def ChargesAttempts (state : CampaignProjection) : Prop :=
  ∀ trialId account, state.ledger.accounts.get? trialId = some account →
    ∀ item : ResourceField, item.IsProvider → account.committed item = state.charged trialId item

section

omit [CampaignCanonical]

lemma SameAttempts.charged (h : SameAttempts state state') (item : ResourceField) :
    state'.charged trialId item = state.charged trialId item := by
  rw [CampaignProjection.charged, h.attempts, ← CampaignProjection.charged]

lemma chargesAttempts_of_close {k : Identifier} {actual : ResourceField → Int}
    (h : ChargesAttempts state) (hclose : state.ledger.close k actual = some state'.ledger)
    (hsame : SameAttempts state state')
    (hzero : ∀ item : ResourceField, item.IsProvider → actual item = 0) :
    ChargesAttempts state' := by
  obtain ⟨owner, claim, account, -, haccount, heq⟩ := Ledger.close_eq_some.mp hclose
  intro t account' haccount' item hitem
  rw [hsame.charged]
  rw [heq, Dict.get?_insert] at haccount'
  split_ifs at haccount' with ht
  · obtain rfl := Option.some.inj haccount'
    subst ht
    simp [hzero item hitem, h t account haccount item hitem]
  · exact h t account' haccount' item hitem

lemma work_amounts_zero {payload : WorkSettledPayload}
    (h : applyWorkSettled state payload = .ok state')
    (hitem : item.IsProvider) : payload.actual.get item = 0 := by
  simp only [applyWorkSettled, reservation, bind_eq_ok, orRaise_eq_ok, raiseIf_eq_ok,
    exists_const] at h
  obtain ⟨active, -, -, -, hzero, -⟩ := h
  exact provider_amounts_zero hzero hitem

end

lemma chargesAttempts_step (h : ChargesAttempts state)
    (hstep : applyCampaignEvent header state event = .ok state') : ChargesAttempts state' := by
  have hledger := (applyCampaignEvent_ledgerStep hstep).ledger
  have heffect := ReservationEffect.of_apply hstep
  cases hpayload : event.payload with
  | reservationCreated payload =>
    simp only [CampaignEvent.ledgerOp, hpayload] at hledger
    rw [hpayload] at heffect
    cases heffect with
    | created _ ledger hfresh hget hprovider hreservations hattempts =>
      obtain ⟨-, account, haccount, heq⟩ := Ledger.reserve_eq_some.mp hledger
      intro t account' haccount' item hitem
      rw [hattempts.charged]
      rw [heq, Dict.get?_insert] at haccount'
      split_ifs at haccount' with ht
      · obtain rfl := Option.some.inj haccount'
        subst ht
        exact h _ account haccount item hitem
      · exact h t account' haccount' item hitem
  | reservationDispatched payload =>
    simp only [CampaignEvent.ledgerOp, hpayload] at hledger
    rw [hpayload] at heffect
    cases heffect with
    | dispatched _ active hactive hdispatched hreservations hattempts =>
      intro t account haccount item hitem
      rw [hattempts.charged]
      exact h t account (hledger ▸ haccount) item hitem
  | reservationCancelled payload =>
    simp only [CampaignEvent.ledgerOp, hpayload] at hledger
    rw [hpayload] at heffect
    cases heffect with
    | cancelled _ active hactive hdispatched hreservations hattempts =>
      exact chargesAttempts_of_close h hledger hattempts fun _ _ => rfl
  | workSettled payload =>
    simp only [CampaignEvent.ledgerOp, hpayload] at hledger
    rw [hpayload] at heffect
    rw [applyCampaignEvent, hpayload] at hstep
    cases heffect with
    | workSettled _ active hactive hreservations hattempts =>
      refine chargesAttempts_of_close h hledger hattempts ?_
      intro item hitem
      rw [CampaignResources.vector, work_amounts_zero hstep hitem, Nat.cast_zero]
  | providerAttemptSettled payload =>
    simp only [CampaignEvent.ledgerOp, hpayload] at hledger
    rw [hpayload] at heffect
    cases heffect with
    | providerSettled _ active provider hactive hprovider hdispatched hkey hreservations
        hattempts =>
      obtain ⟨owner, claim, account, howner, haccount, heq⟩ := Ledger.close_eq_some.mp hledger
      have hown : owner = active.trialId := by
        simp only [CampaignProjection.ledger, Dict.get?_mapVal, hactive, Option.map_some,
          Option.some.injEq, Prod.mk.injEq] at howner
        exact howner.1.symm
      intro t account' haccount' item hitem
      rw [heq, Dict.get?_insert, hown] at haccount'
      rw [CampaignProjection.charged, hattempts]
      split_ifs at haccount' ⊢ with ht
      · obtain rfl := Option.some.inj haccount'
        subst ht
        rw [List.map_append, List.sum_append, ← CampaignProjection.charged,
          ← h _ account (hown ▸ haccount) item hitem]
        simp [CampaignResources.vector]
      · exact h t account' haccount' item hitem
  | trialOutcomeRecorded payload =>
    simp only [CampaignEvent.ledgerOp, hpayload] at hledger
    rw [hpayload] at heffect
    cases heffect with
    | outcome _ hreservations hattempts =>
      intro t account haccount item hitem
      rw [hattempts.charged]
      exact h t account (hledger ▸ haccount) item hitem
  | budgetStopped payload =>
    simp only [CampaignEvent.ledgerOp, hpayload] at hledger
    rw [hpayload] at heffect
    cases heffect with
    | budgetStopped _ hreservations hattempts =>
      intro t account haccount item hitem
      rw [hattempts.charged]
      exact h t account (hledger ▸ haccount) item hitem

theorem replayCampaign_chargesAttempts (h : replayCampaign header events = .ok state) :
    ChargesAttempts state := by
  refine foldSteps_induction (P := fun _ (state : CampaignProjection) => ChargesAttempts state)
    (fun _ _ _ _ ih hstep => chargesAttempts_step ih hstep) ?_ h
  intro t account haccount item hitem
  rw [initial_account haccount, CampaignProjection.charged, initial_attempts]
  rfl

variable {ledger : TrialProjection}

/-- The provider counters reserved for a trial are those of its provider reservations. -/
lemma reserved_eq (h : replayCampaign header events = .ok state)
    (hledger : state.ledgers.get? trialId = some ledger)
    (hitem : item.IsProvider) :
    ledger.reserved.get item =
      ((state.providerReservations trialId).map fun r => (r.claim.get item : Int)).sum := by
  have haccount : state.ledger.accounts.get? trialId = some ledger.account := by
    simp [CampaignProjection.ledger, Dict.get?_mapVal, hledger]
  have hsum := (replayCampaign_balanced h).account_eq trialId ledger.account haccount
  have hkind : ∀ r ∈ state.reservations.values, r.KindHolds := by
    intro r hr
    obtain ⟨k, hk⟩ := Dict.mem_values.mp hr
    exact replayCampaign_kindHolds h hk
  have hitemSum := congrFun hsum item
  simp only [Dict.sum, CampaignProjection.ledger, Dict.values_mapVal, List.map_map] at hitemSum
  rw [show ledger.reserved.get item = ledger.account.reserved item from rfl, hitemSum,
    CampaignProjection.providerReservations]
  generalize state.reservations.values = reservations at hkind
  induction reservations with
  | nil => rfl
  | cons r reservations ih =>
    have hrest := ih fun r' hr' => hkind r' (List.mem_cons_of_mem _ hr')
    have hr := hkind r List.mem_cons_self
    rw [List.map_cons, List.sum_cons, Pi.add_apply, hrest, List.filter_cons]
    by_cases howner : r.trialId = trialId
    · cases hprovider : r.provider with
      | none => simp [howner, CampaignResources.vector, hr.1 hprovider item hitem]
      | some provider => simp [howner, CampaignResources.vector]
    · simp [howner]

/-! ### Sums over corresponding requests -/

section

omit [Canonical] [CampaignCanonical]

lemma map_eq_of_forall₂ {α β γ : Type} {R : α → β → Prop} {f : α → γ} {g : β → γ} {xs : List α}
    {ys : List β} (h : List.Forall₂ R xs ys) (hfg : ∀ x ∈ xs, ∀ y, R x y → f x = g y) :
    xs.map f = ys.map g := by
  induction h with
  | nil => rfl
  | cons hxy _ ih =>
    rw [List.map_cons, List.map_cons, hfg _ List.mem_cons_self _ hxy,
      ih fun x hx => hfg x (List.mem_cons_of_mem _ hx)]

lemma sum_le_of_subperm {α : Type} {f : α → Nat} {xs ys : List α} (h : xs.Subperm ys) :
    (xs.map f).sum ≤ (ys.map f).sum := by
  obtain ⟨zs, hperm, hsub⟩ := h
  rw [← (hperm.map f).sum_eq]
  exact (hsub.map f).sum_le_sum fun _ _ => Nat.zero_le _

end

/-- What a counter of a run request amounts to. -/
def ProviderRequestState.counted (request : ProviderRequestState) : ResourceField → Nat
  | .requests => 1
  | .inputTokens => request.countedInputTokens
  | .outputTokens => request.countedOutputTokens
  | _ => 0

section

omit [Canonical] [CampaignCanonical]

lemma charged_of_settledAs {attempt : ProviderAttemptRecord} {request : ProviderRequestState}
    (h : SettledAs attempt request) {usage : UsageCounters}
    (husage : attempt.providerUsage = some usage)
    (hitem : item.IsProvider) : attempt.chargedResources.get item = request.counted item := by
  have hsame := h.usage
  obtain ⟨hinput, houtput⟩ := attempt.charged_usage usage husage
  cases hrequest : request.usage with
  | none => simp [hrequest, husage, SameUsage] at hsame
  | some fact =>
    rw [hrequest, husage] at hsame
    rcases hitem with rfl | rfl | rfl
    · exact attempt.charged_provider.1
    · simp only [ProviderRequestState.counted, ProviderRequestState.countedInputTokens, hrequest,
        Option.elim_some, hsame.1]
      exact hinput
    · simp only [ProviderRequestState.counted, ProviderRequestState.countedOutputTokens, hrequest,
        Option.elim_some, hsame.2.1]
      exact houtput

lemma claim_of_heldAs {reservation : ReservationLedger} {request : ProviderRequestState}
    (h : HeldAs reservation request) (hclaim : reservation.claim.ProviderOnly)
    (hitem : item.IsProvider) :
    reservation.claim.get item = request.counted item := by
  rcases hitem with rfl | rfl | rfl
  · exact hclaim.1
  · simp only [ProviderRequestState.counted, ProviderRequestState.countedInputTokens, h.usage,
      Option.elim_none, h.input]
    rfl
  · simp only [ProviderRequestState.counted, ProviderRequestState.countedOutputTokens, h.usage,
      Option.elim_none, h.output]
    rfl

end

/-- The run counts at least what the ledger of the trial holds. -/
theorem trial_le_counted (h : replayCampaign header events = .ok state)
    (hclean : state.budgetViolation = false)
    (hledger : state.ledgers.get? trialId = some ledger) {requests : List ProviderRequestState}
    (hrequests : Corresponds requests state trialId)
    (hitem : item.IsProvider) :
    ledger.committed.get item + ledger.reserved.get item ≤
      (requests.map fun request => request.counted item).sum := by
  obtain ⟨settled, held, hsub, hsettled, hheld⟩ := hrequests
  have haccount : state.ledger.accounts.get? trialId = some ledger.account := by
    simp [CampaignProjection.ledger, Dict.get?_mapVal, hledger]
  have hcommitted : ledger.committed.get item =
      ((settled.map fun request => request.counted item).sum : Nat) := by
    have hcharged := replayCampaign_chargesAttempts h trialId _ haccount item hitem
    rw [show ledger.committed.get item = ledger.account.committed item from rfl, hcharged,
      CampaignProjection.charged,
      map_eq_of_forall₂ (g := fun request => (request.counted item : Int)) hsettled ?_]
    · simp [Nat.cast_list_sum, Function.comp_def]
    · intro attempt hattempt request hsame
      obtain ⟨usage, husage⟩ := usage_of_clean h hclean hattempt
      rw [charged_of_settledAs hsame husage hitem]
  have hreserved : ledger.reserved.get item =
      ((held.map fun request => request.counted item).sum : Nat) := by
    rw [reserved_eq h hledger hitem,
      map_eq_of_forall₂ (g := fun request => (request.counted item : Int)) hheld ?_]
    · simp [Nat.cast_list_sum, Function.comp_def]
    · intro reservation hreservation request hsame
      obtain ⟨hmem, hown⟩ := List.mem_filter.mp hreservation
      obtain ⟨k, hk⟩ := Dict.mem_values.mp hmem
      have hprovider : reservation.provider.isSome := (of_decide_eq_true hown).2
      rw [claim_of_heldAs hsame ((replayCampaign_kindHolds h hk).2 hprovider) hitem]
  have hle := sum_le_of_subperm (f := fun request => request.counted item) hsub
  rw [List.map_append, List.sum_append] at hle
  rw [hcommitted, hreserved]
  exact_mod_cast hle

/-! ### Refusals -/

/-- The call does not end in a stop of the trial. -/
def NoTrialStop {α : Type*} (x : Except CampaignError α) : Prop :=
  ∀ dimension, x ≠ .error (.budgetExceeded dimension true)

namespace NoTrialStop

omit [Canonical] [CampaignCanonical]

variable {α β : Type}

lemma bind {x : Except CampaignError α} {f : α → Except CampaignError β} (hx : NoTrialStop x)
    (hf : ∀ a, x = .ok a → NoTrialStop (f a)) : NoTrialStop (x >>= f) := by
  cases x with
  | error e => exact fun d h => hx d (by cases h; rfl)
  | ok a => exact hf a rfl

lemma pure (a : α) : NoTrialStop (Pure.pure a : Except CampaignError α) := fun _ h => by cases h

lemma ok (a : α) : NoTrialStop (.ok a : Except CampaignError α) := fun _ h => by cases h

variable {e : CampaignError}

lemma of_raiseIf {c : Prop} [Decidable c]
    (he : ∀ d, e ≠ .budgetExceeded d true) : NoTrialStop (raiseIf c e : Except _ PUnit.{1}) := by
  intro d h
  unfold raiseIf at h
  split_ifs at h
  exact he d (Except.error.inj h)

/-- A check that raises another error may come first. -/
lemma check {c : Prop} [Decidable c] {f : PUnit → Except CampaignError α}
    (he : ∀ d, e ≠ .budgetExceeded d true) (hf : NoTrialStop (f ⟨⟩)) :
    NoTrialStop (raiseIf c e >>= f) :=
  (of_raiseIf he).bind fun _ _ => hf

lemma of_orRaise {x : Option α} (he : ∀ d, e ≠ .budgetExceeded d true) :
    NoTrialStop (orRaise x e) := by
  intro d h
  cases x with
  | none => exact he d (Except.error.inj h)
  | some a => cases h

end NoTrialStop

section Refusals

omit [CampaignCanonical] in
lemma readyCampaignProjection_noTrialStop
    (hstop : state.trialStopDimensions.get? trialId = none) :
    NoTrialStop (readyCampaignProjection state trialId) := by
  unfold readyCampaignProjection
  refine NoTrialStop.bind (NoTrialStop.of_orRaise (by simp)) fun ledger _ => ?_
  refine NoTrialStop.check (by simp) ?_
  split
  · intro d h
    simp at h
  · rw [hstop]
    exact NoTrialStop.check (by simp) (NoTrialStop.pure _)

omit [CampaignCanonical] in
lemma reservationRejection_noTrialStop {campaign : CampaignSpec} {claim : CampaignResources}
    {providerRequest : Bool} (hstop : state.trialStopDimensions.get? trialId = none) :
    NoTrialStop (reservationRejection state campaign trialId claim providerRequest) := by
  unfold reservationRejection
  refine NoTrialStop.bind (readyCampaignProjection_noTrialStop hstop) fun trial _ => ?_
  dsimp only
  split_ifs
  · exact NoTrialStop.pure _
  · exact NoTrialStop.pure _
  · split
    · exact NoTrialStop.pure _
    · split
      · exact NoTrialStop.pure _
      · exact NoTrialStop.pure _

lemma validateProviderReservation_noTrialStop {payload : ReservationCreatedPayload}
    {provider : ProviderReservationBinding} {ledger : TrialProjection} :
    NoTrialStop (validateProviderReservation header state payload provider ledger) := by
  unfold validateProviderReservation scheduledTrial
  refine NoTrialStop.check (by simp) ?_
  refine NoTrialStop.bind (NoTrialStop.of_orRaise (by simp)) fun trial _ => ?_
  refine NoTrialStop.check (by simp) ?_
  refine NoTrialStop.check (by simp) ?_
  refine NoTrialStop.check (by simp) ?_
  split
  · exact NoTrialStop.pure _
  · refine NoTrialStop.check (by simp) ?_
    refine NoTrialStop.check (by simp) ?_
    refine NoTrialStop.check (by simp) ?_
    exact NoTrialStop.of_raiseIf (by simp)

lemma applyReservationCreated_noTrialStop {payload : ReservationCreatedPayload}
    (hstop : state.trialStopDimensions.get? payload.trialId = none) :
    NoTrialStop (applyReservationCreated header state payload) := by
  unfold applyReservationCreated
  refine NoTrialStop.check (by simp) ?_
  refine NoTrialStop.check (by simp) ?_
  refine NoTrialStop.bind (readyCampaignProjection_noTrialStop hstop) fun ledger _ => ?_
  refine NoTrialStop.bind ?_ fun _ _ => ?_
  · unfold validateReservationKind
    split
    · exact NoTrialStop.of_raiseIf (by simp)
    · exact validateProviderReservation_noTrialStop
  · refine NoTrialStop.bind (reservationRejection_noTrialStop hstop) fun rejection _ => ?_
    exact NoTrialStop.check (by simp) (NoTrialStop.pure _)

omit [CampaignCanonical] in
lemma applyBudgetStopped_noTrialStop {payload : BudgetStoppedPayload}
    (hstop : state.trialStopDimensions.get? payload.trialId = none) :
    NoTrialStop (applyBudgetStopped header state payload) := by
  unfold applyBudgetStopped
  refine NoTrialStop.bind (reservationRejection_noTrialStop hstop) fun rejection _ => ?_
  refine NoTrialStop.check (by simp) ?_
  split_ifs
  · exact NoTrialStop.pure _
  · exact NoTrialStop.pure _

lemma commitCampaignEvent_noTrialStop {committed : List CampaignEvent} {eventId : UUID}
    {payload : CampaignEventPayload} (hreplay : replayCampaign header committed = .ok state)
    (happly : ∀ event, event.payload = payload →
      NoTrialStop (applyCampaignEvent header state event)) :
    NoTrialStop (commitCampaignEvent header committed eventId payload) := by
  unfold commitCampaignEvent transactCampaign
  rw [hreplay]
  refine NoTrialStop.bind (NoTrialStop.ok _) fun state' hstate' => ?_
  obtain rfl := Except.ok.inj hstate'
  refine NoTrialStop.bind (happly _ rfl) fun _ _ => ?_
  refine NoTrialStop.check (by simp) ?_
  refine NoTrialStop.check (by simp) ?_
  refine NoTrialStop.check (by simp) ?_
  refine NoTrialStop.bind ?_ fun _ _ => NoTrialStop.pure _
  rw [replayCampaign, foldSteps_concat hreplay]
  exact happly _ rfl

omit [Canonical] [CampaignCanonical] in
lemma validateRetry_noTrialStop {attempts : List ProviderAttemptRecord} {requestKey : Identifier} :
    NoTrialStop (validateRetry header attempts requestKey) := by
  unfold validateRetry
  dsimp only
  split
  · exact NoTrialStop.ok _
  · refine NoTrialStop.check (by simp) ?_
    refine NoTrialStop.check (by simp) ?_
    exact NoTrialStop.of_raiseIf (by simp)

/-- A trial that has not been stopped is not refused by a stop. -/
theorem reserveProviderAttempt_noTrialStop {requestKey : Identifier} {requestedModel : ModelLabel}
    {claim : RequestTokenClaim} {securityBinding : ProviderSecurityBinding}
    {reservationId : Identifier} {eventId : UUID} {committed : List CampaignEvent}
    (hreplay : replayCampaign header committed = .ok state)
    (hstop : state.trialStopDimensions.get? trialId = none) :
    NoTrialStop (reserveProviderAttempt header trialId requestKey requestedModel claim
      securityBinding reservationId eventId committed) := by
  unfold reserveProviderAttempt scheduledTrial
  rw [hreplay]
  refine NoTrialStop.bind (NoTrialStop.ok _) fun state' hstate' => ?_
  obtain rfl := Except.ok.inj hstate'
  refine NoTrialStop.bind (NoTrialStop.of_orRaise (by simp)) fun trial _ => ?_
  refine NoTrialStop.check (by simp) ?_
  refine NoTrialStop.check (by simp) ?_
  refine NoTrialStop.check (by simp) ?_
  refine NoTrialStop.bind (readyCampaignProjection_noTrialStop hstop) fun ledger _ => ?_
  refine NoTrialStop.bind ?_ fun _ _ => ?_
  · exact validateRetry_noTrialStop
  refine NoTrialStop.bind (reservationRejection_noTrialStop hstop) fun rejection _ => ?_
  cases rejection with
  | some rejection =>
    refine NoTrialStop.bind (commitCampaignEvent_noTrialStop hreplay ?_) fun _ _ =>
      NoTrialStop.pure _
    intro event hpayload
    rw [applyCampaignEvent, hpayload]
    exact applyBudgetStopped_noTrialStop hstop
  | none =>
    refine NoTrialStop.bind (commitCampaignEvent_noTrialStop hreplay ?_) fun _ _ =>
      NoTrialStop.pure _
    intro event hpayload
    rw [applyCampaignEvent, hpayload]
    exact applyReservationCreated_noTrialStop hstop

end Refusals

/-! ### Admission -/

section Admission

omit [Canonical] [CampaignCanonical]

variable {feedbackDigest : FeedbackPolicy → Digest} {campaign : CampaignSpec} {frozen : FrozenTrial}
  {campaignTask : FrozenTask} {task : TaskSpec} {origin : TaskOrigin}
  {releaseDigest environmentDigest : Digest} {session : SessionSpec} {claim : RequestTokenClaim}
  {run : RunState}

lemma fits_of_validateTrialInputs
    (h : validateTrialInputs feedbackDigest campaign frozen campaignTask task origin releaseDigest
      environmentDigest session = .ok ⟨⟩) :
    ∃ model, session.modelBudget = some model ∧ SessionFits campaign session.resources model := by
  simp only [validateTrialInputs, bind_eq_ok, raiseIf_eq_ok, orRaise_eq_ok, exists_const,
    not_not] at h
  obtain ⟨-, _, -, -, -, actor, -, -, model, hmodel, hfits, -⟩ := h
  exact ⟨model, hmodel, hfits⟩

lemma requestTokenClaim_eq_ok {trial : ScheduledTrial}
    (h : requestTokenClaim campaign trial = .ok claim) :
    claim.inputTokens = campaign.tokenLimits.maxInputTokensPerRequest ∧
      claim.outputTokens = campaign.tokenLimits.maxOutputTokensPerRequest := by
  unfold requestTokenClaim at h
  dsimp only at h
  split_ifs at h
  cases h
  exact ⟨rfl, rfl⟩

/-- What the run counts, with the claim, fits the budget of its session. -/
structure RunWithin (run : RunState) (claim : RequestTokenClaim) (budget : ModelBudget) :
    Prop where
  requests : run.providerRequests.length + 1 ≤ budget.maxRequests
  input : (run.providerRequests.map ProviderRequestState.countedInputTokens).sum +
    claim.inputTokens ≤ budget.maxTotalInputTokens
  output : (run.providerRequests.map ProviderRequestState.countedOutputTokens).sum +
    claim.outputTokens ≤ budget.maxTotalOutputTokens
  total : (run.providerRequests.map ProviderRequestState.countedInputTokens).sum +
    (run.providerRequests.map ProviderRequestState.countedOutputTokens).sum +
    (claim.inputTokens + claim.outputTokens) ≤ budget.maxTotalTokens

lemma requireRequestBudget_eq_ok (h : requireRequestBudget session run claim = .ok ⟨⟩) :
    ∃ budget, session.modelBudget = some budget ∧ RunWithin run claim budget := by
  simp only [requireRequestBudget, bind_eq_ok, orRaise_eq_ok, raiseIf_eq_ok, not_or, not_lt] at h
  obtain ⟨budget, hbudget, hrequests, hinput, houtput, htotal⟩ := h
  exact ⟨budget, hbudget, hrequests, hinput, houtput, htotal⟩

end Admission

/-- With the claim, the ledger of the trial stays within its limits in every dimension. -/
lemma trial_within (h : replayCampaign header events = .ok state)
    (hclean : state.budgetViolation = false)
    (hledger : state.ledgers.get? trialId = some ledger) {run : RunState}
    (hrequests : Corresponds run.providerRequests state trialId) {claim : RequestTokenClaim}
    {resources : ResourceBudget} {budget : ModelBudget}
    (hfits : SessionFits header.campaign resources budget) (hrun : RunWithin run claim budget)
    (d : BudgetDimension) :
    d.amount ((MutableResources.sumResources ledger.committed ledger.reserved).add
        claim.resources) ≤
      limits header.campaign.tokenLimits header.campaign.executionLimits true d := by
  have hcounted : ∀ {item : ResourceField}, item.IsProvider → _ :=
    fun hitem => trial_le_counted h hclean hledger hrequests hitem
  have hreq := hcounted (Or.inl rfl : ResourceField.requests.IsProvider)
  have hin := hcounted (Or.inr (Or.inl rfl) : ResourceField.inputTokens.IsProvider)
  have hout := hcounted (Or.inr (Or.inr rfl) : ResourceField.outputTokens.IsProvider)
  -- the execution counters are not claimed, and were within their limits before
  have hcaps := (replayCampaign_capsHold h hclean).trial trialId ledger hledger d
  obtain ⟨-, -, hmaxReq, hmaxIn, hmaxOut, hmaxTotal, -⟩ := hfits
  have hr := hrun.requests
  have hi := hrun.input
  have ho := hrun.output
  have ht := hrun.total
  simp only [ProviderRequestState.counted, List.map_const', List.sum_replicate, smul_eq_mul,
    mul_one] at hreq hin hout
  change _ ≤ (((run.providerRequests.map ProviderRequestState.countedInputTokens).sum : Nat) : Int)
    at hin
  change _ ≤ (((run.providerRequests.map ProviderRequestState.countedOutputTokens).sum : Nat) : Int)
    at hout
  cases d with
  | requests =>
    change ledger.committed.get .requests + ledger.reserved.get .requests + 1 ≤
      ((header.campaign.tokenLimits.maxRequestsPerTrial : Nat) : Int)
    omega
  | inputTokens =>
    change ledger.committed.get .inputTokens + ledger.reserved.get .inputTokens +
      (claim.inputTokens : Int) ≤ ((header.campaign.tokenLimits.maxInputTokensPerTrial : Nat) : Int)
    omega
  | outputTokens =>
    change ledger.committed.get .outputTokens + ledger.reserved.get .outputTokens +
      (claim.outputTokens : Int) ≤
        ((header.campaign.tokenLimits.maxOutputTokensPerTrial : Nat) : Int)
    omega
  | totalTokens =>
    change ledger.committed.get .inputTokens + ledger.reserved.get .inputTokens +
      (claim.inputTokens : Int) + (ledger.committed.get .outputTokens +
        ledger.reserved.get .outputTokens + (claim.outputTokens : Int)) ≤
        ((header.campaign.tokenLimits.maxTotalTokensPerTrial : Nat) : Int)
    omega
  | turns => exact (add_zero _).trans_le hcaps
  | toolCalls => exact (add_zero _).trans_le hcaps
  | wallSeconds => exact (add_zero _).trans_le hcaps
  | edaComputeSeconds => exact (add_zero _).trans_le hcaps
  | licenseSeconds => exact (add_zero _).trans_le hcaps
  | artifactBytes => exact (add_zero _).trans_le hcaps

omit [CampaignCanonical] in
lemma rejection_perTrial_eq_false {campaign : CampaignSpec} {claim : CampaignResources}
    {rejection : BudgetRejection}
    (h : reservationRejection state campaign trialId claim true = .ok (some rejection))
    (hinput : claim.inputTokens ≤ campaign.tokenLimits.maxInputTokensPerRequest)
    (houtput : claim.outputTokens ≤ campaign.tokenLimits.maxOutputTokensPerRequest)
    (htrial : ∀ ledger, state.ledgers.get? trialId = some ledger →
      state.budgetViolation = false → ∀ d : BudgetDimension,
        d.amount ((MutableResources.sumResources ledger.committed ledger.reserved).add claim) ≤
          limits campaign.tokenLimits campaign.executionLimits true d) :
    rejection.perTrial = false := by
  simp only [reservationRejection, bind_eq_ok] at h
  obtain ⟨ledger, hready, h⟩ := h
  obtain ⟨hledger, -, -, -, hclean⟩ := readyCampaignProjection_eq_ok.mp hready
  rw [if_neg (by omega), if_neg (by omega)] at h
  cases hglobal : firstExceeded
      (MutableResources.sumResources state.committed state.reserved) claim
      (limits campaign.tokenLimits campaign.executionLimits false) with
  | some d =>
    rw [hglobal] at h
    cases h
    rfl
  | none =>
    rw [hglobal, firstExceeded_eq_none.mpr (htrial ledger hledger hclean)] at h
    cases h

lemma reserveProviderAttempt_rejection {requestKey : Identifier} {requestedModel : ModelLabel}
    {claim : RequestTokenClaim} {securityBinding : ProviderSecurityBinding}
    {reservationId : Identifier} {eventId : UUID} {committed campaign : List CampaignEvent}
    {rejection : BudgetRejection} (hreplay : replayCampaign header committed = .ok state)
    (h : reserveProviderAttempt header trialId requestKey requestedModel claim securityBinding
      reservationId eventId committed = .ok (campaign, .error rejection)) :
    reservationRejection state header.campaign trialId claim.resources true =
      .ok (some rejection) := by
  simp only [reserveProviderAttempt, hreplay, bind_eq_ok, raiseIf_eq_ok, exists_const] at h
  obtain ⟨_, hstate, trial, -, -, -, -, ledger, -, _, -, result, hresult, h⟩ := h
  obtain rfl := Except.ok.inj hstate
  cases result with
  | none =>
    simp only [bind_eq_ok, pure_eq_ok, Prod.mk.injEq] at h
    obtain ⟨_, -, -, hfalse⟩ := h
    cases hfalse
  | some result =>
    simp only [bind_eq_ok, pure_eq_ok, Prod.mk.injEq] at h
    obtain ⟨_, -, -, hresult'⟩ := h
    cases hresult'
    exact hresult

/-- A request that the run admits is not refused for the trial's sake, unless the trial had been
stopped before: the ledger of the trial never holds more than the run has counted. -/
theorem run_admission_implies_trial_admission (feedbackDigest : FeedbackPolicy → Digest)
    (header : CampaignHeader) (frozen : FrozenTrial) (campaignTask : FrozenTask) (task : TaskSpec)
    (origin : TaskOrigin) (releaseDigest environmentDigest : Digest) (session : SessionSpec)
    (run : RunState) (committed : List CampaignEvent) (state : CampaignProjection)
    (claim : RequestTokenClaim) (requestKey : Identifier) (requestedModel : ModelLabel)
    (securityBinding : ProviderSecurityBinding) (reservationId : Identifier) (eventId : UUID)
    (hinputs : validateTrialInputs feedbackDigest header.campaign frozen campaignTask task origin
      releaseDigest environmentDigest session = .ok ⟨⟩)
    (hclaim : requestTokenClaim header.campaign frozen.trial = .ok claim)
    (hreplay : replayCampaign header committed = .ok state)
    (hrequests : Corresponds run.providerRequests state frozen.trial.trialId)
    (hbudget : requireRequestBudget session run claim = .ok ⟨⟩) :
    (∀ dimension, reserveProviderAttempt header frozen.trial.trialId requestKey requestedModel claim
        securityBinding reservationId eventId committed = .error (.budgetExceeded dimension true) →
      (state.trialStopDimensions.get? frozen.trial.trialId).isSome) ∧
    ∀ campaign rejection, reserveProviderAttempt header frozen.trial.trialId requestKey
        requestedModel claim securityBinding reservationId eventId committed =
          .ok (campaign, .error rejection) →
      rejection.perTrial = false := by
  constructor
  · intro dimension herror
    by_contra hstop
    rw [Option.not_isSome_iff_eq_none] at hstop
    exact reserveProviderAttempt_noTrialStop hreplay hstop dimension herror
  · intro campaign rejection hresult
    obtain ⟨model, hmodel, hfits⟩ := fits_of_validateTrialInputs hinputs
    obtain ⟨budget, hsame, hrun⟩ := requireRequestBudget_eq_ok hbudget
    rw [hmodel] at hsame
    obtain rfl := Option.some.inj hsame
    obtain ⟨hinput, houtput⟩ := requestTokenClaim_eq_ok hclaim
    refine rejection_perTrial_eq_false (reserveProviderAttempt_rejection hreplay hresult)
      hinput.le houtput.le ?_
    intro ledger hledger hclean d
    exact trial_within hreplay hclean hledger hrequests hfits hrun d

end Ledgers

/-! ### A trial of two requests -/

section SmallTrial

local instance admissionCanonical : Canonical := plainCanonical
local instance admissionCampaignCanonical : CampaignCanonical := plainCampaignCanonical

/-- The small campaign, with two requests for its trial. -/
lemma twoRequest_output : 100 ≤ 400 := by decide

def twoRequestHeader : CampaignHeader where
  campaign := {
    feedbackPolicyDigest := "d-fb"
    retryPolicy := oneTrialHeader.campaign.retryPolicy
    tokenLimits := {
      maxRequests := 8, maxRequestsPerTrial := 2, maxInputTokensPerRequest := 100,
      maxOutputTokensPerRequest := 50, maxInputTokensPerTrial := 150,
      maxOutputTokensPerTrial := 100, maxTotalTokensPerTrial := 250, maxInputTokens := 800,
      maxOutputTokens := 400, maxTotalTokens := 1200, output_le := twoRequest_output }
    executionLimits := oneTrialHeader.campaign.executionLimits
    digest := "d-camp" }
  providerConfig := oneTrialHeader.providerConfig
  tasks := oneTrialHeader.tasks
  schedule := oneTrialHeader.schedule

def frozenHarness : FrozenHarness where
  providerProfileDigest := "d-prof"
  providerConfigDigest := "d-conf"
  scaffoldDigest := "d-scaf"
  digest := "d-harn"
  harnessId := "harness"
  instructionDigest := "d-ins"
  toolSchemaDigest := "d-tools"
  maximumRequestsPerAction := 1

def frozenTrial : FrozenTrial where
  trial := {
    trialId := "trial_0"
    binding := {
      campaignDigest := "d-camp", taskReleaseDigest := "d-rel", taskFamily := "adder",
      environmentDigest := "d-env"
      harness := frozenHarness.toMeteredProviderHarnessBinding
      routeId := "route", requestedModel := "m0", reasoningEffort := "low",
      serviceTier := "default", observedInputTokenFloor := 10, pairedSeed := "s0",
      repetitionIndex := 0 }
    digest := "d-trial" }
  taskOrigin := .nativeSealed []
  deviceCapability := .rtlLint
  harness := frozenHarness

def frozenTask : FrozenTask where
  taskFamily := "adder"
  taskOrigin := .nativeSealed []
  environmentDigest := "d-env"
  harness := frozenHarness
  evaluatorStageIds := ["gate"]

def trialSession : SessionSpec where
  mode := .benchmark 1
  actors := [.harness "h0" "harness" "d-harn" "d-scaf" "m0"]
  feedback := .stage
  recovery := .none
  resources := {
    maxTurns := 4, maxToolCalls := 4, maxExperiments := 1, maxWallSeconds := 60,
    maxEdaComputeSeconds := 60, maxLicenseSeconds := 0, maxArtifactBytes := 1000 }
  modelBudget := some {
    maxRequests := 2, maxInputTokensPerRequest := 100, maxOutputTokensPerRequest := 50,
    maxTotalInputTokens := 150, maxTotalOutputTokens := 100, maxTotalTokens := 250 }

def trialClaim : RequestTokenClaim where
  inputTokens := 100
  outputTokens := 50
  observedInputTokenFloor := 10

def trialSecurity : ProviderSecurityBinding where
  canaryReceiptDigest := "d-cr"
  runtimeSurfaceManifestDigest := "d-rs"
  budgetBindingDigest := "d-camp/d-sched"

/-- A first request is reserved. -/
def heldJournal : List CampaignEvent :=
  [{ eventId := 0, sequence := 0
     payload := .reservationCreated {
       reservationId := "r0", trialId := "trial_0", claim := trialClaim.resources
       provider := some { requestKey := "q0", attemptNumber := 1, observedInputTokenFloor := 10
                          securityBinding := trialSecurity } } }]

lemma trialInputs_valid : validateTrialInputs (fun _ => "d-fb") twoRequestHeader.campaign
    frozenTrial frozenTask gateTask (.nativeSealed []) "d-rel" "d-env" trialSession = .ok ⟨⟩ := by
  decide +kernel

lemma trialClaim_eq :
    requestTokenClaim twoRequestHeader.campaign frozenTrial.trial = .ok trialClaim := by
  decide +kernel

/-- A reservation whose request has not reached the run journal takes from the trial what the run
still counts as free. -/
theorem heldJournal_refused :
    validateTrialInputs (fun _ => "d-fb") twoRequestHeader.campaign frozenTrial frozenTask gateTask
      (.nativeSealed []) "d-rel" "d-env" trialSession = .ok ⟨⟩ ∧
    requestTokenClaim twoRequestHeader.campaign frozenTrial.trial = .ok trialClaim ∧
    (∃ state, replayCampaign twoRequestHeader heldJournal = .ok state ∧
      state.attempts "trial_0" = []) ∧
    (∃ run, replay harnessHeader gateTask transcriptEvents = .ok run ∧
      requireRequestBudget trialSession run trialClaim = .ok ⟨⟩) ∧
    ∃ campaign, reserveProviderAttempt twoRequestHeader "trial_0" "q1" "m0" trialClaim
      trialSecurity "r1" 1 heldJournal =
        .ok (campaign, .error { dimension := .inputTokens, perTrial := true }) := by
  refine ⟨trialInputs_valid, trialClaim_eq, ?_, ?_, ?_⟩
  · have hattempts : (replayCampaign twoRequestHeader heldJournal).toOption.map
        (fun state => state.attempts "trial_0") = some [] := by
      decide +kernel
    cases hstate : replayCampaign twoRequestHeader heldJournal with
    | error e => simp [hstate, Except.toOption] at hattempts
    | ok state =>
      rw [hstate] at hattempts
      exact ⟨state, rfl, Option.some.inj hattempts⟩
  · have hbudget : (replay harnessHeader gateTask transcriptEvents).toOption.map
        (fun run => requireRequestBudget trialSession run trialClaim) = some (.ok ⟨⟩) := by
      decide +kernel
    cases hrun : replay harnessHeader gateTask transcriptEvents with
    | error e => simp [hrun, Except.toOption] at hbudget
    | ok run =>
      rw [hrun] at hbudget
      exact ⟨run, rfl, Option.some.inj hbudget⟩
  · have hresult : (reserveProviderAttempt twoRequestHeader "trial_0" "q1" "m0" trialClaim
        trialSecurity "r1" 1 heldJournal).toOption.map Prod.snd =
          some (.error { dimension := .inputTokens, perTrial := true }) := by
      decide +kernel
    cases hreserve : reserveProviderAttempt twoRequestHeader "trial_0" "q1" "m0" trialClaim
        trialSecurity "r1" 1 heldJournal with
    | error e => simp [hreserve, Except.toOption] at hresult
    | ok pair =>
      rw [hreserve] at hresult
      obtain ⟨campaign, result⟩ := pair
      obtain rfl : result = _ := Option.some.inj hresult
      exact ⟨campaign, rfl⟩

def answeredAttempt : ProviderAttemptRecord where
  requestKey := "q0"
  attemptNumber := 1
  reservedTokenClaim := trialClaim
  disposition := .completed
  requestedModel := "m0"
  requestedServiceTier := "default"
  securityBinding := trialSecurity
  providerReportedModel := some "m0"
  providerResponseStatus := some .completed
  providerUsage := some { inputTokens := 40, outputTokens := 20, totalTokens := 60 }
  chargedResources := chargedResources trialClaim.resources
    (some { inputTokens := 40, outputTokens := 20, totalTokens := 60 })
  charged_provider := ⟨rfl, rfl, rfl, rfl, rfl, rfl, rfl⟩
  charged_usage := by
    intro usage husage
    cases husage
    exact ⟨rfl, rfl⟩

/-- The first request is answered, for less than it reserved. -/
def answeredJournal : List CampaignEvent :=
  heldJournal ++
    [{ eventId := 1, sequence := 1
       payload := .reservationDispatched { reservationId := "r0" } },
     { eventId := 2, sequence := 2
       payload := .providerAttemptSettled { reservationId := "r0", attempt := answeredAttempt } }]

/-- The run that has this request in its journal. -/
def answeredRun : RunState where
  runId := "run:t0"
  nextSequence := 5
  currentWriter := "h0"
  candidates := []
  stageResults := []
  scoring := []
  artifacts := []
  checkpointIds := []
  interactionIds := []
  providerRequests := [{
    requestId := "q0", actorId := "h0", requestArtifactId := "q0.request"
    securityEvidenceArtifactId := "canary", providerProfileDigest := "d-prof"
    providerConfigDigest := "d-conf", requestedModel := "m0", requestedServiceTier := "default"
    observedInputTokenFloor := 10, securityBinding := trialSecurity, reservedInputTokens := 100
    reservedOutputTokens := 50, providerReportedModel := some "m0", status := some .completed
    usage := some { inputTokens := 40, outputTokens := 20, totalTokens := 60 } }]
  jobs := []
  terminalReason := none
  successfulCandidateId := none

theorem answeredRun_admitted :
    requireRequestBudget trialSession answeredRun trialClaim = .ok ⟨⟩ ∧
    ∃ state, replayCampaign twoRequestHeader answeredJournal = .ok state ∧
      ∀ campaign rejection, reserveProviderAttempt twoRequestHeader "trial_0" "q1" "m0" trialClaim
        trialSecurity "r1" 3 answeredJournal = .ok (campaign, .error rejection) →
          rejection.perTrial = false := by
  have hbudget : requireRequestBudget trialSession answeredRun trialClaim = .ok ⟨⟩ := by
    decide +kernel
  have hledger : (replayCampaign twoRequestHeader answeredJournal).toOption.map
      (fun state => (state.attempts "trial_0", state.providerReservations "trial_0")) =
        some ([answeredAttempt], []) := by
    decide +kernel
  cases hstate : replayCampaign twoRequestHeader answeredJournal with
  | error e => simp [hstate, Except.toOption] at hledger
  | ok state =>
    rw [hstate] at hledger
    obtain ⟨hattempts, hheld⟩ := Prod.mk.inj (Option.some.inj hledger)
    have hrequests : Corresponds answeredRun.providerRequests state "trial_0" := by
      refine ⟨answeredRun.providerRequests, [], List.Subperm.refl _, ?_, ?_⟩
      · rw [hattempts]
        exact .cons ⟨rfl, rfl, rfl, rfl, rfl, rfl, rfl⟩ .nil
      · rw [hheld]
        exact .nil
    exact ⟨hbudget, state, rfl, (run_admission_implies_trial_admission (fun _ => "d-fb")
      twoRequestHeader frozenTrial frozenTask gateTask (.nativeSealed []) "d-rel" "d-env"
      trialSession answeredRun answeredJournal state trialClaim "q1" "m0" trialSecurity "r1" 3
      trialInputs_valid trialClaim_eq hstate hrequests hbudget).2⟩

end SmallTrial

end EdaGym
