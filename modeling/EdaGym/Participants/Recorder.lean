import EdaGym.Providers.Campaign
import EdaGym.Run.JournalFile
import EdaGym.Run.Terminal

/-!
# The journaling observer of a provider exchange

`requestReserved` and `responseReceived` commit the two facts a run keeps of one exchange with a
provider: that its request was about to leave, and what was answered. A recorder serves one
exchange, so the flags that forbid a second use of it never refuse.
-/

namespace EdaGym

variable [Canonical]

/-! ### Results of a provider -/

@[ext]
structure ProviderUsage where
  inputTokens : Nat
  outputTokens : Nat
  totalTokens : Nat
  cachedInputTokens : Option Nat := none
  reasoningTokens : Option Nat := none
  total_eq : totalTokens = inputTokens + outputTokens := by decide
  cached_le : ∀ n ∈ cachedInputTokens, n ≤ inputTokens := by simp
  reasoning_le : ∀ n ∈ reasoningTokens, n ≤ outputTokens := by simp

instance : DecidableEq ProviderUsage := fun _ _ => decidable_of_iff _ ProviderUsage.ext_iff.symm

inductive FunctionCallStatus
  | inProgress | completed | incomplete
deriving DecidableEq, Repr

inductive ResponseOutput
  | outputText (text : String)
  | functionCall (callId name arguments : String) (status : Option FunctionCallStatus)
  | refusal (text : String)
  | reasoningSummary (texts : List String)
deriving DecidableEq, Repr

/-- A parsed response. The model it names is the provider's own text, checked by nobody yet. -/
structure ResponsesResult where
  reportedModel : String
  reportedServiceTier : Option ServiceTierLabel := none
  status : ProviderResponseStatus
  outputs : List ResponseOutput := []
  usage : Option ProviderUsage := none
deriving DecidableEq

/-- The white space of the label patterns. -/
def isSpace (c : Char) : Bool :=
  (9 ≤ c.toNat ∧ c.toNat ≤ 13) ∨ (0x2000 ≤ c.toNat ∧ c.toNat ≤ 0x200A) ∨
    c.toNat ∈ [0x20, 0x85, 0xA0, 0x1680, 0x2028, 0x2029, 0x202F, 0x205F, 0x3000]

/-- The values of `ModelLabel`. -/
def IsModelLabel (s : String) : Prop :=
  1 ≤ s.toList.length ∧ s.toList.length ≤ 160 ∧ ∀ c ∈ s.toList, isSpace c = false

instance (s : String) : Decidable (IsModelLabel s) :=
  -- over the characters of the label, and not over all characters
  have : Decidable (∀ c ∈ s.toList, isSpace c = false) := List.decidableBAll _ _
  inferInstanceAs (Decidable (_ ∧ _ ∧ _))

/-- The facts of a result that both journals accept. -/
def ResponsesResult.Recordable (result : ResponsesResult) : Prop :=
  IsModelLabel result.reportedModel ∧ ∀ usage ∈ result.usage, usage.totalTokens ≤ JCS_INTEGER_MAX

instance (result : ResponsesResult) : Decidable result.Recordable :=
  inferInstanceAs (Decidable (_ ∧ _))

/-! ### The sender and the recorder -/

structure ProviderCanaryEvidence where
  receiptDigest : Digest
  runtimeSurfaceManifestDigest : Digest
  artifactId : Identifier

/-- A provider session that shares the budget of its campaign. -/
structure ResponsesCampaign where
  providerProfileDigest : Digest
  providerConfigDigest : Digest
  canaryEvidence : ProviderCanaryEvidence
  budgetBindingDigest : Digest

def ResponsesCampaign.securityBinding (campaign : ResponsesCampaign) : ProviderSecurityBinding where
  canaryReceiptDigest := campaign.canaryEvidence.receiptDigest
  runtimeSurfaceManifestDigest := campaign.canaryEvidence.runtimeSurfaceManifestDigest
  budgetBindingDigest := campaign.budgetBindingDigest

structure JournalExchangeRecorder where
  actorId : Identifier
  requestedModelRoute : ModelLabel
  requestId : Identifier
  tokenClaim : RequestTokenClaim
  requestedServiceTier : Option ServiceTierLabel := none
  expectedProviderIdentity : Option (Digest × Digest) := none
  expectedSecurityBinding : Option ProviderSecurityBinding := none
deriving DecidableEq

/-- What the store, the clock and the event identifiers contribute to a recorded request. -/
structure RequestInputs where
  transcript : BlobRef
  evidence : BlobRef
  evidenceSensitivity : Sensitivity
  evidenceRedistribution : Redistribution
  timestamp : Datetime
  artifactEventId : UUID
  securityArtifactEventId : UUID
  providerEventId : UUID
  not_secret : evidenceSensitivity ≠ .secret := by decide

/-- What they contribute to a recorded response. -/
structure ResponseInputs where
  transcript : BlobRef
  timestamp : Datetime
  artifactEventId : UUID
  providerEventId : UUID

def storeTranscript (blob : BlobRef) (requestId : Identifier) (role : ProviderTranscriptRole) :
    ArtifactRecord where
  logicalId := Canonical.providerTranscriptArtifactId requestId role
  blob := blob
  mediaType := PROVIDER_TRANSCRIPT_MEDIA_TYPE
  artifactClass := .training
  sensitivity := .confidential
  visibility := .author
  redistribution := .forbidden

def storeProviderCanaryEvidence (evidence : ProviderCanaryEvidence) (inputs : RequestInputs) :
    ArtifactRecord where
  logicalId := evidence.artifactId
  blob := inputs.evidence
  mediaType := PROVIDER_CANARY_EVIDENCE_MEDIA_TYPE
  artifactClass := .evidence
  sensitivity := inputs.evidenceSensitivity
  visibility := .author
  redistribution := inputs.evidenceRedistribution
  not_secret := inputs.not_secret
  public_policy := by simp

def artifactRecordedEvent (runId : Digest) (sequence : Nat) (eventId : UUID) (timestamp : Datetime)
    (record : ArtifactRecord) : RunEvent :=
  .artifactRecorded {
    runId, sequence, eventId, timestamp
    producer := .controller
    visibility := .author
    payload := { record } }

namespace JournalExchangeRecorder

variable (recorder : JournalExchangeRecorder) (campaign : ResponsesCampaign)

def startedPayload : ProviderRequestStartedPayload where
  requestId := recorder.requestId
  actorId := recorder.actorId
  requestArtifactId := Canonical.providerTranscriptArtifactId recorder.requestId .request
  securityEvidenceArtifactId := campaign.canaryEvidence.artifactId
  providerProfileDigest := campaign.providerProfileDigest
  providerConfigDigest := campaign.providerConfigDigest
  requestedModel := recorder.requestedModelRoute
  requestedServiceTier := recorder.requestedServiceTier
  observedInputTokenFloor := recorder.tokenClaim.observedInputTokenFloor
  securityBinding := campaign.securityBinding
  reservedInputTokens := recorder.tokenClaim.inputTokens
  reservedOutputTokens := recorder.tokenClaim.outputTokens
  input_bound := recorder.tokenClaim.input_bound
  output_bound := recorder.tokenClaim.output_bound
  floor_lt := recorder.tokenClaim.floor_lt

def requestStartedEvent (runId : Digest) (sequence : Nat) (eventId : UUID) (timestamp : Datetime) :
    Except JournalError RunEvent :=
  let payload := recorder.startedPayload campaign
  if h : payload.requestArtifactId ≠ payload.securityEvidenceArtifactId then
    .ok (.providerRequestStarted {
      runId, sequence, eventId, timestamp, payload
      producer := .controller
      visibility := .author
      artifactRefs := sortedStrings [payload.requestArtifactId, payload.securityEvidenceArtifactId]
      refs_sorted := sortedStrings_pairwise (by simpa using h)
      artifacts_ne := h
      refs_eq := by simp })
  else .error (.valueError "an event may reference an artifact only once")

def requestReservedEvents (inputs : RequestInputs) (state : RunState) :
    Except JournalError (List RunEvent) := do
  let record := storeTranscript inputs.transcript recorder.requestId .request
  let securityRecord := storeProviderCanaryEvidence campaign.canaryEvidence inputs
  let existingSecurity := state.artifacts.find? fun item =>
    item.logicalId = securityRecord.logicalId
  raiseIf (∃ item ∈ existingSecurity, item ≠ securityRecord) (.adapterError .channelFailure)
  let securityEvents : List RunEvent :=
    if existingSecurity = none then
      [artifactRecordedEvent state.runId (state.nextSequence + 1) inputs.securityArtifactEventId
        inputs.timestamp securityRecord]
    else []
  let started ← recorder.requestStartedEvent campaign state.runId
    (state.nextSequence + 1 + securityEvents.length) inputs.providerEventId inputs.timestamp
  return artifactRecordedEvent state.runId state.nextSequence inputs.artifactEventId
    inputs.timestamp record :: securityEvents ++ [started]

def responsePayload (result : ResponsesResult) :
    Except JournalError ProviderResponseRecordedPayload :=
  if h : result.Recordable then .ok {
    requestId := recorder.requestId
    providerReportedModel := result.reportedModel
    providerReportedServiceTier := result.reportedServiceTier
    status := result.status
    usage := result.usage.attach.map fun ⟨usage, hmem⟩ => {
      inputTokens := usage.inputTokens
      outputTokens := usage.outputTokens
      totalTokens := usage.totalTokens
      cachedInputTokens := usage.cachedInputTokens
      reasoningTokens := usage.reasoningTokens
      total_eq := usage.total_eq
      total_bound := h.2 usage hmem
      cached_le := usage.cached_le
      reasoning_le := usage.reasoning_le } }
  else .error (.valueError "validation error for ProviderResponseRecordedPayload")

def responseReceivedEvents (result : ResponsesResult) (inputs : ResponseInputs) (state : RunState) :
    Except JournalError (List RunEvent) := do
  let record := storeTranscript inputs.transcript recorder.requestId .response
  let payload ← recorder.responsePayload result
  return [
    artifactRecordedEvent state.runId state.nextSequence inputs.artifactEventId inputs.timestamp
      record,
    .providerResponseRecorded {
      runId := state.runId
      sequence := state.nextSequence + 1
      eventId := inputs.providerEventId
      timestamp := inputs.timestamp
      producer := .controller
      visibility := .author
      artifactRefs := [record.logicalId]
      payload }]

variable (header : RunHeader) (task : TaskSpec)

/-- Commit that the request is about to leave; the result is the journal after the commit. -/
def requestReserved (trialId : Identifier) (inputs : RequestInputs) (committed : List RunEvent) :
    Except JournalError (List RunEvent) := do
  raiseIf (trialId ≠ header.binding.trialKey) (.adapterError .channelFailure)
  let identity := (campaign.providerProfileDigest, campaign.providerConfigDigest)
  let security := campaign.securityBinding
  raiseIf (∃ expected ∈ recorder.expectedProviderIdentity, identity ≠ expected)
    (.adapterError .channelFailure)
  raiseIf (∃ expected ∈ recorder.expectedSecurityBinding, security ≠ expected)
    (.adapterError .channelFailure)
  raiseIf (security.canaryReceiptDigest ≠ campaign.canaryEvidence.receiptDigest ∨
      security.runtimeSurfaceManifestDigest ≠ campaign.canaryEvidence.runtimeSurfaceManifestDigest)
    (.adapterError .channelFailure)
  let state ← replay header task committed
  raiseIf (∃ item ∈ state.providerRequests, item.actorId = recorder.actorId ∧
      ((item.providerProfileDigest, item.providerConfigDigest), item.securityBinding) ≠
        (identity, security))
    (.adapterError .channelFailure)
  let (_, requested) ← admitTransact header task
    (recorder.requestReservedEvents campaign inputs) committed
  return committed ++ requested

/-- Commit what the provider answered. -/
def responseReceived (result : ResponsesResult) (inputs : ResponseInputs)
    (committed : List RunEvent) : Except JournalError (List RunEvent) := do
  let (_, requested) ← admitTransact header task (recorder.responseReceivedEvents result inputs)
    committed
  return committed ++ requested

end JournalExchangeRecorder

/-! ### What a recorder leaves in the journal -/

def RunEvent.isProviderFact : RunEvent → Bool
  | .providerRequestStarted _ | .providerResponseRecorded _ => true
  | _ => false

section Effects

variable {header : RunHeader} {task : TaskSpec} {st st' : ReplayState}
  {committed requested events : List RunEvent}

lemma admitTransact_eq_ok {factory : RunState → Except JournalError (List RunEvent)}
    {state : RunState} (h : admitTransact header task factory committed = .ok (state, requested)) :
    ∃ st st', replayLoop header task committed = .ok st ∧
      factory (st.runState header) = .ok requested ∧
      foldSteps (replayStep header task) st requested = .ok st' ∧
      replayLoop header task (committed ++ requested) = .ok st' ∧ st'.runState header = state := by
  simp only [admitTransact, bind_eq_ok, raiseIf_eq_ok, exists_const, pure_eq_ok, Prod.mk.injEq] at h
  obtain ⟨before, hbefore, -, _, hfactory, -, -, -, -, _, hreplay, rfl, rfl⟩ := h
  obtain ⟨-, -, st, -, hst, -, -, rfl⟩ := replay_eq_ok_iff.mp hbefore
  obtain ⟨-, -, st', -, hst', -, -, rfl⟩ := replay_eq_ok_iff.mp hreplay
  obtain ⟨st₀, hst₀, hrun⟩ := foldSteps_append_eq_ok.mp hst'
  obtain rfl := Except.ok.inj (hst.symm.trans hst₀)
  exact ⟨st, st', hst, hfactory, hrun, hst', rfl⟩

lemma providerRequests_step {event : RunEvent} (h : replayStep header task st event = .ok st')
    (hevent : event.isProviderFact = false) : st'.providerRequests = st.providerRequests := by
  obtain ⟨-, rfl⟩ := replayStep_eq_ok_iff.mp h
  cases event with
  | providerRequestStarted e => cases hevent
  | providerResponseRecorded e => cases hevent
  | _ => rfl

lemma providerRequests_run (h : foldSteps (replayStep header task) st events = .ok st')
    (hevents : ∀ e ∈ events, e.isProviderFact = false) :
    st'.providerRequests = st.providerRequests := by
  induction events generalizing st with
  | nil =>
    obtain rfl := Except.ok.inj h
    rfl
  | cons event events ih =>
    obtain ⟨st₁, hstep, hrest⟩ := foldSteps_cons_eq_ok.mp h
    rw [ih hrest fun e he => hevents e (List.mem_cons_of_mem _ he),
      providerRequests_step hstep (hevents event List.mem_cons_self)]

namespace JournalExchangeRecorder

variable {recorder : JournalExchangeRecorder} {campaign : ResponsesCampaign}

/-- A recorded request is new to the journal, and nothing else about requests changes. -/
lemma requestReserved_eq_ok {trialId : Identifier} {inputs : RequestInputs}
    (h : recorder.requestReserved campaign header task trialId inputs committed = .ok events) :
    trialId = header.binding.trialKey ∧ ∃ st st', replayLoop header task committed = .ok st ∧
      replayLoop header task events = .ok st' ∧ recorder.requestId ∉ st.providerRequests ∧
      st'.providerRequests = st.providerRequests.insert recorder.requestId
        (recorder.startedPayload campaign).requestState := by
  simp only [requestReserved, bind_eq_ok, raiseIf_eq_ok, exists_const, pure_eq_ok, not_not] at h
  obtain ⟨htrial, -, -, -, _, -, -, ⟨_, requested⟩, hadmit, rfl⟩ := h
  obtain ⟨st, st', hst, hfactory, hrun, hst', -⟩ := admitTransact_eq_ok hadmit
  refine ⟨htrial, st, st', hst, hst', ?_⟩
  simp only [requestReservedEvents, bind_eq_ok, raiseIf_eq_ok, exists_const, pure_eq_ok,
    requestStartedEvent] at hfactory
  obtain ⟨-, started, hstarted, rfl⟩ := hfactory
  by_cases hne : (recorder.startedPayload campaign).requestArtifactId ≠
      (recorder.startedPayload campaign).securityEvidenceArtifactId
  case neg =>
    rw [dif_neg hne] at hstarted
    cases hstarted
  rw [dif_pos hne] at hstarted
  obtain rfl := Except.ok.inj hstarted
  obtain ⟨st₁, hartifacts, hlast⟩ := foldSteps_append_eq_ok.mp hrun
  have hkeep : st₁.providerRequests = st.providerRequests := by
    refine providerRequests_run hartifacts fun e he => ?_
    rcases List.mem_cons.mp he with rfl | he
    · rfl
    · split_ifs at he
      case pos =>
        obtain rfl := List.mem_singleton.mp he
        rfl
      case neg => cases he
  obtain ⟨_, hstep, hnil⟩ := foldSteps_cons_eq_ok.mp hlast
  obtain rfl := Except.ok.inj hnil
  obtain ⟨⟨l, hadm⟩, rfl⟩ := replayStep_eq_ok_iff.mp hstep
  have hkind : ProviderRequestAdmitted header st₁ _ := hadm.kind
  rw [← hkeep]
  exact ⟨hkind.fresh, rfl⟩

/-- A recorded response answers a request that had none. -/
lemma responseReceived_eq_ok {result : ResponsesResult} {inputs : ResponseInputs}
    (h : recorder.responseReceived header task result inputs committed = .ok events) :
    ∃ st st' payload request, replayLoop header task committed = .ok st ∧
      replayLoop header task events = .ok st' ∧ recorder.responsePayload result = .ok payload ∧
      st.providerRequests.get? recorder.requestId = some request ∧ request.status = none ∧
      st'.providerRequests = st.providerRequests.insert recorder.requestId
        (request.respond payload) := by
  simp only [responseReceived, bind_eq_ok, pure_eq_ok] at h
  obtain ⟨⟨_, requested⟩, hadmit, rfl⟩ := h
  obtain ⟨st, st', hst, hfactory, hrun, hst', -⟩ := admitTransact_eq_ok hadmit
  simp only [responseReceivedEvents, bind_eq_ok, pure_eq_ok] at hfactory
  obtain ⟨payload, hpayload, rfl⟩ := hfactory
  obtain ⟨st₁, hartifact, hlast⟩ := foldSteps_cons_eq_ok.mp hrun
  have hkeep : st₁.providerRequests = st.providerRequests := providerRequests_step hartifact rfl
  obtain ⟨_, hstep, hnil⟩ := foldSteps_cons_eq_ok.mp hlast
  obtain rfl := Except.ok.inj hnil
  obtain ⟨⟨l, hadm⟩, rfl⟩ := replayStep_eq_ok_iff.mp hstep
  have hkind : ProviderResponseAdmitted st₁ _ := hadm.kind
  have hid : payload.requestId = recorder.requestId := by
    unfold responsePayload at hpayload
    split_ifs at hpayload
    obtain rfl := Except.ok.inj hpayload
    rfl
  obtain ⟨request, hrequest, hstatus⟩ := hkind.request
  simp only [hid, hkeep] at hrequest
  refine ⟨st, _, payload, request, hst, hst', hpayload, hrequest, hstatus, ?_⟩
  simp [ReplayState.apply, ReplayState.effect, hid, hkeep, hrequest]

end JournalExchangeRecorder

end Effects

end EdaGym
