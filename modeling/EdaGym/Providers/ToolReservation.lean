import EdaGym.Providers.TrialEvidence
import EdaGym.Resolution.Environment
import EdaGym.Run.DeadEnd
import EdaGym.Run.JournalFile
import EdaGym.Run.Projections

/-!
# Reserving resources for a participant tool

Before a participant's tool runs, the dispatcher reserves compute and licence time for it out of
what the session has left, and journals the reservation. How much is left is computed from the
journal, whose replay admits histories for which that computation raises.
-/

namespace EdaGym

open Resolution (ToolBinding ParticipantOperationBinding)

section Dispatch

variable [Canonical]

/-! ### The dispatcher -/

/-- An environment with the limits that a dispatch reads. -/
structure DispatchEnvironment extends Resolution.EnvironmentSpec where
  wallSeconds : Nat
  leaseTtlSeconds : Resolution.LicenseBinding → Nat
  wall_pos : 0 < wallSeconds
  ttl_pos : ∀ binding ∈ licenses, 0 < leaseTtlSeconds binding

/-- The tool that an operation runs. -/
def DispatchEnvironment.binding? (environment : DispatchEnvironment)
    (operation : ParticipantOperationBinding) : Option ToolBinding :=
  environment.toolBindings.find? fun binding =>
    binding.capability = operation.capability ∧ binding.toolId = operation.toolId

/-- `ExecutorParticipantToolDispatcher`: the operations of the environment are those of the run. -/
structure ToolDispatcher where
  header : RunHeader
  task : TaskSpec
  environment : DispatchEnvironment
  resources : ResourceBudget
  tools_bound : ∀ operation ∈ environment.participantOperations,
    ∃ binding ∈ environment.binding? operation, ∃ tool ∈ header.binding.environment.tools,
      tool.capability = binding.capability ∧ tool.toolId = binding.toolId ∧
      tool.driverDigest = binding.driverDigest ∧
      tool.deploymentAttestationDigest = binding.locator.deploymentAttestationDigest
  operations_bound : ∀ operation ∈ environment.participantOperations,
    ∃ resolved ∈ header.binding.environment.participantOperations,
      resolved.operationId = operation.operationId ∧
      resolved.operationDigest = operation.digest ∧
      resolved.capability = operation.capability ∧ resolved.toolId = operation.toolId

/-- One invocation of an operation, for a tool request of the participant. -/
structure ToolInvocation (dispatcher : ToolDispatcher) where
  operation : ParticipantOperationBinding
  binding : ToolBinding
  requestInteractionId : Identifier
  invocationDigest : Digest
  inputManifestDigest : Digest
  operation_mem : operation ∈ dispatcher.environment.participantOperations
  binding_eq : dispatcher.environment.binding? operation = some binding

structure DispatchReservation where
  payload : ParticipantToolReservedPayload
  computeLimitFailure : Option ParticipantFailureKind
  licenseLimitFailure : Option ParticipantFailureKind
deriving DecidableEq

/-! ### What is used and what is left -/

/-- The milliseconds that the run has used so far. -/
structure DispatchUsage where
  compute : Nat
  license : Nat
deriving DecidableEq

def dispatchUsage (events : List RunEvent) : Except JournalError DispatchUsage := do
  let participant ← participantToolUsage events
  let elapsed ← evaluatorElapsedMilliseconds events
  let license ← evaluatorLicenseMilliseconds events
  return { compute := elapsed + participant.edaComputeMilliseconds
           license := license + participant.licenseMilliseconds }

namespace ToolDispatcher

variable (dispatcher : ToolDispatcher)

def remainingWall (started now : Datetime) : Int :=
  dispatcher.resources.maxWallSeconds * 1000 - datetimeMilliseconds started now

def remainingCompute (used : DispatchUsage) : Int :=
  dispatcher.resources.maxEdaComputeSeconds * 1000 - used.compute

def remainingLicense (used : DispatchUsage) : Int :=
  dispatcher.resources.maxLicenseSeconds * 1000 - used.license

def environmentLimit : Int := dispatcher.environment.wallSeconds * 1000

/-! ### The reservation -/

def computeReservation (used : DispatchUsage) (started now : Datetime) : Int :=
  min (min (dispatcher.remainingWall started now) (dispatcher.remainingCompute used))
    dispatcher.environmentLimit

/-- The budget that an execution exhausts when it uses all of its compute time. -/
def computeLimitFailure (used : DispatchUsage) (started now : Datetime) :
    Option ParticipantFailureKind :=
  if dispatcher.computeReservation used started now = dispatcher.remainingWall started now then
    some .wallBudget
  else if dispatcher.computeReservation used started now = dispatcher.remainingCompute used then
    some .edaComputeBudget
  else none

end ToolDispatcher

namespace ToolInvocation

variable {dispatcher : ToolDispatcher} (invocation : ToolInvocation dispatcher)

/-- The reserved licence time, and the budget that using all of it exhausts. -/
def licenseReservation (used : DispatchUsage) (compute : Int) :
    Except JournalError (Int × Option ParticipantFailureKind) :=
  match invocation.binding.licenseBindingId with
  | none => .ok (0, none)
  | some bindingId => do
    let binding ← orRaise (dispatcher.environment.licenses.find? fun item =>
      item.licenseBindingId = bindingId) (.lookupError bindingId)
    raiseIf (dispatcher.remainingLicense used ≤ 0) (.adapterError .licenseBudget)
    let reservation := min (min (dispatcher.remainingLicense used)
      (dispatcher.environment.leaseTtlSeconds binding * 1000)) compute
    return (reservation,
      if reservation = dispatcher.remainingLicense used then some .licenseBudget else none)

/-- The amounts that a reservation can carry: JSON-safe ones, with licence time for a licensed tool
only. -/
def AmountsFit (compute license : Nat) : Prop :=
  (1 ≤ compute ∧ compute ≤ JCS_INTEGER_MAX) ∧
    (invocation.binding.licenseBindingId = none ↔ license = 0) ∧ license ≤ compute

instance (compute license : Nat) : Decidable (invocation.AmountsFit compute license) :=
  inferInstanceAs (Decidable (_ ∧ _ ∧ _))

def reservedPayload (compute license : Nat) (h : invocation.AmountsFit compute license) :
    ParticipantToolReservedPayload where
  requestInteractionId := invocation.requestInteractionId
  invocationId := Canonical.participantToolInvocationId dispatcher.header.runId
    invocation.requestInteractionId
  invocationDigest := invocation.invocationDigest
  operationId := invocation.operation.operationId
  operationDigest := invocation.operation.digest
  inputManifestDigest := invocation.inputManifestDigest
  toolId := invocation.binding.toolId
  capability := invocation.binding.capability
  executorId := dispatcher.header.binding.environment.executorId
  licenseBindingId := invocation.binding.licenseBindingId
  budgetDigest := dispatcher.header.binding.session.budgetDigest
  reservedComputeMilliseconds := compute
  reservedLicenseMilliseconds := license
  compute_bound := h.1
  license_iff := h.2.1
  license_le := h.2.2

def reservedEvent (compute license : Nat) (h : invocation.AmountsFit compute license)
    (sequence : Nat) (eventId : UUID) (now : Datetime) : ParticipantToolReservedEvent where
  toEventBase := componentBase dispatcher.header sequence eventId now .controller .verifier
  payload := invocation.reservedPayload compute license h
  invocation_eq := rfl

/-- `_reserve_dispatch`: the reservation, and the journal it was committed to. -/
def reserveDispatch (events : List RunEvent) (now : Datetime) (eventId : UUID) :
    Except JournalError (DispatchReservation × List RunEvent) := do
  let first ← orRaise events.head?
    (.valueError "participant tool reservation requires a started run")
  let started := first.base.timestamp
  let used ← dispatchUsage events
  raiseIf (dispatcher.remainingWall started now ≤ 0) (.adapterError .wallBudget)
  raiseIf (dispatcher.remainingCompute used ≤ 0) (.adapterError .edaComputeBudget)
  let compute := dispatcher.computeReservation used started now
  let (license, licenseLimitFailure) ← invocation.licenseReservation used compute
  if h : invocation.AmountsFit compute.toNat license.toNat then
    let (_, committed) ← admitTransact dispatcher.header dispatcher.task (fun state =>
      .ok [.participantToolReserved
        (invocation.reservedEvent compute.toNat license.toNat h state.nextSequence eventId now)])
      events
    return ({ payload := invocation.reservedPayload compute.toNat license.toNat h
              computeLimitFailure := dispatcher.computeLimitFailure used started now
              licenseLimitFailure }, events ++ committed)
  else .error (.valueError "participant tool reservation is out of bounds")

end ToolInvocation

/-! ### How much has been used -/

section Reserving

variable {header : RunHeader} {task : TaskSpec} {st : ReplayState} {events : List RunEvent}

/-- Nothing is open but one request for an executor tool. -/
structure OnlyRequestOpen (st : ReplayState) (request : InteractionRecordedEvent) : Prop where
  direction : request.payload.direction = .toolRequest
  tool : request.payload.toolName = some EXECUTOR_PARTICIPANT_TOOL_NAME
  evaluations : st.activeJobs.isEmpty = true
  jobs : ¬ st.HasActiveExecutorJob
  leases : st.activeLicenseLeases.isEmpty = true
  providers : ¬ st.HasUnsettledProviderRequest
  requests : ∀ p ∈ st.interactions.entries, p.2.payload.direction = .toolRequest →
    p.1 ∉ st.resolvedToolRequests → p.2 = request
  dispatches : ¬ st.HasOpenToolDispatch

instance (st : ReplayState) (request : InteractionRecordedEvent) :
    Decidable (OnlyRequestOpen st request) :=
  decidable_of_iff
    (request.payload.direction = .toolRequest ∧
      request.payload.toolName = some EXECUTOR_PARTICIPANT_TOOL_NAME ∧
      st.activeJobs.isEmpty = true ∧ ¬ st.HasActiveExecutorJob ∧
      st.activeLicenseLeases.isEmpty = true ∧ ¬ st.HasUnsettledProviderRequest ∧
      (∀ p ∈ st.interactions.entries, p.2.payload.direction = .toolRequest →
        p.1 ∉ st.resolvedToolRequests → p.2 = request) ∧ ¬ st.HasOpenToolDispatch)
    ⟨fun ⟨h₁, h₂, h₃, h₄, h₅, h₆, h₇, h₈⟩ => ⟨h₁, h₂, h₃, h₄, h₅, h₆, h₇, h₈⟩,
      fun ⟨h₁, h₂, h₃, h₄, h₅, h₆, h₇, h₈⟩ => ⟨h₁, h₂, h₃, h₄, h₅, h₆, h₇, h₈⟩⟩

/-- Every evaluation job that has ended had been running, and the amounts of the participant's
dispatches add up to JSON-safe integers. -/
structure UsageDefined (events : List RunEvent) : Prop where
  ran : ∀ jobId, JobReached events jobId (·.isTerminal = true) →
    JobReached events jobId (· = .running)
  safe : ∀ dispatches, participantToolDispatches events = .ok dispatches →
    totalCompute dispatches ≤ JCS_INTEGER_MAX ∧ totalLicense dispatches ≤ JCS_INTEGER_MAX

lemma dispatchUsage_eq_ok {used : DispatchUsage} :
    dispatchUsage events = .ok used ↔
      ∃ participant elapsed license, participantToolUsage events = .ok participant ∧
        evaluatorElapsedMilliseconds events = .ok elapsed ∧
        evaluatorLicenseMilliseconds events = .ok license ∧
        used = ⟨elapsed + participant.edaComputeMilliseconds,
          license + participant.licenseMilliseconds⟩ := by
  simp only [dispatchUsage, bind_eq_ok, pure_eq_ok]
  constructor
  · rintro ⟨participant, hp, elapsed, he, license, hl, rfl⟩
    exact ⟨participant, elapsed, license, hp, he, hl, rfl⟩
  · rintro ⟨participant, elapsed, license, hp, he, hl, rfl⟩
    exact ⟨participant, hp, elapsed, he, license, hl, rfl⟩

/-- Where nothing runs, the usage is defined exactly when the jobs had been running and the amounts
are JSON-safe. -/
theorem dispatchUsage_iff (h : replayLoop header task events = .ok st)
    (hjobs : ¬ st.HasActiveExecutorJob) (hleases : st.activeLicenseLeases.isEmpty = true) :
    (∃ used, dispatchUsage events = .ok used) ↔ UsageDefined events := by
  have hdispatches : participantToolDispatches events = .ok st.toolDispatches :=
    participantToolDispatches_eq h
  simp only [dispatchUsage_eq_ok]
  constructor
  · rintro ⟨used, participant, elapsed, license, hp, he, -, -⟩
    refine ⟨fun jobId hjob => (evaluatorElapsed_iff.mp ⟨elapsed, he⟩ jobId).mpr hjob, ?_⟩
    intro dispatches hd
    obtain rfl := Except.ok.inj (hdispatches.symm.trans hd)
    obtain ⟨hcompute, hlicense, -⟩ := (participantToolUsage_eq_ok_iff h).mp hp
    exact ⟨hcompute, hlicense⟩
  · intro hdefined
    obtain ⟨elapsed, he⟩ := evaluatorElapsed_iff.mpr fun jobId =>
      ⟨fun hjob => by
        obtain ⟨start, hstart, rfl⟩ := started_of_jobReached h hjob
        exact terminal_of_inactive h hjobs hstart, hdefined.ran jobId⟩
    obtain ⟨license, hl⟩ := evaluatorLicense_of_released h fun k =>
      Dict.get?_eq_none_iff.mp (Dict.isEmpty_iff.mp hleases k)
    obtain ⟨hcompute, hlicense⟩ := hdefined.safe _ hdispatches
    exact ⟨_, _, _, _, (participantToolUsage_eq_ok_iff h).mpr ⟨hcompute, hlicense, rfl⟩,
      he, hl, rfl⟩

/-! ### Amounts -/

variable {dispatcher : ToolDispatcher} {invocation : ToolInvocation dispatcher}
  {used : DispatchUsage} {started now : Datetime}

/-- What a reservation promises. -/
structure ReservationFits (invocation : ToolInvocation dispatcher) (used : DispatchUsage)
    (started now : Datetime) (payload : ParticipantToolReservedPayload) : Prop where
  compute : used.compute + payload.reservedComputeMilliseconds ≤
    dispatcher.resources.maxEdaComputeSeconds * 1000
  license : invocation.binding.licenseBindingId.isSome →
    used.license + payload.reservedLicenseMilliseconds ≤
      dispatcher.resources.maxLicenseSeconds * 1000
  wall : payload.reservedComputeMilliseconds ≤ dispatcher.remainingWall started now
  licensed : 0 < payload.reservedLicenseMilliseconds ↔
    invocation.binding.licenseBindingId.isSome
  license_le : payload.reservedLicenseMilliseconds ≤ payload.reservedComputeMilliseconds

omit [Canonical] in
lemma binding_mem {environment : DispatchEnvironment} {operation : ParticipantOperationBinding}
    {binding : ToolBinding} (h : environment.binding? operation = some binding) :
    binding ∈ environment.toolBindings ∧ binding.capability = operation.capability ∧
      binding.toolId = operation.toolId :=
  ⟨List.mem_of_find?_eq_some h, by simpa using List.find?_some h⟩

omit [Canonical] in
/-- A tool names only licences that its environment binds. -/
lemma license_found {environment : DispatchEnvironment} {binding : ToolBinding}
    (hbinding : binding ∈ environment.toolBindings) {bindingId : Identifier}
    (hid : binding.licenseBindingId = some bindingId) :
    ∃ license, environment.licenses.find? (fun item => item.licenseBindingId = bindingId) =
      some license ∧ 0 < environment.leaseTtlSeconds license := by
  have hvalid := environment.valid
  simp only [Resolution.EnvironmentDocument.validateEnvironment,
    Resolution.EnvironmentDocument.validateLicenses, bind_eq_ok, raiseIf_eq_ok,
    exists_const] at hvalid
  obtain ⟨-, -, _, -, -, _, -, ⟨-, -, hreferenced, -⟩, -⟩ := hvalid
  have hmem : bindingId ∈ environment.licenses.map Resolution.LicenseBinding.licenseBindingId := by
    by_contra hn
    exact hreferenced ⟨bindingId, List.mem_filterMap.mpr ⟨binding, hbinding, hid⟩, hn⟩
  obtain ⟨item, hitem, rfl⟩ := List.mem_map.mp hmem
  obtain ⟨license, hfind⟩ := Option.isSome_iff_exists.mp
    (List.find?_isSome (p := fun l => l.licenseBindingId = item.licenseBindingId).mpr
      ⟨item, hitem, by simp⟩)
  exact ⟨license, hfind, environment.ttl_pos _ (List.mem_of_find?_eq_some hfind)⟩

/-- The licence part is refused by the licence budget, or fits into it and into the compute part. -/
lemma licenseReservation_cases {compute : Int} (hpos : 0 < compute) :
    invocation.licenseReservation used compute = .error (.adapterError .licenseBudget) ∨
      ∃ license failure, invocation.licenseReservation used compute = .ok (license, failure) ∧
        0 ≤ license ∧ license ≤ compute ∧
        (invocation.binding.licenseBindingId = none ↔ license = 0) ∧
        (invocation.binding.licenseBindingId.isSome →
          license ≤ dispatcher.remainingLicense used) := by
  unfold ToolInvocation.licenseReservation
  split
  next hnone =>
    exact Or.inr ⟨0, none, rfl, le_rfl, hpos.le, by simp [hnone], by simp [hnone]⟩
  next bindingId hid =>
    obtain ⟨license, hfind, httl⟩ := license_found (binding_mem invocation.binding_eq).1 hid
    rw [hfind]
    simp only [orRaise, ok_bind]
    by_cases hleft : dispatcher.remainingLicense used ≤ 0
    · left
      rw [raiseIf, if_pos hleft]
      rfl
    · right
      rw [raiseIf, if_neg hleft]
      refine ⟨_, _, rfl, ?_, min_le_right _ _, ?_, fun _ => ?_⟩
      · omega
      · simp only [hid, reduceCtorEq, false_iff]
        omega
      · omega

/-- A positive amount of compute time that is JSON-safe makes a payload. -/
lemma amountsFit {compute license : Int} (hpos : 0 < compute) (hsafe : compute ≤ JCS_INTEGER_MAX)
    (hnonneg : 0 ≤ license) (hle : license ≤ compute)
    (hlicensed : invocation.binding.licenseBindingId = none ↔ license = 0) :
    invocation.AmountsFit compute.toNat license.toNat := by
  refine ⟨⟨by omega, by omega⟩, hlicensed.trans (by omega), by omega⟩

lemma computeReservation_pos (hwall : ¬ dispatcher.remainingWall started now ≤ 0)
    (hcompute : ¬ dispatcher.remainingCompute used ≤ 0) :
    0 < dispatcher.computeReservation used started now := by
  have hlimit : 0 < dispatcher.environmentLimit := by
    have := dispatcher.environment.wall_pos
    unfold ToolDispatcher.environmentLimit
    omega
  unfold ToolDispatcher.computeReservation
  omega

lemma reservationFits {license : Int} (hpos : 0 < dispatcher.computeReservation used started now)
    (hnonneg : 0 ≤ license)
    (hlicensed : invocation.binding.licenseBindingId = none ↔ license = 0)
    (hleft : invocation.binding.licenseBindingId.isSome →
      license ≤ dispatcher.remainingLicense used)
    (h : invocation.AmountsFit
      (dispatcher.computeReservation used started now).toNat license.toNat) :
    ReservationFits invocation used started now (invocation.reservedPayload _ _ h) where
  compute := by
    have hmin :
        dispatcher.computeReservation used started now ≤ dispatcher.remainingCompute used := by
      unfold ToolDispatcher.computeReservation
      omega
    simp only [ToolDispatcher.remainingCompute] at hmin
    simp only [ToolInvocation.reservedPayload]
    omega
  license hsome := by
    have hmin := hleft hsome
    simp only [ToolDispatcher.remainingLicense] at hmin
    simp only [ToolInvocation.reservedPayload]
    omega
  wall := by
    have hmin : dispatcher.computeReservation used started now ≤
        dispatcher.remainingWall started now := by
      unfold ToolDispatcher.computeReservation
      omega
    simp only [ToolInvocation.reservedPayload]
    omega
  licensed := by
    rw [← Option.ne_none_iff_isSome, ne_eq, hlicensed]
    simp only [ToolInvocation.reservedPayload]
    omega
  license_le := h.2.2

/-! ### Committing a reservation -/

variable {request : InteractionRecordedEvent} {before : List RunEvent} {state : RunState}

/-- A journal that has just recorded an interaction accepts more events. -/
lemma running_of_interaction
    (h : replay header task (before ++ [.interactionRecorded request]) = .ok state)
    (hst : replayLoop header task (before ++ [.interactionRecorded request]) = .ok st) :
    st.Running header := by
  obtain ⟨st₀, h₀, ⟨l₀, hadm⟩, rfl⟩ := replayLoop_concat_iff.mp hst
  refine running_of_replay h hst (by simp) hadm.envelope.live fun l hl => ?_
  rw [lifecycle_concat rfl, ← replayLoop_prior h₀, hadm.envelope.lifecycle_eq] at hl
  obtain rfl := Except.ok.inj hl
  by_contra hpending
  exact hadm.envelope.restore_first ⟨Option.isSome_iff_ne_none.mpr hpending, rfl⟩

/-- A request that has just been recorded is neither answered nor reserved for. -/
lemma request_unserved
    (hst : replayLoop header task (before ++ [.interactionRecorded request]) = .ok st)
    (hdirection : request.payload.direction = .toolRequest) :
    st.interactions.get? request.payload.interactionId = some request ∧
      request.payload.interactionId ∉ st.resolvedToolRequests ∧
      request.payload.interactionId ∉ st.participantToolReservations := by
  obtain ⟨st₀, h₀, ⟨l₀, hadm⟩, rfl⟩ := replayLoop_concat_iff.mp hst
  have hk : InteractionAdmitted st₀ request := hadm.kind
  have hnone : request.payload.relatedInteractionId = none := by
    have := request.payload.related_iff
    rw [hdirection] at this
    simpa using this
  have htracked := replayLoop_tracked h₀
  have hsound := replayLoop_toolsSound h₀
  refine ⟨?_, fun hmem => ?_, fun hmem => ?_⟩
  · simp [ReplayState.apply, ReplayState.effect, hnone]
  · simp only [ReplayState.apply, ReplayState.effect, hnone] at hmem
    exact hk.fresh (htracked.resolved_mem _ hmem)
  · obtain ⟨e, he, -⟩ := hsound.reserved _ hmem
    exact hk.fresh (Dict.mem_of_get? he)

omit [Canonical] in
/-- Exactly one entry with the key of `x` passes a test that only such entries pass. -/
lemma filter_length_eq_one {α β : Type} {f : α → β} {xs : List α} (hnodup : (xs.map f).Nodup)
    {p : α → Bool} {x : α} (hx : x ∈ xs) (hpx : p x = true) (hkey : ∀ y, p y = true → f y = f x) :
    (xs.filter p).length = 1 := by
  induction xs with
  | nil => cases hx
  | cons a xs ih =>
    rw [List.map_cons, List.nodup_cons] at hnodup
    rcases List.mem_cons.mp hx with rfl | hx
    · rw [List.filter_cons_of_pos hpx, List.length_cons, Nat.add_eq_right,
        List.length_eq_zero_iff, List.filter_eq_nil_iff]
      intro y hy hpy
      exact hnodup.1 (List.mem_map.mpr ⟨y, hy, hkey y hpy⟩)
    · rw [List.filter_cons_of_neg, ih hnodup.2 hx]
      intro hpa
      exact hnodup.1 (List.mem_map.mpr ⟨x, hx, (hkey a hpa).symm⟩)

lemma reserved_admitted {compute license : Nat} (h : invocation.AmountsFit compute license)
    (hst : replayLoop dispatcher.header task (before ++ [.interactionRecorded request]) = .ok st)
    (hrequest : invocation.requestInteractionId = request.payload.interactionId)
    (hdirection : request.payload.direction = .toolRequest)
    (htool : request.payload.toolName = some EXECUTOR_PARTICIPANT_TOOL_NAME)
    (sequence : Nat) (eventId : UUID) :
    ToolReservedAdmitted dispatcher.header st
      (invocation.reservedEvent compute license h sequence eventId now) := by
  obtain ⟨hget, hunresolved, hunreserved⟩ := request_unserved hst hdirection
  rw [← hrequest] at hget hunresolved hunreserved
  obtain ⟨binding, hbinding, tool, htoolMem, hcapability, htoolId, -⟩ :=
    dispatcher.tools_bound _ invocation.operation_mem
  obtain rfl := Option.some.inj (hbinding.symm.trans invocation.binding_eq)
  obtain ⟨-, hcapability', htoolId'⟩ := binding_mem invocation.binding_eq
  obtain ⟨resolved, hresolved, hid, hdigest, hresolvedCapability, hresolvedTool⟩ :=
    dispatcher.operations_bound _ invocation.operation_mem
  refine ⟨⟨request, hget, hdirection, htool⟩, hunresolved, hunreserved, rfl, rfl, ?_, ?_⟩
  · refine filter_length_eq_one
      (dispatcher.header.binding.environment.operations_sorted.imp fun h => ne_of_lt h)
        hresolved ?_ ?_
    · simp [ToolInvocation.reservedEvent, ToolInvocation.reservedPayload, hid, hdigest,
        hresolvedCapability, hresolvedTool, hcapability', htoolId']
    · intro other hother
      rw [(of_decide_eq_true hother).1, hid]
      rfl
  · refine filter_length_eq_one dispatcher.header.binding.environment.tools_nodup htoolMem ?_ ?_
    · simp [ToolInvocation.reservedEvent, ToolInvocation.reservedPayload, hcapability, htoolId]
    · intro other hother
      rw [(of_decide_eq_true hother).2, hcapability]
      rfl

/-- A reservation with amounts that fit is committed. -/
lemma reservation_commits {compute license : Nat} (h : invocation.AmountsFit compute license)
    (haccepted : replay dispatcher.header dispatcher.task
      (before ++ [.interactionRecorded request]) = .ok state)
    (hrequest : invocation.requestInteractionId = request.payload.interactionId)
    (hdirection : request.payload.direction = .toolRequest)
    (htool : request.payload.toolName = some EXECUTOR_PARTICIPANT_TOOL_NAME) {eventId : UUID}
    (hfresh : eventId ∉ (before ++ [RunEvent.interactionRecorded request]).map
      fun e => e.base.eventId) :
    ∃ state', admitTransact dispatcher.header dispatcher.task (fun state =>
        .ok [.participantToolReserved
          (invocation.reservedEvent compute license h state.nextSequence eventId now)])
        (before ++ [.interactionRecorded request]) =
      .ok (state', [.participantToolReserved (invocation.reservedEvent compute license h
        (before ++ [RunEvent.interactionRecorded request]).length eventId now)]) ∧
      replay dispatcher.header dispatcher.task ((before ++ [.interactionRecorded request]) ++
        [.participantToolReserved (invocation.reservedEvent compute license h
          (before ++ [RunEvent.interactionRecorded request]).length eventId now)]) =
            .ok state' := by
  obtain ⟨-, -, st, -, hst, -, -, rfl⟩ := replay_eq_ok_iff.mp haccepted
  have hrunning := running_of_interaction haccepted hst
  have hprior := replayLoop_prior hst
  have hlength : (st.runState dispatcher.header).nextSequence =
      (before ++ [RunEvent.interactionRecorded request]).length := congrArg List.length hprior
  obtain ⟨l, henvelope, -⟩ := hrunning.envelope (envelopeFits_component
    (.participantToolReserved (invocation.reservedEvent compute license h
      (before ++ [RunEvent.interactionRecorded request]).length eventId now))
    (show ProducerKind.controller ≠ .participant by decide) (by rw [hprior]; exact hfresh)
    (by rw [hprior]; rfl) rfl rfl)
  have hadmitted : Admitted dispatcher.header dispatcher.task st _ l :=
    ⟨henvelope, reserved_admitted h hst hrequest hdirection htool _ _⟩
  have hreplay := replay_concat haccepted hst (by simp) rfl
    (replayStep_eq_ok_iff.mpr ⟨⟨l, hadmitted⟩, rfl⟩)
  refine ⟨_, ?_, hreplay⟩
  simp only [admitTransact, bind_eq_ok, raiseIf_eq_ok, exists_const, pure_eq_ok, Except.ok.injEq,
    exists_eq_left']
  refine ⟨_, haccepted, not_not.mpr hrunning.live, by simp, by simp, ?_, ?_, _, ?_, by rw [hlength]⟩
  · rintro ⟨e, he, hmem⟩
    obtain rfl := List.mem_singleton.mp he
    exact hfresh hmem
  · rw [not_not, OwnPositions, hlength]
    rfl
  · rw [hlength]
    exact hreplay

/-- The errors that end a dispatch whose budget is exhausted. -/
def BUDGET_FAILURES : List ParticipantFailureKind :=
  [.wallBudget, .edaComputeBudget, .licenseBudget]

/-- The committed reservation of an invocation: what it promises, and the event in the journal. -/
structure Reserved (invocation : ToolInvocation dispatcher) (events : List RunEvent)
    (now : Datetime) (reservation : DispatchReservation) (event : ParticipantToolReservedEvent) :
    Prop where
  payload : event.payload = reservation.payload
  accepted : ∃ state, replay dispatcher.header dispatcher.task
    (events ++ [.participantToolReserved event]) = .ok state
  fits : ∃ first used, events.head? = some first ∧ dispatchUsage events = .ok used ∧
    ReservationFits invocation used first.base.timestamp now reservation.payload

/-- The compute time to reserve is a JSON-safe integer. -/
def ComputeSafe (dispatcher : ToolDispatcher) (events : List RunEvent) (now : Datetime) : Prop :=
  ∀ first used, events.head? = some first → dispatchUsage events = .ok used →
    dispatcher.computeReservation used first.base.timestamp now ≤ JCS_INTEGER_MAX

/-- Where the usage is defined, only an exhausted budget refuses a reservation. -/
theorem reserveDispatch_cases (haccepted : replay dispatcher.header dispatcher.task
      (before ++ [.interactionRecorded request]) = .ok state)
    (hrequest : invocation.requestInteractionId = request.payload.interactionId)
    (hdirection : request.payload.direction = .toolRequest)
    (htool : request.payload.toolName = some EXECUTOR_PARTICIPANT_TOOL_NAME)
    (hused : dispatchUsage (before ++ [.interactionRecorded request]) = .ok used)
    (hsafe : ComputeSafe dispatcher (before ++ [.interactionRecorded request]) now)
    {eventId : UUID} (hfresh : eventId ∉ (before ++ [RunEvent.interactionRecorded request]).map
      fun e => e.base.eventId) :
    (∃ kind ∈ BUDGET_FAILURES, invocation.reserveDispatch
      (before ++ [.interactionRecorded request]) now eventId = .error (.adapterError kind)) ∨
    ∃ reservation event, invocation.reserveDispatch (before ++ [.interactionRecorded request]) now
        eventId = .ok (reservation, (before ++ [.interactionRecorded request]) ++
          [.participantToolReserved event]) ∧
      Reserved invocation (before ++ [.interactionRecorded request]) now reservation event := by
  obtain ⟨first, hfirst⟩ : ∃ first, (before ++ [RunEvent.interactionRecorded request]).head? =
      some first := by
    cases before <;> exact ⟨_, rfl⟩
  simp only [ToolInvocation.reserveDispatch, hfirst, hused, orRaise, ok_bind]
  by_cases hwall : dispatcher.remainingWall first.base.timestamp now ≤ 0
  · left
    refine ⟨.wallBudget, by simp [BUDGET_FAILURES], ?_⟩
    rw [raiseIf, if_pos hwall]
    rfl
  by_cases hcompute : dispatcher.remainingCompute used ≤ 0
  · left
    refine ⟨.edaComputeBudget, by simp [BUDGET_FAILURES], ?_⟩
    rw [raiseIf, if_neg hwall, raiseIf, if_pos hcompute]
    rfl
  have hpos := @computeReservation_pos _ _ _ first.base.timestamp _ hwall hcompute
  rw [raiseIf, if_neg hwall, raiseIf, if_neg hcompute]
  simp only [ok_bind]
  rcases @licenseReservation_cases _ _ invocation used _ hpos with
    herror | ⟨license, failure, hlicense, hnonneg, hle, hlicensed, hleft⟩
  · left
    refine ⟨.licenseBudget, by simp [BUDGET_FAILURES], ?_⟩
    rw [herror]
    rfl
  · right
    have hfit := amountsFit hpos (hsafe first used hfirst hused) hnonneg hle hlicensed
    obtain ⟨state', hcommit, hreplay⟩ := @reservation_commits _ _ _ now _ _ _ _ _ hfit haccepted
      hrequest hdirection htool _ hfresh
    rw [hlicense]
    simp only [ok_bind, dif_pos hfit, hcommit]
    exact ⟨_, _, rfl, rfl, ⟨state', hreplay⟩, first, used, hfirst, hused,
      reservationFits hpos hnonneg hlicensed hleft hfit⟩

end Reserving

end Dispatch

end EdaGym
