import EdaGym.Executors.JobState
import EdaGym.Providers.ToolReservation
import EdaGym.Runtime.RunHandle

/-!
# Executing a participant tool

A reserved tool is launched, watched until it ends or its reservation is used up, and its leases are
given back, whatever happens on the way. The durations that are settled afterwards come from clock
readings that nothing bounds.
-/

namespace EdaGym

open Process hiding ofExcept
open Resolution (ToolBinding RelativePath persistentDisclosure)

section Execution

variable [Canonical]

/-! ### What an execution reads -/

inductive ToolObservationOutcome
  | passed | candidateFailure | timeout | licenseUnavailable | infrastructureFailure
  | securityViolation
deriving DecidableEq, Repr

/-- The exceptions of an execution, as far as its handlers tell them apart. -/
inductive ToolFault
  | deadlineExpired
  | licenseCustody (message : String)
  | licenseUnavailable (message : String)
  | assetValidation
  | other (message : String)
deriving DecidableEq, Repr

structure ToolOutputDeclaration where
  logicalId : Identifier
  path : RelativePath
  mediaType : MediaType
  artifactClass : ArtifactClass
  required : Bool := true
deriving DecidableEq

structure CollectedOutput where
  logicalId : Identifier
  blob : BlobRef
  mediaType : MediaType
  artifactClass : ArtifactClass
deriving DecidableEq

structure ToolJobState extends ExecutorJobState where
  exitCode : Option Int := none
deriving DecidableEq

/-- A job state, and whether it is one of the job that was asked about. -/
structure ToolJobAnswer where
  ownHandle : Bool
  state : ToolJobState
deriving DecidableEq

structure ToolExecutionResult where
  state : ToolJobAnswer
  stdout : BlobRef
  stderr : BlobRef
  outputs : List CollectedOutput := []

/-- What the components around an execution answer each time they are asked. -/
structure ToolAnswers where
  monotonic : Nat → ℚ
  revalidateAssets : Nat → Except ToolFault Unit
  hasLicenseProvider : Identifier → Bool
  acquireLicense : Nat → LeaseAnswer
  releasesLicense : Nat → Bool
  /-- The storage that the executor issues, if it issues any. -/
  storage : Option (Nat → Except ToolFault Unit)
  /-- Copying the inputs into that storage; the digest of what was copied. -/
  materializeInputs : Nat → Except ToolFault Digest
  releaseStorage : Nat → Except ToolFault Unit
  /-- Whether the returned handle is one of the launched invocation. -/
  launch : Nat → Except ToolFault Bool
  inspect : Nat → Except ToolFault ToolJobAnswer
  cancel : Nat → Except ToolFault ToolJobAnswer
  /-- The executor is inspected so often before inspecting it raises. -/
  patience : Nat
  collect : Nat → Except ToolFault ToolExecutionResult
  /-- Whether the bytes of an output in that storage are safe to read and those collected. -/
  outputUnchanged : Nat → Except ToolFault Unit
  abandon : Nat → Except ToolFault Unit

/-- What an execution changes: the journal, the participant's workspace and its local variables. -/
structure ToolDesk extends RunDesk where
  workspace : Dict RelativePath BlobRef := Dict.empty
  licenseStarted : Option ℚ := none
  result : Option ToolExecutionResult := none
  preExecutionOutcome : Option ToolObservationOutcome := none
  budgetFailure : Option ParticipantFailureKind := none
  launchAttempted : Bool := false
  isolationClosed : Bool := false
  abandonmentFailed : Bool := false

abbrev ToolProcess (α : Type) := Process ToolDesk ToolFault α

def askTool {α : Type} (answer : Nat → α) : ToolProcess α := fun s =>
  (.ok (answer s.tick), { s with tick := s.tick + 1 })

def askToolExcept {α : Type} (answer : Nat → Except ToolFault α) : ToolProcess α := do
  let x ← askTool answer
  Process.ofExcept x

/-- A process over the journal; what it raises no handler of an execution looks into. -/
def journaled {α : Type} (p : RunProcess α) : ToolProcess α := fun s =>
  (((p.exec s.toRunDesk).1.mapError fun _ => .other "journal"),
    { s with toRunDesk := (p.exec s.toRunDesk).2 })

/-! ### Time -/

/-- `math.ceil(max(0.0, finished - started) * 1000)`. -/
def elapsedMilliseconds (started finished : ℚ) : Nat := ⌈max 0 (finished - started) * 1000⌉.toNat

/-- Whether an execution has used up its reservation, and the budget that is then exhausted. -/
def participantToolDeadline (reservation : DispatchReservation) (started : ℚ)
    (licenseStarted : Option ℚ) (now : ℚ) : Bool × Option ParticipantFailureKind :=
  if reservation.payload.reservedComputeMilliseconds ≤ elapsedMilliseconds started now then
    (true, reservation.computeLimitFailure)
  else if ∃ leased ∈ licenseStarted,
      reservation.payload.reservedLicenseMilliseconds ≤ elapsedMilliseconds leased now then
    (true, reservation.licenseLimitFailure)
  else (false, none)

/-- The durations that are settled. -/
structure ToolDurations where
  elapsed : Nat
  license : Nat

def settledDurations (payload : ParticipantToolReservedPayload) (started : ℚ)
    (licenseStarted : Option ℚ) (finished : ℚ) (releaseFailed : Bool) : ToolDurations :=
  let elapsed := min (elapsedMilliseconds started finished) payload.reservedComputeMilliseconds
  match licenseStarted with
  | none => { elapsed, license := 0 }
  | some leased =>
    if releaseFailed then
      { elapsed := max elapsed payload.reservedLicenseMilliseconds
        license := payload.reservedLicenseMilliseconds }
    else
      { elapsed
        license := min (min elapsed (elapsedMilliseconds leased finished))
          payload.reservedLicenseMilliseconds }

/-- An execution that took longer than it had reserved. -/
def deadlineOverrun (payload : ParticipantToolReservedPayload) (started : ℚ)
    (licenseStarted : Option ℚ) (finished : ℚ) : Prop :=
  payload.reservedComputeMilliseconds < elapsedMilliseconds started finished ∨
    payload.reservedLicenseMilliseconds <
      (licenseStarted.map fun leased => elapsedMilliseconds leased finished).getD 0

instance (payload : ParticipantToolReservedPayload) (started : ℚ) (licenseStarted : Option ℚ)
    (finished : ℚ) : Decidable (deadlineOverrun payload started licenseStarted finished) :=
  inferInstanceAs (Decidable (_ ∨ _))

/-- The budget that the settled durations exhaust, when none was found exhausted before. -/
def settledBudgetFailure (reservation : DispatchReservation) (durations : ToolDurations)
    (budgetFailure : Option ParticipantFailureKind) : Option ParticipantFailureKind :=
  let afterCompute := if budgetFailure = none ∧
      reservation.payload.reservedComputeMilliseconds ≤ durations.elapsed then
    reservation.computeLimitFailure else budgetFailure
  if afterCompute = none ∧
      reservation.payload.reservedLicenseMilliseconds ≤ durations.license then
    reservation.licenseLimitFailure else afterCompute

/-! ### Evidence -/

/-- `canonical_digest` of a record of strings. -/
class RecordDigests where
  recordDigest : (domain : String) → (fields : List (String × String)) → Digest

/-- `_derived_identifier`. -/
def derivedIdentifier [RecordDigests] (kind : String) (fields : List (String × String))
    (domain : String) : Identifier :=
  kind ++ "_" ++ String.ofList ((removeLeading "sha256:"
    (RecordDigests.recordDigest domain fields)).toList.take 48)

section Identifiers

variable [RecordDigests] (runId invocationDigest evidenceDigest : Digest) (logicalId : Identifier)

def toolArtifactPrefix : Identifier :=
  derivedIdentifier "tool-artifact" [("invocation_digest", invocationDigest), ("run_id", runId)]
    "participant-tool-artifact-id-v1"

def toolOutputId : Identifier :=
  derivedIdentifier "tool-output"
    [("invocation_digest", invocationDigest), ("logical_id", logicalId)]
    "participant-tool-output-id-v1"

/-- The identifier of `_store_evidence`. -/
def toolEvidenceId : Identifier :=
  derivedIdentifier "tool-evidence" [("digest", evidenceDigest), ("run_id", runId)]
    "participant-tool-evidence-id-v1"

end Identifiers

structure ToolEvidenceFacts where
  runId : Digest
  requestInteractionId : Identifier
  invocationDigest : Digest
  inputManifestDigest : Digest
  operationId : Identifier
  operationDigest : Digest
  toolId : Identifier
  capability : Capability
  executorId : Identifier
  outcome : ToolObservationOutcome
  executorState : Option ExecutorJobStateKind := none
  failure : Option ExecutionFailureKind := none
  exitCode : Option Int := none
  elapsedMilliseconds : Nat
  licenseMilliseconds : Nat
  stdoutArtifactId : Option Identifier := none
  stderrArtifactId : Option Identifier := none
  outputArtifactIds : List Identifier := []

/-- `validate_terminal_facts`. -/
structure ToolEvidenceFacts.Valid (facts : ToolEvidenceFacts) : Prop where
  streams : facts.stdoutArtifactId = none ↔ facts.stderrArtifactId = none
  outputs : facts.outputArtifactIds.Nodup
  unlaunched : facts.executorState = none →
    (facts.stdoutArtifactId = none ∧ facts.outputArtifactIds = [] ∧ facts.failure = none ∧
      facts.exitCode = none) ∧
    facts.outcome ∈ [.licenseUnavailable, .infrastructureFailure, .securityViolation, .timeout]
  launched : ∀ state ∈ facts.executorState,
    state ∉ [.queued, .running] ∧ facts.stdoutArtifactId ≠ none
  passed : facts.outcome = .passed → facts.executorState = some .completed ∧
    facts.exitCode = some 0 ∧ facts.failure = none
  license_le : facts.licenseMilliseconds ≤ facts.elapsedMilliseconds
  elapsed_safe : facts.elapsedMilliseconds ≤ JCS_INTEGER_MAX

instance (facts : ToolEvidenceFacts) : Decidable facts.Valid :=
  decidable_of_iff
    ((facts.stdoutArtifactId = none ↔ facts.stderrArtifactId = none) ∧
      facts.outputArtifactIds.Nodup ∧
      (facts.executorState = none →
        (facts.stdoutArtifactId = none ∧ facts.outputArtifactIds = [] ∧ facts.failure = none ∧
          facts.exitCode = none) ∧
        facts.outcome ∈
          [.licenseUnavailable, .infrastructureFailure, .securityViolation, .timeout]) ∧
      (∀ state ∈ facts.executorState,
        state ∉ [.queued, .running] ∧ facts.stdoutArtifactId ≠ none) ∧
      (facts.outcome = .passed → facts.executorState = some .completed ∧
        facts.exitCode = some 0 ∧ facts.failure = none) ∧
      facts.licenseMilliseconds ≤ facts.elapsedMilliseconds ∧
      facts.elapsedMilliseconds ≤ JCS_INTEGER_MAX)
    ⟨fun ⟨h₁, h₂, h₃, h₄, h₅, h₆, h₇⟩ => ⟨h₁, h₂, h₃, h₄, h₅, h₆, h₇⟩,
      fun ⟨h₁, h₂, h₃, h₄, h₅, h₆, h₇⟩ => ⟨h₁, h₂, h₃, h₄, h₅, h₆, h₇⟩⟩

structure ParticipantToolExecutionEvidence extends ToolEvidenceFacts where
  valid : toToolEvidenceFacts.Valid

def ParticipantToolExecutionEvidence.ofFacts (facts : ToolEvidenceFacts) :
    Except ToolFault ParticipantToolExecutionEvidence :=
  if h : facts.Valid then .ok { facts with valid := h }
  else .error (.other "participant tool evidence is inconsistent")

def observationOutcome (state : ToolJobState) : ToolObservationOutcome :=
  if state.state = .completed then .passed
  else
    match state.failure with
    | some .candidate => .candidateFailure
    | some .timeout => .timeout
    | some .licenseUnavailable => .licenseUnavailable
    | some .securityViolation => .securityViolation
    | _ => .infrastructureFailure

/-- A plan: an invocation with the outputs that its operation declares. -/
structure ToolPlan (dispatcher : ToolDispatcher) extends ToolInvocation dispatcher where
  outputs : List ToolOutputDeclaration
  outputs_eq : outputs.map (fun output => (output.path, output.artifactClass)) =
    toToolInvocation.operation.outputs.map fun output => (output.path, output.artifactClass)

/-- A dispatcher with its journal and everything around it. -/
structure ToolRuntime where
  dispatcher : ToolDispatcher
  journal : RunHandle
  answers : ToolAnswers
  diskBytes : Nat
  journal_header : journal.header = dispatcher.header
  journal_task : journal.task = dispatcher.task

namespace ToolRuntime

variable (runtime : ToolRuntime) (plan : ToolPlan runtime.dispatcher)

/-! ### Licences -/

/-- The licence that a licensed tool is bound to. -/
def licenseBinding (binding : ToolBinding) : Except ToolFault Resolution.LicenseBinding := do
  let bindingId ← orRaise binding.licenseBindingId
    (.other "license acquisition requires a licensed tool")
  orRaise (runtime.dispatcher.environment.licenses.find? fun item =>
    item.licenseBindingId = bindingId) (.other "license binding")

def toolLicensePayload (binding : Resolution.LicenseBinding) : LicenseLeaseBindingPayload where
  jobId := Canonical.participantToolInvocationId runtime.dispatcher.header.runId
    plan.requestInteractionId
  licenseBindingId := binding.licenseBindingId
  providerId := binding.providerId
  featureClass := binding.featureClass

def recordLicenseDenied (binding : Resolution.LicenseBinding) (reason : LicenseDenialReason) :
    ToolProcess Unit := do
  let _ ← journaled (runtime.journal.transact fun state eventId timestamp => .licenseLeaseDenied {
    toEventBase := componentBase runtime.journal.header state.nextSequence eventId timestamp
      .controller .verifier
    payload := { runtime.toolLicensePayload plan binding with reason } })
  return ⟨⟩

def recordLicenseAcquired (binding : Resolution.LicenseBinding) : ToolProcess Unit := do
  let _ ← journaled (runtime.journal.transact fun state eventId timestamp => .licenseLeaseAcquired {
    toEventBase := componentBase runtime.journal.header state.nextSequence eventId timestamp
      .controller .verifier
    payload := runtime.toolLicensePayload plan binding })
  return ⟨⟩

/-- What the provider of a licence does about a lease for the tool. -/
def requestToolLicense (binding : Resolution.LicenseBinding) : ToolProcess Unit := do
  match ← askTool runtime.answers.acquireLicense with
  | .unavailable =>
    runtime.recordLicenseDenied plan binding .featureUnavailable
    throw (.licenseUnavailable "license feature is unavailable")
  | .failed =>
    runtime.recordLicenseDenied plan binding .providerFailure
    throw (.licenseCustody "license provider failed without a custody result")
  | .lease providerId featureClass active =>
    if providerId ≠ binding.providerId ∨ featureClass ≠ binding.featureClass ∨ active = false then
      let released ← askTool runtime.answers.releasesLicense
      runtime.recordLicenseDenied plan binding .invalidLease
      if released = false then
        throw (.licenseCustody "invalid license lease could not be released")
      throw (.licenseUnavailable "license provider returned an invalid lease")
    tryCatch (runtime.recordLicenseAcquired plan binding) fun _ => do
      let _ ← askTool runtime.answers.releasesLicense
      throw (.licenseCustody "license acquisition could not be journaled")

/-- `_acquire_license`. -/
def acquireToolLicense : ToolProcess Unit := do
  let binding ← Process.ofExcept (runtime.licenseBinding plan.binding)
  if runtime.answers.hasLicenseProvider binding.providerId = false then
    runtime.recordLicenseDenied plan binding .providerUnavailable
    throw (.licenseUnavailable "bound license provider is unavailable")
  runtime.requestToolLicense plan binding

/-- `_release_license`: whether the release failed. -/
def releaseToolLicense : ToolProcess Bool := do
  let binding ← Process.ofExcept (runtime.licenseBinding plan.binding)
  let answered ← askTool runtime.answers.releasesLicense
  let released := runtime.answers.hasLicenseProvider binding.providerId ∧ answered
  let _ ← journaled (runtime.journal.transact fun state eventId timestamp =>
    if released then .licenseLeaseReleased {
      toEventBase := componentBase runtime.journal.header state.nextSequence eventId timestamp
        .controller .verifier
      payload := runtime.toolLicensePayload plan binding }
    else .licenseLeaseLost {
      toEventBase := componentBase runtime.journal.header state.nextSequence eventId timestamp
        .controller .verifier
      payload := runtime.toolLicensePayload plan binding })
  return ¬ released

/-! ### The body of the `try` statement -/

/-- The local variables of an execution before it has done anything. -/
def freshToolLocals (desk : ToolDesk) : ToolDesk :=
  { desk with
    lease := false, storageLease := false, licenseStarted := none, result := none
    preExecutionOutcome := none, budgetFailure := none, launchAttempted := false
    isolationClosed := false, abandonmentFailed := false }

/-- Acquire the lease that a licensed tool needs. -/
def startLicense : ToolProcess Unit := do
  if plan.binding.licenseBindingId.isSome then
    let now ← askTool runtime.answers.monotonic
    alter fun desk => { desk with licenseStarted := some now }
    runtime.acquireToolLicense plan
    alter fun desk => { desk with lease := true }

/-- Stop when the reservation is used up before the launch. -/
def checkDeadline (reservation : DispatchReservation) (started : ℚ) : ToolProcess Unit := do
  let desk ← get
  let now ← askTool runtime.answers.monotonic
  let (reached, failure) := participantToolDeadline reservation started desk.licenseStarted now
  alter fun desk => { desk with budgetFailure := failure }
  if reached then
    alter fun desk => { desk with preExecutionOutcome := some .timeout }
    throw .deadlineExpired

/-- Acquire the storage that the executor issues, and copy the inputs into it. -/
def isolateInputs : ToolProcess Unit :=
  match runtime.answers.storage with
  | none => pure ⟨⟩
  | some storage => do
    askToolExcept storage
    alter fun desk => { desk with storageLease := true }
    let projected ← askToolExcept runtime.answers.materializeInputs
    Process.ofExcept (raiseIf (projected ≠ plan.inputManifestDigest)
      (.other "participant operation input changed before isolation"))
    askToolExcept runtime.answers.revalidateAssets

def launchTool : ToolProcess Unit := do
  alter fun desk => { desk with launchAttempted := true }
  let matched ← askToolExcept runtime.answers.launch
  Process.ofExcept (raiseIf (matched = false)
    (.other "participant executor returned a mismatched handle"))

/-- The state that an executor answers with, which has to be one of the job asked about. -/
def ownState (answer : ToolJobAnswer) (message : String) : Except ToolFault ToolJobAnswer := do
  raiseIf (answer.ownHandle = false) (.other message)
  return answer

/-- Cancel a job whose reservation is used up. The loop goes no further, whatever the executor
answers. -/
def cancelTool (failure : Option ParticipantFailureKind) : ToolProcess ToolJobAnswer := do
  alter fun desk => { desk with budgetFailure := failure }
  let answer ← askToolExcept runtime.answers.cancel
  let terminal ← Process.ofExcept (ownState answer "participant executor cancelled another job")
  if terminal.state.isTerminal then
    alter fun desk => { desk with isolationClosed := true }
    return terminal
  alter fun desk => { desk with preExecutionOutcome := some .timeout }
  throw .deadlineExpired

/-- Poll the executor until the job has ended or its reservation is used up. -/
def waitForTool (reservation : DispatchReservation) (started : ℚ) : Nat → ToolProcess ToolJobAnswer
  | 0 => throw (.other "executor inspection failed")
  | polls + 1 => do
    let answer ← askToolExcept runtime.answers.inspect
    let terminal ← Process.ofExcept
      (ownState answer "participant executor returned state for another job")
    if terminal.state.isTerminal then
      alter fun desk => { desk with isolationClosed := true }
      return terminal
    let desk ← get
    let now ← askTool runtime.answers.monotonic
    let (reached, failure) := participantToolDeadline reservation started desk.licenseStarted now
    if reached then
      runtime.cancelTool failure
    else
      waitForTool reservation started polls

/-- Copy one output back to the participant's workspace; the bytes copied so far. -/
def materializeOutput (collected : Dict Identifier CollectedOutput)
    (declaration : ToolOutputDeclaration) (total : Nat) : ToolProcess Nat :=
  match collected.get? declaration.logicalId with
  | none => do
    Process.ofExcept (raiseIf declaration.required
      (.other "participant operation omitted a required output"))
    return total
  | some output => do
    askToolExcept runtime.answers.outputUnchanged
    Process.ofExcept (raiseIf (runtime.diskBytes < total + output.blob.sizeBytes)
      (.other "participant operation outputs exceed the disk bound"))
    alter fun desk =>
      { desk with workspace := desk.workspace.insert declaration.path output.blob }
    return total + output.blob.sizeBytes

def materializeInOrder (collected : Dict Identifier CollectedOutput) :
    List ToolOutputDeclaration → Nat → ToolProcess Unit
  | [], _ => pure ⟨⟩
  | declaration :: rest, total => do
    let total ← runtime.materializeOutput collected declaration total
    materializeInOrder collected rest total

/-- `{item.logical_id: item for item in outputs}`. -/
def declarations (outputs : List ToolOutputDeclaration) : Dict Identifier ToolOutputDeclaration :=
  Dict.ofList (outputs.map fun output => (output.logicalId, output))

def collectedOutputs (result : ToolExecutionResult) : Dict Identifier CollectedOutput :=
  Dict.ofList (result.outputs.map fun output => (output.logicalId, output))

/-- `materialize_participant_operation_outputs`. -/
def materializeOutputs (result : ToolExecutionResult) : ToolProcess Unit := do
  let declared := declarations plan.outputs
  let collected := collectedOutputs result
  Process.ofExcept (raiseIf (∃ k ∈ collected.keys, k ∉ declared)
    (.other "participant operation returned an undeclared output"))
  runtime.materializeInOrder collected ((sortedBy Prod.fst declared.entries).map Prod.snd) 0

/-- Collect what an ended job has left, and give the storage back. -/
def collectTool (terminal : ToolJobAnswer) : ToolProcess Unit := do
  let collected ← askToolExcept runtime.answers.collect
  Process.ofExcept (raiseIf (collected.state ≠ terminal)
    (.other "participant executor changed its terminal state"))
  let desk ← get
  if desk.storageLease then
    runtime.materializeOutputs plan collected
    askToolExcept runtime.answers.releaseStorage
    alter fun desk => { desk with storageLease := false }
  alter fun desk => { desk with result := some collected }

def attemptTool (reservation : DispatchReservation) (started : ℚ) : ToolProcess Unit := do
  askToolExcept runtime.answers.revalidateAssets
  runtime.startLicense plan
  runtime.checkDeadline reservation started
  runtime.isolateInputs plan
  runtime.launchTool
  let terminal ← runtime.waitForTool reservation started runtime.answers.patience
  runtime.collectTool plan terminal

/-- Its handlers. -/
def handleToolFault : ToolFault → ToolProcess Unit
  | .deadlineExpired => pure ⟨⟩
  | .licenseCustody message => throw (.licenseCustody message)
  | .licenseUnavailable _ =>
    alter fun desk => { desk with preExecutionOutcome := some .licenseUnavailable }
  | .assetValidation =>
    alter fun desk => { desk with preExecutionOutcome := some .securityViolation }
  | .other _ =>
    alter fun desk => { desk with preExecutionOutcome := some .infrastructureFailure }

/-! ### After the `try` statement -/

/-- Abandon a job that was launched and may still be running. -/
def abandonTool : ToolProcess Unit := do
  let desk ← get
  if desk.launchAttempted ∧ desk.isolationClosed = false then
    match ← attempt (askToolExcept runtime.answers.abandon) with
    | .error _ => alter fun desk => { desk with abandonmentFailed := true }
    | .ok _ => alter fun desk => { desk with isolationClosed := true }

def releaseHeldToolStorage : ToolProcess Unit := do
  let desk ← get
  if desk.storageLease then
    match ← attempt (askToolExcept runtime.answers.releaseStorage) with
    | .error _ => alter fun desk => { desk with abandonmentFailed := true }
    | .ok _ => pure ⟨⟩
    alter fun desk => { desk with storageLease := false }

/-- Whether a lease that is held could not be released. -/
def releaseHeldToolLicense : ToolProcess Bool := do
  let desk ← get
  if desk.lease then
    runtime.releaseToolLicense plan
  else return false

/-! ### The evidence of an execution -/

def artifactRecord (logicalId : Identifier) (blob : BlobRef) (mediaType : MediaType)
    (artifactClass : ArtifactClass) : Except ToolFault ArtifactRecord := do
  let disclosure ← orRaise
    (persistentDisclosure runtime.dispatcher.environment.artifactPolicy artifactClass)
    (.other "participant tool artifact class is not retainable")
  return {
    logicalId, blob, mediaType, artifactClass
    sensitivity := disclosure.sensitivity
    visibility := disclosure.visibility
    redistribution := disclosure.redistribution
    not_secret := disclosure.not_secret
    public_policy := disclosure.public_policy }

/-- The facts of an evidence that no executor result enters. -/
def evidenceFacts (outcome : ToolObservationOutcome) (durations : ToolDurations) :
    ToolEvidenceFacts where
  runId := runtime.dispatcher.header.runId
  requestInteractionId := plan.requestInteractionId
  invocationDigest := plan.invocationDigest
  inputManifestDigest := plan.inputManifestDigest
  operationId := plan.operation.operationId
  operationDigest := plan.operation.digest
  toolId := plan.binding.toolId
  capability := plan.binding.capability
  executorId := runtime.dispatcher.header.binding.environment.executorId
  outcome := outcome
  elapsedMilliseconds := durations.elapsed
  licenseMilliseconds := durations.license

variable [RecordDigests]

def operationOutputRecord (declared : Dict Identifier ToolOutputDeclaration)
    (output : CollectedOutput) : Except ToolFault ArtifactRecord := do
  let declaration ← orRaise (declared.get? output.logicalId)
    (.other "participant executor returned undeclared or duplicate outputs")
  raiseIf (output.mediaType ≠ declaration.mediaType ∨
      output.artifactClass ≠ declaration.artifactClass)
    (.other "participant executor output differs from its operation")
  runtime.artifactRecord
    (toolOutputId plan.invocationDigest output.logicalId) output.blob output.mediaType
    output.artifactClass

/-- `_operation_output_records`. -/
def operationOutputRecords (result : ToolExecutionResult) :
    Except ToolFault (List ArtifactRecord) := do
  let declared := declarations plan.outputs
  let outputs := collectedOutputs result
  raiseIf (outputs.entries.length ≠ result.outputs.length ∨ ∃ k ∈ outputs.keys, k ∉ declared)
    (.other "participant executor returned undeclared or duplicate outputs")
  raiseIf (∃ declaration ∈ plan.outputs, declaration.required ∧ declaration.logicalId ∉ outputs)
    (.other "participant executor omitted a required operation output")
  ((sortedBy Prod.fst outputs.entries).map Prod.snd).mapM
    (runtime.operationOutputRecord plan declared)

/-- The evidence of a tool that has left no result. -/
def evidenceWithoutResult (preExecutionOutcome : Option ToolObservationOutcome)
    (releaseFailed : Bool) (durations : ToolDurations) :
    Except ToolFault ParticipantToolExecutionEvidence :=
  let outcome := if releaseFailed then .infrastructureFailure
    else preExecutionOutcome.getD .infrastructureFailure
  ParticipantToolExecutionEvidence.ofFacts (runtime.evidenceFacts plan outcome durations)

/-- The evidence of a collected result, with the records of its artifacts. -/
def evidenceOfResult (result : ToolExecutionResult) (releaseFailed overrun : Bool)
    (durations : ToolDurations) :
    Except ToolFault (ParticipantToolExecutionEvidence × List ArtifactRecord) := do
  let pre := toolArtifactPrefix runtime.dispatcher.header.runId plan.invocationDigest
  let stdout ← runtime.artifactRecord (pre ++ ".stdout") result.stdout
    "application/octet-stream" .diagnostic
  let stderr ← runtime.artifactRecord (pre ++ ".stderr") result.stderr
    "application/octet-stream" .diagnostic
  let outputRecords ← runtime.operationOutputRecords plan result
  let outcome := if releaseFailed then .infrastructureFailure
    else if overrun then .timeout
    else observationOutcome result.state.state
  let evidence ← ParticipantToolExecutionEvidence.ofFacts
    { runtime.evidenceFacts plan outcome durations with
      executorState := some result.state.state.state
      failure := result.state.state.failure
      exitCode := result.state.state.exitCode
      stdoutArtifactId := some stdout.logicalId
      stderrArtifactId := some stderr.logicalId
      outputArtifactIds := outputRecords.map ArtifactRecord.logicalId }
  return (evidence, stdout :: stderr :: outputRecords)

/-- What `_execute` returns: the evidence, the records of its artifacts and the budget that the
execution has exhausted. -/
structure ToolExecution where
  evidence : ParticipantToolExecutionEvidence
  records : List ArtifactRecord
  budgetFailure : Option ParticipantFailureKind

/-- The end of `_execute`, once nothing is held any more. -/
def concludeTool (reservation : DispatchReservation) (started finished : ℚ)
    (releaseFailed : Bool) (desk : ToolDesk) : Except ToolFault ToolExecution := do
  let durations :=
    settledDurations reservation.payload started desk.licenseStarted finished releaseFailed
  let budgetFailure := settledBudgetFailure reservation durations desk.budgetFailure
  match desk.result with
  | none =>
    let evidence ← runtime.evidenceWithoutResult plan desk.preExecutionOutcome releaseFailed
      durations
    return { evidence, records := [], budgetFailure }
  | some result =>
    let (evidence, records) ← runtime.evidenceOfResult plan result releaseFailed
      (deadlineOverrun reservation.payload started desk.licenseStarted finished) durations
    return { evidence, records, budgetFailure }

/-- `_execute`. -/
def executeTool (reservation : DispatchReservation) : ToolProcess ToolExecution := do
  alter freshToolLocals
  let started ← askTool runtime.answers.monotonic
  tryCatch (runtime.attemptTool plan reservation started) handleToolFault
  runtime.abandonTool
  runtime.releaseHeldToolStorage
  let releaseFailed ← runtime.releaseHeldToolLicense plan
  let desk ← get
  Process.ofExcept (raiseIf desk.abandonmentFailed
    (.other "participant executor could not prove failed invocation quiescent"))
  let finished ← askTool runtime.answers.monotonic
  Process.ofExcept (runtime.concludeTool plan reservation started finished releaseFailed desk)

end ToolRuntime

/-! ### The settlement -/

/-- The settled fact of an execution. -/
def settledPayload (reserved : ParticipantToolReservedPayload) (evidenceArtifactId : Identifier)
    (evidence : ParticipantToolExecutionEvidence) : ParticipantToolSettledPayload where
  requestInteractionId := reserved.requestInteractionId
  invocationId := reserved.invocationId
  invocationDigest := reserved.invocationDigest
  operationId := reserved.operationId
  operationDigest := reserved.operationDigest
  inputManifestDigest := reserved.inputManifestDigest
  evidenceArtifactId := evidenceArtifactId
  elapsedMilliseconds := evidence.elapsedMilliseconds
  licenseMilliseconds := evidence.licenseMilliseconds
  elapsed_bound := evidence.valid.elapsed_safe
  license_le := evidence.valid.license_le

/-- The durations of an execution stay within its reservation. -/
structure SettlementFits (reserved : ParticipantToolReservedPayload) (durations : ToolDurations) :
    Prop where
  license_le : durations.license ≤ durations.elapsed
  compute : durations.elapsed ≤ reserved.reservedComputeMilliseconds
  license : durations.license ≤ reserved.reservedLicenseMilliseconds

/-- The replay accepts the settled fact wherever its reservation is open, its lease closed and its
evidence registered. -/
def SettlementAccepted (reserved : ParticipantToolReservedPayload)
    (evidence : ParticipantToolExecutionEvidence) : Prop :=
  ∀ (st : ReplayState) (reservation : ParticipantToolReservedEvent)
    (event : ParticipantToolSettledEvent) (artifact : ArtifactRecord),
    reservation.payload = reserved →
    event.payload = settledPayload reserved artifact.logicalId evidence →
    st.participantToolReservations.get? reserved.requestInteractionId = some reservation →
    reserved.requestInteractionId ∉ st.participantToolTerminals →
    reserved.requestInteractionId ∉ st.resolvedToolRequests →
    reserved.invocationId ∉ st.activeLicenseLeases →
    reservation.timestamp ≤ event.timestamp →
    st.artifacts.get? artifact.logicalId = some artifact → artifact.artifactClass = .evidence →
    ∃ st', onParticipantToolSettled st event = .ok st'

section Settlement

variable {payload : ParticipantToolReservedPayload} {started finished : ℚ}
  {licenseStarted : Option ℚ} {releaseFailed : Bool}

omit [Canonical] in
/-- Whatever the clock shows, and whether or not the lease could be released. -/
theorem settledDurations_fit :
    SettlementFits payload
      (settledDurations payload started licenseStarted finished releaseFailed) := by
  have hle := payload.license_le
  unfold settledDurations
  cases licenseStarted with
  | none => exact ⟨Nat.zero_le _, min_le_right _ _, Nat.zero_le _⟩
  | some leased =>
    cases releaseFailed with
    | true => exact ⟨le_max_right _ _, max_le (min_le_right _ _) hle, le_rfl⟩
    | false =>
      exact ⟨(min_le_left _ _).trans (min_le_left _ _), min_le_right _ _, min_le_right _ _⟩

lemma settlementAccepted (header : RunHeader) {evidence : ParticipantToolExecutionEvidence}
    (h : SettlementFits payload ⟨evidence.elapsedMilliseconds, evidence.licenseMilliseconds⟩) :
    SettlementAccepted payload evidence := by
  rintro st reservation event artifact rfl hevent hreserved hrunning hunresolved hcustody hordered
    hartifact hclass
  have hadmitted : ToolSettledAdmitted st event := by
    refine ⟨⟨reservation, ?_⟩, artifact, ?_, hclass⟩
    · rw [hevent]
      exact ⟨⟨hreserved, hrunning, hunresolved, rfl, rfl, hordered, hcustody⟩, rfl, rfl, rfl,
        h.compute, h.license⟩
    · rw [hevent]
      exact hartifact
  exact ⟨_, (@onParticipantToolSettled_eq_ok _ header _ _ _).mpr ⟨hadmitted, rfl⟩⟩

end Settlement

/-! ### Executions -/

section Executions

variable [RecordDigests] {runtime : ToolRuntime} {plan : ToolPlan runtime.dispatcher}
  {reservation : DispatchReservation}

omit [Canonical] [RecordDigests] in
lemma ofFacts_eq_ok {facts : ToolEvidenceFacts} {evidence : ParticipantToolExecutionEvidence}
    (h : ParticipantToolExecutionEvidence.ofFacts facts = .ok evidence) :
    evidence.toToolEvidenceFacts = facts := by
  unfold ParticipantToolExecutionEvidence.ofFacts at h
  split at h
  · cases h
    rfl
  · cases h

variable {execution : ToolRuntime.ToolExecution}

/-- The evidence carries the settled durations, whether or not there is a result. -/
lemma concludeTool_durations {started finished : ℚ} {releaseFailed : Bool} {desk : ToolDesk}
    (h : runtime.concludeTool plan reservation started finished releaseFailed desk =
      .ok execution) :
    (⟨execution.evidence.elapsedMilliseconds, execution.evidence.licenseMilliseconds⟩ :
      ToolDurations) =
        settledDurations reservation.payload started desk.licenseStarted finished
          releaseFailed := by
  unfold ToolRuntime.concludeTool at h
  dsimp only at h
  split at h
  · simp only [bind_eq_ok, pure_eq_ok] at h
    obtain ⟨evidence, hevidence, rfl⟩ := h
    rw [ofFacts_eq_ok hevidence]
    rfl
  · simp only [ToolRuntime.evidenceOfResult, bind_eq_ok, pure_eq_ok] at h
    obtain ⟨_, ⟨stdout, -, stderr, -, outputs, -, evidence, hevidence, rfl⟩, rfl⟩ := h
    rw [ofFacts_eq_ok hevidence]
    rfl

/-- What an execution returns was concluded from some readings of the clock. -/
lemma executeTool_concluded {desk desk' : ToolDesk}
    (h : (runtime.executeTool plan reservation).exec desk = (.ok execution, desk')) :
    ∃ started finished releaseFailed last,
      runtime.concludeTool plan reservation started finished releaseFailed last =
        .ok execution := by
  simp only [ToolRuntime.executeTool, exec_bind_eq_ok] at h
  obtain ⟨_, _, -, started, _, -, _, _, -, _, _, -, _, _, -, releaseFailed, _, -, last, _, -,
    _, _, -,
    finished, _, -, hconclude⟩ := h
  exact ⟨started, finished, releaseFailed, last, congrArg Prod.fst hconclude⟩

theorem executeTool_settles {desk desk' : ToolDesk}
    (h : (runtime.executeTool plan reservation).exec desk = (.ok execution, desk')) :
    SettlementFits reservation.payload
      ⟨execution.evidence.elapsedMilliseconds, execution.evidence.licenseMilliseconds⟩ := by
  obtain ⟨started, finished, releaseFailed, last, hconclude⟩ := executeTool_concluded h
  rw [concludeTool_durations hconclude]
  exact settledDurations_fit

/-- A dispatch of a plan on a journal ends with an exhausted budget, or fits into what the session
has left and settles within its reservation. -/
def DispatchFits (runtime : ToolRuntime) (plan : ToolPlan runtime.dispatcher)
    (events : List RunEvent) (now : Datetime) (eventId : UUID) : Prop :=
  (∃ kind ∈ BUDGET_FAILURES,
    plan.reserveDispatch events now eventId = .error (.adapterError kind)) ∨
  ∃ reservation event,
    plan.reserveDispatch events now eventId =
      .ok (reservation, events ++ [.participantToolReserved event]) ∧
    Reserved plan.toToolInvocation events now reservation event ∧
    ∀ (desk desk' : ToolDesk) (execution : ToolRuntime.ToolExecution),
      (runtime.executeTool plan reservation).exec desk = (.ok execution, desk') →
      SettlementFits reservation.payload
        ⟨execution.evidence.elapsedMilliseconds, execution.evidence.licenseMilliseconds⟩ ∧
      SettlementAccepted reservation.payload execution.evidence

/-- An accepted journal that has just recorded a request for an executor tool, and in which nothing
else is open. -/
def AwaitsDispatch (header : RunHeader) (task : TaskSpec) (before : List RunEvent)
    (request : InteractionRecordedEvent) : Prop :=
  (∃ state, replay header task (before ++ [.interactionRecorded request]) = .ok state) ∧
    ∃ st, replayLoop header task (before ++ [.interactionRecorded request]) = .ok st ∧
      OnlyRequestOpen st request

/-- Where every ended job had been running and the amounts are JSON-safe, a dispatch fits. -/
theorem participant_dispatch_fits (runtime : ToolRuntime) (plan : ToolPlan runtime.dispatcher)
    (before : List RunEvent) (request : InteractionRecordedEvent) (now : Datetime) (eventId : UUID)
    (awaits : AwaitsDispatch runtime.dispatcher.header runtime.dispatcher.task before request)
    (requested : plan.requestInteractionId = request.payload.interactionId)
    (fresh : eventId ∉ (before ++ [RunEvent.interactionRecorded request]).map
      fun e => e.base.eventId)
    (defined : UsageDefined (before ++ [.interactionRecorded request]))
    (safe : ComputeSafe runtime.dispatcher (before ++ [.interactionRecorded request]) now) :
    DispatchFits runtime plan (before ++ [.interactionRecorded request]) now eventId := by
  obtain ⟨⟨state, accepted⟩, st, loop, quiet⟩ := awaits
  obtain ⟨used, hused⟩ := (dispatchUsage_iff loop quiet.jobs quiet.leases).mpr defined
  rcases @reserveDispatch_cases _ _ plan.toToolInvocation _ _ _ _ _ accepted requested
    quiet.direction quiet.tool hused safe _ fresh with
    hbudget | ⟨reservation, event, hreserve, hreserved⟩
  · exact Or.inl hbudget
  · refine Or.inr ⟨reservation, event, hreserve, hreserved, fun desk desk' execution hexec => ?_⟩
    have hfits := executeTool_settles hexec
    exact ⟨hfits, settlementAccepted runtime.dispatcher.header hfits⟩

end Executions

end Execution

/-! ### Four journals that a dispatch does not fit -/

section SmallDispatch

local instance dispatchCanonical : Canonical := plainCanonical

/-- The values of a record, joined. -/
@[reducible] def joinedDigests : RecordDigests where
  recordDigest _ fields := fields.foldl (fun text field => text ++ ":" ++ field.2) ""

local instance dispatchDigests : RecordDigests := joinedDigests

def keptPolicy : ArtifactPolicy where
  quotaBytes := 1
  rule artifactClass := {
    artifactClass
    retentionSeconds := 60
    allowedDisclosures := [⟨.internal, .author, .forbidden,
      Sensitivity.internal_ne_secret, Visibility.author_private _ _⟩] }
  rule_class _ := rfl
  encryption_required _ _ := by simp

def lintTool : ToolBinding where
  capability := .rtlLint
  toolId := "verilator"
  toolVersion := "5"
  driverId := "lint"
  driverDigest := "d-drv"
  locator := { imageDigest := some "d-img", executable := "verilator",
               deploymentAttestationDigest := "d-att" }

def lintOperation : Resolution.ParticipantOperationBinding where
  operationId := "lint"
  capability := .rtlLint
  toolId := "verilator"
  outputs := [⟨["report.json"], .evidence⟩, ⟨["run.log"], .diagnostic⟩]
  digest := "d-lint"

/-- One unlicensed tool, for `wallSeconds` at a time. -/
def lintEnvironment (wallSeconds : Nat) (h : 0 < wallSeconds) : DispatchEnvironment where
  executor := { kind := .rootlessLocal, executorId := "ex", implementationDigest := "d-ex",
                imageDigest := some "d-img" }
  toolBindings := [lintTool]
  participantOperations := [lintOperation]
  artifactPolicy := keptPolicy
  digest := "d-env"
  wallSeconds := wallSeconds
  leaseTtlSeconds _ := 60
  wall_pos := h
  ttl_pos := by simp

/-- A session of `seconds` in which no licence may be used. -/
def lintResources (seconds : Nat) (h : 1 ≤ seconds) : ResourceBudget where
  maxTurns := 1
  maxToolCalls := 8
  maxExperiments := 1
  maxWallSeconds := seconds
  maxEdaComputeSeconds := seconds
  maxLicenseSeconds := 0
  maxArtifactBytes := 1
  wallSeconds_pos := h
  edaComputeSeconds_pos := h

def lintDispatcher (seconds : Nat) (h : 1 ≤ seconds) : ToolDispatcher where
  header := toolHeader
  task := gateTask
  environment := lintEnvironment seconds h
  resources := lintResources seconds h
  tools_bound := by
    intro operation hoperation
    obtain rfl := List.mem_singleton.mp hoperation
    exact ⟨lintTool, rfl, _, List.mem_singleton_self _, rfl, rfl, rfl, rfl⟩
  operations_bound := by
    intro operation hoperation
    obtain rfl := List.mem_singleton.mp hoperation
    exact ⟨_, List.mem_singleton_self _, rfl, rfl, rfl, rfl⟩

def lintPlan (seconds : Nat) (h : 1 ≤ seconds) (requestId : Identifier) :
    ToolPlan (lintDispatcher seconds h) where
  operation := lintOperation
  binding := lintTool
  requestInteractionId := requestId
  invocationDigest := "d-inv"
  inputManifestDigest := "d-in"
  operation_mem := List.mem_singleton_self _
  binding_eq := rfl
  outputs := [⟨"report", ["report.json"], "application/json", .evidence, true⟩,
    ⟨"log", ["run.log"], "text/plain", .diagnostic, false⟩]
  outputs_eq := rfl

/-- The request of the participant at position `n`. -/
def lintRequest (n : Nat) (requestId : Identifier) : InteractionRecordedEvent where
  toEventBase := aliceBase n
  payload := { direction := .toolRequest, interactionId := requestId
               toolName := some EXECUTOR_PARTICIPANT_TOOL_NAME }

def startedRun : List RunEvent := passingRun.take 1

/-- The gate job held a licence while it ran. -/
def licensedRun : List RunEvent :=
  passingRun.take 3 ++
    [.licenseLeaseAcquired {
       toEventBase := gateBase 3 .controller
       payload := { jobId := "j0", licenseBindingId := "sim", providerId := "pool"
                    featureClass := "lint" } },
     .jobStateChanged {
       toEventBase := gateBase 4 .executor
       payload := { jobId := "j0", state := .running } },
     .jobStateChanged {
       toEventBase := gateBase 5 .executor
       payload := { jobId := "j0", state := .completed } },
     .licenseLeaseReleased {
       toEventBase := gateBase 6 .controller
       payload := { jobId := "j0", licenseBindingId := "sim", providerId := "pool"
                    featureClass := "lint" } },
     .evaluationCompleted {
       toEventBase := gateBase 7 .evaluator
       payload := { candidateId := "c0", jobId := "j0",
                    result := { stageId := "gate", outcome := .passed } } }]

/-- A saturated call that is lost and then answered. -/
def lostCall (n : Nat) (requestId : Identifier) : List RunEvent :=
  saturatedCall n requestId ++
    [.participantToolLost {
       toEventBase := gateBase (n + 2) .controller
       payload := { requestInteractionId := requestId, invocationId := "run:t0:" ++ requestId
                    invocationDigest := "d-inv" } },
     .interactionRecorded {
       toEventBase := gateBase (n + 3) .controller
       payload := { direction := .toolResult, interactionId := requestId ++ ":result"
                    relatedInteractionId := some requestId
                    toolName := some EXECUTOR_PARTICIPANT_TOOL_NAME
                    tool_iff := by simp } }]

def lostRun : List RunEvent := startedRun ++ lostCall 1 "q0" ++ lostCall 5 "q1"

lemma awaitsDispatch_of_decided {before : List RunEvent} {request : InteractionRecordedEvent}
    (hreplay : (replay toolHeader gateTask (before ++ [.interactionRecorded request])).isOk = true)
    (hquiet : ((replayLoop toolHeader gateTask
      (before ++ [.interactionRecorded request])).toOption.any fun st =>
        decide (OnlyRequestOpen st request)) = true) :
    AwaitsDispatch toolHeader gateTask before request := by
  refine ⟨Except.exists_of_isOk hreplay, ?_⟩
  cases hloop : replayLoop toolHeader gateTask (before ++ [.interactionRecorded request]) with
  | error e =>
    rw [hloop] at hquiet
    cases hquiet
  | ok st =>
    rw [hloop] at hquiet
    exact ⟨st, rfl, of_decide_eq_true hquiet⟩

/-- A job failed before it ran; two lost dispatches had saturated their reservations; the session
and the environment last for longer than a JSON-safe integer counts; an evaluator's licence was held
for longer than the session allows. -/
theorem dispatch_misfits :
    (AwaitsDispatch toolHeader gateTask neverRan (lintRequest 5 "q0") ∧
      (lintPlan 60 (by decide) "q0").reserveDispatch
        (neverRan ++ [.interactionRecorded (lintRequest 5 "q0")]) 9 100 =
          .error (.valueError "terminal run has an incomplete evaluator duration")) ∧
    (AwaitsDispatch toolHeader gateTask lostRun (lintRequest 9 "q2") ∧
      (lintPlan 60 (by decide) "q2").reserveDispatch
        (lostRun ++ [.interactionRecorded (lintRequest 9 "q2")]) 9 100 =
          .error (.valueError "Input should be less than or equal to 9007199254740991")) ∧
    (AwaitsDispatch toolHeader gateTask startedRun (lintRequest 1 "q0") ∧
      (lintPlan JCS_INTEGER_MAX (by decide) "q0").reserveDispatch
        (startedRun ++ [.interactionRecorded (lintRequest 1 "q0")]) 9 100 =
          .error (.valueError "participant tool reservation is out of bounds")) ∧
    (AwaitsDispatch toolHeader gateTask licensedRun (lintRequest 8 "q0") ∧
      ∃ reservation events used, (lintPlan 60 (by decide) "q0").reserveDispatch
        (licensedRun ++ [.interactionRecorded (lintRequest 8 "q0")]) 9 100 =
          .ok (reservation, events) ∧
        dispatchUsage (licensedRun ++ [.interactionRecorded (lintRequest 8 "q0")]) = .ok used ∧
        (lintResources 60 (by decide)).maxLicenseSeconds * 1000 <
          used.license + reservation.payload.reservedLicenseMilliseconds) := by
  refine ⟨⟨awaitsDispatch_of_decided (by decide +kernel) (by decide +kernel), by decide +kernel⟩,
    ⟨awaitsDispatch_of_decided (by decide +kernel) (by decide +kernel), by decide +kernel⟩,
    ⟨awaitsDispatch_of_decided (by decide +kernel) (by decide +kernel), by decide +kernel⟩,
    awaitsDispatch_of_decided (by decide +kernel) (by decide +kernel), ?_⟩
  obtain ⟨⟨reservation, events⟩, hreserve⟩ := Except.exists_of_isOk
    (x := (lintPlan 60 (by decide) "q0").reserveDispatch
      (licensedRun ++ [.interactionRecorded (lintRequest 8 "q0")]) 9 100) (by decide +kernel)
  have hused : dispatchUsage (licensedRun ++ [.interactionRecorded (lintRequest 8 "q0")]) =
      .ok ⟨1, 1⟩ := by
    decide +kernel
  exact ⟨reservation, events, _, hreserve, hused, Nat.lt_add_right _ Nat.one_pos⟩

/-- Diagnostics and evidence are encrypted, and stay with the author. -/
def sealedPolicy : ArtifactPolicy where
  quotaBytes := 1
  encryption := .managed "vault" ""
  rule artifactClass := {
    artifactClass
    retentionSeconds := 60
    allowedDisclosures := [PROTECTED_RAW_DISCLOSURE] }
  rule_class _ := rfl
  encryption_required := by simp

def licensedTool : ToolBinding := { lintTool with licenseBindingId := some "sim" }

def licensedEnvironment : DispatchEnvironment where
  executor := { kind := .rootlessLocal, executorId := "ex", implementationDigest := "d-ex",
                imageDigest := some "d-img" }
  toolBindings := [licensedTool]
  participantOperations := [lintOperation]
  licenses := [⟨"sim", "pool", "lint"⟩]
  artifactPolicy := sealedPolicy
  digest := "d-env"
  wallSeconds := 1
  leaseTtlSeconds _ := 60
  wall_pos := Nat.zero_lt_one
  ttl_pos := by simp

def licensedDispatcher : ToolDispatcher where
  header := toolHeader
  task := gateTask
  environment := licensedEnvironment
  resources := { lintResources 1 Nat.zero_lt_one with maxLicenseSeconds := 60 }
  tools_bound := by
    intro operation hoperation
    obtain rfl := List.mem_singleton.mp hoperation
    exact ⟨licensedTool, rfl, _, List.mem_singleton_self _, rfl, rfl, rfl, rfl⟩
  operations_bound := by
    intro operation hoperation
    obtain rfl := List.mem_singleton.mp hoperation
    exact ⟨_, List.mem_singleton_self _, rfl, rfl, rfl, rfl⟩

def licensedPlan : ToolPlan licensedDispatcher where
  operation := lintOperation
  binding := licensedTool
  requestInteractionId := "q0"
  invocationDigest := "d-inv"
  inputManifestDigest := "d-in"
  operation_mem := List.mem_singleton_self _
  binding_eq := rfl
  outputs := [⟨"report", ["report.json"], "application/json", .evidence, true⟩,
    ⟨"log", ["run.log"], "text/plain", .diagnostic, false⟩]
  outputs_eq := rfl

/-- The provider grants the lease, the tool ends at once, and the clock ticks with every answer. -/
def promptAnswers : ToolAnswers where
  monotonic n := n / 1000
  revalidateAssets _ := .ok ⟨⟩
  hasLicenseProvider _ := true
  acquireLicense _ := .lease "pool" "lint" true
  releasesLicense _ := true
  storage := none
  materializeInputs _ := .ok "d-in"
  releaseStorage _ := .ok ⟨⟩
  launch _ := .ok true
  inspect _ := .ok { ownHandle := true, state := { state := .completed, exitCode := some 0 } }
  cancel _ := .ok { ownHandle := true, state := { state := .cancelled } }
  patience := 1
  collect _ := .ok { state := { ownHandle := true, state := { state := .completed
                                                              exitCode := some 0 } }
                     stdout := { digest := "d-out", sizeBytes := 0 }
                     stderr := { digest := "d-err", sizeBytes := 0 }
                     outputs := [⟨"report", { digest := "d-rep", sizeBytes := 2 },
                       "application/json", .evidence⟩] }
  outputUnchanged _ := .ok ⟨⟩
  abandon _ := .ok ⟨⟩

def licensedRuntime : ToolRuntime where
  dispatcher := licensedDispatcher
  journal := { header := toolHeader, task := gateTask, fate := fun _ => .durable
               clock := fun _ => 9, eventIdFactory := fun n => 200 + n }
  answers := promptAnswers
  diskBytes := 1024
  journal_header := rfl
  journal_task := rfl

/-- A job that has ended held the licence that the participant's tool now asks for, and gets. -/
theorem licensed_dispatch_fits :
    DispatchFits licensedRuntime licensedPlan
      (licensedRun ++ [.interactionRecorded (lintRequest 8 "q0")]) 9 100 ∧
    (licensedPlan.reserveDispatch
      (licensedRun ++ [.interactionRecorded (lintRequest 8 "q0")]) 9 100).toOption.any (fun made =>
        ((licensedRuntime.executeTool licensedPlan made.1).exec
          { events := made.2 }).1.toOption.any fun execution =>
            decide (0 < execution.evidence.licenseMilliseconds)) = true := by
  refine ⟨participant_dispatch_fits licensedRuntime licensedPlan licensedRun
    (lintRequest 8 "q0") 9 100 (awaitsDispatch_of_decided (by decide +kernel) (by decide +kernel))
    rfl (by decide) ⟨?_, ?_⟩ ?_, by decide +kernel⟩
  · rintro jobId ⟨e, he, rfl, -⟩
    have hjob : e.payload.jobId = "j0" := by
      simp only [licensedRun, passingRun] at he
      simp at he
      rcases he with rfl | rfl | rfl <;> rfl
    rw [hjob]
    exact ⟨_, List.mem_append_left _ (List.mem_append_right _
      (List.mem_cons_of_mem _ List.mem_cons_self)), rfl, rfl⟩
  · intro dispatches h
    have hnil : participantToolDispatches
        (licensedRun ++ [.interactionRecorded (lintRequest 8 "q0")]) = .ok [] := by
      decide +kernel
    rw [hnil] at h
    cases h
    decide
  · intro first used _ _
    have hlimit :
        licensedRuntime.dispatcher.computeReservation used first.base.timestamp 9 ≤ 1000 :=
      min_le_right _ _
    exact hlimit.trans (by decide)

end SmallDispatch

end EdaGym
