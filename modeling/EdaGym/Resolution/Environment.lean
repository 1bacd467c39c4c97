import EdaGym.Specs.Environment
import EdaGym.Resolution.Inputs

/-!
# Environment specification

The executor, the tools and assets it binds, the operations offered to participants, the licenses
and the checkpoint capability, with the validator that ties them together. Mount targets, network
rules and resource limits enter only the digest of the environment's policy.
-/

namespace EdaGym.Resolution

inductive ExecutorKind
  | rootlessLocal | brokeredHostTool | vmPerRun | slurmApptainer | microvmCloud
deriving DecidableEq, Repr

lemma rootless_imaged (image : Digest) :
    ExecutorKind.rootlessLocal = .brokeredHostTool ↔ some image = none := by simp

/-- Every executor but the broker of host tools runs one image. -/
structure ExecutorSpec where
  kind : ExecutorKind
  executorId : Identifier
  implementationDigest : Digest
  imageDigest : Option Digest := none
  image_iff : kind = .brokeredHostTool ↔ imageDigest = none := by
    first | exact rootless_imaged _ | decide

/-- Whether the executor isolates arbitrary participant-controlled bytes. -/
def executorIsParticipantIsolation (executor : ExecutorSpec) : Prop :=
  executor.kind ∈ [.rootlessLocal, .vmPerRun, .microvmCloud]

instance (executor : ExecutorSpec) : Decidable (executorIsParticipantIsolation executor) :=
  inferInstanceAs (Decidable (_ ∈ _))

/-- A host tool names no image. -/
structure ToolLocator where
  imageDigest : Option Digest := none
  executable : String
  deploymentAttestationDigest : Digest

structure ToolBinding where
  capability : Capability
  toolId : Identifier
  toolVersion : String
  driverId : Identifier
  driverDigest : Digest
  locator : ToolLocator
  licenseBindingId : Option Identifier := none

inductive FilesystemScope
  | participant | evaluator | tool
deriving DecidableEq, Repr

structure AssetBinding where
  assetId : Identifier
  restrictedDigest : Digest
  allowedScopes : List FilesystemScope

structure ReadonlyAssetMount where
  assetId : Identifier
  scope : FilesystemScope

structure LicenseBinding where
  licenseBindingId : Identifier
  providerId : Identifier
  featureClass : Identifier

structure ParticipantOperationOutput where
  path : RelativePath
  artifactClass : ArtifactClass

structure ParticipantOperationBinding where
  operationId : Identifier
  capability : Capability
  toolId : Identifier
  candidateInputPaths : List RelativePath := []
  outputs : List ParticipantOperationOutput := []
  /-- The canonical digest of the operation. -/
  digest : Digest

def ParticipantOperationBinding.outputPaths (operation : ParticipantOperationBinding) :
    List RelativePath :=
  operation.outputs.map ParticipantOperationOutput.path

inductive CheckpointCapability
  | none | application | filesystem | virtualMachine
deriving DecidableEq, Repr

def SHELL_EXECUTABLES : List String :=
  ["bash", "csh", "dash", "fish", "ksh", "powershell", "pwsh", "sh", "tclsh", "tcsh", "wish", "zsh"]

def executableIsShell (executable : String) : Prop :=
  String.ofList (executable.toList.map Char.toLower) ∈ SHELL_EXECUTABLES

instance (executable : String) : Decidable (executableIsShell executable) :=
  inferInstanceAs (Decidable (_ ∈ _))

/-- The sole unambiguous retained disclosure of an artifact class. -/
def persistentDisclosure (policy : ArtifactPolicy) (artifactClass : ArtifactClass) :
    Option ArtifactDisclosure :=
  let rule := policy.rule artifactClass
  if rule.retentionSeconds = 0 ∨ rule.allowedDisclosures.length ≠ 1 then none
  else rule.allowedDisclosures.head?

structure EnvironmentDocument where
  executor : ExecutorSpec
  toolBindings : List ToolBinding := []
  participantOperations : List ParticipantOperationBinding := []
  assets : List AssetBinding := []
  readonlyAssets : List ReadonlyAssetMount := []
  licenses : List LicenseBinding := []
  checkpoint : CheckpointCapability := .none
  /-- Whether the environment binds a driver for application checkpoints. -/
  applicationCheckpoint : Bool := false
  artifactPolicy : ArtifactPolicy
  /-- The canonical digest of the environment. -/
  digest : Digest

namespace EnvironmentDocument

variable (environment : EnvironmentDocument)

def checkOperation (_ : Unit) (operation : ParticipantOperationBinding) : Except String Unit := do
  let tool ← orRaise (environment.toolBindings.find? fun tool =>
      tool.capability = operation.capability ∧ tool.toolId = operation.toolId)
    "participant operation does not name an exact tool binding"
  raiseIf (environment.executor.kind = .brokeredHostTool)
    "brokered executors cannot expose participant operations"
  raiseIf (executableIsShell tool.locator.executable)
    "participant operations cannot execute a command interpreter"
  raiseIf (∃ output ∈ operation.outputs,
      persistentDisclosure environment.artifactPolicy output.artifactClass = none)
    "participant operation outputs must be retainable artifacts"

def checkMount (_ : Unit) (mount : ReadonlyAssetMount) : Except String Unit := do
  let asset ← orRaise (environment.assets.find? fun asset => asset.assetId = mount.assetId)
    "filesystem policy references an unknown asset"
  raiseIf (mount.scope ∉ asset.allowedScopes)
    "filesystem policy exceeds an asset's authorized scopes"

def validateLicenses : Except String Unit := do
  let licenseIds := environment.licenses.map LicenseBinding.licenseBindingId
  let referenced := environment.toolBindings.filterMap ToolBinding.licenseBindingId
  raiseIf (¬ licenseIds.Nodup) "license binding identifiers must be unique"
  raiseIf (¬ (environment.licenses.map fun l => (l.providerId, l.featureClass)).Nodup)
    "provider feature classes must have one budget owner"
  raiseIf (∃ id ∈ referenced, id ∉ licenseIds)
    "tool binding references an unknown license binding"
  raiseIf (∃ id ∈ licenseIds, id ∉ referenced)
    "every license binding must be owned by at least one tool"
  raiseIf (environment.licenses ≠ [] ∧ environment.artifactPolicy.encryption = .none)
    "licensed environments require managed artifact encryption"
  raiseIf (environment.licenses ≠ [] ∧ ∃ artifactClass ∈ RAW_EDA_ARTIFACT_CLASSES,
      (environment.artifactPolicy.rule artifactClass).retentionSeconds = 0 ∨
      (environment.artifactPolicy.rule artifactClass).allowedDisclosures ≠
        [PROTECTED_RAW_DISCLOSURE])
    "licensed tool diagnostics and evidence must be retained only as confidential author artifacts"

def validateEnvironment : Except String Unit := do
  raiseIf (¬ (environment.toolBindings.map ToolBinding.capability).Nodup)
    "each logical capability may have at most one tool binding"
  raiseIf (∃ tool ∈ environment.toolBindings,
      tool.locator.imageDigest ≠ environment.executor.imageDigest)
    (if environment.executor.kind = .brokeredHostTool then
      "brokered host tools require attested host locators"
    else "image-backed executors require locators in their exact image")
  foldSteps environment.checkOperation ⟨⟩ environment.participantOperations
  raiseIf (¬ (environment.assets.map AssetBinding.assetId).Nodup)
    "asset identifiers must be unique"
  foldSteps environment.checkMount ⟨⟩ environment.readonlyAssets
  environment.validateLicenses
  raiseIf (environment.checkpoint = .virtualMachine ∧
      environment.executor.kind ∉ [.vmPerRun, .microvmCloud])
    "virtual-machine checkpoints require a VM-backed executor"
  raiseIf (¬ (environment.checkpoint = .application ↔ environment.applicationCheckpoint = true))
    "application checkpoint capability requires exactly one driver binding"
  raiseIf (environment.checkpoint ≠ .none ∧
      (environment.artifactPolicy.rule .checkpoint).retentionSeconds = 0)
    "recoverable checkpoints require non-zero artifact retention"

end EnvironmentDocument

/-- A validated environment; its tuples are sorted. -/
structure EnvironmentSpec extends EnvironmentDocument where
  operations_sorted : (participantOperations.map
    ParticipantOperationBinding.operationId).Pairwise (· < ·) := by decide
  assets_sorted : (assets.map AssetBinding.assetId).Pairwise (· ≤ ·) := by decide
  valid : toEnvironmentDocument.validateEnvironment = .ok ⟨⟩ := by decide

namespace EnvironmentSpec

variable (environment : EnvironmentSpec)

lemma capabilities_nodup : (environment.toolBindings.map ToolBinding.capability).Nodup := by
  have h := environment.valid
  simp only [EnvironmentDocument.validateEnvironment, raiseIf_bind_eq_ok, not_not] at h
  exact h.1

end EnvironmentSpec

/-- The digests that resolution computes from canonical encodings. -/
class ResolutionDigests where
  notApplicableLibrary : Digest
  feedbackPolicy : FeedbackPolicy → Digest
  sessionBudget : ResourceBudget → Option ModelBudget → Digest
  environmentPolicy : EnvironmentDocument → Digest

end EdaGym.Resolution
