import EdaGym.Drivers.Fixture
import EdaGym.Run.Model
import EdaGym.Specs.Environment

/-!
# Qualification evidence

What one execution of one role of a fixture leaves behind, and the validator that decides which
records of an execution can exist: for each kind of failure it prescribes the shape of the exit
codes, the logs, the outputs and the raw diagnostics.
-/

namespace EdaGym

inductive QualificationOutcome
  | passed | failed
deriving DecidableEq, Repr

inductive QualificationFailure
  | toolExited | timedOut | programUnavailable | outputMissing | parserRejected | parserCrashed
  | executionClosureChanged | restrictedAssetChanged
deriving DecidableEq, Repr

inductive Vendor
  | openSource | cadence | synopsys | amd | altera | achronix
deriving DecidableEq, Repr

inductive ExecutableInvocationMode
  | descriptorBound | rootlessImage | trustedPath | siteContainer
deriving DecidableEq, Repr

inductive QualificationState
  | detected | invocable | unavailable
deriving DecidableEq, Repr

/-- The identity of one explicit commercial workload authorization. -/
structure CommercialQualificationReceipt where
  toolId : Identifier
  vendor : Vendor
  capability : Capability
  driverDigest : Digest
  fixtureDigest : Digest

structure QualificationResourceGrant where
  commandTimeoutSeconds : Nat
  wallSeconds : Nat
deriving DecidableEq

structure BackendProbe where
  toolId : Identifier
  vendor : Vendor
  capabilities : List Capability
  state : QualificationState
  toolVersion : Option String
  deploymentAttestationDigest : Option Digest
  driverDigest : Digest

/-- What a deployment attestation digests. -/
structure DeploymentIdentity where
  toolId : Identifier
  driverDigest : Digest
  deploymentRecordDigest : Option Digest
  toolVersion : String
  executableDigest : Digest
  executionClosureDigest : Digest
  versionOutputDigest : Digest
  modulefileDigest : Option Digest
  invocationMode : ExecutableInvocationMode
  packageManifestDigest : Option Digest

structure QualificationIdentities extends FixtureIdentities where
  probeDigest : BackendProbe → Digest
  attestationDigest : DeploymentIdentity → Digest

structure QualificationAssetEvidence where
  logicalId : Identifier
  assetId : Identifier
  path : String
  restrictedDigest : Digest
  mediaType : MediaType

/-- Restricted replay evidence. -/
structure QualificationEvidence where
  toolId : Identifier
  vendor : Vendor
  capability : Capability
  role : FixtureRole
  fixture : QualificationFixtureSnapshot
  fixturePairDigest : Digest
  driverDigest : Digest
  backendProbeDigest : Digest
  toolVersion : String
  executableDigest : Digest
  executionClosureDigest : Digest
  versionOutputDigest : Digest
  executableInvocationMode : ExecutableInvocationMode
  deploymentAttestationDigest : Digest
  deploymentRecordDigest : Option Digest
  packageManifestDigest : Option Digest
  modulefileDigest : Option Digest
  licenseAuthorization : Option CommercialQualificationReceipt
  artifactPolicyDigest : Digest
  resourceGrant : QualificationResourceGrant
  inputArtifacts : List ArtifactRecord
  deploymentArtifacts : List ArtifactRecord
  restrictedAssets : List QualificationAssetEvidence
  outputArtifacts : List ArtifactRecord
  diagnosticArtifacts : List ArtifactRecord
  exitCodes : List Int
  outcome : QualificationOutcome
  failure : Option QualificationFailure
  semanticRejectionReason : Option SemanticRejectionReason
  recordedAt : Datetime

def ROOTLESS_PACKAGE_MANIFEST_ID : Identifier := "rootless_image_package_manifest"

def ArtifactRecord.disclosedAs (record : ArtifactRecord) (disclosure : ArtifactDisclosure) : Prop :=
  (record.sensitivity, record.visibility, record.redistribution) =
    (disclosure.sensitivity, disclosure.visibility, disclosure.redistribution)

instance (record : ArtifactRecord) (disclosure : ArtifactDisclosure) :
    Decidable (record.disclosedAs disclosure) :=
  inferInstanceAs (Decidable (_ = _))

/-- `normalize_artifacts`. -/
def normalizeArtifacts (value : List ArtifactRecord) : Except String (List ArtifactRecord) := do
  raiseIf (¬ (value.map (·.logicalId)).Nodup) "qualification artifact identities must be unique"
  pure (sortedBy (·.logicalId) value)

/-- `normalize_restricted_assets`. -/
def normalizeRestrictedAssets (value : List QualificationAssetEvidence) :
    Except String (List QualificationAssetEvidence) := do
  raiseIf (¬ (value.map fun item => (item.logicalId, item.assetId, item.path)).Nodup)
    "qualification restricted assets must be unique"
  pure (sortedBy (·.logicalId) value)

variable (ids : QualificationIdentities)

namespace QualificationEvidence

variable (e : QualificationEvidence)

/-- The logical identities of a list of records. -/
def idsOf (records : List ArtifactRecord) : List Identifier := records.map (·.logicalId)

def outputIds : List Identifier := idsOf e.outputArtifacts

def diagnosticIds : List Identifier := idsOf e.diagnosticArtifacts

/-- The log identities of the first `count` commands. -/
def logIds (count : Nat) : List Identifier :=
  (List.range count).flatMap fun index =>
    LogStream.all.map fun stream =>
      qualificationArtifactId e.fixture.fixtureId (commandLog index stream.value)

/-- The log identities of all commands. -/
def allLogIds : List Identifier := e.logIds e.fixture.invocations.length

def requiredIds : List Identifier :=
  (e.fixture.outputs.filter (·.required)).map (·.logicalId)

def optionalIds : List Identifier :=
  (e.fixture.outputs.filter fun item => !item.required).map (·.logicalId)

/-- `declared_media[logical_id]`. -/
def declaredMedia (logicalId : Identifier) : Option MediaType :=
  (e.fixture.outputs.find? fun item => item.logicalId = logicalId).map (·.mediaType)

def deploymentIdentity : DeploymentIdentity where
  toolId := e.toolId
  driverDigest := e.driverDigest
  deploymentRecordDigest := e.deploymentRecordDigest
  toolVersion := e.toolVersion
  executableDigest := e.executableDigest
  executionClosureDigest := e.executionClosureDigest
  versionOutputDigest := e.versionOutputDigest
  modulefileDigest := e.modulefileDigest
  invocationMode := e.executableInvocationMode
  packageManifestDigest := e.packageManifestDigest

/-- The artifacts that carry evidence. -/
def evidenceArtifacts : List ArtifactRecord :=
  e.inputArtifacts ++ e.deploymentArtifacts ++ e.outputArtifacts

/-- Identities, classes and the fixture that the evidence names. -/
def checkIdentities : Except String Unit := do
  raiseIf (e.inputArtifacts = [] ∨ e.outputArtifacts = [])
    "qualification evidence requires input and output artifacts"
  raiseIf (¬ (idsOf (e.evidenceArtifacts ++ e.diagnosticArtifacts) ++
      e.restrictedAssets.map (·.logicalId)).Nodup)
    "qualification input and output identities cannot overlap"
  raiseIf (e.fixture.toolId ≠ e.toolId ∨ e.fixture.capability ≠ e.capability ∨
      e.fixture.role ≠ e.role ∨
        e.fixture.fixtureId ≠ qualificationCaseId e.toolId e.capability e.role)
    "qualification fixture snapshot does not bind its backend capability"
  raiseIf ((∃ record ∈ e.evidenceArtifacts, record.artifactClass ≠ .evidence) ∨
      ∃ record ∈ e.diagnosticArtifacts, record.artifactClass ≠ .diagnostic)
    "qualification outputs must be evidence and raw logs must be diagnostics"

/-- A package manifest is retained exactly when the deployment has one. -/
def checkManifest : Except String Unit :=
  match e.packageManifestDigest with
  | none =>
    raiseIf (e.deploymentArtifacts ≠ [])
      "deployment artifacts require a package manifest identity"
  | some manifestDigest =>
    raiseIf (¬ ∃ record ∈ e.deploymentArtifacts, e.deploymentArtifacts = [record] ∧
        record.logicalId = ROOTLESS_PACKAGE_MANIFEST_ID ∧ record.blob.digest = manifestDigest ∧
          record.mediaType = "text/tab-separated-values")
      "rootless image evidence requires its exact package manifest"

/-- The deployment the evidence attests to and the authorization it was recorded under. -/
def checkDeployment : Except String Unit := do
  raiseIf (¬ (e.licenseAuthorization.isSome ↔ e.vendor ≠ .openSource))
    "commercial evidence requires exactly one explicit authorization identity"
  raiseIf (e.deploymentAttestationDigest ≠ ids.attestationDigest e.deploymentIdentity)
    "qualification evidence has a noncanonical deployment attestation"
  e.checkManifest
  raiseIf (e.vendor ≠ .openSource ∧
      ∃ record ∈ e.evidenceArtifacts ++ e.diagnosticArtifacts,
        ¬ record.disclosedAs PROTECTED_RAW_DISCLOSURE)
    "commercial qualification artifacts require protected disclosure"
  raiseIf (∃ receipt ∈ e.licenseAuthorization,
      receipt.toolId ≠ e.toolId ∨ receipt.vendor ≠ e.vendor ∨ receipt.capability ≠ e.capability ∨
        receipt.driverDigest ≠ e.driverDigest ∨ receipt.fixtureDigest ≠ e.fixturePairDigest)
    "commercial evidence does not bind its authorization receipt"

/-- The inputs and assets of the fixture. -/
def checkInputs : Except String Unit := do
  raiseIf (¬ SameSet
      (e.inputArtifacts.map fun item =>
        (item.logicalId, item.blob.digest, item.blob.sizeBytes, item.mediaType))
      (e.fixture.inputs.map fun item =>
        (item.logicalId, item.digest, item.sizeBytes, item.mediaType)))
    "qualification evidence must contain every canonical fixture input"
  raiseIf (¬ SameSet
      (e.restrictedAssets.map fun item => (item.logicalId, item.assetId, item.path, item.mediaType))
      (e.fixture.restrictedAssets.map fun item =>
        (item.logicalId, item.assetId, item.path, item.mediaType)))
    "qualification evidence must bind every restricted fixture asset"
  raiseIf (e.fixture.invocations.length < e.exitCodes.length)
    "qualification evidence has excess invocation results"

/-- The logs, the outputs and the raw diagnostics. -/
def checkArtifacts : Except String Unit := do
  let rawIds := fun ids : List Identifier => ids.map fun logicalId => logicalId ++ "_raw"
  let required := e.fixture.logRetention = .markerProjection ∧ e.outcome = .failed
  raiseIf (required ∧
      ¬ SameSet e.diagnosticIds (rawIds (e.outputIds.filter fun id => id ∈ e.allLogIds)))
    "failed marker-projected logs require exact raw diagnostics"
  raiseIf (¬ required ∧ e.diagnosticIds ≠ [])
    "raw diagnostics are retained only for projected failures"
  raiseIf (¬ e.diagnosticIds ⊆ rawIds e.allLogIds ∨ ∃ item ∈ e.diagnosticArtifacts,
      item.mediaType ≠ "text/plain" ∨ ¬ item.disclosedAs PROTECTED_RAW_DISCLOSURE)
    "qualification diagnostics must be protected raw command logs"
  raiseIf (¬ e.outputIds ⊆ e.allLogIds ++ (e.requiredIds ++ e.optionalIds))
    "qualification evidence contains an undeclared output"
  raiseIf (∃ record ∈ e.outputArtifacts,
      some record.mediaType ≠
        if record.logicalId ∈ e.allLogIds then some "text/plain"
        else e.declaredMedia record.logicalId)
    "qualification output media type differs from its fixture contract"

def checkPassed : Except String Unit := do
  raiseIf (e.failure.isSome ∨ e.exitCodes.length ≠ e.fixture.invocations.length ∨
      e.exitCodes ≠ e.fixture.expectedExitCodes ∨ ¬ e.allLogIds ++ e.requiredIds ⊆ e.outputIds)
    "passing evidence requires successful tool invocations"
  if e.role = .acceptance then
    raiseIf e.semanticRejectionReason.isSome "acceptance evidence cannot carry a semantic rejection"
  else
    raiseIf (e.semanticRejectionReason ≠ e.fixture.rejectionReason)
      "rejection evidence must carry its exact expected semantic reason"

def completeExpectedInvocations : Prop := e.exitCodes = e.fixture.expectedExitCodes

def completedExpectedPrefix : Prop :=
  e.exitCodes = e.fixture.expectedExitCodes.take e.exitCodes.length

def hasCompletedLogs : Prop := e.logIds e.exitCodes.length ⊆ e.outputIds

def missingRequired : Prop := ¬ e.requiredIds ⊆ e.outputIds

instance : Decidable e.completeExpectedInvocations := inferInstanceAs (Decidable (_ = _))

instance : Decidable e.completedExpectedPrefix := inferInstanceAs (Decidable (_ = _))

instance : Decidable e.hasCompletedLogs :=
  inferInstanceAs (Decidable (e.logIds e.exitCodes.length ⊆ e.outputIds))

instance : Decidable e.missingRequired :=
  inferInstanceAs (Decidable (¬ e.requiredIds ⊆ e.outputIds))

/-- The shape that each kind of failure prescribes. -/
def checkFailure : QualificationFailure → Except String Unit
  | .toolExited =>
    raiseIf (e.exitCodes = [] ∨ e.completedExpectedPrefix ∨ ¬ e.hasCompletedLogs)
      "tool-exited evidence requires an unexpected exit status"
  | .timedOut =>
    raiseIf (e.exitCodes = [] ∨ e.completedExpectedPrefix ∨ ¬ e.hasCompletedLogs)
      "timeout evidence requires a terminated invocation"
  | .programUnavailable =>
    raiseIf (e.fixture.invocations.length ≤ e.exitCodes.length)
      "program-unavailable evidence requires an incomplete invocation"
  | .outputMissing =>
    raiseIf (¬ (e.completeExpectedInvocations ∧ e.allLogIds ⊆ e.outputIds ∧ e.missingRequired))
      "output-missing evidence requires successful tools and a gap"
  | .parserRejected =>
    raiseIf (¬ (e.completeExpectedInvocations ∧ e.allLogIds ⊆ e.outputIds ∧ ¬ e.missingRequired))
      "parser-rejected evidence requires complete workload outputs"
  | .parserCrashed =>
    raiseIf (¬ (e.completeExpectedInvocations ∧ e.allLogIds ⊆ e.outputIds ∧ ¬ e.missingRequired))
      "parser-crashed evidence requires complete workload outputs"
  | .executionClosureChanged =>
    raiseIf (¬ (e.completedExpectedPrefix ∧ e.hasCompletedLogs))
      "closure-changed evidence requires an exact completed invocation prefix"
  | .restrictedAssetChanged =>
    raiseIf (¬ (e.completedExpectedPrefix ∧ e.hasCompletedLogs ∧ e.restrictedAssets ≠ []))
      "asset-changed evidence requires a bound restricted asset and exact prefix"

def checkFailed : Except String Unit := do
  let failure ← orRaise e.failure "failed evidence requires a typed failure"
  raiseIf e.semanticRejectionReason.isSome "failed evidence cannot claim a semantic rejection"
  e.checkFailure failure

/-- `validate_outcome`. -/
def validateOutcome : Except String Unit := do
  e.checkIdentities
  e.checkDeployment ids
  e.checkInputs
  e.checkArtifacts
  if e.outcome = .passed then e.checkPassed else e.checkFailed

/-- `QualificationEvidence(...)`: the lists are normalised, then the outcome is validated. -/
def build : Except String QualificationEvidence := do
  let inputArtifacts ← normalizeArtifacts e.inputArtifacts
  let deploymentArtifacts ← normalizeArtifacts e.deploymentArtifacts
  let restrictedAssets ← normalizeRestrictedAssets e.restrictedAssets
  let outputArtifacts ← normalizeArtifacts e.outputArtifacts
  let diagnosticArtifacts ← normalizeArtifacts e.diagnosticArtifacts
  let built := { e with inputArtifacts, deploymentArtifacts, restrictedAssets, outputArtifacts,
                        diagnosticArtifacts }
  built.validateOutcome ids
  pure built

end QualificationEvidence

end EdaGym
