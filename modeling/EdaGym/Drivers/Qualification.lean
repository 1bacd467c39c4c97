import EdaGym.Artifacts.Store
import EdaGym.Drivers.Evidence
import EdaGym.Resolution.Environment

/-!
# The execution of a fixture

A fixture is executed one command after another. Before and after a command the execution closure,
the deployment and the materialized assets are revalidated; the first surprise ends the loop. What
the workspace then holds is collected into evidence.

The operating system, the tools and whoever changes the host beside them are a behaviour: what each
revalidation finds, whether a program can be started and how it ends, what it logs, and the files
that the commands leave. The store has room and its files can be written; what it does not keep is
what its policy refuses.
-/

namespace EdaGym

structure BackendDefinition where
  toolId : Identifier
  vendor : Vendor
  driverDigest : Digest

structure RootlessImageRuntime where
  packageManifest : Bytes
  packageManifestDigest : Digest

structure ResolvedInstallation where
  definition : BackendDefinition
  versionLabel : String
  modulefileDigest : Option Digest
  versionOutputDigest : Digest
  deploymentRecordDigest : Option Digest
  executableDigest : Digest
  executionClosureDigest : Digest
  executableInvocationMode : ExecutableInvocationMode
  /-- The closure carries the private state of a site container. -/
  siteContainerRuntime : Bool
  rootlessImageRuntime : Option RootlessImageRuntime

namespace ResolvedInstallation

variable (installation : ResolvedInstallation)

def packageManifestDigest : Option Digest :=
  installation.rootlessImageRuntime.map (·.packageManifestDigest)

/-- The identity that an installation attests to. -/
def deploymentIdentity : DeploymentIdentity where
  toolId := installation.definition.toolId
  driverDigest := installation.definition.driverDigest
  deploymentRecordDigest := installation.deploymentRecordDigest
  toolVersion := installation.versionLabel
  executableDigest := installation.executableDigest
  executionClosureDigest := installation.executionClosureDigest
  versionOutputDigest := installation.versionOutputDigest
  modulefileDigest := installation.modulefileDigest
  invocationMode := installation.executableInvocationMode
  packageManifestDigest := installation.packageManifestDigest

end ResolvedInstallation

inductive BackendDeploymentConfiguration
  | hostModule | siteContainer
deriving DecidableEq, Repr

/-- The arguments of `_execute_fixture` that both roles share. -/
structure QualificationCall where
  fixture : QualificationFixture
  definition : BackendDefinition
  probe : BackendProbe
  installation : ResolvedInstallation
  artifactStore : ContentAddressedStore
  artifactDisclosure : ArtifactDisclosure
  resourceGrant : QualificationResourceGrant
  licenseAuthorization : Option CommercialQualificationReceipt
  /-- The granted assets, each with its restricted digest. -/
  restrictedAssets : List (Identifier × Digest)
  deploymentConfiguration : Option BackendDeploymentConfiguration

/-! ### Behaviours -/

/-- What happens around one command. -/
structure CommandBehaviour where
  closureBefore : Bool
  deploymentBefore : Bool
  assetsBefore : Bool
  /-- The executable opens as the regular file it should be. -/
  executable : Bool
  /-- The executable's path is still trusted. -/
  trusted : Bool
  /-- What goes wrong when the mounts of the deployment are held. -/
  mountError : Option String
  spawned : Bool
  /-- The wait times out. -/
  timedOut : Bool
  /-- The status the process is reaped with, negative after a signal. -/
  exitCode : Int
  stdout : Bytes
  stderr : Bytes
  closureAfter : Bool
  deploymentAfter : Bool
  assetsAfter : Bool

/-- An owned regular file with one link; `openable` when its mode lets it be opened for reading. -/
structure WorkspaceFile where
  content : Bytes
  openable : Bool

structure FixtureBehaviour where
  /-- The restricted assets are copied as they were bound. -/
  assetsMaterialized : Bool
  command : Nat → CommandBehaviour
  /-- The files the commands have left, by path. -/
  files : List (String × WorkspaceFile)
  recordedAt : Datetime

/-! ### The command loop -/

structure FixtureRun where
  exitCodes : List Int := []
  stdoutFiles : List Bytes := []
  stderrFiles : List Bytes := []
  timedOut : Bool := false
  programUnavailable : Bool := false
  executionClosureChanged : Bool := false
  restrictedAssetChanged : Bool := false

namespace FixtureRun

/-- The log files of a command that is not started. -/
def touch (run : FixtureRun) : FixtureRun :=
  { run with stdoutFiles := run.stdoutFiles ++ [[]], stderrFiles := run.stderrFiles ++ [[]] }

/-- Two log files for each of `count` commands. -/
def Logged (run : FixtureRun) (count : Nat) : Prop :=
  run.stdoutFiles.length = count ∧ run.stderrFiles.length = count

end FixtureRun

namespace QualificationCall

variable (call : QualificationCall)

/-- The revalidation of the deployment, when there is one. -/
def deploymentValid (found : Bool) : Bool := call.deploymentConfiguration.isNone || found

/-- `revalidate_materialized_qualification_assets`: without assets there is nothing to change. -/
def assetsValid (found : Bool) : Bool := decide (call.fixture.restrictedAssets = []) || found

def siteContainer : Bool :=
  decide (call.installation.executableInvocationMode = .siteContainer)

/-- The executable is run through its path. -/
def trustedPath : Bool :=
  decide (call.installation.executableInvocationMode ∈
    [.trustedPath, .siteContainer, .rootlessImage])

/-- A command that has been reaped. -/
def reap (invocation : FixtureInvocation) (b : CommandBehaviour) (run : FixtureRun) :
    FixtureRun where
  exitCodes := run.exitCodes ++ [b.exitCode]
  stdoutFiles := run.stdoutFiles ++ [b.stdout]
  stderrFiles := run.stderrFiles ++ [b.stderr]
  timedOut := run.timedOut || b.timedOut
  programUnavailable := run.programUnavailable
  executionClosureChanged := run.executionClosureChanged ||
    (invocation.isTool && !(b.closureAfter && call.deploymentValid b.deploymentAfter))
  restrictedAssetChanged := run.restrictedAssetChanged || !call.assetsValid b.assetsAfter

/-- One turn of the loop; the flag says whether the loop goes on. -/
def runCommand (invocation : FixtureInvocation) (expected : Int) (b : CommandBehaviour)
    (run : FixtureRun) : Except String (FixtureRun × Bool) := do
  let deploymentBefore := call.deploymentValid b.deploymentBefore
  let assetsBefore := call.assetsValid b.assetsBefore
  if invocation.isTool && !(b.closureBefore && deploymentBefore && assetsBefore) then
    pure ({ run.touch with
      executionClosureChanged := !(b.closureBefore && deploymentBefore)
      restrictedAssetChanged := !assetsBefore }, false)
  else if !b.executable then
    pure ({ run.touch with programUnavailable := true }, false)
  else
    raiseIf (invocation.isTool ∧ call.installation.executableInvocationMode = .rootlessImage ∧
      call.installation.rootlessImageRuntime = none) "rootless-image runtime state disappeared"
    if invocation.isTool && call.trustedPath && !b.trusted then
      pure ({ run.touch with programUnavailable := true }, false)
    else
      -- the mounts are held only for a site container, whatever the invocation
      match if call.siteContainer then b.mountError else none with
      | some message => .error message
      | none =>
        if !b.spawned then
          pure ({ run.touch with programUnavailable := true }, false)
        else
          let reaped := call.reap invocation b run
          pure (reaped, !(reaped.timedOut || reaped.executionClosureChanged ||
            reaped.restrictedAssetChanged || decide (b.exitCode ≠ expected)))

/-- The loop from a command on; `expected` has a code for each invocation. -/
def runCommands (command : Nat → CommandBehaviour) :
    Nat → List FixtureInvocation → List Int → FixtureRun → Except String FixtureRun
  | index, invocation :: invocations, expected :: codes, run => do
    let (run', continues) ← call.runCommand invocation expected (command index) run
    if continues then runCommands command (index + 1) invocations codes run' else pure run'
  | _, _, _, run => pure run

end QualificationCall

/-! ### Collection -/

/-- The record of a stored artifact: the reference carries the digest and the size of the bytes. -/
def storedRecord (ids : FixtureIdentities) (artifactClass : ArtifactClass)
    (disclosure : ArtifactDisclosure) (logicalId : Identifier) (mediaType : MediaType)
    (content : Bytes) : ArtifactRecord where
  logicalId := logicalId
  blob := ⟨ids.digestBytes content, content.length⟩
  mediaType := mediaType
  artifactClass := artifactClass
  sensitivity := disclosure.sensitivity
  visibility := disclosure.visibility
  redistribution := disclosure.redistribution
  not_secret := disclosure.not_secret
  public_policy := disclosure.public_policy

/-- What a caller of the store says of an artifact of a class. -/
def ArtifactDisclosure.forClass (disclosure : ArtifactDisclosure) (artifactClass : ArtifactClass) :
    Disclosure :=
  ⟨artifactClass, disclosure.sensitivity, disclosure.visibility, disclosure.redistribution⟩

/-- Put a content that is read in `chunks`. With room in the store and its files written, what is
left to refuse it is the policy of the store. -/
def persist [ContentRules] (store : ContentAddressedStore) (ids : FixtureIdentities)
    (artifactClass : ArtifactClass) (disclosure : ArtifactDisclosure) (logicalId : Identifier)
    (mediaType : MediaType) (content : Bytes) (chunks : List Bytes) :
    Except String ArtifactRecord := do
  let put := disclosure.forClass artifactClass
  (store.requireDisclosure put).mapError StoreError.message
  let _ ← (ContentAddressedStore.scanChunks (store.restrictedContentAllowed put)
    ContentAddressedStore.startScanners chunks).mapError StoreError.message
  pure (storedRecord ids artifactClass disclosure logicalId mediaType content)

def PARSER_CAPTURE_BYTES : Nat := 4 * 1024 * 1024

def READ_CHUNK_BYTES : Nat := 1024 * 1024

/-- A file, as it is read for the store. -/
def fileChunks (content : Bytes) : List Bytes := content.toChunks READ_CHUNK_BYTES

/-- What is kept of a log: a projection keeps its markers, and without one it is kept whole. -/
def retainedLog (projection : Option MarkerLogProjection) (content : Bytes) : Bytes :=
  match projection with
  | some projection => projection.project (fileChunks content)
  | none => content

/-- A log, as it is given to the store: a projection is given at once. -/
def logChunks (projection : Option MarkerLogProjection) (content : Bytes) : List Bytes :=
  match projection with
  | some _ => [retainedLog projection content]
  | none => fileChunks content

/-- What the parser sees of a log. -/
def logSample (projection : Option MarkerLogProjection) (content : Bytes) : Bytes :=
  match projection with
  | some _ => retainedLog projection content
  | none => content.take PARSER_CAPTURE_BYTES

namespace QualificationCall

variable [ContentRules] (call : QualificationCall) (ids : QualificationIdentities)
  (role : FixtureRole)

/-- Put an artifact of this case that carries evidence. -/
def persistEvidence (localId : String) (mediaType : MediaType) (content : Bytes)
    (chunks : List Bytes) : Except String ArtifactRecord :=
  persist call.artifactStore ids.toFixtureIdentities .evidence call.artifactDisclosure
    (qualificationArtifactId (call.fixture.caseId role) localId) mediaType content chunks

/-- `_materialize_inputs`. -/
def materializeInputs (inputs : List FixtureInput) : Except String (List ArtifactRecord) :=
  inputs.mapM fun source =>
    call.persistEvidence ids role source.logicalId source.mediaType source.content
      (fileChunks source.content)

/-- `_persist_rootless_package_manifest`. -/
def persistRootlessPackageManifest : Except String (List ArtifactRecord) :=
  call.installation.rootlessImageRuntime.toList.mapM fun runtime =>
    persist call.artifactStore ids.toFixtureIdentities .evidence call.artifactDisclosure
      ROOTLESS_PACKAGE_MANIFEST_ID "text/tab-separated-values" runtime.packageManifest
      [runtime.packageManifest]

/-- The logs of one stream, one for each command that was reached. -/
def collectLogs (stream : LogStream) (logs : List Bytes) : Except String (List ArtifactRecord) :=
  logs.zipIdx.mapM fun log =>
    call.persistEvidence ids role (commandLog log.2 stream.value) "text/plain"
      (retainedLog call.fixture.logProjection log.1) (logChunks call.fixture.logProjection log.1)

/-- A declared output that is there. -/
def fileAt (files : List (String × WorkspaceFile)) (declaration : FixtureOutput) :
    Option WorkspaceFile :=
  files.lookup declaration.path

/-- The declared outputs that are there, each with its file. -/
def presentOutputs (files : List (String × WorkspaceFile)) :
    List (FixtureOutput × WorkspaceFile) :=
  call.fixture.outputs.filterMap fun declaration =>
    (fileAt files declaration).map fun file => (declaration, file)

def collectDeclared (files : List (String × WorkspaceFile)) :
    Except String (List ArtifactRecord) :=
  (call.presentOutputs files).mapM fun present =>
    call.persistEvidence ids role present.1.logicalId present.1.mediaType present.2.content
      (fileChunks present.2.content)

def observeDeclared (files : List (String × WorkspaceFile)) : List ObservedFile :=
  call.fixture.outputs.filterMap fun declaration =>
    (fileAt files declaration).map fun file =>
      { path := declaration.path
        content := file.content.take PARSER_CAPTURE_BYTES
        sizeBytes := file.content.length
        truncated :=
          decide ((file.content.take PARSER_CAPTURE_BYTES).length < file.content.length) }

/-- A required output is not there. -/
def missingOutput (files : List (String × WorkspaceFile)) : Bool :=
  call.fixture.outputs.any fun declaration =>
    declaration.required && (fileAt files declaration).isNone

/-- The artifacts of `_collect_outputs`. -/
def collectOutputs (run : FixtureRun) (files : List (String × WorkspaceFile)) :
    Except String (List ArtifactRecord) := do
  let stdout ← call.collectLogs ids role .stdout run.stdoutFiles
  let stderr ← call.collectLogs ids role .stderr run.stderrFiles
  let declared ← call.collectDeclared ids role files
  pure (stdout ++ stderr ++ declared)

def observation (run : FixtureRun) (files : List (String × WorkspaceFile)) :
    FixtureObservation where
  exitCodes := run.exitCodes
  stdout := run.stdoutFiles.map (logSample call.fixture.logProjection)
  stderr := run.stderrFiles.map (logSample call.fixture.logProjection)
  files := call.observeDeclared files

/-- `_persist_raw_diagnostic` of the logs of one stream. -/
def rawLogs (stream : LogStream) (logs : List Bytes) : Except String (List ArtifactRecord) :=
  logs.zipIdx.mapM fun log =>
    persist call.artifactStore ids.toFixtureIdentities .diagnostic PROTECTED_RAW_DISCLOSURE
      (qualificationArtifactId (call.fixture.caseId role) (commandLog log.2 stream.value) ++ "_raw")
      "text/plain" log.1 (fileChunks log.1)

/-- `_collect_raw_diagnostics`. -/
def collectRawDiagnostics (run : FixtureRun) : Except String (List ArtifactRecord) := do
  let stdout ← call.rawLogs ids role .stdout run.stdoutFiles
  let stderr ← call.rawLogs ids role .stderr run.stderrFiles
  pure (stdout ++ stderr)

/-- The raw logs are kept beside a projection when the execution has failed. -/
def collectDiagnostics (run : FixtureRun) (failure : Option QualificationFailure) :
    Except String (List ArtifactRecord) :=
  if failure.isSome && call.fixture.logProjection.isSome then
    call.collectRawDiagnostics ids role run
  else pure []

/-! ### Evidence -/

/-- What the parser says, for the role: no failure, and the semantic rejection it names. -/
def judge (observation : FixtureObservation) :
    Option QualificationFailure × Option SemanticRejectionReason :=
  match call.fixture.parser.rejection observation, call.fixture.parser.accepts observation with
  | .ok rejection, .ok accepted =>
    let expected := match role with
      | .acceptance => accepted && rejection.isNone
      | .rejection => !accepted && decide (rejection = call.fixture.rejectionReason)
    if expected then (none, rejection) else (some .parserRejected, none)
  | _, _ => (some .parserCrashed, none)

/-- The failure of an execution, and the semantic rejection of one without a failure. -/
def verdict (run : FixtureRun) (files : List (String × WorkspaceFile)) :
    Option QualificationFailure × Option SemanticRejectionReason :=
  if run.timedOut then (some .timedOut, none)
  else if run.executionClosureChanged then (some .executionClosureChanged, none)
  else if run.restrictedAssetChanged then (some .restrictedAssetChanged, none)
  else if run.programUnavailable then (some .programUnavailable, none)
  else if run.exitCodes ≠ call.fixture.exitCodesFor role then (some .toolExited, none)
  else if call.missingOutput files then (some .outputMissing, none)
  else call.judge role (call.observation run files)

/-- The assets that the evidence binds. -/
def assetEvidence : List QualificationAssetEvidence :=
  (call.fixture.assetSnapshots role).map fun item =>
    { logicalId := item.logicalId
      assetId := item.assetId
      path := item.path
      restrictedDigest := (call.restrictedAssets.lookup item.assetId).getD ""
      mediaType := item.mediaType }

/-- The evidence of a run, before its own checks. -/
def rawEvidence (snapshot : QualificationFixtureSnapshot) (pairDigest : Digest)
    (inputArtifacts deploymentArtifacts outputArtifacts diagnosticArtifacts : List ArtifactRecord)
    (run : FixtureRun) (b : FixtureBehaviour) : QualificationEvidence :=
  let verdict := call.verdict role run b.files
  let installation := call.installation
  { toolId := call.definition.toolId
    vendor := call.definition.vendor
    capability := call.fixture.capability
    role := role
    fixture := snapshot
    fixturePairDigest := pairDigest
    driverDigest := call.definition.driverDigest
    backendProbeDigest := ids.probeDigest call.probe
    toolVersion :=
      match call.probe.toolVersion with
      | some version => if version = "" then installation.versionLabel else version
      | none => installation.versionLabel
    executableDigest := installation.executableDigest
    executionClosureDigest := installation.executionClosureDigest
    versionOutputDigest := installation.versionOutputDigest
    executableInvocationMode := installation.executableInvocationMode
    deploymentAttestationDigest := ids.attestationDigest installation.deploymentIdentity
    deploymentRecordDigest := installation.deploymentRecordDigest
    packageManifestDigest := installation.packageManifestDigest
    modulefileDigest := installation.modulefileDigest
    licenseAuthorization := call.licenseAuthorization
    artifactPolicyDigest := call.artifactStore.policyDigest
    resourceGrant := call.resourceGrant
    inputArtifacts
    deploymentArtifacts
    restrictedAssets := call.assetEvidence role
    outputArtifacts
    diagnosticArtifacts
    exitCodes := run.exitCodes
    outcome := if verdict.1.isNone then .passed else .failed
    failure := verdict.1
    semanticRejectionReason :=
      if verdict.1.isNone ∧ role = .rejection then verdict.2 else none
    recordedAt := b.recordedAt }

/-- The checks before the workspace is made. -/
def checkGrant : Except String Unit := do
  raiseIf (call.resourceGrant.wallSeconds <
      call.resourceGrant.commandTimeoutSeconds * call.fixture.invocations.length)
    "fixture execution exceeds the granted wall-time budget"
  raiseIf (call.fixture.logProjection.isSome ∧ (call.artifactStore.encryptionKey = none ∨
      Resolution.persistentDisclosure call.artifactStore.policy .diagnostic ≠
        some PROTECTED_RAW_DISCLOSURE))
    "marker-projected qualification requires protected encrypted diagnostics"

/-- `_execute_fixture`. -/
def executeFixture (b : FixtureBehaviour) : Except String QualificationEvidence := do
  call.checkGrant
  raiseIf (¬ SameSet (call.restrictedAssets.map Prod.fst)
      (call.fixture.restrictedAssets.map (·.assetId)))
    "qualification asset grant differs from its fixture closure"
  raiseIf (call.fixture.restrictedAssets ≠ [] ∧ b.assetsMaterialized = false)
    "qualification asset changed before materialization"
  let snapshot ← call.fixture.snapshotFor ids.toFixtureIdentities role
  let inputs ← call.fixture.inputsFor role
  let inputArtifacts ← call.materializeInputs ids role inputs
  let deploymentArtifacts ← call.persistRootlessPackageManifest ids
  raiseIf (call.siteContainer ∧ (call.installation.siteContainerRuntime = false ∨
      call.deploymentConfiguration ≠ some .siteContainer))
    "site-container installations require private runtime state"
  let run ← call.runCommands b.command 0 call.fixture.invocations
    (call.fixture.exitCodesFor role) {}
  -- every file is opened to be made private
  raiseIf (∃ file ∈ b.files, file.2.openable = false) "Permission denied"
  let outputArtifacts ← call.collectOutputs ids role run b.files
  let diagnosticArtifacts ← call.collectDiagnostics ids role run (call.verdict role run b.files).1
  let pairDigest ← call.fixture.digest ids.toFixtureIdentities
  (call.rawEvidence ids role snapshot pairDigest inputArtifacts deploymentArtifacts outputArtifacts
    diagnosticArtifacts run b).build ids

end QualificationCall

end EdaGym
