import EdaGym.Artifacts.Manifest
import EdaGym.Lib.FileTree
import EdaGym.Lib.Framing
import EdaGym.Lib.PatternMatch

/-!
# Scanning isolation surfaces for a marker

The collector reads every file of eight surfaces, and the plaintext of every stored artifact, looks
for the marker in what it reads and hashes all of it into one evidence digest.
-/

namespace EdaGym

open PatternMatch

/-! ### The runtime surface manifest -/

inductive IsolationSurface
  | participantWorkspace | toolProcess | edaProcess | verifier
  | console | journal | artifactStore | participantExport
deriving DecidableEq, Repr

def IsolationSurface.value : IsolationSurface → String
  | .participantWorkspace => "participant_workspace"
  | .toolProcess => "tool_process"
  | .edaProcess => "eda_process"
  | .verifier => "verifier"
  | .console => "console"
  | .journal => "journal"
  | .artifactStore => "artifact_store"
  | .participantExport => "participant_export"

def REQUIRED_ISOLATION_SURFACES : List IsolationSurface :=
  [.participantWorkspace, .toolProcess, .edaProcess, .verifier, .console, .journal,
    .artifactStore, .participantExport]

structure RuntimeSurfaceBinding where
  campaignDigest : Digest
  campaignScheduleDigest : Digest
  scheduledTrialDigest : Digest
  providerProfileDigest : Digest
  providerConfigDigest : Digest
  budgetBindingDigest : Digest
  taskReleaseDigest : Digest
  environmentSpecDigest : Digest
  sessionSpecDigest : Digest
  harnessDigest : Digest
  harnessSchemaDigest : Digest
  executorDigest : Digest
  exportPolicyDigest : Digest

def RuntimeSurfaceBinding.json (b : RuntimeSurfaceBinding) : CanonicalJson :=
  .obj [("budget_binding_digest", .str b.budgetBindingDigest),
    ("campaign_digest", .str b.campaignDigest),
    ("campaign_schedule_digest", .str b.campaignScheduleDigest),
    ("environment_spec_digest", .str b.environmentSpecDigest),
    ("executor_digest", .str b.executorDigest),
    ("export_policy_digest", .str b.exportPolicyDigest),
    ("harness_digest", .str b.harnessDigest),
    ("harness_schema_digest", .str b.harnessSchemaDigest),
    ("provider_config_digest", .str b.providerConfigDigest),
    ("provider_profile_digest", .str b.providerProfileDigest),
    ("scheduled_trial_digest", .str b.scheduledTrialDigest),
    ("session_spec_digest", .str b.sessionSpecDigest),
    ("task_release_digest", .str b.taskReleaseDigest)]

structure RuntimeSurfaceIdentity where
  surface : IsolationSurface
  identityDigest : Digest

def RuntimeSurfaceIdentity.json (i : RuntimeSurfaceIdentity) : CanonicalJson :=
  .obj [("identity_digest", .str i.identityDigest), ("surface", .str i.surface.value)]

structure RuntimeSurfaceManifest where
  preflightRunId : Digest
  preflightRecordDigest : Digest
  runBindingDigest : Digest
  binding : RuntimeSurfaceBinding
  executorReceiptDigest : Digest
  launcherReceiptDigest : Digest
  artifactClosureReceiptDigest : Digest
  artifactStoreIdentityDigest : Digest
  surfaces : List RuntimeSurfaceIdentity
  surfaces_complete :
    surfaces.map RuntimeSurfaceIdentity.surface = REQUIRED_ISOLATION_SURFACES := by rfl
  run_identity : preflightRunId = runBindingDigest := by rfl

def RuntimeSurfaceManifest.json (m : RuntimeSurfaceManifest) : CanonicalJson :=
  .obj [("artifact_closure_receipt_digest", .str m.artifactClosureReceiptDigest),
    ("artifact_store_identity_digest", .str m.artifactStoreIdentityDigest),
    ("binding", m.binding.json),
    ("executor_receipt_digest", .str m.executorReceiptDigest),
    ("launcher_receipt_digest", .str m.launcherReceiptDigest),
    ("preflight_record_digest", .str m.preflightRecordDigest),
    ("preflight_run_id", .str m.preflightRunId),
    ("run_binding_digest", .str m.runBindingDigest),
    ("schema_version", .nat 1),
    ("surfaces", .arr (m.surfaces.map RuntimeSurfaceIdentity.json))]

def RuntimeSurfaceManifest.digest [StoreCrypto] (m : RuntimeSurfaceManifest) : Digest :=
  canonicalDigest "runtime-surface-manifest-v1" (utf8 m.json.render)

/-! ### Sources -/

inductive CanaryError
  | exposure (message : String)
  | protocol (message : String)
  | value (message : String)
  | overflow (message : String)
  | store (e : StoreError)
deriving DecidableEq

/-- `_FileIdentity`. -/
structure FileIdentity where
  device : Nat
  inode : Nat
  mode : Nat
  links : Nat
  owner : Nat
  size : Nat
  modifiedNs : Nat
  changedNs : Nat

def FileIdentity.values (i : FileIdentity) : List Nat :=
  [i.device, i.inode, i.mode, i.links, i.owner, i.size, i.modifiedNs, i.changedNs]

/-- `stat.S_ISDIR`. -/
def isDirectoryMode (mode : Nat) : Bool := mode &&& 0o170000 = 0o040000

/-- A descriptor that was opened on a surface, with what stands below it. The surface does not
change during the collection. -/
structure OpenedSurface where
  surface : IsolationSurface
  identity : FileIdentity
  root : TreeNode String Bytes
  root_kind : isDirectoryMode identity.mode = true ↔ ∃ entries, root = .directory entries
  ordered : root.Ordered
  names_valid : ∀ x ∈ root.walk [], ∀ name ∈ x.1, IsPart name

structure IsolationSurfaceCollector where
  manifest : RuntimeSurfaceManifest
  canaryLaunchBindingDigest : Digest
  sources : List OpenedSurface
  artifactStore : ContentAddressedStore
  /-- The files of the store, without temporary ones. -/
  storeFiles : StoreFiles
  /-- Whether it is closed or was used before. -/
  unavailable : Bool := false
  sources_complete : sources.map OpenedSurface.surface = REQUIRED_ISOLATION_SURFACES

/-! ### What is hashed -/

/-- The state of a scan: the matcher, the evidence and the budget. -/
structure Scan where
  matched : Nat := 0
  evidence : Bytes
  entries : Nat := 0
  bytesRead : Nat := 0

def CHUNK_BYTES : Nat := 64 * 1024

def MAX_COLLECTED_BYTES : Nat := 4 * 1024 * 1024 * 1024

def MAX_COLLECTED_ENTRIES : Nat := 1000000

def toBytes8 (n : Nat) : Except CanaryError Bytes := do
  raiseIf (256 ^ 8 ≤ n) (.overflow "int too big to convert")
  pure (bigEndian 8 n)

def Scan.update (s : Scan) (content : Bytes) : Scan := { s with evidence := s.evidence ++ content }

/-- `_evidence_field`. -/
def evidenceField (content : Bytes) (s : Scan) : Except CanaryError Scan := do
  let size ← toBytes8 content.length
  pure ((s.update size).update content)

/-- `_identity_bytes`. -/
def identityBytes (i : FileIdentity) : Except CanaryError Bytes := do
  raiseIf (∃ n ∈ i.values, 256 ^ 8 ≤ n)
    (.protocol "isolation source identity is outside its domain")
  pure (i.values.flatMap (bigEndian 8))

section Crypto

variable [StoreCrypto]

/-- `_surface_identity`. -/
def surfaceIdentity (source : OpenedSurface) : Except CanaryError Digest := do
  let identity ← identityBytes source.identity
  pure (sha256 (utf8 "edagym" ++ [0] ++ utf8 "runtime-surface-descriptor-identity-v1" ++ [0] ++
    (frame (utf8 source.surface.value) ++ frame identity)))

def CANARY_ENVIRONMENT_NAME : String := "EDAGYM_SYNTHETIC_CANARY"

def MAXIMUM_MARKER_BYTES : Nat := 4096

/-- `marker.decode("ascii")`. -/
def decodeAscii (marker : Bytes) : Option String :=
  if marker.all (· < 128) then some (String.ofList (marker.map fun b => Char.ofNat b.toNat))
  else none

def syntheticPreflightCanaryBindingDigest (marker : Bytes) : Except CanaryError Digest := do
  raiseIf (marker = [] ∨ marker.length > MAXIMUM_MARKER_BYTES)
    (.value "synthetic preflight marker must be bounded non-empty bytes")
  let value ← orRaise (decodeAscii marker) (.value "synthetic preflight marker must be ASCII")
  pure (canonicalDigest "synthetic-preflight-canary-binding-v1" (utf8 (CanonicalJson.render
    (.obj [("environment_name", .str CANARY_ENVIRONMENT_NAME), ("marker", .str value)]))))

end Crypto

/-! ### Scanning -/

def Scan.addEntry (size : Nat) (s : Scan) : Except CanaryError Scan := do
  let s := { s with entries := s.entries + 1, bytesRead := s.bytesRead + size }
  raiseIf (s.entries > MAX_COLLECTED_ENTRIES) (.protocol "isolation surface entry limit exceeded")
  raiseIf (s.bytesRead > MAX_COLLECTED_BYTES) (.protocol "isolation surface byte limit exceeded")
  pure s

section Marker

variable (marker : Bytes)

def scanChunk (s : Scan) (chunk : Bytes) : Except CanaryError Scan := do
  let matched ← orRaise (feed marker (prefixTable marker) s.matched chunk)
    (.exposure "synthetic credential marker escaped isolation")
  pure ({ s with matched }.update chunk)

/-- `_scan_file`, and `_scan_artifact_reader`, which reads a stream in the same way. -/
def scanContent (content : Bytes) (s : Scan) : Except CanaryError Scan := do
  let s ← s.addEntry content.length
  let size ← toBytes8 content.length
  foldSteps (scanChunk marker) (s.update size) (chunksOf CHUNK_BYTES content)

/-- What `_scan_directory` does at one item below it. -/
def scanItem (s : Scan) : List String × TreeItem Bytes → Except CanaryError Scan
  | (relative, .directory) => do
    let s ← evidenceField (utf8 (asPosix relative)) s
    let s ← s.addEntry 0
    evidenceField (utf8 "directory") s
  | (relative, .file content) => do
    let s ← evidenceField (utf8 (asPosix relative)) s
    let s ← evidenceField (utf8 "file") s
    scanContent marker content s
  | (_, .special) => .error (.protocol "isolation sources must be files or directories")

/-- `_scan_opened_source`. -/
def scanOpenedSource (root : TreeNode String Bytes) (s : Scan) : Except CanaryError Scan :=
  match root with
  | .directory entries => foldSteps (scanItem marker) s (entries.walk [])
  | .file content => do
    let s ← evidenceField (utf8 "file") s
    scanContent marker content s
  | .special => .error (.protocol "isolation sources must be files or directories")

/-- `_blob_references_unlocked`. -/
def blobReferences (files : StoreFiles) : List BlobRef :=
  (sortedBy Prod.fst files.blobs.entries).map fun p => ⟨p.1, p.2.payload.length⟩

variable [StoreCrypto]

def scanArtifact (store : ContentAddressedStore) (files : StoreFiles) (s : Scan)
    (reference : BlobRef) : Except CanaryError Scan := do
  let content ← (store.verifiedPlaintext files reference reference.sizeBytes).mapError .store
  let s ← evidenceField (utf8 reference.digest) s
  scanContent marker content s

/-- `_scan_artifact_plaintext`. -/
def scanArtifactPlaintext (store : ContentAddressedStore) (files : StoreFiles) (s : Scan) :
    Except CanaryError Scan := do
  let s ← evidenceField (utf8 "verified-artifact-plaintext") s
  foldSteps (scanArtifact marker store files) s (blobReferences files)

def RuntimeSurfaceManifest.identityOf (m : RuntimeSurfaceManifest) (surface : IsolationSurface) :
    Option Digest :=
  (m.surfaces.find? fun i => i.surface = surface).map RuntimeSurfaceIdentity.identityDigest

/-- One turn of the loop of `_collect`; every source has a matcher of its own. -/
def collectSource (collector : IsolationSurfaceCollector) (s : Scan) (source : OpenedSurface) :
    Except CanaryError Scan := do
  let s ← evidenceField (utf8 source.surface.value) s
  let actual ← surfaceIdentity source
  raiseIf (collector.manifest.identityOf source.surface ≠ some actual)
    (.protocol "runtime surface identity differs from its manifest")
  let s ← evidenceField (utf8 actual) s
  let s ← scanOpenedSource marker source.root { s with matched := 0 }
  if source.surface = .artifactStore then
    scanArtifactPlaintext marker collector.artifactStore collector.storeFiles
      { s with matched := 0 }
  else pure s

def EVIDENCE_DOMAIN : Bytes :=
  utf8 "edagym" ++ [0] ++ utf8 "credential-isolation-collection-v2" ++ [0]

/-- `_collect`. -/
def collect (collector : IsolationSurfaceCollector) : Except CanaryError Digest := do
  raiseIf (collector.unavailable = true)
    (.protocol "isolation surface collector is no longer available")
  let binding ← syntheticPreflightCanaryBindingDigest marker
  raiseIf (binding ≠ collector.canaryLaunchBindingDigest)
    (.protocol "preflight launcher did not bind this canary challenge")
  let s ← evidenceField (utf8 collector.manifest.digest) { evidence := EVIDENCE_DOMAIN }
  let s ← foldSteps (collectSource marker collector) s collector.sources
  pure (sha256 s.evidence)

end Marker

end EdaGym
