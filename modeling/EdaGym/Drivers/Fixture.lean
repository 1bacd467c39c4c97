import EdaGym.Lib.CanonicalJson
import EdaGym.Lib.Lines
import EdaGym.Specs.Common
import Mathlib.Data.List.Infix

/-!
# Qualification fixtures

A fixture is a pair of workloads for one capability of one backend: the acceptance role must be
accepted by its parser, and the rejection role must be rejected for a stated reason. Both run the
same invocations and declare the same outputs. Its snapshot for a role is the part of it that goes
into evidence.
-/

namespace EdaGym

/-- The two independent roles required to qualify one semantic joint. -/
inductive FixtureRole
  | acceptance | rejection
deriving DecidableEq, Repr

def FixtureRole.value : FixtureRole → String
  | .acceptance => "acceptance"
  | .rejection => "rejection"

/-- `FixtureRole`, iterated. -/
def FixtureRole.all : List FixtureRole := [.acceptance, .rejection]

/-- Semantic failures that a canonical parser may positively identify. -/
inductive SemanticRejectionReason
  | functionalMismatch | propertyCounterexample | equivalenceMismatch | ruleViolation
  | clockDomainCrossingViolation | resetDomainCrossingViolation | degenerateImplementation
  | missingRequiredStructure | timingPathMissing | timingConstraintViolation
  | activityCoverageIncomplete | powerGridViolation | analogValueOutOfRange
  | implementationConstraintViolation | incompleteScanChain | dftInvalidSetup
  | resourceCapacityExceeded | circuitConvergenceFailure | layoutSchematicMismatch
  | characterizationArcFailure
deriving DecidableEq, Repr

/-! ### Derived identities -/

def qualificationFixtureId (toolId : Identifier) (capability : Capability) : Identifier :=
  toolId ++ "_" ++ capability.value.map fun c => if c = '.' then '_' else c

def qualificationCaseId (toolId : Identifier) (capability : Capability) (role : FixtureRole) :
    Identifier :=
  qualificationFixtureId toolId capability ++ "_" ++ role.value

def qualificationArtifactId (fixtureId : Identifier) (localId : String) : Identifier :=
  fixtureId ++ "." ++ localId

lemma qualificationArtifactId_inj {fixtureId : Identifier} {a b : String} :
    qualificationArtifactId fixtureId a = qualificationArtifactId fixtureId b ↔ a = b := by
  simp [qualificationArtifactId]

/-- The two streams a command logs to. -/
inductive LogStream
  | stdout | stderr
deriving DecidableEq, Repr

def LogStream.value : LogStream → String
  | .stdout => "stdout"
  | .stderr => "stderr"

def LogStream.all : List LogStream := [.stdout, .stderr]

/-- The fixture-local name of what a command logs to a stream, or of its raw form. -/
def commandLog (index : Nat) (suffix : String) : String :=
  "command_" ++ toString index ++ "_" ++ suffix

lemma commandLog_inj {i j : Nat} {s t : String} :
    commandLog i s = commandLog j t ↔ i = j ∧ s = t := by
  constructor
  · intro h
    simp only [commandLog, String.append_assoc, String.append_right_inj, Nat.toString_eq_repr,
      Nat.repr_eq_ofList_toDigits] at h
    have hchars := congrArg String.toList h
    simp only [String.toList_append, String.toList_ofList] at hchars
    obtain ⟨hij, hst⟩ := CanonicalJson.digits_append_inj (by simp [CanonicalJson.Stops])
      (by simp [CanonicalJson.Stops]) hchars
    exact ⟨hij, String.toList_inj.mp (List.append_cancel_left hst)⟩
  · rintro ⟨rfl, rfl⟩
    rfl

/-- The names that the logs of the commands take. -/
def ReservedName (localId : String) : Prop :=
  ∃ i, ∃ stream : LogStream,
    localId = commandLog i stream.value ∨ localId = commandLog i (stream.value ++ "_raw")

/-! ### Workloads -/

/-- One trusted, built-in input materialized in a fresh workspace. -/
structure FixtureInput where
  logicalId : Identifier
  path : String
  content : Bytes
  mediaType : MediaType := "text/plain"

/-- One deployment-bound restricted asset copied into the private workspace. -/
structure FixtureAssetInput where
  logicalId : Identifier
  path : String
  assetId : Identifier
  mediaType : MediaType := "application/octet-stream"
deriving DecidableEq

/-- A file whose bytes are evidence produced by the workload. -/
structure FixtureOutput where
  logicalId : Identifier
  path : String
  required : Bool := true
  mediaType : MediaType := "application/octet-stream"
deriving DecidableEq

inductive FixtureInvocation
  /-- Invoke the exact executable resolved by the backend probe. -/
  | tool (arguments : List String)
  /-- Invoke a program generated by an earlier tool invocation. -/
  | workspace (executable : String) (arguments : List String)
deriving DecidableEq

/-- `isinstance(invocation, ToolInvocation)`. -/
def FixtureInvocation.isTool : FixtureInvocation → Bool
  | .tool _ => true
  | .workspace _ _ => false

/-- The program of a workspace invocation. -/
def FixtureInvocation.generated? : FixtureInvocation → Option String
  | .tool _ => none
  | .workspace executable _ => some executable

/-! ### Logs of which only markers are kept -/

/-- Retain exact public markers while discarding all surrounding diagnostics. -/
structure MarkerLogProjection where
  markers : List Bytes
  markers_ne_nil : markers ≠ [] := by decide
  markers_nodup : markers.Nodup := by decide
  markers_bounded : ∀ marker ∈ markers, marker ≠ [] ∧ marker.length ≤ 256 ∧ 10 ∉ marker := by
    decide

namespace MarkerLogProjection

variable (projection : MarkerLogProjection)

def overlap : Nat := (projection.markers.map List.length).foldl max 0 - 1

/-- One chunk: the markers found so far, and the end of what was read. -/
def feed (s : List Bool × Bytes) (chunk : Bytes) : List Bool × Bytes :=
  let window := s.2 ++ chunk
  (List.zipWith (fun found marker => found || decide (marker <:+: window)) s.1 projection.markers,
    window.drop (window.length - projection.overlap))

def project (chunks : List Bytes) : Bytes :=
  let found := (chunks.foldl projection.feed (projection.markers.map fun _ => false, [])).1
  (List.zip projection.markers found).flatMap fun entry =>
    if entry.2 then entry.1 ++ [10] else []

end MarkerLogProjection

/-! ### Observations and parsers -/

structure ObservedFile where
  path : String
  content : Bytes
  sizeBytes : Nat
  truncated : Bool

structure FixtureObservation where
  exitCodes : List Int
  stdout : List Bytes
  stderr : List Bytes
  files : List ObservedFile

/-- A parser judges an observation, or raises; `digest` is the digest of its identity. -/
structure FixtureParser where
  accepts : FixtureObservation → Except String Bool
  rejection : FixtureObservation → Except String (Option SemanticRejectionReason)
  digest : Digest

/-! ### Snapshots -/

/-- The value of a semantic joint. -/
abbrev SemanticJoint := String

structure FixtureInputSnapshot where
  logicalId : Identifier
  path : String
  digest : Digest
  sizeBytes : Nat
  mediaType : MediaType
deriving DecidableEq

inductive LogRetention
  | full | markerProjection
deriving DecidableEq, Repr

structure QualificationFixtureSnapshot where
  fixtureId : Identifier
  pairId : Identifier
  toolId : Identifier
  capability : Capability
  semanticClaimId : Identifier
  semanticJoints : List SemanticJoint
  role : FixtureRole
  rejectionReason : Option SemanticRejectionReason
  inputs : List FixtureInputSnapshot
  restrictedAssets : List FixtureAssetInput
  invocations : List FixtureInvocation
  expectedExitCodes : List Int
  outputs : List FixtureOutput
  logRetention : LogRetention
  retainedLogMarkerDigests : List Digest
  parserDigest : Digest
deriving DecidableEq

/-- The canonical digests and the release contracts that fixtures are identified by; the digest of
a partial claim is its hexadecimal part. -/
structure FixtureIdentities where
  digestBytes : Bytes → Digest
  partialClaimDigest : Capability → List SemanticJoint → Digest
  requiredJoints : Capability → List SemanticJoint
  comprehensiveClaimId : Capability → Identifier
  acceptanceDigest : QualificationFixtureSnapshot → Digest
  pairDigest : QualificationFixtureSnapshot → QualificationFixtureSnapshot → Digest

/-- Validate and canonicalize one fixture's explicitly claimed semantic joints. -/
def normalizeSemanticJoints (capability : Capability) (joints : List SemanticJoint) :
    Except String (List SemanticJoint) := do
  let normalized := sortedStrings joints
  raiseIf (¬ normalized.Nodup) "fixture semantic joints must be unique"
  raiseIf (∃ joint ∈ normalized, ¬ (capability.value ++ ".").toList <+: joint.toList)
    "fixture semantic joint belongs to a different capability"
  pure normalized

variable (ids : FixtureIdentities)

/-- Derive the only claim identity for an exact capability-joint set. -/
def claimIdForJoints (capability : Capability) (joints : List SemanticJoint) :
    Except String Identifier := do
  let normalized ← normalizeSemanticJoints capability joints
  if normalized = ids.requiredJoints capability then
    pure (ids.comprehensiveClaimId capability)
  else
    pure ("partial-" ++ ids.partialClaimDigest capability normalized)

/-- `claim_id` equals the canonical release contract of its capability. -/
def isComprehensiveClaim (capability : Capability) (claimId : Identifier)
    (joints : List SemanticJoint) : Except String Bool := do
  let normalized ← normalizeSemanticJoints capability joints
  if normalized = ids.requiredJoints capability ∧ claimId = ids.comprehensiveClaimId capability then
    let derived ← claimIdForJoints ids capability normalized
    pure (decide (derived = claimId))
  else
    pure false

/-- `set(xs) & set(ys)` is not empty. -/
def Overlap (xs ys : List String) : Prop := ∃ x ∈ xs, x ∈ ys

instance (xs ys : List String) : Decidable (Overlap xs ys) :=
  inferInstanceAs (Decidable (∃ x ∈ xs, x ∈ ys))

namespace QualificationFixtureSnapshot

variable (s : QualificationFixtureSnapshot)

def checkUniqueness : Except String Unit := do
  let inputIds := s.inputs.map (·.logicalId)
  let inputPaths := s.inputs.map (·.path)
  let assetIds := s.restrictedAssets.map (·.logicalId)
  let assetPaths := s.restrictedAssets.map (·.path)
  let outputIds := s.outputs.map (·.logicalId)
  let outputPaths := s.outputs.map (·.path)
  raiseIf (¬ inputIds.Nodup ∨ ¬ inputPaths.Nodup) "qualification snapshot inputs must be unique"
  raiseIf (¬ assetIds.Nodup ∨ ¬ assetPaths.Nodup)
    "qualification snapshot restricted assets must be unique"
  raiseIf (¬ outputIds.Nodup ∨ ¬ outputPaths.Nodup) "qualification snapshot outputs must be unique"
  raiseIf (Overlap inputIds (assetIds ++ outputIds) ∨ Overlap assetIds outputIds ∨
      Overlap inputPaths (assetPaths ++ outputPaths) ∨ Overlap assetPaths outputPaths)
    "qualification snapshot input and output identities cannot overlap"

def validateContract : Except String Unit := do
  let claimId ← claimIdForJoints ids s.capability s.semanticJoints
  raiseIf (s.semanticClaimId ≠ claimId) "qualification semantic claim is not canonical"
  raiseIf (s.pairId ≠ qualificationFixtureId s.toolId s.capability)
    "qualification pair identity must be derived from tool capability"
  raiseIf (s.fixtureId ≠ qualificationCaseId s.toolId s.capability s.role)
    "qualification case identity must include its evidence role"
  raiseIf (¬ (s.role = .rejection ↔ s.rejectionReason.isSome))
    "only rejection cases carry an expected semantic reason"
  raiseIf (s.inputs = [] ∨ s.invocations = [])
    "qualification fixture snapshots require inputs and invocations"
  raiseIf (s.expectedExitCodes.length ≠ s.invocations.length ∨
      (∃ code ∈ s.expectedExitCodes, code < 0 ∨ 255 < code) ∨
      (∃ code ∈ s.expectedExitCodes.dropLast, code ≠ 0) ∨
      (s.role = .acceptance ∧ ∃ code ∈ s.expectedExitCodes, code ≠ 0))
    "qualification exit codes must be role-bound completion statuses"
  s.checkUniqueness
  raiseIf (∃ program ∈ s.invocations.filterMap (·.generated?), program ∉ s.outputs.map (·.path))
    "generated fixture programs must be declared as snapshot outputs"
  raiseIf (¬ (s.logRetention = .markerProjection ↔ s.retainedLogMarkerDigests ≠ []))
    "marker-projected logs require exact retained marker identities"

/-- `QualificationFixtureSnapshot(...)`: the joints are sorted and the contract is checked. -/
def build : Except String QualificationFixtureSnapshot := do
  raiseIf (¬ s.semanticJoints.Nodup) "qualification semantic joints must be unique"
  let built := { s with semanticJoints := sortedStrings s.semanticJoints }
  built.validateContract ids
  pure built

end QualificationFixtureSnapshot

/-! ### Fixtures -/

structure QualificationFixture where
  toolId : Identifier
  capability : Capability
  inputs : List FixtureInput
  invocations : List FixtureInvocation
  outputs : List FixtureOutput
  parser : FixtureParser
  semanticJoints : List SemanticJoint := []
  restrictedAssets : List FixtureAssetInput := []
  rejectionInputs : List FixtureInput := []
  rejectionReason : Option SemanticRejectionReason := none
  rejectionExitCode : Int := 0
  logProjection : Option MarkerLogProjection := none

namespace QualificationFixture

variable (fixture : QualificationFixture)

def checkUniqueness : Except String Unit := do
  let inputIds := fixture.inputs.map (·.logicalId)
  let inputPaths := fixture.inputs.map (·.path)
  let outputIds := fixture.outputs.map (·.logicalId)
  let outputPaths := fixture.outputs.map (·.path)
  let assetIds := fixture.restrictedAssets.map (·.logicalId)
  let assetPaths := fixture.restrictedAssets.map (·.path)
  let boundAssetIds := fixture.restrictedAssets.map (·.assetId)
  raiseIf (¬ inputIds.Nodup ∨ ¬ inputPaths.Nodup) "qualification fixture inputs must be unique"
  raiseIf (¬ outputIds.Nodup ∨ ¬ outputPaths.Nodup) "qualification fixture outputs must be unique"
  raiseIf (¬ assetIds.Nodup ∨ ¬ assetPaths.Nodup ∨ ¬ boundAssetIds.Nodup)
    "qualification fixture restricted assets must be unique"
  raiseIf (Overlap inputIds (assetIds ++ outputIds) ∨ Overlap assetIds outputIds ∨
      Overlap inputPaths (assetPaths ++ outputPaths) ∨ Overlap assetPaths outputPaths)
    "qualification inputs and outputs must be disjoint"

/-- What the two roles' inputs share. -/
def inputShape (inputs : List FixtureInput) : List (Identifier × String × MediaType) :=
  inputs.map fun item => (item.logicalId, item.path, item.mediaType)

/-- `__post_init__`. -/
def check : Except String Unit := do
  let normalized ← normalizeSemanticJoints fixture.capability fixture.semanticJoints
  raiseIf (normalized ≠ fixture.semanticJoints)
    "qualification semantic joints must use canonical order"
  raiseIf (fixture.inputs = [] ∨ fixture.invocations = [])
    "qualification fixtures require inputs and invocations"
  fixture.checkUniqueness
  raiseIf (¬ (fixture.rejectionInputs ≠ [] ↔ fixture.rejectionReason.isSome))
    "qualification rejection requires inputs and a typed reason"
  raiseIf (fixture.rejectionExitCode < 0 ∨ 255 < fixture.rejectionExitCode ∨
      (fixture.rejectionInputs = [] ∧ fixture.rejectionExitCode ≠ 0))
    "semantic rejection exit code requires a paired fixture"
  raiseIf (fixture.rejectionInputs ≠ [] ∧
      inputShape fixture.rejectionInputs ≠ inputShape fixture.inputs)
    "qualification pair must use one input topology"
  raiseIf (fixture.rejectionInputs ≠ [] ∧
      fixture.rejectionInputs.map (·.content) = fixture.inputs.map (·.content))
    "qualification rejection must change trusted input content"
  raiseIf (∃ program ∈ fixture.invocations.filterMap (·.generated?),
      program ∉ fixture.outputs.map (·.path))
    "generated fixture programs must be declared as evidence outputs"

def fixtureId : Identifier := qualificationFixtureId fixture.toolId fixture.capability

def caseId (role : FixtureRole) : Identifier :=
  qualificationCaseId fixture.toolId fixture.capability role

def inputsFor : FixtureRole → Except String (List FixtureInput)
  | .acceptance => .ok fixture.inputs
  | .rejection =>
    if fixture.rejectionInputs = [] then .error "qualification fixture has no rejection workload"
    else .ok fixture.rejectionInputs

def exitCodesFor (role : FixtureRole) : List Int :=
  List.replicate (fixture.invocations.length - 1) 0 ++
    [if role = .rejection then fixture.rejectionExitCode else 0]

def inputSnapshots (role : FixtureRole) (inputs : List FixtureInput) : List FixtureInputSnapshot :=
  inputs.map fun item =>
    { logicalId := qualificationArtifactId (fixture.caseId role) item.logicalId
      path := item.path
      digest := ids.digestBytes item.content
      sizeBytes := item.content.length
      mediaType := item.mediaType }

def assetSnapshots (role : FixtureRole) : List FixtureAssetInput :=
  fixture.restrictedAssets.map fun item =>
    { item with logicalId := qualificationArtifactId (fixture.caseId role) item.logicalId }

def outputSnapshots (role : FixtureRole) : List FixtureOutput :=
  fixture.outputs.map fun item =>
    { item with logicalId := qualificationArtifactId (fixture.caseId role) item.logicalId }

/-- The fields of the snapshot, before its own checks. -/
def rawSnapshot (role : FixtureRole) (inputs : List FixtureInput) (claimId : Identifier) :
    QualificationFixtureSnapshot where
  fixtureId := fixture.caseId role
  pairId := fixture.fixtureId
  toolId := fixture.toolId
  capability := fixture.capability
  semanticClaimId := claimId
  semanticJoints := fixture.semanticJoints
  role := role
  rejectionReason := if role = .rejection then fixture.rejectionReason else none
  inputs := fixture.inputSnapshots ids role inputs
  restrictedAssets := fixture.assetSnapshots role
  invocations := fixture.invocations
  expectedExitCodes := fixture.exitCodesFor role
  outputs := fixture.outputSnapshots role
  logRetention := if fixture.logProjection.isSome then .markerProjection else .full
  retainedLogMarkerDigests :=
    match fixture.logProjection with
    | some projection => projection.markers.map ids.digestBytes
    | none => []
  parserDigest := fixture.parser.digest

def snapshotFor (role : FixtureRole) : Except String QualificationFixtureSnapshot := do
  let inputs ← fixture.inputsFor role
  let claimId ← claimIdForJoints ids fixture.capability fixture.semanticJoints
  (fixture.rawSnapshot ids role inputs claimId).build ids

def digest : Except String Digest := do
  let acceptance ← fixture.snapshotFor ids .acceptance
  if fixture.rejectionInputs = [] then
    pure (ids.acceptanceDigest acceptance)
  else
    let rejection ← fixture.snapshotFor ids .rejection
    pure (ids.pairDigest acceptance rejection)

/-- The names a fixture gives to its files. -/
def localIds : List String :=
  fixture.inputs.map (·.logicalId) ++ fixture.restrictedAssets.map (·.logicalId) ++
    fixture.outputs.map (·.logicalId)

/-- What holds of every fixture of the catalog: it was built, it is a pair, and it takes no name
of a log for a file of its own. -/
structure Canonical : Prop where
  checked : fixture.check = .ok ⟨⟩
  paired : fixture.rejectionInputs ≠ []
  unreserved : ∀ localId ∈ fixture.localIds, ¬ ReservedName localId

end QualificationFixture

/-! ### The snapshots of a canonical fixture -/

lemma normalizeSemanticJoints_eq_ok {capability : Capability} {joints normalized : List String} :
    normalizeSemanticJoints capability joints = .ok normalized ↔
      (sortedStrings joints).Nodup ∧
        (∀ joint ∈ sortedStrings joints, (capability.value ++ ".").toList <+: joint.toList) ∧
          sortedStrings joints = normalized := by
  simp only [normalizeSemanticJoints, raiseIf_bind_eq_ok, pure_eq_ok, not_not, not_exists, not_and]

lemma overlap_map {f : String → String} (hf : ∀ a b, f a = f b → a = b) {xs ys : List String} :
    Overlap (xs.map f) (ys.map f) ↔ Overlap xs ys := by
  constructor
  · rintro ⟨_, hx, hy⟩
    obtain ⟨a, ha, rfl⟩ := List.mem_map.mp hx
    obtain ⟨b, hb, hab⟩ := List.mem_map.mp hy
    exact ⟨a, ha, hf b a hab ▸ hb⟩
  · rintro ⟨a, hx, hy⟩
    exact ⟨f a, List.mem_map_of_mem hx, List.mem_map_of_mem hy⟩

namespace QualificationFixture

variable {ids : FixtureIdentities} {fixture : QualificationFixture}

/-- What `__post_init__` checks. -/
structure Checked (fixture : QualificationFixture) : Prop where
  joints : normalizeSemanticJoints fixture.capability fixture.semanticJoints =
    .ok fixture.semanticJoints
  inputs_ne_nil : fixture.inputs ≠ []
  invocations_ne_nil : fixture.invocations ≠ []
  inputIds_nodup : (fixture.inputs.map (·.logicalId)).Nodup
  inputPaths_nodup : (fixture.inputs.map (·.path)).Nodup
  outputIds_nodup : (fixture.outputs.map (·.logicalId)).Nodup
  outputPaths_nodup : (fixture.outputs.map (·.path)).Nodup
  assetIds_nodup : (fixture.restrictedAssets.map (·.logicalId)).Nodup
  assetPaths_nodup : (fixture.restrictedAssets.map (·.path)).Nodup
  ids_disjoint : ¬ Overlap (fixture.inputs.map (·.logicalId))
    (fixture.restrictedAssets.map (·.logicalId) ++ fixture.outputs.map (·.logicalId))
  assets_disjoint : ¬ Overlap (fixture.restrictedAssets.map (·.logicalId))
    (fixture.outputs.map (·.logicalId))
  paths_disjoint : ¬ Overlap (fixture.inputs.map (·.path))
    (fixture.restrictedAssets.map (·.path) ++ fixture.outputs.map (·.path))
  assetPaths_disjoint : ¬ Overlap (fixture.restrictedAssets.map (·.path))
    (fixture.outputs.map (·.path))
  reason_iff : fixture.rejectionInputs ≠ [] ↔ fixture.rejectionReason.isSome
  exitCode_nonneg : 0 ≤ fixture.rejectionExitCode
  exitCode_le : fixture.rejectionExitCode ≤ 255
  shape : fixture.rejectionInputs ≠ [] →
    inputShape fixture.rejectionInputs = inputShape fixture.inputs
  generated : ∀ program ∈ fixture.invocations.filterMap (·.generated?),
    program ∈ fixture.outputs.map (·.path)

lemma Canonical.facts (h : fixture.Canonical) : fixture.Checked := by
  have hcheck := h.checked
  simp only [check, checkUniqueness, bind_eq_ok, raiseIf_eq_ok, exists_const, not_or, not_not,
    not_and, not_exists, ne_eq] at hcheck
  obtain ⟨_, hjoints, rfl, ⟨hinputs, hinvocations⟩, ⟨⟨hids, hpaths⟩, ⟨houtIds, houtPaths⟩,
    ⟨hassetIds, hassetPaths, -⟩, hdisjoint, hassets, hpathsDisjoint, hassetPathsDisjoint⟩,
    hreason, ⟨hnonneg, hle, -⟩, hshape, -, hgenerated⟩ := hcheck
  exact ⟨hjoints, hinputs, hinvocations, hids, hpaths, houtIds, houtPaths, hassetIds, hassetPaths,
    hdisjoint, hassets, hpathsDisjoint, hassetPathsDisjoint, hreason, by omega, by omega, hshape,
    hgenerated⟩

lemma Canonical.inputsFor (h : fixture.Canonical) (role : FixtureRole) :
    ∃ inputs, fixture.inputsFor role = .ok inputs ∧
      inputShape inputs = inputShape fixture.inputs := by
  cases role with
  | acceptance => exact ⟨_, rfl, rfl⟩
  | rejection => exact ⟨_, if_neg h.paired, h.facts.shape h.paired⟩

lemma Canonical.claimId (h : fixture.Canonical) (ids : FixtureIdentities) :
    ∃ claimId, claimIdForJoints ids fixture.capability fixture.semanticJoints = .ok claimId := by
  by_cases hrequired : fixture.semanticJoints = ids.requiredJoints fixture.capability
  · exact ⟨_, by rw [claimIdForJoints, h.facts.joints, ok_bind, if_pos hrequired]; rfl⟩
  · exact ⟨_, by rw [claimIdForJoints, h.facts.joints, ok_bind, if_neg hrequired]; rfl⟩

lemma map_logicalId_of_shape {inputs inputs' : List FixtureInput}
    (h : inputShape inputs = inputShape inputs') :
    inputs.map (·.logicalId) = inputs'.map (·.logicalId) := by
  simpa [inputShape, Function.comp_def] using congrArg (List.map Prod.fst) h

lemma map_path_of_shape {inputs inputs' : List FixtureInput}
    (h : inputShape inputs = inputShape inputs') :
    inputs.map (·.path) = inputs'.map (·.path) := by
  simpa [inputShape, Function.comp_def] using congrArg (List.map fun item => item.2.1) h

lemma exitCodesFor_length (h : fixture.invocations ≠ []) (role : FixtureRole) :
    (fixture.exitCodesFor role).length = fixture.invocations.length := by
  have hpos := List.length_pos_iff.mpr h
  simp only [exitCodesFor, List.length_append, List.length_replicate, List.length_singleton]
  omega

lemma mem_exitCodesFor {role : FixtureRole} {code : Int} (h : code ∈ fixture.exitCodesFor role) :
    code = 0 ∨ code = fixture.rejectionExitCode := by
  rcases List.mem_append.mp h with h | h
  · exact Or.inl (List.eq_of_mem_replicate h)
  · rw [List.mem_singleton] at h
    split_ifs at h
    · exact Or.inr h
    · exact Or.inl h

lemma Canonical.checkUniqueness_rawSnapshot (h : fixture.Canonical) {role : FixtureRole}
    {inputs : List FixtureInput} (hshape : inputShape inputs = inputShape fixture.inputs)
    (claimId : Identifier) :
    (fixture.rawSnapshot ids role inputs claimId).checkUniqueness = .ok ⟨⟩ := by
  have hinj : ∀ a b, qualificationArtifactId (fixture.caseId role) a =
      qualificationArtifactId (fixture.caseId role) b → a = b :=
    fun a b => qualificationArtifactId_inj.mp
  have hids : (fixture.inputSnapshots ids role inputs).map (·.logicalId) =
      (fixture.inputs.map (·.logicalId)).map (qualificationArtifactId (fixture.caseId role)) := by
    rw [← map_logicalId_of_shape hshape, inputSnapshots, List.map_map, List.map_map]
    rfl
  have hpaths : (fixture.inputSnapshots ids role inputs).map (·.path) =
      fixture.inputs.map (·.path) := by
    rw [← map_path_of_shape hshape, inputSnapshots, List.map_map]
    rfl
  have hassets : (fixture.assetSnapshots role).map (·.logicalId) =
      (fixture.restrictedAssets.map (·.logicalId)).map
        (qualificationArtifactId (fixture.caseId role)) := by
    rw [assetSnapshots, List.map_map, List.map_map]
    rfl
  have hassetPaths : (fixture.assetSnapshots role).map (·.path) =
      fixture.restrictedAssets.map (·.path) := by
    rw [assetSnapshots, List.map_map]
    rfl
  have houtputs : (fixture.outputSnapshots role).map (·.logicalId) =
      (fixture.outputs.map (·.logicalId)).map
        (qualificationArtifactId (fixture.caseId role)) := by
    rw [outputSnapshots, List.map_map, List.map_map]
    rfl
  have houtputPaths : (fixture.outputSnapshots role).map (·.path) =
      fixture.outputs.map (·.path) := by
    rw [outputSnapshots, List.map_map]
    rfl
  have hfacts := h.facts
  simp only [QualificationFixtureSnapshot.checkUniqueness, rawSnapshot, raiseIf_bind_eq_ok,
    raiseIf_eq_ok, hids, hpaths, hassets, hassetPaths, houtputs, houtputPaths, ← List.map_append,
    overlap_map hinj, not_or, not_not]
  exact ⟨⟨hfacts.inputIds_nodup.map hinj, hfacts.inputPaths_nodup⟩,
    ⟨hfacts.assetIds_nodup.map hinj, hfacts.assetPaths_nodup⟩,
    ⟨hfacts.outputIds_nodup.map hinj, hfacts.outputPaths_nodup⟩,
    hfacts.ids_disjoint, hfacts.assets_disjoint, by
      simpa only [List.map_append] using hfacts.paths_disjoint, hfacts.assetPaths_disjoint⟩

/-- The snapshot of a canonical fixture passes its own checks, for either role. -/
theorem Canonical.snapshotFor (h : fixture.Canonical) (ids : FixtureIdentities)
    (role : FixtureRole) :
    ∃ inputs claimId, fixture.inputsFor role = .ok inputs ∧
      inputShape inputs = inputShape fixture.inputs ∧
        claimIdForJoints ids fixture.capability fixture.semanticJoints = .ok claimId ∧
          fixture.snapshotFor ids role = .ok (fixture.rawSnapshot ids role inputs claimId) := by
  obtain ⟨inputs, hinputs, hshape⟩ := h.inputsFor role
  obtain ⟨claimId, hclaim⟩ := h.claimId ids
  have hfacts := h.facts
  obtain ⟨hnodup, -, hsorted⟩ := normalizeSemanticJoints_eq_ok.mp hfacts.joints
  rw [hsorted] at hnodup
  have hreason : role = .rejection ↔
      (fixture.rawSnapshot ids role inputs claimId).rejectionReason.isSome := by
    cases role with
    | acceptance => simp [rawSnapshot]
    | rejection => simpa [rawSnapshot] using hfacts.reason_iff.mp h.paired
  have hne : (fixture.rawSnapshot ids role inputs claimId).inputs ≠ [] := by
    intro hnil
    have hmap := congrArg List.length hshape
    rw [inputShape, inputShape, List.length_map, List.length_map,
      List.eq_nil_of_map_eq_nil hnil] at hmap
    exact hfacts.inputs_ne_nil (List.length_eq_zero_iff.mp hmap.symm)
  have hvalid : (fixture.rawSnapshot ids role inputs claimId).validateContract ids = .ok ⟨⟩ := by
    have hlength := exitCodesFor_length hfacts.invocations_ne_nil role
    have hnonneg := hfacts.exitCode_nonneg
    have hle := hfacts.exitCode_le
    simp only [QualificationFixtureSnapshot.validateContract, bind_eq_ok, raiseIf_eq_ok,
      exists_const]
    refine ⟨claimId, hclaim, not_not.mpr rfl, not_not.mpr rfl, not_not.mpr rfl,
      not_not.mpr hreason, not_or.mpr ⟨hne, hfacts.invocations_ne_nil⟩, ?_,
      ⟨⟩, h.checkUniqueness_rawSnapshot hshape claimId, ?_, ?_⟩
    · simp only [rawSnapshot, not_or, not_not, not_exists, not_and]
      refine ⟨hlength, ?_, ?_, ?_⟩
      · intro code hcode
        rcases mem_exitCodesFor hcode with rfl | rfl <;> omega
      · intro code hcode
        rw [exitCodesFor, List.dropLast_concat] at hcode
        exact List.eq_of_mem_replicate hcode
      · rintro rfl code hcode
        rcases List.mem_append.mp hcode with hcode | hcode
        · exact List.eq_of_mem_replicate hcode
        · exact List.mem_singleton.mp hcode
    · simp only [rawSnapshot, outputSnapshots, List.map_map, not_exists, not_and, not_not]
      exact hfacts.generated
    · cases hprojection : fixture.logProjection with
      | none => simp [rawSnapshot, hprojection]
      | some projection => simp [rawSnapshot, hprojection, projection.markers_ne_nil]
  have hbuilt : { fixture.rawSnapshot ids role inputs claimId with
      semanticJoints := sortedStrings fixture.semanticJoints } =
        fixture.rawSnapshot ids role inputs claimId := by
    rw [hsorted]
    rfl
  refine ⟨inputs, claimId, hinputs, hshape, hclaim, ?_⟩
  rw [QualificationFixture.snapshotFor, hinputs, ok_bind, hclaim, ok_bind,
    QualificationFixtureSnapshot.build]
  simp only [raiseIf_bind_eq_ok]
  refine ⟨not_not.mpr hnodup, ?_⟩
  show ((QualificationFixtureSnapshot.validateContract ids
      { fixture.rawSnapshot ids role inputs claimId with
        semanticJoints := sortedStrings fixture.semanticJoints }) >>= fun _ =>
      Except.ok { fixture.rawSnapshot ids role inputs claimId with
        semanticJoints := sortedStrings fixture.semanticJoints }) = _
  rw [hbuilt, hvalid, ok_bind]

end QualificationFixture

end EdaGym
