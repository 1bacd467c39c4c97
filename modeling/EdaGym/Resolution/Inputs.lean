import EdaGym.Run.Model
import EdaGym.Specs.Session

/-!
# The authored inputs of a run

A task with the parts that only resolution reads (generator, qualification, visibility and
licensing of its resources), one instance of it, the release of that instance and a session with
its writer control. A path is the list of its parts: the field validators admit normalised relative
paths only.
-/

namespace EdaGym.Resolution

abbrev RelativePath := List String

/-! ### Task -/

inductive ParameterDomain
  | integer (parameterId : Identifier) (minimum maximum : Int) (step : Nat)
  | boolean (parameterId : Identifier)
  | choice (parameterId : Identifier) (choices : List String)
deriving DecidableEq, Repr

def ParameterDomain.parameterId : ParameterDomain → Identifier
  | integer parameterId _ _ _ => parameterId
  | boolean parameterId => parameterId
  | choice parameterId _ => parameterId

structure GeneratorSpec where
  implementationResource : Identifier
  implementationDigest : Digest
  seedBits : Nat := 64
  parameters : List ParameterDomain := []
  seedBits_valid : seedBits ∈ [32, 64, 128] := by decide
  parameters_sorted : (parameters.map ParameterDomain.parameterId).Pairwise (· < ·) := by decide

structure ResourceVisibility where
  resourceId : Identifier
  visibility : Visibility
  sensitivity : Sensitivity

structure ResourceLicense where
  resourceId : Identifier
  redistribution : Redistribution

structure QualificationSpec where
  sailOracleResource : Identifier
  knownAnswerResources : List Identifier
  referenceCandidateResource : Identifier
  mutantResources : List Identifier
  crossCheckResources : List Identifier := []
  requiredSimulators : Nat := 2
  requireFormal : Bool
  knownAnswers_ne_nil : knownAnswerResources ≠ [] := by decide
  mutants_nodup : mutantResources.Nodup := by decide
  mutants_bound : 3 ≤ mutantResources.length := by decide
  simulators_pos : 1 ≤ requiredSimulators := by decide

structure FlowQualificationSpec where
  authoringSourceResource : Identifier
  feasibilityWitnessResource : Identifier
  negativeCandidateResources : List Identifier
  negatives_nodup : negativeCandidateResources.Nodup := by decide
  negatives_ne_nil : negativeCandidateResources ≠ [] := by decide

inductive TaskQualificationSpec
  | sailRtl (spec : QualificationSpec)
  | edaFlow (spec : FlowQualificationSpec)

namespace TaskQualificationSpec

/-- The resources that no participant may see. -/
def hiddenResources : TaskQualificationSpec → List Identifier
  | sailRtl spec => spec.sailOracleResource :: spec.knownAnswerResources ++
      spec.referenceCandidateResource :: spec.mutantResources
  | edaFlow spec => spec.authoringSourceResource :: spec.feasibilityWitnessResource ::
      spec.negativeCandidateResources

def resources : TaskQualificationSpec → List Identifier
  | sailRtl spec => (sailRtl spec).hiddenResources ++ spec.crossCheckResources
  | edaFlow spec => (edaFlow spec).hiddenResources

end TaskQualificationSpec

structure TaskAuthoring where
  generator : GeneratorSpec
  publicBehaviorResource : Identifier
  supportingCapabilities : EvaluatorSpec → List Capability := fun _ => []
  visibility : List ResourceVisibility
  licensing : List ResourceLicense
  qualification : TaskQualificationSpec

namespace TaskAuthoring

variable (authoring : TaskAuthoring)

def visibilityOf (resourceId : Identifier) : Option ResourceVisibility :=
  authoring.visibility.find? fun item => item.resourceId = resourceId

def licenseOf (resourceId : Identifier) : Option ResourceLicense :=
  authoring.licensing.find? fun item => item.resourceId = resourceId

/-- Whether participants may see the resource. -/
def ParticipantVisible (resourceId : Identifier) : Prop :=
  ∃ item ∈ authoring.visibilityOf resourceId, item.visibility ∈ [.pub, .participant]

instance (resourceId : Identifier) : Decidable (authoring.ParticipantVisible resourceId) :=
  inferInstanceAs (Decidable (∃ item ∈ authoring.visibilityOf resourceId, _))

def referencedResources (task : TaskSpec) : List Identifier :=
  authoring.generator.implementationResource :: authoring.publicBehaviorResource ::
    task.evaluation.evaluators.map EvaluatorSpec.implementationResource ++
      (task.evaluation.scorer.map ScorerRef.implementationResource).toList ++
      authoring.qualification.resources

/-- A measurement names one resource of its task as its library, with that resource's digest, or
no library at all. -/
def LibraryBound (notApplicable : Digest) (task : TaskSpec) (measurement : MeasurementSpec) :
    Prop :=
  if measurement.libraryId = "not_applicable" then measurement.libraryDigest = notApplicable
  else ∃ resource ∈ task.resources, resource.resourceId = measurement.libraryId ∧
    resource.contentDigest = measurement.libraryDigest

instance (notApplicable : Digest) (task : TaskSpec) (measurement : MeasurementSpec) :
    Decidable (LibraryBound notApplicable task measurement) :=
  inferInstanceAs (Decidable (if measurement.libraryId = "not_applicable" then
      measurement.libraryDigest = notApplicable
    else ∃ resource ∈ task.resources, resource.resourceId = measurement.libraryId ∧
      resource.contentDigest = measurement.libraryDigest))

/-- The checks of the task validator on the parts that resolution reads. -/
def validate (notApplicable : Digest) (task : TaskSpec) : Except String Unit := do
  let resources := task.resources.map ResourceSpec.resourceId
  raiseIf (¬ (authoring.visibility.map ResourceVisibility.resourceId).Nodup ∨
      ¬ SameSet (authoring.visibility.map ResourceVisibility.resourceId) resources)
    "visibility must have exactly one entry per resource"
  raiseIf (¬ (authoring.licensing.map ResourceLicense.resourceId).Nodup ∨
      ¬ SameSet (authoring.licensing.map ResourceLicense.resourceId) resources)
    "licensing must have exactly one entry per resource"
  raiseIf (∃ item ∈ authoring.visibility, item.visibility = .pub ∧ item.sensitivity ≠ .pub)
    "public resources require public sensitivity"
  raiseIf (∃ item ∈ authoring.visibility, item.visibility = .pub ∧
      ∃ license ∈ authoring.licenseOf item.resourceId, license.redistribution ≠ .allowed)
    "public resources must allow redistribution"
  raiseIf (∃ item ∈ authoring.visibility, item.visibility = .participant ∧
      item.sensitivity = .secret)
    "participant resources cannot contain secrets"
  raiseIf (∃ id ∈ authoring.referencedResources task, id ∉ resources)
    "task references unknown resources"
  raiseIf (¬ authoring.ParticipantVisible authoring.publicBehaviorResource)
    "public behavior must be participant-visible"
  raiseIf (∃ id ∈ authoring.qualification.hiddenResources, authoring.ParticipantVisible id)
    "qualification resources cannot be participant-visible"
  raiseIf (∃ measurement ∈ task.measurements, ¬ LibraryBound notApplicable task measurement)
    "measurement library must bind one immutable task resource"

end TaskAuthoring

/-- A whole task. -/
structure AuthoredTask (notApplicable : Digest) extends TaskSpec where
  authoring : TaskAuthoring
  authored : authoring.validate notApplicable toTaskSpec = .ok ⟨⟩

/-! ### Instance and release -/

inductive ParameterValue
  | integer (parameterId : Identifier) (value : Int)
  | boolean (parameterId : Identifier) (value : Bool)
  | choice (parameterId : Identifier) (value : String)
deriving DecidableEq, Repr

def ParameterValue.parameterId : ParameterValue → Identifier
  | integer parameterId _ => parameterId
  | boolean parameterId _ => parameterId
  | choice parameterId _ => parameterId

structure TaskInstanceIdentity where
  taskFamily : Identifier
  authoringRevision : Nat
  taskSpecDigest : Digest
  generatorDigest : Digest
  seed : Seed128Hex
  parameters : List ParameterValue := []
  parameters_sorted : (parameters.map ParameterValue.parameterId).Pairwise (· < ·) := by decide

@[ext]
structure GeneratedFile where
  path : RelativePath
  contentDigest : Digest
  mediaType : MediaType
  sourceResourceIds : List Identifier := []
  visibility : Visibility
  sensitivity : Sensitivity
  redistribution : Redistribution
  public_policy : visibility = .pub → sensitivity = .pub ∧ redistribution = .allowed := by
    first | exact Visibility.participant_private _ _ | decide
  not_secret : sensitivity ≠ .secret := by
    first | exact Sensitivity.internal_ne_secret | decide

instance : DecidableEq GeneratedFile := fun _ _ => decidable_of_iff _ GeneratedFile.ext_iff.symm

structure TaskInstance where
  identity : TaskInstanceIdentity
  generatedFiles : List GeneratedFile
  /-- The canonical digest of the instance. -/
  digest : Digest
  paths_nodup : (generatedFiles.map GeneratedFile.path).Nodup := by decide
  files_ne_nil : generatedFiles ≠ [] := by decide

structure ReleaseQualification where
  knownAnswerEvidenceDigests : List Digest
  mutantResourceIds : List Identifier
  simulatorEvidenceDigests : List Digest
  formalEvidenceDigest : Option Digest := none
  knownAnswers_ne_nil : knownAnswerEvidenceDigests ≠ [] := by decide
  simulators_bound : 2 ≤ simulatorEvidenceDigests.length := by decide
  mutants_bound : 3 ≤ mutantResourceIds.length := by decide
  mutants_nodup : mutantResourceIds.Nodup := by decide

structure FlowReleaseQualification where
  witnessResourceId : Identifier
  negativeResourceIds : List Identifier
  negatives_nodup : negativeResourceIds.Nodup := by decide
  negatives_ne_nil : negativeResourceIds ≠ [] := by decide

inductive TaskReleaseQualification
  | sailRtl (qualification : ReleaseQualification)
  | edaFlowCandidate (authoringSourceDigest : Digest)
  | edaFlow (qualification : FlowReleaseQualification)

structure ReleaseManifest where
  taskSpecDigest : Digest
  taskInstanceDigest : Digest
  participantBundleDigest : Digest
  verifierBundleDigest : Digest
  environmentDigests : List Digest
  files : List GeneratedFile
  qualification : TaskReleaseQualification
  /-- The canonical digest of the manifest. -/
  digest : Digest
  environments_ne_nil : environmentDigests ≠ [] := by decide
  environments_nodup : environmentDigests.Nodup := by decide
  bundles_distinct : participantBundleDigest ≠ verifierBundleDigest := by decide
  paths_nodup : (files.map GeneratedFile.path).Nodup := by decide
  files_ne_nil : files ≠ [] := by decide

/-! ### Session -/

inductive CandidateAuthority
  | participant | taskAuthor
deriving DecidableEq, Repr

inductive WriterControl
  | fixed (writer : Identifier)
  | handoff (initialWriter : Identifier)
deriving DecidableEq, Repr

namespace WriterControl

def IsFixed : WriterControl → Prop
  | fixed _ => True
  | handoff _ => False

instance : DecidablePred IsFixed
  | fixed _ => isTrue trivial
  | handoff _ => isFalse id

def writer : WriterControl → Identifier
  | fixed writer => writer
  | handoff initialWriter => initialWriter

end WriterControl

def IsBenchmark : SessionMode → Prop
  | .benchmark _ => True
  | _ => False

instance : DecidablePred IsBenchmark
  | .benchmark _ => isTrue trivial
  | .training => isFalse id
  | .course _ _ => isFalse id

/-- A session with the control of its writer and the authority behind its candidates. -/
structure ControlledSession extends SessionSpec where
  writer : WriterControl
  candidateAuthority : CandidateAuthority := .participant
  authorCandidateDigest : Option Digest := none
  /-- The canonical digest of the session. -/
  digest : Digest
  author_iff : candidateAuthority = .taskAuthor ↔ authorCandidateDigest.isSome := by decide
  writer_declared : writer.writer ∈ actors.map ActorSpec.actorId := by decide
  fixed_iff : writer.IsFixed ↔ actors.length = 1 := by decide
  author_calibration : candidateAuthority = .taskAuthor →
    IsBenchmark mode ∧ ¬ ∃ actor ∈ actors, actor.IsHarness := by decide

end EdaGym.Resolution
