import EdaGym.Evaluation.Topology
import EdaGym.Resolution.Environment

/-!
# Run resolution

Fail-closed composition of task, instance, release, environment and session into one run binding.
-/

namespace EdaGym.Resolution

inductive ResolveError
  | resolution (message : String)
  | valueError (message : String)
  | keyError (key : String)
deriving DecidableEq, Repr

structure StageDriverAssignment where
  stageId : Identifier
  evaluatorId : Identifier
  capability : Capability
  toolId : Identifier
  driverId : Identifier
  driverDigest : Digest
deriving DecidableEq

/-- A derived execution view of the binding. -/
structure ResolvedRunPlan where
  binding : RunBinding
  stageDrivers : List StageDriverAssignment
deriving DecidableEq

def hexDigit (c : Char) : Nat :=
  if c.isDigit then c.toNat - '0'.toNat else c.toNat - 'a'.toNat + 10

def seedValue (seed : Seed128Hex) : Nat :=
  seed.toList.foldl (fun value c => 16 * value + hexDigit c) 0

def sensitivityRank : Sensitivity → Nat
  | .pub => 0
  | .internal => 1
  | .confidential => 2
  | .secret => 3

section Environment

variable (environment : EnvironmentSpec)

def toolFor (capability : Capability) : Option ToolBinding :=
  environment.toolBindings.find? fun tool => tool.capability = capability

def resolvedTool (tool : ToolBinding) : ResolvedToolBinding where
  capability := tool.capability
  toolId := tool.toolId
  toolVersion := tool.toolVersion
  driverDigest := tool.driverDigest
  deploymentAttestationDigest := tool.locator.deploymentAttestationDigest

def resolvedAssets : List ResolvedAssetBinding :=
  sortedBy ResolvedAssetBinding.assetId
    (environment.assets.map fun asset => ⟨asset.assetId, asset.restrictedDigest⟩)

def resolvedOperations : List ResolvedParticipantOperationBinding :=
  environment.participantOperations.map fun operation =>
    ⟨operation.operationId, operation.digest, operation.capability, operation.toolId⟩

end Environment

def runActor : ActorSpec → RunActor
  | .human actorId _ adapterDigest => .human actorId adapterDigest
  | .harness actorId _ harnessDigest scaffoldDigest requestedModelRoute =>
    .harness actorId harnessDigest scaffoldDigest requestedModelRoute

section Tools

variable {environment : EnvironmentSpec}

lemma toolFor_eq_some {capability : Capability} {tool : ToolBinding}
    (h : toolFor environment capability = some tool) :
    tool ∈ environment.toolBindings ∧ tool.capability = capability :=
  ⟨List.mem_of_find?_eq_some h, by simpa using List.find?_some h⟩

lemma mem_resolvedAssets {resolved : ResolvedAssetBinding} :
    resolved ∈ resolvedAssets environment ↔ ∃ asset ∈ environment.assets,
      ⟨asset.assetId, asset.restrictedDigest⟩ = resolved := by
  simp [resolvedAssets]

end Tools

variable [ResolutionDigests]

/-- The tasks resolution accepts. -/
abbrev Task := AuthoredTask ResolutionDigests.notApplicableLibrary

section Validators

variable (task : Task) (inst : TaskInstance) (release : ReleaseManifest)
  (environment : EnvironmentSpec) (session : ControlledSession)

def checkParameter (_ : Unit) (domain : ParameterDomain) : Except ResolveError Unit :=
  match domain, inst.identity.parameters.find? (·.parameterId = domain.parameterId) with
  | .integer _ minimum maximum step, some (.integer _ value) => do
    raiseIf (¬ (minimum ≤ value ∧ value ≤ maximum))
      (.resolution "integer parameter lies outside its declared domain")
    raiseIf ((value - minimum) % (step : Int) ≠ 0)
      (.resolution "integer parameter is not on its declared step")
  | .integer .., _ => .error (.resolution "integer parameter has a non-integer binding")
  | .boolean _, some (.boolean _ _) => .ok ⟨⟩
  | .boolean _, _ => .error (.resolution "boolean parameter has a non-boolean binding")
  | .choice _ choices, some (.choice _ value) =>
    raiseIf (value ∉ choices) (.resolution "choice parameter lies outside its declared domain")
  | .choice .., _ => .error (.resolution "choice parameter lies outside its declared domain")

def validateInstance : Except ResolveError Unit := do
  let identity := inst.identity
  let generator := task.authoring.generator
  raiseIf (identity.taskFamily ≠ task.identity.family ∨
      identity.authoringRevision ≠ task.identity.authoringRevision ∨
      identity.taskSpecDigest ≠ task.digest ∨
      identity.generatorDigest ≠ generator.implementationDigest)
    (.resolution "task instance identity does not match its TaskSpec")
  raiseIf (2 ^ generator.seedBits ≤ seedValue identity.seed)
    (.resolution "task instance seed exceeds the generator seed domain")
  raiseIf (¬ SameSet (identity.parameters.map ParameterValue.parameterId)
      (generator.parameters.map ParameterDomain.parameterId))
    (.resolution "task instance must bind every generator parameter exactly once")
  foldSteps (checkParameter inst) ⟨⟩ generator.parameters

def validateQualification : Except ResolveError Unit :=
  match task.authoring.qualification, release.qualification with
  | .sailRtl spec, .sailRtl qualification => do
    raiseIf (¬ SameSet qualification.mutantResourceIds spec.mutantResources)
      (.resolution "release qualification does not cover every declared mutant")
    raiseIf (qualification.simulatorEvidenceDigests.length < spec.requiredSimulators)
      (.resolution "release qualification lacks the required simulator evidence")
    raiseIf (spec.requireFormal = true ∧ qualification.formalEvidenceDigest = none)
      (.resolution "release qualification lacks required formal evidence")
  | .sailRtl _, _ => .error (.resolution "Sail tasks require Sail release qualification")
  | .edaFlow spec, .edaFlowCandidate authoringSourceDigest => do
    let resource ← orRaise (task.resources.find? (·.resourceId = spec.authoringSourceResource))
      (.keyError spec.authoringSourceResource)
    raiseIf (authoringSourceDigest ≠ resource.contentDigest)
      (.resolution "flow release candidate has a stale authoring source")
  | .edaFlow spec, .edaFlow qualification =>
    raiseIf (¬ SameSet qualification.negativeResourceIds spec.negativeCandidateResources ∨
        qualification.witnessResourceId ≠ spec.feasibilityWitnessResource)
      (.resolution "flow release qualification does not cover its witness and negatives")
  | .edaFlow _, .sailRtl _ =>
    .error (.resolution "flow tasks require flow release qualification")

def checkSource (generated : GeneratedFile) (_ : Unit) (sourceId : Identifier) :
    Except ResolveError Unit := do
  let source ← orRaise (task.authoring.visibilityOf sourceId) (.keyError sourceId)
  let license ← orRaise (task.authoring.licenseOf sourceId) (.keyError sourceId)
  raiseIf (source.visibility ∉ generated.visibility.mayReference)
    (.resolution "generated file weakens source visibility")
  raiseIf (sensitivityRank generated.sensitivity < sensitivityRank source.sensitivity)
    (.resolution "generated file weakens source sensitivity")
  raiseIf (generated.redistribution = .allowed ∧ license.redistribution ≠ .allowed)
    (.resolution "generated file weakens source redistribution policy")

def checkGenerated (_ : Unit) (generated : GeneratedFile) : Except ResolveError Unit := do
  raiseIf (∃ id ∈ generated.sourceResourceIds, id ∉ task.resources.map ResourceSpec.resourceId)
    (.resolution "generated file references an unknown authoring resource")
  foldSteps (checkSource task generated) ⟨⟩ generated.sourceResourceIds

def validateRelease : Except ResolveError Unit := do
  raiseIf (release.taskSpecDigest ≠ task.digest ∨ release.taskInstanceDigest ≠ inst.digest)
    (.resolution "release does not bind the supplied task and instance")
  raiseIf (environment.digest ∉ release.environmentDigests)
    (.resolution "release was not qualified for the supplied environment")
  raiseIf (release.files ≠ inst.generatedFiles)
    (.resolution "release files diverge from the generated task instance")
  validateQualification task release
  foldSteps (checkGenerated task) ⟨⟩ release.files

def validateSessionEnvironment : Except ResolveError Unit := do
  raiseIf (session.recovery = .required ∧ environment.checkpoint = .none)
    (.resolution "required recovery needs a checkpoint-capable environment")
  raiseIf (environment.artifactPolicy.quotaBytes < session.resources.maxArtifactBytes)
    (.resolution "session artifact budget exceeds the environment quota")

def validateCandidateExecution (campaign : Option CampaignTrialRunBinding) :
    Except ResolveError Unit := do
  raiseIf (campaign.isSome ∧ session.candidateAuthority ≠ .participant)
    (.resolution "campaign runs cannot claim task-author candidate authority")
  raiseIf (session.candidateAuthority = .participant ∧
      ¬ executorIsParticipantIsolation environment.executor)
    (.resolution "participant candidates require a rootless or virtual-machine executor")

/-- The paths of the release that participants see. -/
def visiblePaths : List RelativePath :=
  (release.files.filter fun file => file.visibility ∈ [.pub, .participant]).map
    GeneratedFile.path

def checkOperationPaths (_ : Unit) (operation : ParticipantOperationBinding) :
    Except ResolveError Unit := do
  raiseIf (∃ path ∈ operation.candidateInputPaths, path ∉ visiblePaths release)
    (.resolution "participant operation inputs must be participant-visible release files")
  raiseIf (∃ output ∈ operation.outputPaths, ∃ visible ∈ visiblePaths release,
      output <+: visible ∨ visible <+: output)
    (.resolution "participant operation outputs cannot overwrite release files")

def validateParticipantOperations : Except ResolveError Unit :=
  foldSteps (checkOperationPaths release) ⟨⟩ environment.participantOperations

end Validators

section Bindings

variable (task : Task) (inst : TaskInstance) (release : ReleaseManifest)
  (environment : EnvironmentSpec) (session : ControlledSession)

def requiredCapabilities : List Capability :=
  (task.evaluation.evaluators.flatMap fun evaluator =>
    evaluator.capability :: task.authoring.supportingCapabilities evaluator) ++
    environment.participantOperations.map ParticipantOperationBinding.capability

def missingCapabilities : List Capability :=
  (requiredCapabilities task environment).dedup.filter fun capability =>
    toolFor environment capability = none

def assignStage (stage : StageSpec) : Except ResolveError StageDriverAssignment := do
  let evaluator ← orRaise
    (task.evaluation.evaluators.find? fun e => e.evaluatorId = stage.evaluatorId)
    (.keyError stage.evaluatorId)
  let tool ← orRaise (toolFor environment evaluator.capability)
    (.keyError evaluator.capability.value)
  return {
    stageId := stage.stageId
    evaluatorId := evaluator.evaluatorId
    capability := evaluator.capability
    toolId := tool.toolId
    driverId := tool.driverId
    driverDigest := tool.driverDigest }

def resolvedTools : List ResolvedToolBinding :=
  sortedBy (fun tool => tool.capability.value)
    ((environment.toolBindings.filter fun tool =>
      tool.capability ∈ requiredCapabilities task environment).map resolvedTool)

def bindEnvironment : Except ResolveError EnvironmentRunBinding :=
  if htools : resolvedTools task environment ≠ [] ∧
      ((resolvedTools task environment).map ResolvedToolBinding.capability).Nodup then
    if hassets : ((resolvedAssets environment).map
        ResolvedAssetBinding.assetId).Pairwise (· < ·) then
      if hoperations : ((resolvedOperations environment).map
          ResolvedParticipantOperationBinding.operationId).Pairwise (· < ·) then
        if hresolved : ∀ o ∈ resolvedOperations environment, ∃ t ∈ resolvedTools task environment,
            t.capability = o.capability ∧ t.toolId = o.toolId then
          .ok {
            environmentSpecDigest := environment.digest
            executorId := environment.executor.executorId
            executorDigest := environment.executor.implementationDigest
            policyDigest := ResolutionDigests.environmentPolicy environment.toEnvironmentDocument
            tools := resolvedTools task environment
            participantOperations := resolvedOperations environment
            assets := resolvedAssets environment
            tools_ne_nil := htools.1
            tools_nodup := htools.2
            assets_sorted := hassets
            operations_sorted := hoperations
            operations_resolved := hresolved }
        else .error (.valueError "resolved participant operation does not name a resolved tool")
      else .error (.valueError "resolved participant operation identifiers must be unique")
    else .error (.valueError "resolved asset identifiers must be unique")
  else .error (.valueError "resolved tool capabilities must be unique and non-empty")

def bindSession : Except ResolveError SessionRunBinding :=
  if hactors : ((session.actors.map runActor).map RunActor.actorId).Pairwise (· < ·) then
    if hwriter : session.writer.writer ∈ (session.actors.map runActor).map RunActor.actorId then
      if hhandoff : decide (¬ session.writer.IsFixed) = true ↔
          1 < (session.actors.map runActor).length then
        .ok {
          sessionSpecDigest := session.digest
          actors := session.actors.map runActor
          initialWriter := session.writer.writer
          handoffEnabled := decide (¬ session.writer.IsFixed)
          feedbackPolicyDigest := ResolutionDigests.feedbackPolicy session.feedback
          budgetDigest := ResolutionDigests.sessionBudget session.resources session.modelBudget
          actors_sorted := hactors
          writer_bound := hwriter
          handoff_iff := hhandoff }
      else .error (.valueError "handoff is required exactly for multi-actor runs")
    else .error (.valueError "initial writer must reference a run actor")
  else .error (.valueError "run actors must be unique and non-empty")

variable [Canonical]

def boundEvaluators : List EvaluatorRunBinding :=
  sortedBy EvaluatorRunBinding.evaluatorId
    (task.evaluation.evaluators.map fun e => ⟨e.evaluatorId, e.revisionDigest⟩)

def resolvedPurpose (campaign : Option CampaignTrialRunBinding) (purpose : Option RunPurpose) :
    RunPurpose :=
  match campaign with
  | none => .standard
  | some _ => purpose.getD .campaignTrial

def bindRun (environmentBinding : EnvironmentRunBinding) (sessionBinding : SessionRunBinding)
    (trialKey : Identifier) (campaign : Option CampaignTrialRunBinding)
    (purpose : Option RunPurpose) : Except ResolveError RunBinding :=
  if hevaluators : ((boundEvaluators task).map
      EvaluatorRunBinding.evaluatorId).Pairwise (· < ·) then
    if hpurpose : resolvedPurpose campaign purpose ≠ .standard ↔ campaign.isSome then
      .ok {
        purpose := resolvedPurpose campaign purpose
        task := {
          family := task.identity.family
          authoringRevision := task.identity.authoringRevision
          taskSpecDigest := task.digest
          instanceSeed := inst.identity.seed
          instanceDigest := inst.digest
          releaseDigest := release.digest }
        environment := environmentBinding
        session := sessionBinding
        evaluators := boundEvaluators task
        measurementSchemaDigest := Canonical.measurementSchema task.measurements
        scorerRevisionDigest := task.evaluation.scorer.map ScorerRef.revisionDigest
        trialKey, campaign
        purpose_iff := hpurpose
        evaluators_sorted := hevaluators }
    else .error (.valueError "campaign trials and synthetic preflights require a campaign binding")
  else .error (.valueError "run evaluator identities must be unique and non-empty")

/-- Resolve all logical capabilities and reject any cross-spec inconsistency. -/
def resolveRun (trialKey : Identifier) (campaign : Option CampaignTrialRunBinding)
    (purpose : Option RunPurpose) : Except ResolveError ResolvedRunPlan := do
  validateInstance task inst
  validateRelease task inst release environment
  validateSessionEnvironment environment session
  validateCandidateExecution environment session campaign
  validateParticipantOperations release environment
  raiseIf (missingCapabilities task environment ≠ [])
    (.resolution ("environment does not resolve required capabilities: " ++
      String.intercalate ", "
        (sortedStrings ((missingCapabilities task environment).map Capability.value))))
  let assignments ← task.evaluation.stages.mapM (assignStage task environment)
  let sessionBinding ← bindSession session
  raiseIf (campaign = none ∧ purpose.isSome ∧ purpose ≠ some .standard)
    (.resolution "campaign execution purposes require a campaign binding")
  let environmentBinding ← bindEnvironment task environment
  let binding ← bindRun task inst release environmentBinding sessionBinding trialKey campaign
    purpose
  raiseIf (assignments = [] ∨ ¬ (assignments.map StageDriverAssignment.stageId).Nodup)
    (.valueError "resolved stages must be unique and non-empty")
  return { binding, stageDrivers := sortedBy StageDriverAssignment.stageId assignments }

end Bindings

/-! ### What a plan says of its inputs -/

section Plans

variable {task : Task} {inst : TaskInstance} {release : ReleaseManifest}
  {environment : EnvironmentSpec} {session : ControlledSession} {trialKey : Identifier}
  {campaign : Option CampaignTrialRunBinding} {purpose : Option RunPurpose}

lemma mem_resolvedTools {resolved : ResolvedToolBinding} :
    resolved ∈ resolvedTools task environment ↔ ∃ tool ∈ environment.toolBindings,
      tool.capability ∈ requiredCapabilities task environment ∧ resolvedTool tool = resolved := by
  simp [resolvedTools, and_assoc]

lemma capability_mem_required {e : EvaluatorSpec} (he : e ∈ task.evaluation.evaluators) :
    e.capability ∈ requiredCapabilities task environment := by
  refine List.mem_append_left _ (List.mem_flatMap.mpr ⟨e, he, ?_⟩)
  exact List.mem_cons_self

lemma toolFor_of_missing {e : EvaluatorSpec} (h : missingCapabilities task environment = [])
    (he : e ∈ task.evaluation.evaluators) :
    ∃ tool, toolFor environment e.capability = some tool := by
  rw [missingCapabilities, List.filter_eq_nil_iff] at h
  have hne := h e.capability (List.mem_dedup.mpr (capability_mem_required he))
  simpa [Option.ne_none_iff_exists'] using hne

lemma bindEnvironment_ok {environmentBinding : EnvironmentRunBinding}
    (h : bindEnvironment task environment = .ok environmentBinding) :
    environmentBinding.tools = resolvedTools task environment ∧
      environmentBinding.assets = resolvedAssets environment := by
  rw [bindEnvironment] at h
  split_ifs at h
  cases h
  exact ⟨rfl, rfl⟩

variable [Canonical]

/-- The parts of the binding that come from the task and the environment. -/
structure Binds (task : Task) (inst : TaskInstance) (environment : EnvironmentSpec)
    (binding : RunBinding) : Prop where
  family : binding.task.family = task.identity.family
  revision : binding.task.authoringRevision = task.identity.authoringRevision
  seed : binding.task.instanceSeed = inst.identity.seed
  schema : binding.measurementSchemaDigest = Canonical.measurementSchema task.measurements
  scorer : binding.scorerRevisionDigest = task.evaluation.scorer.map ScorerRef.revisionDigest
  evaluators : binding.evaluators = boundEvaluators task
  tools : binding.environment.tools = resolvedTools task environment
  assets : binding.environment.assets = resolvedAssets environment

lemma bindRun_ok {environmentBinding : EnvironmentRunBinding}
    {sessionBinding : SessionRunBinding} {binding : RunBinding}
    (henvironment : bindEnvironment task environment = .ok environmentBinding)
    (h : bindRun task inst release environmentBinding sessionBinding trialKey campaign purpose =
      .ok binding) : Binds task inst environment binding := by
  obtain ⟨htools, hassets⟩ := bindEnvironment_ok henvironment
  rw [bindRun] at h
  split_ifs at h
  cases h
  exact ⟨rfl, rfl, rfl, rfl, rfl, rfl, htools, hassets⟩

/-- A resolved plan: every evaluator finds its tool and every stage its driver. -/
structure Resolved (task : Task) (inst : TaskInstance) (environment : EnvironmentSpec)
    (plan : ResolvedRunPlan) : Prop where
  binds : Binds task inst environment plan.binding
  tools : ∀ e ∈ task.evaluation.evaluators, ∃ tool, toolFor environment e.capability = some tool
  drivers : ∀ stage ∈ task.evaluation.stages, ∃ assignment ∈ plan.stageDrivers,
    assignStage task environment stage = .ok assignment
  origins : ∀ assignment ∈ plan.stageDrivers, ∃ stage ∈ task.evaluation.stages,
    assignStage task environment stage = .ok assignment

lemma resolveRun_ok {plan : ResolvedRunPlan}
    (h : resolveRun task inst release environment session trialKey campaign purpose = .ok plan) :
    Resolved task inst environment plan := by
  simp only [resolveRun, bind_eq_ok, raiseIf_eq_ok, exists_const, not_not, pure_eq_ok] at h
  obtain ⟨_, -, _, -, _, -, _, -, _, -, hmissing, assignments, hassignments, sessionBinding, -, -,
    environmentBinding, henvironment, binding, hbinding, -, rfl⟩ := h
  refine ⟨bindRun_ok henvironment hbinding, fun e he => toolFor_of_missing hmissing he, ?_, ?_⟩
  · intro stage hstage
    obtain ⟨assignment, hmem, hassign⟩ := mapM_ok_of_mem hassignments hstage
    exact ⟨assignment, mem_sortedBy.mpr hmem, hassign⟩
  · intro assignment hmem
    exact exists_of_mem_mapM hassignments (mem_sortedBy.mp hmem)

end Plans

end EdaGym.Resolution
