import EdaGym.Evaluation.Snapshots
import EdaGym.Resolution.Resolve
import EdaGym.Run.Terminal

/-!
# Measurements of a resolved run

The provenance of a measurement is derived from the task, the instance and the environment; the
journal judges it against the run binding. A library names a resource of the task, but the journal
looks among the assets of the environment first.
-/

namespace EdaGym.Resolution

/-! ### Provenance -/

inductive RuleSource
  | stdout | stderr | file
deriving DecidableEq, Repr

/-- What provenance reads of the rules of a stage. -/
inductive FlowRule
  | regexNumber (source : RuleSource) (measurementId : Option Identifier) (path : Option String)
  | other
deriving DecidableEq, Repr

structure FlowStageDefinition where
  rules : List FlowRule
  outputPaths : List String

def outputId (position : Nat) : Identifier := "flow_output_" ++ toString position

/-- Where the rule reads the measurement from, if it is a rule of this measurement. -/
def FlowRule.sourceOf (measurementId : Identifier) : FlowRule → Option (RuleSource × Option String)
  | regexNumber source id path => if id = some measurementId then some (source, path) else none
  | other => none

/-- The artifact that the one rule of a measurement reads. -/
def measurementSource (stage : FlowStageDefinition) (measurementId : Identifier) :
    Except JournalError Identifier :=
  match stage.rules.filterMap (FlowRule.sourceOf measurementId) with
  | [(.stdout, _)] => .ok "executor.stdout"
  | [(.stderr, _)] => .ok "executor.stderr"
  | [(.file, none)] => .error (.valueError "file measurement does not name its source")
  | [(.file, some path)] =>
    if path ∈ stage.outputPaths then .ok (outputId (stage.outputPaths.idxOf path))
    else .error (.valueError "tuple.index(x): x not in tuple")
  | _ => .error (.valueError "measurement does not have one source rule")

/-- The provenance of one measurement taken with `tool` from the artifact `source`. -/
def provenanceOf (specification : MeasurementSpec) (tool : ToolBinding) (seed : Seed128Hex)
    (sampleSeeds : List Seed128Hex) (source : ArtifactRecord) : MeasurementProvenance where
  unit := specification.unit
  toolId := tool.toolId
  toolVersion := tool.toolVersion
  libraryId := specification.libraryId
  libraryDigest := specification.libraryDigest
  corner := specification.corner
  mode := specification.mode
  taskSeed := seed
  sampleSeeds := sampleSeeds
  sourceArtifactId := source.logicalId
  sourceDigest := source.blob.digest

/-- The same provenance with another source, as the sanitised measurements are recorded. -/
def retarget (provenance : MeasurementProvenance) (record : ArtifactRecord) :
    MeasurementProvenance :=
  { provenance with
    sourceArtifactId := record.logicalId
    sourceDigest := record.blob.digest }

section Recorded

variable [ResolutionDigests] [Canonical]

def measurementProvenance (task : Task) (inst : TaskInstance) (environment : EnvironmentSpec)
    (assignment : StageDriverAssignment) (stage : FlowStageDefinition)
    (artifacts : Dict Identifier ArtifactRecord) (measurementId : Identifier) :
    Except JournalError MeasurementProvenance := do
  let localId ← measurementSource stage measurementId
  let source ← orRaise (artifacts.get? localId) (.lookupError localId)
  let specification ← orRaise
    (task.measurements.find? fun item => item.measurementId = measurementId)
    (.lookupError measurementId)
  let tool ← orRaise (environment.toolBindings.find? fun item =>
      item.capability = assignment.capability ∧ item.toolId = assignment.toolId)
    (.lookupError assignment.toolId)
  let sampleSeeds ← measurementSampleSeeds inst.identity.seed specification.measurementId
    specification.repetitions
  return provenanceOf specification tool inst.identity.seed sampleSeeds source

/-- A result of the stage of `assignment` whose measurements carry derived provenance, retargeted
to a registered sanitised artifact that the result lists as evidence. -/
structure CarriesDerivedProvenance (task : Task) (inst : TaskInstance)
    (environment : EnvironmentSpec) (assignment : StageDriverAssignment) (result : StageResult)
    (artifacts : Dict Identifier ArtifactRecord) : Prop where
  stage : result.stageId = assignment.stageId
  derived : ∀ measurement ∈ result.measurements, ∃ stage sources provenance record,
    measurementProvenance task inst environment assignment stage sources
      measurement.measurementId = .ok provenance ∧
    artifacts.get? record.logicalId = some record ∧
    record.artifactClass = .measurement ∧
    record.mediaType = SANITIZED_MEASUREMENTS_MEDIA_TYPE ∧
    record.logicalId ∈ result.evidence.map ArtifactEvidence.artifactId ∧
    measurement.provenance = some (retarget provenance record)

/-- No asset of the environment bears the name of a measurement's library with another digest. -/
def LibrariesAgree (task : Task) (inst : TaskInstance) (environment : EnvironmentSpec) : Prop :=
  ∀ specification ∈ task.measurements,
    ((List.range specification.repetitions).map (Canonical.measurementSampleSeed
      inst.identity.seed specification.measurementId)).Nodup →
    ∀ asset ∈ environment.assets, asset.assetId = specification.libraryId →
      asset.restrictedDigest = specification.libraryDigest

section Lemmas

variable {task : Task} {inst : TaskInstance} {environment : EnvironmentSpec}
  {plan : ResolvedRunPlan} {header : RunHeader} {specification : MeasurementSpec}

omit [ResolutionDigests] in
lemma measurementSampleSeeds_ok {seed : Seed128Hex}
    {seeds : List Seed128Hex} :
    measurementSampleSeeds seed specification.measurementId specification.repetitions =
        .ok seeds ↔
      seeds = (List.range specification.repetitions).map (Canonical.measurementSampleSeed seed
        specification.measurementId) ∧ seeds.Nodup := by
  have hpos := specification.repetitions_bound.1
  simp only [measurementSampleSeeds, raiseIf_bind_eq_ok, pure_eq_ok, not_not]
  constructor
  · rintro ⟨-, hnodup, rfl⟩
    exact ⟨rfl, hnodup⟩
  · rintro ⟨rfl, hnodup⟩
    exact ⟨by omega, hnodup, rfl⟩

variable {assignment : StageDriverAssignment}

lemma measurementProvenance_ok
    {stage : FlowStageDefinition} {sources : Dict Identifier ArtifactRecord}
    {measurementId : Identifier} {provenance : MeasurementProvenance}
    (h : measurementProvenance task inst environment assignment stage sources measurementId =
      .ok provenance) :
    ∃ specification ∈ task.measurements, specification.measurementId = measurementId ∧
      ∃ tool ∈ environment.toolBindings, tool.capability = assignment.capability ∧
        ∃ seeds source, measurementSampleSeeds inst.identity.seed specification.measurementId
            specification.repetitions = .ok seeds ∧
          provenance = provenanceOf specification tool inst.identity.seed seeds source := by
  simp only [measurementProvenance, bind_eq_ok, orRaise_eq_ok, pure_eq_ok] at h
  obtain ⟨_, -, source, -, specification, hspecification, tool, htool, seeds, hseeds, rfl⟩ := h
  have hid := List.find?_some hspecification
  have hcapability := List.find?_some htool
  simp only [decide_eq_true_eq] at hid hcapability
  exact ⟨specification, List.mem_of_find?_eq_some hspecification, hid, tool,
    List.mem_of_find?_eq_some htool, hcapability.1, seeds, source, hseeds, rfl⟩

variable {tool : ToolBinding}

omit [Canonical] in
/-- The tool bound for a capability is the only one the environment has. -/
lemma resolvedTool_of_capability {resolved : ResolvedToolBinding}
    (hresolved : resolved ∈ resolvedTools task environment)
    (htool : tool ∈ environment.toolBindings) (h : resolved.capability = tool.capability) :
    resolved = resolvedTool tool := by
  obtain ⟨tool', htool', -, rfl⟩ := mem_resolvedTools.mp hresolved
  rw [List.inj_on_of_nodup_map environment.capabilities_nodup htool' htool h]

lemma resolvedTool_mem (hresolved : Resolved task inst environment plan) {e : EvaluatorSpec}
    (he : e ∈ task.evaluation.evaluators) :
    ∃ tool ∈ environment.toolBindings, tool.capability = e.capability ∧
      resolvedTool tool ∈ plan.binding.environment.tools := by
  obtain ⟨tool, htool⟩ := hresolved.tools e he
  obtain ⟨hmem, hcapability⟩ := toolFor_eq_some htool
  refine ⟨tool, hmem, hcapability, ?_⟩
  rw [hresolved.binds.tools, mem_resolvedTools]
  exact ⟨tool, hmem, hcapability ▸ capability_mem_required he, rfl⟩

/-! ### The task binding -/

lemma validateTaskBinding_resolved (hresolved : Resolved task inst environment plan)
    (hheader : header.binding = plan.binding) :
    validateTaskBinding header task.toTaskSpec = .ok ⟨⟩ := by
  have hb := hresolved.binds
  simp only [validateTaskBinding, hheader, raiseIf_bind_eq_ok, raiseIf_eq_ok, hb.family,
    hb.revision, hb.schema, hb.scorer, hb.evaluators, boundEvaluators, List.mem_map, mem_sortedBy,
    ne_eq, not_true_eq_false, or_self, not_false_eq_true, true_and, not_not]
  constructor
  · rintro pair ⟨_, ⟨e, he, rfl⟩, rfl⟩
    exact ⟨e, he, rfl⟩
  · rintro pair ⟨e, he, rfl⟩
    exact ⟨_, ⟨e, he, rfl⟩, rfl⟩

lemma existsUnique_boundTool (hresolved : Resolved task inst environment plan)
    {e : EvaluatorSpec} (he : e ∈ task.evaluation.evaluators) :
    ∃! tool, tool ∈ plan.binding.environment.tools ∧ tool.capability = e.capability := by
  obtain ⟨tool, hmem, hcapability, hbound⟩ := resolvedTool_mem hresolved he
  refine ⟨resolvedTool tool, ⟨hbound, hcapability⟩, ?_⟩
  rintro resolved ⟨hin, hsame⟩
  rw [hresolved.binds.tools] at hin
  exact resolvedTool_of_capability hin hmem (hsame.trans hcapability.symm)

/-! ### Measurements -/

/-- The assets of the binding are those of the environment. -/
lemma boundAsset_iff (hbinds : Binds task inst environment plan.binding) {id : Identifier}
    {digest : Digest} :
    (∀ asset, plan.binding.environment.assets.find? (fun a => a.assetId = id) = some asset →
        asset.restrictedDigest = digest) ↔
      ∀ asset ∈ environment.assets, asset.assetId = id → asset.restrictedDigest = digest := by
  have hnodup : (plan.binding.environment.assets.map ResolvedAssetBinding.assetId).Nodup :=
    plan.binding.environment.assets_sorted.imp fun h => ne_of_lt h
  rw [hbinds.assets] at hnodup ⊢
  constructor
  · intro h asset hasset hid
    have hmem : (⟨asset.assetId, asset.restrictedDigest⟩ : ResolvedAssetBinding) ∈
        resolvedAssets environment := mem_resolvedAssets.mpr ⟨asset, hasset, rfl⟩
    obtain ⟨found, hfound, hfind, hfoundId⟩ := exists_find?_eq_some
      (p := fun a : ResolvedAssetBinding => a.assetId = id) hmem hid
    have heq := List.inj_on_of_nodup_map hnodup hfound hmem (hfoundId.trans hid.symm)
    rw [← h found hfind, heq]
  · intro h asset hfind
    have hid := List.find?_some hfind
    simp only [decide_eq_true_eq] at hid
    obtain ⟨own, hown, rfl⟩ := mem_resolvedAssets.mp (List.mem_of_find?_eq_some hfind)
    exact h own hown hid

omit [Canonical] in
/-- Without an asset of its name, the library is the task resource the task bound it to. -/
lemma library_is_resource
    (hmem : specification ∈ task.measurements) (hlibrary : specification.libraryId ≠
      "not_applicable") : ∃ resource ∈ task.resources,
      resource.resourceId = specification.libraryId ∧
        specification.libraryDigest = resource.contentDigest := by
  have h := task.authored
  simp only [TaskAuthoring.validate, bind_eq_ok, raiseIf_eq_ok, exists_const, not_exists, not_and,
    not_not] at h
  obtain ⟨-, -, -, -, -, -, -, -, hbound⟩ := h
  have hspecification := hbound specification hmem
  rw [TaskAuthoring.LibraryBound, if_neg hlibrary] at hspecification
  obtain ⟨resource, hresource, hid, hdigest⟩ := hspecification
  exact ⟨resource, hresource, hid, hdigest.symm⟩

section Judged

variable {result : StageResult} {artifacts : Dict Identifier ArtifactRecord}
  {measurement : MeasurementEvidence} {specification : MeasurementSpec} {tool : ToolBinding}
  {seeds : List Seed128Hex} {source record : ArtifactRecord}

/-- The journal accepts derived provenance exactly when the assets agree with its library. -/
lemma validateProvenance_iff (hresolved : Resolved task inst environment plan)
    (hheader : header.binding = plan.binding) (hmem : specification ∈ task.measurements)
    (hid : specification.measurementId = measurement.measurementId)
    (hseeds : measurementSampleSeeds inst.identity.seed specification.measurementId
      specification.repetitions = .ok seeds)
    (hrecord : artifacts.get? record.logicalId = some record)
    (hclass : record.artifactClass = .measurement)
    (hmedia : record.mediaType = SANITIZED_MEASUREMENTS_MEDIA_TYPE)
    (hevidence : record.logicalId ∈ result.evidence.map ArtifactEvidence.artifactId)
    (hprovenance : measurement.provenance =
      some (retarget (provenanceOf specification tool inst.identity.seed seeds source) record)) :
    validateProvenance header task.toTaskSpec result (resolvedTool tool) artifacts ⟨⟩
        measurement = .ok ⟨⟩ ↔
      ∀ asset ∈ environment.assets, asset.assetId = specification.libraryId →
        asset.restrictedDigest = specification.libraryDigest := by
  have hindex := get?_measurementIndex.mpr ⟨hmem, hid⟩
  rw [← boundAsset_iff hresolved.binds]
  simp only [validateProvenance, hindex, hprovenance, hheader, hresolved.binds.seed, retarget,
    provenanceOf, resolvedTool, hrecord, hclass, hmedia, hseeds, Option.filter_some,
    decide_true, if_true, orRaise_bind_eq_ok, raiseIf_bind_eq_ok, ok_bind,
    Option.some.injEq, exists_eq_left', ne_eq, not_true_eq_false, or_self, not_false_eq_true,
    true_and, hevidence]
  cases hfind : plan.binding.environment.assets.find?
      fun a => a.assetId = specification.libraryId with
  | some asset => simp
  | none =>
    simp only [raiseIf_eq_ok, not_and, not_forall, reduceCtorEq, false_implies, implies_true,
      iff_true, not_not]
    intro hlibrary
    obtain ⟨resource, hresource, hname, hdigest⟩ := library_is_resource hmem hlibrary
    exact ⟨resource, hresource, hname, hdigest⟩

end Judged

/-- A stage of the plan is judged with the tool that its driver was assigned. -/
lemma validateMeasurementProvenance_iff (hresolved : Resolved task inst environment plan)
    (hheader : header.binding = plan.binding)
    (hassignment : assignment ∈ plan.stageDrivers) {result : StageResult}
    (hstage : result.stageId = assignment.stageId)
    (artifacts : Dict Identifier ArtifactRecord) :
    ∃ tool ∈ environment.toolBindings, tool.capability = assignment.capability ∧
      (validateMeasurementProvenance header task.toTaskSpec result artifacts = .ok ⟨⟩ ↔
        ∀ measurement ∈ result.measurements, validateProvenance header task.toTaskSpec result
          (resolvedTool tool) artifacts ⟨⟩ measurement = .ok ⟨⟩) := by
  obtain ⟨stage, hmem, hassign⟩ := hresolved.origins assignment hassignment
  simp only [assignStage, bind_eq_ok, orRaise_eq_ok, pure_eq_ok] at hassign
  obtain ⟨evaluator, hevaluator, tool, htool, rfl⟩ := hassign
  have hin := List.mem_of_find?_eq_some hevaluator
  obtain ⟨htoolMem, hcapability⟩ := toolFor_eq_some htool
  obtain ⟨bound, hbound, hboundCapability, hboundMem⟩ := resolvedTool_mem hresolved hin
  obtain ⟨found, hfoundMem, hfound, hfoundCapability⟩ := exists_find?_eq_some
    (p := fun t : ResolvedToolBinding => t.capability = evaluator.capability)
    hboundMem hboundCapability
  rw [hresolved.binds.tools] at hfoundMem
  have heq : found = resolvedTool tool :=
    resolvedTool_of_capability hfoundMem htoolMem (hfoundCapability.trans hcapability.symm)
  subst heq
  refine ⟨tool, htoolMem, hcapability, ?_⟩
  have hindex : task.stageIndex.get? result.stageId = some stage :=
    get?_stageIndex.mpr ⟨hmem, hstage.symm⟩
  rw [validateMeasurementProvenance]
  by_cases hempty : result.measurements = []
  · simp [hempty]
  · rw [if_neg hempty]
    simp only [hindex, hevaluator, hheader, hfound, orRaise_bind_eq_ok, Option.some.injEq,
      exists_eq_left', foldSteps_unit_eq_ok]

/-- Where the libraries agree, every result that carries derived provenance is accepted. -/
lemma accepts_of_agree (hresolved : Resolved task inst environment plan)
    (hheader : header.binding = plan.binding) (hagree : LibrariesAgree task inst environment)
    (hassignment : assignment ∈ plan.stageDrivers)
    {result : StageResult} {artifacts : Dict Identifier ArtifactRecord}
    (hcarries : CarriesDerivedProvenance task inst environment assignment result artifacts) :
    validateMeasurementProvenance header task.toTaskSpec result artifacts = .ok ⟨⟩ := by
  obtain ⟨tool, htool, hcapability, hiff⟩ := validateMeasurementProvenance_iff hresolved hheader
    hassignment hcarries.stage artifacts
  rw [hiff]
  intro measurement hmeasurement
  obtain ⟨stage, sources, provenance, record, hderived, hrecord, hclass, hmedia, hevidence,
    hprovenance⟩ := hcarries.derived measurement hmeasurement
  obtain ⟨specification, hmem, hid, tool', htool', hcapability', seeds, source, hseeds, rfl⟩ :=
    measurementProvenance_ok hderived
  have hsame : tool' = tool := List.inj_on_of_nodup_map environment.capabilities_nodup htool'
    htool (hcapability'.trans hcapability.symm)
  subst hsame
  rw [validateProvenance_iff hresolved hheader hmem hid hseeds hrecord hclass hmedia hevidence
    hprovenance]
  obtain ⟨rfl, hnodup⟩ := measurementSampleSeeds_ok.mp hseeds
  exact hagree specification hmem hnodup

/-! ### A result that exposes one library -/

/-- The artifact that sanitised measurements are recorded as. -/
def sanitizedRecord : ArtifactRecord where
  logicalId := "sanitized"
  blob := { digest := "d-sanitized", sizeBytes := 1 }
  mediaType := SANITIZED_MEASUREMENTS_MEDIA_TYPE
  artifactClass := .measurement
  sensitivity := .internal
  visibility := .verifier
  redistribution := .forbidden

def printedOutput : Dict Identifier ArtifactRecord :=
  Dict.ofList [("executor.stdout", sanitizedRecord)]

def registeredOutput : Dict Identifier ArtifactRecord :=
  Dict.ofList [("sanitized", sanitizedRecord)]

section

omit [ResolutionDigests] [Canonical]

lemma get?_printedOutput : printedOutput.get? "executor.stdout" = some sanitizedRecord := by
  decide

lemma get?_registeredOutput :
    registeredOutput.get? sanitizedRecord.logicalId = some sanitizedRecord := by
  decide

end

def printedStage (measurementId : Identifier) : FlowStageDefinition where
  rules := [.regexNumber .stdout (some measurementId) none]
  outputPaths := []

/-- One measurement read from the standard output of its stage, a zero for each sample. -/
def zeroMeasurement (specification : MeasurementSpec) (tool : ToolBinding) (seed : Seed128Hex)
    (hnodup : ((List.range specification.repetitions).map (Canonical.measurementSampleSeed seed
      specification.measurementId)).Nodup) : MeasurementEvidence where
  measurementId := specification.measurementId
  samples := List.replicate specification.repetitions 0
  provenance := some (retarget (provenanceOf specification tool seed ((List.range
    specification.repetitions).map (Canonical.measurementSampleSeed seed
      specification.measurementId)) sanitizedRecord) sanitizedRecord)
  samples_ne_nil := by
    have hpos := specification.repetitions_bound.1
    simp only [ne_eq, List.replicate_eq_nil_iff]
    omega
  provenance_shape := by
    rintro provenance hprovenance
    cases hprovenance
    exact ⟨by simp [retarget, provenanceOf], hnodup⟩

/-- The result of a stage with one measurement. -/
def zeroResult (stageId : Identifier) (measurement : MeasurementEvidence) : StageResult where
  stageId := stageId
  outcome := .passed
  measurements := [measurement]
  evidence := [{ kind := .measurement, artifactId := "sanitized" }]

lemma measurementProvenance_printed
    {seeds : List Seed128Hex}
    (hmem : specification ∈ task.measurements) (htool : tool ∈ environment.toolBindings)
    (hcapability : tool.capability = assignment.capability)
    (htoolId : tool.toolId = assignment.toolId)
    (hseeds : measurementSampleSeeds inst.identity.seed specification.measurementId
      specification.repetitions = .ok seeds) :
    measurementProvenance task inst environment assignment
        (printedStage specification.measurementId) printedOutput specification.measurementId =
      .ok (provenanceOf specification tool inst.identity.seed seeds sanitizedRecord) := by
  have hsource : measurementSource (printedStage specification.measurementId)
      specification.measurementId = .ok "executor.stdout" := by
    simp [measurementSource, printedStage, FlowRule.sourceOf]
  obtain ⟨found, hfoundMem, hfound, hfoundId⟩ := exists_find?_eq_some
    (p := fun item : MeasurementSpec => item.measurementId = specification.measurementId) hmem rfl
  have hsame := List.inj_on_of_nodup_map task.checked.measurements_nodup hfoundMem hmem hfoundId
  obtain ⟨bound, hboundMem, hbound, hboundCapability, -⟩ := exists_find?_eq_some
    (p := fun item : ToolBinding =>
      item.capability = assignment.capability ∧ item.toolId = assignment.toolId)
    htool ⟨hcapability, htoolId⟩
  have hboundSame := List.inj_on_of_nodup_map environment.capabilities_nodup hboundMem htool
    (hboundCapability.trans hcapability.symm)
  subst hsame hboundSame
  simp only [measurementProvenance, hsource, get?_printedOutput, hfound, hbound, hseeds, orRaise,
    ok_bind]
  rfl

lemma carries_zeroResult
    (hmem : specification ∈ task.measurements)
    (htool : tool ∈ environment.toolBindings)
    (hcapability : tool.capability = assignment.capability)
    (htoolId : tool.toolId = assignment.toolId)
    (hnodup : ((List.range specification.repetitions).map (Canonical.measurementSampleSeed
      inst.identity.seed specification.measurementId)).Nodup) :
    CarriesDerivedProvenance task inst environment assignment
      (zeroResult assignment.stageId (zeroMeasurement specification tool inst.identity.seed hnodup))
      registeredOutput := by
  refine ⟨rfl, ?_⟩
  intro measurement hmeasurement
  obtain rfl := List.mem_singleton.mp hmeasurement
  have hseeds := measurementSampleSeeds_ok.mpr ⟨rfl, hnodup⟩
  refine ⟨_, _, _, sanitizedRecord,
    measurementProvenance_printed hmem htool hcapability htoolId hseeds, ?_, rfl, rfl, ?_, rfl⟩
  · exact get?_registeredOutput
  · simp [zeroResult, sanitizedRecord]

/-- A library that an asset contradicts is exposed by a result of its stage. -/
lemma agree_of_accepts (hresolved : Resolved task inst environment plan)
    (hheader : header.binding = plan.binding)
    (haccepts : ∀ assignment ∈ plan.stageDrivers, ∀ result artifacts,
      CarriesDerivedProvenance task inst environment assignment result artifacts →
        validateMeasurementProvenance header task.toTaskSpec result artifacts = .ok ⟨⟩) :
    LibrariesAgree task inst environment := by
  intro specification hmem hnodup
  obtain ⟨stage, hstage, -⟩ := List.mem_map.mp (task.checked.producers specification hmem)
  obtain ⟨assignment, hassignment, hassign⟩ := hresolved.drivers stage hstage
  obtain ⟨tool, htool, hcapability, htoolId⟩ : ∃ tool ∈ environment.toolBindings,
      tool.capability = assignment.capability ∧ tool.toolId = assignment.toolId := by
    simp only [assignStage, bind_eq_ok, orRaise_eq_ok, pure_eq_ok] at hassign
    obtain ⟨evaluator, -, tool, htool, rfl⟩ := hassign
    obtain ⟨htoolMem, hcapability⟩ := toolFor_eq_some htool
    exact ⟨tool, htoolMem, hcapability, rfl⟩
  have hcarries := carries_zeroResult hmem htool hcapability htoolId hnodup
  obtain ⟨tool', htool', hcapability', hiff⟩ := validateMeasurementProvenance_iff hresolved
    hheader hassignment hcarries.stage registeredOutput
  have hsame : tool' = tool := List.inj_on_of_nodup_map environment.capabilities_nodup htool'
    htool (hcapability'.trans hcapability.symm)
  subst hsame
  have hvalid := hiff.mp (haccepts assignment hassignment _ _ hcarries) _ List.mem_cons_self
  have hevidence : sanitizedRecord.logicalId ∈ (zeroResult assignment.stageId
      (zeroMeasurement specification tool' inst.identity.seed hnodup)).evidence.map
        ArtifactEvidence.artifactId := by
    simp [zeroResult, sanitizedRecord]
  exact (validateProvenance_iff hresolved hheader hmem rfl
    (measurementSampleSeeds_ok.mpr ⟨rfl, hnodup⟩) get?_registeredOutput rfl rfl hevidence
    rfl).mp hvalid

end Lemmas

/-! ### The main result -/

/-- A resolved run has a binding that fits its task and one tool for every evaluator; it can
record every measured result exactly when no asset contradicts the library of a measurement. -/
theorem resolved_run_records_measurements {task : Task} {inst : TaskInstance}
    {release : ReleaseManifest} {environment : EnvironmentSpec} {session : ControlledSession}
    {trialKey : Identifier} {campaign : Option CampaignTrialRunBinding}
    {purpose : Option RunPurpose} {plan : ResolvedRunPlan} {header : RunHeader}
    (h : resolveRun task inst release environment session trialKey campaign purpose = .ok plan)
    (hheader : header.binding = plan.binding) :
    validateTaskBinding header task.toTaskSpec = .ok ⟨⟩ ∧
    (∀ e ∈ task.evaluation.evaluators,
      ∃! tool, tool ∈ header.binding.environment.tools ∧ tool.capability = e.capability) ∧
    ((∀ assignment ∈ plan.stageDrivers, ∀ result artifacts,
        CarriesDerivedProvenance task inst environment assignment result artifacts →
          validateMeasurementProvenance header task.toTaskSpec result artifacts = .ok ⟨⟩) ↔
      LibrariesAgree task inst environment) := by
  have hresolved := resolveRun_ok h
  refine ⟨validateTaskBinding_resolved hresolved hheader, ?_, ?_⟩
  · intro e he
    rw [hheader]
    exact existsUnique_boundTool hresolved he
  · constructor
    · exact agree_of_accepts hresolved hheader
    · intro hagree assignment hassignment result artifacts hcarries
      exact accepts_of_agree hresolved hheader hagree hassignment hcarries

end Recorded

/-! ### A library and an asset of one name -/

section Shadowed

@[reducible] def plainDigests : ResolutionDigests where
  notApplicableLibrary := "d-none"
  feedbackPolicy _ := "d-feedback"
  sessionBudget _ _ := "d-budget"
  environmentPolicy environment := "policy:" ++ environment.digest

local instance : Canonical := plainCanonical

local instance : ResolutionDigests := plainDigests

/-- An area measured against the process library `pdk` of the task. -/
def areaSpecification : MeasurementSpec where
  measurementId := "area"
  producerStageId := "gate"
  unit := .squareMicrometer
  libraryId := "pdk"
  libraryDigest := "d-pdk"
  corner := "tt"
  mode := "func"
  direction := .minimize
  repetitions := 1
  aggregation := .mean

def areaTask : Task where
  identity := { family := "adder", authoringRevision := 1 }
  resources := [
    { resourceId := "behavior", contentDigest := "d-behavior", mediaType := "text/plain" },
    { resourceId := "negative", contentDigest := "d-negative", mediaType := "text/plain" },
    { resourceId := "pdk", contentDigest := "d-pdk", mediaType := "text/plain" },
    { resourceId := "source", contentDigest := "d-source", mediaType := "text/plain" },
    { resourceId := "witness", contentDigest := "d-witness", mediaType := "text/plain" }]
  requirements := ["r0"]
  evaluation := {
    evaluators := [{ evaluatorId := "synth", capability := .asicSynthesis,
                     implementationResource := "source", revisionDigest := "d-synth" }]
    stages := [{ stageId := "gate", evaluatorId := "synth", purpose := .hardGate,
                 requirementIds := ["r0"] }] }
  measurements := [areaSpecification]
  digest := "d-task"
  evaluators_sorted := by decide
  stages_sorted := by decide
  measurements_sorted := by decide
  valid := by decide
  authoring := {
    generator := { implementationResource := "source", implementationDigest := "d-gen" }
    publicBehaviorResource := "behavior"
    visibility := [⟨"behavior", .participant, .internal⟩, ⟨"negative", .author, .confidential⟩,
      ⟨"pdk", .verifier, .confidential⟩, ⟨"source", .author, .confidential⟩,
      ⟨"witness", .author, .confidential⟩]
    licensing := [⟨"behavior", .restricted⟩, ⟨"negative", .forbidden⟩, ⟨"pdk", .forbidden⟩,
      ⟨"source", .forbidden⟩, ⟨"witness", .forbidden⟩]
    qualification := .edaFlow {
      authoringSourceResource := "source"
      feasibilityWitnessResource := "witness"
      negativeCandidateResources := ["negative"] } }
  authored := by decide

def areaFile : GeneratedFile where
  path := ["rtl", "adder.v"]
  contentDigest := "d-file"
  mediaType := "text/plain"
  sourceResourceIds := ["behavior"]
  visibility := .participant
  sensitivity := .internal
  redistribution := .restricted

def areaInstance : TaskInstance where
  identity := { taskFamily := "adder", authoringRevision := 1, taskSpecDigest := "d-task",
                generatorDigest := "d-gen", seed := "00000000000000000000000000000007" }
  generatedFiles := [areaFile]
  digest := "d-inst"

def areaRelease : ReleaseManifest where
  taskSpecDigest := "d-task"
  taskInstanceDigest := "d-inst"
  participantBundleDigest := "d-participant"
  verifierBundleDigest := "d-verifier"
  environmentDigests := ["d-env"]
  files := [areaFile]
  qualification := .edaFlowCandidate "d-source"
  digest := "d-rel"

def internalPolicy : ArtifactPolicy where
  quotaBytes := 1
  rule artifactClass := {
    artifactClass
    retentionSeconds := 60
    allowedDisclosures := [⟨.internal, .verifier, .forbidden,
      Sensitivity.internal_ne_secret, Visibility.verifier_private _ _⟩] }
  rule_class _ := rfl
  encryption_required _ _ := by simp

def yosysTool : ToolBinding where
  capability := .asicSynthesis
  toolId := "yosys"
  toolVersion := "0.45"
  driverId := "flow"
  driverDigest := "d-drv"
  locator := { imageDigest := some "d-img", executable := "yosys",
               deploymentAttestationDigest := "d-att" }

/-- The environment holds a kit of its own under the name of the task's library. -/
def shadowingEnvironment : EnvironmentSpec where
  executor := { kind := .rootlessLocal, executorId := "podman", implementationDigest := "d-ex",
                imageDigest := some "d-img" }
  toolBindings := [yosysTool]
  assets := [{ assetId := "pdk", restrictedDigest := "d-kit", allowedScopes := [.evaluator] }]
  readonlyAssets := [{ assetId := "pdk", scope := .evaluator }]
  artifactPolicy := internalPolicy
  digest := "d-env"

def soloSession : ControlledSession where
  mode := .benchmark 1
  actors := [.human "alice" "keyboard" "d-ad"]
  feedback := .none
  recovery := .none
  resources := { maxTurns := 1, maxToolCalls := 1, maxExperiments := 1, maxWallSeconds := 1,
                 maxEdaComputeSeconds := 1, maxLicenseSeconds := 0, maxArtifactBytes := 1 }
  writer := .fixed "alice"
  digest := "d-ses"

def areaPlan : ResolvedRunPlan where
  binding := {
    task := { family := "adder", authoringRevision := 1, taskSpecDigest := "d-task",
              instanceSeed := "00000000000000000000000000000007", instanceDigest := "d-inst",
              releaseDigest := "d-rel" }
    environment := {
      environmentSpecDigest := "d-env", executorId := "podman", executorDigest := "d-ex",
      policyDigest := "policy:d-env"
      tools := [{ capability := .asicSynthesis, toolId := "yosys", toolVersion := "0.45",
                  driverDigest := "d-drv", deploymentAttestationDigest := "d-att" }]
      assets := [{ assetId := "pdk", restrictedDigest := "d-kit" }] }
    session := {
      sessionSpecDigest := "d-ses", actors := [.human "alice" "d-ad"], initialWriter := "alice"
      handoffEnabled := false, feedbackPolicyDigest := "d-feedback", budgetDigest := "d-budget"
      actors_sorted := sorted_singleton "alice", writer_bound := List.mem_singleton_self "alice" }
    evaluators := [{ evaluatorId := "synth", revisionDigest := "d-synth" }]
    measurementSchemaDigest := "schema:['area']"
    trialKey := "t0" }
  stageDrivers := [{ stageId := "gate", evaluatorId := "synth", capability := .asicSynthesis,
                     toolId := "yosys", driverId := "flow", driverDigest := "d-drv" }]

def areaHeader : RunHeader where
  runId := "run:t0"
  binding := areaPlan.binding
  runId_eq := by decide

lemma areaPlan_resolved : resolveRun areaTask areaInstance areaRelease shadowingEnvironment
    soloSession "t0" none none = .ok areaPlan := by
  decide +kernel

/-- The gate passes and measures the area. -/
def areaResult : StageResult :=
  zeroResult "gate" (zeroMeasurement areaSpecification yosysTool areaInstance.identity.seed
    (by decide))

/-- The inputs resolve, and yet the measured result of the gate is refused. -/
theorem shadowed_library_rejected :
    resolveRun areaTask areaInstance areaRelease shadowingEnvironment soloSession "t0" none none =
        .ok areaPlan ∧
      areaHeader.binding = areaPlan.binding ∧
      ∃ assignment ∈ areaPlan.stageDrivers,
        CarriesDerivedProvenance areaTask areaInstance shadowingEnvironment assignment areaResult
          registeredOutput ∧
        validateMeasurementProvenance areaHeader areaTask.toTaskSpec areaResult registeredOutput =
          .error (.invalidTransition "measurement library digest differs from its run asset") := by
  refine ⟨areaPlan_resolved, rfl, _, List.mem_cons_self, ?_, ?_⟩
  · have hmem : areaSpecification ∈ areaTask.measurements := List.mem_cons_self
    have htool : yosysTool ∈ shadowingEnvironment.toolBindings := List.mem_cons_self
    exact carries_zeroResult hmem htool rfl rfl _
  · decide +kernel

theorem shadowed_run_bound :
    validateTaskBinding areaHeader areaTask.toTaskSpec = .ok ⟨⟩ ∧
    (∀ e ∈ areaTask.evaluation.evaluators,
      ∃! tool, tool ∈ areaHeader.binding.environment.tools ∧ tool.capability = e.capability) ∧
    ((∀ assignment ∈ areaPlan.stageDrivers, ∀ result artifacts,
        CarriesDerivedProvenance areaTask areaInstance shadowingEnvironment assignment result
            artifacts →
          validateMeasurementProvenance areaHeader areaTask.toTaskSpec result artifacts =
            .ok ⟨⟩) ↔
      LibrariesAgree areaTask areaInstance shadowingEnvironment) :=
  resolved_run_records_measurements areaPlan_resolved rfl

end Shadowed

end EdaGym.Resolution
