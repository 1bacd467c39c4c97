import EdaGym.Providers.CampaignJournal
import EdaGym.Providers.CampaignSpec
import Mathlib.Data.List.ProdSigma
import Mathlib.Data.Prod.Lex
import Mathlib.Data.Set.Function

/-!
# Campaign schedules

A schedule is the product of paired seeds, task releases, routes and reasoning efforts in one
order, fixed by digests. The header of a campaign holds the schedule beside the inputs it was
derived from and derives it again whenever it is validated.
-/

namespace EdaGym

/-- What `str.strip` removes: white space and the information separators. -/
def isStripped (c : Char) : Bool := isSpace c ∨ (28 ≤ c.toNat ∧ c.toNat ≤ 31)

def TaskOrigin.validate : TaskOrigin → Except CampaignError TaskOrigin
  | .nativeSealed provenance => do
    let provenance ← normalizeUnique "task provenance entries must be unique" provenance
    return .nativeSealed provenance
  | .publicCalibration sourceId snapshot resources license redistribution provenance => do
    requireNonempty resources
    let resources ← normalizeUnique "public benchmark source resources must be unique" resources
    requireNonempty provenance
    raiseIf (∃ entry ∈ provenance, entry.toList.all isStripped)
      (.valueError "public benchmark provenance must be unique and non-empty")
    let provenance ←
      normalizeUnique "public benchmark provenance must be unique and non-empty" provenance
    return .publicCalibration sourceId snapshot resources license redistribution provenance

namespace Schedule

/-! ### Tasks -/

open Capability in
def allCapabilities : List Capability :=
  [hwIrLowering, rtlSimulation, rtlLint, cdcRdc, formalProperty, equivalence, asicSynthesis,
    staticTiming, digitalImplementation, powerAnalysis, powerIntegrity, parasiticExtraction,
    physicalVerification, circuitSimulation, fpgaImplementation, highLevelSynthesis,
    designForTest, cellCharacterization]

open Capability in
def CAMPAIGN_ROLE_CAPABILITIES : CampaignTaskRole → List Capability
  | .rtlGeneration => [rtlSimulation, rtlLint]
  | .debugFormal => [cdcRdc, formalProperty, equivalence]
  | .synthesisQor => [asicSynthesis, highLevelSynthesis]
  | .staClosure => [staticTiming]
  | .physicalAnalog => [digitalImplementation, powerAnalysis, powerIntegrity,
      parasiticExtraction, physicalVerification, circuitSimulation, cellCharacterization]
  | .fpgaImplementation => [fpgaImplementation]
  | .toolFailureRecovery => allCapabilities
  | .longRunResume => allCapabilities

def campaignRoleAllowsCapability (role : CampaignTaskRole) (capability : Capability) : Prop :=
  capability ∈ CAMPAIGN_ROLE_CAPABILITIES role

instance (role : CampaignTaskRole) (capability : Capability) :
    Decidable (campaignRoleAllowsCapability role capability) :=
  inferInstanceAs (Decidable (_ ∈ _))

/-- Provider-backed harness identity admissible for paid campaign tasks. -/
structure MeteredProviderHarnessBinding where
  harnessId : Identifier
  providerProfileDigest : Digest
  providerConfigDigest : Digest
  instructionDigest : Digest
  toolSchemaDigest : Digest
  scaffoldDigest : Digest
  maximumRequestsPerAction : Nat
deriving DecidableEq

/-- Frozen report and execution binding for one task release. -/
structure CampaignTask where
  taskReleaseDigest : Digest
  taskFamily : Identifier
  taskOrigin : TaskOrigin := .nativeSealed []
  role : CampaignTaskRole
  deviceCapability : Capability
  environmentDigest : Digest
  harness : MeteredProviderHarnessBinding
  evaluatorStageIds : List Identifier
deriving DecidableEq

def CampaignTask.validate (raw : CampaignTask) : Except CampaignError CampaignTask := do
  let taskOrigin ← raw.taskOrigin.validate
  requireNonempty raw.evaluatorStageIds
  raiseIf (¬ raw.evaluatorStageIds.Nodup)
    (.valueError "campaign task evaluator stages must be unique")
  raiseIf (¬ campaignRoleAllowsCapability raw.role raw.deviceCapability)
    (.valueError "campaign task capability is not admitted for its role")
  return { raw with taskOrigin }

/-! ### Trials -/

structure TrialBinding where
  campaignDigest : Digest
  taskReleaseDigest : Digest
  taskFamily : Identifier
  taskOrigin : TaskOrigin
  taskRole : CampaignTaskRole
  deviceCapability : Capability
  environmentDigest : Digest
  harness : MeteredProviderHarnessBinding
  routeId : Identifier
  requestedModel : ModelLabel
  qualifiedProviderReportedModel : ModelLabel
  reasoningEffort : String
  serviceTier : ServiceTierLabel
  observedInputTokenFloor : Nat
  pairedSeed : Seed128Hex
  repetitionIndex : Nat
  taskOrderIndex : Nat
deriving DecidableEq

structure ScheduledTrial where
  ordinal : Nat
  trialId : Identifier
  binding : TrialBinding
deriving DecidableEq

structure CampaignSchedule where
  campaignDigest : Digest
  modelSetDigest : Digest
  orderedTaskReleaseDigests : List Digest
  trials : List ScheduledTrial
deriving DecidableEq

/-! ### Provider configurations -/

/-- Non-secret identity and fixed network target for one provider. -/
structure ProviderProfile where
  logicalId : Identifier
  origin : String
  responsesPath : String := "/v1/responses"
  modelsPath : Option String := none
deriving DecidableEq

structure ProviderDefaults where
  requestedModel : ModelLabel
  reasoningEffort : Option String := none
  serviceTier : Option ServiceTierLabel := none
deriving DecidableEq

structure ResolvedProviderConfig where
  selectedProviderLabel : String
  profile : ProviderProfile
  defaults : ProviderDefaults
deriving DecidableEq

/-- Complete non-secret identity needed to validate and replay a campaign. -/
structure CampaignHeader where
  campaign : CampaignSpec
  modelSet : ModelSetManifest
  providerConfig : ResolvedProviderConfig
  tasks : List CampaignTask
  schedule : CampaignSchedule
deriving DecidableEq

/-! ### Identities -/

/-- SHA-256 in hexadecimal of the canonical bytes of a document, one function per domain. -/
class ScheduleDigests where
  harnessHex : MeteredProviderHarnessBinding → String
  campaignHex : CampaignSpec → String
  modelSetHex : ModelSetManifest → String
  taskOrderHex : Seed128Hex → Digest → String
  trialHex : TrialBinding → String
  scheduledTrialHex : ScheduledTrial → String
  profileHex : ProviderProfile → String
  configHex : ResolvedProviderConfig → String

section Build

variable [ScheduleDigests]

def canonicalDigest (hexdigest : String) : Digest := "sha256:" ++ hexdigest

def MeteredProviderHarnessBinding.digest (harness : MeteredProviderHarnessBinding) : Digest :=
  canonicalDigest (ScheduleDigests.harnessHex harness)

def CampaignSpec.digest (spec : CampaignSpec) : Digest :=
  canonicalDigest (ScheduleDigests.campaignHex spec)

def ModelSetManifest.digest (modelSet : ModelSetManifest) : Digest :=
  canonicalDigest (ScheduleDigests.modelSetHex modelSet)

def TrialBinding.digest (binding : TrialBinding) : Digest :=
  canonicalDigest (ScheduleDigests.trialHex binding)

def ScheduledTrial.digest (trial : ScheduledTrial) : Digest :=
  canonicalDigest (ScheduleDigests.scheduledTrialHex trial)

def ProviderProfile.digest (profile : ProviderProfile) : Digest :=
  canonicalDigest (ScheduleDigests.profileHex profile)

def ResolvedProviderConfig.digest (config : ResolvedProviderConfig) : Digest :=
  canonicalDigest (ScheduleDigests.configHex config)

/-- `_trial_id`. -/
def trialId (binding : TrialBinding) : Identifier :=
  "trial_" ++ removeLeading "sha256:" binding.digest

/-! ### Validators -/

def requireJcsInt (n : Nat) : Except CampaignError Unit :=
  raiseIf (JCS_INTEGER_MAX < n)
    (.valueError "Input should be less than or equal to 9007199254740991")

def TrialBinding.validateRoleCapability (binding : TrialBinding) : Except CampaignError Unit :=
  raiseIf (¬ campaignRoleAllowsCapability binding.taskRole binding.deviceCapability)
    (.valueError "campaign trial capability is not admitted for its role")

/-- The checks of a binding that is built from validated parts. -/
def TrialBinding.check (binding : TrialBinding) : Except CampaignError Unit := do
  requireJcsInt binding.repetitionIndex
  requireJcsInt binding.taskOrderIndex
  binding.validateRoleCapability

def ScheduledTrial.validateIdentity (trial : ScheduledTrial) : Except CampaignError Unit :=
  raiseIf (trial.trialId ≠ Schedule.trialId trial.binding)
    (.valueError "scheduled trial identifier does not match its binding")

def ScheduledTrial.check (trial : ScheduledTrial) : Except CampaignError Unit := do
  requireJcsInt trial.ordinal
  trial.validateIdentity

def CampaignSchedule.validateOrder (schedule : CampaignSchedule) : Except CampaignError Unit := do
  let ordered := schedule.orderedTaskReleaseDigests
  raiseIf (schedule.trials.map ScheduledTrial.ordinal ≠ List.range schedule.trials.length)
    (.valueError "campaign trial ordinals must be contiguous and zero-based")
  raiseIf (¬ (schedule.trials.map ScheduledTrial.trialId).Nodup)
    (.valueError "campaign schedule trial identities must be unique")
  raiseIf (¬ ordered.Nodup)
    (.valueError "campaign task order cannot contain duplicate releases")
  raiseIf (∃ trial ∈ schedule.trials, trial.binding.campaignDigest ≠ schedule.campaignDigest ∨
      ordered.idxOf? trial.binding.taskReleaseDigest ≠ some trial.binding.taskOrderIndex)
    (.valueError "campaign trial bindings do not match the schedule envelope")
  raiseIf (¬ SameSet (schedule.trials.map fun trial => trial.binding.taskReleaseDigest) ordered)
    (.valueError "campaign trials must cover every task in the frozen order")

/-- The checks of a schedule that is built from validated trials. -/
def CampaignSchedule.check (schedule : CampaignSchedule) : Except CampaignError Unit := do
  requireNonempty schedule.orderedTaskReleaseDigests
  requireNonempty schedule.trials
  schedule.validateOrder

/-! ### Building a schedule -/

def allRoles : List CampaignTaskRole :=
  [.rtlGeneration, .debugFormal, .synthesisQor, .staClosure, .physicalAnalog,
    .fpgaImplementation, .toolFailureRecovery, .longRunResume]

def effortRoles : List CampaignTaskRole :=
  [.rtlGeneration, .debugFormal, .synthesisQor, .staClosure, .physicalAnalog, .fpgaImplementation]

def checkTask (task : CampaignTask) : Except CampaignError Unit := do
  requirePaidCampaignTaskOrigin task.taskOrigin
  raiseIf (¬ campaignRoleAllowsCapability task.role task.deviceCapability)
    (.valueError "campaign task capability is not admitted for its role")

def checkTasks (campaign : CampaignSpec) (modelSet : ModelSetManifest)
    (tasks : List CampaignTask) : Except CampaignError Unit := do
  let roles := tasks.map CampaignTask.role
  raiseIf (modelSet.digest ≠ campaign.modelSetDigest)
    (.valueError "campaign model set digest does not match the supplied manifest")
  raiseIf (¬ (tasks.map CampaignTask.taskReleaseDigest).Nodup)
    (.valueError "campaign task release digests must be unique")
  raiseIf (¬ SameSet (tasks.map CampaignTask.taskReleaseDigest) campaign.taskReleaseDigests)
    (.valueError "campaign tasks must exactly cover the frozen task releases")
  raiseIf (¬ SameSet (tasks.map CampaignTask.environmentDigest) campaign.environmentDigests)
    (.valueError "campaign tasks must exactly cover the frozen environments")
  raiseIf (¬ SameSet (tasks.map fun task => task.harness.digest) campaign.harnessDigests)
    (.valueError "campaign tasks must exactly cover the frozen harnesses")
  foldSteps (fun _ task => checkTask task) ⟨⟩ tasks
  raiseIf (campaign.scope = .endToEndSmoke ∧
      ¬ (.rtlGeneration ∈ roles ∧ (.synthesisQor ∈ roles ∨ .staClosure ∈ roles) ∧
        (.physicalAnalog ∈ roles ∨ .fpgaImplementation ∈ roles)))
    (.valueError ("end-to-end smoke tasks must cover RTL generation, synthesis or STA, " ++
      "and physical, analog, or FPGA execution"))
  raiseIf ((campaign.scope = .modelComparisonPilot ∨ campaign.scope = .commonCore) ∧
      ¬ SameSet roles allRoles)
    (.valueError "pilot and common core tasks must cover every representative role")
  raiseIf (campaign.scope = .reasoningEffortSensitivity ∧ ¬ SameSet roles effortRoles)
    (.valueError "reasoning effort sensitivity tasks must cover the six representative roles")

/-- `route_by_id.get`. -/
def ModelSetManifest.route? (modelSet : ModelSetManifest) (routeId : Identifier) :
    Option ModelRoute :=
  modelSet.routes.find? fun route => route.routeId = routeId

/-- The routes of the campaign, all of them qualified for its requests. -/
def checkRoutes (campaign : CampaignSpec) (modelSet : ModelSetManifest) :
    Except CampaignError (List ModelRoute) := do
  let known := modelSet.routes.map fun route => route.routeId
  let reasoning := (modelSet.routes.filter fun route =>
    route.qualification.reasoningControl = .supported).map fun route => route.routeId
  raiseIf (∃ routeId ∈ campaign.routeIds, routeId ∉ known)
    (.valueError "campaign routes must exist in the frozen model set")
  raiseIf ((campaign.scope = .modelComparisonPilot ∨ campaign.scope = .commonCore) ∧
      ¬ SameSet campaign.routeIds known)
    (.valueError "comparison campaigns require every frozen qualified route")
  raiseIf (campaign.scope = .reasoningEffortSensitivity ∧ ¬ SameSet campaign.routeIds reasoning)
    (.valueError "reasoning effort sensitivity campaigns require every reasoning-qualified route")
  let routes ← campaign.routeIds.mapM fun routeId =>
    orRaise (modelSet.route? routeId) (.lookupError routeId)
  raiseIf (∃ route ∈ routes, route.qualification.reasoningControl ≠ .supported)
    (.valueError "campaign reasoning efforts require qualified route support")
  raiseIf (∃ route ∈ routes,
      route.qualification.requestedServiceTier ≠ some campaign.serviceTier)
    (.valueError "campaign service tier differs from its route qualifications")
  raiseIf (∃ route ∈ routes, campaign.tokenLimits.maxInputTokensPerRequest ≤
      route.qualification.observedInputTokenFloor)
    (.valueError "campaign input-token claim must exceed its observed route floor")
  return routes

/-- The releases by the digest of seed and release. -/
def orderedReleases (campaign : CampaignSpec) (tasks : List CampaignTask) : List Digest :=
  sortedOn (fun release => toLex
      (canonicalDigest (ScheduleDigests.taskOrderHex campaign.taskOrderSeed release), release))
    (tasks.map CampaignTask.taskReleaseDigest)

/-- `task_by_release[release]`. -/
def taskByRelease (tasks : List CampaignTask) (release : Digest) :
    Except CampaignError CampaignTask :=
  orRaise (tasks.find? fun task => task.taskReleaseDigest = release) (.lookupError release)

def trialBinding (campaign : CampaignSpec) (seed : Seed128Hex) (repetitionIndex : Nat)
    (task : CampaignTask) (taskOrderIndex : Nat) (route : ModelRoute) (effort : String) :
    TrialBinding where
  campaignDigest := campaign.digest
  taskReleaseDigest := task.taskReleaseDigest
  taskFamily := task.taskFamily
  taskOrigin := task.taskOrigin
  taskRole := task.role
  deviceCapability := task.deviceCapability
  environmentDigest := task.environmentDigest
  harness := task.harness
  routeId := route.routeId
  requestedModel := route.requestedModel
  qualifiedProviderReportedModel := route.providerReportedModel
  reasoningEffort := effort
  serviceTier := campaign.serviceTier
  observedInputTokenFloor := route.qualification.observedInputTokenFloor
  pairedSeed := seed
  repetitionIndex
  taskOrderIndex

/-- The four nested loops. -/
def trialBindings (campaign : CampaignSpec) (tasks : List CampaignTask)
    (routes : List ModelRoute) : List TrialBinding :=
  campaign.pairedTrialSeeds.zipIdx.flatMap fun repetition =>
    tasks.zipIdx.flatMap fun task =>
      routes.flatMap fun route =>
        campaign.reasoningEfforts.map fun effort =>
          trialBinding campaign repetition.1 repetition.2 task.1 task.2 route effort

/-- The body of the innermost loop. -/
def appendTrial (trials : List ScheduledTrial) (binding : TrialBinding) :
    Except CampaignError (List ScheduledTrial) := do
  binding.check
  let trial : ScheduledTrial :=
    { ordinal := trials.length, trialId := trialId binding, binding }
  trial.check
  return trials ++ [trial]

def buildCampaignSchedule (campaign : CampaignSpec) (modelSet : ModelSetManifest)
    (tasks : List CampaignTask) : Except CampaignError CampaignSchedule := do
  checkTasks campaign modelSet tasks
  let routes ← checkRoutes campaign modelSet
  let ordered := orderedReleases campaign tasks
  let orderedTasks ← ordered.mapM (taskByRelease tasks)
  let trials ← foldSteps appendTrial [] (trialBindings campaign orderedTasks routes)
  let schedule : CampaignSchedule :=
    { campaignDigest := campaign.digest
      modelSetDigest := modelSet.digest
      orderedTaskReleaseDigests := ordered
      trials }
  schedule.check
  return schedule

/-- The bindings of inputs that `build_campaign_schedule` does not reject. -/
def admitInputs (campaign : CampaignSpec) (modelSet : ModelSetManifest)
    (tasks : List CampaignTask) : Except CampaignError (List TrialBinding) := do
  checkTasks campaign modelSet tasks
  let routes ← checkRoutes campaign modelSet
  let orderedTasks ← (orderedReleases campaign tasks).mapM (taskByRelease tasks)
  return trialBindings campaign orderedTasks routes

/-! ### Headers -/

def normalizeTasks (tasks : List CampaignTask) : Except CampaignError (List CampaignTask) := do
  requireNonempty tasks
  raiseIf (¬ (tasks.map CampaignTask.taskReleaseDigest).Nodup)
    (.valueError "campaign header task releases must be unique")
  return sortedBy CampaignTask.taskReleaseDigest tasks

/-- The harness of a task is bound to the metered provider and to the inputs of the campaign. -/
def BoundHarness (campaign : CampaignSpec) (config : ResolvedProviderConfig)
    (task : CampaignTask) : Prop :=
  task.harness.providerProfileDigest = config.profile.digest ∧
    task.harness.providerConfigDigest = config.digest ∧
    task.harness.instructionDigest = campaign.promptDigest ∧
    task.harness.toolSchemaDigest = campaign.toolSchemaDigest

instance (campaign : CampaignSpec) (config : ResolvedProviderConfig) (task : CampaignTask) :
    Decidable (BoundHarness campaign config task) :=
  inferInstanceAs (Decidable (_ ∧ _))

def CampaignHeader.validateBindings (header : CampaignHeader) : Except CampaignError Unit := do
  raiseIf (header.providerConfig.digest ≠ header.modelSet.providerConfigDigest)
    (.valueError "provider configuration does not match the model set")
  raiseIf (∃ task ∈ header.tasks, ¬ BoundHarness header.campaign header.providerConfig task)
    (.valueError "campaign harness is not bound to the metered provider")
  let expected ← buildCampaignSchedule header.campaign header.modelSet header.tasks
  raiseIf (header.schedule ≠ expected)
    (.valueError "campaign schedule is not derived from its frozen inputs")

/-- `CampaignHeader(...)`, from parts that are models already. -/
def CampaignHeader.create (raw : CampaignHeader) : Except CampaignError CampaignHeader := do
  let tasks ← normalizeTasks raw.tasks
  let header := { raw with tasks }
  header.validateBindings
  return header

def ScheduledTrial.validate (raw : ScheduledTrial) : Except CampaignError ScheduledTrial := do
  let taskOrigin ← raw.binding.taskOrigin.validate
  let binding := { raw.binding with taskOrigin }
  binding.check
  let trial := { raw with binding }
  trial.check
  return trial

def CampaignSchedule.validate (raw : CampaignSchedule) : Except CampaignError CampaignSchedule := do
  let trials ← raw.trials.mapM ScheduledTrial.validate
  let schedule := { raw with trials }
  schedule.check
  return schedule

/-- `CampaignHeader.model_validate_json` after parsing: every part is validated anew. -/
def CampaignHeader.validate (raw : CampaignHeader) : Except CampaignError CampaignHeader := do
  let campaign ← raw.campaign.validate
  let modelSet ← raw.modelSet.validate
  let tasks ← raw.tasks.mapM CampaignTask.validate
  let schedule ← raw.schedule.validate
  CampaignHeader.create { raw with campaign, modelSet, tasks, schedule }

end Build

/-- Canonical JSON of headers, and the fields that a parsed document gives. -/
class HeaderCodec where
  headerBytes : CampaignHeader → Bytes
  parseHeader : Bytes → Option CampaignHeader

export HeaderCodec (headerBytes parseHeader)

/-- Parsing the canonical bytes of a header gives its fields. -/
def ParsesBack [HeaderCodec] (header : CampaignHeader) : Prop :=
  parseHeader (headerBytes header ++ [LF]) = some header

/-- How `CampaignJournal.open` reads the header file. -/
def openHeader [ScheduleDigests] [HeaderCodec] (content : Bytes) :
    Except CampaignJournalError CampaignHeader := do
  let raw ← orRaise (parseHeader content) (.corruption "campaign header is invalid")
  let header ← raw.validate.mapError fun _ => .corruption "campaign header is invalid"
  raiseIf (content ≠ headerBytes header ++ [LF])
    (.corruption "campaign header is not canonically encoded")
  return header

/-! ### Normal forms are kept -/

end Schedule

lemma TaskOrigin.validate_again {raw origin : TaskOrigin} (h : raw.validate = .ok origin) :
    origin.validate = .ok origin := by
  cases raw with
  | nativeSealed provenance =>
    simp only [validate, bind_eq_ok, pure_eq_ok] at h
    obtain ⟨normal, hnormal, rfl⟩ := h
    simp only [validate, normalizeUnique_again hnormal, ok_bind]
    rfl
  | publicCalibration sourceId snapshot resources license redistribution provenance =>
    simp only [validate, requireNonempty, bind_eq_ok, raiseIf_eq_ok, exists_const, pure_eq_ok] at h
    obtain ⟨hne, normal, hnormal, hne', hspace, normal', hnormal', rfl⟩ := h
    simp only [validate, requireNonempty, bind_eq_ok, raiseIf_eq_ok, exists_const, pure_eq_ok,
      normalizeUnique_length hnormal, normalizeUnique_length hnormal']
    refine ⟨hne, normal, normalizeUnique_again hnormal, hne', ?_, normal',
      normalizeUnique_again hnormal', rfl⟩
    rintro ⟨entry, hentry, hblank⟩
    obtain ⟨-, rfl⟩ := normalizeUnique_eq_ok.mp hnormal'
    exact hspace ⟨entry, mem_sortedStrings.mp hentry, hblank⟩

namespace Schedule

section Build

variable [ScheduleDigests]

omit [ScheduleDigests] in
lemma CampaignTask.validate_again {raw task : CampaignTask} (h : raw.validate = .ok task) :
    task.validate = .ok task := by
  simp only [validate, bind_eq_ok, pure_eq_ok] at h
  obtain ⟨origin, horigin, _, hne, _, hnodup, _, hrole, rfl⟩ := h
  simp only [validate, TaskOrigin.validate_again horigin, ok_bind, hne, hnodup, hrole]
  rfl

omit [ScheduleDigests] in
lemma CampaignTask.origin_again {task : CampaignTask} (h : Accepted CampaignTask.validate task) :
    task.taskOrigin.validate = .ok task.taskOrigin := by
  obtain ⟨raw, h⟩ := h
  simp only [validate, bind_eq_ok, pure_eq_ok] at h
  obtain ⟨origin, horigin, _, -, _, -, _, -, rfl⟩ := h
  exact TaskOrigin.validate_again horigin

/-! ### What the checks of the inputs leave -/

structure TasksAdmitted (campaign : CampaignSpec) (modelSet : ModelSetManifest)
    (tasks : List CampaignTask) : Prop where
  modelSet_eq : modelSet.digest = campaign.modelSetDigest
  releases_nodup : (tasks.map CampaignTask.taskReleaseDigest).Nodup
  releases : SameSet (tasks.map CampaignTask.taskReleaseDigest) campaign.taskReleaseDigests
  environments : SameSet (tasks.map CampaignTask.environmentDigest) campaign.environmentDigests
  harnesses : SameSet (tasks.map fun task => task.harness.digest) campaign.harnessDigests
  checked : ∀ task ∈ tasks, checkTask task = .ok ⟨⟩
  smoke : campaign.scope = .endToEndSmoke →
    .rtlGeneration ∈ tasks.map CampaignTask.role ∧
      (.synthesisQor ∈ tasks.map CampaignTask.role ∨ .staClosure ∈ tasks.map CampaignTask.role) ∧
      (.physicalAnalog ∈ tasks.map CampaignTask.role ∨
        .fpgaImplementation ∈ tasks.map CampaignTask.role)
  comparison : campaign.scope = .modelComparisonPilot ∨ campaign.scope = .commonCore →
    SameSet (tasks.map CampaignTask.role) allRoles
  sensitivity : campaign.scope = .reasoningEffortSensitivity →
    SameSet (tasks.map CampaignTask.role) effortRoles

variable {campaign : CampaignSpec} {modelSet : ModelSetManifest} {tasks : List CampaignTask}

lemma checkTasks_eq_ok :
    checkTasks campaign modelSet tasks = .ok ⟨⟩ ↔ TasksAdmitted campaign modelSet tasks := by
  simp only [checkTasks, bind_eq_ok, raiseIf_eq_ok, exists_const, foldSteps_unit_eq_ok,
    not_and_not_right, not_not]
  constructor
  · rintro ⟨h₁, h₂, h₃, h₄, h₅, h₆, h₇, h₈, h₉⟩
    exact ⟨h₁, h₂, h₃, h₄, h₅, h₆, h₇, h₈, h₉⟩
  · rintro ⟨h₁, h₂, h₃, h₄, h₅, h₆, h₇, h₈, h₉⟩
    exact ⟨h₁, h₂, h₃, h₄, h₅, h₆, h₇, h₈, h₉⟩

variable {tasks tasks' : List CampaignTask}

lemma TasksAdmitted.perm
    (h : TasksAdmitted campaign modelSet tasks)
    (hperm : tasks'.Perm tasks) : TasksAdmitted campaign modelSet tasks' where
  modelSet_eq := h.modelSet_eq
  releases_nodup := (hperm.map _).nodup_iff.mpr h.releases_nodup
  releases := h.releases.congr (hperm.map _)
  environments := h.environments.congr (hperm.map _)
  harnesses := h.harnesses.congr (hperm.map _)
  checked task htask := h.checked task (hperm.subset htask)
  smoke hscope := by
    simp only [(hperm.map CampaignTask.role).mem_iff]
    exact h.smoke hscope
  comparison hscope := (h.comparison hscope).congr (hperm.map _)
  sensitivity hscope := (h.sensitivity hscope).congr (hperm.map _)

omit [ScheduleDigests] in
/-- A key that occurs once finds the one element that has it. -/
lemma find?_key_eq_some {α κ : Type} [DecidableEq κ] {key : α → κ} {xs : List α} {k : κ} {x : α}
    (hnodup : (xs.map key).Nodup) :
    xs.find? (fun y => key y = k) = some x ↔ x ∈ xs ∧ key x = k := by
  constructor
  · intro h
    exact ⟨List.mem_of_find?_eq_some h, by simpa using List.find?_some h⟩
  · rintro ⟨hmem, rfl⟩
    have hfound : (xs.find? fun y => key y = key x).isSome :=
      List.find?_isSome.mpr ⟨x, hmem, decide_eq_true rfl⟩
    obtain ⟨y, hy⟩ := Option.isSome_iff_exists.mp hfound
    have hkey : key y = key x := by simpa using List.find?_some hy
    rw [hy, List.inj_on_of_nodup_map hnodup (List.mem_of_find?_eq_some hy) hmem hkey]

omit [ScheduleDigests] in
lemma taskByRelease_perm (hperm : tasks'.Perm tasks)
    (hnodup : (tasks.map CampaignTask.taskReleaseDigest).Nodup) :
    taskByRelease tasks' = taskByRelease tasks := by
  funext release
  have hnodup' : (tasks'.map CampaignTask.taskReleaseDigest).Nodup :=
    (hperm.map _).nodup_iff.mpr hnodup
  have hfind : (tasks'.find? fun task => task.taskReleaseDigest = release) =
      tasks.find? fun task => task.taskReleaseDigest = release := by
    apply Option.ext
    intro task
    rw [find?_key_eq_some hnodup', find?_key_eq_some hnodup, hperm.mem_iff]
  rw [taskByRelease, taskByRelease, hfind]

lemma orderedReleases_perm
    (hperm : tasks'.Perm tasks) :
    orderedReleases campaign tasks' = orderedReleases campaign tasks := by
  refine sortedOn_eq_of_perm ?_ (hperm.map _)
  intro a _ b _ hkey
  exact (Prod.mk.inj (toLex.injective hkey)).2

omit [ScheduleDigests] in
/-- Reading a list of keys finds elements with these keys, in order. -/
lemma map_key_lookups {α κ : Type} [DecidableEq κ] {key : α → κ} {missing : κ → CampaignError}
    {xs found : List α} {ks : List κ}
    (h : ks.mapM (fun k => orRaise (xs.find? fun x => key x = k) (missing k)) = .ok found) :
    found.map key = ks ∧ ∀ x ∈ found, x ∈ xs := by
  constructor
  · have hforall := mapM_eq_ok_iff.mp h
    clear h
    induction hforall with
    | nil => rfl
    | @cons k x ks found hfound _ ih =>
      have hkey := List.find?_some (orRaise_eq_ok.mp hfound)
      rw [List.map_cons, ih, of_decide_eq_true hkey]
  · intro x hx
    obtain ⟨k, -, hfound⟩ := exists_of_mem_mapM h hx
    exact List.mem_of_find?_eq_some (orRaise_eq_ok.mp hfound)

/-! ### The trials -/

def scheduledTrial (ordinal : Nat) (binding : TrialBinding) : ScheduledTrial where
  ordinal
  trialId := trialId binding
  binding

def numbered (bindings : List TrialBinding) : List ScheduledTrial :=
  bindings.zipIdx.map fun entry => scheduledTrial entry.2 entry.1

lemma appendTrial_eq_ok {trials trials' : List ScheduledTrial} {binding : TrialBinding} :
    appendTrial trials binding = .ok trials' ↔
      (binding.check = .ok ⟨⟩ ∧ trials.length ≤ JCS_INTEGER_MAX) ∧
        trials' = trials ++ [scheduledTrial trials.length binding] := by
  rw [eq_comm (a := trials')]
  simp only [appendTrial, ScheduledTrial.check, ScheduledTrial.validateIdentity, requireJcsInt,
    bind_eq_ok, raiseIf_eq_ok, exists_const, pure_eq_ok, not_lt, ne_eq,
    not_true_eq_false, not_false_eq_true, and_true, scheduledTrial, and_assoc]
  exact ⟨fun h => h.elim fun _ h => h, fun h => ⟨⟨⟩, h⟩⟩

lemma foldl_scheduledTrial (bindings : List TrialBinding) (trials : List ScheduledTrial) :
    bindings.foldl (fun trials binding => trials ++ [scheduledTrial trials.length binding]) trials =
      trials ++ (bindings.zipIdx trials.length).map fun entry =>
        scheduledTrial entry.2 entry.1 := by
  induction bindings generalizing trials with
  | nil => simp
  | cons binding bindings ih =>
    rw [List.foldl_cons, ih]
    simp

lemma appendTrials_eq_ok {bindings : List TrialBinding} {trials : List ScheduledTrial} :
    foldSteps appendTrial [] bindings = .ok trials ↔
      (∀ binding ∈ bindings, binding.check = .ok ⟨⟩) ∧
        bindings.length ≤ JCS_INTEGER_MAX + 1 ∧ trials = numbered bindings := by
  have hnumbered : bindings.foldl
      (fun trials binding => trials ++ [scheduledTrial trials.length binding]) [] =
      numbered bindings := by
    simpa [numbered] using foldl_scheduledTrial bindings []
  rw [foldSteps_eq_ok_iff fun _ _ _ => appendTrial_eq_ok, hnumbered]
  simp only [foldl_scheduledTrial, List.nil_append, List.length_map, List.length_zipIdx]
  constructor
  · rintro ⟨hall, rfl⟩
    refine ⟨?_, ?_, rfl⟩
    · intro binding hbinding
      obtain ⟨pre, post, hsplit⟩ := List.append_of_mem hbinding
      exact (hall pre binding post hsplit).1
    · rcases List.eq_nil_or_concat bindings with rfl | ⟨pre, binding, rfl⟩
      · simp
      · have hlast := (hall pre binding [] (by simp)).2
        simpa using hlast
  · rintro ⟨hall, hlength, rfl⟩
    refine ⟨?_, rfl⟩
    rintro pre binding post rfl
    refine ⟨hall binding (by simp), ?_⟩
    simp only [List.length_append, List.length_cons] at hlength
    omega

/-- The four coordinates of a trial. -/
def TrialBinding.cell (binding : TrialBinding) : Seed128Hex × Digest × Identifier × String :=
  (binding.pairedSeed, binding.taskReleaseDigest, binding.routeId, binding.reasoningEffort)

omit [ScheduleDigests] in
lemma flatMap_zipIdx_fst {α β : Type} (xs : List α) (f : α → List β) :
    (xs.zipIdx.flatMap fun entry => f entry.1) = xs.flatMap f := by
  conv_rhs => rw [← List.zipIdx_map_fst 0 xs, List.flatMap_map]

/-- The nested loops go through the product in its order. -/
lemma map_cell_trialBindings (campaign : CampaignSpec) (tasks : List CampaignTask)
    (routes : List ModelRoute) :
    (trialBindings campaign tasks routes).map TrialBinding.cell =
      campaign.pairedTrialSeeds ×ˢ (tasks.map CampaignTask.taskReleaseDigest) ×ˢ
        (routes.map fun route => route.routeId) ×ˢ campaign.reasoningEfforts := by
  simp only [trialBindings, List.map_flatMap, List.map_map, Function.comp_def, TrialBinding.cell,
    trialBinding, SProd.sprod, List.product, List.flatMap_map]
  rw [← flatMap_zipIdx_fst campaign.pairedTrialSeeds]
  refine congrArg (fun f => List.flatMap f campaign.pairedTrialSeeds.zipIdx) (funext ?_)
  intro repetition
  exact flatMap_zipIdx_fst tasks fun task => routes.flatMap fun route =>
    campaign.reasoningEfforts.map fun effort =>
      (repetition.1, task.taskReleaseDigest, route.routeId, effort)

variable {routes : List ModelRoute}

lemma mem_trialBindings {binding : TrialBinding} :
    binding ∈ trialBindings campaign tasks routes ↔
      ∃ repetition ∈ campaign.pairedTrialSeeds.zipIdx, ∃ task ∈ tasks.zipIdx, ∃ route ∈ routes,
        ∃ effort ∈ campaign.reasoningEfforts,
          trialBinding campaign repetition.1 repetition.2 task.1 task.2 route effort = binding := by
  simp only [trialBindings, List.mem_flatMap, List.mem_map]

omit [ScheduleDigests] in
lemma pairwise_zipIdx_snd {α : Type} (xs : List α) (n : Nat) :
    (xs.zipIdx n).Pairwise fun a b => a.2 < b.2 := by
  rw [← List.pairwise_map (f := Prod.snd) (R := (· < ·)), List.zipIdx_map_snd]
  exact List.pairwise_lt_range'

/-- One repetition is complete before the next begins. -/
lemma pairwise_repetition (campaign : CampaignSpec) (tasks : List CampaignTask)
    (routes : List ModelRoute) :
    (trialBindings campaign tasks routes).Pairwise
      fun a b => a.repetitionIndex ≤ b.repetitionIndex := by
  rw [trialBindings, List.pairwise_flatMap]
  constructor
  · intro repetition _
    refine List.pairwise_of_forall_mem_list ?_
    intro a ha b hb
    simp only [List.mem_flatMap, List.mem_map] at ha hb
    obtain ⟨_, -, _, -, _, -, rfl⟩ := ha
    obtain ⟨_, -, _, -, _, -, rfl⟩ := hb
    exact le_refl _
  · refine (pairwise_zipIdx_snd _ _).imp ?_
    intro first second hlt a ha b hb
    simp only [List.mem_flatMap, List.mem_map] at ha hb
    obtain ⟨_, -, _, -, _, -, rfl⟩ := ha
    obtain ⟨_, -, _, -, _, -, rfl⟩ := hb
    exact hlt.le

/-! ### The schedule as a product -/

/-- The cells of a campaign. -/
def CampaignSpec.cells (campaign : CampaignSpec) :
    Set (Seed128Hex × Digest × Identifier × String) :=
  { cell | cell.1 ∈ campaign.pairedTrialSeeds ∧ cell.2.1 ∈ campaign.taskReleaseDigests ∧
    cell.2.2.1 ∈ campaign.routeIds ∧ cell.2.2.2 ∈ campaign.reasoningEfforts }

def ScheduledTrial.cell (trial : ScheduledTrial) : Seed128Hex × Digest × Identifier × String :=
  trial.binding.cell

/-- The trials are the cells of the campaign, each once, repetition after repetition. -/
structure CampaignSchedule.Complete (schedule : CampaignSchedule) (campaign : CampaignSpec) :
    Prop where
  order : schedule.trials.map ScheduledTrial.cell =
    campaign.pairedTrialSeeds ×ˢ schedule.orderedTaskReleaseDigests ×ˢ campaign.routeIds ×ˢ
      campaign.reasoningEfforts
  releases : schedule.orderedTaskReleaseDigests.Perm campaign.taskReleaseDigests
  bijective : Set.BijOn ScheduledTrial.cell { trial | trial ∈ schedule.trials } campaign.cells
  nodup : schedule.trials.Nodup
  ordinals : schedule.trials.map ScheduledTrial.ordinal = List.range schedule.trials.length
  repetitions : ∀ trial ∈ schedule.trials,
    campaign.pairedTrialSeeds[trial.binding.repetitionIndex]? = some trial.binding.pairedSeed
  repetition_major : schedule.trials.Pairwise
    fun a b => a.binding.repetitionIndex ≤ b.binding.repetitionIndex

/-- What `build_campaign_schedule` computes from accepted inputs. -/
structure Built (campaign : CampaignSpec) (modelSet : ModelSetManifest)
    (tasks : List CampaignTask) (schedule : CampaignSchedule) (ordered : List CampaignTask)
    (routes : List ModelRoute) : Prop where
  admitted : TasksAdmitted campaign modelSet tasks
  routes_eq : checkRoutes campaign modelSet = .ok routes
  ordered_eq : (orderedReleases campaign tasks).mapM (taskByRelease tasks) = .ok ordered
  checked : ∀ binding ∈ trialBindings campaign ordered routes, binding.check = .ok ⟨⟩
  length_le : (trialBindings campaign ordered routes).length ≤ JCS_INTEGER_MAX + 1
  schedule_eq : schedule =
    { campaignDigest := campaign.digest
      modelSetDigest := modelSet.digest
      orderedTaskReleaseDigests := orderedReleases campaign tasks
      trials := numbered (trialBindings campaign ordered routes) }
  schedule_checked : schedule.check = .ok ⟨⟩

lemma buildCampaignSchedule_eq_ok
    {schedule : CampaignSchedule} :
    buildCampaignSchedule campaign modelSet tasks = .ok schedule ↔
      ∃ ordered routes, Built campaign modelSet tasks schedule ordered routes := by
  simp only [buildCampaignSchedule, bind_eq_ok, pure_eq_ok, appendTrials_eq_ok]
  constructor
  · rintro ⟨_, hadmitted, routes, hroutes, ordered, hordered, _, ⟨hchecked, hlength, rfl⟩, _,
      hschedule, rfl⟩
    exact ⟨ordered, routes, checkTasks_eq_ok.mp hadmitted, hroutes, hordered, hchecked, hlength,
      rfl, hschedule⟩
  · rintro ⟨ordered, routes, hbuilt⟩
    obtain ⟨hadmitted, hroutes, hordered, hchecked, hlength, rfl, hschedule⟩ := hbuilt
    exact ⟨⟨⟩, checkTasks_eq_ok.mpr hadmitted, routes, hroutes, ordered, hordered, _,
      ⟨hchecked, hlength, rfl⟩, ⟨⟩, hschedule, rfl⟩

lemma Built.perm
    {tasks tasks' ordered : List CampaignTask} {schedule : CampaignSchedule}
    (h : Built campaign modelSet tasks schedule ordered routes)
    (hperm : tasks'.Perm tasks) : Built campaign modelSet tasks' schedule ordered routes where
  admitted := h.admitted.perm hperm
  routes_eq := h.routes_eq
  ordered_eq := by
    rw [orderedReleases_perm hperm, taskByRelease_perm hperm h.admitted.releases_nodup]
    exact h.ordered_eq
  checked := h.checked
  length_le := h.length_le
  schedule_eq := by
    rw [orderedReleases_perm hperm]
    exact h.schedule_eq
  schedule_checked := h.schedule_checked

omit [ScheduleDigests] in
lemma map_routeId
    (h : checkRoutes campaign modelSet = .ok routes) :
    (routes.map fun route => route.routeId) = campaign.routeIds ∧
      ∀ route ∈ routes, route ∈ modelSet.routes := by
  simp only [checkRoutes, bind_eq_ok, pure_eq_ok] at h
  obtain ⟨_, -, _, -, _, -, _, hfound, _, -, _, -, _, -, rfl⟩ := h
  exact map_key_lookups hfound

lemma map_binding_numbered (bindings : List TrialBinding) :
    (numbered bindings).map ScheduledTrial.binding = bindings := by
  rw [numbered, List.map_map]
  exact List.zipIdx_map_fst 0 bindings

lemma map_ordinal_numbered (bindings : List TrialBinding) :
    (numbered bindings).map ScheduledTrial.ordinal = List.range bindings.length := by
  rw [numbered, List.map_map, List.range_eq_range']
  exact List.zipIdx_map_snd 0 bindings

lemma length_numbered (bindings : List TrialBinding) :
    (numbered bindings).length = bindings.length := by
  rw [numbered, List.length_map, List.length_zipIdx]

lemma mem_numbered {bindings : List TrialBinding} {trial : ScheduledTrial}
    (h : trial ∈ numbered bindings) :
    trial.binding ∈ bindings ∧ trial.trialId = trialId trial.binding ∧
      trial.ordinal < bindings.length := by
  obtain ⟨⟨binding, ordinal⟩, hentry, rfl⟩ := List.mem_map.mp h
  obtain ⟨hlt, hget⟩ := List.getElem?_eq_some_iff.mp (List.mk_mem_zipIdx_iff_getElem?.mp hentry)
  exact ⟨List.mem_of_getElem hget, rfl, hlt⟩

section Built

variable {campaign : CampaignSpec} {modelSet : ModelSetManifest}
  {tasks ordered : List CampaignTask} {schedule : CampaignSchedule} {routes : List ModelRoute}

lemma TasksAdmitted.releases_perm (h : TasksAdmitted campaign modelSet tasks)
    (hcampaign : campaign.Distinct) :
    (orderedReleases campaign tasks).Perm campaign.taskReleaseDigests := by
  refine (sortedOn_perm _ _).trans ?_
  refine (List.perm_ext_iff_of_nodup h.releases_nodup hcampaign.taskReleaseDigests).mpr ?_
  intro release
  exact h.releases.mem_iff

/-- The cells of the bindings, in the order of the loops. -/
lemma map_cell_bindings (hroutes : checkRoutes campaign modelSet = .ok routes)
    (hordered : (orderedReleases campaign tasks).mapM (taskByRelease tasks) = .ok ordered) :
    (trialBindings campaign ordered routes).map TrialBinding.cell =
      campaign.pairedTrialSeeds ×ˢ orderedReleases campaign tasks ×ˢ campaign.routeIds ×ˢ
        campaign.reasoningEfforts := by
  rw [map_cell_trialBindings, (map_routeId hroutes).1, (map_key_lookups hordered).1]

lemma nodup_cells (hcampaign : campaign.Distinct)
    (hadmitted : TasksAdmitted campaign modelSet tasks)
    (hroutes : checkRoutes campaign modelSet = .ok routes)
    (hordered : (orderedReleases campaign tasks).mapM (taskByRelease tasks) = .ok ordered) :
    ((trialBindings campaign ordered routes).map TrialBinding.cell).Nodup := by
  rw [map_cell_bindings hroutes hordered]
  have hreleases : (orderedReleases campaign tasks).Nodup :=
    (hadmitted.releases_perm hcampaign).nodup_iff.mpr hcampaign.taskReleaseDigests
  exact hcampaign.pairedTrialSeeds.product
    (hreleases.product (hcampaign.routeIds.product hcampaign.reasoningEfforts))

lemma Built.map_cell (h : Built campaign modelSet tasks schedule ordered routes) :
    schedule.trials.map ScheduledTrial.cell =
      (trialBindings campaign ordered routes).map TrialBinding.cell := by
  rw [h.schedule_eq]
  change (numbered _).map (TrialBinding.cell ∘ ScheduledTrial.binding) = _
  rw [← List.map_map, map_binding_numbered]

lemma mem_cells (hcampaign : campaign.Distinct) (hadmitted : TasksAdmitted campaign modelSet tasks)
    (cell : Seed128Hex × Digest × Identifier × String) :
    cell ∈ campaign.pairedTrialSeeds ×ˢ orderedReleases campaign tasks ×ˢ campaign.routeIds ×ˢ
        campaign.reasoningEfforts ↔ cell ∈ campaign.cells := by
  obtain ⟨seed, release, routeId, effort⟩ := cell
  simp only [List.mem_product, CampaignSpec.cells, Set.mem_ofPred_eq,
    (hadmitted.releases_perm hcampaign).mem_iff]

theorem Built.complete (h : Built campaign modelSet tasks schedule ordered routes)
    (hcampaign : campaign.Distinct) : schedule.Complete campaign := by
  have hcells := nodup_cells hcampaign h.admitted h.routes_eq h.ordered_eq
  have horder : schedule.trials.map ScheduledTrial.cell =
      campaign.pairedTrialSeeds ×ˢ orderedReleases campaign tasks ×ˢ campaign.routeIds ×ˢ
        campaign.reasoningEfforts := by
    rw [h.map_cell, map_cell_bindings h.routes_eq h.ordered_eq]
  rw [← h.map_cell] at hcells
  constructor
  case order => rw [horder, h.schedule_eq]
  case releases =>
    rw [h.schedule_eq]
    exact h.admitted.releases_perm hcampaign
  case bijective =>
    refine ⟨?_, ?_, ?_⟩
    · intro trial htrial
      rw [← mem_cells hcampaign h.admitted, ← horder]
      exact List.mem_map_of_mem htrial
    · intro a ha b hb hab
      exact List.inj_on_of_nodup_map hcells ha hb hab
    · intro cell hcell
      rw [← mem_cells hcampaign h.admitted, ← horder] at hcell
      exact List.mem_map.mp hcell
  case nodup => exact hcells.of_map _
  case ordinals =>
    rw [h.schedule_eq]
    simp only [map_ordinal_numbered, length_numbered]
  case repetitions =>
    intro trial htrial
    rw [h.schedule_eq] at htrial
    obtain ⟨repetition, hmem, task, -, route, -, effort, -, hbinding⟩ :=
      mem_trialBindings.mp (mem_numbered htrial).1
    rw [← hbinding]
    exact List.mk_mem_zipIdx_iff_getElem?.mp hmem
  case repetition_major =>
    have hmajor := pairwise_repetition campaign ordered routes
    rw [← map_binding_numbered (trialBindings campaign ordered routes), List.pairwise_map] at hmajor
    rw [h.schedule_eq]
    exact hmajor

/-! ### Accepted inputs have a schedule -/

/-- Distinct bindings of one schedule have distinct digests. -/
def DigestsDistinct (bindings : List TrialBinding) : Prop :=
  ∀ a ∈ bindings, ∀ b ∈ bindings, ScheduleDigests.trialHex a = ScheduleDigests.trialHex b → a = b

lemma trialId_eq (binding : TrialBinding) :
    trialId binding = "trial_" ++ ScheduleDigests.trialHex binding := by
  rw [trialId, TrialBinding.digest, canonicalDigest, removeLeading_append]

lemma nodup_trialIds
    (hcells : ((trialBindings campaign ordered routes).map TrialBinding.cell).Nodup)
    (hdigests : DigestsDistinct (trialBindings campaign ordered routes)) :
    ((numbered (trialBindings campaign ordered routes)).map ScheduledTrial.trialId).Nodup := by
  have hids : (numbered (trialBindings campaign ordered routes)).map ScheduledTrial.trialId =
      (trialBindings campaign ordered routes).map trialId := by
    conv_rhs => rw [← map_binding_numbered (trialBindings campaign ordered routes), List.map_map]
    exact List.map_congr_left fun trial htrial => (mem_numbered htrial).2.1
  rw [hids]
  refine List.Nodup.map_on ?_ (hcells.of_map _)
  intro a ha b hb hab
  rw [trialId_eq, trialId_eq] at hab
  exact hdigests a ha b hb (String.append_right_inj _ |>.mp hab)

lemma length_trialBindings (campaign : CampaignSpec) (ordered : List CampaignTask)
    (routes : List ModelRoute) :
    (trialBindings campaign ordered routes).length = campaign.pairedTrialSeeds.length *
      (ordered.length * (routes.length * campaign.reasoningEfforts.length)) := by
  have hlength := congrArg List.length (map_cell_trialBindings campaign ordered routes)
  simpa only [List.length_map, List.length_product] using hlength

/-- A list with members in all four dimensions is at least as long as two of them. -/
lemma length_le_trialBindings (hordered : ordered ≠ []) (hroutes : routes ≠ [])
    (hcampaign : campaign.Distinct) :
    campaign.pairedTrialSeeds.length ≤ (trialBindings campaign ordered routes).length ∧
      ordered.length ≤ (trialBindings campaign ordered routes).length ∧
      0 < (trialBindings campaign ordered routes).length := by
  have hseeds := List.length_pos_of_ne_nil hcampaign.pairedTrialSeeds_ne_nil
  have hefforts := List.length_pos_of_ne_nil hcampaign.reasoningEfforts_ne_nil
  have hordered := List.length_pos_of_ne_nil hordered
  have hrest := Nat.mul_pos (List.length_pos_of_ne_nil hroutes) hefforts
  rw [length_trialBindings]
  refine ⟨Nat.le_mul_of_pos_right _ (Nat.mul_pos hordered hrest), ?_,
    Nat.mul_pos hseeds (Nat.mul_pos hordered hrest)⟩
  exact (Nat.le_mul_of_pos_right _ hrest).trans (Nat.le_mul_of_pos_left _ hseeds)

variable {binding : TrialBinding}

omit [ScheduleDigests] in
lemma binding_check_eq_ok :
    binding.check = .ok ⟨⟩ ↔ binding.repetitionIndex ≤ JCS_INTEGER_MAX ∧
      binding.taskOrderIndex ≤ JCS_INTEGER_MAX ∧
      campaignRoleAllowsCapability binding.taskRole binding.deviceCapability := by
  simp only [TrialBinding.check, TrialBinding.validateRoleCapability, requireJcsInt, bind_eq_ok,
    raiseIf_eq_ok, exists_const, not_lt, not_not]

omit [ScheduleDigests] in
lemma checkTask_role {task : CampaignTask} (h : checkTask task = .ok ⟨⟩) :
    campaignRoleAllowsCapability task.role task.deviceCapability := by
  simp only [checkTask, bind_eq_ok, raiseIf_eq_ok, not_not] at h
  obtain ⟨_, -, hrole⟩ := h
  exact hrole

lemma bindings_checked (hcampaign : campaign.Distinct)
    (hadmitted : TasksAdmitted campaign modelSet tasks)
    (hordered : (orderedReleases campaign tasks).mapM (taskByRelease tasks) = .ok ordered)
    (hroutes : routes ≠ [])
    (hlength : (trialBindings campaign ordered routes).length ≤ JCS_INTEGER_MAX + 1)
    (hbinding : binding ∈ trialBindings campaign ordered routes) :
    binding.check = .ok ⟨⟩ := by
  obtain ⟨repetition, hrepetition, task, htask, route, -, effort, -, rfl⟩ :=
    mem_trialBindings.mp hbinding
  obtain ⟨hseed, -⟩ := List.getElem?_eq_some_iff.mp (List.mk_mem_zipIdx_iff_getElem?.mp hrepetition)
  obtain ⟨hindex, hget⟩ := List.getElem?_eq_some_iff.mp (List.mk_mem_zipIdx_iff_getElem?.mp htask)
  have hmem : task.1 ∈ ordered := List.mem_of_getElem hget
  obtain ⟨hseeds, htasks, -⟩ :=
    length_le_trialBindings (List.ne_nil_of_mem hmem) hroutes hcampaign
  refine binding_check_eq_ok.mpr ⟨?_, ?_, ?_⟩
  · change repetition.2 ≤ _
    omega
  · change task.2 ≤ _
    omega
  · exact checkTask_role (hadmitted.checked _ ((map_key_lookups hordered).2 _ hmem))

omit [ScheduleDigests] in
lemma schedule_check_eq_ok :
    schedule.check = .ok ⟨⟩ ↔ schedule.orderedTaskReleaseDigests.length ≠ 0 ∧
      schedule.trials.length ≠ 0 ∧ schedule.validateOrder = .ok ⟨⟩ := by
  simp only [CampaignSchedule.check, requireNonempty, bind_eq_ok, raiseIf_eq_ok, exists_const]

omit [ScheduleDigests] in
lemma idxOf?_eq_some {α : Type} [DecidableEq α] {xs : List α} {i : Nat} {x : α}
    (hnodup : xs.Nodup) (hget : xs[i]? = some x) : xs.idxOf? x = some i := by
  obtain ⟨hlt, rfl⟩ := List.getElem?_eq_some_iff.mp hget
  refine List.idxOf?_eq_some_iff.mpr ⟨hlt, rfl, ?_⟩
  intro j hj hsame
  have := (hnodup.getElem_inj_iff).mp hsame
  omega

lemma release_at
    (hordered : (orderedReleases campaign tasks).mapM (taskByRelease tasks) = .ok ordered)
    (hbinding : binding ∈ trialBindings campaign ordered routes) :
    (orderedReleases campaign tasks)[binding.taskOrderIndex]? = some binding.taskReleaseDigest := by
  obtain ⟨repetition, -, task, htask, route, -, effort, -, rfl⟩ := mem_trialBindings.mp hbinding
  have hget : ordered[task.2]? = some task.1 := List.mk_mem_zipIdx_iff_getElem?.mp htask
  rw [← (map_key_lookups hordered).1, List.getElem?_map]
  change ordered[task.2]?.map _ = _
  rw [hget]
  rfl

lemma exists_binding_of_release (hcampaign : campaign.Distinct)
    (hroutes : checkRoutes campaign modelSet = .ok routes)
    (hordered : (orderedReleases campaign tasks).mapM (taskByRelease tasks) = .ok ordered)
    {release : Digest} (hrelease : release ∈ orderedReleases campaign tasks) :
    ∃ binding ∈ trialBindings campaign ordered routes, binding.taskReleaseDigest = release := by
  obtain ⟨seed, hseed⟩ := List.exists_mem_of_ne_nil _ hcampaign.pairedTrialSeeds_ne_nil
  obtain ⟨routeId, hrouteId⟩ := List.exists_mem_of_ne_nil _ hcampaign.routeIds_ne_nil
  obtain ⟨effort, heffort⟩ := List.exists_mem_of_ne_nil _ hcampaign.reasoningEfforts_ne_nil
  have hcell : (seed, release, routeId, effort) ∈
      (trialBindings campaign ordered routes).map TrialBinding.cell := by
    rw [map_cell_bindings hroutes hordered]
    simp only [List.mem_product]
    exact ⟨hseed, hrelease, hrouteId, heffort⟩
  obtain ⟨binding, hbinding, heq⟩ := List.mem_map.mp hcell
  exact ⟨binding, hbinding, congrArg (fun cell => cell.2.1) heq⟩

/-- The trials of the product pass `CampaignSchedule.validate_order`. -/
lemma validateOrder_numbered (hcampaign : campaign.Distinct)
    (hadmitted : TasksAdmitted campaign modelSet tasks)
    (hroutes : checkRoutes campaign modelSet = .ok routes)
    (hordered : (orderedReleases campaign tasks).mapM (taskByRelease tasks) = .ok ordered)
    (hdigests : DigestsDistinct (trialBindings campaign ordered routes)) :
    CampaignSchedule.validateOrder
      { campaignDigest := campaign.digest
        modelSetDigest := modelSet.digest
        orderedTaskReleaseDigests := orderedReleases campaign tasks
        trials := numbered (trialBindings campaign ordered routes) } = .ok ⟨⟩ := by
  have hnodup : (orderedReleases campaign tasks).Nodup :=
    (hadmitted.releases_perm hcampaign).nodup_iff.mpr hcampaign.taskReleaseDigests
  have hids := nodup_trialIds (nodup_cells hcampaign hadmitted hroutes hordered) hdigests
  simp only [CampaignSchedule.validateOrder, bind_eq_ok, raiseIf_eq_ok, exists_const, not_not,
    ne_eq, not_exists, not_and, not_or]
  refine ⟨?_, hids, hnodup, ?_, ?_, ?_⟩
  · rw [map_ordinal_numbered, length_numbered]
  · intro trial htrial
    have hbinding := (mem_numbered htrial).1
    refine ⟨?_, idxOf?_eq_some hnodup (release_at hordered hbinding)⟩
    obtain ⟨_, -, _, -, _, -, _, -, hbinding⟩ := mem_trialBindings.mp hbinding
    rw [← hbinding]
    rfl
  · intro release hrelease
    obtain ⟨trial, htrial, rfl⟩ := List.mem_map.mp hrelease
    exact List.mem_of_getElem? (release_at hordered (mem_numbered htrial).1)
  · intro release hrelease
    obtain ⟨binding, hbinding, rfl⟩ :=
      exists_binding_of_release hcampaign hroutes hordered hrelease
    rw [← map_binding_numbered (trialBindings campaign ordered routes)] at hbinding
    obtain ⟨trial, htrial, rfl⟩ := List.mem_map.mp hbinding
    exact List.mem_map_of_mem htrial

/-- Accepted inputs make a schedule that passes its own checks. -/
theorem exists_built (hcampaign : campaign.Distinct)
    (hadmitted : TasksAdmitted campaign modelSet tasks)
    (hroutes : checkRoutes campaign modelSet = .ok routes)
    (hordered : (orderedReleases campaign tasks).mapM (taskByRelease tasks) = .ok ordered)
    (hlength : (trialBindings campaign ordered routes).length ≤ JCS_INTEGER_MAX + 1)
    (hdigests : DigestsDistinct (trialBindings campaign ordered routes)) :
    ∃ schedule, Built campaign modelSet tasks schedule ordered routes := by
  have hordered_ne : orderedReleases campaign tasks ≠ [] := by
    intro hnil
    have hperm := hadmitted.releases_perm hcampaign
    rw [hnil] at hperm
    exact hcampaign.taskReleaseDigests_ne_nil hperm.symm.eq_nil
  have hroutes_ne : routes ≠ [] := by
    intro hnil
    have hids := (map_routeId hroutes).1
    rw [hnil] at hids
    exact hcampaign.routeIds_ne_nil hids.symm
  have hne : ordered ≠ [] := by
    rintro rfl
    exact hordered_ne (map_key_lookups hordered).1.symm
  obtain ⟨-, -, hpos⟩ := length_le_trialBindings hne hroutes_ne hcampaign
  refine ⟨_, hadmitted, hroutes, hordered, ?_, hlength, rfl, ?_⟩
  · intro binding hbinding
    exact bindings_checked hcampaign hadmitted hordered hroutes_ne hlength hbinding
  · refine schedule_check_eq_ok.mpr ⟨?_, ?_, ?_⟩
    · exact (List.length_pos_of_ne_nil hordered_ne).ne'
    · change (numbered _).length ≠ 0
      rw [length_numbered]
      exact hpos.ne'
    · exact validateOrder_numbered hcampaign hadmitted hroutes hordered hdigests

/-! ### Headers keep their content -/

/-- A configuration that fits the model set and the harness of every task. -/
def MatchingConfig (campaign : CampaignSpec) (modelSet : ModelSetManifest)
    (tasks : List CampaignTask) (config : ResolvedProviderConfig) : Prop :=
  config.digest = modelSet.providerConfigDigest ∧ ∀ task ∈ tasks, BoundHarness campaign config task

/-- The header of a campaign has its tasks sorted by release. -/
def campaignHeader (campaign : CampaignSpec) (modelSet : ModelSetManifest)
    (config : ResolvedProviderConfig) (tasks : List CampaignTask) (schedule : CampaignSchedule) :
    CampaignHeader where
  campaign
  modelSet
  providerConfig := config
  tasks := sortedBy CampaignTask.taskReleaseDigest tasks
  schedule

variable {config : ResolvedProviderConfig}

lemma create_eq_ok
    (h : Built campaign modelSet tasks schedule ordered routes) (hcampaign : campaign.Distinct)
    (hconfig : MatchingConfig campaign modelSet tasks config) :
    CampaignHeader.create
        { campaign, modelSet, providerConfig := config, tasks, schedule } =
      .ok (campaignHeader campaign modelSet config tasks schedule) := by
  have hne : tasks.length ≠ 0 := by
    intro hzero
    have hnil := List.eq_nil_of_length_eq_zero hzero
    subst hnil
    obtain ⟨release, hrelease⟩ := List.exists_mem_of_ne_nil _ hcampaign.taskReleaseDigests_ne_nil
    exact absurd (h.admitted.releases.2 release hrelease) (List.not_mem_nil)
  have hbuild : buildCampaignSchedule campaign modelSet
      (sortedBy CampaignTask.taskReleaseDigest tasks) = .ok schedule :=
    buildCampaignSchedule_eq_ok.mpr ⟨ordered, routes, h.perm (sortedBy_perm _ tasks)⟩
  have htasks : normalizeTasks tasks = .ok (sortedBy CampaignTask.taskReleaseDigest tasks) := by
    simp only [normalizeTasks, requireNonempty, bind_eq_ok, raiseIf_eq_ok, exists_const, pure_eq_ok,
      not_not, and_true]
    exact ⟨hne, h.admitted.releases_nodup⟩
  simp only [CampaignHeader.create, htasks, ok_bind, CampaignHeader.validateBindings, hbuild,
    bind_eq_ok, raiseIf_eq_ok, exists_const, pure_eq_ok, not_not, ne_eq,
    not_exists, not_and, mem_sortedBy, not_true_eq_false, not_false_eq_true, and_true]
  exact ⟨⟨hconfig.1, hconfig.2⟩, rfl⟩

lemma Built.trials_check (h : Built campaign modelSet tasks schedule ordered routes)
    {trial : ScheduledTrial} (htrial : trial ∈ schedule.trials) :
    trial.binding.check = .ok ⟨⟩ ∧ trial.check = .ok ⟨⟩ := by
  rw [h.schedule_eq] at htrial
  obtain ⟨hbinding, hid, hlt⟩ := mem_numbered htrial
  refine ⟨h.checked _ hbinding, ?_⟩
  simp only [ScheduledTrial.check, ScheduledTrial.validateIdentity, requireJcsInt, bind_eq_ok,
    raiseIf_eq_ok, exists_const, not_lt, not_not, ne_eq]
  have hlength := h.length_le
  exact ⟨by omega, hid⟩

lemma Built.trial_origin (h : Built campaign modelSet tasks schedule ordered routes)
    (htasks : ∀ task ∈ tasks, Accepted CampaignTask.validate task) {trial : ScheduledTrial}
    (htrial : trial ∈ schedule.trials) :
    trial.binding.taskOrigin.validate = .ok trial.binding.taskOrigin := by
  rw [h.schedule_eq] at htrial
  obtain ⟨_, -, task, htask, _, -, _, -, hbinding⟩ :=
    mem_trialBindings.mp (mem_numbered htrial).1
  have hmem : task.1 ∈ ordered :=
    List.mem_of_getElem? (List.mk_mem_zipIdx_iff_getElem?.mp htask)
  rw [← hbinding]
  exact CampaignTask.origin_again (htasks _ ((map_key_lookups h.ordered_eq).2 _ hmem))

lemma Built.schedule_again (h : Built campaign modelSet tasks schedule ordered routes)
    (htasks : ∀ task ∈ tasks, Accepted CampaignTask.validate task) :
    schedule.validate = .ok schedule := by
  have htrials : schedule.trials.mapM ScheduledTrial.validate = .ok schedule.trials := by
    refine mapM_fixed ?_
    intro trial htrial
    obtain ⟨hbinding, hcheck⟩ := h.trials_check htrial
    simp only [ScheduledTrial.validate, h.trial_origin htasks htrial, ok_bind, hbinding, hcheck]
    rfl
  simp only [CampaignSchedule.validate, htrials, ok_bind, h.schedule_checked]
  rfl

/-- A header that was created is read back as it was written. -/
lemma openHeader_headerBytes [HeaderCodec]
    (h : Built campaign modelSet tasks schedule ordered routes)
    (hcodec : ParsesBack (campaignHeader campaign modelSet config tasks schedule))
    (hcampaign : Accepted CampaignSpec.validate campaign)
    (hmodelSet : Accepted ModelSetManifest.validate modelSet)
    (htasks : ∀ task ∈ tasks, Accepted CampaignTask.validate task)
    (hconfig : MatchingConfig campaign modelSet tasks config) :
    openHeader (headerBytes (campaignHeader campaign modelSet config tasks schedule) ++ [LF]) =
      .ok (campaignHeader campaign modelSet config tasks schedule) := by
  have hperm := sortedBy_perm CampaignTask.taskReleaseDigest tasks
  have htasks_again : (sortedBy CampaignTask.taskReleaseDigest tasks).mapM CampaignTask.validate =
      .ok (sortedBy CampaignTask.taskReleaseDigest tasks) := by
    refine mapM_fixed ?_
    intro task htask
    obtain ⟨raw, hraw⟩ := htasks task (hperm.subset htask)
    exact CampaignTask.validate_again hraw
  have hdistinct := CampaignSpec.distinct hcampaign
  obtain ⟨_, hcampaign⟩ := hcampaign
  obtain ⟨_, hmodelSet⟩ := hmodelSet
  have hconfig' : MatchingConfig campaign modelSet
      (sortedBy CampaignTask.taskReleaseDigest tasks) config :=
    ⟨hconfig.1, fun task htask => hconfig.2 task (hperm.subset htask)⟩
  have hvalidate : (campaignHeader campaign modelSet config tasks schedule).validate =
      .ok (campaignHeader campaign modelSet config tasks schedule) := by
    simp only [CampaignHeader.validate, campaignHeader, CampaignSpec.validate_again hcampaign,
      ModelSetManifest.validate_again hmodelSet, htasks_again, h.schedule_again htasks,
      ok_bind, create_eq_ok (h.perm hperm) hdistinct hconfig', sortedBy_sortedBy]
  have hparse : parseHeader (headerBytes (campaignHeader campaign modelSet config tasks schedule) ++
      [LF]) = some (campaignHeader campaign modelSet config tasks schedule) := hcodec
  simp only [openHeader, hparse, bind_eq_ok, orRaise_eq_ok, Except.mapError_eq_ok_iff,
    raiseIf_eq_ok, pure_eq_ok, Option.some.injEq]
  exact ⟨_, rfl, _, hvalidate, ⟨⟩, fun hne => hne rfl, rfl⟩

theorem campaign_schedule_complete [HeaderCodec]
    (hcampaign : Accepted CampaignSpec.validate campaign)
    (hmodelSet : Accepted ModelSetManifest.validate modelSet)
    (htasks : ∀ task ∈ tasks, Accepted CampaignTask.validate task) :
    (∀ bindings, admitInputs campaign modelSet tasks = .ok bindings →
        bindings.length ≤ JCS_INTEGER_MAX + 1 → DigestsDistinct bindings →
        ∃ schedule, buildCampaignSchedule campaign modelSet tasks = .ok schedule) ∧
      ∀ schedule, buildCampaignSchedule campaign modelSet tasks = .ok schedule →
        (∀ tasks', tasks'.Perm tasks →
            buildCampaignSchedule campaign modelSet tasks' = .ok schedule) ∧
          schedule.Complete campaign ∧ schedule.validateOrder = .ok ⟨⟩ ∧
          (∀ trial ∈ schedule.trials, trial.validateIdentity = .ok ⟨⟩) ∧
          ∀ config tasks', MatchingConfig campaign modelSet tasks config → tasks'.Perm tasks →
            ∃ header, CampaignHeader.create
                { campaign, modelSet, providerConfig := config, tasks := tasks', schedule } =
                .ok header ∧ header.schedule = schedule ∧
              (ParsesBack header → openHeader (headerBytes header ++ [LF]) = .ok header) := by
  have hdistinct := CampaignSpec.distinct hcampaign
  constructor
  · intro bindings hinputs hlength hdigests
    simp only [admitInputs, bind_eq_ok, pure_eq_ok] at hinputs
    obtain ⟨_, hadmitted, routes, hroutes, ordered, hordered, rfl⟩ := hinputs
    obtain ⟨schedule, hbuilt⟩ := exists_built hdistinct (checkTasks_eq_ok.mp hadmitted) hroutes
      hordered hlength hdigests
    exact ⟨schedule, buildCampaignSchedule_eq_ok.mpr ⟨ordered, routes, hbuilt⟩⟩
  · intro schedule hbuild
    obtain ⟨ordered, routes, hbuilt⟩ := buildCampaignSchedule_eq_ok.mp hbuild
    refine ⟨?_, hbuilt.complete hdistinct, ?_, ?_, ?_⟩
    · intro tasks' hperm
      exact buildCampaignSchedule_eq_ok.mpr ⟨ordered, routes, hbuilt.perm hperm⟩
    · exact (schedule_check_eq_ok.mp hbuilt.schedule_checked).2.2
    · intro trial htrial
      have hcheck := (hbuilt.trials_check htrial).2
      simp only [ScheduledTrial.check, bind_eq_ok] at hcheck
      obtain ⟨_, -, hidentity⟩ := hcheck
      exact hidentity
    · intro config tasks' hconfig hperm
      have hbuilt' := hbuilt.perm hperm
      have hconfig' : MatchingConfig campaign modelSet tasks' config :=
        ⟨hconfig.1, fun task htask => hconfig.2 task (hperm.subset htask)⟩
      refine ⟨_, create_eq_ok hbuilt' hdistinct hconfig', rfl, ?_⟩
      intro hcodec
      exact openHeader_headerBytes hbuilt' hcodec hcampaign hmodelSet
        (fun task htask => htasks task (hperm.subset htask)) hconfig'

/-! ### What accounting and reports read of a schedule -/

def MeteredProviderHarnessBinding.accounting (harness : MeteredProviderHarnessBinding) :
    EdaGym.MeteredProviderHarnessBinding where
  providerProfileDigest := harness.providerProfileDigest
  providerConfigDigest := harness.providerConfigDigest
  scaffoldDigest := harness.scaffoldDigest
  digest := harness.digest

def TrialBinding.accounting (binding : TrialBinding) : EdaGym.TrialBinding where
  campaignDigest := binding.campaignDigest
  taskReleaseDigest := binding.taskReleaseDigest
  taskFamily := binding.taskFamily
  environmentDigest := binding.environmentDigest
  harness := binding.harness.accounting
  routeId := binding.routeId
  requestedModel := binding.requestedModel
  reasoningEffort := binding.reasoningEffort
  serviceTier := binding.serviceTier
  observedInputTokenFloor := binding.observedInputTokenFloor
  pairedSeed := binding.pairedSeed
  repetitionIndex := binding.repetitionIndex

def ScheduledTrial.report (trial : ScheduledTrial) : ReportTrial where
  trialId := trial.trialId
  binding := trial.binding.accounting
  digest := trial.digest
  ordinal := trial.ordinal
  taskOrderIndex := trial.binding.taskOrderIndex
  deviceCapability := trial.binding.deviceCapability

/-- The schedule of a report header is one that was built. -/
theorem Built.scheduleValid (h : Built campaign modelSet tasks schedule ordered routes) :
    ScheduleValid campaign.digest schedule.orderedTaskReleaseDigests
      (schedule.trials.map ScheduledTrial.report) := by
  have horder := (schedule_check_eq_ok.mp h.schedule_checked).2.2
  have hdigest : schedule.campaignDigest = campaign.digest := by rw [h.schedule_eq]
  simp only [CampaignSchedule.validateOrder, bind_eq_ok, raiseIf_eq_ok, exists_const, not_not,
    ne_eq, not_exists, not_and, not_or] at horder
  obtain ⟨hordinals, hids, hnodup, hbindings, -, hcovers⟩ := horder
  constructor
  case ordinals =>
    rw [List.map_map, List.length_map]
    exact hordinals
  case ids_nodup =>
    rw [List.map_map]
    exact hids
  case ordered_nodup => exact hnodup
  case campaign_eq =>
    intro _ hreport
    obtain ⟨trial, htrial, rfl⟩ := List.mem_map.mp hreport
    exact (hbindings trial htrial).1.trans hdigest
  case index_eq =>
    intro _ hreport
    obtain ⟨trial, htrial, rfl⟩ := List.mem_map.mp hreport
    obtain ⟨hlt, hget, -⟩ := List.idxOf?_eq_some_iff.mp (hbindings trial htrial).2
    exact List.getElem?_eq_some_iff.mpr ⟨hlt, hget⟩
  case covers =>
    intro release hrelease
    obtain ⟨trial, htrial, rfl⟩ := List.mem_map.mp (hcovers release hrelease)
    exact ⟨trial.report, List.mem_map_of_mem htrial, rfl⟩

/-- Every trial of a schedule is bound to a task, a route and the provider of the header. -/
theorem Built.report_bound
    (h : Built campaign modelSet tasks schedule ordered routes)
    (hconfig : MatchingConfig campaign modelSet tasks config) {reported : ReportTrial}
    (hreported : reported ∈ schedule.trials.map ScheduledTrial.report) :
    (∃ task ∈ tasks, task.taskReleaseDigest = reported.binding.taskReleaseDigest) ∧
      (∃ route ∈ modelSet.routes, route.routeId = reported.binding.routeId) ∧
      reported.binding.harness.providerProfileDigest = config.profile.digest ∧
      reported.binding.harness.providerConfigDigest = config.digest ∧
      reported.binding.serviceTier = campaign.serviceTier := by
  obtain ⟨trial, htrial, rfl⟩ := List.mem_map.mp hreported
  rw [h.schedule_eq] at htrial
  obtain ⟨_, -, task, htask, route, hroute, _, -, hbinding⟩ :=
    mem_trialBindings.mp (mem_numbered htrial).1
  have hordered : task.1 ∈ ordered :=
    List.mem_of_getElem? (List.mk_mem_zipIdx_iff_getElem?.mp htask)
  have hmem := (map_key_lookups h.ordered_eq).2 _ hordered
  obtain ⟨hprofile, hconfig', -⟩ := hconfig.2 _ hmem
  simp only [ScheduledTrial.report, ← hbinding]
  exact ⟨⟨task.1, hmem, rfl⟩, ⟨route, (map_routeId h.routes_eq).2 route hroute, rfl⟩, hprofile,
    hconfig', rfl⟩

end Built

end Build

section TwoTasks

local instance twoTaskDigests : ScheduleDigests where
  harnessHex harness := harness.harnessId
  campaignHex campaign := campaign.campaignId
  modelSetHex modelSet := modelSet.discoveryDigest
  taskOrderHex seed release := seed ++ release
  trialHex binding := String.intercalate "/"
    [binding.pairedSeed, binding.taskReleaseDigest, binding.routeId, binding.reasoningEffort]
  scheduledTrialHex trial := trial.trialId
  profileHex profile := profile.logicalId
  configHex config := config.selectedProviderLabel

/-- Two tasks on one route with two reasoning efforts. -/
def breadthCampaign : CampaignSpec where
  campaignId := "breadth"
  scope := .expandedBreadth
  modelSetDigest := "sha256:models"
  routeIds := ["route"]
  taskReleaseDigests := ["r1", "r2"]
  environmentDigests := ["e"]
  harnessDigests := ["sha256:harness"]
  promptDigest := "prompt"
  toolSchemaDigest := "schema"
  feedbackPolicyDigest := "feedback"
  reasoningEfforts := ["high", "low"]
  serviceTier := "default"
  pairedTrialSeeds := ["s"]
  taskOrderSeed := "o"
  retryPolicy := twoRequestHeader.campaign.retryPolicy
  tokenLimits := twoRequestHeader.campaign.tokenLimits
  executionLimits := twoRequestHeader.campaign.executionLimits
  providerSpendLimit := .capped "USD" 10 (by norm_num)

def breadthModelSet : ModelSetManifest where
  providerConfigDigest := "sha256:config"
  discoveryDigest := "models"
  resolvedOn := "2026-01-01"
  routes := [{
    routeId := "route"
    requestedModel := "m"
    providerReportedModel := "m-1"
    referenceKind := .snapshot
    categories := [.balanced, .codingAgent, .frontierReasoning, .highThroughput]
    qualification := {
      reasoningControl := .supported
      requestedServiceTier := some "default"
      canaryToolSchemaDigest := "schema"
      canaryEvidenceDigest := "evidence" } }]

def breadthHarness : MeteredProviderHarnessBinding where
  harnessId := "harness"
  providerProfileDigest := "sha256:profile"
  providerConfigDigest := "sha256:config"
  instructionDigest := "prompt"
  toolSchemaDigest := "schema"
  scaffoldDigest := "scaffold"
  maximumRequestsPerAction := 1

def breadthTask (release : Digest) : CampaignTask where
  taskReleaseDigest := release
  taskFamily := "adder"
  role := .rtlGeneration
  deviceCapability := .rtlSimulation
  environmentDigest := "e"
  harness := breadthHarness
  evaluatorStageIds := ["compile"]

def breadthConfig : ResolvedProviderConfig where
  selectedProviderLabel := "config"
  profile := { logicalId := "profile", origin := "https://provider.example" }
  defaults := { requestedModel := "m" }

def breadthTrials : List TrialBinding :=
  trialBindings breadthCampaign [breadthTask "r1", breadthTask "r2"] breadthModelSet.routes

def breadthSchedule : CampaignSchedule where
  campaignDigest := "sha256:breadth"
  modelSetDigest := "sha256:models"
  orderedTaskReleaseDigests := ["r1", "r2"]
  trials := numbered breadthTrials

def breadthHeader : CampaignHeader :=
  campaignHeader breadthCampaign breadthModelSet breadthConfig [breadthTask "r1", breadthTask "r2"]
    breadthSchedule

local instance twoTaskCodec : HeaderCodec where
  headerBytes header := header.campaign.campaignId.toUTF8.toList
  parseHeader content :=
    if content = breadthHeader.campaign.campaignId.toUTF8.toList ++ [LF] then some breadthHeader
    else none

/-- The tasks in either order give the same four trials and the same header. -/
theorem breadthSchedule_complete :
    (∃ schedule, buildCampaignSchedule breadthCampaign breadthModelSet
        [breadthTask "r1", breadthTask "r2"] = .ok schedule) ∧
      buildCampaignSchedule breadthCampaign breadthModelSet
        [breadthTask "r2", breadthTask "r1"] = .ok breadthSchedule ∧
      breadthSchedule.Complete breadthCampaign ∧
      openHeader (headerBytes breadthHeader ++ [LF]) = .ok breadthHeader := by
  have htasks : ∀ task ∈ [breadthTask "r1", breadthTask "r2"],
      Accepted CampaignTask.validate task := by
    intro task htask
    refine ⟨task, ?_⟩
    revert task
    decide +kernel
  have hcampaign : Accepted CampaignSpec.validate breadthCampaign :=
    ⟨breadthCampaign, by decide +kernel⟩
  have hmodelSet : Accepted ModelSetManifest.validate breadthModelSet :=
    ⟨breadthModelSet, by decide +kernel⟩
  obtain ⟨hexists, hcomplete⟩ := campaign_schedule_complete hcampaign hmodelSet htasks
  have hdigests : DigestsDistinct breadthTrials := by
    unfold DigestsDistinct
    decide +kernel
  obtain ⟨hperm, hproduct, -, -, hheader⟩ := hcomplete breadthSchedule (by decide +kernel)
  refine ⟨hexists breadthTrials (by decide +kernel) (by decide +kernel) hdigests, ?_, hproduct, ?_⟩
  · exact hperm _ (List.Perm.swap _ _ _)
  · have hconfig : MatchingConfig breadthCampaign breadthModelSet
        [breadthTask "r1", breadthTask "r2"] breadthConfig :=
      ⟨by decide +kernel, by decide +kernel⟩
    obtain ⟨header, hcreate, -, hopen⟩ := hheader breadthConfig _ hconfig (List.Perm.refl _)
    have hsame : header = breadthHeader := by
      have hbreadth : CampaignHeader.create
          { campaign := breadthCampaign, modelSet := breadthModelSet,
            providerConfig := breadthConfig, tasks := [breadthTask "r1", breadthTask "r2"],
            schedule := breadthSchedule } = .ok breadthHeader := by
        decide +kernel
      rw [hbreadth] at hcreate
      exact (Except.ok.inj hcreate).symm
    rw [hsame] at hopen
    exact hopen (if_pos rfl)

end TwoTasks

end Schedule

end EdaGym
