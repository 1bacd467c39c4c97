import EdaGym.Providers.ReportOrder

/-!
# Campaign evidence of a release report

Every finished campaign enters the release report as one summary, derived from its record, its
report, the canary evidence of the routes of its model set and a discovery snapshot. This is the
call without an end-to-end bundle: no summary carries run evidence.
-/

namespace EdaGym

deriving instance DecidableEq for TrialRunOutcome, TrialReport, GroupTotals, TaskAggregate,
  DeviceAggregate, ModelAggregate, ModelEffortAggregate, ModelCategoryAggregate, CampaignReport

end EdaGym

namespace EdaGym.Release

inductive ReleaseEvidenceStatus
  | passed | failed | unavailable
deriving DecidableEq, Repr

structure EvidenceCounts where
  passed : Nat
  failed : Nat
  unavailable : Nat
  total : Nat
  partition : total = passed + failed + unavailable
deriving DecidableEq

lemma length_eq_counts (statuses : List ReleaseEvidenceStatus) : statuses.length =
    statuses.count .passed + statuses.count .failed + statuses.count .unavailable := by
  induction statuses with
  | nil => rfl
  | cons status statuses ih =>
    cases status <;> simp only [List.length_cons, List.count_cons, beq_iff_eq, reduceCtorEq,
      if_true, if_false] <;> omega

def evidenceCounts (statuses : List ReleaseEvidenceStatus) : EvidenceCounts where
  passed := statuses.count .passed
  failed := statuses.count .failed
  unavailable := statuses.count .unavailable
  total := statuses.length
  partition := length_eq_counts statuses

def evidenceStatus (counts : EvidenceCounts) : ReleaseEvidenceStatus :=
  if counts.failed ≠ 0 then .failed
  else if counts.unavailable ≠ 0 then .unavailable
  else .passed

def COMPARABLE_TRIAL_STOP_REASONS : List StopReason :=
  [.verifierSuccess, .unrankable, .wallBudget, .edaComputeBudget, .experimentBudget,
    .interactionBudget, .toolCallBudget, .tokenBudget, .licenseBudget, .storageBudget]

/-- A provider catalog, or a fallback, that canary routes were selected from. -/
structure ModelDiscoverySnapshot where
  providerProfileDigest : Digest
  providerConfigDigest : Digest
  selectedProviderLabel : String
  modelLabels : List ModelLabel
  /-- The canonical digest of the snapshot. -/
  digest : Digest

/-- The result of one route's single paid protocol request. -/
structure RouteCanaryEvidence where
  requestedModel : ModelLabel
  providerReportedModel : ModelLabel
  reasoningControl : Schedule.FeatureSupport
  serviceTierRequested : Option ServiceTierLabel := none
  providerReportedServiceTier : Option ServiceTierLabel := none
  toolSchemaDigest : Digest
  observedInputTokenFloor : Nat
  /-- The canonical digest of the evidence. -/
  digest : Digest

/-- The qualification of the route is what this canary observed. -/
def RouteCanaryEvidence.Qualifies (canary : RouteCanaryEvidence) (route : Schedule.ModelRoute) :
    Prop :=
  canary.requestedModel = route.requestedModel ∧
    canary.providerReportedModel = route.providerReportedModel ∧
    canary.reasoningControl = route.qualification.reasoningControl ∧
    canary.toolSchemaDigest = route.qualification.canaryToolSchemaDigest ∧
    canary.observedInputTokenFloor = route.qualification.observedInputTokenFloor ∧
    canary.serviceTierRequested = route.qualification.requestedServiceTier ∧
    canary.providerReportedServiceTier = route.qualification.providerReportedServiceTier

instance (canary : RouteCanaryEvidence) (route : Schedule.ModelRoute) :
    Decidable (canary.Qualifies route) :=
  inferInstanceAs (Decidable (_ ∧ _))

/-- The digests of whole documents that a summary repeats. -/
class ReleaseDigests [Canonical] where
  header : Schedule.CampaignHeader → Digest
  comparison : Schedule.CampaignHeader → Digest
  controlledVariables : Schedule.CampaignHeader → Digest
  taskBinding : Schedule.CampaignTask → Digest
  report : CampaignReport → Digest

structure CampaignTaskBindingEvidence where
  taskReleaseDigest : Digest
  bindingDigest : Digest
deriving DecidableEq

structure CampaignEvidence where
  campaignDigest : Digest
  campaignScope : CampaignScope
  campaignHeaderDigest : Digest
  scheduleDigest : Digest
  campaignRecordDigest : Digest
  reportDigest : Digest
  modelSetDigest : Digest
  modelDiscoveryDigest : Digest
  comparisonDigest : Digest
  controlledVariablesDigest : Digest
  providerLogicalId : Identifier
  providerProfileDigest : Digest
  providerConfigDigest : Digest
  routeIds : List Identifier
  routeCanaryEvidenceDigests : List Digest
  taskBindings : List CampaignTaskBindingEvidence
  reasoningEfforts : List String
  pairedTrialSeeds : List Seed128Hex
  coveredModelCategories : List ModelCategory
  uncoveredCategories : List Schedule.UncoveredCategory
  positiveUsageTrialCount : Nat
  unknownUsageAttemptCount : Nat
  serviceTierAccounting : ServiceTierAccounting
  counts : EvidenceCounts
  budgetViolation : Bool
  status : ReleaseEvidenceStatus
deriving DecidableEq

namespace CampaignEvidence

def normalizeTaskBindings (bindings : List CampaignTaskBindingEvidence) :
    Except CampaignError (List CampaignTaskBindingEvidence) := do
  raiseIf (bindings = [] ∨
      ¬ (bindings.map CampaignTaskBindingEvidence.taskReleaseDigest).Nodup ∨
      ¬ (bindings.map CampaignTaskBindingEvidence.bindingDigest).Nodup)
    (.valueError "campaign task bindings must have unique immutable identities")
  return sortedBy CampaignTaskBindingEvidence.taskReleaseDigest bindings

def validateSummary (evidence : CampaignEvidence) : Except CampaignError Unit := do
  let counts := evidence.counts
  raiseIf (counts.total = 0)
    (.valueError "campaign evidence must contain at least one scheduled trial")
  raiseIf (evidence.routeIds = [] ∨ ¬ evidence.routeIds.Nodup)
    (.valueError "campaign evidence requires unique model routes")
  raiseIf (evidence.routeCanaryEvidenceDigests.length ≠ evidence.routeIds.length)
    (.valueError "campaign evidence requires one canary source per model route")
  raiseIf (counts.total ≠ evidence.taskBindings.length * evidence.routeIds.length *
      evidence.reasoningEfforts.length * evidence.pairedTrialSeeds.length)
    (.valueError "campaign counts must match the selected scope and route set")
  let covered := evidence.coveredModelCategories.filter (· ∈ Schedule.REQUIRED_MODEL_CATEGORIES)
  let uncovered := evidence.uncoveredCategories.map Schedule.UncoveredCategory.category
  raiseIf ((∃ category ∈ covered, category ∈ uncovered) ∨
      ¬ SameSet (covered ++ uncovered) Schedule.REQUIRED_MODEL_CATEGORIES)
    (.valueError "campaign model category evidence must be disjoint")
  raiseIf (counts.total < evidence.positiveUsageTrialCount)
    (.valueError "positive campaign usage cannot exceed scheduled trials")
  raiseIf (evidence.budgetViolation = true ∧ counts.failed = 0)
    (.valueError "campaign budget violations require failed trial evidence")
  raiseIf (evidence.status ≠ evidenceStatus counts)
    (.valueError "campaign status must be derived from its trial evidence")
  raiseIf (evidence.status = .passed ∧ (evidence.positiveUsageTrialCount ≠ counts.total ∨
      evidence.unknownUsageAttemptCount ≠ 0))
    (.valueError "passing paid campaigns require complete positive usage evidence")

def validate (raw : CampaignEvidence) : Except CampaignError CampaignEvidence := do
  let unique := "campaign route identities must be unique"
  let routeIds ← normalizeUnique unique raw.routeIds
  let routeCanaryEvidenceDigests ← normalizeUnique unique raw.routeCanaryEvidenceDigests
  let taskBindings ← normalizeTaskBindings raw.taskBindings
  let reasoningEfforts ← normalizeUnique unique raw.reasoningEfforts
  let pairedTrialSeeds ← normalizeUnique unique raw.pairedTrialSeeds
  raiseIf (¬ raw.coveredModelCategories.Nodup) (.valueError unique)
  raiseIf (¬ (raw.uncoveredCategories.map Schedule.UncoveredCategory.category).Nodup)
    (.valueError "campaign model category exclusions must be unique")
  let evidence := { raw with
    routeIds
    routeCanaryEvidenceDigests
    taskBindings
    reasoningEfforts
    pairedTrialSeeds
    coveredModelCategories := sortedBy ModelCategory.value raw.coveredModelCategories
    uncoveredCategories := sortedBy (fun item => item.category.value) raw.uncoveredCategories }
  evidence.validateSummary
  return evidence

end CampaignEvidence

/-! ### Trials -/

section Trials

variable [Canonical]

def hasPositiveUsage (report : TrialReport) : Bool :=
  report.providerAttempts.any fun attempt =>
    decide (attempt.disposition = .completed) &&
      attempt.providerUsage.any fun usage => decide (0 < usage.totalTokens)

def trialStatus (report : TrialReport) : ReleaseEvidenceStatus :=
  if report.accountingViolation = true ∨ report.outcome.disposition = .failedBeforeRun ∨
      ∃ attempt ∈ report.providerAttempts, attempt.providerUsage = none then .failed
  else if report.outcome.disposition = .notDispatched then .unavailable
  else if report.outcome.terminalReason ∉ COMPARABLE_TRIAL_STOP_REASONS ∨
      hasPositiveUsage report = false then .failed
  else .passed

end Trials

/-! ### Records -/

section Records

variable [Canonical] [ScheduleCanonical] [Schedule.ScheduleDigests]

/-- An accepted header, with the part of it that the ledger and the report read. -/
structure ReleaseHeader extends Schedule.CampaignHeader where
  ledger : ReportHeader
  campaign_accepted : Accepted Schedule.CampaignSpec.validate campaign
  modelSet_accepted : Accepted Schedule.ModelSetManifest.validate modelSet
  created : ∃ raw, Schedule.CampaignHeader.create raw = .ok toCampaignHeader
  ledger_campaign : ledger.campaign.digest = campaign.digest
  ledger_trials : ledger.reportTrials = schedule.trials.map Schedule.ScheduledTrial.report

structure CampaignRecord where
  header : ReleaseHeader
  events : List CampaignEvent
  integrityDigest : Digest

def CampaignRecord.campaignDigest (record : CampaignRecord) : Digest :=
  record.header.campaign.digest

variable [CampaignCanonical] [ReleaseDigests]

def CampaignRecord.report (record : CampaignRecord) : Except CampaignError CampaignReport :=
  projectCampaignReport record.header.ledger record.integrityDigest record.events

def modelDiscoverySource (provider : Schedule.ResolvedProviderConfig)
    (modelSet : Schedule.ModelSetManifest) (discoveries : List ModelDiscoverySnapshot) :
    Except CampaignError Digest := do
  let message := "model set does not match its exact discovery source"
  let discovery ← orRaise
    (discoveries.find? fun item => item.digest = modelSet.discoveryDigest) (.valueError message)
  let selectedModels := modelSet.routes.map (fun route => route.requestedModel) ++
    modelSet.exclusions.map Schedule.ExcludedRoute.requestedModel
  raiseIf (discovery.providerProfileDigest ≠ provider.profile.digest ∨
      discovery.providerConfigDigest ≠ provider.digest ∨
      discovery.providerConfigDigest ≠ modelSet.providerConfigDigest ∨
      discovery.selectedProviderLabel ≠ provider.selectedProviderLabel ∨
      ¬ ∀ model ∈ selectedModels, model ∈ discovery.modelLabels)
    (.valueError message)
  return discovery.digest

def routeCanarySource (canaries : List RouteCanaryEvidence) (route : Schedule.ModelRoute) :
    Except CampaignError Digest := do
  let message := "model route qualification does not match its paid canary source"
  let canary ← orRaise
    (canaries.find? fun item => item.digest = route.qualification.canaryEvidenceDigest)
    (.valueError message)
  raiseIf (¬ canary.Qualifies route) (.valueError message)
  return route.qualification.canaryEvidenceDigest

def routeCanarySources (modelSet : Schedule.ModelSetManifest)
    (canaries : List RouteCanaryEvidence) : Except CampaignError (List Digest) :=
  modelSet.routes.mapM (routeCanarySource canaries)

/-- The summary of one campaign, before its own validators. -/
def summary (record : CampaignRecord) (report : CampaignReport) (discoveryDigest : Digest)
    (campaignCanaries : List Digest) : CampaignEvidence :=
  let header := record.header
  let counts := evidenceCounts (report.trials.map trialStatus)
  { campaignDigest := header.campaign.digest
    campaignScope := header.campaign.scope
    campaignHeaderDigest := ReleaseDigests.header header.toCampaignHeader
    scheduleDigest := report.scheduleDigest
    campaignRecordDigest := record.integrityDigest
    reportDigest := ReleaseDigests.report report
    modelSetDigest := header.modelSet.digest
    modelDiscoveryDigest := discoveryDigest
    comparisonDigest := ReleaseDigests.comparison header.toCampaignHeader
    controlledVariablesDigest := ReleaseDigests.controlledVariables header.toCampaignHeader
    providerLogicalId := header.providerConfig.profile.logicalId
    providerProfileDigest := header.providerConfig.profile.digest
    providerConfigDigest := header.providerConfig.digest
    routeIds := header.campaign.routeIds
    routeCanaryEvidenceDigests := campaignCanaries
    taskBindings := header.tasks.map fun task =>
      ⟨task.taskReleaseDigest, ReleaseDigests.taskBinding task⟩
    reasoningEfforts := header.campaign.reasoningEfforts
    pairedTrialSeeds := header.campaign.pairedTrialSeeds
    coveredModelCategories := (header.modelSet.routes.flatMap fun route => route.categories).dedup
    uncoveredCategories := header.modelSet.uncoveredCategories
    positiveUsageTrialCount := report.trials.countP hasPositiveUsage
    unknownUsageAttemptCount := report.tokenAccounting.unknownUsageAttempts
    serviceTierAccounting := report.serviceTierAccounting
    counts
    budgetViolation := report.budgetViolation
    status := evidenceStatus counts }

def recordEvidence (reports : List CampaignReport) (discoveries : List ModelDiscoverySnapshot)
    (canaries : List RouteCanaryEvidence) (record : CampaignRecord) :
    Except CampaignError CampaignEvidence := do
  let report ← orRaise
    (reports.find? fun report => report.campaignDigest = record.campaignDigest)
    (.valueError "campaign record has no corresponding aggregate report")
  let projected ← record.report
  raiseIf (report ≠ projected)
    (.valueError "campaign report is not the projection of its durable record")
  let discoveryDigest ← modelDiscoverySource record.header.providerConfig record.header.modelSet
    discoveries
  let campaignCanaries ← routeCanarySources record.header.modelSet canaries
  (summary record report discoveryDigest campaignCanaries).validate

/-- A repeated campaign stops the source's loop at its second record, here before the first. -/
def campaignEvidence (records : List CampaignRecord) (reports : List CampaignReport)
    (discoveries : List ModelDiscoverySnapshot) (canaries : List RouteCanaryEvidence) :
    Except CampaignError (List CampaignEvidence) := do
  raiseIf (¬ (reports.map CampaignReport.campaignDigest).Nodup ∨
      records.length ≠ reports.length)
    (.valueError "campaign release sources require unique paired records and reports")
  raiseIf (¬ (canaries.map RouteCanaryEvidence.digest).Nodup)
    (.valueError "route canary evidence identities must be unique")
  raiseIf (¬ (discoveries.map ModelDiscoverySnapshot.digest).Nodup)
    (.valueError "model discovery evidence identities must be unique")
  raiseIf (¬ (records.map CampaignRecord.campaignDigest).Nodup)
    (.valueError "campaign records must have unique CampaignSpec identities")
  let summaries ← records.mapM (recordEvidence reports discoveries canaries)
  raiseIf (¬ SameSet (reports.map CampaignReport.campaignDigest)
      (records.map CampaignRecord.campaignDigest))
    (.valueError "campaign report has no corresponding durable record")
  raiseIf (¬ SameSet (canaries.map RouteCanaryEvidence.digest)
      (summaries.flatMap CampaignEvidence.routeCanaryEvidenceDigests))
    (.valueError "route canary evidence contains unreferenced sources")
  raiseIf (¬ SameSet (discoveries.map ModelDiscoverySnapshot.digest)
      (summaries.map CampaignEvidence.modelDiscoveryDigest))
    (.valueError "model discovery evidence contains unreferenced sources")
  return summaries

end Records

end EdaGym.Release
