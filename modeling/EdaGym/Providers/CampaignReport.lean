import EdaGym.Providers.CampaignReplay

/-!
# Reports over campaign records

A report repeats the ledger of every trial and aggregates it by task, device, route, reasoning
effort and model category. Ratios and counts carry the facts their validators check; only sums of
resources and tokens can leave the JSON-safe integers.
-/

namespace EdaGym

/-! ### What reports read of the header -/

inductive ModelCategory
  | frontierReasoning | codingAgent | balanced | highThroughput | previousGeneration
deriving DecidableEq, Repr

lemma ModelCategory.singleton_ne_nil (category : ModelCategory) : [category] ≠ [] :=
  List.cons_ne_nil _ _

inductive ModelReferenceKind
  | snapshot | aliasLabel | unknown
deriving DecidableEq, Repr

inductive CampaignScope
  | endToEndSmoke | modelComparisonPilot | commonCore | reasoningEffortSensitivity
  | expandedBreadth
deriving DecidableEq, Repr

inductive CampaignTaskRole
  | rtlGeneration | debugFormal | synthesisQor | staClosure | physicalAnalog | fpgaImplementation
  | toolFailureRecovery | longRunResume
deriving DecidableEq, Repr

def ModelCategory.value : ModelCategory → String
  | frontierReasoning => "frontier_reasoning"
  | codingAgent => "coding_agent"
  | balanced => "balanced"
  | highThroughput => "high_throughput"
  | previousGeneration => "previous_generation"

def StopReason.value : StopReason → String
  | verifierSuccess => "verifier_success"
  | wallBudget => "wall_budget"
  | edaComputeBudget => "eda_compute_budget"
  | experimentBudget => "experiment_budget"
  | interactionBudget => "interaction_budget"
  | toolCallBudget => "tool_call_budget"
  | tokenBudget => "token_budget"
  | licenseBudget => "license_budget"
  | storageBudget => "storage_budget"
  | providerBudgetOverrun => "provider_budget_overrun"
  | explicitCancel => "explicit_cancel"
  | policyFailure => "policy_failure"
  | securityFailure => "security_failure"
  | infrastructureFailure => "infrastructure_failure"
  | unrankable => "unrankable"

def OutcomeKind.value : OutcomeKind → String
  | passed => "passed"
  | proved => "proved"
  | counterexample => "counterexample"
  | candidateFailure => "candidate_failure"
  | unknown => "unknown"
  | timeout => "timeout"
  | infrastructureFailure => "infrastructure_failure"
  | licenseUnavailable => "license_unavailable"
  | securityViolation => "security_violation"

structure ModelRoute where
  routeId : Identifier
  requestedModel : ModelLabel
  providerReportedModel : ModelLabel
  referenceKind : ModelReferenceKind
  categories : List ModelCategory
  categories_ne_nil : categories ≠ [] := by
    first | exact ModelCategory.singleton_ne_nil _ | decide
deriving DecidableEq

structure ReportTask extends CampaignTask where
  taskFamily : Identifier
  role : CampaignTaskRole

structure ReportTrial extends ScheduledTrial where
  ordinal : Nat
  taskOrderIndex : Nat
  deviceCapability : Capability
deriving DecidableEq

/-- The digest of a schedule, a function of its content. -/
class ScheduleCanonical where
  scheduleDigest : Digest → Digest → List Digest → List ReportTrial → Digest

/-- The checks of `CampaignSchedule.validate_order`. -/
structure ScheduleValid (campaignDigest : Digest) (ordered : List Digest)
    (trials : List ReportTrial) : Prop where
  ordinals : trials.map ReportTrial.ordinal = List.range trials.length
  ids_nodup : (trials.map fun trial => trial.trialId).Nodup
  ordered_nodup : ordered.Nodup
  campaign_eq : ∀ trial ∈ trials, trial.binding.campaignDigest = campaignDigest
  index_eq : ∀ trial ∈ trials,
    ordered[trial.taskOrderIndex]? = some trial.binding.taskReleaseDigest
  covers : ∀ release ∈ ordered, ∃ trial ∈ trials, trial.binding.taskReleaseDigest = release

instance (campaignDigest : Digest) (ordered : List Digest) (trials : List ReportTrial) :
    Decidable (ScheduleValid campaignDigest ordered trials) :=
  decidable_of_iff
    (trials.map ReportTrial.ordinal = List.range trials.length ∧
      (trials.map fun trial => trial.trialId).Nodup ∧ ordered.Nodup ∧
      (∀ trial ∈ trials, trial.binding.campaignDigest = campaignDigest) ∧
      (∀ trial ∈ trials, ordered[trial.taskOrderIndex]? = some trial.binding.taskReleaseDigest) ∧
      ∀ release ∈ ordered, ∃ trial ∈ trials, trial.binding.taskReleaseDigest = release)
    ⟨fun ⟨h₁, h₂, h₃, h₄, h₅, h₆⟩ => ⟨h₁, h₂, h₃, h₄, h₅, h₆⟩,
      fun ⟨h₁, h₂, h₃, h₄, h₅, h₆⟩ => ⟨h₁, h₂, h₃, h₄, h₅, h₆⟩⟩

/-- A header with everything its report repeats. The validators of the header derive the schedule
from tasks and routes, all bound to the metered provider; the last fields say so for each trial. -/
structure ReportHeader [ScheduleCanonical] extends CampaignHeader where
  scope : CampaignScope
  serviceTier : ServiceTierLabel
  repetitions : Nat
  modelSetDigest : Digest
  routes : List ModelRoute
  reportTasks : List ReportTask
  orderedTaskReleaseDigests : List Digest
  reportTrials : List ReportTrial
  tasks_eq : reportTasks.map ReportTask.toCampaignTask = tasks
  trials_eq : reportTrials.map ReportTrial.toScheduledTrial = schedule.trials
  schedule_valid : ScheduleValid campaign.digest orderedTaskReleaseDigests reportTrials
  schedule_digest : schedule.digest = ScheduleCanonical.scheduleDigest campaign.digest
    modelSetDigest orderedTaskReleaseDigests reportTrials
  task_mem : ∀ trial ∈ reportTrials,
    ∃ task ∈ reportTasks, task.taskReleaseDigest = trial.binding.taskReleaseDigest
  route_mem : ∀ trial ∈ reportTrials, ∃ route ∈ routes, route.routeId = trial.binding.routeId
  profile_eq : ∀ trial ∈ reportTrials,
    trial.binding.harness.providerProfileDigest = providerConfig.profileDigest
  config_eq : ∀ trial ∈ reportTrials,
    trial.binding.harness.providerConfigDigest = providerConfig.digest
  tier_eq : ∀ trial ∈ reportTrials, trial.binding.serviceTier = serviceTier

/-! ### Counts, ratios and totals -/

@[ext]
structure CountRatio where
  numerator : Nat
  denominator : Nat
  le : numerator ≤ denominator

instance : DecidableEq CountRatio := fun _ _ => decidable_of_iff _ CountRatio.ext_iff.symm

/-- How many elements satisfy `p`, of how many. -/
def CountRatio.ofCount {α : Type} (p : α → Bool) (xs : List α) : CountRatio :=
  ⟨xs.countP p, xs.length, List.countP_le_length⟩

/-- One entry of a sorted `Counter`. -/
@[ext]
structure Counted (α : Type) where
  value : α
  count : Nat
  pos : 1 ≤ count

instance {α : Type} [DecidableEq α] : DecidableEq (Counted α) := fun _ _ =>
  decidable_of_iff _ Counted.ext_iff.symm

def counted {α : Type} [DecidableEq α] (key : α → String) (xs : List α) : List (Counted α) :=
  sortedBy (fun entry => key entry.value) (xs.dedup.attach.map fun x =>
    ⟨x.1, xs.count x.1, List.count_pos_iff.mpr (List.mem_dedup.mp x.2)⟩)

/-- The elements by a key, in the order of the keys. -/
def groups {α β : Type} [DecidableEq β] (key : α → β) (order : β → String) (xs : List α) :
    List (β × List α) :=
  sortedBy (fun group => order group.1)
    ((xs.map key).dedup.map fun k => (k, xs.filter fun x => key x = k))

/-- The totals as immutable amounts, if they are JSON-safe. -/
def MutableResources.snapshot (r : MutableResources) : Except CampaignError CampaignResources :=
  if h : ∀ item, 0 ≤ r.get item ∧ r.get item ≤ JCS_INTEGER_MAX then .ok {
    ResourceVector.ofFields fun item => (r.get item).toNat with
    bounded := by
      intro item
      rw [ResourceVector.get_ofFields]
      have := h item
      omega }
  else .error (.valueError "Input should be less than or equal to 9007199254740991")

@[ext]
structure TokenAccounting where
  requestAttempts : Nat
  retryAttempts : Nat
  chargedInputTokens : Nat
  chargedOutputTokens : Nat
  providerInputTokens : Nat
  providerOutputTokens : Nat
  unknownUsageAttempts : Nat
  cachedInputTokens : Nat
  unknownCachedUsageAttempts : Nat
  reasoningTokens : Nat
  unknownReasoningUsageAttempts : Nat
  retry_le : retryAttempts ≤ requestAttempts
  unknown_le : unknownUsageAttempts ≤ requestAttempts
  unknown_cached_le : unknownCachedUsageAttempts ≤ requestAttempts
  unknown_reasoning_le : unknownReasoningUsageAttempts ≤ requestAttempts

instance : DecidableEq TokenAccounting := fun _ _ => decidable_of_iff _ TokenAccounting.ext_iff.symm

/-- The token sums of a list of attempts. -/
def tokenSums (attempts : List ProviderAttemptRecord) : List Nat :=
  let known := attempts.filterMap ProviderAttemptRecord.providerUsage
  [(attempts.map fun attempt => attempt.chargedResources.inputTokens).sum,
    (attempts.map fun attempt => attempt.chargedResources.outputTokens).sum,
    (known.map UsageCounters.inputTokens).sum,
    (known.map UsageCounters.outputTokens).sum,
    (known.filterMap UsageCounters.cachedInputTokens).sum,
    (known.filterMap UsageCounters.reasoningTokens).sum]

def tokenAccounting (attempts : List ProviderAttemptRecord) :
    Except CampaignError TokenAccounting := do
  raiseIf (∃ total ∈ tokenSums attempts, JCS_INTEGER_MAX < total)
    (.valueError "Input should be less than or equal to 9007199254740991")
  let known := attempts.filterMap ProviderAttemptRecord.providerUsage
  return {
    requestAttempts := attempts.length
    retryAttempts := attempts.countP fun attempt => 1 < attempt.attemptNumber
    chargedInputTokens := (attempts.map fun attempt => attempt.chargedResources.inputTokens).sum
    chargedOutputTokens := (attempts.map fun attempt => attempt.chargedResources.outputTokens).sum
    providerInputTokens := (known.map UsageCounters.inputTokens).sum
    providerOutputTokens := (known.map UsageCounters.outputTokens).sum
    unknownUsageAttempts := attempts.countP fun attempt => attempt.providerUsage = none
    cachedInputTokens := (known.filterMap UsageCounters.cachedInputTokens).sum
    unknownCachedUsageAttempts := attempts.countP fun attempt =>
      attempt.providerUsage.bind UsageCounters.cachedInputTokens = none
    reasoningTokens := (known.filterMap UsageCounters.reasoningTokens).sum
    unknownReasoningUsageAttempts := attempts.countP fun attempt =>
      attempt.providerUsage.bind UsageCounters.reasoningTokens = none
    retry_le := List.countP_le_length
    unknown_le := List.countP_le_length
    unknown_cached_le := List.countP_le_length
    unknown_reasoning_le := List.countP_le_length }

structure ServiceTierAccounting where
  requestedServiceTier : ServiceTierLabel
  providerReportedServiceTiers : List (Counted ServiceTierLabel)
  unknownAttempts : Nat
  reportedTierMismatches : CountRatio
deriving DecidableEq

def serviceTierAccounting (attempts : List ProviderAttemptRecord)
    (requestedServiceTier : ServiceTierLabel) : Except CampaignError ServiceTierAccounting := do
  raiseIf (∃ attempt ∈ attempts, attempt.requestedServiceTier ≠ requestedServiceTier)
    (.valueError "provider attempts do not share the campaign service tier")
  let reported := attempts.filterMap ProviderAttemptRecord.providerReportedServiceTier
  return {
    requestedServiceTier
    providerReportedServiceTiers := counted id reported
    unknownAttempts := attempts.length - reported.length
    reportedTierMismatches := .ofCount (fun tier => tier ≠ requestedServiceTier) reported }

/-- `+=` in the default context, of 28 significant digits. -/
def decimalAdd (total : CanonicalDecimal) (amount : { x : CanonicalDecimal // 0 ≤ x }) :
    Except CampaignError CanonicalDecimal :=
  orRaise ((decimalContext 28).round (total + amount)) (.arithmeticError DECIMAL_OVERFLOW)

structure CurrencyTotal where
  currency : String
  amount : { x : CanonicalDecimal // 0 ≤ x }
deriving DecidableEq

def currencyTotal (known : List (String × { x : CanonicalDecimal // 0 ≤ x })) (currency : String) :
    Except CampaignError CurrencyTotal := do
  let amount ← foldSteps decimalAdd 0
    ((known.filter fun spend => spend.1 = currency).map Prod.snd)
  if h : 0 ≤ amount then return { currency, amount := ⟨amount, h⟩ }
  else .error (.valueError "Input should be greater than or equal to 0")

structure SpendSummary where
  knownTotals : List CurrencyTotal
  unknownTrialCount : Nat
deriving DecidableEq

def SpendObservation.knownAmount :
    SpendObservation → Option (String × { x : CanonicalDecimal // 0 ≤ x })
  | known currency amount nonneg => some (currency, ⟨amount, nonneg⟩)
  | unknown _ => none

/-! ### Trial reports -/

section Reports

variable [Canonical]

structure TrialReport where
  trial : ReportTrial
  outcome : TrialRunOutcome
  resources : CampaignResources
  tokenAccounting : TokenAccounting
  providerAttempts : List ProviderAttemptRecord
  accountingViolation : Bool

def TrialReport.success (report : TrialReport) : Bool :=
  report.outcome.terminalReason = .verifierSuccess

/-- The attempts of each request are numbered from one. -/
def ContiguousAttempts (attempts : List ProviderAttemptRecord) : Prop :=
  ∀ requestKey ∈ attempts.map ProviderAttemptRecord.requestKey,
    let numbers := (attempts.filter fun attempt => attempt.requestKey = requestKey).map
      ProviderAttemptRecord.attemptNumber
    numbers = List.range' 1 numbers.length

omit [Canonical] in
instance (attempts : List ProviderAttemptRecord) : Decidable (ContiguousAttempts attempts) :=
  inferInstanceAs (Decidable (∀ _ ∈ _, _ = _))

/-- The checks of a trial report against its own attempts. -/
def TrialReport.validateAttempts (report : TrialReport) : Except CampaignError Unit := do
  let attempts := report.providerAttempts
  raiseIf (¬ ContiguousAttempts attempts)
    (.valueError "provider attempts must preserve contiguous retry order")
  raiseIf (report.tokenAccounting.requestAttempts ≠ attempts.length)
    (.valueError "token accounting must count every provider attempt")
  raiseIf (report.resources.requests ≠ attempts.length)
    (.valueError "trial resources must count every provider attempt")
  let derived ← EdaGym.tokenAccounting attempts
  raiseIf (report.tokenAccounting ≠ derived)
    (.valueError "trial token accounting must be derived from provider attempts")
  raiseIf (report.resources.inputTokens ≠ report.tokenAccounting.chargedInputTokens ∨
      report.resources.outputTokens ≠ report.tokenAccounting.chargedOutputTokens)
    (.valueError "trial resource tokens must equal charged provider usage")
  raiseIf (report.outcome.disposition = .notDispatched ∧
      (¬ report.resources.IsZero ∨ attempts ≠ []))
    (.valueError "a non-dispatched trial cannot contain resource usage")

def trialReport (state : CampaignProjection) (trial : ReportTrial) :
    Except CampaignError TrialReport := do
  let ledger ← orRaise (state.ledgers.get? trial.trialId) (.lookupError trial.trialId)
  let outcome ← orRaise ledger.outcome
    (.accounting "campaign trial outcome is unavailable")
  let resources ← ledger.committed.snapshot
  let accounting ← tokenAccounting ledger.attempts
  let report : TrialReport := {
    trial, outcome, resources
    tokenAccounting := accounting
    providerAttempts := ledger.attempts
    accountingViolation := ledger.accountingViolation }
  report.validateAttempts
  return report

/-! ### Aggregates -/

def successRatio (reports : List TrialReport) : CountRatio := .ofCount TrialReport.success reports

def allAttempts (reports : List TrialReport) : List ProviderAttemptRecord :=
  reports.flatMap TrialReport.providerAttempts

def aggregateResources (reports : List TrialReport) : Except CampaignError CampaignResources :=
  (reports.foldl (fun totals report => totals.add report.resources)
    MutableResources.zero).snapshot

def terminalReasonCounts (reports : List TrialReport) : List (Counted StopReason) :=
  counted StopReason.value (reports.map fun report => report.outcome.terminalReason)

def spendSummary (reports : List TrialReport) : Except CampaignError SpendSummary := do
  let known := reports.filterMap fun report => report.outcome.providerSpend.knownAmount
  let knownTotals ← (sortedStrings (known.map Prod.fst).dedup).mapM (currencyTotal known)
  return {
    knownTotals
    unknownTrialCount :=
      reports.countP fun report => report.outcome.providerSpend.knownAmount = none }

/-- The totals every aggregate has. -/
structure GroupTotals where
  success : CountRatio
  resources : CampaignResources
  tokenAccounting : TokenAccounting
  terminalReasons : List (Counted StopReason)
  spend : SpendSummary

def groupTotals (reports : List TrialReport) : Except CampaignError GroupTotals := do
  let resources ← aggregateResources reports
  let accounting ← tokenAccounting (allAttempts reports)
  let spend ← spendSummary reports
  return {
    success := successRatio reports
    resources
    tokenAccounting := accounting
    terminalReasons := terminalReasonCounts reports
    spend }

structure TaskAggregate extends GroupTotals where
  taskReleaseDigest : Digest
  taskFamily : Identifier
  taskRole : CampaignTaskRole

structure DeviceAggregate extends GroupTotals where
  deviceCapability : Capability

structure ModelAggregate extends GroupTotals where
  route : ModelRoute
  observedProviderReportedModels : List (Counted ModelLabel)
  unknownReportedModelAttempts : Nat
  reportedLabelMismatches : CountRatio

structure ModelEffortAggregate extends GroupTotals where
  routeId : Identifier
  requestedModel : ModelLabel
  reasoningEffort : String

structure ModelCategoryAggregate extends GroupTotals where
  category : ModelCategory
  routeIds : List Identifier
  routeIds_ne_nil : routeIds ≠ []

structure SuccessAtK where
  routeId : Identifier
  requestedModel : ModelLabel
  reasoningEffort : String
  k : Nat
  success : CountRatio
deriving DecidableEq

structure EvaluatorFunnel where
  taskReleaseDigest : Digest
  taskFamily : Identifier
  stageId : Identifier
  reached : CountRatio
  passed : CountRatio
  outcomeCounts : List (Counted OutcomeKind)
deriving DecidableEq

/-- The release each order index stands for, among the trials seen so far. -/
def taskOrderStep (order : Dict Nat Digest) (trial : ReportTrial) :
    Except CampaignError (Dict Nat Digest) :=
  match order.get? trial.taskOrderIndex with
  | none => .ok (order.insert trial.taskOrderIndex trial.binding.taskReleaseDigest)
  | some prior => do
    raiseIf (prior ≠ trial.binding.taskReleaseDigest)
      (.valueError "campaign report task order is inconsistent")
    return order

/-- The task order the trials of a report stand in. -/
def taskOrder (trials : List ReportTrial) : Except CampaignError (List Digest) := do
  let order ← foldSteps taskOrderStep Dict.empty trials
  let size := order.entries.length
  raiseIf (order.keys.insertionSort (· ≤ ·) ≠ List.range size)
    (.valueError "campaign report task order is not contiguous")
  return (List.range size).filterMap order.get?

structure CampaignReport where
  campaignDigest : Digest
  scheduleDigest : Digest
  campaignRecordDigest : Digest
  campaignScope : CampaignScope
  providerProfileDigest : Digest
  providerConfigDigest : Digest
  modelSetDigest : Digest
  budgetViolation : Bool
  trials : List TrialReport
  overallSuccess : CountRatio
  taskAggregates : List TaskAggregate
  deviceAggregates : List DeviceAggregate
  modelAggregates : List ModelAggregate
  modelEffortAggregates : List ModelEffortAggregate
  modelCategoryAggregates : List ModelCategoryAggregate
  successAtK : List SuccessAtK
  evaluatorFunnel : List EvaluatorFunnel
  terminalReasons : List (Counted StopReason)
  resources : CampaignResources
  tokenAccounting : TokenAccounting
  serviceTierAccounting : ServiceTierAccounting
  spend : SpendSummary

section Building

variable [ScheduleCanonical]

/-- The checks of a report against its own trials. The profile is here by its digest only. -/
def CampaignReport.validateDerivedTotals (report : CampaignReport) : Except CampaignError Unit := do
  let trials := report.trials.map TrialReport.trial
  raiseIf (trials = []) (.valueError "Tuple should have at least 1 item after validation")
  raiseIf (∃ trial ∈ trials,
      trial.binding.harness.providerProfileDigest ≠ report.providerProfileDigest ∨
      trial.binding.harness.providerConfigDigest ≠ report.providerConfigDigest)
    (.valueError "campaign report harness provider identity is inconsistent")
  let ordered ← taskOrder trials
  raiseIf (¬ ScheduleValid report.campaignDigest ordered trials)
    (.valueError "campaign trial bindings do not match the schedule envelope")
  raiseIf (ScheduleCanonical.scheduleDigest report.campaignDigest report.modelSetDigest ordered
      trials ≠ report.scheduleDigest)
    (.valueError "campaign report schedule digest is inconsistent")
  raiseIf (trials.map ReportTrial.ordinal ≠ List.range trials.length)
    (.valueError "campaign report trials must preserve the frozen schedule order")
  raiseIf (∃ trial ∈ trials, trial.binding.campaignDigest ≠ report.campaignDigest)
    (.valueError "campaign report trials must match the campaign digest")
  raiseIf (report.overallSuccess ≠ successRatio report.trials)
    (.valueError "overall success must be derived from every trial")
  let resources ← aggregateResources report.trials
  raiseIf (report.resources ≠ resources)
    (.valueError "campaign resources must be derived from every trial")
  let accounting ← EdaGym.tokenAccounting (allAttempts report.trials)
  raiseIf (report.tokenAccounting ≠ accounting)
    (.valueError "campaign token accounting must be derived from every trial")
  match (trials.map fun trial => trial.binding.serviceTier).dedup with
  | [tier] => do
    let tiers ← EdaGym.serviceTierAccounting (allAttempts report.trials) tier
    raiseIf (report.serviceTierAccounting ≠ tiers)
      (.valueError "campaign service tier accounting must be derived from every trial")
  | _ => .error (.valueError "campaign service tier accounting must be derived from every trial")
  raiseIf (report.terminalReasons ≠ terminalReasonCounts report.trials)
    (.valueError "campaign terminal reasons must be derived from every trial")
  let spend ← spendSummary report.trials
  raiseIf (report.spend ≠ spend)
    (.valueError "campaign spend must be derived from every trial")
  raiseIf (report.budgetViolation ≠ report.trials.any TrialReport.accountingViolation)
    (.valueError "campaign budget violation must match its trial evidence")

variable (header : ReportHeader)

def ReportHeader.taskByRelease (release : Digest) : Except CampaignError ReportTask :=
  orRaise (header.reportTasks.find? fun task => task.taskReleaseDigest = release)
    (.lookupError release)

def ReportHeader.routeById (routeId : Identifier) : Except CampaignError ModelRoute :=
  orRaise (header.routes.find? fun route => route.routeId = routeId) (.lookupError routeId)

def taskGroups (reports : List TrialReport) : List (Digest × List TrialReport) :=
  groups (fun report => report.trial.binding.taskReleaseDigest) id reports

def routeGroups (reports : List TrialReport) : List (Identifier × List TrialReport) :=
  groups (fun report => report.trial.binding.routeId) id reports

/-- Sorting is stable, so the keys end up in lexicographic order. -/
def modelEffortGroups (reports : List TrialReport) :
    List ((Identifier × String) × List TrialReport) :=
  sortedBy (fun group => group.1.1) (groups
    (fun report => (report.trial.binding.routeId, report.trial.binding.reasoningEffort))
    (fun key => key.2) reports)

def taskAggregate (group : Digest × List TrialReport) : Except CampaignError TaskAggregate := do
  let task ← header.taskByRelease group.1
  let totals ← groupTotals group.2
  return { totals with
    taskReleaseDigest := group.1, taskFamily := task.taskFamily, taskRole := task.role }

def deviceAggregate (group : Capability × List TrialReport) :
    Except CampaignError DeviceAggregate := do
  let totals ← groupTotals group.2
  return { totals with deviceCapability := group.1 }

def modelAggregate (group : Identifier × List TrialReport) :
    Except CampaignError ModelAggregate := do
  let route ← header.routeById group.1
  let totals ← groupTotals group.2
  let attempts := allAttempts group.2
  let labels := attempts.filterMap ProviderAttemptRecord.providerReportedModel
  return { totals with
    route
    observedProviderReportedModels := counted id labels
    unknownReportedModelAttempts := attempts.length - labels.length
    reportedLabelMismatches := .ofCount (fun label => label ≠ route.requestedModel) labels }

def modelEffortAggregate (group : (Identifier × String) × List TrialReport) :
    Except CampaignError ModelEffortAggregate := do
  let route ← header.routeById group.1.1
  let totals ← groupTotals group.2
  return { totals with
    routeId := route.routeId, requestedModel := route.requestedModel
    reasoningEffort := group.1.2 }

def categoryAggregate (reports : List TrialReport) (category : ModelCategory) :
    Except CampaignError ModelCategoryAggregate := do
  let routeIds := (header.routes.filter fun route => category ∈ route.categories).map
    ModelRoute.routeId
  let totals ← groupTotals
    (reports.filter fun report => report.trial.binding.routeId ∈ routeIds)
  if h : routeIds ≠ [] then
    return { totals with category, routeIds, routeIds_ne_nil := h }
  else .error (.valueError "Tuple should have at least 1 item after validation")

/-- The share of tasks solved within the first `k` repetitions. -/
def successWithin (reports : List TrialReport) (k : Nat) : CountRatio :=
  .ofCount (fun group : Digest × List TrialReport =>
      ((group.2.insertionSort fun a b =>
        a.trial.binding.repetitionIndex ≤ b.trial.binding.repetitionIndex).take k).any
          TrialReport.success)
    (taskGroups reports)

def successAtK (group : Identifier × List TrialReport) :
    Except CampaignError (List SuccessAtK) := do
  let route ← header.routeById group.1
  let efforts := sortedStrings
    (group.2.map fun report => report.trial.binding.reasoningEffort).dedup
  return efforts.flatMap fun effort =>
    let reports := group.2.filter fun report => report.trial.binding.reasoningEffort = effort
    (List.range header.repetitions).map fun i => {
      routeId := group.1, requestedModel := route.requestedModel, reasoningEffort := effort
      k := i + 1, success := successWithin reports (i + 1) }

def stageOutcomes (stageId : Identifier) (report : TrialReport) : List OutcomeKind :=
  (report.outcome.stageResults.filter fun item => item.result.stageId = stageId).map fun item =>
    item.result.outcome

def evaluatorFunnel (group : Digest × List TrialReport) :
    Except CampaignError (List EvaluatorFunnel) := do
  let task ← header.taskByRelease group.1
  return task.evaluatorStageIds.map fun stageId => {
    taskReleaseDigest := group.1, taskFamily := task.taskFamily, stageId
    reached := .ofCount (fun report => stageOutcomes stageId report ≠ []) group.2
    passed := .ofCount (fun report => (stageOutcomes stageId report).any fun kind =>
      kind = .passed ∨ kind = .proved) group.2
    outcomeCounts := counted OutcomeKind.value (group.2.flatMap (stageOutcomes stageId)) }

def buildCampaignReport (reports : List TrialReport) (recordDigest : Digest)
    (budgetViolation : Bool) (committedResources : CampaignResources) :
    Except CampaignError CampaignReport := do
  let tasks ← (taskGroups reports).mapM (taskAggregate header)
  let devices ← (groups (fun report => report.trial.deviceCapability) Capability.value
    reports).mapM deviceAggregate
  let models ← (routeGroups reports).mapM (modelAggregate header)
  let efforts ← (modelEffortGroups reports).mapM (modelEffortAggregate header)
  let categories ← (sortedBy ModelCategory.value
    (header.routes.flatMap ModelRoute.categories).dedup).mapM (categoryAggregate header reports)
  let rows ← (routeGroups reports).mapM (successAtK header)
  let funnel ← (taskGroups reports).mapM (evaluatorFunnel header)
  let accounting ← tokenAccounting (allAttempts reports)
  let tiers ← serviceTierAccounting (allAttempts reports) header.serviceTier
  let spend ← spendSummary reports
  let report : CampaignReport := {
    campaignDigest := header.campaign.digest
    scheduleDigest := header.schedule.digest
    campaignRecordDigest := recordDigest
    campaignScope := header.scope
    providerProfileDigest := header.providerConfig.profileDigest
    providerConfigDigest := header.providerConfig.digest
    modelSetDigest := header.modelSetDigest
    budgetViolation
    trials := reports
    overallSuccess := successRatio reports
    taskAggregates := tasks
    deviceAggregates := devices
    modelAggregates := models
    modelEffortAggregates := efforts
    modelCategoryAggregates := categories
    successAtK := rows.flatten
    evaluatorFunnel := funnel.flatten
    terminalReasons := terminalReasonCounts reports
    resources := committedResources
    tokenAccounting := accounting
    serviceTierAccounting := tiers
    spend }
  report.validateDerivedTotals
  return report

/-- Replay a terminal record into its only valid report. -/
def projectCampaignReport [CampaignCanonical] (recordDigest : Digest)
    (events : List CampaignEvent) : Except CampaignError CampaignReport := do
  let state ← replayCampaign header.toCampaignHeader events
  raiseIf (state.reservations.isEmpty = false)
    (.accounting "campaign report requires every dispatch to settle")
  raiseIf (∃ trial ∈ header.reportTrials, ∃ ledger ∈ state.ledgers.get? trial.trialId,
      ledger.outcome = none)
    (.accounting "campaign report requires an outcome for every scheduled trial")
  let reports ← header.reportTrials.mapM (trialReport state)
  let committed ← state.committed.snapshot
  buildCampaignReport header reports recordDigest state.budgetViolation committed

end Building

end Reports

end EdaGym
