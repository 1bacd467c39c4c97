import EdaGym.Lib.Grouping
import EdaGym.Providers.CampaignReporting
import EdaGym.Providers.CampaignSchedule

/-!
# Campaign reports as partitions

The sections of a report group the same trials by different keys. Every amount that an aggregate
shows is a sum over the trials of its group, so the aggregates of one section add up to the amounts
of the whole campaign.
-/

namespace EdaGym

/-! ### Amounts -/

inductive TokenField
  | requestAttempts | retryAttempts | chargedInputTokens | chargedOutputTokens
  | providerInputTokens | providerOutputTokens | unknownUsageAttempts | cachedInputTokens
  | unknownCachedUsageAttempts | reasoningTokens | unknownReasoningUsageAttempts
deriving DecidableEq, Repr

def TokenAccounting.get (accounting : TokenAccounting) : TokenField → Nat
  | .requestAttempts => accounting.requestAttempts
  | .retryAttempts => accounting.retryAttempts
  | .chargedInputTokens => accounting.chargedInputTokens
  | .chargedOutputTokens => accounting.chargedOutputTokens
  | .providerInputTokens => accounting.providerInputTokens
  | .providerOutputTokens => accounting.providerOutputTokens
  | .unknownUsageAttempts => accounting.unknownUsageAttempts
  | .cachedInputTokens => accounting.cachedInputTokens
  | .unknownCachedUsageAttempts => accounting.unknownCachedUsageAttempts
  | .reasoningTokens => accounting.reasoningTokens
  | .unknownReasoningUsageAttempts => accounting.unknownReasoningUsageAttempts

/-- What one attempt adds to a counter. -/
def ProviderAttemptRecord.tokens (attempt : ProviderAttemptRecord) : TokenField → Nat
  | .requestAttempts => 1
  | .retryAttempts => if 1 < attempt.attemptNumber then 1 else 0
  | .chargedInputTokens => attempt.chargedResources.inputTokens
  | .chargedOutputTokens => attempt.chargedResources.outputTokens
  | .providerInputTokens => attempt.providerUsage.elim 0 UsageCounters.inputTokens
  | .providerOutputTokens => attempt.providerUsage.elim 0 UsageCounters.outputTokens
  | .unknownUsageAttempts => if attempt.providerUsage = none then 1 else 0
  | .cachedInputTokens => (attempt.providerUsage.bind UsageCounters.cachedInputTokens).getD 0
  | .unknownCachedUsageAttempts =>
    if attempt.providerUsage.bind UsageCounters.cachedInputTokens = none then 1 else 0
  | .reasoningTokens => (attempt.providerUsage.bind UsageCounters.reasoningTokens).getD 0
  | .unknownReasoningUsageAttempts =>
    if attempt.providerUsage.bind UsageCounters.reasoningTokens = none then 1 else 0

lemma countP_eq_sum {α : Type} (p : α → Prop) [DecidablePred p] (xs : List α) :
    (xs.countP fun x => p x) = (xs.map fun x => if p x then 1 else 0).sum := by
  induction xs with
  | nil => rfl
  | cons x xs ih =>
    rw [List.countP_cons, ih, List.map_cons, List.sum_cons, Nat.add_comm]
    by_cases hx : p x <;> simp [hx]

lemma sum_map_filterMap {α β : Type} (part : α → Option β) (f : β → Nat) (xs : List α) :
    ((xs.filterMap part).map f).sum = (xs.map fun x => (part x).elim 0 f).sum := by
  induction xs with
  | nil => rfl
  | cons x xs ih =>
    rw [List.map_cons, List.sum_cons, ← ih]
    cases hx : part x with
    | none => simp [hx]
    | some y => simp [hx]

/-- Every counter is a sum over the attempts. -/
lemma tokenAccounting_get {attempts : List ProviderAttemptRecord} {accounting : TokenAccounting}
    (h : tokenAccounting attempts = .ok accounting) (field : TokenField) :
    accounting.get field = (attempts.map fun attempt => attempt.tokens field).sum := by
  simp only [tokenAccounting, bind_eq_ok, raiseIf_eq_ok, exists_const, pure_eq_ok] at h
  obtain ⟨-, rfl⟩ := h
  have hparts : ∀ part : UsageCounters → Option Nat,
      ((attempts.filterMap ProviderAttemptRecord.providerUsage).filterMap part).sum =
        (attempts.map fun attempt => (attempt.providerUsage.bind part).getD 0).sum := by
    intro part
    rw [← List.map_id (List.filterMap part _), sum_map_filterMap, sum_map_filterMap]
    refine congrArg List.sum (List.map_congr_left ?_)
    intro attempt _
    cases attempt.providerUsage with
    | none => rfl
    | some usage => cases hpart : part usage <;> simp [hpart]
  cases field with
  | requestAttempts => simp [TokenAccounting.get, ProviderAttemptRecord.tokens]
  | retryAttempts => exact countP_eq_sum _ attempts
  | chargedInputTokens => rfl
  | chargedOutputTokens => rfl
  | providerInputTokens => exact sum_map_filterMap _ _ attempts
  | providerOutputTokens => exact sum_map_filterMap _ _ attempts
  | unknownUsageAttempts => exact countP_eq_sum _ attempts
  | cachedInputTokens => exact hparts _
  | unknownCachedUsageAttempts => exact countP_eq_sum _ attempts
  | reasoningTokens => exact hparts _
  | unknownReasoningUsageAttempts => exact countP_eq_sum _ attempts

section Sections

variable [Canonical]

/-- The amounts that every aggregate and the whole report show. -/
inductive ReportAmount
  | successes | trials | resource (item : ResourceField) | tokens (field : TokenField)
  | ended (reason : StopReason)
deriving DecidableEq

omit [Canonical] in
/-- The count of one entry of a sorted `Counter`. -/
def countOf {α : Type} [DecidableEq α] (entries : List (Counted α)) (value : α) : Nat :=
  ((entries.find? fun entry => entry.value = value).map Counted.count).getD 0

def GroupTotals.amount (totals : GroupTotals) : ReportAmount → Nat
  | .successes => totals.success.numerator
  | .trials => totals.success.denominator
  | .resource item => totals.resources.get item
  | .tokens field => totals.tokenAccounting.get field
  | .ended reason => countOf totals.terminalReasons reason

/-- What one trial adds. -/
def TrialReport.amount (report : TrialReport) : ReportAmount → Nat
  | .successes => if report.success = true then 1 else 0
  | .trials => 1
  | .resource item => report.resources.get item
  | .tokens field => (report.providerAttempts.map fun attempt => attempt.tokens field).sum
  | .ended reason => if report.outcome.terminalReason = reason then 1 else 0

def amountOf (reports : List TrialReport) (amount : ReportAmount) : Nat :=
  (reports.map fun report => report.amount amount).sum

omit [Canonical] in
lemma countOf_counted {α : Type} [DecidableEq α] (key : α → String) (xs : List α) (value : α) :
    countOf (counted key xs) value = xs.count value := by
  unfold countOf
  cases hfind : (counted key xs).find? fun entry => entry.value = value with
  | some entry =>
    have hvalue : entry.value = value := by simpa using List.find?_some hfind
    have hmem := List.mem_of_find?_eq_some hfind
    rw [counted, mem_sortedBy] at hmem
    obtain ⟨x, -, rfl⟩ := List.mem_map.mp hmem
    rw [← hvalue]
    rfl
  | none =>
    refine (List.count_eq_zero.mpr fun hmem => ?_).symm
    have hentry := List.find?_eq_none.mp hfind
      ⟨value, xs.count value, List.count_pos_iff.mpr hmem⟩
    refine hentry ?_ (decide_eq_true rfl)
    rw [counted, mem_sortedBy]
    exact List.mem_map.mpr ⟨⟨value, List.mem_dedup.mpr hmem⟩, List.mem_attach _ _, rfl⟩

variable {reports : List TrialReport}

/-- The totals of a group are sums over its trials. -/
lemma amount_of_groupTotals {totals : GroupTotals}
    (h : groupTotals reports = .ok totals) (amount : ReportAmount) :
    totals.amount amount = amountOf reports amount := by
  simp only [groupTotals, bind_eq_ok, pure_eq_ok] at h
  obtain ⟨resources, hresources, accounting, haccounting, _, -, rfl⟩ := h
  cases amount with
  | successes =>
    have hcount := countP_eq_sum (fun report : TrialReport => report.success = true) reports
    simp only [Bool.decide_eq_true] at hcount
    exact hcount
  | trials =>
    simp [GroupTotals.amount, amountOf, TrialReport.amount, successRatio, CountRatio.ofCount]
  | resource item => exact aggregateResources_eq_ok.mp hresources item
  | tokens field =>
    refine (tokenAccounting_get haccounting field).trans ?_
    rw [allAttempts, List.map_flatMap, List.flatMap_def, List.sum_flatten, List.map_map]
    rfl
  | ended reason =>
    refine (countOf_counted _ _ _).trans ?_
    rw [List.count_eq_countP, List.countP_map]
    exact countP_eq_sum (fun report : TrialReport => report.outcome.terminalReason = reason) reports

/-! ### Partitions -/

/-- The aggregates have distinct keys; every trial belongs to the aggregate with its key, and the
totals of an aggregate are those of the trials with its key. -/
structure Partitions {κ A : Type} [DecidableEq κ] (trials : List TrialReport)
    (key : TrialReport → κ) (aggregates : List A) (keyOf : A → κ) (totalsOf : A → GroupTotals) :
    Prop where
  keys_nodup : (aggregates.map keyOf).Nodup
  covers : ∀ report ∈ trials, key report ∈ aggregates.map keyOf
  inhabited : ∀ aggregate ∈ aggregates, ∃ report ∈ trials, key report = keyOf aggregate
  totals : ∀ aggregate ∈ aggregates,
    groupTotals (trials.filter fun report => key report = keyOf aggregate) =
      .ok (totalsOf aggregate)

/-- The aggregates of a partition add up to the whole. -/
theorem Partitions.sum_amount {κ A : Type} [DecidableEq κ] {trials : List TrialReport}
    {key : TrialReport → κ} {aggregates : List A} {keyOf : A → κ} {totalsOf : A → GroupTotals}
    (h : Partitions trials key aggregates keyOf totalsOf) (amount : ReportAmount) :
    (aggregates.map fun aggregate => (totalsOf aggregate).amount amount).sum =
      amountOf trials amount := by
  have hsum := sum_groups h.keys_nodup h.covers fun report : TrialReport => report.amount amount
  rw [List.map_map] at hsum
  rw [amountOf, ← hsum]
  refine congrArg List.sum (List.map_congr_left ?_)
  intro aggregate haggregate
  exact amount_of_groupTotals (h.totals aggregate haggregate) amount

omit [Canonical] in
lemma groups_keys {α β : Type} [DecidableEq β] (key : α → β) (order : β → String) (xs : List α) :
    ((groups key order xs).map Prod.fst).Perm (xs.map key).dedup := by
  refine ((sortedBy_perm _ _).map Prod.fst).trans ?_
  rw [List.map_map]
  exact (List.map_id _).symm ▸ List.Perm.refl _

omit [Canonical] in
lemma snd_of_mem_groups {α β : Type} [DecidableEq β] {key : α → β} {order : β → String}
    {xs : List α} {pair : β × List α} (h : pair ∈ groups key order xs) :
    pair.2 = xs.filter fun x => key x = pair.1 := by
  rw [groups, mem_sortedBy] at h
  obtain ⟨k, -, rfl⟩ := List.mem_map.mp h
  rfl

/-- Aggregates computed from the groups of a key, one for each, form a partition. -/
lemma partitions_of_groups {κ A : Type} [DecidableEq κ]
    {key : TrialReport → κ} {grouped : List (κ × List TrialReport)}
    {aggregate : κ × List TrialReport → Except CampaignError A} {aggregates : List A}
    {keyOf : A → κ} {totalsOf : A → GroupTotals}
    (hkeys : (grouped.map Prod.fst).Perm (reports.map key).dedup)
    (hgroups : ∀ group ∈ grouped, group.2 = reports.filter fun report => key report = group.1)
    (h : grouped.mapM aggregate = .ok aggregates)
    (haggregate : ∀ group a, aggregate group = .ok a →
      keyOf a = group.1 ∧ groupTotals group.2 = .ok (totalsOf a)) :
    Partitions reports key aggregates keyOf totalsOf := by
  have hmap : aggregates.map keyOf = grouped.map Prod.fst :=
    (map_eq_of_forall₂ (mapM_eq_ok_iff.mp h)
      fun group _ a ha => (haggregate group a ha).1.symm).symm
  refine ⟨?_, ?_, ?_, ?_⟩
  · rw [hmap]
    exact hkeys.nodup_iff.mpr (List.nodup_dedup _)
  · intro report hreport
    rw [hmap, hkeys.mem_iff]
    exact List.mem_dedup.mpr (List.mem_map_of_mem hreport)
  · intro a ha
    have hkey : keyOf a ∈ aggregates.map keyOf := List.mem_map_of_mem ha
    rw [hmap, hkeys.mem_iff] at hkey
    exact List.mem_map.mp (List.mem_dedup.mp hkey)
  · intro a ha
    obtain ⟨group, hgroup, heq⟩ := exists_of_mem_mapM h ha
    obtain ⟨hkey, htotals⟩ := haggregate group a heq
    rw [hkey, ← hgroups group hgroup]
    exact htotals

/-! ### The sections of a report -/

/-- The amounts of the whole campaign, as the report shows them. -/
def CampaignReport.totals (report : CampaignReport) : GroupTotals where
  success := report.overallSuccess
  resources := report.resources
  tokenAccounting := report.tokenAccounting
  terminalReasons := report.terminalReasons
  spend := report.spend

variable [ScheduleCanonical] {header : ReportHeader} {report : CampaignReport}

/-- Where the sections of a report come from. -/
structure Derived (header : ReportHeader) (report : CampaignReport) : Prop where
  tasks : (taskGroups report.trials).mapM (taskAggregate header) = .ok report.taskAggregates
  devices : (groups (fun report : TrialReport => report.trial.deviceCapability) Capability.value
    report.trials).mapM deviceAggregate = .ok report.deviceAggregates
  models : (routeGroups report.trials).mapM (modelAggregate header) = .ok report.modelAggregates
  efforts : (modelEffortGroups report.trials).mapM (modelEffortAggregate header) =
    .ok report.modelEffortAggregates
  rows : ∃ rows, (routeGroups report.trials).mapM (successAtK header) = .ok rows ∧
    report.successAtK = rows.flatten
  funnel : ∃ rows, (taskGroups report.trials).mapM (evaluatorFunnel header) = .ok rows ∧
    report.evaluatorFunnel = rows.flatten
  totals : groupTotals report.trials = .ok report.totals

lemma derived_of_build {recordDigest : Digest}
    {budgetViolation : Bool} {resources : CampaignResources}
    (h : buildCampaignReport header reports recordDigest budgetViolation resources = .ok report) :
    Derived header report := by
  simp only [buildCampaignReport, bind_eq_ok, pure_eq_ok] at h
  obtain ⟨tasks, htasks, devices, hdevices, models, hmodels, efforts, hefforts, _, -, rows, hrows,
    funnel, hfunnel, accounting, haccounting, _, -, spend, hspend, _, hvalid, rfl⟩ := h
  refine ⟨htasks, hdevices, hmodels, hefforts, ⟨rows, hrows, rfl⟩, ⟨funnel, hfunnel, rfl⟩, ?_⟩
  -- the resources of the report come from the ledger; its validator compares them with the trials
  simp only [CampaignReport.validateDerivedTotals, bind_eq_ok, raiseIf_eq_ok, not_not] at hvalid
  obtain ⟨_, -, _, -, _, -, _, -, _, -, _, -, _, -, _, -, aggregated, haggregated, _, hsame, -⟩ :=
    hvalid
  subst hsame
  simp only [groupTotals, haggregated, haccounting, hspend, ok_bind]
  rfl

lemma taskAggregate_eq_ok {group : Digest × List TrialReport} {aggregate : TaskAggregate}
    (h : taskAggregate header group = .ok aggregate) :
    aggregate.taskReleaseDigest = group.1 ∧
      groupTotals group.2 = .ok aggregate.toGroupTotals := by
  simp only [taskAggregate, bind_eq_ok, pure_eq_ok] at h
  obtain ⟨task, -, totals, htotals, rfl⟩ := h
  exact ⟨rfl, htotals⟩

omit [ScheduleCanonical] in
lemma deviceAggregate_eq_ok {group : Capability × List TrialReport} {aggregate : DeviceAggregate}
    (h : deviceAggregate group = .ok aggregate) :
    aggregate.deviceCapability = group.1 ∧
      groupTotals group.2 = .ok aggregate.toGroupTotals := by
  simp only [deviceAggregate, bind_eq_ok, pure_eq_ok] at h
  obtain ⟨totals, htotals, rfl⟩ := h
  exact ⟨rfl, htotals⟩

omit [Canonical] in
lemma routeId_of_routeById {routeId : Identifier} {route : ModelRoute}
    (h : header.routeById routeId = .ok route) : route.routeId = routeId := by
  simpa using List.find?_some (orRaise_eq_ok.mp h)

lemma modelAggregate_eq_ok {group : Identifier × List TrialReport} {aggregate : ModelAggregate}
    (h : modelAggregate header group = .ok aggregate) :
    aggregate.route.routeId = group.1 ∧ groupTotals group.2 = .ok aggregate.toGroupTotals := by
  simp only [modelAggregate, bind_eq_ok, pure_eq_ok] at h
  obtain ⟨route, hroute, totals, htotals, rfl⟩ := h
  exact ⟨routeId_of_routeById hroute, htotals⟩

lemma modelEffortAggregate_eq_ok {group : (Identifier × String) × List TrialReport}
    {aggregate : ModelEffortAggregate} (h : modelEffortAggregate header group = .ok aggregate) :
    (aggregate.routeId, aggregate.reasoningEffort) = group.1 ∧
      groupTotals group.2 = .ok aggregate.toGroupTotals := by
  simp only [modelEffortAggregate, bind_eq_ok, pure_eq_ok] at h
  obtain ⟨route, hroute, totals, htotals, rfl⟩ := h
  exact ⟨Prod.ext (routeId_of_routeById hroute) rfl, htotals⟩

def TrialReport.release (report : TrialReport) : Digest := report.trial.binding.taskReleaseDigest
def TrialReport.device (report : TrialReport) : Capability := report.trial.deviceCapability
def TrialReport.route (report : TrialReport) : Identifier := report.trial.binding.routeId
def TrialReport.effort (report : TrialReport) : String := report.trial.binding.reasoningEffort

lemma Derived.task_partition (h : Derived header report) :
    Partitions report.trials TrialReport.release report.taskAggregates
      TaskAggregate.taskReleaseDigest TaskAggregate.toGroupTotals :=
  partitions_of_groups (groups_keys _ _ _) (fun _ => snd_of_mem_groups) h.tasks
    fun _ _ => taskAggregate_eq_ok

lemma Derived.device_partition (h : Derived header report) :
    Partitions report.trials TrialReport.device report.deviceAggregates
      DeviceAggregate.deviceCapability DeviceAggregate.toGroupTotals :=
  partitions_of_groups (groups_keys _ _ _) (fun _ => snd_of_mem_groups) h.devices
    fun _ _ => deviceAggregate_eq_ok

lemma Derived.model_partition (h : Derived header report) :
    Partitions report.trials TrialReport.route report.modelAggregates
      (fun aggregate => aggregate.route.routeId) ModelAggregate.toGroupTotals :=
  partitions_of_groups (groups_keys _ _ _) (fun _ => snd_of_mem_groups) h.models
    fun _ _ => modelAggregate_eq_ok

lemma Derived.effort_partition (h : Derived header report) :
    Partitions report.trials (fun report => (report.route, report.effort))
      report.modelEffortAggregates
      (fun aggregate => (aggregate.routeId, aggregate.reasoningEffort))
      ModelEffortAggregate.toGroupTotals :=
  partitions_of_groups (((sortedBy_perm _ _).map Prod.fst).trans (groups_keys _ _ _))
    (fun _ hgroup => snd_of_mem_groups (mem_sortedBy.mp hgroup)) h.efforts
    fun _ _ => modelEffortAggregate_eq_ok

/-! ### The funnel -/

/-- No more trials pass a stage than reach it. -/
lemma Derived.funnel_le (h : Derived header report) {row : EvaluatorFunnel}
    (hrow : row ∈ report.evaluatorFunnel) :
    row.passed.numerator ≤ row.reached.numerator ∧
      row.reached.numerator ≤
        (report.trials.filter fun trial => trial.release = row.taskReleaseDigest).length ∧
      row.reached.denominator =
        (report.trials.filter fun trial => trial.release = row.taskReleaseDigest).length ∧
      row.passed.denominator = row.reached.denominator := by
  obtain ⟨rows, hrows, heq⟩ := h.funnel
  rw [heq] at hrow
  obtain ⟨taskRows, htaskRows, hrow⟩ := List.mem_flatten.mp hrow
  obtain ⟨group, hgroup, hfunnel⟩ := exists_of_mem_mapM hrows htaskRows
  simp only [evaluatorFunnel, bind_eq_ok, pure_eq_ok] at hfunnel
  obtain ⟨task, -, rfl⟩ := hfunnel
  obtain ⟨stageId, -, rfl⟩ := List.mem_map.mp hrow
  have htrials : group.2 = report.trials.filter fun trial => trial.release = group.1 :=
    snd_of_mem_groups hgroup
  rw [← htrials]
  refine ⟨?_, List.countP_le_length, rfl, rfl⟩
  refine List.countP_mono_left ?_
  intro trial _ hpassed
  obtain ⟨kind, hkind, -⟩ := List.any_eq_true.mp hpassed
  simpa using List.ne_nil_of_mem hkind

end Sections

/-! ### Success within the first repetitions -/

def ReportTrial.cell (trial : ReportTrial) : Seed128Hex × Digest × Identifier × String :=
  (trial.binding.pairedSeed, trial.binding.taskReleaseDigest, trial.binding.routeId,
    trial.binding.reasoningEffort)

/-- A header whose schedule is the whole product, as every validated header has it. -/
structure ProductHeader [ScheduleCanonical] extends ReportHeader where
  pairedTrialSeeds : List Seed128Hex
  routeIds : List Identifier
  reasoningEfforts : List String
  repetitions_eq : repetitions = pairedTrialSeeds.length
  seeds_nodup : pairedTrialSeeds.Nodup
  routeIds_nodup : routeIds.Nodup
  efforts_nodup : reasoningEfforts.Nodup
  product : reportTrials.map ReportTrial.cell =
    pairedTrialSeeds ×ˢ orderedTaskReleaseDigests ×ˢ routeIds ×ˢ reasoningEfforts
  repetition_at : ∀ trial ∈ reportTrials,
    pairedTrialSeeds[trial.binding.repetitionIndex]? = some trial.binding.pairedSeed

section Repetitions

variable [Canonical] [ScheduleCanonical] {header : ProductHeader} {reports : List TrialReport}
  {release : Digest} {routeId : Identifier} {effort : String}

/-- Task, route and effort of a trial. -/
def TrialReport.setting (report : TrialReport) : Digest × Identifier × String :=
  (report.release, report.route, report.effort)

def TrialReport.repetition (report : TrialReport) : Nat := report.trial.binding.repetitionIndex

lemma seeds_of_setting (h : ReportsTrials header.toReportHeader reports)
    (hrelease : release ∈ header.orderedTaskReleaseDigests) (hroute : routeId ∈ header.routeIds)
    (heffort : effort ∈ header.reasoningEfforts) :
    ((reports.filter fun report => report.setting = (release, routeId, effort)).map
      fun report => report.trial.binding.pairedSeed) = header.pairedTrialSeeds := by
  have hnodup : (header.orderedTaskReleaseDigests ×ˢ header.routeIds ×ˢ
      header.reasoningEfforts).Nodup :=
    header.schedule_valid.ordered_nodup.product (header.routeIds_nodup.product header.efforts_nodup)
  have hmem : (release, routeId, effort) ∈ header.orderedTaskReleaseDigests ×ˢ header.routeIds ×ˢ
      header.reasoningEfforts := by
    simp only [List.mem_product]
    exact ⟨hrelease, hroute, heffort⟩
  have hcells : (reports.map fun report => report.trial.cell) =
      header.pairedTrialSeeds ×ˢ header.orderedTaskReleaseDigests ×ˢ header.routeIds ×ˢ
        header.reasoningEfforts := by
    have hproduct := header.product
    rw [← h, List.map_map] at hproduct
    exact hproduct
  have hfilter := filter_snd_product hnodup hmem header.pairedTrialSeeds
  rw [← hcells, List.filter_map] at hfilter
  have hfirst := congrArg (List.map Prod.fst) hfilter
  rw [List.map_map, List.map_map] at hfirst
  rw [show (Prod.fst ∘ fun seed => (seed, release, routeId, effort)) = (id : String → String) from
    rfl, List.map_id] at hfirst
  exact hfirst

/-- Under one task, route and effort the repetitions are numbered from zero. -/
lemma repetitions_of_setting (h : ReportsTrials header.toReportHeader reports)
    (hrelease : release ∈ header.orderedTaskReleaseDigests) (hroute : routeId ∈ header.routeIds)
    (heffort : effort ∈ header.reasoningEfforts) :
    ((reports.filter fun report => report.setting = (release, routeId, effort)).map
      TrialReport.repetition) = List.range header.repetitions := by
  have hseeds := seeds_of_setting h hrelease hroute heffort
  generalize hgroup : (reports.filter fun report => report.setting = (release, routeId, effort)) =
    group at hseeds
  have hlength : group.length = header.pairedTrialSeeds.length := by
    rw [← hseeds, List.length_map]
  have hsub : ∀ report ∈ group, report ∈ reports := by
    rw [← hgroup]
    intro report hreport
    exact List.mem_of_mem_filter hreport
  refine List.ext_getElem ?_ ?_
  · rw [List.length_map, List.length_range, hlength, header.repetitions_eq]
  · intro i hi hi'
    rw [List.length_map] at hi
    rw [List.getElem_map, List.getElem_range]
    have hat := header.repetition_at _ (h.mem (hsub _ (List.getElem_mem hi)))
    have hseed : header.pairedTrialSeeds[i]? = some group[i].trial.binding.pairedSeed := by
      rw [← hseeds, List.getElem?_map, List.getElem?_eq_getElem hi]
      rfl
    obtain ⟨hlt, heq⟩ := List.getElem?_eq_some_iff.mp hat
    obtain ⟨hlt', heq'⟩ := List.getElem?_eq_some_iff.mp hseed
    exact header.seeds_nodup.getElem_inj_iff.mp (heq.trans heq'.symm)

omit [Canonical] [ScheduleCanonical] in
/-- In a list numbered from zero, the first `k` are those with a number below `k`. -/
lemma any_take_of_numbered {α : Type} {number : α → Nat} {xs : List α} {n : Nat}
    (h : xs.map number = List.range n) (k : Nat) (p : α → Bool) :
    (xs.take k).any p = true ↔ ∃ x ∈ xs, p x = true ∧ number x < k := by
  have hnumber : ∀ (i : Nat) (hi : i < xs.length), number xs[i] = i := by
    intro i hi
    have hget : (xs.map number)[i]? = some (number xs[i]) := by
      rw [List.getElem?_map, List.getElem?_eq_getElem hi]
      rfl
    rw [h] at hget
    obtain ⟨_, heq⟩ := List.getElem?_eq_some_iff.mp hget
    rw [List.getElem_range] at heq
    exact heq.symm
  rw [List.any_eq_true]
  constructor
  · rintro ⟨x, hx, hp⟩
    obtain ⟨i, hi, rfl⟩ := List.mem_take_iff_getElem.mp hx
    have hlt : i < xs.length := by omega
    refine ⟨_, List.getElem_mem hlt, hp, ?_⟩
    rw [hnumber i hlt]
    omega
  · rintro ⟨x, hx, hp, hk⟩
    obtain ⟨i, hi, rfl⟩ := List.mem_iff_getElem.mp hx
    rw [hnumber i hi] at hk
    exact ⟨_, List.mem_take_iff_getElem.mpr ⟨i, by omega, rfl⟩, hp⟩

/-- The tasks solved under one route and effort within the first `k` repetitions. -/
def solvedTasks (header : ProductHeader) (reports : List TrialReport) (routeId : Identifier)
    (effort : String) (k : Nat) : List Digest :=
  header.orderedTaskReleaseDigests.filter fun release => reports.any fun report =>
    report.setting = (release, routeId, effort) ∧ report.success = true ∧ report.repetition < k

omit [ScheduleCanonical] in
lemma filter_setting (reports : List TrialReport) (release : Digest) (routeId : Identifier)
    (effort : String) :
    (((reports.filter fun report => report.route = routeId).filter fun report =>
        report.effort = effort).filter fun report => report.release = release) =
      reports.filter fun report => report.setting = (release, routeId, effort) := by
  rw [List.filter_filter, List.filter_filter]
  refine List.filter_congr ?_
  intro report _
  simp only [TrialReport.setting, Prod.mk.injEq, Bool.decide_and, Bool.and_assoc,
    Bool.and_comm (decide (report.effort = effort))]

/-- The releases that occur under one route and effort are those of the header. -/
lemma releases_of_selected (h : ReportsTrials header.toReportHeader reports)
    (hrepetitions : header.repetitions ≠ 0) (hroute : routeId ∈ header.routeIds)
    (heffort : effort ∈ header.reasoningEfforts) :
    (((reports.filter fun report => report.route = routeId).filter fun report =>
        report.effort = effort).map TrialReport.release).dedup.Perm
      header.orderedTaskReleaseDigests := by
  refine (List.perm_ext_iff_of_nodup (List.nodup_dedup _)
    header.schedule_valid.ordered_nodup).mpr ?_
  intro release
  rw [List.mem_dedup]
  constructor
  · intro hmem
    obtain ⟨report, hreport, rfl⟩ := List.mem_map.mp hmem
    have htrial := h.mem (List.mem_of_mem_filter (List.mem_of_mem_filter hreport))
    exact List.mem_of_getElem? (header.schedule_valid.index_eq report.trial htrial)
  · intro hrelease
    have hnumbered := repetitions_of_setting h hrelease hroute heffort
    have hne : (reports.filter fun report => report.setting = (release, routeId, effort)) ≠ [] := by
      intro hnil
      rw [hnil, List.map_nil] at hnumbered
      exact hrepetitions (List.range_eq_nil.mp hnumbered.symm)
    obtain ⟨report, hreport⟩ := List.exists_mem_of_ne_nil _ hne
    rw [← filter_setting] at hreport
    obtain ⟨hselected, hsame⟩ := List.mem_filter.mp hreport
    exact List.mem_map.mpr ⟨report, hselected, by simpa using hsame⟩

/-- The share of solved tasks counts the tasks with a success in an early repetition. -/
lemma successWithin_eq (h : ReportsTrials header.toReportHeader reports)
    (hrepetitions : header.repetitions ≠ 0) (hroute : routeId ∈ header.routeIds)
    (heffort : effort ∈ header.reasoningEfforts) (k : Nat) :
    (successWithin ((reports.filter fun report => report.route = routeId).filter fun report =>
        report.effort = effort) k).numerator =
          (solvedTasks header reports routeId effort k).length ∧
      (successWithin ((reports.filter fun report => report.route = routeId).filter fun report =>
        report.effort = effort) k).denominator = header.orderedTaskReleaseDigests.length := by
  have hperm := releases_of_selected h hrepetitions hroute heffort
  generalize hselected : ((reports.filter fun report => report.route = routeId).filter fun report =>
    report.effort = effort) = selected at hperm
  have hgroups : (taskGroups selected).Perm ((selected.map TrialReport.release).dedup.map
      fun release => (release, selected.filter fun report => report.release = release)) :=
    sortedBy_perm _ _
  constructor
  · refine (hgroups.countP_eq _).trans ?_
    rw [List.countP_map, hperm.countP_eq, solvedTasks, ← List.countP_eq_length_filter]
    refine List.countP_congr ?_
    intro release hrelease
    have hnumbered := repetitions_of_setting h hrelease hroute heffort
    have hsorted : ((reports.filter fun report =>
        report.setting = (release, routeId, effort)).insertionSort fun a b =>
          a.trial.binding.repetitionIndex ≤ b.trial.binding.repetitionIndex) =
        reports.filter fun report => report.setting = (release, routeId, effort) := by
      refine List.Pairwise.insertionSort_eq ?_
      have hle : (List.range header.repetitions).Pairwise (· ≤ ·) :=
        List.pairwise_lt_range.imp fun h => h.le
      rw [← hnumbered, List.pairwise_map] at hle
      exact hle
    have hgroup : (selected.filter fun report => report.release = release) =
        reports.filter fun report => report.setting = (release, routeId, effort) := by
      rw [← hselected, filter_setting]
    simp only [Function.comp_apply, hgroup, hsorted, any_take_of_numbered hnumbered,
      List.any_eq_true, List.mem_filter, decide_eq_true_eq, and_assoc]
  · exact (hgroups.length_eq.trans (List.length_map _)).trans hperm.length_eq

section

omit [Canonical]

lemma ProductHeader.repetition_lt (header : ProductHeader) {trial : ReportTrial}
    (htrial : trial ∈ header.reportTrials) :
    trial.binding.repetitionIndex < header.repetitions := by
  obtain ⟨hlt, -⟩ := List.getElem?_eq_some_iff.mp (header.repetition_at trial htrial)
  rw [header.repetitions_eq]
  exact hlt

lemma ProductHeader.repetitions_ne_zero (header : ProductHeader) : header.repetitions ≠ 0 := by
  have hne : header.reportTrials ≠ [] := by
    intro hnil
    apply header.schedule.trials_ne_nil
    rw [← header.trials_eq, hnil, List.map_nil]
  obtain ⟨trial, htrial⟩ := List.exists_mem_of_ne_nil _ hne
  have := header.repetition_lt htrial
  omega

lemma ProductHeader.mem_cell (header : ProductHeader) {trial : ReportTrial}
    (htrial : trial ∈ header.reportTrials) :
    trial.binding.pairedSeed ∈ header.pairedTrialSeeds ∧
      trial.binding.taskReleaseDigest ∈ header.orderedTaskReleaseDigests ∧
      trial.binding.routeId ∈ header.routeIds ∧
      trial.binding.reasoningEffort ∈ header.reasoningEfforts := by
  have hcell : trial.cell ∈ header.reportTrials.map ReportTrial.cell := List.mem_map_of_mem htrial
  rw [header.product] at hcell
  simpa only [ReportTrial.cell, List.mem_product] using hcell

end

/-- What one row of the success table says. -/
structure SuccessAtK.Counts (row : SuccessAtK) (header : ProductHeader)
    (reports : List TrialReport) : Prop where
  route_mem : row.routeId ∈ header.routeIds
  effort_mem : row.reasoningEffort ∈ header.reasoningEfforts
  k_pos : 1 ≤ row.k
  k_le : row.k ≤ header.repetitions
  numerator : row.success.numerator =
    (solvedTasks header reports row.routeId row.reasoningEffort row.k).length
  denominator : row.success.denominator = header.orderedTaskReleaseDigests.length

lemma Derived.row_counts {report : CampaignReport} (h : Derived header.toReportHeader report)
    (htrials : ReportsTrials header.toReportHeader report.trials) {row : SuccessAtK}
    (hrow : row ∈ report.successAtK) : row.Counts header report.trials := by
  obtain ⟨rows, hrows, heq⟩ := h.rows
  rw [heq] at hrow
  obtain ⟨routeRows, hrouteRows, hrow⟩ := List.mem_flatten.mp hrow
  obtain ⟨group, hgroup, hsuccess⟩ := exists_of_mem_mapM hrows hrouteRows
  simp only [EdaGym.successAtK, bind_eq_ok, pure_eq_ok] at hsuccess
  obtain ⟨route, -, rfl⟩ := hsuccess
  obtain ⟨effort, heffort, hrow⟩ := List.mem_flatMap.mp hrow
  obtain ⟨i, hi, rfl⟩ := List.mem_map.mp hrow
  obtain ⟨⟨source, hsource, hkey⟩, -⟩ := mem_groups hgroup
  have hgroup_eq : group.2 = report.trials.filter fun trial => trial.route = group.1 :=
    snd_of_mem_groups hgroup
  rw [mem_sortedStrings, List.mem_dedup] at heffort
  obtain ⟨other, hother, rfl⟩ := List.mem_map.mp heffort
  have hroute_mem : group.1 ∈ header.routeIds :=
    hkey ▸ (header.mem_cell (htrials.mem hsource)).2.2.1
  have heffort_mem : other.trial.binding.reasoningEffort ∈ header.reasoningEfforts := by
    rw [hgroup_eq] at hother
    exact (header.mem_cell (htrials.mem (List.mem_of_mem_filter hother))).2.2.2
  obtain ⟨hnumerator, hdenominator⟩ := successWithin_eq htrials header.repetitions_ne_zero
    hroute_mem heffort_mem (i + 1)
  rw [← hgroup_eq] at hnumerator hdenominator
  have hlt := List.mem_range.mp hi
  exact ⟨hroute_mem, heffort_mem, by simp, hlt, hnumerator, hdenominator⟩

/-- Every route, effort and number of repetitions has a row. -/
lemma Derived.exists_row {report : CampaignReport} (h : Derived header.toReportHeader report)
    (htrials : ReportsTrials header.toReportHeader report.trials) {k : Nat}
    (hroute : routeId ∈ header.routeIds) (heffort : effort ∈ header.reasoningEfforts)
    (hpos : 1 ≤ k) (hk : k ≤ header.repetitions) :
    ∃ row ∈ report.successAtK,
      row.routeId = routeId ∧ row.reasoningEffort = effort ∧ row.k = k := by
  obtain ⟨rows, hrows, heq⟩ := h.rows
  have hne : header.orderedTaskReleaseDigests ≠ [] := by
    have htrials_ne : header.reportTrials ≠ [] := by
      intro hnil
      apply header.schedule.trials_ne_nil
      rw [← header.trials_eq, hnil, List.map_nil]
    obtain ⟨trial, htrial⟩ := List.exists_mem_of_ne_nil _ htrials_ne
    exact List.ne_nil_of_mem (header.mem_cell htrial).2.1
  obtain ⟨release, hrelease⟩ := List.exists_mem_of_ne_nil _ hne
  have hnumbered := repetitions_of_setting htrials hrelease hroute heffort
  obtain ⟨source, hsource⟩ : ∃ source, source ∈ report.trials.filter fun trial =>
      trial.setting = (release, routeId, effort) := by
    refine List.exists_mem_of_ne_nil _ ?_
    intro hnil
    rw [hnil, List.map_nil] at hnumbered
    exact header.repetitions_ne_zero (List.range_eq_nil.mp hnumbered.symm)
  obtain ⟨hmem, hsetting⟩ := List.mem_filter.mp hsource
  simp only [TrialReport.setting, decide_eq_true_eq, Prod.mk.injEq] at hsetting
  obtain ⟨-, rfl, rfl⟩ := hsetting
  have hgroup : (source.route, report.trials.filter fun trial => trial.route = source.route) ∈
      routeGroups report.trials := by
    rw [routeGroups, groups, mem_sortedBy]
    exact List.mem_map.mpr ⟨_, List.mem_dedup.mpr (List.mem_map_of_mem hmem), rfl⟩
  obtain ⟨i, hi, hget⟩ := List.mem_iff_getElem.mp hgroup
  have hforall := mapM_eq_ok_iff.mp hrows
  have hi' : i < rows.length := by
    rw [← hforall.length_eq]
    exact hi
  have hrow := hforall.get hi hi'
  simp only [List.get_eq_getElem, hget, EdaGym.successAtK, bind_eq_ok, pure_eq_ok] at hrow
  obtain ⟨route, -, hrow⟩ := hrow
  have hin : source ∈ report.trials.filter fun trial => trial.route = source.route :=
    List.mem_filter.mpr ⟨hmem, decide_eq_true rfl⟩
  refine ⟨{
    routeId := source.route, requestedModel := route.requestedModel
    reasoningEffort := source.effort, k := k - 1 + 1
    success := successWithin ((report.trials.filter fun trial =>
      trial.route = source.route).filter fun trial => trial.effort = source.effort) (k - 1 + 1) },
    ?_, rfl, rfl, Nat.sub_add_cancel hpos⟩
  rw [heq]
  refine List.mem_flatten.mpr ⟨rows[i], List.getElem_mem hi', ?_⟩
  rw [← hrow]
  refine List.mem_flatMap.mpr ⟨source.effort, ?_, List.mem_map.mpr ⟨k - 1, ?_, rfl⟩⟩
  · rw [mem_sortedStrings, List.mem_dedup]
    exact List.mem_map_of_mem hin
  · rw [List.mem_range]
    omega

/-- More repetitions solve no fewer tasks. -/
lemma solvedTasks_mono (header : ProductHeader) (reports : List TrialReport) (routeId : Identifier)
    (effort : String) {k k' : Nat} (hk : k ≤ k') :
    (solvedTasks header reports routeId effort k).length ≤
      (solvedTasks header reports routeId effort k').length := by
  rw [solvedTasks, solvedTasks, ← List.countP_eq_length_filter, ← List.countP_eq_length_filter]
  refine List.countP_mono_left ?_
  intro release _ hsolved
  simp only [List.any_eq_true, decide_eq_true_eq] at hsolved ⊢
  obtain ⟨report, hreport, hsetting, hsuccess, hlt⟩ := hsolved
  exact ⟨report, hreport, hsetting, hsuccess, hlt.trans_le hk⟩

/-- The tasks solved under one route and effort. -/
def solvedAtAll (header : ProductHeader) (reports : List TrialReport) (routeId : Identifier)
    (effort : String) : List Digest :=
  header.orderedTaskReleaseDigests.filter fun release => reports.any fun report =>
    report.setting = (release, routeId, effort) ∧ report.success = true

lemma solvedTasks_repetitions (h : ReportsTrials header.toReportHeader reports)
    (routeId : Identifier) (effort : String) :
    solvedTasks header reports routeId effort header.repetitions =
      solvedAtAll header reports routeId effort := by
  refine List.filter_congr ?_
  intro release _
  rw [Bool.eq_iff_iff]
  simp only [List.any_eq_true, decide_eq_true_eq]
  constructor
  · rintro ⟨report, hreport, hsetting, hsuccess, -⟩
    exact ⟨report, hreport, hsetting, hsuccess⟩
  · rintro ⟨report, hreport, hsetting, hsuccess⟩
    exact ⟨report, hreport, hsetting, hsuccess, header.repetition_lt (h.mem hreport)⟩

end Repetitions

/-! ### Validated headers are products -/

namespace Schedule

lemma CampaignSpec.retries_le {campaign : CampaignSpec}
    (h : Accepted CampaignSpec.validate campaign) :
    campaign.retryPolicy.maxRequestAttempts ≤ campaign.tokenLimits.maxRequestsPerTrial := by
  obtain ⟨raw, h⟩ := h
  simp only [validate, bind_eq_ok, pure_eq_ok] at h
  obtain ⟨_, -, _, -, _, -, _, -, _, -, _, -, _, hscope, rfl⟩ := h
  simp only [validateScope, bind_eq_ok, raiseIf_eq_ok, not_lt] at hscope
  obtain ⟨_, -, _, -, _, -, _, -, _, -, _, -, _, -, _, -, hretries⟩ := hscope
  exact hretries

lemma CampaignTask.stages_nodup {task : CampaignTask} (h : Accepted CampaignTask.validate task) :
    task.evaluatorStageIds.Nodup := by
  obtain ⟨raw, h⟩ := h
  simp only [validate, bind_eq_ok, raiseIf_eq_ok, not_not, pure_eq_ok] at h
  obtain ⟨_, -, _, -, _, hnodup, _, -, rfl⟩ := h
  exact hnodup

variable [ScheduleDigests] [ScheduleCanonical] {campaign : CampaignSpec}
  {modelSet : ModelSetManifest} {config : ResolvedProviderConfig}
  {tasks ordered : List CampaignTask} {schedule : CampaignSchedule} {routes : List ModelRoute}

/-- What accounting and reports read of a validated header. -/
def productHeader (hcampaign : Accepted CampaignSpec.validate campaign)
    (htasks : ∀ task ∈ tasks, Accepted CampaignTask.validate task)
    (h : Built campaign modelSet tasks schedule ordered routes)
    (hconfig : MatchingConfig campaign modelSet tasks config) : ProductHeader :=
  let reportTasks : List ReportTask := tasks.attach.map fun task => {
    taskReleaseDigest := task.1.taskReleaseDigest
    evaluatorStageIds := task.1.evaluatorStageIds
    stages_nodup := CampaignTask.stages_nodup (htasks task.1 task.2)
    taskFamily := task.1.taskFamily
    role := task.1.role }
  let reportTrials := schedule.trials.map ScheduledTrial.report
  let complete := h.complete (CampaignSpec.distinct hcampaign)
  { campaign := {
      feedbackPolicyDigest := campaign.feedbackPolicyDigest
      retryPolicy := campaign.retryPolicy
      tokenLimits := campaign.tokenLimits
      executionLimits := campaign.executionLimits
      digest := campaign.digest
      retries_le := CampaignSpec.retries_le hcampaign }
    providerConfig := { profileDigest := config.profile.digest, digest := config.digest }
    tasks := reportTasks.map ReportTask.toCampaignTask
    schedule := {
      trials := reportTrials.map ReportTrial.toScheduledTrial
      digest := ScheduleCanonical.scheduleDigest campaign.digest modelSet.digest
        schedule.orderedTaskReleaseDigests reportTrials
      trials_ne_nil := by
        have hne := (schedule_check_eq_ok.mp h.schedule_checked).2.1
        simpa [reportTrials, ← List.length_eq_zero_iff] using hne
      trials_nodup := by
        rw [List.map_map]
        exact h.scheduleValid.ids_nodup }
    tasks_nodup := by
      have hreleases := h.admitted.releases_nodup
      rw [← List.attach_map_subtype_val tasks, List.map_map] at hreleases
      rw [List.map_map, List.map_map]
      exact hreleases
    scope := campaign.scope
    serviceTier := campaign.serviceTier
    repetitions := campaign.pairedTrialSeeds.length
    modelSetDigest := modelSet.digest
    routes := modelSet.routes.map ModelRoute.toModelRoute
    reportTasks
    orderedTaskReleaseDigests := schedule.orderedTaskReleaseDigests
    reportTrials
    tasks_eq := rfl
    trials_eq := rfl
    schedule_valid := h.scheduleValid
    schedule_digest := rfl
    task_mem := by
      intro trial htrial
      obtain ⟨⟨task, htask, hsame⟩, -⟩ := h.report_bound hconfig htrial
      exact ⟨_, List.mem_map_of_mem (List.mem_attach tasks ⟨task, htask⟩), hsame⟩
    route_mem := by
      intro trial htrial
      obtain ⟨-, ⟨route, hroute, hsame⟩, -⟩ := h.report_bound hconfig htrial
      exact ⟨_, List.mem_map_of_mem hroute, hsame⟩
    profile_eq := fun _ htrial => (h.report_bound hconfig htrial).2.2.1
    config_eq := fun _ htrial => (h.report_bound hconfig htrial).2.2.2.1
    tier_eq := fun _ htrial => (h.report_bound hconfig htrial).2.2.2.2
    pairedTrialSeeds := campaign.pairedTrialSeeds
    routeIds := campaign.routeIds
    reasoningEfforts := campaign.reasoningEfforts
    repetitions_eq := rfl
    seeds_nodup := (CampaignSpec.distinct hcampaign).pairedTrialSeeds
    routeIds_nodup := (CampaignSpec.distinct hcampaign).routeIds
    efforts_nodup := (CampaignSpec.distinct hcampaign).reasoningEfforts
    product := by
      rw [List.map_map]
      exact complete.order
    repetition_at := by
      intro _ hreported
      obtain ⟨trial, htrial, rfl⟩ := List.mem_map.mp hreported
      exact complete.repetitions trial htrial }

end Schedule

end EdaGym
