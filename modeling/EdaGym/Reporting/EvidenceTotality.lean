import EdaGym.Reporting.CampaignEvidence
import Mathlib.Tactic.Ring

/-!
# Which campaigns enter the release report

The canary sources of a summary are those of the whole model set, its routes those of the campaign,
and the summary demands as many of the one as of the other. Every other check follows from the
header and from the ledger behind the report.
-/

namespace EdaGym.Release

lemma length_sortedStrings (xs : List String) : (sortedStrings xs).length = xs.length :=
  (sortedStrings_perm xs).length_eq

/-- What a validated summary keeps of the raw one. -/
lemma validate_fields {raw evidence : CampaignEvidence} (h : raw.validate = .ok evidence) :
    evidence.routeCanaryEvidenceDigests = sortedStrings raw.routeCanaryEvidenceDigests ∧
      evidence.modelDiscoveryDigest = raw.modelDiscoveryDigest ∧
      evidence.status = raw.status ∧ evidence.budgetViolation = raw.budgetViolation ∧
      evidence.counts = raw.counts ∧
      raw.routeCanaryEvidenceDigests.length = raw.routeIds.length := by
  simp only [CampaignEvidence.validate, bind_eq_ok, normalizeUnique_eq_ok, pure_eq_ok] at h
  obtain ⟨_, ⟨-, rfl⟩, _, ⟨-, rfl⟩, _, -, _, ⟨-, rfl⟩, _, ⟨-, rfl⟩, _, -, _, -, _, hsummary, rfl⟩ :=
    h
  simp only [CampaignEvidence.validateSummary, bind_eq_ok, raiseIf_eq_ok, exists_const, not_not,
    ne_eq] at hsummary
  obtain ⟨-, -, hlength, -⟩ := hsummary
  rw [length_sortedStrings, length_sortedStrings] at hlength
  exact ⟨rfl, rfl, rfl, rfl, rfl, hlength⟩

/-! ### What an accepted header says -/

section Headers

variable [ScheduleCanonical] [Schedule.ScheduleDigests] (header : ReleaseHeader)

/-- The facts of `validate_route_set`. -/
structure RouteSet (modelSet : Schedule.ModelSetManifest) : Prop where
  routeIds_nodup : (modelSet.routes.map fun route => route.routeId).Nodup
  requested_nodup : (modelSet.routes.map fun route => route.requestedModel).Nodup
  uncovered_nodup : (modelSet.uncoveredCategories.map Schedule.UncoveredCategory.category).Nodup
  disjoint : ∀ category ∈ modelSet.routes.flatMap fun route => route.categories,
    category ∉ modelSet.uncoveredCategories.map Schedule.UncoveredCategory.category
  covers : SameSet ((modelSet.routes.flatMap fun route => route.categories).filter
      (· ∈ Schedule.REQUIRED_MODEL_CATEGORIES) ++
      modelSet.uncoveredCategories.map Schedule.UncoveredCategory.category)
    Schedule.REQUIRED_MODEL_CATEGORIES

lemma ReleaseHeader.distinct : header.campaign.Distinct :=
  Schedule.CampaignSpec.distinct header.campaign_accepted

lemma ReleaseHeader.routeSet : RouteSet header.modelSet := by
  obtain ⟨raw, h⟩ := header.modelSet_accepted
  simp only [Schedule.ModelSetManifest.validate, bind_eq_ok, pure_eq_ok] at h
  obtain ⟨routes, -, _, -, _, hset, heq⟩ := h
  rw [heq] at hset
  simp only [Schedule.ModelSetManifest.validateRouteSet, bind_eq_ok, raiseIf_eq_ok, exists_const,
    not_not, not_exists, not_and] at hset
  obtain ⟨hids, hrequested, -, -, huncovered, -, hdisjoint, hcovers⟩ := hset
  exact ⟨hids, hrequested, huncovered, hdisjoint, hcovers⟩

lemma ReleaseHeader.built : ∃ ordered routes,
    Schedule.Built header.campaign header.modelSet header.tasks header.schedule ordered routes := by
  obtain ⟨raw, h⟩ := header.created
  simp only [Schedule.CampaignHeader.create, bind_eq_ok, pure_eq_ok] at h
  obtain ⟨tasks, -, _, hbindings, heq⟩ := h
  rw [heq] at hbindings
  simp only [Schedule.CampaignHeader.validateBindings, bind_eq_ok, raiseIf_eq_ok, exists_const,
    not_not, ne_eq] at hbindings
  obtain ⟨-, -, expected, hexpected, hsame⟩ := hbindings
  rw [← hsame] at hexpected
  exact Schedule.buildCampaignSchedule_eq_ok.mp hexpected

/-- Every campaign selects some of the routes of its model set, each once. -/
lemma ReleaseHeader.routeIds_subset : ∀ routeId ∈ header.campaign.routeIds,
    routeId ∈ header.modelSet.routes.map fun route => route.routeId := by
  obtain ⟨_, routes, hbuilt⟩ := header.built
  obtain ⟨hids, hmem⟩ := Schedule.map_routeId hbuilt.routes_eq
  rw [← hids]
  intro routeId hrouteId
  obtain ⟨route, hroute, rfl⟩ := List.mem_map.mp hrouteId
  exact List.mem_map_of_mem (hmem route hroute)

lemma ReleaseHeader.trials_length : header.schedule.trials.length = header.tasks.length *
    header.campaign.routeIds.length * header.campaign.reasoningEfforts.length *
      header.campaign.pairedTrialSeeds.length := by
  obtain ⟨ordered, routes, hbuilt⟩ := header.built
  have hroutes : routes.length = header.campaign.routeIds.length := by
    rw [← (Schedule.map_routeId hbuilt.routes_eq).1, List.length_map]
  have hordered : ordered.length = header.tasks.length := by
    rw [← (mapM_eq_ok_iff.mp hbuilt.ordered_eq).length_eq, Schedule.orderedReleases,
      (sortedOn_perm _ _).length_eq, List.length_map]
  rw [hbuilt.schedule_eq, Schedule.length_numbered, Schedule.length_trialBindings, hroutes,
    hordered]
  ring

lemma ReleaseHeader.tasks_ne_nil : header.tasks ≠ [] := by
  obtain ⟨_, _, hbuilt⟩ := header.built
  intro hnil
  obtain ⟨release, hrelease⟩ := List.exists_mem_of_ne_nil _
    header.distinct.taskReleaseDigests_ne_nil
  have hmem := hbuilt.admitted.releases.2 release hrelease
  rw [hnil] at hmem
  exact List.not_mem_nil hmem

lemma ReleaseHeader.trials_pos : header.schedule.trials.length ≠ 0 := by
  have hdistinct := header.distinct
  rw [header.trials_length]
  simp only [ne_eq, Nat.mul_eq_zero, List.length_eq_zero_iff, header.tasks_ne_nil,
    hdistinct.routeIds_ne_nil, hdistinct.reasoningEfforts_ne_nil,
    hdistinct.pairedTrialSeeds_ne_nil, or_self, not_false_eq_true]

/-- The campaign runs on every route of its model set. -/
def ReleaseHeader.SelectsEveryRoute (header : ReleaseHeader) : Prop :=
  ∀ route ∈ header.modelSet.routes, route.routeId ∈ header.campaign.routeIds

lemma ReleaseHeader.selectsEveryRoute_iff : header.SelectsEveryRoute ↔
    header.modelSet.routes.length = header.campaign.routeIds.length := by
  have hsub := header.routeIds_subset
  have hroutes := header.routeSet.routeIds_nodup
  have hids := header.distinct.routeIds
  have hlength : (header.modelSet.routes.map fun route => route.routeId).length =
      header.modelSet.routes.length := List.length_map _
  rw [← hlength]
  constructor
  · intro hselects
    refine ((List.perm_ext_iff_of_nodup hroutes hids).mpr ?_).length_eq
    intro routeId
    refine ⟨?_, hsub routeId⟩
    intro hrouteId
    obtain ⟨route, hroute, rfl⟩ := List.mem_map.mp hrouteId
    exact hselects route hroute
  · intro hlength route hroute
    have hperm := (hids.subperm hsub).perm_of_length_le hlength.le
    exact hperm.symm.subset (List.mem_map_of_mem hroute)

lemma categories_ok (header : ReleaseHeader) :
    let covered := (sortedBy ModelCategory.value
      (header.modelSet.routes.flatMap fun route => route.categories).dedup).filter
        (· ∈ Schedule.REQUIRED_MODEL_CATEGORIES)
    let uncovered := (sortedBy (fun item : Schedule.UncoveredCategory => item.category.value)
      header.modelSet.uncoveredCategories).map Schedule.UncoveredCategory.category
    (∀ category ∈ covered, category ∉ uncovered) ∧
      SameSet (covered ++ uncovered) Schedule.REQUIRED_MODEL_CATEGORIES := by
  have hset := header.routeSet
  have huncovered : ∀ category, category ∈ (sortedBy
      (fun item : Schedule.UncoveredCategory => item.category.value)
        header.modelSet.uncoveredCategories).map Schedule.UncoveredCategory.category ↔
      category ∈ header.modelSet.uncoveredCategories.map Schedule.UncoveredCategory.category := by
    intro category
    simp only [List.mem_map, mem_sortedBy]
  have hcovered : ∀ category, category ∈ (sortedBy ModelCategory.value
      (header.modelSet.routes.flatMap fun route => route.categories).dedup).filter
        (· ∈ Schedule.REQUIRED_MODEL_CATEGORIES) ↔
      category ∈ (header.modelSet.routes.flatMap fun route => route.categories).filter
        (· ∈ Schedule.REQUIRED_MODEL_CATEGORIES) := by
    intro category
    simp only [List.mem_filter, mem_sortedBy, List.mem_dedup]
  constructor
  · intro category hcategory
    rw [hcovered] at hcategory
    rw [huncovered]
    exact hset.disjoint category (List.mem_filter.mp hcategory).1
  · constructor
    · intro category hcategory
      refine hset.covers.1 category ?_
      rw [List.mem_append, hcovered, huncovered] at hcategory
      exact List.mem_append.mpr hcategory
    · intro category hcategory
      rw [List.mem_append, hcovered, huncovered]
      exact List.mem_append.mp (hset.covers.2 category hcategory)

end Headers

/-! ### What a report says of its trials -/

section Trials

variable [Canonical] {report : TrialReport} {trials : List TrialReport}

/-- The run of a trial reached a comparable stop reason within its accounts, with paid usage that
is known for every attempt. -/
structure TrialPasses (report : TrialReport) : Prop where
  completed : report.outcome.disposition = .completedRun
  comparable : report.outcome.terminalReason ∈ COMPARABLE_TRIAL_STOP_REASONS
  accounted : report.accountingViolation = false
  positive : ∃ attempt ∈ report.providerAttempts, attempt.disposition = .completed ∧
    ∃ usage ∈ attempt.providerUsage, 0 < usage.totalTokens
  known : ∀ attempt ∈ report.providerAttempts, attempt.providerUsage ≠ none

lemma hasPositiveUsage_iff : hasPositiveUsage report = true ↔
    ∃ attempt ∈ report.providerAttempts, attempt.disposition = .completed ∧
      ∃ usage ∈ attempt.providerUsage, 0 < usage.totalTokens := by
  simp only [hasPositiveUsage, List.any_eq_true, Bool.and_eq_true, decide_eq_true_eq,
    Option.any_eq_true, Option.mem_def]

lemma trialStatus_passed_iff : trialStatus report = .passed ↔ TrialPasses report := by
  rw [trialStatus]
  split_ifs with hfailed hdispatched hshort
  · refine ⟨fun h => (nomatch h), ?_⟩
    intro hpasses
    rcases hfailed with hviolation | hbefore | ⟨attempt, hattempt, hnone⟩
    · exact absurd hviolation (by rw [hpasses.accounted]; decide)
    · exact absurd hbefore (by rw [hpasses.completed]; decide)
    · exact absurd hnone (hpasses.known attempt hattempt)
  · refine ⟨fun h => (nomatch h), ?_⟩
    intro hpasses
    exact absurd hdispatched (by rw [hpasses.completed]; decide)
  · refine ⟨fun h => (nomatch h), ?_⟩
    intro hpasses
    rcases hshort with hreason | husage
    · exact absurd hpasses.comparable hreason
    · exact absurd (hasPositiveUsage_iff.mpr hpasses.positive) (by rw [husage]; decide)
  · refine ⟨fun _ => ?_, fun _ => rfl⟩
    simp only [not_or, not_exists, not_and, Bool.not_eq_true, Bool.not_eq_false, not_not]
      at hfailed hshort
    refine ⟨?_, hshort.1, hfailed.1, hasPositiveUsage_iff.mp hshort.2, hfailed.2.2⟩
    cases hdisposition : report.outcome.disposition with
    | completedRun => rfl
    | failedBeforeRun => exact absurd hdisposition hfailed.2.1
    | notDispatched => exact absurd hdisposition hdispatched

lemma trialStatus_of_violation (h : report.accountingViolation = true) :
    trialStatus report = .failed := by
  rw [trialStatus, if_pos (Or.inl h)]

/-- A campaign passes exactly when each of its trials does. -/
lemma evidenceStatus_passed_iff :
    evidenceStatus (evidenceCounts (trials.map trialStatus)) = .passed ↔
      ∀ report ∈ trials, TrialPasses report := by
  have hcounts : evidenceStatus (evidenceCounts (trials.map trialStatus)) = .passed ↔
      .failed ∉ trials.map trialStatus ∧ .unavailable ∉ trials.map trialStatus := by
    rw [← List.count_eq_zero, ← List.count_eq_zero, evidenceStatus, evidenceCounts]
    by_cases hfailed : (trials.map trialStatus).count .failed = 0
    · by_cases hunavailable : (trials.map trialStatus).count .unavailable = 0
      · simp [hfailed, hunavailable]
      · simp [hfailed, hunavailable]
    · simp [hfailed]
  rw [hcounts]
  constructor
  · rintro ⟨hfailed, hunavailable⟩ report hreport
    rw [← trialStatus_passed_iff]
    cases hstatus : trialStatus report with
    | passed => rfl
    | failed => exact absurd (List.mem_map.mpr ⟨report, hreport, hstatus⟩) hfailed
    | unavailable => exact absurd (List.mem_map.mpr ⟨report, hreport, hstatus⟩) hunavailable
  · intro hpasses
    constructor <;> intro hmem <;> obtain ⟨report, hreport, hstatus⟩ := List.mem_map.mp hmem <;>
      rw [trialStatus_passed_iff.mpr (hpasses report hreport)] at hstatus <;> cases hstatus

end Trials

section Reports

variable [Canonical] [ScheduleCanonical] [Schedule.ScheduleDigests] {record : CampaignRecord}
  {report : CampaignReport}

/-- What the summary needs of the report of a record. -/
structure ReportFacts (record : CampaignRecord) (report : CampaignReport) : Prop where
  campaign : report.campaignDigest = record.campaignDigest
  length : report.trials.length = record.header.schedule.trials.length
  violation : report.budgetViolation = report.trials.any TrialReport.accountingViolation
  unknown : report.tokenAccounting.unknownUsageAttempts =
    (allAttempts report.trials).countP fun attempt => attempt.providerUsage = none

lemma counts_failed_of_violation (hfacts : ReportFacts record report)
    (h : report.budgetViolation = true) :
    (evidenceCounts (report.trials.map trialStatus)).failed ≠ 0 := by
  rw [hfacts.violation, List.any_eq_true] at h
  obtain ⟨trial, htrial, hviolation⟩ := h
  have hmem : .failed ∈ report.trials.map trialStatus :=
    List.mem_map.mpr ⟨trial, htrial, trialStatus_of_violation hviolation⟩
  exact List.count_eq_zero.not.mpr (not_not.mpr hmem)

/-- A campaign that passes has complete positive usage. -/
lemma usage_of_passed (hfacts : ReportFacts record report)
    (h : evidenceStatus (evidenceCounts (report.trials.map trialStatus)) = .passed) :
    report.trials.countP hasPositiveUsage = report.trials.length ∧
      report.tokenAccounting.unknownUsageAttempts = 0 := by
  have hpasses := evidenceStatus_passed_iff.mp h
  constructor
  · rw [List.countP_eq_length]
    exact fun trial htrial => hasPositiveUsage_iff.mpr (hpasses trial htrial).positive
  · rw [hfacts.unknown, List.countP_eq_zero]
    intro attempt hattempt
    obtain ⟨trial, htrial, hattempt⟩ := List.mem_flatMap.mp hattempt
    simpa using (hpasses trial htrial).known attempt hattempt

/-! ### One summary -/

variable [ReleaseDigests]

def canaryDigests (modelSet : Schedule.ModelSetManifest) : List Digest :=
  modelSet.routes.map fun route => route.qualification.canaryEvidenceDigest

/-- Bindings of different releases have different digests. -/
def BindingsDistinct : Prop :=
  ∀ task task' : Schedule.CampaignTask, ReleaseDigests.taskBinding task =
    ReleaseDigests.taskBinding task' → task.taskReleaseDigest = task'.taskReleaseDigest

lemma taskBindings_ok (hbinding : BindingsDistinct) (header : ReleaseHeader) :
    ∃ bindings, CampaignEvidence.normalizeTaskBindings (header.tasks.map fun task =>
        ⟨task.taskReleaseDigest, ReleaseDigests.taskBinding task⟩) = .ok bindings ∧
      bindings.length = header.tasks.length := by
  obtain ⟨_, _, hbuilt⟩ := header.built
  have hreleases := hbuilt.admitted.releases_nodup
  have hdigests : (header.tasks.map ReleaseDigests.taskBinding).Nodup := by
    rw [List.nodup_map_iff_inj_on (List.Nodup.of_map _ hreleases)]
    intro task htask task' htask' hsame
    exact List.inj_on_of_nodup_map hreleases htask htask' (hbinding task task' hsame)
  refine ⟨sortedBy CampaignTaskBindingEvidence.taskReleaseDigest (header.tasks.map fun task =>
    ⟨task.taskReleaseDigest, ReleaseDigests.taskBinding task⟩), ?_, ?_⟩
  · simp only [CampaignEvidence.normalizeTaskBindings, bind_eq_ok, raiseIf_eq_ok, exists_const,
      pure_eq_ok, List.map_eq_nil_iff, List.map_map, Function.comp_def,
      header.tasks_ne_nil, hreleases, hdigests, not_true_eq_false, or_self, not_false_eq_true,
      true_and]
  · rw [(sortedBy_perm _ _).length_eq, List.length_map]

/-- The summary passes its validators exactly when it has a route for every canary source. -/
lemma exists_validate_iff (hbinding : BindingsDistinct) (hfacts : ReportFacts record report)
    (hcanaries : (canaryDigests record.header.modelSet).Nodup) {discoveryDigest : Digest} :
    (∃ evidence, (summary record report discoveryDigest
        (canaryDigests record.header.modelSet)).validate = .ok evidence) ↔
      record.header.SelectsEveryRoute := by
  have hdistinct := record.header.distinct
  rw [record.header.selectsEveryRoute_iff]
  constructor
  · rintro ⟨evidence, h⟩
    obtain ⟨-, -, -, -, -, hlength⟩ := validate_fields h
    rwa [summary, canaryDigests, List.length_map] at hlength
  · intro hlength
    obtain ⟨bindings, hbindings, hbindingsLength⟩ := taskBindings_ok hbinding record.header
    obtain ⟨hdisjoint, hcovers⟩ := categories_ok record.header
    have htotal := record.header.trials_length
    have hpos := record.header.trials_pos
    rw [← hfacts.length] at htotal hpos
    have hcategories : ((record.header.modelSet.routes.flatMap
        fun route => route.categories).dedup).Nodup := List.nodup_dedup _
    have hnormal : ∀ {xs : List String} {message : String}, xs.Nodup →
        normalizeUnique message xs = .ok (sortedStrings xs) :=
      fun hnodup => normalizeUnique_eq_ok.mpr ⟨hnodup, rfl⟩
    have hroutes : sortedStrings record.header.campaign.routeIds ≠ [] := by
      intro hnil
      apply hdistinct.routeIds_ne_nil
      rw [← List.length_eq_zero_iff, ← length_sortedStrings, hnil, List.length_nil]
    have hroutesNodup : (sortedStrings record.header.campaign.routeIds).Nodup :=
      (sortedStrings_perm _).nodup_iff.mpr hdistinct.routeIds
    have hcount : (canaryDigests record.header.modelSet).length =
        record.header.campaign.routeIds.length := by
      rw [canaryDigests, List.length_map, hlength]
    have hpositive : ¬ report.trials.length < report.trials.countP hasPositiveUsage :=
      not_lt.mpr List.countP_le_length
    simp only [CampaignEvidence.validate, summary, hnormal hdistinct.routeIds, hnormal hcanaries,
      hnormal hdistinct.reasoningEfforts, hnormal hdistinct.pairedTrialSeeds, hbindings,
      ok_bind, hcategories, record.header.routeSet.uncovered_nodup,
      not_true_eq_false, not_false_eq_true, true_and, bind_eq_ok, pure_eq_ok,
      CampaignEvidence.validateSummary, raiseIf_eq_ok, exists_const, evidenceCounts,
      List.length_map, length_sortedStrings, hbindingsLength, hcount, ne_eq]
    refine ⟨_, ⟨hpos, ?_, ?_, ?_, hpositive, ?_, ?_⟩, rfl⟩
    · exact not_or.mpr ⟨hroutes, not_not.mpr hroutesNodup⟩
    · exact not_not.mpr htotal
    · exact not_or.mpr ⟨fun h => h.elim fun category h => hdisjoint category h.1 h.2,
        not_not.mpr hcovers⟩
    · rintro ⟨hviolation, hzero⟩
      exact counts_failed_of_violation hfacts hviolation hzero
    · rintro ⟨hpassed, hshort⟩
      obtain ⟨husage, hunknown⟩ := usage_of_passed hfacts hpassed
      rcases hshort with hne | hne
      · exact hne husage
      · exact hne hunknown

/-! ### The report of a record -/

omit [ReleaseDigests]

variable [CampaignCanonical]

lemma reportFacts (h : record.report = .ok report) : ReportFacts record report := by
  obtain ⟨state, resources, hp⟩ := projected_of_report h
  have hviolation := hp.reportsOf.violation_eq hp.replayed
  have hlength := (mapM_eq_ok_iff.mp hp.reports).length_eq
  have hbuilt := hp.built
  simp only [buildCampaignReport, bind_eq_ok, pure_eq_ok] at hbuilt
  obtain ⟨_, -, _, -, _, -, _, -, _, -, _, -, _, -, accounting, haccounting, _, -, _, -, _, -,
    heq⟩ := hbuilt
  simp only [tokenAccounting, raiseIf_bind_eq_ok, pure_eq_ok] at haccounting
  obtain ⟨-, rfl⟩ := haccounting
  constructor
  · rw [← heq]
    exact record.header.ledger_campaign
  · rw [← hlength, record.header.ledger_trials, List.length_map]
  · rw [← hviolation, ← heq]
  · rw [← heq]

end Reports

end EdaGym.Release
