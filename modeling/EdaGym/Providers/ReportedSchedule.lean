import EdaGym.Providers.ReportOrder

/-!
# From a validated campaign to its report

The trials that a validated campaign schedules are the trials that its report counts.
-/

namespace EdaGym.Schedule

section Reported

variable [Canonical] [CampaignCanonical] [ScheduleDigests] [ScheduleCanonical]
  {campaign : CampaignSpec} {modelSet : ModelSetManifest} {config : ResolvedProviderConfig}
  {tasks ordered : List CampaignTask} {schedule : CampaignSchedule} {routes : List ModelRoute}
  {events : List CampaignEvent} {state : CampaignProjection}

/-- When every trial of a validated campaign has ended with JSON-safe counters and what they spent
adds up, there is a faithful report, and it has one trial for each seed, task, route and effort of
the campaign. -/
theorem campaign_reported (hcampaign : Accepted CampaignSpec.validate campaign)
    (htasks : ∀ task ∈ tasks, Accepted CampaignTask.validate task)
    (h : Built campaign modelSet tasks schedule ordered routes)
    (hconfig : MatchingConfig campaign modelSet tasks config) {header : ProductHeader}
    (hheader : productHeader hcampaign htasks h hconfig = header)
    (hreplay : replayCampaign header.toCampaignHeader events = .ok state)
    (hempty : state.reservations.isEmpty = true)
    (hended : ∀ trial ∈ header.schedule.trials, state.unfinished trial = false)
    (hsafe : state.committed.JsonSafe) (hspend : SpendFits (state.spends header.schedule.trials))
    (recordDigest : Digest) :
    ∃ report, projectCampaignReport header.toReportHeader recordDigest events = .ok report ∧
      FaithfulReport header events report ∧
      report.trials.map (fun report => report.trial.cell) =
        campaign.pairedTrialSeeds ×ˢ schedule.orderedTaskReleaseDigests ×ˢ campaign.routeIds ×ˢ
          campaign.reasoningEfforts := by
  obtain ⟨report, hreport, -⟩ := (hasReport_iff hreplay hempty hended recordDigest).mpr
    ⟨hsafe, hspend⟩
  obtain ⟨_, _, hprojected⟩ := projected_of_report hreport
  have hfaithful := faithful_of_projected hprojected
  refine ⟨report, hreport, hfaithful, ?_⟩
  have hproduct := header.product
  rw [← hfaithful.scheduled, List.map_map] at hproduct
  subst hheader
  exact hproduct

end Reported

section Breadth

local instance breadthCanonical : Canonical := plainCanonical
local instance breadthCampaignCanonical : CampaignCanonical := plainCampaignCanonical
local instance breadthScheduleCanonical : ScheduleCanonical := plainScheduleCanonical
local instance breadthDigests : ScheduleDigests := twoTaskDigests

lemma breadthCampaign_accepted : Accepted CampaignSpec.validate breadthCampaign :=
  ⟨breadthCampaign, by decide +kernel⟩

lemma breadthTasks_accepted : ∀ task ∈ [breadthTask "r1", breadthTask "r2"],
    Accepted CampaignTask.validate task := by
  intro task htask
  refine ⟨task, ?_⟩
  revert task
  decide +kernel

lemma breadthSchedule_built : Built breadthCampaign breadthModelSet
    [breadthTask "r1", breadthTask "r2"] breadthSchedule [breadthTask "r1", breadthTask "r2"]
      breadthModelSet.routes where
  admitted := checkTasks_eq_ok.mp (by decide +kernel)
  routes_eq := by decide +kernel
  ordered_eq := by decide +kernel
  checked := by decide +kernel
  length_le := by decide +kernel
  schedule_eq := rfl
  schedule_checked := by decide +kernel

lemma breadthConfig_matching : MatchingConfig breadthCampaign breadthModelSet
    [breadthTask "r1", breadthTask "r2"] breadthConfig :=
  ⟨by decide +kernel, by decide +kernel⟩

def breadthReport : ProductHeader :=
  productHeader breadthCampaign_accepted breadthTasks_accepted
    breadthSchedule_built breadthConfig_matching

/-- The run of the first trial. -/
def breadthRun : RunBinding where
  purpose := .campaignTrial
  task := { gateHeader.binding.task with releaseDigest := "r1" }
  environment := { gateHeader.binding.environment with environmentSpecDigest := "e" }
  session := {
    sessionSpecDigest := "d-ses", actors := [.harness "h" "sha256:harness" "scaffold" "m"]
    initialWriter := "h", handoffEnabled := false, feedbackPolicyDigest := "feedback"
    budgetDigest := "d-bud" }
  evaluators := []
  measurementSchemaDigest := "schema:[]"
  trialKey := "trial_s/r1/route/high"
  campaign := some {
    campaignDigest := "sha256:breadth", scheduleDigest := breadthReport.schedule.digest
    scheduledTrialDigest := "sha256:trial_s/r1/route/high", pairedSeed := "s", repetitionIndex := 0
    routeId := "route", reasoningEffort := "high", serviceTier := "default" }
  purpose_iff := by decide
  evaluators_sorted := by decide

lemma breadthRun_eq : ∀ binding ∈ some breadthRun,
    some "run:trial_s/r1/route/high" = some (Canonical.runBinding binding) := by
  intro binding hbinding
  rw [← Option.mem_some_iff.mp hbinding]
  decide

lemma quarter_spend : (0 : CanonicalDecimal) ≤ 1 / 4 := by norm_num

def breadthClaim : RequestTokenClaim where
  inputTokens := 96
  outputTokens := 48

def breadthSecurity : ProviderSecurityBinding where
  canaryReceiptDigest := "receipt"
  runtimeSurfaceManifestDigest := "surface"
  budgetBindingDigest := CampaignCanonical.budgetProjection
    breadthReport.campaign breadthReport.schedule

lemma completed_unretried :
    AttemptDisposition.completed = .retryableFailure ↔ (none : Option RetryCondition).isSome := by
  decide

/-- The request of the run, answered for less than it reserved. -/
def breadthAttempt : ProviderAttemptRecord where
  requestKey := "q0"
  attemptNumber := 1
  reservedTokenClaim := breadthClaim
  disposition := .completed
  requestedModel := "m"
  requestedServiceTier := "default"
  securityBinding := breadthSecurity
  providerReportedModel := some "m-1"
  providerResponseStatus := some .completed
  providerUsage := some { inputTokens := 36, outputTokens := 18, totalTokens := 54 }
  chargedResources := chargedResources breadthClaim.resources
    (some { inputTokens := 36, outputTokens := 18, totalTokens := 54 })
  retryable_iff := completed_unretried
  charged_provider := ⟨rfl, rfl, rfl, rfl, rfl, rfl, rfl⟩
  charged_usage := by
    intro usage husage
    cases husage
    exact ⟨rfl, rfl⟩

/-- The first trial sends a request and runs to its end, at a known cost; the others fail. -/
def breadthEvents : List CampaignEvent :=
  numberEvents ([
    .reservationCreated {
      reservationId := "r", trialId := "trial_s/r1/route/high", claim := breadthClaim.resources
      provider := some {
        requestKey := "q0", attemptNumber := 1, observedInputTokenFloor := 0
        securityBinding := breadthSecurity } },
    .reservationDispatched { reservationId := "r" },
    .providerAttemptSettled { reservationId := "r", attempt := breadthAttempt },
    .trialOutcomeRecorded {
      trialId := "trial_s/r1/route/high"
      outcome := {
        disposition := .completedRun
        terminalReason := .verifierSuccess
        runId := some "run:trial_s/r1/route/high"
        runBinding := some breadthRun
        providerRequests := [{
          requestId := "q0", actorId := "h", requestArtifactId := "q0.request"
          securityEvidenceArtifactId := "canary", providerProfileDigest := "sha256:profile"
          providerConfigDigest := "sha256:config", requestedModel := "m"
          requestedServiceTier := "default", observedInputTokenFloor := 0
          securityBinding := breadthSecurity, reservedInputTokens := 96
          reservedOutputTokens := 48, providerReportedModel := some "m-1"
          status := some .completed
          usage := some { inputTokens := 36, outputTokens := 18, totalTokens := 54 } }]
        providerSpend := .known "USD" (1 / 4) quarter_spend
        run_eq := breadthRun_eq } }] ++
    breadthSchedule.trials.tail.map fun trial => failedOutcome trial.trialId)

lemma quarter_fits (reasons : List UnknownSpendReason) :
    SpendFits (.known "USD" (1 / 4) quarter_spend :: reasons.map .unknown) := by
  have hunknown : (reasons.map SpendObservation.unknown).filterMap SpendObservation.knownAmount =
      [] := by
    rw [List.filterMap_map, List.filterMap_eq_nil_iff]
    exact fun _ _ => rfl
  intro currency
  rw [List.filterMap_cons_some (f := SpendObservation.knownAmount) rfl, hunknown, List.filter_cons]
  split_ifs
  · exact ⟨1 / 4,
      (by decide +kernel : foldSteps decimalAdd 0 [⟨1 / 4, quarter_spend⟩] = .ok (1 / 4))⟩
  · exact ⟨0, rfl⟩

theorem breadth_reported : ∃ report,
    projectCampaignReport breadthReport.toReportHeader "record" breadthEvents = .ok report ∧
      report.trials.map (fun report => report.trial.cell) =
        [("s", "r1", "route", "high"), ("s", "r1", "route", "low"),
          ("s", "r2", "route", "high"), ("s", "r2", "route", "low")] ∧
      report.overallSuccess.numerator = 1 ∧ report.resources.inputTokens = 36 ∧
      report.spend.knownTotals = [{ currency := "USD", amount := ⟨1 / 4, quarter_spend⟩ }] := by
  have hends : (replayCampaign breadthReport.toCampaignHeader breadthEvents).map
      (fun state => (state.reservations.isEmpty,
        breadthReport.schedule.trials.all fun trial => !state.unfinished trial,
        decide (∀ item, state.committed.get item ≤ (JCS_INTEGER_MAX : Int)),
        decide (state.spends breadthReport.schedule.trials =
          .known "USD" (1 / 4) quarter_spend ::
            (List.replicate 3 .providerReportingUnavailable).map .unknown))) =
      .ok (true, true, true, true) := by
    decide +kernel
  obtain ⟨state, hreplay, hends⟩ := Except.map_eq_ok_iff.mp hends
  simp only [Prod.mk.injEq, List.all_eq_true, Bool.not_eq_true', decide_eq_true_eq] at hends
  obtain ⟨hempty, hended, hsafe, hspend⟩ := hends
  obtain ⟨report, hreport, -, hcells⟩ := campaign_reported _ _ _ _ rfl hreplay hempty hended hsafe
    (hspend ▸ quarter_fits _) "record"
  have hvalues : (projectCampaignReport breadthReport.toReportHeader "record" breadthEvents).map
      (fun report => (report.overallSuccess.numerator, report.resources.inputTokens,
        report.spend.knownTotals)) =
      .ok (1, 36, [{ currency := "USD", amount := ⟨1 / 4, quarter_spend⟩ }]) := by
    decide +kernel
  rw [show projectCampaignReport breadthReport.toReportHeader "record" breadthEvents = .ok report
    from hreport] at hvalues
  simp only [Except.map, Except.ok.injEq, Prod.mk.injEq] at hvalues
  exact ⟨report, hreport, hcells, hvalues⟩

end Breadth

end EdaGym.Schedule
