import EdaGym.Reporting.EvidenceTotality

/-!
# Campaign evidence from its sources

The canary evidence, the discovery snapshots and the reports of a list of campaigns are looked up by
digest, so the evidence is that of each record on its own, and the order of the sources does not
matter.
-/

namespace EdaGym.Release

/-! ### Lookups -/

/-- Reordering the inputs of a checked map reorders its outputs. -/
lemma mapM_ok_of_perm {ε α β : Type} {f : α → Except ε β} {xs xs' : List α} {ys : List β}
    (hperm : xs'.Perm xs) (h : xs.mapM f = .ok ys) :
    ∃ ys', xs'.mapM f = .ok ys' ∧ ys'.Perm ys := by
  obtain ⟨ys', hforall, hys⟩ := List.perm_comp_forall₂ hperm (mapM_eq_ok_iff.mp h)
  exact ⟨ys', mapM_eq_ok_iff.mpr hforall, hys⟩

lemma find?_eq_some_of_nodup {α : Type} {key : α → String} {xs : List α} {x : α}
    (hnodup : (xs.map key).Nodup) (hx : x ∈ xs) {k : String} (hk : key x = k) :
    xs.find? (fun y => key y = k) = some x := by
  obtain ⟨y, hy, hfind, hkey⟩ := exists_find?_eq_some (p := fun y : α => key y = k) hx hk
  rw [hfind, List.inj_on_of_nodup_map hnodup hy hx (hkey.trans hk.symm)]

section Sources

variable [Canonical] [ScheduleCanonical] [Schedule.ScheduleDigests] [CampaignCanonical]

/-- The snapshot the routes of the model set were selected from. -/
structure ModelDiscoverySnapshot.Matches (discovery : ModelDiscoverySnapshot)
    (provider : Schedule.ResolvedProviderConfig) (modelSet : Schedule.ModelSetManifest) :
    Prop where
  digest : discovery.digest = modelSet.discoveryDigest
  profile : discovery.providerProfileDigest = provider.profile.digest
  config : discovery.providerConfigDigest = provider.digest
  modelSet_config : discovery.providerConfigDigest = modelSet.providerConfigDigest
  label : discovery.selectedProviderLabel = provider.selectedProviderLabel
  routes : ∀ route ∈ modelSet.routes, route.requestedModel ∈ discovery.modelLabels
  exclusions : ∀ route ∈ modelSet.exclusions, route.requestedModel ∈ discovery.modelLabels

/-- Distinct finished campaigns with their projected reports, the canary evidence of every route of
their model sets and the matching discovery snapshots, and nothing else. -/
structure Sources (records : List CampaignRecord) (reports : List CampaignReport)
    (discoveries : List ModelDiscoverySnapshot) (canaries : List RouteCanaryEvidence) : Prop where
  campaigns_nodup : (records.map CampaignRecord.campaignDigest).Nodup
  projected : ∃ projected, records.mapM CampaignRecord.report = .ok projected ∧
    reports.Perm projected
  canaries_nodup : (canaries.map RouteCanaryEvidence.digest).Nodup
  canaries_match : ∀ record ∈ records, ∀ route ∈ record.header.modelSet.routes,
    ∃ canary ∈ canaries, canary.digest = route.qualification.canaryEvidenceDigest ∧
      canary.Qualifies route
  canaries_used : ∀ canary ∈ canaries, ∃ record ∈ records,
    canary.digest ∈ canaryDigests record.header.modelSet
  discoveries_nodup : (discoveries.map ModelDiscoverySnapshot.digest).Nodup
  discoveries_match : ∀ record ∈ records, ∃ discovery ∈ discoveries,
    discovery.Matches record.header.providerConfig record.header.modelSet
  discoveries_used : ∀ discovery ∈ discoveries, ∃ record ∈ records,
    discovery.digest = record.header.modelSet.discoveryDigest

variable {records records' : List CampaignRecord} {reports reports' : List CampaignReport}
  {discoveries discoveries' : List ModelDiscoverySnapshot}
  {canaries canaries' : List RouteCanaryEvidence} {record : CampaignRecord}

lemma Sources.perm (h : Sources records reports discoveries canaries)
    (hrecords : records'.Perm records) (hreports : reports'.Perm reports)
    (hdiscoveries : discoveries'.Perm discoveries) (hcanaries : canaries'.Perm canaries) :
    Sources records' reports' discoveries' canaries' where
  campaigns_nodup := (hrecords.map _).nodup_iff.mpr h.campaigns_nodup
  projected := by
    obtain ⟨projected, hprojected, hperm⟩ := h.projected
    obtain ⟨projected', hprojected', hperm'⟩ := mapM_ok_of_perm hrecords hprojected
    exact ⟨projected', hprojected', hreports.trans (hperm.trans hperm'.symm)⟩
  canaries_nodup := (hcanaries.map _).nodup_iff.mpr h.canaries_nodup
  canaries_match := by
    intro record hrecord route hroute
    obtain ⟨canary, hcanary, hmatch⟩ :=
      h.canaries_match record (hrecords.subset hrecord) route hroute
    exact ⟨canary, hcanaries.symm.subset hcanary, hmatch⟩
  canaries_used := by
    intro canary hcanary
    obtain ⟨record, hrecord, hused⟩ := h.canaries_used canary (hcanaries.subset hcanary)
    exact ⟨record, hrecords.symm.subset hrecord, hused⟩
  discoveries_nodup := (hdiscoveries.map _).nodup_iff.mpr h.discoveries_nodup
  discoveries_match := by
    intro record hrecord
    obtain ⟨discovery, hdiscovery, hmatch⟩ :=
      h.discoveries_match record (hrecords.subset hrecord)
    exact ⟨discovery, hdiscoveries.symm.subset hdiscovery, hmatch⟩
  discoveries_used := by
    intro discovery hdiscovery
    obtain ⟨record, hrecord, hused⟩ :=
      h.discoveries_used discovery (hdiscoveries.subset hdiscovery)
    exact ⟨record, hrecords.symm.subset hrecord, hused⟩

lemma Sources.reports_campaigns (h : Sources records reports discoveries canaries) :
    (reports.map CampaignReport.campaignDigest).Perm
      (records.map CampaignRecord.campaignDigest) := by
  obtain ⟨projected, hprojected, hperm⟩ := h.projected
  have hsame : projected.map CampaignReport.campaignDigest =
      records.map CampaignRecord.campaignDigest := by
    have hforall := mapM_eq_ok_iff.mp hprojected
    clear hprojected hperm h
    induction hforall with
    | nil => rfl
    | cons hreport _ ih => rw [List.map_cons, List.map_cons, ih, (reportFacts hreport).campaign]
  rw [← hsame]
  exact hperm.map _

lemma Sources.report (h : Sources records reports discoveries canaries)
    (hrecord : record ∈ records) : ∃ report ∈ reports, record.report = .ok report ∧
      reports.find? (fun report => report.campaignDigest = record.campaignDigest) =
        some report := by
  obtain ⟨projected, hprojected, hperm⟩ := h.projected
  obtain ⟨report, hmem, hreport⟩ := mapM_ok_of_mem hprojected hrecord
  have hin := hperm.symm.subset hmem
  have hnodup := h.reports_campaigns.nodup_iff.mpr h.campaigns_nodup
  exact ⟨report, hin, hreport,
    find?_eq_some_of_nodup hnodup hin (reportFacts hreport).campaign⟩

/-- Two routes with one canary source would have asked for the same model. -/
lemma Sources.canaryDigests_nodup (h : Sources records reports discoveries canaries)
    (hrecord : record ∈ records) : (canaryDigests record.header.modelSet).Nodup := by
  have hrequested := record.header.routeSet.requested_nodup
  rw [canaryDigests, List.nodup_map_iff_inj_on (List.Nodup.of_map _ hrequested)]
  intro route hroute route' hroute' hsame
  obtain ⟨canary, hcanary, hdigest, hqualifies⟩ := h.canaries_match record hrecord route hroute
  obtain ⟨canary', hcanary', hdigest', hqualifies'⟩ :=
    h.canaries_match record hrecord route' hroute'
  have heq := List.inj_on_of_nodup_map h.canaries_nodup hcanary hcanary'
    (hdigest.trans (hsame.trans hdigest'.symm))
  subst heq
  exact List.inj_on_of_nodup_map hrequested hroute hroute'
    (hqualifies.1.symm.trans hqualifies'.1)

lemma Sources.routeCanarySources_eq (h : Sources records reports discoveries canaries)
    (hrecord : record ∈ records) : routeCanarySources record.header.modelSet canaries =
      .ok (canaryDigests record.header.modelSet) := by
  have hsource : ∀ route ∈ record.header.modelSet.routes, routeCanarySource canaries route =
      .ok route.qualification.canaryEvidenceDigest := by
    intro route hroute
    obtain ⟨canary, hcanary, hdigest, hqualifies⟩ := h.canaries_match record hrecord route hroute
    simp only [routeCanarySource, find?_eq_some_of_nodup h.canaries_nodup hcanary hdigest,
      hqualifies, orRaise_bind_eq_ok, raiseIf_bind_eq_ok, Option.some.injEq, exists_eq_left',
      not_true_eq_false, not_false_eq_true, true_and, pure_eq_ok]
  rw [routeCanarySources, mapM_eq_ok_iff, canaryDigests, List.forall₂_map_right_iff,
    List.forall₂_same]
  exact hsource

lemma Sources.modelDiscoverySource_eq (h : Sources records reports discoveries canaries)
    (hrecord : record ∈ records) : modelDiscoverySource record.header.providerConfig
      record.header.modelSet discoveries = .ok record.header.modelSet.discoveryDigest := by
  obtain ⟨discovery, hdiscovery, hmatch⟩ := h.discoveries_match record hrecord
  have hselected : ∀ model ∈ record.header.modelSet.routes.map (fun route =>
      route.requestedModel) ++ record.header.modelSet.exclusions.map
        Schedule.ExcludedRoute.requestedModel, model ∈ discovery.modelLabels := by
    intro model hmodel
    rcases List.mem_append.mp hmodel with hmodel | hmodel
    · obtain ⟨route, hroute, rfl⟩ := List.mem_map.mp hmodel
      exact hmatch.routes route hroute
    · obtain ⟨route, hroute, rfl⟩ := List.mem_map.mp hmodel
      exact hmatch.exclusions route hroute
  simp only [modelDiscoverySource, find?_eq_some_of_nodup h.discoveries_nodup hdiscovery
    hmatch.digest, orRaise_bind_eq_ok, raiseIf_bind_eq_ok, Option.some.injEq, exists_eq_left',
    pure_eq_ok]
  refine ⟨?_, hmatch.digest⟩
  rintro (hne | hne | hne | hne | hne)
  · exact hne hmatch.profile
  · exact hne hmatch.config
  · exact hne hmatch.modelSet_config
  · exact hne hmatch.label
  · exact hne hselected

/-! ### The evidence of one record -/

variable [ReleaseDigests]

/-- The evidence of a record, from the record alone. -/
def CampaignRecord.evidence (record : CampaignRecord) : Except CampaignError CampaignEvidence := do
  let report ← record.report
  (summary record report record.header.modelSet.discoveryDigest
    (canaryDigests record.header.modelSet)).validate

lemma Sources.recordEvidence_eq (h : Sources records reports discoveries canaries)
    (hrecord : record ∈ records) :
    recordEvidence reports discoveries canaries record = record.evidence := by
  obtain ⟨report, -, hreport, hfind⟩ := h.report hrecord
  simp only [recordEvidence, CampaignRecord.evidence, hfind, hreport, orRaise, ok_bind, raiseIf,
    ne_eq, not_true_eq_false, if_false, h.modelDiscoverySource_eq hrecord,
    h.routeCanarySources_eq hrecord]

/-- The sources are consumed exactly, so only the records decide. -/
lemma Sources.campaignEvidence_eq_ok (h : Sources records reports discoveries canaries)
    {summaries : List CampaignEvidence} :
    campaignEvidence records reports discoveries canaries = .ok summaries ↔
      records.mapM CampaignRecord.evidence = .ok summaries := by
  have hcampaigns := h.reports_campaigns
  have hnodup := hcampaigns.nodup_iff.mpr h.campaigns_nodup
  have hlength : records.length = reports.length := by
    simpa only [List.length_map] using hcampaigns.length_eq.symm
  have hsame : records.mapM (recordEvidence reports discoveries canaries) =
      records.mapM CampaignRecord.evidence :=
    mapM_congr fun record hrecord => h.recordEvidence_eq hrecord
  simp only [campaignEvidence, hsame, bind_eq_ok, raiseIf_eq_ok, exists_const, pure_eq_ok, not_or,
    not_not, ne_eq]
  constructor
  · rintro ⟨-, -, -, -, summaries', hsummaries, -, -, -, rfl⟩
    exact hsummaries
  · intro hsummaries
    have hfields : ∀ evidence ∈ summaries, ∃ record ∈ records,
        evidence.routeCanaryEvidenceDigests =
            sortedStrings (canaryDigests record.header.modelSet) ∧
          evidence.modelDiscoveryDigest = record.header.modelSet.discoveryDigest := by
      intro evidence hevidence
      obtain ⟨record, hrecord, hof⟩ := exists_of_mem_mapM hsummaries hevidence
      simp only [CampaignRecord.evidence, bind_eq_ok] at hof
      obtain ⟨report, -, hvalid⟩ := hof
      obtain ⟨hcanary, hdiscovery, -⟩ := validate_fields hvalid
      exact ⟨record, hrecord, hcanary, hdiscovery⟩
    have hback : ∀ record ∈ records, ∃ evidence ∈ summaries,
        evidence.routeCanaryEvidenceDigests =
            sortedStrings (canaryDigests record.header.modelSet) ∧
          evidence.modelDiscoveryDigest = record.header.modelSet.discoveryDigest := by
      intro record hrecord
      obtain ⟨evidence, hevidence, hof⟩ := mapM_ok_of_mem hsummaries hrecord
      simp only [CampaignRecord.evidence, bind_eq_ok] at hof
      obtain ⟨report, -, hvalid⟩ := hof
      obtain ⟨hcanary, hdiscovery, -⟩ := validate_fields hvalid
      exact ⟨evidence, hevidence, hcanary, hdiscovery⟩
    refine ⟨⟨hnodup, hlength⟩, h.canaries_nodup, h.discoveries_nodup, h.campaigns_nodup, summaries,
      hsummaries, ?_, ?_, ?_, rfl⟩
    · exact ⟨fun _ hx => hcampaigns.subset hx, fun _ hx => hcampaigns.symm.subset hx⟩
    · constructor
      · intro digest hdigest
        obtain ⟨canary, hcanary, rfl⟩ := List.mem_map.mp hdigest
        obtain ⟨record, hrecord, hused⟩ := h.canaries_used canary hcanary
        obtain ⟨evidence, hevidence, heq, -⟩ := hback record hrecord
        exact List.mem_flatMap.mpr ⟨evidence, hevidence, heq ▸ mem_sortedStrings.mpr hused⟩
      · intro digest hdigest
        obtain ⟨evidence, hevidence, hmem⟩ := List.mem_flatMap.mp hdigest
        obtain ⟨record, hrecord, heq, -⟩ := hfields evidence hevidence
        rw [heq, mem_sortedStrings] at hmem
        obtain ⟨route, hroute, rfl⟩ := List.mem_map.mp hmem
        obtain ⟨canary, hcanary, hsame, -⟩ := h.canaries_match record hrecord route hroute
        exact List.mem_map.mpr ⟨canary, hcanary, hsame⟩
    · constructor
      · intro digest hdigest
        obtain ⟨discovery, hdiscovery, rfl⟩ := List.mem_map.mp hdigest
        obtain ⟨record, hrecord, hused⟩ := h.discoveries_used discovery hdiscovery
        obtain ⟨evidence, hevidence, -, heq⟩ := hback record hrecord
        exact List.mem_map.mpr ⟨evidence, hevidence, heq.trans hused.symm⟩
      · intro digest hdigest
        obtain ⟨evidence, hevidence, rfl⟩ := List.mem_map.mp hdigest
        obtain ⟨record, hrecord, -, heq⟩ := hfields evidence hevidence
        obtain ⟨discovery, hdiscovery, hmatch⟩ := h.discoveries_match record hrecord
        exact List.mem_map.mpr ⟨discovery, hdiscovery, hmatch.digest.trans heq.symm⟩

/-! ### The main result -/

/-- Finished campaigns enter the release report exactly when each runs on every route of its model
set. Their evidence then passes exactly when every trial does, shows every budget violation as a
failed trial, and does not depend on the order of the sources. -/
theorem campaign_evidence_iff (hbinding : BindingsDistinct)
    (h : Sources records reports discoveries canaries) :
    ((∃ summaries, campaignEvidence records reports discoveries canaries = .ok summaries) ↔
      ∀ record ∈ records, record.header.SelectsEveryRoute) ∧
    ∀ summaries, campaignEvidence records reports discoveries canaries = .ok summaries →
      List.Forall₂ (fun record evidence => ∃ report ∈ reports, record.report = .ok report ∧
          (evidence.status = .passed ↔ ∀ trial ∈ report.trials, TrialPasses trial) ∧
          (evidence.budgetViolation = true →
            ∃ trial ∈ report.trials, trialStatus trial = .failed)) records summaries ∧
        ∀ records' reports' discoveries' canaries', records'.Perm records →
          reports'.Perm reports → discoveries'.Perm discoveries → canaries'.Perm canaries →
          ∃ summaries', campaignEvidence records' reports' discoveries' canaries' =
            .ok summaries' ∧ summaries'.Perm summaries := by
  simp only [h.campaignEvidence_eq_ok]
  refine ⟨⟨?_, ?_⟩, ?_⟩
  · rintro ⟨summaries, hsummaries⟩ record hrecord
    obtain ⟨evidence, -, hof⟩ := mapM_ok_of_mem hsummaries hrecord
    simp only [CampaignRecord.evidence, bind_eq_ok] at hof
    obtain ⟨report, hreport, hvalid⟩ := hof
    exact (exists_validate_iff hbinding (reportFacts hreport)
      (h.canaryDigests_nodup hrecord)).mp ⟨evidence, hvalid⟩
  · intro hselects
    refine exists_mapM_eq_ok ?_
    intro record hrecord
    obtain ⟨report, -, hreport, -⟩ := h.report hrecord
    obtain ⟨evidence, hvalid⟩ := (exists_validate_iff hbinding (reportFacts hreport)
      (h.canaryDigests_nodup hrecord)).mpr (hselects record hrecord)
    refine ⟨evidence, ?_⟩
    rw [CampaignRecord.evidence, hreport, ok_bind]
    exact hvalid
  · intro summaries hsummaries
    constructor
    · have hforall := (List.forall₂_and_left _ _).mpr
        ⟨fun record hrecord => hrecord, mapM_eq_ok_iff.mp hsummaries⟩
      refine hforall.imp ?_
      rintro record evidence ⟨hrecord, hof⟩
      obtain ⟨report, hmem, hreport, -⟩ := h.report hrecord
      rw [CampaignRecord.evidence, hreport, ok_bind] at hof
      obtain ⟨-, -, hstatus, hviolation, hcounts, -⟩ := validate_fields hof
      refine ⟨report, hmem, hreport, ?_, ?_⟩
      · rw [hstatus]
        exact evidenceStatus_passed_iff
      · intro hraised
        have hany : report.trials.any TrialReport.accountingViolation = true := by
          rw [← (reportFacts hreport).violation, ← hraised, hviolation]
          rfl
        obtain ⟨trial, htrial, hviolates⟩ := List.any_eq_true.mp hany
        exact ⟨trial, htrial, trialStatus_of_violation hviolates⟩
    · intro records' reports' discoveries' canaries' hrecords hreports hdiscoveries hcanaries
      obtain ⟨summaries', hsummaries', hperm⟩ := mapM_ok_of_perm hrecords hsummaries
      have hsources := h.perm hrecords hreports hdiscoveries hcanaries
      exact ⟨summaries', hsources.campaignEvidence_eq_ok.mpr hsummaries', hperm⟩

end Sources

/-! ### A campaign that leaves a route out -/

section SpareRoute

local instance : Canonical := plainCanonical
local instance : CampaignCanonical := plainCampaignCanonical
local instance : ScheduleCanonical := plainScheduleCanonical
local instance : Schedule.ScheduleDigests := Schedule.twoTaskDigests

@[reducible] def plainReleaseDigests : ReleaseDigests where
  header header := header.campaign.campaignId
  comparison _ := "d-comparison"
  controlledVariables _ := "d-controlled"
  taskBinding task := "binding:" ++ task.taskReleaseDigest
  report report := report.campaignDigest

local instance : ReleaseDigests := plainReleaseDigests

/-- One task on one route with one reasoning effort. -/
def soloCampaign : Schedule.CampaignSpec :=
  { Schedule.breadthCampaign with
    campaignId := "solo", taskReleaseDigests := ["r1"], reasoningEfforts := ["low"] }

def soloSchedule : Schedule.CampaignSchedule where
  campaignDigest := "sha256:solo"
  modelSetDigest := "sha256:models"
  orderedTaskReleaseDigests := ["r1"]
  trials := Schedule.numbered (Schedule.trialBindings soloCampaign [Schedule.breadthTask "r1"]
    Schedule.breadthModelSet.routes)

def soloReportTrials : List ReportTrial := soloSchedule.trials.map Schedule.ScheduledTrial.report

def soloLedger : ReportHeader where
  campaign := {
    feedbackPolicyDigest := "feedback"
    retryPolicy := oneTrialHeader.campaign.retryPolicy
    tokenLimits := twoRequestHeader.campaign.tokenLimits
    executionLimits := twoRequestHeader.campaign.executionLimits
    digest := "sha256:solo" }
  providerConfig := { profileDigest := "sha256:profile", digest := "sha256:config" }
  tasks := [{ taskReleaseDigest := "r1", evaluatorStageIds := ["compile"] }]
  schedule := {
    trials := soloReportTrials.map ReportTrial.toScheduledTrial
    digest := "sha256:solo/sha256:models/r1/" ++
      String.intercalate "/" (soloReportTrials.map fun trial => trial.digest)
    trials_ne_nil := by decide +kernel
    trials_nodup := by decide +kernel }
  scope := .expandedBreadth
  serviceTier := "default"
  repetitions := 1
  modelSetDigest := "sha256:models"
  routes := Schedule.breadthModelSet.routes.map Schedule.ModelRoute.toModelRoute
  reportTasks := [{ taskReleaseDigest := "r1", evaluatorStageIds := ["compile"],
                    taskFamily := "adder", role := .rtlGeneration }]
  orderedTaskReleaseDigests := ["r1"]
  reportTrials := soloReportTrials
  tasks_eq := by decide +kernel
  trials_eq := rfl
  schedule_valid := by decide +kernel
  schedule_digest := by decide +kernel
  task_mem := by decide +kernel
  route_mem := by decide +kernel
  profile_eq := by decide +kernel
  config_eq := by decide +kernel
  tier_eq := by decide +kernel

def soloHeader : ReleaseHeader where
  campaign := soloCampaign
  modelSet := Schedule.breadthModelSet
  providerConfig := Schedule.breadthConfig
  tasks := [Schedule.breadthTask "r1"]
  schedule := soloSchedule
  ledger := soloLedger
  campaign_accepted := ⟨soloCampaign, by decide +kernel⟩
  modelSet_accepted := ⟨Schedule.breadthModelSet, by decide +kernel⟩
  created := ⟨⟨soloCampaign, Schedule.breadthModelSet, Schedule.breadthConfig,
    [Schedule.breadthTask "r1"], soloSchedule⟩, by decide +kernel⟩
  ledger_campaign := by decide +kernel
  ledger_trials := rfl

def spareRoute : Schedule.ModelRoute where
  routeId := "spare"
  requestedModel := "n"
  providerReportedModel := "n-1"
  referenceKind := .snapshot
  categories := [.balanced]
  qualification := {
    reasoningControl := .supported
    requestedServiceTier := some "default"
    canaryToolSchemaDigest := "schema"
    canaryEvidenceDigest := "spare-evidence" }

def spareModelSet : Schedule.ModelSetManifest :=
  { Schedule.breadthModelSet with routes := Schedule.breadthModelSet.routes ++ [spareRoute] }

/-- The same campaign over a model set with a second route. -/
def spareHeader : ReleaseHeader where
  campaign := soloCampaign
  modelSet := spareModelSet
  providerConfig := Schedule.breadthConfig
  tasks := [Schedule.breadthTask "r1"]
  schedule := soloSchedule
  ledger := { soloLedger with
    routes := spareModelSet.routes.map Schedule.ModelRoute.toModelRoute
    route_mem := by decide +kernel }
  campaign_accepted := ⟨soloCampaign, by decide +kernel⟩
  modelSet_accepted := ⟨spareModelSet, by decide +kernel⟩
  created := ⟨⟨soloCampaign, spareModelSet, Schedule.breadthConfig,
    [Schedule.breadthTask "r1"], soloSchedule⟩, by decide +kernel⟩
  ledger_campaign := by decide +kernel
  ledger_trials := rfl

/-- The one trial fails before it runs, which finishes the campaign. -/
def finishedRecord (header : ReleaseHeader) : CampaignRecord where
  header := header
  events := numberEvents (soloReportTrials.map fun trial => failedOutcome trial.trialId)
  integrityDigest := "d-record"

def catalog : ModelDiscoverySnapshot where
  providerProfileDigest := "sha256:profile"
  providerConfigDigest := "sha256:config"
  selectedProviderLabel := "config"
  modelLabels := ["m", "n"]
  digest := "models"

def routeCanary : RouteCanaryEvidence where
  requestedModel := "m"
  providerReportedModel := "m-1"
  reasoningControl := .supported
  serviceTierRequested := some "default"
  toolSchemaDigest := "schema"
  observedInputTokenFloor := 0
  digest := "evidence"

def spareCanary : RouteCanaryEvidence :=
  { routeCanary with
    requestedModel := "n", providerReportedModel := "n-1", digest := "spare-evidence" }

lemma bindingsDistinct_plain : BindingsDistinct := by
  intro task task' hsame
  exact (String.append_right_inj _).mp hsame

lemma finishedRecord_sources {header : ReleaseHeader} {report : CampaignReport}
    {canaries : List RouteCanaryEvidence} (hreport : (finishedRecord header).report = .ok report)
    (hnodup : (canaries.map RouteCanaryEvidence.digest).Nodup)
    (hmatch : ∀ route ∈ header.modelSet.routes, ∃ canary ∈ canaries,
      canary.digest = route.qualification.canaryEvidenceDigest ∧ canary.Qualifies route)
    (hused : ∀ canary ∈ canaries, canary.digest ∈ canaryDigests header.modelSet)
    (hcatalog : catalog.Matches header.providerConfig header.modelSet) :
    Sources [finishedRecord header] [report] [catalog] canaries where
  campaigns_nodup := List.nodup_singleton _
  projected := ⟨[report], mapM_eq_ok_iff.mpr (.cons hreport .nil), List.Perm.refl _⟩
  canaries_nodup := hnodup
  canaries_match := List.forall_mem_singleton.mpr hmatch
  canaries_used canary hcanary := ⟨_, List.mem_cons_self, hused canary hcanary⟩
  discoveries_nodup := List.nodup_singleton _
  discoveries_match := List.forall_mem_singleton.mpr ⟨catalog, List.mem_cons_self, hcatalog⟩
  discoveries_used := List.forall_mem_singleton.mpr ⟨_, List.mem_cons_self, hcatalog.digest⟩

/-- A finished campaign over one of two routes, with all of its sources, is refused. -/
theorem spare_route_rejected : ∃ report,
    Sources [finishedRecord spareHeader] [report] [catalog] [routeCanary, spareCanary] ∧
      campaignEvidence [finishedRecord spareHeader] [report] [catalog]
          [routeCanary, spareCanary] =
        .error (.valueError "campaign evidence requires one canary source per model route") := by
  have hrefused : ((finishedRecord spareHeader).report >>= fun report =>
      campaignEvidence [finishedRecord spareHeader] [report] [catalog]
        [routeCanary, spareCanary]) =
      .error (.valueError "campaign evidence requires one canary source per model route") := by
    decide +kernel
  obtain ⟨report, hreport⟩ := Except.exists_of_isOk
    (show (finishedRecord spareHeader).report.isOk = true by decide +kernel)
  rw [hreport, ok_bind] at hrefused
  refine ⟨report, finishedRecord_sources hreport ?_ ?_ ?_ ?_, hrefused⟩
  · decide
  · decide
  · decide
  · exact ⟨by decide, by decide, by decide, by decide, by decide, by decide, by decide⟩

/-- On the only route of its model set the campaign enters the report. -/
theorem solo_campaign_reported : ∃ report, (finishedRecord soloHeader).report = .ok report ∧
    ∃ summaries, campaignEvidence [finishedRecord soloHeader] [report] [catalog] [routeCanary] =
      .ok summaries := by
  obtain ⟨report, hreport⟩ := Except.exists_of_isOk
    (show (finishedRecord soloHeader).report.isOk = true by decide +kernel)
  have hsources : Sources [finishedRecord soloHeader] [report] [catalog] [routeCanary] := by
    refine finishedRecord_sources hreport (by decide) (by decide) (by decide) ?_
    exact ⟨by decide, by decide, by decide, by decide, by decide, by decide, by decide⟩
  refine ⟨report, hreport, (campaign_evidence_iff bindingsDistinct_plain hsources).1.mpr ?_⟩
  refine List.forall_mem_singleton.mpr ?_
  unfold ReleaseHeader.SelectsEveryRoute
  decide

end SpareRoute

end EdaGym.Release
