import EdaGym.Lib.RoundingLaws
import EdaGym.Providers.CampaignClosing
import EdaGym.Providers.CampaignReport
import EdaGym.Providers.TrialLedgers

/-!
# A closed campaign has a report

Every total of a report is a sum over some of the trials, so it is bounded by what the whole
campaign has committed. A closed campaign has a report exactly when that total is JSON-safe and what
is known to have been spent adds up within the decimal context.
-/

namespace EdaGym

/-! ### Sums -/

lemma CampaignResources.ext_get {r s : CampaignResources}
    (h : ∀ item, r.get item = s.get item) : r = s := by
  obtain ⟨amounts, hr⟩ := r
  obtain ⟨amounts', hs⟩ := s
  obtain rfl : amounts = amounts' := ResourceVector.ext_get h
  rfl

variable {r : MutableResources}

lemma snapshot_eq_ok {resources : CampaignResources} :
    r.snapshot = .ok resources ↔ ∀ item, (resources.get item : Int) = r.get item := by
  unfold MutableResources.snapshot
  split_ifs with hsafe
  · rw [Except.ok.injEq]
    constructor
    · rintro rfl item
      rw [ResourceVector.get_ofFields]
      exact Int.toNat_of_nonneg (hsafe item).1
    · intro h
      apply CampaignResources.ext_get
      intro item
      rw [ResourceVector.get_ofFields, ← h item]
      exact Int.toNat_natCast _
  · constructor
    · intro h
      cases h
    · intro h
      refine absurd (fun item => ?_) hsafe
      rw [← h item]
      exact ⟨Int.natCast_nonneg _, Int.ofNat_le.mpr (resources.bounded item)⟩

lemma exists_snapshot (hnonneg : ∀ item, 0 ≤ r.get item)
    (hsafe : r.JsonSafe) : ∃ resources, r.snapshot = .ok resources := by
  unfold MutableResources.snapshot
  rw [dif_pos fun item => ⟨hnonneg item, hsafe item⟩]
  exact ⟨_, rfl⟩

lemma jsonSafe_of_snapshot {resources : CampaignResources}
    (h : r.snapshot = .ok resources) : r.JsonSafe := by
  intro item
  rw [← snapshot_eq_ok.mp h item]
  exact Int.ofNat_le.mpr (resources.bounded item)

/-- Parts that are bounded by their wholes have the smaller sum. -/
lemma sum_filterMap_le {α β : Type} {part : α → Option β} {g : β → Nat} {whole : α → Nat}
    (h : ∀ x, ∀ y ∈ part x, g y ≤ whole x) (xs : List α) :
    ((xs.filterMap part).map g).sum ≤ (xs.map whole).sum := by
  induction xs with
  | nil => simp
  | cons x xs ih =>
    rw [List.map_cons, List.sum_cons]
    cases hx : part x with
    | none =>
      rw [List.filterMap_cons_none hx]
      exact ih.trans (Nat.le_add_left _ _)
    | some y =>
      rw [List.filterMap_cons_some hx, List.map_cons, List.sum_cons]
      exact Nat.add_le_add (h x y hx) ih

/-- The tokens charged for a list of attempts. -/
def chargedInput (attempts : List ProviderAttemptRecord) : Nat :=
  (attempts.map fun attempt => attempt.chargedResources.inputTokens).sum

def chargedOutput (attempts : List ProviderAttemptRecord) : Nat :=
  (attempts.map fun attempt => attempt.chargedResources.outputTokens).sum

variable {attempts : List ProviderAttemptRecord}

/-- So have the counts that a usage may leave out. -/
lemma sum_reported_le {part : UsageCounters → Option Nat} {whole : ProviderAttemptRecord → Nat}
    (h : ∀ attempt, ∀ usage ∈ attempt.providerUsage, ∀ n ∈ part usage, n ≤ whole attempt) :
    ((attempts.filterMap ProviderAttemptRecord.providerUsage).filterMap part).sum ≤
      (attempts.map whole).sum := by
  rw [List.filterMap_filterMap]
  refine le_of_eq_of_le (congrArg List.sum (List.map_id _).symm) (sum_filterMap_le ?_ attempts)
  intro attempt n hn
  obtain ⟨usage, husage, hpart⟩ := Option.bind_eq_some_iff.mp hn
  exact h attempt usage husage n hpart

/-- Every token sum is bounded by what was charged. -/
lemma tokenSums_le {bound : Nat}
    (hinput : chargedInput attempts ≤ bound) (houtput : chargedOutput attempts ≤ bound) :
    ∀ total ∈ tokenSums attempts, total ≤ bound := by
  have hcached : ((attempts.filterMap ProviderAttemptRecord.providerUsage).filterMap
      UsageCounters.cachedInputTokens).sum ≤ chargedInput attempts :=
    sum_reported_le fun attempt usage husage n hn =>
      (usage.cached_le n hn).trans (attempt.charged_usage usage husage).1.ge
  have hreasoning : ((attempts.filterMap ProviderAttemptRecord.providerUsage).filterMap
      UsageCounters.reasoningTokens).sum ≤ chargedOutput attempts :=
    sum_reported_le fun attempt usage husage n hn =>
      (usage.reasoning_le n hn).trans (attempt.charged_usage usage husage).2.ge
  have hprovider : ((attempts.filterMap ProviderAttemptRecord.providerUsage).map
      UsageCounters.inputTokens).sum ≤ chargedInput attempts :=
    sum_filterMap_le (fun attempt usage husage => (attempt.charged_usage usage husage).1.ge)
      attempts
  have hprovider' : ((attempts.filterMap ProviderAttemptRecord.providerUsage).map
      UsageCounters.outputTokens).sum ≤ chargedOutput attempts :=
    sum_filterMap_le (fun attempt usage husage => (attempt.charged_usage usage husage).2.ge)
      attempts
  intro total htotal
  simp only [tokenSums, List.mem_cons, List.not_mem_nil, or_false] at htotal
  rcases htotal with rfl | rfl | rfl | rfl | rfl | rfl
  · exact hinput
  · exact houtput
  · exact hprovider.trans hinput
  · exact hprovider'.trans houtput
  · exact hcached.trans hinput
  · exact hreasoning.trans houtput

lemma exists_tokenAccounting
    (hinput : chargedInput attempts ≤ JCS_INTEGER_MAX)
    (houtput : chargedOutput attempts ≤ JCS_INTEGER_MAX) :
    ∃ accounting, tokenAccounting attempts = .ok accounting := by
  have hbound : ¬ ∃ total ∈ tokenSums attempts, JCS_INTEGER_MAX < total := by
    rintro ⟨total, htotal, hlt⟩
    exact absurd (tokenSums_le hinput houtput total htotal) (Nat.not_le.mpr hlt)
  simp only [tokenAccounting, bind_eq_ok, raiseIf_eq_ok, exists_const, pure_eq_ok]
  exact ⟨_, hbound, rfl⟩

/-- The counters a token accounting is checked against. -/
structure TokenAccounting.Counts (accounting : TokenAccounting)
    (attempts : List ProviderAttemptRecord) : Prop where
  requests : accounting.requestAttempts = attempts.length
  input : accounting.chargedInputTokens = chargedInput attempts
  output : accounting.chargedOutputTokens = chargedOutput attempts

lemma tokenAccounting_counts {accounting : TokenAccounting}
    (h : tokenAccounting attempts = .ok accounting) : accounting.Counts attempts := by
  simp only [tokenAccounting, bind_eq_ok, raiseIf_eq_ok, exists_const, pure_eq_ok] at h
  obtain ⟨-, rfl⟩ := h
  exact ⟨rfl, rfl, rfl⟩

/-! ### Trial reports -/

section Trials

variable [Canonical] {header : CampaignHeader} {state : CampaignProjection}
  {events : List CampaignEvent} {trial : ReportTrial} {report : TrialReport}
  {ledger : TrialProjection}

/-- The report repeats the ledger of its trial, and its tokens are those of its attempts. -/
structure TrialReport.Repeats (report : TrialReport) (state : CampaignProjection)
    (trial : ReportTrial) : Prop where
  trial_eq : report.trial = trial
  ledger : ∃ ledger, state.ledgers.get? trial.trialId = some ledger ∧
    (∀ item, (report.resources.get item : Int) = ledger.committed.get item) ∧
    report.providerAttempts = ledger.attempts ∧
    report.accountingViolation = ledger.accountingViolation
  input : chargedInput report.providerAttempts = report.resources.inputTokens
  output : chargedOutput report.providerAttempts = report.resources.outputTokens
  outcome : ∃ ledger, state.ledgers.get? trial.trialId = some ledger ∧
    ledger.outcome = some report.outcome

lemma repeats_of_trialReport (h : trialReport state trial = .ok report) :
    report.Repeats state trial := by
  simp only [trialReport, TrialReport.validateAttempts, bind_eq_ok, orRaise_eq_ok, raiseIf_eq_ok,
    exists_const, pure_eq_ok, not_or, not_not] at h
  obtain ⟨ledger, hledger, outcome, houtcome, resources, hresources, accounting, haccounting,
    ⟨-, -, -, derived, -, -, ⟨hinput, houtput⟩, -⟩, rfl⟩ := h
  have hcounts := tokenAccounting_counts haccounting
  exact ⟨rfl, ⟨ledger, hledger, snapshot_eq_ok.mp hresources, rfl, rfl⟩,
    (hinput.trans hcounts.input).symm, (houtput.trans hcounts.output).symm,
    ⟨ledger, hledger, houtcome⟩⟩

/-- A trial report has passed its own checks. -/
lemma validateAttempts_of_trialReport (h : trialReport state trial = .ok report) :
    report.validateAttempts = .ok ⟨⟩ := by
  simp only [trialReport, bind_eq_ok, pure_eq_ok] at h
  obtain ⟨ledger, -, outcome, -, resources, -, accounting, -, _, hvalid, rfl⟩ := h
  exact hvalid

omit [Canonical] in
lemma requests_of_charged (attempts : List ProviderAttemptRecord) :
    (attempts.map fun attempt => attempt.chargedResources.requests).sum = attempts.length := by
  rw [List.map_congr_left fun attempt _ => attempt.charged_provider.1, List.map_const',
    List.sum_replicate, smul_eq_mul, Nat.mul_one]

variable [CampaignCanonical]

/-- The provider counters of a trial are those of its attempts. -/
lemma committed_eq_sum (h : replayCampaign header events = .ok state)
    (hledger : state.ledgers.get? trial.trialId = some ledger) {item : ResourceField}
    (hitem : item.IsProvider) : ledger.committed.get item =
      ((ledger.attempts.map fun attempt => attempt.chargedResources.get item).sum : Nat) := by
  have haccount : state.ledger.accounts.get? trial.trialId = some ledger.account := by
    simp [CampaignProjection.ledger, Dict.get?_mapVal, hledger]
  have hcharged := replayCampaign_chargesAttempts h trial.trialId ledger.account haccount item hitem
  rw [CampaignProjection.charged, attempts_of_get? hledger] at hcharged
  rw [Nat.cast_list_sum, List.map_map]
  exact hcharged

omit [CampaignCanonical] in
lemma contiguousAttempts_of_numbered (h : AttemptsNumbered state)
    (hledger : state.ledgers.get? trial.trialId = some ledger) :
    ContiguousAttempts ledger.attempts := by
  intro key hkey
  have hcontiguous := h.contiguous trial.trialId key
  rw [CampaignProjection.attemptsFor, attempts_of_get? hledger] at hcontiguous
  simp only
  rw [List.length_map]
  exact hcontiguous

/-- An ended trial whose counters fit has a report. -/
theorem exists_trialReport (h : replayCampaign header events = .ok state)
    (hledger : state.ledgers.get? trial.trialId = some ledger) {outcome : TrialRunOutcome}
    (houtcome : ledger.outcome = some outcome) (hsafe : ledger.committed.JsonSafe) :
    ∃ report, trialReport state trial = .ok report := by
  have hnonneg := fun item =>
    ((replayCampaign_countersConserved h).trial_nonneg trial.trialId ledger hledger item).2
  obtain ⟨resources, hresources⟩ := exists_snapshot hnonneg hsafe
  have hsame := snapshot_eq_ok.mp hresources
  -- the provider counters of the snapshot are sums over the attempts
  have hcharged : ∀ item : ResourceField, item.IsProvider → resources.get item =
      (ledger.attempts.map fun attempt => attempt.chargedResources.get item).sum := by
    intro item hitem
    have hitemCommitted := (hsame item).trans (committed_eq_sum h hledger hitem)
    exact Int.ofNat_inj.mp hitemCommitted
  have hinput : resources.inputTokens = chargedInput ledger.attempts :=
    hcharged .inputTokens (Or.inr (Or.inl rfl))
  have houtput : resources.outputTokens = chargedOutput ledger.attempts :=
    hcharged .outputTokens (Or.inr (Or.inr rfl))
  have hrequests : resources.requests = ledger.attempts.length :=
    (hcharged .requests (Or.inl rfl)).trans (requests_of_charged ledger.attempts)
  obtain ⟨accounting, haccounting⟩ := exists_tokenAccounting
    (hinput.ge.trans (resources.bounded .inputTokens))
    (houtput.ge.trans (resources.bounded .outputTokens))
  have hcounts := tokenAccounting_counts haccounting
  simp only [trialReport, TrialReport.validateAttempts, bind_eq_ok, orRaise_eq_ok, raiseIf_eq_ok,
    exists_const, pure_eq_ok, not_or, not_not]
  refine ⟨_, ledger, hledger, outcome, houtcome, resources, hresources, accounting, haccounting,
    ⟨contiguousAttempts_of_numbered (replayCampaign_attemptsNumbered h) hledger, hcounts.requests,
      hrequests, accounting, haccounting, rfl,
      ⟨hinput.trans hcounts.input.symm, houtput.trans hcounts.output.symm⟩, ?_⟩, rfl⟩
  rintro ⟨hdisposition, hused⟩
  obtain ⟨hzero, hnone⟩ := (replayCampaign_endedIdle h).unused trial.trialId ledger outcome hledger
    houtcome hdisposition
  refine hused.elim (fun hnotzero => hnotzero ?_) fun hattempts => hattempts hnone
  intro item
  have hitem := hsame item
  rw [hzero item] at hitem
  exact Int.ofNat_eq_zero.mp hitem

end Trials

/-! ### Aggregates -/

section Aggregates

variable [Canonical] {reports group : List TrialReport}

/-- The sum of one counter over the trials. -/
def reportedAmount (reports : List TrialReport) (item : ResourceField) : Nat :=
  (reports.map fun report => report.resources.get item).sum

lemma reportedAmount_cons (report : TrialReport) (reports : List TrialReport)
    (item : ResourceField) : reportedAmount (report :: reports) item =
      report.resources.get item + reportedAmount reports item := by
  rw [reportedAmount, List.map_cons, List.sum_cons, ← reportedAmount]

lemma get_foldl_add (reports : List TrialReport) (totals : MutableResources)
    (item : ResourceField) :
    (reports.foldl (fun totals report => totals.add report.resources) totals).get item =
      totals.get item + reportedAmount reports item := by
  induction reports generalizing totals with
  | nil => simp [reportedAmount]
  | cons report reports ih =>
    rw [List.foldl_cons, ih, MutableResources.get_add, reportedAmount_cons, Nat.cast_add,
      add_assoc]

lemma aggregateResources_eq_ok {resources : CampaignResources} :
    aggregateResources reports = .ok resources ↔
      ∀ item, resources.get item = reportedAmount reports item := by
  rw [aggregateResources, snapshot_eq_ok]
  simp only [get_foldl_add, MutableResources.get_zero, zero_add, Int.ofNat_inj]

lemma reportedAmount_le_of_sublist (h : group.Sublist reports) (item : ResourceField) :
    reportedAmount group item ≤ reportedAmount reports item :=
  sum_le_of_subperm h.subperm

omit [Canonical] in
/-- Fewer amounts add up where more of them do. -/
lemma foldSteps_decimalAdd_sublist {xs ys : List { x : CanonicalDecimal // 0 ≤ x }}
    (hsub : xs.Sublist ys) {start start' total' : ℚ} (hnonneg : 0 ≤ start) (hle : start ≤ start')
    (hnumber : (decimalContext 28).IsNumber start')
    (h : foldSteps decimalAdd start' ys = .ok total') :
    ∃ total, foldSteps decimalAdd start xs = .ok total ∧ 0 ≤ total := by
  have hproper : (decimalContext 28).Proper := FloatFormat.decimalContext_proper (by decide)
  induction hsub generalizing start start' with
  | slnil => exact ⟨start, rfl, hnonneg⟩
  | cons y _ ih =>
    obtain ⟨next', hnext', hrest⟩ := foldSteps_cons_eq_ok.mp h
    have hround := orRaise_eq_ok.mp hnext'
    refine ih hnonneg (hle.trans (hnumber.le_round hproper ?_ hround))
      (FloatFormat.isNumber_of_round hproper hround) hrest
    exact le_add_of_nonneg_right y.2
  | cons_cons y _ ih =>
    obtain ⟨next', hnext', hrest⟩ := foldSteps_cons_eq_ok.mp h
    have hround := orRaise_eq_ok.mp hnext'
    obtain ⟨next, hnext, hpos, hless⟩ := FloatFormat.exists_round hproper
      (add_nonneg hnonneg y.2) (by linarith : start + y.1 ≤ start' + y.1) hround
    obtain ⟨total, htotal, htotalPos⟩ :=
      ih hpos hless (FloatFormat.isNumber_of_round hproper hround) hrest
    exact ⟨total, foldSteps_cons_eq_ok.mpr ⟨next, orRaise_eq_ok.mpr hnext, htotal⟩, htotalPos⟩

/-- The known amounts of each currency, in their order, add up within the decimal context. -/
def SpendFits (spends : List SpendObservation) : Prop :=
  ∀ currency, ∃ total, foldSteps decimalAdd 0 (((spends.filterMap
    SpendObservation.knownAmount).filter fun spend => spend.1 = currency).map Prod.snd) = .ok total

omit [Canonical] in
lemma SpendFits.sublist {spends spends' : List SpendObservation} (h : SpendFits spends)
    (hsub : spends'.Sublist spends) : SpendFits spends' := by
  intro currency
  obtain ⟨total', htotal'⟩ := h currency
  obtain ⟨total, htotal, -⟩ := foldSteps_decimalAdd_sublist
    (((hsub.filterMap _).filter _).map _) le_rfl le_rfl
    (FloatFormat.isNumber_zero (FloatFormat.decimalContext_proper (by decide))) htotal'
  exact ⟨total, htotal⟩

def TrialReport.spend (report : TrialReport) : SpendObservation := report.outcome.providerSpend

lemma exists_spendSummary_iff :
    (∃ spend, spendSummary reports = .ok spend) ↔ SpendFits (reports.map TrialReport.spend) := by
  have hknown : (reports.map TrialReport.spend).filterMap SpendObservation.knownAmount =
      reports.filterMap fun report => report.outcome.providerSpend.knownAmount :=
    List.filterMap_map
  constructor
  · rintro ⟨spend, hspend⟩ currency
    simp only [spendSummary, bind_eq_ok] at hspend
    obtain ⟨totals, htotals, -⟩ := hspend
    rw [hknown]
    by_cases hcurrency : currency ∈ (reports.filterMap fun report =>
        report.outcome.providerSpend.knownAmount).map Prod.fst
    · have hmem := mem_sortedStrings.mpr (List.mem_dedup.mpr hcurrency)
      obtain ⟨i, hi, heq⟩ := List.mem_iff_getElem.mp hmem
      have hpairs := mapM_eq_ok_iff.mp htotals
      have htotal := hpairs.get hi (by rw [← hpairs.length_eq]; exact hi)
      rw [List.get_eq_getElem, heq] at htotal
      simp only [currencyTotal, bind_eq_ok] at htotal
      obtain ⟨amount, hamount, -⟩ := htotal
      exact ⟨amount, hamount⟩
    · refine ⟨0, ?_⟩
      rw [List.filter_eq_nil_iff.mpr]
      · rfl
      · intro spend hspend hsame
        exact hcurrency (List.mem_map.mpr ⟨spend, hspend, of_decide_eq_true hsame⟩)
  · intro hfits
    have htotal : ∀ currency, ∃ total, currencyTotal (reports.filterMap fun report =>
        report.outcome.providerSpend.knownAmount) currency = .ok total := by
      intro currency
      obtain ⟨amount', hamount'⟩ := hfits currency
      obtain ⟨amount, hamount, hpos⟩ := foldSteps_decimalAdd_sublist (List.Sublist.refl _) le_rfl
        le_rfl (FloatFormat.isNumber_zero (FloatFormat.decimalContext_proper (by decide))) hamount'
      rw [hknown] at hamount
      simp only [currencyTotal, hamount, ok_bind, dif_pos hpos]
      exact ⟨_, rfl⟩
    obtain ⟨totals, htotals⟩ := exists_mapM_eq_ok fun currency (_ : currency ∈ sortedStrings
      ((reports.filterMap fun report =>
        report.outcome.providerSpend.knownAmount).map Prod.fst).dedup) => htotal currency
    simp only [spendSummary, htotals, ok_bind]
    exact ⟨_, rfl⟩

/-- Reports whose tokens are those of their attempts, and whose totals are JSON-safe. -/
structure ReportsSafe (reports : List TrialReport) : Prop where
  input : ∀ report ∈ reports, chargedInput report.providerAttempts = report.resources.inputTokens
  output : ∀ report ∈ reports,
    chargedOutput report.providerAttempts = report.resources.outputTokens
  bounded : ∀ item, reportedAmount reports item ≤ JCS_INTEGER_MAX
  spend : SpendFits (reports.map TrialReport.spend)

lemma ReportsSafe.sublist (h : ReportsSafe reports) (hsub : group.Sublist reports) :
    ReportsSafe group where
  input report hreport := h.input report (hsub.subset hreport)
  output report hreport := h.output report (hsub.subset hreport)
  bounded item := (reportedAmount_le_of_sublist hsub item).trans (h.bounded item)
  spend := h.spend.sublist (hsub.map _)

/-- What was charged for all attempts is the sum over the trials. -/
lemma charged_allAttempts {charge : ProviderAttemptRecord → Nat} {item : ResourceField}
    (h : ∀ report ∈ reports, (report.providerAttempts.map charge).sum = report.resources.get item) :
    ((allAttempts reports).map charge).sum = reportedAmount reports item := by
  induction reports with
  | nil => rfl
  | cons report reports ih =>
    rw [List.forall_mem_cons] at h
    rw [allAttempts, List.flatMap_cons, List.map_append, List.sum_append, ← allAttempts, h.1,
      ih h.2, reportedAmount_cons]

lemma ReportsSafe.exists_tokenAccounting (h : ReportsSafe reports) :
    ∃ accounting, tokenAccounting (allAttempts reports) = .ok accounting := by
  have hinput : chargedInput (allAttempts reports) = reportedAmount reports .inputTokens :=
    charged_allAttempts h.input
  have houtput : chargedOutput (allAttempts reports) = reportedAmount reports .outputTokens :=
    charged_allAttempts h.output
  exact EdaGym.exists_tokenAccounting (hinput.le.trans (h.bounded .inputTokens))
    (houtput.le.trans (h.bounded .outputTokens))

lemma ReportsSafe.exists_aggregateResources (h : ReportsSafe reports) :
    ∃ resources, aggregateResources reports = .ok resources := by
  refine exists_snapshot ?_ ?_
  · intro item
    rw [get_foldl_add, MutableResources.get_zero, zero_add]
    exact Int.natCast_nonneg _
  · intro item
    rw [get_foldl_add, MutableResources.get_zero, zero_add]
    exact Int.ofNat_le.mpr (h.bounded item)

lemma ReportsSafe.exists_groupTotals (h : ReportsSafe reports) :
    ∃ totals, groupTotals reports = .ok totals := by
  obtain ⟨resources, hresources⟩ := h.exists_aggregateResources
  obtain ⟨accounting, haccounting⟩ := h.exists_tokenAccounting
  obtain ⟨spend, hspend⟩ := exists_spendSummary_iff.mpr h.spend
  simp only [groupTotals, bind_eq_ok, pure_eq_ok]
  exact ⟨_, resources, hresources, accounting, haccounting, spend, hspend, rfl⟩

omit [Canonical] in
lemma mem_groups {α β : Type} [DecidableEq β] {key : α → β} {order : β → String} {xs : List α}
    {pair : β × List α} (h : pair ∈ groups key order xs) :
    (∃ x ∈ xs, key x = pair.1) ∧ pair.2.Sublist xs := by
  rw [groups, mem_sortedBy] at h
  obtain ⟨k, hk, rfl⟩ := List.mem_map.mp h
  exact ⟨List.mem_map.mp (List.mem_dedup.mp hk), List.filter_sublist⟩

end Aggregates

/-! ### The order of the tasks -/

section Order

variable {campaignDigest : Digest} {ordered : List Digest} {trials : List ReportTrial}

/-- The order read off some of the trials of a schedule. -/
structure OrderRead (ordered : List Digest) (trials : List ReportTrial) (order : Dict Nat Digest) :
    Prop where
  release : ∀ i release, order.get? i = some release → ordered[i]? = some release
  mem_iff : ∀ i, i ∈ order ↔ ∃ trial ∈ trials, trial.taskOrderIndex = i

lemma taskOrderStep_read {seen : List ReportTrial} {order : Dict Nat Digest} {trial : ReportTrial}
    (h : OrderRead ordered seen order)
    (hindex : ordered[trial.taskOrderIndex]? = some trial.binding.taskReleaseDigest) :
    ∃ order', taskOrderStep order trial = .ok order' ∧
      OrderRead ordered (seen ++ [trial]) order' := by
  have hmem : ∀ i, (∃ other ∈ seen ++ [trial], other.taskOrderIndex = i) ↔
      (i ∈ order ∨ i = trial.taskOrderIndex) := by
    intro i
    rw [h.mem_iff]
    constructor
    · rintro ⟨other, hother, rfl⟩
      rcases List.mem_append.mp hother with hother | hother
      · exact Or.inl ⟨other, hother, rfl⟩
      · exact Or.inr (by rw [List.mem_singleton.mp hother])
    · rintro (⟨other, hother, rfl⟩ | rfl)
      · exact ⟨other, List.mem_append_left _ hother, rfl⟩
      · exact ⟨trial, List.mem_append_right _ List.mem_cons_self, rfl⟩
  unfold taskOrderStep
  cases hprior : order.get? trial.taskOrderIndex with
  | none =>
    refine ⟨_, rfl, ?_, ?_⟩
    · intro i release hget
      rw [Dict.get?_insert] at hget
      split_ifs at hget with hi
      · rw [hi, hindex, hget]
      · exact h.release i release hget
    · intro i
      rw [hmem, Dict.mem_insert, or_comm]
  | some prior =>
    have hsame : prior = trial.binding.taskReleaseDigest :=
      Option.some.inj ((h.release _ prior hprior).symm.trans hindex)
    refine ⟨order, by simp [hsame, raiseIf, bind, Except.bind, pure, Except.pure], h.release, ?_⟩
    intro i
    rw [hmem]
    constructor
    · exact Or.inl
    · rintro (hi | rfl)
      · exact hi
      · exact Dict.mem_of_get? hprior

lemma taskOrder_run {seen : List ReportTrial} {order : Dict Nat Digest}
    (h : OrderRead ordered seen order)
    (hindex : ∀ trial ∈ trials,
      ordered[trial.taskOrderIndex]? = some trial.binding.taskReleaseDigest) :
    ∃ order', foldSteps taskOrderStep order trials = .ok order' ∧
      OrderRead ordered (seen ++ trials) order' := by
  induction trials generalizing seen order with
  | nil => exact ⟨order, rfl, by rwa [List.append_nil]⟩
  | cons trial trials ih =>
    obtain ⟨order₁, hstep, hread⟩ := taskOrderStep_read h (hindex trial List.mem_cons_self)
    obtain ⟨order', hrest, hread'⟩ := ih hread
      fun other hother => hindex other (List.mem_cons_of_mem _ hother)
    refine ⟨order', foldSteps_cons_eq_ok.mpr ⟨order₁, hstep, hrest⟩, ?_⟩
    rwa [List.append_assoc, List.singleton_append] at hread'

lemma filterMap_getElem?_range {α : Type} (xs : List α) :
    (List.range xs.length).filterMap (fun i => xs[i]?) = xs := by
  induction xs with
  | nil => rfl
  | cons x xs ih =>
    rw [List.length_cons, List.range_succ_eq_map]
    simp only [List.filterMap_cons, List.getElem?_cons_zero, List.filterMap_map]
    exact congrArg (x :: ·) ih

/-- A valid schedule is read back from its trials. -/
lemma taskOrder_eq (h : ScheduleValid campaignDigest ordered trials) :
    taskOrder trials = .ok ordered := by
  have hempty : OrderRead ordered [] Dict.empty := ⟨by simp, by simp⟩
  obtain ⟨order, hfold, hread⟩ := taskOrder_run hempty h.index_eq
  rw [List.nil_append] at hread
  have hkeys : ∀ i, i ∈ order ↔ i < ordered.length := by
    intro i
    rw [hread.mem_iff]
    constructor
    · rintro ⟨trial, htrial, rfl⟩
      exact (List.getElem?_eq_some_iff.mp (h.index_eq trial htrial)).1
    · intro hi
      obtain ⟨trial, htrial, hrelease⟩ := h.covers _ (List.getElem_mem hi)
      have hindex := h.index_eq trial htrial
      rw [hrelease, ← List.getElem?_eq_getElem hi] at hindex
      refine ⟨trial, htrial, ?_⟩
      have hlt := (List.getElem?_eq_some_iff.mp (h.index_eq trial htrial)).1
      exact (List.getElem?_inj hlt h.ordered_nodup).mp hindex
  have hperm : order.keys.Perm (List.range ordered.length) := by
    refine (List.perm_ext_iff_of_nodup order.nodup List.nodup_range).mpr ?_
    intro i
    rw [List.mem_range, ← hkeys i]
    rfl
  have hsize : order.entries.length = ordered.length := by
    have hlength := hperm.length_eq
    rwa [Dict.keys, List.length_map, List.length_range] at hlength
  have hsorted : order.keys.insertionSort (· ≤ ·) = List.range ordered.length :=
    ((List.perm_insertionSort _ _).trans hperm).eq_of_pairwise'
      (List.pairwise_insertionSort _ _) List.pairwise_le_range
  have hget : ∀ i, order.get? i = ordered[i]? := by
    intro i
    cases hi : order.get? i with
    | some release => exact (hread.release i release hi).symm
    | none =>
      have hnot := mt (hkeys i).mpr (Dict.get?_eq_none_iff.mp hi)
      exact (List.getElem?_eq_none (Nat.le_of_not_lt hnot)).symm
  simp only [taskOrder, bind_eq_ok, raiseIf_eq_ok, exists_const, pure_eq_ok, not_not]
  refine ⟨order, hfold, ?_, ?_⟩
  · rw [hsize]
    exact hsorted
  · rw [hsize, funext hget]
    exact filterMap_getElem?_range ordered

end Order

/-! ### Reports of closed campaigns -/

section Report

variable [Canonical] [CampaignCanonical] [ScheduleCanonical] {header : ReportHeader}
  {state : CampaignProjection} {events : List CampaignEvent} {reports : List TrialReport}

/-- The trials of the reports are those of the header. -/
def ReportsTrials (header : ReportHeader) (reports : List TrialReport) : Prop :=
  reports.map TrialReport.trial = header.reportTrials

section

omit [CampaignCanonical]

lemma ReportsTrials.mem (h : ReportsTrials header reports) {report : TrialReport}
    (hreport : report ∈ reports) : report.trial ∈ header.reportTrials := by
  rw [← h]
  exact List.mem_map_of_mem hreport

lemma exists_taskByRelease (h : ReportsTrials header reports) {release : Digest}
    (hrelease : ∃ report ∈ reports, report.trial.binding.taskReleaseDigest = release) :
    ∃ task, header.taskByRelease release = .ok task := by
  obtain ⟨report, hreport, rfl⟩ := hrelease
  obtain ⟨task, htask, hsame⟩ := header.task_mem report.trial (h.mem hreport)
  obtain ⟨found, -, hfound, -⟩ := exists_find?_eq_some (p := fun task : ReportTask =>
    task.taskReleaseDigest = report.trial.binding.taskReleaseDigest) htask hsame
  exact ⟨found, orRaise_eq_ok.mpr hfound⟩

lemma exists_routeById (h : ReportsTrials header reports) {routeId : Identifier}
    (hroute : ∃ report ∈ reports, report.trial.binding.routeId = routeId) :
    ∃ route, header.routeById routeId = .ok route := by
  obtain ⟨report, hreport, rfl⟩ := hroute
  obtain ⟨route, hmem, hsame⟩ := header.route_mem report.trial (h.mem hreport)
  obtain ⟨found, -, hfound, -⟩ := exists_find?_eq_some (p := fun route : ModelRoute =>
    route.routeId = report.trial.binding.routeId) hmem hsame
  exact ⟨found, orRaise_eq_ok.mpr hfound⟩

lemma exists_taskAggregates (h : ReportsTrials header reports) (hsafe : ReportsSafe reports) :
    ∃ tasks, (taskGroups reports).mapM (taskAggregate header) = .ok tasks := by
  refine exists_mapM_eq_ok ?_
  intro group hgroup
  obtain ⟨hrelease, hsub⟩ := mem_groups hgroup
  obtain ⟨task, htask⟩ := exists_taskByRelease h hrelease
  obtain ⟨totals, htotals⟩ := (hsafe.sublist hsub).exists_groupTotals
  simp only [taskAggregate, bind_eq_ok, pure_eq_ok]
  exact ⟨_, task, htask, totals, htotals, rfl⟩

end

omit [CampaignCanonical] [ScheduleCanonical] in
lemma exists_deviceAggregates (hsafe : ReportsSafe reports) :
    ∃ devices, (groups (fun report => report.trial.deviceCapability) Capability.value
      reports).mapM deviceAggregate = .ok devices := by
  refine exists_mapM_eq_ok ?_
  intro group hgroup
  obtain ⟨totals, htotals⟩ := (hsafe.sublist (mem_groups hgroup).2).exists_groupTotals
  simp only [deviceAggregate, bind_eq_ok, pure_eq_ok]
  exact ⟨_, totals, htotals, rfl⟩

section

omit [CampaignCanonical]

lemma exists_modelAggregates (h : ReportsTrials header reports) (hsafe : ReportsSafe reports) :
    ∃ models, (routeGroups reports).mapM (modelAggregate header) = .ok models := by
  refine exists_mapM_eq_ok ?_
  intro group hgroup
  obtain ⟨hroute, hsub⟩ := mem_groups hgroup
  obtain ⟨route, hroute⟩ := exists_routeById h hroute
  obtain ⟨totals, htotals⟩ := (hsafe.sublist hsub).exists_groupTotals
  simp only [modelAggregate, bind_eq_ok, pure_eq_ok]
  exact ⟨_, route, hroute, totals, htotals, rfl⟩

lemma exists_modelEffortAggregates (h : ReportsTrials header reports)
    (hsafe : ReportsSafe reports) :
    ∃ efforts, (modelEffortGroups reports).mapM (modelEffortAggregate header) = .ok efforts := by
  refine exists_mapM_eq_ok ?_
  intro group hgroup
  rw [modelEffortGroups, mem_sortedBy] at hgroup
  obtain ⟨⟨report, hreport, hkey⟩, hsub⟩ := mem_groups hgroup
  obtain ⟨route, hroute⟩ := exists_routeById h ⟨report, hreport, congrArg Prod.fst hkey⟩
  obtain ⟨totals, htotals⟩ := (hsafe.sublist hsub).exists_groupTotals
  simp only [modelEffortAggregate, bind_eq_ok, pure_eq_ok]
  exact ⟨_, route, hroute, totals, htotals, rfl⟩

lemma exists_categoryAggregates (header : ReportHeader) (hsafe : ReportsSafe reports) :
    ∃ categories, (sortedBy ModelCategory.value
      (header.routes.flatMap ModelRoute.categories).dedup).mapM
        (categoryAggregate header reports) = .ok categories := by
  refine exists_mapM_eq_ok ?_
  intro category hcategory
  rw [mem_sortedBy, List.mem_dedup, List.mem_flatMap] at hcategory
  obtain ⟨route, hroute, hcategory⟩ := hcategory
  have hne : (header.routes.filter fun route => category ∈ route.categories).map
      ModelRoute.routeId ≠ [] := by
    refine List.ne_nil_of_mem (List.mem_map_of_mem (a := route) ?_)
    exact List.mem_filter.mpr ⟨hroute, decide_eq_true hcategory⟩
  obtain ⟨totals, htotals⟩ := (hsafe.sublist (List.filter_sublist
    (p := fun report => report.trial.binding.routeId ∈ (header.routes.filter fun route =>
      category ∈ route.categories).map ModelRoute.routeId))).exists_groupTotals
  simp only [categoryAggregate, bind_eq_ok, dif_pos hne, pure_eq_ok]
  exact ⟨_, totals, htotals, rfl⟩

lemma exists_successAtK (h : ReportsTrials header reports) :
    ∃ rows, (routeGroups reports).mapM (successAtK header) = .ok rows := by
  refine exists_mapM_eq_ok ?_
  intro group hgroup
  obtain ⟨route, hroute⟩ := exists_routeById h (mem_groups hgroup).1
  simp only [successAtK, bind_eq_ok, pure_eq_ok]
  exact ⟨_, route, hroute, rfl⟩

lemma exists_evaluatorFunnel (h : ReportsTrials header reports) :
    ∃ funnel, (taskGroups reports).mapM (evaluatorFunnel header) = .ok funnel := by
  refine exists_mapM_eq_ok ?_
  intro group hgroup
  obtain ⟨task, htask⟩ := exists_taskByRelease h (mem_groups hgroup).1
  simp only [evaluatorFunnel, bind_eq_ok, pure_eq_ok]
  exact ⟨_, task, htask, rfl⟩

end

omit [Canonical] [CampaignCanonical] in
lemma scheduled_of_mem {trial : ReportTrial} (htrial : trial ∈ header.reportTrials) :
    trial.toScheduledTrial ∈ header.schedule.trials := by
  rw [← header.trials_eq]
  exact List.mem_map_of_mem htrial

/-- The trials of a ledger are those of the header. -/
lemma trial_of_ledger (h : replayCampaign header.toCampaignHeader events = .ok state)
    {t : Identifier} {ledger : TrialProjection} (hledger : state.ledgers.get? t = some ledger) :
    ∃ trial ∈ header.reportTrials, trial.trialId = t := by
  have hmem := (trials_eq h t).mp (Dict.mem_of_get? hledger)
  rw [CampaignProjection.initial, Dict.mem_ofList, List.map_map, ← header.trials_eq,
    List.map_map] at hmem
  exact List.mem_map.mp hmem

/-- A sum over the ledgers is one over the trials of the header. -/
lemma sum_ledgers (h : replayCampaign header.toCampaignHeader events = .ok state)
    (f : TrialProjection → Int) :
    (state.ledgers.values.map f).sum =
      (header.reportTrials.map fun trial => (state.ledgers.get? trial.trialId).elim 0 f).sum := by
  have hvalues : state.ledgers.values.map f =
      state.ledgers.keys.map fun t => (state.ledgers.get? t).elim 0 f := by
    rw [Dict.values, Dict.keys, List.map_map, List.map_map]
    refine List.map_congr_left ?_
    intro entry hentry
    rw [Function.comp_apply, Function.comp_apply, Dict.mem_entries.mp hentry, Option.elim_some]
  have hperm : state.ledgers.keys.Perm (header.reportTrials.map fun trial => trial.trialId) := by
    refine (List.perm_ext_iff_of_nodup state.ledgers.nodup header.schedule_valid.ids_nodup).mpr ?_
    intro t
    constructor
    · intro ht
      obtain ⟨ledger, hledger⟩ := Dict.mem_iff.mp (Dict.mem_keys.mp ht)
      exact List.mem_map.mpr (trial_of_ledger h hledger)
    · intro ht
      obtain ⟨trial, htrial, rfl⟩ := List.mem_map.mp ht
      obtain ⟨ledger, hledger⟩ := ledger_of_scheduled h (scheduled_of_mem htrial)
      exact Dict.mem_of_get? hledger
  rw [hvalues, (hperm.map _).sum_eq, List.map_map]
  rfl

/-- No trial has committed more than the campaign. -/
lemma trial_jsonSafe (h : replayCampaign header.toCampaignHeader events = .ok state)
    (hsafe : state.committed.JsonSafe) {t : Identifier} {ledger : TrialProjection}
    (hledger : state.ledgers.get? t = some ledger) : ledger.committed.JsonSafe := by
  have hconserved := replayCampaign_countersConserved h
  intro item
  refine le_trans ?_ (hsafe item)
  rw [hconserved.committed_sum item]
  refine List.single_le_sum ?_ _ (List.mem_map_of_mem (Dict.mem_values.mpr ⟨t, hledger⟩))
  intro amount hamount
  obtain ⟨ledger', hledger', rfl⟩ := List.mem_map.mp hamount
  obtain ⟨t', ht'⟩ := Dict.mem_values.mp hledger'
  exact (hconserved.trial_nonneg t' ledger' ht' item).2

/-- The reports of a projection, one for each trial. -/
def ReportsOf (header : ReportHeader) (state : CampaignProjection) (reports : List TrialReport) :
    Prop :=
  List.Forall₂ (fun trial report => TrialReport.Repeats report state trial) header.reportTrials
    reports

section

omit [CampaignCanonical]

lemma ReportsOf.trials (h : ReportsOf header state reports) : ReportsTrials header reports := by
  have hsame := map_eq_of_forall₂ (f := fun trial => trial) (g := TrialReport.trial) h
    fun trial _ report hrepeats => hrepeats.trial_eq.symm
  rw [ReportsTrials, ← hsame, List.map_id']

lemma ReportsOf.exists_trial (h : ReportsOf header state reports) {report : TrialReport}
    (hreport : report ∈ reports) : ∃ trial ∈ header.reportTrials, report.Repeats state trial := by
  obtain ⟨i, hi, rfl⟩ := List.mem_iff_getElem.mp hreport
  have hlength : i < header.reportTrials.length := by rw [List.Forall₂.length_eq h]; exact hi
  exact ⟨header.reportTrials[i], List.getElem_mem hlength, List.Forall₂.get h hlength hi⟩

lemma ReportsOf.exists_report (h : ReportsOf header state reports) {trial : ReportTrial}
    (htrial : trial ∈ header.reportTrials) : ∃ report ∈ reports, report.Repeats state trial := by
  obtain ⟨i, hi, rfl⟩ := List.mem_iff_getElem.mp htrial
  have hlength : i < reports.length := by rw [← List.Forall₂.length_eq h]; exact hi
  exact ⟨reports[i], List.getElem_mem hlength, List.Forall₂.get h hi hlength⟩

end

/-- The trials add up to the campaign. -/
lemma ReportsOf.reportedAmount_eq (hreports : ReportsOf header state reports)
    (h : replayCampaign header.toCampaignHeader events = .ok state) (item : ResourceField) :
    (reportedAmount reports item : Int) = state.committed.get item := by
  rw [(replayCampaign_countersConserved h).committed_sum item, sum_ledgers h, reportedAmount,
    Nat.cast_list_sum, List.map_map]
  refine congrArg List.sum (map_eq_of_forall₂ hreports ?_).symm
  rintro trial - report hrepeats
  obtain ⟨ledger, hledger, hresources, -, -⟩ := hrepeats.ledger
  rw [hledger, Option.elim_some, Function.comp_apply, hresources]

/-- What the trials that have ended report to have spent, in the order of the schedule. -/
def CampaignProjection.spends (state : CampaignProjection) (trials : List ScheduledTrial) :
    List SpendObservation :=
  trials.filterMap fun trial => (state.ledgers.get? trial.trialId).bind fun ledger =>
    ledger.outcome.map TrialRunOutcome.providerSpend

omit [CampaignCanonical] in
lemma ReportsOf.spends (h : ReportsOf header state reports) :
    reports.map TrialReport.spend = state.spends header.schedule.trials := by
  rw [CampaignProjection.spends, ← header.trials_eq, List.filterMap_map]
  unfold ReportsOf at h
  generalize header.reportTrials = trials at h
  induction h with
  | nil => rfl
  | @cons trial report trials reports hrepeats _ ih =>
    obtain ⟨ledger, hledger, houtcome⟩ := hrepeats.outcome
    rw [List.map_cons, ih, List.filterMap_cons]
    simp only [Function.comp_apply, hledger, houtcome, Option.bind_some, Option.map_some,
      TrialReport.spend]

lemma ReportsOf.safe (hreports : ReportsOf header state reports)
    (h : replayCampaign header.toCampaignHeader events = .ok state)
    (hsafe : state.committed.JsonSafe)
    (hspend : SpendFits (state.spends header.schedule.trials)) : ReportsSafe reports where
  spend := hreports.spends ▸ hspend
  input report hreport := by
    obtain ⟨trial, -, hrepeats⟩ := hreports.exists_trial hreport
    exact hrepeats.input
  output report hreport := by
    obtain ⟨trial, -, hrepeats⟩ := hreports.exists_trial hreport
    exact hrepeats.output
  bounded item := by
    have hitem := hsafe item
    rw [← hreports.reportedAmount_eq h item] at hitem
    exact Int.ofNat_le.mp hitem

/-- A violation of the campaign is one of its trials. -/
lemma ReportsOf.violation_eq (hreports : ReportsOf header state reports)
    (h : replayCampaign header.toCampaignHeader events = .ok state) :
    state.budgetViolation = reports.any TrialReport.accountingViolation := by
  have hagree := replayCampaign_violationsAgree h
  rw [Bool.eq_iff_iff, List.any_eq_true]
  constructor
  · intro hviolation
    obtain ⟨t, ledger, hledger, hraised⟩ := hagree.of_campaign hviolation
    obtain ⟨trial, htrial, rfl⟩ := trial_of_ledger h hledger
    obtain ⟨report, hreport, hrepeats⟩ := hreports.exists_report htrial
    obtain ⟨ledger', hledger', -, -, hsame⟩ := hrepeats.ledger
    rw [hledger, Option.some.injEq] at hledger'
    exact ⟨report, hreport, by rw [hsame, ← hledger', hraised]⟩
  · rintro ⟨report, hreport, hraised⟩
    obtain ⟨trial, -, hrepeats⟩ := hreports.exists_trial hreport
    obtain ⟨ledger, hledger, -, -, hsame⟩ := hrepeats.ledger
    exact hagree.of_trial _ ledger hledger (hsame ▸ hraised)

/-- All attempts asked for the service tier of the campaign. -/
lemma ReportsOf.exists_serviceTierAccounting (hreports : ReportsOf header state reports)
    (h : replayCampaign header.toCampaignHeader events = .ok state) :
    ∃ tiers, serviceTierAccounting (allAttempts reports) header.serviceTier = .ok tiers := by
  simp only [serviceTierAccounting, bind_eq_ok, raiseIf_eq_ok, exists_const, pure_eq_ok]
  refine ⟨_, ?_, rfl⟩
  rintro ⟨attempt, hattempt, hne⟩
  obtain ⟨report, hreport, hattempt⟩ := List.mem_flatMap.mp hattempt
  obtain ⟨trial, -, hrepeats⟩ := hreports.exists_trial hreport
  obtain ⟨ledger, hledger, -, hattempts, -⟩ := hrepeats.ledger
  rw [hattempts, ← attempts_of_get? hledger] at hattempt
  obtain ⟨scheduled, hscheduled, htier⟩ := tier_of_attempt h hattempt
  rw [← header.trials_eq] at hscheduled
  obtain ⟨source, hsource, rfl⟩ := List.mem_map.mp hscheduled
  exact hne (htier.trans (header.tier_eq source hsource))

omit [CampaignCanonical] in
lemma exists_reports (header : ReportHeader) (state : CampaignProjection)
    (h : ∀ trial ∈ header.reportTrials, ∃ report, trialReport state trial = .ok report) :
    ∃ reports, header.reportTrials.mapM (trialReport state) = .ok reports ∧
      ReportsOf header state reports := by
  obtain ⟨reports, hreports⟩ := exists_mapM_eq_ok h
  exact ⟨reports, hreports,
    (mapM_eq_ok_iff.mp hreports).imp fun _ _ hreport => repeats_of_trialReport hreport⟩

omit [Canonical] [CampaignCanonical] in
lemma dedup_serviceTier (header : ReportHeader) :
    (header.reportTrials.map fun trial => trial.binding.serviceTier).dedup =
      [header.serviceTier] := by
  have hne : header.reportTrials.length ≠ 0 := by
    intro hzero
    apply header.schedule.trials_ne_nil
    rw [← header.trials_eq, List.length_eq_zero_iff.mp hzero, List.map_nil]
  rw [List.map_congr_left fun trial htrial => header.tier_eq trial htrial, List.map_const',
    List.replicate_dedup hne]

/-- The report that is built passes its own checks. -/
lemma validateDerivedTotals_eq_ok {report : CampaignReport}
    (hreports : ReportsOf header state report.trials)
    (h : replayCampaign header.toCampaignHeader events = .ok state)
    (hcampaign : report.campaignDigest = header.campaign.digest)
    (hschedule : report.scheduleDigest = header.schedule.digest)
    (hmodels : report.modelSetDigest = header.modelSetDigest)
    (hprofile : report.providerProfileDigest = header.providerConfig.profileDigest)
    (hconfig : report.providerConfigDigest = header.providerConfig.digest)
    (hsuccess : report.overallSuccess = successRatio report.trials)
    (hcommitted : state.committed.snapshot = .ok report.resources)
    (haccounting : tokenAccounting (allAttempts report.trials) = .ok report.tokenAccounting)
    (htiers : serviceTierAccounting (allAttempts report.trials) header.serviceTier =
      .ok report.serviceTierAccounting)
    (hreasons : report.terminalReasons = terminalReasonCounts report.trials)
    (hspend : spendSummary report.trials = .ok report.spend)
    (hviolation : report.budgetViolation = state.budgetViolation) :
    report.validateDerivedTotals = .ok ⟨⟩ := by
  have htrials : report.trials.map TrialReport.trial = header.reportTrials := hreports.trials
  have hvalid := header.schedule_valid
  have hne : header.reportTrials ≠ [] := by
    intro hnil
    apply header.schedule.trials_ne_nil
    rw [← header.trials_eq, hnil, List.map_nil]
  have hresources : aggregateResources report.trials = .ok report.resources := by
    rw [aggregateResources_eq_ok]
    intro item
    have hitem := (snapshot_eq_ok.mp hcommitted item).trans (hreports.reportedAmount_eq h item).symm
    exact Int.ofNat_inj.mp hitem
  simp only [CampaignReport.validateDerivedTotals, dedup_serviceTier, htrials, hcampaign, hschedule,
    hmodels,
    hprofile, hconfig, bind_eq_ok, raiseIf_eq_ok, exists_const, not_not]
  refine ⟨hne, ?_, header.orderedTaskReleaseDigests, taskOrder_eq hvalid, hvalid,
    header.schedule_digest.symm, hvalid.ordinals, ?_, hsuccess, report.resources, hresources, rfl,
    report.tokenAccounting, haccounting, rfl,
    report.serviceTierAccounting, htiers, rfl, hreasons, report.spend, hspend, rfl,
    hviolation.trans (hreports.violation_eq h)⟩
  · rintro ⟨trial, htrial, hother⟩
    exact hother.elim (fun hne => hne (header.profile_eq trial htrial))
      fun hne => hne (header.config_eq trial htrial)
  · rintro ⟨trial, htrial, hother⟩
    exact hother (hvalid.campaign_eq trial htrial)

/-- The reports of a closed campaign add up to a report that passes its own checks. -/
theorem exists_buildCampaignReport (hreports : ReportsOf header state reports)
    (h : replayCampaign header.toCampaignHeader events = .ok state)
    (hsafe : state.committed.JsonSafe) (hfits : SpendFits (state.spends header.schedule.trials))
    {resources : CampaignResources}
    (hcommitted : state.committed.snapshot = .ok resources) (recordDigest : Digest) :
    ∃ report, buildCampaignReport header reports recordDigest state.budgetViolation resources =
      .ok report := by
  have hreportsSafe := hreports.safe h hsafe hfits
  obtain ⟨tasks, htasks⟩ := exists_taskAggregates hreports.trials hreportsSafe
  obtain ⟨devices, hdevices⟩ := exists_deviceAggregates hreportsSafe
  obtain ⟨models, hmodels⟩ := exists_modelAggregates hreports.trials hreportsSafe
  obtain ⟨efforts, hefforts⟩ := exists_modelEffortAggregates hreports.trials hreportsSafe
  obtain ⟨categories, hcategories⟩ := exists_categoryAggregates header hreportsSafe
  obtain ⟨rows, hrows⟩ := exists_successAtK hreports.trials
  obtain ⟨funnel, hfunnel⟩ := exists_evaluatorFunnel hreports.trials
  obtain ⟨accounting, haccounting⟩ := hreportsSafe.exists_tokenAccounting
  obtain ⟨tiers, htiers⟩ := hreports.exists_serviceTierAccounting h
  obtain ⟨spend, hspend⟩ := exists_spendSummary_iff.mpr hreportsSafe.spend
  simp only [buildCampaignReport, bind_eq_ok, pure_eq_ok]
  refine ⟨_, tasks, htasks, devices, hdevices, models, hmodels, efforts, hefforts, categories,
    hcategories, rows, hrows, funnel, hfunnel, accounting, haccounting, tiers, htiers, spend,
    hspend, ⟨⟩, ?_, rfl⟩
  exact validateDerivedTotals_eq_ok hreports h rfl rfl rfl rfl rfl rfl hcommitted haccounting htiers
    rfl hspend rfl

omit [CampaignCanonical] in
lemma buildCampaignReport_eq_ok {recordDigest : Digest} {budgetViolation : Bool}
    {resources : CampaignResources} {report : CampaignReport}
    (h : buildCampaignReport header reports recordDigest budgetViolation resources = .ok report) :
    report.trials = reports ∧ report.validateDerivedTotals = .ok ⟨⟩ ∧
      spendSummary reports = .ok report.spend := by
  simp only [buildCampaignReport, bind_eq_ok, pure_eq_ok] at h
  obtain ⟨_, -, _, -, _, -, _, -, _, -, _, -, _, -, _, -, _, -, spend, hspend, _, hvalid, rfl⟩ := h
  exact ⟨rfl, hvalid, hspend⟩

/-- The record has a report, which passes its own checks. -/
def HasReport (header : ReportHeader) (recordDigest : Digest) (committed : List CampaignEvent) :
    Prop :=
  ∃ report, projectCampaignReport header recordDigest committed = .ok report ∧
    report.validateDerivedTotals = .ok ⟨⟩ ∧
    ∀ trial ∈ report.trials, trial.validateAttempts = .ok ⟨⟩

/-- A campaign whose trials have all ended has a report exactly when its counters are JSON-safe and
what is known to have been spent adds up. -/
theorem hasReport_iff {committed : List CampaignEvent}
    (hreplay : replayCampaign header.toCampaignHeader committed = .ok state)
    (hempty : state.reservations.isEmpty = true)
    (hended : ∀ trial ∈ header.schedule.trials, state.unfinished trial = false)
    (recordDigest : Digest) :
    HasReport header recordDigest committed ↔
      state.committed.JsonSafe ∧ SpendFits (state.spends header.schedule.trials) := by
  constructor
  · rintro ⟨report, hreport, -⟩
    simp only [projectCampaignReport, bind_eq_ok] at hreport
    obtain ⟨state₁, hstate₁, _, -, _, -, reports, hreports, resources, hresources, hbuild⟩ :=
      hreport
    rw [hreplay, Except.ok.injEq] at hstate₁
    subst hstate₁
    have hof : ReportsOf header state reports :=
      (mapM_eq_ok_iff.mp hreports).imp fun _ _ hreport => repeats_of_trialReport hreport
    refine ⟨jsonSafe_of_snapshot hresources, hof.spends ▸ exists_spendSummary_iff.mp ?_⟩
    exact ⟨_, (buildCampaignReport_eq_ok hbuild).2.2⟩
  · rintro ⟨hsafe, hfits⟩
    have houtcome : ∀ trial ∈ header.reportTrials, ∃ ledger outcome,
        state.ledgers.get? trial.trialId = some ledger ∧ ledger.outcome = some outcome := by
      intro trial htrial
      obtain ⟨ledger, hledger⟩ := ledger_of_scheduled hreplay (scheduled_of_mem htrial)
      have hfinished := hended _ (scheduled_of_mem htrial)
      rw [unfinished_eq hledger, Option.isNone_eq_false_iff] at hfinished
      obtain ⟨outcome, houtcome⟩ := Option.isSome_iff_exists.mp hfinished
      exact ⟨ledger, outcome, hledger, houtcome⟩
    obtain ⟨reports, hreports, hof⟩ := exists_reports header state (by
      intro trial htrial
      obtain ⟨ledger, outcome, hledger, houtcome⟩ := houtcome trial htrial
      exact exists_trialReport hreplay hledger houtcome (trial_jsonSafe hreplay hsafe hledger))
    obtain ⟨resources, hresources⟩ := exists_snapshot
      (fun item => ((replayCampaign_countersConserved hreplay).nonneg item).2) hsafe
    obtain ⟨report, hreport⟩ := exists_buildCampaignReport hof hreplay hsafe hfits hresources
      recordDigest
    obtain ⟨htrials, hvalid, -⟩ := buildCampaignReport_eq_ok hreport
    refine ⟨report, ?_, hvalid, ?_⟩
    · simp only [projectCampaignReport, bind_eq_ok, raiseIf_eq_ok, exists_const]
      refine ⟨state, hreplay, by simp [hempty], ?_, reports, hreports, resources, hresources,
        hreport⟩
      rintro ⟨trial, htrial, ledger, hledger, hnone⟩
      obtain ⟨ledger', outcome, hledger', houtcome⟩ := houtcome trial htrial
      rw [Option.mem_def.mp hledger, Option.some.injEq] at hledger'
      rw [hledger', houtcome] at hnone
      cases hnone
    · rw [htrials]
      intro trialReport htrialReport
      obtain ⟨i, hi, rfl⟩ := List.mem_iff_getElem.mp htrialReport
      have hpairs := mapM_eq_ok_iff.mp hreports
      have hlength : i < header.reportTrials.length := by rw [hpairs.length_eq]; exact hi
      exact validateAttempts_of_trialReport (hpairs.get hlength hi)

/-! ### Closing -/

/-- Closing a campaign: active reservations are recovered, then unfinished trials are stopped, then
there is a report. -/
structure CampaignCloses (header : ReportHeader) (eventIds : Nat → UUID) (recordDigest : Digest)
    (committed : List CampaignEvent) (state : CampaignProjection) : Prop where
  recovers : state.reservations.isEmpty = false →
    RecoversDispatches header.toCampaignHeader eventIds committed state
  stops : state.reservations.isEmpty = true →
    (∃ trial ∈ header.schedule.trials, state.unfinished trial = true) →
    StopsUnfinished header.toCampaignHeader eventIds committed state
  reports : state.reservations.isEmpty = true →
    (∀ trial ∈ header.schedule.trials, state.unfinished trial = false) →
    HasReport header recordDigest committed

/-- Every active reservation can be closed, the counters that are read next are JSON-safe, and what
the trials spent adds up once all of them have ended. -/
structure CanClose (header : CampaignHeader) (state : CampaignProjection) : Prop where
  claims : ∀ k active, state.reservations.get? k = some active → active.Closable
  unfinished : state.reservations.isEmpty = true →
    UnfinishedJsonSafe state header.schedule.trials
  total : state.reservations.isEmpty = true →
    (∀ trial ∈ header.schedule.trials, state.unfinished trial = false) →
    state.committed.JsonSafe ∧ SpendFits (state.spends header.schedule.trials)

omit [Canonical] [CampaignCanonical] in
lemma tasksScheduled (header : ReportHeader) : TasksScheduled header.toCampaignHeader := by
  intro scheduled hscheduled
  rw [← header.trials_eq] at hscheduled
  obtain ⟨trial, htrial, rfl⟩ := List.mem_map.mp hscheduled
  obtain ⟨task, htask, hrelease⟩ := header.task_mem trial htrial
  refine ⟨task.toCampaignTask, ?_, hrelease⟩
  rw [← header.tasks_eq]
  exact List.mem_map_of_mem htask

omit [CampaignCanonical] [ScheduleCanonical] in
lemma unfinishedJsonSafe_of_ended {trials : List ScheduledTrial}
    (h : ∀ trial ∈ trials, state.unfinished trial = false) : UnfinishedJsonSafe state trials := by
  intro trial htrial ledger hledger houtcome
  have hfinished := h trial htrial
  rw [unfinished_eq hledger, houtcome] at hfinished
  cases hfinished

/-- Exactly which accepted campaign records can be closed. -/
theorem campaign_closes_iff (header : ReportHeader) (eventIds : Nat → UUID) (recordDigest : Digest)
    (committed : List CampaignEvent) (state : CampaignProjection)
    (hreplay : replayCampaign header.toCampaignHeader committed = .ok state)
    (hids : FreshIds eventIds committed) :
    CampaignCloses header eventIds recordDigest committed state ↔
      CanClose header.toCampaignHeader state := by
  constructor
  · intro h
    refine ⟨?_, ?_, ?_⟩
    · cases hempty : state.reservations.isEmpty with
      | false => exact (recoversDispatches_iff hreplay hids hempty).mp (h.recovers hempty)
      | true =>
        intro k active hactive
        rw [Dict.isEmpty_iff.mp hempty k] at hactive
        cases hactive
    · intro hempty
      by_cases hopen : ∃ trial ∈ header.schedule.trials, state.unfinished trial = true
      · exact (stopsUnfinished_iff hreplay hids (tasksScheduled header) hempty hopen).mp
          (h.stops hempty hopen)
      · refine unfinishedJsonSafe_of_ended fun trial htrial => ?_
        exact Bool.eq_false_iff.mpr fun hopen' => hopen ⟨trial, htrial, hopen'⟩
    · intro hempty hended
      exact (hasReport_iff hreplay hempty hended recordDigest).mp (h.reports hempty hended)
  · intro h
    refine ⟨?_, ?_, ?_⟩
    · intro hactive
      exact (recoversDispatches_iff hreplay hids hactive).mpr h.claims
    · intro hempty hopen
      exact (stopsUnfinished_iff hreplay hids (tasksScheduled header) hempty hopen).mpr
        (h.unfinished hempty)
    · intro hempty hended
      exact (hasReport_iff hreplay hempty hended recordDigest).mpr (h.total hempty hended)

end Report

/-! ### Two records of one campaign -/

@[reducible] def plainScheduleCanonical : ScheduleCanonical where
  scheduleDigest campaign models ordered trials :=
    String.intercalate "/" (campaign :: models :: ordered ++ trials.map fun trial => trial.digest)

section Records

local instance recordCanonical : Canonical := plainCanonical
local instance recordCampaignCanonical : CampaignCanonical := plainCampaignCanonical
local instance recordScheduleCanonical : ScheduleCanonical := plainScheduleCanonical

def oneTrialReport : ReportHeader where
  toCampaignHeader := { oneTrialHeader with
    schedule := { oneTrialHeader.schedule with digest := "d-camp/d-models/d-rel/d-trial" } }
  scope := .endToEndSmoke
  serviceTier := "default"
  repetitions := 1
  modelSetDigest := "d-models"
  routes := [{
    routeId := "route", requestedModel := "m0", providerReportedModel := "m0",
    referenceKind := .snapshot, categories := [.codingAgent] }]
  reportTasks := [{
    taskReleaseDigest := "d-rel", evaluatorStageIds := ["gate"], taskFamily := "adder",
    role := .rtlGeneration }]
  orderedTaskReleaseDigests := ["d-rel"]
  reportTrials := oneTrialHeader.schedule.trials.map fun trial =>
    { trial with ordinal := 0, taskOrderIndex := 0, deviceCapability := .rtlSimulation }
  tasks_eq := by decide
  trials_eq := by decide
  schedule_valid := by decide
  schedule_digest := by decide
  task_mem := by decide
  route_mem := by decide
  profile_eq := by decide
  config_eq := by decide
  tier_eq := by decide

/-- Two units of work run at the same time; each settles with the largest number of turns. -/
def longWorkJournal : List CampaignEvent :=
  workJournal ++
  [{ eventId := 2, sequence := 2
     payload := .reservationCreated {
       reservationId := "r1", trialId := "trial_0", claim := turnResources 2 } },
   { eventId := 3, sequence := 3
     payload := .reservationDispatched { reservationId := "r1" } },
   { eventId := 4, sequence := 4
     payload := .workSettled {
       reservationId := "r0", actual := turnResources JCS_INTEGER_MAX } },
   { eventId := 5, sequence := 5
     payload := .workSettled {
       reservationId := "r1", actual := turnResources JCS_INTEGER_MAX } }]

/-- The turns of the trial exceed the JSON-safe integers, so it cannot be stopped. -/
theorem longWorkJournal_not_closing :
    ∃ state, replayCampaign oneTrialReport.toCampaignHeader longWorkJournal = .ok state ∧
      FreshIds (6 + ·) longWorkJournal ∧
      ¬ CampaignCloses oneTrialReport (6 + ·) "d-record" longWorkJournal state := by
  have hok : (replayCampaign oneTrialReport.toCampaignHeader longWorkJournal).isOk = true := by
    decide +kernel
  obtain ⟨state, hstate⟩ := Except.exists_of_isOk hok
  have hidle : (replayCampaign oneTrialReport.toCampaignHeader longWorkJournal).toOption.map
      (fun state => (state.reservations.isEmpty,
        oneTrialReport.schedule.trials.any state.unfinished)) = some (true, true) := by
    decide +kernel
  have hraises : (stopUnfinished oneTrialReport.toCampaignHeader (6 + ·) .explicitCancel
      longWorkJournal).isOk = false := by
    decide +kernel
  rw [hstate] at hidle
  simp only [Except.toOption, Option.map_some, Option.some.injEq, Prod.mk.injEq,
    List.any_eq_true] at hidle
  refine ⟨state, hstate, freshIds_from 6 (by decide), ?_⟩
  intro hcloses
  obtain ⟨requested, after, hstop, -⟩ :=
    hcloses.stops hidle.1 hidle.2 .explicitCancel (by decide)
  rw [hstop] at hraises
  cases hraises

/-- A crash during the first unit of work is closed. -/
theorem workJournal_closes :
    ∃ state, replayCampaign oneTrialReport.toCampaignHeader workJournal = .ok state ∧
      state.reservations.isEmpty = false ∧
      CampaignCloses oneTrialReport (2 + ·) "d-record" workJournal state := by
  have hok : (replayCampaign oneTrialReport.toCampaignHeader workJournal).isOk = true := by
    decide +kernel
  obtain ⟨state, hstate⟩ := Except.exists_of_isOk hok
  have hactive : (replayCampaign oneTrialReport.toCampaignHeader workJournal).toOption.map
      (fun state => (state.reservations.isEmpty,
        state.reservations.values.all fun active => active.provider.isNone)) =
      some (false, true) := by
    decide +kernel
  rw [hstate] at hactive
  simp only [Except.toOption, Option.map_some, Option.some.injEq, Prod.mk.injEq,
    List.all_eq_true] at hactive
  refine ⟨state, hstate, hactive.1,
    (campaign_closes_iff _ _ _ _ state hstate (freshIds_from 2 (by decide))).mpr ⟨?_, ?_, ?_⟩⟩
  · intro k active hget hdispatched hprovider
    have hnone := hactive.2 active (Dict.mem_values.mpr ⟨k, hget⟩)
    rw [Option.isNone_iff_eq_none.mp hnone] at hprovider
    cases hprovider
  · intro hempty
    rw [hactive.1] at hempty
    cases hempty
  · intro hempty
    rw [hactive.1] at hempty
    cases hempty

end Records

end EdaGym
