import EdaGym.Reporting.EvidenceSources

/-!
# Spend totals

Known amounts are added one report after the other in the decimal context, which keeps 28
significant digits and has no number from 10^1000000 on. A total is exact as long as every sum on
the way to it is a number of the context.
-/

namespace EdaGym

section Totals

variable [Canonical]

/-- What a trial is known to have spent in a currency. -/
def TrialReport.spent (currency : String) (report : TrialReport) : ℚ :=
  match report.outcome.providerSpend with
  | .known c amount _ => if c = currency then amount else 0
  | .unknown _ => 0

def spentIn (currency : String) (reports : List TrialReport) : ℚ :=
  (reports.map (TrialReport.spent currency)).sum

def TrialReport.spendsIn (currency : String) (report : TrialReport) : Prop :=
  ∃ amount, report.outcome.providerSpend.knownAmount = some (currency, amount)

/-- The amount a summary shows for a currency. -/
def SpendSummary.total (summary : SpendSummary) (currency : String) : ℚ :=
  ((summary.knownTotals.find? fun total => total.currency = currency).map
    fun total => (total.amount : ℚ)).getD 0

/-- One total for each known currency, the exact one, and every other report counted. -/
structure SpendSummary.Exact (summary : SpendSummary) (reports : List TrialReport) : Prop where
  currencies_nodup : (summary.knownTotals.map CurrencyTotal.currency).Nodup
  currencies : ∀ currency, currency ∈ summary.knownTotals.map CurrencyTotal.currency ↔
    ∃ report ∈ reports, report.spendsIn currency
  totals : ∀ total ∈ summary.knownTotals, (total.amount : ℚ) = spentIn total.currency reports
  unknown : summary.unknownTrialCount =
    reports.countP fun report => report.outcome.providerSpend.knownAmount = none

/-- Every part of the reports adds up to a number of the decimal context. -/
def SumsFit (reports : List TrialReport) : Prop :=
  ∀ part : List TrialReport, part.Subperm reports →
    ∀ currency, (decimalContext 28).IsNumber (spentIn currency part)

variable {reports part : List TrialReport} {currency : String}

lemma SumsFit.mono (h : SumsFit reports) (hpart : part.Subperm reports) : SumsFit part :=
  fun part' hpart' => h part' (hpart'.trans hpart)

lemma spentIn_eq_zero (h : ¬ ∃ report ∈ reports, report.spendsIn currency) :
    spentIn currency reports = 0 := by
  apply List.sum_eq_zero
  intro x hx
  obtain ⟨report, hreport, rfl⟩ := List.mem_map.mp hx
  have hno : ¬ report.spendsIn currency := fun hspends => h ⟨report, hreport, hspends⟩
  unfold TrialReport.spent
  split
  · rename_i c amount nonneg hspend
    rw [if_neg]
    rintro rfl
    exact hno ⟨⟨amount, nonneg⟩, by rw [hspend]; rfl⟩
  · rfl

lemma spentIn_perm {reports' : List TrialReport} (h : reports'.Perm reports) (currency : String) :
    spentIn currency reports' = spentIn currency reports :=
  (h.map _).sum_eq

/-! ### The running total -/

def knownAmounts (reports : List TrialReport) : List (String × { x : CanonicalDecimal // 0 ≤ x }) :=
  reports.filterMap fun report => report.outcome.providerSpend.knownAmount

/-- The amounts of a currency, in the order in which they are added. -/
def amountsIn (currency : String) (reports : List TrialReport) :
    List { x : CanonicalDecimal // 0 ≤ x } :=
  ((knownAmounts reports).filter fun spend => spend.1 = currency).map Prod.snd

/-- No addition is rounded. -/
def AddedExactly (amounts : List { x : CanonicalDecimal // 0 ≤ x }) : Prop :=
  ∀ pre amount post, amounts = pre ++ amount :: post →
    decimalAdd (pre.map Subtype.val).sum amount =
      .ok ((pre.map Subtype.val).sum + (amount : ℚ))

def knownCurrencies (reports : List TrialReport) : List String :=
  sortedStrings ((knownAmounts reports).map Prod.fst).dedup

omit [Canonical] in
lemma context_proper : (decimalContext 28).Proper :=
  FloatFormat.decimalContext_proper (by decide)

lemma mem_knownCurrencies :
    currency ∈ knownCurrencies reports ↔ ∃ report ∈ reports, report.spendsIn currency := by
  simp only [knownCurrencies, mem_sortedStrings, List.mem_dedup, List.mem_map, knownAmounts,
    List.mem_filterMap, TrialReport.spendsIn, Prod.exists]
  constructor
  · rintro ⟨_, amount, ⟨report, hreport, hspend⟩, rfl⟩
    exact ⟨report, hreport, amount, hspend⟩
  · rintro ⟨report, hreport, amount, hspend⟩
    exact ⟨currency, amount, ⟨report, hreport, hspend⟩, rfl⟩

lemma knownCurrencies_nodup : (knownCurrencies reports).Nodup :=
  (sortedStrings_perm _).nodup_iff.mpr (List.nodup_dedup _)

lemma amountsIn_append (reports reports' : List TrialReport) :
    amountsIn currency (reports ++ reports') =
      amountsIn currency reports ++ amountsIn currency reports' := by
  simp only [amountsIn, knownAmounts, List.filterMap_append, List.filter_append, List.map_append]

lemma sum_amountsIn (currency : String) (reports : List TrialReport) :
    ((amountsIn currency reports).map Subtype.val).sum = spentIn currency reports := by
  induction reports with
  | nil => rfl
  | cons report reports ih =>
    rw [← List.singleton_append, amountsIn_append, List.map_append, List.sum_append, ih, spentIn,
      spentIn, List.map_append, List.sum_append]
    congr 1
    cases hspend : report.outcome.providerSpend with
    | unknown reason =>
      simp [amountsIn, knownAmounts, SpendObservation.knownAmount, TrialReport.spent, hspend]
    | known c amount nonneg =>
      by_cases hc : c = currency <;>
        simp [amountsIn, knownAmounts, SpendObservation.knownAmount, TrialReport.spent, hspend, hc]

omit [Canonical] in
lemma foldSteps_decimalAdd_exact {amounts : List { x : CanonicalDecimal // 0 ≤ x }} {start : ℚ}
    (h : ∀ pre, pre <+: amounts →
      (decimalContext 28).IsNumber (start + (pre.map Subtype.val).sum)) :
    foldSteps decimalAdd start amounts = .ok (start + (amounts.map Subtype.val).sum) := by
  induction amounts generalizing start with
  | nil => simp
  | cons amount amounts ih =>
    have hnumber := h [amount] (by simp)
    rw [List.map_singleton, List.sum_singleton] at hnumber
    have hstep : decimalAdd start amount = .ok (start + amount) :=
      orRaise_eq_ok.mpr (hnumber.round context_proper)
    rw [foldSteps, hstep, ok_bind, ih, List.map_cons, List.sum_cons, add_assoc]
    intro pre hpre
    have := h (amount :: pre) (List.cons_prefix_cons.mpr ⟨rfl, hpre⟩)
    rwa [List.map_cons, List.sum_cons, ← add_assoc] at this

omit [Canonical] in
/-- What additions end in is a number of the context. -/
lemma isNumber_of_foldSteps {amounts : List { x : CanonicalDecimal // 0 ≤ x }} {total : ℚ}
    (h : foldSteps decimalAdd 0 amounts = .ok total) : (decimalContext 28).IsNumber total := by
  induction amounts using List.reverseRecOn with
  | nil =>
    cases h
    exact FloatFormat.isNumber_zero context_proper
  | append_singleton amounts amount _ =>
    obtain ⟨before, -, hlast⟩ := foldSteps_concat_eq_ok.mp h
    exact FloatFormat.isNumber_of_round context_proper (orRaise_eq_ok.mp hlast)

/-- The orders of the reports reach every sum of a part of them. -/
lemma sumsFit_iff_addedExactly : SumsFit reports ↔ ∀ reports' : List TrialReport,
    reports'.Perm reports → ∀ currency, AddedExactly (amountsIn currency reports') := by
  constructor
  · intro h reports' hperm currency pre amount post heq
    -- the amounts up to this one are those of a part
    have hpart : ∀ (rest : List TrialReport) pre, pre <+: amountsIn currency rest →
        ∃ part, part <+: rest ∧ amountsIn currency part = pre := by
      intro rest
      induction rest using List.reverseRecOn with
      | nil => exact fun pre hpre => ⟨[], List.prefix_rfl, (List.prefix_nil.mp hpre).symm⟩
      | append_singleton rest report ih =>
        intro pre hpre
        rw [amountsIn_append] at hpre
        by_cases hshort : pre <+: amountsIn currency rest
        · obtain ⟨part, hpart, hsame⟩ := ih pre hshort
          exact ⟨part, hpart.trans (List.prefix_append _ _), hsame⟩
        · refine ⟨rest ++ [report], List.prefix_rfl, ?_⟩
          rw [amountsIn_append]
          refine (hpre.eq_of_length_le ?_).symm
          have hone : (amountsIn currency [report]).length ≤ 1 := by
            rw [amountsIn, List.length_map]
            refine (List.length_filter_le _ _).trans ?_
            exact List.length_filterMap_le _ _
          have hlong : (amountsIn currency rest).length < pre.length := by
            by_contra hle
            exact hshort (List.prefix_of_prefix_length_le hpre (List.prefix_append _ _)
              (not_lt.mp hle))
          rw [List.length_append]
          omega
    obtain ⟨part, hinit, hsame⟩ := hpart reports' (pre ++ [amount]) ⟨post, by simp [heq]⟩
    have hnumber := h part (hinit.sublist.subperm.trans hperm.subperm) currency
    rw [← sum_amountsIn, hsame, List.map_append, List.sum_append, List.map_singleton,
      List.sum_singleton] at hnumber
    exact orRaise_eq_ok.mpr (hnumber.round context_proper)
  · intro h part hpart currency
    obtain ⟨rest, hperm⟩ : ∃ rest, (part ++ rest).Perm reports := by
      obtain ⟨l, hl, hsub⟩ := hpart
      obtain ⟨rest, hrest⟩ := hsub.exists_perm_append
      exact ⟨rest, (hl.symm.append_right rest).trans hrest.symm⟩
    have hadded := h (part ++ rest) hperm currency
    rw [amountsIn_append] at hadded
    rw [← sum_amountsIn]
    rcases List.eq_nil_or_concat (amountsIn currency part) with hnil | ⟨pre, amount, hlast⟩
    · rw [hnil]
      exact FloatFormat.isNumber_zero context_proper
    · rw [List.concat_eq_append] at hlast
      rw [hlast] at hadded ⊢
      have hstep := hadded pre amount (amountsIn currency rest) (by simp)
      rw [List.map_append, List.sum_append, List.map_singleton, List.sum_singleton]
      exact FloatFormat.isNumber_of_round context_proper (orRaise_eq_ok.mp hstep)

/-! ### The summary -/

lemma spentIn_nonneg (currency : String) (reports : List TrialReport) :
    0 ≤ spentIn currency reports := by
  rw [← sum_amountsIn]
  refine List.sum_nonneg fun x hx => ?_
  obtain ⟨amount, -, rfl⟩ := List.mem_map.mp hx
  exact amount.2

/-- The summary of exact totals. -/
def exactSummary (reports : List TrialReport) : SpendSummary where
  knownTotals := (knownCurrencies reports).map fun currency =>
    ⟨currency, ⟨spentIn currency reports, spentIn_nonneg currency reports⟩⟩
  unknownTrialCount := reports.countP fun report => report.outcome.providerSpend.knownAmount = none

lemma exactSummary_exact (reports : List TrialReport) : (exactSummary reports).Exact reports := by
  have hnames : (exactSummary reports).knownTotals.map CurrencyTotal.currency =
      knownCurrencies reports := by
    rw [exactSummary, List.map_map]
    exact List.map_id _
  refine ⟨hnames ▸ knownCurrencies_nodup, fun currency => ?_, fun total htotal => ?_, rfl⟩
  · rw [hnames]
    exact mem_knownCurrencies
  · obtain ⟨currency, -, rfl⟩ := List.mem_map.mp htotal
    rfl

lemma spendSummary_eq (h : SumsFit reports) :
    spendSummary reports = .ok (exactSummary reports) := by
  have htotal : ∀ currency ∈ knownCurrencies reports,
      currencyTotal (knownAmounts reports) currency =
        .ok ⟨currency, ⟨spentIn currency reports, spentIn_nonneg currency reports⟩⟩ := by
    intro currency _
    have hfold : foldSteps decimalAdd 0 (amountsIn currency reports) =
        .ok (spentIn currency reports) := by
      rw [foldSteps_decimalAdd_exact, zero_add, sum_amountsIn]
      intro pre hpre
      obtain ⟨post, hpost⟩ := hpre
      rw [zero_add]
      rcases List.eq_nil_or_concat pre with hnil | ⟨front, amount, hlast⟩
      · rw [hnil]
        exact FloatFormat.isNumber_zero context_proper
      · rw [List.concat_eq_append] at hlast
        have hstep := sumsFit_iff_addedExactly.mp h reports (List.Perm.refl _) currency front amount
          post (by rw [← hpost, hlast]; simp)
        rw [hlast, List.map_append, List.sum_append, List.map_singleton, List.sum_singleton]
        exact FloatFormat.isNumber_of_round context_proper (orRaise_eq_ok.mp hstep)
    unfold amountsIn at hfold
    simp only [currencyTotal, hfold, ok_bind, dif_pos (spentIn_nonneg currency reports)]
    rfl
  have hmap : (knownCurrencies reports).mapM (currencyTotal (knownAmounts reports)) =
      .ok (exactSummary reports).knownTotals :=
    mapM_eq_ok_iff.mpr (List.forall₂_map_right_iff.mpr (List.forall₂_same.mpr htotal))
  unfold knownCurrencies knownAmounts at hmap
  simp only [spendSummary, hmap, ok_bind]
  rfl

/-- The totals that a summary shows are numbers of the context. -/
lemma SpendSummary.Exact.isNumber {summary : SpendSummary}
    (hsummary : spendSummary reports = .ok summary) (h : summary.Exact reports)
    (currency : String) : (decimalContext 28).IsNumber (spentIn currency reports) := by
  by_cases hknown : ∃ report ∈ reports, report.spendsIn currency
  · obtain ⟨total, hmem, rfl⟩ := List.mem_map.mp ((h.currencies currency).mpr hknown)
    rw [← h.totals total hmem]
    simp only [spendSummary, bind_eq_ok, pure_eq_ok] at hsummary
    obtain ⟨totals, htotals, rfl⟩ := hsummary
    obtain ⟨i, hi, rfl⟩ := List.mem_iff_getElem.mp hmem
    have hpairs := mapM_eq_ok_iff.mp htotals
    have hcurrency := hpairs.get (hpairs.length_eq ▸ hi) hi
    rw [List.get_eq_getElem, List.get_eq_getElem] at hcurrency
    simp only [currencyTotal, bind_eq_ok] at hcurrency
    obtain ⟨amount, hamount, hreturn⟩ := hcurrency
    split_ifs at hreturn
    rw [pure_eq_ok] at hreturn
    rw [← hreturn]
    exact isNumber_of_foldSteps hamount
  · rw [spentIn_eq_zero hknown]
    exact FloatFormat.isNumber_zero context_proper

lemma SpendSummary.Exact.total_eq {summary : SpendSummary} (h : summary.Exact reports)
    (currency : String) : summary.total currency = spentIn currency reports := by
  unfold SpendSummary.total
  cases hfind : summary.knownTotals.find? fun total => total.currency = currency with
  | none =>
    rw [Option.map_none, Option.getD_none, spentIn_eq_zero]
    intro hknown
    obtain ⟨total, hmem, rfl⟩ := List.mem_map.mp ((h.currencies currency).mpr hknown)
    exact List.find?_eq_none.mp hfind _ hmem (decide_eq_true rfl)
  | some total =>
    have hcurrency : total.currency = currency := by simpa using List.find?_some hfind
    rw [Option.map_some, Option.getD_some, h.totals total (List.mem_of_find?_eq_some hfind),
      hcurrency]

lemma exactSummary_perm {reports' : List TrialReport} (hperm : reports'.Perm reports) :
    exactSummary reports' = exactSummary reports := by
  have hcurrencies : knownCurrencies reports' = knownCurrencies reports :=
    sortedStrings_eq_of_perm ((hperm.filterMap _).map _).dedup
  rw [exactSummary, exactSummary, SpendSummary.mk.injEq, hcurrencies]
  refine ⟨List.map_congr_left fun currency _ => ?_, hperm.countP_eq _⟩
  rw [CurrencyTotal.mk.injEq]
  exact ⟨rfl, Subtype.ext (spentIn_perm hperm currency)⟩

lemma spend_of_groupTotals {totals : GroupTotals} (h : groupTotals reports = .ok totals) :
    spendSummary reports = .ok totals.spend := by
  simp only [groupTotals, bind_eq_ok, pure_eq_ok] at h
  obtain ⟨_, -, _, -, spend, hspend, rfl⟩ := h
  exact hspend

/-- The totals of the tasks of a report add up to the total of the campaign. -/
lemma sum_taskAggregates [ScheduleCanonical] {header : ReportHeader} {report : CampaignReport}
    (h : Derived header report) (hfit : SumsFit report.trials) (currency : String) :
    (report.taskAggregates.map fun aggregate => aggregate.spend.total currency).sum =
      report.spend.total currency := by
  have hpartition := h.task_partition
  have hsum := sum_groups hpartition.keys_nodup hpartition.covers (TrialReport.spent currency)
  have htotal : report.spend = exactSummary report.trials :=
    Except.ok.inj ((spend_of_groupTotals h.totals).symm.trans (spendSummary_eq hfit))
  rw [htotal, (exactSummary_exact _).total_eq, spentIn, ← hsum, List.map_map]
  refine congrArg List.sum (List.map_congr_left fun aggregate haggregate => ?_)
  have hspend : aggregate.spend = _ := Except.ok.inj
    ((spend_of_groupTotals (hpartition.totals aggregate haggregate)).symm.trans
      (spendSummary_eq (hfit.mono (List.filter_sublist).subperm)))
  rw [hspend, (exactSummary_exact _).total_eq]
  rfl

/-- What is claimed of the summary of some reports. -/
structure SpendExact [ScheduleCanonical] (reports : List TrialReport) : Prop where
  summary : ∃ summary, spendSummary reports = .ok summary ∧ summary.Exact reports
  perm : ∀ reports', reports'.Perm reports → spendSummary reports' = spendSummary reports
  tasks : ∀ header recordDigest violation resources report,
    buildCampaignReport header reports recordDigest violation resources = .ok report →
    ∀ currency, (report.taskAggregates.map fun aggregate => aggregate.spend.total currency).sum =
      report.spend.total currency

/-- A summary is exact, in whatever order and split into tasks, when the sum of every part of the
reports is a number of the context. That is when no addition is rounded in any order of the reports,
and also when the summary of every part is exact. -/
theorem spendSummary_exact_iff [ScheduleCanonical] (reports : List TrialReport) :
    (SumsFit reports → SpendExact reports) ∧
    (SumsFit reports ↔ ∀ reports' : List TrialReport, reports'.Perm reports →
      ∀ currency, AddedExactly (amountsIn currency reports')) ∧
    (SumsFit reports ↔ ∀ part : List TrialReport, part.Subperm reports → SpendExact part) := by
  have hexact : ∀ part : List TrialReport, SumsFit part → SpendExact part := by
    intro part h
    refine ⟨⟨_, spendSummary_eq h, exactSummary_exact part⟩, fun reports' hperm => ?_, ?_⟩
    · rw [spendSummary_eq h, spendSummary_eq (h.mono hperm.subperm), exactSummary_perm hperm]
    · intro header recordDigest violation resources report hbuild
      have htrials := (buildCampaignReport_eq_ok hbuild).1
      exact sum_taskAggregates (derived_of_build hbuild) (htrials ▸ h)
  refine ⟨hexact reports, sumsFit_iff_addedExactly, fun h part hpart => hexact part (h.mono hpart),
    fun h part hpart => ?_⟩
  obtain ⟨summary, hsummary, hsummaryExact⟩ := (h part hpart).summary
  exact hsummaryExact.isNumber hsummary

/-- Amounts in multiples of one unit whose total has at most 28 digits. -/
lemma sumsFit_of_unit {place : ℤ} (hlow : (decimalContext 28).lowestPlace ≤ place)
    (hhigh : place + 28 ≤ (decimalContext 28).maxExponent + 1)
    (hunit : ∀ report ∈ reports, ∀ currency, ∃ n : ℕ, report.spent currency = n * (10 : ℚ) ^ place)
    (htotal : ∀ currency, spentIn currency reports < (10 : ℚ) ^ (place + 28)) :
    SumsFit reports := by
  intro part hpart currency
  have hle : spentIn currency part ≤ spentIn currency reports := by
    obtain ⟨l, hl, hsub⟩ := hpart
    rw [← spentIn_perm hl]
    refine (hsub.map _).sum_le_sum fun x hx => ?_
    obtain ⟨report, hreport, rfl⟩ := List.mem_map.mp hx
    obtain ⟨n, hn⟩ := hunit report hreport currency
    rw [hn]
    exact mul_nonneg (Nat.cast_nonneg n) (zpow_nonneg (by norm_num) _)
  have hcount : ∃ n : ℕ, spentIn currency part = n * (10 : ℚ) ^ place := by
    have hmem : ∀ report ∈ part, report ∈ reports := fun report hreport => hpart.subset hreport
    clear hpart hle
    induction part with
    | nil => exact ⟨0, by simp [spentIn]⟩
    | cons report part ih =>
      rw [List.forall_mem_cons] at hmem
      obtain ⟨m, hm⟩ := hunit report hmem.1 currency
      obtain ⟨n, hn⟩ := ih hmem.2
      refine ⟨m + n, ?_⟩
      rw [spentIn, List.map_cons, List.sum_cons, hm, ← spentIn, hn]
      push_cast
      ring
  obtain ⟨n, hn⟩ := hcount
  have hpos : (0 : ℚ) < (10 : ℚ) ^ place := zpow_pos (by norm_num) _
  have hlt := hle.trans_lt (htotal currency)
  refine ⟨⟨n, place, ?_, hlow, by rw [hn]; rfl⟩, ?_⟩
  · rw [hn, add_comm, zpow_add₀ (by norm_num)] at hlt
    have hdigits := lt_of_mul_lt_mul_right hlt hpos.le
    rw [Nat.abs_cast]
    exact_mod_cast hdigits
  · rw [abs_of_nonneg (spentIn_nonneg currency part)]
    exact hlt.trans_le (zpow_le_zpow_right₀ (by norm_num) hhigh)

end Totals

/-! ### Amounts that fit and an amount that is too long -/

section Amounts

local instance spendCanonical : Canonical := plainCanonical
local instance spendScheduleCanonical : ScheduleCanonical := plainScheduleCanonical

/-- One trial that failed before it ran, at some cost. -/
def soloSpend (spend : SpendObservation) : List TrialReport :=
  Release.soloReportTrials.map fun trial => {
    trial
    outcome := {
      disposition := .failedBeforeRun
      terminalReason := .infrastructureFailure
      providerSpend := spend }
    resources := turnResources 0
    tokenAccounting := {
      requestAttempts := 0, retryAttempts := 0, chargedInputTokens := 0, chargedOutputTokens := 0
      providerInputTokens := 0, providerOutputTokens := 0, unknownUsageAttempts := 0
      cachedInputTokens := 0, unknownCachedUsageAttempts := 0, reasoningTokens := 0
      unknownReasoningUsageAttempts := 0, retry_le := le_rfl, unknown_le := le_rfl
      unknown_cached_le := le_rfl, unknown_reasoning_le := le_rfl }
    providerAttempts := []
    accountingViolation := false }

lemma small_spends : (0 : CanonicalDecimal) ≤ 1 / 4 ∧ (0 : CanonicalDecimal) ≤ 3 / 4 ∧
    (0 : CanonicalDecimal) ≤ 2 := by norm_num

def smallSpend : List TrialReport :=
  soloSpend (.known "EUR" (1 / 4) small_spends.1) ++
    soloSpend (.known "USD" (3 / 4) small_spends.2.1) ++
    soloSpend (.known "EUR" 2 small_spends.2.2) ++
      soloSpend (.unknown .providerReportingUnavailable)

lemma smallSpend_spent : ∀ report ∈ smallSpend, ∀ currency,
    ∃ n : ℕ, report.spent currency = n / 4 ∧ n ≤ 8 := by
  intro report hreport currency
  have hspends : smallSpend.map (fun report => report.outcome.providerSpend) =
      [.known "EUR" (1 / 4) small_spends.1, .known "USD" (3 / 4) small_spends.2.1,
        .known "EUR" 2 small_spends.2.2, .unknown .providerReportingUnavailable] := by
    decide +kernel
  have hspend := List.mem_map_of_mem (f := fun report => report.outcome.providerSpend) hreport
  rw [hspends] at hspend
  have hcase : ∀ c (n : ℕ) nonneg, report.outcome.providerSpend = .known c (n / 4) nonneg → n ≤ 8 →
      ∃ n : ℕ, report.spent currency = n / 4 ∧ n ≤ 8 := by
    intro c n nonneg hknown hle
    rw [TrialReport.spent, hknown]
    dsimp only
    split_ifs
    · exact ⟨n, rfl, hle⟩
    · exact ⟨0, by simp, by decide⟩
  simp only [List.mem_cons, List.not_mem_nil, or_false] at hspend
  rcases hspend with hspend | hspend | hspend | hspend
  · exact hcase "EUR" 1 (by norm_num) (by simpa using hspend) (by decide)
  · exact hcase "USD" 3 (by norm_num) (by simpa using hspend) (by decide)
  · exact hcase "EUR" 8 (by norm_num) (by rw [hspend]; norm_num) (by decide)
  · exact ⟨0, by simp [TrialReport.spent, hspend], by decide⟩

/-- Amounts of a few cents fit. -/
theorem smallSpend_exact : SpendExact smallSpend := by
  refine (spendSummary_exact_iff smallSpend).1 (@sumsFit_of_unit _ _ (-2) (by decide) (by decide)
    ?_ ?_)
  · intro report hreport currency
    obtain ⟨n, hn, -⟩ := smallSpend_spent report hreport currency
    refine ⟨25 * n, ?_⟩
    rw [hn, zpow_neg]
    push_cast
    ring
  · intro currency
    have hle : spentIn currency smallSpend ≤ (smallSpend.map (TrialReport.spent currency)).length •
        (2 : ℚ) := by
      refine List.sum_le_card_nsmul _ _ fun x hx => ?_
      obtain ⟨report, hreport, rfl⟩ := List.mem_map.mp hx
      obtain ⟨n, hn, hbound⟩ := smallSpend_spent report hreport currency
      have : (n : ℚ) ≤ 8 := by exact_mod_cast hbound
      rw [hn]
      linarith
    have hlength : (smallSpend.map (TrialReport.spent currency)).length = 4 := by
      rw [List.length_map]
      decide +kernel
    rw [hlength] at hle
    refine hle.trans_lt ?_
    norm_num

def longSpend : List TrialReport := soloSpend (.known "EUR" (10 ^ 28 + 1) (by norm_num))

theorem longSpend_rounded :
    (spendSummary longSpend).map (fun summary => summary.total "EUR") = .ok (10 ^ 28) ∧
      spentIn "EUR" longSpend = 10 ^ 28 + 1 ∧ ¬ SpendExact longSpend := by
  have htotal : (spendSummary longSpend).map (fun summary => summary.total "EUR") =
      .ok (10 ^ 28) := by
    decide +kernel
  have hspent : spentIn "EUR" longSpend = 10 ^ 28 + 1 := by decide +kernel
  refine ⟨htotal, hspent, fun h => ?_⟩
  obtain ⟨summary, hsummary, hexact⟩ := h.summary
  have hshown := hexact.total_eq "EUR"
  rw [hsummary, Except.map, Except.ok.injEq, hshown, hspent] at htotal
  norm_num at htotal

end Amounts

end EdaGym
