import EdaGym.Evaluation.Dominance
import EdaGym.Evaluation.Topology
import EdaGym.Lib.RoundingLaws
import Mathlib.Algebra.Order.BigOperators.Group.List

/-!
# Laws of aggregation and scoring

An aggregate depends on the ordered samples only. Ordering keeps a pointwise bound between two lists
of samples and rounding keeps the order of its arguments, so the aggregates that are monotone in the
ordered samples are monotone in the samples. The rounding of a mean or of a score is the exact one
as long as the number fits the exponents of its context.
-/

namespace EdaGym

/-! ### Ordered samples -/

section Sorting

variable {α : Type*} [LinearOrder α] {xs ys : List α}

lemma forall₂_orderedInsert (h : List.Forall₂ (· ≤ ·) xs ys)
    (hxs : xs.Pairwise (· ≤ ·)) (hys : ys.Pairwise (· ≤ ·)) {a b : α} (hab : a ≤ b) :
    List.Forall₂ (· ≤ ·) (xs.orderedInsert (· ≤ ·) a) (ys.orderedInsert (· ≤ ·) b) := by
  induction h generalizing a b with
  | nil => exact .cons hab .nil
  | @cons x y xs ys hxy hrest ih =>
    have hx := List.pairwise_cons.mp hxs
    have hy := List.pairwise_cons.mp hys
    have hself : ∀ {z : α} {zs : List α}, (z :: zs).Pairwise (· ≤ ·) →
        z :: zs = zs.orderedInsert (· ≤ ·) z := by
      intro z zs hzs
      cases zs with
      | nil => rfl
      | cons w zs =>
          rw [List.orderedInsert_cons_of_le _ _ ((List.pairwise_cons.mp hzs).1 w (by simp))]
    by_cases hax : a ≤ x
    · rw [List.orderedInsert_cons_of_le _ _ hax]
      by_cases hby : b ≤ y
      · rw [List.orderedInsert_cons_of_le _ _ hby]
        exact .cons hab (.cons hxy hrest)
      · rw [List.orderedInsert_of_not_le _ _ hby, hself hxs]
        exact .cons (hax.trans hxy) (ih hx.2 hy.2 (hxy.trans (not_le.mp hby).le))
    · rw [List.orderedInsert_of_not_le _ _ hax]
      by_cases hby : b ≤ y
      · rw [List.orderedInsert_cons_of_le _ _ hby, hself hys]
        exact .cons ((not_le.mp hax).le.trans hab) (ih hx.2 hy.2 (hab.trans hby))
      · rw [List.orderedInsert_of_not_le _ _ hby]
        exact .cons hxy (ih hx.2 hy.2 hab)

/-- The order statistics are monotone in the list. -/
lemma forall₂_insertionSort (h : List.Forall₂ (· ≤ ·) xs ys) :
    List.Forall₂ (· ≤ ·) (xs.insertionSort (· ≤ ·)) (ys.insertionSort (· ≤ ·)) := by
  induction h with
  | nil => exact .nil
  | cons hxy _ ih =>
    exact forall₂_orderedInsert ih (List.pairwise_insertionSort _ _)
      (List.pairwise_insertionSort _ _) hxy

lemma insertionSort_eq_of_perm (h : xs.Perm ys) :
    xs.insertionSort (· ≤ ·) = ys.insertionSort (· ≤ ·) := by
  refine @List.Perm.eq_of_pairwise _ (· ≤ ·) _ _ ?_ (List.pairwise_insertionSort _ _)
    (List.pairwise_insertionSort _ _) ?_
  · intro a b _ _ hab hba
    exact le_antisymm hab hba
  · exact (List.perm_insertionSort _ xs).trans (h.trans (List.perm_insertionSort _ ys).symm)

lemma forall₂_getD (h : List.Forall₂ (· ≤ ·) xs ys) {d e : α} (hde : d ≤ e)
    (n : Nat) : xs.getD n d ≤ ys.getD n e := by
  induction h generalizing n with
  | nil => simpa using hde
  | cons hxy _ ih =>
    cases n with
    | zero => simpa using hxy
    | succ n => simpa using ih n

omit [LinearOrder α] in
lemma getLastD_eq_getD {xs : List α} (d : α) : xs.getLastD d = xs.getD (xs.length - 1) d := by
  rw [List.getLastD_eq_getLast?, List.getLast?_eq_getElem?, List.getD_eq_getElem?_getD]

omit [LinearOrder α] in
lemma getD_mem {xs : List α} {n : Nat} (h : n < xs.length) (d : α) : xs.getD n d ∈ xs := by
  rw [List.getD_eq_getElem?_getD, List.getElem?_eq_getElem h]
  exact List.getElem_mem h

/-- The last of an ordered list is a greatest one. -/
lemma le_getLastD {xs : List α} (h : xs.Pairwise (· ≤ ·)) {x : α} (hx : x ∈ xs) (d : α) :
    x ≤ xs.getLastD d := by
  induction xs using List.reverseRecOn with
  | nil => cases hx
  | append_singleton xs y _ =>
    rw [List.getLastD_concat]
    rcases List.mem_append.mp hx with hx | hx
    · exact (List.pairwise_append.mp h).2.2 x hx y (by simp)
    · exact (List.mem_singleton.mp hx).le

end Sorting

/-! ### Aggregates -/

lemma farthestFrom_spec (target best : ℚ) (vs : List ℚ) :
    farthestFrom target best vs ∈ best :: vs ∧
      ∀ v ∈ best :: vs, |v - target| ≤ |farthestFrom target best vs - target| := by
  induction vs generalizing best with
  | nil => simp [farthestFrom]
  | cons v vs ih =>
    unfold farthestFrom
    split_ifs with hfarther
    · obtain ⟨hmem, hfar⟩ := ih v
      refine ⟨List.mem_cons_of_mem _ hmem, List.forall_mem_cons.mpr ⟨?_, hfar⟩⟩
      exact (hfarther.elim le_of_lt fun h => h.1.le).trans (hfar v (by simp))
    · obtain ⟨hmem, hfar⟩ := ih best
      rw [not_or, not_lt] at hfarther
      rw [List.forall_mem_cons] at hfar
      refine ⟨?_, List.forall_mem_cons.mpr ⟨hfar.1, List.forall_mem_cons.mpr ⟨?_, hfar.2⟩⟩⟩
      · rcases List.mem_cons.mp hmem with heq | hmem
        · rw [heq]
          exact List.mem_cons_self
        · exact List.mem_cons_of_mem _ (List.mem_cons_of_mem _ hmem)
      · exact hfarther.1.trans hfar.1

/-- The number an aggregation stands for, before it is rounded. -/
def exactAggregate (specification : MeasurementSpec) (ordered : List ℚ) (least : ℚ) : ℚ :=
  match specification.aggregation with
  | .minimum => least
  | .maximum => ordered.getLastD least
  | .mean => ordered.sum / ordered.length
  | .median =>
    if ordered.length % 2 = 1 then ordered.getD (ordered.length / 2) least
    else (ordered.getD (ordered.length / 2 - 1) least + ordered.getD (ordered.length / 2) least) / 2
  | .worst =>
    match specification.direction with
    | .minimize => ordered.getLastD least
    | .target => farthestFrom (specification.target.getD 0) least ordered.tail
    | _ => least

/-- The aggregates that a mean of samples has to be rounded for. -/
def RoundsMean (specification : MeasurementSpec) : Prop :=
  specification.aggregation = .mean ∨
    specification.aggregation = .median ∧ specification.repetitions % 2 = 0

instance (specification : MeasurementSpec) : Decidable (RoundsMean specification) :=
  inferInstanceAs (Decidable (_ ∨ _))

def aggregate (specification : MeasurementSpec) (ordered : List ℚ) (least : ℚ) :
    Except String CanonicalDecimal :=
  if RoundsMean specification then
    roundedFraction (exactAggregate specification ordered least)
      specification.aggregationPrecisionDigits
  else .ok (exactAggregate specification ordered least)

/-- The number that samples in any order stand for. -/
def exactValue (specification : MeasurementSpec) (samples : List CanonicalDecimal) : ℚ :=
  let ordered := samples.insertionSort (· ≤ ·)
  exactAggregate specification ordered (ordered.headD 0)

lemma roundedFraction_eq_ok {value rounded : ℚ} {p : Nat} :
    roundedFraction value p = .ok rounded ↔ (decimalContext p).round value = some rounded := by
  unfold roundedFraction orRaise
  split <;> simp_all

lemma roundedFraction_exact_iff {value : ℚ} {p : Nat} (hp : 0 < p) :
    roundedFraction value p = .ok (roundSignificant 10 p value) ↔ (decimalContext p).Fits value :=
  roundedFraction_eq_ok.trans
    (FloatFormat.round_eq_significant_iff_fits (FloatFormat.decimalContext_proper hp)
      (show Even 10 by decide))

lemma roundedFraction_mono {x y x' y' : ℚ} {p : Nat} (hp : 0 < p)
    (hx : roundedFraction x p = .ok x') (hy : roundedFraction y p = .ok y') (h : x ≤ y) :
    x' ≤ y' := by
  have hproper := FloatFormat.decimalContext_proper hp
  obtain ⟨rfl, -⟩ := (FloatFormat.round_eq_some_iff hproper).mp (roundedFraction_eq_ok.mp hx)
  obtain ⟨rfl, -⟩ := (FloatFormat.round_eq_some_iff hproper).mp (roundedFraction_eq_ok.mp hy)
  exact FloatFormat.rounded_mono hproper h

variable {spec : MeasurementSpec} {samples samples' : List CanonicalDecimal}

lemma aggregateSamples_eq (hlength : samples.length = spec.repetitions) {least : ℚ} {rest : List ℚ}
    (hsorted : samples.insertionSort (· ≤ ·) = least :: rest) :
    aggregateSamples spec samples = aggregate spec (least :: rest) least := by
  have hordered : (least :: rest).length = spec.repetitions := by
    rw [← hsorted, (List.perm_insertionSort _ _).length_eq, hlength]
  simp only [aggregateSamples, raiseIf, hlength, ne_eq, not_true_eq_false, if_false, ok_bind,
    hsorted, aggregate, RoundsMean, exactAggregate, ← hordered]
  cases haggregation : spec.aggregation with
  | minimum => rfl
  | maximum => rfl
  | mean => rfl
  | median =>
    rcases Nat.mod_two_eq_zero_or_one (least :: rest).length with heven | hodd
    · simp only [heven, Nat.zero_ne_one, reduceCtorEq, if_false, if_true, true_and, or_true]
    · simp only [hodd, Nat.one_ne_zero, reduceCtorEq, if_false, if_true, and_false, or_false]
      rfl
  | worst =>
    cases hdirection : spec.direction with
    | minimize => rfl
    | maximize => rfl
    | none => exact absurd hdirection (spec.worst_objective haggregation)
    | target =>
      obtain ⟨target, htarget⟩ := Option.isSome_iff_exists.mp (spec.target_iff.mp hdirection)
      simp [htarget, pure, Except.pure]

lemma aggregateSamples_perm (h : samples'.Perm samples) :
    aggregateSamples spec samples' = aggregateSamples spec samples := by
  unfold aggregateSamples
  rw [insertionSort_eq_of_perm h, h.length_eq]

section Ordered

variable {ordered : List ℚ} {least : ℚ} {rest : List ℚ}

/-- The exact aggregate lies between the smallest and the largest sample. -/
lemma exactAggregate_between (hsorted : (least :: rest).Pairwise (· ≤ ·)) :
    least ≤ exactAggregate spec (least :: rest) least ∧
      exactAggregate spec (least :: rest) least ≤ (least :: rest).getLastD least := by
  have hleast : ∀ v ∈ least :: rest, least ≤ v :=
    List.forall_mem_cons.mpr ⟨le_rfl, (List.pairwise_cons.mp hsorted).1⟩
  have hgreatest : ∀ v ∈ least :: rest, v ≤ (least :: rest).getLastD least :=
    fun v hv => le_getLastD hsorted hv least
  have hbetween : ∀ v ∈ least :: rest,
      least ≤ v ∧ v ≤ (least :: rest).getLastD least := fun v hv => ⟨hleast v hv, hgreatest v hv⟩
  have hlast := hleast ((least :: rest).getLastD least) (by
    rw [getLastD_eq_getD]
    exact getD_mem (Nat.sub_lt (List.length_pos_of_ne_nil (by simp)) Nat.one_pos) least)
  have hpos : (0 : ℚ) < (least :: rest).length := by simp; positivity
  have hget : ∀ n < (least :: rest).length, least ≤ (least :: rest).getD n least ∧
      (least :: rest).getD n least ≤ (least :: rest).getLastD least :=
    fun n hn => hbetween _ (getD_mem hn least)
  unfold exactAggregate
  cases spec.aggregation with
  | minimum => exact ⟨le_rfl, hgreatest least (by simp)⟩
  | maximum => exact ⟨hlast, le_rfl⟩
  | mean =>
    have hlow := List.card_nsmul_le_sum _ _ hleast
    have hhigh := List.sum_le_card_nsmul _ _ hgreatest
    rw [nsmul_eq_mul] at hlow hhigh
    exact ⟨(le_div_iff₀' hpos).mpr hlow, (div_le_iff₀' hpos).mpr hhigh⟩
  | median =>
    have hlt : (least :: rest).length / 2 < (least :: rest).length :=
      Nat.div_lt_self (Nat.succ_pos _) (by simp)
    dsimp only
    split_ifs
    · exact hget _ hlt
    · have hmid := hget _ hlt
      have hbelow := hget _ ((Nat.sub_le _ 1).trans_lt hlt)
      constructor <;> linarith
  | worst =>
    cases spec.direction with
    | minimize => exact ⟨hlast, le_rfl⟩
    | target => exact hbetween _ (farthestFrom_spec _ _ _).1
    | _ => exact ⟨le_rfl, hgreatest least (by simp)⟩

/-- The aggregations that are monotone in every sample. -/
def MonotoneAggregation (spec : MeasurementSpec) : Prop :=
  spec.aggregation = .worst → spec.direction ≠ .target

lemma exactAggregate_mono (hmono : MonotoneAggregation spec) {ordered' : List ℚ} {least' : ℚ}
    (h : List.Forall₂ (· ≤ ·) ordered ordered') (hleast : least ≤ least') :
    exactAggregate spec ordered least ≤ exactAggregate spec ordered' least' := by
  have hlength := h.length_eq
  have hlast : ordered.getLastD least ≤ ordered'.getLastD least' := by
    rw [getLastD_eq_getD, getLastD_eq_getD, hlength]
    exact forall₂_getD h hleast _
  unfold exactAggregate
  cases haggregation : spec.aggregation with
  | minimum => exact hleast
  | maximum => exact hlast
  | mean =>
    dsimp only
    rw [hlength]
    exact div_le_div_of_nonneg_right h.sum_le_sum (Nat.cast_nonneg _)
  | median =>
    dsimp only
    rw [hlength]
    split_ifs
    · exact forall₂_getD h hleast _
    · have hbelow := forall₂_getD h hleast (ordered'.length / 2 - 1)
      have hmid := forall₂_getD h hleast (ordered'.length / 2)
      linarith
  | worst =>
    cases hdirection : spec.direction with
    | minimize => exact hlast
    | target => exact absurd hdirection (hmono haggregation)
    | _ => exact hleast

end Ordered

/-- What an aggregation does with samples: their order makes no difference, and the value is between
the smallest and the largest one up to the rounding, monotone in them and none better than the
worst. -/
structure AggregationLaws (spec : MeasurementSpec) (samples : List CanonicalDecimal) : Prop where
  perm : ∀ samples', samples'.Perm samples →
    aggregateSamples spec samples' = aggregateSamples spec samples
  value : ∃ value, aggregateSamples spec samples = .ok value ∧
    (∃ smallest ∈ samples, ∃ largest ∈ samples, ∃ exact,
      (∀ t ∈ samples, smallest ≤ t ∧ t ≤ largest) ∧ smallest ≤ exact ∧ exact ≤ largest ∧
      (¬ RoundsMean spec → value = exact) ∧
      (RoundsMean spec → value = roundSignificant 10 spec.aggregationPrecisionDigits exact) ∧
      (spec.aggregation = .mean → exact = samples.sum / samples.length) ∧
      (spec.aggregation = .median → ∀ n, samples.length = 2 * n →
        exact = ((samples.insertionSort (· ≤ ·)).getD (n - 1) smallest +
          (samples.insertionSort (· ≤ ·)).getD n smallest) / 2)) ∧
    (MonotoneAggregation spec → ∀ samples' value', List.Forall₂ (· ≤ ·) samples samples' →
      aggregateSamples spec samples' = .ok value' → value ≤ value') ∧
    (spec.aggregation = .worst → value ∈ samples ∧ ∀ t ∈ samples, ∃ comparison,
      objectiveComparison spec value t = .ok comparison ∧ comparison ≤ 0)

/-- The samples that an aggregation returns a value for that is rounded to the declared digits. -/
lemma aggregate_fits {least : ℚ} {rest : List ℚ}
    (hfits : RoundsMean spec → (decimalContext spec.aggregationPrecisionDigits).Fits
      (exactAggregate spec (least :: rest) least)) :
    ∃ value, aggregate spec (least :: rest) least = .ok value ∧
      (¬ RoundsMean spec → value = exactAggregate spec (least :: rest) least) ∧
      (RoundsMean spec → value = roundSignificant 10 spec.aggregationPrecisionDigits
        (exactAggregate spec (least :: rest) least)) := by
  by_cases hrounds : RoundsMean spec
  · refine ⟨_, ?_, fun h => absurd hrounds h, fun _ => rfl⟩
    rw [aggregate, if_pos hrounds]
    exact (roundedFraction_exact_iff spec.precision_bound.1).mpr (hfits hrounds)
  · exact ⟨_, if_neg hrounds, fun _ => rfl, fun h => absurd h hrounds⟩

lemma aggregate_mono (hmono : MonotoneAggregation spec) {ordered ordered' : List ℚ}
    {least least' value value' : ℚ} (h : List.Forall₂ (· ≤ ·) ordered ordered')
    (hleast : least ≤ least') (hvalue : aggregate spec ordered least = .ok value)
    (hvalue' : aggregate spec ordered' least' = .ok value') : value ≤ value' := by
  have hexact := exactAggregate_mono hmono h hleast
  unfold aggregate at hvalue hvalue'
  split_ifs at hvalue hvalue' with hrounds
  · exact roundedFraction_mono spec.precision_bound.1 hvalue hvalue' hexact
  · cases hvalue
    cases hvalue'
    exact hexact

/-- The sample that `worst` returns is no better than another. -/
lemma aggregate_worst (hworst : spec.aggregation = .worst) {least : ℚ} {rest : List ℚ}
    (hpairwise : (least :: rest).Pairwise (· ≤ ·)) :
    exactAggregate spec (least :: rest) least ∈ least :: rest ∧ ∀ t ∈ least :: rest,
      spec.objective (exactAggregate spec (least :: rest) least) ≤ spec.objective t := by
  have hlast : (least :: rest).getLastD least ∈ least :: rest := by
    rw [getLastD_eq_getD]
    exact getD_mem (Nat.sub_lt (List.length_pos_of_ne_nil (by simp)) Nat.one_pos) least
  rw [exactAggregate, hworst]
  unfold MeasurementSpec.objective
  cases hdirection : spec.direction with
  | minimize => exact ⟨hlast, fun t ht => neg_le_neg (le_getLastD hpairwise ht least)⟩
  | maximize =>
    exact ⟨by simp, List.forall_mem_cons.mpr ⟨le_rfl, (List.pairwise_cons.mp hpairwise).1⟩⟩
  | target =>
    obtain ⟨hmem, hfar⟩ := farthestFrom_spec (spec.target.getD 0) least rest
    exact ⟨hmem, fun t ht => neg_le_neg (hfar t ht)⟩
  | none => exact absurd hdirection (spec.worst_objective hworst)

/-- The laws hold of the samples whose mean fits the context it is rounded in. -/
theorem aggregateSamples_laws (spec : MeasurementSpec) (samples : List CanonicalDecimal)
    (hlength : samples.length = spec.repetitions) :
    AggregationLaws spec samples ↔ (RoundsMean spec →
      (decimalContext spec.aggregationPrecisionDigits).Fits (exactValue spec samples)) := by
  obtain ⟨least, rest, hsorted⟩ := exists_ordered hlength
  have hperm : (least :: rest).Perm samples := hsorted ▸ List.perm_insertionSort (· ≤ ·) samples
  have hpairwise : (least :: rest).Pairwise (· ≤ ·) :=
    hsorted ▸ List.pairwise_insertionSort (· ≤ ·) samples
  have hexact : exactValue spec samples = exactAggregate spec (least :: rest) least := by
    rw [exactValue, hsorted, List.headD_cons]
  have hlast : (least :: rest).getLastD least ∈ least :: rest := by
    rw [getLastD_eq_getD]
    exact getD_mem (Nat.sub_lt (List.length_pos_of_ne_nil (by simp)) Nat.one_pos) least
  have hmean : spec.aggregation = .mean →
      exactAggregate spec (least :: rest) least = samples.sum / samples.length := by
    intro hmean
    rw [exactAggregate, hmean, ← hperm.sum_eq, ← hperm.length_eq]
  have hmedian : ∀ smallest, spec.aggregation = .median → ∀ n, samples.length = 2 * n →
      exactAggregate spec (least :: rest) least =
        ((samples.insertionSort (· ≤ ·)).getD (n - 1) smallest +
          (samples.insertionSort (· ≤ ·)).getD n smallest) / 2 := by
    intro smallest hmedian n hn
    have hlen : (least :: rest).length = 2 * n := hperm.length_eq.trans hn
    have hpos : 0 < n := by
      rw [List.length_cons] at hlen
      omega
    have hget : ∀ i < (least :: rest).length,
        (least :: rest).getD i smallest = (least :: rest).getD i least := fun i hi => by
      rw [List.getD_eq_getElem?_getD, List.getD_eq_getElem?_getD, List.getElem?_eq_getElem hi,
        Option.getD_some, Option.getD_some]
    rw [exactAggregate, hmedian, hsorted, hget _ (by omega), hget _ (by omega)]
    simp only
    rw [if_neg (by omega), hlen, Nat.mul_div_cancel_left n two_pos]
  rw [hexact]
  refine ⟨fun h hrounds => ?_, fun hfits => ⟨fun samples' => aggregateSamples_perm, ?_⟩⟩
  · obtain ⟨value, hvalue, ⟨smallest, -, -, -, exact, -, -, -, -, hrounded, hmean', hmedian'⟩, -⟩ :=
      h.value
    have hsame : exact = exactAggregate spec (least :: rest) least := by
      rcases hrounds with haggregation | ⟨haggregation, heven⟩
      · rw [hmean haggregation, hmean' haggregation]
      · obtain ⟨n, hn⟩ := Nat.dvd_of_mod_eq_zero (hlength ▸ heven)
        rw [hmedian smallest haggregation n hn, hmedian' haggregation n hn]
    rw [aggregateSamples_eq hlength hsorted, aggregate, if_pos hrounds, hrounded hrounds, hsame,
      roundedFraction_exact_iff spec.precision_bound.1] at hvalue
    exact hvalue
  · obtain ⟨value, hvalue, hplain, hrounded⟩ := aggregate_fits hfits
    obtain ⟨hlow, hhigh⟩ := exactAggregate_between hpairwise
    refine ⟨value, (aggregateSamples_eq hlength hsorted).trans hvalue, ?_, ?_, ?_⟩
    · refine ⟨least, hperm.mem_iff.mp (by simp), _, hperm.mem_iff.mp hlast, _, fun t ht => ?_, hlow,
        hhigh, hplain, hrounded, hmean, hmedian least⟩
      have hmem := hperm.mem_iff.mpr ht
      exact ⟨(List.mem_cons.mp hmem).elim (fun h => h.ge) fun h =>
        (List.pairwise_cons.mp hpairwise).1 t h, le_getLastD hpairwise hmem least⟩
    · intro hmono samples' value' hle hvalue'
      have hlength' : samples'.length = spec.repetitions := hle.length_eq.symm.trans hlength
      obtain ⟨least', rest', hsorted'⟩ := exists_ordered hlength'
      rw [aggregateSamples_eq hlength' hsorted'] at hvalue'
      have hordered := forall₂_insertionSort hle
      rw [hsorted, hsorted'] at hordered
      exact aggregate_mono hmono hordered (List.forall₂_cons.mp hordered).1 hvalue hvalue'
    · intro hworst
      obtain ⟨hmem, hleast⟩ := aggregate_worst hworst hpairwise
      rw [hplain (by simp [RoundsMean, hworst])]
      refine ⟨hperm.mem_iff.mp hmem,
        fun t ht => ⟨_, objectiveComparison_eq (spec.worst_objective hworst) _ _, ?_⟩⟩
      rw [← not_lt]
      exact fun hbetter => absurd (compareValues_pos.mp hbetter)
        (not_lt.mpr (hleast t (hperm.mem_iff.mpr ht)))

/-- Two equally frequent delays, of which the mean is taken. -/
def delaySpec : MeasurementSpec where
  measurementId := "delay"
  producerStageId := "gate"
  unit := .nanosecond
  libraryId := "pdk"
  libraryDigest := "d-pdk"
  corner := "tt"
  mode := "func"
  direction := .minimize
  repetitions := 2
  aggregation := .mean

lemma fits_of_digits {p : Nat} (hp : 0 < p) {x : ℚ} (hone : 1 ≤ x) (hlt : x < 10) :
    (decimalContext p).Fits x := by
  refine FloatFormat.fits_of_one_le (FloatFormat.decimalContext_proper hp)
    (hone.trans (le_abs_self x)) ?_
  rw [abs_of_pos (zero_lt_one.trans_le hone)]
  calc x < (10 : ℚ) ^ (1 : ℤ) := by rwa [zpow_one]
    _ ≤ (10 : ℚ) ^ (999999 : ℤ) := zpow_le_zpow_right₀ (by norm_num) (by decide)

lemma roundedFraction_overflow {p : Nat} (hp : 0 < p) {x : ℚ}
    (h : (10 : ℚ) ^ (1000000 : ℤ) ≤ x) : roundedFraction x p = .error DECIMAL_OVERFLOW := by
  have hnone : (decimalContext p).round x = none :=
    FloatFormat.round_eq_none (FloatFormat.decimalContext_proper hp) (h.trans (le_abs_self x))
  rw [roundedFraction, hnone]
  rfl

theorem aggregateSamples_delay :
    [(1 : CanonicalDecimal), 2].length = delaySpec.repetitions ∧ AggregationLaws delaySpec [1, 2] :=
  ⟨rfl, (aggregateSamples_laws delaySpec [1, 2] rfl).mpr fun _ => by
    have hvalue : exactValue delaySpec [1, 2] = 3 / 2 := by decide +kernel
    rw [hvalue]
    exact fits_of_digits (by decide) (by norm_num) (by norm_num)⟩

/-- The mean of two equal samples that the context is too small for. -/
theorem aggregateSamples_huge :
    aggregateSamples delaySpec [(10 : ℚ) ^ (1000000 : ℤ), (10 : ℚ) ^ (1000000 : ℤ)] =
        .error DECIMAL_OVERFLOW ∧
      ¬ AggregationLaws delaySpec [(10 : ℚ) ^ (1000000 : ℤ), (10 : ℚ) ^ (1000000 : ℤ)] := by
  have hoverflow := @roundedFraction_overflow delaySpec.aggregationPrecisionDigits (by decide)
    _ le_rfl
  generalize (10 : ℚ) ^ (1000000 : ℤ) = x at hoverflow ⊢
  have hsorted : [x, x].insertionSort (· ≤ ·) = x :: [x] := by
    rw [List.insertionSort_cons, List.insertionSort_cons, List.insertionSort_nil,
      List.orderedInsert_nil, List.orderedInsert_cons_of_le _ _ le_rfl]
  have hmean : exactAggregate delaySpec (x :: [x]) x = x := by
    change (x + (x + 0)) / ((2 : ℕ) : ℚ) = x
    push_cast
    ring
  have herror : aggregateSamples delaySpec [x, x] = .error DECIMAL_OVERFLOW := by
    rw [aggregateSamples_eq rfl hsorted, aggregate, if_pos (.inl rfl), hmean, hoverflow]
  refine ⟨herror, fun h => ?_⟩
  obtain ⟨value, hvalue, -⟩ := h.value
  rw [herror] at hvalue
  cases hvalue

/-! ### Scores -/

section Score

variable {task : TaskSpec} {scorer : ScorerRef} {measurements : List AggregatedMeasurement}

/-- The value a vector has for a measurement. -/
def valueOf (measurements : List AggregatedMeasurement) (id : Identifier) : ℚ :=
  ((scoreValues measurements).get? id).getD 0

def exactScore (scorer : ScorerRef) (measurements : List AggregatedMeasurement) : ℚ :=
  scorer.intercept +
    (scorer.terms.map fun term => term.coefficient * valueOf measurements term.measurementId).sum

def roundedScore (scorer : ScorerRef) (measurements : List AggregatedMeasurement) : ℚ :=
  roundSignificant 10 scorer.precisionDigits (exactScore scorer measurements)

lemma foldSteps_weightedTerm {terms : List ScorerTerm} (total : ℚ)
    (hterms : ∀ term ∈ terms, term.measurementId ∈ scoreValues measurements) :
    foldSteps (weightedTerm (scoreValues measurements)) total terms =
      .ok (total +
        (terms.map fun term =>
          term.coefficient * valueOf measurements term.measurementId).sum) := by
  induction terms generalizing total with
  | nil => simp [foldSteps]
  | cons term terms ih =>
    rw [List.forall_mem_cons] at hterms
    obtain ⟨value, hvalue⟩ := Dict.mem_iff.mp hterms.1
    simp only [foldSteps, weightedTerm, hvalue, orRaise, ok_bind]
    refine (ih _ hterms.2).trans ?_
    rw [List.map_cons, List.sum_cons, valueOf, hvalue, Option.getD_some, add_assoc]

/-- Every term of the scorer of a task has a value in a vector that follows its schema. -/
lemma terms_mem_scoreValues (hscorer : task.evaluation.scorer = some scorer)
    (hids : measurements.map AggregatedMeasurement.measurementId =
      task.measurements.map MeasurementSpec.measurementId) :
    ∀ term ∈ scorer.terms, term.measurementId ∈ scoreValues measurements := by
  intro term hterm
  rw [scoreValues, Dict.mem_ofList, List.map_map, Function.comp_def, hids]
  exact task.checked.terms scorer hscorer term hterm

lemma exactScore_mono {measurements' : List AggregatedMeasurement}
    (h : ∀ term ∈ scorer.terms, 0 ≤ term.coefficient *
      (valueOf measurements' term.measurementId - valueOf measurements term.measurementId)) :
    exactScore scorer measurements ≤ exactScore scorer measurements' := by
  refine add_le_add le_rfl (List.sum_le_sum fun term hterm => ?_)
  have := h term hterm
  rw [mul_sub] at this
  exact sub_nonneg.mp this

lemma buildScoreFromAggregates_eq (hscorer : task.evaluation.scorer = some scorer)
    (hids : measurements.map AggregatedMeasurement.measurementId =
      task.measurements.map MeasurementSpec.measurementId) :
    buildScoreFromAggregates task measurements =
      (roundedFraction (exactScore scorer measurements) scorer.precisionDigits).map fun value =>
        .scalar measurements value scorer.direction scorer.revisionDigest := by
  have hterms := terms_mem_scoreValues hscorer hids
  have hne : measurements ≠ [] := by
    rintro rfl
    obtain ⟨term, hterm⟩ := List.exists_mem_of_length_pos scorer.terms_bound.1
    have hmem := hterms term hterm
    rw [scoreValues, Dict.mem_ofList] at hmem
    cases hmem
  have hsum := foldSteps_weightedTerm scorer.intercept hterms
  rw [scoreValues] at hsum
  simp only [buildScoreFromAggregates, hids, hne, raiseIf, ne_eq, not_true_eq_false, or_false,
    if_false, ok_bind, hscorer, hsum, exactScore]
  cases roundedFraction _ scorer.precisionDigits <;> rfl

/-- What the score of a vector is: the exact weighted sum in whatever order of the terms, rounded
once, and so monotone in each value and the same for equal sums. -/
structure ScoreLaws (task : TaskSpec) (scorer : ScorerRef)
    (measurements : List AggregatedMeasurement) : Prop where
  value : buildScoreFromAggregates task measurements = .ok (.scalar measurements
    (roundedScore scorer measurements) scorer.direction scorer.revisionDigest)
  order : ∀ terms : List ScorerTerm, terms.Perm scorer.terms →
    foldSteps (weightedTerm (scoreValues measurements)) scorer.intercept terms =
      .ok (exactScore scorer measurements)
  mono : ∀ measurements' value', measurements'.map AggregatedMeasurement.measurementId =
      task.measurements.map MeasurementSpec.measurementId →
    (∀ term ∈ scorer.terms, 0 ≤ term.coefficient *
      (valueOf measurements' term.measurementId - valueOf measurements term.measurementId)) →
    buildScoreFromAggregates task measurements' =
      .ok (.scalar measurements' value' scorer.direction scorer.revisionDigest) →
    roundedScore scorer measurements ≤ value'
  equal : ∀ measurements', measurements'.map AggregatedMeasurement.measurementId =
      task.measurements.map MeasurementSpec.measurementId →
    exactScore scorer measurements = exactScore scorer measurements' →
    buildScoreFromAggregates task measurements' = .ok (.scalar measurements'
      (roundedScore scorer measurements) scorer.direction scorer.revisionDigest)

/-- A score is the exact weighted sum, rounded once, when the sum fits the context. -/
theorem buildScoreFromAggregates_exact (task : TaskSpec) (scorer : ScorerRef)
    (hscorer : task.evaluation.scorer = some scorer) (measurements : List AggregatedMeasurement)
    (hids : measurements.map AggregatedMeasurement.measurementId =
      task.measurements.map MeasurementSpec.measurementId) :
    ScoreLaws task scorer measurements ↔
      (decimalContext scorer.precisionDigits).Fits (exactScore scorer measurements) := by
  have hbuild : ∀ {vector : List AggregatedMeasurement} {value : ℚ},
      vector.map AggregatedMeasurement.measurementId =
        task.measurements.map MeasurementSpec.measurementId →
      (buildScoreFromAggregates task vector =
          .ok (.scalar vector value scorer.direction scorer.revisionDigest) ↔
        roundedFraction (exactScore scorer vector) scorer.precisionDigits = .ok value) := by
    intro vector value hvector
    rw [buildScoreFromAggregates_eq hscorer hvector]
    cases roundedFraction (exactScore scorer vector) scorer.precisionDigits <;>
      simp [Except.map]
  have hexact : ∀ {x : ℚ}, _ ↔ (decimalContext scorer.precisionDigits).Fits x :=
    roundedFraction_exact_iff scorer.precision_bound.1
  refine ⟨fun h => hexact.mp ((hbuild hids).mp h.value), fun hfits => ?_⟩
  have hvalue := hexact.mpr hfits
  refine ⟨(hbuild hids).mpr hvalue, fun terms hperm => ?_, ?_, ?_⟩
  · have hterms := terms_mem_scoreValues hscorer hids
    rw [foldSteps_weightedTerm _ fun term hterm => hterms term (hperm.mem_iff.mp hterm), exactScore,
      (hperm.map _).sum_eq]
  · intro measurements' value' hids' hmono hvalue'
    exact roundedFraction_mono scorer.precision_bound.1 hvalue ((hbuild hids').mp hvalue')
      (exactScore_mono hmono)
  · intro measurements' hids' hsame
    exact (hbuild hids').mpr (hsame ▸ hvalue)

def delayScorer : ScorerRef where
  implementationResource := "rtl"
  direction := .minimize
  terms := [{ measurementId := "delay", coefficient := 2, coefficient_ne_zero := by simp }]
  implementationDigest := "d-impl"
  revisionDigest := "d-scorer"
  direction_valid := by decide
  terms_bound := by decide
  terms_sorted := by decide

def delayTask : TaskSpec where
  identity := { family := "adder", authoringRevision := 1 }
  resources := [{ resourceId := "rtl", contentDigest := "d-rtl", mediaType := "text/plain" }]
  requirements := []
  evaluation := {
    evaluators := [{ evaluatorId := "sta", capability := .rtlLint,
                     implementationResource := "rtl", revisionDigest := "d-sta" }]
    stages := [{ stageId := "gate", evaluatorId := "sta", purpose := .hardGate }]
    scorer := some delayScorer }
  measurements := [delaySpec]
  digest := "d-task"
  evaluators_sorted := by decide
  stages_sorted := by decide
  measurements_sorted := by decide
  valid := by decide

lemma exactScore_delay (value : ℚ) :
    exactScore delayScorer [{ measurementId := "delay", value }] = 2 * value := by
  simp [exactScore, delayScorer, valueOf, scoreValues, Dict.ofList]

theorem buildScoreFromAggregates_delay :
    delayTask.evaluation.scorer = some delayScorer ∧
      ScoreLaws delayTask delayScorer [{ measurementId := "delay", value := 3 }] :=
  ⟨rfl, (buildScoreFromAggregates_exact delayTask delayScorer rfl _ rfl).mpr (by
    rw [exactScore_delay]
    exact fits_of_digits (by decide) (by norm_num) (by norm_num))⟩

/-- The weighted sum of a value that is a number of the context need not be one. -/
theorem buildScoreFromAggregates_huge :
    buildScoreFromAggregates delayTask
        [{ measurementId := "delay", value := 5 * (10 : ℚ) ^ (999999 : ℤ) }] =
        .error DECIMAL_OVERFLOW ∧
      ¬ ScoreLaws delayTask delayScorer
        [{ measurementId := "delay", value := 5 * (10 : ℚ) ^ (999999 : ℤ) }] := by
  have hsum : (10 : ℚ) ^ (1000000 : ℤ) ≤ 2 * (5 * (10 : ℚ) ^ (999999 : ℤ)) := by
    rw [show (1000000 : ℤ) = 999999 + 1 from rfl, zpow_add_one₀ (by norm_num)]
    generalize (10 : ℚ) ^ (999999 : ℤ) = x
    linarith
  have hoverflow := @roundedFraction_overflow delayScorer.precisionDigits (by decide) _ hsum
  generalize (10 : ℚ) ^ (999999 : ℤ) = x at hoverflow ⊢
  have herror : buildScoreFromAggregates delayTask
      [{ measurementId := "delay", value := 5 * x }] = .error DECIMAL_OVERFLOW := by
    rw [buildScoreFromAggregates_eq (show delayTask.evaluation.scorer = some delayScorer from rfl)
      rfl, exactScore_delay, hoverflow]
    rfl
  refine ⟨herror, fun h => ?_⟩
  have hvalue := h.value
  rw [herror] at hvalue
  cases hvalue

end Score

end EdaGym
