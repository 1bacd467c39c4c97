import EdaGym.Projections.Leaderboard

/-!
# The Pareto front is the front of the valuation

The projection answers with the eligible entries on the front of the objective vectors, sorted by
run. Which entries these are depends on the members of its input only, and not on members that
are ineligible or dominated.
-/

namespace EdaGym

section Entries

variable [PartitionDigests]

/-- The first entry dominates the second. -/
def Dominates (task : TaskSpec) (entry other : LeaderboardEntry) : Prop :=
  ∃ score score', entry.score = some (.paretoVector score) ∧
    other.score = some (.paretoVector score') ∧ paretoDominates task score score' = .ok true

namespace LeaderboardEntry

/-- The raw vector of an entry that has one. -/
def rawVector (entry : LeaderboardEntry) : List AggregatedMeasurement :=
  match entry.score with
  | some (.paretoVector score) => score
  | _ => []

def valuation (task : TaskSpec) (entry : LeaderboardEntry) : Identifier → ℚ :=
  task.vector entry.rawVector

/-- What the loop over the entries checks of one. -/
def Accepted (task : TaskSpec) (entry : LeaderboardEntry) : Prop :=
  entry.rankEligible = true →
    entry.score = some (.paretoVector entry.rawVector) ∧ task.Matches entry.rawVector

end LeaderboardEntry

variable {task : TaskSpec} {entries : List LeaderboardEntry}

lemma eligibleEntries_eq_ok {eligible : List (LeaderboardEntry × List AggregatedMeasurement)} :
    eligibleEntries task entries = .ok eligible ↔
      (∀ e ∈ entries, e.Accepted task) ∧
        eligible = (entries.filter fun e => e.rankEligible).map fun e => (e, e.rawVector) := by
  induction entries generalizing eligible with
  | nil => simp [eligibleEntries, eq_comm]
  | cons e es ih =>
    rw [List.forall_mem_cons]
    by_cases helig : e.rankEligible = true
    · rw [List.filter_cons_of_pos helig, List.map_cons]
      simp only [eligibleEntries, helig, if_true]
      split
      next score hscore =>
        have hraw : e.rawVector = score := by simp [LeaderboardEntry.rawVector, hscore]
        simp only [bind_eq_ok, Except.mapError_eq_ok_iff, pure_eq_ok, ih, LeaderboardEntry.Accepted,
          helig, hraw, hscore, true_imp_iff, true_and]
        constructor
        · rintro ⟨b, hb, rest, ⟨hrest, rfl⟩, rfl⟩
          exact ⟨⟨(matches_of_paretoDominates hb).1, hrest⟩, rfl⟩
        · rintro ⟨⟨hmatches, hrest⟩, rfl⟩
          obtain ⟨b, hb, -⟩ := paretoDominates_of_matches hmatches hmatches
          exact ⟨b, hb, _, ⟨hrest, rfl⟩, rfl⟩
      next hscore =>
        refine iff_of_false (by simp) ?_
        rintro ⟨⟨haccepted, -⟩, -⟩
        exact hscore _ (haccepted helig).1
    · rw [List.filter_cons_of_neg helig]
      simp only [eligibleEntries, helig, Bool.false_eq_true, if_false, ih,
        LeaderboardEntry.Accepted, false_imp_iff, true_and]

section Undominated

variable {eligible : List LeaderboardEntry} {index : Nat} {entry : LeaderboardEntry}

def paired (eligible : List LeaderboardEntry) :
    List (LeaderboardEntry × List AggregatedMeasurement) :=
  eligible.map fun e => (e, e.rawVector)

lemma dominatedBy_eq_ok {others : List ((LeaderboardEntry × List AggregatedMeasurement) × Nat)}
    (hmatches : task.Matches entry.rawVector)
    (hothers : ∀ p ∈ others, p.1.2 = p.1.1.rawVector ∧ task.Matches p.1.1.rawVector) :
    ∃ b, dominatedBy task index entry.rawVector others = .ok b ∧
      (b = true ↔ ∃ p ∈ others, index ≠ p.2 ∧ entry.valuation task < p.1.1.valuation task) := by
  induction others with
  | nil => exact ⟨false, rfl, by simp⟩
  | cons p others ih =>
    obtain ⟨⟨other, score⟩, otherIndex⟩ := p
    rw [List.forall_mem_cons] at hothers
    obtain ⟨⟨hscore, hother⟩, hothers⟩ := hothers
    simp only at hscore hother
    subst hscore
    obtain ⟨b, hb, hiff⟩ := ih hothers
    simp only [dominatedBy, List.exists_mem_cons_iff]
    by_cases hindex : index = otherIndex
    · subst hindex
      exact ⟨b, by rw [if_neg (not_not.mpr rfl), hb], by simp [hiff]⟩
    · obtain ⟨d, hd, hdiff⟩ := paretoDominates_of_matches hother hmatches
      rw [if_pos hindex, hd]
      cases d with
      | true => exact ⟨true, rfl, iff_of_true rfl (Or.inl ⟨hindex, hdiff.mp rfl⟩)⟩
      | false =>
        have hnot : ¬ entry.valuation task < other.valuation task := by
          intro hlt
          exact absurd (hdiff.mpr hlt) Bool.false_ne_true
        refine ⟨b, hb, ?_⟩
        simp [hiff, hnot]

/-- The comprehension keeps the entries no eligible entry has a larger value than. -/
lemma undominatedEntries_eq_ok
    {all some' : List ((LeaderboardEntry × List AggregatedMeasurement) × Nat)}
    (hall : ∀ p ∈ all, p.1.2 = p.1.1.rawVector ∧ task.Matches p.1.1.rawVector)
    (hsome : ∀ p ∈ some', p ∈ all)
    (hindex : ∀ p ∈ all, ∀ q ∈ all, p.2 = q.2 → p = q) :
    ∃ front, undominatedEntries task all some' = .ok front ∧
      front.Sublist (some'.map fun p => p.1.1) ∧
      ∀ e, e ∈ front ↔ e ∈ some'.map (fun p => p.1.1) ∧
        ∀ p ∈ all, ¬ e.valuation task < p.1.1.valuation task := by
  induction some' with
  | nil => exact ⟨[], rfl, List.Sublist.refl _, by simp⟩
  | cons p rest ih =>
    obtain ⟨⟨entry, score⟩, index⟩ := p
    rw [List.forall_mem_cons] at hsome
    obtain ⟨hmem, hsome⟩ := hsome
    obtain ⟨hscore, hmatches⟩ := hall _ hmem
    simp only at hscore hmatches
    subst hscore
    obtain ⟨front, hfront, hsub, hiff⟩ := ih hsome
    obtain ⟨b, hb, hbiff⟩ := @dominatedBy_eq_ok _ task index entry all hmatches hall
    -- an entry does not dominate itself, so the test on the indices excludes nothing
    have hdominated : b = true ↔ ∃ p ∈ all, entry.valuation task < p.1.1.valuation task := by
      rw [hbiff]
      constructor
      · rintro ⟨p, hp, -, hlt⟩
        exact ⟨p, hp, hlt⟩
      · rintro ⟨p, hp, hlt⟩
        refine ⟨p, hp, ?_, hlt⟩
        rintro rfl
        have heq := hindex _ hmem p hp rfl
        rw [← heq] at hlt
        exact lt_irrefl _ hlt
    simp only [undominatedEntries, hb, hfront, ok_bind, List.map_cons]
    cases b with
    | true =>
      obtain ⟨q, hq, hlt⟩ := hdominated.mp rfl
      refine ⟨front, rfl, hsub.cons _, ?_⟩
      intro e
      rw [hiff e, List.mem_cons]
      constructor
      · rintro ⟨he, hmax⟩
        exact ⟨Or.inr he, hmax⟩
      · rintro ⟨rfl | he, hmax⟩
        · exact absurd hlt (hmax q hq)
        · exact ⟨he, hmax⟩
    | false =>
      have hmax : ∀ p ∈ all, ¬ entry.valuation task < p.1.1.valuation task := by
        intro p hp hlt
        exact Bool.false_ne_true (hdominated.mpr ⟨p, hp, hlt⟩)
      refine ⟨entry :: front, rfl, hsub.cons_cons _, ?_⟩
      intro e
      rw [List.mem_cons, List.mem_cons, hiff e]
      constructor
      · rintro (rfl | ⟨he, hmax'⟩)
        · exact ⟨Or.inl rfl, hmax⟩
        · exact ⟨Or.inr he, hmax'⟩
      · rintro ⟨rfl | he, hmax'⟩
        · exact Or.inl rfl
        · exact Or.inr ⟨he, hmax'⟩

end Undominated

/-! ### The projection -/

/-- The entries are of one partition. -/
def SamePartition (entries : List LeaderboardEntry) : Prop :=
  ∀ e ∈ entries, ∀ e' ∈ entries, e.partition = e'.partition

/-- What the projection asks of its input, entry by entry. -/
structure Comparable (task : OriginTask) (entries : List LeaderboardEntry) : Prop where
  sealed : task.originNamespace = .nativeSealed
  objective : ∃ m ∈ task.measurements, m.direction ≠ .none
  unscored : task.evaluation.scorer = none
  nonempty : entries ≠ []
  runs_nodup : (entries.map LeaderboardEntry.runId).Nodup
  partition_eq : ∀ e ∈ entries, task.digest = e.partition.taskSpecDigest ∧
    e.partition.scorerRevisionDigest = none
  accepted : ∀ e ∈ entries, e.Accepted task.toTaskSpec

/-- The front of the eligible entries, sorted by run. -/
structure IsFront (task : TaskSpec) (entries front : List LeaderboardEntry) : Prop where
  sorted : (front.map LeaderboardEntry.runId).Pairwise (· < ·)
  mem_iff : ∀ e, e ∈ front ↔
    OnFront (LeaderboardEntry.valuation task) (entries.filter fun e => e.rankEligible) e

omit [PartitionDigests] in
lemma sortedBy_pairwise {α : Type} {key : α → String} {xs : List α} (h : (xs.map key).Nodup) :
    ((sortedBy key xs).map key).Pairwise (· < ·) := by
  have hsorted : (sortedBy key xs).Pairwise fun a b => key a ≤ key b :=
    List.pairwise_insertionSort _ _
  have hnodup : ((sortedBy key xs).map key).Nodup :=
    ((sortedBy_perm key xs).map key).nodup_iff.mpr h
  rw [List.pairwise_map]
  exact (hsorted.and (List.pairwise_map.mp hnodup)).imp fun h => lt_of_le_of_ne h.1 h.2

/-- A front is determined by its members. -/
lemma IsFront.unique {entries' front front' : List LeaderboardEntry}
    (h : IsFront task entries front) (h' : IsFront task entries' front')
    (hsame : ∀ e, OnFront (LeaderboardEntry.valuation task)
        (entries.filter fun e => e.rankEligible) e ↔
      OnFront (LeaderboardEntry.valuation task)
        (entries'.filter fun e => e.rankEligible) e) : front = front' := by
  have hp := List.pairwise_map.mp h.sorted
  have hp' := List.pairwise_map.mp h'.sorted
  have hnodup : front.Nodup := hp.imp fun hlt heq => by
    rw [heq] at hlt
    exact lt_irrefl _ hlt
  have hnodup' : front'.Nodup := hp'.imp fun hlt heq => by
    rw [heq] at hlt
    exact lt_irrefl _ hlt
  have hperm : front.Perm front' := by
    rw [List.perm_ext_iff_of_nodup hnodup hnodup']
    intro e
    rw [h.mem_iff, h'.mem_iff, hsame]
  exact List.Perm.eq_of_pairwise (fun a b _ _ hab hba => absurd hab (lt_asymm hba)) hp hp' hperm

section Projection

variable {task : OriginTask} {front : List LeaderboardEntry}

/-- What passes the guards is comparable. -/
lemma comparable_of_ok (hpart : SamePartition entries)
    (h : projectParetoFront task entries = .ok front) : Comparable task entries := by
  cases entries with
  | nil => simp [projectParetoFront] at h
  | cons first rest =>
    simp only [projectParetoFront, bind_eq_ok, raiseIf_eq_ok, exists_const, not_not, not_or,
      not_forall, exists_prop, Bool.not_eq_true] at h
    obtain ⟨hsealed, -, hruns, htask, ⟨hscorer, hrevision⟩, hobjective, eligible, heligible, -⟩ := h
    exact {
      sealed := hsealed
      objective := hobjective
      unscored := by simpa using hscorer
      nonempty := by simp
      runs_nodup := hruns
      partition_eq := by
        intro e he
        rw [hpart e he first List.mem_cons_self]
        exact ⟨htask, by simpa using hrevision⟩
      accepted := (eligibleEntries_eq_ok.mp heligible).1 }

lemma eligible_zipIdx {eligible : List LeaderboardEntry}
    (hmatches : ∀ e ∈ eligible, task.Matches e.rawVector) :
    (∀ p ∈ (paired eligible).zipIdx, p.1.2 = p.1.1.rawVector ∧
        task.Matches p.1.1.rawVector) ∧
      (∀ p ∈ (paired eligible).zipIdx, ∀ q ∈ (paired eligible).zipIdx, p.2 = q.2 → p = q) ∧
      (paired eligible).zipIdx.map (fun p => p.1.1) = eligible := by
  refine ⟨?_, ?_, ?_⟩
  · rintro ⟨p, i⟩ hp
    obtain ⟨e, he, rfl⟩ := List.mem_map.mp (List.fst_mem_of_mem_zipIdx hp)
    exact ⟨rfl, hmatches e he⟩
  · rintro ⟨p, i⟩ hp ⟨q, j⟩ hq rfl
    have hp' := List.mem_zipIdx_iff_getElem?.mp hp
    have hq' := List.mem_zipIdx_iff_getElem?.mp hq
    rw [hp', Option.some.injEq] at hq'
    exact Prod.ext hq' rfl
  · have hfst : (paired eligible).zipIdx.map (fun p => p.1.1) =
        ((paired eligible).zipIdx.map Prod.fst).map Prod.fst := by
      rw [List.map_map]
      rfl
    rw [hfst, List.zipIdx_map_fst, paired, List.map_map]
    exact List.map_id _

/-- Comparable entries have a front, and it is what the projection returns. -/
lemma Comparable.projects (h : Comparable task entries) (hpart : SamePartition entries) :
    ∃ front, projectParetoFront task entries = .ok front ∧
      IsFront task.toTaskSpec entries front := by
  set eligible := entries.filter fun e => e.rankEligible with heligible
  have hmatches : ∀ e ∈ eligible, task.Matches e.rawVector := by
    intro e he
    obtain ⟨hmem, helig⟩ := List.mem_filter.mp he
    exact (h.accepted e hmem helig).2
  obtain ⟨hall, hindex, hfst⟩ := eligible_zipIdx hmatches
  obtain ⟨front, hfront, hsub, hiff⟩ :=
    undominatedEntries_eq_ok hall (fun p hp => hp) hindex
  have hmem : ∀ e, e ∈ eligible ↔ e ∈ (paired eligible).zipIdx.map fun p => p.1.1 := by
    intro e
    rw [hfst]
  rw [hfst] at hsub hiff
  refine ⟨sortedBy LeaderboardEntry.runId front, ?_, ?_, ?_⟩
  · cases entries with
    | nil => exact absurd rfl h.nonempty
    | cons first rest =>
      obtain ⟨htask, hrevision⟩ := h.partition_eq first List.mem_cons_self
      simp only [projectParetoFront, bind_eq_ok, raiseIf_eq_ok, exists_const, not_not, not_or,
        not_forall, exists_prop, pure_eq_ok]
      refine ⟨h.sealed, ?_, h.runs_nodup, htask, ⟨by simp [h.unscored], by simp [hrevision]⟩,
        h.objective, _, eligibleEntries_eq_ok.mpr ⟨h.accepted, rfl⟩, front, hfront, rfl⟩
      rintro ⟨e, he, hne⟩
      rw [e.partitionId_eq, first.partitionId_eq, hpart e he first List.mem_cons_self] at hne
      exact hne rfl
  · apply sortedBy_pairwise
    exact h.runs_nodup.sublist ((hsub.trans List.filter_sublist).map _)
  · intro e
    rw [mem_sortedBy, hiff e, OnFront]
    refine and_congr_right fun _ => ?_
    constructor
    · intro hmax e' he'
      obtain ⟨p, hp, rfl⟩ := List.mem_map.mp ((hmem e').mp he')
      exact hmax p hp
    · intro hmax p hp
      exact hmax _ ((hmem _).mpr (List.mem_map_of_mem hp))

/-- The projection returns exactly the front. -/
lemma isFront_of_ok (hpart : SamePartition entries)
    (h : projectParetoFront task entries = .ok front) :
    IsFront task.toTaskSpec entries front := by
  obtain ⟨front', hfront', hisFront⟩ := (comparable_of_ok hpart h).projects hpart
  rw [h, Except.ok.injEq] at hfront'
  rw [hfront']
  exact hisFront

/-- Between accepted eligible entries the code's dominance is the order of the valuations. -/
lemma Comparable.dominates_iff (h : Comparable task entries) {e e' : LeaderboardEntry}
    (he : e ∈ entries.filter fun e => e.rankEligible)
    (he' : e' ∈ entries.filter fun e => e.rankEligible) :
    Dominates task.toTaskSpec e e' ↔
      e'.valuation task.toTaskSpec < e.valuation task.toTaskSpec := by
  obtain ⟨hmem, helig⟩ := List.mem_filter.mp he
  obtain ⟨hmem', helig'⟩ := List.mem_filter.mp he'
  obtain ⟨hscore, hmatches⟩ := h.accepted e hmem helig
  obtain ⟨hscore', hmatches'⟩ := h.accepted e' hmem' helig'
  obtain ⟨b, hb, hiff⟩ := paretoDominates_of_matches hmatches hmatches'
  constructor
  · rintro ⟨score, score', hs, hs', hdom⟩
    rw [hscore, Option.some.injEq, CandidateScore.paretoVector.injEq] at hs
    rw [hscore', Option.some.injEq, CandidateScore.paretoVector.injEq] at hs'
    rw [← hs, ← hs', hb, Except.ok.injEq] at hdom
    exact hiff.mp hdom
  · intro hlt
    exact ⟨_, _, hscore, hscore', by rw [hb, hiff.mpr hlt]⟩

end Projection

/-- What a Pareto front is to its input. -/
structure IsParetoFront (task : OriginTask) (entries front : List LeaderboardEntry) : Prop where
  mem_iff : ∀ e, e ∈ front ↔ e ∈ entries ∧ e.rankEligible = true ∧
    ∀ e' ∈ entries, e'.rankEligible = true → ¬ Dominates task.toTaskSpec e' e
  sorted : (front.map LeaderboardEntry.runId).Pairwise (· < ·)
  nonempty : (∃ e ∈ entries, e.rankEligible = true) → front ≠ []
  absorbs : ∀ e ∈ entries, e.rankEligible = true → e ∉ front →
    ∃ f ∈ front, Dominates task.toTaskSpec f e
  antichain : ∀ e ∈ front, ∀ f ∈ front, ¬ Dominates task.toTaskSpec e f

lemma IsFront.isParetoFront {task : OriginTask} {front : List LeaderboardEntry}
    (h : Comparable task entries) (hfront : IsFront task.toTaskSpec entries front) :
    IsParetoFront task entries front := by
  have helig : ∀ {e}, e ∈ entries → e.rankEligible = true →
      e ∈ entries.filter fun e => e.rankEligible :=
    fun hmem he => List.mem_filter.mpr ⟨hmem, he⟩
  have hmem : ∀ e, e ∈ front ↔ e ∈ entries ∧ e.rankEligible = true ∧
      ∀ e' ∈ entries, e'.rankEligible = true → ¬ Dominates task.toTaskSpec e' e := by
    intro e
    rw [hfront.mem_iff, OnFront, List.mem_filter, and_assoc]
    refine and_congr_right fun he => and_congr_right fun heligible => ?_
    constructor
    · intro hmax e' he' heligible' hdom
      exact hmax e' (helig he' heligible')
        ((h.dominates_iff (helig he' heligible') (helig he heligible)).mp hdom)
    · intro hmax e' he' hlt
      obtain ⟨hin, heligible'⟩ := List.mem_filter.mp he'
      exact hmax e' hin heligible' ((h.dominates_iff he' (helig he heligible)).mpr hlt)
  refine ⟨hmem, hfront.sorted, ?_, ?_, ?_⟩
  · rintro ⟨e, he, heligible⟩ hnil
    obtain ⟨f, hf⟩ : ∃ f, OnFront (LeaderboardEntry.valuation task.toTaskSpec)
        (entries.filter fun e => e.rankEligible) f := exists_onFront (helig he heligible)
    have hfmem := (hfront.mem_iff f).mpr hf
    rw [hnil] at hfmem
    exact List.not_mem_nil hfmem
  · intro e he heligible hnot
    rw [hfront.mem_iff] at hnot
    obtain ⟨f, hf, hlt⟩ := exists_onFront_of_not (helig he heligible) hnot
    exact ⟨f, (hfront.mem_iff f).mpr hf, (h.dominates_iff hf.1 (helig he heligible)).mpr hlt⟩
  · intro e he f hf hdom
    obtain ⟨hemem, heligible, -⟩ := (hmem e).mp he
    obtain ⟨-, -, hmax⟩ := (hmem f).mp hf
    exact hmax e hemem heligible hdom

/-- Entries dominated by others, or not eligible, leave the input comparable. -/
lemma Comparable.add {task : OriginTask} {added all : List LeaderboardEntry}
    (h : Comparable task entries) (hperm : all.Perm (entries ++ added))
    (hpart : SamePartition all) (hruns : (all.map LeaderboardEntry.runId).Nodup)
    (hadded : ∀ e ∈ added, e.rankEligible = true → ∃ e' ∈ all, e'.rankEligible = true ∧
      Dominates task.toTaskSpec e' e) : Comparable task all := by
  have hold : ∀ e ∈ entries, e ∈ all := fun e he =>
    hperm.symm.subset (List.mem_append_left added he)
  obtain ⟨first, hfirst⟩ := List.exists_mem_of_ne_nil _ h.nonempty
  exact {
    sealed := h.sealed
    objective := h.objective
    unscored := h.unscored
    nonempty := List.ne_nil_of_mem (hold first hfirst)
    runs_nodup := hruns
    partition_eq := by
      intro e he
      rw [hpart e he first (hold first hfirst)]
      exact h.partition_eq first hfirst
    accepted := by
      intro e he heligible
      rcases List.mem_append.mp (hperm.subset he) with hin | hin
      · exact h.accepted e hin heligible
      · obtain ⟨e', -, -, score, score', -, hscore, hdom⟩ := hadded e hin heligible
        have hraw : e.rawVector = score' := by simp [LeaderboardEntry.rawVector, hscore]
        rw [hraw]
        exact ⟨hscore, (matches_of_paretoDominates hdom).2⟩ }

/-- The projection of the entries of one partition is their Pareto front, whatever their order, and
entries that are ineligible or dominated leave it as it is. -/
theorem projectParetoFront_isParetoFront {task : OriginTask} {front : List LeaderboardEntry}
    (hpart : SamePartition entries) (h : projectParetoFront task entries = .ok front) :
    IsParetoFront task entries front ∧
      (∀ entries', entries.Perm entries' → projectParetoFront task entries' = .ok front) ∧
      ∀ added all, all.Perm (entries ++ added) → SamePartition all →
        (all.map LeaderboardEntry.runId).Nodup →
        (∀ e ∈ added, e.rankEligible = true → ∃ e' ∈ all, e'.rankEligible = true ∧
          Dominates task.toTaskSpec e' e) →
        projectParetoFront task all = .ok front := by
  have hcomparable := comparable_of_ok hpart h
  have hfront := isFront_of_ok hpart h
  have hadd : ∀ added all, all.Perm (entries ++ added) → SamePartition all →
      (all.map LeaderboardEntry.runId).Nodup →
      (∀ e ∈ added, e.rankEligible = true → ∃ e' ∈ all, e'.rankEligible = true ∧
        Dominates task.toTaskSpec e' e) →
      projectParetoFront task all = .ok front := by
    intro added all hperm hpart' hruns hadded
    have hcomparable' := hcomparable.add hperm hpart' hruns hadded
    obtain ⟨front', hok, hfront'⟩ := hcomparable'.projects hpart'
    rw [hok, hfront'.unique hfront]
    intro e
    have hmembers : ∀ e, e ∈ (all.filter fun e => e.rankEligible) ↔
        e ∈ (entries.filter fun e => e.rankEligible) ++
          added.filter fun e => e.rankEligible := by
      intro e
      rw [← List.filter_append, List.mem_filter, List.mem_filter, hperm.mem_iff]
    rw [onFront_congr hmembers]
    apply onFront_append_iff
    intro e he
    obtain ⟨hin, heligible⟩ := List.mem_filter.mp he
    obtain ⟨e', hin', heligible', hdom⟩ := hadded e hin heligible
    have he' := List.mem_filter.mpr ⟨hin', heligible'⟩
    have hin'' : e ∈ all := hperm.symm.subset (List.mem_append_right entries hin)
    refine ⟨e', (hmembers e').mp he', ?_⟩
    exact (hcomparable'.dominates_iff he' (List.mem_filter.mpr ⟨hin'', heligible⟩)).mp hdom
  refine ⟨hfront.isParetoFront hcomparable, ?_, hadd⟩
  intro entries' hperm
  refine hadd [] entries' (by simpa using hperm.symm) ?_ ?_ (by simp)
  · intro e he e' he'
    exact hpart e (hperm.symm.subset he) e' (hperm.symm.subset he')
  · exact (hperm.map _).nodup_iff.mp hcomparable.runs_nodup

end Entries

/-! ### A small front -/

section SmallFront

/-- Area is minimised, the clock has a target, leakage is only observed. -/
def areaTask : OriginTask where
  identity := { family := "adder", authoringRevision := 1 }
  resources := [{ resourceId := "rtl", contentDigest := "d-rtl", mediaType := "text/plain" }]
  requirements := ["r0"]
  evaluation := {
    evaluators := [{ evaluatorId := "synth", capability := .asicSynthesis,
                     implementationResource := "rtl", revisionDigest := "d-synth" }]
    stages := [{ stageId := "gate", evaluatorId := "synth", purpose := .hardGate,
                 requirementIds := ["r0"] }] }
  measurements := [
    { measurementId := "area", producerStageId := "gate", unit := .squareMicrometer,
      libraryId := "lib", libraryDigest := "d-lib", corner := "tt", mode := "func",
      direction := .minimize, repetitions := 1, aggregation := .mean },
    { measurementId := "clock", producerStageId := "gate", unit := .megahertz,
      libraryId := "lib", libraryDigest := "d-lib", corner := "tt", mode := "func",
      direction := .target, repetitions := 1, aggregation := .mean, target := some 100 },
    { measurementId := "leakage", producerStageId := "gate", unit := .microwatt,
      libraryId := "lib", libraryDigest := "d-lib", corner := "tt", mode := "func",
      direction := .none, repetitions := 1, aggregation := .mean }]
  digest := "d-task"
  evaluators_sorted := by decide
  stages_sorted := by decide
  measurements_sorted := by decide
  valid := by decide
  originNamespace := .nativeSealed

local instance : PartitionDigests := ⟨fun partition => partition.taskSpecDigest⟩

def areaPartition : LeaderboardPartition where
  taskFamily := "adder"
  authoringRevision := 1
  taskSpecDigest := "d-task"
  instanceDigest := "d-inst"
  releaseDigest := "d-rel"
  environmentSpecDigest := "d-env"
  cohort := { actors := [.harness "agent" "route" "d-har" "d-sca"], initialWriter := "agent",
              handoffEnabled := false, participation := .agent }
  feedbackPolicyDigest := "d-fb"
  budgetDigest := "d-bud"
  evaluators := [⟨"synth", "d-synth"⟩]
  measurementSchemaDigest := "d-schema"
  trialCount := 3

def areaEntry (runId : Digest) (area clock leakage : ℚ) : LeaderboardEntry where
  partitionId := "d-task"
  partition := areaPartition
  runId := runId
  lineage := {}
  rankEligible := true
  success := true
  terminalReason := .verifierSuccess
  scoringEligibility := some .ready
  score := some (.paretoVector [⟨"area", area⟩, ⟨"clock", clock⟩, ⟨"leakage", leakage⟩])
  partitionId_eq := rfl
  rankEligible_iff := by simp [areaPartition]
  success_iff := by simp
  score_success := by simp
  score_iff := by simp

def areaEntries : List LeaderboardEntry :=
  [areaEntry "run-c" 5 90 1, areaEntry "run-b" 4 80 9, areaEntry "run-a" 5 110 2,
    areaEntry "run-d" 6 90 0]

/-- Two vectors tie, a third trades area for clock, and the fourth is dominated. -/
theorem areaEntries_front :
    projectParetoFront areaTask areaEntries = .ok [areaEntry "run-a" 5 110 2,
        areaEntry "run-b" 4 80 9, areaEntry "run-c" 5 90 1] ∧
      IsParetoFront areaTask areaEntries [areaEntry "run-a" 5 110 2,
        areaEntry "run-b" 4 80 9, areaEntry "run-c" 5 90 1] := by
  have hpart : SamePartition areaEntries := by
    intro e he e' he'
    simp only [areaEntries, List.mem_cons, List.not_mem_nil, or_false] at he he'
    rcases he with rfl | rfl | rfl | rfl <;> rcases he' with rfl | rfl | rfl | rfl <;> rfl
  have hok : projectParetoFront areaTask areaEntries = .ok [areaEntry "run-a" 5 110 2,
      areaEntry "run-b" 4 80 9, areaEntry "run-c" 5 90 1] := by
    decide +kernel
  exact ⟨hok, (projectParetoFront_isParetoFront hpart hok).1⟩

end SmallFront

end EdaGym
