import EdaGym.Evaluation.Readiness
import EdaGym.Lib.DependencyOrder

/-!
# The stage graph

The depth-first check of a task document leaves its stages in dependency order. Hence the traversal
of `topologicalStageIds` takes every stage, each one once, and never raises on a valid task.
-/

namespace EdaGym

/-! ### What a valid task says -/

namespace TaskDocument

/-- The checks of `validateTask` that the evaluation of a candidate relies on. -/
structure Checked (t : TaskDocument) : Prop where
  known : ∀ stage ∈ t.evaluation.stages, ∀ d ∈ stage.dependsOn, d ∈ t.stageIds
  visits : ∃ marks, foldSteps (visit t.stageIndex (t.evaluation.stages.length + 1)) ([], [])
    t.stageIds = .ok marks
  measurements_nodup : t.measurementIds.Nodup
  terms : ∀ scorer ∈ t.evaluation.scorer, ∀ term ∈ scorer.terms,
    term.measurementId ∈ t.measurementIds
  producers : ∀ measurement ∈ t.measurements, measurement.producerStageId ∈ t.stageIds

end TaskDocument

lemma TaskSpec.checked (task : TaskSpec) : task.Checked := by
  have h := task.valid
  simp only [TaskDocument.validateTask, bind_eq_ok, raiseIf_eq_ok, exists_const,
    foldSteps_unit_eq_ok, not_exists, not_and, not_not] at h
  obtain ⟨-, -, -, -, hchecks, marks, hvisits, -, -, hnodup, -, hterms, hproducers, -⟩ := h
  refine ⟨?_, ⟨marks, hvisits⟩, hnodup, hterms, hproducers⟩
  intro stage hstage
  have hcheck := hchecks stage hstage
  simp only [TaskDocument.checkStage, bind_eq_ok, raiseIf_eq_ok, exists_const, not_not] at hcheck
  exact hcheck.2.1

namespace TaskDocument

/-- Stages with distinct identifiers and known dependencies. -/
class KnownStages (t : TaskDocument) : Prop where
  nodup : t.stageIds.Nodup
  known : ∀ stage ∈ t.evaluation.stages, ∀ d ∈ stage.dependsOn, d ∈ t.stageIds

instance (task : TaskSpec) : KnownStages task.toTaskDocument :=
  ⟨task.stageIds_nodup, task.checked.known⟩

/-- One edge of the stage graph. -/
def Depends (t : TaskDocument) (stageId dependency : Identifier) : Prop :=
  ∃ stage, t.stageIndex.get? stageId = some stage ∧ dependency ∈ stage.dependsOn

variable {t : TaskDocument}

/-- The visited stages have grown to `ids`, and are in dependency order. -/
def Visits (t : TaskDocument) (marks marks' : List Identifier × List Identifier)
    (ids : List Identifier) : Prop :=
  DependencyOrdered t.Depends marks.2.reverse →
    DependencyOrdered t.Depends marks'.2.reverse ∧ marks.2 ⊆ marks'.2 ∧ ∀ s ∈ ids, s ∈ marks'.2

lemma foldSteps_visits {step : List Identifier × List Identifier → Identifier →
      Except String (List Identifier × List Identifier)}
    (hstep : ∀ m s m', step m s = .ok m' → t.Visits m m' [s]) {ids : List Identifier}
    {m m' : List Identifier × List Identifier} (h : foldSteps step m ids = .ok m') :
    t.Visits m m' ids := by
  induction ids generalizing m with
  | nil =>
    obtain rfl := Except.ok.inj h
    intro hordered
    exact ⟨hordered, List.Subset.refl _, by simp⟩
  | cons s ids ih =>
    obtain ⟨m₁, hfirst, hrest⟩ := foldSteps_cons_eq_ok.mp h
    intro hordered
    obtain ⟨hordered₁, hsub₁, hs⟩ := hstep _ _ _ hfirst hordered
    obtain ⟨hordered', hsub', hids⟩ := ih hrest hordered₁
    refine ⟨hordered', List.Subset.trans hsub₁ hsub', ?_⟩
    rw [List.forall_mem_cons]
    exact ⟨hsub' (hs s (by simp)), hids⟩

/-- A stage is visited after all its dependencies. -/
lemma visit_visits {fuel : Nat} {marks marks' : List Identifier × List Identifier}
    {stageId : Identifier} (h : visit t.stageIndex fuel marks stageId = .ok marks') :
    t.Visits marks marks' [stageId] := by
  induction fuel generalizing marks marks' stageId with
  | zero => cases h
  | succ fuel ih =>
    intro hordered
    obtain ⟨visiting, visited⟩ := marks
    unfold visit at h
    split_ifs at h with hvisiting hvisited
    · obtain rfl := Except.ok.inj h
      exact ⟨hordered, List.Subset.refl _, by simpa using hvisited⟩
    · simp only [bind_eq_ok, orRaise_eq_ok] at h
      obtain ⟨stage, hstage, ⟨visiting', visited'⟩, hdeps, hlast⟩ := h
      obtain rfl := Except.ok.inj hlast
      obtain ⟨hordered', hsub, hall⟩ := foldSteps_visits (fun _ _ _ hm => ih hm) hdeps hordered
      refine ⟨?_, List.Subset.trans hsub (List.subset_cons_self _ _), by simp⟩
      rw [List.reverse_cons, DependencyOrdered.concat_iff]
      refine ⟨hordered', ?_⟩
      rintro d ⟨stage', hstage', hd⟩
      obtain rfl := Option.some.inj (hstage.symm.trans hstage')
      exact List.mem_reverse.mpr (hall d hd)

end TaskDocument

/-- What a depth-first traversal of all stages visits is in dependency order. -/
lemma TaskDocument.exists_dependencyOrdered {t : TaskDocument}
    {marks : List Identifier × List Identifier}
    (h : foldSteps (visit t.stageIndex (t.evaluation.stages.length + 1)) ([], []) t.stageIds =
      .ok marks) :
    ∃ xs, DependencyOrdered t.Depends xs ∧ ∀ s ∈ t.stageIds, s ∈ xs := by
  obtain ⟨hordered, -, hall⟩ := foldSteps_visits (fun _ _ _ => visit_visits) h .nil
  exact ⟨marks.2.reverse, hordered, fun s hs => List.mem_reverse.mpr (hall s hs)⟩

/-- The stages can be listed so that each one stands after its dependencies. -/
theorem TaskSpec.exists_dependencyOrdered (task : TaskSpec) :
    ∃ xs, DependencyOrdered task.Depends xs ∧ ∀ s ∈ task.stageIds, s ∈ xs := by
  obtain ⟨marks, hvisits⟩ := task.checked.visits
  exact TaskDocument.exists_dependencyOrdered hvisits

section Stages

open TaskDocument (KnownStages)

variable {task : TaskDocument} [KnownStages task] {s : Identifier}

lemma get?_stageIndex {stage : StageSpec} :
    task.stageIndex.get? s = some stage ↔ stage ∈ task.evaluation.stages ∧ stage.stageId = s := by
  have hnodup : ((task.evaluation.stages.map fun stage => (stage.stageId, stage)).map
      Prod.fst).Nodup := by
    simpa [TaskDocument.stageIds, List.map_map, Function.comp_def]
      using KnownStages.nodup (t := task)
  rw [TaskDocument.stageIndex, Dict.get?_ofList hnodup, List.mem_map]
  constructor
  · rintro ⟨stage', hmem, heq⟩
    obtain ⟨rfl, rfl⟩ := Prod.mk.inj heq
    exact ⟨hmem, rfl⟩
  · rintro ⟨hmem, rfl⟩
    exact ⟨stage, hmem, rfl⟩

lemma mem_stageIndex : s ∈ task.stageIndex ↔ s ∈ task.stageIds := by
  simp only [Dict.mem_iff, get?_stageIndex, TaskDocument.stageIds, List.mem_map]

lemma TaskDocument.Depends.known {s d : Identifier} (h : task.Depends s d) :
    s ∈ task.stageIds ∧ d ∈ task.stageIds := by
  obtain ⟨stage, hstage, hd⟩ := h
  obtain ⟨hmem, rfl⟩ := get?_stageIndex.mp hstage
  exact ⟨List.mem_map_of_mem hmem, KnownStages.known stage hmem d hd⟩

/-! ### The traversal -/

lemma foldl_releaseChild {cs : List Identifier} (hnodup : cs.Nodup)
    (degrees : Dict Identifier Int) (ready : List Identifier) :
    (∀ c, ((cs.foldl releaseChild (degrees, ready)).1).get? c =
      if c ∈ cs then some ((degrees.get? c).getD 0 - 1) else degrees.get? c) ∧
    (cs.foldl releaseChild (degrees, ready)).2.Perm
      (ready ++ cs.filter fun c => (degrees.get? c).getD 0 = 1) := by
  induction cs generalizing degrees ready with
  | nil => simp
  | cons c cs ih =>
    obtain ⟨hc, hcs⟩ := List.nodup_cons.mp hnodup
    obtain ⟨hdegrees, hready⟩ := ih hcs (degrees.insert c ((degrees.get? c).getD 0 - 1))
      (if (degrees.get? c).getD 0 - 1 = 0 then sortedStrings (ready ++ [c]) else ready)
    refine ⟨?_, ?_⟩
    · intro c'
      rw [List.foldl_cons, releaseChild, hdegrees, Dict.get?_insert]
      by_cases heq : c' = c
      · subst heq
        simp [hc]
      · simp [heq]
    · rw [List.foldl_cons, releaseChild]
      refine hready.trans ?_
      have hfilter : cs.filter (fun c' =>
          ((degrees.insert c ((degrees.get? c).getD 0 - 1)).get? c').getD 0 = 1) =
            cs.filter fun c' => (degrees.get? c').getD 0 = 1 := by
        refine List.filter_congr ?_
        intro c' hc'
        have hne : c' ≠ c := by
          rintro rfl
          exact hc hc'
        rw [Dict.get?_insert_of_ne _ _ hne]
      rw [hfilter, List.filter_cons]
      by_cases hone : (degrees.get? c).getD 0 = 1
      · simp only [hone, sub_self, if_true, decide_true]
        refine ((sortedStrings_perm _).append_right _).trans ?_
        rw [List.append_assoc, List.singleton_append]
      · have hne : ¬ (degrees.get? c).getD 0 - 1 = 0 := by omega
        simp [hone, hne]

lemma foldl_releaseChild_sorted (cs : List Identifier) (degrees : Dict Identifier Int)
    {ready : List Identifier} (h : ready.Pairwise (· ≤ ·)) :
    (cs.foldl releaseChild (degrees, ready)).2.Pairwise (· ≤ ·) := by
  induction cs generalizing degrees ready with
  | nil => exact h
  | cons c cs ih =>
    refine ih _ ?_
    split_ifs
    · exact List.pairwise_insertionSort _ _
    · exact h

/-- The stages that depend on the given one. -/
def childIds (task : TaskDocument) (s : Identifier) : List Identifier :=
  (task.evaluation.stages.filter fun stage => s ∈ stage.dependsOn).map StageSpec.stageId

lemma mem_childIds {s c : Identifier} : c ∈ childIds task s ↔ task.Depends c s := by
  simp only [childIds, List.mem_map, List.mem_filter, decide_eq_true_eq, TaskDocument.Depends,
    get?_stageIndex]
  constructor
  · rintro ⟨stage, ⟨hmem, hs⟩, rfl⟩
    exact ⟨stage, ⟨hmem, rfl⟩, hs⟩
  · rintro ⟨stage, ⟨hmem, rfl⟩, hs⟩
    exact ⟨stage, ⟨hmem, hs⟩, rfl⟩

lemma nodup_childIds (s : Identifier) : (childIds task s).Nodup :=
  KnownStages.nodup.sublist (List.filter_sublist.map _)

/-- The dependencies that are still to be taken. -/
def remaining (stage : StageSpec) (ordered : List Identifier) : List Identifier :=
  stage.dependsOn.filter (· ∉ ordered)

lemma length_remaining_concat (stage : StageSpec) {ordered : List Identifier}
    (hs : s ∉ ordered) : (remaining stage (ordered ++ [s])).length =
      if s ∈ stage.dependsOn then (remaining stage ordered).length - 1
      else (remaining stage ordered).length := by
  have hnodup : stage.dependsOn.Nodup := stage.dependsOn_sorted.imp ne_of_lt
  have hfilter : remaining stage (ordered ++ [s]) = (remaining stage ordered).erase s := by
    unfold remaining
    rw [(hnodup.filter _).erase_eq_filter]
    simp only [List.filter_filter]
    refine List.filter_congr ?_
    intro d _
    by_cases hds : d = s
    · simp [hds]
    · simp [hds]
  rw [hfilter]
  split_ifs with hmem
  · exact List.length_erase_of_mem (List.mem_filter.mpr ⟨hmem, by simpa using hs⟩)
  · rw [List.erase_of_not_mem]
    intro hin
    exact hmem (List.mem_filter.mp hin).1

/-- Every stage taken was the least of those that could be taken. -/
def Greedy (task : TaskDocument) (ordered : List Identifier) : Prop :=
  ∀ pre x post, ordered = pre ++ x :: post → ∀ y ∈ task.stageIds, y ∉ pre →
    (∀ d, task.Depends y d → d ∈ pre) → x ≤ y

/-- What the traversal knows: the stages taken and those whose dependencies have all been taken. -/
structure Traversed (task : TaskDocument) (degrees : Dict Identifier Int)
    (ready ordered : List Identifier) : Prop where
  nodup : (ordered ++ ready).Nodup
  mem : ∀ s, s ∈ ordered ++ ready ↔ s ∈ task.stageIds ∧ ∀ d, task.Depends s d → d ∈ ordered
  degree : ∀ stage ∈ task.evaluation.stages,
    degrees.get? stage.stageId = some ((remaining stage ordered).length : Int)
  inOrder : DependencyOrdered task.Depends ordered
  sorted : ready.Pairwise (· ≤ ·)
  greedy : Greedy task ordered

lemma remaining_eq_nil {stage : StageSpec} {ordered : List Identifier}
    (hstage : stage ∈ task.evaluation.stages) :
    remaining stage ordered = [] ↔ ∀ d, task.Depends stage.stageId d → d ∈ ordered := by
  simp only [remaining, List.filter_eq_nil_iff, decide_eq_true_eq, not_not, TaskDocument.Depends]
  constructor
  · rintro h d ⟨stage', hstage', hd⟩
    obtain rfl := Option.some.inj ((get?_stageIndex.mpr ⟨hstage, rfl⟩).symm.trans hstage')
    exact h d hd
  · intro h d hd
    exact h d ⟨stage, get?_stageIndex.mpr ⟨hstage, rfl⟩, hd⟩

variable {degrees : Dict Identifier Int}

/-- Taking a ready stage releases those children that waited for it alone. -/
lemma Traversed.take {ready ordered : List Identifier}
    (h : Traversed task degrees (s :: ready) ordered) :
    Traversed task
      ((sortedStrings (childIds task s)).foldl releaseChild (degrees, ready)).1
      ((sortedStrings (childIds task s)).foldl releaseChild (degrees, ready)).2
      (ordered ++ [s]) := by
  have hsorted := sortedStrings_perm (childIds task s)
  obtain ⟨hdegrees, hready⟩ := foldl_releaseChild
    (hsorted.nodup_iff.mpr (nodup_childIds s)) degrees ready
  have hnew : s ∉ ordered := by
    intro hs
    exact (List.nodup_append.mp h.nodup).2.2 s hs s List.mem_cons_self rfl
  -- a child is released when this stage was the last one it waited for
  have hone : ∀ c, c ∈ (sortedStrings (childIds task s)).filter
      (fun c => (degrees.get? c).getD 0 = 1) ↔
        task.Depends c s ∧ ∀ d, task.Depends c d → d ∈ ordered ++ [s] := by
    intro c
    rw [List.mem_filter, mem_sortedStrings, mem_childIds]
    refine and_congr_right ?_
    rintro ⟨stage, hstage, hs⟩
    obtain ⟨hmem, rfl⟩ := get?_stageIndex.mp hstage
    have hlength := length_remaining_concat stage hnew
    rw [if_pos hs] at hlength
    have hpos : 0 < (remaining stage ordered).length :=
      List.length_pos_of_mem (List.mem_filter.mpr ⟨hs, by simpa using hnew⟩)
    rw [h.degree stage hmem, ← remaining_eq_nil hmem, ← List.length_eq_zero_iff, hlength]
    simp
    omega
  refine ⟨?_, ?_, ?_, ?_, foldl_releaseChild_sorted _ _ (List.pairwise_cons.mp h.sorted).2, ?_⟩
  · have hperm : (ordered ++ [s] ++
        ((sortedStrings (childIds task s)).foldl releaseChild (degrees, ready)).2).Perm
        (ordered ++ s :: ready ++ (sortedStrings (childIds task s)).filter
          (fun c => (degrees.get? c).getD 0 = 1)) := by
      refine (hready.append_left _).trans ?_
      simp
    rw [hperm.nodup_iff, List.nodup_append]
    refine ⟨h.nodup, (hsorted.nodup_iff.mpr (nodup_childIds s)).filter _, ?_⟩
    rintro c hc _ hc' rfl
    exact hnew (((h.mem c).mp hc).2 s ((hone c).mp hc').1)
  · intro c
    rw [List.mem_append, hready.mem_iff, List.mem_append (s := ready), hone]
    constructor
    · rintro (hc | hc | hc)
      · rcases List.mem_append.mp hc with hc | hc
        · obtain ⟨hknown, hdeps⟩ := (h.mem c).mp (List.mem_append_left _ hc)
          exact ⟨hknown, fun d hd => List.mem_append_left _ (hdeps d hd)⟩
        · obtain rfl := List.mem_singleton.mp hc
          obtain ⟨hknown, hdeps⟩ := (h.mem c).mp (List.mem_append_right _ List.mem_cons_self)
          exact ⟨hknown, fun d hd => List.mem_append_left _ (hdeps d hd)⟩
      · obtain ⟨hknown, hdeps⟩ :=
          (h.mem c).mp (List.mem_append_right _ (List.mem_cons_of_mem _ hc))
        exact ⟨hknown, fun d hd => List.mem_append_left _ (hdeps d hd)⟩
      · exact ⟨hc.1.known.1, hc.2⟩
    · rintro ⟨hknown, hdeps⟩
      by_cases hs : task.Depends c s
      · exact Or.inr (Or.inr ⟨hs, hdeps⟩)
      · have hold : c ∈ ordered ++ s :: ready := by
          refine (h.mem c).mpr ⟨hknown, ?_⟩
          intro d hd
          rcases List.mem_append.mp (hdeps d hd) with hd' | hd'
          · exact hd'
          · exact absurd (List.mem_singleton.mp hd' ▸ hd) hs
        rcases List.mem_append.mp hold with hc | hc
        · exact Or.inl (List.mem_append_left _ hc)
        · rcases List.mem_cons.mp hc with rfl | hc
          · exact Or.inl (by simp)
          · exact Or.inr (Or.inl hc)
  · intro stage hstage
    rw [hdegrees, h.degree stage hstage, length_remaining_concat stage hnew]
    have hdepends : task.Depends stage.stageId s ↔ s ∈ stage.dependsOn := by
      constructor
      · rintro ⟨stage', hstage', hs⟩
        obtain rfl := Option.some.inj ((get?_stageIndex.mpr ⟨hstage, rfl⟩).symm.trans hstage')
        exact hs
      · intro hs
        exact ⟨stage, get?_stageIndex.mpr ⟨hstage, rfl⟩, hs⟩
    have hchild : stage.stageId ∈ sortedStrings (childIds task s) ↔ s ∈ stage.dependsOn := by
      rw [mem_sortedStrings, mem_childIds, hdepends]
    by_cases hs : s ∈ stage.dependsOn
    · rw [if_pos (hchild.mpr hs), if_pos hs]
      have hpos : 0 < (remaining stage ordered).length :=
        List.length_pos_of_mem (List.mem_filter.mpr ⟨hs, by simpa using hnew⟩)
      simp
      omega
    · rw [if_neg (mt hchild.mp hs), if_neg hs]
  · refine DependencyOrdered.concat_iff.mpr ⟨h.inOrder, ?_⟩
    exact ((h.mem s).mp (List.mem_append_right _ List.mem_cons_self)).2
  · -- the ready stages are sorted, and whatever could be taken is ready
    intro pre x post heq y hy hout hdeps
    rcases List.eq_nil_or_concat post with rfl | ⟨post, z, rfl⟩
    · obtain ⟨rfl, hlast⟩ := List.append_inj' heq rfl
      obtain rfl := (List.cons.inj hlast).1
      rcases List.mem_append.mp ((h.mem y).mpr ⟨hy, hdeps⟩) with hin | hin
      · exact absurd hin hout
      · rcases List.mem_cons.mp hin with rfl | hin
        · exact le_rfl
        · exact (List.pairwise_cons.mp h.sorted).1 y hin
    · have hsplit : ordered ++ [s] = (pre ++ x :: post) ++ [z] := by simpa using heq
      exact h.greedy pre x post (List.append_inj' hsplit rfl).1 y hy hout hdeps

/-- With nothing ready any more, every stage has been taken: a least one that has not would be
ready. -/
lemma Traversed.complete {ordered xs : List Identifier}
    (h : Traversed task degrees [] ordered) (hordered : DependencyOrdered task.Depends xs)
    (hall : ∀ s ∈ task.stageIds, s ∈ xs) : ordered.Perm task.stageIds := by
  refine (List.perm_ext_iff_of_nodup (by simpa using h.nodup) KnownStages.nodup).mpr ?_
  intro s
  constructor
  · intro hs
    exact ((h.mem s).mp (by simpa using hs)).1
  · intro hs
    by_contra hout
    obtain ⟨y, hy, ⟨hknown, hyout⟩, hleast⟩ := hordered.exists_least
      (P := fun s => s ∈ task.stageIds ∧ s ∉ ordered) (hall s hs) ⟨hs, hout⟩
    have hin := (h.mem y).mpr ⟨hknown, fun d hd => by
      by_contra hdout
      exact hleast d hd ⟨hd.known.2, hdout⟩⟩
    exact hyout (by simpa using hin)

lemma topologicalLoop_spec {fuel : Nat}
    {ready ordered : List Identifier} (h : Traversed task degrees ready ordered)
    (hfuel : task.stageIds.length ≤ fuel + ordered.length) :
    ∃ degrees', Traversed task degrees' []
      (topologicalLoop (childIds task) fuel degrees ready ordered) := by
  induction fuel generalizing degrees ready ordered with
  | zero =>
    -- as many distinct stages have been taken as there are
    have hsub : ordered ++ ready ⊆ task.stageIds := fun s hs => ((h.mem s).mp hs).1
    have hlength := (List.subperm_of_subset h.nodup hsub).length_le
    rw [List.length_append] at hlength
    obtain rfl : ready = [] := List.length_eq_zero_iff.mp (by omega)
    exact ⟨degrees, h⟩
  | succ fuel ih =>
    cases ready with
    | nil => exact ⟨degrees, h⟩
    | cons s ready =>
      refine ih h.take ?_
      rw [List.length_append, List.length_singleton]
      omega

lemma traversed_initial (task : TaskDocument) [KnownStages task] : Traversed task
    (Dict.ofList (task.evaluation.stages.map fun st => (st.stageId, (st.dependsOn.length : Int))))
    (sortedStrings ((task.evaluation.stages.filter fun st => st.dependsOn.length = 0).map
      StageSpec.stageId)) [] := by
  have hsorted := sortedStrings_perm ((task.evaluation.stages.filter fun st =>
    st.dependsOn.length = 0).map StageSpec.stageId)
  refine ⟨?_, ?_, ?_, .nil, List.pairwise_insertionSort _ _, by simp [Greedy]⟩
  · rw [List.nil_append, hsorted.nodup_iff]
    exact KnownStages.nodup.sublist (List.filter_sublist.map _)
  · intro s
    rw [List.nil_append, hsorted.mem_iff, List.mem_map]
    constructor
    · rintro ⟨stage, hstage, rfl⟩
      obtain ⟨hmem, hnone⟩ := List.mem_filter.mp hstage
      refine ⟨List.mem_map_of_mem hmem, ?_⟩
      rw [← remaining_eq_nil hmem, remaining,
        List.length_eq_zero_iff.mp (of_decide_eq_true hnone), List.filter_nil]
    · rintro ⟨hknown, hdeps⟩
      obtain ⟨stage, hmem, rfl⟩ := List.mem_map.mp hknown
      refine ⟨stage, List.mem_filter.mpr ⟨hmem, ?_⟩, rfl⟩
      have hnil := (remaining_eq_nil hmem).mpr hdeps
      simpa [remaining] using hnil
  · intro stage hstage
    have hnodup : ((task.evaluation.stages.map fun st =>
        (st.stageId, (st.dependsOn.length : Int))).map Prod.fst).Nodup := by
      simpa [List.map_map, Function.comp_def, TaskDocument.stageIds] using KnownStages.nodup
    rw [Dict.get?_ofList hnodup]
    exact List.mem_map.mpr ⟨stage, hstage, by simp [remaining]⟩

/-- `topological_stage_ids` on the stages of any document. -/
def topologicalOrder (stages : List StageSpec) : Except String (List Identifier) := do
  let indegree := Dict.ofList (stages.map fun st => (st.stageId, (st.dependsOn.length : Int)))
  let children := fun s => (stages.filter fun st => s ∈ st.dependsOn).map StageSpec.stageId
  let ready := sortedStrings
    ((stages.filter fun st => st.dependsOn.length = 0).map StageSpec.stageId)
  let ordered := topologicalLoop children stages.length indegree ready []
  raiseIf (ordered.length ≠ stages.length) "evaluation stages must form an acyclic graph"
  return ordered

/-- The traversal fails exactly when it has not taken every stage. -/
lemma topologicalOrder_spec (task : TaskDocument) [KnownStages task] : ∃ degrees ordered,
    Traversed task degrees [] ordered ∧
      ∀ xs, topologicalOrder task.evaluation.stages = .ok xs ↔
        xs = ordered ∧ ordered.Perm task.stageIds := by
  have hfuel : task.stageIds.length ≤
      task.evaluation.stages.length + ([] : List Identifier).length := by
    simp [TaskDocument.stageIds]
  obtain ⟨degrees, h⟩ := topologicalLoop_spec (traversed_initial task) hfuel
  refine ⟨degrees, _, h, fun xs => ?_⟩
  simp only [topologicalOrder, bind_eq_ok, raiseIf_eq_ok, exists_const, pure_eq_ok, not_not]
  constructor
  · rintro ⟨hlength, rfl⟩
    refine ⟨rfl, (List.subperm_of_subset (by simpa using h.nodup) fun s hs => ?_).perm_of_length_le
      (by rw [TaskDocument.stageIds, List.length_map]; exact hlength.ge)⟩
    exact ((h.mem s).mp (by simpa using hs)).1
  · rintro ⟨rfl, hperm⟩
    exact ⟨hperm.length_eq.trans (by simp [TaskDocument.stageIds]), rfl⟩

/-- On a valid task the traversal takes every stage once, after the stages it depends on. -/
theorem topologicalStageIds_eq_ok (task : TaskSpec) :
    ∃ ordered, topologicalStageIds task = .ok ordered ∧ ordered.Perm task.stageIds ∧
      DependencyOrdered task.Depends ordered := by
  obtain ⟨degrees, ordered, h, hok⟩ := topologicalOrder_spec task.toTaskDocument
  obtain ⟨xs, hxs, hall⟩ := task.exists_dependencyOrdered
  have hperm := h.complete hxs hall
  exact ⟨ordered, (hok ordered).mpr ⟨rfl, hperm⟩, hperm, h.inOrder⟩

end Stages

end EdaGym
