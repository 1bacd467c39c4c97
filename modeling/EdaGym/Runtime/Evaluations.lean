import EdaGym.Evaluation.ScoringLaws
import EdaGym.Runtime.Advance

/-!
# Evaluating a candidate

The evaluation of a candidate goes on as long as its plan names a stage, whatever its stages answer.
-/

namespace EdaGym

variable (task : TaskSpec)

/-- The evaluation of a candidate, for a number of steps: the stage of the plan is executed, and
`evaluator` is what its execution answers. -/
def evaluateCandidate (evaluator : List StageResult → Identifier → StageResult) :
    Nat → List StageResult → Except String (List StageResult)
  | 0, results => return results
  | n + 1, results => do
    let (_, plan) ← planCandidate task results
    match plan with
    | .evaluate stageId => evaluateCandidate evaluator n (results ++ [evaluator results stageId])
    | .score => return results

/-- Whatever a stage is given, it answers with a well formed result of its own. -/
def AnswersStages (evaluator : List StageResult → Identifier → StageResult) : Prop :=
  ∀ results s, (evaluator results s).stageId = s ∧ WellFormedResult task (evaluator results s)

/-- Each result beyond the first ones came when its stage was ready and no gate had failed. -/
def EvaluatedInOrder (first : Nat) (results : List StageResult) : Prop :=
  ∀ pre result post, results = pre ++ result :: post → first ≤ pre.length →
    IsReady task pre result.stageId ∧
      ∃ status, hardGateStatus task pre = .ok status ∧ status.state ≠ .failed

variable {task} {results : List StageResult}

lemma Snapshot.length_le (h : Snapshot task results) : results.length ≤ task.stageIds.length := by
  have hsub : results.map StageResult.stageId ⊆ task.stageIds := by
    intro id hid
    obtain ⟨result, hresult, rfl⟩ := List.mem_map.mp hid
    exact h.known result hresult
  simpa using (h.nodup.subperm hsub).length_le

/-- A plan names a stage only when the stage is ready and no gate has failed. -/
lemma Snapshot.planCandidate (h : Snapshot task results) : ∃ status plan,
    EdaGym.planCandidate task results = .ok (status, plan) ∧
      ∀ s, plan = .evaluate s → IsReady task results s ∧
        hardGateStatus task results = .ok status ∧ status.state ≠ .failed := by
  obtain ⟨status, hstatus, -⟩ := h.gates
  obtain ⟨ready, hready, hmem⟩ := h.readyStages
  refine ⟨status, if status.state ≠ .failed then ready.head?.elim .score .evaluate else .score, ?_,
    fun s hs => ?_⟩
  · simp only [EdaGym.planCandidate, hstatus, hready, ok_bind]
    split_ifs
    · cases ready <;> rfl
    · rfl
  · split_ifs at hs with hrunning
    cases ready with
    | nil => cases hs
    | cons s' rest =>
      cases hs
      exact ⟨((hmem s).mp List.mem_cons_self).2, hstatus, hrunning⟩

variable {evaluator : List StageResult → Identifier → StageResult}

/-- Every step adds the result of a stage without one, and the stages are finitely many. -/
lemma Snapshot.evaluate {results : List StageResult} (hanswers : AnswersStages task evaluator)
    (h : Snapshot task results) :
    ∃ final status, Snapshot task final ∧
      EdaGym.planCandidate task final = .ok (status, .score) ∧ results <+: final ∧
      EvaluatedInOrder task results.length final ∧
      ∀ n, task.stageIds.length ≤ n + results.length →
        evaluateCandidate task evaluator n results = .ok final := by
  obtain ⟨status, plan, hplan, hevaluate⟩ := h.planCandidate
  cases plan with
  | score =>
    refine ⟨results, status, h, hplan, List.prefix_rfl, ?_, fun n _ => ?_⟩
    · intro pre result post heq hle
      rw [heq, List.length_append, List.length_cons] at hle
      omega
    · cases n with
      | zero => rfl
      | succ n => simp only [evaluateCandidate, hplan, ok_bind]; rfl
  | evaluate s =>
    obtain ⟨hready, hgates⟩ := hevaluate s rfl
    obtain ⟨hstage, hwell⟩ := hanswers results s
    have hnext : Snapshot task (results ++ [evaluator results s]) :=
      Snapshot.concat (hstage.symm ▸ hready) hwell
    have hlength := hnext.length_le
    rw [List.length_append, List.length_singleton] at hlength
    obtain ⟨final, status', hfinal, hscore, hprefix, horder, hruns⟩ := evaluate hanswers hnext
    refine ⟨final, status', hfinal, hscore, (List.prefix_append _ _).trans hprefix, ?_, ?_⟩
    · intro pre result post heq hle
      by_cases hlast : pre.length = results.length
      · obtain ⟨rest, hrest⟩ := hprefix
        rw [heq, List.append_assoc] at hrest
        obtain ⟨rfl, htail⟩ := List.append_inj hrest hlast.symm
        cases htail
        exact ⟨hstage.symm ▸ hready, status, hgates⟩
      · refine horder pre result post heq ?_
        rw [List.length_append, List.length_singleton]
        omega
    · intro n hn
      cases n with
      | zero => omega
      | succ n =>
        simp only [evaluateCandidate, hplan, ok_bind]
        refine hruns n ?_
        rw [List.length_append, List.length_singleton]
        omega
termination_by task.stageIds.length - results.length
decreasing_by
  rw [List.length_append, List.length_singleton] at hlength ⊢
  omega

end EdaGym
