import EdaGym.Evaluation.Promotion

/-!
# Ready stages

A stage that is eligible to start has promoting results for all its dependencies. They stay, so a
started stage can always be completed with a failure, as long as it has no result yet.
-/

namespace EdaGym

section Readiness

variable {task : TaskSpec}

/-! ### Ancestors -/

/-- The number of dependency edges out of the stages not visited yet. -/
def unvisitedEdges (stages : List (Identifier × StageSpec)) (ancestors : List Identifier) : Nat :=
  (stages.map fun p => if p.1 ∈ ancestors then 0 else p.2.dependsOn.length).sum

lemma unvisitedEdges_cons_le (stages : List (Identifier × StageSpec)) (dependency : Identifier)
    (ancestors : List Identifier) :
    unvisitedEdges stages (dependency :: ancestors) ≤ unvisitedEdges stages ancestors := by
  induction stages with
  | nil => rfl
  | cons p stages ih =>
    simp only [unvisitedEdges, List.map_cons, List.sum_cons, List.mem_cons] at ih ⊢
    split_ifs <;> grind

variable {stage : StageSpec}

/-- Visiting a stage takes its edges away. -/
lemma unvisitedEdges_visit {stages : List (Identifier × StageSpec)} {dependency : Identifier}
    (hmem : (dependency, stage) ∈ stages) {ancestors : List Identifier}
    (hnew : dependency ∉ ancestors) :
    unvisitedEdges stages (dependency :: ancestors) + stage.dependsOn.length ≤
      unvisitedEdges stages ancestors := by
  induction stages with
  | nil => cases hmem
  | cons p stages ih =>
    have hle := unvisitedEdges_cons_le stages dependency ancestors
    simp only [unvisitedEdges, List.map_cons, List.sum_cons, List.mem_cons] at ih hle ⊢
    rcases List.mem_cons.mp hmem with rfl | hmem
    · rw [if_pos (Or.inl rfl), if_neg hnew]
      dsimp only
      omega
    · have ih' := ih hmem
      split_ifs <;> grind

/-- One round of the worklist uses one unit of fuel. -/
lemma ancestorLoop_fuel {stages : Dict Identifier StageSpec} {fuel : Nat} {dependency : Identifier}
    {ancestors pending : List Identifier} (hnew : dependency ∉ ancestors)
    (hfuel : pending.length + 1 + unvisitedEdges stages.entries ancestors ≤ fuel + 1) :
    ((((stages.get? dependency).map StageSpec.dependsOn).getD []).reverse ++ pending).length +
      unvisitedEdges stages.entries (dependency :: ancestors) ≤ fuel := by
  rw [List.length_append, List.length_reverse]
  cases hget : stages.get? dependency with
  | none =>
    have := unvisitedEdges_cons_le stages.entries dependency ancestors
    simp
    omega
  | some stage =>
    have := unvisitedEdges_visit (Dict.mem_entries.mpr hget) hnew
    simp
    omega

/-- With fuel for the pending stages and the unvisited edges, the worklist is emptied. -/
lemma mem_ancestorLoop {stages : Dict Identifier StageSpec} {fuel : Nat}
    {ancestors pending : List Identifier}
    (hfuel : pending.length + unvisitedEdges stages.entries ancestors ≤ fuel) {x : Identifier}
    (hx : x ∈ ancestors ∨ x ∈ pending) : x ∈ ancestorLoop stages fuel ancestors pending := by
  induction fuel generalizing ancestors pending with
  | zero =>
    have hnil : pending = [] := List.eq_nil_of_length_eq_zero (by omega)
    simpa [ancestorLoop, hnil] using hx
  | succ fuel ih =>
    cases pending with
    | nil => simpa [ancestorLoop] using hx
    | cons dependency pending =>
      rw [List.length_cons] at hfuel
      by_cases hknown : dependency ∈ ancestors
      · rw [ancestorLoop, if_pos hknown]
        refine ih (by omega) ?_
        rcases hx with hx | hx
        · exact Or.inl hx
        · rcases List.mem_cons.mp hx with rfl | hx
          · exact Or.inl hknown
          · exact Or.inr hx
      · rw [ancestorLoop, if_neg hknown]
        refine ih ?_ ?_
        · exact ancestorLoop_fuel hknown hfuel
        · rcases hx with hx | hx
          · exact Or.inl (List.mem_cons_of_mem _ hx)
          · rcases List.mem_cons.mp hx with rfl | hx
            · exact Or.inl List.mem_cons_self
            · exact Or.inr (List.mem_append_right _ hx)

lemma entries_stageIndex (task : TaskSpec) : task.stageIndex.entries =
    task.evaluation.stages.map fun stage => (stage.stageId, stage) := by
  refine Dict.entries_ofList ?_
  have := task.stageIds_nodup
  simpa [TaskDocument.stageIds, List.map_map, Function.comp_def] using this

/-- The traversal of a stage's ancestors starts with enough fuel. -/
lemma ancestorIds_fuel (task : TaskSpec) (own : List Identifier) :
    own.reverse.length + unvisitedEdges task.stageIndex.entries [] ≤
      (task.evaluation.stages.map fun st => st.dependsOn.length).sum + own.length := by
  have hedges : unvisitedEdges task.stageIndex.entries [] =
      (task.evaluation.stages.map fun st => st.dependsOn.length).sum := by
    simp [unvisitedEdges, entries_stageIndex, Function.comp_def]
  rw [hedges, List.length_reverse]
  omega

variable {stageId : Identifier}

lemma dependsOn_subset_ancestorIds (h : task.stageIndex.get? stageId = some stage) :
    ∀ dependency ∈ stage.dependsOn, dependency ∈ ancestorIds task stageId := by
  intro dependency hd
  simp only [ancestorIds, h, mem_sortedStrings]
  exact mem_ancestorLoop (ancestorIds_fuel task stage.dependsOn)
    (Or.inr (List.mem_reverse.mpr hd))

/-! ### Failing a ready stage -/

/-- The snapshot is valid and every dependency of the stage has a promoting result in it. -/
structure StageReady (task : TaskSpec) (results : List StageResult) (stageId : Identifier) :
    Prop where
  valid : ∃ validated, validateStageResults task results = .ok validated
  stage : ∃ stage, task.stageIndex.get? stageId = some stage ∧
    ∀ dependency ∈ stage.dependsOn, ∃ result ∈ results,
      result.stageId = dependency ∧ outcomePromotes result.outcome = true

variable {results : List StageResult}

lemma stageReady_of_eligible {eligibility : StageEligibility}
    (h : stageEligibility task results stageId = .ok eligibility)
    (hready : eligibility.state = .ready) : StageReady task results stageId := by
  simp only [stageEligibility, bind_eq_ok, orRaise_eq_ok] at h
  obtain ⟨stage, hstage, validated, hvalidated, index, hindex, h⟩ := h
  split_ifs at h with h₁ h₂ h₃
  all_goals
    rw [pure_eq_ok] at h
    subst h
  · cases hready
  · cases hready
  · cases hready
  · refine ⟨⟨validated, hvalidated⟩, stage, hstage, ?_⟩
    intro dependency hd
    rw [not_not, List.filter_eq_nil_iff] at h₂ h₃
    have hin : dependency ∈ index := by simpa using h₃ dependency hd
    obtain ⟨result, hresult⟩ := Dict.mem_iff.mp hin
    obtain ⟨hmem, hid⟩ := (get?_resultIndex hindex).mp hresult
    refine ⟨result, mem_of_mem_validated hvalidated hmem, hid, ?_⟩
    have hpromotes := h₂ dependency (dependsOn_subset_ancestorIds hstage dependency hd)
    simpa [hresult] using hpromotes

/-- The result of a stage that never got to run. -/
def failedResult (stageId : Identifier) : StageResult where
  stageId := stageId
  outcome := .infrastructureFailure

/-- What a stage check reads of the results: its own one and those of its dependencies. -/
lemma validateStage_congr {index index' : Dict Identifier StageResult}
    (h : validateStage task index ⟨⟩ stageId = .ok ⟨⟩)
    (hself : index'.get? stageId = index.get? stageId)
    (hkeep : ∀ s r, index.get? s = some r → index'.get? s = some r) :
    validateStage task index' ⟨⟩ stageId = .ok ⟨⟩ := by
  unfold validateStage at h ⊢
  rw [hself]
  cases hget : index.get? stageId with
  | none => rfl
  | some result =>
    simp only [hget, bind_eq_ok, orRaise_eq_ok, foldSteps_unit_eq_ok] at h ⊢
    obtain ⟨stage, hstage, u, hdeps, hevidence⟩ := h
    refine ⟨stage, hstage, u, ?_, hevidence⟩
    intro dependency hd
    have hdep := hdeps dependency hd
    simp only [validateDependency, raiseIf_eq_ok, not_not] at hdep ⊢
    obtain ⟨r, hr, hp⟩ := hdep
    exact ⟨r, hkeep dependency r hr, hp⟩

lemma validateStage_failed {index : Dict Identifier StageResult}
    {failed : StageResult} (hfails : outcomePromotes failed.outcome = false)
    (hbare : failed.measurements = []) (hget : index.get? stageId = some failed)
    (hstage : task.stageIndex.get? stageId = some stage)
    (hdeps : ∀ dependency ∈ stage.dependsOn, ∃ result, index.get? dependency = some result ∧
      outcomePromotes result.outcome = true) :
    validateStage task index ⟨⟩ stageId = .ok ⟨⟩ := by
  unfold validateStage
  simp only [hget, bind_eq_ok, orRaise_eq_ok, foldSteps_unit_eq_ok]
  refine ⟨stage, hstage, ⟨⟩, ?_, ?_⟩
  · intro dependency hd
    simp only [validateDependency, raiseIf_eq_ok, not_not]
    exact hdeps dependency hd
  · simp [validateMeasurementEvidence, hbare, bind_eq_ok, hfails]

/-- A ready stage without a result can be completed with any result that promotes nothing. -/
theorem StageReady.failWith {failed : StageResult}
    (h : StageReady task results failed.stageId) (hfails : outcomePromotes failed.outcome = false)
    (hbare : failed.measurements = []) (hnew : ∀ r ∈ results, r.stageId ≠ failed.stageId) :
    ∃ validated, validateStageResults task (results ++ [failed]) = .ok validated := by
  obtain ⟨validated, hvalid⟩ := h.valid
  obtain ⟨stage, hstage, hdeps⟩ := h.stage
  obtain ⟨index, ordered, hindex, hknown, hordered, hchecks, -⟩ :=
    validateStageResults_eq_ok.mp hvalid
  obtain ⟨hnodup, -⟩ := resultIndex_eq_ok.mp hindex
  have hnodup' : ((results ++ [failed]).map StageResult.stageId).Nodup := by
    rw [List.map_append, List.nodup_append]
    refine ⟨hnodup, List.nodup_singleton _, ?_⟩
    intro s hs s' hs'
    obtain ⟨r, hr, rfl⟩ := List.mem_map.mp hs
    rw [List.map_singleton, List.mem_singleton] at hs'
    rw [hs']
    exact hnew r hr
  have hindex' := resultIndex_eq_ok.mpr ⟨hnodup', rfl⟩
  refine ⟨_, validateStageResults_eq_ok.mpr ⟨_, ordered, hindex', ?_, hordered, ?_, rfl⟩⟩
  · intro r hr
    rcases List.mem_append.mp hr with hr | hr
    · exact hknown r hr
    · rw [List.mem_singleton.mp hr]
      exact Dict.mem_of_get? hstage
  · intro s hs
    have hkeep : ∀ t r, index.get? t = some r → _ := fun t r hr =>
      (get?_resultIndex hindex').mpr
        ⟨List.mem_append_left _ ((get?_resultIndex hindex).mp hr).1,
          ((get?_resultIndex hindex).mp hr).2⟩
    by_cases hss : s = failed.stageId
    · subst hss
      refine validateStage_failed hfails hbare ?_ hstage ?_
      · exact (get?_resultIndex hindex').mpr ⟨by simp, rfl⟩
      · intro dependency hd
        obtain ⟨r, hr, hid, hp⟩ := hdeps dependency hd
        exact ⟨r, (get?_resultIndex hindex').mpr ⟨List.mem_append_left _ hr, hid⟩, hp⟩
    · refine validateStage_congr (hchecks s hs) ?_ hkeep
      ext r
      rw [get?_resultIndex hindex', get?_resultIndex hindex, List.mem_append, List.mem_singleton]
      constructor
      · rintro ⟨hr | rfl, hid⟩
        · exact ⟨hr, hid⟩
        · exact absurd hid.symm hss
      · rintro ⟨hr, hid⟩
        exact ⟨Or.inl hr, hid⟩

/-- A ready stage without a result can be completed with a failure. -/
theorem StageReady.fail
    (h : StageReady task results stageId) (hnew : ∀ r ∈ results, r.stageId ≠ stageId) :
    ∃ validated, validateStageResults task (results ++ [failedResult stageId]) =
      .ok validated :=
  @StageReady.failWith task results (failedResult stageId) h rfl rfl hnew

end Readiness

end EdaGym
