import EdaGym.Run.RecoveryStep

/-!
# Sequences of recovery commits

A run of the recovery is a sequence of commits that each close one evaluation or one tool request.
The conditions under which a recovery gets through to its end are the same before and after each of
its commits.
-/

namespace EdaGym

variable [Canonical] [ToolIdentities]

/-! ### Recoverable states -/

/-- Every open evaluation and every open tool request can be closed, whatever was closed before. -/
structure Recoverable (header : RunHeader) (st : ReplayState) : Prop where
  unresulted : ∀ k c s, st.activeJobs.get? k = some (c, s) → ∀ r ∈ st.results c, r.stageId ≠ s
  stages : ∀ k k' v, st.activeJobs.get? k = some v → st.activeJobs.get? k' = some v → k = k'
  requests : ∀ k request, st.openToolRequest k = some request →
    ∃ name, RequestRecoverable header st k request name
  distinct : ∀ k k' request request' name name', st.openToolRequest k = some request →
    st.openToolRequest k' = some request' → request.payload.toolName = some name →
    request'.payload.toolName = some name' →
    recoveredResultId k name = recoveredResultId k' name' → k = k'

section Steps

variable {header : RunHeader} {task : TaskSpec} {st st' : ReplayState}

omit [ToolIdentities] in
lemma SameTools.openToolRequest (h : SameTools st st') :
    st'.openToolRequest = st.openToolRequest := by
  funext k
  simp only [ReplayState.openToolRequest, h.interactions, h.resolved]

omit [ToolIdentities] in
lemma SameTools.openDispatch (h : SameTools st st') : st'.openDispatch = st.openDispatch := by
  funext k
  simp only [ReplayState.openDispatch, h.reservations, h.terminals]

variable {k name : Identifier}

lemma SameTools.requestRecoverable (h : SameTools st st') {request : InteractionRecordedEvent} :
    RequestRecoverable header st' k request name ↔ RequestRecoverable header st k request name := by
  constructor
  · rintro ⟨h₁, h₂, h₃, h₄, h₅⟩
    rw [h.writer] at h₁
    rw [h.interactions] at h₄
    rw [h.reservations] at h₅
    exact ⟨h₁, h₂, h₃, h₄, h₅⟩
  · rintro ⟨h₁, h₂, h₃, h₄, h₅⟩
    rw [← h.writer] at h₁
    rw [← h.interactions] at h₄
    rw [← h.reservations] at h₅
    exact ⟨h₁, h₂, h₃, h₄, h₅⟩

lemma ClosesEvaluation.recoverable {k c s : Identifier} (h : ClosesEvaluation st st' k c s) :
    Recoverable header st ↔ Recoverable header st' := by
  have hjobs : ∀ k' v, st'.activeJobs.get? k' = some v ↔
      k' ≠ k ∧ st.activeJobs.get? k' = some v := by
    intro k' v
    rw [h.activeJobs, Dict.get?_erase]
    split_ifs with hk <;> simp [hk]
  constructor
  · intro hr
    refine ⟨?_, ?_, ?_, ?_⟩
    · intro k' c' s' hactive r hmem
      obtain ⟨hne, hactive⟩ := (hjobs _ _).mp hactive
      rw [h.results c', List.mem_append] at hmem
      rcases hmem with hmem | hmem
      · exact hr.unresulted k' c' s' hactive r hmem
      · split_ifs at hmem with hc
        · obtain rfl := List.mem_singleton.mp hmem
          rintro rfl
          subst hc
          exact hne (hr.stages k' k _ hactive h.active)
        · cases hmem
    · intro k₁ k₂ v h₁ h₂
      exact hr.stages k₁ k₂ v ((hjobs _ _).mp h₁).2 ((hjobs _ _).mp h₂).2
    · intro k' request hopen
      rw [h.tools.openToolRequest] at hopen
      obtain ⟨name, hname⟩ := hr.requests k' request hopen
      exact ⟨name, h.tools.requestRecoverable.mpr hname⟩
    · rw [h.tools.openToolRequest]
      exact hr.distinct
  · intro hr
    have hresults : ∀ c' r, r ∈ st.results c' → r ∈ st'.results c' := by
      intro c' r hmem
      rw [h.results c']
      exact List.mem_append_left _ hmem
    have hresult : failedResult s ∈ st'.results c := by
      rw [h.results c, if_pos rfl]
      exact List.mem_append_right _ (List.mem_singleton_self _)
    -- another job for the stage just closed could never be completed
    have hother : ∀ k', k' ≠ k → st.activeJobs.get? k' ≠ some (c, s) := fun k' hne hactive =>
      hr.unresulted k' c s ((hjobs _ _).mpr ⟨hne, hactive⟩) _ hresult rfl
    refine ⟨?_, ?_, ?_, ?_⟩
    · intro k' c' s' hactive r hmem
      by_cases hk : k' = k
      · subst hk
        rw [h.active, Option.some.injEq, Prod.mk.injEq] at hactive
        obtain ⟨rfl, rfl⟩ := hactive
        exact h.unresulted r hmem
      · exact hr.unresulted k' c' s' ((hjobs _ _).mpr ⟨hk, hactive⟩) r (hresults c' r hmem)
    · intro k₁ k₂ v h₁ h₂
      by_cases hk₁ : k₁ = k
      · by_cases hk₂ : k₂ = k
        · rw [hk₁, hk₂]
        · rw [hk₁, h.active, Option.some.injEq] at h₁
          exact absurd (h₁ ▸ h₂) (hother k₂ hk₂)
      · by_cases hk₂ : k₂ = k
        · rw [hk₂, h.active, Option.some.injEq] at h₂
          exact absurd (h₂ ▸ h₁) (hother k₁ hk₁)
        · exact hr.stages k₁ k₂ v ((hjobs _ _).mpr ⟨hk₁, h₁⟩) ((hjobs _ _).mpr ⟨hk₂, h₂⟩)
    · intro k' request hopen
      rw [← h.tools.openToolRequest] at hopen
      obtain ⟨name, hname⟩ := hr.requests k' request hopen
      exact ⟨name, h.tools.requestRecoverable.mp hname⟩
    · rw [← h.tools.openToolRequest]
      exact hr.distinct

lemma ClosesRequest.recoverable (h : ClosesRequest header st st' k name) :
    Recoverable header st ↔ Recoverable header st' := by
  obtain ⟨request, hopen, hrequest⟩ := h.request
  have hopens : ∀ k' r, st'.openToolRequest k' = some r ↔
      k' ≠ k ∧ st.openToolRequest k' = some r := by
    intro k' r
    by_cases hk : k' = k
    · rw [hk, h.closed]
      simp
    · rw [h.others k' hk]
      simp [hk]
  constructor
  · intro hr
    refine ⟨?_, ?_, ?_, ?_⟩
    · intro k' c s hactive
      rw [h.activeJobs] at hactive
      rw [h.results c]
      exact hr.unresulted k' c s hactive
    · rw [h.activeJobs]
      exact hr.stages
    · intro k' r hopen'
      obtain ⟨hne, hopen'⟩ := (hopens _ _).mp hopen'
      obtain ⟨name', hname'⟩ := hr.requests k' r hopen'
      refine ⟨name', h.writer ▸ hname'.actor, hname'.tool, hname'.known, ?_, ?_⟩
      · rw [h.interactions]
        rintro (heq | hmem)
        · exact hne (hr.distinct k' k r request name' name hopen' hopen hname'.tool
            hrequest.tool heq)
        · exact hname'.fresh hmem
      · rw [h.reservations]
        exact hname'.identity
    · intro k₁ k₂ r₁ r₂ name₁ name₂ h₁ h₂
      exact hr.distinct k₁ k₂ r₁ r₂ name₁ name₂ ((hopens _ _).mp h₁).2 ((hopens _ _).mp h₂).2
  · intro hr
    -- another request with the same result identifier could never be answered
    have hother : ∀ k' r name', k' ≠ k → st.openToolRequest k' = some r →
        r.payload.toolName = some name' →
        recoveredResultId k' name' ≠ recoveredResultId k name := by
      intro k' r name' hne hopen' htool heq
      obtain ⟨name'', hname''⟩ := hr.requests k' r ((hopens _ _).mpr ⟨hne, hopen'⟩)
      obtain rfl := Option.some.inj (htool.symm.trans hname''.tool)
      exact hname''.fresh ((h.interactions _).mpr (Or.inl heq))
    refine ⟨?_, ?_, ?_, ?_⟩
    · intro k' c s hactive
      rw [← h.activeJobs] at hactive
      rw [← h.results c]
      exact hr.unresulted k' c s hactive
    · rw [← h.activeJobs]
      exact hr.stages
    · intro k' r hopen'
      by_cases hk : k' = k
      · subst hk
        rw [hopen, Option.some.injEq] at hopen'
        exact ⟨name, hopen' ▸ hrequest⟩
      · obtain ⟨name', hname'⟩ := hr.requests k' r ((hopens _ _).mpr ⟨hk, hopen'⟩)
        refine ⟨name', h.writer ▸ hname'.actor, hname'.tool, hname'.known, fun hmem => ?_, ?_⟩
        · exact hname'.fresh ((h.interactions _).mpr (Or.inr hmem))
        · rw [← h.reservations]
          exact hname'.identity
    · intro k₁ k₂ r₁ r₂ name₁ name₂ h₁ h₂ ht₁ ht₂ heq
      by_cases hk₁ : k₁ = k
      · by_cases hk₂ : k₂ = k
        · rw [hk₁, hk₂]
        · rw [hk₁, hopen, Option.some.injEq] at h₁
          rw [← h₁, hrequest.tool, Option.some.injEq] at ht₁
          rw [hk₁, ← ht₁] at heq
          exact absurd heq.symm (hother k₂ r₂ name₂ hk₂ h₂ ht₂)
      · by_cases hk₂ : k₂ = k
        · rw [hk₂, hopen, Option.some.injEq] at h₂
          rw [← h₂, hrequest.tool, Option.some.injEq] at ht₂
          rw [hk₂, ← ht₂] at heq
          exact absurd heq (hother k₁ r₁ name₁ hk₁ h₁ ht₁)
        · exact hr.distinct k₁ k₂ r₁ r₂ name₁ name₂ ((hopens _ _).mpr ⟨hk₁, h₁⟩)
            ((hopens _ _).mpr ⟨hk₂, h₂⟩) ht₁ ht₂ heq

lemma RecoveryStep.recoverable {batch : List RunEvent} (h : RecoveryStep header task st batch st') :
    Recoverable header st ↔ Recoverable header st' := by
  rcases h.closes with ⟨k, c, s, hcloses⟩ | ⟨k, name, hcloses⟩
  · exact hcloses.recoverable
  · exact hcloses.recoverable

/-! ### Sequences of commits -/

/-- Work is only closed, and closed work has given its lease back. -/
structure Shrinks (st st' : ReplayState) : Prop where
  evaluations : ∀ k v, st'.activeJobs.get? k = some v → st.activeJobs.get? k = some v
  tools : ∀ k r, st'.openToolRequest k = some r → st.openToolRequest k = some r
  dispatches : ∀ k r, st'.openDispatch k = some r → st.openDispatch k = some r
  leases : ∀ k a, st'.activeLicenseLeases.get? k = some a → st.activeLicenseLeases.get? k = some a
  jobCustody : ∀ k v, st.activeJobs.get? k = some v → st'.activeJobs.get? k = none →
    k ∉ st'.activeLicenseLeases
  invocationCustody : ∀ k r, st.openDispatch k = some r → st'.openDispatch k = none →
    r.payload.invocationId ∉ st'.activeLicenseLeases

section

omit [ToolIdentities]

lemma Shrinks.refl (st : ReplayState) : Shrinks st st where
  evaluations _ _ h := h
  tools _ _ h := h
  dispatches _ _ h := h
  leases _ _ h := h
  jobCustody k v h hnone := by
    rw [h] at hnone
    cases hnone
  invocationCustody k r h hnone := by
    rw [h] at hnone
    cases hnone

lemma Shrinks.not_mem_leases (h : Shrinks st st') {k : Identifier}
    (hk : k ∉ st.activeLicenseLeases) : k ∉ st'.activeLicenseLeases := by
  intro hmem
  obtain ⟨a, ha⟩ := Dict.mem_iff.mp hmem
  exact hk (Dict.mem_of_get? (h.leases k a ha))

lemma Shrinks.trans {mid : ReplayState} (h : Shrinks st mid) (h' : Shrinks mid st') :
    Shrinks st st' where
  evaluations k v hv := h.evaluations k v (h'.evaluations k v hv)
  tools k r hr := h.tools k r (h'.tools k r hr)
  dispatches k r hr := h.dispatches k r (h'.dispatches k r hr)
  leases k a ha := h.leases k a (h'.leases k a ha)
  jobCustody k v hv hnone := by
    cases hmid : mid.activeJobs.get? k with
    | none => exact h'.not_mem_leases (h.jobCustody k v hv hmid)
    | some w => exact h'.jobCustody k w hmid hnone
  invocationCustody k r hr hnone := by
    cases hmid : mid.openDispatch k with
    | none => exact h'.not_mem_leases (h.invocationCustody k r hr hmid)
    | some w =>
      have heq := (h.dispatches k w hmid).symm.trans hr
      rw [Option.some.injEq] at heq
      exact heq ▸ h'.invocationCustody k w hmid hnone

lemma ClosesEvaluation.shrinks {k c s : Identifier} (h : ClosesEvaluation st st' k c s) :
    Shrinks st st' where
  evaluations k' v hv := by
    rw [h.activeJobs, Dict.get?_erase] at hv
    split_ifs at hv
    exact hv
  tools k' r hr := by rwa [h.tools.openToolRequest] at hr
  dispatches k' r hr := by rwa [h.tools.openDispatch] at hr
  leases k' a ha := by
    by_cases hk : k' = k
    · rw [hk] at ha
      exact absurd (Dict.mem_of_get? ha) h.custody
    · rwa [h.leases k' hk] at ha
  jobCustody k' v hv hnone := by
    rw [h.activeJobs, Dict.get?_erase] at hnone
    split_ifs at hnone with hk
    · rw [hk]
      exact h.custody
    · rw [hv] at hnone
      cases hnone
  invocationCustody k' r hr hnone := by
    rw [h.tools.openDispatch, hr] at hnone
    cases hnone

end

lemma ClosesRequest.shrinks (h : ClosesRequest header st st' k name) :
    Shrinks st st' where
  evaluations k' v hv := by rwa [h.activeJobs] at hv
  tools k' r hr := by
    by_cases hk : k' = k
    · rw [hk, h.closed] at hr
      cases hr
    · rwa [h.others k' hk] at hr
  dispatches k' r hr := by
    by_cases hk : k' = k
    · rw [hk, h.undispatched] at hr
      cases hr
    · rwa [h.dispatches k' hk] at hr
  leases := h.leases
  jobCustody k' v hv hnone := by
    rw [h.activeJobs, hv] at hnone
    cases hnone
  invocationCustody k' r hr hnone := by
    by_cases hk : k' = k
    · rw [hk] at hr
      exact h.custody r hr
    · rw [h.dispatches k' hk, hr] at hnone
      cases hnone

lemma RecoveryStep.shrinks {batch : List RunEvent} (h : RecoveryStep header task st batch st') :
    Shrinks st st' := by
  rcases h.closes with ⟨k, c, s, hcloses⟩ | ⟨k, name, hcloses⟩
  · exact hcloses.shrinks
  · exact hcloses.shrinks

omit [ToolIdentities] in
/-- An event that serves work still open served it all along. -/
lemma Serves.of_shrinks (ht : st.Tracked) (ht' : st'.Tracked) (h : Shrinks st st')
    {event : RunEvent} (hs : Serves st'.prior event) : Serves st.prior event := by
  have hjob : ∀ k v, evaluationBracket.Pending st'.prior k v →
      evaluationBracket.Pending st.prior k v := fun k v hv =>
    (ht.evaluations.table_iff k v).mp (h.evaluations k v ((ht'.evaluations.table_iff k v).mpr hv))
  have hdispatch : ∀ k v, dispatchBracket.Pending st'.prior k v →
      dispatchBracket.Pending st.prior k v := fun k v hv =>
    (ht.dispatches.table_iff k v).mp (h.dispatches k v ((ht'.dispatches.table_iff k v).mpr hv))
  have htool : ∀ k v, toolBracket.Pending st'.prior k v →
      toolBracket.Pending st.prior k v := fun k v hv =>
    (ht.tools.table_iff k v).mp (h.tools k v ((ht'.tools.table_iff k v).mpr hv))
  cases hs with
  | job hp => exact .job (hjob _ _ hp)
  | jobLease hp => exact .jobLease (hjob _ _ hp)
  | evaluation hp => exact .evaluation (hjob _ _ hp)
  | invocationLease hp hid => exact .invocationLease (hdispatch _ _ hp) hid
  | dispatch hp => exact .dispatch (hdispatch _ _ hp)
  | result hp hrel => exact .result (htool _ _ hp) hrel

/-- A sequence of commits of recoveries. -/
inductive RecoveryRun (header : RunHeader) (task : TaskSpec) (st : ReplayState) :
    List (List RunEvent) → ReplayState → Prop
  | refl : RecoveryRun header task st [] st
  | tail {commits : List (List RunEvent)} {batch : List RunEvent} {mid st' : ReplayState}
      (h : RecoveryRun header task st commits mid)
      (hstep : RecoveryStep header task mid batch st') :
      RecoveryRun header task st (commits ++ [batch]) st'

variable {commits : List (List RunEvent)}

lemma RecoveryRun.trans {mid : ReplayState} {commits' : List (List RunEvent)}
    (h : RecoveryRun header task st commits mid) (h' : RecoveryRun header task mid commits' st') :
    RecoveryRun header task st (commits ++ commits') st' := by
  induction h' with
  | refl => simpa using h
  | tail _ hstep ih =>
    rw [← List.append_assoc]
    exact ih.tail hstep

lemma RecoveryRun.recoverable (h : RecoveryRun header task st commits st') :
    Recoverable header st ↔ Recoverable header st' := by
  induction h with
  | refl => exact Iff.rfl
  | tail _ hstep ih => exact ih.trans hstep.recoverable

lemma RecoveryRun.shrinks (h : RecoveryRun header task st commits st') : Shrinks st st' := by
  induction h with
  | refl => exact .refl st
  | tail _ hstep ih => exact ih.trans hstep.shrinks

lemma RecoveryRun.accepted (h : RecoveryRun header task st commits st') :
    foldSteps (replayStep header task) st commits.flatten = .ok st' := by
  induction h with
  | refl => rfl
  | tail _ hstep ih =>
    rw [List.flatten_append, List.flatten_singleton, foldSteps_append_eq_ok]
    exact ⟨_, ih, hstep.accepted⟩

lemma RecoveryRun.replayed {events : List RunEvent} (h : RecoveryRun header task st commits st')
    (hst : replayLoop header task events = .ok st) :
    replayLoop header task (events ++ commits.flatten) = .ok st' :=
  foldSteps_append_eq_ok.mpr ⟨st, hst, h.accepted⟩

lemma RecoveryRun.serves {events : List RunEvent} (h : RecoveryRun header task st commits st')
    (hst : replayLoop header task events = .ok st) :
    ∀ e ∈ commits.flatten, Serves events e := by
  have ht := replayLoop_tracked hst
  induction h with
  | refl => simp
  | tail hrun hstep ih =>
    intro e he
    rw [List.flatten_append, List.flatten_singleton, List.mem_append] at he
    rcases he with he | he
    · exact ih e he
    · have hs := (hstep.serves e he).of_shrinks ht (replayLoop_tracked (hrun.replayed hst))
        hrun.shrinks
      rwa [replayLoop_prior hst] at hs

lemma RecoveryRun.take (h : RecoveryRun header task st commits st') (n : Nat) :
    ∃ mid, RecoveryRun header task st (commits.take n) mid := by
  induction h with
  | refl => exact ⟨st, by simpa using RecoveryRun.refl⟩
  | @tail commits batch mid st' hrun hstep ih =>
    by_cases hn : n ≤ commits.length
    · rw [List.take_append_of_le_length hn]
      exact ih
    · refine ⟨st', ?_⟩
      rw [List.take_of_length_le (by simp; omega)]
      exact hrun.tail hstep

/-! ### The journal after a run -/

section

omit [ToolIdentities]

variable {log : List RunEvent} {event : RunEvent}

lemma Serves.isIncarnationEvent (h : Serves log event) : event.isIncarnationEvent = false := by
  cases h <;> rfl

lemma Serves.isRunEnded (h : Serves log event) : event.isRunEnded = false := by
  cases h <;> rfl

lemma Serves.ne_nil (h : Serves log event) : log ≠ [] := by
  rintro rfl
  cases h with
  | job h | jobLease h | evaluation h | invocationLease h | dispatch h | result h =>
    exact Bracket.not_pending_nil h

lemma lifecycle_append {events more : List RunEvent} {l : ParticipantIncarnationLifecycle}
    (h : ∀ e ∈ more, e.isIncarnationEvent = false) :
    participantIncarnationLifecycle (events ++ more) = .ok l ↔
      participantIncarnationLifecycle events = .ok l := by
  induction more using List.reverseRecOn with
  | nil => rw [List.append_nil]
  | append_singleton more event ih =>
    rw [← List.append_assoc, lifecycle_concat (h event (by simp))]
    exact ih fun e he => h e (List.mem_append_left _ he)

lemma terminalReason_append {events : List RunEvent}
    (h : foldSteps (replayStep header task) st events = .ok st')
    (hend : ∀ e ∈ events, e.isRunEnded = false) : st'.terminalReason = st.terminalReason := by
  induction events using List.reverseRecOn generalizing st' with
  | nil =>
    cases h
    rfl
  | append_singleton events event ih =>
    obtain ⟨mid, hmid, hstep⟩ := foldSteps_concat_eq_ok.mp h
    obtain ⟨-, rfl⟩ := replayStep_eq_ok_iff.mp hstep
    rw [← ih hmid fun e he => hend e (List.mem_append_left _ he)]
    have hevent := hend event (by simp)
    cases event <;> first | rfl | cases hevent

/-- Events that serve open work can be appended to an accepted journal as a whole. -/
lemma replay_append {events more : List RunEvent} {state : RunState}
    (h : replay header task events = .ok state) (hst : replayLoop header task events = .ok st)
    (hmore : foldSteps (replayStep header task) st more = .ok st')
    (hserves : ∀ e ∈ more, Serves events e) :
    replay header task (events ++ more) = .ok (st'.runState header) := by
  obtain ⟨hdigest, hbinding, -, l, -, hl, hinc, -⟩ := replay_eq_ok_iff.mp h
  refine replay_eq_ok_iff.mpr ⟨hdigest, hbinding, st', l,
    foldSteps_append_eq_ok.mpr ⟨st, hst, hmore⟩,
    (lifecycle_append fun e he => (hserves e he).isIncarnationEvent).mpr hl, ?_, rfl⟩
  rintro ⟨hne, hpurpose, hnil⟩
  refine hinc ⟨?_, hpurpose, hnil⟩
  rintro rfl
  rcases List.exists_mem_of_ne_nil _ hne with ⟨e, he⟩
  exact (hserves e he).ne_nil rfl

end

end Steps

end EdaGym
