import EdaGym.Run.RecoveryRun

/-!
# Recovery closes exactly what was open

What a recovery returns is its journal with the commits of a run appended, after which no
evaluation, tool request or dispatch is open. On a journal with nothing open it commits nothing, and
after a crash it can be run again.
-/

namespace EdaGym

variable [Canonical] [JournalDigests] [CommitCodec] [ToolIdentities]

/-- The canonical bytes of an event determine its position. -/
def SequenceEncoded : Prop :=
  ∀ a b : RunEvent, eventBytes a = eventBytes b → a.base.sequence = b.base.sequence

section Closure

variable {header : RunHeader} {task : TaskSpec} {timestamp : Datetime} {eventIds : Nat → UUID}
  {fence : Identifier → Except JournalError Unit} {r r' : Recovery} {st st' : ReplayState}

/-! ### Appending a batch -/

omit [JournalDigests] [CommitCodec] [ToolIdentities] in
lemma replayLoop_sequence {events : List RunEvent} (h : replayLoop header task events = .ok st) :
    ∀ e ∈ events, e.base.sequence < events.length := by
  rw [← replayLoop_prior h]
  refine replayLoop_induction (P := fun st => ∀ e ∈ st.prior, e.base.sequence < st.prior.length)
    (by simp [ReplayState.initial]) ?_ h
  intro st event lifecycle ih hadm e he
  rw [ReplayState.prior_apply, List.mem_append, List.mem_singleton] at he
  rw [ReplayState.prior_apply, List.length_append, List.length_singleton]
  rcases he with he | rfl
  · exact Nat.lt_succ_of_lt (ih e he)
  · rw [hadm.envelope.sequence]
    exact Nat.lt_succ_self _

variable {state : RunState}

omit [ToolIdentities] in
/-- Events with positions of their own are never taken for committed ones. -/
lemma admitAppend_eq_ok (hcodec : SequenceEncoded) {requested committed : List RunEvent}
    {new : Bool} (hst : replayLoop header task committed = .ok st)
    (hne : requested ≠ []) (hseq : ∀ e ∈ requested, committed.length ≤ e.base.sequence)
    (h : admitAppend header task requested committed = .ok (state, new)) :
    new = true ∧ replay header task (committed ++ requested) = .ok state := by
  simp only [admitAppend, bind_eq_ok, raiseIf_eq_ok, exists_const] at h
  obtain ⟨-, h⟩ := h
  split_ifs at h with hknown
  · simp only [bind_eq_ok, raiseIf_eq_ok, exists_const] at h
    obtain ⟨-, hbytes, -⟩ := h
    obtain ⟨e, he⟩ := List.exists_mem_of_ne_nil _ hne
    have hcommitted : ((Dict.ofList (committed.map fun c => (c.base.eventId, c))).get?
        e.base.eventId).map eventBytes = some (eventBytes e) :=
      not_not.mp fun hn => hbytes ⟨e, he, hn⟩
    obtain ⟨c, hget, hsame⟩ := Option.map_eq_some_iff.mp hcommitted
    obtain ⟨c', hc', heq⟩ := List.mem_map.mp (Dict.mem_of_get?_ofList hget)
    obtain ⟨-, rfl⟩ := Prod.mk.inj heq
    have hlt := replayLoop_sequence hst c' hc'
    rw [hcodec c' e hsame] at hlt
    exact absurd (hseq e he) (Nat.not_le.mpr hlt)
  · simp only [bind_eq_ok, raiseIf_eq_ok, exists_const, pure_eq_ok, Prod.mk.injEq] at h
    obtain ⟨-, -, -, -, state', hreplay, rfl, rfl⟩ := h
    exact ⟨rfl, hreplay⟩

variable {requested : List RunEvent}

omit [ToolIdentities] in
lemma appendEvents_eq_ok (hcodec : SequenceEncoded) (hst : replayLoop header task r.events = .ok st)
    (hseq : ∀ e ∈ requested, r.events.length ≤ e.base.sequence)
    (h : r.appendEvents header task requested = .ok (r', state)) :
    ∃ st', foldSteps (replayStep header task) st requested = .ok st' ∧
      st'.runState header = state ∧ replay header task (r.events ++ requested) = .ok state ∧
      r' = { events := r.events ++ requested, commits := r.commits ++ [requested],
             issued := r.issued + requested.length } := by
  simp only [Recovery.appendEvents, bind_eq_ok, raiseIf_eq_ok, exists_const] at h
  obtain ⟨hne, ⟨state', new⟩, hadmit, hreturn⟩ := h
  obtain ⟨rfl, hreplay⟩ := admitAppend_eq_ok hcodec hst hne hseq hadmit
  simp only [if_true, pure_eq_ok, Prod.mk.injEq] at hreturn
  obtain ⟨rfl, rfl⟩ := hreturn
  obtain ⟨-, -, st', -, hloop, -, -, hstate⟩ := replay_eq_ok_iff.mp hreplay
  obtain ⟨st₀, hst₀, hrun⟩ := foldSteps_append_eq_ok.mp hloop
  obtain rfl := Except.ok.inj (hst.symm.trans hst₀)
  exact ⟨st', hrun, hstate, hreplay, rfl⟩

/-! ### What a recovery returns -/

/-- From `r` to `r'` a recovery has committed a run. -/
structure Advances (header : RunHeader) (task : TaskSpec) (r : Recovery) (st : ReplayState)
    (r' : Recovery) (st' : ReplayState) : Prop where
  replayed : replayLoop header task r'.events = .ok st'
  run : ∃ commits, r'.commits = r.commits ++ commits ∧ r'.events = r.events ++ commits.flatten ∧
    RecoveryRun header task st commits st'

section

omit [JournalDigests] [CommitCodec]

lemma Advances.refl (h : replayLoop header task r.events = .ok st) :
    Advances header task r st r st where
  replayed := h
  run := ⟨[], by simp, by simp, .refl⟩

lemma Advances.trans {r₁ : Recovery} {st₁ : ReplayState} (h : Advances header task r st r₁ st₁)
    (h' : Advances header task r₁ st₁ r' st') : Advances header task r st r' st' := by
  obtain ⟨commits, hcommits, hevents, hrun⟩ := h.run
  obtain ⟨commits', hcommits', hevents', hrun'⟩ := h'.run
  refine ⟨h'.replayed, commits ++ commits', ?_, ?_, hrun.trans hrun'⟩
  · rw [hcommits', hcommits, List.append_assoc]
  · rw [hevents', hevents, List.flatten_append, List.append_assoc]

lemma Advances.shrinks (h : Advances header task r st r' st') : Shrinks st st' := by
  obtain ⟨commits, -, -, hrun⟩ := h.run
  exact hrun.shrinks

end

/-- One appended batch. -/
lemma advances_append (hcodec : SequenceEncoded) (hst : replayLoop header task r.events = .ok st)
    (hseq : ∀ e ∈ requested, r.events.length ≤ e.base.sequence)
    (hstep : ∀ st', foldSteps (replayStep header task) st requested = .ok st' →
      RecoveryStep header task st requested st')
    (h : r.appendEvents header task requested = .ok (r', state)) :
    ∃ st', Advances header task r st r' st' ∧ RecoveryStep header task st requested st' ∧
      st'.runState header = state := by
  obtain ⟨st', hrun, hstate, -, rfl⟩ := appendEvents_eq_ok hcodec hst hseq h
  refine ⟨st', ⟨foldSteps_append_eq_ok.mpr ⟨st, hst, hrun⟩, [requested], rfl, by simp, ?_⟩,
    hstep st' hrun, hstate⟩
  exact RecoveryRun.refl.tail (hstep st' hrun)

/-! ### Evaluations -/

variable {started : EvaluationStartedEvent}

section

omit [JournalDigests] [CommitCodec] [ToolIdentities]

lemma sequence_interruptedEvaluationEvents {sequence issued : Nat}
    {terminal : Bool}
    {acquisition : Option LicenseLeaseAcquiredEvent} :
    ∀ e ∈ interruptedEvaluationEvents header timestamp eventIds sequence issued started terminal
      acquisition, sequence ≤ e.base.sequence := by
  intro e he
  simp only [interruptedEvaluationEvents, List.mem_append, List.mem_singleton] at he
  rcases he with (he | he) | rfl
  · cases terminal with
    | true => cases he
    | false =>
      obtain rfl := List.mem_singleton.mp he
      exact le_rfl
  · obtain ⟨acquired, -, rfl⟩ := List.mem_map.mp he
    exact Nat.le_add_right _ _
  · exact Nat.le_add_right _ _

/-- The interrupted evaluations are the open ones. -/
lemma mem_interruptedEvaluations (ht : st.Tracked) :
    started ∈ interruptedEvaluations st.prior ↔ .evaluationStarted started ∈ st.prior ∧
      st.activeJobs.get? started.payload.jobId =
        some (started.payload.candidateId, started.payload.stageId) := by
  rw [ht.evaluations.table_iff]
  simp only [interruptedEvaluations, List.mem_filterMap]
  constructor
  · rintro ⟨e, he, hsome⟩
    cases e with
    | evaluationStarted e =>
      simp only [Option.ite_none_left_eq_some, Option.some.injEq] at hsome
      obtain ⟨hnot, rfl⟩ := hsome
      refine ⟨he, ⟨_, he, rfl⟩, ?_⟩
      rintro ⟨c, hc, hclose⟩
      cases c with
      | evaluationCompleted c => exact hnot ⟨_, hc, hclose⟩
      | _ => cases hclose
    | _ => cases hsome
  · rintro ⟨he, -, hnot⟩
    refine ⟨_, he, ?_⟩
    simp only [Option.ite_none_left_eq_some, and_true]
    rintro ⟨c, hc, hclose⟩
    exact hnot ⟨c, hc, by cases c <;> exact hclose⟩

end

lemma reconcileEvaluation_advances (hcodec : SequenceEncoded) {r₁ r₂ : Recovery}
    {st₁ : ReplayState} (ht : st.Tracked)
    (hst₁ : replayLoop header task r₁.events = .ok st₁) (hshrinks : Shrinks st st₁)
    (h : reconcileEvaluation header task timestamp eventIds st.activeLicenseLeases
      (r₁, st₁.runState header) started = .ok (r₂, state)) :
    ∃ st₂, Advances header task r₁ st₁ r₂ st₂ ∧ st₂.runState header = state ∧
      ClosesEvaluation st₁ st₂ started.payload.jobId started.payload.candidateId
        started.payload.stageId := by
  simp only [reconcileEvaluation, bind_eq_ok] at h
  obtain ⟨jobState, -, happend⟩ := h
  have hlen : (st₁.runState header).nextSequence = r₁.events.length := by
    rw [← replayLoop_prior hst₁]
    rfl
  have hlease : started.payload.jobId ∈ st₁.activeLicenseLeases →
      (st.activeLicenseLeases.get? started.payload.jobId).isSome = true := by
    intro hmem
    obtain ⟨a, ha⟩ := Dict.mem_iff.mp hmem
    rw [hshrinks.leases _ _ ha]
    rfl
  obtain ⟨batch, hbatch⟩ : ∃ batch, batch = interruptedEvaluationEvents header timestamp eventIds
    (st₁.runState header).nextSequence r₁.issued started jobState.isTerminal
    (st.activeLicenseLeases.get? started.payload.jobId) := ⟨_, rfl⟩
  have hcloses : ∀ st₂, foldSteps (replayStep header task) st₁ batch = .ok st₂ →
      ClosesEvaluation st₁ st₂ started.payload.jobId started.payload.candidateId
        started.payload.stageId ∧ ∀ e ∈ batch, Serves st₁.prior e := by
    subst hbatch
    exact fun st₂ => closesEvaluation_of_accepted (replayLoop_tracked hst₁)
      (fun a ha => lease_jobId ht ha) hlease
  have hseq : ∀ e ∈ batch, r₁.events.length ≤ e.base.sequence := by
    subst hbatch
    exact fun e he => hlen ▸ sequence_interruptedEvaluationEvents e he
  rw [← hbatch] at happend
  obtain ⟨st₂, hadv, hstep, hstate⟩ := advances_append hcodec hst₁ hseq
    (fun st₂ hst₂ => ⟨hst₂, (hcloses st₂ hst₂).2, Or.inl ⟨_, _, _, (hcloses st₂ hst₂).1⟩⟩)
    happend
  exact ⟨st₂, hadv, hstate, (hcloses st₂ hstep.accepted).1⟩

/-- The evaluations of the list are closed one after the other. -/
lemma reconcileEvaluations_advances (hcodec : SequenceEncoded)
    (hst : replayLoop header task r.events = .ok st) {started : List EvaluationStartedEvent}
    (h : foldSteps (reconcileEvaluation header task timestamp eventIds st.activeLicenseLeases)
      (r, st.runState header) started = .ok (r', state)) :
    ∃ st', Advances header task r st r' st' ∧ st'.runState header = state ∧
      ∀ e ∈ started, st'.activeJobs.get? e.payload.jobId = none := by
  have ht := replayLoop_tracked hst
  refine foldSteps_induction (P := fun done (acc : Recovery × RunState) =>
    ∃ st', Advances header task r st acc.1 st' ∧ st'.runState header = acc.2 ∧
      ∀ e ∈ done, st'.activeJobs.get? e.payload.jobId = none) ?_ ?_ h
  · rintro done ⟨r₁, state₁⟩ e ⟨r₂, state₂⟩ ⟨st₁, hadv, rfl, hclosed⟩ hstep
    obtain ⟨st₂, hadv', hstate, hcloses⟩ :=
      reconcileEvaluation_advances hcodec ht hadv.replayed hadv.shrinks hstep
    refine ⟨st₂, hadv.trans hadv', hstate, fun e' he' => ?_⟩
    rcases List.mem_append.mp he' with he' | he'
    · refine Option.eq_none_iff_forall_ne_some.mpr fun v hv => ?_
      have := hcloses.shrinks.evaluations _ _ hv
      rw [hclosed e' he'] at this
      cases this
    · obtain rfl := List.mem_singleton.mp he'
      rw [hcloses.activeJobs]
      exact Dict.get?_erase_self _ _
  · exact ⟨st, .refl hst, rfl, by simp⟩

/-! ### Tools -/

section

omit [JournalDigests] [CommitCodec] [ToolIdentities]

/-- The dispatch that the projection finds for a request. -/
lemma lookup_dispatches {d : Dict Identifier ParticipantToolReservedEvent}
    {f : Identifier → Option ParticipantToolTerminal} {k : Identifier} :
    (d.entries.map fun p => (p.1, ({ reservation := p.2, terminal := f p.1 } :
      ParticipantToolDispatch))).lookup k =
        (d.get? k).map fun reservation => { reservation, terminal := f k } := by
  obtain ⟨es, hes⟩ := d
  simp only [Dict.get?]
  clear hes
  induction es with
  | nil => rfl
  | cons p es ih =>
    by_cases hk : p.1 = k
    · subst hk
      simp
    · have hk' : (k == p.1) = false := by simpa using fun h => hk h.symm
      simp only [List.map_cons, List.lookup_cons, hk', ih, List.find?_cons, hk, decide_false]

lemma interruptedDispatchEvents_eq {k : Identifier} {issued : Nat}
    (hst : replayLoop header task st.prior = .ok st)
    (hidentity : ∀ reserved, st.participantToolReservations.get? k = some reserved →
      reserved.payload.invocationId = Canonical.participantToolInvocationId header.runId k) :
    interruptedDispatchEvents header timestamp eventIds st.prior issued k =
      .ok (match st.openDispatch k with
        | none => []
        | some reserved => lostDispatchEvents header timestamp eventIds st.prior.length issued
          st.activeLicenseLeases reserved.payload) := by
  simp only [interruptedDispatchEvents, participantToolDispatches_eq hst, lookup_dispatches,
    activeLicenseLeases_eq hst, bind_eq_ok, Except.ok.injEq, exists_eq_left']
  cases hget : st.participantToolReservations.get? k with
  | none => simp [ReplayState.openDispatch, hget, pure, Except.pure]
  | some reserved =>
    cases hterm : st.participantToolTerminals.get? k with
    | none =>
      have hnot := Dict.get?_eq_none_iff.mp hterm
      simp [ReplayState.openDispatch, hget, hnot, hidentity reserved hget, raiseIf, bind,
        Except.bind, pure, Except.pure]
    | some terminal =>
      have hmem := Dict.mem_of_get? hterm
      simp [ReplayState.openDispatch, hmem, pure, Except.pure]

lemma sequence_lostDispatchEvents {sequence issued : Nat}
    {leases : Dict Identifier LicenseLeaseAcquiredEvent}
    {reserved : ParticipantToolReservedPayload} :
    ∀ e ∈ lostDispatchEvents header timestamp eventIds sequence issued leases reserved,
      sequence ≤ e.base.sequence := by
  intro e he
  simp only [lostDispatchEvents, List.mem_append, List.mem_singleton] at he
  rcases he with he | rfl
  · obtain ⟨acquired, -, rfl⟩ := List.mem_map.mp he
    exact le_rfl
  · exact Nat.le_add_right _ _

end

omit [JournalDigests] [CommitCodec] in
/-- The batch of a request: the closing events of its dispatch, if it has one, and its result. -/
lemma interruptedRequestEvents_eq_ok {requestId toolName : Identifier} {issued : Nat}
    {closeActiveDispatch : Bool}
    (hst : replayLoop header task st.prior = .ok st)
    (hidentity : ∀ reserved, st.participantToolReservations.get? requestId = some reserved →
      reserved.payload.invocationId = Canonical.participantToolInvocationId header.runId requestId)
    (h : interruptedRequestEvents header timestamp eventIds st.prior issued requestId toolName
      closeActiveDispatch = .ok requested) :
    ∃ closing, (closing = [] ∨ ∃ reserved, st.openDispatch requestId = some reserved ∧
        closing = lostDispatchEvents header timestamp eventIds st.prior.length issued
          st.activeLicenseLeases reserved.payload) ∧
      requested = closing ++ [.interactionRecorded (toolResultEvent header
        (st.prior.length + closing.length) (eventIds (issued + closing.length)) timestamp
        (recoveredResultId requestId toolName) requestId toolName)] := by
  cases closeActiveDispatch with
  | false =>
    cases h
    exact ⟨[], Or.inl rfl, rfl⟩
  | true =>
    simp only [interruptedRequestEvents, if_true, interruptedDispatchEvents_eq hst hidentity,
      bind_eq_ok, Except.ok.injEq, exists_eq_left', pure_eq_ok] at h
    refine ⟨_, ?_, h.symm⟩
    cases hdispatch : st.openDispatch requestId with
    | none => exact Or.inl rfl
    | some reserved => exact Or.inr ⟨reserved, rfl, rfl⟩

variable {fuel : Nat}

lemma closeInterruptedRequest_advances (hcodec : SequenceEncoded)
    (hst : replayLoop header task r.events = .ok st) {request : InteractionRecordedEvent}
    {toolName : Identifier} {closeActiveDispatch : Bool}
    (hknown : toolName ∈ recoverableToolNames)
    (hidentity : ∀ reserved,
      st.participantToolReservations.get? request.payload.interactionId = some reserved →
      reserved.payload.invocationId =
        Canonical.participantToolInvocationId header.runId request.payload.interactionId)
    (h : closeInterruptedRequest header task timestamp eventIds request toolName
      closeActiveDispatch fuel r = .ok r') : ∃ st', Advances header task r st r' st' := by
  have hprior := replayLoop_prior hst
  have hst' : replayLoop header task st.prior = .ok st := hprior ▸ hst
  induction fuel generalizing r with
  | zero => cases h
  | succ fuel ih =>
    simp only [closeInterruptedRequest, Recovery.readEvents, bind_eq_ok, pure_eq_ok] at h
    obtain ⟨_, ⟨_, -, rfl⟩, h⟩ := h
    split_ifs at h with hpending
    · obtain ⟨requested, hrequested, h⟩ := bind_eq_ok.mp h
      rw [← hprior] at hrequested
      obtain ⟨closing, hclosing, hbatch⟩ :=
        interruptedRequestEvents_eq_ok hst' hidentity hrequested
      split at h
      · rename_i r₁ state happend
        cases h
        have hcloses : ∀ st₂, foldSteps (replayStep header task) st requested = .ok st₂ →
            ClosesRequest header st st₂ request.payload.interactionId toolName ∧
              ∀ e ∈ requested, Serves st.prior e := by
          subst hbatch
          exact fun st₂ => closesRequest_of_accepted (replayLoop_tracked hst)
            (replayLoop_toolsSound hst) hknown hidentity hclosing
        have hseq : ∀ e ∈ requested, r.events.length ≤ e.base.sequence := by
          intro e he
          rw [hbatch, List.mem_append, List.mem_singleton] at he
          rw [← hprior]
          rcases he with he | rfl
          · rcases hclosing with rfl | ⟨reserved, -, rfl⟩
            · cases he
            · exact sequence_lostDispatchEvents e he
          · exact Nat.le_add_right _ _
        obtain ⟨st₂, hadv, -⟩ := advances_append hcodec hst hseq
          (fun st₂ hst₂ => ⟨hst₂, (hcloses st₂ hst₂).2, Or.inr ⟨_, _, (hcloses st₂ hst₂).1⟩⟩)
          happend
        exact ⟨st₂, hadv⟩
      · cases h
      · obtain ⟨st₂, hadv⟩ :=
          ih (r := { r with issued := r.issued + requested.length }) hst h hprior
        exact ⟨st₂, hadv.replayed, hadv.run⟩
      · cases h
    · cases h
      exact ⟨st, .refl hst⟩

lemma recoverInterruptedExecutorTools_advances (hcodec : SequenceEncoded)
    (hst : replayLoop header task r.events = .ok st)
    (h : recoverInterruptedExecutorTools header task timestamp eventIds fence fuel r = .ok r') :
    ∃ st', Advances header task r st r' st' := by
  induction fuel generalizing r st with
  | zero => cases h
  | succ fuel ih =>
    simp only [recoverInterruptedExecutorTools, Recovery.readEvents, bind_eq_ok, pure_eq_ok] at h
    obtain ⟨_, ⟨_, -, rfl⟩, h⟩ := h
    split at h
    · cases h
      exact ⟨st, .refl hst⟩
    · rename_i request rest hpending
      simp only [participantToolDispatches_eq hst, bind_eq_ok, Except.ok.injEq, exists_eq_left',
        raiseIf_eq_ok, exists_const, lookup_dispatches] at h
      obtain ⟨hwrong, h⟩ := h
      have hidentity : ∀ reserved,
          st.participantToolReservations.get? request.payload.interactionId = some reserved →
          reserved.payload.invocationId =
            Canonical.participantToolInvocationId header.runId request.payload.interactionId := by
        intro reserved hget
        by_contra hne
        exact hwrong ⟨_, by rw [hget]; rfl, hne⟩
      have hrest : ∃ r₁, closeInterruptedRequest header task timestamp eventIds request
          EXECUTOR_PARTICIPANT_TOOL_NAME true (fuel + 1) r = .ok r₁ ∧
          recoverInterruptedExecutorTools header task timestamp eventIds fence fuel r₁ =
            .ok r' := by
        split_ifs at h
        · obtain ⟨-, -, h⟩ := bind_eq_ok.mp h
          exact bind_eq_ok.mp h
        · exact bind_eq_ok.mp h
      obtain ⟨r₁, hclose, hloop⟩ := hrest
      obtain ⟨st₁, hadv⟩ := closeInterruptedRequest_advances hcodec hst
        (List.mem_cons_self ..) hidentity hclose
      obtain ⟨st₂, hadv'⟩ := ih hadv.replayed hloop
      exact ⟨st₂, hadv.trans hadv'⟩

omit [JournalDigests] [CommitCodec] [ToolIdentities] in
/-- Only executor requests are dispatched. -/
lemma not_reserved_of_controller (hst : replayLoop header task st.prior = .ok st)
    {request : InteractionRecordedEvent} {toolName : Identifier}
    (hopen : st.openToolRequest request.payload.interactionId = some request)
    (htool : request.payload.toolName = some toolName)
    (hname : toolName ∈ CONTROLLER_PARTICIPANT_TOOL_NAMES) :
    st.participantToolReservations.get? request.payload.interactionId = none := by
  refine Dict.get?_eq_none_iff.mpr fun hmem => ?_
  obtain ⟨request', hget, -, htool'⟩ := (replayLoop_toolsSound hst).reserved _ hmem
  obtain ⟨-, hget', -⟩ := openToolRequest_eq_some.mp hopen
  rw [hget', Option.some.injEq] at hget
  rw [← hget, htool, Option.some.injEq] at htool'
  rw [htool'] at hname
  exact absurd hname (by decide)

lemma closeInterruptedControllerTools_advances (hcodec : SequenceEncoded)
    (hst : replayLoop header task r.events = .ok st)
    (h : closeInterruptedControllerTools header task timestamp eventIds fuel r = .ok r') :
    ∃ st', Advances header task r st r' st' := by
  induction fuel generalizing r st with
  | zero => cases h
  | succ fuel ih =>
    have hprior := replayLoop_prior hst
    simp only [closeInterruptedControllerTools, Recovery.readEvents, bind_eq_ok, pure_eq_ok] at h
    obtain ⟨_, ⟨_, -, rfl⟩, h⟩ := h
    split at h
    · cases h
      exact ⟨st, .refl hst⟩
    · rename_i request rest hpending
      simp only [bind_eq_ok, orRaise_eq_ok] at h
      obtain ⟨toolName, htool, r₁, hclose, hloop⟩ := h
      have hmem : request ∈ (unresolvedToolRequests r.events).filter fun request =>
          ∃ name ∈ request.payload.toolName, name ∈ CONTROLLER_PARTICIPANT_TOOL_NAMES := by
        rw [hpending]
        exact List.mem_cons_self ..
      rw [← hprior, List.mem_filter, mem_unresolvedToolRequests (replayLoop_tracked hst),
        decide_eq_true_eq] at hmem
      obtain ⟨⟨hopen, -⟩, name, hname, hcontroller⟩ := hmem
      obtain rfl := Option.some.inj (htool.symm.trans hname)
      have hnone := not_reserved_of_controller (hprior ▸ hst) hopen htool hcontroller
      obtain ⟨st₁, hadv⟩ := closeInterruptedRequest_advances hcodec hst
        (List.mem_cons_of_mem _ hcontroller) (by simp [hnone]) hclose
      obtain ⟨st₂, hadv'⟩ := ih hadv.replayed hloop
      exact ⟨st₂, hadv.trans hadv'⟩

/-! ### The whole recovery -/

/-- No evaluation and no tool request is open. -/
structure Settled (st : ReplayState) : Prop where
  evaluations : ∀ k, st.activeJobs.get? k = none
  tools : ∀ k, st.openToolRequest k = none

omit [JournalDigests] [CommitCodec] [ToolIdentities] in
/-- A dispatch outlives no request. -/
lemma Settled.dispatches (h : Settled st) (hts : st.ToolsSound header) (k : Identifier) :
    st.openDispatch k = none := by
  refine Option.eq_none_iff_forall_ne_some.mpr fun reserved hopen => ?_
  obtain ⟨hterm, hget⟩ := openDispatch_eq_some.mp hopen
  have hmem := Dict.mem_of_get? hget
  obtain ⟨request, hrequest, hdir, -⟩ := hts.reserved k hmem
  have hopen' := openToolRequest_eq_some.mpr ⟨hts.withheld k hmem hterm, hrequest, hdir⟩
  rw [h.tools k] at hopen'
  cases hopen'

theorem reconcileInterruptedRunWork_advances (hcodec : SequenceEncoded)
    (hst : replayLoop header task r.events = .ok st)
    (h : reconcileInterruptedRunWork header task timestamp eventIds fence fuel r = .ok r') :
    ∃ st' state, Advances header task r st r' st' ∧ Settled st' ∧
      replay header task r'.events = .ok state := by
  have hprior := replayLoop_prior hst
  simp only [reconcileInterruptedRunWork, reconcileInterruptedEvaluations, Recovery.readEvents,
    bind_eq_ok, pure_eq_ok, raiseIf_eq_ok, exists_const, not_not,
    Except.mapError_eq_ok_iff] at h
  obtain ⟨_, ⟨_, -, rfl⟩, -, -, r₁, ⟨_, ⟨_, -, rfl⟩, leases, hleases, state, hstate, ⟨r₁', _⟩,
    hfold, rfl⟩, r₂, hexecutor, r₃, hcontroller, _, ⟨state₃, hreplay, rfl⟩, hnone, rfl⟩ := h
  rw [activeLicenseLeases_eq hst, Except.ok.injEq] at hleases
  obtain ⟨-, -, st₀, -, hst₀, -, -, rfl⟩ := replay_eq_ok_iff.mp hstate
  obtain rfl := Except.ok.inj (hst.symm.trans hst₀)
  subst hleases
  obtain ⟨st₁, hadv₁, -, hclosed⟩ := reconcileEvaluations_advances hcodec hst hfold
  obtain ⟨st₂, hadv₂⟩ := recoverInterruptedExecutorTools_advances hcodec hadv₁.replayed hexecutor
  obtain ⟨st₃, hadv₃⟩ := closeInterruptedControllerTools_advances hcodec hadv₂.replayed hcontroller
  refine ⟨st₃, state₃, (hadv₁.trans hadv₂).trans hadv₃, ⟨fun k => ?_, fun k => ?_⟩, hreplay⟩
  · -- what is still active was active from the start, and then it was closed
    refine Option.eq_none_iff_forall_ne_some.mpr fun v hv => ?_
    have hv₁ := (hadv₂.trans hadv₃).shrinks.evaluations k v hv
    have hv₀ := hadv₁.shrinks.evaluations k v hv₁
    have ht := replayLoop_tracked hst
    obtain ⟨⟨e, he, ho⟩, -⟩ := (ht.evaluations.table_iff k v).mp hv₀
    cases e with
    | evaluationStarted started =>
      obtain ⟨rfl, rfl⟩ := Prod.mk.inj (Option.some.inj ho)
      have hmem := (mem_interruptedEvaluations ht).mpr ⟨he, hv₀⟩
      rw [hprior] at hmem
      rw [hclosed started hmem] at hv₁
      cases hv₁
    | _ => cases ho
  · refine Option.eq_none_iff_forall_ne_some.mpr fun request hopen => ?_
    have ht := replayLoop_tracked hadv₃.replayed
    obtain rfl := toolRequest_interactionId ht hopen
    have hmem : request ∈ unresolvedToolRequests st₃.prior :=
      (mem_unresolvedToolRequests ht).mpr ⟨hopen, Or.inl rfl⟩
    rw [replayLoop_prior hadv₃.replayed, hnone] at hmem
    cases hmem

end Closure

end EdaGym
