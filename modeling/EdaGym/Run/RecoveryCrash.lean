import EdaGym.Run.RecoveryClosure

/-!
# Recovery after a crash

From a recoverable state the recovery gets through to its end, and a completed recovery shows that
its journal was recoverable at every one of its commits. An interrupted recovery can therefore be
run again, and leaves a journal as closed as the first one would have.
-/

namespace EdaGym

section Crash

variable [Canonical] [JournalDigests] [CommitCodec] [ToolIdentities]
variable {header : RunHeader} {task : TaskSpec} {timestamp : Datetime} {eventIds : Nat → UUID}
  {fence : Identifier → Except JournalError Unit} {r r' : Recovery} {st st' : ReplayState}

/-! ### Nothing to recover -/

section

omit [JournalDigests] [CommitCodec] [ToolIdentities]

lemma Settled.unresolvedToolRequests (h : Settled st) (ht : st.Tracked) (name : Option Identifier) :
    unresolvedToolRequests st.prior name = [] := by
  refine List.eq_nil_iff_forall_not_mem.mpr fun request hmem => ?_
  have hopen := ((mem_unresolvedToolRequests ht).mp hmem).1
  rw [h.tools] at hopen
  cases hopen

lemma Settled.interruptedEvaluations (h : Settled st) (ht : st.Tracked) :
    interruptedEvaluations st.prior = [] := by
  refine List.eq_nil_iff_forall_not_mem.mpr fun started hmem => ?_
  have hactive := ((mem_interruptedEvaluations ht).mp hmem).2
  rw [h.evaluations] at hactive
  cases hactive

end

/-- Where nothing is open, a recovery commits nothing. -/
lemma Settled.reconcile (h : Settled st) (hst : replayLoop header task r.events = .ok st)
    {state : RunState} (hreplay : replay header task r.events = .ok state) (fuel : Nat) :
    reconcileInterruptedRunWork header task timestamp eventIds fence (fuel + 1) r = .ok r := by
  have ht := replayLoop_tracked hst
  have hprior := replayLoop_prior hst
  have hnone : ∀ name, EdaGym.unresolvedToolRequests r.events name = [] :=
    fun name => hprior ▸ h.unresolvedToolRequests ht name
  have hevaluations : EdaGym.interruptedEvaluations r.events = [] :=
    hprior ▸ h.interruptedEvaluations ht
  have hread : r.readEvents header task = .ok r.events := by
    simp [Recovery.readEvents, hreplay, bind, Except.bind, pure, Except.pure]
  have hexecutor : recoverInterruptedExecutorTools header task timestamp eventIds fence (fuel + 1)
      r = .ok r := by
    simp [recoverInterruptedExecutorTools, hread, hnone, bind, Except.bind, pure, Except.pure]
  have hcontroller : closeInterruptedControllerTools header task timestamp eventIds (fuel + 1) r =
      .ok r := by
    simp [closeInterruptedControllerTools, hread, hnone, bind, Except.bind, pure, Except.pure]
  simp [reconcileInterruptedRunWork, reconcileInterruptedEvaluations, hread, hevaluations,
    hexecutor, hcontroller, hnone, activeLicenseLeases_eq hst, hreplay, Except.mapError, raiseIf,
    bind, Except.bind, pure, Except.pure]

/-! ### Appending an accepted batch -/

omit [JournalDigests] [CommitCodec] [ToolIdentities] in
/-- The events of an accepted journal are numbered in order and have identifiers of their own. -/
lemma replayLoop_positions {events : List RunEvent} (h : replayLoop header task events = .ok st) :
    events.map (fun e => e.base.sequence) = List.range events.length ∧
      (events.map fun e => e.base.eventId).Nodup := by
  rw [← replayLoop_prior h]
  refine replayLoop_induction (P := fun st =>
    st.prior.map (fun e => e.base.sequence) = List.range st.prior.length ∧
      (st.prior.map fun e => e.base.eventId).Nodup) (by simp [ReplayState.initial]) ?_ h
  rintro st event lifecycle ⟨hseq, hids⟩ hadm
  refine ⟨?_, ?_⟩
  · simp [ReplayState.prior_apply, hseq, List.range_succ, hadm.envelope.sequence]
  · rw [ReplayState.prior_apply, List.map_append, List.nodup_append]
    refine ⟨hids, by simp, ?_⟩
    rintro id hid _ hmem rfl
    rw [List.map_singleton, List.mem_singleton] at hmem
    exact hadm.envelope.fresh (hmem ▸ hid)

omit [ToolIdentities] in
/-- A batch that replays after the committed events and serves open work is committed. -/
lemma appendEvents_of_accepted {requested : List RunEvent} {state : RunState}
    (hreplay : replay header task r.events = .ok state)
    (hst : replayLoop header task r.events = .ok st) (hlive : st.terminalReason = none)
    (hne : requested ≠ []) (hrun : foldSteps (replayStep header task) st requested = .ok st')
    (hserves : ∀ e ∈ requested, Serves r.events e) :
    r.appendEvents header task requested = .ok
      ({ events := r.events ++ requested, commits := r.commits ++ [requested],
         issued := r.issued + requested.length }, st'.runState header) := by
  have hloop : replayLoop header task (r.events ++ requested) = .ok st' :=
    foldSteps_append_eq_ok.mpr ⟨st, hst, hrun⟩
  obtain ⟨hseq, hids⟩ := replayLoop_positions hloop
  rw [List.map_append, List.nodup_append] at hids
  have hown : OwnPositions r.events requested := by
    have hpre := (replayLoop_positions hst).1
    rw [List.map_append, hpre, List.length_append, List.range_add,
      List.append_cancel_left_eq] at hseq
    rw [OwnPositions, hseq, List.range'_eq_map_range]
  have hknown : ¬ ∃ e ∈ requested, e.base.eventId ∈
      Dict.ofList (r.events.map fun e => (e.base.eventId, e)) := by
    rintro ⟨e, he, hmem⟩
    rw [Dict.mem_ofList, List.map_map] at hmem
    exact hids.2.2 _ hmem _ (List.mem_map_of_mem he) rfl
  have hstate : state.terminalReason = none := by
    obtain ⟨-, -, st₀, -, hst₀, -, -, rfl⟩ := replay_eq_ok_iff.mp hreplay
    obtain rfl := Except.ok.inj (hst.symm.trans hst₀)
    exact hlive
  have hadmit : admitAppend header task requested r.events =
      .ok (st'.runState header, true) := by
    simp only [admitAppend, bind_eq_ok, raiseIf_eq_ok, exists_const, not_not, hids.2.1, true_and,
      if_neg hknown, pure_eq_ok]
    exact ⟨hown, state, hreplay, by simp [hstate], _, replay_append hreplay hst hrun hserves, rfl⟩
  simp only [Recovery.appendEvents, bind_eq_ok, raiseIf_eq_ok, exists_const]
  exact ⟨hne, _, hadmit, rfl⟩

/-! ### Recoveries that get through -/

/-- A recovery of a recoverable journal, with a clock that is late enough and fresh identifiers. -/
structure Recovering (header : RunHeader) (task : TaskSpec) (timestamp : Datetime)
    (eventIds : Nat → UUID) (r : Recovery) (st : ReplayState) : Prop where
  replayed : replayLoop header task r.events = .ok st
  accepted : ∃ state, replay header task r.events = .ok state
  live : st.terminalReason = none
  recoverable : Recoverable header st
  leases : ∀ k a, st.activeLicenseLeases.get? k = some a → a.timestamp ≤ timestamp
  dispatches : ∀ k reserved, st.openDispatch k = some reserved → reserved.timestamp ≤ timestamp
  unique : Function.Injective eventIds
  fresh : ∀ n, r.issued ≤ n → eventIds n ∉ st.prior.map fun e => e.base.eventId

section

omit [JournalDigests] [CommitCodec]

lemma Recovering.tracked (h : Recovering header task timestamp eventIds r st) : st.Tracked :=
  replayLoop_tracked h.replayed

lemma Recovering.replayed_prior (h : Recovering header task timestamp eventIds r st) :
    replayLoop header task st.prior = .ok st :=
  replayLoop_prior h.replayed ▸ h.replayed

/-- Open work keeps the run running. -/
lemma Recovering.ready (h : Recovering header task timestamp eventIds r st)
    (hopen : ¬ Settled st) : ReadyFor header eventIds r.issued st := by
  obtain ⟨state, hreplay⟩ := h.accepted
  refine ⟨running_of_replay hreplay h.replayed ?_ h.live fun l hl => ?_, h.unique, h.fresh⟩
  · intro hnil
    have hst := h.replayed
    rw [hnil] at hst
    cases hst
    exact hopen ⟨fun k => rfl, fun k => rfl⟩
  · by_contra hpending
    have hquiescent := quiescent_of_pending h.replayed hl hpending
    exact hopen ⟨Dict.isEmpty_iff.mp hquiescent.jobs, openToolRequest_eq_none hquiescent.tools⟩

end

/-- Committing an accepted batch. -/
lemma Recovering.append (h : Recovering header task timestamp eventIds r st)
    {batch : List RunEvent} (hstep : RecoveryStep header task st batch st') (hne : batch ≠ [])
    (hready : ReadyFor header eventIds (r.issued + batch.length) st') :
    ∃ r', r.appendEvents header task batch = .ok (r', st'.runState header) ∧
      Recovering header task timestamp eventIds r' st' := by
  obtain ⟨state, hreplay⟩ := h.accepted
  have hprior := replayLoop_prior h.replayed
  have hserves : ∀ e ∈ batch, Serves r.events e := hprior ▸ hstep.serves
  refine ⟨_, appendEvents_of_accepted hreplay h.replayed h.live hne hstep.accepted hserves, ?_⟩
  exact {
    replayed := foldSteps_append_eq_ok.mpr ⟨st, h.replayed, hstep.accepted⟩
    accepted := ⟨_, replay_append hreplay h.replayed hstep.accepted hserves⟩
    live := (terminalReason_append hstep.accepted fun e he => (hstep.serves e he).isRunEnded).trans
      h.live
    recoverable := hstep.recoverable.mp h.recoverable
    leases := fun k a ha => h.leases k a (hstep.shrinks.leases k a ha)
    dispatches := fun k reserved hr =>
      h.dispatches k reserved (hstep.shrinks.dispatches k reserved hr)
    unique := h.unique
    fresh := hready.fresh }

omit [JournalDigests] [CommitCodec] [ToolIdentities] in
/-- The job states that the run state lists. -/
lemma get?_runState_jobs (k : Identifier) :
    (Dict.ofList ((st.runState header).jobs.map fun job => (job.jobId, job.state))).get? k =
      st.jobStates.get? k := by
  have hperm : ((st.runState header).jobs.map fun job => (job.jobId, job.state)).Perm
      st.jobStates.entries := by
    simp only [ReplayState.runState, List.map_map, Function.comp_def, List.map_id']
    exact List.perm_insertionSort _ _
  refine Option.ext fun state => ?_
  rw [Dict.get?_ofList ((hperm.map Prod.fst).nodup_iff.mpr st.jobStates.nodup), hperm.mem_iff,
    ← Dict.get?_eq_some_iff]

/-- One open evaluation is closed. -/
lemma Recovering.reconcileEvaluation (h : Recovering header task timestamp eventIds r st)
    {leases : Dict Identifier LicenseLeaseAcquiredEvent} {started : EvaluationStartedEvent}
    (hactive : st.activeJobs.get? started.payload.jobId =
      some (started.payload.candidateId, started.payload.stageId))
    (hlease : leases.get? started.payload.jobId =
      st.activeLicenseLeases.get? started.payload.jobId) :
    ∃ r' st', reconcileEvaluation header task timestamp eventIds leases
        (r, st.runState header) started = .ok (r', st'.runState header) ∧
      Recovering header task timestamp eventIds r' st' ∧
      ClosesEvaluation st st' started.payload.jobId started.payload.candidateId
        started.payload.stageId := by
  have hready := h.ready fun hs => by
    rw [hs.evaluations] at hactive
    cases hactive
  obtain ⟨state, hstate⟩ := Dict.mem_iff.mp (h.tracked.evaluations.seen_of_opened _ _
    ((h.tracked.evaluations.table_iff _ _).mp hactive).1)
  obtain ⟨batch, hbatch⟩ : ∃ batch, batch = interruptedEvaluationEvents header timestamp eventIds
    st.prior.length r.issued started state.isTerminal
    (st.activeLicenseLeases.get? started.payload.jobId) := ⟨_, rfl⟩
  obtain ⟨st', hrun, hready'⟩ := accept_evaluation h.replayed_prior hready hactive
    (h.recoverable.unresulted _ _ _ hactive) hstate (fun a ha => h.leases _ a ha) hbatch
  obtain ⟨hcloses, hserves⟩ : ClosesEvaluation st st' started.payload.jobId
      started.payload.candidateId started.payload.stageId ∧ ∀ e ∈ batch, Serves st.prior e := by
    subst hbatch
    refine closesEvaluation_of_accepted h.tracked (fun a ha => lease_jobId h.tracked ha)
      (fun hmem => ?_) hrun
    obtain ⟨a, ha⟩ := Dict.mem_iff.mp hmem
    rw [ha]
    rfl
  have hne : batch ≠ [] := by
    rw [hbatch]
    simp [interruptedEvaluationEvents]
  obtain ⟨r', happend, hrec⟩ := h.append ⟨hrun, hserves, Or.inl ⟨_, _, _, hcloses⟩⟩ hne hready'
  refine ⟨r', st', ?_, hrec, hcloses⟩
  simp only [EdaGym.reconcileEvaluation, bind_eq_ok, orRaise_eq_ok, get?_runState_jobs, hlease]
  exact ⟨state, hstate, hbatch ▸ happend⟩

/-- All open evaluations of a list of distinct jobs are closed. -/
lemma Recovering.reconcileEvaluations (h : Recovering header task timestamp eventIds r st)
    (leases : Dict Identifier LicenseLeaseAcquiredEvent) {started : List EvaluationStartedEvent}
    (hnodup : (started.map fun e => e.payload.jobId).Nodup)
    (hactive : ∀ e ∈ started, st.activeJobs.get? e.payload.jobId =
      some (e.payload.candidateId, e.payload.stageId))
    (hleases : ∀ e ∈ started,
      leases.get? e.payload.jobId = st.activeLicenseLeases.get? e.payload.jobId) :
    ∃ r' st', foldSteps (EdaGym.reconcileEvaluation header task timestamp eventIds leases)
        (r, st.runState header) started = .ok (r', st'.runState header) ∧
      Recovering header task timestamp eventIds r' st' := by
  induction started generalizing r st with
  | nil => exact ⟨r, st, rfl, h⟩
  | cons e rest ih =>
    rw [List.map_cons, List.nodup_cons] at hnodup
    obtain ⟨r₁, st₁, hstep, h₁, hcloses⟩ := h.reconcileEvaluation
      (hactive e (List.mem_cons_self ..)) (hleases e (List.mem_cons_self ..))
    have hne : ∀ e' ∈ rest, e'.payload.jobId ≠ e.payload.jobId := fun e' he' heq =>
      hnodup.1 (heq ▸ List.mem_map_of_mem (f := fun e => e.payload.jobId) he')
    obtain ⟨r₂, st₂, hfold, h₂⟩ := ih h₁ hnodup.2
      (fun e' he' => by
        rw [hcloses.activeJobs, Dict.get?_erase_of_ne _ (hne e' he')]
        exact hactive e' (List.mem_cons_of_mem _ he'))
      (fun e' he' => by
        rw [hcloses.leases _ (hne e' he')]
        exact hleases e' (List.mem_cons_of_mem _ he'))
    exact ⟨r₂, st₂, foldSteps_cons_eq_ok.mpr ⟨_, hstep, hfold⟩, h₂⟩

/-- One open tool request is closed. -/
lemma Recovering.closeInterruptedRequest (h : Recovering header task timestamp eventIds r st)
    (closeActiveDispatch : Bool) {request : InteractionRecordedEvent} {name : Identifier}
    (hopen : st.openToolRequest request.payload.interactionId = some request)
    (hrec : RequestRecoverable header st request.payload.interactionId request name)
    (hflag : closeActiveDispatch = false →
      st.participantToolReservations.get? request.payload.interactionId = none) :
    ∃ r' st', (∀ fuel, EdaGym.closeInterruptedRequest header task timestamp eventIds request name
        closeActiveDispatch (fuel + 1) r = .ok r') ∧
      Recovering header task timestamp eventIds r' st' ∧
      ClosesRequest header st st' request.payload.interactionId name := by
  have hprior := replayLoop_prior h.replayed
  have hready := h.ready fun hs => by
    rw [hs.tools] at hopen
    cases hopen
  obtain ⟨closing, hclosing⟩ : ∃ closing, closing =
    (st.openDispatch request.payload.interactionId).elim [] fun reserved =>
      lostDispatchEvents header timestamp eventIds st.prior.length r.issued
        st.activeLicenseLeases reserved.payload := ⟨_, rfl⟩
  obtain ⟨batch, hbatch⟩ : ∃ batch, batch = closing ++ [.interactionRecorded (toolResultEvent
    header (st.prior.length + closing.length) (eventIds (r.issued + closing.length)) timestamp
    (recoveredResultId request.payload.interactionId name) request.payload.interactionId
    name)] := ⟨_, rfl⟩
  have hrequested : interruptedRequestEvents header timestamp eventIds st.prior r.issued
      request.payload.interactionId name closeActiveDispatch = .ok batch := by
    cases closeActiveDispatch with
    | false =>
      have hnone : st.openDispatch request.payload.interactionId = none := by
        simp [ReplayState.openDispatch, hflag rfl]
      rw [hnone] at hclosing
      subst hclosing
      rw [hbatch]
      rfl
    | true =>
      simp only [interruptedRequestEvents, if_true,
        interruptedDispatchEvents_eq h.replayed_prior hrec.identity, bind_eq_ok,
        Except.ok.injEq, exists_eq_left', pure_eq_ok]
      rw [hbatch, hclosing]
      cases st.openDispatch request.payload.interactionId <;> rfl
  obtain ⟨st', hrun, hready'⟩ := accept_request h.tracked hready hopen hrec
    (fun reserved hr => ⟨h.dispatches _ reserved hr, fun a ha => h.leases _ a ha⟩)
    (hclosing.trans (by cases st.openDispatch request.payload.interactionId <;> rfl)) hbatch
  obtain ⟨hcloses, hserves⟩ : ClosesRequest header st st' request.payload.interactionId name ∧
      ∀ e ∈ batch, Serves st.prior e := by
    have hclosing' : closing = [] ∨ ∃ reserved,
        st.openDispatch request.payload.interactionId = some reserved ∧
        closing = lostDispatchEvents header timestamp eventIds st.prior.length r.issued
          st.activeLicenseLeases reserved.payload := by
      rw [hclosing]
      cases hdispatch : st.openDispatch request.payload.interactionId with
      | none => exact Or.inl rfl
      | some reserved => exact Or.inr ⟨reserved, rfl, rfl⟩
    subst hbatch
    exact closesRequest_of_accepted h.tracked (replayLoop_toolsSound h.replayed) hrec.known
      hrec.identity hclosing' hrun
  obtain ⟨r', happend, hrec'⟩ := h.append ⟨hrun, hserves, Or.inr ⟨_, _, hcloses⟩⟩
    (by rw [hbatch]; simp) hready'
  refine ⟨r', st', fun fuel => ?_, hrec', hcloses⟩
  obtain ⟨state, hreplay⟩ := h.accepted
  have hmem : request ∈ unresolvedToolRequests r.events (some name) :=
    hprior ▸ (mem_unresolvedToolRequests h.tracked).mpr ⟨hopen, Or.inr hrec.tool⟩
  have hpending : request.payload.interactionId ∈
      (unresolvedToolRequests r.events (some name)).map fun e => e.payload.interactionId :=
    List.mem_map_of_mem (f := fun e => e.payload.interactionId) hmem
  have hread : r.readEvents header task = .ok r.events := by
    simp [Recovery.readEvents, hreplay, bind, Except.bind, pure, Except.pure]
  rw [hprior] at hrequested
  simp [EdaGym.closeInterruptedRequest, hread, hpending, hrequested, happend, bind, Except.bind,
    pure, Except.pure]

omit [JournalDigests] [CommitCodec] [ToolIdentities] in
lemma interruptedEvaluations_nodup (ht : st.Tracked) :
    ((interruptedEvaluations st.prior).map fun e => e.payload.jobId).Nodup := by
  rw [List.Nodup, List.pairwise_map, interruptedEvaluations, List.pairwise_filterMap]
  refine ht.evaluations.wellBracketed.opens_pairwise.imp ?_
  intro a e hopens s hs s' hs' heq
  cases a with
  | evaluationStarted a =>
    cases e with
    | evaluationStarted e =>
      rw [Option.ite_none_left_eq_some, Option.some.injEq] at hs hs'
      obtain ⟨-, rfl⟩ := hs
      obtain ⟨-, rfl⟩ := hs'
      exact hopens _ _ _ rfl (by rw [heq]; rfl)
    | _ => cases hs'
  | _ => cases hs

/-! ### The loops over tool requests -/

omit [JournalDigests] [CommitCodec] [ToolIdentities] in
lemma openTools_finite (st : ReplayState) : {k | (st.openToolRequest k).isSome}.Finite :=
  (outstanding_finite st).preimage (f := Obligation.tool) fun _ _ _ _ h => Obligation.tool.inj h

section

omit [JournalDigests] [CommitCodec]

/-- A loop that closes one open request a round, until none of its kind is left, comes to an end. -/
lemma Recovering.drain {loop : Nat → Recovery → Except JournalError Recovery}
    (target : InteractionRecordedEvent → Prop)
    (hdone : ∀ r st fuel, Recovering header task timestamp eventIds r st →
      (∀ k request, st.openToolRequest k = some request → ¬ target request) →
      loop (fuel + 1) r = .ok r)
    (hround : ∀ r st k request, Recovering header task timestamp eventIds r st →
      st.openToolRequest k = some request → target request →
      ∃ r₁ st₁ k₁ name, Recovering header task timestamp eventIds r₁ st₁ ∧
        ClosesRequest header st st₁ k₁ name ∧ ∀ fuel, loop (fuel + 1) r = loop fuel r₁)
    (h : Recovering header task timestamp eventIds r st) :
    ∃ bound r' st', Recovering header task timestamp eventIds r' st' ∧ Shrinks st st' ∧
      (∀ k request, st'.openToolRequest k = some request → ¬ target request) ∧
      ∀ fuel, bound ≤ fuel → loop fuel r = .ok r' := by
  induction hn : {k | (st.openToolRequest k).isSome}.ncard using Nat.strong_induction_on
    generalizing r st with
  | _ n ih =>
    by_cases hnone : ∀ k request, st.openToolRequest k = some request → ¬ target request
    · refine ⟨1, r, st, h, .refl st, hnone, fun fuel hfuel => ?_⟩
      obtain ⟨fuel, rfl⟩ := Nat.exists_eq_add_of_le' hfuel
      exact hdone r st fuel h hnone
    · push Not at hnone
      obtain ⟨k, request, hopen, htarget⟩ := hnone
      obtain ⟨r₁, st₁, k₁, name, h₁, hcloses, hloop⟩ := hround r st k request h hopen htarget
      have hssub : {k | (st₁.openToolRequest k).isSome} ⊂ {k | (st.openToolRequest k).isSome} := by
        refine ⟨fun k' hk' => ?_, fun hsup => ?_⟩
        · obtain ⟨request', hrequest'⟩ := Option.isSome_iff_exists.mp hk'
          exact Option.isSome_iff_exists.mpr ⟨_, hcloses.shrinks.tools _ _ hrequest'⟩
        · obtain ⟨request', hrequest', -⟩ := hcloses.request
          have hmem := hsup (show (st.openToolRequest k₁).isSome by rw [hrequest']; rfl)
          rw [Set.mem_ofPred_eq, hcloses.closed] at hmem
          cases hmem
      obtain ⟨bound, r', st', hrec, hshrinks, hleft, hbound⟩ :=
        ih _ (hn ▸ Set.ncard_lt_ncard hssub (openTools_finite st)) h₁ rfl
      refine ⟨bound + 1, r', st', hrec, hcloses.shrinks.trans hshrinks, hleft, fun fuel hfuel => ?_⟩
      obtain ⟨fuel, rfl⟩ := Nat.exists_eq_add_of_le' hfuel
      rw [← Nat.add_assoc, hloop]
      exact hbound _ (Nat.le_add_left _ _)

lemma Recovering.readEvents (h : Recovering header task timestamp eventIds r st) :
    r.readEvents header task = .ok r.events := by
  obtain ⟨state, hreplay⟩ := h.accepted
  simp [Recovery.readEvents, hreplay, bind, Except.bind, pure, Except.pure]

end

lemma Recovering.executorTools (hfence : ∀ k, fence k = .ok ⟨⟩)
    (h : Recovering header task timestamp eventIds r st) :
    ∃ bound r' st', Recovering header task timestamp eventIds r' st' ∧ Shrinks st st' ∧
      (∀ k request, st'.openToolRequest k = some request →
        request.payload.toolName ≠ some EXECUTOR_PARTICIPANT_TOOL_NAME) ∧
      ∀ fuel, bound ≤ fuel → recoverInterruptedExecutorTools header task timestamp eventIds fence
        fuel r = .ok r' := by
  refine Recovering.drain (fun request =>
    request.payload.toolName = some EXECUTOR_PARTICIPANT_TOOL_NAME) ?_ ?_ h
  · intro r st fuel h hnone
    have hnil : unresolvedToolRequests r.events (some EXECUTOR_PARTICIPANT_TOOL_NAME) = [] := by
      rw [← replayLoop_prior h.replayed]
      refine List.eq_nil_iff_forall_not_mem.mpr fun request hmem => ?_
      obtain ⟨hopen, htool⟩ := (mem_unresolvedToolRequests h.tracked).mp hmem
      exact hnone _ request hopen (htool.resolve_left (by simp))
    simp [recoverInterruptedExecutorTools, h.readEvents, hnil, bind, Except.bind, pure, Except.pure]
  · intro r st k request h hopen htarget
    have hmem : request ∈
        unresolvedToolRequests r.events (some EXECUTOR_PARTICIPANT_TOOL_NAME) := by
      rw [← replayLoop_prior h.replayed]
      refine (mem_unresolvedToolRequests h.tracked).mpr ⟨?_, Or.inr htarget⟩
      rw [toolRequest_interactionId h.tracked hopen]
      exact hopen
    obtain ⟨first, rest, hpending⟩ := List.exists_cons_of_ne_nil (List.ne_nil_of_mem hmem)
    have hfirst : first ∈
        unresolvedToolRequests r.events (some EXECUTOR_PARTICIPANT_TOOL_NAME) := by
      rw [hpending]
      exact List.mem_cons_self ..
    rw [← replayLoop_prior h.replayed] at hfirst
    obtain ⟨hopen', htool⟩ := (mem_unresolvedToolRequests h.tracked).mp hfirst
    obtain ⟨name, hrec⟩ := h.recoverable.requests _ first hopen'
    obtain rfl := Option.some.inj (hrec.tool.symm.trans (htool.resolve_left (by simp)))
    obtain ⟨r₁, st₁, hclose, h₁, hcloses⟩ := h.closeInterruptedRequest true hopen' hrec
      (by simp)
    refine ⟨r₁, st₁, _, _, h₁, hcloses, fun fuel => ?_⟩
    have hright : ¬ ∃ d ∈ (st.participantToolReservations.get? first.payload.interactionId).map
        (fun reservation => ParticipantToolDispatch.mk reservation
          (st.participantToolTerminals.get? first.payload.interactionId)),
        d.reservation.payload.invocationId ≠
          Canonical.participantToolInvocationId header.runId first.payload.interactionId := by
      rintro ⟨d, hd, hne⟩
      obtain ⟨reserved, hget, rfl⟩ := Option.map_eq_some_iff.mp hd
      exact hne (hrec.identity reserved hget)
    simp only [recoverInterruptedExecutorTools, h.readEvents, hpending,
      participantToolDispatches_eq h.replayed, lookup_dispatches, raiseIf, if_neg hright, hfence,
      hclose, bind, Except.bind]
    split_ifs <;> rfl

lemma Recovering.controllerTools (h : Recovering header task timestamp eventIds r st) :
    ∃ bound r' st', Recovering header task timestamp eventIds r' st' ∧ Shrinks st st' ∧
      (∀ k request, st'.openToolRequest k = some request →
        ¬ ∃ name ∈ request.payload.toolName, name ∈ CONTROLLER_PARTICIPANT_TOOL_NAMES) ∧
      ∀ fuel, bound ≤ fuel →
        closeInterruptedControllerTools header task timestamp eventIds fuel r = .ok r' := by
  have hlist : ∀ {r st}, Recovering header task timestamp eventIds r st →
      ∀ request, request ∈ ((unresolvedToolRequests r.events).filter fun request =>
          ∃ name ∈ request.payload.toolName, name ∈ CONTROLLER_PARTICIPANT_TOOL_NAMES) ↔
        st.openToolRequest request.payload.interactionId = some request ∧
          ∃ name ∈ request.payload.toolName, name ∈ CONTROLLER_PARTICIPANT_TOOL_NAMES := by
    intro r st h request
    rw [← replayLoop_prior h.replayed, List.mem_filter, mem_unresolvedToolRequests h.tracked,
      decide_eq_true_eq]
    simp
  refine Recovering.drain (fun request => ∃ name ∈ request.payload.toolName,
    name ∈ CONTROLLER_PARTICIPANT_TOOL_NAMES) ?_ ?_ h
  · intro r st fuel h hnone
    have hnil : ((unresolvedToolRequests r.events).filter fun request =>
        ∃ name ∈ request.payload.toolName, name ∈ CONTROLLER_PARTICIPANT_TOOL_NAMES) = [] :=
      List.eq_nil_iff_forall_not_mem.mpr fun request hmem =>
        hnone _ request ((hlist h request).mp hmem).1 ((hlist h request).mp hmem).2
    simp only [closeInterruptedControllerTools, h.readEvents, hnil, bind, Except.bind]
    rfl
  · intro r st k request h hopen htarget
    rw [← toolRequest_interactionId h.tracked hopen] at hopen
    obtain ⟨first, rest, hpending⟩ := List.exists_cons_of_ne_nil
      (List.ne_nil_of_mem ((hlist h request).mpr ⟨hopen, htarget⟩))
    obtain ⟨hopen', name, hname, hcontroller⟩ := (hlist h first).mp
      (hpending ▸ List.mem_cons_self ..)
    obtain ⟨name', hrec⟩ := h.recoverable.requests _ first hopen'
    obtain rfl := Option.some.inj (hname.symm.trans hrec.tool)
    obtain ⟨r₁, st₁, hclose, h₁, hcloses⟩ := h.closeInterruptedRequest false hopen' hrec
      (fun _ => not_reserved_of_controller h.replayed_prior hopen' hname hcontroller)
    refine ⟨r₁, st₁, _, _, h₁, hcloses, fun fuel => ?_⟩
    simp only [closeInterruptedControllerTools, h.readEvents, hpending, hrec.tool, orRaise, hclose,
      bind, Except.bind]

/-- A recoverable journal is recovered, given enough rounds. -/
theorem Recovering.reconcile (hfence : ∀ k, fence k = .ok ⟨⟩)
    (h : Recovering header task timestamp eventIds r st) :
    ∃ fuel r', reconcileInterruptedRunWork header task timestamp eventIds fence fuel r =
      .ok r' := by
  have hprior := replayLoop_prior h.replayed
  obtain ⟨state, hreplay⟩ := h.accepted
  obtain ⟨-, -, st₀, -, hst₀, -, -, rfl⟩ := replay_eq_ok_iff.mp hreplay
  obtain rfl := Except.ok.inj (h.replayed.symm.trans hst₀)
  obtain ⟨r₁, st₁, hfold, h₁⟩ := h.reconcileEvaluations st.activeLicenseLeases
    (interruptedEvaluations_nodup h.tracked)
    (fun e he => ((mem_interruptedEvaluations h.tracked).mp he).2) (fun _ _ => rfl)
  rw [hprior] at hfold
  obtain ⟨bound₂, r₂, st₂, h₂, -, hexecutor, hloop₂⟩ := h₁.executorTools hfence
  obtain ⟨bound₃, r₃, st₃, h₃, hshrinks, hcontroller, hloop₃⟩ := h₂.controllerTools
  have hnone : unresolvedToolRequests r₃.events = [] := by
    rw [← replayLoop_prior h₃.replayed]
    refine List.eq_nil_iff_forall_not_mem.mpr fun request hmem => ?_
    have hopen := ((mem_unresolvedToolRequests h₃.tracked).mp hmem).1
    obtain ⟨name, hrec⟩ := h₃.recoverable.requests _ request hopen
    rcases List.mem_cons.mp hrec.known with rfl | hknown
    · exact hexecutor _ request (hshrinks.tools _ _ hopen) hrec.tool
    · exact hcontroller _ request hopen ⟨name, hrec.tool, hknown⟩
  refine ⟨max bound₂ bound₃, r₃, ?_⟩
  simp only [reconcileInterruptedRunWork, reconcileInterruptedEvaluations, bind_eq_ok, pure_eq_ok,
    raiseIf_eq_ok, exists_const, not_not, Except.mapError_eq_ok_iff]
  refine ⟨_, h.readEvents, ⟨⟩, ?_, r₁, ⟨_, h.readEvents, _, activeLicenseLeases_eq h.replayed, _,
    hreplay, _, hfold, rfl⟩, r₂, hloop₂ _ (le_max_left _ _), r₃, hloop₃ _ (le_max_right _ _), _,
    h₃.readEvents, hnone, rfl⟩
  exact foldSteps_unit_eq_ok.mpr fun e _ => by simp [hfence, Except.mapError]

/-! ### The main result -/

/-- Everything that was open is closed once, with its leases, and nothing else has changed. -/
structure RecoveryClosed (before after : List RunEvent) : Prop where
  kept : before <+: after
  evaluations : evaluationBracket.ClosedExactlyOnce after
  tools : toolBracket.ClosedExactlyOnce after
  dispatches : dispatchBracket.ClosedExactlyOnce after
  jobLeases : ∀ k v acquired, evaluationBracket.Pending before k v →
    ¬ leaseBracket.Pending after k acquired
  invocationLeases : ∀ k reserved acquired, dispatchBracket.Pending before k reserved →
    ¬ leaseBracket.Pending after reserved.payload.invocationId acquired
  serves : ∀ e ∈ after.drop before.length, Serves before e

omit [JournalDigests] [CommitCodec] in
lemma RecoveryRun.closed {events : List RunEvent} {commits : List (List RunEvent)}
    (h : RecoveryRun header task st commits st')
    (hst : replayLoop header task events = .ok st) (hsettled : Settled st') :
    RecoveryClosed events (events ++ commits.flatten) := by
  have ht := replayLoop_tracked hst
  have hst' := h.replayed hst
  have ht' := replayLoop_tracked hst'
  have hprior := replayLoop_prior hst
  have hprior' := replayLoop_prior hst'
  have hdispatches := fun k => hsettled.dispatches (replayLoop_toolsSound hst') k
  rw [← hprior', ← hprior]
  refine ⟨?_, ht'.evaluations.closedExactlyOnce hsettled.evaluations,
    ht'.tools.closedExactlyOnce hsettled.tools, ht'.dispatches.closedExactlyOnce hdispatches,
    ?_, ?_, ?_⟩
  · rw [hprior', hprior]
    exact List.prefix_append _ _
  · intro k v acquired hpending hlease
    refine h.shrinks.jobCustody k v ((ht.evaluations.table_iff k v).mpr hpending)
      (hsettled.evaluations k) ?_
    exact Dict.mem_of_get? ((ht'.leases.table_iff k acquired).mpr hlease)
  · intro k reserved acquired hpending hlease
    refine h.shrinks.invocationCustody k reserved
      ((ht.dispatches.table_iff k reserved).mpr hpending) (hdispatches k) ?_
    exact Dict.mem_of_get? ((ht'.leases.table_iff _ acquired).mpr hlease)
  · rw [hprior', hprior, List.drop_left]
    exact h.serves hst

/-- A recovery that returns has closed exactly what was open, running it again commits nothing, and
after a crash at any of its commits it can be run again to the same effect. -/
theorem recovery_closes (hcodec : SequenceEncoded) (header : RunHeader) (task : TaskSpec)
    (events : List RunEvent) (state : RunState) (timestamp : Datetime) (eventIds : Nat → UUID)
    (fence : Identifier → Except JournalError Unit) (fuel : Nat) (r : Recovery)
    (h : replay header task events = .ok state) (hlive : state.terminalReason = none)
    (hrecovered : reconcileInterruptedRunWork header task timestamp eventIds fence fuel
      { events := events } = .ok r) :
    r.events = events ++ r.commits.flatten ∧ RecoveryClosed events r.events ∧
    (∀ timestamp' eventIds' fence' fuel',
      reconcileInterruptedRunWork header task timestamp' eventIds' fence' (fuel' + 1)
        { events := r.events } = .ok { events := r.events }) ∧
    ∀ n timestamp' eventIds' fence',
      (∀ fuel' r', reconcileInterruptedRunWork header task timestamp' eventIds' fence' fuel'
        { events := events ++ (r.commits.take n).flatten } = .ok r' →
        RecoveryClosed events r'.events) ∧
      ((∀ k, fence' k = .ok ⟨⟩) →
        (∀ e ∈ events ++ (r.commits.take n).flatten, e.base.timestamp ≤ timestamp') →
        Function.Injective eventIds' →
        (∀ i, ∀ e ∈ events ++ (r.commits.take n).flatten, eventIds' i ≠ e.base.eventId) →
        ∃ fuel' r', reconcileInterruptedRunWork header task timestamp' eventIds' fence' fuel'
          { events := events ++ (r.commits.take n).flatten } = .ok r') := by
  obtain ⟨-, -, st, -, hst, -, -, rfl⟩ := replay_eq_ok_iff.mp h
  obtain ⟨st', state', hadv, hsettled, hreplay⟩ :=
    reconcileInterruptedRunWork_advances hcodec (r := { events := events }) hst hrecovered
  obtain ⟨commits, hcommits, hevents, hrun⟩ := hadv.run
  rw [List.nil_append] at hcommits
  subst hcommits
  refine ⟨hevents, ?_, fun timestamp' eventIds' fence' fuel' => ?_, fun n timestamp' eventIds'
    fence' => ⟨fun fuel' r' hagain => ?_, fun hfence hlate hunique hfresh => ?_⟩⟩
  · rw [hevents]
    exact hrun.closed hst hsettled
  · exact hsettled.reconcile (r := { events := r.events }) hadv.replayed hreplay fuel'
  · obtain ⟨mid, hmid⟩ := hrun.take n
    obtain ⟨st'', -, hadv', hsettled', -⟩ := reconcileInterruptedRunWork_advances hcodec
      (r := { events := events ++ (r.commits.take n).flatten }) (hmid.replayed hst) hagain
    obtain ⟨commits', -, hevents', hrun'⟩ := hadv'.run
    have hclosed := (hmid.trans hrun').closed hst hsettled'
    rw [List.flatten_append, ← List.append_assoc] at hclosed
    rw [hevents']
    exact hclosed
  · obtain ⟨mid, hmid⟩ := hrun.take n
    have hloop := hmid.replayed hst
    have hserves := hmid.serves hst
    have hprior := replayLoop_prior hloop
    have ht := replayLoop_tracked hloop
    -- nothing is left at the end, so nothing stood in the way at the crash either
    have hrecoverable : Recoverable header mid := by
      refine hmid.recoverable.mp (hrun.recoverable.mpr ⟨?_, ?_, ?_, ?_⟩)
      · simp [hsettled.evaluations]
      · simp [hsettled.evaluations]
      · simp [hsettled.tools]
      · simp [hsettled.tools]
    suffices hrecovering : Recovering header task timestamp' eventIds'
        { events := events ++ (r.commits.take n).flatten } mid from hrecovering.reconcile hfence
    refine ⟨hloop, ⟨_, replay_append h hst hmid.accepted hserves⟩, ?_, hrecoverable, ?_, ?_,
      hunique,
      ?_⟩
    · rw [terminalReason_append hmid.accepted fun e he => (hserves e he).isRunEnded]
      exact hlive
    · intro k a ha
      obtain ⟨⟨e, he, ho⟩, -⟩ := (ht.leases.table_iff k a).mp ha
      cases e with
      | licenseLeaseAcquired a' =>
        obtain ⟨-, rfl⟩ := Prod.mk.inj (Option.some.inj ho)
        exact hlate _ (hprior ▸ he)
      | _ => cases ho
    · intro k reserved hreserved
      obtain ⟨⟨e, he, ho⟩, -⟩ := (ht.dispatches.table_iff k reserved).mp hreserved
      cases e with
      | participantToolReserved r' =>
        obtain ⟨-, rfl⟩ := Prod.mk.inj (Option.some.inj ho)
        exact hlate _ (hprior ▸ he)
      | _ => cases ho
    · intro i _ hmem
      rw [hprior] at hmem
      obtain ⟨e, he, heq⟩ := List.mem_map.mp hmem
      exact hfresh i e he heq.symm

end Crash

/-! ### An interrupted run -/

section InterruptedRun

local instance interruptedCanonical : Canonical := plainCanonical

local instance interruptedDigests : JournalDigests where
  journalAnchor _ := ""
  commitDigest _ _ := ""

/-- A codec that shows nothing of an event but its position. -/
local instance interruptedCodec : CommitCodec where
  commitBytes _ := []
  eventBytes e := List.replicate e.base.sequence 0
  validateCommit _ := none

local instance interruptedIdentities : ToolIdentities where
  participantToolInteractionId owner toolName role := owner ++ ":" ++ toolName ++ ":" ++ role

/-- A tool request of the participant. -/
def aliceRequest (n : Nat) (interactionId toolName : Identifier) : InteractionRecordedEvent where
  toEventBase := aliceBase n
  payload := {
    direction := .toolRequest
    interactionId
    toolName := some toolName
    tool_iff := by simp }

/-- The controller is lost while an evaluation runs and two tools are called. -/
def interruptedRun : List RunEvent :=
  passingRun.take 4 ++
    [.interactionRecorded (aliceRequest 4 "q0" EXECUTOR_PARTICIPANT_TOOL_NAME),
     .interactionRecorded (aliceRequest 5 "q1" "edagym_read_file")]

theorem interruptedRun_recovered :
    (∃ state, replay gateHeader gateTask interruptedRun = .ok state ∧
      state.terminalReason = none) ∧
    ∃ r, reconcileInterruptedRunWork gateHeader gateTask 9 (fun n => 100 + n) (fun _ => .ok ⟨⟩) 2
      { events := interruptedRun } = .ok r ∧ RecoveryClosed interruptedRun r.events := by
  have hcodec : SequenceEncoded := fun a b h => by
    simpa [eventBytes] using congrArg List.length h
  obtain ⟨state, hreplay⟩ := Except.exists_of_isOk
    (show (replay gateHeader gateTask interruptedRun).isOk = true by decide +kernel)
  have hlive : state.terminalReason = none := by
    have : (replay gateHeader gateTask interruptedRun).map RunState.terminalReason = .ok none := by
      decide +kernel
    rw [hreplay] at this
    exact Except.ok.inj this
  obtain ⟨r, hr⟩ := Except.exists_of_isOk (show (reconcileInterruptedRunWork gateHeader gateTask 9
    (fun n => 100 + n) (fun _ => .ok ⟨⟩) 2 { events := interruptedRun }).isOk = true by
      decide +kernel)
  exact ⟨⟨state, hreplay, hlive⟩, r, hr,
    (recovery_closes hcodec _ _ _ _ _ _ _ _ _ hreplay hlive hr).2.1⟩

end InterruptedRun

end EdaGym
