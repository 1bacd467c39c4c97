import EdaGym.Run.Closing
import EdaGym.Run.Incarnations

/-!
# Dead ends of the run protocol

A run that is neither ended nor between two incarnations can be led to its end exactly when no stage
of a candidate was started twice and no foreign artifact stands under the identifier of a response
transcript.
-/

namespace EdaGym

section DeadEnds

variable [Canonical] {header : RunHeader} {task : TaskSpec} {st : ReplayState}

/-! ### Generations -/

variable {events : List RunEvent}

/-- While an incarnation waits to be restored, no work is open. -/
lemma quiescent_of_pending {l : ParticipantIncarnationLifecycle}
    (h : replayLoop header task events = .ok st)
    (hl : participantIncarnationLifecycle events = .ok l) (hpending : l.pendingTermination ≠ none) :
    st.Quiescent := by
  rw [← replayLoop_prior h] at hl
  refine replayLoop_induction (P := fun st => ∀ l,
    participantIncarnationLifecycle st.prior = .ok l → l.pendingTermination ≠ none →
      st.Quiescent) ?_ ?_ h l hl hpending
  · intro l hl hne
    cases hl
    exact absurd rfl hne
  · intro st event l₀ _ hadm l hl hne
    have heffect := LifecycleEffect.of_step (lifecycle_step hadm.envelope.lifecycle_eq hl)
    -- a pending termination admits only the restoration, which ends it
    have hrestore := hadm.envelope.restore_first
    cases heffect with
    | started e _ _ hnone => exact absurd hnone hne
    | terminated e =>
      have hk : IncarnationTerminatedAdmitted l₀ st e := hadm.kind
      exact ⟨hk.quiescent.jobs, hk.quiescent.leases, hk.quiescent.providers, hk.quiescent.tools,
        hk.quiescent.dispatches⟩
    | restored => exact absurd rfl hne
    | other _ hnone =>
      refine absurd ⟨Option.isSome_iff_ne_none.mpr hne, ?_⟩ hrestore
      cases event <;> first | rfl | cases hnone

/-! ### Starting from an accepted journal -/

/-- A replay is terminated by its last event only. -/
lemma terminal_of_last (h : replayLoop header task events = .ok st)
    (hlast : ∀ ended, events.getLast? ≠ some (.runEnded ended)) : st.terminalReason = none := by
  have hinv : st.terminalReason ≠ none → ∃ ended, st.prior.getLast? = some (.runEnded ended) := by
    refine replayLoop_induction (P := fun st => st.terminalReason ≠ none →
      ∃ ended, st.prior.getLast? = some (.runEnded ended)) ?_ ?_ h
    · intro hne
      exact absurd rfl hne
    · intro st event lifecycle _ hadm hne
      have hlive := hadm.envelope.live
      cases event with
      | runEnded ended => exact ⟨ended, by simp⟩
      | _ => exact absurd hlive hne
  by_contra hne
  obtain ⟨ended, hended⟩ := hinv hne
  rw [replayLoop_prior h] at hended
  exact hlast ended hended

/-- The first event of a journal starts the run. -/
lemma single_isRunStarted {event : RunEvent}
    (h : replayLoop header task [event] = .ok st) : event.isRunStarted = true := by
  obtain ⟨st₀, h₀, ⟨l, hadm⟩, -⟩ := replayLoop_concat_iff.mp (show
    replayLoop header task ([] ++ [event]) = .ok st from h)
  cases h₀
  have hposition := hadm.envelope.position
  cases event <;> first | rfl | cases hposition

variable {state : RunState}

/-- An accepted journal that has not ended and waits for no incarnation accepts more events. -/
lemma running_of_replay
    (h : replay header task events = .ok state) (hst : replayLoop header task events = .ok st)
    (hne : events ≠ []) (hlive : st.terminalReason = none)
    (hpending : ∀ l, participantIncarnationLifecycle events = .ok l →
      l.pendingTermination = none) : st.Running header := by
  obtain ⟨-, -, st', l, hloop, hl, hinc, -⟩ := replay_eq_ok_iff.mp h
  obtain rfl := Except.ok.inj (hloop.symm.trans hst)
  obtain rfl := replayLoop_prior hloop
  have hgeneration : header.binding.purpose ≠ .standard → l.incarnations ≠ [] :=
    fun hpurpose hnil => hinc ⟨hne, hpurpose, hnil⟩
  refine ⟨hne, hlive, ?_, l, hl, hpending l hl, ?_⟩
  · intro hpurpose hone
    obtain ⟨event, hevent⟩ := List.length_eq_one_iff.mp hone
    rw [hevent] at hloop hl
    have hstart := single_isRunStarted hloop
    cases event with
    | runStarted e =>
      cases hl
      exact hgeneration hpurpose rfl
    | _ => cases hstart
  · intro hpurpose hnone
    exact hgeneration hpurpose ((lifecycle_projects hl).connected.mpr ⟨hnone, hpending l hl⟩)

/-- An accepted journal with one more event that the replay admits. -/
lemma replay_concat {event : RunEvent} {st' : ReplayState}
    (h : replay header task events = .ok state) (hst : replayLoop header task events = .ok st)
    (hne : events ≠ []) (hinc : event.isIncarnationEvent = false)
    (hstep : replayStep header task st event = .ok st') :
    replay header task (events ++ [event]) = .ok (st'.runState header) := by
  obtain ⟨hdigest, hbinding, -, l, -, hl, hinc', -⟩ := replay_eq_ok_iff.mp h
  refine replay_eq_ok_iff.mpr ⟨hdigest, hbinding, st', l,
    foldSteps_concat_eq_ok.mpr ⟨st, hst, hstep⟩,
    (lifecycle_concat hinc).mpr hl, ?_, rfl⟩
  rintro ⟨-, hpurpose, hnil⟩
  exact hinc' ⟨hne, hpurpose, hnil⟩

lemma closable_of_replay (h : replay header task events = .ok state) (hne : events ≠ [])
    (hlast : ∀ ended, events.getLast? ≠ some (.runEnded ended))
    (hpending : ∀ l, participantIncarnationLifecycle events = .ok l →
      l.pendingTermination = none)
    (hdead : NoDeadEnd events) :
    ∃ st, replayLoop header task events = .ok st ∧ Closable header task st := by
  obtain ⟨-, -, st, -, hloop, -⟩ := replay_eq_ok_iff.mp h
  have hrunning := running_of_replay h hloop hne (terminal_of_last hloop hlast) hpending
  obtain rfl := replayLoop_prior hloop
  exact ⟨st, hloop, hloop, hrunning, hdead⟩

/-! ### Starting from the empty journal -/

def startedEvent (header : RunHeader) : RunStartedEvent where
  toEventBase := componentBase header 0 0 0 .controller .verifier
  payload := { bindingDigest := Canonical.runBinding header.binding }

/-- Generation zero of some participant. -/
def firstIncarnation : ParticipantIncarnationBinding where
  generation := 0
  process := { processId := 1, startTimeTicks := 0, bootIdDigest := "" }
  workspaceIdentityDigest := ""
  artifactDirectoryIdentityDigest := ""

def incarnationStartedEvent (header : RunHeader) : ParticipantIncarnationStartedEvent where
  toEventBase := componentBase header 1 1 0 .controller .verifier
  payload := { incarnation := firstIncarnation }

lemma started_admitted (header : RunHeader) (task : TaskSpec) :
    Admitted header task (ReplayState.initial header) (.runStarted (startedEvent header)) {} where
  envelope := {
    run := rfl
    sequence := rfl
    fresh := List.not_mem_nil
    live := rfl
    actor := nofun
    producer := rfl
    references := validateArtifactReferences_eq_ok.mpr nofun
    position := by simp [validatePosition, ReplayState.initial, startedEvent]
    lifecycle_eq := rfl
    incarnation_first := by simp [ReplayState.initial]
    restore_first := by simp }
  kind := trivial

/-- The state after the run is started. -/
def startedState (header : RunHeader) : ReplayState :=
  (ReplayState.initial header).apply header (.runStarted (startedEvent header))

lemma incarnation_admitted (header : RunHeader) (task : TaskSpec) :
    Admitted header task (startedState header)
      (.participantIncarnationStarted (incarnationStartedEvent header)) {} where
  envelope := {
    run := rfl
    sequence := rfl
    fresh := by simp [startedState, ReplayState.initial, startedEvent, incarnationStartedEvent,
      RunEvent.base, componentBase]
    live := rfl
    actor := nofun
    producer := rfl
    references := validateArtifactReferences_eq_ok.mpr nofun
    position := rfl
    lifecycle_eq := rfl
    incarnation_first := by simp [RunEvent.isIncarnationStarted]
    restore_first := by simp }
  kind := ⟨rfl, _, rfl⟩

lemma closable_of_empty (header : RunHeader) (task : TaskSpec) :
    ∃ more st, replayLoop header task more = .ok st ∧ Closable header task st := by
  have hstarted : replayLoop header task [.runStarted (startedEvent header)] =
      .ok (startedState header) := by
    rw [← List.nil_append [RunEvent.runStarted _]]
    exact replayLoop_concat_iff.mpr ⟨_, rfl, ⟨_, started_admitted header task⟩, rfl⟩
  by_cases hpurpose : header.binding.purpose = .standard
  · refine ⟨_, _, hstarted, hstarted, ⟨by simp [startedState], rfl, ?_, {}, rfl, rfl, ?_⟩, ?_⟩
    · exact fun hne => absurd hpurpose hne
    · exact fun hne => absurd hpurpose hne
    · exact ⟨by simp [startedState, ReplayState.apply, ReplayState.initial],
        by simp [startedState, ReplayState.apply, ReplayState.initial]⟩
  · have hboth := replayLoop_concat_iff.mpr
      ⟨_, hstarted, ⟨_, incarnation_admitted header task⟩, rfl⟩
    refine ⟨_, _, hboth, hboth, ⟨by simp, rfl, fun _ => by simp [startedState, ReplayState.initial],
      _, rfl, rfl, fun _ => Option.some_ne_none _⟩, ?_⟩
    exact ⟨by simp [startedState, ReplayState.apply, ReplayState.initial],
      by simp [startedState, ReplayState.apply, ReplayState.initial]⟩

/-! ### Reaching the end -/

/-- A closable run can be led to its end. -/
lemma Closable.ends (h : Closable header task st) :
    ∃ more ended st', ended.payload.reason = .infrastructureFailure ∧
      replayLoop header task (st.prior ++ more ++ [.runEnded ended]) = .ok st' ∧
      ∃ l, participantIncarnationLifecycle (st.prior ++ more ++ [.runEnded ended]) = .ok l ∧
        (header.binding.purpose ≠ .standard → l.incarnations ≠ []) := by
  obtain ⟨st₁, hreach, h₁, hdone⟩ := discharge_all Obligation.rank
    (fun _ _ (hc : Closable header task _) hopen hleast => hc.close hopen hleast) h
    (outstanding_finite st)
  obtain ⟨more, hmore⟩ := replayLoop_accepts h.replayed hreach
  have hprior := replayLoop_prior hmore
  obtain ⟨hquiescent, hexecutor⟩ := quiescent_of_discharged h₁.tracked hdone
  obtain ⟨id, hid⟩ := exists_fresh (st₁.prior.map fun e => e.base.eventId)
  obtain ⟨l, henv, hactive⟩ := h₁.running.envelope
    (envelopeFits_component (.runEnded (runAbortedEvent header st₁.prior.length id 0))
      (by decide) hid rfl rfl rfl)
  have hadm : Admitted header task st₁
      (.runEnded (runAbortedEvent header st₁.prior.length id 0)) l :=
    ⟨henv, hactive, nofun, hquiescent, hexecutor, nofun⟩
  refine ⟨more, _, _, rfl, replayLoop_concat_iff.mpr ⟨st₁, hmore, ⟨l, hadm⟩, rfl⟩, l, ?_, ?_⟩
  · rw [lifecycle_concat rfl, ← hprior]
    exact henv.lifecycle_eq
  · intro hpurpose hnil
    exact hactive hpurpose ((lifecycle_projects henv.lifecycle_eq).connected.mp hnil).1

omit [Canonical] in
/-- Entries that a filter maps to one value of a list without duplicates are the same. -/
lemma eq_of_nodup_filterMap {α β : Type} {f : α → Option β} {l : List α}
    (h : (l.filterMap f).Nodup) {a b : α} (ha : a ∈ l) (hb : b ∈ l) {x : β} (hx : f a = some x)
    (hy : f b = some x) : a = b := by
  induction l with
  | nil => cases ha
  | cons c l ih =>
    have hrest : ∀ d ∈ l, f d = some x → f c ≠ some x := by
      intro d hd hdx hcx
      rw [List.filterMap_cons_some hcx, List.nodup_cons] at h
      exact h.1 (List.mem_filterMap.mpr ⟨d, hd, hdx⟩)
    have htail : (l.filterMap f).Nodup :=
      h.sublist ((List.sublist_cons_self c l).filterMap f)
    rcases List.mem_cons.mp ha with rfl | ha'
    · rcases List.mem_cons.mp hb with rfl | hb'
      · rfl
      · exact absurd hx (hrest b hb' hy)
    · rcases List.mem_cons.mp hb with rfl | hb'
      · exact absurd hy (hrest a ha' hx)
      · exact ih htail ha' hb'

/-- Two completions of one stage of a candidate are the same event. -/
lemma completion_unique {c : Identifier}
    (h : ((candidateResults events c).map StageResult.stageId).Nodup)
    {e e' : EvaluationCompletedEvent} (he : .evaluationCompleted e ∈ events)
    (he' : .evaluationCompleted e' ∈ events) (hc : e.payload.candidateId = c)
    (hc' : e'.payload.candidateId = c) (hs : e.payload.result.stageId = e'.payload.result.stageId) :
    e = e' := by
  rw [candidateResults, List.map_filterMap] at h
  exact RunEvent.evaluationCompleted.inj (eq_of_nodup_filterMap h he he'
    (x := e.payload.result.stageId) (by simp [hc]) (by simp [hc', hs]))

/-- An ended run had no dead end anywhere before. -/
lemma noDeadEnd_of_ends {events more : List RunEvent} {ended : RunEndedEvent} {st' : ReplayState}
    (h : replayLoop header task (events ++ more ++ [.runEnded ended]) = .ok st') :
    NoDeadEnd events := by
  obtain ⟨st, hst, ⟨l, hadm⟩, -⟩ := replayLoop_concat_iff.mp h
  have hk : RunEndedAdmitted header task l st ended := hadm.kind
  have hprior := replayLoop_prior hst
  have ht := replayLoop_tracked hst
  have hmem : ∀ e ∈ events, e ∈ st.prior := by
    intro e he
    rw [hprior]
    exact List.mem_append_left _ he
  refine ⟨?_, ?_⟩
  · intro s s' hs hs' hcand hstage
    -- both starts are completed, and the stage has one result only
    have hclosed := ht.evaluations.closedExactlyOnce (Dict.isEmpty_iff.mp hk.quiescent.jobs)
    have hcompleted : ∀ start : EvaluationStartedEvent, .evaluationStarted start ∈ st.prior →
        ∃ e : EvaluationCompletedEvent, .evaluationCompleted e ∈ st.prior ∧
          e.payload.jobId = start.payload.jobId ∧
          e.payload.candidateId = start.payload.candidateId ∧
          e.payload.result.stageId = start.payload.stageId := by
      intro start hstart
      obtain ⟨pre, post, hsplit⟩ := List.append_of_mem hstart
      obtain ⟨mid, c, rest, rfl, hc, hfits, -⟩ := hclosed pre _ post _ _ hsplit rfl
      cases c with
      | evaluationCompleted e =>
        exact ⟨e, by simp [hsplit], Option.some.inj hc, hfits⟩
      | _ => cases hc
    obtain ⟨e, he, hej, hec, hes⟩ := hcompleted s (hmem _ hs)
    obtain ⟨e', he', hej', hec', hes'⟩ := hcompleted s' (hmem _ hs')
    have hnodup := (replayLoop_jobsSound hst).nodup s.payload.candidateId
    rw [(replayLoop_resultsRecorded hst).results] at hnodup
    have heq := completion_unique hnodup he he' hec (hec'.trans hcand.symm)
      (by rw [hes, hes', hstage])
    rw [← hej, ← hej', heq]
  · intro r a hr ha hid
    have hclosed := ht.providers.closedExactlyOnce
      (openProviderRequest_eq_none hk.quiescent.providers)
    have hartifacts := replayLoop_artifactsSound hst
    obtain ⟨pre, post, hsplit⟩ := List.append_of_mem (hmem _ hr)
    obtain ⟨mid, c, rest, rfl, hc, -⟩ := hclosed pre _ post _ _ hsplit rfl
    cases c with
    | providerResponseRecorded e =>
      have he : .providerResponseRecorded e ∈ st.prior := by simp [hsplit]
      obtain ⟨record, hget, htranscript⟩ := hartifacts.responded e he
      have hrequest : e.payload.requestId = r.payload.requestId := Option.some.inj hc
      have hgeta := (hartifacts.registered _ _).mpr ⟨rfl, a, hmem _ ha, rfl⟩
      rw [hid, ← hrequest, ← htranscript.logicalId, hget, Option.some.injEq] at hgeta
      rw [← hgeta, ← hrequest]
      exact htranscript
    | _ => cases hc

/-! ### The main result -/

/-- An accepted journal that has not ended and waits for no incarnation can be continued to a
termination exactly when it holds no dead end. -/
theorem replay_ends_iff (header : RunHeader) (task : TaskSpec) (events : List RunEvent)
    (state : RunState) (h : replay header task events = .ok state)
    (hlast : ∀ ended, events.getLast? ≠ some (.runEnded ended))
    (hpending : ∀ l, participantIncarnationLifecycle events = .ok l →
      l.pendingTermination = none) :
    (∃ more ended state', ended.payload.reason = .infrastructureFailure ∧
      replay header task (events ++ more ++ [.runEnded ended]) = .ok state') ↔
    NoDeadEnd events := by
  constructor
  · rintro ⟨more, ended, state', -, hreplay⟩
    obtain ⟨-, -, st', -, hloop, -⟩ := replay_eq_ok_iff.mp hreplay
    exact noDeadEnd_of_ends hloop
  · intro hdead
    obtain ⟨hdigest, hbinding, -⟩ := replay_eq_ok_iff.mp h
    obtain ⟨first, st, hst, hclosable⟩ : ∃ first st,
        replayLoop header task (events ++ first) = .ok st ∧ Closable header task st := by
      by_cases hne : events = []
      · subst hne
        exact closable_of_empty header task
      · obtain ⟨st, hst, hclosable⟩ := closable_of_replay h hne hlast hpending hdead
        exact ⟨[], st, by simpa using hst, hclosable⟩
    obtain ⟨more, ended, st', hreason, hloop, l, hl, hinc⟩ := hclosable.ends
    rw [replayLoop_prior hst] at hloop hl
    refine ⟨first ++ more, ended, st'.runState header, hreason, ?_⟩
    rw [← List.append_assoc events first more]
    exact replay_eq_ok_iff.mpr ⟨hdigest, hbinding, st', l, hloop, hl,
      fun hn => hinc hn.2.1 hn.2.2, rfl⟩

end DeadEnds

/-! ### A stage started twice -/

section StartedTwice

local instance deadEndCanonical : Canonical := plainCanonical

/-- One candidate is submitted and its gate is started under two jobs. -/
def twiceStarted : List RunEvent :=
  passingRun.take 3 ++
    [.evaluationStarted {
       toEventBase := gateBase 3 .evaluator
       payload := { stageId := "gate", candidateId := "c0", jobId := "j1" } }]

/-- The replay accepts the second start, and no continuation ends the run. -/
theorem twiceStarted_stuck :
    (∃ state, replay gateHeader gateTask twiceStarted = .ok state) ∧
      (∀ ended, twiceStarted.getLast? ≠ some (.runEnded ended)) ∧
      (∀ l, participantIncarnationLifecycle twiceStarted = .ok l → l.pendingTermination = none) ∧
      ¬ ∃ more ended state', ended.payload.reason = .infrastructureFailure ∧
        replay gateHeader gateTask (twiceStarted ++ more ++ [.runEnded ended]) = .ok state' := by
  refine ⟨Except.exists_of_isOk (by decide +kernel), by simp [twiceStarted], ?_, ?_⟩
  · rintro l ⟨⟩
    rfl
  · rintro ⟨more, ended, state', -, hreplay⟩
    obtain ⟨-, -, st', -, hloop, -⟩ := replay_eq_ok_iff.mp hreplay
    have hjobs := (noDeadEnd_of_ends hloop).stages
      { toEventBase := gateBase 2 .evaluator
        payload := { stageId := "gate", candidateId := "c0", jobId := "j0" } }
      { toEventBase := gateBase 3 .evaluator
        payload := { stageId := "gate", candidateId := "c0", jobId := "j1" } }
      (by simp [twiceStarted, passingRun]) (by simp [twiceStarted]) rfl rfl
    exact absurd hjobs (by decide)

/-- A run with one job under way can be ended. -/
theorem startedOnce_ends :
    ∃ more ended state', ended.payload.reason = .infrastructureFailure ∧
      replay gateHeader gateTask (passingRun.take 4 ++ more ++ [.runEnded ended]) = .ok state' := by
  obtain ⟨state, hstate⟩ := Except.exists_of_isOk
    (show (replay gateHeader gateTask (passingRun.take 4)).isOk = true by decide +kernel)
  refine (replay_ends_iff gateHeader gateTask (passingRun.take 4) state hstate ?_ ?_).mpr ?_
  · simp [passingRun]
  · rintro l ⟨⟩
    rfl
  · exact ⟨by simp [passingRun], by simp [passingRun]⟩

end StartedTwice

end EdaGym
