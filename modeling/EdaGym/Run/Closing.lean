import EdaGym.Run.OpenWork
import EdaGym.Lib.Discharge

/-!
# Closing a run

Every kind of open work has an event that closes it and opens nothing. Ordered so that each closing
event finds what it requires, they lead every run without a dead end to its termination.
-/

namespace EdaGym

variable [Canonical]

/-! ### Runs that accept another event -/

def RunEvent.isIncarnationEvent : RunEvent → Bool
  | .participantIncarnationStarted _ | .participantIncarnationTerminated _
  | .participantIncarnationRestored _ => true
  | _ => false

def RunEvent.isRunStarted : RunEvent → Bool
  | .runStarted _ => true
  | _ => false

/-- A started run that waits for no restored incarnation. -/
structure ReplayState.Running (header : RunHeader) (st : ReplayState) : Prop where
  started : st.prior ≠ []
  live : st.terminalReason = none
  incarnated : header.binding.purpose ≠ .standard → st.prior.length ≠ 1
  lifecycle : ∃ l, participantIncarnationLifecycle st.prior = .ok l ∧
    l.pendingTermination = none ∧
    (header.binding.purpose ≠ .standard → l.activeIncarnation ≠ none)

/-- One accepted event. -/
def Accepts (header : RunHeader) (task : TaskSpec) (st st' : ReplayState) : Prop :=
  ∃ event lifecycle, Admitted header task st event lifecycle ∧ st' = st.apply header event

section Running

variable {header : RunHeader} {task : TaskSpec} {st st' : ReplayState} {event : RunEvent}

lemma replayLoop_accepts {events : List RunEvent} (h : replayLoop header task events = .ok st)
    (hreach : Relation.ReflTransGen (Accepts header task) st st') :
    ∃ more, replayLoop header task (events ++ more) = .ok st' := by
  induction hreach with
  | refl => exact ⟨[], by simpa using h⟩
  | tail _ hstep ih =>
    obtain ⟨more, hmore⟩ := ih
    obtain ⟨event, lifecycle, hadm, rfl⟩ := hstep
    refine ⟨more ++ [event], ?_⟩
    rw [← List.append_assoc]
    exact replayLoop_concat_iff.mpr ⟨_, hmore, ⟨lifecycle, hadm⟩, rfl⟩

lemma lifecycle_concat {events : List RunEvent} (h : event.isIncarnationEvent = false)
    {l : ParticipantIncarnationLifecycle} :
    participantIncarnationLifecycle (events ++ [event]) = .ok l ↔
      participantIncarnationLifecycle events = .ok l := by
  have hstep : ∀ m, lifecycleStep m event = .ok m := by
    intro m
    cases event <;> first | rfl | cases h
  simp only [participantIncarnationLifecycle, bind_eq_ok, foldSteps_concat_eq_ok, hstep,
    Except.ok.injEq]
  constructor
  · rintro ⟨m, ⟨m', hm', rfl⟩, hrest⟩
    exact ⟨m', hm', hrest⟩
  · rintro ⟨m, hm, hrest⟩
    exact ⟨m, ⟨m, hm, rfl⟩, hrest⟩

/-- The envelope checks that depend on the event. -/
structure EnvelopeFits (header : RunHeader) (st : ReplayState) (event : RunEvent) : Prop where
  run : event.base.runId = header.runId
  sequence : event.base.sequence = st.prior.length
  fresh : event.base.eventId ∉ st.prior.map fun e => e.base.eventId
  actor : ∀ actor ∈ event.base.actor, actor ∈ header.actorIds
  producer : validateEventProducer event = .ok ⟨⟩
  references : validateArtifactReferences event st.artifacts = .ok ⟨⟩
  not_start : event.isRunStarted = false

lemma ReplayState.Running.envelope (h : st.Running header) (hfits : EnvelopeFits header st event) :
    ∃ l, EnvelopeAdmitted header st l event ∧
      (header.binding.purpose ≠ .standard → l.activeIncarnation ≠ none) := by
  obtain ⟨l, hl, hpending, hactive⟩ := h.lifecycle
  refine ⟨l, ⟨hfits.run, hfits.sequence, hfits.fresh, h.live, hfits.actor, hfits.producer,
    hfits.references, ?_, hl, ?_, ?_⟩, hactive⟩
  · have hpos : ¬ st.prior.length = 0 := fun h0 => h.started (List.eq_nil_of_length_eq_zero h0)
    have hstart := hfits.not_start
    cases event <;> first | (simp [validatePosition, hpos]; done) | cases hstart
  · rintro ⟨hone, hpurpose, -⟩
    exact h.incarnated hpurpose hone
  · rintro ⟨hsome, -⟩
    rw [hpending] at hsome
    cases hsome

/-- An event that changes neither the generation chain nor the termination leaves the run running.
-/
lemma ReplayState.Running.apply (h : st.Running header)
    (hinc : event.isIncarnationEvent = false) (hend : event.isRunEnded = false) :
    (st.apply header event).Running header := by
  obtain ⟨l, hl, hpending, hactive⟩ := h.lifecycle
  refine ⟨by simp, ?_, ?_, l, (lifecycle_concat hinc).mpr hl, hpending, hactive⟩
  · have hlive := h.live
    cases event <;> first | exact hlive | cases hend
  · intro _
    have hpos := List.length_pos_iff.mpr h.started
    rw [ReplayState.prior_apply, List.length_append, List.length_singleton]
    omega

end Running

/-! ### Closing events -/

omit [Canonical] in
lemma exists_fresh {α : Type} [Infinite α] (used : List α) : ∃ a, a ∉ used := by
  classical
  obtain ⟨a, ha⟩ := Infinite.exists_notMem_finset used.toFinset
  exact ⟨a, fun hmem => ha (List.mem_toFinset.mpr hmem)⟩

/-- The envelope of an event of a component other than a participant. -/
def componentBase (header : RunHeader) (sequence : Nat) (eventId : UUID) (timestamp : Datetime)
    (producer : ProducerKind) (visibility : Visibility)
    (hp : producer ≠ .participant := by
      first
      | exact ProducerKind.controller_ne
      | exact ProducerKind.executor_ne
      | exact ProducerKind.evaluator_ne
      | decide) : EventBase where
  runId := header.runId
  sequence := sequence
  eventId := eventId
  timestamp := timestamp
  producer := producer
  visibility := visibility
  actor_iff := ProducerKind.actorless hp

section ClosingEvents

variable (header : RunHeader) (sequence : Nat) (eventId : UUID) (timestamp : Datetime)

def leaseLostEvent (acquired : LicenseLeaseBindingPayload) : LicenseLeaseLostEvent where
  toEventBase := componentBase header sequence eventId timestamp .controller .verifier
  payload := acquired

def jobFailedEvent (jobId : Identifier) (reasonCode : Option Identifier) :
    JobStateChangedEvent where
  toEventBase := componentBase header sequence eventId timestamp .executor .verifier
  payload := { jobId, state := .failed, reasonCode }

def evaluationFailedEvent (jobId candidateId stageId : Identifier) (visibility : Visibility) :
    EvaluationCompletedEvent where
  toEventBase := componentBase header sequence eventId timestamp .evaluator visibility
  payload := { candidateId, jobId, result := failedResult stageId }

def toolLostEvent (reserved : ParticipantToolReservedPayload) : ParticipantToolLostEvent where
  toEventBase := componentBase header sequence eventId timestamp .controller .verifier
  payload := {
    requestInteractionId := reserved.requestInteractionId
    invocationId := reserved.invocationId
    invocationDigest := reserved.invocationDigest }

def toolResultEvent (interactionId relatedInteractionId toolName : Identifier) :
    InteractionRecordedEvent where
  toEventBase := componentBase header sequence eventId timestamp .controller .participant
  payload := {
    direction := .toolResult
    interactionId
    relatedInteractionId := some relatedInteractionId
    toolName := some toolName
    tool_iff := by simp }

def controlReturnedEvent (previousWriter nextWriter : Identifier)
    (h : previousWriter ≠ nextWriter) :
    ControlTransferredEvent where
  runId := header.runId
  sequence := sequence
  eventId := eventId
  timestamp := timestamp
  producer := .participant
  actor := some previousWriter
  visibility := .participant
  actor_iff := by simp
  payload := { previousWriter, nextWriter, writer_ne := h }

def responseTranscript (requestId : Identifier) : ArtifactRecord where
  logicalId := Canonical.providerTranscriptArtifactId requestId .response
  blob := { digest := "", sizeBytes := 0 }
  mediaType := PROVIDER_TRANSCRIPT_MEDIA_TYPE
  artifactClass := .training
  sensitivity := .confidential
  visibility := .author
  redistribution := .forbidden

def transcriptRecordedEvent (requestId : Identifier) : ArtifactRecordedEvent where
  toEventBase := componentBase header sequence eventId timestamp .controller .author
  payload := { record := responseTranscript requestId }

def responseFailedEvent (requestId : Identifier) : ProviderResponseRecordedEvent where
  runId := header.runId
  sequence := sequence
  eventId := eventId
  timestamp := timestamp
  producer := .controller
  visibility := .author
  artifactRefs := [Canonical.providerTranscriptArtifactId requestId .response]
  payload := { requestId, providerReportedModel := "", status := .failed }

def runAbortedEvent : RunEndedEvent where
  toEventBase := componentBase header sequence eventId timestamp .controller .verifier
  payload := { reason := .infrastructureFailure }

end ClosingEvents

lemma validateArtifactReferences_eq_ok {event : RunEvent}
    {artifacts : Dict Identifier ArtifactRecord} :
    validateArtifactReferences event artifacts = .ok ⟨⟩ ↔
      ∀ a ∈ event.base.artifactRefs, ∃ record, artifacts.get? a = some record ∧
        record.visibility ∈ event.base.visibility.mayReference := by
  simp only [validateArtifactReferences, bind_eq_ok, raiseIf_eq_ok, exists_const]
  constructor
  · rintro ⟨hmem, hvis⟩ a ha
    obtain ⟨record, hget⟩ := Dict.mem_iff.mp (not_not.mp fun hn => hmem ⟨a, ha, hn⟩)
    exact ⟨record, hget, not_not.mp fun hn => hvis ⟨a, ha, record, hget, hn⟩⟩
  · intro h
    refine ⟨?_, ?_⟩
    · rintro ⟨a, ha, hn⟩
      obtain ⟨record, hget, -⟩ := h a ha
      exact hn (Dict.mem_of_get? hget)
    · rintro ⟨a, ha, record, hget, hn⟩
      obtain ⟨record', hget', hvis⟩ := h a ha
      rw [Option.mem_def.mp hget, Option.some.injEq] at hget'
      exact hn (hget' ▸ hvis)

section Envelopes

variable {header : RunHeader} {st : ReplayState}

/-- An event with such an envelope passes the envelope checks. -/
lemma envelopeFits_component (event : RunEvent) {eventId : UUID} {timestamp : Datetime}
    {producer : ProducerKind} {visibility : Visibility} (hp : producer ≠ .participant)
    (hfresh : eventId ∉ st.prior.map fun e => e.base.eventId)
    (hbase : event.base =
      componentBase header st.prior.length eventId timestamp producer visibility hp)
    (hproducer : validateEventProducer event = .ok ⟨⟩) (hstart : event.isRunStarted = false) :
    EnvelopeFits header st event where
  run := by rw [hbase]; rfl
  sequence := by rw [hbase]; rfl
  fresh := by rw [hbase]; exact hfresh
  actor := by rw [hbase]; simp [componentBase]
  producer := hproducer
  references := validateArtifactReferences_eq_ok.mpr (by simp [hbase, componentBase])
  not_start := hstart

end Envelopes

/-! ### Obligations -/

/-- What keeps a run from ending. -/
inductive Obligation
  | lease (jobId : Identifier)
  | job (jobId : Identifier)
  | evaluation (jobId : Identifier)
  | dispatch (requestId : Identifier)
  | tool (interactionId : Identifier)
  | provider (requestId : Identifier)

/-- An obligation is closed only after those it may depend on. -/
def Obligation.rank : Obligation → Nat
  | lease _ => 0
  | job _ => 1
  | evaluation _ => 2
  | dispatch _ => 3
  | tool _ => 4
  | provider _ => 5

def Outstanding (st : ReplayState) : Obligation → Prop
  | .lease k => k ∈ st.activeLicenseLeases
  | .job k => ∃ state, st.jobStates.get? k = some state ∧ state.isTerminal = false
  | .evaluation k => k ∈ st.activeJobs
  | .dispatch k => (st.openDispatch k).isSome
  | .tool k => (st.openToolRequest k).isSome
  | .provider k => (st.openProviderRequest k).isSome

lemma outstanding_finite (st : ReplayState) : {o | Outstanding st o}.Finite := by
  refine Set.Finite.subset (List.finite_toSet
    (st.activeLicenseLeases.keys.map .lease ++ st.jobStates.keys.map .job ++
      st.activeJobs.keys.map .evaluation ++ st.participantToolReservations.keys.map .dispatch ++
      st.interactions.keys.map .tool ++ st.providerRequests.keys.map .provider)) ?_
  intro o ho
  simp only [Set.mem_ofPred_eq, List.mem_append, List.mem_map, Dict.mem_keys]
  cases o with
  | lease k =>
    simp only [Obligation.lease.injEq, exists_eq_right, reduceCtorEq, and_false, exists_false,
      or_false]
    exact ho
  | job k =>
    obtain ⟨state, hstate, -⟩ := ho
    simpa using Dict.mem_of_get? hstate
  | evaluation k =>
    simp only [Obligation.evaluation.injEq, exists_eq_right, reduceCtorEq, and_false, exists_false,
      or_false, false_or]
    exact ho
  | dispatch k =>
    obtain ⟨e, he⟩ := Option.isSome_iff_exists.mp ho
    rw [ReplayState.openDispatch, Option.ite_none_left_eq_some] at he
    simpa using Dict.mem_of_get? he.2
  | tool k =>
    obtain ⟨e, he⟩ := Option.isSome_iff_exists.mp ho
    rw [ReplayState.openToolRequest, Option.ite_none_left_eq_some, Option.filter_eq_some_iff] at he
    simpa using Dict.mem_of_get? he.2.1
  | provider k =>
    obtain ⟨e, he⟩ := Option.isSome_iff_exists.mp ho
    rw [ReplayState.openProviderRequest, Option.filter_eq_some_iff] at he
    simpa using Dict.mem_of_get? he.1

lemma quiescent_of_discharged {st : ReplayState} (ht : st.Tracked)
    (h : ∀ o, ¬ Outstanding st o) : st.Quiescent ∧ ¬ st.HasActiveExecutorJob := by
  refine ⟨⟨?_, ?_, ?_, ?_, ?_⟩, ?_⟩
  · refine Dict.isEmpty_iff.mpr fun k => ?_
    exact Dict.get?_eq_none_iff.mpr (h (.evaluation k))
  · refine Dict.isEmpty_iff.mpr fun k => ?_
    exact Dict.get?_eq_none_iff.mpr (h (.lease k))
  · rintro ⟨request, hmem, hstatus⟩
    obtain ⟨k, hget⟩ := Dict.mem_values.mp hmem
    exact h (.provider k) (by simp [Outstanding, ReplayState.openProviderRequest, hget, hstatus])
  · rintro ⟨⟨k, e⟩, hmem, hdir, hres⟩
    have hget := Dict.mem_entries.mp hmem
    dsimp only at hdir hres
    exact h (.tool k) (by simp [Outstanding, ReplayState.openToolRequest, hget, hdir, hres])
  · refine not_not.mpr (Dict.sameKeys_iff.mpr fun k => ⟨fun hres => ?_, ht.terminal_mem k⟩)
    by_contra hterm
    obtain ⟨e, he⟩ := Dict.mem_iff.mp hres
    exact h (.dispatch k) (by simp [Outstanding, ReplayState.openDispatch, hterm, he])
  · rintro ⟨state, hmem, hterm⟩
    obtain ⟨k, hget⟩ := Dict.mem_values.mp hmem
    exact h (.job k) ⟨state, hget, hterm⟩

/-! ### Dead ends -/

/-- No stage of a candidate is started twice, and no foreign artifact takes the identifier of the
response transcript of a provider request. -/
structure NoDeadEnd (events : List RunEvent) : Prop where
  stages : ∀ s s' : EvaluationStartedEvent,
    .evaluationStarted s ∈ events → .evaluationStarted s' ∈ events →
    s.payload.candidateId = s'.payload.candidateId → s.payload.stageId = s'.payload.stageId →
    s.payload.jobId = s'.payload.jobId
  transcripts : ∀ (r : ProviderRequestStartedEvent) (a : ArtifactRecordedEvent),
    .providerRequestStarted r ∈ events → .artifactRecorded a ∈ events →
    a.payload.record.logicalId =
      Canonical.providerTranscriptArtifactId r.payload.requestId .response →
    ResponseTranscript r.payload.requestId a.payload.record

/-- A running state of an accepted journal without a dead end. -/
structure Closable (header : RunHeader) (task : TaskSpec) (st : ReplayState) : Prop where
  replayed : replayLoop header task st.prior = .ok st
  running : st.Running header
  noDeadEnd : NoDeadEnd st.prior

/-- The step from one closable state to another one that discharges an obligation. -/
def Discharges (header : RunHeader) (task : TaskSpec) (st st' : ReplayState) (o : Obligation) :
    Prop :=
  Relation.ReflTransGen (Accepts header task) st st' ∧ Closable header task st' ∧
    ¬ Outstanding st' o ∧ ∀ o', Outstanding st' o' → Outstanding st o'

section Discharge

variable {header : RunHeader} {task : TaskSpec} {st : ReplayState}

lemma Closable.tracked (h : Closable header task st) : st.Tracked := replayLoop_tracked h.replayed

/-- Accepting an event that creates no dead end. -/
lemma Closable.accept (h : Closable header task st) {event : RunEvent}
    (hfits : EnvelopeFits header st event)
    (hkind : ∀ l, KindAdmitted header task l st event)
    (hinc : event.isIncarnationEvent = false) (hend : event.isRunEnded = false)
    (hdead : NoDeadEnd (st.prior ++ [event])) :
    Accepts header task st (st.apply header event) ∧
      Closable header task (st.apply header event) := by
  obtain ⟨l, henv, -⟩ := h.running.envelope hfits
  have hadm : Admitted header task st event l := ⟨henv, hkind l⟩
  refine ⟨⟨event, l, hadm, rfl⟩, ?_, h.running.apply hinc hend, hdead⟩
  exact replayLoop_concat_iff.mpr ⟨st, h.replayed, ⟨l, hadm⟩, rfl⟩

lemma NoDeadEnd.neutral {events : List RunEvent} {event : RunEvent} (h : NoDeadEnd events)
    (hstart : ∀ e, event ≠ .evaluationStarted e) (hrequest : ∀ e, event ≠ .providerRequestStarted e)
    (hartifact : ∀ e, event ≠ .artifactRecorded e) : NoDeadEnd (events ++ [event]) where
  stages s s' hs hs' := by
    simp only [List.mem_append, List.mem_singleton, (hstart _).symm, or_false] at hs hs'
    exact h.stages s s' hs hs'
  transcripts r a hr ha := by
    simp only [List.mem_append, List.mem_singleton, (hrequest _).symm, (hartifact _).symm,
      or_false] at hr ha
    exact h.transcripts r a hr ha

variable {k : Identifier}

/-- An open lease is filed under its own job. -/
lemma lease_jobId (h : st.Tracked) {acquired : LicenseLeaseAcquiredEvent}
    (hget : st.activeLicenseLeases.get? k = some acquired) : acquired.payload.jobId = k := by
  obtain ⟨⟨e, -, ho⟩, -⟩ := (h.leases.table_iff k acquired).mp hget
  cases e with
  | licenseLeaseAcquired a =>
    obtain ⟨h₁, h₂⟩ := Prod.mk.inj (Option.some.inj ho)
    rw [← h₂]
    exact h₁
  | _ => cases ho

lemma Closable.close_lease (h : Closable header task st)
    (hopen : Outstanding st (.lease k)) : ∃ st', Discharges header task st st' (.lease k) := by
  obtain ⟨acquired, hget⟩ := Dict.mem_iff.mp hopen
  obtain rfl := lease_jobId h.tracked hget
  obtain ⟨id, hid⟩ := exists_fresh (st.prior.map fun e => e.base.eventId)
  obtain ⟨hacc, hclosable⟩ := h.accept
    (envelopeFits_component (.licenseLeaseLost
      (leaseLostEvent header st.prior.length id acquired.timestamp acquired.payload))
      (by decide) hid rfl rfl rfl)
    (fun _ => ⟨acquired, hget, rfl, rfl, rfl, le_rfl⟩) rfl rfl
    (h.noDeadEnd.neutral (by simp) (by simp) (by simp))
  refine ⟨_, .single hacc, hclosable, ?_, ?_⟩
  · simp [Outstanding, ReplayState.apply, ReplayState.effect, leaseLostEvent, Dict.mem_erase]
  · intro o ho
    cases o with
    | lease k' => exact (Dict.mem_erase.mp ho).2
    | _ => exact ho

lemma Closable.close_job (h : Closable header task st)
    (hopen : Outstanding st (.job k)) : ∃ st', Discharges header task st st' (.job k) := by
  obtain ⟨state, hget, hterm⟩ := hopen
  obtain ⟨id, hid⟩ := exists_fresh (st.prior.map fun e => e.base.eventId)
  have hallowed : JobStateKind.failed ∈ state.transitions := by
    cases state <;> first | decide | cases hterm
  obtain ⟨hacc, hclosable⟩ := h.accept
    (envelopeFits_component (.jobStateChanged
      (jobFailedEvent header st.prior.length id 0 k none)) (by decide) hid rfl rfl rfl)
    (fun _ => ⟨state, hget, hallowed⟩) rfl rfl
    (h.noDeadEnd.neutral (by simp) (by simp) (by simp))
  refine ⟨_, .single hacc, hclosable, ?_, ?_⟩
  · simp [Outstanding, ReplayState.apply, ReplayState.effect, jobFailedEvent,
      JobStateKind.isTerminal]
  · intro o ho
    cases o with
    | job k' =>
      obtain ⟨state', hget', hterm'⟩ := ho
      simp only [ReplayState.apply, ReplayState.effect, jobFailedEvent, Dict.get?_insert] at hget'
      split_ifs at hget' with hk
      · cases hget'
        cases hterm'
      · exact ⟨state', hget', hterm'⟩
    | _ => exact ho

/-- Without a dead end, the stage of an active job has no result yet. -/
lemma Closable.unresulted (h : Closable header task st) {k c s : Identifier}
    (hget : st.activeJobs.get? k = some (c, s)) : ∀ r ∈ st.results c, r.stageId ≠ s := by
  intro r hr hs
  rw [(replayLoop_resultsRecorded h.replayed).results c] at hr
  have hev := h.tracked.evaluations
  obtain ⟨⟨e, he, ho⟩, hnot⟩ := (hev.table_iff k (c, s)).mp hget
  obtain ⟨e', he', hr⟩ := List.mem_filterMap.mp hr
  cases e with
  | evaluationStarted start =>
    cases e' with
    | evaluationCompleted completed =>
      simp only [Option.ite_none_right_eq_some, Option.some.injEq] at hr
      obtain ⟨hc, rfl⟩ := hr
      obtain ⟨rfl, hcs⟩ := Prod.mk.inj (Option.some.inj ho)
      obtain ⟨rfl, rfl⟩ := Prod.mk.inj hcs
      -- the completion closes a start of the same stage, which is the start of this job
      obtain ⟨pre, post, hsplit⟩ := List.append_of_mem he'
      obtain ⟨-, ⟨c', s'⟩, ⟨e₀, he₀, ho₀⟩, hc', hs'⟩ :=
        hev.wellBracketed.open_before pre _ post _ hsplit rfl
      cases e₀ with
      | evaluationStarted start' =>
        obtain ⟨hj, hcs'⟩ := Prod.mk.inj (Option.some.inj ho₀)
        obtain ⟨rfl, rfl⟩ := Prod.mk.inj hcs'
        have hstart' : .evaluationStarted start' ∈ st.prior := by
          rw [hsplit]
          exact List.mem_append_left _ he₀
        have hjob := h.noDeadEnd.stages start start' he hstart' (hc.symm.trans hc')
          (hs.symm.trans hs')
        exact hnot ⟨_, he', by rw [hjob, hj]; rfl⟩
      | _ => cases ho₀
    | _ => cases hr
  | _ => cases ho

lemma Closable.close_evaluation (h : Closable header task st)
    (hopen : Outstanding st (.evaluation k)) (hjobs : ∀ k', ¬ Outstanding st (.job k')) :
    ∃ st', Discharges header task st st' (.evaluation k) := by
  obtain ⟨⟨c, s⟩, hget⟩ := Dict.mem_iff.mp hopen
  obtain ⟨id, hid⟩ := exists_fresh (st.prior.map fun e => e.base.eventId)
  have hseen : k ∈ st.jobStates :=
    h.tracked.evaluations.seen_of_opened k _ ((h.tracked.evaluations.table_iff k _).mp hget).1
  obtain ⟨state, hstate⟩ := Dict.mem_iff.mp hseen
  have hterm : state.isTerminal = true := by
    by_contra hn
    exact hjobs k ⟨state, hstate, by simpa using hn⟩
  obtain ⟨hmem, hready⟩ := (replayLoop_jobsSound h.replayed).ready k c s hget
  obtain ⟨results, hresults⟩ := Dict.mem_iff.mp hmem
  have hfail := hready.fail (h.unresulted hget)
  rw [ReplayState.results_of_get? hresults] at hfail
  obtain ⟨hacc, hclosable⟩ := h.accept
    (envelopeFits_component (.evaluationCompleted
      (evaluationFailedEvent header st.prior.length id 0 k c s .verifier)) (by decide) hid
      rfl rfl rfl)
    (fun _ => ⟨hget, ⟨state, hstate, hterm⟩, by simp [evaluationFailedEvent, failedResult], rfl,
      results, hresults, hfail⟩) rfl rfl
    (h.noDeadEnd.neutral (by simp) (by simp) (by simp))
  refine ⟨_, .single hacc, hclosable, ?_, ?_⟩
  · simp [Outstanding, ReplayState.apply, ReplayState.effect, evaluationFailedEvent]
  · intro o ho
    cases o with
    | evaluation k' => exact (Dict.mem_erase.mp ho).2
    | _ => exact ho

lemma Closable.close_dispatch (h : Closable header task st)
    (hopen : Outstanding st (.dispatch k)) (hleases : ∀ k', ¬ Outstanding st (.lease k')) :
    ∃ st', Discharges header task st st' (.dispatch k) := by
  obtain ⟨reserved, hopen⟩ := Option.isSome_iff_exists.mp hopen
  obtain ⟨⟨e, -, ho⟩, -⟩ := (h.tracked.dispatches.table_iff k reserved).mp hopen
  have hk : reserved.payload.requestInteractionId = k := by
    cases e with
    | participantToolReserved r =>
      obtain ⟨h₁, h₂⟩ := Prod.mk.inj (Option.some.inj ho)
      rw [← h₂]
      exact h₁
    | _ => cases ho
  subst hk
  rw [ReplayState.openDispatch, Option.ite_none_left_eq_some] at hopen
  obtain ⟨hterm, hget⟩ := hopen
  have hunresolved := (replayLoop_toolsSound h.replayed).withheld _ (Dict.mem_of_get? hget) hterm
  obtain ⟨id, hid⟩ := exists_fresh (st.prior.map fun e => e.base.eventId)
  obtain ⟨hacc, hclosable⟩ := h.accept
    (envelopeFits_component (.participantToolLost
      (toolLostEvent header st.prior.length id reserved.timestamp reserved.payload))
      (by decide) hid rfl rfl rfl)
    (fun _ => ⟨reserved, hget, hterm, hunresolved, rfl, rfl, le_rfl, hleases _⟩) rfl rfl
    (h.noDeadEnd.neutral (by simp) (by simp) (by simp))
  refine ⟨_, .single hacc, hclosable, ?_, ?_⟩
  · simp [Outstanding, ReplayState.openDispatch, ReplayState.apply, ReplayState.effect,
      toolLostEvent]
  · intro o ho
    cases o with
    | dispatch k' =>
      obtain ⟨reserved', ho⟩ := Option.isSome_iff_exists.mp ho
      rw [ReplayState.openDispatch, Option.ite_none_left_eq_some] at ho
      refine Option.isSome_iff_exists.mpr ⟨reserved', ?_⟩
      rw [ReplayState.openDispatch, Option.ite_none_left_eq_some]
      exact ⟨fun hin => ho.1 (Dict.mem_insert.mpr (Or.inr hin)), ho.2⟩
    | _ => exact ho

/-- Two bound actors can hand the workspace over. -/
lemma handoff_of_ne {a b : Identifier} (ha : a ∈ header.actorIds) (hb : b ∈ header.actorIds)
    (hne : a ≠ b) : header.binding.session.handoffEnabled = true := by
  rw [header.binding.session.handoff_iff]
  by_contra hlen
  have hlen' : header.actorIds.length ≤ 1 := by simpa [RunHeader.actorIds] using hlen
  rcases hids : header.actorIds with _ | ⟨x, _ | ⟨y, rest⟩⟩
  · rw [hids] at ha
    cases ha
  · rw [hids, List.mem_singleton] at ha hb
    exact hne (ha.trans hb.symm)
  · simp [hids] at hlen'

/-- The workspace can be handed to any bound actor, with all open work as it was. -/
lemma Closable.hand_over (h : Closable header task st) {actor : Identifier}
    (hactor : actor ∈ header.actorIds) :
    ∃ st', Relation.ReflTransGen (Accepts header task) st st' ∧ Closable header task st' ∧
      st'.currentWriter = actor ∧ st'.interactions = st.interactions ∧
      ∀ o, Outstanding st' o ↔ Outstanding st o := by
  by_cases heq : st.currentWriter = actor
  · exact ⟨st, .refl, h, heq, rfl, fun o => Iff.rfl⟩
  · have hwriter := (replayLoop_toolsSound h.replayed).writer
    obtain ⟨id, hid⟩ := exists_fresh (st.prior.map fun e => e.base.eventId)
    have hfits : EnvelopeFits header st (.controlTransferred
        (controlReturnedEvent header st.prior.length id 0 st.currentWriter actor heq)) := by
      refine ⟨rfl, rfl, hid, ?_, rfl, validateArtifactReferences_eq_ok.mpr nofun, rfl⟩
      rintro _ ⟨⟩
      exact hwriter
    obtain ⟨hacc, hclosable⟩ := h.accept hfits
      (fun _ => ⟨handoff_of_ne hwriter hactor heq, rfl, hactor, rfl⟩) rfl rfl
      (h.noDeadEnd.neutral (by simp) (by simp) (by simp))
    refine ⟨_, .single hacc, hclosable, rfl, rfl, fun o => ?_⟩
    cases o <;> exact Iff.rfl

/-- The result of a tool request, once its requester holds the workspace. -/
lemma Closable.close_own_tool (h : Closable header task st)
    {request : InteractionRecordedEvent} (hopen : st.openToolRequest k = some request)
    (hactor : request.actor = some st.currentWriter)
    (hdispatches : ∀ k', ¬ Outstanding st (.dispatch k')) :
    ∃ st', Discharges header task st st' (.tool k) := by
  rw [ReplayState.openToolRequest, Option.ite_none_left_eq_some, Option.filter_eq_some_iff,
    decide_eq_true_eq] at hopen
  obtain ⟨hunresolved, hget, hdir⟩ := hopen
  obtain ⟨tool, htool⟩ := Option.isSome_iff_exists.mp (request.payload.tool_iff.mp (Or.inl hdir))
  obtain ⟨id, hid⟩ := exists_fresh (st.prior.map fun e => e.base.eventId)
  obtain ⟨interactionId, hfresh⟩ := exists_fresh st.interactions.keys
  rw [Dict.mem_keys] at hfresh
  have hkind : InteractionAdmitted st
      (toolResultEvent header st.prior.length id 0 interactionId k tool) := by
    refine ⟨hfresh, fun h => (by cases h), ?_⟩
    rintro _ ⟨⟩
    refine ⟨⟨request, hget, hdir, hactor, htool⟩, hunresolved, ?_⟩
    rintro ⟨-, hres, hterm⟩
    obtain ⟨reserved, hreserved⟩ := Dict.mem_iff.mp hres
    exact hdispatches k (by simp [Outstanding, ReplayState.openDispatch, hterm, hreserved])
  obtain ⟨hacc, hclosable⟩ := h.accept
    (envelopeFits_component (.interactionRecorded
      (toolResultEvent header st.prior.length id 0 interactionId k tool))
      (by decide) hid rfl rfl rfl)
    (fun _ => hkind) rfl rfl (h.noDeadEnd.neutral (by simp) (by simp) (by simp))
  refine ⟨_, .single hacc, hclosable, ?_, ?_⟩
  · simp [Outstanding, ReplayState.openToolRequest, ReplayState.apply, ReplayState.effect,
      toolResultEvent]
  · intro o ho
    cases o with
    | tool k' =>
      obtain ⟨request', ho⟩ := Option.isSome_iff_exists.mp ho
      simp only [ReplayState.openToolRequest, ReplayState.apply, ReplayState.effect,
        toolResultEvent, Option.ite_none_left_eq_some, Option.filter_eq_some_iff,
        decide_eq_true_eq, Dict.get?_insert] at ho
      obtain ⟨hres', hget', hdir'⟩ := ho
      split_ifs at hget' with hk'
      · cases hget'
        cases hdir'
      · refine Option.isSome_iff_exists.mpr ⟨request', ?_⟩
        rw [ReplayState.openToolRequest, Option.ite_none_left_eq_some, Option.filter_eq_some_iff,
          decide_eq_true_eq]
        exact ⟨fun hin => hres' (List.mem_append_right _ hin), hget', hdir'⟩
    | _ => exact ho

lemma Closable.close_tool (h : Closable header task st)
    (hopen : Outstanding st (.tool k)) (hdispatches : ∀ k', ¬ Outstanding st (.dispatch k')) :
    ∃ st', Discharges header task st st' (.tool k) := by
  obtain ⟨request, hrequest⟩ := Option.isSome_iff_exists.mp hopen
  have hget := hrequest
  rw [ReplayState.openToolRequest, Option.ite_none_left_eq_some, Option.filter_eq_some_iff,
    decide_eq_true_eq] at hget
  obtain ⟨actor, hactor, hactor_eq⟩ :=
    (replayLoop_toolsSound h.replayed).requester k request hget.2.1 hget.2.2
  obtain ⟨st₁, hreach₁, h₁, hwriter, hinter, hsame⟩ := h.hand_over hactor
  obtain ⟨request₁, hrequest₁⟩ := Option.isSome_iff_exists.mp ((hsame (.tool k)).mpr hopen)
  have heq : request₁ = request := by
    rw [ReplayState.openToolRequest, Option.ite_none_left_eq_some, Option.filter_eq_some_iff,
      hinter, hget.2.1] at hrequest₁
    exact (Option.some.inj hrequest₁.2.1).symm
  subst heq
  obtain ⟨st₂, hreach₂, h₂, hclosed, hsub⟩ := h₁.close_own_tool hrequest₁
    (hwriter ▸ hactor_eq) (fun k' hk' => hdispatches k' ((hsame _).mp hk'))
  exact ⟨st₂, hreach₁.trans hreach₂, h₂, hclosed, fun o ho => (hsame o).mp (hsub o ho)⟩

/-- The response to a request whose transcript is registered. -/
lemma Closable.close_registered_provider (h : Closable header task st)
    (hopen : Outstanding st (.provider k)) {record : ArtifactRecord}
    (hrecord : st.artifacts.get? (Canonical.providerTranscriptArtifactId k .response) =
      some record) (htranscript : ResponseTranscript k record) :
    ∃ st', Discharges header task st st' (.provider k) := by
  obtain ⟨request, hrequest⟩ := Option.isSome_iff_exists.mp hopen
  rw [ReplayState.openProviderRequest, Option.filter_eq_some_iff, decide_eq_true_eq] at hrequest
  obtain ⟨hget, hstatus⟩ := hrequest
  obtain ⟨id, hid⟩ := exists_fresh (st.prior.map fun e => e.base.eventId)
  have hfits : EnvelopeFits header st (.providerResponseRecorded
      (responseFailedEvent header st.prior.length id 0 k)) := by
    refine ⟨rfl, rfl, hid, fun _ h => (by cases h), rfl, ?_, rfl⟩
    refine validateArtifactReferences_eq_ok.mpr fun a ha => ⟨record, ?_, ?_⟩
    · rw [List.mem_singleton.mp ha]
      exact hrecord
    · rw [htranscript.visibility]
      change Visibility.author ∈ Visibility.mayReference .author
      decide
  have hkind : ProviderResponseAdmitted st (responseFailedEvent header st.prior.length id 0 k) :=
    ⟨⟨request, hget, hstatus⟩,
      validateResponseTranscript_eq_ok.mpr ⟨_, record, rfl, hrecord, rfl, htranscript⟩⟩
  obtain ⟨hacc, hclosable⟩ := h.accept hfits (fun _ => hkind) rfl rfl
    (h.noDeadEnd.neutral (by simp) (by simp) (by simp))
  have hrequests : (st.apply header (.providerResponseRecorded
      (responseFailedEvent header st.prior.length id 0 k))).providerRequests =
      st.providerRequests.insert k
        (request.respond (responseFailedEvent header st.prior.length id 0 k).payload) := by
    simp [ReplayState.apply, ReplayState.effect, responseFailedEvent, hget]
  refine ⟨_, .single hacc, hclosable, ?_, ?_⟩
  · simp [Outstanding, ReplayState.openProviderRequest, hrequests, ProviderRequestState.respond]
  · intro o ho
    cases o with
    | provider k' =>
      by_cases hk : k' = k
      · rw [hk]
        exact hopen
      · simpa [Outstanding, ReplayState.openProviderRequest, hrequests,
          Dict.get?_insert_of_ne _ _ hk] using ho
    | _ => exact ho

/-- Recording the response transcript of a request creates no dead end. -/
lemma NoDeadEnd.transcript {events : List RunEvent} (h : NoDeadEnd events)
    {a : ArtifactRecordedEvent} (ha : a.payload.record = responseTranscript k) :
    NoDeadEnd (events ++ [.artifactRecorded a]) where
  stages s s' hs hs' := by
    simp only [List.mem_append, List.mem_singleton, reduceCtorEq, or_false] at hs hs'
    exact h.stages s s' hs hs'
  transcripts r a' hr ha' hid := by
    simp only [List.mem_append, List.mem_singleton, reduceCtorEq, or_false,
      RunEvent.artifactRecorded.injEq] at hr ha'
    rcases ha' with ha' | rfl
    · exact h.transcripts r a' hr ha' hid
    · rw [ha] at hid ⊢
      exact ⟨hid, rfl, rfl, rfl, rfl, rfl⟩

lemma Closable.close_provider (h : Closable header task st)
    (hopen : Outstanding st (.provider k)) :
    ∃ st', Discharges header task st st' (.provider k) := by
  by_cases hreg : Canonical.providerTranscriptArtifactId k .response ∈ st.artifacts
  · obtain ⟨record, hrecord⟩ := Dict.mem_iff.mp hreg
    refine h.close_registered_provider hopen hrecord ?_
    obtain ⟨hid, a, ha, rfl⟩ :=
      ((replayLoop_artifactsSound h.replayed).registered _ _).mp hrecord
    obtain ⟨request, hrequest⟩ := Option.isSome_iff_exists.mp hopen
    obtain ⟨⟨e, he, ho⟩, -⟩ := (h.tracked.providers.table_iff k request).mp hrequest
    cases e with
    | providerRequestStarted r =>
      obtain ⟨rfl, -⟩ := Prod.mk.inj (Option.some.inj ho)
      exact h.noDeadEnd.transcripts r a he ha hid
    | _ => cases ho
  · obtain ⟨id, hid⟩ := exists_fresh (st.prior.map fun e => e.base.eventId)
    obtain ⟨hacc, hclosable⟩ := h.accept
      (envelopeFits_component (.artifactRecorded
        (transcriptRecordedEvent header st.prior.length id 0 k)) (by decide) hid rfl rfl rfl)
      (fun _ => hreg) rfl rfl (h.noDeadEnd.transcript rfl)
    have hrecord : (st.apply header (.artifactRecorded
        (transcriptRecordedEvent header st.prior.length id 0 k))).artifacts.get?
        (Canonical.providerTranscriptArtifactId k .response) = some (responseTranscript k) :=
      Dict.get?_insert_self _ _ _
    obtain ⟨st₂, hreach, h₂, hclosed, hsub⟩ := hclosable.close_registered_provider
      (show Outstanding _ (.provider k) from hopen) hrecord ⟨rfl, rfl, rfl, rfl, rfl, rfl⟩
    refine ⟨st₂, hreach.head hacc, h₂, hclosed, fun o ho => ?_⟩
    have := hsub o ho
    cases o <;> exact this

/-- Every outstanding obligation of least rank can be discharged. -/
theorem Closable.close (h : Closable header task st) {o : Obligation} (hopen : Outstanding st o)
    (hleast : ∀ o', Outstanding st o' → o.rank ≤ o'.rank) :
    ∃ st', Discharges header task st st' o := by
  have hdone : ∀ o', o'.rank < o.rank → ¬ Outstanding st o' :=
    fun o' hlt ho' => absurd (hleast o' ho') (Nat.not_le.mpr hlt)
  cases o with
  | lease k => exact h.close_lease hopen
  | job k => exact h.close_job hopen
  | evaluation k =>
    exact h.close_evaluation hopen fun k' => hdone (.job k') (by simp [Obligation.rank])
  | dispatch k =>
    exact h.close_dispatch hopen fun k' => hdone (.lease k') (by simp [Obligation.rank])
  | tool k => exact h.close_tool hopen fun k' => hdone (.dispatch k') (by simp [Obligation.rank])
  | provider k => exact h.close_provider hopen

end Discharge

end EdaGym
