import EdaGym.Run.Terminal
import EdaGym.Evaluation.Readiness

/-!
# Open work

What the replay state knows about work that is still open: who asked for it, which results it
rests on, and which artifacts it has registered.
-/

namespace EdaGym

variable [Canonical]

/-- The registration policy of a raw response transcript. -/
structure ResponseTranscript (requestId : Identifier) (record : ArtifactRecord) : Prop where
  logicalId : record.logicalId = Canonical.providerTranscriptArtifactId requestId .response
  mediaType : record.mediaType = PROVIDER_TRANSCRIPT_MEDIA_TYPE
  artifactClass : record.artifactClass = .training
  sensitivity : record.sensitivity = .confidential
  visibility : record.visibility = .author
  redistribution : record.redistribution = .forbidden

lemma validateTranscriptRecord_response {visibility : Visibility} {record : ArtifactRecord}
    {requestId : Identifier} :
    validateTranscriptRecord visibility record requestId .response = .ok ⟨⟩ ↔
      visibility = .author ∧ ResponseTranscript requestId record := by
  simp only [validateTranscriptRecord, bind_eq_ok, raiseIf_eq_ok, exists_const, not_or, not_not]
  constructor
  · rintro ⟨hv, ⟨h₁, h₂⟩, h₃, h₄, h₅, h₆⟩
    exact ⟨hv, h₁, h₂, h₃, h₄, h₅, h₆⟩
  · rintro ⟨hv, h₁, h₂, h₃, h₄, h₅, h₆⟩
    exact ⟨hv, ⟨h₁, h₂⟩, h₃, h₄, h₅, h₆⟩

lemma validateResponseTranscript_eq_ok {event : ProviderResponseRecordedEvent}
    {artifacts : Dict Identifier ArtifactRecord} :
    validateResponseTranscript event artifacts = .ok ⟨⟩ ↔
      ∃ reference record, event.artifactRefs.head? = some reference ∧
        artifacts.get? reference = some record ∧ event.visibility = .author ∧
        ResponseTranscript event.payload.requestId record := by
  simp only [validateResponseTranscript, bind_eq_ok, orRaise_eq_ok,
    validateTranscriptRecord_response]
  constructor
  · rintro ⟨reference, href, record, hget, hv, ht⟩
    exact ⟨reference, record, href, hget, hv, ht⟩
  · rintro ⟨reference, record, href, hget, hv, ht⟩
    exact ⟨reference, href, record, hget, hv, ht⟩

namespace ReplayState

/-- The tool requests come from bound actors, and a running dispatch holds back the result of the
executor request it serves. -/
structure ToolsSound (header : RunHeader) (st : ReplayState) : Prop where
  writer : st.currentWriter ∈ header.actorIds
  requester : ∀ k e, st.interactions.get? k = some e → e.payload.direction = .toolRequest →
    ∃ actor ∈ header.actorIds, e.actor = some actor
  reserved : ∀ k ∈ st.participantToolReservations, ∃ e, st.interactions.get? k = some e ∧
    e.payload.direction = .toolRequest ∧
    e.payload.toolName = some EXECUTOR_PARTICIPANT_TOOL_NAME
  withheld : ∀ k ∈ st.participantToolReservations, k ∉ st.participantToolTerminals →
    k ∉ st.resolvedToolRequests

/-- A started evaluation keeps the results that made its stage ready. -/
structure JobsSound (task : TaskSpec) (st : ReplayState) : Prop where
  ready : ∀ jobId c s, st.activeJobs.get? jobId = some (c, s) →
    c ∈ st.resultsByCandidate ∧ StageReady task (st.results c) s
  nodup : ∀ c, ((st.results c).map StageResult.stageId).Nodup

/-- The artifact registry is what the journal recorded, and the recorded responses found their
transcripts in it. -/
structure ArtifactsSound (st : ReplayState) : Prop where
  registered : ∀ k record, st.artifacts.get? k = some record ↔
    record.logicalId = k ∧ ∃ e, .artifactRecorded e ∈ st.prior ∧ e.payload.record = record
  responded : ∀ e, .providerResponseRecorded e ∈ st.prior →
    ∃ record, st.artifacts.get? record.logicalId = some record ∧
      ResponseTranscript e.payload.requestId record

end ReplayState

section Sound

variable {header : RunHeader} {task : TaskSpec} {lifecycle : ParticipantIncarnationLifecycle}
  {st : ReplayState} {event : RunEvent}

/-! ### Tools -/

lemma toolsSound_initial (header : RunHeader) :
    (ReplayState.initial header).ToolsSound header where
  writer := header.binding.session.writer_bound
  requester k e h := by cases h
  reserved k hk := absurd hk (Dict.not_mem_empty k)
  withheld k hk := absurd hk (Dict.not_mem_empty k)

/-- The producer checks leave tool requests to participants. -/
lemma producer_of_toolRequest {e : InteractionRecordedEvent}
    (h : validateEventProducer (.interactionRecorded e) = .ok ⟨⟩)
    (hdir : e.payload.direction = .toolRequest) : e.producer = .participant := by
  simp only [validateEventProducer, bind_eq_ok, raiseIf_eq_ok, exists_const, not_not] at h
  obtain ⟨-, hallowed⟩ := h
  by_contra hne
  simp [allowedDirections, hne, hdir] at hallowed

lemma toolsSound_interaction {e : InteractionRecordedEvent} (h : st.ToolsSound header)
    (hadm : Admitted header task st (.interactionRecorded e) lifecycle) :
    (st.apply header (.interactionRecorded e)).ToolsSound header := by
  have hk : InteractionAdmitted st e := hadm.kind
  have hkeep : ∀ k r, st.interactions.get? k = some r →
      (st.interactions.insert e.payload.interactionId e).get? k = some r := by
    intro k r hget
    rw [Dict.get?_insert_of_ne _ _ ?_]
    · exact hget
    · rintro rfl
      exact hk.fresh (Dict.mem_of_get? hget)
  refine ⟨h.writer, ?_, ?_, ?_⟩
  · intro k r hget hdir
    simp only [ReplayState.apply, ReplayState.effect, Dict.get?_insert] at hget
    split_ifs at hget with hke
    · cases hget
      have hproducer := producer_of_toolRequest hadm.envelope.producer hdir
      obtain ⟨actor, hactor⟩ := Option.isSome_iff_exists.mp (e.actor_iff.mp hproducer)
      exact ⟨actor, hadm.envelope.actor actor hactor, hactor⟩
    · exact h.requester k r hget hdir
  · intro k hmem
    obtain ⟨r, hget, hdir, htool⟩ := h.reserved k hmem
    exact ⟨r, hkeep k r hget, hdir, htool⟩
  · intro k hmem hterm hres
    rcases List.mem_append.mp hres with hres | hres
    · -- the result of a running executor request is refused
      obtain ⟨⟨related, hrelated, -, -, htools⟩, -, hrefused⟩ :=
        hk.related k (Option.mem_toList.mp hres)
      obtain ⟨r, hget, -, htool⟩ := h.reserved k hmem
      rw [Option.mem_def.mp hrelated, Option.some.injEq] at hget
      subst hget
      exact hrefused ⟨htools.symm.trans htool, hmem, hterm⟩
    · exact h.withheld k hmem hterm hres

lemma toolsSound_apply (h : st.ToolsSound header)
    (hadm : Admitted header task st event lifecycle) :
    (st.apply header event).ToolsSound header := by
  cases event with
  | interactionRecorded e => exact toolsSound_interaction h hadm
  | participantToolReserved e =>
    have hk : ToolReservedAdmitted header st e := hadm.kind
    refine ⟨h.writer, h.requester, ?_, ?_⟩
    · intro k hmem
      rcases Dict.mem_insert.mp hmem with rfl | hmem
      · obtain ⟨r, hget, hdir, htool⟩ := hk.request
        exact ⟨r, hget, hdir, htool⟩
      · exact h.reserved k hmem
    · intro k hmem hterm
      rcases Dict.mem_insert.mp hmem with rfl | hmem
      · exact hk.unresolved
      · exact h.withheld k hmem hterm
  | participantToolSettled e =>
    refine ⟨h.writer, h.requester, h.reserved, fun k hmem hterm => h.withheld k hmem ?_⟩
    exact fun hin => hterm (Dict.mem_insert.mpr (Or.inr hin))
  | participantToolLost e =>
    refine ⟨h.writer, h.requester, h.reserved, fun k hmem hterm => h.withheld k hmem ?_⟩
    exact fun hin => hterm (Dict.mem_insert.mpr (Or.inr hin))
  | controlTransferred e =>
    have hk : ControlTransferredAdmitted header st e := hadm.kind
    exact ⟨hk.next, h.requester, h.reserved, h.withheld⟩
  | _ => exact ⟨h.writer, h.requester, h.reserved, h.withheld⟩

variable {events : List RunEvent}

theorem replayLoop_toolsSound
    (h : replayLoop header task events = .ok st) : st.ToolsSound header :=
  replayLoop_induction (toolsSound_initial header)
    (fun _ _ _ hs hadm => toolsSound_apply hs hadm) h

/-! ### Jobs -/

omit [Canonical] in
lemma StageReady.append {results : List StageResult} {stageId : Identifier} {more : StageResult}
    (h : StageReady task results stageId)
    (hvalid : ∃ validated, validateStageResults task (results ++ [more]) = .ok validated) :
    StageReady task (results ++ [more]) stageId := by
  obtain ⟨stage, hstage, hdeps⟩ := h.stage
  refine ⟨hvalid, stage, hstage, fun dependency hd => ?_⟩
  obtain ⟨r, hr, hid, hp⟩ := hdeps dependency hd
  exact ⟨r, List.mem_append_left _ hr, hid, hp⟩

omit [Canonical] in
lemma nodup_of_validated {results validated : List StageResult}
    (h : validateStageResults task results = .ok validated) :
    (results.map StageResult.stageId).Nodup := by
  obtain ⟨index, -, hindex, -⟩ := validateStageResults_eq_ok.mp h
  exact (resultIndex_eq_ok.mp hindex).1

lemma jobsSound_initial : (ReplayState.initial header).JobsSound task where
  ready jobId c s h := by cases h
  nodup c := List.nodup_nil

lemma jobsSound_apply (hr : st.ResultsRecorded header task) (h : st.JobsSound task)
    (hadm : Admitted header task st event lifecycle) :
    (st.apply header event).JobsSound task := by
  cases event with
  | candidateSubmitted e =>
    have hresults := results_candidateSubmitted hr hadm.kind
    refine ⟨fun jobId c s hjob => ?_, fun c => ?_⟩
    · obtain ⟨hmem, hready⟩ := h.ready jobId c s hjob
      rw [hresults c]
      exact ⟨Dict.mem_insert.mpr (Or.inr hmem), hready⟩
    · rw [hresults c]
      exact h.nodup c
  | evaluationStarted e =>
    have hk : EvaluationStartedAdmitted task st e.payload := hadm.kind
    obtain ⟨results, hget, -, eligibility, helig, hready⟩ := hk.eligible
    refine ⟨fun jobId c s hjob => ?_, h.nodup⟩
    simp only [ReplayState.apply, ReplayState.effect, Dict.get?_insert] at hjob
    split_ifs at hjob with hj
    · rw [Option.some.injEq, Prod.mk.injEq] at hjob
      obtain ⟨rfl, rfl⟩ := hjob
      refine ⟨Dict.mem_of_get? hget, ?_⟩
      change StageReady task (st.results _) _
      rw [ReplayState.results_of_get? hget]
      exact stageReady_of_eligible helig hready
    · exact h.ready jobId c s hjob
  | evaluationCompleted e =>
    have hk : EvaluationCompletedAdmitted header task st e := hadm.kind
    obtain ⟨results, hget, validated, hvalid⟩ := hk.results
    rw [← ReplayState.results_of_get? hget] at hvalid
    have hresults := results_evaluationCompleted header st e
    refine ⟨fun jobId c s hjob => ?_, fun c => ?_⟩
    · simp only [ReplayState.apply, ReplayState.effect, Dict.get?_erase] at hjob
      split_ifs at hjob with hj
      obtain ⟨hmem, hready⟩ := h.ready jobId c s hjob
      refine ⟨Dict.mem_insert.mpr (Or.inr hmem), ?_⟩
      rw [hresults c]
      split_ifs with hc
      · subst hc
        exact hready.append ⟨validated, hvalid⟩
      · rw [List.append_nil]
        exact hready
    · rw [hresults c]
      split_ifs with hc
      · subst hc
        exact nodup_of_validated hvalid
      · rw [List.append_nil]
        exact h.nodup c
  | _ => exact ⟨h.ready, h.nodup⟩

theorem replayLoop_jobsSound
    (h : replayLoop header task events = .ok st) : st.JobsSound task := by
  refine (replayLoop_induction
    (P := fun st => st.ResultsRecorded header task ∧ st.JobsSound task) ?_ ?_ h).2
  · exact ⟨resultsRecorded_initial, jobsSound_initial⟩
  · rintro st event lifecycle ⟨hr, hs⟩ hadm
    exact ⟨resultsRecorded_apply hr hadm, jobsSound_apply hr hs hadm⟩

/-! ### Artifacts -/

lemma artifactsSound_initial : (ReplayState.initial header).ArtifactsSound where
  registered k record := by simp [ReplayState.initial]
  responded e h := by cases h

/-- An event that registers no artifact and records no response. -/
lemma artifactsSound_frame (h : st.ArtifactsSound)
    (hart : (st.apply header event).artifacts = st.artifacts)
    (hrec : ∀ e, event ≠ .artifactRecorded e) (hresp : ∀ e, event ≠ .providerResponseRecorded e) :
    (st.apply header event).ArtifactsSound where
  registered k record := by
    rw [hart, h.registered k record, ReplayState.prior_apply]
    simp only [List.mem_append, List.mem_singleton]
    constructor
    · rintro ⟨hid, e, he, heq⟩
      exact ⟨hid, e, Or.inl he, heq⟩
    · rintro ⟨hid, e, he | he, heq⟩
      · exact ⟨hid, e, he, heq⟩
      · exact absurd he.symm (hrec e)
  responded e he := by
    rw [hart]
    rcases List.mem_append.mp he with he | he
    · exact h.responded e he
    · exact absurd (List.mem_singleton.mp he).symm (hresp e)

lemma artifactsSound_apply (h : st.ArtifactsSound)
    (hadm : Admitted header task st event lifecycle) :
    (st.apply header event).ArtifactsSound := by
  cases event with
  | artifactRecorded e =>
    have hfresh : e.payload.record.logicalId ∉ st.artifacts := hadm.kind
    have hkeep : ∀ k record, st.artifacts.get? k = some record →
        (st.artifacts.insert e.payload.record.logicalId e.payload.record).get? k =
          some record := by
      intro k record hget
      rw [Dict.get?_insert_of_ne _ _ ?_]
      · exact hget
      · rintro rfl
        exact hfresh (Dict.mem_of_get? hget)
    refine ⟨fun k record => ?_, fun r hr => ?_⟩
    · simp only [ReplayState.prior_apply, List.mem_append, List.mem_singleton]
      simp only [ReplayState.apply, ReplayState.effect]
      constructor
      · intro hget
        rw [Dict.get?_insert] at hget
        split_ifs at hget with hk
        · cases hget
          exact ⟨hk.symm, e, Or.inr rfl, rfl⟩
        · obtain ⟨hid, a, ha, heq⟩ := (h.registered k record).mp hget
          exact ⟨hid, a, Or.inl ha, heq⟩
      · rintro ⟨rfl, a, ha | ha, rfl⟩
        · exact hkeep _ _ ((h.registered _ _).mpr ⟨rfl, a, ha, rfl⟩)
        · cases ha
          exact Dict.get?_insert_self _ _ _
    · rcases List.mem_append.mp hr with hr | hr
      · obtain ⟨record, hget, ht⟩ := h.responded r hr
        exact ⟨record, hkeep _ _ hget, ht⟩
      · cases List.mem_singleton.mp hr
  | providerResponseRecorded e =>
    have hk : ProviderResponseAdmitted st e := hadm.kind
    refine ⟨fun k record => ?_, fun r hr => ?_⟩
    · rw [ReplayState.prior_apply]
      simp only [List.mem_append, List.mem_singleton, reduceCtorEq, or_false]
      exact h.registered k record
    · rcases List.mem_append.mp hr with hr | hr
      · exact h.responded r hr
      · cases List.mem_singleton.mp hr
        obtain ⟨reference, record, -, hget, -, ht⟩ :=
          validateResponseTranscript_eq_ok.mp hk.transcript
        obtain ⟨hid, -⟩ := (h.registered reference record).mp hget
        exact ⟨record, hid ▸ hget, ht⟩
  | _ => exact artifactsSound_frame h rfl (by simp) (by simp)

theorem replayLoop_artifactsSound
    (h : replayLoop header task events = .ok st) : st.ArtifactsSound :=
  replayLoop_induction artifactsSound_initial
    (fun _ _ _ hs hadm => artifactsSound_apply hs hadm) h

/-! ### Projections of the journal -/

lemma dispatchScan_eq
    (h : replayLoop header task events = .ok st) :
    foldSteps dispatchStep {} events = .ok
      { reservations := st.participantToolReservations
        terminals := st.participantToolTerminals } := by
  rw [← replayLoop_prior h]
  refine replayLoop_induction (P := fun st => foldSteps dispatchStep {} st.prior = .ok
    { reservations := st.participantToolReservations,
      terminals := st.participantToolTerminals }) rfl ?_ h
  intro st event lifecycle ih hadm
  rw [ReplayState.prior_apply, foldSteps_concat_eq_ok]
  refine ⟨_, ih, ?_⟩
  cases event with
  | participantToolReserved e =>
    have hk : ToolReservedAdmitted header st e := hadm.kind
    simp only [dispatchStep, bind_eq_ok, raiseIf_eq_ok, exists_const, pure_eq_ok]
    exact ⟨hk.fresh, rfl⟩
  | participantToolSettled e =>
    have hk : ToolSettledAdmitted st e := hadm.kind
    obtain ⟨reserved, hterm, -⟩ := hk.terminal
    simp only [dispatchStep, DispatchScan.close, bind_eq_ok, raiseIf_eq_ok, exists_const,
      pure_eq_ok, not_not]
    exact ⟨Dict.mem_of_get? hterm.reservation, hterm.running, rfl⟩
  | participantToolLost e =>
    have hk : ToolLostAdmitted st e := hadm.kind
    obtain ⟨reserved, hterm⟩ := hk.terminal
    simp only [dispatchStep, DispatchScan.close, bind_eq_ok, raiseIf_eq_ok, exists_const,
      pure_eq_ok, not_not]
    exact ⟨Dict.mem_of_get? hterm.reservation, hterm.running, rfl⟩
  | _ => rfl

lemma participantToolDispatches_eq
    (h : replayLoop header task events = .ok st) :
    participantToolDispatches events = .ok (st.participantToolReservations.entries.map
      fun (requestId, reservation) =>
        (requestId, { reservation, terminal := st.participantToolTerminals.get? requestId })) := by
  simp only [participantToolDispatches, dispatchScan_eq h, bind_eq_ok, pure_eq_ok]
  exact ⟨_, rfl, rfl⟩

lemma activeLicenseLeases_eq
    (h : replayLoop header task events = .ok st) :
    activeLicenseLeases events = .ok st.activeLicenseLeases := by
  rw [← replayLoop_prior h]
  refine replayLoop_induction (P := fun st => st.Tracked ∧
    activeLicenseLeases st.prior = .ok st.activeLicenseLeases) ⟨tracked_initial header, rfl⟩ ?_ h
    |>.2
  rintro st event lifecycle ⟨ht, ih⟩ hadm
  refine ⟨tracked_apply ht hadm, ?_⟩
  rw [ReplayState.prior_apply, activeLicenseLeases, foldSteps_concat_eq_ok]
  refine ⟨_, ih, ?_⟩
  cases event with
  | licenseLeaseAcquired e =>
    have hk : LicenseDecisionAdmitted st e.payload := hadm.kind
    simp only [leaseStep, bind_eq_ok, raiseIf_eq_ok, exists_const, pure_eq_ok]
    refine ⟨fun hmem => ?_, rfl⟩
    obtain ⟨acquired, hget⟩ := Dict.mem_iff.mp hmem
    exact hk.undecided (ht.leases.seen_of_opened _ _ ((ht.leases.table_iff _ _).mp hget).1)
  | licenseLeaseReleased e =>
    have hk : LicenseClosedAdmitted st e.payload e.timestamp := hadm.kind
    obtain ⟨acquired, hget, -⟩ := hk.acquired
    simp only [leaseStep, bind_eq_ok, raiseIf_eq_ok, exists_const, pure_eq_ok, not_not]
    exact ⟨Dict.mem_of_get? hget, rfl⟩
  | licenseLeaseLost e =>
    have hk : LicenseClosedAdmitted st e.payload e.timestamp := hadm.kind
    obtain ⟨acquired, hget, -⟩ := hk.acquired
    simp only [leaseStep, bind_eq_ok, raiseIf_eq_ok, exists_const, pure_eq_ok, not_not]
    exact ⟨Dict.mem_of_get? hget, rfl⟩
  | _ => rfl

/-- The unresolved tool requests are the open ones. -/
lemma mem_unresolvedToolRequests (ht : st.Tracked) {name : Option Identifier}
    {request : InteractionRecordedEvent} :
    request ∈ unresolvedToolRequests st.prior name ↔
      st.openToolRequest request.payload.interactionId = some request ∧
        (name = none ∨ request.payload.toolName = name) := by
  rw [ht.tools.table_iff]
  simp only [unresolvedToolRequests, List.mem_filter, List.mem_filterMap, decide_eq_true_eq]
  constructor
  · rintro ⟨⟨e, he, hsome⟩, hdir, hunresolved, hname⟩
    cases e with
    | interactionRecorded e =>
      cases hsome
      refine ⟨⟨⟨_, he, by simp [toolBracket, hdir]⟩, ?_⟩, hname⟩
      rintro ⟨c, hc, hclose⟩
      cases c with
      | interactionRecorded c =>
        have hrel : c.payload.relatedInteractionId = some request.payload.interactionId := hclose
        refine hunresolved ⟨c, ⟨⟨_, hc, rfl⟩, ?_⟩, hrel⟩
        rw [c.payload.related_iff, hrel]
        rfl
      | _ => cases hclose
    | _ => cases hsome
  · rintro ⟨⟨⟨e, he, ho⟩, hnot⟩, hname⟩
    cases e with
    | interactionRecorded e =>
      simp only [toolBracket, Option.ite_none_right_eq_some, Option.some.injEq, Prod.mk.injEq] at ho
      obtain ⟨hdir, -, rfl⟩ := ho
      refine ⟨⟨_, he, rfl⟩, hdir, ?_, hname⟩
      rintro ⟨c, ⟨⟨c', hc', hsome⟩, -⟩, hrel⟩
      cases c' with
      | interactionRecorded c' =>
        cases hsome
        exact hnot ⟨_, hc', hrel⟩
      | _ => cases hsome
    | _ => cases ho

end Sound

end EdaGym
