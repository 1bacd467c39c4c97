import EdaGym.Run.Admission
import EdaGym.Lib.Bracket

/-!
# Invariants of the replay

The maps of the replay state are tables of what the journal has opened and not yet closed: the
evaluations, the licence leases, the provider requests, the tool requests and the tool
dispatches.
-/

namespace EdaGym

variable [Canonical]

/-! ### Induction over accepted journals -/

section Induction

variable {header : RunHeader} {task : TaskSpec} {events : List RunEvent} {st : ReplayState}

@[simp] lemma ReplayState.prior_apply (event : RunEvent) :
    (st.apply header event).prior = st.prior ++ [event] := rfl

lemma replayLoop_concat_iff {event : RunEvent} {st' : ReplayState} :
    replayLoop header task (events ++ [event]) = .ok st' ↔
      ∃ st, replayLoop header task events = .ok st ∧
        (∃ lifecycle, Admitted header task st event lifecycle) ∧ st' = st.apply header event := by
  simp only [replayLoop, foldSteps_concat_eq_ok, replayStep_eq_ok_iff]

/-- What the empty state satisfies and every admitted event keeps holds after every accepted
journal. -/
theorem replayLoop_induction {P : ReplayState → Prop} (hinit : P (ReplayState.initial header))
    (hstep : ∀ st event lifecycle, P st → Admitted header task st event lifecycle →
      P (st.apply header event))
    (h : replayLoop header task events = .ok st) : P st := by
  refine foldSteps_induction (P := fun _ st => P st) ?_ hinit h
  intro _ m event m' hm hstep'
  obtain ⟨⟨lifecycle, hadm⟩, rfl⟩ := replayStep_eq_ok_iff.mp hstep'
  exact hstep m event lifecycle hm hadm

/-- The state remembers exactly the events replayed. -/
lemma replayLoop_prior (h : replayLoop header task events = .ok st) : st.prior = events := by
  refine foldSteps_induction (P := fun pre (st : ReplayState) => st.prior = pre) ?_ rfl h
  intro pre m event m' hm hstep
  obtain ⟨-, rfl⟩ := replayStep_eq_ok_iff.mp hstep
  rw [ReplayState.prior_apply, hm]

/-- Every prefix of an accepted journal is accepted. -/
lemma replayLoop_take (h : replayLoop header task events = .ok st) (i : Nat) :
    ∃ st, replayLoop header task (events.take i) = .ok st :=
  foldSteps_take h i

/-- Each event of an accepted journal was admitted by the state of the events before it. -/
lemma replayLoop_admitted {event : RunEvent} {i : Nat}
    (h : replayLoop header task events = .ok st) (he : events[i]? = some event) :
    ∃ st lifecycle, replayLoop header task (events.take i) = .ok st ∧
      Admitted header task st event lifecycle := by
  obtain ⟨st, st', hst, hstep⟩ := foldSteps_at h he
  obtain ⟨⟨lifecycle, hadm⟩, -⟩ := replayStep_eq_ok_iff.mp hstep
  exact ⟨st, lifecycle, hst, hadm⟩

end Induction

/-! ### The brackets of a run -/

/-- An evaluation job, from its start to the completion of the same candidate and stage. -/
def evaluationBracket : Bracket RunEvent Identifier (Identifier × Identifier) where
  opens
    | .evaluationStarted e => some (e.payload.jobId, (e.payload.candidateId, e.payload.stageId))
    | _ => none
  closes
    | .evaluationCompleted e => some e.payload.jobId
    | _ => none
  fits
    | (candidateId, stageId), .evaluationCompleted e =>
      e.payload.candidateId = candidateId ∧ e.payload.result.stageId = stageId
    | _, _ => False

/-- A licence lease of one job, from its acquisition to its release or loss. -/
def leaseBracket : Bracket RunEvent Identifier LicenseLeaseAcquiredEvent where
  opens
    | .licenseLeaseAcquired e => some (e.payload.jobId, e)
    | _ => none
  closes
    | .licenseLeaseLost e => some e.payload.jobId
    | .licenseLeaseReleased e => some e.payload.jobId
    | _ => none
  fits
    | acquired, .licenseLeaseLost e =>
      e.payload = acquired.payload ∧ acquired.timestamp ≤ e.timestamp
    | acquired, .licenseLeaseReleased e =>
      e.payload = acquired.payload ∧ acquired.timestamp ≤ e.timestamp
    | _, _ => False

/-- A provider request and its response. -/
def providerBracket : Bracket RunEvent Identifier ProviderRequestState where
  opens
    | .providerRequestStarted e => some (e.payload.requestId, e.payload.requestState)
    | _ => none
  closes
    | .providerResponseRecorded e => some e.payload.requestId
    | _ => none
  fits _ _ := True

/-- A tool request and its result. -/
def toolBracket : Bracket RunEvent Identifier InteractionRecordedEvent where
  opens
    | .interactionRecorded e =>
      if e.payload.direction = .toolRequest then some (e.payload.interactionId, e) else none
    | _ => none
  closes
    | .interactionRecorded e => e.payload.relatedInteractionId
    | _ => none
  fits
    | request, .interactionRecorded e => e.payload.toolName = request.payload.toolName
    | _, _ => False

/-- A reserved tool dispatch and its settled or lost fact. -/
def dispatchBracket : Bracket RunEvent Identifier ParticipantToolReservedEvent where
  opens
    | .participantToolReserved e => some (e.payload.requestInteractionId, e)
    | _ => none
  closes
    | .participantToolSettled e => some e.payload.requestInteractionId
    | .participantToolLost e => some e.payload.requestInteractionId
    | _ => none
  fits
    | reserved, .participantToolSettled e =>
      e.payload.invocationId = reserved.payload.invocationId ∧
        e.payload.elapsedMilliseconds ≤ reserved.payload.reservedComputeMilliseconds ∧
        e.payload.licenseMilliseconds ≤ reserved.payload.reservedLicenseMilliseconds
    | reserved, .participantToolLost e => e.payload.invocationId = reserved.payload.invocationId
    | _, _ => False

namespace ReplayState

variable (st : ReplayState)

/-- The provider request under an identifier, if it has no response yet. -/
def openProviderRequest (requestId : Identifier) : Option ProviderRequestState :=
  (st.providerRequests.get? requestId).filter fun request => request.status = none

/-- The tool request under an identifier, if it has no result yet. -/
def openToolRequest (interactionId : Identifier) : Option InteractionRecordedEvent :=
  if interactionId ∈ st.resolvedToolRequests then none
  else (st.interactions.get? interactionId).filter fun e => e.payload.direction = .toolRequest

/-- The dispatch reserved for a request, if it is neither settled nor lost. -/
def openDispatch (requestId : Identifier) : Option ParticipantToolReservedEvent :=
  if requestId ∈ st.participantToolTerminals then none
  else st.participantToolReservations.get? requestId

/-- Every map of open work agrees with the journal prefix it was computed from. -/
structure Tracked : Prop where
  evaluations : evaluationBracket.Tracks st.prior (· ∈ st.jobStates) st.activeJobs.get?
  leases : leaseBracket.Tracks st.prior (· ∈ st.licenseDecisions) st.activeLicenseLeases.get?
  providers : providerBracket.Tracks st.prior (· ∈ st.providerRequests) st.openProviderRequest
  tools : toolBracket.Tracks st.prior (· ∈ st.interactions) st.openToolRequest
  dispatches :
    dispatchBracket.Tracks st.prior (· ∈ st.participantToolReservations) st.openDispatch
  resolved_mem : ∀ k ∈ st.resolvedToolRequests, k ∈ st.interactions
  terminal_mem : ∀ k ∈ st.participantToolTerminals, k ∈ st.participantToolReservations

end ReplayState

section Tracking

variable {header : RunHeader} {task : TaskSpec} {lifecycle : ParticipantIncarnationLifecycle}
  {st : ReplayState} {event : RunEvent}

lemma tracked_initial (header : RunHeader) : (ReplayState.initial header).Tracked where
  evaluations := Bracket.Tracks.nil fun _ => rfl
  leases := Bracket.Tracks.nil fun _ => rfl
  providers := Bracket.Tracks.nil fun _ => rfl
  tools := Bracket.Tracks.nil fun _ => rfl
  dispatches := Bracket.Tracks.nil fun _ => rfl
  resolved_mem := by simp [ReplayState.initial]
  terminal_mem := by simp [ReplayState.initial]

lemma evaluations_apply (h : st.Tracked) (hadm : Admitted header task st event lifecycle) :
    evaluationBracket.Tracks (st.apply header event).prior
      (· ∈ (st.apply header event).jobStates) (st.apply header event).activeJobs.get? := by
  have hev := h.evaluations
  cases event with
  | evaluationStarted e =>
    have hk : EvaluationStartedAdmitted task st e.payload := hadm.kind
    refine hev.open (v := (e.payload.candidateId, e.payload.stageId)) rfl rfl hk.fresh ?_ ?_ ?_
    · intro k hk
      exact Dict.mem_insert.mpr hk.symm
    · exact Dict.get?_insert_self _ _ _
    · intro k hk
      exact Dict.get?_insert_of_ne _ _ hk
  | evaluationCompleted e =>
    have hk : EvaluationCompletedAdmitted header task st e := hadm.kind
    refine hev.close rfl rfl hk.active ⟨rfl, rfl⟩ (fun _ hk => hk) ?_ ?_
    · exact Dict.get?_erase_self _ _
    · intro k hk
      exact Dict.get?_erase_of_ne _ hk
  | jobStateChanged e =>
    refine hev.neutral rfl rfl ?_ rfl
    intro k hk
    exact Dict.mem_insert.mpr (Or.inr hk)
  | _ => exact hev.neutral rfl rfl (fun _ hk => hk) rfl

lemma leases_apply (h : st.Tracked) (hadm : Admitted header task st event lifecycle) :
    leaseBracket.Tracks (st.apply header event).prior
      (· ∈ (st.apply header event).licenseDecisions)
      (st.apply header event).activeLicenseLeases.get? := by
  have hls := h.leases
  -- released and lost leases are removed in the same way
  have hclose : ∀ (e : RunEvent) (fact : LicenseLeaseBindingPayload) (timestamp : Datetime),
      leaseBracket.opens e = none → leaseBracket.closes e = some fact.jobId →
      (∀ acquired : LicenseLeaseAcquiredEvent, fact = acquired.payload →
        acquired.timestamp ≤ timestamp → leaseBracket.fits acquired e) →
      LicenseClosedAdmitted st fact timestamp →
      leaseBracket.Tracks (st.prior ++ [e]) (· ∈ st.licenseDecisions)
        (st.activeLicenseLeases.erase fact.jobId).get? := by
    intro e fact timestamp ho hc hfits hadm
    obtain ⟨acquired, hget, hlic, hprov, hfeat, htime⟩ := hadm.acquired
    have hjob : acquired.payload.jobId = fact.jobId := by
      obtain ⟨⟨e₀, -, ho₀⟩, -⟩ := (hls.table_iff _ _).mp hget
      cases e₀ with
      | licenseLeaseAcquired a =>
        obtain ⟨h₁, h₂⟩ := Prod.mk.inj (Option.some.inj ho₀)
        rw [← h₂]
        exact h₁
      | _ => cases ho₀
    have hfact : fact = acquired.payload := by
      obtain ⟨⟩ := fact
      simp only at hlic hprov hfeat hjob
      rw [← hjob, hlic, hprov, hfeat]
    refine hls.close ho hc hget (hfits acquired hfact htime) (fun _ hk => hk) ?_ ?_
    · exact Dict.get?_erase_self _ _
    · intro k hk
      exact Dict.get?_erase_of_ne _ hk
  cases event with
  | licenseLeaseAcquired e =>
    have hk : LicenseDecisionAdmitted st e.payload := hadm.kind
    refine hls.open (v := e) rfl rfl hk.undecided ?_ ?_ ?_
    · intro k hk
      exact List.mem_cons.mpr hk.symm
    · exact Dict.get?_insert_self _ _ _
    · intro k hk
      exact Dict.get?_insert_of_ne _ _ hk
  | licenseLeaseDenied e =>
    refine hls.neutral rfl rfl ?_ rfl
    intro k hk
    exact List.mem_cons_of_mem _ hk
  | licenseLeaseLost e =>
    exact hclose _ e.payload e.timestamp rfl rfl (fun _ h₁ h₂ => ⟨h₁, h₂⟩) hadm.kind
  | licenseLeaseReleased e =>
    exact hclose _ e.payload e.timestamp rfl rfl (fun _ h₁ h₂ => ⟨h₁, h₂⟩) hadm.kind
  | _ => exact hls.neutral rfl rfl (fun _ hk => hk) rfl

lemma providers_apply (h : st.Tracked) (hadm : Admitted header task st event lifecycle) :
    providerBracket.Tracks (st.apply header event).prior
      (· ∈ (st.apply header event).providerRequests)
      (st.apply header event).openProviderRequest := by
  have hpr := h.providers
  cases event with
  | providerRequestStarted e =>
    have hk : ProviderRequestAdmitted header st e := hadm.kind
    refine hpr.open (v := e.payload.requestState) rfl rfl hk.fresh ?_ ?_ ?_
    · intro k hk
      exact Dict.mem_insert.mpr hk.symm
    · simp [ReplayState.openProviderRequest, ReplayState.apply, ReplayState.effect,
        ProviderRequestStartedPayload.requestState]
    · intro k hk
      simp only [ReplayState.openProviderRequest, ReplayState.apply, ReplayState.effect]
      rw [Dict.get?_insert_of_ne _ _ hk]
  | providerResponseRecorded e =>
    have hk : ProviderResponseAdmitted st e := hadm.kind
    obtain ⟨request, hget, hstatus⟩ := hk.request
    have hreqs : (st.apply header (.providerResponseRecorded e)).providerRequests =
        st.providerRequests.insert e.payload.requestId (request.respond e.payload) := by
      simp [ReplayState.apply, ReplayState.effect, hget]
    refine hpr.close (v := request) rfl rfl ?_ trivial ?_ ?_ ?_
    · simp [ReplayState.openProviderRequest, hget, hstatus]
    · intro k hk
      rw [hreqs]
      exact Dict.mem_insert.mpr (Or.inr hk)
    · simp [ReplayState.openProviderRequest, hreqs, ProviderRequestState.respond]
    · intro k hk
      simp only [ReplayState.openProviderRequest]
      rw [hreqs, Dict.get?_insert_of_ne _ _ hk]
  | _ => exact hpr.neutral rfl rfl (fun _ hk => hk) rfl

lemma tools_apply (h : st.Tracked) (hadm : Admitted header task st event lifecycle) :
    toolBracket.Tracks (st.apply header event).prior
      (· ∈ (st.apply header event).interactions) (st.apply header event).openToolRequest := by
  have htl := h.tools
  cases event with
  | interactionRecorded e =>
    have hk : InteractionAdmitted st e := hadm.kind
    have hseen : ∀ k, k ∈ st.interactions →
        k ∈ (st.apply header (.interactionRecorded e)).interactions :=
      fun k hk => Dict.mem_insert.mpr (Or.inr hk)
    have hrel := e.payload.related_iff
    cases hr : e.payload.relatedInteractionId with
    | none =>
      have hdir : e.payload.direction ≠ .toolResult := by simpa [hr] using hrel
      have hnotres : e.payload.interactionId ∉ st.resolvedToolRequests :=
        fun hmem => hk.fresh (h.resolved_mem _ hmem)
      by_cases hreq : e.payload.direction = .toolRequest
      · refine htl.open (v := e) ?_ hr hk.fresh ?_ ?_ ?_
        · simp [toolBracket, hreq]
        · intro k hk
          exact Dict.mem_insert.mpr hk.symm
        · simp [ReplayState.openToolRequest, ReplayState.apply, ReplayState.effect, hr, hnotres,
            hreq]
        · intro k hne
          simp only [ReplayState.openToolRequest, ReplayState.apply, ReplayState.effect, hr,
            Option.toList_none, List.nil_append]
          rw [Dict.get?_insert_of_ne _ _ hne]
      · refine htl.neutral ?_ hr hseen ?_
        · simp [toolBracket, hreq]
        · funext k
          simp only [ReplayState.openToolRequest, ReplayState.apply, ReplayState.effect, hr,
            Option.toList_none, List.nil_append]
          by_cases hne : k = e.payload.interactionId
          · subst hne
            have hnone := Dict.get?_eq_none_iff.mpr hk.fresh
            simp [hreq, hnone]
          · rw [Dict.get?_insert_of_ne _ _ hne]
    | some relatedId =>
      have hdir : e.payload.direction = .toolResult := by simpa [hr] using hrel
      obtain ⟨⟨related, hget, hans⟩, hunres, -⟩ := hk.related relatedId (by simp [hr])
      have hne : relatedId ≠ e.payload.interactionId := by
        intro heq
        exact hk.fresh (heq ▸ Dict.mem_of_get? hget)
      refine htl.close (k := relatedId) (v := related) ?_ hr ?_ hans.2.2.symm hseen ?_ ?_
      · simp [toolBracket, hdir]
      · simp only [ReplayState.openToolRequest, if_neg hunres]
        rw [Option.mem_def.mp hget]
        simp [hans.1]
      · simp [ReplayState.openToolRequest, ReplayState.apply, ReplayState.effect, hr]
      · intro k hk'
        simp only [ReplayState.openToolRequest, ReplayState.apply, ReplayState.effect, hr,
          Option.toList_some, List.singleton_append, List.mem_cons, hk', false_or]
        by_cases hki : k = e.payload.interactionId
        · subst hki
          have hnone := Dict.get?_eq_none_iff.mpr hk.fresh
          simp [hdir, hnone]
        · rw [Dict.get?_insert_of_ne _ _ hki]
  | _ => exact htl.neutral rfl rfl (fun _ hk => hk) rfl

lemma dispatches_apply (h : st.Tracked) (hadm : Admitted header task st event lifecycle) :
    dispatchBracket.Tracks (st.apply header event).prior
      (· ∈ (st.apply header event).participantToolReservations)
      (st.apply header event).openDispatch := by
  have hds := h.dispatches
  -- settled and lost dispatches leave the table in the same way
  have hclose : ∀ (e : RunEvent) (requestId : Identifier) (terminal : ParticipantToolTerminal)
      (reserved : ParticipantToolReservedEvent) (st' : ReplayState),
      dispatchBracket.opens e = none → dispatchBracket.closes e = some requestId →
      st.participantToolReservations.get? requestId = some reserved →
      requestId ∉ st.participantToolTerminals → dispatchBracket.fits reserved e →
      st'.participantToolReservations = st.participantToolReservations →
      st'.participantToolTerminals = st.participantToolTerminals.insert requestId terminal →
      dispatchBracket.Tracks (st.prior ++ [e]) (· ∈ st'.participantToolReservations)
        st'.openDispatch := by
    intro e requestId terminal reserved st' ho hc hget hterm hfits hres hterms
    refine hds.close ho hc (v := reserved) ?_ hfits ?_ ?_ ?_
    · simp [ReplayState.openDispatch, hterm, hget]
    · intro k hk
      rw [hres]
      exact hk
    · simp [ReplayState.openDispatch, hterms]
    · intro k hk
      simp [ReplayState.openDispatch, hterms, hres, hk]
  cases event with
  | participantToolReserved e =>
    have hk : ToolReservedAdmitted header st e := hadm.kind
    have hterm : e.payload.requestInteractionId ∉ st.participantToolTerminals :=
      fun hmem => hk.fresh (h.terminal_mem _ hmem)
    refine hds.open (v := e) rfl rfl hk.fresh ?_ ?_ ?_
    · intro k hk
      exact Dict.mem_insert.mpr hk.symm
    · simp [ReplayState.openDispatch, ReplayState.apply, ReplayState.effect, hterm]
    · intro k hk
      simp [ReplayState.openDispatch, ReplayState.apply, ReplayState.effect,
        Dict.get?_insert_of_ne _ _ hk]
  | participantToolSettled e =>
    have hk : ToolSettledAdmitted st e := hadm.kind
    obtain ⟨reserved, hterm, -, -, -, hcompute, hlicense⟩ := hk.terminal
    exact hclose _ _ (.settled e) reserved _ rfl rfl hterm.reservation hterm.running
      ⟨hterm.invocation, hcompute, hlicense⟩ rfl rfl
  | participantToolLost e =>
    have hk : ToolLostAdmitted st e := hadm.kind
    obtain ⟨reserved, hterm⟩ := hk.terminal
    exact hclose _ _ (.lost e) reserved _ rfl rfl hterm.reservation hterm.running
      hterm.invocation rfl rfl
  | _ => exact hds.neutral rfl rfl (fun _ hk => hk) rfl

lemma resolved_mem_apply (h : st.Tracked) (hadm : Admitted header task st event lifecycle) :
    ∀ k ∈ (st.apply header event).resolvedToolRequests,
      k ∈ (st.apply header event).interactions := by
  cases event with
  | interactionRecorded e =>
    have hk : InteractionAdmitted st e := hadm.kind
    intro k hmem
    apply Dict.mem_insert.mpr
    right
    rcases List.mem_append.mp hmem with hmem | hmem
    · obtain ⟨⟨related, hget, -⟩, -⟩ := hk.related k (Option.mem_toList.mp hmem)
      exact Dict.mem_of_get? hget
    · exact h.resolved_mem k hmem
  | _ => exact h.resolved_mem

lemma terminal_mem_apply (h : st.Tracked) (hadm : Admitted header task st event lifecycle) :
    ∀ k ∈ (st.apply header event).participantToolTerminals,
      k ∈ (st.apply header event).participantToolReservations := by
  cases event with
  | participantToolReserved e =>
    intro k hk
    exact Dict.mem_insert.mpr (Or.inr (h.terminal_mem k hk))
  | participantToolSettled e =>
    have hk : ToolSettledAdmitted st e := hadm.kind
    obtain ⟨reserved, hterm, -⟩ := hk.terminal
    intro k hmem
    rcases Dict.mem_insert.mp hmem with rfl | hmem
    · exact Dict.mem_of_get? hterm.reservation
    · exact h.terminal_mem k hmem
  | participantToolLost e =>
    have hk : ToolLostAdmitted st e := hadm.kind
    obtain ⟨reserved, hterm⟩ := hk.terminal
    intro k hmem
    rcases Dict.mem_insert.mp hmem with rfl | hmem
    · exact Dict.mem_of_get? hterm.reservation
    · exact h.terminal_mem k hmem
  | _ => exact h.terminal_mem

theorem tracked_apply (h : st.Tracked) (hadm : Admitted header task st event lifecycle) :
    (st.apply header event).Tracked where
  evaluations := evaluations_apply h hadm
  leases := leases_apply h hadm
  providers := providers_apply h hadm
  tools := tools_apply h hadm
  dispatches := dispatches_apply h hadm
  resolved_mem := resolved_mem_apply h hadm
  terminal_mem := terminal_mem_apply h hadm

/-- After every accepted journal the maps are the tables of open work. -/
theorem replayLoop_tracked {events : List RunEvent}
    (h : replayLoop header task events = .ok st) : st.Tracked :=
  replayLoop_induction (tracked_initial header) (fun _ _ _ ht hadm => tracked_apply ht hadm) h

end Tracking

end EdaGym
