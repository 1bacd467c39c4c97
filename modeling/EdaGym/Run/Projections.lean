import EdaGym.Run.Incarnations
import EdaGym.Run.OpenWork
import Mathlib.Algebra.Order.BigOperators.Group.List

/-!
# Projections of a journal

Budgets and recovery read the open work of a run from folds over its events that are coded apart
from the replay. On an accepted journal the folds read the maps of the replay state.
-/

namespace EdaGym

section Journal

variable [Canonical]

/-- The job a licence decision is about. -/
def RunEvent.licenseDecision? : RunEvent → Option Identifier
  | .licenseLeaseAcquired event => some event.payload.jobId
  | .licenseLeaseDenied event => some event.payload.jobId
  | _ => none

/-- Total compute and licence time of some dispatches. -/
def totalCompute (dispatches : List (Identifier × ParticipantToolDispatch)) : Nat :=
  (dispatches.map fun d => d.2.computeMilliseconds).sum

def totalLicense (dispatches : List (Identifier × ParticipantToolDispatch)) : Nat :=
  (dispatches.map fun d => d.2.licenseMilliseconds).sum

/-- Usage is at most `usage'` in both components. -/
def ParticipantToolUsage.Le (usage usage' : ParticipantToolUsage) : Prop :=
  usage.edaComputeMilliseconds ≤ usage'.edaComputeMilliseconds ∧
    usage.licenseMilliseconds ≤ usage'.licenseMilliseconds

/-- What the projections of a journal that replays to `state` return. -/
structure ProjectionsAgree (header : RunHeader) (task : TaskSpec) (events : List RunEvent)
    (state : RunState) : Prop where
  lifecycle : ∃ l, participantIncarnationLifecycle events = .ok l
  leases : ∃ active, activeLicenseLeases events = .ok active ∧
    ∀ k v, active.get? k = some v ↔ leaseBracket.Pending events k v
  dispatches : ∃ dispatches, participantToolDispatches events = .ok dispatches ∧
    ((∃ usage, participantToolUsage events = .ok usage) ↔
      totalCompute dispatches ≤ JCS_INTEGER_MAX ∧ totalLicense dispatches ≤ JCS_INTEGER_MAX) ∧
    ∀ d ∈ dispatches, d.2.terminal = none →
      ∃ request ∈ unresolvedToolRequests events, request.payload.interactionId = d.1
  ended : ∀ ended, events.getLast? = some (.runEnded ended) →
    activeLicenseLeases events = .ok Dict.empty ∧ unresolvedToolRequests events = []
  jobs : ∀ job ∈ state.jobs, job.state.isTerminal = false →
    ∃ evaluation, evaluationBracket.Pending events job.jobId evaluation
  decidedOnce : (events.filterMap RunEvent.licenseDecision?).Nodup
  settled : ∀ event state', replay header task (events ++ [.participantToolSettled event]) =
      .ok state' → ∀ usage, participantToolUsage events = .ok usage →
    ∃ usage', participantToolUsage (events ++ [.participantToolSettled event]) = .ok usage' ∧
      usage'.Le usage
  unsettled : ∀ event state', (∀ e, event ≠ .participantToolSettled e) →
    replay header task (events ++ [event]) = .ok state' →
    ∀ usage', participantToolUsage (events ++ [event]) = .ok usage' →
      ∃ usage, participantToolUsage events = .ok usage ∧ usage.Le usage'

section Agreement

variable {header : RunHeader} {task : TaskSpec} {lifecycle : ParticipantIncarnationLifecycle}
  {st : ReplayState} {event : RunEvent} {events : List RunEvent}

/-! ### Tool usage -/

/-- The dispatches as the replay state keeps them. -/
def ReplayState.toolDispatches (st : ReplayState) : List (Identifier × ParticipantToolDispatch) :=
  st.participantToolReservations.entries.map fun (requestId, reservation) =>
    (requestId, { reservation, terminal := st.participantToolTerminals.get? requestId })

lemma participantToolUsage_eq_ok_iff (h : replayLoop header task events = .ok st)
    {usage : ParticipantToolUsage} :
    participantToolUsage events = .ok usage ↔
      totalCompute st.toolDispatches ≤ JCS_INTEGER_MAX ∧
      totalLicense st.toolDispatches ≤ JCS_INTEGER_MAX ∧
      usage = ⟨totalCompute st.toolDispatches, totalLicense st.toolDispatches⟩ := by
  simp only [participantToolUsage, bind_eq_ok, participantToolDispatches_eq h, raiseIf_eq_ok,
    exists_const, pure_eq_ok, not_or, Nat.not_lt]
  constructor
  · rintro ⟨_, hd, hle, rfl⟩
    cases hd
    exact ⟨hle.1, hle.2, rfl⟩
  · rintro ⟨hcompute, hlicense, rfl⟩
    exact ⟨_, rfl, ⟨hcompute, hlicense⟩, rfl⟩

/-- Settling a dispatch replaces what it reserved by what it used. -/
lemma sum_toolDispatches_settled {e : ParticipantToolSettledEvent}
    (weight : ParticipantToolDispatch → Nat) (hadm : ToolSettledAdmitted st e)
    (hweight : ∀ reserved : ParticipantToolReservedEvent,
      e.payload.elapsedMilliseconds ≤ reserved.payload.reservedComputeMilliseconds →
      e.payload.licenseMilliseconds ≤ reserved.payload.reservedLicenseMilliseconds →
      weight ⟨reserved, some (.settled e)⟩ ≤ weight ⟨reserved, none⟩) :
    ((st.apply header (.participantToolSettled e)).toolDispatches.map fun d => weight d.2).sum ≤
      (st.toolDispatches.map fun d => weight d.2).sum := by
  obtain ⟨reserved, hterminal, -, -, -, hcompute, hlicense⟩ := hadm.terminal
  have hentries :
      (st.apply header (.participantToolSettled e)).participantToolReservations.entries =
    st.participantToolReservations.entries := rfl
  have hterminals : (st.apply header (.participantToolSettled e)).participantToolTerminals =
    st.participantToolTerminals.insert e.payload.requestInteractionId (.settled e) := rfl
  simp only [ReplayState.toolDispatches, List.map_map, hentries, hterminals]
  refine List.sum_le_sum fun p hp => ?_
  simp only [Function.comp_apply, Dict.get?_insert]
  split_ifs with hk
  · have hreserved : p.2 = reserved := by
      have hget := Dict.mem_entries.mp hp
      rw [hk, hterminal.reservation] at hget
      exact (Option.some.inj hget).symm
    have hrunning : st.participantToolTerminals.get? p.1 = none := by
      rw [hk]
      exact Dict.get?_eq_none_iff.mpr hterminal.running
    rw [hreserved, hrunning]
    exact hweight reserved hcompute hlicense
  · exact Nat.le_refl _

/-- Any other event keeps every dispatch and its weight. -/
lemma sum_toolDispatches_le (weight : ParticipantToolDispatch → Nat)
    (hadm : Admitted header task st event lifecycle)
    (hsettled : ∀ e, event ≠ .participantToolSettled e)
    (hlost : ∀ reserved e, weight ⟨reserved, some (.lost e)⟩ = weight ⟨reserved, none⟩) :
    (st.toolDispatches.map fun d => weight d.2).sum ≤
      ((st.apply header event).toolDispatches.map fun d => weight d.2).sum := by
  cases event
  case participantToolReserved e =>
    have hk : ToolReservedAdmitted header st e := hadm.kind
    have hentries : (st.apply header
        (.participantToolReserved e)).participantToolReservations.entries =
      st.participantToolReservations.entries ++ [(e.payload.requestInteractionId, e)] :=
      Dict.entries_insert_of_not_mem hk.fresh
    have hterminals : (st.apply header (.participantToolReserved e)).participantToolTerminals =
      st.participantToolTerminals := rfl
    simp only [ReplayState.toolDispatches, hentries, hterminals, List.map_append, List.sum_append]
    exact Nat.le_add_right _ _
  case participantToolSettled e => exact absurd rfl (hsettled e)
  case participantToolLost e =>
    have hk : ToolLostAdmitted st e := hadm.kind
    obtain ⟨reserved, hterminal⟩ := hk.terminal
    have hentries : (st.apply header (.participantToolLost e)).participantToolReservations.entries =
      st.participantToolReservations.entries := rfl
    have hterminals : (st.apply header (.participantToolLost e)).participantToolTerminals =
      st.participantToolTerminals.insert e.payload.requestInteractionId (.lost e) := rfl
    simp only [ReplayState.toolDispatches, List.map_map, hentries, hterminals]
    refine List.sum_le_sum fun p hp => ?_
    simp only [Function.comp_apply, Dict.get?_insert]
    split_ifs with hk'
    · have hrunning : st.participantToolTerminals.get? p.1 = none := by
        rw [hk']
        exact Dict.get?_eq_none_iff.mpr hterminal.running
      rw [hrunning, hlost]
    · exact Nat.le_refl _
  all_goals exact Nat.le_refl _

lemma usage_settled {e : ParticipantToolSettledEvent} {st' : ReplayState}
    {usage : ParticipantToolUsage} (h : replayLoop header task events = .ok st)
    (h' : replayLoop header task (events ++ [.participantToolSettled e]) = .ok st')
    (husage : participantToolUsage events = .ok usage) :
    ∃ usage', participantToolUsage (events ++ [.participantToolSettled e]) = .ok usage' ∧
      usage'.Le usage := by
  obtain ⟨st₀, hst₀, ⟨l, hadm⟩, rfl⟩ := replayLoop_concat_iff.mp h'
  obtain rfl := Except.ok.inj (h.symm.trans hst₀)
  obtain ⟨hcompute, hlicense, rfl⟩ := (participantToolUsage_eq_ok_iff h).mp husage
  have hc : totalCompute (st.apply header (.participantToolSettled e)).toolDispatches ≤
      totalCompute st.toolDispatches :=
    sum_toolDispatches_settled _ hadm.kind fun _ hle _ => hle
  have hl : totalLicense (st.apply header (.participantToolSettled e)).toolDispatches ≤
      totalLicense st.toolDispatches :=
    sum_toolDispatches_settled _ hadm.kind fun _ _ hle => hle
  refine ⟨_, (participantToolUsage_eq_ok_iff h').mpr
    ⟨hc.trans hcompute, hl.trans hlicense, rfl⟩, hc, hl⟩

lemma usage_unsettled {st' : ReplayState} {usage' : ParticipantToolUsage}
    (h : replayLoop header task events = .ok st)
    (h' : replayLoop header task (events ++ [event]) = .ok st')
    (hsettled : ∀ e, event ≠ .participantToolSettled e)
    (husage : participantToolUsage (events ++ [event]) = .ok usage') :
    ∃ usage, participantToolUsage events = .ok usage ∧ usage.Le usage' := by
  obtain ⟨st₀, hst₀, ⟨l, hadm⟩, rfl⟩ := replayLoop_concat_iff.mp h'
  obtain rfl := Except.ok.inj (h.symm.trans hst₀)
  obtain ⟨hcompute, hlicense, rfl⟩ := (participantToolUsage_eq_ok_iff h').mp husage
  have hc : totalCompute st.toolDispatches ≤ totalCompute (st.apply header event).toolDispatches :=
    sum_toolDispatches_le _ hadm hsettled fun _ _ => rfl
  have hl : totalLicense st.toolDispatches ≤ totalLicense (st.apply header event).toolDispatches :=
    sum_toolDispatches_le _ hadm hsettled fun _ _ => rfl
  refine ⟨_, (participantToolUsage_eq_ok_iff h).mpr
    ⟨hc.trans hcompute, hl.trans hlicense, rfl⟩, hc, hl⟩

/-! ### Jobs and licences -/

/-- An executor job that has not stopped serves an evaluation that has not completed. -/
def ReplayState.JobsActive (st : ReplayState) : Prop :=
  ∀ jobId state, st.jobStates.get? jobId = some state → state.isTerminal = false →
    jobId ∈ st.activeJobs

omit [Canonical] in
lemma transitions_of_terminal {state next : JobStateKind} (h : next ∈ state.transitions) :
    state.isTerminal = false := by
  cases state <;> first | rfl | cases h

lemma jobsActive_apply (h : st.JobsActive) (hadm : Admitted header task st event lifecycle) :
    (st.apply header event).JobsActive := by
  cases event
  case evaluationStarted e =>
    intro jobId state hget hlive
    have hstates : (st.apply header (.evaluationStarted e)).jobStates =
      st.jobStates.insert e.payload.jobId .queued := rfl
    have hactive : (st.apply header (.evaluationStarted e)).activeJobs =
      st.activeJobs.insert e.payload.jobId (e.payload.candidateId, e.payload.stageId) := rfl
    rw [hstates, Dict.get?_insert] at hget
    rw [hactive, Dict.mem_insert]
    split_ifs at hget with hk
    · exact Or.inl hk
    · exact Or.inr (h jobId state hget hlive)
  case evaluationCompleted e =>
    have hk : EvaluationCompletedAdmitted header task st e := hadm.kind
    intro jobId state hget hlive
    have hactive : (st.apply header (.evaluationCompleted e)).activeJobs =
      st.activeJobs.erase e.payload.jobId := rfl
    have hget' : st.jobStates.get? jobId = some state := hget
    rw [hactive, Dict.mem_erase]
    refine ⟨?_, h jobId state hget' hlive⟩
    rintro rfl
    obtain ⟨terminal, hterminal, hdone⟩ := hk.terminal
    rw [hget'] at hterminal
    cases hterminal
    rw [hdone] at hlive
    cases hlive
  case jobStateChanged e =>
    have hk : JobStateChangedAdmitted st e.payload := hadm.kind
    intro jobId state hget hlive
    have hstates : (st.apply header (.jobStateChanged e)).jobStates =
      st.jobStates.insert e.payload.jobId e.payload.state := rfl
    rw [hstates, Dict.get?_insert] at hget
    split_ifs at hget with hid
    · obtain ⟨previous, hprevious, hallowed⟩ := hk.allowed
      rw [hid]
      exact h _ previous hprevious (transitions_of_terminal hallowed)
    · exact h jobId state hget hlive
  all_goals exact h

lemma replayLoop_jobsActive (h : replayLoop header task events = .ok st) : st.JobsActive := by
  refine replayLoop_induction (P := ReplayState.JobsActive) ?_ ?_ h
  · intro jobId state hget
    cases hget
  · intro st event l hst hadm
    exact jobsActive_apply hst hadm

/-- The licence decisions of the replay state are those of the journal, each about its own job. -/
structure ReplayState.DecisionsRecorded (st : ReplayState) : Prop where
  mem : ∀ jobId ∈ st.prior.filterMap RunEvent.licenseDecision?, jobId ∈ st.licenseDecisions
  nodup : (st.prior.filterMap RunEvent.licenseDecision?).Nodup

lemma decisionsRecorded_decide {jobId : Identifier} (h : st.DecisionsRecorded)
    (hevent : event.licenseDecision? = some jobId) (hundecided : jobId ∉ st.licenseDecisions)
    (hdecisions : (st.apply header event).licenseDecisions = jobId :: st.licenseDecisions) :
    (st.apply header event).DecisionsRecorded := by
  have hprior : (st.apply header event).prior.filterMap RunEvent.licenseDecision? =
      st.prior.filterMap RunEvent.licenseDecision? ++ [jobId] := by
    rw [ReplayState.prior_apply, List.filterMap_append]
    simp [hevent]
  refine ⟨?_, ?_⟩
  · intro k hk
    rw [hprior, List.mem_append, List.mem_singleton] at hk
    rw [hdecisions, List.mem_cons]
    exact hk.elim (fun hk => Or.inr (h.mem k hk)) Or.inl
  · rw [hprior, List.nodup_append_comm, List.singleton_append, List.nodup_cons]
    exact ⟨fun hmem => hundecided (h.mem jobId hmem), h.nodup⟩

lemma decisionsRecorded_frame (h : st.DecisionsRecorded)
    (hevent : event.licenseDecision? = none)
    (hdecisions : (st.apply header event).licenseDecisions = st.licenseDecisions) :
    (st.apply header event).DecisionsRecorded := by
  have hprior : (st.apply header event).prior.filterMap RunEvent.licenseDecision? =
      st.prior.filterMap RunEvent.licenseDecision? := by
    rw [ReplayState.prior_apply, List.filterMap_append]
    simp [hevent]
  refine ⟨?_, ?_⟩
  · rw [hprior, hdecisions]
    exact h.mem
  · rw [hprior]
    exact h.nodup

lemma replayLoop_decisionsRecorded (h : replayLoop header task events = .ok st) :
    st.DecisionsRecorded := by
  refine replayLoop_induction (P := ReplayState.DecisionsRecorded) ⟨?_, List.nodup_nil⟩ ?_ h
  · intro jobId hmem
    cases hmem
  · intro st event l hst hadm
    cases event
    case licenseLeaseAcquired e =>
      have hk : LicenseDecisionAdmitted st e.payload := hadm.kind
      exact decisionsRecorded_decide hst rfl hk.undecided rfl
    case licenseLeaseDenied e =>
      have hk : LicenseDecisionAdmitted st e.payload.toLicenseLeaseBindingPayload := hadm.kind
      exact decisionsRecorded_decide hst rfl hk.undecided rfl
    all_goals exact decisionsRecorded_frame hst rfl rfl

/-! ### Agreement -/

/-- An open dispatch holds its tool request open. -/
lemma unresolved_of_open (h : replayLoop header task events = .ok st) {requestId : Identifier}
    (hreserved : requestId ∈ st.participantToolReservations)
    (hopen : requestId ∉ st.participantToolTerminals) :
    ∃ request ∈ unresolvedToolRequests events, request.payload.interactionId = requestId := by
  obtain rfl := replayLoop_prior h
  have htracked := replayLoop_tracked h
  have hsound := replayLoop_toolsSound h
  obtain ⟨request, hget, hdir, -⟩ := hsound.reserved requestId hreserved
  have hunresolved := hsound.withheld requestId hreserved hopen
  have hrequest : st.openToolRequest requestId = some request := by
    rw [ReplayState.openToolRequest, if_neg hunresolved, hget]
    simp [hdir]
  obtain ⟨⟨e, -, hopens⟩, -⟩ := (htracked.tools.table_iff _ _).mp hrequest
  have hid : request.payload.interactionId = requestId := by
    cases e with
    | interactionRecorded e =>
      simp only [toolBracket, Option.ite_none_right_eq_some, Option.some.injEq,
        Prod.mk.injEq] at hopens
      obtain ⟨-, hid, rfl⟩ := hopens
      exact hid
    | _ => cases hopens
  refine ⟨request, (mem_unresolvedToolRequests htracked).mpr ⟨?_, Or.inl rfl⟩, hid⟩
  rw [hid]
  exact hrequest

/-- When the run has ended, no lease and no tool request is open. -/
lemma closed_of_ended {ended : RunEndedEvent} (h : replayLoop header task events = .ok st)
    (hlast : events.getLast? = some (.runEnded ended)) :
    activeLicenseLeases events = .ok Dict.empty ∧ unresolvedToolRequests events = [] := by
  obtain ⟨before, rfl⟩ := List.getLast?_eq_some_iff.mp hlast
  obtain ⟨st₀, hst₀, ⟨l, hadm⟩, rfl⟩ := replayLoop_concat_iff.mp h
  have hk : RunEndedAdmitted header task l st₀ ended := hadm.kind
  have hleases : (st₀.apply header (.runEnded ended)).activeLicenseLeases = Dict.empty := by
    refine Dict.ext_entries ?_
    exact List.isEmpty_iff.mp hk.quiescent.leases
  refine ⟨?_, ?_⟩
  · rw [activeLicenseLeases_eq h, hleases]
  · have hnone := openToolRequest_eq_none hk.quiescent.tools
    refine List.eq_nil_iff_forall_not_mem.mpr fun request hmem => ?_
    rw [← replayLoop_prior h, mem_unresolvedToolRequests (replayLoop_tracked h)] at hmem
    have hopen : st₀.openToolRequest request.payload.interactionId = some request := hmem.1
    rw [hnone] at hopen
    cases hopen

end Agreement

/-- On an accepted journal the projections read the open work of the run; of the five folds only
the usage can raise, when a total leaves the range of JSON-safe integers. -/
theorem replay_projections (header : RunHeader) (task : TaskSpec) (events : List RunEvent)
    (state : RunState) (h : replay header task events = .ok state) :
    ProjectionsAgree header task events state := by
  obtain ⟨-, -, st, l, hloop, hl, -, rfl⟩ := replay_eq_ok_iff.mp h
  have htracked := replayLoop_tracked hloop
  have hprior := replayLoop_prior hloop
  refine ⟨⟨l, hl⟩, ⟨_, activeLicenseLeases_eq hloop, ?_⟩,
    ⟨_, participantToolDispatches_eq hloop, ?_, ?_⟩, ?_, ?_, ?_, ?_, ?_⟩
  · intro k v
    rw [← hprior]
    exact htracked.leases.table_iff k v
  · constructor
    · rintro ⟨usage, husage⟩
      obtain ⟨hcompute, hlicense, -⟩ := (participantToolUsage_eq_ok_iff hloop).mp husage
      exact ⟨hcompute, hlicense⟩
    · rintro ⟨hcompute, hlicense⟩
      exact ⟨_, (participantToolUsage_eq_ok_iff hloop).mpr ⟨hcompute, hlicense, rfl⟩⟩
  · intro d hd hterminal
    obtain ⟨p, hp, rfl⟩ := List.mem_map.mp hd
    exact unresolved_of_open hloop (Dict.mem_of_get? (Dict.mem_entries.mp hp))
      (Dict.get?_eq_none_iff.mp hterminal)
  · intro ended hlast
    exact closed_of_ended hloop hlast
  · intro job hjob hlive
    obtain ⟨p, hp, rfl⟩ := List.mem_map.mp hjob
    have hget := Dict.mem_entries.mp (mem_sortedBy.mp hp)
    obtain ⟨evaluation, heval⟩ := Dict.mem_iff.mp (replayLoop_jobsActive hloop _ _ hget hlive)
    refine ⟨evaluation, ?_⟩
    rw [← hprior]
    exact (htracked.evaluations.table_iff _ _).mp heval
  · rw [← hprior]
    exact (replayLoop_decisionsRecorded hloop).nodup
  · intro e state' h' usage husage
    obtain ⟨-, -, _, -, hloop', -⟩ := replay_eq_ok_iff.mp h'
    exact usage_settled hloop hloop' husage
  · intro event state' hsettled h' usage' husage
    obtain ⟨-, -, _, -, hloop', -⟩ := replay_eq_ok_iff.mp h'
    exact usage_unsettled hloop hloop' hsettled husage

end Journal

section SmallRun

local instance projectionCanonical : Canonical := plainCanonical

/-- The small run's header, with one operation a participant may invoke. -/
def toolHeader : RunHeader where
  runId := "run:t0"
  binding := {
    gateHeader.binding with
    environment := {
      environmentSpecDigest := "d-env", executorId := "ex", executorDigest := "d-ex",
      policyDigest := "d-pol"
      tools := [{ capability := .rtlLint, toolId := "verilator", toolVersion := "5",
                  driverDigest := "d-drv", deploymentAttestationDigest := "d-att" }]
      participantOperations := [{ operationId := "lint", operationDigest := "d-lint",
                                  capability := .rtlLint, toolId := "verilator" }]
      tools_ne_nil := gateTools_ne_nil
      tools_nodup := gateTools_nodup }
    purpose_iff := standard_trialless
    evaluators_sorted := gateEvaluators_sorted }
  runId_eq := by decide

/-- The request `requestId` at position `n`, and the reservation of all the time there is. -/
def saturatedCall (n : Nat) (requestId : Identifier) : List RunEvent :=
  [.interactionRecorded {
     toEventBase := aliceBase n
     payload := { direction := .toolRequest, interactionId := requestId
                  toolName := some EXECUTOR_PARTICIPANT_TOOL_NAME } },
   .participantToolReserved {
     toEventBase := gateBase (n + 1) .controller
     payload := { requestInteractionId := requestId, invocationId := "run:t0:" ++ requestId
                  invocationDigest := "d-inv", operationId := "lint", operationDigest := "d-lint"
                  inputManifestDigest := "d-in", toolId := "verilator", capability := .rtlLint
                  executorId := "ex", budgetDigest := "d-bud"
                  reservedComputeMilliseconds := JCS_INTEGER_MAX
                  reservedLicenseMilliseconds := 0 }
     invocation_eq := rfl }]

def saturatedRun : List RunEvent :=
  .runStarted {
    toEventBase := gateBase 0 .controller
    payload := { bindingDigest := "run:t0" } } ::
  (saturatedCall 1 "q0" ++ saturatedCall 3 "q1")

/-- An accepted journal may reserve more than the usage can represent. -/
theorem saturatedRun_usage_raises :
    (∃ state, replay toolHeader gateTask saturatedRun = .ok state) ∧
      ∀ usage, participantToolUsage saturatedRun ≠ .ok usage := by
  refine ⟨Except.exists_of_isOk (by decide +kernel), ?_⟩
  have herror : (participantToolUsage saturatedRun).isOk = false := by decide +kernel
  intro usage husage
  rw [husage] at herror
  cases herror

theorem saturatedRun_projections : ∃ state,
    replay toolHeader gateTask saturatedRun = .ok state ∧
      ProjectionsAgree toolHeader gateTask saturatedRun state := by
  have h : (replay toolHeader gateTask saturatedRun).isOk = true := by decide +kernel
  obtain ⟨state, hstate⟩ := Except.exists_of_isOk h
  exact ⟨state, hstate, replay_projections toolHeader gateTask saturatedRun state hstate⟩

end SmallRun

end EdaGym
