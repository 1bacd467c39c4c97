import EdaGym.Run.RecoveryCrash
import EdaGym.Run.Writer

/-!
# When a recovery is possible

The closing events of a recovery are replayed like all others. Whether all of them pass is read off
the journal the recovery starts from.
-/

namespace EdaGym

section Journal

variable [Canonical]

/-- The identifiers of the recorded interactions. -/
def interactionIds (events : List RunEvent) : List Identifier :=
  events.filterMap fun
    | .interactionRecorded event => some event.payload.interactionId
    | _ => none

variable [ToolIdentities]

/-- The open work of a journal that a recovery can close: no stage is evaluated twice for one
candidate, every open tool request was made by the writer of the moment, and the identifiers derived
for the results are not in use. -/
structure RecoverableJournal (header : RunHeader) (events : List RunEvent) : Prop where
  evaluatedOnce : ∀ k k' v, evaluationBracket.Pending events k v →
    evaluationBracket.Pending events k' v → k = k'
  unresulted : ∀ k c s, evaluationBracket.Pending events k (c, s) →
    ∀ result ∈ candidateResults events c, result.stageId ≠ s
  writer : ∀ request ∈ unresolvedToolRequests events,
    request.actor = some (writerAfter header events)
  fresh : ∀ request ∈ unresolvedToolRequests events, ∀ name ∈ request.payload.toolName,
    recoveredResultId request.payload.interactionId name ∉ interactionIds events
  distinct : ∀ request ∈ unresolvedToolRequests events,
    ∀ request' ∈ unresolvedToolRequests events, ∀ name ∈ request.payload.toolName,
    ∀ name' ∈ request'.payload.toolName,
    recoveredResultId request.payload.interactionId name =
      recoveredResultId request'.payload.interactionId name' →
    request.payload.interactionId = request'.payload.interactionId

section Translation

variable {header : RunHeader} {task : TaskSpec} {st : ReplayState} {events : List RunEvent}

section

omit [ToolIdentities]

lemma replayLoop_interactionIds (h : replayLoop header task events = .ok st) (k : Identifier) :
    k ∈ st.interactions ↔ k ∈ interactionIds events := by
  obtain rfl := replayLoop_prior h
  refine replayLoop_induction (P := fun st =>
    ∀ k, k ∈ st.interactions ↔ k ∈ interactionIds st.prior) ?_ ?_ h k
  · intro k
    simp [ReplayState.initial, interactionIds]
  · intro st event l hst hadm k
    rw [ReplayState.prior_apply, interactionIds, List.filterMap_append, List.mem_append]
    cases event
    case interactionRecorded e =>
      have hinsert : (st.apply header (.interactionRecorded e)).interactions =
        st.interactions.insert e.payload.interactionId e := rfl
      rw [hinsert, Dict.mem_insert, hst k, or_comm]
      simp [interactionIds]
    all_goals
      rw [or_iff_left (by simp)]
      exact hst k

/-- A dispatch is reserved under the invocation derived from its request. -/
lemma replayLoop_invocations (h : replayLoop header task events = .ok st) {k : Identifier}
    {reserved : ParticipantToolReservedEvent}
    (hget : st.participantToolReservations.get? k = some reserved) :
    reserved.payload.invocationId = Canonical.participantToolInvocationId header.runId k := by
  refine replayLoop_induction (P := fun st => ∀ k reserved,
    st.participantToolReservations.get? k = some reserved →
      reserved.payload.invocationId = Canonical.participantToolInvocationId header.runId k)
    ?_ ?_ h k reserved hget
  · intro k reserved hget
    cases hget
  · intro st event l hst hadm k reserved hget
    cases event
    case participantToolReserved e =>
      have hinsert : (st.apply header (.participantToolReserved e)).participantToolReservations =
        st.participantToolReservations.insert e.payload.requestInteractionId e := rfl
      rw [hinsert, Dict.get?_insert] at hget
      split_ifs at hget with hk
      · rw [Option.some.injEq] at hget
        subst hget
        have hrun : e.runId = header.runId := hadm.envelope.run
        rw [e.invocation_eq, hrun, hk]
      · exact hst k reserved hget
    all_goals exact hst k reserved hget

lemma mem_unresolved_of_open (h : replayLoop header task events = .ok st) {k : Identifier}
    {request : InteractionRecordedEvent} :
    st.openToolRequest k = some request ↔
      request ∈ unresolvedToolRequests events ∧ request.payload.interactionId = k := by
  obtain rfl := replayLoop_prior h
  have ht := replayLoop_tracked h
  rw [mem_unresolvedToolRequests ht]
  constructor
  · intro hopen
    obtain rfl := toolRequest_interactionId ht hopen
    exact ⟨⟨hopen, Or.inl rfl⟩, rfl⟩
  · rintro ⟨⟨hopen, -⟩, rfl⟩
    exact hopen

end

/-- A state is recoverable when its journal is. -/
lemma recoverable_iff (h : replayLoop header task events = .ok st)
    (htools : ∀ request ∈ unresolvedToolRequests events,
      ∃ name ∈ recoverableToolNames, request.payload.toolName = some name) :
    Recoverable header st ↔ RecoverableJournal header events := by
  have hjobs : ∀ k v, st.activeJobs.get? k = some v ↔ evaluationBracket.Pending events k v := by
    intro k v
    rw [← replayLoop_prior h]
    exact (replayLoop_tracked h).evaluations.table_iff k v
  have hresults : ∀ c, st.results c = candidateResults events c := by
    intro c
    rw [← replayLoop_prior h]
    exact (replayLoop_resultsRecorded h).results c
  have hwriter := replayLoop_writer h
  constructor
  · intro hr
    refine ⟨?_, ?_, ?_, ?_, ?_⟩
    · intro k k' v hk hk'
      exact hr.stages k k' v ((hjobs k v).mpr hk) ((hjobs k' v).mpr hk')
    · intro k c s hk
      rw [← hresults]
      exact hr.unresulted k c s ((hjobs k _).mpr hk)
    · intro request hmem
      obtain ⟨name, hname⟩ := hr.requests _ request
        ((mem_unresolved_of_open h).mpr ⟨hmem, rfl⟩)
      rw [← hwriter]
      exact hname.actor
    · intro request hmem name htool
      obtain ⟨name', hname⟩ := hr.requests _ request
        ((mem_unresolved_of_open h).mpr ⟨hmem, rfl⟩)
      obtain rfl := Option.some.inj (htool.symm.trans hname.tool)
      rw [← replayLoop_interactionIds h]
      exact hname.fresh
    · intro request hmem request' hmem' name htool name' htool'
      exact hr.distinct _ _ request request' name name'
        ((mem_unresolved_of_open h).mpr ⟨hmem, rfl⟩)
        ((mem_unresolved_of_open h).mpr ⟨hmem', rfl⟩) htool htool'
  · intro hr
    refine ⟨?_, ?_, ?_, ?_⟩
    · intro k c s hk
      rw [hresults]
      exact hr.unresulted k c s ((hjobs k _).mp hk)
    · intro k k' v hk hk'
      exact hr.evaluatedOnce k k' v ((hjobs k v).mp hk) ((hjobs k' v).mp hk')
    · intro k request hopen
      obtain ⟨hmem, rfl⟩ := (mem_unresolved_of_open h).mp hopen
      obtain ⟨name, hknown, htool⟩ := htools request hmem
      refine ⟨name, ?_, htool, hknown, ?_, fun reserved hget => replayLoop_invocations h hget⟩
      · rw [hwriter]
        exact hr.writer request hmem
      · rw [replayLoop_interactionIds h]
        exact hr.fresh request hmem name htool
    · intro k k' request request' name name' hopen hopen' htool htool'
      obtain ⟨hmem, rfl⟩ := (mem_unresolved_of_open h).mp hopen
      obtain ⟨hmem', rfl⟩ := (mem_unresolved_of_open h).mp hopen'
      exact hr.distinct request hmem request' hmem' name htool name' htool'

end Translation

variable [JournalDigests] [CommitCodec]

omit [JournalDigests] [CommitCodec] in
/-- Where nothing is open, everything that is open can be closed. -/
lemma Settled.recoverable {header : RunHeader} {st : ReplayState} (h : Settled st) :
    Recoverable header st where
  unresulted k c s hk := by
    rw [h.evaluations] at hk
    cases hk
  stages k k' v hk := by
    rw [h.evaluations] at hk
    cases hk
  requests k request hopen := by
    rw [h.tools] at hopen
    cases hopen
  distinct k k' request request' name name' hopen := by
    rw [h.tools] at hopen
    cases hopen

/-- A recovery that returns started from a recoverable state. -/
lemma recoverable_of_reconciled (hcodec : SequenceEncoded) {header : RunHeader} {task : TaskSpec}
    {timestamp : Datetime} {eventIds : Nat → UUID}
    {fence : Identifier → Except JournalError Unit} {r r' : Recovery} {st : ReplayState}
    {fuel : Nat} (hst : replayLoop header task r.events = .ok st)
    (h : reconcileInterruptedRunWork header task timestamp eventIds fence fuel r = .ok r') :
    Recoverable header st := by
  obtain ⟨st', _, hadvances, hsettled, -⟩ := reconcileInterruptedRunWork_advances hcodec hst h
  obtain ⟨commits, -, -, hrun⟩ := hadvances.run
  exact hrun.recoverable.mpr hsettled.recoverable

/-- With fencing that succeeds, a clock that is late enough and fresh identifiers, recovery returns
exactly when the journal is recoverable. -/
theorem recovery_possible_iff (hcodec : SequenceEncoded) (header : RunHeader) (task : TaskSpec)
    (events : List RunEvent) (state : RunState) (timestamp : Datetime) (eventIds : Nat → UUID)
    (fence : Identifier → Except JournalError Unit)
    (accepted : replay header task events = .ok state) (live : state.terminalReason = none)
    (tools : ∀ request ∈ unresolvedToolRequests events,
      ∃ name ∈ recoverableToolNames, request.payload.toolName = some name)
    (fenced : ∀ k, fence k = .ok ⟨⟩) (clock : ∀ e ∈ events, e.base.timestamp ≤ timestamp)
    (unique : Function.Injective eventIds)
    (fresh : ∀ n, eventIds n ∉ events.map fun e => e.base.eventId) :
    (∃ fuel r, reconcileInterruptedRunWork header task timestamp eventIds fence fuel
      { events := events } = .ok r) ↔ RecoverableJournal header events := by
  obtain ⟨-, -, st, -, hloop, -, -, rfl⟩ := replay_eq_ok_iff.mp accepted
  rw [← recoverable_iff hloop tools]
  constructor
  · rintro ⟨fuel, r, hr⟩
    exact recoverable_of_reconciled hcodec hloop hr
  · intro hrecoverable
    have hprior := replayLoop_prior hloop
    have htracked := replayLoop_tracked hloop
    suffices hrecovering : Recovering header task timestamp eventIds { events := events } st from
      hrecovering.reconcile fenced
    refine ⟨hloop, ⟨_, accepted⟩, live, hrecoverable, ?_, ?_, unique, ?_⟩
    · intro k acquired hget
      obtain ⟨⟨e, he, hopens⟩, -⟩ := (htracked.leases.table_iff k acquired).mp hget
      rw [hprior] at he
      cases e with
      | licenseLeaseAcquired e =>
        cases hopens
        exact clock _ he
      | _ => cases hopens
    · intro k reserved hopen
      obtain ⟨⟨e, he, hopens⟩, -⟩ := (htracked.dispatches.table_iff k reserved).mp hopen
      rw [hprior] at he
      cases e with
      | participantToolReserved e =>
        cases hopens
        exact clock _ he
      | _ => cases hopens
    · intro n _
      rw [hprior]
      exact fresh n

end Journal

/-! ### Control handed over while a tool runs -/

section HandedOver

local instance handedCanonical : Canonical := plainCanonical

local instance handedDigests : JournalDigests where
  journalAnchor _ := ""
  commitDigest _ _ := ""

local instance handedCodec : CommitCodec where
  commitBytes _ := []
  eventBytes e := List.replicate e.base.sequence 0
  validateCommit _ := none

local instance handedIdentities : ToolIdentities where
  participantToolInteractionId owner toolName role := owner ++ ":" ++ toolName ++ ":" ++ role

lemma handed_sequenceEncoded : SequenceEncoded := fun a b h => by
  simpa [eventBytes] using congrArg List.length h

/-- The small run's header, with a second actor who may take over. -/
def handoffHeader : RunHeader where
  runId := "run:t0"
  binding := {
    gateHeader.binding with
    session := {
      sessionSpecDigest := "d-ses"
      actors := [.human "alice" "d-ad", .human "bob" "d-ad"]
      initialWriter := "alice", handoffEnabled := true, feedbackPolicyDigest := "d-fb"
      budgetDigest := "d-bud" }
    purpose_iff := standard_trialless
    evaluators_sorted := gateEvaluators_sorted }
  runId_eq := by decide

/-- A tool is called, and the controller is lost. -/
def calledRun : List RunEvent :=
  passingRun.take 1 ++
    [.interactionRecorded (aliceRequest 1 "q0" "edagym_read_file")]

/-- Before that, the caller hands control over. -/
def handedRun : List RunEvent :=
  calledRun ++
    [.controlTransferred {
       toEventBase := aliceBase 2
       payload := { previousWriter := "alice", nextWriter := "bob", writer_ne := by decide } }]

/-- The result of the call is refused to the new writer, so no recovery returns. -/
theorem handedRun_stuck :
    (∃ state, replay handoffHeader gateTask handedRun = .ok state ∧
      state.terminalReason = none) ∧
    (∀ request ∈ unresolvedToolRequests handedRun,
      ∃ name ∈ recoverableToolNames, request.payload.toolName = some name) ∧
    (∀ e ∈ handedRun, e.base.timestamp ≤ 9) ∧
    ∀ fuel r, reconcileInterruptedRunWork handoffHeader gateTask 9 (fun n => 100 + n)
      (fun _ => .ok ⟨⟩) fuel { events := handedRun } ≠ .ok r := by
  have hreplay : (replay handoffHeader gateTask handedRun).map RunState.terminalReason =
      .ok none := by
    decide +kernel
  have htools : ∀ request ∈ unresolvedToolRequests handedRun,
      ∃ name ∈ recoverableToolNames, request.payload.toolName = some name := by
    decide +kernel
  obtain ⟨state, hstate⟩ : ∃ state, replay handoffHeader gateTask handedRun = .ok state :=
    Except.exists_of_isOk (by decide +kernel)
  rw [hstate] at hreplay
  refine ⟨⟨state, hstate, Except.ok.inj hreplay⟩, htools, by decide +kernel, ?_⟩
  intro fuel r hr
  obtain ⟨-, -, st, -, hloop, -⟩ := replay_eq_ok_iff.mp hstate
  have hjournal := (recoverable_iff hloop htools).mp
    (recoverable_of_reconciled handed_sequenceEncoded hloop hr)
  have hno : ¬ ∀ request ∈ unresolvedToolRequests handedRun,
      request.actor = some (writerAfter handoffHeader handedRun) := by
    decide +kernel
  exact hno hjournal.writer

/-- Without the handover the same call is recovered. -/
theorem calledRun_recovered :
    ∃ fuel r, reconcileInterruptedRunWork handoffHeader gateTask 9 (fun n => 100 + n)
      (fun _ => .ok ⟨⟩) fuel { events := calledRun } = .ok r := by
  have hreplay : (replay handoffHeader gateTask calledRun).map RunState.terminalReason =
      .ok none := by
    decide +kernel
  obtain ⟨state, hstate⟩ : ∃ state, replay handoffHeader gateTask calledRun = .ok state :=
    Except.exists_of_isOk (by decide +kernel)
  rw [hstate] at hreplay
  have hnone : ∀ k v, ¬ evaluationBracket.Pending calledRun k v := by
    rintro k v ⟨⟨e, he, hopens⟩, -⟩
    simp only [calledRun, passingRun, List.take_succ_cons, List.take_zero, List.cons_append,
      List.nil_append, List.mem_cons, List.not_mem_nil, or_false] at he
    rcases he with rfl | rfl <;> cases hopens
  refine (recovery_possible_iff handed_sequenceEncoded handoffHeader gateTask calledRun state 9
    (fun n => 100 + n) (fun _ => .ok ⟨⟩) hstate (Except.ok.inj hreplay) (by decide +kernel)
    (fun _ => rfl) (by decide +kernel) (fun a b h => by simpa using h) ?_).mpr ?_
  · intro n hmem
    have hsmall : ∀ id ∈ calledRun.map fun e => e.base.eventId, id < 100 := by decide +kernel
    exact absurd (hsmall _ hmem) (Nat.not_lt.mpr (Nat.le_add_right 100 n))
  · refine ⟨fun k k' v hk => absurd hk (hnone k v), fun k c s hk => absurd hk (hnone k _), ?_, ?_,
      ?_⟩
    · decide +kernel
    · decide +kernel
    · decide +kernel

end HandedOver

end EdaGym
