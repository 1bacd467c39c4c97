import EdaGym.Providers.ExchangeRefinement
import EdaGym.Providers.TrialAdmission

/-!
# The run journal and the campaign journal agree

However calls, crashes, recoveries and other writers follow each other, what the campaign has
settled for a trial agrees with the run of the trial as long as every answer that both journals can
hold reaches the run journal. The handler for an observer that fails on an answer does not see to
that.
-/

namespace EdaGym

section Journals

variable [Canonical]

/-- What the campaign journal has settled and reserved for a trial fits the requests of its run. -/
structure JournalsAgree (trialId : Identifier) (state : CampaignProjection)
    (requests : Dict Identifier ProviderRequestState) : Prop where
  /-- An attempt names a request of the run, and is completed exactly when the run has its answer.
  -/
  attempts : ∀ attempt ∈ state.attempts trialId, ∃ request,
    requests.get? attempt.requestKey = some request ∧
      (attempt.disposition = .completed ↔ request.status ≠ none) ∧
      (attempt.disposition = .completed →
        request.providerReportedModel = attempt.providerReportedModel ∧
        request.providerReportedServiceTier = attempt.providerReportedServiceTier ∧
        request.status = attempt.providerResponseStatus ∧
        SameUsage request.usage attempt.providerUsage)
  /-- No dispatched reservation lacks its request. -/
  dispatched : ∀ i active k, state.reservations.get? i = some active → active.For trialId k →
    active.dispatched = true → k ∈ requests
  /-- No other reservation has an answer. -/
  undispatched : ∀ i active k, state.reservations.get? i = some active → active.For trialId k →
    active.dispatched = false → ∀ request ∈ requests.get? k, request.status = none

section Agreement

variable {trialId : Identifier} {state : CampaignProjection}
  {requests : Dict Identifier ProviderRequestState}

section

omit [Canonical]

lemma sameUsage_ofFact (usage : Option ProviderUsageFact) :
    SameUsage usage (usage.map UsageCounters.ofFact) := by
  cases usage with
  | none => trivial
  | some usage => exact ⟨rfl, rfl, rfl, rfl, rfl⟩

lemma answer_eq_none {request : ProviderRequestState} :
    request.answer = none ↔ request.status = none := by
  unfold ProviderRequestState.answer
  split_ifs with hstatus
  · simp [hstatus]
  · simp [hstatus]

lemma attempt_answer_eq_none {attempt : ProviderAttemptRecord} :
    attempt.answer = none ↔ ¬ attempt.disposition = .completed := by
  unfold ProviderAttemptRecord.answer
  split_ifs with hdisposition
  · simp [hdisposition]
  · simp [hdisposition]

end

/-- Consistent exchanges are journals that agree. -/
lemma JournalsAgree.of_consistent (h : (exchanges trialId state requests).Consistent) :
    JournalsAgree trialId state requests where
  attempts := by
    intro attempt hattempt
    have hagrees := h.agrees _ _ (mem_settled.mpr ⟨attempt, hattempt, rfl, rfl⟩)
    obtain ⟨request, hrequest, hanswer⟩ := Option.map_eq_some_iff.mp hagrees
    refine ⟨request, hrequest, ?_, ?_⟩
    · rw [← not_iff_not, ← attempt_answer_eq_none, ← hanswer, answer_eq_none, not_not]
    · intro hcompleted
      unfold ProviderRequestState.answer ProviderAttemptRecord.answer at hanswer
      rw [if_pos hcompleted] at hanswer
      split_ifs at hanswer
      obtain ⟨hfacts, husage⟩ := Prod.mk.inj (Option.some.inj hanswer)
      obtain ⟨hmodel, htier, hstatus⟩ := ResponseFacts.mk.inj hfacts
      exact ⟨hmodel, htier, hstatus, husage ▸ sameUsage_ofFact request.usage⟩
  dispatched := by
    intro i active k hactive hfor hdispatched
    have hrequest := (h.dispatched i k (opened_eq_some.mpr ⟨active, hactive, hfor, hdispatched⟩)).1
    by_contra hmem
    exact hrequest (by simp [exchanges, Dict.get?_eq_none_iff.mpr hmem])
  undispatched := by
    intro i active k hactive hfor hdispatched request hrequest
    have hanswer := h.undispatched i k (opened_eq_some.mpr ⟨active, hactive, hfor, hdispatched⟩)
    by_contra hstatus
    obtain ⟨facts, hfacts⟩ := Option.ne_none_iff_exists'.mp (mt answer_eq_none.mp hstatus)
    refine hanswer facts ?_
    simp only [exchanges, Option.mem_def.mp hrequest, Option.map_some, hfacts]

end Agreement

variable [CampaignCanonical]

namespace ExchangeState

section Runs

variable (campaignHeader : CampaignHeader) (header : RunHeader) (task : TaskSpec)
  (sender : ResponsesCampaign)

/-- Any number of pieces, in the given order. -/
def steps (s : ExchangeState) (actions : List ExchangeAction) : ExchangeState :=
  actions.foldl (step campaignHeader header task sender) s

/-- No call is under way and the trial has no request yet. -/
structure Fresh (s : ExchangeState) : Prop where
  phase : s.phase = .idle
  campaign : ∃ state, replayCampaign campaignHeader s.campaign = .ok state ∧
    state.attempts header.binding.trialKey = [] ∧
    ∀ i, ¬ state.OwnsProvider header.binding.trialKey i
  run : ∃ st, replayLoop header task s.run = .ok st ∧ ∀ k, k ∉ st.providerRequests

/-- The observer of an answer that both journals can hold commits it to the run journal. -/
def RecordsAnswer (s : ExchangeState) : ExchangeAction → Prop
  | .recordResponse outcome =>
    match s.phase with
    | .answered recorder _ result => result.Recordable → ∃ inputs ∈ outcome.inputs,
        (recorder.responseReceived header task result inputs s.run).isOk
    | _ => True
  | _ => True

/-- So do all observers of a run. -/
def RecordsAnswers (s : ExchangeState) : List ExchangeAction → Prop
  | [] => True
  | action :: actions => s.RecordsAnswer header task action ∧
      (s.step campaignHeader header task sender action).RecordsAnswers actions

end Runs

variable {campaignHeader : CampaignHeader} {header : RunHeader} {task : TaskSpec}
  {sender : ResponsesCampaign} {s : ExchangeState} {state : CampaignProjection} {st : ReplayState}

lemma Fresh.linked (h : s.Fresh campaignHeader header task) :
    ∃ state st, s.Linked campaignHeader header task state st := by
  obtain ⟨state, hstate, hattempts, hopened⟩ := h.campaign
  obtain ⟨st, hst, hrequests⟩ := h.run
  refine ⟨state, st, hstate, hst, Exchanges.consistent_initial ?_ ?_ ?_, ?_⟩
  · intro i
    refine Option.eq_none_iff_forall_ne_some.mpr ?_
    rintro ⟨k, d⟩ hentry
    exact hopened i ((ownsProvider_iff st.providerRequests).mpr ⟨k, d, hentry⟩)
  · intro k
    simp [exchanges, Dict.get?_eq_none_iff.mpr (hrequests k)]
  · simp [exchanges, hattempts]
  · rw [h.phase]
    trivial

lemma Linked.answered (h : s.Linked campaignHeader header task state st)
    (outcome : Except ExchangeError ResponsesResult) :
    (s.step campaignHeader header task sender (.exchange outcome)).Linked campaignHeader header task
      state st := by
  obtain ⟨campaign, run, phase⟩ := s
  cases phase with
  | dispatched recorder reservation =>
    cases outcome with
    | ok result => exact ⟨h.campaign, h.run, h.consistent, h.phase⟩
    | error error => exact ⟨h.campaign, h.run, h.consistent, recorder.requestId, h.phase⟩
  | _ => exact h

/-- Every piece keeps the journals linked, if an answer is recorded as it should be. -/
lemma Linked.step (h : s.Linked campaignHeader header task state st) {action : ExchangeAction}
    (hrecords : s.RecordsAnswer header task action) :
    ∃ state' st',
      (s.step campaignHeader header task sender action).Linked campaignHeader header task
      state' st' := by
  cases action with
  | reserve recorder reservationId eventId =>
    simp only [ExchangeState.step]
    split
    · obtain ⟨state', hlinked⟩ := h.reserve sender recorder reservationId eventId
      exact ⟨state', st, hlinked⟩
    · exact ⟨state, st, h⟩
  | recordRequest outcome =>
    simp only [ExchangeState.step]
    split
    · next hphase =>
      obtain ⟨st', hlinked⟩ := h.recordRequest hphase outcome
      exact ⟨state, st', hlinked⟩
    · exact ⟨state, st, h⟩
  | cancel eventId =>
    simp only [ExchangeState.step]
    split
    · obtain ⟨state', hlinked⟩ := h.cancel _ eventId
      exact ⟨state', st, hlinked⟩
    · exact ⟨state, st, h⟩
  | markDispatched eventId =>
    simp only [ExchangeState.step]
    split
    · next hphase =>
      obtain ⟨state', hlinked⟩ := h.markDispatched hphase eventId
      exact ⟨state', st, hlinked⟩
    · exact ⟨state, st, h⟩
  | exchange outcome => exact ⟨state, st, h.answered outcome⟩
  | settleFailed eventId =>
    simp only [ExchangeState.step]
    split
    · next hphase =>
      obtain ⟨state', hlinked⟩ := h.settleFailed hphase eventId
      exact ⟨state', st, hlinked⟩
    · exact ⟨state, st, h⟩
  | recordResponse outcome =>
    simp only [ExchangeState.step]
    split
    · next recorder reservation result hphase =>
      simp only [RecordsAnswer, hphase] at hrecords
      have hcommits : result.Recordable → ∃ inputs run, outcome.inputs = some inputs ∧
          recorder.responseReceived header task result inputs s.run = .ok run := by
        intro hrecordable
        obtain ⟨inputs, hinputs, hok⟩ := hrecords hrecordable
        obtain ⟨run, hrun⟩ := Except.exists_of_isOk hok
        exact ⟨inputs, run, hinputs, hrun⟩
      obtain ⟨st', hlinked⟩ := h.recordResponse hphase hcommits
      exact ⟨state, st', hlinked⟩
    · exact ⟨state, st, h⟩
  | settleCompleted eventId =>
    simp only [ExchangeState.step]
    split
    · next hphase =>
      obtain ⟨state', hlinked⟩ := h.settleCompleted hphase eventId
      exact ⟨state', st, hlinked⟩
    · exact ⟨state, st, h⟩
  | crash => exact ⟨state, st, h.idle⟩
  | recover eventIds =>
    simp only [ExchangeState.step]
    split
    · next hphase =>
      obtain ⟨state', hlinked⟩ := h.recover hphase eventIds
      exact ⟨state', st, hlinked⟩
    · exact ⟨state, st, h⟩
  | commitCampaign events =>
    obtain ⟨state', hlinked⟩ := h.commitCampaign events
    exact ⟨state', st, hlinked⟩
  | commitRun events =>
    obtain ⟨st', hlinked⟩ := h.commitRun events
    exact ⟨state, st', hlinked⟩

lemma recordsAnswers_append {actions actions' : List ExchangeAction} :
    s.RecordsAnswers campaignHeader header task sender (actions ++ actions') ↔
      s.RecordsAnswers campaignHeader header task sender actions ∧
        (s.steps campaignHeader header task sender actions).RecordsAnswers campaignHeader
          header task
          sender actions' := by
  induction actions generalizing s with
  | nil => simp [RecordsAnswers, ExchangeState.steps]
  | cons action actions ih =>
    simp only [List.cons_append, RecordsAnswers, ih, and_assoc]
    rfl

lemma Linked.steps {actions : List ExchangeAction}
    (h : s.Linked campaignHeader header task state st)
    (hrecords : s.RecordsAnswers campaignHeader header task sender actions) :
    ∃ state' st', (s.steps campaignHeader header task sender actions).Linked campaignHeader header
      task state' st' := by
  induction actions generalizing s state st with
  | nil => exact ⟨state, st, h⟩
  | cons action actions ih =>
    obtain ⟨state₁, st₁, hlinked⟩ := h.step hrecords.1
    exact ih hlinked hrecords.2

end ExchangeState

/-- However the pieces of calls, crashes, recoveries and other commits follow each other, the two
journals of a trial agree if every answer that both can hold was committed to the run journal. -/
theorem journals_agree (campaignHeader : CampaignHeader) (header : RunHeader) (task : TaskSpec)
    (sender : ResponsesCampaign) (s : ExchangeState) (actions : List ExchangeAction)
    (fresh : s.Fresh campaignHeader header task)
    (records : s.RecordsAnswers campaignHeader header task sender actions) :
    ∃ state st,
      replayCampaign campaignHeader (s.steps campaignHeader header task sender actions).campaign =
        .ok state ∧
      replayLoop header task (s.steps campaignHeader header task sender actions).run = .ok st ∧
      JournalsAgree header.binding.trialKey state st.providerRequests := by
  obtain ⟨state, st, hlinked⟩ := fresh.linked
  obtain ⟨state', st', hfinal⟩ := hlinked.steps records
  exact ⟨state', st', hfinal.campaign, hfinal.run, .of_consistent hfinal.consistent⟩

end Journals

/-! ### One call, with and without its answer -/

section OneCall

local instance callCanonical : Canonical := plainCanonical
local instance callCampaignCanonical : CampaignCanonical := plainCampaignCanonical

/-- The run of the small campaign's trial. -/
def trialRunHeader : RunHeader where
  runId := "run:trial_0"
  binding := { harnessHeader.binding with trialKey := "trial_0" }
  runId_eq := by decide

def trialSender : ResponsesCampaign where
  providerProfileDigest := "d-prof"
  providerConfigDigest := "d-conf"
  canaryEvidence := {
    receiptDigest := "d-cr", runtimeSurfaceManifestDigest := "d-rs", artifactId := "canary" }
  budgetBindingDigest := "d-camp/d-sched"

def firstRecorder : JournalExchangeRecorder where
  actorId := "h0"
  requestedModelRoute := "m0"
  requestId := "q0"
  tokenClaim := trialClaim
  requestedServiceTier := some "default"

/-- The run has started and nothing was requested yet. -/
def startedTrial : ExchangeState where
  campaign := []
  run := [.runStarted {
    runId := "run:trial_0", sequence := 0, eventId := 0, timestamp := 0, producer := .controller
    visibility := .verifier
    payload := { bindingDigest := "run:trial_0" } }]

lemma firstUsage_total : 60 = 40 + 20 := rfl

lemma firstUsage_cached : ∀ n ∈ (none : Option Nat), n ≤ 40 := fun _ h => by cases h

lemma firstUsage_reasoning : ∀ n ∈ (none : Option Nat), n ≤ 20 := fun _ h => by cases h

def firstResult : ResponsesResult where
  reportedModel := "m0"
  status := .completed
  usage := some { inputTokens := 40, outputTokens := 20, totalTokens := 60
                  total_eq := firstUsage_total, cached_le := firstUsage_cached
                  reasoning_le := firstUsage_reasoning }

/-- One call, up to the answer of the provider. -/
def firstExchange : List ExchangeAction :=
  [.reserve firstRecorder "r0" 0,
   .recordRequest (.returns {
     transcript := { digest := "d-q0", sizeBytes := 1 }
     evidence := { digest := "d-canary", sizeBytes := 1 }
     evidenceSensitivity := .confidential, evidenceRedistribution := .forbidden, timestamp := 1
     artifactEventId := 1, securityArtifactEventId := 2, providerEventId := 3 }),
   .markDispatched 1,
   .exchange (.ok firstResult)]

/-- The observer of the answer ends as given; the call is settled, and a recovery follows. -/
def firstCall (outcome : ObserverOutcome ResponseInputs) : List ExchangeAction :=
  firstExchange ++ [.recordResponse outcome, .settleCompleted 2, .recover fun n => 3 + n]

def firstAnswer : ResponseInputs where
  transcript := { digest := "d-a0", sizeBytes := 1 }
  timestamp := 2
  artifactEventId := 4
  providerEventId := 5

def afterCall (outcome : ObserverOutcome ResponseInputs) : ExchangeState :=
  startedTrial.steps twoRequestHeader trialRunHeader gateTask trialSender (firstCall outcome)

lemma startedTrial_fresh : startedTrial.Fresh twoRequestHeader trialRunHeader gateTask where
  phase := rfl
  campaign := by
    refine ⟨CampaignProjection.initial twoRequestHeader, rfl, by decide +kernel, ?_⟩
    rintro i ⟨active, hactive, -⟩
    cases hactive
  run := by
    have hrequests : (replayLoop trialRunHeader gateTask startedTrial.run).toOption.map
        (fun st => st.providerRequests.keys) = some [] := by
      decide +kernel
    cases hst : replayLoop trialRunHeader gateTask startedTrial.run with
    | error e => simp [hst, Except.toOption] at hrequests
    | ok st =>
      rw [hst] at hrequests
      refine ⟨st, rfl, ?_⟩
      intro k hk
      have hkeys : st.providerRequests.keys = [] := Option.some.inj hrequests
      have hmem := Dict.mem_keys.mpr hk
      rw [hkeys] at hmem
      cases hmem

/-- The observer fails on the answer, as when its transcript cannot be stored: the attempt is
settled as completed, the run never learns of the answer, and recovery finds nothing to do. -/
theorem lostAnswer_disagrees :
    startedTrial.Fresh twoRequestHeader trialRunHeader gateTask ∧
    ∃ state st, replayCampaign twoRequestHeader (afterCall .raisesBeforeCommit).campaign =
        .ok state ∧
      replayLoop trialRunHeader gateTask (afterCall .raisesBeforeCommit).run = .ok st ∧
      ¬ JournalsAgree "trial_0" state st.providerRequests := by
  refine ⟨startedTrial_fresh, ?_⟩
  have hattempts : (replayCampaign twoRequestHeader
      (afterCall .raisesBeforeCommit).campaign).toOption.map (fun state =>
        state.attempts "trial_0") = some [answeredAttempt] := by
    decide +kernel
  have hrequest : (replayLoop trialRunHeader gateTask
      (afterCall .raisesBeforeCommit).run).toOption.map (fun st =>
        (st.providerRequests.get? "q0").map ProviderRequestState.status) = some (some none) := by
    decide +kernel
  cases hstate : replayCampaign twoRequestHeader (afterCall .raisesBeforeCommit).campaign with
  | error e => simp [hstate, Except.toOption] at hattempts
  | ok state =>
    cases hst : replayLoop trialRunHeader gateTask (afterCall .raisesBeforeCommit).run with
    | error e => simp [hst, Except.toOption] at hrequest
    | ok st =>
      refine ⟨state, st, rfl, rfl, ?_⟩
      intro hagree
      rw [hstate] at hattempts
      rw [hst] at hrequest
      have hattempts' : state.attempts "trial_0" = [answeredAttempt] := Option.some.inj hattempts
      obtain ⟨request, hget, hstatus, -⟩ := hagree.attempts answeredAttempt (by simp [hattempts'])
      obtain ⟨request', hget', hnone⟩ := Option.map_eq_some_iff.mp (Option.some.inj hrequest)
      obtain rfl := Option.some.inj (hget.symm.trans hget')
      exact hstatus.mp rfl hnone

lemma answeredTrial_phase : (startedTrial.steps twoRequestHeader trialRunHeader gateTask trialSender
    firstExchange).phase = .answered firstRecorder
      { trialId := "trial_0", reservationId := "r0", claim := trialClaim.resources
        provider := { requestKey := "q0", attemptNumber := 1, observedInputTokenFloor := 10
                      securityBinding := trialSecurity } } firstResult := by
  decide +kernel

/-- The same call with its answer in the run journal. -/
theorem answeredCall_agrees :
    startedTrial.RecordsAnswers twoRequestHeader trialRunHeader gateTask trialSender
      (firstCall (.returns firstAnswer)) ∧
    ∃ state st, replayCampaign twoRequestHeader (afterCall (.returns firstAnswer)).campaign =
        .ok state ∧
      replayLoop trialRunHeader gateTask (afterCall (.returns firstAnswer)).run = .ok st ∧
      JournalsAgree "trial_0" state st.providerRequests := by
  have hrecords : startedTrial.RecordsAnswers twoRequestHeader trialRunHeader gateTask trialSender
      (firstCall (.returns firstAnswer)) := by
    refine ExchangeState.recordsAnswers_append.mpr
      ⟨⟨trivial, trivial, trivial, trivial, trivial⟩, ?_, trivial, trivial, trivial⟩
    simp only [ExchangeState.RecordsAnswer, answeredTrial_phase]
    intro _
    exact ⟨firstAnswer, rfl, by decide +kernel⟩
  exact ⟨hrecords, journals_agree twoRequestHeader trialRunHeader gateTask trialSender startedTrial
    (firstCall (.returns firstAnswer)) startedTrial_fresh hrecords⟩

end OneCall

end EdaGym
