import EdaGym.Run.JournalFile
import EdaGym.Run.Closing

/-!
# Recovery of interrupted work

After a restart the controller closes what its predecessor left open: first the evaluations, each in
one commit, then the executor tools, each with its lease and its dispatch, then its own tools.
-/

namespace EdaGym

variable [Canonical] [JournalDigests] [CommitCodec]

/-- The journal interaction identifiers derived for participant tools. -/
class ToolIdentities where
  participantToolInteractionId : (owner toolName role : Identifier) → Identifier

variable [ToolIdentities]

def CONTROLLER_PARTICIPANT_TOOL_NAMES : List Identifier :=
  ["edagym_checkpoint", "edagym_commit_intent", "edagym_read_file", "edagym_write_file"]

/-- The journal during a recovery: its events, the commits the recovery has added, and the number of
event identifiers it has drawn. -/
structure Recovery where
  events : List RunEvent
  commits : List (List RunEvent) := []
  issued : Nat := 0

section Recovery

variable (header : RunHeader) (task : TaskSpec) (timestamp : Datetime) (eventIds : Nat → UUID)

/-! ### The journal -/

/-- Reading the journal replays it. -/
def Recovery.readEvents (r : Recovery) : Except JournalError (List RunEvent) := do
  let _ ← replay header task r.events
  return r.events

/-- `append_events` on the committed events of the journal. -/
def Recovery.appendEvents (r : Recovery) (requested : List RunEvent) :
    Except JournalError (Recovery × RunState) := do
  raiseIf (requested = []) (.valueError "a journal record must contain at least one event")
  let (state, new) ← admitAppend header task requested r.events
  let issued := r.issued + requested.length
  if new then
    return ({ events := r.events ++ requested, commits := r.commits ++ [requested], issued }, state)
  return ({ r with issued }, state)

/-! ### Evaluations -/

/-- The started evaluations without a completion. -/
def interruptedEvaluations (events : List RunEvent) : List EvaluationStartedEvent :=
  let completed := events.filterMap fun
    | .evaluationCompleted event => some event.payload.jobId
    | _ => none
  events.filterMap fun
    | .evaluationStarted event => if event.payload.jobId ∈ completed then none else some event
    | _ => none

def interruptedEvaluationEvents (sequence issued : Nat) (started : EvaluationStartedEvent)
    (jobIsTerminal : Bool) (acquisition : Option LicenseLeaseAcquiredEvent) : List RunEvent :=
  let jobId := started.payload.jobId
  let failed : List RunEvent :=
    if jobIsTerminal then []
    else [.jobStateChanged (jobFailedEvent header sequence (eventIds issued) timestamp jobId
      (some "runner_restart"))]
  let n := failed.length
  let lost : List RunEvent := acquisition.toList.map fun acquired =>
    .licenseLeaseLost (leaseLostEvent header (sequence + n) (eventIds (issued + n)) timestamp
      acquired.payload)
  let m := n + lost.length
  failed ++ lost ++ [.evaluationCompleted (evaluationFailedEvent header (sequence + m)
    (eventIds (issued + m)) timestamp jobId started.payload.candidateId started.payload.stageId
    started.visibility)]

/-- Close one evaluation whose controller ownership was lost. -/
def reconcileEvaluation (activeLeases : Dict Identifier LicenseLeaseAcquiredEvent)
    (acc : Recovery × RunState) (started : EvaluationStartedEvent) :
    Except JournalError (Recovery × RunState) := do
  let jobStates := Dict.ofList (acc.2.jobs.map fun job => (job.jobId, job.state))
  let jobState ← orRaise (jobStates.get? started.payload.jobId)
    (.lookupError started.payload.jobId)
  acc.1.appendEvents header task (interruptedEvaluationEvents header timestamp eventIds
    acc.2.nextSequence acc.1.issued started jobState.isTerminal
    (activeLeases.get? started.payload.jobId))

def reconcileInterruptedEvaluations (r : Recovery) : Except JournalError Recovery := do
  let events ← r.readEvents header task
  let activeLeases ← activeLicenseLeases events
  let state ← replay header task r.events
  let (r, _) ← foldSteps (reconcileEvaluation header task timestamp eventIds activeLeases)
    (r, state)
    (interruptedEvaluations events)
  return r

/-! ### Tools -/

/-- The events that close a dispatch still running: the loss of its lease and of the dispatch. -/
def lostDispatchEvents (sequence issued : Nat)
    (activeLeases : Dict Identifier LicenseLeaseAcquiredEvent)
    (reservation : ParticipantToolReservedPayload) : List RunEvent :=
  let license : List RunEvent :=
    (activeLeases.get? reservation.invocationId).toList.map fun lease =>
      .licenseLeaseLost (leaseLostEvent header sequence (eventIds issued) timestamp lease.payload)
  let n := license.length
  license ++ [.participantToolLost (toolLostEvent header (sequence + n) (eventIds (issued + n))
    timestamp reservation)]

/-- The closing events of the dispatch of a request, if it is still running. -/
def interruptedDispatchEvents (events : List RunEvent) (issued : Nat)
    (requestInteractionId : Identifier) : Except JournalError (List RunEvent) := do
  let dispatches ← participantToolDispatches events
  match dispatches.lookup requestInteractionId with
  | some { reservation, terminal := none } => do
    raiseIf (reservation.payload.invocationId ≠
        Canonical.participantToolInvocationId header.runId requestInteractionId)
      (.invalidTransition "participant tool reservation has the wrong invocation identity")
    let activeLeases ← activeLicenseLeases events
    return lostDispatchEvents header timestamp eventIds events.length issued activeLeases
      reservation.payload
  | _ => return []

/-- The events that close one tool request: those of its dispatch, if asked for, and its result. -/
def interruptedRequestEvents (events : List RunEvent) (issued : Nat)
    (requestId toolName : Identifier) (closeActiveDispatch : Bool) :
    Except JournalError (List RunEvent) := do
  let closing ←
    if closeActiveDispatch then
      interruptedDispatchEvents header timestamp eventIds events issued requestId
    else pure []
  let n := closing.length
  let result := toolResultEvent header (events.length + n) (eventIds (issued + n)) timestamp
    (ToolIdentities.participantToolInteractionId requestId toolName "result") requestId toolName
  return closing ++ [.interactionRecorded result]

/-- Close one unresolved tool request, trying again when another writer was faster. -/
def closeInterruptedRequest (request : InteractionRecordedEvent) (toolName : Identifier)
    (closeActiveDispatch : Bool) : Nat → Recovery → Except JournalError Recovery
  | 0, _ => .error .outOfFuel
  | fuel + 1, r => do
    let requestId := request.payload.interactionId
    let events ← r.readEvents header task
    if requestId ∉ (unresolvedToolRequests events (some toolName)).map
        fun e => e.payload.interactionId then
      return r
    let requested ← interruptedRequestEvents header timestamp eventIds events r.issued requestId
      toolName closeActiveDispatch
    match r.appendEvents header task requested with
    | .ok (r, _) => return r
    | .error (.invalidTransition message) => .error (.invalidTransition message)
    | .error (.eventConflict _) =>
      closeInterruptedRequest request toolName closeActiveDispatch fuel
        { r with issued := r.issued + requested.length }
    | .error e => .error e

variable (fence : Identifier → Except JournalError Unit)

/-- Fence and close unresolved participant executor requests. -/
def recoverInterruptedExecutorTools : Nat → Recovery → Except JournalError Recovery
  | 0, _ => .error .outOfFuel
  | fuel + 1, r => do
    let events ← r.readEvents header task
    match unresolvedToolRequests events (some EXECUTOR_PARTICIPANT_TOOL_NAME) with
    | [] => return r
    | request :: _ => do
      let requestId := request.payload.interactionId
      let invocationId := Canonical.participantToolInvocationId header.runId requestId
      let dispatches ← participantToolDispatches events
      let dispatch := dispatches.lookup requestId
      raiseIf (∃ d ∈ dispatch, d.reservation.payload.invocationId ≠ invocationId)
        (.invalidTransition "participant tool reservation has the wrong invocation identity")
      if ∀ d ∈ dispatch, d.terminal = none then
        fence invocationId
      let r ← closeInterruptedRequest header task timestamp eventIds request
        EXECUTOR_PARTICIPANT_TOOL_NAME true (fuel + 1) r
      recoverInterruptedExecutorTools fuel r

/-- Close unresolved built-in controller tool requests. -/
def closeInterruptedControllerTools : Nat → Recovery → Except JournalError Recovery
  | 0, _ => .error .outOfFuel
  | fuel + 1, r => do
    let events ← r.readEvents header task
    match (unresolvedToolRequests events).filter fun request =>
        ∃ name ∈ request.payload.toolName, name ∈ CONTROLLER_PARTICIPANT_TOOL_NAMES with
    | [] => return r
    | request :: _ => do
      let toolName ← orRaise request.payload.toolName (.lookupError "tool_name")
      let r ← closeInterruptedRequest header task timestamp eventIds request toolName false
        (fuel + 1) r
      closeInterruptedControllerTools fuel r

/-! ### The whole recovery -/

/-- Close every executor-backed and controller-local interrupted action. -/
def reconcileInterruptedRunWork (fuel : Nat) (r : Recovery) : Except JournalError Recovery := do
  let events ← r.readEvents header task
  foldSteps (fun (_ : Unit) (started : EvaluationStartedEvent) =>
      (fence started.payload.jobId).mapError fun _ =>
        .recoveryError "executor could not prove interrupted resources quiescent")
    ⟨⟩ (interruptedEvaluations events)
  let r ← reconcileInterruptedEvaluations header task timestamp eventIds r
  let r ← (recoverInterruptedExecutorTools header task timestamp eventIds fence fuel r).mapError
    fun _ => .recoveryError "executor could not prove an interrupted participant tool quiescent"
  let r ← closeInterruptedControllerTools header task timestamp eventIds fuel r
  let events ← r.readEvents header task
  raiseIf (unresolvedToolRequests events ≠ [])
    (.recoveryError "participant tool recovery left unresolved work")
  return r

end Recovery

end EdaGym
