import EdaGym.Participants.WorkspaceTools

/-!
# The Responses adapter

`next_intent` talks to a provider until one of its tool calls commits an intent. Every pass checks
the budgets, sends the whole conversation so far, lets the tool answer the one call that came back,
and appends the call and its answer to the conversation.
-/

namespace EdaGym

open Process hiding ofExcept

variable [Canonical]

/-- The text of a view: its canonical bytes, decoded. -/
class ViewText where
  viewText : ParticipantView → String

def MAXIMUM_TOOL_ARGUMENT_BYTES : Nat := 1024 * 1024

/-- What a sender does with a request, its check of the size apart: whatever may refuse the request
before it leaves, the exchange of the bytes, and the observer of the answer. -/
structure ResponsesSender where
  reserve : Identifier → ItemizedRequest → Process RunDesk AdapterError PUnit
  exchange : ItemizedRequest → Process RunDesk AdapterError (List UInt8)
  received : List UInt8 → DecodedResult → Process RunDesk AdapterError PUnit

inductive ToolInteractionRole
  | request | result
deriving DecidableEq, Repr

/-- `IntentParticipantTool._DEFINITION`. -/
def intentToolDefinition : FunctionTool where
  name := COMMIT_INTENT_PARTICIPANT_TOOL_NAME
  description :=
    "Commit one JSON string with kind submit_candidate, finish_training, interaction, or " ++
    "transfer_control. A submission has candidate_id and parent_candidate_id; never supply a " ++
    "digest because the controller snapshots content. Finishing concludes training with " ++
    "candidate_id. An interaction has interaction_id, direction, and artifact_refs. A transfer " ++
    "has next_writer."
  parameters := [
    { name := "intent", kind := .string
      description := "A JSON object matching the current participant intent schema." }]

structure ResponsesParticipantAdapter where
  actorId : Identifier
  requestedModelRoute : ModelLabel
  journal : RunHandle
  session : SessionSpec
  sender : ResponsesSender
  instruction : String
  tokenClaim : RequestTokenClaim
  tools : List ParticipantTool
  disk : WorkspaceDisk
  exactUsage : Bool := true
  maximumRequestsPerAction : Nat := 8
  reasoningEffort : Option String := none
  serviceTier : Option ServiceTierLabel := none
  requestIdFactory : Nat → Identifier
  participantToolInteractionId : Identifier → String → ToolInteractionRole → Identifier
  /-- `PARTICIPANT_INTENT_ADAPTER.validate_json`. -/
  validateIntent : PyStr → Option ParticipantIntent
  instruction_bound : instruction ≠ "" ∧ instruction.utf8ByteSize ≤ 1000000
  route_label : IsModelLabel requestedModelRoute
  requests_pos : 0 < maximumRequestsPerAction := by decide
  names_nodup : ((intentToolDefinition :: tools.map ParticipantTool.definition).map
    FunctionTool.name).Nodup

/-- An answered call of a tool: what the provider has sent, what the tool has returned, and the
workspace before and after it. -/
structure ToolExchange where
  tool : ParticipantTool
  callId : PyStr
  arguments : PyStr
  output : ParticipantToolOutput
  before : Workspace
  after : Workspace

def ToolExchange.name (exchange : ToolExchange) : PyStr :=
  PyStr.ofString exchange.tool.definition.name

/-- The world of an action and what has happened in it: the exchanges that are complete, the
requests that have left, the journal as the last exchange has left it, and whether the sender has
refused a request. -/
structure AdapterDesk extends ToolWorld where
  exchanges : List ToolExchange := []
  sent : List ItemizedRequest := []
  offered : List RunEvent
  refused : Bool := false

abbrev AdapterProcess (α : Type) := Process AdapterDesk AdapterError α

/-- A call of the provider. -/
structure FunctionCall where
  callId : PyStr
  name : PyStr
  arguments : PyStr

namespace AdapterDesk

def start (world : ToolWorld) : AdapterDesk where
  toToolWorld := world
  offered := world.run.events

def inWorld {α : Type} (p : WorldProcess α) : AdapterProcess α := fun d =>
  ((p.exec d.toToolWorld).1, { d with toToolWorld := (p.exec d.toToolWorld).2 })

def inRun {α : Type} (p : Process RunDesk AdapterError α) : AdapterProcess α := fun d =>
  ((p.exec d.run).1, { d with run := (p.exec d.run).2 })

def currentWorkspace : AdapterProcess Workspace := fun d => (.ok d.workspace, d)

lemma exec_currentWorkspace (d : AdapterDesk) :
    currentWorkspace.exec d = (.ok d.workspace, d) := rfl

def ofJournal {α : Type} (p : RunProcess α) : AdapterProcess α :=
  inRun fun s =>
    ((p.exec s).1.mapError fun
      | .participant kind => .adapter kind
      | e => .run e, (p.exec s).2)

end AdapterDesk

open AdapterDesk

/-! ### Budgets -/

/-- Tool requests in the journal. -/
def toolRequestCount (events : List RunEvent) : Nat :=
  events.countP fun
    | .interactionRecorded event => event.payload.direction = .toolRequest
    | _ => false

namespace ResponsesParticipantAdapter

variable (adapter : ResponsesParticipantAdapter)

def requireToolBudget : AdapterProcess PUnit := do
  let events ← ofJournal adapter.journal.readEvents
  Process.ofExcept (raiseIf (adapter.session.resources.maxToolCalls ≤ toolRequestCount events)
    (.adapter .toolBudget))

def requireRequestBudget : AdapterProcess PUnit := do
  let state ← ofJournal adapter.journal.state
  Process.ofExcept
    ((EdaGym.requireRequestBudget adapter.session state adapter.tokenClaim).mapError .adapter)

/-! ### One exchange with the provider -/

def toolDefinitions : List FunctionTool :=
  intentToolDefinition :: adapter.tools.map ParticipantTool.definition

section Exchange

variable [TextRuntime]

def functionCalls (result : DecodedResult) : List (FunctionCall × Option FunctionCallStatus) :=
  result.outputs.filterMap fun
    | .functionCall callId name arguments status => some (⟨callId, name, arguments⟩, status)
    | _ => none

/-- `sender.request(...)`: a request that is too long does not leave, and one that left is kept. -/
def sendRequest (requestId : Identifier) (request : ItemizedRequest) :
    AdapterProcess DecodedResult := do
  let typed := request.toResponsesRequest
  Process.ofExcept (raiseIf (MAX_PROVIDER_TRANSCRIPT_REQUEST_BYTES < typed.wireBody.length) .other)
  onRaise (inRun (adapter.sender.reserve requestId request)) fun _ =>
    alter fun d => { d with refused := true }
  alter fun d => { d with sent := d.sent ++ [request] }
  let raw ← inRun (adapter.sender.exchange request)
  let result ← Process.ofExcept ((decodeResult raw).mapError fun _ => .other)
  Process.ofExcept ((validateToolCalls typed result).mapError fun _ => .other)
  inRun (adapter.sender.received raw result)
  return result

def isReasoning : DecodedOutput → Bool
  | .reasoningSummary _ => true
  | _ => false

def isFunctionCall : DecodedOutput → Bool
  | .functionCall .. => true
  | _ => false

def oneToolCall (result : DecodedResult) : Except AdapterError FunctionCall :=
  match functionCalls result with
  | [(call, some .completed)] =>
    if ∀ output ∈ result.outputs, isFunctionCall output = true ∨ isReasoning output = true then
      .ok call
    else .error (.adapter .invalidIntent)
  | _ => .error (.adapter .invalidIntent)

/-- The tool of a call; nothing for the tool that commits an intent. -/
def toolNamed (name : PyStr) : Except AdapterError (Option ParticipantTool) :=
  if PyStr.ofString intentToolDefinition.name = name then .ok none
  else
    match adapter.tools.find? fun tool => PyStr.ofString tool.definition.name = name with
    | some tool => .ok (some tool)
    | none => .error .other

/-- `IntentParticipantTool.invoke`. -/
def committedIntent (arguments : PyStr) : Except AdapterError ParticipantIntent := do
  let encoded ← orRaise arguments.encode? (.valueError "UnicodeEncodeError")
  raiseIf (MAXIMUM_TOOL_ARGUMENT_BYTES < encoded.size) (.adapter .responseBound)
  match TextRuntime.loadsText arguments with
  | .ok (.obj members) => do
    raiseIf (¬ SameSet (members.map Prod.fst) [PyStr.ofString "intent"]) (.adapter .invalidIntent)
    let text ← orRaise (getMember members "intent" .null).text? (.adapter .invalidIntent)
    orRaise (adapter.validateIntent text) (.adapter .invalidIntent)
  | .error .other => .error .other
  | _ => .error (.adapter .invalidIntent)

/-! ### The journal of the tools -/

def toolRequestEvent (interactionId : Identifier) (toolName : String) (eventId : UUID)
    (timestamp : Datetime) (state : RunState) : RunEvent :=
  .interactionRecorded {
    runId := state.runId
    sequence := state.nextSequence
    eventId, timestamp
    producer := .participant
    actor := some adapter.actorId
    visibility := .participant
    actor_iff := by simp
    payload := { direction := .toolRequest, interactionId, toolName := some toolName
                 tool_iff := by simp } }

def toolResultEvent (interactionId requestInteractionId : Identifier) (toolName : String)
    (artifactRefs : {refs : List Identifier // refs.Pairwise (· < ·)}) (eventId : UUID)
    (timestamp : Datetime) (state : RunState) : RunEvent :=
  .interactionRecorded {
    runId := state.runId
    sequence := state.nextSequence
    eventId, timestamp
    producer := .controller
    visibility := if artifactRefs.1 = [] then .participant else .author
    artifactRefs := artifactRefs.1
    refs_sorted := artifactRefs.2
    payload := { direction := .toolResult, interactionId
                 relatedInteractionId := some requestInteractionId, toolName := some toolName
                 tool_iff := by simp } }

def recordToolRequest (requestId : Identifier) (toolName : String) : RunProcess Identifier := do
  let interactionId := adapter.participantToolInteractionId requestId toolName .request
  let timestamp ← ask adapter.journal.clock
  let eventId ← ask adapter.journal.eventIdFactory
  let _ ← adapter.journal.transactEvents fun state =>
    return [adapter.toolRequestEvent interactionId toolName eventId timestamp state]
  return interactionId

def recordToolResult (requestInteractionId : Identifier) (toolName : String)
    (artifactRefs : {refs : List Identifier // refs.Pairwise (· < ·)}) : RunProcess PUnit := do
  let interactionId := adapter.participantToolInteractionId requestInteractionId toolName .result
  let timestamp ← ask adapter.journal.clock
  let eventId ← ask adapter.journal.eventIdFactory
  let _ ← adapter.journal.transactEvents fun state => do
    let registered := state.artifacts.map ArtifactRecord.logicalId
    Process.ofExcept (raiseIf (∃ reference ∈ artifactRefs.1, reference ∉ registered)
      (.participant .channelFailure))
    return [toolResultEvent interactionId requestInteractionId toolName artifactRefs eventId
      timestamp state]
  return ⟨⟩

/-! ### The loop -/

/-- A tool that commits no intent answers a call between its two journal entries. -/
def answerCall (view : ParticipantView) (requestId : Identifier) (tool : ParticipantTool)
    (call : FunctionCall) : AdapterProcess ParticipantToolOutput := do
  let before ← currentWorkspace
  let toolName := tool.definition.name
  let interactionId ← ofJournal (adapter.recordToolRequest requestId toolName)
  let output ← inWorld (tool.invoke adapter.disk call.arguments view)
  ofJournal
    (adapter.recordToolResult interactionId toolName ⟨output.artifactRefs, output.refs_sorted⟩)
  alter fun d => { d with
    exchanges := d.exchanges ++ [⟨tool, call.callId, call.arguments, output, before, d.workspace⟩]
    offered := d.run.events }
  return output

def commitIntent (requestId : Identifier) (call : FunctionCall) :
    AdapterProcess ParticipantIntent := do
  let toolName := intentToolDefinition.name
  let interactionId ← ofJournal (adapter.recordToolRequest requestId toolName)
  let intent ← Process.ofExcept (adapter.committedIntent call.arguments)
  ofJournal (adapter.recordToolResult interactionId toolName ⟨[], List.Pairwise.nil⟩)
  return intent

/-- The `try` block of one pass. -/
def converse (view : ParticipantView) (requestId : Identifier) (request : ItemizedRequest) :
    AdapterProcess (ParticipantIntent ⊕ FunctionCall × ParticipantToolOutput) := do
  let result ← adapter.sendRequest requestId request
  Process.ofExcept (raiseIf (adapter.exactUsage = true ∧ result.usage = none)
    (.adapter .channelFailure))
  Process.ofExcept (raiseIf (result.status ≠ .completed) (.adapter .channelFailure))
  let call ← Process.ofExcept (oneToolCall result)
  match ← Process.ofExcept (adapter.toolNamed call.name) with
  | none => do
    let intent ← adapter.commitIntent requestId call
    return .inl intent
  | some tool => do
    let output ← adapter.answerCall view requestId tool call
    return .inr (call, output)

/-- The handlers of the `try` block. -/
def raiseAdapterError : AdapterError → AdapterError
  | .adapter kind => .adapter kind
  | .budgetOverrun => .adapter .providerBudgetOverrun
  | _ => .adapter .channelFailure

/-- The conversation with an answered call at its end. -/
def extendInputs (inputs : List ResponseInput) (call : FunctionCall)
    (output : ParticipantToolOutput) : Except AdapterError (List ResponseInput) := do
  let item ← (functionCallInput call.callId call.name call.arguments).mapError .valueError
  let answer ← (functionCallOutput call.callId (PyStr.ofString output.text)).mapError .valueError
  return inputs ++ [.call item, .output answer]

/-- The passes that are left. -/
def actionLoop (view : ParticipantView) :
    Nat → List ResponseInput → AdapterProcess ParticipantIntent
  | 0, _ => throw (.adapter .channelFailure)
  | n + 1, inputs => do
    adapter.requireToolBudget
    adapter.requireRequestBudget
    let requestId ← ofJournal (ask adapter.requestIdFactory)
    let request ← Process.ofExcept ((responsesRequest adapter.requestedModelRoute inputs
      adapter.toolDefinitions adapter.reasoningEffort adapter.serviceTier true
      adapter.tokenClaim).mapError .valueError)
    match ← tryCatch (adapter.converse view requestId request) fun e =>
      throw (raiseAdapterError e) with
    | .inl intent => return intent
    | .inr (call, output) => do
      let inputs ← Process.ofExcept (extendInputs inputs call output)
      actionLoop view n inputs

variable [ViewText]

def nextIntent (view : ParticipantView) : AdapterProcess ParticipantIntent := do
  Process.ofExcept (raiseIf
    (view.actorId ≠ adapter.actorId ∨ view.runId ≠ adapter.journal.header.runId)
    (.adapter .actorMismatch))
  let developer ← Process.ofExcept
    ((inputMessage .developer (PyStr.ofString adapter.instruction)).mapError .valueError)
  let user ← Process.ofExcept
    ((inputMessage .user (PyStr.ofString (ViewText.viewText view))).mapError .valueError)
  adapter.actionLoop view adapter.maximumRequestsPerAction [.message developer, .message user]

end Exchange

end ResponsesParticipantAdapter

end EdaGym
