import EdaGym.Guest.Launch

/-!
# The guest agent

One loop reads requests; one goroutine runs the command of the accepted launch. They meet at the
mutex of the invocation, and every step below is what one of them does between two such points.
-/

namespace EdaGym

/-! ### Streams -/

structure BoundedBuffer where
  limit : Int
  buffer : Bytes := []
  overflow : Bool := false

/-- `boundedBuffer.Write`. -/
def BoundedBuffer.write (w : BoundedBuffer) (content : Bytes) : BoundedBuffer :=
  let remaining := w.limit - w.buffer.length
  { w with
    buffer := if 0 < remaining then w.buffer ++ content.take remaining.toNat else w.buffer
    overflow := w.overflow || decide (remaining < content.length) }

def streamLimit (request : LaunchRequest) : Int :=
  if request.outputLimitBytes / 4 < 4096 then 4096 else request.outputLimitBytes / 4

/-! ### Replies -/

inductive ResultState
  | completed | failed | timedOut | cancelled
deriving DecidableEq, Repr

inductive ResultFailure
  | candidate | timeout | cancelled
deriving DecidableEq, Repr

def ResultState.value : ResultState → String
  | .completed => "completed"
  | .failed => "failed"
  | .timedOut => "timed_out"
  | .cancelled => "cancelled"

def ResultFailure.value : ResultFailure → String
  | .candidate => "candidate"
  | .timeout => "timeout"
  | .cancelled => "cancelled"

structure GuestOutput where
  logicalId : String
  blob : InlineBlob
deriving DecidableEq

structure ResultReply where
  invocationId : String
  invocationDigest : String
  requestDigest : String
  environmentDigest : String
  state : ResultState
  exitCode : Int
  failure : Option ResultFailure
  stdout : InlineBlob
  stderr : InlineBlob
  outputs : List GuestOutput
deriving DecidableEq

inductive GuestReply
  | accepted (invocationId invocationDigest requestDigest : String)
  | running (invocationId invocationDigest requestDigest : String)
  | result (reply : ResultReply)
deriving DecidableEq

structure ControlRequest where
  kind : String
  schemaVersion : Int
  invocationId : String
  invocationDigest : String

/-- What is read from a frame, and what is written to one. -/
class GuestCodec where
  /-- The kind of an envelope. -/
  unmarshalKind : Bytes → Option String
  decodeLaunch : Bytes → Option LaunchRequest
  /-- `strictDecode` of a control request. -/
  decodeControl : Bytes → Option ControlRequest
  marshal : GuestReply → Bytes

/-- `sendFrame`: a reply that does not fit is not sent. -/
def sendFrame [GuestCodec] (reply : GuestReply) : Option GuestReply :=
  if GuestCodec.marshal reply = [] ∨ (GuestCodec.marshal reply).length > FRAME_LIMIT then none
  else some reply

/-! ### The command -/

/-- A process is alive, was sent SIGKILL, or has ended with an exit code; a signal's is -1. -/
inductive ProcessStatus
  | alive
  | killed
  | exited (code : Int)
deriving DecidableEq

/-- `syscall.Kill(-pid, syscall.SIGKILL)`. -/
def ProcessStatus.kill : ProcessStatus → ProcessStatus
  | .alive => .killed
  | status => status

structure GuestCommand where
  process : Option ProcessStatus := none
  stdout : BoundedBuffer
  stderr : BoundedBuffer

/-- Where `execute` is. -/
inductive ExecutePhase
  | preparing
  /-- After the first critical section, which has read the flag. -/
  | starting (cancelledBeforeStart : Bool)
  | waiting
  /-- After the deadline, until the command is reaped. -/
  | draining
  | waited (started timedOut : Bool)
  /-- After the second critical section. -/
  | building (result : ResultReply)
  | finished
deriving DecidableEq

structure GuestInvocation where
  request : LaunchRequest
  command : Option GuestCommand := none
  result : Option ResultReply := none
  cancelled : Bool := false
  phase : ExecutePhase := .preparing

def GuestInvocation.process (i : GuestInvocation) : Option ProcessStatus :=
  i.command.bind GuestCommand.process

def GuestInvocation.setProcess (i : GuestInvocation) (status : ProcessStatus) : GuestInvocation :=
  { i with command := i.command.map fun c => { c with process := some status } }

def GuestInvocation.kill (i : GuestInvocation) : GuestInvocation :=
  match i.process with
  | none => i
  | some status => i.setProcess status.kill

/-! ### The result -/

section Result

variable [StoreCrypto] [Base64]

def makeBlob (content : Bytes) : InlineBlob :=
  ⟨sha256 content, content.length, Base64.encodeToString content⟩

/-- `ProcessState.ExitCode`, brought into the range of a reply. -/
def replyExitCode (code : Int) : Int := if code < 0 ∨ code > 255 then 1 else code

/-- The state, exit code and failure that `execute` decides on. -/
def verdict (cancelled timedOut started : Bool) (code : Int) (stdout stderr : BoundedBuffer) :
    ResultState × Int × Option ResultFailure :=
  if cancelled then (.cancelled, 143, some .cancelled)
  else if timedOut then (.timedOut, 137, some .timeout)
  else if started ∧ code = 0 ∧ stdout.overflow = false ∧ stderr.overflow = false then
    (.completed, 0, none)
  else if started then (.failed, replyExitCode code, some .candidate)
  else (.failed, 1, some .candidate)

/-- The result before outputs are read. -/
def GuestInvocation.conclude (i : GuestInvocation) (started timedOut : Bool) : ResultReply :=
  let stdout := (i.command.map GuestCommand.stdout).getD { limit := streamLimit i.request }
  let stderr := (i.command.map GuestCommand.stderr).getD { limit := streamLimit i.request }
  let code := match i.process with
    | some (.exited code) => code
    | _ => 0
  let decided := verdict i.cancelled timedOut started code stdout stderr
  { invocationId := i.request.plan.invocationId
    invocationDigest := i.request.invocationDigest
    requestDigest := i.request.requestDigest
    environmentDigest := i.request.environmentDigest
    state := decided.1
    exitCode := decided.2.1
    failure := decided.2.2
    stdout := makeBlob stdout.buffer
    stderr := makeBlob stderr.buffer
    outputs := [] }

/-- What `readOutput` finds at the path of a declaration. -/
inductive OutputFile
  /-- Nothing has the path, or the path of a parent. -/
  | absent
  | unavailable
  /-- No regular file with one link, or it changes while it is read. -/
  | irregular
  | file (content : Bytes)
deriving DecidableEq

def readOutput (found : OutputFile) (declaration : OutputDeclaration) (budget : Int) :
    Option (Option GuestOutput × Int) :=
  if validRelative declaration.path = false then none
  else match found with
    | .absent => if declaration.required then none else some (none, budget)
    | .unavailable => none
    | .irregular => none
    | .file content =>
      if content.length > budget then none
      else some (some ⟨declaration.logicalId, makeBlob content⟩, budget - content.length)

/-- The loop over the declared outputs. -/
def readOutputs (found : OutputDeclaration → OutputFile) (budget : Int) :
    List OutputDeclaration → Option (List GuestOutput)
  | [] => some []
  | declaration :: declarations =>
    match readOutput (found declaration) declaration budget with
    | none => none
    | some (output, budget) =>
      (readOutputs found budget declarations).map (output.toList ++ ·)

/-- What is stored as the result. -/
def GuestInvocation.withOutputs (i : GuestInvocation) (found : OutputDeclaration → OutputFile)
    (result : ResultReply) : ResultReply :=
  if result.state = .completed then
    match readOutputs found
        (i.request.outputLimitBytes - result.stdout.sizeBytes - result.stderr.sizeBytes)
        i.request.plan.outputs with
    | some outputs => { result with outputs }
    | none => { result with state := .failed, exitCode := 1, failure := some .candidate
                            outputs := [] }
  else result

/-! ### Steps of the goroutine -/

/-- What happens next: a frame arrives, `execute` goes on, or the command does something. -/
inductive GuestAction
  | frame (content : Bytes)
  /-- Up to the end of the first critical section. -/
  | prepare
  /-- `command.Start`, if it is called. -/
  | start (succeeds : Bool)
  | writeStdout (content : Bytes)
  | writeStderr (content : Bytes)
  | exit (code : Int)
  /-- The timer fires. -/
  | deadline
  /-- `command.Wait` has returned. -/
  | reap
  /-- The second critical section and the verdict. -/
  | conclude
  /-- The outputs and the third critical section. -/
  | store (found : OutputDeclaration → OutputFile)

def GuestInvocation.prepare (trusted : Bool) (i : GuestInvocation) : GuestInvocation :=
  if trusted then
    { i with
      command := some
        { stdout := { limit := streamLimit i.request }
          stderr := { limit := streamLimit i.request } }
      phase := .starting i.cancelled }
  else { i with phase := .finished }

/-- The next state of the invocation and the number of commands that were started. -/
def GuestInvocation.step (trusted : Bool) (i : GuestInvocation) :
    GuestAction → Option (GuestInvocation × Nat)
  | .frame _ => none
  | .prepare => if i.phase = .preparing then some (i.prepare trusted, 0) else none
  | .start succeeds =>
    match i.phase with
    | .starting cancelledBeforeStart =>
      if cancelledBeforeStart = false ∧ succeeds = true then
        some ({ i.setProcess .alive with phase := .waiting }, 1)
      else some ({ i with phase := .waited false false }, 0)
    | _ => none
  | .writeStdout content =>
    if i.phase = .waiting ∨ i.phase = .draining then
      some ({ i with command := i.command.map fun c =>
        { c with stdout := c.stdout.write content } }, 0)
    else none
  | .writeStderr content =>
    if i.phase = .waiting ∨ i.phase = .draining then
      some ({ i with command := i.command.map fun c =>
        { c with stderr := c.stderr.write content } }, 0)
    else none
  | .exit code =>
    if i.process = some .alive ∨ i.process = some .killed then some (i.setProcess (.exited code), 0)
    else none
  | .deadline =>
    if i.phase = .waiting then some ({ i.kill with phase := .draining }, 0) else none
  | .reap =>
    match i.process, i.phase with
    | some (.exited _), .waiting => some ({ i with phase := .waited true false }, 0)
    | some (.exited _), .draining => some ({ i with phase := .waited true true }, 0)
    | _, _ => none
  | .conclude =>
    match i.phase with
    | .waited started timedOut =>
      some ({ i with phase := .building (i.conclude started timedOut) }, 0)
    | _ => none
  | .store found =>
    match i.phase with
    | .building result =>
      some ({ i with result := some (i.withOutputs found result), phase := .finished }, 0)
    | _ => none

/-! ### The request loop -/

structure Guest (φ : Type) where
  files : φ
  current : Option GuestInvocation := none
  /-- How many commands were started so far. -/
  starts : Nat := 0

variable {φ : Type} [GuestFileSystem φ] [GuestCodec]

def isTrusted (files : φ) (executable : String) : Bool :=
  (GuestFileSystem.trustedExecutable files executable).isSome

/-- A launch that may be transferred. -/
def launchOf (files : φ) (content : Bytes) : Option LaunchRequest :=
  (GuestCodec.decodeLaunch content).filter fun request =>
    validLaunch (isTrusted files request.plan.executable) request

def Guest.handleLaunch (s : Guest φ) (content : Bytes) : Guest φ × Option GuestReply :=
  match s.current with
  | some _ => (s, none)
  | none =>
    match launchOf s.files content with
    | none => (s, none)
    | some request =>
      match performAll s.files (transferSteps request) with
      | (false, files) => ({ s with files }, none)
      | (true, files) =>
        ({ s with files, current := some { request } },
          sendFrame (.accepted request.plan.invocationId request.invocationDigest
            request.requestDigest))

/-- A control request for the invocation. -/
def GuestInvocation.controlOf (i : GuestInvocation) (content : Bytes) : Option ControlRequest :=
  (GuestCodec.decodeControl content).filter fun control =>
    control.schemaVersion = 1 ∧ control.invocationId = i.request.plan.invocationId ∧
      control.invocationDigest = i.request.invocationDigest

/-- The critical section of a control request. -/
def GuestInvocation.control (i : GuestInvocation) (request : ControlRequest) : GuestInvocation :=
  if request.kind = "cancel" ∧ i.result = none then { i with cancelled := true }.kill else i

def Guest.handleControl (s : Guest φ) (content : Bytes) : Guest φ × Option GuestReply :=
  match s.current with
  | none => (s, none)
  | some i =>
    match i.controlOf content with
    | none => (s, none)
    | some request =>
      let i := i.control request
      ({ s with current := some i },
        match i.result with
        | none => sendFrame (.running request.invocationId request.invocationDigest
            i.request.requestDigest)
        | some result => sendFrame (.result result))

/-- One turn of the loop of `main`, and the reply. -/
def Guest.handleFrame (s : Guest φ) (content : Bytes) : Guest φ × Option GuestReply :=
  match GuestCodec.unmarshalKind content with
  | some "launch" => s.handleLaunch content
  | some "status" => s.handleControl content
  | some "cancel" => s.handleControl content
  | _ => (s, none)

def Guest.step (s : Guest φ) : GuestAction → Except Unit (Guest φ)
  | .frame content => .ok (s.handleFrame content).1
  | action =>
    match s.current with
    | none => .error ()
    | some i =>
      match i.step (isTrusted s.files i.request.plan.executable) action with
      | none => .error ()
      | some (i, started) => .ok { s with current := some i, starts := s.starts + started }

end Result

end EdaGym
