import EdaGym.Artifacts.Checkpoints
import EdaGym.Participants.View
import EdaGym.Providers.ResponsesRequest
import EdaGym.Providers.ToolExecution

/-!
# Tools of a participant

The tools that a Responses participant may call: reading and replacing a file of its private
workspace, running an operation, and taking a checkpoint. What a tool returns is bounded, and a tool
that is refused leaves an exception of its own kind.
-/

namespace EdaGym

open Process hiding ofExcept

/-- The exceptions of an adapter and of its tools, as far as a handler tells them apart. -/
inductive AdapterError
  | adapter (kind : ParticipantFailureKind)
  | budgetOverrun
  | valueError (message : String)
  | osError (message : String)
  | run (e : RunError)
  | other
deriving DecidableEq, Repr

/-- The UTF-8 encoding, unless the text has a lone surrogate. -/
def PyStr.encode? (s : PyStr) : Option ByteArray := s.toString?.map String.toUTF8

variable [Canonical]

/-! ### The workspace -/

local instance byteArrayEq : DecidableEq ByteArray := ByteArray.instDecidableEq

/-- What a name of the workspace stands for. A directory is private when it belongs to the process
and nobody else may use it. -/
inductive WorkspaceNode
  | directory (isPrivate : Bool)
  | file (content : ByteArray) (mine : Bool) (links : Nat)
  | other
deriving DecidableEq

/-- A file of one name that belongs to the process. -/
def WorkspaceNode.isPrivateFile : WorkspaceNode → Bool
  | .file _ mine links => mine && links = 1
  | _ => false

/-- The nodes by the parts of their paths; the workspace itself has no part. -/
abbrev Workspace := List String → Option WorkspaceNode

/-- How the disk ends a replacement that was not refused. -/
inductive WriteFate
  | replaced | failed | unconfirmed
deriving DecidableEq, Repr

structure WorkspaceDisk where
  readFails : Nat → Bool
  writeFate : Nat → WriteFate

/-- What a tool reads and changes. -/
structure ToolWorld where
  run : RunDesk
  workspace : Workspace

abbrev WorldProcess (α : Type) := Process ToolWorld AdapterError α

namespace ToolWorld

def inquire {α : Type} (answer : Nat → α) : WorldProcess α := fun w =>
  (.ok (answer w.run.tick), { w with run := { w.run with tick := w.run.tick + 1 } })

def lookup (path : List String) : WorldProcess (Option WorkspaceNode) := fun w =>
  (.ok (w.workspace path), w)

def place (path : List String) (node : WorkspaceNode) : WorldProcess PUnit :=
  alter fun w => { w with workspace := fun p => if p = path then some node else w.workspace p }

/-- Raise unless `path` is a private directory. -/
def requirePrivate (path : List String) (message : String) : WorldProcess PUnit := do
  let node ← lookup path
  Process.ofExcept (raiseIf (node ≠ some (.directory true)) (.osError message))

/-- `with suppress(FileExistsError): os.mkdir(path, mode=0o700)`. -/
def makeDirectory (path : List String) : WorldProcess PUnit := do
  let node ← lookup path
  if node = none then place path (.directory true) else pure ⟨⟩

end ToolWorld

open ToolWorld

def MAX_FILE_BYTES : Nat := 1024 * 1024

def MAX_ARGUMENT_BYTES : Nat := 256 * 1024

def MAX_RESULT_BYTES : Nat := 1024 * 1024

def relativePath (value : String) : Except AdapterError String := do
  raiseIf (value = "" ∨ isAbsolutePath value = true ∨
      (∃ part ∈ posixParts value, part ∈ ["", ".", ".."]) ∨ Char.ofNat 0 ∈ value.toList ∨
      1024 < value.utf8ByteSize)
    (.valueError "workspace paths must be normalized relative POSIX paths")
  return asPosix (posixParts value)

/-- The paths a workspace tool is allowed to use. -/
structure AllowedPaths where
  paths : List String
  paths_ne : paths ≠ []
  paths_nodup : paths.Nodup
  normal : ∀ path ∈ paths, asPosix (posixParts path) = path

/-- Open the directory that holds the last of some parts. -/
def openParent (create : Bool) (opened : List String) : List String → WorldProcess PUnit
  | [] => throw .other
  | [_] => pure ⟨⟩
  | part :: part' :: rest => do
    let path := opened ++ [part]
    if create then makeDirectory path
    requirePrivate path "participant workspace subtree is not private"
    openParent create path (part' :: rest)

def openWorkspace : WorldProcess PUnit := requirePrivate [] "participant workspace is not private"

section Files

variable (disk : WorkspaceDisk)

def readWorkspaceFile (path : String) : WorldProcess ByteArray := do
  openWorkspace
  let relative ← Process.ofExcept (relativePath path)
  let parts := posixParts relative
  openParent false [] parts
  let fails ← inquire disk.readFails
  Process.ofExcept (raiseIf (fails = true) (.osError "Input/output error"))
  match ← lookup parts with
  | some (.file content mine links) => do
    Process.ofExcept (raiseIf (mine = false ∨ links ≠ 1 ∨ MAX_FILE_BYTES < content.size)
      (.osError "workspace file is not a bounded private regular file"))
    return content
  | _ => throw (.osError "workspace file is not a bounded private regular file")

def replaceWorkspaceFile (path : String) (content : ByteArray) : WorldProcess PUnit := do
  Process.ofExcept (raiseIf (MAX_FILE_BYTES < content.size)
    (.valueError "workspace file exceeds the write bound"))
  openWorkspace
  let relative ← Process.ofExcept (relativePath path)
  let parts := posixParts relative
  openParent true [] parts
  let target ← lookup parts
  Process.ofExcept (raiseIf (∃ node ∈ target, node.isPrivateFile = false)
    (.osError "workspace write target is not a private regular file"))
  match ← inquire disk.writeFate with
  | .replaced => place parts (.file content true 1)
  | .failed => throw (.osError "workspace file write made no progress")
  | .unconfirmed => do
    place parts (.file content true 1)
    throw (.osError "Input/output error")

end Files

/-! ### Results -/

/-- A confidential tool result that continues the conversation. -/
structure ParticipantToolOutput where
  text : String
  artifactRefs : List Identifier
  text_bound : text ≠ "" ∧ text.utf8ByteSize ≤ 1000000
  refs_sorted : artifactRefs.Pairwise (· < ·)

/-- `ParticipantToolResult(output=text, artifact_refs=artifactRefs)`. -/
def participantToolResult (text : String) (artifactRefs : List String) :
    Except AdapterError ParticipantToolOutput :=
  if htext : text ≠ "" ∧ text.utf8ByteSize ≤ 1000000 then
    if ∀ reference ∈ artifactRefs, isIdentifier reference = true then
      if hrefs : artifactRefs.Nodup then
        .ok ⟨text, sortedStrings artifactRefs, htext, sortedStrings_pairwise hrefs⟩
      else .error (.valueError "participant tool artifact references must be unique")
    else .error (.valueError "participant tool artifact references are invalid")
  else .error (.valueError "participant tool output must be bounded and non-empty")

omit [Canonical] in
lemma participantToolResult_text {text : String} {artifactRefs : List String}
    {output : ParticipantToolOutput} (h : participantToolResult text artifactRefs = .ok output) :
    output.text = text := by
  unfold participantToolResult at h
  split_ifs at h
  cases h
  rfl

omit [Canonical] in
/-- What a tool returns can be an item of the next request. -/
lemma ParticipantToolOutput.isBounded (output : ParticipantToolOutput) :
    (PyStr.ofString output.text).IsBounded 1000000 :=
  PyStr.isBounded_of_size output.text_bound.1 output.text_bound.2

/-- A trusted observation for the participant. -/
structure ToolObservation where
  outcome : ToolObservationOutcome
  summary : String
  artifactRefs : List String := []
  summary_bound : summary ≠ "" ∧ summary.utf8ByteSize ≤ MAX_RESULT_BYTES
  refs_nodup : artifactRefs.Nodup := by simp

def ToolObservationOutcome.value : ToolObservationOutcome → String
  | .passed => "passed"
  | .candidateFailure => "candidate_failure"
  | .timeout => "timeout"
  | .licenseUnavailable => "license_unavailable"
  | .infrastructureFailure => "infrastructure_failure"
  | .securityViolation => "security_violation"

def ToolObservation.participantText (observation : ToolObservation) : String :=
  String.ofList (AsciiJson.record [
    ("artifact_refs", .list (observation.artifactRefs.map AsciiJson.ofString)),
    ("outcome", AsciiJson.ofString observation.outcome.value),
    ("summary", AsciiJson.ofString observation.summary)]).chars

/-! ### The tools -/

/-- `except (OSError, ValueError): raise ParticipantAdapterError(CHANNEL_FAILURE)`. -/
def orChannelFailure {α : Type} (p : WorldProcess α) : WorldProcess α :=
  tryCatch p fun
    | .osError _ | .valueError _ => throw (.adapter .channelFailure)
    | e => throw e

/-- `except Exception: raise ParticipantAdapterError(CHANNEL_FAILURE)`, an adapter error apart. -/
def guardOutside {α : Type} (p : WorldProcess α) : WorldProcess α :=
  tryCatch p fun
    | .adapter kind => throw (.adapter kind)
    | _ => throw (.adapter .channelFailure)

/-- The operations that the EDA tool may run, and who runs them. -/
structure ToolBridge where
  operationIds : List String
  invoke : String → ParticipantView → WorldProcess ToolObservation
  operationIds_ne : operationIds ≠ []
  operationIds_nodup : operationIds.Nodup

inductive ParticipantTool
  | read (paths : AllowedPaths)
  | write (paths : AllowedPaths)
  | eda (bridge : ToolBridge)
  | checkpoint (callback : PyStr → WorldProcess ToolObservation)

def WORKSPACE_READ_PARTICIPANT_TOOL_NAME : String := "edagym_read_file"

def WORKSPACE_WRITE_PARTICIPANT_TOOL_NAME : String := "edagym_write_file"

def CHECKPOINT_PARTICIPANT_TOOL_NAME : String := "edagym_checkpoint"

def COMMIT_INTENT_PARTICIPANT_TOOL_NAME : String := "edagym_commit_intent"

namespace ParticipantTool

def definition : ParticipantTool → FunctionTool
  | read paths => {
      name := WORKSPACE_READ_PARTICIPANT_TOOL_NAME
      description := "Read one allowlisted text file from the isolated task workspace."
      parameters := [
        { name := "path", kind := .string, description := "The workspace-relative file name."
          choices := paths.paths, choices_nodup := paths.paths_nodup, choices_string := by simp }]
      names_nodup := by simp }
  | write paths => {
      name := WORKSPACE_WRITE_PARTICIPANT_TOOL_NAME
      description := "Atomically write one allowlisted text file in the isolated workspace."
      parameters := [
        { name := "path", kind := .string, description := "The workspace-relative file name."
          choices := paths.paths, choices_nodup := paths.paths_nodup, choices_string := by simp },
        { name := "content", kind := .string
          description := "The complete UTF-8 replacement content." }]
      names_nodup := by simp }
  | eda bridge => {
      name := EXECUTOR_PARTICIPANT_TOOL_NAME
      description :=
        "Run one immutable task operation through the isolated EdaGym executor. The operation " ++
        "owns its tool, arguments, inputs, and outputs."
      parameters := [
        { name := "operation_id", kind := .string
          description := "The immutable task operation identifier."
          choices := sortedStrings bridge.operationIds
          choices_nodup :=
            (sortedStrings_perm bridge.operationIds).nodup_iff.mpr bridge.operationIds_nodup
          choices_string := by simp }]
      names_nodup := by simp }
  | checkpoint _ => {
      name := CHECKPOINT_PARTICIPANT_TOOL_NAME
      description := "Commit the current task workspace as a named durable checkpoint."
      parameters := [
        { name := "checkpoint_id", kind := .string
          description := "A stable lower-case checkpoint identifier." }]
      names_nodup := by simp }

end ParticipantTool

/-! ### Arguments -/

/-- A checkpoint identifier of letters, digits and underscores, without a capital. -/
def IsCheckpointId (s : PyStr) : Prop :=
  s.IsBounded 64 ∧ (∃ n ∈ s.codePoints, n ≠ 0x5f) ∧
    ∀ n ∈ s.codePoints, (0x61 ≤ n ∧ n ≤ 0x7a) ∨ (0x30 ≤ n ∧ n ≤ 0x39) ∨ n = 0x5f

instance (s : PyStr) : Decidable (IsCheckpointId s) :=
  inferInstanceAs (Decidable (_ ∧ (∃ n ∈ s.codePoints, _) ∧ ∀ n ∈ s.codePoints, _))

section Invocation

variable [TextRuntime] (disk : WorkspaceDisk)

def decodeExactObject (arguments : PyStr) (keys : List String) :
    Except AdapterError (List (PyStr × Json)) := do
  raiseIf (arguments.codePoints = []) (.adapter .responseBound)
  let encoded ← orRaise arguments.encode? (.valueError "UnicodeEncodeError")
  raiseIf (MAX_ARGUMENT_BYTES < encoded.size) (.adapter .responseBound)
  match TextRuntime.loadsText arguments with
  | .ok (.obj members) => do
    raiseIf (¬ SameSet (members.map Prod.fst) (keys.map PyStr.ofString)) (.adapter .invalidIntent)
    return members
  | .error .other => .error .other
  | _ => .error (.adapter .invalidIntent)

/-- The string member `name`, if it is one of the `choices`. -/
def chosenMember (members : List (PyStr × Json)) (name : String) (choices : List String) :
    Except AdapterError String :=
  orRaise ((getMember members name .null).text?.bind fun value =>
    choices.find? fun choice => PyStr.ofString choice = value) (.adapter .invalidIntent)

def readFile (paths : AllowedPaths) (arguments : PyStr) : WorldProcess ParticipantToolOutput := do
  let members ← Process.ofExcept (decodeExactObject arguments ["path"])
  let path ← Process.ofExcept (chosenMember members "path" paths.paths)
  let text ← orChannelFailure do
    let content ← readWorkspaceFile disk path
    Process.ofExcept (orRaise (String.fromUTF8? content) (.valueError "UnicodeDecodeError"))
  Process.ofExcept (participantToolResult (if text = "" then "<empty>" else text) [])

def writeFile (paths : AllowedPaths) (arguments : PyStr) : WorldProcess ParticipantToolOutput := do
  let members ← Process.ofExcept (decodeExactObject arguments ["content", "path"])
  let path ← Process.ofExcept (chosenMember members "path" paths.paths)
  let content ← Process.ofExcept (orRaise (getMember members "content" .null).text?
    (.adapter .invalidIntent))
  let encoded ← Process.ofExcept (orRaise content.encode? (.valueError "UnicodeEncodeError"))
  Process.ofExcept (raiseIf (MAX_FILE_BYTES < encoded.size) (.adapter .invalidIntent))
  orChannelFailure (replaceWorkspaceFile disk path encoded)
  Process.ofExcept (participantToolResult ("wrote " ++ toString encoded.size ++ " bytes") [])

def runOperation (bridge : ToolBridge) (arguments : PyStr) (view : ParticipantView) :
    WorldProcess ParticipantToolOutput := do
  let members ← Process.ofExcept (decodeExactObject arguments ["operation_id"])
  let operationId ← Process.ofExcept (chosenMember members "operation_id"
    (sortedStrings bridge.operationIds))
  let observation ← guardOutside (bridge.invoke operationId view)
  Process.ofExcept (participantToolResult observation.participantText observation.artifactRefs)

def takeCheckpoint (callback : PyStr → WorldProcess ToolObservation) (arguments : PyStr) :
    WorldProcess ParticipantToolOutput := do
  let members ← Process.ofExcept (decodeExactObject arguments ["checkpoint_id"])
  let checkpointId ← Process.ofExcept (orRaise (getMember members "checkpoint_id" .null).text?
    (.adapter .invalidIntent))
  Process.ofExcept (raiseIf (¬ IsCheckpointId checkpointId) (.adapter .invalidIntent))
  let observation ← guardOutside (callback checkpointId)
  Process.ofExcept (participantToolResult observation.participantText observation.artifactRefs)

/-- `tool.invoke(arguments, view)`. -/
def ParticipantTool.invoke (tool : ParticipantTool) (arguments : PyStr) (view : ParticipantView) :
    WorldProcess ParticipantToolOutput :=
  match tool with
  | .read paths => readFile disk paths arguments
  | .write paths => writeFile disk paths arguments
  | .eda bridge => runOperation bridge arguments view
  | .checkpoint callback => takeCheckpoint callback arguments

end Invocation

/-! ### What reading and writing do to the workspace -/

section Effects

variable {disk : WorkspaceDisk} {w w' : ToolWorld}

/-- What is there stays as it is. -/
def KeepsNodes (w w' : ToolWorld) : Prop :=
  ∀ path, w.workspace path ≠ none → w'.workspace path = w.workspace path

lemma exec_inquire_ok {α : Type} {answer : Nat → α} {a : α}
    (h : (inquire answer).exec w = (.ok a, w')) : w'.workspace = w.workspace := by
  cases h
  rfl

variable {u : PUnit}

lemma exec_requirePrivate_ok {path : List String} {message : String}
    (h : (requirePrivate path message).exec w = (.ok u, w')) :
    w' = w ∧ w.workspace path = some (.directory true) := by
  rw [requirePrivate, exec_bind_eq_ok] at h
  obtain ⟨node, m, hnode, h⟩ := h
  cases hnode
  simp only [exec_ofExcept, Prod.mk.injEq, raiseIf_eq_ok, not_not] at h
  exact ⟨h.2.symm, h.1⟩

lemma exec_makeDirectory_ok {path : List String}
    (h : (makeDirectory path).exec w = (.ok u, w')) : KeepsNodes w w' := by
  rw [makeDirectory, exec_bind_eq_ok] at h
  obtain ⟨node, m, hnode, h⟩ := h
  cases hnode
  split_ifs at h with habsent
  · cases h
    intro q hq
    have hne : q ≠ path := by
      rintro rfl
      exact hq habsent
    exact if_neg hne
  · cases h
    exact fun _ _ => rfl

lemma exec_openParent_read_ok {opened parts : List String}
    (h : (openParent false opened parts).exec w = (.ok u, w')) : w' = w := by
  induction parts generalizing opened with
  | nil => cases h
  | cons part rest ih =>
    cases rest with
    | nil =>
      cases h
      rfl
    | cons part' rest =>
      simp only [openParent, Bool.false_eq_true, if_false, exec_bind_eq_ok] at h
      obtain ⟨_, m, hprivate, hrest⟩ := h
      obtain ⟨rfl, -⟩ := exec_requirePrivate_ok hprivate
      exact ih hrest

lemma exec_openParent_write_ok {opened parts : List String}
    (h : (openParent true opened parts).exec w = (.ok u, w')) : KeepsNodes w w' := by
  induction parts generalizing opened w with
  | nil => cases h
  | cons part rest ih =>
    cases rest with
    | nil =>
      cases h
      exact fun _ _ => rfl
    | cons part' rest =>
      simp only [openParent, if_true, exec_bind_eq_ok] at h
      obtain ⟨_, m, hmake, _, m', hprivate, hrest⟩ := h
      obtain ⟨rfl, -⟩ := exec_requirePrivate_ok hprivate
      intro q hq
      have hmade := exec_makeDirectory_ok hmake q hq
      rw [ih hrest q (by rwa [hmade]), hmade]

lemma exec_orChannelFailure_ok {α : Type} {p : WorldProcess α} {a : α}
    (h : (orChannelFailure p).exec w = (.ok a, w')) : p.exec w = (.ok a, w') := by
  obtain ⟨x, m, hp⟩ : ∃ x m, p.exec w = (x, m) := ⟨_, _, rfl⟩
  cases x with
  | ok b => rwa [orChannelFailure, exec_tryCatch_ok hp, ← hp] at h
  | error e =>
    rw [orChannelFailure, exec_tryCatch_error hp] at h
    cases e <;> cases h

omit [Canonical] in
/-- The parts of an allowed path, normalised once more. -/
lemma posixParts_relativePath {path relative : String} (h : relativePath path = .ok relative) :
    posixParts relative = posixParts path := by
  simp only [relativePath, raiseIf_bind_eq_ok, pure_eq_ok] at h
  rw [← h.2, posixParts_asPosix fun part => isPart_of_mem_posixParts]

lemma exec_readWorkspaceFile_ok {path : String} {content : ByteArray}
    (h : (readWorkspaceFile disk path).exec w = (.ok content, w')) :
    w'.workspace = w.workspace ∧
      ∃ mine links, w.workspace (posixParts path) = some (.file content mine links) := by
  simp only [readWorkspaceFile, openWorkspace, exec_bind_eq_ok] at h
  obtain ⟨_, m₁, hopen, relative, m₂, hrelative, _, m₃, hparent, fails, m₄, hask, _, m₅, hfails,
    node, m₆, hnode, h⟩ := h
  obtain ⟨rfl, -⟩ := exec_requirePrivate_ok hopen
  simp only [exec_ofExcept, Prod.mk.injEq] at hrelative hfails
  obtain ⟨hrelative, rfl⟩ := hrelative
  obtain rfl := exec_openParent_read_ok hparent
  have hsame := exec_inquire_ok hask
  obtain ⟨-, rfl⟩ := hfails
  cases hnode
  rw [posixParts_relativePath hrelative, hsame] at h
  split at h
  · next bytes mine links hfile =>
    rw [exec_bind_eq_ok] at h
    obtain ⟨_, m₇, hguard, h⟩ := h
    cases h
    simp only [exec_ofExcept, Prod.mk.injEq] at hguard
    obtain ⟨-, rfl⟩ := hguard
    exact ⟨hsame, mine, links, hfile⟩
  · cases h

lemma exec_replaceWorkspaceFile_ok {path : String} {content : ByteArray}
    (h : (replaceWorkspaceFile disk path content).exec w = (.ok u, w')) :
    w'.workspace (posixParts path) = some (.file content true 1) ∧
      ∀ q ≠ posixParts path, w.workspace q ≠ none → w'.workspace q = w.workspace q := by
  simp only [replaceWorkspaceFile, openWorkspace, exec_bind_eq_ok] at h
  obtain ⟨_, m₀, hsize, _, m₁, hopen, relative, m₂, hrelative, _, m₃, hparent, target, m₄, htarget,
    _, m₅, hguard, fate, m₆, hask, h⟩ := h
  simp only [exec_ofExcept, Prod.mk.injEq] at hsize hrelative hguard
  obtain ⟨-, rfl⟩ := hsize
  obtain ⟨rfl, -⟩ := exec_requirePrivate_ok hopen
  obtain ⟨hrelative, rfl⟩ := hrelative
  have hkeeps := exec_openParent_write_ok hparent
  cases htarget
  obtain ⟨-, rfl⟩ := hguard
  have hsame := exec_inquire_ok hask
  rw [posixParts_relativePath hrelative] at h
  cases fate with
  | replaced =>
    cases h
    refine ⟨if_pos rfl, ?_⟩
    intro q hne hq
    have hplaced : (if q = posixParts path then some (WorkspaceNode.file content true 1)
        else m₆.workspace q) = m₆.workspace q := if_neg hne
    exact hplaced.trans ((congrFun hsame q).trans (hkeeps q hq))
  | failed => cases h
  | unconfirmed => cases h

variable [TextRuntime] {paths : AllowedPaths} {arguments : PyStr} {output : ParticipantToolOutput}

/-- A read returns the text of its file, or the marker of an empty one. -/
lemma exec_readFile_ok (h : (readFile disk paths arguments).exec w = (.ok output, w')) :
    w'.workspace = w.workspace ∧ ∃ members path bytes mine links text,
      decodeExactObject arguments ["path"] = .ok members ∧
      chosenMember members "path" paths.paths = .ok path ∧
      w.workspace (posixParts path) = some (.file bytes mine links) ∧
      String.fromUTF8? bytes = some text ∧
      output.text = if text = "" then "<empty>" else text := by
  simp only [readFile, exec_bind_eq_ok, exec_ofExcept, Prod.mk.injEq] at h
  obtain ⟨members, _, ⟨hmembers, rfl⟩, path, _, ⟨hpath, rfl⟩, text, m, hread, hresult, rfl⟩ := h
  have hread := exec_orChannelFailure_ok hread
  simp only [exec_bind_eq_ok, exec_ofExcept, Prod.mk.injEq, orRaise_eq_ok] at hread
  obtain ⟨bytes, _, hbytes, htext, rfl⟩ := hread
  obtain ⟨hsame, mine, links, hfile⟩ := exec_readWorkspaceFile_ok hbytes
  exact ⟨hsame, members, path, bytes, mine, links, text, hmembers, hpath, hfile, htext,
    participantToolResult_text hresult⟩

/-- A write replaces its file by the encoded content and touches no other that was there. -/
lemma exec_writeFile_ok (h : (writeFile disk paths arguments).exec w = (.ok output, w')) :
    ∃ members path content encoded,
      decodeExactObject arguments ["content", "path"] = .ok members ∧
      chosenMember members "path" paths.paths = .ok path ∧
      (getMember members "content" .null).text? = some content ∧
      content.encode? = some encoded ∧
      w'.workspace (posixParts path) = some (.file encoded true 1) ∧
      ∀ q ≠ posixParts path, w.workspace q ≠ none → w'.workspace q = w.workspace q := by
  simp only [writeFile, exec_bind_eq_ok, exec_ofExcept, Prod.mk.injEq, orRaise_eq_ok] at h
  obtain ⟨members, _, ⟨hmembers, rfl⟩, path, _, ⟨hpath, rfl⟩, content, _, ⟨hcontent, rfl⟩, encoded,
    _, ⟨hencoded, rfl⟩, _, _, ⟨-, rfl⟩, _, m, hreplace, -, rfl⟩ := h
  obtain ⟨hplaced, hkept⟩ := exec_replaceWorkspaceFile_ok (exec_orChannelFailure_ok hreplace)
  exact ⟨members, path, content, encoded, hmembers, hpath, hcontent, hencoded, hplaced, hkept⟩

end Effects

end EdaGym
