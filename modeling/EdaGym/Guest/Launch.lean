import EdaGym.Artifacts.Checkpoints

/-!
# Launch requests of the guest agent

What a launch carries, the contract that it has to meet, and the steps by which its trees are
written into the guest. The file system itself is a parameter.
-/

namespace EdaGym

/-! ### Paths -/

/-- The parts that `filepath.Clean` keeps, in reverse. -/
def cleanParts (rooted : Bool) (kept : List String) : List String → List String
  | [] => kept
  | part :: parts =>
    if part = "" ∨ part = "." then cleanParts rooted kept parts
    else if part ≠ ".." then cleanParts rooted (part :: kept) parts
    else match kept with
      | [] => if rooted then cleanParts rooted [] parts else cleanParts rooted [".."] parts
      | last :: rest =>
        if last = ".." then cleanParts rooted (".." :: kept) parts else cleanParts rooted rest parts

def pathParts (path : String) : List String :=
  (slashParts [] path.toList).map String.ofList

/-- `filepath.Clean`. -/
def cleanPath (path : String) : String :=
  let parts := (cleanParts (isAbsolutePath path) [] (pathParts path)).reverse
  let joined := String.ofList (joinSlash (parts.map String.toList))
  if isAbsolutePath path then "/" ++ joined else if joined = "" then "." else joined

/-- `filepath.Join`. -/
def joinPath (parent child : String) : String := cleanPath (parent ++ "/" ++ child)

/-- `filepath.Dir` of a clean path. -/
def dirPath (path : String) : String :=
  cleanPath (String.ofList (joinSlash ((pathParts path).dropLast.map String.toList) ++ ['/']))

def GUEST_RUN_ROOT : String := "/edagym"

def FRAME_LIMIT : Nat := 64 * 1024 * 1024

def validTarget (target : String) : Bool :=
  "/".toList <+: target.toList ∧ target ≠ "/" ∧ cleanPath target = target ∧
    (GUEST_RUN_ROOT ++ "/").toList <+: target.toList ∧
    ∀ reserved ∈ ["/dev", "/proc", "/sys", "/run"],
      target ≠ reserved ∧ ¬ (reserved ++ "/").toList <+: target.toList

def validRelative (path : String) : Bool :=
  path ≠ "" ∧ path ≠ "." ∧ isAbsolutePath path = false ∧ cleanPath path = path ∧
    path ≠ ".." ∧ ¬ "../".toList <+: path.toList

/-! ### Requests -/

structure InlineBlob where
  digest : String
  sizeBytes : Int
  contentBase64 : String
deriving DecidableEq

structure TreeEntry where
  path : String
  kind : String
  mode : Nat
  blob : Option InlineBlob

structure TransferTree where
  target : String
  readonly : Bool
  rootIsFile : Bool
  rootMode : Nat
  rootBlob : Option InlineBlob
  entries : List TreeEntry

structure AssetTransfer where
  assetId : String
  restrictedDigest : String
  tree : TransferTree

structure EnvironmentEntry where
  name : String
  value : String

structure OutputDeclaration where
  logicalId : String
  path : String
  mediaType : String
  artifactClass : String
  required : Bool

/-- The fields of a plan that the guest reads. -/
structure InvocationPlan where
  invocationId : String
  driverDigest : String
  executable : String
  arguments : List String
  workingDirectory : String
  environment : List EnvironmentEntry
  inputManifestDigest : String
  /-- The number of its steps. -/
  recipe : Nat
  outputs : List OutputDeclaration

structure LaunchRequest where
  kind : String
  schemaVersion : Int
  plan : InvocationPlan
  invocationDigest : String
  environmentDigest : String
  workspace : TransferTree
  artifactTarget : String
  assets : List AssetTransfer
  wallSeconds : Int
  outputLimitBytes : Int
  requestDigest : String

/-! ### The contract -/

def identifierPattern (s : String) : Bool :=
  match s.toList with
  | [] => false
  | c :: cs => isLowerLetter c && isIdentifierTail cs

local instance everyChar (p : Char → Prop) [DecidablePred p] (l : List Char) :
    Decidable (∀ c ∈ l, p c) :=
  List.decidableBAll p l

/-- `^sha256:[0-9a-f]{64}$`. -/
def digestPattern (s : String) : Bool :=
  "sha256:".toList <+: s.toList ∧ s.toList.length = 71 ∧
    ∀ c ∈ s.toList.drop 7, '0' ≤ c ∧ c ≤ '9' ∨ 'a' ≤ c ∧ c ≤ 'f'

def isAlphanumeric (c : Char) : Bool :=
  'A' ≤ c && c ≤ 'Z' || isIdentifierChar c

/-- `^[A-Za-z0-9][A-Za-z0-9._+-]{0,127}$`. -/
def executablePattern (s : String) : Bool :=
  match s.toList with
  | [] => false
  | c :: cs => isAlphanumeric c && cs.length ≤ 127 &&
      cs.all fun c => isAlphanumeric c || c = '.' || c = '_' || c = '+' || c = '-'

/-- `^[A-Z][A-Z0-9_]{0,63}$`. -/
def environmentPattern (s : String) : Bool :=
  match s.toList with
  | [] => false
  | c :: cs => 'A' ≤ c && c ≤ 'Z' && cs.length ≤ 63 &&
      cs.all fun c => 'A' ≤ c && c ≤ 'Z' || '0' ≤ c && c ≤ '9' || c = '_'

/-- `strings.ContainsAny(value, "\x00\r\n")`. -/
def containsControl (value : String) : Bool :=
  value.toList.any fun c => c.toNat = 0 || c = '\r' || c = '\n'

def CREDENTIAL_MARKERS : List String :=
  ["AUTH", "CREDENTIAL", "KEY", "LICENSE", "PASS", "SECRET", "TOKEN"]

def validEnvironment (entry : EnvironmentEntry) : Bool :=
  environmentPattern entry.name ∧ containsControl entry.value = false ∧
    ∀ marker ∈ CREDENTIAL_MARKERS, ¬ marker.toList <:+: entry.name.toList

def validOutput (output : OutputDeclaration) : Bool :=
  identifierPattern output.logicalId ∧ validRelative output.path ∧ output.mediaType ≠ "" ∧
    (output.artifactClass = "diagnostic" ∨ output.artifactClass = "evidence")

def validAsset (asset : AssetTransfer) : Bool :=
  identifierPattern asset.assetId ∧ digestPattern asset.restrictedDigest ∧ asset.tree.readonly ∧
    asset.tree.target = joinPath (joinPath GUEST_RUN_ROOT "assets") asset.assetId

def validHeader (request : LaunchRequest) : Bool :=
  request.schemaVersion = 1 ∧ request.kind = "launch" ∧
    identifierPattern request.plan.invocationId ∧ digestPattern request.invocationDigest ∧
    digestPattern request.environmentDigest ∧ digestPattern request.plan.driverDigest ∧
    digestPattern request.plan.inputManifestDigest ∧ digestPattern request.requestDigest ∧
    executablePattern request.plan.executable ∧ 0 < request.wallSeconds ∧
    4096 ≤ request.outputLimitBytes ∧ request.outputLimitBytes ≤ FRAME_LIMIT ∧
    request.plan.recipe = 0 ∧
    (request.plan.workingDirectory = "." ∨ validRelative request.plan.workingDirectory)

/-- `validLaunch`, when the image trusts the executable or not. -/
def validLaunch (trusted : Bool) (request : LaunchRequest) : Bool :=
  validHeader request ∧
    request.workspace.target = joinPath GUEST_RUN_ROOT "workspace" ∧
    request.artifactTarget = joinPath GUEST_RUN_ROOT "artifacts" ∧
    request.workspace.readonly = false ∧ request.workspace.rootIsFile = false ∧
    (∀ asset ∈ request.assets, validAsset asset) ∧
    (request.assets.map AssetTransfer.assetId).Nodup ∧
    (∀ value ∈ request.plan.executable :: request.plan.arguments, containsControl value = false) ∧
    (∀ entry ∈ request.plan.environment, validEnvironment entry) ∧
    (request.plan.environment.map EnvironmentEntry.name).Nodup ∧
    (∀ output ∈ request.plan.outputs, validOutput output) ∧
    (request.plan.outputs.map OutputDeclaration.logicalId).Nodup ∧ trusted

/-! ### Transfer -/

/-- A call that the transfer makes, or a check that it fails. -/
inductive TransferStep
  | mkdirAll (path : String) (mode : Nat)
  /-- Every directory is tried, and one that cannot be made fails the step. -/
  | mkdirEach (paths : List String) (mode : Nat)
  | chmod (path : String) (mode : Nat)
  | writeFile (path : String) (content : Bytes) (mode : Nat)
  /-- The walk at the end of `materializeTree`. -/
  | makeReadonly (root : String)
  | grantWritableTree (root : String)
  | reject
deriving DecidableEq

/-- The directories above a target, from the top. -/
def targetParents (target : String) : List String :=
  let parts := (pathParts target).drop 1
  (List.range (parts.length - 1)).map fun k =>
    "/" ++ String.ofList (joinSlash ((parts.take (k + 1)).map String.toList))

def prepareTargetParents (target : String) : List TransferStep :=
  (targetParents target).flatMap fun parent => [.mkdirAll parent 0o755, .chmod parent 0o755]

/-- `base64.StdEncoding`: strict decoding, and encoding. -/
class Base64 where
  decodeString : String → Option Bytes
  encodeToString : Bytes → String

section Codec

variable [StoreCrypto] [Base64]

def decodeBlob (blob : InlineBlob) (maximum : Int) : Option Bytes :=
  if blob.sizeBytes < 0 ∨ blob.sizeBytes > maximum then none
  else match Base64.decodeString blob.contentBase64 with
    | none => none
    | some content =>
      if content.length ≠ blob.sizeBytes ∨ sha256 content ≠ blob.digest then none
      else if Base64.encodeToString content ≠ blob.contentBase64 then none
      else some content

/-- The loop of `materializeTree`, and the budget that it leaves. -/
def entrySteps (target : String) (seen : List String) (budget : Int) :
    List TreeEntry → List TransferStep × Int
  | [] => ([], budget)
  | entry :: entries =>
    if validRelative entry.path = false ∨ entry.path ∈ seen ∨
        entry.mode ≠ 0o600 ∧ entry.mode ≠ 0o700 then ([.reject], budget)
    else
      let destination := joinPath target entry.path
      match entry.kind, entry.blob with
      | "directory", none =>
        let (steps, budget) := entrySteps target (entry.path :: seen) budget entries
        (.mkdirAll destination 0o700 :: steps, budget)
      | "file", some blob =>
        match decodeBlob blob budget with
        | none => ([.reject], budget)
        | some content =>
          let (steps, budget) :=
            entrySteps target (entry.path :: seen) (budget - content.length) entries
          (.mkdirAll (dirPath destination) 0o700 :: .writeFile destination content entry.mode ::
            steps, budget)
      | _, _ => ([.reject], budget)

def rootFileSteps (tree : TransferTree) (budget : Int) : List TransferStep × Int :=
  match tree.rootBlob, tree.entries with
  | some blob, [] =>
    match decodeBlob blob budget with
    | none => ([.reject], budget)
    | some content =>
      ([.mkdirAll (dirPath tree.target) 0o700, .writeFile tree.target content tree.rootMode] ++
        if tree.readonly then
          [.chmod tree.target (if tree.rootMode &&& 0o100 ≠ 0 then 0o555 else 0o444)]
        else [], budget - content.length)
  | _, _ => ([.reject], budget)

def materializeTree (tree : TransferTree) (budget : Int) : List TransferStep × Int :=
  if validTarget tree.target = false ∨ tree.rootMode ≠ 0o600 ∧ tree.rootMode ≠ 0o700 then
    ([.reject], budget)
  else if tree.rootIsFile then
    let (steps, budget) := rootFileSteps tree budget
    (prepareTargetParents tree.target ++ steps, budget)
  else if tree.rootBlob ≠ none then (prepareTargetParents tree.target ++ [.reject], budget)
  else
    let (steps, budget) := entrySteps tree.target [] budget tree.entries
    (prepareTargetParents tree.target ++ .mkdirAll tree.target 0o700 :: steps ++
      if tree.readonly then [.makeReadonly tree.target] else [], budget)

def assetSteps (budget : Int) : List AssetTransfer → List TransferStep
  | [] => []
  | asset :: assets =>
    if asset.assetId = "" ∨ asset.tree.readonly = false then [.reject]
    else
      let (steps, budget) := materializeTree asset.tree budget
      steps ++ assetSteps budget assets

/-- What the request loop does for a valid launch before it accepts it. -/
def transferSteps (request : LaunchRequest) : List TransferStep :=
  let (steps, budget) := materializeTree request.workspace request.outputLimitBytes
  steps ++
    (if validTarget request.artifactTarget then
      prepareTargetParents request.artifactTarget ++ [.mkdirAll request.artifactTarget 0o700]
    else [.reject]) ++
    assetSteps budget request.assets ++
    [.mkdirEach ([".tmp", ".cache", ".config"].map (joinPath request.workspace.target)) 0o700,
      .grantWritableTree request.workspace.target, .grantWritableTree request.artifactTarget]

end Codec

/-! ### The file system of the guest -/

/-- The files of the guest, for the functions of `os` and `filepath`. Only `WriteFile` makes a file
or changes one. -/
class GuestFileSystem (φ : Type) where
  /-- Whether the call succeeds, and what it leaves. -/
  perform : TransferStep → φ → Bool × φ
  /-- What a file has in it. -/
  file : φ → String → Option Bytes
  /-- `trustedExecutable`. -/
  trustedExecutable : φ → String → Option String
  file_perform : ∀ step files, (∀ path content mode, step ≠ .writeFile path content mode) →
    file (perform step files).2 = file files

section Files

variable {φ : Type} [GuestFileSystem φ]

open GuestFileSystem

/-- Whether all steps succeed, and what they leave. -/
def performAll (files : φ) : List TransferStep → Bool × φ
  | [] => (true, files)
  | .reject :: _ => (false, files)
  | step :: steps =>
    match perform step files with
    | (true, files) => performAll files steps
    | (false, files) => (false, files)

/-- A file of the transfer was opened before it failed. -/
def OpensFile (files : φ) : List TransferStep → Prop
  | [] => False
  | .reject :: _ => False
  | .writeFile _ _ _ :: _ => True
  | step :: steps => (perform step files).1 = true ∧ OpensFile (perform step files).2 steps

lemma performAll_cons {step : TransferStep} (hreject : step ≠ .reject) (files : φ)
    (steps : List TransferStep) :
    performAll files (step :: steps) =
      if (perform step files).1 = true then performAll (perform step files).2 steps
      else (false, (perform step files).2) := by
  have hmatch : performAll files (step :: steps) = match perform step files with
      | (true, files) => performAll files steps
      | (false, files) => (false, files) := by
    cases step with
    | reject => exact absurd rfl hreject
    | _ => rfl
  rw [hmatch]
  obtain ⟨succeeds, files'⟩ := perform step files
  cases succeeds <;> rfl

lemma opensFile_cons {step : TransferStep} (hreject : step ≠ .reject)
    (hwrite : ∀ path content mode, step ≠ .writeFile path content mode) (files : φ)
    (steps : List TransferStep) :
    OpensFile files (step :: steps) ↔
      (perform step files).1 = true ∧ OpensFile (perform step files).2 steps := by
  cases step with
  | reject => exact absurd rfl hreject
  | writeFile path content mode => exact absurd rfl (hwrite path content mode)
  | _ => rfl

/-- Up to its first file a transfer makes directories only. -/
theorem file_performAll {files : φ} {steps : List TransferStep} (h : ¬ OpensFile files steps) :
    file (performAll files steps).2 = file files := by
  induction steps generalizing files with
  | nil => rfl
  | cons step steps ih =>
    by_cases hreject : step = .reject
    · rw [hreject]
      rfl
    have hwrite : ∀ path content mode, step ≠ .writeFile path content mode := by
      rintro path content mode rfl
      exact h trivial
    rw [opensFile_cons hreject hwrite] at h
    rw [performAll_cons hreject]
    split_ifs with hsucceeds
    · rw [ih fun hopens => h ⟨hsucceeds, hopens⟩, file_perform step files hwrite]
    · exact file_perform step files hwrite

end Files

end EdaGym
