import EdaGym.Policy.RepositoryState
import Mathlib.Logic.Function.Basic

/-!
# Repository audits

An audit collects findings, issues and what it covered. Each of its steps either covers its scopes
or records why it could not; the report passes when there is neither an issue nor a finding.
-/

namespace EdaGym

/-! ### Findings, issues and coverage -/

inductive AuditMode where
  | commit
  | release
deriving DecidableEq

inductive AuditStatus where
  | pass
  | violation
  | incomplete
  | error
deriving DecidableEq

inductive IssueScope where
  | repository
  | index
  | refs
  | reflogs
  | objectDatabase
  | gitLfs
  | externalScanner
deriving DecidableEq

inductive IssueSeverity where
  | incomplete
  | error
deriving DecidableEq

structure AuditIssue where
  code : String
  scope : IssueScope
  severity : IssueSeverity

inductive CoverageScope where
  | repositoryIgnore
  | repositoryStorage
  | repositoryIntegrity
  | indexPaths
  | indexObjects
  | trackedPaths
  | trackedObjects
  | gitRefs
  | gitReflogs
  | objectDatabase
  | gitLfs
  | externalScanner
deriving DecidableEq

inductive CoverageStatus where
  | complete
  | notRequired
  | notUsed
  | incomplete
deriving DecidableEq

/-- What an audit has collected. The findings and the issues are sets. -/
structure AuditState where
  findings : List PolicyFinding := []
  issues : List AuditIssue := []
  coverage : CoverageScope → Option CoverageStatus := fun _ => none

namespace AuditState

def found (s : AuditState) (findings : List PolicyFinding) : AuditState :=
  { s with findings := s.findings ++ findings }

def issue (s : AuditState) (code : String) (scope : IssueScope) (severity : IssueSeverity) :
    AuditState :=
  { s with issues := s.issues ++ [⟨code, scope, severity⟩] }

def issueIf (s : AuditState) (c : Bool) (code : String) (scope : IssueScope)
    (severity : IssueSeverity) : AuditState :=
  if c then s.issue code scope severity else s

def cover (s : AuditState) (scope : CoverageScope) (status : CoverageStatus) : AuditState :=
  { s with coverage := Function.update s.coverage scope (some status) }

/-- Neither an issue nor a finding. -/
structure Passing (s : AuditState) : Prop where
  no_issue : s.issues = []
  no_finding : s.findings = []

variable {s : AuditState}

@[simp] lemma passing_found {findings : List PolicyFinding} :
    (s.found findings).Passing ↔ s.Passing ∧ findings = [] := by
  constructor
  · rintro ⟨hissue, hfinding⟩
    obtain ⟨hbefore, hnew⟩ := List.append_eq_nil_iff.mp hfinding
    exact ⟨⟨hissue, hbefore⟩, hnew⟩
  · rintro ⟨⟨hissue, hfinding⟩, rfl⟩
    exact ⟨hissue, List.append_eq_nil_iff.mpr ⟨hfinding, rfl⟩⟩

@[simp] lemma not_passing_issue {code : String} {scope : IssueScope}
    {severity : IssueSeverity} : ¬ (s.issue code scope severity).Passing := by
  rintro ⟨hissue, -⟩
  exact List.cons_ne_nil _ _ (List.append_eq_nil_iff.mp hissue).2

@[simp] lemma passing_issueIf {c : Bool} {code : String} {scope : IssueScope}
    {severity : IssueSeverity} :
    (s.issueIf c code scope severity).Passing ↔ s.Passing ∧ c = false := by
  cases c <;> simp [issueIf]

@[simp] lemma passing_cover {scope : CoverageScope} {status : CoverageStatus} :
    (s.cover scope status).Passing ↔ s.Passing :=
  ⟨fun h => ⟨h.1, h.2⟩, fun h => ⟨h.1, h.2⟩⟩

@[simp] lemma coverage_found (s : AuditState) (findings : List PolicyFinding) :
    (s.found findings).coverage = s.coverage := rfl

@[simp] lemma coverage_issueIf (s : AuditState) (c : Bool) (code : String) (scope : IssueScope)
    (severity : IssueSeverity) : (s.issueIf c code scope severity).coverage = s.coverage := by
  cases c <;> rfl

@[simp] lemma coverage_cover (s : AuditState) (scope : CoverageScope) (status : CoverageStatus) :
    (s.cover scope status).coverage = Function.update s.coverage scope (some status) := rfl

end AuditState

/-- A step that some exceptions stop before its end; what it has collected by then is kept. -/
abbrev AuditBody := AuditState → AuditState × Option PolicyFailure

/-- `except (_GitFailure, _ObjectProtocolFailure)`. -/
def policyFailure : PolicyFailure → Bool
  | .gitFailure | .objectProtocolFailure => true
  | .osError | .lookupError => false

/-- `except (_GitFailure, _ObjectProtocolFailure, OSError)`. -/
def policyOrOsFailure : PolicyFailure → Bool
  | .gitFailure | .objectProtocolFailure | .osError => true
  | .lookupError => false

/-- `try: body except caught: handler`. -/
def guarded (body : AuditBody) (caught : PolicyFailure → Bool) (handler : AuditState → AuditState)
    (s : AuditState) : Except PolicyFailure AuditState :=
  match body s with
  | (s', none) => .ok s'
  | (s', some failure) => if caught failure then .ok (handler s') else .error failure

/-- A step whose handler records an issue passes only by reaching its end. -/
lemma guarded_passing {body : AuditBody} {caught : PolicyFailure → Bool}
    {handler : AuditState → AuditState} {s s' : AuditState} (hissue : ∀ s, ¬ (handler s).Passing)
    (h : guarded body caught handler s = .ok s') (hpass : s'.Passing) : body s = (s', none) := by
  rw [guarded] at h
  split at h
  · rename_i hbody
    cases h
    exact hbody
  · split_ifs at h
    cases h
    exact absurd hpass (hissue _)

/-! ### The index and the tip -/

structure RepositoryPolicy where
  requiredTempIgnore : Bytes
  requiredPrivateIgnores : List Bytes
  scannerConfig : Text

/-- `_indexed_file_bytes`, `blob` being what `git cat-file blob` prints. -/
def indexedFileBytes (blob : GitObjectId → Except PolicyFailure Bytes) (entries : List GitEntry)
    (path : Text) : Except PolicyFailure Bytes :=
  match entries.filter fun entry => entry.path = path ∧ entry.stage = 0 with
  | [entry] => do
    raiseIf (entry.mode ≠ ascii "100644") .lookupError
    let data ← blob entry.objectId
    raiseIf (data.length > 1024 * 1024) .objectProtocolFailure
    return data
  | _ => .error .lookupError

local instance lawfulBytes : LawfulBEq Bytes := inferInstance

def ignoreFindings (policy : RepositoryPolicy) (ignoreLines : List Bytes) : List PolicyFinding :=
  (if policy.requiredTempIgnore ∈ ignoreLines then []
    else [⟨"repository-temp-ignore-missing", .repositoryConfig, none, none⟩]) ++
  (if ∀ line ∈ policy.requiredPrivateIgnores, line ∈ ignoreLines then []
    else [⟨"repository-private-ignore-missing", .repositoryConfig, none, none⟩])

/-- `_audit_repository_files`. -/
def auditRepositoryFiles (policy : RepositoryPolicy)
    (blob : GitObjectId → Except PolicyFailure Bytes) (entries : List GitEntry) : AuditBody :=
  fun s =>
    match indexedFileBytes blob entries (text ".gitignore") with
    | .ok data => ((s.found (ignoreFindings policy (splitlines data))).cover
        .repositoryIgnore .complete, none)
    | .error .lookupError => ((s.found (ignoreFindings policy [])).cover
        .repositoryIgnore .complete, none)
    | .error .osError => (s, some .osError)
    | .error _ => ((s.issue "repository-ignore-read-failed" .repository .error).cover
        .repositoryIgnore .incomplete, none)

variable [PathText] [ContentRules]

def pathFindings (scope : FindingScope) (entry : GitEntry) : List PolicyFinding :=
  (auditPath entry.path).map (fun ruleId => ⟨ruleId, scope, some entry.path, none⟩) ++
  (if entry.mode = ascii "160000" then
    [⟨"submodule-not-audited", scope, some entry.path, some entry.objectId⟩] else [])

/-- `min(paths)`. -/
def leastPath (paths : List Text) : Option Text :=
  paths.foldl (fun least path =>
    match least with
    | none => some path
    | some least => if path < least then some path else some least) none

def entryFindings (pathScope objectScope : FindingScope) (entries : List GitEntry)
    (scan : ObjectScan) : List PolicyFinding :=
  let objectEntries := entries.filter fun entry =>
    entry.objectId = scan.objectId ∧ entry.mode ≠ ascii "160000"
  (scan.contentRules.map fun ruleId =>
    ⟨ruleId, objectScope, leastPath (objectEntries.map GitEntry.path), some scan.objectId⟩) ++
  objectEntries.flatMap fun entry =>
    (if entry.mode = ascii "120000" ∧ scan.objectType = .blob ∧ scan.targetsTemp then
      [⟨"symlink-targets-temp", pathScope, some entry.path, some entry.objectId⟩] else []) ++
    (if entry.mode = ascii "120000" then
      scan.targetPathRule.toList.map fun ruleId =>
        ⟨"symlink-target-" ++ ruleId, pathScope, some entry.path, some entry.objectId⟩
      else [])

/-- `_audit_entries`. The order in which the objects are asked for does not matter. -/
def auditEntries (process : CatFile) (entries : List GitEntry)
    (pathScope objectScope : FindingScope) : AuditBody :=
  fun s =>
    let s := s.found (entries.flatMap (pathFindings pathScope))
    let objectIds := ((entries.filter fun entry => entry.mode ≠ ascii "160000").map
      GitEntry.objectId).dedup
    match scanObjects process (objectIds.map fun objectId => ⟨objectId, .blob, 0⟩) with
    | .error failure => (s, some failure)
    | .ok scans => (s.found (scans.flatMap (entryFindings pathScope objectScope entries)), none)

def unmergedFindings (entries : List GitEntry) : List PolicyFinding :=
  (entries.filter fun entry => entry.stage ≠ 0).map fun entry =>
    ⟨"unmerged-index-entry", .indexPath, some entry.path, some entry.objectId⟩

/-- The audit of the index in `_audit_open_repository`. -/
def indexBody (policy : RepositoryPolicy) (blob : GitObjectId → Except PolicyFailure Bytes)
    (process : CatFile) (state : Option CapturedRepositoryState) : AuditBody :=
  fun s =>
    match state with
    | none => (s, some .gitFailure)
    | some state =>
      match auditRepositoryFiles policy blob state.indexEntries s with
      | (s, some failure) => (s, some failure)
      | (s, none) =>
        match auditEntries process state.indexEntries .indexPath .indexObject
            (s.found (unmergedFindings state.indexEntries)) with
        | (s, some failure) => (s, some failure)
        | (s, none) => ((s.cover .indexPaths .complete).cover .indexObjects .complete, none)

def indexHandler (s : AuditState) : AuditState :=
  (((s.issue "index-audit-failed" .index .error).cover .repositoryIgnore .incomplete).cover
    .indexPaths .incomplete).cover .indexObjects .incomplete

/-- The audit of the tip in `_audit_open_repository`. -/
def trackedBody (process : CatFile) (state : Option CapturedRepositoryState) : AuditBody :=
  fun s =>
    match state with
    | none => (s, some .gitFailure)
    | some state =>
      match auditEntries process state.trackedEntries .trackedPath .trackedObject s with
      | (s, some failure) => (s, some failure)
      | (s, none) => ((s.cover .trackedPaths .complete).cover .trackedObjects .complete, none)

def trackedHandler (s : AuditState) : AuditState :=
  ((s.issue "tracked-audit-failed" .index .error).cover .trackedPaths .incomplete).cover
    .trackedObjects .incomplete

/-! ### Storage, integrity and references -/

/-- What the steps of a release audit read beside the objects. -/
structure ReleaseAnswers where
  shallow : Except PolicyFailure Bytes
  partialClone : Int
  alternates : Except PolicyFailure Bool
  fsck : Int
  reflogRules : Except PolicyFailure (List String)
  reflogInventory : Except PolicyFailure Bytes

omit [PathText] [ContentRules] in
/-- `_audit_storage_shape`. -/
def storageBody (answers : ReleaseAnswers) : AuditBody :=
  fun s =>
    match answers.shallow with
    | .error failure => (s, some failure)
    | .ok shallow =>
      if shallow ≠ ascii "true" ∧ shallow ≠ ascii "false" then (s, some .objectProtocolFailure)
      else
        let s := s.issueIf (shallow = ascii "true") "shallow-repository" .repository .incomplete
        if answers.partialClone ≠ 0 ∧ answers.partialClone ≠ 1 then (s, some .gitFailure)
        else
          let s := s.issueIf (answers.partialClone = 0) "partial-repository" .repository .incomplete
          match answers.alternates with
          | .error failure => (s, some failure)
          | .ok present =>
            ((s.issueIf present "alternate-object-storage" .repository .incomplete).cover
              .repositoryStorage .complete, none)

def storageHandler (s : AuditState) : AuditState :=
  (s.issue "repository-storage-audit-failed" .repository .error).cover
    .repositoryStorage .incomplete

/-- `_audit_git_integrity`. -/
def auditGitIntegrity (answers : ReleaseAnswers) (s : AuditState) : AuditState :=
  if answers.fsck = 0 then s.cover .repositoryIntegrity .complete
  else (s.issue "repository-integrity-check-failed" .repository .incomplete).cover
    .repositoryIntegrity .incomplete

/-- The loop over the records of the references. -/
def refLoop : List Bytes → AuditBody
  | [], s => (s, none)
  | record :: records, s =>
    match partitionAt 0 record with
    | none => (s, some .objectProtocolFailure)
    | some (_, rawRefName) =>
      refLoop records (if sensitivePathRule (fsdecode rawRefName) = none then s
        else s.found [⟨"sensitive-ref-name", .gitRef, none, none⟩])

/-- The references in `_inspect_refs_and_reflogs`. -/
def refsBody (refRecords : Option Bytes) : AuditBody :=
  fun s =>
    match refRecords with
    | none => (s, some .objectProtocolFailure)
    | some refRecords =>
      match refLoop (splitlines refRecords) (s.found ((matchingContentRules [refRecords]).map
          fun ruleId => ⟨ruleId, .gitRef, none, none⟩)) with
      | (s, some failure) => (s, some failure)
      | (s, none) => (s.cover .gitRefs .complete, none)

def refsHandler (s : AuditState) : AuditState :=
  (s.issue "git-ref-audit-failed" .refs .error).cover .gitRefs .incomplete

/-- The reflogs in `_inspect_refs_and_reflogs`. -/
def reflogsBody (answers : ReleaseAnswers) (expected : Option Bytes) : AuditBody :=
  fun s =>
    match expected with
    | none => (s, some .objectProtocolFailure)
    | some expected =>
      match answers.reflogRules with
      | .error failure => (s, some failure)
      | .ok rules =>
        let s := s.found (rules.map fun ruleId => ⟨ruleId, .gitReflog, none, none⟩)
        match answers.reflogInventory with
        | .error failure => (s, some failure)
        | .ok inventory =>
          if inventory ≠ expected then (s, some .objectProtocolFailure)
          else (s.cover .gitReflogs .complete, none)

def reflogsHandler (s : AuditState) : AuditState :=
  (s.issue "git-reflog-audit-failed" .reflogs .error).cover .gitReflogs .incomplete

/-! ### Large files -/

/-- A file of the LFS store, with what reading it gives: its digest, its size and the rules its
content matches. -/
structure LfsFile where
  relativePath : Text
  objectId : Option Bytes
  read : Except PolicyFailure (Bytes × Nat × List String)

structure LfsAnswers where
  localFiles : Except PolicyFailure (List LfsFile)
  inventory : Except PolicyFailure Bytes
  trusted : Bool
  fsck : Int

def AuditState.lfsIncomplete (s : AuditState) (code : String) : AuditState :=
  (s.issue code .gitLfs .incomplete).cover .gitLfs .incomplete

def AuditState.lfsIncompleteIf (s : AuditState) (c : Bool) (code : String) : AuditState :=
  if c then s.lfsIncomplete code else s

/-- `inventory_stable`. -/
def inventoryStable (answers : LfsAnswers) (expected : Option Bytes) : Except PolicyFailure Bool :=
  match expected with
  | none => .ok false
  | some expected => answers.inventory.map fun inventory => inventory = expected

/-- `expected_sizes` of a pointer. -/
def pointerSizes (pointers : List (Bytes × Nat)) (pointerId : Bytes) : List Nat :=
  ((pointers.filter fun pointer => pointer.1 = pointerId).map Prod.snd).dedup

def lfsObjectName (objectId : Bytes) : Bytes := ascii "sha256:" ++ objectId

/-- One turn of the loop over the pointers. -/
def lfsPointerStep (pointers : List (Bytes × Nat)) (localFiles : List LfsFile) (s : AuditState)
    (pointerId : Bytes) : AuditState :=
  (s.found (if (pointerSizes pointers pointerId).length ≠ 1 then
    [⟨"git-lfs-pointer-size-conflict", .gitLfs, none, some (lfsObjectName pointerId)⟩]
    else [])).lfsIncompleteIf (some pointerId ∉ localFiles.map LfsFile.objectId)
    "git-lfs-object-unavailable"

/-- One turn of the loop over the files. -/
def lfsFileStep (pointers : List (Bytes × Nat)) (s : AuditState) (item : LfsFile) : AuditState :=
  let s := s.found (if item.objectId = none then
    [⟨"git-lfs-object-layout-invalid", .gitLfs, some item.relativePath, none⟩] else [])
  match item.read with
  | .error .osError =>
    (s.issue "git-lfs-object-read-failed" .gitLfs .error).cover .gitLfs .incomplete
  | .error _ => s.lfsIncomplete "git-lfs-object-changed"
  | .ok (digest, size, rules) =>
    let s := s.lfsIncompleteIf (item.objectId.any (· ≠ digest)) "git-lfs-object-hash-mismatch"
    let s := s.lfsIncompleteIf (item.objectId.any fun objectId =>
      objectId ∈ pointers.map Prod.fst ∧ size ∉ pointerSizes pointers objectId)
      "git-lfs-object-size-mismatch"
    s.found (rules.map fun ruleId =>
      ⟨ruleId, .gitLfs, if item.objectId = none then some item.relativePath else none,
        item.objectId.map lfsObjectName⟩)

/-- The part of `_audit_lfs` for a repository that uses it. -/
def auditUsedLfs (answers : LfsAnswers) (pointers : List (Bytes × Nat)) (localFiles : List LfsFile)
    (s : AuditState) : AuditState :=
  let s := if answers.trusted then s.lfsIncompleteIf (answers.fsck ≠ 0) "git-lfs-fsck-failed"
    else s.lfsIncomplete "git-lfs-unavailable"
  let s := (pointers.map Prod.fst).dedup.foldl (lfsPointerStep pointers localFiles) s
  let s := localFiles.foldl (lfsFileStep pointers) s
  if s.coverage .gitLfs = none then s.cover .gitLfs .complete else s

/-- `_audit_lfs` once the store has been read. -/
def auditReadLfs (answers : LfsAnswers) (pointers : List (Bytes × Nat)) (localFiles : List LfsFile)
    (stable : Bool) (s : AuditState) : AuditState :=
  let s := s.lfsIncompleteIf (¬ stable) "git-lfs-inventory-changed"
  if pointers = [] ∧ localFiles = [] then
    if stable then s.cover .gitLfs .notUsed else s
  else auditUsedLfs answers pointers localFiles s

/-- `_audit_lfs`. -/
def auditLfs (answers : LfsAnswers) (scans : List ObjectScan) (expected : Option Bytes)
    (s : AuditState) : Except PolicyFailure AuditState :=
  let failed := (s.issue "git-lfs-audit-failed" .gitLfs .error).cover .gitLfs .incomplete
  match answers.localFiles with
  | .error .lookupError => .error .lookupError
  | .error _ => .ok failed
  | .ok localFiles =>
    match inventoryStable answers expected with
    | .error .lookupError => .error .lookupError
    | .error _ => .ok failed
    | .ok stable =>
      .ok (auditReadLfs answers (scans.filterMap ObjectScan.lfsPointer) localFiles stable s)

/-! ### The external scanner -/

/-- What the external scanner's step reads: the metadata and the content of its configuration in the
worktree, the scanner, and how its run goes. -/
structure ScannerAnswers where
  config : Except PolicyFailure (Bool × Bytes)
  configIsSymlink : Bool
  strictConfig : Bytes → Bool
  trusted : Bool
  hasInput : Bool
  corpusComplete : Bool
  returnCode : Int
  configAfter : Except PolicyFailure Bytes

/-- The configuration, in the index and in the worktree. -/
def scannerConfigs (policy : RepositoryPolicy) (blob : GitObjectId → Except PolicyFailure Bytes)
    (answers : ScannerAnswers) (state : Option CapturedRepositoryState) :
    Except PolicyFailure (Bytes × Bool × Bytes) := do
  let state ← orRaise state .objectProtocolFailure
  let indexed ← indexedFileBytes blob state.indexEntries policy.scannerConfig
  let (isRegular, working) ← answers.config
  return (indexed, isRegular, working)

def AuditState.scannerIncomplete (s : AuditState) (code : String) : AuditState :=
  (s.issue code .externalScanner .incomplete).cover .externalScanner .incomplete

/-- `_run_external_scanner`. -/
def runExternalScanner (policy : RepositoryPolicy)
    (blob : GitObjectId → Except PolicyFailure Bytes) (answers : ScannerAnswers)
    (state : Option CapturedRepositoryState) (s : AuditState) : AuditState :=
  match scannerConfigs policy blob answers state with
  | .error _ => s.scannerIncomplete "external-scanner-config-unavailable"
  | .ok (indexed, isRegular, working) =>
    if ¬ isRegular ∨ answers.configIsSymlink ∨ working ≠ indexed ∨
        ¬ answers.strictConfig indexed then
      s.scannerIncomplete "external-scanner-config-unavailable"
    else if ¬ answers.trusted then s.scannerIncomplete "external-scanner-unavailable"
    else if ¬ answers.hasInput then s.scannerIncomplete "external-scanner-execution-failed"
    else if ¬ answers.corpusComplete then s.scannerIncomplete "external-scanner-corpus-incomplete"
    else if (answers.configAfter.toOption ≠ some indexed : Bool) then
      s.scannerIncomplete "external-scanner-config-changed"
    else if answers.returnCode = 0 then s.cover .externalScanner .complete
    else if answers.returnCode = 1 then
      (s.found [⟨"external-scanner-detection", .externalScanner, none, none⟩]).cover
        .externalScanner .complete
    else s.scannerIncomplete "external-scanner-execution-failed"

/-! ### The audit -/

/-- Everything an audit reads. -/
structure AuditAnswers where
  opened : Bool
  first : CaptureAnswers
  blob : GitObjectId → Except PolicyFailure Bytes
  indexScan : CatFile
  trackedScan : CatFile
  release : ReleaseAnswers
  objectScan : CatFile
  lfs : LfsAnswers
  scanner : ScannerAnswers
  final : CaptureAnswers

/-- The object database in `_audit_release`, with the scans for the steps after it. -/
def auditObjectDatabase (process : CatFile) (state : Option CapturedRepositoryState)
    (s : AuditState) : Except PolicyFailure (List ObjectScan × AuditState) :=
  match (orRaise state .objectProtocolFailure).bind fun state =>
      scanObjects process state.objectDescriptions with
  | .ok scans => .ok (scans, (s.found (addObjectFindings scans)).cover .objectDatabase .complete)
  | .error failure =>
    if policyFailure failure then
      .ok ([], (s.issue "object-database-audit-failed" .objectDatabase .error).cover
        .objectDatabase .incomplete)
    else .error failure

/-- `_audit_release`. -/
def auditRelease (answers : AuditAnswers) (policy : RepositoryPolicy)
    (state : Option CapturedRepositoryState) (s : AuditState) :
    Except PolicyFailure AuditState := do
  let s ← guarded (storageBody answers.release) policyOrOsFailure storageHandler s
  let s := auditGitIntegrity answers.release s
  let s ← guarded (refsBody (state.map CapturedRepositoryState.refRecords)) policyFailure
    refsHandler s
  let s ← guarded (reflogsBody answers.release
    (state.map CapturedRepositoryState.reflogInventory)) policyOrOsFailure reflogsHandler s
  let (scans, s) ← auditObjectDatabase answers.objectScan state s
  let s ← auditLfs answers.lfs scans (state.map CapturedRepositoryState.lfsObjectInventory) s
  return runExternalScanner policy answers.blob answers.scanner state s

structure AuditReport where
  mode : AuditMode
  status : AuditStatus
  findings : List PolicyFinding
  issues : List AuditIssue
  coverage : CoverageScope → Option CoverageStatus
  snapshot : Option RepositorySnapshot

/-- `_build_report`. -/
def buildReport (mode : AuditMode) (s : AuditState) (snapshot : Option RepositorySnapshot) :
    AuditReport where
  mode := mode
  status :=
    if s.issues.any (·.severity = .error) then .error
    else if s.issues.any (·.severity = .incomplete) then .incomplete
    else if s.findings ≠ [] then .violation
    else .pass
  findings := s.findings
  issues := s.issues
  coverage := s.coverage
  snapshot := snapshot

variable [AuditDigests]

/-- A capture whose failure the audit catches. -/
def caughtCapture (answers : CaptureAnswers) :
    Except PolicyFailure (Option CapturedRepositoryState) :=
  match captureRepositoryState answers with
  | .ok state => .ok (some state)
  | .error failure => if policyFailure failure then .ok none else .error failure

/-- The coverage that a commit audit does not require. -/
def notRequired (s : AuditState) : AuditState :=
  [CoverageScope.gitRefs, .gitReflogs, .repositoryStorage, .repositoryIntegrity, .objectDatabase,
    .gitLfs].foldl (fun s scope => s.cover scope .notRequired) s

/-- The part of `_audit_open_repository` that depends on the mode. -/
def auditMode (answers : AuditAnswers) (mode : AuditMode) (policy : RepositoryPolicy)
    (state : Option CapturedRepositoryState) (s : AuditState) : Except PolicyFailure AuditState :=
  match mode with
  | .release =>
    auditRelease answers policy state
      ((s.issueIf (¬ state.any CapturedRepositoryState.indexClean) "release-index-dirty"
        .index .error).issueIf (¬ state.any CapturedRepositoryState.worktreeClean)
        "release-worktree-dirty" .repository .error)
  | .commit => .ok (runExternalScanner policy answers.blob answers.scanner state (notRequired s))

/-- Compare the state at the end with the state at the beginning. -/
def auditFinalState (mode : AuditMode) (state final : Option CapturedRepositoryState)
    (s : AuditState) : AuditState :=
  if state.isNone ∨ final.isNone ∨
      final.map CapturedRepositoryState.snapshot ≠ state.map CapturedRepositoryState.snapshot then
    let s := s.issue "repository-snapshot-changed" .repository .incomplete
    if mode = .release then s.cover .repositoryIntegrity .incomplete else s
  else s

/-- `_audit_open_repository`. -/
def auditOpenRepository (answers : AuditAnswers) (mode : AuditMode) (policy : RepositoryPolicy) :
    Except PolicyFailure AuditReport := do
  let state ← caughtCapture answers.first
  let s := ({} : AuditState).issueIf state.isNone "repository-snapshot-unavailable"
    .repository .error
  let s ← guarded (indexBody policy answers.blob answers.indexScan state) policyFailure
    indexHandler s
  let s ← guarded (trackedBody answers.trackedScan state) policyFailure trackedHandler s
  let s ← auditMode answers mode policy state s
  let final ← caughtCapture answers.final
  return buildReport mode (auditFinalState mode state final s)
    (state.map CapturedRepositoryState.snapshot)

/-- `audit_repository`. -/
def auditRepository (answers : AuditAnswers) (mode : AuditMode) (policy : RepositoryPolicy) :
    Except PolicyFailure AuditReport :=
  if answers.opened then auditOpenRepository answers mode policy
  else
    .ok (buildReport mode (({} : AuditState).issue "not-a-git-repository" .repository .error) none)

end EdaGym
