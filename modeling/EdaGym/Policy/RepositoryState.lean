import EdaGym.Policy.ObjectScan

/-!
# The captured state of a repository

A capture reads the index, the worktree, the references and the objects of a repository and checks
that they did not change meanwhile. Its snapshot identifies what it read.
-/

namespace EdaGym

def EMPTY_CONTENT_DIGEST : String :=
  "sha256:e3b0c44298fc1c149afbf4c8996fb92427ae41e4649b934ca495991b7852b855"

/-- The digests of a capture. -/
class AuditDigests where
  bytesDigest : Bytes → String
  /-- Of the LFS inventory, the object format, the objects, the references and the reflogs. -/
  scanScopeDigest : String → GitObjectFormat → List ObjectDescription → String → String → String
  bytesDigest_nil : bytesDigest [] = EMPTY_CONTENT_DIGEST

export AuditDigests (bytesDigest scanScopeDigest bytesDigest_nil)

structure RepositorySnapshot where
  objectFormat : GitObjectFormat
  commitId : GitObjectId
  treeId : GitObjectId
  indexTreeId : GitObjectId
  worktreeTreeId : Option GitObjectId
  indexStateDigest : String
  worktreeStateDigest : String
  refSetDigest : String
  reflogRecordDigest : String
  lfsObjectInventoryDigest : String
  scanScopeDigest : String
deriving DecidableEq

def GitObjectFormat.idWidth : GitObjectFormat → Nat
  | sha1 => 40
  | sha256 => 64

namespace RepositorySnapshot

/-- `validate_object_format`. -/
structure Valid (snapshot : RepositorySnapshot) : Prop where
  commit : snapshot.commitId.length = snapshot.objectFormat.idWidth
  tree : snapshot.treeId.length = snapshot.objectFormat.idWidth
  index_tree : snapshot.indexTreeId.length = snapshot.objectFormat.idWidth
  worktree_tree : ∀ treeId ∈ snapshot.worktreeTreeId, treeId = snapshot.indexTreeId

def isClean (snapshot : RepositorySnapshot) : Bool :=
  snapshot.treeId = snapshot.indexTreeId ∧
    snapshot.worktreeTreeId = some snapshot.indexTreeId ∧
    snapshot.worktreeStateDigest = EMPTY_CONTENT_DIGEST

end RepositorySnapshot

structure GitEntry where
  mode : Bytes
  objectId : GitObjectId
  path : Text
  stage : Nat := 0

/-- What the commands of one capture answer, in the order in which they run. -/
structure CaptureAnswers where
  objectFormat : Except PolicyFailure GitObjectFormat
  headCommit : Except PolicyFailure GitObjectId
  headTree : Except PolicyFailure GitObjectId
  rawIndex : Except PolicyFailure Bytes
  indexEntries : Except PolicyFailure (List GitEntry)
  indexTree : Except PolicyFailure GitObjectId
  status : Except PolicyFailure Bytes
  untracked : Except PolicyFailure Bytes
  diffIndexClean : Except PolicyFailure Bool
  diffFilesClean : Except PolicyFailure Bool
  refRecords : Except PolicyFailure Bytes
  reflogInventory : Except PolicyFailure Bytes
  lfsObjectInventory : Except PolicyFailure Bytes
  allObjects : Except PolicyFailure (List ObjectDescription)
  headCommitAgain : Except PolicyFailure GitObjectId
  rawIndexAgain : Except PolicyFailure Bytes
  indexTreeAgain : Except PolicyFailure GitObjectId
  statusAgain : Except PolicyFailure Bytes
  headEntries : Except PolicyFailure (List GitEntry)

structure CapturedRepositoryState where
  snapshot : RepositorySnapshot
  indexEntries : List GitEntry
  trackedEntries : List GitEntry
  refRecords : Bytes
  reflogInventory : Bytes
  lfsObjectInventory : Bytes
  objectDescriptions : List ObjectDescription
  indexClean : Bool
  worktreeClean : Bool

/-- `_validate_object_id`. -/
def validateObjectId (objectId : GitObjectId) (format : GitObjectFormat) :
    Except PolicyFailure PUnit :=
  raiseIf (objectId.length ≠ format.idWidth ∨ ¬ isObjectId objectId) .objectProtocolFailure

@[simp] lemma validateObjectId_eq_ok {objectId : GitObjectId} {format : GitObjectFormat}
    {u : PUnit} : validateObjectId objectId format = .ok u ↔
      objectId.length = format.idWidth ∧ isObjectId objectId = true := by
  rw [validateObjectId, raiseIf_eq_ok, not_or, not_not, not_not]

/-- `index_clean` of a capture. The second command runs only when the trees agree. -/
def indexIsClean (answers : CaptureAnswers) (indexTreeId treeId : GitObjectId) :
    Except PolicyFailure Bool :=
  if indexTreeId = treeId then answers.diffIndexClean else .ok false

variable [AuditDigests]

/-- `_capture_repository_state`. -/
def captureRepositoryState (answers : CaptureAnswers) :
    Except PolicyFailure CapturedRepositoryState := do
  let objectFormat ← answers.objectFormat
  let commitId ← answers.headCommit
  validateObjectId commitId objectFormat
  let treeId ← answers.headTree
  validateObjectId treeId objectFormat
  let rawIndex ← answers.rawIndex
  let indexEntries ← answers.indexEntries
  let indexTreeId ← answers.indexTree
  validateObjectId indexTreeId objectFormat
  let status ← answers.status
  let untracked ← answers.untracked
  let indexClean ← indexIsClean answers indexTreeId treeId
  let trackedWorktreeClean ← answers.diffFilesClean
  let refRecords ← answers.refRecords
  let reflogInventory ← answers.reflogInventory
  let lfsObjectInventory ← answers.lfsObjectInventory
  let descriptions ← answers.allObjects
  let commitAgain ← answers.headCommitAgain
  raiseIf (commitAgain ≠ commitId) .objectProtocolFailure
  let rawIndexAgain ← answers.rawIndexAgain
  raiseIf (rawIndexAgain ≠ rawIndex) .objectProtocolFailure
  let indexTreeAgain ← answers.indexTreeAgain
  raiseIf (indexTreeAgain ≠ indexTreeId) .objectProtocolFailure
  let statusAgain ← answers.statusAgain
  raiseIf (statusAgain ≠ status) .objectProtocolFailure
  let trackedEntries ← answers.headEntries
  return {
    snapshot := {
      objectFormat := objectFormat
      commitId := commitId
      treeId := treeId
      indexTreeId := indexTreeId
      worktreeTreeId :=
        if trackedWorktreeClean ∧ untracked = [] then some indexTreeId else none
      indexStateDigest := bytesDigest rawIndex
      worktreeStateDigest := bytesDigest status
      refSetDigest := bytesDigest refRecords
      reflogRecordDigest := bytesDigest reflogInventory
      lfsObjectInventoryDigest := bytesDigest lfsObjectInventory
      scanScopeDigest := scanScopeDigest (bytesDigest lfsObjectInventory) objectFormat descriptions
        (bytesDigest refRecords) (bytesDigest reflogInventory) }
    indexEntries := indexEntries
    trackedEntries := trackedEntries
    refRecords := refRecords
    reflogInventory := reflogInventory
    lfsObjectInventory := lfsObjectInventory
    objectDescriptions := descriptions
    indexClean := indexClean
    worktreeClean := indexClean ∧ trackedWorktreeClean ∧ status = [] }

/-- An empty status leaves no untracked file. -/
def CaptureAnswers.Settled (answers : CaptureAnswers) : Prop :=
  answers.status = .ok [] → answers.untracked = .ok []

lemma captureRepositoryState_objects {answers : CaptureAnswers} {state : CapturedRepositoryState}
    (h : captureRepositoryState answers = .ok state) :
    answers.allObjects = .ok state.objectDescriptions := by
  simp only [captureRepositoryState, bind_eq_ok, raiseIf_eq_ok, validateObjectId_eq_ok,
    exists_const, pure_eq_ok] at h
  obtain ⟨_, -, _, -, -, _, -, -, _, -, _, -, _, -, -, _, -, _, -, _, -, _, -, _, -, _, -, _, -,
    _, hobjects, _, -, -, _, -, -, _, -, -, _, -, -, _, -, rfl⟩ := h
  exact hobjects

/-- A capture meets the validators of its snapshot, and the snapshot of a clean state is clean. -/
lemma captureRepositoryState_spec {answers : CaptureAnswers} {state : CapturedRepositoryState}
    (h : captureRepositoryState answers = .ok state) :
    state.snapshot.Valid ∧ (answers.Settled → state.indexClean = true →
      state.worktreeClean = true → state.snapshot.isClean = true) := by
  simp only [captureRepositoryState, bind_eq_ok, raiseIf_eq_ok, validateObjectId_eq_ok,
    exists_const, pure_eq_ok] at h
  obtain ⟨format, -, commitId, -, ⟨hcommit, -⟩, treeId, -, ⟨htree, -⟩, rawIndex, -, entries, -,
    indexTreeId, -, ⟨hindex, -⟩, status, hstatus, untracked, huntracked, indexClean, hclean,
    tracked, -, refs, -, reflogs, -, lfs, -, descriptions, -, _, -, -, _, -, -, _, -, -, _, -, -,
    heads, -,
    rfl⟩ := h
  refine ⟨⟨hcommit, htree, hindex, ?_⟩, ?_⟩
  · intro worktreeId hworktree
    dsimp only at hworktree
    split_ifs at hworktree
    · exact (Option.some.inj hworktree).symm
    · cases hworktree
  · intro hsettled hindexClean hworktree
    simp only [decide_eq_true_eq] at hindexClean hworktree
    obtain ⟨-, htracked, rfl⟩ := hworktree
    have hnone : untracked = [] := by
      have hempty := hsettled hstatus
      rw [huntracked] at hempty
      exact Except.ok.inj hempty
    have htrees : indexTreeId = treeId := by
      rw [indexIsClean] at hclean
      split_ifs at hclean with heq
      · exact heq
      · rw [hindexClean] at hclean
        cases hclean
    simp [RepositorySnapshot.isClean, htrees, htracked, hnone, bytesDigest_nil]

end EdaGym
