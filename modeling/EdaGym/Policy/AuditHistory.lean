import EdaGym.Policy.AuditPassing

/-!
# The history of an audited repository

A release audit that passes covers the history of a repository as it covers its tip, but for the
files at the root of an old commit and the paths through irregular entries.
-/

namespace EdaGym

/-! ### Audits of histories -/

section Audit

variable [PathText] [ContentRules] [AuditDigests]

/-- The parser of trees sees the entries of a tree object however it is cut, and rejects everything
else. When a release audit of a repository passes, every scope is covered, the snapshot is clean,
and the audit of the tip would report no path of any commit exactly when the history has no gap. -/
theorem release_audit_covers_history :
    (∀ (hashWidth : Nat) (chunks : List Bytes) (seen : TreeHits),
      parseTree hashWidth chunks = .ok seen ↔
        ∃ entries, TreeHolds hashWidth chunks.flatten entries ∧ seen = treeHits entries) ∧
    ∀ (db : GitDatabase) (answers : AuditAnswers) (policy : RepositoryPolicy)
      (report : AuditReport),
      auditRepository answers .release policy = .ok report → report.status = .pass →
      answers.first.Settled →
      (∀ state, captureRepositoryState answers.first = .ok state →
        db.Reported state.objectDescriptions answers.objectScan) →
      Covered report.coverage ∧
        (∃ snapshot, report.snapshot = some snapshot ∧ snapshot.isClean = true) ∧
        (db.Publishable ↔ db.NoGap) := by
  refine ⟨fun hashWidth chunks seen => parseTree_eq_ok, ?_⟩
  intro db answers policy report h hpass hsettled hreported
  rw [auditRepository] at h
  split_ifs at h
  · obtain ⟨captured, scans, hcapture, hsnapshot, hindex, hworktree, hcovered, hfindings, hscans⟩ :=
      auditOpenRepository_passing h hpass
    obtain ⟨-, hclean⟩ := captureRepositoryState_spec hcapture
    refine ⟨hcovered, ⟨_, hsnapshot, hclean hsettled hindex hworktree⟩, ?_⟩
    exact publishable_iff_noGap (hreported _ hcapture) hscans hfindings
  · cases h
    exact absurd (buildReport_pass.mp hpass) AuditState.not_passing_issue

end Audit

/-! ### A file of an old commit -/

section OldFile

/-- Bytes and letters of ASCII. -/
local instance asciiText : PathText where
  fsdecode raw := raw.map UInt8.toNat
  casefold name := name.map fun c => if 65 ≤ c ∧ c ≤ 90 then c + 32 else c
  utf8Decode raw := some (raw.map UInt8.toNat)
  fsdecode_slash head tail := by rw [List.map_append, List.map_cons]; rfl
  casefold_slash := by decide

local instance noContentRules : ContentRules where
  contentRules := []
  restrictedContentRules := []

local instance auditDigests : AuditDigests where
  bytesDigest data := if data = [] then EMPTY_CONTENT_DIGEST else "sha256:"
  scanScopeDigest _ _ _ _ _ := "sha256:"
  bytesDigest_nil := rfl

def ignoreBlobId : Bytes :=
  [130, 54, 112, 7, 142, 242, 123, 32, 48, 96, 98, 66, 18, 72, 226, 80, 191, 227, 46, 139]

def scannerBlobId : Bytes :=
  [84, 116, 133, 115, 19, 85, 15, 196, 131, 57, 120, 204, 97, 188, 242, 89, 144, 68, 10, 61]

def stateBlobId : Bytes :=
  [255, 114, 181, 199, 62, 253, 220, 237, 35, 134, 173, 190, 32, 203, 107, 156, 80, 15, 154,
    144]

def oldTreeId : Bytes :=
  [19, 219, 160, 248, 79, 193, 233, 91, 4, 181, 156, 133, 214, 245, 165, 138, 231, 128, 240, 57]

def oldCommitId : Bytes :=
  [100, 46, 238, 151, 68, 110, 6, 255, 212, 116, 50, 66, 57, 241, 236, 117, 10, 237, 60, 125]

def tipTreeId : Bytes :=
  [134, 212, 114, 154, 15, 177, 17, 85, 114, 231, 10, 82, 136, 5, 103, 17, 128, 193, 108, 12]

def tipCommitId : Bytes :=
  [177, 228, 253, 184, 87, 13, 59, 13, 110, 103, 102, 223, 61, 9, 184, 80, 72, 99, 176, 51]

def privateIgnores : List Bytes :=
  [ascii "/.edagym/", ascii "/.edagym-state/", ascii "/.env", ascii "/.env.*",
    ascii "/artifacts/", ascii "/auth.json", ascii "/credentials/", ascii "/runs/",
    ascii "/secrets/", ascii "/workspaces/"]

def repositoryPolicy : RepositoryPolicy where
  requiredTempIgnore := ascii "/temp/"
  requiredPrivateIgnores := privateIgnores
  scannerConfig := text ".gitleaks.toml"

def ignoreContent : Bytes := terminated (ascii "/temp/" :: privateIgnores)

def scannerContent : Bytes := ascii "[extend]\nuseDefault = true\n"

def oldEntry : GitTreeEntry := ⟨ascii "100644", ascii "runs", stateBlobId⟩

def tipEntries : List GitTreeEntry :=
  [⟨ascii "100644", ascii ".gitignore", ignoreBlobId⟩,
    ⟨ascii "100644", ascii ".gitleaks.toml", scannerBlobId⟩]

def signature : Bytes :=
  ascii "author t <t@t> 0 +0000\n" ++ ascii "committer t <t@t> 0 +0000\n\n"

/-- The first commit holds a file `runs`, the second one the files that the policy wants. -/
def oldFileDatabase : GitDatabase where
  format := .sha1
  objects := [
    ⟨hexOf ignoreBlobId, .blob, ignoreContent⟩,
    ⟨hexOf scannerBlobId, .blob, scannerContent⟩,
    ⟨hexOf stateBlobId, .blob, ascii "state\n"⟩,
    ⟨hexOf oldTreeId, .tree, oldEntry.bytes⟩,
    ⟨hexOf oldCommitId, .commit,
      ascii "tree " ++ hexOf oldTreeId ++ LF :: (signature ++ ascii "first\n")⟩,
    ⟨hexOf tipTreeId, .tree, tipEntries.flatMap GitTreeEntry.bytes⟩,
    ⟨hexOf tipCommitId, .commit,
      ascii "tree " ++ hexOf tipTreeId ++ LF :: (ascii "parent " ++ hexOf oldCommitId ++
        LF :: (signature ++ ascii "second\n"))⟩]

def objectReply (db : GitDatabase) (objectId : GitObjectId) : CatFileReply :=
  match db.objects.find? fun object => object.objectId = objectId with
  | some object =>
    { header := some (object.objectId, object.objectType, object.content.length)
      reads := [object.content]
      newline := true }
  | none => { header := none, reads := [], newline := true }

def oldFileScan : CatFile where
  objectFormat := .ok .sha1
  reply := objectReply oldFileDatabase
  returnCode := 0

def tipIndex : List GitEntry :=
  [{ mode := ascii "100644", objectId := hexOf ignoreBlobId, path := text ".gitignore" },
    { mode := ascii "100644", objectId := hexOf scannerBlobId, path := text ".gitleaks.toml" }]

def tipRawIndex : Bytes :=
  ascii "100644 " ++ hexOf ignoreBlobId ++ ascii " 0\t.gitignore" ++
    0 :: (ascii "100644 " ++ hexOf scannerBlobId ++ ascii " 0\t.gitleaks.toml" ++ [0])

def oldFileCapture : CaptureAnswers where
  objectFormat := .ok .sha1
  headCommit := .ok (hexOf tipCommitId)
  headTree := .ok (hexOf tipTreeId)
  rawIndex := .ok tipRawIndex
  indexEntries := .ok tipIndex
  indexTree := .ok (hexOf tipTreeId)
  status := .ok []
  untracked := .ok []
  diffIndexClean := .ok true
  diffFilesClean := .ok true
  refRecords := .ok (hexOf tipCommitId ++ 0 :: ascii "refs/heads/main\n")
  reflogInventory := .ok (ascii "[]")
  lfsObjectInventory := .ok (ascii "[]")
  allObjects := .ok (oldFileDatabase.objects.map fun object =>
    ⟨object.objectId, object.objectType, object.content.length⟩)
  headCommitAgain := .ok (hexOf tipCommitId)
  rawIndexAgain := .ok tipRawIndex
  indexTreeAgain := .ok (hexOf tipTreeId)
  statusAgain := .ok []
  headEntries := .ok tipIndex

def oldFileAnswers : AuditAnswers where
  opened := true
  first := oldFileCapture
  blob objectId :=
    match oldFileDatabase.objects.find? fun object => object.objectId = objectId with
    | some object => .ok object.content
    | none => .error .gitFailure
  indexScan := oldFileScan
  trackedScan := oldFileScan
  release := {
    shallow := .ok (ascii "false")
    partialClone := 1
    alternates := .ok false
    fsck := 0
    reflogRules := .ok []
    reflogInventory := .ok (ascii "[]") }
  objectScan := oldFileScan
  lfs := { localFiles := .ok [], inventory := .ok (ascii "[]"), trusted := false, fsck := 0 }
  scanner := {
    config := .ok (true, scannerContent)
    configIsSymlink := false
    strictConfig := fun _ => true
    trusted := true
    hasInput := true
    corpusComplete := true
    returnCode := 0
    configAfter := .ok scannerContent }
  final := oldFileCapture

lemma oldFile_passes : ∃ report,
    auditRepository oldFileAnswers .release repositoryPolicy = .ok report ∧
      report.status = .pass := by
  have hstatus : (auditRepository oldFileAnswers .release repositoryPolicy).toOption.map
      AuditReport.status = some .pass := by decide +kernel
  cases hreport : auditRepository oldFileAnswers .release repositoryPolicy with
  | error failure =>
    rw [hreport] at hstatus
    cases hstatus
  | ok report =>
    rw [hreport] at hstatus
    exact ⟨report, rfl, Option.some.inj hstatus⟩

lemma oldFile_settled : oldFileCapture.Settled := fun _ => rfl

lemma oldFile_reported (state : CapturedRepositoryState)
    (h : captureRepositoryState oldFileCapture = .ok state) :
    oldFileDatabase.Reported state.objectDescriptions oldFileScan where
  format := rfl
  described object hobject := by
    have hobjects := captureRepositoryState_objects h
    rw [← Except.ok.inj hobjects]
    exact List.mem_map_of_mem hobject
  content := by decide +kernel

lemma oldFile_commitPath : oldFileDatabase.CommitPath [oldEntry] := by
  refine ⟨hexOf oldTreeId, ⟨⟨hexOf oldCommitId, .commit,
    ascii "tree " ++ hexOf oldTreeId ++ LF :: (signature ++ ascii "first\n")⟩, ?_, rfl, ?_⟩, ?_⟩
  · simp [oldFileDatabase]
  · rfl
  · refine .leaf ⟨oldEntry.bytes, by simp [oldFileDatabase], ?_, ?_⟩ (List.mem_singleton_self _) ?_
    · rw [List.forall_mem_singleton]
      exact ⟨by decide, by decide, rfl⟩
    · rfl
    · decide

/-- The audit of the repository passes, and its first commit holds a path that the audit of the tip
reports. -/
theorem old_file_passes :
    ∃ report, auditRepository oldFileAnswers .release repositoryPolicy = .ok report ∧
      report.status = .pass ∧ oldFileAnswers.first.Settled ∧
      (∀ state, captureRepositoryState oldFileAnswers.first = .ok state →
        oldFileDatabase.Reported state.objectDescriptions oldFileAnswers.objectScan) ∧
      oldFileDatabase.CommitPath [oldEntry] ∧
      auditPath (pathText [oldEntry]) = ["runtime-state-directory"] := by
  obtain ⟨report, hreport, hpass⟩ := oldFile_passes
  exact ⟨report, hreport, hpass, oldFile_settled, oldFile_reported, oldFile_commitPath,
    by decide +kernel⟩

/-- The audit of this history passes, and the file at the root of its first commit is its gap. -/
theorem old_file_gap :
    ∃ report, auditRepository oldFileAnswers .release repositoryPolicy = .ok report ∧
      Covered report.coverage ∧ (oldFileDatabase.Publishable ↔ oldFileDatabase.NoGap) := by
  obtain ⟨report, hreport, hpass⟩ := oldFile_passes
  obtain ⟨hcovered, -, hgap⟩ := release_audit_covers_history.2 oldFileDatabase oldFileAnswers
    repositoryPolicy report hreport hpass oldFile_settled oldFile_reported
  exact ⟨report, hreport, hcovered, hgap⟩

end OldFile

end EdaGym
