import EdaGym.Policy.History
import EdaGym.Policy.RepositoryAudit

/-!
# Audits that pass

A release audit that passes has covered every scope, ends with a clean snapshot, and its scan of the
history covers what the audit of the tip covers, but for a gap.
-/

namespace EdaGym

open AuditState

variable [PathText] [ContentRules]

/-! ### Each step, when the audit passes -/

section Steps

variable {s s' : AuditState}

omit [PathText] [ContentRules] in
lemma auditRepositoryFiles_passing {policy : RepositoryPolicy}
    {blob : GitObjectId → Except PolicyFailure Bytes} {entries : List GitEntry}
    (h : auditRepositoryFiles policy blob entries s = (s', none)) (hpass : s'.Passing) :
    s.Passing ∧ s'.coverage = Function.update s.coverage .repositoryIgnore (some .complete) := by
  rw [auditRepositoryFiles] at h
  split at h <;> simp only [Prod.mk.injEq, reduceCtorEq, and_false, and_true] at h
  · subst h
    simp only [passing_cover, passing_found] at hpass
    exact ⟨hpass.1, rfl⟩
  · subst h
    simp only [passing_cover, passing_found] at hpass
    exact ⟨hpass.1, rfl⟩
  · subst h
    simp at hpass

variable {process : CatFile}

lemma auditEntries_passing {entries : List GitEntry} {pathScope objectScope : FindingScope}
    (h : auditEntries process entries pathScope objectScope s = (s', none)) (hpass : s'.Passing) :
    s.Passing ∧ s'.coverage = s.coverage := by
  simp only [auditEntries] at h
  split at h <;> simp only [Prod.mk.injEq, reduceCtorEq, and_false, and_true] at h
  subst h
  simp only [passing_found] at hpass
  exact ⟨hpass.1.1, rfl⟩

variable {state : Option CapturedRepositoryState}

lemma indexBody_passing {policy : RepositoryPolicy}
    {blob : GitObjectId → Except PolicyFailure Bytes}
    (h : indexBody policy blob process state s = (s', none)) (hpass : s'.Passing) :
    s.Passing ∧ s'.coverage = Function.update (Function.update (Function.update s.coverage
      .repositoryIgnore (some .complete)) .indexPaths (some .complete))
      .indexObjects (some .complete) := by
  simp only [indexBody] at h
  split at h
  · cases h
  · rename_i state
    split at h
    · cases h
    · rename_i filesState hfiles
      split at h
      · cases h
      · rename_i entriesState hentries
        cases h
        simp only [passing_cover] at hpass
        obtain ⟨hpass, hcoverage⟩ := auditEntries_passing hentries hpass
        simp only [passing_found] at hpass
        obtain ⟨hpass, hfilesCoverage⟩ := auditRepositoryFiles_passing hfiles hpass.1
        refine ⟨hpass, ?_⟩
        rw [coverage_cover, coverage_cover, hcoverage, coverage_found, hfilesCoverage]

lemma trackedBody_passing (h : trackedBody process state s = (s', none)) (hpass : s'.Passing) :
    s.Passing ∧ s'.coverage = Function.update (Function.update s.coverage
      .trackedPaths (some .complete)) .trackedObjects (some .complete) := by
  simp only [trackedBody] at h
  split at h
  · cases h
  · split at h
    · cases h
    · rename_i hentries
      cases h
      simp only [passing_cover] at hpass
      obtain ⟨hpass, hcoverage⟩ := auditEntries_passing hentries hpass
      exact ⟨hpass, by rw [coverage_cover, coverage_cover, hcoverage]⟩

variable {answers : ReleaseAnswers}

omit [PathText] [ContentRules] in
lemma storageBody_passing (h : storageBody answers s = (s', none)) (hpass : s'.Passing) :
    s.Passing ∧ s'.coverage = Function.update s.coverage .repositoryStorage (some .complete) := by
  simp only [storageBody] at h
  split at h
  · cases h
  · split_ifs at h
    · cases h
    · cases h
    split at h
    · cases h
    · cases h
      simp only [passing_cover, passing_issueIf] at hpass
      refine ⟨hpass.1.1.1, ?_⟩
      rw [coverage_cover, coverage_issueIf, coverage_issueIf, coverage_issueIf]

omit [PathText] [ContentRules] in
lemma auditGitIntegrity_passing (hpass : (auditGitIntegrity answers s).Passing) :
    s.Passing ∧ (auditGitIntegrity answers s).coverage =
      Function.update s.coverage .repositoryIntegrity (some .complete) := by
  rw [auditGitIntegrity] at hpass ⊢
  split_ifs at hpass ⊢ with hfsck
  · rw [passing_cover] at hpass
    exact ⟨hpass, rfl⟩
  · simp at hpass

omit [ContentRules] in
lemma refLoop_passing {records : List Bytes} (h : refLoop records s = (s', none))
    (hpass : s'.Passing) : s.Passing ∧ s'.coverage = s.coverage := by
  induction records generalizing s with
  | nil =>
    cases h
    exact ⟨hpass, rfl⟩
  | cons record records ih =>
    rw [refLoop] at h
    split at h
    · cases h
    · obtain ⟨hrest, hcoverage⟩ := ih h
      split_ifs at hrest hcoverage
      · exact ⟨hrest, hcoverage⟩
      · rw [passing_found] at hrest
        exact ⟨hrest.1, hcoverage⟩

lemma refsBody_passing {refRecords : Option Bytes} (h : refsBody refRecords s = (s', none))
    (hpass : s'.Passing) :
    s.Passing ∧ s'.coverage = Function.update s.coverage .gitRefs (some .complete) := by
  simp only [refsBody] at h
  split at h
  · cases h
  · split at h
    · cases h
    · rename_i hloop
      cases h
      rw [passing_cover] at hpass
      obtain ⟨hpass, hcoverage⟩ := refLoop_passing hloop hpass
      rw [passing_found] at hpass
      exact ⟨hpass.1, by rw [coverage_cover, hcoverage, coverage_found]⟩

omit [PathText] [ContentRules] in
lemma reflogsBody_passing {expected : Option Bytes}
    (h : reflogsBody answers expected s = (s', none)) (hpass : s'.Passing) :
    s.Passing ∧ s'.coverage = Function.update s.coverage .gitReflogs (some .complete) := by
  simp only [reflogsBody] at h
  split at h
  · cases h
  · split at h
    · cases h
    · split at h
      · cases h
      · split_ifs at h
        · cases h
        cases h
        simp only [passing_cover, passing_found] at hpass
        exact ⟨hpass.1, rfl⟩

/-- The object database is covered by scans that find nothing. -/
lemma auditObjectDatabase_passing
    {scans : List ObjectScan} (h : auditObjectDatabase process state s = .ok (scans, s'))
    (hpass : s'.Passing) :
    (∃ captured, state = some captured ∧
        scanObjects process captured.objectDescriptions = .ok scans) ∧
      addObjectFindings scans = [] ∧ s.Passing ∧
      s'.coverage = Function.update s.coverage .objectDatabase (some .complete) := by
  rw [auditObjectDatabase] at h
  split at h
  · rename_i found hscans
    cases h
    cases state with
    | none => cases hscans
    | some captured =>
      simp only [passing_cover, passing_found] at hpass
      exact ⟨⟨captured, rfl, hscans⟩, hpass.2, hpass.1, rfl⟩
  · split_ifs at h
    cases h
    simp at hpass

end Steps

/-! ### Large files -/

section Lfs

variable {s : AuditState}

section

omit [PathText] [ContentRules]

lemma foldl_passing {α : Type*} {f : AuditState → α → AuditState}
    (hf : ∀ s x, (f s x).Passing → s.Passing ∧ (f s x).coverage = s.coverage) (xs : List α)
    (hpass : (xs.foldl f s).Passing) : s.Passing ∧ (xs.foldl f s).coverage = s.coverage := by
  induction xs generalizing s with
  | nil => exact ⟨hpass, rfl⟩
  | cons x xs ih =>
    obtain ⟨hstep, hcoverage⟩ := ih hpass
    obtain ⟨hbefore, hsame⟩ := hf s x hstep
    exact ⟨hbefore, hcoverage.trans hsame⟩

lemma not_passing_lfsIncomplete {code : String} : ¬ (s.lfsIncomplete code).Passing := by
  simp [lfsIncomplete]

lemma lfsIncompleteIf_passing {c : Bool} {code : String}
    (hpass : (s.lfsIncompleteIf c code).Passing) :
    c = false ∧ s.Passing ∧ s.lfsIncompleteIf c code = s := by
  rw [lfsIncompleteIf] at hpass ⊢
  cases c with
  | false => exact ⟨rfl, hpass, rfl⟩
  | true => exact absurd hpass not_passing_lfsIncomplete

end

variable {pointers : List (Bytes × Nat)}

section

omit [PathText] [ContentRules]

variable {localFiles : List LfsFile}

lemma lfsPointerStep_passing (s : AuditState) (pointerId : Bytes)
    (hpass : (lfsPointerStep pointers localFiles s pointerId).Passing) :
    s.Passing ∧ (lfsPointerStep pointers localFiles s pointerId).coverage = s.coverage := by
  rw [lfsPointerStep] at hpass ⊢
  obtain ⟨-, hbefore, heq⟩ := lfsIncompleteIf_passing hpass
  rw [heq, coverage_found]
  exact ⟨(passing_found.mp hbefore).1, rfl⟩

lemma lfsFileStep_passing (s : AuditState) (item : LfsFile)
    (hpass : (lfsFileStep pointers s item).Passing) :
    s.Passing ∧ (lfsFileStep pointers s item).coverage = s.coverage := by
  simp only [lfsFileStep] at hpass ⊢
  split at hpass
  · simp at hpass
  · exact absurd hpass not_passing_lfsIncomplete
  · rw [passing_found] at hpass
    obtain ⟨-, hsize, heqSize⟩ := lfsIncompleteIf_passing hpass.1
    obtain ⟨-, hhash, heqHash⟩ := lfsIncompleteIf_passing hsize
    rw [coverage_found, heqSize, heqHash, coverage_found]
    exact ⟨(passing_found.mp hhash).1, rfl⟩

variable {answers : LfsAnswers}

lemma auditUsedLfs_passing (hpass : (auditUsedLfs answers pointers localFiles s).Passing) :
    s.Passing ∧ (s.coverage .gitLfs = none →
      (auditUsedLfs answers pointers localFiles s).coverage =
        Function.update s.coverage .gitLfs (some .complete)) := by
  simp only [auditUsedLfs] at hpass ⊢
  have hfolds : ∀ start : AuditState,
      (localFiles.foldl (lfsFileStep pointers) ((pointers.map Prod.fst).dedup.foldl
        (lfsPointerStep pointers localFiles) start)).Passing →
      start.Passing ∧ (localFiles.foldl (lfsFileStep pointers)
        ((pointers.map Prod.fst).dedup.foldl
          (lfsPointerStep pointers localFiles) start)).coverage = start.coverage := by
    intro start hstart
    obtain ⟨hpointers, hfiles⟩ := foldl_passing lfsFileStep_passing _ hstart
    obtain ⟨hbefore, hsame⟩ := foldl_passing lfsPointerStep_passing _ hpointers
    exact ⟨hbefore, hfiles.trans hsame⟩
  by_cases htrusted : answers.trusted = true
  · rw [if_pos htrusted] at hpass ⊢
    have hstart : (s.lfsIncompleteIf (answers.fsck ≠ 0) "git-lfs-fsck-failed").Passing := by
      split_ifs at hpass
      · exact (hfolds _ (passing_cover.mp hpass)).1
      · exact (hfolds _ hpass).1
    obtain ⟨-, hbefore, heq⟩ := lfsIncompleteIf_passing hstart
    rw [heq] at hpass ⊢
    have hrun : (localFiles.foldl (lfsFileStep pointers) ((pointers.map Prod.fst).dedup.foldl
        (lfsPointerStep pointers localFiles) s)).Passing := by
      split_ifs at hpass
      · exact passing_cover.mp hpass
      · exact hpass
    obtain ⟨-, hcoverage⟩ := hfolds s hrun
    refine ⟨hbefore, ?_⟩
    intro hnone
    rw [if_pos (by rw [hcoverage]; exact hnone), coverage_cover, hcoverage]
  · rw [if_neg htrusted] at hpass
    split_ifs at hpass
    · exact absurd (hfolds _ (passing_cover.mp hpass)).1 not_passing_lfsIncomplete
    · exact absurd (hfolds _ hpass).1 not_passing_lfsIncomplete

lemma auditReadLfs_passing {stable : Bool}
    (hpass : (auditReadLfs answers pointers localFiles stable s).Passing) :
    s.Passing ∧ (s.coverage .gitLfs = none →
      (auditReadLfs answers pointers localFiles stable s).coverage =
          Function.update s.coverage .gitLfs (some .complete) ∨
        (auditReadLfs answers pointers localFiles stable s).coverage =
          Function.update s.coverage .gitLfs (some .notUsed)) := by
  rw [auditReadLfs] at hpass ⊢
  cases stable with
  | false =>
    exfalso
    simp only [Bool.false_eq_true, if_false] at hpass
    split_ifs at hpass
    · exact not_passing_lfsIncomplete hpass
    · exact not_passing_lfsIncomplete (auditUsedLfs_passing hpass).1
  | true =>
    simp only [if_true] at hpass ⊢
    split_ifs at hpass ⊢
    · exact ⟨passing_cover.mp hpass, fun _ => Or.inr rfl⟩
    · obtain ⟨hbefore, hcoverage⟩ := auditUsedLfs_passing hpass
      exact ⟨hbefore, fun hnone => Or.inl (hcoverage hnone)⟩

/-- Large files are covered or not used. -/
lemma auditLfs_passing {scans : List ObjectScan} {expected : Option Bytes}
    {s' : AuditState} (h : auditLfs answers scans expected s = .ok s') (hpass : s'.Passing) :
    s.Passing ∧ (s.coverage .gitLfs = none →
      s'.coverage = Function.update s.coverage .gitLfs (some .complete) ∨
        s'.coverage = Function.update s.coverage .gitLfs (some .notUsed)) := by
  simp only [auditLfs] at h
  split at h
  · cases h
  · cases h
    simp at hpass
  · split at h
    · cases h
    · cases h
      simp at hpass
    · cases h
      exact auditReadLfs_passing hpass

end

end Lfs

/-! ### The external scanner -/

variable {s : AuditState}

omit [PathText] [ContentRules] in
lemma not_passing_scannerIncomplete {code : String} : ¬ (s.scannerIncomplete code).Passing := by
  simp [scannerIncomplete]

variable {policy : RepositoryPolicy}

omit [PathText] [ContentRules] in
lemma runExternalScanner_passing
    {blob : GitObjectId → Except PolicyFailure Bytes} {answers : ScannerAnswers}
    {state : Option CapturedRepositoryState}
    (hpass : (runExternalScanner policy blob answers state s).Passing) :
    s.Passing ∧ (runExternalScanner policy blob answers state s).coverage =
      Function.update s.coverage .externalScanner (some .complete) := by
  rw [runExternalScanner] at hpass ⊢
  split at hpass
  · exact absurd hpass not_passing_scannerIncomplete
  · split_ifs at hpass ⊢
    all_goals try exact absurd hpass not_passing_scannerIncomplete
    · exact ⟨passing_cover.mp hpass, rfl⟩
    · simp at hpass

/-! ### The report -/

omit [PathText] [ContentRules] in
/-- A report passes when there is neither an issue nor a finding. -/
lemma buildReport_pass {mode : AuditMode} {snapshot : Option RepositorySnapshot} :
    (buildReport mode s snapshot).status = .pass ↔ s.Passing := by
  rw [buildReport]
  constructor
  · intro h
    dsimp only at h
    split_ifs at h with herror hincomplete hfinding
    refine ⟨?_, not_not.mp hfinding⟩
    rw [List.eq_nil_iff_forall_not_mem]
    intro issue hissue
    simp only [List.any_eq_true, decide_eq_true_eq, not_exists, not_and] at herror hincomplete
    cases hseverity : issue.severity with
    | incomplete => exact hincomplete issue hissue hseverity
    | error => exact herror issue hissue hseverity
  · rintro ⟨hissue, hfinding⟩
    simp [hissue, hfinding]

/-- Every scope is covered; large files may be unused. -/
def Covered (coverage : CoverageScope → Option CoverageStatus) : Prop :=
  ∀ scope, coverage scope = some .complete ∨ (scope = .gitLfs ∧ coverage scope = some .notUsed)

/-- What covers a scope of a release audit: its own step, or the audit of the index and the tip. -/
lemma auditRelease_passing {answers : AuditAnswers}
    {state : Option CapturedRepositoryState} {s s' : AuditState}
    (h : auditRelease answers policy state s = .ok s') (hpass : s'.Passing) :
    s.Passing ∧
      (∃ captured scans, state = some captured ∧ addObjectFindings scans = [] ∧
        scanObjects answers.objectScan captured.objectDescriptions = .ok scans) ∧
      (s.coverage .gitLfs = none → ∀ scope, s'.coverage scope = some .complete ∨
        (scope = .gitLfs ∧ s'.coverage scope = some .notUsed) ∨
        (s'.coverage scope = s.coverage scope ∧ scope ∈ [CoverageScope.repositoryIgnore,
          .indexPaths, .indexObjects, .trackedPaths, .trackedObjects])) := by
  simp only [auditRelease, bind_eq_ok, pure_eq_ok] at h
  obtain ⟨storage, hstorage, refs, hrefs, reflogs, hreflogs, ⟨scans, objects⟩, hobjects, lfs, hlfs,
    rfl⟩ := h
  obtain ⟨hlfsPass, hscannerCoverage⟩ := runExternalScanner_passing hpass
  obtain ⟨hobjectsPass, hlfsCoverage⟩ := auditLfs_passing hlfs hlfsPass
  obtain ⟨⟨captured, hstate, hscans⟩, hfindings, hreflogsPass, hobjectsCoverage⟩ :=
    auditObjectDatabase_passing hobjects hobjectsPass
  obtain ⟨hrefsPass, hreflogsCoverage⟩ := reflogsBody_passing
    (guarded_passing (fun s => by simp [reflogsHandler]) hreflogs hreflogsPass) hreflogsPass
  obtain ⟨hintegrityPass, hrefsCoverage⟩ := refsBody_passing
    (guarded_passing (fun s => by simp [refsHandler]) hrefs hrefsPass) hrefsPass
  obtain ⟨hstoragePass, hintegrityCoverage⟩ := auditGitIntegrity_passing hintegrityPass
  obtain ⟨hstart, hstorageCoverage⟩ := storageBody_passing
    (guarded_passing (fun s => by simp [storageHandler]) hstorage hstoragePass) hstoragePass
  refine ⟨hstart, ⟨captured, scans, hstate, hfindings, hscans⟩, ?_⟩
  intro hnone scope
  have hobjectsNone : objects.coverage .gitLfs = none := by
    rw [hobjectsCoverage, hreflogsCoverage, hrefsCoverage, hintegrityCoverage, hstorageCoverage]
    simpa [Function.update] using hnone
  rw [hscannerCoverage]
  rcases hlfsCoverage hobjectsNone with hcoverage | hcoverage
  · rw [hcoverage, hobjectsCoverage, hreflogsCoverage, hrefsCoverage, hintegrityCoverage,
      hstorageCoverage]
    cases scope <;> simp [Function.update]
  · rw [hcoverage, hobjectsCoverage, hreflogsCoverage, hrefsCoverage, hintegrityCoverage,
      hstorageCoverage]
    cases scope <;> simp [Function.update]

omit [PathText] [ContentRules] in
/-- A passing audit has seen no change at its end. -/
lemma auditFinalState_passing {mode : AuditMode} {state final : Option CapturedRepositoryState}
    (hpass : (auditFinalState mode state final s).Passing) :
    s.Passing ∧ auditFinalState mode state final s = s := by
  rw [auditFinalState] at hpass ⊢
  split_ifs at hpass ⊢
  · simp at hpass
  · simp at hpass
  · exact ⟨hpass, rfl⟩

variable [AuditDigests]

/-- A release audit that passes. -/
theorem auditOpenRepository_passing {answers : AuditAnswers}
    {report : AuditReport} (h : auditOpenRepository answers .release policy = .ok report)
    (hpass : report.status = .pass) :
    ∃ captured scans, captureRepositoryState answers.first = .ok captured ∧
      report.snapshot = some captured.snapshot ∧ captured.indexClean = true ∧
      captured.worktreeClean = true ∧ Covered report.coverage ∧ addObjectFindings scans = [] ∧
      scanObjects answers.objectScan captured.objectDescriptions = .ok scans := by
  simp only [auditOpenRepository, bind_eq_ok, pure_eq_ok] at h
  obtain ⟨state, hstate, index, hindex, tracked, htracked, mode, hmode, final, -, rfl⟩ := h
  rw [buildReport_pass] at hpass
  obtain ⟨hmodePass, heq⟩ := auditFinalState_passing hpass
  rw [heq]
  rw [auditMode] at hmode
  obtain ⟨hdirty, ⟨captured, scans, rfl, hfindings, hscans⟩, hcoverage⟩ :=
    auditRelease_passing hmode hmodePass
  simp only [passing_issueIf, Option.any_some, decide_eq_false_iff_not, not_not] at hdirty
  obtain ⟨⟨htrackedPass, hindexClean⟩, hworktreeClean⟩ := hdirty
  obtain ⟨hindexPass, htrackedCoverage⟩ := trackedBody_passing
    (guarded_passing (fun s => by simp [trackedHandler]) htracked htrackedPass) htrackedPass
  obtain ⟨-, hindexCoverage⟩ := indexBody_passing
    (guarded_passing (fun s => by simp [indexHandler]) hindex hindexPass) hindexPass
  have hcapture : captureRepositoryState answers.first = .ok captured := by
    rw [caughtCapture] at hstate
    split at hstate
    · rename_i hok
      cases hstate
      exact hok
    · split_ifs at hstate
      cases hstate
  refine ⟨captured, scans, hcapture, rfl, hindexClean, hworktreeClean, ?_, hfindings, hscans⟩
  intro scope
  have hscope := hcoverage (by
    rw [coverage_issueIf, coverage_issueIf, htrackedCoverage, hindexCoverage, coverage_issueIf]
    rfl) scope
  rw [coverage_issueIf, coverage_issueIf, htrackedCoverage, hindexCoverage] at hscope
  rcases hscope with hcomplete | hunused | ⟨hsame, hmem⟩
  · exact Or.inl hcomplete
  · exact Or.inr hunused
  · left
    refine hsame.trans ?_
    revert hmem
    cases scope <;> simp [Function.update]

end EdaGym
