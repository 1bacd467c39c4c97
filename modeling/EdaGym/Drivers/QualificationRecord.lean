import EdaGym.Drivers.EvidenceChecks
import EdaGym.Drivers.QualificationLoop

/-!
# Which executions are recorded

An execution is recorded when it returns evidence that its own validator accepts. The validator
expects a time-out to end with an unexpected status, and a change noticed after a command to leave
the expected status; an execution in which that fails raises instead of leaving a record. So does
one that loses the mounts of its deployment before a command, an asset before the first command, or
the right to read a file that a command has left.
-/

namespace EdaGym

namespace QualificationCall

open QualificationEvidence RecordedCase

variable (call : QualificationCall) (ids : QualificationIdentities) (role : FixtureRole)
  (b : FixtureBehaviour)

/-! ### What happens in an execution -/

/-- The first `index` commands of a role are uneventful. -/
def Reached (index : Nat) : Prop :=
  call.UneventfulUpTo b.command 0 call.fixture.invocations (call.fixture.exitCodesFor role) index

/-- The run in which every command is uneventful. -/
def uneventfulRun : FixtureRun where
  exitCodes := call.fixture.exitCodesFor role
  stdoutFiles := (List.range call.fixture.invocations.length).map fun i => (b.command i).stdout
  stderrFiles := (List.range call.fixture.invocations.length).map fun i => (b.command i).stderr

/-- Every command is uneventful. -/
def AllUneventful : Prop := call.Reached role b call.fixture.invocations.length

/-- The parser's verdict is the one the role expects. -/
def ParserExpected : Prop :=
  ∃ rejection accepted,
    call.fixture.parser.rejection (call.observation (call.uneventfulRun role b) b.files) =
        .ok rejection ∧
      call.fixture.parser.accepts (call.observation (call.uneventfulRun role b) b.files) =
        .ok accepted ∧
      match role with
      | .acceptance => accepted = true ∧ rejection = none
      | .rejection => accepted = false ∧ rejection = call.fixture.rejectionReason

/-- The parser raises. -/
def ParserRaises : Prop :=
  (∃ error, call.fixture.parser.rejection
      (call.observation (call.uneventfulRun role b) b.files) = .error error) ∨
    ∃ error, call.fixture.parser.accepts
      (call.observation (call.uneventfulRun role b) b.files) = .error error

/-- Every invocation ran with its expected exit code, no change was noticed, every required output
exists, and the parser's verdict is the one the role expects. -/
structure Passes : Prop where
  uneventful : call.AllUneventful role b
  outputs : call.missingOutput b.files = false
  parser : call.ParserExpected role b

/-- Something happens at a command that is reached. -/
def AtReached (happens : FixtureInvocation → Int → CommandBehaviour → Prop) : Prop :=
  ∃ index invocation expected, call.fixture.invocations[index]? = some invocation ∧
    (call.fixture.exitCodesFor role)[index]? = some expected ∧ call.Reached role b index ∧
      happens invocation expected (b.command index)

/-- The failure that evidence names has occurred. -/
def Occurred : QualificationFailure → Prop
  | .timedOut => call.AtReached role b fun invocation _ command =>
      call.Reaped invocation command ∧ command.timedOut = true
  | .executionClosureChanged => call.AtReached role b fun invocation _ command =>
      (invocation.isTool = true ∧
        (command.closureBefore && call.deploymentValid command.deploymentBefore) = false) ∨
      (call.Reaped invocation command ∧ call.ClosureChangedAfter invocation command)
  | .restrictedAssetChanged => call.AtReached role b fun invocation _ command =>
      (invocation.isTool = true ∧ call.assetsValid command.assetsBefore = false) ∨
      (call.Reaped invocation command ∧ call.AssetChangedAfter command)
  | .programUnavailable => call.AtReached role b fun invocation _ command =>
      call.Unavailable invocation command
  | .toolExited => call.AtReached role b fun invocation expected command =>
      call.Reaped invocation command ∧ command.exitCode ≠ expected
  | .outputMissing => call.AllUneventful role b ∧ call.missingOutput b.files = true
  | .parserRejected => call.AllUneventful role b ∧ call.missingOutput b.files = false ∧
      ¬ call.ParserRaises role b ∧ ¬ call.ParserExpected role b
  | .parserCrashed => call.AllUneventful role b ∧ call.missingOutput b.files = false ∧
      call.ParserRaises role b

/-- What a command has left in its two log files. -/
def Logs (invocation : FixtureInvocation) (command : CommandBehaviour) (log : Bytes) : Prop :=
  (call.Reaped invocation command ∧ (log = command.stdout ∨ log = command.stderr)) ∨
    (¬ call.Reaped invocation command ∧ log = [])

/-- A log of a command that is reached. -/
def Leaves (log : Bytes) : Prop :=
  call.AtReached role b fun invocation _ command => call.Logs invocation command log

/-! ### Behaviours that can be recorded -/

section Recordable

variable [ContentRules]

/-- The store admits chunks as evidence. -/
def AdmitsEvidence (chunks : List Bytes) : Prop :=
  call.artifactStore.PutAdmitted { chunks } (call.artifactDisclosure.forClass .evidence)

/-- What an execution is given can be read and stored, and so can the files that are left. -/
structure Supplied : Prop where
  materialized : call.fixture.restrictedAssets = [] ∨ b.assetsMaterialized = true
  readable : ∀ file ∈ b.files, file.2.openable = true
  inputs : ∀ inputs, call.fixture.inputsFor role = .ok inputs → ∀ source ∈ inputs,
    call.AdmitsEvidence (fileChunks source.content)
  manifest : ∀ runtime ∈ call.installation.rootlessImageRuntime,
    call.AdmitsEvidence [runtime.packageManifest]
  outputs : ∀ present ∈ call.presentOutputs b.files,
    call.AdmitsEvidence (fileChunks present.2.content)

/-- The store admits logs as they are retained, and raw beside a projection that does not pass. -/
structure LogsAdmitted (leaves : Bytes → Prop) (passes : Prop) : Prop where
  evidence : ∀ log, leaves log → call.AdmitsEvidence (logChunks call.fixture.logProjection log)
  diagnostics : call.fixture.logProjection.isSome = true → ¬ passes → ∀ log, leaves log →
    call.artifactStore.PutAdmitted { chunks := fileChunks log }
      (PROTECTED_RAW_DISCLOSURE.forClass .diagnostic)

/-- A command at which an execution can be recorded. -/
structure RecordableAt (invocation : FixtureInvocation) (expected : Int) (b : CommandBehaviour) :
    Prop where
  mounted : call.Launched invocation b → call.mountError b = none
  killed : call.Reaped invocation b → b.timedOut = true → b.exitCode ≠ expected
  unchanged : call.Reaped invocation b → b.timedOut = false →
    call.ClosureChangedAfter invocation b ∨ call.AssetChangedAfter b → b.exitCode = expected

/-- A behaviour under which an execution can be recorded. -/
structure Recordable : Prop where
  supplied : call.Supplied role b
  logs : call.LogsAdmitted (call.Leaves role b) (call.Passes role b)
  commands : ∀ index invocation expected, call.fixture.invocations[index]? = some invocation →
    (call.fixture.exitCodesFor role)[index]? = some expected → call.Reached role b index →
      call.RecordableAt invocation expected (b.command index)

end Recordable

variable {call ids role b}

/-! ### The condition at the end of a run -/

variable {invocation : FixtureInvocation} {expected : Int}

lemma Uneventful.recordableAt
    {command : CommandBehaviour} (h : call.Uneventful invocation expected command) :
    call.RecordableAt invocation expected command := by
  refine ⟨fun _ => h.reaped.mounted, ?_, fun _ _ _ => h.exitCode⟩
  intro _ htimed
  exact absurd (h.inTime.symm.trans htimed) Bool.false_ne_true

variable {k : Nat}

lemma getElem?_of_reached {index : Nat} (hreached : call.Reached role b k) (hindex : index < k)
    (hinvocation : call.fixture.invocations[index]? = some invocation)
    (hexpected : (call.fixture.exitCodesFor role)[index]? = some expected) :
    call.Uneventful invocation expected (b.command index) := by
  have h := hreached index hindex invocation expected hinvocation hexpected
  rwa [Nat.zero_add] at h

/-- In a run of uneventful commands every command can be recorded. -/
lemma recordable_of_allUneventful [ContentRules] (h : call.AllUneventful role b) :
    call.Recordable role b ↔
      call.Supplied role b ∧ call.LogsAdmitted (call.Leaves role b) (call.Passes role b) := by
  constructor
  · intro hrecordable
    exact ⟨hrecordable.supplied, hrecordable.logs⟩
  · rintro ⟨hsupplied, hlogs⟩
    refine ⟨hsupplied, hlogs, ?_⟩
    intro index invocation expected hinvocation hexpected _
    obtain ⟨hlt, -⟩ := List.getElem?_eq_some_iff.mp hinvocation
    exact (getElem?_of_reached h hlt hinvocation hexpected).recordableAt

/-- A run that ends at a command can be recorded when it can be at that command. -/
lemma recordable_of_ended [ContentRules] (hreached : call.Reached role b k)
    (hinvocation : call.fixture.invocations[k]? = some invocation)
    (hexpected : (call.fixture.exitCodesFor role)[k]? = some expected)
    (heventful : ¬ call.Uneventful invocation expected (b.command k)) :
    call.Recordable role b ↔
      (call.Supplied role b ∧ call.LogsAdmitted (call.Leaves role b) (call.Passes role b)) ∧
        call.RecordableAt invocation expected (b.command k) := by
  constructor
  · intro hrecordable
    exact ⟨⟨hrecordable.supplied, hrecordable.logs⟩,
      hrecordable.commands k invocation expected hinvocation hexpected hreached⟩
  · rintro ⟨⟨hsupplied, hlogs⟩, hat⟩
    refine ⟨hsupplied, hlogs, ?_⟩
    intro index invocation' expected' hinvocation' hexpected' hreached'
    rcases Nat.lt_trichotomy index k with hlt | rfl | hgt
    · exact (getElem?_of_reached hreached hlt hinvocation' hexpected').recordableAt
    · rw [hinvocation] at hinvocation'
      rw [hexpected] at hexpected'
      cases hinvocation'
      cases hexpected'
      exact hat
    · exact absurd (getElem?_of_reached hreached' hgt hinvocation hexpected) heventful

/-! ### What an execution stores -/

section Stored

variable [ContentRules] {run : FixtureRun} {records : List ArtifactRecord}

lemma persist_eq_ok {store : ContentAddressedStore} {ids : FixtureIdentities}
    {artifactClass : ArtifactClass} {disclosure : ArtifactDisclosure} {logicalId : Identifier}
    {mediaType : MediaType} {content : Bytes} {chunks : List Bytes} {record : ArtifactRecord} :
    persist store ids artifactClass disclosure logicalId mediaType content chunks = .ok record ↔
      store.PutAdmitted { chunks } (disclosure.forClass artifactClass) ∧
        storedRecord ids artifactClass disclosure logicalId mediaType content = record := by
  simp only [persist, bind_eq_ok, Except.mapError_eq_ok_iff, pure_eq_ok]
  constructor
  · rintro ⟨_, hdisclosure, scanners, hscanned, rfl⟩
    exact ⟨⟨hdisclosure, ⟨scanners, hscanned⟩, rfl⟩, rfl⟩
  · rintro ⟨⟨hdisclosure, ⟨scanners, hscanned⟩, -⟩, rfl⟩
    exact ⟨⟨⟩, hdisclosure, scanners, hscanned, rfl⟩

lemma materializeInputs_eq_ok {inputs : List FixtureInput} :
    call.materializeInputs ids role inputs = .ok records ↔
      (∀ source ∈ inputs, call.AdmitsEvidence (fileChunks source.content)) ∧
        call.inputRecords ids role inputs = records :=
  mapM_eq_ok_iff_map fun _ _ => persist_eq_ok

lemma persistRootlessPackageManifest_eq_ok :
    call.persistRootlessPackageManifest ids = .ok records ↔
      (∀ runtime ∈ call.installation.rootlessImageRuntime,
        call.AdmitsEvidence [runtime.packageManifest]) ∧ call.manifestRecords ids = records := by
  rw [persistRootlessPackageManifest, mapM_eq_ok_iff_map fun _ _ => persist_eq_ok]
  simp only [Option.mem_toList]
  rfl

omit [ContentRules] in
lemma forall_mem_zipIdx {logs : List Bytes} {P : Bytes → Prop} :
    (∀ log ∈ logs.zipIdx, P log.1) ↔ ∀ log ∈ logs, P log := by
  rw [← List.forall_mem_map, List.zipIdx_map_fst]

lemma collectLogs_eq_ok {stream : LogStream} {logs : List Bytes} :
    call.collectLogs ids role stream logs = .ok records ↔
      (∀ log ∈ logs, call.AdmitsEvidence (logChunks call.fixture.logProjection log)) ∧
        call.logRecords ids role stream logs = records := by
  rw [← forall_mem_zipIdx, logRecords, List.mapIdx_eq_zipIdx_map]
  exact mapM_eq_ok_iff_map fun _ _ => persist_eq_ok

lemma rawLogs_eq_ok {stream : LogStream} {logs : List Bytes} :
    call.rawLogs ids role stream logs = .ok records ↔
      (∀ log ∈ logs, call.artifactStore.PutAdmitted { chunks := fileChunks log }
        (PROTECTED_RAW_DISCLOSURE.forClass .diagnostic)) ∧
        call.rawLogRecords ids role stream logs = records := by
  rw [← forall_mem_zipIdx, rawLogRecords, List.mapIdx_eq_zipIdx_map]
  exact mapM_eq_ok_iff_map fun _ _ => persist_eq_ok

lemma collectOutputs_eq_ok {files : List (String × WorkspaceFile)} :
    call.collectOutputs ids role run files = .ok records ↔
      ((∀ log ∈ run.stdoutFiles ++ run.stderrFiles,
          call.AdmitsEvidence (logChunks call.fixture.logProjection log)) ∧
        ∀ present ∈ call.presentOutputs files,
          call.AdmitsEvidence (fileChunks present.2.content)) ∧
        call.outputRecords ids role run files = records := by
  have hdeclared : ∀ records, call.collectDeclared ids role files = .ok records ↔
      (∀ present ∈ call.presentOutputs files,
        call.AdmitsEvidence (fileChunks present.2.content)) ∧
          call.declaredRecords ids role files = records :=
    fun _ => mapM_eq_ok_iff_map fun _ _ => persist_eq_ok
  simp only [collectOutputs, bind_eq_ok, pure_eq_ok, collectLogs_eq_ok, hdeclared,
    List.forall_mem_append]
  constructor
  · rintro ⟨_, ⟨hstdout, rfl⟩, _, ⟨hstderr, rfl⟩, _, ⟨houtputs, rfl⟩, rfl⟩
    exact ⟨⟨⟨hstdout, hstderr⟩, houtputs⟩, rfl⟩
  · rintro ⟨⟨⟨hstdout, hstderr⟩, houtputs⟩, rfl⟩
    exact ⟨_, ⟨hstdout, rfl⟩, _, ⟨hstderr, rfl⟩, _, ⟨houtputs, rfl⟩, rfl⟩

lemma collectRawDiagnostics_eq_ok : call.collectRawDiagnostics ids role run = .ok records ↔
    (∀ log ∈ run.stdoutFiles ++ run.stderrFiles,
      call.artifactStore.PutAdmitted { chunks := fileChunks log }
        (PROTECTED_RAW_DISCLOSURE.forClass .diagnostic)) ∧
      call.diagnosticRecords ids role run = records := by
  simp only [collectRawDiagnostics, bind_eq_ok, pure_eq_ok, rawLogs_eq_ok,
    List.forall_mem_append]
  constructor
  · rintro ⟨_, ⟨hstdout, rfl⟩, _, ⟨hstderr, rfl⟩, rfl⟩
    exact ⟨⟨hstdout, hstderr⟩, rfl⟩
  · rintro ⟨⟨hstdout, hstderr⟩, rfl⟩
    exact ⟨_, ⟨hstdout, rfl⟩, _, ⟨hstderr, rfl⟩, rfl⟩

lemma collectDiagnostics_eq_ok {failure : Option QualificationFailure} :
    call.collectDiagnostics ids role run failure = .ok records ↔
      (call.fixture.logProjection.isSome = true → ¬ failure = none →
        ∀ log ∈ run.stdoutFiles ++ run.stderrFiles,
          call.artifactStore.PutAdmitted { chunks := fileChunks log }
            (PROTECTED_RAW_DISCLOSURE.forClass .diagnostic)) ∧
        (if failure.isSome && call.fixture.logProjection.isSome then
          call.diagnosticRecords ids role run else []) = records := by
  rw [collectDiagnostics]
  cases failure with
  | none => simp [pure_eq_ok]
  | some failure =>
    cases call.fixture.logProjection.isSome <;>
      simp [pure_eq_ok, collectRawDiagnostics_eq_ok]

/-- An execution of a bound call returns evidence when it is supplied, its commands come to an end,
its logs are admitted and the evidence is accepted. -/
lemma executeFixture_eq_ok (h : call.Bound ids) (c : RecordedCase call ids role)
    {e : QualificationEvidence} : call.executeFixture ids role b = .ok e ↔
      call.Supplied role b ∧ ∃ run,
        call.runCommands b.command 0 call.fixture.invocations (call.fixture.exitCodesFor role) {} =
            .ok run ∧
          call.LogsAdmitted (· ∈ run.stdoutFiles ++ run.stderrFiles)
              ((call.verdict role run b.files).1 = none) ∧
            (c.raw run b).build ids = .ok e := by
  have hassets : SameSet (call.restrictedAssets.map Prod.fst)
    (call.fixture.restrictedAssets.map (·.assetId)) := h.assets
  have hsite : ¬ (call.siteContainer = true ∧
      (call.installation.siteContainerRuntime = false ∨
        call.deploymentConfiguration ≠ some .siteContainer)) := by
    rintro ⟨hcontainer, hmissing⟩
    obtain ⟨hruntime, hconfiguration⟩ := h.siteContainer hcontainer
    rcases hmissing with hmissing | hmissing
    · exact absurd (hmissing.symm.trans hruntime) Bool.false_ne_true
    · exact hmissing hconfiguration
  simp only [executeFixture, h.admitted, ok_bind, c.snapshotFor, c.inputsFor, c.digest,
    bind_eq_ok, raiseIf_eq_ok, exists_const, materializeInputs_eq_ok,
    persistRootlessPackageManifest_eq_ok, collectOutputs_eq_ok, collectDiagnostics_eq_ok,
    hassets, hsite,
    not_true_eq_false, not_false_eq_true, true_and]
  constructor
  · rintro ⟨hmaterialized, _, ⟨hinputs, rfl⟩, _, ⟨hmanifest, rfl⟩, run, hrun, hfiles, _,
      ⟨⟨hlogs, houtputs⟩, rfl⟩, _, ⟨hdiagnostics, rfl⟩, hbuild⟩
    refine ⟨⟨?_, ?_, ?_, hmanifest, houtputs⟩, run, hrun, ⟨hlogs, hdiagnostics⟩, hbuild⟩
    · by_contra hlost
      rw [not_or, Bool.not_eq_true] at hlost
      exact hmaterialized hlost
    · intro file hfile
      by_contra hclosed
      exact hfiles ⟨file, hfile, Bool.not_eq_true _ ▸ hclosed⟩
    · intro inputs hread
      cases c.inputsFor.symm.trans hread
      exact hinputs
  · rintro ⟨hsupplied, run, hrun, hlogs, hbuild⟩
    refine ⟨?_, _, ⟨hsupplied.inputs _ c.inputsFor, rfl⟩, _, ⟨hsupplied.manifest, rfl⟩, run, hrun,
      ?_, _, ⟨⟨hlogs.evidence, hsupplied.outputs⟩, rfl⟩, _, ⟨hlogs.diagnostics, rfl⟩, hbuild⟩
    · rintro ⟨hne, hlost⟩
      exact hsupplied.materialized.elim hne fun hmaterialized =>
        Bool.false_ne_true (hlost.symm.trans hmaterialized)
    · rintro ⟨file, hfile, hclosed⟩
      exact Bool.false_ne_true (hclosed.symm.trans (hsupplied.readable file hfile))

end Stored

/-! ### The logs of a run -/

lemma Reached.mono {index : Nat} (hreached : call.Reached role b k) (hindex : index ≤ k) :
    call.Reached role b index :=
  fun j hj => hreached j (hj.trans_le hindex)

lemma Uneventful.logs_iff {command : CommandBehaviour} {log : Bytes}
    (h : call.Uneventful invocation expected command) :
    call.Logs invocation command log ↔ log = command.stdout ∨ log = command.stderr := by
  simp [Logs, h.reaped]

/-- What the commands before a place that is reached have left. -/
lemma leaves_of_lt {index : Nat} {log : Bytes} (hreached : call.Reached role b k)
    (hk : k ≤ call.fixture.invocations.length)
    (hk' : k ≤ (call.fixture.exitCodesFor role).length) (hindex : index < k)
    (hlog : log = (b.command index).stdout ∨ log = (b.command index).stderr) :
    call.Leaves role b log := by
  have hinvocation := List.getElem?_eq_getElem (hindex.trans_le hk)
  have hexpected := List.getElem?_eq_getElem (hindex.trans_le hk')
  exact ⟨index, _, _, hinvocation, hexpected, hreached.mono hindex.le,
    (getElem?_of_reached hreached hindex hinvocation hexpected).logs_iff.mpr hlog⟩

lemma mem_uneventfulRun (h : call.AllUneventful role b)
    (hlength : (call.fixture.exitCodesFor role).length = call.fixture.invocations.length) :
    (· ∈ (call.uneventfulRun role b).stdoutFiles ++ (call.uneventfulRun role b).stderrFiles) =
      call.Leaves role b := by
  funext log
  rw [eq_iff_iff, uneventfulRun, List.mem_append, List.mem_map, List.mem_map]
  constructor
  · rintro (⟨index, hindex, rfl⟩ | ⟨index, hindex, rfl⟩)
    · exact leaves_of_lt h le_rfl hlength.ge (List.mem_range.mp hindex) (Or.inl rfl)
    · exact leaves_of_lt h le_rfl hlength.ge (List.mem_range.mp hindex) (Or.inr rfl)
  · rintro ⟨index, invocation, expected, hinvocation, hexpected, -, hlogs⟩
    obtain ⟨hindex, -⟩ := List.getElem?_eq_some_iff.mp hinvocation
    have huneventful := getElem?_of_reached h hindex hinvocation hexpected
    rcases huneventful.logs_iff.mp hlogs with rfl | rfl
    · exact Or.inl ⟨index, List.mem_range.mpr hindex, rfl⟩
    · exact Or.inr ⟨index, List.mem_range.mpr hindex, rfl⟩

/-- The logs of a run that ends at a command: those before it, and the two of the command. -/
lemma mem_ended {run : FixtureRun} {stdout stderr : Bytes} (hreached : call.Reached role b k)
    (hinvocation : call.fixture.invocations[k]? = some invocation)
    (hexpected : (call.fixture.exitCodesFor role)[k]? = some expected)
    (heventful : ¬ call.Uneventful invocation expected (b.command k))
    (hstdout : run.stdoutFiles =
      ((List.range k).map fun j => (b.command j).stdout) ++ [stdout])
    (hstderr : run.stderrFiles =
      ((List.range k).map fun j => (b.command j).stderr) ++ [stderr])
    (hlogs : ∀ log, call.Logs invocation (b.command k) log ↔ log = stdout ∨ log = stderr) :
    (· ∈ run.stdoutFiles ++ run.stderrFiles) = call.Leaves role b := by
  obtain ⟨hk, -⟩ := List.getElem?_eq_some_iff.mp hinvocation
  obtain ⟨hk', -⟩ := List.getElem?_eq_some_iff.mp hexpected
  funext log
  simp only [eq_iff_iff, hstdout, hstderr, List.mem_append, List.mem_map, List.mem_range,
    List.mem_singleton]
  constructor
  · have hlast : log = stdout ∨ log = stderr → call.Leaves role b log := fun hlog =>
      ⟨k, invocation, expected, hinvocation, hexpected, hreached, (hlogs log).mpr hlog⟩
    rintro ((⟨index, hindex, rfl⟩ | hlog) | (⟨index, hindex, rfl⟩ | hlog))
    · exact leaves_of_lt hreached hk.le hk'.le hindex (Or.inl rfl)
    · exact hlast (Or.inl hlog)
    · exact leaves_of_lt hreached hk.le hk'.le hindex (Or.inr rfl)
    · exact hlast (Or.inr hlog)
  · rintro ⟨index, invocation', expected', hinvocation', hexpected', hreached', hlog⟩
    rcases Nat.lt_trichotomy index k with hlt | rfl | hgt
    · have huneventful := getElem?_of_reached hreached hlt hinvocation' hexpected'
      rcases huneventful.logs_iff.mp hlog with rfl | rfl
      · exact Or.inl (Or.inl ⟨index, hlt, rfl⟩)
      · exact Or.inr (Or.inl ⟨index, hlt, rfl⟩)
    · cases hinvocation.symm.trans hinvocation'
      rcases (hlogs log).mp hlog with rfl | rfl
      · exact Or.inl (Or.inr rfl)
      · exact Or.inr (Or.inr rfl)
    · exact absurd (getElem?_of_reached hreached' hgt hinvocation hexpected) heventful

/-! ### Runs of uneventful commands -/

variable {run : FixtureRun}

/-- After a quiet run the verdict is about the outputs and the parser. -/
lemma verdict_of_quiet (hquiet : run.Quiet)
    (hcodes : run.exitCodes = call.fixture.exitCodesFor role)
    (files : List (String × WorkspaceFile)) :
    call.verdict role run files =
      if call.missingOutput files = true then (some .outputMissing, none)
      else call.judge role (call.observation run files) := by
  rw [verdict, hquiet.timedOut, hquiet.executionClosureChanged, hquiet.restrictedAssetChanged,
    hquiet.programUnavailable, if_neg Bool.false_ne_true, if_neg Bool.false_ne_true,
    if_neg Bool.false_ne_true, if_neg Bool.false_ne_true, if_neg (not_not.mpr hcodes)]

lemma judge_cases (call : QualificationCall) (role : FixtureRole)
    (observation : FixtureObservation) :
    (call.judge role observation).1 = none ∨
      (call.judge role observation).1 = some .parserRejected ∨
        (call.judge role observation).1 = some .parserCrashed := by
  rw [judge]
  split
  · simp only
    split_ifs
    · exact Or.inl rfl
    · exact Or.inr (Or.inl rfl)
  · exact Or.inr (Or.inr rfl)

lemma judge_eq_none_iff : (call.judge role (call.observation (call.uneventfulRun role b)
    b.files)).1 = none ↔ call.ParserExpected role b := by
  rw [judge, ParserExpected]
  cases hrejection : call.fixture.parser.rejection
      (call.observation (call.uneventfulRun role b) b.files) with
  | error error => simp
  | ok rejection =>
    cases haccepts : call.fixture.parser.accepts
        (call.observation (call.uneventfulRun role b) b.files) with
    | error error => simp
    | ok accepted =>
      cases role <;> simp [apply_ite Prod.fst]

lemma judge_eq_crashed_iff : (call.judge role (call.observation (call.uneventfulRun role b)
    b.files)).1 = some .parserCrashed ↔ call.ParserRaises role b := by
  rw [judge, ParserRaises]
  cases hrejection : call.fixture.parser.rejection
      (call.observation (call.uneventfulRun role b) b.files) with
  | error error => simp
  | ok rejection =>
    cases haccepts : call.fixture.parser.accepts
        (call.observation (call.uneventfulRun role b) b.files) with
    | error error => simp
    | ok accepted =>
      simp only [reduceCtorEq, exists_const, or_self, iff_false]
      split_ifs <;> simp

/-- A run of uneventful commands is what its verdict prescribes. -/
lemma prescribed_uneventfulRun (files : List (String × WorkspaceFile)) :
    Prescribed call role (call.uneventfulRun role b) files
      (call.verdict role (call.uneventfulRun role b) files).1 := by
  rw [verdict_of_quiet ⟨rfl, rfl, rfl, rfl⟩ rfl]
  split_ifs with hmissing
  · exact ⟨rfl, hmissing⟩
  · have hfalse := Bool.eq_false_iff.mpr hmissing
    rcases judge_cases call role
      (call.observation (call.uneventfulRun role b) files) with hjudge | hjudge | hjudge
    all_goals
      rw [hjudge]
      exact ⟨rfl, hfalse⟩

lemma occurred_uneventfulRun (h : call.AllUneventful role b) {failure : QualificationFailure}
    (hfailure : (call.verdict role (call.uneventfulRun role b) b.files).1 = some failure) :
    call.Occurred role b failure := by
  rw [verdict_of_quiet ⟨rfl, rfl, rfl, rfl⟩ rfl] at hfailure
  split_ifs at hfailure with hmissing
  · cases hfailure
    exact ⟨h, hmissing⟩
  · have hfalse := Bool.eq_false_iff.mpr hmissing
    rcases judge_cases call role
      (call.observation (call.uneventfulRun role b) b.files) with hjudge | hjudge | hjudge
    · rw [hjudge] at hfailure
      cases hfailure
    · rw [hjudge] at hfailure
      cases hfailure
      refine ⟨h, hfalse, ?_, ?_⟩
      · intro hraises
        rw [judge_eq_crashed_iff.mpr hraises] at hjudge
        cases hjudge
      · intro hexpected
        rw [judge_eq_none_iff.mpr hexpected] at hjudge
        cases hjudge
    · rw [hjudge] at hfailure
      cases hfailure
      exact ⟨h, hfalse, judge_eq_crashed_iff.mp hjudge⟩

lemma passes_iff_uneventfulRun (h : call.AllUneventful role b) :
    (call.verdict role (call.uneventfulRun role b) b.files).1 = none ↔ call.Passes role b := by
  rw [verdict_of_quiet ⟨rfl, rfl, rfl, rfl⟩ rfl]
  split_ifs with hmissing
  · refine ⟨fun hnone => (by cases hnone), ?_⟩
    intro hpasses
    exact absurd (hpasses.outputs.symm.trans hmissing) Bool.false_ne_true
  · rw [judge_eq_none_iff]
    exact ⟨fun hexpected => ⟨h, Bool.eq_false_iff.mpr hmissing, hexpected⟩, fun h => h.parser⟩

/-! ### Runs that end at a command -/

/-- The exit codes before a command that exists. -/
lemma take_exitCodes_length (h : (call.fixture.exitCodesFor role)[k]? = some expected) :
    ((call.fixture.exitCodesFor role).take k).length = k := by
  obtain ⟨hlt, -⟩ := List.getElem?_eq_some_iff.mp h
  rw [List.length_take]
  omega

/-- One more code continues the expected codes exactly when it is the expected one. -/
lemma take_append_eq_iff {code expected : Int}
    (h : (call.fixture.exitCodesFor role)[k]? = some expected) :
    (call.fixture.exitCodesFor role).take k ++ [code] =
        (call.fixture.exitCodesFor role).take
          ((call.fixture.exitCodesFor role).take k ++ [code]).length ↔ code = expected := by
  rw [List.length_append, take_exitCodes_length h, List.length_singleton, List.take_add_one, h]
  simp

/-- What the end of a run at a command decides: its failure has occurred, and the validator accepts
it exactly when the command can be recorded. -/
structure EndsAt (call : QualificationCall) (role : FixtureRole) (b : FixtureBehaviour)
    (k : Nat) (recordable : Prop) (run : FixtureRun) : Prop where
  logs : run.stdoutFiles.length = k + 1 ∧ run.stderrFiles.length = k + 1
  exitCodes_le : run.exitCodes.length ≤ k + 1
  prescribed : Prescribed call role run b.files (call.verdict role run b.files).1 ↔ recordable
  occurred : ∃ failure, (call.verdict role run b.files).1 = some failure ∧
    call.Occurred role b failure

lemma Unavailable.not_reaped {command : CommandBehaviour}
    (h : call.Unavailable invocation command) : ¬ call.Reaped invocation command := by
  intro hreaped
  rcases h.2 with hclosed | ⟨-, htool, hpath, huntrusted⟩ | ⟨-, -, hfailed⟩
  · exact absurd (hclosed.symm.trans hreaped.launched.executable) Bool.false_ne_true
  · exact absurd (huntrusted.symm.trans (hreaped.launched.trusted htool hpath)) Bool.false_ne_true
  · exact absurd (hfailed.symm.trans hreaped.spawned) Bool.false_ne_true

section EndOfRun

variable {k : Nat} {run : FixtureRun} {invocation : FixtureInvocation} {expected : Int}
  (hquiet : run.Quiet) (hcodes : run.exitCodes = (call.fixture.exitCodesFor role).take k)
  (hlogs : run.Logged k) (hreached : call.Reached role b k)
  (hinvocation : call.fixture.invocations[k]? = some invocation)
  (hexpected : (call.fixture.exitCodesFor role)[k]? = some expected)

include hquiet hcodes hlogs hreached hinvocation hexpected

lemma endsAt_changedBefore (h : call.ChangedBefore invocation (b.command k)) :
    EndsAt call role b k (call.RecordableAt invocation expected (b.command k))
      { run.touch with
        executionClosureChanged := !((b.command k).closureBefore &&
          call.deploymentValid (b.command k).deploymentBefore)
        restrictedAssetChanged := !call.assetsValid (b.command k).assetsBefore } := by
  have hlength := take_exitCodes_length hexpected
  have hat : call.RecordableAt invocation expected (b.command k) :=
    ⟨fun hlaunched => absurd h hlaunched.unchanged,
      fun hreaped => absurd h hreaped.launched.unchanged,
      fun hreaped => absurd h hreaped.launched.unchanged⟩
  have hcompleted : run.exitCodes =
      (call.fixture.exitCodesFor role).take run.exitCodes.length := by
    rw [hcodes, hlength]
  cases hclosure : (b.command k).closureBefore &&
      call.deploymentValid (b.command k).deploymentBefore with
  | false =>
    have hverdict : (call.verdict role { run.touch with
        executionClosureChanged := !false
        restrictedAssetChanged := !call.assetsValid (b.command k).assetsBefore } b.files).1 =
          some .executionClosureChanged := by
      simp [verdict, FixtureRun.touch, hquiet.timedOut]
    refine ⟨hlogs.touch, ?_, ?_, _, hverdict, ?_⟩
    · show run.exitCodes.length ≤ k + 1
      rw [hcodes, hlength]
      omega
    · rw [hverdict]
      exact ⟨fun _ => hat, fun _ => hcompleted⟩
    · exact ⟨k, invocation, expected, hinvocation, hexpected, hreached, Or.inl ⟨h.1, hclosure⟩⟩
  | true =>
    have hassets : call.assetsValid (b.command k).assetsBefore = false := by
      have hfalse := h.2
      rwa [hclosure, Bool.true_and] at hfalse
    have hne : call.fixture.restrictedAssets ≠ [] := by
      intro hnil
      simp [assetsValid, hnil] at hassets
    have hverdict : (call.verdict role { run.touch with
        executionClosureChanged := !true
        restrictedAssetChanged := !call.assetsValid (b.command k).assetsBefore } b.files).1 =
          some .restrictedAssetChanged := by
      simp [verdict, FixtureRun.touch, hquiet.timedOut, hassets]
    refine ⟨hlogs.touch, ?_, ?_, _, hverdict, ?_⟩
    · show run.exitCodes.length ≤ k + 1
      rw [hcodes, hlength]
      omega
    · rw [hverdict]
      exact ⟨fun _ => hat, fun _ => ⟨hcompleted, hne⟩⟩
    · exact ⟨k, invocation, expected, hinvocation, hexpected, hreached, Or.inl ⟨h.1, hassets⟩⟩

lemma endsAt_unavailable (h : call.Unavailable invocation (b.command k)) :
    EndsAt call role b k (call.RecordableAt invocation expected (b.command k))
      { run.touch with programUnavailable := true } := by
  have hlength := take_exitCodes_length hexpected
  obtain ⟨hlt, -⟩ := List.getElem?_eq_some_iff.mp hinvocation
  have hat : call.RecordableAt invocation expected (b.command k) := by
    refine ⟨?_, fun hreaped => absurd hreaped h.not_reaped,
      fun hreaped => absurd hreaped h.not_reaped⟩
    intro hlaunched
    rcases h.2 with hclosed | ⟨-, htool, hpath, huntrusted⟩ | ⟨-, hmounted, -⟩
    · exact absurd (hclosed.symm.trans hlaunched.executable) Bool.false_ne_true
    · exact absurd (huntrusted.symm.trans (hlaunched.trusted htool hpath)) Bool.false_ne_true
    · exact hmounted
  have hverdict : (call.verdict role { run.touch with programUnavailable := true } b.files).1 =
      some .programUnavailable := by
    simp [verdict, FixtureRun.touch, hquiet.timedOut, hquiet.executionClosureChanged,
      hquiet.restrictedAssetChanged]
  have hshort : run.exitCodes.length < call.fixture.invocations.length := by
    rw [hcodes, hlength]
    exact hlt
  refine ⟨hlogs.touch, ?_, ?_, _, hverdict, ?_⟩
  · show run.exitCodes.length ≤ k + 1
    rw [hcodes, hlength]
    omega
  · rw [hverdict]
    exact ⟨fun _ => hat, fun _ => hshort⟩
  · exact ⟨k, invocation, expected, hinvocation, hexpected, hreached, h⟩

lemma endsAt_stopped (h : call.Reaped invocation (b.command k))
    (heventful : ¬ call.Uneventful invocation expected (b.command k)) :
    EndsAt call role b k (call.RecordableAt invocation expected (b.command k))
      (call.reap invocation (b.command k) run) := by
  have hreap : (call.reap invocation (b.command k) run).exitCodes =
      (call.fixture.exitCodesFor role).take k ++ [(b.command k).exitCode] := by
    rw [reap, hcodes]
  have hne : (call.reap invocation (b.command k) run).exitCodes ≠ [] := by
    rw [hreap]
    exact List.concat_ne_nil _ _
  have hexit : (call.reap invocation (b.command k) run).exitCodes =
      (call.fixture.exitCodesFor role).take
        (call.reap invocation (b.command k) run).exitCodes.length ↔
          (b.command k).exitCode = expected := by
    rw [hreap]
    exact take_append_eq_iff hexpected
  have hle : (call.reap invocation (b.command k) run).exitCodes.length ≤ k + 1 := by
    rw [hreap, List.length_append, take_exitCodes_length hexpected, List.length_singleton]
  have hlogs' : (call.reap invocation (b.command k) run).Logged (k + 1) :=
    logged_reap call invocation (b.command k) hlogs
  have htime : (call.reap invocation (b.command k) run).timedOut = (b.command k).timedOut := by
    simp [reap, hquiet.timedOut]
  have hclosure : (call.reap invocation (b.command k) run).executionClosureChanged = true ↔
      call.ClosureChangedAfter invocation (b.command k) := by
    simp only [reap, hquiet.executionClosureChanged, ClosureChangedAfter, Bool.false_or,
      Bool.and_eq_true, Bool.not_eq_true']
  have hassets : (call.reap invocation (b.command k) run).restrictedAssetChanged = true ↔
      call.AssetChangedAfter (b.command k) := by
    simp [reap, hquiet.restrictedAssetChanged, AssetChangedAfter]
  have hbound : call.AssetChangedAfter (b.command k) → call.fixture.restrictedAssets ≠ [] := by
    intro hchanged hnil
    simp [AssetChangedAfter, assetsValid, hnil] at hchanged
  have hmounted : call.Launched invocation (b.command k) → call.mountError (b.command k) = none :=
    fun _ => h.mounted
  by_cases htimed : (b.command k).timedOut = true
  · have hverdict : (call.verdict role (call.reap invocation (b.command k) run) b.files).1 =
        some .timedOut := by
      rw [verdict, if_pos (htime.trans htimed)]
    refine ⟨hlogs', hle, ?_, _, hverdict,
      ⟨k, invocation, expected, hinvocation, hexpected, hreached, h, htimed⟩⟩
    rw [hverdict]
    constructor
    · rintro ⟨-, hdiffers⟩
      refine ⟨hmounted, fun _ _ => mt hexit.mpr hdiffers, ?_⟩
      intro _ hintime
      exact absurd (hintime.symm.trans htimed) Bool.false_ne_true
    · intro hrecordable
      exact ⟨hne, mt hexit.mp (hrecordable.killed h htimed)⟩
  · have hintime : (b.command k).timedOut = false := Bool.not_eq_true _ ▸ htimed
    have hrest : (call.reap invocation (b.command k) run).timedOut ≠ true := by
      rw [htime]
      exact htimed
    have hkilled : call.Reaped invocation (b.command k) → (b.command k).timedOut = true →
        (b.command k).exitCode ≠ expected := fun _ htrue => absurd htrue htimed
    by_cases hchanged : call.ClosureChangedAfter invocation (b.command k)
    · have hverdict : (call.verdict role (call.reap invocation (b.command k) run) b.files).1 =
          some .executionClosureChanged := by
        rw [verdict, if_neg hrest, if_pos (hclosure.mpr hchanged)]
      refine ⟨hlogs', hle, ?_, _, hverdict,
        ⟨k, invocation, expected, hinvocation, hexpected, hreached, Or.inr ⟨h, hchanged⟩⟩⟩
      rw [hverdict]
      refine hexit.trans ⟨fun hcode => ⟨hmounted, hkilled, fun _ _ _ => hcode⟩, ?_⟩
      intro hrecordable
      exact hrecordable.unchanged h hintime (Or.inl hchanged)
    · by_cases hasset : call.AssetChangedAfter (b.command k)
      · have hverdict : (call.verdict role (call.reap invocation (b.command k) run) b.files).1 =
            some .restrictedAssetChanged := by
          rw [verdict, if_neg hrest, if_neg (mt hclosure.mp hchanged), if_pos (hassets.mpr hasset)]
        refine ⟨hlogs', hle, ?_, _, hverdict,
          ⟨k, invocation, expected, hinvocation, hexpected, hreached, Or.inr ⟨h, hasset⟩⟩⟩
        rw [hverdict]
        constructor
        · rintro ⟨hcode, -⟩
          exact ⟨hmounted, hkilled, fun _ _ _ => hexit.mp hcode⟩
        · intro hrecordable
          exact ⟨hexit.mpr (hrecordable.unchanged h hintime (Or.inr hasset)), hbound hasset⟩
      · -- nothing was noticed, so the exit code is what ended the loop
        have hcode : (b.command k).exitCode ≠ expected := fun hcode =>
          heventful ⟨h, hintime, hchanged, hasset, hcode⟩
        have hcodes' : (call.reap invocation (b.command k) run).exitCodes ≠
            call.fixture.exitCodesFor role := by
          intro heq
          refine hcode (hexit.mp ?_)
          rw [heq, List.take_length]
        have hunavailable : (call.reap invocation (b.command k) run).programUnavailable = false :=
          hquiet.programUnavailable
        have hverdict : (call.verdict role (call.reap invocation (b.command k) run) b.files).1 =
            some .toolExited := by
          rw [verdict, if_neg hrest, if_neg (mt hclosure.mp hchanged),
            if_neg (mt hassets.mp hasset), hunavailable, if_neg Bool.false_ne_true, if_pos hcodes']
        refine ⟨hlogs', hle, ?_, _, hverdict,
          ⟨k, invocation, expected, hinvocation, hexpected, hreached, h, hcode⟩⟩
        rw [hverdict]
        refine ⟨fun _ => ⟨hmounted, hkilled, ?_⟩, fun _ => ⟨hne, mt hexit.mp hcode⟩⟩
        rintro _ _ (hclosed | hlost)
        · exact absurd hclosed hchanged
        · exact absurd hlost hasset

end EndOfRun

/-! ### Which executions are recorded -/

/-- The evidence of an execution: its own validator accepts it, its failure has occurred, and it
has passed exactly when nothing went wrong. -/
structure Records (call : QualificationCall) (ids : QualificationIdentities) (role : FixtureRole)
    (b : FixtureBehaviour) (e : QualificationEvidence) : Prop where
  accepted : e.validateOutcome ids = .ok ⟨⟩
  occurred : ∀ failure, e.failure = some failure → call.Occurred role b failure
  passed_iff : e.outcome = .passed ↔ call.Passes role b

lemma validateOutcome_of_build {raw e : QualificationEvidence} (h : raw.build ids = .ok e) :
    e.validateOutcome ids = .ok ⟨⟩ := by
  simp only [build, bind_eq_ok, pure_eq_ok] at h
  obtain ⟨_, -, _, -, _, -, _, -, _, -, u, hvalid, rfl⟩ := h
  exact hvalid

lemma outcome_passed_iff {c : RecordedCase call ids role} :
    (c.evidence run b).outcome = .passed ↔ (call.verdict role run b.files).1 = none := by
  show (if (call.verdict role run b.files).1.isNone then QualificationOutcome.passed
    else .failed) = .passed ↔ _
  cases (call.verdict role run b.files).1 <;> simp

lemma exists_evidence_uneventful (h : call.Bound ids) (hall : call.AllUneventful role b)
    (c : RecordedCase call ids role) :
    ∃ e, (c.raw (call.uneventfulRun role b) b).build ids = .ok e ∧ Records call ids role b e := by
  have hpos : 0 < call.fixture.invocations.length :=
    List.length_pos_iff.mpr h.canonical.facts.invocations_ne_nil
  have hlogs : (call.uneventfulRun role b).stdoutFiles.length = call.fixture.invocations.length ∧
      (call.uneventfulRun role b).stderrFiles.length = call.fixture.invocations.length := by
    simp [uneventfulRun]
  have hexit : (call.uneventfulRun role b).exitCodes.length ≤ call.fixture.invocations.length :=
    (QualificationFixture.exitCodesFor_length
      h.canonical.facts.invocations_ne_nil role).le
  have hbuild := (build_evidence (c := c) (b := b) h hpos hlogs le_rfl hexit).mpr
    ⟨rfl, prescribed_uneventfulRun b.files⟩
  refine ⟨_, hbuild, validateOutcome_of_build hbuild, ?_, ?_⟩
  · intro failure hfailure
    exact occurred_uneventfulRun hall hfailure
  · rw [outcome_passed_iff]
    exact passes_iff_uneventfulRun hall

lemma exists_evidence_ended (h : call.Bound ids) {recordable : Prop}
    (hk : k < call.fixture.invocations.length) (hends : EndsAt call role b k recordable run)
    (hnot : ¬ call.Passes role b) (c : RecordedCase call ids role)
    {P : QualificationEvidence → Prop} (hP : ∀ e, Records call ids role b e → P e) :
    (∃ e, (c.raw run b).build ids = .ok e ∧ P e) ↔ recordable := by
  have hbuild := fun e => build_evidence (c := c) (b := b) (e := e) h (Nat.succ_pos k) hends.logs
    hk hends.exitCodes_le
  rw [← hends.prescribed]
  constructor
  · rintro ⟨e, he, -⟩
    exact ((hbuild e).mp he).2
  · intro hprescribed
    have hok := (hbuild _).mpr ⟨rfl, hprescribed⟩
    obtain ⟨failure, hverdict, hoccurred⟩ := hends.occurred
    refine ⟨_, hok, hP _ ⟨validateOutcome_of_build hok, ?_, ?_⟩⟩
    · intro failure' hfailure'
      have heq : some failure = some failure' := hverdict.symm.trans hfailure'
      cases heq
      exact hoccurred
    · rw [outcome_passed_iff, hverdict]
      exact ⟨fun hnone => (by cases hnone), fun hpasses => absurd hpasses hnot⟩

/-- A role returns evidence with a property that every record has exactly when its behaviour can
be recorded. -/
lemma exists_evidence_iff [ContentRules] (h : call.Bound ids) (role : FixtureRole)
    (b : FixtureBehaviour) {P : QualificationEvidence → Prop}
    (hP : ∀ e, Records call ids role b e → P e) :
    (∃ e, call.executeFixture ids role b = .ok e ∧ P e) ↔ call.Recordable role b := by
  obtain ⟨c⟩ := h.recordedCase role
  have hlength := QualificationFixture.exitCodesFor_length
    h.canonical.facts.invocations_ne_nil role
  have hend := runCommands_end h.runtime b.command call.fixture.invocations 0
    (call.fixture.exitCodesFor role) {} hlength ⟨rfl, rfl, rfl, rfl⟩ ⟨rfl, rfl⟩
  simp only [executeFixture_eq_ok h c]
  generalize call.runCommands b.command 0 call.fixture.invocations
    (call.fixture.exitCodesFor role) {} = ran at hend ⊢
  cases hend with
  | @completed run hquiet hcodes _ hstdout hstderr hall =>
    have hrun : run = call.uneventfulRun role b := by
      obtain ⟨_, _, _, _, _, _, _⟩ := run
      obtain ⟨rfl, rfl, rfl, rfl⟩ := hquiet
      simp only [List.nil_append, Nat.zero_add] at hcodes hstdout hstderr
      rw [uneventfulRun, hcodes, hstdout, hstderr]
    subst hrun
    have hpasses := propext (passes_iff_uneventfulRun hall)
    rw [recordable_of_allUneventful hall]
    obtain ⟨e, he, hrecords⟩ := exists_evidence_uneventful h hall c
    constructor
    · rintro ⟨_, ⟨hsupplied, run, hrun, hlogs, -⟩, -⟩
      cases hrun
      rw [mem_uneventfulRun hall hlength, hpasses] at hlogs
      exact ⟨hsupplied, hlogs⟩
    · rintro ⟨hsupplied, hlogs⟩
      rw [← mem_uneventfulRun hall hlength, ← hpasses] at hlogs
      exact ⟨e, ⟨hsupplied, _, rfl, hlogs, he⟩, hP e hrecords⟩
  | @ended k run invocation expected result hquiet hcodes hlogs hstdout hstderr hreached hinvocation
      hexpected hend hstops =>
    simp only [List.nil_append, Nat.zero_add] at hcodes hlogs hstdout hstderr hend
    obtain ⟨hlt, -⟩ := List.getElem?_eq_some_iff.mp hinvocation
    have hstop : ∀ run', result = .ok (run', false) →
        EndsAt call role b k (call.RecordableAt invocation expected (b.command k)) run' →
          (· ∈ run'.stdoutFiles ++ run'.stderrFiles) = call.Leaves role b →
            ¬ call.Uneventful invocation expected (b.command k) →
              ((∃ e, (call.Supplied role b ∧ ∃ run, Prod.fst <$> result = .ok run ∧
                call.LogsAdmitted (· ∈ run.stdoutFiles ++ run.stderrFiles)
                  ((call.verdict role run b.files).1 = none) ∧
                    (c.raw run b).build ids = .ok e) ∧ P e) ↔ call.Recordable role b) := by
      intro run' hresult hends hleaves heventful
      have hnot : ¬ call.Passes role b := fun hpasses =>
        heventful (getElem?_of_reached hpasses.uneventful hlt hinvocation hexpected)
      have hpasses : ((call.verdict role run' b.files).1 = none) = call.Passes role b := by
        obtain ⟨failure, hverdict, -⟩ := hends.occurred
        rw [hverdict]
        exact propext ⟨fun hnone => (by cases hnone), fun hpasses => absurd hpasses hnot⟩
      rw [recordable_of_ended hreached hinvocation hexpected heventful, hresult,
        ← exists_evidence_ended h hlt hends hnot c hP, ← hleaves, ← hpasses]
      constructor
      · rintro ⟨e, ⟨hsupplied, run, hrun, hlogs, he⟩, hrecords⟩
        cases hrun
        exact ⟨⟨hsupplied, hlogs⟩, e, he, hrecords⟩
      · rintro ⟨⟨hsupplied, hlogs⟩, e, he, hrecords⟩
        exact ⟨e, ⟨hsupplied, run', rfl, hlogs, he⟩, hrecords⟩
    have htouched : ∀ {run' : FixtureRun}, run'.stdoutFiles = run.stdoutFiles ++ [[]] →
        run'.stderrFiles = run.stderrFiles ++ [[]] →
          ¬ call.Reaped invocation (b.command k) →
            (· ∈ run'.stdoutFiles ++ run'.stderrFiles) = call.Leaves role b := by
      intro run' hout herr hreaped
      rw [hstdout] at hout
      rw [hstderr] at herr
      exact mem_ended hreached hinvocation hexpected (fun h => hreaped h.reaped) hout herr
        fun log => by simp [Logs, hreaped]
    cases hend with
    | changedBefore hchanged =>
      have hreaped : ¬ call.Reaped invocation (b.command k) := fun h =>
        h.launched.unchanged hchanged
      exact hstop _ rfl (endsAt_changedBefore hquiet hcodes hlogs hreached hinvocation hexpected
        hchanged) (htouched rfl rfl hreaped) fun h => hreaped h.reaped
    | unavailable hunavailable =>
      exact hstop _ rfl (endsAt_unavailable hquiet hcodes hlogs hreached hinvocation hexpected
        hunavailable) (htouched rfl rfl hunavailable.not_reaped)
        fun h => hunavailable.not_reaped h.reaped
    | @unmounted hlaunched message herror =>
      constructor
      · rintro ⟨e, ⟨-, run, hrun, -⟩, -⟩
        cases hrun
      · intro hrecordable
        have hat := hrecordable.commands k invocation expected hinvocation hexpected hreached
        rw [hat.mounted hlaunched] at herror
        cases herror
    | stopped hreaped heventful =>
      refine hstop _ rfl (endsAt_stopped hquiet hcodes hlogs hreached hinvocation hexpected hreaped
        heventful) ?_ heventful
      exact mem_ended hreached hinvocation hexpected heventful
        (congrArg (· ++ [(b.command k).stdout]) hstdout)
        (congrArg (· ++ [(b.command k).stderr]) hstderr) fun log => by simp [Logs, hreaped]
    | continued _ => exact absurd rfl (hstops _)

/-- An execution returns evidence exactly when its behaviour can be recorded. -/
theorem executes_iff [ContentRules] (h : call.Bound ids) (role : FixtureRole)
    (b : FixtureBehaviour) :
    (∃ e, call.executeFixture ids role b = .ok e) ↔ call.Recordable role b := by
  rw [← exists_evidence_iff h role b (P := fun _ => True) fun _ _ => trivial]
  simp only [and_true]

/-- Evidence that is returned is the evidence of some run. -/
lemma evidence_of_executed [ContentRules] (h : call.Bound ids) (c : RecordedCase call ids role)
    {e : QualificationEvidence} (he : call.executeFixture ids role b = .ok e) :
    ∃ run, e = c.evidence run b := by
  obtain ⟨-, run, -, -, hbuild⟩ := (executeFixture_eq_ok h c).mp he
  refine ⟨run, ?_⟩
  simp only [build, normalizeArtifacts, normalizeRestrictedAssets, bind_eq_ok, raiseIf_eq_ok,
    pure_eq_ok, exists_const] at hbuild
  obtain ⟨_, ⟨-, rfl⟩, _, ⟨-, rfl⟩, _, ⟨-, rfl⟩, _, ⟨-, rfl⟩, _, ⟨-, rfl⟩, _, -, rfl⟩ := hbuild
  rfl

end QualificationCall

end EdaGym
